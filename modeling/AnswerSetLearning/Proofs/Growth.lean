import AnswerSetLearning.Proofs.Induction.Universe
import AnswerSetLearning.Proofs.Registration
import AnswerSetLearning.Proofs.Simulation
import Mathlib.Data.Set.Card

namespace AnswerSetLearning

open Solver

def Task.NumberedBy (t : Task) (r : Registry) : Prop :=
  ∀ e ∈ t.examples, r.Numbers e.input ∧ ∀ s ∈ e.outputs, r.Numbers s

theorem Task.NumberedBy.mono {t : Task} {r r' : Registry} (h : t.NumberedBy r)
    (hr : r.GrowsTo r') : t.NumberedBy r' := fun e he =>
  ⟨(h e he).1.mono hr, fun s hs => ((h e he).2 s hs).mono hr⟩

theorem Task.WellFormed.numberedBy {t : Task} (ht : t.WellFormed) : t.NumberedBy t.registry :=
  fun e he => ⟨Registry.numbers_iff_registers.2 (ht.examples e he).registers_input,
    fun s hs => Registry.numbers_iff_registers.2 ((ht.examples e he).registers_outputs s hs)⟩

section Queries

variable {E : Engine} {registry : Registry}

theorem groundFacts_ne_invalid (rules : List Rule) {a b : LitSet} (ha : registry.Numbers a)
    (hb : registry.Numbers b) (e : InvalidLiteral) :
    E.groundFacts rules a b registry ≠ .error (.invalid e) := by
  have hfacts : ∀ s ∈ [a, b], registry.Registers s := by
    simpa using ⟨Registry.numbers_iff_registers.1 ha, Registry.numbers_iff_registers.1 hb⟩
  obtain ⟨rules', hprogram⟩ := exists_program rules hfacts
  rw [Engine.groundFacts, hprogram]
  cases h : E.facts rules' <;> simp [h, Except.mapError]

theorem growsTo_computeModels (q : ModelQuery) (registry : Registry) :
    registry.GrowsTo (E.computeModels q registry).2 := by
  obtain ⟨f, heq⟩ | ⟨rules, ls, lss, -, -, heq⟩ := E.computeModels_cases q registry
  · rw [heq]
  · rw [heq]
    exact Registry.growsTo_registerSets _ _

theorem computeModels_ne_invalid {q : ModelQuery} (h : registry.Numbers q.facts)
    (e : InvalidLiteral) : (E.computeModels q registry).1 ≠ .error (.invalid e) := by
  obtain ⟨rules, hprogram⟩ := exists_program q.rules
    (List.forall_mem_singleton.2 (Registry.numbers_iff_registers.1 h))
  rw [Engine.computeModels, hprogram]
  dsimp only
  split <;> simp

theorem numbers_computeModels (hr : registry.WellFormed) {q : ModelQuery} {models : List LitSet}
    (h : (E.computeModels q registry).1 = .ok models) :
    ∀ m ∈ models, (E.computeModels q registry).2.Numbers m := by
  obtain ⟨f, heq⟩ | ⟨rules, ls, lss, -, -, heq⟩ := E.computeModels_cases q registry
  · rw [heq] at h
    cases h
  · rw [heq] at h ⊢
    cases h
    intro m hm
    exact Registry.numbers_iff_registers.2 (Registry.registers_registerSets hr _ m hm).2

end Queries

section Derivation

variable {E : Engine} {rules : List Rule} {scenarios : List (LitSet × LitSet)} {registry : Registry}

theorem snd_derivedFrom_cons (p : LitSet × LitSet) :
    (E.derivedFrom rules (p :: scenarios) registry).2 =
      match E.groundFacts rules p.1 p.2 registry with
      | .error _ => registry
      | .ok literals => (E.derivedFrom rules scenarios (registry.registerAll literals).2).2 := by
  rw [Engine.derivedFrom]
  cases E.groundFacts rules p.1 p.2 registry with
  | error e => rfl
  | ok literals =>
    dsimp only
    split <;> next h => rw [h]

theorem growsTo_derivedFrom (rules : List Rule) (scenarios : List (LitSet × LitSet))
    (registry : Registry) : registry.GrowsTo (E.derivedFrom rules scenarios registry).2 := by
  induction scenarios generalizing registry with
  | nil => exact .refl registry
  | cons p scenarios ih =>
    rw [snd_derivedFrom_cons]
    split
    · exact .refl registry
    · exact (Registry.growsTo_registerAll registry _).trans (ih _)

theorem growsTo_derivedFrom_append (rules : List Rule) (scenarios more : List (LitSet × LitSet))
    (registry : Registry) :
    (E.derivedFrom rules scenarios registry).2.GrowsTo
      (E.derivedFrom rules (scenarios ++ more) registry).2 := by
  induction scenarios generalizing registry with
  | nil => exact growsTo_derivedFrom rules more registry
  | cons p scenarios ih =>
    rw [List.cons_append, snd_derivedFrom_cons, snd_derivedFrom_cons]
    split
    · exact .refl registry
    · exact ih _

theorem derivedFrom_ne_invalid (rules : List Rule)
    (h : ∀ p ∈ scenarios, registry.Numbers p.1 ∧ registry.Numbers p.2) (e : InvalidLiteral) :
    (E.derivedFrom rules scenarios registry).1 ≠ .error (.invalid e) := by
  induction scenarios generalizing registry with
  | nil => simp [Engine.derivedFrom]
  | cons p scenarios ih =>
    obtain ⟨hinput, houtput⟩ := h p List.mem_cons_self
    rw [Engine.derivedFrom]
    split
    · next f hf =>
      have hne := groundFacts_ne_invalid (E := E) rules hinput houtput e
      rw [hf] at hne
      simpa using hne
    · next literals _ =>
      have hgrows := Registry.growsTo_registerAll registry literals
      have hrest := ih fun q hq =>
        have hq := h q (List.mem_cons_of_mem p hq)
        ⟨hq.1.mono hgrows, hq.2.mono hgrows⟩
      dsimp only
      split
      · simp
      · next h => rwa [h] at hrest

variable {t : Task} {univ : LitSet}

theorem snd_computeUniverse (t : Task) :
    (E.computeUniverse t).2 = (E.derivedFrom t.background t.scenarios t.registry).2 := by
  unfold Engine.computeUniverse
  split <;> next h => rw [h]

theorem numbers_scenarios (ht : t.WellFormed) :
    ∀ p ∈ t.scenarios, t.registry.Numbers p.1 ∧ t.registry.Numbers p.2 := by
  intro p hp
  obtain ⟨e, he, hp⟩ := List.mem_flatMap.1 hp
  obtain ⟨o, ho, rfl⟩ := List.mem_map.1 hp
  exact ⟨(ht.numberedBy e he).1, (ht.numberedBy e he).2 o ho⟩

theorem computeUniverse_ne_invalid (ht : t.WellFormed) (e : InvalidLiteral) :
    (E.computeUniverse t).1 ≠ .error (.invalid e) := by
  have hne := derivedFrom_ne_invalid (E := E) t.background (numbers_scenarios ht) e
  unfold Engine.computeUniverse
  split
  · simp
  · next h =>
    rw [h] at hne
    simpa using hne

theorem growsTo_computeUniverse (t : Task) : t.registry.GrowsTo (E.computeUniverse t).2 := by
  rw [snd_computeUniverse]
  exact growsTo_derivedFrom _ _ _

theorem numbers_computeUniverse (ht : t.WellFormed)
    (h : E.computeUniverse t = (.ok univ, registry)) : registry.Numbers univ :=
  Registry.numbers_iff_registers.2 (registers_computeUniverse ht.registry h)

theorem length_firstOccurrences {α : Type} [DecidableEq α] (l : List α) :
    (SortedSet.firstOccurrences l).length = Set.ncard {a | a ∈ l} := by
  have hset : {a | a ∈ l} = ((SortedSet.firstOccurrences l).toFinset : Set α) := by
    ext a
    simp
  rw [hset, Set.ncard_coe_finset, List.toFinset_card_of_nodup (SortedSet.nodup_firstOccurrences l)]

theorem universeStats_eq (h : registry.Numbers univ) :
    universeStats univ registry =
      ⟨univ.size, Set.ncard (Literal.predicate '' registry.denote univ)⟩ := by
  obtain ⟨ls, hls⟩ := Registry.exists_resolve (Registry.numbers_iff_registers.1 h)
  have hget := Registry.resolve_eq_ok_iff.1 hls
  have hmany : registry.getMany univ.items = ls := by
    have hfilter := congrArg (List.filterMap id) hget
    simpa [List.filterMap_map, Registry.getMany] using hfilter
  have hsize : ls.length = univ.size := by
    simpa [SortedSet.size] using (congrArg List.length hget).symm
  have hpredicates : {p | p ∈ ls.map Literal.predicate} =
      Literal.predicate '' registry.denote univ := by
    ext p
    simp [Registry.mem_of_resolve hls]
  simp only [universeStats, hmany, length_firstOccurrences, hpredicates, hsize]

end Derivation

structure Question where
  query : ModelQuery
  before : Registry
  answer : Except QueryFault (List LitSet)
  after : Registry

structure Recording where
  registry : Registry
  questions : List Question

def askRecorded (q : ModelQuery) (s : Recording) : Except QueryFault (List LitSet) × Recording :=
  let (answer, registry) := computeModels q s.registry
  (answer, ⟨registry, s.questions ++ [⟨q, s.registry, answer, registry⟩]⟩)

def recordedCheck (t : Task) : Except (CheckFault QueryFault) Unit × Recording :=
  checkCompatibility askRecorded t ⟨t.registry, []⟩

theorem recordedCheck_eq (t : Task) :
    checkCompatibility computeModels t t.registry =
      ((recordedCheck t).1, (recordedCheck t).2.registry) := by
  have hask : Simulates t (fun s r => s.registry = r) askRecorded computeModels := by
    rintro e he limit s _ rfl
    refine ⟨?_, rfl⟩
    simp only [askRecorded]
    cases (computeModels ⟨t.definiteRules, e.input, limit⟩ s.registry).1 with
    | error f => exact .error f
    | ok ms => exact .ok (List.forall₂_same.2 fun _ _ _ _ => rfl)
  obtain ⟨houtcome, hstate⟩ := hask.checkCompatibility (s := ⟨t.registry, []⟩) rfl
  exact Prod.ext houtcome.symm hstate.symm

/-- What a question of the check of `t` is like: it asks what follows from an input of `t`, and all
the numbers that it is about are given out. -/
structure Question.Resolves (t : Task) (q : Question) : Prop where
  rules : q.query.rules = t.definiteRules
  facts : ∃ e ∈ t.examples, q.query.facts = e.input
  answered : computeModels q.query q.before = (q.answer, q.after)
  grows : q.before.GrowsTo q.after
  examples : t.NumberedBy q.before
  ne_invalid : ∀ e, q.answer ≠ .error (.invalid e)
  models : ∀ ms, q.answer = .ok ms → ∀ m ∈ ms, q.after.Numbers m

/-- The questions follow one another, and the registry grows from each to the next. -/
structure Recording.Sound (t : Task) (s : Recording) : Prop where
  wellFormed : s.registry.WellFormed
  grows : t.registry.GrowsTo s.registry
  resolves : ∀ q ∈ s.questions, q.Resolves t
  starts : ∀ q ∈ s.questions, t.registry.GrowsTo q.before
  follows : s.questions.Pairwise fun q q' => q.after.GrowsTo q'.before
  ends : ∀ q ∈ s.questions, q.after.GrowsTo s.registry

theorem Recording.Sound.ask {t : Task} (ht : t.NumberedBy t.registry) {s : Recording}
    (hs : s.Sound t) {e : Example} (he : e ∈ t.examples) (limit : Nat) :
    (askRecorded ⟨t.definiteRules, e.input, limit⟩ s).2.Sound t := by
  have hgrows : s.registry.GrowsTo (computeModels ⟨t.definiteRules, e.input, limit⟩ s.registry).2 :=
    growsTo_computeModels _ _
  have hnumbers := ht.mono hs.grows
  refine ⟨Engine.wellFormed_computeModels hs.wellFormed, hs.grows.trans hgrows, ?_, ?_, ?_, ?_⟩
  · refine List.forall_mem_append.2 ⟨hs.resolves, List.forall_mem_singleton.2 ?_⟩
    exact ⟨rfl, ⟨e, he, rfl⟩, rfl, hgrows, hnumbers,
      computeModels_ne_invalid (hnumbers e he).1, fun _ => numbers_computeModels hs.wellFormed⟩
  · exact List.forall_mem_append.2 ⟨hs.starts, List.forall_mem_singleton.2 hs.grows⟩
  · exact List.pairwise_append.2 ⟨hs.follows, List.pairwise_singleton _ _, fun q hq q' hq' =>
      List.mem_singleton.1 hq' ▸ hs.ends q hq⟩
  · exact List.forall_mem_append.2 ⟨fun q hq => (hs.ends q hq).trans hgrows,
      List.forall_mem_singleton.2 (.refl _)⟩

theorem sound_recordedCheck {t : Task} (hr : t.registry.WellFormed)
    (ht : t.NumberedBy t.registry) : (recordedCheck t).2.Sound t :=
  checkCompatibility_invariant_of_inputs (fun _ he limit _ hs => hs.ask ht he limit)
    ⟨hr, .refl _, by simp, by simp, .nil, by simp⟩

theorem checkCompatibility_ne_invalid {E : Engine} {t : Task} (ht : t.NumberedBy t.registry)
    (e : InvalidLiteral) :
    (checkCompatibility E.computeModels t t.registry).1 ≠ .error (.solver (.invalid e)) := by
  intro h
  obtain ⟨ex, he, limit, r, hr, herror⟩ := exists_question_of_checkCompatibility
    (P := fun r => t.registry.GrowsTo r)
    (fun ex _ limit r hr => hr.trans (growsTo_computeModels _ r)) (.refl _) h
  exact computeModels_ne_invalid ((ht ex he).1.mono hr) e herror

end AnswerSetLearning
