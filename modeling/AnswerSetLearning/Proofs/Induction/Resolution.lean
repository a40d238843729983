import AnswerSetLearning.Proofs.Growth
import AnswerSetLearning.Proofs.Induction.Pipeline

namespace AnswerSetLearning

open Solver

section Scripts

variable {registry : Registry} {univ : LitSet} {e : Example} {ctx : List Literal}

theorem Script.fault_resolving {is : List Lit} {next : List Literal → Script}
    (h : ∀ i ∈ is, ∃ l, registry.get? i = some l) (hnext : ∀ ls, (next ls).fault = none) :
    (resolving registry is next).fault = none := by
  obtain ⟨ls, hls⟩ := Registry.exists_resolve h
  rw [resolving_of_ok hls]
  exact hnext ls

theorem Script.fault_concat_map {α : Type} {l : List α} {f : α → Script}
    (h : ∀ a ∈ l, (f a).fault = none) : (concat (l.map f)).fault = none :=
  fault_concat.2 (List.forall_mem_map.2 h)

theorem Registry.Registers.diff (h : registry.Registers univ) (s : LitSet) :
    registry.Registers (univ.diff s) := fun i hi =>
  h i ((SortedSet.Merge.run_diff_sublist _ _).subset hi)

theorem Example.RegisteredIn.added (he : e.RegisteredIn registry) :
    registry.Registers e.added := by
  intro i hi
  obtain ⟨⟨s, hs, hi⟩, -⟩ := (Example.mem_added he.toNormal).1 hi
  exact he.registers_outputs s hs i hi

theorem Example.RegisteredIn.leader (he : e.RegisteredIn registry) {g : LitSet × List LitSet}
    (hg : g ∈ groups e.candidates) : registry.Registers (g.1.union e.input) := by
  have hnormal (c) (hc : c ∈ e.candidates) := Example.normal_of_mem_candidates he.toNormal hc
  have ha : g.1 ∈ e.candidates := ((mem_group_iff hnormal hg).1 List.mem_cons_self).1
  intro i hi
  cases SortedSet.mem_union.1 hi with
  | inl hi => exact he.added i ((Example.isSpurious_of_mem_candidates he.toNormal ha).added hi)
  | inr hi => exact he.registers_input i hi

variable (hu : registry.Registers univ)

include hu

theorem fault_acceptOutput {s : LitSet} (hs : registry.Registers s) :
    (acceptOutput registry univ ctx s).fault = none :=
  Script.fault_resolving hs fun _ => Script.fault_resolving (hu.diff s) fun _ => rfl

theorem fault_excludeLiteral {i : Lit} {s : LitSet} (hi : i ∈ univ.diff s) :
    (excludeLiteral registry ctx i).fault = none :=
  Script.fault_resolving (List.forall_mem_singleton.2 (hu.diff s i hi)) fun _ => rfl

theorem fault_trainingScript (he : e.RegisteredIn registry) :
    (trainingScript registry univ e ctx).fault = none := by
  unfold trainingScript
  split
  · rfl
  rw [Script.fault_andThen, Script.fault_andThen]
  refine ⟨?_, ?_, ?_⟩
  · exact Script.fault_concat_map fun s hs => fault_acceptOutput hu (he.registers_outputs s hs)
  · exact Script.fault_concat_map fun i hi => fault_excludeLiteral hu hi
  · exact Script.fault_concat_map fun g hg => (excludeGroup_of_registers hu (he.leader hg)).1

theorem fault_exampleScript (he : e.RegisteredIn registry) :
    (exampleScript registry univ e).fault = none := by
  refine Script.fault_resolving he.registers_input fun ctx => ?_
  rw [Script.fault_andThen]
  exact ⟨fault_trainingScript hu he, Script.fault_resolving he.added fun _ => rfl⟩

theorem fault_taskScript {t : Task} (hr : t.registry = registry)
    (ht : ∀ e ∈ t.examples, e.RegisteredIn registry) : (taskScript t univ).fault = none := by
  subst hr
  rw [taskScript, Script.fault_andThen]
  exact ⟨rfl, Script.fault_concat_map fun e he => fault_exampleScript hu (ht e he)⟩

end Scripts

namespace Builder

theorem background_pushAll (b : Builder) (ps : List Push) :
    (b.pushAll ps).background =
      b.background ++ ps.filterMap fun | .background r => some r | _ => none := by
  induction ps generalizing b with
  | nil => simp [pushAll]
  | cons p ps ih =>
    rw [pushAll, List.foldl_cons, ← pushAll, ih]
    cases p <;> simp [push]

end Builder

section Build

variable {E : Engine} {t : Task} {learning : LearningTask} {registry : Registry} {univ : LitSet}

theorem not_background_mem_exampleScript {e : Example} {r : Rule} :
    .background r ∉ (exampleScript registry univ e).pushes := by
  intro h
  obtain ⟨ctx, -, h⟩ := pushes_of_mem h
  cases h

theorem background_of_synthesize (h : synthesize t univ = .ok learning) :
    learning.background = t.background := by
  obtain ⟨hfault, rfl⟩ := taskScript_of_synthesize h
  rw [taskScript, Script.fault_andThen] at hfault
  rw [Builder.build, Builder.background_pushAll, taskScript, Script.andThen_of_ok hfault.1,
    List.filterMap_append]
  have hrest : (Script.concat (t.examples.map (exampleScript t.registry univ))).pushes.filterMap
      (fun | .background r => some r | _ => none) = ([] : List Rule) := by
    rw [List.filterMap_eq_nil_iff]
    intro p hp
    obtain ⟨s, hs, hp⟩ := Script.mem_concat hp
    obtain ⟨e, -, rfl⟩ := List.mem_map.1 hs
    cases p with
    | background r => exact absurd hp not_background_mem_exampleScript
    | _ => rfl
  rw [hrest]
  simp [Script.of, Builder.empty, List.filterMap_map]

theorem resolve_of_mem_positives {grown : Registry} (ht : t.NumberedBy t.registry)
    (hgrown : t.registry.GrowsTo grown)
    (h : synthesize { t with registry := grown } univ = .ok learning) {p : TrainingExample}
    (hp : p ∈ learning.positives) :
    ∃ e ∈ t.examples, ∃ s ∈ e.outputs, t.registry.resolve e.input.items = .ok p.ctx ∧
      t.registry.resolve s.items = .ok p.incl := by
  obtain ⟨e, he, s, hs, ctx, hctx, hp⟩ := (mem_positives_iff h).1 hp
  have haccepts := positive_mem_acceptOutput_iff.1 hp
  have hsame {u : LitSet} {ls : List Literal} (hu : t.registry.Numbers u)
      (hls : grown.resolve u.items = .ok ls) : t.registry.resolve u.items = .ok ls := by
    obtain ⟨ms, hms⟩ := Registry.exists_resolve (Registry.numbers_iff_registers.1 hu)
    cases (Registry.resolve_of_extends hms hgrown.extends).symm.trans hls
    exact hms
  exact ⟨e, he, s, hs, haccepts.ctx ▸ hsame (ht e he).1 hctx,
    hsame ((ht e he).2 s hs) haccepts.incl⟩

theorem result_of_computeUniverse (ht : t.WellFormed)
    (h : E.computeUniverse t = (.ok univ, registry)) :
    match checkCompatibility E.computeModels t registry with
    | (.error e, _) => (E.buildTask t).result = .error (.ofCheck e)
    | (.ok (), grown) => ∃ learning, (E.buildTask t).result = .ok learning ∧
        synthesize { t with registry := grown } univ = .ok learning := by
  obtain ⟨-, hgrown⟩ := checkCompatibility_invariant
    (computeModels_invariant (E := E) (t := { t with registry })) t
    ⟨wellFormed_computeUniverse ht.registry h, .refl registry⟩
  rcases hcheck : checkCompatibility E.computeModels t registry with ⟨e | ⟨⟨⟩⟩, grown⟩
  · have hchecks : E.checkWithSolver { t with registry } = .error (.ofCheck e) := by
      rw [Engine.checkWithSolver]
      exact hcheck ▸ rfl
    simp only [Engine.buildTask, h, hchecks]
  · have hchecks : E.checkWithSolver { t with registry } = .ok grown := by
      rw [Engine.checkWithSolver]
      exact hcheck ▸ rfl
    rw [hcheck] at hgrown
    have hfault : (taskScript { t with registry := grown } univ).fault = none :=
      fault_taskScript ((registers_computeUniverse ht.registry h).mono hgrown) rfl fun e he =>
        (ht.examples e he).mono ((computeUniverse_extends h).trans hgrown)
    refine ⟨_, ?_, synthesize_of_fault hfault⟩
    simp only [Engine.buildTask, h, hchecks, synthesize_of_fault hfault]

theorem result_ne_invalid (ht : t.WellFormed) (e : InvalidLiteral) :
    (E.buildTask t).result ≠ .error (.query (.invalid e)) := by
  rcases huniv : E.computeUniverse t with ⟨f | univ, registry⟩
  · have hne := computeUniverse_ne_invalid (E := E) ht e
    rw [huniv] at hne
    simpa [Engine.buildTask, huniv] using hne
  · have hgrows : t.registry.GrowsTo registry := by
      simpa [huniv] using growsTo_computeUniverse (E := E) t
    have hne := checkCompatibility_ne_invalid (E := E) (t := { t with registry })
      (ht.numberedBy.mono hgrows) e
    have hresult := result_of_computeUniverse ht huniv
    split at hresult
    · next f _ hf =>
      have hne : (checkCompatibility E.computeModels t registry).1 ≠ _ := hne
      rw [hf] at hne
      rw [hresult]
      cases f with
      | conflict c => simp [BuildFault.ofCheck]
      | solver f => simpa [BuildFault.ofCheck] using hne
    · obtain ⟨learning, hresult, -⟩ := hresult
      simp [hresult]

end Build

/-- A build of a text never fails by a number without a literal. The registry grows at its end
from scenario to scenario and from question to question, every number that the examples, the
models and the universe hold is given out by then, and the statistics pass over none; the
background and the literals of the examples are those of the text. -/
theorem buildTask_resolves {text : String} {t : Task} (h : parseTask text = .ok t) :
    (∀ e, (buildTask t).result ≠ .error (.query (.invalid e))) ∧
    t.NumberedBy t.registry ∧
    (∀ done rest, t.scenarios = done ++ rest →
      let grounded := derivedFrom t.background done t.registry
      t.registry.GrowsTo grounded.2 ∧ grounded.2.GrowsTo (computeUniverse t).2 ∧
        (∀ e, grounded.1 ≠ .error (.invalid e)) ∧
        ∀ lits, grounded.1 = .ok lits → grounded.2.Numbers (.ofList lits)) ∧
    ∀ univ registry, computeUniverse t = (.ok univ, registry) →
      registry.Numbers univ ∧
      (buildTask t).stats =
        some ⟨univ.size, Set.ncard (Literal.predicate '' registry.denote univ)⟩ ∧
      let check := recordedCheck { t with registry }
      checkCompatibility computeModels t registry = (check.1, check.2.registry) ∧
        check.2.Sound { t with registry } ∧
        match check.1 with
        | .error e => (buildTask t).result = .error (.ofCheck e)
        | .ok () => ∃ learning, (buildTask t).result = .ok learning ∧
            synthesize { t with registry := check.2.registry } univ = .ok learning ∧
            learning.background = t.background ∧
            ∀ p ∈ learning.positives, ∃ e ∈ t.examples, ∃ s ∈ e.outputs,
              t.registry.resolve e.input.items = .ok p.ctx ∧
                t.registry.resolve s.items = .ok p.incl := by
  have ht := wellFormed_of_parseTask h
  have hscenarios := numbers_scenarios ht
  refine ⟨result_ne_invalid ht, ht.numberedBy, fun done rest hdone => ?_,
    fun univ registry huniv => ?_⟩
  · rw [hdone] at hscenarios
    refine ⟨growsTo_derivedFrom _ _ _, ?_, derivedFrom_ne_invalid _ fun p hp =>
      hscenarios p (List.mem_append_left rest hp), fun lits hlits i hi => ?_⟩
    · rw [snd_computeUniverse, hdone]
      exact growsTo_derivedFrom_append _ _ _ _
    · exact Registry.exists_get?_iff.1
        (registers_derivedFrom ht.registry (Prod.ext hlits rfl) i (SortedSet.mem_ofList.1 hi))
  · have hgrows : t.registry.GrowsTo registry := by
      simpa [huniv] using growsTo_computeUniverse (E := Engine.builtIn) t
    have hsound := sound_recordedCheck (t := { t with registry })
      (wellFormed_computeUniverse ht.registry huniv) (ht.numberedBy.mono hgrows)
    have hnumbers := numbers_computeUniverse ht huniv
    have hcheck : checkCompatibility computeModels t registry = _ :=
      recordedCheck_eq { t with registry }
    refine ⟨hnumbers, ?_, hcheck, hsound, ?_⟩
    · rw [← universeStats_eq hnumbers]
      simp [Engine.buildTask, huniv]
    · have hresult := result_of_computeUniverse ht huniv
      rw [hcheck] at hresult
      cases hend : (recordedCheck { t with registry }).1 with
      | error e =>
        rw [hend] at hresult
        exact hresult
      | ok _ =>
        rw [hend] at hresult
        obtain ⟨learning, hlearning, hsynthesizes⟩ := hresult
        have hbackground := background_of_synthesize hsynthesizes
        exact ⟨learning, hlearning, hsynthesizes, hbackground,
          fun p hp => resolve_of_mem_positives ht.numberedBy (hgrows.trans hsound.grows)
            hsynthesizes hp⟩

def derivedLetter : Task where
  registry := ⟨[⟨"a", []⟩, ⟨"b", []⟩]⟩
  background := [⟨some ⟨"c", []⟩, [.atom false ⟨"b", []⟩]⟩]
  examples := [⟨⟨[1]⟩, [⟨[1, 2]⟩]⟩, ⟨⟨[2]⟩, [⟨[2]⟩]⟩]

def groundedLetter : Task :=
  { derivedLetter with registry := ⟨[⟨"a", []⟩, ⟨"b", []⟩, ⟨"c", []⟩]⟩ }

theorem derivedLetter_resolves :
    (∀ e, (buildTask derivedLetter).result ≠ .error (.query (.invalid e))) ∧
      groundedLetter.registry.Numbers ⟨[1, 2, 3]⟩ ∧
      (buildTask derivedLetter).stats = some ⟨3, Set.ncard
        (Literal.predicate '' groundedLetter.registry.denote ⟨[1, 2, 3]⟩)⟩ ∧
      (recordedCheck groundedLetter).2.Sound groundedLetter ∧
      (recordedCheck groundedLetter).2.questions.length = 2 := by
  have hparse : parseTask "c :- b.\nI: a\nO: \x7ba b\x7d\nI: b\nO: \x7bb\x7d\n" =
      .ok derivedLetter := by cbv
  have huniv : computeUniverse derivedLetter = (.ok ⟨[1, 2, 3]⟩, groundedLetter.registry) := by
    cbv
  obtain ⟨hinvalid, -, -, hstages⟩ := buildTask_resolves hparse
  obtain ⟨hnumbers, hstats, -, hsound, -⟩ := hstages _ _ huniv
  exact ⟨hinvalid, hnumbers, hstats, hsound, by cbv⟩

end AnswerSetLearning
