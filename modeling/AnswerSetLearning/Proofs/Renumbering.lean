import AnswerSetLearning.Proofs.Induction.Resolution
import AnswerSetLearning.Proofs.Solver.DefinitePrograms

namespace AnswerSetLearning

open Solver (Engine ModelQuery QueryFault)

/-- A way to register lists of literals: each list becomes the set of the numbers of its literals,
and what was numbered before stays. -/
structure Numbering where
  number : Registry → List (List Literal) → List LitSet × Registry
  wellFormed {r : Registry} (lss) : r.WellFormed → (number r lss).2.WellFormed
  grows {r : Registry} (lss) : r.WellFormed → r.Extends (number r lss).2
  represents {r : Registry} (lss) : r.WellFormed →
    List.Forall₂ (number r lss).2.Represents (number r lss).1 lss

namespace Numbering

def inOrder : Numbering where
  number := Registry.registerSets
  wellFormed lss hr := hr.registerSets lss
  grows lss _ := Registry.registerSets_extends _ lss
  represents lss hr := Registry.represents_registerSets hr lss

/-- The answer of a solver with the literals of its models numbered in another way. -/
def asks (n : Numbering) (E : Engine) (q : ModelQuery) (registry : Registry) :
    Except QueryFault (List LitSet) × Registry :=
  match Solver.program q.rules [q.facts] registry with
  | .error e => (.error (.invalid e), registry)
  | .ok rules =>
    match E.models q.limit rules with
    | .error f => (.error (.solver f), registry)
    | .ok [] => (.error .noModel, registry)
    | .ok models =>
      let (sets, registry) := n.number registry models
      (.ok sets, registry)

theorem asks_inOrder (E : Engine) : inOrder.asks E = E.computeModels := rfl

abbrev computeModels (n : Numbering) := n.asks Engine.builtIn

end Numbering

namespace Registry

theorem Represents.isSubset_iff {r r' : Registry} {s m : LitSet} {ls : List Literal}
    (h : r'.Represents m ls) (hs : s.Normal) (hregisters : r.Registers s)
    (hext : r.Extends r') : s.isSubset m = true ↔ r.denote s ⊆ {l | l ∈ ls} := by
  rw [SortedSet.isSubset_iff hs h.normal]
  constructor
  · rintro hsub l ⟨i, hi, hl⟩
    obtain ⟨l', hl', hi'⟩ := (h.mem_iff i).1 (hsub hi)
    cases (hext hl).symm.trans hi'
    exact hl'
  · intro hsub i hi
    obtain ⟨l, hl⟩ := hregisters i hi
    exact (h.mem_iff i).2 ⟨l, hsub ⟨i, hi, hl⟩, hext hl⟩

end Registry

section Check

variable {t : Task}

def Registry.Serves (t : Task) (r : Registry) : Prop := r.WellFormed ∧ t.registry.Extends r

structure Registry.Agree (t : Task) (r r' : Registry) : Prop where
  left : r.Serves t
  right : r'.Serves t

/-- To the task the set is the list of literals: what the task has numbered is in the one if it is
in the other. -/
def Task.Reads (t : Task) (m : LitSet) (ls : List Literal) : Prop :=
  ∀ u : LitSet, u.Normal → t.registry.Registers u →
    (u.isSubset m = true ↔ t.registry.denote u ⊆ {l | l ∈ ls})

theorem reads_of_represents {r : Registry} (hext : t.registry.Extends r) {ms : List LitSet}
    {lss : List (List Literal)} (h : List.Forall₂ r.Represents ms lss) :
    List.Forall₂ t.Reads ms lss := by
  refine h.imp fun m ls h => ?_
  intro u hu hregisters
  exact h.isSubset_iff hu hregisters hext

theorem reads_registerSets {r : Registry} (hr : r.Serves t) (lss : List (List Literal)) :
    List.Forall₂ t.Reads (r.registerSets lss).1 lss :=
  reads_of_represents (hr.2.trans (Registry.registerSets_extends r lss))
    (Registry.represents_registerSets hr.1 lss)

theorem sameInputs_of_reads (ht : ∀ e ∈ t.examples, e.RegisteredIn t.registry)
    {ms ms' : List LitSet} {lss lss' : List (List Literal)} (hms : List.Forall₂ t.Reads ms lss)
    (hms' : List.Forall₂ t.Reads ms' lss')
    (hlss : List.Forall₂ (fun ls ls' => ∀ l, l ∈ ls' ↔ l ∈ ls) lss lss') :
    List.Forall₂ (SameInputs t) ms ms' := by
  induction hms generalizing ms' lss' with
  | nil =>
    cases hlss
    cases hms'
    exact .nil
  | @cons m ls _ _ hm _ ih =>
    cases hlss with
    | @cons _ ls' _ _ hls hlss =>
      cases hms' with
      | cons hm' hms' =>
        refine .cons (fun e he => ?_) (ih hms' hlss)
        have he := ht e he
        have hset : {l | l ∈ ls'} = {l | l ∈ ls} := Set.ext hls
        rw [Bool.eq_iff_iff, hm e.input he.input he.registers_input,
          hm' e.input he.input he.registers_input, hset]

theorem Numbering.simulates (ht : ∀ e ∈ t.examples, e.RegisteredIn t.registry) (E : Engine)
    (n n' : Numbering) : Simulates t (Registry.Agree t) (n.asks E) (n'.asks E) := by
  intro e he limit r r' h
  have hfacts : ∀ s ∈ [e.input], t.registry.Registers s :=
    List.forall_mem_singleton.2 (ht e he).registers_input
  simp only [Numbering.asks, Solver.program_eq_of_extends hfacts h.left.2,
    Solver.program_eq_of_extends hfacts h.right.2]
  cases Solver.program t.definiteRules [e.input] t.registry with
  | error f => exact ⟨.error _, h⟩
  | ok rules =>
    dsimp only
    cases E.models limit rules with
    | error f => exact ⟨.error _, h⟩
    | ok lss =>
      cases lss with
      | nil => exact ⟨.error _, h⟩
      | cons ls lss =>
        have hnumbered : Registry.Agree t (n.number r (ls :: lss)).2
            (n'.number r' (ls :: lss)).2 :=
          ⟨⟨n.wellFormed _ h.left.1, h.left.2.trans (n.grows _ h.left.1)⟩,
            n'.wellFormed _ h.right.1, h.right.2.trans (n'.grows _ h.right.1)⟩
        have hreads := reads_of_represents hnumbered.left.2 (n.represents _ h.left.1)
        have hreads' := reads_of_represents hnumbered.right.2 (n'.represents _ h.right.1)
        exact ⟨.ok (sameInputs_of_reads ht hreads hreads'
          (List.forall₂_same.2 fun _ _ _ => Iff.rfl)), hnumbered⟩

theorem checkCompatibility_renumbered (ht : ∀ e ∈ t.examples, e.RegisteredIn t.registry)
    (E : Engine) (n n' : Numbering) {r r' : Registry} (h : Registry.Agree t r r') :
    (checkCompatibility (n.asks E) t r).1 = (checkCompatibility (n'.asks E) t r').1 :=
  ((n.simulates ht E n').checkCompatibility h).outcome

variable {E : Engine}

theorem checkWithSolver_error_iff {e : BuildFault} :
    E.checkWithSolver t = .error e ↔
      ∃ f, (checkCompatibility E.computeModels t t.registry).1 = .error f ∧
        .ofCheck f = e := by
  unfold Engine.checkWithSolver
  rcases checkCompatibility E.computeModels t t.registry with ⟨f | ⟨⟨⟩⟩, r⟩ <;> simp

/-- With any solver, a task is checked after its universe has been computed as it would have been
before. -/
theorem checkCompatibility_of_computeUniverse (ht : t.WellFormed) {univ : LitSet}
    {registry : Registry} (huniv : E.computeUniverse t = (.ok univ, registry)) :
    (checkCompatibility E.computeModels t registry).1 =
        (checkCompatibility E.computeModels t t.registry).1 ∧
      (∀ e, E.checkWithSolver { t with registry } = .error e ↔ E.checkWithSolver t = .error e) ∧
      ∀ e, (E.buildTask t).result = .error e ↔ E.checkWithSolver t = .error e := by
  have hagree : Registry.Agree t registry t.registry :=
    ⟨⟨wellFormed_computeUniverse ht.registry huniv, computeUniverse_extends huniv⟩,
      ht.registry, .refl _⟩
  have hsame : (checkCompatibility E.computeModels t registry).1 =
      (checkCompatibility E.computeModels t t.registry).1 := by
    rw [← Numbering.asks_inOrder]
    exact checkCompatibility_renumbered ht.examples E .inOrder .inOrder hagree
  have hsolver (e : BuildFault) :
      E.checkWithSolver { t with registry } = .error e ↔ E.checkWithSolver t = .error e := by
    rw [checkWithSolver_error_iff, checkWithSolver_error_iff]
    exact exists_congr fun f => and_congr_left fun _ => Eq.congr_left hsame
  refine ⟨hsame, hsolver, fun e => ?_⟩
  rw [checkWithSolver_error_iff, ← hsame]
  have hresult := result_of_computeUniverse ht huniv
  generalize checkCompatibility E.computeModels t registry = outcome at hresult ⊢
  rcases outcome with ⟨f | ⟨⟨⟩⟩, grown⟩
  · simp [show (E.buildTask t).result = _ from hresult]
  · obtain ⟨learning, hlearning, -⟩ := hresult
    simp [hlearning]

end Check

/-- The check of a task ends in the same way whatever else is registered before it, and whatever
numbers the atoms of the models get. So it ends after the universe has been computed, where a
learning task is built, as it does on the task that was read. -/
theorem checkCompatibility_independent {text : String} {t : Task} (h : parseTask text = .ok t) :
    (∀ (n n' : Numbering) (r r' : Registry), r.WellFormed → t.registry.Extends r →
      r'.WellFormed → t.registry.Extends r' →
      (checkCompatibility n.computeModels t r).1 = (checkCompatibility n'.computeModels t r').1) ∧
    ∀ univ registry, computeUniverse t = (.ok univ, registry) →
      (checkCompatibility Solver.computeModels t registry).1 =
          (checkCompatibility Solver.computeModels t t.registry).1 ∧
        (∀ e, checkWithSolver { t with registry } = .error e ↔ checkWithSolver t = .error e) ∧
        ∀ e, (buildTask t).result = .error e ↔ checkWithSolver t = .error e := by
  have ht := wellFormed_of_parseTask h
  refine ⟨fun n n' r r' hr hext hr' hext' => ?_, fun univ registry huniv => ?_⟩
  · exact checkCompatibility_renumbered ht.examples _ n n' ⟨⟨hr, hext⟩, hr', hext'⟩
  · exact checkCompatibility_of_computeUniverse ht huniv

def Numbering.backwards : Numbering where
  number r lss := (r.registerAll lss.flatten.reverse).2.registerSets lss
  wellFormed lss hr := (hr.registerAll _).registerSets lss
  grows lss _ := (Registry.registerAll_extends _ _).trans (Registry.registerSets_extends _ lss)
  represents lss hr := Registry.represents_registerSets (hr.registerAll _) lss

def impliedInput : Task where
  registry := ⟨[⟨"a", []⟩, ⟨"b", []⟩]⟩
  background := [⟨some ⟨"b", []⟩, [.atom false ⟨"a", []⟩]⟩,
    ⟨some ⟨"c", []⟩, [.atom false ⟨"a", []⟩]⟩]
  examples := [⟨⟨[2]⟩, [⟨[1, 2]⟩]⟩, ⟨⟨[1]⟩, [⟨[1]⟩]⟩]

theorem impliedInput_independent :
    (checkCompatibility Numbering.backwards.computeModels impliedInput
        ⟨[⟨"a", []⟩, ⟨"b", []⟩, ⟨"d", []⟩]⟩).1 = .error (.conflict ⟨.ii, 0, 1⟩) ∧
      (buildTask impliedInput).result = .error (.conflict ⟨.ii, 0, 1⟩) := by
  have hparse : parseTask "b :- a.\nc :- a.\nI: b\nO: \x7ba b\x7d\nI: a\nO: \x7ba\x7d\n" =
      .ok impliedInput := by cbv
  obtain ⟨hindependent, huniv⟩ := checkCompatibility_independent hparse
  have hcheck : (checkCompatibility Solver.computeModels impliedInput impliedInput.registry).1 =
      .error (.conflict ⟨.ii, 0, 1⟩) := by cbv
  have hgrounded : computeUniverse impliedInput =
      (.ok ⟨[1, 2, 3]⟩, ⟨[⟨"a", []⟩, ⟨"b", []⟩, ⟨"c", []⟩]⟩) := by cbv
  constructor
  · rw [← hcheck]
    exact hindependent .backwards .inOrder _ _ (by decide)
      (Registry.GrowsTo.extends ⟨[⟨"d", []⟩], rfl⟩) (by decide) (.refl _)
  · exact ((huniv _ _ hgrounded).2.2 _).2 (checkWithSolver_error_iff.2 ⟨_, hcheck, rfl⟩)

end AnswerSetLearning
