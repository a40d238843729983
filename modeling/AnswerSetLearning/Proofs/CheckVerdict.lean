import AnswerSetLearning.Proofs.Checkpoints

namespace AnswerSetLearning

open Solver (ModelQuery)

namespace Checkpoint

section Containment

variable (contains : LitSet → LitSet → Prop)

/-- Some output of the later example contains the input of the earlier one, and is strictly
contained in the output or strictly contains it. -/
def Comparable (c : Checkpoint) : Prop :=
  ∃ s₂ ∈ c.e₂.outputs, contains c.e₁.input s₂ ∧
    (contains s₂ c.output ∧ ¬ contains c.output s₂ ∨
      contains c.output s₂ ∧ ¬ contains s₂ c.output)

variable {σ ε : Type} (ask : ModelQuery → σ → Except ε (List LitSet) × σ) (definite : List Rule)

/-- How the look at one output ends, after which questions and in which state. -/
inductive Ends (c : Checkpoint) :
    σ → List ModelQuery → Except (CheckFault ε) Unit → σ → Prop
  | inclusion {s} : c.Comparable contains → Ends c s [] (.error (.conflict (c.conflict .i))) s
  | firstFault {s e s'} : ¬ c.Comparable contains →
      ask (c.query definite 1) s = (.error e, s') →
      Ends c s [c.query definite 1] (.error (.solver e)) s'
  | leastModel {s m ms s'} : ¬ c.Comparable contains →
      ask (c.query definite 1) s = (.ok (m :: ms), s') → contains c.e₁.input m →
      Ends c s [c.query definite 1] (.error (.conflict (c.conflict .ii))) s'
  | secondFault {s m ms s' e s''} : ¬ c.Comparable contains →
      ask (c.query definite 1) s = (.ok (m :: ms), s') → ¬ contains c.e₁.input m →
      ask (c.query definite 0) s' = (.error e, s'') →
      Ends c s [c.query definite 1, c.query definite 0] (.error (.solver e)) s''
  | someModel {s m ms s' models s''} : ¬ c.Comparable contains →
      ask (c.query definite 1) s = (.ok (m :: ms), s') → ¬ contains c.e₁.input m →
      ask (c.query definite 0) s' = (.ok models, s'') → (∃ m ∈ models, contains c.e₁.input m) →
      Ends c s [c.query definite 1, c.query definite 0]
        (.error (.conflict (c.conflict .iii))) s''
  | passes {s m ms s' models s''} : ¬ c.Comparable contains →
      ask (c.query definite 1) s = (.ok (m :: ms), s') → ¬ contains c.e₁.input m →
      ask (c.query definite 0) s' = (.ok models, s'') →
      (¬ ∃ m ∈ models, contains c.e₁.input m) →
      Ends c s [c.query definite 1, c.query definite 0] (.ok ()) s''

inductive AllPass : List Checkpoint → σ → List ModelQuery → σ → Prop
  | nil {s} : AllPass [] s [] s
  | cons {c cs s calls s' calls' s''} : c.Ends contains ask definite s calls (.ok ()) s' →
      AllPass cs s' calls' s'' → AllPass (c :: cs) s (calls ++ calls') s''

inductive FirstFailure (cs : List Checkpoint) :
    σ → List ModelQuery → Except (CheckFault ε) Unit → σ → Prop
  | none {s calls s'} : AllPass contains ask definite cs s calls s' →
      FirstFailure cs s calls (.ok ()) s'
  | some {before c after s calls s' calls' e s''} : cs = before ++ c :: after →
      AllPass contains ask definite before s calls s' →
      c.Ends contains ask definite s' calls' (.error e) s'' →
      FirstFailure cs s (calls ++ calls') (.error e) s''

variable {contains ask definite}

theorem FirstFailure.cons {c : Checkpoint} {cs : List Checkpoint} {s s' s'' : σ}
    {calls calls' : List ModelQuery} {r : Except (CheckFault ε) Unit}
    (hc : c.Ends contains ask definite s calls (.ok ()) s')
    (h : FirstFailure contains ask definite cs s' calls' r s'') :
    FirstFailure contains ask definite (c :: cs) s (calls ++ calls') r s'' := by
  cases h with
  | none h => exact .none (.cons hc h)
  | some hcs h hfails =>
    rw [← List.append_assoc]
    exact .some (by rw [hcs, List.cons_append]) (.cons hc h) hfails

end Containment

end Checkpoint

/-- The task is checked from the state `s` by the questions `calls`, with the outcome `r` and in
the state `s'` at the end. -/
def Task.Verdict {σ ε : Type} (contains : LitSet → LitSet → Prop)
    (ask : ModelQuery → σ → Except ε (List LitSet) × σ) (t : Task) (s : σ)
    (calls : List ModelQuery) (r : Except (CheckFault ε) Unit) (s' : σ) : Prop :=
  ∃ cs : List Checkpoint, (∀ c, c ∈ cs ↔ c.Arises contains t) ∧ cs.Pairwise Checkpoint.Before ∧
    Checkpoint.FirstFailure contains ask t.definiteRules cs s calls r s'

/-- The solver that also keeps what it was asked. -/
def recording {σ ε : Type} (ask : ModelQuery → σ → Except ε (List LitSet) × σ) (q : ModelQuery)
    (s : σ × List ModelQuery) : Except ε (List LitSet) × (σ × List ModelQuery) :=
  ((ask q s.1).1, (ask q s.1).2, s.2 ++ [q])

theorem Checkpoint.check_recording {σ ε : Type}
    (ask : ModelQuery → σ → Except ε (List LitSet) × σ) {definite : List Rule} {c : Checkpoint}
    (hsub : c.e₂.input.isSubset c.output = true) (s : σ) (calls : List ModelQuery) :
    c.check (recording ask) definite (s, calls) =
      if violatesInclusion c.e₁ c.e₂ c.output then (.error (.conflict (c.conflict .i)), s, calls)
      else
        match ask (c.query definite 1) s with
        | (.error e, s') => (.error (.solver e), s', calls ++ [c.query definite 1])
        | (.ok models, s') =>
          if models.head?.any c.e₁.input.isSubset then
            (.error (.conflict (c.conflict .ii)), s', calls ++ [c.query definite 1])
          else
            match ask (c.query definite 0) s' with
            | (.error e, s'') =>
              (.error (.solver e), s'', calls ++ [c.query definite 1, c.query definite 0])
            | (.ok models, s'') =>
              if models.any c.e₁.input.isSubset then
                (.error (.conflict (c.conflict .iii)), s'',
                  calls ++ [c.query definite 1, c.query definite 0])
              else (.ok (), s'', calls ++ [c.query definite 1, c.query definite 0]) := by
  rw [check, checkOutput, if_neg (by simp [hsub])]
  split
  · rfl
  simp only [recording, query]
  rcases ask ⟨definite, c.e₂.input, 1⟩ s with ⟨e | models, s'⟩
  · rfl
  dsimp only
  split
  · rfl
  rcases ask ⟨definite, c.e₂.input, 0⟩ s' with ⟨e | models, s''⟩ <;> simp

/-! ## There is always a verdict -/

namespace Checkpoint

section Total

variable {σ ε : Type} (contains : LitSet → LitSet → Prop)
  {ask : ModelQuery → σ → Except ε (List LitSet) × σ} (definite : List Rule)
  (hask : ∀ q s models, (ask q s).1 = .ok models → models ≠ [])

include hask

theorem exists_ends (c : Checkpoint) (s : σ) :
    ∃ calls r s', c.Ends contains ask definite s calls r s' := by
  by_cases hcomparable : c.Comparable contains
  · exact ⟨_, _, _, .inclusion hcomparable⟩
  rcases hfirst : ask (c.query definite 1) s with ⟨e | models, s'⟩
  · exact ⟨_, _, _, .firstFault hcomparable hfirst⟩
  obtain ⟨m, ms, rfl⟩ := List.exists_cons_of_ne_nil (hask _ _ _ (congrArg Prod.fst hfirst))
  by_cases hin : contains c.e₁.input m
  · exact ⟨_, _, _, .leastModel hcomparable hfirst hin⟩
  rcases hall : ask (c.query definite 0) s' with ⟨e | models, s''⟩
  · exact ⟨_, _, _, .secondFault hcomparable hfirst hin hall⟩
  by_cases hsome : ∃ m ∈ models, contains c.e₁.input m
  · exact ⟨_, _, _, .someModel hcomparable hfirst hin hall hsome⟩
  · exact ⟨_, _, _, .passes hcomparable hfirst hin hall hsome⟩

theorem exists_firstFailure (cs : List Checkpoint) (s : σ) :
    ∃ calls r s', FirstFailure contains ask definite cs s calls r s' := by
  induction cs generalizing s with
  | nil => exact ⟨_, _, _, .none .nil⟩
  | cons c cs ih =>
    obtain ⟨calls, r, s', hc⟩ := exists_ends contains definite hask c s
    cases r with
    | error e => exact ⟨_, _, _, .some (by rfl) .nil hc⟩
    | ok _ =>
      obtain ⟨calls', r, s'', hcs⟩ := ih s'
      exact ⟨_, _, _, hcs.cons hc⟩

end Total

end Checkpoint

/-! ## The run ends as the verdict says -/

structure Example.All (P : LitSet → Prop) (e : Example) : Prop where
  input : P e.input
  outputs : ∀ s ∈ e.outputs, P s

structure Checkpoint.Fits (P : LitSet → Prop) (c : Checkpoint) : Prop where
  all₁ : c.e₁.All P
  all₂ : c.e₂.All P
  mem : c.output ∈ c.e₁.outputs
  isSubset : c.e₂.input.isSubset c.output = true

theorem fits_of_mem_checkpoints {P : LitSet → Prop} {t : Task}
    (ht : ∀ e ∈ t.examples, e.All P) {c : Checkpoint} (hc : c ∈ t.checkpoints) : c.Fits P where
  all₁ := ht _ (List.mem_of_getElem? (Task.mem_checkpoints.1 hc).example₁)
  all₂ := ht _ (List.mem_of_getElem? (Task.mem_checkpoints.1 hc).example₂)
  mem := (Task.mem_checkpoints.1 hc).mem
  isSubset := (Task.mem_checkpoints.1 hc).contains

/-- The solver answers with some model, and all its models have the property. -/
def AnswersWith {σ ε : Type} (P : LitSet → Prop)
    (ask : ModelQuery → σ → Except ε (List LitSet) × σ) : Prop :=
  ∀ q s models, (ask q s).1 = .ok models → models ≠ [] ∧ ∀ m ∈ models, P m

section Verdict

variable {σ ε : Type} {contains : LitSet → LitSet → Prop} {P : LitSet → Prop}
  {ask : ModelQuery → σ → Except ε (List LitSet) × σ} {definite : List Rule}
  (hcontains : ∀ a b : LitSet, P a → P b → (a.isSubset b = true ↔ contains a b))

include hcontains

theorem any_isSubset_iff {a : LitSet} (ha : P a) {models : List LitSet}
    (hmodels : ∀ m ∈ models, P m) :
    models.any a.isSubset = true ↔ ∃ m ∈ models, contains a m := by
  rw [List.any_eq_true]
  exact exists_congr fun m => and_congr_right fun hm => hcontains a m ha (hmodels m hm)

namespace Checkpoint

variable {c : Checkpoint}

theorem violatesInclusion_iff_comparable (hc : c.Fits P) :
    violatesInclusion c.e₁ c.e₂ c.output = true ↔ c.Comparable contains := by
  simp only [violatesInclusion, List.any_eq_true, Bool.and_eq_true, Bool.or_eq_true, bne_iff_ne]
  refine exists_congr fun s₂ => and_congr_right fun hs₂ => ?_
  have hP := hc.all₁.outputs c.output hc.mem
  have hP₂ := hc.all₂.outputs s₂ hs₂
  rw [and_assoc, hcontains c.e₁.input s₂ hc.all₁.input hP₂]
  refine and_congr_right fun _ => ?_
  rw [← hcontains c.output s₂ hP hP₂, ← hcontains s₂ c.output hP₂ hP]
  constructor
  · rintro ⟨h | h, hsize⟩
    · exact .inr ⟨h, (SortedSet.size_ne_iff_not_isSubset h).1 hsize⟩
    · exact .inl ⟨h, (SortedSet.size_ne_iff_not_isSubset h).1 hsize.symm⟩
  · rintro (⟨h, hnot⟩ | ⟨h, hnot⟩)
    · exact ⟨.inr h, ((SortedSet.size_ne_iff_not_isSubset h).2 hnot).symm⟩
    · exact ⟨.inl h, (SortedSet.size_ne_iff_not_isSubset h).2 hnot⟩

variable (hask : AnswersWith P ask)

include hask

theorem check_eq_of_ends (hc : c.Fits P) {s s' : σ} {new : List ModelQuery}
    {r : Except (CheckFault ε) Unit} (h : c.Ends contains ask definite s new r s')
    (calls : List ModelQuery) :
    c.check (recording ask) definite (s, calls) = (r, s', calls ++ new) := by
  have hcomparable := violatesInclusion_iff_comparable hcontains hc
  have hfirstModel {m ms s s'} (h : ask (c.query definite 1) s = (.ok (m :: ms), s')) :
      (m :: ms).head?.any c.e₁.input.isSubset = true ↔ contains c.e₁.input m :=
    hcontains _ m hc.all₁.input ((hask _ _ _ (congrArg Prod.fst h)).2 m List.mem_cons_self)
  have hmodels {ms s s'} (h : ask (c.query definite 0) s = (.ok ms, s')) :=
    any_isSubset_iff hcontains hc.all₁.input (hask _ _ _ (congrArg Prod.fst h)).2
  rw [check_recording ask hc.isSubset]
  cases h with
  | inclusion h => rw [if_pos (hcomparable.2 h), List.append_nil]
  | firstFault h hfirst => rw [if_neg (mt hcomparable.1 h), hfirst]
  | leastModel h hfirst hin =>
    rw [if_neg (mt hcomparable.1 h), hfirst]
    exact if_pos ((hfirstModel hfirst).2 hin)
  | secondFault h hfirst hout hall =>
    rw [if_neg (mt hcomparable.1 h), hfirst]
    refine (if_neg (mt (hfirstModel hfirst).1 hout)).trans ?_
    rw [hall]
  | someModel h hfirst hout hall hin =>
    rw [if_neg (mt hcomparable.1 h), hfirst]
    refine (if_neg (mt (hfirstModel hfirst).1 hout)).trans ?_
    rw [hall]
    exact if_pos ((hmodels hall).2 hin)
  | passes h hfirst hout hall hnone =>
    rw [if_neg (mt hcomparable.1 h), hfirst]
    refine (if_neg (mt (hfirstModel hfirst).1 hout)).trans ?_
    rw [hall]
    exact if_neg (mt (hmodels hall).1 hnone)

variable {cs : List Checkpoint}

theorem checkEach_eq_of_allPass (hcs : ∀ c ∈ cs, c.Fits P) {s s' : σ} {new : List ModelQuery}
    (h : AllPass contains ask definite cs s new s') (calls : List ModelQuery) :
    checkEach (check (recording ask) definite) cs (s, calls) = (.ok (), s', calls ++ new) := by
  induction h generalizing calls with
  | nil => rw [List.append_nil]; rfl
  | cons hends h ih =>
    obtain ⟨hc, hcs⟩ := List.forall_mem_cons.1 hcs
    rw [checkEach, check_eq_of_ends hcontains hask hc hends, ← List.append_assoc]
    exact ih hcs _

theorem checkEach_eq_of_firstFailure (hcs : ∀ c ∈ cs, c.Fits P) {s s' : σ}
    {new : List ModelQuery} {r : Except (CheckFault ε) Unit}
    (h : FirstFailure contains ask definite cs s new r s') (calls : List ModelQuery) :
    checkEach (check (recording ask) definite) cs (s, calls) = (r, s', calls ++ new) := by
  cases h with
  | none h => exact checkEach_eq_of_allPass hcontains hask hcs h calls
  | some heq h hends =>
    subst heq
    obtain ⟨hbefore, hcs⟩ := List.forall_mem_append.1 hcs
    obtain ⟨hc, -⟩ := List.forall_mem_cons.1 hcs
    rw [checkEach_append, checkEach_eq_of_allPass hcontains hask hbefore h]
    dsimp only
    rw [checkEach, check_eq_of_ends hcontains hask hc hends, List.append_assoc]

end Checkpoint

section Task

variable {t : Task} (ht : ∀ e ∈ t.examples, e.All P) (hask : AnswersWith P ask)

include ht

theorem arises_iff {c : Checkpoint} : c.Arises (·.isSubset ·) t ↔ c.Arises contains t := by
  have hsub (hi : t.examples[c.first]? = some c.e₁) (hj : t.examples[c.second]? = some c.e₂)
      (hs : c.output ∈ c.e₁.outputs) :=
    hcontains c.e₂.input c.output (ht _ (List.mem_of_getElem? hj)).input
      ((ht _ (List.mem_of_getElem? hi)).outputs c.output hs)
  exact ⟨fun ⟨hlt, hi, hj, hs, hs', h⟩ => ⟨hlt, hi, hj, hs, hs', (hsub hi hj hs).1 h⟩,
    fun ⟨hlt, hi, hj, hs, hs', h⟩ => ⟨hlt, hi, hj, hs, hs', (hsub hi hj hs).2 h⟩⟩

include hask

theorem checkCompatibility_recording_iff {s s' : σ} {calls : List ModelQuery}
    {r : Except (CheckFault ε) Unit} :
    checkCompatibility (recording ask) t (s, []) = (r, s', calls) ↔
      t.Verdict contains ask s calls r s' := by
  have hfits (c) (hc : c ∈ t.checkpoints) := fits_of_mem_checkpoints ht hc
  rw [checkCompatibility_eq]
  constructor
  · intro h
    obtain ⟨calls', r', s'', hfails⟩ := Checkpoint.exists_firstFailure contains t.definiteRules
      (fun q s models h => (hask q s models h).1) t.checkpoints s
    have hrun := Checkpoint.checkEach_eq_of_firstFailure hcontains hask hfits hfails []
    obtain ⟨rfl, rfl, rfl⟩ : r' = r ∧ s'' = s' ∧ calls' = calls := by
      simpa using hrun.symm.trans h
    exact ⟨t.checkpoints, fun c => Task.mem_checkpoints.trans (arises_iff hcontains ht),
      t.pairwise_checkpoints, hfails⟩
  · rintro ⟨cs, hmem, hordered, hfails⟩
    have hcs : cs = t.checkpoints := hordered.eq_of_mem_iff t.pairwise_checkpoints fun c =>
      ((hmem c).trans (arises_iff hcontains ht).symm).trans Task.mem_checkpoints.symm
    subst hcs
    exact Checkpoint.checkEach_eq_of_firstFailure hcontains hask hfits hfails []

end Task

end Verdict

theorem checkCompatibility_recording {σ ε : Type}
    (ask : ModelQuery → σ → Except ε (List LitSet) × σ) (t : Task) (s : σ)
    (calls : List ModelQuery) :
    checkCompatibility ask t s = ((checkCompatibility (recording ask) t (s, calls)).1,
      (checkCompatibility (recording ask) t (s, calls)).2.1) := by
  have hask : Simulates t (fun s p => s = p.1) ask (recording ask) := by
    rintro e he limit s p rfl
    exact ⟨.refl _, rfl⟩
  have hend : SameEnd (fun s p => s = p.1) (checkCompatibility ask t s)
      (checkCompatibility (recording ask) t (s, calls)) := hask.checkCompatibility rfl
  exact Prod.ext hend.outcome hend.state

/-- A solver that answers with some model whenever it answers decides the check as described: it
goes on to the first output, in the order of the pairs and of the outputs, for which a condition
is violated or the solver fails, and asks nothing but what it takes to get there. On normal sets
this is so of containment as of sets. -/
theorem checkCompatibility_iff_verdict {σ ε : Type}
    {ask : ModelQuery → σ → Except ε (List LitSet) × σ}
    (hask : ∀ q s models, (ask q s).1 = .ok models → models ≠ []) (t : Task) (s : σ) :
    (∀ r s' calls, checkCompatibility (recording ask) t (s, []) = (r, s', calls) ↔
      t.Verdict (·.isSubset ·) ask s calls r s') ∧
    checkCompatibility ask t s = ((checkCompatibility (recording ask) t (s, [])).1,
      (checkCompatibility (recording ask) t (s, [])).2.1) ∧
    ((∀ e ∈ t.examples, e.Normal) →
      (∀ q s models, (ask q s).1 = .ok models → ∀ m ∈ models, m.Normal) →
      ∀ r s' calls, checkCompatibility (recording ask) t (s, []) = (r, s', calls) ↔
        t.Verdict (· ⊆ ·) ask s calls r s') := by
  refine ⟨fun r s' calls => ?_, checkCompatibility_recording ask t s [],
    fun hnormal hmodels r s' calls => ?_⟩
  · exact checkCompatibility_recording_iff (P := fun _ => True) (fun _ _ _ _ => Iff.rfl)
      (fun _ _ => ⟨trivial, fun _ _ => trivial⟩)
      fun q s models h => ⟨hask q s models h, fun _ _ => trivial⟩
  · exact checkCompatibility_recording_iff (P := SortedSet.Normal)
      (fun _ _ => SortedSet.isSubset_iff)
      (fun e he => ⟨(hnormal e he).input, (hnormal e he).outputs⟩)
      fun q s models h => ⟨hask q s models h, hmodels q s models h⟩

def laterModel : Task where
  registry := ⟨[⟨"a", []⟩, ⟨"b", []⟩, ⟨"c", []⟩]⟩
  background := []
  examples := [⟨⟨[1]⟩, [⟨[1, 2]⟩, ⟨[1, 2]⟩]⟩, ⟨⟨[2]⟩, [⟨[3]⟩]⟩]

def twoModels (q : ModelQuery) (r : Registry) : Except String (List LitSet) × Registry :=
  if q.limit = 1 then (.ok [⟨[2]⟩], (r.register ⟨"one", []⟩).2)
  else (.ok [⟨[2]⟩, ⟨[1, 2]⟩], (r.register ⟨"all", []⟩).2)

theorem verdict_laterModel :
    (∀ e ∈ laterModel.examples, e.Normal) ∧
    (∀ q s models, (twoModels q s).1 = .ok models → models ≠ [] ∧ ∀ m ∈ models, m.Normal) ∧
    laterModel.Verdict (· ⊆ ·) twoModels laterModel.registry [⟨[], ⟨[2]⟩, 1⟩, ⟨[], ⟨[2]⟩, 0⟩]
      (.error (.conflict ⟨.iii, 0, 1⟩))
      ⟨[⟨"a", []⟩, ⟨"b", []⟩, ⟨"c", []⟩, ⟨"one", []⟩, ⟨"all", []⟩]⟩ := by
  have hnormal : ∀ e ∈ laterModel.examples, e.Normal := by decide
  have hmodels (q s models) (h : (twoModels q s).1 = .ok models) :
      models ≠ [] ∧ ∀ m ∈ models, m.Normal := by
    unfold twoModels at h
    split at h <;> cases h <;> decide
  refine ⟨hnormal, hmodels, ?_⟩
  have hverdict := (checkCompatibility_iff_verdict (fun q s ms h => (hmodels q s ms h).1)
    laterModel laterModel.registry).2.2 hnormal fun q s ms h => (hmodels q s ms h).2
  exact (hverdict _ _ _).1 rfl

end AnswerSetLearning
