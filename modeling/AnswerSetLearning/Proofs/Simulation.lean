import AnswerSetLearning.Proofs.Compatibility

namespace AnswerSetLearning

open Solver (ModelQuery)

section Runs

variable {α σ σ' ε : Type} {R : σ → σ' → Prop}

structure SameEnd (R : σ → σ' → Prop) (x : Except ε Unit × σ) (y : Except ε Unit × σ') : Prop where
  outcome : x.1 = y.1
  state : R x.2 y.2

theorem SameEnd.checkEach {check : α → σ → Except (CheckFault ε) Unit × σ}
    {check' : α → σ' → Except (CheckFault ε) Unit × σ'} {as : List α}
    (hcheck : ∀ a ∈ as, ∀ s s', R s s' → SameEnd R (check a s) (check' a s')) {s : σ} {s' : σ'}
    (h : R s s') : SameEnd R (checkEach check as s) (checkEach check' as s') := by
  induction as generalizing s s' with
  | nil => exact ⟨rfl, h⟩
  | cons a as ih =>
    have ha := hcheck a List.mem_cons_self s s' h
    have ih := @ih fun b hb => hcheck b (List.mem_cons_of_mem a hb)
    rcases hx : check a s with ⟨x, r⟩
    rcases hy : check' a s' with ⟨y, r'⟩
    rw [hx, hy] at ha
    obtain ⟨rfl, hstate⟩ := ha
    cases x with
    | ok _ => simpa only [AnswerSetLearning.checkEach, hx, hy] using ih hstate
    | error e => simpa only [AnswerSetLearning.checkEach, hx, hy] using ⟨rfl, hstate⟩

theorem mem_of_mem_pairs {l : List α} {p : α × α} (h : p ∈ pairs l) : p.1 ∈ l ∧ p.2 ∈ l := by
  obtain ⟨i, j, -, hi, hj⟩ := mem_pairs_iff.1 h
  exact ⟨List.mem_of_getElem? hi, List.mem_of_getElem? hj⟩

theorem mem_examples_of_mem_pairs {t : Task} {p : (Example × Int) × (Example × Int)}
    (h : p ∈ pairs (t.examples.zipIdx.map fun x => (x.1, Int.ofNat x.2))) :
    p.1.1 ∈ t.examples ∧ p.2.1 ∈ t.examples := by
  have hmem {x : Example × Int} (hx : x ∈ t.examples.zipIdx.map fun x => (x.1, Int.ofNat x.2)) :
      x.1 ∈ t.examples := by
    obtain ⟨⟨e, i⟩, he, rfl⟩ := List.mem_map.1 hx
    exact List.fst_mem_of_mem_zipIdx he
  exact ⟨hmem (mem_of_mem_pairs h).1, hmem (mem_of_mem_pairs h).2⟩

end Runs

section Check

variable {σ σ' ε : Type} {R : σ → σ' → Prop} {t : Task}
  {ask : ModelQuery → σ → Except ε (List LitSet) × σ}
  {ask' : ModelQuery → σ' → Except ε (List LitSet) × σ'}

def SameInputs (t : Task) (m m' : LitSet) : Prop :=
  ∀ e ∈ t.examples, e.input.isSubset m = e.input.isSubset m'

/-- The same fault, or models that contain the same inputs, one by one. -/
inductive Alike (t : Task) : Except ε (List LitSet) → Except ε (List LitSet) → Prop
  | error (e) : Alike t (.error e) (.error e)
  | ok {ms ms'} : List.Forall₂ (SameInputs t) ms ms' → Alike t (.ok ms) (.ok ms')

theorem Alike.refl (x : Except ε (List LitSet)) : Alike t x x := by
  cases x with
  | error e => exact .error e
  | ok ms => exact .ok (List.forall₂_same.2 fun _ _ _ _ => rfl)

theorem head?_any_eq {ms ms' : List LitSet} (h : List.Forall₂ (SameInputs t) ms ms') {e : Example}
    (he : e ∈ t.examples) : ms.head?.any e.input.isSubset = ms'.head?.any e.input.isSubset := by
  cases h with
  | nil => rfl
  | cons hm _ => exact hm e he

theorem any_eq {ms ms' : List LitSet} (h : List.Forall₂ (SameInputs t) ms ms') {e : Example}
    (he : e ∈ t.examples) : ms.any e.input.isSubset = ms'.any e.input.isSubset := by
  induction h with
  | nil => rfl
  | cons hm _ ih => rw [List.any_cons, List.any_cons, hm e he, ih]

/-- Asked from related states what follows from an input of the task, both solvers answer alike,
and their states stay related. -/
def Simulates (t : Task) (R : σ → σ' → Prop) (ask : ModelQuery → σ → Except ε (List LitSet) × σ)
    (ask' : ModelQuery → σ' → Except ε (List LitSet) × σ') : Prop :=
  ∀ e ∈ t.examples, ∀ limit s s', R s s' →
    Alike t (ask ⟨t.definiteRules, e.input, limit⟩ s).1
        (ask' ⟨t.definiteRules, e.input, limit⟩ s').1 ∧
      R (ask ⟨t.definiteRules, e.input, limit⟩ s).2 (ask' ⟨t.definiteRules, e.input, limit⟩ s').2

namespace Simulates

theorem checkOutput (hask : Simulates t R ask ask') {e₁ e₂ : Example} (he₁ : e₁ ∈ t.examples)
    (he₂ : e₂ ∈ t.examples) (conflict : Condition → Conflict) (s₁ : LitSet) {s : σ} {s' : σ'}
    (h : R s s') :
    SameEnd R (checkOutput ask t.definiteRules e₁ e₂ conflict s₁ s)
      (checkOutput ask' t.definiteRules e₁ e₂ conflict s₁ s') := by
  unfold AnswerSetLearning.checkOutput
  split
  · exact ⟨rfl, h⟩
  split
  · exact ⟨rfl, h⟩
  obtain ⟨hfirst, hstate⟩ := hask e₂ he₂ 1 s s' h
  generalize ask ⟨t.definiteRules, e₂.input, 1⟩ s = a,
    ask' ⟨t.definiteRules, e₂.input, 1⟩ s' = a' at hfirst hstate ⊢
  obtain ⟨x, r⟩ := a
  obtain ⟨y, r'⟩ := a'
  cases hfirst with
  | error e => exact ⟨rfl, hstate⟩
  | ok hmodels =>
    simp only [head?_any_eq hmodels he₁]
    split
    · exact ⟨rfl, hstate⟩
    -- the question for all models comes from the states that the first one left
    obtain ⟨hall, hstate⟩ := hask e₂ he₂ 0 r r' hstate
    generalize ask ⟨t.definiteRules, e₂.input, 0⟩ r = b,
      ask' ⟨t.definiteRules, e₂.input, 0⟩ r' = b' at hall hstate ⊢
    obtain ⟨x, r⟩ := b
    obtain ⟨y, r'⟩ := b'
    cases hall with
    | error e => exact ⟨rfl, hstate⟩
    | ok hmodels =>
      simp only [any_eq hmodels he₁]
      split <;> exact ⟨rfl, hstate⟩

theorem checkPair (hask : Simulates t R ask ask') {p : (Example × Int) × (Example × Int)}
    (h₁ : p.1.1 ∈ t.examples) (h₂ : p.2.1 ∈ t.examples) {s : σ} {s' : σ'} (h : R s s') :
    SameEnd R (checkPair ask t.definiteRules p s) (checkPair ask' t.definiteRules p s') :=
  .checkEach (fun s₁ _ _ _ hs => hask.checkOutput h₁ h₂ _ s₁ hs) h

theorem checkCompatibility (hask : Simulates t R ask ask') {s : σ} {s' : σ'} (h : R s s') :
    SameEnd R (checkCompatibility ask t s) (checkCompatibility ask' t s') :=
  .checkEach (fun _ hp _ _ hs =>
    hask.checkPair (mem_examples_of_mem_pairs hp).1 (mem_examples_of_mem_pairs hp).2 hs) h

end Simulates

section Invariant

variable {P : σ → Prop}
  (hask : ∀ e ∈ t.examples, ∀ limit s, P s → P (ask ⟨t.definiteRules, e.input, limit⟩ s).2)

include hask

theorem simulates_self : Simulates t (fun s s' => s = s' ∧ P s) ask ask := by
  rintro e he limit s _ ⟨rfl, hs⟩
  exact ⟨.refl _, rfl, hask e he limit s hs⟩

theorem checkCompatibility_invariant_of_inputs {s : σ} (h : P s) :
    P (checkCompatibility ask t s).2 :=
  ((simulates_self hask).checkCompatibility ⟨rfl, h⟩).state.2

theorem exists_question_of_checkOutput {e₁ e₂ : Example} (he₂ : e₂ ∈ t.examples)
    {conflict : Condition → Conflict} {s₁ : LitSet} {s : σ} (h : P s) {f : ε}
    (herror : (checkOutput ask t.definiteRules e₁ e₂ conflict s₁ s).1 = .error (.solver f)) :
    ∃ limit s, P s ∧ (ask ⟨t.definiteRules, e₂.input, limit⟩ s).1 = .error f := by
  have hfirst := hask e₂ he₂ 1 s h
  unfold checkOutput at herror
  split at herror
  · cases herror
  split at herror
  · cases herror
  split at herror
  · next hf =>
    cases herror
    exact ⟨1, s, h, by rw [hf]⟩
  next r hf =>
  rw [hf] at hfirst
  split at herror
  · cases herror
  split at herror
  · next hf =>
    cases herror
    exact ⟨0, r, hfirst, by rw [hf]⟩
  · split at herror <;> cases herror

theorem exists_question_of_checkCompatibility {s : σ} (h : P s) {f : ε}
    (herror : (checkCompatibility ask t s).1 = .error (.solver f)) :
    ∃ e ∈ t.examples, ∃ limit s, P s ∧
      (ask ⟨t.definiteRules, e.input, limit⟩ s).1 = .error f := by
  have hself := simulates_self hask
  have hpairs (p) (hp : p ∈ pairs (t.examples.zipIdx.map fun x => (x.1, Int.ofNat x.2))) (s)
      (hs : P s) : P (checkPair ask t.definiteRules p s).2 :=
    (hself.checkPair (mem_examples_of_mem_pairs hp).1 (mem_examples_of_mem_pairs hp).2
      ⟨rfl, hs⟩).state.2
  obtain ⟨p, hp, s, hs, herror⟩ := checkEach_error hpairs h herror
  obtain ⟨h₁, h₂⟩ := mem_examples_of_mem_pairs hp
  have houtputs (conflict : Condition → Conflict) (s₁) (_ : s₁ ∈ distinctOutputs p.1.1 p.2.1) (s)
      (hs : P s) : P (checkOutput ask t.definiteRules p.1.1 p.2.1 conflict s₁ s).2 :=
    (hself.checkOutput h₁ h₂ conflict s₁ ⟨rfl, hs⟩).state.2
  obtain ⟨s₁, -, s, hs, herror⟩ := checkEach_error (houtputs _) hs herror
  exact ⟨p.2.1, h₂, exists_question_of_checkOutput hask h₂ hs herror⟩

end Invariant

end Check

def CheckFault.map {ε δ : Type} (f : ε → δ) : CheckFault ε → CheckFault δ
  | .conflict c => .conflict c
  | .solver e => .solver (f e)

section Faults

variable {α σ ε δ : Type} (f : ε → δ)

def tellingFaults (x : Except (CheckFault ε) Unit × σ) : Except (CheckFault δ) Unit × σ :=
  (x.1.mapError (.map f), x.2)

def mapFaults (ask : ModelQuery → σ → Except ε (List LitSet) × σ) (q : ModelQuery) (s : σ) :
    Except δ (List LitSet) × σ :=
  ((ask q s).1.mapError f, (ask q s).2)

theorem checkEach_tellingFaults {check : α → σ → Except (CheckFault ε) Unit × σ}
    {check' : α → σ → Except (CheckFault δ) Unit × σ}
    (hcheck : ∀ a s, check' a s = tellingFaults f (check a s)) (as : List α) (s : σ) :
    checkEach check' as s = tellingFaults f (checkEach check as s) := by
  induction as generalizing s with
  | nil => rfl
  | cons a as ih =>
    rw [checkEach, checkEach, hcheck]
    rcases check a s with ⟨e | ⟨⟩, r⟩
    · rfl
    · exact ih r

variable (ask : ModelQuery → σ → Except ε (List LitSet) × σ)

theorem checkOutput_mapFaults (definite : List Rule) (e₁ e₂ : Example)
    (conflict : Condition → Conflict) (s₁ : LitSet) (s : σ) :
    checkOutput (mapFaults f ask) definite e₁ e₂ conflict s₁ s =
      tellingFaults f (checkOutput ask definite e₁ e₂ conflict s₁ s) := by
  unfold checkOutput
  split
  · rfl
  split
  · rfl
  rw [mapFaults]
  rcases ask ⟨definite, e₂.input, 1⟩ s with ⟨e | models, r⟩
  · rfl
  dsimp only [Except.mapError]
  split
  · rfl
  rw [mapFaults]
  rcases ask ⟨definite, e₂.input, 0⟩ r with ⟨e | models, r⟩
  · rfl
  dsimp only [Except.mapError]
  split <;> rfl

theorem checkCompatibility_mapFaults (t : Task) (s : σ) :
    checkCompatibility (mapFaults f ask) t s = tellingFaults f (checkCompatibility ask t s) :=
  checkEach_tellingFaults f (fun _ s => checkEach_tellingFaults f
    (fun s₁ s => checkOutput_mapFaults f ask _ _ _ _ s₁ s) _ s) _ s

end Faults

end AnswerSetLearning
