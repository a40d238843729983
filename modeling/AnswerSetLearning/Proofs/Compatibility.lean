import AnswerSetLearning.Induction.Pipeline
import AnswerSetLearning.Proofs.Induction.Universe

namespace AnswerSetLearning

open Solver (Engine ModelQuery)

section Runs

variable {α σ ε : Type} {check : α → σ → Except (CheckFault ε) Unit × σ} {P : σ → Prop}

theorem checkEach_invariant (hcheck : ∀ a s, P s → P (check a s).2) (as : List α) {s : σ}
    (hs : P s) : P (checkEach check as s).2 := by
  induction as generalizing s with
  | nil => exact hs
  | cons a as ih =>
    have ha := hcheck a s hs
    rw [checkEach]
    split
    · next h =>
      rw [h] at ha
      exact ih ha
    · next h =>
      rw [h] at ha
      exact ha

theorem checkEach_ok (hcheck : ∀ a s, P s → P (check a s).2) {as : List α} {s : σ} (hs : P s)
    (h : (checkEach check as s).1 = .ok ()) :
    ∀ a ∈ as, ∃ s, P s ∧ (check a s).1 = .ok () := by
  induction as generalizing s with
  | nil => simp
  | cons a as ih =>
    have ha := hcheck a s hs
    rw [checkEach] at h
    split at h
    · next hok =>
      rw [hok] at ha
      intro b hb
      cases List.mem_cons.1 hb with
      | inl hb => exact ⟨s, hs, by rw [hb, hok]⟩
      | inr hb => exact ih ha h b hb
    · cases h

theorem checkEach_error {as : List α} (hcheck : ∀ a ∈ as, ∀ s, P s → P (check a s).2) {s : σ}
    (hs : P s) {e : CheckFault ε} (h : (checkEach check as s).1 = .error e) :
    ∃ a ∈ as, ∃ s, P s ∧ (check a s).1 = .error e := by
  induction as generalizing s with
  | nil => cases h
  | cons a as ih =>
    have ha := hcheck a List.mem_cons_self s hs
    rw [checkEach] at h
    split at h
    · next hok =>
      rw [hok] at ha
      obtain ⟨b, hb, hfails⟩ := ih (fun b hb => hcheck b (List.mem_cons_of_mem a hb)) ha h
      exact ⟨b, List.mem_cons_of_mem a hb, hfails⟩
    · next hf => exact ⟨a, List.mem_cons_self, s, hs, by rw [hf]; exact h⟩

theorem mem_pairs {l : List α} {i j : Nat} {a b : α} (hij : i < j) (ha : l[i]? = some a)
    (hb : l[j]? = some b) : (a, b) ∈ pairs l := by
  induction l generalizing i j with
  | nil => cases ha
  | cons c l ih =>
    cases j with
    | zero => omega
    | succ j =>
      rw [pairs, List.mem_append]
      cases i with
      | zero =>
        cases ha
        exact .inl (List.mem_map_of_mem (List.mem_of_getElem? hb))
      | succ i => exact .inr (ih (by omega) ha hb)

theorem mem_pairs_iff {l : List α} {p : α × α} :
    p ∈ pairs l ↔ ∃ i j : Nat, i < j ∧ l[i]? = some p.1 ∧ l[j]? = some p.2 := by
  refine ⟨fun h => ?_, fun ⟨i, j, hij, hi, hj⟩ => mem_pairs hij hi hj⟩
  induction l with
  | nil => exact absurd h List.not_mem_nil
  | cons a l ih =>
    rcases List.mem_append.1 h with h | h
    · obtain ⟨b, hb, rfl⟩ := List.mem_map.1 h
      obtain ⟨j, hj⟩ := List.mem_iff_getElem?.1 hb
      exact ⟨0, j + 1, by omega, rfl, hj⟩
    · obtain ⟨i, j, hij, hi, hj⟩ := ih h
      exact ⟨i + 1, j + 1, by omega, hi, hj⟩

end Runs

section Check

variable {σ ε : Type} {ask : ModelQuery → σ → Except ε (List LitSet) × σ} {P : σ → Prop}
  {definite : List Rule} {e₁ e₂ : Example} {conflict : Condition → Conflict}

theorem checkOutput_invariant (hask : ∀ q s, P s → P (ask q s).2) (s₁ : LitSet) (s : σ)
    (hs : P s) : P (checkOutput ask definite e₁ e₂ conflict s₁ s).2 := by
  have hfirst := hask ⟨definite, e₂.input, 1⟩ s hs
  unfold checkOutput
  split
  · exact hs
  split
  · exact hs
  split
  · next h =>
    rw [h] at hfirst
    exact hfirst
  next h =>
  rw [h] at hfirst
  have hall := hask ⟨definite, e₂.input, 0⟩ _ hfirst
  split
  · exact hfirst
  split
  · next h =>
    rw [h] at hall
    exact hall
  next h =>
  rw [h] at hall
  split <;> exact hall

theorem not_isSubset_of_checkOutput {s₁ : LitSet} {s : σ}
    (h : (checkOutput ask definite e₁ e₂ conflict s₁ s).1 = .ok ())
    (hsub : e₂.input.isSubset s₁ = true) :
    ∃ models, (ask ⟨definite, e₂.input, 1⟩ s).1 = .ok models ∧
      models.head?.any e₁.input.isSubset = false := by
  unfold checkOutput at h
  rw [if_neg (by simp [hsub])] at h
  split at h
  · cases h
  split at h
  · cases h
  next models _ hmodels =>
  split at h
  · cases h
  next hany =>
  exact ⟨models, by rw [hmodels], Bool.eq_false_iff.2 hany⟩

theorem checkPair_invariant (hask : ∀ q s, P s → P (ask q s).2)
    (p : (Example × Int) × (Example × Int)) (s : σ) (hs : P s) :
    P (checkPair ask definite p s).2 :=
  checkEach_invariant (fun s₁ s => checkOutput_invariant hask s₁ s) _ hs

theorem checkCompatibility_invariant (hask : ∀ q s, P s → P (ask q s).2) (t : Task) {s : σ}
    (hs : P s) : P (checkCompatibility ask t s).2 :=
  checkEach_invariant (checkPair_invariant hask) _ hs

theorem mem_distinctOutputs {s : LitSet} :
    s ∈ distinctOutputs e₁ e₂ ↔ s ∈ e₁.outputs ∧ s ∉ e₂.outputs := by
  simp [distinctOutputs]

theorem checkOutput_of_checkCompatibility (hask : ∀ q s, P s → P (ask q s).2) {t : Task} {s : σ}
    (hs : P s) (h : (checkCompatibility ask t s).1 = .ok ()) {i j : Nat} (hij : i < j)
    (h₁ : t.examples[i]? = some e₁) (h₂ : t.examples[j]? = some e₂) {s₁ : LitSet}
    (hs₁ : s₁ ∈ e₁.outputs) (hs₂ : s₁ ∉ e₂.outputs) :
    ∃ conflict s, P s ∧ (checkOutput ask t.definiteRules e₁ e₂ conflict s₁ s).1 = .ok () := by
  have hpair : ((e₁, Int.ofNat i), (e₂, Int.ofNat j)) ∈
      pairs (t.examples.zipIdx.map fun x => (x.1, Int.ofNat x.2)) :=
    mem_pairs hij (by simp [h₁]) (by simp [h₂])
  obtain ⟨s, hs, hok⟩ := checkEach_ok (checkPair_invariant hask) hs h _ hpair
  obtain ⟨s, hs, hok⟩ := checkEach_ok (fun s₁ s => checkOutput_invariant hask s₁ s) hs hok s₁
    (mem_distinctOutputs.2 ⟨hs₁, hs₂⟩)
  exact ⟨_, s, hs, hok⟩

end Check

section Solver

variable {E : Engine} {t : Task} {registry : Registry}

theorem computeModels_invariant (q : ModelQuery) (r : Registry)
    (h : r.WellFormed ∧ t.registry.Extends r) :
    (E.computeModels q r).2.WellFormed ∧ t.registry.Extends (E.computeModels q r).2 :=
  ⟨Engine.wellFormed_computeModels h.1, h.2.trans (Engine.computeModels_extends q r)⟩

theorem checkCompatibility_of_checkWithSolver (h : E.checkWithSolver t = .ok registry) :
    checkCompatibility E.computeModels t t.registry = (.ok (), registry) := by
  unfold Engine.checkWithSolver at h
  split at h
  · next hcheck =>
    cases h
    exact hcheck
  · cases h

theorem checkWithSolver_extends (hr : t.registry.WellFormed)
    (h : E.checkWithSolver t = .ok registry) :
    registry.WellFormed ∧ t.registry.Extends registry := by
  have hrun := checkCompatibility_invariant (computeModels_invariant (E := E)) t
    ⟨hr, .refl t.registry⟩
  rwa [checkCompatibility_of_checkWithSolver h] at hrun

/-- An output of an earlier example that a later one does not have, but whose input it contains,
tells the inputs of the two apart. -/
theorem not_subset_of_checkCompatibility (hE : E.KeepsFacts) (hr : registry.WellFormed)
    (hext : t.registry.Extends registry)
    (h : (checkCompatibility E.computeModels t registry).1 = .ok ()) {i j : Nat} (hij : i < j)
    {e₁ e₂ : Example} (h₁ : t.examples[i]? = some e₁) (h₂ : t.examples[j]? = some e₂)
    (he₁ : e₁.RegisteredIn t.registry) (he₂ : e₂.RegisteredIn t.registry)
    (hreadable : ∀ l ∈ t.registry.denote e₂.input, l.WellSpelled ∧ l.NumbersFit)
    {s : LitSet} (hs₁ : s ∈ e₁.outputs) (hs₂ : s ∉ e₂.outputs) (hsub : e₂.input ⊆ s) :
    ¬ e₁.input ⊆ e₂.input := by
  obtain ⟨conflict, r, ⟨hwf, hext⟩, hok⟩ := checkOutput_of_checkCompatibility
    (P := fun r => r.WellFormed ∧ t.registry.Extends r) computeModels_invariant
    ⟨hr, hext⟩ h hij h₁ h₂ hs₁ hs₂
  have hsub := (SortedSet.isSubset_iff he₂.input (he₁.outputs s hs₁)).2 hsub
  obtain ⟨models, hmodels, hany⟩ := not_isSubset_of_checkOutput hok hsub
  have hdenote := Registry.denote_of_extends he₂.registers_input hext
  obtain ⟨hne, hfacts⟩ := hE.facts_subset_of_computeModels
    (q := ⟨t.definiteRules, e₂.input, 1⟩) hwf (by rw [hdenote]; exact hreadable)
    (he₂.registers_input.mono hext) (Prod.ext hmodels rfl)
  cases models with
  | nil => exact absurd rfl hne
  | cons m models =>
    obtain ⟨hm, hfacts⟩ := hfacts m List.mem_cons_self
    intro hinput
    have := (SortedSet.isSubset_iff he₁.input hm).2 (SortedSet.subset_trans hinput hfacts)
    simp [this] at hany

theorem not_subset_of_checkWithSolver (hE : E.KeepsFacts) (hr : t.registry.WellFormed)
    (h : E.checkWithSolver t = .ok registry) {i j : Nat} (hij : i < j) {e₁ e₂ : Example}
    (h₁ : t.examples[i]? = some e₁) (h₂ : t.examples[j]? = some e₂)
    (he₁ : e₁.RegisteredIn t.registry) (he₂ : e₂.RegisteredIn t.registry)
    (hreadable : ∀ l ∈ t.registry.denote e₂.input, l.WellSpelled ∧ l.NumbersFit)
    {s : LitSet} (hs₁ : s ∈ e₁.outputs) (hs₂ : s ∉ e₂.outputs) (hsub : e₂.input ⊆ s) :
    ¬ e₁.input ⊆ e₂.input :=
  not_subset_of_checkCompatibility hE hr (.refl _)
    (congrArg Prod.fst (checkCompatibility_of_checkWithSolver h)) hij h₁ h₂ he₁ he₂ hreadable
    hs₁ hs₂ hsub

end Solver

end AnswerSetLearning
