import AnswerSetLearning.Proofs.Solver.Bounds
import AnswerSetLearning.Proofs.Solver.Facts
import AnswerSetLearning.Solver.Instance

namespace AnswerSetLearning.Solver

variable {P : Term → Prop} {σ τ : Subst}

def Subst.Every (P : Term → Prop) (σ : Subst) : Prop := ∀ x t, (x, t) ∈ σ → P t

def GroundAtom.Every (P : Term → Prop) (a : GroundAtom) : Prop := ∀ t ∈ a.args, P t

theorem Subst.Every.cons (h : σ.Every P) (x : String) {t : Term} (ht : P t) :
    Subst.Every P ((x, t) :: σ) := by
  intro y s hmem
  rcases List.mem_cons.1 hmem with heq | hmem
  · cases heq
    exact ht
  · exact h y s hmem

theorem Arg.match?_every {a : Arg} {t : Term} (hσ : σ.Every P) (ht : P t)
    (h : a.match? σ t = some τ) : τ.Every P := by
  unfold Arg.match? at h
  split at h
  · split at h
    · cases h
      exact hσ
    · cases h
  · split at h
    · split at h
      · cases h
        exact hσ
      · cases h
    · cases h
      exact hσ.cons _ ht
  · cases h
    exact hσ

theorem Arg.matchAll?_every {as : List Arg} {ts : List Term} (hσ : σ.Every P)
    (hts : ∀ t ∈ ts, P t) (h : Arg.matchAll? σ as ts = some τ) : τ.Every P := by
  induction as generalizing σ ts with
  | nil =>
    cases ts with
    | nil =>
      cases h
      exact hσ
    | cons t ts => cases h
  | cons a as ih =>
    cases ts with
    | nil => cases h
    | cons t ts =>
      obtain ⟨ρ, hρ, h⟩ := Option.bind_eq_some_iff.1 h
      exact ih (match?_every hσ (hts t List.mem_cons_self) hρ)
        (fun s hs => hts s (List.mem_cons_of_mem t hs)) h

theorem joins_every {pcs : List (Pattern × List GroundAtom)} {taken : List GroundAtom}
    (hσ : σ.Every P) (hpcs : ∀ p as, (p, as) ∈ pcs → ∀ a ∈ as, a.Every P)
    (h : (τ, taken) ∈ joins σ pcs) : τ.Every P := by
  induction pcs generalizing σ taken with
  | nil =>
    cases List.mem_singleton.1 h
    exact hσ
  | cons pc pcs ih =>
    obtain ⟨a, ha, h⟩ := List.mem_flatMap.1 h
    have haP := hpcs _ _ List.mem_cons_self a ha
    split at h
    · next ρ hρ =>
      obtain ⟨⟨τ', taken'⟩, hmem, heq⟩ := List.mem_map.1 h
      cases heq
      unfold Pattern.match? at hρ
      split at hρ
      · exact ih (Arg.matchAll?_every hσ haP hρ)
          (fun p as hp => hpcs p as (List.mem_cons_of_mem _ hp)) hmem
      · cases hρ
    · cases h

theorem choices_every {ranges : List (String × List Int)} (hσ : σ.Every P)
    (hranges : ∀ x ns, (x, ns) ∈ ranges → ∀ n ∈ ns, P (.number n)) (h : τ ∈ choices σ ranges) :
    τ.Every P := by
  induction ranges generalizing σ with
  | nil =>
    cases List.mem_singleton.1 h
    exact hσ
  | cons r ranges ih =>
    have htail : ∀ x ns, (x, ns) ∈ ranges → ∀ n ∈ ns, P (.number n) :=
      fun x ns hx => hranges x ns (List.mem_cons_of_mem r hx)
    rw [choices] at h
    split at h
    · exact ih hσ htail h
    · obtain ⟨n, hn, h⟩ := List.mem_flatMap.1 h
      exact ih (hσ.cons _ (hranges _ _ List.mem_cons_self n hn)) htail h

theorem Pattern.eval?_every {p : Pattern} {a : GroundAtom} (hσ : σ.Every P)
    (hp : ∀ t ∈ p.terms, P t) (h : p.eval? σ = some a) : a.Every P := by
  obtain ⟨ts, hts, rfl⟩ := Option.map_eq_some_iff.1 h
  intro t ht
  obtain ⟨arg, harg, heval⟩ := exists_of_forall₂ (forall₂_of_mapM hts).flip ht
  cases arg with
  | value s =>
    cases heval
    exact hp _ (List.mem_filterMap.2 ⟨_, harg, rfl⟩)
  | var x => exact hσ x t (mem_of_lookup heval)
  | anonymous => cases heval

/-- The values in the head and the numbers of the ranges have the property. -/
structure Clause.Supplies (P : Term → Prop) (c : Clause) : Prop where
  head : ∀ p, c.head = some p → ∀ t ∈ p.terms, P t
  ranges : ∀ x ns, (x, ns) ∈ c.ranges → ∀ n ∈ ns, P (.number n)

theorem Clause.supplies_of_eq {c c' : Clause} (h : c.Supplies P) (hhead : c'.head = c.head)
    (htests : c'.tests = c.tests) : c'.Supplies P := by
  refine ⟨hhead ▸ h.head, ?_⟩
  unfold ranges
  rw [htests]
  exact h.ranges

theorem Clause.Supplies.head_every {c : Clause} (hc : c.Supplies P)
    {candidates : List (List GroundAtom)} (hcandidates : ∀ as ∈ candidates, ∀ a ∈ as, a.Every P)
    {i : Instance} (hi : i ∈ c.instancesFrom candidates) {a : GroundAtom} (ha : i.head = some a) :
    a.Every P := by
  obtain ⟨⟨σ, taken⟩, hσ, hi⟩ := List.mem_flatMap.1 hi
  obtain ⟨τ, hτ, hi⟩ := List.mem_filterMap.1 hi
  have hσ : σ.Every P := joins_every (by simp [Subst.Every])
    (fun p as hp => hcandidates as (List.of_mem_zip hp).2) hσ
  have hτ := choices_every hσ hc.ranges hτ
  unfold instance? at hi
  split at hi
  · dsimp only at hi
    split at hi
    · cases hi
      cases ha
    · next p hp =>
      obtain ⟨b, hb, rfl⟩ := Option.map_eq_some_iff.1 hi
      cases ha
      exact Pattern.eval?_every hτ (hc.head p hp) hb
  · cases hi

end AnswerSetLearning.Solver
