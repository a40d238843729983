import AnswerSetLearning.Proofs.Solver.Comparisons
import AnswerSetLearning.Proofs.Solver.Instances

namespace AnswerSetLearning.Solver

/-! ## Substitutions -/

namespace Subst

variable {σ τ : Subst} {v v' : Valuation} {x : String} {t : Term}

def Agrees (σ : Subst) (v : Valuation) : Prop := ∀ x t, σ.lookup x = some t → v x = t

theorem agrees_nil (v : Valuation) : Agrees [] v := by simp [Agrees]

theorem agrees_cons (h : σ.lookup x = none) :
    Agrees ((x, t) :: σ) v ↔ σ.Agrees v ∧ v x = t := by
  constructor
  · intro hv
    refine ⟨fun y s hs => hv y s ?_, hv x t (by simp)⟩
    have hne : y ≠ x := by
      rintro rfl
      cases h.symm.trans hs
    rwa [List.lookup_cons, beq_eq_false_iff_ne.2 hne]
  · rintro ⟨hσ, rfl⟩ y s hs
    by_cases hyx : y = x
    · subst hyx
      simpa using hs
    · rw [List.lookup_cons, beq_eq_false_iff_ne.2 hyx] at hs
      exact hσ y s hs

theorem agrees_getD (σ : Subst) (d : Term) : σ.Agrees fun x => (σ.lookup x).getD d := by
  intro x t h
  simp [h]

theorem exists_lookup_of_forced
    (h : ∀ v v', σ.Agrees v → σ.Agrees v' → v x = v' x) : ∃ t, σ.lookup x = some t := by
  cases hx : σ.lookup x with
  | some t => exact ⟨t, rfl⟩
  | none =>
    have hforced := h _ _ (σ.agrees_getD .infimum) (σ.agrees_getD .supremum)
    simp [hx] at hforced

end Subst

/-! ## Matching -/

variable {σ τ : Subst} {v v' : Valuation}

theorem Arg.matches_value {s t : Term} : (value s).Matches v t ↔ s = t :=
  ⟨fun h => by cases h; rfl, fun h => h ▸ .value s⟩

theorem Arg.matches_var {x : String} {t : Term} : (var x).Matches v t ↔ v x = t :=
  ⟨fun h => by cases h; rfl, fun h => h ▸ .var x⟩

theorem Pattern.Matches.eq_of_mem_vars {p : Pattern} {a : GroundAtom} (h : p.Matches v a)
    (h' : p.Matches v' a) {x : String} (hx : x ∈ p.vars) : v x = v' x := by
  obtain ⟨arg, harg, hvar⟩ := List.mem_filterMap.1 hx
  obtain ⟨t, -, ht, ht'⟩ := exists_of_forall₂ (h.args.mp (fun _ _ => And.intro) h'.args) harg
  cases arg with
  | var y =>
    cases hvar
    rw [Arg.matches_var.1 ht, Arg.matches_var.1 ht']
  | _ => cases hvar

theorem Arg.match?_iff {a : Arg} {t : Term} :
    (∃ τ, a.match? σ t = some τ ∧ τ.Agrees v) ↔ σ.Agrees v ∧ a.Matches v t := by
  cases a with
  | value s =>
    rw [matches_value]
    by_cases hst : s = t
    · simp [Arg.match?, hst]
    · simp [Arg.match?, hst]
  | var x =>
    rw [matches_var]
    cases hx : σ.lookup x with
    | none => simp [Arg.match?, hx, Subst.agrees_cons hx]
    | some s =>
      by_cases hst : s = t
      · simp only [Arg.match?, hx, hst, if_true, Option.some.injEq, exists_eq_left']
        exact ⟨fun h => ⟨h, h x t (hst ▸ hx)⟩, And.left⟩
      · simp only [Arg.match?, hx, if_neg hst]
        constructor
        · rintro ⟨_, h, -⟩
          cases h
        · rintro ⟨h, rfl⟩
          exact absurd (h x s hx).symm hst
  | anonymous => simp [Arg.match?, Arg.Matches.anonymous]

theorem Arg.matchAll?_iff {as : List Arg} {ts : List Term} :
    (∃ τ, Arg.matchAll? σ as ts = some τ ∧ τ.Agrees v) ↔
      σ.Agrees v ∧ List.Forall₂ (Arg.Matches v) as ts := by
  induction as generalizing σ ts with
  | nil => cases ts <;> simp [Arg.matchAll?]
  | cons a as ih =>
    cases ts with
    | nil => simp [Arg.matchAll?]
    | cons t ts =>
      rw [List.forall₂_cons, ← and_assoc, ← match?_iff]
      constructor
      · rintro ⟨τ, hτ, hv⟩
        obtain ⟨ρ, hρ, hτ⟩ := Option.bind_eq_some_iff.1 hτ
        obtain ⟨hv, hts⟩ := ih.1 ⟨τ, hτ, hv⟩
        exact ⟨⟨ρ, hρ, hv⟩, hts⟩
      · rintro ⟨⟨ρ, hρ, hv⟩, hts⟩
        obtain ⟨τ, hτ, hv⟩ := ih.2 ⟨hv, hts⟩
        exact ⟨τ, Option.bind_eq_some_iff.2 ⟨ρ, hρ, hτ⟩, hv⟩

theorem Pattern.match?_iff {p : Pattern} {a : GroundAtom} :
    (∃ τ, p.match? σ a = some τ ∧ τ.Agrees v) ↔ σ.Agrees v ∧ p.Matches v a := by
  unfold Pattern.match?
  by_cases hp : p.predicate = a.predicate
  · rw [if_pos hp, Arg.matchAll?_iff]
    exact and_congr_right fun _ => ⟨fun h => ⟨hp, h⟩, Matches.args⟩
  · rw [if_neg hp]
    constructor
    · rintro ⟨_, h, -⟩
      cases h
    · exact fun h => absurd h.2.predicate hp

theorem forall₂_zip_iff {α β γ : Type} {R : α → γ → Prop} {S : β → γ → Prop} {l : List α}
    {l' : List β} {m : List γ} (h : l.length = l'.length) :
    List.Forall₂ (fun ab c => S ab.2 c ∧ R ab.1 c) (l.zip l') m ↔
      List.Forall₂ S l' m ∧ List.Forall₂ R l m := by
  induction l generalizing l' m with
  | nil => cases List.length_eq_zero_iff.1 h.symm; simp
  | cons a l ih =>
    cases l' with
    | nil => cases h
    | cons b l' =>
      cases m with
      | nil => simp
      | cons c m =>
        simp only [List.zip_cons_cons, List.forall₂_cons, ih (Nat.succ.inj h)]
        exact and_and_and_comm

theorem joins_iff {pcs : List (Pattern × List GroundAtom)} {taken : List GroundAtom} :
    (∃ τ, (τ, taken) ∈ joins σ pcs ∧ τ.Agrees v) ↔
      σ.Agrees v ∧ List.Forall₂ (fun pc a => a ∈ pc.2 ∧ pc.1.Matches v a) pcs taken := by
  induction pcs generalizing σ taken with
  | nil => cases taken <;> simp [joins]
  | cons pc pcs ih =>
    obtain ⟨p, candidates⟩ := pc
    constructor
    · rintro ⟨τ, hτ, hv⟩
      obtain ⟨a, ha, hτ⟩ := List.mem_flatMap.1 hτ
      split at hτ
      · next ρ hρ =>
        obtain ⟨⟨τ', taken'⟩, hmem, heq⟩ := List.mem_map.1 hτ
        cases heq
        obtain ⟨hρv, htaken⟩ := ih.1 ⟨τ, hmem, hv⟩
        obtain ⟨hσ, hp⟩ := Pattern.match?_iff.1 ⟨ρ, hρ, hρv⟩
        exact ⟨hσ, .cons ⟨ha, hp⟩ htaken⟩
      · cases hτ
    · rintro ⟨hσ, htaken⟩
      cases htaken with
      | @cons _ a _ taken ha htaken =>
        obtain ⟨ha, hp⟩ := ha
        obtain ⟨ρ, hρ, hρv⟩ := Pattern.match?_iff.2 ⟨hσ, hp⟩
        obtain ⟨τ, hτ, hv⟩ := ih.2 ⟨hρv, htaken⟩
        refine ⟨τ, List.mem_flatMap.2 ⟨a, ha, ?_⟩, hv⟩
        rw [hρ]
        exact List.mem_map.2 ⟨(τ, taken), hτ, rfl⟩

theorem agrees_of_mem_choices {ranges : List (String × List Int)} (h : τ ∈ choices σ ranges)
    (hv : τ.Agrees v) : σ.Agrees v := by
  induction ranges generalizing σ with
  | nil => exact List.mem_singleton.1 h ▸ hv
  | cons r ranges ih =>
    rw [choices] at h
    split at h
    · exact ih h
    · next hx =>
      obtain ⟨n, -, h⟩ := List.mem_flatMap.1 h
      exact ((Subst.agrees_cons hx).1 (ih h)).1

theorem exists_mem_choices {ranges : List (String × List Int)} (hσ : σ.Agrees v)
    (h : ∀ x ns, (x, ns) ∈ ranges → ∃ n ∈ ns, v x = .number n) :
    ∃ τ ∈ choices σ ranges, τ.Agrees v := by
  induction ranges generalizing σ with
  | nil => exact ⟨σ, List.mem_singleton_self _, hσ⟩
  | cons r ranges ih =>
    have htail : ∀ x ns, (x, ns) ∈ ranges → ∃ n ∈ ns, v x = .number n :=
      fun x ns hx => h x ns (List.mem_cons_of_mem r hx)
    rw [choices]
    split
    · exact ih hσ htail
    · next hx =>
      obtain ⟨n, hn, hvn⟩ := h _ _ List.mem_cons_self
      obtain ⟨τ, hτ, hv⟩ := ih ((Subst.agrees_cons hx).2 ⟨hσ, hvn⟩) htail
      exact ⟨τ, List.mem_flatMap.2 ⟨n, hn, hτ⟩, hv⟩

theorem lookup_of_mem_choices {ranges : List (String × List Int)} {x : String} {ns : List Int}
    (hx : (x, ns) ∈ ranges) (h : τ ∈ choices σ ranges) : ∃ t, τ.lookup x = some t := by
  -- a value that is there is kept
  have hkeeps {σ : Subst} {ranges : List (String × List Int)} {t : Term}
      (hσ : σ.lookup x = some t) (h : τ ∈ choices σ ranges) : ∃ t, τ.lookup x = some t :=
    Subst.exists_lookup_of_forced fun v v' hv hv' =>
      (agrees_of_mem_choices h hv x t hσ).trans (agrees_of_mem_choices h hv' x t hσ).symm
  induction ranges generalizing σ with
  | nil => cases hx
  | cons r ranges ih =>
    rw [choices] at h
    rcases List.mem_cons.1 hx with rfl | hx
    · split at h
      · next hσ => exact hkeeps hσ h
      · obtain ⟨n, -, h⟩ := List.mem_flatMap.1 h
        exact hkeeps List.lookup_cons_self h
    · split at h
      · exact ih hx h
      · obtain ⟨n, -, h⟩ := List.mem_flatMap.1 h
        exact ih hx h

/-! ## Evaluation -/

theorem Arg.eval?_eq_some_iff {a : Arg} {t : Term} (hv : σ.Agrees v) (ha : (a.eval? σ).isSome) :
    a.eval? σ = some t ↔ a.Matches v t := by
  cases a with
  | value s => simp [eval?, matches_value]
  | var x =>
    obtain ⟨s, hs⟩ := Option.isSome_iff_exists.1 ha
    rw [eval?] at hs
    rw [eval?, matches_var, hs, hv x s hs, Option.some.injEq]
  | anonymous => cases ha

theorem Pattern.eval?_eq_some_iff {p : Pattern} {a : GroundAtom} (hv : σ.Agrees v)
    (hp : ∀ arg ∈ p.args, (arg.eval? σ).isSome) : p.eval? σ = some a ↔ p.Matches v a := by
  have hargs : p.args.mapM (Arg.eval? σ) = some a.args ↔
      List.Forall₂ (Arg.Matches v) p.args a.args := by
    constructor
    · exact fun h => ((List.forall₂_and_left _ _).2 ⟨hp, forall₂_of_mapM h⟩).imp fun _ _ h =>
        (Arg.eval?_eq_some_iff hv h.1).1 h.2
    · exact fun h => mapM_of_forall₂ <| ((List.forall₂_and_left _ _).2 ⟨hp, h⟩).imp fun _ _ h =>
        (Arg.eval?_eq_some_iff hv h.1).2 h.2
  rw [eval?, Option.map_eq_some_iff]
  constructor
  · rintro ⟨ts, hts, rfl⟩
    exact ⟨rfl, hargs.1 hts⟩
  · intro h
    refine ⟨a.args, hargs.2 h.args, ?_⟩
    rw [h.predicate]

theorem Test.holds_iff {test : Test} (hv : σ.Agrees v) (hleft : (test.left.eval? σ).isSome)
    (hright : (test.right.eval? σ).isSome) : Test.holds σ test = true ↔ test.Holds v := by
  obtain ⟨s, hs⟩ := Option.isSome_iff_exists.1 hleft
  obtain ⟨t, ht⟩ := Option.isSome_iff_exists.1 hright
  rw [Test.holds, hs, ht]
  have hs' := (Arg.eval?_eq_some_iff hv hleft).1 hs
  have ht' := (Arg.eval?_eq_some_iff hv hright).1 ht
  constructor
  · exact fun h => ⟨s, t, hs', ht', h⟩
  · rintro ⟨s', t', hs'', ht'', h⟩
    rw [← Arg.eval?_eq_some_iff hv hleft, hs] at hs''
    rw [← Arg.eval?_eq_some_iff hv hright, ht] at ht''
    cases hs''
    cases ht''
    exact h

theorem Absence.ofPattern_eq {p : Pattern} (hv : σ.Agrees v)
    (hp : ∀ x ∈ p.vars, (σ.lookup x).isSome) : ofPattern σ p = p.absence v := by
  unfold ofPattern Pattern.absence
  congr 1
  refine List.map_congr_left fun arg harg => ?_
  cases arg with
  | value t => rfl
  | var x =>
    obtain ⟨t, ht⟩ := Option.isSome_iff_exists.1 (hp x (List.mem_filterMap.2 ⟨_, harg, rfl⟩))
    exact ht.trans (congrArg some (hv x t ht).symm)
  | anonymous => rfl

/-! ## Instances -/

namespace Clause

variable {c : Clause} {i : Instance} {taken atoms : List GroundAtom}

theorem of_isSafe (h : c.isSafe = true) :
    (∀ p, c.head = some p → ∀ a ∈ p.args, c.binds a = true) ∧
      (∀ p ∈ c.negative, ∀ x ∈ p.vars, x ∈ c.boundVars) ∧
        ∀ t ∈ c.tests, c.binds t.left = true ∧ c.binds t.right = true := by
  simpa [isSafe, Option.all_eq_true, and_assoc] using h

/-- All variables that the clause binds have values. -/
def Binds (c : Clause) (σ : Subst) : Prop := ∀ x ∈ c.boundVars, (σ.lookup x).isSome

theorem Binds.isSome_eval? (hσ : c.Binds σ) {a : Arg} (ha : c.binds a = true) :
    (a.eval? σ).isSome := by
  cases a with
  | value t => rfl
  | var x => exact hσ x (List.contains_iff_mem.1 ha)
  | anonymous => cases ha

section Safe

variable (hc : c.isSafe = true) (hσ : c.Binds σ) (hv : σ.Agrees v)

include hc hσ hv

theorem holds_tests_iff : c.tests.all (Test.holds σ) = true ↔ ∀ t ∈ c.tests, t.Holds v := by
  obtain ⟨-, -, htests⟩ := of_isSafe hc
  rw [List.all_eq_true]
  exact forall₂_congr fun t ht => Test.holds_iff hv (hσ.isSome_eval? (htests t ht).1)
    (hσ.isSome_eval? (htests t ht).2)

theorem map_ofPattern_negative :
    c.negative.map (Absence.ofPattern σ) = c.negative.map (Pattern.absence v) := by
  obtain ⟨-, hnegative, -⟩ := of_isSafe hc
  exact List.map_congr_left fun p hp =>
    Absence.ofPattern_eq hv fun x hx => hσ x (hnegative p hp x hx)

theorem eval?_head_iff {p : Pattern} (hp : c.head = some p) {a : GroundAtom} :
    p.eval? σ = some a ↔ p.Matches v a := by
  obtain ⟨hhead, -, -⟩ := of_isSafe hc
  exact Pattern.eval?_eq_some_iff hv fun arg harg => hσ.isSome_eval? (hhead p hp arg harg)

theorem instance?_eq_some_iff (htaken : List.Forall₂ (Pattern.Matches v) c.positive taken) :
    c.instance? σ taken = some i ↔ i.positive = taken ∧ c.Grounds v i := by
  have htests := holds_tests_iff hc hσ hv
  rw [instance?, map_ofPattern_negative hc hσ hv]
  constructor
  · intro h
    split at h
    · next hall =>
      dsimp only at h
      split at h
      · next hnone =>
        cases h
        exact ⟨rfl, hnone ▸ .none, htaken, rfl, htests.1 hall⟩
      · next p hp =>
        obtain ⟨a, ha, rfl⟩ := Option.map_eq_some_iff.1 h
        have hmatches := (eval?_head_iff hc hσ hv hp).1 ha
        exact ⟨rfl, hp ▸ .some hmatches, htaken, rfl, htests.1 hall⟩
    · cases h
  · rintro ⟨rfl, h⟩
    obtain ⟨head, positive, negative⟩ := i
    obtain rfl : negative = _ := h.negative
    rw [if_pos (htests.2 h.tests)]
    have hrel := h.head
    dsimp only at hrel ⊢
    split
    · next hnone =>
      rw [hnone] at hrel
      cases hrel
      rfl
    · next p hp =>
      rw [hp] at hrel
      cases hrel with
      | some ha => rw [(eval?_head_iff hc hσ hv hp).2 ha, Option.map_some]

end Safe

section From

variable {candidates : List (List GroundAtom)} (hlength : c.positive.length = candidates.length)

include hlength

theorem mem_joins_iff :
    (∃ σ, (σ, taken) ∈ joins [] (c.positive.zip candidates) ∧ σ.Agrees v) ↔
      List.Forall₂ (· ∈ ·) taken candidates ∧
        List.Forall₂ (Pattern.Matches v) c.positive taken := by
  rw [joins_iff, and_iff_right (Subst.agrees_nil v), forall₂_zip_iff hlength]
  exact and_congr_left fun _ => ⟨List.Forall₂.flip, List.Forall₂.flip⟩

theorem binds_of_mem_choices (hσ : (σ, taken) ∈ joins [] (c.positive.zip candidates))
    (hτ : τ ∈ choices σ c.ranges) : c.Binds τ := by
  intro x hx
  rw [Option.isSome_iff_exists]
  rcases List.mem_append.1 hx with hx | hx
  · obtain ⟨p, hp, hx⟩ := List.mem_flatMap.1 hx
    refine Subst.exists_lookup_of_forced fun v v' hv hv' => ?_
    have h := ((mem_joins_iff hlength).1 ⟨σ, hσ, agrees_of_mem_choices hτ hv⟩).2
    have h' := ((mem_joins_iff hlength).1 ⟨σ, hσ, agrees_of_mem_choices hτ hv'⟩).2
    obtain ⟨a, -, ha, ha'⟩ := exists_of_forall₂ (h.mp (fun _ _ => And.intro) h') hp
    exact ha.eq_of_mem_vars ha' hx
  · obtain ⟨⟨x, ns⟩, hmem, rfl⟩ := List.mem_map.1 hx
    exact lookup_of_mem_choices hmem hτ

theorem mem_instancesFrom_iff (hc : c.isSafe = true) :
    i ∈ c.instancesFrom candidates ↔
      List.Forall₂ (· ∈ ·) i.positive candidates ∧ ∃ v, c.Grounds v i := by
  constructor
  · intro h
    obtain ⟨⟨σ, taken⟩, hσ, h⟩ := List.mem_flatMap.1 h
    obtain ⟨τ, hτ, h⟩ := List.mem_filterMap.1 h
    have hv := τ.agrees_getD .infimum
    obtain ⟨hmem, htaken⟩ := (mem_joins_iff hlength).1 ⟨σ, hσ, agrees_of_mem_choices hτ hv⟩
    obtain ⟨rfl, hi⟩ :=
      (instance?_eq_some_iff hc (binds_of_mem_choices hlength hσ hτ) hv htaken).1 h
    exact ⟨hmem, _, hi⟩
  · rintro ⟨hmem, v, hi⟩
    obtain ⟨σ, hσ, hv⟩ := (mem_joins_iff hlength).2 ⟨hmem, hi.positive⟩
    obtain ⟨τ, hτ, hv⟩ := exists_mem_choices hv
      fun x ns hx => exists_number_of_mem_rangesOf hi.tests hx
    have hinstance :=
      (instance?_eq_some_iff hc (binds_of_mem_choices hlength hσ hτ) hv hi.positive).2 ⟨rfl, hi⟩
    exact List.mem_flatMap.2 ⟨(σ, i.positive), hσ, List.mem_filterMap.2 ⟨τ, hτ, hinstance⟩⟩

end From

theorem mem_instances_iff (hc : c.isSafe = true) :
    i ∈ c.instances atoms ↔ (∀ a ∈ i.positive, a ∈ atoms) ∧ ∃ v, c.Grounds v i := by
  rw [instances, mem_instancesFrom_iff (by simp) hc, List.forall₂_map_right_iff]
  refine and_congr_left ?_
  rintro ⟨v, hi⟩
  constructor
  · intro h a ha
    obtain ⟨-, -, ha⟩ := exists_of_forall₂ h ha
    exact ha
  · exact fun h =>
      ((List.forall₂_and_left _ _).2 ⟨h, hi.positive.flip⟩).imp fun _ _ h => h.1

end Clause

end AnswerSetLearning.Solver
