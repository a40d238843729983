import AnswerSetLearning.Proofs.Solver.Matching
import AnswerSetLearning.Proofs.Solver.Models
import Mathlib.Data.List.Perm.Subperm
import Mathlib.Data.List.Sections

namespace AnswerSetLearning.Solver

/-! ## Closures -/

section Closure

variable {α : Type} [DecidableEq α] {step : List α → List α} {known : List α}

theorem nodup_fresh (known found : List α) : (fresh known found).Nodup := by
  induction found with
  | nil => exact List.nodup_nil
  | cons a found ih =>
    rw [fresh]
    split_ifs with h
    · exact ih
    · exact List.nodup_cons.2 ⟨fun ha => h (.inr ha), ih⟩

theorem nodup_append_fresh (h : known.Nodup) (found : List α) :
    (known ++ fresh known found).Nodup := by
  refine List.nodup_append.2 ⟨h, nodup_fresh known found, ?_⟩
  rintro a ha b hb rfl
  exact (mem_fresh.1 hb).2 ha

theorem forall_mem_grow {P : α → Prop}
    (hstep : ∀ known, (∀ a ∈ known, P a) → ∀ a ∈ step known, P a) (fuel : Nat)
    (h : ∀ a ∈ known, P a) : ∀ a ∈ grow step fuel known, P a := by
  induction fuel generalizing known with
  | zero => exact h
  | succ fuel ih =>
    rw [grow]
    split
    · exact h
    · refine ih fun a ha => ?_
      rcases List.mem_append.1 ha with ha | ha
      · exact h a ha
      · exact hstep known h a (mem_fresh.1 ha).1

theorem step_subset_grow {all : List α} (hstep : ∀ known, known ⊆ all → step known ⊆ all)
    {fuel : Nat} (hnodup : known.Nodup) (hknown : known ⊆ all)
    (hfuel : all.length ≤ fuel + known.length) :
    step (grow step fuel known) ⊆ grow step fuel known := by
  induction fuel generalizing known with
  | zero =>
    -- nothing is left to be found
    have hperm := (List.subperm_of_subset hnodup hknown).perm_of_length_le (by omega)
    exact fun a ha => hperm.symm.subset (hstep known hknown ha)
  | succ fuel ih =>
    rw [grow]
    split
    · next hfresh =>
      intro a ha
      by_contra hnew
      have := mem_fresh.2 ⟨ha, hnew⟩
      rw [hfresh] at this
      cases this
    · next hne =>
      refine ih (nodup_append_fresh hnodup _) ?_ ?_
      · exact List.append_subset.2 ⟨hknown, fun a ha => hstep known hknown (mem_fresh.1 ha).1⟩
      · have := List.length_pos_iff.2 hne
        rw [List.length_append]
        omega

theorem step_subset_grow_nil {all : List α} (hstep : ∀ known, known ⊆ all → step known ⊆ all)
    {fuel : Nat} (hfuel : all.length ≤ fuel) : step (grow step fuel []) ⊆ grow step fuel [] :=
  step_subset_grow hstep List.nodup_nil (List.nil_subset _) hfuel

end Closure

/-! ## What heads can become -/

def values (clauses : List Clause) : List Term :=
  clauses.flatMap Clause.terms ++
    (clauses.flatMap fun c => c.ranges.flatMap Prod.snd).map .number

def Pattern.fillings (ts : List Term) (p : Pattern) : List GroundAtom :=
  (List.replicate p.args.length ts).sections.map fun args => ⟨p.predicate, args⟩

def heads (ts : List Term) (clauses : List Clause) : List GroundAtom :=
  clauses.flatMap fun c => c.head.toList.flatMap (Pattern.fillings ts)

theorem length_sections_replicate {α : Type} (n : Nat) (l : List α) :
    (List.replicate n l).sections.length = l.length.pow n := by
  induction n with
  | zero => rfl
  | succ n ih => simp [List.replicate_succ, List.sections, List.length_flatMap, ih, Nat.pow]

theorem length_heads (clauses : List Clause) :
    (heads (values clauses) clauses).length = headCount clauses := by
  have hlength (ts : List Term) (f : Clause → Nat → Nat)
      (hf : ∀ c n, f c n = (c.head.toList.flatMap (Pattern.fillings ts)).length + n)
      (cs : List Clause) : (heads ts cs).length = cs.foldr f 0 := by
    induction cs with
    | nil => rfl
    | cons c cs ih =>
      rw [heads, List.flatMap_cons, List.length_append, List.foldr_cons, hf, ← ih]
      rfl
  refine hlength _ _ (fun c n => ?_) clauses
  cases c.head with
  | none => simp
  | some p => simp [Pattern.fillings, length_sections_replicate, values]

theorem Pattern.Matches.mem_fillings {ts : List Term} {p : Pattern} {v : Valuation}
    {a : GroundAtom} (hp : p.Matches v a) (ha : a.Every (· ∈ ts)) : a ∈ p.fillings ts := by
  refine List.mem_map.2 ⟨a.args, ?_, by rw [hp.predicate]⟩
  rw [List.mem_sections, hp.args.length_eq, ← List.map_const', List.forall₂_map_right_iff]
  exact List.forall₂_same.2 ha

theorem Pattern.every_of_mem_fillings {ts : List Term} {p : Pattern} {a : GroundAtom}
    (ha : a ∈ p.fillings ts) : a.Every (· ∈ ts) := by
  obtain ⟨args, hargs, rfl⟩ := List.mem_map.1 ha
  intro t ht
  obtain ⟨l, hl, htl⟩ := exists_of_forall₂ (List.mem_sections.1 hargs) ht
  exact List.eq_of_mem_replicate hl ▸ htl

section Clauses

variable {clauses : List Clause} (hsafe : ∀ c ∈ clauses, c.isSafe = true)

include hsafe in
theorem mem_instances_iff {i : Instance} {atoms : List GroundAtom} :
    i ∈ instances atoms clauses ↔
      (∀ a ∈ i.positive, a ∈ atoms) ∧ ∃ c ∈ clauses, ∃ v, c.Grounds v i := by
  rw [instances, List.mem_flatMap]
  constructor
  · rintro ⟨c, hc, hi⟩
    obtain ⟨hatoms, v, hv⟩ := (Clause.mem_instances_iff (hsafe c hc)).1 hi
    exact ⟨hatoms, c, hc, v, hv⟩
  · rintro ⟨hatoms, c, hc, hv⟩
    exact ⟨c, hc, (Clause.mem_instances_iff (hsafe c hc)).2 ⟨hatoms, hv⟩⟩

theorem supplies_of_mem {c : Clause} (hc : c ∈ clauses) : c.Supplies (· ∈ values clauses) where
  head p hp t ht := by
    refine List.mem_append_left _ (List.mem_flatMap.2 ⟨c, hc, List.mem_append_left _ ?_⟩)
    rw [hp]
    simpa using ht
  ranges x ns hx n hn := List.mem_append_right _ <| List.mem_map_of_mem <|
    List.mem_flatMap.2 ⟨c, hc, List.mem_flatMap.2 ⟨(x, ns), hx, hn⟩⟩

theorem mem_heads {c c' : Clause} (hc : c ∈ clauses) (hhead : c'.head = c.head)
    (htests : c'.tests = c.tests) (hsafe : c'.isSafe = true) {v : Valuation} {i : Instance}
    (hi : c'.Grounds v i) (hpositive : ∀ b ∈ i.positive, b ∈ heads (values clauses) clauses)
    {a : GroundAtom} (ha : i.head = some a) : a ∈ heads (values clauses) clauses := by
  have hevery : ∀ b ∈ heads (values clauses) clauses, b.Every (· ∈ values clauses) := by
    intro b hb
    obtain ⟨d, -, hb⟩ := List.mem_flatMap.1 hb
    obtain ⟨p, -, hb⟩ := List.mem_flatMap.1 hb
    exact Pattern.every_of_mem_fillings hb
  have hmem := (Clause.mem_instances_iff hsafe).2 ⟨hpositive, v, hi⟩
  have haP : a.Every (· ∈ values clauses) :=
    (Clause.supplies_of_eq (supplies_of_mem hc) hhead htests).head_every
      (by simpa using fun _ => hevery) hmem ha
  obtain ⟨p, hp, hpa⟩ := hi.exists_head ha
  exact List.mem_flatMap.2 ⟨c, hc, by simpa [← hhead, hp] using hpa.mem_fillings haP⟩

include hsafe in
theorem heads_subset {known : List GroundAtom} (h : known ⊆ heads (values clauses) clauses) :
    (instances known clauses).filterMap Instance.head ⊆ heads (values clauses) clauses := by
  intro a ha
  obtain ⟨i, hi, ha⟩ := List.mem_filterMap.1 ha
  obtain ⟨hpositive, c, hc, v, hv⟩ := (mem_instances_iff hsafe).1 hi
  exact mem_heads hc rfl rfl (hsafe c hc) hv (fun b hb => h (hpositive b hb)) ha

end Clauses

/-! ## Least models -/

theorem Instance.supported_iff {i : Instance} {atoms : List GroundAtom} :
    i.supported atoms = true ↔ ∀ a ∈ i.positive, a ∈ atoms := by
  simp [supported]

theorem mem_consequences_iff {insts : List Instance} {atoms : List GroundAtom} {a : GroundAtom} :
    a ∈ consequences insts atoms ↔
      ∃ i ∈ insts, (∀ b ∈ i.positive, b ∈ atoms) ∧ i.head = some a := by
  simp only [consequences, List.mem_filterMap, Option.ite_none_right_eq_some,
    Instance.supported_iff]

theorem consequences_subset_leastModel (insts : List Instance) (assumed : List GroundAtom) :
    consequences (insts.filter fun i => i.unblocked assumed) (leastModel insts assumed) ⊆
      leastModel insts assumed := by
  let reduct := insts.filter fun i => i.unblocked assumed
  have hheads : ∀ known, known ⊆ reduct.filterMap Instance.head →
      consequences reduct known ⊆ reduct.filterMap Instance.head := by
    intro known _ a ha
    obtain ⟨i, hi, -, ha⟩ := mem_consequences_iff.1 ha
    exact List.mem_filterMap.2 ⟨i, hi, ha⟩
  exact step_subset_grow_nil hheads (List.length_filterMap_le _ _)

/-! ## Clauses without negation -/

abbrev possibleInstances (clauses : List Clause) : List Instance :=
  instances (derivable clauses) clauses

theorem head_mem_derivable {clauses : List Clause} (hsafe : ∀ c ∈ clauses, c.isSafe = true)
    {i : Instance} (hi : i ∈ possibleInstances clauses) {a : GroundAtom} (ha : i.head = some a) :
    a ∈ derivable clauses :=
  step_subset_grow_nil (fun _ => heads_subset hsafe) (length_heads clauses).le
    (List.mem_filterMap.2 ⟨i, hi, ha⟩)

section Definite

variable {clauses : List Clause} (hsafe : ∀ c ∈ clauses, c.isSafe = true)
  (hdefinite : ∀ c ∈ clauses, c.IsDefinite) (M : Set GroundAtom) {a : GroundAtom}

/-- The least model of clauses without negation. -/
def definiteModel (clauses : List Clause) : List GroundAtom :=
  leastModel (possibleInstances clauses) []

include hsafe hdefinite

theorem mem_derivable_iff : a ∈ derivable clauses ↔ Derives clauses M a := by
  constructor
  · refine forall_mem_grow (P := Derives clauses M) (fun known hknown a ha => ?_) _ (by simp) a
    obtain ⟨i, hi, ha⟩ := List.mem_filterMap.1 ha
    obtain ⟨hatoms, c, hc, v, hv⟩ := (mem_instances_iff hsafe).1 hi
    exact .rule hc hv ha (hv.admits (hdefinite c hc) M) fun b hb => hknown b (hatoms b hb)
  · intro h
    induction h with
    | rule hc hv ha _ _ ih =>
      exact head_mem_derivable hsafe ((mem_instances_iff hsafe).2 ⟨ih, _, hc, _, hv⟩) ha

theorem negative_eq_nil {i : Instance} {atoms : List GroundAtom}
    (hi : i ∈ instances atoms clauses) : i.negative = [] := by
  obtain ⟨-, c, hc, v, hv⟩ := (mem_instances_iff hsafe).1 hi
  rw [hv.negative, hdefinite c hc, List.map_nil]

theorem unblocked_of_mem {i : Instance} {atoms : List GroundAtom}
    (hi : i ∈ instances atoms clauses) (assumed : List GroundAtom) :
    i.unblocked assumed = true := by
  rw [Instance.unblocked, negative_eq_nil hsafe hdefinite hi, List.all_nil]

theorem mem_definiteModel_iff : a ∈ definiteModel clauses ↔ Derives clauses M a := by
  constructor
  · refine forall_mem_grow (P := Derives clauses M) (fun known hknown a ha => ?_) _ (by simp) a
    obtain ⟨i, hi, hatoms, ha⟩ := mem_consequences_iff.1 ha
    obtain ⟨-, c, hc, v, hv⟩ := (mem_instances_iff hsafe).1 (List.mem_of_mem_filter hi)
    exact .rule hc hv ha (hv.admits (hdefinite c hc) M) fun b hb => hknown b (hatoms b hb)
  · intro h
    induction h with
    | rule hc hv ha _ hbody ih =>
      have hi := (mem_instances_iff hsafe).2
        ⟨fun b hb => (mem_derivable_iff hsafe hdefinite M).2 (hbody b hb), _, hc, _, hv⟩
      have hreduct : _ ∈ (possibleInstances clauses).filter fun i => i.unblocked [] :=
        List.mem_filter.2 ⟨hi, unblocked_of_mem hsafe hdefinite hi []⟩
      exact consequences_subset_leastModel _ _ (mem_consequences_iff.2 ⟨_, hreduct, ih, ha⟩)

theorem violates_eq_false_iff :
    violates (possibleInstances clauses) (definiteModel clauses) (definiteModel clauses) = false ↔
      ∀ c ∈ clauses, ∀ v i, c.Grounds v i → i.head = none →
        ∃ a ∈ i.positive, a ∉ definiteModel clauses := by
  rw [violates, List.any_eq_false]
  constructor
  · intro h c hc v i hv hhead
    by_contra hall
    have hsupported : ∀ a ∈ i.positive, a ∈ definiteModel clauses := by
      simpa using hall
    have hi := (mem_instances_iff hsafe).2 ⟨fun a ha => (mem_derivable_iff hsafe hdefinite ∅).2
      ((mem_definiteModel_iff hsafe hdefinite ∅).1 (hsupported a ha)), c, hc, v, hv⟩
    apply h i hi
    simp [hhead, Instance.supported_iff.2 hsupported, unblocked_of_mem hsafe hdefinite hi]
  · intro h i hi hall
    obtain ⟨-, c, hc, v, hv⟩ := (mem_instances_iff hsafe).1 hi
    simp only [Bool.and_eq_true, Option.isNone_iff_eq_none, Instance.supported_iff] at hall
    obtain ⟨a, ha, hnot⟩ := h c hc v i hv hall.1.1
    exact hnot (hall.1.2 a ha)

theorem isOpen_iff_isStable : isOpen (possibleInstances clauses) [] [] [] = true ↔
    IsStable clauses {a | a ∈ definiteModel clauses} := by
  have hopen : isOpen (possibleInstances clauses) [] [] [] = true ↔
      violates (possibleInstances clauses) (definiteModel clauses) (definiteModel clauses) = false ∧
        isConsistent (definiteModel clauses) = true := by
    simp [isOpen, definiteModel]
  rw [hopen, violates_eq_false_iff hsafe hdefinite]
  constructor
  · rintro ⟨hconstraints, hconsistent⟩
    refine ⟨fun a => mem_definiteModel_iff hsafe hdefinite _,
      fun c hc v i hv hhead _ => hconstraints c hc v i hv hhead, fun a ha => ?_⟩
    simpa using List.all_eq_true.1 hconsistent a ha
  · intro h
    refine ⟨fun c hc v i hv hhead => h.constraints c hc v i hv hhead (hv.admits (hdefinite c hc) _),
      List.all_eq_true.2 fun a ha => ?_⟩
    simpa using h.consistent a ha

theorem stableModels_eq (limit : Nat) : stableModels limit clauses =
    if isOpen (possibleInstances clauses) [] [] [] then [definiteModel clauses] else [] := by
  have hnegated : negatedAtoms (possibleInstances clauses) (derivable clauses) = [] := by
    refine List.filter_eq_nil_iff.2 fun a _ => ?_
    rw [Bool.not_eq_true, List.any_eq_false]
    intro i hi
    simp [negative_eq_nil hsafe hdefinite hi]
  have hroom : ∃ room, (if limit = 0 then Nat.pow 2 0 else limit) = room + 1 := by
    cases limit with
    | zero => exact ⟨0, rfl⟩
    | succ room => exact ⟨room, rfl⟩
  obtain ⟨room, hroom⟩ := hroom
  rw [stableModels, hnegated, List.length_nil, hroom, search]
  rfl

/-- There is one stable model at most, and the solver finds it with every limit. -/
theorem stableModels_of_definite :
    ((∀ M, ¬ IsStable clauses M) ∧ ∀ limit, stableModels limit clauses = []) ∨
      ∃ model, (∀ M, IsStable clauses M ↔ M = {a | a ∈ model}) ∧
        ∀ limit, stableModels limit clauses = [model] := by
  have hleast {M : Set GroundAtom} (hM : IsStable clauses M) :
      M = {a | a ∈ definiteModel clauses} := by
    ext a
    exact (hM.mem_iff a).trans (mem_definiteModel_iff hsafe hdefinite M).symm
  by_cases hstable : IsStable clauses {a | a ∈ definiteModel clauses}
  · refine .inr ⟨definiteModel clauses, fun M => ⟨hleast, fun hM => hM ▸ hstable⟩, fun limit => ?_⟩
    rw [stableModels_eq hsafe hdefinite,
      if_pos ((isOpen_iff_isStable hsafe hdefinite).2 hstable)]
  · refine .inl ⟨fun M hM => hstable (hleast hM ▸ hM), fun limit => ?_⟩
    rw [stableModels_eq hsafe hdefinite,
      if_neg fun hopen => hstable ((isOpen_iff_isStable hsafe hdefinite).1 hopen)]

end Definite

end AnswerSetLearning.Solver
