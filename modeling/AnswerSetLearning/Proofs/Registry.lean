import AnswerSetLearning.Registry
import AnswerSetLearning.Proofs.SortedSet
import Mathlib.Data.Set.Lattice
import Mathlib.Order.CompletePartialOrder

namespace AnswerSetLearning.Registry

/-- No literal has two numbers. -/
def WellFormed (r : Registry) : Prop := r.literals.Nodup

/-- Every number that is given out in `r` stands for the same literal in `r'`. -/
def Extends (r r' : Registry) : Prop :=
  ∀ ⦃i : Lit⦄ ⦃l : Literal⦄, r.get? i = some l → r'.get? i = some l

theorem Extends.refl (r : Registry) : r.Extends r := fun _ _ h => h

theorem Extends.trans {r r' r'' : Registry} (h : r.Extends r') (h' : r'.Extends r'') :
    r.Extends r'' := fun _ _ hi => h' (h hi)

def Registers (r : Registry) (s : LitSet) : Prop := ∀ i ∈ s, ∃ l, r.get? i = some l

instance (r : Registry) : Decidable r.WellFormed := inferInstanceAs (Decidable r.literals.Nodup)

instance (r : Registry) (s : LitSet) : Decidable (r.Registers s) :=
  decidable_of_iff (∀ i ∈ s.items, (r.get? i).isSome)
    (by simp only [Option.isSome_iff_exists]; rfl)

theorem Registers.mono {r r' : Registry} {s : LitSet} (h : r.Registers s) (hr : r.Extends r') :
    r'.Registers s := by
  intro i hi
  obtain ⟨l, hl⟩ := h i hi
  exact ⟨l, hr hl⟩

theorem Registers.subset {r : Registry} {s t : LitSet} (h : r.Registers t) (hst : s ⊆ t) :
    r.Registers s := fun i hi => h i (hst hi)

theorem get?_eq_some_iff {r : Registry} {i : Int} {l : Literal} :
    r.get? i = some l ↔ ∃ n : Nat, i = n + 1 ∧ r.literals[n]? = some l := by
  constructor
  · intro h
    by_cases hi : 1 ≤ i
    · refine ⟨(i - 1).toNat, by omega, ?_⟩
      simpa [get?, hi] using h
    · simp [get?, hi] at h
  · rintro ⟨n, rfl, h⟩
    have hpos : (1 : Int) ≤ n + 1 := by omega
    have hsub : (n : Int) + 1 - 1 = n := by omega
    simp [get?, hpos, hsub, h]

theorem mem_literals_iff {r : Registry} {l : Literal} :
    l ∈ r.literals ↔ ∃ i, r.get? i = some l := by
  constructor
  · intro h
    obtain ⟨n, hn⟩ := List.mem_iff_getElem?.1 h
    exact ⟨n + 1, get?_eq_some_iff.2 ⟨n, rfl, hn⟩⟩
  · rintro ⟨i, hi⟩
    obtain ⟨n, -, hn⟩ := get?_eq_some_iff.1 hi
    exact List.mem_of_getElem? hn

theorem get?_injective {r : Registry} (hr : r.WellFormed) {i j : Int} {l : Literal}
    (hi : r.get? i = some l) (hj : r.get? j = some l) : i = j := by
  obtain ⟨m, rfl, hm⟩ := get?_eq_some_iff.1 hi
  obtain ⟨n, rfl, hn⟩ := get?_eq_some_iff.1 hj
  obtain ⟨hlt, -⟩ := List.getElem?_eq_some_iff.1 hm
  rw [(List.getElem?_inj hlt hr).1 (hm.trans hn.symm)]

/-! ## Registration -/

theorem lookup_eq_map (r : Registry) (l : Literal) :
    r.lookup l = (r.literals.idxOf? l).map fun n : Nat => (n : Int) + 1 := by
  unfold lookup
  cases r.literals.idxOf? l <;> rfl

theorem get?_of_lookup {r : Registry} {i : Int} {l : Literal} (h : r.lookup l = some i) :
    r.get? i = some l := by
  rw [lookup_eq_map] at h
  obtain ⟨n, hn, rfl⟩ := Option.map_eq_some_iff.1 h
  obtain ⟨hlt, heq, -⟩ := List.findIdx?_eq_some_iff_getElem.1 hn
  refine get?_eq_some_iff.2 ⟨n, rfl, ?_⟩
  rw [List.getElem?_eq_getElem hlt, eq_of_beq heq]

theorem lookup_eq_none_iff {r : Registry} {l : Literal} :
    r.lookup l = none ↔ l ∉ r.literals := by
  rw [lookup_eq_map, Option.map_eq_none_iff, List.idxOf?_eq_none_iff]

theorem register_extends (r : Registry) (l : Literal) : r.Extends (r.register l).2 := by
  unfold register
  split
  · exact .refl r
  · intro i m hi
    obtain ⟨n, rfl, hn⟩ := get?_eq_some_iff.1 hi
    obtain ⟨hlt, -⟩ := List.getElem?_eq_some_iff.1 hn
    refine get?_eq_some_iff.2 ⟨n, rfl, ?_⟩
    rw [List.getElem?_append_left hlt, hn]

theorem get?_register (r : Registry) (l : Literal) :
    (r.register l).2.get? (r.register l).1 = some l := by
  unfold register
  split
  · next h => exact get?_of_lookup h
  · exact get?_eq_some_iff.2 ⟨r.literals.length, rfl, by simp⟩

theorem WellFormed.register {r : Registry} (hr : r.WellFormed) (l : Literal) :
    (r.register l).2.WellFormed := by
  unfold Registry.register
  split
  · exact hr
  · next h =>
    refine List.nodup_append.2 ⟨hr, List.nodup_singleton l, ?_⟩
    rintro a ha b hb rfl
    exact lookup_eq_none_iff.1 h (List.mem_singleton.1 hb ▸ ha)

theorem registerAll_extends (r : Registry) (ls : List Literal) :
    r.Extends (r.registerAll ls).2 := by
  induction ls generalizing r with
  | nil => exact .refl r
  | cons l ls ih => exact (register_extends r l).trans (ih _)

theorem WellFormed.registerAll {r : Registry} (hr : r.WellFormed) (ls : List Literal) :
    (r.registerAll ls).2.WellFormed := by
  induction ls generalizing r with
  | nil => exact hr
  | cons l ls ih => exact ih (hr.register l)

theorem exists_get?_registerAll {r : Registry} {ls : List Literal} {l : Literal} (h : l ∈ ls) :
    ∃ i, (r.registerAll ls).2.get? i = some l := by
  induction ls generalizing r with
  | nil => exact absurd h List.not_mem_nil
  | cons m ls ih =>
    rcases List.mem_cons.1 h with rfl | h
    · exact ⟨_, registerAll_extends _ ls (get?_register r l)⟩
    · exact ih h

theorem mem_registerAll_iff {r : Registry} (hr : r.WellFormed) {ls : List Literal} {i : Int} :
    i ∈ (r.registerAll ls).1 ↔ ∃ l ∈ ls, (r.registerAll ls).2.get? i = some l := by
  induction ls generalizing r with
  | nil => simp [Registry.registerAll]
  | cons l ls ih =>
    have hl : ((r.register l).2.registerAll ls).2.get? (r.register l).1 = some l :=
      registerAll_extends _ ls (get?_register r l)
    simp only [Registry.registerAll, List.mem_cons, ih (hr.register l), or_and_right, exists_or,
      exists_eq_left]
    refine or_congr_left ⟨fun h => h ▸ hl, fun h => ?_⟩
    exact get?_injective ((hr.register l).registerAll ls) h hl

theorem registerSet_extends (r : Registry) (ls : List Literal) :
    r.Extends (r.registerSet ls).2 := registerAll_extends r ls

theorem WellFormed.registerSet {r : Registry} (hr : r.WellFormed) (ls : List Literal) :
    (r.registerSet ls).2.WellFormed := hr.registerAll ls

theorem normal_registerSet (r : Registry) (ls : List Literal) : (r.registerSet ls).1.Normal :=
  SortedSet.normal_ofList _

theorem mem_registerSet_iff {r : Registry} (hr : r.WellFormed) {ls : List Literal} {i : Lit} :
    i ∈ (r.registerSet ls).1 ↔ ∃ l ∈ ls, (r.registerSet ls).2.get? i = some l :=
  SortedSet.mem_ofList.trans (mem_registerAll_iff hr)

theorem registers_registerSet {r : Registry} (hr : r.WellFormed) (ls : List Literal) :
    (r.registerSet ls).2.Registers (r.registerSet ls).1 := by
  intro i hi
  obtain ⟨l, -, hl⟩ := (mem_registerSet_iff hr).1 hi
  exact ⟨l, hl⟩

theorem registerSets_extends (r : Registry) (lss : List (List Literal)) :
    r.Extends (r.registerSets lss).2 := by
  induction lss generalizing r with
  | nil => exact .refl r
  | cons ls lss ih => exact (registerSet_extends r ls).trans (ih _)

theorem WellFormed.registerSets {r : Registry} (hr : r.WellFormed) (lss : List (List Literal)) :
    (r.registerSets lss).2.WellFormed := by
  induction lss generalizing r with
  | nil => exact hr
  | cons ls lss ih => exact ih (hr.registerSet ls)

theorem registerSets_forall₂ {r : Registry} (hr : r.WellFormed) (lss : List (List Literal)) :
    List.Forall₂ (fun (s : LitSet) ls => s.Normal ∧
      ∀ i, i ∈ s ↔ ∃ l ∈ ls, (r.registerSets lss).2.get? i = some l)
      (r.registerSets lss).1 lss := by
  induction lss generalizing r with
  | nil => exact .nil
  | cons ls lss ih =>
    refine .cons ⟨normal_registerSet r ls, fun i => ?_⟩ (ih (hr.registerSet ls))
    have hext := registerSets_extends (r.registerSet ls).2 lss
    have hwf := (hr.registerSet ls).registerSets lss
    refine (mem_registerSet_iff hr).trans ?_
    refine exists_congr fun l => and_congr_right fun hl => ⟨@hext i l, fun hi => ?_⟩
    obtain ⟨j, hj⟩ := exists_get?_registerAll (r := r) hl
    rwa [get?_injective hwf hi (hext hj)]

theorem registers_registerSets {r : Registry} (hr : r.WellFormed) (lss : List (List Literal)) :
    ∀ s ∈ (r.registerSets lss).1, s.Normal ∧ (r.registerSets lss).2.Registers s := by
  induction lss generalizing r with
  | nil => simp [Registry.registerSets]
  | cons ls lss ih =>
    intro s hs
    cases List.mem_cons.1 hs with
    | inl hs =>
      subst hs
      exact ⟨normal_registerSet r ls,
        (registers_registerSet hr ls).mono (registerSets_extends _ lss)⟩
    | inr hs => exact ih (hr.registerSet ls) s hs

/-! Literals that are registered once more keep their numbers. -/

theorem lookup_register (r : Registry) (l : Literal) :
    (r.register l).2.lookup l = some (r.register l).1 := by
  cases h : r.lookup l with
  | some i => simp [register, h]
  | none =>
    have hnone : r.literals.findIdx? (· == l) = none :=
      List.idxOf?_eq_none_iff.2 (lookup_eq_none_iff.1 h)
    simp [register, h, lookup_eq_map, List.idxOf?, List.findIdx?_append, hnone, size]

theorem lookup_register_of_lookup {r : Registry} {l : Literal} {i : Lit}
    (h : r.lookup l = some i) (m : Literal) : (r.register m).2.lookup l = some i := by
  unfold register
  split
  · exact h
  · rw [lookup_eq_map] at h ⊢
    obtain ⟨n, hn, rfl⟩ := Option.map_eq_some_iff.1 h
    rw [List.idxOf?] at hn ⊢
    rw [List.findIdx?_append, hn]
    rfl

theorem lookup_registerAll_of_lookup {r : Registry} {l : Literal} {i : Lit}
    (h : r.lookup l = some i) (ls : List Literal) : (r.registerAll ls).2.lookup l = some i := by
  induction ls generalizing r with
  | nil => exact h
  | cons m ls ih => exact ih (lookup_register_of_lookup h m)

theorem registerAll_forall₂ (r : Registry) (ls : List Literal) :
    List.Forall₂ (fun l i => (r.registerAll ls).2.lookup l = some i) ls
      (r.registerAll ls).1 := by
  induction ls generalizing r with
  | nil => exact .nil
  | cons l ls ih => exact .cons (lookup_registerAll_of_lookup (lookup_register r l) ls) (ih _)

theorem registerAll_of_forall₂ {r : Registry} {ls : List Literal} {is : List Lit}
    (h : List.Forall₂ (fun l i => r.lookup l = some i) ls is) : r.registerAll ls = (is, r) := by
  induction h with
  | nil => rfl
  | cons hl _ ih => simp [Registry.registerAll, Registry.register, hl, ih]

theorem registerSet_twice (r : Registry) (ls : List Literal) :
    (r.registerSet ls).2.registerSet ls = r.registerSet ls := by
  simp only [registerSet, registerAll_of_forall₂ (registerAll_forall₂ r ls)]

/-! Only the literals that are handed over are added. -/

theorem mem_literals_register {r : Registry} {l m : Literal} :
    l ∈ (r.register m).2.literals ↔ l ∈ r.literals ∨ l = m := by
  unfold Registry.register
  split
  · next h =>
    have hm := mem_literals_iff.2 ⟨_, get?_of_lookup h⟩
    exact ⟨.inl, fun h => h.elim id fun h => h ▸ hm⟩
  · simp

theorem mem_literals_registerAll {r : Registry} {ls : List Literal} {l : Literal} :
    l ∈ (r.registerAll ls).2.literals ↔ l ∈ r.literals ∨ l ∈ ls := by
  induction ls generalizing r with
  | nil => simp [Registry.registerAll]
  | cons m ls ih =>
    rw [Registry.registerAll, List.mem_cons, ← or_assoc, ← mem_literals_register]
    exact ih

theorem mem_literals_registerSet {r : Registry} {ls : List Literal} {l : Literal} :
    l ∈ (r.registerSet ls).2.literals ↔ l ∈ r.literals ∨ l ∈ ls := mem_literals_registerAll

theorem mem_literals_registerSets {r : Registry} {lss : List (List Literal)} {l : Literal} :
    l ∈ (r.registerSets lss).2.literals ↔ l ∈ r.literals ∨ ∃ ls ∈ lss, l ∈ ls := by
  induction lss generalizing r with
  | nil => simp [Registry.registerSets]
  | cons ls lss ih =>
    rw [List.exists_mem_cons_iff, ← or_assoc, ← mem_literals_registerSet]
    exact ih

/-! ## Resolution -/

theorem resolve_eq_ok_iff {r : Registry} {is : List Lit} {ls : List Literal} :
    r.resolve is = .ok ls ↔ is.map r.get? = ls.map some := by
  induction is generalizing ls with
  | nil => cases ls <;> simp [resolve, pure, Except.pure]
  | cons i is ih =>
    rw [resolve, List.mapM_cons]
    change (r.get i >>= fun l => r.resolve is >>= fun ls => pure (l :: ls)) = _ ↔ _
    cases hi : r.get? i with
    | none => cases ls <;> simp [get, hi, bind, Except.bind]
    | some l =>
      cases his : r.resolve is with
      | error e => cases ls <;> simp_all [get, bind, Except.bind]
      | ok ms => cases ls <;> simp_all [get, bind, Except.bind, pure, Except.pure]

theorem exists_resolve {r : Registry} {is : List Lit} (h : ∀ i ∈ is, ∃ l, r.get? i = some l) :
    ∃ ls, r.resolve is = .ok ls := by
  simp only [resolve_eq_ok_iff]
  induction is with
  | nil => exact ⟨[], rfl⟩
  | cons i is ih =>
    obtain ⟨l, hl⟩ := h i List.mem_cons_self
    obtain ⟨ls, hls⟩ := ih fun j hj => h j (List.mem_cons_of_mem i hj)
    exact ⟨l :: ls, by simp [hl, hls]⟩

theorem exists_resolve_of_registers {r : Registry} {sets : List LitSet}
    (h : ∀ s ∈ sets, r.Registers s) : ∃ ls, r.resolve (sets.flatMap SortedSet.items) = .ok ls := by
  refine exists_resolve fun i hi => ?_
  obtain ⟨s, hs, hi⟩ := List.mem_flatMap.1 hi
  exact h s hs i hi

theorem resolve_of_extends {r r' : Registry} {is : List Lit} {ls : List Literal}
    (h : r.resolve is = .ok ls) (hr : r.Extends r') : r'.resolve is = .ok ls := by
  rw [resolve_eq_ok_iff] at h ⊢
  rw [← h]
  refine List.map_congr_left fun i hi => ?_
  obtain ⟨l, -, hl⟩ := List.mem_map.1 (h ▸ List.mem_map_of_mem (f := r.get?) hi)
  rw [hr hl.symm, ← hl]

theorem resolve_injective {r : Registry} (hr : r.WellFormed) {is js : List Lit}
    {ls : List Literal} (hi : r.resolve is = .ok ls) (hj : r.resolve js = .ok ls) : is = js := by
  rw [resolve_eq_ok_iff] at hi hj
  induction ls generalizing is js with
  | nil => simp_all
  | cons l ls ih =>
    obtain ⟨i, is, rfl, hl, hls⟩ := List.map_eq_cons_iff.1 hi
    obtain ⟨j, js, rfl, hl', hls'⟩ := List.map_eq_cons_iff.1 hj
    rw [get?_injective hr hl hl', ih hls hls']

/-! ## Denotation -/

def denote (r : Registry) (s : LitSet) : Set Literal := {l | ∃ i ∈ s, r.get? i = some l}

instance (r : Registry) (s : LitSet) (l : Literal) : Decidable (l ∈ r.denote s) :=
  inferInstanceAs (Decidable (∃ i ∈ s.items, r.get? i = some l))

theorem mem_of_resolve {r : Registry} {s : LitSet} {ls : List Literal}
    (h : r.resolve s.items = .ok ls) {l : Literal} : l ∈ ls ↔ l ∈ r.denote s := by
  calc
    l ∈ ls ↔ some l ∈ ls.map some := by simp
    _ ↔ some l ∈ s.items.map r.get? := by rw [resolve_eq_ok_iff.1 h]
    _ ↔ l ∈ r.denote s := by simp [denote, SortedSet.mem_def]

theorem mem_denote_iff {r : Registry} (hr : r.WellFormed) {s : LitSet} {i : Lit} {l : Literal}
    (h : r.get? i = some l) : l ∈ r.denote s ↔ i ∈ s := by
  constructor
  · rintro ⟨j, hj, hl⟩
    rwa [get?_injective hr h hl]
  · exact fun hi => ⟨i, hi, h⟩

theorem denote_mono {r : Registry} {s t : LitSet} (h : s ⊆ t) : r.denote s ⊆ r.denote t :=
  fun _ ⟨i, hi, hl⟩ => ⟨i, h hi, hl⟩

theorem denote_subset_iff {r : Registry} (hr : r.WellFormed) {s t : LitSet}
    (hs : r.Registers s) : r.denote s ⊆ r.denote t ↔ s ⊆ t := by
  refine ⟨fun h i hi => ?_, denote_mono⟩
  obtain ⟨l, hl⟩ := hs i hi
  exact (mem_denote_iff hr hl).1 (h ⟨i, hi, hl⟩)

theorem denote_of_extends {r r' : Registry} {s : LitSet} (hs : r.Registers s)
    (h : r.Extends r') : r'.denote s = r.denote s := by
  ext l
  constructor
  · rintro ⟨i, hi, hl⟩
    obtain ⟨m, hm⟩ := hs i hi
    cases (h hm).symm.trans hl
    exact ⟨i, hi, hm⟩
  · rintro ⟨i, hi, hl⟩
    exact ⟨i, hi, h hl⟩

theorem denote_union (r : Registry) (s t : LitSet) :
    r.denote (s.union t) = r.denote s ∪ r.denote t := by
  ext l
  simp [denote, or_and_right, exists_or]

theorem denote_diff {r : Registry} (hr : r.WellFormed) {s t : LitSet} (hs : s.Normal)
    (ht : t.Normal) : r.denote (s.diff t) = r.denote s \ r.denote t := by
  ext l
  constructor
  · rintro ⟨i, hi, hl⟩
    rw [SortedSet.mem_diff hs ht] at hi
    exact ⟨⟨i, hi.1, hl⟩, fun h => hi.2 ((mem_denote_iff hr hl).1 h)⟩
  · rintro ⟨⟨i, hi, hl⟩, h⟩
    exact ⟨i, (SortedSet.mem_diff hs ht).2 ⟨hi, fun ht => h ⟨i, ht, hl⟩⟩, hl⟩

end AnswerSetLearning.Registry
