import AnswerSetLearning.Proofs.Registry

namespace AnswerSetLearning

namespace Registry

/-- Literals have been added at the end. -/
def GrowsTo (r r' : Registry) : Prop := r.literals <+: r'.literals

@[refl] theorem GrowsTo.refl (r : Registry) : r.GrowsTo r := List.prefix_refl _

theorem GrowsTo.trans {r r' r'' : Registry} (h : r.GrowsTo r') (h' : r'.GrowsTo r'') :
    r.GrowsTo r'' := List.IsPrefix.trans h h'

theorem GrowsTo.extends {r r' : Registry} (h : r.GrowsTo r') : r.Extends r' := by
  intro i l hi
  obtain ⟨n, rfl, hn⟩ := get?_eq_some_iff.1 hi
  obtain ⟨more, hmore⟩ := h
  obtain ⟨hlt, -⟩ := List.getElem?_eq_some_iff.1 hn
  exact get?_eq_some_iff.2 ⟨n, rfl, by rw [← hmore, List.getElem?_append_left hlt, hn]⟩

theorem growsTo_register (r : Registry) (l : Literal) : r.GrowsTo (r.register l).2 := by
  unfold register
  split
  · exact .refl r
  · exact List.prefix_append _ _

theorem growsTo_registerAll (r : Registry) (ls : List Literal) :
    r.GrowsTo (r.registerAll ls).2 := by
  induction ls generalizing r with
  | nil => exact .refl r
  | cons l ls ih => exact (growsTo_register r l).trans (ih _)

theorem growsTo_registerSets (r : Registry) (lss : List (List Literal)) :
    r.GrowsTo (r.registerSets lss).2 := by
  induction lss generalizing r with
  | nil => exact .refl r
  | cons ls lss ih => exact (growsTo_registerAll r ls).trans (ih _)

def Numbers (r : Registry) (s : LitSet) : Prop := ∀ i ∈ s, 1 ≤ i ∧ i ≤ r.size

theorem exists_get?_iff {r : Registry} {i : Int} :
    (∃ l, r.get? i = some l) ↔ 1 ≤ i ∧ i ≤ r.size := by
  constructor
  · rintro ⟨l, hl⟩
    obtain ⟨n, rfl, hn⟩ := get?_eq_some_iff.1 hl
    obtain ⟨hlt, -⟩ := List.getElem?_eq_some_iff.1 hn
    rw [size]
    omega
  · rintro ⟨hpos, hle⟩
    have hlt : (i - 1).toNat < r.literals.length := by
      rw [size] at hle
      omega
    exact ⟨r.literals[(i - 1).toNat], get?_eq_some_iff.2
      ⟨(i - 1).toNat, by omega, List.getElem?_eq_getElem hlt⟩⟩

theorem numbers_iff_registers {r : Registry} {s : LitSet} : r.Numbers s ↔ r.Registers s :=
  forall₂_congr fun _ _ => exists_get?_iff.symm

theorem Numbers.mono {r r' : Registry} {s : LitSet} (h : r.Numbers s) (hr : r.GrowsTo r') :
    r'.Numbers s := numbers_iff_registers.2 ((numbers_iff_registers.1 h).mono hr.extends)

/-! ## Requests -/

/-- What a registry is asked for. Only `register` may change it. -/
inductive Request
  | register (l : Literal)
  | get (i : Lit)
  | getMany (is : List Lit)
  | lookup (l : Literal)
  | contains (l : Literal)
  | size

inductive Answer
  | number (i : Lit)
  | literal (l : Except InvalidLiteral Literal)
  | literals (ls : List Literal)
  | found (i : Option Lit)
  | truth (b : Bool)
  | size (n : Nat)

def answer (r : Registry) : Request → Answer × Registry
  | .register l => (.number (r.register l).1, (r.register l).2)
  | .get i => (.literal (r.get i), r)
  | .getMany is => (.literals (r.getMany is), r)
  | .lookup l => (.found (r.lookup l), r)
  | .contains l => (.truth (r.contains l), r)
  | .size => (.size r.size, r)

def run (r : Registry) : List Request → List Answer × Registry
  | [] => ([], r)
  | q :: qs => ((r.answer q).1 :: ((r.answer q).2.run qs).1, ((r.answer q).2.run qs).2)

def requested : List Request → List Literal
  | [] => []
  | .register l :: qs => l :: requested qs
  | _ :: qs => requested qs

def after (qs : List Request) : Registry := (empty.run qs).2

theorem run_append (r : Registry) (qs qs' : List Request) :
    r.run (qs ++ qs') = ((r.run qs).1 ++ ((r.run qs).2.run qs').1, ((r.run qs).2.run qs').2) := by
  induction qs generalizing r with
  | nil => rfl
  | cons q qs ih => simp only [List.cons_append, run, ih]

theorem growsTo_answer (r : Registry) (q : Request) : r.GrowsTo (r.answer q).2 := by
  cases q with
  | register l => exact growsTo_register r l
  | _ => exact .refl r

theorem growsTo_run (r : Registry) (qs : List Request) : r.GrowsTo (r.run qs).2 := by
  induction qs generalizing r with
  | nil => exact .refl r
  | cons q qs ih => exact (growsTo_answer r q).trans (ih _)

theorem literals_register (r : Registry) (l : Literal) :
    (r.register l).2.literals = if l ∈ r.literals then r.literals else r.literals ++ [l] := by
  unfold register
  split
  · next h => rw [if_pos (mem_literals_iff.2 ⟨_, get?_of_lookup h⟩)]
  · next h => rw [if_neg (lookup_eq_none_iff.1 h)]

theorem literals_run (r : Registry) (qs : List Request) :
    (r.run qs).2.literals = r.literals ++
      (SortedSet.firstOccurrences (requested qs)).filter (· ∉ r.literals) := by
  induction qs generalizing r with
  | nil => simp [run, requested, SortedSet.firstOccurrences]
  | cons q qs ih =>
    rw [run, ih]
    cases q with
    | register l =>
      rw [answer, literals_register, requested, SortedSet.firstOccurrences]
      split
      · next h =>
        have hl (m : Literal) (hm : m ∉ r.literals) : m ≠ l := fun hml => hm (hml ▸ h)
        rw [List.filter_cons_of_neg (by simpa using h), List.filter_filter]
        refine congrArg _ (List.filter_congr fun m _ => ?_)
        simpa using hl m
      · next h =>
        rw [List.filter_cons_of_pos (by simpa using h), List.filter_filter, List.append_assoc,
          List.singleton_append]
        refine congrArg (fun ls => r.literals ++ l :: ls) (List.filter_congr fun m _ => ?_)
        simp
    | _ => rfl

theorem literals_after (qs : List Request) :
    (after qs).literals = SortedSet.firstOccurrences (requested qs) := by
  simp [after, literals_run, empty]

theorem after_concat (qs : List Request) (q : Request) :
    after (qs ++ [q]) = ((after qs).answer q).2 := by
  rw [after, run_append]
  rfl

theorem registerAll_after (qs : List Request) (ls : List Literal) :
    ((after qs).registerAll ls).2 = after (qs ++ ls.map .register) := by
  induction ls generalizing qs with
  | nil => rw [List.map_nil, List.append_nil]; rfl
  | cons l ls ih =>
    rw [List.map_cons, List.append_cons, ← ih, after_concat]
    rfl

theorem wellFormed_after (qs : List Request) : (after qs).WellFormed := by
  rw [WellFormed, literals_after]
  exact SortedSet.nodup_firstOccurrences _

/-! ## Numbers and literals -/

section Numbers

variable {r : Registry} {i : Int} {l : Literal}

theorem get_eq_ok_iff : r.get i = .ok l ↔ r.get? i = some l := by
  unfold get
  split <;> next h => simp [h]

theorem get_eq_error_iff {e : InvalidLiteral} :
    r.get i = .error e ↔ e = ⟨i⟩ ∧ (i < 1 ∨ r.size < i) := by
  have hnone : r.get? i = none ↔ i < 1 ∨ r.size < i := by
    rw [← Option.not_isSome_iff_eq_none, Option.isSome_iff_exists, exists_get?_iff]
    omega
  unfold get
  split
  · next h => simp [← hnone, h]
  · next h => simp [← hnone, h, eq_comm]

theorem getMany_eq (r : Registry) (is : List Lit) :
    (r.getMany is).map Except.ok = (is.filter fun i : Int => 1 ≤ i ∧ i ≤ r.size).map r.get := by
  induction is with
  | nil => rfl
  | cons i is ih =>
    rw [getMany] at ih ⊢
    by_cases hi : 1 ≤ i ∧ i ≤ r.size
    · obtain ⟨l, hl⟩ := exists_get?_iff.2 hi
      rw [List.filterMap_cons_some hl, List.filter_cons_of_pos (by simpa using hi), List.map_cons,
        List.map_cons, ih, get_eq_ok_iff.2 hl]
    · have hnone : r.get? i = none :=
        Option.eq_none_iff_forall_ne_some.2 fun l hl => hi (exists_get?_iff.1 ⟨l, hl⟩)
      rw [List.filterMap_cons_none hnone, List.filter_cons_of_neg (by simpa using hi), ih]

theorem register_of_lookup (h : r.lookup l = some i) : r.register l = (i, r) := by
  simp [register, h]

theorem register_of_not_mem (h : l ∉ r.literals) :
    r.register l = ((r.size : Lit) + 1, ⟨r.literals ++ [l]⟩) := by
  simp [register, lookup_eq_none_iff.2 h]

theorem contains_iff : r.contains l = true ↔ l ∈ r.literals := by
  rw [contains, Option.isSome_iff_ne_none, ne_eq, lookup_eq_none_iff, not_not]

theorem exists_lookup (h : l ∈ r.literals) : ∃ i, r.lookup l = some i :=
  Option.ne_none_iff_exists'.1 fun hnone => lookup_eq_none_iff.1 hnone h

theorem lookup_eq_some_iff (hr : r.WellFormed) : r.lookup l = some i ↔ r.get? i = some l := by
  refine ⟨get?_of_lookup, fun h => ?_⟩
  obtain ⟨j, hj⟩ := exists_lookup (mem_literals_iff.2 ⟨i, h⟩)
  rw [hj, get?_injective hr h (get?_of_lookup hj)]

end Numbers

/-! ## The registry as two tables -/

def entries (r : Registry) : List (Literal × Lit) :=
  r.literals.zipIdx.map fun (l, n) => (l, (n : Lit) + 1)

theorem lookup_zipIdx (ls : List Literal) (l : Literal) (k : Nat) :
    ((ls.zipIdx k).map fun (m, n) => (m, (n : Lit) + 1)).lookup l =
      (ls.idxOf? l).map fun n : Nat => (n : Lit) + k + 1 := by
  induction ls generalizing k with
  | nil => rfl
  | cons m ls ih =>
    rw [List.zipIdx_cons, List.map_cons, List.lookup_cons, List.idxOf?_cons, ih]
    by_cases h : l = m
    · simp [h]
    · have h' : (m == l) = false := by simpa using Ne.symm h
      simp only [beq_false_of_ne h, h', Bool.false_eq_true, if_false, Option.map_map]
      refine congrArg (Option.map · _) (funext fun n => ?_)
      have hshift : (n : Int) + (k + 1 : Nat) + 1 = (n + 1 : Nat) + k + 1 := by omega
      exact hshift

theorem lookup_entries (r : Registry) (l : Literal) : r.entries.lookup l = r.lookup l := by
  rw [entries, lookup_zipIdx, lookup_eq_map]
  simp

theorem entries_concat (r : Registry) (l : Literal) :
    entries ⟨r.literals ++ [l]⟩ = r.entries ++ [(l, (r.size : Lit) + 1)] := by
  simp [entries, List.zipIdx_append, size]

end Registry

structure Tables where
  literals : List Literal
  numbers : List (Literal × Lit)

namespace Tables

open Registry (Request Answer)

variable (t : Tables)

def register (l : Literal) : Lit × Tables :=
  match t.numbers.lookup l with
  | some i => (i, t)
  | none =>
    let literals := t.literals ++ [l]
    let i : Lit := literals.length
    (i, ⟨literals, t.numbers ++ [(l, i)]⟩)

def get (i : Int) : Except InvalidLiteral Literal :=
  if h : i < 1 ∨ t.literals.length < i then .error ⟨i⟩ else .ok t.literals[(i - 1).toNat]

def getMany (is : List Int) : List Literal :=
  is.filterMap fun i : Int =>
    if h : 0 < i ∧ i ≤ t.literals.length then some t.literals[(i - 1).toNat] else none

def answer : Request → Answer × Tables
  | .register l => (.number (t.register l).1, (t.register l).2)
  | .get i => (.literal (t.get i), t)
  | .getMany is => (.literals (t.getMany is), t)
  | .lookup l => (.found (t.numbers.lookup l), t)
  | .contains l => (.truth (t.numbers.lookup l).isSome, t)
  | .size => (.size t.literals.length, t)

def run (t : Tables) : List Request → List Answer × Tables
  | [] => ([], t)
  | q :: qs => ((t.answer q).1 :: ((t.answer q).2.run qs).1, ((t.answer q).2.run qs).2)

def ofRegistry (r : Registry) : Tables := ⟨r.literals, r.entries⟩

theorem register_ofRegistry (r : Registry) (l : Literal) :
    (ofRegistry r).register l = ((r.register l).1, ofRegistry (r.register l).2) := by
  simp only [register, ofRegistry, Registry.lookup_entries, Registry.register]
  cases r.lookup l with
  | some i => rfl
  | none => simp [Registry.entries_concat, Registry.size]

theorem getElem_eq_get? {r : Registry} {i : Int} (h : 1 ≤ i) (h' : i ≤ r.literals.length) :
    r.get? i = some (r.literals.get ⟨(i - 1).toNat, by omega⟩) :=
  Registry.get?_eq_some_iff.2 ⟨(i - 1).toNat, by omega, List.getElem?_eq_getElem _⟩

theorem get_ofRegistry (r : Registry) (i : Int) : (ofRegistry r).get i = r.get i := by
  by_cases h : i < 1 ∨ r.literals.length < i
  · exact (dif_pos h).trans (Registry.get_eq_error_iff.2 ⟨rfl, h⟩).symm
  · refine (dif_neg h).trans (Registry.get_eq_ok_iff.2 ?_).symm
    exact getElem_eq_get? (by omega) (by omega)

theorem getMany_ofRegistry (r : Registry) (is : List Int) :
    (ofRegistry r).getMany is = r.getMany is := by
  refine List.filterMap_congr fun i _ => ?_
  by_cases h : 0 < i ∧ i ≤ r.literals.length
  · exact (dif_pos h).trans (getElem_eq_get? h.1 h.2).symm
  · refine (dif_neg h).trans (Option.eq_none_iff_forall_ne_some.2 fun l hl => h ?_).symm
    exact Registry.exists_get?_iff.1 ⟨l, hl⟩

theorem answer_ofRegistry (r : Registry) (q : Request) :
    (ofRegistry r).answer q = ((r.answer q).1, ofRegistry (r.answer q).2) := by
  cases q with
  | register l => rw [answer, register_ofRegistry, Registry.answer]
  | get i => rw [answer, get_ofRegistry, Registry.answer]
  | getMany is => rw [answer, getMany_ofRegistry, Registry.answer]
  | lookup l => rw [answer, ofRegistry, Registry.lookup_entries, Registry.answer]; rfl
  | contains l => rw [answer, ofRegistry, Registry.lookup_entries, Registry.answer]; rfl
  | size => rfl

theorem run_ofRegistry (r : Registry) (qs : List Request) :
    (ofRegistry r).run qs = ((r.run qs).1, ofRegistry (r.run qs).2) := by
  induction qs generalizing r with
  | nil => rfl
  | cons q qs ih => simp only [run, Registry.run, answer_ofRegistry, ih]

end Tables

/-! ## Numbers given out in order -/

namespace Registry

/-- After any requests the numbers from 1 to the size are given out to the requested literals, in
the order in which each was first requested. Number and literal determine each other, a further
request changes this only by adding a new literal at the end, and the two tables of the registry
stay inverse to each other. -/
theorem numbers_after (qs : List Request) :
    ((after qs).literals = SortedSet.firstOccurrences (requested qs) ∧
      (after qs).size = (SortedSet.firstOccurrences (requested qs)).length ∧
      ∀ i l, (after qs).get i = .ok l ↔
        ∃ n : Nat, i = n + 1 ∧ (SortedSet.firstOccurrences (requested qs))[n]? = some l) ∧
    (∀ q, empty.run (qs ++ [q]) =
      ((empty.run qs).1 ++ [((after qs).answer q).1], ((after qs).answer q).2)) ∧
    (∀ l ∈ requested qs, ∃ i, (after qs).lookup l = some i ∧
      (after qs).register l = (i, after qs)) ∧
    (∀ l ∉ requested qs, (after qs).lookup l = none ∧
      (after qs).register l = (((after qs).size : Int) + 1, ⟨(after qs).literals ++ [l]⟩)) ∧
    (∀ ms, ((after qs).registerSet ms).2 = after (qs ++ ms.map .register) ∧
      ∀ i, i ∈ ((after qs).registerSet ms).1 ↔
        ∃ l ∈ ms, ((after qs).registerSet ms).2.lookup l = some i) ∧
    (∀ l, ((after qs).register l).2.get ((after qs).register l).1 = .ok l) ∧
    (∀ i l, (after qs).get i = .ok l → (after qs).register l = (i, after qs)) ∧
    (∀ more i l, (after qs).get i = .ok l → (after (qs ++ more)).get i = .ok l) ∧
    (∀ l, (∀ i, (after qs).lookup l = some i ↔ (after qs).get i = .ok l) ∧
      ((after qs).contains l = true ↔ l ∈ requested qs)) ∧
    (∀ i e, (after qs).get i = .error e ↔ e = ⟨i⟩ ∧ (i < 1 ∨ (after qs).size < i)) ∧
    (∀ is, ((after qs).getMany is).map Except.ok =
      (is.filter fun i : Int => 1 ≤ i ∧ i ≤ (after qs).size).map (after qs).get) ∧
    (Tables.run ⟨[], []⟩ qs = ((empty.run qs).1, ⟨(after qs).literals, (after qs).entries⟩) ∧
      ∀ l, (after qs).entries.lookup l = (after qs).lookup l) := by
  have hmem (l : Literal) : l ∈ (after qs).literals ↔ l ∈ requested qs := by
    rw [literals_after, SortedSet.mem_firstOccurrences]
  have hnumber (l : Literal) (i : Lit) :
      (after qs).lookup l = some i ↔ (after qs).get i = .ok l :=
    (lookup_eq_some_iff (wellFormed_after qs)).trans get_eq_ok_iff.symm
  refine ⟨⟨literals_after qs, by rw [size, literals_after], fun i l => ?_⟩, fun q => ?_,
    fun l hl => ?_, fun l hl => ?_, fun ms => ⟨registerAll_after qs ms, fun i => ?_⟩,
    fun l => ?_, fun i l h => ?_, fun more i l h => ?_, fun l => ⟨hnumber l, ?_⟩,
    fun i e => get_eq_error_iff, getMany_eq _, Tables.run_ofRegistry empty qs,
    lookup_entries _⟩
  · rw [get_eq_ok_iff, get?_eq_some_iff, literals_after]
  · rw [run_append]
    rfl
  · obtain ⟨i, hi⟩ := exists_lookup ((hmem l).2 hl)
    exact ⟨i, hi, register_of_lookup hi⟩
  · have hnew : l ∉ (after qs).literals := mt (hmem l).1 hl
    exact ⟨lookup_eq_none_iff.2 hnew, register_of_not_mem hnew⟩
  · have hr := (wellFormed_after qs).registerAll ms
    rw [registerSet, SortedSet.mem_ofList, mem_registerAll_iff (wellFormed_after qs)]
    exact exists_congr fun l => and_congr_right fun _ => (lookup_eq_some_iff hr).symm
  · exact get_eq_ok_iff.2 (get?_register _ l)
  · exact register_of_lookup ((hnumber l i).2 h)
  · have hgrows : (after qs).GrowsTo (after (qs ++ more)) := by
      rw [after, after, run_append]
      exact growsTo_run _ more
    exact get_eq_ok_iff.2 (hgrows.extends (get_eq_ok_iff.1 h))
  · rw [contains_iff, hmem]

def twoLiterals : List Request :=
  [.register ⟨"p", []⟩, .lookup ⟨"q", ["a"]⟩, .register ⟨"q", ["a"]⟩, .register ⟨"p", []⟩, .get 7]

theorem numbers_after_twoLiterals :
    (after twoLiterals).literals = [⟨"p", []⟩, ⟨"q", ["a"]⟩] ∧
    ((after twoLiterals).get 2 = .ok ⟨"q", ["a"]⟩ ∧
      (after twoLiterals).register ⟨"q", ["a"]⟩ = (2, after twoLiterals) ∧
      (after (twoLiterals ++ [.register ⟨"r", []⟩])).get 2 = .ok ⟨"q", ["a"]⟩) ∧
    (after twoLiterals).register ⟨"r", []⟩ = (3, ⟨[⟨"p", []⟩, ⟨"q", ["a"]⟩, ⟨"r", []⟩]⟩) ∧
    (after twoLiterals).get 3 = .error ⟨3⟩ ∧
    (after twoLiterals).getMany [2, 7, 0, 1] = [⟨"q", ["a"]⟩, ⟨"p", []⟩] := by
  obtain ⟨⟨hls, -⟩, -, -, hnew, -, -, hknown, hlater, -, herror, -⟩ := numbers_after twoLiterals
  have hget : (after twoLiterals).get 2 = .ok ⟨"q", ["a"]⟩ := rfl
  refine ⟨hls.trans rfl, ⟨hget, hknown _ _ hget, hlater _ _ _ hget⟩, ?_, ?_, rfl⟩
  · rw [(hnew ⟨"r", []⟩ (by decide)).2]
    rfl
  · exact (herror 3 ⟨3⟩).2 ⟨rfl, .inr (by decide +kernel)⟩

end Registry

end AnswerSetLearning
