import AnswerSetLearning.Solver.Bounds

namespace AnswerSetLearning.Solver

theorem mem_of_lookup {β : Type} {l : List (String × β)} {x : String} {b : β}
    (h : l.lookup x = some b) : (x, b) ∈ l := by
  obtain ⟨l₁, l₂, rfl, -⟩ := List.lookup_eq_some_iff.1 h
  simp

structure BoundLaw where
  lower : String → Int → Prop
  upper : String → Int → Prop

namespace BoundLaw

variable (law : BoundLaw)

def Lowest (q : Inequality) (n : Int) : Prop :=
  match q.minus with
  | none => n = 0
  | some y => law.lower y n

def Highest (q : Inequality) (m : Int) : Prop :=
  match q.plus with
  | none => m = 0
  | some x => law.upper x m

/-- From bounds that obey the law the inequality draws bounds that do so. -/
structure ClosedUnder (q : Inequality) : Prop where
  lower : ∀ x n, q.plus = some x → law.Lowest q n → law.lower x (q.least + n)
  upper : ∀ y m, q.minus = some y → law.Highest q m → law.upper y (m - q.least)
  empty : ∀ m n, law.Highest q m → law.Lowest q n → m - n < q.least →
    ∀ x, law.lower x 0 ∧ law.upper x (-1)

structure Allows (x : String) (i : Interval) : Prop where
  lower : ∀ m, i.lower = some m → law.lower x m
  upper : ∀ n, i.upper = some n → law.upper x n

def AllowsAll (b : Bounds) : Prop := ∀ x i, (x, i) ∈ b → law.Allows x i

variable {law} {b : Bounds} {s : Bounds.State} {q : Inequality} {qs : List Inequality}

theorem AllowsAll.interval (h : law.AllowsAll b) (x : String) : law.Allows x (b.interval x) := by
  unfold Bounds.interval
  cases hx : b.lookup x with
  | none => exact ⟨by simp [Interval.unbounded], by simp [Interval.unbounded]⟩
  | some i => exact h x i (mem_of_lookup hx)

theorem AllowsAll.set (h : law.AllowsAll b) {x : String} {i : Interval} (hi : law.Allows x i) :
    law.AllowsAll (b.set x i) := by
  intro y j hmem
  unfold Bounds.set at hmem
  split at hmem
  · obtain ⟨⟨z, k⟩, hz, heq⟩ := List.mem_map.1 hmem
    obtain ⟨rfl, rfl⟩ := Prod.mk.inj heq
    split
    · next hzx => exact hzx ▸ hi
    · exact h z k hz
  · rcases List.mem_append.1 hmem with hmem | hmem
    · exact h y j hmem
    · cases List.mem_singleton.1 hmem
      exact hi

theorem AllowsAll.atLeast (h : law.AllowsAll s.bounds) {n : Int} {x? : Option String}
    (hn : ∀ x, x? = some x → law.lower x n) : law.AllowsAll (s.atLeast n x?).bounds := by
  cases x? with
  | none => exact h
  | some x =>
    unfold Bounds.State.atLeast
    dsimp only
    split
    · exact h
    · exact h.set ⟨fun m hm => Option.some.inj hm ▸ hn x rfl, (h.interval x).upper⟩

theorem AllowsAll.atMost (h : law.AllowsAll s.bounds) {n : Int} {x? : Option String}
    (hn : ∀ x, x? = some x → law.upper x n) : law.AllowsAll (s.atMost n x?).bounds := by
  cases x? with
  | none => exact h
  | some x =>
    unfold Bounds.State.atMost
    dsimp only
    split
    · exact h
    · exact h.set ⟨(h.interval x).lower, fun m hm => Option.some.inj hm ▸ hn x rfl⟩

theorem allowsAll_clear (h : ∀ x, law.lower x 0 ∧ law.upper x (-1)) :
    law.AllowsAll s.clear.bounds := by
  intro x i hmem
  obtain ⟨⟨y, j⟩, -, heq⟩ := List.mem_map.1 hmem
  obtain ⟨rfl, rfl⟩ := Prod.mk.inj heq
  exact ⟨fun m hm => Option.some.inj hm ▸ (h y).1, fun n hn => Option.some.inj hn ▸ (h y).2⟩

theorem AllowsAll.highest (h : law.AllowsAll b) {o : Option Int} {m : Int}
    (hnone : q.plus = none → o = some 0) (hsome : ∀ x, q.plus = some x → o = (b.interval x).upper)
    (hm : o = some m) : law.Highest q m := by
  unfold Highest
  cases hx : q.plus with
  | none => exact Option.some.inj (hm.symm.trans (hnone hx))
  | some x => exact (h.interval x).upper m ((hsome x hx).symm.trans hm)

theorem AllowsAll.lowest (h : law.AllowsAll b) {o : Option Int} {n : Int}
    (hnone : q.minus = none → o = some 0) (hsome : ∀ y, q.minus = some y → o = (b.interval y).lower)
    (hn : o = some n) : law.Lowest q n := by
  unfold Lowest
  cases hy : q.minus with
  | none => exact Option.some.inj (hn.symm.trans (hnone hy))
  | some y => exact (h.interval y).lower n ((hsome y hy).symm.trans hn)

theorem AllowsAll.apply (hq : law.ClosedUnder q) (h : law.AllowsAll s.bounds) :
    law.AllowsAll (s.apply q).bounds := by
  unfold Bounds.State.apply
  dsimp only
  split
  · next m n hm hn =>
    have hm : law.Highest q m := h.highest (fun hx => by rw [hx]) (fun x hx => by rw [hx]) hm
    have hn : law.Lowest q n := h.lowest (fun hy => by rw [hy]) (fun y hy => by rw [hy]) hn
    split
    · next hlt => exact allowsAll_clear (hq.empty m n hm hn hlt)
    · exact (h.atLeast fun x hx => hq.lower x n hx hn).atMost fun y hy => hq.upper y m hy hm
  · next m hm _ =>
    have hm : law.Highest q m := h.highest (fun hx => by rw [hx]) (fun x hx => by rw [hx]) hm
    exact h.atMost fun y hy => hq.upper y m hy hm
  · next n _ hn =>
    have hn : law.Lowest q n := h.lowest (fun hy => by rw [hy]) (fun y hy => by rw [hy]) hn
    exact h.atLeast fun x hx => hq.lower x n hx hn
  · exact h

theorem AllowsAll.tighten (hqs : ∀ q ∈ qs, law.ClosedUnder q) (fuel : Nat) {b : Bounds}
    (h : law.AllowsAll b) : law.AllowsAll (b.tighten qs fuel) := by
  induction fuel generalizing b with
  | zero => exact h
  | succ fuel ih =>
    have hround : law.AllowsAll (qs.foldl Bounds.State.apply ⟨b, false⟩).bounds :=
      List.foldlRecOn (motive := fun s : Bounds.State => law.AllowsAll s.bounds) _ _ h
        fun _ hs q hq => hs.apply (hqs q hq)
    rw [Bounds.tighten]
    split
    · exact ih hround
    · exact hround

theorem allowsAll_ofInequalities (hqs : ∀ q ∈ qs, law.ClosedUnder q) :
    law.AllowsAll (.ofInequalities qs) :=
  AllowsAll.tighten hqs _ (by simp [AllowsAll])

end BoundLaw

theorem mem_of_elements? {i : Interval} {ns : List Int} (h : i.elements? = some ns) :
    ∃ l u, i.lower = some l ∧ i.upper = some u ∧ ∀ n, n ∈ ns ↔ l ≤ n ∧ n ≤ u := by
  unfold Interval.elements? at h
  split at h
  · next l u hl hu =>
    cases h
    refine ⟨l, u, hl, hu, fun n => ?_⟩
    simp only [List.mem_map, List.mem_range]
    constructor
    · rintro ⟨k, hk, rfl⟩
      simp only [Int.ofNat_eq_natCast]
      omega
    · rintro ⟨hln, hnu⟩
      refine ⟨(n - l).toNat, by omega, ?_⟩
      simp only [Int.ofNat_eq_natCast]
      omega
  · cases h

theorem exists_of_mem_rangesOf {law : BoundLaw} {tests : List Test}
    (h : ∀ t ∈ tests, ∀ q, Inequality.ofTest? t = some q → law.ClosedUnder q) {x : String}
    {ns : List Int} (hmem : (x, ns) ∈ rangesOf tests) :
    ∃ l u, law.lower x l ∧ law.upper x u ∧ ∀ n, n ∈ ns ↔ l ≤ n ∧ n ≤ u := by
  obtain ⟨⟨y, i⟩, hi, heq⟩ := List.mem_filterMap.1 hmem
  obtain ⟨ms, hms, heq⟩ := Option.map_eq_some_iff.1 heq
  obtain ⟨rfl, rfl⟩ := Prod.mk.inj heq
  have hqs : ∀ q ∈ tests.filterMap Inequality.ofTest?, law.ClosedUnder q := by
    intro q hq
    obtain ⟨t, ht, hq⟩ := List.mem_filterMap.1 hq
    exact h t ht q hq
  obtain ⟨l, u, hl, hu, helements⟩ := mem_of_elements? hms
  have hallows := BoundLaw.allowsAll_ofInequalities hqs y i hi
  exact ⟨l, u, hallows.lower l hl, hallows.upper u hu, helements⟩

end AnswerSetLearning.Solver
