import AnswerSetLearning.Proofs.Solver.Semantics
import AnswerSetLearning.Solver.Dependency
import Mathlib.Data.List.Nodup
import Mathlib.Data.List.Perm.Subperm
import Mathlib.Logic.Relation

namespace AnswerSetLearning.Solver

section Graph

variable {α : Type} {next : α → List α} {x y : α}

def Leads (next : α → List α) : α → α → Prop := Relation.ReflTransGen fun x y => y ∈ next x

theorem Leads.exists_exit {S T : α → Prop} (hST : ∀ u, S u → ∀ z ∈ next u, T z) (hx : S x)
    (h : Leads next x y) : S y ∨ ∃ z, T z ∧ ¬ S z ∧ Leads next x z := by
  induction h with
  | refl => exact .inl hx
  | @tail u y hu hy ih =>
    rcases ih with hu' | hexit
    · by_cases hy' : S y
      · exact .inl hy'
      · exact .inr ⟨y, hST u hu' y hy, hy', hu.tail hy⟩
    · exact .inr hexit

/-! ## Walks -/

namespace Walk

variable {w w' w'' : Walk α}

/-- A node on a cycle with `x` is found before it. -/
def HasEarlier (next : α → List α) (w : Walk α) (x : α) : Prop :=
  ∃ z, Leads next x z ∧ Leads next z x ∧ [z, x].Sublist w.found

/-- What is true of a walk all the time. A node that has been left leads to the nodes left before
it only, unless it has been entered by a cycle. -/
structure Orderly (next : α → List α) (w : Walk α) : Prop where
  nodup : w.found.Nodup
  left_subset : w.left ⊆ w.found
  closed : ∀ x ∈ w.left, ∀ y ∈ next x, y ∈ w.found
  beyond : ∀ x ∈ w.left, ∀ y, y ∉ w.left → Leads next x y → w.HasEarlier next x
  ordered : w.left.Pairwise fun x y => Leads next x y → w.HasEarlier next x

/-- A walk goes on and comes back to where it was: it leaves all nodes that it finds and no
others. -/
structure Continues (w w' : Walk α) : Prop where
  found : w.found.Sublist w'.found
  left : w.left ⊆ w'.left
  returns : ∀ z ∈ w'.found, z ∉ w'.left → z ∈ w.found
  stays : ∀ z ∈ w.found, z ∈ w'.left → z ∈ w.left

theorem Continues.refl (w : Walk α) : w.Continues w :=
  ⟨.refl _, fun _ h => h, fun _ h _ => h, fun _ _ h => h⟩

theorem Continues.trans (h : w.Continues w') (h' : w'.Continues w'') : w.Continues w'' where
  found := h.found.trans h'.found
  left _ hz := h'.left (h.left hz)
  returns z hz hleft := h.returns z (h'.returns z hz hleft) fun hz => hleft (h'.left hz)
  stays z hz hleft := h.stays z hz (h'.stays z (h.found.subset hz) hleft)

theorem HasEarlier.mono (h : w.HasEarlier next x) (hfound : w.found.Sublist w'.found) :
    w'.HasEarlier next x := by
  obtain ⟨z, hxz, hzx, hsub⟩ := h
  exact ⟨z, hxz, hzx, hsub.trans hfound⟩

theorem orderly_empty : Orderly next (.empty : Walk α) := by
  constructor <;> simp [empty]

theorem Orderly.find (h : w.Orderly next) (hx : x ∉ w.found) :
    Orderly next { w with found := w.found ++ [x] } where
  nodup := List.nodup_append.2 ⟨h.nodup, List.nodup_singleton x, by
    rintro z hz _ hx' rfl
    exact hx (List.mem_singleton.1 hx' ▸ hz)⟩
  left_subset z hz := List.mem_append_left _ (h.left_subset hz)
  closed u hu y hy := List.mem_append_left _ (h.closed u hu y hy)
  beyond u hu y hy huy := (h.beyond u hu y hy huy).mono (List.sublist_append_left _ _)
  ordered := h.ordered.imp fun h huy => (h huy).mono (List.sublist_append_left _ _)

theorem Orderly.leave (h : w.Orderly next) (hx : x ∈ w.found) (hleft : x ∉ w.left)
    (hnext : ∀ y ∈ next x, y ∈ w.found)
    (hpending : ∀ z ∈ w.found, z ∉ w.left → z ≠ x → Leads next z x ∧ [z, x].Sublist w.found) :
    Orderly next { w with left := w.left ++ [x] } where
  nodup := h.nodup
  left_subset := List.append_subset.2 ⟨h.left_subset, by simpa using hx⟩
  closed u hu y hy := by
    rcases List.mem_append.1 hu with hu | hu
    · exact h.closed u hu y hy
    · exact hnext y (List.mem_singleton.1 hu ▸ hy)
  beyond u hu y hy huy := by
    rcases List.mem_append.1 hu with hu | hu
    · exact h.beyond u hu y (fun hy' => hy (List.mem_append_left _ hy')) huy
    · cases List.mem_singleton.1 hu
      -- a path to `y` leads out of the nodes that have been left, to one that is still open
      have hclosed : ∀ z ∈ w.left ++ [x], ∀ t ∈ next z, t ∈ w.found := by
        intro z hz
        rcases List.mem_append.1 hz with hz | hz
        · exact h.closed z hz
        · exact List.mem_singleton.1 hz ▸ hnext
      obtain ⟨z, hz, hzleft, hxz⟩ := (huy.exists_exit hclosed (by simp)).resolve_left hy
      rw [List.mem_append, List.mem_singleton, not_or] at hzleft
      obtain ⟨hzx, hsub⟩ := hpending z hz hzleft.1 hzleft.2
      exact ⟨z, hxz, hzx, hsub⟩
  ordered := List.pairwise_append.2 ⟨h.ordered, List.pairwise_singleton _ _, by
    intro u hu y hy huy
    cases List.mem_singleton.1 hy
    exact h.beyond u hu x hleft huy⟩

variable {nodes : List α}

structure Visits (next : α → List α) (nodes : List α) (w : Walk α) (xs : List α) (w' : Walk α) :
    Prop where
  orderly : w'.Orderly next
  continues : w.Continues w'
  visited : xs ⊆ w'.found
  inside : w'.found ⊆ nodes

structure Ready (next : α → List α) (nodes : List α) (fuel : Nat) (w : Walk α) (x : α) : Prop where
  orderly : w.Orderly next
  inside : w.found ⊆ nodes
  node : x ∈ nodes
  fuel : nodes.length ≤ fuel + w.found.length
  pending : ∀ z ∈ w.found, z ∉ w.left → Leads next z x

theorem Ready.continues {fuel : Nat} (h : w.Ready next nodes fuel x) {xs : List α}
    (hw : w.Visits next nodes xs w') : w'.Ready next nodes fuel x where
  orderly := hw.orderly
  inside := hw.inside
  node := h.node
  fuel := h.fuel.trans (Nat.add_le_add_left hw.continues.found.length_le _)
  pending z hz hleft := h.pending z (hw.continues.returns z hz hleft)
    fun hz => hleft (hw.continues.left hz)

theorem Ready.find {fuel : Nat} (h : w.Ready next nodes (fuel + 1) x) (hx : x ∉ w.found)
    (hy : y ∈ next x) (hnode : y ∈ nodes) :
    Ready next nodes fuel { w with found := w.found ++ [x] } y where
  orderly := h.orderly.find hx
  inside := List.append_subset.2 ⟨h.inside, by simpa using h.node⟩
  node := hnode
  fuel := by
    have hfuel := h.fuel
    rw [List.length_append, List.length_singleton]
    omega
  pending z hz hleft := by
    rcases List.mem_append.1 hz with hz | hz
    · exact (h.pending z hz hleft).tail hy
    · cases List.mem_singleton.1 hz
      exact .single hy

theorem Ready.leave {fuel : Nat} (h : w.Ready next nodes fuel x) (hx : x ∉ w.found)
    (hw : Visits next nodes { w with found := w.found ++ [x] } (next x) w') :
    w.Visits next nodes [x] { w' with left := w'.left ++ [x] } := by
  have hx' : x ∈ w'.found := hw.continues.found.subset (by simp)
  have hleft : x ∉ w'.left := fun hmem =>
    hx (h.orderly.left_subset (hw.continues.stays x (by simp) hmem))
  have hreturns : ∀ z ∈ w'.found, z ∉ w'.left → z ≠ x → z ∈ w.found := fun z hz hzleft hzx => by
    simpa [hzx] using hw.continues.returns z hz hzleft
  refine ⟨hw.orderly.leave hx' hleft (fun y hy => hw.visited hy) ?_, ?_, by simpa using hx',
    hw.inside⟩
  · intro z hz hzleft hzx
    have hzw := hreturns z hz hzleft hzx
    refine ⟨h.pending z hzw fun hmem => hzleft (hw.continues.left hmem), ?_⟩
    exact ((List.singleton_sublist.2 hzw).append (.refl [x])).trans hw.continues.found
  · refine ⟨(List.sublist_append_left _ _).trans hw.continues.found,
      fun z hz => List.mem_append_left _ (hw.continues.left hz), fun z hz hzleft => ?_,
      fun z hz hzleft => ?_⟩
    · rw [List.mem_append, List.mem_singleton, not_or] at hzleft
      exact hreturns z hz hzleft.1 hzleft.2
    · rcases List.mem_append.1 hzleft with hzleft | hzleft
      · exact hw.continues.stays z (List.mem_append_left _ hz) hzleft
      · exact absurd (List.mem_singleton.1 hzleft ▸ hz) hx

variable [DecidableEq α]

theorem visit_subset {S : α → Prop} (hnext : ∀ x, S x → ∀ y ∈ next x, S y) (fuel : Nat)
    (hw : ∀ y ∈ w.found, S y) (hx : S x) : ∀ y ∈ (visit next fuel w x).found, S y := by
  induction fuel generalizing w x with
  | zero => exact hw
  | succ fuel ih =>
    rw [visit]
    split
    · exact hw
    · refine List.foldlRecOn (motive := fun w : Walk α => ∀ y ∈ w.found, S y) _ _ ?_ ?_
      · simpa [or_imp, forall_and] using ⟨hw, hx⟩
      · exact fun _ hw y hy => ih hw (hnext x hx y hy)

theorem visits_foldl {fuel : Nat}
    (hvisit : ∀ (w : Walk α) (x : α), w.Ready next nodes fuel x →
      w.Visits next nodes [x] (visit next fuel w x)) (xs : List α)
    (hw : w.Orderly next) (hinside : w.found ⊆ nodes) (h : ∀ x ∈ xs, w.Ready next nodes fuel x) :
    w.Visits next nodes xs (xs.foldl (visit next fuel) w) := by
  induction xs generalizing w with
  | nil => exact ⟨hw, .refl w, List.nil_subset _, hinside⟩
  | cons x xs ih =>
    have hx := hvisit w x (h x List.mem_cons_self)
    have hxs := ih hx.orderly hx.inside
      fun y hy => (h y (List.mem_cons_of_mem x hy)).continues hx
    refine ⟨hxs.orderly, hx.continues.trans hxs.continues, List.cons_subset.2 ⟨?_, hxs.visited⟩,
      hxs.inside⟩
    exact hxs.continues.found.subset (hx.visited (List.mem_singleton_self x))

theorem visits_visit (hnext : ∀ x ∈ nodes, next x ⊆ nodes) (fuel : Nat) (w : Walk α) (x : α)
    (h : w.Ready next nodes fuel x) : w.Visits next nodes [x] (visit next fuel w x) := by
  induction fuel generalizing w x with
  | zero =>
    -- all nodes have been found
    have hperm := (List.subperm_of_subset h.orderly.nodup h.inside).perm_of_length_le
      (by simpa using h.fuel)
    exact ⟨h.orderly, .refl w, by simpa [visit] using hperm.symm.subset h.node, h.inside⟩
  | succ fuel ih =>
    rw [visit]
    split
    · next hx => exact ⟨h.orderly, .refl w, by simpa using hx, h.inside⟩
    · next hx =>
      exact h.leave hx <| visits_foldl ih (next x) (h.orderly.find hx)
        (List.append_subset.2 ⟨h.inside, by simpa using h.node⟩)
        fun y hy => h.find hx hy (hnext x h.node hy)

end Walk

/-! ## Components -/

variable [DecidableEq α] {nodes : List α}

theorem mem_reachable_iff (hnext : ∀ x ∈ nodes, next x ⊆ nodes) (hx : x ∈ nodes) :
    y ∈ reachable next nodes.length x ↔ Leads next x y := by
  constructor
  · refine Walk.visit_subset (fun u hu z hz => hu.tail hz) _ ?_ .refl y
    simp [Walk.empty]
  · intro h
    have hw := Walk.visits_visit hnext nodes.length .empty x
      ⟨Walk.orderly_empty, by simp [Walk.empty], hx, by simp, by simp [Walk.empty]⟩
    induction h with
    | refl => exact hw.visited (List.mem_singleton_self x)
    | @tail u y _ hy hu =>
      have hleft : u ∈ (Walk.visit next nodes.length .empty x).left := by
        by_contra hleft
        cases hw.continues.returns u hu hleft
      exact hw.orderly.closed u hleft y hy

section Parts

variable (next : α → List α) (nodes : List α)

abbrev edgesWithin (x : α) : List α := (next x).filter (· ∈ nodes)

def wholeWalk : Walk α := nodes.foldl (Walk.visit (edgesWithin next nodes) nodes.length) .empty

def leads (x y : α) : Bool :=
  ((nodes.map fun x => (x, reachable (edgesWithin next nodes) nodes.length x)).lookup x).any
    (y ∈ ·)

def cycle (x : α) : List α :=
  (wholeWalk next nodes).found.filter fun y => leads next nodes x y && leads next nodes y x

theorem components_eq : components next nodes = (wholeWalk next nodes).left.filterMap fun x =>
    if (cycle next nodes x).head? = some x then some (cycle next nodes x) else none := rfl

variable {next nodes}

theorem edgesWithin_subset : edgesWithin next nodes x ⊆ nodes :=
  fun y hy => by simpa using (List.mem_filter.1 hy).2

theorem visits_wholeWalk :
    Walk.Visits (edgesWithin next nodes) nodes .empty nodes (wholeWalk next nodes) :=
  Walk.visits_foldl (Walk.visits_visit (fun _ _ => edgesWithin_subset) _) nodes
    Walk.orderly_empty (by simp [Walk.empty])
    fun x hx => ⟨Walk.orderly_empty, by simp [Walk.empty], hx, by simp, by simp [Walk.empty]⟩

theorem mem_left_wholeWalk (hx : x ∈ (wholeWalk next nodes).found) :
    x ∈ (wholeWalk next nodes).left := by
  by_contra hleft
  cases visits_wholeWalk.continues.returns x hx hleft

theorem leads_iff (hx : x ∈ nodes) :
    leads next nodes x y = true ↔ Leads (edgesWithin next nodes) x y := by
  rw [leads, List.lookup_graph _ hx, ← mem_reachable_iff (fun _ _ => edgesWithin_subset) hx]
  simp

theorem mem_cycle_iff (hx : x ∈ nodes) : y ∈ cycle next nodes x ↔ y ∈ nodes ∧
    Leads (edgesWithin next nodes) x y ∧ Leads (edgesWithin next nodes) y x := by
  have hnodes : y ∈ (wholeWalk next nodes).found ↔ y ∈ nodes :=
    ⟨fun h => visits_wholeWalk.inside h, fun h => visits_wholeWalk.visited h⟩
  rw [cycle, List.mem_filter, Bool.and_eq_true, hnodes]
  exact and_congr_right fun hy => and_congr (leads_iff hx) (leads_iff hy)

theorem mem_cycle_self (hx : x ∈ nodes) : x ∈ cycle next nodes x :=
  (mem_cycle_iff hx).2 ⟨hx, .refl, .refl⟩

theorem cycle_eq (hx : x ∈ nodes) (hy : y ∈ cycle next nodes x) :
    cycle next nodes y = cycle next nodes x := by
  obtain ⟨hy, hxy, hyx⟩ := (mem_cycle_iff hx).1 hy
  refine List.filter_congr fun z hz => ?_
  have hz := visits_wholeWalk.inside hz
  rw [Bool.eq_iff_iff, Bool.and_eq_true, Bool.and_eq_true, leads_iff hx, leads_iff hy,
    leads_iff hz, leads_iff hz]
  exact ⟨fun h => ⟨hxy.trans h.1, h.2.trans hyx⟩, fun h => ⟨hyx.trans h.1, h.2.trans hxy⟩⟩

theorem exists_mem_components (hx : x ∈ nodes) : ∃ c ∈ components next nodes, x ∈ c := by
  have hself : x ∈ cycle next nodes x := mem_cycle_self hx
  obtain ⟨y, rest, hcycle⟩ := List.exists_cons_of_ne_nil (List.ne_nil_of_mem hself)
  have hy : y ∈ cycle next nodes x := hcycle ▸ List.mem_cons_self
  have hleft : y ∈ (wholeWalk next nodes).left :=
    mem_left_wholeWalk (visits_wholeWalk.visited ((mem_cycle_iff hx).1 hy).1)
  refine ⟨cycle next nodes x, ?_, hself⟩
  rw [components_eq]
  exact List.mem_filterMap.2 ⟨y, hleft, by simp [cycle_eq hx hy, hcycle]⟩

theorem mem_of_mem_components {c : List α} (h : c ∈ components next nodes) (hx : x ∈ c) :
    x ∈ nodes := by
  rw [components_eq] at h
  obtain ⟨y, -, h⟩ := List.mem_filterMap.1 h
  obtain ⟨-, ⟨⟩⟩ := Option.ite_none_right_eq_some.1 h
  exact visits_wholeWalk.inside (List.mem_of_mem_filter hx)

theorem not_hasEarlier (hx : x ∈ nodes) (hhead : (cycle next nodes x).head? = some x) :
    ¬ (wholeWalk next nodes).HasEarlier (edgesWithin next nodes) x := by
  rintro ⟨z, hxz, hzx, hsub⟩
  have hz : z ∈ nodes := visits_wholeWalk.inside (hsub.subset List.mem_cons_self)
  have hkept : ∀ y ∈ [z, x], (leads next nodes x y && leads next nodes y x) = true := by
    simpa [leads_iff hx, leads_iff hz] using ⟨⟨hxz, hzx⟩, .refl⟩
  have hpair : [z, x].Sublist (cycle next nodes x) := List.filter_eq_self.2 hkept ▸ hsub.filter _
  have hnodup : (cycle next nodes x).Nodup := visits_wholeWalk.orderly.nodup.filter _
  obtain ⟨rest, hcycle⟩ := List.head?_eq_some_iff.1 hhead
  rw [hcycle] at hpair
  rw [hcycle, List.nodup_cons] at hnodup
  cases hpair with
  | cons _ h => exact hnodup.1 (h.subset (by simp))
  | cons_cons _ h => exact hnodup.1 (h.subset (by simp))

/-- No edge leads from a component to a later one. -/
theorem pairwise_components : (components next nodes).Pairwise
    fun c d => ∀ x ∈ c, ∀ y ∈ d, y ∉ next x := by
  rw [components_eq, List.pairwise_filterMap]
  refine visits_wholeWalk.orderly.ordered.imp_of_mem fun {x y} hx hy h c hc d hd u hu t ht hut => ?_
  have hx := visits_wholeWalk.inside (visits_wholeWalk.orderly.left_subset hx)
  have hy := visits_wholeWalk.inside (visits_wholeWalk.orderly.left_subset hy)
  obtain ⟨hhead, ⟨⟩⟩ := Option.ite_none_right_eq_some.1 hc
  obtain ⟨-, ⟨⟩⟩ := Option.ite_none_right_eq_some.1 hd
  obtain ⟨-, hxu, -⟩ := (mem_cycle_iff hx).1 hu
  obtain ⟨htnode, -, hty⟩ := (mem_cycle_iff hy).1 ht
  have hut : t ∈ edgesWithin next nodes u := List.mem_filter.2 ⟨hut, by simpa using htnode⟩
  exact not_hasEarlier hx hhead (h ((hxu.tail hut).trans hty))

theorem leads_of_mem_components {c : List α} (h : c ∈ components next nodes) (hx : x ∈ c)
    (hy : y ∈ c) : Leads next x y := by
  rw [components_eq] at h
  obtain ⟨z, hz, h⟩ := List.mem_filterMap.1 h
  obtain ⟨-, ⟨⟩⟩ := Option.ite_none_right_eq_some.1 h
  have hz := visits_wholeWalk.inside (visits_wholeWalk.orderly.left_subset hz)
  obtain ⟨-, -, hxz⟩ := (mem_cycle_iff hz).1 hx
  obtain ⟨-, hzy, -⟩ := (mem_cycle_iff hz).1 hy
  exact Relation.ReflTransGen.mono (fun _ _ h => (List.mem_filter.1 h).1) _ _ (hxz.trans hzy)

end Parts

end Graph

/-! ## Blocks -/

namespace Statement

variable {statements : List Statement} {s t : Statement}

theorem mem_edges_iff (hs : s ∈ statements) {atoms : Clause → List Pattern} :
    t ∈ ((edges atoms statements).lookup s).getD [] ↔
      t ∈ statements ∧ ∃ p ∈ atoms s.clause, t.defines p = true := by
  rw [edges, List.lookup_graph _ hs, Option.getD_some, List.mem_flatMap]
  simp only [List.mem_filter]
  grind

theorem mem_edges (hs : s ∈ statements) (ht : t ∈ statements) {atoms : Clause → List Pattern}
    {p : Pattern} (hp : p ∈ atoms s.clause) (hdefines : t.defines p = true) :
    t ∈ ((edges atoms statements).lookup s).getD [] :=
  (mem_edges_iff hs).2 ⟨ht, p, hp, hdefines⟩

theorem mem_of_mem_blocks {block : List Statement} (h : block ∈ blocks statements)
    (hs : s ∈ block) : s ∈ statements := by
  obtain ⟨component, hcomponent, rfl⟩ := List.mem_map.1 h
  obtain ⟨whole, hwhole, hcomponent⟩ := List.mem_flatMap.1 hcomponent
  have hs := mem_of_mem_components hcomponent (List.mem_reverse.1 hs)
  exact List.mem_reverse.1 (mem_of_mem_components hwhole hs)

theorem exists_mem_blocks (hs : s ∈ statements) : ∃ block ∈ blocks statements, s ∈ block := by
  obtain ⟨whole, hwhole, hs⟩ := exists_mem_components (List.mem_reverse.2 hs)
  obtain ⟨part, hpart, hs⟩ := exists_mem_components hs
  exact ⟨part.reverse, List.mem_map_of_mem (List.mem_flatMap.2 ⟨whole, hwhole, hpart⟩),
    List.mem_reverse.2 hs⟩

theorem pairwise_blocks : (blocks statements).Pairwise
    fun b c => ∀ s ∈ b, ∀ t ∈ c, ∀ p ∈ s.clause.positive, t.defines p = false := by
  refine List.pairwise_map.2 (List.pairwise_flatMap.2 ⟨fun whole hwhole => ?_, ?_⟩)
  · have hsubset : ∀ s ∈ whole, s ∈ statements :=
      fun s hs => List.mem_reverse.1 (mem_of_mem_components hwhole hs)
    refine pairwise_components.imp_of_mem fun hb hc h s hs t ht p hp => ?_
    rw [List.mem_reverse] at hs ht
    by_contra hdefines
    exact h s hs t ht (mem_edges (hsubset s (mem_of_mem_components hb hs))
      (hsubset t (mem_of_mem_components hc ht)) hp (by simpa using hdefines))
  · refine pairwise_components.imp_of_mem fun hb hc h b hpart c hpart' s hs t ht p hp => ?_
    rw [List.mem_reverse] at hs ht
    have hs := mem_of_mem_components hpart hs
    have ht := mem_of_mem_components hpart' ht
    by_contra hdefines
    exact h s hs t ht (mem_edges (List.mem_reverse.1 (mem_of_mem_components hb hs))
      (List.mem_reverse.1 (mem_of_mem_components hc ht))
      (List.mem_map_of_mem (Clause.mem_positive_iff.1 hp)) (by simpa using hdefines))

def dependencies (statements : List Statement) (s : Statement) : List Statement :=
  ((edges (fun c => c.atoms.map Occurrence.atom) statements).lookup s).getD []

theorem mem_dependencies_iff (hs : s ∈ statements) : t ∈ dependencies statements s ↔
    t ∈ statements ∧ ∃ o ∈ s.clause.atoms, t.defines o.atom = true := by
  rw [dependencies, mem_edges_iff hs]
  simp only [List.mem_map, exists_exists_and_eq_and]

theorem leads_of_mem_blocks {block : List Statement} (h : block ∈ blocks statements)
    (hs : s ∈ block) (ht : t ∈ block) : Leads (dependencies statements) s t := by
  obtain ⟨part, hpart, rfl⟩ := List.mem_map.1 h
  obtain ⟨whole, hwhole, hpart⟩ := List.mem_flatMap.1 hpart
  exact leads_of_mem_components hwhole (mem_of_mem_components hpart (List.mem_reverse.1 hs))
    (mem_of_mem_components hpart (List.mem_reverse.1 ht))

theorem pairwise_blocks_leads : (blocks statements).Pairwise fun b c => ∀ s ∈ b, ∀ t ∈ c,
    t ∈ dependencies statements s → Leads (dependencies statements) t s := by
  refine List.pairwise_map.2 (List.pairwise_flatMap.2 ⟨fun whole hwhole => ?_, ?_⟩)
  · refine List.pairwise_of_forall_mem_list fun b hb c hc s hs t ht _ => ?_
    exact leads_of_mem_components hwhole (mem_of_mem_components hc (List.mem_reverse.1 ht))
      (mem_of_mem_components hb (List.mem_reverse.1 hs))
  · refine pairwise_components.imp fun h b hb c hc s hs t ht hdepends => ?_
    exact absurd hdepends (h s (mem_of_mem_components hb (List.mem_reverse.1 hs)) t
      (mem_of_mem_components hc (List.mem_reverse.1 ht)))

end Statement

end AnswerSetLearning.Solver
