import AnswerSetLearning.Proofs.Solver.Blocks

namespace AnswerSetLearning.Solver

def Occurrence.Holds (v : Valuation) (T F : Set GroundAtom) (o : Occurrence) : Prop :=
  if o.negated then ∀ b ∈ F, ¬ o.atom.Matches v b else ∃ b ∈ T, o.atom.Matches v b

/-- The clause derives the atom from `T` under the values, when negated atoms are looked up in
`F`. -/
structure Clause.Yields (c : Clause) (v : Valuation) (T F : Set GroundAtom) (a : GroundAtom) :
    Prop where
  head : ∃ p, c.head = some p ∧ p.Matches v a
  body : ∀ o ∈ c.atoms, o.Holds v T F
  tests : ∀ t ∈ c.tests, t.Holds v

section Yields

variable {c c' : Clause} {v : Valuation} {T T' F M : Set GroundAtom} {a : GroundAtom}

theorem Occurrence.Holds.mono {o : Occurrence} (h : o.Holds v T F) (hT : T ⊆ T') :
    o.Holds v T' F := by
  unfold Holds at h ⊢
  split at h
  · next hneg => rw [if_pos hneg]; exact h
  · next hneg =>
    rw [if_neg hneg]
    obtain ⟨b, hb, h⟩ := h
    exact ⟨b, hT hb, h⟩

theorem Clause.Yields.mono (h : c.Yields v T F a) (hT : T ⊆ T') : c.Yields v T' F a :=
  ⟨h.head, fun o ho => (h.body o ho).mono hT, h.tests⟩

theorem exists_forall₂ {α β : Type} {R : α → β → Prop} {l : List α}
    (h : ∀ a ∈ l, ∃ b, R a b) : ∃ m, List.Forall₂ R l m := by
  induction l with
  | nil => exact ⟨[], .nil⟩
  | cons a l ih =>
    obtain ⟨b, hb⟩ := h a List.mem_cons_self
    obtain ⟨m, hm⟩ := ih fun a ha => h a (List.mem_cons_of_mem _ ha)
    exact ⟨b :: m, .cons hb hm⟩

theorem Clause.body_holds_iff {head : Option GroundAtom}
    (hhead : Option.Rel (Pattern.Matches v) c.head head) :
    ((∀ o ∈ c.atoms, o.Holds v T F) ∧ ∀ t ∈ c.tests, t.Holds v) ↔
      ∃ i, c.Grounds v i ∧ i.head = head ∧ i.Admits F ∧ ∀ b ∈ i.positive, b ∈ T := by
  constructor
  · rintro ⟨hbody, htests⟩
    have hpositive : ∀ p ∈ c.positive, ∃ b, b ∈ T ∧ p.Matches v b := by
      intro p hp
      simpa [Occurrence.Holds] using hbody _ (mem_positive_iff.1 hp)
    obtain ⟨taken, htaken⟩ := exists_forall₂ hpositive
    have hi : c.Grounds v ⟨head, taken, c.negative.map (Pattern.absence v)⟩ :=
      ⟨hhead, htaken.imp fun _ _ h => h.2, rfl, htests⟩
    refine ⟨_, hi, rfl, hi.admits_iff.2 fun p hp => ?_, fun b hb => ?_⟩
    · simpa [Occurrence.Holds] using hbody _ (mem_negative_iff.1 hp)
    · obtain ⟨p, -, hb, -⟩ := exists_of_forall₂ htaken.flip hb
      exact hb
  · rintro ⟨i, hi, -, hadmits, hpositive⟩
    refine ⟨fun o ho => ?_, hi.tests⟩
    obtain ⟨negated, p⟩ := o
    cases negated with
    | true =>
      simpa [Occurrence.Holds] using hi.admits_iff.1 hadmits p (mem_negative_iff.2 ho)
    | false =>
      obtain ⟨b, hb, hpb⟩ := exists_of_forall₂ hi.positive (mem_positive_iff.2 ho)
      simpa [Occurrence.Holds] using ⟨b, hpositive b hb, hpb⟩

theorem Clause.yields_iff : c.Yields v T F a ↔ ∃ i, c.Grounds v i ∧ i.head = some a ∧
    i.Admits F ∧ ∀ b ∈ i.positive, b ∈ T := by
  constructor
  · rintro ⟨⟨p, hp, hpa⟩, hbody, htests⟩
    exact (body_holds_iff (hp ▸ .some hpa)).1 ⟨hbody, htests⟩
  · rintro ⟨i, hi, ha, hrest⟩
    obtain ⟨hbody, htests⟩ := (body_holds_iff (ha ▸ hi.head)).2 ⟨i, hi, ha, hrest⟩
    exact ⟨hi.exists_head ha, hbody, htests⟩

end Yields

section Derives

variable {clauses clauses' : List Clause} {M : Set GroundAtom} {a : GroundAtom}

theorem Clause.Yields.derives {c : Clause} (hc : c ∈ clauses) {v : Valuation}
    (h : c.Yields v {b | Derives clauses M b} M a) : Derives clauses M a := by
  obtain ⟨i, hi, ha, hadmits, hpositive⟩ := yields_iff.1 h
  exact .rule hc hi ha hadmits hpositive

theorem Derives.forall {P : GroundAtom → Prop} (h : Derives clauses M a)
    (hP : ∀ c ∈ clauses, ∀ v a, c.Yields v {b | Derives clauses M b ∧ P b} M a → P a) : P a := by
  induction h with
  | @rule c v i a hc hi ha hadmits hbody ih =>
    exact hP c hc v a (Clause.yields_iff.2 ⟨i, hi, ha, hadmits, fun b hb => ⟨hbody b hb, ih b hb⟩⟩)

theorem Derives.mono (h : Derives clauses M a)
    (hclauses : ∀ c ∈ clauses, ∀ v T a, c.Yields v T M a →
      ∃ c' ∈ clauses', ∃ v', c'.Yields v' T M a) : Derives clauses' M a :=
  h.forall fun c hc v a ha => by
    obtain ⟨c', hc', v', ha⟩ := hclauses c hc v _ a ha
    exact (ha.mono fun b hb => hb.2).derives hc'

theorem derives_of_mem_iff (hclauses : ∀ c, c ∈ clauses' ↔ c ∈ clauses) :
    Derives clauses' M a ↔ Derives clauses M a :=
  ⟨fun h => h.mono fun c hc v _ _ ha => ⟨c, (hclauses c).1 hc, v, ha⟩,
    fun h => h.mono fun c hc v _ _ ha => ⟨c, (hclauses c).2 hc, v, ha⟩⟩

end Derives

end AnswerSetLearning.Solver
