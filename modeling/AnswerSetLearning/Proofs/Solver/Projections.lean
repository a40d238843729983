import AnswerSetLearning.Proofs.Solver.Derivations
import AnswerSetLearning.Proofs.Solver.Plain
import AnswerSetLearning.Proofs.Unambiguity

namespace AnswerSetLearning.Solver

/-! ## Names -/

theorem splitOn_joinWith {l : List String} (hne : l ≠ []) (hl : ∀ s ∈ l, ',' ∉ s.toList) :
    (joinWith "," l).toList.splitOn ',' = l.map String.toList := by
  have hcomma : ",".toList = [','] := rfl
  rw [toList_joinWith, hcomma]
  exact List.splitOn_intercalate _ (by simpa using hl) (by simpa using hne)

theorem eq_of_joinWith_eq {l l' : List String} (hl : ∀ s ∈ l, s ≠ "" ∧ ',' ∉ s.toList)
    (hl' : ∀ s ∈ l', s ≠ "" ∧ ',' ∉ s.toList) (h : joinWith "," l = joinWith "," l') : l = l' := by
  have hnil {l : List String} (hl : ∀ s ∈ l, s ≠ "" ∧ ',' ∉ s.toList)
      (h : joinWith "," l = "") : l = [] := by
    by_contra hne
    have hsplit := splitOn_joinWith hne fun s hs => (hl s hs).2
    rw [h] at hsplit
    obtain ⟨s, rfl, hs⟩ : ∃ s, l = [s] ∧ s.toList = [] := by
      simpa [List.splitOn, eq_comm (a := [[]]), List.map_eq_singleton_iff] using hsplit
    exact (hl s (List.mem_singleton_self s)).1 (String.toList_eq_nil_iff.1 hs)
  by_cases hne : l = []
  · subst hne
    exact (hnil hl' h.symm).symm
  · have hne' : l' ≠ [] := by
      rintro rfl
      exact hne (hnil hl h)
    have hsplit := splitOn_joinWith hne fun s hs => (hl s hs).2
    rw [h, splitOn_joinWith hne' fun s hs => (hl' s hs).2] at hsplit
    exact (List.map_injective_iff.2 (fun _ _ => String.toList_inj.1) hsplit).symm

namespace Term.IsPlain

variable {t u : Term}

theorem of_mem_text (h : t.IsPlain) : ∀ c ∈ t.text.toList, c = '-' ∨ isNameChar c = true := by
  cases h with
  | @number n _ _ =>
    have hdigit {n : Nat} : ∀ c ∈ Nat.toDigits 10 n, isNameChar c = true := fun c hc => by
      simp [isNameChar, isAsciiDigit_of_mem_toDigits hc]
    rw [text_number]
    cases n with
    | ofNat n =>
      rw [Int.ofNat_eq_natCast, intText_natCast, Nat.repr_eq_ofList_toDigits, String.toList_ofList]
      exact fun c hc => .inr (hdigit c hc)
    | negSucc n =>
      simp only [intText, Nat.repr_eq_ofList_toDigits, String.toList_append, String.toList_ofList]
      exact fun c hc => (List.mem_append.1 hc).imp List.mem_singleton.1 (hdigit c)
  | @constant name h =>
    rw [text_constant h]
    rw [isConstantName, Bool.and_eq_true] at h
    exact fun c hc => .inr (FactToken.isNameChar_of_isNameOf
      (fun _ => FactToken.isNameChar_of_isLowerLetter) h.1 c hc)

theorem not_mem_text (h : t.IsPlain) {c : Char} (hc : c ≠ '-') (hname : isNameChar c = false) :
    c ∉ t.text.toList := fun hmem =>
  (h.of_mem_text c hmem).elim hc (Bool.eq_false_iff.1 hname)

theorem text_ne (h : t.IsPlain) {s : String} (hs : ofText? s = none) : t.text ≠ s := by
  rintro rfl
  rw [h.ofText?_text] at hs
  cases hs

theorem eq_of_text_eq (ht : t.IsPlain) (hu : u.IsPlain) (h : t.text = u.text) : t = u := by
  have htext := ht.ofText?_text
  rw [h, hu.ofText?_text] at htext
  exact (Option.some.inj htext).symm

end Term.IsPlain

namespace Arg

/-- Arguments that are the same up to the names of variables. -/
inductive Alike : Arg → Arg → Prop
  | value (t : Term) : Alike (.value t) (.value t)
  | var (x y : String) : Alike (.var x) (.var y)
  | anonymous : Alike .anonymous .anonymous

theorem shape_separable {a : Arg} (ha : ∀ t, a = value t → t.IsPlain) :
    a.shape ≠ "" ∧ ',' ∉ a.shape.toList := by
  cases a with
  | value t =>
    have ht := ha t rfl
    exact ⟨ht.text_ne (by decide), ht.not_mem_text (by decide) (by decide)⟩
  | var x => exact ⟨by simp [shape], by simp [shape]⟩
  | anonymous => exact ⟨by simp [shape], by simp [shape]⟩

theorem alike_of_shape_eq {a b : Arg} (ha : ∀ t, a = value t → t.IsPlain)
    (hb : ∀ t, b = value t → t.IsPlain) (h : a.shape = b.shape) : Alike a b := by
  have hvar : Term.ofText? "/" = none := by decide
  have hanonymous : Term.ofText? "_" = none := by decide
  cases a with
  | value t =>
    cases b with
    | value u => exact (ha t rfl).eq_of_text_eq (hb u rfl) h ▸ .value t
    | var y => exact absurd h ((ha t rfl).text_ne hvar)
    | anonymous => exact absurd h ((ha t rfl).text_ne hanonymous)
  | var x =>
    cases b with
    | value u => exact absurd h.symm ((hb u rfl).text_ne hvar)
    | var y => exact .var x y
    | anonymous => simp [shape] at h
  | anonymous =>
    cases b with
    | value u => exact absurd h.symm ((hb u rfl).text_ne hanonymous)
    | var y => simp [shape] at h
    | anonymous => exact .anonymous

end Arg

theorem eq_of_append_cons_eq {α : Type} {c : α} {xs ys zs ws : List α} (hxs : c ∉ xs)
    (hys : c ∉ ys) (h : xs ++ c :: zs = ys ++ c :: ws) : xs = ys ∧ zs = ws := by
  induction xs generalizing ys with
  | nil =>
    cases ys with
    | nil => exact ⟨rfl, (List.cons.inj h).2⟩
    | cons y ys => exact absurd ((List.cons.inj h).1 ▸ List.mem_cons_self) hys
  | cons x xs ih =>
    cases ys with
    | nil => exact absurd ((List.cons.inj h).1 ▸ List.mem_cons_self) hxs
    | cons y ys =>
      injection h with hxy h
      subst hxy
      obtain ⟨rfl, rfl⟩ :=
        ih (List.not_mem_of_not_mem_cons hxs) (List.not_mem_of_not_mem_cons hys) h
      exact ⟨rfl, rfl⟩

namespace Pattern

structure IsNamed (p : Pattern) : Prop where
  predicate : '/' ∉ p.predicate.toList
  terms : ∀ t ∈ p.terms, t.IsPlain

variable {p q : Pattern}

theorem IsNamed.isPlain (h : p.IsNamed) {a : Arg} (ha : a ∈ p.args) :
    ∀ t, a = .value t → t.IsPlain := by
  rintro t rfl
  exact h.terms t (List.mem_filterMap.2 ⟨_, ha, rfl⟩)

theorem alike_of_projected_predicate_eq (hp : p.IsNamed) (hq : q.IsNamed)
    (h : p.projected.predicate = q.projected.predicate) :
    p.predicate = q.predicate ∧ List.Forall₂ Arg.Alike p.args q.args := by
  have hlists := congrArg String.toList h
  simp only [projected, String.toList_append, List.append_assoc] at hlists
  obtain ⟨hpredicate, hshapes⟩ := eq_of_append_cons_eq hp.predicate hq.predicate hlists
  refine ⟨String.toList_inj.1 hpredicate, ?_⟩
  have hmap : p.args.map Arg.shape = q.args.map Arg.shape :=
    eq_of_joinWith_eq (by simpa using fun a ha => Arg.shape_separable (hp.isPlain ha))
      (by simpa using fun a ha => Arg.shape_separable (hq.isPlain ha)) (String.toList_inj.1 hshapes)
  rw [← List.forall₂_eq_eq_eq, List.forall₂_map_left_iff, List.forall₂_map_right_iff] at hmap
  refine List.forall₂_iff_zip.2 ⟨hmap.length_eq, fun {a b} hzip => ?_⟩
  obtain ⟨ha, hb⟩ := List.of_mem_zip hzip
  exact Arg.alike_of_shape_eq (hp.isPlain ha) (hq.isPlain hb) (List.forall₂_zip hmap hzip)

/-! ## Atoms of projections -/

variable {v v' : Valuation} {a b : GroundAtom}

theorem alike_generic (p : Pattern) : List.Forall₂ Arg.Alike p.args p.generic.args := by
  refine List.forall₂_iff_get.2 ⟨by simp [generic], fun i h h' => ?_⟩
  simp only [generic, List.get_eq_getElem, List.getElem_map, List.getElem_zipIdx, Nat.zero_add]
  cases p.args[i] with
  | value t => exact .value t
  | var x => exact .var x _
  | anonymous => exact .anonymous

theorem generic_projected_predicate (p : Pattern) :
    p.generic.projected.predicate = p.projected.predicate := by
  have hshapes : p.generic.args.map Arg.shape = p.args.map Arg.shape := by
    rw [← List.forall₂_eq_eq_eq, List.forall₂_map_left_iff, List.forall₂_map_right_iff]
    exact p.alike_generic.flip.imp fun _ _ h => by cases h <;> rfl
  rw [projected, projected, hshapes]
  rfl

theorem Matches.generic (h : p.Matches v a) : ∃ v', p.generic.Matches v' a := by
  have hargs := List.forall₂_iff_get.1 h.args
  refine ⟨fun x => a.args.getD (digitsValue x.toList) .infimum, h.predicate,
    List.forall₂_iff_get.2 ⟨by simp [Pattern.generic, hargs.1], fun i hi hi' => ?_⟩⟩
  have hlt : i < p.args.length := by simpa [Pattern.generic] using hi
  have hargs := hargs.2 i hlt hi'
  simp only [Pattern.generic, List.get_eq_getElem, List.getElem_map, List.getElem_zipIdx,
    Nat.zero_add] at hargs ⊢
  cases harg : p.args[i] with
  | value t => exact Arg.matches_value.2 (Arg.matches_value.1 (harg ▸ hargs))
  | var x => exact Arg.matches_var.2 (by simp [digitsValue_intText, hi'])
  | anonymous => exact .anonymous _

end Pattern

namespace Arg

variable {v v' : Valuation} {as bs : List Arg} {ts us : List Term}

theorem exists_kept (halike : List.Forall₂ Alike as bs) (has : List.Forall₂ (Matches v) as ts)
    (hbs : List.Forall₂ (Matches v') bs ts) :
    ∃ us, List.Forall₂ (Matches v) (as.filter (·.var?.isSome)) us ∧
      List.Forall₂ (Matches v') (bs.filter (·.var?.isSome)) us := by
  induction halike generalizing ts with
  | nil => exact ⟨[], .nil, .nil⟩
  | cons hab _ ih =>
    cases has with
    | cons ha has =>
      cases hbs with
      | cons hb hbs =>
        obtain ⟨us, hus, hus'⟩ := ih has hbs
        cases hab with
        | value t => exact ⟨us, hus, hus'⟩
        | var x y => exact ⟨_ :: us, .cons ha hus, .cons hb hus'⟩
        | anonymous => exact ⟨us, hus, hus'⟩

theorem matches_of_kept (halike : List.Forall₂ Alike as bs) (hbs : List.Forall₂ (Matches v') bs ts)
    (hus : List.Forall₂ (Matches v) (as.filter (·.var?.isSome)) us)
    (hus' : List.Forall₂ (Matches v') (bs.filter (·.var?.isSome)) us) :
    List.Forall₂ (Matches v) as ts := by
  induction halike generalizing ts us with
  | nil =>
    cases hbs
    exact .nil
  | cons hab _ ih =>
    cases hbs with
    | cons hb hbs =>
      cases hab with
      | value t => exact .cons (matches_value.2 (matches_value.1 hb)) (ih hbs hus hus')
      | var x y =>
        cases hus with
        | cons hu hus =>
          cases hus' with
          | cons hu' hus' =>
            refine .cons (matches_var.2 ?_) (ih hbs hus hus')
            rw [matches_var.1 hu, ← matches_var.1 hu', matches_var.1 hb]
      | anonymous => exact .cons (.anonymous _) (ih hbs hus hus')

end Arg

namespace Pattern

variable {p q : Pattern} {v v' : Valuation} {a b : GroundAtom}

def ProjectsTo (p : Pattern) (a b : GroundAtom) : Prop :=
  ∃ v, p.generic.Matches v a ∧ p.generic.projected.Matches v b

theorem ProjectsTo.predicate (h : p.ProjectsTo a b) : p.predicate = a.predicate := by
  obtain ⟨v, ha, -⟩ := h
  exact ha.predicate

theorem Matches.exists_projectsTo (h : p.Matches v a) :
    ∃ b, p.ProjectsTo a b ∧ p.projected.Matches v b := by
  obtain ⟨v', hgeneric⟩ := h.generic
  obtain ⟨us, hus, hus'⟩ := Arg.exists_kept p.alike_generic h.args hgeneric.args
  refine ⟨⟨p.projected.predicate, us⟩, ⟨v', hgeneric, ?_, hus'⟩, rfl, hus⟩
  exact p.generic_projected_predicate

theorem IsNamed.generic (h : p.IsNamed) : p.generic.IsNamed := by
  refine ⟨h.predicate, fun t ht => ?_⟩
  obtain ⟨arg, harg, hvalue⟩ := List.mem_filterMap.1 ht
  obtain ⟨arg', harg', halike⟩ := exists_of_forall₂ p.alike_generic.flip harg
  cases halike with
  | value u =>
    cases hvalue
    exact h.terms t (List.mem_filterMap.2 ⟨_, harg', rfl⟩)
  | _ => cases hvalue

theorem ProjectsTo.matches (h : q.ProjectsTo a b) (hq : q.IsNamed) (hp : p.IsNamed)
    (hpb : p.projected.Matches v b) : p.Matches v a := by
  obtain ⟨v', ha, hb⟩ := h
  obtain ⟨hpredicate, halike⟩ := alike_of_projected_predicate_eq hp hq.generic
    (hpb.predicate.trans hb.predicate.symm)
  exact ⟨hpredicate.trans ha.predicate, Arg.matches_of_kept halike ha.args hpb.args hb.args⟩

theorem slash_mem_projected (p : Pattern) : '/' ∈ p.projected.predicate.toList := by
  simp [projected]

end Pattern

/-! ## Clauses with projections -/

structure Clause.IsNamed (c : Clause) : Prop where
  head : ∀ p, c.head = some p → '/' ∉ p.predicate.toList
  body : ∀ o ∈ c.atoms, o.atom.IsNamed

def Clause.replace (c : Clause) (o : Occurrence) : Occurrence :=
  if c.projects o then { o with atom := o.atom.projected } else o

theorem Clause.replace_eq (c : Clause) (o : Occurrence) :
    c.replace o = ⟨o.negated, (c.replace o).atom⟩ := by
  unfold replace
  split_ifs <;> rfl

theorem Clause.replace_negated (c : Clause) (o : Occurrence) :
    (c.replace o).negated = o.negated := by rw [c.replace_eq]

def withProjected (clauses : List Clause) (M : Set GroundAtom) : Set GroundAtom :=
  M ∪ {b | ∃ c ∈ clauses, ∃ o ∈ c.atoms, c.projects o = true ∧ ∃ a ∈ M, o.atom.ProjectsTo a b}

section Clauses

variable {clauses : List Clause} {M T : Set GroundAtom} {c : Clause} {o : Occurrence}
  {v : Valuation} {a b : GroundAtom}

theorem mem_of_mem_withProjected (hb : b ∈ withProjected clauses M)
    (hname : '/' ∉ b.predicate.toList) : b ∈ M := by
  rcases hb with hb | ⟨_, _, _, _, _, _, _, _, _, hb⟩
  · exact hb
  · exact absurd (hb.predicate ▸ Pattern.slash_mem_projected _) hname

theorem exists_replace (hoa : o.atom.Matches v a) (ha : a ∈ T)
    (hprojects : c.projects o = true → ∀ b, o.atom.ProjectsTo a b → b ∈ T) :
    ∃ b ∈ T, (c.replace o).atom.Matches v b := by
  unfold Clause.replace
  split
  · next h =>
    obtain ⟨b, hab, hob⟩ := hoa.exists_projectsTo
    exact ⟨b, hprojects h b hab, hob⟩
  · exact ⟨a, ha, hoa⟩

theorem Pattern.ProjectsTo.derives {N : Set GroundAtom} (hc : c ∈ clauses) (ho : o ∈ c.atoms)
    (hprojects : c.projects o = true) (h : o.atom.ProjectsTo a b)
    (ha : Derives (withProjections clauses) N a) : Derives (withProjections clauses) N b := by
  obtain ⟨v, hgeneric, hb⟩ := h
  have hmem : o.atom.projection ∈ withProjections clauses :=
    mem_withProjections_iff.2 ⟨c, hc, .inr ⟨o, ho, hprojects, rfl⟩⟩
  refine Clause.Yields.derives hmem (v := v) ⟨⟨_, rfl, hb⟩, ?_, by simp [projection]⟩
  simpa [projection, Occurrence.Holds] using ⟨a, ha, hgeneric⟩

theorem exists_of_yields_projection {p : Pattern} {F : Set GroundAtom}
    (h : p.projection.Yields v T F b) : ∃ a ∈ T, p.ProjectsTo a b := by
  obtain ⟨a, ha, hgeneric⟩ : ∃ a ∈ T, p.generic.Matches v a := by
    simpa [Occurrence.Holds] using h.body _ (List.mem_singleton_self _)
  obtain ⟨q, hq, hqb⟩ := h.head
  cases hq
  exact ⟨a, ha, v, hgeneric, hqb⟩

section Named

variable (hnamed : ∀ c ∈ clauses, c.IsNamed) (hM : ∀ a ∈ M, '/' ∉ a.predicate.toList)

include hnamed hM

theorem exists_of_replace (hc : c ∈ clauses) (ho : o ∈ c.atoms) (hb : b ∈ withProjected clauses M)
    (hob : (c.replace o).atom.Matches v b) : ∃ a ∈ M, o.atom.Matches v a := by
  have hatom := (hnamed c hc).body o ho
  unfold Clause.replace at hob
  split at hob
  · rcases hb with hb | ⟨c', hc', o', ho', -, a, ha, hab⟩
    · exact absurd (hob.predicate ▸ o.atom.slash_mem_projected) (hM b hb)
    · exact ⟨a, ha, hab.matches ((hnamed c' hc').body o' ho') hatom hob⟩
  · exact ⟨b, mem_of_mem_withProjected hb (hob.predicate ▸ hatom.predicate), hob⟩

theorem Clause.Yields.projected (hc : c ∈ clauses) (h : c.Yields v T M a) {T' : Set GroundAtom}
    (hT : T ⊆ T') (hprojects : ∀ o ∈ c.atoms, c.projects o = true →
      ∀ a ∈ T, ∀ b, o.atom.ProjectsTo a b → b ∈ T') :
    c.projected.Yields v T' (withProjected clauses M) a := by
  refine ⟨h.head, fun o' ho' => ?_, h.tests⟩
  obtain ⟨o, ho, rfl⟩ := List.mem_map.1 ho'
  have hholds := h.body o ho
  change (c.replace o).Holds v T' (withProjected clauses M)
  unfold Occurrence.Holds at hholds ⊢
  rw [c.replace_negated]
  split_ifs at hholds ⊢
  · intro b hb hob
    obtain ⟨a, ha, hoa⟩ := exists_of_replace hnamed hM hc ho hb hob
    exact hholds a ha hoa
  · obtain ⟨a, ha, hoa⟩ := hholds
    exact exists_replace hoa (hT ha) fun hprojects' => hprojects o ho hprojects' a ha

theorem Clause.Yields.of_projected (hc : c ∈ clauses)
    (h : c.projected.Yields v (withProjected clauses M) (withProjected clauses M) a) :
    c.Yields v M M a := by
  refine ⟨h.head, fun o ho => ?_, h.tests⟩
  have hholds : (c.replace o).Holds v (withProjected clauses M) (withProjected clauses M) :=
    h.body (c.replace o) (List.mem_map_of_mem ho)
  unfold Occurrence.Holds at hholds ⊢
  rw [c.replace_negated] at hholds
  split_ifs at hholds ⊢
  · intro a ha hoa
    obtain ⟨b, hb, hob⟩ := exists_replace (T := withProjected clauses M) hoa (.inl ha)
      fun hprojects b hab => .inr ⟨c, hc, o, ho, hprojects, a, ha, hab⟩
    exact hholds b hb hob
  · obtain ⟨b, hb, hob⟩ := hholds
    exact exists_of_replace hnamed hM hc ho hb hob

end Named

/-- With the atoms of projections, what follows from the clauses in a set is what follows from
those with projections. -/
theorem mem_withProjected_iff (hnamed : ∀ c ∈ clauses, c.IsNamed)
    (hM : ∀ a, a ∈ M ↔ Derives clauses M a) :
    a ∈ withProjected clauses M ↔
      Derives (withProjections clauses) (withProjected clauses M) a := by
  have hname : ∀ a ∈ M, '/' ∉ a.predicate.toList := by
    intro a ha
    cases (hM a).1 ha with
    | rule hc hi hhead _ _ =>
      obtain ⟨p, hp, hpa⟩ := hi.exists_head hhead
      exact hpa.predicate ▸ (hnamed _ hc).head p hp
  constructor
  · have hmem : ∀ a ∈ M, Derives (withProjections clauses) (withProjected clauses M) a := by
      intro a ha
      refine ((hM a).1 ha).forall fun c hc v a h => ?_
      have hyields := h.projected hnamed hname hc (fun b hb => hb.2)
        fun o ho hprojects b hb d hbd => hbd.derives hc ho hprojects hb.2
      exact hyields.derives (mem_withProjections_iff.2 ⟨c, hc, .inl rfl⟩)
    rintro (ha | ⟨c, hc, o, ho, hprojects, b, hb, hba⟩)
    · exact hmem a ha
    · exact hba.derives hc ho hprojects (hmem b hb)
  · refine fun h => h.forall fun c' hc' v a h => ?_
    have h := h.mono fun b hb => hb.2
    obtain ⟨c, hc, rfl | ⟨o, ho, hprojects, rfl⟩⟩ := mem_withProjections_iff.1 hc'
    · have hyields := h.of_projected hnamed hname hc
      exact .inl ((hM a).2 ((hyields.mono fun b hb => (hM b).1 hb).derives hc))
    · obtain ⟨b, hb, hba⟩ := exists_of_yields_projection h
      have hb := mem_of_mem_withProjected hb (hba.predicate ▸ ((hnamed c hc).body o ho).predicate)
      exact .inr ⟨c, hc, o, ho, hprojects, b, hb, hba⟩

end Clauses

end AnswerSetLearning.Solver
