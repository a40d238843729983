import AnswerSetLearning.Proofs.Induction.Pushes

namespace AnswerSetLearning

namespace TrainingExample

structure SameDemands (m n : TrainingExample) : Prop where
  incl : m.incl = n.incl
  excl : ∀ l, l ∈ m.excl ↔ l ∈ n.excl
  ctx : m.ctx = n.ctx

namespace SameDemands

variable {m n : TrainingExample}

theorem refl (n : TrainingExample) : n.SameDemands n := ⟨rfl, fun _ => Iff.rfl, rfl⟩

theorem symm (h : m.SameDemands n) : n.SameDemands m :=
  ⟨h.incl.symm, fun l => (h.excl l).symm, h.ctx.symm⟩

end SameDemands

structure SameExamples (ms ns : List TrainingExample) : Prop where
  left : ∀ m ∈ ms, ∃ n ∈ ns, m.SameDemands n
  right : ∀ n ∈ ns, ∃ m ∈ ms, m.SameDemands n

end TrainingExample

/-- The parts are the same, but for the order of what a training example excludes. -/
inductive Push.SameDemands : Push → Push → Prop
  | positive {m n} : m.SameDemands n → SameDemands (.positive m) (.positive n)
  | negative {m n} : m.SameDemands n → SameDemands (.negative m) (.negative n)
  | refl (p) : SameDemands p p

/-- The learning tasks differ only in the order of what their training examples exclude. -/
structure LearningTask.SameDemands (learning learning' : LearningTask) : Prop where
  space : learning.space = learning'.space
  positives : TrainingExample.SameExamples learning.positives learning'.positives
  negatives : TrainingExample.SameExamples learning.negatives learning'.negatives

structure Registry.NumbersUniverse (r : Registry) (registry : Registry) (univ : LitSet) : Prop where
  wellFormed : registry.WellFormed
  grows : r.Extends registry
  normal : univ.Normal
  registers : registry.Registers univ

section Universes

variable {r g g' : Registry} {univ univ' : LitSet} {s : LitSet} {ls : List Literal}

theorem Registry.resolve_of_registers (hs : r.Registers s) (hg : r.Extends g) (hg' : r.Extends g')
    (h : g.resolve s.items = .ok ls) : g'.resolve s.items = .ok ls := by
  obtain ⟨ms, hms⟩ := exists_resolve hs
  cases (resolve_of_extends hms hg).symm.trans h
  exact resolve_of_extends hms hg'

namespace Registry.NumbersUniverse

theorem denote_diff (h : r.NumbersUniverse g univ) (hs : s.Normal) (hregisters : r.Registers s) :
    g.denote (univ.diff s) = g.denote univ \ r.denote s := by
  rw [Registry.denote_diff h.wellFormed h.normal hs, denote_of_extends hregisters h.grows]

variable (h : r.NumbersUniverse g univ) (h' : r.NumbersUniverse g' univ')
  (hsame : g.denote univ = g'.denote univ')

include h h' hsame

theorem exists_resolve_diff (hs : s.Normal) (hregisters : r.Registers s)
    (hls : g.resolve (univ.diff s).items = .ok ls) :
    ∃ ls', g'.resolve (univ'.diff s).items = .ok ls' ∧ ∀ l, l ∈ ls ↔ l ∈ ls' := by
  obtain ⟨ls', hls'⟩ := exists_resolve (h'.registers.diff s)
  refine ⟨ls', hls', fun l => ?_⟩
  rw [mem_of_resolve hls, mem_of_resolve hls', h.denote_diff hs hregisters,
    h'.denote_diff hs hregisters, hsame]

end Registry.NumbersUniverse

section Pushes

variable {e : Example} (he : e.RegisteredIn r) {ctx : List Literal}

include he

theorem Example.RegisteredIn.normal_interval {a b : LitSet} {others : List LitSet}
    (hg : (a, others) ∈ groups e.candidates) (hb : b ∈ largest a others) :
    (e.input.union b).Normal ∧ r.Registers (e.input.union b) := by
  obtain ⟨-, hb, -⟩ := Example.leader_of_mem_largest he.toNormal hg hb
  have hb := Example.isSpurious_of_mem_candidates he.toNormal hb
  refine ⟨he.input.union hb.normal, fun i hi => ?_⟩
  cases SortedSet.mem_union.1 hi with
  | inl hi => exact he.registers_input i hi
  | inr hi => exact he.added i (hb.added hi)

theorem Example.RegisteredIn.registers_outputLiterals : r.Registers e.outputLiterals := by
  intro i hi
  obtain ⟨s, hs, hi⟩ := Example.mem_outputLiterals.1 hi
  exact he.registers_outputs s hs i hi

theorem Pushes.of_isWord (hext : r.Extends g) (hext' : r.Extends g') {p : Push}
    (hp : Pushes g univ e ctx p) (hword : p.IsWord) : Pushes g' univ' e ctx p := by
  have hadded : g.denote e.added = g'.denote e.added :=
    (Registry.denote_of_extends he.added hext).trans
      (Registry.denote_of_extends he.added hext').symm
  cases hp with
  | positive _ _ => cases hword
  | negative _ => cases hword
  | head hl => exact .head (hadded ▸ hl)
  | generalBody hl => exact .generalBody (hadded ▸ hl)
  | positiveBody hl => exact .positiveBody hl

section Demands

variable (h : r.NumbersUniverse g univ) (h' : r.NumbersUniverse g' univ')
  (hsame : g.denote univ = g'.denote univ')

include h h' hsame

theorem Accepts.exists_sameDemands {s : LitSet} (hs : s ∈ e.outputs) {m : TrainingExample}
    (hm : Accepts g univ ctx s m) : ∃ n, Accepts g' univ' ctx s n ∧ m.SameDemands n := by
  have hregisters := he.registers_outputs s hs
  obtain ⟨excl, hexcl, hmem⟩ :=
    h.exists_resolve_diff h' hsame (he.outputs s hs) hregisters hm.excl
  exact ⟨⟨m.incl, excl, ctx⟩,
    ⟨Registry.resolve_of_registers hregisters h.grows h'.grows hm.incl, hexcl, rfl⟩,
    rfl, hmem, hm.ctx⟩

theorem ExcludesLiteral.exists_number {i : Lit} (hi : i ∈ univ.diff e.outputLiterals)
    {m : TrainingExample} (hm : ExcludesLiteral g ctx i m) :
    ∃ j ∈ univ'.diff e.outputLiterals, ExcludesLiteral g' ctx j m := by
  have hnormal := e.normal_outputLiterals
  have hregisters := he.registers_outputLiterals
  obtain ⟨l, hl⟩ := h.registers.diff e.outputLiterals i hi
  obtain ⟨j, hj, hl'⟩ : l ∈ g'.denote (univ'.diff e.outputLiterals) := by
    rw [h'.denote_diff hnormal hregisters, ← hsame, ← h.denote_diff hnormal hregisters]
    exact ⟨i, hi, hl⟩
  refine ⟨j, hj, ?_, hm.excl, hm.ctx⟩
  have hincl := Registry.resolve_eq_ok_iff.1 hm.incl
  rw [List.map_singleton, hl] at hincl
  rw [Registry.resolve_eq_ok_iff, List.map_singleton, hl', hincl]

theorem ExcludesInterval.exists_sameDemands {a b : LitSet} {others : List LitSet}
    (hg : (a, others) ∈ groups e.candidates) (hb : b ∈ largest a others) {m : TrainingExample}
    (hm : ExcludesInterval g univ e ctx a b m) :
    ∃ n, ExcludesInterval g' univ' e ctx a b n ∧ m.SameDemands n := by
  obtain ⟨hnormal, hregisters⟩ := he.normal_interval hg hb
  obtain ⟨excl, hexcl, hmem⟩ := h.exists_resolve_diff h' hsame hnormal hregisters hm.excl
  exact ⟨⟨m.incl, excl, ctx⟩,
    ⟨Registry.resolve_of_registers (he.leader hg) h.grows h'.grows hm.incl, hexcl, rfl⟩,
    rfl, hmem, hm.ctx⟩

theorem Excludes.exists_sameDemands {m : TrainingExample} (hm : Excludes g univ e ctx m) :
    ∃ n, Excludes g' univ' e ctx n ∧ m.SameDemands n := by
  cases hm with
  | everything hout => exact ⟨_, .everything hout, .refl _⟩
  | literal hout hi hm =>
    obtain ⟨j, hj, hm⟩ := hm.exists_number he h h' hsame hi
    exact ⟨m, .literal hout hj hm, .refl m⟩
  | interval hg hb hm =>
    obtain ⟨n, hn, hmn⟩ := hm.exists_sameDemands he h h' hsame hg hb
    exact ⟨n, .interval hg hb hn, hmn⟩

theorem Pushes.exists_sameDemands {p : Push} (hp : Pushes g univ e ctx p) :
    ∃ q, Pushes g' univ' e ctx q ∧ p.SameDemands q := by
  cases hp with
  | positive hs hm =>
    obtain ⟨n, hn, hmn⟩ := hm.exists_sameDemands he h h' hsame hs
    exact ⟨_, .positive hs hn, .positive hmn⟩
  | negative hm =>
    obtain ⟨n, hn, hmn⟩ := hm.exists_sameDemands he h h' hsame
    exact ⟨_, .negative hn, .negative hmn⟩
  | head hl =>
    have hp : Pushes g univ e ctx (.head _) := .head hl
    exact ⟨_, hp.of_isWord he h.grows h'.grows trivial, .refl _⟩
  | generalBody hl =>
    have hp : Pushes g univ e ctx (.generalBody _) := .generalBody hl
    exact ⟨_, hp.of_isWord he h.grows h'.grows trivial, .refl _⟩
  | positiveBody hl => exact ⟨_, .positiveBody hl, .refl _⟩

end Demands

end Pushes

end Universes

section Synthesis

variable {t u : Task} {r : Registry} {univ univ' : LitSet} {learning learning' : LearningTask}
  (hexamples : u.examples = t.examples) (ht : ∀ e ∈ t.examples, e.RegisteredIn r)
  (h : r.NumbersUniverse t.registry univ) (h' : r.NumbersUniverse u.registry univ')
  (hlearning : synthesize t univ = .ok learning)
  (hlearning' : synthesize u univ' = .ok learning')

include ht h hlearning

theorem exists_pushes_of_holds {p : Push} (hp : ∀ r, p ≠ .background r)
    (hholds : learning.Holds p) :
    ∃ e ∈ t.examples, ∃ ctx, t.registry.resolve e.input.items = .ok ctx ∧
      Pushes t.registry univ e ctx p :=
  (holds_iff h.registers (fun e he => (ht e he).mono h.grows) hlearning hp).1 hholds

include hexamples h' hlearning'

theorem holds_of_isWord {p : Push} (hword : p.IsWord) (hholds : learning.Holds p) :
    learning'.Holds p := by
  have hp : ∀ r, p ≠ .background r := by
    rintro _ rfl
    cases hword
  obtain ⟨e, he, ctx, hctx, hp'⟩ := exists_pushes_of_holds ht h hlearning hp hholds
  have hctx := Registry.resolve_of_registers (ht e he).registers_input h.grows h'.grows hctx
  exact (holds_iff h'.registers (fun e he => (ht e (hexamples ▸ he)).mono h'.grows) hlearning'
    hp).2 ⟨e, hexamples ▸ he, ctx, hctx, hp'.of_isWord (ht e he) h.grows h'.grows hword⟩

theorem exists_holds_of_holds (hsame : t.registry.denote univ = u.registry.denote univ') {p : Push}
    (hp : ∀ r, p ≠ .background r) (hholds : learning.Holds p) :
    ∃ q, learning'.Holds q ∧ p.SameDemands q := by
  obtain ⟨e, he, ctx, hctx, hp⟩ := exists_pushes_of_holds ht h hlearning hp hholds
  have hctx := Registry.resolve_of_registers (ht e he).registers_input h.grows h'.grows hctx
  obtain ⟨q, hq, hpq⟩ := hp.exists_sameDemands (ht e he) h h' hsame
  have hbackground : ∀ r, q ≠ .background r := by
    rintro _ rfl
    cases hq
  exact ⟨q, (holds_iff h'.registers (fun e he => (ht e (hexamples ▸ he)).mono h'.grows) hlearning'
    hbackground).2 ⟨e, hexamples ▸ he, ctx, hctx, hq⟩, hpq⟩

theorem exists_example_of_holds (hsame : t.registry.denote univ = u.registry.denote univ')
    {make : TrainingExample → Push} (hmake : make = .positive ∨ make = .negative)
    {m : TrainingExample} (hm : learning.Holds (make m)) :
    ∃ n, learning'.Holds (make n) ∧ m.SameDemands n := by
  have hp : ∀ r, make m ≠ .background r := by rcases hmake with rfl | rfl <;> simp
  obtain ⟨q, hq, hmq⟩ := exists_holds_of_holds hexamples ht h h' hlearning hlearning' hsame hp hm
  rcases hmake with rfl | rfl
  · cases hmq with
    | positive hmn => exact ⟨_, hq, hmn⟩
    | refl => exact ⟨m, hq, .refl m⟩
  · cases hmq with
    | negative hmn => exact ⟨_, hq, hmn⟩
    | refl => exact ⟨m, hq, .refl m⟩

theorem space_eq_of_synthesize : learning.space = learning'.space := by
  have hto {p : Push} := holds_of_isWord hexamples ht h h' hlearning hlearning' (p := p)
  have hfrom {p : Push} := holds_of_isWord hexamples.symm (hexamples ▸ ht) h' h hlearning'
    hlearning (p := p)
  obtain ⟨-, rfl⟩ := taskScript_of_synthesize hlearning
  obtain ⟨-, rfl⟩ := taskScript_of_synthesize hlearning'
  exact Builder.space_eq_of_holds fun p hword => ⟨hto hword, hfrom hword⟩

/-- The same universe in another numbering leads to the same learning task, but for the order of
what is excluded. -/
theorem sameDemands_of_synthesize (hsame : t.registry.denote univ = u.registry.denote univ') :
    learning.SameDemands learning' := by
  have hto {make : TrainingExample → Push} (hmake : make = .positive ∨ make = .negative) {m}
      (hm : learning.Holds (make m)) : ∃ n, learning'.Holds (make n) ∧ m.SameDemands n :=
    exists_example_of_holds hexamples ht h h' hlearning hlearning' hsame hmake hm
  have hfrom {make : TrainingExample → Push} (hmake : make = .positive ∨ make = .negative) {n}
      (hn : learning'.Holds (make n)) : ∃ m, learning.Holds (make m) ∧ m.SameDemands n := by
    obtain ⟨m, hm, hnm⟩ := exists_example_of_holds hexamples.symm (hexamples ▸ ht) h' h hlearning'
      hlearning hsame.symm hmake hn
    exact ⟨m, hm, hnm.symm⟩
  exact ⟨space_eq_of_synthesize hexamples ht h h' hlearning hlearning',
    ⟨fun _ => hto (.inl rfl), fun _ => hfrom (.inl rfl)⟩,
    ⟨fun _ => hto (.inr rfl), fun _ => hfrom (.inr rfl)⟩⟩

end Synthesis

end AnswerSetLearning
