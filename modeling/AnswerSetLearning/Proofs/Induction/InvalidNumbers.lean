import AnswerSetLearning.Proofs.Induction.Resolution

namespace AnswerSetLearning

namespace Registry

def Lacks (r : Registry) (s : LitSet) : Prop := ∃ i ∈ s, i < 1 ∨ r.size < i

theorem not_lacks_iff {r : Registry} {s : LitSet} : ¬ r.Lacks s ↔ r.Registers s := by
  rw [← numbers_iff_registers]
  simp only [Lacks, Numbers, not_exists, not_and]
  have hwithin (i : Int) : ¬ (i < 1 ∨ r.size < i) ↔ 1 ≤ i ∧ i ≤ r.size := by omega
  exact forall₂_congr fun i _ => hwithin i

theorem exists_resolve_iff {r : Registry} {s : LitSet} :
    (∃ ls, r.resolve s.items = .ok ls) ↔ r.Registers s := by
  refine ⟨?_, exists_resolve⟩
  rintro ⟨ls, hls⟩ i hi
  have hmem : r.get? i ∈ ls.map some := resolve_eq_ok_iff.1 hls ▸ List.mem_map_of_mem hi
  obtain ⟨l, -, hl⟩ := List.mem_map.1 hmem
  exact ⟨l, hl.symm⟩

theorem lit_of_resolve_error {r : Registry} {is : List Lit} {err : InvalidLiteral}
    (h : r.resolve is = .error err) : err.lit < 1 ∨ r.size < err.lit := by
  induction is with
  | nil => cases h
  | cons i is ih =>
    rw [resolve, List.mapM_cons] at h
    change (r.get i >>= fun l => r.resolve is >>= fun ls => pure (l :: ls)) = _ at h
    cases hi : r.get i with
    | error e =>
      rw [hi] at h
      cases h
      obtain ⟨rfl, hout⟩ := get_eq_error_iff.1 hi
      exact hout
    | ok l =>
      cases his : r.resolve is with
      | error e =>
        rw [hi, his] at h
        cases h
        exact ih his
      | ok ls =>
        rw [hi, his] at h
        cases h

end Registry

namespace Builder

def append (b c : Builder) : Builder where
  positives := b.positives ++ c.positives
  negatives := b.negatives ++ c.negatives
  positiveBody := b.positiveBody ++ c.positiveBody
  generalBody := b.generalBody ++ c.generalBody
  head := b.head ++ c.head
  background := b.background ++ c.background

structure Begins (b c : Builder) : Prop where
  positives : b.positives <+: c.positives
  negatives : b.negatives <+: c.negatives
  positiveBody : b.positiveBody <+: c.positiveBody
  generalBody : b.generalBody <+: c.generalBody
  head : b.head <+: c.head
  background : b.background <+: c.background

theorem append_push (b c : Builder) (p : Push) : (b.append c).push p = b.append (c.push p) := by
  cases p <;> simp [append, push]

theorem append_pushAll (b c : Builder) (ps : List Push) :
    (b.append c).pushAll ps = b.append (c.pushAll ps) := by
  induction ps generalizing c with
  | nil => rfl
  | cons p ps ih => rw [pushAll, List.foldl_cons, ← pushAll, append_push, ih]; rfl

theorem pushAll_eq_append (b : Builder) (ps : List Push) :
    b.pushAll ps = b.append (empty.pushAll ps) := by
  have hempty : b.append empty = b := by simp [append, empty]
  rw [← append_pushAll, hempty]

theorem begins_append (b c : Builder) : b.Begins (b.append c) :=
  ⟨List.prefix_append _ _, List.prefix_append _ _, List.prefix_append _ _, List.prefix_append _ _,
    List.prefix_append _ _, List.prefix_append _ _⟩

theorem begins_pushAll (b : Builder) {ps qs : List Push} (h : ps <+: qs) :
    (b.pushAll ps).Begins (b.pushAll qs) := by
  obtain ⟨rest, rfl⟩ := h
  rw [pushAll, pushAll, List.foldl_append, ← pushAll, ← pushAll, pushAll_eq_append _ rest]
  exact begins_append _ _

end Builder

namespace Script

/-- The first script is the second, or its beginning up to a number without a literal. -/
structure StopsIn (r : Registry) (s t : Script) : Prop where
  pushes : s.pushes <+: t.pushes
  eq_of_ok : s.fault = none → s = t
  fault : ∀ err, s.fault = some err → err.lit < 1 ∨ r.size < err.lit

variable {r grown : Registry} {s t : Script}

theorem stopsIn_of (r : Registry) (ps : List Push) : StopsIn r (.of ps) (.of ps) :=
  ⟨List.prefix_refl ps, fun _ => rfl, nofun⟩

theorem StopsIn.andThen (h : StopsIn r s t) {next next' : Unit → Script}
    (hnext : StopsIn r (next ()) (next' ())) :
    StopsIn r (s.andThen next) (t.andThen next') := by
  cases hs : s.fault with
  | some e =>
    have hstop : s.andThen next = ⟨s.pushes, some e⟩ := by rw [Script.andThen, hs]
    rw [hstop]
    refine ⟨h.pushes.trans ?_, by simp, fun err herr => h.fault err (hs.trans herr)⟩
    rw [Script.andThen]
    split
    · exact List.prefix_refl _
    · exact List.prefix_append _ _
  | none =>
    obtain rfl := h.eq_of_ok hs
    rw [andThen_of_ok hs, andThen_of_ok hs]
    exact ⟨(List.prefix_append_right_inj _).2 hnext.pushes,
      fun hok => by rw [hnext.eq_of_ok hok], hnext.fault⟩

theorem StopsIn.concat_map {α : Type} {l : List α} {f g : α → Script}
    (h : ∀ a ∈ l, StopsIn r (f a) (g a)) : StopsIn r (concat (l.map f)) (concat (l.map g)) := by
  induction l with
  | nil => exact stopsIn_of r []
  | cons a l ih =>
    obtain ⟨ha, hl⟩ := List.forall_mem_cons.1 h
    exact ha.andThen (ih hl)

theorem StopsIn.resolving (hr : r.Extends grown) {is : List Lit}
    {next next' : List Literal → Script} (h : ∀ ls, StopsIn r (next ls) (next' ls)) :
    StopsIn r (resolving r is next) (Script.resolving grown is next') := by
  cases hls : r.resolve is with
  | ok ls =>
    rw [resolving_of_ok hls, resolving_of_ok (Registry.resolve_of_extends hls hr)]
    exact h ls
  | error e =>
    have hstop : Script.resolving r is next = stop e := by rw [Script.resolving, hls]
    rw [hstop]
    refine ⟨List.nil_prefix, by simp [stop], fun err herr => ?_⟩
    cases herr
    exact Registry.lit_of_resolve_error hls

theorem fault_resolving_iff {u : LitSet} {next : List Literal → Script} :
    (Script.resolving r u.items next).fault = none ↔
      ∃ ls, r.resolve u.items = .ok ls ∧ (next ls).fault = none := by
  cases hls : r.resolve u.items with
  | ok ls => simp [Script.resolving, hls]
  | error e => simp [Script.resolving, hls, stop]

end Script

section Numbers

variable {registry grown : Registry} {univ : LitSet} {e : Example}

/-- Some number that the parts of the example are made of is not given out: one of its input or,
if it has outputs, one of these or of the universe. -/
def Example.Lacks (e : Example) (registry : Registry) (univ : LitSet) : Prop :=
  registry.Lacks e.input ∨
    e.outputs ≠ [] ∧ (registry.Lacks univ ∨ ∃ s ∈ e.outputs, registry.Lacks s)

theorem Example.not_lacks_iff : ¬ e.Lacks registry univ ↔ registry.Registers e.input ∧
    (e.outputs ≠ [] → registry.Registers univ ∧ ∀ s ∈ e.outputs, registry.Registers s) := by
  simp only [Lacks, not_or, not_and, not_exists, Registry.not_lacks_iff]

open Script in
theorem exampleScript_stopsIn (hr : registry.Extends grown) (univ : LitSet) (e : Example) :
    StopsIn registry (exampleScript registry univ e) (exampleScript grown univ e) := by
  have haccept (ctx s) :
      StopsIn registry (acceptOutput registry univ ctx s) (acceptOutput grown univ ctx s) :=
    .resolving hr fun _ => .resolving hr fun _ => stopsIn_of _ _
  have hliteral (ctx i) :
      StopsIn registry (excludeLiteral registry ctx i) (excludeLiteral grown ctx i) :=
    .resolving hr fun _ => stopsIn_of _ _
  have hgroup (ctx g) :
      StopsIn registry (excludeGroup registry univ e ctx g) (excludeGroup grown univ e ctx g) :=
    .resolving hr fun _ => .concat_map fun _ _ => .resolving hr fun _ => stopsIn_of _ _
  have htraining (ctx) :
      StopsIn registry (trainingScript registry univ e ctx) (trainingScript grown univ e ctx) := by
    unfold trainingScript
    split
    · exact stopsIn_of _ _
    · exact (StopsIn.concat_map fun s _ => haccept ctx s).andThen
        ((StopsIn.concat_map fun i _ => hliteral ctx i).andThen
          (.concat_map fun g _ => hgroup ctx g))
  exact .resolving hr fun ctx => (htraining ctx).andThen (.resolving hr fun _ => stopsIn_of _ _)

theorem not_lacks_of_fault (hu : univ.Normal) (he : e.Normal)
    (h : (exampleScript registry univ e).fault = none) : ¬ e.Lacks registry univ := by
  obtain ⟨ctx, hctx, htraining⟩ := Script.fault_resolving_iff.1 h
  rw [Script.fault_andThen] at htraining
  refine Example.not_lacks_iff.2 ⟨Registry.exists_resolve_iff.1 ⟨ctx, hctx⟩, fun hout => ?_⟩
  have haccept := htraining.1
  rw [trainingScript, if_neg (by simpa using hout), Script.fault_andThen, Script.fault_concat,
    List.forall_mem_map] at haccept
  have houtput (s) (hs : s ∈ e.outputs) :
      registry.Registers s ∧ registry.Registers (univ.diff s) := by
    obtain ⟨incl, hincl, hexcl⟩ := Script.fault_resolving_iff.1 (haccept.1 s hs)
    obtain ⟨excl, hexcl, -⟩ := Script.fault_resolving_iff.1 hexcl
    exact ⟨Registry.exists_resolve_iff.1 ⟨incl, hincl⟩, Registry.exists_resolve_iff.1 ⟨excl, hexcl⟩⟩
  refine ⟨fun i hi => ?_, fun s hs => (houtput s hs).1⟩
  obtain ⟨s, hs⟩ := List.exists_mem_of_ne_nil _ hout
  -- The first output and what it excludes make up the universe.
  by_cases his : i ∈ s
  · exact (houtput s hs).1 i his
  · exact (houtput s hs).2 i ((SortedSet.mem_diff hu (he.outputs s hs)).2 ⟨hi, his⟩)

theorem fault_of_not_lacks (he : e.Normal) (h : ¬ e.Lacks registry univ) :
    (exampleScript registry univ e).fault = none := by
  obtain ⟨hinput, hrest⟩ := Example.not_lacks_iff.1 h
  by_cases hout : e.outputs = []
  · have hnone : ∀ s ∈ e.outputs, registry.Registers s := by simp [hout]
    have hregistered : e.RegisteredIn registry := ⟨he, hinput, hnone⟩
    refine Script.fault_resolving hinput fun ctx => Script.fault_andThen.2 ⟨?_, ?_⟩
    · rw [trainingScript, if_pos (List.isEmpty_iff.2 hout)]
      rfl
    · exact Script.fault_resolving hregistered.added fun _ => rfl
  · obtain ⟨huniv, houtputs⟩ := hrest hout
    exact fault_exampleScript huniv ⟨he, hinput, houtputs⟩

/-- An example stops exactly when one of its numbers has no literal, and names such a number. The
builder then holds, list by list, what it held and the beginning of what the example makes where
the registry has grown to have literals for all these numbers. -/
theorem exampleScript_stops_iff_lacks (hu : univ.Normal) (he : e.Normal) (b : Builder) :
    ((∃ err, (exampleScript registry univ e).fault = some err) ↔ e.Lacks registry univ) ∧
      (∀ err, (exampleScript registry univ e).fault = some err →
        err.lit < 1 ∨ registry.size < err.lit) ∧
      ∀ grown, registry.GrowsTo grown → ¬ e.Lacks grown univ →
        let made := Builder.empty.pushAll (exampleScript registry univ e).pushes
        let whole := Builder.empty.pushAll (exampleScript grown univ e).pushes
        (exampleScript grown univ e).fault = none ∧
          b.pushAll (exampleScript grown univ e).pushes = b.append whole ∧
          b.pushAll (exampleScript registry univ e).pushes = b.append made ∧
          made.Begins whole := by
  have hstops {grown : Registry} (h : registry.GrowsTo grown) :=
    exampleScript_stopsIn h.extends univ e
  refine ⟨?_, (hstops (.refl _)).fault, fun grown hgrown hlacks => ?_⟩
  · rw [← Option.isSome_iff_exists, Option.isSome_iff_ne_none, ne_eq, ← not_iff_not, not_not]
    exact ⟨not_lacks_of_fault hu he, fault_of_not_lacks he⟩
  · exact ⟨fault_of_not_lacks he hlacks, b.pushAll_eq_append _, b.pushAll_eq_append _,
      Builder.empty.begins_pushAll (hstops hgrown).pushes⟩

def missingLetter : Example := ⟨⟨[]⟩, [⟨[1, 2]⟩, ⟨[1, 3]⟩]⟩

def twoLetters : Registry := ⟨[⟨"a", []⟩, ⟨"b", []⟩]⟩

def heldHead : Builder := Builder.empty.push (.head ⟨"h", []⟩)

theorem missingLetter_stops :
    (∃ err, (exampleScript twoLetters ⟨[1, 2]⟩ missingLetter).fault = some err) ∧
      heldHead.pushAll (exampleScript twoLetters ⟨[1, 2]⟩ missingLetter).pushes =
        heldHead.append ⟨[⟨[⟨"a", []⟩, ⟨"b", []⟩], [], []⟩], [], [], [], [], []⟩ ∧
      (exampleScript letters ⟨[1, 2]⟩ missingLetter).fault = none ∧
      Builder.Begins ⟨[⟨[⟨"a", []⟩, ⟨"b", []⟩], [], []⟩], [], [], [], [], []⟩
        (Builder.empty.pushAll (exampleScript letters ⟨[1, 2]⟩ missingLetter).pushes) := by
  have hmade : Builder.empty.pushAll (exampleScript twoLetters ⟨[1, 2]⟩ missingLetter).pushes =
      ⟨[⟨[⟨"a", []⟩, ⟨"b", []⟩], [], []⟩], [], [], [], [], []⟩ := by cbv
  have hlacks : missingLetter.Lacks twoLetters ⟨[1, 2]⟩ :=
    .inr ⟨by decide, .inr ⟨⟨[1, 3]⟩, by decide, 3, by decide, .inr (by decide)⟩⟩
  have hgiven : ¬ missingLetter.Lacks letters ⟨[1, 2]⟩ :=
    Example.not_lacks_iff.2 ⟨by decide, fun _ => ⟨by decide, by decide⟩⟩
  obtain ⟨hstops, -, hgrown⟩ :=
    @exampleScript_stops_iff_lacks twoLetters ⟨[1, 2]⟩ missingLetter (by decide) (by decide)
      heldHead
  obtain ⟨hfault, -, hheld, hbegins⟩ := hgrown letters (List.prefix_append _ _) hgiven
  exact ⟨hstops.2 hlacks, hmade ▸ hheld, hfault, hmade ▸ hbegins⟩

end Numbers

end AnswerSetLearning
