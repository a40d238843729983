import AnswerSetLearning.Command.Markup

namespace AnswerSetLearning.Markup

variable {α β : Type} {cs ds inside rest : List Char} {c : Char} {ps : List Part} {s : String}
  {e : Fault} {openTags : List String}

/-! ### Where the tags are -/

structure IsInside (cs : List Char) : Prop where
  starts : ∃ c ds, cs = c :: ds ∧ isTagStart c = true
  closed : ∀ c ∈ cs, c ≠ '[' ∧ c ≠ ']'

theorem isTagStart_ne (h : isTagStart c = true) : c ≠ '[' ∧ c ≠ ']' := by
  constructor <;> rintro rfl <;> exact absurd h (by decide)

theorem tagRest?_append (h : ∀ c ∈ inside, c ≠ '[' ∧ c ≠ ']') :
    tagRest? (inside ++ ']' :: rest) = some (inside, rest) := by
  induction inside with
  | nil => rfl
  | cons c inside ih =>
    obtain ⟨⟨hopen, hclose⟩, h⟩ := List.forall_mem_cons.1 h
    simp [tagRest?, ih h]

theorem of_tagRest? (h : tagRest? cs = some (inside, rest)) :
    (∀ c ∈ inside, c ≠ '[' ∧ c ≠ ']') ∧ cs = inside ++ ']' :: rest := by
  fun_induction tagRest? cs generalizing inside with
  | case1 => cases h
  | case2 => cases h
  | case3 cs => cases h; simp
  | case4 cs c hopen hclose ih =>
    obtain ⟨⟨ds, _⟩, hds, heq⟩ := Option.map_eq_some_iff.1 h
    cases heq
    obtain ⟨hfree, rfl⟩ := ih hds
    exact ⟨List.forall_mem_cons.2 ⟨⟨hopen, hclose⟩, hfree⟩, rfl⟩

theorem tag?_eq_some_iff :
    tag? cs = some (inside, rest) ↔ IsInside inside ∧ cs = '[' :: inside ++ ']' :: rest := by
  constructor
  · intro h
    fun_cases tag? cs with
    | case1 c cs hc =>
      rw [tag?, if_pos hc] at h
      obtain ⟨⟨ds, _⟩, hds, heq⟩ := Option.map_eq_some_iff.1 h
      cases heq
      obtain ⟨hfree, rfl⟩ := of_tagRest? hds
      exact ⟨⟨⟨c, ds, rfl, hc⟩, List.forall_mem_cons.2 ⟨isTagStart_ne hc, hfree⟩⟩, rfl⟩
    | case2 c cs hc => simp [tag?, hc] at h
    | case3 cs hcs => simp [tag?] at h
  · rintro ⟨⟨⟨c, ds, rfl, hc⟩, hfree⟩, rfl⟩
    simp [tag?, hc, tagRest?_append (List.forall_mem_cons.1 hfree).2]

/-! ### A message piece by piece -/

abbrev backslashes (n : Nat) : List Char := List.replicate n '\\'

/-- A message is made of tags and of other characters, each with the backslashes before it. -/
inductive Pieces : List Char → Prop
  | run (n : Nat) : Pieces (backslashes n)
  | char (n : Nat) {c : Char} {cs : List Char} (hc : c ≠ '\\') (ht : tag? (c :: cs) = none)
      (h : Pieces cs) : Pieces (backslashes n ++ c :: cs)
  | tag (n : Nat) {inside cs : List Char} (hi : IsInside inside) (h : Pieces cs) :
      Pieces (backslashes n ++ ('[' :: inside ++ ']' :: cs))

theorem exists_backslashes (cs : List Char) :
    ∃ n ds, cs = backslashes n ++ ds ∧ ds.head? ≠ some '\\' := by
  induction cs with
  | nil => exact ⟨0, [], rfl, by simp⟩
  | cons c cs ih =>
    by_cases hc : c = '\\'
    · obtain ⟨n, ds, rfl, hds⟩ := ih
      exact ⟨n + 1, ds, by simp [hc, List.replicate_succ], hds⟩
    · exact ⟨0, c :: cs, rfl, by simpa using hc⟩

theorem pieces (cs : List Char) : Pieces cs := by
  induction hn : cs.length using Nat.strongRecOn generalizing cs with
  | ind length ih =>
    obtain ⟨n, ds, rfl, hds⟩ := exists_backslashes cs
    match ds with
    | [] => simpa using Pieces.run n
    | c :: ds =>
      cases ht : tag? (c :: ds) with
      | none => exact .char n (by simpa using hds) ht (ih _ (by simp [← hn]; omega) ds rfl)
      | some found =>
        obtain ⟨hi, heq⟩ := tag?_eq_some_iff.1 ht
        rw [heq] at hn ⊢
        exact .tag n hi (ih _ (by simp [← hn]; omega) found.2 rfl)

theorem takeWhile_backslashes (n : Nat) (h : ds.head? ≠ some '\\') :
    (backslashes n ++ ds).takeWhile (· == '\\') = backslashes n := by
  induction n with
  | zero => cases ds <;> simp_all
  | succ n ih => simpa [List.replicate_succ] using ih

def pending (plain : List Char) : List Part := if plain.isEmpty then [] else [.text plain.reverse]

theorem partsFrom_skip (plain : List Char) (n : Nat) (cs : List Char) :
    partsFrom plain n cs = partsFrom plain 0 (cs.drop n) := by
  induction cs generalizing n with
  | nil => simp [partsFrom]
  | cons c cs ih =>
    cases n with
    | zero => rfl
    | succ n => simpa [partsFrom] using ih n

theorem partsFrom_cons (plain : List Char) (n : Nat) (h : ds.head? ≠ some '\\')
    (heq : c :: cs = backslashes n ++ ds) :
    partsFrom plain 0 (c :: cs) =
      match tag? ds with
      | some (inside, _) =>
        pending plain ++ .tag n inside :: partsFrom [] (n + inside.length + 1) cs
      | none => partsFrom (c :: plain) 0 cs := by
  rw [partsFrom, heq, takeWhile_backslashes n h, List.drop_left]
  cases tag? ds <;> simp [pending]

theorem partsFrom_tag (plain : List Char) (n : Nat) (hi : IsInside inside) (rest : List Char) :
    partsFrom plain 0 (backslashes n ++ ('[' :: inside ++ ']' :: rest)) =
      pending plain ++ .tag n inside :: partsFrom [] 0 rest := by
  have ht : tag? ('[' :: inside ++ ']' :: rest) = some (inside, rest) :=
    tag?_eq_some_iff.2 ⟨hi, rfl⟩
  obtain ⟨c, cs, heq⟩ := List.exists_cons_of_ne_nil
    (show backslashes n ++ ('[' :: inside ++ ']' :: rest) ≠ [] by simp)
  have hdrop : cs.drop (n + inside.length + 1) = rest := by
    have hlength : (c :: cs).drop (n + inside.length + 2) = rest := by
      rw [← heq, Nat.add_assoc, ← List.drop_drop]
      simp
    simpa using hlength
  rw [heq, partsFrom_cons plain n (by simp) heq.symm, ht]
  simp [partsFrom_skip [] (n + inside.length + 1), hdrop]

theorem partsFrom_passed (plain : List Char) (n : Nat) (h : ds.head? ≠ some '\\')
    (ht : tag? ds = none) :
    partsFrom plain 0 (backslashes n ++ ds) = partsFrom (backslashes n ++ plain) 0 ds := by
  induction n generalizing plain with
  | zero => rfl
  | succ n ih =>
    have heq : '\\' :: (backslashes n ++ ds) = backslashes (n + 1) ++ ds := by
      simp [List.replicate_succ]
    rw [← heq, partsFrom_cons plain (n + 1) h heq, ht]
    simp [ih, List.replicate_succ']

theorem partsFrom_char (plain : List Char) (n : Nat) (hc : c ≠ '\\') (ht : tag? (c :: cs) = none) :
    partsFrom plain 0 (backslashes n ++ c :: cs) =
      partsFrom (c :: (backslashes n ++ plain)) 0 cs := by
  rw [partsFrom_passed plain n (by simpa using hc) ht, partsFrom_cons _ 0 (by simpa using hc) rfl,
    ht]

theorem partsFrom_run (plain : List Char) (n : Nat) :
    partsFrom plain 0 (backslashes n) = pending (backslashes n ++ plain) := by
  have hrun : backslashes n ++ [] = backslashes n := List.append_nil _
  rw [← hrun, partsFrom_passed plain n (by simp) rfl, hrun, partsFrom, pending]

/-! ### The tags of a message -/

def tagsOf : List Part → List (List Char)
  | [] => []
  | .text _ :: ps => tagsOf ps
  | .tag escapes inside :: ps => if escapes % 2 = 1 then tagsOf ps else inside :: tagsOf ps

def tags (cs : List Char) : List (List Char) := tagsOf (parts cs)

theorem tagsOf_append (ps qs : List Part) : tagsOf (ps ++ qs) = tagsOf ps ++ tagsOf qs := by
  induction ps with
  | nil => rfl
  | cons p ps ih =>
    cases p with
    | text cs => exact ih
    | tag escapes inside =>
      simp only [List.cons_append, tagsOf, ih]
      split <;> rfl

theorem tagsOf_pending (plain : List Char) : tagsOf (pending plain) = [] := by
  unfold pending
  split <;> rfl

theorem tagsOf_partsFrom (plain cs : List Char) : tagsOf (partsFrom plain 0 cs) = tags cs := by
  have h := pieces cs
  induction h generalizing plain with
  | run n => rw [tags, parts, partsFrom_run, partsFrom_run, tagsOf_pending, tagsOf_pending]
  | char n hc ht _ ih =>
    rw [tags, parts, partsFrom_char _ n hc ht, partsFrom_char _ n hc ht, ih, ih]
  | tag n hi _ ih => simp only [tags, parts, partsFrom_tag _ n hi, tagsOf_append, tagsOf_pending]

theorem tags_run (n : Nat) : tags (backslashes n) = [] := by
  rw [tags, parts, partsFrom_run, tagsOf_pending]

theorem tags_char (n : Nat) (hc : c ≠ '\\') (ht : tag? (c :: cs) = none) :
    tags (backslashes n ++ c :: cs) = tags cs := by
  rw [tags, parts, partsFrom_char _ n hc ht, tagsOf_partsFrom]

theorem tags_tag (n : Nat) (hi : IsInside inside) (cs : List Char) :
    tags (backslashes n ++ ('[' :: inside ++ ']' :: cs)) =
      if n % 2 = 1 then tags cs else inside :: tags cs := by
  rw [tags, parts, partsFrom_tag _ n hi]
  rfl

theorem tags_eq_nil (h : '[' ∉ cs) : tags cs = [] := by
  have hp := pieces cs
  induction hp with
  | run n => exact tags_run n
  | char n hc ht _ ih => rw [tags_char n hc ht, ih (by simp_all)]
  | tag n hi _ _ => simp at h

theorem map_eq_error_iff {x : Except Fault α} {f : α → β} : x.map f = .error e ↔ x = .error e := by
  cases x <;> simp [Except.map]

theorem plainParts_eq_error_iff :
    plainParts openTags ps = .error e ↔ (tagsOf ps).foldlM afterTag openTags = .error e := by
  induction ps generalizing openTags with
  | nil => simp [plainParts, tagsOf, pure, Except.pure]
  | cons p ps ih =>
    cases p with
    | text cs => simp only [plainParts, tagsOf, map_eq_error_iff, ih]
    | tag escapes inside =>
      by_cases hodd : escapes % 2 = 1
      · simp only [plainParts, tagsOf, hodd, if_true, map_eq_error_iff, ih]
      · simp only [plainParts, tagsOf, hodd, if_false, List.foldlM_cons]
        cases afterTag openTags inside with
        | error e => simp [bind, Except.bind]
        | ok openTags => exact map_eq_error_iff.trans ih

theorem plain_eq_error_iff :
    plain s = .error e ↔ (tags s.toList).foldlM afterTag [] = .error e := by
  unfold plain
  split
  case isTrue => rw [map_eq_error_iff, plainParts_eq_error_iff, tags]
  case isFalse h =>
    have htags : tags s.toList = [] := tags_eq_nil (by simpa using h)
    simp [htags, pure, Except.pure]

def WellFormed (s : String) : Prop := ∃ text, plain s = .ok text

theorem wellFormed_iff :
    WellFormed s ↔ ∃ openTags, (tags s.toList).foldlM afterTag [] = .ok openTags := by
  unfold WellFormed
  cases hplain : plain s with
  | error e => simp [plain_eq_error_iff.1 hplain]
  | ok text =>
    cases htags : (tags s.toList).foldlM afterTag [] with
    | error e => simp [plain_eq_error_iff.2 htags] at hplain
    | ok openTags => simp

/-! ### Closed beginnings -/

/-- Every opening bracket and every backslash comes before a closing bracket. -/
def isClosed : List Char → Bool
  | [] => true
  | c :: cs => (c != '[' && c != '\\' || cs.contains ']') && isClosed cs

theorem isClosed_of_forall (h : ∀ c ∈ cs, c ≠ '[' ∧ c ≠ '\\') : isClosed cs = true := by
  induction cs with
  | nil => rfl
  | cons c cs ih => simp_all [isClosed]

theorem isClosed_of_append (cs : List Char) (h : isClosed (cs ++ ds) = true) :
    isClosed ds = true := by
  induction cs with
  | nil => exact h
  | cons c cs ih => exact ih (by simp_all [isClosed])

theorem tagRest?_append_eq_none (h : tagRest? cs = none) (hmem : ']' ∈ cs) (rest : List Char) :
    tagRest? (cs ++ rest) = none := by
  fun_induction tagRest? cs with
  | case1 => simp at hmem
  | case2 cs => simp [tagRest?]
  | case3 cs => cases h
  | case4 c cs hopen hclose ih =>
    have hmem : ']' ∈ cs := by simpa [Ne.symm hclose] using hmem
    simp [tagRest?, ih (by simpa using h) hmem]

theorem tag?_open_eq_none_iff :
    tag? ('[' :: cs) = none ↔ tagRest? cs = none ∨ ∀ c ∈ cs.head?, ¬ isTagStart c = true := by
  cases cs with
  | nil => simp [tag?, tagRest?]
  | cons c cs =>
    by_cases hc : isTagStart c = true
    · obtain ⟨hopen, hclose⟩ := isTagStart_ne hc
      simp [tag?, tagRest?, hc]
    · simp [tag?, hc]

theorem tag?_of_ne (hc : c ≠ '[') (cs : List Char) : tag? (c :: cs) = none := by
  cases cs <;> simp [tag?, hc]

theorem tags_append (h : isClosed cs = true) (rest : List Char) :
    tags (cs ++ rest) = tags cs ++ tags rest := by
  have hp := pieces cs
  induction hp with
  | run n =>
    cases n with
    | zero => rfl
    | succ n => simp [isClosed, List.replicate_succ] at h
  | @char n c cs hc ht _ ih =>
    have hclosed := isClosed_of_append _ h
    have htail : isClosed cs = true := by simp_all [isClosed]
    have happ : tag? (c :: (cs ++ rest)) = none := by
      by_cases hopen : c = '['
      · subst hopen
        have hmem : ']' ∈ cs := by simp_all [isClosed]
        rw [tag?_open_eq_none_iff] at ht ⊢
        refine ht.imp (fun ht => tagRest?_append_eq_none ht hmem rest) fun ht => ?_
        cases cs with
        | nil => simp at hmem
        | cons c cs => simpa using ht
      · exact tag?_of_ne hopen _
    rw [tags_char n hc ht, List.append_assoc, List.cons_append, tags_char n hc happ, ih htail]
  | @tag n inside cs hi _ ih =>
    have htail : isClosed cs = true :=
      isClosed_of_append (backslashes n ++ '[' :: inside ++ [']']) (by simpa using h)
    have happ : backslashes n ++ ('[' :: inside ++ ']' :: cs) ++ rest =
        backslashes n ++ ('[' :: inside ++ ']' :: (cs ++ rest)) := by simp
    rw [happ, tags_tag n hi, tags_tag n hi, ih htail]
    split <;> rfl

theorem isClosed_append (hcs : isClosed cs = true) (hds : isClosed ds = true) :
    isClosed (cs ++ ds) = true := by
  induction cs with
  | nil => exact hds
  | cons c cs ih =>
    simp only [isClosed, List.cons_append, Bool.and_eq_true, Bool.or_eq_true] at hcs ⊢
    exact ⟨hcs.1.imp_right fun h => by simp_all, ih hcs.2⟩

structure Carries (s : String) (ts : List (List Char)) : Prop where
  closed : isClosed s.toList = true
  tags : tags s.toList = ts

theorem Carries.append {s t : String} {ts us : List (List Char)} (hs : Carries s ts)
    (ht : Carries t us) : Carries (s ++ t) (ts ++ us) := by
  constructor
  · rw [String.toList_append, isClosed_append hs.closed ht.closed]
  · rw [String.toList_append, tags_append hs.closed, hs.tags, ht.tags]

theorem carries_of_all (h : s.toList.all (fun c => c != '[' && c != '\\') = true) :
    Carries s [] := by
  have hne : ∀ c ∈ s.toList, c ≠ '[' ∧ c ≠ '\\' := by simpa using h
  exact ⟨isClosed_of_forall hne, tags_eq_nil fun hc => (hne _ hc).1 rfl⟩

/-! ### Tags in pairs -/

def pairs (names : List String) : List (List Char) :=
  names.flatMap fun n => [n.toList, '/' :: n.toList]

theorem tagName_of_forall (h : cs.all isLowerLetter = true) : tagName cs = cs := by
  unfold tagName
  induction cs with
  | nil => rfl
  | cons c cs ih =>
    obtain ⟨hc, hcs⟩ : isLowerLetter c = true ∧ cs.all isLowerLetter = true := by simpa using h
    have hne : c ≠ '=' := by
      rintro rfl
      exact absurd hc (by decide)
    simp [hne, ih hcs]

theorem afterTag_open (h : cs.all isLowerLetter = true) (openTags : List String) :
    afterTag openTags cs = .ok (normalName cs :: openTags) := by
  unfold afterTag
  rw [tagName_of_forall h]
  split
  case h_1 name => simp [isLowerLetter] at h
  case h_2 => rfl

theorem afterTag_close (h : cs.all isLowerLetter = true) (openTags : List String) :
    afterTag (normalName cs :: openTags) ('/' :: cs) = .ok openTags := by
  have hname : tagName ('/' :: cs) = '/' :: cs := by
    simpa [tagName] using tagName_of_forall h
  simp [afterTag, hname]

theorem foldlM_pairs {names : List String}
    (h : ∀ n ∈ names, n.toList.all isLowerLetter = true) :
    (pairs names).foldlM afterTag openTags = .ok openTags := by
  induction names with
  | nil => rfl
  | cons n names ih =>
    obtain ⟨hn, hnames⟩ := List.forall_mem_cons.1 h
    have hpair : pairs (n :: names) = n.toList :: ('/' :: n.toList) :: pairs names := rfl
    rw [hpair, List.foldlM_cons, afterTag_open hn]
    change (afterTag _ _ >>= fun o => (pairs names).foldlM afterTag o) = _
    rw [afterTag_close hn]
    exact ih hnames

/-- A closed piece of a message whose tags come in pairs. -/
inductive IsBalanced (s : String) : Prop
  | intro (names : List String) (hnames : ∀ n ∈ names, n.toList.all isLowerLetter = true)
      (hs : Carries s (pairs names))

theorem IsBalanced.wellFormed (h : IsBalanced s) : WellFormed s := by
  obtain ⟨names, hnames, hs⟩ := h
  exact wellFormed_iff.2 ⟨[], hs.tags ▸ foldlM_pairs hnames⟩

theorem IsBalanced.plain_append_eq_error_iff {start : String} (h : IsBalanced start) (s : String) :
    plain (start ++ s) = .error e ↔ plain s = .error e := by
  obtain ⟨names, hnames, hstart⟩ := h
  rw [plain_eq_error_iff, plain_eq_error_iff, String.toList_append, tags_append hstart.closed,
    hstart.tags, List.foldlM_append, foldlM_pairs hnames]
  rfl

end AnswerSetLearning.Markup
