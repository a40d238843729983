import AnswerSetLearning.Proofs.Reader.Printing
import AnswerSetLearning.Proofs.Solver.Facts
import AnswerSetLearning.Proofs.Template.DefaultProgram

namespace AnswerSetLearning

open Solver (isNameOf)

/-! ## Names, variables and integers -/

def delimiters : List Char := [' ', ',', '(', ')', '\x7b', '\x7d', '.', '\n']

def isInteger : List Char → Bool
  | '-' :: digits => !digits.isEmpty && digits.all isDecimalDigit
  | digits => !digits.isEmpty && digits.all isDecimalDigit

/-- A name, a variable, an underscore, or an integer. -/
def TokenShaped (s : String) : Prop :=
  isNameOf isLowerLetter s.toList = true ∨ isNameOf isUpperLetter s.toList = true ∨ s = "_" ∨
    isInteger s.toList = true

instance (s : String) : Decidable (TokenShaped s) := inferInstanceAs (Decidable (_ ∨ _ ∨ _ ∨ _))

structure IsWord (s : String) : Prop where
  ne : s.toList ≠ []
  not_mem : ∀ c ∈ s.toList, c ∉ delimiters

theorem not_mem_delimiters {p : Char → Bool} (hp : delimiters.any p = false) {c : Char}
    (h : p c = true) : c ∉ delimiters := by
  intro hc
  rw [List.any_eq_true.2 ⟨c, hc, h⟩] at hp
  cases hp

theorem isWord_of_isNameChar {s : String} (hne : s.toList ≠ [])
    (h : ∀ c ∈ s.toList, isNameChar c = true) : IsWord s where
  ne := hne
  not_mem c hc := not_mem_delimiters (by decide) (h c hc)

theorem isWord_of_isNameOf {first : Char → Bool}
    (hfirst : ∀ c, first c = true → isNameChar c = true)
    {s : String} (h : isNameOf first s.toList = true) : IsWord s :=
  isWord_of_isNameChar (Solver.ne_nil_of_isNameOf h)
    (Solver.FactToken.isNameChar_of_isNameOf hfirst h)

theorem isWord_of_digits {s : String} (hne : s.toList ≠ [])
    (h : ∀ c ∈ s.toList, c = '-' ∨ isDecimalDigit c = true) : IsWord s where
  ne := hne
  not_mem c hc := by
    rcases h c hc with rfl | hdigit
    · decide
    · exact not_mem_delimiters (by decide) hdigit

theorem TokenShaped.isWord {s : String} (h : TokenShaped s) : IsWord s := by
  rcases h with h | h | rfl | h
  · exact isWord_of_isNameOf (fun _ => Solver.FactToken.isNameChar_of_isLowerLetter) h
  · exact isWord_of_isNameOf (fun _ => Solver.FactToken.isNameChar_of_isUpperLetter) h
  · exact isWord_of_isNameChar (by decide) (List.all_eq_true.1 (by decide))
  · unfold isInteger at h
    split at h
    · next digits hchars =>
      rw [Bool.and_eq_true, List.all_eq_true] at h
      refine isWord_of_digits (by simp [hchars]) fun c hc => ?_
      rw [hchars, List.mem_cons] at hc
      exact hc.imp id (h.2 c)
    · rw [Bool.and_eq_true, List.all_eq_true] at h
      exact isWord_of_digits (by simpa using h.1) fun c hc => .inr (h.2 c hc)

theorem IsWord.isLine {s : String} (h : IsWord s) : IsLine s := by
  rintro c hc rfl
  exact h.not_mem '\n' hc (by decide)

theorem Lexeme.WellSpelled.isLine {x : Lexeme} (h : x.WellSpelled) : IsLine x.text := by
  cases x with
  | integer digits =>
    exact (isWord_of_digits h.1 fun c hc => .inr (h.2 c hc)).isLine
  | var name =>
    exact (isWord_of_isNameOf (fun _ => Solver.FactToken.isNameChar_of_isUpperLetter) h).isLine
  | constant name =>
    exact (isWord_of_isNameOf (fun _ => Solver.FactToken.isNameChar_of_isLowerLetter) h).isLine
  | relation r => cases r <;> decide
  | _ => decide

/-! ## Literals are read off the front -/

theorem unambiguous_words : Unambiguous (· ∈ delimiters) fun s : {s // IsWord s} => s.1.toList := by
  have hinjective : Function.Injective fun s : {s // IsWord s} =>
      (⟨s.1, s.2.not_mem⟩ : {s : String // ∀ c ∈ s.toList, c ∉ delimiters}) :=
    fun _ _ h => Subtype.ext (Subtype.mk.inj h)
  exact ((unambiguous_text (· ∉ delimiters)).comp hinjective).mono fun _ => not_not.2

theorem IsWord.exists_eq_cons {s : String} (h : IsWord s) :
    ∃ c w, s.toList = c :: w ∧ c ∉ delimiters := by
  obtain ⟨c, w, hw⟩ := List.exists_cons_of_ne_nil h.ne
  exact ⟨c, w, hw, h.not_mem c (hw ▸ List.mem_cons_self)⟩

namespace Literal

structure IsWordy (l : Literal) : Prop where
  predicate : IsWord l.predicate
  args : ∀ a ∈ l.args, IsWord a

def argsText : List String → List Char
  | [] => []
  | args => '(' :: ((joinWith ", " args).toList ++ [')'])

theorem toList_text (l : Literal) : l.text.toList = l.predicate.toList ++ argsText l.args := by
  obtain ⟨p, args⟩ := l
  cases args with
  | nil => simp [text, argsText]
  | cons a args => simp [text, argsText]

theorem unambiguous_argsText : Unambiguous (fun c => c ∈ delimiters ∧ c ≠ '(')
    fun args : List {s // IsWord s} => argsText (args.map Subtype.val) := by
  have hjoined : Unambiguous (· = ')')
      fun args : List {s // IsWord s} => (joinWith ", " (args.map Subtype.val)).toList := by
    refine (unambiguous_words.mono ?_).joinWith rfl (fun s => ?_) (by decide)
    · rintro c (rfl | rfl) <;> decide
    · obtain ⟨c, w, hw, hc⟩ := s.2.exists_eq_cons
      exact ⟨c, w, hw, fun h => hc (h ▸ by decide)⟩
  intro args args' xs ys hxs hys h
  cases args with
  | nil =>
    cases args' with
    | nil => exact ⟨rfl, h⟩
    | cons a args' => exact absurd rfl (hxs '(' (by rw [show xs = _ from h]; rfl)).2
  | cons a args =>
    cases args' with
    | nil => exact absurd rfl (hys '(' (by rw [← show _ = ys from h]; rfl)).2
    | cons a' args' => exact ((hjoined.append rfl [] _).cons '(') hxs hys h

theorem unambiguous_text : Unambiguous (fun c => c ∈ delimiters ∧ c ≠ '(')
    fun l : {l : Literal // l.IsWordy} => l.1.text.toList := by
  have hparts := unambiguous_words.prod unambiguous_argsText fun args xs hxs => by
    cases args with
    | nil => exact fun c hc => (hxs c hc).1
    | cons a args => exact follows_cons.2 (by decide)
  rintro ⟨⟨p, args⟩, hp, hargs⟩ ⟨⟨q, args'⟩, hq, hargs'⟩ xs ys hxs hys h
  dsimp only at hp hargs hq hargs' h
  rw [toList_text, toList_text] at h
  lift args to List {s // IsWord s} using hargs
  lift args' to List {s // IsWord s} using hargs'
  obtain ⟨heq, hxy⟩ := @hparts (⟨p, hp⟩, args) (⟨q, hq⟩, args') xs ys hxs hys h
  cases heq
  exact ⟨rfl, hxy⟩

theorem exists_text_eq_cons {l : Literal} (h : l.IsWordy) :
    ∃ c w, l.text.toList = c :: w ∧ c ∉ delimiters := by
  obtain ⟨c, w, hw, hc⟩ := h.predicate.exists_eq_cons
  exact ⟨c, w ++ argsText l.args, by rw [toList_text, hw]; rfl, hc⟩

end Literal

/-! ## Lines tell their literals -/

namespace LearningTask

abbrev Word := {l : Literal // l.IsWordy}

theorem eq_of_framed_eq {before after after' : String}
    (hafter : Follows (fun c => c ∈ delimiters ∧ c ≠ '(') after.toList)
    (hafter' : Follows (fun c => c ∈ delimiters ∧ c ≠ '(') after'.toList) {l l' : Literal}
    (hl : l.IsWordy) (hl' : l'.IsWordy) (h : framed before after l = framed before after' l') :
    l = l' ∧ after = after' := by
  have hchars := congrArg String.toList h
  simp only [framed, String.toList_append, List.append_assoc] at hchars
  obtain ⟨hlit, hend⟩ := @Literal.unambiguous_text ⟨l, hl⟩ ⟨l', hl'⟩ _ _ hafter hafter'
    (List.append_cancel_left hchars)
  exact ⟨Subtype.mk.inj hlit, String.toList_inj.1 hend⟩

theorem unambiguous_group : Unambiguous (fun _ => True) fun ls : List Word =>
    (joinWith ", " ((ls.map Subtype.val).map Literal.text)).toList ++
      '\x7d' :: [',', ' ', '\x7b'] := by
  have hjoined : Unambiguous (· = '\x7d')
      fun ls : List Word => (joinWith ", " (ls.map fun l => l.1.text)).toList := by
    refine Unambiguous.joinWith rfl (Literal.unambiguous_text.mono ?_) (fun l => ?_) (by decide)
    · rintro c (rfl | rfl) <;> decide
    · obtain ⟨c, w, hw, hc⟩ := Literal.exists_text_eq_cons l.2
      exact ⟨c, w, hw, fun h => hc (h ▸ by decide)⟩
  simpa only [List.map_map, Function.comp_def] using
    hjoined.append rfl [',', ' ', '\x7b'] fun _ => True

theorem toList_contextText (ls : List Literal) (w : List Char) :
    (contextText ls).toList ++ ' ' :: w =
      ' ' :: (ls.flatMap (fun l => l.text.toList ++ '.' :: [' ']) ++ w) := by
  induction ls with
  | nil => rfl
  | cons l ls ih =>
    have hcons : contextText (l :: ls) = " " ++ l.text ++ "." ++ contextText ls := by
      simp [contextText, framed]
    simp [hcons, List.append_assoc, ih]

theorem unambiguous_context : Unambiguous (fun _ => True) fun ls : List Word =>
    (contextText (ls.map Subtype.val)).toList ++ ' ' :: ['\x7d', ')', '.'] := by
  have hfact : Unambiguous (fun _ => True) fun l : Word => l.1.text.toList ++ '.' :: [' '] :=
    Literal.unambiguous_text.append (by decide) [' '] _
  have hfacts : Unambiguous (· = '\x7d')
      (List.flatMap fun l : Word => l.1.text.toList ++ '.' :: [' ']) := by
    refine hfact.flatMap (· ∉ delimiters) (fun l => ?_) (fun _ _ => trivial) ?_
    · obtain ⟨c, w, hw, hc⟩ := Literal.exists_text_eq_cons l.2
      exact ⟨c, w ++ '.' :: [' '], by rw [hw]; rfl, hc⟩
    · rintro c rfl
      exact ⟨trivial, by decide⟩
  have hshift : (fun ls : List Word =>
      (contextText (ls.map Subtype.val)).toList ++ ' ' :: ['\x7d', ')', '.']) =
      fun ls => ' ' :: (ls.flatMap (fun l => l.1.text.toList ++ '.' :: [' ']) ++
        '\x7d' :: [')', '.']) := by
    funext ls
    rw [toList_contextText, List.flatMap_map]
  rw [hshift]
  exact (hfacts.append rfl _ _).cons ' '

end LearningTask

structure TrainingExample.IsWordy (e : TrainingExample) : Prop where
  incl : ∀ l ∈ e.incl, l.IsWordy
  excl : ∀ l ∈ e.excl, l.IsWordy
  ctx : ∀ l ∈ e.ctx, l.IsWordy

namespace LearningTask

theorem eq_of_exampleLine_eq (sign : String) {e e' : TrainingExample} (he : e.IsWordy)
    (he' : e'.IsWordy) (h : exampleLine sign e = exampleLine sign e') : e = e' := by
  have hline := unambiguous_group.prod
    (unambiguous_group.prod unambiguous_context fun _ _ _ => fun _ _ => trivial)
    fun _ _ _ => fun _ _ => trivial
  have hsplit (e : TrainingExample) : (exampleLine sign e).toList =
      ("#" ++ sign ++ "(\x7b").toList ++
        ((joinWith ", " (e.incl.map Literal.text)).toList ++ '\x7d' :: [',', ' ', '\x7b'] ++
        ((joinWith ", " (e.excl.map Literal.text)).toList ++ '\x7d' :: [',', ' ', '\x7b'] ++
        ((contextText e.ctx).toList ++ ' ' :: ['\x7d', ')', '.']))) := by
    simp [exampleLine]
  have hchars := congrArg String.toList h
  rw [hsplit, hsplit] at hchars
  obtain ⟨incl, excl, ctx⟩ := e
  obtain ⟨incl', excl', ctx'⟩ := e'
  obtain ⟨hincl, hexcl, hctx⟩ := he
  obtain ⟨hincl', hexcl', hctx'⟩ := he'
  dsimp only at *
  lift incl to List Word using hincl
  lift excl to List Word using hexcl
  lift ctx to List Word using hctx
  lift incl' to List Word using hincl'
  lift excl' to List Word using hexcl'
  lift ctx' to List Word using hctx'
  obtain ⟨heq, -⟩ := @hline (incl, excl, ctx) (incl', excl', ctx') [] [] follows_nil follows_nil
    (congrArg (· ++ []) (List.append_cancel_left hchars))
  cases heq
  rfl

end LearningTask

/-! ## Blank lines tell the parts -/

def Rule.IsRead (r : Rule) : Prop := ∃ text t, parseTask text = .ok t ∧ r ∈ t.background

theorem Rule.IsRead.printable {r : Rule} (h : r.IsRead) : r.Printable := by
  obtain ⟨text, t, ht, hr⟩ := h
  exact printable_of_mem_background ht hr

theorem Rule.text_ne_empty (r : Rule) : r.text ≠ "" := by
  intro h
  have hstop : '.' ∈ r.text.toList := by
    unfold Rule.text
    split <;> simp
  rw [h] at hstop
  cases hstop

theorem Literal.isLine {l : Literal} (hp : IsLine l.predicate) (hargs : ∀ a ∈ l.args, IsLine a) :
    IsLine l.text := by
  unfold Literal.text
  split
  · exact hp
  · exact ((hp.append (by decide)).append (.joinWith (by decide) hargs)).append (by decide)

theorem Literal.IsWordy.isLine {l : Literal} (h : l.IsWordy) : IsLine l.text :=
  Literal.isLine h.predicate.isLine fun a ha => (h.args a ha).isLine

theorem TermTree.isLine {t : TermTree} (h : ∀ x ∈ t.lexemes, x.WellSpelled) :
    IsLine t.literal.text := by
  have hl := wellSpelled_literal h
  refine Literal.isLine (h (.constant t.predicate) List.mem_cons_self).isLine fun a ha => ?_
  obtain ⟨x, hx, hxa⟩ := hl.args a ha
  obtain ⟨b, rfl, rfl⟩ := exists_argument hxa
  exact hx.isLine

theorem ElementTree.isLine {e : ElementTree} (h : ∀ x ∈ e.lexemes, x.WellSpelled) :
    IsLine e.element.text := by
  cases e with
  | atom t => exact t.isLine h
  | negation t =>
    exact .append (by decide) (t.isLine fun x hx => h x (List.mem_cons_of_mem _ hx))
  | comparison left r right =>
    have hleft : IsLine left.text := (h left.lexeme List.mem_cons_self).isLine
    have hright : IsLine right.text := (h right.lexeme (by simp [lexemes])).isLine
    have hr : IsLine r.text := (h (.relation r) (by simp [lexemes])).isLine
    exact (((hleft.append (by decide)).append hr).append (by decide)).append hright

theorem Rule.isLine {r : Rule} (hhead : ∀ l, r.head = some l → IsLine l.text)
    (hbody : ∀ e ∈ r.body, IsLine e.text) : IsLine r.text := by
  have hheadText : IsLine r.headText := by
    unfold Rule.headText
    split
    · next l hl => exact hhead l hl
    · decide
  unfold Rule.text
  split
  · exact hheadText.append (by decide)
  · refine ((?_ : IsLine _).append (.joinWith (by decide) ?_)).append (by decide)
    · split
      · decide
      · exact hheadText.append (by decide)
    · exact List.forall_mem_map.2 hbody

theorem Rule.IsRead.isLine {r : Rule} (h : r.IsRead) : IsLine r.text := by
  obtain ⟨text, t, ht, hr⟩ := h
  obtain ⟨tree, rfl, hlexemes⟩ := exists_wellSpelled_ruleTree ht hr
  cases tree with
  | fact t =>
    refine Rule.isLine (fun l hl => ?_) (by simp [RuleTree.rule])
    cases hl
    exact t.isLine fun x hx => hlexemes x (List.mem_append_left _ hx)
  | clause head body hne =>
    refine Rule.isLine (fun l hl => ?_) (List.forall_mem_map.2 fun e he => ?_)
    · obtain ⟨t, rfl, rfl⟩ := Option.map_eq_some_iff.1 hl
      exact t.isLine fun x hx => hlexemes x (List.mem_append_left _ hx)
    · refine e.isLine fun x hx => hlexemes x ?_
      simp only [RuleTree.lexemes, List.mem_append, List.mem_cons]
      exact .inr (.inr (.inl (mem_separated (List.mem_map_of_mem he) hx)))

structure SearchSpace.IsWordy (s : SearchSpace) : Prop where
  head : ∀ l ∈ s.head, l.IsWordy
  positiveBody : ∀ l ∈ s.positiveBody, l.IsWordy
  generalBody : ∀ l ∈ s.generalBody, l.IsWordy

structure LearningTask.IsWordy (t : LearningTask) : Prop where
  background : ∀ r ∈ t.background, r.IsRead
  space : t.space.IsWordy
  positives : ∀ e ∈ t.positives, e.IsWordy
  negatives : ∀ e ∈ t.negatives, e.IsWordy

namespace LearningTask

section Kinds

variable {l l' : Literal}

theorem headLine_ne_bodyLine (after : String) : headLine l ≠ framed "#modeb(" after l' := by
  intro h
  have hchars := congrArg String.toList h
  simp [headLine, framed] at hchars

theorem positiveLine_ne_generalLine (hl : l.IsWordy) (hl' : l'.IsWordy) :
    positiveLine l ≠ generalLine l' := by
  intro h
  have hends := (eq_of_framed_eq (follows_cons.2 (by decide)) (follows_cons.2 (by decide))
    hl hl' h).2
  exact absurd hends (by decide)

end Kinds

theorem follows_blank {p : String → Prop} (hp : p "") (xs : List String) : Follows p ("" :: xs) :=
  follows_cons.2 hp

theorem eq_of_spaceLines_eq {s s' : SearchSpace} (hs : s.IsWordy) (hs' : s'.IsWordy)
    {xs ys : List String}
    (h : s.head.map headLine ++ (s.positiveBody.map positiveLine ++
        (s.generalBody.map generalLine ++ "" :: xs)) =
      s'.head.map headLine ++ (s'.positiveBody.map positiveLine ++
        (s'.generalBody.map generalLine ++ "" :: ys))) : s = s' ∧ xs = ys := by
  -- Each group of lines ends where a line begins in another way.
  have hafterHead (s : SearchSpace) (xs : List String) :
      Follows (fun x => ∀ l : Literal, l.IsWordy → x ≠ headLine l)
        (s.positiveBody.map positiveLine ++ (s.generalBody.map generalLine ++ "" :: xs)) :=
    follows_map (fun l _ l' _ => (headLine_ne_bodyLine _).symm)
      (follows_map (fun l _ l' _ => (headLine_ne_bodyLine _).symm)
        (follows_blank (fun l _ => by simp [headLine, framed]) xs))
  have hafterPositive {s : SearchSpace} (hs : s.IsWordy) (xs : List String) :
      Follows (fun x => ∀ l : Literal, l.IsWordy → x ≠ positiveLine l)
        (s.generalBody.map generalLine ++ "" :: xs) :=
    follows_map (fun l hl l' hl' => (positiveLine_ne_generalLine hl' (hs.generalBody l hl)).symm)
      (follows_blank (fun l _ => by simp [positiveLine, framed]) xs)
  have hafterGeneral (xs : List String) :
      Follows (fun x => ∀ l : Literal, l.IsWordy → x ≠ generalLine l) ("" :: xs) :=
    follows_blank (fun l _ => by simp [generalLine, framed]) xs
  have hframed {before after : String}
      (hafter : Follows (fun c => c ∈ delimiters ∧ c ≠ '(') after.toList) (l l' : Literal)
      (hl : l.IsWordy) (hl' : l'.IsWordy) (h : framed before after l = framed before after l') :
      l = l' := (eq_of_framed_eq hafter hafter hl hl' h).1
  obtain ⟨hhead, hrest⟩ := eq_of_map_append_eq (hframed (follows_cons.2 (by decide)))
    hs.head hs'.head (hafterHead s xs) (hafterHead s' ys) h
  obtain ⟨hpositive, hrest⟩ := eq_of_map_append_eq (hframed (follows_cons.2 (by decide)))
    hs.positiveBody hs'.positiveBody (hafterPositive hs xs) (hafterPositive hs' ys) hrest
  obtain ⟨hgeneral, hrest⟩ := eq_of_map_append_eq (hframed (follows_cons.2 (by decide)))
    hs.generalBody hs'.generalBody (hafterGeneral xs) (hafterGeneral ys) hrest
  have hend : xs = ys := (List.cons.inj hrest).2
  obtain ⟨positiveBody, generalBody, head⟩ := s
  cases hhead
  cases hpositive
  cases hgeneral
  exact ⟨rfl, hend⟩

theorem eq_of_lines_eq {t t' : LearningTask} (ht : t.IsWordy) (ht' : t'.IsWordy)
    (h : t.lines = t'.lines) : t = t' := by
  have hafterRules (xs : List String) :
      Follows (fun x => ∀ r : Rule, r.IsRead → x ≠ r.text) ("" :: xs) :=
    follows_blank (fun r _ => r.text_ne_empty.symm) xs
  have hafterExamples (sign : String) (xs : List String) :
      Follows (fun x => ∀ e : TrainingExample, e.IsWordy → x ≠ exampleLine sign e) ("" :: xs) :=
    follows_blank (fun e _ => by simp [exampleLine]) xs
  have hheading {x y : String} {xs ys : List String} (h : x :: y :: xs = x :: y :: ys) : xs = ys :=
    (List.cons.inj (List.cons.inj h).2).2
  obtain ⟨hbackground, hrest⟩ := eq_of_map_append_eq
    (fun _ _ hr hr' => hr.printable.eq_of_text_eq hr'.printable) ht.background ht'.background
    (hafterRules _) (hafterRules _) (List.cons.inj h).2
  obtain ⟨hspace, hrest⟩ := eq_of_spaceLines_eq ht.space ht'.space (hheading hrest)
  obtain ⟨hpositives, hrest⟩ := eq_of_map_append_eq (fun _ _ => eq_of_exampleLine_eq "pos")
    ht.positives ht'.positives (hafterExamples _ _) (hafterExamples _ _) (List.cons.inj hrest).2
  obtain ⟨hnegatives, -⟩ := eq_of_map_append_eq (fun _ _ => eq_of_exampleLine_eq "neg")
    ht.negatives ht'.negatives follows_nil follows_nil (congrArg (· ++ []) (hheading hrest))
  obtain ⟨positives, negatives, space, background⟩ := t
  cases hbackground
  cases hspace
  cases hpositives
  cases hnegatives
  rfl

theorem isLine_framed {before after : String} (hbefore : IsLine before) (hafter : IsLine after)
    {l : Literal} (hl : l.IsWordy) : IsLine (framed before after l) :=
  (hbefore.append hl.isLine).append hafter

theorem isLine_exampleLine {sign : String} (hsign : IsLine sign) {e : TrainingExample}
    (he : e.IsWordy) : IsLine (exampleLine sign e) := by
  have hjoined {ls : List Literal} (hls : ∀ l ∈ ls, l.IsWordy) :
      IsLine (joinWith ", " (ls.map Literal.text)) :=
    .joinWith (by decide) (List.forall_mem_map.2 fun l hl => (hls l hl).isLine)
  have hcontext : IsLine (contextText e.ctx) :=
    .join (List.forall_mem_map.2 fun l hl => isLine_framed (by decide) (by decide) (he.ctx l hl))
  have hopen : IsLine ("#" ++ sign ++ "(\x7b") :=
    (IsLine.append (by decide) hsign).append (by decide)
  exact (((((hopen.append (hjoined he.incl)).append (by decide)).append (hjoined he.excl)).append
    (by decide)).append hcontext).append (by decide)

theorem isLine_of_mem_lines {t : LearningTask} (ht : t.IsWordy) : ∀ s ∈ t.lines, IsLine s := by
  simp only [lines, List.forall_mem_cons, List.forall_mem_append, List.forall_mem_map]
  exact ⟨by decide, fun r hr => (ht.background r hr).isLine, by decide, by decide,
    fun l hl => isLine_framed (by decide) (by decide) (ht.space.head l hl),
    fun l hl => isLine_framed (by decide) (by decide) (ht.space.positiveBody l hl),
    fun l hl => isLine_framed (by decide) (by decide) (ht.space.generalBody l hl),
    by decide, by decide, fun e he => isLine_exampleLine (by decide) (ht.positives e he),
    by decide, by decide, fun e he => isLine_exampleLine (by decide) (ht.negatives e he)⟩

end LearningTask

/-! ## The task is told by its text -/

def Literal.TokenShaped (l : Literal) : Prop :=
  AnswerSetLearning.TokenShaped l.predicate ∧ ∀ a ∈ l.args, AnswerSetLearning.TokenShaped a

instance (l : Literal) : Decidable l.TokenShaped := inferInstanceAs (Decidable (_ ∧ _))

theorem Literal.TokenShaped.isWordy {l : Literal} (h : l.TokenShaped) : l.IsWordy :=
  ⟨h.1.isWord, fun a ha => (h.2 a ha).isWord⟩

def TrainingExample.literals (e : TrainingExample) : List Literal := e.incl ++ (e.excl ++ e.ctx)

theorem TrainingExample.isWordy {e : TrainingExample} (h : ∀ l ∈ e.literals, l.TokenShaped) :
    e.IsWordy := by
  simp only [literals, List.forall_mem_append] at h
  exact ⟨fun l hl => (h.1 l hl).isWordy, fun l hl => (h.2.1 l hl).isWordy,
    fun l hl => (h.2.2 l hl).isWordy⟩

def LearningTask.literals (t : LearningTask) : List Literal :=
  t.space.head ++ (t.space.positiveBody ++ (t.space.generalBody ++
    (t.positives ++ t.negatives).flatMap TrainingExample.literals))

theorem LearningTask.isWordy {t : LearningTask} (hl : ∀ l ∈ t.literals, l.TokenShaped)
    (hr : ∀ r ∈ t.background, r.IsRead) : t.IsWordy := by
  simp only [literals, List.forall_mem_append] at hl
  obtain ⟨hhead, hpositive, hgeneral, hexamples⟩ := hl
  have hexample (e) (he : e ∈ t.positives ++ t.negatives) : e.IsWordy :=
    e.isWordy fun l hl => hexamples l (List.mem_flatMap.2 ⟨e, he, hl⟩)
  exact ⟨hr, ⟨fun l hl => (hhead l hl).isWordy, fun l hl => (hpositive l hl).isWordy,
    fun l hl => (hgeneral l hl).isWordy⟩, fun e he => hexample e (List.mem_append_left _ he),
    fun e he => hexample e (List.mem_append_right _ he)⟩

namespace Template

/-- The default template gives every task a text, and two tasks the same only if they are equal. -/
theorem render_default_eq_iff {t t' : LearningTask} (ht : ∀ l ∈ t.literals, l.TokenShaped)
    (hr : ∀ r ∈ t.background, r.IsRead) (ht' : ∀ l ∈ t'.literals, l.TokenShaped)
    (hr' : ∀ r ∈ t'.background, r.IsRead) :
    ∃ text text', render t none = .ok text ∧ render t' none = .ok text' ∧
      (text = text' ↔ t = t') := by
  refine ⟨_, _, render_default t, render_default t', fun h => ?_, fun h => by rw [h]⟩
  have hw := LearningTask.isWordy ht hr
  have hw' := LearningTask.isWordy ht' hr'
  exact LearningTask.eq_of_lines_eq hw hw' (eq_of_unlines_eq
    (LearningTask.isLine_of_mem_lines hw) (LearningTask.isLine_of_mem_lines hw') h)

def oneExcluded : LearningTask where
  positives := [⟨[⟨"p", ["a"]⟩], [⟨"q", ["-1", "X"]⟩], [⟨"r", []⟩]⟩]
  negatives := []
  space := ⟨[⟨"q", ["_"]⟩], [], [⟨"p", ["a"]⟩]⟩
  background := [⟨some ⟨"p", ["X"]⟩, [.atom true ⟨"r", []⟩]⟩]

def twoExcluded : LearningTask :=
  { oneExcluded with positives := [⟨[⟨"p", ["a"]⟩], [⟨"q", ["-1"]⟩, ⟨"X", []⟩], [⟨"r", []⟩]⟩] }

theorem render_oneExcluded_ne :
    (∀ l ∈ oneExcluded.literals, l.TokenShaped) ∧ (∀ l ∈ twoExcluded.literals, l.TokenShaped) ∧
    (∀ r ∈ oneExcluded.background, r.IsRead) ∧
    ∃ text text', render oneExcluded none = .ok text ∧ render twoExcluded none = .ok text' ∧
      text ≠ text' := by
  have hone : ∀ l ∈ oneExcluded.literals, l.TokenShaped := by decide +kernel
  have htwo : ∀ l ∈ twoExcluded.literals, l.TokenShaped := by decide +kernel
  have hread : ∀ r ∈ oneExcluded.background, r.IsRead := by
    intro r hr
    have hparse : parseTask "p(X) :- not r." = .ok ⟨.empty, oneExcluded.background, []⟩ := by cbv
    exact ⟨_, _, hparse, hr⟩
  obtain ⟨text, text', h, h', hiff⟩ := render_default_eq_iff hone hread htwo hread
  exact ⟨hone, htwo, hread, text, text', h, h', mt hiff.1 (by decide)⟩

end Template

end AnswerSetLearning
