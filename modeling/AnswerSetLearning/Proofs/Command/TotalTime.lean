import AnswerSetLearning.Command.Ilasp
import AnswerSetLearning.Proofs.Lines
import AnswerSetLearning.Proofs.Reader.Layout
import AnswerSetLearning.Proofs.Rounding

namespace AnswerSetLearning

variable {cs rest line : List Char} {d : Decimal}

/-! ### Numerals -/

def writtenNumber (cs : List Char) : Nat :=
  Nat.ofDigits 10 (cs.reverse.map fun c => c.toNat - '0'.toNat)

theorem digitsValue_eq (cs : List Char) : digitsValue cs = writtenNumber cs := by
  rw [writtenNumber, Nat.ofDigits_eq_foldr, List.foldr_map, List.foldr_reverse, digitsValue]
  congr
  funext n c
  exact Nat.add_comm _ _

structure AreDigits (cs : List Char) : Prop where
  nonempty : cs ≠ []
  digits : ∀ c ∈ cs, isAsciiDigit c = true

/-- The characters write the number, with a point or without one. -/
inductive Numeral : List Char → Decimal → Prop
  | whole {whole : List Char} (h : AreDigits whole) : Numeral whole ⟨writtenNumber whole, 0⟩
  | point {whole fraction : List Char} (h : AreDigits whole) (hfraction : AreDigits fraction) :
    Numeral (whole ++ '.' :: fraction) ⟨writtenNumber (whole ++ fraction), fraction.length⟩

inductive IsUnit : List Char → Prop
  | intro {before after : List Char} (hbefore : ∀ c ∈ before, isBlank c = true)
    (hafter : ∀ c ∈ after, isBlank c = true) : IsUnit (before ++ 's' :: after)

inductive Seconds : List Char → Decimal → Prop
  | intro {before numeral rest : List Char} {d : Decimal}
    (hbefore : ∀ c ∈ before, isBlank c = true) (hnumeral : Numeral numeral d)
    (hunit : IsUnit rest) : Seconds (before ++ (numeral ++ rest)) d

theorem isBlank_of_isAsciiDigit {c : Char} (hc : isAsciiDigit c = true) : isBlank c = false :=
  not_isBlank_of_isNameChar (by simp [isNameChar, hc])

/-! ### The parts that are read one after the other -/

theorem takeWhile_digits {digits : List Char} (h : ∀ c ∈ digits, isAsciiDigit c = true)
    (hrest : ∀ c ∈ rest.head?, isAsciiDigit c = false) :
    (digits ++ rest).takeWhile isAsciiDigit = digits := by
  rw [List.takeWhile_append_of_pos h]
  cases rest <;> simp_all

theorem dropWhile_digits {digits : List Char} (h : ∀ c ∈ digits, isAsciiDigit c = true)
    (hrest : ∀ c ∈ rest.head?, isAsciiDigit c = false) :
    (digits ++ rest).dropWhile isAsciiDigit = rest := by
  rw [List.dropWhile_append_of_pos h]
  cases rest <;> simp_all

def fractionAt : List Char → Option (List Char) × List Char
  | '.' :: cs => (some (cs.takeWhile isAsciiDigit), cs.dropWhile isAsciiDigit)
  | cs => (none, cs)

def withUnit? (rest : List Char) (d : Decimal) : Option Decimal :=
  match rest.dropWhile isBlank with
  | 's' :: cs => if cs.all isBlank then some d else none
  | _ => none

theorem secondsAt_eq {text whole tail : List Char} (htext : cs.dropWhile isBlank = text)
    (hwhole : text.takeWhile isAsciiDigit = whole) (htail : text.dropWhile isAsciiDigit = tail) :
    secondsAt cs =
      if whole = [] ∨ (fractionAt tail).1 = some [] then none
      else withUnit? (fractionAt tail).2 (.ofDigits whole ((fractionAt tail).1.getD [])) := by
  subst htext hwhole htail
  simp only [← List.isEmpty_iff, ← beq_iff_eq (b := some []), ← Bool.or_eq_true]
  rfl

theorem isUnit_iff :
    IsUnit cs ↔ ∃ after, cs.dropWhile isBlank = 's' :: after ∧ after.all isBlank := by
  constructor
  · rintro @⟨before, after, hbefore, hafter⟩
    rw [List.dropWhile_append_of_pos hbefore, List.dropWhile_cons_of_neg (by decide)]
    exact ⟨after, rfl, by simpa using hafter⟩
  · rintro ⟨after, hdrop, hafter⟩
    rw [← List.takeWhile_append_dropWhile (p := isBlank) (l := cs), hdrop]
    exact .intro (fun _ => List.mem_takeWhile_imp) (by simpa using hafter)

theorem withUnit?_eq_some_iff {d' : Decimal} :
    withUnit? rest d' = some d ↔ IsUnit rest ∧ d' = d := by
  rw [isUnit_iff, withUnit?]
  split
  · next after hdrop => simp [hdrop]
  · next hdrop =>
    refine iff_of_false (by simp) ?_
    rintro ⟨⟨after, heq, -⟩, -⟩
    exact hdrop after heq

theorem IsUnit.ends (h : IsUnit rest) : ∀ c ∈ rest.head?, isAsciiDigit c = false ∧ c ≠ '.' := by
  have hends {c : Char} (hc : isBlank c = true) : isAsciiDigit c = false ∧ c ≠ '.' := by
    constructor
    · by_contra hdigit
      simp [isBlank_of_isAsciiDigit (by simpa using hdigit)] at hc
    · rintro rfl
      exact absurd hc (by decide)
  obtain @⟨before, after, hbefore, -⟩ := h
  cases before with
  | nil => simp [isAsciiDigit]
  | cons c before => simpa using hends (hbefore c List.mem_cons_self)

theorem fractionAt_of_ne (h : ∀ c ∈ rest.head?, c ≠ '.') : fractionAt rest = (none, rest) := by
  unfold fractionAt
  split
  · exact absurd rfl (h '.' rfl)
  · rfl

theorem fractionAt_point {fraction : List Char} (h : AreDigits fraction)
    (hrest : ∀ c ∈ rest.head?, isAsciiDigit c = false) :
    fractionAt ('.' :: (fraction ++ rest)) = (some fraction, rest) := by
  rw [fractionAt, takeWhile_digits h.digits hrest, dropWhile_digits h.digits hrest]

theorem secondsAt_of_areDigits {before whole : List Char} (hbefore : ∀ c ∈ before, isBlank c = true)
    (hwhole : AreDigits whole) (hrest : ∀ c ∈ rest.head?, isAsciiDigit c = false) :
    secondsAt (before ++ (whole ++ rest)) =
      if (fractionAt rest).1 = some [] then none
      else withUnit? (fractionAt rest).2 (.ofDigits whole ((fractionAt rest).1.getD [])) := by
  have hdrop : (before ++ (whole ++ rest)).dropWhile isBlank = whole ++ rest := by
    obtain ⟨c, whole, rfl⟩ := List.exists_cons_of_ne_nil hwhole.nonempty
    have hc := isBlank_of_isAsciiDigit (hwhole.digits c List.mem_cons_self)
    rw [List.dropWhile_append_of_pos hbefore, List.cons_append,
      List.dropWhile_cons_of_neg (by simp [hc])]
  rw [secondsAt_eq hdrop (takeWhile_digits hwhole.digits hrest)
    (dropWhile_digits hwhole.digits hrest)]
  simp [hwhole.nonempty]

theorem areDigits_takeWhile (h : cs.takeWhile isAsciiDigit ≠ []) :
    AreDigits (cs.takeWhile isAsciiDigit) :=
  ⟨h, fun _ => List.mem_takeWhile_imp⟩

theorem exists_numeral {whole tail : List Char} (hwhole : AreDigits whole)
    (hfraction : (fractionAt tail).1 ≠ some []) :
    ∃ numeral, whole ++ tail = numeral ++ (fractionAt tail).2 ∧
      Numeral numeral (.ofDigits whole ((fractionAt tail).1.getD [])) := by
  unfold fractionAt at hfraction ⊢
  split at hfraction
  · next cs =>
    have hdigits : AreDigits (cs.takeWhile isAsciiDigit) :=
      areDigits_takeWhile (by simpa using hfraction)
    refine ⟨whole ++ '.' :: cs.takeWhile isAsciiDigit, ?_, ?_⟩
    · rw [List.append_assoc, List.cons_append, List.takeWhile_append_dropWhile]
    · rw [Option.getD_some, Decimal.ofDigits, digitsValue_eq]
      exact .point hwhole hdigits
  · refine ⟨whole, rfl, ?_⟩
    rw [Option.getD_none, Decimal.ofDigits, digitsValue_eq, List.append_nil]
    exact .whole hwhole

theorem secondsAt_eq_some_iff : secondsAt cs = some d ↔ Seconds cs d := by
  constructor
  · intro h
    rw [secondsAt_eq rfl rfl rfl] at h
    split at h
    · cases h
    next hne =>
    obtain ⟨hwhole, hfraction⟩ := not_or.1 hne
    obtain ⟨hunit, rfl⟩ := withUnit?_eq_some_iff.1 h
    obtain ⟨numeral, htext, hnumeral⟩ := exists_numeral (areDigits_takeWhile hwhole) hfraction
    have hblank : ∀ c ∈ cs.takeWhile isBlank, isBlank c = true := fun _ => List.mem_takeWhile_imp
    have hseconds := Seconds.intro hblank hnumeral hunit
    rwa [← htext, List.takeWhile_append_dropWhile, List.takeWhile_append_dropWhile] at hseconds
  · rintro @⟨before, numeral, rest, d, hbefore, hnumeral, hunit⟩
    have hrest : ∀ c ∈ rest.head?, isAsciiDigit c = false := fun c hc => (hunit.ends c hc).1
    cases hnumeral with
    | whole hwhole =>
      rw [secondsAt_of_areDigits hbefore hwhole hrest,
        fractionAt_of_ne fun c hc => (hunit.ends c hc).2, if_neg (by simp),
        withUnit?_eq_some_iff, Option.getD_none, Decimal.ofDigits, digitsValue_eq, List.append_nil]
      exact ⟨hunit, rfl⟩
    | point hwhole hfraction =>
      rw [List.append_assoc, List.cons_append,
        secondsAt_of_areDigits hbefore hwhole (by simp [isAsciiDigit]),
        fractionAt_point hfraction hrest, if_neg (by simpa using hfraction.nonempty),
        withUnit?_eq_some_iff, Option.getD_some, Decimal.ofDigits, digitsValue_eq]
      exact ⟨hunit, rfl⟩

/-! ### The last colon -/

theorem Numeral.colon_not_mem {numeral : List Char} (h : Numeral numeral d) : ':' ∉ numeral := by
  have hdigits {digits : List Char} (h : AreDigits digits) : ':' ∉ digits := fun hmem =>
    absurd (h.digits ':' hmem) (by decide)
  cases h with
  | whole hwhole => exact hdigits hwhole
  | point hwhole hfraction => simp [hdigits hwhole, hdigits hfraction]

theorem Seconds.colon_not_mem (h : Seconds rest d) : ':' ∉ rest := by
  have hblanks {blanks : List Char} (h : ∀ c ∈ blanks, isBlank c = true) : ':' ∉ blanks :=
    fun hmem => absurd (h ':' hmem) (by decide)
  obtain @⟨before, numeral, _, _, hbefore, hnumeral, @⟨between, after, hbetween, hafter⟩⟩ := h
  simp [hblanks hbefore, hnumeral.colon_not_mem, hblanks hbetween, hblanks hafter]

/-- What comes after the last colon of a line. -/
def AfterLastColon (line rest : List Char) : Prop :=
  ':' ∉ rest ∧ ∃ front, line = front ++ ':' :: rest

theorem exists_afterLastColon (h : ':' ∈ line) : ∃ rest, AfterLastColon line rest := by
  obtain ⟨rest, front, heq, hrest⟩ := List.eq_append_cons_of_mem (List.mem_reverse.2 h)
  refine ⟨rest.reverse, by simpa using hrest, front.reverse, ?_⟩
  rw [← List.reverse_reverse line, heq, List.reverse_append, List.reverse_cons, List.append_assoc,
    List.singleton_append]

theorem AfterLastColon.colon_mem (h : AfterLastColon line rest) : ':' ∈ line := by
  obtain ⟨-, front, rfl⟩ := h
  simp

theorem AfterLastColon.reverse_eq (h : AfterLastColon line rest) :
    line.reverse.takeWhile (· != ':') = rest.reverse := by
  obtain ⟨hrest, front, rfl⟩ := h
  have hchars : ∀ c ∈ rest.reverse, (c != ':') = true := by
    intro c hc
    rw [bne_iff_ne]
    rintro rfl
    exact hrest (List.mem_reverse.1 hc)
  rw [List.reverse_append, List.reverse_cons, List.append_assoc,
    List.takeWhile_append_of_pos hchars]
  simp

theorem AfterLastColon.unique {rest' : List Char} (h : AfterLastColon line rest)
    (h' : AfterLastColon line rest') : rest = rest' :=
  List.reverse_inj.1 (h.reverse_eq.symm.trans h'.reverse_eq)

/-- The search tries every colon, and no seconds come after any but the last one. -/
theorem secondsIn_eq_some_iff :
    secondsIn line = some d ↔ ∃ rest, AfterLastColon line rest ∧ Seconds rest d := by
  constructor
  · intro h
    induction line with
    | nil => cases h
    | cons c cs ih =>
      have hlater (h : secondsIn cs = some d) :
          ∃ rest, AfterLastColon (c :: cs) rest ∧ Seconds rest d := by
        obtain ⟨rest, ⟨hrest, front, rfl⟩, hseconds⟩ := ih h
        exact ⟨rest, ⟨hrest, c :: front, rfl⟩, hseconds⟩
      rw [secondsIn] at h
      split at h
      · next hc =>
        rcases Option.or_eq_some_iff.1 h with h | ⟨-, h⟩
        · have hseconds := secondsAt_eq_some_iff.1 h
          exact ⟨cs, ⟨hseconds.colon_not_mem, [], hc ▸ rfl⟩, hseconds⟩
        · exact hlater h
      · exact hlater h
  · rintro ⟨rest, ⟨hrest, front, rfl⟩, hseconds⟩
    induction front with
    | nil => simp [secondsIn, secondsAt_eq_some_iff.2 hseconds]
    | cons c front ih =>
      rw [List.cons_append, secondsIn]
      split
      · have hnone : secondsAt (front ++ ':' :: rest) = none := by
          by_contra hsome
          obtain ⟨d', hd'⟩ := Option.ne_none_iff_exists'.1 hsome
          exact (secondsAt_eq_some_iff.1 hd').colon_not_mem (by simp)
        rw [hnone, Option.none_or, ih]
      · exact ih

/-! ### The first line with the word -/

def IsTotal (line : List Char) : Prop := "Total".toList <:+: line

theorem containsWord_iff {word : List Char} : containsWord word line = true ↔ word <:+: line := by
  induction line with
  | nil => simp [containsWord]
  | cons c cs ih =>
    rw [containsWord, Bool.or_eq_true, ih, List.isPrefixOf_iff_prefix, List.infix_cons_iff]

def FirstTotal (text : String) (line : List Char) : Prop :=
  IsTotal line ∧ ∃ before after, BreaksInto text.toList (before ++ line :: after) ∧
    ∀ l ∈ before, ¬ IsTotal l

theorem find?_lines_eq_some_iff {text : String} :
    (lines text.toList).find? (containsWord "Total".toList) = some line ↔ FirstTotal text line := by
  rw [List.find?_eq_some_iff_append, containsWord_iff, FirstTotal]
  simp only [breaksInto_iff, IsTotal, ← containsWord_iff, Bool.not_eq_true', Bool.not_eq_true]

theorem FirstTotal.unique {text : String} {line' : List Char} (h : FirstTotal text line)
    (h' : FirstTotal text line') : line = line' := by
  rw [← find?_lines_eq_some_iff] at h h'
  exact Option.some.inj (h.symm.trans h')

theorem FirstTotal.totalTime_eq {text : String} (h : FirstTotal text line) :
    totalTime text = (secondsIn line).map Decimal.toFloat := by
  rw [totalTime, find?_lines_eq_some_iff.2 h, Option.bind_some]

theorem totalTime_eq_some_iff {stderr : String} {x : Float} :
    totalTime stderr = some x ↔
      ∃ line rest d, FirstTotal stderr line ∧ AfterLastColon line rest ∧ Seconds rest d ∧
        IsNearest d.value x := by
  rw [totalTime, Option.map_eq_some_iff]
  simp only [Option.bind_eq_some_iff, find?_lines_eq_some_iff, secondsIn_eq_some_iff,
    Decimal.toFloat_eq_iff]
  constructor
  · rintro ⟨d, ⟨line, hline, rest, hrest, hseconds⟩, hnearest⟩
    exact ⟨line, rest, d, hline, hrest, hseconds, hnearest⟩
  · rintro ⟨line, rest, d, hline, hrest, hseconds, hnearest⟩
    exact ⟨d, ⟨line, hline, rest, hrest, hseconds⟩, hnearest⟩

theorem AfterLastColon.secondsIn_eq_some_iff (h : AfterLastColon line rest) :
    secondsIn line = some d ↔ Seconds rest d := by
  rw [AnswerSetLearning.secondsIn_eq_some_iff]
  exact ⟨fun ⟨_, h', hseconds⟩ => h.unique h' ▸ hseconds, fun hseconds => ⟨rest, h, hseconds⟩⟩

theorem secondsIn_eq_none_iff :
    secondsIn line = none ↔
      ':' ∉ line ∨ ∃ rest, AfterLastColon line rest ∧ ∀ d, ¬ Seconds rest d := by
  rw [Option.eq_none_iff_forall_ne_some]
  simp only [ne_eq, AnswerSetLearning.secondsIn_eq_some_iff, not_exists, not_and]
  constructor
  · intro h
    by_cases hcolon : ':' ∈ line
    · obtain ⟨rest, hrest⟩ := exists_afterLastColon hcolon
      exact .inr ⟨rest, hrest, fun d => h d rest hrest⟩
    · exact .inl hcolon
  · rintro (hcolon | ⟨rest, hrest, hnone⟩) d rest' hrest'
    · exact absurd hrest'.colon_mem hcolon
    · exact hrest.unique hrest' ▸ hnone d

theorem totalTime_eq_none_iff {stderr : String} :
    totalTime stderr = none ↔
      (∃ ls, BreaksInto stderr.toList ls ∧ ∀ line ∈ ls, ¬ IsTotal line) ∨
        ∃ line, FirstTotal stderr line ∧
          (':' ∉ line ∨ ∃ rest, AfterLastColon line rest ∧ ∀ d, ¬ Seconds rest d) := by
  rw [totalTime, Option.map_eq_none_iff, Option.bind_eq_none_iff]
  simp only [find?_lines_eq_some_iff, secondsIn_eq_none_iff]
  constructor
  · intro h
    cases hfind : (lines stderr.toList).find? (containsWord "Total".toList) with
    | none =>
      have hnone : ∀ line ∈ lines stderr.toList, ¬ IsTotal line := fun line hline => by
        rw [IsTotal, ← containsWord_iff]
        exact List.find?_eq_none.1 hfind line hline
      exact .inl ⟨_, breaksInto_iff.2 rfl, hnone⟩
    | some line =>
      have hline := find?_lines_eq_some_iff.1 hfind
      exact .inr ⟨line, hline, h line hline⟩
  · rintro (⟨ls, hls, hnone⟩ | ⟨line, hline, hnone⟩) line' hline'
    · obtain ⟨htotal, before, after, hbreaks, -⟩ := hline'
      have hls : ls = before ++ line' :: after := hls.lines_eq.symm.trans hbreaks.lines_eq
      exact absurd htotal (hnone line' (by simp [hls]))
    · exact hline.unique hline' ▸ hnone

/-- The first line with the word decides alone, by what comes after its last colon: the result is
the double nearest to the decimal that is written there. -/
theorem totalTime_after_last_colon (stderr : String) :
    (∀ x, totalTime stderr = some x ↔
      ∃ line rest d, FirstTotal stderr line ∧ AfterLastColon line rest ∧ Seconds rest d ∧
        IsNearest d.value x) ∧
    (totalTime stderr = none ↔
      (∃ ls, BreaksInto stderr.toList ls ∧ ∀ line ∈ ls, ¬ IsTotal line) ∨
        ∃ line, FirstTotal stderr line ∧
          (':' ∉ line ∨ ∃ rest, AfterLastColon line rest ∧ ∀ d, ¬ Seconds rest d)) ∧
    ∀ (stderr' : String) (line line' rest : List Char), FirstTotal stderr line →
      FirstTotal stderr' line' → AfterLastColon line rest → AfterLastColon line' rest →
      totalTime stderr = totalTime stderr' := by
  refine ⟨fun _ => totalTime_eq_some_iff, totalTime_eq_none_iff, ?_⟩
  intro stderr' line line' rest h h' hrest hrest'
  rw [h.totalTime_eq, h'.totalTime_eq]
  refine congrArg (Option.map Decimal.toFloat) ?_
  ext d
  rw [hrest.secondsIn_eq_some_iff, hrest'.secondsIn_eq_some_iff]

theorem totalTime_two_totals :
    totalTime "Grounding : 0.01s\nTotal : about: 0.12 s \r\nTotal: 9s" =
      some (floatOfBits 0x3FBEB851EB851EB8) ∧
      totalTime "Grounding : 0.01s\nTotal : about: 0.12 s \r\nTotal: 9s" =
        totalTime "Total: 0.12 s " := by
  have hline : FirstTotal "Grounding : 0.01s\nTotal : about: 0.12 s \r\nTotal: 9s"
      "Total : about: 0.12 s ".toList := find?_lines_eq_some_iff.1 (by decide)
  have hline' : FirstTotal "Total: 0.12 s " "Total: 0.12 s ".toList :=
    find?_lines_eq_some_iff.1 (by decide)
  have hrest : AfterLastColon "Total : about: 0.12 s ".toList " 0.12 s ".toList :=
    ⟨by decide, "Total : about".toList, by decide⟩
  have hrest' : AfterLastColon "Total: 0.12 s ".toList " 0.12 s ".toList :=
    ⟨by decide, "Total".toList, by decide⟩
  have hseconds : Seconds " 0.12 s ".toList ⟨12, 2⟩ := secondsAt_eq_some_iff.1 (by decide)
  have hnearest : IsNearest (Decimal.value ⟨12, 2⟩) (floatOfBits 0x3FBEB851EB851EB8) :=
    Decimal.toFloat_eq_iff.1 (congrArg floatOfBits (by decide))
  have hread := totalTime_after_last_colon "Grounding : 0.01s\nTotal : about: 0.12 s \r\nTotal: 9s"
  exact ⟨(hread.1 _).2 ⟨_, _, _, hline, hrest, hseconds, hnearest⟩,
    hread.2.2 _ _ _ _ hline hline' hrest hrest'⟩

end AnswerSetLearning
