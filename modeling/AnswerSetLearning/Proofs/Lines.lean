import AnswerSetLearning.Text.Lines

namespace AnswerSetLearning

/-- The text consists of the lines. A line ends at the first line break, or with the text; a line
that ends with the text is not empty. -/
inductive BreaksInto : List Char → List (List Char) → Prop
  | nil : BreaksInto [] []
  | last {line : List Char} (hne : line ≠ []) (hline : ∀ c ∈ line, isLineBreak c = false) :
    BreaksInto line [line]
  | crlf {line cs : List Char} {ls : List (List Char)} (hline : ∀ c ∈ line, isLineBreak c = false)
    (h : BreaksInto cs ls) : BreaksInto (line ++ '\r' :: '\n' :: cs) (line :: ls)
  | single {line cs : List Char} {c : Char} {ls : List (List Char)}
    (hline : ∀ c ∈ line, isLineBreak c = false) (hc : isLineBreak c = true)
    (hcrlf : c = '\r' → cs.head? ≠ some '\n') (h : BreaksInto cs ls) :
    BreaksInto (line ++ c :: cs) (line :: ls)

theorem linesFrom_cons_of_not_isLineBreak {c : Char} (hc : isLineBreak c = false)
    (line cs : List Char) : linesFrom line (c :: cs) = linesFrom (c :: line) cs := by
  rw [linesFrom, if_neg (by simp [hc])]
  rintro cs rfl
  exact absurd hc (by decide)

theorem linesFrom_append {line : List Char} (hline : ∀ c ∈ line, isLineBreak c = false)
    (start cs : List Char) :
    linesFrom start (line ++ cs) = linesFrom (line.reverse ++ start) cs := by
  induction line generalizing start with
  | nil => rfl
  | cons c line ih =>
    obtain ⟨hc, hline⟩ := List.forall_mem_cons.1 hline
    rw [List.cons_append, linesFrom_cons_of_not_isLineBreak hc, ih hline, List.reverse_cons,
      List.append_assoc, List.singleton_append]

theorem linesFrom_cons_of_isLineBreak {c : Char} {cs : List Char} (hc : isLineBreak c = true)
    (hcrlf : c = '\r' → cs.head? ≠ some '\n') (line : List Char) :
    linesFrom line (c :: cs) = line.reverse :: linesFrom [] cs := by
  rw [linesFrom, if_pos hc]
  rintro cs rfl rfl
  exact hcrlf rfl rfl

theorem BreaksInto.lines_eq {cs : List Char} {ls : List (List Char)} (h : BreaksInto cs ls) :
    lines cs = ls := by
  induction h with
  | nil => rfl
  | @last line hne hline =>
    have hread := linesFrom_append hline [] []
    rw [List.append_nil, List.append_nil] at hread
    rw [lines, hread, linesFrom, if_neg (by simpa using hne), List.reverse_reverse]
  | crlf hline _ ih =>
    rw [lines, linesFrom_append hline, linesFrom, List.append_nil, List.reverse_reverse]
    exact congrArg _ ih
  | single hline hc hcrlf _ ih =>
    rw [lines, linesFrom_append hline, linesFrom_cons_of_isLineBreak hc hcrlf, List.append_nil,
      List.reverse_reverse]
    exact congrArg _ ih

theorem exists_first_isLineBreak (cs : List Char) :
    (∀ c ∈ cs, isLineBreak c = false) ∨
      ∃ line c rest, cs = line ++ c :: rest ∧ (∀ d ∈ line, isLineBreak d = false) ∧
        isLineBreak c = true := by
  cases hfind : cs.find? isLineBreak with
  | none => exact .inl (by simpa using hfind)
  | some c =>
    obtain ⟨hc, line, rest, rfl, hline⟩ := List.find?_eq_some_iff_append.1 hfind
    exact .inr ⟨line, c, rest, rfl, by simpa using hline, hc⟩

theorem exists_breaksInto (cs : List Char) : ∃ ls, BreaksInto cs ls := by
  induction hn : cs.length using Nat.strongRecOn generalizing cs with
  | ind n ih =>
    subst hn
    have hrest {line rest : List Char} {c : Char} : rest.length < (line ++ c :: rest).length := by
      simp
      omega
    obtain hline | ⟨line, c, rest, rfl, hline, hc⟩ := exists_first_isLineBreak cs
    · cases cs with
      | nil => exact ⟨[], .nil⟩
      | cons c cs => exact ⟨_, .last (by simp) hline⟩
    · by_cases hcrlf : c = '\r' ∧ rest.head? = some '\n'
      · obtain ⟨rfl, hhead⟩ := hcrlf
        obtain ⟨rest, rfl⟩ := List.head?_eq_some_iff.1 hhead
        obtain ⟨ls, hls⟩ := ih rest.length (by simp; omega) rest rfl
        exact ⟨_, .crlf hline hls⟩
      · obtain ⟨ls, hls⟩ := ih rest.length hrest rest rfl
        exact ⟨_, .single hline hc (fun hcr hhead => hcrlf ⟨hcr, hhead⟩) hls⟩

theorem breaksInto_iff {cs : List Char} {ls : List (List Char)} :
    BreaksInto cs ls ↔ lines cs = ls := by
  refine ⟨BreaksInto.lines_eq, ?_⟩
  rintro rfl
  obtain ⟨ls, hls⟩ := exists_breaksInto cs
  exact hls.lines_eq ▸ hls

end AnswerSetLearning
