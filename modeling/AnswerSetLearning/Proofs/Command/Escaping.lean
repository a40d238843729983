import AnswerSetLearning.Proofs.Command.Tags

namespace AnswerSetLearning.Markup

variable {cs rest : List Char} {c : Char}

def Part.escaped : Part → List Char
  | .text cs => cs
  | .tag escapes inside => backslashes (2 * escapes + 1) ++ '[' :: inside ++ [']']

def escaped (cs : List Char) : List Char := (parts cs).flatMap Part.escaped

theorem exists_toList_escape (s : String) :
    ∃ n, (escape s).toList = escaped s.toList ++ backslashes n := by
  have h : escape s = .ofList (
      if ((escaped s.toList).reverse.takeWhile (· == '\\')).length = 1
      then escaped s.toList ++ ['\\'] else escaped s.toList) := rfl
  rw [h, String.toList_ofList]
  split
  · exact ⟨1, rfl⟩
  · exact ⟨0, by simp⟩

theorem flatMap_pending (plain : List Char) :
    (pending plain).flatMap Part.escaped = plain.reverse := by
  unfold pending
  cases plain <;> simp [Part.escaped]

theorem flatMap_partsFrom (plain cs : List Char) :
    (partsFrom plain 0 cs).flatMap Part.escaped = plain.reverse ++ escaped cs := by
  have h := pieces cs
  induction h generalizing plain with
  | run n =>
    rw [escaped, parts, partsFrom_run, partsFrom_run, flatMap_pending, flatMap_pending]
    simp
  | char n hc ht _ ih =>
    rw [escaped, parts, partsFrom_char _ n hc ht, partsFrom_char _ n hc ht, ih, ih]
    simp
  | tag n hi _ ih =>
    rw [escaped, parts, partsFrom_tag _ n hi, partsFrom_tag _ n hi, List.flatMap_append,
      List.flatMap_append, flatMap_pending, flatMap_pending]
    rfl

theorem escaped_run (n : Nat) : escaped (backslashes n) = backslashes n := by
  rw [escaped, parts, partsFrom_run, flatMap_pending]
  simp

theorem escaped_char (n : Nat) (hc : c ≠ '\\') (ht : tag? (c :: cs) = none) :
    escaped (backslashes n ++ c :: cs) = backslashes n ++ c :: escaped cs := by
  rw [escaped, parts, partsFrom_char _ n hc ht, flatMap_partsFrom]
  simp

theorem escaped_tag (n : Nat) (hi : IsInside inside) (cs : List Char) :
    escaped (backslashes n ++ ('[' :: inside ++ ']' :: cs)) =
      backslashes (2 * n + 1) ++ ('[' :: inside ++ ']' :: escaped cs) := by
  rw [escaped, parts, partsFrom_tag _ n hi]
  simp [Part.escaped, pending, escaped, parts]

theorem tagRest?_cons_eq_none_iff :
    tagRest? (c :: cs) = none ↔ c = '[' ∨ c ≠ ']' ∧ tagRest? cs = none := by
  by_cases hopen : c = '['
  · simp [hopen, tagRest?]
  · by_cases hclose : c = ']' <;> simp [hopen, hclose, tagRest?]

theorem tagRest?_backslashes_append (n : Nat) :
    tagRest? (backslashes n ++ cs) = none ↔ tagRest? cs = none := by
  induction n with
  | zero => rfl
  | succ n ih => simpa [List.replicate_succ, tagRest?_cons_eq_none_iff] using ih

theorem tagRest?_escaped (h : tagRest? cs = none) (hrest : tagRest? rest = none) :
    tagRest? (escaped cs ++ rest) = none := by
  have hp := pieces cs
  induction hp with
  | run n => rwa [escaped_run, tagRest?_backslashes_append]
  | char n hc ht _ ih =>
    rw [escaped_char n hc ht, List.append_assoc, tagRest?_backslashes_append]
    rw [tagRest?_backslashes_append, tagRest?_cons_eq_none_iff] at h
    exact tagRest?_cons_eq_none_iff.2 (h.imp_right fun h => ⟨h.1, ih h.2⟩)
  | tag n hi _ _ =>
    rw [escaped_tag n hi, List.append_assoc, tagRest?_backslashes_append]
    exact tagRest?_cons_eq_none_iff.2 (.inl rfl)

theorem head?_escaped (cs : List Char) :
    (escaped cs).head? = cs.head? ∨ (escaped cs).head? = some '\\' := by
  have hp := pieces cs
  induction hp with
  | run n => exact .inl (by rw [escaped_run])
  | char n hc ht _ _ =>
    rw [escaped_char n hc ht]
    cases n <;> simp [List.replicate_succ]
  | tag n hi _ _ =>
    rw [escaped_tag n hi]
    exact .inr rfl

/-- An escaped text brings no tags; it may only take a tag behind it for text. -/
theorem exists_tags_escaped (hrest : tagRest? rest = none) (cs : List Char) :
    ∃ n, tags (escaped cs ++ rest) = tags (backslashes n ++ rest) := by
  have hp := pieces cs
  induction hp with
  | run n => exact ⟨n, by rw [escaped_run]⟩
  | @char n c cs hc ht _ ih =>
    obtain ⟨k, ih⟩ := ih
    have happ : tag? (c :: (escaped cs ++ rest)) = none := by
      by_cases hopen : c = '['
      · subst hopen
        rw [tag?_open_eq_none_iff] at ht ⊢
        cases cs with
        | nil => exact .inl hrest
        | cons c cs =>
          refine ht.imp (tagRest?_escaped · hrest) fun ht => ?_
          obtain hhead | hhead := head?_escaped (c :: cs)
          · rw [List.head?_append, hhead]
            exact ht
          · rw [List.head?_append, hhead]
            simp [isTagStart, isLowerLetter]
      · exact tag?_of_ne hopen _
    exact ⟨k, by rw [escaped_char n hc ht, List.append_assoc, List.cons_append,
      tags_char n hc happ, ih]⟩
  | @tag n inside cs hi _ ih =>
    obtain ⟨k, ih⟩ := ih
    have happ : escaped (backslashes n ++ ('[' :: inside ++ ']' :: cs)) ++ rest =
        backslashes (2 * n + 1) ++ ('[' :: inside ++ ']' :: (escaped cs ++ rest)) := by
      rw [escaped_tag n hi]
      simp
    exact ⟨k, by rw [happ, tags_tag _ hi, if_pos (by omega), ih]⟩

theorem exists_tags_around {start : String} (hstart : isClosed start.toList = true)
    {stop : List Char} (hstop : tagRest? stop = none) (s : String) :
    ∃ n, tags ((start ++ escape s).toList ++ stop) =
      tags start.toList ++ tags (backslashes n ++ stop) := by
  obtain ⟨n, hn⟩ := exists_toList_escape s
  obtain ⟨k, hk⟩ := exists_tags_escaped ((tagRest?_backslashes_append n).2 hstop) s.toList
  refine ⟨k + n, ?_⟩
  rw [String.toList_append, hn, List.append_assoc, tags_append hstart, List.append_assoc, hk,
    ← List.append_assoc, List.replicate_append_replicate]

theorem IsBalanced.wellFormed_append_escape {start : String} (h : IsBalanced start) (s : String) :
    WellFormed (start ++ escape s) := by
  obtain ⟨names, hnames, hstart⟩ := h
  have hstop : tagRest? [] = none := rfl
  obtain ⟨n, hn⟩ := exists_tags_around hstart.closed hstop s
  rw [List.append_nil, List.append_nil, tags_run, List.append_nil, hstart.tags] at hn
  rw [wellFormed_iff, hn]
  exact ⟨[], foldlM_pairs hnames⟩

theorem wellFormed_red (s : String) : WellFormed ("[red]" ++ escape s ++ "[/red]") := by
  have hred : Carries "[red]" ["red".toList] := ⟨rfl, rfl⟩
  have hstop : tagRest? "[/red]".toList = none := rfl
  have hinside : IsInside "/red".toList := ⟨⟨'/', _, rfl, rfl⟩, by simp⟩
  obtain ⟨n, hn⟩ := exists_tags_around hred.closed hstop s
  have htags : tags (backslashes n ++ "[/red]".toList) =
      if n % 2 = 1 then [] else ["/red".toList] := tags_tag n hinside []
  rw [wellFormed_iff, String.toList_append, hn, htags, hred.tags]
  split
  · exact ⟨_, rfl⟩
  · exact ⟨[], foldlM_pairs (by decide : ∀ n ∈ ["red"], n.toList.all isLowerLetter = true)⟩

end AnswerSetLearning.Markup
