import AnswerSetLearning.Text.Lines
import Mathlib.Data.Set.List

namespace AnswerSetLearning

def Follows {β : Type} (next : β → Prop) (xs : List β) : Prop := ∀ x ∈ xs.head?, next x

/-- What is spelled, and where it ends, can be told from the symbols if one of the given ones
comes next. -/
def Unambiguous {α β : Type} (next : β → Prop) (spell : α → List β) : Prop :=
  ∀ ⦃a b xs ys⦄, Follows next xs → Follows next ys → spell a ++ xs = spell b ++ ys →
    a = b ∧ xs = ys

section Combinators

variable {α α' β : Type} {next starts stop : β → Prop} {spell : α → List β}

theorem follows_nil : Follows next [] := by
  simp [Follows]

theorem follows_cons {x : β} {xs : List β} : Follows next (x :: xs) ↔ next x := by
  simp [Follows]

theorem Unambiguous.mono {next' : β → Prop} (h : Unambiguous next spell)
    (hnext : ∀ x, next' x → next x) : Unambiguous next' spell :=
  fun _ _ _ _ hxs hys => h (fun x hx => hnext x (hxs x hx)) fun x hx => hnext x (hys x hx)

theorem Unambiguous.comp (h : Unambiguous next spell) {f : α' → α} (hf : Function.Injective f) :
    Unambiguous next fun a => spell (f a) := by
  intro a b xs ys hxs hys heq
  obtain ⟨hab, hxy⟩ := h hxs hys heq
  exact ⟨hf hab, hxy⟩

theorem unambiguous_singleton {x : α → β} (hx : Function.Injective x) :
    Unambiguous next fun a => [x a] := by
  intro a b xs ys _ _ h
  obtain ⟨hab, hxy⟩ := List.cons.inj h
  exact ⟨hx hab, hxy⟩

theorem unambiguous_word (p : β → Prop) :
    Unambiguous (fun x => ¬ p x) fun w : {w : List β // ∀ x ∈ w, p x} => w.1 := by
  rintro ⟨v, hv⟩ ⟨w, hw⟩ xs ys hxs hys h
  induction v generalizing w with
  | nil =>
    cases w with
    | nil => exact ⟨rfl, h⟩
    | cons y w =>
      rw [show xs = y :: (w ++ ys) from h, follows_cons] at hxs
      exact absurd (hw y List.mem_cons_self) hxs
  | cons x v ih =>
    cases w with
    | nil =>
      rw [show ys = x :: (v ++ xs) from h.symm, follows_cons] at hys
      exact absurd (hv x List.mem_cons_self) hys
    | cons y w =>
      obtain ⟨rfl, hrest⟩ := List.cons.inj h
      obtain ⟨hvw, hxy⟩ := ih (fun z hz => hv z (List.mem_cons_of_mem x hz)) w
        (fun z hz => hw z (List.mem_cons_of_mem x hz)) hrest
      cases hvw
      exact ⟨rfl, hxy⟩

theorem unambiguous_text (p : Char → Prop) :
    Unambiguous (fun c => ¬ p c) fun s : {s : String // ∀ c ∈ s.toList, p c} => s.1.toList :=
  (unambiguous_word p).comp (f := fun s => ⟨s.1.toList, s.2⟩) fun _ _ h =>
    Subtype.ext (String.toList_inj.1 (Subtype.ext_iff.1 h))

theorem Unambiguous.cons (h : Unambiguous next spell) (x : β) :
    Unambiguous next fun a => x :: spell a :=
  fun _ _ _ _ hxs hys heq => h hxs hys (List.cons.inj heq).2

theorem Unambiguous.append (h : Unambiguous next spell) {c : β} (hc : next c) (w : List β)
    (stop : β → Prop) : Unambiguous stop fun a => spell a ++ c :: w := by
  intro a b xs ys _ _ heq
  rw [List.append_assoc, List.append_assoc] at heq
  obtain ⟨hab, hxy⟩ := h (follows_cons.2 hc) (follows_cons.2 hc) heq
  have hend : (c :: w) ++ xs = (c :: w) ++ ys := hxy
  exact ⟨hab, List.append_cancel_left hend⟩

theorem Unambiguous.prod {next' : β → Prop} {spell' : α' → List β} (h : Unambiguous next spell)
    (h' : Unambiguous next' spell')
    (hnext : ∀ a xs, Follows next' xs → Follows next (spell' a ++ xs)) :
    Unambiguous next' fun a : α × α' => spell a.1 ++ spell' a.2 := by
  rintro ⟨a, a'⟩ ⟨b, b'⟩ xs ys hxs hys heq
  simp only [List.append_assoc] at heq
  obtain ⟨rfl, hrest⟩ := h (hnext a' xs hxs) (hnext b' ys hys) heq
  obtain ⟨rfl, hxy⟩ := h' hxs hys hrest
  exact ⟨rfl, hxy⟩

theorem follows_flatMap {l : List α} {xs : List β}
    (hstart : ∀ a, ∃ x w, spell a = x :: w ∧ next x) (hxs : Follows next xs) :
    Follows next (l.flatMap spell ++ xs) := by
  cases l with
  | nil => exact hxs
  | cons a l =>
    obtain ⟨x, w, hw, hx⟩ := hstart a
    simpa [hw, follows_cons] using hx

theorem ne_append_of_follows {w xs ys : List β} (hw : ∃ x v, w = x :: v ∧ ¬ stop x)
    (hxs : Follows stop xs) : xs ≠ w ++ ys := by
  rintro rfl
  obtain ⟨x, v, rfl, hx⟩ := hw
  exact hx (follows_cons.1 hxs)

theorem Unambiguous.flatMap (h : Unambiguous next spell) (starts : β → Prop)
    (hstart : ∀ a, ∃ x w, spell a = x :: w ∧ starts x) (hnext : ∀ x, starts x → next x)
    (hstop : ∀ x, stop x → next x ∧ ¬ starts x) :
    Unambiguous stop (List.flatMap spell) := by
  have hfollows (l : List α) {xs : List β} (hxs : Follows stop xs) :
      Follows next (l.flatMap spell ++ xs) := by
    refine follows_flatMap (fun a => ?_) fun x hx => (hstop x (hxs x hx)).1
    obtain ⟨x, w, hw, hx⟩ := hstart a
    exact ⟨x, w, hw, hnext x hx⟩
  have hfront (a : α) (l : List α) : ∃ x w, (a :: l).flatMap spell = x :: w ∧ ¬ stop x := by
    obtain ⟨x, w, hw, hx⟩ := hstart a
    exact ⟨x, w ++ l.flatMap spell, by simp [hw], fun h => (hstop x h).2 hx⟩
  intro l
  induction l with
  | nil =>
    intro m xs ys hxs hys heq
    cases m with
    | nil => exact ⟨rfl, heq⟩
    | cons b m => exact absurd heq (ne_append_of_follows (hfront b m) hxs)
  | cons a l ih =>
    intro m xs ys hxs hys heq
    cases m with
    | nil => exact absurd heq.symm (ne_append_of_follows (hfront a l) hys)
    | cons b m =>
      simp only [List.flatMap_cons, List.append_assoc] at heq
      obtain ⟨rfl, hrest⟩ := h (hfollows l hxs) (hfollows m hys) heq
      obtain ⟨rfl, hxy⟩ := ih hxs hys hrest
      exact ⟨rfl, hxy⟩

theorem follows_map {f : α → β} {l : List α} {xs : List β} (hf : ∀ a ∈ l, next (f a))
    (hxs : Follows next xs) : Follows next (l.map f ++ xs) := by
  cases l with
  | nil => exact hxs
  | cons a l => exact follows_cons.2 (hf a List.mem_cons_self)

theorem eq_of_map_append_eq {p : α → Prop} {f : α → β}
    (hf : ∀ a b, p a → p b → f a = f b → a = b) {l m : List α} {xs ys : List β}
    (hl : ∀ a ∈ l, p a) (hm : ∀ a ∈ m, p a) (hxs : Follows (fun x => ∀ a, p a → x ≠ f a) xs)
    (hys : Follows (fun x => ∀ a, p a → x ≠ f a) ys) (h : l.map f ++ xs = m.map f ++ ys) :
    l = m ∧ xs = ys := by
  induction l generalizing m with
  | nil =>
    cases m with
    | nil => exact ⟨rfl, h⟩
    | cons b m => exact absurd rfl (hxs (f b) (by rw [show xs = _ from h]; rfl) b
        (hm b List.mem_cons_self))
  | cons a l ih =>
    cases m with
    | nil => exact absurd rfl (hys (f a) (by rw [← show _ = ys from h]; rfl) a
        (hl a List.mem_cons_self))
    | cons b m =>
      obtain ⟨ha, hl⟩ := List.forall_mem_cons.1 hl
      obtain ⟨hb, hm⟩ := List.forall_mem_cons.1 hm
      obtain ⟨hab, hrest⟩ := List.cons.inj h
      obtain ⟨rfl, hxy⟩ := ih hl hm hrest
      exact ⟨by rw [hf a b ha hb hab], hxy⟩

theorem intercalate_cons (sep w : List β) (ws : List (List β)) :
    sep.intercalate (w :: ws) = w ++ ws.flatMap (sep ++ ·) := by
  induction ws generalizing w with
  | nil => simp [List.intercalate]
  | cons v ws ih =>
    rw [List.intercalate_cons_cons, ih, List.flatMap_cons, List.append_assoc, List.append_assoc]

theorem Unambiguous.intercalate {c : β} (sep : List β)
    (h : Unambiguous (fun x => x = c ∨ stop x) spell)
    (hstart : ∀ a, ∃ x w, spell a = x :: w ∧ ¬ stop x) (hc : ¬ stop c) :
    Unambiguous stop fun l : List α => (c :: sep).intercalate (l.map spell) := by
  have hitem : Unambiguous (fun x => x = c ∨ stop x) fun a => c :: (sep ++ spell a) := by
    intro a b xs ys hxs hys heq
    simp only [List.cons_append, List.append_assoc] at heq
    exact h hxs hys (List.append_cancel_left (List.cons.inj heq).2)
  have htail : Unambiguous stop (List.flatMap fun a => c :: (sep ++ spell a)) :=
    hitem.flatMap (· = c) (fun a => ⟨_, _, rfl, rfl⟩) (fun x hx => .inl hx)
      fun x hx => ⟨.inr hx, fun h => hc (h ▸ hx)⟩
  have hfollows (l : List α) {xs : List β} (hxs : Follows stop xs) :
      Follows (fun x => x = c ∨ stop x) (l.flatMap (fun a => c :: (sep ++ spell a)) ++ xs) :=
    follows_flatMap (fun a => ⟨_, _, rfl, .inl rfl⟩) fun x hx => .inr (hxs x hx)
  have hcons (a : α) (l : List α) : (c :: sep).intercalate ((a :: l).map spell) =
      spell a ++ l.flatMap fun a => c :: (sep ++ spell a) := by
    rw [List.map_cons, intercalate_cons, List.flatMap_map]
    rfl
  have hfront (a : α) (l : List α) :
      ∃ x w, (c :: sep).intercalate ((a :: l).map spell) = x :: w ∧ ¬ stop x := by
    obtain ⟨x, w, hw, hx⟩ := hstart a
    exact ⟨x, w ++ l.flatMap fun a => c :: (sep ++ spell a), by rw [hcons, hw]; rfl, hx⟩
  intro l m xs ys hxs hys heq
  cases l with
  | nil =>
    cases m with
    | nil => exact ⟨rfl, heq⟩
    | cons b m => exact absurd heq (ne_append_of_follows (hfront b m) hxs)
  | cons a l =>
    cases m with
    | nil => exact absurd heq.symm (ne_append_of_follows (hfront a l) hys)
    | cons b m =>
      simp only [hcons, List.append_assoc] at heq
      obtain ⟨rfl, hrest⟩ := h (hfollows l hxs) (hfollows m hys) heq
      obtain ⟨rfl, hxy⟩ := htail hxs hys hrest
      exact ⟨rfl, hxy⟩

end Combinators

theorem toList_joinWith (sep : String) (l : List String) :
    (joinWith sep l).toList = sep.toList.intercalate (l.map String.toList) := by
  induction l using joinWith.induct with
  | case1 => rfl
  | case2 s => simp [joinWith]
  | case3 s rest hne ih =>
    obtain ⟨s', rest, rfl⟩ := List.exists_cons_of_ne_nil hne
    rw [joinWith.eq_3 _ _ _ hne, List.map_cons, List.map_cons, List.intercalate_cons_cons,
      ← List.map_cons, ← ih]
    simp

theorem Unambiguous.joinWith {α : Type} {stop : Char → Prop} {text : α → String} {sep : String}
    {c : Char} {cs : List Char} (hsep : sep.toList = c :: cs)
    (h : Unambiguous (fun x => x = c ∨ stop x) fun a => (text a).toList)
    (hstart : ∀ a, ∃ x w, (text a).toList = x :: w ∧ ¬ stop x) (hc : ¬ stop c) :
    Unambiguous stop fun l : List α => (joinWith sep (l.map text)).toList := by
  have hjoined : (fun l : List α => (AnswerSetLearning.joinWith sep (l.map text)).toList) =
      fun l => (c :: cs).intercalate (l.map fun a => (text a).toList) := by
    funext l
    rw [toList_joinWith, hsep, List.map_map]
    rfl
  rw [hjoined]
  exact h.intercalate cs hstart hc

theorem unlines_eq_join (ls : List String) : unlines ls = String.join (ls.map (· ++ "\n")) := by
  induction ls with
  | nil => rfl
  | cons l ls ih => simp [unlines, ih]

theorem unlines_append (ls ms : List String) : unlines (ls ++ ms) = unlines ls ++ unlines ms := by
  simp [unlines_eq_join]

theorem toList_unlines (ls : List String) :
    (unlines ls).toList = ls.flatMap (·.toList ++ ['\n']) := by
  simp [unlines_eq_join, String.toList_join, List.flatMap_map]

def IsLine (s : String) : Prop := ∀ c ∈ s.toList, c ≠ '\n'

instance (s : String) : Decidable (IsLine s) :=
  List.decidableBAll (· ≠ '\n') s.toList

namespace IsLine

variable {s t : String}

theorem append (hs : IsLine s) (ht : IsLine t) : IsLine (s ++ t) := by
  intro c hc
  rw [String.toList_append] at hc
  exact (List.mem_append.1 hc).elim (hs c) (ht c)

theorem join {l : List String} (h : ∀ s ∈ l, IsLine s) : IsLine (String.join l) := by
  intro c hc
  rw [String.toList_join] at hc
  obtain ⟨s, hs, hc⟩ := List.mem_flatMap.1 hc
  exact h s hs c hc

theorem joinWith {sep : String} (hsep : IsLine sep) {l : List String} (h : ∀ s ∈ l, IsLine s) :
    IsLine (joinWith sep l) := by
  induction l using joinWith.induct with
  | case1 => exact fun c hc => absurd hc List.not_mem_nil
  | case2 s => exact h s List.mem_cons_self
  | case3 s rest hne ih =>
    obtain ⟨hs, hrest⟩ := List.forall_mem_cons.1 h
    rw [joinWith.eq_3 _ _ _ hne]
    exact (hs.append hsep).append (ih hrest)

end IsLine

theorem eq_of_unlines_eq {ls ms : List String} (hls : ∀ l ∈ ls, IsLine l)
    (hms : ∀ l ∈ ms, IsLine l) (h : unlines ls = unlines ms) : ls = ms := by
  have hline : Unambiguous (fun _ => True) fun l : {l : String // IsLine l} =>
      l.1.toList ++ ['\n'] :=
    (unambiguous_text (· ≠ '\n')).append (not_not.2 rfl) [] _
  have hstart (l : {l : String // IsLine l}) : ∃ x w, l.1.toList ++ ['\n'] = x :: w ∧ True := by
    obtain ⟨x, w, hw⟩ := List.exists_cons_of_ne_nil (List.concat_ne_nil '\n' l.1.toList)
    exact ⟨x, w, hw, trivial⟩
  have hlines : Unambiguous (fun _ => False) (List.flatMap fun l : {l : String // IsLine l} =>
      l.1.toList ++ ['\n']) :=
    hline.flatMap (fun _ => True) hstart (by simp) (by simp)
  lift ls to List {l : String // IsLine l} using hls
  lift ms to List {l : String // IsLine l} using hms
  have hchars := congrArg String.toList h
  rw [toList_unlines, toList_unlines, List.flatMap_map, List.flatMap_map] at hchars
  rw [(hlines follows_nil follows_nil (congrArg (· ++ []) hchars)).1]

end AnswerSetLearning
