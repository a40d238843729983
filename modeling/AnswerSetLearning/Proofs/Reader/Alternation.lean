import AnswerSetLearning.Proofs.Reader.Rejection
import AnswerSetLearning.Proofs.Reader.Layout

namespace AnswerSetLearning

/-! ### Regular expressions -/

/-- A regular expression for the front of a text. A repetition takes all the characters it can, and
gives them back one by one where what comes after it does not match otherwise. -/
inductive Regex
  | one (p : Char → Bool)
  | many (p : Char → Bool)
  | seq (x y : Regex)
  | either (x y : Regex)
  | notBefore (p : Char → Bool)

namespace Regex

def restsOfMany (p : Char → Bool) : List Char → List (List Char)
  | [] => [[]]
  | c :: cs => if p c then restsOfMany p cs ++ [c :: cs] else [c :: cs]

/-- What the matches at the front of a text leave of it, the preferred match first. -/
def rests : Regex → List Char → List (List Char)
  | one _, [] => []
  | one p, c :: cs => if p c then [cs] else []
  | many p, cs => restsOfMany p cs
  | seq x y, cs => (x.rests cs).flatMap y.rests
  | either x y, cs => x.rests cs ++ y.rests cs
  | notBefore p, cs => if cs.head?.any p then [] else [cs]

def char (c : Char) : Regex := one (· == c)

def many1 (p : Char → Bool) : Regex := seq (one p) (many p)

/-- The first match takes more than any other. -/
def Leads (rest : List Char) (all : List (List Char)) : Prop :=
  ∃ more, all = rest :: more ∧ ∀ r ∈ more, rest.length < r.length

theorem leads_singleton (rest : List Char) : Leads rest [rest] := ⟨[], rfl, by simp⟩

theorem leads_restsOfMany (p : Char → Bool) (cs : List Char) :
    Leads (cs.dropWhile p) (restsOfMany p cs) := by
  induction cs with
  | nil => exact leads_singleton []
  | cons c cs ih =>
    rw [restsOfMany]
    cases hc : p c with
    | false => simpa [hc] using leads_singleton (c :: cs)
    | true =>
      have hdrop : (cs.dropWhile p).length ≤ cs.length := (List.dropWhile_sublist p).length_le
      obtain ⟨more, hmany, hmore⟩ := ih
      rw [if_pos rfl, List.dropWhile_cons_of_pos hc, hmany]
      exact ⟨more ++ [c :: cs], rfl, forall_mem_append_singleton hmore (Nat.lt_succ_of_le hdrop)⟩

theorem rests_seq_many {p : Char → Bool} {y : Regex}
    (h : ∀ c cs, p c = true → y.rests (c :: cs) = []) (cs : List Char) :
    (seq (many p) y).rests cs = y.rests (cs.dropWhile p) := by
  rw [rests, rests]
  induction cs with
  | nil => simp [restsOfMany]
  | cons c cs ih =>
    rw [restsOfMany]
    cases hc : p c with
    | false => simp [hc]
    | true => simp [hc, ih, h c cs hc]

theorem rests_many1 (p : Char → Bool) (c : Char) (cs : List Char) :
    (many1 p).rests (c :: cs) = if p c then restsOfMany p cs else [] := by
  rw [many1, rests, rests]
  split <;> simp [rests]

def name (first : Char → Bool) : Regex :=
  seq (many isUnderscore) (seq (one first) (many isNameChar))

theorem rests_name (first : Char → Bool) (hfirst : first '_' = false) (cs : List Char) :
    (name first).rests cs =
      match cs.dropWhile isUnderscore with
      | [] => []
      | c :: rest => if first c then restsOfMany isNameChar rest else [] := by
  rw [name, rests_seq_many]
  · cases cs.dropWhile isUnderscore with
    | nil => simp [rests]
    | cons c rest => cases hc : first c <;> simp [rests, hc]
  · intro c cs hc
    have hc : c = '_' := by simpa [isUnderscore] using hc
    simp [rests, hc, hfirst]

end Regex

/-! ### The choice -/

inductive Piece.Kind
  | blanks
  | comment
  | lexeme (kind : Lexeme.Kind)
  deriving DecidableEq

namespace Piece.Kind

open Regex

def regex : Kind → Regex
  | blanks => many1 isBlank
  | comment => seq (char '%') (many (!isLineEnd ·))
  | lexeme .sectionMark =>
    seq (either (char 'I') (char 'O')) (seq (char ':') (notBefore (· == '-')))
  | lexeme .implies => seq (char ':') (char '-')
  | lexeme .relation => either (seq (char '!') (char '=')) (either (char '>') (char '<'))
  | lexeme .punctuation => one ['(', ')', ',', '.', '\x7b', '\x7d'].contains
  | lexeme .integer => many1 isDecimalDigit
  | lexeme .var => name isUpperLetter
  | lexeme .constant => name isLowerLetter
  | lexeme .anonymous => char '_'

def all : List Kind :=
  [blanks, comment, lexeme .sectionMark, lexeme .implies, lexeme .relation, lexeme .punctuation,
    lexeme .integer, lexeme .var, lexeme .constant, lexeme .anonymous]

theorem mem_all (k : Kind) : k ∈ all := by
  rcases k with _ | _ | k
  · decide
  · decide
  · cases k <;> decide

theorem nodup_all : all.Nodup := by decide

def choose? (cs : List Char) : Option (Kind × List Char) :=
  all.findSome? fun k => (k.regex.rests cs).head?.map (k, ·)

def begins : Kind → Char → Bool
  | blanks => isBlank
  | comment => (· == '%')
  | lexeme .sectionMark => fun c => c == 'I' || c == 'O'
  | lexeme .implies => (· == ':')
  | lexeme .relation => fun c => c == '!' || c == '>' || c == '<'
  | lexeme .punctuation => ['(', ')', ',', '.', '\x7b', '\x7d'].contains
  | lexeme .integer => isDecimalDigit
  | lexeme .var => fun c => c == '_' || isUpperLetter c
  | lexeme .constant => fun c => c == '_' || isLowerLetter c
  | lexeme .anonymous => (· == '_')

theorem rests_eq_nil {k : Kind} {c : Char} (h : k.begins c = false) (cs : List Char) :
    k.regex.rests (c :: cs) = [] := by
  rcases k with _ | _ | k
  · simp_all [regex, begins, rests_many1]
  · simp_all [regex, begins, rests, char]
  · cases k
    case integer => simp_all [regex, begins, rests_many1]
    case var =>
      rw [regex, rests_name _ (by decide)]
      simp_all [begins, isUnderscore]
    case constant =>
      rw [regex, rests_name _ (by decide)]
      simp_all [begins, isUnderscore]
    all_goals simp_all [regex, begins, rests, char]

theorem length_filter_begins_le : ∀ n < 128, n = 0x49 ∨ n = 0x4F ∨ n = 0x5F ∨
    (all.filter fun k => k.begins (.ofNat n)).length ≤ 1 := by
  decide +kernel

theorem begins_of_le {k : Kind} {c : Char} (hc : 128 ≤ c.toNat) (h : k.begins c = true) :
    k = blanks ∧ isBlank c = true ∨ k = lexeme .integer ∧ isDecimalDigit c = true := by
  have hne (d : Char) (hd : d.toNat < 128) : c ≠ d := by
    rintro rfl
    omega
  have hupper := isUpperLetter_iff (c := c)
  have hlower := isLowerLetter_iff (c := c)
  rcases k with _ | _ | k
  · exact .inl ⟨rfl, h⟩
  · simp [begins] at h
    exact absurd h (hne _ (by decide))
  · cases k
    case integer => exact .inr ⟨rfl, h⟩
    case var =>
      simp [begins, hne, hupper] at h
      omega
    case constant =>
      simp [begins, hne, hlower] at h
      omega
    all_goals simp [begins, hne] at h

theorem begins_unique {k k' : Kind} {c : Char} (hc : c ≠ 'I' ∧ c ≠ 'O' ∧ c ≠ '_')
    (h : k.begins c = true) (h' : k'.begins c = true) : k = k' := by
  by_cases hascii : c.toNat < 128
  · have hk : k ∈ all.filter (·.begins c) := List.mem_filter.2 ⟨mem_all k, h⟩
    have hk' : k' ∈ all.filter (·.begins c) := List.mem_filter.2 ⟨mem_all k', h'⟩
    have hone := length_filter_begins_le c.toNat hascii
    rw [Char.ofNat_toNat] at hone
    rcases hone with hn | hn | hn | hone
    · exact absurd (Char.toNat_inj.1 hn) hc.1
    · exact absurd (Char.toNat_inj.1 hn) hc.2.1
    · exact absurd (Char.toNat_inj.1 hn) hc.2.2
    · obtain ⟨_, hx⟩ := List.length_eq_one_iff.1 (Nat.le_antisymm hone (List.length_pos_of_mem hk))
      rw [hx, List.mem_singleton] at hk hk'
      exact hk.trans hk'.symm
  · rcases begins_of_le (Nat.le_of_not_lt hascii) h with ⟨rfl, hc⟩ | ⟨rfl, hc⟩ <;>
      rcases begins_of_le (Nat.le_of_not_lt hascii) h' with ⟨rfl, hc'⟩ | ⟨rfl, hc'⟩
    · rfl
    · simp [not_isBlank_of_isDecimalDigit hc'] at hc
    · simp [not_isBlank_of_isDecimalDigit hc] at hc'
    · rfl

/-- The kind is the first one that matches, and takes more of the text than any other can. -/
structure Chosen (k : Kind) (cs rest : List Char) : Prop where
  choose?_eq : choose? cs = some (k, rest)
  longest : ∀ (k' : Kind), ∀ r ∈ k'.regex.rests cs, rest.length ≤ r.length
  unique : ∀ (k' : Kind), ∀ r ∈ k'.regex.rests cs, r.length = rest.length → k' = k

variable {k : Kind} {cs rest : List Char} {c : Char}

theorem chosen_of_leads (before after : List Kind) (hall : all = before ++ k :: after)
    (hlead : Leads rest (k.regex.rests cs)) (hbefore : ∀ k' ∈ before, k'.regex.rests cs = [])
    (hafter : ∀ k' ∈ after, ∀ r ∈ k'.regex.rests cs, rest.length < r.length) :
    Chosen k cs rest := by
  obtain ⟨more, hrests, hmore⟩ := hlead
  have hcases (k' : Kind) {r : List Char} (hr : r ∈ k'.regex.rests cs) :
      k' = k ∧ rest.length ≤ r.length ∨ rest.length < r.length := by
    have hk' := hall ▸ mem_all k'
    rw [List.mem_append, List.mem_cons] at hk'
    rcases hk' with hk' | rfl | hk'
    · simp [hbefore k' hk'] at hr
    · rw [hrests, List.mem_cons] at hr
      rcases hr with rfl | hr
      · exact .inl ⟨rfl, Nat.le_refl _⟩
      · exact .inr (hmore r hr)
    · exact .inr (hafter k' hk' r hr)
  refine ⟨?_, fun k' r hr => ?_, fun k' r hr hlen => ?_⟩
  · refine List.findSome?_eq_some_iff.2 ⟨before, k, after, hall, by simp [hrests], ?_⟩
    exact fun k' hk' => by simp [hbefore k' hk']
  · rcases hcases k' hr with ⟨-, hle⟩ | hlt
    · exact hle
    · exact hlt.le
  · rcases hcases k' hr with ⟨rfl, -⟩ | hlt
    · rfl
    · omega

theorem begins_of_leads (hlead : Leads rest (k.regex.rests (c :: cs))) : k.begins c = true := by
  obtain ⟨more, hrests, -⟩ := hlead
  by_contra hbegins
  rw [rests_eq_nil (by simpa using hbegins)] at hrests
  cases hrests

theorem chosen_of_ne (hc : c ≠ 'I' ∧ c ≠ 'O' ∧ c ≠ '_')
    (hlead : Leads rest (k.regex.rests (c :: cs))) : Chosen k (c :: cs) rest := by
  have hothers {k' : Kind} (hne : k' ≠ k) : k'.regex.rests (c :: cs) = [] := by
    refine rests_eq_nil ?_ cs
    by_contra hbegins
    exact hne (begins_unique hc (by simpa using hbegins) (begins_of_leads hlead))
  obtain ⟨before, after, hall, hbefore⟩ := List.eq_append_cons_of_mem (mem_all k)
  have hafter : k ∉ after := by
    have hnodup := hall ▸ nodup_all
    exact (List.nodup_cons.1 (List.nodup_append.1 hnodup).2.1).1
  refine chosen_of_leads before after hall hlead ?_ ?_
  · exact fun k' hk' => hothers fun heq => hbefore (heq ▸ hk')
  · intro k' hk'
    simp [hothers fun heq => hafter (heq ▸ hk')]

/-! ### Names and section marks -/

def beforeNames : List Kind :=
  [blanks, comment, lexeme .sectionMark, lexeme .implies, lexeme .relation, lexeme .punctuation,
    lexeme .integer]

theorem begins_name (hc : c = '_' ∨ isUpperLetter c = true ∨ isLowerLetter c = true)
    (h : k.begins c = true) : k ∈ beforeNames → k = lexeme .sectionMark := by
  have hspecial (hc : c = 'I' ∨ c = 'O' ∨ c = '_') :
      ∀ k ∈ beforeNames, k.begins c = true → k = lexeme .sectionMark := by
    rcases hc with rfl | rfl | rfl <;> decide
  intro hk
  by_cases hne : c = 'I' ∨ c = 'O' ∨ c = '_'
  · exact hspecial hne k hk h
  · have hne : c ≠ 'I' ∧ c ≠ 'O' ∧ c ≠ '_' := by simpa using hne
    rcases hc with rfl | hc | hc
    · exact absurd rfl hne.2.2
    · have hbegins : (lexeme .var).begins c = true := by simp [begins, hc]
      have hvar := begins_unique hne h hbegins
      exact absurd (hvar ▸ hk) (by decide)
    · have hbegins : (lexeme .constant).begins c = true := by simp [begins, hc]
      have hconstant := begins_unique hne h hbegins
      exact absurd (hconstant ▸ hk) (by decide)

theorem rests_beforeNames (hc : c = '_' ∨ isUpperLetter c = true ∨ isLowerLetter c = true)
    (hsection : (lexeme .sectionMark).regex.rests (c :: cs) = []) :
    ∀ k ∈ beforeNames, k.regex.rests (c :: cs) = [] := by
  intro k hk
  by_cases hbegins : k.begins c = true
  · exact begins_name hc hbegins hk ▸ hsection
  · exact rests_eq_nil (by simpa using hbegins) cs

theorem dropWhile_isUnderscore_cases {d : Char}
    (h : (c :: cs).dropWhile isUnderscore = d :: rest) :
    c = '_' ∧ rest.length < cs.length ∨ c = d ∧ cs = rest := by
  cases hc : isUnderscore c with
  | true =>
    rw [List.dropWhile_cons_of_pos hc] at h
    have hlen := (List.dropWhile_sublist isUnderscore (l := cs)).length_le
    rw [h, List.length_cons] at hlen
    exact .inl ⟨by simpa [isUnderscore] using hc, hlen⟩
  | false =>
    rw [List.dropWhile_cons_of_neg (by simp [hc])] at h
    cases h
    exact .inr ⟨rfl, rfl⟩

theorem rests_anonymous (c : Char) (cs : List Char) :
    (lexeme .anonymous).regex.rests (c :: cs) = if c = '_' then [cs] else [] := by
  simp [regex, rests, char]

theorem lt_of_mem_rests_anonymous {d : Char} (h : (c :: cs).dropWhile isUnderscore = d :: rest)
    (hd : d ≠ '_') : ∀ r ∈ (lexeme .anonymous).regex.rests (c :: cs),
      (rest.dropWhile isNameChar).length < r.length := by
  intro r hr
  have hlen := (List.dropWhile_sublist isNameChar (l := rest)).length_le
  rw [rests_anonymous] at hr
  split at hr
  · next hc =>
    rw [List.mem_singleton] at hr
    rcases dropWhile_isUnderscore_cases h with ⟨-, hlt⟩ | ⟨rfl, -⟩
    · exact hr ▸ Nat.lt_of_le_of_lt hlen hlt
    · exact absurd hc hd
  · simp at hr

theorem isUpperLetter_of_isLowerLetter {d : Char} (hd : isLowerLetter d = true) :
    isUpperLetter d = false := by
  rw [← Bool.not_eq_true, isUpperLetter_iff]
  rw [isLowerLetter_iff] at hd
  omega

section Name

variable {d : Char} (hsection : (lexeme .sectionMark).regex.rests (c :: cs) = [])
  (hdrop : (c :: cs).dropWhile isUnderscore = d :: rest)

include hsection hdrop

theorem rests_name_beforeNames (hd : isUpperLetter d = true ∨ isLowerLetter d = true) :
    ∀ k ∈ beforeNames, k.regex.rests (c :: cs) = [] := by
  refine rests_beforeNames ?_ hsection
  rcases dropWhile_isUnderscore_cases hdrop with ⟨hc, -⟩ | ⟨rfl, -⟩
  · exact .inl hc
  · exact .inr hd

theorem chosen_var (hd : isUpperLetter d = true) :
    Chosen (lexeme .var) (c :: cs) (rest.dropWhile isNameChar) := by
  have hlower : isLowerLetter d = false := by
    by_contra hlower
    simp [isUpperLetter_of_isLowerLetter (by simpa using hlower)] at hd
  refine chosen_of_leads beforeNames [lexeme .constant, lexeme .anonymous] rfl ?_
    (rests_name_beforeNames hsection hdrop (.inl hd)) ?_
  · rw [regex, rests_name _ (by decide), hdrop]
    simpa [hd] using leads_restsOfMany isNameChar rest
  · intro k hk
    rcases List.mem_pair.1 hk with rfl | rfl
    · simp [regex, rests_name isLowerLetter (by decide), hdrop, hlower]
    · exact lt_of_mem_rests_anonymous hdrop (ne_of_isUpperLetter hd).1

theorem chosen_constant (hd : isLowerLetter d = true) :
    Chosen (lexeme .constant) (c :: cs) (rest.dropWhile isNameChar) := by
  have hupper := isUpperLetter_of_isLowerLetter hd
  refine chosen_of_leads (beforeNames ++ [lexeme .var]) [lexeme .anonymous] rfl ?_ ?_ ?_
  · rw [regex, rests_name _ (by decide), hdrop]
    simpa [hd] using leads_restsOfMany isNameChar rest
  · refine forall_mem_append_singleton (rests_name_beforeNames hsection hdrop (.inr hd)) ?_
    simp [regex, rests_name isUpperLetter (by decide), hdrop, hupper]
  · intro k hk
    rw [List.mem_singleton.1 hk]
    exact lt_of_mem_rests_anonymous hdrop (ne_of_isLowerLetter hd).1

end Name

theorem chosen_anonymous
    (h : ∀ d ∈ (cs.dropWhile isUnderscore).head?,
      isUpperLetter d = false ∧ isLowerLetter d = false) :
    Chosen (lexeme .anonymous) ('_' :: cs) cs := by
  have hname {first : Char → Bool} (hfirst : first '_' = false)
      (h : ∀ d ∈ (cs.dropWhile isUnderscore).head?, first d = false) :
      (name first).rests ('_' :: cs) = [] := by
    rw [rests_name _ hfirst, List.dropWhile_cons_of_pos (by decide)]
    cases hdrop : cs.dropWhile isUnderscore with
    | nil => rfl
    | cons d rest => simp [h d (by simp [hdrop])]
  refine chosen_of_leads (beforeNames ++ [lexeme .var, lexeme .constant]) [] rfl ?_ ?_ (by simp)
  · rw [rests_anonymous, if_pos rfl]
    exact leads_singleton cs
  · intro k hk
    rw [List.mem_append, List.mem_pair] at hk
    rcases hk with hk | rfl | rfl
    · exact rests_beforeNames (.inl rfl) (rests_eq_nil (by decide) cs) k hk
    · exact hname (by decide) fun d hd => (h d hd).1
    · exact hname (by decide) fun d hd => (h d hd).2

theorem rests_sectionMark (hc : c = 'I' ∨ c = 'O') (cs : List Char) :
    (lexeme .sectionMark).regex.rests (c :: ':' :: cs) =
      if cs.head? = some '-' then [] else [cs] := by
  rcases hc with rfl | rfl <;> simp [regex, rests, char, Option.any_eq_true]

theorem chosen_sectionMark (hc : c = 'I' ∨ c = 'O') (hcs : cs.head? ≠ some '-') :
    Chosen (lexeme .sectionMark) (c :: ':' :: cs) cs := by
  have hbegins : ∀ k ∈ all, k.begins c = true → k = lexeme .sectionMark ∨ k = lexeme .var := by
    rcases hc with rfl | rfl <;> decide
  have hothers {k : Kind} (hne : k ≠ lexeme .sectionMark) (hvar : k ≠ lexeme .var) :
      k.regex.rests (c :: ':' :: cs) = [] := by
    refine rests_eq_nil ?_ _
    by_contra h
    exact (hbegins k (mem_all k) (by simpa using h)).elim hne hvar
  have hvar : (lexeme .var).regex.rests (c :: ':' :: cs) = [':' :: cs] := by
    rcases hc with rfl | rfl <;> rfl
  refine chosen_of_leads [blanks, comment]
    [lexeme .implies, lexeme .relation, lexeme .punctuation, lexeme .integer, lexeme .var,
      lexeme .constant, lexeme .anonymous] rfl ?_ ?_ ?_
  · rw [rests_sectionMark hc, if_neg hcs]
    exact leads_singleton cs
  · simp [hothers]
  · intro k hk r hr
    by_cases hkvar : k = lexeme .var
    · rw [hkvar, hvar, List.mem_singleton] at hr
      simp [hr]
    · have hne : k ≠ lexeme .sectionMark := by
        rintro rfl
        exact absurd hk (by decide)
      simp [hothers hne hkvar] at hr

theorem chosen_var_of_sectionMark (hc : c = 'I' ∨ c = 'O') (hcs : cs.head? = some '-') :
    Chosen (lexeme .var) (c :: ':' :: cs) (':' :: cs) := by
  have hsection := (rests_sectionMark hc cs).trans (if_pos hcs)
  have hdrop : (c :: ':' :: cs).dropWhile isUnderscore = c :: ':' :: cs := by
    rcases hc with rfl | rfl <;> rfl
  have hupper : isUpperLetter c = true := by
    rcases hc with rfl | rfl <;> decide
  exact chosen_var hsection hdrop hupper

/-! ### The first kind that matches -/

def lexemeKind? : Kind → Option Lexeme.Kind
  | lexeme k => some k
  | _ => none

structure Takes (p : Piece) (k : Kind) (word rest : List Char) : Prop where
  size : p.size = word.length
  kind : p.lexeme?.map Lexeme.kind = k.lexemeKind?
  chosen : Chosen k (word ++ rest) rest

theorem exists_takes_of_namePiece? {p : Piece} (h : namePiece? (c :: cs) = some p)
    (hsection : (lexeme .sectionMark).regex.rests (c :: cs) = []) :
    ∃ k word rest, c :: cs = word ++ rest ∧ Takes p k word rest := by
  have hsplit := List.takeWhile_append_dropWhile (p := isUnderscore) (l := c :: cs)
  have hunderscore
      (hother : ∀ d ∈ ((c :: cs).dropWhile isUnderscore).head?,
        isUpperLetter d = false ∧ isLowerLetter d = false)
      (h : (if ((c :: cs).takeWhile isUnderscore).isEmpty then none
        else some (Piece.lexeme .anonymous 1)) = some p) :
      ∃ k word rest, c :: cs = word ++ rest ∧ Takes p k word rest := by
    cases hc : isUnderscore c with
    | false => simp [hc] at h
    | true =>
      rw [List.dropWhile_cons_of_pos hc] at hother
      have hc : c = '_' := by simpa [isUnderscore] using hc
      subst hc
      simp [isUnderscore] at h
      subst h
      exact ⟨lexeme .anonymous, ['_'], cs, rfl, rfl, rfl, chosen_anonymous hother⟩
  unfold namePiece? at h
  split at h
  · next d rest hdrop =>
    have hword : c :: cs = ((c :: cs).takeWhile isUnderscore ++ d :: rest.takeWhile isNameChar) ++
        rest.dropWhile isNameChar := by
      rw [List.append_assoc, List.cons_append, List.takeWhile_append_dropWhile, ← hdrop, hsplit]
    split at h
    · next hd =>
      cases h
      exact ⟨lexeme .var, _, _, hword, rfl, rfl, hword ▸ chosen_var hsection hdrop hd⟩
    split at h
    · next hd =>
      cases h
      exact ⟨lexeme .constant, _, _, hword, rfl, rfl, hword ▸ chosen_constant hsection hdrop hd⟩
    · next hupper hlower => exact hunderscore (by simp [hdrop, hupper, hlower]) h
  · next hdrop => exact hunderscore (by simp [hdrop]) h

theorem exists_takes_of_longPiece? {p : Piece} (h : longPiece? cs = some p)
    (hsection : (lexeme .sectionMark).regex.rests cs = []) :
    ∃ k word rest, cs = word ++ rest ∧ Takes p k word rest := by
  unfold longPiece? at h
  split at h
  · cases h
  next c cs =>
  have hmany {k : Kind} {p : Piece} {chars : Char → Bool} (hk : k.regex = many1 chars)
      (hne : c ≠ 'I' ∧ c ≠ 'O' ∧ c ≠ '_') (hc : chars c = true)
      (hsize : p.size = ((c :: cs).takeWhile chars).length)
      (hkind : p.lexeme?.map Lexeme.kind = k.lexemeKind?) :
      ∃ k word rest, c :: cs = word ++ rest ∧ Takes p k word rest := by
    have hsplit := List.takeWhile_append_dropWhile (p := chars) (l := c :: cs)
    have hlead : Leads ((c :: cs).dropWhile chars) (k.regex.rests (c :: cs)) := by
      rw [hk, rests_many1, if_pos hc, List.dropWhile_cons_of_pos hc]
      exact leads_restsOfMany chars cs
    exact ⟨k, _, _, hsplit.symm, hsize, hkind, hsplit.symm ▸ chosen_of_ne hne hlead⟩
  split at h
  · next hc =>
    cases h
    refine hmany (k := blanks) rfl ?_ hc rfl rfl
    refine ⟨?_, ?_, ?_⟩ <;>
      · rintro rfl
        exact absurd hc (by decide)
  split at h
  · next hc =>
    cases h
    refine hmany (k := lexeme .integer) rfl ?_ hc rfl rfl
    refine ⟨?_, ?_, ?_⟩ <;>
      · rintro rfl
        exact absurd hc (by decide)
  · exact exists_takes_of_namePiece? h hsection

theorem rests_sectionMark_eq_nil (h : ∀ c, c = 'I' ∨ c = 'O' → ∀ rest, cs ≠ c :: ':' :: rest) :
    (lexeme .sectionMark).regex.rests cs = [] := by
  match cs with
  | [] => rfl
  | [c] => simp [regex, rests, char]
  | c :: d :: rest =>
    by_cases hc : c = 'I' ∨ c = 'O'
    · have hd : d ≠ ':' := by
        rintro rfl
        exact h c hc rest rfl
      simp [regex, rests, char, hd]
    · exact rests_eq_nil (by simpa [begins] using hc) _

theorem exists_takes {p : Piece} (h : piece? cs = some p) :
    ∃ k word rest, cs = word ++ rest ∧ Takes p k word rest := by
  have hone {x : Lexeme} {c : Char} {cs : List Char} (hc : c ≠ 'I' ∧ c ≠ 'O' ∧ c ≠ '_')
      (hx : (lexeme x.kind).regex.rests (c :: cs) = [cs]) :
      ∃ k word rest, c :: cs = word ++ rest ∧ Takes (.lexeme x 1) k word rest :=
    ⟨lexeme x.kind, [c], cs, rfl, rfl, rfl, chosen_of_ne hc (hx ▸ leads_singleton cs)⟩
  have htwo {x : Lexeme} {c d : Char} {cs : List Char} (hc : c ≠ 'I' ∧ c ≠ 'O' ∧ c ≠ '_')
      (hx : (lexeme x.kind).regex.rests (c :: d :: cs) = [cs]) :
      ∃ k word rest, c :: d :: cs = word ++ rest ∧ Takes (.lexeme x 2) k word rest :=
    ⟨lexeme x.kind, [c, d], cs, rfl, rfl, rfl, chosen_of_ne hc (hx ▸ leads_singleton cs)⟩
  unfold piece? at h
  split at h
  case h_1 cs =>
    cases h
    refine ⟨comment, '%' :: cs.takeWhile (!isLineEnd ·), cs.dropWhile (!isLineEnd ·), ?_, ?_, rfl,
      ?_⟩
    · rw [List.cons_append, List.takeWhile_append_dropWhile]
    · exact Nat.add_comm _ _
    · rw [List.cons_append, List.takeWhile_append_dropWhile]
      exact chosen_of_ne (by decide) (by simpa [regex, rests, char] using leads_restsOfMany _ cs)
  case h_2 cs =>
    cases h
    exact ⟨lexeme .var, ['I'], _, rfl, rfl, rfl, chosen_var_of_sectionMark (.inl rfl) rfl⟩
  case h_3 cs =>
    cases h
    exact ⟨lexeme .var, ['O'], _, rfl, rfl, rfl, chosen_var_of_sectionMark (.inr rfl) rfl⟩
  case h_4 cs hcs =>
    cases h
    refine ⟨lexeme .sectionMark, ['I', ':'], cs, rfl, rfl, rfl, chosen_sectionMark (.inl rfl) ?_⟩
    intro hhead
    obtain ⟨rest, rfl⟩ := List.head?_eq_some_iff.1 hhead
    exact hcs rest rfl
  case h_5 cs hcs =>
    cases h
    refine ⟨lexeme .sectionMark, ['O', ':'], cs, rfl, rfl, rfl, chosen_sectionMark (.inr rfl) ?_⟩
    intro hhead
    obtain ⟨rest, rfl⟩ := List.head?_eq_some_iff.1 hhead
    exact hcs rest rfl
  case h_16 =>
    refine exists_takes_of_longPiece? h (rests_sectionMark_eq_nil ?_)
    rintro c (rfl | rfl) rest rfl
    all_goals simp_all
  all_goals
    cases h
    first | exact hone (by decide) rfl | exact htwo (by decide) rfl

theorem rests_nil (k : Kind) : k.regex.rests [] = [] := by
  rcases k with _ | _ | k
  · rfl
  · rfl
  · cases k <;> rfl

theorem front_of_namePiece? (h : namePiece? (c :: cs) = none) :
    c ≠ '_' ∧ isUpperLetter c = false ∧ isLowerLetter c = false := by
  unfold namePiece? at h
  cases hc : isUnderscore c with
  | true =>
    simp only [hc, List.takeWhile_cons_of_pos, List.isEmpty_cons, List.dropWhile_cons_of_pos] at h
    grind
  | false =>
    refine ⟨by simpa [isUnderscore] using hc, ?_⟩
    simp only [List.takeWhile_cons, List.dropWhile_cons, hc] at h
    grind

theorem front_of_longPiece? (h : longPiece? (c :: cs) = none) :
    isBlank c = false ∧ isDecimalDigit c = false ∧ c ≠ '_' ∧ isUpperLetter c = false ∧
      isLowerLetter c = false := by
  simp only [longPiece?] at h
  split at h
  · cases h
  · next hblank =>
    split at h
    · cases h
    · next hdigit =>
      exact ⟨by simpa using hblank, by simpa using hdigit, front_of_namePiece? h⟩

theorem rests_seq_char {d : Char} (h : ∀ rest, c :: cs ≠ c :: d :: rest) :
    (seq (char c) (char d)).rests (c :: cs) = [] := by
  cases cs with
  | nil => simp [rests, char]
  | cons e cs =>
    have hne : e ≠ d := by
      rintro rfl
      exact h cs rfl
    simp [rests, char, hne]

theorem rests_eq_nil_of_piece? (h : piece? cs = none) (k : Kind) : k.regex.rests cs = [] := by
  cases cs with
  | nil => exact rests_nil k
  | cons c cs =>
    unfold piece? at h
    split at h
    case h_16 hcomment _ _ _ _ himplies hunequal hgreater hless hopen hclose hbrace hendBrace
        hcomma hstop =>
      obtain ⟨hblank, hdigit, hunderscore, hupper, hlower⟩ := front_of_longPiece? h
      have hne {d : Char} (h : ∀ rest, c :: cs = d :: rest → False) : c ≠ d := by
        rintro rfl
        exact h cs rfl
      by_contra hrests
      have hbegins : k.begins c = true := by
        by_contra hbegins
        exact hrests (rests_eq_nil (by simpa using hbegins) cs)
      rcases k with _ | _ | k
      · exact Bool.false_ne_true (hblank.symm.trans hbegins)
      · exact hne hcomment (beq_iff_eq.1 hbegins)
      · cases k
        case sectionMark =>
          rcases (by simpa [begins] using hbegins : c = 'I' ∨ c = 'O') with rfl | rfl <;>
            exact absurd hupper (by decide)
        case implies =>
          cases beq_iff_eq.1 hbegins
          exact hrests (rests_seq_char himplies)
        case relation =>
          have hc : c = '!' := by simpa [begins, hne hgreater, hne hless] using hbegins
          subst hc
          rw [regex, rests, rests_seq_char hunequal] at hrests
          simp [rests, char] at hrests
        case punctuation =>
          simp [begins, hne hopen, hne hclose, hne hbrace, hne hendBrace, hne hcomma,
            hne hstop] at hbegins
        case integer => exact Bool.false_ne_true (hdigit.symm.trans hbegins)
        all_goals simp [begins, hunderscore, hupper, hlower] at hbegins
    all_goals cases h

end Piece.Kind

end AnswerSetLearning
