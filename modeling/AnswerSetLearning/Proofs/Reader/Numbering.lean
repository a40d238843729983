import Mathlib
import AnswerSetLearning.Proofs.Reader.Recognition
import AnswerSetLearning.Proofs.Registration

namespace AnswerSetLearning

def Scenario.literals (s : Scenario) : List Literal := s.answers.flatten ++ s.facts

def Document.literals (d : Document) : List Literal := d.scenarios.flatMap Scenario.literals

namespace Registry

theorem snd_registerAll_append (r : Registry) (ls ms : List Literal) :
    (r.registerAll (ls ++ ms)).2 = ((r.registerAll ls).2.registerAll ms).2 := by
  induction ls generalizing r with
  | nil => rfl
  | cons l ls ih => exact ih _

theorem snd_registerSets (r : Registry) (lss : List (List Literal)) :
    (r.registerSets lss).2 = (r.registerAll lss.flatten).2 := by
  induction lss generalizing r with
  | nil => rfl
  | cons ls lss ih => rw [List.flatten_cons, snd_registerAll_append, ← ih]; rfl

theorem snd_registerScenario (r : Registry) (s : Scenario) :
    (r.registerScenario s).2 = (r.registerAll s.literals).2 := by
  rw [Scenario.literals, snd_registerAll_append, ← snd_registerSets]
  rfl

theorem snd_registerScenarios (r : Registry) (ss : List Scenario) :
    (r.registerScenarios ss).2 = (r.registerAll (ss.flatMap Scenario.literals)).2 := by
  induction ss generalizing r with
  | nil => rfl
  | cons s ss ih =>
    rw [List.flatMap_cons, snd_registerAll_append, ← snd_registerScenario, ← ih]
    rfl

theorem requested_map_register (ls : List Literal) : requested (ls.map .register) = ls := by
  induction ls with
  | nil => rfl
  | cons l ls ih => exact congrArg (l :: ·) ih

theorem literals_registerAll_empty (ls : List Literal) :
    (empty.registerAll ls).2.literals = SortedSet.firstOccurrences ls := by
  have h : (empty.registerAll ls).2 = after (ls.map .register) := registerAll_after [] ls
  rw [h, literals_after, requested_map_register]

/-- The set is strictly increasing, its numbers are valid, and they resolve to the literals that
the list holds. -/
structure ResolvesTo (r : Registry) (s : LitSet) (ls : List Literal) : Prop where
  increasing : s.items.Pairwise (· < ·)
  numbers : r.Numbers s
  resolve : ∃ ms, r.resolve s.items = .ok ms ∧ ms.Nodup ∧ ∀ l, l ∈ ms ↔ l ∈ ls

theorem nodup_of_resolve {r : Registry} (hr : r.WellFormed) {is : List Lit} {ls : List Literal}
    (his : is.Nodup) (h : r.resolve is = .ok ls) : ls.Nodup := by
  have hmap : is.map r.get? = ls.map some := resolve_eq_ok_iff.1 h
  refine List.Nodup.of_map some (hmap ▸ his.map_on fun i hi j _ hij => ?_)
  obtain ⟨l, -, hl⟩ := List.mem_map.1 (hmap ▸ List.mem_map_of_mem (f := r.get?) hi)
  exact get?_injective hr hl.symm (hl.trans hij).symm

theorem Represents.resolvesTo {r : Registry} (hr : r.WellFormed) {s : LitSet} {ls : List Literal}
    (h : r.Represents s ls) : r.ResolvesTo s ls := by
  have hregisters : r.Registers s := by
    intro i hi
    obtain ⟨l, -, hl⟩ := (h.mem_iff i).1 hi
    exact ⟨l, hl⟩
  obtain ⟨ms, hms⟩ := exists_resolve hregisters
  refine ⟨h.normal, numbers_iff_registers.2 hregisters, ms, hms,
    nodup_of_resolve hr h.normal.nodup hms, fun l => ?_⟩
  rw [mem_of_resolve hms]
  constructor
  · rintro ⟨i, hi, hl⟩
    obtain ⟨m, hm, hm'⟩ := (h.mem_iff i).1 hi
    cases hl.symm.trans hm'
    exact hm
  · intro hl
    obtain ⟨i, hi⟩ := h.exists_lit l hl
    exact ⟨i, (h.mem_iff i).2 ⟨l, hl, hi⟩, hi⟩

end Registry

structure Example.ResolvesTo (r : Registry) (e : Example) (s : Scenario) : Prop where
  input : r.ResolvesTo e.input s.facts
  outputs : List.Forall₂ r.ResolvesTo e.outputs s.answers

theorem Example.Represents.resolvesTo {r : Registry} (hr : r.WellFormed) {e : Example}
    {s : Scenario} (h : e.Represents r s) : e.ResolvesTo r s where
  input := h.input.resolvesTo hr
  outputs := h.outputs.imp fun _ _ hs => hs.resolvesTo hr

theorem Document.literals_task (d : Document) :
    d.task.registry.literals = SortedSet.firstOccurrences d.literals := by
  have h : d.task.registry = (Registry.empty.registerAll d.literals).2 :=
    Registry.snd_registerScenarios .empty d.scenarios
  rw [h, Registry.literals_registerAll_empty]

/-- A text that is accepted has a derivation, and the task numbers the literals of its scenarios
from 1, in the order of their first occurrences when the answer sets are read before the facts;
every set resolves to the literals that were written. -/
theorem numbering_of_parseTask {text : String} {t : Task} (h : parseTask text = .ok t) :
    ∃ ts, tokenize text.toList = .ok ts ∧
      ∃ d : DocumentTree, d.lexemes = ts.map Token.lexeme ∧
        t.registry.literals = SortedSet.firstOccurrences d.document.literals ∧
        (∀ i l, t.registry.get i = .ok l ↔ ∃ n : Nat, i = n + 1 ∧
          (SortedSet.firstOccurrences d.document.literals)[n]? = some l) ∧
        List.Forall₂ (Example.ResolvesTo t.registry) t.examples d.document.scenarios := by
  cases hts : tokenize text.toList with
  | error o => simp [parseTask, parseDocument, hts] at h
  | ok ts =>
    obtain ⟨d, hd, rfl⟩ := (parseTask_eq_ok_iff hts).1 h
    have htask := d.document.represents_task
    refine ⟨ts, rfl, d, hd, d.document.literals_task, fun i l => ?_, ?_⟩
    · rw [Registry.get_eq_ok_iff, Registry.get?_eq_some_iff, d.document.literals_task]
    · exact htask.examples.imp fun _ _ he => he.resolvesTo htask.registry

def sharedText : String := "e. I: b a O: \x7bc a\x7d \x7b\x7d \x7ba c\x7d I: c() O: \x7bd b\x7d"

def sharedTree : DocumentTree where
  rules := [.fact ⟨"e", none⟩]
  scenarios :=
    [⟨[⟨"b", none⟩, ⟨"a", none⟩], [[⟨"c", none⟩, ⟨"a", none⟩], [], [⟨"a", none⟩, ⟨"c", none⟩]]⟩,
      ⟨[⟨"c", some []⟩], [[⟨"d", none⟩, ⟨"b", none⟩]]⟩]

theorem tokenize_sharedText : tokenize sharedText.toList =
    .ok [⟨.constant "e", 0⟩, ⟨.stop, 1⟩, ⟨.input, 3⟩, ⟨.constant "b", 6⟩, ⟨.constant "a", 8⟩,
      ⟨.outputs, 10⟩, ⟨.openBrace, 13⟩, ⟨.constant "c", 14⟩, ⟨.constant "a", 16⟩,
      ⟨.closeBrace, 17⟩, ⟨.openBrace, 19⟩, ⟨.closeBrace, 20⟩, ⟨.openBrace, 22⟩,
      ⟨.constant "a", 23⟩, ⟨.constant "c", 25⟩, ⟨.closeBrace, 26⟩, ⟨.input, 28⟩,
      ⟨.constant "c", 31⟩, ⟨.openParen, 32⟩, ⟨.closeParen, 33⟩, ⟨.outputs, 35⟩,
      ⟨.openBrace, 38⟩, ⟨.constant "d", 39⟩, ⟨.constant "b", 41⟩, ⟨.closeBrace, 42⟩] := by
  cbv

theorem parseTask_sharedText :
    ∃ t, parseTask sharedText = .ok t ∧
      t.registry.literals = [⟨"c", []⟩, ⟨"a", []⟩, ⟨"b", []⟩, ⟨"d", []⟩] ∧
      t.registry.get 3 = .ok ⟨"b", []⟩ ∧
      t.examples = [⟨⟨[2, 3]⟩, [⟨[1, 2]⟩, ⟨[]⟩, ⟨[1, 2]⟩]⟩, ⟨⟨[1]⟩, [⟨[3, 4]⟩]⟩] ∧
      List.Forall₂ (Example.ResolvesTo t.registry) t.examples sharedTree.document.scenarios := by
  have h : parseTask sharedText = .ok sharedTree.document.task :=
    (parseTask_eq_ok_iff tokenize_sharedText).2 ⟨sharedTree, rfl, rfl⟩
  obtain ⟨ts, hts, d, hd, hliterals, hget, hexamples⟩ := numbering_of_parseTask h
  cases tokenize_sharedText.symm.trans hts
  obtain rfl : d = sharedTree := DocumentTree.lexemes_injective hd
  refine ⟨_, h, hliterals.trans rfl, (hget _ _).2 ⟨2, rfl, rfl⟩, by cbv, hexamples⟩

end AnswerSetLearning
