import AnswerSetLearning.Proofs.Simulation
import Mathlib.Data.List.Sort
import Mathlib.Data.Prod.Lex

namespace AnswerSetLearning

open Solver (ModelQuery)

/-- An output of an example that is looked at because of a later example. -/
structure Checkpoint where
  first : Nat
  second : Nat
  e₁ : Example
  e₂ : Example
  output : LitSet

namespace Checkpoint

/-- The place of the checkpoint: by the first position, then by the second, then by where the
output occurs first. -/
def rank (c : Checkpoint) : ℕ ×ₗ ℕ ×ₗ ℕ :=
  toLex (c.first, toLex (c.second, c.e₁.outputs.idxOf c.output))

def Before (c d : Checkpoint) : Prop := c.rank < d.rank

instance : Std.Irrefl Before := ⟨fun c => lt_irrefl c.rank⟩

instance : Std.Antisymm Before := ⟨fun _ _ h h' => absurd h' h.asymm⟩

theorem before_iff {c d : Checkpoint} : c.Before d ↔ c.first < d.first ∨ c.first = d.first ∧
    (c.second < d.second ∨ c.second = d.second ∧
      c.e₁.outputs.idxOf c.output < d.e₁.outputs.idxOf d.output) := by
  rw [Before, rank, rank, Prod.Lex.toLex_lt_toLex, Prod.Lex.toLex_lt_toLex]

def conflict (c : Checkpoint) (condition : Condition) : Conflict :=
  ⟨condition, c.first, c.second⟩

def query (c : Checkpoint) (definite : List Rule) (limit : Nat) : ModelQuery :=
  ⟨definite, c.e₂.input, limit⟩

structure Arises (contains : LitSet → LitSet → Prop) (t : Task) (c : Checkpoint) : Prop where
  lt : c.first < c.second
  example₁ : t.examples[c.first]? = some c.e₁
  example₂ : t.examples[c.second]? = some c.e₂
  mem : c.output ∈ c.e₁.outputs
  not_mem : c.output ∉ c.e₂.outputs
  contains : contains c.e₂.input c.output

end Checkpoint

section Pairs

variable {α β : Type}

theorem pairs_map (f : α → β) (l : List α) : pairs (l.map f) = (pairs l).map (Prod.map f f) := by
  induction l with
  | nil => rfl
  | cons a l ih =>
    rw [List.map_cons, pairs, pairs, ih, List.map_append, List.map_map, List.map_map]
    rfl

theorem pairwise_pairs {R : α → α → Prop} {l : List α} (h : l.Pairwise R) :
    (pairs l).Pairwise fun p q => R p.1 q.1 ∨ p.1 = q.1 ∧ R p.2 q.2 := by
  induction h with
  | nil => exact .nil
  | @cons a l ha h ih =>
    refine List.pairwise_append.2 ⟨List.pairwise_map.2 (h.imp fun hR => .inr ⟨rfl, hR⟩), ih, ?_⟩
    intro p hp q hq
    obtain ⟨b, -, rfl⟩ := List.mem_map.1 hp
    exact .inl (ha q.1 (mem_of_mem_pairs hq).1)

theorem pairwise_zipIdx (l : List α) : l.zipIdx.Pairwise fun x y => x.2 < y.2 := by
  rw [← List.pairwise_map (f := Prod.snd) (R := (· < ·)), List.zipIdx_map_snd]
  exact List.pairwise_lt_range' 1

end Pairs

theorem SortedSet.pairwise_idxOf_firstOccurrences {α : Type} [DecidableEq α] (l : List α) :
    (firstOccurrences l).Pairwise fun a b => l.idxOf a < l.idxOf b := by
  induction l with
  | nil => exact .nil
  | cons a l ih =>
    refine .cons (fun b hb => ?_) ((List.Pairwise.filter _ ih).imp_of_mem fun hb hc hlt => ?_)
    · have hba : b ≠ a := by simpa using (List.mem_filter.1 hb).2
      simp [Ne.symm hba]
    · have hba := (List.mem_filter.1 hb).2
      have hca := (List.mem_filter.1 hc).2
      simp only [ne_eq, decide_not, Bool.not_eq_true', decide_eq_false_iff_not] at hba hca
      simpa [List.idxOf_cons, Ne.symm hba, Ne.symm hca] using hlt

def Task.checkpoints (t : Task) : List Checkpoint :=
  (pairs t.examples.zipIdx).flatMap fun ((e₁, i), (e₂, j)) =>
    ((distinctOutputs e₁ e₂).filter (e₂.input.isSubset ·)).map (⟨i, j, e₁, e₂, ·⟩)

theorem Task.mem_checkpoints {t : Task} {c : Checkpoint} :
    c ∈ t.checkpoints ↔ c.Arises (·.isSubset ·) t := by
  simp only [checkpoints, List.mem_flatMap, List.mem_map, List.mem_filter, mem_distinctOutputs]
  constructor
  · rintro ⟨⟨⟨e₁, i⟩, e₂, j⟩, hp, s, ⟨⟨hs₁, hs₂⟩, hsub⟩, rfl⟩
    obtain ⟨m, n, hlt, hm, hn⟩ := mem_pairs_iff.1 hp
    obtain ⟨hi, rfl⟩ : t.examples[m]? = some e₁ ∧ m = i := by simpa using hm
    obtain ⟨hj, rfl⟩ : t.examples[n]? = some e₂ ∧ n = j := by simpa using hn
    exact ⟨hlt, hi, hj, hs₁, hs₂, hsub⟩
  · rintro ⟨hlt, hi, hj, hs₁, hs₂, hsub⟩
    exact ⟨((c.e₁, c.first), (c.e₂, c.second)), mem_pairs hlt (by simp [hi]) (by simp [hj]),
      c.output, ⟨⟨hs₁, hs₂⟩, hsub⟩, rfl⟩

theorem Task.pairwise_checkpoints (t : Task) : t.checkpoints.Pairwise Checkpoint.Before := by
  refine List.pairwise_flatMap.2 ⟨fun ⟨⟨e₁, i⟩, e₂, j⟩ _ => ?_, ?_⟩
  · have hfirst := SortedSet.pairwise_idxOf_firstOccurrences e₁.outputs
    refine List.pairwise_map.2 (((hfirst.filter _).filter _).imp fun hlt => ?_)
    exact Checkpoint.before_iff.2 (.inr ⟨rfl, .inr ⟨rfl, hlt⟩⟩)
  · refine (pairwise_pairs (pairwise_zipIdx t.examples)).imp fun {p q} hpq c hc d hd => ?_
    obtain ⟨s, -, rfl⟩ := List.mem_map.1 hc
    obtain ⟨s', -, rfl⟩ := List.mem_map.1 hd
    exact Checkpoint.before_iff.2
      (hpq.imp id fun ⟨hfirst, hsecond⟩ => ⟨congrArg Prod.snd hfirst, .inl hsecond⟩)

section Runs

variable {α β σ ε : Type}

theorem checkEach_append (check : α → σ → Except (CheckFault ε) Unit × σ) (as bs : List α)
    (s : σ) :
    checkEach check (as ++ bs) s =
      match checkEach check as s with
      | (.ok (), s) => checkEach check bs s
      | (.error e, s) => (.error e, s) := by
  induction as generalizing s with
  | nil => rfl
  | cons a as ih =>
    rw [List.cons_append, checkEach, checkEach]
    rcases check a s with ⟨e | ⟨⟩, s'⟩
    · rfl
    · exact ih s'

theorem checkEach_map (check : β → σ → Except (CheckFault ε) Unit × σ) (f : α → β) (as : List α)
    (s : σ) : checkEach check (as.map f) s = checkEach (fun a => check (f a)) as s := by
  induction as generalizing s with
  | nil => rfl
  | cons a as ih =>
    rw [List.map_cons, checkEach, checkEach]
    rcases check (f a) s with ⟨e | ⟨⟩, s'⟩
    · rfl
    · exact ih s'

theorem checkEach_flatMap (check : β → σ → Except (CheckFault ε) Unit × σ) (f : α → List β)
    (as : List α) (s : σ) :
    checkEach check (as.flatMap f) s = checkEach (fun a => checkEach check (f a)) as s := by
  induction as generalizing s with
  | nil => rfl
  | cons a as ih =>
    rw [List.flatMap_cons, checkEach_append, checkEach]
    rcases checkEach check (f a) s with ⟨e | ⟨⟩, s'⟩
    · rfl
    · exact ih s'

theorem checkEach_filter {check : α → σ → Except (CheckFault ε) Unit × σ} {p : α → Bool}
    (hp : ∀ a, p a = false → ∀ s, check a s = (.ok (), s)) (as : List α) (s : σ) :
    checkEach check (as.filter p) s = checkEach check as s := by
  induction as generalizing s with
  | nil => rfl
  | cons a as ih =>
    cases ha : p a with
    | false =>
      rw [List.filter_cons_of_neg (by simp [ha]), checkEach, hp a ha]
      exact ih s
    | true =>
      rw [List.filter_cons_of_pos ha, checkEach, checkEach]
      rcases check a s with ⟨e | ⟨⟩, s'⟩
      · rfl
      · exact ih s'

end Runs

section Check

variable {σ ε : Type} (ask : ModelQuery → σ → Except ε (List LitSet) × σ)

def Checkpoint.check (definite : List Rule) (c : Checkpoint) :
    σ → Except (CheckFault ε) Unit × σ :=
  checkOutput ask definite c.e₁ c.e₂ c.conflict c.output

theorem checkCompatibility_eq (t : Task) (s : σ) :
    checkCompatibility ask t s =
      checkEach (Checkpoint.check ask t.definiteRules) t.checkpoints s := by
  rw [checkCompatibility, Task.checkpoints, checkEach_flatMap, pairs_map, checkEach_map]
  refine congrArg (checkEach · (pairs t.examples.zipIdx) s) (funext fun p => funext fun s => ?_)
  obtain ⟨⟨e₁, i⟩, e₂, j⟩ := p
  have hskip (s₁ : LitSet) (hs₁ : e₂.input.isSubset s₁ = false) (s : σ) :
      (Checkpoint.mk i j e₁ e₂ s₁).check ask t.definiteRules s = (.ok (), s) := by
    rw [Checkpoint.check, checkOutput, if_pos (by simp [hs₁])]
  rw [checkEach_map, checkEach_filter hskip]
  rfl

end Check

end AnswerSetLearning
