import AnswerSetLearning.Proofs.Solver.Matching
import AnswerSetLearning.Solver.Unification

namespace AnswerSetLearning.Solver

variable {w : Valuation}

namespace Arg

/-- The elimination of variables does not change which terms an argument can be. -/
def Preserves (w : Valuation) (θ : Arg → Arg) : Prop := ∀ a t, (θ a).Matches w t ↔ a.Matches w t

theorem preserves_id (w : Valuation) : Preserves w id := fun _ _ => .rfl

theorem subst_matches_iff {x : String} {b : Arg} (hb : ∀ t, b.Matches w t ↔ w x = t) {a : Arg}
    {t : Term} : (subst x b a).Matches w t ↔ a.Matches w t := by
  cases a with
  | var y =>
    by_cases hyx : y = x
    · rw [subst, if_pos hyx, hb, matches_var, hyx]
    · rw [subst, if_neg hyx]
  | _ => exact .rfl

theorem Preserves.subst {θ : Arg → Arg} (h : Preserves w θ) {x : String} {b : Arg}
    (hb : ∀ t, b.Matches w t ↔ w x = t) : Preserves w fun a => Arg.subst x b (θ a) :=
  fun a t => (subst_matches_iff hb).trans (h a t)

theorem matches_iff_of_ne_anonymous {a : Arg} (ha : a ≠ anonymous) {s : Term}
    (hs : a.Matches w s) (t : Term) : a.Matches w t ↔ s = t := by
  cases hs with
  | value => exact matches_value
  | var => exact matches_var
  | anonymous => exact absurd rfl ha

def Meet (w : Valuation) (ab : Arg × Arg) : Prop := ∃ t, ab.1.Matches w t ∧ ab.2.Matches w t

theorem meet_of_mem_zip {as bs : List Arg} {ts : List Term}
    (has : List.Forall₂ (Matches w) as ts) (hbs : List.Forall₂ (Matches w) bs ts) :
    ∀ ab ∈ as.zip bs, Meet w ab := by
  induction has generalizing bs with
  | nil => simp
  | cons ha _ ih =>
    cases hbs with
    | cons hb hbs =>
      rintro ab (_ | ⟨_, hab⟩)
      · exact ⟨_, ha, hb⟩
      · exact ih hbs ab hab

end Arg

theorem solvable_of_meet {pairs : List (Arg × Arg)} {θ : Arg → Arg} (hθ : Arg.Preserves w θ)
    (h : ∀ ab ∈ pairs, Arg.Meet w ab) : solvable θ pairs = true := by
  induction pairs generalizing θ with
  | nil => rfl
  | cons ab rest ih =>
    obtain ⟨t, ha, hb⟩ := h _ List.mem_cons_self
    have hrest : ∀ ab ∈ rest, Arg.Meet w ab := fun ab hab => h ab (List.mem_cons_of_mem _ hab)
    replace ha := (hθ _ t).2 ha
    replace hb := (hθ _ t).2 hb
    rw [solvable]
    split
    · exact ih hθ hrest
    · exact ih hθ hrest
    · next x hx hb' =>
      rw [hx, Arg.matches_var] at ha
      subst ha
      exact ih (hθ.subst (Arg.matches_iff_of_ne_anonymous hb' hb)) hrest
    · next x hx ha' _ =>
      rw [hx, Arg.matches_var] at hb
      subst hb
      exact ih (hθ.subst (Arg.matches_iff_of_ne_anonymous ha' ha)) hrest
    · next s s' hs hs' =>
      rw [hs, Arg.matches_value] at ha
      rw [hs', Arg.matches_value] at hb
      rw [ha, hb, decide_eq_true rfl, Bool.true_and]
      exact ih hθ hrest

namespace Pattern

variable {v v' : Valuation} {p q : Pattern} {a : GroundAtom}

def IsUnprimed (p : Pattern) : Prop := ∀ x ∈ p.vars, ∀ y, x ≠ "/" ++ y

theorem exists_valuation (v v' : Valuation) : ∃ w : Valuation,
    (∀ x, (∀ y, x ≠ "/" ++ y) → w x = v x) ∧ ∀ y, w ("/" ++ y) = v' y := by
  have hinjective : Function.Injective fun y : String => "/" ++ y := fun y y' h => by
    simpa using h
  refine ⟨Function.extend (fun y => "/" ++ y) v' v, fun x hx => ?_, hinjective.extend_apply v' v⟩
  refine Function.extend_apply' v' v x ?_
  rintro ⟨y, rfl⟩
  exact hx y rfl

theorem Matches.of_eqOn (h : p.Matches v a) (hvw : ∀ x ∈ p.vars, w x = v x) : p.Matches w a := by
  have hargs : List.Forall₂ (fun arg t => arg ∈ p.args ∧ arg.Matches v t) p.args a.args :=
    (List.forall₂_and_left _ _).2 ⟨fun _ harg => harg, h.args⟩
  refine ⟨h.predicate, hargs.imp ?_⟩
  rintro arg t ⟨harg, ht⟩
  cases ht with
  | value => exact .value _
  | var x => exact hvw x (List.mem_filterMap.2 ⟨_, harg, rfl⟩) ▸ .var x
  | anonymous => exact .anonymous _

theorem unifies_of_matches (hp : p.IsUnprimed) (hpa : p.Matches v a) (hqa : q.Matches v' a) :
    p.unifies q = true := by
  obtain ⟨w, hw, hw'⟩ := exists_valuation v v'
  have hsignature : p.signature = q.signature := by
    rw [signature, signature, hpa.predicate, hqa.predicate, hpa.args.length_eq,
      hqa.args.length_eq]
  have hleft : List.Forall₂ (Arg.Matches w) p.args a.args :=
    (hpa.of_eqOn fun x hx => hw x (hp x hx)).args
  have hright : List.Forall₂ (Arg.Matches w) (q.args.map Arg.primed) a.args := by
    refine List.forall₂_map_left_iff.2 (hqa.args.imp fun arg t h => ?_)
    cases h with
    | value => exact .value _
    | var x => exact hw' x ▸ .var _
    | anonymous => exact .anonymous _
  rw [unifies, decide_eq_true hsignature, Bool.true_and]
  exact solvable_of_meet (Arg.preserves_id w) (Arg.meet_of_mem_zip hleft hright)

end Pattern

end AnswerSetLearning.Solver
