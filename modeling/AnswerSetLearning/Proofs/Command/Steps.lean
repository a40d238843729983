import AnswerSetLearning.Proofs.Command.Messages

namespace AnswerSetLearning

open Markup

variable {α β : Type} {a : α} {e : Ending} {s s' s'' : Session}

structure Session.Keeps (s s' : Session) : Prop where
  stdout : s'.stdout = s.stdout
  written : s'.written = s.written
  temporary : s'.temporary = s.temporary
  calls : s'.calls = s.calls
  memory : s'.stats.ilaspMemory = s.stats.ilaspMemory

theorem Session.Keeps.refl (s : Session) : s.Keeps s := ⟨rfl, rfl, rfl, rfl, rfl⟩

theorem Session.Keeps.trans (h : s.Keeps s') (h' : s'.Keeps s'') : s.Keeps s'' :=
  ⟨h'.stdout.trans h.stdout, h'.written.trans h.written, h'.temporary.trans h.temporary,
    h'.calls.trans h.calls, h'.memory.trans h.memory⟩

namespace Step

variable {w : World} {x : Step α} {f : α → Step β} {r : Except Ending α} {q : Except Ending β}
  {m : String}

def ComesTo (x y : Step α) : Prop := ∀ s, ∃ s', s.Keeps s' ∧ x s = y s'

/-- The step only talks, and always has this result. -/
def Yields (x : Step α) (r : Except Ending α) : Prop := x.ComesTo fun s => (r, s)

theorem Yields.eq (h : x.Yields r) (s : Session) : (x s).1 = r := by
  obtain ⟨s', -, heq⟩ := h s
  rw [heq]

theorem bind_of_ok (h : x s = (.ok a, s')) (f : α → Step β) : (x >>= f) s = f a s' := by
  change Step.bind x f s = _
  rw [Step.bind, h]

theorem bind_of_error (h : x s = (.error e, s')) (f : α → Step β) :
    (x >>= f) s = (.error e, s') := by
  change Step.bind x f s = _
  rw [Step.bind, h]

theorem ComesTo.refl (x : Step α) : x.ComesTo x := fun s => ⟨s, .refl s, rfl⟩

theorem Yields.comesTo {y : Step β} (h : x.Yields (.ok a)) (hf : (f a).ComesTo y) :
    (x >>= f).ComesTo y := by
  intro s
  obtain ⟨s₁, hkeeps₁, heq₁⟩ := h s
  obtain ⟨s₂, hkeeps₂, heq₂⟩ := hf s₁
  exact ⟨s₂, hkeeps₁.trans hkeeps₂, (bind_of_ok heq₁ f).trans heq₂⟩

theorem Yields.bind (h : x.Yields (.ok a)) (hf : (f a).Yields q) : (x >>= f).Yields q :=
  h.comesTo hf

theorem Yields.bind_error (h : x.Yields (.error e)) (f : α → Step β) :
    (x >>= f).Yields (.error e) := by
  intro s
  obtain ⟨s', hkeeps, heq⟩ := h s
  exact ⟨s', hkeeps, bind_of_error heq f⟩

theorem yields_pure (a : α) : (pure a : Step α).Yields (.ok a) := fun s => ⟨s, .refl s, rfl⟩

theorem yields_stop (e : Ending) : (stop e : Step α).Yields (.error e) :=
  fun s => ⟨s, .refl s, rfl⟩

theorem yields_modify {g : Session → Session} (h : ∀ s : Session, s.Keeps (g s)) :
    (modify g).Yields (.ok ()) :=
  fun s => ⟨g s, h s, rfl⟩

theorem yields_printLines (ls : List String) : (printLines ls).Yields (.ok ()) :=
  yields_modify fun _ => ⟨rfl, rfl, rfl, rfl, rfl⟩

theorem yields_say (h : WellFormed m) : (say m).Yields (.ok ()) := by
  obtain ⟨text, htext⟩ := h
  rw [say, htext]
  exact yields_printLines _

theorem yields_say_error {f : Fault} (h : plain m = .error f) :
    (say m).Yields (.error (.uncaught (.markup f))) := by
  rw [say, h]
  exact yields_stop _

theorem yields_endPhase (w : World) (phase : Phase) : (endPhase w phase).Yields (.ok ()) := by
  refine yields_modify fun s => ?_
  cases phase <;> exact ⟨rfl, rfl, rfl, rfl, rfl⟩

theorem yields_say_exit (h : WellFormed m) :
    (do say m; stop (.exit 1) : Step α).Yields (.error (.exit 1)) :=
  (yields_say h).bind (yields_stop _)

theorem yields_fail (f : Failure) : (fail f : Step α).Yields (.error (.exit 1)) :=
  yields_say_exit (wellFormed_report f)

theorem yields_failReading (message : String) :
    (failReading message : Step α).Yields (.error (.exit 1)) :=
  yields_say_exit (wellFormed_failReading message)

theorem yields_interruptible (w : World) (m : Moment) :
    (interruptible w m).Yields (if w.interrupt = some m then .error .interrupted else .ok ()) := by
  unfold interruptible
  split
  · exact yields_stop _
  · exact yields_pure ()

theorem yields_interruptible_of_ne {m : Moment} (h : w.interrupt ≠ some m) :
    (interruptible w m).Yields (.ok ()) := by
  simpa [h] using yields_interruptible w m

theorem yields_interruptible_of_eq {m : Moment} (h : w.interrupt = some m) :
    (interruptible w m).Yields (.error .interrupted) := by
  simpa [h] using yields_interruptible w m

end Step

end AnswerSetLearning
