import AnswerSetLearning.Command.Program
import AnswerSetLearning.Proofs.Command.Delivery

namespace AnswerSetLearning

open Markup Step

variable {w : World} {c : Command} {o : ConvertOptions} {input : Option String}
  {settings : Settings} {program answer : String} {call : Call} {f : Uncaught}
  {r : Except Ending Unit} {s s' : Session}

/-! ### The ways through `convert` -/

structure World.Calls (w : World) (o : ConvertOptions) (settings : Settings) (program : String) :
    Prop where
  renders : w.Renders o settings program
  saves : w.Saves o program
  run : o.run = true
  texts : o.HasTexts
  message : WellFormed (runningMessage (o.binary settings))

abbrev World.afterCall (w : World) (o : ConvertOptions) (settings : Settings) (program : String) :
    Session :=
  w.called (o.ilaspCall settings program) (w.place o program (.start w))

/-- How the command ends after it has its program, and what it has done by then. -/
inductive World.Delivers (w : World) (o : ConvertOptions) (settings : Settings)
    (program : String) : Except Ending Unit → Session → Prop
  | unsaved (h : w.CannotSave o program) :
      Delivers w o settings program (.error (.exit 1)) (w.place o program (.start w))
  | misplaced {f : Uncaught} (h : w.Misplaces o program f) :
      Delivers w o settings program (.error (.uncaught f)) (w.place o program (.start w))
  | put (hsaves : w.Saves o program) (hrun : o.run = false) :
      Delivers w o settings program (.ok ()) (w.place o program (.start w))
  | uncalled {f : Uncaught} (hsaves : w.Saves o program) (hrun : o.run = true)
      (hcall : o.CannotCall settings f) :
      Delivers w o settings program (.error (.uncaught f)) (w.place o program (.start w))
  | unanswered {e : Ending} (hcalls : w.Calls o settings program)
      (hnone : w.GivesNone (o.binary settings) e) :
      Delivers w o settings program (.error e) (w.afterCall o settings program)
  | unkept {answer : String} {e : FileFault} (hcalls : w.Calls o settings program)
      (hgives : w.Gives answer)
      (hkept : w.answerFault? o (w.files o program) answer = some e) :
      Delivers w o settings program (.error (.uncaught (.file e)))
        (w.keepAnswer o answer (w.afterCall o settings program))
  | unshown {answer : String} {f : Uncaught} (hcalls : w.Calls o settings program)
      (hgives : w.Gives answer) (hkept : w.answerFault? o (w.files o program) answer = none)
      (hshown : outputFault? w answer = some f) :
      Delivers w o settings program (.error (.uncaught f))
        (w.showAnswer o answer (w.afterCall o settings program))
  | answered {answer : String} (hcalls : w.Calls o settings program) (hgives : w.Gives answer)
      (hkept : w.answerFault? o (w.files o program) answer = none)
      (hshown : outputFault? w answer = none) :
      Delivers w o settings program (.ok ())
        (w.showAnswer o answer (w.afterCall o settings program))

theorem Session.Keeps.called (h : s.Keeps s') : (w.called call s).Keeps (w.called call s') := by
  refine ⟨h.stdout, h.written, rfl, congrArg (· ++ [call]) h.calls, ?_⟩
  simp only [World.called, World.ran, World.recorded]
  split
  · split
    · exact h.memory
    · exact congrArg (Option.or _) h.memory
  · exact h.memory

theorem Session.Keeps.keepAnswer (h : s.Keeps s') :
    (w.keepAnswer o answer s).Keeps (w.keepAnswer o answer s') := by
  unfold World.keepAnswer
  split
  · exact ⟨h.stdout, by rw [h.written], h.temporary, h.calls, h.memory⟩
  · exact h

theorem Session.Keeps.showAnswer (h : s.Keeps s') :
    (w.showAnswer o answer s).Keeps (w.showAnswer o answer s') := by
  have hkept : (w.keepAnswer o answer s).Keeps (w.keepAnswer o answer s') := h.keepAnswer
  obtain ⟨-, hwritten, htemporary, hcalls, hmemory⟩ := hkept
  exact ⟨congrArg (· ++ _) h.stdout, hwritten, htemporary, hcalls, hmemory⟩

theorem exists_convertTask_eq_deliver (h : w.Renders o settings program) :
    ∃ s, (Session.start w).Keeps s ∧
      convertTask w o (.start w) = deliver w o settings program s :=
  convertTask_comesTo h (.start w)

theorem exists_convertTask_eq (h : w.Renders o settings program) (hsaves : w.Saves o program) :
    ∃ s, (w.place o program (.start w)).Keeps s ∧
      convertTask w o (.start w) =
        (if o.run then runIlasp w o settings program else pure ()) s := by
  obtain ⟨s, hkeeps, heq⟩ := exists_convertTask_eq_deliver h
  obtain ⟨s₁, hkeeps₁, hput⟩ := putProgram_of_saves hsaves hkeeps.written
  obtain ⟨s₂, hkeeps₂, hphase⟩ := yields_endPhase w .output s₁
  refine ⟨s₂, hkeeps.place.trans (hkeeps₁.trans hkeeps₂), ?_⟩
  rw [heq, deliver, bind_of_ok hput, bind_of_ok hphase]

def World.ComesToCall (w : World) (o : ConvertOptions) (call : Call) (s : Session) : Prop :=
  convertTask w o (.start w) = runCall w o call s

theorem exists_comesToCall (h : w.Calls o settings program) :
    ∃ s, (w.place o program (.start w)).Keeps s ∧
      w.ComesToCall o (o.ilaspCall settings program) s := by
  obtain ⟨s, hkeeps, heq⟩ := exists_convertTask_eq h.renders h.saves
  obtain ⟨s', hkeeps', hrun⟩ := runIlasp_comesTo w h.texts h.message program s
  refine ⟨s', hkeeps.trans hkeeps', ?_⟩
  rw [World.ComesToCall, heq, if_pos h.run, hrun]

theorem written_of_place (h : (w.place o program (.start w)).Keeps s) :
    s.written = w.files o program :=
  h.written.trans (place_written rfl)

theorem World.Calls.exists_shown (h : w.Calls o settings program) (hgives : w.Gives answer)
    (hkept : w.answerFault? o (w.files o program) answer = none) :
    ∃ s, (w.showAnswer o answer (w.afterCall o settings program)).Keeps s ∧
      convertTask w o (.start w) =
        (match outputFault? w answer with
          | none => .ok ()
          | some f => .error (.uncaught f), s) := by
  obtain ⟨s, hkeeps, hcomes⟩ := exists_comesToCall h
  obtain ⟨s', hkeeps', hend⟩ := runCall_of_gives (o.ilaspCall settings program) hgives
    (written_of_place hkeeps) hkept
  exact ⟨s', hkeeps.called.showAnswer.trans hkeeps', hcomes.trans hend⟩

namespace World.Delivers

theorem exists_convertTask_eq (h : w.Delivers o settings program r s)
    (hrenders : w.Renders o settings program) :
    ∃ s', s.Keeps s' ∧ convertTask w o (.start w) = (r, s') := by
  cases h with
  | unsaved hsaves =>
    obtain ⟨s, hkeeps, heq⟩ := exists_convertTask_eq_deliver hrenders
    obtain ⟨s', hkeeps', hput⟩ := putProgram_of_cannotSave hsaves hkeeps.written
    exact ⟨s', hkeeps.place.trans hkeeps', by rw [heq, deliver, bind_of_error hput]⟩
  | misplaced hmisplaces =>
    obtain ⟨s, hkeeps, heq⟩ := exists_convertTask_eq_deliver hrenders
    obtain ⟨s', hkeeps', hput⟩ := putProgram_of_misplaces hmisplaces hkeeps.written
    exact ⟨s', hkeeps.place.trans hkeeps', by rw [heq, deliver, bind_of_error hput]⟩
  | put hsaves hrun =>
    obtain ⟨s, hkeeps, heq⟩ := AnswerSetLearning.exists_convertTask_eq hrenders hsaves
    exact ⟨s, hkeeps, by rw [heq, hrun]; rfl⟩
  | uncalled hsaves hrun hcall =>
    obtain ⟨s, hkeeps, heq⟩ := AnswerSetLearning.exists_convertTask_eq hrenders hsaves
    obtain ⟨s', hkeeps', hend⟩ := yields_runIlasp_of_cannotCall hcall program s
    exact ⟨s', hkeeps.trans hkeeps', by rw [heq, if_pos hrun, hend]⟩
  | unanswered hcalls hnone =>
    obtain ⟨s, hkeeps, hcomes⟩ := exists_comesToCall hcalls
    obtain ⟨s', hkeeps', hend⟩ := runCall_of_givesNone o (o.ilaspCall settings program) hnone s
    exact ⟨s', hkeeps.called.trans hkeeps', hcomes.trans hend⟩
  | unkept hcalls hgives hkept =>
    obtain ⟨s, hkeeps, hcomes⟩ := exists_comesToCall hcalls
    exact ⟨_, hkeeps.called.keepAnswer,
      hcomes.trans (runCall_of_answerFault hgives (written_of_place hkeeps) hkept)⟩
  | unshown hcalls hgives hkept hshown =>
    obtain ⟨s', hkeeps, hend⟩ := hcalls.exists_shown hgives hkept
    exact ⟨s', hkeeps, by rw [hend, hshown]⟩
  | answered hcalls hgives hkept hshown =>
    obtain ⟨s', hkeeps, hend⟩ := hcalls.exists_shown hgives hkept
    exact ⟨s', hkeeps, by rw [hend, hshown]⟩

theorem not_overflows (h : w.Delivers o settings program r s) :
    ¬ Overflows s.stats.ilaspMemory := by
  have hplace : (w.place o program (.start w)).stats.ilaspMemory = none := place_memory
  have hplaced : ¬ Overflows (w.place o program (.start w)).stats.ilaspMemory :=
    hplace ▸ not_overflows_peak none
  have hkeep (answer : String) (s : Session) :
      (w.keepAnswer o answer s).stats = s.stats := by
    unfold World.keepAnswer
    split <;> rfl
  cases h with
  | unsaved | misplaced | put | uncalled => exact hplaced
  | unanswered => exact not_overflows_called hplace
  | unkept =>
    rw [hkeep]
    exact not_overflows_called hplace
  | unshown | answered =>
    rw [World.showAnswer, hkeep]
    exact not_overflows_called hplace

end World.Delivers

theorem exists_delivers (h : w.Renders o settings program) :
    ∃ r s, w.Delivers o settings program r s := by
  obtain hsaves | ⟨f, hmisplaces⟩ | hunsaved := saves_cases w o program
  rotate_left
  · exact ⟨_, _, .misplaced hmisplaces⟩
  · exact ⟨_, _, .unsaved hunsaved⟩
  cases hrun : o.run with
  | false => exact ⟨_, _, .put hsaves hrun⟩
  | true =>
    by_cases htexts : o.HasTexts
    rotate_left
    · exact ⟨_, _, .uncalled hsaves hrun (.argument htexts)⟩
    cases hmessage : plain (runningMessage (o.binary settings)) with
    | error f => exact ⟨_, _, .uncalled hsaves hrun (.binary htexts hmessage)⟩
    | ok text =>
      have hcalls : w.Calls o settings program := ⟨h, hsaves, hrun, htexts, text, hmessage⟩
      obtain ⟨answer, hgives⟩ | ⟨e, hnone⟩ := gives_cases w (o.binary settings)
      rotate_left
      · exact ⟨_, _, .unanswered hcalls hnone⟩
      cases hkept : w.answerFault? o (w.files o program) answer with
      | some e => exact ⟨_, _, .unkept hcalls hgives hkept⟩
      | none =>
        cases hshown : outputFault? w answer with
        | some f => exact ⟨_, _, .unshown hcalls hgives hkept hshown⟩
        | none => exact ⟨_, _, .answered hcalls hgives hkept hshown⟩

/-! ### Statistics and interrupts -/

theorem showStatistics_of_not_overflows (h : ¬ Overflows s.stats.ilaspMemory) :
    ∃ s', s.Keeps s' ∧ showStatistics w s = (.ok (), s') := by
  obtain ⟨own, hown⟩ := Option.ne_none_iff_exists'.1 (not_overflows_peak w.memory)
  obtain ⟨memory, hmemory⟩ := Option.ne_none_iff_exists'.1 h
  have hrows : s.stats.finish.rows? (w.memory.map PeakMemory.bytes) =
      some (s.stats.finish.rowsWith own memory) := by
    have hfinish : s.stats.finish.ilaspMemory = s.stats.ilaspMemory := rfl
    rw [Statistics.rows?, hfinish, hown, hmemory]
    rfl
  simp only [showStatistics, hrows]
  refine ⟨_, ?_, rfl⟩
  exact ⟨rfl, rfl, rfl, rfl, rfl⟩

def reported : Except Ending Unit → Except Ending Unit
  | .error .interrupted => .error (.exit 130)
  | r => r

theorem catchInterrupt_eq {x before : Step Unit} {s'' : Session} (h : x s = (r, s'))
    (hkeeps : s'.Keeps s'') (hbefore : before s' = (.ok (), s'')) :
    ∃ s₁, s'.Keeps s₁ ∧ catchInterrupt x before s = (reported r, s₁) := by
  unfold catchInterrupt
  rw [h]
  split
  · next heq =>
    cases heq
    rw [bind_of_ok hbefore]
    obtain ⟨s₁, hkeeps₁, hend⟩ := (yields_say wellFormed_interrupted).bind
      (f := fun _ => (stop (.exit 130) : Step Unit)) (yields_stop _) s''
    exact ⟨s₁, hkeeps.trans hkeeps₁, hend⟩
  · next hne =>
    refine ⟨s', .refl s', ?_⟩
    cases r with
    | ok _ => rfl
    | error e =>
      cases e with
      | interrupted => exact absurd rfl (hne s')
      | exit n => rfl
      | uncaught f => rfl

theorem Step.Yields.catchInterrupt {x : Step Unit} (h : x.Yields r) :
    (catchInterrupt x (pure ())).Yields (reported r) := by
  intro s
  obtain ⟨s', hkeeps, heq⟩ := h s
  have hnothing : (pure () : Step Unit) s' = (.ok (), s') := rfl
  obtain ⟨s₁, hkeeps₁, hend⟩ := catchInterrupt_eq heq (.refl s') hnothing
  exact ⟨s₁, hkeeps.trans hkeeps₁, hend⟩

/-- An interrupt of the statistics at the end leaves the command. -/
def World.concluded (w : World) (o : ConvertOptions) (r : Except Ending Unit) :
    Except Ending Unit :=
  if r = .ok () ∧ o.stats = true ∧ w.interrupt = some .reporting then .error .interrupted
  else reported r

theorem concluded_error (w : World) (o : ConvertOptions) (e : Ending) :
    w.concluded o (.error e) = reported (.error e) :=
  if_neg fun h => by cases h.1

theorem concluded_of_quiet (hquiet : w.interrupt ≠ some .reporting) (r : Except Ending Unit) :
    w.concluded o r = reported r :=
  if_neg fun h => hquiet h.2.2

theorem convert_eq_of_ok (h : convertTask w o s = (.ok (), s'))
    (hmemory : ¬ Overflows s'.stats.ilaspMemory) :
    ∃ s'', s'.Keeps s'' ∧ convert w o s = (w.concluded o (.ok ()), s'') := by
  have hcatch : catchInterrupt (convertTask w o) (showStatistics w) s = (.ok (), s') := by
    rw [catchInterrupt, h]
  rw [convert, bind_of_ok hcatch]
  by_cases hstats : o.stats = true
  rotate_left
  · rw [if_neg hstats, World.concluded, if_neg fun h => hstats h.2.1]
    exact ⟨s', .refl s', rfl⟩
  rw [if_pos hstats]
  by_cases hinterrupt : w.interrupt = some .reporting
  · rw [World.concluded, if_pos ⟨rfl, hstats, hinterrupt⟩]
    exact (yields_interruptible_of_eq hinterrupt).bind_error _ s'
  · obtain ⟨s₁, hkeeps₁, hstep⟩ := yields_interruptible_of_ne hinterrupt s'
    obtain ⟨s₂, hkeeps₂, hshow⟩ :=
      showStatistics_of_not_overflows (w := w) (hkeeps₁.memory ▸ hmemory)
    rw [bind_of_ok hstep, hshow, concluded_of_quiet hinterrupt]
    exact ⟨s₂, hkeeps₁.trans hkeeps₂, rfl⟩

theorem convert_eq_of_error {e : Ending} (h : convertTask w o s = (.error e, s'))
    (hmemory : ¬ Overflows s'.stats.ilaspMemory) :
    ∃ s'', s'.Keeps s'' ∧ convert w o s = (w.concluded o (.error e), s'') := by
  obtain ⟨s₁, hkeeps₁, hshow⟩ := showStatistics_of_not_overflows (w := w) hmemory
  obtain ⟨s₂, hkeeps₂, hcatch⟩ := catchInterrupt_eq h hkeeps₁ hshow
  obtain ⟨e', he'⟩ : ∃ e', reported (.error e) = .error e' := by cases e <;> exact ⟨_, rfl⟩
  rw [concluded_error, he']
  rw [he'] at hcatch
  exact ⟨s₂, hkeeps₂, bind_of_error hcatch _⟩

theorem convert_eq (h : convertTask w o s = (r, s')) (hmemory : ¬ Overflows s'.stats.ilaspMemory) :
    ∃ s'', s'.Keeps s'' ∧ convert w o s = (w.concluded o r, s'') := by
  cases r with
  | ok _ => exact convert_eq_of_ok h hmemory
  | error e => exact convert_eq_of_error h hmemory

theorem convert_of_yields (h : (convertTask w o).Yields r) :
    ∃ s, (Session.start w).Keeps s ∧ convert w o (.start w) = (w.concluded o r, s) := by
  obtain ⟨s, hkeeps, heq⟩ := h (.start w)
  have hnone : s.stats.ilaspMemory = none := hkeeps.memory
  obtain ⟨s', hkeeps', hend⟩ := convert_eq heq (hnone ▸ not_overflows_peak none)
  exact ⟨s', hkeeps.trans hkeeps', hend⟩

theorem World.Delivers.exists_convert_eq (h : w.Delivers o settings program r s)
    (hrenders : w.Renders o settings program) :
    ∃ s', s.Keeps s' ∧ convert w o (.start w) = (w.concluded o r, s') := by
  obtain ⟨s₁, hkeeps₁, heq⟩ := h.exists_convertTask_eq hrenders
  obtain ⟨s₂, hkeeps₂, hend⟩ := convert_eq heq (hkeeps₁.memory ▸ h.not_overflows)
  exact ⟨s₂, hkeeps₁.trans hkeeps₂, hend⟩

/-! ### Endings -/

/-- What ends a command where it is not ready for interrupts: it has no task, or it is interrupted
while it reads the task or reports what has come of it. -/
inductive World.Unguarded (w : World) (input : Option String) : Uncaught → Prop
  | lacking {f : Uncaught} (h : w.LacksTask input f) : Unguarded w input f
  | reading (h : w.StopsReading input) : Unguarded w input .interrupt
  | reporting {t : Task} (htask : w.HoldsTask input t) (h : w.interrupt = some .reporting) :
      Unguarded w input .interrupt

/-- The failures that nothing reports, each with what causes it. -/
inductive World.Escapes (w : World) : Command → Uncaught → Prop
  | checking {input : Option String} {f : Uncaught} (h : w.Unguarded input f) :
      Escapes w (.check input) f
  | showing {input : Option String} {f : Uncaught} (h : w.Unguarded input f) :
      Escapes w (.universe input) f
  | making {o : ConvertOptions} {f : Uncaught} (hobstructs : w.Obstructs o f) :
      Escapes w (.convert o) f
  | delivery {o : ConvertOptions} {settings : Settings} {program : String} {f : Uncaught}
      {s : Session} (hrenders : w.Renders o settings program)
      (hdelivers : w.Delivers o settings program (.error (.uncaught f)) s) :
      Escapes w (.convert o) f
  | statistics {o : ConvertOptions} {settings : Settings} {program : String} {s : Session}
      (hrenders : w.Renders o settings program)
      (hdelivers : w.Delivers o settings program (.ok ()) s) (hstats : o.stats = true)
      (hinterrupt : w.interrupt = some .reporting) : Escapes w (.convert o) .interrupt

def World.EndsWell (w : World) (r : Except Ending Unit) : Prop :=
  r = .ok () ∨ r = .error (.exit 1) ∨ w.interrupt ≠ none ∧ r = .error (.exit 130)

/-- The step ends well, unless it is interrupted while it reports. -/
def Step.Concludes (w : World) (x : Step Unit) : Prop :=
  (w.interrupt = some .reporting ∧ x.Yields (.error .interrupted)) ∨
    w.interrupt ≠ some .reporting ∧ ∃ r, w.EndsWell r ∧ x.Yields r

namespace Step.Concludes

variable {x k : Step Unit}

theorem after (hk : k.Yields (.ok ())) (h : x.Concludes w) : (k >>= fun _ => x).Concludes w :=
  h.imp (fun ⟨hlate, hx⟩ => ⟨hlate, hk.bind hx⟩)
    fun ⟨hquiet, r, hr, hx⟩ => ⟨hquiet, r, hr, hk.bind hx⟩

theorem awaitResult (h : x.Yields (.ok ()) ∨ x.Yields (.error (.exit 1))) :
    (awaitResult w >>= fun _ => x).Concludes w := by
  by_cases hcomputing : w.interrupt = some .computing
  · have hcaught := (yields_interruptible_of_eq hcomputing).catchInterrupt
    exact .inr ⟨by simp [hcomputing], _, .inr (.inr ⟨by simp [hcomputing], rfl⟩),
      (hcaught.bind_error _).bind_error _⟩
  have hcaught := (yields_interruptible_of_ne hcomputing).catchInterrupt
  by_cases hlate : w.interrupt = some .reporting
  · exact .inl ⟨hlate, (hcaught.bind (yields_interruptible_of_eq hlate)).bind_error _⟩
  have hawait : (Step.awaitResult w).Yields (.ok ()) :=
    hcaught.bind (yields_interruptible_of_ne hlate)
  obtain h | h := h
  · exact .inr ⟨hlate, _, .inl rfl, hawait.bind h⟩
  · exact .inr ⟨hlate, _, .inr (.inl rfl), hawait.bind h⟩

end Step.Concludes

theorem yields_reportCheck (t : Task) :
    (reportCheck t).Yields (.ok ()) ∨ (reportCheck t).Yields (.error (.exit 1)) := by
  unfold reportCheck
  split
  · exact .inr (yields_say_exit (wellFormed_conflict _))
  · exact .inr (yields_fail _)
  · exact .inl (yields_say (wellFormed_compatible _))

theorem yields_reportUniverse (t : Task) :
    (reportUniverse t).Yields (.ok ()) ∨ (reportUniverse t).Yields (.error (.exit 1)) := by
  unfold reportUniverse
  split
  · exact .inr (yields_fail _)
  · dsimp only
    split
    · exact .inl (yields_say wellFormed_noUniverse)
    · exact .inl ((yields_printLines _).bind (yields_say (wellFormed_universe _ _)))

section Reading

variable {work : Task → Step Unit} (hwork : ∀ t, (work t).Concludes w)

include hwork

theorem unguarded_or_endsWell (input : Option String) :
    (∃ f, w.Unguarded input f) ∨
      ∃ r, w.EndsWell r ∧ (readTask w input >>= work).Yields r := by
  obtain ⟨t, htask⟩ | ⟨f, hlacks⟩ | hstops | hexit := readTask_cases w input
  · obtain ⟨hlate, -⟩ | ⟨-, r, hr, hyields⟩ := hwork t
    · exact .inl ⟨_, .reporting htask hlate⟩
    · exact .inr ⟨r, hr, (yields_readTask htask).bind hyields⟩
  · exact .inl ⟨f, .lacking hlacks⟩
  · exact .inl ⟨_, .reading hstops⟩
  · exact .inr ⟨_, .inr (.inl rfl), hexit.bind_error _⟩

theorem World.Unguarded.exists_yields (h : w.Unguarded input f) :
    ∃ e, (readTask w input >>= work).Yields (.error e) ∧
      Exit.ofResult (.error e) = .uncaught f := by
  cases h with
  | lacking hlacks => exact ⟨_, (yields_readTask_of_lacksTask hlacks).bind_error _, rfl⟩
  | reading hstops => exact ⟨_, (yields_readTask_of_stopsReading hstops).bind_error _, rfl⟩
  | @reporting t htask hlate =>
    obtain ⟨-, hyields⟩ | ⟨hquiet, -⟩ := hwork t
    · exact ⟨_, (yields_readTask htask).bind hyields, rfl⟩
    · exact absurd hlate hquiet

end Reading

theorem check_concludes (w : World) (t : Task) :
    (say ("Wczytano zadanie: " ++ Nat.repr t.background.length ++ " reguł tła, " ++
        Nat.repr t.examples.length ++ " przykładów") >>= fun _ =>
      awaitResult w >>= fun _ => reportCheck t).Concludes w :=
  .after (yields_say (wellFormed_loaded _ _)) (.awaitResult (yields_reportCheck t))

theorem showUniverse_concludes (w : World) (t : Task) :
    (awaitResult w >>= fun _ => reportUniverse t).Concludes w :=
  .awaitResult (yields_reportUniverse t)

theorem World.Delivers.endsWell_or (h : w.Delivers o settings program r s) :
    (∃ f, r = .error (.uncaught f)) ∨ w.EndsWell (reported r) := by
  cases h with
  | unsaved => exact .inr (.inr (.inl rfl))
  | misplaced | uncalled | unkept | unshown => exact .inl ⟨_, rfl⟩
  | put | answered => exact .inr (.inl rfl)
  | @unanswered e hcalls hnone =>
    cases hnone with
    | interrupted hinterrupt => exact .inr (.inr (.inr ⟨by simp [hinterrupt], rfl⟩))
    | undecodable => exact .inl ⟨_, rfl⟩
    | failed => exact .inr (.inr (.inl rfl))

theorem convert_cases (w : World) (o : ConvertOptions) :
    (∃ f, w.Escapes (.convert o) f) ∨ w.EndsWell (convert w o (.start w)).1 := by
  obtain ⟨settings, program, hrenders⟩ | ⟨f, hobstructs⟩ | ⟨hinterrupt, hstop⟩ | hexit :=
    convertTask_cases w o
  rotate_left
  · exact .inl ⟨f, .making hobstructs⟩
  · obtain ⟨s, -, heq⟩ := convert_of_yields hstop
    exact .inr (.inr (.inr ⟨hinterrupt, by rw [heq, concluded_error]; rfl⟩))
  · obtain ⟨s, -, heq⟩ := convert_of_yields hexit
    exact .inr (.inr (.inl (by rw [heq, concluded_error]; rfl)))
  obtain ⟨r, s, hdelivers⟩ := exists_delivers hrenders
  obtain ⟨f, rfl⟩ | hwell := hdelivers.endsWell_or
  · exact .inl ⟨f, .delivery hrenders hdelivers⟩
  by_cases hlate : r = .ok () ∧ o.stats = true ∧ w.interrupt = some .reporting
  · obtain ⟨rfl, hstats, hinterrupt⟩ := hlate
    exact .inl ⟨_, .statistics hrenders hdelivers hstats hinterrupt⟩
  · obtain ⟨s', -, heq⟩ := hdelivers.exists_convert_eq hrenders
    rw [World.concluded, if_neg hlate] at heq
    exact .inr (by rw [heq]; exact hwell)

theorem perform_cases (w : World) (c : Command) :
    (∃ f, w.Escapes c f) ∨ w.EndsWell (c.perform w (.start w)).1 := by
  match c with
  | .convert o => exact convert_cases w o
  | .check input =>
    obtain ⟨f, hunguarded⟩ | ⟨r, hr, hyields⟩ := unguarded_or_endsWell (check_concludes w) input
    · exact .inl ⟨f, .checking hunguarded⟩
    · exact .inr ((hyields.eq _).symm ▸ hr)
  | .universe input =>
    obtain ⟨f, hunguarded⟩ | ⟨r, hr, hyields⟩ :=
      unguarded_or_endsWell (showUniverse_concludes w) input
    · exact .inl ⟨f, .showing hunguarded⟩
    · exact .inr ((hyields.eq _).symm ▸ hr)

theorem runCommand_of_result (h : (c.perform w (.start w)).1 = r) :
    (runCommand w c).1 = .ofResult r := by
  subst h
  rfl

theorem runCommand_convert (h : convert w o (.start w) = (r, s)) :
    runCommand w (.convert o) = (.ofResult r, s) := by
  simp only [runCommand, Command.perform, h]

theorem runCommand_of_escapes (h : w.Escapes c f) : (runCommand w c).1 = .uncaught f := by
  cases h with
  | checking hunguarded =>
    obtain ⟨e, hyields, he⟩ := hunguarded.exists_yields (check_concludes w)
    exact he ▸ runCommand_of_result (hyields.eq _)
  | showing hunguarded =>
    obtain ⟨e, hyields, he⟩ := hunguarded.exists_yields (showUniverse_concludes w)
    exact he ▸ runCommand_of_result (hyields.eq _)
  | making hobstructs =>
    obtain ⟨s, -, heq⟩ := convert_of_yields (yields_convertTask_of_obstructs hobstructs)
    rw [runCommand_convert heq, concluded_error]
    rfl
  | delivery hrenders hdelivers =>
    obtain ⟨s, -, heq⟩ := hdelivers.exists_convert_eq hrenders
    rw [runCommand_convert heq, concluded_error]
    rfl
  | statistics hrenders hdelivers hstats hinterrupt =>
    obtain ⟨s, -, heq⟩ := hdelivers.exists_convert_eq hrenders
    rw [runCommand_convert heq, World.concluded, if_pos ⟨rfl, hstats, hinterrupt⟩]
    rfl

theorem runCommand_of_endsWell (h : w.EndsWell (c.perform w (.start w)).1) :
    (runCommand w c).1 = .code 0 ∨ (runCommand w c).1 = .code 1 ∨
      w.interrupt ≠ none ∧ (runCommand w c).1 = .code 130 := by
  obtain h | h | ⟨hinterrupt, h⟩ := h
  · exact .inl (runCommand_of_result h)
  · exact .inr (.inl (runCommand_of_result h))
  · exact .inr (.inr ⟨hinterrupt, runCommand_of_result h⟩)

def World.empty : World where
  node _ := .missing
  stdin := .bytes []
  env _ := none
  process := .notStarted ""
  engine _ _ := .faulty ""
  sink _ := .ok .enough
  temporarySink := .ok .enough
  stdout := some .enough
  interrupt := none
  memory := none
  clock := .zero

def World.interruptedReading : World := { World.empty with interrupt := some .reading }

theorem prepares_nothing (henv : w.env = fun _ => none) (htemplate : o.template = none) :
    w.Prepares o ⟨"ILASP", [], none⟩ none := by
  have hsettings : readSettings (fun _ => none) = .ok ⟨"ILASP", [], none⟩ := by cbv
  have hpath : o.templatePath ⟨"ILASP", [], none⟩ = none := by
    simp [ConvertOptions.templatePath, htemplate]
  exact ⟨henv ▸ hsettings, by rw [hpath]; exact .none⟩

end AnswerSetLearning
