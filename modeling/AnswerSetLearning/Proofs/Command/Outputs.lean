import AnswerSetLearning.Proofs.Command.Endings
import AnswerSetLearning.Proofs.Template.DefaultProgram

namespace AnswerSetLearning

open Markup Step

variable {w : World} {o : ConvertOptions} {input : Option String} {t t' : Task}
  {path : Option Path} {template template' : Option String} {settings settings' : Settings}
  {program program' answer text : String} {p : Path} {s s' : Session} {exit : Exit}
  {r : Except Ending Unit} {f : Uncaught}

/-! ### One program -/

namespace World

theorem HoldsTask.unique (h : w.HoldsTask input t) (h' : w.HoldsTask input t') : t = t' := by
  obtain ⟨hread, -, htext, htask⟩ := h
  obtain ⟨hread', -, htext', htask'⟩ := h'
  cases hread.symm.trans hread'
  cases htext.symm.trans htext'
  cases htask.symm.trans htask'
  rfl

theorem HoldsTemplate.unique (h : w.HoldsTemplate path template)
    (h' : w.HoldsTemplate path template') : template = template' := by
  cases h with
  | none =>
    cases h'
    rfl
  | file hnode htext =>
    obtain _ | ⟨hnode', htext'⟩ := h'
    cases hnode.symm.trans hnode'
    cases htext.symm.trans htext'
    rfl

theorem Renders.unique (h : w.Renders o settings program) (h' : w.Renders o settings' program') :
    settings = settings' ∧ program = program' := by
  obtain ⟨hbuilds, hrender⟩ := h
  obtain ⟨hbuilds', hrender'⟩ := h'
  cases hbuilds.reads.symm.trans hbuilds'.reads
  cases hbuilds.holds.unique hbuilds'.holds
  obtain ⟨t, htask, hbuilt⟩ := hbuilds.built
  obtain ⟨t', htask', hbuilt'⟩ := hbuilds'.built
  cases htask.unique htask'
  cases hbuilt.symm.trans hbuilt'
  cases hrender.symm.trans hrender'
  exact ⟨rfl, rfl⟩

theorem Saves.not_cannotSave (h : w.Saves o program) : ¬ w.CannotSave o program := by
  rintro ⟨hpath, hwrite⟩
  cases hwrite.symm.trans (h.file _ hpath)

theorem Saves.not_misplaces (h : w.Saves o program) : ¬ w.Misplaces o program f := by
  rintro (⟨hpath, -, hmessage⟩ | ⟨hpath, hstream⟩)
  · obtain ⟨text, htext⟩ := h.message _ hpath
    cases hmessage.symm.trans htext
  · cases hstream.symm.trans (h.stream hpath)

theorem Calls.not_cannotCall (h : w.Calls o settings program) : ¬ o.CannotCall settings f := by
  rintro (htexts | ⟨-, hmessage⟩)
  · exact htexts h.texts
  · obtain ⟨text, htext⟩ := h.message
    cases hmessage.symm.trans htext

end World

/-! ### What is there in the end -/

namespace World

/-- A text that the command comes to output: its program, when it goes nowhere else, or the answer
of ILASP, when it is in its file. -/
inductive Outputs (w : World) (o : ConvertOptions) : String → Prop
  | program {settings : Settings} {program : String} (hrenders : w.Renders o settings program)
      (hpath : o.output.bind Path.ofText? = none) (hrun : o.run = false) : Outputs w o program
  | answer {settings : Settings} {program answer : String} (hcalls : w.Calls o settings program)
      (hgives : w.Gives answer) (hkept : w.answerFault? o (w.files o program) answer = none) :
      Outputs w o answer

def ShowsPart (w : World) (text : String) : Prop :=
  ∃ size e, w.stdout = some (.upTo size e) ∧ 0 < size ∧ size < text.length

/-- The program and the answer go to the files that can be opened, as far as there is room in them,
and nothing else does. -/
inductive Files (w : World) (o : ConvertOptions) : Path → String → Prop
  | program {settings : Settings} {program : String} {p : Path} {room : Room}
      (hrenders : w.Renders o settings program) (hpath : o.output.bind Path.ofText? = some p)
      (hopened : w.opened [] p = .ok room) : Files w o p (room.taken program)
  | answer {settings : Settings} {program answer : String} {p : Path} {room : Room}
      (hcalls : w.Calls o settings program) (hgives : w.Gives answer)
      (hpath : o.ilaspOut.bind Path.ofText? = some p)
      (hopened : w.opened (w.files o program) p = .ok room) : Files w o p (room.taken answer)

/-- The temporary file is there when the command fails before it calls ILASP: it is not called, or
there is no room for the whole program. -/
inductive LeavesTemporary (w : World) (o : ConvertOptions) : String → Prop
  | uncalled {settings : Settings} {program : String} {f : Uncaught}
      (hrenders : w.Renders o settings program) (hpath : o.output.bind Path.ofText? = none)
      (hrun : o.run = true) (hsaves : w.Saves o program) (hcall : o.CannotCall settings f) :
      LeavesTemporary w o program
  | cut {settings : Settings} {program : String} {room : Room}
      (hrenders : w.Renders o settings program) (hpath : o.output.bind Path.ofText? = none)
      (hrun : o.run = true) (hsink : w.temporarySink = .ok room)
      (hfault : room.fault? program ≠ none) : LeavesTemporary w o (room.taken program)

end World

def Session.programText? (s : Session) : ProgramFile → Option String
  | .named p => (s.written.find? (·.1 = p)).map (·.2)
  | .temporary => s.temporary

theorem Session.Keeps.programText? (h : s.Keeps s') (file : ProgramFile) :
    s'.programText? file = s.programText? file := by
  cases file with
  | named p => rw [Session.programText?, Session.programText?, h.written]
  | temporary => exact h.temporary

/-! ### The program in its place -/

theorem place_calls : (w.place o program s).calls = s.calls := by
  unfold World.place
  split
  · rfl
  · split <;> rfl

theorem place_stdout (h : o.run = true ∨ o.output.bind Path.ofText? ≠ none) :
    (w.place o program s).stdout = s.stdout := by
  unfold World.place
  split
  · rfl
  · next hpath =>
    have hrun : o.run = true := h.resolve_right (by simp [hpath])
    rw [hrun, if_pos rfl]

theorem place_stdout_start (hrun : o.run = false) (hpath : o.output.bind Path.ofText? = none) :
    (w.place o program (.start w)).stdout = (w.stdout.map (·.taken program)).getD "" := by
  unfold World.place
  rw [hpath, hrun]
  exact String.empty_append

theorem place_temporary_eq_some_iff :
    (w.place o program (.start w)).temporary = some text ↔
      o.output.bind Path.ofText? = none ∧ o.run = true ∧
        ∃ room, w.temporarySink = .ok room ∧ room.taken program = text := by
  unfold World.place
  cases o.output.bind Path.ofText? with
  | some p => simp [Session.start]
  | none =>
    cases o.run with
    | false => simp [Session.start]
    | true => cases w.temporarySink <;> simp [Except.toOption]

theorem opened_of_writeFault?_eq_none {written : List (Path × String)}
    (h : w.writeFault? written p text = none) :
    ∃ room, w.opened written p = .ok room ∧ room.taken text = text := by
  unfold World.writeFault? at h
  cases hopened : w.opened written p with
  | error problem => simp [hopened] at h
  | ok room =>
    rw [hopened] at h
    exact ⟨room, rfl, Room.taken_of_fault?_eq_none (Option.map_eq_none_iff.1 h)⟩

theorem programText?_place (hsaves : w.Saves o program) (hrun : o.run = true) :
    (w.place o program (.start w)).programText? (programFile o) = some program := by
  cases hpath : o.output.bind Path.ofText? with
  | some p =>
    obtain ⟨room, hopened, htaken⟩ := opened_of_writeFault?_eq_none (hsaves.file p hpath)
    have hfile : programFile o = .named p := by rw [programFile, hpath]
    have hplace : (w.place o program (.start w)).written = [(p, program)] := by
      rw [place_written rfl, World.files, hpath]
      simp [kept_of_ok hopened, htaken]
    simp [hfile, Session.programText?, hplace]
  | none =>
    have hfile : programFile o = .temporary := by rw [programFile, hpath]
    have hstream := hsaves.stream hpath
    rw [World.streamFault?, if_pos hrun, temporaryFault?] at hstream
    rw [hfile, Session.programText?, place_temporary_eq_some_iff]
    cases hsink : w.temporarySink with
    | error e => simp [hsink] at hstream
    | ok room =>
      rw [hsink] at hstream
      exact ⟨hpath, hrun, room, rfl,
        Room.taken_of_fault?_eq_none (Option.map_eq_none_iff.1 hstream)⟩

theorem mem_files_iff : (p, text) ∈ w.files o program ↔
    o.output.bind Path.ofText? = some p ∧ ∃ room, w.opened [] p = .ok room ∧
      text = room.taken program := by
  unfold World.files
  cases o.output.bind Path.ofText? with
  | none => simp
  | some q =>
    cases hopened : w.opened [] q with
    | error problem =>
      simp only [kept_of_error hopened, List.not_mem_nil, false_iff]
      rintro ⟨⟨⟩, room, hroom, -⟩
      cases hopened.symm.trans hroom
    | ok room =>
      simp only [kept_of_ok hopened, List.filter_nil, List.nil_append, List.mem_singleton,
        Prod.mk.injEq, Option.some.injEq]
      constructor
      · rintro ⟨rfl, rfl⟩
        exact ⟨rfl, room, hopened, rfl⟩
      · rintro ⟨rfl, room', hroom', rfl⟩
        cases hopened.symm.trans hroom'
        exact ⟨rfl, rfl⟩

/-! ### The answer in its places -/

theorem keepAnswer_calls : (w.keepAnswer o answer s).calls = s.calls := by
  unfold World.keepAnswer
  split <;> rfl

theorem keepAnswer_temporary : (w.keepAnswer o answer s).temporary = s.temporary := by
  unfold World.keepAnswer
  split <;> rfl

theorem keepAnswer_stdout : (w.keepAnswer o answer s).stdout = s.stdout := by
  unfold World.keepAnswer
  split <;> rfl

theorem mem_keepAnswer_written
    (hpath : ∀ q ∈ o.ilaspOut.bind Path.ofText?, ∀ text', (q, text') ∉ s.written) :
    (p, text) ∈ (w.keepAnswer o answer s).written ↔
      (p, text) ∈ s.written ∨ o.ilaspOut.bind Path.ofText? = some p ∧
        ∃ room, w.opened s.written p = .ok room ∧ text = room.taken answer := by
  unfold World.keepAnswer
  cases hout : o.ilaspOut.bind Path.ofText? with
  | none => simp
  | some q =>
    have hne (hmem : (p, text) ∈ s.written) : p ≠ q := by
      rintro rfl
      exact hpath p hout text hmem
    cases hopened : w.opened s.written q with
    | error problem =>
      simp only [kept_of_error hopened]
      refine (or_iff_left ?_).symm
      rintro ⟨⟨⟩, room, hroom, -⟩
      cases hopened.symm.trans hroom
    | ok room =>
      simp only [kept_of_ok hopened, List.mem_append, List.mem_filter, List.mem_singleton,
        decide_eq_true_eq, Prod.mk.injEq, Option.some.injEq]
      grind

theorem afterCall_written : (w.afterCall o settings program).written = w.files o program :=
  place_written rfl

theorem afterCall_stdout (hrun : o.run = true) :
    (w.afterCall o settings program).stdout = "" :=
  place_stdout (.inl hrun)

theorem afterCall_calls :
    (w.afterCall o settings program).calls = [o.ilaspCall settings program] := by
  have hnone : (w.place o program (.start w)).calls = [] := place_calls
  simp only [World.afterCall, World.called, World.ran, hnone, List.nil_append]

theorem showAnswer_afterCall_stdout (hrun : o.run = true) :
    (w.showAnswer o answer (w.afterCall o settings program)).stdout =
      (w.stdout.map (·.taken answer)).getD "" := by
  rw [World.showAnswer, afterCall_stdout hrun, String.empty_append]

theorem showsPart_iff : w.ShowsPart text ↔
    outputFault? w text ≠ none ∧ (w.stdout.map (·.taken text)).getD "" ≠ "" := by
  unfold World.ShowsPart outputFault?
  cases w.stdout with
  | none => simp
  | some room =>
    cases room with
    | enough => simp [Room.fault?]
    | upTo size e =>
      have hempty : String.ofList (text.toList.take size) = "" ↔ size = 0 ∨ text.toList = [] := by
        rw [← String.toList_inj, String.toList_ofList]
        simp
      simp only [Option.some.injEq, Room.upTo.injEq, Room.fault?, Room.taken, Option.map_some,
        Option.getD_some, ne_eq, hempty]
      constructor
      · rintro ⟨_, _, ⟨rfl, rfl⟩, hsize, hshort⟩
        refine ⟨by simp [hshort], ?_⟩
        rw [← String.length_toList] at hshort
        rintro (rfl | hnil)
        · exact absurd hsize (Nat.lt_irrefl 0)
        · simp [hnil] at hshort
      · rintro ⟨hfault, hne⟩
        refine ⟨size, e, ⟨rfl, rfl⟩, Nat.pos_of_ne_zero fun h => hne (.inl h), ?_⟩
        by_contra hshort
        simp [hshort] at hfault

namespace World

theorem not_outputs (hrenders : w.Renders o settings program)
    (hplace : o.run = true ∨ o.output.bind Path.ofText? ≠ none)
    (hanswer : ∀ answer, w.Calls o settings program → w.Gives answer →
      w.answerFault? o (w.files o program) answer ≠ none) : ¬ w.Outputs o text := by
  rintro (⟨-, hpath, hrun⟩ | ⟨hcalls, hgives, hkept⟩)
  · obtain hrun' | hpath' := hplace
    · cases hrun.symm.trans hrun'
    · exact hpath' hpath
  · obtain ⟨rfl, rfl⟩ := hcalls.renders.unique hrenders
    exact hanswer _ hcalls hgives hkept

theorem Outputs.eq_program (h : w.Outputs o text) (hrenders : w.Renders o settings program)
    (hrun : o.run = false) : text = program := by
  obtain ⟨hrenders', -, -⟩ | ⟨hcalls⟩ := h
  · exact (hrenders'.unique hrenders).2
  · cases hrun.symm.trans hcalls.run

theorem Outputs.eq_answer (h : w.Outputs o text) (hgives : w.Gives answer) (hrun : o.run = true) :
    text = answer := by
  obtain ⟨-, -, hrun'⟩ | ⟨-, hgives', -⟩ := h
  · cases hrun'.symm.trans hrun
  · exact hgives'.unique hgives

/-- There is this text to be output and no other, what there is room for is the output, and the
command fails exactly when there is not room for all of it. -/
structure Shows (w : World) (o : ConvertOptions) (text : String) (exit : Exit) (s : Session) :
    Prop where
  outputs : w.Outputs o text
  unique : ∀ text', w.Outputs o text' → text' = text
  stdout : s.stdout = (w.stdout.map (·.taken text)).getD ""
  exit : exit ≠ .code 0 ↔ outputFault? w text ≠ none

theorem mem_files_iff_files (hrenders : w.Renders o settings program)
    (hnone : ∀ answer, w.Calls o settings program → ¬ w.Gives answer) :
    (p, text) ∈ w.files o program ↔ w.Files o p text := by
  rw [mem_files_iff]
  constructor
  · rintro ⟨hpath, room, hopened, rfl⟩
    exact .program hrenders hpath hopened
  · rintro (⟨hrenders', hpath, hopened⟩ | ⟨hcalls, hgives⟩)
    · obtain ⟨-, rfl⟩ := hrenders'.unique hrenders
      exact ⟨hpath, _, hopened, rfl⟩
    · obtain ⟨rfl, rfl⟩ := hcalls.renders.unique hrenders
      exact absurd hgives (hnone _ hcalls)

theorem mem_keepAnswer_iff_files (hcalls : w.Calls o settings program) (hgives : w.Gives answer)
    (hpaths : ∀ p ∈ o.output.bind Path.ofText?, o.ilaspOut.bind Path.ofText? ≠ some p) :
    (p, text) ∈ (w.keepAnswer o answer (w.afterCall o settings program)).written ↔
      w.Files o p text := by
  rw [mem_keepAnswer_written, afterCall_written, mem_files_iff]
  · constructor
    · rintro (⟨hpath, room, hopened, rfl⟩ | ⟨hpath, room, hopened, rfl⟩)
      · exact .program hcalls.renders hpath hopened
      · exact .answer hcalls hgives hpath hopened
    · rintro (⟨hrenders, hpath, hopened⟩ | ⟨hcalls', hgives', hpath, hopened⟩)
      · obtain ⟨-, rfl⟩ := hrenders.unique hcalls.renders
        exact .inl ⟨hpath, _, hopened, rfl⟩
      · obtain ⟨rfl, rfl⟩ := hcalls'.renders.unique hcalls.renders
        obtain rfl := hgives'.unique hgives
        exact .inr ⟨hpath, _, hopened, rfl⟩
  · intro q hq text' hmem
    rw [afterCall_written, mem_files_iff] at hmem
    exact hpaths q hmem.1 hq

theorem Saves.temporaryFault? (h : w.Saves o program)
    (hpath : o.output.bind Path.ofText? = none) (hrun : o.run = true) :
    temporaryFault? w program = none := by
  simpa [streamFault?, hrun] using h.stream hpath

theorem Saves.not_cut {room : Room} (h : w.Saves o program)
    (hpath : o.output.bind Path.ofText? = none) (hrun : o.run = true)
    (hsink : w.temporarySink = .ok room) : room.fault? program = none := by
  simpa [AnswerSetLearning.Step.temporaryFault?, hsink] using h.temporaryFault? hpath hrun

theorem Calls.not_leavesTemporary (h : w.Calls o settings program) :
    ¬ w.LeavesTemporary o text := by
  rintro (⟨hrenders, -, -, -, hcall⟩ | ⟨hrenders, hpath, hrun, hsink, hfault⟩)
  · obtain ⟨rfl, rfl⟩ := hrenders.unique h.renders
    exact h.not_cannotCall hcall
  · obtain ⟨rfl, rfl⟩ := hrenders.unique h.renders
    exact hfault (h.saves.not_cut hpath hrun hsink)

namespace Delivers

variable (h : w.Delivers o settings program r s)

include h

theorem shows_or (hrenders : w.Renders o settings program) :
    (∃ text, w.Shows o text (.ofResult (reported r)) s) ∨
      (∀ text, ¬ w.Outputs o text) ∧ s.stdout = "" := by
  -- With `--run` or a file for it, the program does not come to the output.
  have hplaced (hplace : o.run = true ∨ o.output.bind Path.ofText? ≠ none) :
      (w.place o program (.start w)).stdout = "" := place_stdout hplace
  have hprogram (hrun : o.run = false) (hpath : o.output.bind Path.ofText? = none)
      (hexit : Exit.ofResult (reported r) ≠ .code 0 ↔ outputFault? w program ≠ none) :
      ∃ text, w.Shows o text (.ofResult (reported r)) (w.place o program (.start w)) :=
    ⟨program, .program hrenders hpath hrun, fun _ h => h.eq_program hrenders hrun,
      place_stdout_start hrun hpath, hexit⟩
  have hanswer {answer : String} (hcalls : w.Calls o settings program) (hgives : w.Gives answer)
      (hkept : w.answerFault? o (w.files o program) answer = none)
      (hexit : Exit.ofResult (reported r) ≠ .code 0 ↔ outputFault? w answer ≠ none) :
      ∃ text, w.Shows o text (.ofResult (reported r))
        (w.showAnswer o answer (w.afterCall o settings program)) :=
    ⟨answer, .answer hcalls hgives hkept, fun _ h => h.eq_answer hgives hcalls.run,
      showAnswer_afterCall_stdout hcalls.run, hexit⟩
  cases h with
  | unsaved hsaves =>
    obtain ⟨hpath, -⟩ := id hsaves
    exact .inr ⟨fun text => not_outputs hrenders (.inr (by simp [hpath]))
      fun _ hcalls => absurd hsaves hcalls.saves.not_cannotSave, hplaced (.inr (by simp [hpath]))⟩
  | misplaced hmisplaces =>
    have hnone (hplace : o.run = true ∨ o.output.bind Path.ofText? ≠ none) (text : String) :
        ¬ w.Outputs o text :=
      not_outputs hrenders hplace fun _ hcalls => absurd hmisplaces hcalls.saves.not_misplaces
    obtain ⟨hpath, -⟩ | ⟨hpath, hstream⟩ := id hmisplaces
    · exact .inr ⟨hnone (.inr (by simp [hpath])), hplaced (.inr (by simp [hpath]))⟩
    · cases hrun : o.run with
      | true => exact .inr ⟨hnone (.inl hrun), hplaced (.inl hrun)⟩
      | false =>
        rw [streamFault?, hrun] at hstream
        refine .inl (hprogram hrun hpath ?_)
        simp [reported, Exit.ofResult, show outputFault? w program = _ from hstream]
  | put hsaves hrun =>
    cases hpath : o.output.bind Path.ofText? with
    | some p =>
      exact .inr ⟨fun text => not_outputs hrenders (.inr (by simp [hpath]))
        fun _ hcalls => absurd (hrun.symm.trans hcalls.run) (by simp),
        hplaced (.inr (by simp [hpath]))⟩
    | none =>
      have hstream := hsaves.stream hpath
      rw [streamFault?, hrun] at hstream
      refine .inl (hprogram hrun hpath ?_)
      simp [reported, Exit.ofResult, show outputFault? w program = _ from hstream]
  | uncalled hsaves hrun hcall =>
    exact .inr ⟨fun text => not_outputs hrenders (.inl hrun)
      fun _ hcalls => absurd hcall hcalls.not_cannotCall, hplaced (.inl hrun)⟩
  | unanswered hcalls hnone =>
    exact .inr ⟨fun text => not_outputs hrenders (.inl hcalls.run)
      fun _ _ hgives => absurd hnone hgives.not_givesNone, afterCall_stdout hcalls.run⟩
  | unkept hcalls hgives hkept =>
    refine .inr ⟨fun text => not_outputs hrenders (.inl hcalls.run) fun answer _ hgives' => ?_, ?_⟩
    · rw [hgives'.unique hgives, hkept]
      simp
    · rw [keepAnswer_stdout, afterCall_stdout hcalls.run]
  | unshown hcalls hgives hkept hshown =>
    exact .inl (hanswer hcalls hgives hkept (by simp [reported, Exit.ofResult, hshown]))
  | answered hcalls hgives hkept hshown =>
    exact .inl (hanswer hcalls hgives hkept (by simp [reported, Exit.ofResult, hshown]))

theorem files_iff (hrenders : w.Renders o settings program)
    (hpaths : ∀ p ∈ o.output.bind Path.ofText?, o.ilaspOut.bind Path.ofText? ≠ some p) :
    (p, text) ∈ s.written ↔ w.Files o p text := by
  cases h with
  | unsaved hsaves =>
    rw [place_written rfl]
    exact mem_files_iff_files hrenders fun _ hcalls => absurd hsaves hcalls.saves.not_cannotSave
  | misplaced hmisplaces =>
    rw [place_written rfl]
    exact mem_files_iff_files hrenders fun _ hcalls => absurd hmisplaces hcalls.saves.not_misplaces
  | put _ hrun =>
    rw [place_written rfl]
    exact mem_files_iff_files hrenders fun _ hcalls =>
      absurd (hrun.symm.trans hcalls.run) (by simp)
  | uncalled _ _ hcall =>
    rw [place_written rfl]
    exact mem_files_iff_files hrenders fun _ hcalls => absurd hcall hcalls.not_cannotCall
  | unanswered _ hnone =>
    rw [afterCall_written]
    exact mem_files_iff_files hrenders fun _ _ hgives => hgives.not_givesNone hnone
  | unkept hcalls hgives => exact mem_keepAnswer_iff_files hcalls hgives hpaths
  | unshown hcalls hgives => exact mem_keepAnswer_iff_files hcalls hgives hpaths
  | answered hcalls hgives => exact mem_keepAnswer_iff_files hcalls hgives hpaths

theorem leavesTemporary_iff (hrenders : w.Renders o settings program) :
    s.temporary = some text ↔ w.LeavesTemporary o text := by
  have hnone (hplace : o.run = false ∨ o.output.bind Path.ofText? ≠ none) :
      (w.place o program (.start w)).temporary = some text ↔ w.LeavesTemporary o text := by
    rw [place_temporary_eq_some_iff]
    constructor
    · rintro ⟨hpath, hrun, -⟩
      simp [hpath, hrun] at hplace
    · rintro (⟨-, hpath, hrun⟩ | ⟨-, hpath, hrun⟩) <;> simp [hpath, hrun] at hplace
  -- Once ILASP is called, the file is removed on every way out.
  have hcalled (hcalls : w.Calls o settings program) {temporary : Option String}
      (htemporary : temporary = none) : temporary = some text ↔ w.LeavesTemporary o text := by
    subst htemporary
    simpa using hcalls.not_leavesTemporary
  cases h with
  | unsaved hsaves =>
    obtain ⟨hpath, -⟩ := hsaves
    exact hnone (.inr (by simp [hpath]))
  | put _ hrun => exact hnone (.inl hrun)
  | misplaced hmisplaces =>
    obtain ⟨hpath, -⟩ | ⟨hpath, hstream⟩ := id hmisplaces
    · exact hnone (.inr (by simp [hpath]))
    cases hrun : o.run with
    | false => exact hnone (.inl hrun)
    | true =>
      rw [place_temporary_eq_some_iff]
      constructor
      · rintro ⟨-, -, room, hsink, rfl⟩
        refine .cut hrenders hpath hrun hsink ?_
        rw [streamFault?, if_pos hrun, temporaryFault?, hsink] at hstream
        intro hfault
        simp [hfault] at hstream
      · rintro (⟨hrenders', -, -, hsaves, -⟩ | ⟨hrenders', -, -, hsink, -⟩)
        · obtain ⟨-, rfl⟩ := hrenders'.unique hrenders
          exact absurd hmisplaces hsaves.not_misplaces
        · obtain ⟨-, rfl⟩ := hrenders'.unique hrenders
          exact ⟨hpath, hrun, _, hsink, rfl⟩
  | uncalled hsaves hrun hcall =>
    rw [place_temporary_eq_some_iff]
    constructor
    · rintro ⟨hpath, -, room, hsink, rfl⟩
      rw [Room.taken_of_fault?_eq_none (hsaves.not_cut hpath hrun hsink)]
      exact .uncalled hrenders hpath hrun hsaves hcall
    · rintro (⟨hrenders', hpath, -, -, -⟩ | ⟨hrenders', hpath, -, hsink, hfault⟩)
      · obtain ⟨-, rfl⟩ := hrenders'.unique hrenders
        have hfile : programFile o = .temporary := by rw [programFile, hpath]
        have hprogram := programText?_place hsaves hrun
        rw [hfile, Session.programText?, place_temporary_eq_some_iff] at hprogram
        exact hprogram
      · obtain ⟨-, rfl⟩ := hrenders'.unique hrenders
        exact absurd (hsaves.not_cut hpath hrun hsink) hfault
  | unanswered hcalls => exact hcalled hcalls rfl
  | unkept hcalls => exact hcalled hcalls keepAnswer_temporary
  | unshown hcalls => exact hcalled hcalls keepAnswer_temporary
  | answered hcalls => exact hcalled hcalls keepAnswer_temporary

theorem calls_or (hrenders : w.Renders o settings program) :
    s.calls = [] ∧ (∀ settings' program', ¬ w.Calls o settings' program') ∨
      w.Calls o settings program ∧ s.calls = [o.ilaspCall settings program] := by
  have hnone (hcalls : ¬ w.Calls o settings program) :
      (w.place o program (.start w)).calls = [] ∧
        ∀ settings' program', ¬ w.Calls o settings' program' := by
    refine ⟨place_calls, fun settings' program' hcalls' => ?_⟩
    obtain ⟨rfl, rfl⟩ := hcalls'.renders.unique hrenders
    exact hcalls hcalls'
  cases h with
  | unsaved hsaves => exact .inl (hnone fun hcalls => hcalls.saves.not_cannotSave hsaves)
  | misplaced hmisplaces => exact .inl (hnone fun hcalls => hcalls.saves.not_misplaces hmisplaces)
  | put _ hrun => exact .inl (hnone fun hcalls => by simpa [hrun] using hcalls.run)
  | uncalled _ _ hcall => exact .inl (hnone fun hcalls => hcalls.not_cannotCall hcall)
  | unanswered hcalls => exact .inr ⟨hcalls, afterCall_calls⟩
  | unkept hcalls => exact .inr ⟨hcalls, keepAnswer_calls.trans afterCall_calls⟩
  | unshown hcalls => exact .inr ⟨hcalls, keepAnswer_calls.trans afterCall_calls⟩
  | answered hcalls => exact .inr ⟨hcalls, keepAnswer_calls.trans afterCall_calls⟩

end Delivers

/-- How the command ends, and what it has done by then. -/
inductive Converts (w : World) (o : ConvertOptions) : Exit → Session → Prop
  | unmade {exit : Exit} (h : ∀ settings program, ¬ w.Renders o settings program) :
      Converts w o exit (.start w)
  | delivered {settings : Settings} {program : String} {r : Except Ending Unit} {s : Session}
      (hrenders : w.Renders o settings program) (hdelivers : w.Delivers o settings program r s) :
      Converts w o (.ofResult (w.concluded o r)) s

theorem exists_converts (w : World) (o : ConvertOptions) :
    ∃ exit s s', w.Converts o exit s ∧ s.Keeps s' ∧ runCommand w (.convert o) = (exit, s') := by
  by_cases hrenders : ∃ settings program, w.Renders o settings program
  · obtain ⟨settings, program, hrenders⟩ := hrenders
    obtain ⟨r, s, hdelivers⟩ := exists_delivers hrenders
    obtain ⟨s', hkeeps, heq⟩ := hdelivers.exists_convert_eq hrenders
    exact ⟨_, s, s', .delivered hrenders hdelivers, hkeeps, runCommand_convert heq⟩
  have hunmade {r : Except Ending Unit} (h : (convertTask w o).Yields r) :
      ∃ exit s s', w.Converts o exit s ∧ s.Keeps s' ∧
        runCommand w (.convert o) = (exit, s') := by
    obtain ⟨s', hkeeps, heq⟩ := convert_of_yields h
    exact ⟨_, _, s', .unmade fun settings program h => hrenders ⟨_, _, h⟩, hkeeps,
      runCommand_convert heq⟩
  obtain h | ⟨f, hobstructs⟩ | ⟨-, hstop⟩ | hexit := convertTask_cases w o
  · exact absurd h hrenders
  · exact hunmade (yields_convertTask_of_obstructs hobstructs)
  · exact hunmade hstop
  · exact hunmade hexit

namespace Converts

variable (h : w.Converts o exit s)

include h

theorem showsPart_iff (hquiet : w.interrupt ≠ some .reporting) :
    exit ≠ .code 0 ∧ s.stdout ≠ "" ↔ ∃ text, w.Outputs o text ∧ w.ShowsPart text := by
  have hnone (houtputs : ∀ text, ¬ w.Outputs o text) (hstdout : s.stdout = "") :
      exit ≠ .code 0 ∧ s.stdout ≠ "" ↔ ∃ text, w.Outputs o text ∧ w.ShowsPart text :=
    ⟨fun h => absurd hstdout h.2, fun ⟨text, h, _⟩ => absurd h (houtputs text)⟩
  cases h with
  | unmade hunmade =>
    refine hnone (fun text h => ?_) rfl
    obtain ⟨hrenders⟩ | ⟨hcalls⟩ := h
    · exact hunmade _ _ hrenders
    · exact hunmade _ _ hcalls.renders
  | delivered hrenders hdelivers =>
    obtain ⟨text, hshows⟩ | ⟨houtputs, hstdout⟩ := hdelivers.shows_or hrenders
    · rw [concluded_of_quiet hquiet, hshows.exit, hshows.stdout, ← AnswerSetLearning.showsPart_iff]
      exact ⟨fun h => ⟨text, hshows.outputs, h⟩,
        fun ⟨text', houtputs, h⟩ => hshows.unique text' houtputs ▸ h⟩
    · exact hnone houtputs hstdout

theorem files_iff
    (hpaths : ∀ p ∈ o.output.bind Path.ofText?, o.ilaspOut.bind Path.ofText? ≠ some p) :
    (p, text) ∈ s.written ↔ w.Files o p text := by
  cases h with
  | unmade hunmade =>
    constructor
    · rintro ⟨⟩
    · rintro (⟨hrenders⟩ | ⟨hcalls⟩)
      · exact absurd hrenders (hunmade _ _)
      · exact absurd hcalls.renders (hunmade _ _)
  | delivered hrenders hdelivers => exact hdelivers.files_iff hrenders hpaths

theorem leavesTemporary_iff : s.temporary = some text ↔ w.LeavesTemporary o text := by
  cases h with
  | unmade hunmade =>
    constructor
    · rintro ⟨⟩
    · rintro (⟨hrenders⟩ | ⟨hrenders⟩) <;> exact absurd hrenders (hunmade _ _)
  | delivered hrenders hdelivers => exact hdelivers.leavesTemporary_iff hrenders

theorem calls_or :
    s.calls = [] ∧ (∀ settings program, ¬ w.Calls o settings program) ∨
      ∃ settings program, w.Calls o settings program ∧
        s.calls = [o.ilaspCall settings program] := by
  cases h with
  | unmade hunmade => exact .inl ⟨rfl, fun _ _ hcalls => hunmade _ _ hcalls.renders⟩
  | delivered hrenders hdelivers =>
    exact (hdelivers.calls_or hrenders).imp_right fun h => ⟨_, _, h⟩

end Converts

end World

/-! ### Tasks without rules and examples -/

def LearningTask.empty : LearningTask where
  positives := []
  negatives := []
  space := { positiveBody := [], generalBody := [], head := [] }
  background := []

theorem renders_nothing (hstdin : w.stdin = .bytes []) (henv : w.env = fun _ => none)
    (hquiet : w.interrupt = none) (hinput : o.input = none) (htemplate : o.template = none) :
    w.Renders o ⟨"ILASP", [], none⟩ (unlines LearningTask.empty.lines) := by
  have hread : w.reads? o.input = some (.ok []) := by
    rw [World.reads?, hinput]
    simp only [Option.bind_none, hstdin]
  have htext : decodeText [] = .ok "" := by cbv
  have htask : parseTask "" = .ok .empty := by cbv
  have hbuilt : (buildTask .empty).result = .ok LearningTask.empty := by cbv
  have hrender : rendering w .empty none = .program (unlines LearningTask.empty.lines) := by
    rw [rendering, Template.render_default]
  exact .intro ⟨prepares_nothing henv htemplate, by simp [hquiet], .empty,
    .intro hread (by simp [hquiet]) htext htask, hbuilt⟩ hrender

def World.answering : World :=
  { World.empty with process := .finished 0 "ok" "" 0 none }

def separateFiles : ConvertOptions :=
  { ConvertOptions.none with run := true, output := some "p.las", ilaspOut := some "a.txt" }

def brokenName : ConvertOptions := { ConvertOptions.none with run := true, ilasp := some "a[/]" }

theorem wellFormed_running : WellFormed (runningMessage "ILASP") :=
  IsBalanced.wellFormed (.intro ["dim"] (by decide) ⟨rfl, rfl⟩)

theorem plain_brokenMessage : plain (runningMessage "a[/]") = .error ⟨"/dim"⟩ :=
  plain_eq_error_iff.2 rfl

/-! ### Outputs -/

end AnswerSetLearning
