import AnswerSetLearning.Proofs.Induction.Candidates
import AnswerSetLearning.Proofs.Reader.Spelling

namespace AnswerSetLearning

/-- The sets of the example are normal and all their numbers are given out. -/
structure Example.RegisteredIn (e : Example) (r : Registry) : Prop extends e.Normal where
  registers_input : r.Registers e.input
  registers_outputs : ∀ s ∈ e.outputs, r.Registers s

theorem Example.RegisteredIn.mono {e : Example} {r r' : Registry} (h : e.RegisteredIn r)
    (hr : r.Extends r') : e.RegisteredIn r' where
  toNormal := h.toNormal
  registers_input := h.registers_input.mono hr
  registers_outputs s hs := (h.registers_outputs s hs).mono hr

namespace Registry

theorem registerScenario_extends (r : Registry) (s : Scenario) :
    r.Extends (r.registerScenario s).2 :=
  (registerSets_extends r s.answers).trans (registerSet_extends _ s.facts)

theorem WellFormed.registerScenario {r : Registry} (hr : r.WellFormed) (s : Scenario) :
    (r.registerScenario s).2.WellFormed := (hr.registerSets s.answers).registerSet s.facts

theorem registeredIn_registerScenario {r : Registry} (hr : r.WellFormed) (s : Scenario) :
    (r.registerScenario s).1.RegisteredIn (r.registerScenario s).2 where
  input := normal_registerSet _ s.facts
  outputs o ho := (registers_registerSets hr s.answers o ho).1
  registers_input := registers_registerSet (hr.registerSets s.answers) s.facts
  registers_outputs o ho :=
    (registers_registerSets hr s.answers o ho).2.mono (registerSet_extends _ s.facts)

theorem mem_literals_registerScenario {r : Registry} {s : Scenario} {l : Literal} :
    l ∈ (r.registerScenario s).2.literals ↔
      l ∈ r.literals ∨ (∃ a ∈ s.answers, l ∈ a) ∨ l ∈ s.facts := by
  rw [← or_assoc, ← mem_literals_registerSets]
  exact mem_literals_registerSet

theorem registerScenarios_extends (r : Registry) (ss : List Scenario) :
    r.Extends (r.registerScenarios ss).2 := by
  induction ss generalizing r with
  | nil => exact .refl r
  | cons s ss ih => exact (registerScenario_extends r s).trans (ih _)

theorem WellFormed.registerScenarios {r : Registry} (hr : r.WellFormed) (ss : List Scenario) :
    (r.registerScenarios ss).2.WellFormed := by
  induction ss generalizing r with
  | nil => exact hr
  | cons s ss ih => exact ih (hr.registerScenario s)

theorem registeredIn_registerScenarios {r : Registry} (hr : r.WellFormed) (ss : List Scenario) :
    ∀ e ∈ (r.registerScenarios ss).1, e.RegisteredIn (r.registerScenarios ss).2 := by
  induction ss generalizing r with
  | nil => simp [Registry.registerScenarios]
  | cons s ss ih =>
    intro e he
    cases List.mem_cons.1 he with
    | inl he =>
      subst he
      exact (registeredIn_registerScenario hr s).mono (registerScenarios_extends _ ss)
    | inr he => exact ih (hr.registerScenario s) e he

theorem wellSpelled_registerScenarios {r : Registry} {ss : List Scenario}
    (hr : ∀ l ∈ r.literals, l.WellSpelled) (hss : ∀ s ∈ ss, s.WellSpelled) :
    ∀ l ∈ (r.registerScenarios ss).2.literals, l.WellSpelled := by
  induction ss generalizing r with
  | nil => exact hr
  | cons s ss ih =>
    have hs := hss s List.mem_cons_self
    refine ih (fun l hl => ?_) fun t ht => hss t (List.mem_cons_of_mem s ht)
    rcases mem_literals_registerScenario.1 hl with hl | ⟨a, ha, hl⟩ | hl
    · exact hr l hl
    · exact hs.answers a ha l hl
    · exact hs.facts l hl

end Registry

namespace Registry

structure Represents (r : Registry) (s : LitSet) (ls : List Literal) : Prop where
  normal : s.Normal
  mem_iff : ∀ i, i ∈ s ↔ ∃ l ∈ ls, r.get? i = some l
  exists_lit : ∀ l ∈ ls, ∃ i, r.get? i = some l

theorem Represents.mono {r r' : Registry} {s : LitSet} {ls : List Literal}
    (h : r.Represents s ls) (hr : r'.WellFormed) (hext : r.Extends r') : r'.Represents s ls where
  normal := h.normal
  mem_iff i := by
    refine (h.mem_iff i).trans (exists_congr fun l => and_congr_right fun hl => ?_)
    refine ⟨@hext i l, fun hi => ?_⟩
    obtain ⟨j, hj⟩ := h.exists_lit l hl
    rwa [get?_injective hr hi (hext hj)]
  exists_lit l hl := by
    obtain ⟨i, hi⟩ := h.exists_lit l hl
    exact ⟨i, hext hi⟩

theorem represents_registerSet {r : Registry} (hr : r.WellFormed) (ls : List Literal) :
    (r.registerSet ls).2.Represents (r.registerSet ls).1 ls where
  normal := normal_registerSet r ls
  mem_iff _ := mem_registerSet_iff hr
  exists_lit _ hl := exists_get?_registerAll hl

theorem represents_registerSets {r : Registry} (hr : r.WellFormed) (lss : List (List Literal)) :
    List.Forall₂ (r.registerSets lss).2.Represents (r.registerSets lss).1 lss := by
  induction lss generalizing r with
  | nil => exact .nil
  | cons ls lss ih =>
    have hset := hr.registerSet ls
    exact .cons ((represents_registerSet hr ls).mono (hset.registerSets lss)
      (registerSets_extends _ lss)) (ih hset)

end Registry

structure Example.Represents (e : Example) (r : Registry) (s : Scenario) : Prop where
  input : r.Represents e.input s.facts
  outputs : List.Forall₂ r.Represents e.outputs s.answers

theorem Example.Represents.mono {r r' : Registry} {e : Example} {s : Scenario}
    (h : e.Represents r s) (hr : r'.WellFormed) (hext : r.Extends r') : e.Represents r' s where
  input := h.input.mono hr hext
  outputs := h.outputs.imp fun _ _ hs => hs.mono hr hext

namespace Registry

theorem represents_registerScenario {r : Registry} (hr : r.WellFormed) (s : Scenario) :
    (r.registerScenario s).1.Represents (r.registerScenario s).2 s where
  input := represents_registerSet (hr.registerSets s.answers) s.facts
  outputs := (represents_registerSets hr s.answers).imp fun _ _ h =>
    h.mono (hr.registerScenario s) (registerSet_extends _ s.facts)

theorem represents_registerScenarios {r : Registry} (hr : r.WellFormed) (ss : List Scenario) :
    List.Forall₂ (Example.Represents · (r.registerScenarios ss).2)
      (r.registerScenarios ss).1 ss := by
  induction ss generalizing r with
  | nil => exact .nil
  | cons s ss ih =>
    have hscenario := hr.registerScenario s
    exact .cons ((represents_registerScenario hr s).mono (hscenario.registerScenarios ss)
      (registerScenarios_extends _ ss)) (ih hscenario)

end Registry

structure Task.Represents (t : Task) (d : Document) : Prop where
  registry : t.registry.WellFormed
  background : t.background = d.rules
  examples : List.Forall₂ (Example.Represents · t.registry) t.examples d.scenarios

theorem Document.represents_task (d : Document) : d.task.Represents d where
  registry := Registry.WellFormed.registerScenarios List.nodup_nil d.scenarios
  background := rfl
  examples := Registry.represents_registerScenarios List.nodup_nil d.scenarios

/-- What a task is like that has been read from a text. -/
structure Task.WellFormed (t : Task) : Prop where
  registry : t.registry.WellFormed
  examples : ∀ e ∈ t.examples, e.RegisteredIn t.registry
  literals : ∀ l ∈ t.registry.literals, l.WellSpelled

theorem Document.WellSpelled.task {d : Document} (h : d.WellSpelled) : d.task.WellFormed where
  registry := Registry.WellFormed.registerScenarios List.nodup_nil d.scenarios
  examples := Registry.registeredIn_registerScenarios List.nodup_nil d.scenarios
  literals := Registry.wellSpelled_registerScenarios (fun _ hl => absurd hl List.not_mem_nil) h

theorem wellFormed_of_parseTask {text : String} {t : Task} (h : parseTask text = .ok t) :
    t.WellFormed := by
  unfold parseTask at h
  split at h
  · next hd =>
    cases h
    exact (wellSpelled_of_parseDocument hd).task
  · cases h

end AnswerSetLearning
