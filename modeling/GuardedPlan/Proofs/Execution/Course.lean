import GuardedPlan.Execution.Run

/-!
# The course of a run

A run attempts items one after the other, each in the world that the attempt before it left. What it prints, warns of and logs follows the attempts one by one, so the course of a run is known by the steps that were begun, the attempts that did not fail and the one that did. Nothing here depends on what attempting an item does to files or how commands answer.
-/

namespace GuardedPlan

variable {σ : Type}

/-! ### What the log tells -/

namespace World

/-- The lines that were printed at the beginning of steps. -/
def markers (world : World σ) : List String :=
  world.log.filterMap fun
    | .began step => some (Event.printed (.began step))
    | _ => none

/-- The items that were attempted, each with the id of its step. -/
def attempted (world : World σ) : List (String × Item) :=
  world.log.filterMap fun
    | .attempted step item => some (step, item)
    | _ => none

/-- The items that were attempted and did not fail, each with the id of its step. -/
def finished (world : World σ) : List (String × Item) :=
  world.log.filterMap fun
    | .finished step item => some (step, item)
    | _ => none

theorem LogsOnly.filterMap_log {before after : World σ} {command : Option String} (h : before.LogsOnly command after)
    {α : Type} {view : Event → Option α} (hview : ∀ line stdout stderr, view (.ran line stdout stderr) = none) :
    after.log.filterMap view = before.log.filterMap view := by
  obtain ⟨ran, hlog, hran⟩ := h
  have hnone : ran.filterMap view = [] := by
    refine List.filterMap_eq_nil_iff.2 fun event hevent => ?_
    obtain ⟨line, stdout, stderr, -, rfl⟩ := hran event hevent
    exact hview line stdout stderr
  rw [hlog, List.filterMap_append, hnone, List.append_nil]

/-- Where nothing but a command is logged, no other one is handed over. -/
theorem LogsOnly.exists_commands {before after : World σ} {command : Option String}
    (h : before.LogsOnly command after) :
    ∃ handed, after.commands = before.commands ++ handed ∧ ∀ line ∈ handed, command = some line := by
  obtain ⟨ran, hlog, hran⟩ := h
  refine ⟨_, by rw [commands, hlog, List.filterMap_append]; rfl, fun line hline => ?_⟩
  obtain ⟨event, hevent, hsome⟩ := List.mem_filterMap.1 hline
  obtain ⟨own, stdout, stderr, hown, rfl⟩ := hran event hevent
  cases hsome
  exact hown

end World

/-! ### Attempts -/

/-- An attempt at an item of a step: the world in which it was made, what it came to and the world it left. -/
structure Attempt (σ : Type) where
  step : String
  item : Item
  before : World σ
  result : Except StepFault (Option Shortfall)
  after : World σ

namespace Attempt

/-- The item with the id of its step. -/
def place (attempt : Attempt σ) : String × Item :=
  (attempt.step, attempt.item)

/-- The warning of a shortfall that was only reported. -/
def warning? (attempt : Attempt σ) : Option String :=
  match attempt.result with
  | .ok (some found) => some (Event.warning attempt.step found.message)
  | _ => none

/-- The commands that were handed over. -/
def handed (attempt : Attempt σ) : List String :=
  attempt.after.commands.drop attempt.before.commands.length

end Attempt

/-- Attempts made one after the other between two worlds: each in the world that the one before left, as far as files and the state of the host go, and each with the result that the performer gives. -/
def Performer.Chains (performer : Performer σ) : World σ → List (Attempt σ) → World σ → Prop
  | world, [], final => final.tree = world.tree ∧ final.state = world.state
  | world, attempt :: rest, final =>
    (attempt.before.tree = world.tree ∧ attempt.before.state = world.state) ∧
      performer.attempt attempt.item attempt.before = (attempt.result, attempt.after) ∧
      Chains performer attempt.after rest final

/-- How far a run came: the steps that were begun, the attempts that did not fail and the one that did. -/
structure Course (σ : Type) where
  begun : List Step
  completed : List (Attempt σ)
  failed : Option (Attempt σ)

namespace Course

/-- All attempts in order. -/
def attempts (course : Course σ) : List (Attempt σ) :=
  course.completed ++ course.failed.toList

/-- A course in which nothing failed, and the one that comes after it. -/
def andThen (first second : Course σ) : Course σ :=
  ⟨first.begun ++ second.begun, first.completed ++ second.completed, second.failed⟩

theorem attempts_andThen {first : Course σ} (h : first.failed = none) (second : Course σ) :
    (first.andThen second).attempts = first.attempts ++ second.attempts := by
  simp [attempts, andThen, h]

end Course

/-- A course leads from a world to another one: its attempts follow each other, the completed ones did not fail, and the log grew by what the course says. -/
structure Performer.Covers (performer : Performer σ) (course : Course σ) (world final : World σ) : Prop where
  chained : performer.Chains world course.attempts final
  succeeded : ∀ attempt ∈ course.completed, ∃ shortfall, attempt.result = .ok shortfall
  markers : final.markers = world.markers ++ course.begun.map fun step => Event.printed (.began step.id)
  attempted : final.attempted = world.attempted ++ course.attempts.map Attempt.place
  finished : final.finished = world.finished ++ course.completed.map Attempt.place
  warnings : final.warnings = world.warnings ++ course.completed.filterMap Attempt.warning?
  commands : final.commands = world.commands ++ course.attempts.flatMap Attempt.handed

/-! ### Courses put together -/

namespace Performer

variable {performer : Performer σ}

theorem Chains.append {first second : List (Attempt σ)} {world middle final : World σ}
    (hfirst : performer.Chains world first middle) (hsecond : performer.Chains middle second final) :
    performer.Chains world (first ++ second) final := by
  induction first generalizing world with
  | nil =>
    obtain ⟨htree, hstate⟩ := hfirst
    cases second with
    | nil => exact ⟨hsecond.1.trans htree, hsecond.2.trans hstate⟩
    | cons attempt rest => exact ⟨⟨hsecond.1.1.trans htree, hsecond.1.2.trans hstate⟩, hsecond.2⟩
  | cons attempt rest ih => exact ⟨hfirst.1, hfirst.2.1, ih hfirst.2.2⟩

theorem filterMap_log_attempt {item : Item} {before after : World σ} {result : Except StepFault (Option Shortfall)}
    (h : performer.attempt item before = (result, after)) {α : Type} {view : Event → Option α}
    (hview : ∀ line stdout stderr, view (.ran line stdout stderr) = none) :
    after.log.filterMap view = before.log.filterMap view := by
  have hlogs := performer.logsOnly_attempt item before
  rw [h] at hlogs
  exact hlogs.filterMap_log hview

theorem commands_attempt {item : Item} {before after : World σ} {result : Except StepFault (Option Shortfall)}
    (h : performer.attempt item before = (result, after)) :
    after.commands = before.commands ++ after.commands.drop before.commands.length := by
  have hlogs := performer.logsOnly_attempt item before
  rw [h] at hlogs
  obtain ⟨handed, hcommands, -⟩ := hlogs.exists_commands
  rw [hcommands, List.drop_left]

namespace Covers

theorem refl (performer : Performer σ) (world : World σ) : performer.Covers ⟨[], [], none⟩ world world where
  chained := ⟨rfl, rfl⟩
  succeeded := by simp
  markers := by simp
  attempted := by simp [Course.attempts]
  finished := by simp
  warnings := by simp
  commands := by simp [Course.attempts]

theorem andThen {first second : Course σ} {world middle final : World σ} (hfirst : performer.Covers first world middle)
    (hfailed : first.failed = none) (hsecond : performer.Covers second middle final) :
    performer.Covers (first.andThen second) world final where
  chained := by
    rw [Course.attempts_andThen hfailed]
    exact hfirst.chained.append hsecond.chained
  succeeded attempt hattempt := by
    rcases List.mem_append.1 hattempt with hattempt | hattempt
    · exact hfirst.succeeded attempt hattempt
    · exact hsecond.succeeded attempt hattempt
  markers := by rw [hsecond.markers, hfirst.markers, Course.andThen, List.map_append, List.append_assoc]
  attempted := by
    rw [hsecond.attempted, hfirst.attempted, Course.attempts_andThen hfailed, List.map_append, List.append_assoc]
  finished := by rw [hsecond.finished, hfirst.finished, Course.andThen, List.map_append, List.append_assoc]
  warnings := by rw [hsecond.warnings, hfirst.warnings, Course.andThen, List.filterMap_append, List.append_assoc]
  commands := by
    rw [hsecond.commands, hfirst.commands, Course.attempts_andThen hfailed, List.flatMap_append, List.append_assoc]

/-- A step begins. -/
theorem begin (performer : Performer σ) (world : World σ) (step : Step) :
    performer.Covers ⟨[step], [], none⟩ world (world.record (.began step.id)) where
  chained := ⟨rfl, rfl⟩
  succeeded := by simp
  markers := by simp [World.markers, World.record]
  attempted := by simp [World.attempted, World.record, Course.attempts]
  finished := by simp [World.finished, World.record]
  warnings := by simp [World.warnings, World.record]
  commands := by simp [World.commands, World.record, Course.attempts]

section

variable {step : String} {item : Item} {world after : World σ}

/-- The last attempt of a run is made. -/
theorem attempt {result : Except StepFault (Option Shortfall)}
    (h : performer.attempt item (world.record (.attempted step item)) = (result, after)) :
    performer.Covers ⟨[], [], some ⟨step, item, world.record (.attempted step item), result, after⟩⟩ world after where
  chained := ⟨⟨rfl, rfl⟩, h, rfl, rfl⟩
  succeeded := by simp
  markers := by
    rw [World.markers, filterMap_log_attempt h fun _ _ _ => rfl]
    simp [World.markers, World.record]
  attempted := by
    rw [World.attempted, filterMap_log_attempt h fun _ _ _ => rfl]
    simp [World.attempted, World.record, Course.attempts, Attempt.place]
  finished := by
    rw [World.finished, filterMap_log_attempt h fun _ _ _ => rfl]
    simp [World.finished, World.record]
  warnings := by
    rw [World.warnings, filterMap_log_attempt h fun _ _ _ => rfl]
    simp [World.warnings, World.record]
  commands := by
    have hsame : (world.record (.attempted step item)).commands = world.commands := by
      simp [World.commands, World.record]
    have hcommands := commands_attempt h
    rw [hsame] at hcommands
    simpa [Course.attempts, Attempt.handed, hsame] using hcommands

/-- An attempt is made that does not fail, and the run goes on. -/
theorem complete {shortfall : Option Shortfall}
    (h : performer.attempt item (world.record (.attempted step item)) = (.ok shortfall, after)) :
    performer.Covers ⟨[], [⟨step, item, world.record (.attempted step item), .ok shortfall, after⟩], none⟩ world
      ((after.report step shortfall).record (.finished step item)) where
  chained := by cases shortfall <;> exact ⟨⟨rfl, rfl⟩, h, rfl, rfl⟩
  succeeded := by simp
  markers := by
    cases shortfall <;> simpa [World.markers, World.record, World.report] using (attempt h).markers
  attempted := by
    cases shortfall <;>
      simpa [World.attempted, World.record, World.report, Course.attempts] using (attempt h).attempted
  finished := by
    cases shortfall <;> simpa [World.finished, World.record, World.report, Attempt.place] using (attempt h).finished
  warnings := by
    cases shortfall <;>
      simpa [World.warnings, World.record, World.report, List.filterMap_cons, Attempt.warning?] using (attempt h).warnings
  commands := by
    cases shortfall <;>
      simpa [World.commands, World.record, World.report, Course.attempts] using (attempt h).commands

end

end Covers

end Performer

/-! ### Runs -/

/-- The items of steps in the order of a run, each with the id of its step. -/
def sequence (steps : List Step) : List (String × Item) :=
  steps.flatMap fun step => step.items.map (step.id, ·)

namespace Course

/-- How a course through items of a step ends: all of them are completed, or the one after those that are fails. -/
inductive EndsIn (step : String) (items : List Item) (course : Course σ) : Except StepFault Unit → Prop
  | completed (hfailed : course.failed = none)
      (hdone : course.completed.map Attempt.place = items.map (step, ·)) : EndsIn step items course (.ok ())
  | stopped {attempt : Attempt σ} {fault : StepFault} {done rest : List Item}
      (hfailed : course.failed = some attempt) (hresult : attempt.result = .error fault) (hstep : attempt.step = step)
      (hitems : items = done ++ attempt.item :: rest)
      (hdone : course.completed.map Attempt.place = done.map (step, ·)) : EndsIn step items course (.error fault)

/-- How a course through steps ends: all of them are begun and their items completed, or the last one begun has an item that fails, after all items before it were completed. -/
inductive Ends (steps : List Step) (course : Course σ) : Except Failure Nat → Prop
  | completed (hfailed : course.failed = none) (hbegun : course.begun = steps)
      (hdone : course.completed.map Attempt.place = sequence steps) : Ends steps course (.ok steps.length)
  | stopped {attempt : Attempt σ} {fault : StepFault} {before after : List Step} {step : Step} {done rest : List Item}
      (hfailed : course.failed = some attempt) (hresult : attempt.result = .error fault) (hstep : attempt.step = step.id)
      (hsteps : steps = before ++ step :: after) (hbegun : course.begun = before ++ [step])
      (hitems : step.items = done ++ attempt.item :: rest)
      (hdone : course.completed.map Attempt.place = sequence before ++ done.map (step.id, ·)) :
      Ends steps course (.error (.stopped step.id fault))

end Course

/-- A run through items of a step has a course. -/
theorem exists_covers_performAll (performer : Performer σ) (step : String) (items : List Item) (world : World σ) :
    ∃ course : Course σ, course.begun = [] ∧ performer.Covers course world (performAll performer step items world).2 ∧
      course.EndsIn step items (performAll performer step items world).1 := by
  induction items generalizing world with
  | nil => exact ⟨⟨[], [], none⟩, rfl, .refl performer world, .completed rfl rfl⟩
  | cons item rest ih =>
    cases hattempt : performer.attempt item (world.record (.attempted step item)) with
    | mk result after =>
      rw [performAll, hattempt]
      cases result with
      | error fault =>
        exact ⟨_, rfl, .attempt hattempt, .stopped rfl rfl rfl (List.nil_append _).symm rfl⟩
      | ok shortfall =>
        obtain ⟨course, hbegun, hcovers, hends⟩ := ih ((after.report step shortfall).record (.finished step item))
        refine ⟨_, ?_, (Performer.Covers.complete hattempt).andThen rfl hcovers, ?_⟩
        · simp [Course.andThen, hbegun]
        · dsimp only
          generalize (performAll performer step rest _).1 = ending at hends ⊢
          cases hends with
          | completed hfailed hdone => exact .completed hfailed (by simp [Course.andThen, Attempt.place, hdone])
          | @stopped attempt fault done others hfailed hresult hstep hitems hdone =>
            have hsplit : item :: rest = (item :: done) ++ attempt.item :: others := by rw [hitems, List.cons_append]
            refine .stopped hfailed hresult hstep hsplit ?_
            simp [Course.andThen, Attempt.place, hdone]

/-- A run through steps has a course. -/
theorem exists_covers_runSteps (performer : Performer σ) (steps : List Step) (world : World σ) :
    ∃ course : Course σ, performer.Covers course world (runSteps performer steps world).2 ∧
      course.Ends steps (runSteps performer steps world).1 := by
  induction steps generalizing world with
  | nil => exact ⟨⟨[], [], none⟩, .refl performer world, .completed rfl rfl rfl⟩
  | cons step rest ih =>
    obtain ⟨first, hbegun, hcovers, hends⟩ :=
      exists_covers_performAll performer step.id step.items (world.record (.began step.id))
    have hfirst := (Performer.Covers.begin performer world step).andThen rfl hcovers
    cases hperform : performAll performer step.id step.items (world.record (.began step.id)) with
    | mk result middle =>
      rw [hperform] at hfirst hends
      rw [runSteps, hperform]
      cases result with
      | error fault =>
        refine ⟨_, hfirst, ?_⟩
        cases hends with
        | stopped hfailed hresult hstep hitems hdone =>
          exact .stopped hfailed hresult hstep (List.nil_append _).symm (by simp [Course.andThen, hbegun]) hitems
            (by simp [Course.andThen, hdone, sequence])
      | ok done =>
        cases hends with
        | completed hfailed hdone =>
          obtain ⟨second, hsecond, hlater⟩ := ih middle
          dsimp only
          cases hrest : runSteps performer rest middle with
          | mk ending final =>
            rw [hrest] at hsecond hlater
            cases ending with
            | ok count =>
              refine ⟨_, hfirst.andThen hfailed hsecond, ?_⟩
              cases hlater with
              | completed hsecondFailed hsecondBegun hsecondDone =>
                exact .completed hsecondFailed (by simp [Course.andThen, hbegun, hsecondBegun])
                  (by simp [Course.andThen, hdone, hsecondDone, sequence])
            | error failure =>
              refine ⟨_, hfirst.andThen hfailed hsecond, ?_⟩
              cases hlater with
              | @stopped attempt fault before after last _ _ hsecondFailed hresult hstep hsteps hsecondBegun hitems
                  hsecondDone =>
                have hsplit : step :: rest = (step :: before) ++ last :: after := by rw [hsteps, List.cons_append]
                exact .stopped hsecondFailed hresult hstep hsplit (by simp [Course.andThen, hbegun, hsecondBegun]) hitems
                  (by simp [Course.andThen, hdone, hsecondDone, sequence])

end GuardedPlan
