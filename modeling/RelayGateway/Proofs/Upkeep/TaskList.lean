import RelayGateway.Upkeep.TaskList

/-! # Starting and stopping a list of tasks

* `BackgroundTask.started`, `BackgroundTask.stopped`: what the actions of one task make of the world.
* `startAll_cases`: tasks are started in turn, up to the first one that fails.
* `stopAll_run`: all tasks are stopped, the last one first, and no failure has a part in it.

The world is whatever the actions read and change; it decides which of them fail.
-/

set_option autoImplicit false

namespace RelayGateway

variable {World : Type}

namespace BackgroundTask

/-- The world after the start action of a task. -/
def started (world : World) (task : BackgroundTask (StateM World)) : World := (task.start.run world).2

/-- The world after the stop action of a task, if it has one. -/
def stopped (world : World) (task : BackgroundTask (StateM World)) : World :=
  match task.stop with
  | none => world
  | some stop => (stop.run world).2

end BackgroundTask

open BackgroundTask (started stopped)

/-- Each start action succeeds in the world that the ones before it have left. -/
def StartInTurn (tasks : List (BackgroundTask (StateM World))) (world : World) : Prop :=
  ∀ earlier task later, tasks = earlier ++ task :: later →
    (task.start.run (earlier.foldl started world)).1 = .ok ()

variable {tasks : List (BackgroundTask (StateM World))} {task : BackgroundTask (StateM World)}
  {world : World}

theorem startInTurn_nil (world : World) : StartInTurn [] world := by
  intro earlier task later hsplit
  simp at hsplit

theorem startInTurn_cons (first : (task.start.run world).1 = .ok ())
    (rest : StartInTurn tasks (started world task)) : StartInTurn (task :: tasks) world := by
  intro earlier other later hsplit
  cases earlier with
  | nil =>
    obtain ⟨rfl, rfl⟩ := List.cons.inj hsplit
    exact first
  | cons before earlier =>
    obtain ⟨rfl, hrest⟩ := List.cons.inj hsplit
    exact rest earlier other later hrest

theorem startAll_cons (task : BackgroundTask (StateM World)) (tasks : List (BackgroundTask (StateM World)))
    (world : World) : (startAll (task :: tasks)).run world =
      match (task.start.run world).1 with
      | .error err => (.error err, started world task)
      | .ok () => (startAll tasks).run (started world task) := by
  rw [startAll, StateT.run_bind]
  show (match (task.start.run world).1 with
    | .error err => pure (.error err)
    | .ok () => startAll tasks : TaskAction (StateM World)).run (started world task) = _
  cases (task.start.run world).1 <;> rfl

/-- Either all tasks are started in turn, or those up to the first one that fails are, with its error. -/
theorem startAll_cases (tasks : List (BackgroundTask (StateM World))) (world : World) :
    (StartInTurn tasks world ∧ (startAll tasks).run world = (.ok (), tasks.foldl started world)) ∨
      ∃ earlier task later err, tasks = earlier ++ task :: later ∧ StartInTurn earlier world ∧
        (task.start.run (earlier.foldl started world)).1 = .error err ∧
        (startAll tasks).run world = (.error err, (earlier ++ [task]).foldl started world) := by
  induction tasks generalizing world with
  | nil => exact .inl ⟨startInTurn_nil world, rfl⟩
  | cons first tasks ih =>
    rw [startAll_cons]
    cases hfirst : (first.start.run world).1 with
    | error err => exact .inr ⟨[], first, tasks, err, rfl, startInTurn_nil world, hfirst, rfl⟩
    | ok =>
      rcases ih (started world first) with
        ⟨inTurn, hrun⟩ | ⟨earlier, task, later, err, rfl, inTurn, hfails, hrun⟩
      · exact .inl ⟨startInTurn_cons hfirst inTurn, hrun⟩
      · exact .inr ⟨first :: earlier, task, later, err, rfl, startInTurn_cons hfirst inTurn, hfails, hrun⟩

theorem stopAll_cons (task : BackgroundTask (StateM World)) (tasks : List (BackgroundTask (StateM World)))
    (world : World) : (stopAll (task :: tasks)).run world =
      ((), stopped ((stopAll tasks).run world).2 task) := by
  obtain ⟨kind, start, stop⟩ := task
  cases stop <;> rfl

theorem stopAll_run (tasks : List (BackgroundTask (StateM World))) (world : World) :
    (stopAll tasks).run world = ((), tasks.reverse.foldl stopped world) := by
  induction tasks with
  | nil => rfl
  | cons task tasks ih => rw [stopAll_cons, ih, List.reverse_cons, List.foldl_append]; rfl

end RelayGateway
