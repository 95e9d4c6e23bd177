import RelayGateway.ServiceError

/-! # Background tasks

* `TaskKind`: what a task is for.
* `TaskDraft.build`: a task needs something to do when it is started.
* `startAll`: starts tasks in the order in which they were registered, until one fails.
* `stopAll`: stops tasks in reverse order, whatever fails.
-/

set_option autoImplicit false

namespace RelayGateway

/-- What a background task is for. -/
inductive TaskKind where
  | channelReload
  | cooldownSweep
  deriving DecidableEq

def TaskKind.name : TaskKind → String
  | .channelReload => "channel_reload"
  | .cooldownSweep => "cooldown_sweep"

variable {m : Type → Type}

abbrev TaskAction (m : Type → Type) := m (Except ServiceError Unit)

/-- A background task. -/
structure BackgroundTask (m : Type → Type) where
  kind : TaskKind
  start : TaskAction m
  stop : Option (TaskAction m)

/-- A background task in the making. -/
structure TaskDraft (m : Type → Type) where
  kind : TaskKind
  start : Option (TaskAction m)
  stop : Option (TaskAction m)

def TaskDraft.build (draft : TaskDraft m) : Except ServiceError (BackgroundTask m) :=
  match draft.start with
  | some start => .ok ⟨draft.kind, start, draft.stop⟩
  | none => .error (.internal s!"后台任务 {draft.kind.name} 缺少启动逻辑" none)

/-- Starts tasks one after the other; the first error ends it. -/
def startAll [Monad m] : List (BackgroundTask m) → TaskAction m
  | [] => pure (.ok ())
  | task :: tasks => do
    match ← task.start with
    | .error err => return .error err
    | .ok () => startAll tasks

/-- Stops tasks, the last one first. Errors are passed over, and a task without a stop action is done. -/
def stopAll [Monad m] : List (BackgroundTask m) → m Unit
  | [] => pure ()
  | task :: tasks => do
    stopAll tasks
    match task.stop with
    | none => return ()
    | some stop =>
      let _ ← stop
      return ()

end RelayGateway
