/-! # Periodic tasks

* `TickLoop.poll`: what a loop does when it looks at the clock.
* `PeriodicTask`: a clock, an interval, the loops that are alive, and two slots that tell which of them the
  next stop cancels and for which of them it waits.
* `PeriodicTask.start`: starts a loop whose first tick comes one interval later; a running task goes on.
* `PeriodicTask.wait`, `PeriodicTask.jump`: time passes, evenly or at once.
* `PeriodicTask.stop?`, `PeriodicTask.stop`: cancels the loop and waits until it has left.

A tick that comes late is followed by the next one a full interval later; a delay of up to `grace` does not
count. A tick under way is brought to its end before its loop leaves. Times are in milliseconds.
-/

set_option autoImplicit false

namespace RelayGateway

variable {α : Type}

/-- What a loop does: a tick of its action begins or has ended. -/
inductive TickEvent (α : Type) where
  | began (time : Nat) (action : α)
  | ended (time : Nat) (action : α)
  deriving DecidableEq

/-- A loop that was started and has not left. -/
structure TickLoop (α : Type) where
  /-- What tells the loop from those that were started before it. -/
  number : Nat
  action : α
  /-- When the next tick is due. -/
  due : Nat
  /-- When the tick that is under way ends. -/
  busyUntil : Option Nat
  cancelled : Bool
  deriving DecidableEq

namespace TickLoop

/-- How late a tick may be without moving the ticks after it. -/
def grace : Nat := 5

/-- When the tick after one that was due at `due` and comes now is due. -/
def nextDue (interval now due : Nat) : Nat :=
  if due + grace < now then now + interval else due + interval

/-- Begins a tick. One that takes no time ends at once. -/
def beginTick (length : α → Nat) (interval now : Nat) (loop : TickLoop α) :
    List (TickEvent α) × TickLoop α :=
  let next := { loop with due := nextDue interval now loop.due }
  if length loop.action = 0 then
    ([.began now loop.action, .ended now loop.action], next)
  else
    ([.began now loop.action], { next with busyUntil := some (now + length loop.action) })

/-- The loop once its tick is over. -/
def rested (loop : TickLoop α) : TickLoop α := { loop with busyUntil := none }

/-- What a loop does between ticks, and what becomes of it. One that is cancelled leaves; if a tick is due as
well, `tickFirst` says whether that goes first. -/
def pollIdle (length : α → Nat) (interval now : Nat) (tickFirst : Bool) (loop : TickLoop α) :
    List (TickEvent α) × Option (TickLoop α) :=
  if loop.due ≤ now ∧ (loop.cancelled → tickFirst) then
    ((loop.beginTick length interval now).1, some (loop.beginTick length interval now).2)
  else if loop.cancelled then ([], none)
  else ([], some loop)

/-- What a loop does at a moment, and what becomes of it. -/
def poll (length : α → Nat) (interval now : Nat) (tickFirst : Bool) (loop : TickLoop α) :
    List (TickEvent α) × Option (TickLoop α) :=
  match loop.busyUntil with
  | none => loop.pollIdle length interval now tickFirst
  | some time =>
    if now < time then ([], some loop)
    else
      let (events, next) := loop.rested.pollIdle length interval now tickFirst
      (.ended now loop.action :: events, next)

/-- When the loop has something to do. One that is cancelled leaves as soon as it can. -/
def nextTime (loop : TickLoop α) : Nat :=
  loop.busyUntil.getD (if loop.cancelled then 0 else loop.due)

end TickLoop

/-- A periodic task with its clock. -/
structure PeriodicTask (α : Type) where
  interval : Nat
  now : Nat
  /-- How many loops were ever started. -/
  started : Nat
  /-- The loop that the next stop cancels. -/
  token : Option Nat
  /-- The loop that the next stop waits for. -/
  handle : Option Nat
  /-- The loops that are alive. -/
  loops : List (TickLoop α)
  deriving DecidableEq

namespace PeriodicTask

def idle (interval : Nat) : PeriodicTask α := ⟨interval, 0, 0, none, none, []⟩

/-- Whether the task was started after it was last stopped. -/
def isRunning (task : PeriodicTask α) : Bool := task.token.isSome

def isAlive (task : PeriodicTask α) (number : Nat) : Bool :=
  task.loops.any fun loop => loop.number == number

/-- Starts the task. A running task goes on as before, and without an interval the loop does not live. -/
def start (task : PeriodicTask α) (action : α) : PeriodicTask α :=
  if task.isRunning then task
  else
    let born : List (TickLoop α) :=
      if task.interval = 0 then []
      else [⟨task.started, action, task.now + task.interval, none, false⟩]
    { task with
      started := task.started + 1
      token := some task.started
      handle := some task.started
      loops := task.loops ++ born }

/-- Lets all loops do what is to be done at the present moment. -/
def settle (length : α → Nat) (tickFirst : Bool) (task : PeriodicTask α) :
    List (TickEvent α) × PeriodicTask α :=
  let polled := task.loops.map (·.poll length task.interval task.now tickFirst)
  (polled.flatMap (·.1), { task with loops := polled.filterMap (·.2) })

def nextTime (task : PeriodicTask α) : Option Nat := (task.loops.map (·.nextTime)).min?

/-- Goes to the time of the next thing to do, unless it is over, and does it. -/
def advance (length : α → Nat) (tickFirst : Bool) (task : PeriodicTask α) :
    List (TickEvent α) × PeriodicTask α :=
  settle length tickFirst { task with now := max task.now (task.nextTime.getD 0) }

/-- Lets the time pass up to `target`, from one thing to do to the next, at most `fuel` of them. -/
def runUntil (length : α → Nat) (target : Nat) :
    Nat → PeriodicTask α → List (TickEvent α) × PeriodicTask α
  | 0, task => ([], { task with now := target })
  | fuel + 1, task =>
    match task.nextTime with
    | none => ([], { task with now := target })
    | some time =>
      if time ≤ target then
        let (events, task) := advance length false task
        let (later, task) := runUntil length target fuel task
        (events ++ later, task)
      else ([], { task with now := target })

/-- How many things there can be to do in a span: in a millisecond, a loop begins and ends one tick, and a few
more where it is late. -/
def workIn (task : PeriodicTask α) (span : Nat) : Nat :=
  task.loops.length * (2 * (span + TickLoop.grace + 2))

/-- Time passes evenly. -/
def wait (length : α → Nat) (span : Nat) (task : PeriodicTask α) :
    List (TickEvent α) × PeriodicTask α :=
  runUntil length (task.now + span) (task.workIn span) task

/-- The clock leaps, and what was to be done in between is done at once. -/
def jump (length : α → Nat) (span : Nat) (task : PeriodicTask α) :
    List (TickEvent α) × PeriodicTask α :=
  runUntil length (task.now + span) (task.workIn span) { task with now := task.now + span }

/-- Lets the time pass until the loop with the given number has left, while ticks that are due go first up to
`lost` times; `none` if it has not left then. -/
def join (length : α → Nat) (number : Nat) :
    Nat → PeriodicTask α → Option (List (TickEvent α) × PeriodicTask α)
  | lost, task =>
    if task.isAlive number then
      let (events, next) := advance length (0 < lost) task
      match lost with
      | 0 => if next.isAlive number then none else some (events, next)
      | lost + 1 =>
        (join length number lost next).map fun (later, last) => (events ++ later, last)
    else some ([], task)

/-- Empties both slots and cancels the loop that the one tells of. -/
def cancel (task : PeriodicTask α) : PeriodicTask α :=
  { task with
    token := none
    handle := none
    loops := task.loops.map fun loop =>
      if task.token = some loop.number then { loop with cancelled := true } else loop }

/-- Stops the task: cancels the loop of the one slot and waits for that of the other to leave. Where the
cancellation meets a tick that is due, it is chance which goes first; the cancellation loses `lost` times.
`none` if the loop would never leave. -/
def stop? (length : α → Nat) (lost : Nat) (task : PeriodicTask α) :
    Option (List (TickEvent α) × PeriodicTask α) :=
  match task.handle with
  | none => some ([], task.cancel)
  | some number => task.cancel.join length number lost

/-- Stops the task where the cancellation goes first. -/
def stop (task : PeriodicTask α) : List (TickEvent α) × PeriodicTask α :=
  (task.stop? (fun _ => 0) 0).getD ([], task)

end PeriodicTask

end RelayGateway
