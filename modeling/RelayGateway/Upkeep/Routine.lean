import RelayGateway.Access.Group
import RelayGateway.Routing.Registry
import RelayGateway.Settings.Basic
import RelayGateway.Upkeep.Periodic
import RelayGateway.Upkeep.TaskList

/-! # The background tasks of a gateway

* `Kept`: what the tasks keep fresh, and the sources from which it is read.
* `Kept.reload`, `Kept.sweep`: one round of each task. A source that fails leaves what it would replace.
* `Routine`: the periodic tasks, of which reloading may be left out.
* `Routine.start`, `Routine.stop`, `Routine.wait`: they are started and stopped together.
-/

set_option autoImplicit false

namespace RelayGateway

/-- What the background tasks keep fresh. -/
structure Kept where
  registry : Registry
  groups : GroupTable
  cooldowns : CooldownTable
  now : Instant
  channelSource : Except ServiceError (List Channel)
  groupSource : Except ServiceError (List UserGroup)
  /-- How often each source was read. -/
  channelReads : Nat
  groupReads : Nat

namespace Kept

/-- Reads both sources and takes over what can be read. -/
def reload (kept : Kept) : Kept :=
  let registry :=
    match kept.channelSource with
    | .ok channels => kept.registry.install (kept.registry.tableOf channels)
    | .error _ => kept.registry
  { kept with
    registry := registry
    groups := (kept.groups.load kept.groupSource).2
    channelReads := kept.channelReads + 1
    groupReads := kept.groupReads + 1 }

def sweep (kept : Kept) : Kept :=
  { kept with cooldowns := (kept.cooldowns.sweep kept.now).2 }

def round (kept : Kept) : TaskKind → Kept
  | .channelReload => kept.reload
  | .cooldownSweep => kept.sweep

end Kept

/-- The background tasks of a gateway, in the order in which they were registered. -/
structure Routine where
  kept : Kept
  tasks : List (PeriodicTask TaskKind × TaskKind)

namespace Routine

/-- The tasks that the settings ask for. A sweep interval of zero counts as one second, and without a
reload interval there is no task that reloads. -/
def ofSettings (upkeep : UpkeepSettings) (kept : Kept) : Routine :=
  let reload := upkeep.reloadIntervalSeconds.toNat
  let sweep := max 1 upkeep.sweepIntervalSeconds.toNat
  ⟨kept,
    (if reload = 0 then [] else [(.idle (reload * 1000), .channelReload)]) ++
      [(.idle (sweep * 1000), .cooldownSweep)]⟩

def registered (routine : Routine) : List TaskKind := routine.tasks.map (·.2)

def start (routine : Routine) : Routine :=
  { routine with tasks := routine.tasks.map fun entry => (entry.1.start entry.2, entry.2) }

def stop (routine : Routine) : Routine :=
  { routine with tasks := routine.tasks.map fun entry => (entry.1.stop.2, entry.2) }

/-- The rounds that a task begins among some events. -/
def roundsOf (events : List (TickEvent TaskKind)) : List TaskKind :=
  events.filterMap fun
    | .began _ kind => some kind
    | .ended .. => none

/-- Time passes. Rounds take no time, and rounds of different tasks do not touch each other's part. -/
def wait (routine : Routine) (span : Nat) : Routine :=
  let moved := routine.tasks.map fun entry =>
    let (events, task) := entry.1.wait (fun _ => 0) span
    (roundsOf events, task, entry.2)
  { kept := (moved.flatMap (·.1)).foldl Kept.round routine.kept
    tasks := moved.map (·.2) }

end Routine

end RelayGateway
