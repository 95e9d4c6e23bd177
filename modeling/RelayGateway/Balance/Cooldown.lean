import RelayGateway.Channel.Basic

/-! # Cooling of channels

* `CooldownTable`: deadlines for pairs of a channel and a model key; an expired deadline is the same as
  none until it is swept away.
* `CooldownTable.set`: starts a cooldown; one that is still running is left as it is.
* `CooldownTable.isCooling`, `CooldownTable.sweep`: the test, and the removal of expired deadlines.

Times are milliseconds from a fixed origin, and every operation is told the time.
-/

set_option autoImplicit false

namespace RelayGateway

/-- A point in time, in milliseconds from a fixed origin. -/
abbrev Instant := Int

/-- The end of the cooldown of a channel for a model key. -/
structure CooldownEntry where
  channel : ChannelId
  model : String
  deadline : Instant
  deriving DecidableEq

def maxCooldownSeconds : Nat := 604800

/-- The deadlines that were set and not yet swept away, with the length of a cooldown in milliseconds. -/
structure CooldownTable where
  duration : Nat
  entries : List CooldownEntry
  deriving DecidableEq

namespace CooldownTable

/-- The empty table for cooldowns of so many seconds; zero turns cooling off. -/
def ofSeconds (seconds : UInt64) : CooldownTable :=
  ⟨min seconds.toNat maxCooldownSeconds * 1000, []⟩

def deadline? (table : CooldownTable) (channel : ChannelId) (model : String) : Option Instant :=
  (table.entries.find? fun e => e.channel == channel && e.model == model).map (·.deadline)

/-- Whether a channel is cooling for a model key at the given time. -/
def isCooling (table : CooldownTable) (channel : ChannelId) (model : String) (now : Instant) :
    Bool :=
  match table.deadline? channel model with
  | some deadline => now < deadline
  | none => false

/-- Whether a pair can cool at all: the channel has an id, the key is not empty, cooling is on. -/
def accepts (table : CooldownTable) (channel : ChannelId) (model : String) : Bool :=
  channel != 0 && model != "" && table.duration != 0

def put (table : CooldownTable) (channel : ChannelId) (model : String) (deadline : Instant) :
    CooldownTable :=
  let others := table.entries.filter fun e => !(e.channel == channel && e.model == model)
  { table with entries := others ++ [⟨channel, model, deadline⟩] }

/-- Starts a cooldown at the given time unless one is running. Says whether the pair is cooling now. -/
def set (table : CooldownTable) (channel : ChannelId) (model : String) (now : Instant) :
    Bool × CooldownTable :=
  if table.accepts channel model then
    if table.isCooling channel model now then (true, table)
    else (true, table.put channel model (now + table.duration))
  else (false, table)

/-- Removes the expired deadlines and says how many there were. -/
def sweep (table : CooldownTable) (now : Instant) : Nat × CooldownTable :=
  let kept := table.entries.filter fun e => now < e.deadline
  (table.entries.length - kept.length, { table with entries := kept })

/-- The number of deadlines, expired ones included. -/
def size (table : CooldownTable) : Nat := table.entries.length

end CooldownTable

end RelayGateway
