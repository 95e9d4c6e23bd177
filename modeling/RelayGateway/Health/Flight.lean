/-! # One operation for many callers

* `FlightTable`: the operations in flight, one for each key, with everyone who waits for them.
* `FlightTable.enter`: a caller starts an operation for its key, or joins the one in flight.
* `FlightTable.complete`: an operation ends with a value, as long as somebody waits for it.
* `FlightTable.leave`, `FlightTable.cancel`: a caller takes the value of its operation, or gives up.

An operation belongs to a generation. When its leader leaves or gives up, the key becomes free, but
callers that joined keep waiting for the operation they joined.
-/

set_option autoImplicit false

namespace RelayGateway

/-- A caller that waits for an operation. -/
structure Waiter (κ : Type) where
  caller : String
  key : κ
  generation : Nat
  /-- Whether the caller started the operation. -/
  leads : Bool

/-- An operation and the value it ended with, if it has ended. -/
structure Flight (κ ν : Type) where
  key : κ
  generation : Nat
  leader : String
  value : Option ν

/-- The result of a caller: the value, and whether another caller's operation gave it. -/
structure Landing (ν : Type) where
  caller : String
  value : ν
  shared : Bool

/-- The operations in flight and the callers that wait. -/
structure FlightTable (κ ν : Type) where
  /-- The generation that a call for a key joins. -/
  entries : List (κ × Nat)
  /-- All operations that were started. -/
  flights : List (Flight κ ν)
  waiters : List (Waiter κ)

namespace FlightTable

variable {κ ν : Type} [DecidableEq κ]

def empty : FlightTable κ ν := ⟨[], [], []⟩

def inFlight (table : FlightTable κ ν) : Nat := table.entries.length

def started (table : FlightTable κ ν) : Nat := table.flights.length

def generation? (table : FlightTable κ ν) (key : κ) : Option Nat :=
  (table.entries.find? fun entry => entry.1 = key).map (·.2)

def flight? (table : FlightTable κ ν) (generation : Nat) : Option (Flight κ ν) :=
  table.flights.find? fun flight => flight.generation == generation

/-- A caller joins the operation in flight for its key, or starts a new one. -/
def enter (table : FlightTable κ ν) (caller : String) (key : κ) : FlightTable κ ν :=
  match table.generation? key with
  | some generation =>
    { table with waiters := table.waiters ++ [⟨caller, key, generation, false⟩] }
  | none =>
    let generation := table.started
    { entries := table.entries ++ [(key, generation)]
      flights := table.flights ++ [⟨key, generation, caller, none⟩]
      waiters := table.waiters ++ [⟨caller, key, generation, true⟩] }

def isAwaited (table : FlightTable κ ν) (generation : Nat) : Bool :=
  table.waiters.any fun waiter => waiter.generation == generation

/-- An operation ends with a value. One that has ended, or that nobody waits for, is left alone. -/
def complete (table : FlightTable κ ν) (generation : Nat) (value : ν) : FlightTable κ ν :=
  if table.isAwaited generation then
    { table with flights := table.flights.map fun flight =>
        if flight.generation = generation ∧ flight.value.isNone then
          { flight with value := some value }
        else flight }
  else table

/-- The entries after a waiter has gone: a leader frees its key if the entry is still its own. -/
def entriesWithout (table : FlightTable κ ν) (waiter : Waiter κ) : List (κ × Nat) :=
  if waiter.leads then
    table.entries.filter fun entry =>
      !(decide (entry.1 = waiter.key) && entry.2 == waiter.generation)
  else table.entries

def remove (table : FlightTable κ ν) (waiter : Waiter κ) : FlightTable κ ν :=
  { table with
    entries := table.entriesWithout waiter
    waiters := table.waiters.filter fun w => w.caller != waiter.caller }

def waiter? (table : FlightTable κ ν) (caller : String) : Option (Waiter κ) :=
  table.waiters.find? fun waiter => waiter.caller == caller

/-- A caller returns with the value of its operation, once there is one. -/
def leave (table : FlightTable κ ν) (caller : String) :
    Option (Landing ν) × FlightTable κ ν :=
  match table.waiter? caller with
  | none => (none, table)
  | some waiter =>
    match (table.flight? waiter.generation).bind (·.value) with
    | none => (none, table)
    | some value => (some ⟨caller, value, !waiter.leads⟩, table.remove waiter)

def cancel (table : FlightTable κ ν) (caller : String) : FlightTable κ ν :=
  match table.waiter? caller with
  | none => table
  | some waiter => table.remove waiter

def leaveAll (table : FlightTable κ ν) : List String → List (Landing ν) × FlightTable κ ν
  | [] => ([], table)
  | caller :: callers =>
    let (landing, table) := table.leave caller
    let (landings, table) := table.leaveAll callers
    (landing.toList ++ landings, table)

def ledBy? (table : FlightTable κ ν) (caller : String) : Option (Flight κ ν) :=
  table.flights.reverse.find? fun flight => flight.leader == caller

/-- The operation that a caller leads ends with a value, and all who can leave do. -/
def finish (table : FlightTable κ ν) (caller : String) (value : ν) :
    List (Landing ν) × FlightTable κ ν :=
  match table.ledBy? caller with
  | none => ([], table)
  | some flight =>
    let table := table.complete flight.generation value
    table.leaveAll (table.waiters.map (·.caller))

def describe (table : FlightTable κ ν) : String :=
  "SingleFlight \x7b in_flight: " ++ toString table.inFlight ++ " \x7d"

end FlightTable

end RelayGateway
