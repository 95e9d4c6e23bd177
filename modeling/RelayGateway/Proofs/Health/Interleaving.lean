import RelayGateway.Gateway.State

/-! # Health operations side by side

* `HealthOrder`: what a caller wants done.
* `Move`: one step of one caller, with the gateway after it.
* `Concurrent`: callers side by side on one gateway. `Concurrent.step` lets one of them take its next
  step, `Concurrent.run` follows a schedule.
* `Move.publishes`: the steps after which the registry shows a channel as their caller wants it.

Callers who join the disabling of a channel that is under way take no steps of their own, so they need
no place here.
-/

set_option autoImplicit false

namespace RelayGateway

inductive HealthOrder where
  | load
  | disable (id : ChannelId) (name reason : String) (notify : Bool)
  | disableManually (id : ChannelId)
  | enable (id : ChannelId) (notify : Bool)

/-- The steps of an order; what is replied to the caller in the end is left out. -/
def HealthOrder.program : HealthOrder → HealthProgram Unit
  | .load => do
    let _ ← loadChannels
    return ()
  | .disable id name reason notify => do
    let _ ← disableChannel id name reason notify
    return ()
  | .disableManually id => do
    let _ ← RelayGateway.disableManually id
    return ()
  | .enable id notify => do
    let _ ← enableChannel id notify
    return ()

/-- One step of one caller, with the gateway after it. -/
structure Move where
  caller : Nat
  call : HealthCall
  reply : HealthReply call
  after : Gateway

/-- The callers at work on a gateway, and their steps so far, oldest first. -/
structure Concurrent where
  gateway : Gateway
  callers : List (HealthProgram Unit)
  history : List Move

namespace Concurrent

/-- Nobody has taken a step. -/
def start (gateway : Gateway) (orders : List HealthOrder) : Concurrent :=
  ⟨gateway, orders.map HealthOrder.program, []⟩

/-- The next step of one caller; one who is done takes none. -/
def step (work : Concurrent) (caller : Nat) : Concurrent :=
  match work.callers[caller]? with
  | some (.ask call next) =>
    let (reply, gateway) := Gateway.answerHealth call work.gateway
    ⟨gateway, work.callers.set caller (next reply), work.history ++ [⟨caller, call, reply, gateway⟩]⟩
  | some (.done _) | none => work

/-- The steps of the callers in the given order. -/
def run (work : Concurrent) (schedule : List Nat) : Concurrent := schedule.foldl step work

/-- Whether all callers are done. -/
def isFinished (work : Concurrent) : Bool := work.callers.all fun program => program.value?.isSome

theorem step_cases (work : Concurrent) (caller : Nat) :
    work.step caller = work ∨ ∃ call next, work.callers[caller]? = some (.ask call next) := by
  cases hprogram : work.callers[caller]? with
  | none =>
    left
    rw [step, hprogram]
  | some program =>
    cases program with
    | done value =>
      left
      rw [step, hprogram]
    | ask call next => exact .inr ⟨call, next, rfl⟩

end Concurrent

namespace Move

/-- Whether the step is a call of the store. -/
def isStoreCall (move : Move) : Bool :=
  match move.call with
  | .storedChannel _ | .updateStatus .. | .fetchEnabled => true
  | .install _ | .setEnabled .. | .notify _ => false

/-- Whether the step writes the status of a channel. -/
def writes (move : Move) (id : ChannelId) : Bool :=
  match move.call with
  | .updateStatus other _ => other == id
  | .storedChannel _ | .fetchEnabled | .install _ | .setEnabled .. | .notify _ => false

/-- Whether the step settles how the registry shows a channel, by a new table or by its flag. Disabling
a channel that the table lacks has nothing to change; enabling one fails, and the caller goes on to load
a table. -/
def publishes (move : Move) (id : ChannelId) : Bool :=
  match move with
  | ⟨_, .install _, _, _⟩ => true
  | ⟨_, .setEnabled other enabled, found, _⟩ => other == id && (found || !enabled)
  | ⟨_, .storedChannel _, _, _⟩ | ⟨_, .updateStatus .., _, _⟩ | ⟨_, .fetchEnabled, _, _⟩
  | ⟨_, .notify _, _, _⟩ => false

end Move

end RelayGateway
