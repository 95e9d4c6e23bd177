import RelayGateway.Channel.Basic
import RelayGateway.Relay.Usage

/-! # The retry budget of a request

* `RetryBudget`: the attempts made, the most that may be made, and the channels that have failed.
* `RetryBudget.ofChannels`: one attempt more than the configured retries, but not more than there
  were channels at the start, and at least one.
* `RetryBudget.remaining`: the attempts left; it falls with each attempt that there is room for.
* `timedOut`: whether the time limit has passed.
-/

set_option autoImplicit false

namespace RelayGateway

/-- The attempts of a request. Durations are in nanoseconds. -/
structure RetryBudget where
  /-- The channels that have failed, most recent first. -/
  excluded : List ChannelId
  attempts : UInt32
  maxAttempts : UInt32
  configuredRetries : UInt32
  /-- The channels available at the start; they are not counted again. -/
  channelsAtStart : Nat
  deriving DecidableEq

namespace RetryBudget

/-- The most attempts for the configured retries and the channels available at the start. -/
def limit (retries : UInt32) (channels : Nat) : UInt32 :=
  saturate (max 1 (min (saturate (retries.toNat + 1)).toNat (saturate channels).toNat))

def ofChannels (retries : UInt32) (channels : Nat) : RetryBudget :=
  ⟨[], 0, limit retries channels, retries, channels⟩

def countAttempt (budget : RetryBudget) : RetryBudget :=
  { budget with attempts := budget.attempts + 1 }

def exclude (budget : RetryBudget) (channel : ChannelId) : RetryBudget :=
  if budget.excluded.contains channel then budget
  else { budget with excluded := channel :: budget.excluded }

def maxRetries (budget : RetryBudget) : UInt32 := budget.maxAttempts - 1

def hasRoom (budget : RetryBudget) : Bool := budget.attempts < budget.maxAttempts

def remaining (budget : RetryBudget) : Nat := budget.maxAttempts.toNat - budget.attempts.toNat

@[simp] theorem exclude_attempts (budget : RetryBudget) (channel : ChannelId) :
    (budget.exclude channel).attempts = budget.attempts := by
  unfold exclude
  split <;> rfl

@[simp] theorem exclude_maxAttempts (budget : RetryBudget) (channel : ChannelId) :
    (budget.exclude channel).maxAttempts = budget.maxAttempts := by
  unfold exclude
  split <;> rfl

theorem hasRoom_iff (budget : RetryBudget) :
    budget.hasRoom = true ↔ budget.attempts.toNat < budget.maxAttempts.toNat := by
  simp [hasRoom, UInt32.lt_iff_toNat_lt]

/-- While there is room, counting an attempt does not wrap. -/
theorem toNat_countAttempt {budget : RetryBudget} (room : budget.hasRoom = true) :
    budget.countAttempt.attempts.toNat = budget.attempts.toNat + 1 := by
  have below := (hasRoom_iff budget).mp room
  have bound := budget.maxAttempts.toNat_lt
  show (budget.attempts + 1).toNat = _
  rw [UInt32.toNat_add]
  exact Nat.mod_eq_of_lt (by show _ + 1 < 2 ^ 32; omega)

/-- The next attempt, on another channel, has fewer attempts after it. -/
theorem remaining_countAttempt_lt {budget : RetryBudget} (room : budget.hasRoom = true)
    (failed : ChannelId) : (budget.exclude failed).countAttempt.remaining < budget.remaining := by
  have below := (hasRoom_iff budget).mp room
  have room' : (budget.exclude failed).hasRoom = true := by
    rw [hasRoom_iff, exclude_attempts, exclude_maxAttempts]
    exact below
  have counted := toNat_countAttempt room'
  rw [exclude_attempts] at counted
  have kept : (budget.exclude failed).countAttempt.maxAttempts = budget.maxAttempts :=
    exclude_maxAttempts budget failed
  unfold remaining
  rw [counted, kept]
  omega

end RetryBudget

/-- Whether more time has passed than the limit allows. -/
def timedOut (elapsed limit : Nat) : Bool := limit < elapsed

end RelayGateway
