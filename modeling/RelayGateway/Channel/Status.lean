/-! # Durable status of a channel

* `ChannelStatus`: enabled, disabled by an operator, disabled after a failure, or unknown.
* `ChannelStatus.ofCode`, `ChannelStatus.code`: the stored number; every unknown number is stored back
  as zero.
-/

set_option autoImplicit false

namespace RelayGateway

/-- The status that the store keeps for a channel. -/
inductive ChannelStatus where
  | enabled
  | manuallyDisabled
  | autoDisabled
  | unknown
  deriving DecidableEq, Inhabited

namespace ChannelStatus

def ofCode (code : Int32) : ChannelStatus :=
  if code = 1 then .enabled
  else if code = 2 then .manuallyDisabled
  else if code = 3 then .autoDisabled
  else .unknown

def code : ChannelStatus → Int32
  | .enabled => 1
  | .manuallyDisabled => 2
  | .autoDisabled => 3
  | .unknown => 0

/-- The name of a status, in messages and in JSON. -/
def name : ChannelStatus → String
  | .enabled => "enabled"
  | .manuallyDisabled => "manually_disabled"
  | .autoDisabled => "auto_disabled"
  | .unknown => "unknown"

def ofName? (name : String) : Option ChannelStatus :=
  [.enabled, .manuallyDisabled, .autoDisabled, .unknown].find? fun status => status.name == name

/-- Whether the channel was disabled, by an operator or after a failure. -/
def isDisabled : ChannelStatus → Bool
  | .manuallyDisabled | .autoDisabled => true
  | _ => false

theorem ofName?_name (status : ChannelStatus) : ofName? status.name = some status := by
  cases status <;> decide

theorem ofCode_code (status : ChannelStatus) : ofCode status.code = status := by
  cases status <;> decide

end ChannelStatus

end RelayGateway
