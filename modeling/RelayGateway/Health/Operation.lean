import RelayGateway.Program
import RelayGateway.Routing.Registry
import RelayGateway.ServiceError
import RelayGateway.Upstream.Verdict

/-! # Keeping channels healthy

* `HealthCall`, `HealthReply`: the single steps of which health operations consist. Each store call,
  each write of a runtime flag and each change of the routing table is one step.
* `loadChannels`: reads the enabled channels and installs the routing table that they give.
* `disableChannel`: disables a channel after a failure, in the store and in routing, and notifies.
* `disableManually`, `enableChannel`: what an operator can order.
* `processFailure`: disables a channel if a failure calls for it.
-/

set_option autoImplicit false

namespace RelayGateway

/-- A message to the operators. -/
structure Notice where
  subject : String
  body : String
  deriving DecidableEq

/-- One step of a health operation. -/
inductive HealthCall where
  | storedChannel (id : ChannelId)
  | updateStatus (id : ChannelId) (status : ChannelStatus)
  | fetchEnabled
  | install (channels : List Channel)
  | setEnabled (id : ChannelId) (enabled : Bool)
  /-- Sends a notice; whether it arrives is nobody's concern. -/
  | notify (notice : Notice)

/-- The replies to the steps of a health operation. -/
@[reducible] def HealthReply : HealthCall → Type
  | .storedChannel _ => Except ServiceError (Option Channel)
  | .updateStatus .. => Except ServiceError Bool
  | .fetchEnabled => Except ServiceError (List Channel)
  | .install _ => LoadSummary
  | .setEnabled .. => Bool
  | .notify _ => Unit

abbrev HealthProgram (α : Type) := Program HealthReply α

/-- What came of disabling a channel after a failure. -/
inductive DisableOutcome where
  | disabled
  /-- It was disabled before, and nobody is notified again. -/
  | alreadyDisabled
  | notFound
  | failed (message : String)
  deriving DecidableEq

/-- An outcome as JSON: its name, and for a failure its message too. -/
def DisableOutcome.toJson : DisableOutcome → Json
  | .disabled => .str "disabled"
  | .alreadyDisabled => .str "already_disabled"
  | .notFound => .str "not_found"
  | .failed message => .obj [("failed", .str message)]

def disabledNotice (id : ChannelId) (name reason : String) : Notice :=
  let subject := s!"通道「{name}」（#{id.toInt}）已被禁用"
  ⟨subject, s!"{subject}，原因：{reason}"⟩

def enabledNotice (id : ChannelId) (name : String) : Notice :=
  let subject := s!"通道「{name}」（#{id.toInt}）已被启用"
  ⟨subject, subject⟩

/-- Loads the routing table; after an error the old one stays. -/
def loadChannels : HealthProgram (Except ServiceError LoadSummary) := do
  match ← Program.request HealthCall.fetchEnabled with
  | .error err => return .error err
  | .ok channels => return .ok (← Program.request (HealthCall.install channels))

def disableChannel (id : ChannelId) (name reason : String) (notify : Bool) :
    HealthProgram DisableOutcome := do
  match ← Program.request (HealthCall.storedChannel id) with
  | .error err => return .failed err.message
  | .ok none => return .notFound
  | .ok (some channel) =>
    if channel.status.isDisabled then
      let _ ← Program.request (HealthCall.setEnabled id false)
      return .alreadyDisabled
    else
      match ← Program.request (HealthCall.updateStatus id .autoDisabled) with
      | .error err => return .failed err.message
      | .ok _ =>
        let _ ← Program.request (HealthCall.setEnabled id false)
        if notify then
          Program.request (HealthCall.notify (disabledNotice id name reason))
        return .disabled

/-- The stored channel, or the error that there is none. -/
def requireChannel (id : ChannelId) : HealthProgram (Except ServiceError Channel) := do
  match ← Program.request (HealthCall.storedChannel id) with
  | .error err => return .error err
  | .ok none => return .error (.notFound "channel" s!"{id.toInt}")
  | .ok (some channel) => return .ok channel

/-- Disables a channel by order. The reply is the channel as it was read before. -/
def disableManually (id : ChannelId) : HealthProgram (Except ServiceError Channel) := do
  match ← requireChannel id with
  | .error err => return .error err
  | .ok channel =>
    match ← Program.request (HealthCall.updateStatus id .manuallyDisabled) with
    | .error err => return .error err
    | .ok _ =>
      let _ ← Program.request (HealthCall.setEnabled id false)
      return .ok channel

/-- Makes a channel routable: by its flag if the table has it, else by a load. -/
def makeRoutable (id : ChannelId) : HealthProgram (Except ServiceError Unit) := do
  let known : Bool ← Program.request (HealthCall.setEnabled id true)
  if known then
    return .ok ()
  else
    match ← loadChannels with
    | .error err => return .error err
    | .ok _ => return .ok ()

/-- Enables a channel by order. The reply is the channel as it was read before. -/
def enableChannel (id : ChannelId) (notify : Bool) :
    HealthProgram (Except ServiceError Channel) := do
  match ← requireChannel id with
  | .error err => return .error err
  | .ok channel =>
    match ← Program.request (HealthCall.updateStatus id .enabled) with
    | .error err => return .error err
    | .ok _ =>
      match ← makeRoutable id with
      | .error err => return .error err
      | .ok () =>
        if notify then
          Program.request (HealthCall.notify (enabledNotice id channel.name))
        return .ok channel

/-- Disables the channel of a failure if the failure calls for it. -/
def processFailure (classifier : Classifier) (channel : Channel) (err : UpstreamError) :
    HealthProgram (Option DisableOutcome) := do
  match classifier.disableRule? err channel.provider with
  | none => return none
  | some _ => return some (← disableChannel channel.id channel.name err.message true)

end RelayGateway
