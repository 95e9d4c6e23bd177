import RelayGateway.Balance.Filter
import RelayGateway.Json
import RelayGateway.Relay.Usage
import RelayGateway.ServiceError
import RelayGateway.Text.Numeral

/-! # Requests, charges and answers

* `Ratio`: a billing ratio, kept as the bits of a double because it is only carried along.
* `RelayRequest`: one logical request; `RelayRequest.effectiveGroup` is the group it is routed in, and
  `RelayRequest.inGroup` writes group and ratio into it.
* `Charge`, `Reservation`: what a quota service is asked to reserve, and its confirmation.
* `DispatchOutcome`, `RelayResponse`: what an upstream gave, and what the client gets.
* `countPrompt`: the estimate for the prompt, refused above a limit.
-/

set_option autoImplicit false

namespace RelayGateway

/-- A billing ratio as the bits of an IEEE 754 double. -/
structure Ratio where
  bits : UInt64
  deriving DecidableEq

def Ratio.one : Ratio := ⟨0x3FF0000000000000⟩

instance : Inhabited Ratio := ⟨.one⟩

/-- The bits of a ratio as sixteen hexadecimal digits. -/
def Ratio.toJson (ratio : Ratio) : Json :=
  .str (String.ofList (Text.hexDigits 16 ratio.bits.toNat))

/-- One logical request. -/
structure RelayRequest where
  requestId : String
  /-- The group of the user. -/
  userGroup : String
  /-- The group of the token, empty if the token names none. -/
  tokenGroup : String
  /-- The billing ratio of the group, written in when the request is authorized. -/
  groupRatio : Ratio := .one
  /-- The model the client asked for. -/
  model : String
  stream : Bool
  /-- A channel to be used without failover. -/
  pinned : Option ChannelId
  skipOnlyChat : Bool
  allowedProviders : Option (List Provider)
  /-- The text from which the prompt tokens are estimated. -/
  prompt : String
  /-- Handed on to the upstream. -/
  body : Json
  deriving Inhabited

/-- The group in which a request is routed: that of the token, or else that of the user. -/
def effectiveGroup (userGroup tokenGroup : String) : String :=
  if tokenGroup = "" then userGroup else tokenGroup

def RelayRequest.effectiveGroup (request : RelayRequest) : String :=
  RelayGateway.effectiveGroup request.userGroup request.tokenGroup

/-- The request with the group in which it is routed, and the ratio at which it is billed. -/
def RelayRequest.inGroup (request : RelayRequest) (group : String) (ratio : Ratio) : RelayRequest :=
  { request with tokenGroup := group, groupRatio := ratio }

/-- What a quota service is asked to reserve. -/
structure Charge where
  requestId : String
  group : String
  ratio : Ratio
  model : String
  promptTokens : UInt32
  deriving DecidableEq, Inhabited

/-- A reservation that a quota service has made. -/
structure Reservation where
  charge : Charge
  reserved : Int64
  deriving DecidableEq, Inhabited

/-- What an upstream gave. -/
structure DispatchOutcome where
  /-- The reported usage, if one was reported. -/
  usage : Option Usage
  /-- The text that was streamed. -/
  text : String
  body : Json
  deriving Inhabited

/-- What the client gets. -/
structure RelayResponse where
  channel : ChannelId
  usage : Usage
  attempts : UInt32
  body : Json
  deriving Inhabited

def RelayResponse.toJson (response : RelayResponse) : Json :=
  .obj [
    ("channel_id", .int response.channel.toInt),
    ("usage", response.usage.toJson),
    ("attempts", .int response.attempts.toNat),
    ("body", response.body)]

/-- The limit on prompt tokens unless another is set. -/
def defaultMaxPromptTokens : UInt32 := 2000000

/-- The estimated prompt tokens of a text, unless they exceed the limit. -/
def countPrompt (maxTokens : UInt32) (prompt : String) : Except ServiceError UInt32 :=
  let tokens := estimateTokens prompt
  if tokens ≤ maxTokens then .ok tokens
  else .error (.business s!"提示词 token 数 {tokens.toNat} 超过上限 {maxTokens.toNat}")

/-- The usage that is billed for an outcome. A missing report counts the prompt alone, and a report
without completion tokens is completed from the streamed text. -/
def billedUsage (promptTokens : UInt32) (outcome : DispatchOutcome) : Usage :=
  let usage := outcome.usage.getD (.ofCounts promptTokens 0)
  if usage.completionTokens = 0 ∧ outcome.text ≠ "" then
    .ofCounts usage.promptTokens (estimateTokens outcome.text)
  else usage

end RelayGateway
