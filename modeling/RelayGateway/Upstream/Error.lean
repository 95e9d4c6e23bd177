import RelayGateway.Json
import RelayGateway.Routing.Error

/-! # Errors of an attempt

* `UpstreamError`: a status code with an error body, from an upstream or made by the gateway itself.
* `UpstreamError.ofRouting`: how a routing error is told to a client.
* `DispatchFailure`: an error together with whether the answer had already begun.
-/

set_option autoImplicit false

namespace RelayGateway

/-- The body of an error. -/
structure ErrorBody where
  message : String
  kind : String
  param : Option String
  code : Option String
  deriving DecidableEq, Inhabited

/-- An error with a status code. -/
structure UpstreamError where
  status : UInt16
  body : ErrorBody
  /-- Made by the gateway itself: never retried, and no reason to disable a channel. -/
  isLocal : Bool
  deriving DecidableEq, Inhabited

namespace UpstreamError

def upstream (status : UInt16) (message kind : String) : UpstreamError :=
  ⟨status, ⟨message, kind, none, none⟩, false⟩

def ofGateway (status : UInt16) (message kind : String) : UpstreamError :=
  ⟨status, ⟨message, kind, none, none⟩, true⟩

def message (err : UpstreamError) : String := err.body.message

def withMessage (err : UpstreamError) (message : String) : UpstreamError :=
  { err with body := { err.body with message } }

def display (err : UpstreamError) : String :=
  s!"[{err.status.toNat}] {err.message}"

/-- The body as it is sent to a client; a missing parameter or code is left out. -/
def toJson (err : UpstreamError) : Json :=
  .obj [("error", .obj (
    [("message", .str err.body.message), ("type", .str err.body.kind)] ++
    (err.body.param.map fun param => ("param", Json.str param)).toList ++
    (err.body.code.map fun code => ("code", Json.str code)).toList))]

/-- The text in which a client is told that nothing serves a model. -/
def unavailableMessage (group model : String) : String :=
  s!"当前分组 {group} 下对于模型 {model} 无可用渠道"

/-- The text in which a client is told of a routing error. -/
def routingMessage (err : RoutingError) (group model : String) : String :=
  match err with
  | .databaseConsistencyBroken _ => "数据库一致性已被破坏，请联系管理员"
  | .modelNotFound _ | .modelNotFoundInGroup .. => unavailableMessage group model
  | err => if err.isCapacityExhausted then unavailableMessage group model else err.message

/-- The error that a client gets for a routing error. -/
def ofRouting (err : RoutingError) (group model : String) : UpstreamError :=
  ofGateway 503 (routingMessage err group model) "one_hub_error"

end UpstreamError

/-- A failed dispatch. -/
structure DispatchFailure where
  error : UpstreamError
  /-- The answer has begun, so no other channel can take over. -/
  committed : Bool
  deriving DecidableEq, Inhabited

end RelayGateway
