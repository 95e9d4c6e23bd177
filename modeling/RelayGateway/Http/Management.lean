import RelayGateway.Channel.Codec
import RelayGateway.Gateway.State
import RelayGateway.Http.Cors
import RelayGateway.Http.Endpoint

/-! # The management interface

* `Moment`: what a response shows of the moment it is made at.
* `reportSuccess`, `reportFailure`, `reportError`: the bodies of responses.
* `Gateway.answerEndpoint`: the response of an endpoint.
* `Gateway.serve`: the response to a request, with the headers that every response has.
-/

set_option autoImplicit false

namespace RelayGateway

namespace Http

/-- What a response shows of the moment it is made at. -/
structure Moment where
  /-- A request id for a request without a usable one. -/
  freshId : String
  timestamp : String
  uptimeSeconds : Nat

def plain (status : Nat) (content : String) : Response :=
  ⟨status, [("content-type", utf8 "text/plain; charset=utf-8")], .text content⟩

/-- A response with a record, to which the time is added. -/
def report (moment : Moment) (status : Nat) (members : List (String × Json)) : Response :=
  ⟨status, [("content-type", utf8 "application/json")],
    .json (.obj (members ++ [("timestamp", .str moment.timestamp)]))⟩

/-- The response that something was done or found. -/
def reportSuccess (moment : Moment) (data : Json) (message : Option String) : Response :=
  report moment 200 ([("success", .bool true), ("data", data)] ++
    (message.map fun text => ("message", Json.str text)).toList)

def reportFailure (moment : Moment) (status : Nat) (code message : String) : Response :=
  report moment status [("success", .bool false),
    ("error", .obj [("code", .str code), ("message", .str message)])]

/-- The response that reports an error of the service. -/
def reportError (moment : Moment) (err : ServiceError) : Response :=
  reportFailure moment err.httpStatus err.httpCode err.message

def badRequest (complaint : String) : Response := plain 400 complaint

def notFound : Response := ⟨404, [], .empty⟩

/-- The header with the methods that an endpoint takes. -/
def allowHeader (endpoint : Endpoint) : List (String × List UInt8) :=
  [("allow", utf8 (String.intercalate "," endpoint.methods))]

/-- The response to a method that an endpoint does not take. -/
def methodNotAllowed (endpoint : Endpoint) : Response := ⟨405, allowHeader endpoint, .empty⟩

def Response.withoutBody (response : Response) : Response := { response with body := .empty }

def Response.withHeaders (response : Response) (headers : List (String × List UInt8)) : Response :=
  { response with headers := response.headers ++ headers }

end Http

def gatewayVersion : String := "0.1.0"

def LoadSummary.toJson (summary : LoadSummary) : Json :=
  .obj [
    ("channels", .int summary.channels),
    ("groups", .int summary.groups),
    ("wildcard_models", .int summary.wildcardModels)]

/-- A stored channel as JSON, with whether it can be routed to. -/
def Channel.viewJson (channel : Channel) (routable : Bool) : Json :=
  match channel.toJson with
  | .obj members => .obj (members ++ [("routable", .bool routable)])
  | json => json

namespace Gateway

open Http

/-- The state of the gateway in figures. No disabling is under way between two requests. -/
def healthJson (gateway : Gateway) (moment : Moment) : Json :=
  .obj [
    ("status", .str "ok"),
    ("version", .str gatewayVersion),
    ("uptime_seconds", .int moment.uptimeSeconds),
    ("channels", .int gateway.registry.snapshot.channels.length),
    ("cooling_down", .int gateway.cooldowns.size),
    ("disable_in_flight", .int 0)]

/-- The response that reports the channel of an operation, or its error. -/
def reportOperation (moment : Moment) (message : String) (result : Except ServiceError Channel) :
    Response :=
  match result with
  | .ok channel => reportSuccess moment channel.toJson (some message)
  | .error err => reportError moment err

def showChannel (gateway : Gateway) (moment : Moment) (id : ChannelId) : Response :=
  match gateway.store.channel? id with
  | .ok (some channel) =>
    reportSuccess moment (channel.viewJson (gateway.registry.isChannelEnabled id)) none
  | .ok none => reportFailure moment 404 "CHANNEL_NOT_FOUND" s!"渠道 {id.toInt} 不存在"
  | .error err => reportError moment err

/-- The response that shows the models of a group. -/
def showGroup (gateway : Gateway) (moment : Moment) (group : String) : Response :=
  match gateway.registry.groupModels group with
  | .ok models => reportSuccess moment (.ofTexts models) none
  | .error err => reportError moment (.routing err)

/-- The response that shows which groups route each model. -/
def showModels (gateway : Gateway) (moment : Moment) : Response :=
  reportSuccess moment
    (.obj (gateway.registry.snapshot.modelsGroups.map fun entry => (entry.1, .ofTexts entry.2)))
    none

/-- The response to a request that names a channel in its path. -/
def withChannel (raw : String) (answer : ChannelId → StateM Gateway Response) :
    StateM Gateway Response :=
  match channelId raw with
  | .error complaint => return badRequest complaint
  | .ok id => answer id

def answerEndpoint (moment : Moment) (endpoint : Endpoint) (query : String) : StateM Gateway Response := do
  let gateway ← get
  match endpoint with
  | .ping => return plain 200 "pong"
  | .health => return reportSuccess moment (gateway.healthJson moment) none
  | .reload =>
    match ← perform loadChannels with
    | .ok summary => return reportSuccess moment summary.toJson (some "路由表已重载")
    | .error err => return reportError moment err
  | .channel raw => withChannel raw fun id => return gateway.showChannel moment id
  | .enable raw =>
    withChannel raw fun id =>
      match notifyFlag query with
      | .error complaint => return badRequest complaint
      | .ok notify => do
        return reportOperation moment "渠道已启用" (← perform (enableChannel id notify))
  | .disable raw =>
    withChannel raw fun id => do
      return reportOperation moment "渠道已禁用" (← perform (disableManually id))
  | .groupModels raw =>
    match groupName raw with
    | .error complaint => return badRequest complaint
    | .ok group => return gateway.showGroup moment group
  | .modelsGroups => return gateway.showModels moment

/-- The response to a request, without the headers that every response has. -/
def answerRequest (moment : Moment) (request : Request) : StateM Gateway Response :=
  let target := Target.ofText request.target
  let endpoint := Endpoint.ofSegments? target.segments
  if request.method = "OPTIONS" then
    return ⟨200, preflightHeaders ++ (endpoint.map allowHeader).getD [], .empty⟩
  else
    match endpoint with
    | none => return notFound
    | some endpoint =>
      if endpoint.methods.contains request.method then do
        let response ← answerEndpoint moment endpoint target.query
        return if request.method = "HEAD" then response.withoutBody else response
      else return methodNotAllowed endpoint

def serve (moment : Moment) (request : Request) : StateM Gateway Response := do
  let gateway ← get
  let response ← answerRequest moment request
  return response.withHeaders
    ((AllowedOrigins.ofList gateway.corsOrigins).header (request.header? "origin") ++
      [("x-request-id", utf8 (request.id moment.freshId))])

end Gateway

end RelayGateway
