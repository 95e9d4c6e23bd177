import RelayGateway.Channel.Basic
import RelayGateway.Http.Target

/-! # Endpoints of the management interface

* `Endpoint`: the resources, with the parts of the path that name one.
* `Endpoint.ofSegments?`: the endpoint of a path; a slash at the end is not tolerated.
* `Endpoint.isQuery`, `Endpoint.methods`: whether an endpoint is read or acted upon, and the methods it takes.
* `channelId`, `groupName`, `notifyFlag`: decoded parts of a target, or the complaint about them.
-/

set_option autoImplicit false

namespace RelayGateway.Http

/-- A resource; the parts of the path are not decoded. -/
inductive Endpoint where
  | ping
  | health
  | reload
  | channel (id : String)
  | enable (id : String)
  | disable (id : String)
  | groupModels (group : String)
  | modelsGroups
  deriving DecidableEq

namespace Endpoint

def ofSegments? : List String → Option Endpoint
  | ["", "ping"] => some .ping
  | ["", "api", "health"] => some .health
  | ["", "api", "channels", "reload"] => some .reload
  | ["", "api", "channels", id] => if id = "" then none else some (.channel id)
  | ["", "api", "channels", id, "enable"] => some (.enable id)
  | ["", "api", "channels", id, "disable"] => some (.disable id)
  | ["", "api", "groups", group, "models"] => some (.groupModels group)
  | ["", "api", "models", "groups"] => some .modelsGroups
  | _ => none

def isQuery : Endpoint → Bool
  | .reload | .enable _ | .disable _ => false
  | _ => true

def methods (endpoint : Endpoint) : List String :=
  if endpoint.isQuery then ["GET", "HEAD"] else ["POST"]

end Endpoint

def pathText (name raw : String) : Except String String :=
  match ofUtf8? (percentDecode (utf8 raw)) with
  | some text => .ok text
  | none => .error s!"Invalid URL: Invalid UTF-8 in \x60{name}\x60"

def channelId (raw : String) : Except String ChannelId := do
  let text ← pathText "id" raw
  match Text.integer? Int32.minValue.toInt Int32.maxValue.toInt text with
  | some id => return Int32.ofInt id
  | none => .error s!"Invalid URL: Cannot parse \x60{text}\x60 to a \x60i32\x60"

def groupName (raw : String) : Except String String := pathText "group" raw

def queryComplaint (detail : String) : String :=
  s!"Failed to deserialize query string: {detail}"

/-- Reads on for the parameter `notify`, of which the value so far is given. -/
def notifyFrom : Option Bool → List (List UInt8 × List UInt8) → Except String Bool
  | seen, [] => .ok (seen.getD false)
  | seen, (name, value) :: rest =>
    if name = utf8 "notify" then
      if seen.isSome then .error (queryComplaint "duplicate field \x60notify\x60")
      else if value = utf8 "true" then notifyFrom (some true) rest
      else if value = utf8 "false" then notifyFrom (some false) rest
      else
        .error (queryComplaint
          "notify: provided string was not \x60true\x60 or \x60false\x60")
    else notifyFrom seen rest

/-- The parameter `notify` of a query, false if it is missing; other parameters are ignored. -/
def notifyFlag (query : String) : Except String Bool :=
  notifyFrom none (queryPairs query)

end RelayGateway.Http
