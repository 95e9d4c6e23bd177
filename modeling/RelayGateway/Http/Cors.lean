import RelayGateway.Http.Message
import RelayGateway.Http.Target

/-! # Access from other web origins

* `AllowedOrigins`: everyone, or the listed origins.
* `AllowedOrigins.ofList`: a list with a star in it, or with something that no header can carry, allows
  everyone.
* `AllowedOrigins.header`: what a response says about the origin of its request.
* `preflightHeaders`: what the answer to an inquiry about options says.
-/

set_option autoImplicit false

namespace RelayGateway.Http

/-- The web origins that may read responses. -/
inductive AllowedOrigins where
  | everyone
  | listed (origins : List (List UInt8))
  deriving DecidableEq

namespace AllowedOrigins

def ofList (origins : List String) : AllowedOrigins :=
  if origins.contains "*" then .everyone
  else
    let values := origins.map utf8
    if values.all isHeaderValue then .listed values else .everyone

/-- The header about the origin of a request; an origin that is not listed gets none. -/
def header (allowed : AllowedOrigins) (origin : Option (List UInt8)) :
    List (String × List UInt8) :=
  match allowed with
  | .everyone => [("access-control-allow-origin", utf8 "*")]
  | .listed origins =>
    match origin with
    | some value =>
      if origins.contains value then [("access-control-allow-origin", value)] else []
    | none => []

end AllowedOrigins

/-- The headers that tell which methods and headers may be used. -/
def preflightHeaders : List (String × List UInt8) :=
  [("access-control-allow-methods", utf8 "GET,POST"),
    ("access-control-allow-headers", utf8 "content-type,authorization")]

end RelayGateway.Http
