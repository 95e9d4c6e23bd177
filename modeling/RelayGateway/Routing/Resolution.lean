import RelayGateway.Text.Lowercase
import RelayGateway.Text.Search

/-! # From a requested model name to a routing key

* `isWildcard`, `stem?`: a key that ends in `*` stands for every name that begins with its stem.
* `matchWildcard`: of the patterns that match, the one with the longest stem, and of those the least.
* `resolveModel`: the key itself; then, when letter case is ignored, the least key that differs in case
  only, and the best pattern up to case; at last the best pattern.

Lengths are counted in UTF-8 bytes and texts are compared by code points, which is also their
order as UTF-8.
-/

set_option autoImplicit false

namespace RelayGateway

def isWildcard (pattern : String) : Bool :=
  Text.endsWith pattern "*"

def stem? (pattern : String) : Option String :=
  if isWildcard pattern then some (String.ofList pattern.toList.dropLast) else none

def lesser (a b : String) : String :=
  if b < a then b else a

def least? : List String → Option String
  | [] => none
  | text :: texts => some (texts.foldl lesser text)

/-- Whether pattern `a` is preferred to pattern `b`: the longer first, then the lesser. -/
def patternPreferred (a b : String) : Bool :=
  b.utf8ByteSize < a.utf8ByteSize || (a.utf8ByteSize == b.utf8ByteSize && a < b)

def preferredPattern (a b : String) : String :=
  if patternPreferred b a then b else a

def bestPattern? : List String → Option String
  | [] => none
  | pattern :: patterns => some (patterns.foldl preferredPattern pattern)

/-- Whether a pattern matches a model name, possibly up to letter case. -/
def patternMatches (ignoreCase : Bool) (model pattern : String) : Bool :=
  match stem? pattern with
  | none => false
  | some stem =>
    if ignoreCase then Text.startsWith (Text.toLower model) (Text.toLower stem)
    else Text.startsWith model stem

def matchWildcard (ignoreCase : Bool) (patterns : List String) (model : String) : Option String :=
  bestPattern? (patterns.filter (patternMatches ignoreCase model))

/-- The key of a group under which a requested model is routed. `keys` are the keys of the group, and
`wildcards` are the patterns routed in any group. -/
def resolveModel (ignoreCase : Bool) (keys wildcards : List String) (model : String) :
    Option String :=
  if keys.contains model then
    some model
  else
    let patterns := wildcards.filter keys.contains
    let lower := Text.toLower model
    let upToCase :=
      if ignoreCase then
        (least? (keys.filter fun key => Text.toLower key == lower)).or
          (matchWildcard true patterns model)
      else none
    upToCase.or (matchWildcard false patterns model)

end RelayGateway
