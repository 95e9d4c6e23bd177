import RelayGateway.Json

/-! # Token counts

* `Usage`: what a request used.
* `estimateTokens`: four ASCII characters count as one token, any other character as one.
* `saturate`: a count that stops at the greatest 32-bit number.
-/

set_option autoImplicit false

namespace RelayGateway

/-- A count as a 32-bit number; greater counts become the greatest one. -/
def saturate (count : Nat) : UInt32 :=
  UInt32.ofNat (min count maxUInt32)

/-- The tokens that a request used. -/
structure Usage where
  promptTokens : UInt32
  completionTokens : UInt32
  totalTokens : UInt32
  deriving DecidableEq, Inhabited

namespace Usage

/-- The usage with the given counts and their sum as total. -/
def ofCounts (prompt completion : UInt32) : Usage :=
  ⟨prompt, completion, saturate (prompt.toNat + completion.toNat)⟩

/-- The fields of a usage in their declared order. -/
def fieldNames : List String := ["prompt_tokens", "completion_tokens", "total_tokens"]

def toJson (usage : Usage) : Json :=
  .obj [
    ("prompt_tokens", .int usage.promptTokens.toNat),
    ("completion_tokens", .int usage.completionTokens.toNat),
    ("total_tokens", .int usage.totalTokens.toNat)]

def ofJson? (value : Json) : Option Usage := do
  let members ← value.members? fieldNames .refused
  let promptTokens ← Json.required? members "prompt_tokens" Json.uint32?
  let completionTokens ← Json.required? members "completion_tokens" Json.uint32?
  let totalTokens ← Json.required? members "total_tokens" Json.uint32?
  return { promptTokens, completionTokens, totalTokens }

end Usage

/-- The number of ASCII characters and the number of other characters, each saturated. -/
def countCharacters (text : String) : UInt32 × UInt32 :=
  let ascii := text.toList.countP fun c => c.toNat < 128
  (saturate ascii, saturate (text.toList.length - ascii))

def estimateTokens (text : String) : UInt32 :=
  let (ascii, other) := countCharacters text
  saturate ((ascii.toNat + 3) / 4 + other.toNat)

end RelayGateway
