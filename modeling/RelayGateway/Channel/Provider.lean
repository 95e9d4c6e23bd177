/-! # Vendors of upstream services

* `Provider`: the vendor family of a channel.
* `Provider.ofCode`, `Provider.code`: the stored number, both ways; a number that belongs to no known
  vendor is kept.
* `Provider.name`: the name shown in messages.
-/

set_option autoImplicit false

namespace RelayGateway

/-- The vendor family of a channel. -/
inductive Provider where
  | openai
  | azure
  | anthropic
  | gemini
  | mistral
  | bedrock
  | ollama
  | vertexai
  /-- A vendor that is known only by its number. -/
  | other (code : Int32)
  deriving DecidableEq, Inhabited

namespace Provider

def ofCode (code : Int32) : Provider :=
  if code = 1 then .openai
  else if code = 3 then .azure
  else if code = 14 then .anthropic
  else if code = 25 then .gemini
  else if code = 30 then .mistral
  else if code = 32 then .bedrock
  else if code = 39 then .ollama
  else if code = 42 then .vertexai
  else .other code

def code : Provider → Int32
  | .openai => 1
  | .azure => 3
  | .anthropic => 14
  | .gemini => 25
  | .mistral => 30
  | .bedrock => 32
  | .ollama => 39
  | .vertexai => 42
  | .other code => code

def name : Provider → String
  | .openai => "openai"
  | .azure => "azure"
  | .anthropic => "anthropic"
  | .gemini => "gemini"
  | .mistral => "mistral"
  | .bedrock => "bedrock"
  | .ollama => "ollama"
  | .vertexai => "vertexai"
  | .other code => s!"type_{code.toInt}"

def isKnown : Provider → Bool
  | .other _ => false
  | _ => true

/-- Every number that a stored vendor can have gives that number back. -/
theorem code_ofCode (n : Int32) : (ofCode n).code = n := by
  unfold ofCode
  repeat' split
  all_goals first | exact Eq.symm ‹_› | rfl

end Provider

end RelayGateway
