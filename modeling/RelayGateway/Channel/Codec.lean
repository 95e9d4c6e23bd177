import RelayGateway.Channel.Basic
import RelayGateway.Json

/-! # Channels as JSON

* `Channel.members`, `Channel.toJson`: every field but the key, under the stored field names.
* `Channel.ofJson?`: reads a channel; unknown members are ignored, the key and the base address may
  be missing, and numbers must fit their fields.
-/

set_option autoImplicit false

namespace RelayGateway.Channel

/-- The fields of a channel in their declared order. -/
def fieldNames : List String :=
  ["id", "name", "channel_type", "key", "base_url", "groups", "models", "weight", "priority",
    "status", "only_chat", "disabled_stream"]

/-- The members of a channel as it is written: every field but the key. -/
def members (channel : Channel) : List (String × Json) :=
  [("id", .int channel.id.toInt),
    ("name", .str channel.name),
    ("channel_type", .int channel.provider.code.toInt),
    ("base_url", .ofText? channel.baseUrl),
    ("groups", .ofTexts channel.groups),
    ("models", .ofTexts channel.models),
    ("weight", .int channel.weight.toNat),
    ("priority", .int channel.priority.toInt),
    ("status", .str channel.status.name),
    ("only_chat", .bool channel.onlyChat),
    ("disabled_stream", .ofTexts channel.disabledStream)]

def toJson (channel : Channel) : Json := .obj channel.members

/-- A status by its name; the name may also be the only member of an object, with value `null`. -/
def statusOfJson? : Json → Option ChannelStatus
  | .str name => ChannelStatus.ofName? name
  | .obj [(name, .null)] => ChannelStatus.ofName? name
  | _ => none

def ofJson? (value : Json) : Option Channel := do
  let members ← value.members? fieldNames .refused
  let id ← Json.required? members "id" Json.int32?
  let name ← Json.required? members "name" Json.text?
  let code ← Json.required? members "channel_type" Json.int32?
  let key ← Json.withDefault? members "key" "" Json.text?
  let baseUrl ← Json.withDefault? members "base_url" none (Json.optional? Json.text?)
  let groups ← Json.required? members "groups" Json.texts?
  let models ← Json.required? members "models" Json.texts?
  let weight ← Json.required? members "weight" Json.uint32?
  let priority ← Json.required? members "priority" Json.int64?
  let status ← Json.required? members "status" statusOfJson?
  let onlyChat ← Json.required? members "only_chat" Json.flag?
  let disabledStream ← Json.required? members "disabled_stream" Json.texts?
  return {
    id, name, provider := .ofCode code, key, baseUrl, groups, models, weight, priority, status,
    onlyChat, disabledStream }

end RelayGateway.Channel
