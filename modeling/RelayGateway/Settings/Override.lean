import RelayGateway.Settings.Basic
import RelayGateway.Text.Fields
import RelayGateway.Text.Lowercase
import RelayGateway.Text.Numeral

/-! # Overriding single settings

* `Override`: a dotted path and a value.
* `overridesOf`: the overrides that environment variables give; the last one for a path counts.
* `Settings.override`: one override applied; an unknown path changes nothing.
* `Settings.overrideAll`: all of them, one after the other.
-/

set_option autoImplicit false

namespace RelayGateway

/-- A value for the setting at a dotted path. -/
structure Override where
  path : String
  value : String
  deriving DecidableEq

/-- An environment variable. -/
structure Variable where
  name : String
  value : String
  deriving DecidableEq

/-- A variable written as its name, an equals sign and its value. -/
def Variable.ofText? (text : String) : Option Variable :=
  let (name, value) := text.toList.span fun c => c != '='
  match value with
  | [] => none
  | _ :: value => some ⟨String.ofList name, String.ofList value⟩

/-- How the names of variables that concern the gateway begin. -/
def variableMark : String := "GATEWAY_"

def settingsPathVariable : String := "GATEWAY_CONFIG_PATH"

/-- The path that a variable overrides: its name in lower case, with dots for underscores. -/
def overridePath? (name : String) : Option String :=
  match Text.after? variableMark name with
  | none => none
  | some rest =>
    if rest = "CONFIG_PATH" then none
    else some (String.ofList ((Text.toLower rest).toList.map fun c => if c = '_' then '.' else c))

/-- Adds an override, in the place of an earlier one for the same path. -/
def putOverride (overrides : List Override) (item : Override) : List Override :=
  overrides.filter (fun other => other.path != item.path) ++ [item]

/-- The overrides that environment variables give. -/
def overridesOf (environment : List Variable) : List Override :=
  (environment.filterMap fun entry =>
    (overridePath? entry.name).map fun path => ⟨path, entry.value⟩).foldl putOverride []

def lookupVariable (environment : List Variable) (name : String) : Option String :=
  (environment.find? fun entry => entry.name == name).map (·.value)

def truthValue? (text : String) : Option Bool :=
  if text = "true" then some true else if text = "false" then some false else none

namespace Override

/-- The error of a value that its setting cannot have. -/
def invalid (item : Override) : ServiceError :=
  .config s!"无效的配置值 {item.path} = {item.value}" (some "invalid value")

def read {α : Type} (item : Override) (value? : String → Option α) : Except ServiceError α :=
  match value? item.value with
  | some value => .ok value
  | none => .error item.invalid

def uint16 (item : Override) : Except ServiceError UInt16 :=
  item.read fun text => (Text.natural? 65535 text).map UInt16.ofNat

def uint32 (item : Override) : Except ServiceError UInt32 :=
  item.read fun text => (Text.natural? 4294967295 text).map UInt32.ofNat

def uint64 (item : Override) : Except ServiceError UInt64 :=
  item.read fun text => (Text.natural? 18446744073709551615 text).map UInt64.ofNat

def flag (item : Override) : Except ServiceError Bool :=
  item.read truthValue?

end Override

namespace Settings

def withDatabase (settings : Settings) (change : DatabaseSettings → DatabaseSettings) : Settings :=
  { settings with database := change settings.database }

def withRelay (settings : Settings) (change : RelaySettings → RelaySettings) : Settings :=
  { settings with relay := change settings.relay }

def withUpkeep (settings : Settings) (change : UpkeepSettings → UpkeepSettings) : Settings :=
  { settings with upkeep := change settings.upkeep }

def withManagement (settings : Settings) (change : ManagementSettings → ManagementSettings) :
    Settings :=
  { settings with management := change settings.management }

def override (settings : Settings) (item : Override) : Except ServiceError Settings :=
  match item.path with
  | "database.url" => .ok (settings.withDatabase fun s => { s with url := item.value })
  | "database.max.connections" => do
    let n ← item.uint32
    return settings.withDatabase fun s => { s with maxConnections := n }
  | "relay.retry.times" => do
    let n ← item.uint32
    return settings.withRelay fun s => { s with retryTimes := n }
  | "relay.retry.timeout.seconds" => do
    let n ← item.uint64
    return settings.withRelay fun s => { s with retryTimeoutSeconds := n }
  | "relay.retry.cooldown.seconds" => do
    let n ← item.uint64
    return settings.withRelay fun s => { s with cooldownSeconds := n }
  | "relay.default.channel.weight" => do
    let n ← item.uint32
    return settings.withRelay fun s => { s with defaultWeight := n }
  | "relay.model.name.case.insensitive" => do
    let b ← item.flag
    return settings.withRelay fun s => { s with ignoreCase := b }
  | "relay.automatic.disable.channel" => do
    let b ← item.flag
    return settings.withRelay fun s => { s with automaticDisable := b }
  | "relay.disable.channel.keywords" =>
    .ok (settings.withRelay fun s => { s with disableKeywords := Text.splitList item.value })
  | "channels.reload.interval.seconds" => do
    let n ← item.uint64
    return settings.withUpkeep fun s => { s with reloadIntervalSeconds := n }
  | "channels.cooldown.sweep.interval.seconds" => do
    let n ← item.uint64
    return settings.withUpkeep fun s => { s with sweepIntervalSeconds := n }
  | "management.host" => .ok (settings.withManagement fun s => { s with host := item.value })
  | "management.port" => do
    let n ← item.uint16
    return settings.withManagement fun s => { s with port := n }
  | "notify.webhook.url" =>
    .ok { settings with notify := { settings.notify with webhookUrl := some item.value } }
  | _ => .ok settings

def overrideAll (settings : Settings) (overrides : List Override) : Except ServiceError Settings :=
  overrides.foldlM override settings

end Settings

end RelayGateway
