import RelayGateway.Json
import RelayGateway.Settings.Basic

/-! # Settings as structured values

* `Settings.toJson`: all settings, section by section.
* `Settings.ofJson?`: reads settings; what is not given has its default value, and unknown members are
  ignored. A section may also be a list of its values in order.
-/

set_option autoImplicit false

namespace RelayGateway

def Json.ofUInt64? : Option UInt64 → Json
  | none => .null
  | some n => .int n.toNat

namespace DatabaseSettings

def toJson (database : DatabaseSettings) : Json :=
  .obj [
    ("url", .str database.url),
    ("max_connections", .int database.maxConnections.toNat),
    ("connect_timeout", .int database.connectTimeout.toNat)]

def ofJson? (surplus : Json.Surplus) (value : Json) : Option DatabaseSettings := do
  let members ← value.members? ["url", "max_connections", "connect_timeout"] surplus
  let base : DatabaseSettings := {}
  let url ← Json.withDefault? members "url" base.url Json.text?
  let maxConnections ← Json.withDefault? members "max_connections" base.maxConnections Json.uint32?
  let connectTimeout ← Json.withDefault? members "connect_timeout" base.connectTimeout Json.uint64?
  return { url, maxConnections, connectTimeout }

end DatabaseSettings

namespace RelaySettings

/-- The fields of the relay section in their declared order. -/
def fieldNames : List String :=
  ["retry_times", "retry_timeout_seconds", "retry_cooldown_seconds", "default_channel_weight",
    "model_name_case_insensitive", "automatic_disable_channel", "disable_channel_keywords"]

def toJson (relay : RelaySettings) : Json :=
  .obj [
    ("retry_times", .int relay.retryTimes.toNat),
    ("retry_timeout_seconds", .int relay.retryTimeoutSeconds.toNat),
    ("retry_cooldown_seconds", .int relay.cooldownSeconds.toNat),
    ("default_channel_weight", .int relay.defaultWeight.toNat),
    ("model_name_case_insensitive", .bool relay.ignoreCase),
    ("automatic_disable_channel", .bool relay.automaticDisable),
    ("disable_channel_keywords", .ofTexts relay.disableKeywords)]

def ofJson? (surplus : Json.Surplus) (value : Json) : Option RelaySettings := do
  let members ← value.members? fieldNames surplus
  let base : RelaySettings := {}
  let retryTimes ← Json.withDefault? members "retry_times" base.retryTimes Json.uint32?
  let retryTimeoutSeconds ←
    Json.withDefault? members "retry_timeout_seconds" base.retryTimeoutSeconds Json.uint64?
  let cooldownSeconds ←
    Json.withDefault? members "retry_cooldown_seconds" base.cooldownSeconds Json.uint64?
  let defaultWeight ←
    Json.withDefault? members "default_channel_weight" base.defaultWeight Json.uint32?
  let ignoreCase ←
    Json.withDefault? members "model_name_case_insensitive" base.ignoreCase Json.flag?
  let automaticDisable ←
    Json.withDefault? members "automatic_disable_channel" base.automaticDisable Json.flag?
  let disableKeywords ←
    Json.withDefault? members "disable_channel_keywords" base.disableKeywords Json.texts?
  return {
    retryTimes, retryTimeoutSeconds, cooldownSeconds, defaultWeight, ignoreCase, automaticDisable,
    disableKeywords }

end RelaySettings

namespace UpkeepSettings

/-- The section on keeping the routing table and the cooldowns fresh. -/
def toJson (upkeep : UpkeepSettings) : Json :=
  .obj [
    ("reload_interval_seconds", .int upkeep.reloadIntervalSeconds.toNat),
    ("cooldown_sweep_interval_seconds", .int upkeep.sweepIntervalSeconds.toNat)]

/-- Reads the section on keeping the routing table and the cooldowns fresh. -/
def ofJson? (surplus : Json.Surplus) (value : Json) : Option UpkeepSettings := do
  let members ←
    value.members? ["reload_interval_seconds", "cooldown_sweep_interval_seconds"] surplus
  let base : UpkeepSettings := {}
  let reloadIntervalSeconds ←
    Json.withDefault? members "reload_interval_seconds" base.reloadIntervalSeconds Json.uint64?
  let sweepIntervalSeconds ←
    Json.withDefault? members "cooldown_sweep_interval_seconds" base.sweepIntervalSeconds
      Json.uint64?
  return { reloadIntervalSeconds, sweepIntervalSeconds }

end UpkeepSettings

namespace ManagementSettings

def toJson (management : ManagementSettings) : Json :=
  .obj [
    ("host", .str management.host),
    ("port", .int management.port.toNat),
    ("cors_origins", .ofTexts management.corsOrigins)]

def ofJson? (surplus : Json.Surplus) (value : Json) : Option ManagementSettings := do
  let members ← value.members? ["host", "port", "cors_origins"] surplus
  let base : ManagementSettings := {}
  let host ← Json.withDefault? members "host" base.host Json.text?
  let port ← Json.withDefault? members "port" base.port Json.uint16?
  let corsOrigins ← Json.withDefault? members "cors_origins" base.corsOrigins Json.texts?
  return { host, port, corsOrigins }

end ManagementSettings

namespace NotifySettings

def toJson (notify : NotifySettings) : Json :=
  .obj [
    ("webhook_url", .ofText? notify.webhookUrl),
    ("timeout_seconds", .ofUInt64? notify.timeoutSeconds)]

def ofJson? (surplus : Json.Surplus) (value : Json) : Option NotifySettings := do
  let members ← value.members? ["webhook_url", "timeout_seconds"] surplus
  let webhookUrl ← Json.withDefault? members "webhook_url" none (Json.optional? Json.text?)
  let timeoutSeconds ←
    Json.withDefault? members "timeout_seconds" none (Json.optional? Json.uint64?)
  return { webhookUrl, timeoutSeconds }

end NotifySettings

namespace Settings

def toJson (settings : Settings) : Json :=
  .obj [
    ("database", settings.database.toJson),
    ("relay", settings.relay.toJson),
    ("channels", settings.upkeep.toJson),
    ("management", settings.management.toJson),
    ("notify", settings.notify.toJson)]

def ofJson? (surplus : Json.Surplus) (value : Json) : Option Settings := do
  let members ←
    value.members? ["database", "relay", "channels", "management", "notify"] surplus
  let database ←
    Json.withDefault? members "database" {} (DatabaseSettings.ofJson? surplus)
  let relay ← Json.withDefault? members "relay" {} (RelaySettings.ofJson? surplus)
  let upkeep ← Json.withDefault? members "channels" {} (UpkeepSettings.ofJson? surplus)
  let management ←
    Json.withDefault? members "management" {} (ManagementSettings.ofJson? surplus)
  let notify ← Json.withDefault? members "notify" {} (NotifySettings.ofJson? surplus)
  return { database, relay, upkeep, management, notify }

end Settings

end RelayGateway
