import RelayGateway.ServiceError
import RelayGateway.Text.Search

/-! # Settings of the gateway

* `Settings`: the five sections; the default values of the fields are those of a setting that is
  not given.
* `Settings.validate`: the demands on settings; the first one that is not met is the error.
* `Settings.managementAddress`, `DatabaseSettings.isMemory`, `DatabaseSettings.isSqlite`: what follows
  from them.
-/

set_option autoImplicit false

namespace RelayGateway

/-- Where the tables are kept. -/
structure DatabaseSettings where
  url : String := "sqlite://./data/gateway.db"
  maxConnections : UInt32 := 10
  /-- In seconds. -/
  connectTimeout : UInt64 := 30
  deriving DecidableEq

/-- The messages by which a channel is disabled unless others are set. -/
def defaultDisableKeywords : List String :=
  ["Your credit balance is too low",
    "This organization has been disabled",
    "You exceeded your current quota",
    "The security token included in the request is invalid",
    "Your account is not authorized",
    "Permission denied"]

/-- How requests are retried and channels disabled. -/
structure RelaySettings where
  /-- The attempts allowed after the first. -/
  retryTimes : UInt32 := 3
  retryTimeoutSeconds : UInt64 := 60
  /-- How long a rate limit cools a channel; zero turns cooling off. -/
  cooldownSeconds : UInt64 := 5
  /-- The weight of channels whose own weight is zero. -/
  defaultWeight : UInt32 := 1
  ignoreCase : Bool := false
  automaticDisable : Bool := true
  disableKeywords : List String := defaultDisableKeywords
  deriving DecidableEq

/-- How the routing table and the cooldowns are kept fresh. -/
structure UpkeepSettings where
  /-- Zero means that the table is loaded by order only. -/
  reloadIntervalSeconds : UInt64 := 0
  sweepIntervalSeconds : UInt64 := 3600
  deriving DecidableEq

/-- The management interface. -/
structure ManagementSettings where
  host : String := "127.0.0.1"
  port : UInt16 := 9090
  /-- The web origins that may read responses. -/
  corsOrigins : List String := ["*"]
  deriving DecidableEq

/-- How operators are notified. -/
structure NotifySettings where
  /-- Without an address notices are only logged. -/
  webhookUrl : Option String := none
  timeoutSeconds : Option UInt64 := none
  deriving DecidableEq

/-- All settings. -/
structure Settings where
  database : DatabaseSettings := {}
  relay : RelaySettings := {}
  upkeep : UpkeepSettings := {}
  management : ManagementSettings := {}
  notify : NotifySettings := {}
  deriving DecidableEq

namespace DatabaseSettings

def isMemory (database : DatabaseSettings) : Bool :=
  Text.contains database.url ":memory:"

def isSqlite (database : DatabaseSettings) : Bool :=
  Text.startsWith database.url "sqlite:"

end DatabaseSettings

def isWebAddress (url : String) : Bool :=
  Text.startsWith url "http://" || Text.startsWith url "https://"

/-- The host and the port on which the management interface listens. -/
def ManagementSettings.address (management : ManagementSettings) : String :=
  s!"{management.host}:{management.port.toNat}"

/-- A demand on settings, and what is said when it is not met. -/
structure Demand where
  isMet : Bool
  complaint : String

namespace Settings

/-- The demands on settings, in the order in which they are examined. -/
def demands (settings : Settings) : List Demand :=
  [⟨settings.database.url != "", "Database URL cannot be empty"⟩,
    ⟨settings.database.maxConnections != 0, "Database max_connections must be greater than 0"⟩,
    ⟨settings.relay.retryTimeoutSeconds != 0,
      "relay.retry_timeout_seconds must be greater than 0"⟩,
    ⟨settings.relay.defaultWeight != 0, "relay.default_channel_weight must be greater than 0"⟩,
    ⟨settings.upkeep.sweepIntervalSeconds != 0,
      "channels.cooldown_sweep_interval_seconds must be greater than 0"⟩,
    ⟨settings.management.port != 0, "management.port must be greater than 0"⟩] ++
  (settings.notify.webhookUrl.map fun url =>
    ⟨isWebAddress url, s!"notify.webhook_url 必须是 http(s) 地址: {url}"⟩).toList

/-- Settings that meet all demands, or the first complaint. -/
def validate (settings : Settings) : Except ServiceError Unit :=
  match settings.demands.find? fun demand => !demand.isMet with
  | some demand => .error (.config demand.complaint none)
  | none => .ok ()

end Settings

end RelayGateway
