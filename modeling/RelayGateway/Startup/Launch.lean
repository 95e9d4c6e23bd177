import RelayGateway.Gateway.State
import RelayGateway.Http.Management
import RelayGateway.Http.SocketAddress
import RelayGateway.Startup.CommandLine
import RelayGateway.Startup.Database

/-! # Starting up

* `launch`: settings, database, tables, gateway and listening address, in this order; the first that
  fails ends the start.
* `Exit`: how an invocation ends when it does not go on to serve.
* `invoke`: a whole invocation up to the point at which the gateway would listen.
-/

set_option autoImplicit false

namespace RelayGateway

def programName : String := "llm-gateway"

def versionLine : String := s!"{programName} {gatewayVersion}\n"

/-- A gateway that is ready to listen. -/
structure Launched where
  gateway : Gateway
  settings : Settings
  address : Http.SocketAddress

def launchSettings (environment : List Variable) (options : Options) :
    FileProgram (Except ServiceError Settings) := do
  let path := options.settingsPath.getD (settingsPath environment)
  let file ← Program.request (FileCall.read path)
  return loadSettings path file (overridesOf environment)

def launchDatabase (database : DatabaseSettings) : FileProgram (Except ServiceError Unit) := do
  match ← openDatabase database with
  | .error err => return .error (.context "数据库连接失败" err.toService)
  | .ok location =>
    match ← migrate location with
    | .error err => return .error (.context "数据库迁移失败" err.toService)
    | .ok () => return .ok ()

/-- The gateway of the settings over a new store, after its first load. -/
def launchGateway (settings : Settings) : Except ServiceError Gateway :=
  let (loaded, gateway) :=
    Gateway.loadAll (.ofSettings settings.relay settings.management.corsOrigins .fresh)
  loaded.map fun () => gateway

def launch (environment : List Variable) (options : Options) :
    FileProgram (Except ServiceError Launched) := do
  match ← launchSettings environment options with
  | .error err => return .error err
  | .ok settings =>
    match ← launchDatabase settings.database with
    | .error err => return .error err
    | .ok () => return do
        let gateway ← launchGateway settings
        let address ← Http.listenAddress settings.management.host settings.management.port
        return { gateway, settings, address }

/-- How an invocation ends. -/
inductive Exit where
  | help
  | version
  | mistake
  | failed (error : ServiceError)
  /-- The gateway goes on to serve. -/
  | serving (launched : Launched)

def Exit.code : Exit → Nat
  | .help | .version | .serving _ => 0
  | .mistake => 2
  | .failed _ => 1

def invoke (environment : List Variable) (arguments : List String) : FileProgram Exit := do
  match Command.ofArguments arguments with
  | .help => return .help
  | .version => return .version
  | .mistake => return .mistake
  | .run options =>
    match ← launch environment options with
    | .error err => return .failed err
    | .ok launched => return .serving launched

end RelayGateway
