/-! # Labels of log lines

* `LogStage`: the stage of work that a line is about.
* `LogComponent`: the part of the gateway that writes it.
-/

set_option autoImplicit false

namespace RelayGateway

/-- A stage of work. -/
inductive LogStage where
  | startup
  | shutdown
  | configuration
  | db
  | scheduling
  | retry
  | upstreamRequest
  | cooldown
  | healthCheck
  | notification
  | backgroundTask
  | response
  | error
  | internal
  deriving DecidableEq

namespace LogStage

def all : List LogStage :=
  [.startup, .shutdown, .configuration, .db, .scheduling, .retry, .upstreamRequest, .cooldown,
    .healthCheck, .notification, .backgroundTask, .response, .error, .internal]

def name : LogStage → String
  | .startup => "startup"
  | .shutdown => "shutdown"
  | .configuration => "configuration"
  | .db => "db"
  | .scheduling => "scheduling"
  | .retry => "retry"
  | .upstreamRequest => "upstream_request"
  | .cooldown => "cooldown"
  | .healthCheck => "health_check"
  | .notification => "notification"
  | .backgroundTask => "background_task"
  | .response => "response"
  | .error => "error"
  | .internal => "internal"

end LogStage

/-- A part of the gateway. -/
inductive LogComponent where
  | main
  | config
  | database
  | registry
  | balancer
  | cooldown
  | relay
  | health
  | notifier
  | quota
  | auth
  | scheduler
  | management
  deriving DecidableEq

namespace LogComponent

def all : List LogComponent :=
  [.main, .config, .database, .registry, .balancer, .cooldown, .relay, .health, .notifier, .quota,
    .auth, .scheduler, .management]

def name : LogComponent → String
  | .main => "main"
  | .config => "config"
  | .database => "database"
  | .registry => "registry"
  | .balancer => "balancer"
  | .cooldown => "cooldown"
  | .relay => "relay"
  | .health => "health"
  | .notifier => "notifier"
  | .quota => "quota"
  | .auth => "auth"
  | .scheduler => "scheduler"
  | .management => "management"

end LogComponent

end RelayGateway
