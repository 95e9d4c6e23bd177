import RelayGateway.Health.Operation
import RelayGateway.Settings.Basic

/-! # Ways to notify operators

* `Notifier`: the log, or a web address to which notices are posted.
* `Notifier.ofSettings`: the way that the settings ask for.
* `Notifier.send`: sends a notice; `Notifier.sendQuietly` passes over a failure.
-/

set_option autoImplicit false

namespace RelayGateway

/-- A way to notify operators. -/
inductive Notifier where
  | log
  | webhook (url : String) (timeoutSeconds : UInt64)
  deriving DecidableEq

namespace Notifier

/-- How long a notice may take unless the settings say otherwise, in seconds. -/
def defaultTimeout : UInt64 := 10

def ofSettings (notify : NotifySettings) : Notifier :=
  match notify.webhookUrl with
  | none => .log
  | some url =>
    if url = "" then .log else .webhook url (notify.timeoutSeconds.getD defaultTimeout)

def name : Notifier → String
  | .log => "log"
  | .webhook .. => "webhook"

/-- Sends a notice. `post` tells whether a notice could be posted to an address. -/
def send (notifier : Notifier) (post : String → Notice → Bool) (notice : Notice) :
    Except ServiceError Unit :=
  match notifier with
  | .log => .ok ()
  | .webhook url _ =>
    if post url notice then .ok ()
    else .error (.notification "发送 webhook 通知失败" (some "not posted"))

/-- Sends a notice without regard to whether it arrives. -/
def sendQuietly (notifier : Notifier) (post : String → Notice → Bool) (notice : Notice) :
    Except ServiceError Unit :=
  match notifier.send post notice with
  | .ok () | .error _ => .ok ()

end Notifier

end RelayGateway
