import RelayGateway.Program
import RelayGateway.Relay.Request
import RelayGateway.Upstream.Error

/-! # Jobs that take long

* `JobCall`, `JobReply`: what a job asks of its upstream: to take the job, and how far it is.
* `runJob`: submits a job once and asks after it, always with the same channel and operation, until there
  is a result or the polls are used up.
-/

set_option autoImplicit false

namespace RelayGateway

/-- How far a job is. -/
inductive JobStatus where
  | pending
  | finished (outcome : DispatchOutcome)

/-- What a job asks of its surroundings. -/
inductive JobCall where
  | submit (channel : Channel) (key : String) (request : RelayRequest)
  | poll (channel : Channel) (operation : String)
  /-- Waits so many milliseconds. -/
  | pause (span : Nat)

@[reducible] def JobReply : JobCall → Type
  | .submit .. => Except UpstreamError String
  | .poll .. => Except UpstreamError JobStatus
  | .pause _ => Unit

/-- How often a job is asked after. -/
structure PollSettings where
  /-- The time between two polls, in milliseconds. -/
  interval : Nat := 10000
  maxPolls : UInt32 := 60

/-- The error of a job that is not done after all polls. -/
def jobTimeout (operation : String) (maxPolls : UInt32) : UpstreamError :=
  .upstream 504 s!"任务 {operation} 在 {maxPolls.toNat} 次查询后仍未完成" "job_timeout"

def DispatchFailure.early (err : UpstreamError) : DispatchFailure := ⟨err, false⟩

/-- Asks after a job as long as polls are left, with a pause after each. -/
def pollJob (settings : PollSettings) (channel : Channel) (operation : String) :
    Nat → Program JobReply (Except DispatchFailure DispatchOutcome)
  | 0 => .done (.error (.early (jobTimeout operation settings.maxPolls)))
  | left + 1 =>
    .ask (.poll channel operation) fun
      | .error err => .done (.error (.early err))
      | .ok (.finished outcome) => .done (.ok outcome)
      | .ok .pending =>
        .ask (.pause settings.interval) fun _ => pollJob settings channel operation left

def runJob (settings : PollSettings) (channel : Channel) (key : String) (request : RelayRequest) :
    Program JobReply (Except DispatchFailure DispatchOutcome) :=
  .ask (.submit channel key request) fun
    | .error err => .done (.error (.early err))
    | .ok operation => pollJob settings channel operation settings.maxPolls.toNat

end RelayGateway
