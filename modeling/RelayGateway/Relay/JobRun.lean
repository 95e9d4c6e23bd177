import RelayGateway.Relay.Job
import RelayGateway.Relay.Run

/-! # Relaying to upstreams that take jobs

* `JobRunCall`, `JobRunReply`: what a run asks of its surroundings when its dispatches are jobs.
* `relayJobs`: the run of a request in which every dispatch submits a job and asks after it.
-/

set_option autoImplicit false

namespace RelayGateway

inductive JobRunCall where
  /-- A call of the run itself, other than a dispatch. -/
  | run (call : RelayCall)
  /-- A call of one of its jobs. -/
  | job (call : JobCall)

@[reducible] def JobRunReply : JobRunCall → Type
  | .run call => RelayReply call
  | .job call => JobReply call

/-- Answers a dispatch by a job, and hands every other call on. -/
def answerByJob (settings : PollSettings) : (call : RelayCall) → Program JobRunReply (RelayReply call)
  | .dispatch channel key request =>
    (runJob settings channel key request).run fun call => Program.request (JobRunCall.job call)
  | call => Program.request (JobRunCall.run call)

def relayJobs (settings : PollSettings) (policy : RelayPolicy) (request : RelayRequest) :
    Program JobRunReply RelayResult :=
  (relay policy request).run (answerByJob settings)

end RelayGateway
