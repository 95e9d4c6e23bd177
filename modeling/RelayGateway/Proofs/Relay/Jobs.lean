import RelayGateway.Proofs.Program.Handling
import RelayGateway.Proofs.Relay.Endings
import RelayGateway.Relay.JobRun

/-! # Jobs that take long

* `decision?`: what a poll decides, unless it finds the job pending.
* `stalled`: polls that find a job pending, each with the pause after it.
* `pollJob_ends`, `runJob_ends`: every way that a job can go.
* `scripted`, `Scripted`: an upstream that gives its replies in the order of a script, and how a job goes
  by it (`runJob_scripted`).
* `JobSequel`: how a run goes on after a job is accepted (`accepted_sequel`).
* `jobs_run_once`: a job is submitted once, and none is submitted after one that has run out of time.
-/

set_option autoImplicit false

namespace RelayGateway

/-- What a poll decides, unless the job is pending. -/
def decision? : Except UpstreamError JobStatus → Option (Except DispatchFailure DispatchOutcome)
  | .ok .pending => none
  | .ok (.finished outcome) => some (.ok outcome)
  | .error err => some (.error ⟨err, false⟩)

/-- So many polls that find the job pending, each with the pause after it. -/
def stalled (settings : PollSettings) (channel : Channel) (operation : String) :
    Nat → List (Exchange JobReply)
  | 0 => []
  | count + 1 =>
    ⟨.poll channel operation, .ok .pending⟩ :: ⟨.pause settings.interval, ()⟩ ::
      stalled settings channel operation count

variable {settings : PollSettings} {channel chosen : Channel} {key operation : String}
  {request sent : RelayRequest} {transcript : List (Exchange JobReply)}
  {result : Except DispatchFailure DispatchOutcome}

/-! ## One job -/

theorem decision?_eq_none {reply : Except UpstreamError JobStatus} :
    decision? reply = none ↔ reply = .ok .pending := by
  match reply with
  | .ok .pending => simp [decision?]
  | .ok (.finished outcome) => simp [decision?]
  | .error err => simp [decision?]

/-- A job is asked after until a poll decides it, or all polls are used up. -/
theorem pollJob_ends {left : Nat}
    (ends : (pollJob settings channel operation left).Ends transcript result) :
    (∃ count reply, count < left ∧ decision? reply = some result ∧
        transcript = stalled settings channel operation count ++ [⟨.poll channel operation, reply⟩]) ∨
      transcript = stalled settings channel operation left ∧
        result = .error ⟨jobTimeout operation settings.maxPolls, false⟩ := by
  induction left generalizing transcript with
  | zero => exact .inr ends
  | succ left ih =>
    obtain ⟨reply, rest, rfl, ends⟩ := ends
    match reply, ends with
    | .error err, ends =>
      obtain ⟨rfl, rfl⟩ := ends
      exact .inl ⟨0, _, Nat.succ_pos left, rfl, rfl⟩
    | .ok (.finished outcome), ends =>
      obtain ⟨rfl, rfl⟩ := ends
      exact .inl ⟨0, _, Nat.succ_pos left, rfl, rfl⟩
    | .ok .pending, ends =>
      obtain ⟨_, others, rfl, hothers⟩ := ends
      rcases ih hothers with ⟨count, reply, hcount, hdecided, rfl⟩ | ⟨rfl, rfl⟩
      · exact .inl ⟨count + 1, reply, Nat.succ_lt_succ hcount, hdecided, rfl⟩
      · exact .inr ⟨rfl, rfl⟩

theorem mem_stalled {exchange : Exchange JobReply} {count : Nat}
    (h : exchange ∈ stalled settings channel operation count) :
    exchange = ⟨.poll channel operation, .ok .pending⟩ ∨
      exchange = ⟨.pause settings.interval, ()⟩ := by
  induction count with
  | zero => cases h
  | succ count ih =>
    rcases List.mem_cons.mp h with hpoll | h
    · exact .inl hpoll
    · rcases List.mem_cons.mp h with hpause | h
      · exact .inr hpause
      · exact ih h

/-- Nothing is submitted while a job is asked after. -/
theorem pollJob_submits {left : Nat}
    (ends : (pollJob settings channel operation left).Ends transcript result)
    {exchange : Exchange JobReply} (h : exchange ∈ transcript) :
    exchange.call ≠ .submit chosen key request := by
  have waiting : ∀ count, exchange ∈ stalled settings channel operation count →
      exchange.call ≠ .submit chosen key request := by
    intro count hstalled
    rcases mem_stalled hstalled with rfl | rfl <;> exact nofun
  rcases pollJob_ends ends with ⟨count, reply, _, _, rfl⟩ | ⟨rfl, _⟩
  · rcases List.mem_append.mp h with hstalled | hpoll
    · exact waiting count hstalled
    · rw [List.mem_singleton.mp hpoll]
      exact nofun
  · exact waiting left h

theorem runJob_ends (ends : (runJob settings channel key request).Ends transcript result) :
    (∃ err, transcript = [⟨.submit channel key request, .error err⟩] ∧
        result = .error ⟨err, false⟩) ∨
      ∃ operation polls, transcript = ⟨.submit channel key request, .ok operation⟩ :: polls ∧
        (pollJob settings channel operation settings.maxPolls.toNat).Ends polls result := by
  obtain ⟨submitted, polls, rfl, ends⟩ := ends
  match submitted, ends with
  | .error err, ends =>
    obtain ⟨rfl, rfl⟩ := ends
    exact .inl ⟨err, rfl, rfl⟩
  | .ok operation, ends => exact .inr ⟨operation, polls, rfl, ends⟩

theorem decision?_uncommitted {reply : Except UpstreamError JobStatus} {failure : DispatchFailure}
    (h : decision? reply = some (.error failure)) : failure.committed = false := by
  match reply with
  | .ok .pending => cases h
  | .ok (.finished outcome) => cases h
  | .error err =>
    cases h
    rfl

/-- The answer has never begun when a job fails. -/
theorem runJob_uncommitted {failure : DispatchFailure}
    (ends : (runJob settings channel key request).Ends transcript (.error failure)) :
    failure.committed = false := by
  rcases runJob_ends ends with ⟨err, _, hfailure⟩ | ⟨operation, polls, _, hpolls⟩
  · cases hfailure
    rfl
  · rcases pollJob_ends hpolls with ⟨_, reply, _, hdecided, _⟩ | ⟨_, hfailure⟩
    · exact decision?_uncommitted hdecided
    · cases hfailure
      rfl

/-! ## One job by a script -/

def isPoll (exchange : Exchange JobReply) : Bool :=
  match exchange.call with
  | .poll .. => true
  | .submit .. | .pause _ => false

/-- An upstream that has one reply to the submission, and one for each poll in turn. -/
def scripted (submitted : Except UpstreamError String)
    (polled : Nat → Except UpstreamError JobStatus) : Surroundings JobReply := fun past call =>
  match call with
  | .submit .. => submitted
  | .poll .. => polled (past.countP isPoll)
  | .pause _ => ()

variable {submitted : Except UpstreamError String} {polled : Nat → Except UpstreamError JobStatus}
  {past : List (Exchange JobReply)}

/-- A poll that finds the job pending is followed by a pause and the other polls. -/
theorem pollJob_pending {left : Nat} (pending : decision? (polled (past.countP isPoll)) = none) :
    let later := (pollJob settings channel operation left).meet (scripted submitted polled)
      (past ++ stalled settings channel operation 1)
    (pollJob settings channel operation (left + 1)).meet (scripted submitted polled) past =
      (stalled settings channel operation 1 ++ later.1, later.2) := by
  have reply : scripted submitted polled past (.poll channel operation) = .ok .pending :=
    decision?_eq_none.mp pending
  have both : past ++ stalled settings channel operation 1 =
      past ++ [⟨.poll channel operation, .ok .pending⟩] ++ [⟨.pause settings.interval, ()⟩] := by
    rw [List.append_assoc]
    rfl
  rw [both, pollJob, Program.meet, reply]
  rfl

theorem pollJob_decided {left : Nat} {decided : Except DispatchFailure DispatchOutcome}
    (h : decision? (polled (past.countP isPoll)) = some decided) :
    (pollJob settings channel operation (left + 1)).meet (scripted submitted polled) past =
      ([⟨.poll channel operation, polled (past.countP isPoll)⟩], decided) := by
  have reply : scripted submitted polled past (.poll channel operation) =
      polled (past.countP isPoll) := rfl
  rw [pollJob, Program.meet, reply]
  generalize polled (past.countP isPoll) = reply at h
  cases reply with
  | error err =>
    cases h
    rfl
  | ok state =>
    cases state with
    | pending => cases h
    | finished outcome =>
      cases h
      rfl

theorem stalled_add (first later : Nat) :
    stalled settings channel operation (first + later) =
      stalled settings channel operation first ++ stalled settings channel operation later := by
  induction first with
  | zero => rw [Nat.zero_add, stalled, List.nil_append]
  | succ first ih => rw [Nat.succ_add, stalled, stalled, ih, List.cons_append, List.cons_append]

theorem countP_stalled (count : Nat) :
    (stalled settings channel operation count).countP isPoll = count := by
  induction count with
  | zero => rfl
  | succ count ih =>
    rw [stalled, List.countP_cons_of_pos rfl, List.countP_cons_of_neg Bool.false_ne_true, ih]

/-- As long as the job is pending, polls and pauses follow each other. -/
theorem pollJob_stalled {count left : Nat}
    (pending : ∀ index < count, decision? (polled (past.countP isPoll + index)) = none) :
    let later := (pollJob settings channel operation left).meet (scripted submitted polled)
      (past ++ stalled settings channel operation count)
    (pollJob settings channel operation (count + left)).meet (scripted submitted polled) past =
      (stalled settings channel operation count ++ later.1, later.2) := by
  induction count generalizing past with
  | zero =>
    rw [Nat.zero_add]
    simp [stalled]
  | succ count ih =>
    intro later
    have others : ∀ index < count, decision? (polled
        ((past ++ stalled settings channel operation 1).countP isPoll + index)) = none := by
      intro index hindex
      rw [List.countP_append, countP_stalled, Nat.add_assoc, Nat.add_comm 1]
      exact pending (index + 1) (Nat.succ_lt_succ hindex)
    rw [Nat.succ_add, pollJob_pending (pending 0 (Nat.succ_pos count)), ih others, List.append_assoc,
      ← stalled_add, ← List.append_assoc, ← stalled_add, Nat.add_comm 1]

/-- How a job goes by a script. The first poll that decides it is the last one; if none of all polls
does, the job has run out of time. -/
structure Scripted (settings : PollSettings) (channel : Channel) (key : String) (request : RelayRequest)
    (submitted : Except UpstreamError String) (polled : Nat → Except UpstreamError JobStatus)
    (run : List (Exchange JobReply) × Except DispatchFailure DispatchOutcome) : Prop where
  rejected : ∀ err, submitted = .error err →
    run = ([⟨.submit channel key request, submitted⟩], .error ⟨err, false⟩)
  decided : ∀ operation count result, submitted = .ok operation → count < settings.maxPolls.toNat →
    (∀ index < count, decision? (polled index) = none) → decision? (polled count) = some result →
      run = (⟨.submit channel key request, submitted⟩ ::
        (stalled settings channel operation count ++ [⟨.poll channel operation, polled count⟩]), result)
  timedOut : ∀ operation, submitted = .ok operation →
    (∀ index < settings.maxPolls.toNat, decision? (polled index) = none) →
      run = (⟨.submit channel key request, submitted⟩ ::
          stalled settings channel operation settings.maxPolls.toNat,
        .error ⟨jobTimeout operation settings.maxPolls, false⟩)
  uncommitted : ∀ failure, run.2 = .error failure → failure.committed = false

theorem runJob_accepted (accepted : submitted = .ok operation) :
    let submission : Exchange JobReply := ⟨.submit channel key request, submitted⟩
    let polls := (pollJob settings channel operation settings.maxPolls.toNat).meet
      (scripted submitted polled) [submission]
    (runJob settings channel key request).meet (scripted submitted polled) [] =
      (submission :: polls.1, polls.2) := by
  subst accepted
  rfl

theorem runJob_scripted (settings : PollSettings) (channel : Channel) (key : String)
    (request : RelayRequest) (submitted : Except UpstreamError String)
    (polled : Nat → Except UpstreamError JobStatus) :
    Scripted settings channel key request submitted polled
      ((runJob settings channel key request).meet (scripted submitted polled) []) := by
  let submission : Exchange JobReply := ⟨.submit channel key request, submitted⟩
  have opened : [submission].countP isPoll = 0 := rfl
  have fromStart : ∀ count, (∀ index < count, decision? (polled index) = none) →
      ∀ index < count, decision? (polled ([submission].countP isPoll + index)) = none := by
    intro count pending index hindex
    rw [opened, Nat.zero_add]
    exact pending index hindex
  constructor
  case rejected =>
    rintro err rfl
    rfl
  case decided =>
    intro operation count result accepted few pending hdecided
    obtain ⟨left, hleft⟩ : ∃ left, settings.maxPolls.toNat = count + (left + 1) :=
      ⟨settings.maxPolls.toNat - count - 1, by omega⟩
    have asked : ([submission] ++ stalled settings channel operation count).countP isPoll = count := by
      rw [List.countP_append, opened, countP_stalled, Nat.zero_add]
    rw [← asked] at hdecided
    rw [runJob_accepted accepted, hleft, pollJob_stalled (fromStart count pending),
      pollJob_decided hdecided, asked]
  case timedOut =>
    intro operation accepted pending
    have ranOut : (pollJob settings channel operation (settings.maxPolls.toNat + 0)).meet
          (scripted submitted polled) [submission] =
        (stalled settings channel operation settings.maxPolls.toNat,
          .error ⟨jobTimeout operation settings.maxPolls, false⟩) := by
      rw [pollJob_stalled (fromStart _ pending), pollJob, Program.meet, List.append_nil]
      rfl
    rw [runJob_accepted accepted]
    exact congrArg (fun polls => (submission :: polls.1, polls.2)) ranOut
  case uncommitted =>
    intro failure hfailure
    have ends := Program.ends_meet (scripted submitted polled) []
      (runJob settings channel key request)
    rw [hfailure] at ends
    exact runJob_uncommitted ends

/-! ## Runs whose dispatches are jobs -/

def Exchange.ofJob (exchange : Exchange JobReply) : Exchange JobRunReply :=
  ⟨.job exchange.call, exchange.reply⟩

def Exchange.ofRun (exchange : Exchange RelayReply) : Exchange JobRunReply :=
  ⟨.run exchange.call, exchange.reply⟩

theorem expands_job {outer : List (Exchange JobReply)} {inner : List (Exchange JobRunReply)}
    (h : Expands (fun call => Program.request (JobRunCall.job call)) outer inner) :
    inner = outer.map Exchange.ofJob := by
  induction h with
  | nil => rfl
  | cons answered others ih =>
    obtain rfl := (Program.ends_request _ _ _).mp answered
    rw [ih]
    rfl

theorem answerByJob_run {exchange : Exchange RelayReply} (h : dispatchedId? exchange = none)
    {inner : List (Exchange JobRunReply)}
    (ends : (answerByJob settings exchange.call).Ends inner exchange.reply) :
    inner = [exchange.ofRun] := by
  obtain ⟨call, reply⟩ := exchange
  cases call with
  | dispatch channel key request => cases h
  | _ => exact (Program.ends_request _ _ _).mp ends

theorem expands_run {outer : RelayTranscript} {inner : List (Exchange JobRunReply)}
    (h : Expands (answerByJob settings) outer inner)
    (undispatched : ∀ exchange ∈ outer, dispatchedId? exchange = none) :
    inner = outer.map Exchange.ofRun := by
  induction h with
  | nil => rfl
  | @cons call reply first inner outer answered others ih =>
    obtain ⟨hcall, hothers⟩ := List.forall_mem_cons.mp undispatched
    rw [show first = [Exchange.ofRun ⟨call, reply⟩] from answerByJob_run hcall answered, ih hothers]
    rfl

/-- Where a job is accepted in a run, the run has dispatched, and the job goes on from there. -/
theorem answerByJob_accepted {call : RelayCall} {reply : RelayReply call}
    {first last : List (Exchange JobRunReply)}
    (ends : (answerByJob settings call).Ends
      (first ++ ⟨.job (.submit channel key sent), .ok operation⟩ :: last) reply) :
    ∃ result polls, (⟨call, reply⟩ : Exchange RelayReply) = ⟨.dispatch channel key sent, result⟩ ∧
      last = polls.map Exchange.ofJob ∧
      (pollJob settings channel operation settings.maxPolls.toNat).Ends polls result := by
  cases hcall : dispatchedId? ⟨call, reply⟩ with
  | none =>
    have hown := answerByJob_run hcall ends
    have hmem : (⟨.job (.submit channel key sent), .ok operation⟩ : Exchange JobRunReply) ∈
        [Exchange.ofRun ⟨call, reply⟩] := by
      rw [← hown]
      simp
    cases List.mem_singleton.mp hmem
  | some id =>
    cases call with
    | dispatch chosen model request =>
      obtain ⟨outer, hjob, expanded⟩ := (Program.ends_run _ _ _).mp ends
      obtain ⟨before, others, rfl, _, hothers⟩ := List.map_eq_append_iff.mp (expands_job expanded).symm
      obtain ⟨exchange, polls, rfl, hexchange, rfl⟩ := List.map_eq_cons_iff.mp hothers
      obtain ⟨submission, submitted⟩ := exchange
      cases hexchange
      rcases runJob_ends hjob with ⟨err, hrejected, _⟩ | ⟨accepted, rest, haccepted, hpolls⟩
      · have hmem : (⟨.submit channel key sent, .ok operation⟩ : Exchange JobReply) ∈
            [⟨.submit chosen model request, .error err⟩] := by
          rw [← hrejected]
          simp
        cases List.mem_singleton.mp hmem
      · cases before with
        | nil =>
          cases haccepted
          exact ⟨reply, polls, rfl, rfl, hpolls⟩
        | cons first before =>
          have hmem : (⟨.submit channel key sent, .ok operation⟩ : Exchange JobReply) ∈ rest := by
            rw [← (List.cons.inj haccepted).2]
            simp
          exact absurd rfl (pollJob_submits hpolls hmem)
    | _ => cases hcall

/-- A job that has run out of time is never retried. -/
theorem jobTimeout_final (operation : String) (maxPolls : UInt32) (provider : Provider) :
    shouldRetry (jobTimeout operation maxPolls) provider = false := rfl

/-- How a run goes on after it was told that a job is accepted. A poll decides the job. Or all polls find
it pending, and then the run reverses the reservation, reports the timeout and ends with it. -/
def JobSequel (settings : PollSettings) (channel : Channel) (operation requestId : String)
    (later : List (Exchange JobRunReply)) (result : RelayResult) : Prop :=
  (∃ count reply after, count < settings.maxPolls.toNat ∧ (decision? reply).isSome = true ∧
      later = (stalled settings channel operation count ++ [⟨.poll channel operation, reply⟩] :
        List (Exchange JobReply)).map Exchange.ofJob ++ after) ∨
    ∃ reservation reversal,
      later = (stalled settings channel operation settings.maxPolls.toNat).map Exchange.ofJob ++
        ([⟨.reverse reservation, reversal⟩,
          ⟨.report channel (jobTimeout operation settings.maxPolls), ()⟩] : RelayTranscript).map
            Exchange.ofRun ∧
      result = .error (disclose (jobTimeout operation settings.maxPolls) requestId)

theorem accepted_sequel {policy : RelayPolicy} {transcript : List (Exchange JobRunReply)}
    {result : RelayResult} (ends : (relayJobs settings policy request).Ends transcript result)
    {before later : List (Exchange JobRunReply)}
    (placed : transcript = before ++ ⟨.job (.submit channel key sent), .ok operation⟩ :: later) :
    JobSequel settings channel operation request.requestId later result := by
  obtain ⟨outer, houter, expanded⟩ := (Program.ends_run _ _ _).mp ends
  obtain ⟨earlier, call, reply, after, first, last, rest, rfl, answered, rfl, hrest⟩ :=
    expanded.split placed
  obtain ⟨result, polls, hdispatch, rfl, hpolls⟩ := answerByJob_accepted answered
  rcases pollJob_ends hpolls with ⟨count, reply, hcount, hdecided, rfl⟩ | ⟨rfl, rfl⟩
  · exact .inl ⟨count, reply, rest, hcount, by rw [hdecided]; rfl, rfl⟩
  · rw [hdispatch] at houter
    obtain ⟨plan, reservation, reversal, cooled, _, hafter, hresult⟩ :=
      relay_failed houter rfl (.inr (jobTimeout_final _ _ _))
    have hfollowUp : followUpEntries plan channel (jobTimeout operation settings.maxPolls) cooled =
        [⟨.report channel (jobTimeout operation settings.maxPolls), ()⟩] := rfl
    rw [hafter, hfollowUp] at hrest
    have hown := expands_run hrest (by simp [dispatchedId?])
    exact .inr ⟨reservation, reversal, by rw [hown], hresult⟩

/-- Jobs that take long. By a script of replies, a job is submitted once and asked after until a poll
decides it, which is what is told then; if none of the allowed polls does, it has run out of time, and this
is no failure of the gateway's own. No failure comes after the beginning of an answer. In a run, whatever it
meets, an accepted job goes on in the same way. After one that has run out of time the run reverses the
reservation, reports the failure and ends with it, so nothing is submitted again. -/
theorem jobs_run_once (settings : PollSettings) (channel : Channel) (key : String) (sent : RelayRequest)
    (submitted : Except UpstreamError String) (polled : Nat → Except UpstreamError JobStatus)
    (policy : RelayPolicy) (request : RelayRequest) (surroundings : Surroundings JobRunReply) :
    Scripted settings channel key sent submitted polled
        ((runJob settings channel key sent).meet (scripted submitted polled) []) ∧
      (∀ operation, let timeout := jobTimeout operation settings.maxPolls
        timeout.status = 504 ∧ timeout.body.kind = "job_timeout" ∧ timeout.isLocal = false) ∧
      let run := (relayJobs settings policy request).meet surroundings []
      ∀ before channel key sent operation later,
        run.1 = before ++ ⟨.job (.submit channel key sent), .ok operation⟩ :: later →
          JobSequel settings channel operation request.requestId later run.2 := by
  refine ⟨runJob_scripted _ _ _ _ _ _, fun operation => ⟨rfl, rfl, rfl⟩, ?_⟩
  intro run before channel key sent operation later placed
  exact accepted_sequel (Program.ends_meet surroundings [] _) placed

/-- Every job is accepted, and none is ever done. -/
def neverDone : Surroundings JobRunReply := fun _ call =>
  match call with
  | .run call => firstDown [] call
  | .job (.submit ..) => .ok "operations/1"
  | .job (.poll ..) => .ok .pending
  | .job (.pause _) => ()

/-- The second poll finds the job done. -/
def doneAtSecond (poll : Nat) : Except UpstreamError JobStatus :=
  if poll = 0 then .ok .pending else .ok (.finished default)

def isSubmission (exchange : Exchange JobRunReply) : Bool :=
  match exchange.call with
  | .job (.submit ..) => true
  | .job (.poll ..) | .job (.pause _) | .run _ => false

theorem isSubmission_iff {exchange : Exchange JobRunReply} : isSubmission exchange = true ↔
    ∃ channel key sent reply, exchange = ⟨.job (.submit channel key sent), reply⟩ := by
  constructor
  · intro h
    obtain ⟨call, reply⟩ := exchange
    cases call with
    | run call => cases h
    | job call =>
      cases call with
      | submit channel key sent => exact ⟨channel, key, sent, reply, rfl⟩
      | poll channel operation => cases h
      | pause span => cases h
  · rintro ⟨channel, key, sent, reply, rfl⟩
    rfl

/-- The second of two polls decides a job. Another job is pending at both, and although a second channel
serves its request, nothing else is submitted. -/
theorem neverDone_timedOut :
    let settings : PollSettings := ⟨10, 2⟩
    let run := (relayJobs settings samplePolicy sampleRequest).meet neverDone []
    (runJob settings (sampleChannel 1) "m" sampleRequest).meet
        (scripted (.ok "operations/1") doneAtSecond) [] =
      (⟨.submit (sampleChannel 1) "m" sampleRequest, .ok "operations/1"⟩ ::
        (stalled settings (sampleChannel 1) "operations/1" 1 ++
          [⟨.poll (sampleChannel 1) "operations/1", .ok (.finished default)⟩]), .ok default) ∧
      run.1.countP isSubmission = 1 ∧
      run.2 = .error (disclose (jobTimeout "operations/1" 2) sampleRequest.requestId) := by
  intro settings run
  obtain ⟨byScript, _, inRun⟩ := jobs_run_once settings (sampleChannel 1) "m" sampleRequest
    (.ok "operations/1") doneAtSecond samplePolicy sampleRequest neverDone
  have once : run.1.countP isSubmission = 1 := by decide +kernel
  refine ⟨?_, once, ?_⟩
  · have pending : ∀ index < 1, decision? (doneAtSecond index) = none := by
      simp [doneAtSecond, decision?]
    exact byScript.decided "operations/1" 1 (.ok default) rfl (by decide) pending rfl
  · obtain ⟨exchange, hmem, hsubmission⟩ := List.countP_pos_iff.mp (once ▸ Nat.one_pos)
    obtain ⟨channel, key, sent, reply, rfl⟩ := isSubmission_iff.mp hsubmission
    obtain ⟨before, later, placed⟩ := List.append_of_mem hmem
    obtain rfl : reply = .ok "operations/1" := Program.meet_reply neverDone placed
    rcases inRun _ _ _ _ _ _ placed with ⟨count, reply, after, _, hdecided, rfl⟩ | ⟨_, _, _, hresult⟩
    · -- the poll that decides the job would find it pending
      rw [List.map_append, List.append_assoc, ← List.cons_append, ← List.append_assoc] at placed
      obtain rfl : reply = .ok .pending := Program.meet_reply neverDone placed
      cases hdecided
    · exact hresult

end RelayGateway
