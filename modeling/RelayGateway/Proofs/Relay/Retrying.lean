import RelayGateway.Proofs.Relay.Books
import RelayGateway.Proofs.Routing.Availability
import RelayGateway.Proofs.Upstream.Disclosure

/-! # When another attempt follows

* `attemptsBegun`, `FailedAttempt`: the attempts in a transcript, and one that failed at its place.
* `Retriable`: what decides, before the clock is read, whether another attempt may follow.
* `unpinned_attempt`: every attempt of an unpinned run is made in a state `Attempting`.
* `FailedAttempt.sequel`: what follows a failed attempt, case by case.
* `disclose_ne_retryTimeoutError`: no disclosed failure looks like the end of the time.
* `retrying_exact`: when a run goes on, and with which error it ends otherwise.
-/

set_option autoImplicit false

namespace RelayGateway

/-! ## Attempts in a transcript -/

/-- An attempt begins with its reservation. -/
def beginsAttempt (entry : Exchange RelayReply) : Bool :=
  match entry.call with
  | .reserve _ => true
  | .look | .elapsed | .storedChannel _ | .dispatch .. | .settle .. | .reverse _ | .cool ..
  | .report .. => false

def attemptsBegun (transcript : RelayTranscript) : Nat := transcript.countP beginsAttempt

/-- After `past` there is a failed attempt on a channel, and `rest` comes after it. An attempt that was
refused its reservation does not show its channel. -/
structure FailedAttempt (plan : RelayPlan) (transcript past : RelayTranscript)
    (course : AttemptCourse) (channel : Channel) (failure : AttemptFailure)
    (rest : RelayTranscript) : Prop where
  placed : transcript = past ++ (course.entries plan channel ++ rest)
  failed : course.result plan = .error failure

/-- What lets a run go on after a failed attempt, before the clock is read: the upstream failed without
having begun its answer, another channel may do better, and there is room for another attempt. -/
structure Retriable (limit begun : Nat) (course : AttemptCourse) (channel : Channel)
    (failure : AttemptFailure) : Prop where
  dispatched : course.isFailed = true
  uncommitted : failure.terminal = false
  retried : shouldRetry failure.error channel.provider = true
  room : begun < limit

variable {policy : RelayPolicy} {request : RelayRequest} {plan : RelayPlan} {budget : RetryBudget}
  {channel other : Channel} {course : AttemptCourse} {failure : AttemptFailure}
  {transcript past rest : RelayTranscript} {result : RelayResult}

theorem attemptsBegun_append (first rest : RelayTranscript) :
    attemptsBegun (first ++ rest) = attemptsBegun first + attemptsBegun rest :=
  List.countP_append

theorem beginsAttempt_of_not_isBooked {entry : Exchange RelayReply} (h : isBooked entry = false) :
    beginsAttempt entry = false := by
  obtain ⟨call, reply⟩ := entry
  cases call <;> first | rfl | cases h

theorem attemptsBegun_quiet (h : Quiet transcript) : attemptsBegun transcript = 0 := by
  apply List.countP_eq_zero.mpr
  intro entry hentry
  rw [beginsAttempt_of_not_isBooked (h entry hentry)]
  exact Bool.false_ne_true

theorem entries_begin (plan : RelayPlan) (channel : Channel) (course : AttemptCourse) :
    ∃ head tail, course.entries plan channel = head :: tail ∧ beginsAttempt head = true ∧
      ∀ entry ∈ tail, beginsAttempt entry = false := by
  cases course with
  | refused err => exact ⟨_, [], rfl, rfl, by simp⟩
  | failed reservation failure reversal => exact ⟨_, _, rfl, rfl, by simp [beginsAttempt]⟩
  | served reservation outcome settlement => exact ⟨_, _, rfl, rfl, by simp [beginsAttempt]⟩

theorem attemptsBegun_entries (plan : RelayPlan) (channel : Channel) (course : AttemptCourse) :
    attemptsBegun (course.entries plan channel) = 1 := by
  cases course <;> rfl

/-- The course of an attempt, and its channel if it was dispatched, can be read off the transcript. -/
theorem entries_append_inj {course' : AttemptCourse} {rest' : RelayTranscript}
    (h : course.entries plan channel ++ rest = course'.entries plan other ++ rest') :
    course = course' ∧ rest = rest' ∧ (course.isFailed = true → channel = other) := by
  cases course <;> cases course' <;>
    simp_all [AttemptCourse.entries, AttemptCourse.isFailed]

theorem turn_begins {sequel : Sequel budget}
    (h : (turn policy plan budget channel).Ends transcript sequel) :
    ∃ head tail, transcript = head :: tail ∧ beginsAttempt head = true ∧
      ∀ entry ∈ tail, beginsAttempt entry = false := by
  have quiet : ∃ (course : AttemptCourse) (rest : RelayTranscript),
      transcript = course.entries plan channel ++ rest ∧ Quiet rest := by
    cases sequel with
    | ended result =>
      obtain ⟨course, rest, heq, hquiet, _⟩ := turn_ended h
      exact ⟨course, rest, heq, hquiet⟩
    | another next chosen fewer =>
      obtain ⟨course, rest, heq, _, hquiet, _⟩ := turn_another h
      exact ⟨course, rest, heq, hquiet⟩
  obtain ⟨course, rest, rfl, hquiet⟩ := quiet
  obtain ⟨head, tail, hentries, hhead, htail⟩ := entries_begin plan channel course
  refine ⟨head, tail ++ rest, by rw [hentries]; rfl, hhead, ?_⟩
  intro entry hentry
  rcases List.mem_append.mp hentry with h | h
  · exact htail entry h
  · exact beginsAttempt_of_not_isBooked (hquiet entry h)

/-! ## Where the attempts are made -/

/-- An entry that does not stand in the first part stands in the second. -/
theorem split_after {α : Type} {first rest earlier later : List α} {entry : α}
    (h : first ++ rest = earlier ++ entry :: later) (absent : entry ∉ first) :
    ∃ middle, earlier = first ++ middle ∧ rest = middle ++ entry :: later := by
  rcases append_eq_split h with hrest | ⟨middle, rfl, _⟩
  · exact hrest
  · exact absurd (by simp) absent

theorem attemptFrom_begins (h : (attemptFrom policy plan budget channel).Ends transcript result) :
    0 < attemptsBegun transcript := by
  rw [attemptFrom, Program.ends_bind] at h
  obtain ⟨first, sequel, rest, rfl, hturn, _⟩ := h
  obtain ⟨head, tail, rfl, hhead, _⟩ := turn_begins hturn
  rw [attemptsBegun, List.cons_append, List.countP_cons_of_pos hhead]
  omega

theorem Attempting.attempt_at {earlier later : RelayTranscript} {entry : Exchange RelayReply}
    (h : Attempting policy request past plan budget channel)
    (ends : (attemptFrom policy plan budget channel).Ends transcript result)
    (placed : transcript = earlier ++ entry :: later) (begins : beginsAttempt entry = true) :
    ∃ budget' channel', Attempting policy request (past ++ earlier) plan budget' channel' ∧
      (attemptFrom policy plan budget' channel').Ends (entry :: later) result := by
  -- on the attempts that are left: the entry begins the next turn, or it comes after that turn
  induction budget, channel using attemptFrom.induct generalizing past transcript earlier with
  | case1 budget channel ih =>
    cases earlier with
    | nil =>
      rw [List.append_nil]
      rw [placed] at ends
      exact ⟨budget, channel, h, ends⟩
    | cons first earlier =>
      rw [attemptFrom, Program.ends_bind] at ends
      obtain ⟨transcript', sequel, rest, rfl, hturn, hrest⟩ := ends
      obtain ⟨head, tail, rfl, hhead, htail⟩ := turn_begins hturn
      obtain ⟨rfl, hplaced⟩ := List.cons.inj placed
      have absent : entry ∉ tail := by
        intro hentry
        rw [htail entry hentry] at begins
        cases begins
      obtain ⟨middle, rfl, rfl⟩ := split_after hplaced absent
      cases sequel with
      | ended value =>
        obtain ⟨hnil, _⟩ := hrest
        simp at hnil
      | another next chosen fewer =>
        have hnext := ih next chosen fewer (h.again hturn) hrest rfl
        simpa using hnext

/-- Every attempt of an unpinned run is made in a state before an attempt. -/
theorem unpinned_attempt {earlier later : RelayTranscript} {entry : Exchange RelayReply}
    (unpinned : request.pinned = none) (ends : (relay policy request).Ends transcript result)
    (placed : transcript = earlier ++ entry :: later) (begins : beginsAttempt entry = true) :
    ∃ plan budget channel, Attempting policy request earlier plan budget channel ∧
      (attemptFrom policy plan budget channel).Ends (entry :: later) result := by
  rcases unpinned_opening unpinned ends with ⟨hquiet, _⟩ |
      ⟨opening, rest, plan, budget, channel, rfl, hquiet, first, hrun⟩
  · have hnot := beginsAttempt_of_not_isBooked (hquiet entry (by simp [placed]))
    rw [hnot] at begins
    cases begins
  · have absent : entry ∉ opening := by
      intro hentry
      rw [beginsAttempt_of_not_isBooked (hquiet entry hentry)] at begins
      cases begins
    obtain ⟨middle, rfl, hrest⟩ := split_after placed absent
    obtain ⟨budget', channel', hstate, hends⟩ := first.attempt_at hrun hrest begins
    exact ⟨plan, budget', channel', hstate, hends⟩

/-- Before an attempt, every attempt begun was dispatched. -/
theorem Attempting.attemptsBegun_eq (h : Attempting policy request past plan budget channel) :
    attemptsBegun past = (dispatchedIds past).length := by
  induction h with
  | first settled planned selected => rfl
  | @again past transcript plan budget next channel other fewer before turned ih =>
    obtain ⟨course, rest, rfl, hfailed, hquiet, _⟩ := turn_another turned
    rw [attemptsBegun_append, attemptsBegun_append, attemptsBegun_entries, attemptsBegun_quiet hquiet,
      dispatchedIds_append, dispatchedIds_append, dispatchedIds_failed hfailed,
      dispatchedIds_quiet hquiet, ih, List.length_append]
    rfl

/-! ## What follows a failed attempt -/

theorem failed_sequel
    (ends : (attemptFrom policy plan budget channel).Ends (course.entries plan other ++ rest) result)
    (failed : course.result plan = .error failure) :
    (course.isFailed = true → other = channel) ∧
      ∃ after tail, rest = after ++ tail ∧ ∃ sequel : Sequel budget,
        (afterFailure policy plan budget channel failure).Ends after sequel ∧
          match sequel with
          | .ended value => tail = [] ∧ result = value
          | .another next chosen _ => (attemptFrom policy plan next chosen).Ends tail result := by
  rw [attemptFrom, Program.ends_bind] at ends
  obtain ⟨first, sequel, tail, heq, hturn, htail⟩ := ends
  obtain ⟨course', after, rfl, ⟨usage, outcome, hresult, _, _⟩ | ⟨failure', hresult, hafter⟩⟩ :=
    turn_cases hturn
  · rw [List.append_assoc] at heq
    obtain ⟨rfl, _, _⟩ := entries_append_inj heq
    rw [failed] at hresult
    cases hresult
  · rw [List.append_assoc] at heq
    obtain ⟨rfl, hrest, hchannel⟩ := entries_append_inj heq
    rw [failed] at hresult
    cases hresult
    refine ⟨hchannel, after, tail, hrest, sequel, hafter, ?_⟩
    cases sequel with
    | ended value => exact htail
    | another next chosen fewer => exact htail

/-- A failure follows the channel it is told of; a refused reservation is followed up by nothing. -/
theorem followUpEntries_channel (failed : course.result plan = .error failure)
    (same : course.isFailed = true → other = channel) (cooled : Bool) :
    followUpEntries plan channel failure.error cooled =
      followUpEntries plan other failure.error cooled := by
  cases course with
  | refused err =>
    cases failed
    rw [followUpEntries_refused, followUpEntries_refused]
  | failed reservation failure reversal => rw [same rfl]
  | served reservation outcome settlement => cases failed

/-- Before the clock is read, the run goes on exactly if the failure is not final and there is room. -/
theorem retriable_iff {limit begun : Nat} (failed : course.result plan = .error failure)
    (same : course.isFailed = true → other = channel)
    (room : budget.hasRoom = true ↔ begun < limit) :
    Retriable limit begun course other failure ↔
      failure.isFinal channel = false ∧ budget.hasRoom = true := by
  constructor
  · rintro ⟨hdispatched, huncommitted, hretried, hroom⟩
    rw [same hdispatched] at hretried
    refine ⟨?_, room.mpr hroom⟩
    rw [AttemptFailure.isFinal, huncommitted, hretried]
    rfl
  · rintro ⟨hfinal, hroom⟩
    have hdispatched := AttemptCourse.isFailed_of_not_isFinal failed hfinal
    rw [AttemptFailure.isFinal, Bool.or_eq_false_iff, Bool.not_eq_false'] at hfinal
    rw [← same hdispatched] at hfinal
    exact ⟨hdispatched, hfinal.1, hfinal.2, room.mp hroom⟩

theorem mem_exclude (budget : RetryBudget) (failed id : ChannelId) :
    id ∈ (budget.exclude failed).excluded ↔ id = failed ∨ id ∈ budget.excluded := by
  unfold RetryBudget.exclude
  split
  · rename_i hknown
    have hmem : failed ∈ budget.excluded := by simpa using hknown
    constructor
    · exact .inr
    · rintro (rfl | h)
      · exact hmem
      · exact h
  · exact List.mem_cons

/-- After a failed dispatch, the next selection passes over every channel tried so far. -/
theorem Standing.select_excluding (standing : Standing policy request past plan budget channel)
    (dispatched : course.isFailed = true) (sight : Sight) :
    plan.select sight (budget.exclude channel.id).excluded =
      plan.select sight (dispatchedIds (past ++ course.entries plan channel)) := by
  apply RelayPlan.select_congr
  intro id
  rw [mem_exclude, standing.excluded, List.mem_reverse, dispatchedIds_append,
    dispatchedIds_failed dispatched, List.mem_append, List.mem_singleton, or_comm]

/-- Before an attempt there is room for another one as long as it keeps within the limit. -/
theorem Attempting.hasRoom_iff (h : Attempting policy request past plan budget channel)
    (rest : RelayTranscript) :
    budget.hasRoom = true ↔ attemptsBegun past + 1 <
      attemptLimit policy.retryTimes (startCount policy request (past ++ rest)) := by
  have standing := h.standing
  rw [RetryBudget.hasRoom_iff, standing.counted, standing.limited, h.attemptsBegun_eq,
    startCount_append standing.looked]

/-- Everything that can follow a failed attempt of an unpinned run, with the error that the run ends in
if no attempt follows. -/
theorem FailedAttempt.sequel (unpinned : request.pinned = none)
    (ends : (relay policy request).Ends transcript result)
    (planned : plan? policy request transcript = some plan)
    (h : FailedAttempt plan transcript past course channel failure rest) :
    let done := past ++ course.entries plan channel
    let retriable := Retriable (attemptLimit policy.retryTimes (startCount policy request transcript))
      (attemptsBegun done) course channel failure
    ∃ cooled waiting, rest = followUpEntries plan channel failure.error cooled ++ waiting ∧
      (¬ retriable ∧ waiting = [] ∧
          result = .error (disclose failure.error plan.request.requestId) ∨
        retriable ∧ ∃ elapsed,
          (timedOut elapsed policy.timeLimit = true ∧ waiting = [⟨.elapsed, elapsed⟩] ∧
              result = .error (retryTimeoutError plan.request.requestId) ∨
            timedOut elapsed policy.timeLimit = false ∧ ∃ sight tail,
              waiting = ⟨.elapsed, elapsed⟩ :: ⟨.look, sight⟩ :: tail ∧
              ((∃ err, plan.select sight (dispatchedIds done) = .error err ∧ tail = [] ∧
                  result = .error (disclose failure.error plan.request.requestId)) ∨
                (∃ next, plan.select sight (dispatchedIds done) = .ok next) ∧
                  0 < attemptsBegun tail))) := by
  intro done retriable
  obtain ⟨head, others, hentries, hhead, _⟩ := entries_begin plan channel course
  have placed : transcript = past ++ head :: (others ++ rest) := by
    rw [h.placed, hentries]
    rfl
  obtain ⟨plan', budget, channel', hstate, hends⟩ := unpinned_attempt unpinned ends placed hhead
  have standing := hstate.standing
  obtain rfl : plan' = plan := by
    rw [h.placed, plan?_append standing.looked, standing.planned] at planned
    exact Option.some.inj planned
  have hends' : (attemptFrom policy plan' budget channel').Ends
      (course.entries plan' channel ++ rest) result := by
    rw [hentries]
    exact hends
  obtain ⟨same, after, tail, rfl, sequel, hafter, htail⟩ := failed_sequel hends' h.failed
  have room : budget.hasRoom = true ↔ attemptsBegun done <
      attemptLimit policy.retryTimes (startCount policy request transcript) := by
    rw [attemptsBegun_append, attemptsBegun_entries, h.placed]
    exact hstate.hasRoom_iff _
  have decides := retriable_iff h.failed same room
  obtain ⟨cooled, waiting, rfl, hcase⟩ := afterFailure_cases hafter
  refine ⟨cooled, waiting ++ tail, ?_, ?_⟩
  · rw [List.append_assoc, followUpEntries_channel h.failed same]
  rcases hcase with ⟨hstop, rfl, rfl⟩ | ⟨hfinal, hroom, elapsed, hwait⟩
  · obtain ⟨rfl, rfl⟩ := htail
    refine .inl ⟨?_, rfl, rfl⟩
    intro hretriable
    obtain ⟨hfinal, hroom⟩ := decides.mp hretriable
    rcases hstop with h | h
    · rw [h] at hfinal
      cases hfinal
    · rw [h] at hroom
      cases hroom
  · have hretriable := decides.mpr ⟨hfinal, hroom⟩
    obtain rfl := same hretriable.dispatched
    have hselects := standing.select_excluding hretriable.dispatched
    refine .inr ⟨hretriable, elapsed, ?_⟩
    rcases hwait with ⟨htime, rfl, rfl⟩ | ⟨htime, sight, rfl, ⟨err, hselect, rfl⟩ |
      ⟨next, fewer, hselect, rfl⟩⟩
    · obtain ⟨rfl, rfl⟩ := htail
      exact .inl ⟨htime, rfl, rfl⟩
    · obtain ⟨rfl, rfl⟩ := htail
      rw [hselects] at hselect
      exact .inr ⟨htime, sight, [], rfl, .inl ⟨err, hselect, rfl, rfl⟩⟩
    · rw [hselects] at hselect
      exact .inr ⟨htime, sight, tail, rfl, .inr ⟨⟨next, hselect⟩, attemptFrom_begins htail⟩⟩

/-! ## What the client is told -/

theorem head?_withRequestId {message : String} {c : Char} (h : message.toList.head? = some c)
    (requestId : String) : (withRequestId message requestId).toList.head? = some c := by
  unfold withRequestId
  simp [toString, h]

theorem bareWording_limited {err : UpstreamError} (limited : err.status = 429) :
    err.bareWording = groupSaturatedMessage := by
  have unmarked : Text.contains groupSaturatedMessage "(request id:" = false := by decide +kernel
  have hwording : err.wording = groupSaturatedMessage := if_pos limited
  rw [UpstreamError.bareWording, hwording, unmarked]
  rfl

/-- No disclosed failure looks like the end of the time. -/
theorem disclose_ne_retryTimeoutError (err : UpstreamError) (requestId other : String) :
    disclose err requestId ≠ retryTimeoutError other := by
  intro heq
  rw [disclose_eq] at heq
  have hcode : err.body.code = none := congrArg (fun e => e.body.code) heq
  have hstatus : (if isConcealed err requestId then 429 else err.status) = 429 :=
    congrArg UpstreamError.status heq
  -- the error has no code, so its message was not replaced by one that names the status
  have hkept : ¬ (err.body.code = some "bad_response_status_code" ∧
      namesBadStatus (toldMessage err requestId) = false) := by
    rintro ⟨h, _⟩
    rw [hcode] at h
    cases h
  rw [if_neg hkept] at heq
  have htold : toldMessage err requestId = (retryTimeoutError other).message :=
    congrArg UpstreamError.message heq
  have hmessage : (toldMessage err requestId).toList.head? = some '重' := by
    rw [htold]
    exact head?_withRequestId rfl other
  cases hconcealed : isConcealed err requestId with
  | true =>
    rw [toldMessage_concealed hconcealed] at hmessage
    exact absurd hmessage (by decide +kernel)
  | false =>
    rw [hconcealed] at hstatus
    have hgroup : (withRequestId err.bareWording requestId).toList.head? = some '当' := by
      rw [bareWording_limited hstatus]
      exact head?_withRequestId rfl requestId
    rw [toldMessage_open hconcealed, hgroup] at hmessage
    exact absurd hmessage (by decide)

/-! ## What a run reads after a failed attempt -/

/-- What a run reads before another attempt. -/
structure Reading where
  elapsed : Nat
  sight : Sight

/-- What the surroundings let a run read after the exchanges `done` and the follow-up of a failure. -/
def readingAfter (surroundings : Surroundings RelayReply) (plan : RelayPlan) (channel : Channel)
    (err : UpstreamError) (done : RelayTranscript) : Reading :=
  let noted := done ++
    followUpEntries plan channel err (surroundings done (.cool channel.id plan.key))
  let elapsed := surroundings noted .elapsed
  ⟨elapsed, surroundings (noted ++ [⟨.elapsed, elapsed⟩]) .look⟩

variable {surroundings : Surroundings RelayReply} {done waiting : RelayTranscript}

theorem followUpEntries_met {cooled : Bool} {program : RelayProgram RelayResult}
    (h : (program.meet surroundings []).1 =
      done ++ (followUpEntries plan channel failure.error cooled ++ waiting)) :
    followUpEntries plan channel failure.error cooled =
      followUpEntries plan channel failure.error (surroundings done (.cool channel.id plan.key)) := by
  cases hcool : coolsDown failure.error with
  | false =>
    unfold followUpEntries
    rw [hcool]
    rfl
  | true =>
    unfold followUpEntries at h
    rw [if_pos hcool] at h
    have hreply : cooled = surroundings done (.cool channel.id plan.key) := Program.meet_reply _ h
    rw [← hreply]

theorem elapsed_met {cooled : Bool} {program : RelayProgram RelayResult} {elapsed : Nat}
    (h : (program.meet surroundings []).1 =
      done ++ (followUpEntries plan channel failure.error cooled ++ ⟨.elapsed, elapsed⟩ :: waiting)) :
    elapsed = (readingAfter surroundings plan channel failure.error done).elapsed := by
  rw [followUpEntries_met h, ← List.append_assoc] at h
  exact Program.meet_reply _ h

theorem sight_met {cooled : Bool} {program : RelayProgram RelayResult} {elapsed : Nat}
    {sight : Sight}
    (h : (program.meet surroundings []).1 = done ++ (followUpEntries plan channel failure.error cooled ++
      ⟨.elapsed, elapsed⟩ :: ⟨.look, sight⟩ :: waiting)) :
    sight = (readingAfter surroundings plan channel failure.error done).sight := by
  have helapsed := elapsed_met h
  rw [followUpEntries_met h, ← List.append_assoc, helapsed, List.append_cons] at h
  exact Program.meet_reply _ h

/-! ## The law of retrying -/

theorem unpinned_failure (unpinned : request.pinned = none)
    (planned : plan? policy request ((relay policy request).meet surroundings []).1 = some plan)
    (h : FailedAttempt plan ((relay policy request).meet surroundings []).1 past course channel
      failure rest) :
    let run := (relay policy request).meet surroundings []
    let done := past ++ course.entries plan channel
    let reading := readingAfter surroundings plan channel failure.error done
    let retriable := Retriable (attemptLimit policy.retryTimes (startCount policy request run.1))
      (attemptsBegun done) course channel failure
    (0 < attemptsBegun rest ↔ retriable ∧ reading.elapsed ≤ policy.timeLimit ∧
        ∃ next, plan.select reading.sight (dispatchedIds done) = .ok next) ∧
      (attemptsBegun rest = 0 →
        (run.2 = .error (retryTimeoutError request.requestId) ↔
            retriable ∧ policy.timeLimit < reading.elapsed) ∧
          (¬ (retriable ∧ policy.timeLimit < reading.elapsed) →
            run.2 = .error (disclose failure.error request.requestId))) := by
  intro run done reading retriable
  have ends : (relay policy request).Ends run.1 run.2 := Program.ends_meet surroundings [] _
  have hrequest := plan?_requestId planned
  obtain ⟨cooled, waiting, rfl, hcase⟩ := h.sequel unpinned ends planned
  have placed : run.1 = done ++ (followUpEntries plan channel failure.error cooled ++ waiting) := by
    rw [List.append_assoc]
    exact h.placed
  have hbegun : attemptsBegun (followUpEntries plan channel failure.error cooled ++ waiting) =
      attemptsBegun waiting := by
    rw [attemptsBegun_append, attemptsBegun_quiet (quiet_followUpEntries _ _ _ _), Nat.zero_add]
  have distinct : ∀ {result : RelayResult},
      result = .error (disclose failure.error plan.request.requestId) →
        result ≠ .error (retryTimeoutError plan.request.requestId) := by
    rintro result rfl htimeout
    exact disclose_ne_retryTimeoutError _ _ _ (Except.error.inj htimeout)
  rw [hbegun]
  rw [hrequest] at hcase distinct
  rcases hcase with ⟨hnot, rfl, hresult⟩ | ⟨hretriable, elapsed, hcase⟩
  · refine ⟨⟨fun hpos => absurd hpos (Nat.lt_irrefl 0), fun hyp => absurd hyp.1 hnot⟩, fun _ => ?_⟩
    exact ⟨⟨fun htimeout => absurd htimeout (distinct hresult), fun hyp => absurd hyp.1 hnot⟩,
      fun _ => hresult⟩
  rcases hcase with ⟨htime, rfl, hresult⟩ | ⟨htime, sight, tail, rfl, hcase⟩
  · have helapsed : elapsed = reading.elapsed := elapsed_met placed
    rw [helapsed, timedOut, decide_eq_true_iff] at htime
    refine ⟨⟨fun hpos => absurd hpos (Nat.lt_irrefl 0), fun hyp => ?_⟩, fun _ => ?_⟩
    · have := hyp.2.1
      omega
    · exact ⟨⟨fun _ => ⟨hretriable, htime⟩, fun _ => hresult⟩, fun hnot => absurd ⟨hretriable, htime⟩ hnot⟩
  · have helapsed : elapsed = reading.elapsed := elapsed_met placed
    have hsight : sight = reading.sight := sight_met placed
    rw [helapsed, timedOut, decide_eq_false_iff_not, Nat.not_lt] at htime
    have hbegun : attemptsBegun (⟨.elapsed, elapsed⟩ :: ⟨.look, sight⟩ :: tail) =
        attemptsBegun tail := rfl
    rw [hbegun]
    rw [hsight] at hcase
    rcases hcase with ⟨err, hselect, rfl, hresult⟩ | ⟨hnext, hpos⟩
    · refine ⟨⟨fun hpos => absurd hpos (Nat.lt_irrefl 0), ?_⟩, fun _ => ?_⟩
      · rintro ⟨_, _, next, hselect'⟩
        cases hselect.symm.trans hselect'
      · exact ⟨⟨fun htimeout => absurd htimeout (distinct hresult), fun hyp => by omega⟩,
          fun _ => hresult⟩
    · exact ⟨⟨fun _ => ⟨hretriable, htime, hnext⟩, fun _ => hpos⟩, fun hzero => by omega⟩

/-- A run ends in an error before any attempt, or with its last attempt and what quietly follows it. -/
theorem last_attempt (ends : (relay policy request).Ends transcript result) :
    (attemptsBegun transcript = 0 ∧ ∃ err, result = .error err) ∨
      ∃ plan past course channel rest,
        transcript = past ++ (AttemptCourse.entries plan channel course ++ rest) ∧ Quiet rest ∧
          plan? policy request transcript = some plan ∧
          (request.pinned.isSome = true → Quiet past) ∧
          ((∃ answer response, course.result plan = .ok answer ∧ result = .ok response) ∨
            ∃ failure, course.result plan = .error failure ∧ (request.pinned.isSome = true →
              result = .error (disclose failure.error plan.request.requestId))) := by
  cases pinned : request.pinned with
  | none =>
    rcases unpinned_run pinned ends with ⟨hquiet, _, herror⟩ |
        ⟨past, plan, budget, channel, last, rfl, hpast, hlast⟩
    · exact .inl ⟨attemptsBegun_quiet hquiet, herror⟩
    have standing := hpast.standing
    have hplan : plan? policy request (past ++ last) = some plan := by
      rw [plan?_append standing.looked, standing.planned]
    obtain ⟨course, rest, rfl, ⟨usage, outcome, hresult, rfl, hsequel⟩ | ⟨failure, hresult, hafter⟩⟩ :=
      turn_cases hlast
    · cases hsequel
      exact .inr ⟨plan, past, course, channel, [], rfl, by simp [Quiet],
        hplan, by simp, .inl ⟨_, _, hresult, rfl⟩⟩
    · obtain ⟨hquiet, _, _, _⟩ := afterFailure_ended hresult hafter
      exact .inr ⟨plan, past, course, channel, rest, rfl, hquiet, hplan, by simp,
        .inr ⟨failure, hresult, by simp⟩⟩
  | some id =>
    rcases relay_opening ends with ⟨hquiet, _, herror⟩ |
        ⟨arrival, sight, routed, plan, rest, rfl, settled, planned, hrun⟩
    · exact .inl ⟨attemptsBegun_quiet hquiet, herror⟩
    rw [pinned] at hrun
    obtain ⟨stored, tail, rfl, ⟨rfl, herror⟩ | ⟨channel, course, rest, rfl, hcase⟩⟩ :=
      relayPinned_course hrun
    · exact .inl ⟨rfl, herror⟩
    have hopening : Quiet [⟨.look, arrival⟩, ⟨.look, sight⟩, ⟨.storedChannel id, stored⟩] := by
      intro entry hentry
      simp only [List.mem_cons, List.not_mem_nil, or_false] at hentry
      rcases hentry with rfl | rfl | rfl <;> rfl
    have hplan := plan?_looked settled planned
      (⟨.storedChannel id, stored⟩ :: (course.entries plan channel ++ rest))
    rcases hcase with ⟨usage, outcome, hresult, rfl, rfl⟩ | ⟨failure, cooled, hresult, rfl, rfl⟩
    · exact .inr ⟨plan, _, course, channel, [], rfl, by simp [Quiet], hplan, fun _ => hopening,
        .inl ⟨_, _, hresult, rfl⟩⟩
    · exact .inr ⟨plan, _, course, channel, _, rfl, quiet_followUpEntries _ _ _ _, hplan,
        fun _ => hopening, .inr ⟨failure, hresult, fun _ => rfl⟩⟩

/-- Between quiet entries there is one attempt, and no other one can be read there. -/
theorem entries_between {course' : AttemptCourse} {opening rest' : RelayTranscript}
    (hopening : Quiet opening) (hrest : Quiet rest)
    (h : opening ++ (course.entries plan channel ++ rest) =
      past ++ (course'.entries plan other ++ rest')) :
    opening = past ∧ course = course' ∧ rest = rest' := by
  obtain ⟨head, tail, hentries, _, htail⟩ := entries_begin plan channel course
  obtain ⟨head', tail', hentries', hhead', _⟩ := entries_begin plan other course'
  have absent : ∀ {entries : RelayTranscript}, (∀ entry ∈ entries, beginsAttempt entry = false) →
      head' ∉ entries := by
    intro entries hnone hmem
    rw [hnone head' hmem] at hhead'
    cases hhead'
  have hsplit : opening ++ (course.entries plan channel ++ rest) =
      past ++ head' :: (tail' ++ rest') := by
    rw [h, hentries']
    rfl
  obtain ⟨middle, rfl, hmiddle⟩ := split_after hsplit
    (absent fun entry hentry => beginsAttempt_of_not_isBooked (hopening entry hentry))
  cases middle with
  | nil =>
    rw [List.append_nil] at h ⊢
    obtain ⟨hcourse, hsame, _⟩ := entries_append_inj (List.append_cancel_left h)
    exact ⟨rfl, hcourse, hsame⟩
  | cons first middle =>
    rw [hentries] at hmiddle
    obtain ⟨_, hlater⟩ := List.cons.inj hmiddle
    have hnone : ∀ entry ∈ tail ++ rest, beginsAttempt entry = false := by
      intro entry hentry
      rcases List.mem_append.mp hentry with h | h
      · exact htail entry h
      · exact beginsAttempt_of_not_isBooked (hrest entry h)
    have hmem : head' ∈ tail ++ rest := by
      have hlater' : tail ++ rest = middle ++ head' :: (tail' ++ rest') := hlater
      rw [hlater']
      exact List.mem_append_right middle List.mem_cons_self
    exact absurd hmem (absent hnone)

theorem pinned_attempts (pinned : request.pinned.isSome = true)
    (ends : (relay policy request).Ends transcript result) : attemptsBegun transcript ≤ 1 := by
  rcases last_attempt ends with ⟨hnone, _⟩ | ⟨plan, past, course, channel, rest, rfl, hrest, _, hpast, _⟩
  · rw [hnone]
    exact Nat.zero_le 1
  · have hbefore := attemptsBegun_quiet (hpast pinned)
    have hafter := attemptsBegun_quiet hrest
    have hentries := attemptsBegun_entries plan channel course
    rw [attemptsBegun_append, attemptsBegun_append]
    omega

theorem pinned_failure (pinned : request.pinned.isSome = true)
    (ends : (relay policy request).Ends transcript result)
    (planned : plan? policy request transcript = some plan)
    (h : FailedAttempt plan transcript past course channel failure rest) :
    result = .error (disclose failure.error request.requestId) := by
  rcases last_attempt ends with ⟨hnone, _⟩ |
      ⟨plan', past', course', channel', rest', heq, hrest, hplan, hpast, hcase⟩
  · rw [h.placed, attemptsBegun_append, attemptsBegun_append, attemptsBegun_entries] at hnone
    omega
  obtain rfl : plan' = plan := Option.some.inj (hplan.symm.trans planned)
  obtain ⟨_, rfl, _⟩ := entries_between (hpast pinned) hrest (heq.symm.trans h.placed)
  rw [plan?_requestId planned] at hcase
  rcases hcase with ⟨answer, _, hresult, _⟩ | ⟨failure', hresult, hend⟩
  · cases h.failed.symm.trans hresult
  · cases h.failed.symm.trans hresult
    exact hend pinned

/-- Retrying, whatever a run meets. An unpinned run begins another attempt after a failed one exactly if
the dispatch failed without having begun its answer, another channel may do better, there is room,
the time limit has not passed and a channel is left among those not tried. A run that ends in an error
after an attempt has a last failed attempt, and tells the client of that failure, or that the time is
over if this alone kept it from selecting another channel. A pinned run makes at most one attempt and
tells the client of its failure. -/
theorem retrying_exact (policy : RelayPolicy) (request : RelayRequest)
    (surroundings : Surroundings RelayReply) :
    let run := (relay policy request).meet surroundings []
    let limit := attemptLimit policy.retryTimes (startCount policy request run.1)
    (∀ plan past course channel failure rest, plan? policy request run.1 = some plan →
      FailedAttempt plan run.1 past course channel failure rest →
        match request.pinned with
        | some _ => run.2 = .error (disclose failure.error request.requestId)
        | none =>
          let done := past ++ course.entries plan channel
          let reading := readingAfter surroundings plan channel failure.error done
          let retriable := Retriable limit (attemptsBegun done) course channel failure
          (0 < attemptsBegun rest ↔ retriable ∧ reading.elapsed ≤ policy.timeLimit ∧
              ∃ next, plan.select reading.sight (dispatchedIds done) = .ok next) ∧
            (attemptsBegun rest = 0 →
              (run.2 = .error (retryTimeoutError request.requestId) ↔
                  retriable ∧ policy.timeLimit < reading.elapsed) ∧
                (¬ (retriable ∧ policy.timeLimit < reading.elapsed) →
                  run.2 = .error (disclose failure.error request.requestId)))) ∧
      (∀ err, run.2 = .error err → 0 < attemptsBegun run.1 →
        ∃ plan past course channel failure rest, plan? policy request run.1 = some plan ∧
          FailedAttempt plan run.1 past course channel failure rest ∧ attemptsBegun rest = 0) ∧
      (request.pinned.isSome = true → attemptsBegun run.1 ≤ 1) := by
  intro run limit
  have ends : (relay policy request).Ends run.1 run.2 := Program.ends_meet surroundings [] _
  refine ⟨?_, ?_, fun pinned => pinned_attempts pinned ends⟩
  · intro plan past course channel failure rest planned h
    cases pinned : request.pinned with
    | none => exact unpinned_failure pinned planned h
    | some id => exact pinned_failure (by rw [pinned]; rfl) ends planned h
  · intro err herr hpos
    rcases last_attempt ends with ⟨hnone, _⟩ |
        ⟨plan, past, course, channel, rest, heq, hrest, planned, _, hcase⟩
    · omega
    rcases hcase with ⟨_, response, _, hok⟩ | ⟨failure, hfailed, _⟩
    · cases herr.symm.trans hok
    · exact ⟨plan, past, course, channel, failure, rest, planned, ⟨heq, hfailed⟩,
        attemptsBegun_quiet hrest⟩

/-- Every channel is down. -/
def allDown : Surroundings RelayReply := fun past call =>
  match call with
  | .dispatch .. => .error ⟨.upstream 500 "down" "", false⟩
  | call => firstDown past call

theorem allDown_retrying :
    let run := (relay samplePolicy sampleRequest).meet allDown []
    attemptsBegun run.1 = 2 ∧ ∃ plan past course channel failure rest,
      plan? samplePolicy sampleRequest run.1 = some plan ∧
        FailedAttempt plan run.1 past course channel failure rest ∧ attemptsBegun rest = 0 ∧
        run.2 = .error (disclose failure.error sampleRequest.requestId) := by
  intro run
  obtain ⟨follows, lasts, _⟩ := retrying_exact samplePolicy sampleRequest allDown
  have two : attemptsBegun run.1 = 2 := by decide +kernel
  have begun : 0 < attemptsBegun run.1 := by rw [two]; decide
  obtain ⟨err, herr⟩ : ∃ err, run.2 = .error err := by
    have failed : run.2.toBool = false := by decide +kernel
    cases hresult : run.2 with
    | error err => exact ⟨err, rfl⟩
    | ok response =>
      rw [hresult] at failed
      cases failed
  obtain ⟨plan, past, course, channel, failure, rest, planned, hfailed, hlast⟩ :=
    lasts err herr begun
  obtain ⟨_, hends⟩ := follows plan past course channel failure rest planned hfailed
  obtain ⟨_, htold⟩ := hends hlast
  refine ⟨two, plan, past, course, channel, failure, rest, planned, hfailed, hlast, htold ?_⟩
  -- the clock of these surroundings stands at zero
  rintro ⟨_, late⟩
  exact Nat.not_lt_zero _ late

end RelayGateway
