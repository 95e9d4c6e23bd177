import RelayGateway.Proofs.Program.Transcript
import RelayGateway.Proofs.Routing.Selection

/-! # The transcript of one turn

* `AttemptCourse`: how an attempt can go, with its entries in the transcript and its result;
  `ends_attempt` says that there are no other transcripts.
* `followUpEntries`: the follow-up of a failure.
* `afterFailure_cases`: everything that can follow a failure, each case with its conditions.
* `turn_another`, `turn_ended`: a turn that another one follows, and a turn that ends the run.

An entry is booked if it is about a reservation or a dispatch. In a turn the booked entries stand at
the beginning, and the others after them are quiet.
-/

set_option autoImplicit false

namespace RelayGateway

/-- The exchanges of a run of a request. -/
abbrev RelayTranscript := List (Exchange RelayReply)

/-- Whether an entry is about a reservation or a dispatch. -/
def isBooked (entry : Exchange RelayReply) : Bool :=
  match entry.call with
  | .reserve _ | .dispatch .. | .settle .. | .reverse _ => true
  | .look | .elapsed | .storedChannel _ | .cool .. | .report .. => false

/-- Nothing is reserved, dispatched, settled or reversed. -/
def Quiet (transcript : RelayTranscript) : Prop :=
  ∀ entry ∈ transcript, isBooked entry = false

theorem ends_look_bind {α : Type} (after : Sight → RelayProgram α) (transcript : RelayTranscript)
    (result : α) :
    (look >>= after).Ends transcript result ↔
      ∃ sight rest, transcript = ⟨.look, sight⟩ :: rest ∧ (after sight).Ends rest result := Iff.rfl

theorem Quiet.append {first rest : RelayTranscript} (hf : Quiet first) (hr : Quiet rest) :
    Quiet (first ++ rest) := by
  intro entry hentry
  rcases List.mem_append.mp hentry with h | h
  · exact hf entry h
  · exact hr entry h

/-! ## One attempt -/

/-- How an attempt can go. -/
inductive AttemptCourse where
  /-- Nothing is reserved. -/
  | refused (err : ServiceError)
  | failed (reservation : Reservation) (failure : DispatchFailure)
      (reversal : Except ServiceError Unit)
  | served (reservation : Reservation) (outcome : DispatchOutcome)
      (settlement : Except ServiceError Unit)

namespace AttemptCourse

/-- The entries of an attempt in the transcript. -/
def entries (plan : RelayPlan) (channel : Channel) : AttemptCourse → RelayTranscript
  | .refused err => [⟨.reserve plan.charge, .error err⟩]
  | .failed reservation failure reversal =>
    [⟨.reserve plan.charge, .ok reservation⟩,
      ⟨.dispatch channel plan.key plan.request, .error failure⟩,
      ⟨.reverse reservation, reversal⟩]
  | .served reservation outcome settlement =>
    [⟨.reserve plan.charge, .ok reservation⟩,
      ⟨.dispatch channel plan.key plan.request, .ok outcome⟩,
      ⟨.settle reservation (billedUsage plan.promptTokens outcome) plan.request.stream, settlement⟩]

/-- What comes of an attempt. -/
def result (plan : RelayPlan) : AttemptCourse → Except AttemptFailure (Usage × DispatchOutcome)
  | .refused err => .error ⟨.ofGateway 403 err.message "insufficient_user_quota", true⟩
  | .failed _ failure _ => .error ⟨failure.error, failure.committed⟩
  | .served _ outcome _ => .ok (billedUsage plan.promptTokens outcome, outcome)

/-- Whether the attempt was dispatched and failed. -/
def isFailed : AttemptCourse → Bool
  | .failed .. => true
  | .refused _ | .served .. => false

/-- Whether the attempt was dispatched and gave an answer. -/
def isServed : AttemptCourse → Bool
  | .served .. => true
  | .refused _ | .failed .. => false

end AttemptCourse

variable {policy : RelayPolicy} {plan : RelayPlan} {budget : RetryBudget} {channel : Channel}
  {failure : AttemptFailure} {transcript : RelayTranscript}

theorem ends_attempt {result : Except AttemptFailure (Usage × DispatchOutcome)} :
    (attempt plan channel).Ends transcript result ↔
      ∃ course : AttemptCourse, transcript = course.entries plan channel ∧
        result = course.result plan := by
  constructor
  · rintro ⟨reserved, rest, rfl, h⟩
    cases reserved with
    | error err =>
      obtain ⟨rfl, rfl⟩ := h
      exact ⟨.refused err, rfl, rfl⟩
    | ok reservation =>
      obtain ⟨dispatched, rest, rfl, h⟩ := h
      cases dispatched with
      | ok outcome =>
        obtain ⟨settlement, _, rfl, rfl, rfl⟩ := h
        exact ⟨.served reservation outcome settlement, rfl, rfl⟩
      | error failure =>
        obtain ⟨reversal, _, rfl, rfl, rfl⟩ := h
        exact ⟨.failed reservation failure reversal, rfl, rfl⟩
  · rintro ⟨course, rfl, rfl⟩
    cases course with
    | refused err => exact ⟨_, _, rfl, rfl, rfl⟩
    | failed reservation failure reversal => exact ⟨_, _, rfl, _, _, rfl, _, _, rfl, rfl, rfl⟩
    | served reservation outcome settlement => exact ⟨_, _, rfl, _, _, rfl, _, _, rfl, rfl, rfl⟩

/-! ## After a failure -/

/-- The entries of the follow-up of a failure. -/
def followUpEntries (plan : RelayPlan) (channel : Channel) (err : UpstreamError) (cooled : Bool) :
    RelayTranscript :=
  (if coolsDown err then [⟨.cool channel.id plan.key, cooled⟩] else []) ++
    (if err.isLocal then [] else [⟨.report channel err, ()⟩])

theorem quiet_followUpEntries (plan : RelayPlan) (channel : Channel) (err : UpstreamError)
    (cooled : Bool) : Quiet (followUpEntries plan channel err cooled) := by
  intro entry hentry
  unfold followUpEntries at hentry
  rcases List.mem_append.mp hentry with h | h
  · split at h
    · rw [List.mem_singleton.mp h]
      rfl
    · cases h
  · split at h
    · cases h
    · rw [List.mem_singleton.mp h]
      rfl

theorem length_followUpEntries_le (plan : RelayPlan) (channel : Channel) (err : UpstreamError)
    (cooled : Bool) : (followUpEntries plan channel err cooled).length ≤ 2 := by
  unfold followUpEntries
  split <;> split <;> simp

theorem ends_followUp {err : UpstreamError} (h : (followUp plan channel err).Ends transcript ()) :
    ∃ cooled, transcript = followUpEntries plan channel err cooled := by
  have reported : ∀ rest : RelayTranscript, Program.Ends (if (!err.isLocal) = true then
      Program.request (RelayCall.report channel err) else pure ()) rest () →
      rest = if err.isLocal then [] else [⟨.report channel err, ()⟩] := by
    intro rest hr
    cases hl : err.isLocal with
    | true =>
      rw [hl] at hr
      exact hr.1
    | false =>
      rw [hl] at hr
      exact (Program.ends_request _ _ _).mp hr
  unfold followUp at h
  unfold followUpEntries
  dsimp only at h
  split at h
  · rename_i hcool
    obtain ⟨cooled, rest, rfl, hr⟩ := (Program.ends_request_bind _ _ _ _).mp h
    refine ⟨cooled, ?_⟩
    rw [if_pos hcool, reported rest hr]
    rfl
  · rename_i hcool
    refine ⟨false, ?_⟩
    rw [if_neg hcool, reported transcript h]
    rfl

theorem quiet_waiting (elapsed : Nat) (sight : Sight) :
    Quiet [⟨.elapsed, elapsed⟩, ⟨.look, sight⟩] := by
  intro entry hentry
  simp only [List.mem_cons, List.not_mem_nil, or_false] at hentry
  rcases hentry with rfl | rfl <;> rfl

/-- Everything that can follow a failure. It ends the run if it is final or there is no room for another
attempt; else the clock is read, and unless the time limit has passed a channel is selected. -/
theorem afterFailure_cases {sequel : Sequel budget}
    (h : (afterFailure policy plan budget channel failure).Ends transcript sequel) :
    ∃ cooled rest, transcript = followUpEntries plan channel failure.error cooled ++ rest ∧
      ((failure.isFinal channel = true ∨ budget.hasRoom = false) ∧ rest = [] ∧
          sequel = .ended (.error (disclose failure.error plan.request.requestId)) ∨
        failure.isFinal channel = false ∧ budget.hasRoom = true ∧ ∃ elapsed,
          (timedOut elapsed policy.timeLimit = true ∧ rest = [⟨.elapsed, elapsed⟩] ∧
              sequel = .ended (.error (retryTimeoutError plan.request.requestId)) ∨
            timedOut elapsed policy.timeLimit = false ∧ ∃ sight,
              rest = [⟨.elapsed, elapsed⟩, ⟨.look, sight⟩] ∧
              ((∃ err, plan.select sight (budget.exclude channel.id).excluded = .error err ∧
                  sequel = .ended (.error (disclose failure.error plan.request.requestId))) ∨
                ∃ next fewer, plan.select sight (budget.exclude channel.id).excluded = .ok next ∧
                  sequel = .another (budget.exclude channel.id).countAttempt next fewer))) := by
  unfold afterFailure at h
  rw [Program.ends_bind] at h
  obtain ⟨wake, _, rest, rfl, hw, h⟩ := h
  obtain ⟨cooled, rfl⟩ := ends_followUp hw
  refine ⟨cooled, rest, rfl, ?_⟩
  dsimp only at h
  split at h
  · rename_i hfinal
    obtain ⟨rfl, rfl⟩ := h
    exact .inl ⟨.inl hfinal, rfl, rfl⟩
  · rename_i hfinal
    have hfinal' : failure.isFinal channel = false := by simpa using hfinal
    split at h
    · rename_i hroom
      rw [Program.ends_request_bind] at h
      obtain ⟨elapsed, rest, rfl, h⟩ := h
      refine .inr ⟨hfinal', hroom, elapsed, ?_⟩
      cases htime : timedOut elapsed policy.timeLimit with
      | true =>
        rw [if_pos htime] at h
        obtain ⟨rfl, rfl⟩ := h
        exact .inl ⟨rfl, rfl, rfl⟩
      | false =>
        rw [if_neg (by simp [htime])] at h
        rw [ends_look_bind] at h
        obtain ⟨sight, rest, rfl, h⟩ := h
        refine .inr ⟨rfl, sight, ?_⟩
        split at h
        · rename_i err hselect
          obtain ⟨rfl, rfl⟩ := h
          exact ⟨rfl, .inl ⟨err, hselect, rfl⟩⟩
        · rename_i next hselect
          obtain ⟨rfl, rfl⟩ := h
          exact ⟨rfl, .inr ⟨next, _, hselect, rfl⟩⟩
    · rename_i hroom
      obtain ⟨rfl, rfl⟩ := h
      exact .inl ⟨.inr (by simpa using hroom), rfl, rfl⟩

/-! ## A whole turn -/

theorem length_entries_le (plan : RelayPlan) (channel : Channel) (course : AttemptCourse) :
    (course.entries plan channel).length ≤ 3 := by
  cases course <;> simp [AttemptCourse.entries]

/-- A failure that lets the run go on is that of a dispatched attempt. -/
theorem AttemptCourse.isFailed_of_not_isFinal {course : AttemptCourse}
    (hresult : course.result plan = .error failure) (hfinal : failure.isFinal channel = false) :
    course.isFailed = true := by
  cases course with
  | refused err =>
    cases hresult
    simp [AttemptFailure.isFinal] at hfinal
  | failed reservation failure reversal => rfl
  | served reservation outcome settlement => cases hresult

theorem turn_cases {sequel : Sequel budget}
    (h : (turn policy plan budget channel).Ends transcript sequel) :
    ∃ (course : AttemptCourse) (rest : RelayTranscript),
      transcript = course.entries plan channel ++ rest ∧
      ((∃ usage outcome, course.result plan = .ok (usage, outcome) ∧ rest = [] ∧
          sequel = .ended (.ok (respond channel usage budget.attempts outcome))) ∨
        ∃ failure, course.result plan = .error failure ∧
          (afterFailure policy plan budget channel failure).Ends rest sequel) := by
  unfold turn at h
  rw [Program.ends_bind] at h
  obtain ⟨first, result, rest, rfl, hattempt, h⟩ := h
  obtain ⟨course, rfl, rfl⟩ := ends_attempt.mp hattempt
  refine ⟨course, rest, rfl, ?_⟩
  split at h
  · rename_i usage outcome hresult
    obtain ⟨rfl, rfl⟩ := h
    exact .inl ⟨usage, outcome, hresult, rfl, rfl⟩
  · rename_i failure hresult
    exact .inr ⟨failure, hresult, h⟩

/-- A turn that another one follows: its attempt was dispatched and failed, the rest of it is quiet, and
the next channel is none of the excluded ones. -/
theorem turn_another {next : RetryBudget} {other : Channel} {fewer : next.remaining < budget.remaining}
    (h : (turn policy plan budget channel).Ends transcript (.another next other fewer)) :
    ∃ (course : AttemptCourse) (rest : RelayTranscript),
      transcript = course.entries plan channel ++ rest ∧ course.isFailed = true ∧ Quiet rest ∧
        rest.length ≤ 4 ∧ budget.hasRoom = true ∧
        next = (budget.exclude channel.id).countAttempt ∧
        other.id ∉ (budget.exclude channel.id).excluded := by
  obtain ⟨course, rest, rfl, ⟨_, _, _, _, hsequel⟩ | ⟨failure, hresult, hafter⟩⟩ := turn_cases h
  · cases hsequel
  refine ⟨course, rest, rfl, ?_⟩
  obtain ⟨cooled, tail, rfl, ⟨_, _, hsequel⟩ | ⟨hfinal, hroom, elapsed, hcase⟩⟩ :=
    afterFailure_cases hafter
  · cases hsequel
  obtain ⟨_, _, hsequel⟩ | ⟨_, sight, rfl, ⟨_, _, hsequel⟩ | ⟨selected, _, hselect, hsequel⟩⟩ := hcase
  · cases hsequel
  · cases hsequel
  · cases hsequel
    refine ⟨AttemptCourse.isFailed_of_not_isFinal hresult hfinal,
      (quiet_followUpEntries plan channel failure.error cooled).append (quiet_waiting elapsed sight),
      ?_, hroom, rfl, RelayPlan.select_not_mem hselect⟩
    have hlen := length_followUpEntries_le plan channel failure.error cooled
    simp only [List.length_append, List.length_cons, List.length_nil]
    omega

/-- The follow-up of a refused reservation has no entries: the gateway's own error neither cools a
channel nor is reported. -/
theorem followUpEntries_refused (plan : RelayPlan) (channel : Channel) (message : String)
    (cooled : Bool) :
    followUpEntries plan channel (.ofGateway 403 message "insufficient_user_quota") cooled = [] :=
  rfl

/-- A failure after which the run ends leaves only quiet entries, and none after a refusal. -/
theorem afterFailure_ended {course : AttemptCourse} {result : RelayResult}
    (hresult : course.result plan = .error failure)
    (h : (afterFailure policy plan budget channel failure).Ends transcript (.ended result)) :
    Quiet transcript ∧ transcript.length ≤ 4 ∧ (∃ err, result = .error err) ∧
      (∀ err, course = .refused err → transcript = []) := by
  obtain ⟨cooled, tail, rfl, hcase⟩ := afterFailure_cases h
  have hwake := quiet_followUpEntries plan channel failure.error cooled
  have hlen := length_followUpEntries_le plan channel failure.error cooled
  rcases hcase with ⟨_, rfl, hsequel⟩ | ⟨hfinal, _, elapsed, hcase⟩
  · cases hsequel
    rw [List.append_nil]
    refine ⟨hwake, by omega, ⟨_, rfl⟩, ?_⟩
    rintro err rfl
    cases hresult
    exact followUpEntries_refused plan channel err.message cooled
  · have notRefused : ∀ err, course ≠ .refused err := by
      rintro err rfl
      have hfailed := AttemptCourse.isFailed_of_not_isFinal hresult hfinal
      cases hfailed
    rcases hcase with ⟨_, rfl, hsequel⟩ | ⟨_, sight, rfl, ⟨_, _, hsequel⟩ | ⟨_, _, _, hsequel⟩⟩
    · cases hsequel
      refine ⟨hwake.append ?_, ?_, ⟨_, rfl⟩, fun err he => absurd he (notRefused err)⟩
      · intro entry hentry
        rw [List.mem_singleton.mp hentry]
        rfl
      · rw [List.length_append, List.length_singleton]
        omega
    · cases hsequel
      refine ⟨hwake.append (quiet_waiting elapsed sight), ?_, ⟨_, rfl⟩,
        fun err he => absurd he (notRefused err)⟩
      rw [List.length_append]
      simp only [List.length_cons, List.length_nil]
      omega
    · cases hsequel

/-- A turn that ends the run: the client gets an answer exactly if the attempt was served, and nothing
comes after a refused reservation. -/
theorem turn_ended {result : RelayResult}
    (h : (turn policy plan budget channel).Ends transcript (.ended result)) :
    ∃ (course : AttemptCourse) (rest : RelayTranscript),
      transcript = course.entries plan channel ++ rest ∧ Quiet rest ∧ rest.length ≤ 4 ∧
        (∀ response, result = .ok response →
          course.isServed = true ∧ response.attempts = budget.attempts ∧
            response.channel = channel.id) ∧
        (course.isServed = true → ∃ response, result = .ok response) ∧
        (∀ err, course = .refused err → rest = []) := by
  obtain ⟨course, rest, rfl, ⟨usage, outcome, hresult, rfl, hsequel⟩ | ⟨failure, hresult, hafter⟩⟩ :=
    turn_cases h
  · cases hsequel
    refine ⟨course, [], rfl, by simp [Quiet], by simp, ?_, fun _ => ⟨_, rfl⟩, fun _ _ => rfl⟩
    intro response hresponse
    cases hresponse
    cases course with
    | refused err => cases hresult
    | failed reservation failure reversal => cases hresult
    | served reservation outcome settlement => exact ⟨rfl, rfl, rfl⟩
  · obtain ⟨hquiet, hlen, ⟨err, rfl⟩, hrefused⟩ := afterFailure_ended hresult hafter
    refine ⟨course, rest, rfl, hquiet, hlen, ?_, ?_, hrefused⟩
    · intro response hresponse
      cases hresponse
    · intro hserved
      cases course with
      | refused err => cases hserved
      | failed reservation failure reversal => cases hserved
      | served reservation outcome settlement => cases hresult

end RelayGateway
