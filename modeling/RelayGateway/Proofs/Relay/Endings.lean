import RelayGateway.Proofs.Relay.Confinement

/-! # Attempts at their places in a run

* `Placed`: an attempt at its place, with what comes of the run if it is the last one.
* `InAttempt`: an entry that stands in an attempt. Whatever a run reserves, dispatches, settles or
  reverses does so (`relay_booked`).
* `relay_answered`, `relay_failed`, `relay_refused`: what is left of a run once a dispatch is answered or
  has failed for good, or a reservation is refused.
-/

set_option autoImplicit false

namespace RelayGateway

/-- An attempt at its place in a run. If it was served, or failed for good, it is the last one. -/
structure Placed (plan : RelayPlan) (transcript past : RelayTranscript) (channel : Channel)
    (course : AttemptCourse) (rest : RelayTranscript) (result : RelayResult) : Prop where
  placed : transcript = past ++ (course.entries plan channel ++ rest)
  answers : ∀ usage outcome, course.result plan = .ok (usage, outcome) →
    rest = [] ∧ ∃ attempts, result = .ok (respond channel usage attempts outcome)
  ends : ∀ failure, course.result plan = .error failure → failure.isFinal channel = true →
    ∃ cooled, rest = followUpEntries plan channel failure.error cooled ∧
      result = .error (disclose failure.error plan.request.requestId)

/-- An entry of a run stands in an attempt, `first` before it and `last` after it. -/
def InAttempt (plan : RelayPlan) (transcript earlier : RelayTranscript) (entry : Exchange RelayReply)
    (later : RelayTranscript) (result : RelayResult) : Prop :=
  ∃ past channel course rest first last, Placed plan transcript past channel course rest result ∧
    AttemptCourse.entries plan channel course = first ++ entry :: last ∧
    earlier = past ++ first ∧ later = last ++ rest

variable {policy : RelayPolicy} {request sent : RelayRequest} {plan : RelayPlan}
  {budget : RetryBudget} {channel chosen : Channel} {key : String} {course : AttemptCourse}
  {transcript past rest earlier later : RelayTranscript} {result : RelayResult}
  {entry : Exchange RelayReply}

/-- An attempt stays at its place when more is known of what came before. -/
theorem Placed.after (h : Placed plan transcript past channel course rest result)
    (before : RelayTranscript) :
    Placed plan (before ++ transcript) (before ++ past) channel course rest result := by
  refine ⟨?_, h.answers, h.ends⟩
  rw [h.placed, List.append_assoc]

theorem InAttempt.after (h : InAttempt plan transcript earlier entry later result)
    (before : RelayTranscript) :
    InAttempt plan (before ++ transcript) (before ++ earlier) entry later result := by
  obtain ⟨past, channel, course, rest, first, last, hplaced, hentries, rfl, hlast⟩ := h
  refine ⟨before ++ past, channel, course, rest, first, last, hplaced.after before, hentries, ?_, hlast⟩
  rw [List.append_assoc]

/-! ## Where the attempts are -/

theorem Quiet.not_mem (h : Quiet transcript) (booked : isBooked entry = true) :
    entry ∉ transcript := by
  intro hentry
  rw [h entry hentry] at booked
  cases booked

/-- A booked entry comes after a quiet opening. -/
theorem Quiet.split_after (h : Quiet past) (booked : isBooked entry = true)
    (split : past ++ rest = earlier ++ entry :: later) :
    ∃ middle, earlier = past ++ middle ∧ rest = middle ++ entry :: later :=
  RelayGateway.split_after split (h.not_mem booked)

/-- The quiet entries after an attempt can be dropped when a booked one is looked for. -/
theorem booked_in_course (quiet : Quiet rest) (booked : isBooked entry = true)
    (split : course.entries plan channel ++ rest = earlier ++ entry :: later) :
    ∃ last, course.entries plan channel = earlier ++ entry :: last ∧ later = last ++ rest := by
  rcases append_eq_split split with ⟨middle, _, rfl⟩ | ⟨last, hentries, hlater⟩
  · exact absurd (by simp) (quiet.not_mem booked)
  · exact ⟨last, hentries, hlater⟩

theorem quiet_afterFailure {failure : AttemptFailure} {sequel : Sequel budget}
    (h : (afterFailure policy plan budget channel failure).Ends transcript sequel) :
    Quiet transcript := by
  obtain ⟨cooled, waiting, rfl, hcase⟩ := afterFailure_cases h
  apply (quiet_followUpEntries plan channel failure.error cooled).append
  rcases hcase with ⟨_, rfl, _⟩ | ⟨_, _, elapsed, ⟨_, rfl, _⟩ | ⟨_, sight, rfl, _⟩⟩
  · simp [Quiet]
  · simp [Quiet, isBooked]
  · exact quiet_waiting elapsed sight

/-- The attempt of a turn is the first of those that are left. -/
theorem turn_placed {sequel : Sequel budget}
    (turned : (turn policy plan budget channel).Ends transcript sequel)
    (follows : ∀ value, sequel = .ended value → rest = [] ∧ result = value) :
    ∃ course after, transcript = AttemptCourse.entries plan channel course ++ after ∧ Quiet after ∧
      Placed plan (transcript ++ rest) [] channel course (after ++ rest) result := by
  obtain ⟨course, after, rfl, ⟨usage, outcome, hresult, rfl, rfl⟩ | ⟨failure, hresult, hafter⟩⟩ :=
    turn_cases turned
  · obtain ⟨rfl, rfl⟩ := follows _ rfl
    refine ⟨course, [], rfl, by simp [Quiet], by simp, ?_, ?_⟩
    · intro usage' outcome' hresult'
      cases hresult.symm.trans hresult'
      exact ⟨rfl, budget.attempts, rfl⟩
    · intro failure hfailed
      cases hresult.symm.trans hfailed
  · refine ⟨course, after, rfl, quiet_afterFailure hafter, by simp, ?_, ?_⟩
    · intro usage outcome hserved
      cases hresult.symm.trans hserved
    · intro failure' hfailed final
      cases hresult.symm.trans hfailed
      obtain ⟨cooled, waiting, rfl, ⟨_, rfl, rfl⟩ | ⟨hopen, _⟩⟩ := afterFailure_cases hafter
      · obtain ⟨rfl, rfl⟩ := follows _ rfl
        exact ⟨cooled, by simp, rfl⟩
      · cases final.symm.trans hopen

theorem attemptFrom_booked (h : (attemptFrom policy plan budget channel).Ends transcript result)
    (booked : isBooked entry = true) (split : transcript = earlier ++ entry :: later) :
    InAttempt plan transcript earlier entry later result := by
  -- on the attempts that are left: the entry is of the first of them, or comes after its turn
  induction budget, channel using attemptFrom.induct generalizing transcript earlier with
  | case1 budget channel ih =>
    rw [attemptFrom, Program.ends_bind] at h
    obtain ⟨turned, sequel, others, rfl, hturn, hothers⟩ := h
    rcases append_eq_split split with ⟨middle, rfl, rfl⟩ | ⟨middle, hturned, rfl⟩
    · cases sequel with
      | ended value =>
        obtain ⟨hnil, _⟩ := hothers
        simp at hnil
      | another next other fewer =>
        exact (ih next other fewer hothers rfl).after turned
    · have follows : ∀ value, sequel = .ended value → others = [] ∧ result = value := by
        rintro value rfl
        exact hothers
      obtain ⟨course, after, rfl, hquiet, hplaced⟩ := turn_placed hturn follows
      obtain ⟨last, hentries, rfl⟩ := booked_in_course hquiet booked hturned
      exact ⟨[], channel, course, after ++ others, earlier, last, hplaced, hentries, rfl, by simp⟩

theorem relayPinned_booked {id : ChannelId} (h : (relayPinned plan id).Ends transcript result)
    (booked : isBooked entry = true) (split : transcript = earlier ++ entry :: later) :
    InAttempt plan transcript earlier entry later result := by
  obtain ⟨stored, tail, rfl, hcase⟩ := relayPinned_course h
  have quiet : Quiet [⟨.storedChannel id, stored⟩] := by simp [Quiet, isBooked]
  obtain ⟨middle, rfl, htail⟩ := quiet.split_after booked split
  rcases hcase with ⟨rfl, _⟩ | ⟨channel, course, rest, rfl, hcase⟩
  · simp at htail
  have placed : Placed plan (course.entries plan channel ++ rest) [] channel course rest result ∧
      Quiet rest := by
    rcases hcase with ⟨usage, outcome, hresult, rfl, rfl⟩ | ⟨failure, cooled, hresult, rfl, rfl⟩
    · refine ⟨⟨rfl, ?_, ?_⟩, by simp [Quiet]⟩
      · intro usage' outcome' hresult'
        cases hresult.symm.trans hresult'
        exact ⟨rfl, 1, rfl⟩
      · intro failure hfailed
        cases hresult.symm.trans hfailed
    · refine ⟨⟨rfl, ?_, ?_⟩, quiet_followUpEntries _ _ _ _⟩
      · intro usage outcome hserved
        cases hresult.symm.trans hserved
      · intro failure' hfailed _
        cases hresult.symm.trans hfailed
        exact ⟨cooled, rfl, rfl⟩
  obtain ⟨hplaced, hquiet⟩ := placed
  obtain ⟨last, hentries, rfl⟩ := booked_in_course hquiet booked htail
  have found : InAttempt plan (course.entries plan channel ++ rest) middle entry (last ++ rest) result :=
    ⟨[], channel, course, rest, middle, last, hplaced, hentries, rfl, rfl⟩
  exact found.after [⟨.storedChannel id, stored⟩]

/-- Whatever a run reserves, dispatches, settles or reverses belongs to an attempt. -/
theorem relay_booked (h : (relay policy request).Ends transcript result)
    (booked : isBooked entry = true) (split : transcript = earlier ++ entry :: later) :
    ∃ plan, plan? policy request transcript = some plan ∧
      InAttempt plan transcript earlier entry later result := by
  rcases relay_opening h with ⟨hquiet, _⟩ |
      ⟨arrival, sight, routed, plan, tail, rfl, settled, planned, hrun⟩
  · exact absurd (by simp [split]) (hquiet.not_mem booked)
  have hplan := plan?_looked settled planned tail
  have quiet : Quiet [⟨.look, arrival⟩, ⟨.look, sight⟩] := quiet_looks [arrival, sight]
  obtain ⟨middle, rfl, htail⟩ := quiet.split_after booked split
  refine ⟨plan, hplan, InAttempt.after ?_ [⟨.look, arrival⟩, ⟨.look, sight⟩]⟩
  cases pinned : request.pinned with
  | some id =>
    rw [pinned] at hrun
    exact relayPinned_booked hrun booked htail
  | none =>
    rw [pinned] at hrun
    obtain ⟨counted, chosen, attempts, rfl, hcase⟩ := relayUnpinned_cases hrun
    have looks : Quiet [⟨.look, counted⟩, ⟨.look, chosen⟩] := quiet_looks [counted, chosen]
    obtain ⟨middle, rfl, hattempted⟩ := looks.split_after booked htail
    rcases hcase with ⟨_, _, rfl, _⟩ | ⟨channel, _, hattempts⟩
    · simp at hattempted
    · exact (attemptFrom_booked hattempts booked hattempted).after
        [⟨.look, counted⟩, ⟨.look, chosen⟩]

/-! ## What is left of a run -/

theorem dispatched_course {reply : Except DispatchFailure DispatchOutcome}
    (h : course.entries plan channel = earlier ++ ⟨.dispatch chosen key sent, reply⟩ :: later) :
    chosen = channel ∧ key = plan.key ∧
      match reply with
      | .ok outcome => ∃ reservation settlement, course = .served reservation outcome settlement ∧
          later = [⟨.settle reservation (billedUsage plan.promptTokens outcome) plan.request.stream,
            settlement⟩]
      | .error failure => ∃ reservation reversal, course = .failed reservation failure reversal ∧
          later = [⟨.reverse reservation, reversal⟩] := by
  obtain ⟨rfl, rfl, rfl, reservation, rfl⟩ := entries_dispatch h
  refine ⟨rfl, rfl, ?_⟩
  cases course with
  | refused err => simp [AttemptCourse.entries] at h
  | failed other failure reversal =>
    simp [AttemptCourse.entries] at h
    obtain ⟨rfl, ⟨_, rfl⟩, rfl⟩ := h
    exact ⟨_, _, rfl, rfl⟩
  | served other outcome settlement =>
    simp [AttemptCourse.entries] at h
    obtain ⟨rfl, ⟨_, rfl⟩, rfl⟩ := h
    exact ⟨_, _, rfl, rfl⟩

/-- After an answer of an upstream there is its settlement, and the run has an answer. -/
theorem relay_answered (ends : (relay policy request).Ends transcript result) {outcome : DispatchOutcome}
    (placed : transcript = earlier ++ ⟨.dispatch chosen key sent, .ok outcome⟩ :: later) :
    ∃ plan reservation settlement attempts, plan? policy request transcript = some plan ∧
      later = [⟨.settle reservation (billedUsage plan.promptTokens outcome) request.stream,
        settlement⟩] ∧
      result = .ok (respond chosen (billedUsage plan.promptTokens outcome) attempts outcome) := by
  obtain ⟨plan, planned, past, channel, course, rest, first, last, hplaced, hentries, _, rfl⟩ :=
    relay_booked ends rfl placed
  obtain ⟨rfl, rfl, reservation, settlement, rfl, rfl⟩ := dispatched_course hentries
  obtain ⟨rfl, attempts, hresult⟩ := hplaced.answers _ _ rfl
  rw [plan?_stream planned]
  exact ⟨plan, reservation, settlement, attempts, planned, rfl, hresult⟩

/-- After a failure that is final there are the reversal and the follow-up, and the client is told of it. -/
theorem relay_failed (ends : (relay policy request).Ends transcript result) {failure : DispatchFailure}
    (placed : transcript = earlier ++ ⟨.dispatch chosen key sent, .error failure⟩ :: later)
    (final : failure.committed = true ∨ shouldRetry failure.error chosen.provider = false) :
    ∃ plan reservation reversal cooled, key = plan.key ∧
      later = ⟨.reverse reservation, reversal⟩ :: followUpEntries plan chosen failure.error cooled ∧
      result = .error (disclose failure.error request.requestId) := by
  obtain ⟨plan, planned, past, channel, course, rest, first, last, hplaced, hentries, _, rfl⟩ :=
    relay_booked ends rfl placed
  obtain ⟨rfl, rfl, reservation, reversal, rfl, rfl⟩ := dispatched_course hentries
  have hfinal : AttemptFailure.isFinal ⟨failure.error, failure.committed⟩ chosen = true := by
    rw [AttemptFailure.isFinal, Bool.or_eq_true, Bool.not_eq_true']
    exact final
  obtain ⟨cooled, rfl, hresult⟩ := hplaced.ends _ rfl hfinal
  rw [plan?_requestId planned] at hresult
  exact ⟨plan, reservation, reversal, cooled, rfl, rfl, hresult⟩

/-- Nothing comes after a refused reservation, and the client is told of it. -/
theorem relay_refused (ends : (relay policy request).Ends transcript result) {charge : Charge}
    {err : ServiceError} (placed : transcript = earlier ++ ⟨.reserve charge, .error err⟩ :: later) :
    later = [] ∧ result =
      .error (disclose (.ofGateway 403 err.message "insufficient_user_quota") request.requestId) := by
  obtain ⟨plan, planned, past, channel, course, rest, first, last, hplaced, hentries, _, rfl⟩ :=
    relay_booked ends rfl placed
  obtain ⟨rfl, rfl⟩ : course = .refused err ∧ last = [] := by
    cases course <;> rcases first with _ | ⟨first, _ | ⟨second, _ | ⟨third, tail⟩⟩⟩ <;>
      simp_all [AttemptCourse.entries]
  obtain ⟨cooled, rfl, hresult⟩ := hplaced.ends _ rfl rfl
  rw [plan?_requestId planned] at hresult
  exact ⟨rfl, hresult⟩

end RelayGateway
