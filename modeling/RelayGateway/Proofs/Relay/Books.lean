import RelayGateway.Proofs.Relay.Attempts

/-! # The books of a run

The books are the entries of a run about reservations and dispatches.

* `Block`: one attempt on a channel; its entries are a reservation with what became of it.
* `Balanced`: failed blocks, each of which reverses its reservation, and after them at most one block
  that is served or refused.
* `relay_cases`: the run of a request is quiet, or it follows a plan and is balanced.
-/

set_option autoImplicit false

namespace RelayGateway

/-- The entries about reservations and dispatches. -/
def books (transcript : RelayTranscript) : RelayTranscript := transcript.filter isBooked

/-- One attempt on a channel. -/
structure Block where
  channel : Channel
  course : AttemptCourse

def Block.entries (plan : RelayPlan) (block : Block) : RelayTranscript :=
  block.course.entries plan block.channel

/-- The books are failed blocks and then at most one block that did not fail. It is served exactly if
the client gets an answer, and the run ends with it if it is refused. -/
def Balanced (plan : RelayPlan) (transcript : RelayTranscript) (result : RelayResult) : Prop :=
  ∃ (failures : List Block) (closing : Option Block),
    books transcript = (failures ++ closing.toList).flatMap (Block.entries plan) ∧
      (∀ block ∈ failures, block.course.isFailed = true) ∧
      (∀ block ∈ closing, block.course.isFailed = false) ∧
      ((∃ response, result = .ok response) ↔ ∃ block ∈ closing, block.course.isServed = true) ∧
      ∀ block ∈ closing, ∀ err, block.course = .refused err → block.entries plan <:+ transcript

variable {policy : RelayPolicy} {request : RelayRequest} {past transcript rest : RelayTranscript}
  {plan : RelayPlan} {budget : RetryBudget} {channel : Channel} {result : RelayResult}

theorem books_append (first rest : RelayTranscript) :
    books (first ++ rest) = books first ++ books rest :=
  List.filter_append first rest

theorem books_quiet (h : Quiet transcript) : books transcript = [] := by
  rw [books, List.filter_eq_nil_iff]
  intro entry hentry
  rw [h entry hentry]
  exact Bool.false_ne_true

theorem books_entries (plan : RelayPlan) (channel : Channel) (course : AttemptCourse) :
    books (course.entries plan channel) = course.entries plan channel := by
  cases course <;> rfl

/-! ## Balanced runs -/

theorem Balanced.quiet (hquiet : Quiet transcript) (herror : ∃ err, result = .error err) :
    Balanced plan transcript result := by
  obtain ⟨err, rfl⟩ := herror
  refine ⟨[], none, books_quiet hquiet, by simp, by simp, ?_, by simp⟩
  constructor
  · rintro ⟨response, hresponse⟩
    cases hresponse
  · rintro ⟨block, hblock, _⟩
    cases hblock

/-- A run is balanced if failed blocks come first, then an attempt, and then only quiet entries, none
of them after a refusal. -/
theorem Balanced.of_last {failures : List Block} {course : AttemptCourse}
    (hpast : books past = failures.flatMap (Block.entries plan))
    (hfailures : ∀ block ∈ failures, block.course.isFailed = true)
    (hquiet : Quiet rest)
    (hserved : (∃ response, result = .ok response) ↔ course.isServed = true)
    (hrefused : ∀ err, course = .refused err → rest = []) :
    Balanced plan (past ++ (course.entries plan channel ++ rest)) result := by
  have hbooks : books (past ++ (course.entries plan channel ++ rest)) =
      (failures ++ [Block.mk channel course]).flatMap (Block.entries plan) := by
    rw [books_append, books_append, books_entries, books_quiet hquiet, hpast, List.append_nil,
      List.flatMap_append, List.flatMap_singleton]
    rfl
  cases hcourse : course.isFailed with
  | true =>
    refine ⟨failures ++ [⟨channel, course⟩], none, ?_, ?_, by simp, ?_, by simp⟩
    · rw [hbooks, Option.toList_none, List.append_nil]
    · intro block hblock
      rcases List.mem_append.mp hblock with h | h
      · exact hfailures block h
      · rw [List.mem_singleton.mp h]
        exact hcourse
    · rw [hserved]
      cases course with
      | refused err => cases hcourse
      | failed reservation failure reversal => simp [AttemptCourse.isServed]
      | served reservation outcome settlement => cases hcourse
  | false =>
    refine ⟨failures, some ⟨channel, course⟩, hbooks, hfailures, ?_, ?_, ?_⟩
    · rintro block ⟨⟩
      exact hcourse
    · rw [hserved]
      simp
    · rintro block ⟨⟩ err herr
      rw [hrefused err herr, List.append_nil]
      exact List.suffix_append past _

/-! ## Unpinned requests -/

/-- Before an attempt the books consist of failed blocks. -/
theorem Attempting.books_failed (h : Attempting policy request past plan budget channel) :
    ∃ failures : List Block, books past = failures.flatMap (Block.entries plan) ∧
      ∀ block ∈ failures, block.course.isFailed = true := by
  induction h with
  | first settled planned selected => exact ⟨[], rfl, by simp⟩
  | @again past transcript plan budget next channel other fewer before turned ih =>
    obtain ⟨failures, hbooks, hfailures⟩ := ih
    obtain ⟨course, rest, rfl, hfailed, hquiet, _⟩ := turn_another turned
    refine ⟨failures ++ [⟨channel, course⟩], ?_, ?_⟩
    · rw [books_append, books_append, books_entries, books_quiet hquiet, hbooks, List.append_nil,
        List.flatMap_append, List.flatMap_singleton]
      rfl
    · intro block hblock
      rcases List.mem_append.mp hblock with h | h
      · exact hfailures block h
      · rw [List.mem_singleton.mp h]
        exact hfailed

theorem Attempting.balanced (h : Attempting policy request past plan budget channel)
    (turned : (turn policy plan budget channel).Ends transcript (.ended result)) :
    Balanced plan (past ++ transcript) result := by
  obtain ⟨failures, hbooks, hfailures⟩ := h.books_failed
  obtain ⟨course, rest, rfl, hquiet, _, hok, hserved, hrefused⟩ := turn_ended turned
  refine Balanced.of_last hbooks hfailures hquiet ⟨?_, hserved⟩ hrefused
  rintro ⟨response, hresponse⟩
  exact (hok response hresponse).1

/-! ## Pinned requests -/

/-- A pinned run ends before its only attempt, or with it and the follow-up of its failure. -/
theorem relayPinned_course {id : ChannelId} (h : (relayPinned plan id).Ends transcript result) :
    ∃ stored tail, transcript = ⟨.storedChannel id, stored⟩ :: tail ∧
      ((tail = [] ∧ ∃ err, result = .error err) ∨
        ∃ channel course rest, tail = AttemptCourse.entries plan channel course ++ rest ∧
          ((∃ usage outcome, course.result plan = .ok (usage, outcome) ∧ rest = [] ∧
              result = .ok (respond channel usage 1 outcome)) ∨
            ∃ failure cooled, course.result plan = .error failure ∧
              rest = followUpEntries plan channel failure.error cooled ∧
              result = .error (disclose failure.error plan.request.requestId))) := by
  unfold relayPinned at h
  rw [Program.ends_request_bind] at h
  obtain ⟨stored, tail, rfl, h⟩ := h
  refine ⟨stored, tail, rfl, ?_⟩
  match stored, h with
  | .error err, h =>
    obtain ⟨rfl, rfl⟩ := h
    exact .inl ⟨rfl, _, rfl⟩
  | .ok none, h =>
    obtain ⟨rfl, rfl⟩ := h
    exact .inl ⟨rfl, _, rfl⟩
  | .ok (some channel), h =>
    dsimp only at h
    split at h
    · rw [Program.ends_bind] at h
      obtain ⟨first, value, rest, rfl, hattempt, h⟩ := h
      obtain ⟨course, rfl, rfl⟩ := ends_attempt.mp hattempt
      refine .inr ⟨channel, course, rest, rfl, ?_⟩
      split at h
      · rename_i usage outcome hresult
        obtain ⟨rfl, rfl⟩ := h
        exact .inl ⟨usage, outcome, hresult, rfl, rfl⟩
      · rename_i failure hresult
        rw [Program.ends_bind] at h
        obtain ⟨wake, _, tail, rfl, hwake, rfl, rfl⟩ := h
        obtain ⟨cooled, rfl⟩ := ends_followUp hwake
        exact .inr ⟨failure, cooled, hresult, List.append_nil _, rfl⟩
    · obtain ⟨rfl, rfl⟩ := h
      exact .inl ⟨rfl, _, rfl⟩

theorem relayPinned_cases {id : ChannelId} (h : (relayPinned plan id).Ends transcript result) :
    ∃ stored tail, transcript = ⟨.storedChannel id, stored⟩ :: tail ∧
      ((tail = [] ∧ ∃ err, result = .error err) ∨
        ∃ channel course rest, tail = AttemptCourse.entries plan channel course ++ rest ∧
          Quiet rest ∧ ((∃ response, result = .ok response) ↔ course.isServed = true) ∧
          ∀ err, course = .refused err → rest = []) := by
  obtain ⟨stored, tail, rfl, hnone | ⟨channel, course, rest, rfl, hcase⟩⟩ := relayPinned_course h
  · exact ⟨stored, tail, rfl, .inl hnone⟩
  refine ⟨stored, _, rfl, .inr ⟨channel, course, rest, rfl, ?_⟩⟩
  rcases hcase with ⟨usage, outcome, hresult, rfl, rfl⟩ | ⟨failure, cooled, hresult, rfl, rfl⟩
  · cases course with
    | refused err => cases hresult
    | failed reservation failure reversal => cases hresult
    | served reservation outcome settlement => simp [Quiet, AttemptCourse.isServed]
  · refine ⟨quiet_followUpEntries plan channel failure.error cooled, ?_, ?_⟩
    · cases course with
      | refused err => simp [AttemptCourse.isServed]
      | failed reservation failure reversal => simp [AttemptCourse.isServed]
      | served reservation outcome settlement => cases hresult
    · rintro err rfl
      cases hresult
      exact followUpEntries_refused plan channel err.message cooled

/-! ## Every request -/

/-- A run either has only quiet entries or follows a plan, and then it is balanced. -/
theorem relay_cases (h : (relay policy request).Ends transcript result) :
    (Quiet transcript ∧ ∃ err, result = .error err) ∨
      ∃ plan, plan? policy request transcript = some plan ∧ Balanced plan transcript result := by
  cases pinned : request.pinned with
  | none =>
    obtain ⟨hquiet, _, herror⟩ | ⟨past, plan, budget, channel, last, rfl, hpast, hlast⟩ :=
      unpinned_run pinned h
    · exact .inl ⟨hquiet, herror⟩
    · have standing := hpast.standing
      refine .inr ⟨plan, ?_, hpast.balanced hlast⟩
      rw [plan?_append standing.looked, standing.planned]
  | some id =>
    obtain ⟨hquiet, _, herror⟩ | ⟨arrival, sight, routed, plan, rest, rfl, settled, planned, hrun⟩ :=
      relay_opening h
    · exact .inl ⟨hquiet, herror⟩
    rw [pinned] at hrun
    have hplan := plan?_looked settled planned rest
    obtain ⟨stored, tail, rfl, ⟨rfl, herror⟩ |
      ⟨channel, course, rest, rfl, hquiet, hserved, hrefused⟩⟩ := relayPinned_cases hrun
    · refine .inl ⟨?_, herror⟩
      intro entry hentry
      simp only [List.mem_cons, List.not_mem_nil, or_false] at hentry
      rcases hentry with rfl | rfl | rfl <;> rfl
    · have opening : books [⟨.look, arrival⟩, ⟨.look, sight⟩, ⟨.storedChannel id, stored⟩] =
          ([] : List Block).flatMap (Block.entries plan) := rfl
      exact .inr ⟨plan, hplan, Balanced.of_last opening (by simp) hquiet hserved hrefused⟩

/-- Every reservation of a balanced run is asked for with the charge of the plan. -/
theorem Balanced.charged (h : Balanced plan transcript result) {entry : Exchange RelayReply}
    (hentry : entry ∈ transcript) {charge : Charge} (hcall : entry.call = .reserve charge) :
    charge = plan.charge := by
  obtain ⟨failures, closing, hbooks, _⟩ := h
  have hmem : entry ∈ books transcript := by
    rw [books, List.mem_filter]
    exact ⟨hentry, by rw [isBooked, hcall]⟩
  rw [hbooks, List.mem_flatMap] at hmem
  obtain ⟨⟨channel, course⟩, _, hmem⟩ := hmem
  cases course <;>
    simp only [Block.entries, AttemptCourse.entries, List.mem_cons, List.not_mem_nil, or_false] at hmem
  case refused err =>
    subst hmem
    cases hcall
    rfl
  case failed reservation failure reversal =>
    rcases hmem with rfl | rfl | rfl <;> cases hcall
    rfl
  case served reservation outcome settlement =>
    rcases hmem with rfl | rfl | rfl <;> cases hcall
    rfl

end RelayGateway
