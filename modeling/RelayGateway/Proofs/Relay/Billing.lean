import RelayGateway.Proofs.Relay.Endings

/-! # What is billed for an answer

* `estimateTokens_pos`: a text that is not empty is estimated as one token at least.
* `Billed`: what is billed for an outcome, from what the upstream reported and what was streamed.
* `answers_billed`: an attempt that is answered is settled for exactly that, and the client is told so.
-/

set_option autoImplicit false

namespace RelayGateway

theorem toNat_estimateTokens (text : String) :
    let ascii := text.toList.countP fun c => c.toNat < 128
    (estimateTokens text).toNat =
      min ((min ascii maxUInt32 + 3) / 4 + min (text.toList.length - ascii) maxUInt32) maxUInt32 := by
  intro ascii
  rw [estimateTokens, countCharacters, toNat_saturate, toNat_saturate, toNat_saturate]

theorem estimateTokens_pos {text : String} (h : text ≠ "") : 0 < estimateTokens text := by
  have characters : 0 < text.toList.length := by
    rw [List.length_pos_iff]
    intro hnil
    exact h (String.toList_eq_nil_iff.mp hnil)
  rw [UInt32.lt_iff_toNat_lt, toNat_estimateTokens]
  generalize (text.toList.countP fun c => c.toNat < 128) = ascii
  unfold maxUInt32
  rw [UInt32.toNat_zero]
  omega

/-- What is billed for an outcome. The prompt has been counted as `promptTokens`. -/
structure Billed (promptTokens : UInt32) (outcome : DispatchOutcome) (usage : Usage) : Prop where
  reported : ∀ report, outcome.usage = some report →
    0 < report.completionTokens ∨ outcome.text = "" → usage = report
  unreported : outcome.usage = none → outcome.text = "" → usage = ⟨promptTokens, 0, promptTokens⟩
  /-- Something was streamed, and no completion tokens were reported for it. -/
  estimated : outcome.text ≠ "" →
    (∀ report, outcome.usage = some report → report.completionTokens = 0) →
      usage.promptTokens = (outcome.usage.map Usage.promptTokens).getD promptTokens ∧
        usage.completionTokens = estimateTokens outcome.text ∧ 0 < usage.completionTokens ∧
        usage.totalTokens.toNat =
          min (usage.promptTokens.toNat + usage.completionTokens.toNat) maxUInt32
  silent : usage.completionTokens = 0 → outcome.text = ""

theorem saturate_toNat (count : UInt32) : saturate count.toNat = count := by
  apply UInt32.toNat_inj.mp
  rw [toNat_saturate]
  have := count.toNat_lt
  unfold maxUInt32
  omega

/-- Without completion tokens the total is the prompt. -/
theorem Usage.ofCounts_zero (prompt : UInt32) : ofCounts prompt 0 = ⟨prompt, 0, prompt⟩ := by
  rw [ofCounts, UInt32.toNat_zero, Nat.add_zero, saturate_toNat]

theorem billedUsage_of_estimate {promptTokens : UInt32} {outcome : DispatchOutcome}
    (streamed : outcome.text ≠ "")
    (uncounted : ∀ report, outcome.usage = some report → report.completionTokens = 0) :
    billedUsage promptTokens outcome =
      .ofCounts ((outcome.usage.map Usage.promptTokens).getD promptTokens)
        (estimateTokens outcome.text) := by
  cases hreport : outcome.usage with
  | none => simp [billedUsage, hreport, streamed, Usage.ofCounts]
  | some report => simp [billedUsage, hreport, streamed, uncounted report hreport]

theorem billedUsage_of_report {promptTokens : UInt32} {outcome : DispatchOutcome} {report : Usage}
    (reported : outcome.usage = some report)
    (counted : 0 < report.completionTokens ∨ outcome.text = "") :
    billedUsage promptTokens outcome = report := by
  unfold billedUsage
  rw [reported]
  apply if_neg
  rintro ⟨hzero, hstreamed⟩
  rcases counted with h | h
  · exact UInt32.pos_iff_ne_zero.mp h hzero
  · exact hstreamed h

theorem billedUsage_of_nothing {promptTokens : UInt32} {outcome : DispatchOutcome}
    (unreported : outcome.usage = none) (silent : outcome.text = "") :
    billedUsage promptTokens outcome = ⟨promptTokens, 0, promptTokens⟩ := by
  rw [← Usage.ofCounts_zero]
  simp [billedUsage, unreported, silent]

theorem billed_billedUsage (promptTokens : UInt32) (outcome : DispatchOutcome) :
    Billed promptTokens outcome (billedUsage promptTokens outcome) := by
  constructor
  case reported => exact fun report hreport hcounted => billedUsage_of_report hreport hcounted
  case unreported => exact fun hreport hsilent => billedUsage_of_nothing hreport hsilent
  case estimated =>
    intro hstreamed huncounted
    rw [billedUsage_of_estimate hstreamed huncounted]
    exact ⟨rfl, rfl, estimateTokens_pos hstreamed, toNat_saturate _⟩
  case silent =>
    intro hzero
    by_contra hstreamed
    by_cases hcounted : ∃ report, outcome.usage = some report ∧ 0 < report.completionTokens
    · obtain ⟨report, hreport, hpositive⟩ := hcounted
      rw [billedUsage_of_report hreport (.inl hpositive)] at hzero
      exact UInt32.pos_iff_ne_zero.mp hpositive hzero
    · have huncounted : ∀ report, outcome.usage = some report → report.completionTokens = 0 := by
        intro report hreport
        by_contra hpositive
        exact hcounted ⟨report, hreport, UInt32.pos_iff_ne_zero.mpr hpositive⟩
      rw [billedUsage_of_estimate hstreamed huncounted] at hzero
      exact UInt32.pos_iff_ne_zero.mp (estimateTokens_pos hstreamed) hzero

theorem RelayPlan.promptTokens_eq {policy : RelayPolicy} {request : RelayRequest} {plan : RelayPlan}
    {transcript : RelayTranscript} (planned : plan? policy request transcript = some plan) :
    plan.promptTokens = estimateTokens request.prompt := by
  obtain ⟨_, sight, _, _, _, hplan⟩ := plan?_settled planned
  have hprompt : plan.request.prompt = request.prompt := by
    obtain ⟨ratio, hrouted⟩ := plan?_request planned
    rw [hrouted]
    rfl
  rw [← hprompt]
  unfold planRequest at hplan
  split at hplan
  · cases hplan
  · unfold countPrompt at hplan
    dsimp only at hplan
    split at hplan <;> rename_i hcount
    · cases hplan
    · split at hcount <;> cases hcount
      rw [← Except.ok.inj hplan]

/-- A balanced run with an answer has an attempt that was answered. -/
theorem Balanced.answered {plan : RelayPlan} {transcript : RelayTranscript} {response : RelayResponse}
    (h : Balanced plan transcript (.ok response)) :
    ∃ channel outcome, ⟨.dispatch channel plan.key plan.request, .ok outcome⟩ ∈ transcript := by
  obtain ⟨failures, closing, hbooks, _, _, hserved, _⟩ := h
  obtain ⟨⟨channel, course⟩, hclosing, hcourse⟩ := hserved.mp ⟨response, rfl⟩
  cases course with
  | refused err => cases hcourse
  | failed reservation failure reversal => cases hcourse
  | served reservation outcome settlement =>
    have booked : ⟨.dispatch channel plan.key plan.request, .ok outcome⟩ ∈ books transcript := by
      rw [hbooks, List.mem_flatMap]
      refine ⟨⟨channel, .served reservation outcome settlement⟩, ?_, ?_⟩
      · exact List.mem_append_right failures (Option.mem_toList.mpr hclosing)
      · simp [Block.entries, AttemptCourse.entries]
    exact ⟨channel, outcome, (List.mem_filter.mp booked).1⟩

/-- What is billed for the answers of a run, whatever it meets. An attempt that is answered is the last
one, and only its settlement follows. The usage that is settled is the one that the client is told, and
it is as it should be for what the upstream gave. A run with an answer has such an attempt. -/
theorem answers_billed (policy : RelayPolicy) (request : RelayRequest)
    (surroundings : Surroundings RelayReply) :
    let run := (relay policy request).meet surroundings []
    (∀ earlier channel key sent outcome later,
      run.1 = earlier ++ ⟨.dispatch channel key sent, .ok outcome⟩ :: later →
        ∃ reservation usage settlement response,
          later = [⟨.settle reservation usage request.stream, settlement⟩] ∧
          run.2 = .ok response ∧ response.channel = channel.id ∧ response.usage = usage ∧
          Billed (estimateTokens request.prompt) outcome usage) ∧
      ∀ response, run.2 = .ok response → ∃ channel key sent outcome,
        ⟨.dispatch channel key sent, .ok outcome⟩ ∈ run.1 := by
  intro run
  have ends : (relay policy request).Ends run.1 run.2 := Program.ends_meet surroundings [] _
  constructor
  · intro earlier channel key sent outcome later placed
    obtain ⟨plan, reservation, settlement, attempts, planned, rfl, hresult⟩ :=
      relay_answered ends placed
    have billed : Billed (estimateTokens request.prompt) outcome
        (billedUsage plan.promptTokens outcome) := by
      rw [RelayPlan.promptTokens_eq planned]
      exact billed_billedUsage _ _
    exact ⟨reservation, _, settlement, _, rfl, hresult, rfl, rfl, billed⟩
  · intro response hresponse
    rcases relay_cases ends with ⟨_, err, herr⟩ | ⟨plan, _, balanced⟩
    · cases herr.symm.trans hresponse
    · rw [hresponse] at balanced
      obtain ⟨channel, outcome, hdispatched⟩ := balanced.answered
      exact ⟨channel, plan.key, plan.request, outcome, hdispatched⟩

/-- The upstream streams eight letters and reports nothing. -/
def streamedOnly : DispatchOutcome := ⟨none, "abcdefgh", .null⟩

def streaming : Surroundings RelayReply := fun past call =>
  match call with
  | .dispatch .. => .ok streamedOnly
  | call => firstDown past call

def shortRequest : RelayRequest := { sampleRequest with prompt := "abcd" }

theorem streamedOnly_billed :
    let run := (relay samplePolicy shortRequest).meet streaming []
    ∃ earlier channel key sent reservation settlement response,
      run.1 = earlier ++ [⟨.dispatch channel key sent, .ok streamedOnly⟩,
        ⟨.settle reservation ⟨1, 2, 3⟩ false, settlement⟩] ∧
        run.2 = .ok response ∧ response.usage = ⟨1, 2, 3⟩ := by
  intro run
  obtain ⟨settled, dispatched⟩ := answers_billed samplePolicy shortRequest streaming
  obtain ⟨response, hresponse⟩ : ∃ response, run.2 = .ok response := by
    have answered : run.2.toBool = true := by decide +kernel
    cases hresult : run.2 with
    | ok response => exact ⟨response, rfl⟩
    | error err =>
      rw [hresult] at answered
      cases answered
  obtain ⟨channel, key, sent, outcome, hmem⟩ := dispatched response hresponse
  obtain ⟨earlier, later, placed⟩ := List.append_of_mem hmem
  obtain rfl : outcome = streamedOnly := Except.ok.inj (Program.meet_reply streaming placed)
  obtain ⟨reservation, usage, settlement, response, rfl, hresult, _, husage, billed⟩ :=
    settled _ _ _ _ _ _ placed
  obtain ⟨hprompt, hcompletion, _, htotal⟩ := billed.estimated (by decide) (by simp [streamedOnly])
  have hprompt : usage.promptTokens = 1 := hprompt.trans (by decide)
  have hcompletion : usage.completionTokens = 2 := hcompletion.trans (by decide)
  have htotal : usage.totalTokens = 3 := by
    rw [hprompt, hcompletion] at htotal
    exact UInt32.toNat_inj.mp htotal
  obtain rfl : usage = ⟨1, 2, 3⟩ := by
    rw [← hprompt, ← hcompletion, ← htotal]
  exact ⟨earlier, channel, key, sent, reservation, settlement, response, placed, hresult, husage⟩

end RelayGateway
