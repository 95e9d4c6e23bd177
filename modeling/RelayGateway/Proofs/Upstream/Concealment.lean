import RelayGateway.Proofs.Upstream.Disclosure

/-! # What decides on a verdict

* `billing_concealed`: the messages of internal errors do not speak of accounts, unless the parameter of an
  error does and takes the place of its message.
* `paramBilling_shown`: such a parameter.
* `verdict_independent`: for two request ids a client is told the same, unless one id, and not the other,
  reads like a message about accounts or about a status code.
* `billingId_decides`: such an id.
-/

set_option autoImplicit false

namespace RelayGateway

variable {err : UpstreamError} {requestId one other message text : String}

theorem disclose_message (err : UpstreamError) (requestId : String) :
    (disclose err requestId).message =
      if err.body.code = some "bad_response_status_code" ∧
          namesBadStatus (toldMessage err requestId) = false then err.badStatusMessage
      else toldMessage err requestId :=
  congrArg UpstreamError.message (disclose_eq err requestId)

/-! ## Billing -/

theorem speaksOfBilling_eq_false : speaksOfBilling message = false ↔
    ∀ keyword ∈ billingKeywords, ¬ keyword.toList <:+: message.toList := by
  simp only [speaksOfBilling, List.any_eq_false, Text.contains_iff]

theorem speaksOfBilling_toldMessage (internal : isInternalKind err = true) (requestId : String) :
    speaksOfBilling (toldMessage err requestId) = false := by
  have hsaturated : speaksOfBilling saturatedMessage = false := by decide
  unfold toldMessage isConcealed
  rw [internal, Bool.true_and]
  cases hspeaks : speaksOfBilling (withRequestId err.bareWording requestId) with
  | false => exact hspeaks
  | true => exact hsaturated

theorem infix_blank {phrase : List Char} (absent : ' ' ∉ phrase) (text param : String) :
    phrase <:+: (text ++ " " ++ param).toList ↔ phrase <:+: text.toList ∨ phrase <:+: param.toList := by
  have hparts : (text ++ " " ++ param).toList = text.toList ++ ' ' :: param.toList := by
    rw [String.toList_append, String.toList_append, List.append_assoc]
    rfl
  rw [hparts, Text.infix_append_cons absent]

theorem badStatusMessage_eq (err : UpstreamError) :
    err.badStatusMessage =
      "Provider API error: bad response status code" ++ " " ++ err.body.param.getD "" := by
  have hbegins : "Provider API error: bad response status code " =
      "Provider API error: bad response status code" ++ " " := by decide
  exact congrArg (· ++ err.body.param.getD "") hbegins

/-- A billing keyword gets into the message about a status code with the parameter only. -/
theorem keyword_badStatusMessage {keyword : String} (billing : keyword ∈ billingKeywords) :
    keyword.toList <:+: err.badStatusMessage.toList ↔
      ∃ param, err.body.param = some param ∧ keyword.toList <:+: param.toList := by
  have hblank : ∀ keyword ∈ billingKeywords, ' ' ∉ keyword.toList := by decide
  have hfixed : speaksOfBilling "Provider API error: bad response status code" = false := by decide
  have hnonempty : ∀ keyword ∈ billingKeywords, ¬ keyword.toList <:+: [] := by decide
  rw [badStatusMessage_eq, infix_blank (hblank keyword billing),
    or_iff_right (speaksOfBilling_eq_false.mp hfixed keyword billing)]
  cases err.body.param with
  | none => exact iff_of_false (hnonempty keyword billing) nofun
  | some param =>
    constructor
    · intro hfound
      exact ⟨param, rfl, hfound⟩
    · rintro ⟨_, ⟨⟩, hfound⟩
      exact hfound

/-- What a client is told of an internal error does not speak of accounts. Only the parameter of an error
about an unexpected status code can do so: it takes the place of a message that does not name the code. -/
theorem billing_concealed (err : UpstreamError) (requestId : String)
    (internal : err.isLocal = false ∧ err.body.kind = "one_hub_error" ∨
      ∃ stem, err.body.kind = stem ++ "_api_error") :
    ∀ keyword ∈ ["余额", "额度", "quota", "无可用渠道", "令牌"],
      (keyword.toList <:+: (disclose err requestId).message.toList ↔
        err.body.code = some "bad_response_status_code" ∧
          namesBadStatus (toldMessage err requestId) = false ∧
            ∃ param, err.body.param = some param ∧ keyword.toList <:+: param.toList) := by
  intro keyword hkeyword
  have hsilent := speaksOfBilling_eq_false.mp
    (speaksOfBilling_toldMessage (isInternalKind_eq_true.mpr internal) requestId)
  rw [disclose_message]
  split
  · rename_i hnamed
    rw [keyword_badStatusMessage hkeyword, and_iff_right hnamed.1, and_iff_right hnamed.2]
  · rename_i hkept
    exact iff_of_false (hsilent keyword hkeyword) fun h => hkept ⟨h.1, h.2.1⟩

/-- An error about an account, whose parameter is a harmless one. -/
theorem spokenBilling_concealed :
    let err : UpstreamError :=
      ⟨403, ⟨"账户余额不足", "openai_api_error", some "403", some "bad_response_status_code"⟩, false⟩
    (err.isLocal = false ∧ err.body.kind = "one_hub_error" ∨
      ∃ stem, err.body.kind = stem ++ "_api_error") ∧
      ∀ keyword ∈ ["余额", "额度", "quota", "无可用渠道", "令牌"],
        ¬ keyword.toList <:+: (disclose err "req-1").message.toList := by
  intro err
  have internal : err.isLocal = false ∧ err.body.kind = "one_hub_error" ∨
      ∃ stem, err.body.kind = stem ++ "_api_error" := .inr ⟨"openai", by decide⟩
  have harmless : speaksOfBilling "403" = false := by decide
  refine ⟨internal, fun keyword hkeyword hfound => ?_⟩
  obtain ⟨_, _, param, hparam, hshown⟩ := (billing_concealed err "req-1" internal keyword hkeyword).mp hfound
  obtain rfl : "403" = param := Option.some.inj hparam
  exact speaksOfBilling_eq_false.mp harmless keyword hkeyword hshown

/-- The parameter of an error speaks of accounts, and the client is told. -/
theorem paramBilling_shown :
    ¬ ∀ (err : UpstreamError) (requestId : String),
      (err.isLocal = false ∧ err.body.kind = "one_hub_error" ∨
        ∃ stem, err.body.kind = stem ++ "_api_error") →
      ∀ keyword ∈ ["余额", "额度", "quota", "无可用渠道", "令牌"],
        ¬ keyword.toList <:+: (disclose err requestId).message.toList := by
  intro concealed
  have hsilent := concealed
    ⟨403, ⟨"boom", "openai_api_error", some "quota", some "bad_response_status_code"⟩, false⟩ "req-1"
    (.inr ⟨"openai", by decide⟩) "quota" (by decide)
  have hmessage : (disclose
      ⟨403, ⟨"boom", "openai_api_error", some "quota", some "bad_response_status_code"⟩, false⟩
      "req-1").message = "Provider API error: bad response status code quota" := by decide
  rw [hmessage] at hsilent
  exact absurd (Text.contains_iff.mp (by decide)) hsilent

/-! ## Request ids -/

/-- One of two ids, and not the other, makes an internal error seem to speak of accounts. -/
def SwaysBilling (err : UpstreamError) (one other : String) : Prop :=
  isInternalKind err = true ∧ speaksOfBilling err.bareWording = false ∧
    speaksOfBilling one ≠ speaksOfBilling other

/-- One of two ids, and not the other, makes an error seem to name the status code that it is about. -/
def SwaysNaming (err : UpstreamError) (one other : String) : Prop :=
  err.body.code = some "bad_response_status_code" ∧ namesBadStatus err.bareWording = false ∧
    namesBadStatus one ≠ namesBadStatus other

/-- Two messages are the same, apart from the ids at their ends. -/
def SameUpToId (one other first second : String) : Prop :=
  first = second ∨ ∃ text, first = withRequestId text one ∧ second = withRequestId text other

theorem isConcealed_eq_iff : isConcealed err one = isConcealed err other ↔ ¬ SwaysBilling err one other := by
  rw [isConcealed_eq, isConcealed_eq, SwaysBilling]
  cases isInternalKind err <;> cases speaksOfBilling err.bareWording <;>
    simp only [Bool.true_and, Bool.false_and, Bool.true_or, Bool.false_or, true_and, false_and,
      not_false_eq_true, Bool.false_eq_true, ne_eq, Decidable.not_not, Bool.true_eq_false]

/-- Ids that sway nothing make no difference. -/
theorem disclose_sameUpToId (fair : ¬ SwaysBilling err one other) (plain : ¬ SwaysNaming err one other) :
    SameUpToId one other (disclose err one).message (disclose err other).message := by
  have hconcealed : isConcealed err one = isConcealed err other := isConcealed_eq_iff.mpr fair
  have hnamed : err.body.code = some "bad_response_status_code" →
      namesBadStatus (toldMessage err one) = namesBadStatus (toldMessage err other) := by
    intro hcode
    rw [namesBadStatus_toldMessage, namesBadStatus_toldMessage, hconcealed]
    cases hbare : namesBadStatus err.bareWording with
    | true => rfl
    | false =>
      have hids : namesBadStatus one = namesBadStatus other := by
        by_contra hdiffer
        exact plain ⟨hcode, hbare, hdiffer⟩
      rw [hids]
  rw [disclose_message, disclose_message]
  by_cases hbad : err.body.code = some "bad_response_status_code" ∧
      namesBadStatus (toldMessage err other) = false
  · rw [if_pos hbad, if_pos ⟨hbad.1, (hnamed hbad.1).trans hbad.2⟩]
    exact .inl rfl
  · rw [if_neg hbad, if_neg fun h => hbad ⟨h.1, (hnamed h.1).symm.trans h.2⟩]
    cases hother : isConcealed err other with
    | true =>
      rw [toldMessage_concealed hother, toldMessage_concealed (hconcealed.trans hother)]
      exact .inl rfl
    | false =>
      rw [toldMessage_open hother, toldMessage_open (hconcealed.trans hother)]
      exact .inr ⟨_, rfl, rfl⟩

/-! ## Messages that differ -/

theorem SameUpToId.symm {first second : String} (same : SameUpToId one other first second) :
    SameUpToId other one second first := by
  rcases same with rfl | ⟨text, hfirst, hsecond⟩
  · exact .inl rfl
  · exact .inr ⟨text, hsecond, hfirst⟩

/-- No bracket opens in the general message. -/
theorem saturatedMessage_ne : saturatedMessage ≠ withRequestId text requestId := by
  intro heq
  have hbracket : '(' ∈ saturatedMessage.toList := by
    rw [heq, toList_withRequestId]
    exact List.mem_append_right _ (List.mem_append_left _ List.mem_cons_self)
  exact absurd hbracket (by decide)

theorem not_sameUpToId_saturated :
    ¬ SameUpToId one other saturatedMessage (withRequestId text other) := by
  rintro (heq | ⟨_, heq, _⟩)
  · exact saturatedMessage_ne heq
  · exact saturatedMessage_ne heq

/-- A message that does not name a status code is not the one that names it, whatever id follows. -/
theorem badStatusMessage_ne (unnamed : namesBadStatus text = false) :
    err.badStatusMessage ≠ withRequestId text requestId := by
  intro heq
  have hopen : '(' ∉ "Provider API error: bad response status code".toList := by decide
  have hnames : namesBadStatus "Provider API error: bad response status code" = true := by decide
  rw [badStatusMessage_eq] at heq
  generalize "Provider API error: bad response status code" = fixed at *
  have hlonger : ∀ rest, text.toList ≠ fixed.toList ++ rest := by
    intro rest htext
    have hfound := (Text.contains_iff.mp hnames).trans (List.prefix_append fixed.toList rest).isInfix
    rw [← htext] at hfound
    exact Text.contains_eq_false.mp unnamed hfound
  have hlists : fixed.toList ++ ' ' :: (err.body.param.getD "").toList =
      text.toList ++ ' ' :: '(' :: (requestIdMark.tail ++ requestId.toList ++ [')']) := by
    have hchars := congrArg String.toList heq
    rw [toList_withRequestId, String.toList_append, String.toList_append, List.append_assoc,
      List.append_assoc] at hchars
    exact hchars
  -- the blank before the id would have to lie within the fixed words, which open no bracket after it
  rcases List.append_eq_append_iff.mp hlists with ⟨rest, htext, _⟩ | ⟨rest, hfixed, hrest⟩
  · exact hlonger rest htext
  · match rest, hrest with
    | [], _ => exact hlonger [] (by rw [hfixed, List.append_nil, List.append_nil])
    | [_], h => exact absurd (List.cons.inj (List.cons.inj h).2).1 (by decide)
    | _ :: c :: rest, h =>
      obtain rfl : '(' = c := (List.cons.inj (List.cons.inj h).2).1
      exact hopen (hfixed ▸ List.mem_append_right _ (List.mem_cons_of_mem _ List.mem_cons_self))

theorem withRequestId_inj {words : String} (same : withRequestId text one = withRequestId words one) :
    text = words := by
  have hchars := congrArg String.toList same
  rw [toList_withRequestId, toList_withRequestId] at hchars
  exact String.toList_inj.mp (List.append_cancel_right (List.append_cancel_right hchars))

theorem not_sameUpToId_badStatus (unnamed : namesBadStatus text = false) :
    ¬ SameUpToId one other (withRequestId text one) err.badStatusMessage := by
  rintro (heq | ⟨words, hone, hother⟩)
  · exact badStatusMessage_ne unnamed heq.symm
  · exact badStatusMessage_ne (withRequestId_inj hone ▸ unnamed) hother

/-- An id that sways makes a difference, unless an internal error is about a status code: then the same
parameter may be told either way. -/
theorem not_sameUpToId
    (apart : ¬ (isInternalKind err = true ∧ err.body.code = some "bad_response_status_code"))
    (sways : SwaysBilling err one other ∨ SwaysNaming err one other) :
    ¬ SameUpToId one other (disclose err one).message (disclose err other).message := by
  rcases sways with hsways | hsways
  · have hcode : err.body.code ≠ some "bad_response_status_code" := fun h => apart ⟨hsways.1, h⟩
    have hdiffer : isConcealed err one ≠ isConcealed err other :=
      mt isConcealed_eq_iff.mp (not_not_intro hsways)
    rw [disclose_message, disclose_message, if_neg fun h => hcode h.1, if_neg fun h => hcode h.1]
    cases hone : isConcealed err one <;> cases hother : isConcealed err other
    · exact absurd (hone.trans hother.symm) hdiffer
    · rw [toldMessage_open hone, toldMessage_concealed hother]
      exact fun h => not_sameUpToId_saturated h.symm
    · rw [toldMessage_concealed hone, toldMessage_open hother]
      exact not_sameUpToId_saturated
    · exact absurd (hone.trans hother.symm) hdiffer
  · obtain ⟨hcode, hbare, hdiffer⟩ := hsways
    have hexternal : isInternalKind err = false := Bool.not_eq_true _ |>.mp fun h => apart ⟨h, hcode⟩
    have htold : ∀ requestId, toldMessage err requestId = withRequestId err.bareWording requestId := by
      intro requestId
      exact toldMessage_open (by rw [isConcealed, hexternal, Bool.false_and])
    have hnames : ∀ requestId, namesBadStatus (withRequestId err.bareWording requestId) =
        namesBadStatus requestId := by
      intro requestId
      rw [namesBadStatus_withRequestId, hbare, Bool.false_or]
    rw [disclose_message, disclose_message, htold, htold, hnames, hnames]
    simp only [hcode, true_and]
    cases hone : namesBadStatus one <;> cases hother : namesBadStatus other
    · exact absurd (hone.trans hother.symm) hdiffer
    · exact fun h => not_sameUpToId_badStatus hbare h.symm
    · exact not_sameUpToId_badStatus hbare
    · exact absurd (hone.trans hother.symm) hdiffer

theorem disclose_status_eq_iff :
    (disclose err one).status = (disclose err other).status ↔
      err.status = 429 ∨ ¬ SwaysBilling err one other := by
  rw [disclose_eq, disclose_eq, ← isConcealed_eq_iff]
  dsimp only
  cases isConcealed err one <;> cases isConcealed err other
  · exact iff_of_true rfl (.inr rfl)
  · rw [if_neg Bool.false_ne_true, if_pos rfl, or_iff_left Bool.false_ne_true]
  · rw [if_pos rfl, if_neg Bool.false_ne_true, or_iff_left Bool.false_ne_true.symm]
    exact eq_comm
  · exact iff_of_true rfl (.inr rfl)

/-- For two request ids a client gets errors of one kind, with the same parameter and the same code. The
status is the same too, unless one id, and not the other, makes an internal error seem to speak of accounts,
and the message is the same apart from the id, unless an id does that or makes an error seem to name a status
code. -/
theorem verdict_independent (err : UpstreamError) (one other : String) :
    let first := disclose err one
    let second := disclose err other
    (first.body.kind = second.body.kind ∧ first.body.param = second.body.param ∧
      first.body.code = second.body.code ∧ first.isLocal = second.isLocal) ∧
    (first.status = second.status ↔ err.status = 429 ∨ ¬ SwaysBilling err one other) ∧
    (¬ (SwaysBilling err one other ∨ SwaysNaming err one other) →
      SameUpToId one other first.message second.message) ∧
    (SameUpToId one other first.message second.message →
      isInternalKind err = true ∧ err.body.code = some "bad_response_status_code" ∨
        ¬ (SwaysBilling err one other ∨ SwaysNaming err one other)) := by
  refine ⟨?_, disclose_status_eq_iff, fun fair => ?_, fun same => ?_⟩
  · rw [disclose_eq, disclose_eq]
    exact ⟨rfl, rfl, rfl, rfl⟩
  · obtain ⟨hbilling, hnaming⟩ := not_or.mp fair
    exact disclose_sameUpToId hbilling hnaming
  · by_contra hboth
    obtain ⟨hapart, hsways⟩ := not_or.mp hboth
    exact not_sameUpToId hapart (not_not.mp hsways) same

/-- With one id a client is told that the service fails, and with another that there is too much load. -/
theorem billingId_decides :
    ¬ ∀ (err : UpstreamError) (one other : String),
      let first := disclose err one
      let second := disclose err other
      (first.body.kind = second.body.kind ∧ first.body.param = second.body.param ∧
        first.body.code = second.body.code ∧ first.isLocal = second.isLocal) ∧
      first.status = second.status ∧ SameUpToId one other first.message second.message := by
  intro independent
  obtain ⟨_, hstatus, _⟩ := independent (.upstream 500 "boom" "openai_api_error") "req-1" "quota-1"
  exact absurd hstatus (by decide)

end RelayGateway
