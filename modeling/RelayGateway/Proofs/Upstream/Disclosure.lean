import RelayGateway.Proofs.Text.Occurrence
import RelayGateway.Upstream.Disclosure

/-! # What a disclosed error is made of

* `UpstreamError.wording`, `UpstreamError.bareWording`: what an error says, with and without the request ids
  in it.
* `isConcealed`: whether this gives way to a general message.
* `disclose_eq`: a disclosed error, field by field.
* `contains_withRequestId`: a phrase found in a message with a request id is found in the message or in the
  id.
-/

set_option autoImplicit false

namespace RelayGateway

variable {err : UpstreamError} {requestId : String}

namespace UpstreamError

/-- What an error says; all rate limits say the same. -/
def wording (err : UpstreamError) : String :=
  if err.status = 429 then groupSaturatedMessage else err.message

/-- What an error says apart from request ids. -/
def bareWording (err : UpstreamError) : String :=
  if Text.contains err.wording "(request id:" then stripRequestIds err.wording else err.wording

/-- The message that names the status code an upstream was not expected to answer with. -/
def badStatusMessage (err : UpstreamError) : String :=
  "Provider API error: bad response status code " ++ err.body.param.getD ""

end UpstreamError

def namesBadStatus (message : String) : Bool :=
  Text.contains message "bad response status code"

/-- Whether the message of an error is hidden from the client that is told `requestId`. -/
def isConcealed (err : UpstreamError) (requestId : String) : Bool :=
  isInternalKind err && speaksOfBilling (withRequestId err.bareWording requestId)

/-- What a client is told unless it has to be told a status code. -/
def toldMessage (err : UpstreamError) (requestId : String) : String :=
  if isConcealed err requestId then saturatedMessage else withRequestId err.bareWording requestId

theorem toldMessage_concealed (concealed : isConcealed err requestId = true) :
    toldMessage err requestId = saturatedMessage := if_pos concealed

theorem toldMessage_open (unconcealed : isConcealed err requestId = false) :
    toldMessage err requestId = withRequestId err.bareWording requestId := by
  rw [toldMessage, unconcealed]
  rfl

theorem nameBadStatus_eq (err : UpstreamError) :
    nameBadStatus err = err.withMessage
      (if err.body.code = some "bad_response_status_code" ∧ namesBadStatus err.message = false then
        err.badStatusMessage
      else err.message) := by
  unfold nameBadStatus
  simp only [Bool.and_eq_true, beq_iff_eq, Bool.not_eq_true']
  split
  · rename_i hnamed
    rw [if_pos (show _ ∧ namesBadStatus err.message = false from hnamed)]
    rfl
  · rename_i hnamed
    rw [if_neg (show ¬ (_ ∧ namesBadStatus err.message = false) from hnamed)]
    rfl

theorem concealInternal_eq (err : UpstreamError) :
    concealInternal err =
      { status := if isInternalKind err && speaksOfBilling err.message then 429 else err.status
        body :=
          { message :=
              if isInternalKind err && speaksOfBilling err.message then saturatedMessage else err.message
            kind := if isInternalKind err then "system_error" else err.body.kind
            param := err.body.param
            code := err.body.code }
        isLocal := err.isLocal } := by
  unfold concealInternal
  cases isInternalKind err with
  | false => rfl
  | true =>
    cases speaksOfBilling err.message with
    | false => rfl
    | true => rfl

/-- A disclosed error, field by field. -/
theorem disclose_eq (err : UpstreamError) (requestId : String) :
    disclose err requestId =
      { status := if isConcealed err requestId then 429 else err.status
        body :=
          { message :=
              if err.body.code = some "bad_response_status_code" ∧
                  namesBadStatus (toldMessage err requestId) = false then err.badStatusMessage
              else toldMessage err requestId
            kind := if isInternalKind err then "system_error" else err.body.kind
            param := err.body.param
            code := err.body.code }
        isLocal := err.isLocal } := by
  have hdisclose : disclose err requestId =
      nameBadStatus (concealInternal (err.withMessage (withRequestId err.bareWording requestId))) := rfl
  rw [hdisclose, nameBadStatus_eq, concealInternal_eq]
  rfl

theorem isInternalKind_eq_true :
    isInternalKind err = true ↔ err.isLocal = false ∧ err.body.kind = "one_hub_error" ∨
      ∃ stem, err.body.kind = stem ++ "_api_error" := by
  rw [isInternalKind, Bool.or_eq_true, Bool.and_eq_true, Bool.not_eq_true', beq_iff_eq, Text.endsWith_iff]

/-- An error that is neither a rate limit nor an internal one, nor about an unexpected status code, keeps all
but its message. -/
theorem disclose_plain (unlimited : err.status ≠ 429)
    (external : isInternalKind err = false)
    (uncoded : err.body.code ≠ some "bad_response_status_code") (requestId : String) :
    disclose err requestId = err.withMessage (relabel err.message requestId) := by
  have hconcealed : isConcealed err requestId = false := by rw [isConcealed, external, Bool.false_and]
  have htold : toldMessage err requestId = relabel err.message requestId := by
    rw [toldMessage, hconcealed, UpstreamError.bareWording, UpstreamError.wording, if_neg unlimited]
    rfl
  have hkept : ¬ (err.body.code = some "bad_response_status_code" ∧
      namesBadStatus (relabel err.message requestId) = false) := fun h => uncoded h.1
  rw [disclose_eq, hconcealed, external, htold, if_neg hkept]
  rfl

/-! ## Phrases beside a request id -/

theorem toList_withRequestId (message requestId : String) :
    (withRequestId message requestId).toList =
      message.toList ++ [' '] ++ (requestIdMark ++ requestId.toList ++ [')']) := by
  have hmark : " (request id: ".toList = [' '] ++ requestIdMark := by decide
  have hend : ")".toList = [')'] := by decide
  simp only [withRequestId, toString, String.toList_append, List.append_assoc, hmark, hend]

/-- Whether a phrase can neither reach into a request id that follows a message nor be a part of what
stands around the id. -/
def standsApart (phrase : String) : Bool :=
  phrase.toList.all (fun c => c != '(' && c != ':' && c != ')') &&
    phrase.toList.head? != some ' ' && phrase.toList.getLast? != some ' ' &&
    !Text.contains "request id" phrase

theorem contains_withRequestId {phrase : String} (apart : standsApart phrase = true)
    (message requestId : String) :
    Text.contains (withRequestId message requestId) phrase =
      (Text.contains message phrase || Text.contains requestId phrase) := by
  simp only [standsApart, Bool.and_eq_true, bne_iff_ne, ne_eq, List.all_eq_true, Bool.not_eq_true',
    Text.contains_eq_false] at apart
  obtain ⟨⟨⟨hchars, hhead⟩, hlast⟩, hmark⟩ := apart
  have hopen : '(' ∉ phrase.toList := fun h => (hchars _ h).1.1 rfl
  have hcolon : ':' ∉ phrase.toList := fun h => (hchars _ h).1.2 rfl
  have hclose : ')' ∉ phrase.toList := fun h => (hchars _ h).2 rfl
  have hnonempty : ¬ phrase.toList <:+: [] := fun h => hmark (h.trans List.nil_infix)
  have hparts : (withRequestId message requestId).toList =
      (message.toList ++ [' ']) ++ '(' :: ("request id".toList ++
        ':' :: ((' ' :: requestId.toList) ++ ')' :: [])) := by
    have hmark : requestIdMark = '(' :: "request id".toList ++ [':', ' '] := by decide
    rw [toList_withRequestId, hmark]
    simp only [List.append_assoc, List.cons_append, List.nil_append]
  rw [Bool.eq_iff_iff, Bool.or_eq_true, Text.contains_iff, Text.contains_iff, Text.contains_iff, hparts,
    Text.infix_append_cons hopen, Text.infix_append_cons hcolon, Text.infix_append_cons hclose,
    Text.infix_concat hlast, Text.infix_cons hhead, or_iff_right hmark, or_iff_left hnonempty]

theorem billingKeywords_standApart : ∀ keyword ∈ billingKeywords, standsApart keyword = true := by
  decide

theorem speaksOfBilling_withRequestId (message requestId : String) :
    speaksOfBilling (withRequestId message requestId) =
      (speaksOfBilling message || speaksOfBilling requestId) := by
  rw [Bool.eq_iff_iff, Bool.or_eq_true]
  simp only [speaksOfBilling, List.any_eq_true]
  rw [← exists_or]
  refine exists_congr fun keyword => ?_
  rw [← and_or_left]
  refine and_congr_right fun hkeyword => ?_
  rw [contains_withRequestId (billingKeywords_standApart keyword hkeyword), Bool.or_eq_true]

theorem namesBadStatus_withRequestId (message requestId : String) :
    namesBadStatus (withRequestId message requestId) =
      (namesBadStatus message || namesBadStatus requestId) :=
  contains_withRequestId (by decide) message requestId

theorem isConcealed_eq (err : UpstreamError) (requestId : String) :
    isConcealed err requestId =
      (isInternalKind err && (speaksOfBilling err.bareWording || speaksOfBilling requestId)) := by
  rw [isConcealed, speaksOfBilling_withRequestId]

theorem namesBadStatus_toldMessage (err : UpstreamError) (requestId : String) :
    namesBadStatus (toldMessage err requestId) =
      (!isConcealed err requestId && (namesBadStatus err.bareWording || namesBadStatus requestId)) := by
  have hsaturated : namesBadStatus saturatedMessage = false := by decide
  unfold toldMessage
  cases isConcealed err requestId with
  | false => exact namesBadStatus_withRequestId _ _
  | true => exact hsaturated

end RelayGateway
