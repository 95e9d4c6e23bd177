import RelayGateway.Text.Blank
import RelayGateway.Text.Search
import RelayGateway.Upstream.Error

/-! # What a client is told of a failure

* `removeRequestIds`: a text without the request ids that upstreams put into it.
* `withRequestId`: a text followed by the request id of the gateway.
* `disclose`: the error that a client gets. Upstream ids give way to the gateway's own, and wording
  about the gateway's accounts with its upstreams gives way to a general one.
-/

set_option autoImplicit false

namespace RelayGateway

def groupSaturatedMessage : String := "当前分组上游负载已饱和，请稍后再试"

/-- The message in the place of one about accounts. -/
def saturatedMessage : String := "上游负载已饱和，请稍后再试"

def billingKeywords : List String := ["余额", "额度", "quota", "无可用渠道", "令牌"]

def requestIdMark : List Char := "(request id: ".toList

/-- What follows a request id at the beginning of a text: the mark, at least one character up to the
next closing bracket, and that bracket. -/
def afterRequestId? (cs : List Char) : Option (List Char) :=
  match Text.charsAfter? requestIdMark cs with
  | none => none
  | some rest =>
    match rest.dropWhile fun c => c != ')' with
    | [] => none
    | _ :: remainder => if rest.head? = some ')' then none else some remainder

theorem charsAfter?_length {start cs rest : List Char} (h : Text.charsAfter? start cs = some rest) :
    rest.length + start.length = cs.length := by
  induction start generalizing cs with
  | nil => simp_all [Text.charsAfter?]
  | cons s start ih =>
    cases cs with
    | nil => simp [Text.charsAfter?] at h
    | cons c cs =>
      simp only [Text.charsAfter?] at h
      split at h
      · have := ih h
        simp only [List.length_cons]
        omega
      · simp at h

theorem afterRequestId?_length {cs rest : List Char} (h : afterRequestId? cs = some rest) :
    rest.length < cs.length := by
  unfold afterRequestId? at h
  split at h
  · simp at h
  · rename_i tail htail
    have hlen := charsAfter?_length htail
    split at h
    · simp at h
    · rename_i c remainder hdrop
      have hsub : (c :: remainder).length ≤ tail.length := by
        rw [← hdrop]
        exact (List.dropWhile_sublist _).length_le
      split at h
      · simp at h
      · simp only [Option.some.injEq] at h
        subst h
        simp only [List.length_cons] at hsub
        omega

/-- A text without the request ids in it, read from the left. -/
def removeRequestIds (cs : List Char) : List Char :=
  match _h : afterRequestId? cs with
  | some rest => removeRequestIds rest
  | none =>
    match cs with
    | [] => []
    | c :: cs => c :: removeRequestIds cs
termination_by cs.length
decreasing_by
  · exact afterRequestId?_length _h
  · simp

/-- A text without the request ids in it and without the blanks that are then at its end. -/
def stripRequestIds (message : String) : String :=
  String.ofList (Text.trimEndChars (removeRequestIds message.toList))

def withRequestId (message requestId : String) : String :=
  s!"{message} (request id: {requestId})"

/-- The message with the request id of the gateway in the place of all others. -/
def relabel (message requestId : String) : String :=
  withRequestId
    (if Text.contains message "(request id:" then stripRequestIds message else message) requestId

/-- Whether an error comes from behind the gateway, so that its wording is not the client's business. -/
def isInternalKind (err : UpstreamError) : Bool :=
  (!err.isLocal && err.body.kind == "one_hub_error") || Text.endsWith err.body.kind "_api_error"

def speaksOfBilling (message : String) : Bool :=
  billingKeywords.any fun keyword => Text.contains message keyword

/-- Names an internal error a system error, and hides its message if it speaks of accounts. -/
def concealInternal (err : UpstreamError) : UpstreamError :=
  if isInternalKind err then
    let system := { err with body := { err.body with kind := "system_error" } }
    if speaksOfBilling err.message then { system.withMessage saturatedMessage with status := 429 }
    else system
  else err

/-- Rewords an error about an unexpected status code so that it names the code. -/
def nameBadStatus (err : UpstreamError) : UpstreamError :=
  if err.body.code == some "bad_response_status_code" &&
      !Text.contains err.message "bad response status code" then
    let code := err.body.param.getD ""
    err.withMessage s!"Provider API error: bad response status code {code}"
  else err

def disclose (err : UpstreamError) (requestId : String) : UpstreamError :=
  let message := if err.status = 429 then groupSaturatedMessage else err.message
  nameBadStatus (concealInternal (err.withMessage (relabel message requestId)))

end RelayGateway
