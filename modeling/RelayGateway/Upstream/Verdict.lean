import RelayGateway.Text.Blank
import RelayGateway.Text.Lowercase
import RelayGateway.Text.Search
import RelayGateway.Upstream.Error

/-! # Judging a failed attempt

* `RetryRule`: the ordered rules on whether another channel may be tried; the first that applies
  decides.
* `DisableRule`: the ordered rules on whether the channel has to be disabled.
* `Classifier`: the configured part, namely whether channels are disabled automatically and the
  keywords that disable them.
* `coolsDown`: whether a failure cools the channel.
-/

set_option autoImplicit false

namespace RelayGateway

/-- The rules on retrying, in the order in which they are tried. -/
inductive RetryRule where
  | localError
  | rateLimitedOrRedirect
  | timeout
  | anthropicCreditBalance
  | bedrockOperationNotAllowed
  | invalidApiKeyArgument
  | badRequest
  | serverError
  | successStatus
  | otherwise
  deriving DecidableEq

namespace RetryRule

def all : List RetryRule :=
  [.localError, .rateLimitedOrRedirect, .timeout, .anthropicCreditBalance,
    .bedrockOperationNotAllowed, .invalidApiKeyArgument, .badRequest, .serverError, .successStatus,
    .otherwise]

def name : RetryRule → String
  | .localError => "local_error"
  | .rateLimitedOrRedirect => "rate_limited_or_redirect"
  | .timeout => "timeout"
  | .anthropicCreditBalance => "anthropic_credit_balance"
  | .bedrockOperationNotAllowed => "bedrock_operation_not_allowed"
  | .invalidApiKeyArgument => "invalid_api_key_argument"
  | .badRequest => "bad_request"
  | .serverError => "server_error"
  | .successStatus => "success_status"
  | .otherwise => "default"

/-- Whether a rule applies to an error of a channel of the given vendor. -/
def applies (rule : RetryRule) (err : UpstreamError) (provider : Provider) : Bool :=
  match rule with
  | .localError => err.isLocal
  | .rateLimitedOrRedirect => err.status == 429 || err.status == 307
  | .timeout => err.status == 408 || err.status == 504 || err.status == 524
  | .anthropicCreditBalance =>
    err.status == 400 && provider == .anthropic &&
      Text.contains err.message "Your credit balance is too low"
  | .bedrockOperationNotAllowed =>
    err.status == 400 && provider == .bedrock && Text.contains err.message "Operation not allowed"
  | .invalidApiKeyArgument =>
    err.status == 400 && provider != .anthropic && provider != .bedrock &&
      err.body.param == some "INVALID_ARGUMENT" && Text.contains err.message "API key not valid"
  | .badRequest => err.status == 400
  | .serverError => err.status / 100 == 5
  | .successStatus => err.status / 100 == 2
  | .otherwise => true

def retries : RetryRule → Bool
  | .rateLimitedOrRedirect | .anthropicCreditBalance | .bedrockOperationNotAllowed
  | .invalidApiKeyArgument | .serverError | .otherwise => true
  | .localError | .timeout | .badRequest | .successStatus => false

def deciding (err : UpstreamError) (provider : Provider) : RetryRule :=
  (all.find? fun rule => rule.applies err provider).getD .otherwise

end RetryRule

/-- Whether another channel may be tried after an error. -/
def shouldRetry (err : UpstreamError) (provider : Provider) : Bool :=
  (RetryRule.deciding err provider).retries

def coolsDown (err : UpstreamError) : Bool :=
  err.status == 429

/-- The rules on disabling, in the order in which they are tried. -/
inductive DisableRule where
  | unauthorized
  | geminiForbidden
  | credentialCode
  | credentialType
  | permissionDeniedParam
  | keyword
  deriving DecidableEq

namespace DisableRule

def all : List DisableRule :=
  [.unauthorized, .geminiForbidden, .credentialCode, .credentialType, .permissionDeniedParam,
    .keyword]

def name : DisableRule → String
  | .unauthorized => "unauthorized"
  | .geminiForbidden => "gemini_forbidden"
  | .credentialCode => "credential_code"
  | .credentialType => "credential_type"
  | .permissionDeniedParam => "permission_denied_param"
  | .keyword => "keyword"

/-- The error codes that stand for an unusable credential. -/
def credentialCodes : List String :=
  ["invalid_api_key", "account_deactivated", "billing_not_active"]

/-- The error types that stand for an unusable credential. -/
def credentialTypes : List String :=
  ["insufficient_quota", "authentication_error", "permission_error", "forbidden"]

/-- Whether a message contains one of the keywords, up to letter case. -/
def mentions (keywords : List String) (message : String) : Bool :=
  let lower := Text.toLower message
  keywords.any fun keyword => Text.contains lower keyword

/-- Whether a rule applies to an error of a channel of the given vendor. `keywords` are in lower case. -/
def applies (keywords : List String) (rule : DisableRule) (err : UpstreamError)
    (provider : Provider) : Bool :=
  match rule with
  | .unauthorized => err.status == 401
  | .geminiForbidden => err.status == 403 && provider == .gemini
  | .credentialCode => err.body.code.any credentialCodes.contains
  | .credentialType => credentialTypes.contains err.body.kind
  | .permissionDeniedParam => err.body.param == some "PERMISSIONDENIED"
  | .keyword => mentions keywords err.message

end DisableRule

/-- How failures lead to disabling. -/
structure Classifier where
  automaticDisable : Bool
  /-- Trimmed, in lower case, and never empty. -/
  keywords : List String
  deriving DecidableEq

namespace Classifier

def ofKeywords (automaticDisable : Bool) (keywords : List String) : Classifier :=
  ⟨automaticDisable,
    (keywords.map fun keyword => Text.toLower (Text.trim keyword)).filter fun keyword =>
      keyword != ""⟩

/-- The rule by which an error disables its channel, if one does. -/
def disableRule? (classifier : Classifier) (err : UpstreamError) (provider : Provider) :
    Option DisableRule :=
  if !classifier.automaticDisable || err.isLocal then none
  else DisableRule.all.find? fun rule => rule.applies classifier.keywords err provider

def shouldDisable (classifier : Classifier) (err : UpstreamError) (provider : Provider) : Bool :=
  (classifier.disableRule? err provider).isSome

end Classifier

end RelayGateway
