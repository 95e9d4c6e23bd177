import RelayGateway.Routing.Error

/-! # Errors of the service

* `ServiceError`: the causes, each with what it concerns and, where there is one, an underlying cause.
* `ServiceError.message`, `ServiceError.kind`: the text and the name of each.
* `ServiceError.sources`: the texts of the underlying errors, outermost first.
* `ServiceError.httpStatus`, `ServiceError.httpCode`: how the management interface reports each.
-/

set_option autoImplicit false

namespace RelayGateway

/-- An error of the service. `cause` is the text of the underlying error. -/
inductive ServiceError where
  | config (detail : String) (cause : Option String)
  | database (detail : String) (cause : Option String)
  | network (detail : String) (cause : Option String)
  | permission (detail : String)
  | business (detail : String)
  | notFound (resource identifier : String)
  | routing (error : RoutingError)
  | notification (detail : String) (cause : Option String)
  | serverStart (detail : String) (cause : Option String)
  | internal (detail : String) (cause : Option String)
  | file (detail : String) (cause : String)
  | serialization (detail : String) (cause : Option String)
  /-- An error seen from a wider undertaking. -/
  | context (undertaking : String) (source : ServiceError)
  deriving DecidableEq

/-- Whose fault an error is. -/
inductive ErrorCategory where
  | client
  | server
  deriving DecidableEq

namespace ServiceError

def ofFile (cause : String) : ServiceError := .file "文件操作失败" cause

/-- The error of a text that is no configuration document. -/
def ofDocument : ServiceError := .config "TOML解析失败" none

/-- The error of a value that does not have the expected JSON form. -/
def ofJson : ServiceError := .serialization "JSON处理失败" none

/-- An error of the database without further description. -/
def ofDatabase (cause : String) : ServiceError := .database "数据库操作失败" (some cause)

def ofRequest : ServiceError := .network "HTTP请求失败" none

def message : ServiceError → String
  | .config detail _ => s!"配置错误: {detail}"
  | .database detail _ => s!"数据库错误: {detail}"
  | .network detail _ => s!"网络错误: {detail}"
  | .permission detail => s!"权限错误: {detail}"
  | .business detail => s!"业务错误: {detail}"
  | .notFound resource identifier => s!"资源未找到: {resource} {identifier}"
  | .routing error => error.message
  | .notification detail _ => s!"通知错误: {detail}"
  | .serverStart detail _ => s!"服务器启动错误: {detail}"
  | .internal detail _ => s!"内部错误: {detail}"
  | .file detail _ => s!"IO错误: {detail}"
  | .serialization detail _ => s!"序列化错误: {detail}"
  | .context undertaking source => s!"{undertaking}: {source.message}"

def kind : ServiceError → String
  | .config .. => "Config"
  | .database .. => "Database"
  | .network .. => "Network"
  | .permission _ => "Permission"
  | .business _ => "Business"
  | .notFound .. => "NotFound"
  | .routing _ => "Routing"
  | .notification .. => "Notification"
  | .serverStart .. => "ServerStart"
  | .internal .. => "Internal"
  | .file .. => "Io"
  | .serialization .. => "Serialization"
  | .context .. => "Context"

/-- The texts of the errors below an error, outermost first. -/
def sources : ServiceError → List String
  | .config _ cause | .database _ cause | .network _ cause | .notification _ cause
  | .serverStart _ cause | .internal _ cause | .serialization _ cause => cause.toList
  | .permission _ | .business _ | .notFound .. | .routing _ => []
  | .file _ cause => [cause]
  | .context _ source => source.message :: source.sources

/-- The routing error inside an error, whatever its context. -/
def asRouting? : ServiceError → Option RoutingError
  | .routing error => some error
  | .context _ source => source.asRouting?
  | _ => none

/-- The status code of an HTTP response that reports a routing error. -/
def routingStatus : RoutingError → Nat
  | .invalidChannelId _ => 404
  | .channelDisabled _ => 403
  | _ => 503

/-- The error code of a response that reports a routing error. -/
def routingCode : RoutingError → String
  | .groupNotFound _ | .modelNotFound _ | .modelNotFoundInGroup .. => "MODEL_NOT_AVAILABLE"
  | .invalidChannelId _ => "CHANNEL_NOT_FOUND"
  | .channelDisabled _ => "CHANNEL_DISABLED"
  | .databaseConsistencyBroken _ => "SERVICE_UNAVAILABLE"
  | .channelNotFound | .noChannelsAvailable .. | .noAvailableChannelsAfterFiltering .. =>
    "NO_AVAILABLE_CHANNEL"

/-- The status code of an HTTP response that reports an error. -/
def httpStatus : ServiceError → Nat
  | .config .. | .business _ | .serialization .. => 400
  | .database .. | .serverStart .. | .internal .. | .file .. => 500
  | .network .. | .notification .. => 502
  | .permission _ => 403
  | .notFound .. => 404
  | .routing error => routingStatus error
  | .context _ source => source.httpStatus

/-- The error code of a response that reports an error. -/
def httpCode : ServiceError → String
  | .config .. => "CONFIG_ERROR"
  | .database .. => "DATABASE_ERROR"
  | .network .. => "NETWORK_ERROR"
  | .permission _ => "PERMISSION_ERROR"
  | .business _ => "BUSINESS_ERROR"
  | .notFound .. => "RESOURCE_NOT_FOUND"
  | .routing error => routingCode error
  | .notification .. => "NOTIFICATION_ERROR"
  | .serverStart .. => "SERVER_START_ERROR"
  | .internal .. => "INTERNAL_ERROR"
  | .file .. => "IO_ERROR"
  | .serialization .. => "SERIALIZATION_ERROR"
  | .context _ source => source.httpCode

/-- Errors reported with a status from 400 to 499 are the client's. -/
def category (err : ServiceError) : ErrorCategory :=
  if err.httpStatus / 100 = 4 then .client else .server

end ServiceError

end RelayGateway
