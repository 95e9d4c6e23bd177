import RelayGateway.Channel.Basic

/-! # Why no channel was chosen

* `RoutingError`: the causes.
* `RoutingError.message`, `RoutingError.kind`: the text and the name of each.
* `RoutingError.isCapacityExhausted`: the causes that a client sees as an overloaded service.
-/

set_option autoImplicit false

namespace RelayGateway

/-- A cause why no channel was chosen. -/
inductive RoutingError where
  | groupNotFound (group : String)
  | modelNotFound (model : String)
  | modelNotFoundInGroup (group model : String)
  | channelNotFound
  | noChannelsAvailable (group model : String)
  | noAvailableChannelsAfterFiltering (group model : String)
  | databaseConsistencyBroken (channel : ChannelId)
  | invalidChannelId (channel : ChannelId)
  | channelDisabled (channel : ChannelId)
  deriving DecidableEq

namespace RoutingError

def message : RoutingError → String
  | .groupNotFound group => s!"分组 {group} 不存在"
  | .modelNotFound model => s!"模型 {model} 不存在"
  | .modelNotFoundInGroup group model => s!"当前分组 {group} 下对于模型 {model} 无可用渠道"
  | .channelNotFound => "渠道不存在"
  | .noChannelsAvailable group model => s!"分组 {group} 下模型 {model} 没有配置渠道"
  | .noAvailableChannelsAfterFiltering group model =>
    s!"分组 {group} 下模型 {model} 的渠道均已被过滤"
  | .databaseConsistencyBroken channel => s!"路由表引用了不存在的渠道 {channel.toInt}"
  | .invalidChannelId channel => s!"无效的渠道 ID: {channel.toInt}"
  | .channelDisabled channel => s!"渠道 {channel.toInt} 已被禁用"

def kind : RoutingError → String
  | .groupNotFound _ => "GroupNotFound"
  | .modelNotFound _ => "ModelNotFound"
  | .modelNotFoundInGroup .. => "ModelNotFoundInGroup"
  | .channelNotFound => "ChannelNotFound"
  | .noChannelsAvailable .. => "NoChannelsAvailable"
  | .noAvailableChannelsAfterFiltering .. => "NoAvailableChannelsAfterFiltering"
  | .databaseConsistencyBroken _ => "DatabaseConsistencyBroken"
  | .invalidChannelId _ => "InvalidChannelId"
  | .channelDisabled _ => "ChannelDisabled"

/-- Whether channels exist for the request but none can take it now. -/
def isCapacityExhausted : RoutingError → Bool
  | .channelNotFound | .noChannelsAvailable .. | .noAvailableChannelsAfterFiltering .. => true
  | _ => false

end RoutingError

end RelayGateway
