import RelayGateway.Channel.Basic

/-! # Filters on candidate channels

* `Filter`: a reason to pass over a channel; `Filter.skips` applies it.
* `FilterOptions`: what a request demands of its channel.
* `FilterOptions.chain`: the filters for these demands and a set of excluded channels, in their fixed
  order.
-/

set_option autoImplicit false

namespace RelayGateway

/-- A reason to pass over a channel. -/
inductive Filter where
  | skipOnlyChat
  | excludeChannels (ids : List ChannelId)
  | allowProviders (providers : List Provider)
  | requireStream (model : String)
  deriving DecidableEq

namespace Filter

def skips : Filter → Channel → Bool
  | .skipOnlyChat, channel => channel.onlyChat
  | .excludeChannels ids, channel => ids.contains channel.id
  | .allowProviders providers, channel => !providers.contains channel.provider
  | .requireStream model, channel => !channel.allowsStream model

def name : Filter → String
  | .skipOnlyChat => "skip_only_chat"
  | .excludeChannels _ => "exclude_channel_ids"
  | .allowProviders _ => "allow_channel_types"
  | .requireStream _ => "require_stream_support"

end Filter

/-- Whether any filter of a chain passes over a channel. -/
def isFiltered (filters : List Filter) (channel : Channel) : Bool :=
  filters.any fun filter => filter.skips channel

/-- What a request demands of its channel. -/
structure FilterOptions where
  skipOnlyChat : Bool
  /-- The vendors to which the request is confined, if it is. -/
  allowedProviders : Option (List Provider)
  /-- The model that has to be streamed, if one has. -/
  streamModel : Option String
  deriving DecidableEq

namespace FilterOptions

def none : FilterOptions := ⟨false, Option.none, Option.none⟩

/-- The filters for the demands and the excluded channels. -/
def chain (options : FilterOptions) (excluded : List ChannelId) : List Filter :=
  (if options.skipOnlyChat then [Filter.skipOnlyChat] else []) ++
  (if excluded.isEmpty then [] else [Filter.excludeChannels excluded]) ++
  (options.allowedProviders.map Filter.allowProviders).toList ++
  (options.streamModel.map Filter.requireStream).toList

end FilterOptions

end RelayGateway
