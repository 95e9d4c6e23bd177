import RelayGateway.Http.Management
import RelayGateway.Proofs.Gateway.Redaction

/-! # Keys stay secret

* `mirrored_answerEndpoint`, `mirrored_serve`: the management interface answers out of a redacted gateway
  as it does out of the full one.
* `Timeless`, `timeless_serve`: what a request does to the gateway does not depend on its moment.
* `DeskEvent`: a request to the interface, or a change of what can be read and written of the store;
  `Gateway.attend`, `Gateway.afterwards` are the gateway after one and after a history of them.
* `afterwards_alike`: gateways that are alike but for keys stay so, by `attend_redacted` for each event.
* `keys_undisclosed`: two stores that differ in the keys of channels cannot be told apart by any history.
-/

set_option autoImplicit false

namespace RelayGateway

/-! ## Responses -/

/-- A channel as JSON has no member for the key. -/
theorem Channel.toJson_redacted (channel : Channel) : channel.redacted.toJson = channel.toJson := rfl

theorem Channel.viewJson_redacted (channel : Channel) (routable : Bool) :
    channel.redacted.viewJson routable = channel.viewJson routable := by
  rw [viewJson, Channel.toJson_redacted, ← viewJson]

namespace Gateway

open Http

theorem healthJson_redacted (gateway : Gateway) (moment : Moment) :
    gateway.redacted.healthJson moment = gateway.healthJson moment := by
  simp only [healthJson, redacted, Registry.redacted, Snapshot.redacted, List.length_map]

theorem showChannel_redacted (gateway : Gateway) (moment : Moment) (id : ChannelId) :
    gateway.redacted.showChannel moment id = gateway.showChannel moment id := by
  have hstored : gateway.redacted.store.channel? id =
      (gateway.store.channel? id).map (Option.map Channel.redacted) := gateway.store.channel?_redacted id
  have hflag : gateway.redacted.registry.isChannelEnabled id = gateway.registry.isChannelEnabled id :=
    gateway.registry.isChannelEnabled_redacted id
  unfold showChannel
  rw [hstored, hflag]
  cases gateway.store.channel? id with
  | error err => rfl
  | ok stored =>
    cases stored with
    | none => rfl
    | some channel => exact congrArg (reportSuccess moment · none) (channel.viewJson_redacted _)

theorem showGroup_redacted (gateway : Gateway) (moment : Moment) (group : String) :
    gateway.redacted.showGroup moment group = gateway.showGroup moment group := rfl

theorem showModels_redacted (gateway : Gateway) (moment : Moment) :
    gateway.redacted.showModels moment = gateway.showModels moment := rfl

theorem reportOperation_redacted (moment : Moment) (message : String)
    (result : Except ServiceError Channel) :
    reportOperation moment message (result.map Channel.redacted) =
      reportOperation moment message result := by
  cases result with
  | error err => rfl
  | ok channel => exact congrArg (reportSuccess moment · (some message)) channel.toJson_redacted

theorem mirrored_withChannel (raw : String) {answer : ChannelId → StateM Gateway Response}
    {follow : ChannelId → StateM Gateway Response}
    (answered : ∀ channel, Mirrored id (answer channel) (follow channel)) :
    Mirrored id (withChannel raw answer) (withChannel raw follow) := by
  unfold withChannel
  cases channelId raw with
  | error complaint => exact .pure _
  | ok channel => exact answered channel

theorem mirrored_answerEndpoint (moment : Moment) (endpoint : Endpoint) (query : String) :
    Mirrored id (answerEndpoint moment endpoint query) (answerEndpoint moment endpoint query) := by
  refine Mirrored.get.bind fun gateway => ?_
  cases endpoint with
  | ping => exact .pure _
  | health =>
    simp only [healthJson_redacted]
    exact .pure _
  | reload =>
    refine mirrored_loadChannels.bind fun loaded => ?_
    cases loaded <;> exact .pure _
  | channel raw =>
    simp only [showChannel_redacted]
    exact mirrored_withChannel raw fun channel => .pure _
  | enable raw =>
    refine mirrored_withChannel raw fun channel => ?_
    cases notifyFlag query with
    | error complaint => exact .pure _
    | ok notify =>
      refine (mirrored_enableChannel channel notify).bind fun result => ?_
      rw [reportOperation_redacted]
      exact .pure _
  | disable raw =>
    refine mirrored_withChannel raw fun channel => ?_
    refine (mirrored_disableManually channel).bind fun result => ?_
    rw [reportOperation_redacted]
    exact .pure _
  | groupModels raw =>
    simp only [showGroup_redacted]
    cases groupName raw with
    | error complaint => exact .pure _
    | ok group => exact .pure _
  | modelsGroups =>
    simp only [showModels_redacted]
    exact .pure _

theorem mirrored_answerRequest (moment : Moment) (request : Request) :
    Mirrored id (answerRequest moment request) (answerRequest moment request) := by
  unfold answerRequest
  dsimp only
  split
  · exact .pure _
  · split
    · exact .pure _
    · split
      · exact (mirrored_answerEndpoint moment _ _).bind fun response => .pure _
      · exact .pure _

theorem mirrored_serve (moment : Moment) (request : Request) :
    Mirrored id (serve moment request) (serve moment request) :=
  Mirrored.get.bind fun _ => (mirrored_answerRequest moment request).bind fun _ => .pure _

/-! ## Moments -/

/-- Two actions that leave the same behind. -/
def Timeless (action shadow : StateM Gateway Response) : Prop :=
  ∀ gateway, (action gateway).2 = (shadow gateway).2

theorem Timeless.bind {α : Type} (action : StateM Gateway α) {next follow : α → StateM Gateway Response}
    (rest : ∀ value, Timeless (next value) (follow value)) : Timeless (action >>= next) (action >>= follow) :=
  fun gateway => rest (action gateway).1 (action gateway).2

theorem Timeless.pure (response other : Response) : Timeless (pure response) (pure other) := fun _ => rfl

theorem Timeless.finish {action shadow : StateM Gateway Response} (first : Timeless action shadow)
    (change follow : Response → Response) :
    Timeless (action >>= fun response => Pure.pure (change response))
      (shadow >>= fun response => Pure.pure (follow response)) :=
  first

theorem timeless_withChannel (raw : String) {answer follow : ChannelId → StateM Gateway Response}
    (same : ∀ channel, Timeless (answer channel) (follow channel)) :
    Timeless (withChannel raw answer) (withChannel raw follow) := by
  unfold withChannel
  cases channelId raw with
  | error complaint => exact .pure _ _
  | ok channel => exact same channel

/-- What an endpoint does to the gateway does not depend on the moment. -/
theorem timeless_answerEndpoint (moment other : Moment) (endpoint : Endpoint) (query : String) :
    Timeless (answerEndpoint moment endpoint query) (answerEndpoint other endpoint query) := by
  refine Timeless.bind get fun gateway => ?_
  cases endpoint with
  | ping | health | modelsGroups => exact .pure _ _
  | reload =>
    refine .bind (perform loadChannels) fun loaded => ?_
    cases loaded <;> exact .pure _ _
  | channel raw => exact timeless_withChannel raw fun channel => .pure _ _
  | enable raw =>
    refine timeless_withChannel raw fun channel => ?_
    cases notifyFlag query with
    | error complaint => exact .pure _ _
    | ok notify => exact Timeless.bind (perform (enableChannel channel notify)) fun result => .pure _ _
  | disable raw =>
    refine timeless_withChannel raw fun channel => ?_
    exact Timeless.bind (perform (disableManually channel)) fun result => .pure _ _
  | groupModels raw =>
    dsimp only
    cases groupName raw <;> exact .pure _ _

theorem timeless_answerRequest (moment other : Moment) (request : Request) :
    Timeless (answerRequest moment request) (answerRequest other request) := by
  unfold answerRequest
  dsimp only
  split
  · exact .pure _ _
  · split
    · exact .pure _ _
    · split
      · exact (timeless_answerEndpoint moment other _ _).finish _ _
      · exact .pure _ _

theorem timeless_serve (moment other : Moment) (request : Request) :
    Timeless (serve moment request) (serve other request) :=
  .bind get fun _ => (timeless_answerRequest moment other request).finish _ _

end Gateway

/-! ## Histories -/

/-- What can happen at the desk of the operators. -/
inductive DeskEvent where
  | request (request : Http.Request)
  /-- From now on these tables of the store can be read and written. -/
  | tables (channelsReadable channelsWritable groupsReadable : Bool)

namespace Gateway

open Http

variable {gateway other : Gateway}

def attend (moment : Moment) (gateway : Gateway) : DeskEvent → Gateway
  | .request request => (serve moment request gateway).2
  | .tables channelsReadable channelsWritable groupsReadable =>
    { gateway with
      store := { gateway.store with channelsReadable, channelsWritable, groupsReadable } }

/-- The gateway after a history, each event of which has its moment. -/
def afterwards (gateway : Gateway) (history : List (Moment × DeskEvent)) : Gateway :=
  history.foldl (fun gateway entry => gateway.attend entry.1 entry.2) gateway

theorem attend_redacted (moment later : Moment) (gateway : Gateway) (event : DeskEvent) :
    gateway.redacted.attend later event = (gateway.attend moment event).redacted := by
  cases event with
  | request request =>
    have hserved := congrArg Prod.snd (mirrored_serve later request gateway)
    exact hserved.trans (congrArg redacted (timeless_serve later moment request gateway))
  | tables channelsReadable channelsWritable groupsReadable => rfl

/-- Gateways that are alike but for keys stay so through the same events, whenever these happen. -/
theorem afterwards_alike {history elsewhere : List (Moment × DeskEvent)}
    (alike : gateway.redacted = other.redacted)
    (sameEvents : history.map (·.2) = elsewhere.map (·.2)) :
    (gateway.afterwards history).redacted = (other.afterwards elsewhere).redacted := by
  induction history generalizing gateway other elsewhere with
  | nil =>
    obtain rfl : elsewhere = [] := List.map_eq_nil_iff.mp sameEvents.symm
    exact alike
  | cons entry later ih =>
    obtain ⟨entry', later', rfl, hevent, hlater⟩ := List.map_eq_cons_iff.mp sameEvents.symm
    have hnext : (gateway.attend entry.1 entry.2).redacted = (other.attend entry'.1 entry'.2).redacted := calc
      (gateway.attend entry.1 entry.2).redacted
        = gateway.redacted.attend entry'.1 entry.2 := (attend_redacted _ _ gateway entry.2).symm
      _ = other.redacted.attend entry'.1 entry'.2 := by rw [alike, hevent]
      _ = (other.attend entry'.1 entry'.2).redacted := attend_redacted _ _ other entry'.2
    have hrest := ih hnext hlater.symm
    exact hrest

theorem mirrored_loadAll : Mirrored id loadAll loadAll := by
  refine mirrored_loadChannels.bind fun loaded => ?_
  cases loaded with
  | error err => exact .pure _
  | ok summary =>
    have groupsLoaded : Mirrored id loadGroups loadGroups := fun _ => rfl
    refine groupsLoaded.bind fun loaded => ?_
    cases loaded <;> exact .pure _

theorem ofSettings_redacted (relay : RelaySettings) (corsOrigins : List String) (store : Store) :
    (ofSettings relay corsOrigins store).redacted = ofSettings relay corsOrigins store.redacted := rfl

theorem Mirrored.alike {α : Type} {action : StateM Gateway α} (blind : Mirrored id action action)
    (alike : gateway.redacted = other.redacted) :
    (action gateway).1 = (action other).1 ∧ (action gateway).2.redacted = (action other).2.redacted := by
  have h := (blind gateway).symm.trans ((congrArg action alike).trans (blind other))
  exact Prod.mk.inj h

/-- Of two stores that differ in the keys of channels only, the same is shown: by the first load, by the
response to any request after any history of events, and by the notices to operators. The events may happen
at other moments; a response is compared as of one moment. -/
theorem keys_undisclosed (relay : RelaySettings) (corsOrigins : List String) (store hidden : Store)
    (sameButKeys : store.redacted = hidden.redacted) (history elsewhere : List (Moment × DeskEvent))
    (sameEvents : history.map (·.2) = elsewhere.map (·.2)) :
    let here := loadAll (ofSettings relay corsOrigins store)
    let there := loadAll (ofSettings relay corsOrigins hidden)
    here.1 = there.1 ∧
      (∀ moment request, (serve moment request (here.2.afterwards history)).1 =
        (serve moment request (there.2.afterwards elsewhere)).1) ∧
      (here.2.afterwards history).notices = (there.2.afterwards elsewhere).notices := by
  intro here there
  have hfirst : (ofSettings relay corsOrigins store).redacted =
      (ofSettings relay corsOrigins hidden).redacted := by
    rw [ofSettings_redacted, ofSettings_redacted, sameButKeys]
  obtain ⟨hreply, hloaded⟩ := mirrored_loadAll.alike hfirst
  have hafter := afterwards_alike hloaded sameEvents
  have hnotices := congrArg Gateway.notices hafter
  exact ⟨hreply, fun moment request => ((mirrored_serve moment request).alike hafter).1, hnotices⟩

/-- A store with one channel, whose key is given. -/
def keyedStore (key : String) : Store :=
  { Store.fresh with
    rows := [{ (default : ChannelRow) with
      id := 1, name := "one", key, groups := "default", models := "gpt-4o", statusCode := 1 }] }

def deskEvents : List DeskEvent :=
  [.request ⟨"POST", "/api/channels/1/disable", []⟩, .tables false false true,
    .request ⟨"POST", "/api/channels/reload", []⟩, .tables true true true,
    .request ⟨"POST", "/api/channels/1/enable?notify=true", []⟩]

/-- A channel is disabled, a load fails, and the channel is enabled again with a notice; then it is viewed. -/
theorem otherKey_undisclosed :
    let history (moment : Moment) := deskEvents.map fun event => (moment, event)
    let here := (loadAll (ofSettings {} ["*"] (keyedStore "sk-one"))).2.afterwards (history ⟨"a", "t", 1⟩)
    let there := (loadAll (ofSettings {} ["*"] (keyedStore "sk-two"))).2.afterwards (history ⟨"b", "u", 2⟩)
    let view := serve ⟨"c", "v", 3⟩ ⟨"GET", "/api/channels/1", []⟩
    (keyedStore "sk-one").redacted = (keyedStore "sk-two").redacted ∧
      (keyedStore "sk-one").rows ≠ (keyedStore "sk-two").rows ∧
      (view here).1 = (view there).1 ∧ (view here).1.status = 200 ∧
      here.notices = there.notices ∧ here.notices.length = 1 := by
  intro history here there view
  have sameEvents : (history ⟨"a", "t", 1⟩).map (·.2) = (history ⟨"b", "u", 2⟩).map (·.2) := rfl
  obtain ⟨-, hview, hnotices⟩ :=
    keys_undisclosed {} ["*"] (keyedStore "sk-one") (keyedStore "sk-two") rfl _ _ sameEvents
  exact ⟨rfl, by decide +kernel, hview _ _, by decide +kernel, hnotices, by decide +kernel⟩

end Gateway

end RelayGateway
