import RelayGateway.Gateway.State
import RelayGateway.Proofs.Program.Handling

/-! # Gateways without the keys of channels

* `Channel.redacted`, `ChannelRow.redacted`, `Store.redacted`, `Snapshot.redacted`, `Registry.redacted`,
  `Gateway.redacted`: the same with every key left out. Beside each stands what its operations make of it:
  they do the same as before and redact what they return.
* `Mirrored`: an action that, on a redacted gateway, does the same as another on the full one, up to
  redaction of the reply. `Mirrored.pure`, `Mirrored.bind` and `Mirrored.ask` follow the constructors.
* `mirrored_loadChannels`, `mirrored_disableManually`, `mirrored_enableChannel`: the operations of operators.
-/

set_option autoImplicit false

namespace RelayGateway

/-! ## Channels and the store -/

def Channel.redacted (channel : Channel) : Channel := { channel with key := "" }

def ChannelRow.redacted (row : ChannelRow) : ChannelRow := { row with key := "" }

theorem Channel.ofRow_redacted (row : ChannelRow) : ofRow row.redacted = (ofRow row).redacted := rfl

namespace Store

/-- The tables without the keys of channels. -/
def redacted (store : Store) : Store := { store with rows := store.rows.map ChannelRow.redacted }

@[simp] theorem redacted_channelsReadable (store : Store) :
    store.redacted.channelsReadable = store.channelsReadable := rfl

@[simp] theorem redacted_channelsWritable (store : Store) :
    store.redacted.channelsWritable = store.channelsWritable := rfl

@[simp] theorem row?_redacted (store : Store) (id : ChannelId) :
    store.redacted.row? id = (store.row? id).map ChannelRow.redacted :=
  List.find?_map

@[simp] theorem sortedRows_redacted (store : Store) :
    store.redacted.sortedRows = store.sortedRows.map ChannelRow.redacted :=
  Eq.symm (List.map_mergeSort (f := ChannelRow.redacted) fun _ _ _ _ => rfl)

theorem channel?_redacted (store : Store) (id : ChannelId) :
    store.redacted.channel? id = (store.channel? id).map (Option.map Channel.redacted) := by
  unfold channel?
  cases hreadable : store.channelsReadable with
  | false => simp [hreadable, Except.map]
  | true =>
    cases hrow : store.row? id with
    | none => simp [hreadable, hrow, Except.map]
    | some row => simp [hreadable, hrow, Except.map, Channel.ofRow_redacted]

theorem enabledChannels_redacted (store : Store) :
    store.redacted.enabledChannels = store.enabledChannels.map (List.map Channel.redacted) := by
  unfold enabledChannels
  cases hreadable : store.channelsReadable with
  | false => simp [hreadable, Except.map]
  | true =>
    have hfilter : ((fun row : ChannelRow => row.statusCode == ChannelStatus.enabled.code) ∘
        ChannelRow.redacted) = fun row => row.statusCode == ChannelStatus.enabled.code := rfl
    simp [hreadable, Except.map, List.filter_map, hfilter, Channel.ofRow_redacted]

theorem updateStatus_redacted (store : Store) (id : ChannelId) (status : ChannelStatus) :
    store.redacted.updateStatus id status =
      ((store.updateStatus id status).1, (store.updateStatus id status).2.redacted) := by
  have hrow (row : ChannelRow) :
      (if row.redacted.id = id then { row.redacted with statusCode := status.code } else row.redacted) =
        (if row.id = id then { row with statusCode := status.code } else row).redacted := by
    by_cases hid : row.id = id <;> simp [ChannelRow.redacted, hid]
  unfold updateStatus
  rw [redacted_channelsReadable, redacted_channelsWritable, row?_redacted, Option.isSome_map]
  cases store.channelsReadable with
  | false => rfl
  | true =>
    cases (store.row? id).isSome with
    | false => rfl
    | true =>
      cases store.channelsWritable with
      | false => rfl
      | true => simp [redacted, hrow]

end Store

/-! ## Tables and registries -/

namespace Snapshot

/-- The table without the keys of its channels. -/
def redacted (snapshot : Snapshot) : Snapshot :=
  { snapshot with channels := snapshot.channels.map Channel.redacted }

theorem withWeight_redacted (defaultWeight : UInt32) (channel : Channel) :
    withWeight defaultWeight channel.redacted = (withWeight defaultWeight channel).redacted := by
  unfold withWeight
  by_cases hzero : channel.weight = 0 <;> simp [Channel.redacted, hzero]

theorem putChannel_redacted (channels : List Channel) (channel : Channel) :
    putChannel (channels.map Channel.redacted) channel.redacted =
      (putChannel channels channel).map Channel.redacted := by
  have hknown : (channels.map Channel.redacted).any (fun c => c.id == channel.redacted.id) =
      channels.any fun c => c.id == channel.id := List.any_map
  unfold putChannel
  rw [hknown]
  split
  · rw [List.map_map, List.map_map]
    refine List.map_congr_left fun other _ => ?_
    by_cases hid : other.id = channel.id <;> simp [Channel.redacted, hid]
  · rw [List.map_append]
    rfl

end Snapshot

namespace Draft

/-- The draft without the keys of its channels. -/
def redacted (draft : Draft) : Draft :=
  { draft with channels := draft.channels.map Channel.redacted }

theorem list_redacted (draft : Draft) (channel : Channel) (group model : String) :
    draft.redacted.list channel.redacted group model = (draft.list channel group model).redacted := rfl

theorem enrol_redacted (draft : Draft) (channel : Channel) (groups models : List String) :
    draft.redacted.enrol channel.redacted groups models =
      (draft.enrol channel groups models).redacted := by
  have hlisted : groups.foldl (fun draft group => models.foldl (fun draft model =>
        draft.list channel.redacted group model) draft) draft.redacted =
      (groups.foldl (fun draft group => models.foldl (fun draft model =>
        draft.list channel group model) draft) draft).redacted :=
    List.foldl_hom redacted fun draft group =>
      List.foldl_hom redacted fun draft model => list_redacted draft channel group model
  unfold enrol
  rw [hlisted]
  simp only [redacted, Snapshot.putChannel_redacted]

theorem add_redacted (defaultWeight : UInt32) (draft : Draft) (channel : Channel) :
    draft.redacted.add defaultWeight channel.redacted = (draft.add defaultWeight channel).redacted := by
  unfold add
  rw [Snapshot.withWeight_redacted]
  by_cases henabled : channel.status = .enabled
  · rw [if_pos henabled, if_pos (show channel.redacted.status = .enabled from henabled)]
    exact enrol_redacted draft _ _ _
  · rw [if_neg henabled, if_neg (show ¬ channel.redacted.status = .enabled from henabled)]

end Draft

namespace Snapshot

theorem build_redacted (channels : List Channel) (defaultWeight : UInt32) :
    build (channels.map Channel.redacted) defaultWeight = (build channels defaultWeight).redacted := by
  have hloop : (channels.map Channel.redacted).foldl (Draft.add defaultWeight) Draft.empty.redacted =
      (channels.foldl (Draft.add defaultWeight) .empty).redacted := by
    rw [List.foldl_map]
    exact List.foldl_hom Draft.redacted (Draft.add_redacted defaultWeight)
  exact congrArg Draft.finish hloop

theorem channel?_redacted (snapshot : Snapshot) (id : ChannelId) :
    snapshot.redacted.channel? id = (snapshot.channel? id).map Channel.redacted :=
  List.find?_map

end Snapshot

namespace Registry

/-- The registry without the keys of its channels. -/
def redacted (registry : Registry) : Registry :=
  { registry with snapshot := registry.snapshot.redacted }

theorem tableOf_redacted (registry : Registry) (channels : List Channel) :
    registry.redacted.tableOf (channels.map Channel.redacted) = (registry.tableOf channels).redacted :=
  Snapshot.build_redacted channels registry.options.defaultWeight

theorem summary_redacted (snapshot : Snapshot) : summary snapshot.redacted = summary snapshot := by
  simp only [summary, Snapshot.redacted, List.length_map]
  rfl

theorem setEnabled_redacted (registry : Registry) (id : ChannelId) (enabled : Bool) :
    registry.redacted.setEnabled id enabled =
      ((registry.setEnabled id enabled).1, (registry.setEnabled id enabled).2.redacted) := by
  unfold setEnabled
  have hknown : (registry.redacted.snapshot.channel? id).isSome = (registry.snapshot.channel? id).isSome := by
    rw [redacted, Snapshot.channel?_redacted, Option.isSome_map]
  rw [hknown]
  split <;> rfl

theorem isChannelEnabled_redacted (registry : Registry) (id : ChannelId) :
    registry.redacted.isChannelEnabled id = registry.isChannelEnabled id := by
  unfold isChannelEnabled
  rw [redacted, Snapshot.channel?_redacted, Option.isSome_map]
  rfl

end Registry

/-! ## Gateways -/

namespace Gateway

/-- The gateway without the keys of channels, wherever it has them. -/
def redacted (gateway : Gateway) : Gateway :=
  { gateway with
    store := gateway.store.redacted
    registry := gateway.registry.redacted
    reports := gateway.reports.map fun report => (report.1.redacted, report.2) }

/-- On a redacted gateway, one action does what another does on the full one, and replies the same but for
what `hide` leaves out. -/
def Mirrored {α : Type} (hide : α → α) (action shadow : StateM Gateway α) : Prop :=
  ∀ gateway, shadow gateway.redacted = (hide (action gateway).1, (action gateway).2.redacted)

variable {α β : Type} {hide : α → α} {veil : β → β} {action shadow : StateM Gateway α}

theorem Mirrored.pure (value : α) : Mirrored hide (pure value) (pure (hide value)) := fun _ => rfl

theorem Mirrored.bind {next follow : α → StateM Gateway β} (first : Mirrored hide action shadow)
    (rest : ∀ value, Mirrored veil (next value) (follow (hide value))) :
    Mirrored veil (action >>= next) (shadow >>= follow) := by
  intro gateway
  change follow (shadow gateway.redacted).1 (shadow gateway.redacted).2 = _
  rw [first gateway]
  exact rest (action gateway).1 (action gateway).2

theorem Mirrored.get : Mirrored redacted get get := fun _ => rfl

/-! ### Health operations -/

theorem mirrored_storedChannel (id : ChannelId) :
    Mirrored (Except.map (Option.map Channel.redacted)) (answerHealth (.storedChannel id))
      (answerHealth (.storedChannel id)) :=
  fun gateway => congrArg (·, gateway.redacted) (gateway.store.channel?_redacted id)

theorem mirrored_updateStatus (channel : ChannelId) (status : ChannelStatus) :
    Mirrored id (answerHealth (.updateStatus channel status))
      (answerHealth (.updateStatus channel status)) := by
  intro gateway
  simp only [answerHealth, redacted, Store.updateStatus_redacted, id]

theorem mirrored_fetchEnabled :
    Mirrored (Except.map (List.map Channel.redacted)) (answerHealth .fetchEnabled)
      (answerHealth .fetchEnabled) :=
  fun gateway => congrArg (·, gateway.redacted) gateway.store.enabledChannels_redacted

theorem mirrored_install (channels : List Channel) :
    Mirrored id (answerHealth (.install channels))
      (answerHealth (.install (channels.map Channel.redacted))) := by
  intro gateway
  simp only [answerHealth, redacted, Registry.tableOf_redacted, Registry.summary_redacted, id]
  rfl

theorem mirrored_setEnabled (channel : ChannelId) (enabled : Bool) :
    Mirrored id (answerHealth (.setEnabled channel enabled))
      (answerHealth (.setEnabled channel enabled)) := by
  intro gateway
  simp only [answerHealth, redacted, Registry.setEnabled_redacted, id]

theorem mirrored_notify (notice : Notice) :
    Mirrored id (answerHealth (.notify notice)) (answerHealth (.notify notice)) := fun _ => rfl

/-- What follows a call follows the redacted reply in the same way. -/
theorem Mirrored.ask {call : HealthCall} {cover : HealthReply call → HealthReply call}
    {next follow : HealthReply call → HealthProgram β}
    (answered : Mirrored cover (answerHealth call) (answerHealth call))
    (rest : ∀ reply, Mirrored veil (perform (next reply)) (perform (follow (cover reply)))) :
    Mirrored veil (perform (Program.request call >>= next)) (perform (Program.request call >>= follow)) :=
  answered.bind rest

theorem Mirrored.done (value : β) :
    Mirrored veil (perform (Pure.pure value)) (perform (Pure.pure (veil value))) := fun _ => rfl

theorem perform_bind (program : HealthProgram α) (next : α → HealthProgram β) :
    perform (program >>= next) = perform program >>= fun value => perform (next value) :=
  Program.run_bind answerHealth program next

theorem mirrored_loadChannels : Mirrored id (perform loadChannels) (perform loadChannels) := by
  refine mirrored_fetchEnabled.ask fun fetched => ?_
  cases fetched with
  | error err => exact .done _
  | ok channels => exact (mirrored_install channels).bind fun summary => .done _

theorem mirrored_requireChannel (channel : ChannelId) :
    Mirrored (Except.map Channel.redacted) (perform (requireChannel channel))
      (perform (requireChannel channel)) := by
  refine (mirrored_storedChannel channel).ask fun stored => ?_
  cases stored with
  | error err => exact .done _
  | ok stored =>
    cases stored with
    | none => exact .done _
    | some channel => exact .done _

theorem mirrored_disableManually (channel : ChannelId) :
    Mirrored (Except.map Channel.redacted) (perform (disableManually channel))
      (perform (disableManually channel)) := by
  unfold disableManually
  rw [perform_bind]
  refine (mirrored_requireChannel channel).bind fun required => ?_
  cases required with
  | error err => exact .done _
  | ok stored =>
    refine (mirrored_updateStatus channel .manuallyDisabled).ask fun written => ?_
    cases written with
    | error err => exact .done _
    | ok known => exact (mirrored_setEnabled channel false).ask fun known => .done _

theorem mirrored_makeRoutable (channel : ChannelId) :
    Mirrored id (perform (makeRoutable channel)) (perform (makeRoutable channel)) := by
  refine (mirrored_setEnabled channel true).ask fun known => ?_
  cases known with
  | true => exact .done _
  | false =>
    change Mirrored id (perform (loadChannels >>= _)) (perform (loadChannels >>= _))
    rw [perform_bind]
    refine mirrored_loadChannels.bind fun loaded => ?_
    cases loaded with
    | error err => exact .done _
    | ok summary => exact .done _

theorem mirrored_enableChannel (channel : ChannelId) (notify : Bool) :
    Mirrored (Except.map Channel.redacted) (perform (enableChannel channel notify))
      (perform (enableChannel channel notify)) := by
  unfold enableChannel
  rw [perform_bind]
  refine (mirrored_requireChannel channel).bind fun required => ?_
  cases required with
  | error err => exact .done _
  | ok stored =>
    refine (mirrored_updateStatus channel .enabled).ask fun written => ?_
    cases written with
    | error err => exact .done _
    | ok known =>
      change Mirrored _ (perform (makeRoutable channel >>= _)) (perform (makeRoutable channel >>= _))
      rw [perform_bind, perform_bind]
      refine (mirrored_makeRoutable channel).bind fun routable => ?_
      cases routable with
      | error err => exact .done _
      | ok known =>
        cases notify with
        | false => exact .done _
        | true => exact (mirrored_notify (enabledNotice channel stored.name)).ask fun sent => .done _

end Gateway

end RelayGateway
