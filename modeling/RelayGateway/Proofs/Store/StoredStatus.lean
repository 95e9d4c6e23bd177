import RelayGateway.Proofs.Routing.Table
import RelayGateway.Store.Table

/-! # The stored status of a channel

* `Store.isEnabled`: whether the store keeps a channel as enabled.
* `Store.Usable`: the store can be read and written, and ids are its primary key.
* `updateStatus_eq`, `isEnabled_updateStatus`: what a write of a status does.
* `Store.status?`: the stored status of a channel.
* `enabledChannels_iff`: the enabled channels are those that the store keeps as enabled.
-/

set_option autoImplicit false

namespace RelayGateway

theorem ChannelStatus.ofCode_eq_enabled (code : Int32) :
    ofCode code = .enabled ↔ code = ChannelStatus.enabled.code := by
  by_cases h : code = 1
  · simp [ofCode, h, ChannelStatus.code]
  · have hne : ofCode code ≠ .enabled := by
      unfold ofCode
      rw [if_neg h]
      split
      · decide
      · split <;> decide
    exact ⟨fun heq => absurd heq hne, fun heq => absurd heq h⟩

namespace Store

/-- Whether the stored status of a channel is that of an enabled one. -/
def isEnabled (store : Store) (id : ChannelId) : Bool :=
  match store.channel? id with
  | .ok (some channel) => channel.status == .enabled
  | _ => false

structure Usable (store : Store) : Prop where
  readable : store.channelsReadable = true
  writable : store.channelsWritable = true
  distinct : (store.rows.map (·.id)).Nodup

variable {store : Store} {id : ChannelId} {status : ChannelStatus}

theorem channel?_eq (usable : store.Usable) (id : ChannelId) :
    store.channel? id = .ok ((store.row? id).map Channel.ofRow) := by
  rw [channel?, if_pos usable.readable]

theorem channel?_eq_ok {channel : Channel} : store.channel? id = .ok (some channel) ↔
    store.channelsReadable = true ∧ ∃ row, store.row? id = some row ∧ Channel.ofRow row = channel := by
  unfold channel?
  split
  · rename_i readable
    rw [Except.ok.injEq, Option.map_eq_some_iff]
    exact (and_iff_right readable).symm
  · rename_i unreadable
    exact ⟨nofun, fun h => absurd h.1 unreadable⟩

theorem row?_eq_some (usable : store.Usable) {row : ChannelRow} :
    store.row? id = some row ↔ row ∈ store.rows ∧ row.id = id :=
  find?_id_eq_some usable.distinct

theorem row?_isSome (store : Store) (id : ChannelId) :
    (store.row? id).isSome = true ↔ id ∈ store.rows.map (·.id) := by
  simp [row?, List.find?_isSome]

theorem known_of_row? {row : ChannelRow} (h : store.row? id = some row) :
    id ∈ store.rows.map (·.id) := by
  rw [← row?_isSome, h]
  rfl

theorem isEnabled_iff (usable : store.Usable) (id : ChannelId) :
    store.isEnabled id = true ↔
      ∃ row ∈ store.rows, row.id = id ∧ row.statusCode = ChannelStatus.enabled.code := by
  rw [isEnabled, channel?_eq usable]
  constructor
  · intro h
    cases hrow : store.row? id with
    | none =>
      rw [hrow] at h
      cases h
    | some row =>
      rw [hrow] at h
      obtain ⟨hmem, hid⟩ := (row?_eq_some usable).mp hrow
      refine ⟨row, hmem, hid, (ChannelStatus.ofCode_eq_enabled _).mp ?_⟩
      simpa [Channel.ofRow] using h
  · rintro ⟨row, hmem, hid, hstatus⟩
    rw [(row?_eq_some usable).mpr ⟨hmem, hid⟩]
    simpa [Channel.ofRow] using (ChannelStatus.ofCode_eq_enabled _).mpr hstatus

/-! ## Writing a status -/

/-- The row with another status if it has the id. -/
def restatus (id : ChannelId) (status : ChannelStatus) (row : ChannelRow) : ChannelRow :=
  if row.id = id then { row with statusCode := status.code } else row

theorem restatus_id (id : ChannelId) (status : ChannelStatus) (row : ChannelRow) :
    (restatus id status row).id = row.id := by
  unfold restatus
  split <;> rfl

theorem updateStatus_written (readable : store.channelsReadable = true)
    (writable : store.channelsWritable = true) (known : (store.row? id).isSome = true) :
    store.updateStatus id status =
      (.ok true, { store with rows := store.rows.map (restatus id status) }) := by
  unfold updateStatus
  rw [if_pos readable, if_pos known, if_pos writable]
  rfl

theorem updateStatus_eq (usable : store.Usable) (known : id ∈ store.rows.map (·.id)) :
    store.updateStatus id status =
      (.ok true, { store with rows := store.rows.map (restatus id status) }) :=
  updateStatus_written usable.readable usable.writable ((row?_isSome store id).mpr known)

theorem row?_restatus (store : Store) (id other : ChannelId) (status : ChannelStatus) :
    row? { store with rows := store.rows.map (restatus id status) } other =
      (store.row? other).map (restatus id status) := by
  rw [row?, row?, List.find?_map]
  congr 2
  funext row
  rw [Function.comp_apply, restatus_id]

/-- The channel of a row that was written has the new status, and is the same otherwise. -/
theorem ofRow_restatus {row : ChannelRow} (own : row.id = id) (status : ChannelStatus) :
    Channel.ofRow (restatus id status row) = { Channel.ofRow row with status } := by
  rw [restatus, if_pos own]
  simp only [Channel.ofRow, ChannelStatus.ofCode_code]

theorem updateStatus_reply (usable : store.Usable) (known : id ∈ store.rows.map (·.id))
    (status : ChannelStatus) : (store.updateStatus id status).1 = .ok true := by
  rw [updateStatus_eq usable known]

theorem updateStatus_unknown (usable : store.Usable) (unknown : id ∉ store.rows.map (·.id)) :
    store.updateStatus id status = (.ok false, store) := by
  rw [updateStatus, if_pos usable.readable, if_neg]
  rw [row?_isSome]
  exact unknown

theorem restatus_ids (store : Store) (id : ChannelId) (status : ChannelStatus) :
    (store.rows.map (restatus id status)).map (·.id) = store.rows.map (·.id) := by
  rw [List.map_map]
  exact List.map_congr_left fun row _ => restatus_id id status row

theorem usable_updateStatus (usable : store.Usable) (known : id ∈ store.rows.map (·.id)) :
    (store.updateStatus id status).2.Usable := by
  rw [updateStatus_eq usable known]
  refine ⟨usable.readable, usable.writable, ?_⟩
  show ((store.rows.map (restatus id status)).map (·.id)).Nodup
  rw [restatus_ids]
  exact usable.distinct

theorem isEnabled_updateStatus (usable : store.Usable) (known : id ∈ store.rows.map (·.id))
    (other : ChannelId) :
    (store.updateStatus id status).2.isEnabled other =
      if other = id then status == .enabled else store.isEnabled other := by
  have usable' : (store.updateStatus id status).2.Usable := usable_updateStatus usable known
  rw [Bool.eq_iff_iff, isEnabled_iff usable', updateStatus_eq usable known]
  simp only [List.mem_map, exists_exists_and_eq_and, restatus_id]
  split
  · rename_i heq
    subst heq
    constructor
    · rintro ⟨row, _, hid, hstatus⟩
      rw [restatus, if_pos hid] at hstatus
      have := congrArg ChannelStatus.ofCode hstatus
      rw [ChannelStatus.ofCode_code, ChannelStatus.ofCode_code] at this
      simp [this]
    · intro h
      obtain ⟨row, hrow, hid⟩ := List.mem_map.mp known
      refine ⟨row, hrow, hid, ?_⟩
      rw [restatus, if_pos hid, beq_iff_eq.mp h]
  · rename_i hne
    rw [isEnabled_iff usable]
    constructor
    · rintro ⟨row, hrow, hid, hstatus⟩
      rw [restatus, if_neg (fun h => hne (hid.symm.trans h))] at hstatus
      exact ⟨row, hrow, hid, hstatus⟩
    · rintro ⟨row, hrow, hid, hstatus⟩
      refine ⟨row, hrow, hid, ?_⟩
      rw [restatus, if_neg (fun h => hne (hid.symm.trans h))]
      exact hstatus

/-! ## The status itself -/

/-- The stored status of a channel, if the store has the channel. -/
def status? (store : Store) (id : ChannelId) : Option ChannelStatus :=
  (store.row? id).map fun row => .ofCode row.statusCode

theorem isEnabled_eq (usable : store.Usable) (id : ChannelId) :
    store.isEnabled id = (store.status? id == some .enabled) := by
  rw [isEnabled, channel?_eq usable, status?]
  cases store.row? id <;> rfl

theorem status?_isSome (store : Store) (id : ChannelId) :
    (store.status? id).isSome = true ↔ id ∈ store.rows.map (·.id) := by
  rw [status?, Option.isSome_map, row?_isSome]

theorem status?_of_row? {row : ChannelRow} (h : store.row? id = some row) :
    store.status? id = some (Channel.ofRow row).status := by
  rw [status?, h]
  rfl

theorem isEnabled_of_status? (usable : store.Usable) (h : store.status? id = some status) :
    store.isEnabled id = (status == .enabled) := by
  rw [isEnabled_eq usable, h]
  rfl

theorem known_of_status? (h : store.status? id = some status) : id ∈ store.rows.map (·.id) := by
  rw [← status?_isSome, h]
  rfl

theorem status?_updateStatus (usable : store.Usable) (known : id ∈ store.rows.map (·.id))
    (other : ChannelId) :
    (store.updateStatus id status).2.status? other =
      if other = id then some status else store.status? other := by
  rw [updateStatus_eq usable known, status?, row?_restatus, Option.map_map, status?]
  cases hfound : store.row? other with
  | none =>
    have hne : other ≠ id := by
      rintro rfl
      have hsome := (row?_isSome store other).mpr known
      rw [hfound] at hsome
      cases hsome
    rw [if_neg hne]
    rfl
  | some row =>
    have hid : row.id = other := ((row?_eq_some usable).mp hfound).2
    dsimp only [Option.map_some, Function.comp]
    unfold restatus
    rw [hid]
    split
    · rw [ChannelStatus.ofCode_code]
    · rfl

/-- A write leaves the other channels, and the store in order. -/
theorem updateStatus_frame (usable : store.Usable) :
    (store.updateStatus id status).2.Usable ∧ ∀ other, other ≠ id →
      (store.updateStatus id status).2.status? other = store.status? other := by
  by_cases known : id ∈ store.rows.map (·.id)
  · refine ⟨usable_updateStatus usable known, fun other hne => ?_⟩
    rw [status?_updateStatus usable known, if_neg hne]
  · rw [updateStatus_unknown usable known]
    exact ⟨usable, fun _ _ => rfl⟩

/-! ## Reading the enabled channels -/

theorem enabledChannels_eq (usable : store.Usable) :
    store.enabledChannels = .ok ((store.sortedRows.filter fun row =>
      row.statusCode == ChannelStatus.enabled.code).map Channel.ofRow) := by
  rw [enabledChannels, if_pos usable.readable]

theorem enabledChannels_iff (usable : store.Usable) {channels : List Channel}
    (h : store.enabledChannels = .ok channels) (id : ChannelId) :
    store.isEnabled id = true ↔ ∃ channel ∈ channels, channel.status = .enabled ∧ channel.id = id := by
  rw [enabledChannels_eq usable] at h
  cases h
  rw [isEnabled_iff usable]
  simp only [List.mem_map, List.mem_filter, sortedRows, List.mem_mergeSort, beq_iff_eq]
  constructor
  · rintro ⟨row, hrow, hid, hstatus⟩
    exact ⟨Channel.ofRow row, ⟨row, ⟨hrow, hstatus⟩, rfl⟩,
      (ChannelStatus.ofCode_eq_enabled _).mpr hstatus, hid⟩
  · rintro ⟨_, ⟨row, ⟨hrow, hstatus⟩, rfl⟩, _, hid⟩
    exact ⟨row, hrow, hid, hstatus⟩

end Store

end RelayGateway
