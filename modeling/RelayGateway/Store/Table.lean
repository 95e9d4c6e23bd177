import RelayGateway.Access.Group
import RelayGateway.Channel.Basic
import RelayGateway.ServiceError

/-! # The durable store

* `Store`: the stored channels and user groups, and whether each table can be read and written.
* `Store.fresh`: a new store; it has the group that every user is in.
* `Store.enabledChannels`, `Store.channel?`, `Store.updateStatus`, `Store.enabledGroups`: the
  operations of the gateway, each with its own error.
* `Store.putRow`, `Store.removeRow`, `Store.putGroup`: what others do to the tables.
-/

set_option autoImplicit false

namespace RelayGateway

/-- The stored tables. -/
structure Store where
  rows : List ChannelRow
  groups : List UserGroup
  channelsReadable : Bool
  channelsWritable : Bool
  groupsReadable : Bool

/-- The group that every store has from the beginning. -/
def defaultGroup : UserGroup := ⟨"default", "默认分组", .one, true, true⟩

namespace Store

def fresh : Store := ⟨[], [defaultGroup], true, true, true⟩

def unusable (detail : String) : ServiceError :=
  .database detail (some "table unavailable")

def row? (store : Store) (id : ChannelId) : Option ChannelRow :=
  store.rows.find? fun row => row.id == id

def sortedRows (store : Store) : List ChannelRow :=
  store.rows.mergeSort fun a b => a.id ≤ b.id

/-- The enabled channels in ascending order of their ids. -/
def enabledChannels (store : Store) : Except ServiceError (List Channel) :=
  if store.channelsReadable then
    .ok ((store.sortedRows.filter fun row =>
      row.statusCode == ChannelStatus.enabled.code).map Channel.ofRow)
  else .error (unusable "查询启用渠道失败")

/-- The channel with the given id, whatever its status. -/
def channel? (store : Store) (id : ChannelId) : Except ServiceError (Option Channel) :=
  if store.channelsReadable then .ok ((store.row? id).map Channel.ofRow)
  else .error (unusable s!"查询渠道 {id.toInt} 失败")

/-- Stores a status and says whether there was a row for it. A row is read before it is written. -/
def updateStatus (store : Store) (id : ChannelId) (status : ChannelStatus) :
    Except ServiceError Bool × Store :=
  if store.channelsReadable then
    if (store.row? id).isSome then
      if store.channelsWritable then
        (.ok true, { store with rows := store.rows.map fun row =>
          if row.id = id then { row with statusCode := status.code } else row })
      else (.error (unusable s!"更新渠道 {id.toInt} 状态失败"), store)
    else (.ok false, store)
  else (.error (.ofDatabase "table unavailable"), store)

def enabledGroups (store : Store) : Except ServiceError (List UserGroup) :=
  if store.groupsReadable then .ok (store.groups.filter (·.enabled))
  else .error (unusable "查询用户分组失败")

/-- Inserts a row, in the place of one with the same id. -/
def putRow (store : Store) (row : ChannelRow) : Store :=
  { store with rows := store.rows.filter (fun r => r.id != row.id) ++ [row] }

/-- Removes the row with the given id and says how many rows went. -/
def removeRow (store : Store) (id : ChannelId) : Nat × Store :=
  let kept := store.rows.filter fun row => row.id != id
  (store.rows.length - kept.length, { store with rows := kept })

/-- Inserts a group, in the place of one with the same symbol. -/
def putGroup (store : Store) (group : UserGroup) : Store :=
  { store with groups := store.groups.filter (fun g => g.symbol != group.symbol) ++ [group] }

end Store

end RelayGateway
