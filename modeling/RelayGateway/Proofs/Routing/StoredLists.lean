import RelayGateway.Proofs.Routing.Table
import RelayGateway.Proofs.Text.Lists

/-! # Names from stored lists

* `Text.rejoined`: the items of a list with nothing but commas between them.
* `Channel.Itemized`: the groups and models of a channel are items. So they are if it was read from the store
  (`Channel.ofRow_itemized`), and then its names are listed as they are (`Itemized.listedGroups`).
* `Snapshot.verbatim`, `Snapshot.build_itemized`: a table of such channels needs no trimming.
* `lists_faithful`: what lists in texts promise, and what the routing table makes of them.
-/

set_option autoImplicit false

namespace RelayGateway

/-- The items of a list in a text with nothing but commas between them. -/
def Text.rejoined (text : String) : String := ",".intercalate (splitList text)

theorem Text.splitList_rejoined (text : String) : splitList (rejoined text) = splitList text :=
  splitList_intercalate fun _ => isItem_of_mem_splitList

namespace Channel

/-- The groups and models of a channel are items of lists. -/
structure Itemized (channel : Channel) : Prop where
  groups : ∀ group ∈ channel.groups, Text.IsItem group
  models : ∀ model ∈ channel.models, Text.IsItem model

theorem ofRow_itemized (row : ChannelRow) : (ofRow row).Itemized :=
  ⟨fun _ => Text.isItem_of_mem_splitList, fun _ => Text.isItem_of_mem_splitList⟩

/-- Trimming items and dropping blank ones leaves them all as they are. -/
theorem trimmed_items {names : List String} (h : ∀ name ∈ names, Text.IsItem name) :
    (names.map Text.trim).filter (fun name => name != "") = names := by
  have htrim : names.map Text.trim = names := by
    rw [List.map_congr_left fun name hname => (h name hname).trimmed, List.map_id']
  rw [htrim, List.filter_eq_self]
  exact fun name hname => bne_iff_ne.mpr (h name hname).nonempty

variable {channel : Channel}

theorem Itemized.listedGroups (h : channel.Itemized) : channel.listedGroups = channel.groups :=
  trimmed_items h.groups

theorem Itemized.listedModels (h : channel.Itemized) : channel.listedModels = channel.models :=
  trimmed_items h.models

theorem Itemized.isListed (h : channel.Itemized) (group model : String) :
    channel.isListed group model = (channel.servesGroup group && channel.models.contains model) := by
  rw [Channel.isListed, h.listedGroups, h.listedModels, servesGroup, List.contains_eq_any_beq]
  simp only [Bool.beq_comm]

end Channel

namespace Snapshot

variable {channels : List Channel} {defaultWeight : UInt32}

/-- The table that channels have if their names are taken as they stand, without trimming them or dropping
the blank ones. -/
def verbatim (channels : List Channel) (defaultWeight : UInt32) : Snapshot :=
  Draft.finish <| channels.foldl (fun draft channel =>
    if channel.status = .enabled then
      draft.enrol (withWeight defaultWeight channel) channel.groups channel.models
    else draft) .empty

theorem build_itemized (h : ∀ channel ∈ channels, channel.Itemized) :
    build channels defaultWeight = verbatim channels defaultWeight := by
  refine congrArg Draft.finish (List.foldl_ext _ _ _ fun draft channel hchannel => ?_)
  have hitems := h channel hchannel
  simp only [Draft.add, withWeight_listedGroups, withWeight_listedModels, hitems.listedGroups,
    hitems.listedModels]

end Snapshot

/-- A comma between two texts joins their lists. What stands in a list is not empty, has no comma in it and
no blanks around it, and any list of such items is read back from the items joined by commas. So joining the
items of a list again changes neither the list nor, done once more, the text. The groups and models of a
stored channel are such items: the routing table lists them under the names that the channel has, and it is
the table of these names as they stand. -/
theorem lists_faithful :
    (∀ a b : String, Text.splitList (a ++ "," ++ b) = Text.splitList a ++ Text.splitList b) ∧
      (∀ text : String, ∀ item ∈ Text.splitList text,
        item ≠ "" ∧ ',' ∉ item.toList ∧ Text.trim item = item) ∧
      (∀ items : List String,
        (∀ item ∈ items, item ≠ "" ∧ ',' ∉ item.toList ∧ Text.trim item = item) →
        Text.splitList (",".intercalate items) = items) ∧
      (∀ text : String, Text.splitList (Text.rejoined text) = Text.splitList text ∧
        Text.rejoined (Text.rejoined text) = Text.rejoined text) ∧
      (∀ row : ChannelRow, (Channel.ofRow row).listedGroups = (Channel.ofRow row).groups ∧
        (Channel.ofRow row).listedModels = (Channel.ofRow row).models ∧
        ∀ group model, (Channel.ofRow row).isListed group model =
          ((Channel.ofRow row).servesGroup group && (Channel.ofRow row).models.contains model)) ∧
      ∀ (rows : List ChannelRow) (defaultWeight : UInt32),
        Snapshot.build (rows.map Channel.ofRow) defaultWeight =
          Snapshot.verbatim (rows.map Channel.ofRow) defaultWeight := by
  refine ⟨Text.splitList_append, ?_, ?_, ?_, ?_, ?_⟩
  · intro text item hitem
    have h := Text.isItem_of_mem_splitList hitem
    exact ⟨h.nonempty, h.commaFree, h.trimmed⟩
  · intro items hitems
    apply Text.splitList_intercalate
    intro item hitem
    obtain ⟨nonempty, commaFree, trimmed⟩ := hitems item hitem
    exact ⟨nonempty, commaFree, trimmed⟩
  · intro text
    have hlist := Text.splitList_rejoined text
    exact ⟨hlist, congrArg (",".intercalate ·) hlist⟩
  · intro row
    have h := Channel.ofRow_itemized row
    exact ⟨h.listedGroups, h.listedModels, h.isListed⟩
  · intro rows defaultWeight
    apply Snapshot.build_itemized
    intro channel hchannel
    obtain ⟨row, _, rfl⟩ := List.mem_map.mp hchannel
    exact Channel.ofRow_itemized row

/-- Blanks and empty items in a stored list go; what is left is read back from its own text. -/
theorem paddedNames_faithful :
    Text.splitList " default , vip,," = ["default", "vip"] ∧
      Text.splitList (",".intercalate ["default", "vip"]) = ["default", "vip"] ∧
      Text.rejoined " default , vip,," = "default,vip" := by
  obtain ⟨_, items, restored, _⟩ := lists_faithful
  have hlist : Text.splitList " default , vip,," = ["default", "vip"] := by decide +kernel
  have hitems := items " default , vip,,"
  rw [hlist] at hitems
  exact ⟨hlist, restored ["default", "vip"] hitems, by decide +kernel⟩

end RelayGateway
