import Mathlib.Data.List.Nodup
import RelayGateway.Channel.Codec

/-! # Channels written and read again

* `Json.Restores`: reading gives back what was written, for the kinds of fields that a channel has.
* `Channel.members_names`, `Channel.ofJson?_toJson`: what is written of a channel, and what is read from it.
* `Channel.ofJson?_congr`: no member but those for the fields has a part in reading.
* `channel_restored`: what is read from a written channel, and what is never written.
-/

set_option autoImplicit false

namespace RelayGateway

namespace Json

variable {α : Type} {read : Json → Option α} {write : α → Json}

/-! ## Fields of each kind -/

/-- Reading gives back what was written. -/
def Restores (read : Json → Option α) (write : α → Json) : Prop :=
  ∀ value, read (write value) = some value

theorem int?_within {min max value : Int} (above : min ≤ value) (below : value ≤ max) :
    int? min max (.int value) = some value :=
  if_pos ⟨above, below⟩

theorem restores_int32 : Restores int32? fun value => .int value.toInt := by
  intro value
  rw [int32?, int?_within value.minValue_le_toInt value.toInt_le, Option.map_some, Int32.ofInt_toInt]

theorem restores_int64 : Restores int64? fun value => .int value.toInt := by
  intro value
  rw [int64?, int?_within value.minValue_le_toInt value.toInt_le, Option.map_some, Int64.ofInt_toInt]

theorem restores_uint32 : Restores uint32? fun value => .int value.toNat := by
  intro value
  have hbelow : (value.toNat : Int) ≤ maxUInt32 := Int.ofNat_le.mpr (Nat.le_of_lt_succ value.toNat_lt)
  rw [uint32?, int?_within (Int.natCast_nonneg _) hbelow, Option.map_some, Int.toNat_natCast,
    UInt32.ofNat_toNat]

theorem restores_text : Restores text? .str := fun _ => rfl

theorem restores_flag : Restores flag? .bool := fun _ => rfl

theorem restores_texts : Restores texts? ofTexts := by
  intro texts
  rw [ofTexts, texts?]
  induction texts with
  | nil => rfl
  | cons text texts ih => rw [List.map_cons, List.mapM_cons, ih, restores_text text]; rfl

theorem restores_optional : Restores (optional? text?) ofText? := by
  intro text
  cases text with
  | none => rfl
  | some text => rfl

theorem restores_status : Restores Channel.statusOfJson? fun status => .str status.name :=
  ChannelStatus.ofName?_name

/-! ## Members of a record -/

variable {members others : List (String × Json)} {name : String} {value default : α}

/-- Among members with distinct names, each is found under its own. -/
theorem field?_of_mem {content : Json} (distinct : (members.map (·.1)).Nodup)
    (h : (name, content) ∈ members) : field? members name = some content := by
  cases hfind : members.find? fun member => member.1 == name with
  | none =>
    have hmiss := List.find?_eq_none.mp hfind _ h
    simp at hmiss
  | some member =>
    have hname : member.1 = name := by simpa using List.find?_some hfind
    have hsame := List.inj_on_of_nodup_map distinct (List.mem_of_find?_eq_some hfind) h hname
    rw [field?, hfind, hsame]
    rfl

/-- Members under other names do not hide a member. -/
theorem field?_filter {names : List String} (named : name ∈ names) :
    field? (members.filter fun member => names.contains member.1) name = field? members name := by
  rw [field?, field?, List.find?_filter]
  congr 2
  funext member
  rw [Bool.eq_iff_iff, decide_eq_true_iff]
  refine ⟨fun h => h.2, fun h => ⟨?_, h⟩⟩
  rw [beq_iff_eq.mp h]
  exact List.contains_iff_mem.mpr named

theorem required?_restored (restores : Restores read write)
    (found : field? members name = some (write value)) : required? members name read = some value := by
  rw [required?, found]
  exact restores value

theorem withDefault?_restored (restores : Restores read write)
    (found : field? members name = some (write value)) :
    withDefault? members name default read = some value := by
  rw [withDefault?, found]
  exact restores value

theorem withDefault?_missing (missing : field? members name = none) :
    withDefault? members name default read = some default := by
  rw [withDefault?, missing]

end Json

namespace Channel

open Json

/-! ## A written channel -/

theorem members_names (channel : Channel) : channel.members.map (·.1) = fieldNames.erase "key" := by
  simp only [members, List.map_cons, List.map_nil]
  decide

theorem field?_members {channel : Channel} {name : String} {content : Json}
    (h : (name, content) ∈ channel.members) : field? channel.members name = some content := by
  refine field?_of_mem ?_ h
  rw [members_names]
  decide

theorem field?_key (channel : Channel) : field? channel.members "key" = none := by
  rw [field?, Option.map_eq_none_iff, List.find?_eq_none]
  intro member hmember hkey
  have hname : member.1 ∈ fieldNames.erase "key" := members_names channel ▸ List.mem_map_of_mem hmember
  rw [beq_iff_eq.mp hkey] at hname
  exact absurd hname (by decide)

/-- Written and read again, a channel has lost its key, and its vendor is the one that the number stands
for. -/
theorem ofJson?_toJson (channel : Channel) : ofJson? channel.toJson =
    some { channel with provider := .ofCode channel.provider.code, key := "" } := by
  have hid : required? channel.members "id" int32? = some channel.id :=
    required?_restored restores_int32 (field?_members (by simp [members]))
  have hname : required? channel.members "name" text? = some channel.name :=
    required?_restored restores_text (field?_members (by simp [members]))
  have hcode : required? channel.members "channel_type" int32? = some channel.provider.code :=
    required?_restored restores_int32 (field?_members (by simp [members]))
  have hkey : withDefault? channel.members "key" "" text? = some "" :=
    withDefault?_missing channel.field?_key
  have hbaseUrl : withDefault? channel.members "base_url" none (optional? text?) =
      some channel.baseUrl :=
    withDefault?_restored restores_optional (field?_members (by simp [members]))
  have hgroups : required? channel.members "groups" texts? = some channel.groups :=
    required?_restored restores_texts (field?_members (by simp [members]))
  have hmodels : required? channel.members "models" texts? = some channel.models :=
    required?_restored restores_texts (field?_members (by simp [members]))
  have hweight : required? channel.members "weight" uint32? = some channel.weight :=
    required?_restored restores_uint32 (field?_members (by simp [members]))
  have hpriority : required? channel.members "priority" int64? = some channel.priority :=
    required?_restored restores_int64 (field?_members (by simp [members]))
  have hstatus : required? channel.members "status" statusOfJson? = some channel.status :=
    required?_restored restores_status (field?_members (by simp [members]))
  have honlyChat : required? channel.members "only_chat" flag? = some channel.onlyChat :=
    required?_restored restores_flag (field?_members (by simp [members]))
  have hstream : required? channel.members "disabled_stream" texts? = some channel.disabledStream :=
    required?_restored restores_texts (field?_members (by simp [members]))
  simp only [ofJson?, toJson, members?, Option.bind_eq_bind, Option.bind_some, Option.pure_def, hid, hname,
    hcode, hkey, hbaseUrl, hgroups, hmodels, hweight, hpriority, hstatus, honlyChat, hstream]

/-! ## A channel that was read -/

/-- The vendor of a channel that was read is given by a number. -/
theorem provider_of_ofJson? {content : Json} {channel : Channel} (h : ofJson? content = some channel) :
    ∃ code, channel.provider = .ofCode code := by
  unfold ofJson? at h
  -- the members, the id and the name are read before the vendor, and nine fields after it
  iterate 3 obtain ⟨_, _, h⟩ := Option.bind_eq_some_iff.mp h
  obtain ⟨code, _, h⟩ := Option.bind_eq_some_iff.mp h
  iterate 9 obtain ⟨_, _, h⟩ := Option.bind_eq_some_iff.mp h
  exact ⟨code, congrArg Channel.provider (Option.some.inj h).symm⟩

/-- Only the members with the names of fields are read. -/
theorem ofJson?_congr {members others : List (String × Json)}
    (same : ∀ name ∈ fieldNames, field? members name = field? others name) :
    ofJson? (.obj members) = ofJson? (.obj others) := by
  simp only [fieldNames, List.forall_mem_cons] at same
  obtain ⟨hid, hname, hcode, hkey, hbaseUrl, hgroups, hmodels, hweight, hpriority, hstatus, honlyChat, hstream,
    _⟩ := same
  unfold ofJson?
  rw [members?, members?, Option.bind_eq_bind, Option.bind_some]
  unfold required? withDefault?
  rw [hid, hname, hcode, hkey, hbaseUrl, hgroups, hmodels, hweight, hpriority, hstatus, honlyChat, hstream]
  rfl

end Channel

open Json in
/-- A channel whose vendor is given by a number can be written and read again: all of it comes back but the
key, which is empty then. A written channel has a member for each field but the key, and what the key was
makes no difference to it. So, too, a channel that was read from any value is the same, up to its key, when it
is written and read again. Members that are no fields are passed over in reading. -/
theorem channel_restored :
    (∀ channel : Channel, (∃ code, channel.provider = .ofCode code) →
      Channel.ofJson? channel.toJson = some { channel with key := "" }) ∧
      (∀ channel : Channel, ∃ members, channel.toJson = .obj members ∧ field? members "key" = none ∧
        members.map (·.1) = Channel.fieldNames.erase "key" ∧
        ∀ key, { channel with key }.toJson = .obj members) ∧
      (∀ (content : Json) (channel : Channel), Channel.ofJson? content = some channel →
        Channel.ofJson? channel.toJson = some { channel with key := "" }) ∧
      ∀ members : List (String × Json),
        Channel.ofJson? (.obj (members.filter fun member => Channel.fieldNames.contains member.1)) =
          Channel.ofJson? (.obj members) := by
  have restored : ∀ channel : Channel, (∃ code, channel.provider = .ofCode code) →
      Channel.ofJson? channel.toJson = some { channel with key := "" } := by
    rintro channel ⟨code, hcode⟩
    rw [Channel.ofJson?_toJson, hcode, Provider.code_ofCode, ← hcode]
  refine ⟨restored, ?_, ?_, ?_⟩
  · intro channel
    exact ⟨channel.members, rfl, channel.field?_key, channel.members_names, fun _ => rfl⟩
  · intro content channel hread
    exact restored channel (Channel.provider_of_ofJson? hread)
  · intro members
    exact Channel.ofJson?_congr fun name hname => field?_filter hname

/-- A channel whose vendor is known only by a number, with the extreme values of its numbers. -/
def remoteChannel : Channel where
  id := -2147483648
  name := "remote"
  provider := .ofCode 99
  key := "secret"
  baseUrl := some "https://a"
  groups := ["default", "vip"]
  models := []
  weight := 4294967295
  priority := -9223372036854775808
  status := .autoDisabled
  onlyChat := true
  disabledStream := ["*"]

theorem remoteChannel_restored :
    remoteChannel.provider = .other 99 ∧
      Channel.ofJson? remoteChannel.toJson = some { remoteChannel with key := "" } ∧
      Channel.ofJson? { remoteChannel with key := "" }.toJson = some { remoteChannel with key := "" } := by
  obtain ⟨written, _, read, _⟩ := channel_restored
  have hwritten := written remoteChannel ⟨99, rfl⟩
  exact ⟨rfl, hwritten, read remoteChannel.toJson _ hwritten⟩

end RelayGateway
