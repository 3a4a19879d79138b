import ClusterProbe.Messages.Generic
import ClusterProbe.Messages.Header
import ClusterProbe.Messages.Master
import ClusterProbe.Proofs.Protobuf.Wire

/-!
# The message types in use

Every message type that is sent or received, in one list. Their layouts number their fields soundly
and nest a few levels deep; so a value of any of them is written field by field as its type declares
and read back as it was, and fields that a newer server adds, at any depth, do not change what is
read.
-/
namespace ClusterProbe

open Protobuf

structure MessageType where
  Value : Type
  [message : Message Value]

attribute [instance] MessageType.message

namespace MessageType

def rpcHeaders : List MessageType :=
  [⟨RemoteMethod⟩, ⟨RequestHeader⟩, ⟨ResponseHeader⟩, ⟨ErrorStatus⟩]

def nodes : List MessageType :=
  [⟨HostPort⟩, ⟨CloudInfo⟩, ⟨AppStatus⟩, ⟨NodeInstance⟩, ⟨ServerRegistration⟩, ⟨VersionInfo⟩,
    ⟨ServerStatus⟩]

def genericService : List MessageType :=
  [⟨PingRequest⟩, ⟨PingResponse⟩, ⟨GetStatusRequest⟩, ⟨GetStatusResponse⟩, ⟨GetFlagRequest⟩,
    ⟨GetFlagResponse⟩]

def masterService : List MessageType :=
  [⟨MasterError⟩, ⟨TsRegistration⟩, ⟨ListTabletServersRequest⟩, ⟨ListTabletServersResponse⟩,
    ⟨TabletServerEntry⟩, ⟨ListMastersRequest⟩, ⟨ListMastersResponse⟩, ⟨ServerEntry⟩,
    ⟨PlacementBlock⟩, ⟨PlacementInfo⟩, ⟨ReplicationInfo⟩, ⟨ClusterConfigEntry⟩,
    ⟨GetMasterClusterConfigRequest⟩, ⟨GetMasterClusterConfigResponse⟩]

def all : List MessageType :=
  rpcHeaders ++ nodes ++ genericService ++ masterService

def layout (T : MessageType) : Layout :=
  Message.layout T.Value

variable {T : MessageType}

theorem sound_of_mem (hT : T ∈ all) : T.layout.Sound := by
  have hall : ∀ T ∈ all, T.layout.Sound := by decide
  exact hall T hT

/-- Messages nest far less than the reader allows, so there is a level left for skipping fields. -/
theorem depth_of_mem (hT : T ∈ all) : T.layout.depth + 1 ≤ nestingBudget := by
  have hall : ∀ T ∈ all, T.layout.depth + 1 ≤ nestingBudget := by decide
  exact hall T hT

/-- What a value is written as can be read in two ways. As a message of its type, it is the value.
As fields without a type, it is what the type declares: each occurrence of each field in turn, by
number and wire type. -/
theorem round_trip (hT : T ∈ all) (m : T.Value) (hlen : (Message.encode m).length < 2 ^ 64) :
    Message.decode T.Value (Message.encode m) = .ok m ∧
      readFields (Message.encode m) = .ok (T.layout.wireFields (Message.fields m)) := by
  have hdepth : T.layout.depth ≤ nestingBudget := Nat.le_of_succ_le (depth_of_mem hT)
  constructor
  · exact Message.decode_encode (sound_of_mem hT) hdepth m hlen
  · exact (Layout.fieldsWritten_encode (sound_of_mem hT) (Message.fields m) hlen).readFields_eq

/-- A master that did not answer, with a negative counter and a role that no release declares. -/
def oddEntry : ServerEntry where
  error := some ⟨-1, some "naïve", some 0⟩
  instanceId := some ⟨[0, 255], -2, none⟩
  registration := some ⟨[⟨"", 4294967295⟩], [], none, some [], []⟩
  role := some (-3)

theorem round_trip_oddEntry :
    ⟨ServerEntry⟩ ∈ all ∧ (Message.encode oddEntry).length < 2 ^ 64 ∧
      Message.decode ServerEntry (Message.encode oddEntry) = .ok oddEntry ∧
      readFields (Message.encode oddEntry) = .ok
        [⟨1, .lengthDelimited [8, 255, 255, 255, 255, 255, 255, 255, 255, 255, 1,
            18, 6, 110, 97, 195, 175, 118, 101, 32, 0]⟩,
          ⟨2, .lengthDelimited [10, 2, 0, 255, 16, 254, 255, 255, 255, 255, 255, 255, 255, 255, 1]⟩,
          ⟨3, .lengthDelimited [10, 8, 10, 0, 16, 255, 255, 255, 255, 15, 34, 0]⟩,
          ⟨4, .varint (2 ^ 64 - 3)⟩] := by
  have hmem : ⟨ServerEntry⟩ ∈ all := by simp [all, masterService]
  have hlen : (Message.encode oddEntry).length < 2 ^ 64 := by decide +kernel
  obtain ⟨hdecode, hfields⟩ := round_trip hmem oddEntry hlen
  refine ⟨hmem, hlen, hdecode, hfields.trans (congrArg Except.ok ?_)⟩
  decide +kernel

/-- Fields that a type does not declare are skipped, in front of, between and behind those that it
does; and so, inside an embedded message, are those that its type does not declare. -/
theorem decode_among_unknown (hT : T ∈ all) (m : T.Value) {bs : Bytes}
    (hbs : T.layout.Spaced Foreign (Foreign T.layout.numbers) (Message.fields m) bs)
    (hlen : bs.length < 2 ^ 64) : Message.decode T.Value bs = .ok m :=
  Message.decode_spaced (sound_of_mem hT) (depth_of_mem hT) m hbs hlen

/-- A refusal with a text and no POSIX code. -/
def refusal : MasterError where
  code := 7
  status := some ⟨5, some "é", none⟩

/-- The refusal with a field 3 in its status, between the text and where the POSIX code would be. An
application status does not declare that number. A field 9 of eight bytes stands in front of the
whole and a field 100 of four behind it. -/
def refusalAmongUnknown : Bytes :=
  [73, 1, 2, 3, 4, 5, 6, 7, 8] ++ [8, 7] ++
    ([18, 10] ++ ([8, 5] ++ ([18, 2, 195, 169] ++ [26, 2, 8, 1])) ++ [165, 6, 0, 0, 0, 255])

theorem decode_refusalAmongUnknown :
    ⟨MasterError⟩ ∈ all ∧ Message.decode MasterError refusalAmongUnknown = .ok refusal := by
  have hmem : ⟨MasterError⟩ ∈ all := by simp [all, masterService]
  have hnothing {numbers : List Nat} : Foreign numbers [] := ⟨[], .nil, by simp⟩
  have hfront : WireField.IsWritten ⟨9, .sixtyFourBit [1, 2, 3, 4, 5, 6, 7, 8]⟩
      [73, 1, 2, 3, 4, 5, 6, 7, 8] :=
    ⟨by decide, by decide, [73], _, rfl, isVarint_singleton (b := 73) (by decide), rfl, rfl⟩
  have hinside : WireField.IsWritten ⟨3, .lengthDelimited [8, 1]⟩ [26, 2, 8, 1] :=
    ⟨by decide, by decide, [26], _, rfl, isVarint_singleton (b := 26) (by decide), [2], rfl,
      isVarint_singleton (b := 2) (by decide)⟩
  have hbehind : WireField.IsWritten ⟨100, .thirtyTwoBit [0, 0, 0, 255]⟩ [165, 6, 0, 0, 0, 255] :=
    ⟨by decide, by decide, [165, 6], _, rfl,
      ⟨.more (b := 165) (by decide) (.last (b := 6) (by decide)), by decide, by decide⟩, rfl, rfl⟩
  have hstatus : Layout.Spaced Foreign (Foreign [1, 2, 4]) (Message.layout AppStatus)
      (5, some "é", none, ()) ([8, 5] ++ ([18, 2, 195, 169] ++ [26, 2, 8, 1])) :=
    ⟨_, _, rfl, .cons (g := []) (b := [8, 5]) hnothing (by decide +kernel) .nil,
      _, _, rfl, .cons (g := []) (b := [18, 2, 195, 169]) hnothing (by decide +kernel) .nil,
      [], [26, 2, 8, 1], rfl, .nil, _, .cons (b := [26, 2, 8, 1]) hinside .nil, by decide⟩
  have hwhole : Layout.Spaced Foreign (Foreign [1, 2]) (Message.layout MasterError)
      (Message.fields refusal) refusalAmongUnknown := by
    refine ⟨_, _, rfl, .cons (g := [73, 1, 2, 3, 4, 5, 6, 7, 8]) (b := [8, 7]) ?_ ?_ .nil, ?_⟩
    · exact ⟨_, .cons hfront .nil, by decide⟩
    · decide +kernel
    refine ⟨_, _, rfl, .cons (g := []) hnothing
      (b := [18, 10] ++ ([8, 5] ++ ([18, 2, 195, 169] ++ [26, 2, 8, 1]))) ?_ .nil, ?_⟩
    · exact ⟨_, hstatus, by decide +kernel⟩
    · exact ⟨_, .cons hbehind .nil, by decide⟩
  exact ⟨hmem, decode_among_unknown hmem refusal hwhole (by decide)⟩

end MessageType
end ClusterProbe
