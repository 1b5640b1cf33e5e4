import FusionMpt.Error.Basic
import FusionMpt.Wire.LittleEndian

/-!
# Device Path Nodes

How firmware writes down where a SCSI device is: a node of eight bytes with
the kind of node, its own length, the number of the target and the number of
the logical unit.

A node is taken from the front of a run of bytes, and what follows it is not
looked at. Its length field has to admit all eight bytes but may claim more.
A run too short even for the kind and the length is refused as truncated; a
node of another kind as foreign, even if it is too short to be a SCSI node;
one that is too short, or says so, as truncated.

## Main definitions

* `DevicePath`: The target and the unit of a node.
* `DevicePath.encode`: The bytes of a node.
* `DevicePath.parse`: The node at the front of some bytes.
-/

namespace FusionMpt

open LittleEndian

/-- Where a SCSI device is, as a path node has it. -/
@[ext]
structure DevicePath where
  /-- The physical unit number, which is the target's. -/
  pun : UInt16
  lun : UInt16
deriving DecidableEq, Repr

namespace DevicePath

/-- The type of nodes that lead to a device by its messages. -/
def messagingType : UInt8 := 0x03

/-- The subtype of nodes for SCSI devices. -/
def scsiSubtype : UInt8 := 0x02

/-- The number of bytes of a node. -/
def size : Nat := 8

/-- The bytes of a node. -/
def encode (path : DevicePath) : Vector UInt8 8 :=
  #v[messagingType, scsiSubtype, octet size 0, octet size 1,
    octet path.pun.toNat 0, octet path.pun.toNat 1,
    octet path.lun.toNat 0, octet path.lun.toNat 1]

/-- The node at the front of some bytes. -/
def parse : List UInt8 → Except Error DevicePath
  | type :: subtype :: length₀ :: length₁ :: body =>
    if type ≠ messagingType ∨ subtype ≠ scsiSubtype then
      .error (.unsupported .foreignPathNode)
    else
      match body with
      | pun₀ :: pun₁ :: lun₀ :: lun₁ :: _ =>
        if (word16 length₀ length₁).toNat < size then
          .error (.invalidParameter .truncatedPathNode)
        else .ok ⟨word16 pun₀ pun₁, word16 lun₀ lun₁⟩
      | _ => .error (.invalidParameter .truncatedPathNode)
  | _ => .error (.invalidParameter .truncatedPathNode)

end DevicePath

end FusionMpt
