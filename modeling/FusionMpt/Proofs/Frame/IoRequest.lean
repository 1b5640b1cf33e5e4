import FusionMpt.Transfer.Placement

/-!
# What the Adapter Reads from a Frame

The adapter gets the 60 bytes of a frame and reads its fields from them. It
finds those that were written, with one exception: the element's length and
flags share a word, and what comes back of them is what the word holds. The
address of the element has a word of its own and always survives.

The command block is padded with zeros to its sixteen bytes, and the length
beside it says how many of them count. For a command that fits they are the
command.

## Theorems

* `IoRequest.decode_encode`: What the adapter reads from a frame.
* `IoRequest.command_ofPacket`: The command it finds there.
-/

namespace FusionMpt

open LittleEndian

namespace IoRequest

theorem extract_lun_encode (r : IoRequest) : r.encode.extract 12 20 = r.lun := by
  apply Vector.ext
  intro i hi
  rw [Vector.getElem_extract]
  rcases (by omega : i = 0 ∨ i = 1 ∨ i = 2 ∨ i = 3 ∨ i = 4 ∨ i = 5 ∨ i = 6 ∨ i = 7) with
    rfl | rfl | rfl | rfl | rfl | rfl | rfl | rfl <;> rfl

theorem extract_cdb_encode (r : IoRequest) : r.encode.extract 24 40 = r.cdb := by
  apply Vector.ext
  intro i hi
  rw [Vector.getElem_extract]
  rcases (by omega : i = 0 ∨ i = 1 ∨ i = 2 ∨ i = 3 ∨ i = 4 ∨ i = 5 ∨ i = 6 ∨ i = 7 ∨ i = 8 ∨
      i = 9 ∨ i = 10 ∨ i = 11 ∨ i = 12 ∨ i = 13 ∨ i = 14 ∨ i = 15) with
    rfl | rfl | rfl | rfl | rfl | rfl | rfl | rfl | rfl | rfl | rfl | rfl | rfl | rfl | rfl | rfl
      <;> rfl

theorem decode_encode (r : IoRequest) :
    decode r.encode = { r with sg := .ofControl r.sg.control r.sg.address } := by
  -- the bytes are where the decoder looks for them; what is left is joining words
  have hcontrol : word32At r.encode 48 = r.sg.control := word32_octet r.sg.control
  have haddress : word64At r.encode 52 = r.sg.address := word64_octet r.sg.address
  unfold decode
  rw [hcontrol, haddress, extract_lun_encode, extract_cdb_encode]
  ext1
  · rfl
  · rfl
  · rfl
  · rfl
  · rfl
  · rfl
  · rfl
  · exact word32_octet r.messageContext
  · rfl
  · exact congrArg TransferControl.mk (word32_octet r.control.word)
  · rfl
  · exact word32_octet r.dataLength
  · exact word32_octet r.senseLowAddress
  · rfl

-- The bytes of a padded command that count.
theorem take_padCommand {cdb : List UInt8} (h : cdb.length ≤ 16) :
    (padCommand cdb).toList.take cdb.length = cdb := by
  apply List.ext_getElem
  · rw [List.length_take, Vector.length_toList]
    omega
  · intro i hi hi'
    rw [List.getElem_take, Vector.getElem_toList]
    unfold padCommand
    rw [Vector.getElem_ofFn, List.getD_eq_getElem?_getD, List.getElem?_eq_getElem hi']
    rfl

/-- A command that fits is what the adapter finds in the frame. -/
theorem command_ofPacket {region : Region} {target : Target} {lun : UInt64} {p : Packet}
    (h : p.cdb.length ≤ 16) : (ofPacket region target lun p).command = p.cdb := by
  -- a command of sixteen bytes at most has a length that eight bits hold
  have hlength : (UInt8.ofNat p.cdb.length).toNat = p.cdb.length := by
    rw [UInt8.toNat_ofNat']
    omega
  change (padCommand p.cdb).toList.take (UInt8.ofNat p.cdb.length).toNat = p.cdb
  rw [hlength, take_padCommand h]

end IoRequest

end FusionMpt
