import FusionMpt.Wire.LittleEndian
import FusionMpt.Wire.Flags

/-!
# Scatter-Gather Elements

A simple element names one stretch of host memory: a 24-bit length and eight
flags in one 32-bit word, then a 64-bit address.

The word is shared, so the two parts can get in each other's way. Encoding
cuts the length to its 24 bits and puts the flags on top as they are; an
element whose flags reach below bit 24, or whose length reaches above it, does
not survive. Decoding drops the one bit of the upper octet that no flag names.

## Main definitions

* `ScatterFlags`: The flags of an element.
* `ScatterGather`: One element.
* `ScatterGather.lengthMask`: The bits of the word that hold the length.
* `ScatterGather.control`: The word of length and flags.
-/

namespace FusionMpt

open LittleEndian

/-- The flags of a scatter-gather element, above its 24-bit length. -/
def scatterFlagTable : FlagTable 32 where
  entries :=
    [("END_OF_LIST", 0x01000000#32),
      ("ADDRESS_64", 0x02000000#32),
      ("BUFFER_CONTAINS_DATA", 0x04000000#32),
      ("LOCAL_ADDRESS", 0x08000000#32),
      ("ELEMENT_TYPE_SIMPLE", 0x10000000#32),
      ("END_OF_BUFFER", 0x40000000#32),
      ("LAST_ELEMENT", 0x80000000#32)]

/-- The flag word of a scatter-gather element. -/
abbrev ScatterFlags := FlagSet scatterFlagTable

namespace ScatterFlags

/-- The element ends its list. -/
def endOfList : ScatterFlags := ⟨0x01000000#32⟩

/-- The address is 64 bits wide. -/
def address64 : ScatterFlags := ⟨0x02000000#32⟩

/-- The memory holds data for the device. -/
def bufferContainsData : ScatterFlags := ⟨0x04000000#32⟩

/-- The element is of the simple kind, one address and one length. -/
def simple : ScatterFlags := ⟨0x10000000#32⟩

/-- The element ends its buffer. -/
def endOfBuffer : ScatterFlags := ⟨0x40000000#32⟩

/-- No element follows. -/
def lastElement : ScatterFlags := ⟨0x80000000#32⟩

end ScatterFlags

/-- One simple scatter-gather element. -/
@[ext]
structure ScatterGather where
  length : UInt32
  flags : ScatterFlags
  address : UInt64
deriving DecidableEq

namespace ScatterGather

/-- The number of bytes of an element. -/
def size : Nat := 12

/-- The bits of the control word that hold the length. -/
def lengthMask : UInt32 := 0x00ffffff

/-- The word that holds the length and the flags. -/
def control (e : ScatterGather) : UInt32 :=
  (e.length &&& lengthMask) ||| UInt32.ofBitVec e.flags.bits

/-- The element that a control word and an address make. -/
def ofControl (word : UInt32) (address : UInt64) : ScatterGather where
  length := word &&& lengthMask
  flags := .truncate word.toBitVec
  address := address

end ScatterGather

end FusionMpt
