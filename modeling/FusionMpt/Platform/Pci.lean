import FusionMpt.Wire.Flags

/-!
# PCI Functions

What is known of a PCI function before any register of it is touched: which
device it is, and which attributes its slot is switched to.

The supported devices are those of one vendor that speak the protocol of this
library; every other identity is refused, also that of another vendor which
happens to use the same device number.

## Main definitions

* `PciIdentity`: Vendor and device numbers.
* `PciIdentity.isSupported`: The function speaks the protocol.
* `PciAttributes`: The switches of a function, a flag word.
-/

namespace FusionMpt

/-- The numbers by which a PCI function says what it is. -/
structure PciIdentity where
  vendor : UInt16
  device : UInt16
deriving DecidableEq, Repr

namespace PciIdentity

/-- The vendor of the supported adapters. -/
def lsiLogic : UInt16 := 0x1000

/-- The parallel SCSI adapter 53C1030. -/
def lsi53c1030 : UInt16 := 0x0030

/-- The serial SCSI adapter SAS1068. -/
def sas1068 : UInt16 := 0x0054

/-- The serial SCSI adapter SAS1068E. -/
def sas1068e : UInt16 := 0x0058

/-- The function is one of the supported adapters. -/
def isSupported (id : PciIdentity) : Bool :=
  id.vendor = lsiLogic ∧ (id.device = lsi53c1030 ∨ id.device = sas1068 ∨ id.device = sas1068e)

end PciIdentity

/-- The attributes of a PCI function that the library has names for. -/
def pciAttributeTable : FlagTable 64 where
  entries :=
    [("IO", 0x0100#64),
      ("MEMORY", 0x0200#64),
      ("BUS_MASTER", 0x0400#64),
      ("DUAL_ADDRESS_CYCLE", 0x8000#64)]

/-- The attributes of a PCI function. A platform may keep others than the named
    ones in the same word. -/
abbrev PciAttributes := FlagSet pciAttributeTable

namespace PciAttributes

/-- The function answers to I/O cycles. -/
def io : PciAttributes := ⟨0x0100#64⟩

/-- The function may start transfers itself. -/
def busMaster : PciAttributes := ⟨0x0400#64⟩

/-- The function may be given 64-bit addresses. -/
def dualAddressCycle : PciAttributes := ⟨0x8000#64⟩

end PciAttributes

end FusionMpt
