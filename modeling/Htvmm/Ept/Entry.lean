import Htvmm.Paging.Entry

/-!
# EPT entries and the EPT pointer

`EptTableEntry` and `EptPointer` (ept.rs) are one word each, with the same
four accessors: `addr()` reads bits 51:12, `flags()` truncates the word to the
declared flags, and each setter rebuilds the whole word from the other
field's getter. `Tagged` is that shared code over the bits of the flag type;
its laws hold because every declared flag, the multi-bit memory types and
bits 57-63 included, lies outside bits 51:12.
-/

namespace Htvmm.Ept

open Word Paging

/-! The accessors `EptTableEntry` and `EptPointer` share, for a flag type
whose declared flags have the bits `all`. -/

namespace Tagged

variable {all : UInt64}

def flags (all raw : UInt64) : Flags all := Flags.fromBitsTruncate raw

def addr (raw : UInt64) : PhysAddr := addrOf raw

/-- `self.0 = self.addr().as_u64() | flags.bits()`. -/
def setFlags (raw : UInt64) (f : Flags all) : UInt64 := (addr raw).val ||| f.bits

/-- `self.0 = paddr.as_u64() | self.flags().bits()`. -/
def setAddr (all : UInt64) (raw : UInt64) (p : PhysAddr) : UInt64 :=
  p.val ||| (flags all raw).bits

section
variable (hd : addrMask &&& all = 0) {p : PhysAddr} (hp : p.val.toNat % 4096 = 0)
include hd

theorem addr_setAddr (raw : UInt64) (hp : p.val.toNat % 4096 = 0) :
    addr (setAddr all raw p) = p :=
  PhysAddr.ext (or_and_left hd (within_addrMask hp) (and_within raw all))

theorem flags_setAddr (raw : UInt64) (hp : p.val.toNat % 4096 = 0) :
    flags all (setAddr all raw p) = flags all raw :=
  Flags.ext (or_and_right hd (within_addrMask hp) (and_within raw all))

theorem flags_setFlags (raw : UInt64) (f : Flags all) : flags all (setFlags raw f) = f :=
  Flags.ext (or_and_right hd (and_within raw addrMask) f.within)

theorem addr_setFlags (raw : UInt64) (f : Flags all) : addr (setFlags raw f) = addr raw :=
  PhysAddr.ext (or_and_left hd (and_within raw addrMask) f.within)

/-- Each setter keeps the other field, so the order of the two writes does
not matter. -/
theorem setAddr_setFlags (raw : UInt64) (f : Flags all) (hp : p.val.toNat % 4096 = 0) :
    setAddr all (setFlags raw f) p = setFlags (setAddr all raw p) f := by
  unfold setAddr setFlags
  rw [← setFlags, flags_setFlags hd, ← setAddr, addr_setAddr hd raw hp]

/-- A second `set_addr` overrides the first. -/
theorem setAddr_setAddr (raw : UInt64) {q : PhysAddr} (hp : p.val.toNat % 4096 = 0) :
    setAddr all (setAddr all raw p) q = setAddr all raw q := by
  show q.val ||| (flags all (setAddr all raw p)).bits = q.val ||| (flags all raw).bits
  rw [flags_setAddr hd raw hp]

/-- A second `set_flags` overrides the first. -/
theorem setFlags_setFlags (raw : UInt64) (f g : Flags all) :
    setFlags (setFlags raw f) g = setFlags raw g := by
  show (addr (setFlags raw f)).val ||| g.bits = (addr raw).val ||| g.bits
  rw [addr_setFlags hd raw f]

end

end Tagged

/-- The bits of `EptPointerFlags`: `MEMORY_TYPE_UNCACHEABLE = 0`,
`MEMORY_TYPE_WRITEBACK = 6`, `PAGE_WALK_LENGTH_4 = 0b011 << 3`,
`ACCESSED_AND_DIRTY = 1 << 6`, `SUPERVISOR_SHADOW_STACK = 1 << 7`. -/
def eptPointerFlagBits : UInt64 :=
  (0 : UInt64) ||| (6 : UInt64) ||| ((0b011 : UInt64) <<< 3) ||| ((1 : UInt64) <<< 6) |||
    ((1 : UInt64) <<< 7)

abbrev EptPointerFlags := Flags eptPointerFlagBits

namespace EptPointerFlags

def MEMORY_TYPE_WRITEBACK : EptPointerFlags := ⟨(6 : UInt64), by decide⟩
def PAGE_WALK_LENGTH_4 : EptPointerFlags := ⟨(0b011 : UInt64) <<< 3, by decide⟩

end EptPointerFlags

/-- The bits of `EptTableFlags`, its seventeen constants in declaration
order: the access bits 2:0, the memory types `0`, `1`, `4`, `5`, `6` in
bits 5:3, bits 6 to 10, and bits 57, 58, 60 and 63. -/
def eptTableFlagBits : UInt64 :=
  ((1 : UInt64) <<< 0) ||| ((1 : UInt64) <<< 1) ||| ((1 : UInt64) <<< 2) |||
    ((0 : UInt64) <<< 3) ||| ((1 : UInt64) <<< 3) ||| ((4 : UInt64) <<< 3) |||
    ((5 : UInt64) <<< 3) ||| ((6 : UInt64) <<< 3) ||| ((1 : UInt64) <<< 6) |||
    ((1 : UInt64) <<< 7) ||| ((1 : UInt64) <<< 8) ||| ((1 : UInt64) <<< 9) |||
    ((1 : UInt64) <<< 10) ||| ((1 : UInt64) <<< 57) ||| ((1 : UInt64) <<< 58) |||
    ((1 : UInt64) <<< 60) ||| ((1 : UInt64) <<< 63)

abbrev EptTableFlags := Flags eptTableFlagBits

namespace EptTableFlags

def READ_ACCESS : EptTableFlags := ⟨(1 : UInt64) <<< 0, by decide⟩
def WRITE_ACCESS : EptTableFlags := ⟨(1 : UInt64) <<< 1, by decide⟩
def EXECUTE_ACCESS : EptTableFlags := ⟨(1 : UInt64) <<< 2, by decide⟩
def MEMORY_TYPE_WB : EptTableFlags := ⟨(6 : UInt64) <<< 3, by decide⟩
def HUGE_PAGE : EptTableFlags := ⟨(1 : UInt64) <<< 7, by decide⟩

end EptTableFlags

theorem addrMask_and_eptPointerFlagBits : addrMask &&& eptPointerFlagBits = 0 := by decide

theorem addrMask_and_eptTableFlagBits : addrMask &&& eptTableFlagBits = 0 := by decide

/-- `EptPointer(u64)`. -/
structure EptPointer where
  raw : UInt64
  deriving DecidableEq

namespace EptPointer

def new : EptPointer := ⟨0⟩
def flags (e : EptPointer) : EptPointerFlags := Tagged.flags _ e.raw
def setFlags (e : EptPointer) (f : EptPointerFlags) : EptPointer := ⟨Tagged.setFlags e.raw f⟩
def addr (e : EptPointer) : PhysAddr := Tagged.addr e.raw
def setAddr (e : EptPointer) (p : PhysAddr) : EptPointer :=
  ⟨Tagged.setAddr eptPointerFlagBits e.raw p⟩
def asU64 (e : EptPointer) : UInt64 := e.raw

end EptPointer

/-- `EptTableEntry(u64)`. -/
structure EptTableEntry where
  raw : UInt64
  deriving DecidableEq

namespace EptTableEntry

def flags (e : EptTableEntry) : EptTableFlags := Tagged.flags _ e.raw
def setFlags (e : EptTableEntry) (f : EptTableFlags) : EptTableEntry :=
  ⟨Tagged.setFlags e.raw f⟩
def addr (e : EptTableEntry) : PhysAddr := Tagged.addr e.raw
def setAddr (e : EptTableEntry) (p : PhysAddr) : EptTableEntry :=
  ⟨Tagged.setAddr eptTableFlagBits e.raw p⟩

end EptTableEntry

/-- **The setters of both EPT words are lawful.** For every raw word of an
`EptTableEntry` or an `EptPointer`, every 4 KiB-aligned `p` below `2^52` and
every flag set: `set_addr` sets the address and keeps the flags, `set_flags`
sets the flags and keeps the address, the two commute, and each is
idempotent. -/
theorem ept_setters_lawful (e : EptTableEntry) (f : EptTableFlags) (ptr : EptPointer)
    (g : EptPointerFlags) (p : PhysAddr) (hp : p.val.toNat % 4096 = 0) :
    ((e.setAddr p).addr = p ∧ (e.setAddr p).flags = e.flags ∧
      (e.setFlags f).flags = f ∧ (e.setFlags f).addr = e.addr ∧
      (e.setFlags f).setAddr p = (e.setAddr p).setFlags f ∧
      (e.setAddr p).setAddr p = e.setAddr p ∧ (e.setFlags f).setFlags f = e.setFlags f) ∧
    ((ptr.setAddr p).addr = p ∧ (ptr.setAddr p).flags = ptr.flags ∧
      (ptr.setFlags g).flags = g ∧ (ptr.setFlags g).addr = ptr.addr ∧
      (ptr.setFlags g).setAddr p = (ptr.setAddr p).setFlags g ∧
      (ptr.setAddr p).setAddr p = ptr.setAddr p ∧ (ptr.setFlags g).setFlags g = ptr.setFlags g) := by
  have ht := addrMask_and_eptTableFlagBits
  have hq := addrMask_and_eptPointerFlagBits
  refine ⟨⟨?_, ?_, ?_, ?_, ?_, ?_, ?_⟩, ⟨?_, ?_, ?_, ?_, ?_, ?_, ?_⟩⟩
  · exact Tagged.addr_setAddr ht e.raw hp
  · exact Tagged.flags_setAddr ht e.raw hp
  · exact Tagged.flags_setFlags ht e.raw f
  · exact Tagged.addr_setFlags ht e.raw f
  · exact congrArg EptTableEntry.mk (Tagged.setAddr_setFlags ht e.raw f hp)
  · exact congrArg EptTableEntry.mk (Tagged.setAddr_setAddr ht e.raw hp)
  · exact congrArg EptTableEntry.mk (Tagged.setFlags_setFlags ht e.raw f f)
  · exact Tagged.addr_setAddr hq ptr.raw hp
  · exact Tagged.flags_setAddr hq ptr.raw hp
  · exact Tagged.flags_setFlags hq ptr.raw g
  · exact Tagged.addr_setFlags hq ptr.raw g
  · exact congrArg EptPointer.mk (Tagged.setAddr_setFlags hq ptr.raw g hp)
  · exact congrArg EptPointer.mk (Tagged.setAddr_setAddr hq ptr.raw hp)
  · exact congrArg EptPointer.mk (Tagged.setFlags_setFlags hq ptr.raw g g)

theorem ept_setters_lawful_at_page :
    (0x1000 : UInt64).toNat % 4096 = 0 ∧
      ((EptTableEntry.mk 0xffff_ffff_ffff_ffff).setAddr ⟨0x1000, by decide⟩).addr =
        ⟨0x1000, by decide⟩ :=
  ⟨by decide, (ept_setters_lawful ⟨0xffff_ffff_ffff_ffff⟩ EptTableFlags.READ_ACCESS EptPointer.new
    EptPointerFlags.MEMORY_TYPE_WRITEBACK ⟨0x1000, by decide⟩ (by decide)).1.1⟩

end Htvmm.Ept
