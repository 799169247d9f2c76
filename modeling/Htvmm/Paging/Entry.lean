import Htvmm.Word.Field

/-!
# Physical addresses and page-table entries

The `x86_64` crate's `PhysAddr`, `PageTableFlags` and `PageTableEntry`, as
that crate documents them. A `PhysAddr` never has bits 63:52 set; an entry
keeps its frame address in bits 51:12 and its flags in the bits around them.
Panics are `none`.
-/

namespace Paging

open Word

/-- Bits 51:12: the address field of a table entry. -/
def addrMask : UInt64 := 0x000f_ffff_ffff_f000

/-- A physical address: bits 63:52 are clear. -/
structure PhysAddr where
  val : UInt64
  valid : val.toNat < 2 ^ 52
  deriving DecidableEq

namespace PhysAddr

@[ext] theorem ext {p q : PhysAddr} (h : p.val = q.val) : p = q := by
  cases p; cases q; cases h; rfl

/-- `PhysAddr::new`, which panics when a bit above 51 is set. -/
def new (a : UInt64) : Option PhysAddr :=
  if h : a.toNat < 2 ^ 52 then some ⟨a, h⟩ else none

def zero : PhysAddr := ⟨0, by decide⟩

/-- `PhysAddr + u64`: the sum goes through `PhysAddr::new`, and a sum past
`u64` overflows first; either way it panics. -/
def add (p : PhysAddr) (off : UInt64) : Option PhysAddr :=
  if p.val.toNat + off.toNat < 2 ^ 64 then new (p.val + off) else none

theorem new_of_lt {a : UInt64} (h : a.toNat < 2 ^ 52) : new a = some ⟨a, h⟩ := by
  unfold new
  rw [dif_pos h]

theorem add_val {p : PhysAddr} {off : UInt64} {q : PhysAddr} (h : p.add off = some q) :
    q.val.toNat = p.val.toNat + off.toNat := by
  unfold add new at h
  split at h
  · rename_i hlt
    split at h
    · cases h
      simp only [UInt64.toNat_add]
      omega
    · cases h
  · cases h

theorem add_of_lt {p : PhysAddr} {off : UInt64} (h : p.val.toNat + off.toNat < 2 ^ 52) :
    ∃ q, p.add off = some q ∧ q.val.toNat = p.val.toNat + off.toNat := by
  have h64 : p.val.toNat + off.toNat < 2 ^ 64 := by omega
  have hsum : (p.val + off).toNat = p.val.toNat + off.toNat := by
    simp only [UInt64.toNat_add]; omega
  refine ⟨⟨p.val + off, by omega⟩, ?_, hsum⟩
  simp only [add, h64, if_true]
  exact new_of_lt _

end PhysAddr

theorem and_addrMask_lt (x : UInt64) : (x &&& addrMask).toNat < 2 ^ 52 := by
  have h : (x &&& addrMask).toNat ≤ addrMask.toNat := by
    rw [UInt64.toNat_and]; exact Nat.and_le_right
  have hm : addrMask.toNat < 2 ^ 52 := by decide
  omega

/-- The address field of a raw entry, `PhysAddr::new(entry & 0x000f_ffff_ffff_f000)`. -/
def addrOf (x : UInt64) : PhysAddr := ⟨x &&& addrMask, and_addrMask_lt x⟩

/-- A 4 KiB-aligned address below `2^52` is all address field. -/
theorem within_addrMask {p : PhysAddr} (h : p.val.toNat % 4096 = 0) : Within p.val addrMask := by
  apply eq_of_testBit
  intro i
  have hmask : addrMask.toNat = (2 ^ 40 - 1) * 2 ^ 12 := by decide
  have hlow : i < 12 → p.val.toNat.testBit i = false := by
    intro hi
    have hbit := Nat.testBit_mod_two_pow p.val.toNat 12 i
    rw [show p.val.toNat % 2 ^ 12 = 0 by omega, Nat.zero_testBit] at hbit
    simpa [hi] using hbit.symm
  have hhigh : 52 ≤ i → p.val.toNat.testBit i = false := fun hi =>
    Nat.testBit_lt_two_pow (lt_of_lt_of_le p.valid (Nat.pow_le_pow_right (by decide) hi))
  rw [UInt64.toNat_and, Nat.testBit_and, hmask, Nat.testBit_mul_two_pow,
    Nat.testBit_two_pow_sub_one]
  by_cases h1 : i < 12
  · simp [hlow h1]
  · by_cases h2 : 52 ≤ i
    · simp [hhigh h2]
    · have hmid : 12 ≤ i ∧ i - 12 < 40 := by omega
      simp [hmid]

/-- The bits of `PageTableFlags`: bits 11:0 and 63:52. -/
def pageTableFlagBits : UInt64 := 0xfff0_0000_0000_0fff

/-- `PageTableFlags`. -/
abbrev PageTableFlags := Flags pageTableFlagBits

namespace PageTableFlags

def PRESENT : PageTableFlags := ⟨(1 : UInt64) <<< 0, by decide⟩
def WRITABLE : PageTableFlags := ⟨(1 : UInt64) <<< 1, by decide⟩
def HUGE_PAGE : PageTableFlags := ⟨(1 : UInt64) <<< 7, by decide⟩
def GLOBAL : PageTableFlags := ⟨(1 : UInt64) <<< 8, by decide⟩

end PageTableFlags

theorem addrMask_and_pageTableFlagBits : addrMask &&& pageTableFlagBits = 0 := by decide

/-- A `PageTableEntry`: one raw word. -/
structure PageTableEntry where
  entry : UInt64
  deriving DecidableEq

namespace PageTableEntry

/-- `is_unused`: the word is zero. -/
def isUnused (e : PageTableEntry) : Bool := e.entry == 0

def flags (e : PageTableEntry) : PageTableFlags := Flags.fromBitsTruncate e.entry

def addr (e : PageTableEntry) : PhysAddr := addrOf e.entry

/-- `set_addr(addr, flags)`, which asserts that `addr` is 4 KiB aligned. -/
def setAddr (a : PhysAddr) (f : PageTableFlags) : Option PageTableEntry :=
  if a.val.toNat % 4096 = 0 then some ⟨a.val ||| f.bits⟩ else none

theorem setAddr_of_aligned {a : PhysAddr} (h : a.val.toNat % 4096 = 0) (f : PageTableFlags) :
    setAddr a f = some ⟨a.val ||| f.bits⟩ := by
  simp [setAddr, h]

/-- An entry written by `set_addr` has the address and flags it was given. -/
theorem addr_flags_setAddr {a : PhysAddr} (h : a.val.toNat % 4096 = 0) (f : PageTableFlags) :
    (PageTableEntry.mk (a.val ||| f.bits)).addr = a ∧
      (PageTableEntry.mk (a.val ||| f.bits)).flags = f := by
  constructor
  · exact PhysAddr.ext (or_and_left addrMask_and_pageTableFlagBits (within_addrMask h) f.within)
  · exact Flags.ext (or_and_right addrMask_and_pageTableFlagBits (within_addrMask h) f.within)

end PageTableEntry

end Paging
