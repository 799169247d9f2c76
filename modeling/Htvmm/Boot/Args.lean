import Htvmm.Paging.Entry

/-!
# `BootArgs` and the VMM's physical addresses

`efi_main` (loader/src/main.rs) hands the VMM `vmm_phys_offset`, the
allocation's physical address minus `VMM_AREA_HEAD_VADDR`. The VMM turns a
pointer into the physical address the hardware needs by adding it:
`EptTable::paddr` and `VmcsRegion::paddr` convert with `try_from`, which
panics, and `VmxonRegion::paddr` with `as` casts, which wrap.

An `i64` is an `Int` in `[-2^63, 2^63)`. Both programs are built in debug
mode, where arithmetic that overflows panics.

* `paddr_eq`: for a pointer below `2^63` the three agree;
* `paddr_of_vmm_area`: all three map the VMM area onto the allocation.
-/

namespace Htvmm.Boot

open Paging

/-- `x as i64` for a `u64`: the same bits, in two's complement. -/
def asI64 (x : UInt64) : Int := if x.toNat < 2 ^ 63 then x.toNat else (x.toNat : Int) - 2 ^ 64

/-- `x as u64` for an `i64`. -/
def asU64 (x : Int) : UInt64 := UInt64.ofNat (x % 2 ^ 64).toNat

/-- `i64::try_from(x).unwrap()` for a `u64`. -/
def i64TryFrom (x : UInt64) : Option Int := if x.toNat < 2 ^ 63 then some x.toNat else none

/-- `u64::try_from(x).unwrap()` for an `i64`. -/
def u64TryFrom (x : Int) : Option UInt64 := if 0 ≤ x then some (UInt64.ofNat x.toNat) else none

/-- `a + b` on `i64`. -/
def i64Add (a b : Int) : Option Int := if -2 ^ 63 ≤ a + b ∧ a + b < 2 ^ 63 then some (a + b) else none

/-- `a - b` on `i64`. -/
def i64Sub (a b : Int) : Option Int := if -2 ^ 63 ≤ a - b ∧ a - b < 2 ^ 63 then some (a - b) else none

/-- `a + b` on `u64`. -/
def u64Add (a b : UInt64) : Option UInt64 := if a.toNat + b.toNat < 2 ^ 64 then some (a + b) else none

/-- `a - b` on `u64`. -/
def u64Sub (a b : UInt64) : Option UInt64 := if b.toNat ≤ a.toNat then some (a - b) else none

/-- `a * b` on `u64`. -/
def u64Mul (a b : UInt64) : Option UInt64 := if a.toNat * b.toNat < 2 ^ 64 then some (a * b) else none

/-- `VMM_AREA_HEAD_VADDR` (common/src/lib.rs). -/
def VMM_AREA_HEAD_VADDR : UInt64 := 0x1_0000_0000

/-- `VMM_AREA_SIZE` (common/src/lib.rs). -/
def VMM_AREA_SIZE : UInt64 := 512 * 1024 * 1024

/-- `MAX_ADDRESS` (loader/src/main.rs), the bound on every allocation. -/
def MAX_ADDRESS : UInt64 := 0x4000_0000

/-- The fields of `BootArgs` the VMM reads. -/
structure BootArgs where
  vmmPhysOffset : Int
  memorySize : UInt64

/-- `alloc_paddr as i64 - VMM_AREA_HEAD_VADDR as i64` in `efi_main`. -/
def vmmPhysOffset (allocPaddr : UInt64) : Option Int :=
  i64Sub (asI64 allocPaddr) (asI64 VMM_AREA_HEAD_VADDR)

/-- `alloc_paddr + vmm_entry_offset` in `efi_main`: the entry point the
loader gives `create_page_table`, where `vmm_entry_offset` is the
`p_offset` of the ELF's first program header. -/
def entryPoint (allocPaddr vmmEntryOffset : UInt64) : Option PhysAddr := do
  PhysAddr.new (← u64Add allocPaddr vmmEntryOffset)

/-- The body `EptTable::paddr` and `VmcsRegion::paddr` share. -/
def paddrChecked (vmmPhysOffset : Int) (ptr : UInt64) : Option PhysAddr := do
  let virt ← i64TryFrom ptr
  let phys ← u64TryFrom (← i64Add virt vmmPhysOffset)
  PhysAddr.new phys

/-- `EptTable::paddr` (vmm/src/arch/intel/ept.rs). -/
def EptTable.paddr (args : BootArgs) (ptr : UInt64) : Option PhysAddr :=
  paddrChecked args.vmmPhysOffset ptr

/-- `VmcsRegion::paddr` (vmm/src/arch/intel/vmcs.rs). -/
def VmcsRegion.paddr (args : BootArgs) (ptr : UInt64) : Option PhysAddr :=
  paddrChecked args.vmmPhysOffset ptr

/-- `VmxonRegion::paddr` (vmm/src/arch/intel/vmx.rs), which converts with
`as` where the others use `try_from`. -/
def VmxonRegion.paddr (args : BootArgs) (ptr : UInt64) : Option PhysAddr := do
  let virt := asI64 ptr
  let phys := asU64 (← i64Add virt args.vmmPhysOffset)
  PhysAddr.new phys

/-! ## Checked arithmetic -/

theorem u64Add_eq_ofNat {a b : UInt64} (h : a.toNat + b.toNat < 2 ^ 64) :
    u64Add a b = some (UInt64.ofNat (a.toNat + b.toNat)) := by
  rw [u64Add, if_pos h, UInt64.ofNat_add, UInt64.ofNat_toNat, UInt64.ofNat_toNat]

theorem u64Sub_eq_ofNat {a b : UInt64} (h : b.toNat ≤ a.toNat) :
    u64Sub a b = some (UInt64.ofNat (a.toNat - b.toNat)) := by
  rw [u64Sub, if_pos h]
  congr 1
  apply UInt64.toNat_inj.mp
  rw [UInt64.toNat_sub_of_le _ _ (UInt64.le_iff_toNat_le.mpr h), UInt64.toNat_ofNat']
  have := a.toNat_lt
  omega

theorem u64Mul_eq_ofNat {a b : UInt64} (h : a.toNat * b.toNat < 2 ^ 64) :
    u64Mul a b = some (UInt64.ofNat (a.toNat * b.toNat)) := by
  rw [u64Mul, if_pos h, UInt64.ofNat_mul, UInt64.ofNat_toNat, UInt64.ofNat_toNat]

/-- Adding a length that fits: the wrapping sum is the checked one. -/
theorem u64Add_ofNat {a : UInt64} {n : Nat} (h : a.toNat + n < 2 ^ 64) :
    u64Add a (UInt64.ofNat n) = some (a + UInt64.ofNat n) := by
  rw [u64Add, if_pos]
  rw [UInt64.toNat_ofNat', Nat.mod_eq_of_lt (by omega)]
  exact h

theorem u64Add_toNat {a b c : UInt64} (h : u64Add a b = some c) :
    c.toNat = a.toNat + b.toNat := by
  unfold u64Add at h
  split at h
  · cases h
    rw [UInt64.toNat_add]
    omega
  · cases h

theorem asU64_of_nonneg {x : Int} (h0 : 0 ≤ x) (h : x < 2 ^ 63) : (asU64 x).toNat = x.toNat := by
  unfold asU64
  rw [Int.emod_eq_of_lt h0 (by omega), UInt64.toNat_ofNat']
  omega

/-- **Where it matters the casts agree.** For a pointer below `2^63`,
`VmxonRegion::paddr` returns what the checked conversion returns: a negative
sum wraps to an address above `2^52`, where `PhysAddr::new` panics as
`u64::try_from` would. -/
theorem paddr_eq (args : BootArgs) {ptr : UInt64} (hptr : ptr.toNat < 2 ^ 63) :
    VmxonRegion.paddr args ptr = EptTable.paddr args ptr := by
  have hvirt : asI64 ptr = ptr.toNat := if_pos hptr
  simp only [VmxonRegion.paddr, EptTable.paddr, paddrChecked, i64TryFrom, hptr, if_true, hvirt,
    Option.bind_eq_bind, Option.bind_some]
  unfold i64Add
  split
  · rename_i hr
    simp only [Option.bind_some, u64TryFrom]
    split
    · rename_i h0
      rw [show asU64 (ptr.toNat + args.vmmPhysOffset) = UInt64.ofNat (ptr.toNat + args.vmmPhysOffset).toNat
        from UInt64.toNat_inj.mp (by rw [asU64_of_nonneg h0 hr.2, UInt64.toNat_ofNat']; omega)]
      rfl
    · rename_i h0
      have hbig : 2 ^ 52 ≤ (asU64 (ptr.toNat + args.vmmPhysOffset)).toNat := by
        unfold asU64
        rw [UInt64.toNat_ofNat']
        omega
      have hnone : PhysAddr.new (asU64 (ptr.toNat + args.vmmPhysOffset)) = none := dif_neg (by omega)
      simp [hnone]
  · rfl

/-- **The VMM area maps onto the allocation.** With the offset `efi_main`
computes for an allocation below `2^52`, every pointer `va` into the VMM
area converts to `alloc_paddr + (va - VMM_AREA_HEAD_VADDR)` in all three
functions. -/
theorem paddr_of_vmm_area {allocPaddr va : UInt64} {args : BootArgs}
    (halloc : allocPaddr.toNat + VMM_AREA_SIZE.toNat ≤ 2 ^ 52)
    (hoff : vmmPhysOffset allocPaddr = some args.vmmPhysOffset)
    (hva : VMM_AREA_HEAD_VADDR ≤ va ∧ va < VMM_AREA_HEAD_VADDR + VMM_AREA_SIZE) :
    ∃ p : PhysAddr, p.val.toNat = allocPaddr.toNat + (va.toNat - VMM_AREA_HEAD_VADDR.toNat) ∧
      EptTable.paddr args va = some p ∧ VmcsRegion.paddr args va = some p ∧
      VmxonRegion.paddr args va = some p := by
  have hhead : VMM_AREA_HEAD_VADDR.toNat = 2 ^ 32 := by decide
  have hsize : VMM_AREA_SIZE.toNat = 2 ^ 29 := by decide
  have hend : (VMM_AREA_HEAD_VADDR + VMM_AREA_SIZE).toNat = 2 ^ 32 + 2 ^ 29 := by decide
  have hlo := UInt64.le_iff_toNat_le.mp hva.1
  have hhi := UInt64.lt_iff_toNat_lt.mp hva.2
  rw [hhead] at hlo
  rw [hend] at hhi
  rw [hsize] at halloc
  have hasI : asI64 allocPaddr = allocPaddr.toNat := if_pos (by omega)
  have hoff' : args.vmmPhysOffset = (allocPaddr.toNat : Int) - 2 ^ 32 := by
    have hhead' : asI64 VMM_AREA_HEAD_VADDR = 2 ^ 32 := by decide
    simp only [vmmPhysOffset, i64Sub, hasI, hhead'] at hoff
    split at hoff
    · exact (Option.some.inj hoff).symm
    · cases hoff
  have hsum : (va.toNat : Int) + args.vmmPhysOffset = ((allocPaddr.toNat + (va.toNat - 2 ^ 32) : Nat) : Int) := by
    rw [hoff']
    omega
  have hlt : allocPaddr.toNat + (va.toNat - 2 ^ 32) < 2 ^ 52 := by omega
  have hval : (UInt64.ofNat (allocPaddr.toNat + (va.toNat - 2 ^ 32))).toNat =
      allocPaddr.toNat + (va.toNat - 2 ^ 32) := by
    rw [UInt64.toNat_ofNat']
    omega
  have hlt' : (UInt64.ofNat (allocPaddr.toNat + (va.toNat - 2 ^ 32))).toNat < 2 ^ 52 := by
    rw [hval]
    exact hlt
  have hept : EptTable.paddr args va = some ⟨_, hlt'⟩ := by
    simp only [EptTable.paddr, paddrChecked, i64TryFrom, show va.toNat < 2 ^ 63 by omega, if_true,
      Option.bind_eq_bind, Option.bind_some, i64Add, hsum]
    rw [if_pos (by omega), Option.bind_some, u64TryFrom, if_pos (by omega), Option.bind_some,
      Int.toNat_natCast]
    exact PhysAddr.new_of_lt _
  refine ⟨_, by rw [hval, hhead], hept, hept, ?_⟩
  rw [paddr_eq args (by omega)]
  exact hept

end Htvmm.Boot
