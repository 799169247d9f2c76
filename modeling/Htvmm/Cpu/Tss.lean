import Htvmm.Asm.X86
import Htvmm.Word.Field

/-!
# The VMM's TSS descriptor

`set_vmm_tss64` (vmm/src/entry.s) scatters the address of `vmm_tss64` into
the base fields of GDT entries 8 and 9, the 16-byte TSS descriptor that
`entry` then loads into TR with selector `0x40`. `SegmentDescriptor::base`
(vmm/src/cpu.rs) assembles the base again from the GDT, for the `HostTrBase`
that `setup_host_state_area` writes.

* `SegmentDescriptor.base_eq`: `SegmentDescriptor::base` reads a descriptor's
  base as the processor does (`descriptorBase`), whatever the GDT holds;
* `set_vmm_tss64` stores the TSS address there and changes nothing else.
-/

namespace Htvmm.Cpu

open X86 Word

/-- The body of `set_vmm_tss64`, with `vmm_tss64` at `tss` and `vmm_gdt` at
`gdt`. -/
def scatterTssBase (tss gdt : UInt64) : List Instr :=
  [.xor .rcx .rcx,
    .lea .rax tss,
    .lea .rdx gdt,
    .mov ⟨.rcx, .w⟩ ⟨.rax, .w⟩,
    .store ⟨.rcx, .w⟩ .rdx 0x42,
    .shr .rax 16,
    .mov ⟨.rcx, .w⟩ ⟨.rax, .w⟩,
    .store ⟨.rcx, .l⟩ .rdx 0x44,
    .store ⟨.rcx, .h⟩ .rdx 0x47,
    .shr .rax 16,
    .mov ⟨.rcx, .d⟩ ⟨.rax, .d⟩,
    .store ⟨.rcx, .d⟩ .rdx 0x48]

/-- `set_vmm_tss64`: the body between the pushes and pops of the registers
it uses; its `ret` ends the run. -/
def setVmmTss64 (tss gdt : UInt64) : List Instr :=
  [.push .rax, .push .rcx, .push .rdx] ++ scatterTssBase tss gdt ++ [.pop .rdx, .pop .rcx, .pop .rax]

/-- `SegmentSelector::index`: bits 15:3 of the selector. -/
def SegmentSelector.index (sel : UInt16) : Nat := (sel >>> 3).toNat

/-- `SegmentDescriptor::base`, on the GDT `sgdt` gives: `gdt_limit` quadwords
from `gdtBase` as a slice, whose index past the end panics. -/
def SegmentDescriptor.base (sel : UInt16) (gdtBase : Nat) (gdtLimit : UInt16) (mem : Mem) :
    Option UInt64 :=
  let i := SegmentSelector.index sel
  if i + 1 < gdtLimit.toNat then
    let segmentDescriptor := mem.load64 (gdtBase + 8 * i)
    let segmentDescriptorHigh := mem.load64 (gdtBase + 8 * (i + 1))
    some (((segmentDescriptorHigh &&& (0xffff_ffff : UInt64)) <<< (32 : UInt64)) |||
      ((segmentDescriptor &&& ((0xff : UInt64) <<< 56)) >>> (32 : UInt64)) |||
      ((segmentDescriptor &&& ((0xff : UInt64) <<< 32)) >>> (16 : UInt64)) |||
      ((segmentDescriptor &&& ((0xffff : UInt64) <<< 16)) >>> (16 : UInt64)))
  else none

/-- The selector `entry` loads into TR: `8 << 3`. -/
def vmmTr : UInt16 := (8 : UInt16) <<< 3

/-- `vmm_gdt_end - vmm_gdt`, the limit `init_vmm_regs` gives the GDT: twelve
descriptors. -/
def vmmGdtLimit : UInt16 := 12 * 8

/-- The base of the 16-byte system descriptor at `d`, as the processor
assembles it: bits 15:0 from bytes 2-3, bits 23:16 from byte 4, bits 31:24
from byte 7 and bits 63:32 from bytes 8-11. -/
def descriptorBase (mem : Mem) (d : Nat) : Nat :=
  mem.load (d + 2) 2 + 2 ^ 16 * mem.load (d + 4) 1 + 2 ^ 24 * mem.load (d + 7) 1 +
    2 ^ 32 * mem.load (d + 8) 4

/-! ## Reading the base -/

/-- The four terms of `SegmentDescriptor::base` take disjoint bits: bytes
2-3, 4 and 7 of the low quadword and bytes 0-3 of the high one. -/
theorem base_formula_toNat (lo hi : UInt64) :
    (((hi &&& (0xffff_ffff : UInt64)) <<< (32 : UInt64)) |||
      ((lo &&& ((0xff : UInt64) <<< 56)) >>> (32 : UInt64)) |||
      ((lo &&& ((0xff : UInt64) <<< 32)) >>> (16 : UInt64)) |||
      ((lo &&& ((0xffff : UInt64) <<< 16)) >>> (16 : UInt64))).toNat =
    lo.toNat / 2 ^ 16 % 2 ^ 16 + 2 ^ 16 * (lo.toNat / 2 ^ 32 % 2 ^ 8) +
      2 ^ 24 * (lo.toNat / 2 ^ 56 % 2 ^ 8) + 2 ^ 32 * (hi.toNat % 2 ^ 32) := by
  have t1 : ((hi &&& (0xffff_ffff : UInt64)) <<< (32 : UInt64)).toNat = hi.toNat % 2 ^ 32 * 2 ^ 32 := by
    rw [UInt64.toNat_shiftLeft, UInt64.toNat_and, show (0xffff_ffff : UInt64).toNat = 2 ^ 32 - 1 by decide,
      Nat.and_two_pow_sub_one_eq_mod, show (32 : UInt64).toNat % 64 = 32 by decide, Nat.shiftLeft_eq]
    omega
  have t2 : ((lo &&& ((0xff : UInt64) <<< 56)) >>> (32 : UInt64)).toNat =
      lo.toNat / 2 ^ 56 % 2 ^ 8 * 2 ^ 24 := by
    rw [UInt64.toNat_shiftRight, UInt64.toNat_and,
      show ((0xff : UInt64) <<< 56).toNat = (2 ^ 8 - 1) * 2 ^ 56 by decide, and_mask_shift,
      show (32 : UInt64).toNat % 64 = 32 by decide, Nat.shiftRight_eq_div_pow]
    omega
  have t3 : ((lo &&& ((0xff : UInt64) <<< 32)) >>> (16 : UInt64)).toNat =
      lo.toNat / 2 ^ 32 % 2 ^ 8 * 2 ^ 16 := by
    rw [UInt64.toNat_shiftRight, UInt64.toNat_and,
      show ((0xff : UInt64) <<< 32).toNat = (2 ^ 8 - 1) * 2 ^ 32 by decide, and_mask_shift,
      show (16 : UInt64).toNat % 64 = 16 by decide, Nat.shiftRight_eq_div_pow]
    omega
  have t4 : ((lo &&& ((0xffff : UInt64) <<< 16)) >>> (16 : UInt64)).toNat = lo.toNat / 2 ^ 16 % 2 ^ 16 := by
    rw [UInt64.toNat_shiftRight, UInt64.toNat_and,
      show ((0xffff : UInt64) <<< 16).toNat = (2 ^ 16 - 1) * 2 ^ 16 by decide, and_mask_shift,
      show (16 : UInt64).toNat % 64 = 16 by decide, Nat.shiftRight_eq_div_pow]
    omega
  rw [UInt64.toNat_or, UInt64.toNat_or, UInt64.toNat_or, t1, t2, t3, t4,
    or_eq_add (x := hi.toNat % 2 ^ 32 * 2 ^ 32) 32 (by omega) (by omega),
    or_eq_add (y := lo.toNat / 2 ^ 32 % 2 ^ 8 * 2 ^ 16) 24 (by omega) (by omega),
    or_eq_add (y := lo.toNat / 2 ^ 16 % 2 ^ 16) 16 (by omega) (by omega)]
  omega

/-- **`SegmentDescriptor::base` reads the base as the processor does**, for
every content of the GDT, when the descriptor's two quadwords are within the
limit. -/
theorem SegmentDescriptor.base_eq (sel : UInt16) (gdtBase : Nat) (gdtLimit : UInt16) (mem : Mem)
    (h : SegmentSelector.index sel + 1 < gdtLimit.toNat) :
    SegmentDescriptor.base sel gdtBase gdtLimit mem =
      some (UInt64.ofNat (descriptorBase mem (gdtBase + 8 * SegmentSelector.index sel))) := by
  simp only [SegmentDescriptor.base, if_pos h, Option.some.injEq]
  rw [show gdtBase + 8 * (SegmentSelector.index sel + 1) = gdtBase + 8 * SegmentSelector.index sel + 8
    by omega]
  generalize gdtBase + 8 * SegmentSelector.index sel = d
  apply UInt64.toNat_inj.mp
  have f2 := Mem.load_field mem d (i := 2) (j := 2) (n := 8) (by omega)
  have f4 := Mem.load_field mem d (i := 4) (j := 1) (n := 8) (by omega)
  have f7 := Mem.load_field mem d (i := 7) (j := 1) (n := 8) (by omega)
  have f8 := Mem.load_field mem (d + 8) (i := 0) (j := 4) (n := 8) (by omega)
  have hb : descriptorBase mem d < 2 ^ 64 := by
    have := Mem.load_lt mem (d + 2) 2
    have := Mem.load_lt mem (d + 4) 1
    have := Mem.load_lt mem (d + 7) 1
    have := Mem.load_lt mem (d + 8) 4
    simp only [descriptorBase, Nat.reducePow] at *
    omega
  rw [base_formula_toNat, Mem.load64_toNat, Mem.load64_toNat, UInt64.toNat_ofNat',
    Nat.mod_eq_of_lt hb, descriptorBase, ← f2, ← f4, ← f7, ← f8]
  simp only [Nat.reducePow, Nat.pow_zero, Nat.div_one]

/-! ## `set_vmm_tss64` -/

/-- The base of the system descriptor at `d` set to `v`, in the pieces that
`descriptorBase` reads. -/
def setDescriptorBase (mem : Mem) (d v : Nat) : Mem :=
  (((mem.store (d + 2) (v % 2 ^ 16) 2).store (d + 4) (v / 2 ^ 16 % 2 ^ 8) 1).store (d + 7)
    (v / 2 ^ 24 % 2 ^ 8) 1).store (d + 8) (v / 2 ^ 32 % 2 ^ 32) 4

theorem descriptorBase_setDescriptorBase (mem : Mem) (d v : Nat) (hv : v < 2 ^ 64) :
    descriptorBase (setDescriptorBase mem d v) d = v := by
  have l2 : (setDescriptorBase mem d v).load (d + 2) 2 = v % 2 ^ 16 := by
    rw [setDescriptorBase, Mem.load_store_of_disjoint _ (by omega), Mem.load_store_of_disjoint _ (by omega),
      Mem.load_store_of_disjoint _ (by omega), Mem.load_store]
    omega
  have l4 : (setDescriptorBase mem d v).load (d + 4) 1 = v / 2 ^ 16 % 2 ^ 8 := by
    rw [setDescriptorBase, Mem.load_store_of_disjoint _ (by omega), Mem.load_store_of_disjoint _ (by omega),
      Mem.load_store]
    omega
  have l7 : (setDescriptorBase mem d v).load (d + 7) 1 = v / 2 ^ 24 % 2 ^ 8 := by
    rw [setDescriptorBase, Mem.load_store_of_disjoint _ (by omega), Mem.load_store]
    omega
  have l8 : (setDescriptorBase mem d v).load (d + 8) 4 = v / 2 ^ 32 % 2 ^ 32 := by
    rw [setDescriptorBase, Mem.load_store]
    omega
  rw [descriptorBase, l2, l4, l7, l8]
  omega

theorem setDescriptorBase_of_not_mem (mem : Mem) (d v x : Nat) (h1 : x < d + 2 ∨ d + 5 ≤ x)
    (h2 : x < d + 7 ∨ d + 12 ≤ x) : setDescriptorBase mem d v x = mem x := by
  rw [setDescriptorBase, Mem.store_of_not_mem (by omega), Mem.store_of_not_mem (by omega),
    Mem.store_of_not_mem (by omega), Mem.store_of_not_mem (by omega)]

/-- The body writes the base of `tss` into the descriptor at byte `0x40` of
the GDT, and changes no register but `%rax`, `%rcx` and `%rdx`. -/
theorem run_scatterTssBase (tss gdt : UInt64) (t : Machine) (hgdt : gdt.toNat + 0x4c ≤ 2 ^ 64) :
    (∀ r, r ≠ .rax → r ≠ .rcx → r ≠ .rdx → (run (scatterTssBase tss gdt) t).regs r = t.regs r) ∧
    (run (scatterTssBase tss gdt) t).mem = setDescriptorBase t.mem (gdt.toNat + 0x40) tss.toNat := by
  constructor
  · intro r h1 h2 h3
    simp [scatterTssBase, Instr.eval, Machine.write, Machine.set, Function.update_of_ne, h1, h2, h3]
  · simp [scatterTssBase, Instr.eval, Machine.write, Machine.read, Machine.set, Width.read, Width.write,
      Width.bytes, setDescriptorBase]
    have a2 : (gdt.toNat + 66) % 18446744073709551616 = gdt.toNat + 64 + 2 := by omega
    have a4 : (gdt.toNat + 68) % 18446744073709551616 = gdt.toNat + 64 + 4 := by omega
    have a7 : (gdt.toNat + 71) % 18446744073709551616 = gdt.toNat + 64 + 7 := by omega
    have a8 : (gdt.toNat + 72) % 18446744073709551616 = gdt.toNat + 64 + 8 := by omega
    have low : ∀ (x : Nat) (k : Nat), x &&& (2 ^ k - 1) = x % 2 ^ k := Nat.and_two_pow_sub_one_eq_mod
    have e1 : tss.toNat &&& 65535 = tss.toNat % 65536 := low _ 16
    have e0 : tss.toNat &&& 65535 &&& 18446744073709486080 = 0 := by
      rw [Nat.and_assoc, show (65535 &&& 18446744073709486080 : Nat) = 0 by decide, Nat.and_zero]
    have e2 : tss.toNat >>> 16 &&& 65535 = tss.toNat / 65536 % 65536 := by
      rw [Nat.shiftRight_eq_div_pow]
      exact low _ 16
    have e3 : tss.toNat >>> 16 >>> 16 &&& 4294967295 = tss.toNat / 4294967296 % 4294967296 := by
      rw [Nat.shiftRight_eq_div_pow, Nat.shiftRight_eq_div_pow, Nat.div_div_eq_div_mul]
      exact low _ 32
    have l8 : ∀ x : Nat, x &&& 255 = x % 256 := fun x => low x 8
    have b2 : tss.toNat / 65536 % 65536 % 256 = tss.toNat / 65536 % 256 := by omega
    have b3 : tss.toNat / 65536 % 65536 / 2 ^ 8 % 256 = tss.toNat / 16777216 % 256 := by omega
    rw [a2, a4, a7, a8, e0, Nat.zero_or, e1, e2, e3, Nat.shiftRight_eq_div_pow, l8, l8, b2, b3]

/-- **`set_vmm_tss64` sets the base of the TSS descriptor.** With the GDT below
the top of the address space and the stack outside it, `SegmentDescriptor::base`
for the selector `entry` loads into TR reads back the address of the TSS; no
byte but the descriptor's base bytes and the three stack slots changes, and
every register is as before. -/
theorem set_vmm_tss64_sets_tr_base (tss gdt : UInt64) (s : Machine)
    (hgdt : gdt.toNat + 0x60 ≤ 2 ^ 64) (hsp : 24 ≤ (s.regs .rsp).toNat)
    (hstack : (s.regs .rsp).toNat ≤ gdt.toNat ∨ gdt.toNat + 0x60 + 24 ≤ (s.regs .rsp).toNat) :
    SegmentDescriptor.base vmmTr gdt.toNat vmmGdtLimit (run (setVmmTss64 tss gdt) s).mem = some tss ∧
    (∀ x, (x < gdt.toNat + 0x42 ∨ gdt.toNat + 0x45 ≤ x) → (x < gdt.toNat + 0x47 ∨ gdt.toNat + 0x4c ≤ x) →
      (x < (s.regs .rsp).toNat - 24 ∨ (s.regs .rsp).toNat ≤ x) →
      (run (setVmmTss64 tss gdt) s).mem x = s.mem x) ∧
    (run (setVmmTss64 tss gdt) s).regs = s.regs := by
  have hrun : setVmmTss64 tss gdt =
      [Reg.rax, .rcx, .rdx].map .push ++ scatterTssBase tss gdt ++ [Reg.rax, .rcx, .rdx].reverse.map .pop :=
    rfl
  obtain ⟨-, hpushRegs, hpushMem, -⟩ := run_pushes [.rax, .rcx, .rdx] s (by decide) (by simpa using hsp)
  obtain ⟨hbodyRegs, hbodyMem⟩ := run_scatterTssBase tss gdt (run ([Reg.rax, .rcx, .rdx].map .push) s)
    (by omega)
  obtain ⟨hmem, hregs⟩ := run_saved [.rax, .rcx, .rdx] (scatterTssBase tss gdt) s (by decide) (by decide)
    (by simpa using hsp) (hbodyRegs .rsp (by decide) (by decide) (by decide))
    (fun x h1 h2 => by
      rw [hbodyMem]
      simp only [List.length_cons, List.length_nil] at h1
      exact setDescriptorBase_of_not_mem _ _ _ _ (by omega) (by omega))
  rw [hrun, hmem]
  refine ⟨?_, fun x h1 h2 h3 => ?_, funext fun r => ?_⟩
  · rw [SegmentDescriptor.base_eq _ _ _ _ (by decide), show SegmentSelector.index vmmTr = 8 by decide,
      show gdt.toNat + 8 * 8 = gdt.toNat + 0x40 from rfl, hbodyMem,
      descriptorBase_setDescriptorBase _ _ _ tss.toNat_lt, UInt64.ofNat_toNat]
  · rw [hbodyMem, setDescriptorBase_of_not_mem _ _ _ _ (by omega) (by omega)]
    exact hpushMem x (by simpa using h3)
  · rw [hregs r]
    split_ifs with hr
    · rfl
    · simp only [List.mem_cons, List.not_mem_nil, or_false, not_or] at hr
      obtain ⟨hrsp, hrax, hrcx, hrdx⟩ := hr
      rw [hbodyRegs r hrax hrcx hrdx, hpushRegs r hrsp]

theorem set_vmm_tss64_sets_tr_base_at_low_stack :
    (0x2000 : UInt64).toNat + 0x60 ≤ 2 ^ 64 ∧
    SegmentDescriptor.base vmmTr (0x2000 : UInt64).toNat vmmGdtLimit
      (run (setVmmTss64 0x1000 0x2000) ⟨fun r => if r = .rsp then 0x8000 else 0, fun _ => 0⟩).mem =
        some 0x1000 :=
  ⟨by decide, (set_vmm_tss64_sets_tr_base 0x1000 0x2000 _ (by decide) (by decide) (by decide)).1⟩

end Htvmm.Cpu
