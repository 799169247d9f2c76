import Htvmm.Paging.Walk

/-!
# The software walk of the guest's page tables

`guest_virt_to_guest_phys` (cpu.rs) walks the guest's IA-32e tables to find
the guest-physical address of a guest-virtual one; `handle_vmexit` decodes the
exiting instruction there. `translate .ia32e` is the walk the processor does.

* `guestVirtToGuestPhys_eq`: the code in the walk's terms;
* `guestVirtToGuestPhys_of_walk`: wherever the processor's walk reaches a
  leaf through tables at nonzero addresses below `2^47`, the code returns the leaf's frame
  plus the offset bits its mask keeps (`maskBits`);
* `guestVirtToGuestPhys_eq_translate`: so the two agree when the leaf entry
  has no address bits below its page size and, for a 1 GiB page, bit 29 of
  the address is clear;
* `guestVirtToGuestPhys_giant`: otherwise a 1 GiB page loses bit 29, since
  its offset mask is 29 bits wide where the page has 30.
-/

namespace Htvmm.Cpu

open Word Paging

/-- `(ptr as *mut PageTable).as_mut().unwrap()` and the reads through it: a
table at address 0 is a null pointer, and unwrapping it panics; the address is
used as a host virtual one, so a page-aligned table from `2^47` up is at a
non-canonical address, and reading it faults. -/
def tableAt (p : PhysAddr) : Option Nat :=
  if p.val.toNat = 0 then none else if 2 ^ 47 ≤ p.val.toNat then none else some p.val.toNat

/-- `guest_virt_to_guest_phys`. Guest-physical memory is read at the same
host address. -/
def guestVirtToGuestPhys (mem : Tables) (guestVirt guestCr3 : UInt64) : Option PhysAddr := do
  let pml4Index := ((guestVirt >>> 39) &&& 0b1_1111_1111).toNat
  let pdpIndex := ((guestVirt >>> 30) &&& 0b1_1111_1111).toNat
  let pdIndex := ((guestVirt >>> 21) &&& 0b1_1111_1111).toNat
  let ptIndex := ((guestVirt >>> 12) &&& 0b1_1111_1111).toNat
  let guestPml4Phys ← PhysAddr.new (guestCr3 &&& ~~~0b1111_1111_1111)
  let guestPml4 ← tableAt guestPml4Phys
  let guestPml4Entry : PageTableEntry := ⟨mem guestPml4 pml4Index⟩
  if !guestPml4Entry.flags.contains PageTableFlags.PRESENT then return PhysAddr.zero
  let guestPdp ← tableAt guestPml4Entry.addr
  let guestPdpEntry : PageTableEntry := ⟨mem guestPdp pdpIndex⟩
  if !guestPdpEntry.flags.contains PageTableFlags.PRESENT then return PhysAddr.zero
  if guestPdpEntry.flags.contains PageTableFlags.HUGE_PAGE then
    let pdpOffset := guestVirt &&& 0b1_1111_1111_1111_1111_1111_1111_1111
    return ← guestPdpEntry.addr.add pdpOffset
  let guestPd ← tableAt guestPdpEntry.addr
  let guestPdEntry : PageTableEntry := ⟨mem guestPd pdIndex⟩
  if !guestPdEntry.flags.contains PageTableFlags.PRESENT then return PhysAddr.zero
  if guestPdEntry.flags.contains PageTableFlags.HUGE_PAGE then
    let pdOffset := guestVirt &&& 0b1_1111_1111_1111_1111_1111
    return ← guestPdEntry.addr.add pdOffset
  let guestPt ← tableAt guestPdEntry.addr
  let guestPtEntry : PageTableEntry := ⟨mem guestPt ptIndex⟩
  let ptOffset := guestVirt &&& 0b1111_1111_1111
  guestPtEntry.addr.add ptOffset

/-! ## The code's bit operations, read as the walk's -/

theorem index_of_shift (va s : UInt64) (hs : s.toNat < 64) :
    ((va >>> s) &&& 0b1_1111_1111).toNat = va.toNat / 2 ^ s.toNat % 512 := by
  have h9 : (0b1_1111_1111 : UInt64).toNat = 2 ^ 9 - 1 := by decide
  rw [UInt64.toNat_and, UInt64.toNat_shiftRight, Nat.mod_eq_of_lt hs, h9,
    Nat.and_two_pow_sub_one_eq_mod, Nat.shiftRight_eq_div_pow]

theorem pml4Index_eq (va : UInt64) : ((va >>> 39) &&& 0b1_1111_1111).toNat = index va 4 :=
  index_of_shift va 39 (by decide)

theorem pdpIndex_eq (va : UInt64) : ((va >>> 30) &&& 0b1_1111_1111).toNat = index va 3 :=
  index_of_shift va 30 (by decide)

theorem pdIndex_eq (va : UInt64) : ((va >>> 21) &&& 0b1_1111_1111).toNat = index va 2 :=
  index_of_shift va 21 (by decide)

theorem ptIndex_eq (va : UInt64) : ((va >>> 12) &&& 0b1_1111_1111).toNat = index va 1 :=
  index_of_shift va 12 (by decide)

theorem and_low_bits (va m : UInt64) {k : Nat} (hm : m.toNat = 2 ^ k - 1) :
    (va &&& m).toNat = va.toNat % 2 ^ k := by
  rw [UInt64.toNat_and, hm, Nat.and_two_pow_sub_one_eq_mod]

/-- Below `2^52`, clearing the low twelve bits is masking with bits 51:12. -/
theorem pml4Phys_eq {cr3 : UInt64} (h : cr3.toNat < 2 ^ 52) :
    PhysAddr.new (cr3 &&& ~~~0b1111_1111_1111) = some (addrOf cr3) := by
  have hm : cr3 &&& ~~~0b1111_1111_1111 = cr3 &&& addrMask := by
    apply eq_of_testBit
    intro i
    have hmask : addrMask.toNat = (2 ^ 40 - 1) * 2 ^ 12 := by decide
    have hnot : (~~~(0b1111_1111_1111 : UInt64)).toNat = 2 ^ 64 - 2 ^ 12 := by decide
    rw [UInt64.toNat_and, UInt64.toNat_and, Nat.testBit_and, Nat.testBit_and, hmask, hnot,
      Nat.testBit_mul_two_pow, Nat.testBit_two_pow_sub_one]
    by_cases hi : 52 ≤ i
    · have : cr3.toNat.testBit i = false :=
        Nat.testBit_lt_two_pow (lt_of_lt_of_le h (Nat.pow_le_pow_right (by decide) hi))
      simp [this]
    · have hsub : (2 ^ 64 - 2 ^ 12 : Nat) = (2 ^ 52 - 1) * 2 ^ 12 := by decide
      rw [hsub, Nat.testBit_mul_two_pow, Nat.testBit_two_pow_sub_one]
      by_cases h12 : 12 ≤ i
      · have : i - 12 < 40 := by omega
        have : i - 12 < 52 := by omega
        simp [*]
      · simp [h12]
  rw [hm]
  exact PhysAddr.new_of_lt (and_addrMask_lt cr3)

/-- `guest_virt_to_guest_phys` in the walk's terms. -/
theorem guestVirtToGuestPhys_eq {mem : Tables} {va cr3 : UInt64} (hcr3 : cr3.toNat < 2 ^ 52) :
    guestVirtToGuestPhys mem va cr3 = (do
      let t4 ← tableAt (addrOf cr3)
      let e4 := mem t4 (index va 4)
      if Format.ia32e.present e4 = false then return PhysAddr.zero
      let t3 ← tableAt (addrOf e4)
      let e3 := mem t3 (index va 3)
      if Format.ia32e.present e3 = false then return PhysAddr.zero
      if huge e3 then return ← (addrOf e3).add (va &&& 0b1_1111_1111_1111_1111_1111_1111_1111)
      let t2 ← tableAt (addrOf e3)
      let e2 := mem t2 (index va 2)
      if Format.ia32e.present e2 = false then return PhysAddr.zero
      if huge e2 then return ← (addrOf e2).add (va &&& 0b1_1111_1111_1111_1111_1111)
      let t1 ← tableAt (addrOf e2)
      (addrOf (mem t1 (index va 1))).add (va &&& 0b1111_1111_1111)) := by
  unfold guestVirtToGuestPhys
  simp only [pml4Index_eq, pdpIndex_eq, pdIndex_eq, ptIndex_eq, pml4Phys_eq hcr3, present_eq,
    huge_eq, PageTableEntry.addr, Bool.not_eq_true']
  rfl

/-- A CR3 with a bit above 51 set makes `PhysAddr::new` panic. -/
theorem guestVirtToGuestPhys_of_high_cr3 {mem : Tables} {va cr3 : UInt64} (h : 2 ^ 52 ≤ cr3.toNat) :
    guestVirtToGuestPhys mem va cr3 = none := by
  have hbase : ¬ (cr3 &&& ~~~0b1111_1111_1111).toNat < 2 ^ 52 := by
    rw [and_not_low_bits cr3 (k := 12) (by decide) (by decide)]
    omega
  unfold guestVirtToGuestPhys
  rw [PhysAddr.new, dif_neg hbase]
  rfl

theorem tableAt_addrOf {e : UInt64} (h : tableOf e ≠ 0 ∧ tableOf e < 2 ^ 47) :
    tableAt (addrOf e) = some (tableOf e) :=
  (if_neg h.1).trans (if_neg (Nat.not_le.mpr h.2))

/-- An address field plus an offset below the page size stays below `2^52`. -/
theorem add_low {e off : UInt64} {s : Nat} (hs : s ≤ 52) (hlow : (addrOf e).val.toNat % 2 ^ s = 0)
    (hoff : off.toNat < 2 ^ s) :
    ((addrOf e).add off).map (·.val.toNat) = some ((addrOf e).val.toNat + off.toNat) := by
  have hlt := and_addrMask_lt e
  have hpow : 2 ^ s ∣ 2 ^ 52 := Nat.pow_dvd_pow 2 hs
  have hsum : (addrOf e).val.toNat + off.toNat < 2 ^ 52 := by
    obtain ⟨k, hk⟩ := hpow
    have hpos : 0 < 2 ^ s := Nat.two_pow_pos s
    have : (addrOf e).val.toNat / 2 ^ s < k := by
      apply Nat.div_lt_of_lt_mul; rw [← hk]; exact hlt
    have hd := Nat.div_add_mod (addrOf e).val.toNat (2 ^ s)
    rw [hlow, Nat.add_zero] at hd
    nlinarith
  obtain ⟨q, hq, hv⟩ := PhysAddr.add_of_lt hsum
  simp [hq, hv]

/-- The offset bits the code's mask keeps at a leaf of `level`: 29 for a
1 GiB page, 21 for 2 MiB, 12 for 4 KiB. -/
def maskBits : Nat → Nat
  | 3 => 29
  | 2 => 21
  | _ => 12

/-- The code's last step at a leaf: the address field plus the offset bits
that the mask keeps. -/
theorem add_offset_eq {e r va m : UInt64} {level k : Nat}
    (hlev : level = 1 ∨ level = 2 ∨ level = 3)
    (hlow : (addrOf e).val.toNat % 2 ^ shift level = 0)
    (hm : m.toNat = 2 ^ k - 1) (hk : k ≤ shift level) :
    ((addrOf e).add (va &&& m)).map (·.val.toNat) =
      some (Leaf.frame ⟨e, level, r⟩ + va.toNat % 2 ^ k) := by
  have hs : shift level ≤ 52 := by rcases hlev with h | h | h <;> simp [h, shift]
  have hoff := and_low_bits va m hm
  have hlt : (va &&& m).toNat < 2 ^ shift level := by
    rw [hoff]
    exact lt_of_lt_of_le (Nat.mod_lt _ (by positivity)) (Nat.pow_le_pow_right (by decide) hk)
  rw [add_low hs hlow hlt, frame_of_low (l := ⟨e, level, r⟩) hlow hlev, hoff]

/-- **The code follows the processor's walk.** Wherever the walk from CR3
reaches a leaf through tables at nonzero addresses below `2^47`, and the leaf entry has no
address bits below its page size, the code returns the leaf's frame plus the
low `maskBits` bits of the address. -/
theorem guestVirtToGuestPhys_of_walk {mem : Tables} {va cr3 : UInt64} {l : Leaf}
    (hcr3 : cr3.toNat < 2 ^ 52)
    (hw : walk .ia32e mem va 4 (tableOf cr3) = some l)
    (hnz : ∀ p ∈ slots .ia32e mem va 4 (tableOf cr3), p.1 ≠ 0 ∧ p.1 < 2 ^ 47)
    (hlow : (addrOf l.entry).val.toNat % 2 ^ shift l.level = 0) :
    (guestVirtToGuestPhys mem va cr3).map (·.val.toNat) =
      some (l.frame + va.toNat % 2 ^ maskBits l.level) := by
  rw [guestVirtToGuestPhys_eq hcr3]
  have h4 : tableOf cr3 ≠ 0 ∧ tableOf cr3 < 2 ^ 47 := hnz _ List.mem_cons_self
  obtain ⟨hp4, ⟨hl4, -⟩ | ⟨hl4, l3, hw3, rfl⟩⟩ := walk_succ_eq_some.mp hw
  · simp [isLeaf] at hl4
  have hnz3 := fun p hp => hnz p (by rw [slots_descend hp4 hl4]; exact List.mem_cons_of_mem _ hp)
  have h3 := hnz3 _ List.mem_cons_self
  simp only [Nat.reduceAdd] at hp4 hw3 hnz3 h3
  obtain ⟨hp3, ⟨hl3, rfl⟩ | ⟨hl3, l2, hw2, rfl⟩⟩ := walk_succ_eq_some.mp hw3
  · simp only [Nat.reduceAdd] at hlow hl3 hp3 ⊢
    have hh : huge (mem (tableOf (mem (tableOf cr3) (index va 4))) (index va 3)) = true := by
      simpa [isLeaf] using hl3
    simp only [tableAt_addrOf h4, tableAt_addrOf h3, hp4, hp3, hh, Option.pure_def,
      Option.bind_eq_bind, Option.bind_some, Bool.true_eq_false, if_false, if_true]
    exact add_offset_eq (Or.inr (Or.inr rfl)) hlow (by decide) (by decide)
  have hnz2 := fun p hp => hnz3 p (by rw [slots_descend hp3 hl3]; exact List.mem_cons_of_mem _ hp)
  have h2 := hnz2 _ List.mem_cons_self
  simp only [Nat.reduceAdd] at hp3 hl3 hw2 hnz2 h2
  have hh3 : huge (mem (tableOf (mem (tableOf cr3) (index va 4))) (index va 3)) = false := by
    simpa [isLeaf] using hl3
  obtain ⟨hp2, ⟨hl2, rfl⟩ | ⟨hl2, l1, hw1, rfl⟩⟩ := walk_succ_eq_some.mp hw2
  · simp only [Nat.reduceAdd] at hlow hl2 hp2 ⊢
    have hh : huge (mem (tableOf (mem (tableOf (mem (tableOf cr3) (index va 4))) (index va 3)))
        (index va 2)) = true := by
      simpa [isLeaf] using hl2
    simp only [tableAt_addrOf h4, tableAt_addrOf h3, tableAt_addrOf h2, hp4, hp3, hh3, hp2, hh,
      Option.pure_def, Option.bind_eq_bind, Option.bind_some, Bool.true_eq_false, if_false, if_true]
    exact add_offset_eq (Or.inr (Or.inl rfl)) hlow (by decide) (by decide)
  have hnz1 := fun p hp => hnz2 p (by rw [slots_descend hp2 hl2]; exact List.mem_cons_of_mem _ hp)
  have h1 := hnz1 _ List.mem_cons_self
  simp only [Nat.reduceAdd] at hp2 hl2 hw1 h1
  have hh2 : huge (mem (tableOf (mem (tableOf (mem (tableOf cr3) (index va 4))) (index va 3)))
      (index va 2)) = false := by
    simpa [isLeaf] using hl2
  obtain ⟨-, ⟨-, rfl⟩ | ⟨hl1, -⟩⟩ := walk_succ_eq_some.mp hw1
  · simp only [Nat.reduceAdd] at hlow ⊢
    simp only [tableAt_addrOf h4, tableAt_addrOf h3, tableAt_addrOf h2, tableAt_addrOf h1, hp4,
      hp3, hh3, hp2, hh2, Option.pure_def, Option.bind_eq_bind, Option.bind_some,
      Bool.true_eq_false, if_false]
    exact add_offset_eq (Or.inl rfl) hlow (by decide) (by decide)
  · simp [isLeaf] at hl1

/-- Where the code's offset mask is as wide as the page, and for a 1 GiB page
when bit 29 of the address is clear, the code returns the address the
processor translates to. -/
theorem guestVirtToGuestPhys_eq_translate {mem : Tables} {va cr3 : UInt64} {l : Leaf}
    (hcr3 : cr3.toNat < 2 ^ 52)
    (hw : walk .ia32e mem va 4 (tableOf cr3) = some l)
    (hnz : ∀ p ∈ slots .ia32e mem va 4 (tableOf cr3), p.1 ≠ 0 ∧ p.1 < 2 ^ 47)
    (hlow : (addrOf l.entry).val.toNat % 2 ^ shift l.level = 0)
    (h29 : l.level = 3 → va.toNat % 2 ^ 30 < 2 ^ 29) :
    (guestVirtToGuestPhys mem va cr3).map (·.val.toNat) = translate .ia32e mem (tableOf cr3) va := by
  rw [guestVirtToGuestPhys_of_walk hcr3 hw hnz hlow]
  unfold Paging.translate
  rw [hw, Option.map_some, Leaf.addr]
  have hlev := level_of_isLeaf (walk_leaf hw).2
  congr 2
  rcases hlev with h | h | h <;> rw [h] <;> simp only [maskBits, shift, Nat.reduceMul, Nat.reduceAdd]
  have hva := h29 h
  omega

/-- **A 1 GiB page loses bit 29.** When bit 29 of the address is set, the
code's result is `2^29` below the processor's. -/
theorem guestVirtToGuestPhys_giant {mem : Tables} {va cr3 : UInt64} {l : Leaf}
    (hcr3 : cr3.toNat < 2 ^ 52)
    (hw : walk .ia32e mem va 4 (tableOf cr3) = some l)
    (hnz : ∀ p ∈ slots .ia32e mem va 4 (tableOf cr3), p.1 ≠ 0 ∧ p.1 < 2 ^ 47)
    (hlow : (addrOf l.entry).val.toNat % 2 ^ shift l.level = 0)
    (h3 : l.level = 3) (h29 : va.toNat.testBit 29 = true) :
    (guestVirtToGuestPhys mem va cr3).map (·.val.toNat) = some (l.addr va - 2 ^ 29) := by
  rw [guestVirtToGuestPhys_of_walk hcr3 hw hnz hlow, Leaf.addr, h3]
  have hbit : va.toNat / 2 ^ 29 % 2 = 1 := by
    simpa [Nat.testBit_eq_decide_div_mod_eq] using h29
  simp only [maskBits, shift, Nat.reduceMul, Nat.reduceAdd, Option.some.injEq]
  omega

/-- A 1 GiB page at `0x4000_0000`, the first of the guest's address space,
through the PML4 at `0x1000` and the PDPT at `0x2000`. -/
def giantPage : Tables := fun t i =>
  if t = 0x1000 ∧ i = 0 then 0x2003 else if t = 0x2000 ∧ i = 0 then 0x4000_0083 else 0

theorem guest_walk_diverges :
    (guestVirtToGuestPhys giantPage 0x2000_0000 0x1000).map (·.val.toNat) = some 0x4000_0000 ∧
      translate .ia32e giantPage 0x1000 0x2000_0000 = some 0x6000_0000 := by
  decide

end Htvmm.Cpu
