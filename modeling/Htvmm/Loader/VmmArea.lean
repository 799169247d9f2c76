import Htvmm.Loader.Create

/-!
# The VMM area: the loader against the VMM

`modify_table` maps the VMM area from the entry point rounded down to 2 MiB
(`createPageTable_vmm_area`); the VMM converts a pointer into the area by
adding `vmm_phys_offset` (`paddr_of_vmm_area`). The two agree exactly when
the allocation plus the first program header's offset rounds down to the
allocation (`vmm_area_agrees_iff`), which UEFI's 4 KiB-aligned allocation
does not ensure (`vmm_area_mapped_below_allocation`).
-/

namespace Htvmm.Loader

open Word Paging Boot

/-- The entry point `efi_main` computes, when it does not panic. -/
theorem entryPoint_toNat {allocPaddr pOffset : UInt64} {e : PhysAddr}
    (he : entryPoint allocPaddr pOffset = some e) :
    e.val.toNat = allocPaddr.toNat + pOffset.toNat := by
  unfold entryPoint u64Add at he
  split at he
  · rename_i hlt
    simp only [Option.bind_eq_bind, Option.bind_some, PhysAddr.new] at he
    split at he
    · cases he
      rw [UInt64.toNat_add]
      omega
    · cases he
  · cases he

section
variable {pages : Nat → UInt64} {N : Nat} (hP : PageAllocator pages N)
include hP

/-- **Where the loader maps the VMM area.** When UEFI's PDPT entry 4 is
present, every address `va` of the VMM area maps to the entry point rounded
down to 2 MiB, plus `va - VMM_AREA_HEAD_VADDR`. -/
theorem createPageTable_vmm_area {cr3 : UInt64} {e : PhysAddr} {s : State}
    (hroot : (addrOf cr3).val.toNat ≠ 0)
    (hfresh : ∀ p, InTree .ia32e s.mem 4 (addrOf cr3).val.toNat p →
      ∀ n, s.next ≤ n → n < N → (pages n).toNat ≠ p)
    (h0 : Format.ia32e.present (s.mem (addrOf cr3).val.toNat 0) = true)
    (h4 : Format.ia32e.present (s.mem (tableOf (s.mem (addrOf cr3).val.toNat 0)) 4) = true)
    (he : e.val.toNat + 2 ^ 29 ≤ 2 ^ 52) :
    ∃ r s', createPageTable pages cr3 e s = some (r, s') ∧ (s'.next ≤ N →
      ∀ va, VMM_AREA_HEAD_VADDR ≤ va → va < VMM_AREA_HEAD_VADDR + VMM_AREA_SIZE →
        translate .ia32e s'.mem r.val.toNat va =
          some (e.val.toNat / 2 ^ 21 * 2 ^ 21 + (va.toNat - VMM_AREA_HEAD_VADDR.toNat))) := by
  obtain ⟨sc, s', hc, -, hB⟩ := createPageTable_spec hP hroot hfresh h0 he
  refine ⟨_, s', hc, fun hN va hlo hhi => ?_⟩
  have hB := hB hN
  have hhead : VMM_AREA_HEAD_VADDR.toNat = 2 ^ 32 := by decide
  have hlo' : 2 ^ 32 ≤ va.toNat := hhead ▸ UInt64.le_iff_toNat_le.mp hlo
  have hhi' : va.toNat < 2 ^ 32 + 2 ^ 29 :=
    (show (VMM_AREA_HEAD_VADDR + VMM_AREA_SIZE).toNat = 2 ^ 32 + 2 ^ 29 by decide) ▸
      UInt64.lt_iff_toNat_lt.mp hhi
  obtain ⟨hi4, hi3, hi2, hoff⟩ := index_of_vmm_area hlo' hhi'
  have hbase := vmmAreaBase_toNat e
  obtain ⟨hp2, hh2, ha2⟩ := vmmAreaPde_entry (i := index va 2)
    (show (vmmAreaBase e).toNat % 2 ^ 21 = 0 by omega) (by omega) hi2
  have e2 : s'.mem (pages sc.next).toNat (index va 2) = vmmAreaPde (vmmAreaBase e) (index va 2) := by
    rw [hB.pd _ (index_lt _ _), pdEntry, if_pos hi2]
  rw [hB.translate_gib4 hP h0 h4 hi4 hi3, walk_succ_of_leaf (by rw [e2]; exact hp2)
    (by rw [e2]; simp [isLeaf, hh2]), Option.map_some, Option.some.injEq, Leaf.addr,
    frame_of_low (by simp only [e2, ha2, shift]; omega) (by simp)]
  simp only [e2, ha2, hhead, shift, Nat.reduceMul, Nat.reduceAdd]
  omega

end

/-! ## A run that maps the VMM area below its allocation -/

/-- UEFI's memory of the failing input: a PML4 at `0x1000` whose entry 0
points to a PDPT at `0x2000`, whose entry 4 maps the gigabyte at
`VMM_AREA_HEAD_VADDR` to itself as a 1 GiB page; every other page holds
`0x83`, a present 1 GiB page at 0, in every entry. -/
def uefiMemory : Tables := fun t i =>
  if t = 0x1000 then if i = 0 then 0x2003 else 0
  else if t = 0x2000 then if i = 4 then 0x1_0000_0083 else 0
  else 0x83

/-- Pages from 1 MiB up, the first `2^37` distinct. -/
def freshPages (n : Nat) : UInt64 := UInt64.ofNat (2 ^ 20 + 4096 * (n % 2 ^ 37))

theorem freshPages_toNat (n : Nat) : (freshPages n).toNat = 2 ^ 20 + 4096 * (n % 2 ^ 37) := by
  rw [freshPages, UInt64.toNat_ofNat']
  omega

theorem freshPages_allocator : PageAllocator freshPages (2 ^ 37) where
  aligned n := by rw [freshPages_toNat]; omega
  valid n := by rw [freshPages_toNat]; omega
  distinct m n _ _ h := by rw [freshPages_toNat, freshPages_toNat] at h; omega

/-- UEFI's tree is its PML4 and its PDPT. -/
theorem uefiMemory_inTree {p : Nat} (h : InTree .ia32e uefiMemory 4 (addrOf 0x1000).val.toNat p) :
    p = 0x1000 ∨ p = 0x2000 := by
  rw [show (addrOf 0x1000).val.toNat = 0x1000 by decide] at h
  rcases h with rfl | ⟨i, -, hp, -, h⟩
  · exact Or.inl rfl
  obtain rfl : i = 0 := by
    by_contra hi
    rw [show uefiMemory 0x1000 i = 0 by simp [uefiMemory, hi]] at hp
    exact absurd hp (by decide)
  rw [show tableOf (uefiMemory 0x1000 0) = 0x2000 by decide] at h
  rcases h with rfl | ⟨j, -, hp', hl', -⟩
  · exact Or.inr rfl
  by_cases hj : j = 4
  · subst hj
    exact absurd hl' (by decide)
  · rw [show uefiMemory 0x2000 j = 0 by simp [uefiMemory, hj]] at hp'
    exact absurd hp' (by decide)

theorem uefiMemory_fresh : ∀ p, InTree .ia32e uefiMemory 4 (addrOf 0x1000).val.toNat p →
    ∀ n, 0 ≤ n → n < 2 ^ 37 → (freshPages n).toNat ≠ p := by
  intro p hp n _ _ h
  rw [freshPages_toNat] at h
  rcases uefiMemory_inTree hp with rfl | rfl <;> omega

/-- The run of the failing input: the VMM's allocation at `0x1000_1000`, 4 KiB
but not 2 MiB aligned, and the first program header at file offset `0x1000`.
The loader maps `VMM_AREA_HEAD_VADDR` to `0x1000_0000`, where all three of
the VMM's conversions give `0x1000_1000`. -/
theorem vmm_area_mapped_below_allocation :
    ∃ e r s' off, entryPoint 0x1000_1000 0x1000 = some e ∧
      vmmPhysOffset 0x1000_1000 = some off ∧
      createPageTable freshPages 0x1000 e { mem := uefiMemory, next := 0 } = some (r, s') ∧
      translate .ia32e s'.mem r.val.toNat VMM_AREA_HEAD_VADDR = some 0x1000_0000 ∧
      ∀ memorySize, ∃ p : PhysAddr, p.val.toNat = 0x1000_1000 ∧
        EptTable.paddr ⟨off, memorySize⟩ VMM_AREA_HEAD_VADDR = some p ∧
        VmcsRegion.paddr ⟨off, memorySize⟩ VMM_AREA_HEAD_VADDR = some p ∧
        VmxonRegion.paddr ⟨off, memorySize⟩ VMM_AREA_HEAD_VADDR = some p := by
  have he : entryPoint 0x1000_1000 0x1000 = some ⟨0x1000_2000, by decide⟩ := by decide
  have hoff : vmmPhysOffset 0x1000_1000 = some (0x1000_1000 - 2 ^ 32) := by decide
  obtain ⟨r, s', hc, hmap⟩ := @createPageTable_vmm_area freshPages (2 ^ 37) freshPages_allocator
    0x1000 ⟨0x1000_2000, by decide⟩ { mem := uefiMemory, next := 0 } (by decide) uefiMemory_fresh
    (by decide) (by decide) (by decide)
  obtain ⟨sc, s'', hc', hbound, -⟩ := @createPageTable_spec freshPages (2 ^ 37) freshPages_allocator
    0x1000 ⟨0x1000_2000, by decide⟩ { mem := uefiMemory, next := 0 } (by decide) uefiMemory_fresh
    (by decide) (by decide)
  obtain ⟨-, rfl⟩ := Prod.mk.inj (Option.some.inj (hc.symm.trans hc'))
  refine ⟨_, r, s', _, he, hoff, hc, ?_, fun memorySize => ?_⟩
  · rw [hmap (le_trans hbound (by decide)) _ (by decide) (by decide)]
    decide
  · obtain ⟨p, hp, h1, h2, h3⟩ := @paddr_of_vmm_area 0x1000_1000 VMM_AREA_HEAD_VADDR
      ⟨_, memorySize⟩ (by decide) hoff (by decide)
    exact ⟨p, by rw [hp]; decide, h1, h2, h3⟩

section
variable {pages : Nat → UInt64} {N : Nat} (hP : PageAllocator pages N)
include hP

/-- **When the loader and the VMM agree on the VMM area.** With the entry
point and the offset `efi_main` computes from the allocation `alloc_paddr`
and the first program header's `p_offset`, the tables `create_page_table`
builds map every address of the VMM area to where `EptTable::paddr`
converts it exactly when `alloc_paddr + p_offset` rounds down to
`alloc_paddr` at 2 MiB. -/
theorem vmm_area_agrees_iff {cr3 allocPaddr pOffset : UInt64} {e : PhysAddr} {args : BootArgs}
    {s : State} (hroot : (addrOf cr3).val.toNat ≠ 0)
    (hfresh : ∀ p, InTree .ia32e s.mem 4 (addrOf cr3).val.toNat p →
      ∀ n, s.next ≤ n → n < N → (pages n).toNat ≠ p)
    (h0 : Format.ia32e.present (s.mem (addrOf cr3).val.toNat 0) = true)
    (h4 : Format.ia32e.present (s.mem (tableOf (s.mem (addrOf cr3).val.toNat 0)) 4) = true)
    (he : entryPoint allocPaddr pOffset = some e)
    (hoff : vmmPhysOffset allocPaddr = some args.vmmPhysOffset)
    (hroom : e.val.toNat + 2 ^ 29 ≤ 2 ^ 52) :
    ∃ r s', createPageTable pages cr3 e s = some (r, s') ∧ (s'.next ≤ N →
      ((∀ va, VMM_AREA_HEAD_VADDR ≤ va → va < VMM_AREA_HEAD_VADDR + VMM_AREA_SIZE →
          translate .ia32e s'.mem r.val.toNat va = (EptTable.paddr args va).map (·.val.toNat)) ↔
        (allocPaddr.toNat + pOffset.toNat) / 2 ^ 21 * 2 ^ 21 = allocPaddr.toNat)) := by
  obtain ⟨r, s', hc, hmap⟩ := createPageTable_vmm_area hP hroot hfresh h0 h4 hroom
  refine ⟨r, s', hc, fun hN => ⟨fun h => ?_, fun h va hlo hhi => ?_⟩⟩
  all_goals
    have hsum := entryPoint_toNat he
    have halloc : allocPaddr.toNat + VMM_AREA_SIZE.toNat ≤ 2 ^ 52 := by
      rw [show VMM_AREA_SIZE.toNat = 2 ^ 29 by decide]
      omega
  · obtain ⟨p, hp, hept, -⟩ := @paddr_of_vmm_area allocPaddr VMM_AREA_HEAD_VADDR args halloc
      hoff ⟨by decide, by decide⟩
    have hhead := h VMM_AREA_HEAD_VADDR (by decide) (by decide)
    rw [hmap hN _ (by decide) (by decide), hept, Option.map_some, Option.some.injEq, hp, hsum,
      Nat.sub_self, Nat.add_zero, Nat.add_zero] at hhead
    exact hhead
  · obtain ⟨p, hp, hept, -⟩ := paddr_of_vmm_area halloc hoff ⟨hlo, hhi⟩
    rw [hmap hN va hlo hhi, hept, Option.map_some, hp, hsum, h]

end

/-- At an allocation 2 MiB aligned, with the first program header at file
offset `0x1000`, the loader and the VMM agree. -/
theorem vmm_area_agrees_at_aligned :
    ∃ r s', createPageTable freshPages 0x1000 ⟨0x1000_1000, by decide⟩
        { mem := uefiMemory, next := 0 } = some (r, s') ∧ (s'.next ≤ 2 ^ 37 →
      ((∀ va, VMM_AREA_HEAD_VADDR ≤ va → va < VMM_AREA_HEAD_VADDR + VMM_AREA_SIZE →
          translate .ia32e s'.mem r.val.toNat va =
            (EptTable.paddr ⟨0x1000_0000 - 2 ^ 32, 0⟩ va).map (·.val.toNat)) ↔
        ((0x1000_0000 : UInt64).toNat + (0x1000 : UInt64).toNat) / 2 ^ 21 * 2 ^ 21 =
          (0x1000_0000 : UInt64).toNat)) :=
  vmm_area_agrees_iff freshPages_allocator (by decide) uefiMemory_fresh (by decide) (by decide)
    (by decide) (by decide) (by decide)

end Htvmm.Loader
