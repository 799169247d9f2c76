import Htvmm.Loader.VmmArea

/-!
# What the loader's tables keep of UEFI's

The tables `create_page_table` builds leave UEFI's tables alone
(`createPageTable_keeps_uefi`) and map every canonical address outside the
VMM area that UEFI's tables map, to the same place, when those map one to
one (`createPageTable_keeps_maps`). The converse fails: `construct_table`
skips UEFI's unused entries without zeroing the fresh pages of the copy, so
the copy keeps what those pages held (`createPageTable_keeps_garbage`), and
maps what UEFI's tables do not (`copy_maps_garbage`).
-/

namespace Htvmm.Loader

open Word Paging Boot

/-- A canonical address walked through PML4 entry 0 and PDPT entry 4 lies in
the gigabyte at `VMM_AREA_HEAD_VADDR`; outside the VMM area its page
directory entry is 256 or above. -/
theorem index_of_gib4 {va : UInt64} (hcan : Canonical va) (hi4 : index va 4 = 0)
    (hi3 : index va 3 = 4)
    (hout : ¬ (VMM_AREA_HEAD_VADDR ≤ va ∧ va < VMM_AREA_HEAD_VADDR + VMM_AREA_SIZE)) :
    256 ≤ index va 2 ∧ va.toNat = 2 ^ 32 + 2 ^ 21 * index va 2 + va.toNat % 2 ^ 21 := by
  rw [UInt64.le_iff_toNat_le, UInt64.lt_iff_toNat_lt,
    show VMM_AREA_HEAD_VADDR.toNat = 2 ^ 32 by decide,
    show (VMM_AREA_HEAD_VADDR + VMM_AREA_SIZE).toNat = 2 ^ 32 + 2 ^ 29 by decide] at hout
  unfold Canonical at hcan
  simp only [index, shift, Nat.reduceMul, Nat.reduceAdd, Nat.reducePow] at hi4 hi3 ⊢
  have := va.toNat_lt
  omega

section
variable {pages : Nat → UInt64} {N : Nat} (hP : PageAllocator pages N)
include hP
variable {T : Tables} {root n0 : Nat} {e : PhysAddr} {sc : State} {V : Tables}

/-- Below PML4 entry 0, outside PDPT entry 4, the new tables map what UEFI's
map. -/
theorem Built.walk_entry0 (hB : Built pages N T root n0 e sc V)
    (h0 : Format.ia32e.present (T root 0) = true) {va : UInt64} {l : Leaf}
    (hi4 : index va 4 = 0) (hi3 : index va 3 ≠ 4) (h : walk .ia32e T va 4 root = some l) :
    walk .ia32e V va 4 (pages n0).toNat = some l := by
  obtain ⟨a0, b0, -, -, -, hV0, hv0, -⟩ := hB.pml4_entry hP h0
  obtain ⟨hp4, hr4, -, -⟩ := setAddr_flags_entry (a := ⟨pages a0, hP.valid a0⟩) (hP.aligned a0)
    (T root 0)
  refine walk_succ_of_sub (fun _ hl => absurd hl (by rw [isLeaf_four]; decide)) (fun hp _ => ?_) h
  rw [hi4] at hp ⊢
  rw [hV0, hv0]
  refine ⟨hp4.trans hp, hr4, isLeaf_four _, fun l' hw => ?_⟩
  rw [← hv0]
  exact hB.walk_pdpt hP h0 hi3 hw

/-- When UEFI's PDPT entry 4 maps a 1 GiB page, the rest of that gigabyte,
above the VMM area, is mapped one to one. -/
theorem Built.translate_gib4_huge (hB : Built pages N T root n0 e sc V)
    (h0 : Format.ia32e.present (T root 0) = true)
    (h4 : Format.ia32e.present (T (tableOf (T root 0)) 4) = true)
    (hh : huge (T (tableOf (T root 0)) 4) = true) {va : UInt64}
    (hi4 : index va 4 = 0) (hi3 : index va 3 = 4) (hi2 : 256 ≤ index va 2) :
    translate .ia32e V (pages n0).toNat va =
      some (2 ^ 32 + 2 ^ 21 * index va 2 + va.toNat % 2 ^ 21) := by
  obtain ⟨a0, b0, -, -, -, -, hv0, ⟨-, hc⟩⟩ := hB.pml4_entry hP h0
  have hvp : tableOf (sc.mem (pages n0).toNat 0) = (pages a0).toNat := by rw [hv0, tableOf_page hP]
  have hx : sc.mem (pages a0).toNat 4 = T (tableOf (T root 0)) 4 :=
    (hc 4 (by decide)).2.1 (ne_zero_of_present h4) (by rw [copiesWhole_eq]; simp [isLeaf, hh])
  have hhp : hugePresent (sc.mem (tableOf (sc.mem (pages n0).toNat 0)) 4) = true := by
    rw [hvp, hx, hugePresent_eq, hh, h4]
    rfl
  obtain ⟨hp2, hh2, ha2⟩ := identityPde_entry (index_lt va 2)
  have e2 : V (pages sc.next).toNat (index va 2) = identityPde (index va 2) := by
    rw [hB.pd _ (index_lt _ _), pdEntry, if_neg (by omega), if_pos hhp]
  rw [hB.translate_gib4 hP h0 h4 hi4 hi3, walk_succ_of_leaf (by rw [e2]; exact hp2)
    (by rw [e2]; simp [isLeaf, hh2]), Option.map_some, Leaf.addr,
    frame_of_low (by simp only [e2, ha2, shift]; omega) (by simp)]
  simp only [e2, ha2, shift, Nat.reduceMul, Nat.reduceAdd]

/-- When UEFI's PDPT entry 4 points to a page directory, the rest of that
gigabyte, above the VMM area, is mapped through UEFI's own entries. -/
theorem Built.translate_gib4_table (hB : Built pages N T root n0 e sc V)
    (h0 : Format.ia32e.present (T root 0) = true)
    (hfresh : ∀ p, InTree .ia32e T 4 root p → ∀ n, n0 ≤ n → n < N → (pages n).toNat ≠ p)
    (h4 : Format.ia32e.present (T (tableOf (T root 0)) 4) = true)
    (hh : huge (T (tableOf (T root 0)) 4) = false) {va : UInt64}
    (hi4 : index va 4 = 0) (hi3 : index va 3 = 4) (hi2 : 256 ≤ index va 2) :
    translate .ia32e V (pages n0).toNat va = translate .ia32e T root va := by
  obtain ⟨a0, b0, -, -, -, -, hv0, ⟨-, hc⟩⟩ := hB.pml4_entry hP h0
  have hvp : tableOf (sc.mem (pages n0).toNat 0) = (pages a0).toNat := by rw [hv0, tableOf_page hP]
  have hl4 : isLeaf 3 (T (tableOf (T root 0)) 4) = false := by simp [isLeaf, hh]
  obtain ⟨n, hn, -⟩ := (hc 4 (by decide)).2.2 (ne_zero_of_present h4) (by rw [copiesWhole_eq, hl4])
  obtain ⟨-, -, hhn, -⟩ := setAddr_flags_entry (a := ⟨pages n, hP.valid n⟩) (hP.aligned n)
    (T (tableOf (T root 0)) 4)
  have hhp : hugePresent (sc.mem (tableOf (sc.mem (pages n0).toNat 0)) 4) = false := by
    rw [hvp, hn, hugePresent_eq, hhn, hh]
    rfl
  have hsub : ∀ p, InTree .ia32e T 2 (tableOf (T (tableOf (T root 0)) 4)) p → V p = T p :=
    fun p hp => hB.uefi_unchanged hP h0 hfresh
      (inTree_of_sub (by decide) h0 (isLeaf_four _) (inTree_of_sub (by decide) h4 hl4 hp))
  have hpd := hsub _ inTree_root
  have hroom := hB.room
  have hnext := hB.next
  have hpd_new : tableOf (T (tableOf (T root 0)) 4) ≠ (pages sc.next).toNat :=
    fun h => hfresh _ (inTree_of_sub (by decide) h0 (isLeaf_four _)
      (inTree_of_sub (by decide) h4 hl4 inTree_root)) sc.next (by omega) hroom h.symm
  have e2 : V (pages sc.next).toNat (index va 2) =
      V (tableOf (T (tableOf (T root 0)) 4)) (index va 2) := by
    rw [hB.pd _ (index_lt _ _), pdEntry, if_neg (by omega), hhp, if_neg (by decide),
      Tables.zero_of_ne _ hpd_new, hpd, hB.unchanged _ (not_allocated_of_fresh hroom.le
        (hfresh _ (inTree_of_sub (by decide) h0 (isLeaf_four _) (inTree_of_sub (by decide) h4 hl4 inTree_root))))]
  have hT : translate .ia32e T root va =
      (walk .ia32e T va 2 (tableOf (T (tableOf (T root 0)) 4))).map (·.addr va) := by
    unfold Paging.translate
    rw [@walk_succ_addr_of_node _ T va 3 root (by rw [hi4]; exact h0) (isLeaf_four _), hi4,
      @walk_succ_addr_of_node _ T va 2 _ (by rw [hi3]; exact h4) (by rw [hi3]; exact hl4), hi3]
  rw [hB.translate_gib4 hP h0 h4 hi4 hi3, walk_succ_congr e2, walk_congr_inTree hsub, hT]

end

/-! ## The loader's tables against UEFI's -/

/-- **The loader leaves UEFI's tables alone**: no entry of a table of UEFI's
tree changes, so they can be restored after the VMM starts. -/
theorem createPageTable_keeps_uefi {pages : Nat → UInt64} {N : Nat} (hP : PageAllocator pages N)
    {cr3 : UInt64} {e : PhysAddr} {s : State}
    (hroot : (addrOf cr3).val.toNat ≠ 0)
    (hfresh : ∀ p, InTree .ia32e s.mem 4 (addrOf cr3).val.toNat p →
      ∀ n, s.next ≤ n → n < N → (pages n).toNat ≠ p)
    (h0 : Format.ia32e.present (s.mem (addrOf cr3).val.toNat 0) = true)
    (he : e.val.toNat + 2 ^ 29 ≤ 2 ^ 52) :
    ∃ r s', createPageTable pages cr3 e s = some (r, s') ∧ (s'.next ≤ N →
      ∀ p, InTree .ia32e s.mem 4 (addrOf cr3).val.toNat p → s'.mem p = s.mem p) := by
  obtain ⟨sc, s', hc, -, hB⟩ := createPageTable_spec hP hroot hfresh h0 he
  exact ⟨_, s', hc, fun hN p hp => (hB hN).uefi_unchanged hP h0 hfresh hp⟩

/-- The loader of the failing input leaves UEFI's PML4 and PDPT alone. -/
theorem keeps_uefi_at_failing_input :
    ∃ r s', createPageTable freshPages 0x1000 ⟨0x1000_2000, by decide⟩
        { mem := uefiMemory, next := 0 } = some (r, s') ∧ (s'.next ≤ 2 ^ 37 →
      ∀ p, InTree .ia32e uefiMemory 4 (addrOf 0x1000).val.toNat p → s'.mem p = uefiMemory p) :=
  createPageTable_keeps_uefi freshPages_allocator (by decide) uefiMemory_fresh (by decide)
    (by decide)

/-- UEFI's tables of the failing input map every canonical address they map
to itself: only the gigabyte at `VMM_AREA_HEAD_VADDR`. -/
theorem uefiMemory_identity : ∀ va p, Canonical va →
    translate .ia32e uefiMemory (addrOf 0x1000).val.toNat va = some p → p = va.toNat := by
  intro va p hcan h
  rw [show (addrOf 0x1000).val.toNat = 0x1000 by decide] at h
  obtain ⟨l, hw, rfl⟩ := Option.map_eq_some_iff.mp h
  obtain ⟨hp, ⟨hl, -⟩ | ⟨-, l', hw', rfl⟩⟩ := walk_succ_eq_some.mp hw
  · exact absurd hl (by rw [isLeaf_four]; decide)
  have hi4 : index va 4 = 0 := by
    by_contra hi
    rw [show uefiMemory 0x1000 (index va (3 + 1)) = 0 by simp [uefiMemory, hi]] at hp
    exact absurd hp (by decide)
  rw [hi4, show tableOf (uefiMemory 0x1000 0) = 0x2000 by decide] at hw'
  obtain ⟨hp', ⟨-, rfl⟩ | ⟨hl', -⟩⟩ := walk_succ_eq_some.mp hw'
  · have hi3 : index va 3 = 4 := by
      by_contra hi
      rw [show uefiMemory 0x2000 (index va (2 + 1)) = 0 by simp [uefiMemory, hi]] at hp'
      exact absurd hp' (by decide)
    rw [Leaf.addr_rights, Leaf.addr, hi3, show uefiMemory 0x2000 4 = 0x1_0000_0083 by decide]
    unfold Canonical at hcan
    simp only [index, shift, Nat.reduceMul, Nat.reduceAdd, Nat.reducePow] at hi4 hi3
    simp only [Leaf.frame, shift, Nat.reduceMul, Nat.reduceAdd, Nat.reducePow, UInt64.reduceToNat]
    have := va.toNat_lt
    omega
  · by_cases hi : index va (2 + 1) = 4
    · rw [hi] at hl'
      exact absurd hl' (by decide)
    · rw [show uefiMemory 0x2000 (index va (2 + 1)) = 0 by simp [uefiMemory, hi]] at hp'
      exact absurd hp' (by decide)

/-- **The loader's tables map what UEFI's map.** When UEFI's tables map
every canonical address they map to itself, the new tables map every
canonical address outside the VMM area that UEFI's map, to the same place. -/
theorem createPageTable_keeps_maps {pages : Nat → UInt64} {N : Nat} (hP : PageAllocator pages N)
    {cr3 : UInt64} {e : PhysAddr} {s : State}
    (hroot : (addrOf cr3).val.toNat ≠ 0)
    (hfresh : ∀ p, InTree .ia32e s.mem 4 (addrOf cr3).val.toNat p →
      ∀ n, s.next ≤ n → n < N → (pages n).toNat ≠ p)
    (h0 : Format.ia32e.present (s.mem (addrOf cr3).val.toNat 0) = true)
    (he : e.val.toNat + 2 ^ 29 ≤ 2 ^ 52)
    (hid : ∀ va p, Canonical va → translate .ia32e s.mem (addrOf cr3).val.toNat va = some p →
      p = va.toNat) :
    ∃ r s', createPageTable pages cr3 e s = some (r, s') ∧ (s'.next ≤ N →
      ∀ va p, Canonical va →
        ¬ (VMM_AREA_HEAD_VADDR ≤ va ∧ va < VMM_AREA_HEAD_VADDR + VMM_AREA_SIZE) →
        translate .ia32e s.mem (addrOf cr3).val.toNat va = some p →
        translate .ia32e s'.mem r.val.toNat va = some p) := by
  obtain ⟨sc, s', hc, -, hB⟩ := createPageTable_spec hP hroot hfresh h0 he
  refine ⟨_, s', hc, fun hN va p hcan hout hT => ?_⟩
  have hB := hB hN
  have hw : ∃ l, walk .ia32e s.mem va 4 (addrOf cr3).val.toNat = some l ∧ l.addr va = p :=
    Option.map_eq_some_iff.mp hT
  obtain ⟨l, hw, rfl⟩ := hw
  by_cases hi4 : index va 4 = 0
  swap
  · show (walk _ _ _ _ _).map _ = _
    rw [hB.walk_other hP h0 hi4 hw]
    rfl
  by_cases hi3 : index va 3 = 4
  swap
  · show (walk _ _ _ _ _).map _ = _
    rw [hB.walk_entry0 hP h0 hi4 hi3 hw]
    rfl
  obtain ⟨hi2, hva⟩ := index_of_gib4 hcan hi4 hi3 hout
  obtain ⟨-, ⟨hl, -⟩ | ⟨-, l', hw', -⟩⟩ := walk_succ_eq_some.mp hw
  · exact absurd hl (by rw [isLeaf_four]; decide)
  have h4 := (walk_succ_eq_some.mp hw').1
  rw [hi4, hi3] at h4
  cases hh : huge (s.mem (tableOf (s.mem (addrOf cr3).val.toNat 0)) 4)
  · rw [hB.translate_gib4_table hP h0 hfresh h4 hh hi4 hi3 hi2]
    exact hT
  · rw [hB.translate_gib4_huge hP h0 h4 hh hi4 hi3 hi2, ← hva, hid va _ hcan hT]

/-- The loader's tables of the failing input map the fixed page of the VMM
area's gigabyte, and the rest of UEFI's. -/
theorem keeps_maps_at_failing_input :
    ∃ r s', createPageTable freshPages 0x1000 ⟨0x1000_2000, by decide⟩
        { mem := uefiMemory, next := 0 } = some (r, s') ∧ (s'.next ≤ 2 ^ 37 →
      ∀ va p, Canonical va →
        ¬ (VMM_AREA_HEAD_VADDR ≤ va ∧ va < VMM_AREA_HEAD_VADDR + VMM_AREA_SIZE) →
        translate .ia32e uefiMemory (addrOf 0x1000).val.toNat va = some p →
        translate .ia32e s'.mem r.val.toNat va = some p) :=
  createPageTable_keeps_maps freshPages_allocator (by decide) uefiMemory_fresh (by decide)
    (by decide) uefiMemory_identity

/-- **The copy of UEFI's PDPT keeps what its fresh page held** in every
entry UEFI leaves unused but entry 4: `construct_table` skips such entries
and never zeroes the pages it allocates. -/
theorem createPageTable_keeps_garbage {pages : Nat → UInt64} {N : Nat} (hP : PageAllocator pages N)
    {cr3 : UInt64} {e : PhysAddr} {s : State}
    (hroot : (addrOf cr3).val.toNat ≠ 0)
    (hfresh : ∀ p, InTree .ia32e s.mem 4 (addrOf cr3).val.toNat p →
      ∀ n, s.next ≤ n → n < N → (pages n).toNat ≠ p)
    (h0 : Format.ia32e.present (s.mem (addrOf cr3).val.toNat 0) = true)
    (he : e.val.toNat + 2 ^ 29 ≤ 2 ^ 52) :
    ∃ r s', createPageTable pages cr3 e s = some (r, s') ∧ (s'.next ≤ N →
      ∃ a, s.next < a ∧
        s'.mem r.val.toNat 0 =
          (pages a ||| (PageTableEntry.mk (s.mem (addrOf cr3).val.toNat 0)).flags.bits) ∧
        ∀ j, j < 512 → j ≠ 4 → s.mem (tableOf (s.mem (addrOf cr3).val.toNat 0)) j = 0 →
          s'.mem (pages a).toNat j = s.mem (pages a).toNat j) := by
  obtain ⟨sc, s', hc, -, hB⟩ := createPageTable_spec hP hroot hfresh h0 he
  refine ⟨_, s', hc, fun hN => ?_⟩
  have hB := hB hN
  obtain ⟨a0, b0, ha0, hab0, hb0, hV0, hv0, ⟨-, hcp⟩⟩ := hB.pml4_entry hP h0
  have hvp : tableOf (sc.mem (pages s.next).toNat 0) = (pages a0).toNat := by
    rw [hv0, tableOf_page hP]
  have hroom := hB.room
  refine ⟨a0, by omega, hV0.trans hv0, fun j hj hj4 hz => ?_⟩
  have hV : s'.mem (pages a0).toNat j = sc.mem (pages a0).toNat j := by
    rw [← hvp]
    exact hB.pdpt j hj4
  rw [hV, (hcp j hj).1 hz, Tables.zero_of_ne _ fun h => ?_]
  have := hP.distinct _ _ (by omega) (by omega) h
  omega

/-- **The copy maps what UEFI's tables do not.** In the run of the failing
input, UEFI's tables leave `0x1000` unmapped; the copy of UEFI's PDPT keeps
in entry 0 the `0x83` its fresh page held, a 1 GiB page at 0, and maps
`0x1000` to itself. -/
theorem copy_maps_garbage :
    ∃ r s', createPageTable freshPages 0x1000 ⟨0x1000_2000, by decide⟩
        { mem := uefiMemory, next := 0 } = some (r, s') ∧
      translate .ia32e uefiMemory 0x1000 0x1000 = none ∧
      translate .ia32e s'.mem r.val.toNat 0x1000 = some 0x1000 := by
  obtain ⟨r, s', hc, hg⟩ := @createPageTable_keeps_garbage freshPages (2 ^ 37) freshPages_allocator
    0x1000 ⟨0x1000_2000, by decide⟩ { mem := uefiMemory, next := 0 } (by decide) uefiMemory_fresh
    (by decide) (by decide)
  obtain ⟨sc, s'', hc', hbound, -⟩ := @createPageTable_spec freshPages (2 ^ 37) freshPages_allocator
    0x1000 ⟨0x1000_2000, by decide⟩ { mem := uefiMemory, next := 0 } (by decide) uefiMemory_fresh
    (by decide) (by decide)
  obtain ⟨-, rfl⟩ := Prod.mk.inj (Option.some.inj (hc.symm.trans hc'))
  obtain ⟨a, -, hv, hkeep⟩ := hg (le_trans hbound (by decide))
  refine ⟨r, s', hc, by decide, ?_⟩
  have hfresh : (freshPages a).toNat ≠ 0x1000 ∧ (freshPages a).toNat ≠ 0x2000 := by
    rw [freshPages_toNat]
    omega
  have e3 : s'.mem (freshPages a).toNat 0 = 0x83 := by
    rw [hkeep 0 (by decide) (by decide) (by decide)]
    simp [uefiMemory, hfresh.1, hfresh.2]
  have e4 : s'.mem r.val.toNat (index 0x1000 4) = (freshPages a ||| (PageTableEntry.mk 0x2003).flags.bits) := by
    rw [show index 0x1000 4 = 0 by decide, hv]
    rfl
  obtain ⟨hp4, -, -, ht4⟩ := setAddr_flags_entry (a := ⟨freshPages a, freshPages_allocator.valid a⟩)
    (freshPages_allocator.aligned a) 0x2003
  unfold Paging.translate
  rw [walk_succ_of_node (by rw [e4]; exact hp4) (isLeaf_four _), e4, ht4,
    walk_succ_of_leaf (by rw [show index 0x1000 3 = 0 by decide, e3]; decide)
      (by rw [show index 0x1000 3 = 0 by decide, e3]; decide)]
  simp only [Option.map_some, show index 0x1000 3 = 0 by decide, e3, Leaf.addr, Leaf.frame, shift,
    Option.some.injEq]
  decide

end Htvmm.Loader
