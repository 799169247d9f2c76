import Htvmm.Ept.Init

/-!
# The guest-physical map `init_ept` sets up

The processor walks the EPT from the PML4 in the EPT pointer, as `walk` with
`Format.ept`: an entry is present when it grants read, write or execute
access, a PDE with bit 7 set maps 2 MiB, and the access of a page is what
every entry on the way grants.

* `Filled.walk`: the walk of the tables `init_ept` leaves stops at the 2 MiB
  page of the address's gigabyte, for the whole gigabytes it covers, and
  finds nothing elsewhere;
* `IdentityMap`: what the guest needs, its physical memory below a bound
  mapped to itself with full access and write-back memory, and nothing else;
  `Filled.identityMap`: the filled tables are one, for the whole gigabytes.
-/

namespace Htvmm.Ept

open Word Paging Loader

/-- The memory type of an EPT page: bits 5:3 of its entry (6 is write-back). -/
def memoryType (e : UInt64) : UInt64 := (e &&& 0x38) >>> 3

/-- The EPT at `root` maps each guest-physical address below `bound` to
itself, in a page with read, write and execute access and write-back memory,
and maps no other of the addresses a four-level walk reads. -/
def IdentityMap (mem : Tables) (root bound : Nat) : Prop :=
  ∀ gpa : UInt64, gpa.toNat < 2 ^ 48 →
    translate .ept mem root gpa = (if gpa.toNat < bound then some gpa.toNat else none) ∧
      ∀ l, walk .ept mem gpa 4 root = some l → l.rights = 7 ∧ memoryType l.entry = 6

/-! ## Reading the entries -/

/-- An entry made of an address field and EPT flags reads as its flags, and
its next table is the address. -/
theorem entry_read {a : UInt64} (ha : Within a addrMask) (f : EptTableFlags) :
    Format.ept.present (a ||| f.bits) = Format.ept.present f.bits ∧
      Format.ept.rights (a ||| f.bits) = Format.ept.rights f.bits ∧
      huge (a ||| f.bits) = huge f.bits ∧ memoryType (a ||| f.bits) = memoryType f.bits ∧
      tableOf (a ||| f.bits) = a.toNat := by
  have key : ∀ m, eptTableFlagBits &&& m = m → (a ||| f.bits) &&& m = f.bits &&& m := by
    intro m hm
    rw [← hm, ← UInt64.and_assoc, ← UInt64.and_assoc,
      or_and_right addrMask_and_eptTableFlagBits ha f.within, f.within]
  refine ⟨?_, key 7 (by decide), ?_, ?_, ?_⟩
  · show ((a ||| f.bits) &&& 7 != 0) = (f.bits &&& 7 != 0)
    rw [key 7 (by decide)]
  · show ((a ||| f.bits) &&& 0x80 != 0) = (f.bits &&& 0x80 != 0)
    rw [key 0x80 (by decide)]
  · show ((a ||| f.bits) &&& 0x38) >>> 3 = (f.bits &&& 0x38) >>> 3
    rw [key 0x38 (by decide)]
  · show ((a ||| f.bits) &&& addrMask).toNat = a.toNat
    rw [or_and_left addrMask_and_eptTableFlagBits ha f.within]

/-- A PML4 or PDPT entry `init_ept` writes is a present table entry with full
access. -/
theorem tableEntry_read {a : UInt64} (ha : Within a addrMask) :
    Format.ept.present (a ||| tableFlags.bits) = true ∧
      Format.ept.rights (a ||| tableFlags.bits) = 7 ∧ huge (a ||| tableFlags.bits) = false ∧
      tableOf (a ||| tableFlags.bits) = a.toNat := by
  obtain ⟨hp, hr, hh, -, ht⟩ := entry_read ha tableFlags
  exact ⟨hp.trans (by decide), hr.trans (by decide), hh.trans (by decide), ht⟩

/-- A PDE `init_ept` writes maps the 2 MiB page at `2 MiB * i + 1 GiB * j`
with full access and write-back memory. -/
theorem hugePde_read {j i : Nat} (hj : j < 512) (hi : i < 512) :
    Format.ept.present (hugePde j i) = true ∧ Format.ept.rights (hugePde j i) = 7 ∧
      huge (hugePde j i) = true ∧ memoryType (hugePde j i) = 6 ∧
      tableOf (hugePde j i) = 2 ^ 21 * i + 2 ^ 30 * j := by
  have haddr := pdeAddr_toNat hj hi
  have hal : (2 * 1024 * 1024 * UInt64.ofNat i +
      1024 * 1024 * 1024 * UInt64.ofNat j).toNat % 4096 = 0 := by omega
  have ha := within_addrMask
    (p := ⟨2 * 1024 * 1024 * UInt64.ofNat i + 1024 * 1024 * 1024 * UInt64.ofNat j, by omega⟩) hal
  obtain ⟨hp, hr, hh, hm, ht⟩ := entry_read ha pageFlags
  exact ⟨hp.trans (by decide), hr.trans (by decide), hh.trans (by decide), hm.trans (by decide),
    ht.trans haddr⟩

/-- The 2 MiB page of such a PDE starts at its address. -/
theorem hugePde_frame {j i : Nat} (hj : j < 512) (hi : i < 512) (r : UInt64) :
    (Leaf.mk (hugePde j i) 2 r).frame = 2 ^ 21 * i + 2 ^ 30 * j := by
  have ht := (hugePde_read hj hi).2.2.2.2
  rw [frame_of_low (by show tableOf _ % 2 ^ 21 = 0; rw [ht]; omega) (by simp), ← ht]
  rfl

/-! ## The walk -/

section
variable {mem : Tables} {pml4 pdpt : UInt64} {pdt : Nat → UInt64} {gb : Nat}

theorem full_and_full : (7 : UInt64) &&& 7 = 7 := by decide

theorem index_four {gpa : UInt64} : index gpa 4 = gpa.toNat / 2 ^ 39 % 512 := rfl
theorem index_three {gpa : UInt64} : index gpa 3 = gpa.toNat / 2 ^ 30 % 512 := rfl
theorem index_two {gpa : UInt64} : index gpa 2 = gpa.toNat / 2 ^ 21 % 512 := rfl

/-- **The walk of a filled EPT.** Below `gb` gigabytes an address is in the
2 MiB page of its gigabyte, with full access; above, up to `2^48`, it is
not mapped. -/
theorem Filled.walk (hF : Filled mem pml4 pdpt pdt gb) (hgb : gb ≤ 512) {gpa : UInt64}
    (hgpa : gpa.toNat < 2 ^ 48) :
    walk .ept mem gpa 4 pml4.toNat =
      if gpa.toNat < gb * 2 ^ 30 then
        some ⟨hugePde (gpa.toNat / 2 ^ 30) (gpa.toNat / 2 ^ 21 % 512), 2, 7⟩
      else none := by
  by_cases h4 : index gpa 4 = 0
  · obtain ⟨hp4, hr4, hh4, ht4⟩ := tableEntry_read (a := pdpt) hF.pdpt_within
    have he4 : mem pml4.toNat (index gpa 4) = pdpt ||| tableFlags.bits := by
      rw [hF.pml4_entry, if_pos h4]
    rw [@walk_succ_of_node _ _ _ 3 _ (by rw [he4]; exact hp4)
      (by rw [he4]; simp [isLeaf]), he4, ht4]
    have hj : index gpa 3 = gpa.toNat / 2 ^ 30 := by
      rw [index_four] at h4
      rw [index_three]
      omega
    by_cases h3 : gpa.toNat / 2 ^ 30 < gb
    · have hi : gpa.toNat / 2 ^ 21 % 512 < 512 := Nat.mod_lt _ (by decide)
      obtain ⟨hp3, hr3, hh3, ht3⟩ := tableEntry_read (hF.pdt_within _ h3)
      obtain ⟨hp2, hr2, hh2, -, -⟩ :=
        hugePde_read (j := gpa.toNat / 2 ^ 30) (i := gpa.toNat / 2 ^ 21 % 512) (by omega) hi
      have he3 : mem pdpt.toNat (index gpa 3) = pdt (gpa.toNat / 2 ^ 30) ||| tableFlags.bits := by
        rw [hF.pdpt_entry, hj, if_pos h3]
      have he2 : mem (pdt (gpa.toNat / 2 ^ 30)).toNat (index gpa 2) =
          hugePde (gpa.toNat / 2 ^ 30) (gpa.toNat / 2 ^ 21 % 512) := by
        rw [index_two, hF.pdt_entry _ h3 _ hi]
      have w2 : Paging.walk .ept mem gpa 2 (pdt (gpa.toNat / 2 ^ 30)).toNat =
          some ⟨hugePde (gpa.toNat / 2 ^ 30) (gpa.toNat / 2 ^ 21 % 512), 2, 7⟩ := by
        rw [@walk_succ_of_leaf _ _ _ 1 _ (by rw [he2]; exact hp2)
          (by rw [he2, show isLeaf 2 _ = huge _ from rfl, hh2]), he2, hr2]
      have w3 : Paging.walk .ept mem gpa 3 pdpt.toNat =
          some ⟨hugePde (gpa.toNat / 2 ^ 30) (gpa.toNat / 2 ^ 21 % 512), 2, 7⟩ := by
        rw [@walk_succ_of_node _ _ _ 2 _ (by rw [he3]; exact hp3)
          (by rw [he3, show isLeaf 3 _ = huge _ from rfl, hh3]), he3, ht3, w2, hr3]
        simp only [Option.map_some, full_and_full]
      rw [w3, hr4, if_pos (by omega)]
      simp only [Option.map_some, full_and_full]
    · have he3 : mem pdpt.toNat (index gpa 3) = 0 := by
        rw [hF.pdpt_entry, hj, if_neg h3]
      rw [@walk_succ_of_absent _ _ _ 2 _ (by rw [he3]; decide), if_neg (by omega)]
      rfl
  · have he4 : mem pml4.toNat (index gpa 4) = 0 := by
      rw [hF.pml4_entry, if_neg h4]
    rw [@walk_succ_of_absent _ _ _ 3 _ (by rw [he4]; decide), if_neg]
    rw [index_four] at h4
    omega

/-- **A filled EPT is an identity map** of its whole gigabytes. -/
theorem Filled.identityMap (hF : Filled mem pml4 pdpt pdt gb) (hgb : gb ≤ 512) :
    IdentityMap mem pml4.toNat (gb * 2 ^ 30) := by
  intro gpa hgpa
  unfold Paging.translate
  rw [hF.walk hgb hgpa]
  by_cases h : gpa.toNat < gb * 2 ^ 30
  · have hj : gpa.toNat / 2 ^ 30 < 512 := by omega
    have hi : gpa.toNat / 2 ^ 21 % 512 < 512 := Nat.mod_lt _ (by decide)
    rw [if_pos h, if_pos h, Option.map_some]
    refine ⟨?_, fun l hl => ?_⟩
    · rw [Leaf.addr, hugePde_frame hj hi]
      simp only [shift]
      congr 1
      omega
    · cases hl
      exact ⟨rfl, (hugePde_read hj hi).2.2.2.1⟩
  · rw [if_neg h, if_neg h]
    exact ⟨rfl, fun l hl => by cases hl⟩

end

/-! ## `init_ept` -/

/-- **`init_ept` maps the whole gigabytes of `memory_size`.** Below 513 GiB,
with distinct 4 KiB pages from `alloc`, it returns an EPT pointer with
write-back memory and a four-level walk, whose EPT maps every guest-physical
address below `memory_size` rounded down to 1 GiB to itself with read, write
and execute access and write-back memory, and no other address. The tables
are at their pages' physical addresses, as `EptTable::paddr` gives them where
the VMM area is mapped as `paddr` assumes (`Loader.vmm_area_agrees_iff`). -/
theorem init_ept_maps_whole_gib {pages : Nat → UInt64} {N : Nat} (hP : PageAllocator pages N)
    (args : Boot.BootArgs) (s : State) (hN : s.next + 2 + args.memorySize.toNat / 2 ^ 30 ≤ N)
    (hgb : args.memorySize.toNat / 2 ^ 30 ≤ 512) :
    ∃ eptp s', initEpt pages args s = some (eptp, s') ∧
      eptp.flags = EptPointerFlags.MEMORY_TYPE_WRITEBACK ||| EptPointerFlags.PAGE_WALK_LENGTH_4 ∧
      IdentityMap s'.mem eptp.addr.val.toNat (args.memorySize.toNat / 2 ^ 30 * 2 ^ 30) := by
  obtain ⟨eptp, s', hrun, haddr, hflags, -, hF, -⟩ := initEpt_spec hP args s hN hgb
  refine ⟨eptp, s', hrun, hflags, ?_⟩
  rw [haddr]
  exact hF.identityMap hgb

/-- The VMM's heap in the examples: 4 KiB pages from 2 MiB up. -/
def heapPages (n : Nat) : UInt64 := UInt64.ofNat (0x20_0000 + 0x1000 * (n % 0x1000))

theorem heapPages_toNat (n : Nat) : (heapPages n).toNat = 0x20_0000 + 0x1000 * (n % 0x1000) := by
  rw [heapPages, UInt64.toNat_ofNat']
  omega

theorem heapPages_allocator : PageAllocator heapPages 0x1000 where
  aligned n := by rw [heapPages_toNat]; omega
  valid n := by rw [heapPages_toNat]; omega
  distinct m n _ _ h := by rw [heapPages_toNat, heapPages_toNat] at h; omega

/-- Memory whose every word is all ones, as a page `alloc` returns may be. -/
def dirtyMemory : Tables := fun _ _ => 0xffff_ffff_ffff_ffff

theorem init_ept_maps_two_gib :
    PageAllocator heapPages 0x1000 ∧
      ∃ eptp s', initEpt heapPages ⟨0, 0x8000_0000⟩ ⟨dirtyMemory, 0⟩ = some (eptp, s') ∧
        eptp.flags = EptPointerFlags.MEMORY_TYPE_WRITEBACK ||| EptPointerFlags.PAGE_WALK_LENGTH_4 ∧
        IdentityMap s'.mem eptp.addr.val.toNat
          ((0x8000_0000 : UInt64).toNat / 2 ^ 30 * 2 ^ 30) :=
  ⟨heapPages_allocator,
    init_ept_maps_whole_gib heapPages_allocator _ _ (by decide) (by decide)⟩

/-- At `memory_size = 0x6000_0000`, 1.5 GiB, `init_ept` fills one page
directory, and the guest-physical address `0x4000_0000`, below
`memory_size`, is not mapped. -/
theorem init_ept_drops_partial_gib :
    ∃ eptp s', initEpt heapPages ⟨0, 0x6000_0000⟩ ⟨dirtyMemory, 0⟩ = some (eptp, s') ∧
      (0x4000_0000 : UInt64).toNat < (0x6000_0000 : UInt64).toNat ∧
      translate .ept s'.mem eptp.addr.val.toNat 0x4000_0000 = none := by
  obtain ⟨eptp, s', hrun, haddr, -, -, hF, -⟩ :=
    initEpt_spec heapPages_allocator ⟨0, 0x6000_0000⟩ ⟨dirtyMemory, 0⟩ (by decide) (by decide)
  refine ⟨eptp, s', hrun, by decide, ?_⟩
  rw [haddr, Paging.translate, hF.walk (by decide) (by decide), if_neg (by decide)]
  rfl

end Htvmm.Ept
