import Htvmm.Loader.Construct

/-!
# What `modify_table` changes

`modify_table` allocates a page directory and fills it: entries below 256
map the VMM area in 2 MiB pages from the entry point rounded down to 2 MiB,
the others are UEFI's entries of the gigabyte at `VMM_AREA_HEAD_VADDR`, or,
when the copy's PDPT entry 4 is a present 1 GiB page, map that gigabyte one
to one. It then points the copy's PDPT entry 4 at the new directory.
`modifyTable_spec` says so in closed form: the directory is `pdEntry`, and
nothing but the directory and PDPT entry 4 changes.
-/

namespace Htvmm.Loader

open Word Paging Loop Boot

/-- `vmm_entry_phys.as_u64() & !0x1f_ffff`. -/
def vmmAreaBase (vmmEntryPhys : PhysAddr) : UInt64 := vmmEntryPhys.val &&& ~~~0x1f_ffff

/-- The entry `modify_table` writes at `i` below 256. -/
def vmmAreaPde (base : UInt64) (i : Nat) : UInt64 :=
  (base + 0x20_0000 * UInt64.ofNat i) ||| vmmAreaFlags.bits

/-- The entry the second loop writes at `i`, from 256 on. -/
def identityPde (i : Nat) : UInt64 :=
  (0x1_0000_0000 + 0x20_0000 * UInt64.ofNat i) ||| identityFlags.bits

/-- Whether the copy's PDPT entry 4 is a present 1 GiB page. -/
def hugePresent (pdpte4 : UInt64) : Bool :=
  (PageTableEntry.mk pdpte4).flags.contains (PageTableFlags.HUGE_PAGE ||| PageTableFlags.PRESENT)

/-- The flags `modify_table` gives the copy's PDPT entry 4. -/
def vmmPdpte4Flags (pdpte4 : UInt64) : PageTableFlags :=
  if hugePresent pdpte4 then (PageTableEntry.mk pdpte4).flags.remove PageTableFlags.HUGE_PAGE
  else (PageTableEntry.mk pdpte4).flags

/-- Entry `i` of the new page directory, given the copy's PDPT entry 4 and
UEFI's page directory of that gigabyte as it reads it. -/
def pdEntry (base pdpte4 : UInt64) (uefiPd : Nat → UInt64) (i : Nat) : UInt64 :=
  if i < 256 then vmmAreaPde base i
  else if hugePresent pdpte4 then identityPde i
  else uefiPd i

theorem hugePresent_eq (x : UInt64) : hugePresent x = (huge x && Format.ia32e.present x) := by
  rw [hugePresent, Flags.contains_or, huge_eq, present_eq]

/-- For a present PDPT entry 4 of the copy, the flags `modify_table` gives
it are present, map no page, and grant the same access. -/
theorem vmmPdpte4Flags_of_present {x : UInt64} (hx : Format.ia32e.present x = true) :
    (vmmPdpte4Flags x).contains PageTableFlags.PRESENT = true ∧
      (vmmPdpte4Flags x).contains PageTableFlags.HUGE_PAGE = false ∧
      Format.ia32e.rights (vmmPdpte4Flags x).bits = Format.ia32e.rights x := by
  unfold vmmPdpte4Flags
  split
  · refine ⟨?_, Flags.contains_remove_self _ _ (by decide), ?_⟩
    · rw [Flags.contains_remove_of_disjoint _ _ _ (by decide), present_eq, hx]
    · show x &&& pageTableFlagBits &&& ~~~PageTableFlags.HUGE_PAGE.bits &&& 6 = x &&& 6
      rw [UInt64.and_assoc, UInt64.and_assoc,
        show pageTableFlagBits &&& (~~~PageTableFlags.HUGE_PAGE.bits &&& 6) = 6 by decide]
  · rename_i hh
    rw [hugePresent_eq, hx, Bool.and_true, Bool.not_eq_true] at hh
    exact ⟨(present_eq x).trans hx, (huge_eq x).trans hh, rights_flags x⟩

/-- A page directory entry that `modify_table` writes from a 2 MiB-aligned
address and flags with `PRESENT` and `HUGE_PAGE` maps the 2 MiB page there. -/
theorem hugePde_entry {a : UInt64} {f : PageTableFlags} (ha : a.toNat % 2 ^ 21 = 0)
    (hlt : a.toNat < 2 ^ 52) (hp : f.contains PageTableFlags.PRESENT = true)
    (hh : f.contains PageTableFlags.HUGE_PAGE = true) :
    Format.ia32e.present (a ||| f.bits) = true ∧ huge (a ||| f.bits) = true ∧
      (addrOf (a ||| f.bits)).val.toNat = a.toNat := by
  have hal : (⟨a, hlt⟩ : PhysAddr).val.toNat % 4096 = 0 := by
    show a.toNat % 4096 = 0
    omega
  obtain ⟨hp', hh', -, -⟩ := setAddr_entry hal f
  exact ⟨hp'.trans hp, hh'.trans hh,
    congrArg (fun p : PhysAddr => p.val.toNat) (PageTableEntry.addr_flags_setAddr hal f).1⟩

/-- A loop whose pass `i` writes `f i` at entry `i` of the table `t`, and
reads nothing the loop has written. -/
theorem forRange_fill (body : Nat → State → Option State) (t lo hi : Nat) (s : State)
    (f : Nat → UInt64) (hle : lo ≤ hi)
    (hbody : ∀ i c, lo ≤ i → i < hi → c.next = s.next → (∀ t', t' ≠ t → c.mem t' = s.mem t') →
      (∀ j, i ≤ j → c.mem t j = s.mem t j) → body i c = some (c.write t i (f i))) :
    ∃ s', forRange lo hi body s = some s' ∧ s'.next = s.next ∧
      (∀ t', t' ≠ t → s'.mem t' = s.mem t') ∧
      ∀ j, s'.mem t j = if lo ≤ j ∧ j < hi then f j else s.mem t j := by
  refine forRange_spec (fun i c => c.next = s.next ∧ (∀ t', t' ≠ t → c.mem t' = s.mem t') ∧
      ∀ j, c.mem t j = if lo ≤ j ∧ j < i then f j else s.mem t j) hle
    (fun i c hlo hi ⟨hn, hrow, hcol⟩ => ⟨_, hbody i c hlo hi hn hrow fun j hj => ?_, ?_⟩)
    ⟨rfl, fun _ _ => rfl, fun j => by simp only [show ¬(lo ≤ j ∧ j < lo) by omega, if_false]⟩
  · rw [hcol j, if_neg (by omega)]
  refine ⟨hn, fun t' ht' => by rw [State.write_mem, Tables.write_row _ _ ht', hrow t' ht'],
    fun j => ?_⟩
  by_cases hj : j = i
  · subst hj
    rw [State.write_mem, Tables.write_self, if_pos ⟨hlo, by omega⟩]
  · rw [State.write_mem, Tables.write_of_ne _ _ (Or.inr hj), hcol j]
    congr 1
    exact propext ⟨fun h => ⟨h.1, by omega⟩, fun h => ⟨h.1, by omega⟩⟩

/-! ## The passes of the two loops -/

theorem vmmAreaSize_pages : (VMM_AREA_SIZE / 0x20_0000).toNat = 256 := by decide

/-- The entry point rounded down to 2 MiB. -/
theorem vmmAreaBase_toNat (e : PhysAddr) :
    (vmmAreaBase e).toNat = e.val.toNat / 2 ^ 21 * 2 ^ 21 :=
  and_not_low_bits e.val (by decide) (by decide)

/-- The address of the `i`-th 2 MiB page from `base`; the sum does not overflow. -/
theorem pageAddr_toNat {base : UInt64} {i : Nat} (hb : base.toNat + 2 ^ 29 ≤ 2 ^ 52)
    (hi : i < 256) : (base + 0x20_0000 * UInt64.ofNat i).toNat = base.toNat + 2 ^ 21 * i := by
  simp only [UInt64.toNat_add, UInt64.toNat_mul, UInt64.toNat_ofNat', UInt64.reduceToNat]
  omega

/-- Entry `i` below 256 maps the VMM area's `i`-th 2 MiB page from `base`. -/
theorem vmmAreaPde_entry {base : UInt64} {i : Nat} (hb : base.toNat % 2 ^ 21 = 0)
    (hb' : base.toNat + 2 ^ 29 ≤ 2 ^ 52) (hi : i < 256) :
    Format.ia32e.present (vmmAreaPde base i) = true ∧ huge (vmmAreaPde base i) = true ∧
      (addrOf (vmmAreaPde base i)).val.toNat = base.toNat + 2 ^ 21 * i := by
  have haddr := pageAddr_toNat hb' hi
  rw [← haddr]
  exact hugePde_entry (by omega) (by omega) (by decide) (by decide)

/-- Entry `i` of the second loop maps the `i`-th 2 MiB page from
`VMM_AREA_HEAD_VADDR` to itself. -/
theorem identityPde_entry {i : Nat} (hi : i < 512) :
    Format.ia32e.present (identityPde i) = true ∧ huge (identityPde i) = true ∧
      (addrOf (identityPde i)).val.toNat = 2 ^ 32 + 2 ^ 21 * i := by
  have haddr : (0x1_0000_0000 + 0x20_0000 * UInt64.ofNat i).toNat = 2 ^ 32 + 2 ^ 21 * i := by
    simp only [UInt64.toNat_add, UInt64.toNat_mul, UInt64.toNat_ofNat', UInt64.reduceToNat]
    omega
  rw [← haddr]
  exact hugePde_entry (by omega) (by omega) (by decide) (by decide)

section
variable {pd uefiPd4 : Nat} {base : UInt64} {i : Nat} {c : State}

theorem modifyEntry_low (hb : base.toNat % 2 ^ 21 = 0) (hb' : base.toNat + 2 ^ 29 ≤ 2 ^ 52)
    (hi : i < 256) : modifyEntry pd uefiPd4 base i c = some (c.write pd i (vmmAreaPde base i)) := by
  have haddr := pageAddr_toNat hb' hi
  have hlt : (base + 0x20_0000 * UInt64.ofNat i).toNat < 2 ^ 52 := by omega
  have hal : (base + 0x20_0000 * UInt64.ofNat i).toNat % 4096 = 0 := by omega
  simp only [modifyEntry, vmmAreaSize_pages, hi, if_true, PhysAddr.new_of_lt hlt,
    Option.bind_eq_bind, Option.bind_some, PageTableEntry.setAddr_of_aligned (a := ⟨_, hlt⟩) hal]
  rfl

theorem modifyEntry_high (hi : 256 ≤ i) :
    modifyEntry pd uefiPd4 base i c = some (c.write pd i (c.mem uefiPd4 i)) := by
  simp only [modifyEntry, vmmAreaSize_pages, show ¬ i < 256 by omega, if_false]

theorem identityEntry_eq (hi : i < 512) :
    identityEntry pd i c = some (c.write pd i (identityPde i)) := by
  have haddr : (0x1_0000_0000 + 0x20_0000 * UInt64.ofNat i).toNat = 2 ^ 32 + 2 ^ 21 * i := by
    simp only [UInt64.toNat_add, UInt64.toNat_mul, UInt64.toNat_ofNat', UInt64.reduceToNat]
    omega
  have hlt : (0x1_0000_0000 + 0x20_0000 * UInt64.ofNat i).toNat < 2 ^ 52 := by omega
  have hal : (0x1_0000_0000 + 0x20_0000 * UInt64.ofNat i).toNat % 4096 = 0 := by omega
  simp only [identityEntry, PhysAddr.new_of_lt hlt, Option.bind_eq_bind, Option.bind_some,
    PageTableEntry.setAddr_of_aligned (a := ⟨_, hlt⟩) hal]
  rfl

end

/-! ## The whole of `modify_table` -/

section
variable {pages : Nat → UInt64} {N : Nat} (hP : PageAllocator pages N)
include hP

/-- **What `modify_table` does**, when the entry point leaves room for the
VMM area below `2^52`: it returns, after one allocation, and when the copy's
PML4 and its PDPT are not the new page, the new page directory holds
`pdEntry`, the copy's PDPT entry 4 points to it with `vmmPdpte4Flags`, and
nothing else changes. The directory reads UEFI's at `uefiPd4`, through
UEFI's PML4 entry 0 and PDPT entry 4. -/
theorem modifyTable_spec {v4 uefiPml4 vmmPdp uefiPd4 : Nat} {e : PhysAddr} {s : State}
    (he : e.val.toNat + 2 ^ 29 ≤ 2 ^ 52) (hvp : tableOf (s.mem v4 0) = vmmPdp)
    (hud : tableOf (s.mem.zero (pages s.next).toNat
      (tableOf (s.mem.zero (pages s.next).toNat uefiPml4 0)) 4) = uefiPd4) :
    ∃ s', modifyTable pages v4 e uefiPml4 s = some s' ∧ s'.next = s.next + 1 ∧
      (v4 ≠ (pages s.next).toNat → vmmPdp ≠ (pages s.next).toNat →
        (∀ t, t ≠ (pages s.next).toNat → t ≠ vmmPdp → s'.mem t = s.mem t) ∧
        (∀ i, i ≠ 4 → s'.mem vmmPdp i = s.mem vmmPdp i) ∧
        s'.mem vmmPdp 4 = (pages s.next ||| (vmmPdpte4Flags (s.mem vmmPdp 4)).bits) ∧
        ∀ i, i < 512 → s'.mem (pages s.next).toNat i =
          pdEntry (vmmAreaBase e) (s.mem vmmPdp 4) (s.mem.zero (pages s.next).toNat uefiPd4) i) := by
  set pd := (pages s.next).toNat with hpd
  set s1 := ((s.allocate pages).2.zero pd) with hs1
  have hbase : (vmmAreaBase e).toNat % 2 ^ 21 = 0 ∧ (vmmAreaBase e).toNat + 2 ^ 29 ≤ 2 ^ 52 := by
    rw [vmmAreaBase_toNat]
    constructor
    · exact Nat.mul_mod_left _ _
    · exact le_trans (Nat.add_le_add_right (Nat.div_mul_le_self _ _) _) he
  obtain ⟨s2, h2, hn2, hrow2, hcol2⟩ := forRange_fill (modifyEntry pd uefiPd4 (vmmAreaBase e))
    pd 0 512 s1 (fun i => if i < 256 then vmmAreaPde (vmmAreaBase e) i else s1.mem uefiPd4 i) (by decide)
    (fun i c _ hi _ hrow hcol => by
      by_cases hlow : i < 256
      · rw [modifyEntry_low hbase.1 hbase.2 hlow, if_pos hlow]
      · rw [modifyEntry_high (by omega), if_neg hlow]
        by_cases hu : uefiPd4 = pd
        · rw [hu, hcol i le_rfl]
        · rw [hrow uefiPd4 hu])
  simp only [hs1, State.zero_next, State.allocate_next, State.zero_mem, State.allocate_mem]
    at hn2 hrow2 hcol2
  have h2' : forRange 0 512 (modifyEntry pd uefiPd4 (e.val &&& ~~~0x1f_ffff))
      (({ mem := s.mem, next := s.next + 1 } : State).zero pd) = some s2 := h2
  unfold modifyTable
  simp only [State.allocate, State.zero_mem, addr_toNat, ← hpd, hud, Option.bind_eq_bind,
    Option.bind_some, vmmAreaSize_pages, pageAddr_new hP]
  rw [h2', Option.bind_some]
  obtain ⟨w, hw⟩ : ∃ w, tableOf (s2.mem v4 0) = w := ⟨_, rfl⟩
  rw [hw]
  have hs2 : ∀ t, t ≠ pd → s2.mem t = s.mem t := fun t ht => by
    rw [hrow2 t ht, Tables.zero_row _ ht]
  have hwv : v4 ≠ pd → w = vmmPdp := fun hv4 => by rw [← hw, hs2 v4 hv4, hvp]
  by_cases hh : hugePresent (s2.mem w 4) = true
  · obtain ⟨s3, h3, hn3, hrow3, hcol3⟩ := forRange_fill (identityEntry pd) pd 256 512 s2 identityPde
      (by decide) fun i c _ hi _ _ _ => identityEntry_eq hi
    have hh' := hh
    simp only [hugePresent] at hh'
    simp only [hh', if_true, h3, Option.bind_some,
      PageTableEntry.setAddr_of_aligned (a := ⟨pages s.next, hP.valid _⟩) (hP.aligned s.next)]
    refine ⟨_, rfl, by simp [hn3, hn2], fun hv4 hvp_pd => ?_⟩
    obtain rfl := hwv hv4
    rw [hs2 _ hvp_pd] at hh
    refine ⟨fun t ht ht' => ?_, fun i hi => ?_, ?_, fun i hi => ?_⟩
    · rw [State.write_mem, Tables.write_row _ _ ht', hrow3 t ht, hs2 t ht]
    · rw [State.write_mem, Tables.write_of_ne _ _ (Or.inr hi), hrow3 w hvp_pd, hs2 w hvp_pd]
    · rw [State.write_mem, Tables.write_self, hs2 w hvp_pd]
      simp only [vmmPdpte4Flags, hh, if_true]
    · rw [State.write_mem, Tables.write_row _ _ (Ne.symm hvp_pd), hcol3 i, hcol2 i]
      simp only [pdEntry, hh, if_true]
      by_cases hlow : i < 256
      · simp [hlow, hi, show ¬ 256 ≤ i by omega]
      · simp [hlow, hi, show 256 ≤ i by omega]
  · have hh' := hh
    simp only [hugePresent, Bool.not_eq_true] at hh'
    simp only [hh', Bool.false_eq_true, if_false, Option.bind_some,
      PageTableEntry.setAddr_of_aligned (a := ⟨pages s.next, hP.valid _⟩) (hP.aligned s.next)]
    refine ⟨_, rfl, by simp [hn2], fun hv4 hvp_pd => ?_⟩
    obtain rfl := hwv hv4
    rw [hs2 _ hvp_pd] at hh
    refine ⟨fun t ht ht' => ?_, fun i hi => ?_, ?_, fun i hi => ?_⟩
    · rw [State.write_mem, Tables.write_row _ _ ht', hs2 t ht]
    · rw [State.write_mem, Tables.write_of_ne _ _ (Or.inr hi), hs2 w hvp_pd]
    · rw [State.write_mem, Tables.write_self, hs2 w hvp_pd]
      simp only [vmmPdpte4Flags, hh, Bool.false_eq_true, if_false]
    · rw [State.write_mem, Tables.write_row _ _ (Ne.symm hvp_pd), hcol2 i]
      simp only [pdEntry, hh, Bool.false_eq_true, if_false]
      by_cases hlow : i < 256
      · simp [hlow, hi]
      · simp [hlow, hi]

end

end Htvmm.Loader
