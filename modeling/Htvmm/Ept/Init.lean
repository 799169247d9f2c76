import Htvmm.Ept.Entry
import Htvmm.Loader.Modify

/-!
# `init_ept`

`init_ept` (vmm/src/arch/intel/ept.rs) builds the EPT the guest runs on: a
zeroed PML4 whose entry 0 points to a zeroed PDPT, and for each whole
gigabyte `i_pdpt` of `memory_size` a page directory of 512 pages of 2 MiB at
`2 MiB * i_pdt + 1 GiB * i_pdpt`. The page directories are not zeroed; every
one of their entries is written.

The memory and the allocations are the loader's `State`: the VMM's `alloc`
hands out 4 KiB pages `pages 0`, `pages 1`, ... as `allocate_pages` does, and
an `EptTable` is known by the physical address of its page, where the
processor's walk reads its entries.

* `initEpt_spec`: below 513 GiB `init_ept` returns, and what it leaves is
  `Built`, in pages it allocated;
* `initEpt_of_large`: from 513 GiB on it indexes the PDPT past 511 and panics.
-/

namespace Htvmm.Ept

open Word Paging Loop Loader

/-- `EptTable(*mut u8)`, by the physical address of the page it points to. -/
structure EptTable where
  page : UInt64

namespace EptTable

/-- `EptTable::new`: the next page `alloc` returns. -/
def new (pages : Nat → UInt64) (s : State) : EptTable × State :=
  let (page, s) := s.allocate pages
  (⟨page⟩, s)

/-- `EptTable::paddr` where the loader's map of the VMM area agrees with
`paddr`, the condition of `Loader.vmm_area_agrees_iff`: there the pointer plus
`vmm_phys_offset` is the page's physical address, so the page is taken as
that address, through `PhysAddr::new`. `Boot.EptTable.paddr` models the
`try_from` and offset chain itself. -/
def paddr (t : EptTable) : Option PhysAddr := PhysAddr.new t.page

/-- `EptTable::zero`: all 4096 bytes, so all 512 entries, become 0. -/
def zero (t : EptTable) (s : State) : State := s.zero t.page.toNat

/-- `t[index].f(..)`: `IndexMut` views the page as a slice of 512 entries, so
an index past 511 panics. -/
def update (t : EptTable) (index : Nat) (f : EptTableEntry → EptTableEntry) (s : State) :
    Option State :=
  if index < 512 then some (s.write t.page.toNat index (f ⟨s.mem t.page.toNat index⟩).raw)
  else none

end EptTable

/-- `READ_ACCESS | WRITE_ACCESS | EXECUTE_ACCESS`, the flags of the PML4 and
PDPT entries. -/
def tableFlags : EptTableFlags :=
  EptTableFlags.READ_ACCESS ||| EptTableFlags.WRITE_ACCESS ||| EptTableFlags.EXECUTE_ACCESS

/-- `HUGE_PAGE | READ_ACCESS | WRITE_ACCESS | EXECUTE_ACCESS | MEMORY_TYPE_WB`,
the flags of every page directory entry. -/
def pageFlags : EptTableFlags :=
  EptTableFlags.HUGE_PAGE ||| EptTableFlags.READ_ACCESS ||| EptTableFlags.WRITE_ACCESS |||
    EptTableFlags.EXECUTE_ACCESS ||| EptTableFlags.MEMORY_TYPE_WB

/-- A pass of the inner loop: entry `iPdt` of the page directory of the
gigabyte `iPdpt`. The products cannot overflow: `i_pdpt` has indexed the
PDPT, so it is below 512. -/
def pdtEntry (eptPdt : EptTable) (iPdpt iPdt : Nat) (s : State) : Option State := do
  let p ← PhysAddr.new (2 * 1024 * 1024 * UInt64.ofNat iPdt + 1024 * 1024 * 1024 * UInt64.ofNat iPdpt)
  let s ← eptPdt.update iPdt (·.setAddr p) s
  eptPdt.update iPdt (·.setFlags pageFlags) s

/-- A pass of the outer loop: a page directory for the gigabyte `iPdpt`. -/
def pdptEntry (pages : Nat → UInt64) (eptPdpt : EptTable) (iPdpt : Nat) (s : State) :
    Option State := do
  let (eptPdt, s) := EptTable.new pages s
  let p ← eptPdt.paddr
  let s ← eptPdpt.update iPdpt (·.setAddr p) s
  let s ← eptPdpt.update iPdpt (·.setFlags tableFlags) s
  forRange 0 512 (pdtEntry eptPdt iPdpt) s

/-- `init_ept`, with `memory_size` from `BOOT_ARGS`. -/
def initEpt (pages : Nat → UInt64) (args : Boot.BootArgs) (s : State) :
    Option (EptPointer × State) := do
  let memorySizeGb := args.memorySize / (1024 * 1024 * 1024)
  let (eptPml4, s) := EptTable.new pages s
  let s := eptPml4.zero s
  let (eptPdpt, s) := EptTable.new pages s
  let s := eptPdpt.zero s
  let p ← eptPdpt.paddr
  let s ← eptPml4.update 0 (·.setAddr p) s
  let s ← eptPml4.update 0 (·.setFlags tableFlags) s
  let s ← forRange 0 memorySizeGb.toNat (pdptEntry pages eptPdpt) s
  let p ← eptPml4.paddr
  let eptp := (EptPointer.new.setAddr p).setFlags
    (EptPointerFlags.MEMORY_TYPE_WRITEBACK ||| EptPointerFlags.PAGE_WALK_LENGTH_4)
  some (eptp, s)

/-- The entry `init_ept` writes at entry `iPdt` of the page directory of the
gigabyte `iPdpt`. -/
def hugePde (iPdpt iPdt : Nat) : UInt64 :=
  (2 * 1024 * 1024 * UInt64.ofNat iPdt + 1024 * 1024 * 1024 * UInt64.ofNat iPdpt) |||
    pageFlags.bits

/-! ## Writing an entry -/

/-- `set_addr` and then `set_flags` leave the address and the flags, whatever
the entry held before. -/
theorem setFlags_setAddr_raw (raw : UInt64) {p : PhysAddr} (hp : p.val.toNat % 4096 = 0)
    (f : EptTableFlags) : (((EptTableEntry.mk raw).setAddr p).setFlags f).raw = p.val ||| f.bits := by
  show (Tagged.addr (Tagged.setAddr eptTableFlagBits raw p)).val ||| f.bits = _
  rw [Tagged.addr_setAddr addrMask_and_eptTableFlagBits raw hp]

/-- `t[i].set_addr(p)` and then `t[i].set_flags(f)`, followed by `k`. -/
theorem update_setAddr_setFlags {α : Type} (t : EptTable) {i : Nat} (hi : i < 512) {p : PhysAddr}
    (hp : p.val.toNat % 4096 = 0) (f : EptTableFlags) (s : State) (k : State → Option α) :
    ((t.update i (·.setAddr p) s).bind fun s => (t.update i (·.setFlags f) s).bind k) =
      k (s.write t.page.toNat i (p.val ||| f.bits)) := by
  simp only [EptTable.update, hi, if_true, Option.bind_some, Tables.write_self,
    setFlags_setAddr_raw _ hp, State.write, Tables.write_write]

theorem pdeAddr_toNat {iPdpt iPdt : Nat} (hj : iPdpt < 512) (hi : iPdt < 512) :
    (2 * 1024 * 1024 * UInt64.ofNat iPdt + 1024 * 1024 * 1024 * UInt64.ofNat iPdpt).toNat =
      2 ^ 21 * iPdt + 2 ^ 30 * iPdpt := by
  simp only [UInt64.toNat_add, UInt64.toNat_mul, UInt64.toNat_ofNat', UInt64.reduceToNat,
    Nat.reduceMul, Nat.reducePow, Nat.reduceMod]
  omega

/-- A pass of the inner loop writes its entry, whatever the page held. -/
theorem pdtEntry_eq (t : EptTable) {iPdpt iPdt : Nat} (hj : iPdpt < 512) (hi : iPdt < 512)
    (s : State) : pdtEntry t iPdpt iPdt s = some (s.write t.page.toNat iPdt (hugePde iPdpt iPdt)) := by
  have haddr := pdeAddr_toNat hj hi
  have hlt : (2 * 1024 * 1024 * UInt64.ofNat iPdt +
      1024 * 1024 * 1024 * UInt64.ofNat iPdpt).toNat < 2 ^ 52 := by omega
  have hal : (2 * 1024 * 1024 * UInt64.ofNat iPdt +
      1024 * 1024 * 1024 * UInt64.ofNat iPdpt).toNat % 4096 = 0 := by omega
  have h := update_setAddr_setFlags t hi (p := ⟨_, hlt⟩) hal pageFlags s some
  simp only [Option.bind_fun_some] at h
  simp only [pdtEntry, PhysAddr.new_of_lt hlt, Option.bind_eq_bind, Option.bind_some]
  exact h

/-! ## The two loops -/

section
variable {pages : Nat → UInt64} {N : Nat} (hP : PageAllocator pages N)
include hP

/-- A pass of the outer loop allocates the page directory, points PDPT entry
`j` to it and fills it; nothing else changes. -/
theorem pdptEntry_spec (t : EptTable) {j : Nat} (hj : j < 512) (c : State) :
    ∃ c', pdptEntry pages t j c = some c' ∧ c'.next = c.next + 1 ∧
      (∀ u, u ≠ (pages c.next).toNat →
        c'.mem u = c.mem.write t.page.toNat j (pages c.next ||| tableFlags.bits) u) ∧
      ∀ k < 512, c'.mem (pages c.next).toNat k = hugePde j k := by
  set c2 := (c.allocate pages).2.write t.page.toNat j (pages c.next ||| tableFlags.bits)
  obtain ⟨c', hloop, hnext, hrow, hpdt⟩ := forRange_fill (pdtEntry ⟨pages c.next⟩ j)
    (pages c.next).toNat 0 512 c2 (hugePde j) (by omega)
    (fun i d _ hi _ _ _ => pdtEntry_eq ⟨pages c.next⟩ hj hi d)
  refine ⟨c', ?_, by simp [hnext, c2], fun u hu => by rw [hrow u hu]; rfl, fun k hk => ?_⟩
  · simp only [pdptEntry, EptTable.new, EptTable.paddr, State.allocate_fst, pageAddr_new hP,
      Option.bind_eq_bind, Option.bind_some]
    rw [update_setAddr_setFlags t hj (hP.aligned c.next) tableFlags]
    exact hloop
  · rw [hpdt k, if_pos ⟨Nat.zero_le k, hk⟩]

/-- The outer loop after `j` passes from the state `s1`, with the PDPT at
`pdpt`: PDPT entries below `j` point to the page directories allocated from
`s1.next` on, those are filled, and nothing else has changed. -/
structure PdptDone (pages : Nat → UInt64) (s1 : State) (pdpt j : Nat) (c : State) : Prop where
  next : c.next = s1.next + j
  pdpt_entry : ∀ k, c.mem pdpt k =
    if k < j then pages (s1.next + k) ||| tableFlags.bits else s1.mem pdpt k
  pdt_entry : ∀ m < j, ∀ k < 512, c.mem (pages (s1.next + m)).toNat k = hugePde m k
  frame : ∀ u, u ≠ pdpt → (∀ m < j, u ≠ (pages (s1.next + m)).toNat) → c.mem u = s1.mem u

theorem pdptDone_step {s1 : State} (t : EptTable) {j : Nat} {c : State} (hj : j < 512)
    (hN : s1.next + j < N) (hpdpt : ∀ m ≤ j, (pages (s1.next + m)).toNat ≠ t.page.toNat)
    (h : PdptDone pages s1 t.page.toNat j c) :
    ∃ c', pdptEntry pages t j c = some c' ∧ PdptDone pages s1 t.page.toNat (j + 1) c' := by
  obtain ⟨c', hc', hnext, hrest, hpdt⟩ := pdptEntry_spec hP t hj c
  rw [h.next] at hnext hrest hpdt
  have hfresh : ∀ m < j, (pages (s1.next + m)).toNat ≠ (pages (s1.next + j)).toNat :=
    fun m hm => page_ne hP (by omega) hN (by omega)
  refine ⟨c', hc', ⟨by omega, fun k => ?_, fun m hm k hk => ?_, fun u hu hm => ?_⟩⟩
  · rw [hrest _ (hpdpt j le_rfl).symm]
    by_cases hk : k = j
    · subst hk
      rw [Tables.write_self, if_pos (by omega)]
    · rw [Tables.write_of_ne _ _ (Or.inr hk), h.pdpt_entry k]
      by_cases hkj : k < j
      · rw [if_pos hkj, if_pos (by omega)]
      · rw [if_neg hkj, if_neg (by omega)]
  · by_cases hmj : m = j
    · subst hmj
      exact hpdt k hk
    · rw [hrest _ (hfresh m (by omega)), Tables.write_of_table_ne _ _ (hpdpt m (by omega)),
        h.pdt_entry m (by omega) k hk]
  · rw [hrest u (hm j (by omega)), Tables.write_row _ _ hu,
      h.frame u hu fun m hm' => hm m (by omega)]

theorem pdptLoop_spec {s1 : State} (t : EptTable) {gb : Nat} (hgb : gb ≤ 512)
    (hN : s1.next + gb ≤ N) (hpdpt : ∀ m < gb, (pages (s1.next + m)).toNat ≠ t.page.toNat) :
    ∃ c, forRange 0 gb (pdptEntry pages t) s1 = some c ∧ PdptDone pages s1 t.page.toNat gb c :=
  forRange_spec (PdptDone pages s1 t.page.toNat) (Nat.zero_le gb)
    (fun j _ _ hj h => pdptDone_step hP t (by omega) (by omega)
      (fun m hm => hpdpt m (by omega)) h)
    ⟨rfl, fun k => by simp, fun m hm => absurd hm (Nat.not_lt_zero m), fun _ _ _ => rfl⟩

end

/-- The tables `init_ept` leaves for `gb` gigabytes: PML4 entry 0 points to
the PDPT and PDPT entry `j < gb` to the page directory `pdt j`, whose entries
map the 2 MiB pages of gigabyte `j`; every other entry of the PML4 and the
PDPT is 0. -/
structure Filled (mem : Tables) (pml4 pdpt : UInt64) (pdt : Nat → UInt64) (gb : Nat) : Prop where
  pml4_entry : ∀ k, mem pml4.toNat k = if k = 0 then pdpt ||| tableFlags.bits else 0
  pdpt_entry : ∀ k, mem pdpt.toNat k = if k < gb then pdt k ||| tableFlags.bits else 0
  pdt_entry : ∀ j < gb, ∀ k < 512, mem (pdt j).toNat k = hugePde j k
  pdpt_within : Within pdpt addrMask
  pdt_within : ∀ j < gb, Within (pdt j) addrMask

section
variable {pages : Nat → UInt64} {N : Nat} (hP : PageAllocator pages N)
include hP

theorem page_within (n : Nat) : Within (pages n) addrMask :=
  within_addrMask (p := ⟨pages n, hP.valid n⟩) (hP.aligned n)

/-- **`init_ept` below 513 GiB.** It returns an EPT pointer to the PML4 with
write-back memory and a four-level walk, and the tables it leaves in the
pages it allocated are `Filled` for the whole gigabytes of `memory_size`;
it writes nothing else. -/
theorem initEpt_spec (args : Boot.BootArgs) (s : State)
    (hN : s.next + 2 + args.memorySize.toNat / 2 ^ 30 ≤ N)
    (hgb : args.memorySize.toNat / 2 ^ 30 ≤ 512) :
    ∃ eptp s', initEpt pages args s = some (eptp, s') ∧ eptp.addr.val = pages s.next ∧
      eptp.flags = EptPointerFlags.MEMORY_TYPE_WRITEBACK ||| EptPointerFlags.PAGE_WALK_LENGTH_4 ∧
      s'.next = s.next + 2 + args.memorySize.toNat / 2 ^ 30 ∧
      Filled s'.mem (pages s.next) (pages (s.next + 1)) (fun j => pages (s.next + 2 + j))
        (args.memorySize.toNat / 2 ^ 30) ∧
      ∀ u, ¬ Allocated pages s.next s'.next u → s'.mem u = s.mem u := by
  set gb := args.memorySize.toNat / 2 ^ 30
  have hgb' : (args.memorySize / (1024 * 1024 * 1024)).toNat = gb := by
    rw [UInt64.toNat_div, show (1024 * 1024 * 1024 : UInt64).toNat = 2 ^ 30 by decide]
  set pml4 := pages s.next
  set pdpt := pages (s.next + 1)
  set s1 : State := ⟨((s.mem.zero pml4.toNat).zero pdpt.toNat).write pml4.toNat 0
    (pdpt ||| tableFlags.bits), s.next + 2⟩
  have hs1 : s1.next = s.next + 2 := rfl
  have hne : pml4.toNat ≠ pdpt.toNat := page_ne hP (by omega) (by omega) (by omega)
  have hpdt : ∀ m < gb, (pages (s1.next + m)).toNat ≠ pdpt.toNat :=
    fun m hm => page_ne hP (by omega) (by omega) (by omega)
  obtain ⟨c, hloop, hdone⟩ := pdptLoop_spec hP ⟨pdpt⟩ hgb (by omega) hpdt
  refine ⟨(EptPointer.new.setAddr ⟨pml4, hP.valid _⟩).setFlags
    (EptPointerFlags.MEMORY_TYPE_WRITEBACK ||| EptPointerFlags.PAGE_WALK_LENGTH_4), c, ?_, ?_, ?_,
    ?_, ?_, ?_⟩
  · simp only [initEpt, EptTable.new, EptTable.zero, EptTable.paddr, State.allocate_fst,
      State.allocate_next, State.zero_next, pageAddr_new hP, Option.bind_eq_bind, Option.bind_some]
    rw [update_setAddr_setFlags _ (by decide) (hP.aligned _) tableFlags, hgb']
    change (forRange 0 gb (pdptEntry pages ⟨pdpt⟩) s1).bind _ = _
    rw [hloop]
    rfl
  · show (Tagged.addr (Tagged.setFlags (Tagged.setAddr eptPointerFlagBits 0 _) _)).val = _
    rw [Tagged.addr_setFlags addrMask_and_eptPointerFlagBits,
      Tagged.addr_setAddr addrMask_and_eptPointerFlagBits _ (hP.aligned _)]
  · exact Tagged.flags_setFlags addrMask_and_eptPointerFlagBits _ _
  · rw [hdone.next]
  · have hpml4 : ∀ m < gb, pml4.toNat ≠ (pages (s1.next + m)).toNat :=
      fun m hm => page_ne hP (by omega) (by omega) (by omega)
    refine ⟨fun k => ?_, fun k => ?_, hdone.pdt_entry, page_within hP _,
      fun j _ => page_within hP _⟩
    · rw [hdone.frame _ hne hpml4]
      by_cases hk : k = 0
      · subst hk
        rw [if_pos rfl]
        exact Tables.write_self _ _ _ _
      · rw [if_neg hk]
        show ((s.mem.zero pml4.toNat).zero pdpt.toNat).write pml4.toNat 0 _ pml4.toNat k = 0
        rw [Tables.write_of_ne _ _ (Or.inr hk), Tables.zero_of_ne _ hne, Tables.zero_self]
    · rw [hdone.pdpt_entry k]
      by_cases hk : k < gb
      · rw [if_pos hk, if_pos hk]
      · rw [if_neg hk, if_neg hk]
        show ((s.mem.zero pml4.toNat).zero pdpt.toNat).write pml4.toNat 0 _ pdpt.toNat k = 0
        rw [Tables.write_of_table_ne _ _ (Ne.symm hne), Tables.zero_self]
  · intro u hu
    have hc : c.next = s.next + 2 + gb := hdone.next
    have hu4 : u ≠ pml4.toNat := fun h => hu ⟨s.next, le_rfl, by omega, h⟩
    have hu3 : u ≠ pdpt.toNat := fun h => hu ⟨s.next + 1, by omega, by omega, h⟩
    rw [hdone.frame u hu3 fun m hm h => hu ⟨s1.next + m, by omega, by omega, h⟩]
    show ((s.mem.zero pml4.toNat).zero pdpt.toNat).write pml4.toNat 0 _ u = s.mem u
    rw [Tables.write_row _ _ hu4, Tables.zero_row _ hu3, Tables.zero_row _ hu4]

end

/-- PDPT entry 512 is past the slice. -/
theorem pdptEntry_past (pages : Nat → UInt64) (t : EptTable) (c : State) :
    pdptEntry pages t 512 c = none := by
  simp [pdptEntry, EptTable.update]

/-- **From 513 GiB on, `init_ept` panics**: whatever `alloc` returns, the outer
loop gets to index 512 of the PDPT. -/
theorem initEpt_of_large (pages : Nat → UInt64) (args : Boot.BootArgs) (s : State)
    (h : 512 < args.memorySize.toNat / 2 ^ 30) : initEpt pages args s = none := by
  have hgb : 512 < (args.memorySize / (1024 * 1024 * 1024)).toNat := by
    rwa [UInt64.toNat_div, show (1024 * 1024 * 1024 : UInt64).toNat = 2 ^ 30 by decide]
  have hloop : ∀ t c, forRange 0 (args.memorySize / (1024 * 1024 * 1024)).toNat
      (pdptEntry pages t) c = none := by
    intro t c
    rw [forRange_split (Nat.zero_le 512) hgb.le]
    cases forRange 0 512 (pdptEntry pages t) c with
    | none => rfl
    | some c' => rw [Option.bind_some, forRange_of_lt hgb, pdptEntry_past, Option.bind_none]
  simp only [initEpt, Option.bind_eq_bind, hloop]
  simp

theorem initEpt_of_large_at_tib :
    512 < (2 ^ 40 : UInt64).toNat / 2 ^ 30 ∧
      initEpt (fun _ => 0) ⟨0, 2 ^ 40⟩ ⟨fun _ _ => 0, 0⟩ = none :=
  ⟨by decide, initEpt_of_large _ _ _ (by decide)⟩

end Htvmm.Ept
