import Htvmm.Paging.Walk
import Htvmm.Loop.ForRange
import Htvmm.Boot.Args

/-!
# The loader's page tables

`create_page_table` (loader/src/paging.rs) builds the tables the VMM starts
on. `construct_table` copies UEFI's four levels into fresh pages: an unused
entry is skipped, a page entry is copied, and a table entry gets a fresh page
holding a copy of its table. `modify_table` then points PDPT entry 4 of the
copy, the gigabyte from `VMM_AREA_HEAD_VADDR`, at a new page directory whose
first 256 entries map the VMM area in 2 MiB pages from the entry point
rounded down to 2 MiB.

The memory is `Tables`. `allocate_pages` hands out `pages 0`, `pages 1`, ...
in order; an allocation that fails panics in the code and is not modelled.
Panics are `none`.
-/

namespace Htvmm.Loader

open Word Paging Loop Boot

/-- The loader's memory, and how many pages `allocate_pages` has returned. -/
structure State where
  mem : Tables
  next : Nat

namespace State

/-- `allocate_pages(.., 1).unwrap()`: the next page of the sequence. -/
def allocate (pages : Nat → UInt64) (s : State) : UInt64 × State :=
  (pages s.next, { s with next := s.next + 1 })

def write (s : State) (t i : Nat) (v : UInt64) : State := { s with mem := s.mem.write t i v }

/-- `PageTable::zero`. -/
def zero (s : State) (t : Nat) : State := { s with mem := s.mem.zero t }

@[simp] theorem allocate_fst (pages : Nat → UInt64) (s : State) :
    (s.allocate pages).1 = pages s.next := rfl
@[simp] theorem allocate_mem (pages : Nat → UInt64) (s : State) :
    (s.allocate pages).2.mem = s.mem := rfl
@[simp] theorem allocate_next (pages : Nat → UInt64) (s : State) :
    (s.allocate pages).2.next = s.next + 1 := rfl
@[simp] theorem write_mem (s : State) (t i : Nat) (v : UInt64) :
    (s.write t i v).mem = s.mem.write t i v := rfl
@[simp] theorem write_next (s : State) (t i : Nat) (v : UInt64) :
    (s.write t i v).next = s.next := rfl
@[simp] theorem zero_mem (s : State) (t : Nat) : (s.zero t).mem = s.mem.zero t := rfl
@[simp] theorem zero_next (s : State) (t : Nat) : (s.zero t).next = s.next := rfl

end State

/-- The test by which `construct_table_inner` copies an entry whole. -/
def copiesWhole (level : Nat) (e : PageTableEntry) : Bool :=
  ((level == 2 || level == 3) && e.flags.contains PageTableFlags.HUGE_PAGE) || level == 1

/-- One pass of the loop of `construct_table_inner` over entry `i` of the
UEFI table at `uefi`, copied into the table at `vmm`; `recurse` copies a
table one level down. -/
def innerEntry (pages : Nat → UInt64) (level vmm uefi : Nat)
    (recurse : Nat → Nat → State → Option State) (i : Nat) (s : State) : Option State :=
  let uefiTableEntry : PageTableEntry := ⟨s.mem uefi i⟩
  if uefiTableEntry.isUnused then some s
  else if copiesWhole level uefiTableEntry then some (s.write vmm i uefiTableEntry.entry)
  else do
    let (subVmmPageTable, s) := s.allocate pages
    let s ← recurse subVmmPageTable.toNat uefiTableEntry.addr.val.toNat s
    let e ← PageTableEntry.setAddr (← PhysAddr.new subVmmPageTable)
      (PageTableEntry.mk (s.mem uefi i)).flags
    some (s.write vmm i e.entry)

/-- `construct_table_inner`. At level 0 a table entry would compute `level - 1`,
which overflows; the copy never gets there, since level 1 copies every entry. -/
def constructTableInner (pages : Nat → UInt64) : Nat → Nat → Nat → State → Option State
  | 0, vmm, uefi, s => forRange 0 512 (innerEntry pages 0 vmm uefi fun _ _ _ => none) s
  | level + 1, vmm, uefi, s =>
    forRange 0 512 (innerEntry pages (level + 1) vmm uefi (constructTableInner pages level)) s

/-- `construct_table`: a zeroed page for the PML4, and the copy. -/
def constructTable (pages : Nat → UInt64) (uefiPml4Table : Nat) (s : State) :
    Option (Nat × State) := do
  let (vmmPml4Table, s) := s.allocate pages
  let s := s.zero vmmPml4Table.toNat
  let s ← constructTableInner pages 4 vmmPml4Table.toNat uefiPml4Table s
  some (vmmPml4Table.toNat, s)

/-- The flags of the page directory entries that map the VMM area. -/
def vmmAreaFlags : PageTableFlags :=
  PageTableFlags.PRESENT ||| PageTableFlags.WRITABLE ||| PageTableFlags.HUGE_PAGE |||
    PageTableFlags.GLOBAL

/-- The flags of the entries that map the rest of the gigabyte one to one. -/
def identityFlags : PageTableFlags :=
  PageTableFlags.PRESENT ||| PageTableFlags.WRITABLE ||| PageTableFlags.HUGE_PAGE

/-- One pass of the first loop of `modify_table`. The sum cannot overflow:
the base is below `2^52`. -/
def modifyEntry (pdTable uefiPdTable4 : Nat) (vmmEntryPhys : UInt64) (i : Nat) (s : State) :
    Option State :=
  if i < (VMM_AREA_SIZE / 0x20_0000).toNat then do
    let addr := vmmEntryPhys + 0x20_0000 * UInt64.ofNat i
    let pde ← PageTableEntry.setAddr (← PhysAddr.new addr) vmmAreaFlags
    some (s.write pdTable i pde.entry)
  else
    some (s.write pdTable i (s.mem uefiPdTable4 i))

/-- One pass of the second loop of `modify_table`. -/
def identityEntry (pdTable : Nat) (i : Nat) (s : State) : Option State := do
  let pde ← PageTableEntry.setAddr (← PhysAddr.new (0x1_0000_0000 + 0x20_0000 * UInt64.ofNat i))
    identityFlags
  some (s.write pdTable i pde.entry)

/-- `modify_table`. -/
def modifyTable (pages : Nat → UInt64) (vmmPml4Table : Nat) (vmmEntryPhys : PhysAddr)
    (uefiPml4Table : Nat) (s : State) : Option State := do
  let (pdTable, s) := s.allocate pages
  let s := s.zero pdTable.toNat
  let uefiPdpTable := (PageTableEntry.mk (s.mem uefiPml4Table 0)).addr.val.toNat
  let uefiPdTable4 := (PageTableEntry.mk (s.mem uefiPdpTable 4)).addr.val.toNat
  let vmmEntryPhys := vmmEntryPhys.val &&& ~~~0x1f_ffff
  let s ← forRange 0 512 (modifyEntry pdTable.toNat uefiPdTable4 vmmEntryPhys) s
  let vmmPdpTable := (PageTableEntry.mk (s.mem vmmPml4Table 0)).addr.val.toNat
  let vmmPdpte4Flags := (PageTableEntry.mk (s.mem vmmPdpTable 4)).flags
  let (vmmPdpte4Flags, s) ←
    if vmmPdpte4Flags.contains (PageTableFlags.HUGE_PAGE ||| PageTableFlags.PRESENT) then do
      let s ← forRange (VMM_AREA_SIZE / 0x20_0000).toNat 512 (identityEntry pdTable.toNat) s
      some (vmmPdpte4Flags.remove PageTableFlags.HUGE_PAGE, s)
    else some (vmmPdpte4Flags, s)
  let vmmPdpte4 ← PageTableEntry.setAddr (← PhysAddr.new pdTable) vmmPdpte4Flags
  some (s.write vmmPdpTable 4 vmmPdpte4.entry)

/-- `create_page_table`: UEFI's PML4 is the frame of CR3, which must not be
null; the result is the address of the new PML4. -/
def createPageTable (pages : Nat → UInt64) (cr3 : UInt64) (vmmEntryPhys : PhysAddr)
    (s : State) : Option (PhysAddr × State) := do
  let uefiPml4Table := (addrOf cr3).val.toNat
  if uefiPml4Table = 0 then none
  let (vmmPml4Table, s) ← constructTable pages uefiPml4Table s
  let s ← modifyTable pages vmmPml4Table vmmEntryPhys uefiPml4Table s
  some (← PhysAddr.new (UInt64.ofNat vmmPml4Table), s)

end Htvmm.Loader
