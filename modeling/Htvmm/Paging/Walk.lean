import Htvmm.Paging.Entry

/-!
# The four-level walk

IA-32e paging and Intel EPT walk the same radix tree: four levels of
512-entry tables, a 9-bit index per level, the next table's address in bits
51:12 of an entry, and bit 7 making an entry a 1 GiB or 2 MiB page at the two
middle levels. The formats differ only in what makes an entry present and
which bits grant access.

* `walk` returns the leaf entry, its level and the access bits common to every
  entry on the way; `translate` the physical address;
* `walk_congr`: a walk depends only on the entries it reads (`slots`);
* `walk_leaf`: a walk ends at a present leaf;
* `walk_of_covers`: a table tree that copies every present entry of another
  one, leaves exactly, is walked to the same leaf; `covers_congr`: such a
  copy survives every write outside its own tables.
-/

namespace Paging

/-- Physical memory as page tables: the entry at index `i` of the table at
physical address `t`. Every table is 4 KiB aligned, so its entries are the
64-bit words at `t + 8 * i`. -/
abbrev Tables := Nat → Nat → UInt64

namespace Tables

def write (m : Tables) (t i : Nat) (v : UInt64) : Tables :=
  fun t' i' => if t' = t ∧ i' = i then v else m t' i'

/-- `PageTable::zero`. -/
def zero (m : Tables) (t : Nat) : Tables :=
  fun t' i' => if t' = t then 0 else m t' i'

@[simp] theorem write_self (m : Tables) (t i : Nat) (v : UInt64) : m.write t i v t i = v := by
  simp [write]

theorem write_of_ne (m : Tables) {t i t' i' : Nat} (v : UInt64) (h : t' ≠ t ∨ i' ≠ i) :
    m.write t i v t' i' = m t' i' := by
  unfold write
  rw [if_neg]
  omega

theorem write_of_table_ne (m : Tables) {t i t' : Nat} (v : UInt64) (h : t' ≠ t) (i' : Nat) :
    m.write t i v t' i' = m t' i' :=
  write_of_ne m v (Or.inl h)

theorem write_row (m : Tables) {t i t' : Nat} (v : UInt64) (h : t' ≠ t) :
    m.write t i v t' = m t' :=
  funext (write_of_table_ne m v h)

@[simp] theorem write_write (m : Tables) (t i : Nat) (v w : UInt64) :
    (m.write t i v).write t i w = m.write t i w := by
  funext t' i'
  by_cases h : t' = t ∧ i' = i <;> simp [write, h]

@[simp] theorem zero_self (m : Tables) (t i : Nat) : m.zero t t i = 0 := by
  simp [zero]

theorem zero_of_ne (m : Tables) {t t' : Nat} (h : t' ≠ t) (i : Nat) : m.zero t t' i = m t' i := by
  simp [zero, h]

theorem zero_row (m : Tables) {t t' : Nat} (h : t' ≠ t) : m.zero t t' = m t' :=
  funext (zero_of_ne m h)

end Tables

/-- What makes an entry present, and which bits grant access. -/
structure Format where
  present : UInt64 → Bool
  rights : UInt64 → UInt64

/-- IA-32e paging: bit 0 is present; bits 1 (write) and 2 (user) grant access. -/
def Format.ia32e : Format := ⟨fun e => e &&& 1 != 0, fun e => e &&& 6⟩

/-- EPT: an entry is present when it grants read, write or execute (bits 2:0). -/
def Format.ept : Format := ⟨fun e => e &&& 7 != 0, fun e => e &&& 7⟩

/-- Bit 7: a page rather than a table, at the two middle levels. -/
def huge (e : UInt64) : Bool := e &&& 0x80 != 0

/-- The address bits below the index of `level` (1 = page table ... 4 = PML4):
12, 21, 30, 39. -/
def shift (level : Nat) : Nat := 3 + 9 * level

/-- The entry `va` selects at `level`: bits `shift level + 8` down to `shift level`. -/
def index (va : UInt64) (level : Nat) : Nat := va.toNat / 2 ^ shift level % 512

theorem index_lt (va : UInt64) (level : Nat) : index va level < 512 := Nat.mod_lt _ (by decide)

/-- A present entry at `level` maps a page when it is at level 1, or has bit 7
set at level 2 or 3. -/
def isLeaf (level : Nat) (e : UInt64) : Bool :=
  level == 1 || ((level == 2 || level == 3) && huge e)

/-- The table a non-leaf entry points to. -/
def tableOf (e : UInt64) : Nat := (e &&& addrMask).toNat

/-! ## `PageTableEntry` read by the IA-32e walk -/

open Word in
theorem present_eq (e : UInt64) :
    (PageTableEntry.mk e).flags.contains PageTableFlags.PRESENT = Format.ia32e.present e := by
  rw [PageTableEntry.flags, Flags.contains_bit e PageTableFlags.PRESENT (k := 0) (by decide)]
  exact (and_bit_bne_zero e (k := 0) (by decide)).symm

open Word in
theorem huge_eq (e : UInt64) :
    (PageTableEntry.mk e).flags.contains PageTableFlags.HUGE_PAGE = huge e := by
  rw [PageTableEntry.flags, Flags.contains_bit e PageTableFlags.HUGE_PAGE (k := 7) (by decide)]
  exact (and_bit_bne_zero e (k := 7) (by decide)).symm

@[simp] theorem addr_toNat (e : UInt64) : (PageTableEntry.mk e).addr.val.toNat = tableOf e := rfl

/-- The access bits are flags. -/
theorem rights_flags (e : UInt64) :
    Format.ia32e.rights (PageTableEntry.mk e).flags.bits = Format.ia32e.rights e := by
  show e &&& pageTableFlagBits &&& 6 = e &&& 6
  rw [UInt64.and_assoc, show pageTableFlagBits &&& 6 = 6 by decide]

/-- An entry that `set_addr` builds from a 4 KiB-aligned address and the
flags `f`: present, mapping a page and granting access as `f` says, and
pointing to that address. -/
theorem setAddr_entry {a : PhysAddr} (ha : a.val.toNat % 4096 = 0) (f : PageTableFlags) :
    Format.ia32e.present (a.val ||| f.bits) = f.contains PageTableFlags.PRESENT ∧
      huge (a.val ||| f.bits) = f.contains PageTableFlags.HUGE_PAGE ∧
      Format.ia32e.rights (a.val ||| f.bits) = Format.ia32e.rights f.bits ∧
      tableOf (a.val ||| f.bits) = a.val.toNat := by
  obtain ⟨haddr, hflags⟩ := PageTableEntry.addr_flags_setAddr ha f
  refine ⟨?_, ?_, ?_, ?_⟩
  · rw [← present_eq, hflags]
  · rw [← huge_eq, hflags]
  · rw [← rights_flags, hflags]
  · exact congrArg (fun p : PhysAddr => p.val.toNat) haddr

/-- With the flags of `e`, such an entry is present, maps a page and grants
access exactly as `e` does. -/
theorem setAddr_flags_entry {a : PhysAddr} (ha : a.val.toNat % 4096 = 0) (e : UInt64) :
    Format.ia32e.present (a.val ||| (PageTableEntry.mk e).flags.bits) = Format.ia32e.present e ∧
      Format.ia32e.rights (a.val ||| (PageTableEntry.mk e).flags.bits) = Format.ia32e.rights e ∧
      huge (a.val ||| (PageTableEntry.mk e).flags.bits) = huge e ∧
      tableOf (a.val ||| (PageTableEntry.mk e).flags.bits) = a.val.toNat := by
  obtain ⟨hp, hh, hr, ht⟩ := setAddr_entry ha (PageTableEntry.mk e).flags
  exact ⟨hp.trans (present_eq e), hr.trans (rights_flags e), hh.trans (huge_eq e), ht⟩

/-- The end of a walk: the entry that maps the page, its level, and the access
bits set in every entry on the way. -/
structure Leaf where
  entry : UInt64
  level : Nat
  rights : UInt64
  deriving DecidableEq

/-- The page's base: bits 51 down to `shift level` of the leaf entry. -/
def Leaf.frame (l : Leaf) : Nat := l.entry.toNat % 2 ^ 52 / 2 ^ shift l.level * 2 ^ shift l.level

/-- The physical address of `va` in the leaf's page. -/
def Leaf.addr (l : Leaf) (va : UInt64) : Nat := l.frame + va.toNat % 2 ^ shift l.level

@[simp] theorem Leaf.addr_rights (l : Leaf) (r : UInt64) (va : UInt64) :
    ({ l with rights := r } : Leaf).addr va = l.addr va := rfl

/-- The address field of an entry is bits 51:12 of its value. -/
theorem addrOf_toNat (e : UInt64) : (addrOf e).val.toNat = e.toNat % 2 ^ 52 / 2 ^ 12 * 2 ^ 12 := by
  apply Nat.eq_of_testBit_eq
  intro i
  have hmask : addrMask.toNat = (2 ^ 40 - 1) * 2 ^ 12 := by decide
  show (e &&& addrMask).toNat.testBit i = _
  rw [UInt64.toNat_and, Nat.testBit_and, hmask, Nat.testBit_mul_two_pow,
    Nat.testBit_mul_two_pow, Nat.testBit_two_pow_sub_one, Nat.testBit_div_two_pow,
    Nat.testBit_mod_two_pow]
  by_cases h12 : 12 ≤ i
  · have : i - 12 + 12 = i := by omega
    rw [this]
    by_cases h52 : i < 52
    · have : i - 12 < 40 := by omega
      simp [h12, h52, this, Bool.and_comm]
    · have : ¬ i - 12 < 40 := by omega
      simp [h12, h52, this]
  · simp [h12]

/-- The frame of a leaf whose address field has no bits below the page size
is that address field. -/
theorem frame_of_low {l : Leaf} (hlow : (addrOf l.entry).val.toNat % 2 ^ shift l.level = 0)
    (hl : l.level = 1 ∨ l.level = 2 ∨ l.level = 3) : l.frame = (addrOf l.entry).val.toNat := by
  rw [addrOf_toNat] at hlow ⊢
  unfold Leaf.frame
  rcases hl with h | h | h <;> rw [h] at hlow ⊢ <;>
    simp only [shift, Nat.reducePow, Nat.reduceMul, Nat.reduceAdd] at hlow ⊢ <;> omega

/-- Walk `va` from the table `t` at `level`. -/
def walk (fmt : Format) (mem : Tables) (va : UInt64) : Nat → Nat → Option Leaf
  | 0, _ => none
  | level + 1, t =>
    let e := mem t (index va (level + 1))
    if fmt.present e then
      if isLeaf (level + 1) e then some ⟨e, level + 1, fmt.rights e⟩
      else (walk fmt mem va level (tableOf e)).map
        fun l => { l with rights := fmt.rights e &&& l.rights }
    else none

/-- A canonical address: bits 63:47 all equal, as the processor requires of
every address it translates. -/
def Canonical (va : UInt64) : Prop := va.toNat < 2 ^ 47 ∨ 2 ^ 64 - 2 ^ 47 ≤ va.toNat

instance (va : UInt64) : Decidable (Canonical va) := inferInstanceAs (Decidable (_ ∨ _))

/-- The physical address `va` maps to through the PML4 (or EPT PML4) at `root`. -/
def translate (fmt : Format) (mem : Tables) (root : Nat) (va : UInt64) : Option Nat :=
  (walk fmt mem va 4 root).map (·.addr va)

/-- The entries a walk of `va` reads, as (table, index) pairs. -/
def slots (fmt : Format) (mem : Tables) (va : UInt64) : Nat → Nat → List (Nat × Nat)
  | 0, _ => []
  | level + 1, t =>
    let e := mem t (index va (level + 1))
    (t, index va (level + 1)) ::
      (if fmt.present e && !isLeaf (level + 1) e then slots fmt mem va level (tableOf e) else [])

section
variable {fmt : Format} {mem mem' : Tables} {va : UInt64}

theorem walk_succ (level t : Nat) :
    walk fmt mem va (level + 1) t =
      let e := mem t (index va (level + 1))
      if fmt.present e then
        if isLeaf (level + 1) e then some ⟨e, level + 1, fmt.rights e⟩
        else (walk fmt mem va level (tableOf e)).map
          fun l => { l with rights := fmt.rights e &&& l.rights }
      else none := rfl

/-- What one level of a walk can do: stop at a present leaf, or descend
through a present table entry. -/
theorem walk_succ_eq_some {level t : Nat} {l : Leaf} :
    walk fmt mem va (level + 1) t = some l ↔
      fmt.present (mem t (index va (level + 1))) = true ∧
      ((isLeaf (level + 1) (mem t (index va (level + 1))) = true ∧
          l = ⟨mem t (index va (level + 1)), level + 1,
            fmt.rights (mem t (index va (level + 1)))⟩) ∨
        (isLeaf (level + 1) (mem t (index va (level + 1))) = false ∧
          ∃ l', walk fmt mem va level (tableOf (mem t (index va (level + 1)))) = some l' ∧
            l = { l' with
              rights := fmt.rights (mem t (index va (level + 1))) &&& l'.rights })) := by
  rw [walk_succ]
  simp only
  cases hp : fmt.present (mem t (index va (level + 1))) <;>
    cases hl : isLeaf (level + 1) (mem t (index va (level + 1))) <;>
    simp [eq_comm]

theorem walk_succ_of_leaf {level t : Nat}
    (hp : fmt.present (mem t (index va (level + 1))) = true)
    (hl : isLeaf (level + 1) (mem t (index va (level + 1))) = true) :
    walk fmt mem va (level + 1) t =
      some ⟨mem t (index va (level + 1)), level + 1, fmt.rights (mem t (index va (level + 1)))⟩ := by
  simp only [walk_succ, hp, hl, if_true]

theorem walk_succ_of_node {level t : Nat}
    (hp : fmt.present (mem t (index va (level + 1))) = true)
    (hl : isLeaf (level + 1) (mem t (index va (level + 1))) = false) :
    walk fmt mem va (level + 1) t =
      (walk fmt mem va level (tableOf (mem t (index va (level + 1))))).map
        fun l => { l with rights := fmt.rights (mem t (index va (level + 1))) &&& l.rights } := by
  simp only [walk_succ, hp, hl, if_true, Bool.false_eq_true, if_false]

theorem walk_succ_of_absent {level t : Nat}
    (hp : fmt.present (mem t (index va (level + 1))) = false) :
    walk fmt mem va (level + 1) t = none := by
  simp only [walk_succ, hp, Bool.false_eq_true, if_false]

/-- Through a present table entry, a walk ends at the address the walk of
the table below ends at. -/
theorem walk_succ_addr_of_node {level t : Nat}
    (hp : fmt.present (mem t (index va (level + 1))) = true)
    (hl : isLeaf (level + 1) (mem t (index va (level + 1))) = false) :
    (walk fmt mem va (level + 1) t).map (·.addr va) =
      (walk fmt mem va level (tableOf (mem t (index va (level + 1))))).map (·.addr va) := by
  rw [walk_succ_of_node hp hl, Option.map_map]
  rfl

/-- A walk from a table reads only the entry at the address's index. -/
theorem walk_succ_congr {level v t : Nat}
    (he : mem v (index va (level + 1)) = mem t (index va (level + 1))) :
    walk fmt mem va (level + 1) v = walk fmt mem va (level + 1) t := by
  simp only [walk_succ, he]

/-- A walk ends at a present leaf. -/
theorem walk_leaf : ∀ {level t : Nat} {l : Leaf}, walk fmt mem va level t = some l →
    fmt.present l.entry = true ∧ isLeaf l.level l.entry = true
  | 0, _, _, h => by cases h
  | level + 1, t, l, h => by
    obtain ⟨hp, ⟨hl, rfl⟩ | ⟨-, l', hw, rfl⟩⟩ := walk_succ_eq_some.mp h
    · exact ⟨hp, hl⟩
    · obtain ⟨hp', hl'⟩ := walk_leaf hw
      exact ⟨hp', hl'⟩

theorem level_of_isLeaf {level : Nat} {e : UInt64} (h : isLeaf level e = true) :
    level = 1 ∨ level = 2 ∨ level = 3 := by
  simp only [isLeaf, Bool.or_eq_true, beq_iff_eq, Bool.and_eq_true] at h
  omega

theorem slots_succ (level t : Nat) :
    slots fmt mem va (level + 1) t =
      (t, index va (level + 1)) ::
        (if fmt.present (mem t (index va (level + 1))) &&
            !isLeaf (level + 1) (mem t (index va (level + 1)))
          then slots fmt mem va level (tableOf (mem t (index va (level + 1)))) else []) := rfl

/-- Below a present table entry, a walk reads the entry and then the slots
of the table it points to. -/
theorem slots_descend {level t : Nat}
    (hp : fmt.present (mem t (index va (level + 1))) = true)
    (hl : isLeaf (level + 1) (mem t (index va (level + 1))) = false) :
    slots fmt mem va (level + 1) t =
      (t, index va (level + 1)) ::
        slots fmt mem va level (tableOf (mem t (index va (level + 1)))) := by
  simp [slots_succ, hp, hl]

/-- **A walk reads only its slots.** Two memories that agree on the entries a
walk reads walk `va` to the same leaf. -/
theorem walk_congr : ∀ (level t : Nat),
    (∀ p ∈ slots fmt mem va level t, mem p.1 p.2 = mem' p.1 p.2) →
    walk fmt mem va level t = walk fmt mem' va level t
  | 0, _, _ => rfl
  | level + 1, t, h => by
    have he : mem t (index va (level + 1)) = mem' t (index va (level + 1)) :=
      h _ List.mem_cons_self
    simp only [walk_succ, ← he]
    by_cases hp : fmt.present (mem t (index va (level + 1))) = true
    · by_cases hl : isLeaf (level + 1) (mem t (index va (level + 1))) = true
      · simp [hp, hl]
      · have hrest : ∀ p ∈ slots fmt mem va level (tableOf (mem t (index va (level + 1)))),
            mem p.1 p.2 = mem' p.1 p.2 := by
          intro p hpm
          apply h
          simp only [slots, hp, hl, Bool.not_false, Bool.and_self, if_true]
          exact List.mem_cons_of_mem _ hpm
        simp [hp, hl, walk_congr level _ hrest]
    · simp [hp]

end

/-- `p` is a table of the tree at `t` read at `level`: `t` itself, or a table
of the tree below one of its present entries that does not map a page. -/
def InTree (fmt : Format) (mem : Tables) : Nat → Nat → Nat → Prop
  | 0, _, _ => False
  | level + 1, t, p => p = t ∨ ∃ i < 512, fmt.present (mem t i) = true ∧
      isLeaf (level + 1) (mem t i) = false ∧ InTree fmt mem level (tableOf (mem t i)) p

theorem inTree_root {fmt : Format} {mem : Tables} {level t : Nat} :
    InTree fmt mem (level + 1) t t :=
  Or.inl rfl

theorem inTree_of_sub {fmt : Format} {mem : Tables} {level t i p : Nat} (hi : i < 512)
    (hp : fmt.present (mem t i) = true) (hl : isLeaf (level + 1) (mem t i) = false)
    (h : InTree fmt mem level (tableOf (mem t i)) p) : InTree fmt mem (level + 1) t p :=
  Or.inr ⟨i, hi, hp, hl, h⟩

/-- `mem'` holds at `v` a copy of the table `mem` holds at `t`, read at
`level`, built in the tables `S`: an entry present in the original is copied
whole when it maps a page, and otherwise becomes a present entry with the
same access bits that points to a copy of the table below, built in `S`
without `v`. Entries absent from the original are unconstrained. -/
def Covers (fmt : Format) (S : Nat → Prop) (mem' mem : Tables) : Nat → Nat → Nat → Prop
  | 0, _, _ => True
  | level + 1, v, t => S v ∧ ∀ i < 512,
    fmt.present (mem t i) = true →
      (isLeaf (level + 1) (mem t i) = true → mem' v i = mem t i) ∧
      (isLeaf (level + 1) (mem t i) = false →
        fmt.present (mem' v i) = true ∧ fmt.rights (mem' v i) = fmt.rights (mem t i) ∧
        isLeaf (level + 1) (mem' v i) = false ∧
        Covers fmt (fun p => S p ∧ p ≠ v) mem' mem level (tableOf (mem' v i)) (tableOf (mem t i)))

section
variable {fmt : Format} {mem' mem'' mem : Tables}

/-- **A copy depends only on its tables.** Writes outside `S` keep it. -/
theorem covers_congr : ∀ {level v t : Nat} {S : Nat → Prop},
    (∀ p, S p → ∀ i, mem' p i = mem'' p i) →
    Covers fmt S mem' mem level v t → Covers fmt S mem'' mem level v t
  | 0, _, _, _, _, _ => trivial
  | level + 1, v, t, S, hS, ⟨hv, h⟩ => by
    refine ⟨hv, fun i hi hp => ?_⟩
    have he : mem' v i = mem'' v i := hS v hv i
    obtain ⟨hleaf, hnode⟩ := h i hi hp
    refine ⟨fun hl => he ▸ hleaf hl, fun hl => ?_⟩
    obtain ⟨hp', hr', hl', hsub⟩ := hnode hl
    rw [← he]
    exact ⟨hp', hr', hl', covers_congr (fun p hp => hS p hp.1) hsub⟩

end

/-- A present entry of the original is present in a covering copy. -/
theorem Covers.present {fmt : Format} {S : Nat → Prop} {mem' mem : Tables} {level v t i : Nat}
    (h : Covers fmt S mem' mem (level + 1) v t) (hi : i < 512) (hp : fmt.present (mem t i) = true) :
    fmt.present (mem' v i) = true := by
  obtain ⟨hleaf, hnode⟩ := h.2 i hi hp
  cases hl : isLeaf (level + 1) (mem t i)
  · exact (hnode hl).1
  · rw [hleaf hl]
    exact hp

/-- **One level of a copy.** The copy at `v` reaches every leaf the
original reaches from `t` when the entry the walk reads is copied whole where
it maps a page, and is otherwise a present table entry with the same access
whose table reaches every leaf the original's does. -/
theorem walk_succ_of_sub {fmt : Format} {mem' mem : Tables} {va : UInt64} {level v t : Nat}
    (hleaf : fmt.present (mem t (index va (level + 1))) = true →
      isLeaf (level + 1) (mem t (index va (level + 1))) = true →
      mem' v (index va (level + 1)) = mem t (index va (level + 1)))
    (hnode : fmt.present (mem t (index va (level + 1))) = true →
      isLeaf (level + 1) (mem t (index va (level + 1))) = false →
      fmt.present (mem' v (index va (level + 1))) = true ∧
      fmt.rights (mem' v (index va (level + 1))) = fmt.rights (mem t (index va (level + 1))) ∧
      isLeaf (level + 1) (mem' v (index va (level + 1))) = false ∧
      ∀ l, walk fmt mem va level (tableOf (mem t (index va (level + 1)))) = some l →
        walk fmt mem' va level (tableOf (mem' v (index va (level + 1)))) = some l)
    {l : Leaf} (h : walk fmt mem va (level + 1) t = some l) : walk fmt mem' va (level + 1) v = some l := by
  obtain ⟨hp, ⟨hl, rfl⟩ | ⟨hl, l', hw, rfl⟩⟩ := walk_succ_eq_some.mp h
  · rw [walk_succ_of_leaf (by rw [hleaf hp hl]; exact hp) (by rw [hleaf hp hl]; exact hl), hleaf hp hl]
  · obtain ⟨hp', hr', hl', hsub⟩ := hnode hp hl
    rw [walk_succ_of_node hp' hl', hsub l' hw, hr']
    rfl

/-- **Copies walk alike.** Whatever leaf the original tree reaches from `t`,
a covering copy reaches the same leaf from `v`. -/
theorem walk_of_covers {fmt : Format} {S : Nat → Prop} {mem' mem : Tables} {va : UInt64} :
    ∀ (level v t : Nat) (l : Leaf), Covers fmt S mem' mem level v t →
      walk fmt mem va level t = some l → walk fmt mem' va level v = some l
  | 0, _, _, _, _, h => by cases h
  | level + 1, v, t, l, ⟨_, hc⟩, h => by
    have hi := index_lt va (level + 1)
    refine walk_succ_of_sub (fun hp hl => (hc _ hi hp).1 hl) (fun hp hl => ?_) h
    obtain ⟨hp', hr', hl', hsub⟩ := (hc _ hi hp).2 hl
    exact ⟨hp', hr', hl', fun l' hw => walk_of_covers level _ _ l' hsub hw⟩

section
variable {fmt : Format} {mem mem' : Tables} {va : UInt64}

/-- A walk reads only tables of the tree. -/
theorem slots_inTree : ∀ {level t : Nat}, ∀ p ∈ slots fmt mem va level t,
    InTree fmt mem level t p.1
  | 0, _, _, h => by cases h
  | level + 1, t, p, h => by
    rw [slots_succ] at h
    rcases List.mem_cons.mp h with rfl | h
    · exact inTree_root
    · by_cases hc : (fmt.present (mem t (index va (level + 1))) &&
          !isLeaf (level + 1) (mem t (index va (level + 1)))) = true
      · rw [if_pos hc] at h
        simp only [Bool.and_eq_true, Bool.not_eq_true'] at hc
        exact inTree_of_sub (index_lt va (level + 1)) hc.1 hc.2 (slots_inTree p h)
      · rw [if_neg hc] at h
        cases h

/-- **A walk depends only on its tree.** -/
theorem walk_congr_inTree {level t : Nat} (h : ∀ p, InTree fmt mem level t p → mem' p = mem p) :
    walk fmt mem' va level t = walk fmt mem va level t :=
  (walk_congr level t fun p hp => (congrFun (h p.1 (slots_inTree p hp)) p.2).symm).symm

end

end Paging
