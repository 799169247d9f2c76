import Htvmm.Loader.Paging

/-!
# What `construct_table_inner` builds

A call of `construct_table_inner` on the copy at `v` of the table at `u`
returns, and writes only `v` and the pages it allocates (`constructTableInner_spec`).
When the tree of UEFI's tables `T` below `u` is intact and lies outside every
page still to be allocated, the copy is `Copy`: an unused entry keeps what the
page held before, an entry copied whole equals UEFI's, and a table entry
points to a fresh page holding a copy of the table below, with UEFI's flags.
Each table entry's copy is built in its own run of allocations, in the order
of the entries (`Copied`), so a later write to one copy leaves the others be.

`copy_covers`: such a copy covers `T` (`Covers`), and is walked alike.
-/

namespace Htvmm.Loader

open Word Paging Loop Boot

/-- What `allocate_pages` guarantees: pages 4 KiB aligned, with addresses
below `2^52`, and, as long as UEFI has free memory, the first `N` of them,
distinct. -/
structure PageAllocator (pages : Nat → UInt64) (N : Nat) : Prop where
  aligned : ∀ n, (pages n).toNat % 4096 = 0
  valid : ∀ n, (pages n).toNat < 2 ^ 52
  distinct : ∀ m n, m < N → n < N → (pages m).toNat = (pages n).toNat → m = n

/-- The pages of the allocations `a, ..., b - 1`. -/
def Allocated (pages : Nat → UInt64) (a b : Nat) (p : Nat) : Prop :=
  ∃ n, a ≤ n ∧ n < b ∧ p = (pages n).toNat

section
variable {pages : Nat → UInt64}

theorem allocated_mono {a b a' b' p : Nat} (ha : a ≤ a') (hb : b' ≤ b)
    (h : Allocated pages a' b' p) : Allocated pages a b p := by
  obtain ⟨n, h1, h2, rfl⟩ := h
  exact ⟨n, by omega, by omega, rfl⟩

theorem allocated_self {a b : Nat} (h : a < b) : Allocated pages a b (pages a).toNat :=
  ⟨a, le_rfl, h, rfl⟩

/-- A page that none of the first `N` allocations past `a` returns is not
allocated by a run of them. -/
theorem not_allocated_of_fresh {N a b p : Nat} (hb : b ≤ N)
    (h : ∀ n, a ≤ n → n < N → (pages n).toNat ≠ p) : ¬ Allocated pages a b p := by
  rintro ⟨n, h1, h2, rfl⟩
  exact h n h1 (by omega) rfl

variable {N : Nat} (hP : PageAllocator pages N)
include hP

/-- A page outside the run `a, ..., b - 1` is none of its pages. -/
theorem not_allocated {a b k : Nat} (hk : k < N) (hb : b ≤ N) (h : k < a ∨ b ≤ k) :
    ¬ Allocated pages a b (pages k).toNat := by
  rintro ⟨n, h1, h2, hn⟩
  have := hP.distinct k n hk (by omega) hn
  omega

theorem page_ne {m n : Nat} (hm : m < N) (hn : n < N) (h : m ≠ n) :
    (pages m).toNat ≠ (pages n).toNat :=
  fun heq => h (hP.distinct m n hm hn heq)

theorem pageAddr_new (n : Nat) : PhysAddr.new (pages n) = some ⟨pages n, hP.valid n⟩ :=
  PhysAddr.new_of_lt (hP.valid n)

/-- The entry `set_addr` makes of page `n` and the flags of `e`. -/
theorem setAddr_page (n : Nat) (e : UInt64) :
    PageTableEntry.setAddr ⟨pages n, hP.valid n⟩ (PageTableEntry.mk e).flags =
      some ⟨pages n ||| (PageTableEntry.mk e).flags.bits⟩ :=
  PageTableEntry.setAddr_of_aligned (hP.aligned n) _

/-- Such an entry points to page `n`. -/
theorem tableOf_page (n : Nat) (e : UInt64) :
    tableOf (pages n ||| (PageTableEntry.mk e).flags.bits) = (pages n).toNat :=
  (setAddr_flags_entry (a := ⟨pages n, hP.valid n⟩) (hP.aligned n) e).2.2.2

end

/-- `construct_table_inner` copies an entry whole exactly where the walk
finds a page. -/
theorem copiesWhole_eq (level : Nat) (e : UInt64) :
    copiesWhole level ⟨e⟩ = isLeaf level e := by
  rw [copiesWhole, isLeaf, huge_eq, Bool.or_comm]

/-! ## One pass of the loop -/

section
variable {pages : Nat → UInt64} {level vmm uefi : Nat}
  {recurse : Nat → Nat → State → Option State} {i : Nat} {s : State}

theorem innerEntry_unused (h : s.mem uefi i = 0) :
    innerEntry pages level vmm uefi recurse i s = some s := by
  simp [innerEntry, PageTableEntry.isUnused, h]

theorem innerEntry_whole (h0 : s.mem uefi i ≠ 0) (hw : copiesWhole level ⟨s.mem uefi i⟩ = true) :
    innerEntry pages level vmm uefi recurse i s = some (s.write vmm i (s.mem uefi i)) := by
  simp [innerEntry, PageTableEntry.isUnused, h0, hw]

/-- A table entry: a fresh page, the copy below, and the entry pointing to it
with the flags read again after the copy. -/
theorem innerEntry_table {N : Nat} (hP : PageAllocator pages N) (h0 : s.mem uefi i ≠ 0)
    (hw : copiesWhole level ⟨s.mem uefi i⟩ = false) :
    innerEntry pages level vmm uefi recurse i s =
      (recurse (pages s.next).toNat (tableOf (s.mem uefi i)) (s.allocate pages).2).bind
        fun s' => some (s'.write vmm i
          (pages s.next ||| (PageTableEntry.mk (s'.mem uefi i)).flags.bits)) := by
  simp only [innerEntry, PageTableEntry.isUnused, beq_iff_eq, h0, if_false, hw,
    Bool.false_eq_true, State.allocate_fst, addr_toNat, pageAddr_new hP, Option.bind_eq_bind,
    Option.bind_some, setAddr_page hP]

end

/-! ## The copy -/

section
variable (pages : Nat → UInt64) (T : Tables)

/-- `mem'` holds at `v` the copy that `construct_table_inner` makes at
`level` of the table of `T` at `u`, in the pages `S`, over the contents `mem0`
they held before: an unused entry keeps its old contents, an entry copied
whole equals UEFI's, and a table entry points to a page with UEFI's flags,
which holds a copy of the table below when the entry is present. -/
def Copy (mem0 : Tables) : (Nat → Prop) → Tables → Nat → Nat → Nat → Prop
  | _, _, 0, _, _ => True
  | S, mem', level + 1, v, u => S v ∧ ∀ j < 512,
    (T u j = 0 → mem' v j = mem0 v j) ∧
    (T u j ≠ 0 → copiesWhole (level + 1) ⟨T u j⟩ = true → mem' v j = T u j) ∧
    (T u j ≠ 0 → copiesWhole (level + 1) ⟨T u j⟩ = false →
      ∃ n, mem' v j = pages n ||| (PageTableEntry.mk (T u j)).flags.bits ∧
        (Format.ia32e.present (T u j) = true →
          Copy mem0 (fun p => S p ∧ p ≠ v) mem' level (pages n).toNat (tableOf (T u j))))

/-- Entry `j` of the copy at `v` of the table of `T` at `u`, built in the
allocations `a, ..., b - 1`. -/
def EntryCopied (mem0 mem' : Tables) (level v u j a b : Nat) : Prop :=
  (T u j = 0 → mem' v j = mem0 v j) ∧
  (T u j ≠ 0 → copiesWhole level ⟨T u j⟩ = true → mem' v j = T u j) ∧
  (T u j ≠ 0 → copiesWhole level ⟨T u j⟩ = false → a < b ∧
    mem' v j = pages a ||| (PageTableEntry.mk (T u j)).flags.bits ∧
    (Format.ia32e.present (T u j) = true →
      Copy pages T mem0 (Allocated pages a b) mem' (level - 1) (pages a).toNat (tableOf (T u j))))

/-- A call's copy, entry by entry, each built in a run of the allocations
`a, ..., b - 1`, the runs in the order of the entries. -/
def Copied (mem0 mem' : Tables) (level v u a b : Nat) : Prop :=
  ∃ r : Nat → Nat × Nat,
    (∀ j < 512, a ≤ (r j).1 ∧ (r j).1 ≤ (r j).2 ∧ (r j).2 ≤ b ∧
      EntryCopied pages T mem0 mem' level v u j (r j).1 (r j).2) ∧
    ∀ j j', j < j' → j' < 512 → (r j).2 ≤ (r j').1

end

/-- A bound on the pages a call of `construct_table_inner` at `level`
allocates: for each of its 512 entries, a page and the call below. -/
def allocBound : Nat → Nat
  | 0 => 0
  | level + 1 => 512 * (allocBound level + 1)

section
variable (pages : Nat → UInt64) (N : Nat) (T : Tables)

/-- The tree of `T` at `u` is intact in `s`; it holds neither the copy's
table `v` nor any of the first `N` pages still to be allocated, and neither
is `v`. -/
structure Intact (level v u : Nat) (s : State) : Prop where
  agree : ∀ p, InTree .ia32e T level u p → s.mem p = T p
  ne_vmm : ∀ p, InTree .ia32e T level u p → p ≠ v
  fresh : ∀ p, InTree .ia32e T level u p → ∀ n, s.next ≤ n → n < N → (pages n).toNat ≠ p
  vmm_old : ∀ n, s.next ≤ n → n < N → (pages n).toNat ≠ v

/-- What a call of `construct_table_inner` at `level` does: it returns,
allocates at most `allocBound level` pages, writes only the copy's table and
the pages it allocates, and, when its pages are among the first `N`, copies
an intact tree. -/
def CallSpec (level : Nat) (f : Nat → Nat → State → Option State) : Prop :=
  ∀ v u s, ∃ s', f v u s = some s' ∧ s.next ≤ s'.next ∧ s'.next ≤ s.next + allocBound level ∧
    (∀ t, t ≠ v → ¬ Allocated pages s.next s'.next t → s'.mem t = s.mem t) ∧
    (Intact pages N T level v u s → s'.next ≤ N →
      Copied pages T s.mem s'.mem level v u s.next s'.next)

end

section
variable {pages : Nat → UInt64} {T : Tables} {mem0 mem' mem'' : Tables}

theorem copy_mono : ∀ {level v u : Nat} {S S' : Nat → Prop}, (∀ p, S p → S' p) →
    Copy pages T mem0 S mem' level v u → Copy pages T mem0 S' mem' level v u
  | 0, _, _, _, _, _, _ => trivial
  | level + 1, v, u, S, S', hS, ⟨hv, h⟩ => by
    refine ⟨hS v hv, fun j hj => ⟨(h j hj).1, (h j hj).2.1, fun h0 hw => ?_⟩⟩
    obtain ⟨n, hn, hsub⟩ := (h j hj).2.2 h0 hw
    exact ⟨n, hn, fun hp => copy_mono (fun p hp => ⟨hS p hp.1, hp.2⟩) (hsub hp)⟩

/-- A copy depends only on its pages, in the copy and in the old contents. -/
theorem copy_congr : ∀ {level v u : Nat} {S : Nat → Prop} {mem1 : Tables},
    (∀ p, S p → mem'' p = mem' p) → (∀ p, S p → mem1 p = mem0 p) →
    Copy pages T mem0 S mem' level v u → Copy pages T mem1 S mem'' level v u
  | 0, _, _, _, _, _, _, _ => trivial
  | level + 1, v, u, S, mem1, h', h0, ⟨hv, h⟩ => by
    have hv' : mem'' v = mem' v := h' v hv
    refine ⟨hv, fun j hj => ⟨fun hz => ?_, fun hz hw => ?_, fun hz hw => ?_⟩⟩
    · rw [hv', (h j hj).1 hz, h0 v hv]
    · rw [hv', (h j hj).2.1 hz hw]
    · obtain ⟨n, hn, hsub⟩ := (h j hj).2.2 hz hw
      refine ⟨n, by rw [hv', hn], fun hp => ?_⟩
      exact copy_congr (fun p hp => h' p hp.1) (fun p hp => h0 p hp.1) (hsub hp)

theorem ne_zero_of_present {e : UInt64} (h : Format.ia32e.present e = true) : e ≠ 0 := by
  rintro rfl
  exact absurd h (by decide)

theorem isLeaf_of_huge {level : Nat} {x e : UInt64} (h : huge x = huge e) :
    isLeaf level x = isLeaf level e := by
  simp only [isLeaf, h]

/-- **A copy covers the original**, and so is walked alike (`walk_of_covers`). -/
theorem copy_covers {N : Nat} (hP : PageAllocator pages N) : ∀ {level v u : Nat} {S : Nat → Prop},
    Copy pages T mem0 S mem' level v u → Covers .ia32e S mem' T level v u
  | 0, _, _, _, _ => trivial
  | level + 1, v, u, S, ⟨hv, h⟩ => by
    refine ⟨hv, fun j hj hp => ⟨fun hl => ?_, fun hl => ?_⟩⟩
    · exact (h j hj).2.1 (ne_zero_of_present hp) (by rw [copiesWhole_eq]; exact hl)
    · obtain ⟨n, hn, hsub⟩ := (h j hj).2.2 (ne_zero_of_present hp) (by rw [copiesWhole_eq]; exact hl)
      obtain ⟨hp', hr', hh', ht'⟩ := setAddr_flags_entry (a := ⟨pages n, hP.valid n⟩)
        (hP.aligned n) (T u j)
      rw [hn]
      refine ⟨hp'.trans hp, hr', (isLeaf_of_huge hh').trans hl, ?_⟩
      rw [ht']
      exact copy_covers hP (hsub hp)

/-- A call's entries, each built in its own run, make a copy. -/
theorem copy_of_copied {level v u a b : Nat} {S : Nat → Prop} (hv : S v)
    (hS : ∀ p, Allocated pages a b p → S p ∧ p ≠ v)
    (h : Copied pages T mem0 mem' (level + 1) v u a b) :
    Copy pages T mem0 S mem' (level + 1) v u := by
  obtain ⟨r, hr, -⟩ := h
  refine ⟨hv, fun j hj => ?_⟩
  obtain ⟨ha, -, hb, hz, hw, ht⟩ := hr j hj
  refine ⟨hz, hw, fun h0 hc => ?_⟩
  obtain ⟨-, hn, hsub⟩ := ht h0 hc
  exact ⟨(r j).1, hn, fun hp => copy_mono (fun p hp' => hS p (allocated_mono ha hb hp')) (hsub hp)⟩

/-- Writes that leave entry `j` and the entry's run alone keep what it says. -/
theorem entryCopied_frame {level v u j a b : Nat}
    (h : EntryCopied pages T mem0 mem' level v u j a b) (hv : mem'' v j = mem' v j)
    (hrun : ∀ p, Allocated pages a b p → mem'' p = mem' p) :
    EntryCopied pages T mem0 mem'' level v u j a b := by
  obtain ⟨hz, hw, ht⟩ := h
  refine ⟨fun h0 => hv.trans (hz h0), fun h0 hc => hv.trans (hw h0 hc), fun h0 hc => ?_⟩
  obtain ⟨hab, hn, hsub⟩ := ht h0 hc
  exact ⟨hab, hv.trans hn, fun hp => copy_congr hrun (fun _ _ => rfl) (hsub hp)⟩

end

/-! ## The loop of a call -/

section
variable (pages : Nat → UInt64) (N : Nat) (T : Tables)

/-- The invariant of the loop of a call at `level` from `s0`, after the
passes before `i`. -/
structure LoopInv (level v u : Nat) (s0 : State) (i : Nat) (c : State) : Prop where
  /-- the allocations only grow, each pass by at most a page and the call below -/
  grows : s0.next ≤ c.next
  bounded : c.next ≤ s0.next + i * (allocBound (level - 1) + 1)
  /-- only `v` and the new pages change -/
  frame : ∀ t, t ≠ v → ¬ Allocated pages s0.next c.next t → c.mem t = s0.mem t
  /-- when the tree is intact and the pages so far are among the first `N`,
  the rest of `v` is as it was and the entries before `i` are copied, in runs
  in their order -/
  copy : Intact pages N T level v u s0 → c.next ≤ N →
    (∀ j, i ≤ j → c.mem v j = s0.mem v j) ∧
    ∃ r : Nat → Nat × Nat,
      (∀ j < i, s0.next ≤ (r j).1 ∧ (r j).1 ≤ (r j).2 ∧ (r j).2 ≤ c.next ∧
        EntryCopied pages T s0.mem c.mem level v u j (r j).1 (r j).2) ∧
      ∀ j j', j < j' → j' < i → (r j).2 ≤ (r j').1

end

section
variable {pages : Nat → UInt64} {N : Nat} {T : Tables}

/-- During the loop, the intact tree still holds `T`. -/
theorem loopInv_reads {level v u i p : Nat} {s0 c : State} (h : LoopInv pages N T level v u s0 i c)
    (hI : Intact pages N T level v u s0) (hc : c.next ≤ N) (hp : InTree .ia32e T level u p) :
    c.mem p = T p := by
  rw [h.frame p (hI.ne_vmm p hp) ?_, hI.agree p hp]
  rintro ⟨n, hn, hn', rfl⟩
  exact hI.fresh _ hp n hn (by omega) rfl

variable (hP : PageAllocator pages N)
include hP

/-- A page not yet allocated still holds what it held at the start. -/
theorem loopInv_unallocated {level v u i k : Nat} {s0 c : State}
    (h : LoopInv pages N T level v u s0 i c) (hI : Intact pages N T level v u s0) (hk : c.next ≤ k)
    (hkN : k < N) : c.mem (pages k).toNat = s0.mem (pages k).toNat :=
  h.frame _ (hI.vmm_old k (le_trans h.grows hk) hkN) (not_allocated hP hkN (by omega) (Or.inr hk))

/-- A pass that allocates at most a page and a call, keeps the rest of `v`
and every page outside its own allocations, and copies entry `i`, keeps the
invariant. -/
theorem loopInv_of_pass {level v u i : Nat} {s0 c c' : State}
    (h : LoopInv pages N T level v u s0 i c) (hnext : c.next ≤ c'.next)
    (hbound : c'.next ≤ c.next + (allocBound (level - 1) + 1))
    (hframe : ∀ t, t ≠ v → ¬ Allocated pages c.next c'.next t → c'.mem t = c.mem t)
    (hentry : Intact pages N T level v u s0 → c'.next ≤ N →
      (∀ j, j ≠ i → c'.mem v j = c.mem v j) ∧
      EntryCopied pages T s0.mem c'.mem level v u i c.next c'.next) :
    LoopInv pages N T level v u s0 (i + 1) c' := by
  obtain ⟨h1, hb, h2, h3⟩ := h
  refine ⟨h1.trans hnext, by rw [Nat.add_one_mul]; omega, fun t ht hna => ?_, fun hI hN => ?_⟩
  · rw [hframe t ht (fun ha => hna (allocated_mono h1 le_rfl ha)),
      h2 t ht (fun ha => hna (allocated_mono le_rfl hnext ha))]
  obtain ⟨hv, r, hr, hord⟩ := h3 hI (hnext.trans hN)
  obtain ⟨hrow, hnew⟩ := hentry hI hN
  refine ⟨fun j hj => (hrow j (by omega)).trans (hv j (by omega)),
    fun j => if j < i then r j else (c.next, c'.next), fun j hj => ?_, fun j j' hjj' hj' => ?_⟩
  · by_cases hji : j < i
    · simp only [hji, if_true]
      obtain ⟨ha, hab, hb, he⟩ := hr j hji
      refine ⟨ha, hab, hb.trans hnext, entryCopied_frame he (hrow j (by omega)) ?_⟩
      rintro p ⟨n, hn1, hn2, rfl⟩
      exact hframe _ (hI.vmm_old n (by omega) (by omega))
        (not_allocated hP (by omega) hN (Or.inl (by omega)))
    · obtain rfl : j = i := by omega
      simp only [lt_irrefl, if_false]
      exact ⟨h1, hnext, le_rfl, hnew⟩
  · by_cases hj'i : j' < i
    · simp only [show j < i by omega, hj'i, if_true]
      exact hord j j' hjj' hj'i
    · simp only [show j < i by omega, hj'i, if_true, if_false]
      exact (hr j (by omega)).2.2.1

/-- **One pass keeps the invariant.** The three cases are the three
branches of the loop body: an unused entry, an entry copied whole, and a
table entry, whose copy below is the recursive call. -/
theorem loopInv_step {L v u i : Nat} {recurse : Nat → Nat → State → Option State}
    (hrec : 1 ≤ L → CallSpec pages N T L recurse)
    {s0 c : State} (hi : i < 512) (h : LoopInv pages N T (L + 1) v u s0 i c) :
    ∃ c', innerEntry pages (L + 1) v u recurse i c = some c' ∧
      LoopInv pages N T (L + 1) v u s0 (i + 1) c' := by
  have hu : ∀ hI : Intact pages N T (L + 1) v u s0, c.next ≤ N → c.mem u i = T u i :=
    fun hI hc => congrFun (loopInv_reads h hI hc inTree_root) i
  by_cases h0 : c.mem u i = 0
  · refine ⟨c, innerEntry_unused h0, loopInv_of_pass hP h le_rfl (by omega) (fun _ _ _ => rfl)
      fun hI hN => ?_⟩
    have hT : T u i = 0 := (hu hI hN).symm.trans h0
    exact ⟨fun _ _ => rfl, fun _ => (h.copy hI hN).1 i le_rfl, fun hz => absurd hT hz,
      fun hz => absurd hT hz⟩
  by_cases hw : copiesWhole (L + 1) ⟨c.mem u i⟩ = true
  · refine ⟨_, innerEntry_whole h0 hw, loopInv_of_pass hP h le_rfl (by simp)
      (fun t ht _ => Tables.write_row _ _ ht) fun hI hN => ?_⟩
    rw [State.write_next] at hN
    rw [hu hI hN] at h0 hw ⊢
    exact ⟨fun j hj => Tables.write_of_ne _ _ (Or.inr hj), fun hz => absurd hz h0,
      fun _ _ => Tables.write_self _ _ _ _, fun _ hc => absurd hw (by rw [hc]; decide)⟩
  have hL : 1 ≤ L := by
    by_contra hL
    obtain rfl : L = 0 := by omega
    exact hw (by simp [copiesWhole])
  obtain ⟨c2, hc2, hn2, hb2, hf2, hcopy2⟩ :=
    hrec hL (pages c.next).toNat (tableOf (c.mem u i)) (c.allocate pages).2
  simp only [State.allocate_next, State.allocate_mem] at hn2 hb2 hf2 hcopy2
  refine ⟨_, by rw [innerEntry_table hP h0 (by simpa using hw), hc2, Option.bind_some],
    loopInv_of_pass hP h (by simp only [State.write_next]; omega)
      (by simp only [State.write_next, Nat.add_sub_cancel]; omega) (fun t ht hna => ?_)
      fun hI hN => ?_⟩
  · rw [State.write_mem, Tables.write_row _ _ ht]
    exact hf2 t (fun he => hna (he ▸ allocated_self (by simp only [State.write_next]; omega)))
      (fun ha => hna (allocated_mono (by omega) le_rfl ha))
  rw [State.write_next] at hN
  have hkeep : ∀ t, (∀ n, c.next ≤ n → n < N → (pages n).toNat ≠ t) → c2.mem t = c.mem t := by
    intro t ht
    refine hf2 t (ht c.next le_rfl (by omega)).symm ?_
    rintro ⟨n, hn, hn', rfl⟩
    exact ht n (by omega) (by omega) rfl
  have hv2 : c2.mem v = c.mem v :=
    hkeep v fun n hn hnN => hI.vmm_old n (le_trans h.grows hn) hnN
  have hu2 : c2.mem u = c.mem u :=
    hkeep u fun n hn hnN => hI.fresh u inTree_root n (le_trans h.grows hn) hnN
  have hT := hu hI (by omega)
  rw [hT] at h0 hw
  refine ⟨fun j hj => by rw [State.write_mem, Tables.write_of_ne _ _ (Or.inr hj), hv2],
    fun hz => absurd hz h0, fun _ hc => absurd hc (by simpa using hw), fun _ _ => ?_⟩
  refine ⟨by simp only [State.write_next]; omega, by rw [State.write_mem, Tables.write_self, hu2, hT],
    fun hp => ?_⟩
  have hl : isLeaf (L + 1) (T u i) = false := by simpa [copiesWhole_eq] using hw
  have hsub : ∀ p, InTree .ia32e T L (tableOf (T u i)) p → InTree .ia32e T (L + 1) u p :=
    fun p hp' => inTree_of_sub hi hp hl hp'
  have hI' : Intact pages N T L (pages c.next).toNat (tableOf (T u i)) (c.allocate pages).2 :=
    { agree := fun p hp' => by
        rw [State.allocate_mem]
        exact loopInv_reads h hI (by omega) (hsub p hp')
      ne_vmm := fun p hp' => (hI.fresh p (hsub p hp') c.next h.grows (by omega)).symm
      fresh := fun p hp' n hn hnN =>
        hI.fresh p (hsub p hp') n (by simp at hn; have := h.grows; omega) hnN
      vmm_old := fun n hn hnN he => by
        have := hP.distinct _ _ hnN (by omega) he
        simp at hn
        omega }
  rw [hT] at hcopy2
  obtain ⟨L', rfl⟩ : ∃ L', L = L' + 1 := ⟨L - 1, by omega⟩
  have hcopy := copy_of_copied (S := Allocated pages c.next c2.next) (allocated_self (by omega))
    (fun p hp' => ⟨allocated_mono (by omega) le_rfl hp', by
      obtain ⟨n, hn, hn', rfl⟩ := hp'
      intro he
      have := hP.distinct _ _ (by omega) (by omega) he
      omega⟩) (hcopy2 hI' hN)
  refine copy_congr (fun p hp' => ?_) (fun p hp' => ?_) hcopy
  · obtain ⟨n, hn, hn', rfl⟩ := hp'
    rw [State.write_next] at hn'
    exact Tables.write_row _ _ (hI.vmm_old n (le_trans h.grows hn) (by omega))
  · obtain ⟨n, hn, hn', rfl⟩ := hp'
    rw [State.write_next] at hn'
    exact (loopInv_unallocated hP h hI hn (by omega)).symm

/-- The loop of a call, from the invariant at its start to its end. -/
theorem callSpec_of_loop {L : Nat} {recurse : Nat → Nat → State → Option State}
    (hrec : 1 ≤ L → CallSpec pages N T L recurse) :
    CallSpec pages N T (L + 1) fun v u s => forRange 0 512 (innerEntry pages (L + 1) v u recurse) s := by
  intro v u s
  have h0 : LoopInv pages N T (L + 1) v u s 0 s :=
    ⟨le_rfl, by simp, fun _ _ _ => rfl, fun _ _ => ⟨fun _ _ => rfl, fun _ => (0, 0),
      fun j hj => absurd hj (Nat.not_lt_zero j), fun _ _ _ hj' => absurd hj' (Nat.not_lt_zero _)⟩⟩
  obtain ⟨s', hs', hinv⟩ := forRange_spec (LoopInv pages N T (L + 1) v u s) (by decide)
    (fun i c _ hi h => loopInv_step hP hrec hi h) h0
  have hb := hinv.bounded
  simp only [Nat.add_sub_cancel] at hb
  refine ⟨s', hs', hinv.grows, by rw [allocBound]; omega, hinv.frame, fun hI hN => ?_⟩
  obtain ⟨-, r, hr, hord⟩ := hinv.copy hI hN
  exact ⟨r, fun j hj => hr j hj, hord⟩

/-- **`construct_table_inner` returns, allocates at most `allocBound`
pages, writes only the copy's table and the pages it allocates, and copies
an intact tree**, at every level from 1. -/
theorem constructTableInner_spec :
    ∀ L, CallSpec pages N T (L + 1) (constructTableInner pages (L + 1))
  | 0 => callSpec_of_loop hP fun h => absurd h (by decide)
  | L + 1 => callSpec_of_loop hP fun _ => constructTableInner_spec L

end

end Htvmm.Loader
