import Htvmm.Ept.Map

/-!
# `get_memory_size`

`efi_main` (loader/src/main.rs) hands the VMM, in `BootArgs::memory_size`, the
highest physical address the firmware's memory map reaches, and `init_ept`
maps the whole gigabytes below it, each to itself.

`get_memory_size` asks for the map into a pool 256 bytes larger on each pass
until it fits, then takes the largest `phys_start + 0x1000 * page_count` of
its descriptors. The loader is built in debug mode, where `size += 0x100` and
a descriptor's end panic when they overflow: the loop ends, by a return or by
a panic, so it is a total function here.

* `get_memory_size_spec`: it returns exactly the least upper bound of the
  descriptor ends of the first map that fits;
* `ept_covers_memory_map`: the EPT the VMM builds from it maps the whole
  gigabytes below that bound to themselves, and nothing else.
-/

namespace Htvmm.Loader

open Boot Paging

/-- The fields of a `MemoryDescriptor` that `get_memory_size` reads. -/
structure MemoryDescriptor where
  physStart : UInt64
  pageCount : UInt64
  deriving DecidableEq, Repr

/-- The boot services `get_memory_size` calls. `free_pool` of the pool it has
just allocated does not fail. -/
structure BootServices where
  /-- Whether `allocate_pool` of that many bytes succeeds. -/
  allocatePool : UInt64 → Bool
  /-- `memory_map` into a buffer of that many bytes: the descriptors, or an
  error (`BUFFER_TOO_SMALL` when the map does not fit). -/
  memoryMap : UInt64 → Option (List MemoryDescriptor)

/-- `memdesc.phys_start + (0x1000 * memdesc.page_count)`. -/
def physEnd (memdesc : MemoryDescriptor) : Option UInt64 := do
  u64Add memdesc.physStart (← u64Mul 0x1000 memdesc.pageCount)

/-- The `for` loop over the descriptors, from `memory_size` so far. -/
def maxPhysEnd (memorySize : UInt64) : List MemoryDescriptor → Option UInt64
  | [] => some memorySize
  | memdesc :: ds => do
    let physEnd ← physEnd memdesc
    maxPhysEnd (if memorySize < physEnd then physEnd else memorySize) ds

/-- The passes of `get_memory_size`'s `loop` after the one with a pool of
`size` bytes. -/
def getMemorySizeLoop (bs : BootServices) (size : UInt64) : Option UInt64 :=
  match h : u64Add size 0x100 with
  | none => none
  | some size' =>
    if bs.allocatePool size' then
      match bs.memoryMap size' with
      | some ds => maxPhysEnd 0 ds
      | none => getMemorySizeLoop bs size'
    else none
termination_by 2 ^ 64 - size.toNat
decreasing_by
  have hs := u64Add_toNat h
  have hlt := size'.toNat_lt
  simp only [UInt64.reduceToNat] at hs
  omega

/-- `get_memory_size`. -/
def getMemorySize (bs : BootServices) : Option UInt64 := getMemorySizeLoop bs 0

/-! ## The descriptors -/

/-- The end of a descriptor, as a number. -/
def endNat (memdesc : MemoryDescriptor) : Nat :=
  memdesc.physStart.toNat + 0x1000 * memdesc.pageCount.toNat

/-- The ends of the descriptors: `get_memory_size` is meant to return their
least upper bound, the highest address the memory map reaches. -/
def ends (ds : List MemoryDescriptor) : Set Nat := {x | ∃ d ∈ ds, endNat d = x}

/-- A descriptor's end, unless the product or the sum overflows. -/
theorem physEnd_eq (memdesc : MemoryDescriptor) :
    physEnd memdesc =
      if endNat memdesc < 2 ^ 64 then some (UInt64.ofNat (endNat memdesc)) else none := by
  have hs := memdesc.physStart.toNat_lt
  unfold physEnd u64Mul endNat
  by_cases hmul : (0x1000 : UInt64).toNat * memdesc.pageCount.toNat < 2 ^ 64
  · have hlen : (0x1000 * memdesc.pageCount).toNat = 0x1000 * memdesc.pageCount.toNat := by
      rw [UInt64.toNat_mul]
      exact Nat.mod_eq_of_lt hmul
    simp only [if_pos hmul, Option.bind_eq_bind, Option.bind_some, u64Add, hlen]
    split_ifs with hend
    · congr 1
      apply UInt64.toNat_inj.mp
      rw [UInt64.toNat_add, hlen, UInt64.toNat_ofNat']
    · rfl
  · have hend : ¬ memdesc.physStart.toNat + 0x1000 * memdesc.pageCount.toNat < 2 ^ 64 := by
      simp only [UInt64.reduceToNat] at hmul
      omega
    simp only [if_neg hmul, if_neg hend, Option.bind_eq_bind, Option.bind_none]

theorem maxPhysEnd_eq_none {acc : UInt64} {ds : List MemoryDescriptor} :
    maxPhysEnd acc ds = none ↔ ∃ d ∈ ds, 2 ^ 64 ≤ endNat d := by
  induction ds generalizing acc with
  | nil => simp [maxPhysEnd]
  | cons d ds ih =>
    simp only [maxPhysEnd, physEnd_eq, Option.bind_eq_bind, List.mem_cons, exists_eq_or_imp]
    split_ifs with hd
    · rw [Option.bind_some, ih, or_iff_right (Nat.not_le.mpr hd)]
    · simp only [Option.bind_none, true_iff]
      left
      omega

/-- What the loop returns: the largest of `memory_size` so far and the ends. -/
theorem maxPhysEnd_spec {acc m : UInt64} {ds : List MemoryDescriptor}
    (h : maxPhysEnd acc ds = some m) :
    acc.toNat ≤ m.toNat ∧ (∀ d ∈ ds, endNat d ≤ m.toNat) ∧ (m = acc ∨ ∃ d ∈ ds, endNat d = m.toNat) := by
  induction ds generalizing acc with
  | nil =>
    cases h
    simp
  | cons d ds ih =>
    simp only [maxPhysEnd, physEnd_eq, Option.bind_eq_bind] at h
    split_ifs at h with hd
    · rw [Option.bind_some] at h
      set e := UInt64.ofNat (endNat d)
      have he : e.toNat = endNat d := by rw [UInt64.toNat_ofNat']; omega
      obtain ⟨hacc, hle, hm⟩ := ih h
      have hacc' : acc.toNat ≤ m.toNat ∧ endNat d ≤ m.toNat := by
        split_ifs at hacc with hlt <;> rw [UInt64.lt_iff_toNat_lt] at hlt <;> omega
      refine ⟨hacc'.1, ?_, ?_⟩
      · intro d' hd'
        rcases List.mem_cons.mp hd' with rfl | hd'
        · exact hacc'.2
        · exact hle d' hd'
      · rcases hm with hm | ⟨d', hd', hend⟩
        · split_ifs at hm
          · exact .inr ⟨d, List.mem_cons_self, by rw [hm, he]⟩
          · exact .inl hm
        · exact .inr ⟨d', List.mem_cons_of_mem d hd', hend⟩
    · cases h

/-- The loop from 0 returns the least upper bound of the ends. -/
theorem isLUB_of_maxPhysEnd {m : UInt64} {ds : List MemoryDescriptor}
    (h : maxPhysEnd 0 ds = some m) : IsLUB (ends ds) m.toNat := by
  obtain ⟨-, hle, hm⟩ := maxPhysEnd_spec h
  refine ⟨fun x ⟨d, hd, hx⟩ => hx ▸ hle d hd, fun b hb => ?_⟩
  rcases hm with rfl | ⟨d, hd, hend⟩
  · exact Nat.zero_le b
  · exact hend ▸ hb ⟨d, hd, rfl⟩

theorem maxPhysEnd_of_lub {m : UInt64} {ds : List MemoryDescriptor}
    (hfit : ∀ d ∈ ds, endNat d < 2 ^ 64) (hlub : IsLUB (ends ds) m.toNat) :
    maxPhysEnd 0 ds = some m := by
  cases hmax : maxPhysEnd 0 ds with
  | none =>
    obtain ⟨d, hd, hover⟩ := maxPhysEnd_eq_none.mp hmax
    exact absurd (hfit d hd) (Nat.not_lt.mpr hover)
  | some m' =>
    have heq : m'.toNat = m.toNat := (isLUB_of_maxPhysEnd hmax).unique hlub
    rw [UInt64.toNat_inj.mp heq]

/-! ## The passes -/

/-- The pool of pass `j + 1` after the one with a pool of `size` bytes. -/
def pass (size j : Nat) : UInt64 := UInt64.ofNat (size + 0x100 * (j + 1))

/-- The passes after the one with a pool of `size` bytes, up to pass `n + 1`:
each pool is allocated, the map does not fit the first `n`, and it is `ds` in
the last. -/
structure FirstFit (bs : BootServices) (size n : Nat) (ds : List MemoryDescriptor) : Prop where
  fits : size + 0x100 * (n + 1) < 2 ^ 64
  pools : ∀ j ≤ n, bs.allocatePool (pass size j) = true
  small : ∀ j < n, bs.memoryMap (pass size j) = none
  map : bs.memoryMap (pass size n) = some ds

section Passes

variable {bs : BootServices} {size size' : UInt64} {n : Nat} {ds : List MemoryDescriptor}

theorem pass_succ (size j : Nat) : pass (size + 0x100) j = pass size (j + 1) := by
  rw [pass, pass, show size + 0x100 + 0x100 * (j + 1) = size + 0x100 * (j + 1 + 1) by omega]

theorem pass_zero_toNat {size : Nat} (hfit : size + 0x100 < 2 ^ 64) :
    (pass size 0).toNat = size + 0x100 := by
  rw [pass, UInt64.toNat_ofNat']
  omega

/-- `size += 0x100`, when it does not overflow, gives the next pass's pool. -/
theorem u64Add_eq_pass (hfit : size.toNat + 0x100 < 2 ^ 64) :
    u64Add size 0x100 = some (pass size.toNat 0) := by
  rw [u64Add_eq_ofNat hfit, pass]
  rfl

theorem pass_of_u64Add (h : u64Add size 0x100 = some size') :
    size.toNat + 0x100 < 2 ^ 64 ∧ size' = pass size.toNat 0 := by
  have hs := u64Add_toNat h
  have hfit : size.toNat + 0x100 < 2 ^ 64 := hs ▸ size'.toNat_lt
  refine ⟨hfit, ?_⟩
  rw [u64Add_eq_pass hfit] at h
  exact (Option.some.inj h).symm

theorem FirstFit.zero (hfit : size.toNat + 0x100 < 2 ^ 64)
    (hpool : bs.allocatePool (pass size.toNat 0) = true)
    (hmap : bs.memoryMap (pass size.toNat 0) = some ds) : FirstFit bs size.toNat 0 ds where
  fits := hfit
  pools _ hj := Nat.le_zero.mp hj ▸ hpool
  small j hj := absurd hj (Nat.not_lt_zero j)
  map := hmap

theorem FirstFit.cons (hfit : size.toNat + 0x100 < 2 ^ 64)
    (hpool : bs.allocatePool (pass size.toNat 0) = true)
    (hsmall : bs.memoryMap (pass size.toNat 0) = none)
    (h : FirstFit bs (pass size.toNat 0).toNat n ds) : FirstFit bs size.toNat (n + 1) ds := by
  rw [pass_zero_toNat hfit] at h
  refine ⟨by have := h.fits; linarith, fun j hj => ?_, fun j hj => ?_, ?_⟩
  · cases j with
    | zero => exact hpool
    | succ j => rw [← pass_succ]; exact h.pools j (by omega)
  · cases j with
    | zero => exact hsmall
    | succ j => rw [← pass_succ]; exact h.small j (by omega)
  · rw [← pass_succ]
    exact h.map

theorem FirstFit.tail {s : Nat} (h : FirstFit bs s (n + 1) ds) : FirstFit bs (s + 0x100) n ds where
  fits := by have := h.fits; linarith
  pools j hj := by rw [pass_succ]; exact h.pools (j + 1) (by omega)
  small j hj := by rw [pass_succ]; exact h.small (j + 1) (by omega)
  map := by rw [pass_succ]; exact h.map

/-- One pass of the loop, when `size += 0x100` does not overflow. -/
theorem getMemorySizeLoop_of_u64Add (h : u64Add size 0x100 = some size') :
    getMemorySizeLoop bs size =
      if bs.allocatePool size' then
        match bs.memoryMap size' with
        | some ds => maxPhysEnd 0 ds
        | none => getMemorySizeLoop bs size'
      else none := by
  rw [getMemorySizeLoop]
  split
  · rename_i heq
    rw [h] at heq
    cases heq
  · rename_i size'' heq
    rw [h] at heq
    cases heq
    rfl

theorem getMemorySizeLoop_of_overflow (h : u64Add size 0x100 = none) :
    getMemorySizeLoop bs size = none := by
  rw [getMemorySizeLoop]
  split
  · rfl
  · rename_i heq
    rw [h] at heq
    cases heq

/-- The loop returns what the first map that fits gives. -/
theorem getMemorySizeLoop_of_firstFit (h : FirstFit bs size.toNat n ds) :
    getMemorySizeLoop bs size = maxPhysEnd 0 ds := by
  induction n generalizing size with
  | zero =>
    have hfit : size.toNat + 0x100 < 2 ^ 64 := by have := h.fits; omega
    rw [getMemorySizeLoop_of_u64Add (u64Add_eq_pass hfit), if_pos (h.pools 0 le_rfl), h.map]
  | succ n ih =>
    have hfit : size.toNat + 0x100 < 2 ^ 64 := by have := h.fits; linarith
    rw [getMemorySizeLoop_of_u64Add (u64Add_eq_pass hfit), if_pos (h.pools 0 (Nat.zero_le _)),
      h.small 0 (Nat.succ_pos n)]
    apply ih
    rw [pass_zero_toNat hfit]
    exact h.tail

/-- Whatever the loop returns, it has from the first map that fits. -/
theorem firstFit_of_getMemorySizeLoop {m : UInt64} (h : getMemorySizeLoop bs size = some m) :
    ∃ n ds, FirstFit bs size.toNat n ds ∧ maxPhysEnd 0 ds = some m := by
  induction size using getMemorySizeLoop.induct bs with
  | case1 size hadd =>
    rw [getMemorySizeLoop_of_overflow hadd] at h
    cases h
  | case2 size size' hadd hpool ds hmap =>
    rw [getMemorySizeLoop_of_u64Add hadd, if_pos hpool, hmap] at h
    obtain ⟨hfit, rfl⟩ := pass_of_u64Add hadd
    exact ⟨0, ds, FirstFit.zero hfit hpool hmap, h⟩
  | case3 size size' hadd hpool hmap ih =>
    rw [getMemorySizeLoop_of_u64Add hadd, if_pos hpool, hmap] at h
    obtain ⟨n, ds, hff, hmax⟩ := ih h
    obtain ⟨hfit, rfl⟩ := pass_of_u64Add hadd
    exact ⟨n + 1, ds, FirstFit.cons hfit hpool hmap hff, hmax⟩
  | case4 size size' hadd hpool =>
    rw [getMemorySizeLoop_of_u64Add hadd, if_neg hpool] at h
    cases h

end Passes

/-- **`get_memory_size` returns the top of the memory map.** It returns `m`
exactly when a pass gets the map into its pool, with every pool up to it
allocated and the map too large for every earlier one, no descriptor of that
map ends past `2^64`, and `m` is the least upper bound of their ends. -/
theorem get_memory_size_spec (bs : BootServices) (m : UInt64) :
    getMemorySize bs = some m ↔
      ∃ n ds, FirstFit bs 0 n ds ∧ (∀ d ∈ ds, endNat d < 2 ^ 64) ∧ IsLUB (ends ds) m.toNat := by
  constructor
  · intro h
    obtain ⟨n, ds, hff, hmax⟩ := firstFit_of_getMemorySizeLoop h
    have hfit : ∀ d ∈ ds, endNat d < 2 ^ 64 := fun d hd => Nat.lt_of_not_le fun hover => by
      rw [maxPhysEnd_eq_none.mpr ⟨d, hd, hover⟩] at hmax
      cases hmax
    exact ⟨n, ds, hff, hfit, isLUB_of_maxPhysEnd hmax⟩
  · rintro ⟨n, ds, hff, hfit, hlub⟩
    rw [getMemorySize, getMemorySizeLoop_of_firstFit hff]
    exact maxPhysEnd_of_lub hfit hlub

/-! ## What `efi_main` hands the VMM -/

/-- The `BootArgs` `efi_main` builds: `memory_size` from `get_memory_size`,
and `vmm_phys_offset` from the address `allocate_pages` returns for the VMM
area. -/
def efiBootArgs (bs : BootServices) (allocPaddr : UInt64) : Option BootArgs := do
  let memorySize ← getMemorySize bs
  pure ⟨← vmmPhysOffset allocPaddr, memorySize⟩

theorem getMemorySize_of_efiBootArgs {bs : BootServices} {allocPaddr : UInt64} {args : BootArgs}
    (h : efiBootArgs bs allocPaddr = some args) : getMemorySize bs = some args.memorySize := by
  unfold efiBootArgs at h
  cases hm : getMemorySize bs with
  | none => simp only [hm, Option.bind_eq_bind, Option.bind_none] at h; cases h
  | some m =>
    cases ho : vmmPhysOffset allocPaddr with
    | none => simp only [hm, ho, Option.bind_eq_bind, Option.bind_some, Option.bind_none] at h; cases h
    | some o =>
      simp only [hm, ho, Option.bind_eq_bind, Option.bind_some, Option.pure_def,
        Option.some.injEq] at h
      rw [← h]

/-- **The EPT covers the memory map's whole gigabytes.** Whatever memory map
the firmware reports, with the `BootArgs` `efi_main` hands the VMM, `init_ept`
on distinct pages maps every guest-physical address below the top of that
map (the least upper bound of its descriptor ends) rounded down to 1 GiB to
itself, and no other address, when the top is below 513 GiB. As for
`Ept.init_ept_maps_whole_gib`, the tables are at their pages' physical
addresses, which holds where the VMM area is mapped as `paddr` assumes
(`vmm_area_agrees_iff`). -/
theorem ept_covers_memory_map {pages : Nat → UInt64} {N : Nat} (hP : PageAllocator pages N)
    {bs : BootServices} {allocPaddr : UInt64} {args : BootArgs}
    (hargs : efiBootArgs bs allocPaddr = some args) (s : State)
    (hN : s.next + 2 + args.memorySize.toNat / 2 ^ 30 ≤ N)
    (hgb : args.memorySize.toNat / 2 ^ 30 ≤ 512) :
    ∃ n ds top, FirstFit bs 0 n ds ∧ IsLUB (ends ds) top ∧
      ∃ eptp s', Ept.initEpt pages args s = some (eptp, s') ∧
        Ept.IdentityMap s'.mem eptp.addr.val.toNat (top / 2 ^ 30 * 2 ^ 30) := by
  obtain ⟨n, ds, hff, hmax⟩ := firstFit_of_getMemorySizeLoop (getMemorySize_of_efiBootArgs hargs)
  obtain ⟨eptp, s', hrun, haddr, -, -, hF, -⟩ := Ept.initEpt_spec hP args s hN hgb
  refine ⟨n, ds, args.memorySize.toNat, hff, isLUB_of_maxPhysEnd hmax, eptp, s', hrun, ?_⟩
  rw [haddr]
  exact hF.identityMap hgb

/-- Part of the memory map OVMF reports for a guest of 2 GiB: conventional
memory below 640 KiB and from 1 MiB to 2 GiB. -/
def ovmfMap : List MemoryDescriptor := [⟨0, 0xa0⟩, ⟨0x10_0000, 0x7_ff00⟩]

/-- Boot services that allocate every pool and fit `ovmfMap` into 512 bytes. -/
def ovmfServices : BootServices where
  allocatePool _ := true
  memoryMap size := if 0x200 ≤ size then some ovmfMap else none

theorem efiBootArgs_ovmf :
    efiBootArgs ovmfServices 0x1000_0000 = some ⟨0x1000_0000 - 2 ^ 32, 0x8000_0000⟩ := by
  have hfirst : FirstFit ovmfServices (0 : UInt64).toNat 1 ovmfMap :=
    ⟨by decide, fun _ _ => rfl, by decide, by decide⟩
  rw [efiBootArgs, getMemorySize, getMemorySizeLoop_of_firstFit hfirst]
  rfl

theorem ept_covers_memory_map_at_ovmf :
    PageAllocator Ept.heapPages 0x1000 ∧
      efiBootArgs ovmfServices 0x1000_0000 = some ⟨0x1000_0000 - 2 ^ 32, 0x8000_0000⟩ ∧
      ∃ n ds top, FirstFit ovmfServices 0 n ds ∧ IsLUB (ends ds) top ∧
        ∃ eptp s', Ept.initEpt Ept.heapPages ⟨0x1000_0000 - 2 ^ 32, 0x8000_0000⟩
            ⟨Ept.dirtyMemory, 0⟩ = some (eptp, s') ∧
          Ept.IdentityMap s'.mem eptp.addr.val.toNat (top / 2 ^ 30 * 2 ^ 30) :=
  ⟨Ept.heapPages_allocator, efiBootArgs_ovmf,
    ept_covers_memory_map Ept.heapPages_allocator efiBootArgs_ovmf _ (by decide) (by decide)⟩

end Htvmm.Loader
