import Htvmm.Ept.Entry
import Htvmm.Vmx.Entry

/-!
# Bringing up the VMM

`vmm_main` (lib.rs) creates an `IntelCpu` (arch/intel/mod.rs): a VMXON region
and a VMCS, each a zeroed page of the VMM's heap with the VMCS revision
identifier in its first four bytes. `enable_virtualization` asks CPUID for
VMX and runs `vmxon`, and `vmm_main` panics on its error; `init_as_bsp`
clears and loads the VMCS, builds the EPT and fills the VMCS; `run_vm`
executes VMLAUNCH, and on VMfailValid reads the VM-instruction error into r15
and halts.

* `vmm_main_launches`: on a processor as the firmware leaves it, with the
  selectors `entry` loads and the VMX support the setup relies on, `vmm_main`
  enters the guest exactly when the capability MSRs allow the four controls
  the setup forces on, and halts with VM-instruction error 7 otherwise; the
  guest starts at `entry_ret` on UEFI's stack and page tables, and its exits
  go to the VMM's handler.

Two facts of the processor model follow: `entry_failure_panics`, that an entry
failure leaves exit reason `0x8000_0021`, on which `vmexit_handler` panics, and
`vmm_main_never_returns`, that VMLAUNCH never falls through with VMsucceed.

`init_ept` (`Ept.initEpt`) builds its tables in a memory of its own;
`vmmMain` takes what it returns.
-/

namespace Htvmm.Vmx

open X86 X86.Vmx Word Paging Boot

/-- Where the byte of the VMM area at `ptr` lies: the loader maps the area
`vmm_phys_offset` away from its virtual addresses, as `paddr` computes from
the pointer read as an `i64`. -/
def heapPhys (args : BootArgs) (ptr : UInt64) : Nat := (asI64 ptr + args.vmmPhysOffset).toNat

theorem heapPhys_of_paddrChecked {args : BootArgs} {ptr : UInt64} {p : PhysAddr}
    (hp : paddrChecked args.vmmPhysOffset ptr = some p) : p.val.toNat = heapPhys args ptr := by
  unfold paddrChecked at hp
  cases hv : i64TryFrom ptr with
  | none => simp [hv] at hp
  | some virt =>
    cases hs : i64Add virt args.vmmPhysOffset with
    | none => simp [hv, hs] at hp
    | some x =>
      cases hu : u64TryFrom x with
      | none => simp [hv, hs, hu] at hp
      | some phys =>
        simp only [hv, hs, hu, Option.bind_eq_bind, Option.bind_some, PhysAddr.new] at hp
        simp only [i64TryFrom] at hv
        simp only [i64Add] at hs
        simp only [u64TryFrom] at hu
        split_ifs at hv hs hu hp with h1 h2 h3 h4
        simp only [Option.some.injEq] at hv hs hu hp
        subst hv hs hu hp
        simp only [heapPhys, asI64, if_pos h1, UInt64.toNat_ofNat']
        omega

theorem heapPhys_of_vmxonPaddr {args : BootArgs} {ptr : UInt64} {p : PhysAddr}
    (hp : Boot.VmxonRegion.paddr args ptr = some p) : p.val.toNat = heapPhys args ptr := by
  unfold Boot.VmxonRegion.paddr at hp
  cases hs : i64Add (asI64 ptr) args.vmmPhysOffset with
  | none => simp [hs] at hp
  | some x =>
    simp only [hs, Option.bind_eq_bind, Option.bind_some, PhysAddr.new] at hp
    simp only [i64Add] at hs
    split_ifs at hs hp with h1 h2
    simp only [Option.some.injEq] at hs hp
    subst hs hp
    have h0 : 0 ≤ asI64 ptr + args.vmmPhysOffset := by
      by_contra hneg
      have : 2 ^ 52 ≤ (asU64 (asI64 ptr + args.vmmPhysOffset)).toNat := by
        unfold asU64
        rw [UInt64.toNat_ofNat']
        omega
      omega
    rw [heapPhys, asU64_of_nonneg h0 h1.2]

/-- Two new regions on distinct aligned pages each hold the revision
identifier. -/
theorem revisionOk_newRegions {a b : Nat} (ha : a % 4096 = 0) (hb : b % 4096 = 0) (hne : a ≠ b) (h : Host) :
    revisionOk (newRegion b (newRegion a h)).msr (newRegion b (newRegion a h)).mem a ∧
      revisionOk (newRegion b (newRegion a h)).msr (newRegion b (newRegion a h)).mem b :=
  ⟨(revisionOk_newRegion_of_disjoint (by omega) _).mpr (revisionOk_newRegion a h), revisionOk_newRegion b _⟩

/-! ## The code -/

/-- `IntelCpu`. -/
structure IntelCpu where
  vmxonRegion : VmxonRegion
  vmcsRegion : VmcsRegion
  eptp : Ept.EptPointer

/-- `IntelCpu::new`, with the pages the allocator returns for the VMXON
region and the VMCS. -/
def IntelCpu.new (args : BootArgs) (vmxonPtr vmcsPtr : UInt64) (h : Host) : IntelCpu × Host :=
  let h := newRegion (heapPhys args vmxonPtr) h
  let h := newRegion (heapPhys args vmcsPtr) h
  (⟨⟨vmxonPtr⟩, ⟨vmcsPtr⟩, Ept.EptPointer.new⟩, h)

/-- `IntelCpu::is_vmx_supported`, on the ECX of CPUID leaf 1. -/
def IntelCpu.isVmxSupported (ecx : UInt32) : Bool :=
  let vmx := ecx &&& ((1 : UInt32) <<< 5)
  0 < vmx

/-- `CpuError`. -/
inductive CpuError where
  | notSupported
  | vmxRelated
  deriving DecidableEq, Repr

/-- How `run_vm` ends. -/
inductive RunVm where
  /-- VMLAUNCH entered the guest. -/
  | guest
  /-- VM entry failed on the guest state: the processor loaded the host
  state and continues at `vmexit_handler`. -/
  | entryFailure
  /-- `hlt`, with the VM-instruction error in r15. -/
  | halted (errorCode : UInt64)
  /-- `vmlaunch` returned `Ok`, and `run_vm` returns. -/
  | returned
  deriving DecidableEq, Repr

section Bringup

variable (cr0All cr4All : UInt64) (c : Caps) (args : BootArgs)

/-- `IntelCpu::vmxon`. -/
def IntelCpu.vmxon (cpu : IntelCpu) (h : Host) : Option (Host × Except CpuError Unit) := do
  let (h, vmxon) ← Htvmm.Vmx.vmxon cr0All cr4All c args cpu.vmxonRegion h
  match vmxon with
  | .error _ => pure (h, .error .vmxRelated)
  | .ok () => pure (h, .ok ())

/-- `enable_virtualization`, with `ecx` from CPUID leaf 1. -/
def IntelCpu.enableVirtualization (ecx : UInt32) (cpu : IntelCpu) (h : Host) :
    Option (Host × Except CpuError Unit) :=
  if !IntelCpu.isVmxSupported ecx then pure (h, .error .notSupported)
  else cpu.vmxon cr0All cr4All c args h

/-- `init_as_bsp`, with `initEpt` what `init_ept` returns (`none`: it
panicked) and `i` what `setup` reads besides. -/
def IntelCpu.initAsBsp (i : SetupInputs) (initEpt : Option Ept.EptPointer) (cpu : IntelCpu) (h : Host) :
    Option (IntelCpu × Host) := do
  let h ← VmcsRegion.clear c args cpu.vmcsRegion h
  let h ← VmcsRegion.load c args cpu.vmcsRegion h
  let eptp ← initEpt
  let cpu := { cpu with eptp := eptp }
  let h ← VmcsRegion.setup cr4All c args i cpu.eptp.asU64 h
  pure (cpu, h)

/-- `run_vm`: VMLAUNCH; on VMfailInvalid a panic, on VMfailValid the
VM-instruction error read into r15 and `hlt`. -/
def IntelCpu.runVm (h : Host) : Option (Host × RunVm) := do
  let (p, launch) ← X86.Vmx.vmlaunch c h.msr h.proc
  match launch with
  | .entered => pure ({ h with proc := p }, .guest)
  | .entryFailure => pure ({ h with proc := p }, .entryFailure)
  | .fail o =>
    let (h, res) := h.report p o
    match res with
    | .ok () => pure (h, .returned)
    | .error .invalidPointer => none
    | .error .vmInstructionError => do
      let (h, errorCode) ← VmcsRegion.read c .vmInstructionError h
      pure (h, .halted errorCode)

/-- The VMX part of `vmm_main`: `IntelCpu::new`, `enable_virtualization`, on
whose error it panics, `init_as_bsp` and `run_vm`. -/
def vmmMain (ecx : UInt32) (vmxonPtr vmcsPtr : UInt64) (i : SetupInputs) (initEpt : Option Ept.EptPointer)
    (h : Host) : Option (Host × RunVm) := do
  let (intel, h) := IntelCpu.new args vmxonPtr vmcsPtr h
  let (h, res) ← intel.enableVirtualization cr0All cr4All c args ecx h
  match res with
  | .error _ => none
  | .ok () =>
    let (_, h) ← intel.initAsBsp cr4All c args i initEpt h
    IntelCpu.runVm c h

/-! ## Each step -/

variable {cr0All cr4All c args}

theorem IntelCpu.enableVirtualization_of_vmxon {ecx : UInt32} (hcpuid : IntelCpu.isVmxSupported ecx = true)
    {cpu : IntelCpu} {h h' : Host} (hv : Htvmm.Vmx.vmxon cr0All cr4All c args cpu.vmxonRegion h = some (h', .ok ())) :
    cpu.enableVirtualization cr0All cr4All c args ecx h = some (h', .ok ()) := by
  simp [IntelCpu.enableVirtualization, hcpuid, IntelCpu.vmxon, hv]

variable (cr4All) in
/-- **`init_as_bsp` makes the VMCS current and fills it.** In VMX operation,
on a region VMPTRLD takes, `init_as_bsp` leaves the
VMCS current and clear, holding every write of the setup from the registers
it started with. -/
theorem IntelCpu.initAsBsp_spec {h : Host} {o : Nat} (hon : h.proc.vmxon = some o)
    (hsup : ∀ f : Field, c.supported f.encoding = true) (cpu : IntelCpu) {p : PhysAddr}
    (hp : Boot.VmcsRegion.paddr args cpu.vmcsRegion.ptr = some p) (hvalid : c.validAddr p.val.toNat)
    (hne : p.val.toNat ≠ o) (hrev : revisionOk h.msr h.mem p.val.toNat) (i : SetupInputs) (e : Ept.EptPointer)
    {stackEnd : UInt64} (hstack : u64Add i.stackBottom 4096 = some stackEnd) {bitmap : PhysAddr}
    (hbitmap : paddrChecked args.vmmPhysOffset i.bitmapPtr = some bitmap) :
    ∃ h', cpu.initAsBsp cr4All c args i (some e) h = some ({ cpu with eptp := e }, h') ∧
      h'.proc.vmxon = some o ∧ h'.proc.current = some p.val.toNat ∧ h'.proc.launched p.val.toNat = false ∧
      h'.msr = h.msr ∧
      HoldsSetup cr4All i e.asU64 (stackEnd - 16) bitmap.val { h with rflags := Outcome.succeed.rflags h.rflags }
        (h'.proc.data p.val.toNat) := by
  let hC : Host := { h with
    proc := { h.proc with
      launched := Function.update h.proc.launched p.val.toNat false
      current := if h.proc.current = some p.val.toNat then none else h.proc.current }
    rflags := Outcome.succeed.rflags h.rflags }
  let hL : Host := { hC with
    proc := { hC.proc with current := some p.val.toNat }
    rflags := Outcome.succeed.rflags hC.rflags }
  have hclear : VmcsRegion.clear c args cpu.vmcsRegion h = some hC := VmcsRegion.clear_eq hon hp hvalid hne
  have hload : VmcsRegion.load c args cpu.vmcsRegion hC = some hL := VmcsRegion.load_eq (h := hC) hon hp hvalid hne hrev
  obtain ⟨h', hrun, hp', -, hs', -⟩ :=
    VmcsRegion.setup_spec cr4All args (h := hL) hon rfl hsup i e.asU64 hstack hbitmap
  have hw : setupWrites cr4All i e.asU64 (stackEnd - 16) bitmap.val { h with rflags := Outcome.succeed.rflags h.rflags } =
      setupWrites cr4All i e.asU64 (stackEnd - 16) bitmap.val hL :=
    setupWrites_congr cr4All i _ _ _ ((Host.SameRegs.of_update h _ _ _).trans (Host.SameRegs.of_update h _ _ _).symm)
      (by simp only [hL, hC, Outcome.rflags_rflags])
  refine ⟨h', ?_, ?_, ?_, ?_, ?_, ?_⟩
  · simp only [IntelCpu.initAsBsp, hclear, hload, hrun, Option.bind_eq_bind, Option.bind_some, Option.pure_def]
  · rw [hp', Proc.setAll_vmxon]
    exact hon
  · rw [hp', Proc.setAll_current]
  · rw [hp', Proc.setAll_launched]
    exact Function.update_self ..
  · rw [hs'.msr, Host.setHostCrs_msr]
  · intro f x hmem
    rw [hp']
    exact holdsSetup_setAll cr4All hL.proc _ i _ _ _ hL f x (hw ▸ hmem)

/-- **`run_vm` on a clear VMCS whose host and guest state pass**: the guest
runs exactly when the controls pass; otherwise VMLAUNCH fails with error 7,
which `run_vm` reads back before it halts. -/
theorem IntelCpu.runVm_of_clear {h : Host} {o v : Nat} (hon : h.proc.vmxon = some o)
    (hcur : h.proc.current = some v) (hclear : h.proc.launched v = false)
    (hsup : c.supported Field.vmInstructionError.encoding = true) (hhost : hostOk h.msr (h.proc.data v))
    (hguest : guestOk h.msr (h.proc.data v)) :
    ∃ h', IntelCpu.runVm c h = some (h', if controlsOk c h.msr (h.proc.data v) then .guest else .halted 7) ∧
      h'.proc.current = some v ∧ (controlsOk c h.msr (h.proc.data v) → h'.proc.data v = h.proc.data v) := by
  have hl := vmlaunch_of_clear (c := c) hon hcur hclear hhost hguest
  by_cases hctl : controlsOk c h.msr (h.proc.data v)
  · rw [if_pos hctl] at hl ⊢
    refine ⟨{ h with proc := { h.proc with launched := Function.update h.proc.launched v true } }, ?_, hcur,
      fun _ => rfl⟩
    simp only [IntelCpu.runVm, hl, Option.bind_eq_bind, Option.bind_some, Option.pure_def]
  · rw [if_neg hctl, Proc.fail_of_current hcur] at hl
    rw [if_neg hctl]
    have hread := VmcsRegion.read_eq (h := { h with
      proc := h.proc.set v vmInstructionError (UInt64.ofNat 7)
      rflags := (Outcome.failValid 7).rflags h.rflags }) hon hcur hsup
    refine ⟨{ h with
      proc := h.proc.set v vmInstructionError (UInt64.ofNat 7)
      rflags := Outcome.succeed.rflags ((Outcome.failValid 7).rflags h.rflags) }, ?_, hcur, fun hc => absurd hc hctl⟩
    simp only [IntelCpu.runVm, hl, Option.bind_eq_bind, Option.bind_some, Host.report, checkVmxError_rflags, hread,
      Proc.set_data, Option.pure_def, show Field.vmInstructionError.encoding = vmInstructionError from rfl, and_self,
      if_true]
    rfl

end Bringup

/-! ## The bring-up -/

/-- The processor as the firmware hands it over: outside VMX operation, in
IA-32e mode with paging and PAE, WP set under CET, and RFLAGS as the
architecture keeps it. -/
structure Firmware (h : Host) : Prop where
  outside : h.proc.vmxon = none
  paging : h.cr0 &&& bit 31 ≠ 0
  pae : h.cr4 &&& bit 5 ≠ 0
  wpUnderCet : h.cr4 &&& bit 23 ≠ 0 → h.cr0 &&& bit 16 ≠ 0
  rflagsReserved : Within h.rflags 0x3f_7fd7
  rflagsOne : Within 2 h.rflags

/-- VMX support as the bring-up relies on it: every VMCS field, consistent
capability MSRs, fixed bits that allow what the firmware and the crate's
register types leave set, CR4.VMXE, FSGSBASE and PAE, CR0.WP and CR0.PG
allowed, and CET not forced. -/
structure VmxSupport (c : Caps) (cr0All cr4All : UInt64) (h : Host) : Prop where
  fields : ∀ f : Field, c.supported f.encoding = true
  controls : ControlCaps h.msr
  cr0Fixed : Within (h.msr 0x486) (h.msr 0x487)
  cr4Fixed : Within (h.msr 0x488) (h.msr 0x489)
  cr0Kept : Within (h.cr0 &&& ~~~cr0All) (h.msr 0x487)
  cr4Kept : Within (h.cr4 &&& ~~~cr4All) (h.msr 0x489)
  vmxe : Within VIRTUAL_MACHINE_EXTENSIONS (h.msr 0x489)
  hostCr4 : Within (FSGSBASE ||| PHYSICAL_ADDRESS_EXTENSION) (h.msr 0x489)
  wpPaging : Within (bit 16 ||| bit 31) (h.msr 0x487)
  cetFree : bit 23 &&& h.msr 0x488 = 0

/-- The pages the allocator returns, as the bring-up relies on them: the
VMXON region and the VMCS on distinct pages VMX takes, a stack page with an
end, and an MSR bitmap the processor can address. -/
structure HeapPages (c : Caps) (args : BootArgs) (vmxonPtr vmcsPtr : UInt64) (i : SetupInputs) : Prop where
  vmxon : (Boot.VmxonRegion.paddr args vmxonPtr).isSome
  vmcs : (Boot.VmcsRegion.paddr args vmcsPtr).isSome
  bitmap : (paddrChecked args.vmmPhysOffset i.bitmapPtr).isSome
  stack : (u64Add i.stackBottom 4096).isSome
  vmxonValid : c.validAddr (heapPhys args vmxonPtr)
  vmcsValid : c.validAddr (heapPhys args vmcsPtr)
  bitmapValid : c.validAddr (heapPhys args i.bitmapPtr)
  distinct : heapPhys args vmxonPtr ≠ heapPhys args vmcsPtr

section Checks

variable {cr0All cr4All : UInt64} {h : Host}

/-- The registers and MSRs as VM entry's checks of the setup's writes need
them. -/
structure AfterVmxon (h : Host) : Prop where
  caps : ControlCaps h.msr
  crs : crsOk h.msr h.cr0 h.cr4
  hostCr4 : Within (FSGSBASE ||| PHYSICAL_ADDRESS_EXTENSION) (h.msr 0x489)
  wp : Within (bit 16) (h.msr 0x487)
  paging : h.cr0 &&& bit 31 ≠ 0
  pae : h.cr4 &&& bit 5 ≠ 0
  wpUnderCet : h.cr4 &&& bit 23 ≠ 0 → h.cr0 &&& bit 16 ≠ 0

/-- IA32_FEATURE_CONTROL is no capability MSR: `vmxon` leaves the capabilities. -/
theorem ControlCaps.of_feature {m m' : UInt32 → UInt64} (hc : ControlCaps m') (hm : ∀ j, j ≠ 0x3a → m j = m' j) :
    ControlCaps m :=
  ⟨hm 0x481 (by decide) ▸ hc.pin, hm 0x482 (by decide) ▸ hc.proc, hm 0x48b (by decide) ▸ hc.proc2,
    hm 0x483 (by decide) ▸ hc.exit, hm 0x484 (by decide) ▸ hc.entry⟩

theorem forcedAllowed_of_feature {m m' : UInt32 → UInt64} (hm : ∀ j, j ≠ 0x3a → m j = m' j) :
    ForcedAllowed m ↔ ForcedAllowed m' := by
  simp only [ForcedAllowed, hm 0x482 (by decide), hm 0x483 (by decide), hm 0x484 (by decide)]

/-- **`vmxon` leaves what VM entry checks.** From the processor the firmware
hands over, with the VMX support the bring-up relies on, the registers and
MSRs `vmxon` leaves pass what VM entry checks of them: CR0 and CR4 within
their fixed bits with paging, PAE and WP under CET kept. -/
theorem afterVmxon_of_firmware {c : Caps} (hfw : Firmware h) (hvmx : VmxSupport c cr0All cr4All h) {h₁ : Host}
    (hmsr : ∀ i, i ≠ 0x3a → h₁.msr i = h.msr i)
    (hcr0 : h₁.cr0 = (h.cr0 &&& ~~~cr0All) ||| ((h.cr0 &&& cr0All &&& h.msr 0x487) ||| h.msr 0x486))
    (hcr4 : h₁.cr4 = (h.cr4 &&& ~~~cr4All) ||| ((h.cr4 &&& cr4All &&& h.msr 0x489) ||| h.msr 0x488) |||
      VIRTUAL_MACHINE_EXTENSIONS)
    (hcrs : crsOk h₁.msr h₁.cr0 h₁.cr4) : AfterVmxon h₁ := by
  refine ⟨hvmx.controls.of_feature hmsr, hcrs, by rw [hmsr _ (by decide)]; exact hvmx.hostCr4,
    by rw [hmsr _ (by decide)]; exact (within_or_left _ _).mono hvmx.wpPaging, ?_, ?_, fun hc => ?_⟩
  · rw [hcr0]
    exact (within_bit_iff (by decide)).mp
      (((within_bit_iff (by decide)).mpr hfw.paging).keep ((within_or_right _ _).mono hvmx.wpPaging))
  · rw [hcr4]
    exact (within_bit_iff (by decide)).mp ((((within_bit_iff (by decide)).mpr hfw.pae).keep
      ((within_or_right _ _).mono hvmx.hostCr4)).mono (within_or_left _ _))
  · rw [hcr4] at hc
    have hcet : h.cr4 &&& bit 23 ≠ 0 := (within_bit_iff (by decide)).mp
      (((within_bit_iff (by decide)).mpr hc).of_keep hvmx.cetFree (by decide))
    rw [hcr0]
    exact (within_bit_iff (by decide)).mp
      (((within_bit_iff (by decide)).mpr (hfw.wpUnderCet hcet)).keep ((within_or_left _ _).mono hvmx.wpPaging))

end Checks

/-- The selectors `entry` (entry.s) loads before it jumps to `vmm_main`: CS
the 64-bit code segment at `0x18`, the data segments the 64-bit data segment at
`0x20`, and TR the TSS at `0x40`. -/
structure EntrySelectors (h : Host) : Prop where
  cs : h.cs = 0x18
  data : h.ds = 0x20 ∧ h.es = 0x20 ∧ h.ss = 0x20 ∧ h.fs = 0x20 ∧ h.gs = 0x20
  tr : h.tr = 0x40

theorem EntrySelectors.hostSelectors {h : Host} (he : EntrySelectors h) : HostSelectors h := by
  obtain ⟨hcs, ⟨hds, hes, hss, hfs, hgs⟩, htr⟩ := he
  refine ⟨?_, ?_, ?_, ?_⟩ <;> simp only [Host.selectors, hcs, hds, hes, hss, hfs, hgs, htr]
  · simp only [List.forall_mem_cons, List.not_mem_nil, IsEmpty.forall_iff, implies_true, and_true]
    decide
  all_goals decide

variable {cr0All cr4All : UInt64} {c : Caps} {args : BootArgs}

/-- **`vmm_main` enters the guest, or halts with error 7.** On a processor as
the firmware leaves it, with the selectors `entry` loads, the VMX support the
setup relies on, pages from the allocator as VMX takes them, CPUID reporting VMX and IA32_FEATURE_CONTROL
not locked with VMX off, and whatever EPT `init_ept` builds, `vmm_main`
enters the guest exactly when the capability MSRs allow the four controls the
setup forces on, and otherwise halts with VM-instruction error 7 (invalid
control field) in r15. The guest starts where UEFI's `entry` left off: at
`entry_ret`, on UEFI's stack and page tables, and its exits go to the VMM's
handler. -/
theorem vmm_main_launches {h : Host} (hfw : Firmware h) (hvmx : VmxSupport c cr0All cr4All h)
    (hsel : EntrySelectors h) {vmxonPtr vmcsPtr : UInt64} {i : SetupInputs} (hheap : HeapPages c args vmxonPtr vmcsPtr i) {ecx : UInt32}
    (hcpuid : IntelCpu.isVmxSupported ecx = true) (hfc : h.msr 0x3a &&& 1 = 0 ∨ h.msr 0x3a &&& 4 ≠ 0)
    (e : Ept.EptPointer) :
    ∃ h', vmmMain cr0All cr4All c args ecx vmxonPtr vmcsPtr i (some e) h =
        some (h', if ForcedAllowed h.msr then .guest else .halted 7) ∧
      (ForcedAllowed h.msr → ∃ v, h'.proc.current = some v ∧ GuestStart i h.cr3 (h'.proc.data v)) := by
  obtain ⟨pOn, hpOn⟩ := Option.isSome_iff_exists.mp hheap.vmxon
  obtain ⟨pCs, hpCs⟩ := Option.isSome_iff_exists.mp hheap.vmcs
  obtain ⟨bitmap, hbitmap⟩ := Option.isSome_iff_exists.mp hheap.bitmap
  obtain ⟨stackEnd, hstack⟩ := Option.isSome_iff_exists.mp hheap.stack
  have hOn : pOn.val.toNat = heapPhys args vmxonPtr := heapPhys_of_vmxonPaddr hpOn
  have hCs : pCs.val.toNat = heapPhys args vmcsPtr := heapPhys_of_paddrChecked hpCs
  have hbm : c.validAddr bitmap.val.toNat := heapPhys_of_paddrChecked hbitmap ▸ hheap.bitmapValid
  obtain ⟨hrevOn, hrevCs⟩ := revisionOk_newRegions hheap.vmxonValid.1 hheap.vmcsValid.1 hheap.distinct h
  have hrevOn' : revisionOk (newRegion (heapPhys args vmcsPtr) (newRegion (heapPhys args vmxonPtr) h)).msr
      (newRegion (heapPhys args vmcsPtr) (newRegion (heapPhys args vmxonPtr) h)).mem pOn.val.toNat := by
    rw [hOn]
    exact hrevOn
  obtain ⟨h₁, hv, hmem₁, -, hcr3₁, hmsr₁, hcr0₁, hcr4₁, hcrs₁, hsel₁⟩ := vmxon_enters cr0All cr4All c args ⟨vmxonPtr⟩
    (newRegion (heapPhys args vmcsPtr) (newRegion (heapPhys args vmxonPtr) h)) hpOn hfw.outside hvmx.cr0Kept
    hvmx.cr4Kept hvmx.cr0Fixed hvmx.cr4Fixed hvmx.vmxe hfc (hOn ▸ hheap.vmxonValid) hrevOn'
  let hA : Host := { h₁ with
    proc := { h.proc with vmxon := some pOn.val.toNat, current := none }
    rflags := Outcome.succeed.rflags h.rflags }
  have hen : IntelCpu.enableVirtualization cr0All cr4All c args ecx ⟨⟨vmxonPtr⟩, ⟨vmcsPtr⟩, Ept.EptPointer.new⟩
      (newRegion (heapPhys args vmcsPtr) (newRegion (heapPhys args vmxonPtr) h)) = some (hA, .ok ()) :=
    IntelCpu.enableVirtualization_of_vmxon hcpuid hv
  have hne : pCs.val.toNat ≠ pOn.val.toNat := by
    rw [hCs, hOn]
    exact hheap.distinct.symm
  have hrevA : revisionOk hA.msr hA.mem pCs.val.toNat := by
    show revisionOk h₁.msr h₁.mem pCs.val.toNat
    rw [revisionOk, hmem₁, hmsr₁ 0x480 (by decide), hCs]
    exact hrevCs
  obtain ⟨h₃, hinit, hon₃, hcur₃, hclear₃, hmsr₃, hd⟩ := IntelCpu.initAsBsp_spec cr4All (h := hA) rfl hvmx.fields
    ⟨⟨vmxonPtr⟩, ⟨vmcsPtr⟩, Ept.EptPointer.new⟩ hpCs (hCs ▸ hheap.vmcsValid) hne hrevA i e hstack hbitmap
  have hafter := afterVmxon_of_firmware hfw hvmx hmsr₁ hcr0₁ hcr4₁ hcrs₁
  have hfl := Outcome.succeed.rflags_within hfw.rflagsReserved hfw.rflagsOne
  have hfl' := Outcome.succeed.rflags_within hfl.1 hfl.2
  have hhost := hostOk_of_holdsSetup hd hafter.crs hafter.hostCr4 hafter.wp
    (.of_selectors (h := h) (hsel₁.trans rfl) hsel.hostSelectors)
  have hguest := guestOk_of_holdsSetup hd hafter.crs hafter.wpUnderCet hafter.paging hafter.pae hfl'.1 hfl'.2
  have hallowed : controlsOk c h₃.msr (h₃.proc.data pCs.val.toNat) ↔ ForcedAllowed h.msr := by
    rw [hmsr₃]
    exact (controlsOk_iff_of_holdsSetup c hd hafter.caps hbm).trans (forcedAllowed_of_feature hmsr₁)
  obtain ⟨h₄, hrun, hcur₄, hdata₄⟩ := IntelCpu.runVm_of_clear hon₃ hcur₃ hclear₃ (hvmx.fields .vmInstructionError)
    (by rw [hmsr₃]; exact hhost) (by rw [hmsr₃]; exact hguest)
  refine ⟨h₄, ?_, fun hf => ⟨pCs.val.toNat, hcur₄, ?_⟩⟩
  · rw [← if_congr hallowed rfl rfl, ← hrun]
    simp only [vmmMain, IntelCpu.new, hen, hinit, Option.bind_eq_bind, Option.bind_some]
  · have hcr3 : h₁.cr3 = h.cr3 := hcr3₁
    rw [hdata₄ (hallowed.mpr hf), ← hcr3]
    exact hd.guestStart

/-- The processor of `bootHost` once `entry` has loaded the VMM's segments. -/
def entryHost : Host :=
  { bootHost with cs := 0x18, ds := 0x20, es := 0x20, ss := 0x20, fs := 0x20, gs := 0x20, tr := 0x40 }

theorem vmm_main_launches_at_entry :
    ∃ h', vmmMain 0xe005_003f 0x01ff_7fff bootCaps bootArgs 0x7ffa_fbbf 0x1_0010_0000 0x1_0010_1000 bootInputs
        (some Ept.EptPointer.new) entryHost = some (h', if ForcedAllowed entryHost.msr then .guest else .halted 7) ∧
      (ForcedAllowed entryHost.msr →
        ∃ v, h'.proc.current = some v ∧ GuestStart bootInputs entryHost.cr3 (h'.proc.data v)) :=
  vmm_main_launches ⟨rfl, by decide, by decide, by decide, by decide, by decide⟩
    ⟨fun _ => rfl, ⟨by decide, by decide, by decide, by decide, by decide⟩, by decide, by decide, by decide,
      by decide, by decide, by decide, by decide, by decide⟩
    ⟨rfl, ⟨rfl, rfl, rfl, rfl, rfl⟩, rfl⟩
    ⟨by decide, by decide, by decide, by decide, by decide, by decide, by decide, by decide⟩ (by decide) (by decide)
    Ept.EptPointer.new

/-- The current VMCS at `v`, as the exit path reads it. -/
def vmcsAt (p : Proc) (v : Nat) : Vmcs := fun field => p.data v field.field.encoding

/-- `run_vm` ends with an entry failure only as VMLAUNCH does. -/
theorem IntelCpu.runVm_eq_entryFailure {h h' : Host} (hrun : IntelCpu.runVm c h = some (h', .entryFailure)) :
    ∃ p, vmlaunch c h.msr h.proc = some (p, .entryFailure) ∧ h' = { h with proc := p } := by
  unfold IntelCpu.runVm at hrun
  cases hl : vmlaunch c h.msr h.proc with
  | none => simp [hl] at hrun
  | some r =>
    obtain ⟨p, l⟩ := r
    cases l with
    | entered => simp [hl] at hrun
    | entryFailure =>
      simp only [hl, Option.bind_eq_bind, Option.bind_some, Option.pure_def, Option.some.injEq, Prod.mk.injEq] at hrun
      exact ⟨p, rfl, hrun.1.symm⟩
    | fail o =>
      simp only [hl, Option.bind_eq_bind, Option.bind_some, Host.report] at hrun
      split at hrun <;> simp [Option.bind_eq_some_iff] at hrun

/-- **An entry failure ends in a panic.** When VM entry fails on the guest
state, the VMCS holds exit reason `0x8000_0021`, the processor continues at
`vmexit_handler` with the host state, and whatever the registers and memory,
the handler panics: `transmute` takes no reason with bit 31 set. -/
theorem entry_failure_panics (cpuidCount : UInt32 → UInt32 → CpuidResult) (decode : List UInt8 → Nat)
    {h h' : Host} (hrun : IntelCpu.runVm c h = some (h', .entryFailure)) :
    ∃ v, h'.proc.current = some v ∧ h'.proc.data v exitReason = 0x8000_0021 ∧
      ∀ s, vmexitHandler cpuidCount decode s (vmcsAt h'.proc v) = none := by
  obtain ⟨p, hl, rfl⟩ := IntelCpu.runVm_eq_entryFailure hrun
  obtain ⟨v, hcur, rfl⟩ := vmlaunch_entryFailure hl
  have hreason : (h.proc.set v exitReason 0x8000_0021).data v exitReason = 0x8000_0021 := by
    simp [Proc.set_data]
  have htrans : VmExitReason.transmute (vmcsAt (h.proc.set v exitReason 0x8000_0021) v .vmExitReason) = none := by
    rw [show vmcsAt (h.proc.set v exitReason 0x8000_0021) v .vmExitReason = 0x8000_0021 from hreason]
    decide
  refine ⟨v, hcur, hreason, fun s => ?_⟩
  simp [vmexitHandler, resumeVm, handleVmexit, htrans]

/-- `run_vm` never returns: VMLAUNCH never reports VMsucceed. -/
theorem IntelCpu.runVm_ne_returned (h h' : Host) : IntelCpu.runVm c h ≠ some (h', .returned) := by
  intro hrun
  unfold IntelCpu.runVm at hrun
  cases hl : vmlaunch c h.msr h.proc with
  | none => simp [hl] at hrun
  | some r =>
    obtain ⟨p, l⟩ := r
    cases l with
    | entered => simp [hl] at hrun
    | entryFailure => simp [hl] at hrun
    | fail o =>
      have hne := vmlaunch_fail_ne_succeed hl
      simp only [hl, Option.bind_eq_bind, Option.bind_some, Host.report, checkVmxError_rflags] at hrun
      cases o with
      | succeed => exact hne rfl
      | failInvalid => simp at hrun
      | failValid n => simp [Option.bind_eq_some_iff] at hrun

/-- **`vmm_main` never returns.** Whatever the processor, the pages and the
EPT, `vmm_main` enters the guest, fails VM entry into the exit handler, halts
or panics: it never returns to `efi_main`. -/
theorem vmm_main_never_returns (ecx : UInt32) (vmxonPtr vmcsPtr : UInt64) (i : SetupInputs)
    (initEpt : Option Ept.EptPointer) (h h' : Host) :
    vmmMain cr0All cr4All c args ecx vmxonPtr vmcsPtr i initEpt h ≠ some (h', .returned) := by
  intro hmain
  simp only [vmmMain, IntelCpu.new, Option.bind_eq_bind] at hmain
  obtain ⟨⟨h₁, res⟩, -, hmain⟩ := Option.bind_eq_some_iff.mp hmain
  cases res with
  | error _ => simp at hmain
  | ok _ =>
    obtain ⟨⟨_, h₃⟩, -, hrun⟩ := Option.bind_eq_some_iff.mp hmain
    exact IntelCpu.runVm_ne_returned h₃ h' hrun

end Htvmm.Vmx
