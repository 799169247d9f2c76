import Htvmm.Vmx.Region

/-!
# Entering VMX operation and filling the VMCS

`vmxon` (vmx.rs) brings CR4 and CR0 within the fixed bits of the VMX
capability MSRs, sets CR4.VMXE, locks IA32_FEATURE_CONTROL with VMX enabled
if the firmware left it unlocked, and executes VMXON. `VmcsRegion::setup`
(vmcs.rs) writes the guest-state area from the UEFI state `entry` saved, the
host-state area from the VMM's own, and the VM-execution, exit and entry
controls, each from its capability MSR.

The `x86_64` crate's `Cr0::read` and `Cr4::read` keep the flags their types
declare (`cr0All`, `cr4All`), and `Cr0::write` and `Cr4::write` keep the
other bits of the register.
-/

namespace Htvmm.Vmx

open X86 X86.Vmx Word Paging Boot

section Crs

variable (cr0All cr4All : UInt64)

/-- `Cr0::write`: the flags, with the bits `Cr0Flags` does not declare kept. -/
def Host.writeCr0 (h : Host) (flags : UInt64) : Host :=
  { h with cr0 := (h.cr0 &&& ~~~cr0All) ||| flags }

/-- `Cr4::write`. -/
def Host.writeCr4 (h : Host) (flags : UInt64) : Host :=
  { h with cr4 := (h.cr4 &&& ~~~cr4All) ||| flags }

/-- `Msr::write`. -/
def Host.writeMsr (h : Host) (index : UInt32) (value : UInt64) : Host :=
  { h with msr := Function.update h.msr index value }

/-- `Cr4Flags::VIRTUAL_MACHINE_EXTENSIONS`. -/
def VIRTUAL_MACHINE_EXTENSIONS : UInt64 := bit 13

/-- `vmxon` (vmx.rs): CR4 and CR0 within the fixed bits, CR4.VMXE,
IA32_FEATURE_CONTROL locked with VMX outside SMX enabled unless it was
locked, then VMXON on the region's physical address. -/
def vmxon (c : Caps) (args : BootArgs) (vmxonRegion : VmxonRegion) (h : Host) :
    Option (Host × Except VmxError Unit) := do
  let cr4 := h.cr4 &&& cr4All
  let cr4Fixed0 := h.msr 0x488
  let cr4Fixed1 := h.msr 0x489
  let h := h.writeCr4 cr4All ((cr4 &&& cr4Fixed1) ||| cr4Fixed0)
  let h := h.writeCr4 cr4All ((h.cr4 &&& cr4All) ||| VIRTUAL_MACHINE_EXTENSIONS)
  let cr0 := h.cr0 &&& cr0All
  let cr0Fixed0 := h.msr 0x486
  let cr0Fixed1 := h.msr 0x487
  let h := h.writeCr0 cr0All ((cr0 &&& cr0Fixed1) ||| cr0Fixed0)
  let ia32FeatureControl := h.msr 0x3a
  let lock := (ia32FeatureControl &&& 0b1) == 1
  let h := if !lock then h.writeMsr 0x3a (ia32FeatureControl ||| 5) else h
  let paddr ← Boot.VmxonRegion.paddr args vmxonRegion.ptr
  asmVmxon c paddr h

/-- What `vmxon` does before VMXON. With the bits of CR0 and CR4 that the
crate does not declare allowed, each fixed-bit MSR pair consistent, and
CR4.VMXE allowed, it leaves the control registers as VMX operation allows;
IA32_FEATURE_CONTROL then enables VMXON unless the firmware locked it with
VMX off. -/
theorem vmxon_spec (c : Caps) (args : BootArgs) (r : VmxonRegion) (h : Host)
    (hcr0 : Within (h.cr0 &&& ~~~cr0All) (h.msr 0x487)) (hcr4 : Within (h.cr4 &&& ~~~cr4All) (h.msr 0x489))
    (h0 : Within (h.msr 0x486) (h.msr 0x487)) (h4 : Within (h.msr 0x488) (h.msr 0x489))
    (hvmxe : Within VIRTUAL_MACHINE_EXTENSIONS (h.msr 0x489)) :
    ∃ h₁, vmxon cr0All cr4All c args r h =
        (Boot.VmxonRegion.paddr args r.ptr).bind (fun paddr => asmVmxon c paddr h₁) ∧
      h₁.proc = h.proc ∧ h₁.mem = h.mem ∧ h₁.rflags = h.rflags ∧ h₁.cr3 = h.cr3 ∧
      (∀ i, i ≠ 0x3a → h₁.msr i = h.msr i) ∧
      h₁.cr0 = (h.cr0 &&& ~~~cr0All) ||| ((h.cr0 &&& cr0All &&& h.msr 0x487) ||| h.msr 0x486) ∧
      h₁.cr4 = (h.cr4 &&& ~~~cr4All) ||| ((h.cr4 &&& cr4All &&& h.msr 0x489) ||| h.msr 0x488) |||
        VIRTUAL_MACHINE_EXTENSIONS ∧
      crsOk h₁.msr h₁.cr0 h₁.cr4 ∧
      (featureOk h₁.msr ↔ h.msr 0x3a &&& 1 = 0 ∨ h.msr 0x3a &&& 4 ≠ 0) ∧ h₁.selectors = h.selectors := by
  have hcr4' := or_and_not_or ((h.cr4 &&& ~~~cr4All) ||| ((h.cr4 &&& cr4All &&& h.msr 0x489) ||| h.msr 0x488))
    cr4All VIRTUAL_MACHINE_EXTENSIONS
  have hone : (1 : UInt64).toNat = 2 ^ 0 := rfl
  set h₂ : Host := { h with
    cr0 := (h.cr0 &&& ~~~cr0All) ||| ((h.cr0 &&& cr0All &&& h.msr 0x487) ||| h.msr 0x486)
    cr4 := (h.cr4 &&& ~~~cr4All) ||| ((h.cr4 &&& cr4All &&& h.msr 0x489) ||| h.msr 0x488) |||
      VIRTUAL_MACHINE_EXTENSIONS } with hh₂
  have hcrs : crsOk h.msr h₂.cr0 h₂.cr4 := ⟨fits_keep hcr0 h0, (fits_keep hcr4 h4).or_within hvmxe⟩
  have hvmx : vmxon cr0All cr4All c args r h = (Boot.VmxonRegion.paddr args r.ptr).bind fun paddr =>
      asmVmxon c paddr (if !(h.msr 0x3a &&& 0b1 == 1) then h₂.writeMsr 0x3a (h.msr 0x3a ||| 5) else h₂) := by
    simp only [vmxon, Host.writeCr4, Host.writeCr0, hcr4', hh₂]
    rfl
  by_cases hlock : h.msr 0x3a &&& 1 = 0
  · rw [if_pos (by rw [hlock]; decide)] at hvmx
    refine ⟨_, hvmx, rfl, rfl, rfl, rfl, fun i hi => Function.update_of_ne hi _ _, rfl, rfl, ?_, ?_, rfl⟩
    · simpa only [crsOk, Host.writeMsr, Function.update_of_ne (show (0x486 : UInt32) ≠ 0x3a by decide),
        Function.update_of_ne (show (0x487 : UInt32) ≠ 0x3a by decide),
        Function.update_of_ne (show (0x488 : UInt32) ≠ 0x3a by decide),
        Function.update_of_ne (show (0x489 : UInt32) ≠ 0x3a by decide)] using hcrs
    · have h1 : Within 1 (h.msr 0x3a ||| 5) := (show Within 1 5 by decide).mono (within_or_right _ _)
      have h4 : Within 4 (h.msr 0x3a ||| 5) := (show Within 4 5 by decide).mono (within_or_right _ _)
      simp only [featureOk, Host.writeMsr, Function.update_self]
      exact iff_of_true ⟨h1.and_ne_zero (by decide), h4.and_ne_zero (by decide)⟩ (Or.inl hlock)
  · have h1 : h.msr 0x3a &&& 1 = 1 := by
      have := and_bit (h.msr 0x3a) hone
      split at this <;> simp_all
    rw [if_neg (by rw [h1]; decide)] at hvmx
    refine ⟨_, hvmx, rfl, rfl, rfl, rfl, fun _ _ => rfl, rfl, rfl, hcrs, ?_, rfl⟩
    simp only [featureOk, hh₂]
    simp [hlock]

/-- Whatever else CR4 holds, `vmxon` leaves VMXE set. -/
theorem vmxe_set (x : UInt64) : (x ||| VIRTUAL_MACHINE_EXTENSIONS) &&& 0x2000 ≠ 0 :=
  (within_or_right x _).and_ne_zero (by decide)

/-- **`vmxon` faults exactly when the firmware locked VMX off.** Outside VMX
operation, under the conditions of `vmxon_spec` and with a region pointer
that converts, VMXON raises #GP exactly when IA32_FEATURE_CONTROL is locked
with VMX outside SMX disabled, which `vmxon` never checks. -/
theorem vmxon_eq_none_iff (c : Caps) (args : BootArgs) (r : VmxonRegion) (h : Host) {paddr : PhysAddr}
    (hp : Boot.VmxonRegion.paddr args r.ptr = some paddr) (hoff : h.proc.vmxon = none)
    (hcr0 : Within (h.cr0 &&& ~~~cr0All) (h.msr 0x487)) (hcr4 : Within (h.cr4 &&& ~~~cr4All) (h.msr 0x489))
    (h0 : Within (h.msr 0x486) (h.msr 0x487)) (h4 : Within (h.msr 0x488) (h.msr 0x489))
    (hvmxe : Within VIRTUAL_MACHINE_EXTENSIONS (h.msr 0x489)) :
    vmxon cr0All cr4All c args r h = none ↔ h.msr 0x3a &&& 1 ≠ 0 ∧ h.msr 0x3a &&& 4 = 0 := by
  obtain ⟨h₁, hv, hproc, -, -, -, -, -, hcr4₁, hcrs, hfeat, -⟩ := vmxon_spec cr0All cr4All c args r h hcr0 hcr4 h0 h4 hvmxe
  rw [hv, hp, Option.bind_some, asmVmxon, Option.map_eq_none_iff,
    X86.Vmx.vmxon_faults_iff c h₁.msr (hproc ▸ hoff) (hcr4₁ ▸ vmxe_set _), hfeat]
  simp only [hcrs, true_and, not_or, not_not]

/-- The MSRs of a current Intel core as the firmware leaves them:
IA32_FEATURE_CONTROL locked with VMX outside SMX enabled, VMCS revision
identifier 4, and the VMX capability MSRs. -/
def bootMsr (index : UInt32) : UInt64 :=
  if index = 0x3a then 0x5
  else if index = 0x480 then 0x00da_0400_0000_0004
  else if index = 0x481 then 0x0000_007f_0000_0016
  else if index = 0x482 then 0xfff9_fffe_0401_e172
  else if index = 0x483 then 0x01ff_ffff_0003_6dff
  else if index = 0x484 then 0x0003_ffff_0000_11ff
  else if index = 0x486 then 0x8000_0021
  else if index = 0x487 then 0xffff_ffff
  else if index = 0x488 then 0x2000
  else if index = 0x489 then 0x0037_27ff
  else if index = 0x48b then 0x0051_ff77_0000_0000
  else 0

/-- That core as UEFI runs on it: outside VMX operation, in IA-32e mode with
paging, PAE and WP. -/
def bootHost : Host where
  proc := ⟨none, none, fun _ => false, fun _ _ => 0⟩
  rflags := 0x2
  cr0 := 0x8005_0033
  cr3 := 0x3f80_1000
  cr4 := 0x668
  dr7 := 0x400
  cs := 0x38
  ds := 0x30
  es := 0x30
  fs := 0x30
  gs := 0x30
  ss := 0x30
  tr := 0
  gdtr := ⟨0x47, 0x3f9d_e000⟩
  idtr := ⟨0xfff, 0x3f4e_3018⟩
  fsBase := 0
  gsBase := 0
  msr := bootMsr
  mem := fun _ => 0

/-- Its MAXPHYADDR and VMCS fields. -/
def bootCaps : Caps := ⟨39, fun _ => true⟩

/-- The VMM area loaded at `0x1000_0000`, on 1 GiB of memory. -/
def bootArgs : BootArgs := ⟨0x1000_0000 - 2 ^ 32, 0x4000_0000⟩

theorem vmxon_eq_none_iff_at_boot_core :
    (vmxon 0xe005_003f 0x01ff_7fff bootCaps bootArgs ⟨0x1_0010_0000⟩ bootHost = none ↔
      bootHost.msr 0x3a &&& 1 ≠ 0 ∧ bootHost.msr 0x3a &&& 4 = 0) :=
  vmxon_eq_none_iff 0xe005_003f 0x01ff_7fff bootCaps bootArgs ⟨0x1_0010_0000⟩ bootHost
    (show Boot.VmxonRegion.paddr bootArgs 0x1_0010_0000 = some ⟨0x1010_0000, by decide⟩ by decide) rfl
    (by decide) (by decide) (by decide) (by decide) (by decide)

/-- Past IA32_FEATURE_CONTROL, `vmxon` enters VMX operation with a region
VMXON takes, with no current VMCS. -/
theorem vmxon_enters (c : Caps) (args : BootArgs) (r : VmxonRegion) (h : Host) {paddr : PhysAddr}
    (hp : Boot.VmxonRegion.paddr args r.ptr = some paddr) (hoff : h.proc.vmxon = none)
    (hcr0 : Within (h.cr0 &&& ~~~cr0All) (h.msr 0x487)) (hcr4 : Within (h.cr4 &&& ~~~cr4All) (h.msr 0x489))
    (h0 : Within (h.msr 0x486) (h.msr 0x487)) (h4 : Within (h.msr 0x488) (h.msr 0x489))
    (hvmxe : Within VIRTUAL_MACHINE_EXTENSIONS (h.msr 0x489))
    (hfc : h.msr 0x3a &&& 1 = 0 ∨ h.msr 0x3a &&& 4 ≠ 0)
    (hvalid : c.validAddr paddr.val.toNat) (hrev : revisionOk h.msr h.mem paddr.val.toNat) :
    ∃ h₁ : Host, vmxon cr0All cr4All c args r h =
        some ({ h₁ with
          proc := { h.proc with vmxon := some paddr.val.toNat, current := none }
          rflags := Outcome.succeed.rflags h.rflags }, .ok ()) ∧
      h₁.mem = h.mem ∧ h₁.rflags = h.rflags ∧ h₁.cr3 = h.cr3 ∧ (∀ i, i ≠ 0x3a → h₁.msr i = h.msr i) ∧
      h₁.cr0 = (h.cr0 &&& ~~~cr0All) ||| ((h.cr0 &&& cr0All &&& h.msr 0x487) ||| h.msr 0x486) ∧
      h₁.cr4 = (h.cr4 &&& ~~~cr4All) ||| ((h.cr4 &&& cr4All &&& h.msr 0x489) ||| h.msr 0x488) |||
        VIRTUAL_MACHINE_EXTENSIONS ∧
      crsOk h₁.msr h₁.cr0 h₁.cr4 ∧ h₁.selectors = h.selectors := by
  obtain ⟨h₁, hv, hproc, hmem, hfl, hcr3, hmsr, hcr0₁, hcr4₁, hcrs, hfeat, hsel⟩ :=
    vmxon_spec cr0All cr4All c args r h hcr0 hcr4 h0 h4 hvmxe
  have hrev₁ : revisionOk h₁.msr h₁.mem paddr.val.toNat := by
    rw [revisionOk, hmem, hmsr 0x480 (by decide)]
    exact hrev
  refine ⟨h₁, ?_, hmem, hfl, hcr3, hmsr, hcr0₁, hcr4₁, hcrs, hsel⟩
  rw [hv, hp, Option.bind_some, asmVmxon,
    X86.Vmx.vmxon_of_ok c h₁.msr (hproc ▸ hoff) (hcr4₁ ▸ vmxe_set _) ⟨hcrs, hfeat.mpr hfc⟩,
    if_pos ⟨hvalid, hrev₁⟩]
  simp [Host.report, checkVmxError_rflags, hproc, hfl]


/-- `Cr3::read_raw` and `start_address | flags`: the frame's address, bits
51:12, and the low twelve bits. -/
def cr3Value (cr3 : UInt64) : UInt64 :=
  (cr3 &&& 0x000f_ffff_ffff_f000) ||| (cr3 &&& 0xfff).toUInt16.toUInt64

/-- The registers `save_uefi_regs` (entry.s) kept of UEFI's that
`setup_guest_state_area` reads: `uefi_cs` to `uefi_ss`, `uefi_ldtr`,
`uefi_tr`, `uefi_gdtr`, `uefi_idtr`, and `uefi_rsp`, which `entry` saved. -/
structure UefiRegs where
  cs : UInt16
  ds : UInt16
  es : UInt16
  fs : UInt16
  gs : UInt16
  ss : UInt16
  ldtr : UInt64
  tr : UInt64
  gdtr : DescriptorTablePointer
  idtr : DescriptorTablePointer
  rsp : UInt64

/-- The 16-, 32- and 64-bit writes of `setup_guest_state_area`, in order,
from UEFI's saved state and the processor's MSRs. -/
def guestStateFields (u : UefiRegs) (h : Host) : List (Field × UInt64) :=
  let sysenterCs := h.msr 0x174
  let efer := h.msr 0xc000_0080
  [(.guestCsSelector, u.cs.toUInt64), (.guestDsSelector, u.ds.toUInt64),
   (.guestEsSelector, u.es.toUInt64), (.guestFsSelector, u.fs.toUInt64),
   (.guestGsSelector, u.gs.toUInt64), (.guestSsSelector, u.ss.toUInt64),
   (.guestLdtrSelector, u.ldtr), (.guestTrSelector, u.tr),
   (.guestCsLimit, 0xffffffff), (.guestDsLimit, 0xffffffff), (.guestEsLimit, 0xffffffff),
   (.guestFsLimit, 0xffffffff), (.guestGsLimit, 0xffffffff), (.guestSsLimit, 0xffffffff),
   (.guestLdtrLimit, 0xffff), (.guestTrLimit, 0xffff),
   (.guestGdtrLimit, u.gdtr.limit.toUInt64), (.guestIdtrLimit, u.idtr.limit.toUInt64),
   (.guestCsAccessRights, 0xa09b), (.guestDsAccessRights, 0xc093), (.guestEsAccessRights, 0xc093),
   (.guestFsAccessRights, 0xc093), (.guestGsAccessRights, 0xc093), (.guestSsAccessRights, 0xc093),
   (.guestLdtrAccessRights, 0x0082), (.guestTrAccessRights, 0x008b),
   (.guestInterruptibilityState, 0), (.guestActivityState, 0), (.guestPendingDbgExceptions, 0),
   (.guestIa32SysenterCs, sysenterCs),
   (.vmcsLinkPointer, 0xffff_ffff_ffff_ffff), (.guestIa32Debugctl, 0), (.guestIa32Efer, efer)]

/-- The natural-width writes of `setup_guest_state_area`, from the processor
as the writes before them leave it: RFLAGS is what the last VMWRITE reported,
less VM (bit 17) and IF (bit 9). The guest resumes at `entryRet` on UEFI's
stack. -/
def guestNaturalWidthFields (u : UefiRegs) (entryRet : UInt64) (h : Host) : List (Field × UInt64) :=
  let cr0 := h.cr0
  let cr3 := cr3Value h.cr3
  let cr4 := h.cr4
  let rflags := h.rflags &&& ~~~(bit 17 ||| bit 9)
  let sysenterEsp := h.msr 0x175
  let sysenterEip := h.msr 0x176
  [(.guestCr0, cr0), (.guestCr3, cr3), (.guestCr4, cr4),
   (.guestCsBase, 0), (.guestDsBase, 0), (.guestEsBase, 0), (.guestFsBase, 0), (.guestGsBase, 0),
   (.guestSsBase, 0), (.guestLdtrBase, 0), (.guestTrBase, 0),
   (.guestGdtrBase, u.gdtr.base), (.guestIdtrBase, u.idtr.base), (.guestDr7, h.dr7),
   (.guestRsp, u.rsp), (.guestRip, entryRet), (.guestRflags, rflags),
   (.guestSysenterEsp, sysenterEsp), (.guestSysenterEip, sysenterEip)]

/-- `setup_guest_state_area`: the fixed-width writes, then the natural-width
ones from what the processor is after them. -/
def VmcsRegion.setupGuestStateArea (c : Caps) (u : UefiRegs) (entryRet : UInt64) (h : Host) :
    Option Host := do
  let h ← VmcsRegion.writeAll c (guestStateFields u h) h
  VmcsRegion.writeAll c (guestNaturalWidthFields u entryRet h) h

/-- `Cr4Flags::FSGSBASE`. -/
def FSGSBASE : UInt64 := bit 16

/-- `Cr4Flags::PHYSICAL_ADDRESS_EXTENSION`. -/
def PHYSICAL_ADDRESS_EXTENSION : UInt64 := bit 5

/-- The 16- and 32-bit writes of `setup_host_state_area`: the VMM's selectors
and IA32_SYSENTER_CS. -/
def hostSelectorFields (h : Host) : List (Field × UInt64) :=
  let sysenterCs := h.msr 0x174
  [(.hostCsSelector, h.cs.toUInt64), (.hostDsSelector, h.ds.toUInt64),
   (.hostEsSelector, h.es.toUInt64), (.hostFsSelector, h.fs.toUInt64),
   (.hostGsSelector, h.gs.toUInt64), (.hostSsSelector, h.ss.toUInt64),
   (.hostTrSelector, h.tr.toUInt64),
   (.hostIa32SysenterCs, sysenterCs)]

/-- What `setup_host_state_area` does to the control registers before it
reads them: CR4.FSGSBASE and CR4.PAE set through `Cr4::write`, then CR0.WP
set when CR4.CET is. -/
def Host.setHostCrs (h : Host) : Host :=
  let h := h.writeCr4 cr4All ((h.cr4 &&& cr4All) ||| FSGSBASE ||| PHYSICAL_ADDRESS_EXTENSION)
  if (h.cr4 >>> 23) &&& 1 == 1 then { h with cr0 := h.cr0 ||| bit 16 } else h

/-- The natural-width and remaining writes of `setup_host_state_area`, with
the handler at `vmexitHostRip`, the stack top `stackTop`, and `trBase` the
base `SegmentDescriptor::base` reads from the VMM's GDT. -/
def hostNaturalWidthFields (vmexitHostRip stackTop trBase : UInt64) (h : Host) : List (Field × UInt64) :=
  let cr3 := cr3Value h.cr3
  [(.hostCr0, h.cr0), (.hostCr3, cr3), (.hostCr4, h.cr4),
   (.hostFsBase, h.fsBase), (.hostGsBase, h.gsBase), (.hostTrBase, trBase),
   (.hostGdtrBase, h.gdtr.base), (.hostIdtrBase, h.idtr.base),
   (.hostIa32SysenterEsp, h.msr 0x175), (.hostIa32SysenterEip, h.msr 0x176),
   (.hostRsp, stackTop), (.hostRip, vmexitHostRip),
   (.hostIa32Efer, h.msr 0xc000_0080), (.hostIa32Pat, h.msr 0x277)]

/-- `setup_host_state_area`, with the stack page the allocator returns at
`stackBottom`. The stack top is 16 bytes below the page's end, whose
computation panics on overflow. -/
def VmcsRegion.setupHostStateArea (c : Caps) (vmexitHostRip stackBottom trBase : UInt64) (h : Host) :
    Option Host := do
  let h ← VmcsRegion.writeAll c (hostSelectorFields h) h
  let h := h.setHostCrs cr4All
  let stackTop := (← u64Add stackBottom 4096) - 16
  VmcsRegion.writeAll c (hostNaturalWidthFields vmexitHostRip stackTop trBase h) h

/-- `VMCS_PROC_BASED_VMEXEC_CTLS_USE_MSR_BITMAPS`. -/
def VMCS_PROC_BASED_VMEXEC_CTLS_USE_MSR_BITMAPS : UInt64 := (1 : UInt64) <<< 28

/-- `VMCS_PROC_BASED_VMEXEC_CTLS_ACTIVE_SECOND_CTLS`. -/
def VMCS_PROC_BASED_VMEXEC_CTLS_ACTIVE_SECOND_CTLS : UInt64 := (1 : UInt64) <<< 31

/-- `VMCS_VMEXIT_CTLS_HOST_ADDR_SPACE_SIZE`. -/
def VMCS_VMEXIT_CTLS_HOST_ADDR_SPACE_SIZE : UInt64 := (1 : UInt64) <<< 9

/-- `VMCS_VMENTRY_CTLS_IA32E_MODE_GUEST`. -/
def VMCS_VMENTRY_CTLS_IA32E_MODE_GUEST : UInt64 := (1 : UInt64) <<< 9

/-- The value `setup_vm_control_fields` makes of a capability MSR, as it does
for each of the five: the low half `and` the high half, as `u32`. -/
def adjustControls (ctls : UInt64) : UInt64 :=
  let ctlsOr := (ctls &&& 0xffff_ffff).toUInt32
  let ctlsAnd := ((ctls >>> 32) &&& 0xffff_ffff).toUInt32
  (ctlsOr &&& ctlsAnd).toUInt64

/-- `adjustControls` is the low half of the MSR `and` its high half. -/
theorem adjustControls_eq (ctls : UInt64) :
    adjustControls ctls = (ctls &&& 0xffff_ffff) &&& (ctls >>> (32 : UInt64)) := by
  apply UInt64.toNat_inj.mp
  have hmask : ∀ n : Nat, n &&& (0xffff_ffff : UInt64).toNat = n % 2 ^ 32 := fun n => by
    rw [show (0xffff_ffff : UInt64).toNat = 2 ^ 32 - 1 by decide, Nat.and_two_pow_sub_one_eq_mod]
  have hlt : (ctls >>> 32).toNat < 2 ^ 32 := by
    rw [UInt64.toNat_shiftRight, show (32 : UInt64).toNat % 64 = 32 by decide, Nat.shiftRight_eq_div_pow]
    have := ctls.toNat_lt
    omega
  simp only [adjustControls, UInt32.toNat_toUInt64, UInt32.toNat_and, UInt64.toNat_toUInt32, UInt64.toNat_and,
    hmask]
  simp only [Nat.mod_mod, Nat.mod_eq_of_lt hlt]

/-- For a consistent MSR, `adjustControls` sets exactly the controls the MSR
requires. -/
theorem adjustControls_of_consistent {cap : UInt64} (h : Consistent cap) :
    adjustControls cap = cap &&& 0xffff_ffff := by
  rw [adjustControls_eq]
  exact h

theorem adjustControls_within (cap : UInt64) : Within (adjustControls cap) 0xffff_ffff := by
  rw [adjustControls_eq]
  exact (within_and_left _ _).mono (and_within _ _)

/-- The writes of `setup_vm_control_fields`, with the EPT pointer `eptp` and
the MSR bitmap at `msrBitmap`. Only the MSR bitmaps and the secondary
controls are added to the processor-based controls; the secondary controls
are the MSR's alone, without "enable EPT". -/
def vmControlFields (eptp msrBitmap : UInt64) (h : Host) : List (Field × UInt64) :=
  let pinBasedCtls := adjustControls (h.msr 0x481)
  let procBasedCtls := adjustControls (h.msr 0x482)
  let procBasedCtls2 := adjustControls (h.msr 0x48b)
  let exitCtls := adjustControls (h.msr 0x483)
  let entryCtls := adjustControls (h.msr 0x484)
  [(.pinBasedVmExecControls, pinBasedCtls),
   (.procBasedVmExecControls, procBasedCtls ||| VMCS_PROC_BASED_VMEXEC_CTLS_USE_MSR_BITMAPS |||
     VMCS_PROC_BASED_VMEXEC_CTLS_ACTIVE_SECOND_CTLS),
   (.procBasedVmExecControls2, procBasedCtls2),
   (.exceptionBitmap, 0xffff_ffff), (.pageFaultErrorCodeMask, 0), (.pageFaultErrorCodeMatch, 0),
   (.cr3TargetCount, 0),
   (.vmExitControls, exitCtls ||| VMCS_VMEXIT_CTLS_HOST_ADDR_SPACE_SIZE),
   (.vmExitMsrStoreCount, 0), (.vmExitMsrLoadCount, 0),
   (.vmEntryControls, entryCtls ||| VMCS_VMENTRY_CTLS_IA32E_MODE_GUEST),
   (.vmEntryMsrLoadCount, 0), (.vmEntryIntrInfoField, 0), (.vmEntryExceptionErrorCode, 0),
   (.vmEntryInstructionLen, 0), (.tprThreshold, 0), (.msrBitmap, msrBitmap),
   (.vmExitMsrLoadAddr, 0), (.vmExitMsrStoreAddr, 0), (.vmEntryMsrLoadAddr, 0), (.tscOffset, 0),
   (.eptPointer, eptp),
   (.cr0GuestHostMask, 0), (.cr4GuestHostMask, 0), (.cr0ReadShadow, 0), (.cr4ReadShadow, 0)]

/-- `setup_vm_control_fields`, with the MSR bitmap in the page the allocator
returns at `bitmapPtr`, zeroed. -/
def VmcsRegion.setupVmControlFields (c : Caps) (args : BootArgs) (eptp bitmapPtr : UInt64) (h : Host) :
    Option Host := do
  let msrBitmapPhys ← paddrChecked args.vmmPhysOffset bitmapPtr
  let h := { h with mem := h.mem.store msrBitmapPhys.val.toNat 0 4096 }
  VmcsRegion.writeAll c (vmControlFields eptp msrBitmapPhys.val h) h

/-- What `VmcsRegion::setup` reads besides the processor: UEFI's saved
registers, `entry_ret`, the handler's address, the pages the allocator
returns for the host stack and the MSR bitmap, and the base of the VMM's TSS
as `SegmentDescriptor::base` reads it. -/
structure SetupInputs where
  uefi : UefiRegs
  entryRet : UInt64
  vmexitHostRip : UInt64
  stackBottom : UInt64
  bitmapPtr : UInt64
  trBase : UInt64

/-- `VmcsRegion::setup`: the three areas in order. -/
def VmcsRegion.setup (c : Caps) (args : BootArgs) (i : SetupInputs) (eptp : UInt64) (h : Host) :
    Option Host := do
  let h ← VmcsRegion.setupGuestStateArea c i.uefi i.entryRet h
  let h ← VmcsRegion.setupHostStateArea cr4All c i.vmexitHostRip i.stackBottom i.trBase h
  VmcsRegion.setupVmControlFields c args eptp i.bitmapPtr h

/-! ## What the setup writes -/

/-- Two states of the processor with the same registers and MSRs: they
differ at most in VMX state, RFLAGS and memory, which is all a VMWRITE or the
zeroing of a page changes. -/
structure Host.SameRegs (h h' : Host) : Prop where
  cr0 : h.cr0 = h'.cr0
  cr3 : h.cr3 = h'.cr3
  cr4 : h.cr4 = h'.cr4
  dr7 : h.dr7 = h'.dr7
  cs : h.cs = h'.cs
  ds : h.ds = h'.ds
  es : h.es = h'.es
  fs : h.fs = h'.fs
  gs : h.gs = h'.gs
  ss : h.ss = h'.ss
  tr : h.tr = h'.tr
  gdtr : h.gdtr = h'.gdtr
  idtr : h.idtr = h'.idtr
  fsBase : h.fsBase = h'.fsBase
  gsBase : h.gsBase = h'.gsBase
  msr : h.msr = h'.msr

theorem Host.SameRegs.of_update (h : Host) (p : Proc) (fl : UInt64) (m : Mem) :
    Host.SameRegs { h with proc := p, rflags := fl, mem := m } h :=
  ⟨rfl, rfl, rfl, rfl, rfl, rfl, rfl, rfl, rfl, rfl, rfl, rfl, rfl, rfl, rfl, rfl⟩

theorem Host.SameRegs.symm {h h' : Host} (hs : h.SameRegs h') : h'.SameRegs h :=
  ⟨hs.cr0.symm, hs.cr3.symm, hs.cr4.symm, hs.dr7.symm, hs.cs.symm, hs.ds.symm, hs.es.symm, hs.fs.symm, hs.gs.symm,
    hs.ss.symm, hs.tr.symm, hs.gdtr.symm, hs.idtr.symm, hs.fsBase.symm, hs.gsBase.symm, hs.msr.symm⟩

theorem Host.SameRegs.trans {h h' h'' : Host} (hs : h.SameRegs h') (hs' : h'.SameRegs h'') : h.SameRegs h'' :=
  ⟨hs.cr0.trans hs'.cr0, hs.cr3.trans hs'.cr3, hs.cr4.trans hs'.cr4, hs.dr7.trans hs'.dr7, hs.cs.trans hs'.cs,
    hs.ds.trans hs'.ds, hs.es.trans hs'.es, hs.fs.trans hs'.fs, hs.gs.trans hs'.gs, hs.ss.trans hs'.ss,
    hs.tr.trans hs'.tr, hs.gdtr.trans hs'.gdtr, hs.idtr.trans hs'.idtr, hs.fsBase.trans hs'.fsBase,
    hs.gsBase.trans hs'.gsBase, hs.msr.trans hs'.msr⟩

theorem Host.setHostCrs_eq (h : Host) :
    h.setHostCrs cr4All =
      let cr4 := (h.cr4 &&& ~~~cr4All) ||| ((h.cr4 &&& cr4All) ||| FSGSBASE ||| PHYSICAL_ADDRESS_EXTENSION)
      { h with cr4 := cr4, cr0 := if (cr4 >>> 23) &&& 1 == 1 then h.cr0 ||| bit 16 else h.cr0 } := by
  unfold Host.setHostCrs Host.writeCr4
  dsimp only
  split <;> rfl

@[simp] theorem Host.setHostCrs_proc (h : Host) : (h.setHostCrs cr4All).proc = h.proc := by
  rw [Host.setHostCrs_eq]

@[simp] theorem Host.setHostCrs_rflags (h : Host) : (h.setHostCrs cr4All).rflags = h.rflags := by
  rw [Host.setHostCrs_eq]

@[simp] theorem Host.setHostCrs_mem (h : Host) : (h.setHostCrs cr4All).mem = h.mem := by
  rw [Host.setHostCrs_eq]

@[simp] theorem Host.setHostCrs_msr (h : Host) : (h.setHostCrs cr4All).msr = h.msr := by
  rw [Host.setHostCrs_eq]

/-- `setHostCrs` sets FSGSBASE and PAE and keeps the other bits of CR4. -/
theorem Host.setHostCrs_cr4 (h : Host) :
    (h.setHostCrs cr4All).cr4 = h.cr4 ||| (FSGSBASE ||| PHYSICAL_ADDRESS_EXTENSION) := by
  rw [Host.setHostCrs_eq]
  dsimp only
  rw [UInt64.or_assoc (h.cr4 &&& cr4All), or_and_not_or]

/-- `setHostCrs` sets WP when CET is set in the CR4 it leaves. -/
theorem Host.setHostCrs_cr0 (h : Host) :
    (h.setHostCrs cr4All).cr0 =
      if (h.setHostCrs cr4All).cr4 &&& bit 23 ≠ 0 then h.cr0 ||| bit 16 else h.cr0 := by
  have htest := shiftRight_and_one_beq_one (h.setHostCrs cr4All).cr4 23 (k := 23) rfl (by decide)
  rw [Host.setHostCrs_eq] at htest ⊢
  dsimp only at htest ⊢
  simp only [htest, bne_iff_ne]

theorem Host.SameRegs.setHostCrs {h h' : Host} (hs : h.SameRegs h') :
    (h.setHostCrs cr4All).SameRegs (h'.setHostCrs cr4All) := by
  rw [Host.setHostCrs_eq, Host.setHostCrs_eq]
  exact ⟨by rw [hs.cr0, hs.cr4], hs.cr3, by rw [hs.cr4], hs.dr7, hs.cs, hs.ds, hs.es, hs.fs, hs.gs, hs.ss, hs.tr,
    hs.gdtr, hs.idtr, hs.fsBase, hs.gsBase, hs.msr⟩

/-! Each area reads only registers and MSRs, and the guest's natural-width
fields RFLAGS besides. -/

theorem guestStateFields_congr (u : UefiRegs) {h h' : Host} (hs : h.SameRegs h') :
    guestStateFields u h = guestStateFields u h' := by
  simp only [guestStateFields, hs.msr]

theorem guestNaturalWidthFields_congr (u : UefiRegs) (entryRet : UInt64) {h h' : Host} (hs : h.SameRegs h')
    (hfl : h.rflags = h'.rflags) :
    guestNaturalWidthFields u entryRet h = guestNaturalWidthFields u entryRet h' := by
  simp only [guestNaturalWidthFields, hs.cr0, hs.cr3, hs.cr4, hs.dr7, hs.msr, hfl]

theorem hostSelectorFields_congr {h h' : Host} (hs : h.SameRegs h') : hostSelectorFields h = hostSelectorFields h' := by
  simp only [hostSelectorFields, hs.cs, hs.ds, hs.es, hs.fs, hs.gs, hs.ss, hs.tr, hs.msr]

theorem hostNaturalWidthFields_congr (vmexitHostRip stackTop trBase : UInt64) {h h' : Host} (hs : h.SameRegs h') :
    hostNaturalWidthFields vmexitHostRip stackTop trBase h = hostNaturalWidthFields vmexitHostRip stackTop trBase h' := by
  simp only [hostNaturalWidthFields, hs.cr0, hs.cr3, hs.cr4, hs.fsBase, hs.gsBase, hs.gdtr, hs.idtr, hs.msr]

theorem vmControlFields_congr (eptp msrBitmap : UInt64) {h h' : Host} (hmsr : h.msr = h'.msr) :
    vmControlFields eptp msrBitmap h = vmControlFields eptp msrBitmap h' := by
  simp only [vmControlFields, hmsr]

/-- None of the fields the setup writes is a VM-exit information field. -/
theorem kind_setup_fields :
    (∀ u h, ∀ f ∈ (guestStateFields u h).map Prod.fst, kind f.encoding ≠ 1) ∧
    (∀ u entryRet h, ∀ f ∈ (guestNaturalWidthFields u entryRet h).map Prod.fst, kind f.encoding ≠ 1) ∧
    (∀ h, ∀ f ∈ (hostSelectorFields h).map Prod.fst, kind f.encoding ≠ 1) ∧
    (∀ rip stackTop trBase h, ∀ f ∈ (hostNaturalWidthFields rip stackTop trBase h).map Prod.fst,
      kind f.encoding ≠ 1) ∧
    (∀ eptp msrBitmap h, ∀ f ∈ (vmControlFields eptp msrBitmap h).map Prod.fst, kind f.encoding ≠ 1) := by
  refine ⟨fun _ _ => ?_, fun _ _ _ => ?_, fun _ => ?_, fun _ _ _ _ => ?_, fun _ _ _ => ?_⟩ <;>
    simp only [guestStateFields, guestNaturalWidthFields, hostSelectorFields, hostNaturalWidthFields,
      vmControlFields, List.map_cons, List.map_nil] <;>
    decide

/-- Every write of `VmcsRegion::setup`, in order, from the processor `h` it
starts on, with the stack top at `stackTop` and the MSR bitmap at
`msrBitmap`: the natural-width guest fields see RFLAGS as the VMWRITEs before
them leave it, the host's natural-width fields the control registers
`setHostCrs` leaves. -/
def setupWrites (i : SetupInputs) (eptp stackTop msrBitmap : UInt64) (h : Host) : List (Field × UInt64) :=
  guestStateFields i.uefi h ++
    guestNaturalWidthFields i.uefi i.entryRet { h with rflags := Outcome.succeed.rflags h.rflags } ++
    hostSelectorFields h ++ hostNaturalWidthFields i.vmexitHostRip stackTop i.trBase (h.setHostCrs cr4All) ++
    vmControlFields eptp msrBitmap h

/-- The writes read the registers, the MSRs and RFLAGS only. -/
theorem setupWrites_congr (i : SetupInputs) (eptp stackTop msrBitmap : UInt64) {h h' : Host} (hs : h.SameRegs h')
    (hfl : h.rflags = h'.rflags) :
    setupWrites cr4All i eptp stackTop msrBitmap h = setupWrites cr4All i eptp stackTop msrBitmap h' := by
  have hsn : Host.SameRegs { h with rflags := Outcome.succeed.rflags h.rflags }
      { h' with rflags := Outcome.succeed.rflags h'.rflags } :=
    (Host.SameRegs.of_update h h.proc _ h.mem).trans (hs.trans (Host.SameRegs.of_update h' h'.proc _ h'.mem).symm)
  rw [setupWrites, setupWrites, guestStateFields_congr i.uefi hs,
    guestNaturalWidthFields_congr i.uefi i.entryRet hsn (by simp only [hfl]), hostSelectorFields_congr hs,
    hostNaturalWidthFields_congr _ _ _ (hs.setHostCrs cr4All), vmControlFields_congr _ _ hs.msr]

/-- No field is written twice. -/
theorem setupWrites_nodup (i : SetupInputs) (eptp stackTop msrBitmap : UInt64) (h : Host) :
    ((VmcsRegion.encoded (setupWrites cr4All i eptp stackTop msrBitmap h)).map Prod.fst).Nodup := by
  simp only [VmcsRegion.encoded_fields, setupWrites, guestStateFields, guestNaturalWidthFields, hostSelectorFields,
    hostNaturalWidthFields, vmControlFields, List.cons_append, List.nil_append, List.map_cons, List.map_nil]
  decide

/-- `d` holds every write of the setup, truncated to its field. -/
def HoldsSetup (i : SetupInputs) (eptp stackTop msrBitmap : UInt64) (h : Host) (d : UInt32 → UInt64) : Prop :=
  ∀ f x, (f, x) ∈ setupWrites cr4All i eptp stackTop msrBitmap h → d f.encoding = truncate f.encoding x

theorem holdsSetup_setAll (p : Proc) (v : Nat) (i : SetupInputs) (eptp stackTop msrBitmap : UInt64) (h : Host) :
    HoldsSetup cr4All i eptp stackTop msrBitmap h
      ((p.setAll v (VmcsRegion.encoded (setupWrites cr4All i eptp stackTop msrBitmap h))).data v) := by
  intro f x hmem
  rw [Proc.setAll_data, if_pos rfl,
    lastWrite_of_nodup (setupWrites_nodup cr4All i eptp stackTop msrBitmap h) (List.mem_map_of_mem hmem)]
  rfl

variable {c : Caps}

theorem VmcsRegion.setupGuestStateArea_spec {h : Host} {o v : Nat} (hon : h.proc.vmxon = some o)
    (hcur : h.proc.current = some v) (hsup : ∀ f : Field, c.supported f.encoding = true) (u : UefiRegs)
    (entryRet : UInt64) :
    ∃ h', VmcsRegion.setupGuestStateArea c u entryRet h = some h' ∧
      h'.proc = h.proc.setAll v (encoded (guestStateFields u h ++
        guestNaturalWidthFields u entryRet { h with rflags := Outcome.succeed.rflags h.rflags })) ∧
      h'.rflags = Outcome.succeed.rflags h.rflags ∧ h'.SameRegs h ∧ h'.mem = h.mem := by
  let h₁ : Host := { h with
    proc := h.proc.setAll v (encoded (guestStateFields u h))
    rflags := Outcome.succeed.rflags h.rflags }
  obtain ⟨hG, hN, -⟩ := kind_setup_fields
  have hread : guestNaturalWidthFields u entryRet h₁ =
      guestNaturalWidthFields u entryRet { h with rflags := Outcome.succeed.rflags h.rflags } :=
    guestNaturalWidthFields_congr u entryRet ((Host.SameRegs.of_update h _ _ _).trans
      (Host.SameRegs.of_update h _ _ _).symm) rfl
  refine ⟨{ h₁ with proc := h₁.proc.setAll v (encoded (guestNaturalWidthFields u entryRet h₁)) }, ?_, ?_, rfl,
    Host.SameRegs.of_update h _ _ _, rfl⟩
  · rw [VmcsRegion.setupGuestStateArea, VmcsRegion.writeAll_eq hon hcur (writable_of_kind hsup (hG u h)),
      if_neg (by simp [guestStateFields]), Option.bind_eq_bind, Option.bind_some,
      VmcsRegion.writeAll_eq (h := h₁) ((Proc.setAll_vmxon _ _ _).trans hon) ((Proc.setAll_current _ _ _).trans hcur)
        (writable_of_kind hsup (hN u entryRet h₁)), if_neg (by simp [guestNaturalWidthFields]),
      Outcome.rflags_rflags]
  · rw [encoded_append, Proc.setAll_append, ← hread]

theorem VmcsRegion.setupHostStateArea_spec {h : Host} {o v : Nat} (hon : h.proc.vmxon = some o)
    (hcur : h.proc.current = some v) (hsup : ∀ f : Field, c.supported f.encoding = true)
    (vmexitHostRip stackBottom trBase : UInt64) {stackEnd : UInt64} (hstack : u64Add stackBottom 4096 = some stackEnd) :
    ∃ h', VmcsRegion.setupHostStateArea cr4All c vmexitHostRip stackBottom trBase h = some h' ∧
      h'.proc = h.proc.setAll v (encoded (hostSelectorFields h ++
        hostNaturalWidthFields vmexitHostRip (stackEnd - 16) trBase (h.setHostCrs cr4All))) ∧
      h'.rflags = Outcome.succeed.rflags h.rflags ∧ h'.SameRegs (h.setHostCrs cr4All) ∧ h'.mem = h.mem := by
  let h₁ : Host := { h with
    proc := h.proc.setAll v (encoded (hostSelectorFields h))
    rflags := Outcome.succeed.rflags h.rflags }
  let h₂ := h₁.setHostCrs cr4All
  obtain ⟨-, -, hS, hH, -⟩ := kind_setup_fields
  have hs₂ : h₂.SameRegs (h.setHostCrs cr4All) := (Host.SameRegs.of_update h _ _ _).setHostCrs cr4All
  have hon₂ : h₂.proc.vmxon = some o := by
    rw [Host.setHostCrs_proc]
    exact (Proc.setAll_vmxon _ _ _).trans hon
  have hcur₂ : h₂.proc.current = some v := by
    rw [Host.setHostCrs_proc]
    exact (Proc.setAll_current _ _ _).trans hcur
  have hfl₂ : Outcome.succeed.rflags h₂.rflags = h₂.rflags := by
    simp only [h₂, h₁, Host.setHostCrs_rflags, Outcome.rflags_rflags]
  refine ⟨{ h₂ with
      proc := h₂.proc.setAll v (encoded (hostNaturalWidthFields vmexitHostRip (stackEnd - 16) trBase h₂)) },
    ?_, ?_, by simp only [h₂, h₁, Host.setHostCrs_rflags], Host.SameRegs.of_update h₂ _ _ _ |>.trans hs₂,
    by simp only [h₂, h₁, Host.setHostCrs_mem]⟩
  · rw [VmcsRegion.setupHostStateArea, VmcsRegion.writeAll_eq hon hcur (writable_of_kind hsup (hS h)),
      if_neg (by simp [hostSelectorFields]), Option.bind_eq_bind, Option.bind_some]
    dsimp only
    rw [hstack, Option.bind_eq_bind, Option.bind_some,
      VmcsRegion.writeAll_eq (h := h₂) hon₂ hcur₂ (writable_of_kind hsup (hH _ _ _ h₂)),
      if_neg (by simp [hostNaturalWidthFields]), hfl₂]
  · rw [encoded_append, Proc.setAll_append, ← hostNaturalWidthFields_congr _ _ _ hs₂]
    simp only [h₂, h₁, Host.setHostCrs_proc]

theorem VmcsRegion.setupVmControlFields_spec {h : Host} {o v : Nat} (hon : h.proc.vmxon = some o)
    (hcur : h.proc.current = some v) (hsup : ∀ f : Field, c.supported f.encoding = true) (args : BootArgs)
    (eptp bitmapPtr : UInt64) {bitmap : PhysAddr} (hbitmap : paddrChecked args.vmmPhysOffset bitmapPtr = some bitmap) :
    ∃ h', VmcsRegion.setupVmControlFields c args eptp bitmapPtr h = some h' ∧
      h'.proc = h.proc.setAll v (encoded (vmControlFields eptp bitmap.val h)) ∧
      h'.rflags = Outcome.succeed.rflags h.rflags ∧ h'.SameRegs h ∧
      h'.mem = h.mem.store bitmap.val.toNat 0 4096 := by
  let h₁ : Host := { h with mem := h.mem.store bitmap.val.toNat 0 4096 }
  obtain ⟨-, -, -, -, hC⟩ := kind_setup_fields
  refine ⟨{ h₁ with
      proc := h₁.proc.setAll v (encoded (vmControlFields eptp bitmap.val h₁))
      rflags := Outcome.succeed.rflags h.rflags }, ?_, ?_, rfl, Host.SameRegs.of_update h _ _ _, by simp only [h₁]⟩
  swap
  · rw [vmControlFields_congr eptp bitmap.val (show h₁.msr = h.msr from rfl)]
  rw [VmcsRegion.setupVmControlFields, hbitmap, Option.bind_eq_bind, Option.bind_some]
  dsimp only
  rw [VmcsRegion.writeAll_eq (h := h₁) hon hcur (writable_of_kind hsup (hC _ _ h₁)),
    if_neg (by simp [vmControlFields])]

/-- **What the setup leaves.** On the current VMCS of a processor with every
field, with the stack page's end and the bitmap's physical address in range,
`VmcsRegion::setup` returns with every write of `setupWrites` in the VMCS,
RFLAGS reporting VMsucceed, the registers as `setHostCrs` leaves them, and the
bitmap page zeroed. -/
theorem VmcsRegion.setup_spec (args : BootArgs) {h : Host} {o v : Nat} (hon : h.proc.vmxon = some o)
    (hcur : h.proc.current = some v) (hsup : ∀ f : Field, c.supported f.encoding = true) (i : SetupInputs)
    (eptp : UInt64) {stackEnd : UInt64} (hstack : u64Add i.stackBottom 4096 = some stackEnd) {bitmap : PhysAddr}
    (hbitmap : paddrChecked args.vmmPhysOffset i.bitmapPtr = some bitmap) :
    ∃ h', VmcsRegion.setup cr4All c args i eptp h = some h' ∧
      h'.proc = h.proc.setAll v (encoded (setupWrites cr4All i eptp (stackEnd - 16) bitmap.val h)) ∧
      h'.rflags = Outcome.succeed.rflags h.rflags ∧ h'.SameRegs (h.setHostCrs cr4All) ∧
      h'.mem = h.mem.store bitmap.val.toNat 0 4096 := by
  obtain ⟨h₁, hrun₁, hp₁, hfl₁, hs₁, hm₁⟩ := VmcsRegion.setupGuestStateArea_spec hon hcur hsup i.uefi i.entryRet
  obtain ⟨h₂, hrun₂, hp₂, hfl₂, hs₂, hm₂⟩ := VmcsRegion.setupHostStateArea_spec cr4All
    (by rw [hp₁, Proc.setAll_vmxon]; exact hon) (by rw [hp₁, Proc.setAll_current]; exact hcur) hsup
    i.vmexitHostRip i.stackBottom i.trBase hstack
  obtain ⟨h₃, hrun₃, hp₃, hfl₃, hs₃, hm₃⟩ := VmcsRegion.setupVmControlFields_spec
    (by rw [hp₂, Proc.setAll_vmxon, hp₁, Proc.setAll_vmxon]; exact hon)
    (by rw [hp₂, Proc.setAll_current, hp₁, Proc.setAll_current]; exact hcur) hsup args eptp i.bitmapPtr hbitmap
  have hsh : (h₁.setHostCrs cr4All).SameRegs (h.setHostCrs cr4All) := hs₁.setHostCrs cr4All
  have hs₂' : h₂.SameRegs (h.setHostCrs cr4All) := hs₂.trans hsh
  refine ⟨h₃, ?_, ?_, by rw [hfl₃, hfl₂, hfl₁, Outcome.rflags_rflags, Outcome.rflags_rflags],
    hs₃.trans hs₂', by rw [hm₃, hm₂, hm₁]⟩
  · simp only [VmcsRegion.setup, hrun₁, hrun₂, hrun₃, Option.bind_eq_bind, Option.bind_some]
  · rw [hp₃, hp₂, hp₁, ← Proc.setAll_append, ← Proc.setAll_append, ← encoded_append, ← encoded_append,
      hostSelectorFields_congr hs₁, hostNaturalWidthFields_congr _ _ _ hsh,
      vmControlFields_congr _ _ (hs₂'.msr.trans (Host.setHostCrs_msr cr4All h))]
    simp only [setupWrites, List.append_assoc]

end Crs

end Htvmm.Vmx
