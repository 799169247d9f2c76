import Htvmm.Vmx.Setup

/-!
# What VM entry finds in the VMCS

`VmcsRegion::setup` writes each VM-execution, exit and entry control from its
capability MSR (`adjustControls`) and forces four bits on: the MSR bitmaps and
the secondary controls in the processor-based controls, the host
address-space size in the exit controls and IA-32e mode in the entry
controls. The host's CR0 and CR4 are those `setHostCrs` leaves, the guest's
those the processor had after `vmxon`, and the guest's RFLAGS is what the
VMWRITEs before it reported. Against the checks of VM entry (`X86.Vmx`), for
any VMCS that holds the writes:

* `controlsOk_iff_of_holdsSetup`: the controls pass exactly when the
  capability MSRs allow the four forced bits;
* `hostOk_of_holdsSetup`: the host state passes when CR4's fixed-1 MSR allows
  FSGSBASE and PAE and CR0's allows WP, and the processor's selectors are ones
  VM entry accepts for a host;
* `guestOk_of_holdsSetup`: the guest state passes when the processor had
  paging, PAE and WP under CET, and RFLAGS as the architecture keeps it;
* `exceptionExits_of_holdsSetup`: every exception of the guest exits, a page
  fault with any error code included.
-/

namespace Htvmm.Vmx

open X86 X86.Vmx Word Paging Boot

/-- Capability MSRs that allow some setting of each control field the setup
writes, as a processor's do. -/
structure ControlCaps (msr : UInt32 → UInt64) : Prop where
  pin : Consistent (msr 0x481)
  proc : Consistent (msr 0x482)
  proc2 : Consistent (msr 0x48b)
  exit : Consistent (msr 0x483)
  entry : Consistent (msr 0x484)

section Reads

variable {cr4All : UInt64} {i : SetupInputs} {eptp stackTop msrBitmap : UInt64} {h : Host} {d : UInt32 → UInt64}

theorem HoldsSetup.wide (hd : HoldsSetup cr4All i eptp stackTop msrBitmap h d) {f : Field} {x : UInt64}
    (hmem : (f, x) ∈ setupWrites cr4All i eptp stackTop msrBitmap h) (h0 : width f.encoding ≠ 0)
    (h2 : width f.encoding ≠ 2) : d f.encoding = x :=
  (hd f x hmem).trans (truncate_of_wide h0 h2 x)

theorem HoldsSetup.narrow (hd : HoldsSetup cr4All i eptp stackTop msrBitmap h d) {f : Field} {x : UInt64}
    (hmem : (f, x) ∈ setupWrites cr4All i eptp stackTop msrBitmap h) (hw : width f.encoding = 2)
    (hx : Within x 0xffff_ffff) : d f.encoding = x :=
  (hd f x hmem).trans (truncate_of_within hw hx)

theorem HoldsSetup.short (hd : HoldsSetup cr4All i eptp stackTop msrBitmap h d) {f : Field} {s : UInt16}
    (hmem : (f, s.toUInt64) ∈ setupWrites cr4All i eptp stackTop msrBitmap h) (hw : width f.encoding = 0) :
    d f.encoding = s.toUInt64 :=
  (hd f _ hmem).trans (truncate_of_short hw s)

/-- The host selector fields, as the setup reads them from the processor. -/
theorem HoldsSetup.selectors (hd : HoldsSetup cr4All i eptp stackTop msrBitmap h d) :
    d 0x0c00 = h.es.toUInt64 ∧ d 0x0c02 = h.cs.toUInt64 ∧ d 0x0c04 = h.ss.toUInt64 ∧
    d 0x0c06 = h.ds.toUInt64 ∧ d 0x0c08 = h.fs.toUInt64 ∧ d 0x0c0a = h.gs.toUInt64 ∧
    d 0x0c0c = h.tr.toUInt64 := by
  refine ⟨hd.short (f := .hostEsSelector) ?_ (by decide), hd.short (f := .hostCsSelector) ?_ (by decide),
    hd.short (f := .hostSsSelector) ?_ (by decide), hd.short (f := .hostDsSelector) ?_ (by decide),
    hd.short (f := .hostFsSelector) ?_ (by decide), hd.short (f := .hostGsSelector) ?_ (by decide),
    hd.short (f := .hostTrSelector) ?_ (by decide)⟩ <;>
    simp [setupWrites, hostSelectorFields]

/-- The control fields, as the setup computes them. -/
theorem HoldsSetup.controls (hd : HoldsSetup cr4All i eptp stackTop msrBitmap h d) :
    d 0x4000 = adjustControls (h.msr 0x481) ∧
    d 0x4002 = adjustControls (h.msr 0x482) ||| VMCS_PROC_BASED_VMEXEC_CTLS_USE_MSR_BITMAPS |||
      VMCS_PROC_BASED_VMEXEC_CTLS_ACTIVE_SECOND_CTLS ∧
    d 0x401e = adjustControls (h.msr 0x48b) ∧
    d 0x400c = adjustControls (h.msr 0x483) ||| VMCS_VMEXIT_CTLS_HOST_ADDR_SPACE_SIZE ∧
    d 0x4012 = adjustControls (h.msr 0x484) ||| VMCS_VMENTRY_CTLS_IA32E_MODE_GUEST ∧
    d 0x400a = 0 ∧ d 0x2004 = msrBitmap ∧
    d 0x4004 = 0xffff_ffff ∧ d 0x4006 = 0 ∧ d 0x4008 = 0 := by
  have hw : ∀ x, Within (adjustControls x) 0xffff_ffff := adjustControls_within
  refine ⟨hd.narrow (f := .pinBasedVmExecControls) ?_ (by decide) (hw _),
    hd.narrow (f := .procBasedVmExecControls) ?_ (by decide) (((hw _).or (by decide)).or (by decide)),
    hd.narrow (f := .procBasedVmExecControls2) ?_ (by decide) (hw _),
    hd.narrow (f := .vmExitControls) ?_ (by decide) ((hw _).or (by decide)),
    hd.narrow (f := .vmEntryControls) ?_ (by decide) ((hw _).or (by decide)),
    hd.narrow (f := .cr3TargetCount) ?_ (by decide) (by decide),
    hd.wide (f := .msrBitmap) ?_ (by decide) (by decide),
    hd.narrow (f := .exceptionBitmap) ?_ (by decide) (by decide),
    hd.narrow (f := .pageFaultErrorCodeMask) ?_ (by decide) (by decide),
    hd.narrow (f := .pageFaultErrorCodeMatch) ?_ (by decide) (by decide)⟩ <;>
    simp [setupWrites, vmControlFields]

/-- The host-state fields the checks and the exit read. -/
theorem HoldsSetup.host (hd : HoldsSetup cr4All i eptp stackTop msrBitmap h d) :
    d 0x6c00 = (h.setHostCrs cr4All).cr0 ∧ d 0x6c04 = (h.setHostCrs cr4All).cr4 ∧
    d 0x6c14 = stackTop ∧ d 0x6c16 = i.vmexitHostRip := by
  refine ⟨hd.wide (f := .hostCr0) ?_ (by decide) (by decide), hd.wide (f := .hostCr4) ?_ (by decide) (by decide),
    hd.wide (f := .hostRsp) ?_ (by decide) (by decide), hd.wide (f := .hostRip) ?_ (by decide) (by decide)⟩ <;>
    simp [setupWrites, hostNaturalWidthFields]

/-- The guest-state fields the checks and the entry read. -/
theorem HoldsSetup.guest (hd : HoldsSetup cr4All i eptp stackTop msrBitmap h d) :
    d 0x6800 = h.cr0 ∧ d 0x6802 = cr3Value h.cr3 ∧ d 0x6804 = h.cr4 ∧
    d 0x6820 = Outcome.succeed.rflags h.rflags &&& ~~~(bit 17 ||| bit 9) ∧
    d 0x681c = i.uefi.rsp ∧ d 0x681e = i.entryRet := by
  refine ⟨hd.wide (f := .guestCr0) ?_ (by decide) (by decide), hd.wide (f := .guestCr3) ?_ (by decide) (by decide),
    hd.wide (f := .guestCr4) ?_ (by decide) (by decide), hd.wide (f := .guestRflags) ?_ (by decide) (by decide),
    hd.wide (f := .guestRsp) ?_ (by decide) (by decide), hd.wide (f := .guestRip) ?_ (by decide) (by decide)⟩ <;>
    simp [setupWrites, guestNaturalWidthFields]

end Reads

/-- The capability MSRs allow the four controls `setup` forces on: the MSR
bitmaps and the secondary controls, a 64-bit host, an IA-32e mode guest. -/
def ForcedAllowed (msr : UInt32 → UInt64) : Prop :=
  Within (VMCS_PROC_BASED_VMEXEC_CTLS_USE_MSR_BITMAPS ||| VMCS_PROC_BASED_VMEXEC_CTLS_ACTIVE_SECOND_CTLS)
      (msr 0x482 >>> 32) ∧
    Within VMCS_VMEXIT_CTLS_HOST_ADDR_SPACE_SIZE (msr 0x483 >>> 32) ∧
    Within VMCS_VMENTRY_CTLS_IA32E_MODE_GUEST (msr 0x484 >>> 32)

instance (msr : UInt32 → UInt64) : Decidable (ForcedAllowed msr) := inferInstanceAs (Decidable (_ ∧ _ ∧ _))

section Checks

variable (c : Caps) {cr4All : UInt64} {i : SetupInputs} {eptp stackTop msrBitmap : UInt64} {h : Host}
  {d : UInt32 → UInt64}

/-- **The controls pass exactly when the forced bits are allowed.** On a VMCS
that holds the setup's writes, with consistent capability MSRs and an MSR
bitmap the processor can address, VM entry's checks on the controls pass
exactly when the processor allows the MSR bitmaps and the secondary controls,
a 64-bit host, and an IA-32e mode guest. -/
theorem controlsOk_iff_of_holdsSetup (hd : HoldsSetup cr4All i eptp stackTop msrBitmap h d)
    (hcaps : ControlCaps h.msr) (hbitmap : c.validAddr msrBitmap.toNat) :
    controlsOk c h.msr d ↔ ForcedAllowed h.msr := by
  obtain ⟨hpin, hproc, hproc2, hexit, hentry, hcr3, hbm, -⟩ := hd.controls
  rw [controlsOk, hpin, hproc, hproc2, hexit, hentry, hcr3, hbm, adjustControls_of_consistent hcaps.pin,
    adjustControls_of_consistent hcaps.proc, adjustControls_of_consistent hcaps.proc2,
    adjustControls_of_consistent hcaps.exit, adjustControls_of_consistent hcaps.entry, UInt64.or_assoc,
    hcaps.proc.allows_or_iff, hcaps.exit.allows_or_iff, hcaps.entry.allows_or_iff]
  simp only [ForcedAllowed, hcaps.pin.allows, hcaps.proc2.allows, hbitmap, implies_true, true_and, and_true,
    show (0 : UInt64).toNat ≤ 4 by decide]

/-- Selectors VM entry accepts for the host (SDM 27.2.3): RPL and TI clear in
all seven, and CS, SS and TR not null. -/
structure HostSelectors (h : Host) : Prop where
  rplTi : ∀ s ∈ h.selectors, s.toUInt64 &&& 7 = 0
  cs : h.cs.toUInt64 ≠ 0
  ss : h.ss.toUInt64 ≠ 0
  tr : h.tr.toUInt64 ≠ 0

theorem HostSelectors.of_selectors {h h' : Host} (he : h'.selectors = h.selectors) (hs : HostSelectors h) :
    HostSelectors h' := by
  have hrpl : ∀ s ∈ h'.selectors, s.toUInt64 &&& 7 = 0 := by
    rw [he]
    exact hs.rplTi
  simp only [Host.selectors, List.cons.injEq] at he
  obtain ⟨-, hcs, hss, -, -, -, htr, -⟩ := he
  exact ⟨hrpl, hcs ▸ hs.cs, hss ▸ hs.ss, htr ▸ hs.tr⟩

/-- **The host state passes.** With CR0 and CR4 within their fixed bits, as
`vmxon` leaves them, FSGSBASE, PAE and WP allowed, and selectors VM entry
accepts, the host state passes VM entry's checks. -/
theorem hostOk_of_holdsSetup (hd : HoldsSetup cr4All i eptp stackTop msrBitmap h d)
    (hcrs : crsOk h.msr h.cr0 h.cr4) (hfs : Within (FSGSBASE ||| PHYSICAL_ADDRESS_EXTENSION) (h.msr 0x489))
    (hwp : Within (bit 16) (h.msr 0x487)) (hsel : HostSelectors h) :
    hostOk h.msr d := by
  obtain ⟨hcr0, hcr4, -, -⟩ := hd.host
  obtain ⟨hes, hcs, hss, hds, hfs', hgs, htr⟩ := hd.selectors
  have hcr4' := Host.setHostCrs_cr4 cr4All h
  have hcr0' := Host.setHostCrs_cr0 cr4All h
  have hrpl := hsel.rplTi
  simp only [Host.selectors, List.forall_mem_cons, List.not_mem_nil, IsEmpty.forall_iff, implies_true,
    and_true] at hrpl
  refine ⟨?_, ?_, fun hcet => ?_, fun _ => ?_, ?_, hcs ▸ hsel.cs, htr ▸ hsel.tr, fun _ => hss ▸ hsel.ss⟩
  · rw [hcr0, hcr0']
    split
    · exact hcrs.1.or_within hwp
    · exact hcrs.1
  · rw [hcr4, hcr4']
    exact hcrs.2.or_within hfs
  · rw [hcr0, hcr0', if_pos (hcr4 ▸ hcet)]
    exact (within_or_right _ _).and_ne_zero (ne_zero_of_pow (bit_toNat (by decide)))
  · rw [hcr4, hcr4']
    exact ((within_or_right _ _).mono (within_or_right _ _)).and_ne_zero (ne_zero_of_pow (bit_toNat (by decide)))
  · simp only [hostSelectorEncodings, List.forall_mem_cons, List.not_mem_nil, IsEmpty.forall_iff, implies_true,
      and_true, hes, hcs, hss, hds, hfs', hgs, htr]
    exact hrpl

/-- **The guest state passes.** With CR0 and CR4 within their fixed bits, as
`vmxon` leaves them, paging and PAE on, WP set under CET, and RFLAGS with its
reserved bits clear and bit 1 set, as the processor keeps it, the guest's
control registers and RFLAGS pass VM entry's checks. -/
theorem guestOk_of_holdsSetup (hd : HoldsSetup cr4All i eptp stackTop msrBitmap h d)
    (hcrs : crsOk h.msr h.cr0 h.cr4) (hcet : h.cr4 &&& bit 23 ≠ 0 → h.cr0 &&& bit 16 ≠ 0)
    (hpg : h.cr0 &&& bit 31 ≠ 0) (hpae : h.cr4 &&& bit 5 ≠ 0) (hres : Within h.rflags 0x3f_7fd7)
    (hone : Within 2 h.rflags) :
    guestOk h.msr d := by
  obtain ⟨hcr0, -, hcr4, hfl, -, -⟩ := hd.guest
  have hfl' := Outcome.succeed.rflags_within hres hone
  refine ⟨hcr0 ▸ hcrs.1, hcr4 ▸ hcrs.2, hcr0 ▸ hcr4 ▸ hcet, fun _ => hcr0 ▸ hcr4 ▸ ⟨hpg, hpae⟩, ?_, ?_, fun _ => ?_⟩
  · rw [hfl]
    exact (within_and_left _ _).mono hfl'.1
  · rw [hfl]
    exact (hfl'.2.and (by decide)).and_ne_zero (by decide)
  · rw [hfl, UInt64.and_assoc, show (~~~(bit 17 ||| bit 9) &&& bit 17 : UInt64) = 0 by decide, UInt64.and_zero]

/-- **Every exception exits.** On a VMCS that holds the setup's writes, every
exception the guest raises causes a VM exit, a page fault with any error code
included: the exception bitmap has all 32 bits and the page-fault mask and
match are zero. -/
theorem exceptionExits_of_holdsSetup (hd : HoldsSetup cr4All i eptp stackTop msrBitmap h d) :
    ∀ vector < 32, ∀ ec, exceptionExits d vector ec = true := by
  obtain ⟨-, -, -, -, -, -, -, hbitmap, hmask, hmatch⟩ := hd.controls
  intro vector hv ec
  have hbit : (0xffff_ffff &&& bit vector != 0) = true := by
    revert vector
    decide
  simp only [exceptionExits, hbitmap, hmask, hmatch, UInt64.and_zero, beq_self_eq_true, if_true, hbit, ite_self]

/-- Where the guest starts and where its exits go: UEFI's return point, stack
and page tables, and the VMM's exit handler. -/
structure GuestStart (i : SetupInputs) (uefiCr3 : UInt64) (d : UInt32 → UInt64) : Prop where
  rip : d 0x681e = i.entryRet
  rsp : d 0x681c = i.uefi.rsp
  cr3 : d 0x6802 = cr3Value uefiCr3
  hostRip : d 0x6c16 = i.vmexitHostRip

theorem HoldsSetup.guestStart (hd : HoldsSetup cr4All i eptp stackTop msrBitmap h d) : GuestStart i h.cr3 d := by
  obtain ⟨-, hcr3, -, -, hrsp, hrip⟩ := hd.guest
  exact ⟨hrip, hrsp, hcr3, hd.host.2.2.2⟩

end Checks

/-- **After the setup, every exception exits.** On the current VMCS of a
processor with every field, with a stack page that has an end and an MSR
bitmap whose address converts, `VmcsRegion::setup` returns with a VMCS under
which every exception of the guest causes a VM exit, a page fault with any
error code included. -/
theorem setup_traps_exceptions (c : Caps) (args : BootArgs) {cr4All : UInt64} {h : Host} {o v : Nat}
    (hon : h.proc.vmxon = some o) (hcur : h.proc.current = some v) (hsup : ∀ f : Field, c.supported f.encoding = true)
    (i : SetupInputs) (eptp : UInt64) (hstack : (u64Add i.stackBottom 4096).isSome)
    (hbitmap : (paddrChecked args.vmmPhysOffset i.bitmapPtr).isSome) :
    ∃ h', VmcsRegion.setup cr4All c args i eptp h = some h' ∧
      ∀ vector < 32, ∀ ec, exceptionExits (h'.proc.data v) vector ec = true := by
  obtain ⟨stackEnd, hstack⟩ := Option.isSome_iff_exists.mp hstack
  obtain ⟨bitmap, hbitmap⟩ := Option.isSome_iff_exists.mp hbitmap
  obtain ⟨h', hrun, hp', -⟩ := VmcsRegion.setup_spec cr4All args hon hcur hsup i eptp hstack hbitmap
  refine ⟨h', hrun, ?_⟩
  rw [hp']
  exact exceptionExits_of_holdsSetup (holdsSetup_setAll cr4All h.proc v i eptp _ _ h)

/-- What `entry` saved of UEFI, and the pages and addresses of the VMM on the
boot core. -/
def bootInputs : SetupInputs where
  uefi := ⟨0x38, 0x30, 0x30, 0x30, 0x30, 0x30, 0, 0, ⟨0x47, 0x3f9d_e000⟩, ⟨0xfff, 0x3f4e_3018⟩, 0x3fe8_e6c8⟩
  entryRet := 0x3e51_2a4b
  vmexitHostRip := 0x1_0000_1200
  stackBottom := 0x1_0010_3000
  bitmapPtr := 0x1_0010_2000
  trBase := 0x1_0000_8000

theorem setup_traps_exceptions_at_boot_core :
    ∃ h', VmcsRegion.setup 0x01ff_7fff bootCaps bootArgs bootInputs 0 { bootHost with
        proc := ⟨some 0x1010_0000, some 0x1010_1000, fun _ => false, fun _ _ => 0⟩ } = some h' ∧
      ∀ vector < 32, ∀ ec, exceptionExits (h'.proc.data 0x1010_1000) vector ec = true :=
  setup_traps_exceptions bootCaps bootArgs rfl rfl (fun _ => rfl) bootInputs 0 (by decide) (by decide)

end Htvmm.Vmx
