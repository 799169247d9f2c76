import Htvmm.Asm.Vmx
import Htvmm.Boot.Args
import Htvmm.Vmx.Exit

/-!
# The VMX instructions as the VMM issues them

`vmx.rs` wraps each VMX instruction in an `asm_*` function that reads RFLAGS
right after it (`pushfq; pop rax`) and turns CF and ZF into a `VmxError`
(`check_vmx_error`); `vmclear`, `vmptrld`, `vmread` and `vmwrite` panic on an
error, `vmxon` and `vmlaunch` return it. A `VmcsRegion` (vmcs.rs) or
`VmxonRegion` is a page of the VMM's heap, zeroed, with the revision
identifier of IA32_VMX_BASIC in its first four bytes; the instructions take
its physical address, the pointer plus `vmm_phys_offset` (`Boot.VmcsRegion.paddr`).

`checkVmxError_rflags`: whatever RFLAGS held before, `check_vmx_error` reads
the outcome the processor reported. `VmcsRegion.writeAll_eq`: a run of
`VmcsRegion::write` on the current VMCS stores every value, truncated to its
field, unless a field is missing or read-only, where it panics.
-/

namespace Htvmm.Vmx

open X86 X86.Vmx Word Paging Boot

/-- The variants of `VmcsField` (vmcs.rs) that the VMM reads or writes, with
their `repr(u32)` values, the SDM's encodings. -/
inductive Field where
  | guestEsSelector | guestCsSelector | guestSsSelector | guestDsSelector
  | guestFsSelector | guestGsSelector | guestLdtrSelector | guestTrSelector
  | hostEsSelector | hostCsSelector | hostSsSelector | hostDsSelector
  | hostFsSelector | hostGsSelector | hostTrSelector
  | msrBitmap | vmExitMsrStoreAddr | vmExitMsrLoadAddr | vmEntryMsrLoadAddr
  | tscOffset | eptPointer
  | vmcsLinkPointer | guestIa32Debugctl | guestIa32Efer
  | hostIa32Pat | hostIa32Efer
  | pinBasedVmExecControls | procBasedVmExecControls | exceptionBitmap
  | pageFaultErrorCodeMask | pageFaultErrorCodeMatch | cr3TargetCount
  | vmExitControls | vmExitMsrStoreCount | vmExitMsrLoadCount
  | vmEntryControls | vmEntryMsrLoadCount | vmEntryIntrInfoField
  | vmEntryExceptionErrorCode | vmEntryInstructionLen | tprThreshold
  | procBasedVmExecControls2
  | vmInstructionError | vmExitReason
  | guestEsLimit | guestCsLimit | guestSsLimit | guestDsLimit | guestFsLimit
  | guestGsLimit | guestLdtrLimit | guestTrLimit | guestGdtrLimit | guestIdtrLimit
  | guestEsAccessRights | guestCsAccessRights | guestSsAccessRights
  | guestDsAccessRights | guestFsAccessRights | guestGsAccessRights
  | guestLdtrAccessRights | guestTrAccessRights
  | guestInterruptibilityState | guestActivityState | guestIa32SysenterCs
  | hostIa32SysenterCs
  | cr0GuestHostMask | cr4GuestHostMask | cr0ReadShadow | cr4ReadShadow
  | exitQualification
  | guestCr0 | guestCr3 | guestCr4
  | guestEsBase | guestCsBase | guestSsBase | guestDsBase | guestFsBase
  | guestGsBase | guestLdtrBase | guestTrBase | guestGdtrBase | guestIdtrBase
  | guestDr7 | guestRsp | guestRip | guestRflags | guestPendingDbgExceptions
  | guestSysenterEsp | guestSysenterEip
  | hostCr0 | hostCr3 | hostCr4 | hostFsBase | hostGsBase | hostTrBase
  | hostGdtrBase | hostIdtrBase | hostIa32SysenterEsp | hostIa32SysenterEip
  | hostRsp | hostRip
  deriving DecidableEq, Repr

/-- `field as u32`. -/
def Field.encoding : Field → UInt32
  | .guestEsSelector => 0x00000800
  | .guestCsSelector => 0x00000802
  | .guestSsSelector => 0x00000804
  | .guestDsSelector => 0x00000806
  | .guestFsSelector => 0x00000808
  | .guestGsSelector => 0x0000080a
  | .guestLdtrSelector => 0x0000080c
  | .guestTrSelector => 0x0000080e
  | .hostEsSelector => 0x00000c00
  | .hostCsSelector => 0x00000c02
  | .hostSsSelector => 0x00000c04
  | .hostDsSelector => 0x00000c06
  | .hostFsSelector => 0x00000c08
  | .hostGsSelector => 0x00000c0a
  | .hostTrSelector => 0x00000c0c
  | .msrBitmap => 0x00002004
  | .vmExitMsrStoreAddr => 0x00002006
  | .vmExitMsrLoadAddr => 0x00002008
  | .vmEntryMsrLoadAddr => 0x0000200a
  | .tscOffset => 0x00002010
  | .eptPointer => 0x0000201A
  | .vmcsLinkPointer => 0x00002800
  | .guestIa32Debugctl => 0x00002802
  | .guestIa32Efer => 0x00002806
  | .hostIa32Pat => 0x00002c00
  | .hostIa32Efer => 0x00002c02
  | .pinBasedVmExecControls => 0x00004000
  | .procBasedVmExecControls => 0x00004002
  | .exceptionBitmap => 0x00004004
  | .pageFaultErrorCodeMask => 0x00004006
  | .pageFaultErrorCodeMatch => 0x00004008
  | .cr3TargetCount => 0x0000400a
  | .vmExitControls => 0x0000400c
  | .vmExitMsrStoreCount => 0x0000400e
  | .vmExitMsrLoadCount => 0x00004010
  | .vmEntryControls => 0x00004012
  | .vmEntryMsrLoadCount => 0x00004014
  | .vmEntryIntrInfoField => 0x00004016
  | .vmEntryExceptionErrorCode => 0x00004018
  | .vmEntryInstructionLen => 0x0000401a
  | .tprThreshold => 0x0000401c
  | .procBasedVmExecControls2 => 0x0000401e
  | .vmInstructionError => 0x00004400
  | .vmExitReason => 0x00004402
  | .guestEsLimit => 0x00004800
  | .guestCsLimit => 0x00004802
  | .guestSsLimit => 0x00004804
  | .guestDsLimit => 0x00004806
  | .guestFsLimit => 0x00004808
  | .guestGsLimit => 0x0000480a
  | .guestLdtrLimit => 0x0000480c
  | .guestTrLimit => 0x0000480e
  | .guestGdtrLimit => 0x00004810
  | .guestIdtrLimit => 0x00004812
  | .guestEsAccessRights => 0x00004814
  | .guestCsAccessRights => 0x00004816
  | .guestSsAccessRights => 0x00004818
  | .guestDsAccessRights => 0x0000481a
  | .guestFsAccessRights => 0x0000481c
  | .guestGsAccessRights => 0x0000481e
  | .guestLdtrAccessRights => 0x00004820
  | .guestTrAccessRights => 0x00004822
  | .guestInterruptibilityState => 0x00004824
  | .guestActivityState => 0x00004826
  | .guestIa32SysenterCs => 0x0000482A
  | .hostIa32SysenterCs => 0x00004c00
  | .cr0GuestHostMask => 0x00006000
  | .cr4GuestHostMask => 0x00006002
  | .cr0ReadShadow => 0x00006004
  | .cr4ReadShadow => 0x00006006
  | .exitQualification => 0x00006400
  | .guestCr0 => 0x00006800
  | .guestCr3 => 0x00006802
  | .guestCr4 => 0x00006804
  | .guestEsBase => 0x00006806
  | .guestCsBase => 0x00006808
  | .guestSsBase => 0x0000680a
  | .guestDsBase => 0x0000680c
  | .guestFsBase => 0x0000680e
  | .guestGsBase => 0x00006810
  | .guestLdtrBase => 0x00006812
  | .guestTrBase => 0x00006814
  | .guestGdtrBase => 0x00006816
  | .guestIdtrBase => 0x00006818
  | .guestDr7 => 0x0000681a
  | .guestRsp => 0x0000681c
  | .guestRip => 0x0000681e
  | .guestRflags => 0x00006820
  | .guestPendingDbgExceptions => 0x00006822
  | .guestSysenterEsp => 0x00006824
  | .guestSysenterEip => 0x00006826
  | .hostCr0 => 0x00006c00
  | .hostCr3 => 0x00006c02
  | .hostCr4 => 0x00006c04
  | .hostFsBase => 0x00006c06
  | .hostGsBase => 0x00006c08
  | .hostTrBase => 0x00006c0a
  | .hostGdtrBase => 0x00006c0c
  | .hostIdtrBase => 0x00006c0e
  | .hostIa32SysenterEsp => 0x00006c10
  | .hostIa32SysenterEip => 0x00006c12
  | .hostRsp => 0x00006c14
  | .hostRip => 0x00006c16

/-- The exit path's fields among them. -/
def VmcsField.field : VmcsField → Field
  | .vmExitReason => .vmExitReason
  | .exitQualification => .exitQualification
  | .guestCr0 => .guestCr0
  | .guestCr3 => .guestCr3
  | .guestCr4 => .guestCr4
  | .guestRsp => .guestRsp
  | .guestRip => .guestRip

/-- `VmxError`. -/
inductive VmxError where
  | invalidPointer
  | vmInstructionError
  deriving DecidableEq, Repr

/-- `check_vmx_error`. -/
def checkVmxError (flags : UInt64) : Except VmxError Unit :=
  let cf := (flags &&& 0b1) == 1
  let zf := ((flags >>> 6) &&& 0b1) == 1
  if cf then .error .invalidPointer
  else if zf then .error .vmInstructionError
  else .ok ()

/-- **`check_vmx_error` reads the outcome back**: CF for VMfailInvalid, ZF for
VMfailValid, whatever the other bits of RFLAGS were. -/
theorem checkVmxError_rflags (o : Outcome) (fl : UInt64) :
    checkVmxError (o.rflags fl) =
      match o with
      | .succeed => .ok ()
      | .failInvalid => .error .invalidPointer
      | .failValid _ => .error .vmInstructionError := by
  have hcf := o.rflags_cf fl
  have hzf := o.rflags_zf fl
  cases o <;> simp_all [checkVmxError]

/-- `DescriptorTablePointer`, as `sgdt` and `sidt` store it. -/
structure DescriptorTablePointer where
  limit : UInt16
  base : UInt64

/-- The processor as the VMM's code sees it: its VMX state, RFLAGS, the
control and debug registers, the segment selectors and descriptor-table
registers, the MSR file and physical memory. -/
structure Host where
  proc : Proc
  rflags : UInt64
  cr0 : UInt64
  cr3 : UInt64
  cr4 : UInt64
  dr7 : UInt64
  cs : UInt16
  ds : UInt16
  es : UInt16
  fs : UInt16
  gs : UInt16
  ss : UInt16
  tr : UInt16
  gdtr : DescriptorTablePointer
  idtr : DescriptorTablePointer
  fsBase : UInt64
  gsBase : UInt64
  msr : UInt32 → UInt64
  mem : Mem

/-- The segment selectors, in the order of the host selector fields: ES, CS,
SS, DS, FS, GS and TR. -/
def Host.selectors (h : Host) : List UInt16 := [h.es, h.cs, h.ss, h.ds, h.fs, h.gs, h.tr]

section Asm

variable (c : Caps)

/-- The state after an instruction that ends with `o`, and what `pushfq` and
`check_vmx_error` then make of RFLAGS. -/
def Host.report (h : Host) (p : Proc) (o : Outcome) : Host × Except VmxError Unit :=
  ({ h with proc := p, rflags := o.rflags h.rflags }, checkVmxError (o.rflags h.rflags))

/-- `asm_vmxon`. -/
def asmVmxon (physAddr : PhysAddr) (h : Host) : Option (Host × Except VmxError Unit) :=
  (X86.Vmx.vmxon c h.msr h.cr0 h.cr4 h.mem physAddr.val.toNat h.proc).map fun r => h.report r.1 r.2

/-- `asm_vmclear`. -/
def asmVmclear (physAddr : PhysAddr) (h : Host) : Option (Host × Except VmxError Unit) :=
  (X86.Vmx.vmclear c physAddr.val.toNat h.proc).map fun r => h.report r.1 r.2

/-- `asm_vmptrld`. -/
def asmVmptrld (physAddr : PhysAddr) (h : Host) : Option (Host × Except VmxError Unit) :=
  (X86.Vmx.vmptrld c h.msr h.mem physAddr.val.toNat h.proc).map fun r => h.report r.1 r.2

/-- `asm_vmread`. -/
def asmVmread (field : Field) (h : Host) : Option (Host × Except VmxError UInt64) :=
  (X86.Vmx.vmread c field.encoding h.proc).map fun r =>
    let (h, res) := h.report r.1 r.2.1
    (h, res.map fun _ => r.2.2)

/-- `asm_vmwrite`. -/
def asmVmwrite (field : Field) (value : UInt64) (h : Host) : Option (Host × Except VmxError Unit) :=
  (X86.Vmx.vmwrite c h.msr field.encoding value h.proc).map fun r => h.report r.1 r.2

/-- `vmread`: the value, or a panic. -/
def vmread (field : Field) (h : Host) : Option (Host × UInt64) := do
  let (h, r) ← asmVmread c field h
  match r with
  | .ok val => pure (h, val)
  | .error _ => none

/-- `vmwrite`, which panics on an error. -/
def vmwrite (field : Field) (value : UInt64) (h : Host) : Option Host := do
  let (h, r) ← asmVmwrite c field value h
  match r with
  | .ok () => pure h
  | .error _ => none

end Asm

/-- A `VmcsRegion`: the page of the VMM's heap at `ptr`. -/
structure VmcsRegion where
  ptr : UInt64

/-- A `VmxonRegion`. -/
structure VmxonRegion where
  ptr : UInt64

/-- `VmcsRegion::new` and `VmxonRegion::new` on the page the allocator
returns, which lies at `phys`: its 4096 bytes zeroed, then the VMCS revision
identifier, bits 30:0 of IA32_VMX_BASIC (`0x480`), in the first four. -/
def newRegion (phys : Nat) (h : Host) : Host :=
  let region := h.mem.store phys 0 4096
  let vmcsRevId := (h.msr 0x480 &&& 0x7fff_ffff).toUInt32
  { h with mem := region.store phys vmcsRevId.toNat 4 }

/-- A new region holds the revision identifier VMXON and VMPTRLD check. -/
theorem revisionOk_newRegion (phys : Nat) (h : Host) :
    revisionOk (newRegion phys h).msr (newRegion phys h).mem phys := by
  have hlt : (h.msr 0x480 &&& 0x7fff_ffff).toNat < 2 ^ 32 := by
    rw [UInt64.toNat_and]
    exact lt_of_le_of_lt Nat.and_le_right (by decide)
  simp only [revisionOk, newRegion, Mem.load_store, UInt64.toNat_toUInt32, Nat.mod_eq_of_lt hlt]
  exact Nat.mod_eq_of_lt hlt

/-- A new region leaves the revision identifier of any region outside it. -/
theorem revisionOk_newRegion_of_disjoint {a phys : Nat} (hd : a + 4 ≤ phys ∨ phys + 4096 ≤ a) (h : Host) :
    revisionOk (newRegion phys h).msr (newRegion phys h).mem a ↔ revisionOk h.msr h.mem a := by
  simp only [revisionOk, newRegion, Mem.load_store_of_disjoint _ (show a + 4 ≤ phys ∨ phys + 4 ≤ a by omega),
    Mem.load_store_of_disjoint _ hd]

namespace VmcsRegion

variable (c : Caps) (args : BootArgs)

/-- `VmcsRegion::clear`: `vmclear`, which panics on an error. -/
def clear (r : VmcsRegion) (h : Host) : Option Host := do
  let paddr ← Boot.VmcsRegion.paddr args r.ptr
  let (h, res) ← asmVmclear c paddr h
  match res with
  | .ok () => pure h
  | .error _ => none

/-- `VmcsRegion::load`: `vmptrld`, which panics on an error. -/
def load (r : VmcsRegion) (h : Host) : Option Host := do
  let paddr ← Boot.VmcsRegion.paddr args r.ptr
  let (h, res) ← asmVmptrld c paddr h
  match res with
  | .ok () => pure h
  | .error _ => none

/-- `VmcsRegion::read`. -/
def read (field : Field) (h : Host) : Option (Host × UInt64) := vmread c field h

/-- `VmcsRegion::write`. -/
def write (field : Field) (val : UInt64) (h : Host) : Option Host := vmwrite c field val h

variable {c args}

/-- `VmcsRegion::clear` of a region VMCLEAR takes, in VMX operation: the
region's launch state becomes clear and it stops being current. -/
theorem clear_eq {h : Host} {o : Nat} (hon : h.proc.vmxon = some o) {r : VmcsRegion} {p : PhysAddr}
    (hp : Boot.VmcsRegion.paddr args r.ptr = some p) (hvalid : c.validAddr p.val.toNat) (hne : p.val.toNat ≠ o) :
    clear c args r h = some { h with
      proc := { h.proc with
        launched := Function.update h.proc.launched p.val.toNat false
        current := if h.proc.current = some p.val.toNat then none else h.proc.current }
      rflags := Outcome.succeed.rflags h.rflags } := by
  simp [clear, hp, asmVmclear, X86.Vmx.vmclear, hon, hvalid, hne, Host.report, checkVmxError_rflags]

/-- `VmcsRegion::load` of a region VMPTRLD takes, in VMX operation: it
becomes the current VMCS. -/
theorem load_eq {h : Host} {o : Nat} (hon : h.proc.vmxon = some o) {r : VmcsRegion} {p : PhysAddr}
    (hp : Boot.VmcsRegion.paddr args r.ptr = some p) (hvalid : c.validAddr p.val.toNat) (hne : p.val.toNat ≠ o)
    (hrev : revisionOk h.msr h.mem p.val.toNat) :
    load c args r h = some { h with
      proc := { h.proc with current := some p.val.toNat }
      rflags := Outcome.succeed.rflags h.rflags } := by
  simp [load, hp, asmVmptrld, X86.Vmx.vmptrld, hon, hvalid, hne, hrev, Host.report, checkVmxError_rflags]

/-- `VmcsRegion::read` of a field the processor has, from the current VMCS. -/
theorem read_eq {h : Host} {o v : Nat} (hon : h.proc.vmxon = some o) (hcur : h.proc.current = some v)
    {field : Field} (hs : c.supported field.encoding = true) :
    read c field h = some ({ h with rflags := Outcome.succeed.rflags h.rflags }, h.proc.data v field.encoding) := by
  simp [read, Htvmm.Vmx.vmread, asmVmread, vmread_of_current hon hcur hs, Host.report, checkVmxError_rflags,
    Except.map]

variable (c args)

/-- A run of `self.write` calls, in order. -/
def writeAll : List (Field × UInt64) → Host → Option Host
  | [], h => some h
  | (field, val) :: ws, h => (write c field val h).bind (writeAll ws)

/-- The encodings and values a run of writes stores. -/
def encoded (ws : List (Field × UInt64)) : List (UInt32 × UInt64) := ws.map fun w => (w.1.encoding, w.2)

theorem encoded_append (ws ws' : List (Field × UInt64)) : encoded (ws ++ ws') = encoded ws ++ encoded ws' :=
  List.map_append ..

theorem encoded_fields (ws : List (Field × UInt64)) : (encoded ws).map Prod.fst = (ws.map Prod.fst).map Field.encoding := by
  simp [encoded]

variable {c}

/-- On a processor with every field, the writes of a run that names no
VM-exit information field all take. -/
theorem writable_of_kind (hsup : ∀ f : Field, c.supported f.encoding = true) {ws : List (Field × UInt64)}
    (hk : ∀ f ∈ ws.map Prod.fst, kind f.encoding ≠ 1) :
    ∀ w ∈ ws, c.supported w.1.encoding = true ∧ kind w.1.encoding ≠ 1 :=
  fun w hw => ⟨hsup w.1, hk _ (List.mem_map_of_mem hw)⟩

/-- `VmcsRegion::write` of a field the processor has and that is not a
VM-exit information field stores the value in the current VMCS. -/
theorem write_eq {h : Host} {o v : Nat} (hon : h.proc.vmxon = some o) (hcur : h.proc.current = some v)
    {field : Field} (hs : c.supported field.encoding = true) (hk : kind field.encoding ≠ 1) (val : UInt64) :
    write c field val h =
      some { h with
        proc := h.proc.set v field.encoding (truncate field.encoding val)
        rflags := Outcome.succeed.rflags h.rflags } := by
  have hw : X86.Vmx.vmwrite c h.msr field.encoding val h.proc =
      some (h.proc.set v field.encoding (truncate field.encoding val), .succeed) := by
    simp [X86.Vmx.vmwrite, hon, hcur, hs, hk]
  simp [write, Htvmm.Vmx.vmwrite, asmVmwrite, hw, Host.report, checkVmxError_rflags]

/-- A write to a field the processor lacks, or to a VM-exit information field
it does not let VMWRITE change, panics. -/
theorem write_eq_none {h : Host} {o v : Nat} (hon : h.proc.vmxon = some o) (hcur : h.proc.current = some v)
    {field : Field} (hbad : c.supported field.encoding = false ∨
      (kind field.encoding = 1 ∧ h.msr 0x485 &&& bit 29 = 0)) (val : UInt64) :
    write c field val h = none := by
  have hfail : ∃ n, X86.Vmx.vmwrite c h.msr field.encoding val h.proc = some (h.proc.fail n) := by
    rcases hbad with hs | hro
    · exact ⟨12, by simp [X86.Vmx.vmwrite, hon, hcur, hs]⟩
    · by_cases hs : c.supported field.encoding = true
      · exact ⟨13, by simp [X86.Vmx.vmwrite, hon, hcur, hs, hro]⟩
      · exact ⟨12, by simp [X86.Vmx.vmwrite, hon, hcur, hs]⟩
  obtain ⟨n, hw⟩ := hfail
  have hv : (h.proc.fail n).2 = .failValid n := by simp [Proc.fail, hcur]
  simp [write, Htvmm.Vmx.vmwrite, asmVmwrite, hw, Host.report, hv, checkVmxError_rflags]

/-- **The writes of a run all land.** On the current VMCS, when every field
is one the processor has and none is a VM-exit information field, the run
stores each value, truncated, with RFLAGS reporting VMsucceed. -/
theorem writeAll_eq {h : Host} {o v : Nat} (hon : h.proc.vmxon = some o) (hcur : h.proc.current = some v)
    {ws : List (Field × UInt64)}
    (hok : ∀ w ∈ ws, c.supported w.1.encoding = true ∧ kind w.1.encoding ≠ 1) :
    writeAll c ws h = some { h with
      proc := h.proc.setAll v (encoded ws)
      rflags := if ws = [] then h.rflags else Outcome.succeed.rflags h.rflags } := by
  induction ws generalizing h with
  | nil => rfl
  | cons w ws ih =>
    obtain ⟨hs, hk⟩ := hok w List.mem_cons_self
    have hrun := ih (h := { h with
        proc := h.proc.set v w.1.encoding (truncate w.1.encoding w.2)
        rflags := Outcome.succeed.rflags h.rflags })
      hon hcur (fun w' hw' => hok w' (List.mem_cons_of_mem _ hw'))
    simp only [writeAll, write_eq hon hcur hs hk, Option.bind_some, hrun, Outcome.rflags_rflags, ite_self,
      reduceCtorEq, if_false]
    rfl

/-- A run of writes to fields that are not VM-exit information fields
panics when the processor lacks one of them. -/
theorem writeAll_eq_none {h : Host} {o v : Nat} (hon : h.proc.vmxon = some o) (hcur : h.proc.current = some v)
    {ws : List (Field × UInt64)} (hk : ∀ w ∈ ws, kind w.1.encoding ≠ 1)
    (hbad : ∃ w ∈ ws, c.supported w.1.encoding = false) :
    writeAll c ws h = none := by
  induction ws generalizing h with
  | nil => simp at hbad
  | cons w ws ih =>
    by_cases hs : c.supported w.1.encoding = true
    · have hbad' : ∃ w' ∈ ws, c.supported w'.1.encoding = false := by
        obtain ⟨w', hw', hs'⟩ := hbad
        rcases List.mem_cons.mp hw' with rfl | hw'
        · simp [hs] at hs'
        · exact ⟨w', hw', hs'⟩
      simp only [writeAll, write_eq hon hcur hs (hk w List.mem_cons_self), Option.bind_some]
      exact ih hon hcur (fun w' hw' => hk w' (List.mem_cons_of_mem _ hw')) hbad'
    · simp only [writeAll]
      rw [write_eq_none hon hcur (Or.inl (by simpa using hs))]
      rfl

end VmcsRegion

end Htvmm.Vmx
