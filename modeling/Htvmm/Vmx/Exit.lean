import Htvmm.Asm.X86
import Htvmm.Boot.Args
import Htvmm.Cpu.GuestWalk

/-!
# The VM-exit path

On a VM exit the processor enters `vmexit_handler` (vmm/src/entry.s) with the
guest's general registers still loaded, all but `%rsp`, which the VMCS keeps
with the guest's control registers and `%rip`. `vmexit_handler` pushes the
registers, so that the stack holds a `VmExitGeneralPurposeRegister`, and calls
`resume_vm` (arch/intel/mod.rs) with its address; `handle_vmexit`
(arch/intel/vmx.rs) emulates the exit on the struct and the VMCS
(`cpuid`, `cr_access` in arch/intel/vmexit_handlers.rs) and moves the guest's
`%rip` past the instruction, whose length it decodes again (`decode_one`,
emu.rs); `vmexit_handler` pops the registers and resumes the guest.

The host's `cpuid` and iced-x86's decoder are parameters: `cpuidCount` gives
the four outputs for a leaf and subleaf, `decode` the length of the first
instruction of a buffer. `hlt` ends a run: a VM exit clears `RFLAGS.IF`, so
the host only leaves it for an NMI.
-/

namespace Htvmm.Vmx

open X86 Word Paging Cpu Boot

/-- The fields of the VMCS the exit path reads or writes (`VmcsField`). -/
inductive VmcsField where
  | vmExitReason
  | exitQualification
  | guestCr0
  | guestCr3
  | guestCr4
  | guestRsp
  | guestRip
  deriving DecidableEq, Repr

/-- The current VMCS, as `vmread` and `vmwrite` see it. -/
abbrev Vmcs := VmcsField → UInt64

/-- `VmcsRegion::write`. -/
def Vmcs.write (vmcs : Vmcs) (field : VmcsField) (val : UInt64) : Vmcs :=
  Function.update vmcs field val

@[simp] theorem Vmcs.write_same (vmcs : Vmcs) (field : VmcsField) (val : UInt64) :
    vmcs.write field val field = val :=
  Function.update_self ..

@[simp] theorem Vmcs.write_other (vmcs : Vmcs) {field field' : VmcsField} (val : UInt64)
    (h : field' ≠ field) : vmcs.write field val field' = vmcs field' :=
  Function.update_of_ne h ..

/-! ## The register file on the stack -/

/-- `VmExitGeneralPurposeRegister`, `repr(C)`: fifteen quadwords in this
order. -/
structure VmExitGeneralPurposeRegister where
  r15 : UInt64
  r14 : UInt64
  r13 : UInt64
  r12 : UInt64
  r11 : UInt64
  r10 : UInt64
  r9 : UInt64
  r8 : UInt64
  rsi : UInt64
  rdi : UInt64
  rdx : UInt64
  rcx : UInt64
  rbx : UInt64
  rax : UInt64
  rbp : UInt64
  deriving DecidableEq, Repr

namespace VmExitGeneralPurposeRegister

/-- The fields in memory order. -/
def fields (g : VmExitGeneralPurposeRegister) : List UInt64 :=
  [g.r15, g.r14, g.r13, g.r12, g.r11, g.r10, g.r9, g.r8, g.rsi, g.rdi, g.rdx, g.rcx, g.rbx,
    g.rax, g.rbp]

/-- The register each field is named after, in memory order. -/
def fieldRegs : List Reg :=
  [.r15, .r14, .r13, .r12, .r11, .r10, .r9, .r8, .rsi, .rdi, .rdx, .rcx, .rbx, .rax, .rbp]

/-- `*gpr` for `gpr` at `p`. -/
def read (mem : Mem) (p : Nat) : VmExitGeneralPurposeRegister where
  r15 := mem.load64 p
  r14 := mem.load64 (p + 8)
  r13 := mem.load64 (p + 16)
  r12 := mem.load64 (p + 24)
  r11 := mem.load64 (p + 32)
  r10 := mem.load64 (p + 40)
  r9 := mem.load64 (p + 48)
  r8 := mem.load64 (p + 56)
  rsi := mem.load64 (p + 64)
  rdi := mem.load64 (p + 72)
  rdx := mem.load64 (p + 80)
  rcx := mem.load64 (p + 88)
  rbx := mem.load64 (p + 96)
  rax := mem.load64 (p + 104)
  rbp := mem.load64 (p + 112)

/-- `*gpr = g` for `gpr` at `p`. -/
def write (g : VmExitGeneralPurposeRegister) (mem : Mem) (p : Nat) : Mem :=
  mem.storeQuads p g.fields

/-- The struct holding the registers `regs` in the fields of their names. -/
def ofRegs (regs : Reg → UInt64) : VmExitGeneralPurposeRegister :=
  ⟨regs .r15, regs .r14, regs .r13, regs .r12, regs .r11, regs .r10, regs .r9, regs .r8,
    regs .rsi, regs .rdi, regs .rdx, regs .rcx, regs .rbx, regs .rax, regs .rbp⟩

/-- The registers the struct holds, with `rsp` for the one it has no field
for. -/
def toRegs (g : VmExitGeneralPurposeRegister) (rsp : UInt64) : Reg → UInt64
  | .rax => g.rax
  | .rcx => g.rcx
  | .rdx => g.rdx
  | .rbx => g.rbx
  | .rsp => rsp
  | .rbp => g.rbp
  | .rsi => g.rsi
  | .rdi => g.rdi
  | .r8 => g.r8
  | .r9 => g.r9
  | .r10 => g.r10
  | .r11 => g.r11
  | .r12 => g.r12
  | .r13 => g.r13
  | .r14 => g.r14
  | .r15 => g.r15

theorem fields_ofRegs (regs : Reg → UInt64) : (ofRegs regs).fields = fieldRegs.map regs := rfl

theorem fields_eq_map (g : VmExitGeneralPurposeRegister) (rsp : UInt64) :
    g.fields = fieldRegs.map (g.toRegs rsp) := rfl

@[simp] theorem ofRegs_toRegs (g : VmExitGeneralPurposeRegister) (rsp : UInt64) :
    ofRegs (g.toRegs rsp) = g := rfl

@[simp] theorem toRegs_rsp (g : VmExitGeneralPurposeRegister) (rsp : UInt64) : g.toRegs rsp .rsp = rsp :=
  rfl

@[simp] theorem ofRegs_update_rsp (regs : Reg → UInt64) (rsp : UInt64) :
    ofRegs (Function.update regs .rsp rsp) = ofRegs regs := rfl

theorem toRegs_ofRegs (regs : Reg → UInt64) (rsp : UInt64) :
    (ofRegs regs).toRegs rsp = Function.update regs .rsp rsp := by
  funext r
  cases r <;> rfl

/-- Every register but `%rsp` has a field. -/
theorem mem_fieldRegs {r : Reg} (h : r ≠ .rsp) : r ∈ fieldRegs := by
  cases r <;> simp_all [fieldRegs]

theorem fields_length (g : VmExitGeneralPurposeRegister) : g.fields.length = 15 := rfl

/-- A struct whose fields hold, quadword by quadword, the registers they are
named after. -/
theorem read_eq_ofRegs {mem : Mem} {p : Nat} {regs : Reg → UInt64}
    (h : ∀ k (hk : k < fieldRegs.length), mem.load64 (p + 8 * k) = regs fieldRegs[k]) :
    read mem p = ofRegs regs := by
  simp only [read, ofRegs, mk.injEq]
  exact ⟨h 0 (by decide), h 1 (by decide), h 2 (by decide), h 3 (by decide), h 4 (by decide),
    h 5 (by decide), h 6 (by decide), h 7 (by decide), h 8 (by decide), h 9 (by decide),
    h 10 (by decide), h 11 (by decide), h 12 (by decide), h 13 (by decide), h 14 (by decide)⟩

end VmExitGeneralPurposeRegister

/-! ## The handlers -/

/-- What `__cpuid_count` returns. -/
structure CpuidResult where
  eax : UInt32
  ebx : UInt32
  ecx : UInt32
  edx : UInt32
  deriving DecidableEq, Repr

section Handlers

variable (cpuidCount : UInt32 → UInt32 → CpuidResult) (decode : List UInt8 → Nat)

/-- `vmexit_handlers::cpuid`. -/
def cpuid (gpr : VmExitGeneralPurposeRegister) : VmExitGeneralPurposeRegister :=
  let eax := gpr.rax.toUInt32
  let ecx := gpr.rcx.toUInt32
  let cpuid := cpuidCount eax ecx
  { gpr with
    rax := cpuid.eax.toUInt64
    rbx := cpuid.ebx.toUInt64
    rcx := cpuid.ecx.toUInt64
    rdx := cpuid.edx.toUInt64 }

/-- The value a MOV to a control register moves: the register `gpr_for_mov`
names; `%rsp` is the guest's, in the VMCS. -/
def movToCrValue (gprForMov : UInt64) (gpr : VmExitGeneralPurposeRegister) (vmcs : Vmcs) :
    Option UInt64 :=
  match gprForMov.toNat with
  | 0 => some gpr.rax
  | 1 => some gpr.rcx
  | 2 => some gpr.rdx
  | 3 => some gpr.rbx
  | 4 => some (vmcs .guestRsp)
  | 5 => some gpr.rbp
  | 6 => some gpr.rsi
  | 7 => some gpr.rdi
  | 8 => some gpr.r8
  | 9 => some gpr.r9
  | 10 => some gpr.r10
  | 11 => some gpr.r11
  | 12 => some gpr.r12
  | 13 => some gpr.r13
  | 14 => some gpr.r14
  | 15 => some gpr.r15
  | _ => none

/-- A MOV from a control register: `value` to the register `gpr_for_mov`
names. -/
def movFromCrWrite (gprForMov value : UInt64) (gpr : VmExitGeneralPurposeRegister) (vmcs : Vmcs) :
    Option (VmExitGeneralPurposeRegister × Vmcs) :=
  match gprForMov.toNat with
  | 0 => some ({ gpr with rax := value }, vmcs)
  | 1 => some ({ gpr with rcx := value }, vmcs)
  | 2 => some ({ gpr with rdx := value }, vmcs)
  | 3 => some ({ gpr with rbx := value }, vmcs)
  | 4 => some (gpr, vmcs.write .guestRsp value)
  | 5 => some ({ gpr with rbp := value }, vmcs)
  | 6 => some ({ gpr with rsi := value }, vmcs)
  | 7 => some ({ gpr with rdi := value }, vmcs)
  | 8 => some ({ gpr with r8 := value }, vmcs)
  | 9 => some ({ gpr with r9 := value }, vmcs)
  | 10 => some ({ gpr with r10 := value }, vmcs)
  | 11 => some ({ gpr with r11 := value }, vmcs)
  | 12 => some ({ gpr with r12 := value }, vmcs)
  | 13 => some ({ gpr with r13 := value }, vmcs)
  | 14 => some ({ gpr with r14 := value }, vmcs)
  | 15 => some ({ gpr with r15 := value }, vmcs)
  | _ => none

/-- `vmexit_handlers::cr_access`; each `panic!()` is `none`. -/
def crAccess (qual : UInt64) (gpr : VmExitGeneralPurposeRegister) (vmcs : Vmcs) :
    Option (VmExitGeneralPurposeRegister × Vmcs) :=
  let crNumber := qual &&& 0b1111
  let accessType := (qual &&& 0b11_0000) >>> 4
  let gprForMov := (qual &&& 0b1111_0000_0000) >>> 8
  match accessType.toNat with
  | 0 => do
    let value ← movToCrValue gprForMov gpr vmcs
    match crNumber.toNat with
    | 0 => some (gpr, vmcs.write .guestCr0 value)
    | 3 => some (gpr, vmcs.write .guestCr3 value)
    | 4 => some (gpr, vmcs.write .guestCr4 value)
    | _ => none
  | 1 => do
    let value ← match crNumber.toNat with
      | 0 => some (vmcs .guestCr0)
      | 3 => some (vmcs .guestCr3)
      | 4 => some (vmcs .guestCr4)
      | _ => none
    movFromCrWrite gprForMov value gpr vmcs
  | _ => none

/-- The guest's page tables, read as quadwords from host memory at the
guest-physical address. The walk reads a table only once `tableAt` has
checked its address: none is read from `2^47` up, where the host pointer
faults. -/
def tablesOf (mem : Mem) : Tables := fun t i => mem.load64 (t + 8 * i)

/-- An address the VMM can dereference as a host virtual one: canonical, with
bits 63:47 all equal. A pointer anywhere else faults. -/
def Canonical (a : Nat) : Prop := a < 2 ^ 47 ∨ 2 ^ 64 - 2 ^ 47 ≤ a ∧ a < 2 ^ 64

instance (a : Nat) : Decidable (Canonical a) := inferInstanceAs (Decidable (_ ∨ _))

/-- `decode_one`: iced-x86 decodes the ten bytes at `rip`, read through a host
pointer. `from_raw_parts` of a null pointer aborts on the debug build's check
of its precondition, and a byte at a non-canonical address (or past the top
of the address space) faults. `Decoder::can_decode` holds while bytes are
left, so it always decodes. -/
def decodeOne (mem : Mem) (rip : UInt64) : Option Nat :=
  if rip = 0 then none
  else if ¬ ∀ k < 10, Canonical (rip.toNat + k) then none
  else
    let code := (List.range 10).map fun k => mem (rip.toNat + k)
    if code ≠ [] then some (decode code) else none

/-- Where the ten bytes can be read, `decode_one` decodes them. -/
theorem decodeOne_eq {mem : Mem} {rip : UInt64} (h0 : rip ≠ 0) (hc : ∀ k < 10, Canonical (rip.toNat + k)) :
    decodeOne decode mem rip = some (decode ((List.range 10).map fun k => mem (rip.toNat + k))) := by
  rw [decodeOne, if_neg h0, if_neg (not_not.mpr hc)]
  simp

/-- `x86_64::instructions::hlt`, which ends the run. -/
def hlt : Option Unit := none

/-- The reasons `handle_vmexit` tells apart; `transmute` makes the others
`other`. -/
inductive VmExitReason where
  | exceptionOrNmi
  | tripleFault
  | initSignal
  | cpuid
  | crAccess
  | eptViolation
  | other (n : Nat)
  deriving DecidableEq, Repr

/-- `core::mem::transmute` of the exit reason into the `repr(u64)` enum,
whose discriminants are 0 to 69 but 35, 38 and 42; any other value is not a
`VmExitReason` at all. -/
def VmExitReason.transmute (reason : UInt64) : Option VmExitReason :=
  match reason.toNat with
  | 0 => some .exceptionOrNmi
  | 2 => some .tripleFault
  | 3 => some .initSignal
  | 10 => some .cpuid
  | 28 => some .crAccess
  | 48 => some .eptViolation
  | n => if n < 70 ∧ n ≠ 35 ∧ n ≠ 38 ∧ n ≠ 42 then some (.other n) else none

/-- `triple_fault`, `ept_violation` and `init_signal`: they translate the
guest's `%rip`, whose walk may panic, dump the bytes there and halt. -/
def dumpAndHalt (mem : Mem) (vmcs : Vmcs) : Option Unit := do
  let _guestRipPhys ← guestVirtToGuestPhys (tablesOf mem) (vmcs .guestRip) (vmcs .guestCr3)
  hlt

/-- The `match` of `handle_vmexit`: the handler for the reason, on the
struct and the VMCS. -/
def dispatch (reason : VmExitReason) (qual : UInt64) (mem : Mem) (gpr : VmExitGeneralPurposeRegister)
    (vmcs : Vmcs) : Option (VmExitGeneralPurposeRegister × Vmcs) :=
  match reason with
  | .tripleFault | .eptViolation | .initSignal => do
    dumpAndHalt mem vmcs
    pure (gpr, vmcs)
  | .crAccess => crAccess qual gpr vmcs
  | .exceptionOrNmi => do
    hlt
    let rip := vmcs .guestRip
    let len ← decodeOne decode mem rip
    pure (gpr, vmcs.write .guestRip (← u64Add rip (UInt64.ofNat len)))
  | .cpuid => pure (cpuid cpuidCount gpr, vmcs)
  | .other _ => do
    hlt
    pure (gpr, vmcs)

/-- The end of `handle_vmexit`: `%rip` moved past the instruction, decoded
again at its guest-physical address under the guest's CR3 as the handler left
it. `rip + instruction.len()` is checked on the debug build. -/
def skipInstruction (rip : UInt64) (mem : Mem) (vmcs : Vmcs) : Option Vmcs := do
  let cr3 := vmcs .guestCr3
  let ripPhys ← guestVirtToGuestPhys (tablesOf mem) rip cr3
  let len ← decodeOne decode mem ripPhys.val
  pure (vmcs.write .guestRip (← u64Add rip (UInt64.ofNat len)))

/-- `handle_vmexit`, with the struct at `gpr`. -/
def handleVmexit (reason qual : UInt64) (gpr : Nat) (mem : Mem) (vmcs : Vmcs) :
    Option (Mem × Vmcs) := do
  let reason ← VmExitReason.transmute reason
  let rip := vmcs .guestRip
  let (g, vmcs) ← dispatch cpuidCount decode reason qual mem (VmExitGeneralPurposeRegister.read mem gpr) vmcs
  let mem := g.write mem gpr
  let vmcs ← skipInstruction decode rip mem vmcs
  pure (mem, vmcs)

/-- `resume_vm`. -/
def resumeVm (gpr : Nat) (mem : Mem) (vmcs : Vmcs) : Option (Mem × Vmcs) :=
  handleVmexit cpuidCount decode (vmcs .vmExitReason) (vmcs .exitQualification) gpr mem vmcs

/-- The registers `vmexit_handler` saves, in the order it pushes them. -/
def savedRegs : List Reg :=
  [.rbp, .rax, .rbx, .rcx, .rdx, .rdi, .rsi, .r8, .r9, .r10, .r11, .r12, .r13, .r14, .r15]

/-- `vmexit_handler`, up to `vmresume`: `resume_vm` keeps `%rsp` and the
callee-saved registers, and the pops then reload every other one. -/
def vmexitHandler (s : Machine) (vmcs : Vmcs) : Option (Machine × Vmcs) := do
  let s := run (savedRegs.map .push ++ [.mov ⟨.rdi, .q⟩ ⟨.rsp, .q⟩]) s
  let (mem, vmcs) ← resumeVm cpuidCount decode (s.regs .rdi).toNat s.mem vmcs
  pure (run (savedRegs.reverse.map .pop) { s with mem }, vmcs)

end Handlers

end Htvmm.Vmx
