import Htvmm.Vmx.Exit

/-!
# What the exit path does to the guest

The guest as the processor runs it (`Guest`), the exits `handle_vmexit`
emulates (`Exit`: CPUID, MOV to and from CR0, CR3 and CR4) and what each of
them does on the processor (`Exit.apply`). The processor leaves the guest in
the registers and the VMCS on the exit (`exitMachine`, `exitVmcs`) and takes
it back from them on `vmresume` (`entryGuest`).

* `vmexitHandler_eq`: the pushes of `vmexit_handler` hand `resume_vm` the
  guest's registers in the struct, and its pops give the guest what the
  handlers left there;
* `dispatch_apply`: `cpuid` and `cr_access` do to the struct and the VMCS
  what the instruction does to the guest, unless a MOV to CR3 moves a value
  with a bit above 51 set;
* `vmexit_handler_emulates`: so the guest resumes with the instruction's
  effect and the `%rip` that `handle_vmexit` computes;
* `vmexit_handler_panics_on_high_cr3`: a MOV to CR3 of such a value, as
  with PCIDE's no-flush bit 63, makes the VMM panic.
-/

namespace Htvmm.Vmx

open X86 Word Paging Cpu Boot VmExitGeneralPurposeRegister

/-- The guest's general registers, control registers and `%rip`. -/
structure Guest where
  regs : Reg → UInt64
  cr0 : UInt64
  cr3 : UInt64
  cr4 : UInt64
  rip : UInt64

/-- The control registers a MOV exit can name. -/
inductive Cr where
  | cr0
  | cr3
  | cr4
  deriving DecidableEq, Repr

/-- The number of a control register in an exit qualification. -/
def Cr.number : Cr → Nat
  | .cr0 => 0
  | .cr3 => 3
  | .cr4 => 4

/-- The guest field of the VMCS that holds a control register. -/
def Cr.field : Cr → VmcsField
  | .cr0 => .guestCr0
  | .cr3 => .guestCr3
  | .cr4 => .guestCr4

def Guest.cr (g : Guest) : Cr → UInt64
  | .cr0 => g.cr0
  | .cr3 => g.cr3
  | .cr4 => g.cr4

/-- The exits `handle_vmexit` emulates. -/
inductive Exit where
  | cpuid
  | movToCr (cr : Cr) (src : Reg)
  | movFromCr (cr : Cr) (dst : Reg)

/-- The exit reason the processor reports. -/
def Exit.reason : Exit → UInt64
  | .cpuid => 10
  | .movToCr .. => 28
  | .movFromCr .. => 28

/-- The exit qualification: the control register in bits 3:0, the access
type in bits 5:4 and the general register in bits 11:8. -/
def Exit.qualification : Exit → UInt64
  | .cpuid => 0
  | .movToCr c r => UInt64.ofNat (c.number + 16 * 0 + 256 * r.number)
  | .movFromCr c r => UInt64.ofNat (c.number + 16 * 1 + 256 * r.number)

/-- `CR4.PCIDE`, bit 17. -/
def pcide (cr4 : UInt64) : Bool := cr4 &&& ((1 : UInt64) <<< 17) != 0

section Apply

variable (cpuidCount : UInt32 → UInt32 → CpuidResult) (decode : List UInt8 → Nat)

/-- What the instruction does on the processor: CPUID loads the zero-extended
outputs for leaf EAX and subleaf ECX; a MOV to CR3 drops bit 63 when PCIDE is
set. -/
def Exit.apply : Exit → Guest → Guest
  | .cpuid, g =>
    let r := cpuidCount (g.regs .rax).toUInt32 (g.regs .rcx).toUInt32
    { g with
      regs := Function.update (Function.update (Function.update (Function.update g.regs
        .rax r.eax.toUInt64) .rbx r.ebx.toUInt64) .rcx r.ecx.toUInt64) .rdx r.edx.toUInt64 }
  | .movToCr .cr0 src, g => { g with cr0 := g.regs src }
  | .movToCr .cr3 src, g =>
    { g with cr3 := if pcide g.cr4 then g.regs src &&& ~~~((1 : UInt64) <<< 63) else g.regs src }
  | .movToCr .cr4 src, g => { g with cr4 := g.regs src }
  | .movFromCr c dst, g => { g with regs := Function.update g.regs dst (g.cr c) }

/-- The guest as the struct and the VMCS hold it while the VMM runs. -/
def guestOf (g : VmExitGeneralPurposeRegister) (vmcs : Vmcs) : Guest :=
  ⟨g.toRegs (vmcs .guestRsp), vmcs .guestCr0, vmcs .guestCr3, vmcs .guestCr4, vmcs .guestRip⟩

/-- The machine at `vmexit_handler` after the processor exits from `g`: the
guest's registers but `%rsp`, which is the host's. -/
def exitMachine (g : Guest) (hostRsp : UInt64) (mem : Mem) : Machine :=
  ⟨Function.update g.regs .rsp hostRsp, mem⟩

/-- The VMCS after the exit: the reason, the qualification, and the guest's
`%rsp`, control registers and `%rip`. -/
def exitVmcs (g : Guest) (e : Exit) : Vmcs
  | .vmExitReason => e.reason
  | .exitQualification => e.qualification
  | .guestCr0 => g.cr0
  | .guestCr3 => g.cr3
  | .guestCr4 => g.cr4
  | .guestRsp => g.regs .rsp
  | .guestRip => g.rip

/-- The guest `vmresume` enters. -/
def entryGuest (s : Machine) (vmcs : Vmcs) : Guest :=
  ⟨Function.update s.regs .rsp (vmcs .guestRsp), vmcs .guestCr0, vmcs .guestCr3, vmcs .guestCr4,
    vmcs .guestRip⟩

/-- The reason `handle_vmexit` sees. -/
def Exit.kind : Exit → VmExitReason
  | .cpuid => .cpuid
  | .movToCr .. => .crAccess
  | .movFromCr .. => .crAccess

theorem transmute_reason (e : Exit) : VmExitReason.transmute e.reason = some e.kind := by
  cases e <;> rfl

theorem guestOf_exit (g : Guest) (e : Exit) : guestOf (ofRegs g.regs) (exitVmcs g e) = g := by
  simp only [guestOf, toRegs_ofRegs, exitVmcs, Function.update_eq_self]

theorem ofRegs_exitMachine (g : Guest) (hostRsp : UInt64) (mem : Mem) :
    ofRegs (exitMachine g hostRsp mem).regs = ofRegs g.regs := rfl

theorem toRegs_exit (g : Guest) (e : Exit) (r : Reg) :
    (ofRegs g.regs).toRegs (exitVmcs g e .guestRsp) r = g.regs r :=
  congrFun (congrArg Guest.regs (guestOf_exit g e)) r

/-! ## The exit qualification -/

theorem qualification_lt {c t n : Nat} (hc : c < 16) (ht : t < 4) (hn : n < 16) :
    (UInt64.ofNat (c + 16 * t + 256 * n)).toNat = c + 16 * t + 256 * n := by
  rw [UInt64.toNat_ofNat']
  omega

theorem crNumber_eq {c t n : Nat} (hc : c < 16) (ht : t < 4) (hn : n < 16) :
    (UInt64.ofNat (c + 16 * t + 256 * n) &&& 0b1111).toNat = c := by
  rw [UInt64.toNat_and, qualification_lt hc ht hn,
    show (0b1111 : UInt64).toNat = 2 ^ 4 - 1 by decide, Nat.and_two_pow_sub_one_eq_mod]
  omega

theorem accessType_eq {c t n : Nat} (hc : c < 16) (ht : t < 4) (hn : n < 16) :
    ((UInt64.ofNat (c + 16 * t + 256 * n) &&& 0b11_0000) >>> 4).toNat = t := by
  rw [UInt64.toNat_shiftRight, UInt64.toNat_and, qualification_lt hc ht hn,
    show (0b11_0000 : UInt64).toNat = (2 ^ 2 - 1) * 2 ^ 4 by decide, and_mask_shift,
    show (4 : UInt64).toNat % 64 = 4 by decide, Nat.shiftRight_eq_div_pow]
  omega

theorem gprForMov_eq {c t n : Nat} (hc : c < 16) (ht : t < 4) (hn : n < 16) :
    ((UInt64.ofNat (c + 16 * t + 256 * n) &&& 0b1111_0000_0000) >>> 8).toNat = n := by
  rw [UInt64.toNat_shiftRight, UInt64.toNat_and, qualification_lt hc ht hn,
    show (0b1111_0000_0000 : UInt64).toNat = (2 ^ 4 - 1) * 2 ^ 8 by decide, and_mask_shift,
    show (8 : UInt64).toNat % 64 = 8 by decide, Nat.shiftRight_eq_div_pow]
  omega

theorem Cr.number_lt (c : Cr) : c.number < 16 := by
  cases c <;> decide

/-! ## The handlers on the struct -/

theorem guestOf_cpuid (g : VmExitGeneralPurposeRegister) (vmcs : Vmcs) :
    guestOf (cpuid cpuidCount g) vmcs = Exit.apply cpuidCount .cpuid (guestOf g vmcs) := by
  simp only [guestOf, Exit.apply, Guest.mk.injEq, and_true]
  funext r
  cases r <;> rfl

theorem movToCrValue_eq {gprForMov : UInt64} {r : Reg} (h : gprForMov.toNat = r.number)
    (g : VmExitGeneralPurposeRegister) (vmcs : Vmcs) :
    movToCrValue gprForMov g vmcs = some (g.toRegs (vmcs .guestRsp) r) := by
  unfold movToCrValue
  rw [h]
  cases r <;> rfl

theorem movFromCrWrite_eq {gprForMov : UInt64} {r : Reg} (h : gprForMov.toNat = r.number)
    (value : UInt64) (g : VmExitGeneralPurposeRegister) (vmcs : Vmcs) :
    (movFromCrWrite gprForMov value g vmcs).map (fun p => guestOf p.1 p.2) =
      some { guestOf g vmcs with regs := Function.update (guestOf g vmcs).regs r value } := by
  unfold movFromCrWrite
  rw [h]
  cases r <;>
    simp only [Reg.number, Option.map_some, Option.some.injEq, guestOf, Vmcs.write_same, ne_eq,
      reduceCtorEq, not_false_eq_true,
      Vmcs.write_other, Guest.mk.injEq, and_true] <;>
    funext r' <;> cases r' <;> rfl

theorem crAccess_movToCr (c : Cr) (r : Reg) (g : VmExitGeneralPurposeRegister) (vmcs : Vmcs) :
    crAccess (Exit.movToCr c r).qualification g vmcs =
      some (g, vmcs.write c.field (g.toRegs (vmcs .guestRsp) r)) := by
  have hc := c.number_lt
  have hr := r.number_lt
  simp only [crAccess, Exit.qualification, accessType_eq hc (by decide : 0 < 4) hr,
    movToCrValue_eq (gprForMov_eq hc (by decide : 0 < 4) hr), crNumber_eq hc (by decide : 0 < 4) hr,
    Option.bind_eq_bind, Option.bind_some]
  cases c <;> rfl

theorem crAccess_movFromCr (c : Cr) (r : Reg) (g : VmExitGeneralPurposeRegister) (vmcs : Vmcs) :
    (crAccess (Exit.movFromCr c r).qualification g vmcs).map (fun p => guestOf p.1 p.2) =
      some { guestOf g vmcs with
        regs := Function.update (guestOf g vmcs).regs r ((guestOf g vmcs).cr c) } := by
  have hc := c.number_lt
  have hr := r.number_lt
  simp only [crAccess, Exit.qualification, accessType_eq hc (by decide : 1 < 4) hr,
    crNumber_eq hc (by decide : 1 < 4) hr, Option.bind_eq_bind]
  cases c <;>
    simp only [Option.bind_some] <;>
    exact movFromCrWrite_eq (gprForMov_eq hc (by decide : 1 < 4) hr) _ g vmcs

/-- A value below `2^52` has no bit 63 to drop. -/
theorem and_not_bit63 {v : UInt64} (h : v.toNat < 2 ^ 52) : v &&& ~~~((1 : UInt64) <<< 63) = v := by
  apply UInt64.toNat_inj.mp
  rw [UInt64.toNat_and, show (~~~((1 : UInt64) <<< 63)).toNat = 2 ^ 63 - 1 by decide,
    Nat.and_two_pow_sub_one_eq_mod]
  omega

/-- **The handlers emulate the instruction** on the struct and the VMCS the
exit leaves, but for a MOV to CR3 of a value with a bit above 51 set. -/
theorem dispatch_apply (e : Exit) (g : Guest) (mem : Mem)
    (hcr3 : ∀ src, e = .movToCr .cr3 src → (g.regs src).toNat < 2 ^ 52) :
    (dispatch cpuidCount decode e.kind e.qualification mem (ofRegs g.regs) (exitVmcs g e)).map
      (fun p => guestOf p.1 p.2) = some (e.apply cpuidCount g) := by
  have hg := guestOf_exit g e
  cases e with
  | cpuid =>
    simp only [dispatch, Exit.kind, Option.pure_def, Option.map_some, guestOf_cpuid, hg]
  | movFromCr c r =>
    simp only [dispatch, Exit.kind, crAccess_movFromCr, hg]
    rfl
  | movToCr c r =>
    simp only [dispatch, Exit.kind, crAccess_movToCr, toRegs_exit, Option.map_some, Option.some.injEq]
    cases c with
    | cr0 => simp [guestOf, Cr.field, exitVmcs, toRegs_ofRegs, Exit.apply]
    | cr4 => simp [guestOf, Cr.field, exitVmcs, toRegs_ofRegs, Exit.apply]
    | cr3 =>
      simp [guestOf, Cr.field, exitVmcs, toRegs_ofRegs, Exit.apply, and_not_bit63 (hcr3 r rfl)]

/-! ## The assembly around `resume_vm` -/

/-- The pushes leave the struct holding the registers. -/
theorem read_pushed (s : Machine) (hroom : 120 ≤ (s.regs .rsp).toNat) :
    read (run (savedRegs.map .push) s).mem ((s.regs .rsp).toNat - 120) = ofRegs s.regs := by
  apply read_eq_ofRegs
  intro k hk
  exact run_pushes_quads savedRegs s (by decide) hroom k hk

/-- The pops give the guest the struct's fields, and `%rsp` back. -/
theorem entryGuest_popped (regs : Reg → UInt64) (g : VmExitGeneralPurposeRegister) (mem : Mem)
    (vmcs : Vmcs) (hroom : (regs .rsp).toNat + 120 < 2 ^ 64) :
    entryGuest (run (savedRegs.reverse.map .pop) ⟨regs, g.write mem (regs .rsp).toNat⟩) vmcs =
      guestOf g vmcs := by
  rw [show savedRegs.reverse = fieldRegs from rfl]
  obtain ⟨-, -, hpopped, -⟩ := run_pops fieldRegs ⟨regs, g.write mem (regs .rsp).toNat⟩ (by decide)
    (by decide) hroom
  simp only [entryGuest, guestOf, Guest.mk.injEq, and_true]
  funext r
  by_cases hr : r = .rsp
  · subst hr
    simp
  · rw [Function.update_of_ne hr]
    obtain ⟨k, hk, rfl⟩ := List.mem_iff_getElem.mp (mem_fieldRegs hr)
    rw [hpopped k hk, write, Mem.load64_storeQuads _ _ _ k (by rw [fields_length]; exact hk),
      List.getElem_of_eq (fields_eq_map g (vmcs .guestRsp)), List.getElem_map]

/-- **`vmexit_handler` hands the guest's registers to `handle_vmexit` and
back.** From a machine with room for the fifteen pushes, the guest that
`vmresume` enters is what the handler leaves in the struct and the VMCS, with
the `%rip` that `handle_vmexit` computes last. -/
theorem vmexitHandler_eq (s : Machine) (vmcs : Vmcs) (hroom : 120 ≤ (s.regs .rsp).toNat) :
    (vmexitHandler cpuidCount decode s vmcs).map (fun r => entryGuest r.1 r.2) =
      (VmExitReason.transmute (vmcs .vmExitReason)).bind fun reason =>
        (dispatch cpuidCount decode reason (vmcs .exitQualification) (run (savedRegs.map .push) s).mem
          (ofRegs s.regs) vmcs).bind fun r =>
          (skipInstruction decode (vmcs .guestRip)
            (r.1.write (run (savedRegs.map .push) s).mem ((s.regs .rsp).toNat - 120)) r.2).map
            (guestOf r.1) := by
  obtain ⟨hsp, -, -, -⟩ := run_pushes savedRegs s (by decide) hroom
  rw [show 8 * savedRegs.length = 120 from rfl] at hsp
  have hlt := (s.regs .rsp).toNat_lt
  generalize hs1 : run (savedRegs.map .push ++ [.mov ⟨.rdi, .q⟩ ⟨.rsp, .q⟩]) s = s1
  have hrun : s1 = (Instr.mov ⟨.rdi, .q⟩ ⟨.rsp, .q⟩).eval (run (savedRegs.map .push) s) := by
    rw [← hs1, run_append, run_cons, run_nil]
  have hrdi : (s1.regs .rdi).toNat = (s.regs .rsp).toNat - 120 := by
    subst hrun
    simpa [Instr.eval, Machine.write, Machine.read, Width.read, Width.write] using hsp
  have hsp1 : (s1.regs .rsp).toNat = (s.regs .rsp).toNat - 120 := by
    subst hrun
    simpa [Instr.eval, Machine.write, Machine.set, Function.update_of_ne] using hsp
  have hmem : s1.mem = (run (savedRegs.map .push) s).mem := by
    subst hrun
    rfl
  simp only [vmexitHandler, hs1, resumeVm, handleVmexit, hrdi, hmem, read_pushed s hroom,
    Option.bind_eq_bind, Option.pure_def]
  cases VmExitReason.transmute (vmcs .vmExitReason) with
  | none => rfl
  | some reason =>
    simp only [Option.bind_some]
    cases dispatch cpuidCount decode reason (vmcs .exitQualification) (run (savedRegs.map .push) s).mem
      (ofRegs s.regs) vmcs with
    | none => rfl
    | some r =>
      obtain ⟨g, v⟩ := r
      simp only [Option.bind_some]
      cases skipInstruction decode (vmcs .guestRip)
        (g.write (run (savedRegs.map .push) s).mem ((s.regs .rsp).toNat - 120)) v with
      | none => rfl
      | some v' =>
        simp only [Option.bind_some, Option.map_some, Option.some.injEq]
        have hpopped := entryGuest_popped s1.regs g (run (savedRegs.map .push) s).mem v' (by omega)
        rw [hsp1] at hpopped
        exact hpopped

/-- The struct overwrites all that the pushes wrote. -/
theorem write_pushed (s : Machine) (hroom : 120 ≤ (s.regs .rsp).toNat)
    (g : VmExitGeneralPurposeRegister) :
    g.write (run (savedRegs.map .push) s).mem ((s.regs .rsp).toNat - 120) =
      g.write s.mem ((s.regs .rsp).toNat - 120) := by
  obtain ⟨-, -, hframe, -⟩ := run_pushes savedRegs s (by decide) hroom
  rw [show 8 * savedRegs.length = 120 from rfl] at hframe
  funext x
  apply Mem.storeQuads_congr
  by_cases hin : (s.regs .rsp).toNat - 120 ≤ x ∧ x < (s.regs .rsp).toNat - 120 + 8 * g.fields.length
  · exact Or.inl hin
  · rw [fields_length] at hin
    exact Or.inr (hframe x (by omega))

/-- The exit path of an emulated exit up to skipping the instruction: the
handler leaves in the struct and the VMCS the guest after the instruction, and
the memory is the guest's with that struct below the host's `%rsp`. -/
theorem vmexitHandler_frame (e : Exit) (g : Guest) (hostRsp : UInt64) (mem : Mem)
    (hroom : 120 ≤ hostRsp.toNat)
    (hcr3 : ∀ src, e = .movToCr .cr3 src → (g.regs src).toNat < 2 ^ 52) :
    ∃ vmcs, guestOf (ofRegs (e.apply cpuidCount g).regs) vmcs = e.apply cpuidCount g ∧
      (vmexitHandler cpuidCount decode (exitMachine g hostRsp mem) (exitVmcs g e)).map
          (fun r => entryGuest r.1 r.2) =
        (skipInstruction decode g.rip ((ofRegs (e.apply cpuidCount g).regs).write mem (hostRsp.toNat - 120))
          vmcs).map (guestOf (ofRegs (e.apply cpuidCount g).regs)) := by
  have hsp : (exitMachine g hostRsp mem).regs .rsp = hostRsp := by simp [exitMachine]
  have hroom' : 120 ≤ ((exitMachine g hostRsp mem).regs .rsp).toNat := by
    rw [hsp]
    exact hroom
  obtain ⟨⟨g', v'⟩, hd, happly⟩ := Option.map_eq_some_iff.mp
    (dispatch_apply cpuidCount decode e g (run (savedRegs.map .push) (exitMachine g hostRsp mem)).mem hcr3)
  have hg' : g' = ofRegs (e.apply cpuidCount g).regs := by
    rw [← happly]
    simp [guestOf]
  subst hg'
  refine ⟨v', happly, ?_⟩
  rw [vmexitHandler_eq cpuidCount decode _ _ hroom']
  simp only [ofRegs_exitMachine, exitVmcs, transmute_reason, Option.bind_some]
  rw [hd, Option.bind_some, write_pushed _ hroom', hsp]
  rfl

end Apply

section Panic

variable (cpuidCount : UInt32 → UInt32 → CpuidResult) (decode : List UInt8 → Nat)

/-- **A MOV to CR3 of a value with a bit above 51 set makes the VMM panic.**
`cr_access` stores the whole value in the guest's CR3, bit 63 included, and
`handle_vmexit` then walks the guest's tables from it to skip the instruction:
`PhysAddr::new` panics. -/
theorem vmexit_handler_panics_on_high_cr3 (src : Reg) (g : Guest) (hostRsp : UInt64) (mem : Mem)
    (hroom : 120 ≤ hostRsp.toNat) (hhigh : 2 ^ 52 ≤ (g.regs src).toNat) :
    vmexitHandler cpuidCount decode (exitMachine g hostRsp mem) (exitVmcs g (.movToCr .cr3 src)) =
      none := by
  have hsp : (exitMachine g hostRsp mem).regs .rsp = hostRsp := by simp [exitMachine]
  have hpath := vmexitHandler_eq cpuidCount decode (exitMachine g hostRsp mem)
    (exitVmcs g (.movToCr .cr3 src)) (by rw [hsp]; exact hroom)
  simp only [ofRegs_exitMachine, exitVmcs, transmute_reason, Exit.kind, Option.bind_some,
    dispatch, crAccess_movToCr, toRegs_ofRegs, Function.update_eq_self, Cr.field, skipInstruction,
    Vmcs.write_same, guestVirtToGuestPhys_of_high_cr3 hhigh, Option.bind_eq_bind, Option.bind_none,
    Option.map_none] at hpath
  exact Option.map_eq_none_iff.mp hpath

end Panic

/-- A guest with PCIDE set that moves to CR3 from `%rax` its PML4 at `0x1000`
with bit 63 set, so as to keep its TLB entries. -/
def noFlushGuest : Guest :=
  ⟨fun r => if r = .rax then 0x8000_0000_0000_1000 else 0, 0, 0x1000, (1 : UInt64) <<< 17, 0x40_0000⟩

theorem vmexit_handler_panics_at_no_flush :
    120 ≤ (0x10000 : UInt64).toNat ∧ 2 ^ 52 ≤ (noFlushGuest.regs .rax).toNat ∧
      (Exit.apply (fun _ _ => ⟨0, 0, 0, 0⟩) (.movToCr .cr3 .rax) noFlushGuest).cr3 = 0x1000 ∧
      vmexitHandler (fun _ _ => ⟨0, 0, 0, 0⟩) (fun _ => 3) (exitMachine noFlushGuest 0x10000 (fun _ => 0))
        (exitVmcs noFlushGuest (.movToCr .cr3 .rax)) = none :=
  ⟨by decide, by decide, by decide,
    vmexit_handler_panics_on_high_cr3 _ _ .rax noFlushGuest 0x10000 _ (by decide) (by decide)⟩

end Htvmm.Vmx
