import Htvmm.Asm.X86
import Htvmm.Word.Field

/-!
# VMX operation

The VMX instructions of a logical processor at CPL 0, as the pseudocode of
the SDM (Vol. 3C, ch. 31) states them, and the checks of VM entry (ch. 27) on
the control registers, the VMX controls and RFLAGS. A VMCS is known by the
physical address of its region and holds its fields by their 32-bit
encodings. The processor reports its VMX capabilities in the MSRs from
`0x480` and reads IA32_FEATURE_CONTROL (`0x3a`); the MSR file is an argument.

An instruction reports its outcome in RFLAGS (`Outcome.rflags`). `none` is a
fault: #UD outside VMX operation, #GP for the checks of VMXON.

The other checks of VM entry (segment registers, descriptor tables, MSRs,
canonical addresses, the MSR-load areas) are not stated: an entry that passes
the stated ones enters the guest.
-/

namespace X86.Vmx

open Word

/-- How a VMX instruction ends. -/
inductive Outcome where
  /-- VMsucceed. -/
  | succeed
  /-- VMfailInvalid: there is no current VMCS to hold an error number. -/
  | failInvalid
  /-- VMfailValid, with the error number written to the current VMCS. -/
  | failValid (error : Nat)
  deriving DecidableEq, Repr

/-- RFLAGS after an instruction that ends with `o`, from `fl` before: CF, PF,
AF, ZF, SF and OF cleared, then CF (bit 0) set for VMfailInvalid and ZF
(bit 6) for VMfailValid. -/
def Outcome.rflags (o : Outcome) (fl : UInt64) : UInt64 :=
  match o with
  | .succeed => fl &&& ~~~0x8d5
  | .failInvalid => fl &&& ~~~0x8d5 ||| 0x1
  | .failValid _ => fl &&& ~~~0x8d5 ||| 0x40

theorem Outcome.rflags_cf (o : Outcome) (fl : UInt64) :
    o.rflags fl &&& 1 = (if o = .failInvalid then 1 else 0 : UInt64) := by
  have hkept : fl &&& ~~~0x8d5 &&& 1 = 0 := by
    rw [UInt64.and_assoc, show (~~~0x8d5 &&& 1 : UInt64) = 0 by decide, UInt64.and_zero]
  cases o with
  | succeed => simp [rflags, hkept]
  | failInvalid => rw [rflags, or_and_distrib, hkept]; decide
  | failValid n =>
    rw [rflags, or_and_distrib, hkept]
    simp only [reduceCtorEq, if_false]
    decide

theorem Outcome.rflags_zf (o : Outcome) (fl : UInt64) :
    o.rflags fl >>> 6 &&& (1 : UInt64) = if o matches .failValid _ then 1 else 0 := by
  have hshift : ∀ x : UInt64, x >>> 6 &&& (1 : UInt64) = (x &&& 0x40) >>> 6 := fun x => by
    rw [UInt64.shiftRight_and]
    rfl
  have hkept : fl &&& ~~~0x8d5 &&& 0x40 = 0 := by
    rw [UInt64.and_assoc, show (~~~0x8d5 &&& 0x40 : UInt64) = 0 by decide, UInt64.and_zero]
  rw [hshift]
  cases o with
  | succeed => simp [rflags, hkept]
  | failInvalid => rw [rflags, or_and_distrib, hkept]; decide
  | failValid n =>
    rw [rflags, or_and_distrib, hkept]
    simp only [if_true]
    decide

/-- Each instruction clears the same flags before it sets its own, so only
the last outcome shows. -/
theorem Outcome.rflags_rflags (o o' : Outcome) (fl : UInt64) : o.rflags (o'.rflags fl) = o.rflags fl := by
  have hclear : ∀ b : UInt64, b &&& ~~~0x8d5 = 0 → (fl &&& ~~~0x8d5 ||| b) &&& ~~~0x8d5 = fl &&& ~~~0x8d5 := by
    intro b hb
    rw [or_and_distrib, hb, UInt64.or_zero, UInt64.and_assoc, UInt64.and_self]
  cases o' <;> cases o <;>
    simp only [rflags, UInt64.and_assoc, UInt64.and_self, hclear 1 (by decide), hclear 0x40 (by decide)]

/-- The instructions keep the reserved bits of RFLAGS clear and bit 1 set. -/
theorem Outcome.rflags_within (o : Outcome) {fl : UInt64} (hres : Within fl 0x3f_7fd7) (hone : Within 2 fl) :
    Within (o.rflags fl) 0x3f_7fd7 ∧ Within 2 (o.rflags fl) := by
  have hkept : Within (fl &&& ~~~0x8d5) 0x3f_7fd7 := (within_and_left _ _).mono hres
  have hone' : Within 2 (fl &&& ~~~0x8d5) := hone.and (by decide)
  cases o with
  | succeed => exact ⟨hkept, hone'⟩
  | failInvalid => exact ⟨hkept.or (by decide), hone'.mono (within_or_left _ _)⟩
  | failValid n => exact ⟨hkept.or (by decide), hone'.mono (within_or_left _ _)⟩

/-! ## Fields -/

/-- The type of a field, bits 11:10 of its encoding: 0 control, 1 VM-exit
information, 2 guest state, 3 host state. -/
def kind (e : UInt32) : UInt32 := (e >>> 10) &&& 3

/-- The width of a field, bits 14:13: 0 16-bit, 1 64-bit, 2 32-bit,
3 natural width. -/
def width (e : UInt32) : UInt32 := (e >>> 13) &&& 3

/-- What VMWRITE keeps of `v` in the field `e`: as many low bits as the field
has, all 64 for a natural-width field in 64-bit mode. -/
def truncate (e : UInt32) (v : UInt64) : UInt64 :=
  if width e = 0 then v &&& 0xffff else if width e = 2 then v &&& 0xffff_ffff else v

/-- A 64-bit or natural-width field keeps the whole value. -/
theorem truncate_of_wide {e : UInt32} (h0 : width e ≠ 0) (h2 : width e ≠ 2) (v : UInt64) : truncate e v = v := by
  simp [truncate, h0, h2]

theorem truncate_of_within {e : UInt32} (hw : width e = 2) {v : UInt64} (hv : Within v 0xffff_ffff) :
    truncate e v = v := by
  simp only [truncate, hw]
  exact hv

/-- A 16-bit field keeps a 16-bit value. -/
theorem truncate_of_short {e : UInt32} (hw : width e = 0) (s : UInt16) :
    truncate e s.toUInt64 = s.toUInt64 := by
  simp only [truncate, hw, if_true]
  apply UInt64.toNat_inj.mp
  rw [UInt64.toNat_and, UInt16.toNat_toUInt64,
    show (0xffff : UInt64).toNat = 2 ^ 16 - 1 from rfl, Nat.and_two_pow_sub_one_eq_mod,
    Nat.mod_eq_of_lt s.toNat_lt]

/-- The VM-instruction error field. -/
def vmInstructionError : UInt32 := 0x4400

/-- The exit-reason field. -/
def exitReason : UInt32 := 0x4402

/-! ## The processor -/

/-- What a processor's VMX support is beyond its MSRs. -/
structure Caps where
  /-- MAXPHYADDR. -/
  physWidth : Nat
  /-- The encodings of the fields its VMCS has. -/
  supported : UInt32 → Bool

/-- The VMX state of a logical processor. -/
structure Proc where
  /-- The VMXON pointer, in VMX operation. -/
  vmxon : Option Nat
  /-- The current-VMCS pointer, when valid. -/
  current : Option Nat
  /-- The launch state of the VMCS at each address: launched or clear. -/
  launched : Nat → Bool
  /-- The fields of the VMCS at each address. -/
  data : Nat → UInt32 → UInt64

namespace Proc

/-- Field `e` of the VMCS at `v` set to `x`. -/
def set (p : Proc) (v : Nat) (e : UInt32) (x : UInt64) : Proc :=
  { p with data := Function.update p.data v (Function.update (p.data v) e x) }

/-- VMfail(n): VMfailValid with `n` in the current VMCS, or VMfailInvalid
without one. -/
def fail (p : Proc) (n : Nat) : Proc × Outcome :=
  match p.current with
  | some v => (p.set v vmInstructionError (UInt64.ofNat n), .failValid n)
  | none => (p, .failInvalid)

@[simp] theorem set_vmxon (p : Proc) (v e x) : (p.set v e x).vmxon = p.vmxon := rfl
@[simp] theorem set_current (p : Proc) (v e x) : (p.set v e x).current = p.current := rfl
@[simp] theorem set_launched (p : Proc) (v e x) : (p.set v e x).launched = p.launched := rfl

theorem set_data (p : Proc) (v e x w f) :
    (p.set v e x).data w f = if w = v ∧ f = e then x else p.data w f := by
  unfold set
  by_cases hw : w = v
  · subst hw
    by_cases hf : f = e
    · simp [hf]
    · simp [hf]
  · simp [hw]

theorem fail_vmxon (p : Proc) (n : Nat) : (p.fail n).1.vmxon = p.vmxon := by
  unfold fail
  split <;> rfl

theorem fail_current (p : Proc) (n : Nat) : (p.fail n).1.current = p.current := by
  unfold fail
  split <;> rfl

theorem fail_launched (p : Proc) (n : Nat) : (p.fail n).1.launched = p.launched := by
  unfold fail
  split <;> rfl

theorem fail_ne_succeed (p : Proc) (n : Nat) : (p.fail n).2 ≠ .succeed := by
  unfold fail
  split <;> simp

theorem fail_of_current {p : Proc} {v : Nat} (hcur : p.current = some v) (n : Nat) :
    p.fail n = (p.set v vmInstructionError (UInt64.ofNat n), .failValid n) := by
  simp only [fail, hcur]

/-- The fields of `ws` written in order to the VMCS at `v`, each truncated
to its width. -/
def setAll (p : Proc) (v : Nat) (ws : List (UInt32 × UInt64)) : Proc :=
  ws.foldl (fun p w => p.set v w.1 (truncate w.1 w.2)) p

end Proc

/-- The value the last write of `ws` to `e` leaves, if any writes it. -/
def lastWrite (ws : List (UInt32 × UInt64)) (e : UInt32) : Option UInt64 :=
  (ws.reverse.find? (·.1 = e)).map fun w => truncate w.1 w.2

theorem lastWrite_cons (w : UInt32 × UInt64) (ws : List (UInt32 × UInt64)) (e : UInt32) :
    lastWrite (w :: ws) e = (lastWrite ws e).or (if w.1 = e then some (truncate w.1 w.2) else none) := by
  unfold lastWrite
  rw [List.reverse_cons, List.find?_append]
  cases ws.reverse.find? (·.1 = e) with
  | some _ => rfl
  | none =>
    by_cases h : w.1 = e
    · simp [h]
    · simp [h]

theorem lastWrite_append (ws ws' : List (UInt32 × UInt64)) (e : UInt32) :
    lastWrite (ws ++ ws') e = (lastWrite ws' e).or (lastWrite ws e) := by
  unfold lastWrite
  rw [List.reverse_append, List.find?_append]
  cases ws'.reverse.find? (·.1 = e) <;> rfl

/-- A field no write names keeps its value. -/
theorem lastWrite_eq_none {ws : List (UInt32 × UInt64)} {e : UInt32} (h : e ∉ ws.map Prod.fst) :
    lastWrite ws e = none := by
  unfold lastWrite
  rw [Option.map_eq_none_iff, List.find?_eq_none]
  intro w hw hwe
  exact h (List.mem_map.mpr ⟨w, List.mem_reverse.mp hw, of_decide_eq_true hwe⟩)

/-- In a run that writes each field once, a field holds its write. -/
theorem lastWrite_of_nodup {ws : List (UInt32 × UInt64)} {e : UInt32} {x : UInt64}
    (hnd : (ws.map Prod.fst).Nodup) (hmem : (e, x) ∈ ws) : lastWrite ws e = some (truncate e x) := by
  unfold lastWrite
  obtain ⟨w, hw⟩ : ∃ w, ws.reverse.find? (·.1 = e) = some w := by
    cases h : ws.reverse.find? (·.1 = e) with
    | some w => exact ⟨w, rfl⟩
    | none =>
      rw [List.find?_eq_none] at h
      exact absurd (decide_eq_true rfl) (h _ (List.mem_reverse.mpr hmem))
  have hfound := List.find?_some hw
  have hwe : w.1 = e := of_decide_eq_true hfound
  have hwin : w ∈ ws := List.mem_reverse.mp (List.mem_of_find?_eq_some hw)
  rw [hw, List.inj_on_of_nodup_map hnd hwin hmem hwe]
  rfl

namespace Proc

theorem setAll_append (p : Proc) (v : Nat) (ws ws' : List (UInt32 × UInt64)) :
    p.setAll v (ws ++ ws') = (p.setAll v ws).setAll v ws' :=
  List.foldl_append ..

@[simp] theorem setAll_vmxon (p : Proc) (v ws) : (p.setAll v ws).vmxon = p.vmxon := by
  induction ws generalizing p with
  | nil => rfl
  | cons w ws ih => exact ih _

@[simp] theorem setAll_current (p : Proc) (v ws) : (p.setAll v ws).current = p.current := by
  induction ws generalizing p with
  | nil => rfl
  | cons w ws ih => exact ih _

@[simp] theorem setAll_launched (p : Proc) (v ws) : (p.setAll v ws).launched = p.launched := by
  induction ws generalizing p with
  | nil => rfl
  | cons w ws ih => exact ih _

/-- After the writes, a field of the VMCS holds its last write, and every
other VMCS and field is as it was. -/
theorem setAll_data (p : Proc) (v : Nat) (ws : List (UInt32 × UInt64)) (w : Nat) (e : UInt32) :
    (p.setAll v ws).data w e = if w = v then (lastWrite ws e).getD (p.data w e) else p.data w e := by
  induction ws generalizing p with
  | nil => simp [setAll, lastWrite]
  | cons x ws ih =>
    simp only [setAll, List.foldl_cons] at ih ⊢
    rw [ih, lastWrite_cons, set_data]
    by_cases hw : w = v
    · subst hw
      cases lastWrite ws e with
      | some y => simp
      | none =>
        by_cases hx : x.1 = e
        · simp [hx]
        · simp [hx, Ne.symm hx]
    · simp [hw]

end Proc

/-! ## The instructions -/

section Instructions

variable (c : Caps) (msr : UInt32 → UInt64)

/-- A VMXON region or VMCS address the instructions take: 4-KByte aligned
and within the physical-address width. -/
def Caps.validAddr (a : Nat) : Prop := a % 4096 = 0 ∧ a < 2 ^ c.physWidth

instance (a : Nat) : Decidable (c.validAddr a) := inferInstanceAs (Decidable (_ ∧ _))

/-- The first 32 bits of the region at `a` are the VMCS revision identifier,
bits 30:0 of IA32_VMX_BASIC, with bit 31 clear. -/
def revisionOk (m : Mem) (a : Nat) : Prop := m.load a 4 = (msr 0x480 &&& 0x7fff_ffff).toNat

instance (m : Mem) (a : Nat) : Decidable (revisionOk msr m a) :=
  inferInstanceAs (Decidable (_ = _))

/-- CR0 and CR4 hold values VMX operation allows: IA32_VMX_CR0_FIXED0/1 and
IA32_VMX_CR4_FIXED0/1 give the bits fixed to 1 and those allowed to be 1. -/
def crsOk (cr0 cr4 : UInt64) : Prop :=
  Fits (msr 0x486) (msr 0x487) cr0 ∧ Fits (msr 0x488) (msr 0x489) cr4

instance (cr0 cr4 : UInt64) : Decidable (crsOk msr cr0 cr4) :=
  inferInstanceAs (Decidable (_ ∧ _))

/-- IA32_FEATURE_CONTROL is locked and enables VMXON outside SMX operation. -/
def featureOk : Prop := msr 0x3a &&& 1 ≠ 0 ∧ msr 0x3a &&& 4 ≠ 0

instance : Decidable (featureOk msr) := inferInstanceAs (Decidable (_ ∧ _))

/-- VMXON with the region at `a`, under CR0 `cr0` and CR4 `cr4`. -/
def vmxon (cr0 cr4 : UInt64) (m : Mem) (a : Nat) (p : Proc) : Option (Proc × Outcome) :=
  if cr4 &&& 0x2000 = 0 then none
  else match p.vmxon with
  | some _ => some (p.fail 15)
  | none =>
    if crsOk msr cr0 cr4 ∧ featureOk msr then
      if c.validAddr a ∧ revisionOk msr m a then some ({ p with vmxon := some a, current := none }, .succeed)
      else some (p, .failInvalid)
    else none

/-- Outside VMX operation, with CR4.VMXE set, VMXON faults exactly when the
control registers or IA32_FEATURE_CONTROL fail its checks. -/
theorem vmxon_faults_iff {cr0 cr4 : UInt64} {m : Mem} {a : Nat} {p : Proc} (hoff : p.vmxon = none)
    (hvmxe : cr4 &&& 0x2000 ≠ 0) :
    vmxon c msr cr0 cr4 m a p = none ↔ ¬ (crsOk msr cr0 cr4 ∧ featureOk msr) := by
  unfold vmxon
  simp only [if_neg hvmxe, hoff]
  by_cases hok : crsOk msr cr0 cr4 ∧ featureOk msr
  · rw [if_pos hok]
    split <;> simp [hok]
  · simp [hok]

/-- Past its checks, VMXON enters VMX operation with no current VMCS, or
fails for a region it does not take. -/
theorem vmxon_of_ok {cr0 cr4 : UInt64} {m : Mem} {a : Nat} {p : Proc} (hoff : p.vmxon = none)
    (hvmxe : cr4 &&& 0x2000 ≠ 0) (hok : crsOk msr cr0 cr4 ∧ featureOk msr) :
    vmxon c msr cr0 cr4 m a p =
      some (if c.validAddr a ∧ revisionOk msr m a then ({ p with vmxon := some a, current := none }, .succeed)
        else (p, .failInvalid)) := by
  unfold vmxon
  simp only [if_neg hvmxe, hoff, if_pos hok]
  split <;> rfl

/-- VMCLEAR of the VMCS at `a`: its launch state becomes clear, and it stops
being current. -/
def vmclear (a : Nat) (p : Proc) : Option (Proc × Outcome) :=
  p.vmxon.map fun on =>
    if ¬ c.validAddr a then p.fail 2
    else if a = on then p.fail 3
    else ({ p with launched := Function.update p.launched a false,
                   current := if p.current = some a then none else p.current }, .succeed)

/-- VMPTRLD of the VMCS at `a`. -/
def vmptrld (m : Mem) (a : Nat) (p : Proc) : Option (Proc × Outcome) :=
  p.vmxon.map fun on =>
    if ¬ c.validAddr a then p.fail 9
    else if a = on then p.fail 10
    else if ¬ revisionOk msr m a then p.fail 11
    else ({ p with current := some a }, .succeed)

/-- VMREAD of the field `e`, with its value on VMsucceed (otherwise the
destination keeps a value no caller reads, here `0`). -/
def vmread (e : UInt32) (p : Proc) : Option (Proc × Outcome × UInt64) :=
  p.vmxon.map fun _ =>
    match p.current with
    | none => (p, .failInvalid, 0)
    | some v =>
      if c.supported e then (p, .succeed, p.data v e)
      else ((p.fail 12).1, (p.fail 12).2, 0)

/-- VMWRITE of `x` to the field `e`. The VM-exit information fields are
read-only unless IA32_VMX_MISC bit 29 is set. -/
def vmwrite (e : UInt32) (x : UInt64) (p : Proc) : Option (Proc × Outcome) :=
  p.vmxon.map fun _ =>
    match p.current with
    | none => (p, .failInvalid)
    | some v =>
      if ¬ c.supported e then p.fail 12
      else if kind e = 1 ∧ msr 0x485 &&& (bit 29) = 0 then p.fail 13
      else (p.set v e (truncate e x), .succeed)

/-- Bits 31:0 of a VMX capability MSR are the allowed 0-settings of a control
field, bits 63:32 its allowed 1-settings. -/
def Allows (cap v : UInt64) : Prop := Fits (cap &&& 0xffff_ffff) (cap >>> 32) v

instance (cap v : UInt64) : Decidable (Allows cap v) := inferInstanceAs (Decidable (Fits _ _ _))

/-- A capability MSR that allows some setting: every control it requires
set, it allows set. -/
def Consistent (cap : UInt64) : Prop := Within (cap &&& 0xffff_ffff) (cap >>> 32)

instance (cap : UInt64) : Decidable (Consistent cap) := inferInstanceAs (Decidable (Within _ _))

/-- Past the controls a consistent MSR requires, a setting is allowed
exactly when the MSR allows its bits set. -/
theorem Consistent.allows_or_iff {cap : UInt64} (h : Consistent cap) (x : UInt64) :
    Allows cap ((cap &&& 0xffff_ffff) ||| x) ↔ Within x (cap >>> 32) :=
  fits_or_iff h

/-- A consistent MSR allows the controls it requires and no others. -/
theorem Consistent.allows {cap : UInt64} (h : Consistent cap) : Allows cap (cap &&& 0xffff_ffff) := by
  have hzero := (h.allows_or_iff 0).mpr (zero_within _)
  rwa [UInt64.or_zero] at hzero

/-- The checks of VM entry on the VMX controls (SDM 27.2.1.1) this
development states: each control field within its capability MSR, the
secondary controls only when activated, at most four CR3-target values, and a
valid MSR-bitmap address when the MSR bitmaps are used. Failing them is
VM-instruction error 7. -/
def controlsOk (d : UInt32 → UInt64) : Prop :=
  Allows (msr 0x481) (d 0x4000) ∧ Allows (msr 0x482) (d 0x4002) ∧
  (d 0x4002 &&& (bit 31) ≠ 0 → Allows (msr 0x48b) (d 0x401e)) ∧
  Allows (msr 0x483) (d 0x400c) ∧ Allows (msr 0x484) (d 0x4012) ∧
  (d 0x400a).toNat ≤ 4 ∧
  (d 0x4002 &&& (bit 28) ≠ 0 → c.validAddr (d 0x2004).toNat)

instance (d : UInt32 → UInt64) : Decidable (controlsOk c msr d) := by
  unfold controlsOk; infer_instance

/-- The host selector fields: ES, CS, SS, DS, FS, GS and TR. -/
def hostSelectorEncodings : List UInt32 := [0x0c00, 0x0c02, 0x0c04, 0x0c06, 0x0c08, 0x0c0a, 0x0c0c]

/-- The checks of VM entry on the host state (SDM 27.2.2, 27.2.3): the fixed
bits of the control registers, CR0.WP under CR4.CET, CR4.PAE for a 64-bit
host; RPL and TI clear in every selector field, CS and TR not null, and SS not
null for a 32-bit host. Failing them is VM-instruction error 8. -/
def hostOk (d : UInt32 → UInt64) : Prop :=
  Fits (msr 0x486) (msr 0x487) (d 0x6c00) ∧ Fits (msr 0x488) (msr 0x489) (d 0x6c04) ∧
  (d 0x6c04 &&& (bit 23) ≠ 0 → d 0x6c00 &&& (bit 16) ≠ 0) ∧
  (d 0x400c &&& (bit 9) ≠ 0 → d 0x6c04 &&& (bit 5) ≠ 0) ∧
  (∀ e ∈ hostSelectorEncodings, d e &&& 7 = 0) ∧ d 0x0c02 ≠ 0 ∧ d 0x0c0c ≠ 0 ∧
  (d 0x400c &&& (bit 9) = 0 → d 0x0c04 ≠ 0)

instance (d : UInt32 → UInt64) : Decidable (hostOk msr d) := by
  unfold hostOk; infer_instance

/-- The checks of VM entry on the guest's control registers and RFLAGS
(SDM 27.3.1): the fixed bits, CR0.WP under CR4.CET, paging and PAE for an
IA-32e mode guest, RFLAGS with its reserved bits clear and bit 1 set, and
RFLAGS.VM clear for an IA-32e mode guest. Failing them fails the entry. -/
def guestOk (d : UInt32 → UInt64) : Prop :=
  Fits (msr 0x486) (msr 0x487) (d 0x6800) ∧ Fits (msr 0x488) (msr 0x489) (d 0x6804) ∧
  (d 0x6804 &&& (bit 23) ≠ 0 → d 0x6800 &&& (bit 16) ≠ 0) ∧
  (d 0x4012 &&& (bit 9) ≠ 0 → d 0x6800 &&& (bit 31) ≠ 0 ∧ d 0x6804 &&& (bit 5) ≠ 0) ∧
  Within (d 0x6820) 0x3f_7fd7 ∧ d 0x6820 &&& 2 ≠ 0 ∧
  (d 0x4012 &&& (bit 9) ≠ 0 → d 0x6820 &&& (bit 17) = 0)

instance (d : UInt32 → UInt64) : Decidable (guestOk msr d) := by
  unfold guestOk; infer_instance

/-- Whether an exception with vector `vector` (below 32) and error code `ec`
in the guest causes a VM exit (SDM 26.2): bit `vector` of the exception bitmap
decides, and for a page fault whose error code does not match under the mask
its opposite. -/
def exceptionExits (d : UInt32 → UInt64) (vector : Nat) (ec : UInt64) : Bool :=
  let inBitmap := d 0x4004 &&& bit vector != 0
  if vector = 14 then (if ec &&& d 0x4006 == d 0x4008 then inBitmap else !inBitmap) else inBitmap

/-- How VMLAUNCH ends. -/
inductive Launch where
  /-- VMfail: the instruction falls through and RFLAGS reports. -/
  | fail (o : Outcome)
  /-- The guest state fails its checks: the processor loads the host state
  with exit reason 33, bit 31 set. -/
  | entryFailure
  /-- The guest runs. -/
  | entered
  deriving DecidableEq, Repr

/-- VMLAUNCH of the current VMCS. -/
def vmlaunch (p : Proc) : Option (Proc × Launch) :=
  p.vmxon.map fun _ =>
    match p.current with
    | none => (p, .fail .failInvalid)
    | some v =>
      if p.launched v then ((p.fail 4).1, .fail (p.fail 4).2)
      else if ¬ controlsOk c msr (p.data v) then ((p.fail 7).1, .fail (p.fail 7).2)
      else if ¬ hostOk msr (p.data v) then ((p.fail 8).1, .fail (p.fail 8).2)
      else if ¬ guestOk msr (p.data v) then (p.set v exitReason 0x8000_0021, .entryFailure)
      else ({ p with launched := Function.update p.launched v true }, .entered)

variable {c msr} {p p' : Proc}

/-- VMREAD of a field the processor has, from the current VMCS. -/
theorem vmread_of_current {o v : Nat} (hon : p.vmxon = some o) (hcur : p.current = some v) {e : UInt32}
    (hsup : c.supported e = true) : vmread c e p = some (p, .succeed, p.data v e) := by
  simp [vmread, hon, hcur, hsup]

/-- VMLAUNCH of a clear current VMCS whose host and guest state pass: the
guest runs exactly when the controls pass, and VMfailValid(7) otherwise. -/
theorem vmlaunch_of_clear {o v : Nat} (hon : p.vmxon = some o) (hcur : p.current = some v)
    (hclear : p.launched v = false) (hhost : hostOk msr (p.data v)) (hguest : guestOk msr (p.data v)) :
    vmlaunch c msr p = some (if controlsOk c msr (p.data v)
      then ({ p with launched := Function.update p.launched v true }, .entered)
      else ((p.fail 7).1, .fail (p.fail 7).2)) := by
  by_cases hctl : controlsOk c msr (p.data v) <;> simp [vmlaunch, hon, hcur, hclear, hhost, hguest, hctl]

/-- VM entry fails on the guest state only with exit reason 33, bit 31 set,
in the current VMCS. -/
theorem vmlaunch_entryFailure (h : vmlaunch c msr p = some (p', .entryFailure)) :
    ∃ v, p.current = some v ∧ p' = p.set v exitReason 0x8000_0021 := by
  cases hon : p.vmxon with
  | none => simp [vmlaunch, hon] at h
  | some o =>
    cases hcur : p.current with
    | none => simp [vmlaunch, hon, hcur] at h
    | some v =>
      refine ⟨v, rfl, ?_⟩
      simp only [vmlaunch, hon, hcur, Option.map_some, Option.some.injEq] at h
      split_ifs at h <;> simp_all

/-- VMLAUNCH never reports VMsucceed: it enters the guest or fails. -/
theorem vmlaunch_fail_ne_succeed {o : Outcome} (h : vmlaunch c msr p = some (p', .fail o)) : o ≠ .succeed := by
  cases hon : p.vmxon with
  | none => simp [vmlaunch, hon] at h
  | some on =>
    cases hcur : p.current with
    | none =>
      simp only [vmlaunch, hon, hcur, Option.map_some, Option.some.injEq, Prod.mk.injEq, Launch.fail.injEq] at h
      rw [← h.2]
      simp
    | some v =>
      simp only [vmlaunch, hon, hcur, Option.map_some, Option.some.injEq] at h
      split_ifs at h <;> simp only [Prod.mk.injEq, Launch.fail.injEq, reduceCtorEq, and_false] at h <;>
        exact h.2 ▸ Proc.fail_ne_succeed _ _

end Instructions

end X86.Vmx
