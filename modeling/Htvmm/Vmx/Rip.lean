import Htvmm.Vmx.Emulate

/-!
# Skipping the exiting instruction

`handle_vmexit` does not take the length of the exiting instruction from the
VMCS: it translates the guest's `%rip` with `guest_virt_to_guest_phys` under
the guest's CR3 as the handler left it, and decodes the ten bytes from there,
physically contiguous. The processor fetched the instruction before the exit,
byte by byte through the guest's tables under the CR3 then (`fetch`).

`vmexitHandler_rip` says where the guest resumes for every exit the handler
emulates. `vmexit_handler_skips_wrong_length` gives two guests where that is
not past the instruction: a MOV to CR3 that switches address spaces is decoded
again in the new one, and a MOV to CR3 across two pages that are not
physically contiguous is decoded from the bytes after its first part.
-/

namespace Htvmm.Vmx

open X86 Paging Cpu Boot VmExitGeneralPurposeRegister

/-- The `n` bytes from the guest-virtual `va`, as the processor fetches them:
each through the guest's tables from `cr3`. -/
def fetch (mem : Mem) (cr3 va : UInt64) (n : Nat) : Option (List UInt8) :=
  (List.range n).mapM fun k => (Paging.translate .ia32e (tablesOf mem) (tableOf cr3) (va + UInt64.ofNat k)).map mem

section Skip

variable (cpuidCount : UInt32 → UInt32 → CpuidResult) (decode : List UInt8 → Nat)

theorem skipInstruction_of_walk {rip : UInt64} {mem : Mem} {vmcs : Vmcs} {p : PhysAddr}
    (hw : guestVirtToGuestPhys (tablesOf mem) rip (vmcs .guestCr3) = some p) (h0 : p.val ≠ 0)
    (hc : ∀ k < 10, Canonical (p.val.toNat + k))
    (hfit : rip.toNat + decode ((List.range 10).map fun k => mem (p.val.toNat + k)) < 2 ^ 64) :
    skipInstruction decode rip mem vmcs =
      some (vmcs.write .guestRip
        (rip + UInt64.ofNat (decode ((List.range 10).map fun k => mem (p.val.toNat + k))))) := by
  simp only [skipInstruction, hw, decodeOne_eq decode h0 hc, u64Add_ofNat hfit, Option.bind_eq_bind,
    Option.bind_some, Option.pure_def]

/-- The `%rip` the guest resumes at: past as many bytes as `decode` finds at
`p`, where the software walk of `%rip` goes in the memory the exit path leaves,
under the CR3 after the instruction, when `p` is not 0, its ten bytes are
canonical, and the sum does not overflow. -/
theorem vmexitHandler_rip (e : Exit) (g : Guest) (hostRsp : UInt64) (mem frame : Mem) (cr3 : UInt64)
    {p : PhysAddr} (hroom : 120 ≤ hostRsp.toNat)
    (hcr3 : ∀ src, e = .movToCr .cr3 src → (g.regs src).toNat < 2 ^ 52)
    (hframe : (ofRegs (e.apply cpuidCount g).regs).write mem (hostRsp.toNat - 120) = frame)
    (hnew : (e.apply cpuidCount g).cr3 = cr3)
    (hw : guestVirtToGuestPhys (tablesOf frame) g.rip cr3 = some p) (h0 : p.val ≠ 0)
    (hc : ∀ k < 10, Canonical (p.val.toNat + k))
    (hfit : g.rip.toNat + decode ((List.range 10).map fun k => frame (p.val.toNat + k)) < 2 ^ 64) :
    (vmexitHandler cpuidCount decode (exitMachine g hostRsp mem) (exitVmcs g e)).map
        (fun r => (entryGuest r.1 r.2).rip) =
      some (g.rip + UInt64.ofNat (decode ((List.range 10).map fun k => frame (p.val.toNat + k)))) := by
  obtain ⟨vmcs, hguest, hpath⟩ := vmexitHandler_frame cpuidCount decode e g hostRsp mem hroom hcr3
  have hcr3' : vmcs .guestCr3 = cr3 := (congrArg Guest.cr3 hguest).trans hnew
  rw [hframe, skipInstruction_of_walk decode (hcr3' ▸ hw) h0 hc hfit] at hpath
  have hrip := congrArg (Option.map Guest.rip) hpath
  rw [Option.map_map, Option.map_map] at hrip
  exact hrip.trans (by simp [guestOf])

end Skip

/-- Guest memory for a MOV to CR3 that switches address spaces. The tables
from `0x1000` map the 2 MiB page at `0x40_0000` to itself, where
`mov %rax, %cr3` (`0f 22 d8`) is; those from `0x5000` map it to `0x60_0000`,
where a `nop` (`90`) is. -/
def switchMemory : Mem :=
  (((((((Mem.store (fun _ => 0) 0x1000 0x2003 8).store 0x2000 0x3003 8).store 0x3010 0x40_0083 8).store
    0x5000 0x6003 8).store 0x6000 0x7003 8).store 0x7010 0x60_0083 8).store 0x40_0000 0xd8_220f 3).store
    0x60_0000 0x90 1

/-- The guest at the MOV: CR3 at `0x1000`, and `%rax` the new one. -/
def switchGuest : Guest :=
  ⟨fun r => if r = .rax then 0x5000 else 0, 0, 0x1000, 0, 0x40_0000⟩

/-- Guest memory where `mov %rax, %cr3` (`0f 22 d8`) at `0x40_0fff` straddles
two 4 KiB pages: the tables from `0x1000` map the page at `0x40_0000` to
`0x80_0000` and the next one to `0x90_0000`. Physically after the first page
comes `31`, so the ten bytes from `0x80_0fff` begin with `rdtsc` (`0f 31`). -/
def straddleMemory : Mem :=
  (((((((Mem.store (fun _ => 0) 0x1000 0x2003 8).store 0x2000 0x3003 8).store 0x3010 0x4003 8).store
    0x4000 0x80_0003 8).store 0x4008 0x90_0003 8).store 0x80_0fff 0x0f 1).store 0x80_1000 0x31 1).store
    0x90_0000 0xd822 2

/-- The guest at the MOV, at the last byte of its page, reloading its own CR3
from `%rax` to flush its TLB. -/
def straddleGuest : Guest :=
  ⟨fun r => if r = .rax then 0x1000 else 0, 0x8000_0011, 0x1000, 0, 0x40_0fff⟩

theorem vmexit_handler_skips_wrong_length (cpuidCount : UInt32 → UInt32 → CpuidResult)
    (decode : List UInt8 → Nat)
    (hmovCr3 : ∀ rest, decode ([0x0f, 0x22, 0xd8] ++ rest) = 3) (hnop : ∀ rest, decode (0x90 :: rest) = 1)
    (hrdtsc : ∀ rest, decode ([0x0f, 0x31] ++ rest) = 2) :
    (fetch switchMemory switchGuest.cr3 switchGuest.rip 3 = some [0x0f, 0x22, 0xd8] ∧
      decode [0x0f, 0x22, 0xd8] = 3 ∧
      (vmexitHandler cpuidCount decode (exitMachine switchGuest 0x10000 switchMemory)
        (exitVmcs switchGuest (.movToCr .cr3 .rax))).map (fun r => (entryGuest r.1 r.2).rip) =
        some (switchGuest.rip + 1)) ∧
    (fetch straddleMemory straddleGuest.cr3 straddleGuest.rip 3 = some [0x0f, 0x22, 0xd8] ∧
      decode [0x0f, 0x22, 0xd8] = 3 ∧
      (vmexitHandler cpuidCount decode (exitMachine straddleGuest 0x10000 straddleMemory)
        (exitVmcs straddleGuest (.movToCr .cr3 .rax))).map (fun r => (entryGuest r.1 r.2).rip) =
        some (straddleGuest.rip + 2)) := by
  refine ⟨⟨by decide, hmovCr3 [], ?_⟩, ⟨by decide, hmovCr3 [], ?_⟩⟩
  · have hw : guestVirtToGuestPhys (tablesOf ((ofRegs switchGuest.regs).write switchMemory (0x10000 - 120)))
        switchGuest.rip 0x5000 = some ⟨0x60_0000, by decide⟩ := by
      decide +kernel
    have hbytes : (List.range 10).map (fun k => (ofRegs switchGuest.regs).write switchMemory (0x10000 - 120)
        ((⟨0x60_0000, by decide⟩ : PhysAddr).val.toNat + k)) = 0x90 :: List.replicate 9 0 := by
      decide +kernel
    rw [vmexitHandler_rip cpuidCount decode (.movToCr .cr3 .rax) switchGuest 0x10000 switchMemory
      ((ofRegs switchGuest.regs).write switchMemory (0x10000 - 120)) 0x5000 (by decide)
      (fun src h => by cases h; decide +kernel) rfl rfl hw (by decide) (by decide)
      (by rw [hbytes, hnop]; decide), hbytes, hnop]
    rfl
  · have hw : guestVirtToGuestPhys (tablesOf ((ofRegs straddleGuest.regs).write straddleMemory (0x10000 - 120)))
        straddleGuest.rip 0x1000 = some ⟨0x80_0fff, by decide⟩ := by
      decide +kernel
    have hbytes : (List.range 10).map (fun k => (ofRegs straddleGuest.regs).write straddleMemory (0x10000 - 120)
        ((⟨0x80_0fff, by decide⟩ : PhysAddr).val.toNat + k)) = [0x0f, 0x31] ++ List.replicate 8 0 := by
      decide +kernel
    rw [vmexitHandler_rip cpuidCount decode (.movToCr .cr3 .rax) straddleGuest 0x10000 straddleMemory
      ((ofRegs straddleGuest.regs).write straddleMemory (0x10000 - 120)) 0x1000 (by decide)
      (fun src h => by cases h; decide +kernel) rfl rfl hw (by decide) (by decide)
      (by rw [hbytes, hrdtsc]; decide), hbytes, hrdtsc]
    rfl

/-- A decoder that knows the lengths of the three instructions above. -/
def knownLength : List UInt8 → Nat
  | 0x90 :: _ => 1
  | 0x0f :: 0x31 :: _ => 2
  | _ => 3

theorem vmexit_handler_skips_wrong_length_at_known :
    ((∀ rest, knownLength ([0x0f, 0x22, 0xd8] ++ rest) = 3) ∧
      (∀ rest, knownLength (0x90 :: rest) = 1) ∧
      (∀ rest, knownLength ([0x0f, 0x31] ++ rest) = 2)) ∧
    (vmexitHandler (fun _ _ => ⟨0, 0, 0, 0⟩) knownLength
        (exitMachine switchGuest 0x10000 switchMemory) (exitVmcs switchGuest (.movToCr .cr3 .rax))).map
        (fun r => (entryGuest r.1 r.2).rip) = some (switchGuest.rip + 1) ∧
    (vmexitHandler (fun _ _ => ⟨0, 0, 0, 0⟩) knownLength
        (exitMachine straddleGuest 0x10000 straddleMemory) (exitVmcs straddleGuest (.movToCr .cr3 .rax))).map
        (fun r => (entryGuest r.1 r.2).rip) = some (straddleGuest.rip + 2) :=
  have h := vmexit_handler_skips_wrong_length (fun _ _ => ⟨0, 0, 0, 0⟩) knownLength
    (fun _ => rfl) (fun _ => rfl) (fun _ => rfl)
  ⟨⟨fun _ => rfl, fun _ => rfl, fun _ => rfl⟩, h.1.2.2, h.2.2.2⟩

end Htvmm.Vmx
