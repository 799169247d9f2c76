import Htvmm.Asm.Io
import Htvmm.Asm.X86
import Htvmm.Boot.Args
import Htvmm.Loop.ForRange

/-!
# `vmm_main` before the VMX part

`vmm_main` (vmm/src/lib.rs) first zeroes the VMM's `.bss` (`clear_bss`), then
brings up the serial port it logs to: `serial::init` (vmm/src/serial.rs)
masks both 8259As, programs the UART at `COM`, checks it, and routes its
interrupt through the I/O APIC (`ioapic::enable`, vmm/src/ioapic.rs). The log
goes out a byte at a time through `serial::write`.

* `clear_bss_zeroes`: between the 8-aligned `__bss` and `__bss_end` of the
  linker script, `clear_bss` zeroes the `.bss` and nothing else;
* `serial_init_configures`: whatever state the firmware left the UART in,
  `serial::init` sets it to 115200 baud, 8N1, with the received-data
  interrupt on, and routes its IRQ to vector `32 + IRQ` on processor 0;
* `serial_init_misses_absent_uart`: its check for a missing UART, a 16-bit
  read compared with `0xff`, never fires on a missing UART;
* `print_serial_sends`: on the UART `serial::init` leaves, `_print_serial`
  sends the low byte of each character's code point, in order, and changes
  nothing else;
* `serial_log_after_init`: the two in sequence, as `vmm_main` runs them: the
  log goes out on the line `serial::init` configured, which stays configured.
-/

namespace Htvmm.Vmm

open X86 X86.Io Boot Loop

/-! ## `clear_bss` -/

/-- A pass of `clear_bss`'s loop: `write_volatile` of a zero `u64` at
`start + i * 8`. -/
def clearQuad (bss : UInt64) (i : Nat) (m : Mem) : Option Mem := do
  let dst ← u64Add bss (← u64Mul (UInt64.ofNat i) 8)
  pure (m.store dst.toNat 0 8)

/-- `clear_bss`, with `__bss` at `bss` and `__bss_end` at `bssEnd`. -/
def clearBss (bss bssEnd : UInt64) (mem : Mem) : Option Mem := do
  let count := (← u64Sub bssEnd bss) / 8
  forRange 0 count.toNat (clearQuad bss) mem

/-- A pass whose quadword lies below `2^64` stores it. -/
theorem clearQuad_eq {bss : UInt64} {i : Nat} (h : bss.toNat + 8 * i < 2 ^ 64) (m : Mem) :
    clearQuad bss i m = some (m.store (bss.toNat + 8 * i) 0 8) := by
  have hi : (UInt64.ofNat i).toNat * (8 : UInt64).toNat = 8 * i := by
    rw [UInt64.toNat_ofNat', Nat.mod_eq_of_lt (by omega)]
    simp only [UInt64.reduceToNat]
    omega
  have h8 : (UInt64.ofNat (8 * i)).toNat = 8 * i := by
    rw [UInt64.toNat_ofNat']
    omega
  have hdst : (UInt64.ofNat (bss.toNat + 8 * i)).toNat = bss.toNat + 8 * i := by
    rw [UInt64.toNat_ofNat']
    omega
  rw [clearQuad, u64Mul_eq_ofNat (by omega), hi, Option.bind_eq_bind, Option.bind_some,
    u64Add_eq_ofNat (by omega), h8, Option.bind_some, hdst]
  rfl

/-- A pass of the loop zeroes the next quadword of the `.bss`: the invariant
of `clear_bss`, that the first `8 * i` bytes from `__bss` are zero and all
others as they were, goes from `i` to `i + 1`. -/
theorem clearQuad_zeroes {bss : UInt64} {mem m : Mem} {i : Nat}
    (hi : bss.toNat + 8 * (i + 1) < 2 ^ 64)
    (hm : ∀ a, m a = if bss.toNat ≤ a ∧ a < bss.toNat + 8 * i then 0 else mem a) :
    ∃ m', clearQuad bss i m = some m' ∧
      ∀ a, m' a = if bss.toNat ≤ a ∧ a < bss.toNat + 8 * (i + 1) then 0 else mem a := by
  refine ⟨_, clearQuad_eq (by omega) m, fun a => ?_⟩
  rw [Mem.store_zero_apply, hm a, Nat.mul_succ]
  split_ifs <;> first | rfl | omega

/-- **`clear_bss` zeroes the `.bss` and nothing else.** With `__bss` and
`__bss_end` 8-aligned, as htvmm.lds lays them out, `clear_bss` returns, every
byte from `__bss` up to `__bss_end` is 0 and every other byte is as it was:
the stack and the UEFI state `entry` saved, in `.entry`, are kept. -/
theorem clear_bss_zeroes {bss bssEnd : UInt64} (hle : bss ≤ bssEnd)
    (hbss : bss.toNat % 8 = 0) (hend : bssEnd.toNat % 8 = 0) (mem : Mem) :
    ∃ mem', clearBss bss bssEnd mem = some mem' ∧
      ∀ a, mem' a = if bss.toNat ≤ a ∧ a < bssEnd.toNat then 0 else mem a := by
  have hle' := UInt64.le_iff_toNat_le.mp hle
  have hlt := bssEnd.toNat_lt
  have hcount : (UInt64.ofNat (bssEnd.toNat - bss.toNat) / 8).toNat =
      (bssEnd.toNat - bss.toNat) / 8 := by
    rw [UInt64.toNat_div, UInt64.toNat_ofNat', Nat.mod_eq_of_lt (by omega)]
    rfl
  obtain ⟨mem', hrun, hI⟩ : ∃ mem', forRange 0 ((bssEnd.toNat - bss.toNat) / 8) (clearQuad bss) mem =
      some mem' ∧ ∀ a, mem' a = if bss.toNat ≤ a ∧
        a < bss.toNat + 8 * ((bssEnd.toNat - bss.toNat) / 8) then 0 else mem a := forRange_spec
    (fun i (m : Mem) => ∀ a, m a = if bss.toNat ≤ a ∧ a < bss.toNat + 8 * i then 0 else mem a)
    (Nat.zero_le ((bssEnd.toNat - bss.toNat) / 8))
    (fun i m _ hi hm => clearQuad_zeroes (by omega) hm)
    (s := mem) (fun a => by simp)
  refine ⟨mem', ?_, fun a => ?_⟩
  · rw [clearBss, u64Sub_eq_ofNat hle', Option.bind_eq_bind, Option.bind_some]
    dsimp only
    rw [hcount]
    exact hrun
  · rw [hI a]
    congr 2
    apply propext
    omega

theorem clear_bss_zeroes_at_link :
    (0x1_0000_9000 : UInt64) ≤ 0x1_0000_9228 ∧ (0x1_0000_9000 : UInt64).toNat % 8 = 0 ∧
      (0x1_0000_9228 : UInt64).toNat % 8 = 0 ∧
      ∃ mem', clearBss 0x1_0000_9000 0x1_0000_9228 (fun _ => 0xff) = some mem' ∧
        ∀ a, mem' a = if (0x1_0000_9000 : UInt64).toNat ≤ a ∧ a < (0x1_0000_9228 : UInt64).toNat
          then 0 else 0xff :=
  ⟨by decide, by decide, by decide, clear_bss_zeroes (by decide) (by decide) (by decide) _⟩

/-! ## The serial port -/

/-- `COM1`. -/
def COM1 : UInt16 := 0x3f8

/-- `COM2`. -/
def COM2 : UInt16 := 0x2f8

/-- `COM3`. -/
def COM3 : UInt16 := 0x3e8

/-- `COM`: `COM2` when the VMM is built with the `gpd` feature, `COM1`
otherwise. -/
def COM (gpd : Bool) : UInt16 := if gpd then COM2 else COM1

/-- `IRQ4`. -/
def IRQ4 : UInt32 := 4

/-- `IRQ3`. -/
def IRQ3 : UInt32 := 3

/-- `IRQ`: the interrupt line of `COM`. -/
def IRQ (gpd : Bool) : UInt32 := if COM gpd = COM1 ∨ COM gpd = COM3 then IRQ4 else IRQ3

/-- `REG_TABLE`: the first register of the redirection table. -/
def REG_TABLE : UInt32 := 0x10

/-- `T_IRQ0`: the vector of interrupt line 0. -/
def T_IRQ0 : UInt32 := 32

/-- `ioapic::write`: a `write_volatile` of `IoApic { reg, pad: [0; 3], data }`
to the I/O APIC's page, taken as the stores of its five `u32`s in field
order. -/
def ioapicWrite (reg data : UInt32) (a : IoApic) : IoApic :=
  ((((a.store 0 reg).store 4 0).store 8 0).store 0xc 0).store 0x10 data

/-- `ioapic::enable`. -/
def ioapicEnable (irq cpunum : UInt32) (a : IoApic) : IoApic :=
  ioapicWrite (REG_TABLE + 2 * irq + 1) (cpunum <<< 24)
    (ioapicWrite (REG_TABLE + 2 * irq) (T_IRQ0 + irq) a)

/-- The devices `serial::init` reaches. -/
structure Devices where
  ports : Ports
  ioapic : IoApic

/-- The bytes `serial::init` writes before it checks the UART, in order. -/
def initWrites (com : UInt16) : List (UInt16 × UInt8) :=
  [(0xa1, 0xff), (0x21, 0xff),
    (com + 1, 0), (com + 3, 0x80), (com, 1), (com + 1, 0), (com + 3, 0x03), (com + 4, 0x0b),
    (com + 1, 0x01)]

/-- `serial::init`, whose `panic!()` is `none`. `without_interrupts` changes
nothing here: interrupts are off from `efi_main` on. -/
def serialInit (gpd : Bool) (com : UInt16) (d : Devices) : Option Devices :=
  let (lsr, p) := (d.ports.outs (initWrites com)).inw (com + 5)
  if lsr = 0xff then none
  else some ⟨((p.inw (com + 2)).2.inw com).2, ioapicEnable (IRQ gpd) 0 d.ioapic⟩

/-- `serial::write`, with at most `fuel` reads of LSR: it waits for the
transmitter holding register to be empty, then writes `c`. -/
def serialWrite (com : UInt16) (c : UInt8) : Nat → Ports → Option Ports
  | 0, _ => none
  | fuel + 1, p =>
    let (lsr, p) := p.inw (com + 5)
    if (lsr &&& 0b10_0000) >>> 5 != 1 then serialWrite com c fuel p
    else some (p.outb com c)

/-- `_print_serial`: `serial::write(serial::COM, c as u8)` for each character
in turn, each with at most `fuel` reads of LSR. -/
def printSerial (gpd : Bool) (fuel : Nat) : List Char → Ports → Option Ports
  | [], p => some p
  | c :: cs, p => do printSerial gpd fuel cs (← serialWrite (COM gpd) (UInt8.ofNat c.toNat) fuel p)

/-- The UART as `serial::init` leaves it: divisor 1 (115200 baud), 8 data
bits, no parity, one stop bit and DLAB clear, DTR, RTS and OUT2 set, and only
the received-data interrupt enabled. -/
structure SerialConfigured (u : Uart) : Prop where
  divisor : u.dll = 1 ∧ u.dlm = 0
  lineControl : u.lcr = 0x03
  modemControl : u.mcr = 0x0b
  interrupts : u.ier = 0x01

/-! ### The ports of `COM` -/

section Com

variable {gpd : Bool} {p : Ports}

theorem com_toNat (gpd : Bool) : 0xa1 < (COM gpd).toNat ∧ (COM gpd).toNat + 8 < 2 ^ 16 := by
  cases gpd <;> decide

theorem com_add_toNat (gpd : Bool) {k : Nat} (hk : k < 8) :
    (COM gpd + UInt16.ofNat k).toNat = (COM gpd).toNat + k := by
  have := com_toNat gpd
  rw [UInt16.toNat_add, UInt16.toNat_ofNat', Nat.mod_eq_of_lt (by omega : k < 2 ^ 16)]
  omega

/-- The eight ports from `COM` are the UART's registers. -/
theorem com_decodes (hbase : p.base = COM gpd) {k : Nat} (hk : k < 8) :
    p.Decodes (COM gpd + UInt16.ofNat k) k := by
  have hc := com_toNat gpd
  have hport := com_add_toNat gpd hk
  refine ⟨fun h => ?_, fun h => ?_, ?_⟩
  · rw [h] at hport
    simp only [UInt16.reduceToNat] at hport
    omega
  · rw [h] at hport
    simp only [UInt16.reduceToNat] at hport
    omega
  · have hle : p.base ≤ COM gpd + UInt16.ofNat k := by
      rw [hbase, UInt16.le_iff_toNat_le, hport]
      omega
    have hsub : (COM gpd + UInt16.ofNat k - p.base).toNat = k := by
      rw [UInt16.toNat_sub_of_le _ _ hle, hport, hbase]
      omega
    rw [Ports.uartOffset, if_pos ⟨hle, by omega⟩, hsub]

/-- A 16-bit read of two registers of the UART at `COM`. -/
theorem com_inw {u : Uart} (hu : p.uart = some u) (hbase : p.base = COM gpd) {k : Nat}
    (hk : k + 1 < 8) :
    p.inw (COM gpd + UInt16.ofNat k) =
      (UInt16.ofNat ((u.read k).1.toNat + 256 * ((u.read k).2.read (k + 1)).1.toNat),
        { p with uart := some ((u.read k).2.read (k + 1)).2 }) := by
  have hnext : COM gpd + UInt16.ofNat k + 1 = COM gpd + UInt16.ofNat (k + 1) := by
    rw [UInt16.add_assoc, UInt16.ofNat_add]
    rfl
  have h1 := com_decodes hbase hk
  rw [← hnext] at h1
  exact Ports.inw_uart hu (com_decodes hbase (by omega)) h1

end Com

/-! ### What `serial::init` does -/

/-- The UART's part of `initWrites`, by offset from `COM`. -/
def uartInitWrites : List (Nat × UInt8) :=
  [(1, 0), (3, 0x80), (0, 1), (1, 0), (3, 0x03), (4, 0x0b), (1, 0x01)]

theorem initWrites_com (gpd : Bool) :
    initWrites (COM gpd) = [(0xa1, 0xff), (0x21, 0xff)] ++
      uartInitWrites.map fun w => (COM gpd + UInt16.ofNat w.1, w.2) := by
  cases gpd <;> rfl

/-- Whatever DLAB the firmware left, the writes end in the same registers,
and send nothing: the write to offset 0 comes with DLAB set. With DLAB
already set, the first write of 0 to offset 1, which serial.rs comments as
disabling all interrupts, lands in DLM, and IER keeps the firmware's value
until the last write. -/
theorem writes_uartInitWrites (u : Uart) :
    u.writes uartInitWrites =
      { u with ier := 0x01, lcr := 0x03, mcr := 0x0b, dll := 1, dlm := 0 } := by
  cases hd : u.dlab
  · simp +decide [uartInitWrites, Uart.writes, hd, Uart.write]
  · simp +decide [uartInitWrites, Uart.writes, hd, Uart.write]

theorem ioapicWrite_regs (reg data : UInt32) (a : IoApic) :
    (ioapicWrite reg data a).regs = Function.update a.regs reg data := by
  rw [ioapicWrite, IoApic.store_window, IoApic.store_reserved _ 0xc (by decide) (by decide),
    IoApic.store_reserved _ 8 (by decide) (by decide), IoApic.store_reserved _ 4 (by decide) (by decide),
    IoApic.store_select]

theorem redirection_ioapicEnable (gpd : Bool) (a : IoApic) :
    (ioapicEnable (IRQ gpd) 0 a).redirection (IRQ gpd) =
      ⟨T_IRQ0 + IRQ gpd, 0, false, false, false, false, 0⟩ := by
  have hregs : (ioapicEnable (IRQ gpd) 0 a).regs = Function.update
      (Function.update a.regs (REG_TABLE + 2 * IRQ gpd) (T_IRQ0 + IRQ gpd))
      (REG_TABLE + 2 * IRQ gpd + 1) ((0 : UInt32) <<< 24) := by
    rw [ioapicEnable, ioapicWrite_regs, ioapicWrite_regs]
  unfold IoApic.redirection
  rw [hregs]
  cases gpd <;> simp +decide [IRQ, IRQ3, IRQ4, REG_TABLE, T_IRQ0]

theorem offsets_lt : ∀ w ∈ uartInitWrites, w.1 < 8 := by decide

/-- The first two writes of `serial::init` mask both 8259As. -/
theorem outs_pic (p : Ports) :
    p.outs [(0xa1, 0xff), (0x21, 0xff)] = { p with slaveImr := 0xff, masterImr := 0xff } := by
  simp only [Ports.outs, Ports.outb_slave, Ports.outb_master]

/-- What the writes of `serial::init` leave: both interrupt controllers
masked and the UART's registers set. -/
theorem outs_initWrites {gpd : Bool} {p : Ports} {u : Uart} (hu : p.uart = some u)
    (hbase : p.base = COM gpd) :
    p.outs (initWrites (COM gpd)) =
      { p with
        slaveImr := 0xff
        masterImr := 0xff
        uart := some { u with ier := 0x01, lcr := 0x03, mcr := 0x0b, dll := 1, dlm := 0 } } := by
  set p₀ : Ports := { p with slaveImr := 0xff, masterImr := 0xff }
  have hws : ∀ w ∈ uartInitWrites, p₀.Decodes (p₀.base + UInt16.ofNat w.1) w.1 := by
    intro w hw
    rw [show p₀.base = COM gpd from hbase]
    exact com_decodes (p := p₀) hbase (offsets_lt w hw)
  rw [initWrites_com, Ports.outs_append, outs_pic, show COM gpd = p₀.base from hbase.symm,
    Ports.outs_uart (p := p₀) hu uartInitWrites hws, writes_uartInitWrites]

/-- What `serial::init` computes on a UART at `COM`: it panics on the word
`0xff` from LSR and MSR, and otherwise leaves the registers the writes set,
with LSR read once; the reads of IIR and RBR change nothing. -/
theorem serialInit_eq {gpd : Bool} {d : Devices} {u : Uart}
    (hu : d.ports.uart = some u) (hbase : d.ports.base = COM gpd) :
    serialInit gpd (COM gpd) d =
      if u.lsr u.polls = 0xff ∧ u.msr = 0 then none
      else some ⟨{ d.ports with
        slaveImr := 0xff
        masterImr := 0xff
        uart := some { u with
          ier := 0x01
          lcr := 0x03
          mcr := 0x0b
          dll := 1
          dlm := 0
          polls := u.polls + 1 } }, ioapicEnable (IRQ gpd) 0 d.ioapic⟩ := by
  set u₁ : Uart := { u with ier := 0x01, lcr := 0x03, mcr := 0x0b, dll := 1, dlm := 0 }
  set u₂ : Uart := { u₁ with polls := u.polls + 1 }
  set p₁ : Ports := { d.ports with slaveImr := 0xff, masterImr := 0xff, uart := some u₁ }
  set p₂ : Ports := { p₁ with uart := some u₂ }
  have hlsr : p₁.inw (COM gpd + 5) =
      (UInt16.ofNat ((u.lsr u.polls).toNat + 256 * u.msr.toNat), p₂) :=
    com_inw (p := p₁) (u := u₁) rfl hbase (k := 5) (by omega)
  have hiir : (p₂.inw (COM gpd + 2)).2 = p₂ :=
    (congrArg Prod.snd (com_inw (p := p₂) (u := u₂) rfl hbase (k := 2) (by omega))).trans rfl
  have hrbr : (p₂.inw (COM gpd)).2 = p₂ := by
    have h := com_inw (u := u₂) (p := p₂) rfl hbase (k := 0) (by omega)
    rw [show COM gpd + UInt16.ofNat 0 = COM gpd from UInt16.add_zero _] at h
    exact (congrArg Prod.snd h).trans rfl
  have hw : d.ports.outs (initWrites (COM gpd)) = p₁ := outs_initWrites hu hbase
  simp only [serialInit, hw, hlsr, word_eq_ff_iff, hiir, hrbr]

/-- **`serial::init` configures the UART and routes its interrupt.** Whatever
state the firmware left the UART at `COM` in, `serial::init` panics exactly
when its 16-bit read of LSR gives `0xff` (LSR `0xff` and MSR 0). Otherwise it
leaves both 8259As masked; the UART at 115200 baud, 8N1, with only the
received-data interrupt on, having sent nothing and read LSR once; and the
I/O APIC delivering `IRQ` as vector `32 + IRQ`, fixed, edge-triggered, active
high and unmasked, to processor 0. -/
theorem serial_init_configures (gpd : Bool) (d : Devices) {u : Uart}
    (hu : d.ports.uart = some u) (hbase : d.ports.base = COM gpd) :
    ∃ d', serialInit gpd (COM gpd) d =
        (if u.lsr u.polls = 0xff ∧ u.msr = 0 then none else some d') ∧
      d'.ports.masterImr = 0xff ∧ d'.ports.slaveImr = 0xff ∧
      (∃ u', d'.ports.uart = some u' ∧ SerialConfigured u' ∧ u'.sent = u.sent ∧
        u'.polls = u.polls + 1) ∧
      d'.ioapic.redirection (IRQ gpd) = ⟨T_IRQ0 + IRQ gpd, 0, false, false, false, false, 0⟩ := by
  refine ⟨_, serialInit_eq hu hbase, rfl, rfl, ⟨_, rfl, ⟨⟨rfl, rfl⟩, rfl, rfl, rfl⟩, rfl, rfl⟩,
    redirection_ioapicEnable gpd _⟩

/-- A UART as the firmware may leave it: DLAB set, the line idle (LSR `0x60`). -/
def firmwareUart : Uart := ⟨0, 0, 1, 0x83, 0x03, 0x0c, 0, fun _ => 0x60, 0, 0xb0, 0, []⟩

/-- The devices with that UART at `COM1`. -/
def firmwareDevices : Devices := ⟨⟨0xb8, 0x8e, COM1, some firmwareUart⟩, ⟨0, fun _ => 0x1_0000⟩⟩

theorem serial_init_configures_at_firmware :
    firmwareDevices.ports.uart = some firmwareUart ∧ firmwareDevices.ports.base = COM false ∧
      ∃ d', serialInit false (COM false) firmwareDevices =
          (if firmwareUart.lsr firmwareUart.polls = 0xff ∧ firmwareUart.msr = 0 then none
            else some d') ∧
        d'.ports.masterImr = 0xff ∧ d'.ports.slaveImr = 0xff ∧
        (∃ u', d'.ports.uart = some u' ∧ SerialConfigured u' ∧ u'.sent = firmwareUart.sent ∧
          u'.polls = firmwareUart.polls + 1) ∧
        d'.ioapic.redirection (IRQ false) =
          ⟨T_IRQ0 + IRQ false, 0, false, false, false, false, 0⟩ :=
  ⟨rfl, rfl, serial_init_configures false firmwareDevices rfl rfl⟩

/-- **The check for a missing UART never fires.** With no UART at `COM`, the
byte at `COM + 5` reads `0xff`, the value the check compares with, yet
`serial::init` returns: its read of LSR is 16 bits wide and gives `0xffff`. -/
theorem serial_init_misses_absent_uart (gpd : Bool) (d : Devices) (hu : d.ports.uart = none) :
    (d.ports.inb (COM gpd + 5)).1 = 0xff ∧ ∃ d', serialInit gpd (COM gpd) d = some d' := by
  set p₀ : Ports := { d.ports with slaveImr := 0xff, masterImr := 0xff }
  have hmiss : ∀ k < 8, COM gpd + UInt16.ofNat k ≠ 0x21 ∧ COM gpd + UInt16.ofNat k ≠ 0xa1 := by
    cases gpd <;> decide
  have hlsr : COM gpd + 5 ≠ 0x21 ∧ COM gpd + 5 ≠ 0xa1 ∧
      COM gpd + 5 + 1 ≠ 0x21 ∧ COM gpd + 5 + 1 ≠ 0xa1 := by
    cases gpd <;> decide
  have huart : p₀.outs (uartInitWrites.map fun w => (COM gpd + UInt16.ofNat w.1, w.2)) = p₀ := by
    refine Ports.outs_absent (p := p₀) hu _ fun w hw => ?_
    obtain ⟨w', hw', rfl⟩ := List.mem_map.1 hw
    exact hmiss w'.1 (offsets_lt w' hw')
  have hread : p₀.inw (COM gpd + 5) = (0xffff, p₀) :=
    Ports.inw_absent hu hlsr.1 hlsr.2.1 hlsr.2.2.1 hlsr.2.2.2
  have hw : d.ports.outs (initWrites (COM gpd)) = p₀ := by
    rw [initWrites_com, Ports.outs_append, outs_pic, huart]
  refine ⟨by rw [Ports.inb_absent hu hlsr.1 hlsr.2.1], ?_⟩
  simp only [serialInit, hw, hread]
  exact ⟨_, if_neg (by decide)⟩

/-- The devices with no UART at `COM1`. -/
def noUartDevices : Devices := ⟨⟨0xb8, 0x8e, COM1, none⟩, ⟨0, fun _ => 0x1_0000⟩⟩

theorem serial_init_misses_absent_uart_at_no_uart :
    noUartDevices.ports.uart = none ∧
      (noUartDevices.ports.inb (COM false + 5)).1 = 0xff ∧
      ∃ d', serialInit false (COM false) noUartDevices = some d' :=
  ⟨rfl, serial_init_misses_absent_uart false noUartDevices rfl⟩

/-! ### What `serial::write` and `_print_serial` do -/

section Write

variable {gpd : Bool} {c : UInt8} {p : Ports} {u : Uart}

/-- One pass of `serial::write`'s loop: it reads LSR (and MSR above it) and
stops when THRE is set. -/
theorem serialWrite_step (hu : p.uart = some u) (hbase : p.base = COM gpd) (fuel : Nat) :
    serialWrite (COM gpd) c (fuel + 1) p =
      if Uart.thre (u.lsr u.polls) then
        some (({ p with uart := some { u with polls := u.polls + 1 } } : Ports).outb (COM gpd) c)
      else serialWrite (COM gpd) c fuel { p with uart := some { u with polls := u.polls + 1 } } := by
  have hlsr : p.inw (COM gpd + 5) = (UInt16.ofNat ((u.lsr u.polls).toNat + 256 * u.msr.toNat),
      { p with uart := some { u with polls := u.polls + 1 } }) :=
    com_inw hu hbase (k := 5) (by omega)
  rw [serialWrite, hlsr]
  simp only [word_bit5]
  cases Uart.thre (u.lsr u.polls) <;> rfl

/-- With DLAB clear, a write to `COM` hands the byte to the transmitter. -/
theorem outb_com (hu : p.uart = some u) (hbase : p.base = COM gpd) (hd : u.dlab = false) :
    p.outb (COM gpd) c = { p with uart := some { u with sent := u.sent ++ [c] } } := by
  have h0 := com_decodes hbase (k := 0) (by omega)
  rw [show COM gpd + UInt16.ofNat 0 = COM gpd from UInt16.add_zero _] at h0
  rw [Ports.outb_uart hu h0, Uart.write_thr hd]

/-- **`serial::write` sends its byte once THRE is set.** If LSR shows THRE at
one of the next `fuel` reads, `serial::write` returns, having read LSR up to the
first such read and sent `c`, and nothing else of the UART changes. -/
theorem serialWrite_of_ready (hu : p.uart = some u) (hbase : p.base = COM gpd)
    (hd : u.dlab = false) {k fuel : Nat} (hk : k < fuel) (hready : Uart.thre (u.lsr (u.polls + k))) :
    ∃ j ≤ k, serialWrite (COM gpd) c fuel p =
      some { p with uart := some { u with polls := u.polls + j + 1, sent := u.sent ++ [c] } } := by
  induction k generalizing fuel p u with
  | zero =>
    obtain ⟨fuel, rfl⟩ := Nat.exists_eq_add_of_lt hk
    rw [Nat.add_zero] at hready
    refine ⟨0, le_rfl, ?_⟩
    rw [Nat.zero_add, serialWrite_step hu hbase, if_pos hready,
      outb_com (p := { p with uart := some { u with polls := u.polls + 1 } }) rfl hbase hd]
  | succ k ih =>
    obtain ⟨fuel, rfl⟩ := Nat.exists_eq_add_of_lt (Nat.zero_lt_of_lt hk)
    rw [Nat.zero_add, serialWrite_step hu hbase]
    by_cases hnow : Uart.thre (u.lsr u.polls)
    · refine ⟨0, Nat.zero_le _, ?_⟩
      rw [if_pos hnow, outb_com (p := { p with uart := some { u with polls := u.polls + 1 } }) rfl
        hbase hd]
    · rw [if_neg hnow]
      have hready' : Uart.thre (u.lsr (u.polls + 1 + k)) := by
        rwa [Nat.add_assoc, Nat.add_comm 1 k]
      obtain ⟨j, hj, hrun⟩ := ih (p := { p with uart := some { u with polls := u.polls + 1 } })
        rfl hbase hd (show k < fuel by omega) hready'
      refine ⟨j + 1, by omega, ?_⟩
      rw [hrun, show u.polls + 1 + j + 1 = u.polls + (j + 1) + 1 by omega]

/-- `_print_serial` on a UART at `COM` with DLAB clear: each character's
low byte is sent in turn, and only the count of LSR reads changes besides. -/
theorem printSerial_of_ready (fuel : Nat) (s : List Char) (hu : p.uart = some u)
    (hbase : p.base = COM gpd) (hd : u.dlab = false)
    (hready : ∀ n, ∃ k < fuel, Uart.thre (u.lsr (n + k))) :
    ∃ polls, printSerial gpd fuel s p =
      some { p with
        uart := some { u with
          polls := polls
          sent := u.sent ++ s.map fun c => UInt8.ofNat c.toNat } } := by
  induction s generalizing p u with
  | nil => exact ⟨u.polls, by rw [printSerial, List.map_nil, List.append_nil, ← hu]⟩
  | cons c cs ih =>
    obtain ⟨k, hk, hk'⟩ := hready u.polls
    obtain ⟨j, -, hw⟩ := serialWrite_of_ready (c := UInt8.ofNat c.toNat) hu hbase hd hk hk'
    obtain ⟨polls, hrest⟩ := ih (p := { p with
      uart := some { u with
        polls := u.polls + j + 1
        sent := u.sent ++ [UInt8.ofNat c.toNat] } }) rfl hbase hd hready
    refine ⟨polls, ?_⟩
    rw [printSerial, hw]
    show printSerial gpd fuel cs _ = _
    rw [hrest, List.map_cons, List.append_assoc, List.singleton_append]

end Write

/-- **`_print_serial` sends the text's bytes in order.** With the UART at
`COM` and DLAB clear, as `serial::init` leaves it, and LSR showing THRE within
every `fuel` reads, `_print_serial` returns with the UART having sent exactly
`c as u8` for each character `c` of the text, in order, and no other register
of it or of the ports changed. -/
theorem print_serial_sends (gpd : Bool) (fuel : Nat) (s : List Char) {p : Ports} {u : Uart}
    (hu : p.uart = some u) (hbase : p.base = COM gpd) (hd : u.dlab = false)
    (hready : ∀ n, ∃ k < fuel, Uart.thre (u.lsr (n + k))) :
    ∃ polls, printSerial gpd fuel s p =
      some { p with
        uart := some { u with
          polls := polls
          sent := u.sent ++ s.map fun c => UInt8.ofNat c.toNat } } :=
  printSerial_of_ready fuel s hu hbase hd hready

/-- A UART as `serial::init` leaves it, on a line that is always ready. -/
def configuredUart : Uart := ⟨0, 0x01, 0xc1, 0x03, 0x0b, 1, 0, fun _ => 0x60, 1, 0xb0, 0, []⟩

/-- The ports with that UART at `COM1`. -/
def configuredPorts : Ports := ⟨0xff, 0xff, COM1, some configuredUart⟩

theorem print_serial_sends_at_configured :
    configuredPorts.uart = some configuredUart ∧ configuredPorts.base = COM false ∧
      configuredUart.dlab = false ∧
      (∀ n, ∃ k < 1, Uart.thre (configuredUart.lsr (n + k))) ∧
      ∃ polls, printSerial false 1 ['o', 'k'] configuredPorts =
        some { configuredPorts with
          uart := some { configuredUart with
            polls := polls
            sent := configuredUart.sent ++ ['o', 'k'].map fun c => UInt8.ofNat c.toNat } } :=
  have hready : ∀ n, ∃ k < 1, Uart.thre (configuredUart.lsr (n + k)) := fun _ => ⟨0, by decide, by simp +decide [configuredUart, Uart.thre]⟩
  ⟨rfl, rfl, rfl, hready, print_serial_sends false 1 ['o', 'k'] rfl rfl rfl hready⟩

/-- **After `serial::init`, the log goes out on the line it configured.** If
`serial::init` returns on the UART the firmware left at `COM`, and LSR shows
THRE within every `fuel` reads, then `_print_serial` sends `c as u8` for each
character `c` of the text, in order, after what the UART had sent before, and
the UART stays as `serial::init` configured it. -/
theorem serial_log_after_init (gpd : Bool) (d d' : Devices) {u : Uart}
    (hu : d.ports.uart = some u) (hbase : d.ports.base = COM gpd)
    (hinit : serialInit gpd (COM gpd) d = some d') {fuel : Nat}
    (hready : ∀ n, ∃ k < fuel, Uart.thre (u.lsr (n + k))) (s : List Char) :
    ∃ p u', printSerial gpd fuel s d'.ports = some p ∧ p.uart = some u' ∧ SerialConfigured u' ∧
      u'.sent = u.sent ++ s.map fun c => UInt8.ofNat c.toNat := by
  set u₁ : Uart := { u with
    ier := 0x01
    lcr := 0x03
    mcr := 0x0b
    dll := 1
    dlm := 0
    polls := u.polls + 1 }
  set p₁ : Ports := { d.ports with slaveImr := 0xff, masterImr := 0xff, uart := some u₁ }
  rw [serialInit_eq hu hbase] at hinit
  split_ifs at hinit with hpanic
  obtain rfl := Option.some.inj hinit
  obtain ⟨polls, hrun⟩ := printSerial_of_ready (p := p₁) (u := u₁) fuel s rfl hbase
    (by simp +decide [u₁, Uart.dlab]) hready
  exact ⟨_, _, hrun, rfl, ⟨⟨rfl, rfl⟩, rfl, rfl, rfl⟩, rfl⟩

/-- The devices as `serial::init` leaves `firmwareDevices`. -/
def initializedDevices : Devices :=
  ⟨⟨0xff, 0xff, COM1, some { firmwareUart with
    ier := 0x01
    lcr := 0x03
    mcr := 0x0b
    dll := 1
    dlm := 0
    polls := 1 }⟩, ioapicEnable (IRQ false) 0 firmwareDevices.ioapic⟩

theorem serial_log_after_init_at_firmware :
    firmwareDevices.ports.uart = some firmwareUart ∧ firmwareDevices.ports.base = COM false ∧
      serialInit false (COM false) firmwareDevices = some initializedDevices ∧
      (∀ n, ∃ k < 1, Uart.thre (firmwareUart.lsr (n + k))) ∧
      ∃ p u', printSerial false 1 ['o', 'k'] initializedDevices.ports = some p ∧
        p.uart = some u' ∧ SerialConfigured u' ∧
        u'.sent = firmwareUart.sent ++ ['o', 'k'].map fun c => UInt8.ofNat c.toNat :=
  have hinit : serialInit false (COM false) firmwareDevices = some initializedDevices := by
    rw [serialInit_eq rfl rfl, if_neg (by decide)]
    rfl
  have hready : ∀ n, ∃ k < 1, Uart.thre (firmwareUart.lsr (n + k)) :=
    fun _ => ⟨0, by decide, by simp +decide [firmwareUart, Uart.thre]⟩
  ⟨rfl, rfl, hinit, hready,
    serial_log_after_init false firmwareDevices initializedDevices rfl rfl hinit hready ['o', 'k']⟩

end Htvmm.Vmm
