import Htvmm.Word.Field

/-!
# Port I/O and the legacy devices behind it

The devices a kernel sets up first on a PC, as their data sheets describe
them: the interrupt mask registers of the two 8259A interrupt controllers
(ports `0x21` and `0xa1`), a 16550A UART at a base port, and an I/O APIC,
whose registers are reached through a select register (IOREGSEL, at offset
0 of its page) and a window (IOWIN, at offset `0x10`).

Port I/O is byte-wide: a 16-bit `in` from port `p` reads `p` and then
`p + 1`, and the two bytes make the word, low byte first. A port no device
decodes reads all ones and ignores writes.

Of the UART's registers, only a read of the line status register has an
effect here: the line status at each read is an input (the transmitter and
the line change it), and a read moves on to the next. The reads that clear
pending interrupts (RBR, IIR, MSR) keep their values.
-/

namespace X86.Io

/-- A 16550A UART. -/
structure Uart where
  /-- The receiver buffer register. -/
  rbr : UInt8
  /-- The interrupt enable register. -/
  ier : UInt8
  /-- The interrupt identification register. -/
  iir : UInt8
  /-- The line control register; bit 7 is DLAB. -/
  lcr : UInt8
  /-- The modem control register. -/
  mcr : UInt8
  /-- The divisor latch, low and high byte. -/
  dll : UInt8
  dlm : UInt8
  /-- The line status register at the `n`-th read. -/
  lsr : Nat → UInt8
  /-- How many times the line status register has been read. -/
  polls : Nat
  /-- The modem status register. -/
  msr : UInt8
  /-- The scratch register. -/
  scr : UInt8
  /-- The bytes the transmitter has been given, in order. -/
  sent : List UInt8

namespace Uart

/-- The divisor latch access bit, LCR bit 7: offsets 0 and 1 reach the divisor. -/
def dlab (u : Uart) : Bool := u.lcr &&& 0x80 != 0

/-- A write to the register at `offset`: THR (which sends the byte) or DLL at
0, IER or DLM at 1, LCR, MCR and SCR. FCR (at 2) is not modelled; LSR and
MSR are read-only. -/
def write (u : Uart) (offset : Nat) (v : UInt8) : Uart :=
  match offset with
  | 0 => if u.dlab then { u with dll := v } else { u with sent := u.sent ++ [v] }
  | 1 => if u.dlab then { u with dlm := v } else { u with ier := v }
  | 3 => { u with lcr := v }
  | 4 => { u with mcr := v }
  | 7 => { u with scr := v }
  | _ => u

/-- A read of the register at `offset`. -/
def read (u : Uart) (offset : Nat) : UInt8 × Uart :=
  match offset with
  | 0 => (if u.dlab then u.dll else u.rbr, u)
  | 1 => (if u.dlab then u.dlm else u.ier, u)
  | 2 => (u.iir, u)
  | 3 => (u.lcr, u)
  | 4 => (u.mcr, u)
  | 5 => (u.lsr u.polls, { u with polls := u.polls + 1 })
  | 6 => (u.msr, u)
  | _ => (u.scr, u)

/-- LSR bit 5: the transmitter holding register is empty. -/
def thre (lsr : UInt8) : Bool := lsr.toNat.testBit 5

/-- Writes to the registers at the offsets, in order. -/
def writes (u : Uart) : List (Nat × UInt8) → Uart
  | [] => u
  | (o, v) :: ws => (u.write o v).writes ws

end Uart

/-- The I/O ports: the two interrupt mask registers, and a UART at `base`
when there is one. -/
structure Ports where
  masterImr : UInt8
  slaveImr : UInt8
  base : UInt16
  uart : Option Uart

namespace Ports

/-- The register of the UART `port` selects, if it is one of its eight. -/
def uartOffset (p : Ports) (port : UInt16) : Option Nat :=
  if p.base ≤ port ∧ (port - p.base).toNat < 8 then some (port - p.base).toNat else none

/-- `out` of a byte. -/
def outb (p : Ports) (port : UInt16) (v : UInt8) : Ports :=
  if port = 0x21 then { p with masterImr := v }
  else if port = 0xa1 then { p with slaveImr := v }
  else match p.uart, p.uartOffset port with
    | some u, some o => { p with uart := some (u.write o v) }
    | _, _ => p

/-- `in` of a byte. -/
def inb (p : Ports) (port : UInt16) : UInt8 × Ports :=
  if port = 0x21 then (p.masterImr, p)
  else if port = 0xa1 then (p.slaveImr, p)
  else match p.uart, p.uartOffset port with
    | some u, some o =>
      let (v, u') := u.read o
      (v, { p with uart := some u' })
    | _, _ => (0xff, p)

/-- `in` of a word: the bytes at `port` and `port + 1`, low byte first. -/
def inw (p : Ports) (port : UInt16) : UInt16 × Ports :=
  let (lo, p) := p.inb port
  let (hi, p) := p.inb (port + 1)
  (UInt16.ofNat (lo.toNat + 256 * hi.toNat), p)

/-- `out` of bytes, in order. -/
def outs (p : Ports) : List (UInt16 × UInt8) → Ports
  | [] => p
  | (port, v) :: ws => (p.outb port v).outs ws

end Ports

/-- An I/O APIC: its select register and the registers behind the window. -/
structure IoApic where
  ioregsel : UInt32
  regs : UInt32 → UInt32

namespace IoApic

/-- A 32-bit store at `offset` in the I/O APIC's page: IOREGSEL at 0, IOWIN
at `0x10`; the others are reserved. -/
def store (a : IoApic) (offset : Nat) (v : UInt32) : IoApic :=
  if offset = 0 then { a with ioregsel := v }
  else if offset = 0x10 then { a with regs := Function.update a.regs a.ioregsel v }
  else a

/-- An entry of the redirection table, by the fields of its two registers. -/
structure Redirection where
  vector : UInt32
  deliveryMode : UInt32
  logicalDestination : Bool
  activeLow : Bool
  levelTriggered : Bool
  masked : Bool
  destination : UInt32
  deriving DecidableEq, Repr

/-- The redirection entry of input `irq`: the registers `0x10 + 2 * irq`
(bits 31:0) and the one after (bits 63:32). -/
def redirection (a : IoApic) (irq : UInt32) : Redirection :=
  let lo := a.regs (0x10 + 2 * irq)
  let hi := a.regs (0x10 + 2 * irq + 1)
  { vector := lo &&& 0xff
    deliveryMode := (lo >>> 8) &&& 7
    logicalDestination := lo &&& 0x800 != 0
    activeLow := lo &&& 0x2000 != 0
    levelTriggered := lo &&& 0x8000 != 0
    masked := lo &&& 0x1_0000 != 0
    destination := hi >>> 24 }

end IoApic

/-! ## Reading words -/

theorem word_toNat (lo hi : UInt8) :
    (UInt16.ofNat (lo.toNat + 256 * hi.toNat)).toNat = lo.toNat + 256 * hi.toNat := by
  have := lo.toNat_lt
  have := hi.toNat_lt
  rw [UInt16.toNat_ofNat']
  omega

/-- The word is `0xff` exactly when the low byte is and the high byte is 0. -/
theorem word_eq_ff_iff (lo hi : UInt8) :
    UInt16.ofNat (lo.toNat + 256 * hi.toNat) = 0xff ↔ lo = 0xff ∧ hi = 0 := by
  rw [← UInt16.toNat_inj, word_toNat, ← UInt8.toNat_inj, ← UInt8.toNat_inj]
  simp only [UInt16.reduceToNat, UInt8.reduceToNat]
  have := lo.toNat_lt
  omega

/-- Bit 5 of the word is bit 5 of its low byte. -/
theorem word_bit5 (lo hi : UInt8) :
    (UInt16.ofNat (lo.toNat + 256 * hi.toNat) &&& 0b10_0000) >>> 5 =
      if Uart.thre lo then 1 else 0 := by
  have hlo := lo.toNat_lt
  rw [← UInt16.toNat_inj, UInt16.toNat_shiftRight, UInt16.toNat_and, word_toNat,
    Nat.shiftRight_and_distrib]
  simp only [UInt16.reduceToNat, Nat.reduceMod, Nat.reduceShiftRight]
  rw [Nat.and_one_is_mod, Nat.shiftRight_eq_div_pow, Uart.thre, Nat.testBit_eq_decide_div_mod_eq]
  split_ifs with h <;> simp at h ⊢ <;> omega

/-! ## The UART's registers -/

namespace Uart

variable {u : Uart} {v : UInt8}

theorem write_thr (h : u.dlab = false) : u.write 0 v = { u with sent := u.sent ++ [v] } := by
  simp [write, h]

/-- DLAB of a UART given register by register. -/
@[simp] theorem dlab_mk {rbr ier iir lcr mcr dll dlm msr scr : UInt8} {lsr : Nat → UInt8}
    {polls : Nat} {sent : List UInt8} :
    (Uart.mk rbr ier iir lcr mcr dll dlm lsr polls msr scr sent).dlab = (lcr &&& 0x80 != 0) := rfl

end Uart

/-! ## The ports -/

namespace Ports

variable {p : Ports} {port : UInt16} {u : Uart} {o : Nat}

/-- Where a port is decoded: an interrupt mask register, a register of the
UART, or nothing. -/
structure Decodes (p : Ports) (port : UInt16) (o : Nat) : Prop where
  master : port ≠ 0x21
  slave : port ≠ 0xa1
  offset : p.uartOffset port = some o

@[simp] theorem outb_master (p : Ports) (v : UInt8) : p.outb 0x21 v = { p with masterImr := v } := by
  simp [outb]

@[simp] theorem outb_slave (p : Ports) (v : UInt8) : p.outb 0xa1 v = { p with slaveImr := v } := by
  simp [outb]

theorem outb_uart (hu : p.uart = some u) (hd : p.Decodes port o) (v : UInt8) :
    p.outb port v = { p with uart := some (u.write o v) } := by
  simp [outb, hd.master, hd.slave, hd.offset, hu]

theorem inb_uart (hu : p.uart = some u) (hd : p.Decodes port o) :
    p.inb port = ((u.read o).1, { p with uart := some (u.read o).2 }) := by
  simp [inb, hd.master, hd.slave, hd.offset, hu]

/-- A port no device decodes: writes are lost, reads give all ones. -/
theorem outb_absent (hu : p.uart = none) (h21 : port ≠ 0x21) (ha1 : port ≠ 0xa1) (v : UInt8) :
    p.outb port v = p := by
  simp [outb, h21, ha1, hu]

theorem inb_absent (hu : p.uart = none) (h21 : port ≠ 0x21) (ha1 : port ≠ 0xa1) :
    p.inb port = (0xff, p) := by
  simp [inb, h21, ha1, hu]

theorem uartOffset_congr {p p' : Ports} (h : p.base = p'.base) : p.uartOffset = p'.uartOffset := by
  funext port
  simp only [uartOffset, h]

theorem Decodes.congr {p' : Ports} (hd : p.Decodes port o) (h : p.base = p'.base) :
    p'.Decodes port o :=
  ⟨hd.master, hd.slave, uartOffset_congr h ▸ hd.offset⟩

/-- A word from two registers of the UART. -/
theorem inw_uart (hu : p.uart = some u) (h0 : p.Decodes port o) (h1 : p.Decodes (port + 1) (o + 1)) :
    p.inw port =
      (UInt16.ofNat ((u.read o).1.toNat + 256 * ((u.read o).2.read (o + 1)).1.toNat),
        { p with uart := some ((u.read o).2.read (o + 1)).2 }) := by
  have h1' : ({ p with uart := some (u.read o).2 } : Ports).Decodes (port + 1) (o + 1) :=
    h1.congr rfl
  simp only [inw, inb_uart hu h0, inb_uart rfl h1']

/-- A word from no device: all ones. -/
theorem inw_absent (hu : p.uart = none) (h21 : port ≠ 0x21) (ha1 : port ≠ 0xa1)
    (h21' : port + 1 ≠ 0x21) (ha1' : port + 1 ≠ 0xa1) : p.inw port = (0xffff, p) := by
  simp only [inw, inb_absent hu h21 ha1, inb_absent hu h21' ha1']
  rfl

theorem outs_append (p : Ports) (ws ws' : List (UInt16 × UInt8)) :
    p.outs (ws ++ ws') = (p.outs ws).outs ws' := by
  induction ws generalizing p with
  | nil => rfl
  | cons w ws ih => exact ih _

/-- Writes to ports no device decodes are lost. -/
theorem outs_absent (hu : p.uart = none) (ws : List (UInt16 × UInt8))
    (hws : ∀ w ∈ ws, w.1 ≠ 0x21 ∧ w.1 ≠ 0xa1) : p.outs ws = p := by
  induction ws with
  | nil => rfl
  | cons w ws ih =>
    obtain ⟨port, v⟩ := w
    have hw := hws (port, v) List.mem_cons_self
    rw [outs, outb_absent hu hw.1 hw.2, ih fun w' h => hws w' (List.mem_cons_of_mem _ h)]

/-- Writes to registers of the UART, by their offsets from its base. -/
theorem outs_uart (hu : p.uart = some u) (ws : List (Nat × UInt8))
    (hws : ∀ w ∈ ws, p.Decodes (p.base + UInt16.ofNat w.1) w.1) :
    p.outs (ws.map fun w => (p.base + UInt16.ofNat w.1, w.2)) =
      { p with uart := some (u.writes ws) } := by
  induction ws generalizing p u with
  | nil =>
    rw [List.map_nil, outs, Uart.writes, ← hu]
  | cons w ws ih =>
    have hd := hws w List.mem_cons_self
    have hrest := ih (p := { p with uart := some (u.write w.1 w.2) }) rfl
      fun w' hw => (hws w' (List.mem_cons_of_mem _ hw)).congr rfl
    simp only [List.map_cons, outs, outb_uart hu hd]
    exact hrest

end Ports

/-! ## The I/O APIC -/

namespace IoApic

theorem store_select (a : IoApic) (v : UInt32) : a.store 0 v = { a with ioregsel := v } := by
  simp [store]

/-- A store to a reserved offset changes nothing. -/
theorem store_reserved (a : IoApic) (offset : Nat) (h0 : offset ≠ 0) (h10 : offset ≠ 0x10)
    (v : UInt32) : a.store offset v = a := by
  simp [store, h0, h10]

/-- A register written through the window: the one IOREGSEL selects. -/
theorem store_window (a : IoApic) (v : UInt32) :
    (a.store 0x10 v).regs = Function.update a.regs a.ioregsel v := by
  simp [store]

end IoApic

end X86.Io
