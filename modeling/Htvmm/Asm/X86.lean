import Mathlib.Logic.Function.Basic
import Mathlib.Tactic.Ring
import Mathlib.Data.List.Nodup

/-!
# A fragment of x86-64

The instructions short assembly routines use to save and restore registers
and to scatter a value into memory: `push`, `pop`, `mov` between registers
and from a register to memory, `shr` by an immediate, `xor` and `lea` of a
symbol. Registers are named whole or in part (`%rax`, `%eax`, `%ax`, `%al`,
`%ah`), and memory is bytes, accessed little-endian. Flags are not modelled:
nothing here reads them.

* `Mem.load_store`, `Mem.load_store_of_disjoint`, `Mem.load_add`: loads and
  stores of little-endian numbers;
* `run_pushes`, `run_pops`: what a run of pushes leaves on the stack, and what
  a run of pops loads.
-/

namespace X86

/-- The general-purpose registers, in the order of their encoding. -/
inductive Reg where
  | rax | rcx | rdx | rbx | rsp | rbp | rsi | rdi
  | r8 | r9 | r10 | r11 | r12 | r13 | r14 | r15
  deriving DecidableEq, Repr

/-- A register's number in instruction encodings. -/
def Reg.number : Reg → Nat
  | .rax => 0
  | .rcx => 1
  | .rdx => 2
  | .rbx => 3
  | .rsp => 4
  | .rbp => 5
  | .rsi => 6
  | .rdi => 7
  | .r8 => 8
  | .r9 => 9
  | .r10 => 10
  | .r11 => 11
  | .r12 => 12
  | .r13 => 13
  | .r14 => 14
  | .r15 => 15

theorem Reg.number_lt (r : Reg) : r.number < 16 := by
  cases r <;> decide

/-- The part of a register an operand names: all 64 bits, the low 32, 16 or
8, or bits 15:8. -/
inductive Width where
  | q | d | w | l | h
  deriving DecidableEq, Repr

structure Operand where
  reg : Reg
  width : Width
  deriving DecidableEq, Repr

namespace Width

/-- The value an operand of this width reads from a register. -/
def read : Width → UInt64 → UInt64
  | .q, r => r
  | .d, r => r &&& 0xffff_ffff
  | .w, r => r &&& 0xffff
  | .l, r => r &&& 0xff
  | .h, r => (r >>> 8) &&& 0xff

/-- The register after a write of `v` through an operand of this width: a
32-bit write clears bits 63:32, a 16- or 8-bit write keeps the other bits. -/
def write : Width → UInt64 → UInt64 → UInt64
  | .q, _, v => v
  | .d, _, v => v &&& 0xffff_ffff
  | .w, r, v => (r &&& ~~~(0xffff : UInt64)) ||| (v &&& 0xffff)
  | .l, r, v => (r &&& ~~~(0xff : UInt64)) ||| (v &&& 0xff)
  | .h, r, v => (r &&& ~~~(0xff00 : UInt64)) ||| ((v &&& 0xff) <<< 8)

/-- How many bytes a store through an operand of this width writes. -/
def bytes : Width → Nat
  | .q => 8
  | .d => 4
  | .w => 2
  | .l => 1
  | .h => 1

end Width

/-- Byte-addressed memory. -/
abbrev Mem := Nat → UInt8

namespace Mem

/-- The `n` bytes from `a`, as a little-endian number. -/
def load (m : Mem) (a : Nat) : Nat → Nat
  | 0 => 0
  | n + 1 => (m a).toNat + 256 * load m (a + 1) n

/-- `m` with the low `n` bytes of `v` stored from `a`, least significant first. -/
def store (m : Mem) (a v : Nat) : Nat → Mem
  | 0 => m
  | n + 1 => store (Function.update m a (UInt8.ofNat v)) (a + 1) (v / 256) n

/-- The quadword at `a`. -/
def load64 (m : Mem) (a : Nat) : UInt64 := UInt64.ofNat (load m a 8)

theorem load_lt (m : Mem) : ∀ (a n : Nat), load m a n < 256 ^ n
  | _, 0 => by simp [load]
  | a, n + 1 => by
    have hb := (m a).toNat_lt
    have ih := load_lt m (a + 1) n
    rw [load, Nat.pow_succ]
    omega

/-- A store writes only its own bytes. -/
theorem store_of_not_mem : ∀ {m : Mem} {a v n x : Nat}, x < a ∨ a + n ≤ x → store m a v n x = m x
  | _, _, _, 0, _, _ => rfl
  | m, a, v, n + 1, x, h => by
    rw [store, store_of_not_mem (by omega), Function.update_of_ne (by omega)]

/-- A store of zero clears its bytes and only those. -/
theorem store_zero_apply : ∀ (m : Mem) (a n x : Nat),
    store m a 0 n x = if a ≤ x ∧ x < a + n then 0 else m x
  | _, _, 0, x => by simp [store]
  | m, a, n + 1, x => by
    rw [store, Nat.zero_div, store_zero_apply]
    by_cases hx : x = a
    · subst hx
      simp [Function.update_self]
    · rw [Function.update_of_ne hx]
      split_ifs <;> first | rfl | omega

theorem load_congr {m m' : Mem} : ∀ {a n : Nat}, (∀ k < n, m (a + k) = m' (a + k)) →
    load m a n = load m' a n
  | _, 0, _ => rfl
  | a, n + 1, h => by
    have h0 := h 0 (by omega)
    rw [Nat.add_zero] at h0
    have ih : load m (a + 1) n = load m' (a + 1) n := load_congr fun k hk => by
      rw [Nat.add_right_comm a 1 k]
      exact h (k + 1) (by omega)
    rw [load, load, h0, ih]

/-- A load of the bytes just stored reads the value, to their width. -/
theorem load_store : ∀ (m : Mem) (a v n : Nat), load (store m a v n) a n = v % 256 ^ n
  | _, _, v, 0 => by simp [load, Nat.mod_one]
  | m, a, v, n + 1 => by
    have hbyte : store (Function.update m a (UInt8.ofNat v)) (a + 1) (v / 256) n a =
        UInt8.ofNat v := by
      rw [store_of_not_mem (by omega), Function.update_self]
    rw [store, load, hbyte, load_store, UInt8.toNat_ofNat',
      show 256 ^ (n + 1) = 256 * 256 ^ n from Nat.pow_succ', Nat.mod_mul]

theorem load_store_of_disjoint (m : Mem) {a v n b k : Nat} (h : b + k ≤ a ∨ a + n ≤ b) :
    load (store m a v n) b k = load m b k :=
  load_congr fun _ _ => store_of_not_mem (by omega)

/-- A load splits at any byte. -/
theorem load_add (m : Mem) : ∀ (a n k : Nat), load m a (n + k) = load m a n + 256 ^ n * load m (a + n) k
  | a, 0, k => by simp [load]
  | a, n + 1, k => by
    rw [Nat.add_right_comm, load, load, load_add m (a + 1) n k, Nat.pow_succ',
      Nat.add_right_comm a 1 n, Nat.add_assoc a n 1]
    ring

/-- Bytes `i` to `i + j` of a load are the load of those bytes. -/
theorem load_field (m : Mem) (a : Nat) {i j n : Nat} (h : i + j ≤ n) :
    load m a n / 256 ^ i % 256 ^ j = load m (a + i) j := by
  obtain ⟨r, rfl⟩ : ∃ r, n = i + (j + r) := ⟨n - i - j, by omega⟩
  rw [load_add, load_add m (a + i) j r, Nat.add_mul_div_left _ _ (Nat.pow_pos (by decide)),
    Nat.div_eq_of_lt (load_lt m a i), Nat.zero_add, Nat.add_mul_mod_self_left,
    Nat.mod_eq_of_lt (load_lt m (a + i) j)]

theorem load64_toNat (m : Mem) (a : Nat) : (load64 m a).toNat = load m a 8 :=
  UInt64.toNat_ofNat'.trans (Nat.mod_eq_of_lt (load_lt m a 8))

/-- A store overwrites its bytes whatever they held. -/
theorem store_congr : ∀ {m m' : Mem} {a v n x : Nat}, (a ≤ x ∧ x < a + n) ∨ m x = m' x →
    store m a v n x = store m' a v n x
  | _, _, _, _, 0, _, h => h.resolve_left (by omega)
  | m, m', a, v, n + 1, x, h => by
    rw [store, store]
    apply store_congr
    by_cases hxa : x = a
    · subst hxa
      right
      rw [Function.update_self, Function.update_self]
    · rcases h with h | h
      · left
        omega
      · right
        rw [Function.update_of_ne hxa, Function.update_of_ne hxa]
        exact h

/-- Quadwords stored one after another from `p`. -/
def storeQuads (m : Mem) (p : Nat) : List UInt64 → Mem
  | [] => m
  | v :: vs => storeQuads (m.store p v.toNat 8) (p + 8) vs

theorem storeQuads_of_not_mem : ∀ {m : Mem} {p : Nat} {vs : List UInt64} {x : Nat},
    x < p ∨ p + 8 * vs.length ≤ x → storeQuads m p vs x = m x
  | _, _, [], _, _ => rfl
  | m, p, v :: vs, x, h => by
    simp only [List.length_cons] at h
    rw [storeQuads, storeQuads_of_not_mem (by omega), store_of_not_mem (by omega)]

theorem storeQuads_congr : ∀ {m m' : Mem} {p : Nat} {vs : List UInt64} {x : Nat},
    (p ≤ x ∧ x < p + 8 * vs.length) ∨ m x = m' x → storeQuads m p vs x = storeQuads m' p vs x
  | _, _, _, [], _, h => h.resolve_left (by simp)
  | m, m', p, v :: vs, x, h => by
    rw [storeQuads, storeQuads]
    apply storeQuads_congr
    by_cases hin : p + 8 ≤ x ∧ x < p + 8 + 8 * vs.length
    · left
      exact hin
    · right
      apply store_congr
      simp only [List.length_cons] at h
      rcases h with h | h
      · left
        omega
      · right
        exact h

theorem load64_storeQuads : ∀ (m : Mem) (p : Nat) (vs : List UInt64) (k : Nat) (hk : k < vs.length),
    (storeQuads m p vs).load64 (p + 8 * k) = vs[k]
  | _, _, [], _, hk => absurd hk (Nat.not_lt_zero _)
  | m, p, v :: vs, 0, _ => by
    have hv := v.toNat_lt
    rw [storeQuads, load64, load_congr fun j _ => storeQuads_of_not_mem (Or.inl (by omega)),
      Nat.mul_zero, Nat.add_zero, load_store,
      Nat.mod_eq_of_lt (by simpa using hv), UInt64.ofNat_toNat, List.getElem_cons_zero]
  | m, p, v :: vs, k + 1, hk => by
    rw [storeQuads, show p + 8 * (k + 1) = p + 8 + 8 * k by omega, List.getElem_cons_succ]
    exact load64_storeQuads _ _ vs k (by simpa using hk)

end Mem

/-- The registers and the memory. -/
structure Machine where
  regs : Reg → UInt64
  mem : Mem

namespace Machine

def set (s : Machine) (r : Reg) (v : UInt64) : Machine :=
  { s with regs := Function.update s.regs r v }

/-- The value of an operand. -/
def read (s : Machine) (o : Operand) : UInt64 := o.width.read (s.regs o.reg)

/-- A write through an operand. -/
def write (s : Machine) (o : Operand) (v : UInt64) : Machine :=
  s.set o.reg (o.width.write (s.regs o.reg) v)

@[simp] theorem set_regs (s : Machine) (r : Reg) (v : UInt64) :
    (s.set r v).regs = Function.update s.regs r v := rfl
@[simp] theorem set_mem (s : Machine) (r : Reg) (v : UInt64) : (s.set r v).mem = s.mem := rfl

end Machine

/-- The instructions. -/
inductive Instr where
  /-- `push %r` -/
  | push (r : Reg)
  /-- `pop %r` -/
  | pop (r : Reg)
  /-- `mov %src, %dst`, two operands of one width -/
  | mov (dst src : Operand)
  /-- `mov %src, disp(%base)` -/
  | store (src : Operand) (base : Reg) (disp : UInt64)
  /-- `shr $n, %r` -/
  | shr (r : Reg) (n : UInt64)
  /-- `xor %src, %dst` -/
  | xor (dst src : Reg)
  /-- `lea sym(%rip), %dst`, with `sym` at `addr` -/
  | lea (dst : Reg) (addr : UInt64)

/-- One instruction. -/
def Instr.eval (i : Instr) (s : Machine) : Machine :=
  match i with
  | .push r =>
    { regs := Function.update s.regs .rsp (s.regs .rsp - 8)
      mem := s.mem.store (s.regs .rsp - 8).toNat (s.regs r).toNat 8 }
  | .pop r => (s.set .rsp (s.regs .rsp + 8)).set r (s.mem.load64 (s.regs .rsp).toNat)
  | .mov dst src => s.write dst (s.read src)
  | .store src base disp =>
    { s with mem := s.mem.store (s.regs base + disp).toNat (s.read src).toNat src.width.bytes }
  | .shr r n => s.set r (s.regs r >>> n)
  | .xor dst src => s.set dst (s.regs dst ^^^ s.regs src)
  | .lea dst addr => s.set dst addr

/-- A straight-line run. -/
def run (is : List Instr) (s : Machine) : Machine := is.foldl (fun t i => i.eval t) s

@[simp] theorem run_nil (s : Machine) : run [] s = s := rfl

@[simp] theorem run_cons (i : Instr) (is : List Instr) (s : Machine) :
    run (i :: is) s = run is (i.eval s) := rfl

theorem run_append (is js : List Instr) (s : Machine) : run (is ++ js) s = run js (run is s) := by
  simp [run, List.foldl_append]

@[simp] theorem eval_push_regs (r : Reg) (s : Machine) :
    ((Instr.push r).eval s).regs = Function.update s.regs .rsp (s.regs .rsp - 8) := rfl

@[simp] theorem eval_push_mem (r : Reg) (s : Machine) :
    ((Instr.push r).eval s).mem = s.mem.store (s.regs .rsp - 8).toNat (s.regs r).toNat 8 := rfl

@[simp] theorem eval_pop (r : Reg) (s : Machine) :
    (Instr.pop r).eval s = (s.set .rsp (s.regs .rsp + 8)).set r (s.mem.load64 (s.regs .rsp).toNat) :=
  rfl

theorem toNat_sub_eight {x : UInt64} (h : 8 ≤ x.toNat) : (x - 8).toNat = x.toNat - 8 := by
  rw [UInt64.toNat_sub_of_le _ _ (by rw [UInt64.le_iff_toNat_le]; exact h)]
  rfl

theorem toNat_add_eight {x : UInt64} (h : x.toNat + 8 < 2 ^ 64) : (x + 8).toNat = x.toNat + 8 := by
  rw [UInt64.toNat_add]
  exact Nat.mod_eq_of_lt h

/-- **A run of pushes.** `%rsp` goes down by eight for each register, the
`k`-th register pushed is the quadword `8 * (k + 1)` below the old `%rsp`,
and nothing else changes. -/
theorem run_pushes : ∀ (rs : List Reg) (s : Machine), Reg.rsp ∉ rs →
    8 * rs.length ≤ (s.regs .rsp).toNat →
    ((run (rs.map .push) s).regs .rsp).toNat = (s.regs .rsp).toNat - 8 * rs.length ∧
    (∀ r, r ≠ .rsp → (run (rs.map .push) s).regs r = s.regs r) ∧
    (∀ x, x < (s.regs .rsp).toNat - 8 * rs.length ∨ (s.regs .rsp).toNat ≤ x →
      (run (rs.map .push) s).mem x = s.mem x) ∧
    ∀ k (hk : k < rs.length),
      (run (rs.map .push) s).mem.load ((s.regs .rsp).toNat - 8 * (k + 1)) 8 = (s.regs rs[k]).toNat
  | [], s, _, _ => ⟨rfl, fun _ _ => rfl, fun _ _ => rfl, fun _ hk => absurd hk (Nat.not_lt_zero _)⟩
  | r :: rs, s, hsp, hroom => by
    have hr : r ≠ .rsp := fun h => hsp (h ▸ List.mem_cons_self)
    have hlen : (r :: rs).length = rs.length + 1 := rfl
    have hsp8 := toNat_sub_eight (x := s.regs .rsp) (by omega)
    obtain ⟨hsp', hregs, hframe, hload⟩ := run_pushes rs ((Instr.push r).eval s)
      (fun h => hsp (List.mem_cons_of_mem _ h))
      (by simp only [eval_push_regs, Function.update_self, hsp8]; omega)
    simp only [eval_push_regs, Function.update_self, hsp8, eval_push_mem] at hsp' hframe hload
    refine ⟨by rw [List.map_cons, run_cons, hsp']; omega, fun r' hr' => ?_, fun x hx => ?_,
      fun k hk => ?_⟩
    · rw [List.map_cons, run_cons, hregs r' hr', eval_push_regs, Function.update_of_ne hr']
    · rw [List.map_cons, run_cons, hframe x (by omega), Mem.store_of_not_mem (by omega)]
    · rw [List.map_cons, run_cons]
      cases k with
      | zero =>
        rw [Mem.load_congr fun j _ => hframe _ (by omega), Mem.load_store]
        exact Nat.mod_eq_of_lt (s.regs r).toNat_lt
      | succ k =>
        have h := hload k (by omega)
        rw [show (s.regs .rsp).toNat - 8 - 8 * (k + 1) = (s.regs .rsp).toNat - 8 * (k + 1 + 1)
          by omega,
          Function.update_of_ne fun h => hsp (List.mem_cons_of_mem _ (by rw [← h]; exact List.getElem_mem _))] at h
        exact h

/-- **A run of pops.** The `k`-th register popped gets the quadword `8 * k`
above the old `%rsp`, which goes up by eight for each register; memory and
the other registers do not change. -/
theorem run_pops : ∀ (rs : List Reg) (s : Machine), Reg.rsp ∉ rs → rs.Nodup →
    (s.regs .rsp).toNat + 8 * rs.length < 2 ^ 64 →
    (run (rs.map .pop) s).mem = s.mem ∧
    ((run (rs.map .pop) s).regs .rsp).toNat = (s.regs .rsp).toNat + 8 * rs.length ∧
    (∀ k (hk : k < rs.length),
      (run (rs.map .pop) s).regs rs[k] = s.mem.load64 ((s.regs .rsp).toNat + 8 * k)) ∧
    ∀ r, r ≠ .rsp → r ∉ rs → (run (rs.map .pop) s).regs r = s.regs r
  | [], s, _, _, _ => ⟨rfl, rfl, fun _ hk => absurd hk (Nat.not_lt_zero _), fun _ _ _ => rfl⟩
  | r :: rs, s, hsp, hnd, hroom => by
    have hr : r ≠ .rsp := fun h => hsp (h ▸ List.mem_cons_self)
    have hlen : (r :: rs).length = rs.length + 1 := rfl
    have hsp8 := toNat_add_eight (x := s.regs .rsp) (by omega)
    obtain ⟨hnot, hnd'⟩ := List.nodup_cons.mp hnd
    have hs1 : ((Instr.pop r).eval s).regs .rsp = s.regs .rsp + 8 := by
      simp [Function.update_of_ne hr.symm]
    obtain ⟨hmem, hsp', hload, hregs⟩ := run_pops rs ((Instr.pop r).eval s)
      (fun h => hsp (List.mem_cons_of_mem _ h)) hnd' (by rw [hs1, hsp8]; omega)
    rw [hs1, hsp8] at hsp' hload
    refine ⟨by rw [List.map_cons, run_cons, hmem]; rfl, by rw [List.map_cons, run_cons, hsp']; omega,
      fun k hk => ?_, fun r' hr' hn => ?_⟩
    · rw [List.map_cons, run_cons]
      cases k with
      | zero =>
        rw [List.getElem_cons_zero, hregs r hr hnot]
        simp
      | succ k =>
        rw [List.getElem_cons_succ, hload k (by omega)]
        show s.mem.load64 _ = _
        congr 1
        omega
    · rw [List.map_cons, run_cons, hregs r' hr' fun h => hn (List.mem_cons_of_mem _ h)]
      simp [Function.update_of_ne hr', Function.update_of_ne fun h => hn (List.mem_cons.mpr (Or.inl h))]

/-- After pushing `rs`, the quadwords from the new `%rsp` up are the
registers in the reverse order. -/
theorem run_pushes_quads (rs : List Reg) (s : Machine) (hsp : Reg.rsp ∉ rs)
    (hroom : 8 * rs.length ≤ (s.regs .rsp).toNat) (k : Nat) (hk : k < rs.reverse.length) :
    (run (rs.map .push) s).mem.load64 ((s.regs .rsp).toNat - 8 * rs.length + 8 * k) =
      s.regs rs.reverse[k] := by
  rw [List.length_reverse] at hk
  have hpushed := (run_pushes rs s hsp hroom).2.2.2 (rs.length - 1 - k) (by omega)
  have hslot : (s.regs .rsp).toNat - 8 * (rs.length - 1 - k + 1) =
      (s.regs .rsp).toNat - 8 * rs.length + 8 * k := by
    omega
  rw [hslot] at hpushed
  rw [Mem.load64, hpushed, UInt64.ofNat_toNat, List.getElem_reverse]

/-- **Saving registers around a body.** Push `rs`, run a body that keeps
`%rsp` and the pushed quadwords, and pop `rs` in reverse: the pushed registers
and `%rsp` come back, and the rest is as the body left it. -/
theorem run_saved (rs : List Reg) (body : List Instr) (s : Machine) (hsp : Reg.rsp ∉ rs)
    (hnd : rs.Nodup) (hroom : 8 * rs.length ≤ (s.regs .rsp).toNat)
    (hrsp : (run body (run (rs.map .push) s)).regs .rsp = (run (rs.map .push) s).regs .rsp)
    (hslots : ∀ x, (s.regs .rsp).toNat - 8 * rs.length ≤ x → x < (s.regs .rsp).toNat →
      (run body (run (rs.map .push) s)).mem x = (run (rs.map .push) s).mem x) :
    (run (rs.map .push ++ body ++ rs.reverse.map .pop) s).mem = (run body (run (rs.map .push) s)).mem ∧
    ∀ r, (run (rs.map .push ++ body ++ rs.reverse.map .pop) s).regs r =
      if r = .rsp ∨ r ∈ rs then s.regs r else (run body (run (rs.map .push) s)).regs r := by
  obtain ⟨hsp1, -, -, hpushed⟩ := run_pushes rs s hsp hroom
  rw [run_append, run_append]
  generalize run (rs.map .push) s = s1 at hrsp hslots hsp1 hpushed
  generalize hs2 : run body s1 = s2 at hrsp hslots
  have hlt := (s.regs .rsp).toNat_lt
  obtain ⟨hmem, hsp3, hpopped, hregs⟩ := run_pops rs.reverse s2 (by simpa using hsp) (List.nodup_reverse.mpr hnd)
    (by rw [hrsp, hsp1, List.length_reverse]; omega)
  refine ⟨hmem, fun r => ?_⟩
  split_ifs with hr
  · rcases hr with rfl | hr
    · apply UInt64.toNat_inj.mp
      rw [hsp3, hrsp, hsp1, List.length_reverse]
      omega
    · obtain ⟨j, hj, rfl⟩ := List.mem_iff_getElem.mp hr
      have hbound : rs.length - 1 - j < rs.reverse.length := by simp; omega
      have hpop := hpopped (rs.length - 1 - j) hbound
      have hidx : rs.reverse[rs.length - 1 - j] = rs[j] := by
        rw [List.getElem_reverse]
        congr 1
        omega
      rw [hidx] at hpop
      rw [hpop]
      apply UInt64.toNat_inj.mp
      rw [Mem.load64_toNat, ← hpushed j hj]
      have hslot : (s2.regs .rsp).toNat + 8 * (rs.length - 1 - j) = (s.regs .rsp).toNat - 8 * (j + 1) := by
        rw [hrsp, hsp1]
        omega
      rw [hslot]
      exact Mem.load_congr fun k hk => hslots _ (by omega) (by omega)
  · rw [not_or] at hr
    exact hregs r hr.1 (by simpa using hr.2)

end X86
