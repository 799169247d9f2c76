import Mathlib

/-!
# Fields of a 64-bit word

Hardware words pack several fields, each under its own mask. Two facts carry
everything the table-entry setters need:

* `or_and_left`, `or_and_right`: a word built as `p ||| g` from a value `p`
  under one mask and a value `g` under a disjoint mask gives each value back
  when masked;
* `Flags`: the value of a `bitflags` type, whose bits always lie among the
  declared flags, with the operations of its generated API.
-/

namespace Word

/-- `x` has bits only where `m` has. -/
def Within (x m : UInt64) : Prop := x &&& m = x

instance (x m : UInt64) : Decidable (Within x m) :=
  inferInstanceAs (Decidable (x &&& m = x))

theorem eq_of_testBit {x y : UInt64} (h : ∀ i, x.toNat.testBit i = y.toNat.testBit i) :
    x = y :=
  UInt64.toNat_inj.mp (Nat.eq_of_testBit_eq h)

theorem Within.testBit {x m : UInt64} (h : Within x m) (i : Nat)
    (hx : x.toNat.testBit i = true) : m.toNat.testBit i = true := by
  have hi := congrArg (fun w : UInt64 => w.toNat.testBit i) h
  simp only [UInt64.toNat_and, Nat.testBit_and, hx, Bool.true_and] at hi
  exact hi

theorem and_within (x m : UInt64) : Within (x &&& m) m := by
  simp only [Within, UInt64.and_assoc, UInt64.and_self]

theorem Within.or {x y m : UInt64} (hx : Within x m) (hy : Within y m) :
    Within (x ||| y) m := by
  apply eq_of_testBit
  intro i
  have h1 := hx.testBit i
  have h2 := hy.testBit i
  simp only [UInt64.toNat_and, UInt64.toNat_or, Nat.testBit_and, Nat.testBit_or]
  cases hxi : x.toNat.testBit i <;> cases hyi : y.toNat.testBit i <;> simp_all

theorem Within.mono {x m n : UInt64} (hx : Within x m) (hm : Within m n) : Within x n := by
  apply eq_of_testBit
  intro i
  have h1 := hx.testBit i
  have h2 := hm.testBit i
  simp only [UInt64.toNat_and, Nat.testBit_and]
  cases hxi : x.toNat.testBit i <;> simp_all

theorem zero_within (m : UInt64) : Within 0 m := by
  simp only [Within, UInt64.zero_and]

/-- Masks without common bits. -/
theorem not_both_of_and_eq_zero {a f : UInt64} (h : a &&& f = 0) (i : Nat) :
    a.toNat.testBit i = true → f.toNat.testBit i = false := by
  intro ha
  have hi := congrArg (fun w : UInt64 => w.toNat.testBit i) h
  simp only [UInt64.toNat_and, Nat.testBit_and, ha, Bool.true_and, UInt64.toNat_zero,
    Nat.zero_testBit] at hi
  exact hi

section
variable {a f p g : UInt64}

/-- The `a` field of `p ||| g` is `p`, for `p` under `a` and `g` under a mask
disjoint from `a`. -/
theorem or_and_left (hd : a &&& f = 0) (hp : Within p a) (hg : Within g f) :
    (p ||| g) &&& a = p := by
  apply eq_of_testBit
  intro i
  have h1 := hp.testBit i
  have h2 := hg.testBit i
  have h3 := not_both_of_and_eq_zero hd i
  simp only [UInt64.toNat_and, UInt64.toNat_or, Nat.testBit_and, Nat.testBit_or]
  cases hpi : p.toNat.testBit i <;> cases hai : a.toNat.testBit i <;> simp_all

/-- The `f` field of `p ||| g` is `g`, under the same conditions. -/
theorem or_and_right (hd : a &&& f = 0) (hp : Within p a) (hg : Within g f) :
    (p ||| g) &&& f = g := by
  apply eq_of_testBit
  intro i
  have h1 := hp.testBit i
  have h2 := hg.testBit i
  have h3 := not_both_of_and_eq_zero hd i
  simp only [UInt64.toNat_and, UInt64.toNat_or, Nat.testBit_and, Nat.testBit_or]
  cases hgi : g.toNat.testBit i <;> cases hfi : f.toNat.testBit i <;>
    cases hai : a.toNat.testBit i <;> simp_all

end

/-- A one-bit mask `b` (bit `k`) meets a word in `b` or in nothing. -/
theorem and_bit (x : UInt64) {b : UInt64} {k : Nat} (hb : b.toNat = 2 ^ k) :
    x &&& b = if x.toNat.testBit k then b else 0 := by
  apply eq_of_testBit
  intro i
  simp only [UInt64.toNat_and, Nat.testBit_and, hb, Nat.testBit_two_pow]
  by_cases hi : k = i
  · subst hi
    cases x.toNat.testBit k <;> simp [hb]
  · cases x.toNat.testBit k <;> simp [hb, hi]

theorem ne_zero_of_pow {b : UInt64} {k : Nat} (hb : b.toNat = 2 ^ k) : b ≠ 0 := by
  intro h
  have := Nat.two_pow_pos k
  simp only [h, UInt64.toNat_zero] at hb
  omega

/-- Testing a one-bit mask for non-zero reads bit `k`. -/
theorem and_bit_bne_zero (x : UInt64) {b : UInt64} {k : Nat} (hb : b.toNat = 2 ^ k) :
    (x &&& b != 0) = x.toNat.testBit k := by
  rw [and_bit x hb]
  cases x.toNat.testBit k <;> simp [ne_zero_of_pow hb]

/-- Testing a one-bit mask for equality with itself reads bit `k`. -/
theorem and_bit_beq_self (x : UInt64) {b : UInt64} {k : Nat} (hb : b.toNat = 2 ^ k) :
    (x &&& b == b) = x.toNat.testBit k := by
  rw [and_bit x hb]
  cases x.toNat.testBit k <;> simp [Ne.symm (ne_zero_of_pow hb)]

/-- Clearing the low `k` bits rounds down to a multiple of `2^k`. -/
theorem and_not_low_bits (x : UInt64) {m : UInt64} {k : Nat} (hm : m.toNat = 2 ^ k - 1)
    (hk : k ≤ 64) : (x &&& ~~~m).toNat = x.toNat / 2 ^ k * 2 ^ k := by
  have hnot : (~~~m).toNat = (2 ^ (64 - k) - 1) * 2 ^ k := by
    have hpow : 2 ^ (64 - k) * 2 ^ k = 2 ^ 64 := by rw [← Nat.pow_add]; congr 1; omega
    have hpos := Nat.two_pow_pos k
    rw [UInt64.toNat_not, hm, Nat.sub_one_mul, hpow]
    simp only [UInt64.size]
    omega
  apply Nat.eq_of_testBit_eq
  intro i
  rw [UInt64.toNat_and, Nat.testBit_and, hnot, Nat.testBit_mul_two_pow, Nat.testBit_mul_two_pow,
    Nat.testBit_two_pow_sub_one, Nat.testBit_div_two_pow]
  by_cases hki : k ≤ i
  · rw [show i - k + k = i by omega]
    by_cases h64 : i < 64
    · simp [hki, show i - k < 64 - k by omega]
    · have : x.toNat.testBit i = false :=
        Nat.testBit_lt_two_pow (lt_of_lt_of_le x.toNat_lt (Nat.pow_le_pow_right (by decide) (by omega)))
      simp [this]
  · simp [hki]

/-- Bit `i` of the complement, below bit 64. -/
theorem testBit_not (y : UInt64) {i : Nat} (hi : i < 64) :
    (~~~y).toNat.testBit i = !y.toNat.testBit i := by
  have hy := y.toNat_lt
  rw [UInt64.toNat_not, show UInt64.size - 1 - y.toNat = 2 ^ 64 - (y.toNat + 1) by
    simp only [UInt64.size]; omega, Nat.testBit_two_pow_sub_succ hy]
  simp [hi]

theorem lt_of_testBit {y : UInt64} {i : Nat} (h : y.toNat.testBit i = true) : i < 64 := by
  by_contra hi
  rw [Nat.testBit_lt_two_pow (lt_of_lt_of_le y.toNat_lt (Nat.pow_le_pow_right (by decide) (by omega)))] at h
  cases h

/-- `y &&& z = z`: every bit of `z` is set in `y`. -/
theorem and_eq_self_iff {y z : UInt64} :
    y &&& z = z ↔ ∀ i, z.toNat.testBit i = true → y.toNat.testBit i = true := by
  constructor
  · intro h i hz
    have := congrArg (fun w : UInt64 => w.toNat.testBit i) h
    simp only [UInt64.toNat_and, Nat.testBit_and, hz, Bool.and_true] at this
    exact this
  · intro h
    apply eq_of_testBit
    intro i
    rw [UInt64.toNat_and, Nat.testBit_and]
    cases hz : z.toNat.testBit i
    · simp
    · simp [h i hz]

/-- The field of `w` bits at `s`, by a mask. -/
theorem and_mask_shift (x w s : Nat) : x &&& ((2 ^ w - 1) * 2 ^ s) = x / 2 ^ s % 2 ^ w * 2 ^ s := by
  apply Nat.eq_of_testBit_eq
  intro i
  rw [Nat.testBit_and, Nat.testBit_mul_two_pow, Nat.testBit_mul_two_pow, Nat.testBit_two_pow_sub_one,
    Nat.testBit_mod_two_pow, Nat.testBit_div_two_pow]
  by_cases h : s ≤ i
  · have : i - s + s = i := by omega
    simp [h, this, Bool.and_comm]
  · simp [h]

/-- Numbers with bits on either side of `i` combine by `|||` as by `+`. -/
theorem or_eq_add {x y : Nat} (i : Nat) (hx : x % 2 ^ i = 0) (hy : y < 2 ^ i) : x ||| y = x + y := by
  have h := Nat.two_pow_add_eq_or_of_lt hy (x / 2 ^ i)
  rw [Nat.mul_div_cancel' (Nat.dvd_of_mod_eq_zero hx)] at h
  exact h.symm

theorem or_and_distrib (x y m : UInt64) : (x ||| y) &&& m = (x &&& m) ||| (y &&& m) := by
  apply eq_of_testBit
  intro i
  simp only [UInt64.toNat_and, UInt64.toNat_or, Nat.testBit_and, Nat.testBit_or]
  cases x.toNat.testBit i <;> simp

theorem within_or_left (x y : UInt64) : Within x (x ||| y) := by
  apply eq_of_testBit
  intro i
  simp only [UInt64.toNat_and, UInt64.toNat_or, Nat.testBit_and, Nat.testBit_or]
  cases x.toNat.testBit i <;> simp

theorem within_or_right (x y : UInt64) : Within y (x ||| y) := by
  rw [UInt64.or_comm]
  exact within_or_left y x

theorem within_and_left (x m : UInt64) : Within (x &&& m) x := by
  rw [Within, UInt64.and_comm, ← UInt64.and_assoc, UInt64.and_self]

/-- A write that keeps the bits outside `m` and sets the bits of `x` under
`m` and those of `y` leaves `x` with `y` set. -/
theorem or_and_not_or (x m y : UInt64) : (x &&& ~~~m) ||| ((x &&& m) ||| y) = x ||| y := by
  apply eq_of_testBit
  intro i
  by_cases hi : i < 64
  · simp only [UInt64.toNat_and, UInt64.toNat_or, Nat.testBit_and, Nat.testBit_or, testBit_not m hi]
    cases x.toNat.testBit i <;> cases m.toNat.testBit i <;> simp
  · rw [Bool.eq_false_iff.mpr (fun h => hi (lt_of_testBit h)),
      Bool.eq_false_iff.mpr (fun h => hi (lt_of_testBit h))]

theorem Within.and {x a b : UInt64} (ha : Within x a) (hb : Within x b) : Within x (a &&& b) := by
  rw [Within, ← UInt64.and_assoc, ha, hb]

/-- A word with every bit of a non-zero `b` meets it. -/
theorem Within.and_ne_zero {b x : UInt64} (h : Within b x) (hb : b ≠ 0) : x &&& b ≠ 0 := by
  rw [UInt64.and_comm, h]
  exact hb

/-- The mask of bit `k`. -/
def bit (k : Nat) : UInt64 := UInt64.ofNat (2 ^ k)

theorem bit_toNat {k : Nat} (hk : k < 64) : (bit k).toNat = 2 ^ k := by
  rw [bit, UInt64.toNat_ofNat', Nat.mod_eq_of_lt (Nat.pow_lt_pow_right (by decide) hk)]

theorem within_bit_iff {x : UInt64} {k : Nat} (hk : k < 64) : Within (bit k) x ↔ x &&& bit k ≠ 0 := by
  constructor
  · intro h
    exact h.and_ne_zero (ne_zero_of_pow (bit_toNat hk))
  · intro h
    rw [and_bit x (bit_toNat hk)] at h
    have hset : x &&& bit k = bit k := by
      rw [and_bit x (bit_toNat hk)]
      split
      · rfl
      · simp_all
    rw [Within, UInt64.and_comm, hset]

/-- Shifting bit `k` down and masking with 1 tests it. -/
theorem shiftRight_and_one_beq_one (x s : UInt64) {k : Nat} (hs : s.toNat = k) (hk : k < 64) :
    (x >>> s &&& 1 == 1) = (x &&& bit k != 0) := by
  rw [and_bit_beq_self (x >>> s) (k := 0) rfl, and_bit_bne_zero x (bit_toNat hk), UInt64.toNat_shiftRight, hs,
    Nat.mod_eq_of_lt hk, Nat.testBit_shiftRight, Nat.add_zero]

/-! ## Allowed settings

A processor states which values a register or a control field may take by two
masks: the bits fixed to 1 and the bits allowed to be 1. -/

/-- `v` has every bit of `lo` and bits only where `hi` has. -/
def Fits (lo hi v : UInt64) : Prop := Within lo v ∧ Within v hi

instance (lo hi v : UInt64) : Decidable (Fits lo hi v) :=
  inferInstanceAs (Decidable (_ ∧ _))

/-- Allowed bits added to a fitting value keep it fitting. -/
theorem Fits.or_within {lo hi x y : UInt64} (hf : Fits lo hi x) (hy : Within y hi) : Fits lo hi (x ||| y) :=
  ⟨hf.1.mono (within_or_left x y), hf.2.or hy⟩

/-- A write of the bits under `m` that keeps the others: with the kept bits
allowed, clearing the forbidden bits and setting the fixed ones fits. -/
theorem fits_keep {x m lo hi : UInt64} (hx : Within (x &&& ~~~m) hi) (h : Within lo hi) :
    Fits lo hi ((x &&& ~~~m) ||| ((x &&& m &&& hi) ||| lo)) :=
  ⟨(within_or_right _ _).mono (within_or_right _ _), hx.or ((and_within _ hi).or h)⟩

/-- The same write keeps every bit of `x` that `hi` allows. -/
theorem Within.keep {b x m lo hi : UInt64} (hx : Within b x) (hb : Within b hi) :
    Within b ((x &&& ~~~m) ||| ((x &&& m &&& hi) ||| lo)) := by
  apply eq_of_testBit
  intro i
  simp only [UInt64.toNat_and, UInt64.toNat_or, Nat.testBit_and, Nat.testBit_or]
  cases hbi : b.toNat.testBit i
  · rfl
  · rw [testBit_not m (lt_of_testBit hbi), hx.testBit i hbi, hb.testBit i hbi]
    cases m.toNat.testBit i <;> rfl

/-- A bit of the written value, with `y` set besides, that neither `lo` nor
`y` has was already in `x`. -/
theorem Within.of_keep {b x m lo hi y : UInt64} (h : Within b ((x &&& ~~~m) ||| ((x &&& m &&& hi) ||| lo) ||| y))
    (hlo : b &&& lo = 0) (hy : b &&& y = 0) : Within b x := by
  apply eq_of_testBit
  intro i
  simp only [UInt64.toNat_and, Nat.testBit_and]
  cases hbi : b.toNat.testBit i
  · rfl
  · have hset := h.testBit i hbi
    simp only [UInt64.toNat_and, UInt64.toNat_or, Nat.testBit_and, Nat.testBit_or,
      not_both_of_and_eq_zero hlo i hbi, not_both_of_and_eq_zero hy i hbi, Bool.or_false] at hset
    cases hxi : x.toNat.testBit i <;> simp_all

/-- Bits added to the fixed ones fit exactly when they are allowed. -/
theorem fits_or_iff {lo hi x : UInt64} (h : Within lo hi) : Fits lo hi (lo ||| x) ↔ Within x hi := by
  constructor
  · intro hf
    exact (within_or_right lo x).mono hf.2
  · intro hx
    exact ⟨within_or_left lo x, h.or hx⟩

/-- A value of a `bitflags` (1.x) type whose declared flags together have the
bits `all`. Safe code builds such values only from declared flags and
`from_bits_truncate`, so the bits always lie within `all`. -/
structure Flags (all : UInt64) where
  bits : UInt64
  within : Within bits all

namespace Flags

variable {all : UInt64}

@[ext] theorem ext {x y : Flags all} (h : x.bits = y.bits) : x = y := by
  cases x; cases y; cases h; rfl

instance : DecidableEq (Flags all) := fun x y =>
  decidable_of_iff (x.bits = y.bits) ⟨ext, fun h => h ▸ rfl⟩

/-- `from_bits_truncate`: keep the bits of declared flags. -/
def fromBitsTruncate (x : UInt64) : Flags all := ⟨x &&& all, and_within x all⟩

/-- `empty()`. -/
def empty : Flags all := ⟨0, zero_within all⟩

instance : OrOp (Flags all) := ⟨fun x y => ⟨x.bits ||| y.bits, x.within.or y.within⟩⟩

@[simp] theorem bits_or (x y : Flags all) : (x ||| y).bits = x.bits ||| y.bits := rfl

/-- `contains`: every bit of `y` is set in `x`. -/
def contains (x y : Flags all) : Bool := x.bits &&& y.bits == y.bits

/-- `remove`: clear the bits of `y`. -/
def remove (x y : Flags all) : Flags all :=
  ⟨x.bits &&& ~~~y.bits, by
    apply eq_of_testBit
    intro i
    have h := x.within.testBit i
    simp only [UInt64.toNat_and, Nat.testBit_and]
    cases hxi : x.bits.toNat.testBit i <;> simp_all⟩

/-- `from_bits_truncate(x).contains(b)` for a one-bit flag `b` reads that bit of `x`. -/
theorem contains_bit (x : UInt64) (b : Flags all) {k : Nat} (hb : b.bits.toNat = 2 ^ k) :
    (fromBitsTruncate x : Flags all).contains b = x.toNat.testBit k := by
  have h : x &&& all &&& b.bits = x &&& b.bits := by
    rw [UInt64.and_assoc, UInt64.and_comm all, b.within]
  unfold contains fromBitsTruncate
  simp only
  rw [h, and_bit_beq_self x hb]

theorem contains_iff {x y : Flags all} :
    x.contains y = true ↔ ∀ i, y.bits.toNat.testBit i = true → x.bits.toNat.testBit i = true := by
  unfold contains
  rw [beq_iff_eq, and_eq_self_iff]

theorem contains_or (x a b : Flags all) : x.contains (a ||| b) = (x.contains a && x.contains b) := by
  apply Bool.eq_iff_iff.mpr
  simp only [Bool.and_eq_true, contains_iff, bits_or, UInt64.toNat_or, Nat.testBit_or,
    Bool.or_eq_true]
  exact ⟨fun h => ⟨fun i ha => h i (Or.inl ha), fun i hb => h i (Or.inr hb)⟩,
    fun h i hab => hab.elim (h.1 i) (h.2 i)⟩

/-- A flag that `remove` cleared is not contained. -/
theorem contains_remove_self (x y : Flags all) (hy : y.bits ≠ 0) : (x.remove y).contains y = false := by
  rw [Bool.eq_false_iff]
  intro h
  apply hy
  apply eq_of_testBit
  intro i
  cases hyi : y.bits.toNat.testBit i
  · simp
  · have := contains_iff.mp h i hyi
    simp only [remove, UInt64.toNat_and, Nat.testBit_and, testBit_not _ (lt_of_testBit hyi), hyi,
      Bool.not_true, Bool.and_false] at this
    cases this

/-- `remove` keeps the flags it does not clear. -/
theorem contains_remove_of_disjoint (x y z : Flags all) (h : y.bits &&& z.bits = 0) :
    (x.remove y).contains z = x.contains z := by
  apply Bool.eq_iff_iff.mpr
  simp only [contains_iff]
  refine forall_congr' fun i => imp_congr_right fun hz => ?_
  have hyi : y.bits.toNat.testBit i = false := by
    have := congrArg (fun w : UInt64 => w.toNat.testBit i) h
    simpa [UInt64.toNat_and, Nat.testBit_and, hz] using this
  simp only [remove, UInt64.toNat_and, Nat.testBit_and, testBit_not _ (lt_of_testBit hz), hyi,
    Bool.not_false, Bool.and_true]

@[simp] theorem fromBitsTruncate_bits (x : Flags all) : fromBitsTruncate x.bits = x :=
  ext x.within

end Flags

end Word
