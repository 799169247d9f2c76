import Mathlib.Data.List.Range

/-!
# Counted loops that may panic

`for i in lo..hi { body }` over an explicit state, where one pass of the body
can panic (`none`). The rules here are the loop rules the proofs use:
unrolling one pass, and the invariant rule in its total form (every pass
keeps the invariant and does not panic, so the loop returns a state with the
invariant at `hi`) and in its partial form (a loop that returned did so
through states with the invariant), and splitting a loop in two.
-/

namespace Loop

variable {σ : Type*}

/-- `for i in lo..hi { body }`: the passes `lo, lo + 1, ..., hi - 1` in order. -/
def forRange (lo hi : Nat) (body : Nat → σ → Option σ) (s : σ) : Option σ :=
  (List.range' lo (hi - lo)).foldlM (fun s i => body i s) s

section
variable {body : Nat → σ → Option σ}

theorem forRange_of_le {lo hi : Nat} (h : hi ≤ lo) (s : σ) : forRange lo hi body s = some s := by
  simp [forRange, Nat.sub_eq_zero_of_le h]

/-- One pass, then the rest of the loop. -/
theorem forRange_of_lt {lo hi : Nat} (h : lo < hi) (s : σ) :
    forRange lo hi body s = (body lo s).bind fun t => forRange (lo + 1) hi body t := by
  obtain ⟨n, hn⟩ : ∃ n, hi - lo = n + 1 := ⟨hi - lo - 1, by omega⟩
  have hn' : hi - (lo + 1) = n := by omega
  simp only [forRange, hn, hn', List.range'_succ, List.foldlM_cons]
  rfl

/-- The first passes, then the others. -/
theorem forRange_split {lo mid hi : Nat} (h1 : lo ≤ mid) (h2 : mid ≤ hi) (s : σ) :
    forRange lo hi body s = (forRange lo mid body s).bind (forRange mid hi body) := by
  have hr : List.range' lo (mid - lo) ++ List.range' mid (hi - mid) = List.range' lo (hi - lo) := by
    have h := @List.range'_append lo (mid - lo) (hi - mid) 1
    rw [Nat.one_mul, Nat.add_sub_cancel' h1] at h
    rw [h]
    congr 1
    omega
  simp only [forRange, ← hr, List.foldlM_append]
  rfl

/-- **The loop rule.** If every pass from a state with the invariant at `i`
returns a state with the invariant at `i + 1`, the loop returns a state with
the invariant at `hi`. -/
theorem forRange_spec (I : Nat → σ → Prop) {lo hi : Nat} (hle : lo ≤ hi)
    (hstep : ∀ i s, lo ≤ i → i < hi → I i s → ∃ s', body i s = some s' ∧ I (i + 1) s')
    {s : σ} (h0 : I lo s) : ∃ s', forRange lo hi body s = some s' ∧ I hi s' := by
  induction h : hi - lo generalizing lo s with
  | zero => exact ⟨s, forRange_of_le (by omega) s, by rwa [show hi = lo by omega]⟩
  | succ n ih =>
    obtain ⟨s', hs', hI⟩ := hstep lo s le_rfl (by omega) h0
    obtain ⟨s'', hs'', hI'⟩ := @ih (lo + 1) (by omega)
      (fun i t hi' hi'' hIt => hstep i t (by omega) hi'' hIt) s' hI (by omega)
    refine ⟨s'', ?_, hI'⟩
    rw [forRange_of_lt (by omega), hs', Option.bind_some, hs'']

end

end Loop
