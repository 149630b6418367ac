import Mathlib.Data.Nat.Init
import Mathlib.Tactic.Common

/-!
# Intervals that fill a range

A list of closed intervals of positive numbers, which may overlap and of which those that end
before they start are empty. It covers exactly the numbers from one to `n` if and only if no interval
reaches beyond `n`, one of them starts at one, and each that ends before `n` is continued by another
(`covers_iff_fills`).
-/

namespace Intervals

/-- A number lies in one of the intervals. -/
def Covers (l : List (ℕ × ℕ)) (k : ℕ) : Prop := ∃ i ∈ l, i.1 ≤ k ∧ k ≤ i.2

/-- The intervals follow on each other from one to `n`. -/
structure Fills (l : List (ℕ × ℕ)) (n : ℕ) : Prop where
  le : ∀ i ∈ l, i.1 ≤ i.2 → i.2 ≤ n
  first : 1 ≤ n → ∃ i ∈ l, i.1 ≤ 1 ∧ 1 ≤ i.2
  next : ∀ i ∈ l, i.1 ≤ i.2 → i.2 < n → ∃ j ∈ l, j.1 ≤ i.2 + 1 ∧ i.2 + 1 ≤ j.2

instance (l : List (ℕ × ℕ)) (n : ℕ) : Decidable (Fills l n) :=
  decidable_of_iff ((∀ i ∈ l, i.1 ≤ i.2 → i.2 ≤ n) ∧ (1 ≤ n → ∃ i ∈ l, i.1 ≤ 1 ∧ 1 ≤ i.2) ∧
      ∀ i ∈ l, i.1 ≤ i.2 → i.2 < n → ∃ j ∈ l, j.1 ≤ i.2 + 1 ∧ i.2 + 1 ≤ j.2)
    ⟨fun h => ⟨h.1, h.2.1, h.2.2⟩, fun h => ⟨h.le, h.first, h.next⟩⟩

variable {l : List (ℕ × ℕ)} {n : ℕ}

lemma Fills.covers (h : Fills l n) {k : ℕ} (hk : 1 ≤ k) (hkn : k ≤ n) : Covers l k := by
  induction k, hk using Nat.le_induction with
  | base => exact h.first hkn
  | succ k _ ih =>
    obtain ⟨i, hi, hik, hki⟩ := ih (by omega)
    -- the interval of `k` reaches `k + 1`, or another one takes over
    by_cases hreach : k + 1 ≤ i.2
    · exact ⟨i, hi, by omega, hreach⟩
    · obtain rfl : i.2 = k := by omega
      exact h.next i hi hik (by omega)

theorem covers_iff_fills (hpos : ∀ i ∈ l, 1 ≤ i.1) :
    (∀ k, Covers l k ↔ 1 ≤ k ∧ k ≤ n) ↔ Fills l n := by
  constructor
  · intro h
    have hmem {i : ℕ × ℕ} (hi : i ∈ l) (hle : i.1 ≤ i.2) : i.2 ≤ n :=
      ((h i.2).mp ⟨i, hi, hle, Nat.le_refl _⟩).2
    refine ⟨fun i hi hle => hmem hi hle, fun hn => ?_, fun i hi hle hlt => ?_⟩
    · exact (h 1).mpr ⟨Nat.le_refl 1, hn⟩
    · exact (h (i.2 + 1)).mpr ⟨by omega, hlt⟩
  · intro h k
    constructor
    · rintro ⟨i, hi, hik, hki⟩
      have hfirst := hpos i hi
      have hlast := h.le i hi (by omega)
      omega
    · rintro ⟨hk, hkn⟩
      exact h.covers hk hkn

end Intervals
