import Mathlib.Data.Int.Bitwise

/-! Flags in an integer of any size and sign: `flags & flag` is told from single bits. -/
namespace Flags

/-- `flags & flag` is not zero. -/
def Has (flags flag : ℤ) : Prop := Int.land flags flag ≠ 0

instance (flags flag : ℤ) : Decidable (Has flags flag) := inferInstanceAs (Decidable (_ ≠ _))

theorem ne_zero_iff {x : ℤ} : x ≠ 0 ↔ ∃ k, x.testBit k = true := by
  constructor
  · intro hne
    cases x with
    | ofNat n =>
      apply Nat.exists_testBit_of_ne_zero
      rintro rfl
      exact hne rfl
    | negSucc n =>
      use n
      have hbit : n.testBit n = false := Nat.testBit_lt_two_pow Nat.lt_two_pow_self
      show (!n.testBit n) = true
      rw [hbit]
      rfl
  · rintro ⟨k,hk⟩ rfl
    have hzero : Int.testBit 0 k = Nat.testBit 0 k := rfl
    rw [hzero,Nat.zero_testBit] at hk
    cases hk

theorem has_iff {x y : ℤ} : Has x y ↔ ∃ k, x.testBit k = true ∧ y.testBit k = true := by
  simp only [Has,ne_zero_iff,Int.testBit_land,Bool.and_eq_true]

theorem has_bit {x : ℤ} (i : ℕ) : Has x ((2^i : ℕ) : ℤ) ↔ x.testBit i = true := by
  rw [has_iff]
  constructor
  · rintro ⟨k,hx,hk⟩
    have hik : i = k := by
      apply of_decide_eq_true
      rw [← Nat.testBit_two_pow]
      exact hk
    rwa [hik]
  · intro hx
    exact ⟨i,hx,Nat.testBit_two_pow_self⟩

theorem has_others {x : ℤ} {i n : ℕ} (h : i < n) :
    Has x ((2^n - (2^i + 1) : ℕ) : ℤ) ↔ ∃ k, k ≠ i ∧ k < n ∧ x.testBit k = true := by
  rw [has_iff]
  apply exists_congr
  intro k
  have hbit : Int.testBit ((2^n - (2^i + 1) : ℕ) : ℤ) k = (decide (k < n) && !decide (i = k)) := by
    rw [← Nat.testBit_two_pow]
    exact Nat.testBit_two_pow_sub_succ (Nat.pow_lt_pow_right Nat.one_lt_two h) k
  rw [hbit,Bool.and_eq_true,decide_eq_true_iff,Bool.not_eq_true',decide_eq_false_iff_not]
  constructor
  · rintro ⟨hx,hk,hne⟩
    exact ⟨Ne.symm hne,hk,hx⟩
  · rintro ⟨hne,hk,hx⟩
    exact ⟨hx,hk,Ne.symm hne⟩

theorem lt_of_testBit {x : ℤ} {k n : ℕ} (hx : 0 ≤ x) (hlt : x < 2^n) (hk : x.testBit k = true) :
    k < n := by
  obtain ⟨m,rfl⟩ := Int.eq_ofNat_of_zero_le hx
  by_contra hge
  have hm : m < 2^k := by
    have hm' : m < 2^n := by exact_mod_cast hlt
    exact hm'.trans_le (Nat.pow_le_pow_right Nat.two_pos (Nat.le_of_not_lt hge))
  have hzero : Int.testBit (m : ℤ) k = false := Nat.testBit_lt_two_pow hm
  rw [hzero] at hk
  cases hk

theorem testBit_ite {c : Prop} [Decidable c] (i k : ℕ) :
    Int.testBit (if c then ((2^i : ℕ) : ℤ) else 0) k = true ↔ c ∧ i = k := by
  by_cases hc : c
  · have hbit : Int.testBit ((2^i : ℕ) : ℤ) k = decide (i = k) := Nat.testBit_two_pow
    rw [if_pos hc,hbit,decide_eq_true_iff]
    exact (and_iff_right hc).symm
  · rw [if_neg hc]
    have hzero : Int.testBit 0 k = false := Nat.zero_testBit k
    simp [hc,hzero]

/-- Two flags, each set under its condition. -/
theorem testBit_two {c d : Prop} [Decidable c] [Decidable d] (i j k : ℕ) :
    Int.testBit (Int.lor (if c then ((2^i : ℕ) : ℤ) else 0) (if d then ((2^j : ℕ) : ℤ) else 0)) k =
      true ↔ c ∧ i = k ∨ d ∧ j = k := by
  rw [Int.testBit_lor,Bool.or_eq_true,testBit_ite,testBit_ite]

end Flags
