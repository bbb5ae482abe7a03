/-
Rounding of exact quotients, seen in the rational numbers:

* `Ratio.value`: the number that a pair stands for, and what the arithmetic of pairs does to it;
* `NearestEven x m`: the natural number `m` is nearest to `x`, and even if another one is as near;
  `NearestEven.mono`, `NearestEven.unique`: so rounding keeps the order, and leaves no choice;
* `Ratio.nearestEven_round`: rounding finds this number.
-/
import Mathlib.Tactic
import ExternalCompiler.Number.Rounding

namespace ExternalCompiler

/-! ### The value of a pair -/

namespace Ratio

variable {a b : Ratio}

/-- The number that a pair stands for. -/
def value (a : Ratio) : ℚ :=
  a.num / a.den

lemma value_ofNat (n : ℕ) : (ofNat n).value = n := by
  simp [value, ofNat]

lemma value_add (ha : a.den ≠ 0) (hb : b.den ≠ 0) : (a.add b).value = a.value + b.value := by
  simp only [value, add]
  push_cast
  field_simp

/-- Only one of the two exponents of a scaled pair is not zero. -/
lemma pow_toNat_div_pow_toNat {x : ℚ} (hx : x ≠ 0) (k : ℤ) :
    x ^ k.toNat / x ^ (-k).toNat = x ^ k := by
  have hk : ((k.toNat : ℤ) - ((-k).toNat : ℤ)) = k := by omega
  calc x ^ k.toNat / x ^ (-k).toNat
      = x ^ ((k.toNat : ℤ) - ((-k).toNat : ℤ)) := by
        rw [zpow_sub₀ hx, zpow_natCast, zpow_natCast]
    _ = x ^ k := by rw [hk]

lemma value_scaleTwo (a : Ratio) (k : ℤ) : (a.scaleTwo k).value = a.value * 2 ^ k := by
  rw [← pow_toNat_div_pow_toNat two_ne_zero, value, value, div_mul_div_comm]
  simp [scaleTwo]

lemma value_scaleTen (a : Ratio) (k : ℤ) : (a.scaleTen k).value = a.value * 10 ^ k := by
  rw [← pow_toNat_div_pow_toNat (by norm_num), value, value, div_mul_div_comm]
  simp [scaleTen]

lemma den_scaleTwo_ne_zero (ha : a.den ≠ 0) (k : ℤ) : (a.scaleTwo k).den ≠ 0 := by
  simp [scaleTwo, ha]

lemma den_scaleTen_ne_zero (ha : a.den ≠ 0) (k : ℤ) : (a.scaleTen k).den ≠ 0 := by
  simp [scaleTen, ha]

lemma value_nonneg (a : Ratio) : 0 ≤ a.value := by
  rw [value]
  positivity

lemma lt_iff_value_lt (ha : a.den ≠ 0) (hb : b.den ≠ 0) :
    a.lt b = true ↔ a.value < b.value := by
  rw [lt, decide_eq_true_iff, value, value, div_lt_div_iff₀ (by positivity) (by positivity)]
  exact_mod_cast Iff.rfl

end Ratio

/-! ### The nearest natural number -/

/-- `m` is the natural number nearest to `x`; if another one is as near, then `m` is even. -/
structure NearestEven (x : ℚ) (m : ℕ) : Prop where
  near : |(m : ℚ) - x| ≤ 1 / 2
  tie : |(m : ℚ) - x| = 1 / 2 → Even m

namespace NearestEven

variable {x y : ℚ} {m n : ℕ}

lemma natCast (n : ℕ) : NearestEven n n where
  near := by simp
  tie := by norm_num

/-- Rounding keeps the order. Two numbers can only be rounded the wrong way round if they are equal
and lie in the middle of two neighbours, which then would both be even. -/
lemma mono (hm : NearestEven x m) (hn : NearestEven y n) (h : x ≤ y) : m ≤ n := by
  by_contra hlt
  have hstep : (n : ℚ) + 1 ≤ m := by exact_mod_cast Nat.lt_of_not_le hlt
  have hmx := (abs_le.mp hm.near).2
  have hny := (abs_le.mp hn.near).1
  have hmiddle : (m : ℚ) - x = 1 / 2 := by linarith
  have hmiddle' : (n : ℚ) - y = -(1 / 2) := by linarith
  have hsucc : m = n + 1 := by
    have : (m : ℚ) = n + 1 := by linarith
    exact_mod_cast this
  have heven : Even (n + 1) := hsucc ▸ hm.tie (by rw [hmiddle]; norm_num)
  exact (Nat.even_add_one.mp heven) (hn.tie (by rw [hmiddle']; norm_num))

lemma unique (hm : NearestEven x m) (hn : NearestEven x n) : m = n :=
  le_antisymm (hm.mono hn le_rfl) (hn.mono hm le_rfl)

/-- No natural number is nearer, and another one that is as near leaves the even one. -/
lemma le_abs_sub (hm : NearestEven x m) (k : ℕ) :
    |(m : ℚ) - x| ≤ |(k : ℚ) - x| ∧ (|(k : ℚ) - x| = |(m : ℚ) - x| → k = m ∨ Even m) := by
  by_cases hk : k = m
  · subst hk
    exact ⟨le_rfl, fun _ => .inl rfl⟩
  · have hfar : 1 ≤ |(k : ℚ) - m| := by
      have hint : (1 : ℤ) ≤ |(k : ℤ) - m| := Int.one_le_abs (sub_ne_zero.mpr (by exact_mod_cast hk))
      exact_mod_cast hint
    have htriangle : |(k : ℚ) - m| ≤ |(k : ℚ) - x| + |(m : ℚ) - x| := by
      have := abs_sub_le (k : ℚ) x m
      rwa [abs_sub_comm x] at this
    have hnear := hm.near
    refine ⟨by linarith, fun heq => .inr (hm.tie ?_)⟩
    linarith

end NearestEven

/-- A number at most half a unit above a natural number is rounded to it, one in the middle only if
it is even. -/
lemma NearestEven.of_above {q : ℕ} {f : ℚ} (hf : 0 ≤ f) (hle : f ≤ 1 / 2)
    (heven : f = 1 / 2 → Even q) : NearestEven (q + f) q := by
  have habs : |(q : ℚ) - (q + f)| = f := by
    rw [sub_add_cancel_left, abs_neg, abs_of_nonneg hf]
  exact ⟨by rwa [habs], by rwa [habs]⟩

/-- A number at most half a unit below a natural number is rounded to it, one in the middle only if
it is even. -/
lemma NearestEven.of_below {q : ℕ} {f : ℚ} (hf : 1 / 2 ≤ f) (hle : f ≤ 1)
    (heven : f = 1 / 2 → Even (q + 1)) : NearestEven (q + f) (q + 1) := by
  have habs : |((q + 1 : ℕ) : ℚ) - (q + f)| = 1 - f := by
    rw [Nat.cast_succ, add_sub_add_left_eq_sub, abs_of_nonneg (by linarith)]
  refine ⟨by rw [habs]; linarith, fun h => heven ?_⟩
  rw [habs] at h
  linarith

/-- Rounding a quotient finds the nearest natural number, the even one of two. -/
lemma nearestEven_roundEven {n d : ℕ} (hd : d ≠ 0) :
    NearestEven ((n : ℚ) / d) (roundEven n d) := by
  have hpos : (0 : ℚ) < d := by positivity
  have hsplit : (n : ℚ) / d = (n / d : ℕ) + ((n % d : ℕ) : ℚ) / d := by
    rw [eq_comm, ← eq_sub_iff_add_eq', div_eq_iff hpos.ne', sub_mul, div_mul_cancel₀ _ hpos.ne',
      eq_sub_iff_add_eq]
    exact_mod_cast Nat.mod_add_div' n d
  have hhalf : ((n % d : ℕ) : ℚ) / d = 1 / 2 ↔ 2 * (n % d) = d := by
    rw [div_eq_div_iff hpos.ne' two_ne_zero, one_mul, mul_comm]
    exact_mod_cast Iff.rfl
  have hlow : ((n % d : ℕ) : ℚ) / d ≤ 1 / 2 ↔ 2 * (n % d) ≤ d := by
    rw [div_le_div_iff₀ hpos two_pos, one_mul, mul_comm]
    exact_mod_cast Iff.rfl
  have hhigh : 1 / 2 ≤ ((n % d : ℕ) : ℚ) / d ↔ d ≤ 2 * (n % d) := by
    rw [div_le_div_iff₀ two_pos hpos, one_mul, mul_comm]
    exact_mod_cast Iff.rfl
  have hfraction : 0 ≤ ((n % d : ℕ) : ℚ) / d := by positivity
  have hone : ((n % d : ℕ) : ℚ) / d ≤ 1 := by
    rw [div_le_one hpos]
    exact_mod_cast (Nat.mod_lt n (Nat.pos_of_ne_zero hd)).le
  rw [hsplit, roundEven]
  split_ifs with hbelow habove
  · exact .of_above hfraction (hlow.mpr hbelow.le) fun h => absurd (hhalf.mp h) hbelow.ne
  · exact .of_below (hhigh.mpr habove.le) hone fun h => absurd (hhalf.mp h) habove.ne'
  · have hmiddle : 2 * (n % d) = d := by omega
    rcases Nat.mod_two_eq_zero_or_one (n / d) with heven | hodd
    · rw [heven]
      exact .of_above hfraction (hlow.mpr hmiddle.le) fun _ => Nat.even_iff.mpr heven
    · rw [hodd]
      exact .of_below (hhigh.mpr hmiddle.ge) hone fun _ => (Nat.odd_iff.mpr hodd).add_one

namespace Ratio

/-- Rounding a pair rounds its value. -/
lemma nearestEven_round {a : Ratio} (ha : a.den ≠ 0) : NearestEven a.value a.round :=
  nearestEven_roundEven ha

end Ratio

end ExternalCompiler
