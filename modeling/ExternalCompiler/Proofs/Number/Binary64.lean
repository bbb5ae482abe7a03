/-
The 64-bit binary format, seen in the rational numbers:

* `Binary64.value`, `Binary64.IsFinite`: the finite numbers of the format, each in its one form;
* `Binary64.Nearest x b`: no number of the format is nearer to `x` than `b`, and the mantissa of `b`
  is even if another one is as near;
* `Binary64.HasUnit`, `Binary64.RoundsTo`: a number is rounded to a multiple of its unit, the power
  of two at which it has 53 bits before the point;
* `RoundsTo.mono`, `RoundsTo.abs_sub_le`, `RoundsTo.natCast`: rounding keeps the order, moves a
  number by half a unit at most, and leaves natural numbers below `2 ^ 53` alone;
* `RoundsTo.nearest`: it finds the nearest number of the format, which is what `ofRatio` does.
-/
import ExternalCompiler.Number.Binary64
import ExternalCompiler.Proofs.Number.Rounding

namespace ExternalCompiler.Binary64

/-! ### The numbers of the format -/

/-- The number that a mantissa and an exponent stand for. -/
def value (b : Binary64) : ℚ :=
  b.mantissa * 2 ^ b.exponent

/-- A finite number of the format: the mantissa has 53 bits and the first one is set, but for the
numbers with the least exponent. -/
structure IsFinite (b : Binary64) : Prop where
  mantissa_lt : b.mantissa < 2 * leadingBit
  least_le : leastExponent ≤ b.exponent
  le_greatest : b.exponent ≤ greatestExponent
  leading : leadingBit ≤ b.mantissa ∨ b.exponent = leastExponent

/-- `b` is the number of the format that is nearest to `x`; if another one is as near, then the
mantissa of `b` is even. -/
structure Nearest (x : ℚ) (b : Binary64) : Prop where
  isFinite : b.IsFinite
  near : ∀ c : Binary64, c.IsFinite → |b.value - x| ≤ |c.value - x|
  tie : ∀ c : Binary64, c.IsFinite → |c.value - x| = |b.value - x| →
    c.value = b.value ∨ Even b.mantissa

variable {x y : ℚ} {b c : Binary64} {e e' k : ℤ} {m n : ℕ}

lemma value_ratio (b : Binary64) : b.ratio.value = b.value := by
  rw [ratio, Ratio.value_scaleTwo, Ratio.value_ofNat, value]

lemma den_ratio_ne_zero (b : Binary64) : b.ratio.den ≠ 0 :=
  Ratio.den_scaleTwo_ne_zero one_ne_zero _

lemma value_nonneg (b : Binary64) : 0 ≤ b.value := by
  rw [value]
  positivity

lemma leadingBit_pos : (0 : ℚ) < leadingBit := by
  norm_num [leadingBit]

lemma even_leadingBit : Even leadingBit :=
  ⟨Nat.pow 2 51, rfl⟩

lemma two_zpow_pos (e : ℤ) : (0 : ℚ) < 2 ^ e :=
  zpow_pos two_pos e

lemma two_zpow_succ (e : ℤ) : (2 : ℚ) ^ (e + 1) = 2 * 2 ^ e := by
  rw [zpow_add_one₀ two_ne_zero, mul_comm]

lemma two_zpow_le (h : e ≤ e') : (2 : ℚ) ^ e ≤ 2 ^ e' :=
  zpow_le_zpow_right₀ one_le_two h

/-! ### Units -/

/-- `2 ^ e` is the unit of `x`: `x` has 53 bits before the point when it is counted in units, or
less if there is no smaller unit. -/
structure HasUnit (x : ℚ) (e : ℤ) : Prop where
  least_le : leastExponent ≤ e
  lt : x < 2 * leadingBit * 2 ^ e
  le : leastExponent < e → leadingBit * 2 ^ e ≤ x

namespace HasUnit

/-- A smaller number has no greater unit. -/
lemma mono (hx : HasUnit x e) (hy : HasUnit y e') (h : x ≤ y) : e ≤ e' := by
  by_contra hlt
  have hleast : leastExponent < e := lt_of_le_of_lt hy.least_le (not_le.mp hlt)
  have hunit : (2 : ℚ) * 2 ^ e' ≤ 2 ^ e := by
    rw [← two_zpow_succ]
    exact two_zpow_le (by omega)
  have hscaled := mul_le_mul_of_nonneg_left hunit leadingBit_pos.le
  have hle := hx.le hleast
  have hlt := hy.lt
  linarith

/-- The unit of a number below `2 ^ 52` units is less than that. -/
lemma lt_of_lt (hx : HasUnit x e) (hlt : x < leadingBit * 2 ^ k) (hk : leastExponent < k) :
    e < k := by
  by_contra hle
  have hunit := mul_le_mul_of_nonneg_left (two_zpow_le (not_lt.mp hle)) leadingBit_pos.le
  have := hx.le (lt_of_lt_of_le hk (not_lt.mp hle))
  linarith

end HasUnit

/-- A positive pair lies between two powers of two that its two logarithms give. -/
lemma log_bounds {a : Ratio} (hnum : a.num ≠ 0) (hden : a.den ≠ 0) :
    (2 : ℚ) ^ ((Nat.log2 a.num : ℤ) - Nat.log2 a.den) < 2 * a.value ∧
      a.value < 2 * 2 ^ ((Nat.log2 a.num : ℤ) - Nat.log2 a.den) := by
  have hlow : (2 : ℚ) ^ Nat.log2 a.num ≤ a.num := by exact_mod_cast Nat.log2_self_le hnum
  have hhigh : (a.num : ℚ) < 2 ^ Nat.log2 a.num * 2 := by
    rw [← pow_succ]
    exact_mod_cast Nat.lt_log2_self
  have hlow' : (2 : ℚ) ^ Nat.log2 a.den ≤ a.den := by exact_mod_cast Nat.log2_self_le hden
  have hhigh' : (a.den : ℚ) < 2 ^ Nat.log2 a.den * 2 := by
    rw [← pow_succ]
    exact_mod_cast Nat.lt_log2_self
  have hpos : (0 : ℚ) < a.den := by positivity
  rw [zpow_sub₀ two_ne_zero, zpow_natCast, zpow_natCast, Ratio.value, ← mul_div_assoc,
    ← mul_div_assoc, div_lt_div_iff₀ (by positivity) hpos, div_lt_div_iff₀ hpos (by positivity)]
  constructor <;> nlinarith [pow_pos (two_pos (α := ℚ)) (Nat.log2 a.num)]

/-- A number that has 53 bits at an exponent has its unit there, or at the least exponent. -/
lemma hasUnit_max (hlt : x < 2 * leadingBit * 2 ^ k) (hle : leadingBit * 2 ^ k ≤ x) :
    HasUnit x (max leastExponent k) where
  least_le := le_max_left _ _
  lt := by
    refine lt_of_lt_of_le hlt (mul_le_mul_of_nonneg_left (two_zpow_le (le_max_right _ _)) ?_)
    exact mul_nonneg two_pos.le leadingBit_pos.le
  le := by
    intro hleast
    rwa [max_eq_right (le_of_lt ((lt_max_iff.mp hleast).resolve_left (lt_irrefl _)))]

/-- The unit of a pair is that of its value. -/
lemma hasUnit_unit {a : Ratio} (hnum : a.num ≠ 0) (hden : a.den ≠ 0) :
    HasUnit a.value (unit a) := by
  obtain ⟨hlow, hhigh⟩ := log_bounds hnum hden
  rw [unit]
  generalize hg : (Nat.log2 a.num : ℤ) - Nat.log2 a.den - 53 = g
  have hpower : (2 : ℚ) ^ ((Nat.log2 a.num : ℤ) - Nat.log2 a.den) = 2 * leadingBit * 2 ^ g := by
    have hbit : (2 : ℚ) * leadingBit = 2 ^ (53 : ℤ) := by norm_num [leadingBit]
    rw [hbit, ← zpow_add₀ two_ne_zero, ← hg, add_sub_cancel]
  rw [hpower] at hlow hhigh
  have hfits : a.lt ((Ratio.ofNat (2 * leadingBit)).scaleTwo g) = true ↔
      a.value < 2 * leadingBit * 2 ^ g := by
    rw [Ratio.lt_iff_value_lt hden (Ratio.den_scaleTwo_ne_zero one_ne_zero _),
      Ratio.value_scaleTwo, Ratio.value_ofNat]
    push_cast
    rfl
  split_ifs with h
  · exact hasUnit_max (hfits.mp h) (by linarith)
  · have hnot := not_lt.mp (mt hfits.mpr h)
    refine hasUnit_max ?_ ?_ <;> rw [two_zpow_succ] <;> linarith

/-! ### Rounding to units -/

/-- So many units of `2 ^ e`, at most `2 ^ 53`. -/
def ofUnits (m : ℕ) (e : ℤ) : Binary64 :=
  if m = 2 * leadingBit then ⟨leadingBit, e + 1⟩ else ⟨m, e⟩

lemma value_ofUnits (m : ℕ) (e : ℤ) : (ofUnits m e).value = m * 2 ^ e := by
  rw [ofUnits]
  split_ifs with hm
  · rw [value, two_zpow_succ, hm]
    push_cast
    ring
  · rfl

/-- `b` is `x`, rounded to units. -/
def RoundsTo (x : ℚ) (b : Binary64) : Prop :=
  ∃ e m, HasUnit x e ∧ NearestEven (x / 2 ^ e) m ∧ b = ofUnits m e

/-- The nearest number to a pair is its value, rounded to units. -/
lemma roundsTo_ofRatio {a : Ratio} (ha : a.den ≠ 0) : RoundsTo a.value (ofRatio a) := by
  rw [ofRatio]
  split_ifs with hzero
  · have hvalue : a.value = 0 := by rw [Ratio.value, hzero, Nat.cast_zero, zero_div]
    refine ⟨leastExponent, 0, ⟨le_rfl, ?_, fun h => absurd h (lt_irrefl _)⟩, ?_, rfl⟩
    · rw [hvalue]
      exact mul_pos (mul_pos two_pos leadingBit_pos) (two_zpow_pos _)
    · rw [hvalue, zero_div]
      exact .natCast 0
  · have hround := Ratio.nearestEven_round (Ratio.den_scaleTwo_ne_zero ha (-unit a))
    rw [Ratio.value_scaleTwo, zpow_neg, ← div_eq_mul_inv] at hround
    exact ⟨unit a, _, hasUnit_unit hzero ha, hround, rfl⟩

namespace RoundsTo

/-- A number below `2 ^ 53` units is rounded to `2 ^ 53` units at most. -/
lemma units_le (hx : HasUnit x e) (hm : NearestEven (x / 2 ^ e) m) : m ≤ 2 * leadingBit := by
  refine hm.mono (.natCast _) ?_
  rw [div_le_iff₀ (two_zpow_pos e)]
  push_cast
  exact hx.lt.le

/-- A number that has all its 53 bits keeps them. -/
lemma le_units (hx : HasUnit x e) (hm : NearestEven (x / 2 ^ e) m) (he : leastExponent < e) :
    leadingBit ≤ m := by
  refine NearestEven.mono (.natCast _) hm ?_
  rw [le_div_iff₀ (two_zpow_pos e)]
  exact hx.le he

/-- **Rounding keeps the order.** -/
theorem mono (hb : RoundsTo x b) (hc : RoundsTo y c) (h : x ≤ y) : b.value ≤ c.value := by
  obtain ⟨e, m, hx, hm, rfl⟩ := hb
  obtain ⟨e', n, hy, hn, rfl⟩ := hc
  rw [value_ofUnits, value_ofUnits]
  rcases (hx.mono hy h).eq_or_lt with rfl | hlt
  · have hmn : (m : ℚ) ≤ n := by
      exact_mod_cast hm.mono hn (div_le_div_of_nonneg_right h (two_zpow_pos e).le)
    exact mul_le_mul_of_nonneg_right hmn (two_zpow_pos e).le
  · have hm' : (m : ℚ) ≤ 2 * leadingBit := by exact_mod_cast units_le hx hm
    have hn' : (leadingBit : ℚ) ≤ n := by
      exact_mod_cast le_units hy hn (lt_of_le_of_lt hx.least_le hlt)
    calc (m : ℚ) * 2 ^ e ≤ 2 * leadingBit * 2 ^ e :=
          mul_le_mul_of_nonneg_right hm' (two_zpow_pos e).le
      _ = leadingBit * 2 ^ (e + 1) := by rw [two_zpow_succ]; ring
      _ ≤ leadingBit * 2 ^ e' := mul_le_mul_of_nonneg_left (two_zpow_le hlt) leadingBit_pos.le
      _ ≤ n * 2 ^ e' := mul_le_mul_of_nonneg_right hn' (two_zpow_pos e').le

/-- A distance in units is a distance. -/
lemma abs_units_sub (z x : ℚ) (e : ℤ) : |z - x / 2 ^ e| * 2 ^ e = |z * 2 ^ e - x| := by
  rw [← abs_of_pos (two_zpow_pos e), ← abs_mul, abs_of_pos (two_zpow_pos e), sub_mul,
    div_mul_cancel₀ _ (two_zpow_pos e).ne']

/-- Rounding moves a number by half a unit at most. -/
lemma abs_sub_le (hb : RoundsTo x b) (hx : x < leadingBit * 2 ^ (k + 1))
    (hk : leastExponent ≤ k) : |b.value - x| ≤ 2 ^ k / 2 := by
  obtain ⟨e, m, hunit, hm, rfl⟩ := hb
  have he : e ≤ k := Int.lt_add_one_iff.mp (hunit.lt_of_lt hx (Int.lt_add_one_of_le hk))
  rw [value_ofUnits, ← abs_units_sub]
  calc |(m : ℚ) - x / 2 ^ e| * 2 ^ e ≤ 1 / 2 * 2 ^ e :=
        mul_le_mul_of_nonneg_right hm.near (two_zpow_pos e).le
    _ ≤ 1 / 2 * 2 ^ k := mul_le_mul_of_nonneg_left (two_zpow_le he) (by norm_num)
    _ = 2 ^ k / 2 := by ring

/-- Natural numbers below `2 ^ 53` are left alone. -/
lemma natCast (hb : RoundsTo n b) (hn : n < 2 * leadingBit) : b.value = n := by
  obtain ⟨e, m, hunit, hm, rfl⟩ := hb
  have he : e < 1 := by
    refine hunit.lt_of_lt ?_ (by decide)
    rw [zpow_one, mul_comm]
    exact_mod_cast hn
  have hpower : (2 : ℚ) ^ e = ((2 ^ (-e).toNat : ℕ) : ℚ)⁻¹ := by
    rw [Nat.cast_pow, Nat.cast_two, ← zpow_natCast, ← zpow_neg]
    congr 1
    omega
  have hunits : (n : ℚ) / 2 ^ e = ((n * 2 ^ (-e).toNat : ℕ) : ℚ) := by
    rw [hpower, div_inv_eq_mul, Nat.cast_mul]
  rw [hunits] at hm
  rw [value_ofUnits, hm.unique (.natCast _), ← hunits, div_mul_cancel₀ _ (two_zpow_pos e).ne']

/-! ### The nearest number of the format -/

/-- Every number of the format is a whole number of units, or less than all numbers that have 53
bits in these units. -/
lemma exists_units (e : ℤ) (hc : c.IsFinite) :
    (∃ z : ℕ, c.value = z * 2 ^ e) ∨ leastExponent < e ∧ c.value < leadingBit * 2 ^ e := by
  rcases le_or_gt e c.exponent with hle | hlt
  · refine .inl ⟨c.mantissa * 2 ^ (c.exponent - e).toNat, ?_⟩
    have hexponent : c.exponent = (c.exponent - e).toNat + e := by omega
    calc c.value = c.mantissa * 2 ^ (((c.exponent - e).toNat : ℤ) + e) := by
          rw [value, ← hexponent]
      _ = _ := by
          rw [zpow_add₀ two_ne_zero, zpow_natCast]
          push_cast
          ring
  · refine .inr ⟨lt_of_le_of_lt hc.least_le hlt, ?_⟩
    have hmantissa : (c.mantissa : ℚ) < 2 * leadingBit := by exact_mod_cast hc.mantissa_lt
    calc c.value < 2 * leadingBit * 2 ^ c.exponent :=
          mul_lt_mul_of_pos_right hmantissa (two_zpow_pos _)
      _ = leadingBit * 2 ^ (c.exponent + 1) := by rw [two_zpow_succ]; ring
      _ ≤ leadingBit * 2 ^ e := mul_le_mul_of_nonneg_left (two_zpow_le hlt) leadingBit_pos.le

/-- No number of the format is nearer to `x` than `x` rounded to units, and if another one is as
near then the number of units is even. -/
lemma near_units (hx : HasUnit x e) (hm : NearestEven (x / 2 ^ e) m) (hc : c.IsFinite) :
    |(m : ℚ) * 2 ^ e - x| ≤ |c.value - x| ∧
      (|c.value - x| = |(m : ℚ) * 2 ^ e - x| → c.value = m * 2 ^ e ∨ Even m) := by
  obtain ⟨z, hz⟩ | ⟨hleast, hlt⟩ := exists_units e hc
  · obtain ⟨hnear, htie⟩ := hm.le_abs_sub z
    rw [hz, ← abs_units_sub, ← abs_units_sub, mul_right_cancel_iff_of_pos (two_zpow_pos e)]
    refine ⟨mul_le_mul_of_nonneg_right hnear (two_zpow_pos e).le, fun h => ?_⟩
    rcases htie h with rfl | heven
    · exact .inl rfl
    · exact .inr heven
  · have hle := hx.le hleast
    have hnear := (hm.le_abs_sub leadingBit).1
    have hscaled := mul_le_mul_of_nonneg_right hnear (two_zpow_pos e).le
    rw [abs_units_sub, abs_units_sub] at hscaled
    have hleading : |(leadingBit : ℚ) * 2 ^ e - x| = x - leadingBit * 2 ^ e := by
      rw [abs_of_nonpos (by linarith), neg_sub]
    have hother : |c.value - x| = x - c.value := by
      rw [abs_of_nonpos (by linarith), neg_sub]
    rw [hleading] at hscaled
    rw [hother]
    exact ⟨by linarith, fun h => by linarith⟩

lemma isFinite_ofUnits (hx : HasUnit x e) (hm : NearestEven (x / 2 ^ e) m)
    (he : e < greatestExponent) : (ofUnits m e).IsFinite := by
  have hbit : 0 < leadingBit := by exact_mod_cast leadingBit_pos
  have hle := units_le hx hm
  have hleast := hx.least_le
  rw [ofUnits]
  split_ifs with hcarry
  · exact ⟨by dsimp only; omega, by dsimp only; omega, by dsimp only; omega, .inl le_rfl⟩
  · refine ⟨lt_of_le_of_ne hle hcarry, hleast, he.le, ?_⟩
    rcases hleast.eq_or_lt with heq | hlt
    · exact .inr heq.symm
    · exact .inl (le_units hx hm hlt)

lemma even_mantissa_ofUnits (hm : Even m) : Even (ofUnits m e).mantissa := by
  rw [ofUnits]
  split_ifs
  · exact even_leadingBit
  · exact hm

/-- **Rounding to units finds the nearest number of the format**, where there is no overflow. -/
theorem nearest (hb : RoundsTo x b) (hx : x < leadingBit * 2 ^ greatestExponent) :
    Nearest x b := by
  obtain ⟨e, m, hunit, hm, rfl⟩ := hb
  have he : e < greatestExponent := hunit.lt_of_lt hx (by decide)
  refine ⟨isFinite_ofUnits hunit hm he, fun c hc => ?_, fun c hc => ?_⟩ <;> rw [value_ofUnits]
  · exact (near_units hunit hm hc).1
  · exact fun h => ((near_units hunit hm hc).2 h).imp id even_mantissa_ofUnits

end RoundsTo

/-! ### Arithmetic -/

lemma roundsTo_ofNat (n : ℕ) : RoundsTo n (ofNat n) := by
  have h := roundsTo_ofRatio (a := .ofNat n) one_ne_zero
  rwa [Ratio.value_ofNat] at h

lemma roundsTo_quotient (n : ℕ) {d : ℕ} (hd : d ≠ 0) : RoundsTo (n / d) (quotient n d) :=
  roundsTo_ofRatio (a := ⟨n, d⟩) hd

lemma roundsTo_add (b c : Binary64) : RoundsTo (b.value + c.value) (b.add c) := by
  have hden : (b.ratio.add c.ratio).den ≠ 0 :=
    mul_ne_zero b.den_ratio_ne_zero c.den_ratio_ne_zero
  have h := roundsTo_ofRatio hden
  rwa [Ratio.value_add b.den_ratio_ne_zero c.den_ratio_ne_zero, value_ratio, value_ratio] at h

end ExternalCompiler.Binary64
