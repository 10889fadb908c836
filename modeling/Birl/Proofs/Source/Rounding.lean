import Birl.Number.Writing
import Birl.Proofs.Source.Digits
import Mathlib.Algebra.Order.Field.Power
import Mathlib.Data.Nat.Log
import Mathlib.Tactic

/-!
# Rounding to a number, and the shortest decimal

The ratios that are read as a number are those of an interval around it (`Nearest`),
`ofRatio?` gives the number for each of them (`ofRatio?_nearest`), and the shortest
decimal of a number is one of them (`nearest_shortest`).
-/

namespace Birl.Number

theorem pow_toNat_div (base : ℚ) (k : ℤ) :
    base ^ k.toNat / base ^ (-k).toNat = base ^ k := by
  rcases Int.eq_nat_or_neg k with ⟨n, rfl | rfl⟩
  · simp
  · simp

-- ---------------------------------------------------------------------------
-- Rounding
-- ---------------------------------------------------------------------------

/-- The quotient is rounded to a number that is at most half away, where a tie goes to
the even one. -/
theorem roundQuotient_eq {a b n : ℕ} (hb : 0 < b) (hlow : (n : ℚ) - 1 / 2 ≤ a / b)
    (hhigh : (a : ℚ) / b ≤ n + 1 / 2)
    (hodd : n % 2 = 1 → (n : ℚ) - 1 / 2 < a / b ∧ (a : ℚ) / b < n + 1 / 2) :
    roundQuotient a b = n := by
  have hbq : (0 : ℚ) < b := by exact_mod_cast hb
  have hlow' : 2 * n * b ≤ 2 * a + b := by
    rw [le_div_iff₀ hbq] at hlow
    have : (2 : ℚ) * n * b ≤ 2 * a + b := by linarith
    exact_mod_cast this
  have hhigh' : 2 * a ≤ 2 * n * b + b := by
    rw [div_le_iff₀ hbq] at hhigh
    have : (2 : ℚ) * a ≤ 2 * n * b + b := by linarith
    exact_mod_cast this
  have hodd' : n % 2 = 1 → 2 * n * b < 2 * a + b ∧ 2 * a < 2 * n * b + b := by
    intro h
    obtain ⟨h₁, h₂⟩ := hodd h
    rw [lt_div_iff₀ hbq] at h₁
    rw [div_lt_iff₀ hbq] at h₂
    have h₁ : (2 : ℚ) * n * b < 2 * a + b := by linarith
    have h₂ : (2 : ℚ) * a < 2 * n * b + b := by linarith
    exact ⟨by exact_mod_cast h₁, by exact_mod_cast h₂⟩
  have hdiv : b * (a / b) + a % b = a := Nat.div_add_mod a b
  have hrest : a % b < b := Nat.mod_lt a hb
  unfold roundQuotient
  dsimp only
  generalize a / b = q at hdiv ⊢
  generalize a % b = r at hdiv hrest ⊢
  subst hdiv
  have hle : q ≤ n := by
    by_contra h
    have : b * (n + 1) ≤ b * q := Nat.mul_le_mul_left b (by omega)
    nlinarith
  have hge : n ≤ q + 1 := by
    by_contra h
    have : b * (q + 2) ≤ b * n := Nat.mul_le_mul_left b (by omega)
    nlinarith
  have hcomm : 2 * n * b = 2 * (b * n) := by ring
  rw [hcomm] at hlow' hhigh' hodd'
  rcases Nat.lt_or_ge q n with hlt | hge'
  · have hn : n = q + 1 := by omega
    subst hn
    rw [Nat.mul_add] at hlow' hhigh' hodd'
    rw [if_neg]
    simp only [Bool.or_eq_true, Bool.and_eq_true, decide_eq_true_eq, beq_iff_eq]
    omega
  · have hn : n = q := by omega
    subst hn
    rw [if_pos]
    simp only [Bool.or_eq_true, Bool.and_eq_true, decide_eq_true_eq, beq_iff_eq]
    omega

theorem bitLength_bounds {n : ℕ} (h : 0 < n) :
    (2 : ℚ) ^ ((bitLength n : ℤ) - 1) ≤ n ∧ (n : ℚ) < 2 ^ (bitLength n : ℤ) := by
  have hne : n ≠ 0 := by omega
  rw [bitLength, if_neg hne]
  constructor
  · have hle : 2 ^ Nat.log2 n ≤ n := Nat.log2_self_le hne
    have hexp : ((Nat.log2 n + 1 : ℕ) : ℤ) - 1 = (Nat.log2 n : ℕ) := by omega
    rw [hexp, zpow_natCast]
    exact_mod_cast hle
  · have hlt : n < 2 ^ (Nat.log2 n + 1) := Nat.lt_log2_self
    rw [zpow_natCast]
    exact_mod_cast hlt

theorem ratio_scaled (num den : ℕ) (s : ℤ) :
    ((num * 2 ^ (-s).toNat : ℕ) : ℚ) / (den * 2 ^ s.toNat : ℕ) = num / den / 2 ^ s := by
  rw [← pow_toNat_div 2 s]
  push_cast
  field_simp

/-- The bits that a ratio of a given size is rounded to. -/
def ratioBits (num den : ℕ) (s : ℤ) : ℕ :=
  scaled num den (max s (-1074)) + (max s (-1074) + 1074).toNat * fractionEnd

/-- The exponent is the one that puts the ratio between `2 ^ 52` and `2 ^ 53`. -/
theorem ofRatio?_eq {num den : ℕ} (hn : 0 < num) (hd : 0 < den) :
    ∃ s : ℤ, (2 : ℚ) ^ (s + 52) ≤ num / den ∧ (num : ℚ) / den < 2 ^ (s + 53) ∧
      ofRatio? num den = if ratioBits num den s ≥ 2047 * fractionEnd then none
        else some ⟨(ratioBits num den s).toUInt64⟩ := by
  obtain ⟨hn₁, hn₂⟩ := bitLength_bounds hn
  obtain ⟨hd₁, hd₂⟩ := bitLength_bounds hd
  have hdq : (0 : ℚ) < den := by exact_mod_cast hd
  have htwo : (2 : ℚ) ≠ 0 := by norm_num
  rw [ofRatio?, if_neg (by omega)]
  dsimp only
  generalize hnear : (bitLength num : ℤ) - bitLength den - 53 = near
  have hlow : (2 : ℚ) ^ (near + 52) ≤ num / den := by
    rw [le_div_iff₀ hdq]
    calc (2 : ℚ) ^ (near + 52) * den ≤ 2 ^ (near + 52) * 2 ^ (bitLength den : ℤ) := by
          gcongr
      _ = 2 ^ ((bitLength num : ℤ) - 1) := by
          rw [← zpow_add₀ htwo]
          congr 1
          omega
      _ ≤ num := hn₁
  have hhigh : (num : ℚ) / den < 2 ^ (near + 54) := by
    rw [div_lt_iff₀ hdq]
    calc (num : ℚ) < 2 ^ (bitLength num : ℤ) := hn₂
      _ = 2 ^ (near + 54) * 2 ^ ((bitLength den : ℤ) - 1) := by
          rw [← zpow_add₀ htwo]
          congr 1
          omega
      _ ≤ 2 ^ (near + 54) * den := by gcongr
  have hwide : num * Nat.pow 2 (-near).toNat ≥ den * Nat.pow 2 near.toNat * (2 * fractionEnd) ↔
      (2 : ℚ) ^ (near + 53) ≤ num / den := by
    have hpos : (0 : ℚ) < (den * 2 ^ near.toNat : ℕ) := by positivity
    have hscaled := ratio_scaled num den near
    have hend : ((2 * fractionEnd : ℕ) : ℚ) = 2 ^ (53 : ℤ) := by norm_num
    rw [zpow_add₀ htwo, mul_comm ((2 : ℚ) ^ near), ← le_div_iff₀ (by positivity), ← hscaled,
      ← hend, le_div_iff₀ hpos, mul_comm ((2 * fractionEnd : ℕ) : ℚ), ← Nat.cast_mul, Nat.cast_le]
    rfl
  by_cases h : (2 : ℚ) ^ (near + 53) ≤ num / den
  · refine ⟨near + 1, ?_, ?_, ?_⟩
    · rwa [show near + 1 + 52 = near + 53 by ring]
    · rwa [show near + 1 + 53 = near + 54 by ring]
    · simp only [hwide.mpr h, decide_true, if_true, ratioBits]
      rfl
  · refine ⟨near, hlow, lt_of_not_ge h, ?_⟩
    simp only [mt hwide.mp h, decide_false, if_false, ratioBits, Bool.false_eq_true]
    rfl

-- ---------------------------------------------------------------------------
-- The ratios that are read as a number
-- ---------------------------------------------------------------------------

/-- Whether the next smaller number is only half as far away as the next larger one. -/
def tight (x : Number) : Bool := x.fractionBits == 0 && x.exponentBits > 1

/-- How far below the number a ratio may lie, in quarters of the unit. -/
def below (x : Number) : ℚ := if x.tight then 1 else 2

/-- The ratio is nearest to the number, or half way to the next one and the number is the
even one. -/
structure Nearest (x : Number) (q : ℚ) : Prop where
  low : (4 * x.significand - x.below) * 2 ^ (x.scale - 2) ≤ q
  high : q ≤ (4 * x.significand + 2) * 2 ^ (x.scale - 2)
  odd : x.significand % 2 = 1 → (4 * x.significand - x.below) * 2 ^ (x.scale - 2) < q ∧
    q < (4 * x.significand + 2) * 2 ^ (x.scale - 2)

/-- Bits, significand and scale of a finite number. -/
structure Parts (x : Number) : Prop where
  bits : (x.bits.toNat : ℤ) = x.significand + (x.scale + 1074) * fractionEnd
  significand : x.significand < 2 * fractionEnd
  normal : -1074 < x.scale → fractionEnd ≤ x.significand
  low : -1074 ≤ x.scale
  high : x.scale ≤ 971
  tight : -1074 < x.scale → x.significand = fractionEnd → x.tight = true

theorem Plain.parts {x : Number} (h : x.Plain) : x.Parts := by
  have hbits : x.bits.toNat = x.exponentBits * fractionEnd + x.fractionBits := by
    have hlt : x.bits.toNat / fractionEnd < 2048 :=
      Nat.div_lt_of_lt_mul (Nat.lt_trans h (by decide))
    rw [exponentBits, fractionBits, Nat.mod_eq_of_lt hlt, mul_comm]
    exact (Nat.div_add_mod _ _).symm
  have hfraction : x.fractionBits < fractionEnd := Nat.mod_lt _ (by decide)
  have hexponent : x.exponentBits < 2047 := by
    by_contra hge
    have := Nat.mul_le_mul_right fractionEnd (Nat.le_of_not_lt hge)
    unfold Plain at h
    omega
  by_cases h0 : x.exponentBits = 0
  · have hs : x.significand = x.fractionBits := if_pos h0
    have he : x.scale = -1074 := by simp [Number.scale, h0]
    refine ⟨?_, ?_, ?_, ?_, ?_, ?_⟩ <;> simp_all; omega
  · have hs : x.significand = fractionEnd + x.fractionBits := if_neg h0
    have he : x.scale = x.exponentBits - 1075 := by
      have hmax : max x.exponentBits 1 = x.exponentBits := by omega
      rw [Number.scale, hmax]
    refine ⟨?_, ?_, ?_, ?_, ?_, ?_⟩
    · rw [hbits, hs, he]
      push_cast
      ring
    · rw [hs]
      omega
    · rw [hs]
      omega
    · rw [he]
      omega
    · rw [he]
      omega
    · intro hscale hsig
      have hzero : x.fractionBits = 0 := by omega
      have hone : 1 < x.exponentBits := by omega
      simp [Number.tight, hzero, hone]

theorem ratioBits_eq (num : ℕ) {den n : ℕ} {s : ℤ} (hd : 0 < den)
    (hlow : (n - 1 / 2) * (2 : ℚ) ^ max s (-1074) ≤ num / den)
    (hhigh : (num : ℚ) / den ≤ (n + 1 / 2) * 2 ^ max s (-1074))
    (hodd : n % 2 = 1 → (n - 1 / 2) * (2 : ℚ) ^ max s (-1074) < num / den ∧
      (num : ℚ) / den < (n + 1 / 2) * 2 ^ max s (-1074)) :
    (ratioBits num den s : ℤ) = n + (max s (-1074) + 1074) * fractionEnd := by
  have hround : scaled num den (max s (-1074)) = n := by
    generalize max s (-1074) = k at hlow hhigh hodd ⊢
    have hunit : (0 : ℚ) < 2 ^ k := by positivity
    have hscaled := ratio_scaled num den k
    refine roundQuotient_eq (Nat.mul_pos hd (Nat.two_pow_pos _)) ?_ ?_ ?_
    · exact (le_div_iff₀ hunit).mpr hlow |>.trans_eq hscaled.symm
    · exact hscaled.trans_le ((div_le_iff₀ hunit).mpr hhigh)
    · intro hn
      obtain ⟨h₁, h₂⟩ := hodd hn
      exact ⟨((lt_div_iff₀ hunit).mpr h₁).trans_eq hscaled.symm,
        hscaled.trans_lt ((div_lt_iff₀ hunit).mpr h₂)⟩
  have hnonneg : 0 ≤ max s (-1074) + 1074 := by omega
  rw [ratioBits, hround]
  push_cast
  rw [Int.toNat_of_nonneg hnonneg]

theorem zpow_eq_quarters (e : ℤ) : (2 : ℚ) ^ e = 4 * 2 ^ (e - 2) := by
  rw [zpow_sub₀ two_ne_zero]
  ring

theorem zpow_eq_two_quarters (e : ℤ) : (2 : ℚ) ^ (e - 1) = 2 * 2 ^ (e - 2) := by
  rw [zpow_sub₀ two_ne_zero, zpow_sub₀ two_ne_zero]
  ring

theorem below_le_two (x : Number) : x.below ≤ 2 := by
  unfold below
  split <;> norm_num

section
variable {x : Number} {num den : ℕ} {s : ℤ}

/-- The unit of the number is not smaller than that of a ratio nearest to it. -/
theorem Nearest.le_scale (hq : x.Nearest (num / den)) (hp : x.Parts)
    (hlow : (2 : ℚ) ^ (s + 52) ≤ num / den) : s ≤ x.scale := by
  have hsig : (x.significand : ℚ) + 1 ≤ 2 ^ 53 := by
    have hlt := hp.significand
    have hend : fractionEnd = 2 ^ 52 := rfl
    have hle : x.significand + 1 ≤ 2 ^ 53 := by omega
    exact_mod_cast hle
  have hlt : (2 : ℚ) ^ (s + 52) < 2 ^ (x.scale + 53) := by
    calc (2 : ℚ) ^ (s + 52) ≤ num / den := hlow
      _ ≤ (4 * x.significand + 2) * 2 ^ (x.scale - 2) := hq.high
      _ < 4 * 2 ^ 53 * 2 ^ (x.scale - 2) := by
          gcongr
          linarith
      _ = 2 ^ (x.scale + 53) := by
          rw [zpow_add₀ two_ne_zero, zpow_eq_quarters x.scale]
          norm_cast
          ring
  have hexponents := (zpow_lt_zpow_iff_right₀ one_lt_two).mp hlt
  omega

theorem Nearest.bits_same (hq : x.Nearest (num / den)) (hp : x.Parts) (hd : 0 < den)
    (hmax : max s (-1074) = x.scale) : (ratioBits num den s : ℤ) = x.bits.toNat := by
  have hbelow := x.below_le_two
  have hpos : (0 : ℚ) < 2 ^ (x.scale - 2) := by positivity
  have hlow : (x.significand - 1 / 2) * 2 ^ x.scale ≤
      (4 * x.significand - x.below) * (2 : ℚ) ^ (x.scale - 2) := by
    rw [zpow_eq_quarters x.scale]
    nlinarith
  have hhigh : (4 * x.significand + 2) * (2 : ℚ) ^ (x.scale - 2) =
      (x.significand + 1 / 2) * 2 ^ x.scale := by
    rw [zpow_eq_quarters x.scale]
    ring
  rw [hp.bits, ← hmax]
  refine ratioBits_eq num hd ?_ ?_ ?_
  · rw [hmax]
    exact hlow.trans hq.low
  · rw [hmax]
    exact hq.high.trans_eq hhigh
  · intro hodd
    obtain ⟨h₁, h₂⟩ := hq.odd hodd
    rw [hmax]
    exact ⟨hlow.trans_lt h₁, h₂.trans_eq hhigh⟩

/-- A ratio nearest to a number, with a smaller unit: it is below a power of two, and its unit is
half as large. -/
theorem Nearest.bits_below (hq : x.Nearest (num / den)) (hp : x.Parts) (hd : 0 < den)
    (hhigh : (num : ℚ) / den < 2 ^ (s + 53)) (hs : max s (-1074) < x.scale) :
    (ratioBits num den s : ℤ) = x.bits.toNat := by
  have hend : fractionEnd = 2 ^ 52 := rfl
  have hpos : (0 : ℚ) < 2 ^ (x.scale - 2) := by positivity
  have hnormal : -1074 < x.scale := (le_max_right _ _).trans_lt hs
  have hlt : (num : ℚ) / den < 2 ^ 54 * 2 ^ (x.scale - 2) := by
    calc (num : ℚ) / den < 2 ^ (s + 53) := hhigh
      _ ≤ 2 ^ (x.scale - 2 + 54) := zpow_le_zpow_right₀ one_le_two (by omega)
      _ = 2 ^ 54 * 2 ^ (x.scale - 2) := by
          rw [zpow_add₀ two_ne_zero, mul_comm]
          norm_cast
  have hpower : x.significand = fractionEnd := by
    have hfour : (4 * x.significand - x.below) < (2 ^ 54 : ℚ) :=
      lt_of_mul_lt_mul_right (hq.low.trans_lt hlt) hpos.le
    have hfour' : (4 * x.significand : ℚ) < 2 ^ 54 + 2 := by linarith [x.below_le_two]
    have hnat : 4 * x.significand < 2 ^ 54 + 2 := by exact_mod_cast hfour'
    have hge := hp.normal hnormal
    omega
  have hone : x.below = 1 := if_pos (hp.tight hnormal hpower)
  have hlow : (2 ^ 54 - 1) * 2 ^ (x.scale - 2) ≤ (num : ℚ) / den := by
    have hl := hq.low
    rw [hpower, hone] at hl
    refine le_trans (le_of_eq ?_) hl
    norm_num
  have hge : x.scale - 1 ≤ s := by
    have hlt' : (2 : ℚ) ^ (x.scale - 2 + 53) < 2 ^ (s + 53) := by
      refine lt_of_le_of_lt ?_ (hlow.trans_lt hhigh)
      rw [zpow_add₀ two_ne_zero, mul_comm]
      gcongr
      norm_num
    have hexponents := (zpow_lt_zpow_iff_right₀ one_lt_two).mp hlt'
    omega
  have hmax : max s (-1074) = x.scale - 1 := by omega
  have hround := ratioBits_eq num (n := 2 * fractionEnd) (s := s) hd
  rw [hmax, zpow_eq_two_quarters] at hround
  rw [hround, hp.bits, hpower]
  · push_cast
    ring
  · refine le_trans (le_of_eq ?_) hlow
    push_cast
    ring
  · refine hlt.le.trans ?_
    push_cast
    nlinarith
  · intro hodd
    exact absurd hodd (by decide)

/-- Every ratio that is nearest to a number is rounded to it. -/
theorem ofRatio?_nearest (h : x.Plain) (hn : 0 < num) (hd : 0 < den) (hq : x.Nearest (num / den)) :
    ofRatio? num den = some x := by
  have hp := h.parts
  obtain ⟨s, hlow, hhigh, hratio⟩ := ofRatio?_eq hn hd
  have hscale := max_le (hq.le_scale hp hlow) hp.low
  have hbits : (ratioBits num den s : ℤ) = x.bits.toNat := by
    rcases hscale.eq_or_lt with hmax | hmax
    · exact hq.bits_same hp hd hmax
    · exact hq.bits_below hp hd hhigh hmax
  have hbits : ratioBits num den s = x.bits.toNat := by exact_mod_cast hbits
  rw [hratio, hbits, if_neg (Nat.not_le_of_lt h)]
  simp

end

-- ---------------------------------------------------------------------------
-- The shortest decimal
-- ---------------------------------------------------------------------------

section
variable {m : ℕ} {e : ℤ} {narrow : Bool} {power : ℤ}

/-- A quarter of the unit of the number on the scale of the interval. -/
def quarter (e power : ℤ) : ℕ := 2 ^ (e - 2).toNat * 10 ^ (-power).toNat

/-- On the scale of the interval `n` grid units are `n * 10 ^ power`, and so many quarters
are that many times `2 ^ (e - 2)`. -/
theorem cast_unit (n : ℕ) :
    ((n * (Shortest.interval m e narrow power).unit : ℕ) : ℚ) =
      n * 10 ^ power * (2 ^ (-(e - 2)).toNat * 10 ^ (-power).toNat) := by
  have hunit : (Shortest.interval m e narrow power).unit =
      2 ^ (-(e - 2)).toNat * 10 ^ power.toNat := by
    rw [show -(e - 2) = 2 - e by ring]
    rfl
  rw [← pow_toNat_div 10 power, hunit]
  push_cast
  field_simp

theorem cast_quarter (k : ℕ) :
    ((k * quarter e power : ℕ) : ℚ) =
      k * 2 ^ (e - 2) * (2 ^ (-(e - 2)).toNat * 10 ^ (-power).toNat) := by
  rw [← pow_toNat_div 2 (e - 2), quarter]
  push_cast
  field_simp

theorem quarter_lt_unit (n k : ℕ) :
    k * quarter e power < n * (Shortest.interval m e narrow power).unit ↔
      (k : ℚ) * 2 ^ (e - 2) < n * 10 ^ power := by
  rw [← Nat.cast_lt (α := ℚ), cast_unit, cast_quarter]
  exact mul_lt_mul_iff_left₀ (by positivity)

theorem unit_lt_quarter (n k : ℕ) :
    n * (Shortest.interval m e narrow power).unit < k * quarter e power ↔
      (n : ℚ) * 10 ^ power < k * 2 ^ (e - 2) := by
  rw [← Nat.cast_lt (α := ℚ), cast_unit, cast_quarter]
  exact mul_lt_mul_iff_left₀ (by positivity)

theorem unit_eq_quarter (n k : ℕ) :
    n * (Shortest.interval m e narrow power).unit = k * quarter e power ↔
      (n : ℚ) * 10 ^ power = k * 2 ^ (e - 2) := by
  rw [← Nat.cast_inj (R := ℚ), cast_unit, cast_quarter]
  exact mul_left_inj' (by positivity)

/-- What the grid takes for nearest to the number is in its interval. -/
theorem holds_nearest? {i : Shortest.Interval} {n : ℕ} (h : i.nearest? = some n) :
    i.holds n = true := by
  unfold Shortest.Interval.nearest? at h
  dsimp only at h
  split at h
  · rename_i hbelow habove
    simp only [Bool.and_eq_true] at habove
    split at h
    · cases h
      exact hbelow
    · cases h
      exact habove.2
  · rename_i hbelow _
    cases h
    exact hbelow
  · rename_i _ habove
    simp only [Bool.and_eq_true] at habove
    cases h
    exact habove.2
  · cases h

theorem nearest?_isSome {i : Shortest.Interval} (h : i.holds (i.value / i.unit) = true) :
    i.nearest?.isSome = true := by
  unfold Shortest.Interval.nearest?
  simp only [h]
  split
  · split <;> rfl
  · rfl
  · rename_i hfalse _
    cases hfalse
  · rename_i hfalse _
    cases hfalse

theorem nearest?_fine (hm : 0 < m) (h : (10 : ℚ) ^ power ≤ 2 ^ (e - 2)) :
    (Shortest.interval m e narrow power).nearest?.isSome = true := by
  have hunit : (Shortest.interval m e narrow power).unit ≤ quarter e power := by
    have hlt : ¬1 * quarter e power < 1 * (Shortest.interval m e narrow power).unit ↔ _ :=
      (quarter_lt_unit 1 1).not
    simp only [one_mul, Nat.cast_one, not_lt] at hlt
    exact hlt.mpr h
  have hpos : 0 < (Shortest.interval m e narrow power).unit := by
    show 0 < 2 ^ (2 - e).toNat * 10 ^ power.toNat
    positivity
  refine nearest?_isSome ?_
  have hvalue : (Shortest.interval m e narrow power).value = 4 * m * quarter e power := rfl
  have hlow : (Shortest.interval m e narrow power).low =
      (4 * m - if narrow then 1 else 2) * quarter e power := rfl
  have hhigh : (Shortest.interval m e narrow power).high = (4 * m + 2) * quarter e power := rfl
  have hdiv := Nat.div_add_mod (Shortest.interval m e narrow power).value
    (Shortest.interval m e narrow power).unit
  have hrest := Nat.mod_lt (Shortest.interval m e narrow power).value hpos
  simp only [Shortest.Interval.holds, Bool.or_eq_true, Bool.and_eq_true, decide_eq_true_eq]
  refine .inl ⟨?_, ?_⟩
  · have hle : (4 * m - if narrow then 1 else 2) * quarter e power ≤
        (4 * m - 1) * quarter e power := Nat.mul_le_mul_right _ (by split <;> omega)
    have hsub : (4 * m - 1) * quarter e power + quarter e power = 4 * m * quarter e power := by
      obtain ⟨k, hk⟩ : ∃ k, 4 * m = k + 1 := ⟨4 * m - 1, by omega⟩
      rw [hk, Nat.add_sub_cancel]
      ring
    rw [hlow, mul_comm _ (Shortest.interval m e narrow power).unit]
    omega
  · have hlt : 4 * m * quarter e power < (4 * m + 2) * quarter e power := by
      nlinarith
    rw [hhigh, mul_comm _ (Shortest.interval m e narrow power).unit]
    omega

theorem ten_zpow_le {k j : ℤ} (h : 10 * k ≤ 3 * j) (h' : 93 * k ≤ 28 * j) :
    (10 : ℚ) ^ k ≤ 2 ^ j := by
  rcases Int.eq_nat_or_neg k with ⟨n, rfl | rfl⟩
  · obtain ⟨i, rfl⟩ : ∃ i : ℕ, j = i := ⟨j.toNat, by omega⟩
    rw [zpow_natCast, zpow_natCast]
    refine (pow_le_pow_iff_left₀ (by positivity) (by positivity) (n := 3) (by norm_num)).mp ?_
    calc ((10 : ℚ) ^ n) ^ 3 = (10 ^ 3) ^ n := by rw [← pow_mul, ← pow_mul, mul_comm]
      _ ≤ (2 ^ 10) ^ n := by gcongr; norm_num
      _ = 2 ^ (10 * n) := by rw [← pow_mul]
      _ ≤ 2 ^ (i * 3) := pow_le_pow_right₀ (by norm_num) (by omega)
      _ = (2 ^ i) ^ 3 := by rw [pow_mul]
  · rcases Int.eq_nat_or_neg j with ⟨i, rfl | rfl⟩
    · rw [zpow_neg, zpow_natCast, zpow_natCast]
      refine (inv_le_one_of_one_le₀ ?_).trans ?_
      · exact one_le_pow₀ (by norm_num)
      · exact one_le_pow₀ (by norm_num)
    · rw [zpow_neg, zpow_neg, zpow_natCast, zpow_natCast]
      refine inv_anti₀ (by positivity) ?_
      refine (pow_le_pow_iff_left₀ (by positivity) (by positivity) (n := 28) (by norm_num)).mp ?_
      calc ((2 : ℚ) ^ i) ^ 28 = 2 ^ (i * 28) := by rw [pow_mul]
        _ ≤ 2 ^ (93 * n) := pow_le_pow_right₀ (by norm_num) (by omega)
        _ = (2 ^ 93) ^ n := by rw [pow_mul]
        _ ≤ (10 ^ 28) ^ n := by gcongr; norm_num
        _ = (10 ^ n) ^ 28 := by rw [← pow_mul, ← pow_mul, mul_comm]

/-- The search stops at a grid that has a unit in the interval. -/
theorem search_found {tries : ℕ} {start : ℤ} {k : ℕ} (hk : k < tries)
    (h : (Shortest.interval m e narrow (start - k)).nearest?.isSome = true) :
    ∃ n power, Shortest.search m e narrow tries start = (n, power) ∧
      (Shortest.interval m e narrow power).nearest? = some n := by
  induction tries generalizing start k with
  | zero => omega
  | succ tries ih =>
    unfold Shortest.search
    split
    · rename_i digits hdigits
      exact ⟨digits, start, rfl, hdigits⟩
    · rename_i hnone
      cases k with
      | zero =>
        rw [Nat.cast_zero, sub_zero, hnone] at h
        cases h
      | succ k =>
        refine ih (k := k) (by omega) ?_
        rwa [sub_sub, add_comm (1 : ℤ), ← Nat.cast_succ]

end

/-- The shortest decimal of a number is nearest to the number. -/
theorem nearest_shortest {x : Number} (h : x.Plain) (hpos : 0 < x.significand) :
    x.Nearest (x.shortest.1 * 10 ^ x.shortest.2) := by
  have hp := h.parts
  have hfound : ∃ n power, x.shortest = (n, power) ∧
      (Shortest.interval x.significand x.scale x.tight power).nearest? = some n := by
    rw [shortest, if_neg (by omega)]
    refine search_found (k := 23) (by norm_num) (nearest?_fine hpos (ten_zpow_le ?_ ?_))
    all_goals
      have hlog : Nat.log2 x.significand < 53 :=
        (Nat.log2_lt (by omega)).mpr (Nat.lt_of_lt_of_eq hp.significand rfl)
      have := hp.low
      have := hp.high
      push_cast
      omega
  obtain ⟨n, power, hshortest, hnearest⟩ := hfound
  rw [hshortest]
  have hholds := holds_nearest? hnearest
  have hlow : ((4 * x.significand - if x.tight then 1 else 2 : ℕ) : ℚ) =
      4 * x.significand - x.below := by
    unfold below
    split
    · rw [Nat.cast_sub (by omega)]
      push_cast
      ring
    · rw [Nat.cast_sub (by omega)]
      push_cast
      ring
  have hhigh : ((4 * x.significand + 2 : ℕ) : ℚ) = 4 * x.significand + 2 := by push_cast; ring
  simp only [Shortest.Interval.holds, Bool.or_eq_true, Bool.and_eq_true, decide_eq_true_eq,
    beq_iff_eq] at hholds
  rcases hholds with ⟨h₁, h₂⟩ | ⟨heven, htie⟩
  · have h₁ := (quarter_lt_unit _ _).mp h₁
    have h₂ := (unit_lt_quarter _ _).mp h₂
    rw [hlow] at h₁
    rw [hhigh] at h₂
    exact ⟨h₁.le, h₂.le, fun _ => ⟨h₁, h₂⟩⟩
  · have heven : x.significand % 2 = 0 := by simpa [Shortest.interval] using heven
    have hpos' : (0 : ℚ) < 2 ^ (x.scale - 2) := by positivity
    have hbelow : 0 < x.below := by
      unfold below
      split <;> norm_num
    rcases htie with htie | htie
    · have htie := (unit_eq_quarter _ _).mp htie
      rw [hlow] at htie
      refine ⟨htie.ge, ?_, by omega⟩
      rw [htie]
      gcongr
      linarith
    · have htie := (unit_eq_quarter _ _).mp htie
      rw [hhigh] at htie
      refine ⟨?_, htie.le, by omega⟩
      rw [htie]
      gcongr
      linarith

end Birl.Number
