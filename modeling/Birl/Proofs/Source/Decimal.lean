import Birl.Command.Render
import Birl.Proofs.Source.Rounding

/-!
# Texts of numbers

The text of a finite number is read as the number (`number_reads`): its digits are those
of the shortest decimal, which reading rounds back.
-/

namespace Birl

open Number (Nearest)

def decimalRatio (ds fs : List Char) : ℚ :=
  Nat.ofDigitChars 10 (ds ++ fs) 0 * 10 ^ (-(fs.length : ℤ))

-- ---------------------------------------------------------------------------
-- Reading
-- ---------------------------------------------------------------------------

theorem digitValue?_digit {c : Char} (h : Scan.isDigit c = true) :
    Reading.digitValue? c.toUInt8 = some (c.toNat - '0'.toNat) := by
  have hdecimal := isDecimal_toUInt8 h
  obtain ⟨hlow, hhigh⟩ := (isDigit_iff c).mp h
  unfold Reading.isDecimal at hdecimal
  rw [Reading.digitValue?, if_pos hdecimal, toNat_toUInt8 (by omega)]
  rfl

theorem toUInt8_ne {c : Char} (h : c.toNat < 128) {b : UInt8} (hb : c.toNat ≠ b.toNat) :
    c.toUInt8 ≠ b := by
  rintro rfl
  exact hb (toNat_toUInt8 h).symm

theorem mantissa_digits {ds : List Char} (h : Digits ds) (m : Reading.Mantissa)
    (rest : List UInt8) :
    Reading.mantissa 10 m (ds.map Char.toUInt8 ++ rest) =
      Reading.mantissa 10
        { value := Nat.ofDigitChars 10 ds m.value
          afterPoint := if m.sawPoint then m.afterPoint + ds.length else m.afterPoint
          sawDigit := m.sawDigit || !ds.isEmpty
          sawPoint := m.sawPoint } rest := by
  induction ds generalizing m with
  | nil => simp
  | cons d ds ih =>
    obtain ⟨hd, hds⟩ := List.forall_mem_cons.mp h
    obtain ⟨hlow, hhigh⟩ := (isDigit_iff d).mp hd
    have hunderscore : (d.toUInt8 == 95) = false :=
      beq_eq_false_iff_ne.mpr (toUInt8_ne (by omega) (show d.toNat ≠ 95 by omega))
    have hpoint : (d.toUInt8 == 46) = false :=
      beq_eq_false_iff_ne.mpr (toUInt8_ne (by omega) (show d.toNat ≠ 46 by omega))
    rw [List.map_cons, List.cons_append, Reading.mantissa]
    simp only [hunderscore, hpoint, digitValue?_digit hd, Bool.false_and, if_false,
      Bool.false_eq_true]
    rw [if_pos (by simp; omega), ih hds, Nat.ofDigitChars_cons]
    congr 2
    · split <;> simp; omega
    · simp

/-- Digits and a point hold no underscore and no mark of a base. -/
theorem written?_small {b : UInt8} {rest : List UInt8} {m : Reading.Mantissa}
    (hb : Reading.isDecimal b = true) (hsmall : ∀ x ∈ b :: rest, x.toNat ≤ 57)
    (hm : Reading.mantissa 10 {} (b :: rest) = (m, [])) (hd : m.sawDigit = true) :
    Reading.written? (b :: rest) = some { digits := m.value, power := -(m.afterPoint : ℤ) } := by
  have hunderscore : (b :: rest).contains 95 = false := by
    rw [Bool.eq_false_iff]
    intro hmem
    exact absurd (hsmall 95 (by simpa using hmem)) (by decide)
  have hmark {x : UInt8} (hx : x.toNat ≤ 57) : (Reading.lowerByte x == 120) = false := by
    have hlower : Reading.lowerByte x = x := by
      refine if_neg ?_
      simp only [Bool.and_eq_true, decide_eq_true_eq, UInt8.le_iff_toNat_le, UInt8.reduceToNat]
      omega
    rw [hlower, beq_eq_false_iff_ne]
    rintro rfl
    exact absurd hx (by decide)
  unfold Reading.written?
  rw [splitSign_digit hb]
  dsimp only
  split
  · rename_i x _ _ heq
    have hx := hmark (hsmall x (by simp [heq]))
    rw [hunderscore]
    simp [hx, hm, hd]
  · rw [hunderscore]
    simp [hm, hd]

theorem bytes_fraction {ds fs : List Char} (hd : Digits ds) (hne : ds ≠ []) (hf : Digits fs) :
    (Text.ofChars (ds ++ '.' :: fs)).bytes = ds.map Char.toUInt8 ++ 46 :: fs.map Char.toUInt8 ∧
    (∀ b ∈ ds.map Char.toUInt8 ++ 46 :: fs.map Char.toUInt8, b.toNat ≤ 57) ∧
    ∃ b rest, ds.map Char.toUInt8 ++ 46 :: fs.map Char.toUInt8 = b :: rest ∧
      Reading.isDecimal b = true := by
  have hall : ∀ c ∈ ds ++ '.' :: fs, c.toNat ≤ 57 := by
    intro c hc
    simp only [List.mem_append, List.mem_cons] at hc
    rcases hc with hc | rfl | hc
    · exact ((isDigit_iff c).mp (hd c hc)).2
    · decide
    · exact ((isDigit_iff c).mp (hf c hc)).2
  have hmap : (ds ++ '.' :: fs).map Char.toUInt8 =
      ds.map Char.toUInt8 ++ 46 :: fs.map Char.toUInt8 := by
    simp [show '.'.toUInt8 = 46 from rfl]
  refine ⟨?_, ?_, ?_⟩
  · rw [Text.bytes_ofChars_ascii fun c hc => Nat.lt_of_le_of_lt (hall c hc) (by omega), hmap]
  · rw [← hmap]
    simp only [List.mem_map]
    rintro b ⟨c, hc, rfl⟩
    have := hall c hc
    rwa [toNat_toUInt8 (by omega)]
  · cases ds with
    | nil => exact absurd rfl hne
    | cons d ds => exact ⟨_, _, rfl, isDecimal_toUInt8 (hd d (by simp))⟩

theorem mantissa_fraction {ds fs : List Char} (hd : Digits ds) (hne : ds ≠ []) (hf : Digits fs) :
    Reading.mantissa 10 {} (ds.map Char.toUInt8 ++ 46 :: fs.map Char.toUInt8) =
      ({ value := Nat.ofDigitChars 10 (ds ++ fs) 0, afterPoint := fs.length, sawDigit := true,
         sawPoint := true }, []) := by
  rw [mantissa_digits hd, Reading.mantissa]
  simp only [Bool.not_false, Bool.and_true]
  rw [if_neg (by decide), if_pos (by decide), ← List.append_nil (fs.map Char.toUInt8),
    mantissa_digits hf]
  simp [Reading.mantissa, Nat.ofDigitChars_append, hne]

-- ---------------------------------------------------------------------------
-- Rounding what was read
-- ---------------------------------------------------------------------------

theorem Number.Plain.eq_zero {x : Number} (h : x.Plain) (hs : x.significand = 0) : x = .zero := by
  have hp := h.parts
  have hscale : x.scale = -1074 := by
    by_contra hne
    have hnormal := hp.normal (lt_of_le_of_ne hp.low (Ne.symm hne))
    rw [hs] at hnormal
    exact absurd hnormal (by decide)
  have hbits := hp.bits
  rw [hs, hscale] at hbits
  have hzero : x.bits.toNat = 0 := by simpa using hbits
  cases x
  simpa [Number.zero, ← UInt64.toNat_inj] using hzero

/-- Even the lower end of the interval is at least a quarter of the unit. -/
theorem Number.one_le_low {x : Number} (hpos : 0 < x.significand) :
    (1 : ℚ) ≤ 4 * x.significand - x.below := by
  have hbelow : x.below ≤ 2 := by
    unfold below
    split <;> norm_num
  have hone : (1 : ℚ) ≤ x.significand := by exact_mod_cast hpos
  linarith

/-- A nearest decimal is within the powers that reading looks at. -/
theorem Number.Nearest.size {x : Number} (h : x.Plain) (hpos : 0 < x.significand) {n : ℕ} {k : ℤ}
    (hn : 0 < n) (hq : x.Nearest (n * 10 ^ k)) :
    ((Nat.toDigits 10 n).length : ℤ) + k ≤ 320 ∧ -400 ≤ ((Nat.toDigits 10 n).length : ℤ) + k := by
  have hp := h.parts
  have hten : (0 : ℚ) < 10 ^ k := by positivity
  have hlength := Nat.length_toDigits_pos (b := 10) (n := n)
  generalize hL : (Nat.toDigits 10 n).length = L at hlength ⊢
  constructor
  · by_contra hlarge
    have hle : 10 ^ (L - 1) ≤ n := by
      rcases Nat.eq_or_lt_of_le hlength with hone | hmore
      · rw [← hone]
        exact hn
      · have hiff := Nat.length_toDigits_le_iff (b := 10) (n := n) (k := L - 1) (by norm_num)
          (by omega)
        rw [hL] at hiff
        omega
    have hhuge : (10 : ℚ) ^ (320 : ℤ) ≤ n * 10 ^ k := by
      calc (10 : ℚ) ^ (320 : ℤ) ≤ 10 ^ (((L - 1 : ℕ) : ℤ) + k) :=
            zpow_le_zpow_right₀ (by norm_num) (by omega)
        _ = ((10 ^ (L - 1) : ℕ) : ℚ) * 10 ^ k := by
            rw [zpow_add₀ (by norm_num), zpow_natCast]
            push_cast
            rfl
        _ ≤ n * 10 ^ k := by
            gcongr
    have hmost : n * (10 : ℚ) ^ k ≤ 2 ^ (55 : ℤ) * 2 ^ (969 : ℤ) := by
      have hsig : (4 * x.significand + 2 : ℚ) ≤ 2 ^ (55 : ℤ) := by
        have hend : Number.fractionEnd = 2 ^ 52 := rfl
        have hlt := hp.significand
        have hle : 4 * x.significand + 2 ≤ 2 ^ 55 := by omega
        exact_mod_cast hle
      have hscale : (2 : ℚ) ^ (x.scale - 2) ≤ 2 ^ (969 : ℤ) :=
        zpow_le_zpow_right₀ (by norm_num) (by have := hp.high; omega)
      exact hq.high.trans (mul_le_mul hsig hscale (by positivity) (by positivity))
    have hcontra : (2 : ℚ) ^ (1024 : ℤ) < 10 ^ (320 : ℤ) := by
      rw [show (1024 : ℤ) = (1024 : ℕ) from rfl, show (320 : ℤ) = (320 : ℕ) from rfl,
        zpow_natCast, zpow_natCast]
      exact_mod_cast (by decide +kernel : 2 ^ 1024 < 10 ^ 320)
    rw [← zpow_add₀ (by norm_num)] at hmost
    exact absurd (hhuge.trans hmost) (not_le.mpr hcontra)
  · by_contra hsmall
    have hlt : n < 10 ^ L := by
      have hiff := Nat.length_toDigits_le_iff (b := 10) (n := n) (k := L) (by norm_num) hlength
      rw [hL] at hiff
      exact hiff.mp le_rfl
    have htiny : (n : ℚ) * 10 ^ k < 2 ^ (-1076 : ℤ) := by
      calc (n : ℚ) * 10 ^ k < ((10 ^ L : ℕ) : ℚ) * 10 ^ k := by
            gcongr
        _ = 10 ^ ((L : ℤ) + k) := by
            rw [zpow_add₀ (by norm_num), zpow_natCast]
            push_cast
            rfl
        _ ≤ 2 ^ (-1076 : ℤ) := ten_zpow_le (by omega) (by omega)
    have hlow : (2 : ℚ) ^ (-1076 : ℤ) ≤ (4 * x.significand - x.below) * 2 ^ (x.scale - 2) := by
      calc (2 : ℚ) ^ (-1076 : ℤ) ≤ 2 ^ (x.scale - 2) :=
            zpow_le_zpow_right₀ (by norm_num) (by have := hp.low; omega)
        _ ≤ (4 * x.significand - x.below) * 2 ^ (x.scale - 2) :=
            le_mul_of_one_le_left (by positivity) (one_le_low hpos)
    exact absurd (hlow.trans hq.low) (not_le.mpr htiny)

/-- Digits with a point are read as the number that their value is nearest to. -/
theorem number_fraction {ds fs : List Char} (hd : Digits ds) (hne : ds ≠ []) (hf : Digits fs)
    {x : Number} (hx : x.Plain) (hzero : x.significand = 0 → decimalRatio ds fs = 0)
    (hq : 0 < x.significand → x.Nearest (decimalRatio ds fs)) :
    Reading.number (Text.ofChars (ds ++ '.' :: fs)).bytes = .ok x := by
  obtain ⟨hbytes, hsmall, b, rest, hcons, hb⟩ := bytes_fraction hd hne hf
  have hwritten := mantissa_fraction hd hne hf
  rw [hcons] at hsmall hwritten
  rw [hbytes, hcons, Reading.number, named?_digit hb, written?_small hb hsmall hwritten rfl]
  unfold decimalRatio at hzero hq
  dsimp only
  generalize Nat.ofDigitChars 10 (ds ++ fs) 0 = n at hzero hq ⊢
  generalize -(fs.length : ℤ) = k at hzero hq ⊢
  have hten : (0 : ℚ) < 10 ^ k := by positivity
  have hround : Number.Written.round? { digits := n, power := k } = some x := by
    rcases Nat.eq_zero_or_pos x.significand with hs | hpos
    · have hn : n = 0 := by simpa [hten.ne'] using hzero hs
      rw [hx.eq_zero hs, hn]
      rfl
    · have hnear := hq hpos
      have hn : 0 < n := by
        have hlow : (0 : ℚ) < n * 10 ^ k :=
          lt_of_lt_of_le (mul_pos (by linarith [Number.one_le_low hpos]) (by positivity)) hnear.low
        exact_mod_cast pos_of_mul_pos_left hlow hten.le
      obtain ⟨h₁, h₂⟩ := hnear.size hx hpos hn
      have hnum : 0 < n * 10 ^ k.toNat := by positivity
      have hden : 0 < 10 ^ (-k).toNat := by positivity
      have hratio := Number.ofRatio?_nearest hx hnum hden (by
        push_cast
        rwa [mul_div_assoc, Number.pow_toNat_div])
      simp only [Number.Written.round?, Bool.false_eq_true, if_false, if_neg hn.ne',
        if_neg (not_lt.mpr h₁), if_neg (not_lt.mpr h₂)]
      simpa using hratio
  rw [hround]

-- ---------------------------------------------------------------------------
-- Writing
-- ---------------------------------------------------------------------------

theorem Digits.append {ds fs : List Char} (hd : Digits ds) (hf : Digits fs) : Digits (ds ++ fs) := by
  intro c hc
  rcases List.mem_append.mp hc with hc | hc
  · exact hd c hc
  · exact hf c hc

theorem digits_zeros (n : ℕ) : Digits (List.replicate n '0') := by
  intro c hc
  rw [List.eq_of_mem_replicate hc]
  decide

theorem decimalRatio_zeros (ds : List Char) :
    decimalRatio ds ['0'] = Nat.ofDigitChars 10 ds 0 := by
  simp [decimalRatio, Nat.ofDigitChars_append, Nat.ofDigitChars_cons, mul_comm]

/-- A decimal without exponent has digits on both sides of its point, or no point. -/
theorem positional_cases {cs : List Char} (h : Digits cs) (point : ℤ) :
    ∃ ds fs, Digits ds ∧ ds ≠ [] ∧ Digits fs ∧ fs ≠ [] ∧
      decimalRatio ds fs = Nat.ofDigitChars 10 cs 0 * 10 ^ (point - cs.length) ∧
      (Number.positional cs point = ds ++ '.' :: fs ∨
        Number.positional cs point = ds ∧ fs = ['0']) := by
  have hzero : Digits ['0'] := digits_zeros 1
  by_cases hshort : cs.length ≤ point.toNat
  · cases cs with
    | nil =>
      refine ⟨['0'], ['0'], hzero, by simp, hzero, by simp, ?_, .inr ⟨?_, rfl⟩⟩
      · simp [decimalRatio_zeros, Nat.ofDigitChars_cons]
      · simp [Number.positional]
    | cons c cs =>
      refine ⟨c :: cs ++ List.replicate (point.toNat - (c :: cs).length) '0', ['0'],
        h.append (digits_zeros _), by simp, hzero, by simp, ?_, .inr ⟨?_, rfl⟩⟩
      · have hpoint : point - (c :: cs).length = ((point.toNat - (c :: cs).length : ℕ) : ℤ) := by
          simp only [List.length_cons] at hshort ⊢
          omega
        rw [decimalRatio_zeros, hpoint, zpow_natCast, Nat.ofDigitChars_append,
          Nat.ofDigitChars_replicate_zero]
        push_cast
        ring
      · simp only [Number.positional, List.take_of_length_le hshort, if_pos hshort]
        rfl
  · have hfs : cs.drop point.toNat ≠ [] := by simpa using hshort
    have hdrop : Digits (cs.drop point.toNat) := fun c hc => h c (List.mem_of_mem_drop hc)
    by_cases hpoint : point ≤ 0
    · have hnat : point.toNat = 0 := by omega
      refine ⟨['0'], List.replicate (-point).toNat '0' ++ cs, hzero, by simp,
        (digits_zeros _).append h, by simp_all, ?_, .inl ?_⟩
      · have hexp : -((List.replicate (-point).toNat '0' ++ cs).length : ℤ) = point - cs.length := by
          rw [List.length_append, List.length_replicate]
          omega
        rw [decimalRatio, hexp, Nat.ofDigitChars_append, Nat.ofDigitChars_append,
          Nat.ofDigitChars_replicate_zero]
        simp [Nat.ofDigitChars_cons]
      · simp only [Number.positional, hnat, if_neg (hnat ▸ hshort), List.take_zero, List.drop_zero]
        rfl
    · have htake : cs.take point.toNat ≠ [] := by
        simp only [ne_eq, List.take_eq_nil_iff, not_or]
        refine ⟨by omega, ?_⟩
        rintro rfl
        exact hshort (Nat.zero_le _)
      have hlength : (cs.take point.toNat).length = point.toNat := by
        rw [List.length_take]
        omega
      refine ⟨cs.take point.toNat, cs.drop point.toNat, fun c hc => h c (List.mem_of_mem_take hc),
        htake, hdrop, hfs, ?_, .inl ?_⟩
      · have hexp : -((cs.drop point.toNat).length : ℤ) = point - cs.length := by
          rw [List.length_drop]
          omega
        rw [decimalRatio, hexp, List.take_append_drop]
      · have hneg : (-point).toNat = 0 := by omega
        simp [Number.positional, hlength, hneg, htake, hshort]

/-- The digits without the zeros at their end still write the decimal. -/
theorem digitsAndPoint_eq (n : ℕ) (power : ℤ) :
    Digits (Number.digitsAndPoint n power).1 ∧
    (Nat.ofDigitChars 10 (Number.digitsAndPoint n power).1 0 : ℚ) *
      10 ^ ((Number.digitsAndPoint n power).2 - (Number.digitsAndPoint n power).1.length) =
        n * 10 ^ power := by
  unfold Number.digitsAndPoint
  split
  · rename_i hn
    simp [hn, Digits]
  · dsimp only
    have hdigits := digits_toDigits n
    have hvalue : Nat.ofDigitChars 10 (Nat.toDigits 10 n) 0 = n := Nat.ofDigitChars_ten_toDigits
    generalize Nat.toDigits 10 n = cs at hdigits hvalue ⊢
    obtain ⟨k, hk⟩ : ∃ k, cs = (cs.reverse.dropWhile (· == '0')).reverse ++ List.replicate k '0' := by
      have hsplit := congrArg List.reverse
        (List.takeWhile_append_dropWhile (p := (· == '0')) (l := cs.reverse))
      rw [List.reverse_append, List.reverse_reverse] at hsplit
      have hzeros := List.eq_replicate_of_mem (l := cs.reverse.takeWhile (· == '0')) (a := '0')
        fun c hc => beq_iff_eq.mp (List.all_eq_true.mp List.all_takeWhile c hc)
      refine ⟨(cs.reverse.takeWhile (· == '0')).length, ?_⟩
      rw [← List.reverse_replicate, ← hzeros]
      exact hsplit.symm
    generalize (cs.reverse.dropWhile (· == '0')).reverse = short at hk ⊢
    subst hk
    refine ⟨fun c hc => hdigits c (List.mem_append_left _ hc), ?_⟩
    rw [Nat.ofDigitChars_append, Nat.ofDigitChars_replicate_zero] at hvalue
    have hexp : ((short ++ List.replicate k '0').length : ℤ) + power - short.length = k + power := by
      rw [List.length_append, List.length_replicate]
      push_cast
      ring
    rw [hexp, zpow_add₀ (by norm_num), zpow_natCast, ← hvalue]
    push_cast
    ring

namespace Number

theorem Plain.exponentBits {x : Number} (h : x.Plain) : x.exponentBits < 2047 := by
  unfold Number.exponentBits
  have hdiv : x.bits.toNat / fractionEnd < 2047 := Nat.div_lt_of_lt_mul (by rwa [mul_comm])
  exact (Nat.mod_le _ _).trans_lt hdiv

theorem Plain.text {x : Number} (h : x.Plain) :
    x.text = .ofChars (positional (digitsAndPoint x.shortest.1 x.shortest.2).1
      (digitsAndPoint x.shortest.1 x.shortest.2).2) := by
  have hexponent := h.exponentBits
  have hnan : x.isNaN = false := by
    simp [isNaN]
    omega
  have hinfinite : x.isInfinite = false := by
    simp [isInfinite]
    omega
  have hsign : x.isNegative = false := by
    have hlt : x.bits.toNat < 0x8000000000000000 := Nat.lt_trans h (by decide)
    simpa [isNegative] using hlt
  simp [Number.text, textWith, hnan, hinfinite, hsign]

end Number

/-- A finite number without a sign is written as digits with a point among them, which are read
as the number. -/
theorem number_reads {x : Number} (hx : x.Plain) :
    ∃ ds fs, Digits ds ∧ ds ≠ [] ∧ Digits fs ∧ fs ≠ [] ∧
      Render.number x = .ofChars (ds ++ '.' :: fs) ∧
      Reading.number (Text.ofChars (ds ++ '.' :: fs)).bytes = .ok x := by
  obtain ⟨hdigits, hvalue⟩ := digitsAndPoint_eq x.shortest.1 x.shortest.2
  obtain ⟨ds, fs, hd, hne, hf, hfne, hratio, hcases⟩ := positional_cases hdigits
    (Number.digitsAndPoint x.shortest.1 x.shortest.2).2
  rw [hvalue] at hratio
  refine ⟨ds, fs, hd, hne, hf, hfne, ?_, number_fraction hd hne hf hx ?_ ?_⟩
  · rw [Render.number, hx.text]
    rcases hcases with hcases | ⟨hcases, rfl⟩
    · have hpoint : (Text.ofChars (ds ++ '.' :: fs)).bytes.contains '.'.toUInt8 = true := by
        rw [(bytes_fraction hd hne hf).1]
        simp [show '.'.toUInt8 = 46 from rfl]
      rw [hcases, if_pos hpoint]
    · have hpoint : (Text.ofChars ds).bytes.contains '.'.toUInt8 = false := by
        rw [Text.bytes_ofChars_ascii hd.ascii, Bool.eq_false_iff]
        intro hmem
        obtain ⟨c, hc, heq⟩ := List.mem_map.mp (List.contains_iff_mem.mp hmem)
        have hdecimal := isDecimal_toUInt8 (hd c hc)
        rw [heq] at hdecimal
        exact absurd hdecimal (by decide)
      rw [hcases, if_neg (Bool.eq_false_iff.mp hpoint)]
      exact congrArg Text.mk (List.flatMap_append ..).symm
  · intro hs
    rw [hratio, Number.shortest, if_pos hs]
    simp
  · intro hpos
    rw [hratio]
    exact Number.nearest_shortest hx hpos

-- ---------------------------------------------------------------------------
-- The sign
-- ---------------------------------------------------------------------------

namespace Number

theorem Plain.bits_negate {x : Number} (h : x.Plain) :
    x.negate.bits.toNat = 2 ^ 63 + x.bits.toNat := by
  have hlt : x.bits.toNat < 2 ^ 63 := Nat.lt_trans h (by decide)
  have hxor : x.negate.bits.toNat = x.bits.toNat ^^^ 2 ^ 63 := UInt64.toNat_xor _ _
  have hdiv : x.negate.bits.toNat / 2 ^ 63 = 1 := by
    rw [hxor, Nat.xor_div_two_pow, Nat.div_eq_of_lt hlt, Nat.div_self (by decide)]
    rfl
  have hmod : x.negate.bits.toNat % 2 ^ 63 = x.bits.toNat := by
    rw [hxor, Nat.xor_mod_two_pow, Nat.mod_eq_of_lt hlt, Nat.mod_self, Nat.xor_zero]
  have := Nat.div_add_mod x.negate.bits.toNat (2 ^ 63)
  omega

theorem Plain.text_negate {x : Number} (h : x.Plain) : x.negate.text = .ofChars ['-'] ++ x.text := by
  have hbits := h.bits_negate
  have hend : fractionEnd = 2 ^ 52 := rfl
  have hexponent : x.negate.exponentBits = x.exponentBits := by
    unfold Number.exponentBits
    rw [hbits, hend]
    omega
  have hfraction : x.negate.fractionBits = x.fractionBits := by
    unfold fractionBits
    rw [hbits, hend]
    omega
  have hshortest : x.negate.shortest = x.shortest := by
    unfold shortest significand scale
    rw [hexponent, hfraction]
  have hlt := h.exponentBits
  have hnan : x.negate.isNaN = false := by
    simp [isNaN, hexponent]
    omega
  have hinfinite : x.negate.isInfinite = false := by
    simp [isInfinite, hexponent]
    omega
  have hsign : x.negate.isNegative = true := by
    simp [isNegative, hbits]
  rw [h.text]
  simp only [Number.text, textWith, hnan, hinfinite, hsign, hshortest]
  rfl

end Number

theorem number_negate {x : Number} (h : x.Plain) :
    Render.number x.negate = .ofChars ['-'] ++ Render.number x := by
  have hcontains : x.negate.text.bytes.contains '.'.toUInt8 = x.text.bytes.contains '.'.toUInt8 := by
    rw [h.text_negate]
    rfl
  unfold Render.number
  rw [hcontains, h.text_negate]
  split
  · rfl
  · rfl

end Birl
