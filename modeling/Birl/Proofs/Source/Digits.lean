import Birl.Number.Reading
import Birl.Proofs.Source.Rune
import Birl.Token
import Mathlib.Data.List.Basic

/-!
# Digits

Decimal digits as characters and as bytes, and what is read from them: `int64?` reads
back what `Text.ofNat` writes.
-/

namespace Birl

theorem toNat_toUInt8 {c : Char} (h : c.toNat < 128) : c.toUInt8.toNat = c.toNat := by
  have hmod : c.toUInt8.toNat = c.toNat % 256 := UInt32.toNat_toUInt8 _
  omega

theorem Text.bytes_ofChars_ascii {cs : List Char} (h : ∀ c ∈ cs, c.toNat < 128) :
    (Text.ofChars cs).bytes = cs.map Char.toUInt8 := by
  induction cs with
  | nil => rfl
  | cons c cs ih =>
    obtain ⟨hc, hcs⟩ := List.forall_mem_cons.mp h
    have henc : String.utf8EncodeChar c = [c.toUInt8] := by
      have hle : c.val.toNat ≤ 127 := Nat.le_of_lt_succ hc
      rw [String.utf8EncodeChar.eq_1, if_pos hle]
      rfl
    simpa [Text.ofChars, henc] using ih hcs

theorem isDigit_iff (c : Char) : Scan.isDigit c = true ↔ 48 ≤ c.toNat ∧ c.toNat ≤ 57 := by
  simp only [Scan.isDigit, Bool.and_eq_true, decide_eq_true_eq]
  exact Iff.rfl

def Digits (cs : List Char) : Prop := ∀ c ∈ cs, Scan.isDigit c = true

theorem Digits.ascii {cs : List Char} (h : Digits cs) : ∀ c ∈ cs, c.toNat < 128 := by
  intro c hc
  have := (isDigit_iff c).mp (h c hc)
  omega

theorem isDecimal_toUInt8 {c : Char} (h : Scan.isDigit c = true) :
    Reading.isDecimal c.toUInt8 = true := by
  obtain ⟨hlow, hhigh⟩ := (isDigit_iff c).mp h
  have hbyte : c.toUInt8.toNat = c.toNat := toNat_toUInt8 (by omega)
  simp [Reading.isDecimal, UInt8.le_iff_toNat_le, hbyte, hlow, hhigh]

theorem digits_toDigits (n : Nat) : Digits (Nat.toDigits 10 n) := by
  intro c hc
  have hdigit := Nat.isDigit_of_mem_toDigits (by decide) (by decide) hc
  simpa [Scan.isDigit, Char.isDigit, Char.le_def] using hdigit

theorem splitSign_digit {b : UInt8} (h : Reading.isDecimal b = true) (rest : List UInt8) :
    Reading.splitSign (b :: rest) = (false, b :: rest) := by
  unfold Reading.splitSign
  split
  · rename_i heq
    cases heq
    exact absurd h (by decide)
  · rename_i heq
    cases heq
    exact absurd h (by decide)
  · rfl

theorem decimalValue_digits {cs : List Char} (h : Digits cs) :
    Reading.decimalValue (cs.map Char.toUInt8) = Nat.ofDigitChars 10 cs 0 := by
  rw [Reading.decimalValue, Nat.ofDigitChars_eq_foldl, List.foldl_map]
  refine List.foldl_ext _ _ _ ?_
  intro n c hc
  rw [toNat_toUInt8 (h.ascii c hc)]
  rfl

theorem toInt64?_ofNat {n : Nat} (h : n < integerEnd) :
    (Text.ofNat n).toInt64? = some (Int64.ofInt n) := by
  have hd := digits_toDigits n
  have hvalue : Reading.decimalValue ((Nat.toDigits 10 n).map Char.toUInt8) = n := by
    rw [decimalValue_digits hd, Nat.ofDigitChars_ten_toDigits]
  have hall : ((Nat.toDigits 10 n).map Char.toUInt8).all Reading.isDecimal = true := by
    simpa using fun c hc => isDecimal_toUInt8 (hd c hc)
  rw [Text.toInt64?, Text.ofNat, Text.bytes_ofChars_ascii hd.ascii]
  cases hbytes : (Nat.toDigits 10 n).map Char.toUInt8 with
  | nil => exact absurd (List.map_eq_nil_iff.mp hbytes) Nat.toDigits_ne_nil
  | cons b rest =>
    rw [hbytes] at hvalue hall
    have hb : Reading.isDecimal b = true := (List.all_eq_true.mp hall) b (by simp)
    simp [Reading.int64?, splitSign_digit hb, hall, hvalue, h]

-- ---------------------------------------------------------------------------
-- What digits are read as
-- ---------------------------------------------------------------------------

namespace Number

/-- Finite, and without a sign. -/
def Plain (x : Number) : Prop := x.bits.toNat < 2047 * fractionEnd

theorem plain_zero : zero.Plain := by
  unfold Plain
  decide

theorem plain_ofRatio? {num den : Nat} {x : Number} (h : ofRatio? num den = some x) : x.Plain := by
  unfold ofRatio? at h
  split at h
  · cases h
    exact plain_zero
  · dsimp only at h
    generalize scaled num den _ + _ = bits at h
    split at h
    · cases h
    · rename_i hbits
      cases h
      show bits.toUInt64.toNat < 2047 * fractionEnd
      have hlt : bits < 2047 * fractionEnd := Nat.lt_of_not_le hbits
      rw [Nat.toUInt64_eq, UInt64.toNat_ofNat', Nat.mod_eq_of_lt (Nat.lt_trans hlt (by decide))]
      exact hlt

theorem plain_round? {w : Written} {x : Number} (hw : w.negative = false)
    (h : w.round? = some x) : x.Plain := by
  unfold Written.round? at h
  rw [hw] at h
  simp only [Bool.false_eq_true, if_false, Option.map_eq_some_iff, exists_eq_right] at h
  split at h
  · cases h
    exact plain_zero
  · split at h
    all_goals
      split at h
      · cases h
      · split at h
        · cases h
          exact plain_zero
        · exact plain_ofRatio? h

end Number

theorem named?_digit {b : UInt8} (h : Reading.isDecimal b = true) (rest : List UInt8) :
    Reading.named? (b :: rest) = none := by
  have hrange : 48 ≤ b.toNat ∧ b.toNat ≤ 57 := by
    simpa [Reading.isDecimal, UInt8.le_iff_toNat_le] using h
  have hlower : Reading.lowerByte b = b := by
    refine if_neg ?_
    simp only [Bool.and_eq_true, decide_eq_true_eq, UInt8.le_iff_toNat_le, UInt8.reduceToNat]
    omega
  have hi : b ≠ 105 ∧ b ≠ 110 := by
    constructor <;> rintro rfl <;> exact absurd hrange.2 (by decide)
  have hinf : (Text.ofString "inf").bytes = [105, 110, 102] := by decide
  have hinfinity : (Text.ofString "infinity").bytes =
      [105, 110, 102, 105, 110, 105, 116, 121] := by decide
  have hnan : (Text.ofString "nan").bytes = [110, 97, 110] := by decide
  simp [Reading.named?, splitSign_digit h, hlower, hinf, hinfinity, hnan, hi]

theorem written?_digit {b : UInt8} (h : Reading.isDecimal b = true) {rest : List UInt8}
    {w : Number.Written} (hw : Reading.written? (b :: rest) = some w) : w.negative = false := by
  unfold Reading.written? at hw
  rw [splitSign_digit h] at hw
  dsimp only at hw
  generalize Reading.mantissa _ _ _ = read at hw
  -- Whatever the notation, the sign goes into the result as it is.
  repeat' split at hw
  all_goals
    cases hw
    try rfl

/-- What starts with a digit is read as a finite number without a sign. -/
theorem plain_number {b : UInt8} (hb : Reading.isDecimal b = true) {rest : List UInt8} {x : Number}
    (h : Reading.number (b :: rest) = .ok x) : x.Plain := by
  unfold Reading.number at h
  rw [named?_digit hb] at h
  simp only at h
  split at h
  · cases h
  · rename_i w hw
    split at h
    · rename_i hround
      cases h
      exact Number.plain_round? (written?_digit hb hw) hround
    · cases h

theorem toUInt8_ofNat_decimal {b : UInt8} (h : Reading.isDecimal b = true) :
    Scan.isDigit (Char.ofNat b.toNat) = true ∧ (Char.ofNat b.toNat).toUInt8 = b := by
  have hrange : 48 ≤ b.toNat ∧ b.toNat ≤ 57 := by
    simpa [Reading.isDecimal, UInt8.le_iff_toNat_le] using h
  have hchar : (Char.ofNat b.toNat).toNat = b.toNat := Rune.toNat_ofNat_of_valid (.inl (by omega))
  refine ⟨(isDigit_iff _).mpr (by rwa [hchar]), ?_⟩
  rw [← UInt8.toNat_inj, toNat_toUInt8 (by omega), hchar]

/-- An integer that is read from what starts with a digit is the value of its digits, and that
value fits. -/
theorem digits_of_int64? {b : UInt8} (hb : Reading.isDecimal b = true) {rest : List UInt8}
    {n : Int64} (h : Reading.int64? (b :: rest) = some n) :
    ∃ digits, Digits digits ∧ (⟨b :: rest⟩ : Text) = .ofChars digits ∧
      n.toInt = Nat.ofDigitChars 10 digits 0 ∧ Nat.ofDigitChars 10 digits 0 < integerEnd := by
  unfold Reading.int64? at h
  rw [splitSign_digit hb] at h
  simp only [List.isEmpty_cons, Bool.false_or, Bool.not_eq_true', Bool.false_eq_true, if_false] at h
  split at h
  · cases h
  · rename_i hall
    have hall : ∀ x ∈ b :: rest, Reading.isDecimal x = true := by simpa using hall
    have hdigits : Digits ((b :: rest).map fun b => Char.ofNat b.toNat) := by
      intro c hc
      obtain ⟨x, hx, rfl⟩ := List.mem_map.mp hc
      exact (toUInt8_ofNat_decimal (hall x hx)).1
    have hbytes : ((b :: rest).map fun b => Char.ofNat b.toNat).map Char.toUInt8 = b :: rest := by
      rw [List.map_map]
      exact (List.map_congr_left fun x hx => (toUInt8_ofNat_decimal (hall x hx)).2).trans
        (List.map_id _)
    have hvalue := decimalValue_digits hdigits
    rw [hbytes] at hvalue
    split at h
    · rename_i hlt
      cases h
      have hend : Reading.decimalValue (b :: rest) < 0x8000000000000000 := hlt
      refine ⟨_, hdigits, ?_, ?_, hvalue ▸ hlt⟩
      · exact congrArg Text.mk (hbytes.symm.trans (Text.bytes_ofChars_ascii hdigits.ascii).symm)
      · rw [← hvalue, Int64.toInt_ofInt_of_le (by omega) (by omega)]
    · cases h

theorem nonneg_int64? {b : UInt8} (hb : Reading.isDecimal b = true) {rest : List UInt8} {n : Int64}
    (h : Reading.int64? (b :: rest) = some n) : 0 ≤ n.toInt := by
  obtain ⟨digits, -, -, hvalue, -⟩ := digits_of_int64? hb h
  omega

end Birl
