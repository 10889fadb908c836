import Birl.Host
import Birl.Proofs.Compiler.Expression
import Birl.Proofs.TextStore

/-!
# Values cross the border and come back

What a host value of a type with a kind becomes in the language, and that taking it out again as
a value of that type gives it back (`HostValue.ofValue_toValue`). The tables for the two ways
line up with each other and with the check that calls make of their arguments: where that lets a
value through, it can be taken out as a value of the parameter's type, unless it is an Integer
outside the range of that type (`HostValue.ofValue_checked`).
-/

namespace Birl

-- ---------------------------------------------------------------------------
-- Integers
-- ---------------------------------------------------------------------------

def IntegerType.Unsigned : IntegerType → Prop
  | signed _ => False
  | unsigned _ | address => True

theorem IntegerType.least_le (t : IntegerType) : (signed .bits64).least ≤ t.least := by
  cases t with
  | signed w => cases w <;> decide
  | unsigned w => cases w <;> decide
  | address => decide

theorem IntegerType.greatest_signed (w : Width) : (signed w).greatest < integerEnd := by
  cases w <;> decide

namespace HostInteger

section
variable {n m : HostInteger} {t : IntegerType} {i : Int64} {k : Int}

theorem ofInt?_eq_some : ofInt? t k = some n ↔ n.type = t ∧ n.value = k := by
  unfold ofInt?
  split
  · rename_i h
    rw [Option.some.injEq]
    constructor
    · rintro rfl
      exact ⟨rfl, rfl⟩
    · rintro ⟨rfl, rfl⟩
      rfl
  · rename_i h
    refine ⟨nofun, ?_⟩
    rintro ⟨rfl, rfl⟩
    exact absurd n.holds h

theorem ofInt?_isSome : (∃ n, ofInt? t k = some n) ↔ t.Holds k := by
  simp only [ofInt?_eq_some]
  constructor
  · rintro ⟨n, rfl, rfl⟩
    exact n.holds
  · exact fun h => ⟨⟨t, k, h⟩, rfl, rfl⟩

theorem toInt64?_eq_some : n.toInt64? = some i ↔ i.toInt = n.value := by
  have hlow : -2 ^ 63 ≤ n.value := Int.le_trans n.type.least_le n.holds.1
  unfold toInt64?
  split
  · rename_i hlt
    rw [Option.some.injEq, ← Int64.toInt_inj, Int64.toInt_ofInt_of_le hlow hlt]
    exact eq_comm
  · rename_i hge
    refine ⟨nofun, fun hi => absurd ?_ hge⟩
    rw [← hi]
    exact i.toInt_lt

theorem toInt64?_eq_none : n.toInt64? = none ↔ n.type.Unsigned ∧ integerEnd ≤ n.value := by
  unfold toInt64?
  split
  · rename_i hlt
    exact ⟨nofun, fun h => absurd hlt (Int.not_lt.mpr h.2)⟩
  · rename_i hge
    refine ⟨fun _ => ⟨?_, Int.not_lt.mp hge⟩, fun _ => rfl⟩
    obtain ⟨type, value, holds⟩ := n
    cases type with
    | signed w => exact absurd (Int.lt_of_le_of_lt holds.2 (IntegerType.greatest_signed w)) hge
    | unsigned | address => trivial

end
end HostInteger

-- ---------------------------------------------------------------------------
-- Values
-- ---------------------------------------------------------------------------

namespace HostValue

def scalarType? : HostValue → Option HostType
  | integer n => some (.integer n.type)
  | single _ => some .single
  | double _ => some .double
  | truth _ => some .truth
  | string _ => some .string
  | _ => .none

/-- A number of single precision is the same after it is rounded to single precision. -/
def Narrow (v : HostValue) : Prop := ∀ x, v = single x → x.toSingle = x

section
variable {texts texts' more : TextStore} {v : HostValue} {w : Value} {t : IntegerType}
  {type : HostType} {kind : Kind}

theorem ofValue_int (texts : TextStore) (n : Int64) (hk : type.kind = .ok kind) :
    ofValue texts (.int n) (some type) = ofValueAs (.int n) .empty type := by
  cases type with
  | integer | single | double | truth | string => rfl
  | _ => cases hk

theorem ofValue_number (texts : TextStore) (x : Number) (hk : type.kind = .ok kind) :
    ofValue texts (.number x) (some type) = ofValueAs (.number x) .empty type := by
  cases type with
  | integer | single | double | truth | string => rfl
  | _ => cases hk

theorem ofValue_text {id : ℕ} {t : Text} (ht : texts.find? id = some t) (hk : type.kind = .ok kind) :
    ofValue texts (.text id) (some type) = ofValueAs (.text id) t type := by
  have hget : texts.get id = .ok t := by rw [TextStore.get, ht]
  cases type with
  | integer | single | double | truth | string =>
    simp only [ofValue, natural, hget]
    rfl
  | _ => cases hk

/-- Only a great unsigned integer cannot be brought into the language. -/
theorem toValue_fails (h : v.scalarType? = some type) :
    (∃ fault, (v.toValue texts).1 = .error fault) ↔
      ∃ n, v = integer n ∧ n.type.Unsigned ∧ integerEnd ≤ n.value := by
  cases v with
  | integer n =>
    simp only [← HostInteger.toInt64?_eq_none, integer.injEq, exists_eq_left']
    show (∃ fault, (toValueDirect texts (integer n)).1 = .error fault) ↔ _
    rw [toValueDirect]
    split
    · rename_i i hi
      simp [hi]
    · rename_i hnone
      simp [hnone]
  | single | double | truth | string =>
    constructor
    · rintro ⟨_, hfails⟩
      cases hfails
    · rintro ⟨_, hn, -⟩
      cases hn
  | _ => cases h

/-- A value comes out again as it went in, however the store grew meanwhile. -/
theorem ofValue_toValue (h : v.scalarType? = some type) (hn : v.Narrow)
    (hv : v.toValue texts = (.ok w, texts')) (hm : texts'.Extends more) :
    ofValue more w (some type) = .ok v := by
  cases v with
  | integer n =>
    cases h
    have hv : toValueDirect texts (integer n) = (.ok w, texts') := hv
    rw [toValueDirect] at hv
    split at hv
    · rename_i i hi
      cases hv
      have hback : HostInteger.ofInt? n.type i.toInt = some n :=
        HostInteger.ofInt?_eq_some.mpr ⟨rfl, (HostInteger.toInt64?_eq_some.mp hi).symm⟩
      rw [ofValue_int more i rfl, ofValueAs, hback]
    · cases hv
  | single x =>
    cases h
    cases hv
    rw [ofValue_number more x rfl, ofValueAs, hn x rfl]
  | double x =>
    cases h
    cases hv
    rfl
  | truth b =>
    cases h
    cases hv
    cases b <;> rfl
  | string t =>
    cases h
    cases hv
    -- The text is stored under the next number, and no store that grew from there forgets it.
    have hfound : more.find? texts.next = some t :=
      (hm.find? (Nat.lt_succ_self _)).trans ((TextStore.find?_add texts t _).trans (if_pos rfl))
    rw [ofValue_text hfound rfl]
    rfl
  | _ => cases h

/-- An Integer comes out as an integer of a type exactly if the type has it. -/
theorem ofValue_integer {n : Int64} : (∃ v, ofValue texts (.int n) (some (.integer t)) = .ok v) ↔
    t.Holds n.toInt := by
  rw [← HostInteger.ofInt?_isSome, ofValue_int texts n rfl, ofValueAs]
  cases HostInteger.ofInt? t n.toInt with
  | some m => simp
  | none => simp

theorem toValue_ofValue {n : Int64} (h : ofValue texts (.int n) (some (.integer t)) = .ok v) :
    v.scalarType? = some (.integer t) ∧ v.toValue more = (.ok (.int n), more) := by
  rw [ofValue_int texts n rfl, ofValueAs] at h
  split at h
  · rename_i m hm
    cases h
    obtain ⟨rfl, hvalue⟩ := HostInteger.ofInt?_eq_some.mp hm
    refine ⟨rfl, ?_⟩
    have hint : m.toInt64? = some n := HostInteger.toInt64?_eq_some.mpr hvalue.symm
    show toValueDirect more (integer m) = _
    rw [toValueDirect, hint]
  · cases h

theorem assertKind_cases {v : Value} (h : v.assertKind (.known kind) = .ok w) :
    (kind = .integer ∧ ∃ n, w = .int n) ∨ (kind = .number ∧ ∃ x, w = .number x) ∨
      (kind = .text ∧ ∃ id, v = .text id ∧ w = .text id) := by
  unfold Value.assertKind at h
  split at h
  · rename_i n hkind
    cases hkind
    cases h
    exact .inl ⟨rfl, n, rfl⟩
  · rename_i n hkind
    cases hkind
    cases h
    exact .inr (.inl ⟨rfl, _, rfl⟩)
  · rename_i x hkind
    cases hkind
    cases h
    exact .inr (.inl ⟨rfl, x, rfl⟩)
  · rename_i id hkind
    cases hkind
    cases h
    exact .inr (.inr ⟨rfl, id, rfl, rfl⟩)
  · cases h

def OutOfRange (w : Value) (type : HostType) (fault : Fault) : Prop :=
  ∃ t n, type = .integer t ∧ w = .int n ∧ ¬ t.Holds n.toInt ∧ fault = .outsideType n t.name

/-- What the check of a call lets through comes out as a value of the type of the parameter,
unless it is an Integer that the type does not have. -/
theorem ofValue_checked {v : Value} (hk : type.kind = .ok kind)
    (hw : v.assertKind (.known kind) = .ok w) (hl : texts.Live v) :
    (∃ x, ofValue texts w (some type) = .ok x ∧ x.scalarType? = some type) ∨
      ∃ fault, OutOfRange w type fault ∧ ofValue texts w (some type) = .error fault := by
  rcases assertKind_cases hw with ⟨rfl, n, rfl⟩ | ⟨rfl, x, rfl⟩ | ⟨rfl, id, rfl, rfl⟩
  · rw [ofValue_int texts n hk]
    -- Of the types that take an Integer only those of integers have a range to miss.
    cases type with
    | integer t =>
      by_cases hholds : t.Holds n.toInt
      · obtain ⟨m, hm⟩ := HostInteger.ofInt?_isSome.mpr hholds
        obtain ⟨htype, -⟩ := HostInteger.ofInt?_eq_some.mp hm
        refine .inl ⟨integer m, by rw [ofValueAs, hm], by rw [scalarType?, htype]⟩
      · have hnone : HostInteger.ofInt? t n.toInt = .none := dif_neg hholds
        exact .inr ⟨_, ⟨t, n, rfl, rfl, hholds, rfl⟩, by rw [ofValueAs, hnone]⟩
    | truth => exact .inl ⟨_, rfl, rfl⟩
    | _ => cases hk
  · rw [ofValue_number texts x hk]
    cases type with
    | single | double => exact .inl ⟨_, rfl, rfl⟩
    | _ => cases hk
  · obtain ⟨_, hconstant⟩ := hl
    obtain ⟨t, ht, -⟩ := TextStore.constant?_text.mp hconstant
    rw [ofValue_text ht hk]
    cases type with
    | string => exact .inl ⟨_, rfl, rfl⟩
    | _ => cases hk

end
end HostValue

-- ---------------------------------------------------------------------------
-- Functions
-- ---------------------------------------------------------------------------

namespace HostFunction

open HostValue (OutOfRange)

section
variable {name : Text} {position : ℕ} {types : List HostType} {kinds : List ParameterKind}
  {texts : TextStore} {args : List Value}

theorem kinds_ok (h : HostFunction.kinds name position types = .ok kinds) :
    List.Forall₂ (fun type kind => ∃ k, type.kind = .ok k ∧ kind = .known k) types kinds := by
  induction types generalizing position kinds with
  | nil =>
    cases h
    exact .nil
  | cons type rest ih =>
    rw [HostFunction.kinds] at h
    split at h
    · cases h
    · rename_i kind hkind
      obtain ⟨more, hrest, rfl⟩ := map_ok.mp h
      exact .cons ⟨kind, hkind, rfl⟩ (ih hrest)

def Checked (texts : TextStore) (kind : ParameterKind) (w : Value) : Prop :=
  ∃ v : Value, texts.Live v ∧ v.assertKind kind = .ok w

theorem arguments_checked
    (hk : List.Forall₂ (fun type kind => ∃ k, type.kind = .ok k ∧ kind = .known k) types kinds)
    (ha : List.Forall₂ (Checked texts) kinds args) :
    (∃ xs, arguments texts position args types = .ok xs ∧
      xs.map HostValue.scalarType? = types.map some) ∨
    ∃ i type w fault, types[i]? = some type ∧ args[i]? = some w ∧ OutOfRange w type fault ∧
      arguments texts position args types =
        .error (.within ("argument " ++ Text.ofNat (position + i)) fault) := by
  induction hk generalizing position args with
  | nil =>
    cases ha
    exact .inl ⟨[], rfl, rfl⟩
  | @cons type kind types kinds hkind _ ih =>
    obtain ⟨k, hkind, rfl⟩ := hkind
    cases ha with
    | @cons _ w _ args hw hargs =>
      obtain ⟨v, hlive, hcheck⟩ := hw
      rcases HostValue.ofValue_checked hkind hcheck hlive with ⟨x, hx, htype⟩ | ⟨fault, hout, hx⟩
      -- The first argument that is out of its range ends the conversion; places count from here.
      · rcases @ih (position + 1) args hargs with
          ⟨xs, hxs, htypes⟩ | ⟨i, type', w', fault, htype', hw', hout, hfails⟩
        · refine .inl ⟨x :: xs, ?_, by rw [List.map_cons, List.map_cons, htype, htypes]⟩
          simp only [arguments, hx, hxs]
          rfl
        · refine .inr ⟨i + 1, type', w', fault, htype', hw', hout, ?_⟩
          simp only [arguments, hx, hfails]
          rw [Nat.add_assoc, Nat.add_comm 1 i]
          rfl
      · refine .inr ⟨0, type, w, fault, rfl, rfl, hout, ?_⟩
        simp only [arguments, hx]
        rfl

/-- What a function that a host offers is bound as. -/
theorem plugin_ok {f : HostFunction} {plugin : Plugin}
    (h : (HostOffer.function f).plugin name = .ok plugin) :
    HostFunction.kinds name 1 f.params = .ok plugin.params ∧ plugin.call = f.callback := by
  simp only [HostOffer.plugin, check_ok, bind_ok, pure_ok] at h
  obtain ⟨-, params, hparams, -, rfl⟩ := h
  exact ⟨hparams, rfl⟩

end
end HostFunction

/-- Host values of types with a kind come back from the language as they went in, Integers come
back from the host, and what the check of a call lets through is refused by a function of the host
only where it is an Integer outside the type of its parameter. -/
theorem marshalling_round_trips :
    (∀ (texts : TextStore) (v : HostValue) (type : HostType), v.scalarType? = some type →
      ((∃ fault, (v.toValue texts).1 = .error fault) ↔
        ∃ n, v = .integer n ∧ n.type.Unsigned ∧ integerEnd ≤ n.value) ∧
      ∀ w texts' more, v.toValue texts = (.ok w, texts') → texts'.Extends more → v.Narrow →
        HostValue.ofValue more w (some type) = .ok v) ∧
    (∀ (texts : TextStore) (n : Int64) (t : IntegerType),
      ((∃ v, HostValue.ofValue texts (.int n) (some (.integer t)) = .ok v) ↔ t.Holds n.toInt) ∧
      ∀ v, HostValue.ofValue texts (.int n) (some (.integer t)) = .ok v →
        v.scalarType? = some (.integer t) ∧ v.toValue texts = (.ok (.int n), texts)) ∧
    (∀ (texts : TextStore) (type : HostType) (kind : Kind) (v w : Value), type.kind = .ok kind →
      v.assertKind (.known kind) = .ok w → texts.Live v →
      (∃ x, HostValue.ofValue texts w (some type) = .ok x ∧ x.scalarType? = some type) ∨
      ∃ fault, HostValue.OutOfRange w type fault ∧
        HostValue.ofValue texts w (some type) = .error fault) ∧
    ∀ (name : Text) (f : HostFunction) (plugin : Plugin) (texts : TextStore) (args : List Value),
      (HostOffer.function f).plugin name = .ok plugin →
      List.Forall₂ (HostFunction.Checked texts) plugin.params args →
      (∃ xs, HostFunction.arguments texts 1 args f.params = .ok xs ∧
        xs.map HostValue.scalarType? = f.params.map some) ∨
      ∃ i type w fault, f.params[i]? = some type ∧ args[i]? = some w ∧
        HostValue.OutOfRange w type fault ∧ plugin.call texts args =
          (.error (.within ("argument " ++ Text.ofNat (i + 1)) fault), texts) := by
  refine ⟨fun texts v type h => ⟨HostValue.toValue_fails h, ?_⟩,
    fun texts n t => ⟨HostValue.ofValue_integer, fun v => HostValue.toValue_ofValue⟩,
    fun texts type kind v w hk hw hl => HostValue.ofValue_checked hk hw hl, ?_⟩
  · exact fun w texts' more hv hm hn => HostValue.ofValue_toValue h hn hv hm
  · intro name f plugin texts args hf hargs
    obtain ⟨hkinds, hcall⟩ := HostFunction.plugin_ok hf
    refine (HostFunction.arguments_checked (HostFunction.kinds_ok hkinds) hargs).imp_right ?_
    rintro ⟨i, type, w, fault, htype, hw, hout, hfails⟩
    refine ⟨i, type, w, fault, htype, hw, hout, ?_⟩
    rw [Nat.add_comm] at hfails
    rw [hcall, HostFunction.callback, hfails]

def labelled : HostFunction where
  params := [.integer (.unsigned .bits8), .string]
  call _ := .ok .nothing

def labelledPlugin : Plugin where
  name := "F"
  params := [.known .integer, .known .text]
  call := labelled.callback

theorem marshalling_round_trips_byte :
    HostValue.ofValue {} (.int 200) (some (.integer (.unsigned .bits8))) =
        .ok (.integer ⟨.unsigned .bits8, 200, by decide⟩) ∧
      HostValue.toValue {} (.integer ⟨.unsigned .bits8, 200, by decide⟩) = (.ok (.int 200), {}) ∧
      ((∃ x, HostValue.ofValue {} (.int 300) (some (.integer (.unsigned .bits8))) = .ok x ∧
          x.scalarType? = some (.integer (.unsigned .bits8))) ∨
        ∃ fault, HostValue.OutOfRange (.int 300) (.integer (.unsigned .bits8)) fault ∧
          HostValue.ofValue {} (.int 300) (some (.integer (.unsigned .bits8))) = .error fault) ∧
      ((∃ xs, HostFunction.arguments ⟨1, [(0, "a")]⟩ 1 [.int 300, .text 0] labelled.params = .ok xs ∧
          xs.map HostValue.scalarType? = labelled.params.map some) ∨
        ∃ i type w fault, labelled.params[i]? = some type ∧
          [Value.int 300, .text 0][i]? = some w ∧ HostValue.OutOfRange w type fault ∧
          labelledPlugin.call ⟨1, [(0, "a")]⟩ [.int 300, .text 0] =
            (.error (.within ("argument " ++ Text.ofNat (i + 1)) fault), ⟨1, [(0, "a")]⟩)) := by
  obtain ⟨hout, hin, hchecked, hcalled⟩ := marshalling_round_trips
  refine ⟨?_, ?_, ?_, ?_⟩
  · exact (hout {} (.integer ⟨.unsigned .bits8, 200, by decide⟩) _ rfl).2 _ _ _ rfl .refl nofun
  · exact ((hin {} 200 (.unsigned .bits8)).2 _ rfl).2
  · exact hchecked {} _ .integer (.int 300) (.int 300) rfl rfl ⟨_, rfl⟩
  · refine hcalled "F" labelled labelledPlugin _ _ rfl ?_
    exact .cons ⟨.int 300, ⟨_, rfl⟩, rfl⟩ (.cons ⟨.text 0, ⟨_, rfl⟩, rfl⟩ .nil)

/-- The check of a call looks at the type of a value only, so a Text passes that is not in the
store. -/
theorem missing_text_refused :
    HostType.string.kind = .ok .text ∧
      (Value.text 999999).assertKind (.known .text) = .ok (.text 999999) ∧
      HostValue.ofValue {} (.text 999999) (some .string) = .error (.missingText 999999) ∧
      ∀ fault, ¬HostValue.OutOfRange (.text 999999) .string fault :=
  ⟨rfl, rfl, rfl, fun _ ⟨_, _, htype, _⟩ => nomatch htype⟩

end Birl
