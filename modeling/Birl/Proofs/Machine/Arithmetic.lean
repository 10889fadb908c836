import Birl.Proofs.Expression
import Birl.Proofs.TextStore

/-!
# Operations on values and on what they stand for

Arithmetic on values of a store does to the plain values what `Arithmetic.apply`
says (`arithmetic_ok`), also where it takes a text out of the store and changes
another in place. Every operation leaves the store well formed.
-/

namespace Birl

-- ---------------------------------------------------------------------------
-- Integers of 64 bits
-- ---------------------------------------------------------------------------

/-- An operation on Integers is the exact one, wrapped to 64 bits. -/
theorem Arithmetic.onInt64_eq (op : Arithmetic) (x y : Int64) :
    op.onInt64 x y =
      if op = .div ∧ y = 0 then .error .divisionByZero
      else .ok (Int64.ofInt (op.exact x.toInt y.toInt)) := by
  cases op with
  | add => simp [onInt64, exact, Int64.ofInt_add]
  | sub => simp [onInt64, exact, Int64.ofInt_sub]
  | mul => simp [onInt64, exact, Int64.ofInt_mul]
  | div =>
    have hdiv : x / y = Int64.ofInt (x.toInt.tdiv y.toInt) := by
      rw [← Int64.toInt_inj, Int64.toInt_div, Int64.toInt_ofInt]
    simp [onInt64, exact, hdiv]

namespace TextStore

-- ---------------------------------------------------------------------------
-- Well-formed results
-- ---------------------------------------------------------------------------

section
variable {s : TextStore}

theorem WellFormed.take {s' : TextStore} {id : Nat} {t : Text} (hs : s.WellFormed)
    (h : s.take id = .ok (t, s')) : s'.WellFormed := by
  cases hf : s.find? id with
  | none => simp [TextStore.take, hf] at h
  | some t' =>
    obtain ⟨s'', hs'', hwf, -⟩ := take_ok hs hf
    rw [hs''] at h
    cases h
    exact hwf

theorem WellFormed.modify {s' : TextStore} {id : Nat} {f : Text → Text} (hs : s.WellFormed)
    (h : s.modify id f = .ok s') : s'.WellFormed := by
  cases hf : s.find? id with
  | none => simp [TextStore.modify, hf] at h
  | some t =>
    obtain ⟨s'', hs'', hwf, -⟩ := modify_ok hs f hf
    rw [hs''] at h
    cases h
    exact hwf

theorem WellFormed.concat (hs : s.WellFormed) (left right : Nat) :
    (s.concat left right).2.WellFormed := by
  unfold TextStore.concat
  split
  · exact hs
  · rename_i taken htake
    split
    · exact hs.take htake
    · rename_i joined happend
      exact (hs.take htake).modify happend

theorem WellFormed.arithmetic (hs : s.WellFormed) (op : Arithmetic) (a b : Value) :
    (s.arithmetic op a b).2.WellFormed := by
  unfold TextStore.arithmetic
  split <;> try exact hs
  split
  · exact hs.concat _ _
  · exact hs

theorem WellFormed.intern (hs : s.WellFormed) (k : Constant) : (s.intern k).2.WellFormed :=
  (intern_ok s k).1.wellFormed hs

theorem WellFormed.toInteger (hs : s.WellFormed) (v : Value) : (s.toInteger v).2.WellFormed := by
  unfold TextStore.toInteger
  split
  · exact hs
  · split <;> exact hs
  · split
    · exact hs
    · rename_i htake
      split <;> exact hs.take htake
  · exact hs

theorem WellFormed.toNumber (hs : s.WellFormed) (v : Value) : (s.toNumber v).2.WellFormed := by
  unfold TextStore.toNumber
  split
  · exact hs
  · exact hs
  · split
    · exact hs
    · rename_i htake
      split <;> exact hs.take htake
  · exact hs

theorem WellFormed.toText (hs : s.WellFormed) (v : Value) : (s.toText v).2.WellFormed := by
  unfold TextStore.toText
  split
  · exact hs
  · split
    · exact hs.intern _
    · exact hs

-- ---------------------------------------------------------------------------
-- Arithmetic
-- ---------------------------------------------------------------------------

theorem concat_ok (hs : s.WellFormed) {left right : Nat} {x y : Text} (hl : s.find? left = some x)
    (hr : s.find? right = some y) (hne : left ≠ right) :
    ∃ s', s.concat left right = (.ok (.text left), s') ∧ s'.WellFormed ∧
      s'.find? left = some (x ++ y) ∧
      ∀ i, i ≠ left → i ≠ right → s'.find? i = s.find? i := by
  obtain ⟨taken, htake, htwf, -, htaken⟩ := take_ok hs hr
  have hleft : taken.find? left = some x := by rw [htaken, if_neg hne, hl]
  obtain ⟨joined, hjoin, hjwf, -, hjoined⟩ := modify_ok htwf (fun old => old ++ y) hleft
  have happend : taken.append left y = .ok joined := hjoin
  refine ⟨joined, by simp [TextStore.concat, htake, happend], hjwf, by simp [hjoined], ?_⟩
  intro i hi hi'
  rw [hjoined, if_neg hi, htaken, if_neg hi']

/-- The result of an operation on `a` and `b` stands for what is expected, or
fails with an error of the expected class. A text it gives is that of `a`, and all
texts but those of `a` and `b` are as before. -/
structure Computes (s : TextStore) (a b : Value) (expected : Except ErrorKind Constant)
    (result : StoreResult) : Prop where
  wellFormed : result.2.WellFormed
  others : ∀ i, a ≠ .text i → b ≠ .text i → result.2.find? i = s.find? i
  agrees : match expected with
    | .ok w => ∃ x, result.1 = .ok x ∧ result.2.constant? x = some w ∧
        ∀ i, x = .text i → a = .text i
    | .error kind => ∃ fault, result.1 = .error fault ∧ fault.kind = kind

theorem arithmetic_ok (hs : s.WellFormed) {a b : Value} {u v : Constant}
    (ha : s.constant? a = some u) (hb : s.constant? b = some v) (hab : Apart a b)
    (op : Arithmetic) : s.Computes a b (op.apply u v) (s.arithmetic op a b) := by
  -- All but joining leaves the store as it is and gives no text.
  have hvalue {x : Value} {w : Constant} (hx : s.constant? x = some w) (hplain : ∀ i, x ≠ .text i) :
      s.Computes a b (.ok w) (.ok x, s) :=
    ⟨hs, fun _ _ _ => rfl, x, rfl, hx, fun i h => absurd h (hplain i)⟩
  have hfault {fault : Fault} {kind : ErrorKind} (hk : fault.kind = kind) :
      s.Computes a b (.error kind) (.error fault, s) :=
    ⟨hs, fun _ _ _ => rfl, fault, rfl, hk⟩
  cases a with
  | null =>
    cases ha
    exact hvalue rfl nofun
  | int x =>
    cases ha
    cases b with
    | null => cases hb; exact hvalue rfl nofun
    | int y =>
      cases hb
      simp only [Arithmetic.apply, TextStore.arithmetic, Arithmetic.onInt64_eq]
      split
      · exact hfault rfl
      · exact hvalue rfl nofun
    | number y => cases hb; exact hvalue rfl nofun
    | text right =>
      obtain ⟨t, -, rfl⟩ := constant?_text.mp hb
      exact hfault rfl
  | number x =>
    cases ha
    cases b with
    | null => cases hb; exact hvalue rfl nofun
    | int y => cases hb; exact hvalue rfl nofun
    | number y => cases hb; exact hvalue rfl nofun
    | text right =>
      obtain ⟨t, -, rfl⟩ := constant?_text.mp hb
      exact hfault rfl
  | text left =>
    obtain ⟨x, hx, rfl⟩ := constant?_text.mp ha
    cases b with
    | null => cases hb; exact hvalue rfl nofun
    | int y => cases hb; exact hfault rfl
    | number y => cases hb; exact hfault rfl
    | text right =>
      obtain ⟨y, hy, rfl⟩ := constant?_text.mp hb
      by_cases hop : op = .add
      · subst hop
        have hne : left ≠ right := fun e => hab left rfl (e ▸ rfl)
        obtain ⟨s', hconcat, hwf, hleft, hothers⟩ := concat_ok hs hx hy hne
        simp only [TextStore.arithmetic, if_true, hconcat]
        refine ⟨hwf, fun i hi hi' => ?_, .text left, rfl, ?_, fun i h => h⟩
        · exact hothers i (fun e => hi (e ▸ rfl)) (fun e => hi' (e ▸ rfl))
        · simp [constant?, hleft]
      · simp only [Arithmetic.apply, TextStore.arithmetic, hop, if_false]
        exact hfault rfl

end
end TextStore
end Birl
