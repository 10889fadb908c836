import Birl.TextStore

/-!
# Laws of text stores

What each operation does to the texts under the ids (`find?_add`,
`find?_modifyEntry`, `find?_removeEntry`), the invariant that every id in a store
was given out by it once (`WellFormed`), and the plain value that a value of a
store stands for (`constant?`). A store that was only added to (`Extends`) keeps
the meaning of every value that had one.
-/

namespace Birl.TextStore

-- ---------------------------------------------------------------------------
-- Texts by id
-- ---------------------------------------------------------------------------

theorem find?_add (s : TextStore) (t : Text) (id : Nat) :
    (s.add t).2.find? id = if id = s.next then some t else s.find? id := by
  by_cases h : id = s.next
  · simp [add, find?, h]
  · have hb : (id == s.next) = false := by simpa using h
    simp [add, find?, List.lookup_cons, hb, h]

theorem lookup_modifyEntry (id i : Nat) (f : Text → Text) (entries : List (Nat × Text)) :
    (modifyEntry id f entries).lookup i =
      if i = id then (entries.lookup i).map f else entries.lookup i := by
  induction entries with
  | nil => simp [modifyEntry]
  | cons entry rest ih =>
    obtain ⟨j, t⟩ := entry
    unfold modifyEntry
    split
    · rename_i hj
      subst hj
      by_cases hi : i = j
      · simp [hi]
      · have hb : (i == j) = false := by simpa using hi
        simp [List.lookup_cons, hb, hi]
    · rename_i hj
      by_cases hi : i = j
      · subst hi
        simp [hj]
      · have hb : (i == j) = false := by simpa using hi
        simp [List.lookup_cons, hb, ih]

theorem mem_of_lookup {entries : List (Nat × Text)} {i : Nat} {t : Text}
    (h : entries.lookup i = some t) : i ∈ entries.map Prod.fst := by
  obtain ⟨before, after, rfl, -⟩ := List.lookup_eq_some_iff.mp h
  simp

theorem keys_modifyEntry (id : Nat) (f : Text → Text) (entries : List (Nat × Text)) :
    (modifyEntry id f entries).map Prod.fst = entries.map Prod.fst := by
  induction entries with
  | nil => rfl
  | cons entry rest ih =>
    obtain ⟨j, t⟩ := entry
    unfold modifyEntry
    split <;> simp [ih]

theorem keys_removeEntry (id : Nat) (entries : List (Nat × Text)) :
    (removeEntry id entries).map Prod.fst = (entries.map Prod.fst).erase id := by
  induction entries with
  | nil => rfl
  | cons entry rest ih =>
    obtain ⟨j, t⟩ := entry
    unfold removeEntry
    split
    · rename_i hj
      simp [hj]
    · rename_i hj
      simp [ih, hj]

theorem lookup_removeEntry {entries : List (Nat × Text)} (h : (entries.map Prod.fst).Nodup)
    (id i : Nat) :
    (removeEntry id entries).lookup i = if i = id then none else entries.lookup i := by
  induction entries with
  | nil => simp [removeEntry]
  | cons entry rest ih =>
    obtain ⟨j, t⟩ := entry
    obtain ⟨hj, hrest⟩ := List.nodup_cons.mp h
    unfold removeEntry
    split
    · rename_i hji
      subst hji
      by_cases hi : i = j
      · subst hi
        have hn : rest.lookup i = none := by
          refine List.lookup_eq_none_iff.mpr fun entry he => ?_
          have hne : i ≠ entry.1 := fun h => hj (List.mem_map.mpr ⟨entry, he, h.symm⟩)
          simpa using hne
        simpa using hn
      · have hb : (i == j) = false := by simpa using hi
        simp [List.lookup_cons, hb, hi]
    · rename_i hji
      by_cases hi : i = j
      · subst hi
        simp [hji]
      · have hb : (i == j) = false := by simpa using hi
        simp [List.lookup_cons, hb, ih hrest]

-- ---------------------------------------------------------------------------
-- Well-formed stores
-- ---------------------------------------------------------------------------

/-- Every id is of one text and was given out before. -/
structure WellFormed (s : TextStore) : Prop where
  nodup : (s.entries.map Prod.fst).Nodup
  lt_next : ∀ id ∈ s.entries.map Prod.fst, id < s.next

theorem WellFormed.find_lt {s : TextStore} (h : s.WellFormed) {id : Nat} {t : Text}
    (hf : s.find? id = some t) : id < s.next :=
  h.lt_next id (mem_of_lookup hf)

theorem wellFormed_empty : WellFormed {} := ⟨List.nodup_nil, by simp⟩

theorem WellFormed.add {s : TextStore} (h : s.WellFormed) (t : Text) : (s.add t).2.WellFormed := by
  constructor
  · refine List.nodup_cons.mpr ⟨fun hm => ?_, h.nodup⟩
    exact Nat.lt_irrefl _ (h.lt_next _ hm)
  · intro id hm
    rcases List.mem_cons.mp hm with rfl | hm
    · exact Nat.lt_succ_self _
    · exact Nat.lt_succ_of_lt (h.lt_next id hm)

theorem take_ok {s : TextStore} (h : s.WellFormed) {id : Nat} {t : Text}
    (hf : s.find? id = some t) :
    ∃ s', s.take id = .ok (t, s') ∧ s'.WellFormed ∧ s'.next = s.next ∧
      ∀ i, s'.find? i = if i = id then none else s.find? i := by
  refine ⟨{ s with entries := removeEntry id s.entries }, by simp [take, hf], ?_, rfl, ?_⟩
  · constructor
    · show ((removeEntry id s.entries).map Prod.fst).Nodup
      rw [keys_removeEntry]
      exact h.nodup.erase id
    · intro i hi
      rw [keys_removeEntry] at hi
      exact h.lt_next i (List.mem_of_mem_erase hi)
  · intro i
    exact lookup_removeEntry h.nodup id i

theorem modify_ok {s : TextStore} (h : s.WellFormed) {id : Nat} {t : Text}
    (f : Text → Text) (hf : s.find? id = some t) :
    ∃ s', s.modify id f = .ok s' ∧ s'.WellFormed ∧ s'.next = s.next ∧
      ∀ i, s'.find? i = if i = id then some (f t) else s.find? i := by
  refine ⟨{ s with entries := modifyEntry id f s.entries }, by simp [modify, hf], ?_, rfl, ?_⟩
  · constructor
    · show ((modifyEntry id f s.entries).map Prod.fst).Nodup
      rw [keys_modifyEntry]
      exact h.nodup
    · intro i hi
      rw [keys_modifyEntry] at hi
      exact h.lt_next i hi
  · intro i
    rw [find?, lookup_modifyEntry]
    split
    · rename_i hi
      subst hi
      simp [show s.entries.lookup i = some t from hf]
    · rfl

-- ---------------------------------------------------------------------------
-- What a value stands for
-- ---------------------------------------------------------------------------

/-- The plain value that a value of the store stands for; a Text whose id is not
in the store stands for nothing. -/
def constant? (s : TextStore) : Value → Option Constant
  | .null => some .null
  | .int n => some (.int n)
  | .number x => some (.number x)
  | .text id => (s.find? id).map .text

/-- The value stands for something. -/
def Live (s : TextStore) (v : Value) : Prop := ∃ k, s.constant? v = some k

theorem constant?_text {s : TextStore} {id : Nat} {k : Constant} :
    s.constant? (.text id) = some k ↔ ∃ t, s.find? id = some t ∧ k = .text t := by
  simp only [constant?, Option.map_eq_some_iff]
  constructor
  · rintro ⟨t, ht, rfl⟩
    exact ⟨t, ht, rfl⟩
  · rintro ⟨t, ht, rfl⟩
    exact ⟨t, ht, rfl⟩

/-- Two values that do not share a text. -/
def Apart (v w : Value) : Prop := ∀ id, v = .text id → w ≠ .text id

theorem Apart.symm {v w : Value} (h : Apart v w) : Apart w v := fun id hw hv => h id hv hw

theorem apart_of_fresh {s : TextStore} (hs : s.WellFormed) {v w : Value} (hv : s.Live v)
    (hw : ∀ id, w = .text id → id = s.next) : Apart v w := by
  rintro id rfl hid
  obtain ⟨k, hk⟩ := hv
  obtain ⟨t, ht, -⟩ := constant?_text.mp hk
  have := hs.find_lt ht
  have := hw id hid
  omega

theorem constant?_congr {s s' : TextStore} {v : Value}
    (h : ∀ id, v = .text id → s'.find? id = s.find? id) : s'.constant? v = s.constant? v := by
  cases v with
  | text id => simp [constant?, h id rfl]
  | _ => rfl

-- ---------------------------------------------------------------------------
-- Stores that grew
-- ---------------------------------------------------------------------------

/-- A store after nothing was done to it but adding texts. -/
inductive Extends (s : TextStore) : TextStore → Prop
  | refl : Extends s s
  | add {s' : TextStore} (h : Extends s s') (t : Text) : Extends s (s'.add t).2

theorem Extends.trans {s s' s'' : TextStore} (h : Extends s s') (h' : Extends s' s'') :
    Extends s s'' := by
  induction h' with
  | refl => exact h
  | add _ t ih => exact ih.add t

theorem Extends.wellFormed {s s' : TextStore} (h : Extends s s') (hs : s.WellFormed) :
    s'.WellFormed := by
  induction h with
  | refl => exact hs
  | add _ t ih => exact ih.add t

theorem Extends.next_le {s s' : TextStore} (h : Extends s s') : s.next ≤ s'.next := by
  induction h with
  | refl => exact Nat.le_refl _
  | add _ t ih => exact Nat.le_succ_of_le ih

theorem Extends.find? {s s' : TextStore} (h : Extends s s') {id : Nat} (hid : id < s.next) :
    s'.find? id = s.find? id := by
  induction h with
  | refl => rfl
  | add h t ih =>
    have hn := h.next_le
    rw [find?_add, if_neg (by omega), ih]

theorem Extends.constant? {s s' : TextStore} (h : Extends s s') (hs : s.WellFormed) {v : Value}
    {k : Constant} (hv : s.constant? v = some k) : s'.constant? v = some k := by
  rw [← hv]
  apply constant?_congr
  rintro id rfl
  obtain ⟨t, ht, -⟩ := constant?_text.mp hv
  exact h.find? (hs.find_lt ht)

theorem Extends.live {s s' : TextStore} (h : Extends s s') (hs : s.WellFormed) {v : Value}
    (hv : s.Live v) : s'.Live v := by
  obtain ⟨k, hk⟩ := hv
  exact ⟨k, h.constant? hs hk⟩

/-- A constant put into a store stands for itself there, under an id of its own if
it is a text. -/
theorem intern_ok (s : TextStore) (k : Constant) :
    s.Extends (s.intern k).2 ∧ (s.intern k).2.constant? (s.intern k).1 = some k ∧
      ∀ id, (s.intern k).1 = .text id → id = s.next := by
  cases k with
  | text t =>
    refine ⟨Extends.refl.add t, ?_, ?_⟩
    · show (s.add t).2.constant? (.text s.next) = _
      simp [TextStore.constant?, find?_add]
    · intro id h
      exact (Value.text.inj h).symm
  | _ => exact ⟨.refl, rfl, by simp [intern]⟩

/-- A constant that was put into a store stands for itself however the store grows. -/
theorem Extends.intern {s s' : TextStore} {k : Constant} (h : (s.intern k).2.Extends s') :
    s'.constant? (s.intern k).1 = some k := by
  obtain ⟨-, hk, hid⟩ := intern_ok s k
  rw [← hk]
  apply constant?_congr
  intro id hv
  refine h.find? ?_
  cases k with
  | text t =>
    rw [hid id hv]
    exact Nat.lt_succ_self s.next
  | _ => cases hv

end Birl.TextStore
