import Birl.Text.Rune

/-!
# Runes of texts put together

Reading a text rune by rune and putting texts together go along with each other
where no rune crosses the seam. The runes of characters never do (`whole_ofChar`),
and of the runes that were read from a text only a byte that belongs to no character
can (`whole_of_mem_runes`).
-/

namespace Birl
namespace Rune

/-- The bytes of the rune are read as the rune, whatever follows. -/
def Whole (r : Rune) : Prop :=
  ∀ rest, decodeSkipping 0 (r.bytes ++ rest) = r :: decodeSkipping 0 rest

theorem decodeSkipping_length (taken rest : List UInt8) :
    decodeSkipping taken.length (taken ++ rest) = decodeSkipping 0 rest := by
  induction taken with
  | nil => rfl
  | cons b taken ih => simpa [decodeSkipping] using ih

theorem whole_of_head {b : UInt8} {taken : List UInt8} {c : Char}
    (h : ∀ rest, head b (taken ++ rest) = ⟨c, b :: taken⟩) : Whole ⟨c, b :: taken⟩ := by
  intro rest
  simp only [List.cons_append, decodeSkipping, h, List.length_cons, Nat.add_sub_cancel]
  rw [decodeSkipping_length]

/-- What is read is a stray byte or does not depend on what follows. -/
theorem head_cases (b : UInt8) (rest : List UInt8) :
    head b rest = stray b ∨ Whole (head b rest) := by
  unfold head
  split
  · rename_i hb
    exact .inr (whole_of_head fun more => by simp [head, hb])
  · rename_i h1
    split
    · rename_i h2
      split
      · rename_i b1 more
        split
        · rename_i hs
          exact .inr (whole_of_head fun more => by simp [head, h1, h2, hs])
        · exact .inl rfl
      · exact .inl rfl
    · rename_i h2
      split
      · rename_i h3
        split
        · rename_i b1 b2 more
          split
          · rename_i hs
            exact .inr (whole_of_head fun more => by simp [head, h1, h2, h3, hs])
          · exact .inl rfl
        · exact .inl rfl
      · rename_i h3
        split
        · rename_i h4
          split
          · rename_i b1 b2 b3 more
            split
            · rename_i hs
              exact .inr (whole_of_head fun more => by simp [head, h1, h2, h3, h4, hs])
            · exact .inl rfl
          · exact .inl rfl
        · exact .inl rfl

-- ---------------------------------------------------------------------------
-- Characters
-- ---------------------------------------------------------------------------

theorem toNat_ofNat_of_lt {n : Nat} (h : n < 256) : (UInt8.ofNat n).toNat = n := by
  rw [UInt8.toNat_ofNat']
  omega

/-- The ranges that reading tells bytes by, on their values. -/
theorem isContinuation_iff (b : UInt8) : isContinuation b = true ↔ 128 ≤ b.toNat ∧ b.toNat ≤ 191 := by
  simp [isContinuation, UInt8.le_iff_toNat_le]

theorem isSecond_iff (lead b : UInt8) : isSecond lead b = true ↔
    (128 ≤ b.toNat ∧ b.toNat ≤ 191) ∧
    (lead.toNat = 224 → 160 ≤ b.toNat) ∧ (lead.toNat = 237 → b.toNat ≤ 159) ∧
    (lead.toNat = 240 → 144 ≤ b.toNat) ∧ (lead.toNat = 244 → b.toNat ≤ 143) := by
  have heq (k : Nat) (hk : k < 256) : (lead == UInt8.ofNat k) = decide (lead.toNat = k) := by
    rw [Bool.eq_iff_iff, beq_iff_eq, decide_eq_true_eq, ← UInt8.toNat_inj, toNat_ofNat_of_lt hk]
  unfold isSecond
  rw [show (0xE0 : UInt8) = UInt8.ofNat 224 from rfl, show (0xED : UInt8) = UInt8.ofNat 237 from rfl,
    show (0xF0 : UInt8) = UInt8.ofNat 240 from rfl, show (0xF4 : UInt8) = UInt8.ofNat 244 from rfl,
    heq 224 (by omega), heq 237 (by omega), heq 240 (by omega), heq 244 (by omega)]
  simp only [decide_eq_true_eq]
  repeat' split
  all_goals
    simp only [isContinuation, UInt8.le_iff_toNat_le, UInt8.reduceToNat, Bool.and_eq_true,
      decide_eq_true_eq]
    omega

theorem head_ofChar (c : Char) :
    ∃ b taken, String.utf8EncodeChar c = b :: taken ∧
      ∀ rest, head b (taken ++ rest) = ⟨c, b :: taken⟩ := by
  have hvalid : c.val.toNat < 0xD800 ∨ 0xDFFF < c.val.toNat ∧ c.val.toNat < 0x110000 := c.valid
  have hchar : Char.ofNat c.val.toNat = c := Char.ofNat_toNat c
  rw [String.utf8EncodeChar.eq_1]
  generalize c.val.toNat = n at hvalid hchar ⊢
  subst hchar
  split
  · refine ⟨_, [], rfl, fun rest => ?_⟩
    have hb : (UInt8.ofNat n).toNat = n := toNat_ofNat_of_lt (by omega)
    simp only [head, List.nil_append, UInt8.lt_iff_toNat_lt, UInt8.reduceToNat, hb]
    rw [if_pos (by omega)]
  · split
    · refine ⟨_, [_], rfl, fun rest => ?_⟩
      have hb := toNat_ofNat_of_lt (n := n / 64 % 32 + 192) (by omega)
      have hb1 := toNat_ofNat_of_lt (n := n % 64 + 128) (by omega)
      simp only [head, List.cons_append, List.nil_append, isSecond_iff, UInt8.lt_iff_toNat_lt,
        UInt8.le_iff_toNat_le, Bool.and_eq_true, decide_eq_true_eq, UInt8.reduceToNat, hb, hb1,
        tailBits]
      rw [if_neg (by omega), if_pos (by omega), if_pos (by omega)]
      congr 2
      omega
    · split
      · refine ⟨_, [_, _], rfl, fun rest => ?_⟩
        have hb := toNat_ofNat_of_lt (n := n / 4096 % 16 + 224) (by omega)
        have hb1 := toNat_ofNat_of_lt (n := n / 64 % 64 + 128) (by omega)
        have hb2 := toNat_ofNat_of_lt (n := n % 64 + 128) (by omega)
        simp only [head, List.cons_append, List.nil_append, isSecond_iff, isContinuation_iff,
          UInt8.lt_iff_toNat_lt, UInt8.le_iff_toNat_le, Bool.and_eq_true, decide_eq_true_eq,
          UInt8.reduceToNat, hb, hb1, hb2, tailBits]
        rw [if_neg (by omega), if_neg (by omega), if_pos (by omega), if_pos (by omega)]
        congr 2
        omega
      · refine ⟨_, [_, _, _], rfl, fun rest => ?_⟩
        have hb := toNat_ofNat_of_lt (n := n / 262144 % 8 + 240) (by omega)
        have hb1 := toNat_ofNat_of_lt (n := n / 4096 % 64 + 128) (by omega)
        have hb2 := toNat_ofNat_of_lt (n := n / 64 % 64 + 128) (by omega)
        have hb3 := toNat_ofNat_of_lt (n := n % 64 + 128) (by omega)
        simp only [head, List.cons_append, List.nil_append, isSecond_iff, isContinuation_iff,
          UInt8.lt_iff_toNat_lt, UInt8.le_iff_toNat_le, Bool.and_eq_true, decide_eq_true_eq,
          UInt8.reduceToNat, hb, hb1, hb2, hb3, tailBits]
        rw [if_neg (by omega), if_neg (by omega), if_neg (by omega), if_pos (by omega),
          if_pos (by omega)]
        congr 2
        omega

theorem whole_ofChar (c : Char) : Whole (ofChar c) := by
  obtain ⟨b, taken, hbytes, hhead⟩ := head_ofChar c
  rw [ofChar, hbytes]
  exact whole_of_head hhead

-- ---------------------------------------------------------------------------
-- Runes that were read
-- ---------------------------------------------------------------------------

theorem mem_decodeSkipping {r : Rune} {skip : Nat} {bs : List UInt8}
    (h : r ∈ decodeSkipping skip bs) : ∃ b rest, r = head b rest := by
  induction bs generalizing skip with
  | nil => simp [decodeSkipping] at h
  | cons b rest ih =>
    cases skip with
    | succ skip => exact ih h
    | zero =>
      rcases List.mem_cons.mp h with rfl | h
      · exact ⟨b, rest, rfl⟩
      · exact ih h

/-- A rune is one byte of the lower half, or all of it lies in the upper half. -/
def Split (r : Rune) : Prop :=
  (∃ b : UInt8, b.toNat < 128 ∧ r = ⟨Char.ofNat b.toNat, [b]⟩) ∨
    (128 ≤ r.char.toNat ∧ r.bytes ≠ [] ∧ ∀ b ∈ r.bytes, 128 ≤ b.toNat)

theorem toNat_ofNat_of_valid {n : Nat} (h : n < 0xD800 ∨ 0xDFFF < n ∧ n < 0x110000) :
    (Char.ofNat n).toNat = n := by
  have hvalid : n.isValidChar := h
  rw [Char.ofNat, dif_pos hvalid]
  rfl

theorem split_head (b : UInt8) (rest : List UInt8) : Split (head b rest) := by
  have hbyte := b.toNat_lt
  have hstray (hb : ¬b < 0x80) : Split (stray b) := by
    refine .inr ⟨show 128 ≤ replacement.toNat by decide, by simp [stray], ?_⟩
    simpa [stray, UInt8.lt_iff_toNat_lt] using hb
  unfold head
  split
  · rename_i hb
    exact .inl ⟨b, by simpa [UInt8.lt_iff_toNat_lt] using hb, rfl⟩
  · rename_i h1
    have h1' : 128 ≤ b.toNat := by simpa [UInt8.lt_iff_toNat_lt] using h1
    have hbytes {taken : List UInt8} {c : Char} (hc : 128 ≤ c.toNat)
        (ht : ∀ b ∈ taken, 128 ≤ b.toNat) : Split ⟨c, b :: taken⟩ :=
      .inr ⟨hc, List.cons_ne_nil _ _, List.forall_mem_cons.mpr ⟨h1', ht⟩⟩
    split
    · rename_i h2
      simp only [Bool.and_eq_true, decide_eq_true_eq, UInt8.le_iff_toNat_le,
        UInt8.reduceToNat] at h2
      split
      · split
        · rename_i b1 _ hs
          rw [isSecond_iff] at hs
          refine hbytes ?_ (by simpa using hs.1.1)
          rw [toNat_ofNat_of_valid] <;> simp only [tailBits] <;> omega
        · exact hstray h1
      · exact hstray h1
    · split
      · rename_i h3
        simp only [Bool.and_eq_true, decide_eq_true_eq, UInt8.le_iff_toNat_le,
          UInt8.reduceToNat] at h3
        split
        · split
          · rename_i b1 b2 _ hs
            rw [Bool.and_eq_true, isSecond_iff, isContinuation_iff] at hs
            refine hbytes ?_ (by simpa using ⟨hs.1.1.1, hs.2.1⟩)
            rw [toNat_ofNat_of_valid] <;> simp only [tailBits] <;> omega
          · exact hstray h1
        · exact hstray h1
      · split
        · rename_i h4
          simp only [Bool.and_eq_true, decide_eq_true_eq, UInt8.le_iff_toNat_le,
            UInt8.reduceToNat] at h4
          split
          · split
            · rename_i b1 b2 b3 _ hs
              rw [Bool.and_eq_true, Bool.and_eq_true, isSecond_iff, isContinuation_iff,
                isContinuation_iff] at hs
              refine hbytes ?_ (by simpa using ⟨hs.1.1.1.1, hs.1.2.1, hs.2.1⟩)
              rw [toNat_ofNat_of_valid] <;> simp only [tailBits] <;> omega
            · exact hstray h1
          · exact hstray h1
        · exact hstray h1

theorem head_of_prefix {b : UInt8} {front back : List UInt8}
    (h : head b (front ++ back) = stray b) : head b front = stray b := by
  rcases head_cases b front with hstray | hwhole
  · exact hstray
  · obtain ⟨taken, hbytes, more, rfl⟩ := head_bytes b front
    have hread := hwhole (more ++ back)
    rw [hbytes, List.cons_append, decodeSkipping, ← List.append_assoc, h] at hread
    exact (List.cons.inj hread).1.symm

end Rune

namespace Text

/-- Only a byte that belongs to no character may join with what follows it. -/
theorem whole_of_mem_runes {t : Text} {r : Rune} (h : r ∈ t.runes)
    (hc : r.char ≠ Rune.replacement) : r.Whole := by
  obtain ⟨b, rest, rfl⟩ := Rune.mem_decodeSkipping h
  rcases Rune.head_cases b rest with hs | hw
  · exact absurd (congrArg Rune.char hs) hc
  · exact hw

theorem split_of_mem_runes {t : Text} {r : Rune} (h : r ∈ t.runes) : r.Split := by
  obtain ⟨b, rest, rfl⟩ := Rune.mem_decodeSkipping h
  exact Rune.split_head b rest

theorem runes_ofRunes_append {rs : List Rune} (h : ∀ r ∈ rs, r.Whole) (t : Text) :
    (ofRunes rs ++ t).runes = rs ++ t.runes := by
  induction rs with
  | nil => rfl
  | cons r rs ih =>
    obtain ⟨hr, hrs⟩ := List.forall_mem_cons.mp h
    have hstep := hr (rs.flatMap Rune.bytes ++ t.bytes)
    simp only [runes, bytes_append, ofRunes, List.flatMap_cons, List.append_assoc,
      List.cons_append] at hstep ih ⊢
    rw [hstep, ih hrs]

theorem ofChars_eq_ofRunes (cs : List Char) : ofChars cs = ofRunes (cs.map Rune.ofChar) := by
  simp [ofChars, ofRunes, List.flatMap_map, Rune.ofChar]

theorem whole_map_ofChar (cs : List Char) : ∀ r ∈ cs.map Rune.ofChar, r.Whole := by
  simpa using fun c _ => Rune.whole_ofChar c

theorem runes_ofChars_append (cs : List Char) (t : Text) :
    (ofChars cs ++ t).runes = cs.map Rune.ofChar ++ t.runes := by
  rw [ofChars_eq_ofRunes]
  exact runes_ofRunes_append (whole_map_ofChar cs) t

theorem append_empty (t : Text) : t ++ empty = t := by
  cases t
  exact congrArg Text.mk (List.append_nil _)

theorem runes_ofChars (cs : List Char) : (ofChars cs).runes = cs.map Rune.ofChar := by
  simpa [append_empty, runes, empty, Rune.decodeSkipping] using runes_ofChars_append cs empty

/-- A text of characters is read as these characters. -/
theorem chars_ofChars (cs : List Char) : (ofChars cs).chars = cs := by
  rw [chars, runes_ofChars, List.map_map]
  exact List.map_id _

-- ---------------------------------------------------------------------------
-- Parts of a text
-- ---------------------------------------------------------------------------

theorem runes_front {t : Text} {front back : List Rune} (h : t.runes = front ++ back) :
    (ofRunes front).runes = front := by
  obtain ⟨bs⟩ := t
  simp only [runes, ofRunes] at h ⊢
  induction front generalizing bs with
  | nil => rfl
  | cons r front ih =>
    cases bs with
    | nil => cases h
    | cons b bs =>
      rw [Rune.decodeSkipping, List.cons_append] at h
      obtain ⟨hr, hrest⟩ := List.cons.inj h
      obtain ⟨taken, hbytes, more, rfl⟩ := Rune.head_bytes b bs
      rw [hbytes, List.length_cons, Nat.add_sub_cancel, Rune.decodeSkipping_length] at hrest
      have ih := ih _ hrest
      rcases Rune.head_cases b (taken ++ more) with hstray | hwhole
      · have htaken : taken = [] := by
          rw [hstray] at hbytes
          exact (List.cons.inj hbytes).2.symm
        subst htaken
        have hmore : more = front.flatMap Rune.bytes ++ back.flatMap Rune.bytes := by
          rw [← List.flatMap_append, ← hrest, Rune.flatMap_bytes_decodeSkipping, List.drop_zero]
        rw [List.nil_append, hmore] at hstray
        rw [← hr, List.nil_append, hmore, hstray]
        rw [List.flatMap_cons]
        show Rune.decodeSkipping 0 (b :: front.flatMap Rune.bytes) = _
        rw [Rune.decodeSkipping, Rune.head_of_prefix hstray]
        exact congrArg _ ih
      · rw [← hr, List.flatMap_cons, hwhole, ih]

theorem runes_back {t : Text} {front back : List Rune} (h : t.runes = front ++ back) :
    (ofRunes back).runes = back := by
  obtain ⟨bs⟩ := t
  induction front generalizing bs with
  | nil =>
    rw [List.nil_append] at h
    rw [← h, ofRunes_runes]
  | cons r front ih =>
    cases bs with
    | nil => cases h
    | cons b bs =>
      rw [runes, Rune.decodeSkipping, List.cons_append] at h
      obtain ⟨-, hrest⟩ := List.cons.inj h
      obtain ⟨taken, hbytes, more, rfl⟩ := Rune.head_bytes b bs
      rw [hbytes, List.length_cons, Nat.add_sub_cancel, Rune.decodeSkipping_length] at hrest
      exact ih more hrest

/-- The runes of a text between two of its runes are the runes of the text that they make up. -/
theorem runes_middle {t : Text} {front middle back : List Rune}
    (h : t.runes = front ++ (middle ++ back)) : (ofRunes middle).runes = middle :=
  runes_front (runes_back h)

end Text
end Birl
