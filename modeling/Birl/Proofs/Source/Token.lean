import Birl.Command.Render
import Birl.Proofs.Source.Digits

/-!
# What tokens are read from a text

`Spells` says that a text is read as given tokens when a given text follows it: this
is how a line is read piece by piece (`Spells.append`). Where a piece ends in a word or
a number, what follows must not go on with it (`Breaks`).

The other way round, `Token.Read` says what a token that was read from a text can be.
-/

namespace Birl

/-- What a token says, wherever it stands: its kind and, for a word, its spelling. -/
structure Said where
  kind : TokenKind
  spelling : Text := .empty
  deriving DecidableEq

def Token.said (t : Token) : Said := ⟨t.kind, if t.kind.isWord then t.lexeme else .empty⟩

theorem Token.kind_of_said {t : Token} {s : Said} (h : t.said = s) : t.kind = s.kind :=
  congrArg Said.kind h

theorem Token.word_of_said {t : Token} {w : Text} (h : t.said = ⟨.word, w⟩) :
    t.kind = .word ∧ t.lexeme = w := by
  have hkind : t.kind = .word := congrArg Said.kind h
  refine ⟨hkind, ?_⟩
  simpa [Token.said, hkind, TokenKind.isWord] using h

/-- The text, followed by `rest`, is read as tokens that say `said`. -/
def Spells (t : Text) (said : List Said) (rest : Text) : Prop :=
  ∀ column, ∃ (tokens : List Token) (column' : Nat), tokens.map Token.said = said ∧
    Scan.scanFrom column 0 (t ++ rest).runes =
      tokens.map Scanned.token ++ Scan.scanFrom column' 0 rest.runes

/-- What follows goes on with neither a word nor a number. -/
def Breaks (rest : Text) : Prop :=
  ∀ r ∈ rest.runes.head?, Scan.isWordPart r.char = false ∧ r.char ≠ '.'

section
variable {s t rest : Text} {said said' : List Said}

theorem spells_empty (rest : Text) : Spells .empty [] rest := fun column => ⟨[], column, rfl, rfl⟩

theorem Text.append_assoc (s t u : Text) : s ++ t ++ u = s ++ (t ++ u) :=
  congrArg Text.mk (List.append_assoc _ _ _)

theorem Spells.append (h : Spells s said (t ++ rest)) (h' : Spells t said' rest) :
    Spells (s ++ t) (said ++ said') rest := by
  intro column
  obtain ⟨tokens, column₁, hsaid, hscan⟩ := h column
  obtain ⟨tokens', column₂, hsaid', hscan'⟩ := h' column₁
  refine ⟨tokens ++ tokens', column₂, by simp [hsaid, hsaid'], ?_⟩
  rw [Text.append_assoc, hscan, hscan']
  simp

-- ---------------------------------------------------------------------------
-- Pieces
-- ---------------------------------------------------------------------------

theorem scanFrom_skip (rs : List Rune) (column : Nat) (more : List Rune) :
    Scan.scanFrom column rs.length (rs ++ more) = Scan.scanFrom (column + rs.length) 0 more := by
  induction rs generalizing column with
  | nil => rfl
  | cons r rs ih =>
    rw [List.length_cons, List.cons_append, Scan.scanFrom, ih]
    congr 1
    omega

/-- One token, which `r` starts. -/
theorem spells_token {r : Rune} {rs : List Rune} {s : Said} (hw : ∀ x ∈ r :: rs, x.Whole)
    (hnul : r.char ≠ Scan.nul) (hblank : Scan.isBlank r.char = false) (hhash : r.char ≠ '#')
    (h : ∀ column, ∃ token, token.said = s ∧
      Scan.token column r (rs ++ rest.runes) = ⟨.token token, rs.length⟩) :
    Spells (.ofRunes (r :: rs)) [s] rest := by
  intro column
  obtain ⟨token, hsaid, htoken⟩ := h column
  refine ⟨[token], column + 1 + rs.length, by simp [hsaid], ?_⟩
  rw [Text.runes_ofRunes_append hw, List.cons_append, Scan.scanFrom]
  simp only [beq_iff_eq, hnul, hhash, hblank, if_false, htoken, Bool.false_eq_true]
  rw [scanFrom_skip]
  rfl

theorem spells_blank (rest : Text) : Spells " " [] rest := by
  intro column
  refine ⟨[], column + 1, rfl, ?_⟩
  show Scan.scanFrom column 0 (.ofChars [' '] ++ rest : Text).runes = _
  rw [Text.runes_ofChars_append]
  rfl

theorem spells_sign {c : Char} {kind : TokenKind} (h : TokenKind.ofChar? c = some kind)
    (rest : Text) : Spells (.ofChars [c]) [⟨kind, .empty⟩] rest := by
  have hword : kind.isWord = false ∧ c ≠ Scan.nul ∧ Scan.isBlank c = false ∧ c ≠ '#' := by
    unfold TokenKind.ofChar? at h
    split at h <;> cases h <;> decide
  obtain ⟨hword, hnul, hblank, hhash⟩ := hword
  rw [Text.ofChars_eq_ofRunes]
  refine spells_token (Text.whole_map_ofChar [c]) hnul hblank hhash ?_
  intro column
  refine ⟨⟨kind, .ofChar c, column⟩, by simp [Token.said, hword], ?_⟩
  simp [Scan.token, Rune.ofChar, h]

theorem takeWhile_stops {p : Rune → Bool} {a b : List Rune} (h : ∀ r ∈ a, p r = true)
    (hs : ∀ r ∈ b.head?, p r = false) : (a ++ b).takeWhile p = a := by
  rw [List.takeWhile_append_of_pos h]
  cases b with
  | nil => simp
  | cons r b =>
    have hr := hs r rfl
    simp [hr]

theorem ne_of_test {p : Char → Bool} {c d : Char} (h : p c = true) (hd : p d = false) : c ≠ d := by
  rintro rfl
  rw [h] at hd
  cases hd

theorem isBlank_of_test {p : Char → Bool} {c : Char} (h : p c = true)
    (hp : [' ', '\t', '\r', '\n'].any p = false) : Scan.isBlank c = false := by
  simp only [List.any_cons, List.any_nil, Bool.or_eq_false_iff] at hp
  obtain ⟨hspace, htab, hreturn, hfeed, -⟩ := hp
  simp [Scan.isBlank, ne_of_test h hspace, ne_of_test h htab, ne_of_test h hreturn,
    ne_of_test h hfeed]

/-- A text that is read as one word. -/
def Text.IsWord (t : Text) : Prop :=
  ∃ r rs, t = .ofRunes (r :: rs) ∧ Scan.isWordStart r.char = true ∧
    (∀ x ∈ rs, Scan.isWordPart x.char = true) ∧ ∀ x ∈ r :: rs, x.Whole

theorem isWordStart_digit {c : Char} (h : Scan.isDigit c = true) : Scan.isWordStart c = false := by
  have hall : ∀ n < 58, 48 ≤ n → Scan.isWordStart (Char.ofNat n) = false := by decide
  obtain ⟨hlow, hhigh⟩ := (isDigit_iff c).mp h
  rw [← Char.ofNat_toNat c]
  exact hall _ (Nat.lt_succ_of_le hhigh) hlow

theorem token_word {r : Rune} (h : Scan.isWordStart r.char = true) (column : Nat)
    (rest : List Rune) : Scan.token column r rest = Scan.word column r rest := by
  have hkind : TokenKind.ofChar? r.char = none := by
    unfold TokenKind.ofChar?
    split
    all_goals first | rfl | (rename_i hc; rw [hc] at h; revert h; decide)
  have hdigit : Scan.isDigit r.char = false := by
    cases hd : Scan.isDigit r.char with
    | false => rfl
    | true =>
      rw [isWordStart_digit hd] at h
      cases h
  have hquote : r.char ≠ '"' := ne_of_test h (by decide)
  simp [Scan.token, hkind, hquote, hdigit, h]

theorem spells_word {w : Text} (h : w.IsWord) (hs : Breaks rest) :
    Spells w [⟨.word, w⟩] rest := by
  obtain ⟨r, rs, rfl, hstart, hparts, hwhole⟩ := h
  refine spells_token hwhole (ne_of_test hstart (by decide)) (isBlank_of_test hstart (by decide))
    (ne_of_test hstart (by decide)) ?_
  intro column
  refine ⟨⟨.word, .ofRunes (r :: rs), column⟩, rfl, ?_⟩
  rw [token_word hstart, Scan.word, takeWhile_stops hparts fun x hx => (hs x hx).1]

-- ---------------------------------------------------------------------------
-- Numbers
-- ---------------------------------------------------------------------------

theorem isWordPart_digit {c : Char} (h : Scan.isDigit c = true) : Scan.isWordPart c = true := by
  have hall : ∀ n < 58, 48 ≤ n → Scan.isWordPart (Char.ofNat n) = true := by decide
  obtain ⟨hlow, hhigh⟩ := (isDigit_iff c).mp h
  rw [← Char.ofNat_toNat c]
  exact hall _ (Nat.lt_succ_of_le hhigh) hlow

theorem Breaks.digit (h : Breaks rest) : ∀ r ∈ rest.runes.head?, Scan.isDigit r.char = false := by
  intro r hr
  cases hd : Scan.isDigit r.char with
  | false => rfl
  | true =>
    have hpart := (h r hr).1
    rw [isWordPart_digit hd] at hpart
    cases hpart

theorem Digits.runes {ds : List Char} (h : Digits ds) :
    ∀ r ∈ ds.map Rune.ofChar, Scan.isDigit r.char = true := by
  simpa [Rune.ofChar, Digits] using h

theorem numberExtent_end {ds : List Rune} (hd : ∀ r ∈ ds, Scan.isDigit r.char = true) :
    Scan.numberExtent ds = (ds.length, false) := by
  have htake := takeWhile_stops (p := fun r => Scan.isDigit r.char) hd (b := []) nofun
  rw [List.append_nil] at htake
  simp [Scan.numberExtent, htake]

theorem numberExtent_point {ds rest : List Rune} {point : Rune}
    (hd : ∀ r ∈ ds, Scan.isDigit r.char = true) (hp : Scan.isDigit point.char = false) :
    Scan.numberExtent (ds ++ point :: rest) =
      let fraction := (rest.takeWhile fun r => Scan.isDigit r.char).length
      if point.char == '.' && fraction != 0 then (ds.length + 1 + fraction, true)
      else (ds.length, false) := by
  have htake := takeWhile_stops (p := fun r => Scan.isDigit r.char) hd (b := point :: rest)
    (by simpa using hp)
  simp only [Scan.numberExtent, htake, List.drop_left]

theorem numberExtent_whole {ds : List Char} (h : Digits ds) (hs : Breaks rest) :
    Scan.numberExtent (ds.map Rune.ofChar ++ rest.runes) = (ds.length, false) := by
  cases hrest : rest.runes with
  | nil => rw [List.append_nil, numberExtent_end h.runes, List.length_map]
  | cons point more =>
    have hmem : point ∈ rest.runes.head? := by simp [hrest]
    rw [numberExtent_point h.runes (hs.digit point hmem), List.length_map]
    simp [(hs point hmem).2]

theorem numberExtent_fraction {ds fs : List Char} (h : Digits ds) (hf : Digits fs) (hne : fs ≠ [])
    (hs : Breaks rest) :
    Scan.numberExtent ((ds ++ '.' :: fs).map Rune.ofChar ++ rest.runes) =
      (ds.length + 1 + fs.length, true) := by
  have htake := takeWhile_stops (p := fun r => Scan.isDigit r.char) hf.runes hs.digit
  have hlength : fs.length ≠ 0 := by simpa using hne
  rw [List.map_append, List.map_cons, List.append_assoc, List.cons_append,
    numberExtent_point h.runes (by decide), htake]
  simp [Rune.ofChar, hlength]

theorem spells_digits {d : Char} {cs : List Char} {s : Said} (hd : Scan.isDigit d = true)
    (h : ∀ column, ∃ token, token.said = s ∧
      Scan.number column ((d :: cs).map Rune.ofChar ++ rest.runes) = ⟨.token token, cs.length⟩) :
    Spells (.ofChars (d :: cs)) [s] rest := by
  have hkind : TokenKind.ofChar? d = none := by
    unfold TokenKind.ofChar?
    split
    all_goals first | rfl | exact absurd hd (by decide)
  have hquote : d ≠ '"' := ne_of_test hd (by decide)
  rw [Text.ofChars_eq_ofRunes]
  refine spells_token (Text.whole_map_ofChar (d :: cs)) (ne_of_test hd (by decide))
    (isBlank_of_test hd (by decide)) (ne_of_test hd (by decide)) ?_
  intro column
  obtain ⟨token, hsaid, hnumber⟩ := h column
  refine ⟨token, hsaid, ?_⟩
  simpa [Scan.token, Rune.ofChar, hkind, hquote, hd] using hnumber

theorem spells_integer {n : Nat} (h : n < integerEnd) (hs : Breaks rest) :
    Spells (.ofNat n) [⟨.integer (.ofInt n), .empty⟩] rest := by
  have hdigits := digits_toDigits n
  have hread := toInt64?_ofNat h
  unfold Text.ofNat at hread ⊢
  cases hcs : Nat.toDigits 10 n with
  | nil => exact absurd hcs Nat.toDigits_ne_nil
  | cons d cs =>
    rw [hcs] at hdigits hread
    refine spells_digits (hdigits d (by simp)) ?_
    intro column
    refine ⟨⟨.integer (.ofInt n), .ofChars (d :: cs), column⟩, rfl, ?_⟩
    have hlexeme : Text.ofRunes (((d :: cs).map Rune.ofChar ++ rest.runes).take (d :: cs).length) =
        .ofChars (d :: cs) := by
      rw [Text.ofChars_eq_ofRunes, List.take_left' (by simp)]
    simp only [Scan.number, numberExtent_whole hdigits hs, hlexeme, hread]
    rfl

theorem spells_number {ds fs : List Char} {x : Number} (h : Digits ds) (hne : ds ≠ [])
    (hf : Digits fs) (hfne : fs ≠ [])
    (hread : Reading.number (Text.ofChars (ds ++ '.' :: fs)).bytes = .ok x) (hs : Breaks rest) :
    Spells (.ofChars (ds ++ '.' :: fs)) [⟨.number x, .empty⟩] rest := by
  have hextent := numberExtent_fraction h hf hfne hs
  cases ds with
  | nil => exact absurd rfl hne
  | cons d ds =>
    rw [List.cons_append] at hextent hread ⊢
    refine spells_digits (h d (by simp)) ?_
    intro column
    refine ⟨⟨.number x, .ofChars (d :: (ds ++ '.' :: fs)), column⟩, rfl, ?_⟩
    have hlength : (d :: ds).length + 1 + fs.length = (d :: (ds ++ '.' :: fs)).length := by
      simp
      omega
    have hlexeme : Text.ofRunes (((d :: (ds ++ '.' :: fs)).map Rune.ofChar ++ rest.runes).take
        (d :: (ds ++ '.' :: fs)).length) = .ofChars (d :: (ds ++ '.' :: fs)) := by
      rw [Text.ofChars_eq_ofRunes, List.take_left' (by simp)]
    rw [hlength] at hextent
    simp only [Scan.number, hextent, hlexeme, hread]
    rfl

-- ---------------------------------------------------------------------------
-- Strings
-- ---------------------------------------------------------------------------

theorem stringBody_quote {r : Rune} (h : r.char = '"') (rest : List Rune) :
    Scan.stringBody (r :: rest) = .ok ([], 1) := by
  rw [Scan.stringBody.eq_def]
  simp [h, Scan.nul]

theorem stringBody_plain {r : Rune} {rest : List Rune} {cs : List Char} {n : Nat}
    (hnul : r.char ≠ Scan.nul) (hquote : r.char ≠ '"') (hslash : r.char ≠ '\\')
    (h : Scan.stringBody rest = .ok (cs, n)) :
    Scan.stringBody (r :: rest) = .ok (r.char :: cs, n + 1) := by
  rw [Scan.stringBody.eq_def]
  simp [hnul, hquote, hslash, h]

theorem stringBody_escape {r e : Rune} {rest : List Rune} {c : Char} {cs : List Char} {n : Nat}
    (hslash : r.char = '\\') (he : Scan.escape? e.char = some c)
    (h : Scan.stringBody rest = .ok (cs, n)) :
    Scan.stringBody (r :: e :: rest) = .ok (c :: cs, n + 2) := by
  rw [Scan.stringBody.eq_def]
  simp [hslash, he, h, Scan.nul]

/-- Every character is written so that it is read back, by itself or by its escape. -/
theorem stringBody_stringChar (cs : List Char) (more : List Rune) :
    Scan.stringBody ((cs.flatMap Render.stringChar).map Rune.ofChar ++ Rune.ofChar '"' :: more) =
      .ok (cs, (cs.flatMap Render.stringChar).length + 1) := by
  induction cs with
  | nil => exact stringBody_quote rfl more
  | cons c cs ih =>
    rw [List.flatMap_cons, List.map_append, List.append_assoc, List.length_append,
      Nat.add_right_comm, Nat.add_comm _ (List.length _)]
    unfold Render.stringChar
    split
    · exact stringBody_escape rfl rfl ih
    · exact stringBody_escape rfl rfl ih
    · exact stringBody_escape rfl rfl ih
    · exact stringBody_escape rfl rfl ih
    · exact stringBody_escape rfl rfl ih
    · rename_i hquote hslash _ _ _
      split
      · rename_i hnul
        cases (beq_iff_eq.mp hnul)
        exact stringBody_escape rfl rfl ih
      · rename_i hnul
        exact stringBody_plain (fun h => hnul (beq_iff_eq.mpr h)) hquote hslash ih

theorem spells_string (cs : List Char) (rest : Text) :
    Spells (Render.string (.ofChars cs)) [⟨.string (.ofChars cs), .empty⟩] rest := by
  rw [Render.string, Text.chars_ofChars, List.cons_append, Text.ofChars_eq_ofRunes]
  refine spells_token (Text.whole_map_ofChar ('"' :: _)) (by decide) (by decide) (by decide) ?_
  intro column
  have hbody := stringBody_stringChar cs rest.runes
  generalize hwritten : cs.flatMap Render.stringChar = written at hbody ⊢
  have htail : (written ++ ['"']).map Rune.ofChar ++ rest.runes =
      written.map Rune.ofChar ++ Rune.ofChar '"' :: rest.runes := by simp
  have hlength : ((written ++ ['"']).map Rune.ofChar).length = written.length + 1 := by simp
  refine ⟨⟨.string (.ofChars cs), .ofRunes (Rune.ofChar '"' ::
    ((written ++ ['"']).map Rune.ofChar ++ rest.runes).take (written.length + 1)), column⟩, rfl, ?_⟩
  have htoken (r : Rune) (more : List Rune) (h : r.char = '"') :
      Scan.token column r more = Scan.string column r more := by
    simp [Scan.token, h, TokenKind.ofChar?]
  show Scan.token column (Rune.ofChar '"') _ = _
  rw [htoken _ _ rfl, Scan.string, htail, hbody, hlength]

-- ---------------------------------------------------------------------------
-- Whole lines
-- ---------------------------------------------------------------------------

/-- Nothing is read from the rest of the line: it is over, or a comment. -/
def Silent (rest : Text) : Prop := rest = .empty ∨ ∃ r ∈ rest.runes.head?, r.char = '#'

theorem collect_tokens (tokens : List Token) (rest : List Scanned) :
    Token.collect (tokens.map Scanned.token ++ rest) =
      (tokens ++ (Token.collect rest).1, (Token.collect rest).2) := by
  induction tokens with
  | nil => rfl
  | cons t tokens ih => simp [Token.collect, ih]

theorem Silent.collect (h : Silent rest) (column : Nat) :
    Token.collect (Scan.scanFrom column 0 rest.runes) = ([], none) := by
  rcases h with rfl | ⟨r, hr, hchar⟩
  · rfl
  · cases hrunes : rest.runes with
    | nil => simp [hrunes] at hr
    | cons r' more =>
      have hrr : r' = r := by simpa [hrunes] using hr
      rw [hrr]
      simp [Scan.scanFrom, hchar, Scan.nul, Scan.isBlank, Token.collect]

theorem Spells.tokenize (h : Spells t said rest) (hs : Silent rest) :
    ∃ tokens, Token.tokenize (t ++ rest) = .ok tokens ∧ tokens.map Token.said = said := by
  obtain ⟨tokens, column, hsaid, hscan⟩ := h 1
  refine ⟨tokens, ?_, hsaid⟩
  simp [Token.tokenize, Token.scan, hscan, collect_tokens, hs.collect]

-- ---------------------------------------------------------------------------
-- Tokens that were read
-- ---------------------------------------------------------------------------

/-- What a token that was read from a text can be. -/
def Token.Read (t : Token) : Prop :=
  match t.kind with
  | .word => t.lexeme.IsWord
  | .integer n => 0 ≤ n.toInt
  | .number x => x.Plain
  | .string content => ∃ cs, content = .ofChars cs
  | _ => True

/-- A rune as it is read from a text. -/
structure Rune.Decoded (r : Rune) : Prop where
  whole : r.char ≠ Rune.replacement → r.Whole
  split : r.Split

theorem Text.decoded_of_mem_runes {t : Text} {r : Rune} (h : r ∈ t.runes) : r.Decoded :=
  ⟨whole_of_mem_runes h, split_of_mem_runes h⟩

theorem Rune.Decoded.word {r : Rune} (h : r.Decoded) (hp : Scan.isWordPart r.char = true) :
    r.Whole := by
  refine h.whole ?_
  intro hchar
  rw [hchar] at hp
  exact absurd hp (by decide +kernel)

theorem isWordPart_of_start {c : Char} (h : Scan.isWordStart c = true) :
    Scan.isWordPart c = true := by
  simp only [Scan.isWordStart, Scan.isWordPart, Bool.or_eq_true] at h ⊢
  rcases h with h | h <;> simp [h]

theorem Rune.Decoded.digit {r : Rune} (h : r.Decoded) (hd : Scan.isDigit r.char = true) :
    ∃ b, Reading.isDecimal b = true ∧ r.bytes = [b] := by
  obtain ⟨hlow, hhigh⟩ := (isDigit_iff _).mp hd
  rcases h.split with ⟨b, hb, rfl⟩ | ⟨hchar, -⟩
  · refine ⟨b, ?_, rfl⟩
    have hchar : (Char.ofNat b.toNat).toNat = b.toNat :=
      Rune.toNat_ofNat_of_valid (.inl (by omega))
    simp only [hchar] at hlow hhigh
    simp [Reading.isDecimal, UInt8.le_iff_toNat_le, hlow, hhigh]
  · omega

theorem read_word {column extra : Nat} {r : Rune} {rest : List Rune} {t : Token}
    (hr : ∀ x ∈ r :: rest, x.Decoded) (hstart : Scan.isWordStart r.char = true)
    (h : Scan.word column r rest = ⟨.token t, extra⟩) : t.Read := by
  simp only [Scan.word, Scan.Step.mk.injEq, Scanned.token.injEq] at h
  obtain ⟨rfl, -⟩ := h
  have hparts : ∀ x ∈ rest.takeWhile fun r => Scan.isWordPart r.char,
      Scan.isWordPart x.char = true := by
    intro x hx
    exact List.all_eq_true.mp List.all_takeWhile x hx
  refine ⟨r, _, rfl, hstart, hparts, ?_⟩
  rintro x hx
  rcases List.mem_cons.mp hx with rfl | hx
  · exact (hr x (by simp)).word (isWordPart_of_start hstart)
  · exact (hr x (List.mem_cons_of_mem _ ((List.takeWhile_sublist _).subset hx))).word (hparts x hx)

theorem numberExtent_ne_zero {r : Rune} (hd : Scan.isDigit r.char = true) (rest : List Rune) :
    (Scan.numberExtent (r :: rest)).1 ≠ 0 := by
  unfold Scan.numberExtent
  simp only [List.takeWhile_cons, hd, if_true, List.length_cons]
  split
  · split <;> simp
  · simp

theorem read_number {column extra : Nat} {r : Rune} {rest : List Rune} {t : Token}
    (hr : r.Decoded) (hd : Scan.isDigit r.char = true)
    (h : Scan.number column (r :: rest) = ⟨.token t, extra⟩) : t.Read := by
  obtain ⟨n, hn⟩ := Nat.exists_eq_add_one_of_ne_zero (numberExtent_ne_zero hd rest)
  obtain ⟨b, hb, hbytes⟩ := hr.digit hd
  have hlexeme : (Text.ofRunes ((r :: rest).take (n + 1))).bytes =
      b :: (rest.take n).flatMap Rune.bytes := by
    simp [Text.ofRunes, hbytes]
  simp only [Scan.number, hn, Scan.Step.mk.injEq] at h
  obtain ⟨h, -⟩ := h
  split at h
  · split at h
    · rename_i x hx
      cases h
      rw [hlexeme] at hx
      exact plain_number hb hx
    · cases h
  · split at h
    · rename_i k hk
      cases h
      rw [Text.toInt64?, hlexeme] at hk
      exact nonneg_int64? hb hk
    · cases h

theorem read_token {column extra : Nat} {r : Rune} {rest : List Rune} {t : Token}
    (hr : ∀ x ∈ r :: rest, x.Decoded) (h : Scan.token column r rest = ⟨.token t, extra⟩) :
    t.Read := by
  unfold Scan.token at h
  split at h
  · rename_i kind hkind
    cases h
    unfold TokenKind.ofChar? at hkind
    split at hkind <;> cases hkind <;> trivial
  · split at h
    · unfold Scan.string at h
      split at h
      · rename_i cs _ _
        cases h
        exact ⟨cs, rfl⟩
      · cases h
    · split at h
      · exact read_number (hr r (by simp)) ‹_› h
      · split at h
        · exact read_word hr ‹_› h
        · cases h

theorem read_scanFrom {rs : List Rune} (hrs : ∀ x ∈ rs, x.Decoded) (column skip : Nat) (t : Token)
    (h : .token t ∈ Scan.scanFrom column skip rs) : t.Read := by
  induction rs generalizing column skip with
  | nil => simp [Scan.scanFrom] at h
  | cons r rest ih =>
    have ih := ih (List.forall_mem_cons.mp hrs).2
    cases skip with
    | succ skip => exact ih _ _ h
    | zero =>
      unfold Scan.scanFrom at h
      split at h
      · simp at h
      · split at h
        · exact ih _ _ h
        · split at h
          · simp at h
          · rcases List.mem_cons.mp h with h | h
            · have htoken : Scan.token column r rest =
                  ⟨.token t, (Scan.token column r rest).extra⟩ := by
                rw [h]
              exact read_token hrs htoken
            · exact ih _ _ h

theorem mem_of_mem_collect {ss : List Scanned} {t : Token} (h : t ∈ (Token.collect ss).1) :
    .token t ∈ ss := by
  induction ss with
  | nil => simp [Token.collect] at h
  | cons s ss ih =>
    cases s with
    | token t' =>
      rcases List.mem_cons.mp h with rfl | h
      · simp
      · exact List.mem_cons_of_mem _ (ih h)
    | illegal => simp [Token.collect] at h
    | finish => simp [Token.collect] at h

theorem read_of_tokenize {source : Text} {tokens : List Token}
    (h : Token.tokenize source = .ok tokens) : ∀ t ∈ tokens, t.Read := by
  intro t ht
  unfold Token.tokenize at h
  split at h
  · rename_i ts hcollect
    cases h
    have hmem : t ∈ (Token.collect (Token.scan source)).1 := by rwa [hcollect]
    exact read_scanFrom (fun x hx => source.decoded_of_mem_runes hx) 1 0 t (mem_of_mem_collect hmem)
  · cases h

end
end Birl
