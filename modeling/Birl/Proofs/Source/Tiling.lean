import Birl.Proofs.Source.Comment

/-!
# Tokens and the line they were read from

The tokens of a line lie in it from left to right (`Tiles`): each one is the bytes between two
places, its column counts the runes in front of the first, and its value is what these bytes write
(`Token.Denotes`). Only blanks lie between two tokens, and behind the last one only blanks up to the
end, a comment or a NUL. Reading goes by runes, and the places are counted in bytes;
`Text.slice_runes` leads from one to the other.
-/

namespace Birl

-- ---------------------------------------------------------------------------
-- What the bytes of a token write
-- ---------------------------------------------------------------------------

/-- What the characters between the quotes of a string stand for. -/
inductive Unescapes : List Char → List Char → Prop
  | nothing : Unescapes [] []
  | plain {c : Char} {written content : List Char} (hc : c ≠ '"' ∧ c ≠ '\\' ∧ c ≠ Scan.nul)
      (h : Unescapes written content) : Unescapes (c :: written) (c :: content)
  | escape {letter c : Char} {written content : List Char} (hc : Scan.escape? letter = some c)
      (h : Unescapes written content) : Unescapes ('\\' :: letter :: written) (c :: content)

/-- The value of a token is the one that its bytes write: an integer is written by decimal digits
and fits, and a string is written between quotes, a byte that belongs to no character being read
as U+FFFD. -/
def Token.Denotes (t : Token) : Prop :=
  match t.kind with
  | .integer n => ∃ digits, Digits digits ∧ t.lexeme = .ofChars digits ∧
      n.toInt = Nat.ofDigitChars 10 digits 0 ∧ Nat.ofDigitChars 10 digits 0 < integerEnd
  | .number x => Reading.number t.lexeme.bytes = .ok x
  | .string content => ∃ written chars, t.lexeme = "\"" ++ written ++ "\"" ∧
      Unescapes written.chars chars ∧ content = .ofChars chars
  | _ => True

/-- The part of a text from one place to another, both counted in bytes. -/
def Text.slice (t : Text) (start stop : ℕ) : Text := ⟨(t.bytes.take stop).drop start⟩

/-- Spaces, tabs and line ends. -/
def Text.Blank (t : Text) : Prop :=
  ∀ b ∈ t.bytes, b ∈ [' '.toUInt8, '\t'.toUInt8, '\r'.toUInt8, '\n'.toUInt8]

/-- The token was read from the bytes between the two places. -/
structure Token.Occupies (source : Text) (start stop : ℕ) (t : Token) : Prop where
  nonempty : start < stop
  within : stop ≤ source.length
  lexeme : t.lexeme = source.slice start stop
  column : t.column = 1 + (source.slice 0 start).runeCount
  denotes : t.Denotes

/-- The tokens lie in the text behind a place, from left to right and with nothing but blanks in
front of each; behind the last one the text is blank up to its end, a comment or a NUL. -/
inductive Tiles (source : Text) : (place : ℕ) → List Token → Prop
  | finish {place stop : ℕ} (hplace : place ≤ stop) (hblank : (source.slice place stop).Blank)
      (hstop : stop = source.length ∨
        ∃ b ∈ source.bytes[stop]?, b = '#'.toUInt8 ∨ b = Scan.nul.toUInt8) :
      Tiles source place []
  | token {place start stop : ℕ} {t : Token} {tokens : List Token} (hplace : place ≤ start)
      (hblank : (source.slice place start).Blank) (ht : t.Occupies source start stop)
      (hrest : Tiles source stop tokens) : Tiles source place (t :: tokens)

-- ---------------------------------------------------------------------------
-- Places between runes
-- ---------------------------------------------------------------------------

section
variable {source : Text} {front middle back : List Rune}

theorem Text.bytes_of_runes (h : source.runes = front) : source.bytes = front.flatMap Rune.bytes :=
  congrArg Text.bytes (source.ofRunes_runes.symm.trans (congrArg Text.ofRunes h))

theorem Text.length_ofRunes_append (front back : List Rune) :
    (Text.ofRunes (front ++ back)).length =
      (Text.ofRunes front).length + (Text.ofRunes back).length := by
  simp [Text.length, Text.ofRunes]

/-- What lies between two runes is made up of the runes between them. -/
theorem Text.slice_runes (h : source.runes = front ++ (middle ++ back)) :
    source.slice (Text.ofRunes front).length (Text.ofRunes (front ++ middle)).length =
      .ofRunes middle := by
  have hbytes := Text.bytes_of_runes h
  rw [← List.append_assoc, List.flatMap_append] at hbytes
  simp only [Text.slice, Text.length, Text.ofRunes]
  rw [hbytes, List.take_left, List.flatMap_append, List.drop_left]

theorem Text.slice_front (h : source.runes = front ++ back) :
    source.slice 0 (Text.ofRunes front).length = .ofRunes front :=
  @Text.slice_runes source [] front back h

theorem Text.byte_of_runes {r : Rune} {b : UInt8} (h : source.runes = front ++ r :: back)
    (hr : r.bytes = [b]) : source.bytes[(Text.ofRunes front).length]? = some b := by
  rw [Text.bytes_of_runes h]
  simp [Text.length, Text.ofRunes, hr]

theorem Text.length_of_runes (h : source.runes = front ++ back) :
    source.length = (Text.ofRunes front).length + (Text.ofRunes back).length := by
  rw [← Text.length_ofRunes_append, ← h, source.ofRunes_runes]

end

theorem Rune.Decoded.bytes_low {r : Rune} {c : Char} (h : r.Decoded) (hc : c.toNat < 128)
    (hr : r.char = c) : r.bytes = [c.toUInt8] := by
  obtain ⟨b, hbytes, hchar⟩ := Format.low_of_split h.split hc hr
  have hb := hchar c hc
  rw [hr, beq_self_eq_true] at hb
  rw [hbytes, beq_iff_eq.mp hb.symm]

theorem Rune.Decoded.nonempty {r : Rune} (h : r.Decoded) : 0 < r.bytes.length := by
  obtain ⟨b, bs, hbytes, -⟩ := Format.bytes_of_split h.split
  simp [hbytes]

theorem blank_ofRunes {gap : List Rune} (hdecoded : ∀ r ∈ gap, r.Decoded)
    (hgap : ∀ r ∈ gap, Scan.isBlank r.char = true) : (Text.ofRunes gap).Blank := by
  intro b hb
  obtain ⟨r, hr, hb⟩ := List.mem_flatMap.mp hb
  have hchar := hgap r hr
  simp only [Scan.isBlank, Bool.or_eq_true, beq_iff_eq] at hchar
  rcases hchar with ((hchar | hchar) | hchar) | hchar
  all_goals
    rw [(hdecoded r hr).bytes_low (by decide) hchar] at hb
    simp [List.mem_singleton.mp hb]

-- ---------------------------------------------------------------------------
-- One token
-- ---------------------------------------------------------------------------

/-- What is read as a string is its closing quote and, in front of it, what its content is written
as. -/
theorem unescapes_stringBody {rs : List Rune} {cs : List Char} {n : ℕ}
    (h : Scan.stringBody rs = .ok (cs, n)) :
    ∃ written quote after, rs = written ++ quote :: after ∧ n = written.length + 1 ∧
      quote.char = '"' ∧ Unescapes (written.map Rune.char) cs := by
  fun_induction Scan.stringBody rs generalizing cs n with
  | case3 r rest hnul hquote =>
    cases h
    exact ⟨[], r, rest, rfl, rfl, beq_iff_eq.mp hquote, .nothing⟩
  | case5 r hnul hquote hslash e rest c he cs n hbody ih =>
    cases h
    obtain ⟨written, quote, after, rfl, rfl, hclose, hwritten⟩ := ih hbody
    refine ⟨r :: e :: written, quote, after, rfl, rfl, hclose, ?_⟩
    rw [List.map_cons, List.map_cons, beq_iff_eq.mp hslash]
    exact .escape he hwritten
  | case9 r rest hnul hquote hslash cs n hbody ih =>
    cases h
    obtain ⟨written, quote, after, rfl, rfl, hclose, hwritten⟩ := ih hbody
    refine ⟨r :: written, quote, after, rfl, rfl, hclose, .plain ?_ hwritten⟩
    simpa using And.intro hquote (And.intro hslash hnul)
  | _ => cases h

section
variable {source : Text} {front taken after : List Rune} {column : ℕ} {r : Rune} {t : Token}

theorem denotes_string (h : source.runes = front ++ r :: (taken ++ after)) (hr : r.char = '"')
    (ht : Scan.string column r (taken ++ after) = ⟨.token t, taken.length⟩) :
    t.lexeme = .ofRunes (r :: taken) ∧ t.column = column ∧ t.Denotes := by
  unfold Scan.string at ht
  split at ht
  · rename_i cs n hbody
    simp only [Scan.Step.mk.injEq, Scanned.token.injEq] at ht
    obtain ⟨rfl, rfl⟩ := ht
    obtain ⟨written, quote, after', hparts, hlength, hquote, hunescapes⟩ :=
      unescapes_stringBody hbody
    have htaken : taken = written ++ [quote] := by
      have hsame := congrArg (List.take taken.length) hparts
      rwa [List.take_left, List.append_cons, List.take_left' (by simp [hlength])] at hsame
    subst htaken
    have hdecoded (x : Rune) (hx : x = r ∨ x = quote) : x.Decoded :=
      source.decoded_of_mem_runes (by simp only [h]; aesop)
    have hsource : source.runes = (front ++ [r]) ++ (written ++ quote :: after) := by simpa using h
    have hinner := Text.runes_middle hsource
    rw [List.take_left]
    refine ⟨rfl, rfl, .ofRunes written, cs, ?_, ?_, rfl⟩
    · have hopen := (hdecoded r (.inl rfl)).bytes_low (by decide) hr
      have hclose := (hdecoded quote (.inr rfl)).bytes_low (by decide) hquote
      refine congrArg Text.mk ?_
      simp only [List.flatMap_cons, List.flatMap_append, List.flatMap_nil, hopen, hclose]
      rfl
    · rwa [Text.chars, hinner]
  · cases ht

theorem denotes_number (hr : r.Decoded) (hdigit : Scan.isDigit r.char = true)
    (ht : Scan.number column (r :: (taken ++ after)) = ⟨.token t, taken.length⟩) :
    t.lexeme = .ofRunes (r :: taken) ∧ t.column = column ∧ t.Denotes := by
  have hextent : (Scan.numberExtent (r :: (taken ++ after))).1 = taken.length + 1 := by
    have hne := numberExtent_ne_zero hdigit (taken ++ after)
    have hextra := congrArg Scan.Step.extra ht
    simp only [Scan.number] at hextra
    omega
  obtain ⟨b, hb, hbytes⟩ := hr.digit hdigit
  have hlexeme : Text.ofRunes ((r :: (taken ++ after)).take (taken.length + 1)) =
      ⟨b :: taken.flatMap Rune.bytes⟩ := by
    rw [List.take_succ_cons, List.take_left]
    simp [Text.ofRunes, hbytes]
  have hwhole : Text.ofRunes (r :: taken) = ⟨b :: taken.flatMap Rune.bytes⟩ := by
    simp [Text.ofRunes, hbytes]
  simp only [Scan.number, hextent, hlexeme, Scan.Step.mk.injEq] at ht
  obtain ⟨ht, -⟩ := ht
  rw [hwhole]
  split at ht
  · split at ht
    · rename_i x hx
      cases ht
      exact ⟨rfl, rfl, hx⟩
    · cases ht
  · split at ht
    · rename_i n hn
      cases ht
      exact ⟨rfl, rfl, digits_of_int64? hb hn⟩
    · cases ht

theorem denotes_word (ht : Scan.word column r (taken ++ after) = ⟨.token t, taken.length⟩) :
    t.lexeme = .ofRunes (r :: taken) ∧ t.column = column ∧ t.Denotes := by
  simp only [Scan.word, Scan.Step.mk.injEq, Scanned.token.injEq] at ht
  obtain ⟨rfl, hlength⟩ := ht
  have htaken := List.prefix_iff_eq_take.mp
    (List.takeWhile_prefix (l := taken ++ after) fun x : Rune => Scan.isWordPart x.char)
  rw [hlength, List.take_left] at htaken
  rw [htaken]
  exact ⟨rfl, rfl, trivial⟩

theorem denotes_sign {c : Char} {kind : TokenKind} (h : TokenKind.ofChar? c = some kind)
    (column : ℕ) : c.toNat < 128 ∧ String.utf8EncodeChar c = [c.toUInt8] ∧
      Token.Denotes ⟨kind, .ofChar c, column⟩ := by
  unfold TokenKind.ofChar? at h
  split at h
  all_goals
    cases h
    try exact ⟨by decide, by decide, trivial⟩

/-- A token is the bytes that it was read from, and has the value that they write. -/
theorem denotes_token (h : source.runes = front ++ r :: (taken ++ after))
    (ht : Scan.token column r (taken ++ after) = ⟨.token t, taken.length⟩) :
    t.lexeme = .ofRunes (r :: taken) ∧ t.column = column ∧ t.Denotes := by
  have hr : r.Decoded := source.decoded_of_mem_runes (by simp [h])
  unfold Scan.token at ht
  split at ht
  · rename_i kind hkind
    simp only [Scan.Step.mk.injEq, Scanned.token.injEq] at ht
    obtain ⟨rfl, hlength⟩ := ht
    obtain ⟨hlow, hencoded, hdenotes⟩ := denotes_sign hkind column
    refine ⟨?_, rfl, hdenotes⟩
    rw [List.length_eq_zero_iff.mp hlength.symm]
    simp [Text.ofChar, Text.ofRunes, hencoded, hr.bytes_low hlow rfl]
  · split at ht
    · rename_i hquote
      exact denotes_string h (beq_iff_eq.mp hquote) ht
    · split at ht
      · rename_i hdigit
        exact denotes_number hr hdigit ht
      · split at ht
        · exact denotes_word ht
        · cases ht

end

-- ---------------------------------------------------------------------------
-- The whole line
-- ---------------------------------------------------------------------------

section
variable {source : Text} {before gap rs : List Rune}

theorem blank_gap (h : source.runes = before ++ (gap ++ rs))
    (hgap : ∀ r ∈ gap, Scan.isBlank r.char = true) :
    (source.slice (Text.ofRunes before).length (Text.ofRunes (before ++ gap)).length).Blank := by
  rw [Text.slice_runes h]
  refine blank_ofRunes (fun r hr => source.decoded_of_mem_runes ?_) hgap
  simp [h, hr]

/-- What is read of a line whose runes `before` are done with and of which `gap` has been
skipped. -/
theorem tiles_of_reads {column : ℕ} {tokens : List Token} (h : Format.Reads column rs tokens)
    (hsource : source.runes = before ++ (gap ++ rs)) (hcolumn : column = 1 + (before ++ gap).length)
    (hgap : ∀ r ∈ gap, Scan.isBlank r.char = true) :
    Tiles source (Text.ofRunes before).length tokens := by
  have hplace (before gap : List Rune) :
      (Text.ofRunes before).length ≤ (Text.ofRunes (before ++ gap)).length := by
    rw [Text.length_ofRunes_append]
    exact Nat.le_add_right _ _
  induction h generalizing before gap with
  | nothing column =>
    refine .finish (hplace before gap) (blank_gap hsource hgap) (.inl ?_)
    rw [List.append_nil] at hsource
    rw [← hsource, source.ofRunes_runes]
  | @stop r hr column rest =>
    refine .finish (hplace before gap) (blank_gap hsource hgap) (.inr ?_)
    rw [← List.append_assoc] at hsource
    have hdecoded : r.Decoded := source.decoded_of_mem_runes (by simp [hsource])
    rcases hr with hr | hr
    · exact ⟨_, Text.byte_of_runes hsource (hdecoded.bytes_low (by decide) hr), .inr rfl⟩
    · exact ⟨_, Text.byte_of_runes hsource (hdecoded.bytes_low (by decide) hr), .inl rfl⟩
  | @skip column r rest tokens hr _ ih =>
    have hskipped : source.runes = before ++ ((gap ++ [r]) ++ rest) := by simpa using hsource
    refine ih hskipped (by simp [hcolumn]; omega) ?_
    simpa [or_imp, forall_and] using And.intro hgap hr
  | @token column r taken after t tokens hr ht _ ih =>
    have hstart : source.runes = (before ++ gap) ++ (r :: taken ++ after) := by simpa using hsource
    have hstop : source.runes = (before ++ gap ++ r :: taken) ++ after := by simpa using hsource
    obtain ⟨hlexeme, htcolumn, hdenotes⟩ := denotes_token hstart ht
    have hdecoded : r.Decoded := source.decoded_of_mem_runes (by simp [hstart])
    have hoccupies : t.Occupies source (Text.ofRunes (before ++ gap)).length
        (Text.ofRunes (before ++ gap ++ r :: taken)).length := by
      refine ⟨?_, ?_, ?_, ?_, hdenotes⟩
      · rw [Text.length_ofRunes_append _ (r :: taken)]
        have hbytes := hdecoded.nonempty
        simp [Text.length, Text.ofRunes]
        omega
      · rw [Text.length_of_runes hstop]
        exact Nat.le_add_right _ _
      · rw [Text.slice_runes hstart, hlexeme]
      · rw [Text.slice_front hstart, Text.runeCount, Text.runes_front hstart, htcolumn, hcolumn]
    refine .token (hplace before gap) (blank_gap hsource hgap) hoccupies ?_
    refine @ih (before ++ gap ++ r :: taken) [] hstop ?_ (List.forall_mem_nil _)
    simp [hcolumn]
    omega

end

/-- However many problems there are, reading comes to the end of the line, and at most one token or
problem is read from each rune in front of it. -/
theorem scanFrom_finish (column skip : ℕ) (rs : List Rune) :
    ∃ reads stop, Scan.scanFrom column skip rs = reads ++ [.finish stop] ∧
      (∀ s ∈ reads, ∀ column, s ≠ .finish column) ∧ reads.length ≤ rs.length := by
  induction rs generalizing column skip with
  | nil => exact ⟨[], column, rfl, by simp⟩
  | cons r rest ih =>
    have hskip (column skip : ℕ) : ∃ reads stop,
        Scan.scanFrom column skip rest = reads ++ [.finish stop] ∧
        (∀ s ∈ reads, ∀ column, s ≠ .finish column) ∧ reads.length ≤ (r :: rest).length := by
      obtain ⟨reads, stop, hreads, hnone, hlength⟩ := ih column skip
      exact ⟨reads, stop, hreads, hnone, Nat.le_succ_of_le hlength⟩
    cases skip with
    | succ skip => exact hskip (column + 1) skip
    | zero =>
      rw [Scan.scanFrom]
      split
      · exact ⟨[], column, rfl, by simp⟩
      · split
        · exact hskip (column + 1) 0
        · split
          · exact ⟨[], _, rfl, by simp⟩
          · obtain ⟨reads, stop, hreads, hnone, hlength⟩ :=
              ih (column + 1) (Scan.token column r rest).extra
            refine ⟨(Scan.token column r rest).result :: reads, stop, ?_, ?_, ?_⟩
            · exact congrArg _ hreads
            · refine List.forall_mem_cons.mpr ⟨fun column' hresult => ?_, hnone⟩
              refine Format.token_ne_finish column r rest column' (Scan.token column r rest).extra ?_
              rw [← hresult]
            · exact Nat.succ_le_succ hlength

/-- Every line is read to its end after finitely many tokens and problems, and where there is no
problem its tokens lie in it side by side, with only blanks between them. -/
theorem tokens_tile_line (source : Text) :
    (∃ reads stop, Token.scan source = reads ++ [.finish stop] ∧
      (∀ s ∈ reads, ∀ column, s ≠ .finish column) ∧ reads.length ≤ source.runeCount) ∧
    ∀ tokens, Token.tokenize source = .ok tokens → Tiles source 0 tokens := by
  refine ⟨scanFrom_finish 1 0 source.runes, fun tokens h => ?_⟩
  exact @tiles_of_reads source [] [] source.runes 1 tokens (Format.tokenize_iff.mp h) rfl rfl
    (List.forall_mem_nil _)

/-- A tab, a string with an escape and a byte of no character, a blank, an integer and a comment. -/
def mixedLine : Text :=
  ⟨[9, 34, 92, 110, 255, 34, 32, 52, 50, 35, 120]⟩

theorem tokens_tile_line_mixed :
    Token.tokenize mixedLine = .ok
        [⟨.string (.ofChars ['\n', '\uFFFD']), ⟨[34, 92, 110, 255, 34]⟩, 2⟩,
          ⟨.integer 42, ⟨[52, 50]⟩, 8⟩] ∧
      Tiles mixedLine 0
        [⟨.string (.ofChars ['\n', '\uFFFD']), ⟨[34, 92, 110, 255, 34]⟩, 2⟩,
          ⟨.integer 42, ⟨[52, 50]⟩, 8⟩] :=
  have h : Token.tokenize mixedLine = .ok
      [⟨.string (.ofChars ['\n', '\uFFFD']), ⟨[34, 92, 110, 255, 34]⟩, 2⟩,
        ⟨.integer 42, ⟨[52, 50]⟩, 8⟩] := by decide +kernel
  ⟨h, (tokens_tile_line mixedLine).2 _ h⟩

end Birl
