import Birl.Proofs.Source.Token
import Birl.Source.Format
import Mathlib.Data.List.TakeWhile

/-!
# Comments

Formatting splits a line at its comment byte by byte, and reading finds the comment rune
by rune. They agree: the code in front of the comment is read as the line is, up to the
same problem if there is one (`tokenize_code`). Bytes and runes are split alike
(`splitComment_runes`), what a token takes of a line is code and does not depend on
what follows it (`cut_token`), and so is what is wrong with a line (`illegal_code`).
-/

namespace Birl
namespace Format

/-- Splits runes at the `#` that starts a comment, as `splitComment` does with bytes. -/
def splitRunes : (inString : Bool) → List Rune → List Rune × List Rune
  | _, [] => ([], [])
  | inString, r :: rest =>
    if r.char == '\\' && inString then
      match rest with
      | [] => ([r], [])
      | hidden :: rest =>
        let (code, comment) := splitRunes inString rest
        (r :: hidden :: code, comment)
    else if r.char == '#' && !inString then ([], r :: rest)
    else
      let (code, comment) := splitRunes (if r.char == '"' then !inString else inString) rest
      (r :: code, comment)

theorem splitRunes_parts (inString : Bool) (rs : List Rune) :
    (splitRunes inString rs).1 ++ (splitRunes inString rs).2 = rs ∧
      ∀ r ∈ (splitRunes inString rs).2.head?, r.char = '#' := by
  fun_induction splitRunes inString rs with
  | case1 => simp
  | case2 => simp
  | case3 inString r hslash hidden rest code comment hsplit ih =>
    rw [hsplit] at ih
    simpa using ih
  | case4 inString r rest _ hhash =>
    simp only [Bool.and_eq_true, beq_iff_eq] at hhash
    simp [hhash.1]
  | case5 inString r rest _ _ code comment hsplit ih =>
    rw [hsplit] at ih
    simpa using ih

-- ---------------------------------------------------------------------------
-- Bytes and runes
-- ---------------------------------------------------------------------------

theorem splitComment_upper {bs : List UInt8} (h : ∀ b ∈ bs, 128 ≤ b.toNat) (inString : Bool)
    (rest : List UInt8) :
    splitComment inString (bs ++ rest) =
      (bs ++ (splitComment inString rest).1, (splitComment inString rest).2) := by
  induction bs with
  | nil => rfl
  | cons b bs ih =>
    obtain ⟨hb, hbs⟩ := List.forall_mem_cons.mp h
    have hne {c : UInt8} (hc : c.toNat < 128) : (b == c) = false := by
      rw [beq_eq_false_iff_ne]
      rintro rfl
      omega
    rw [List.cons_append, splitComment.eq_def]
    simp only [hne (c := '\\'.toUInt8) (by decide), hne (c := '#'.toUInt8) (by decide),
      hne (c := '"'.toUInt8) (by decide), Bool.false_and, Bool.false_eq_true, if_false, ih hbs]
    rfl

theorem beq_ofNat {b : UInt8} (hb : b.toNat < 128) {c : Char} (hc : c.toNat < 128) :
    (Char.ofNat b.toNat == c) = (b == c.toUInt8) := by
  have hchar : (Char.ofNat b.toNat).toNat = b.toNat := Rune.toNat_ofNat_of_valid (.inl (by omega))
  have hbyte := toNat_toUInt8 hc
  rw [Bool.eq_iff_iff, beq_iff_eq, beq_iff_eq]
  constructor
  · rintro rfl
    rw [← UInt8.toNat_inj, hbyte, hchar]
  · rintro rfl
    rw [hbyte, Char.ofNat_toNat]

theorem low_of_split {r : Rune} {c : Char} (h : r.Split) (hc : c.toNat < 128) (heq : r.char = c) :
    ∃ b : UInt8, r.bytes = [b] ∧ ∀ c : Char, c.toNat < 128 → (r.char == c) = (b == c.toUInt8) := by
  rcases h with ⟨b, hb, rfl⟩ | ⟨hchar, -⟩
  · exact ⟨b, rfl, fun c => beq_ofNat hb⟩
  · rw [heq] at hchar
    omega

theorem bytes_of_split {r : Rune} (h : r.Split) :
    ∃ b bs, r.bytes = b :: bs ∧ ∀ x ∈ bs, 128 ≤ x.toNat := by
  rcases h with ⟨b, hb, rfl⟩ | ⟨-, hne, hall⟩
  · exact ⟨b, [], rfl, List.forall_mem_nil _⟩
  · obtain ⟨b, bs, hbytes⟩ := List.exists_cons_of_ne_nil hne
    rw [hbytes] at hall
    exact ⟨b, bs, hbytes, (List.forall_mem_cons.mp hall).2⟩

/-- Splitting by bytes and by runes is the same. -/
theorem splitComment_runes {rs : List Rune} (h : ∀ r ∈ rs, r.Split) (inString : Bool) :
    splitComment inString (rs.flatMap Rune.bytes) =
      ((splitRunes inString rs).1.flatMap Rune.bytes,
        if (splitRunes inString rs).2.isEmpty then none
        else some ((splitRunes inString rs).2.flatMap Rune.bytes)) := by
  have hslash : '\\'.toNat < 128 := by decide
  have hhash : '#'.toNat < 128 := by decide
  have hquote : '"'.toNat < 128 := by decide
  fun_induction splitRunes inString rs with
  | case1 => rfl
  | case2 inString r hc =>
    have hr : r.char = '\\' := beq_iff_eq.mp (Bool.and_eq_true_iff.mp hc).1
    obtain ⟨b, hbytes, hchar⟩ := low_of_split (h r (by simp)) hslash hr
    rw [hchar _ hslash] at hc
    simp [splitComment, hbytes, hc]
  | case3 inString r hc hidden rest code comment hsplit ih =>
    have hr : r.char = '\\' := beq_iff_eq.mp (Bool.and_eq_true_iff.mp hc).1
    obtain ⟨b, hbytes, hchar⟩ := low_of_split (h r (by simp)) hslash hr
    obtain ⟨b', bs, hbytes', hupper⟩ := bytes_of_split (h hidden (by simp))
    have ih := ih fun x hx => h x (by simp [hx])
    rw [hchar _ hslash] at hc
    rw [hsplit] at ih
    simp only [List.flatMap_cons, hbytes, hbytes', List.cons_append, List.nil_append]
    rw [splitComment, if_pos hc, splitComment_upper hupper, ih]
  | case4 inString r rest hc hcomment =>
    have hr : r.char = '#' := beq_iff_eq.mp (Bool.and_eq_true_iff.mp hcomment).1
    obtain ⟨b, hbytes, hchar⟩ := low_of_split (h r (by simp)) hhash hr
    rw [hchar _ hslash] at hc
    rw [hchar _ hhash] at hcomment
    simp only [List.flatMap_cons, hbytes, List.cons_append, List.nil_append]
    rw [splitComment.eq_def]
    simp [hc, hcomment]
  | case5 inString r rest hc hcomment code comment hsplit ih =>
    have ih := ih fun x hx => h x (by simp [hx])
    rw [hsplit] at ih
    rw [List.flatMap_cons, List.flatMap_cons]
    by_cases hlow : r.char.toNat < 128
    · obtain ⟨b, hbytes, hchar⟩ := low_of_split (h r (by simp)) hlow rfl
      rw [hchar _ hslash] at hc
      rw [hchar _ hhash] at hcomment
      rw [hchar _ hquote] at ih
      rw [hbytes, List.cons_append, List.nil_append, splitComment.eq_def]
      simp only [if_neg hc, if_neg hcomment, ih]
      rfl
    · have hupper : ∀ b ∈ r.bytes, 128 ≤ b.toNat := by
        rcases h r (by simp) with ⟨b, hb, rfl⟩ | ⟨-, -, hall⟩
        · rw [Rune.toNat_ofNat_of_valid (.inl (by omega))] at hlow
          exact absurd hb hlow
        · exact hall
      have hplain : (r.char == '"') = false := by
        rw [beq_eq_false_iff_ne]
        intro heq
        rw [heq] at hlow
        exact hlow hquote
      rw [hplain, if_neg Bool.false_ne_true] at ih
      rw [splitComment_upper hupper, ih]

theorem splitComment_text (t : Text) :
    splitComment false t.bytes =
      ((splitRunes false t.runes).1.flatMap Rune.bytes,
        if (splitRunes false t.runes).2.isEmpty then none
        else some ((splitRunes false t.runes).2.flatMap Rune.bytes)) := by
  have hbytes : t.bytes = t.runes.flatMap Rune.bytes :=
    congrArg Text.bytes t.ofRunes_runes.symm
  rw [hbytes, splitComment_runes fun r hr => t.split_of_mem_runes hr]

-- ---------------------------------------------------------------------------
-- Tokens and what is split
-- ---------------------------------------------------------------------------

theorem splitRunes_quiet {a : List Rune} (h : ∀ r ∈ a, r.char ≠ '"' ∧ r.char ≠ '#')
    (rest : List Rune) :
    splitRunes false (a ++ rest) =
      (a ++ (splitRunes false rest).1, (splitRunes false rest).2) := by
  induction a with
  | nil => rfl
  | cons r a ih =>
    obtain ⟨⟨hquote, hhash⟩, ha⟩ := List.forall_mem_cons.mp h
    rw [List.cons_append, splitRunes.eq_def]
    simp [hquote, hhash, ih ha]

/-- A string ends where its closing quote is found, and nothing that follows it matters. -/
theorem splitRunes_string {rs : List Rune} {cs : List Char} {n : ℕ}
    (h : Scan.stringBody rs = .ok (cs, n)) :
    ∃ taken rest, rs = taken ++ rest ∧ taken.length = n ∧
      splitRunes true rs = (taken ++ (splitRunes false rest).1, (splitRunes false rest).2) ∧
      ∀ more, Scan.stringBody (taken ++ more) = .ok (cs, n) := by
  fun_induction Scan.stringBody rs generalizing cs n with
  | case3 r rest hnul hquote =>
    cases h
    have hquote : r.char = '"' := beq_iff_eq.mp hquote
    refine ⟨[r], rest, rfl, rfl, ?_, fun more => stringBody_quote hquote more⟩
    rw [splitRunes.eq_def]
    simp [hquote]
  | case5 r hnul hquote hslash e rest c he cs n hbody ih =>
    cases h
    have hslash : r.char = '\\' := beq_iff_eq.mp hslash
    obtain ⟨taken, after, rfl, rfl, hsplit, hmore⟩ := ih hbody
    refine ⟨r :: e :: taken, after, rfl, rfl, ?_, fun more => ?_⟩
    · rw [splitRunes.eq_def]
      simp [hslash, hsplit]
    · exact stringBody_escape hslash he (hmore more)
  | case9 r rest hnul hquote hslash cs n hbody ih =>
    cases h
    have hnul : r.char ≠ Scan.nul := by simpa using hnul
    have hquote : r.char ≠ '"' := by simpa using hquote
    have hslash : r.char ≠ '\\' := by simpa using hslash
    obtain ⟨taken, after, rfl, rfl, hsplit, hmore⟩ := ih hbody
    refine ⟨r :: taken, after, rfl, rfl, ?_, fun more => ?_⟩
    · rw [splitRunes.eq_def]
      simp [hquote, hslash, hsplit]
    · exact stringBody_plain hnul hquote hslash (hmore more)
  | _ => cases h

theorem exists_span (p : Rune → Bool) (rs : List Rune) :
    ∃ front back, rs = front ++ back ∧ (∀ r ∈ front, p r = true) ∧ ∀ r ∈ back.head?, p r = false := by
  refine ⟨rs.takeWhile p, rs.dropWhile p, List.takeWhile_append_dropWhile.symm, ?_, ?_⟩
  · exact fun r hr => List.all_eq_true.mp List.all_takeWhile r hr
  · intro r hr
    have hnot := List.head?_dropWhile_not p rs
    rw [Option.mem_def.mp hr] at hnot
    exact hnot

theorem head_of_isPrefix {more rest : List Rune} (h : more <+: rest) :
    ∀ r ∈ more.head?, r ∈ rest.head? := by
  obtain ⟨back, rfl⟩ := h
  cases more with
  | nil => exact nofun
  | cons r more => exact fun _ hr => hr

/-- The runes of a number are digits and a point, and it is the same number wherever the text is
cut off after it. -/
theorem numberExtent_taken (rs : List Rune) :
    ∃ taken rest, rs = taken ++ rest ∧ taken.length = (Scan.numberExtent rs).1 ∧
      (∀ r ∈ taken, Scan.isDigit r.char = true ∨ r.char = '.') ∧
      ∀ more, more <+: rest → Scan.numberExtent (taken ++ more) = Scan.numberExtent rs := by
  obtain ⟨ds, back, rfl, hd, hb⟩ := exists_span (fun r => Scan.isDigit r.char) rs
  cases back with
  | nil =>
    rw [List.append_nil, numberExtent_end hd]
    refine ⟨ds, [], (List.append_nil ds).symm, rfl, fun r hr => .inl (hd r hr), ?_⟩
    intro more hmore
    rw [List.prefix_nil.mp hmore, List.append_nil, numberExtent_end hd]
  | cons point back =>
    have hp : Scan.isDigit point.char = false := hb point rfl
    obtain ⟨fs, back, rfl, hf, hb'⟩ := exists_span (fun r => Scan.isDigit r.char) back
    have htake {more : List Rune} (hmore : more <+: back) :
        (fs ++ more).takeWhile (fun r => Scan.isDigit r.char) = fs :=
      takeWhile_stops hf fun r hr => hb' r (head_of_isPrefix hmore r hr)
    rw [numberExtent_point hd hp, htake List.prefix_rfl]
    by_cases hfraction : (point.char == '.' && fs.length != 0) = true
    · have hpoint : point.char = '.' := by
        simp only [Bool.and_eq_true, beq_iff_eq] at hfraction
        exact hfraction.1
      simp only [if_pos hfraction]
      refine ⟨ds ++ point :: fs, back, by simp, by simp; omega, ?_, ?_⟩
      · intro r hr
        simp only [List.mem_append, List.mem_cons] at hr
        rcases hr with hr | rfl | hr
        · exact .inl (hd r hr)
        · exact .inr hpoint
        · exact .inl (hf r hr)
      · intro more hmore
        rw [List.append_assoc, List.cons_append, numberExtent_point hd hp, htake hmore]
        exact if_pos hfraction
    · simp only [if_neg hfraction]
      refine ⟨ds, point :: (fs ++ back), rfl, rfl, fun r hr => .inl (hd r hr), ?_⟩
      intro more hmore
      cases more with
      | nil => rw [List.append_nil, numberExtent_end hd]
      | cons point' more =>
        obtain ⟨rfl, hprefix⟩ := List.cons_prefix_cons.mp hmore
        rw [numberExtent_point hd hp]
        refine if_neg ?_
        intro hdigits
        simp only [Bool.and_eq_true, bne_iff_ne, ne_eq, List.length_eq_zero_iff] at hfraction hdigits
        have hnone : fs = [] := by
          by_contra hne
          exact hfraction ⟨hdigits.1, hne⟩
        subst hnone
        exact hdigits.2 (htake hprefix)

/-- Reading on from `r` takes only code, and it does the same wherever the line is cut off after
what it takes. -/
def Cut (r : Rune) (read : List Rune → Scan.Step) (rest : List Rune) : Prop :=
  ∃ taken after, rest = taken ++ after ∧ taken.length = (read rest).extra ∧
    splitRunes false (r :: rest) =
      (r :: taken ++ (splitRunes false after).1, (splitRunes false after).2) ∧
    ∀ more, more <+: after → read (taken ++ more) = read rest

section
variable {column : ℕ} {r : Rune} {rest : List Rune}

theorem cut_sign {kind : TokenKind} (h : TokenKind.ofChar? r.char = some kind) (step : Scan.Step)
    (hstep : step.extra = 0) : Cut r (fun _ => step) rest := by
  have hquiet : ∀ x ∈ [r], x.char ≠ '"' ∧ x.char ≠ '#' := by
    simp only [List.mem_singleton, forall_eq]
    constructor
    all_goals
      intro hc
      rw [hc] at h
      cases h
  exact ⟨[], rest, rfl, hstep.symm, splitRunes_quiet hquiet rest, fun _ _ => rfl⟩

theorem cut_string {cs : List Char} {n : ℕ} (hr : r.char = '"')
    (h : Scan.stringBody rest = .ok (cs, n)) : Cut r (Scan.string column r) rest := by
  obtain ⟨taken, after, rfl, rfl, hsplit, hmore⟩ := splitRunes_string h
  have hread (more : List Rune) : Scan.string column r (taken ++ more) =
      ⟨.token ⟨.string (.ofChars cs), .ofRunes (r :: taken), column⟩, taken.length⟩ := by
    simp only [Scan.string, hmore more, List.take_left]
  refine ⟨taken, after, rfl, ?_, ?_, fun more _ => ?_⟩
  · rw [hread]
  · rw [splitRunes.eq_def]
    simp [hr, hsplit]
  · rw [hread, hread]

theorem cut_number (hr : Scan.isDigit r.char = true) :
    Cut r (fun rest => Scan.number column (r :: rest)) rest := by
  obtain ⟨front, after, hfront, hlength, hchars, hmore⟩ := numberExtent_taken (r :: rest)
  cases front with
  | nil => exact absurd hlength.symm (numberExtent_ne_zero hr rest)
  | cons r' taken =>
    rw [List.cons_append] at hfront
    obtain ⟨rfl, rfl⟩ := List.cons.inj hfront
    have htake (more : List Rune) : (r :: (taken ++ more)).take
        (Scan.numberExtent (r :: (taken ++ after))).1 = r :: taken := by
      rw [← hlength]
      exact List.take_left
    refine ⟨taken, after, rfl, ?_, splitRunes_quiet (a := r :: taken) ?_ after, ?_⟩
    · simp only [Scan.number, ← hlength, List.length_cons, Nat.add_sub_cancel]
    · intro x hx
      rcases hchars x hx with hc | hc
      · exact ⟨ne_of_test hc (by decide), ne_of_test hc (by decide)⟩
      · rw [hc]
        decide
    · intro more hm
      have hextent := hmore more hm
      rw [List.cons_append] at hextent
      simp only [Scan.number, hextent, htake]

theorem cut_word (hr : Scan.isWordStart r.char = true) : Cut r (Scan.word column r) rest := by
  obtain ⟨taken, after, rfl, hparts, hstop⟩ := exists_span (fun r => Scan.isWordPart r.char) rest
  have hword {more : List Rune} (hm : more <+: after) : Scan.word column r (taken ++ more) =
      ⟨.token ⟨.word, .ofRunes (r :: taken), column⟩, taken.length⟩ := by
    have htake := takeWhile_stops (p := fun r => Scan.isWordPart r.char) hparts
      fun x hx => hstop x (head_of_isPrefix hm x hx)
    simp only [Scan.word, htake]
  have hwhole := hword List.prefix_rfl
  refine ⟨taken, after, rfl, ?_, splitRunes_quiet (a := r :: taken) ?_ after, ?_⟩
  · rw [hwhole]
  · intro x hx
    have hpart : Scan.isWordPart x.char = true := by
      rcases List.mem_cons.mp hx with rfl | hx
      · exact isWordPart_of_start hr
      · exact hparts x hx
    exact ⟨ne_of_test hpart (by decide), ne_of_test hpart (by decide)⟩
  · intro more hm
    rw [hword hm, hwhole]

/-- Where a token is read, it is of one of the four forms. -/
theorem cut_token {t : Token} {extra : ℕ} (h : Scan.token column r rest = ⟨.token t, extra⟩) :
    Cut r (Scan.token column r) rest := by
  cases hkind : TokenKind.ofChar? r.char with
  | some kind =>
    have hread : Scan.token column r = fun _ => ⟨.token ⟨kind, .ofChar r.char, column⟩, 0⟩ := by
      funext rest
      simp only [Scan.token, hkind]
    rw [hread]
    exact cut_sign hkind _ rfl
  | none =>
    by_cases hquote : r.char = '"'
    · have hread : Scan.token column r = Scan.string column r := by
        funext rest
        simp only [Scan.token, hkind, beq_iff_eq.mpr hquote, if_true]
      rw [hread] at h ⊢
      unfold Scan.string at h
      split at h
      · rename_i hbody
        exact cut_string hquote hbody
      · cases h
    · by_cases hdigit : Scan.isDigit r.char = true
      · have hread : Scan.token column r = fun rest => Scan.number column (r :: rest) := by
          funext rest
          simp [Scan.token, hkind, hquote, hdigit]
        rw [hread]
        exact cut_number hdigit
      · by_cases hstart : Scan.isWordStart r.char = true
        · have hread : Scan.token column r = Scan.word column r := by
            funext rest
            simp [Scan.token, hkind, hquote, hdigit, hstart]
          rw [hread]
          exact cut_word hstart
        · simp [Scan.token, hkind, hquote, hdigit, hstart] at h

end

theorem token_ne_finish (column : ℕ) (r : Rune) (rest : List Rune) (column' extra : ℕ) :
    Scan.token column r rest ≠ ⟨.finish column', extra⟩ := by
  intro h
  unfold Scan.token at h
  split at h
  · cases h
  · split at h
    · unfold Scan.string at h
      split at h <;> cases h
    · split at h
      · simp only [Scan.number, Scan.Step.mk.injEq] at h
        obtain ⟨h, -⟩ := h
        repeat' split at h
        all_goals cases h
      · split at h <;> cases h

-- ---------------------------------------------------------------------------
-- The code of a line is read as the line
-- ---------------------------------------------------------------------------

/-- What is wrong in a string lies in front of its end, so no comment is split off before it. -/
theorem stringBody_code {rs : List Rune} {f : Scan.StringFailure}
    (h : Scan.stringBody rs = .error f) :
    ∃ f', Scan.stringBody (splitRunes true rs).1 = .error f' ∧ f'.problem = f.problem := by
  fun_induction Scan.stringBody rs generalizing f with
  | case1 =>
    cases h
    exact ⟨_, rfl, rfl⟩
  | case2 r rest hnul =>
    cases h
    have hchar : r.char = Scan.nul := beq_iff_eq.mp hnul
    have hcode : (splitRunes true (r :: rest)).1 = r :: (splitRunes true rest).1 := by
      rw [splitRunes.eq_def]
      simp [hchar, Scan.nul]
    refine ⟨⟨.unterminatedString, 0⟩, ?_, rfl⟩
    rw [hcode, Scan.stringBody.eq_def]
    simp [hchar]
  | case4 r hnul hquote hslash =>
    cases h
    refine ⟨⟨.unterminatedString, 1⟩, ?_, rfl⟩
    rw [splitRunes.eq_def]
    simp [hnul, hquote, hslash, Scan.stringBody]
  | case6 r hnul hquote hslash e rest c he f' hbody ih =>
    cases h
    obtain ⟨f', hcode, hproblem⟩ := ih hbody
    refine ⟨{ f' with after := f'.after + 2 }, ?_, hproblem⟩
    rw [splitRunes.eq_def]
    simp [hnul, hquote, hslash, he, Scan.stringBody, hcode]
  | case7 r hnul hquote hslash e rest he henul =>
    cases h
    refine ⟨⟨.unterminatedString, 1⟩, ?_, rfl⟩
    rw [splitRunes.eq_def]
    simp [hnul, hquote, hslash, he, henul, Scan.stringBody]
  | case8 r hnul hquote hslash e rest he henul =>
    cases h
    refine ⟨⟨.unknownEscape e.char, 1⟩, ?_, rfl⟩
    rw [splitRunes.eq_def]
    simp [hnul, hquote, hslash, he, henul, Scan.stringBody]
  | case10 r rest hnul hquote hslash f' hbody ih =>
    cases h
    obtain ⟨f', hcode, hproblem⟩ := ih hbody
    have hfront : (splitRunes true (r :: rest)).1 = r :: (splitRunes true rest).1 := by
      rw [splitRunes.eq_def]
      simp [hquote, hslash]
    refine ⟨{ f' with after := f'.after + 1 }, ?_, hproblem⟩
    rw [hfront, Scan.stringBody.eq_def]
    simp [hnul, hquote, hslash, hcode]
  | _ => cases h

theorem illegal_code {column column' extra : ℕ} {r : Rune} {rest : List Rune}
    {problem : SyntaxProblem} {lexeme : Text} (hr : r.char ≠ '#')
    (h : Scan.token column r rest = ⟨.illegal problem lexeme column', extra⟩) :
    ∃ code lexeme' extra', (splitRunes false (r :: rest)).1 = r :: code ∧
      Scan.token column r code = ⟨.illegal problem lexeme' column', extra'⟩ := by
  cases hkind : TokenKind.ofChar? r.char with
  | some kind => simp [Scan.token, hkind] at h
  | none =>
    by_cases hquote : r.char = '"'
    · have hread : Scan.token column r = Scan.string column r := by
        funext rest
        simp only [Scan.token, hkind, beq_iff_eq.mpr hquote, if_true]
      rw [hread] at h
      unfold Scan.string at h
      split at h
      · cases h
      · rename_i f hbody
        cases h
        obtain ⟨f', hcode, hproblem⟩ := stringBody_code hbody
        refine ⟨(splitRunes true rest).1, .ofRunes (r :: (splitRunes true rest).1), f'.after,
          ?_, ?_⟩
        · rw [splitRunes.eq_def]
          simp [hquote]
        · rw [hread, Scan.string, hcode, ← hproblem]
    · by_cases hdigit : Scan.isDigit r.char = true
      · have hread : Scan.token column r = fun rest => Scan.number column (r :: rest) := by
          funext rest
          simp [Scan.token, hkind, hquote, hdigit]
        have hnumber : Cut r (fun rest => Scan.number column (r :: rest)) rest := cut_number hdigit
        obtain ⟨taken, after, rfl, -, hsplit, hcut⟩ := hnumber
        refine ⟨taken ++ (splitRunes false after).1, lexeme, extra, ?_, ?_⟩
        · rw [hsplit]
          rfl
        · rw [hread] at h ⊢
          rw [← h]
          exact hcut _ ⟨_, (splitRunes_parts false after).1⟩
      · by_cases hstart : Scan.isWordStart r.char = true
        · simp [Scan.token, hkind, hquote, hdigit, hstart, Scan.word] at h
        · have hread : Scan.token column r = fun _ =>
              ⟨.illegal (.unexpectedCharacter r.char) (.ofChar r.char) column, 0⟩ := by
            funext rest
            simp [Scan.token, hkind, hquote, hdigit, hstart]
          rw [hread] at h ⊢
          refine ⟨(splitRunes false rest).1, lexeme, extra, ?_, h⟩
          rw [splitRunes.eq_def]
          simp [hr, hquote]

/-- The code in front of the comment is read as the line is, up to the first problem. -/
theorem collect_code (column : ℕ) (rs : List Rune) :
    Token.collect (Scan.scanFrom column 0 (splitRunes false rs).1) =
      Token.collect (Scan.scanFrom column 0 rs) := by
  -- A token takes more than one rune, so the induction is on their number.
  induction hn : rs.length using Nat.strongRecOn generalizing rs column with
  | _ n ih =>
    cases rs with
    | nil => rfl
    | cons r rest =>
      have ih (column : ℕ) {rs : List Rune} (hrs : rs.length ≤ rest.length) :
          Token.collect (Scan.scanFrom column 0 (splitRunes false rs).1) =
            Token.collect (Scan.scanFrom column 0 rs) :=
        ih rs.length (by rw [← hn, List.length_cons]; omega) column rs rfl
      by_cases hnul : r.char = Scan.nul
      · rw [splitRunes.eq_def]
        simp [hnul, Scan.nul, Scan.scanFrom, Token.collect]
      by_cases hhash : r.char = '#'
      · rw [splitRunes.eq_def]
        simp [hhash, Scan.nul, Scan.isBlank, Scan.scanFrom, Token.collect]
      by_cases hblank : Scan.isBlank r.char = true
      · have hquiet : ∀ x ∈ [r], x.char ≠ '"' ∧ x.char ≠ '#' := by
          simpa using And.intro (ne_of_test hblank (by decide)) hhash
        have hsplit := splitRunes_quiet hquiet rest
        rw [List.singleton_append] at hsplit
        simp [hsplit, Scan.scanFrom, hnul, hblank, ih]
      · rcases hstep : Scan.token column r rest with ⟨result, extra⟩
        cases result with
        | finish column' => exact absurd hstep (token_ne_finish _ _ _ _ _)
        | illegal problem lexeme column' =>
          obtain ⟨code, lexeme', extra', hsplit, hread⟩ := illegal_code hhash hstep
          simp [hsplit, Scan.scanFrom, hnul, hblank, hhash, hstep, hread, Token.collect]
        | token t =>
          obtain ⟨taken, after, rfl, hextra, hsplit, hcut⟩ := cut_token hstep
          rw [hstep] at hextra
          subst hextra
          have hread := (hcut _ ⟨_, (splitRunes_parts false after).1⟩).trans hstep
          have hafter : after.length ≤ (taken ++ after).length := by simp
          have hmore := ih (column + 1 + taken.length) hafter
          simp [hsplit, Scan.scanFrom, hnul, hblank, hhash, hstep, hread, scanFrom_skip,
            Token.collect, hmore]

-- ---------------------------------------------------------------------------
-- Lines that can be read
-- ---------------------------------------------------------------------------

/-- Reading the runes from a column on gives these tokens and no complaint. -/
inductive Reads : ℕ → List Rune → List Token → Prop
  | nothing (column : ℕ) : Reads column [] []
  | stop {r : Rune} (hr : r.char = Scan.nul ∨ r.char = '#') (column : ℕ) (rest : List Rune) :
      Reads column (r :: rest) []
  | skip {column : ℕ} {r : Rune} {rest : List Rune} {tokens : List Token}
      (hr : Scan.isBlank r.char = true) (hrest : Reads (column + 1) rest tokens) :
      Reads column (r :: rest) tokens
  | token {column : ℕ} {r : Rune} {taken after : List Rune} {t : Token} {tokens : List Token}
      (hr : r.char ≠ Scan.nul ∧ Scan.isBlank r.char = false ∧ r.char ≠ '#')
      (ht : Scan.token column r (taken ++ after) = ⟨.token t, taken.length⟩)
      (hafter : Reads (column + 1 + taken.length) after tokens) :
      Reads column (r :: (taken ++ after)) (t :: tokens)

theorem collect_of_reads {column : ℕ} {rs : List Rune} {tokens : List Token}
    (h : Reads column rs tokens) :
    Token.collect (Scan.scanFrom column 0 rs) = (tokens, none) := by
  induction h with
  | nothing => rfl
  | @stop r hr column rest =>
    rcases hr with hr | hr
    · simp [Scan.scanFrom, hr, Token.collect]
    · simp [Scan.scanFrom, hr, Scan.nul, Scan.isBlank, Token.collect]
  | @skip column r rest tokens hr _ ih =>
    have hnul : r.char ≠ Scan.nul := ne_of_test hr (by decide)
    simpa [Scan.scanFrom, hnul, hr] using ih
  | @token column r taken after t tokens hr ht _ ih =>
    obtain ⟨hnul, hblank, hhash⟩ := hr
    simp [Scan.scanFrom, hnul, hblank, hhash, ht, scanFrom_skip, Token.collect, ih]

theorem reads_of_collect {column : ℕ} {rs : List Rune} {tokens : List Token}
    (h : Token.collect (Scan.scanFrom column 0 rs) = (tokens, none)) : Reads column rs tokens := by
  -- A token takes more than one rune, so the induction is on their number.
  induction hn : rs.length using Nat.strongRecOn generalizing rs column tokens with
  | _ n ih =>
    cases rs with
    | nil =>
      cases h
      exact .nothing column
    | cons r rest =>
      have ih {column : ℕ} {rs : List Rune} {tokens : List Token} (hrs : rs.length ≤ rest.length)
          (h : Token.collect (Scan.scanFrom column 0 rs) = (tokens, none)) :
          Reads column rs tokens :=
        ih rs.length (by rw [← hn, List.length_cons]; omega) h rfl
      rw [Scan.scanFrom] at h
      split at h
      · rename_i hnul
        cases h
        exact .stop (.inl (beq_iff_eq.mp hnul)) column rest
      · rename_i hnul
        split at h
        · rename_i hblank
          exact .skip hblank (ih le_rfl h)
        · rename_i hblank
          split at h
          · rename_i hhash
            cases h
            exact .stop (.inr (beq_iff_eq.mp hhash)) column rest
          · rename_i hhash
            rcases hstep : Scan.token column r rest with ⟨result, extra⟩
            rw [hstep] at h
            cases result with
            | finish column' => exact absurd hstep (token_ne_finish _ _ _ _ _)
            | illegal => cases h
            | token t =>
              obtain ⟨taken, after, rfl, hextra, -⟩ := cut_token hstep
              rw [hstep] at hextra
              subst hextra
              dsimp only [Token.collect] at h
              rw [scanFrom_skip] at h
              rcases hmore : Token.collect (Scan.scanFrom (column + 1 + taken.length) 0 after) with
                ⟨more, complaint⟩
              rw [hmore] at h
              cases h
              have hplain : r.char ≠ Scan.nul ∧ Scan.isBlank r.char = false ∧ r.char ≠ '#' := by
                simpa using And.intro hnul (And.intro hblank hhash)
              exact .token hplain hstep (ih (by simp) hmore)

theorem tokenize_iff {line : Text} {tokens : List Token} :
    Token.tokenize line = .ok tokens ↔ Reads 1 line.runes tokens := by
  unfold Token.tokenize
  constructor
  · intro h
    split at h
    · rename_i ts hcollect
      cases h
      exact reads_of_collect hcollect
    · cases h
  · intro h
    rw [Token.scan, collect_of_reads h]

end Format

open Format (splitRunes)

/-- The code in front of the comment is read as the line is: as the same tokens, or up to the same
problem. -/
theorem tokenize_code (line : Text) :
    Token.tokenize ⟨(Format.splitComment false line.bytes).1⟩ = Token.tokenize line := by
  have hcode : (⟨(Format.splitComment false line.bytes).1⟩ : Text) =
      .ofRunes (splitRunes false line.runes).1 :=
    congrArg (fun parts => Text.mk parts.1) (Format.splitComment_text line)
  have hrunes := Text.runes_front (Format.splitRunes_parts false line.runes).1.symm
  rw [Token.tokenize, Token.tokenize, Token.scan, Token.scan, hcode, hrunes, Format.collect_code]

-- ---------------------------------------------------------------------------
-- White space
-- ---------------------------------------------------------------------------

/-- White space that reading does not skip is no part of a token. -/
theorem isBlank_illegal {c : Char} (h : Character.isBlank c = true) :
    Scan.isBlank c = true ∨ TokenKind.ofChar? c = none ∧ c ≠ '"' ∧ Scan.isDigit c = false ∧
      Scan.isWordStart c = false := by
  have hall : ∀ n ∈ [9, 10, 11, 12, 13, 0x20, 0x85, 0xA0, 0x1680, 0x2000, 0x2001, 0x2002, 0x2003,
      0x2004, 0x2005, 0x2006, 0x2007, 0x2008, 0x2009, 0x200A, 0x2028, 0x2029, 0x202F, 0x205F,
      0x3000],
      Scan.isBlank (Char.ofNat n) = true ∨ TokenKind.ofChar? (Char.ofNat n) = none ∧
        Char.ofNat n ≠ '"' ∧ Scan.isDigit (Char.ofNat n) = false ∧
        Scan.isWordStart (Char.ofNat n) = false := by
    decide +kernel
  have hmem := hall c.toNat
  rw [Char.ofNat_toNat] at hmem
  refine hmem ?_
  simp only [Character.isBlank, Bool.or_eq_true, Bool.and_eq_true, decide_eq_true_eq,
    beq_iff_eq] at h
  simp only [List.mem_cons, List.not_mem_nil, or_false]
  omega

theorem Format.Reads.blank {column : ℕ} {rs : List Rune} {tokens : List Token}
    (h : Format.Reads column rs tokens) (hb : ∀ r ∈ rs, Character.isBlank r.char = true) :
    tokens = [] ∧ ∀ r ∈ rs, Scan.isBlank r.char = true := by
  induction h with
  | nothing => exact ⟨rfl, List.forall_mem_nil _⟩
  | @stop r hr column rest =>
    have hblank := hb r List.mem_cons_self
    rcases hr with hr | hr <;> exact absurd hr (ne_of_test hblank (by decide))
  | @skip column r rest tokens hr _ ih =>
    obtain ⟨htokens, hrest⟩ := ih (List.forall_mem_cons.mp hb).2
    exact ⟨htokens, List.forall_mem_cons.mpr ⟨hr, hrest⟩⟩
  | @token column r taken after t tokens hr ht _ _ =>
    rcases isBlank_illegal (hb r List.mem_cons_self) with hskip | ⟨hkind, hquote, hdigit, hstart⟩
    · rw [hr.2.1] at hskip
      cases hskip
    · simp [Scan.token, hkind, hquote, hdigit, hstart] at ht

theorem blank_of_trim {t : Text} (h : t.trim.isEmpty = true) :
    ∀ r ∈ t.runes, Character.isBlank r.char = true := by
  have hbytes : ∀ r ∈ t.runes, r.bytes ≠ [] := by
    intro r hr
    obtain ⟨b, bs, hbytes, -⟩ := Format.bytes_of_split (t.split_of_mem_runes hr)
    simp [hbytes]
  have hnil : ((t.runes.dropWhile fun r => Character.isBlank r.char).reverse.dropWhile
      fun r => Character.isBlank r.char) = [] := by
    rw [← List.reverse_eq_nil_iff, List.eq_nil_iff_forall_not_mem]
    intro r hr
    have hmem : r ∈ t.runes := by
      rw [List.mem_reverse] at hr
      exact (List.dropWhile_sublist _).subset
        (List.mem_reverse.mp ((List.dropWhile_sublist _).subset hr))
    have hempty : t.trim.bytes = [] := List.isEmpty_iff.mp h
    simp only [Text.trim, Text.ofRunes, List.flatMap_eq_nil_iff] at hempty
    exact hbytes r hmem (hempty r hr)
  rw [List.dropWhile_eq_nil_iff] at hnil
  intro r hr
  rw [← List.takeWhile_append_dropWhile (p := fun r : Rune => Character.isBlank r.char)
    (l := t.runes)] at hr
  rcases List.mem_append.mp hr with hr | hr
  · exact List.all_eq_true.mp List.all_takeWhile r hr
  · exact hnil r (List.mem_reverse.mpr hr)

theorem trim_of_blank {t : Text} (h : ∀ r ∈ t.runes, Character.isBlank r.char = true) :
    t.trim.isEmpty = true := by
  have hdrop : (t.runes.dropWhile fun r => Character.isBlank r.char) = [] :=
    List.dropWhile_eq_nil_iff.mpr h
  rw [Text.trim, hdrop]
  rfl

theorem tokenize_blank {t : Text} {tokens : List Token} (hb : t.trim.isEmpty = true)
    (h : Token.tokenize t = .ok tokens) :
    tokens = [] ∧ ∀ r ∈ t.runes, Scan.isBlank r.char = true :=
  (Format.tokenize_iff.mp h).blank (blank_of_trim hb)

end Birl
