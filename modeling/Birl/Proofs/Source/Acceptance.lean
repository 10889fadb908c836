import Birl.Proofs.Source.Formatting

/-!
# Which lines formatting accepts

Formatting and a session read lines alike, but for one kind of line: what stands in front of the
comment may be white space that is none of the four blanks that reading skips. Formatting takes it
for a blank line, and a session rejects it (`Text.Overlooked`). All other lines formatting accepts
exactly where they can be read, and it fails with the syntax error of the first one that cannot
(`format_accepts`).
-/

namespace Birl

open Format (codeAndComment ofLine_code)

/-- The line can be read: it says a command, or nothing. -/
def Text.Passes (line : Text) : Prop := ∃ parsed, ParsedCommand.ofLine line = .ok parsed

/-- The code of the line is nothing but white space, and not all of it is skipped when it is
read. -/
def Text.Overlooked (line : Text) : Prop :=
  (∀ r ∈ (codeAndComment line).1.runes, Character.isBlank r.char = true) ∧
    ∃ r ∈ (codeAndComment line).1.runes, Scan.isBlank r.char = false

-- ---------------------------------------------------------------------------
-- White space
-- ---------------------------------------------------------------------------

theorem reads_blank {rs : List Rune} (h : ∀ r ∈ rs, Scan.isBlank r.char = true) (column : ℕ) :
    Format.Reads column rs [] := by
  induction rs generalizing column with
  | nil => exact .nothing column
  | cons r rs ih =>
    obtain ⟨hr, hrs⟩ := List.forall_mem_cons.mp h
    exact .skip hr (ih hrs _)

theorem Text.overlooked_iff (line : Text) :
    line.Overlooked ↔ (codeAndComment line).1.trim.isEmpty = true ∧ ¬line.Passes := by
  rw [Text.Passes, ← ofLine_code]
  unfold Text.Overlooked
  generalize (codeAndComment line).1 = code
  constructor
  · rintro ⟨hall, r, hr, hskip⟩
    refine ⟨trim_of_blank hall, ?_⟩
    rintro ⟨parsed, hparsed⟩
    simp only [ParsedCommand.ofLine, bind_ok] at hparsed
    obtain ⟨tokens, htokens, -⟩ := hparsed
    have hblank := (tokenize_blank (trim_of_blank hall) htokens).2 r hr
    rw [hskip] at hblank
    cases hblank
  · rintro ⟨htrim, hfails⟩
    refine ⟨blank_of_trim htrim, ?_⟩
    by_contra hnone
    have hall : ∀ r ∈ code.runes, Scan.isBlank r.char = true := by
      intro r hr
      by_contra hskip
      exact hnone ⟨r, hr, by simpa using hskip⟩
    refine hfails ⟨none, ?_⟩
    simp only [ParsedCommand.ofLine, bind_ok]
    exact ⟨[], Format.tokenize_iff.mpr (reads_blank hall 1), rfl⟩

-- ---------------------------------------------------------------------------
-- Lines one by one
-- ---------------------------------------------------------------------------

namespace Format

theorem item_ok_iff (line : Text) : (∃ i, item line = .ok i) ↔ line.Passes ∨ line.Overlooked := by
  rw [Text.overlooked_iff]
  have hcode := ofLine_code line
  unfold item
  generalize codeAndComment line = parts at hcode ⊢
  obtain ⟨code, comment⟩ := parts
  dsimp only at hcode ⊢
  rw [hcode, Text.Passes]
  by_cases htrim : code.trim.isEmpty = true
  · rw [if_pos htrim]
    simpa [htrim] using em (∃ parsed, ParsedCommand.ofLine line = .ok parsed)
  · rw [if_neg htrim]
    rcases ParsedCommand.ofLine line with complaint | _ | parsed <;> simp [htrim]

theorem item_error_iff (line : Text) (complaint : Complaint) :
    item line = .error complaint ↔
      ¬line.Overlooked ∧ ParsedCommand.ofLine line = .error complaint := by
  rw [Text.overlooked_iff]
  have hcode := ofLine_code line
  unfold item
  generalize codeAndComment line = parts at hcode ⊢
  obtain ⟨code, comment⟩ := parts
  dsimp only at hcode ⊢
  rw [hcode, Text.Passes]
  by_cases htrim : code.trim.isEmpty = true
  · rw [if_pos htrim]
    rcases ParsedCommand.ofLine line with complaint | parsed <;> simp [htrim]
  · rw [if_neg htrim]
    rcases ParsedCommand.ofLine line with complaint | _ | parsed <;> simp [htrim]

theorem items_ok_iff {ls : List Text} {n : ℤ} :
    (∃ is, items n ls = .ok is) ↔ ∀ line ∈ ls, line.Passes ∨ line.Overlooked := by
  induction ls generalizing n with
  | nil => simp [items]
  | cons l ls ih =>
    rw [List.forall_mem_cons, ← item_ok_iff, ← ih (n := n + 1), items]
    rcases item l with complaint | i
    · simp
    · rcases items (n + 1) ls with e | is <;> simp [Except.map]

/-- The error is that of the first line that is rejected. -/
theorem items_error_iff {ls : List Text} {n : ℤ} {e : SyntaxError} :
    items n ls = .error e ↔
      ∃ before line after, ls = before ++ line :: after ∧
        (∀ l ∈ before, l.Passes ∨ l.Overlooked) ∧ ¬line.Overlooked ∧
        Command.ofLine (n + before.length) line = .error e := by
  have hofLine {line : Text} {number : ℤ} : Command.ofLine number line = .error e ↔
      ∃ complaint, ParsedCommand.ofLine line = .error complaint ∧
        SyntaxError.ofComplaint number complaint = e := by
    unfold Command.ofLine
    rcases ParsedCommand.ofLine line with complaint | parsed <;> simp
  induction ls generalizing n with
  | nil => simp [items]
  | cons l ls ih =>
    rw [items]
    cases hl : item l with
    | error complaint =>
      obtain ⟨hseen, hfails⟩ := (item_error_iff l complaint).mp hl
      have hnot : ¬(l.Passes ∨ l.Overlooked) := by
        rw [← item_ok_iff, hl]
        simp
      constructor
      · intro he
        cases he
        have hline : Command.ofLine (n + List.length ([] : List Text)) l =
            .error (.ofComplaint n complaint) := hofLine.mpr ⟨complaint, hfails, by simp⟩
        exact ⟨[], l, ls, rfl, List.forall_mem_nil _, hseen, hline⟩
      · rintro ⟨before, line, after, heq, hbefore, -, hline⟩
        cases before with
        | nil =>
          obtain ⟨rfl, rfl⟩ := List.cons.inj heq
          obtain ⟨complaint', hfails', he⟩ := hofLine.mp hline
          rw [hfails] at hfails'
          cases hfails'
          rw [← he]
          simp
        | cons first before =>
          obtain ⟨rfl, -⟩ := List.cons.inj heq
          exact absurd (hbefore _ List.mem_cons_self) hnot
    | ok i =>
      have hpasses : l.Passes ∨ l.Overlooked := (item_ok_iff l).mp ⟨i, hl⟩
      have hmap : (items (n + 1) ls).map (i :: ·) = .error e ↔ items (n + 1) ls = .error e := by
        rcases items (n + 1) ls with e' | is <;> simp [Except.map]
      refine (hmap.trans ih).trans ?_
      constructor
      · rintro ⟨before, line, after, rfl, hbefore, hseen, hline⟩
        refine ⟨l :: before, line, after, rfl, ?_, hseen, ?_⟩
        · exact List.forall_mem_cons.mpr ⟨hpasses, hbefore⟩
        rw [← hline]
        congr 1
        push_cast [List.length_cons]
        ring
      · rintro ⟨before, line, after, heq, hbefore, hseen, hline⟩
        cases before with
        | nil =>
          obtain ⟨rfl, rfl⟩ := List.cons.inj heq
          obtain ⟨complaint, hfails, -⟩ := hofLine.mp hline
          rw [(item_error_iff l complaint).mpr ⟨hseen, hfails⟩] at hl
          cases hl
        | cons first before =>
          obtain ⟨rfl, rfl⟩ := List.cons.inj heq
          refine ⟨before, line, after, rfl, (List.forall_mem_cons.mp hbefore).2, hseen, ?_⟩
          rw [← hline]
          congr 1
          push_cast [List.length_cons]
          ring

end Format

-- ---------------------------------------------------------------------------
-- Whole sources
-- ---------------------------------------------------------------------------

/-- Formatting accepts a source where each line can be read or is overlooked. Otherwise its error is
the syntax error of the first line that is neither, with the number of that line. -/
theorem format_accepts (source : Text) :
    ((∃ t, format source = .ok t) ↔ ∀ line ∈ source.lines, line.Passes ∨ line.Overlooked) ∧
      ∀ e, format source = .error e ↔
        ∃ before line after, source.lines = before ++ line :: after ∧
          (∀ l ∈ before, l.Passes ∨ l.Overlooked) ∧ ¬line.Overlooked ∧
          Command.ofLine (1 + before.length) line = .error e := by
  refine ⟨?_, fun e => ?_⟩
  · rw [← Format.items_ok_iff (n := 1), format]
    rcases Format.items 1 source.lines with e | is <;> simp [Except.map]
  · rw [← Format.items_error_iff, format]
    rcases Format.items 1 source.lines with e' | is <;> simp [Except.map]

/-- A line with a no-break space alone is formatted as a blank line, and it cannot be read. -/
theorem noBreakSpace_overlooked :
    let source : Text := ⟨[0xC2, 0xA0]⟩
    format source = .ok "\n" ∧ source.lines = [source] ∧ source.Overlooked ∧
      Command.ofLine 1 source = .error ⟨1, 1, .unexpectedCharacter '\u00A0'⟩ := by
  intro source
  refine ⟨by decide +kernel, by decide +kernel, ⟨?_, ⟨'\u00A0', [0xC2, 0xA0]⟩, ?_, ?_⟩, ?_⟩
  all_goals decide +kernel

end Birl
