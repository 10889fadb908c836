import Birl.Proofs.Source.Formatting

/-!
# Formatting twice

A formatted source is a fixed point (`format_idempotent`). What is written for an item is split at
the same comment and read back as that item (`item_written`), so the second reading of a source
gives the items of the first without the ones for which nothing is written (`settle`), and the same
lines are written for those.
-/

namespace Birl

-- ---------------------------------------------------------------------------
-- White space around a text
-- ---------------------------------------------------------------------------

theorem trim_trim (t : Text) : t.trim.trim = t.trim := by
  let blank := fun r : Rune => Character.isBlank r.char
  have hback : (Text.ofRunes (t.runes.dropWhile blank)).runes = t.runes.dropWhile blank :=
    Text.runes_back List.takeWhile_append_dropWhile.symm
  have hprefix := List.rdropWhile_prefix blank (t.runes.dropWhile blank)
  obtain ⟨dropped, hdropped⟩ := hprefix
  have hrunes : t.trim.runes = (t.runes.dropWhile blank).rdropWhile blank :=
    Text.runes_front (hback.trans hdropped.symm)
  calc t.trim.trim = .ofRunes ((t.trim.runes.dropWhile blank).rdropWhile blank) := rfl
    _ = .ofRunes ((t.runes.dropWhile blank).rdropWhile blank) := by
      rw [hrunes, dropWhile_of_prefix ⟨dropped, hdropped⟩, List.rdropWhile_idempotent]
    _ = t.trim := rfl

-- ---------------------------------------------------------------------------
-- Where a comment starts
-- ---------------------------------------------------------------------------

namespace Format

/-- No comment starts in the text, and it leaves no string open. -/
def Closed (t : Text) : Prop :=
  ∀ rest, splitComment false (t.bytes ++ rest) =
    (t.bytes ++ (splitComment false rest).1, (splitComment false rest).2)

theorem Closed.append {s t : Text} (hs : Closed s) (ht : Closed t) : Closed (s ++ t) := by
  intro rest
  rw [Text.bytes_append, List.append_assoc, hs, ht, List.append_assoc]

theorem closed_ofRunes {rs : List Rune} (hw : ∀ r ∈ rs, r.Whole)
    (h : ∀ more, splitRunes false (rs ++ more) =
      (rs ++ (splitRunes false more).1, (splitRunes false more).2)) : Closed (.ofRunes rs) := by
  intro rest
  have hwhole := splitComment_text (.ofRunes rs ++ ⟨rest⟩)
  rw [Text.runes_ofRunes_append hw, h, List.flatMap_append] at hwhole
  exact hwhole.trans (by rw [splitComment_text ⟨rest⟩]; rfl)

theorem closed_string (t : Text) : Closed (Render.string t) := by
  obtain ⟨rest, hrest⟩ : ∃ rest, rest =
      (t.chars.flatMap Render.stringChar).map Rune.ofChar ++ [Rune.ofChar '"'] := ⟨_, rfl⟩
  have hrunes : Render.string t = .ofRunes (Rune.ofChar '"' :: rest) := by
    rw [hrest, Render.string, Text.ofChars_eq_ofRunes, List.cons_append, List.map_cons,
      List.map_append]
    rfl
  rw [hrunes]
  refine closed_ofRunes ?_ fun more => ?_
  · rw [hrest, ← List.map_singleton, ← List.map_append, ← List.map_cons]
    exact Text.whole_map_ofChar _
  · have hbody := stringBody_stringChar t.chars more
    rw [List.append_cons, ← hrest] at hbody
    obtain ⟨taken, after, heq, hlength, hsplit, -⟩ := splitRunes_string hbody
    obtain ⟨rfl, rfl⟩ := List.append_inj heq (by simp [hrest, hlength])
    rw [List.cons_append, splitRunes.eq_def]
    simp [hsplit, Rune.ofChar]

theorem closed_of_canonical {t : Text} (h : t.Canonical) : Closed t := by
  induction h with
  | @plain rs h =>
    refine closed_ofRunes (fun r hr => (h r hr).1) (splitRunes_quiet fun r hr => ?_)
    have hmark := (h r hr).2
    constructor
    all_goals
      intro hchar
      exact hmark (by simp [hchar, Character.marks])
  | string t => exact closed_string t
  | append _ _ hs ht => exact hs.append ht

theorem codeAndComment_closed {t comment : Text} (ht : Closed t) (hc : comment.IsComment)
    (htrim : comment.trim = comment) : codeAndComment (t ++ comment) = (t, comment) := by
  obtain ⟨rest, hrest⟩ := hc.start
  have hsplit : splitComment false (35 :: rest) = ([], some (35 :: rest)) := by
    rw [splitComment.eq_def]
    rfl
  rw [codeAndComment, Text.bytes_append, ht, hrest, hsplit, List.append_nil]
  refine congrArg (Prod.mk t) (Eq.trans ?_ htrim)
  rw [← hrest]

theorem codeAndComment_alone {t : Text} (ht : Closed t) : codeAndComment t = (t, .empty) := by
  have hsplit := ht []
  rw [List.append_nil] at hsplit
  rw [codeAndComment, hsplit]
  exact congrArg (fun bs => (Text.mk bs, Text.empty)) (List.append_nil _)

-- ---------------------------------------------------------------------------
-- Items read back
-- ---------------------------------------------------------------------------

def Item.Trimmed : Item → Prop
  | comment text => text.trim = text
  | command _ text => text.trim = text
  | _ => True

theorem trim_comment (line : Text) :
    (codeAndComment line).2.trim = (codeAndComment line).2 := by
  unfold codeAndComment
  rcases splitComment false line.bytes with ⟨code, _ | bytes⟩
  · rfl
  · exact trim_trim ⟨bytes⟩

theorem item_trimmed {line : Text} {i : Item} (hi : item line = .ok i) : i.Trimmed := by
  have htrim := trim_comment line
  unfold item at hi
  generalize codeAndComment line = parts at htrim hi
  obtain ⟨code, comment⟩ := parts
  dsimp only at htrim hi
  split at hi
  · cases hi
    split
    · trivial
    · exact htrim
  · split at hi
    · cases hi
      exact htrim
    · cases hi
      trivial
    · cases hi

theorem items_trimmed {ls : List Text} {n : ℤ} {is : List Item} (h : items n ls = .ok is) :
    ∀ i ∈ is, i.Trimmed := by
  intro i hi
  obtain ⟨l, -, hitem⟩ := mem_of_forall₂ (items_iff.mp h) i hi
  exact item_trimmed hitem

theorem blank_indentation (depth : ℕ) :
    (Text.replicate depth indentation).trim.isEmpty = true := by
  refine trim_of_blank ?_
  induction depth with
  | zero => exact List.forall_mem_nil _
  | succ depth ih =>
    have hrunes : (Text.replicate (depth + 1) indentation).runes =
        [' ', ' ', ' ', ' '].map Rune.ofChar ++ (Text.replicate depth indentation).runes := by
      rw [← Text.runes_ofChars_append, Text.replicate, List.replicate_succ, Text.concat_cons]
      rfl
    rw [hrunes]
    intro r hr
    rcases List.mem_append.mp hr with hr | hr
    · obtain ⟨c, hc, rfl⟩ := List.mem_map.mp hr
      have hspace : c = ' ' := by simpa using hc
      rw [hspace]
      rfl
    · exact ih r hr

theorem item_comment {text : Text} (h : text.IsComment) (htrim : text.trim = text) (depth : ℕ) :
    item (written depth text) = .ok (.comment text) := by
  have hindent := closed_of_canonical (canonical_indentation depth)
  rw [item, written, codeAndComment_closed hindent h htrim]
  dsimp only
  rw [if_pos (blank_indentation depth), if_neg (ne_true_of_eq_false h.isEmpty)]

/-- A line that says a command has that command and its comment as its item. -/
theorem item_of_says {line code comment : Text} {c : Command}
    (hsplit : codeAndComment line = (code, comment)) (h : Written line (some c)) :
    item line = .ok (.command c comment) := by
  obtain ⟨parsed, hparsed, hcommand⟩ := h.ofLine
  obtain ⟨parsed, rfl, rfl⟩ := Option.map_eq_some_iff.mp hcommand
  rw [← ofLine_code, hsplit] at hparsed
  have hcode : ¬code.trim.isEmpty = true := by
    intro hblank
    simp only [ParsedCommand.ofLine, bind_ok] at hparsed
    obtain ⟨tokens, htokens, hparsed⟩ := hparsed
    rw [(tokenize_blank hblank htokens).1] at hparsed
    cases hparsed
  rw [item, hsplit]
  dsimp only
  rw [if_neg hcode, hparsed]

theorem item_command {c : Command} {comment : Text} (h : c.Readable)
    (hc : comment = .empty ∨ comment.IsComment) (htrim : comment.trim = comment) (depth : ℕ) :
    item (written depth (if comment.isEmpty then c.render else c.render ++ " " ++ comment)) =
      .ok (.command c comment) := by
  have hline := written_command h hc depth
  have hindent := closed_of_canonical (canonical_indentation depth)
  have hrender := closed_of_canonical (canonical_render h)
  have hblank := closed_of_canonical canonical_blank
  rcases hc with rfl | hc
  · exact item_of_says (codeAndComment_alone (hindent.append hrender)) hline
  · rw [if_neg (ne_true_of_eq_false hc.isEmpty)] at hline ⊢
    have hsplit := codeAndComment_closed (hindent.append (hrender.append hblank)) hc htrim
    rw [Text.append_assoc] at hsplit
    exact item_of_says hsplit hline

-- ---------------------------------------------------------------------------
-- Items for which a line is written
-- ---------------------------------------------------------------------------

/-- The items for which a line is written, after a blank line or not. -/
def settle : (afterBlank : Bool) → List Item → List Item
  | _, [] => []
  | afterBlank, .blank :: rest =>
    if afterBlank then settle true rest else .blank :: settle true rest
  | afterBlank, .nothing :: rest => settle afterBlank rest
  | _, .comment text :: rest => .comment text :: settle false rest
  | _, .command c comment :: rest => .command c comment :: settle false rest

theorem lines_settle (layout : Layout) (is : List Item) :
    lines layout (settle layout.afterBlank is) = lines layout is := by
  induction is generalizing layout with
  | nil => rfl
  | cons i is ih =>
    cases i with
    | blank =>
      obtain ⟨depth, afterBlank⟩ := layout
      cases afterBlank with
      | true => exact ih ⟨depth, true⟩
      | false => exact congrArg (Text.empty :: ·) (ih ⟨depth, true⟩)
    | comment text => exact congrArg (_ :: ·) (ih { layout with afterBlank := false })
    | command c comment => exact congrArg (_ :: ·) (ih _)
    | nothing => exact ih layout

/-- The lines that are written for items are read back as the items. -/
theorem item_lines {is : List Item} (hfits : ∀ i ∈ is, i.Fits) (htrim : ∀ i ∈ is, i.Trimmed)
    (layout : Layout) :
    List.Forall₂ (fun l i => item l = .ok i) (lines layout is) (settle layout.afterBlank is) := by
  induction is generalizing layout with
  | nil => exact .nil
  | cons i is ih =>
    obtain ⟨hi, hfits⟩ := List.forall_mem_cons.mp hfits
    obtain ⟨hcomment, htrim⟩ := List.forall_mem_cons.mp htrim
    have ih := ih hfits htrim
    cases i with
    | blank =>
      obtain ⟨depth, afterBlank⟩ := layout
      cases afterBlank with
      | true => exact ih ⟨depth, true⟩
      | false => exact .cons rfl (ih ⟨depth, true⟩)
    | comment text => exact .cons (item_comment hi hcomment _) (ih _)
    | command c comment => exact .cons (item_command hi.1 hi.2 hcomment _) (ih _)
    | nothing => exact ih layout

theorem lines_blanks (layout : Layout) (is : List Item) (n : ℕ) :
    ∃ k, lines layout (is ++ List.replicate n Item.blank) =
      lines layout is ++ List.replicate k Text.empty := by
  induction is generalizing layout with
  | nil =>
    induction n generalizing layout with
    | zero => exact ⟨0, rfl⟩
    | succ n ih =>
      obtain ⟨depth, afterBlank⟩ := layout
      obtain ⟨k, hk⟩ := ih ⟨depth, true⟩
      cases afterBlank with
      | true => exact ⟨k, hk⟩
      | false => exact ⟨k + 1, congrArg (Text.empty :: ·) hk⟩
  | cons i is ih =>
    have hcons (l : Text) (layout : Layout) :
        ∃ k, l :: lines layout (is ++ List.replicate n .blank) =
          l :: lines layout is ++ List.replicate k .empty := by
      obtain ⟨k, hk⟩ := ih layout
      exact ⟨k, congrArg (l :: ·) hk⟩
    cases i with
    | blank =>
      obtain ⟨depth, afterBlank⟩ := layout
      cases afterBlank with
      | true => exact ih ⟨depth, true⟩
      | false => exact hcons .empty ⟨depth, true⟩
    | comment text => exact hcons _ _
    | command c comment => exact hcons _ _
    | nothing => exact ih layout

theorem assemble_empties (ls : List Text) (k : ℕ) :
    assemble (ls ++ List.replicate k .empty) = assemble ls := by
  induction k with
  | zero => rw [List.replicate_zero, List.append_nil]
  | succ k ih => rw [List.replicate_succ', ← List.append_assoc, assemble_empty, ih]

theorem assemble_blanks (is : List Item) (n : ℕ) :
    assemble (lines {} (is ++ List.replicate n .blank)) = assemble (lines {} is) := by
  obtain ⟨k, hk⟩ := lines_blanks {} is n
  rw [hk, assemble_empties]

theorem items_empties {kept : List Text} {k : ℕ} {is : List Item}
    (h : List.Forall₂ (fun l i => item l = .ok i) (kept ++ List.replicate k Text.empty) is) :
    ∃ js : List Item, is = js ++ List.replicate k Item.blank ∧
      ∀ n, List.Forall₂ (fun l i => item l = .ok i) (kept ++ List.replicate n Text.empty)
        (js ++ List.replicate n Item.blank) := by
  induction kept generalizing is with
  | nil =>
    have hblanks (n : ℕ) : List.Forall₂ (fun l i => item l = .ok i) (List.replicate n .empty)
        (List.replicate n .blank) := by
      induction n with
      | zero => exact .nil
      | succ n ih => exact .cons rfl ih
    rw [List.nil_append] at h
    have hread := (items_iff (n := 1)).mpr (hblanks k)
    rw [items_iff.mpr h] at hread
    exact ⟨[], Except.ok.inj hread, hblanks⟩
  | cons l kept ih =>
    cases h with
    | cons hl h =>
      obtain ⟨js, rfl, hjs⟩ := ih h
      exact ⟨_ :: js, rfl, fun n => .cons hl (hjs n)⟩

end Format

/-- A formatted source is formatted to itself. -/
theorem format_idempotent {source t : Text} (h : format source = .ok t) : format t = .ok t := by
  unfold format at h
  cases hitems : Format.items 1 source.lines with
  | error e =>
    rw [hitems] at h
    cases h
  | ok is =>
    rw [hitems] at h
    cases h
    have hfits := Format.items_fit (fun l hl => feed_of_mem_lines hl) hitems
    have hread := Format.item_lines hfits (Format.items_trimmed hitems) {}
    have hsettle := Format.lines_settle {} is
    obtain ⟨kept, k, n, hkept, hlines⟩ := lines_assemble fun l hl => by
      obtain ⟨command?, hl⟩ := (Format.lines_says hfits {}).1 l hl
      exact hl.isLine
    rw [hkept] at hread
    obtain ⟨js, hjs, hread⟩ := Format.items_empties hread
    -- As many blank lines as there are at the end, they are left out again.
    have hsame : Format.assemble (Format.lines {} (js ++ List.replicate n .blank)) =
        Format.assemble (Format.lines {} is) := by
      rw [← hsettle, hjs, Format.assemble_blanks, Format.assemble_blanks]
    rw [format, hlines, Format.items_iff.mpr (hread n)]
    exact congrArg Except.ok hsame

/-- With ends of blocks that close nothing, carriage returns, white space of all kinds, marks inside
of a text and a line of which nothing is read. -/
theorem format_idempotent_mixed :
    let source : Text :=
      "FIM\r\n\n \u00a0\n #  a\u00a0\nVEM X=\"#\\\"\"#\u2003c\r\r\n\u0000x\nÉ MAIOR #\nBIRL\n\n"
    let t : Text := "FIM\n\n#  a\nVEM: X, \"#\\\"\" #\u2003c\nÉ MAIOR #\n    BIRL\n"
    format source = .ok t ∧ format t = .ok t := by
  intro source t
  have h : format source = .ok t := by decide +kernel
  exact ⟨h, format_idempotent h⟩

end Birl
