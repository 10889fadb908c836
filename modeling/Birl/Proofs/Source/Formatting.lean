import Birl.Proofs.Compiler.Numbering
import Birl.Proofs.Session.Incremental
import Birl.Proofs.Source.Comment
import Birl.Proofs.Source.Inline
import Mathlib.Data.List.DropRight

/-!
# Formatting keeps the program

A line and the item that formatting reads from it say the same command (`item_says`), the
lines written for items say their commands (`lines_says`), and a formatted source has these
lines (`lines_assemble`). A source is compiled from the commands of its lines alone, so it
compiles to the same instructions before and after formatting (`format_preserves`).
-/

namespace Birl

def commandOf? (line : Text) : Option Command :=
  match ParsedCommand.ofLine line with
  | .ok (some parsed) => some parsed.command
  | _ => none

def Text.commands (source : Text) : List Command := source.lines.filterMap commandOf?

-- ---------------------------------------------------------------------------
-- Lines by their bytes
-- ---------------------------------------------------------------------------

/-- A text that stays one line where a line feed follows it. -/
structure Text.IsLine (t : Text) : Prop where
  feed : 10 ∉ t.bytes
  last : t.bytes.getLast? ≠ some 13

section
variable {s t : Text}

theorem Text.Inline.isLine (h : t.Inline) : t.IsLine := by
  refine ⟨fun hmem => (h _ hmem).1 rfl, ?_⟩
  intro hlast
  exact (h _ (List.mem_of_getLast? hlast)).2 rfl

theorem Text.Inline.append_isLine (hs : s.Inline) (ht : t.IsLine) : (s ++ t).IsLine := by
  constructor
  · rw [Text.bytes_append, List.mem_append, not_or]
    exact ⟨hs.isLine.feed, ht.feed⟩
  · rw [Text.bytes_append, List.getLast?_append]
    have hlast := ht.last
    cases hb : t.bytes.getLast? with
    | none => exact hs.isLine.last
    | some b =>
      rw [hb] at hlast
      exact hlast

/-- A comment with the `#` in front and no white space at its end. -/
structure Text.IsComment (t : Text) : Prop extends t.IsLine where
  start : ∃ rest, t.bytes = 35 :: rest

theorem runes_hash (rest : List UInt8) :
    (⟨35 :: rest⟩ : Text).runes = ⟨'#', [35]⟩ :: (⟨rest⟩ : Text).runes := rfl

theorem Text.IsComment.isEmpty (h : t.IsComment) : t.isEmpty = false := by
  obtain ⟨rest, hrest⟩ := h.start
  simp [Text.isEmpty, hrest]

theorem Text.IsComment.silent (h : t.IsComment) : Silent t := by
  obtain ⟨rest, hrest⟩ := h.start
  obtain ⟨bs⟩ := t
  subst hrest
  exact .inr ⟨⟨'#', [35]⟩, rfl, rfl⟩

theorem Rune.Split.getLast?_bytes {r : Rune} (h : r.Split)
    (hb : Character.isBlank r.char = false) : r.bytes.getLast? ≠ some 13 ∧ r.bytes ≠ [] := by
  rcases h with ⟨b, -, rfl⟩ | ⟨-, hne, hall⟩
  · refine ⟨?_, by simp⟩
    intro hlast
    cases hlast
    exact absurd hb (by decide)
  · refine ⟨?_, hne⟩
    intro hlast
    exact absurd (hall 13 (List.mem_of_getLast? hlast)) (by decide)

theorem isComment_trim {rest : List UInt8} (h : 10 ∉ rest) :
    Text.IsComment (Text.trim ⟨35 :: rest⟩) := by
  have htrim : Text.trim ⟨35 :: rest⟩ = .ofRunes ((⟨'#', [35]⟩ :: (⟨rest⟩ : Text).runes).rdropWhile
      fun r => Character.isBlank r.char) := rfl
  have hsplit : ∀ r ∈ (⟨35 :: rest⟩ : Text).runes, r.Split :=
    fun r hr => Text.split_of_mem_runes hr
  have hbytes : 10 ∉ (⟨35 :: rest⟩ : Text).runes.flatMap Rune.bytes := by
    rw [Text.runes, Rune.flatMap_bytes_decodeSkipping, List.drop_zero]
    simpa using h
  rw [runes_hash] at hsplit hbytes
  generalize hrunes : (⟨'#', [35]⟩ :: (⟨rest⟩ : Text).runes) = rs at htrim hsplit hbytes
  have hne : rs.rdropWhile (fun r => Character.isBlank r.char) ≠ [] := by
    rw [ne_eq, List.rdropWhile_eq_nil_iff]
    intro hall
    exact absurd (hall ⟨'#', [35]⟩ (by simp [← hrunes])) (by decide)
  have hlast := List.rdropWhile_last_not _ _ hne
  have hfront := List.rdropWhile_prefix (fun r : Rune => Character.isBlank r.char) rs
  generalize rs.rdropWhile (fun r => Character.isBlank r.char) = kept at htrim hne hlast hfront
  rw [htrim]
  refine ⟨⟨?_, ?_⟩, ?_⟩
  · intro hmem
    obtain ⟨r, hr, hb⟩ := List.mem_flatMap.mp hmem
    exact hbytes (List.mem_flatMap.mpr ⟨r, hfront.subset hr, hb⟩)
  · obtain ⟨hreturn, hsome⟩ := (hsplit _ (hfront.subset (List.getLast_mem hne))).getLast?_bytes
      (by simpa using hlast)
    have hkept := List.dropLast_append_getLast hne
    rw [← hkept, Text.ofRunes, List.flatMap_append, List.flatMap_singleton]
    dsimp only
    rw [List.getLast?_append_of_ne_nil _ hsome]
    exact hreturn
  · obtain ⟨more, hmore⟩ := hfront
    cases kept with
    | nil => exact absurd rfl hne
    | cons r kept =>
      rw [← hrunes] at hmore
      obtain ⟨rfl, -⟩ := List.cons.inj hmore
      exact ⟨kept.flatMap Rune.bytes, rfl⟩

end

-- ---------------------------------------------------------------------------
-- Items
-- ---------------------------------------------------------------------------

namespace Format

def Item.command? : Item → Option Command
  | command c _ => some c
  | _ => none

/-- What is written for the item can be read. -/
def Item.Fits : Item → Prop
  | comment text => text.IsComment
  | command c text => c.Readable ∧ (text = .empty ∨ text.IsComment)
  | _ => True

theorem comment_cases {line : Text} (h : 10 ∉ line.bytes) :
    (codeAndComment line).2 = .empty ∨ (codeAndComment line).2.IsComment := by
  have hbytes : line.bytes = line.runes.flatMap Rune.bytes :=
    congrArg Text.bytes line.ofRunes_runes.symm
  have hsplit : ∀ r ∈ line.runes, r.Split := fun r hr => line.split_of_mem_runes hr
  obtain ⟨hparts, hhash⟩ := splitRunes_parts false line.runes
  unfold codeAndComment
  rw [splitComment_text]
  rw [hbytes] at h
  generalize (splitRunes false line.runes).1 = code at hparts ⊢
  generalize (splitRunes false line.runes).2 = comment at hparts hhash ⊢
  cases comment with
  | nil => exact .inl rfl
  | cons r comment =>
    have hr : r.char = '#' := hhash r rfl
    have hmem : r ∈ line.runes := by simp [← hparts]
    obtain ⟨b, hb, hchar⟩ := low_of_split (hsplit r hmem) (by decide) hr
    have hb35 : b = 35 := by
      have heq := hchar '#' (by decide)
      rw [hr] at heq
      exact beq_iff_eq.mp heq.symm
    refine .inr ?_
    have hcomment : (r :: comment).flatMap Rune.bytes = 35 :: comment.flatMap Rune.bytes := by
      rw [List.flatMap_cons, hb, hb35]
      rfl
    simp only [List.isEmpty_cons, Bool.false_eq_true, if_false, hcomment]
    refine isComment_trim ?_
    intro hmem
    apply h
    rw [← hparts, List.flatMap_append, hcomment]
    simp [hmem]

theorem item_fits {line : Text} {i : Item} (hfeed : 10 ∉ line.bytes) (hi : item line = .ok i) :
    i.Fits := by
  have hcomment := comment_cases hfeed
  unfold item at hi
  generalize codeAndComment line = parts at hcomment hi
  obtain ⟨code, comment⟩ := parts
  dsimp only at hcomment hi
  split at hi
  · cases hi
    split
    · trivial
    · rename_i hempty
      refine hcomment.resolve_left ?_
      rintro rfl
      exact hempty rfl
  · split at hi
    · rename_i parsed hparsed
      cases hi
      exact ⟨readable_ofLine hparsed, hcomment⟩
    · cases hi
      trivial
    · cases hi

theorem ofLine_code (line : Text) :
    ParsedCommand.ofLine (codeAndComment line).1 = ParsedCommand.ofLine line := by
  rw [ParsedCommand.ofLine, ParsedCommand.ofLine]
  exact congrArg (· >>= ParsedCommand.ofTokens) (tokenize_code line)

theorem item_says {line : Text} {parsed : Option ParsedCommand} {i : Item}
    (h : ParsedCommand.ofLine line = .ok parsed) (hi : item line = .ok i) :
    i.command? = parsed.map ParsedCommand.command := by
  rw [← ofLine_code] at h
  unfold item at hi
  generalize codeAndComment line = parts at h hi
  obtain ⟨code, comment⟩ := parts
  dsimp only at h hi
  split at hi
  · rename_i hblank
    simp only [ParsedCommand.ofLine, bind_ok] at h
    obtain ⟨tokens, htokens, hparsed⟩ := h
    have hnone := (tokenize_blank hblank htokens).1
    subst hnone
    cases hparsed
    cases hi
    split <;> rfl
  · rw [h] at hi
    cases parsed <;> cases hi <;> rfl

theorem items_iff {ls : List Text} {n : ℤ} {is : List Item} :
    items n ls = .ok is ↔ List.Forall₂ (fun l i => item l = .ok i) ls is := by
  induction ls generalizing n is with
  | nil => simp [items, eq_comm]
  | cons l ls ih =>
    rw [items, List.forall₂_cons_left_iff]
    cases item l with
    | error complaint => simp
    | ok i =>
      simp only [Except.ok.injEq, exists_and_left, ← ih (n := n + 1)]
      cases items (n + 1) ls <;> simp [Except.map, eq_comm]

theorem commandOf?_ok {line : Text} {parsed : Option ParsedCommand}
    (h : ParsedCommand.ofLine line = .ok parsed) :
    commandOf? line = parsed.map ParsedCommand.command := by
  rw [commandOf?, h]
  cases parsed <;> rfl

theorem items_fit {ls : List Text} {n : ℤ} {is : List Item} (hfeed : ∀ l ∈ ls, 10 ∉ l.bytes)
    (h : items n ls = .ok is) : ∀ i ∈ is, i.Fits := by
  intro i hi
  obtain ⟨l, hl, hitem⟩ := mem_of_forall₂ (items_iff.mp h) i hi
  exact item_fits (hfeed l hl) hitem

theorem items_says {ls : List Text} {n : ℤ} {is : List Item}
    (hl : ∀ l ∈ ls, ∃ parsed, ParsedCommand.ofLine l = .ok parsed) (h : items n ls = .ok is) :
    is.filterMap Item.command? = ls.filterMap commandOf? := by
  replace h := items_iff.mp h
  induction h with
  | nil => rfl
  | cons hi _ ih =>
    obtain ⟨⟨parsed, hparsed⟩, hl⟩ := List.forall_mem_cons.mp hl
    rw [List.filterMap_cons, List.filterMap_cons, commandOf?_ok hparsed, item_says hparsed hi,
      ih hl]

-- ---------------------------------------------------------------------------
-- Written lines
-- ---------------------------------------------------------------------------

/-- A line that is written for `command?`, or for no command. -/
structure Written (l : Text) (command? : Option Command) : Prop where
  isLine : l.IsLine
  ofLine : ∃ parsed, ParsedCommand.ofLine l = .ok parsed ∧ parsed.map ParsedCommand.command = command?

theorem Written.commandOf? {l : Text} {command? : Option Command} (h : Written l command?) :
    commandOf? l = command? := by
  obtain ⟨parsed, hparsed, hcommand⟩ := h.ofLine
  rw [commandOf?_ok hparsed, hcommand]

theorem spells_indentation (depth : ℕ) (rest : Text) :
    Spells (Text.replicate depth indentation) [] rest := by
  induction depth with
  | zero => exact spells_empty rest
  | succ depth ih =>
    have hone (rest : Text) : Spells indentation [] rest :=
      (spells_blank _).append ((spells_blank _).append ((spells_blank _).append (spells_blank rest)))
    rw [Text.replicate, List.replicate_succ, Text.concat_cons]
    exact (hone _).append ih

theorem canonical_indentation (depth : ℕ) : (Text.replicate depth indentation).Canonical := by
  refine canonical_concat ?_
  intro t ht
  rw [List.eq_of_mem_replicate ht]
  exact canonical_literal (by decide)

theorem written_empty : Written .empty none :=
  ⟨canonical_empty.inline.isLine, none, rfl, rfl⟩

theorem written_comment {text : Text} (h : text.IsComment) (depth : ℕ) :
    Written (written depth text) none := by
  refine ⟨(canonical_indentation depth).inline.append_isLine h.toIsLine, none, ?_, rfl⟩
  obtain ⟨tokens, htokens, hsaid⟩ := (spells_indentation depth text).tokenize h.silent
  rw [List.map_eq_nil_iff.mp hsaid] at htokens
  simp only [ParsedCommand.ofLine, bind_ok]
  exact ⟨[], htokens, rfl⟩

theorem written_command {c : Command} {comment : Text} (h : c.Readable)
    (hc : comment = .empty ∨ comment.IsComment) (depth : ℕ) :
    Written (written depth (if comment.isEmpty then c.render else c.render ++ " " ++ comment))
      (some c) := by
  have hindent := (canonical_indentation depth).inline
  have hrender := (canonical_render h).inline
  rcases hc with rfl | hc
  · refine ⟨hindent.append_isLine hrender.isLine, ?_⟩
    have hspells := (spells_indentation depth _).append (spells_command h breaks_empty)
    obtain ⟨parsed, hparsed, rfl⟩ := ofLine_said h hspells (.inl rfl)
    rw [Text.append_empty] at hparsed
    exact ⟨_, hparsed, rfl⟩
  · rw [if_neg (ne_true_of_eq_false hc.isEmpty)]
    have hspaced := hrender.append canonical_blank.inline
    refine ⟨hindent.append_isLine (hspaced.append_isLine hc.toIsLine), ?_⟩
    have hspells := (spells_indentation depth _).append
      ((spells_command h (breaks_blank _)).append (spells_blank comment))
    rw [List.nil_append, List.append_nil] at hspells
    obtain ⟨parsed, hparsed, rfl⟩ := ofLine_said h hspells hc.silent
    rw [Text.append_assoc] at hparsed
    exact ⟨_, hparsed, rfl⟩

/-- The lines written for items say the commands of the items. -/
theorem lines_says {is : List Item} (h : ∀ i ∈ is, i.Fits) (layout : Layout) :
    (∀ l ∈ lines layout is, ∃ command?, Written l command?) ∧
      (lines layout is).filterMap commandOf? = is.filterMap Item.command? := by
  induction is generalizing layout with
  | nil => exact ⟨List.forall_mem_nil _, rfl⟩
  | cons i is ih =>
    obtain ⟨hi, his⟩ := List.forall_mem_cons.mp h
    have ih := ih his
    have hcons {l : Text} {command? : Option Command} (hw : Written l command?)
        (hi : i.command? = command?) (layout : Layout) :
        (∀ x ∈ l :: lines layout is, ∃ command?, Written x command?) ∧
          (l :: lines layout is).filterMap commandOf? = (i :: is).filterMap Item.command? := by
      obtain ⟨hall, hcommands⟩ := ih layout
      refine ⟨List.forall_mem_cons.mpr ⟨⟨_, hw⟩, hall⟩, ?_⟩
      rw [List.filterMap_cons, List.filterMap_cons, hw.commandOf?, hi, hcommands]
    cases i with
    | blank =>
      rw [lines]
      split
      · exact ih layout
      · exact hcons written_empty rfl _
    | comment text => exact hcons (written_comment hi _) rfl _
    | command c comment => exact hcons (written_command hi.1 hi.2 _) rfl _
    | nothing => exact ih layout

end Format

-- ---------------------------------------------------------------------------
-- Lines put together
-- ---------------------------------------------------------------------------

theorem splitBytes_line {bs : List UInt8} (h : 10 ∉ bs) (rest : List UInt8) :
    Text.splitBytes 10 (bs ++ 10 :: rest) = bs :: Text.splitBytes 10 rest := by
  induction bs with
  | nil => rfl
  | cons b bs ih =>
    rw [List.mem_cons, not_or] at h
    rw [List.cons_append, Text.splitBytes, if_neg (Ne.symm h.1), ih h.2]

theorem mem_splitBytes {bs piece : List UInt8} (h : piece ∈ Text.splitBytes 10 bs) : 10 ∉ piece := by
  induction bs generalizing piece with
  | nil =>
    rw [Text.splitBytes, List.mem_singleton] at h
    rw [h]
    exact List.not_mem_nil
  | cons b bs ih =>
    rw [Text.splitBytes] at h
    split at h
    · rcases List.mem_cons.mp h with rfl | h
      · exact List.not_mem_nil
      · exact ih h
    · rename_i hb
      have hcons {first : List UInt8} (hfirst : 10 ∉ first) : 10 ∉ b :: first := by
        rw [List.mem_cons, not_or]
        exact ⟨Ne.symm hb, hfirst⟩
      cases hpieces : Text.splitBytes 10 bs with
      | nil =>
        rw [hpieces, List.mem_singleton] at h
        rw [h]
        exact hcons List.not_mem_nil
      | cons first pieces =>
        rw [hpieces] at h ih
        rcases List.mem_cons.mp h with rfl | h
        · exact hcons (ih List.mem_cons_self)
        · exact ih (List.mem_cons_of_mem _ h)

theorem unixBytes_line {bs : List UInt8} (hfeed : 10 ∉ bs) (hlast : bs.getLast? ≠ some 13)
    (rest : List UInt8) :
    Text.unixBytes (bs ++ 10 :: rest) = bs ++ 10 :: Text.unixBytes rest := by
  induction bs with
  | nil =>
    cases rest with
    | nil => rfl
    | cons b rest =>
      rw [List.nil_append, Text.unixBytes, if_neg fun h => absurd h.1 (by decide)]
      rfl
  | cons b bs ih =>
    rw [List.mem_cons, not_or] at hfeed
    cases bs with
    | nil =>
      have hb : b ≠ 13 := by
        rintro rfl
        exact hlast rfl
      have ih := ih List.not_mem_nil (by simp)
      rw [List.nil_append] at ih
      rw [List.singleton_append, Text.unixBytes, if_neg fun h => hb h.1, ih]
      rfl
    | cons c bs =>
      have hc : c ≠ 10 := by
        rintro rfl
        exact hfeed.2 List.mem_cons_self
      have ih := ih hfeed.2 (by simpa using hlast)
      rw [List.cons_append] at ih
      rw [List.cons_append, List.cons_append, Text.unixBytes, if_neg fun h => hc h.2, ih]
      rfl

theorem lines_concat {ls : List Text} (h : ∀ l ∈ ls, l.IsLine) :
    (Text.concat (ls.map (· ++ "\n"))).lines = ls ++ [.empty] := by
  have hfeed : (Text.ofString "\n").bytes = [10] := by decide
  unfold Text.lines
  induction ls with
  | nil => rfl
  | cons l ls ih =>
    obtain ⟨hl, hls⟩ := List.forall_mem_cons.mp h
    have hbytes : (Text.concat ((l :: ls).map (· ++ "\n"))).bytes =
        l.bytes ++ 10 :: (Text.concat (ls.map (· ++ "\n"))).bytes := by
      rw [List.map_cons, Text.concat_cons, Text.bytes_append, Text.bytes_append, hfeed,
        List.append_assoc]
      rfl
    rw [hbytes, unixBytes_line hl.feed hl.last, splitBytes_line hl.feed, List.map_cons, ih hls]
    rfl

theorem feed_of_mem_lines {source line : Text} (h : line ∈ source.lines) : 10 ∉ line.bytes := by
  obtain ⟨piece, hpiece, rfl⟩ := List.mem_map.mp h
  exact mem_splitBytes hpiece

theorem assemble_append (ls : List Text) (l : Text) :
    Format.assemble (ls ++ [l]) =
      ⟨((Text.concat (ls.map (· ++ "\n"))).bytes ++ l.bytes).rdropWhile (· == 10)⟩ ++ "\n" := by
  have hfeed : (Text.ofString "\n").bytes = [10] := by decide
  have hconcat : (Text.concat ((ls ++ [l]).map (· ++ "\n"))).bytes =
      (Text.concat (ls.map (· ++ "\n"))).bytes ++ l.bytes ++ [10] := by
    simp [Text.concat, hfeed]
  rw [Format.assemble, Text.dropRightWhile, hconcat]
  exact congrArg (fun bs => Text.mk bs ++ Text.ofString "\n")
    (List.rdropWhile_concat_pos (· == 10) _ _ rfl)

theorem assemble_empty (ls : List Text) :
    Format.assemble (ls ++ [.empty]) = Format.assemble ls := by
  rw [assemble_append, show Text.empty.bytes = [] from rfl, List.append_nil]
  rfl

/-- Empty lines at the end are left out, and one line feed stays there. -/
theorem assemble_eq {ls : List Text} (h : ∀ l ∈ ls, l.IsLine) :
    ∃ kept k, ls = kept ++ List.replicate k .empty ∧
      Format.assemble ls =
        Text.concat ((if kept.isEmpty then [.empty] else kept).map (· ++ "\n")) := by
  induction ls using List.reverseRecOn with
  | nil => exact ⟨[], 0, rfl, rfl⟩
  | append_singleton ls l ih =>
    have hl : l.IsLine := h l (by simp)
    rcases List.eq_nil_or_concat l.bytes with hnil | ⟨bs, b, hb⟩
    · obtain ⟨kept, k, rfl, hassemble⟩ := ih fun x hx => h x (List.mem_append_left _ hx)
      have hempty : l = .empty := by
        cases l
        exact congrArg Text.mk hnil
      refine ⟨kept, k + 1, ?_, ?_⟩
      · rw [hempty, List.append_assoc, List.replicate_succ']
      · rw [← hassemble, hempty, assemble_empty]
    · refine ⟨ls ++ [l], 0, by simp, ?_⟩
      have hne : b ≠ 10 := by
        rintro rfl
        exact hl.feed (by simp [hb])
      have hline : ((Text.concat (ls.map (· ++ "\n"))).bytes ++ l.bytes).rdropWhile (· == 10) =
          (Text.concat (ls.map (· ++ "\n"))).bytes ++ l.bytes := by
        rw [hb, List.concat_eq_append, ← List.append_assoc,
          List.rdropWhile_concat_neg _ _ _ (by simpa using hne)]
      rw [assemble_append, hline, if_neg (by simp)]
      exact congrArg Text.mk (by simp [Text.concat])

/-- A formatted source has the lines that were written, but for empty ones at its end. -/
theorem lines_assemble {ls : List Text} (h : ∀ l ∈ ls, l.IsLine) :
    ∃ kept k n, ls = kept ++ List.replicate k .empty ∧
      (Format.assemble ls).lines = kept ++ List.replicate n .empty := by
  obtain ⟨kept, k, rfl, hassemble⟩ := assemble_eq h
  refine ⟨kept, k, if kept.isEmpty then 2 else 1, rfl, ?_⟩
  rw [hassemble]
  cases kept with
  | nil => exact lines_concat (List.forall_mem_singleton.mpr canonical_empty.inline.isLine)
  | cons l kept => exact lines_concat fun x hx => h x (List.mem_append_left _ hx)

theorem commandOf?_replicate (n : ℕ) :
    (List.replicate n Text.empty).filterMap commandOf? = [] := by
  rw [List.filterMap_eq_nil_iff]
  intro t ht
  rw [List.eq_of_mem_replicate ht]
  rfl

/-- Every line of a formatted source can be read, and its lines say the commands of the source. -/
theorem commands_format {source t : Text}
    (hsource : ∀ line ∈ source.lines, ∃ parsed, ParsedCommand.ofLine line = .ok parsed)
    (h : format source = .ok t) :
    (∀ line ∈ t.lines, ∃ parsed, ParsedCommand.ofLine line = .ok parsed) ∧
      t.commands = source.commands := by
  unfold format at h
  cases hitems : Format.items 1 source.lines with
  | error e =>
    rw [hitems] at h
    cases h
  | ok is =>
    rw [hitems] at h
    cases h
    have hfits := Format.items_fit (fun l hl => feed_of_mem_lines hl) hitems
    have hcommands := Format.items_says hsource hitems
    obtain ⟨hwritten, hsaid⟩ := Format.lines_says hfits {}
    obtain ⟨kept, k, n, hkept, hlines⟩ := lines_assemble fun l hl => by
      obtain ⟨command?, hl⟩ := hwritten l hl
      exact hl.isLine
    constructor
    · intro line hline
      rw [hlines] at hline
      rcases List.mem_append.mp hline with hline | hline
      · obtain ⟨command?, hw⟩ := hwritten line (by rw [hkept]; exact List.mem_append_left _ hline)
        obtain ⟨parsed, hparsed, -⟩ := hw.ofLine
        exact ⟨parsed, hparsed⟩
      · rw [List.eq_of_mem_replicate hline]
        exact ⟨none, rfl⟩
    · rw [Text.commands, Text.commands, hlines, ← hcommands, ← hsaid, hkept, List.filterMap_append,
        List.filterMap_append, commandOf?_replicate, commandOf?_replicate]

-- ---------------------------------------------------------------------------
-- Compiling
-- ---------------------------------------------------------------------------

/-- A batch session compiles the commands of its lines, and the lines that say none do nothing. -/
theorem Session.feedLines_compileAll {ls : List Text} {s : Session} (hb : s.interactive = false)
    (hq : s.quit = false) (hl : ∀ l ∈ ls, ∃ parsed, ParsedCommand.ofLine l = .ok parsed) :
    ((s.feedLines ls).1.compiler.withoutLines, (s.feedLines ls).2.mapError Error.withoutLine) =
      s.compiler.withoutLines.compileAll (ls.filterMap commandOf?) := by
  induction ls generalizing s with
  | nil => rfl
  | cons l ls ih =>
    obtain ⟨⟨parsed, hparsed⟩, hls⟩ := List.forall_mem_cons.mp hl
    have hline : Command.ofLine (s.line + 1) l = .ok (parsed.map ParsedCommand.command) := by
      rw [Command.ofLine, hparsed]
    rw [List.filterMap_cons, Format.commandOf?_ok hparsed, feedLines]
    cases hcommand : parsed.map ParsedCommand.command with
    | none =>
      rw [hcommand] at hline
      rw [feed_blank hline]
      dsimp only
      rw [if_neg (ne_true_of_eq_false hq)]
      exact ih (s := { s with line := s.line + 1 }) hb hq hls
    | some cmd =>
      rw [hcommand] at hline
      have hcompile := s.compiler.compile_withoutLines cmd (s.line + 1)
      dsimp only
      rw [Compiler.compileAll, hcompile]
      cases hc : s.compiler.compile (s.line + 1) cmd with
      | error e =>
        have hfeed : s.feed l = ({ s with line := s.line + 1 }, .error e) := by
          simp [feed, hline, hc]
        rw [hfeed]
        rfl
      | ok compiled =>
        obtain ⟨hint, compiler⟩ := compiled
        obtain ⟨s', ⟨log, rfl⟩, hfeed⟩ := feed_compiled hline hc
        rw [if_pos (by simp [hb])] at hfeed
        rw [hfeed]
        dsimp only
        rw [if_neg (ne_true_of_eq_false hq)]
        exact ih hb hq hls

/-- Formatting keeps the program. Every line of the formatted source can be read, its lines say
the same commands, and a batch session compiles both sources alike: to the same instructions, up
to their lines, and up to the same failure, if there is one. -/
theorem format_preserves {source t : Text}
    (hsource : ∀ line ∈ source.lines, ∃ parsed, ParsedCommand.ofLine line = .ok parsed)
    (h : format source = .ok t) :
    (∀ line ∈ t.lines, ∃ parsed, ParsedCommand.ofLine line = .ok parsed) ∧
      t.commands = source.commands ∧
      ∀ s : Session, s.interactive = false → s.quit = false →
        (s.feedSource t).1.program.withoutLines =
            (s.feedSource source).1.program.withoutLines ∧
          (s.feedSource t).2.mapError Error.withoutLine =
            (s.feedSource source).2.mapError Error.withoutLine := by
  obtain ⟨ht, hcommands⟩ := commands_format hsource h
  refine ⟨ht, hcommands, ?_⟩
  intro s hb hq
  have hsame := (Session.feedLines_compileAll hb hq ht).trans
    ((congrArg s.compiler.withoutLines.compileAll hcommands).trans
      (Session.feedLines_compileAll hb hq hsource).symm)
  obtain ⟨hcompiler, herror⟩ := Prod.mk.inj hsame
  exact ⟨congrArg Compiler.program hcompiler, herror⟩

/-- With blank lines that are taken out, and a quote and `#` both in a text and in comments. -/
theorem format_preserves_commented :
    let source : Text := "\n\n# \"a\nvem x=\"\\\"#\"#\"b"
    let t : Text := "# \"a\nVEM: x, \"\\\"#\" #\"b\n"
    let s : Session :=
      { interactive := false, file := .empty, compiler := .new 16, machine := .new 16 }
    (∀ line ∈ source.lines, ∃ parsed, ParsedCommand.ofLine line = .ok parsed) ∧
      format source = .ok t ∧
      (∀ line ∈ t.lines, ∃ parsed, ParsedCommand.ofLine line = .ok parsed) ∧
      t.commands = source.commands ∧
      (s.feedSource t).1.program.withoutLines = (s.feedSource source).1.program.withoutLines ∧
      (s.feedSource t).2.mapError Error.withoutLine =
        (s.feedSource source).2.mapError Error.withoutLine := by
  intro source t s
  have hsource : ∀ line ∈ source.lines, ∃ parsed, ParsedCommand.ofLine line = .ok parsed := by
    have hall : source.lines.all fun line => (ParsedCommand.ofLine line).isOk := by
      decide +kernel
    intro line hline
    have hok := List.all_eq_true.mp hall line hline
    cases hparsed : ParsedCommand.ofLine line with
    | error e =>
      rw [hparsed] at hok
      cases hok
    | ok parsed => exact ⟨parsed, rfl⟩
  have hformat : format source = .ok t := by decide +kernel
  obtain ⟨ht, hcommands, hcompile⟩ := format_preserves hsource hformat
  exact ⟨hsource, hformat, ht, hcommands, hcompile s rfl rfl⟩

end Birl
