import Birl.Proofs.Source.Command

/-!
# What canonical source is made of

Canonical source is put together from string literals and from characters that end no line, open
no string and start no comment (`canonical_render`). In a literal the characters that end a line
are escaped, so canonical source stays on its line (`Text.Canonical.inline`).
-/

namespace Birl

/-- A text without line feeds and carriage returns. -/
def Text.Inline (t : Text) : Prop := ∀ b ∈ t.bytes, b ≠ 10 ∧ b ≠ 13

-- ---------------------------------------------------------------------------
-- Characters
-- ---------------------------------------------------------------------------

namespace Rune

theorem split_of_whole {r : Rune} (h : r.Whole) : r.Split := by
  have hread := h []
  cases hbytes : r.bytes with
  | nil =>
    rw [hbytes] at hread
    cases hread
  | cons b bs =>
    rw [hbytes, List.append_nil, decodeSkipping] at hread
    rw [← (List.cons.inj hread).1]
    exact split_head b bs

theorem Split.inline {r : Rune} (h : r.Split) (hfeed : r.char ≠ '\n') (hreturn : r.char ≠ '\r') :
    ∀ b ∈ r.bytes, b ≠ 10 ∧ b ≠ 13 := by
  rcases h with ⟨b, hb, rfl⟩ | ⟨-, -, hall⟩
  · simp only [List.mem_singleton, forall_eq]
    constructor
    · rintro rfl
      exact hfeed rfl
    · rintro rfl
      exact hreturn rfl
  · intro b hb
    have := hall b hb
    constructor <;> rintro rfl <;> exact absurd this (by decide)

end Rune

section
variable {s t : Text}

theorem inline_ofRunes {rs : List Rune}
    (h : ∀ r ∈ rs, r.Whole ∧ r.char ≠ '\n' ∧ r.char ≠ '\r') : (Text.ofRunes rs).Inline := by
  intro b hb
  obtain ⟨r, hr, hb⟩ := List.mem_flatMap.mp hb
  obtain ⟨hwhole, hfeed, hreturn⟩ := h r hr
  exact (Rune.split_of_whole hwhole).inline hfeed hreturn b hb

theorem inline_ofChars {cs : List Char} (h : ∀ c ∈ cs, c ≠ '\n' ∧ c ≠ '\r') :
    (Text.ofChars cs).Inline := by
  rw [Text.ofChars_eq_ofRunes]
  refine inline_ofRunes ?_
  simpa [Rune.ofChar] using fun c hc => ⟨Rune.whole_ofChar c, h c hc⟩

theorem Text.Inline.append (hs : s.Inline) (ht : t.Inline) : (s ++ t).Inline := by
  intro b hb
  rcases List.mem_append.mp hb with hb | hb
  · exact hs b hb
  · exact ht b hb

theorem inline_stringChar (c : Char) : ∀ d ∈ Render.stringChar c, d ≠ '\n' ∧ d ≠ '\r' := by
  unfold Render.stringChar
  split
  · simp
  · simp
  · simp
  · simp
  · simp
  · rename_i _ _ hfeed _ hreturn
    split
    · simp
    · simpa using ⟨hfeed, hreturn⟩

theorem inline_string (t : Text) : (Render.string t).Inline := by
  refine inline_ofChars ?_
  intro c hc
  simp only [List.cons_append, List.mem_cons, List.mem_append, List.mem_flatMap,
    List.not_mem_nil, or_false] at hc
  rcases hc with rfl | ⟨d, -, hc⟩ | rfl
  · decide
  · exact inline_stringChar d c hc
  · decide

end

-- ---------------------------------------------------------------------------
-- Canonical texts
-- ---------------------------------------------------------------------------

/-- The characters that end a line, open a string or start a comment. -/
def Character.marks : List Char := ['\n', '\r', '"', '#']

/-- Made of string literals and of whole characters that are no marks. -/
inductive Text.Canonical : Text → Prop
  | plain {rs : List Rune} (h : ∀ r ∈ rs, r.Whole ∧ r.char ∉ Character.marks) :
      Canonical (.ofRunes rs)
  | string (t : Text) : Canonical (Render.string t)
  | append {s t : Text} (hs : Canonical s) (ht : Canonical t) : Canonical (s ++ t)

section
variable {s t : Text}

theorem Text.Canonical.inline (h : t.Canonical) : t.Inline := by
  induction h with
  | plain h =>
    refine inline_ofRunes fun r hr => ?_
    obtain ⟨hwhole, hchar⟩ := h r hr
    refine ⟨hwhole, ?_, ?_⟩
    all_goals
      intro hmark
      exact hchar (by simp [hmark, Character.marks])
  | string t => exact inline_string t
  | append _ _ hs ht => exact hs.append ht

theorem canonical_ofChars {cs : List Char} (h : ∀ c ∈ cs, c ∉ Character.marks) :
    (Text.ofChars cs).Canonical := by
  rw [Text.ofChars_eq_ofRunes]
  refine .plain fun r hr => ?_
  obtain ⟨c, hc, rfl⟩ := List.mem_map.mp hr
  exact ⟨Rune.whole_ofChar c, h c hc⟩

theorem canonical_literal {cs : List Char} (h : cs.all (· ∉ Character.marks) = true) :
    (Text.ofChars cs).Canonical :=
  canonical_ofChars (by simpa using h)

theorem canonical_empty : Text.Canonical .empty := canonical_ofChars (List.forall_mem_nil _)

theorem canonical_concat {ts : List Text} (h : ∀ t ∈ ts, t.Canonical) :
    (Text.concat ts).Canonical := by
  induction ts with
  | nil => exact canonical_empty
  | cons t ts ih =>
    obtain ⟨ht, hts⟩ := List.forall_mem_cons.mp h
    rw [Text.concat_cons]
    exact ht.append (ih hts)

theorem canonical_join {sep : Text} {ts : List Text} (hsep : sep.Canonical)
    (h : ∀ t ∈ ts, t.Canonical) : (Text.join sep ts).Canonical := by
  cases ts with
  | nil => exact canonical_empty
  | cons t ts =>
    obtain ⟨ht, hts⟩ := List.forall_mem_cons.mp h
    rw [Text.join_cons]
    refine ht.append (canonical_concat ?_)
    simpa using fun t' ht' => hsep.append (hts t' ht')

theorem plain_of_test {p : Char → Bool} {c : Char} (h : p c = true)
    (hp : Character.marks.any p = false) : c ∉ Character.marks := by
  intro hc
  have hnone := List.any_eq_false.mp hp c hc
  exact hnone h

theorem Text.IsWord.canonical (h : t.IsWord) : t.Canonical := by
  obtain ⟨r, rs, rfl, hstart, hparts, hwhole⟩ := h
  refine .plain fun x hx => ⟨hwhole x hx, ?_⟩
  have hpart : Scan.isWordPart x.char = true := by
    rcases List.mem_cons.mp hx with rfl | hx
    · exact isWordPart_of_start hstart
    · exact hparts x hx
  exact plain_of_test hpart (by decide)

theorem Digits.plain {cs : List Char} (h : Digits cs) : ∀ c ∈ cs, c ∉ Character.marks :=
  fun c hc => plain_of_test (h c hc) (by decide)

-- ---------------------------------------------------------------------------
-- Commands
-- ---------------------------------------------------------------------------

theorem canonical_plain {x : Number} (h : x.Plain) : (Render.number x).Canonical := by
  obtain ⟨ds, fs, hd, -, hf, -, hrender, -⟩ := number_reads h
  rw [hrender]
  refine canonical_ofChars ?_
  intro c hc
  simp only [List.mem_append, List.mem_cons] at hc
  rcases hc with hc | rfl | hc
  · exact hd.plain c hc
  · decide
  · exact hf.plain c hc

theorem canonical_ofNat (n : ℕ) : (Text.ofNat n).Canonical :=
  canonical_ofChars (digits_toDigits n).plain

theorem canonical_minus : Text.Canonical (.ofChars ['-']) := canonical_literal (by decide)

theorem canonical_node {n : Node} (h : n.Readable) : (Render.node n).Canonical := by
  cases n with
  | value k =>
    cases k with
    | null => exact h.elim
    | int n =>
      show (Text.ofInt n.toInt).Canonical
      cases n.toInt with
      | ofNat k => exact canonical_ofNat k
      | negSucc k => exact canonical_minus.append (canonical_ofNat (k + 1))
    | number x =>
      rcases h with hx | ⟨y, hy, rfl⟩
      · exact canonical_plain hx
      · rw [Render.node, Render.literal, number_negate hy]
        exact canonical_minus.append (canonical_plain hy)
    | text t => exact Text.Canonical.string t
  | symbol name => exact Text.IsWord.canonical h
  | operator op => cases op <;> exact canonical_literal (by decide)
  | unknown _ => exact h.elim

theorem canonical_blank : Text.Canonical " " := canonical_literal (by decide)

theorem canonical_expressionAfter {e : Expression} (h : ∀ n ∈ e, n.Readable) (previous : Node) :
    (Render.expressionAfter previous e).Canonical := by
  induction e generalizing previous with
  | nil => exact canonical_empty
  | cons n e ih =>
    obtain ⟨hn, he⟩ := List.forall_mem_cons.mp h
    rw [Render.expressionAfter]
    refine Text.Canonical.append ?_ (ih he n)
    split
    · exact canonical_blank.append (canonical_node hn)
    · exact canonical_node hn

theorem canonical_expression {e : Expression} (h : ∀ n ∈ e, n.Readable) :
    (Render.expression e).Canonical := by
  cases e with
  | nil => exact canonical_empty
  | cons n e =>
    obtain ⟨hn, he⟩ := List.forall_mem_cons.mp h
    exact (canonical_node hn).append (canonical_expressionAfter he n)

theorem canonical_parameters {ps : List Parameter} (h : ∀ p ∈ ps, ∃ kind, p.Readable kind) :
    (Render.parameters ps).Canonical := by
  unfold Render.parameters
  split
  · exact canonical_empty
  · refine Text.Canonical.append (Text.Canonical.append (canonical_literal (by decide)) ?_)
      (canonical_literal (by decide))
    refine canonical_join (canonical_literal (by decide)) ?_
    intro t ht
    obtain ⟨p, hp, rfl⟩ := List.mem_map.mp ht
    obtain ⟨kind, hp⟩ := h p hp
    refine Text.Canonical.append (Text.Canonical.append ?_ canonical_blank) hp.name.canonical
    rw [hp.kind, Render.parameterKind, ofKeyword?_keyword]
    cases kind <;> exact canonical_literal (by decide)

theorem canonical_render {c : Command} (h : c.Readable) : c.render.Canonical := by
  have hphrase : (Text.join " " c.kind.phrase).Canonical :=
    canonical_join canonical_blank fun w hw => (isWord_phrase h.kind w hw).canonical
  have hcolon : Text.Canonical ": " := canonical_literal (by decide)
  have hcomma : Text.Canonical ", " := canonical_literal (by decide)
  have hargs : ∀ t ∈ c.args.map Render.expression, t.Canonical := by
    simpa using fun e he => canonical_expression (h.args e he).nodes
  have hnamed (hname : c.name.IsWord) : (Text.join " " c.kind.phrase ++ ": " ++ c.name ++
      Text.concat (c.args.map fun e => ", " ++ Render.expression e)).Canonical := by
    refine ((hphrase.append hcolon).append hname.canonical).append (canonical_concat ?_)
    simpa using fun e he => hcomma.append (canonical_expression (h.args e he).nodes)
  have hvalues : (if c.args.isEmpty then Text.join " " c.kind.phrase
      else Text.join " " c.kind.phrase ++ ": " ++
        Text.join ", " (c.args.map Render.expression)).Canonical := by
    split
    · exact hphrase
    · exact (hphrase.append hcolon).append (canonical_join hcomma hargs)
  have hfits := h.fits
  obtain ⟨kind, name, args, params⟩ := c
  cases kind with
  | functionStart =>
    exact ((hphrase.append canonical_blank).append hfits.1.canonical).append
      (canonical_parameters hfits.2.2)
  | declare | set | call | input | convert => exact hnamed hfits.1
  | unknown => exact hfits.elim
  | _ => exact hvalues

end
end Birl
