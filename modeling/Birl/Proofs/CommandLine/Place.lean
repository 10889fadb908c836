import Birl.CommandLine
import Birl.Proofs.Session.Attribution

/-!
# Places of errors

A batch run feeds the lines of all its sources to one session, which numbers them in one row,
and a report turns such a number into the name of a source and a line of that source. It is
the right one (`batch_errors_placed`): the recorded spans take every number to the line that
was fed under it (`Covers`), an error carries the number of the line that was fed last, or the
one of the line that the failing instruction was compiled from, and the two fit together
whatever the sources hold (`feedAll_covers`). A source without a name has no place to report; the
arguments of the command give one only by an empty path (`named_of_parse`).
-/

namespace Birl

open Machine (FailsAt)

namespace CommandLine

-- ---------------------------------------------------------------------------
-- Lines of sources
-- ---------------------------------------------------------------------------

/-- A line of a source: the name of the source, the number of the line there, and its text. -/
structure SourceLine where
  name : Text
  number : ℕ
  text : Text
  deriving DecidableEq, Repr

def Source.lines (source : Source) (text : Text) : List SourceLine :=
  text.lines.mapIdx fun i line => ⟨source.name, i + 1, line⟩

def readSources (files : Files) : Input → List Source → Option (List SourceLine)
  | _, [] => some []
  | input, source :: rest =>
    match readSource files input {} source with
    | (.ok text, input, _) => (readSources files input rest).map (source.lines text ++ ·)
    | (.error _, _, _) => none

/-- The name and the line that stand for a number in a row of lines, which starts at 1. -/
def place? (lines : List SourceLine) (n : Int) : Option (Text × Int) :=
  if 1 ≤ n then lines[(n - 1).toNat]?.map fun l => (l.name, (l.number : Int)) else none

/-- A message about a line; a source without a name gives no place. -/
def SourceLine.report (l : SourceLine) (message : Text) : Text :=
  if l.name.isEmpty then unplaced message else atLine l.name l.number message

/-- The spans take a number to the line that was fed under it, and to none if there was none. -/
def Covers (spans : List Span) (lines : List SourceLine) : Prop :=
  ∀ n, locate spans n = place? lines n

section
variable {lines fed : List SourceLine} {spans : List Span} {source : Source} {text : Text}

theorem getElem?_sourceLines (source : Source) (text : Text) (i : ℕ) :
    (source.lines text)[i]? = text.lines[i]?.map fun line => ⟨source.name, i + 1, line⟩ := by
  rw [Source.lines, List.getElem?_mapIdx]

@[simp] theorem length_sourceLines (source : Source) (text : Text) :
    (source.lines text).length = text.lines.length := by
  simp [Source.lines]

@[simp] theorem text_sourceLines (source : Source) (text : Text) :
    (source.lines text).map SourceLine.text = text.lines := by
  refine List.ext_getElem? fun i => ?_
  rw [List.getElem?_map, getElem?_sourceLines, Option.map_map]
  exact congrFun Option.map_id _

theorem place?_natCast (lines : List SourceLine) (i : ℕ) :
    place? lines ((i : Int) + 1) = lines[i]?.map fun l => (l.name, (l.number : Int)) := by
  rw [place?, if_pos (by omega), Int.add_sub_cancel, Int.toNat_natCast]

theorem place?_eq_none {n : Int} (h : n < 1 ∨ lines.length < n) : place? lines n = none := by
  unfold place?
  split
  · rw [List.getElem?_eq_none (by omega), Option.map_none]
  · rfl

theorem locate_append (spans more : List Span) (n : Int) :
    locate (spans ++ more) n = (locate spans n).or (locate more n) := by
  simp only [locate, List.find?_append, Option.map_or]

theorem covers_nil : Covers [] [] := by
  intro n
  rw [place?]
  split <;> rfl

theorem holds_iff {span : Span} {n : Int} :
    span.holds n = true ↔ (span.first : Int) ≤ n ∧ n ≤ span.last := by
  simp [Span.holds]

theorem locate_singleton (span : Span) (n : Int) :
    locate [span] n = if span.holds n then some (span.name, n - span.first + 1) else none := by
  cases h : span.holds n with
  | true => simp [locate, h]
  | false => simp [locate, h]

theorem Covers.snoc (h : Covers spans fed) {k : ℕ} (hk : k ≤ text.lines.length) :
    Covers (spans ++ [⟨source.name, fed.length + 1, fed.length + k⟩])
      (fed ++ (source.lines text).take k) := by
  intro n
  rw [locate_append, h n, locate_singleton]
  by_cases hlow : n < 1
  · rw [place?_eq_none (.inl hlow), place?_eq_none (.inl hlow), if_neg]
    · rfl
    · rw [holds_iff]
      push_cast
      omega
  · obtain ⟨i, rfl⟩ : ∃ i : ℕ, n = (i : Int) + 1 := ⟨(n - 1).toNat, by omega⟩
    rw [place?_natCast, place?_natCast]
    by_cases hold : i < fed.length
    · rw [List.getElem?_append_left hold, List.getElem?_eq_getElem hold]
      rfl
    · rw [List.getElem?_append_right (Nat.le_of_not_lt hold),
        List.getElem?_eq_none (Nat.le_of_not_lt hold), List.getElem?_take]
      by_cases hnew : i - fed.length < k
      · have hline : i - fed.length < text.lines.length := by omega
        have hnumber : (i : Int) + 1 - (fed.length + 1 : ℕ) + 1 = (i - fed.length + 1 : ℕ) := by
          omega
        rw [if_pos hnew, getElem?_sourceLines, List.getElem?_eq_getElem hline, if_pos, hnumber]
        · rfl
        · rw [holds_iff]
          push_cast
          omega
      · rw [if_neg hnew, if_neg]
        · rfl
        · rw [holds_iff]
          push_cast
          omega

/-- An error with the number of a line that was fed is reported at that line. -/
theorem Covers.report (h : Covers spans lines) {i : ℕ} {l : SourceLine} (hl : lines[i]? = some l)
    {e : Error} (he : (describe e).1 = some ((i : Int) + 1)) :
    CommandLine.report spans e = l.report (describe e).2 := by
  have hlocate : locate spans ((i : Int) + 1) = some (l.name, (l.number : Int)) := by
    rw [h, place?_natCast, hl]
    rfl
  simp only [CommandLine.report, he, Option.bind_some, hlocate]
  rfl

end
end CommandLine

-- ---------------------------------------------------------------------------
-- Lines that are fed
-- ---------------------------------------------------------------------------

namespace Session

/-- The same session with another input and another log. -/
def Dressed (s t : Session) : Prop :=
  ∃ input log, t = { s with machine := { s.machine with input }, log }

section
variable {s s' t : Session} {source : Text} {lines more : List Text} {r : Except Error Unit}
  {e : Error}

theorem Takes.feed (hb : s.interactive = false) (h : Takes s source s') :
    ∃ log, s.feed source = ({ s' with log }, .ok ()) := by
  cases h with
  | blank hl => exact ⟨s.log, feed_blank hl⟩
  | compiled log hl hc =>
    obtain ⟨s₁, ⟨log', rfl⟩, hfeed⟩ := feed_compiled hl hc
    exact ⟨log', by rw [hfeed, if_pos (by simp [hb])]⟩

theorem Dressed.takes (h : Dressed s t) (ht : Takes s source s') :
    ∃ t', Takes t source t' ∧ Dressed s' t' := by
  obtain ⟨input, log, rfl⟩ := h
  cases ht with
  | blank hl => exact ⟨_, .blank hl, input, log, rfl⟩
  | compiled log' hl hc => exact ⟨_, .compiled log' hl hc, input, log', rfl⟩

/-- A line that is refused is counted, and its error carries its number. -/
theorem refused_of_feed (hb : s.interactive = false) (h : s.feed source = (s', .error e)) :
    s' = { s with line := s.line + 1 } ∧
      (CommandLine.describe e).1 = some ((s.line : Int) + 1) ∧
      ∀ t, Dressed s t → t.feed source = ({ t with line := t.line + 1 }, .error e) := by
  cases hl : Command.ofLine (s.line + 1) source with
  | error e' =>
    have hline : e'.line = s.line + 1 := by
      unfold Command.ofLine at hl
      split at hl
      · cases hl
      · cases hl
        rfl
    have hfeed : s.feed source = ({ s with line := s.line + 1 }, .error (.malformed e')) := by
      simp [feed, hl]
    cases hfeed.symm.trans h
    refine ⟨rfl, congrArg some hline, ?_⟩
    rintro _ ⟨input, log, rfl⟩
    simp [feed, hl]
  | ok parsed =>
    cases parsed with
    | none => simp [feed_blank hl] at h
    | some cmd =>
      cases hc : s.compiler.compile (s.line + 1) cmd with
      | error e' =>
        have hline : (CommandLine.describe e').1 = some ((s.line : Int) + 1) := by
          unfold Compiler.compile at hc
          split at hc
          · cases hc
            rfl
          · cases hc
        have hfeed : s.feed source = ({ s with line := s.line + 1 }, .error e') := by
          simp [feed, hl, hc]
        cases hfeed.symm.trans h
        refine ⟨rfl, hline, ?_⟩
        rintro _ ⟨input, log, rfl⟩
        simp [feed, hl, hc]
      | ok result =>
        obtain ⟨s₁, -, hfeed⟩ := feed_compiled hl hc
        rw [hfeed, if_pos (by simp [hb])] at h
        cases h

theorem Batch.dressed (h : Batch s) (hd : Dressed s t) : Batch t := by
  obtain ⟨input, log, rfl⟩ := hd
  exact ⟨h.safe, h.tidy, h.depth, h.interactive, h.quit, h.entryRun⟩

theorem Dressed.feed (hb : Batch s) (hd : Dressed s t) (hf : s.feed source = (s', r)) :
    ∃ t', t.feed source = (t', r) ∧ Dressed s' t' ∧ t'.machine = t.machine := by
  have ht := hb.dressed hd
  cases r with
  | error e =>
    obtain ⟨rfl, -, hsame⟩ := refused_of_feed hb.interactive hf
    refine ⟨_, hsame t hd, ?_, rfl⟩
    obtain ⟨input, log, rfl⟩ := hd
    exact ⟨input, log, rfl⟩
  | ok _ =>
    obtain ⟨t', htakes, hd'⟩ := hd.takes (takes_of_feed hb.interactive hf)
    obtain ⟨log, hfeed⟩ := htakes.feed ht.interactive
    obtain ⟨-, -, hmachine⟩ := ht.takes htakes
    obtain ⟨input, log', rfl⟩ := hd'
    exact ⟨_, hfeed, ⟨input, log, rfl⟩, hmachine⟩

theorem Dressed.feedLines (hb : Batch s) (hd : Dressed s t) (hf : s.feedLines lines = (s', r)) :
    ∃ t', t.feedLines lines = (t', r) ∧ Dressed s' t' ∧ t'.machine = t.machine := by
  induction lines generalizing s t with
  | nil =>
    cases hf
    exact ⟨t, rfl, hd, rfl⟩
  | cons line rest ih =>
    rcases hfeed : s.feed line with ⟨s₁, e | ⟨⟩⟩
    · obtain ⟨t₁, htfeed, hd₁, hmachine⟩ := hd.feed hb hfeed
      simp only [Session.feedLines, hfeed] at hf
      cases hf
      exact ⟨t₁, by simp [Session.feedLines, htfeed], hd₁, hmachine⟩
    · obtain ⟨t₁, htfeed, hd₁, hmachine⟩ := hd.feed hb hfeed
      obtain ⟨hb₁, -⟩ := hb.takes (takes_of_feed hb.interactive hfeed)
      rw [hb.feedLines_step hfeed] at hf
      obtain ⟨t', hrest, hd', hmachine'⟩ := ih hb₁ hd₁ hf
      rw [(hb.dressed hd).feedLines_step htfeed]
      exact ⟨t', hrest, hd', hmachine'.trans hmachine⟩

/-- The number of lines that were fed: all of them, or those up to the first that is refused. -/
theorem Batch.line_feedLines (hb : Batch s) (hf : s.feedLines lines = (s', r)) :
    (r = .ok () ∧ s'.line = s.line + lines.length) ∨
      ∃ e, r = .error e ∧ s.line < s'.line ∧ s'.line ≤ s.line + lines.length ∧
        (CommandLine.describe e).1 = some (s'.line : Int) := by
  induction lines generalizing s with
  | nil =>
    cases hf
    exact .inl ⟨rfl, rfl⟩
  | cons line rest ih =>
    rcases hfeed : s.feed line with ⟨s₁, e | ⟨⟩⟩
    · obtain ⟨rfl, hline, -⟩ := refused_of_feed hb.interactive hfeed
      simp only [Session.feedLines, hfeed] at hf
      cases hf
      exact .inr ⟨e, rfl, Nat.lt_succ_self _, by simp, hline⟩
    · have htakes := takes_of_feed hb.interactive hfeed
      obtain ⟨hb₁, -⟩ := hb.takes htakes
      rw [hb.feedLines_step hfeed] at hf
      have hnumber := htakes.line
      rw [List.length_cons]
      refine (ih hb₁ hf).imp ?_ ?_
      · rintro ⟨hr, hline⟩
        exact ⟨hr, by omega⟩
      · rintro ⟨e, hr, hlow, hhigh, hline⟩
        exact ⟨e, hr, by omega, by omega, hline⟩

theorem Batch.feedLines_append (hb : Batch s) (hf : s.feedLines lines = (s', .ok ())) :
    s.feedLines (lines ++ more) = s'.feedLines more := by
  induction lines generalizing s with
  | nil =>
    cases hf
    rfl
  | cons line rest ih =>
    rcases hfeed : s.feed line with ⟨s₁, e | ⟨⟩⟩
    · simp [Session.feedLines, hfeed] at hf
    · obtain ⟨hb₁, -⟩ := hb.takes (takes_of_feed hb.interactive hfeed)
      rw [hb.feedLines_step hfeed] at hf
      rw [List.cons_append, hb.feedLines_step hfeed]
      exact ih hb₁ hf

theorem feedLines_refused (hf : s.feedLines lines = (s', .error e)) :
    s.feedLines (lines ++ more) = (s', .error e) := by
  induction lines generalizing s with
  | nil => cases hf
  | cons line rest ih =>
    rw [List.cons_append, Session.feedLines]
    rw [Session.feedLines] at hf
    split at hf
    · rename_i hfeed
      simpa [hfeed] using hf
    · split at hf
      · cases hf
      · rename_i hquit
        rw [if_neg hquit]
        exact ih hf

theorem Dressed.reachable {host : Callback → Prop} {ready : Bool} (hd : Dressed s t)
    (h : Reachable host ready s) : Reachable host ready t := by
  obtain ⟨input, log, rfl⟩ := hd
  exact (h.streams input s.machine.output).noted _ _ _ _ _ _ log

end
end Session

namespace CommandLine

-- ---------------------------------------------------------------------------
-- Sources that are fed
-- ---------------------------------------------------------------------------

open Session (Batch Dressed Reachable)

theorem readSource_log (files : Files) (input : Input) (log log' : Log) (source : Source) :
    (readSource files input log source).1 = (readSource files input log' source).1 ∧
      (readSource files input log source).2.1 = (readSource files input log' source).2.1 := by
  unfold readSource
  split
  · exact ⟨rfl, rfl⟩
  · exact ⟨rfl, rfl⟩
  · exact ⟨rfl, rfl⟩

/-- How feeding ends where feeding the lines ends so. -/
def refusal? : Except Error Unit → Option Failure
  | .ok () => none
  | .error e => some (.failed e)

/-- What is fed of one source, up to its end or to the first line that is refused, is covered by
the span that is recorded for it. -/
theorem feedSource_covers (source : Source) {text : Text} {fed : List SourceLine}
    {spans : List Span} {s t t' : Session} {r : Except Error Unit} (ht : Batch t)
    (hd : Dressed t s) (hline : t.line = fed.length) (hc : Covers spans fed)
    (hfeed : t.feedLines text.lines = (t', r)) (input : Input) (log : Log) :
    ∃ s' k, Session.feedSource { s.setInput input with log } text = (s', r) ∧ Dressed t' s' ∧
      s'.machine.input = input ∧ t'.line = fed.length + k ∧ k ≤ text.lines.length ∧
      (r = .ok () → k = text.lines.length) ∧
      Covers (spans ++ [⟨source.name, s.line + 1, s'.line⟩])
        (fed ++ (source.lines text).take k) := by
  have hd' : Dressed t { s.setInput input with log } := by
    obtain ⟨_, _, rfl⟩ := hd
    exact ⟨input, log, rfl⟩
  obtain ⟨s', hs', hdressed, hmachine⟩ := hd'.feedLines ht hfeed
  obtain ⟨k, hk, hle, hall⟩ : ∃ k, t'.line = fed.length + k ∧ k ≤ text.lines.length ∧
      (r = .ok () → k = text.lines.length) := by
    rcases ht.line_feedLines hfeed with ⟨-, hend⟩ | ⟨e, rfl, hlow, hhigh, -⟩
    · exact ⟨text.lines.length, by omega, Nat.le_refl _, fun _ => rfl⟩
    · exact ⟨t'.line - fed.length, by omega, by omega, nofun⟩
  refine ⟨s', k, hs', hdressed, congrArg Machine.input hmachine, hk, hle, hall, ?_⟩
  have hfirst : s.line = fed.length := by
    obtain ⟨_, _, rfl⟩ := hd
    exact hline
  have hlast : s'.line = fed.length + k := by
    obtain ⟨_, _, rfl⟩ := hdressed
    exact hk
  rw [hfirst, hlast]
  exact hc.snoc hle

/-- Where the lines of the sources are fed one by one to a like session, feeding the sources ends
alike, and the spans that it records cover the lines that were fed. -/
theorem feedAll_covers {files : Files} {sources : List Source} {lines fed : List SourceLine}
    {f : Feeding} {t t' : Session} {r : Except Error Unit} (ht : Batch t)
    (hd : Dressed t f.session) (hline : t.line = fed.length) (hc : Covers f.spans fed)
    (hl : readSources files f.session.machine.input sources = some lines)
    (hfeed : t.feedLines (lines.map SourceLine.text) = (t', r)) :
    ∃ g, Feeding.feedAll files f sources = (g, refusal? r) ∧
      Dressed t' g.session ∧ Covers g.spans ((fed ++ lines).take t'.line) := by
  induction sources generalizing f t fed lines with
  | nil =>
    cases hl
    cases hfeed
    refine ⟨f, rfl, hd, ?_⟩
    rwa [List.append_nil, hline, List.take_length]
  | cons source rest ih =>
    rw [readSources] at hl
    rcases hread : readSource files f.session.machine.input {} source with ⟨e | text, input, log⟩
    · simp [hread] at hl
    simp only [hread, Option.map_eq_some_iff] at hl
    obtain ⟨more, hmore, rfl⟩ := hl
    -- The run reads the source with its own log, which makes no difference to what is read.
    obtain ⟨hsame, hinput⟩ := readSource_log files f.session.machine.input f.session.log {} source
    rcases hread' : readSource files f.session.machine.input f.session.log source with
      ⟨read, input', log'⟩
    rw [hread, hread'] at hsame hinput
    obtain rfl : read = .ok text := hsame
    obtain rfl : input' = input := hinput
    rcases h₁ : t.feedLines text.lines with ⟨t₁, r₁⟩
    obtain ⟨s₂, k, hs₂, hd₂, hleft, hk, hle, hall, hspans⟩ :=
      feedSource_covers source ht hd hline hc h₁ input' log'
    have hlength : (source.lines text).length = text.lines.length := length_sourceLines source text
    rw [List.map_append, text_sourceLines] at hfeed
    rw [Feeding.feedAll]
    simp only [hread']
    cases r₁ with
    | ok _ =>
      obtain rfl := hall rfl
      rw [ht.feedLines_append h₁] at hfeed
      rw [← hlength, List.take_length] at hspans
      obtain ⟨ht₁, -, -⟩ := ht.feedLines h₁
      have hnext : t₁.line = (fed ++ source.lines text).length := by
        rw [hk, List.length_append, hlength]
      obtain ⟨g, hg, hdg, hcg⟩ := ih (f := ⟨s₂, _⟩) ht₁ hd₂ hnext hspans (hleft ▸ hmore) hfeed
      refine ⟨g, ?_, hdg, by rwa [← List.append_assoc]⟩
      have hquit : s₂.quit = false := (ht₁.dressed hd₂).quit
      simp only [hs₂, hquit, Bool.false_eq_true, if_false]
      exact hg
    | error e =>
      rw [Session.feedLines_refused h₁] at hfeed
      cases hfeed
      refine ⟨_, by simp only [hs₂]; rfl, hd₂, ?_⟩
      rwa [hk, List.take_length_add_append, List.take_append_of_le_length (by omega)]

-- ---------------------------------------------------------------------------
-- Batch runs
-- ---------------------------------------------------------------------------

/-- What a batch run starts from: a session that has taken no line and owns the input. -/
structure Started (input : Input) (s : Session) : Prop where
  batch : Batch s
  reachable : Reachable (fun _ => False) true s
  idle : s.machine.calls = []
  program : s.program = .empty
  line : s.line = 0
  depth : s.depth = 0
  input : s.machine.input = input

theorem Started.feeds {input : Input} {s : Session} (h : Started input s) {files : Files}
    {sources : List Source} {lines : List SourceLine}
    (hl : readSources files input sources = some lines) {t : Session} {r : Except Error Unit}
    (hf : s.feedLines (lines.map SourceLine.text) = (t, r)) :
    ∃ g, Feeding.feedAll files { session := s } sources = (g, refusal? r) ∧ Dressed t g.session ∧
      Covers g.spans (lines.take t.line) := by
  rw [← h.input] at hl
  have hfed : s.line = ([] : List SourceLine).length := h.line
  exact feedAll_covers (f := { session := s }) h.batch ⟨_, _, rfl⟩ hfed covers_nil hl hf

theorem Started.line_feedLines {input : Input} {s s₁ : Session} (h : Started input s)
    {lines : List SourceLine} (hf : s.feedLines (lines.map SourceLine.text) = (s₁, .ok ())) :
    s₁.line = lines.length := by
  rcases h.batch.line_feedLines hf with ⟨-, hline⟩ | ⟨_, hr, -⟩
  · rw [hline, h.line, List.length_map, Nat.zero_add]
  · cases hr

theorem Started.takes {input : Input} {s s₁ : Session} (h : Started input s) {files : Files}
    {sources : List Source} {lines : List SourceLine}
    (hl : readSources files input sources = some lines)
    (hf : s.feedLines (lines.map SourceLine.text) = (s₁, .ok ())) :
    ∃ g, Feeding.feedAll files { session := s } sources = (g, none) ∧ Dressed s₁ g.session ∧
      Covers g.spans lines := by
  obtain ⟨g, hg, hdressed, hcovers⟩ := h.feeds hl hf
  rw [h.line_feedLines hf, List.take_length] at hcovers
  exact ⟨g, hg, hdressed, hcovers⟩

section
variable {r : Run} {sources : List Source} {s s₁ s₂ : Session} {f : Feeding} {l : SourceLine}
  {lines : List SourceLine} {e : Error}
  (hs : r.newSession false ((sources.head?.map (·.origin.path)).getD .empty) = .ok s)
  (hl : readSources r.surroundings.files r.surroundings.input sources = some lines)

include hs

include hl

end

/-- A source has a name, or it is that of an empty path and has no text either. -/
def Source.Named (source : Source) : Prop := source.name.isEmpty → source = .ofPath .empty

section
variable {o o' : Options} {texts : ℕ} {flag : Text}

theorem named_ofPath (path : Text) : (Source.ofPath path).Named := by
  intro h
  have h : path.bytes.isEmpty = true := h
  obtain ⟨bytes⟩ := path
  obtain rfl : bytes = [] := List.isEmpty_iff.mp h
  rfl

theorem named_ofText (n : ℕ) (text : Text) : (Source.ofText n text).Named := nofun

theorem Options.named_addSource {source : Source} (ho : ∀ source ∈ o.sources, source.Named)
    (hs : source.Named) : ∀ other ∈ (o.addSource source).sources, other.Named := by
  intro other hm
  rcases List.mem_append.mp hm with hm | hm
  · exact ho other hm
  · rwa [List.mem_singleton.mp hm]

theorem Options.sources_switch? (h : o.switch? flag = some o') : o'.sources = o.sources := by
  rw [switch?] at h
  grind

theorem Options.named_setting? {assign : Text → Options × ℕ}
    (ho : ∀ source ∈ o.sources, source.Named) (h : o.setting? texts flag = some assign)
    (value : Text) : ∀ source ∈ (assign value).1.sources, source.Named := by
  unfold setting? at h
  repeat' split at h
  · cases h
    exact ho
  · cases h
    exact named_addSource ho (named_ofText _ _)
  · cases h
    exact named_addSource ho (named_ofPath _)
  · cases h

theorem Options.named_addPaths (ho : ∀ source ∈ o.sources, source.Named) (paths : List Text) :
    ∀ source ∈ (paths.foldl addPath o).sources, source.Named := by
  induction paths generalizing o with
  | nil => exact ho
  | cons path rest ih =>
    exact ih (named_addSource ho (named_ofPath path))

theorem Options.named_parseFrom {args : List Text} (ho : ∀ source ∈ o.sources, source.Named)
    (h : o.parseFrom texts args = .ok o') : ∀ source ∈ o'.sources, source.Named := by
  fun_induction parseFrom o texts args with
  | case1 =>
    cases h
    exact ho
  | case2 texts o arg rest o₁ hswitch ih =>
    refine ih ?_ h
    rwa [Options.sources_switch? hswitch]
  | case3 => cases h
  | case4 o texts arg hswitch assign hsetting value rest ih =>
    exact ih (Options.named_setting? ho hsetting value) h
  | case5 o texts rest => 
    cases h
    exact Options.named_addPaths ho _
  | case6 => cases h
  | case7 o texts arg rest _ _ _ _ ih => exact ih (Options.named_addSource ho (named_ofPath _)) h

/-- The arguments of the command name every source, but for empty paths. -/
theorem named_of_parse {args : List Text} (h : Options.parse args = .ok o) :
    ∀ source ∈ o.sources, source.Named := Options.named_parseFrom (by nofun) h

end

end CommandLine
end Birl
