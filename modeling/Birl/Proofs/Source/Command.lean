import Birl.Command.Parse
import Birl.Proofs.Source.Expression

/-!
# Commands written and read

The canonical text of a command is read as the tokens of its phrase and of what follows it
(`spells_command`), and from these tokens the command is parsed (`ofTokens_said`). What is
parsed from a line is such a command (`readable_ofTokens`), so rendering is inverse to
reading (`ofLine_render`).
-/

namespace Birl

-- ---------------------------------------------------------------------------
-- Commands and their tokens
-- ---------------------------------------------------------------------------

def Said.word (w : Text) : Said := ⟨.word, w⟩

def Kind.words : Kind → List Text
  | integer => ["MONSTRO"]
  | number => ["TRAPÉZIO", "DESCENDENTE"]
  | text => ["FRANGO"]

structure Parameter.Readable (p : Parameter) (kind : Kind) : Prop where
  kind : p.kind = kind.keyword
  name : p.name.IsWord

def Parameter.said (p : Parameter) : List Said :=
  (((Kind.ofKeyword? p.kind).elim [] Kind.words) ++ [p.name]).map Said.word

def parametersSaid : List Parameter → List Said
  | [] => []
  | p :: ps =>
    { kind := .openParen } :: (p.said ++ ps.flatMap fun p => { kind := .comma } :: p.said) ++
      [{ kind := .closeParen }]

def valuesSaid : List Expression → List Said
  | [] => []
  | e :: es => { kind := .colon } :: (e.said ++ argumentsSaid es)

def Command.tailSaid (c : Command) : List Said :=
  match c.kind with
  | .functionStart => .word c.name :: parametersSaid c.params
  | .declare | .set | .call | .input _ | .convert _ =>
    { kind := .colon } :: .word c.name :: argumentsSaid c.args
  | _ => valuesSaid c.args

def Command.said (c : Command) : List Said := c.kind.phrase.map Said.word ++ c.tailSaid

/-- What a command of its kind holds besides the expressions. -/
def Command.Fits (c : Command) : Prop :=
  match c.kind with
  | .executeIf _ | .endBlock | .functionEnd | .quit => c = { kind := c.kind }
  | .print | .printLine | .printDebug | .returnValue | .compare =>
    c = { kind := c.kind, args := c.args }
  | .declare | .set | .call => c.name.IsWord ∧ c.params = []
  | .functionStart => c.name.IsWord ∧ c.args = [] ∧ ∀ p ∈ c.params, ∃ kind, p.Readable kind
  | .input _ | .convert _ => c.name.IsWord ∧ c.args = [] ∧ c.params = []
  | .unknown _ => False

structure Command.Readable (c : Command) : Prop where
  kind : c.kind ∈ CommandKind.all
  args : ∀ e ∈ c.args, Expression.Readable e
  fits : c.Fits

-- ---------------------------------------------------------------------------
-- Words
-- ---------------------------------------------------------------------------

def Text.spelledAsWord (w : Text) : Bool :=
  w = .ofChars w.chars && w.chars.head?.any Scan.isWordStart && w.chars.all Scan.isWordPart

theorem isWord_of_spelled {w : Text} (h : w.spelledAsWord = true) : w.IsWord := by
  simp only [Text.spelledAsWord, Bool.and_eq_true, decide_eq_true_eq, List.all_eq_true] at h
  obtain ⟨⟨hw, hstart⟩, hparts⟩ := h
  cases hcs : w.chars with
  | nil =>
    rw [hcs] at hstart
    cases hstart
  | cons c cs =>
    rw [hcs] at hw hstart hparts
    refine ⟨.ofChar c, cs.map Rune.ofChar, ?_, hstart, ?_, Text.whole_map_ofChar (c :: cs)⟩
    · rw [hw, Text.ofChars_eq_ofRunes]
      rfl
    · simpa [Rune.ofChar] using fun x hx => hparts x (List.mem_cons_of_mem _ hx)

theorem isWord_phrase {kind : CommandKind} (h : kind ∈ CommandKind.all) :
    ∀ w ∈ kind.phrase, w.IsWord := by
  have hall : ∀ kind ∈ CommandKind.all, ∀ w ∈ kind.phrase, w.spelledAsWord = true := by
    decide +kernel
  exact fun w hw => isWord_of_spelled (hall kind h w hw)

theorem isWord_kind (kind : Kind) : ∀ w ∈ kind.words, w.IsWord := by
  have hall : ∀ w ∈ kind.words, w.spelledAsWord = true := by
    cases kind <;> decide +kernel
  exact fun w hw => isWord_of_spelled (hall w hw)

theorem ofKeyword?_keyword (kind : Kind) : Kind.ofKeyword? kind.keyword = some kind := by
  cases kind <;> decide +kernel

-- ---------------------------------------------------------------------------
-- The text of a command
-- ---------------------------------------------------------------------------

section
variable {rest : Text}

theorem Text.concat_cons (t : Text) (ts : List Text) :
    Text.concat (t :: ts) = t ++ Text.concat ts := rfl

theorem Text.join_cons (sep t : Text) (ts : List Text) :
    Text.join sep (t :: ts) = t ++ Text.concat (ts.map (sep ++ ·)) := by
  induction ts generalizing t with
  | nil => exact (Text.append_empty t).symm
  | cons t' ts ih =>
    rw [Text.join.eq_def]
    simp only [ih]
    rw [List.map_cons, Text.concat_cons, Text.append_assoc, Text.append_assoc]

theorem spells_concat {α : Type} {w : α → Text} {s : α → List Said} {xs : List α}
    (hx : ∀ x ∈ xs, ∀ rest, Breaks rest → Spells (w x) (s x) rest)
    (hw : ∀ x rest, Breaks (w x ++ rest)) (hs : Breaks rest) :
    Spells (Text.concat (xs.map w)) (xs.flatMap s) rest ∧
      Breaks (Text.concat (xs.map w) ++ rest) := by
  induction xs with
  | nil => exact ⟨spells_empty rest, hs⟩
  | cons x xs ih =>
    obtain ⟨hfirst, hxs⟩ := List.forall_mem_cons.mp hx
    obtain ⟨hspells, hbreaks⟩ := ih hxs
    rw [List.map_cons, Text.concat_cons]
    refine ⟨(hfirst _ hbreaks).append hspells, ?_⟩
    rw [Text.append_assoc]
    exact hw x _

theorem spells_words {ws : List Text} (h : ∀ w ∈ ws, w.IsWord) (hs : Breaks rest) :
    Spells (Text.join " " ws) (ws.map Said.word) rest := by
  cases ws with
  | nil => exact spells_empty rest
  | cons w ws =>
    obtain ⟨hw, hws⟩ := List.forall_mem_cons.mp h
    obtain ⟨hspells, hbreaks⟩ := spells_concat (w := fun w => " " ++ w)
      (s := fun w => [Said.word w])
      (fun w hw rest hs => (spells_blank _).append (spells_word (hws w hw) hs))
      (fun w rest => by rw [Text.append_assoc]; exact breaks_blank _) hs
    have hsaid : ws.flatMap (fun w => [Said.word w]) = ws.map Said.word := by
      rw [List.map_eq_flatMap]
    rw [hsaid] at hspells
    rw [Text.join_cons]
    exact (spells_word hw hbreaks).append hspells

theorem spells_colon (rest : Text) : Spells ": " [{ kind := .colon }] rest :=
  (spells_sign (c := ':') rfl _).append (spells_blank rest)

theorem breaks_colon (rest : Text) : Breaks (": " ++ rest) :=
  breaks_char (by decide) (by decide) [' '] rest

theorem spells_comma (rest : Text) : Spells ", " [{ kind := .comma }] rest :=
  (spells_sign (c := ',') rfl _).append (spells_blank rest)

theorem breaks_comma (t rest : Text) : Breaks (", " ++ t ++ rest) := by
  rw [Text.append_assoc]
  exact breaks_char (by decide) (by decide) [' '] _

theorem spells_arguments {es : List Expression} (h : ∀ e ∈ es, Expression.Readable e)
    (hs : Breaks rest) :
    Spells (Text.concat (es.map fun e => ", " ++ Render.expression e)) (argumentsSaid es) rest ∧
      Breaks (Text.concat (es.map fun e => ", " ++ Render.expression e) ++ rest) :=
  spells_concat
    (fun e he _ hs => (spells_comma _).append (spells_expression (h e he).nodes hs))
    (fun _ _ => breaks_comma _ _) hs

theorem spells_values {es : List Expression} (h : ∀ e ∈ es, Expression.Readable e)
    (hne : es ≠ []) (hs : Breaks rest) :
    Spells (": " ++ Text.join ", " (es.map Render.expression)) (valuesSaid es) rest := by
  cases es with
  | nil => exact absurd rfl hne
  | cons e es =>
    obtain ⟨he, hes⟩ := List.forall_mem_cons.mp h
    obtain ⟨hspells, hbreaks⟩ := spells_arguments hes hs
    rw [List.map_cons, Text.join_cons, List.map_map]
    exact (spells_colon _).append ((spells_expression he.nodes hbreaks).append hspells)

theorem spells_parameter {p : Parameter} {kind : Kind} (h : p.Readable kind) (hs : Breaks rest) :
    Spells (Render.parameterKind p.kind ++ " " ++ p.name) p.said rest := by
  have hwritten : Render.parameterKind p.kind ++ " " ++ p.name =
      Text.join " " (kind.words ++ [p.name]) := by
    rw [h.kind, Render.parameterKind, ofKeyword?_keyword]
    cases kind <;> rfl
  rw [hwritten, Parameter.said, h.kind, ofKeyword?_keyword]
  refine spells_words ?_ hs
  intro w hw
  rcases List.mem_append.mp hw with hw | hw
  · exact isWord_kind kind w hw
  · rw [List.mem_singleton.mp hw]
    exact h.name

theorem spells_parameters {ps : List Parameter} (h : ∀ p ∈ ps, ∃ kind, p.Readable kind)
    (hs : Breaks rest) :
    Spells (Render.parameters ps) (parametersSaid ps) rest ∧
      Breaks (Render.parameters ps ++ rest) := by
  cases ps with
  | nil => exact ⟨spells_empty rest, hs⟩
  | cons p ps =>
    obtain ⟨⟨kind, hp⟩, hps⟩ := List.forall_mem_cons.mp h
    have hclose : Breaks (.ofChars [')'] ++ rest) := breaks_char (by decide) (by decide) [] rest
    obtain ⟨hspells, hbreaks⟩ := spells_concat
      (w := fun p : Parameter => ", " ++ (Render.parameterKind p.kind ++ " " ++ p.name))
      (s := fun p => { kind := .comma } :: p.said)
      (fun p hp rest hs => by
        obtain ⟨kind, hp⟩ := hps p hp
        exact (spells_comma _).append (spells_parameter hp hs))
      (fun _ _ => breaks_comma _ _) hclose
    have hlist : Spells
        (Text.join ", " ((p :: ps).map fun p => Render.parameterKind p.kind ++ " " ++ p.name))
        (p.said ++ ps.flatMap fun p => { kind := .comma } :: p.said) (.ofChars [')'] ++ rest) := by
      rw [List.map_cons, Text.join_cons, List.map_map]
      exact (spells_parameter hp hbreaks).append hspells
    constructor
    · exact (((spells_blank _).append (spells_sign (c := '(') rfl _)).append hlist).append
        (spells_sign (c := ')') rfl rest)
    · exact breaks_blank _

theorem spells_named {ws : List Text} {name : Text} {es : List Expression}
    (hw : ∀ w ∈ ws, w.IsWord) (hn : name.IsWord) (he : ∀ e ∈ es, Expression.Readable e)
    (hs : Breaks rest) :
    Spells (Text.join " " ws ++ ": " ++ name ++
        Text.concat (es.map fun e => ", " ++ Render.expression e))
      (ws.map Said.word ++ { kind := .colon } :: .word name :: argumentsSaid es) rest := by
  obtain ⟨hspells, hbreaks⟩ := spells_arguments he hs
  have hall := (((spells_words hw (breaks_colon _)).append (spells_colon _)).append
    (spells_word hn hbreaks)).append hspells
  simpa [Said.word] using hall

theorem spells_phrase {ws : List Text} {es : List Expression} (hw : ∀ w ∈ ws, w.IsWord)
    (he : ∀ e ∈ es, Expression.Readable e) (hs : Breaks rest) :
    Spells (if es.isEmpty then Text.join " " ws
        else Text.join " " ws ++ ": " ++ Text.join ", " (es.map Render.expression))
      (ws.map Said.word ++ valuesSaid es) rest := by
  cases es with
  | nil => simpa [valuesSaid] using spells_words hw hs
  | cons e es =>
    rw [if_neg (by simp), Text.append_assoc]
    refine (spells_words hw ?_).append (spells_values he (by simp) hs)
    rw [Text.append_assoc]
    exact breaks_colon _

theorem spells_header {ws : List Text} {name : Text} {ps : List Parameter}
    (hw : ∀ w ∈ ws, w.IsWord) (hn : name.IsWord) (hp : ∀ p ∈ ps, ∃ kind, p.Readable kind)
    (hs : Breaks rest) :
    Spells (Text.join " " ws ++ " " ++ name ++ Render.parameters ps)
      (ws.map Said.word ++ .word name :: parametersSaid ps) rest := by
  obtain ⟨hspells, hbreaks⟩ := spells_parameters hp hs
  have hall := (((spells_words hw (breaks_blank _)).append (spells_blank _)).append
    (spells_word hn hbreaks)).append hspells
  simpa [Said.word] using hall

theorem spells_command {c : Command} (h : c.Readable) (hs : Breaks rest) :
    Spells c.render c.said rest := by
  have hw := isWord_phrase h.kind
  have hfits := h.fits
  have hargs := h.args
  obtain ⟨kind, name, args, params⟩ := c
  cases kind with
  | functionStart => exact spells_header hw hfits.1 hfits.2.2 hs
  | declare | set | call | input | convert => exact spells_named hw hfits.1 hargs hs
  | unknown => exact hfits.elim
  | _ => exact spells_phrase hw hargs hs

end

-- ---------------------------------------------------------------------------
-- Tokens parsed as a command
-- ---------------------------------------------------------------------------

namespace Parse

theorem expectName_said {t : Token} {w : Text} (h : t.said = .word w) (rest : List Token) :
    expectName (t :: rest) = .ok (w, rest) := by
  obtain ⟨hkind, hlexeme⟩ := Token.word_of_said h
  simp [expectName, expect, hkind, hlexeme, TokenKind.isWord, Except.map]

theorem expectKind_said {t : Token} {kind : TokenKind} {spelling : Text}
    (h : t.said = ⟨kind, spelling⟩) (what : Text) (rest : List Token) :
    expectKind kind what (t :: rest) = .ok rest := by
  have hkind : t.kind = kind := Token.kind_of_said h
  simp [expectKind, expect, hkind, Except.map]

def Tail.command (tail : Tail) (kind : CommandKind) : Command :=
  { kind, name := tail.name, args := tail.args.map fun nodes => nodes.map PlacedNode.node,
    params := tail.params }

theorem optionalArguments_said {es : List Expression} {tokens : List Token}
    (h : ∀ e ∈ es, Expression.Readable e) (ht : tokens.map Token.said = valuesSaid es)
    (kind : CommandKind) :
    ∃ tail, optionalArguments tokens = .ok tail ∧ tail.command kind = { kind, args := es } := by
  cases es with
  | nil =>
    have htokens : tokens = [] := List.map_eq_nil_iff.mp ht
    exact ⟨{}, by rw [htokens]; rfl, rfl⟩
  | cons e es =>
    obtain ⟨colon, rest, rfl, hcolon, hrest⟩ := tokens_cons ht
    obtain ⟨placed, hplaced, hnodes⟩ := expressions_said h hrest
    refine ⟨{ args := placed }, ?_, by simp [Tail.command, hnodes]⟩
    rw [optionalArguments, if_neg (by simp)]
    simp only [bind_ok, pure_ok]
    exact ⟨rest, expectKind_said hcolon _ _, placed, hplaced, rfl⟩

theorem namedArguments_said {name : Text} {es : List Expression} {tokens : List Token}
    (h : ∀ e ∈ es, Expression.Readable e)
    (ht : tokens.map Token.said = .word name :: argumentsSaid es) (kind : CommandKind) :
    ∃ tail, namedArguments tokens = .ok tail ∧ tail.command kind = { kind, name, args := es } := by
  obtain ⟨t, rest, rfl, ht, hrest⟩ := tokens_cons ht
  simp only [namedArguments, expectName_said ht, bind_ok, Except.ok.injEq, exists_eq_left']
  cases es with
  | nil =>
    have htokens : rest = [] := List.map_eq_nil_iff.mp hrest
    rw [htokens]
    exact ⟨{ name }, rfl, rfl⟩
  | cons e es =>
    obtain ⟨comma, rest, rfl, hcomma, hrest⟩ := tokens_cons hrest
    obtain ⟨placed, hplaced, hnodes⟩ := expressions_said h hrest
    refine ⟨{ name, args := placed }, ?_, by simp [Tail.command, hnodes]⟩
    rw [if_neg (by simp)]
    simp only [bind_ok, pure_ok]
    exact ⟨rest, expectKind_said hcomma _ _, placed, hplaced, rfl⟩

theorem parameter_word (kind : Kind) {t : Token} {w name : Text} {rest rest' : List Token}
    (ht : t.said = .word w) (hk : Kind.ofKeyword? (Keyword.fold w) = some kind)
    (hn : expectName (if kind = .number then dropLongSpelling rest else rest) = .ok (name, rest')) :
    parameter (t :: rest) = .ok (⟨name, kind.keyword⟩, rest') := by
  obtain ⟨hkind, rfl⟩ := Token.word_of_said ht
  simp only [parameter, bind_ok]
  refine ⟨(t, rest), ?_, ?_⟩
  · simp [expect, hkind, TokenKind.isWord]
  · simp only [hk, bind_ok, pure_ok]
    exact ⟨(name, rest'), hn, rfl⟩

theorem dropLongSpelling_said {t t' : Token} {w : Text} (ht : t.said = .word "DESCENDENTE")
    (ht' : t'.said = .word w) (rest : List Token) :
    dropLongSpelling (t :: t' :: rest) = t' :: rest := by
  have hfold : Keyword.fold "DESCENDENTE" = "DESCENDENTE" := by decide +kernel
  obtain ⟨kind, lexeme, column⟩ := t
  obtain ⟨kind', lexeme', column'⟩ := t'
  obtain ⟨rfl, rfl⟩ := Token.word_of_said ht
  obtain ⟨rfl, rfl⟩ := Token.word_of_said ht'
  rw [dropLongSpelling, if_pos hfold]

theorem parameter_said {p : Parameter} {kind : Kind} (h : p.Readable kind) {tokens : List Token}
    {said : List Said} (ht : tokens.map Token.said = p.said ++ said) :
    ∃ rest, parameter tokens = .ok (p, rest) ∧ rest.map Token.said = said := by
  have hsaid : p.said = kind.words.map Said.word ++ [.word p.name] := by
    simp [Parameter.said, h.kind, ofKeyword?_keyword]
  have hp : p = ⟨p.name, kind.keyword⟩ := by
    cases p
    simpa using h.kind
  rw [hsaid, List.append_assoc] at ht
  cases kind with
  | integer =>
    obtain ⟨t, _, rfl, hword, hrest⟩ := tokens_cons ht
    obtain ⟨name, rest, rfl, hname, hrest⟩ := tokens_cons hrest
    refine ⟨rest, ?_, hrest⟩
    rw [parameter_word .integer hword (by decide +kernel) (expectName_said hname rest), ← hp]
  | number =>
    obtain ⟨t, _, rfl, hword, hrest⟩ := tokens_cons ht
    obtain ⟨long, _, rfl, hlong, hrest⟩ := tokens_cons hrest
    obtain ⟨name, rest, rfl, hname, hrest⟩ := tokens_cons hrest
    have hdrop := dropLongSpelling_said hlong hname rest
    refine ⟨rest, ?_, hrest⟩
    rw [parameter_word .number hword (by decide +kernel)
      (by rw [if_pos rfl, hdrop]; exact expectName_said hname rest), ← hp]
  | text =>
    obtain ⟨t, _, rfl, hword, hrest⟩ := tokens_cons ht
    obtain ⟨name, rest, rfl, hname, hrest⟩ := tokens_cons hrest
    refine ⟨rest, ?_, hrest⟩
    rw [parameter_word .text hword (by decide +kernel) (expectName_said hname rest), ← hp]

theorem parameters_said {p : Parameter} {ps : List Parameter} {limit : ℕ} {tokens : List Token}
    (h : ∀ x ∈ p :: ps, ∃ kind, Parameter.Readable x kind) (hlimit : ps.length < limit)
    (ht : tokens.map Token.said = p.said ++ ps.flatMap (fun p => { kind := .comma } :: p.said) ++
      [{ kind := .closeParen }]) :
    parameters limit tokens = .ok (p :: ps, []) := by
  induction ps generalizing p limit tokens with
  | nil =>
    obtain ⟨limit, rfl⟩ := Nat.exists_eq_add_one_of_ne_zero (Nat.ne_of_gt hlimit)
    obtain ⟨kind, hp⟩ := h p (by simp)
    rw [List.flatMap_nil, List.append_nil] at ht
    obtain ⟨rest, hparameter, hrest⟩ := parameter_said hp ht
    obtain ⟨close, rest, rfl, hclose, hrest⟩ := tokens_cons hrest
    have hkind : close.kind = .closeParen := Token.kind_of_said hclose
    have hrest : rest = [] := List.map_eq_nil_iff.mp hrest
    simp only [parameters, bind_ok]
    refine ⟨_, hparameter, ?_⟩
    simp only [hkind, hrest]
    rfl
  | cons p' ps ih =>
    obtain ⟨limit, rfl⟩ := Nat.exists_eq_add_one_of_ne_zero (Nat.ne_zero_of_lt hlimit)
    obtain ⟨⟨kind, hp⟩, hps⟩ := List.forall_mem_cons.mp h
    rw [List.append_assoc] at ht
    obtain ⟨rest, hparameter, hrest⟩ := parameter_said hp ht
    rw [List.flatMap_cons, List.cons_append, List.cons_append] at hrest
    obtain ⟨comma, rest, rfl, hcomma, hrest⟩ := tokens_cons hrest
    have hkind : comma.kind = .comma := Token.kind_of_said hcomma
    have hmore := ih hps (Nat.lt_of_succ_lt_succ hlimit) hrest
    simp only [parameters, bind_ok]
    refine ⟨_, hparameter, ?_⟩
    simp only [hkind, hmore, bind_ok, pure_ok]
    exact ⟨_, rfl, rfl⟩

theorem length_parametersSaid (ps : List Parameter) :
    ps.length ≤ (ps.flatMap fun p => { kind := .comma } :: p.said).length := by
  induction ps with
  | nil => simp
  | cons p ps ih =>
    simp only [List.flatMap_cons, List.length_append, List.length_cons]
    omega

theorem functionHeader_said {name : Text} {ps : List Parameter} {tokens : List Token}
    (h : ∀ p ∈ ps, ∃ kind, Parameter.Readable p kind)
    (ht : tokens.map Token.said = .word name :: parametersSaid ps) (kind : CommandKind) :
    ∃ tail, functionHeader tokens = .ok tail ∧ tail.command kind = { kind, name, params := ps } := by
  obtain ⟨⟨k, lexeme, column⟩, rest, rfl, hname, hrest⟩ := tokens_cons ht
  obtain ⟨rfl, rfl⟩ := Token.word_of_said hname
  simp only [functionHeader, expectName_said hname, bind_ok, Except.ok.injEq, exists_eq_left']
  cases ps with
  | nil =>
    have htokens : rest = [] := List.map_eq_nil_iff.mp hrest
    rw [htokens]
    exact ⟨{ name := lexeme }, rfl, rfl⟩
  | cons p ps =>
    rw [parametersSaid, List.cons_append] at hrest
    obtain ⟨opening, list, rfl, hopening, hlist⟩ := tokens_cons hrest
    have hlimit : ps.length < list.length + 1 := by
      have hlength := congrArg List.length hlist
      have := length_parametersSaid ps
      simp only [List.length_map, List.length_append] at hlength
      omega
    have hparameters := parameters_said h hlimit hlist
    refine ⟨{ name := lexeme, params := p :: ps }, ?_, rfl⟩
    rw [if_neg (by simp)]
    simp only [bind_ok]
    refine ⟨list, expectKind_said hopening _ _, ?_⟩
    split
    · -- A parameter list does not start with its closing parenthesis.
      rename_i column rest
      obtain ⟨w, more, hfirst⟩ : ∃ w more, p.said = Said.word w :: more := by
        unfold Parameter.said
        cases (Kind.ofKeyword? p.kind).elim [] Kind.words <;> exact ⟨_, _, rfl⟩
      rw [hfirst] at hlist
      cases hlist
    · simp only [hparameters, bind_ok, pure_ok]
      exact ⟨_, rfl, (), rfl, rfl⟩

end Parse

-- ---------------------------------------------------------------------------
-- Phrases
-- ---------------------------------------------------------------------------

theorem leadingWords_said {ws : List Text} {first second : List Token}
    (h : first.map Token.said = ws.map Said.word) :
    Phrase.leadingWords (first ++ second) = ws.map Keyword.fold ++ Phrase.leadingWords second := by
  induction ws generalizing first with
  | nil =>
    rw [List.map_eq_nil_iff.mp h]
    rfl
  | cons w ws ih =>
    obtain ⟨t, more, rfl, ht, hmore⟩ := tokens_cons h
    obtain ⟨hkind, hlexeme⟩ := Token.word_of_said ht
    have ih := ih hmore
    simp only [Phrase.leadingWords, List.cons_append, List.map_cons] at ih ⊢
    rw [List.takeWhile_cons_of_pos (by rw [hkind]; rfl), List.map_cons, ih, hlexeme]

theorem longest?_phrase {kind : CommandKind} (h : kind ∈ CommandKind.all) :
    Phrase.longest? (kind.phrase.map Keyword.fold) none Phrase.table =
      some (kind, kind.phrase.length) := by
  have hall : ∀ kind ∈ CommandKind.all,
      Phrase.longest? (kind.phrase.map Keyword.fold) none Phrase.table =
        some (kind, kind.phrase.length) := by
    decide +kernel
  exact hall kind h

theorem longest?_congr {words words' : List Text} {table : List (CommandKind × List Text)}
    (h : ∀ entry ∈ table, entry.2.isPrefixOf words = entry.2.isPrefixOf words')
    (best : Option (CommandKind × ℕ)) :
    Phrase.longest? words best table = Phrase.longest? words' best table := by
  induction table generalizing best with
  | nil => rfl
  | cons entry table ih =>
    obtain ⟨hentry, htable⟩ := List.forall_mem_cons.mp h
    simp only [Phrase.longest?, hentry, ih htable]

theorem longest?_header (w : Text) :
    Phrase.longest? (CommandKind.functionStart.phrase.map Keyword.fold ++ [w]) none Phrase.table =
      some (.functionStart, 1) := by
  have hshort : ∀ entry ∈ Phrase.table, entry.2.length ≤ 1 ∨
      entry.2.head? ≠ some (Keyword.fold "JAULA") := by
    decide +kernel
  have hprefix (entry) (hentry : entry ∈ Phrase.table) :
      entry.2.isPrefixOf [Keyword.fold "JAULA", w] = entry.2.isPrefixOf [Keyword.fold "JAULA"] := by
    have hshort := hshort entry hentry
    match hphrase : entry.2 with
    | [] => rfl
    | [word] => simp [List.isPrefixOf]
    | word :: second :: more =>
      rw [hphrase] at hshort
      have hne : word ≠ Keyword.fold "JAULA" := by simpa using hshort
      simp [List.isPrefixOf, hne]
  exact (longest?_congr hprefix none).trans
    (longest?_phrase (show CommandKind.functionStart ∈ CommandKind.all by decide))

/-- After the phrase of a command a colon follows, or the name of a function, or nothing. -/
theorem match?_said {c : Command} (h : c.Readable) {first second : List Token}
    (hfirst : first.map Token.said = c.kind.phrase.map Said.word)
    (hsecond : second.map Token.said = c.tailSaid) :
    Phrase.match? (first ++ second) = some (c.kind, first.length) := by
  have hlength : first.length = c.kind.phrase.length := by
    simpa using congrArg List.length hfirst
  have hcolon {said : List Said} (hs : second.map Token.said = { kind := .colon } :: said) :
      Phrase.leadingWords second = [] := by
    obtain ⟨t, rest, rfl, ht, -⟩ := tokens_cons hs
    have hkind : t.kind = .colon := Token.kind_of_said ht
    simp [Phrase.leadingWords, hkind, TokenKind.isWord]
  have hvalues {es : List Expression} (hs : second.map Token.said = valuesSaid es) :
      Phrase.leadingWords second = [] := by
    cases es with
    | nil =>
      rw [List.map_eq_nil_iff.mp hs]
      rfl
    | cons e es => exact hcolon hs
  have hquiet (hs : Phrase.leadingWords second = []) :
      Phrase.match? (first ++ second) = some (c.kind, first.length) := by
    rw [Phrase.match?, leadingWords_said hfirst, hs, List.append_nil, longest?_phrase h.kind, hlength]
  have hfits := h.fits
  obtain ⟨kind, name, args, params⟩ := c
  cases kind with
  | functionStart =>
    obtain ⟨t, rest, rfl, ht, hrest⟩ := tokens_cons hsecond
    obtain ⟨hkind, -⟩ := Token.word_of_said ht
    have hwords : Phrase.leadingWords (t :: rest) = [Keyword.fold t.lexeme] := by
      cases params with
      | nil =>
        rw [List.map_eq_nil_iff.mp hrest]
        simp [Phrase.leadingWords, hkind, TokenKind.isWord]
      | cons p ps =>
        obtain ⟨opening, more, rfl, hopening, -⟩ := tokens_cons hrest
        have hkind' : opening.kind = .openParen := Token.kind_of_said hopening
        simp [Phrase.leadingWords, hkind, hkind', TokenKind.isWord]
    rw [Phrase.match?, leadingWords_said hfirst, hwords, longest?_header, hlength]
    rfl
  | declare | set | call | input | convert => exact hquiet (hcolon hsecond)
  | unknown => exact hfits.elim
  | _ => exact hquiet (hvalues hsecond)

theorem assignment_said {name : Text} {es : List Expression} {tokens : List Token}
    (h : ∀ e ∈ es, Expression.Readable e)
    (ht : tokens.map Token.said = { kind := .colon } :: .word name :: argumentsSaid es)
    (first : Token) (kind : CommandKind) :
    (∃ tail, Parse.assignment first tokens = .ok tail ∧
      tail.command kind = { kind, name, args := es }) ∧
    ∃ tail, Parse.invocation tokens = .ok tail ∧
      tail.command kind = { kind, name, args := es } := by
  obtain ⟨⟨k, lexeme, column⟩, rest, rfl, hcolon, hrest⟩ := tokens_cons ht
  obtain ⟨tail, htail, hcommand⟩ := Parse.namedArguments_said h hrest kind
  have hkind : k = .colon := Token.kind_of_said hcolon
  subst hkind
  constructor
  · refine ⟨tail, ?_, hcommand⟩
    simp only [Parse.assignment, bind_ok]
    exact ⟨rest, Parse.expectKind_said hcolon _ _, htail⟩
  · refine ⟨tail, ?_, hcommand⟩
    simp only [Parse.invocation, bind_ok]
    exact ⟨rest, Parse.expectKind_said hcolon _ _, htail⟩

theorem target_said {name : Text} {tokens : List Token}
    (ht : tokens.map Token.said = [{ kind := .colon }, .word name]) (kind : CommandKind) :
    ∃ tail, Parse.target tokens = .ok tail ∧ tail.command kind = { kind, name } := by
  obtain ⟨colon, rest, rfl, hcolon, hrest⟩ := tokens_cons ht
  obtain ⟨t, rest, rfl, hname, hrest⟩ := tokens_cons hrest
  have hrest : rest = [] := List.map_eq_nil_iff.mp hrest
  refine ⟨{ name }, ?_, rfl⟩
  simp only [Parse.target, bind_ok]
  refine ⟨_, Parse.expectKind_said hcolon _ _, _, Parse.expectName_said hname _, ?_⟩
  rw [hrest]
  exact ⟨(), rfl, rfl⟩

theorem tail_said {c : Command} (h : c.Readable) {tokens : List Token}
    (ht : tokens.map Token.said = c.tailSaid) (first : Token) :
    ∃ tail, Parse.tail c.kind first tokens = .ok tail ∧ tail.command c.kind = c := by
  have hfits := h.fits
  have hargs := h.args
  obtain ⟨kind, name, args, params⟩ := c
  cases kind with
  | executeIf | endBlock | functionEnd | quit =>
    cases hfits
    have htokens : tokens = [] := List.map_eq_nil_iff.mp ht
    exact ⟨{}, by rw [htokens]; rfl, rfl⟩
  | print | printLine | printDebug | returnValue | compare =>
    cases hfits
    exact Parse.optionalArguments_said hargs ht _
  | declare | set =>
    obtain ⟨-, rfl⟩ := hfits
    exact (assignment_said hargs ht first _).1
  | call =>
    obtain ⟨-, rfl⟩ := hfits
    exact (assignment_said hargs ht first _).2
  | functionStart =>
    obtain ⟨-, rfl, hparams⟩ := hfits
    exact Parse.functionHeader_said hparams ht _
  | input | convert =>
    obtain ⟨-, rfl, rfl⟩ := hfits
    exact target_said ht _
  | unknown => exact hfits.elim

/-- From the tokens of a command the command is parsed. -/
theorem ofTokens_said {c : Command} (h : c.Readable) {tokens : List Token}
    (ht : tokens.map Token.said = c.said) :
    ∃ parsed, ParsedCommand.ofTokens tokens = .ok (some parsed) ∧ parsed.command = c := by
  obtain ⟨phrase, rest, rfl, hphrase, hrest⟩ := tokens_append ht
  have hmatch := match?_said h hphrase hrest
  have hne : phrase ++ rest ≠ [] := by
    intro hnil
    rw [hnil] at hmatch
    cases hmatch
  obtain ⟨first, more, hcons⟩ := List.exists_cons_of_ne_nil hne
  obtain ⟨tail, htail, hcommand⟩ := tail_said h hrest first
  refine ⟨⟨tail.command c.kind, tail.args.map fun nodes => nodes.map fun n => n.token.column⟩, ?_,
    hcommand⟩
  have hdrop : (first :: more).drop phrase.length = rest := by
    rw [← hcons, List.drop_left]
  rw [hcons] at hmatch ⊢
  simp only [ParsedCommand.ofTokens, hmatch, hdrop, bind_ok, pure_ok]
  exact ⟨tail, htail, rfl⟩

/-- A text that is read as the tokens of a command, with nothing but a comment after it, says the
command. -/
theorem ofLine_said {c : Command} (h : c.Readable) {t rest : Text} (ht : Spells t c.said rest)
    (hs : Silent rest) :
    ∃ parsed, ParsedCommand.ofLine (t ++ rest) = .ok (some parsed) ∧ parsed.command = c := by
  obtain ⟨tokens, htokens, hsaid⟩ := ht.tokenize hs
  obtain ⟨parsed, hparsed, hcommand⟩ := ofTokens_said h hsaid
  refine ⟨parsed, ?_, hcommand⟩
  simp only [ParsedCommand.ofLine, bind_ok]
  exact ⟨tokens, htokens, hparsed⟩

-- ---------------------------------------------------------------------------
-- What parsing gives
-- ---------------------------------------------------------------------------

namespace Parse

section
variable {tokens : List Token}

theorem expect_ok {p : TokenKind → Bool} {what : Text} {t : Token} {rest : List Token}
    (h : expect p what tokens = .ok (t, rest)) : tokens = t :: rest ∧ p t.kind = true := by
  cases tokens with
  | nil => cases h
  | cons t' rest' =>
    rw [expect] at h
    split at h
    · rename_i hp
      cases h
      exact ⟨rfl, hp⟩
    · cases h

theorem expectKind_ok {kind : TokenKind} {what : Text} {rest : List Token}
    (h : expectKind kind what tokens = .ok rest) : rest ⊆ tokens := by
  obtain ⟨⟨t, rest⟩, hexpect, rfl⟩ := map_ok.mp h
  obtain ⟨rfl, -⟩ := expect_ok hexpect
  exact List.subset_cons_self t rest

def HasWord (tokens : List Token) (name : Text) : Prop :=
  ∃ t ∈ tokens, t.kind = .word ∧ t.lexeme = name

theorem HasWord.mono {rest : List Token} {name : Text} (h : HasWord rest name)
    (hs : rest ⊆ tokens) : HasWord tokens name := by
  obtain ⟨t, ht, hword⟩ := h
  exact ⟨t, hs ht, hword⟩

theorem HasWord.isWord {name : Text} (h : HasWord tokens name) (hr : ∀ t ∈ tokens, t.Read) :
    name.IsWord := by
  obtain ⟨t, ht, hkind, rfl⟩ := h
  simpa [Token.Read, hkind] using hr t ht

theorem expectName_ok {name : Text} {rest : List Token} (h : expectName tokens = .ok (name, rest)) :
    HasWord tokens name ∧ rest ⊆ tokens := by
  obtain ⟨⟨t, rest⟩, hexpect, heq⟩ := map_ok.mp h
  cases heq
  obtain ⟨rfl, hword⟩ := expect_ok hexpect
  have hkind : t.kind = .word := by
    cases hk : t.kind <;> simp_all [TokenKind.isWord]
  exact ⟨⟨t, List.mem_cons_self, hkind, rfl⟩, List.subset_cons_self t rest⟩

/-- The expressions are parsed from some of the tokens. -/
def Tail.ArgsFrom (tail : Tail) (tokens : List Token) : Prop :=
  tail.args = [] ∨ ∃ rest ⊆ tokens, expressions rest = .ok tail.args

theorem Tail.ArgsFrom.readable {tail : Tail} (h : tail.ArgsFrom tokens)
    (hr : ∀ t ∈ tokens, t.Read) :
    ∀ nodes ∈ tail.args, Expression.Readable (nodes.map PlacedNode.node) := by
  rcases h with hnone | ⟨rest, hs, hargs⟩
  · simp [hnone]
  · exact (readable_expressions (fun t ht => hr t (hs ht)) hargs).2

/-- A name and expressions that are parsed from some of the tokens. -/
structure Tail.Named (tail : Tail) (tokens : List Token) : Prop where
  args : tail.ArgsFrom tokens
  name : HasWord tokens tail.name
  params : tail.params = []

theorem Tail.Named.mono {tail : Tail} {rest : List Token} (h : tail.Named rest)
    (hs : rest ⊆ tokens) : tail.Named tokens := by
  refine ⟨h.args.imp_right ?_, h.name.mono hs, h.params⟩
  rintro ⟨piece, hpiece, hargs⟩
  exact ⟨piece, List.Subset.trans hpiece hs, hargs⟩

theorem optionalArguments_ok {tail : Tail} (h : optionalArguments tokens = .ok tail) :
    tail.ArgsFrom tokens ∧ tail.name = .empty ∧ tail.params = [] := by
  unfold optionalArguments at h
  split at h
  · cases h
    exact ⟨.inl rfl, rfl, rfl⟩
  · simp only [bind_ok, pure_ok] at h
    obtain ⟨rest, hrest, args, hargs, rfl⟩ := h
    exact ⟨.inr ⟨rest, expectKind_ok hrest, hargs⟩, rfl, rfl⟩

theorem namedArguments_ok {tail : Tail} (h : namedArguments tokens = .ok tail) :
    tail.Named tokens := by
  simp only [namedArguments, bind_ok] at h
  obtain ⟨⟨name, rest⟩, hname, h⟩ := h
  obtain ⟨hword, hs⟩ := expectName_ok hname
  dsimp only at h
  split at h
  · cases h
    exact ⟨.inl rfl, hword, rfl⟩
  · simp only [bind_ok, pure_ok] at h
    obtain ⟨rest, hrest, args, hargs, rfl⟩ := h
    exact ⟨.inr ⟨rest, List.Subset.trans (expectKind_ok hrest) hs, hargs⟩, hword, rfl⟩

theorem assignment_ok {first : Token} {tail : Tail} (h : assignment first tokens = .ok tail) :
    tail.Named tokens := by
  unfold assignment at h
  split at h
  · rename_i name column rest
    have hword : HasWord (⟨.word, name, column⟩ :: rest) name := ⟨_, List.mem_cons_self, rfl, rfl⟩
    split at h
    · cases h
      exact ⟨.inl rfl, hword, rfl⟩
    · simp only [bind_ok] at h
      obtain ⟨more, hmore, args, hargs, h⟩ := h
      split at h
      · cases h
      · cases h
        exact ⟨.inr ⟨more, List.subset_cons_of_subset _ (expectKind_ok hmore), hargs⟩, hword, rfl⟩
  · simp only [bind_ok] at h
    obtain ⟨rest, hrest, h⟩ := h
    exact (namedArguments_ok h).mono (expectKind_ok hrest)

theorem invocation_ok {tail : Tail} (h : invocation tokens = .ok tail) : tail.Named tokens := by
  simp only [invocation, bind_ok] at h
  obtain ⟨rest, hrest, h⟩ := h
  exact (namedArguments_ok h).mono (expectKind_ok hrest)

theorem target_ok {tail : Tail} (h : target tokens = .ok tail) :
    HasWord tokens tail.name ∧ tail.args = [] ∧ tail.params = [] := by
  simp only [target, bind_ok, pure_ok] at h
  obtain ⟨rest, hrest, ⟨name, rest'⟩, hname, _, -, rfl⟩ := h
  exact ⟨(expectName_ok hname).1.mono (expectKind_ok hrest), rfl, rfl⟩

theorem dropLongSpelling_subset (tokens : List Token) : dropLongSpelling tokens ⊆ tokens := by
  unfold dropLongSpelling
  split
  · split
    · exact List.subset_cons_self _ _
    · exact List.Subset.refl _
  · exact List.Subset.refl _

/-- The parameter has a kind, and one of the tokens is its name. -/
def HasParameter (tokens : List Token) (p : Parameter) : Prop :=
  ∃ kind : Kind, p.kind = kind.keyword ∧ HasWord tokens p.name

theorem HasParameter.mono {rest : List Token} {p : Parameter} (h : HasParameter rest p)
    (hs : rest ⊆ tokens) : HasParameter tokens p := by
  obtain ⟨kind, hkind, hword⟩ := h
  exact ⟨kind, hkind, hword.mono hs⟩

theorem parameter_ok {p : Parameter} {rest : List Token} (h : parameter tokens = .ok (p, rest)) :
    HasParameter tokens p ∧ rest ⊆ tokens := by
  simp only [parameter, bind_ok] at h
  obtain ⟨⟨t, rest⟩, hexpect, h⟩ := h
  obtain ⟨rfl, -⟩ := expect_ok hexpect
  dsimp only at h
  split at h
  · cases h
  · rename_i kind _
    simp only [bind_ok, pure_ok] at h
    obtain ⟨⟨name, more⟩, hname, h⟩ := h
    cases h
    have hs : (if kind = .number then dropLongSpelling rest else rest) ⊆ t :: rest := by
      refine List.subset_cons_of_subset t ?_
      split
      · exact dropLongSpelling_subset rest
      · exact List.Subset.refl _
    obtain ⟨hword, hmore⟩ := expectName_ok hname
    exact ⟨⟨kind, rfl, hword.mono hs⟩, List.Subset.trans hmore hs⟩

theorem parameters_ok {limit : ℕ} {ps : List Parameter} {rest : List Token}
    (h : parameters limit tokens = .ok (ps, rest)) : ∀ p ∈ ps, HasParameter tokens p := by
  induction limit generalizing tokens ps with
  | zero => cases h
  | succ limit ih =>
    simp only [parameters, bind_ok] at h
    obtain ⟨⟨p, more⟩, hparameter, h⟩ := h
    obtain ⟨hp, hmore⟩ := parameter_ok hparameter
    cases more with
    | nil => cases h
    | cons t more =>
      dsimp only at h
      split at h
      · cases h
        exact List.forall_mem_cons.mpr ⟨hp, List.forall_mem_nil _⟩
      · simp only [bind_ok, pure_ok] at h
        obtain ⟨⟨ps, rest⟩, hparameters, h⟩ := h
        cases h
        have hs : more ⊆ tokens := List.Subset.trans (List.subset_cons_self t more) hmore
        exact List.forall_mem_cons.mpr ⟨hp, fun p hp => (ih hparameters p hp).mono hs⟩
      · cases h

theorem functionHeader_ok {tail : Tail} (h : functionHeader tokens = .ok tail) :
    HasWord tokens tail.name ∧ tail.args = [] ∧ ∀ p ∈ tail.params, HasParameter tokens p := by
  simp only [functionHeader, bind_ok] at h
  obtain ⟨⟨name, rest⟩, hname, h⟩ := h
  obtain ⟨hword, hs⟩ : HasWord tokens name ∧ rest ⊆ tokens := by
    split at hname
    · obtain ⟨hword, hs⟩ := expectName_ok hname
      exact ⟨hword.mono (List.subset_cons_self _ _), List.subset_cons_of_subset _ hs⟩
    · exact expectName_ok hname
  dsimp only at h
  split at h
  · cases h
    exact ⟨hword, rfl, List.forall_mem_nil _⟩
  · simp only [bind_ok] at h
    obtain ⟨list, hlist, h⟩ := h
    split at h
    · simp only [bind_ok, pure_ok] at h
      obtain ⟨_, -, rfl⟩ := h
      exact ⟨hword, rfl, List.forall_mem_nil _⟩
    · simp only [bind_ok, pure_ok] at h
      obtain ⟨⟨ps, rest⟩, hparameters, _, -, rfl⟩ := h
      have hs := List.Subset.trans (expectKind_ok hlist) hs
      exact ⟨hword, rfl, fun p hp => (parameters_ok hparameters p hp).mono hs⟩

theorem tail_args {kind : CommandKind} {first : Token} {tail : Tail}
    (h : Parse.tail kind first tokens = .ok tail) : tail.ArgsFrom tokens := by
  cases kind with
  | executeIf | endBlock | functionEnd | quit =>
    simp only [Parse.tail, bind_ok, pure_ok] at h
    obtain ⟨_, -, rfl⟩ := h
    exact .inl rfl
  | print | printLine | printDebug | returnValue | compare => exact (optionalArguments_ok h).1
  | declare | set => exact (assignment_ok h).args
  | call => exact (invocation_ok h).args
  | functionStart => exact .inl (functionHeader_ok h).2.1
  | input | convert | unknown => exact .inl (target_ok h).2.1

theorem tail_ok {kind : CommandKind} {first : Token} {tail : Tail} (hr : ∀ t ∈ tokens, t.Read)
    (hk : kind ∈ CommandKind.all) (h : Parse.tail kind first tokens = .ok tail) :
    (tail.command kind).Readable := by
  refine ⟨hk, by simpa [Tail.command] using (tail_args h).readable hr, ?_⟩
  cases kind with
  | executeIf | endBlock | functionEnd | quit =>
    simp only [Parse.tail, bind_ok, pure_ok] at h
    obtain ⟨_, -, rfl⟩ := h
    rfl
  | print | printLine | printDebug | returnValue | compare =>
    obtain ⟨-, hname, hparams⟩ := optionalArguments_ok h
    simp [Command.Fits, Tail.command, hname, hparams]
  | declare | set =>
    have hnamed := assignment_ok h
    exact ⟨hnamed.name.isWord hr, hnamed.params⟩
  | call =>
    have hnamed := invocation_ok h
    exact ⟨hnamed.name.isWord hr, hnamed.params⟩
  | functionStart =>
    obtain ⟨hname, hargs, hparams⟩ := functionHeader_ok h
    refine ⟨hname.isWord hr, by simp [Tail.command, hargs], fun p hp => ?_⟩
    obtain ⟨kind, hkind, hword⟩ := hparams p hp
    exact ⟨kind, hkind, hword.isWord hr⟩
  | input | convert =>
    obtain ⟨hname, hargs, hparams⟩ := target_ok h
    exact ⟨hname.isWord hr, by simp [Tail.command, hargs], hparams⟩
  | unknown => exact absurd hk (by simp [CommandKind.all])

end
end Parse

theorem longest?_mem {words : List Text} {best : Option (CommandKind × ℕ)}
    {table : List (CommandKind × List Text)} {kind : CommandKind} {extent : ℕ}
    (h : Phrase.longest? words best table = some (kind, extent)) :
    best = some (kind, extent) ∨ kind ∈ table.map Prod.fst := by
  induction table generalizing best with
  | nil => exact .inl h
  | cons entry table ih =>
    rw [Phrase.longest?] at h
    rcases ih h with hbest | hmem
    · split at hbest
      · cases hbest
        exact .inr (by simp)
      · exact .inl hbest
    · exact .inr (List.mem_cons_of_mem _ hmem)

theorem ofTokens_ok {tokens : List Token} {parsed : ParsedCommand}
    (h : ParsedCommand.ofTokens tokens = .ok (some parsed)) :
    ∃ kind first extent tail, kind ∈ CommandKind.all ∧
      Parse.tail kind first (tokens.drop extent) = .ok tail ∧ parsed.command = tail.command kind := by
  unfold ParsedCommand.ofTokens at h
  split at h
  · cases h
  · split at h
    · cases h
    · rename_i first _ _ kind extent hmatch
      simp only [bind_ok, pure_ok] at h
      obtain ⟨tail, htail, h⟩ := h
      cases h
      have hkind : kind ∈ CommandKind.all := by
        rcases longest?_mem hmatch with hnone | hmem
        · cases hnone
        · simpa [Phrase.table] using hmem
      exact ⟨kind, first, extent, tail, hkind, htail, rfl⟩

/-- What is parsed from the tokens of a text is a command that can be read back. -/
theorem readable_ofTokens {tokens : List Token} {parsed : ParsedCommand}
    (hr : ∀ t ∈ tokens, t.Read) (h : ParsedCommand.ofTokens tokens = .ok (some parsed)) :
    parsed.command.Readable := by
  obtain ⟨kind, first, extent, tail, hkind, htail, hcommand⟩ := ofTokens_ok h
  rw [hcommand]
  exact Parse.tail_ok (fun t ht => hr t (List.mem_of_mem_drop ht)) hkind htail

theorem readable_ofLine {source : Text} {parsed : ParsedCommand}
    (h : ParsedCommand.ofLine source = .ok (some parsed)) : parsed.command.Readable := by
  simp only [ParsedCommand.ofLine, bind_ok] at h
  obtain ⟨tokens, htokens, hparsed⟩ := h
  exact readable_ofTokens (read_of_tokenize htokens) hparsed

/-- Rendering is inverse to reading: the canonical text of a command that was read from a line is
read as the same command. -/
theorem ofLine_render {source : Text} {parsed : ParsedCommand}
    (h : ParsedCommand.ofLine source = .ok (some parsed)) :
    ∃ again, ParsedCommand.ofLine parsed.command.render = .ok (some again) ∧
      again.command = parsed.command := by
  have hreadable := readable_ofLine h
  have hspells := spells_command hreadable breaks_empty
  have hline := ofLine_said hreadable hspells (.inl rfl)
  rwa [Text.append_empty] at hline

/-- With a sign in front of a fraction, of a group and of an integer, and a quote in a text. -/
theorem ofLine_render_signed :
    ∃ parsed, ParsedCommand.ofLine "bora x = -1.5 + \"#\\\"\" * -(y - -2)" = .ok (some parsed) ∧
      ∃ again, ParsedCommand.ofLine parsed.command.render = .ok (some again) ∧
        again.command = parsed.command := by
  have hline : ParsedCommand.ofLine "bora x = -1.5 + \"#\\\"\" * -(y - -2)" =
      .ok (some
        { command :=
            { kind := .set
              name := "x"
              args :=
                [[.value (.number ⟨0xBFF8000000000000⟩), .operator .plus, .value (.text "#\""),
                  .operator .times, .operator .openParen, .value (.int 0), .operator .minus,
                  .operator .openParen, .symbol "y", .operator .minus, .value (.int (-2)),
                  .operator .closeParen, .operator .closeParen]] }
          columns := [[11, 15, 17, 23, 25, 25, 25, 26, 27, 29, 32, 33, 25]] }) := by
    decide +kernel
  exact ⟨_, hline, ofLine_render hline⟩

end Birl
