import Birl.Proofs.Compiler.Representation
import Birl.Proofs.Compiler.Values

/-!
# The effect of commands

A declaration, assignment, conversion or input gives the variable it names the value
that is asked for, and a comparison sets the last comparison; nothing else that a name
stands for changes. One that fails changes nothing that a name stands for
(`command_effect`).
-/

namespace Birl

open Machine

/-- Two symbols for one slot. -/
def Symbol.Same (s t : Symbol) : Prop := s.global = t.global ∧ s.address = t.address

instance (s t : Symbol) : Decidable (s.Same t) := inferInstanceAs (Decidable (_ ∧ _))

namespace Compiler

-- ---------------------------------------------------------------------------
-- The variables of the open scopes
-- ---------------------------------------------------------------------------

/-- An open scope has the variable, under a name that may be shadowed. -/
def Holds (c : Compiler) (symbol : Symbol) : Prop :=
  ∃ vars ∈ c.scopes, ∃ name, vars.find? name = some symbol

/-- What a command names: a visible variable, or one that it declares. -/
inductive Targets (c : Compiler) (name : Text) : Symbol → Compiler → Prop
  | visible {symbol : Symbol} (hr : c.resolve name = some symbol) : Targets c name symbol c
  | declared {symbol : Symbol} {c' : Compiler} (hd : Declares c name false symbol c') :
      Targets c name symbol c'

section
variable {p : Program} {c c' : Compiler} {m m' m₁ : Machine} {name : Text} {symbol : Symbol}

theorem scope_of_resolve (h : c.resolve name = some symbol) :
    ∃ vars ∈ c.scopes, vars.find? name = some symbol :=
  List.exists_of_findSome?_eq_some h

theorem holds_of_resolve (h : c.resolve name = some symbol) : c.Holds symbol := by
  obtain ⟨vars, hvars, hs⟩ := scope_of_resolve h
  exact ⟨vars, hvars, name, hs⟩

theorem Layout.holds (hl : Layout c) (h : c.Holds symbol) :
    symbol.address < c.frameSize ∧ (symbol.global = c.inGlobal → symbol.address < c.next) ∧
      (c.inGlobal = true → symbol.global = true) := by
  obtain ⟨vars, hvars, name, hs⟩ := h
  obtain ⟨i, hi⟩ := List.mem_iff_getElem?.mp hvars
  rcases hl.scope hi with ⟨-, hw⟩ | ⟨-, hw⟩
  · obtain ⟨ha, hg⟩ := hw name symbol hs
    exact ⟨Nat.lt_of_lt_of_le ha hl.next_le, fun _ => ha, fun hin => hg.trans hin⟩
  · obtain ⟨ha, hg⟩ := hw name symbol hs
    refine ⟨Nat.lt_of_lt_of_le ha hl.globalNext_le, fun hin => ?_, fun _ => hg⟩
    have hnone : c.function = none := by simpa [inGlobal, hg] using hin
    simpa [globalNext, hnone] using ha

theorem Declares.scopes {readOnly : Bool} (h : Declares c name readOnly symbol c') :
    ∃ outer, c.scopes = c.innermost :: outer ∧ c'.scopes = c.innermost.put name symbol :: outer := by
  obtain ⟨outer, hscopes, hset⟩ := c.scopes_setInnermost
  cases h with
  | fresh => exact ⟨outer, hscopes, hset _⟩
  | again => exact ⟨outer, hscopes, hset _⟩

theorem Targets.resolve (h : Targets c name symbol c') : c'.resolve name = some symbol := by
  cases h with
  | visible hr => exact hr
  | declared hd =>
    obtain ⟨outer, -, hscopes⟩ := hd.scopes
    simp [Compiler.resolve, hscopes, Bindings.find?_put]

theorem Targets.resolve_other (h : Targets c name symbol c') {other : Text} (hn : other ≠ name) :
    c'.resolve other = c.resolve other := by
  cases h with
  | visible => rfl
  | declared hd =>
    obtain ⟨outer, hscopes, hscopes'⟩ := hd.scopes
    simp only [Compiler.resolve, hscopes, hscopes', List.findSome?_cons, Bindings.find?_put, if_neg hn]

theorem Targets.place (h : Targets c name symbol c') (hl : Layout c) :
    symbol.address < c.frameSize ∧ (c.inGlobal = true → symbol.global = true) := by
  cases h with
  | visible hr =>
    obtain ⟨haddr, -, hglobal⟩ := hl.resolve hr
    exact ⟨haddr, hglobal⟩
  | declared hd =>
    obtain ⟨hlayout, haddr, hglobal⟩ := hd.layout hl
    refine ⟨?_, fun hin => hglobal.trans hin⟩
    rw [← hd.keeps.1]
    exact Nat.lt_of_lt_of_le haddr hlayout.next_le

/-- No other name stands for the slot of the variable that a command names. -/
theorem Targets.apart (h : Targets c name symbol c') (hc : c.Reachable) {vars : Bindings}
    {other : Text} {s : Symbol} (hv : vars ∈ c.scopes) (hs : vars.find? other = some s)
    (hn : other ≠ name) : ¬ s.Same symbol := by
  rintro ⟨hglobal, haddr⟩
  have hbound {vars' : Bindings} {t : Symbol} (hv' : vars' ∈ c.scopes)
      (ht : vars'.find? name = some t) (hg : s.global = t.global) (ha : s.address = t.address) :
      False := by
    obtain ⟨i, hi⟩ := List.mem_iff_getElem?.mp hv
    obtain ⟨j, hj⟩ := List.mem_iff_getElem?.mp hv'
    exact hn (hc.apart hi hj hs ht hg ha).2
  cases h with
  | visible hr =>
    obtain ⟨vars', hv', ht⟩ := scope_of_resolve hr
    exact hbound hv' ht hglobal haddr
  | declared hd =>
    cases hd with
    | fresh =>
      have hlt := (hc.layout.holds ⟨vars, hv, other, hs⟩).2.1 hglobal
      exact absurd haddr (Nat.ne_of_lt hlt)
    | @again previous hp =>
      obtain ⟨outer, hscopes, -⟩ := c.scopes_setInnermost
      exact hbound (hscopes ▸ List.mem_cons_self) hp hglobal haddr

-- ---------------------------------------------------------------------------
-- What changes and what does not
-- ---------------------------------------------------------------------------

/-- All that names stand for is what it was. -/
structure Untouched (c : Compiler) (m m' : Machine) : Prop where
  names : c.environment m' = c.environment m
  held : ∀ s, c.Holds s → s.value? m' = s.value? m
  comparison : m'.current.comparison = m.current.comparison

/-- What was asked for is there. -/
def Delivers (c' : Compiler) (name : Text) (m' : Machine) : Except ErrorKind Change → Prop
  | .ok (.assign v) => c'.environment m' name = some v
  | .ok (.compare outcome) => m'.current.comparison = outcome
  | .error _ => False

/-- A command of `c`, after which the compiler is `c'`, has done what it asks for and
nothing else. -/
structure Performed (c c' : Compiler) (cmd : Command) (m m' : Machine) : Prop where
  asked : ∀ r, cmd.asks (c.environment m) m.input = some r → Delivers c' cmd.name m' r
  names : ∀ name, (cmd.kind.assigns = true → name ≠ cmd.name) →
    c'.environment m' name = c.environment m name
  held : ∀ s, c.Holds s →
    (cmd.kind.assigns = true → ∀ t, c'.resolve cmd.name = some t → ¬ s.Same t) →
    s.value? m' = s.value? m
  comparison : cmd.kind ≠ .compare → m'.current.comparison = m.current.comparison

/-- So many steps carry the command out, or fail with the error that is asked for and
change nothing. -/
structure CarriesOut (p : Program) (c c' : Compiler) (cmd : Command) (n : Nat) (m : Machine) :
    Prop where
  ends : ∃ m' failure, Ran p n m m' failure
  performed : ∀ m', Ran p n m m' none → Performed c c' cmd m m'
  failed : ∀ m' e, Ran p n m m' (some e) → Untouched c m m' ∧
    ∀ r, cmd.asks (c.environment m) m.input = some r → r = .error e.kind

theorem carriesOut_of_performed {cmd : Command} {n : Nat} (hr : Ran p n m m' none)
    (h : Performed c c' cmd m m') : CarriesOut p c c' cmd n m := by
  refine ⟨⟨m', none, hr⟩, fun m'' hr' => ?_, fun m'' e hr' => ?_⟩
  · obtain ⟨rfl, -⟩ := hr.unique hr'
    exact h
  · cases (hr.unique hr').2

theorem carriesOut_of_failed {cmd : Command} {n : Nat} {e : Error} (hr : Ran p n m m' (some e))
    (h : Untouched c m m')
    (he : ∀ r, cmd.asks (c.environment m) m.input = some r → r = .error e.kind) :
    CarriesOut p c c' cmd n m := by
  refine ⟨⟨m', some e, hr⟩, fun m'' hr' => ?_, fun m'' e' hr' => ?_⟩
  · cases (hr.unique hr').2
  · obtain ⟨rfl, he'⟩ := hr.unique hr'
    cases he'
    exact ⟨h, he⟩

theorem environment_eq (hv : ∀ s, c.Holds s → s.value? m' = s.value? m) :
    c.environment m' = c.environment m := by
  funext name
  unfold environment
  cases hr : c.resolve name with
  | none => rfl
  | some s => exact hv s (holds_of_resolve hr)

theorem Layout.untouched (hl : Layout c) (hm : Matches c m) (h : Quiet c.next m m') :
    Untouched c m m' := by
  have hstreams : Matches c (m.withStreams m'.input m'.output) := ⟨hm.size, hm.skip, hm.place⟩
  have hheld (s : Symbol) (hs : c.Holds s) : s.value? m' = s.value? m := by
    obtain ⟨-, hnext, hglobal⟩ := hl.holds hs
    exact hstreams.kept_value h hnext hglobal
  exact ⟨environment_eq hheld, hheld, h.comparison⟩

theorem Untouched.performed {cmd : Command} (h : Untouched c m m')
    (ha : cmd.asks (c.environment m) m.input = none) : Performed c c cmd m m' := by
  refine ⟨fun r hr => ?_, fun name _ => congrFun h.names name, fun s hs _ => h.held s hs,
    fun _ => h.comparison⟩
  rw [ha] at hr
  cases hr

-- ---------------------------------------------------------------------------
-- The last operation
-- ---------------------------------------------------------------------------

theorem value_modifyCurrent (s : Symbol) {g : Frame → Frame}
    (hs : (g m.current).slots = m.current.slots) (ht : (g m.current).texts = m.current.texts)
    (hr : (g m.current).ready = m.current.ready) :
    s.value? (m.modifyCurrent g) = s.value? m := by
  unfold Symbol.value? Symbol.frame
  split
  · rcases m.current_cases with ⟨_, _, _, -, -, -, -, hmod⟩ | ⟨-, hcur, hmod⟩
    · rw [hmod]
    · rw [hcur] at hs ht
      rw [hmod]
      simp [Frame.constant?, Frame.slot, hs, ht]
  · rw [current_modifyCurrent hr]
    simp [Frame.constant?, Frame.slot, hs, ht]

theorem value_advance (s : Symbol) (m : Machine) : s.value? m.advance = s.value? m :=
  value_modifyCurrent s rfl rfl rfl

theorem Matches.value_replaced (hm : Matches c m) {frame : Frame} {v : Constant}
    (hg : c.inGlobal = true → symbol.global = true)
    (hframe : ∀ a, frame.constant? a =
      if a = symbol.address then some v else (symbol.frame m).constant? a)
    (hsame : frame = { symbol.frame m with slots := frame.slots, texts := frame.texts })
    (hm' : m' = if symbol.global then { m with global := frame } else m.modifyCurrent fun _ => frame) :
    m'.current.comparison = m.current.comparison ∧
      ∀ s : Symbol, (c.inGlobal = true → s.global = true) →
        s.value? m' = if s.Same symbol then some v else s.value? m := by
  have hlocal {s : Symbol} (hs : c.inGlobal = true → s.global = true) (hsg : s.global = false) :
      c.inGlobal = false := by
    refine Bool.eq_false_iff.mpr fun hin => ?_
    rw [hs hin] at hsg
    cases hsg
  -- In the global code the current frame is the one that is written.
  have hrunning (hin : c.inGlobal = false) {g : Frame} :
      ({ m with global := g } : Machine).current = m.current := by
    have hsome : (lastReady? m.calls).isNone = false := hm.place.symm.trans hin
    obtain ⟨f, hf⟩ := Option.isSome_iff_exists.mp (Option.isNone_eq_false_iff.mp hsome)
    simp [current, hf]
  cases hglobal : symbol.global with
  | true =>
    simp only [Symbol.frame, hglobal, if_true] at hframe hsame hm'
    subst hm'
    have hcurrent : ({ m with global := frame } : Machine).current.comparison =
        m.current.comparison := by
      cases hin : c.inGlobal with
      | false => rw [hrunning hin]
      | true =>
        have hnone : (lastReady? m.calls).isNone = true := hm.place.symm.trans hin
        rw [(current_global (m := m) hnone).1,
          (current_global (m := { m with global := frame }) hnone).1, hsame]
    refine ⟨hcurrent, fun s hs => ?_⟩
    cases hsg : s.global with
    | true => simp [Symbol.value?, Symbol.frame, Symbol.Same, hsg, hframe, hglobal]
    | false =>
      simp [Symbol.value?, Symbol.frame, Symbol.Same, hsg, hglobal, hrunning (hlocal hs hsg)]
  | false =>
    have hin : c.inGlobal = false := hlocal hg hglobal
    simp only [Symbol.frame, hglobal, Bool.false_eq_true, if_false] at hframe hsame hm'
    have hcur : m'.current = frame := by
      rw [hm']
      refine current_modifyCurrent (g := fun _ => frame) ?_
      rw [hsame]
    have hglobals : m'.global = m.global := by
      rw [hm']
      exact global_modifyCurrent (hm.place.symm.trans hin) _
    refine ⟨by rw [hcur, hsame], fun s hs => ?_⟩
    cases hsg : s.global with
    | true => simp [Symbol.value?, Symbol.frame, Symbol.Same, hsg, hglobal, hglobals]
    | false => simp [Symbol.value?, Symbol.frame, Symbol.Same, hsg, hglobal, hcur, hframe]

theorem Matches.advance (hm : Matches c m) : Matches c m.advance := by
  refine ⟨(modifyCurrent_frameSize m _).trans hm.size, ?_, ?_⟩
  · rw [current_advance]
    exact hm.skip
  · rw [Machine.advance, lastReady_modifyCurrent rfl]
    exact hm.place

theorem Matches.step_write {v : Constant} {ops : List Operation} (hm : Matches c m) (h : m.Sound)
    (ha : Ahead p m (symbol.write :: ops)) (haddr : symbol.address < c.frameSize)
    (hg : c.inGlobal = true → symbol.global = true) (hv : InB v m) :
    ∃ m', Machine.step p m = (m', .ok .normal) ∧
      m'.current.comparison = m.current.comparison ∧
      ∀ s : Symbol, (c.inGlobal = true → s.global = true) →
        s.value? m' = if s.Same symbol then some v else s.value? m := by
  obtain ⟨hslots, htexts⟩ := frame_advance symbol m
  have hframe : (symbol.frame m.advance).Sound m.frameSize := (h.frame symbol).congr hslots htexts
  have haddr : symbol.address < m.frameSize := hm.size ▸ haddr
  obtain ⟨frame, hstore, -, hconst, hsame⟩ := hframe.store_ok haddr hv
  have hwrite : m.advance.writeSlot (symbol.frame m.advance) symbol.address = .ok frame := by
    simp only [writeSlot, hframe.address haddr, bind, Except.bind, advance_b, advance_texts]
    exact hstore
  have hexec : execute p m.advance symbol.write =
      (if symbol.global then { m.advance with global := frame }
        else m.advance.modifyCurrent fun _ => frame, .ok .normal) := by
    rw [execute_write, hwrite]
    rfl
  obtain ⟨hcomparison, hvalues⟩ := hm.advance.value_replaced hg hconst hsame rfl
  refine ⟨_, ha.step_ok hm.skip hexec, ?_, fun s hs => ?_⟩
  · rw [hcomparison, current_advance]
  · rw [hvalues s hs, value_advance]

theorem step_compare {ops : List Operation} (h : m.Sound) (hk : m.current.skip = 0)
    (ha : Ahead p m (.compare :: ops)) :
    match m.texts.compare m.a m.b with
    | .ok outcome => ∃ m', Machine.step p m = (m', .ok .normal) ∧
        m'.current.comparison = outcome ∧ ∀ s : Symbol, s.value? m' = s.value? m
    | .error _ => ∃ m' e, Machine.step p m = (m', .error e) ∧ Quiet c.next m m' := by
  split
  · rename_i outcome hcompare
    have hexec : execute p m.advance .compare =
        (m.advance.modifyCurrent fun frame => { frame with comparison := outcome }, .ok .normal) := by
      simp [execute, hcompare, done]
    refine ⟨_, ha.step_ok hk hexec, ?_, fun s => ?_⟩
    · rw [current_modifyCurrent rfl]
    · rw [value_modifyCurrent s rfl rfl rfl, value_advance]
  · rename_i fault hcompare
    have hexec : execute p m.advance .compare = (m.advance, .error fault) := by
      simp [execute, hcompare, fail]
    obtain ⟨line, function, hstep⟩ := ha.step_error hk hexec
    exact ⟨_, _, hstep, (kept_registers h h.advance.texts).quiet⟩

-- ---------------------------------------------------------------------------
-- Printing and comparing
-- ---------------------------------------------------------------------------

theorem carriesOut_quiet {cmd : Command} {code : List Operation} (hl : Layout c) (h : m.Sound)
    (hm : Matches c m) (hq : ∀ op ∈ code, c.Spares c.next op) (ha : Ahead p m code)
    (hasks : cmd.asks (c.environment m) m.input = none) :
    CarriesOut p c c cmd code.length m := by
  have ha : Ahead p m (code ++ []) := by rwa [List.append_nil]
  obtain ⟨m', failure, hran, hquiet, -⟩ := quiet_run hq hm h ha
  have huntouched := hl.untouched hm hquiet
  cases failure with
  | none => exact carriesOut_of_performed hran (huntouched.performed hasks)
  | some e =>
    refine carriesOut_of_failed hran huntouched fun r hr => ?_
    rw [hasks] at hr
    cases hr

theorem spares_print {cmd : Command} {compiled : Compiled} (h : c.compilePrint cmd = .ok compiled) :
    compiled.compiler = c ∧ ∀ op ∈ compiled.code, c.Spares c.next op := by
  simp only [compilePrint, bind_ok, pure_ok] at h
  obtain ⟨code, hcode, rfl⟩ := h
  refine ⟨rfl, List.forall_mem_append.mpr ⟨List.forall_mem_append.mpr ⟨?_, ?_⟩, ?_⟩⟩
  · refine spares_printArguments ?_ hcode
    split <;> rfl
  · split
    · exact List.forall_mem_nil _
    · simpa using .inl rfl
  · simpa using .inl rfl

theorem asks_compare {cmd : Command} {left right : Expression} (hk : cmd.kind = .compare)
    (hargs : cmd.args = [left, right]) (env : Text → Option Constant) (input : Input) :
    cmd.asks env input = do
      let l ← evaluate? env left
      let r ← evaluate? env right
      return (do return (← l, ← r) : Except ErrorKind (Constant × Constant)).map
        fun values => .compare (values.1.compare values.2) := by
  simp only [Command.asks, hk, hargs, List.headD_cons, List.drop_succ_cons, List.drop_zero]
  cases evaluate? env left with
  | none => rfl
  | some l =>
    cases evaluate? env right with
    | none => rfl
    | some r => cases l <;> cases r <;> rfl

theorem compare_of_ok {cmd : Command} {compiled : Compiled} (h : c.compileCommand cmd = .ok compiled)
    (hk : cmd.kind = .compare) :
    ∃ left right code, cmd.args = [left, right] ∧ c.comparison left right = .ok code ∧
      compiled = { code := code ++ [.compare], compiler := c } := by
  simp only [compileCommand, hk, compileCompare, bind_ok, pure_ok] at h
  obtain ⟨_, harity, code, hcode, rfl⟩ := h
  obtain ⟨left, right, hargs⟩ : ∃ left right, cmd.args = [left, right] := by
    obtain ⟨hleast, hmost⟩ := arity_ok harity
    have htwo : cmd.args.length = 1 + 1 := Nat.le_antisymm hmost hleast
    obtain ⟨left, rest, hargs⟩ := List.exists_cons_of_length_eq_add_one htwo
    rw [hargs] at htwo
    obtain ⟨right, rfl⟩ := List.length_eq_one_iff.mp (Nat.succ.inj htwo)
    exact ⟨left, right, hargs⟩
  rw [hargs] at hcode
  exact ⟨left, right, code, hargs, hcode, rfl⟩

theorem carriesOut_compare {cmd : Command} {left right : Expression} {code : List Operation}
    (hl : Layout c) (h : m.Sound) (hm : Matches c m) (hk : cmd.kind = .compare)
    (hargs : cmd.args = [left, right]) (hcode : c.comparison left right = .ok code)
    (ha : Ahead p m (code ++ [.compare])) :
    CarriesOut p c c cmd (code ++ [Operation.compare]).length m := by
  rw [List.length_append, List.length_singleton]
  obtain ⟨m₁, failure, hran, hquiet, hpc⟩ := quiet_run (spares_comparison hcode) hm h ha
  have huntouched := hl.untouched hm hquiet
  -- What the code in front of the comparison left, if the values can be told.
  have hleft (r : Except ErrorKind Change)
      (hr : cmd.asks (c.environment m) m.input = some r) :
      ∃ x, r = x.map (fun values => .compare (values.1.compare values.2)) ∧
        Leaves p code.length m InBoth x := by
    rw [asks_compare hk hargs] at hr
    simp only [Option.bind_eq_bind, Option.bind_eq_some_iff] at hr
    obtain ⟨l, hl', r', hr', he⟩ := hr
    cases he
    exact ⟨_, rfl, leaves_comparison hl hcode ⟨h, hm, rfl, ha⟩ hl' hr'⟩
  cases failure with
  | some e =>
    refine carriesOut_of_failed (hran.fails 1) huntouched fun r hr => ?_
    obtain ⟨x, rfl, hleaves⟩ := hleft r hr
    rw [hleaves.of_ran hran]
    rfl
  | none =>
    have hm₁ := hm.quiet hquiet
    have hahead : Ahead p m₁ [.compare] := ha.drop hquiet.owner (hpc rfl)
    have hstep := step_compare (c := c) hquiet.sound hm₁.skip hahead
    split at hstep
    · rename_i outcome hcompare
      obtain ⟨m', hs, hset, hvalues⟩ := hstep
      have hheld (s : Symbol) (hs : c.Holds s) : s.value? m' = s.value? m :=
        (hvalues s).trans (huntouched.held s hs)
      refine carriesOut_of_performed ((Ran.step hs .completed).after hran.normal)
        ⟨fun r hr => ?_, fun name _ => ?_, fun s hs _ => hheld s hs, fun hne => absurd hk hne⟩
      · obtain ⟨x, rfl, hleaves⟩ := hleft r hr
        obtain ⟨⟨u, v⟩, rfl, hu, hv⟩ := hleaves.of_ran hran
        rw [TextStore.compare_constant hu hv] at hcompare
        cases hcompare
        exact hset
      · exact congrFun (environment_eq hheld) name
    · rename_i fault hcompare
      obtain ⟨m', e, hs, hquiet'⟩ := hstep
      refine carriesOut_of_failed ((Ran.failed hs).after hran.normal)
        (hl.untouched hm (hquiet.trans hquiet')) fun r hr => ?_
      obtain ⟨x, rfl, hleaves⟩ := hleft r hr
      obtain ⟨⟨u, v⟩, -, hu, hv⟩ := hleaves.of_ran hran
      rw [TextStore.compare_constant hu hv] at hcompare
      cases hcompare

-- ---------------------------------------------------------------------------
-- Giving a variable a value
-- ---------------------------------------------------------------------------

/-- Code that leaves in register `b` the value that a command asks for. -/
structure Supplies (c : Compiler) (cmd : Command) (code : List Operation) : Prop where
  spares : ∀ op ∈ code, c.Spares c.next op
  leaves : ∀ p m ops, m.Sound → Matches c m → Ahead p m (code ++ ops) → ∀ r,
    cmd.asks (c.environment m) m.input = some r →
      ∃ x, r = x.map .assign ∧ Leaves p code.length m InB x
  defined : ∀ m, m.Sound → (∀ e ∈ cmd.args, Node.operator .unknown ∉ e) →
    ∃ r, cmd.asks (c.environment m) m.input = some r

theorem supplies_expression {cmd : Command} {e : Expression} {code : List Operation}
    (hl : Layout c) (he : e ∈ cmd.args) (hcode : c.expression c.next e = .ok code)
    (hasks : ∀ env input, cmd.asks env input = (evaluate? env e).map (Except.map .assign)) :
    Supplies c cmd code := by
  refine ⟨spares_expression hcode, fun p m ops h hm ha r hr => ?_, fun m _ hu => ?_⟩
  · rw [hasks, Option.map_eq_some_iff] at hr
    obtain ⟨x, hx, rfl⟩ := hr
    exact ⟨x, rfl, (runs_expression hl (Nat.le_refl _) hcode ⟨h, hm, rfl, ha⟩ hx).leaves⟩
  · obtain ⟨x, hx⟩ := evaluate?_of_expression (c.environment m) hcode (hu e he)
    exact ⟨_, by rw [hasks, hx]; rfl⟩

theorem supplies_null {cmd : Command}
    (hasks : ∀ env input, cmd.asks env input = some (.ok (.assign .null))) :
    Supplies c cmd [.loadB .null] := by
  refine ⟨Gives.null.spares, fun p m ops h hm ha r hr => ?_, fun m _ _ => ⟨_, hasks _ _⟩⟩
  rw [hasks] at hr
  cases hr
  exact ⟨.ok .null, rfl, leaves_null h hm ha⟩

theorem supplies_input {cmd : Command} {kind : Kind} (hk : cmd.kind = .input kind) :
    Supplies c cmd (inputCode kind) := by
  have hasks (env : Text → Option Constant) (input : Input) :
      cmd.asks env input = some ((inputValue kind input.readLine.1).map .assign) := by
    simp only [Command.asks, hk]
    cases input.readLine.1 <;> rfl
  refine ⟨(Gives.input kind).spares, fun p m ops h hm ha r hr => ?_, fun m _ _ => ⟨_, hasks _ _⟩⟩
  rw [hasks] at hr
  cases hr
  exact ⟨_, rfl, leaves_input h hm ha⟩

theorem supplies_converted {cmd : Command} {kind : Kind} (hl : Layout c)
    (hk : cmd.kind = .convert kind) (hr : c.resolve cmd.name = some symbol) :
    Supplies c cmd [symbol.read, .heldToB, conversion kind] := by
  have hasks (env : Text → Option Constant) (input : Input) :
      cmd.asks env input = (env cmd.name).map fun v => (kind.convert v).map .assign := by
    simp only [Command.asks, hk]
  refine ⟨(Gives.converted kind hr).spares, fun p m ops h hm ha r hasked => ?_, fun m h _ => ?_⟩
  · rw [hasks, Option.map_eq_some_iff] at hasked
    obtain ⟨v, hv, rfl⟩ := hasked
    exact ⟨_, rfl, leaves_converted hl ⟨h, hm, rfl, ha⟩ hr hv⟩
  · obtain ⟨v, hv⟩ := (h.frame symbol).constant symbol.address
    have henv : c.environment m cmd.name = some v := by
      rw [environment, hr]
      exact hv
    exact ⟨_, by rw [hasks, henv]; rfl⟩

theorem carriesOut_assign {cmd : Command} {code : List Operation} (hc : c.Reachable) (h : m.Sound)
    (hm : Matches c m) (hk : cmd.kind.assigns = true) (hs : Supplies c cmd code)
    (ht : Targets c cmd.name symbol c') (ha : Ahead p m (code ++ [symbol.write])) :
    CarriesOut p c c' cmd (code ++ [symbol.write]).length m := by
  rw [List.length_append, List.length_singleton]
  have hl := hc.layout
  obtain ⟨haddr, hglobal⟩ := ht.place hl
  obtain ⟨m₁, failure, hran, hquiet, hpc⟩ := quiet_run hs.spares hm h ha
  have huntouched := hl.untouched hm hquiet
  have hleft := hs.leaves p m _ h hm ha
  cases failure with
  | some e =>
    refine carriesOut_of_failed (hran.fails 1) huntouched fun r hr => ?_
    obtain ⟨x, rfl, hleaves⟩ := hleft r hr
    rw [hleaves.of_ran hran]
    rfl
  | none =>
    have hm₁ := hm.quiet hquiet
    have hahead : Ahead p m₁ [symbol.write] := ha.drop hquiet.owner (hpc rfl)
    cases hb : m₁.texts.constant? m₁.b with
    | none =>
      obtain ⟨m', e, hstep, hkept⟩ := step_write_dead c.next hm₁ hquiet.sound hahead haddr hb
      refine carriesOut_of_failed ((Ran.failed hstep).after hran.normal)
        (hl.untouched hm (hquiet.trans hkept.quiet)) fun r hr => ?_
      obtain ⟨x, rfl, hleaves⟩ := hleft r hr
      obtain ⟨v, -, hv⟩ := hleaves.of_ran hran
      rw [InB, hb] at hv
      cases hv
    | some v =>
      obtain ⟨m', hstep, hcomparison, hvalues⟩ :=
        hm₁.step_write hquiet.sound hahead haddr hglobal hb
      have hheld (s : Symbol) (hs : c.Holds s) (hsame : ¬ s.Same symbol) :
          s.value? m' = s.value? m := by
        rw [hvalues s (hl.holds hs).2.2, if_neg hsame, huntouched.held s hs]
      refine carriesOut_of_performed ((Ran.step hstep .completed).after hran.normal)
        ⟨fun r hr => ?_, fun name hname => ?_, fun s hs hsame => ?_,
          fun _ => hcomparison.trans huntouched.comparison⟩
      · obtain ⟨x, rfl, hleaves⟩ := hleft r hr
        obtain ⟨w, rfl, hw⟩ := hleaves.of_ran hran
        have hwv : w = v := Option.some.inj (hw.symm.trans hb)
        show c'.environment m' cmd.name = some w
        rw [environment, ht.resolve, hwv]
        exact (hvalues symbol hglobal).trans (if_pos ⟨rfl, rfl⟩)
      · unfold environment
        rw [ht.resolve_other (hname hk)]
        cases hr : c.resolve name with
        | none => rfl
        | some s =>
          obtain ⟨vars, hvars, hfound⟩ := scope_of_resolve hr
          exact hheld s (holds_of_resolve hr) (ht.apart hc hvars hfound (hname hk))
      · exact hheld s hs (hsame hk symbol ht.resolve)

/-- A command that gives a variable a value computes it and then writes the variable. -/
theorem assigns_of_ok {cmd : Command} {compiled : Compiled} (hl : Layout c)
    (h : c.compileCommand cmd = .ok compiled) (hk : cmd.kind.assigns = true) :
    ∃ code symbol, compiled.code = code ++ [symbol.write] ∧ Supplies c cmd code ∧
      Targets c cmd.name symbol compiled.compiler := by
  cases hkind : cmd.kind with
  | declare =>
    simp only [compileCommand, hkind, compileDeclare, optionalValue, bind_ok, pure_ok] at h
    obtain ⟨code, ⟨_, harity, hcode⟩, ⟨symbol, c'⟩, hd, rfl⟩ := h
    refine ⟨code, symbol, rfl, ?_, .declared (declares_of_ok hd)⟩
    split at hcode
    · rename_i e rest hargs
      refine supplies_expression hl (hargs ▸ List.mem_cons_self) hcode fun env input => ?_
      simp only [Command.asks, hkind, hargs]
    · rename_i hargs
      cases hcode
      refine supplies_null fun env input => ?_
      simp only [Command.asks, hkind, hargs]
  | set =>
    simp only [compileCommand, hkind, compileSet, bind_ok, pure_ok] at h
    obtain ⟨_, harity, symbol, hw, code, hcode, rfl⟩ := h
    obtain ⟨hr, -⟩ := takes_writable hw
    obtain ⟨e, hargs⟩ : ∃ e, cmd.args = [e] := by
      obtain ⟨hleast, hmost⟩ := arity_ok harity
      exact List.length_eq_one_iff.mp (by omega)
    have hmem : e ∈ cmd.args := by simp [hargs]
    rw [hargs] at hcode
    refine ⟨code, symbol, rfl, ?_, .visible hr⟩
    refine supplies_expression hl hmem hcode fun env input => ?_
    simp only [Command.asks, hkind, hargs, List.headD_cons]
  | input kind =>
    simp only [compileCommand, hkind, compileInput, bind_ok] at h
    obtain ⟨_, -, h⟩ := h
    split at h
    · rename_i symbol hr
      simp only [check_ok, pure_ok] at h
      obtain ⟨-, rfl⟩ := h
      exact ⟨inputCode kind, symbol, rfl, supplies_input hkind, .visible hr⟩
    · simp only [bind_ok, pure_ok] at h
      obtain ⟨⟨symbol, c'⟩, hd, rfl⟩ := h
      exact ⟨inputCode kind, symbol, rfl, supplies_input hkind, .declared (declares_of_ok hd)⟩
  | convert kind =>
    simp only [compileCommand, hkind, compileConversion, bind_ok, pure_ok] at h
    obtain ⟨_, -, symbol, hw, rfl⟩ := h
    obtain ⟨hr, -⟩ := takes_writable hw
    exact ⟨[symbol.read, .heldToB, conversion kind], symbol, rfl, supplies_converted hl hkind hr,
      .visible hr⟩
  | _ => rw [hkind] at hk; cases hk

end
end Compiler

-- ---------------------------------------------------------------------------
-- The whole
-- ---------------------------------------------------------------------------

/-- The code of a command comes to its end or fails. At its end the variable that the
command names stands for what is asked for, or the last comparison is the outcome of the
comparison, and nothing else has changed; where it fails nothing has changed. -/
theorem command_effect {p : Program} {c : Compiler} {m : Machine} {cmd : Command}
    {compiled : Compiler.Compiled} (hc : c.Reachable) (h : c.compileCommand cmd = .ok compiled)
    (hk : cmd.kind.assigns = true ∨ cmd.kind.prints = true ∨ cmd.kind = .compare)
    (hr : m.Reachable) (hm : c.Matches m) (ha : Ahead p m compiled.code) :
    c.CarriesOut p compiled.compiler cmd compiled.code.length m ∧
      ((∀ e ∈ cmd.args, Node.operator .unknown ∉ e) → cmd.kind.prints = false →
        ∃ r, cmd.asks (c.environment m) m.input = some r) := by
  rcases hk with hk | hk | hk
  · obtain ⟨code, symbol, hcode, hsupplies, htargets⟩ := Compiler.assigns_of_ok hc.layout h hk
    rw [hcode] at ha ⊢
    exact ⟨Compiler.carriesOut_assign hc hr.sound hm hk hsupplies htargets ha,
      fun hu _ => hsupplies.defined m hr.sound hu⟩
  · have hprint : c.compilePrint cmd = .ok compiled := by
      cases hkind : cmd.kind with rw [hkind] at hk
      | print | printLine | printDebug => simpa only [Compiler.compileCommand, hkind] using h
      | _ => cases hk
    have hasks : cmd.asks (c.environment m) m.input = none := by
      cases hkind : cmd.kind with rw [hkind] at hk
      | print | printLine | printDebug => simp only [Command.asks, hkind]
      | _ => cases hk
    obtain ⟨hcompiler, hspares⟩ := Compiler.spares_print hprint
    rw [hcompiler]
    refine ⟨Compiler.carriesOut_quiet hc.layout hr.sound hm hspares ha hasks, fun _ hp => ?_⟩
    rw [hk] at hp
    cases hp
  · obtain ⟨left, right, code, hargs, hcode, rfl⟩ := Compiler.compare_of_ok h hk
    refine ⟨Compiler.carriesOut_compare hc.layout hr.sound hm hk hargs hcode ha, fun hu _ => ?_⟩
    obtain ⟨⟨l, hl⟩, r, hr⟩ := Compiler.evaluate?_of_comparison (c.environment m) hcode
      (hu left (by simp [hargs])) (hu right (by simp [hargs]))
    exact ⟨_, by rw [Compiler.asks_compare hk hargs, hl, hr]; rfl⟩

/-- A declaration of a variable with the value 7, and a program that holds its code. -/
def declareSeven : Command := { kind := .declare, name := "X", args := [[.value (.int 7)]] }

def declaringSeven : Program :=
  ⟨#[⟨"", [.loadB (.int 7), .writeGlobal 2].map (⟨·, 1⟩) |>.toArray⟩]⟩

/-- A compiler with another variable, and a machine on which that one holds a text. -/
def knowsName : Compiler :=
  { Compiler.new 8 with
    globals := (Compiler.new 8).globals.put "NOME" { address := 1, global := true }
    next := 2 }

def holdsName : Machine :=
  let (v, m) := (Machine.new 8).intern (.text "Ana")
  (m.setGlobal 1 v).toOption.getD m

theorem reachable_knowsName : knowsName.Reachable :=
  .declareGlobal (.new 8)
    (rfl : (Compiler.new 8).declareGlobal "NOME" false = .ok (1, knowsName))

theorem setGlobal_holdsName : ((Machine.new 8).intern (.text "Ana")).2.setGlobal 1
    ((Machine.new 8).intern (.text "Ana")).1 = .ok holdsName := rfl

theorem command_effect_declareSeven :
    knowsName.environment holdsName "NOME" = some (.text "Ana") ∧
    ∃ compiled m', knowsName.compileCommand declareSeven = .ok compiled ∧
      Ran declaringSeven 2 holdsName m' none ∧
      compiled.compiler.environment m' "X" = some (.int 7) ∧
      compiled.compiler.environment m' "NOME" = some (.text "Ana") := by
  obtain ⟨compiled, hcompiled, hcode⟩ : ∃ compiled,
      knowsName.compileCommand declareSeven = .ok compiled ∧
        compiled.code = [.loadB (.int 7), .writeGlobal 2] := by
    have hvalue : knowsName.expression 2 [.value (.int 7)] = .ok [.loadB (.int 7)] := by
      simp [Compiler.expression, Compiler.compileFrom]
      rfl
    have hoptional : knowsName.optionalValue declareSeven = .ok [.loadB (.int 7)] := hvalue
    have hcommand : knowsName.compileCommand declareSeven =
        knowsName.compileDeclare declareSeven := rfl
    rw [hcommand, Compiler.compileDeclare, hoptional]
    exact ⟨_, rfl, rfl⟩
  have hahead : Ahead declaringSeven holdsName compiled.code := by
    rw [hcode]
    exact ⟨_, rfl, List.prefix_rfl⟩
  obtain ⟨⟨⟨m', failure, hran⟩, hperformed, hfailed⟩, -⟩ := command_effect reachable_knowsName
    hcompiled (.inl rfl) (.setGlobal (.intern _ (.new 8)) setGlobal_holdsName) ⟨rfl, rfl, rfl⟩ hahead
  have hname : knowsName.environment holdsName "NOME" = some (.text "Ana") := rfl
  have hasks : declareSeven.asks (knowsName.environment holdsName) holdsName.input =
      some (.ok (.assign (.int 7))) := by
    simp [Command.asks, declareSeven, evaluate?, read]
    rfl
  cases failure with
  | some e => cases (hfailed m' e hran).2 _ hasks
  | none =>
    have hdone := hperformed m' hran
    refine ⟨hname, compiled, m', hcompiled, by simpa [hcode] using hran, hdone.asked _ hasks, ?_⟩
    rw [hdone.names "NOME" fun _ => by decide]
    exact hname

end Birl
