import Birl.Host
import Birl.Proofs.Compiler.Operands
import Birl.Proofs.Machine.GlobalFrame
import Birl.Proofs.Session.Incremental

/-!
# What happens in a session

A host makes requests of a session, and `history` tells what happens on the way: lines
that are compiled, variables that the host declares and writes, steps of the machine,
and recoveries. Whatever a request does is made of a few kinds of moves, each with its
events (`moves_perform`). So what every move keeps is kept for good (`Moves.keeps`);
`Grounded` is what always holds.
-/

namespace Birl

inductive Event where
  /-- A command was compiled, from one state of the compiler to the next. -/
  | compiled (before : Compiler) (cmd : Command) (after : Compiler)
  /-- The host declared a variable. -/
  | declared (after : Compiler)
  /-- The host wrote a value into the slot of a variable. -/
  | stored (name : Text) (address : Nat) (v : Value) (m : Machine)
  /-- The machine takes the next step of a program. -/
  | stepped (p : Program) (m : Machine)
  /-- The machine was made runnable again. -/
  | recovered

/-- What a host asks of a session. -/
inductive Request where
  | feed (source : Text)
  | feedSource (source : Text)
  | runProgram
  | runEntryPoint
  | recover
  | registerGlobal (name : Text) (v : Value) (readOnly : Bool)
  | setGlobal (name : Text) (v : Value)
  | getGlobal (name : Text)
  | registerPlugin (name : Text) (params : List ParameterKind) (call : Option Callback)
  | intern (k : Constant)
  | assign (name : Text) (v : HostValue)
  | fetch (name : Text)
  | eval (source : Text)

/-- The machines that a run takes a step from. -/
def Machine.visits (p : Program) : (steps : Nat) → Machine → List Machine
  | 0, _ => []
  | steps + 1, m =>
    m :: match step p m with
      | (m, .ok status) => if status.isFinal then [] else visits p steps m
      | (_, .error _) => []

def Machine.runEvents (p : Program) (m : Machine) : List Event :=
  (m.visits p (stepBound p)).map (.stepped p)

def Machine.runAndRecoverEvents (p : Program) (m : Machine) : List Event :=
  m.runEvents p ++
    match (m.run p).2 with
    | .ok _ => []
    | .error _ => [.recovered]

namespace Session

def perform (s : Session) : Request → Session
  | .feed source => (s.feed source).1
  | .feedSource source => (s.feedSource source).1
  | .runProgram => s.runProgram.1
  | .runEntryPoint => s.runEntryPoint.1
  | .recover => s.recover
  | .registerGlobal name v readOnly => (s.registerGlobal name v readOnly).1
  | .setGlobal name v => (s.setGlobal name v).1
  | .getGlobal name => (s.getGlobal name).1
  | .registerPlugin name params call => (s.registerPlugin name params call).1
  | .intern k => { s with machine := (s.machine.intern k).2 }
  | .assign name v => (s.assign name v).1
  | .fetch name => (s.fetch name).1
  | .eval source => (s.eval source).1

def performAll (s : Session) (requests : List Request) : Session := requests.foldl perform s

-- ---------------------------------------------------------------------------
-- Events
-- ---------------------------------------------------------------------------

def feedEvents (s : Session) (source : Text) : List Event :=
  match Command.ofLine (s.line + 1) source with
  | .ok (some cmd) =>
    match s.compiler.compile (s.line + 1) cmd with
    | .ok (hint, compiler) =>
      .compiled s.compiler cmd compiler ::
        if !s.interactive || hint.after s.depth > 0 then []
        else s.machine.runAndRecoverEvents compiler.program
    | .error _ => []
  | _ => []

def feedLinesEvents (s : Session) : List Text → List Event
  | [] => []
  | line :: rest =>
    s.feedEvents line ++
      match s.feed line with
      | (_, .error _) => []
      | (s, .ok ()) => if s.quit then [] else s.feedLinesEvents rest

def withEntryCall (s : Session) : Session :=
  if s.compiler.hasEntryPoint && !s.entryRun then
    { s with compiler := s.compiler.appendEntryCall s.line, entryRun := true }
  else s

def runProgramEvents (s : Session) : List Event :=
  if s.depth > 0 then [] else s.machine.runEvents s.withEntryCall.program

def runEntryPointEvents (s : Session) : List Event :=
  if !s.interactive || s.entryRun || s.quit || s.depth > 0 || !s.compiler.hasEntryPoint then []
  else s.machine.runAndRecoverEvents (s.compiler.appendEntryCall s.line).program

def setEvents (s : Session) (name : Text) (v : Value) : List Event :=
  match s.compiler.global? name with
  | none => []
  | some symbol =>
    match s.machine.setGlobal symbol.address v with
    | .error _ => []
    | .ok _ => [.stored name symbol.address v s.machine]

def registerEvents (s : Session) (name : Text) (v : Value) (readOnly : Bool) : List Event :=
  match s.compiler.declareGlobal name readOnly with
  | .error _ => []
  | .ok (_, compiler) => .declared compiler :: { s with compiler }.setEvents name v

def assignEvents (s : Session) (name : Text) (v : HostValue) : List Event :=
  let (result, texts) := v.toValue s.machine.texts
  let s := { s with machine := { s.machine with texts } }
  match result with
  | .error _ => []
  | .ok v =>
    match s.getGlobal name with
    | (s, .ok _) => s.setEvents name v
    | (s, .error _) => s.registerEvents name v false

def events (s : Session) : Request → List Event
  | .feed source => s.feedEvents source
  | .feedSource source => s.feedLinesEvents source.lines
  | .runProgram => s.runProgramEvents
  | .runEntryPoint => s.runEntryPointEvents
  | .recover => [.recovered]
  | .registerGlobal name v readOnly => s.registerEvents name v readOnly
  | .setGlobal name v => s.setEvents name v
  | .assign name v => s.assignEvents name v
  | .eval source => if s.quit then [] else s.feedLinesEvents source.lines
  | .getGlobal _ | .registerPlugin _ _ _ | .intern _ | .fetch _ => []

/-- All that happens while a session does what it is asked for, in order. -/
def history (s : Session) : List Request → List Event
  | [] => []
  | request :: rest => s.events request ++ (s.perform request).history rest

-- ---------------------------------------------------------------------------
-- Moves
-- ---------------------------------------------------------------------------

/-- The parts that requests are made of, with what happens in each. -/
inductive Move : Session → List Event → Session → Prop
  | compiled {s : Session} {line : Int} {cmd : Command} {hint : ScopeHint} {compiler : Compiler}
      (hc : s.compiler.compile line cmd = .ok (hint, compiler)) :
      Move s [.compiled s.compiler cmd compiler] { s with compiler }
  | entryCall (s : Session) (line : Int) :
      Move s [] { s with compiler := s.compiler.appendEntryCall line }
  | declared {s : Session} {name : Text} {readOnly : Bool} {address : Nat} {compiler : Compiler}
      (hd : s.compiler.declareGlobal name readOnly = .ok (address, compiler)) :
      Move s [.declared compiler] { s with compiler }
  | stored {s : Session} {name : Text} {symbol : Symbol} {v : Value} {machine : Machine}
      (hg : s.compiler.global? name = some symbol)
      (hs : s.machine.setGlobal symbol.address v = .ok machine) :
      Move s [.stored name symbol.address v s.machine] { s with machine }
  | stepped (s : Session) :
      Move s [.stepped s.program s.machine] { s with machine := (s.machine.step s.program).1 }
  | recovered (s : Session) : Move s [.recovered] s.recover
  | plugin (s : Session) (plugin : Plugin) :
      Move s [] { s with machine := (s.machine.addPlugin plugin).2 }
  | registered {s : Session} {name : Text} {params : List ParameterKind} {index : Int}
      {compiler : Compiler} (hr : s.compiler.registerPlugin name params index = .ok compiler) :
      Move s [] { s with compiler }
  | texts (s : Session) (texts : TextStore) : Move s [] { s with machine := { s.machine with texts } }
  | streams (s : Session) (input : Input) (output : Output) :
      Move s [] { s with machine := { s.machine with input, output } }
  | noted (s : Session) (line depth : Nat) (quit entryRun : Bool) (log : Log) :
      Move s [] { s with line, depth, quit, entryRun, log }

/-- Moves one after the other. -/
inductive Moves : Session → List Event → Session → Prop
  | refl (s : Session) : Moves s [] s
  | snoc {s s' s'' : Session} {events more : List Event} (h : Moves s events s')
      (hm : Move s' more s'') : Moves s (events ++ more) s''

section
variable {s s' s'' : Session} {before more : List Event}

theorem Move.moves (h : Move s more s') : Moves s more s' := (Moves.refl s).snoc h

theorem Moves.trans (h : Moves s before s') (h' : Moves s' more s'') : Moves s (before ++ more) s'' := by
  induction h' with
  | refl => simpa using h
  | snoc _ hm ih =>
    rw [← List.append_assoc]
    exact ih.snoc hm

theorem Moves.silent (h : Moves s before s') (hm : Moves s' [] s'') : Moves s before s'' := by
  simpa using h.trans hm

theorem Moves.first (h : Moves s [] s') (h' : Moves s' more s'') : Moves s more s'' := h.trans h'

theorem Moves.cons {e : Event} (h : Moves s [e] s') (h' : Moves s' more s'') :
    Moves s (e :: more) s'' :=
  h.trans h'

theorem Moves.keeps {I : Session → List Event → Prop} (h : Moves s more s')
    (hI : ∀ s events more s', I s events → Move s more s' → I s' (events ++ more))
    (hs : I s before) : I s' (before ++ more) := by
  induction h with
  | refl => simpa using hs
  | snoc _ hm ih =>
    rw [← List.append_assoc]
    exact hI _ _ _ _ ih hm

/-- A step that was taken was taken from a session that had come about until then. -/
theorem Moves.at_step (h : Moves s more s') {after : List Event} {p : Program} {m : Machine}
    (he : more = before ++ .stepped p m :: after) :
    ∃ s₁, Moves s before s₁ ∧ s₁.program = p ∧ s₁.machine = m := by
  induction h generalizing after with
  | refl => simp at he
  | @snoc s₁ s₂ events last h hm ih =>
    rcases List.append_eq_append_iff.mp he with ⟨middle, rfl, hlast⟩ | ⟨middle, hevents, hlast⟩
    · cases hm with
      | stepped =>
        cases middle with
        | nil =>
          cases hlast
          exact ⟨_, by simpa using h, rfl, rfl⟩
        | cons => simp at hlast
      | _ => cases middle <;> simp at hlast
    · cases middle with
      | nil =>
        cases hm with
        | stepped =>
          cases hlast
          exact ⟨_, by simpa [hevents] using h, rfl, rfl⟩
        | _ => simp at hlast
      | cons e middle =>
        obtain ⟨rfl, -⟩ := List.cons.inj hlast
        exact ih hevents

-- ---------------------------------------------------------------------------
-- Requests are made of moves
-- ---------------------------------------------------------------------------

theorem moves_runFor (s : Session) (steps : Nat) :
    Moves s ((s.machine.visits s.program steps).map (.stepped s.program))
      { s with machine := (s.machine.runFor s.program steps).1 } := by
  induction steps generalizing s with
  | zero => exact .refl s
  | succ steps ih =>
    have hstep := (Move.stepped s).moves
    rcases hs : s.machine.step s.program with ⟨m, e | status⟩
    all_goals
      rw [hs] at hstep
      simp only [Machine.visits, Machine.runFor, hs, List.map_cons]
    · exact hstep
    · split
      · exact hstep
      · exact hstep.trans (ih { s with machine := m })

theorem moves_run (s : Session) :
    Moves s (s.machine.runEvents s.program) { s with machine := (s.machine.run s.program).1 } := by
  rcases hrun : s.machine.run s.program with ⟨machine, r⟩
  obtain ⟨m, hfor, rfl⟩ := Machine.runFor_of_run hrun
  have hran := moves_runFor s (Machine.stepBound s.program)
  rw [hfor] at hran
  exact hran.silent (Move.streams _ _ _).moves

theorem moves_runMachine {p : Program} {m : Machine} (hp : s.program = p) (hm : s.machine = m) :
    Moves s (m.runEvents p) s.runMachine.1 := by
  subst hp hm
  have hran := moves_run s
  rcases hrun : s.machine.run s.program with ⟨machine, e | status⟩
  all_goals
    obtain ⟨log, heq⟩ := runMachine_eq hrun
    rw [hrun] at hran
    rw [heq]
    exact hran.silent (Move.noted _ _ _ _ _ _).moves

theorem moves_runAndRecover {p : Program} {m : Machine} (hp : s.program = p) (hm : s.machine = m) :
    Moves s (m.runAndRecoverEvents p) s.runAndRecover.1 := by
  subst hp hm
  have hran := moves_run s
  rcases hrun : s.machine.run s.program with ⟨machine, r⟩
  obtain ⟨log, heq⟩ := runAndRecover_eq hrun
  rw [hrun] at hran
  rw [heq, Machine.runAndRecoverEvents, hrun]
  cases r with
  | ok status =>
    rw [List.append_nil]
    exact hran.silent (Move.noted _ _ _ _ _ _).moves
  | error e =>
    exact (hran.snoc (.recovered _)).silent (Move.noted _ _ _ _ _ _).moves

theorem feedEvents_compiled {source : Text} {cmd : Command} {hint : ScopeHint} {compiler : Compiler}
    (hl : Command.ofLine (s.line + 1) source = .ok (some cmd))
    (hc : s.compiler.compile (s.line + 1) cmd = .ok (hint, compiler)) :
    s.feedEvents source = .compiled s.compiler cmd compiler ::
      if !s.interactive || hint.after s.depth > 0 then []
      else s.machine.runAndRecoverEvents compiler.program := by
  simp only [feedEvents, hl, hc]

theorem feed_silent {source : Text} (h : ∀ cmd hint compiler,
    Command.ofLine (s.line + 1) source = .ok (some cmd) →
      s.compiler.compile (s.line + 1) cmd ≠ .ok (hint, compiler)) :
    s.feedEvents source = [] ∧ (s.feed source).1 = { s with line := s.line + 1 } := by
  rcases hl : Command.ofLine (s.line + 1) source with e | (_ | cmd)
  · simp [feedEvents, feed, hl]
  · simp [feedEvents, feed, hl]
  · rcases hc : s.compiler.compile (s.line + 1) cmd with e | ⟨hint, compiler⟩
    · simp [feedEvents, feed, hl, hc]
    · exact absurd hc (h cmd hint compiler hl)

/-- What is known of a line: it is compiled, or nothing happens. -/
theorem feed_cases (s : Session) (source : Text) :
    (∃ cmd hint compiler, Command.ofLine (s.line + 1) source = .ok (some cmd) ∧
      s.compiler.compile (s.line + 1) cmd = .ok (hint, compiler)) ∨
    (s.feedEvents source = [] ∧ (s.feed source).1 = { s with line := s.line + 1 }) := by
  by_cases h : ∃ cmd hint compiler, Command.ofLine (s.line + 1) source = .ok (some cmd) ∧
      s.compiler.compile (s.line + 1) cmd = .ok (hint, compiler)
  · exact .inl h
  · exact .inr (feed_silent fun cmd hint compiler hl hc => h ⟨cmd, hint, compiler, hl, hc⟩)

theorem moves_feed (s : Session) (source : Text) : Moves s (s.feedEvents source) (s.feed source).1 := by
  rcases s.feed_cases source with ⟨cmd, hint, compiler, hl, hc⟩ | ⟨hevents, hfeed⟩
  · obtain ⟨s', ⟨log, rfl⟩, hfeed⟩ := feed_compiled hl hc
    have hcompiled : Moves s [.compiled s.compiler cmd compiler]
        { s with line := s.line + 1, compiler, depth := hint.after s.depth, log } :=
      (Move.compiled hc).moves.silent (Move.noted _ _ _ _ _ _).moves
    rw [feedEvents_compiled hl hc, hfeed]
    split
    · exact hcompiled
    · exact hcompiled.cons (moves_runAndRecover rfl rfl)
  · rw [hevents, hfeed]
    exact (Move.noted _ _ _ _ _ _).moves

theorem moves_feedLines (s : Session) (lines : List Text) :
    Moves s (s.feedLinesEvents lines) (s.feedLines lines).1 := by
  induction lines generalizing s with
  | nil => exact .refl s
  | cons line rest ih =>
    have hfeed := moves_feed s line
    simp only [feedLinesEvents, feedLines]
    rcases hf : s.feed line with ⟨s', e | ⟨⟩⟩
    · rw [hf] at hfeed
      simpa using hfeed
    · rw [hf] at hfeed
      simp only
      split
      · simpa using hfeed
      · exact hfeed.trans (ih s')

theorem moves_logged (s : Session) (level : LogLevel) (message : Text)
    (fields : List (Text × LogField)) : Moves s [] (s.logged level message fields) :=
  (Move.noted s s.line s.depth s.quit s.entryRun _).moves

theorem moves_withEntryCall (s : Session) : Moves s [] s.withEntryCall := by
  unfold withEntryCall
  split
  · exact (Move.entryCall s s.line).moves.silent (Move.noted _ _ _ _ _ _).moves
  · exact .refl s

theorem runProgram_eq (s : Session) : s.runProgram =
    if s.depth > 0 then (s, .error (.compile s.line (.blocksLeftOpen s.depth)))
    else
      (s.withEntryCall.logged .debug "running program" [("file", .text s.withEntryCall.file),
        ("segments", .int s.withEntryCall.program.segments.size)]).runMachine := rfl

theorem moves_runProgram (s : Session) : Moves s s.runProgramEvents s.runProgram.1 := by
  rw [runProgramEvents, runProgram_eq]
  split
  · exact .refl s
  · have hmachine : s.withEntryCall.machine = s.machine := by
      unfold withEntryCall
      split <;> rfl
    exact ((moves_withEntryCall s).silent (moves_logged _ _ _ _)).first (moves_runMachine rfl hmachine)

theorem moves_runEntryPoint (s : Session) : Moves s s.runEntryPointEvents s.runEntryPoint.1 := by
  rw [runEntryPointEvents, runEntryPoint_eq]
  split
  · exact .refl s
  · have hcall : Moves s []
        { s with entryRun := true, compiler := s.compiler.appendEntryCall s.line } :=
      (Move.entryCall s s.line).moves.silent (Move.noted _ _ _ _ _ _).moves
    exact (hcall.silent (moves_logged _ _ _ _)).first (moves_runAndRecover rfl rfl)

theorem moves_setGlobal (s : Session) (name : Text) (v : Value) :
    Moves s (s.setEvents name v) (s.setGlobal name v).1 := by
  cases hg : s.compiler.global? name with
  | none =>
    simp only [setEvents, setGlobal, hg]
    exact .refl s
  | some symbol =>
    rcases hs : s.machine.setGlobal symbol.address v with e | machine
    · simp only [setEvents, setGlobal, hg, hs]
      exact .refl s
    · simp only [setEvents, setGlobal, hg, hs]
      exact (Move.stored hg hs).moves

theorem global?_declareGlobal {c c' : Compiler} {name : Text} {readOnly : Bool} {address : Nat}
    (hd : c.declareGlobal name readOnly = .ok (address, c')) :
    ∃ symbol, c'.global? name = some symbol ∧ symbol.address = address := by
  obtain ⟨hdepth, symbol, haddress, hdeclares⟩ := Compiler.declareGlobal_ok hd
  refine ⟨symbol, ?_, haddress⟩
  cases hdeclares <;>
    simp [Compiler.global?, Compiler.setInnermost_of_depth_zero _ hdepth, Bindings.find?_put]

theorem registerGlobal_eq {name : Text} {v : Value} {readOnly : Bool} {address : Nat}
    {compiler : Compiler} (hd : s.compiler.declareGlobal name readOnly = .ok (address, compiler)) :
    s.registerGlobal name v readOnly = { s with compiler }.setGlobal name v := by
  obtain ⟨symbol, hsymbol, rfl⟩ := global?_declareGlobal hd
  simp [registerGlobal, setGlobal, hd, hsymbol]

theorem moves_registerGlobal (s : Session) (name : Text) (v : Value) (readOnly : Bool) :
    Moves s (s.registerEvents name v readOnly) (s.registerGlobal name v readOnly).1 := by
  unfold registerEvents
  rcases hd : s.compiler.declareGlobal name readOnly with e | ⟨address, compiler⟩
  · simp only [registerGlobal, hd]
    exact .refl s
  · rw [registerGlobal_eq hd]
    exact (Move.declared hd).moves.trans (moves_setGlobal _ name v)

theorem moves_getGlobal (s : Session) (name : Text) : Moves s [] (s.getGlobal name).1 :=
  getGlobal_induct (.refl s) fun texts _ => (Move.texts s texts).moves

theorem moves_registerPlugin (s : Session) (name : Text) (params : List ParameterKind)
    (call : Option Callback) : Moves s [] (s.registerPlugin name params call).1 := by
  cases call with
  | none => exact .refl s
  | some call =>
    have hadded := (Move.plugin s { name, params, call }).moves
    exact registerPlugin_induct (.refl s) hadded fun compiler hr =>
      hadded.silent (Move.registered (s := { s with
        machine := (s.machine.addPlugin { name, params, call }).2 }) hr).moves

theorem fetch_fst (s : Session) (name : Text) : (s.fetch name).1 = (s.getGlobal name).1 := by
  unfold fetch
  split
  · rename_i hg
    rw [hg]
  · rename_i hg
    rw [hg]
    split <;> rfl

theorem moves_fetch (s : Session) (name : Text) : Moves s [] (s.fetch name).1 := by
  rw [fetch_fst]
  exact moves_getGlobal s name

theorem moves_assign (s : Session) (name : Text) (v : HostValue) :
    Moves s (s.assignEvents name v) (s.assign name v).1 := by
  rcases hv : v.toValue s.machine.texts with ⟨e | v', texts⟩
  all_goals
    have htexts := (Move.texts s texts).moves
    simp only [assignEvents, assign, hv]
  · exact htexts
  · have hget := htexts.silent (moves_getGlobal _ name)
    rcases hg : getGlobal { s with machine := { s.machine with texts } } name with ⟨s', e | _⟩
    all_goals rw [hg] at hget
    · exact hget.trans (moves_registerGlobal s' name v' false)
    · exact hget.trans (moves_setGlobal s' name v')

theorem moves_eval (s : Session) (source : Text) :
    Moves s (if s.quit then [] else s.feedLinesEvents source.lines) (s.eval source).1 := by
  have hfeed := moves_feedLines s source.lines
  unfold eval feedSource
  split
  · exact .refl s
  · rcases hf : s.feedLines source.lines with ⟨s', e | ⟨⟩⟩
    · rwa [hf] at hfeed
    · rw [hf] at hfeed
      exact hfeed.silent (moves_fetch s' returnName)

/-- What a request does is made of moves, and its events are theirs. -/
theorem moves_perform (s : Session) (request : Request) :
    Moves s (s.events request) (s.perform request) := by
  cases request with
  | feed source => exact moves_feed s source
  | feedSource source => exact moves_feedLines s source.lines
  | runProgram => exact moves_runProgram s
  | runEntryPoint => exact moves_runEntryPoint s
  | recover => exact (Move.recovered s).moves
  | registerGlobal name v readOnly => exact moves_registerGlobal s name v readOnly
  | setGlobal name v => exact moves_setGlobal s name v
  | getGlobal name => exact moves_getGlobal s name
  | registerPlugin name params call => exact moves_registerPlugin s name params call
  | intern k => exact (Move.texts s _).moves
  | assign name v => exact moves_assign s name v
  | fetch name => exact moves_fetch s name
  | eval source => exact moves_eval s source

theorem moves_performAll (s : Session) (requests : List Request) :
    Moves s (s.history requests) (s.performAll requests) := by
  induction requests generalizing s with
  | nil => exact .refl s
  | cons request rest ih => exact (moves_perform s request).trans (ih _)

theorem performAll_append (s : Session) (first second : List Request) :
    s.performAll (first ++ second) = (s.performAll first).performAll second :=
  List.foldl_append

theorem history_append (s : Session) (first second : List Request) :
    s.history (first ++ second) = s.history first ++ (s.performAll first).history second := by
  induction first generalizing s with
  | nil => rfl
  | cons request rest ih =>
    simp only [List.cons_append, history, ih, List.append_assoc]
    rfl

theorem moves_new {options : SessionOptions} (h : Session.new options = .ok s) :
    ∃ events, Moves (start options) events s := by
  refine new_induct (I := fun s => ∃ events, Moves (start options) events s) ⟨[], .refl _⟩ ?_ ?_ ?_ h
  · rintro s k ⟨events, h⟩
    exact ⟨events, h.silent (Move.texts s _).moves⟩
  · rintro s name v readOnly ⟨events, h⟩
    exact ⟨_, h.trans (moves_registerGlobal s name v readOnly)⟩
  · rintro s plugin - ⟨events, h⟩
    exact ⟨events, h.silent (moves_registerPlugin s _ _ _)⟩

-- ---------------------------------------------------------------------------
-- What always holds
-- ---------------------------------------------------------------------------

theorem setGlobal_stored {m m' : Machine} {a : Nat} {v : Value} (h : m.setGlobal a v = .ok m') :
    a < m.frameSize ∧ m' = { m with global := m.global.afterStore a v m.texts } ∧
      ∃ k, m.texts.constant? v = some k := by
  unfold Machine.setGlobal Machine.globalAddress at h
  split at h
  · rename_i ha
    simp only [bind_ok, pure_ok] at h
    obtain ⟨_, hok, global, hstore, rfl⟩ := h
    cases hok
    have hstore : m.global.store a v m.texts = .ok global := hstore
    refine ⟨by omega, by simp [Frame.afterStore, hstore], ?_⟩
    cases v with
    | text id =>
      simp only [Frame.store, TextStore.get] at hstore
      cases hfind : m.texts.find? id with
      | some t => exact ⟨.text t, by simp [TextStore.constant?, hfind]⟩
      | none => simp [hfind] at hstore
    | _ => exact ⟨_, rfl⟩
  · cases h

/-- The compiler and the machine belong together, and the machine is in order as far as
the global frame goes. -/
structure Grounded (s : Session) : Prop where
  compiler : s.compiler.Reachable
  size : s.machine.frameSize = s.compiler.frameSize
  pos : 0 < s.machine.frameSize
  rooted : s.machine.Rooted
  sound : s.machine.global.Sound s.machine.frameSize
  pc_le : s.machine.global.pc ≤ s.program.globalLength
  calls : s.machine.CallsAre (· ≠ .code globalCode)

theorem grounded_start (options : SessionOptions) : Grounded (start options) := by
  have htwo := two_le_frameSizeFor options.frameSize
  refine ⟨.new _, rfl, ?_, ⟨rfl, rfl⟩, ?_, Nat.zero_le _, nofun⟩
  · exact Nat.lt_of_lt_of_le (by decide) htwo
  · exact (Frame.sound_new (.code globalCode) (frameSizeFor options.frameSize)).congr rfl rfl

theorem Grounded.withCompiler (h : Grounded s) {compiler : Compiler} (hr : compiler.Reachable)
    (hs : compiler.frameSize = s.compiler.frameSize) (hp : s.program.Extends compiler.program) :
    Grounded { s with compiler } :=
  ⟨hr, h.size.trans hs.symm, h.pos, h.rooted, h.sound,
    Nat.le_trans h.pc_le hp.globalLength_le, h.calls⟩

theorem Move.grounded (hm : Move s more s') (h : Grounded s) : Grounded s' := by
  cases hm with
  | compiled hc =>
    obtain ⟨hsize, hprogram, -⟩ := Compiler.widens_compile hc
    exact h.withCompiler (h.compiler.compile hc) hsize hprogram
  | entryCall line =>
    exact h.withCompiler (h.compiler.appendEntryCall line) rfl (Program.extends_append _ _ _)
  | declared hd =>
    obtain ⟨hsize, hprogram, -⟩ := Compiler.widens_declareGlobal hd
    exact h.withCompiler (h.compiler.declareGlobal hd) hsize hprogram
  | registered hr =>
    obtain ⟨hsize, hprogram, -⟩ := Compiler.widens_registerPlugin hr
    exact h.withCompiler (h.compiler.registerPlugin hr) hsize hprogram
  | @stored name symbol v machine hg hs =>
    obtain ⟨ha, rfl, -⟩ := setGlobal_stored hs
    have hcontrol : (s.machine.global.afterStore symbol.address v s.machine.texts).control =
        s.machine.global.control := Frame.control_afterStore
    have hpc := Nat.le_of_eq (congrArg Control.pc hcontrol)
    exact ⟨h.compiler, h.size, h.pos, h.rooted.of_control hcontrol, (h.sound.afterStore ha).1,
      Nat.le_trans hpc h.pc_le, h.calls⟩
  | stepped =>
    have hrooted := h.rooted.step s.program
    have hsound := (Machine.step_global h.sound h.pos s.program).1
    have hpc := (Machine.step_pc_le h.rooted h.pc_le).2
    have hcalls : (s.machine.step s.program).1.CallsAre (· ≠ .code globalCode) := by
      refine Machine.calls_step h.calls nofun fun id segment hs code hop => ?_
      rcases h.compiler.refers id segment hs _ hop with hplugin | ⟨hne, -⟩
      · cases hplugin
      · intro howner
        exact hne (congrArg Nat.cast (FrameOwner.code.inj howner))
    rcases hstep : s.machine.step s.program with ⟨machine, r⟩
    obtain ⟨-, hsize⟩ := Machine.step_setup hstep
    rw [hstep] at hrooted hsound hpc hcalls
    rw [← hsize] at hsound
    exact ⟨h.compiler, hsize.trans h.size, hsize.symm ▸ h.pos, hrooted, hsound, hpc, hcalls⟩
  | recovered => exact ⟨h.compiler, h.size, h.pos, h.rooted, h.sound.congr rfl rfl, Nat.le_refl _, nofun⟩
  | plugin => exact ⟨h.compiler, h.size, h.pos, h.rooted, h.sound, h.pc_le, h.calls⟩
  | texts => exact ⟨h.compiler, h.size, h.pos, h.rooted, h.sound, h.pc_le, h.calls⟩
  | streams => exact ⟨h.compiler, h.size, h.pos, h.rooted, h.sound, h.pc_le, h.calls⟩
  | noted => exact ⟨h.compiler, h.size, h.pos, h.rooted, h.sound, h.pc_le, h.calls⟩

theorem Moves.grounded (hm : Moves s more s') (h : Grounded s) : Grounded s' := by
  induction hm with
  | refl => exact h
  | snoc _ hm ih => exact hm.grounded ih

theorem grounded_new {options : SessionOptions} (h : Session.new options = .ok s) : Grounded s := by
  obtain ⟨events, hmoves⟩ := moves_new h
  exact hmoves.grounded (grounded_start options)

end
end Session
end Birl
