import Birl.Proofs.Session.Setup

/-!
# Running line by line

A batch session compiles every line and runs the program once. An interactive session
runs whenever no block is open. Its machine then stops at the end of the code so far,
with no call under way, and the next run goes on from there with code that only
continues the program. So both write the same, read the same and end in the same way
(`incremental_agrees`).
-/

namespace Birl

open Machine (Alike AtEnd Due Paused Stops)

namespace Session

def runLines (s : Session) (source : Text) : Result Unit :=
  match s.feedSource source with
  | (s, .error e) => (s, .error e)
  | (s, .ok ()) => s.runEntryPoint

-- ---------------------------------------------------------------------------
-- One line
-- ---------------------------------------------------------------------------

/-- A line is taken, but not run. -/
inductive Takes (s : Session) (source : Text) : Session → Prop
  | blank (hl : Command.ofLine (s.line + 1) source = .ok none) :
      Takes s source { s with line := s.line + 1 }
  | compiled {cmd : Command} {hint : ScopeHint} {compiler : Compiler} (log : Log)
      (hl : Command.ofLine (s.line + 1) source = .ok (some cmd))
      (hc : s.compiler.compile (s.line + 1) cmd = .ok (hint, compiler)) :
      Takes s source { s with line := s.line + 1, compiler, depth := hint.after s.depth, log }

section
variable {s s' : Session} {source : Text}

theorem accept_eq (s : Session) (cmd : Command) (hint : ScopeHint) (compiler : Compiler) :
    ∃ log, s.accept cmd hint compiler =
      { s with compiler, depth := hint.after s.depth, log } := by
  unfold accept logFunction
  simp only
  split
  · cases hint <;> exact ⟨_, rfl⟩
  · cases hint <;> exact ⟨_, rfl⟩

theorem feed_blank (hl : Command.ofLine (s.line + 1) source = .ok none) :
    s.feed source = ({ s with line := s.line + 1 }, .ok ()) := by
  simp [feed, hl]

theorem feed_compiled {cmd : Command} {hint : ScopeHint} {compiler : Compiler}
    (hl : Command.ofLine (s.line + 1) source = .ok (some cmd))
    (hc : s.compiler.compile (s.line + 1) cmd = .ok (hint, compiler)) :
    ∃ s', (∃ log, s' = { s with line := s.line + 1, compiler, depth := hint.after s.depth, log }) ∧
      s.feed source = if !s.interactive || hint.after s.depth > 0 then (s', .ok ())
        else s'.runAndRecover := by
  obtain ⟨log, haccept⟩ := accept_eq { s with line := s.line + 1 } cmd hint compiler
  refine ⟨_, ⟨log, rfl⟩, ?_⟩
  have hfeed : s.feed source =
      let s' := Session.accept { s with line := s.line + 1 } cmd hint compiler
      if !s'.interactive || s'.depth > 0 then (s', .ok ()) else s'.runAndRecover := by
    simp [feed, hl, hc]
  rw [hfeed, haccept]

theorem takes_of_feed (hb : s.interactive = false) (h : s.feed source = (s', .ok ())) :
    Takes s source s' := by
  cases hl : Command.ofLine (s.line + 1) source with
  | error e => simp [feed, hl] at h
  | ok line =>
    cases line with
    | none =>
      rw [feed_blank hl] at h
      cases h
      exact .blank hl
    | some cmd =>
      cases hc : s.compiler.compile (s.line + 1) cmd with
      | error e => simp [feed, hl, hc] at h
      | ok result =>
        obtain ⟨hint, compiler⟩ := result
        obtain ⟨s₁, ⟨log, rfl⟩, hfeed⟩ := feed_compiled hl hc
        rw [hfeed, if_pos (by simp [hb])] at h
        cases h
        exact .compiled log hl hc

end

-- ---------------------------------------------------------------------------
-- Batch sessions
-- ---------------------------------------------------------------------------

structure Batch (s : Session) : Prop where
  safe : ∃ plugins, s.compiler.Safe plugins
  tidy : s.compiler.Tidy
  depth : s.depth = s.compiler.depth
  interactive : s.interactive = false
  quit : s.quit = false
  entryRun : s.entryRun = false

section
variable {b b' b₁ : Session} {source : Text}

theorem Batch.takes (h : Batch b) (ht : Takes b source b') :
    Batch b' ∧ Compiler.Grows b.compiler b'.compiler ∧ b'.machine = b.machine := by
  obtain ⟨plugins, hsafe⟩ := h.safe
  cases ht with
  | blank =>
    exact ⟨⟨h.safe, h.tidy, h.depth, h.interactive, h.quit, h.entryRun⟩, .refl _, rfl⟩
  | @compiled cmd hint compiler log hl hc =>
    have hdepth : hint.after b.depth = compiler.depth := by
      rw [Compiler.depth_compile hc, h.depth]
    exact ⟨⟨⟨plugins, hsafe.compile hc⟩, h.tidy.compile hsafe hc, hdepth, h.interactive, h.quit,
      h.entryRun⟩, .compile hsafe hc, rfl⟩

theorem Batch.feedLines_cons (h : Batch b) {line : Text} {rest : List Text}
    (hf : b.feedLines (line :: rest) = (b₁, .ok ())) :
    ∃ b', Takes b line b' ∧ b'.feedLines rest = (b₁, .ok ()) := by
  rw [feedLines] at hf
  split at hf
  · cases hf
  · rename_i b' hfeed
    have ht := takes_of_feed h.interactive hfeed
    obtain ⟨hb', -⟩ := h.takes ht
    rw [hb'.quit] at hf
    exact ⟨b', ht, hf⟩

theorem Batch.feedLines {lines : List Text} (h : Batch b) (hf : b.feedLines lines = (b₁, .ok ())) :
    Batch b₁ ∧ Compiler.Grows b.compiler b₁.compiler ∧ b₁.machine = b.machine := by
  induction lines generalizing b with
  | nil =>
    cases hf
    exact ⟨h, .refl _, rfl⟩
  | cons line rest ih =>
    obtain ⟨b', ht, hrest⟩ := h.feedLines_cons hf
    obtain ⟨hb', hgrows, hmachine⟩ := h.takes ht
    obtain ⟨hb₁, hgrows', hmachine'⟩ := ih hb' hrest
    exact ⟨hb₁, hgrows.trans hgrows', hmachine'.trans hmachine⟩

end

-- ---------------------------------------------------------------------------
-- Interactive sessions
-- ---------------------------------------------------------------------------

/-- Everything that was written and read. -/
def SameStreams (s : Session) (m : Machine) : Prop :=
  s.machine.output.text = m.output.text ∧ s.machine.input = m.input

/-- The session came to the end of the run: the program has quit, or failed. -/
inductive Finished (r : Except Error Status) (goal : Machine) : Result Unit → Prop
  | quit {s : Session} (hr : r = .ok .quit) (hq : s.quit = true) (hs : s.SameStreams goal) :
      Finished r goal (s, .ok ())
  | failed {s : Session} {e : Error} (hr : r = .error e) (hs : s.SameStreams goal) :
      Finished r goal (s, .error e)

/-- An interactive session that has taken the lines that a batch session has taken. Its
machine waits at the end of the code that it could run, and the run of `p` that ends
with `r` and a machine like `goal` is where it is going. -/
structure Follows (p : Program) (r : Except Error Status) (goal : Machine) (b i : Session) :
    Prop where
  compiler : i.compiler = b.compiler
  line : i.line = b.line
  depth : i.depth = b.depth
  interactive : i.interactive = true
  quit : i.quit = false
  entryRun : i.entryRun = false
  paused : i.machine.Paused i.program
  atEnd : i.depth = 0 → i.machine.AtEnd i.program
  due : Due p i.machine r goal

section
variable {p : Program} {r : Except Error Status} {goal : Machine} {b b' b₁ i i' : Session}
  {source : Text} {c : Compiler}

theorem sameStreams_of_alike {s : Session} {m : Machine} (h : Alike goal m)
    (ho : s.machine.output = m.output) (hi : s.machine.input = m.input) : s.SameStreams goal := by
  obtain ⟨output, rfl, houtput⟩ := h
  exact ⟨by rw [ho]; exact houtput.text, hi⟩

theorem finished_of_run {s : Session} {m : Machine} (hrun : s.machine.run s.program = (m, r))
    (hstop : Stops r) (hne : r ≠ .ok .halt) (ha : Alike goal m) :
    Finished r goal s.runAndRecover := by
  obtain ⟨log, heq⟩ := runAndRecover_eq (s := s) hrun
  rw [heq]
  cases r with
  | ok status =>
    have hquit : status = .quit := by
      have hfinal := hstop status rfl
      cases status with
      | halt => exact absurd rfl hne
      | quit => rfl
      | _ => cases hfinal
    subst hquit
    exact .quit rfl (by simp) (sameStreams_of_alike ha rfl rfl)
  | error e => exact .failed rfl (sameStreams_of_alike ha.flush_right rfl rfl)

theorem runAndRecover_follows (hp : i.machine.Paused i.program) (hc : i.program.Continues p)
    (hd : Due p i.machine r goal) (hq : i.quit = false) :
    (∃ machine log, i.runAndRecover = ({ i with machine, log }, .ok ()) ∧
      machine.Paused i.program ∧ machine.AtEnd i.program ∧ Due p machine r goal) ∨
      Finished r goal i.runAndRecover := by
  rcases hd.resume hc hp with ⟨m, hrun, hstop, hne, halike⟩ | ⟨m, hrun, hpaused, hend, hdue⟩
  · exact .inr (finished_of_run (s := i) hrun hstop hne halike)
  · obtain ⟨log, heq⟩ := runAndRecover_eq hrun
    refine .inl ⟨m, log, ?_, hpaused, hend, hdue⟩
    rw [heq]
    simp [hq]

theorem Follows.feed (h : Follows c.program r goal b i) (hb : Batch b) (ht : Takes b source b')
    (hg : Compiler.Grows b'.compiler c) :
    (∃ i', i.feed source = (i', .ok ()) ∧ Follows c.program r goal b' i') ∨
      Finished r goal (i.feed source) := by
  obtain ⟨hb', hgrows, -⟩ := hb.takes ht
  cases ht with
  | blank hl =>
    rw [← h.line] at hl
    refine .inl ⟨_, feed_blank hl, h.compiler, congrArg (· + 1) h.line, h.depth, h.interactive,
      h.quit, h.entryRun, h.paused, h.atEnd, h.due⟩
  | @compiled cmd hint compiler log hl hc =>
    rw [← h.line] at hl hc
    rw [← h.compiler] at hc
    obtain ⟨i₁, ⟨log', rfl⟩, hfeed⟩ := feed_compiled hl hc
    have hpaused : i.machine.Paused compiler.program := by
      have hprogram : i.program.Extends compiler.program := by
        have := hgrows.program
        rw [← h.compiler] at this
        exact this
      exact h.paused.extend hprogram
    -- Only where no block is open does the session run.
    by_cases hopen : hint.after i.depth > 0
    · rw [hfeed, if_pos (by simp [hopen])]
      refine .inl ⟨_, rfl, rfl, congrArg (· + 1) h.line, congrArg hint.after h.depth, h.interactive,
        h.quit, h.entryRun, hpaused, fun hzero => ?_, h.due⟩
      exact absurd hzero (Nat.ne_of_gt hopen)
    · have hzero : hint.after i.depth = 0 := by omega
      have hdepth : compiler.depth = 0 := by
        rw [← hb'.depth, ← h.depth]
        exact hzero
      obtain ⟨plugins, hsafe⟩ := hb'.safe
      have hcontinues : compiler.program.Continues c.program :=
        hg.continues hsafe hb'.tidy hdepth
      rw [hfeed, if_neg (by simp [hopen, h.interactive])]
      refine (runAndRecover_follows
        (i := { i with line := i.line + 1, compiler, depth := hint.after i.depth, log := log' })
        hpaused hcontinues h.due h.quit).imp_left ?_
      rintro ⟨machine, log, hrun, hpaused', hend, hdue⟩
      exact ⟨_, hrun, rfl, congrArg (· + 1) h.line, congrArg hint.after h.depth, h.interactive,
        h.quit, h.entryRun, hpaused', fun _ => hend, hdue⟩

theorem Follows.feedLines (h : Follows c.program r goal b i) (hb : Batch b) {lines : List Text}
    (hf : b.feedLines lines = (b₁, .ok ())) (hg : Compiler.Grows b₁.compiler c) :
    (∃ i', i.feedLines lines = (i', .ok ()) ∧ Follows c.program r goal b₁ i') ∨
      Finished r goal (i.feedLines lines) := by
  induction lines generalizing b i with
  | nil =>
    cases hf
    exact .inl ⟨i, rfl, h⟩
  | cons line rest ih =>
    obtain ⟨b', ht, hrest⟩ := hb.feedLines_cons hf
    obtain ⟨hb', -, -⟩ := hb.takes ht
    obtain ⟨-, hgrows, -⟩ := hb'.feedLines hrest
    rw [Session.feedLines]
    rcases h.feed hb ht (hgrows.trans hg) with ⟨i', hfeed, hfollows⟩ | hfinished
    · rw [hfeed]
      simp only [hfollows.quit, Bool.false_eq_true, if_false]
      exact ih hfollows hb' hrest
    · right
      generalize i.feed line = result at hfinished
      cases hfinished with
      | quit hr hq hs =>
        simp only [hq, if_true]
        exact .quit hr hq hs
      | failed hr hs => exact .failed hr hs

-- ---------------------------------------------------------------------------
-- The entry point
-- ---------------------------------------------------------------------------

/-- The compiler of the whole program: the entry point, if there is one, is called last. -/
def completed (s : Session) : Compiler :=
  if s.compiler.hasEntryPoint then s.compiler.appendEntryCall s.line else s.compiler

theorem grows_completed (s : Session) : Compiler.Grows s.compiler s.completed := by
  unfold completed
  split
  · exact .appendEntryCall _ _
  · exact .refl _

theorem runMachine_ok {s s' : Session} (h : s.runMachine = (s', r)) (hq : s.quit = false) :
    s'.compiler = s.compiler ∧ s.machine.run s.program = (s'.machine, r) ∧
      (s'.quit = true ↔ r = .ok .quit) := by
  rcases hrun : s.machine.run s.program with ⟨m, r'⟩
  obtain ⟨log, heq⟩ := runMachine_eq hrun
  rw [heq] at h
  cases r' with
  | ok status =>
    cases h
    exact ⟨rfl, rfl, by simp [hq]⟩
  | error e =>
    cases h
    exact ⟨rfl, rfl, by simp [hq]⟩

theorem Batch.runProgram (h : Batch b) (hd : b.depth = 0) (hr : b.runProgram = (b', r)) :
    b'.compiler = b.completed ∧ b.machine.run b'.program = (b'.machine, r) ∧
      (b'.quit = true ↔ r = .ok .quit) := by
  obtain ⟨s, hs, hmachine, hquit, hcompiler⟩ : ∃ s : Session, b.runProgram = s.runMachine ∧
      s.machine = b.machine ∧ s.quit = false ∧ s.compiler = b.completed := by
    unfold Session.runProgram
    rw [if_neg (by omega)]
    cases he : b.compiler.hasEntryPoint with
    | true =>
      simp only [h.entryRun, Bool.not_false, Bool.and_self, if_true]
      exact ⟨_, rfl, rfl, h.quit, by simp [completed, he, logged]⟩
    | false =>
      simp only [Bool.false_and, Bool.false_eq_true, if_false]
      exact ⟨_, rfl, rfl, h.quit, by simp [completed, he, logged]⟩
  rw [hs] at hr
  obtain ⟨hcompiler', hrun, hquit'⟩ := runMachine_ok hr hquit
  refine ⟨hcompiler'.trans hcompiler, ?_, hquit'⟩
  rw [program, hcompiler', ← hmachine]
  exact hrun

theorem Follows.runEntryPoint (h : Follows b.completed.program r goal b i) (hd : b.depth = 0) :
    (∃ i', i.runEntryPoint = (i', .ok ()) ∧ r = .ok .halt ∧ i'.quit = false ∧
      i'.compiler = b.completed ∧ Alike goal i'.machine) ∨ Finished r goal i.runEntryPoint := by
  have hzero : i.depth = 0 := h.depth.trans hd
  cases he : b.compiler.hasEntryPoint with
  | false =>
    have hcompleted : b.completed = b.compiler := by simp [completed, he]
    have hend := h.atEnd hzero
    rw [program, h.compiler, ← hcompleted] at hend
    obtain ⟨rfl, halike⟩ := h.due.atEnd hend
    refine .inl ⟨i, ?_, rfl, h.quit, h.compiler.trans hcompleted.symm, halike⟩
    simp [Session.runEntryPoint, h.compiler, he]
  | true =>
    have hcompleted : i.compiler.appendEntryCall i.line = b.completed := by
      simp [completed, he, h.compiler, h.line]
    have hentry : i.runEntryPoint = (({ i with
        entryRun := true, compiler := i.compiler.appendEntryCall i.line } : Session).logged .debug
          "calling entry point" [("line", .int i.line)]).runAndRecover := by
      simp [Session.runEntryPoint, h.interactive, h.entryRun, h.quit, hzero, h.compiler, he]
    rw [hentry, hcompleted]
    have hpaused : i.machine.Paused b.completed.program := by
      rw [← hcompleted]
      exact h.paused.extend (Program.extends_append _ _ _)
    obtain ⟨m, hrun, hstop, halike⟩ := h.due.run hpaused
    by_cases hhalt : r = .ok .halt
    · subst hhalt
      refine .inl ?_
      obtain ⟨log, heq⟩ := runAndRecover_eq (s := ({ i with
        entryRun := true, compiler := b.completed } : Session).logged .debug "calling entry point"
          [("line", .int i.line)]) hrun
      refine ⟨_, heq, rfl, ?_, rfl, halike⟩
      simp [logged, h.quit]
    · exact .inr (finished_of_run hrun hstop hhalt halike)

-- ---------------------------------------------------------------------------
-- Sessions that were set up
-- ---------------------------------------------------------------------------

theorem Fresh.batch {options : SessionOptions} (h : Fresh options b)
    (hi : options.interactive = false) : Batch b :=
  ⟨⟨_, h.safe⟩, h.tidy, h.depth.trans h.scopes.symm, h.interactive.trans hi, h.quit, h.entryRun⟩

theorem Fresh.paused {options : SessionOptions} (h : Fresh options b)
    (hw : options.output.Working) : b.machine.Paused b.program ∧ b.machine.AtEnd b.program := by
  have hstack : b.machine.calls.map Frame.control ++ [b.machine.global.control] =
      [] ++ [⟨.code globalCode, 0, true, 0⟩] := by
    rw [List.nil_append, ← h.stack]
    simp [Machine.stack, Machine.frames]
  obtain ⟨hcalls, hglobal⟩ := List.append_inj' hstack rfl
  have hcalls : b.machine.calls = [] := List.map_eq_nil_iff.mp hcalls
  have hglobal : b.machine.global.control = ⟨.code globalCode, 0, true, 0⟩ :=
    List.singleton_inj.mp hglobal
  have howner : b.machine.global.owner = .code globalCode := congrArg Control.owner hglobal
  have hcurrent : b.machine.current = b.machine.global := by
    simp [Machine.current, hcalls, Machine.lastReady?]
  have hprogram : b.program = .empty := h.program
  rw [hprogram]
  refine ⟨⟨hcalls, howner, ⟨{}, [], _, [], h.stack, ?_, List.forall_mem_nil _, fun _ => rfl,
    fun _ => rfl⟩, ?_⟩, hcalls, { name := "<global>" }, ?_, rfl⟩
  · exact ⟨rfl, globalCode, _, rfl, rfl, Nat.zero_le _, rfl⟩
  · rw [h.output]
    exact hw
  · rw [Machine.segment?, hcurrent, howner]
    rfl

/-- The interactive session that was set up alike follows a batch session. -/
theorem Fresh.follows {options options' : SessionOptions} {identities identities' : Nat → Text}
    (h : Fresh options b) (hi : Fresh options' i) (hmode : options'.interactive = true)
    (hw : options'.output.Working) (hm : b.Matches identities identities' i)
    (hd : Due p i.machine r goal) : Follows p r goal b i := by
  obtain ⟨hpaused, hend⟩ := hi.paused hw
  obtain ⟨interactive, plugins, rfl, -⟩ := hm
  exact ⟨rfl, rfl, rfl, hi.interactive.trans hmode, h.quit, h.entryRun, hpaused, fun _ => hend, hd⟩

theorem Follows.runLines (h : Follows b₁.completed.program r goal b i) (hb : Batch b)
    (hf : b.feedSource source = (b₁, .ok ())) (hd : b₁.depth = 0) :
    (∃ i', i.runLines source = (i', .ok ()) ∧ r = .ok .halt ∧ i'.quit = false ∧
      i'.compiler = b₁.completed ∧ Alike goal i'.machine) ∨
      Finished r goal (i.runLines source) := by
  unfold Session.runLines
  rcases h.feedLines hb hf (grows_completed b₁) with ⟨i', hfeed, hfollows⟩ | hfinished
  · have hfeed : i.feedSource source = (i', .ok ()) := hfeed
    rw [hfeed]
    exact hfollows.runEntryPoint hd
  · have hfinished : Finished r goal (i.feedSource source) := hfinished
    generalize i.feedSource source = result at hfinished
    refine .inr ?_
    cases hfinished with
    | quit hr hq hs =>
      simp only [Session.runEntryPoint, hq, Bool.or_true, Bool.true_or, if_true]
      exact .quit hr hq hs
    | failed hr hs => exact .failed hr hs

end
end Session

-- ---------------------------------------------------------------------------
-- The whole
-- ---------------------------------------------------------------------------

/-- Where a batch session takes every line of a source, no block is left open, its run
does not return in the global frame and the sink takes all output, an interactive
session that was set up alike writes the same and reads the same. Both come to the
end with the same globals, or both quit, or both fail with the same error. The two may
have their identities from different sources, as long as these agree on those that the
library gives out in the batch run. -/
theorem incremental_agrees {options : SessionOptions} {setup : List Registration} {source : Text}
    {identities : Nat → Text} {b b₁ b₂ : Session} {r : Except Error Status}
    (houtput : options.output.Working)
    (hb : Session.prepare { options with interactive := false } setup = .ok b)
    (hfeed : b.feedSource source = (b₁, .ok ())) (hclosed : b₁.depth = 0)
    (hrun : b₁.runProgram = (b₂, r))
    (hreturn : ∀ m, Machine.Reaches b₂.program b₁.machine m →
      ¬Machine.ReturnsGlobally b₂.program m)
    (hdraw : options.library = true → ∀ m, Machine.Reaches b₂.program b₁.machine m →
      m.CallsPlugin b₂.program "IDENTIDADE" →
      identities m.texts.next = options.identities m.texts.next) :
    ∃ i i₂ r', Session.prepare { options with interactive := true, identities } setup = .ok i ∧
      i.runLines source = (i₂, r') ∧
      i₂.machine.output.text = b₂.machine.output.text ∧
      i₂.machine.input = b₂.machine.input ∧
      ((r = .ok .halt ∧ r' = .ok () ∧ b₂.quit = false ∧ i₂.quit = false ∧
          i₂.compiler.globals = b₂.compiler.globals ∧ i₂.machine.global = b₂.machine.global) ∨
        (r = .ok .quit ∧ r' = .ok () ∧ b₂.quit = true ∧ i₂.quit = true) ∨
        ∃ e, r = .error e ∧ r' = .error e) := by
  have hfresh := Session.fresh_prepare hb
  have hbatch := hfresh.batch rfl
  obtain ⟨hbatch₁, -, hmachine⟩ := hbatch.feedLines hfeed
  obtain ⟨hcompiler, hran, hquit⟩ := hbatch₁.runProgram hclosed hrun
  have hprogram : b₂.program = b₁.completed.program := congrArg Compiler.program hcompiler
  have hpaused := (hfresh.paused houtput).1
  rw [hmachine, hprogram] at hran hreturn hdraw
  -- What the batch run ends with is what the interactive session is going for.
  obtain ⟨goal, hdue, output, hb₂, houtput₂⟩ :=
    Machine.due_of_run hpaused.depth_le hpaused.output hran hreturn
  have hstreams {s : Session} (hs : s.SameStreams goal) :
      s.machine.output.text = b₂.machine.output.text ∧ s.machine.input = b₂.machine.input := by
    rw [hb₂]
    exact ⟨hs.1.trans houtput₂.text.symm, hs.2⟩
  -- The interactive session draws the same identities on its way.
  obtain ⟨i, identities', hi, hmatches, hdraw'⟩ := Session.prepare_agrees hb
    fun hlibrary m (hdraws : Machine.Reaches b₁.completed.program b.machine m ∧
      m.CallsPlugin b₁.completed.program "IDENTIDADE") => hdraw hlibrary m hdraws.1 hdraws.2
  obtain ⟨goal', hdue', hoc, hsame⟩ : ∃ goal', Due b₁.completed.program i.machine r goal' ∧
      (∀ s : Session, s.SameStreams goal' → s.SameStreams goal) ∧ goal'.global = goal.global := by
    obtain ⟨interactive, plugins, rfl, hplugins⟩ := hmatches
    have hdue' := hdue.withPlugins hplugins fun m hm hcalls => hdraw' m ⟨hm, hcalls⟩
    exact ⟨goal.withPlugins plugins, hdue', fun _ hs => hs, rfl⟩
  have hfollows := hfresh.follows (Session.fresh_prepare hi) rfl houtput hmatches hdue'
  refine ⟨i, (i.runLines source).1, (i.runLines source).2, hi, rfl, ?_⟩
  rcases hfollows.runLines hbatch hfeed hclosed with
    ⟨i₂, hi₂, rfl, hquit₂, hcompiler₂, halike⟩ | hfinished
  · rw [hi₂]
    obtain ⟨htext, hinput⟩ :=
      hstreams (hoc _ (Session.sameStreams_of_alike (s := i₂) halike rfl rfl))
    refine ⟨htext, hinput, .inl ⟨rfl, rfl, ?_, hquit₂, ?_, ?_⟩⟩
    · cases hq : b₂.quit with
      | false => rfl
      | true => cases hquit.mp hq
    · rw [hcompiler₂, hcompiler]
    · obtain ⟨output', hm, -⟩ := halike
      rw [hm, hb₂]
      exact hsame
  · generalize i.runLines source = result at hfinished
    cases hfinished with
    | quit hr hq hs =>
      obtain ⟨htext, hinput⟩ := hstreams (hoc _ hs)
      exact ⟨htext, hinput, .inr (.inl ⟨hr, rfl, hquit.mpr hr, hq⟩)⟩
    | failed hr hs =>
      obtain ⟨htext, hinput⟩ := hstreams (hoc _ hs)
      exact ⟨htext, hinput, .inr (.inr ⟨_, hr, rfl⟩)⟩

/-- What a session of these options is, where the library fits. -/
def prepared (options : SessionOptions) : Session :=
  (Session.prepare options []).toOption.getD (Session.start options)

def luckyIdentity : Text := "123e4567-e89b-42d3-a456-426614174000"

def lucky : SessionOptions := { frameSize := 8, identities := fun _ => luckyIdentity }

/-- A source that gives the same only for the text with the id 2. -/
def luckyOnce (n : Nat) : Text := if n = 2 then luckyIdentity else .empty

/-- The entry point is declared first and called last. It prints an identity. -/
def lateEntry : Text :=
  "JAULA SHOW\nÉ HORA DO: IDENTIDADE\nCE QUER VER ISSO: TREZE\nSAINDO DA JAULA\nCE QUER VER ISSO: 1"

theorem incremental_agrees_lateEntry : ∃ i i₂ r',
    Session.prepare { lucky with interactive := true, identities := luckyOnce } [] = .ok i ∧
      i.runLines lateEntry = (i₂, r') ∧ i₂.machine.output.text = "1" ++ luckyIdentity := by
  have hprepared : (Session.prepare lucky []).toBool = true := by decide +kernel
  have hfacts : ((prepared lucky).feedSource lateEntry).2.toBool = true ∧
      ((prepared lucky).feedSource lateEntry).1.depth = 0 ∧
      (((prepared lucky).feedSource lateEntry).1.completed.program.segments.all
        fun s => s.code.all fun i => i.op ≠ .returnValue) = true ∧
      ((prepared lucky).feedSource lateEntry).1.runProgram.1.machine.output.text =
        "1" ++ luckyIdentity ∧
      Machine.checkRun ((prepared lucky).feedSource lateEntry).1.completed.program
        (fun m => decide (m.CallsPlugin
          ((prepared lucky).feedSource lateEntry).1.completed.program "IDENTIDADE" →
            luckyOnce m.texts.next = luckyIdentity))
        20 ((prepared lucky).feedSource lateEntry).1.machine = true := by
    decide +kernel
  have hb : Session.prepare { lucky with interactive := false } [] = .ok (prepared lucky) :=
    eq_ok_getD hprepared _
  generalize prepared lucky = b at hfacts hb
  rcases hfeed : b.feedSource lateEntry with ⟨b₁, e | ⟨⟩⟩
  · rw [hfeed] at hfacts
    exact absurd hfacts.1 Bool.false_ne_true
  rcases hrun : b₁.runProgram with ⟨b₂, r⟩
  rw [hfeed] at hfacts
  obtain ⟨-, hclosed, hreturns, htext, hdraws⟩ := hfacts
  rw [hrun] at htext
  obtain ⟨hbatch₁, -, -⟩ := ((Session.fresh_prepare hb).batch rfl).feedLines hfeed
  obtain ⟨hcompiler, -, -⟩ := hbatch₁.runProgram hclosed hrun
  have hprogram : b₂.program = b₁.completed.program := congrArg Compiler.program hcompiler
  have hreturn (m : Machine) (_ : Machine.Reaches b₂.program b₁.machine m) :
      ¬Machine.ReturnsGlobally b₂.program m := by
    rw [hprogram]
    exact Machine.not_returnsGlobally hreturns m
  have hdraw (m : Machine) (hm : Machine.Reaches b₂.program b₁.machine m)
      (hcalls : m.CallsPlugin b₂.program "IDENTIDADE") :
      luckyOnce m.texts.next = lucky.identities m.texts.next := by
    rw [hprogram] at hm hcalls
    exact of_decide_eq_true (hm.check hdraws) hcalls
  obtain ⟨i, i₂, r', hi, hlines, htext₂, -⟩ :=
    @incremental_agrees lucky [] lateEntry luckyOnce b b₁ b₂ r ⟨rfl, rfl⟩ hb hfeed hclosed hrun
      hreturn fun _ => hdraw
  exact ⟨i, i₂, r', hi, hlines, htext₂.trans htext⟩

/-- The sessions of another run, which draws other identities. -/
def unlucky : SessionOptions := { lucky with interactive := true, identities := fun _ => .empty }

def guessing : Text :=
  "É HORA DO: IDENTIDADE\nÉ ELE QUE A GENTE QUER: TREZE, \"123e4567-e89b-42d3-a456-426614174000\"\n" ++
    "É ELE MEMO\nCE QUER VER ISSO: 1\nFIM"

/-- Sessions that draw different identities need not agree: the batch run is lucky, and
the interactive run is not. -/
theorem incremental_differs : ∃ b b₁ b₂ i i₂ : Session,
    Session.prepare { lucky with interactive := false } [] = .ok b ∧
      b.feedSource guessing = (b₁, .ok ()) ∧ b₁.depth = 0 ∧ b₁.runProgram = (b₂, .ok .halt) ∧
      (∀ m, ¬Machine.ReturnsGlobally b₂.program m) ∧
      Session.prepare unlucky [] = .ok i ∧ i.runLines guessing = (i₂, .ok ()) ∧
      b₂.machine.output.text = "1" ∧ i₂.machine.output.text = .empty := by
  -- Both runs are evaluated at once, so that the source is read once.
  have hevaluated : ((Session.prepare lucky []).toBool = true ∧
      (Session.prepare unlucky []).toBool = true) ∧
      (((prepared lucky).feedSource guessing).2.toBool = true ∧
      ((prepared lucky).feedSource guessing).1.depth = 0 ∧
      ((prepared lucky).feedSource guessing).1.runProgram.2.toOption = some .halt ∧
      (((prepared lucky).feedSource guessing).1.runProgram.1.program.segments.all
        fun s => s.code.all fun i => i.op ≠ .returnValue) = true ∧
      ((prepared lucky).feedSource guessing).1.runProgram.1.machine.output.text = "1") ∧
      ((prepared unlucky).runLines guessing).2.toBool = true ∧
      ((prepared unlucky).runLines guessing).1.machine.output.text = .empty := by
    decide +kernel
  obtain ⟨hprepared, hfacts, hunlucky⟩ := hevaluated
  have hb : Session.prepare lucky [] = .ok (prepared lucky) := eq_ok_getD hprepared.1 _
  have hi : Session.prepare unlucky [] = .ok (prepared unlucky) := eq_ok_getD hprepared.2 _
  generalize prepared lucky = b at hfacts hb
  generalize prepared unlucky = i at hunlucky hi
  rcases hfeed : b.feedSource guessing with ⟨b₁, fed⟩
  rcases hrun : b₁.runProgram with ⟨b₂, r⟩
  rcases hlines : i.runLines guessing with ⟨i₂, r'⟩
  rw [hfeed] at hfacts
  rw [hlines] at hunlucky
  obtain ⟨hfed, hclosed, hhalt, hreturns, htext⟩ := hfacts
  rw [hrun] at hhalt hreturns htext
  obtain ⟨hran, htext'⟩ := hunlucky
  cases fed with
  | error e => cases hfed
  | ok =>
    cases r' with
    | error e => cases hran
    | ok =>
      cases r with
      | error e => cases hhalt
      | ok status =>
        cases hhalt
        exact ⟨b, b₁, b₂, i, i₂, hb, hfeed, hclosed, hrun, Machine.not_returnsGlobally hreturns, hi,
          hlines, htext, htext'⟩

end Birl
