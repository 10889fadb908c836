import Birl.Proofs.Session.Ledger

/-!
# Read-only variables of the host

A slot that was given to a read-only variable while the program held no writes stays the
host's. The compiler never emits an instruction that writes it (`Locked.compile`): a
command that would change the variable is rejected, and a declaration of the same name
gets another slot. So no step of the machine writes it, whatever frame runs, and it always
stands for what the host last put there (`read_only_global_kept`).
-/

namespace Birl

namespace Compiler

section
variable {c c' : Compiler} {name other : Text} {symbol : Symbol} {a : Nat}

/-- No instruction of the program writes the slot of the global frame. -/
def NeverWrites (c : Compiler) (a : Nat) : Prop :=
  ∀ id pos, c.program.operation? id pos ≠ some (.writeGlobal a)

theorem neverWrites_iff : c.NeverWrites a ↔ c.WrittenAt a 0 [] := by
  constructor
  · intro h id pos hop
    exact absurd hop (h id pos)
  · intro h id pos hop
    rcases h id pos hop with ⟨-, hlt⟩ | hmem
    · exact Nat.not_lt_zero _ hlt
    · cases hmem

/-- The slot belongs to a global variable that code must not change, and no code does. It may
no longer have a name. -/
structure Locked (c : Compiler) (name : Text) (a : Nat) : Prop where
  reserved : c.Reserved name a
  readOnly : ∀ s, c.global? name = some s → s.address = a → s.readOnly = true
  code : c.NeverWrites a

theorem Declares.globals {readOnly : Bool} (h : Declares c name readOnly symbol c') :
    c'.globals = c.globals ∨ c.depth = 0 ∧ c'.globals = c.globals.put name symbol := by
  rcases Nat.eq_zero_or_pos c.depth with hdepth | hdepth
  · right
    cases h <;> rw [setInnermost_of_depth_zero _ hdepth, innermost_of_depth_zero hdepth] <;>
      exact ⟨hdepth, rfl⟩
  · left
    cases h <;> exact setInnermost_globals _ hdepth

/-- A read-only variable keeps its slot to itself: a second declaration of its name gets a
free one. -/
theorem Declares.readOnly {readOnly : Bool} (h : Declares c other readOnly symbol c')
    (hr : c.Reserved name a)
    (hro : ∀ s, c.global? name = some s → s.address = a → s.readOnly = true) :
    ∀ s, c'.global? name = some s → s.address = a → s.readOnly = true := by
  intro s hs ha
  rcases h.globals with hsame | ⟨hdepth, hput⟩
  · exact hro s (by simpa [global?, hsame] using hs) ha
  · rw [global?, hput, Bindings.find?_put] at hs
    split at hs
    · rename_i hname
      cases hs
      cases h with
      | fresh =>
        obtain ⟨hblocks, hfunction⟩ := depth_zero hdepth
        have hbase : c.globalBase = c.next := by simp [globalBase, hblocks, hfunction]
        have hlt := hr.lt
        have hnext : c.next = a := ha
        omega
      | @again previous hp hw =>
        have hprevious : c.global? name = some previous := by
          simpa [innermost_of_depth_zero hdepth, hname, global?] using hp
        rw [hro previous hprevious ha] at hw
        cases hw
    · exact hro s hs ha

/-- A command that is accepted gives a value only to a variable that code may change. -/
theorem compile_writable {line : Int} {cmd : Command} {hint : ScopeHint}
    (hc : c.compile line cmd = .ok (hint, c')) (hk : cmd.kind.assigns = true) :
    ∃ s, c'.resolve cmd.name = some s ∧ s.readOnly = false := by
  obtain ⟨compiled, hcompiled, rfl⟩ := command_of_compile hc
  have hdeclared {symbol : Symbol} {c₁ : Compiler} (hd : c.declare cmd.name false = .ok (symbol, c₁)) :
      ∃ s, c₁.resolve cmd.name = some s ∧ s.readOnly = false := by
    have hdeclares := declares_of_ok hd
    refine ⟨symbol, (Targets.declared hdeclares).resolve, ?_⟩
    cases hdeclares <;> rfl
  show ∃ s, compiled.compiler.resolve cmd.name = some s ∧ s.readOnly = false
  cases hkind : cmd.kind with simp only [compileCommand, hkind] at hcompiled
  | declare =>
    simp only [compileDeclare, bind_ok, pure_ok] at hcompiled
    obtain ⟨code, -, ⟨symbol, c₁⟩, hd, rfl⟩ := hcompiled
    exact hdeclared hd
  | set =>
    simp only [compileSet, bind_ok, pure_ok] at hcompiled
    obtain ⟨_, -, symbol, hs, code, -, rfl⟩ := hcompiled
    exact ⟨symbol, takes_writable hs⟩
  | input kind =>
    simp only [compileInput, bind_ok] at hcompiled
    obtain ⟨_, -, hcompiled⟩ := hcompiled
    split at hcompiled
    · rename_i symbol hr
      simp only [check_ok, pure_ok] at hcompiled
      obtain ⟨hw, rfl⟩ := hcompiled
      exact ⟨symbol, hr, by simpa using hw⟩
    · simp only [bind_ok, pure_ok] at hcompiled
      obtain ⟨⟨symbol, c₁⟩, hd, rfl⟩ := hcompiled
      exact hdeclared hd
  | convert kind =>
    simp only [compileConversion, bind_ok, pure_ok] at hcompiled
    obtain ⟨_, -, symbol, hs, rfl⟩ := hcompiled
    exact ⟨symbol, takes_writable hs⟩
  | _ =>
    rw [hkind] at hk
    cases hk

theorem Locked.compile {line : Int} {cmd : Command} {hint : ScopeHint} (h : c.Locked name a)
    (hr : c.Reachable) (hc : c.compile line cmd = .ok (hint, c')) : c'.Locked name a := by
  have hreadOnly : ∀ s, c'.global? name = some s → s.address = a → s.readOnly = true := by
    obtain ⟨code, c₁, hemits, rfl⟩ := compile_ok hc
    show ∀ s, c₁.global? name = some s → s.address = a → s.readOnly = true
    cases hemits with
    | assign _ ht =>
      cases ht with
      | visible => exact h.readOnly
      | declared hd => exact (declares_of_ok hd).readOnly h.reserved h.readOnly
    | _ => exact h.readOnly
  refine ⟨h.reserved.settles (settles_compile hc), hreadOnly, neverWrites_iff.mpr ?_⟩
  have hwritten := (neverWrites_iff.mp h.code).compile hr h.reserved hc
  -- A place would be added only for a command that gives this variable a value.
  have hno : c'.assigned cmd name a = false := by
    cases hassigned : c'.assigned cmd name a with
    | false => rfl
    | true =>
      simp only [assigned, Bool.and_eq_true, decide_eq_true_eq] at hassigned
      obtain ⟨⟨⟨hk, rfl⟩, hg⟩, hresolve⟩ := hassigned
      obtain ⟨s, hs, ha⟩ := hasGlobal_iff.mp hg
      obtain ⟨t, ht, hw⟩ := compile_writable hc hk
      cases ht.symm.trans (hresolve.trans hs)
      rw [hreadOnly _ hs ha] at hw
      cases hw
  simpa [storePlaces, hno] using hwritten

theorem Locked.declareGlobal {readOnly : Bool} {address : Nat} (h : c.Locked name a)
    (hd : c.declareGlobal other readOnly = .ok (address, c')) : c'.Locked name a := by
  obtain ⟨-, symbol, -, hdeclares⟩ := declareGlobal_ok hd
  refine ⟨h.reserved.settles hdeclares.settles, hdeclares.readOnly h.reserved h.readOnly, ?_⟩
  rw [NeverWrites, hdeclares.keeps.2.1]
  exact h.code

theorem operation?_appendEntryCall {line : Int} {id pos : Nat} {operand : Int}
    (hop : (c.appendEntryCall line).program.operation? id pos = some (.writeGlobal operand)) :
    c.program.operation? id pos = some (.writeGlobal operand) := by
  refine (Program.operation?_append hop).resolve_right ?_
  rintro ⟨-, i, hi, -⟩
  have hmem := List.mem_of_getElem? hi
  simp at hmem

theorem Locked.appendEntryCall (h : c.Locked name a) (line : Int) :
    (c.appendEntryCall line).Locked name a :=
  ⟨h.reserved.settles (.of_eq rfl rfl), h.readOnly,
    fun id pos hop => h.code id pos (operation?_appendEntryCall hop)⟩

/-- No instruction writes any slot of the global frame. -/
def Writeless (c : Compiler) : Prop :=
  ∀ (operand : Int) id pos, c.program.operation? id pos ≠ some (.writeGlobal operand)

theorem Locked.registerPlugin {params : List ParameterKind} {index : Int} (h : c.Locked name a)
    (hp : c.registerPlugin other params index = .ok c') : c'.Locked name a := by
  obtain ⟨-, -, rfl⟩ := registerPlugin_ok hp
  exact ⟨h.reserved.settles (.of_eq rfl rfl), h.readOnly, h.code⟩

end
end Compiler

-- ---------------------------------------------------------------------------
-- What the host puts into a slot
-- ---------------------------------------------------------------------------

/-- What the host has put into a slot after something happened, where it was `k` before. -/
def Event.put (a : Nat) (k : Option Constant) : Event → Option Constant
  | .stored _ address v m => if address = a then m.texts.constant? v else k
  | _ => k

def Event.isCompiled : Event → Bool
  | .compiled _ _ _ => true
  | _ => false

def Request.feeds : Request → Bool
  | .feed _ | .feedSource _ | .eval _ => true
  | _ => false

namespace Session

def registerGlobalsEvents (s : Session) : List (Text × Text) → List Event
  | [] => []
  | (name, t) :: rest =>
    let (v, machine) := s.machine.intern (.text t)
    let s := { s with machine }
    s.registerEvents name v true ++
      match s.registerGlobal name v true with
      | (s, .ok ()) => s.registerGlobalsEvents rest
      | (_, .error _) => []

def openingEvents (options : SessionOptions) : List Event :=
  if options.library then (start options).registerGlobalsEvents Library.globals else []

/-- What the host has last put into a slot, which is Null at first. -/
def lastPut (a : Nat) (events : List Event) : Option Constant :=
  events.foldl (Event.put a) (some .null)

section
variable {s s' : Session} {more : List Event} {name : Text} {a : Nat}

theorem moves_registerGlobals {globals : List (Text × Text)}
    (h : s.registerGlobals globals = (s', .ok ())) : Moves s (s.registerGlobalsEvents globals) s' := by
  induction globals generalizing s with
  | nil =>
    cases h
    exact .refl _
  | cons entry rest ih =>
    obtain ⟨name, t⟩ := entry
    simp only [registerGlobals] at h
    have hinterned : Moves s [] { s with machine := (s.machine.intern (.text t)).2 } :=
      (Move.texts s _).moves
    have hregistered := hinterned.first
      (moves_registerGlobal _ name (s.machine.intern (.text t)).1 true)
    simp only [registerGlobalsEvents]
    rcases hr : registerGlobal { s with machine := (s.machine.intern (.text t)).2 } name
        (s.machine.intern (.text t)).1 true with ⟨s₁, e | ⟨⟩⟩
    · rw [hr] at h
      cases e <;> simp [naming] at h
    · rw [hr] at h hregistered
      exact hregistered.trans (ih h)

theorem moves_registerPlugins {plugins : List Plugin}
    (h : s.registerPlugins plugins = (s', .ok ())) : Moves s [] s' := by
  induction plugins generalizing s with
  | nil =>
    cases h
    exact .refl _
  | cons plugin rest ih =>
    simp only [registerPlugins] at h
    have hregistered := moves_registerPlugin s plugin.name plugin.params (some plugin.call)
    rcases hr : s.registerPlugin plugin.name plugin.params (some plugin.call) with ⟨s₁, e | ⟨⟩⟩
    · rw [hr] at h
      cases e <;> simp [naming] at h
    · rw [hr] at h hregistered
      exact hregistered.first (ih h)

theorem moves_opening {options : SessionOptions} (h : Session.new options = .ok s) :
    Moves (start options) (openingEvents options) s := by
  rcases new_ok.mp h with ⟨hlibrary, s₁, hglobals, hplugins⟩ | ⟨hlibrary, rfl⟩
  · rw [openingEvents, if_pos hlibrary]
    exact (moves_registerGlobals hglobals).silent (moves_registerPlugins hplugins)
  · rw [openingEvents, hlibrary]
    exact .refl _

theorem setEvents_compiled (s : Session) (name : Text) (v : Value) :
    ∀ e ∈ s.setEvents name v, e.isCompiled = false := by
  unfold setEvents
  split
  · exact List.forall_mem_nil _
  · split
    · exact List.forall_mem_nil _
    · simp [Event.isCompiled]

theorem registerEvents_compiled (s : Session) (name : Text) (v : Value) (readOnly : Bool) :
    ∀ e ∈ s.registerEvents name v readOnly, e.isCompiled = false := by
  unfold registerEvents
  split
  · exact List.forall_mem_nil _
  · exact List.forall_mem_cons.mpr ⟨rfl, setEvents_compiled _ _ _⟩

theorem openingEvents_compiled (options : SessionOptions) :
    ∀ e ∈ openingEvents options, e.isCompiled = false := by
  have hglobals (globals : List (Text × Text)) (s : Session) :
      ∀ e ∈ s.registerGlobalsEvents globals, e.isCompiled = false := by
    induction globals generalizing s with
    | nil => exact List.forall_mem_nil _
    | cons entry rest ih =>
      simp only [registerGlobalsEvents]
      refine List.forall_mem_append.mpr ⟨registerEvents_compiled _ _ _ _, ?_⟩
      split
      · exact ih _
      · exact List.forall_mem_nil _
  unfold openingEvents
  split
  · exact hglobals _ _
  · exact List.forall_mem_nil _

theorem runAndRecoverEvents_compiled (p : Program) (m : Machine) :
    ∀ e ∈ m.runAndRecoverEvents p, e.isCompiled = false := by
  have hrun : ∀ e ∈ m.runEvents p, e.isCompiled = false := by
    simp [Machine.runEvents, Event.isCompiled]
  refine List.forall_mem_append.mpr ⟨hrun, ?_⟩
  split <;> simp [Event.isCompiled]

theorem events_compiled {request : Request} (hr : request.feeds = false) (s : Session) :
    ∀ e ∈ s.events request, e.isCompiled = false := by
  cases request with
  | feed | feedSource | eval => cases hr
  | runProgram =>
    simp only [events, runProgramEvents]
    split
    · exact List.forall_mem_nil _
    · simp [Machine.runEvents, Event.isCompiled]
  | runEntryPoint =>
    simp only [events, runEntryPointEvents]
    split
    · exact List.forall_mem_nil _
    · exact runAndRecoverEvents_compiled _ _
  | recover => simp [events, Event.isCompiled]
  | registerGlobal name v readOnly => exact registerEvents_compiled s name v readOnly
  | setGlobal name v => exact setEvents_compiled s name v
  | assign name v =>
    simp only [events, assignEvents]
    split
    · exact List.forall_mem_nil _
    · split
      · exact setEvents_compiled _ _ _
      · exact registerEvents_compiled _ _ _ _
  | _ => exact List.forall_mem_nil _

theorem history_compiled {requests : List Request} (hr : ∀ r ∈ requests, r.feeds = false)
    (s : Session) : ∀ e ∈ s.history requests, e.isCompiled = false := by
  induction requests generalizing s with
  | nil => exact List.forall_mem_nil _
  | cons request rest ih =>
    obtain ⟨hrequest, hrest⟩ := List.forall_mem_cons.mp hr
    exact List.forall_mem_append.mpr ⟨events_compiled hrequest s, ih hrest _⟩

-- ---------------------------------------------------------------------------
-- Slots that no code writes
-- ---------------------------------------------------------------------------

/-- No step writes the slot, except for slot 0, which takes the results of calls. -/
theorem writes?_ne (hg : Grounded s) (ha : a ≠ 0) (hn : s.compiler.NeverWrites a) (k : Constant) :
    s.machine.writes? s.program ≠ some (a, k) := by
  intro hw
  rcases Machine.writes?_cases hw with hnext | ⟨hruns, operand, hnext⟩ | ⟨hzero, -⟩
  · obtain ⟨id, pos, -, hop, -, -⟩ := Machine.next?_place hnext
    exact hn id pos hop
  · exact hg.not_local hruns hnext
  · exact ha hzero

theorem step_slot (hg : Grounded s) (ha : a ≠ 0) (hn : s.compiler.NeverWrites a) :
    (s.machine.step s.program).1.global.constant? a = s.machine.global.constant? a := by
  have hslot := (Machine.step_global hg.sound hg.pos s.program).2 a
  cases hw : s.machine.writes? s.program with
  | none => simpa [hw] using hslot
  | some w =>
    obtain ⟨address, k⟩ := w
    have hne : a ≠ address := by
      rintro rfl
      exact writes?_ne hg ha hn k hw
    simpa [hw, hne] using hslot

theorem Move.put (hm : Move s more s') (hg : Grounded s) (ha : a ≠ 0)
    (hn : s.compiler.NeverWrites a) :
    s'.machine.global.constant? a = more.foldl (Event.put a) (s.machine.global.constant? a) := by
  cases hm with
  | @stored name symbol v machine hsymbol hs =>
    obtain ⟨hlt, rfl, k, hk⟩ := setGlobal_stored hs
    have hslot := (@Frame.Sound.afterStore _ _ symbol.address v s.machine.texts hg.sound hlt).2 a
    rw [hk, Option.elim_some] at hslot
    simp only [List.foldl_cons, List.foldl_nil, Event.put, hk, eq_comm (b := a)]
    exact hslot
  | stepped => exact step_slot hg ha hn
  | _ => rfl

theorem Move.writeless (hm : Move s more s') (hno : ∀ e ∈ more, e.isCompiled = false)
    (hw : s.compiler.Writeless) : s'.compiler.Writeless := by
  cases hm with
  | compiled =>
    have := hno _ List.mem_cons_self
    cases this
  | entryCall =>
    intro operand id pos hop
    exact hw operand id pos (Compiler.operation?_appendEntryCall hop)
  | declared hd =>
    obtain ⟨-, symbol, -, hdeclares⟩ := Compiler.declareGlobal_ok hd
    intro operand id pos hop
    exact hw operand id pos (hdeclares.keeps.2.1 ▸ hop)
  | registered hr =>
    obtain ⟨-, -, rfl⟩ := Compiler.registerPlugin_ok hr
    exact hw
  | _ => exact hw

theorem Move.locked (hm : Move s more s') (hg : Grounded s) (hl : s.compiler.Locked name a) :
    s'.compiler.Locked name a := by
  cases hm with
  | compiled hc => exact hl.compile hg.compiler hc
  | entryCall line => exact hl.appendEntryCall line
  | declared hd => exact hl.declareGlobal hd
  | registered hr => exact hl.registerPlugin hr
  | _ => exact hl

theorem Moves.put_writeless (hm : Moves s more s') (hg : Grounded s) (ha : a ≠ 0)
    (hno : ∀ e ∈ more, e.isCompiled = false) (hw : s.compiler.Writeless) :
    s'.compiler.Writeless ∧
      s'.machine.global.constant? a = more.foldl (Event.put a) (s.machine.global.constant? a) := by
  induction hm with
  | refl => exact ⟨hw, rfl⟩
  | snoc hm hlast ih =>
    obtain ⟨hbefore, hafter⟩ := List.forall_mem_append.mp hno
    obtain ⟨hw, hslot⟩ := ih hbefore
    refine ⟨hlast.writeless hafter hw, ?_⟩
    rw [List.foldl_append, ← hslot]
    exact hlast.put (hm.grounded hg) ha (hw a)

theorem Moves.put_locked (hm : Moves s more s') (hg : Grounded s) (ha : a ≠ 0)
    (hl : s.compiler.Locked name a) :
    s'.compiler.Locked name a ∧
      s'.machine.global.constant? a = more.foldl (Event.put a) (s.machine.global.constant? a) := by
  induction hm with
  | refl => exact ⟨hl, rfl⟩
  | snoc hm hlast ih =>
    obtain ⟨hl, hslot⟩ := ih
    refine ⟨hlast.locked (hm.grounded hg) hl, ?_⟩
    rw [List.foldl_append, ← hslot]
    exact hlast.put (hm.grounded hg) ha hl.code

theorem locked_setup {options : SessionOptions} {s₀ : Session} (h : Session.new options = .ok s₀)
    {setup : List Request} (hsetup : ∀ r ∈ setup, r.feeds = false) {symbol : Symbol}
    (hname : name ≠ returnName) (hg : (s₀.performAll setup).compiler.global? name = some symbol)
    (hr : symbol.readOnly = true) :
    symbol.address ≠ 0 ∧ (s₀.performAll setup).compiler.Locked name symbol.address ∧
      (s₀.performAll setup).machine.global.constant? symbol.address =
        lastPut symbol.address (openingEvents options ++ s₀.history setup) := by
  have hmoves := (moves_opening h).trans (moves_performAll s₀ setup)
  have hstart := grounded_start options
  have hgrounded := hmoves.grounded hstart
  have hhas : (s₀.performAll setup).compiler.hasGlobal name symbol.address = true :=
    Compiler.hasGlobal_iff.mpr ⟨symbol, hg, rfl⟩
  have ha : symbol.address ≠ 0 := by
    intro hzero
    exact hname (hgrounded.compiler.returnSlot (hzero ▸ hhas))
  have hno : ∀ e ∈ openingEvents options ++ s₀.history setup, e.isCompiled = false :=
    List.forall_mem_append.mpr ⟨openingEvents_compiled options, history_compiled hsetup s₀⟩
  have hempty : (start options).compiler.Writeless := by
    intro operand id pos hop
    obtain ⟨segment, hs, hop⟩ := Option.bind_eq_some_iff.mp hop
    rw [Program.operations_empty hs] at hop
    cases hop
  obtain ⟨hwriteless, hslot⟩ := hmoves.put_writeless hstart ha hno hempty
  refine ⟨ha, ⟨hgrounded.compiler.reserved hhas, ?_, hwriteless _⟩, ?_⟩
  · intro s hs _
    cases hs.symm.trans hg
    exact hr
  · rw [hslot, (blank_start options).2 _ (Nat.one_le_iff_ne_zero.mpr ha)]
    rfl

end
end Session

/-- A read-only variable of the host, other than the one that takes the results of calls,
that was registered before any source text: whatever the session is then asked for and
whatever fails, its slot stands for what the host last put there, no instruction of the
program writes it, and no step that is taken does. -/
theorem read_only_global_kept {options : SessionOptions} {s₀ : Session}
    (h : Session.new options = .ok s₀) {setup : List Request}
    (hsetup : ∀ r ∈ setup, r.feeds = false) {name : Text} {symbol : Symbol}
    (hname : name ≠ returnName) (hg : (s₀.performAll setup).compiler.global? name = some symbol)
    (hr : symbol.readOnly = true) (later : List Request) :
    (s₀.performAll (setup ++ later)).machine.global.constant? symbol.address =
        Session.lastPut symbol.address
          (Session.openingEvents options ++ s₀.history (setup ++ later)) ∧
      (∀ id pos, (s₀.performAll (setup ++ later)).program.operation? id pos ≠
        some (.writeGlobal symbol.address)) ∧
      ∀ p m, .stepped p m ∈ (s₀.performAll setup).history later →
        (∀ k, m.writes? p ≠ some (symbol.address, k)) ∧
        (m.step p).1.global.constant? symbol.address = m.global.constant? symbol.address := by
  obtain ⟨ha, hlocked, hslot⟩ := Session.locked_setup h hsetup hname hg hr
  have hgrounded : (s₀.performAll setup).Grounded :=
    (Session.moves_performAll s₀ setup).grounded (Session.grounded_new h)
  have hmoves := Session.moves_performAll (s₀.performAll setup) later
  obtain ⟨hend, hput⟩ := hmoves.put_locked hgrounded ha hlocked
  rw [Session.performAll_append, Session.history_append]
  refine ⟨?_, hend.code, ?_⟩
  · rw [hput, hslot, Session.lastPut, Session.lastPut, ← List.foldl_append, List.append_assoc]
  · intro p m hstepped
    obtain ⟨before, after, hevents⟩ := List.append_of_mem hstepped
    obtain ⟨s, hs, rfl, rfl⟩ := hmoves.at_step hevents
    have hground := hs.grounded hgrounded
    obtain ⟨hl, -⟩ := hs.put_locked hgrounded ha hlocked
    exact ⟨Session.writes?_ne hground ha hl.code, Session.step_slot hground ha hl.code⟩

/-- A session with the library whose lines run as they are fed. -/
def guarded : SessionOptions := { interactive := true }

def guardedSession : Session := (Session.new guarded).toOption.getD (Session.start {})

theorem new_guardedSession : Session.new guarded = .ok guardedSession :=
  eq_ok_getD (by decide +kernel) _

def limitSetup : List Request := [.registerGlobal "LIMITE" (.int 7) true]

/-- A program that names the host's variable wherever a name can stand, and a host that
changes it on the way. -/
def limitAttacks : List Request :=
  [.feed "BORA: LIMITE, 1", .feed "MUDA PRA FRANGO: LIMITE", .feed "QUE QUE CE QUER: LIMITE",
    .feedSource "JAULA F (MONSTRO LIMITE)\nBORA: LIMITE, 2\nSAINDO DA JAULA\nÉ HORA DO: F, 3",
    .feedSource "É ELE QUE A GENTE QUER: 1, 1\nÉ ELE MEMO\nVEM: LIMITE, 4\nBORA: LIMITE, 5\nFIM",
    .setGlobal "LIMITE" (.int 8), .feed "VEM: LIMITE, 6 + 1 / 0", .feed "BORA: LIMITE, 9"]

theorem read_only_global_kept_attacked :
    (guardedSession.performAll (limitSetup ++ limitAttacks)).compiler.hasGlobal "LIMITE" 4 = true ∧
    (guardedSession.performAll (limitSetup ++ limitAttacks)).machine.global.constant? 4 =
      some (.int 9) ∧
    (guardedSession.performAll (limitSetup ++ limitAttacks)).machine.global.constant? 3 =
      some (.int 8) := by
  have hfacts :
      (guardedSession.performAll limitSetup).compiler.global? "LIMITE" =
        some { address := 3, global := true, readOnly := true } ∧
      (guardedSession.performAll (limitSetup ++ limitAttacks)).compiler.hasGlobal "LIMITE" 4 =
        true ∧
      (guardedSession.performAll (limitSetup ++ limitAttacks)).machine.global.constant? 4 =
        some (.int 9) ∧
      Session.lastPut 3 (Session.openingEvents guarded ++
        guardedSession.history (limitSetup ++ limitAttacks)) = some (.int 8) := by
    decide +kernel
  obtain ⟨hg, hother, hnine, hput⟩ := hfacts
  obtain ⟨hslot, -⟩ := read_only_global_kept new_guardedSession
    (by simp [limitSetup, Request.feeds]) (by decide) hg rfl limitAttacks
  exact ⟨hother, hnine, hslot.trans hput⟩

end Birl
