import Birl.Proofs.Compiler.InPlace

/-!
# Commands in place

Every command does in place what compiling it says: where it succeeds the compiler has
changed as it should and the code is there, and where it fails, wherever that is, the
compiler is what it was (`submit_eq`).
-/

namespace Birl.Compiler

theorem setInnermost_withNext (c : Compiler) (next : Nat) (vars : Bindings) :
    ({ c with next } : Compiler).setInnermost vars = { c.setInnermost vars with next } := by
  unfold setInnermost
  split <;> simp_all

namespace Work

section
variable {P : Nat → Prop} {c : Compiler} {w w' : Work Unit} {r r' : Except Fault (List Operation)}
  {hint : ScopeHint}

-- ---------------------------------------------------------------------------
-- Commands
-- ---------------------------------------------------------------------------

theorem adds_prints (c : Compiler) (op : Operation) (args : List Expression) :
    Adds c (prints op args) (c.printArguments op args) := by
  induction args with
  | nil => exact adds_nothing c
  | cons e rest ih =>
    refine ((adds_expression c c.next e).seq ((adds_emit c [op]).seq ih rfl) rfl).congr ?_
    simp only [printArguments]
    rcases c.expression c.next e with _ | code
    · rfl
    rcases c.printArguments op rest with _ | more
    · rfl
    · rfl

theorem adds_optionalValue (c : Compiler) (cmd : Command) :
    Adds c (optionalValue cmd) (c.optionalValue cmd) := by
  unfold optionalValue Compiler.optionalValue
  refine does_ask (f := fun _ => arity cmd 0 1) (fun _ _ => ?_) rfl
  cases cmd.args with
  | nil => exact adds_emit c _
  | cons e => exact adds_expression c c.next e

theorem uses_between (c : Compiler) (left right : Expression) :
    Uses c (between left right) (comparison.between c left right) := by
  have hread : Adds { c with next := c.next + 1 }
      (do emit [((← get).compiler.hidden c.next).read, .heldToA])
      (.ok [(c.hidden c.next).read, .heldToA]) := does_get fun _ => adds_emit _ _
  have hright := (adds_expression c (c.next + 1) right).seq hread.uses trivial
  refine ((adds_expression c c.next left).seq (uses_reserve
    (g := fun slot => joined (.ok [(c.hidden slot).write])
      (joined (c.expression (slot + 1) right) (.ok [(c.hidden slot).read, .heldToA])))
    ((adds_write _ c.next).seq hright trivial)) trivial).congr ?_
  simp only [comparison.between]
  rcases c.expression c.next left with _ | first
  · rfl
  rcases c.allocate c.next with _ | slot
  · rfl
  simp only [joined, bind, Except.bind, pure, Except.pure]
  rcases c.expression (slot + 1) right with _ | second
  · rfl
  exact congrArg Except.ok (by simp)

theorem uses_comparison (c : Compiler) (left right : Expression) :
    Uses c (comparison left right) (c.comparison left right) := by
  fun_cases Compiler.comparison c left right with
  | case1 literal =>
    rw [comparison]
    exact ((adds_expression c c.next right).seq (adds_emit c _) rfl).uses
  | case2 left node hl ho =>
    rw [comparison, if_pos ho]
    · exact uses_between c _ _
    · exact hl
  | case3 left node hl ho =>
    rw [comparison, if_neg ho]
    · refine (((adds_expression c c.next left).seq ((adds_emit c [.swap]).seq (adds_load c node) rfl)
        rfl).uses).congr ?_
      rcases c.expression c.next left with _ | code
      · rfl
      rcases c.operand node with _ | load
      · rfl
      · rfl
    · exact hl
  | case4 left right hl hr =>
    rw [comparison]
    · exact uses_between c left right
    · exact hl
    · exact hr

theorem adds_arguments (c : Compiler) (address : Nat) (args : List Expression)
    (kinds : List ParameterKind) :
    Adds c (arguments address args kinds) (c.arguments address args kinds) := by
  induction args generalizing address kinds with
  | nil => exact adds_nothing c
  | cons e rest ih =>
    cases kinds with
    | nil => exact adds_nothing c
    | cons kind kinds =>
      refine ((adds_expression c c.next e).seq ((adds_emit c _).seq (ih (address + 1) kinds) rfl)
        rfl).congr ?_
      simp only [Compiler.arguments]
      rcases c.expression c.next e with _ | code
      · rfl
      rcases c.arguments (address + 1) rest kinds with _ | more
      · rfl
      · rfl

/-- Work on a command that started with the compiler `c` does what `r` says: the compiler and the
code that it leaves are those of `r`, or it fails and the compiler is as it was. -/
def Follows (c : Compiler) (code : List Operation) (w : Work Unit) (hint : ScopeHint) :
    Except Fault Compiled → Prop
  | .ok compiled =>
    compiled.hint = hint ∧ w.run.run ⟨c, code⟩ = (.ok (), ⟨compiled.compiler, compiled.code⟩)
  | .error e => ∃ code', w.run.run ⟨c, code⟩ = (.error e, ⟨c, code'⟩)

theorem Does.follows {code : List Operation} (h : Adds c w r) :
    Follows c code w .none (r >>= fun ops => .ok { code := code ++ ops, compiler := c }) := by
  obtain ⟨_, rfl, h⟩ := h code
  unfold Follows
  generalize w.run.run ⟨c, code⟩ = result at h
  cases h with
  | failed e _ code' => exact ⟨code', rfl⟩
  | added ops => exact ⟨rfl, rfl⟩

/-- Work that leaves the compiler as it was, and then work that may change it. -/
theorem Does.then_follows {code : List Operation} {g : List Operation → Except Fault Compiled}
    (h : Adds c w r) (h' : ∀ ops, Follows c (code ++ ops) w' hint (g ops)) :
    Follows c code (do w; w') hint (r >>= g) := by
  obtain ⟨_, rfl, h⟩ := h code
  unfold Follows
  simp only [run_bind]
  generalize w.run.run ⟨c, code⟩ = result at h
  cases h with
  | failed e _ code' => exact ⟨code', rfl⟩
  | added ops => exact h' ops

theorem run_fresh (c : Compiler) (name : Text) (readOnly : Bool) (code : List Operation) :
    (do let address ← reserve
        bindName name { address, global := c.inGlobal, readOnly } : Work Symbol).run.run ⟨c, code⟩ =
      match c.allocate c.next with
      | .ok address =>
        let symbol := { address, global := c.inGlobal, readOnly }
        (.ok symbol,
          ⟨{ c.setInnermost (c.innermost.put name symbol) with next := address + 1 }, code⟩)
      | .error e => (.error e, ⟨c, code⟩) := by
  unfold reserve
  simp only [run_bind, run_ask]
  cases c.allocate c.next with
  | error e => rfl
  | ok address =>
    exact congrArg (fun c' => (_, Draft.mk c' code)) (setInnermost_withNext c (address + 1) _)

theorem follows_ask {α : Type} {f : Compiler → Except Fault α} {k : α → Work Unit}
    {code : List Operation} {g : α → Except Fault Compiled} (h : ∀ a, Follows c code (k a) hint (g a)) :
    Follows c code (ask f >>= k) hint (f c >>= g) := by
  unfold Follows
  rw [run_bind, run_ask]
  cases f c with
  | error e => exact ⟨code, rfl⟩
  | ok a => exact h a

theorem follows_get {k : Draft → Work Unit} {code : List Operation} {r : Except Fault Compiled}
    (h : Follows c code (k ⟨c, code⟩) hint r) : Follows c code (get >>= k) hint r := h

theorem run_declare (c : Compiler) (name : Text) (readOnly : Bool) (code : List Operation) :
    (declare name readOnly).run.run ⟨c, code⟩ = match c.declare name readOnly with
      | .ok (symbol, c') => (.ok symbol, ⟨c', code⟩)
      | .error e => (.error e, ⟨c, code⟩) := by
  have hfresh := run_fresh c name readOnly code
  have hget (k : Draft → Work Symbol) :
      (get >>= k).run.run ⟨c, code⟩ = (k ⟨c, code⟩).run.run ⟨c, code⟩ := rfl
  unfold declare Compiler.declare
  rw [hget]
  cases hf : c.innermost.find? name with
  | none =>
    simp only [hf, hfresh]
    cases c.allocate c.next <;> rfl
  | some previous =>
    simp only [hf]
    cases previous.readOnly with
    | true =>
      simp only [if_true, hfresh]
      cases c.allocate c.next <;> rfl
    | false => rfl

theorem Follows.congr {code : List Operation} {x x' : Except Fault Compiled}
    (h : Follows c code w hint x) (he : x = x') : Follows c code w hint x' := he ▸ h

theorem follows_print (c : Compiler) (cmd : Command) :
    Follows c [] (print cmd) .none (c.compilePrint cmd) := by
  have hadds := (adds_prints c (if cmd.kind = .printDebug then .printDebug else .print) cmd.args).seq
    ((adds_emit c (if cmd.kind = .print then [] else [.newLine])).seq (adds_emit c [.flush]) rfl) rfl
  refine hadds.follows.congr ?_
  unfold compilePrint
  generalize c.printArguments _ cmd.args = printed
  rcases printed with _ | code
  · rfl
  · exact congrArg (fun code => Except.ok (Compiled.mk code c .none)) (by simp)

theorem follows_declaration (c : Compiler) (cmd : Command) :
    Follows c [] (declaration cmd) .none (c.compileDeclare cmd) := by
  refine (adds_optionalValue c cmd).then_follows fun code => ?_
  unfold Follows
  simp only [run_bind, run_declare]
  rcases c.declare cmd.name false with e | ⟨symbol, c'⟩
  · exact ⟨_, rfl⟩
  · exact ⟨rfl, rfl⟩

theorem follows_set (c : Compiler) (cmd : Command) : Follows c [] (set cmd) .none (c.compileSet cmd) := by
  have hadds := does_ask (P := (· = c.next)) (c := c) (f := fun _ => arity cmd 1 1) (fun _ _ => does_ask
    (f := (·.writable cmd.name)) (fun symbol _ => (adds_expression c c.next (cmd.args.headD [])).seq
      (adds_emit c [symbol.write]) rfl) rfl) rfl
  refine hadds.follows.congr ?_
  unfold compileSet
  rcases arity cmd 1 1 with _ | _
  · rfl
  rcases c.writable cmd.name with _ | symbol
  · rfl
  show joined (c.expression c.next (cmd.args.headD [])) _ >>= _ = _
  rcases c.expression c.next (cmd.args.headD []) with _ | code
  · rfl
  · rfl

theorem follows_giveBack (c : Compiler) (cmd : Command) :
    Follows c [] (giveBack cmd) .none (c.compileReturn cmd) := by
  refine ((adds_optionalValue c cmd).seq (adds_emit c [.returnValue]) rfl).follows.congr ?_
  unfold compileReturn
  rcases c.optionalValue cmd with _ | code
  · rfl
  · rfl

theorem follows_compare (c : Compiler) (cmd : Command) :
    Follows c [] (compare cmd) .none (c.compileCompare cmd) := by
  have hadds := does_ask (P := (· = c.next)) (c := c) (f := fun _ => arity cmd 2 2) (fun _ _ =>
    (uses_comparison c (cmd.args.headD []) ((cmd.args.drop 1).headD [])).scratch.seq
      (adds_emit c [.compare]) rfl) rfl
  refine hadds.follows.congr ?_
  unfold compileCompare
  rcases arity cmd 2 2 with _ | _
  · rfl
  show joined (c.comparison _ _) _ >>= _ = _
  rcases c.comparison (cmd.args.headD []) ((cmd.args.drop 1).headD []) with _ | code
  · rfl
  · rfl

theorem follows_call (c : Compiler) (cmd : Command) :
    Follows c [] (call cmd) .none (c.compileCall cmd) := by
  unfold call compileCall
  refine follows_get ?_
  dsimp only
  cases c.function? cmd.name with
  | none => exact ⟨[], rfl⟩
  | some f =>
    simp only
    by_cases hargs : cmd.args.length ≠ f.params.length
    · rw [if_pos hargs, if_pos hargs]
      exact ⟨[], rfl⟩
    · rw [if_neg hargs, if_neg hargs]
      refine ((adds_emit c _).seq ((adds_arguments c 1 cmd.args f.params).seq (adds_emit c _) rfl)
        rfl).follows.congr ?_
      rcases c.arguments 1 cmd.args f.params with _ | code
      · rfl
      · rfl

theorem run_segmentFor (c : Compiler) (name : Text) (code : List Operation) :
    (segmentFor name).run.run ⟨c, code⟩ =
      (.ok (headerCode c name).1, ⟨{ c with program := (headerCode c name).2 }, code⟩) := by
  unfold segmentFor headerCode
  by_cases hname : name = entryName
  · rw [if_pos hname, if_pos hname]
    rfl
  · rw [if_neg hname, if_neg hname]
    rfl

theorem follows_functionStart (c : Compiler) (cmd : Command) :
    Follows c [] (functionStart cmd) .opened (c.compileFunctionStart cmd) := by
  unfold functionStart compileFunctionStart
  show Follows c [] (if c.depth > 0 then _ else _) .opened _
  by_cases hdepth : c.depth > 0
  · rw [if_pos hdepth, if_pos hdepth]
    exact ⟨[], rfl⟩
  rw [if_neg hdepth, if_neg hdepth]
  by_cases hdeclared : (c.function? cmd.name).isSome = true
  · rw [if_pos hdeclared, if_pos hdeclared]
    exact ⟨[], rfl⟩
  rw [if_neg hdeclared, if_neg hdeclared]
  have hiff : (decide (cmd.name = entryName) && !cmd.params.isEmpty) = true ↔
      cmd.name = entryName ∧ cmd.params ≠ [] := by simp
  by_cases hentry : cmd.name = entryName ∧ cmd.params ≠ []
  · rw [if_pos hentry, if_pos (hiff.mpr hentry)]
    exact ⟨[], rfl⟩
  rw [if_neg hentry, if_neg (mt hiff.mp hentry)]
  by_cases hsize : cmd.params.length + 1 > c.frameSize
  · rw [if_pos hsize, if_pos hsize]
    exact ⟨[], rfl⟩
  rw [if_neg hsize, if_neg hsize]
  refine follows_ask (f := fun _ => bindParameters 1 _ cmd.params) fun ⟨vars, kinds⟩ => ?_
  show Follows c [] (segmentFor cmd.name >>= _) .opened _
  unfold Follows
  simp only [run_bind, run_segmentFor, run_change, pure, Except.pure, headerCode, decide_eq_true_eq,
    and_self]

theorem follows_functionEnd (c : Compiler) : Follows c [] functionEnd .closed c.compileFunctionEnd := by
  unfold functionEnd compileFunctionEnd
  refine follows_get ?_
  dsimp only
  cases c.function with
  | none => exact ⟨[], rfl⟩
  | some function =>
    refine follows_get ?_
    dsimp only
    cases c.blocks.isEmpty with
    | true => exact ⟨rfl, rfl⟩
    | false => exact ⟨[], rfl⟩

theorem follows_endBlock (c : Compiler) : Follows c [] endBlock .closed c.compileEndBlock := by
  unfold endBlock compileEndBlock
  refine follows_get ?_
  dsimp only
  cases c.blocks with
  | nil => exact ⟨[], rfl⟩
  | cons block rest => exact ⟨rfl, rfl⟩

theorem follows_input (c : Compiler) (cmd : Command) (kind : Kind) :
    Follows c [] (input cmd kind) .none (c.compileInput cmd kind) := by
  unfold input compileInput
  refine follows_ask (f := fun _ => arity cmd 0 0) fun _ => ?_
  show Follows c [] (if (c.resolve cmd.name).any (·.readOnly) then _ else
    emit [.readInput, .heldToB] >>= fun _ => _) .none _
  cases hr : c.resolve cmd.name with
  | none =>
    unfold Follows
    simp only [Option.any_none, Bool.false_eq_true, if_false, run_bind, run_emit, inputTarget,
      run_declare]
    rcases c.declare cmd.name false with e | ⟨symbol, c'⟩
    · exact ⟨_, rfl⟩
    · exact ⟨rfl, rfl⟩
  | some symbol =>
    show Follows c [] (if symbol.readOnly then _ else _) .none (if symbol.readOnly then _ else _)
    cases symbol.readOnly with
    | true => exact ⟨[], rfl⟩
    | false => exact ⟨rfl, rfl⟩

theorem follows_convert (c : Compiler) (cmd : Command) (kind : Kind) :
    Follows c [] (convert cmd kind) .none (c.compileConversion cmd kind) := by
  have hadds := does_ask (P := (· = c.next)) (c := c) (f := fun _ => arity cmd 0 0) (fun _ _ => does_ask
    (f := (·.writable cmd.name)) (fun symbol _ =>
      adds_emit c [symbol.read, .heldToB, conversion kind, symbol.write]) rfl) rfl
  refine hadds.follows.congr ?_
  unfold compileConversion
  rcases arity cmd 0 0 with _ | _
  · rfl
  rcases c.writable cmd.name with _ | symbol
  · rfl
  · rfl

/-- Work on a whole command does what `r` says. -/
def Completes (c : Compiler) (w : Work ScopeHint) : Except Fault Compiled → Prop
  | .ok compiled => w.run.run ⟨c, []⟩ = (.ok compiled.hint, ⟨compiled.compiler, compiled.code⟩)
  | .error e => ∃ code, w.run.run ⟨c, []⟩ = (.error e, ⟨c, code⟩)

theorem Follows.completes {x : Except Fault Compiled} (h : Follows c [] w hint x) :
    Completes c (do w; return hint) x := by
  unfold Completes
  simp only [run_bind]
  cases x with
  | ok compiled =>
    obtain ⟨rfl, h⟩ := h
    simp only [h]
    rfl
  | error e =>
    obtain ⟨code, h⟩ := h
    exact ⟨code, by rw [h]⟩

/-- Every command does in place what compiling it says, and one that fails leaves the compiler as it
was. -/
theorem completes_command (c : Compiler) (cmd : Command) :
    Completes c (command cmd) (c.compileCommand cmd) := by
  cases hk : cmd.kind with simp only [command, compileCommand, hk]
  | print => exact (follows_print c cmd).completes
  | printLine => exact (follows_print c cmd).completes
  | printDebug => exact (follows_print c cmd).completes
  | declare => exact (follows_declaration c cmd).completes
  | set => exact (follows_set c cmd).completes
  | returnValue => exact (follows_giveBack c cmd).completes
  | compare => exact (follows_compare c cmd).completes
  | executeIf condition => rfl
  | endBlock => exact (follows_endBlock c).completes
  | call => exact (follows_call c cmd).completes
  | functionStart => exact (follows_functionStart c cmd).completes
  | functionEnd => exact (follows_functionEnd c).completes
  | quit => rfl
  | input kind => exact (follows_input c cmd kind).completes
  | convert kind => exact (follows_convert c cmd kind).completes
  | unknown code => exact ⟨[], rfl⟩

end
end Work

/-- Submitting a command compiles it, or leaves the compiler exactly as it was. -/
theorem submit_eq (c : Compiler) (line : Int) (cmd : Command) :
    c.submit line cmd = match c.compile line cmd with
      | .ok (hint, c') => (c', .ok hint)
      | .error e => (c, .error e) := by
  have hrun := Work.completes_command c cmd
  unfold submit compile
  cases hc : c.compileCommand cmd with
  | ok compiled =>
    rw [hc] at hrun
    have hrun : (Work.command cmd).run.run ⟨c, []⟩ = _ := hrun
    simp only [hrun]
  | error e =>
    rw [hc] at hrun
    obtain ⟨code, hrun⟩ := hrun
    simp only [hrun]

def submitAll (c : Compiler) : List (Int × Command) → Compiler × List (Except Error ScopeHint)
  | [] => (c, [])
  | (line, cmd) :: rest =>
    let (c, answer) := c.submit line cmd
    let (c, answers) := c.submitAll rest
    (c, answer :: answers)

end Birl.Compiler
