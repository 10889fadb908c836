import Birl.Proofs.Compiler.Command

/-!
# Compiling in place

The compiler can also be read as a procedure that changes its state as it goes: it takes
slots, emits code, adds segments and binds names while it reads a command, and a command
may fail at any point of this. `submit` is that procedure. Work on an expression takes
slots at every level of parentheses; each level gives its slots back when it is left,
however it is left (`scratch`), so that the whole leaves the compiler as it was
(`adds_expression`).
-/

namespace Birl.Compiler

/-- The compiler at work on a line: what it has changed, and the code it has emitted. -/
structure Draft where
  compiler : Compiler
  code : List Operation := []

/-- Work on a line. What it changes before it fails stays changed. -/
abbrev Work := ExceptT Fault (StateM Draft)

namespace Work

def emit (code : List Operation) : Work Unit :=
  modify fun d => { d with code := d.code ++ code }

def change (f : Compiler → Compiler) : Work Unit :=
  modify fun d => { d with compiler := f d.compiler }

def ask {α : Type} (f : Compiler → Except Fault α) : Work α := do
  ofExcept (f (← get).compiler)

def reserve : Work Nat := do
  let slot ← ask fun c => c.allocate c.next
  change fun c => { c with next := slot + 1 }
  return slot

/-- Gives back the slots that were taken since `next` was the next free one. -/
def release (next : Nat) : Work Unit := change fun c => { c with next }

/-- Work that gives back the slots it took, whether or not it succeeds. -/
def scratch {α : Type} (w : Work α) : Work α := do
  let next := (← get).compiler.next
  try w finally release next

def load (node : Node) : Work Unit := do emit (← ask (·.operand node))

def write (slot : Nat) : Work Unit := do emit [((← get).compiler.hidden slot).write]

def fold (slot : Nat) (op : Operator) : Work Unit := do emit ((← get).compiler.foldInto slot op)

/-- The nodes of one level, whose accumulator is in `slot` if it has one. -/
def level (slot : Nat) (s : Progress) (nodes : List Node) : Work Unit :=
  match nodes with
  | [] =>
    if s.expectValue then throw .endsWithoutOperand
    else s.low.elim (pure ()) (fold slot)
  | .operator .openParen :: rest =>
    if !s.expectValue then throw (.missingOperator (.operator .openParen))
    else
      match h : splitGroup 0 rest with
      | none => throw .unbalanced
      | some (inner, after) =>
        have := length_splitGroup h
        match s.pending with
        | none => do
          scratch (level 0 {} inner)
          level slot { s with expectValue := false } after
        | some op => do
          let mark := (← get).compiler.next
          let kept ← reserve
          write kept
          scratch (level 0 {} inner)
          fold kept op
          release mark
          level slot { s with expectValue := false, pending := none } after
  | .operator .closeParen :: _ => throw .unbalanced
  | .operator op :: rest =>
    if s.expectValue then throw (.noLeftOperand op)
    else if op.isHigh then
      level slot { s with expectValue := true, pending := some op } rest
    else do
      s.low.elim (pure ()) (fold slot)
      if simpleTerm rest then
        match rest with
        | [] => throw .endsWithoutOperand
        | right :: rest =>
          emit [.swap]
          load right
          emit op.operations
          level slot { s with expectValue := false, low := none } rest
      else if s.hasAccumulator then
        write slot
        level slot { s with expectValue := true, low := some op } rest
      else
        let slot ← reserve
        write slot
        level slot { s with expectValue := true, low := some op, hasAccumulator := true } rest
  | node :: rest =>
    if !s.expectValue then throw (.missingOperator node)
    else match s.pending with
      | none => do
        load node
        level slot { s with expectValue := false } rest
      | some op => do
        emit [.swap]
        load node
        emit op.operations
        level slot { s with expectValue := false, pending := none } rest
termination_by nodes.length
decreasing_by all_goals simp_all <;> omega

def expression (e : Expression) : Work Unit :=
  if e.isEmpty then throw .emptyExpression else scratch (level 0 {} e)

def prints (operation : Operation) : List Expression → Work Unit
  | [] => pure ()
  | e :: rest => do
    expression e
    emit [operation]
    prints operation rest

def optionalValue (cmd : Command) : Work Unit := do
  ask fun _ => arity cmd 0 1
  match cmd.args with
  | e :: _ => expression e
  | [] => emit [.loadB .null]

def bindName (name : Text) (symbol : Symbol) : Work Symbol := do
  change fun c => c.setInnermost (c.innermost.put name symbol)
  return symbol

def declare (name : Text) (readOnly : Bool) : Work Symbol := do
  let c := (← get).compiler
  match c.innermost.find? name with
  | some previous =>
    if previous.readOnly then
      let address ← reserve
      bindName name { address, global := c.inGlobal, readOnly }
    else bindName name { previous with readOnly }
  | none =>
    let address ← reserve
    bindName name { address, global := c.inGlobal, readOnly }

def between (left right : Expression) : Work Unit := do
  expression left
  let slot ← reserve
  write slot
  expression right
  emit [((← get).compiler.hidden slot).read, .heldToA]

def comparison (left right : Expression) : Work Unit :=
  match left, right with
  | [.value literal], right => do
    expression right
    emit [.loadA literal]
  | left, [node] =>
    if node.isOperator then between left [node]
    else do
      expression left
      emit [.swap]
      load node
  | left, right => between left right

def arguments (address : Nat) : List Expression → List ParameterKind → Work Unit
  | e :: args, kind :: kinds => do
    expression e
    emit [.assertKind kind, .writeArgument address]
    arguments (address + 1) args kinds
  | _, _ => pure ()

def call (cmd : Command) : Work Unit := do
  match (← get).compiler.function? cmd.name with
  | none => throw (.unknownFunction cmd.name)
  | some f =>
    if cmd.args.length ≠ f.params.length then
      throw (.callArity f.name f.params.length cmd.args.length)
    else
      emit [.newFrame f.callee.frameOperand]
      arguments 1 cmd.args f.params
      emit [callOperation f]

def segmentFor (name : Text) : Work Nat := do
  if name = entryName then return entryCode
  else
    let id := (← get).compiler.program.segments.size
    change fun c => { c with program := (c.program.addSegment name).2 }
    return id

def functionStart (cmd : Command) : Work Unit := do
  let c := (← get).compiler
  if c.depth > 0 then throw (.functionInsideBlock cmd.name)
  else if (c.function? cmd.name).isSome then throw (.redeclaredFunction cmd.name)
  else if cmd.name = entryName ∧ cmd.params ≠ [] then throw (.entryParameters cmd.name)
  else if cmd.params.length + 1 > c.frameSize then
    throw (.tooManyParameters cmd.name cmd.params.length)
  else
    let (vars, kinds) ← ask fun _ => bindParameters 1 [(returnName, { address := 0 })] cmd.params
    let code ← segmentFor cmd.name
    let info : FunctionInfo := { name := cmd.name, callee := .code code, params := kinds }
    change fun c => { c with functions := (cmd.name, info) :: c.functions }
    change fun c => { c with function := some { code, vars, globalNext := c.next } }
    change fun c => { c with next := cmd.params.length + 1 }

def functionEnd : Work Unit := do
  match (← get).compiler.function with
  | none => throw .noOpenFunction
  | some function =>
    if (← get).compiler.blocks.isEmpty then
      change fun c => { c with function := none }
      change fun c => { c with next := function.globalNext }
    else throw .blockInsideFunction

def endBlock : Work Unit := do
  match (← get).compiler.blocks with
  | [] => throw .noOpenBlock
  | block :: rest =>
    emit [.endIf]
    change fun c => { c with blocks := rest }
    change fun c => { c with next := block.savedNext }

def inputTarget (name : Text) (known : Option Symbol) : Work Symbol :=
  match known with
  | some symbol => pure symbol
  | none => declare name false

def input (cmd : Command) (kind : Kind) : Work Unit := do
  ask fun _ => arity cmd 0 0
  let known := (← get).compiler.resolve cmd.name
  if known.any (·.readOnly) then throw (.readOnlyVariable cmd.name)
  else
    emit [.readInput, .heldToB]
    emit (if kind = .text then [] else [conversion kind])
    emit [(← inputTarget cmd.name known).write]

def print (cmd : Command) : Work Unit := do
  prints (if cmd.kind = .printDebug then .printDebug else .print) cmd.args
  emit (if cmd.kind = .print then [] else [.newLine])
  emit [.flush]

def declaration (cmd : Command) : Work Unit := do
  optionalValue cmd
  emit [(← declare cmd.name false).write]

def set (cmd : Command) : Work Unit := do
  ask fun _ => arity cmd 1 1
  let symbol ← ask (·.writable cmd.name)
  expression (cmd.args.headD [])
  emit [symbol.write]

def giveBack (cmd : Command) : Work Unit := do
  optionalValue cmd
  emit [.returnValue]

def compare (cmd : Command) : Work Unit := do
  ask fun _ => arity cmd 2 2
  scratch (comparison (cmd.args.headD []) ((cmd.args.drop 1).headD []))
  emit [.compare]

def openBlock (condition : Condition) : Work Unit := do
  emit [.executeIf (.known condition)]
  change fun c => { c with blocks := { savedNext := c.next } :: c.blocks }

def convert (cmd : Command) (kind : Kind) : Work Unit := do
  ask fun _ => arity cmd 0 0
  let symbol ← ask (·.writable cmd.name)
  emit [symbol.read, .heldToB, conversion kind, symbol.write]

def command (cmd : Command) : Work ScopeHint :=
  match cmd.kind with
  | .print | .printLine | .printDebug => do print cmd; return .none
  | .declare => do declaration cmd; return .none
  | .set => do set cmd; return .none
  | .returnValue => do giveBack cmd; return .none
  | .compare => do compare cmd; return .none
  | .executeIf condition => do openBlock condition; return .opened
  | .endBlock => do endBlock; return .closed
  | .call => do call cmd; return .none
  | .functionStart => do functionStart cmd; return .opened
  | .functionEnd => do functionEnd; return .closed
  | .quit => do emit [.flush, .quit]; return .none
  | .input kind => do input cmd kind; return .none
  | .convert kind => do convert cmd kind; return .none
  | .unknown _ => throw (.unknownCommand cmd.kind)

end Work

/-- Submits a command of a numbered line. The compiler that is left is the one that worked on it,
whether or not it succeeded; only the code of a command that succeeded is added. -/
def submit (c : Compiler) (line : Int) (cmd : Command) : Compiler × Except Error ScopeHint :=
  match (Work.command cmd).run.run { compiler := c } with
  | (.error fault, d) => (d.compiler, .error (.compile line fault))
  | (.ok hint, d) =>
    let code := d.code.map fun op => { op, line }
    ({ d.compiler with program := d.compiler.program.append c.currentCode code }, .ok hint)

-- ---------------------------------------------------------------------------
-- What work does
-- ---------------------------------------------------------------------------

def joined (first second : Except Fault (List Operation)) : Except Fault (List Operation) := do
  return (← first) ++ (← second)

namespace Work

/-- How work ends that started with the compiler `c` and some code, where `r` tells what it is to
add: the code is added, or the work fails as `r` does. Either way nothing of the compiler has
changed but the next free slot. -/
inductive Ends (c : Compiler) (code : List Operation) :
    Except Fault (List Operation) → Nat → Except Fault Unit × Draft → Prop
  | added (ops : List Operation) (next : Nat) :
      Ends c code (.ok ops) next (.ok (), ⟨{ c with next }, code ++ ops⟩)
  | failed (e : Fault) (next : Nat) (code' : List Operation) :
      Ends c code (.error e) next (.error e, ⟨{ c with next }, code'⟩)

/-- The work adds the code that `r` gives or fails as `r` does, and leaves a next free slot with the
property `P`. -/
def Does (P : Nat → Prop) (c : Compiler) (w : Work Unit) (r : Except Fault (List Operation)) : Prop :=
  ∀ code, ∃ next, P next ∧ Ends c code r next (w.run.run ⟨c, code⟩)

/-- The work may leave slots taken. -/
abbrev Uses : Compiler → Work Unit → Except Fault (List Operation) → Prop := Does fun _ => True

/-- The work leaves the compiler as it was. -/
abbrev Adds (c : Compiler) : Work Unit → Except Fault (List Operation) → Prop := Does (· = c.next) c

section
variable {P : Nat → Prop} {c : Compiler} {w w' : Work Unit} {r r' : Except Fault (List Operation)}
  {slot : Nat} {s : Progress} {hint : ScopeHint}

theorem run_bind {α β : Type} (x : Work α) (f : α → Work β) (d : Draft) :
    (x >>= f).run.run d = match x.run.run d with
      | (.ok a, d') => (f a).run.run d'
      | (.error e, d') => (.error e, d') := by
  simp only [ExceptT.run_bind, StateT.run_bind]
  rcases x.run.run d with ⟨_ | _, d'⟩ <;> rfl

@[simp] theorem run_emit (code : List Operation) (d : Draft) :
    (emit code).run.run d = (.ok (), { d with code := d.code ++ code }) := rfl

@[simp] theorem run_release (next : Nat) (d : Draft) :
    (release next).run.run d = (.ok (), { d with compiler := { d.compiler with next } }) := rfl

@[simp] theorem run_change (f : Compiler → Compiler) (d : Draft) :
    (change f).run.run d = (.ok (), { d with compiler := f d.compiler }) := rfl

theorem run_ask {α : Type} (f : Compiler → Except Fault α) (d : Draft) :
    (ask f).run.run d = (f d.compiler, d) := by
  unfold ask
  rw [run_bind]
  show (ofExcept (f d.compiler) : Work α).run.run d = _
  cases f d.compiler <;> rfl

theorem run_scratch {α : Type} (w : Work α) (d : Draft) :
    (scratch w).run.run d =
      ((w.run.run d).1,
        { (w.run.run d).2 with
          compiler := { (w.run.run d).2.compiler with next := d.compiler.next } }) := by
  unfold scratch
  rw [run_bind]
  show (tryFinally w (release d.compiler.next)).run.run d = _
  rcases h : w.run.run d with ⟨_ | _, d'⟩
  all_goals
    simp only [ExceptT.run, StateT.run] at h
    simp [tryFinally, tryFinally', ExceptT.run, StateT.run, ExceptT.mk, h, StateT.bind, bind, pure,
      ExceptT.map, Functor.map]
    try rfl

theorem Does.uses (h : Does P c w r) : Uses c w r := by
  intro code
  obtain ⟨next, -, h⟩ := h code
  exact ⟨next, trivial, h⟩

theorem Does.scratch (h : Does P c w r) : Adds c (scratch w) r := by
  intro code
  obtain ⟨next, -, h⟩ := h code
  refine ⟨c.next, rfl, ?_⟩
  rw [run_scratch]
  generalize w.run.run ⟨c, code⟩ = result at h
  cases h with
  | added ops => exact .added ops c.next
  | failed e _ code' => exact .failed e c.next code'

theorem adds_emit (c : Compiler) (ops : List Operation) : Adds c (emit ops) (.ok ops) :=
  fun _ => ⟨c.next, rfl, .added ops c.next⟩

theorem adds_write (c : Compiler) (slot : Nat) :
    Adds c (write slot) (.ok [(c.hidden slot).write]) :=
  fun _ => ⟨c.next, rfl, .added _ c.next⟩

theorem adds_fold (c : Compiler) (slot : Nat) (op : Operator) :
    Adds c (fold slot op) (.ok (c.foldInto slot op)) :=
  fun _ => ⟨c.next, rfl, .added _ c.next⟩

theorem adds_nothing (c : Compiler) : Adds c (pure ()) (.ok []) := by
  intro code
  have hadded : Ends c code (.ok []) c.next (.ok (), ⟨c, code ++ []⟩) := .added [] c.next
  rw [List.append_nil] at hadded
  exact ⟨c.next, rfl, hadded⟩

theorem Does.congr (h : Does P c w r) (he : r = r') : Does P c w r' := he ▸ h

theorem does_throw (e : Fault) (hP : P c.next) : Does P c (throw e) (.error e) :=
  fun code => ⟨c.next, hP, .failed e c.next code⟩

theorem Adds.seq (h : Adds c w r) (h' : Does P c w' r') (hP : P c.next) :
    Does P c (do w; w') (joined r r') := by
  intro code
  obtain ⟨_, rfl, h⟩ := h code
  rw [run_bind]
  generalize w.run.run ⟨c, code⟩ = result at h
  cases h with
  | failed e _ code' => exact ⟨c.next, hP, .failed e c.next code'⟩
  | added ops =>
    obtain ⟨next, hnext, h'⟩ := h' (code ++ ops)
    refine ⟨next, hnext, ?_⟩
    show Ends c code (joined (.ok ops) r') next (w'.run.run ⟨c, code ++ ops⟩)
    generalize w'.run.run ⟨c, code ++ ops⟩ = result at h'
    cases h' with
    | failed e _ code' => exact .failed e next code'
    | added more =>
      rw [List.append_assoc]
      exact .added (ops ++ more) next

theorem does_ask {α : Type} {f : Compiler → Except Fault α} {k : α → Work Unit}
    {g : α → Except Fault (List Operation)} (h : ∀ a, f c = .ok a → Does P c (k a) (g a))
    (hP : P c.next) : Does P c (ask f >>= k) (f c >>= g) := by
  intro code
  rw [run_bind, run_ask]
  cases hf : f c with
  | error e => exact ⟨c.next, hP, .failed e c.next code⟩
  | ok a => exact h a hf code

theorem does_get {k : Draft → Work Unit} (h : ∀ code, Does P c (k ⟨c, code⟩) r) :
    Does P c (get >>= k) r :=
  fun code => h code code

theorem adds_load (c : Compiler) (node : Node) : Adds c (load node) (c.operand node) := by
  have h := does_ask (P := (· = c.next)) (f := (·.operand node)) (k := emit) (g := .ok)
    (fun ops _ => adds_emit c ops) rfl
  cases ho : c.operand node with
  | error e =>
    rw [ho] at h
    exact h
  | ok ops =>
    rw [ho] at h
    exact h

theorem Ends.of_next {code : List Operation} {n n' next : Nat} {result : Except Fault Unit × Draft}
    (h : Ends { c with next := n } code r next result) :
    Ends { c with next := n' } code r next result := by
  cases h with
  | added ops => exact .added ops next
  | failed e _ code' => exact .failed e next code'

theorem uses_reserve {n : Nat} {k : Nat → Work Unit} {g : Nat → Except Fault (List Operation)}
    (h : Uses { c with next := n + 1 } (k n) (g n)) :
    Uses { c with next := n } (reserve >>= k) (c.allocate n >>= g) := by
  intro code
  rw [run_bind]
  unfold reserve
  rw [run_bind, run_ask]
  have hsame : ({ c with next := n } : Compiler).allocate n = c.allocate n := rfl
  simp only [hsame]
  cases ha : c.allocate n with
  | error e => exact ⟨n, trivial, .failed e n code⟩
  | ok slot =>
    obtain ⟨-, rfl⟩ := allocate_ok ha
    obtain ⟨next, -, h⟩ := h code
    exact ⟨next, trivial, h.of_next⟩

theorem uses_release {n next : Nat} (h : Uses { c with next } w r) :
    Uses { c with next := n } (do release next; w) r := by
  intro code
  obtain ⟨next', -, h⟩ := h code
  exact ⟨next', trivial, h.of_next⟩

-- ---------------------------------------------------------------------------
-- Expressions
-- ---------------------------------------------------------------------------

theorem adds_settle (c : Compiler) {first : Nat}
    (hs : s.hasAccumulator = true ∨ s.low.isSome = true → slot = first) :
    Adds c (s.low.elim (pure ()) (fold slot)) (.ok (s.low.elim [] (c.foldInto first))) := by
  cases hl : s.low with
  | none => exact adds_nothing c
  | some op =>
    cases hs (.inr (by rw [hl]; rfl))
    exact adds_fold c slot op

theorem level_group {rest inner after : List Node} (he : s.expectValue = true)
    (hg : splitGroup 0 rest = some (inner, after)) :
    level slot s (.operator .openParen :: rest) = match s.pending with
      | none => (do
        scratch (level 0 {} inner)
        level slot { s with expectValue := false } after)
      | some op => (do
        let mark := (← get).compiler.next
        let kept ← reserve
        write kept
        scratch (level 0 {} inner)
        fold kept op
        release mark
        level slot { s with expectValue := false, pending := none } after) := by
  rw [level, if_neg (by simp [he])]
  split
  · rename_i hg'
    cases hg.symm.trans hg'
  · rename_i hg'
    cases hg.symm.trans hg'
    rfl

theorem level_operator {op : Operator} {rest : List Node} (hopen : op ≠ .openParen)
    (hclose : op ≠ .closeParen) :
    level slot s (.operator op :: rest) =
      if s.expectValue then throw (.noLeftOperand op)
      else if op.isHigh then level slot { s with expectValue := true, pending := some op } rest
      else (do
        s.low.elim (pure ()) (fold slot)
        if simpleTerm rest then
          match rest with
          | [] => throw .endsWithoutOperand
          | right :: rest =>
            emit [.swap]
            load right
            emit op.operations
            level slot { s with expectValue := false, low := none } rest
        else if s.hasAccumulator then
          write slot
          level slot { s with expectValue := true, low := some op } rest
        else
          let slot ← reserve
          write slot
          level slot { s with expectValue := true, low := some op, hasAccumulator := true } rest) := by
  cases rest with
  | nil => exact level.eq_4 slot s op hopen hclose
  | cons right rest => exact level.eq_5 slot s op right rest hopen hclose

theorem level_uses (c : Compiler) (first slot : Nat) (s : Progress) (nodes : List Node)
    (hs : s.hasAccumulator = true ∨ s.low.isSome = true → slot = first) :
    Uses { c with next := s.free first } (level slot s nodes) (c.compileFrom first s nodes) := by
  fun_induction compileFrom c first s nodes generalizing slot with
  | case1 first s he =>
    rw [level, if_pos he]
    exact does_throw _ trivial
  | case2 first s he =>
    rw [level, if_neg he]
    exact (adds_settle { c with next := s.free first } hs).uses
  | case3 first s rest he =>
    rw [level, if_pos he]
    exact does_throw _ trivial
  | case4 first s rest he hg =>
    rw [level, if_neg he]
    split
    · exact does_throw _ trivial
    · rename_i hg'
      cases hg.symm.trans hg'
  | case5 first s rest he inner after hg _ hp ihg ihm =>
    rw [level_group (by simpa using he) hg]
    simp only [hp] at ihm ⊢
    exact (ihg 0 (by simp)).scratch.seq (ihm slot hs) trivial
  | case6 first s rest he inner after hg _ op hp ihg ihm =>
    rw [level_group (by simpa using he) hg]
    simp only [hp]
    refine does_get fun _ => ?_
    have hmore := uses_release (n := s.free first + 1) (ihm slot hs)
    have hgroup := (ihg (s.free first) 0 (by simp)).scratch.seq
      ((adds_fold _ (s.free first) op).seq hmore trivial) trivial
    refine .congr (uses_reserve ((adds_write _ (s.free first)).seq hgroup trivial)
      (g := fun kept => joined (.ok [(c.hidden kept).write]) (joined
        (c.compileFrom (kept + 1) {} inner) (joined (.ok (c.foldInto kept op))
          (c.compileFrom first { s with expectValue := false, pending := none } after))))) ?_
    refine bind_congr fun kept => ?_
    rcases c.compileFrom (kept + 1) {} inner with _ | group
    · rfl
    rcases c.compileFrom first { s with expectValue := false, pending := none } after with _ | more
    · rfl
    exact congrArg Except.ok (by simp)
  | case7 =>
    rw [level]
    exact does_throw _ trivial
  | case8 first s op rest hopen hclose he =>
    rw [level_operator hopen hclose, if_pos he]
    exact does_throw _ trivial
  | case9 first s op rest hopen hclose he ho ih =>
    rw [level_operator hopen hclose, if_neg he, if_pos ho]
    exact ih slot hs
  | case10 first s op hopen hclose he ho hsimple => cases hsimple
  | case11 first s op hopen hclose he ho sum node rest hsimple =>
    rename_i ih
    rw [level_operator hopen hclose, if_neg he, if_neg ho, if_pos hsimple]
    have hmore := ih slot fun h => hs (.inl (by simpa using h))
    have hload := (adds_load { c with next := s.free first } node).seq
      ((adds_emit _ op.operations).seq hmore trivial) trivial
    refine ((adds_settle { c with next := s.free first } hs).seq
      ((adds_emit _ [.swap]).seq hload trivial) trivial).congr ?_
    show joined (.ok sum) (joined (.ok [.swap]) (joined (c.operand node) _)) = _
    rcases c.operand node with _ | load
    · rfl
    rcases c.compileFrom first { s with expectValue := false, low := none } rest with _ | more
    · rfl
    exact congrArg Except.ok (by simp)
  | case12 first s op rest hopen hclose he ho sum hsimple join hacc =>
    rename_i ih
    rw [level_operator hopen hclose, if_neg he, if_neg ho, if_neg hsimple, if_neg (by simpa using hacc)]
    have hfree : s.free first = first := by simp_all [Progress.free]
    have hmore := (adds_write { c with next := first + 1 } first).seq (ih first fun _ => rfl) trivial
    rw [hfree]
    refine ((adds_settle { c with next := first } hs).seq (uses_reserve
      (g := fun slot => joined (.ok [(c.hidden slot).write]) (c.compileFrom first
        { s with expectValue := true, low := some op, hasAccumulator := true } rest)) hmore) trivial).congr ?_
    show joined (.ok sum) (c.allocate first >>= _) = (c.allocate first >>= _)
    cases ha : c.allocate first with
    | error e => rfl
    | ok slot =>
      obtain ⟨-, rfl⟩ := allocate_ok ha
      show joined (.ok sum) (joined (.ok [(c.hidden slot).write]) _) = join ()
      simp only [join]
      rcases c.compileFrom slot _ rest with _ | more
      · rfl
      · rfl
  | case13 first s op rest hopen hclose he ho sum hsimple join hacc =>
    rename_i ih
    rw [level_operator hopen hclose, if_neg he, if_neg ho, if_neg hsimple, if_pos (by simpa using hacc)]
    have hacc : s.hasAccumulator = true := by simpa using hacc
    obtain rfl : slot = first := hs (.inl hacc)
    have hfree : s.free slot = slot + 1 := by simp [Progress.free, hacc]
    have hmore := (adds_write { c with next := slot + 1 } slot).seq (ih slot fun _ => rfl) trivial
    rw [hfree, hacc]
    refine ((adds_settle { c with next := slot + 1 } hs).seq hmore trivial).congr ?_
    simp only [join]
    rcases c.compileFrom slot _ rest with _ | more
    · rfl
    · rfl
  | case14 first s node rest hopen hclose hop he =>
    rw [level.eq_6 _ _ _ _ hopen hclose hop, if_pos he]
    exact does_throw _ trivial
  | case15 first s node rest hopen hclose hop he ih =>
    rw [level.eq_6 _ _ _ _ hopen hclose hop, if_neg he]
    have hload := adds_load { c with next := s.free first } node
    have hmore := ih slot hs
    cases hp : s.pending with
    | none =>
      refine (hload.seq hmore trivial).congr ?_
      show joined (c.operand node) _ = _
      rcases c.operand node with _ | load
      · rfl
      rcases c.compileFrom first _ rest with _ | more
      · rfl
      · rfl
    | some op =>
      refine ((adds_emit _ [.swap]).seq (hload.seq ((adds_emit _ op.operations).seq hmore trivial)
        trivial) trivial).congr ?_
      show joined (.ok [.swap]) (joined (c.operand node) _) = _
      rcases c.operand node with _ | load
      · rfl
      rcases c.compileFrom first _ rest with _ | more
      · rfl
      exact congrArg Except.ok (by simp)

theorem adds_expression (c : Compiler) (n : Nat) (e : Expression) :
    Adds { c with next := n } (expression e) (c.expression n e) := by
  unfold expression Compiler.expression
  split
  · exact does_throw _ rfl
  · exact (level_uses c n 0 {} e nofun).scratch

end
end Work
end Birl.Compiler
