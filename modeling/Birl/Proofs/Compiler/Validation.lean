import Birl.Proofs.Compiler.Command
import Birl.Proofs.Compiler.Refusal
import Birl.Proofs.Source.Command
import Birl.Proofs.Source.Derivation

/-!
# The parser and the compiler agree

The check of the parser is a scan with a counter; the compiler goes into groups and looks ahead. They
accept the same expressions (`compiles_iff_validates`), so nothing that was parsed is malformed to the
compiler, whatever else is wrong with it (`wellWritten_command`).
-/

namespace Birl
namespace Compiler

-- ---------------------------------------------------------------------------
-- Commands
-- ---------------------------------------------------------------------------

/-- Nothing malformed is found. -/
def WellWritten {α : Type} (x : Except Fault α) : Prop :=
  ∀ fault, x = .error fault → fault.kind ≠ .parse

section
variable {α β : Type} {c : Compiler} {cmd : Command} {next : ℕ}

theorem WellWritten.ok (a : α) : WellWritten (.ok a : Except Fault α) := nofun

theorem WellWritten.error {fault : Fault} (h : fault.kind ≠ .parse) :
    WellWritten (.error fault : Except Fault α) := by
  rintro _ heq
  cases heq
  exact h

theorem WellWritten.bind {x : Except Fault α} {f : α → Except Fault β} (hx : WellWritten x)
    (hf : ∀ a, x = .ok a → WellWritten (f a)) : WellWritten (x >>= f) := by
  intro fault h
  rcases bind_error.mp h with h | ⟨a, ha, h⟩
  · exact hx fault h
  · exact hf a ha fault h

theorem WellWritten.check {failing : Prop} [Decidable failing] {fault : Fault}
    {f : β → Except Fault α} {x : Except Fault α} (h : fault.kind ≠ .parse) (hx : WellWritten x) :
    WellWritten (if failing then (throw fault : Except Fault β) >>= f else x) := by
  split
  · exact .error h
  · exact hx

theorem wellWritten_expression {e : Expression} {t : Tree} (ht : Derives .sum e t) (next : ℕ) :
    WellWritten (c.expression next e) :=
  fun _ h => (expression_refusal ht.known h).kind_ne ht

theorem wellWritten_operand {node : Node} {t : Tree} (ht : Derives .sum [node] t)
    (hnode : node.isOperand = true) : WellWritten (c.operand node) := by
  intro fault h
  have hrefusal : Refusal c c.next true [node] fault := operand_error hnode h true
  exact hrefusal.kind_ne ht

theorem wellWritten_allocate (address : ℕ) : WellWritten (c.allocate address) := by
  intro fault h
  rw [(allocate_error h).2]
  exact ErrorKind.noConfusion

theorem wellWritten_arity (least most : ℕ) : WellWritten (arity cmd least most) := by
  unfold arity
  dsimp only
  split
  · exact .error ErrorKind.noConfusion
  · exact .ok ()

theorem wellWritten_declare (name : Text) (readOnly : Bool) :
    WellWritten (c.declare name readOnly) := by
  have hfresh (f : ℕ → Except Fault (Symbol × Compiler)) (hf : ∀ a, WellWritten (f a)) :
      WellWritten (c.allocate c.next >>= f) :=
    (wellWritten_allocate c.next).bind fun a _ => hf a
  unfold declare
  dsimp only
  split
  · split
    · exact hfresh _ fun a => .ok _
    · exact .ok _
  · exact hfresh _ fun a => .ok _

theorem wellWritten_writable (name : Text) : WellWritten (c.writable name) := by
  unfold writable
  split
  · exact .error ErrorKind.noConfusion
  · split
    · exact .error ErrorKind.noConfusion
    · exact .ok _

theorem wellWritten_bindParameters {address : ℕ} {vars : Bindings} (params : List Parameter) :
    WellWritten (bindParameters address vars params) := by
  induction params generalizing address vars with
  | nil => exact .ok _
  | cons p rest ih =>
    rw [bindParameters]
    split
    · exact .error ErrorKind.noConfusion
    · split
      · exact .error ErrorKind.noConfusion
      · exact ih.bind fun _ _ => .ok _

theorem wellWritten_printArguments {operation : Operation} {args : List Expression}
    (hargs : ∀ e ∈ args, ∃ t, Derives .sum e t) :
    WellWritten (c.printArguments operation args) := by
  induction args with
  | nil => exact .ok _
  | cons e rest ih =>
    obtain ⟨⟨t, ht⟩, hrest⟩ := List.forall_mem_cons.mp hargs
    rw [printArguments]
    exact (wellWritten_expression ht c.next).bind fun _ _ => (ih hrest).bind fun _ _ => .ok _

theorem wellWritten_arguments {address : ℕ} {args : List Expression} {kinds : List ParameterKind}
    (hargs : ∀ e ∈ args, ∃ t, Derives .sum e t) : WellWritten (c.arguments address args kinds) := by
  induction args generalizing address kinds with
  | nil => exact .ok _
  | cons e rest ih =>
    obtain ⟨⟨t, ht⟩, hrest⟩ := List.forall_mem_cons.mp hargs
    cases kinds with
    | nil => exact .ok _
    | cons kind kinds =>
      rw [arguments]
      exact (wellWritten_expression ht c.next).bind fun _ _ => (ih hrest).bind fun _ _ => .ok _

theorem wellWritten_between {left right : Expression} {l r : Tree} (hl : Derives .sum left l)
    (hr : Derives .sum right r) : WellWritten (comparison.between c left right) :=
  (wellWritten_expression hl c.next).bind fun _ _ => (wellWritten_allocate c.next).bind fun _ _ =>
    (wellWritten_expression hr _).bind fun _ _ => .ok _

theorem wellWritten_comparison {left right : Expression} {l r : Tree} (hl : Derives .sum left l)
    (hr : Derives .sum right r) : WellWritten (c.comparison left right) := by
  unfold comparison
  split
  · exact (wellWritten_expression hr c.next).bind fun _ _ => .ok _
  · rename_i node _
    split
    · exact wellWritten_between hl hr
    · rename_i hoperator
      have hnode : node.isOperand = true :=
        (hr.known node List.mem_cons_self).isOperand fun op hop => hoperator (hop ▸ rfl)
      exact (wellWritten_expression hl c.next).bind fun _ _ =>
        (wellWritten_operand hr hnode).bind fun _ _ => .ok _
  · exact wellWritten_between hl hr

theorem wellWritten_endBlock : WellWritten c.compileEndBlock := by
  unfold compileEndBlock
  split
  · exact .error ErrorKind.noConfusion
  · exact .ok _

theorem wellWritten_functionEnd : WellWritten c.compileFunctionEnd := by
  unfold compileFunctionEnd
  split
  · exact .error ErrorKind.noConfusion
  · split
    · exact .ok _
    · exact .error ErrorKind.noConfusion

theorem wellWritten_functionStart : WellWritten (c.compileFunctionStart cmd) := by
  refine .check ErrorKind.noConfusion (.check ErrorKind.noConfusion ?_)
  refine .check ErrorKind.noConfusion (.check ErrorKind.noConfusion ?_)
  exact (wellWritten_bindParameters cmd.params).bind fun _ _ => .ok _

theorem wellWritten_input (kind : Kind) : WellWritten (c.compileInput cmd kind) := by
  refine (wellWritten_arity 0 0).bind fun _ _ => ?_
  dsimp only
  split
  · exact .check ErrorKind.noConfusion (.ok _)
  · exact (wellWritten_declare cmd.name false).bind fun _ _ => .ok _

section
variable (hargs : ∀ e ∈ cmd.args, ∃ t, Derives .sum e t)
include hargs

theorem wellWritten_optionalValue : WellWritten (c.optionalValue cmd) := by
  refine (wellWritten_arity 0 1).bind fun _ _ => ?_
  cases hcmd : cmd.args with
  | nil => exact .ok _
  | cons e rest =>
    obtain ⟨t, ht⟩ := hargs e (by simp [hcmd])
    exact wellWritten_expression ht c.next

theorem wellWritten_set : WellWritten (c.compileSet cmd) := by
  refine (wellWritten_arity 1 1).bind fun _ harity => ?_
  refine (wellWritten_writable cmd.name).bind fun _ _ => ?_
  cases hcmd : cmd.args with
  | nil => simpa [hcmd] using arity_ok harity
  | cons e rest =>
    obtain ⟨t, ht⟩ := hargs e (by simp [hcmd])
    exact (wellWritten_expression ht c.next).bind fun _ _ => .ok _

theorem wellWritten_compare : WellWritten (c.compileCompare cmd) := by
  refine (wellWritten_arity 2 2).bind fun _ harity => ?_
  obtain ⟨left, right, hcmd⟩ := List.length_eq_two.mp (Nat.le_antisymm (arity_ok harity).2
    (arity_ok harity).1)
  obtain ⟨l, hl⟩ := hargs left (by simp [hcmd])
  obtain ⟨r, hr⟩ := hargs right (by simp [hcmd])
  rw [hcmd]
  exact (wellWritten_comparison hl hr).bind fun _ _ => .ok _

theorem wellWritten_call : WellWritten (c.compileCall cmd) := by
  unfold compileCall
  split
  · exact .error ErrorKind.noConfusion
  · exact .check ErrorKind.noConfusion ((wellWritten_arguments hargs).bind fun _ _ => .ok _)

theorem wellWritten_command : WellWritten (c.compileCommand cmd) := by
  cases hk : cmd.kind with simp only [compileCommand, hk]
  | print | printLine | printDebug =>
    exact (wellWritten_printArguments hargs).bind fun _ _ => .ok _
  | declare =>
    exact (wellWritten_optionalValue hargs).bind fun _ _ =>
      (wellWritten_declare cmd.name false).bind fun _ _ => .ok _
  | set => exact wellWritten_set hargs
  | returnValue => exact (wellWritten_optionalValue hargs).bind fun _ _ => .ok _
  | compare => exact wellWritten_compare hargs
  | executeIf condition => exact .ok _
  | endBlock => exact wellWritten_endBlock
  | call => exact wellWritten_call hargs
  | functionStart => exact wellWritten_functionStart
  | functionEnd => exact wellWritten_functionEnd
  | quit => exact .ok _
  | input kind => exact wellWritten_input kind
  | convert kind =>
    exact (wellWritten_arity 0 0).bind fun _ _ =>
      (wellWritten_writable cmd.name).bind fun _ _ => .ok _
  | unknown code => exact .error ErrorKind.noConfusion

end
end

theorem derives_ofTokens {tokens : List Token} {parsed : ParsedCommand}
    (h : ParsedCommand.ofTokens tokens = .ok (some parsed)) :
    ∀ e ∈ parsed.command.args, ∃ t, Derives .sum e t := by
  obtain ⟨kind, first, extent, tail, -, htail, hcommand⟩ := ofTokens_ok h
  rw [hcommand]
  rintro e he
  obtain ⟨nodes, hnodes, rfl⟩ := List.mem_map.mp he
  rcases Parse.tail_args htail with hnone | ⟨rest, -, hargs⟩
  · rw [hnone] at hnodes
    cases hnodes
  · exact derives_of_expressions hargs nodes hnodes

/-- As long as names stand for variables and there are slots, an expression of known nodes compiles
where the parser's check accepts it, which is where it is derived. So a command that was parsed is
never malformed to a compiler. -/
theorem compiles_iff_validates (c : Compiler) :
    (∀ (next : ℕ) (placed : List PlacedNode), (∀ p ∈ placed, p.node.Known) →
      (∀ name, .symbol name ∈ placed.map PlacedNode.node → (c.resolve name).isSome = true) →
      c.HasRoom next (placed.map PlacedNode.node) →
        ((∃ code, c.expression next (placed.map PlacedNode.node) = .ok code) ↔
          Parse.validate placed = .ok ()) ∧
        (Parse.validate placed = .ok () ↔ ∃ t, Derives .sum (placed.map PlacedNode.node) t)) ∧
    ∀ (tokens : List Token) (parsed : ParsedCommand) (line : ℤ) (e : Error),
      ParsedCommand.ofTokens tokens = .ok (some parsed) →
        c.compile line parsed.command = .error e → e.kind ≠ .parse := by
  constructor
  · intro next placed hknown hresolved hroom
    have hknown : ∀ n ∈ placed.map PlacedNode.node, n.Known := by simpa using hknown
    have hvalid : Parse.validate placed = .ok () ↔
        ∃ t, Derives .sum (placed.map PlacedNode.node) t :=
      validateFrom_iff.trans (balanced_iff hknown)
    refine ⟨⟨?_, ?_⟩, hvalid⟩
    · rintro ⟨code, hcode⟩
      exact hvalid.mpr (derives_of_expression hknown hcode)
    · intro hchecked
      obtain ⟨t, ht⟩ := hvalid.mp hchecked
      exact expression_of_derives hresolved hroom ht
  · intro tokens parsed line e hparsed hcompiled
    unfold compile at hcompiled
    split at hcompiled
    · rename_i fault hfault
      cases hcompiled
      exact wellWritten_command (derives_ofTokens hparsed) fault hfault
    · cases hcompiled

/-- A group compiles, and a line that prints a name without a variable is not malformed. -/
theorem compiles_iff_validates_group :
    let c : Compiler := .new 8
    let nodes : List Node :=
      [.value (.int 2), .operator .times, .operator .openParen, .symbol returnName,
        .operator .plus, .value (.int 1), .operator .closeParen]
    let words : List Token :=
      [⟨.word, "CE", 1⟩, ⟨.word, "QUER", 4⟩, ⟨.word, "VER", 9⟩, ⟨.word, "ISSO", 13⟩]
    let tokens : List Token := words ++ [⟨.colon, ":", 17⟩, ⟨.word, "X", 19⟩]
    (∃ code, c.expression 1 nodes = .ok code) ∧
      ∃ parsed e, ParsedCommand.ofTokens tokens = .ok (some parsed) ∧
        c.compile 1 parsed.command = .error e ∧ e.kind ≠ .parse := by
  intro c nodes words tokens
  have hplaced : (nodes.map fun node => (⟨node, ⟨.comma, ",", 1⟩⟩ : PlacedNode)).map
      PlacedNode.node = nodes := rfl
  have hknown : ∀ n ∈ nodes, n.Known := by simp [nodes, Node.Known]
  have hresolved : ∀ name, .symbol name ∈ nodes → (c.resolve name).isSome = true := by
    intro name hname
    obtain rfl : name = returnName := by simpa [nodes] using hname
    decide
  have hroom : c.HasRoom 1 nodes := hasRoom_of_nesting hknown (by decide)
  have hvalid := (compiles_iff_validates c).1 1
    (nodes.map fun node => ⟨node, ⟨.comma, ",", 1⟩⟩) (by simpa using hknown)
    (by rwa [hplaced]) (by rwa [hplaced])
  rw [hplaced] at hvalid
  have hparsed : ParsedCommand.ofTokens tokens =
      .ok (some ⟨{ kind := .print, args := [[.symbol "X"]] }, [[19]]⟩) := by
    decide +kernel
  have hfails : c.compile 1 { kind := .print, args := [[.symbol "X"]] } =
      .error (.compile 1 (.unknownVariable "X")) := by
    simp [c, compile, compileCommand, compilePrint, printArguments, Compiler.expression, compileFrom]
    rfl
  exact ⟨hvalid.1.mpr rfl, _, _, hparsed, hfails,
    (compiles_iff_validates c).2 tokens _ 1 _ hparsed hfails⟩

end Compiler
end Birl
