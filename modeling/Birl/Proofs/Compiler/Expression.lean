import Birl.Compiler.Expression
import Birl.Proofs.Result

/-!
# The code of expressions, rule by rule

`Compiles` gives one rule for each way in which the compiler goes on with an
expression. `compiles_of_ok` reads a compiled expression as a derivation in these
rules, so that what holds of the code of every expression is proved by induction
over them.
-/

namespace Birl

namespace Compiler

theorem allocate_ok {c : Compiler} {address slot : Nat} (h : c.allocate address = .ok slot) :
    address < c.frameSize ∧ slot = address := by
  unfold allocate at h
  split at h
  · cases h
  · cases h
    exact ⟨by omega, rfl⟩

/-- The two ways of loading an operand into register `b`. -/
inductive Loads (c : Compiler) : Node → List Operation → Prop
  | literal (k : Constant) : Loads c (.value k) [.loadB k]
  | named {name : Text} {symbol : Symbol} (h : c.resolve name = some symbol) :
      Loads c (.symbol name) [symbol.read, .heldToB]

theorem loads_of_ok {c : Compiler} {node : Node} {code : List Operation}
    (h : c.operand node = .ok code) : Loads c node code := by
  cases node with
  | value k =>
    cases h
    exact .literal k
  | symbol name =>
    simp only [Compiler.operand] at h
    split at h
    · rename_i symbol hs
      cases h
      exact .named hs
    · cases h
  | _ => cases h

/-- Applies the `+` or `-` that waits, if there is one. -/
def Progress.settle (c : Compiler) (s : Progress) (next : Nat) : List Operation :=
  s.low.elim [] (c.foldInto next)

/-- The code of the rest of a level whose first hidden slot is `next`. -/
inductive Compiles (c : Compiler) : Nat → Progress → List Node → List Operation → Prop
  | finish {next : Nat} {s : Progress} (he : s.expectValue = false) :
      Compiles c next s [] (s.settle c next)
  | group {next : Nat} {s : Progress} {rest inner after : List Node} {group more : List Operation}
      (he : s.expectValue = true) (hp : s.pending = none)
      (hs : splitGroup 0 rest = some (inner, after)) (hg : Compiles c (s.free next) {} inner group)
      (hm : Compiles c next { s with expectValue := false } after more) :
      Compiles c next s (.operator .openParen :: rest) (group ++ more)
  | factorGroup {next : Nat} {s : Progress} {op : Operator} {rest inner after : List Node}
      {group more : List Operation} (he : s.expectValue = true) (hp : s.pending = some op)
      (hs : splitGroup 0 rest = some (inner, after)) (hf : s.free next < c.frameSize)
      (hg : Compiles c (s.free next + 1) {} inner group)
      (hm : Compiles c next { s with expectValue := false, pending := none } after more) :
      Compiles c next s (.operator .openParen :: rest)
        ((c.hidden (s.free next)).write :: group ++ c.foldInto (s.free next) op ++ more)
  | high {next : Nat} {s : Progress} {op : Operator} {rest : List Node} {more : List Operation}
      (he : s.expectValue = false) (ho : op.isHigh = true)
      (hm : Compiles c next { s with expectValue := true, pending := some op } rest more) :
      Compiles c next s (.operator op :: rest) more
  | atOnce {next : Nat} {s : Progress} {op : Operator} {node : Node} {rest : List Node}
      {load more : List Operation} (he : s.expectValue = false) (ho : op.isHigh = false)
      (hopen : op ≠ .openParen) (hclose : op ≠ .closeParen)
      (hsimple : simpleTerm (node :: rest) = true) (hl : Loads c node load)
      (hm : Compiles c next { s with expectValue := false, low := none } rest more) :
      Compiles c next s (.operator op :: node :: rest)
        (s.settle c next ++ .swap :: load ++ op.operations ++ more)
  | deferred {next : Nat} {s : Progress} {op : Operator} {rest : List Node} {more : List Operation}
      (he : s.expectValue = false) (ho : op.isHigh = false) (hopen : op ≠ .openParen)
      (hclose : op ≠ .closeParen) (hsimple : simpleTerm rest = false)
      (hf : s.hasAccumulator = true ∨ next < c.frameSize)
      (hm : Compiles c next
        { s with expectValue := true, low := some op, hasAccumulator := true } rest more) :
      Compiles c next s (.operator op :: rest) (s.settle c next ++ (c.hidden next).write :: more)
  | operand {next : Nat} {s : Progress} {node : Node} {rest : List Node}
      {load more : List Operation} (he : s.expectValue = true) (hp : s.pending = none)
      (hl : Loads c node load) (hm : Compiles c next { s with expectValue := false } rest more) :
      Compiles c next s (node :: rest) (load ++ more)
  | factor {next : Nat} {s : Progress} {op : Operator} {node : Node} {rest : List Node}
      {load more : List Operation} (he : s.expectValue = true) (hp : s.pending = some op)
      (hl : Loads c node load)
      (hm : Compiles c next { s with expectValue := false, pending := none } rest more) :
      Compiles c next s (node :: rest) (.swap :: load ++ op.operations ++ more)

theorem compiles_of_ok {c : Compiler} {next : Nat} {s : Progress} {nodes : List Node}
    {code : List Operation} (h : c.compileFrom next s nodes = .ok code) :
    Compiles c next s nodes code := by
  fun_induction compileFrom c next s nodes generalizing code with
  | case2 next s he =>
    cases h
    exact .finish (by simpa using he)
  | case5 next s rest he inner after hs _ hp ihg ihm =>
    simp only [bind_ok, pure_ok] at h
    obtain ⟨group, hg, more, hm, rfl⟩ := h
    exact .group (by simpa using he) hp hs (ihg hg) (ihm hm)
  | case6 next s rest he inner after hs _ op hp ihg ihm =>
    simp only [bind_ok, pure_ok] at h
    obtain ⟨slot, hslot, group, hg, more, hm, rfl⟩ := h
    obtain ⟨hf, rfl⟩ := allocate_ok hslot
    exact .factorGroup (by simpa using he) hp hs hf (ihg _ hg) (ihm hm)
  | case9 next s op rest _ _ he ho ih => exact .high (by simpa using he) ho (ih h)
  | case11 next s op hopen hclose he ho sum node rest hsimple =>
    rename_i ih
    simp only [bind_ok, pure_ok] at h
    obtain ⟨load, hl, more, hm, rfl⟩ := h
    exact .atOnce (by simpa using he) (by simpa using ho) hopen hclose hsimple (loads_of_ok hl) (ih hm)
  | case12 next s op rest hopen hclose he ho sum hsimple join hacc =>
    rename_i ih
    simp +zetaDelta only [bind_ok, pure_ok] at h
    obtain ⟨_, hslot, more, hm, rfl⟩ := h
    exact .deferred (by simpa using he) (by simpa using ho) hopen hclose (by simpa using hsimple)
      (.inr (allocate_ok hslot).1) (ih hm)
  | case13 next s op rest hopen hclose he ho sum hsimple join hacc =>
    rename_i ih
    simp +zetaDelta only [bind_ok, pure_ok] at h
    obtain ⟨more, hm, rfl⟩ := h
    exact .deferred (by simpa using he) (by simpa using ho) hopen hclose (by simpa using hsimple)
      (.inl (by simpa using hacc)) (ih hm)
  | case15 next s node rest _ _ _ he ih =>
    simp only [bind_ok, pure_ok] at h
    obtain ⟨load, hl, more, hm, rfl⟩ := h
    cases hp : s.pending with
    | none =>
      have hkeep : ({ s with expectValue := false, pending := none } : Progress) =
          { s with expectValue := false } := by simp [hp]
      exact .operand (by simpa using he) hp (loads_of_ok hl) (hkeep ▸ ih hm)
    | some op => exact .factor (by simpa using he) hp (loads_of_ok hl) (ih hm)
  | _ => cases h

theorem compiles_of_expression {c : Compiler} {next : Nat} {e : Expression} {code : List Operation}
    (h : c.expression next e = .ok code) : Compiles c next {} e code := by
  unfold expression at h
  split at h
  · cases h
  · exact compiles_of_ok h

end Compiler
end Birl
