import Birl.Proofs.Compiler.Reachable
import Birl.Proofs.Frame

/-!
# The layout of frames

Every variable of an open scope lies below the first free slot of that scope, and
variables of the global frame are told from those of a function. Slots from
`next` on are therefore free for hidden values: no visible name of the frame that
is being compiled for stands for one of them (`Layout.resolve`).
-/

namespace Birl

namespace Bindings

theorem find?_put (name : Text) (symbol : Symbol) (vars : Bindings) (n : Text) :
    (vars.put name symbol).find? n = if n = name then some symbol else vars.find? n := by
  induction vars with
  | nil =>
    by_cases hn : n = name
    · simp [put, find?, hn]
    · have hb : (n == name) = false := by simpa using hn
      simp [put, find?, List.lookup_cons, hn, hb]
  | cons binding rest ih =>
    obtain ⟨n', s⟩ := binding
    unfold put
    split
    · rename_i hname
      subst hname
      by_cases hn : n = n'
      · simp [find?, hn]
      · have hb : (n == n') = false := by simpa using hn
        simp [find?, List.lookup_cons, hn, hb]
    · rename_i hname
      by_cases hn : n = n'
      · subst hn
        simp [find?, hname]
      · have hb : (n == n') = false := by simpa using hn
        have ih : (put name symbol rest).lookup n = if n = name then some symbol else rest.lookup n := ih
        simp [find?, List.lookup_cons, hb, ih]

/-- All variables lie below `limit`, in the global frame or all of them in another. -/
def Within (vars : Bindings) (limit : Nat) (global : Bool) : Prop :=
  ∀ name symbol, vars.find? name = some symbol → symbol.address < limit ∧ symbol.global = global

theorem within_nil (limit : Nat) (global : Bool) : Within [] limit global := by
  intro name symbol h
  cases h

theorem Within.mono {vars : Bindings} {limit limit' : Nat} {global : Bool}
    (h : vars.Within limit global) (hl : limit ≤ limit') : vars.Within limit' global := by
  intro name symbol hs
  obtain ⟨ha, hg⟩ := h name symbol hs
  exact ⟨by omega, hg⟩

theorem Within.put {vars : Bindings} {limit : Nat} {global : Bool} (h : vars.Within limit global)
    {name : Text} {symbol : Symbol} (ha : symbol.address < limit) (hg : symbol.global = global) :
    (vars.put name symbol).Within limit global := by
  intro n s hs
  rw [find?_put] at hs
  split at hs
  · cases hs
    exact ⟨ha, hg⟩
  · exact h n s hs

theorem within_single (name : Text) {symbol : Symbol} {limit : Nat} {global : Bool}
    (ha : symbol.address < limit) (hg : symbol.global = global) :
    Within [(name, symbol)] limit global :=
  (within_nil limit global).put ha hg

end Bindings

namespace Compiler

/-- The blocks of a frame, the innermost first: its variables lie below the first
free slot, and those of the blocks around it below the slot that was free when it
was opened. `base` is what is left to the scope around all of them. -/
def Nests (global : Bool) (next : Nat) : List Block → Nat → Prop
  | [], base => base = next
  | block :: rest, base =>
    block.vars.Within next global ∧ block.savedNext ≤ next ∧ Nests global block.savedNext rest base

/-- Where the variables of the outermost scopes lie. -/
def Rests (c : Compiler) (base : Nat) : Prop :=
  match c.function with
  | none => c.globals.Within base true
  | some function =>
    function.vars.Within base false ∧ function.globalNext ≤ c.frameSize ∧
      c.globals.Within function.globalNext true

structure Layout (c : Compiler) : Prop where
  size : 2 ≤ c.frameSize
  next_le : c.next ≤ c.frameSize
  scopes : ∃ base, Nests c.inGlobal c.next c.blocks base ∧ c.Rests base

theorem Nests.base_le {global : Bool} {next base : Nat} {blocks : List Block}
    (h : Nests global next blocks base) : base ≤ next := by
  induction blocks generalizing next with
  | nil => exact Nat.le_of_eq h
  | cons block rest ih =>
    obtain ⟨-, hsaved, hrest⟩ := h
    exact Nat.le_trans (ih hrest) hsaved

theorem Nests.find {global : Bool} {next base : Nat} {blocks : List Block}
    (h : Nests global next blocks base) {name : Text} {symbol : Symbol}
    (hs : (blocks.map Block.vars).findSome? (fun vars => vars.find? name) = some symbol) :
    symbol.address < next ∧ symbol.global = global := by
  induction blocks generalizing next with
  | nil => cases hs
  | cons block rest ih =>
    obtain ⟨hvars, hsaved, hrest⟩ := h
    rw [List.map_cons, List.findSome?_cons] at hs
    split at hs
    · rename_i hfound
      cases hs
      exact hvars name symbol hfound
    · obtain ⟨ha, hg⟩ := ih hrest hs
      exact ⟨by omega, hg⟩

theorem Layout.resolve {c : Compiler} (h : Layout c) {name : Text} {symbol : Symbol}
    (hs : c.resolve name = some symbol) :
    symbol.address < c.frameSize ∧ (symbol.global = c.inGlobal → symbol.address < c.next) ∧
      (c.inGlobal = true → symbol.global = true) := by
  obtain ⟨base, hnests, hrests⟩ := h.scopes
  have hbase := hnests.base_le
  have hnext := h.next_le
  unfold Compiler.resolve Compiler.scopes at hs
  rw [List.append_assoc, List.findSome?_append] at hs
  rcases Option.or_eq_some_iff.mp hs with hs | ⟨-, hs⟩
  · obtain ⟨ha, hg⟩ := hnests.find hs
    exact ⟨by omega, fun _ => ha, fun hglobal => hg.trans hglobal⟩
  · unfold Rests at hrests
    cases hf : c.function with
    | none =>
      have hin : c.inGlobal = true := by simp [inGlobal, hf]
      simp only [hf] at hrests hs
      obtain ⟨ha, hg⟩ := hrests name symbol (by simpa using hs)
      exact ⟨by omega, fun _ => by omega, fun _ => hg⟩
    | some function =>
      have hin : c.inGlobal = false := by simp [inGlobal, hf]
      simp only [hf] at hrests hs
      obtain ⟨hvars, hle, hglobals⟩ := hrests
      simp only [Option.map_some, Option.toList_some, List.singleton_append,
        List.findSome?_cons, List.findSome?_nil] at hs
      split at hs
      · rename_i hfound
        cases hs
        obtain ⟨ha, hg⟩ := hvars name symbol hfound
        exact ⟨by omega, fun _ => by omega, fun hglobal => by simp [hin] at hglobal⟩
      · split at hs
        · rename_i hfound
          cases hs
          obtain ⟨ha, hg⟩ := hglobals name symbol hfound
          exact ⟨by omega, fun he => by simp [hg, hin] at he, fun _ => hg⟩
        · cases hs

theorem Layout.global? {c : Compiler} (h : Layout c) {name : Text} {symbol : Symbol}
    (hs : c.global? name = some symbol) : symbol.address < c.frameSize := by
  obtain ⟨base, hnests, hrests⟩ := h.scopes
  have hbase := hnests.base_le
  have hnext := h.next_le
  unfold Rests at hrests
  cases hf : c.function with
  | none =>
    simp only [hf] at hrests
    have := (hrests name symbol hs).1
    omega
  | some function =>
    simp only [hf] at hrests
    obtain ⟨-, hle, hglobals⟩ := hrests
    have := (hglobals name symbol hs).1
    omega

-- ---------------------------------------------------------------------------
-- Declarations
-- ---------------------------------------------------------------------------

theorem Layout.setInnermost {c : Compiler} (h : Layout c) {name : Text} {symbol : Symbol} {next : Nat}
    (hn : c.next ≤ next) (hle : next ≤ c.frameSize) (ha : symbol.address < next)
    (hg : symbol.global = c.inGlobal) :
    Layout { c.setInnermost (c.innermost.put name symbol) with next } := by
  obtain ⟨base, hnests, hrests⟩ := h.scopes
  cases hb : c.blocks with
  | cons block rest =>
    rw [hb] at hnests
    obtain ⟨hvars, hsaved, hrest⟩ := hnests
    have hset : c.setInnermost (c.innermost.put name symbol) =
        { c with blocks := { block with vars := block.vars.put name symbol } :: rest } := by
      simp [Compiler.setInnermost, innermost, hb]
    rw [hset]
    exact ⟨h.size, hle, base, ⟨(hvars.mono hn).put ha hg, Nat.le_trans hsaved hn, hrest⟩, hrests⟩
  | nil =>
    rw [hb] at hnests
    have hbase : base = c.next := hnests
    unfold Rests at hrests
    cases hf : c.function with
    | some function =>
      simp only [hf] at hrests
      obtain ⟨hvars, hgn, hglobals⟩ := hrests
      have hin : c.inGlobal = false := by simp [inGlobal, hf]
      have hset : c.setInnermost (c.innermost.put name symbol) =
          { c with function := some { function with vars := function.vars.put name symbol } } := by
        simp [Compiler.setInnermost, innermost, hb, hf]
      rw [hset]
      refine ⟨h.size, hle, next, ?_, ?_⟩
      · simp only [hb]
        rfl
      · exact ⟨(hvars.mono (by omega)).put ha (hg.trans hin), hgn, hglobals⟩
    | none =>
      simp only [hf] at hrests
      have hin : c.inGlobal = true := by simp [inGlobal, hf]
      have hset : c.setInnermost (c.innermost.put name symbol) =
          { c with globals := c.globals.put name symbol } := by
        simp [Compiler.setInnermost, innermost, hb, hf]
      rw [hset]
      refine ⟨h.size, hle, next, ?_, ?_⟩
      · simp only [hb]
        rfl
      · simp only [Rests, hf]
        exact (hrests.mono (by omega)).put ha (hg.trans hin)

theorem Layout.innermost {c : Compiler} (h : Layout c) :
    c.innermost.Within c.next c.inGlobal := by
  obtain ⟨base, hnests, hrests⟩ := h.scopes
  have hbase := hnests.base_le
  unfold Compiler.innermost
  split
  · rename_i hb
    rw [hb] at hnests
    exact hnests.1
  · rename_i hb hf
    unfold Rests at hrests
    simp only [hf] at hrests
    have hin : c.inGlobal = false := by simp [inGlobal, hf]
    rw [hin]
    exact hrests.1.mono hbase
  · rename_i hb hf
    unfold Rests at hrests
    simp only [hf] at hrests
    have hin : c.inGlobal = true := by simp [inGlobal, hf]
    rw [hin]
    exact hrests.mono hbase

theorem Declares.layout {c c' : Compiler} {name : Text} {readOnly : Bool} {symbol : Symbol}
    (hd : Declares c name readOnly symbol c') (h : Layout c) :
    Layout c' ∧ symbol.address < c'.next ∧ symbol.global = c.inGlobal := by
  cases hd with
  | fresh hf => exact ⟨h.setInnermost (by omega) (by omega) (by simp) rfl, by simp, rfl⟩
  | @again previous hp hw =>
    obtain ⟨ha, hg⟩ := h.innermost name previous hp
    have hset : Layout { c.setInnermost (c.innermost.put name { previous with readOnly }) with
        next := c.next } := h.setInnermost (Nat.le_refl c.next) h.next_le ha hg
    have hnext := setInnermost_next c (c.innermost.put name { previous with readOnly })
    refine ⟨?_, by rw [hnext]; exact ha, hg⟩
    have hsame : ({ c.setInnermost (c.innermost.put name { previous with readOnly }) with
        next := c.next } : Compiler) =
          c.setInnermost (c.innermost.put name { previous with readOnly }) := by
      rw [← hnext]
    rwa [hsame] at hset

theorem Takes.layout {c c' : Compiler} {symbol : Symbol} (ht : Takes c symbol c') (h : Layout c) :
    Layout c' := by
  cases ht with
  | visible => exact h
  | declared hd => exact ((declares_of_ok hd).layout h).1

theorem bindParameters_within {params : List Parameter} {address : Nat} {vars vars' : Bindings}
    {kinds : List ParameterKind} (h : bindParameters address vars params = .ok (vars', kinds))
    (hv : vars.Within address false) :
    vars'.Within (address + params.length) false ∧ kinds.length = params.length := by
  induction params generalizing address vars kinds with
  | nil =>
    cases h
    exact ⟨hv, rfl⟩
  | cons param rest ih =>
    unfold bindParameters at h
    split at h
    · cases h
    · split at h
      · cases h
      · simp only [bind_ok, pure_ok] at h
        obtain ⟨⟨vars'', kinds'⟩, hrest, he⟩ := h
        cases he
        have hput : (vars.put param.name { address }).Within (address + 1) false :=
          (hv.mono (Nat.le_succ address)).put (Nat.lt_succ_self address) rfl
        obtain ⟨hvars, hkinds⟩ := ih hrest hput
        refine ⟨?_, by simp [hkinds]⟩
        rw [List.length_cons, ← Nat.add_assoc, Nat.add_right_comm]
        exact hvars

-- ---------------------------------------------------------------------------
-- Commands
-- ---------------------------------------------------------------------------

/-- The layout does not look at the program and at the functions. -/
theorem Layout.of_eq {c c' : Compiler} (h : Layout c) (hs : c'.frameSize = c.frameSize)
    (hg : c'.globals = c.globals) (hf : c'.function = c.function) (hb : c'.blocks = c.blocks)
    (hn : c'.next = c.next) : Layout c' := by
  obtain ⟨base, hnests, hrests⟩ := h.scopes
  have hin : c'.inGlobal = c.inGlobal := by simp [inGlobal, hf]
  refine ⟨hs ▸ h.size, by rw [hn, hs]; exact h.next_le, base, by rw [hin, hn, hb]; exact hnests, ?_⟩
  unfold Rests at hrests ⊢
  rw [hf, hg, hs]
  exact hrests

theorem Emits.layout {c c' : Compiler} {code : List Operation} {hint : ScopeHint}
    (he : Emits c code c' hint) (h : Layout c) : Layout c' := by
  obtain ⟨base, hnests, hrests⟩ := h.scopes
  have hnext := h.next_le
  cases he with
  | assign _ ht => exact ht.layout h
  | openBlock condition =>
    exact ⟨h.size, hnext, base, ⟨Bindings.within_nil _ _, Nat.le_refl _, hnests⟩, hrests⟩
  | @closeBlock block rest hb =>
    rw [hb] at hnests
    obtain ⟨-, hsaved, hrest⟩ := hnests
    exact ⟨h.size, Nat.le_trans hsaved hnext, base, hrest, hrests⟩
  | @openFunction _ params _ _ hd _ _ hl hbind =>
    obtain ⟨hblocks, hfunction⟩ := depth_zero hd
    have hreturn : Bindings.Within [(returnName, { address := 0 })] 1 false :=
      Bindings.within_single _ (by decide) rfl
    obtain ⟨hvars, -⟩ := bindParameters_within hbind hreturn
    rw [hblocks] at hnests
    have hbase : base = c.next := hnests
    simp only [Rests, hfunction] at hrests
    refine ⟨h.size, hl, params.length + 1, ?_, ?_⟩
    · simp only [hblocks]
      rfl
    · refine ⟨?_, hnext, hbase ▸ hrests⟩
      rw [Nat.add_comm]
      exact hvars
  | @closeFunction function hf hb =>
    simp only [Rests, hf] at hrests
    obtain ⟨-, hle, hglobals⟩ := hrests
    refine ⟨h.size, hle, function.globalNext, ?_, hglobals⟩
    simp only [hb]
    rfl
  | _ => exact h

theorem Reachable.layout {c : Compiler} (h : Reachable c) : Layout c := by
  induction h with
  | new requested =>
    have hsize := two_le_frameSizeFor requested
    exact ⟨hsize, Nat.le_of_succ_le hsize, 1, rfl, Bindings.within_single _ (by decide) rfl⟩
  | compile _ hc ih =>
    obtain ⟨code, c₁, hemits, rfl⟩ := compile_ok hc
    exact (hemits.layout ih).of_eq rfl rfl rfl rfl rfl
  | declareGlobal _ hd ih =>
    obtain ⟨-, symbol, -, hdeclares⟩ := declareGlobal_ok hd
    exact (hdeclares.layout ih).1
  | registerPlugin _ hp ih =>
    obtain ⟨-, -, rfl⟩ := registerPlugin_ok hp
    exact ih.of_eq rfl rfl rfl rfl rfl
  | appendEntryCall line _ ih => exact ih.of_eq rfl rfl rfl rfl rfl

end Compiler
end Birl
