import Birl.Proofs.Command
import Birl.Proofs.Compiler.Quiet

/-!
# The values that commands work on

Before its last operation a command has left a value in register `b`, or the two
values that it compares in registers `a` and `b`. Both are the values of its
expressions, of the variable it converts or of the line it reads; or the code has
failed with their first error (`Leaves`).
-/

namespace Birl

open Machine

namespace Machine

/-- So many steps come to a machine of which something holds, or fail with an error of
a given class. -/
def Leaves {α : Type} (p : Program) (n : Nat) (m : Machine) (holds : α → Machine → Prop) :
    Except ErrorKind α → Prop
  | .ok x => ∃ m', NormalSteps p n m m' ∧ holds x m'
  | .error kind => ∃ m' e, Ran p n m m' (some e) ∧ e.kind = kind

def InB (v : Constant) (m : Machine) : Prop := m.texts.constant? m.b = some v

def InBoth (values : Constant × Constant) (m : Machine) : Prop :=
  m.texts.constant? m.a = some values.1 ∧ m.texts.constant? m.b = some values.2

section
variable {α : Type} {p : Program} {m m₁ : Machine} {n n' base : Nat} {ops : List Operation}
  {holds : α → Machine → Prop} {r : Except ErrorKind Constant} {x : Except ErrorKind α}

theorem Leaves.after (h : Leaves p n' m₁ holds x) (hs : NormalSteps p n m m₁) :
    Leaves p (n + n') m holds x := by
  cases x with
  | ok value =>
    obtain ⟨m', hsteps, hx⟩ := h
    exact ⟨m', hs.trans hsteps, hx⟩
  | error kind =>
    obtain ⟨m', e, hran, hkind⟩ := h
    exact ⟨m', e, hran.after hs, hkind⟩

theorem Leaves.map {β : Type} {holds' : β → Machine → Prop} {g : α → β} (h : Leaves p n m holds x)
    (hg : ∀ v m', holds v m' → holds' (g v) m') : Leaves p n m holds' (x.map g) := by
  cases x with
  | ok v =>
    obtain ⟨m', hsteps, hv⟩ := h
    exact ⟨m', hsteps, hg v m' hv⟩
  | error kind => exact h

theorem Leaves.imp {holds' : α → Machine → Prop} (h : Leaves p n m holds x)
    (hi : ∀ v m', holds v m' → holds' v m') : Leaves p n m holds' x := by
  cases x with
  | ok v =>
    obtain ⟨m', hsteps, hv⟩ := h
    exact ⟨m', hsteps, hi v m' hv⟩
  | error kind => exact h

theorem Leaves.of_ran {m' : Machine} {failure : Option Error} (h : Leaves p n m holds x)
    (hr : Ran p n m m' failure) :
    match failure with
    | none => ∃ v, x = .ok v ∧ holds v m'
    | some e => x = .error e.kind := by
  cases x with
  | ok v =>
    obtain ⟨m'', hsteps, hv⟩ := h
    obtain ⟨rfl, rfl⟩ := hsteps.ran.unique hr
    exact ⟨v, rfl, hv⟩
  | error kind =>
    obtain ⟨m'', e, hran, rfl⟩ := h
    obtain ⟨-, rfl⟩ := hran.unique hr
    rfl

theorem Runs.fails {kind : ErrorKind} (h : Runs p base n m (.error kind)) :
    ∃ m' e, Ran p n m m' (some e) ∧ e.kind = kind := by
  obtain ⟨i, m₁, m', e, hi, hsteps, hstep, hkind, -⟩ := h
  obtain ⟨k, rfl⟩ : ∃ k, n = i + (k + 1) := ⟨n - i - 1, by omega⟩
  exact ⟨m', e, (Ran.failed hstep).after hsteps, hkind⟩

theorem Runs.leaves (h : Runs p base n m r) : Leaves p n m InB r := by
  cases r with
  | ok v =>
    obtain ⟨m', hgoes, hv⟩ := h
    exact ⟨m', hgoes.steps, hv⟩
  | error kind => exact h.fails

theorem Runs.bind {f : Constant → Except ErrorKind α} (h : Runs p base n m r)
    (hok : ∀ v m', r = .ok v → Goes p base n m m' → InB v m' → Leaves p n' m' holds (f v)) :
    Leaves p (n + n') m holds (r >>= f) := by
  cases r with
  | ok v =>
    obtain ⟨m', hgoes, hv⟩ := h
    exact (hok v m' rfl hgoes hv).after hgoes.steps
  | error kind =>
    obtain ⟨m', e, hran, hkind⟩ := h.fails
    exact ⟨m', e, hran.fails n', hkind⟩

theorem goes_loadA (base : Nat) (h : m.Sound) {k : Constant} (ha : Ahead p m (.loadA k :: ops))
    (hk : m.current.skip = 0) :
    ∃ m', Goes p base 1 m m' ∧ m'.b = m.b ∧ m.texts.Extends m'.texts ∧
      m'.texts.constant? m'.a = some k := by
  obtain ⟨hext, hconst, -⟩ := TextStore.intern_ok m.texts k
  refine ⟨{ m.advance with
    a := (m.texts.intern k).1, b := m.b, held := m.held, texts := (m.texts.intern k).2 },
    goes_registers h ha hk (hext.wellFormed h.texts) ?_, rfl, hext, hconst⟩
  simp [execute, intern, done]

theorem leaves_conversion {kind : Kind} (h : m.Sound) (hk : m.current.skip = 0)
    (ha : Ahead p m (Compiler.conversion kind :: ops)) {v : Constant} (hv : InB v m) :
    Leaves p 1 m InB (kind.convert v) := by
  have hv : m.advance.texts.constant? m.advance.b = some v := by simpa [InB] using hv
  have ht := h.advance.texts
  obtain ⟨⟨result, texts⟩, hexec, -, hagrees⟩ : ∃ result,
      execute p m.advance (Compiler.conversion kind) = m.advance.setB result ∧
        TextStore.Converts (kind.convert v) result := by
    cases kind with
    | integer => exact ⟨_, rfl, TextStore.toInteger_ok ht hv⟩
    | number => exact ⟨_, rfl, TextStore.toNumber_ok ht hv⟩
    | text => exact ⟨_, rfl, TextStore.toText_ok ht hv⟩
  cases hr : kind.convert v with
  | ok w =>
    simp only [hr] at hagrees
    obtain ⟨x, rfl, hx⟩ := hagrees
    exact ⟨_, .step (ha.step_ok hk hexec) .refl, hx⟩
  | error category =>
    simp only [hr] at hagrees
    obtain ⟨fault, rfl, hfault⟩ := hagrees
    obtain ⟨line, function, hstep⟩ := ha.step_error hk hexec
    exact ⟨_, _, .failed hstep, hfault⟩

theorem readInput_eq (m : Machine) :
    match m.input.readLine.1 with
    | .failed _ => ∃ m' fault, m.readInput = (m', .error fault) ∧ fault.kind = .other
    | .full t | .last t => ∃ m', m.readInput = (m', .ok .normal) ∧
        m'.texts.constant? m'.held = some (.text t.chomp) := by
  have hintern (t : Text) := (TextStore.intern_ok m.texts (.text t.chomp)).2.1
  unfold readInput
  rcases m.input.readLine with ⟨line, input⟩
  cases line with
  | failed t => exact ⟨_, _, rfl, rfl⟩
  | full t => exact ⟨_, rfl, hintern t⟩
  | last t => exact ⟨_, rfl, hintern t⟩

end
end Machine

namespace Compiler

section
variable {p : Program} {c : Compiler} {m : Machine} {code ops : List Operation} {next : Nat}
  {env : Text → Option Constant}

-- ---------------------------------------------------------------------------
-- One value
-- ---------------------------------------------------------------------------

theorem evaluate?_of_expression {e : Expression} (env : Text → Option Constant)
    (he : c.expression next e = .ok code) (hu : Node.operator .unknown ∉ e) :
    ∃ r, evaluate? env e = some r := by
  obtain ⟨tree, hread⟩ : ∃ tree, read none (.before none) e = some tree :=
    (compiles_of_expression he).reads hu none rfl
  exact ⟨tree.eval env, by rw [evaluate?, hread]; rfl⟩

theorem runs_expression {e : Expression} {r : Except ErrorKind Constant} (hc : Layout c)
    (hn : c.next ≤ next) (he : c.expression next e = .ok code)
    (h : Poised env p c m (code ++ ops)) (hr : evaluate? env e = some r) :
    Runs p next code.length m r := by
  obtain ⟨tree, hread, rfl⟩ := Option.map_eq_some_iff.mp hr
  exact (compiles_of_expression he).runs hc hn nofun hread h.sound h.machine h.environment h.ahead
    rfl ⟨rfl, rfl⟩

theorem leaves_null (h : m.Sound) (hm : Matches c m) (ha : Ahead p m ([.loadB .null] ++ ops)) :
    Leaves p 1 m InB (.ok .null) := by
  obtain ⟨m', hgoes, -, -, hconst, -⟩ := goes_loadB c.next h ha hm.skip
  exact ⟨m', hgoes.steps, hconst⟩

theorem leaves_converted {kind : Kind} {name : Text} {symbol : Symbol} {v : Constant}
    (hc : Layout c) (h : Poised env p c m ([symbol.read, .heldToB, conversion kind] ++ ops))
    (hr : c.resolve name = some symbol) (hv : env name = some v) :
    Leaves p 3 m InB (kind.convert v) := by
  have haddr : symbol.address < m.frameSize := h.machine.size ▸ (hc.resolve hr).1
  obtain ⟨m₁, k, hk, hread, -, -, -, hconst, -⟩ :=
    goes_read c.next h.sound h.ahead h.machine.skip haddr
  have h₁ := h.goes_one hc (Nat.le_refl _) hread
  obtain ⟨m₂, hheld, -, hb, htexts⟩ := goes_heldToB c.next h₁.sound h₁.ahead h₁.machine.skip
  have h₂ := h₁.goes_one hc (Nat.le_refl _) hheld
  have hkv : k = v := by
    rw [← h.environment] at hv
    simp only [environment, hr, Option.bind_some, hk] at hv
    exact Option.some.inj hv
  have hin : InB v m₂ := by
    rw [InB, hb, htexts, hconst, hkv]
  have hconverts : Leaves p 1 m₂ InB (kind.convert v) :=
    leaves_conversion h₂.sound h₂.machine.skip h₂.ahead hin
  exact hconverts.after (hread.steps.trans hheld.steps)

def inputCode (kind : Kind) : List Operation :=
  [.readInput, .heldToB] ++ if kind = .text then [] else [conversion kind]

def inputValue (kind : Kind) : Input.Line → Except ErrorKind Constant
  | .failed _ => .error .other
  | .full t | .last t => kind.convert (.text t.chomp)

theorem leaves_input {kind : Kind} (h : m.Sound) (hm : Matches c m)
    (ha : Ahead p m (inputCode kind ++ ops)) :
    Leaves p (inputCode kind).length m InB (inputValue kind m.input.readLine.1) := by
  obtain ⟨m₁, hquiet, hstep⟩ := stepsQuietly_onRegisters c.next h hm.skip ha rfl
  have hread := m.advance.readInput_eq
  have hinput : m.advance.input = m.input := modifyCurrent_input m _
  have hexec : execute p m.advance .readInput = m.advance.readInput := rfl
  rw [hinput] at hread
  -- From the line on, the two ways of ending it are alike.
  have hline (t : Text) (hline : ∃ m', m.advance.readInput = (m', .ok .normal) ∧
      m'.texts.constant? m'.held = some (.text t.chomp)) :
      Leaves p (inputCode kind).length m InB (kind.convert (.text t.chomp)) := by
    obtain ⟨m', hm', hconst⟩ := hline
    have hnormal := Ahead.step_ok ha hm.skip (hexec.trans hm')
    rcases hstep with ⟨hs₁, hpc⟩ | ⟨e, hs₁⟩
    · rw [hnormal] at hs₁
      cases hs₁
      have hm₁ := hm.quiet hquiet
      have hahead₁ := @Ahead.drop p m [.readInput] _ m₁ ha hquiet.owner hpc
      obtain ⟨m₂, hheld, -, hb, htexts⟩ := goes_heldToB c.next hquiet.sound hahead₁ hm₁.skip
      have hin : InB (.text t.chomp) m₂ := by rw [InB, hb, htexts, hconst]
      have hsteps := (NormalSteps.step hnormal .refl).trans hheld.steps
      unfold inputCode at hahead₁ ⊢
      split at hahead₁
      · rename_i htext
        subst htext
        exact ⟨m₂, hsteps, hin⟩
      · rename_i htext
        rw [if_neg htext]
        have hconverts : Leaves p 1 m₂ InB (kind.convert (.text t.chomp)) :=
          leaves_conversion hheld.kept.sound (hm₁.kept hheld.kept).skip
            (hheld.ahead_one hahead₁) hin
        exact hconverts.after hsteps
    · rw [hnormal] at hs₁
      cases hs₁
  cases hl : m.input.readLine.1 with
  | failed t =>
    rw [hl] at hread
    obtain ⟨m', fault, hm', hkind⟩ := hread
    obtain ⟨line, function, hstep⟩ := Ahead.step_error ha hm.skip (hexec.trans hm')
    exact ⟨m', _, .failed hstep, hkind⟩
  | full t =>
    rw [hl] at hread
    exact hline t hread
  | last t =>
    rw [hl] at hread
    exact hline t hread

-- ---------------------------------------------------------------------------
-- Two values
-- ---------------------------------------------------------------------------

theorem evaluate?_operand {env : Text → Option Constant} {node : Node} {t : Tree}
    (h : node.tree? = some t) : evaluate? env [node] = some (t.eval env) := by
  unfold evaluate?
  rw [read_operand h, read]
  rfl

theorem leaves_between {left right : Expression} {l r : Except ErrorKind Constant} (hc : Layout c)
    (hcode : comparison.between c left right = .ok code) (h : Poised env p c m (code ++ ops))
    (hl : evaluate? env left = some l) (hr : evaluate? env right = some r) :
    Leaves p code.length m InBoth (do return (← l, ← r)) := by
  simp only [comparison.between, bind_ok, pure_ok] at hcode
  obtain ⟨first, hfirst, slot, hslot, second, hsecond, rfl⟩ := hcode
  obtain ⟨hfits, rfl⟩ := allocate_ok hslot
  simp only [List.append_assoc, List.cons_append] at h
  have hlength : (first ++ (c.hidden c.next).write :: second ++
      [(c.hidden c.next).read, .heldToA]).length = first.length + (1 + (second.length + 2)) := by
    simp only [List.length_append, List.length_cons, List.length_nil]
    omega
  rw [hlength]
  refine (runs_expression hc (Nat.le_refl _) hfirst h hl).bind fun u m₁ _ hgoes₁ hu => ?_
  have h₁ := h.goes hc (Nat.le_refl _) hgoes₁
  obtain ⟨m₂, hwrite, hslot, -, -⟩ := h₁.machine.goes_write h₁.sound h₁.ahead hfits hu
  have h₂ := h₁.goes_one hc (Nat.le_refl _) hwrite
  refine Leaves.after ?_ hwrite.steps
  refine (runs_expression hc (Nat.le_succ _) hsecond h₂ hr).bind fun v m₃ _ hgoes₃ hv => ?_
  -- The right side has used slots above the one where the left value waits.
  have h₃ := h₂.goes hc (Nat.le_succ _) hgoes₃
  have haddr : (c.hidden c.next).address < m₃.frameSize := h₃.machine.size ▸ hfits
  obtain ⟨m₄, k, hk, hread, -, hb₄, hext, hheld, -⟩ :=
    goes_read c.next h₃.sound h₃.ahead h₃.machine.skip haddr
  rw [h₃.machine.frame_hidden] at hk
  have hku : k = u := by
    have hslot₃ := (hgoes₃.kept.slots c.next (Nat.lt_succ_self _)).trans hslot
    exact Option.some.inj (hk.symm.trans hslot₃)
  subst hku
  have h₄ := h₃.goes_one hc (Nat.le_refl _) hread
  obtain ⟨m₅, hlast, ha₅, hb₅, ht₅⟩ := goes_heldToA c.next h₄.sound h₄.ahead h₄.machine.skip
  refine ⟨m₅, hread.steps.trans hlast.steps, ?_, ?_⟩
  · rw [ha₅, ht₅, hheld]
  · rw [hb₅, hb₄, ht₅]
    exact hext.constant? h₃.sound.texts hv

theorem leaves_literal {literal : Constant} {right : Expression} {r : Except ErrorKind Constant}
    (hc : Layout c) (hcode : c.expression c.next right = .ok code)
    (h : Poised env p c m (code ++ [.loadA literal] ++ ops)) (hr : evaluate? env right = some r) :
    Leaves p (code ++ [Operation.loadA literal]).length m InBoth (do return (literal, ← r)) := by
  rw [List.length_append]
  refine (runs_expression hc (Nat.le_refl _) hcode h.first hr).bind fun v m₁ _ hgoes hv => ?_
  have h₁ := h.first.goes hc (Nat.le_refl _) hgoes
  obtain ⟨m₂, hload, hb, hext, hconst⟩ := goes_loadA c.next h₁.sound h₁.ahead h₁.machine.skip
  refine ⟨m₂, hload.steps, hconst, ?_⟩
  rw [hb]
  exact hext.constant? h₁.sound.texts hv

theorem leaves_operand {left : Expression} {node : Node} {load : List Operation}
    {l r : Except ErrorKind Constant} (hc : Layout c) (hcode : c.expression c.next left = .ok code)
    (hload : Loads c node load) (h : Poised env p c m (code ++ .swap :: load ++ ops))
    (hl : evaluate? env left = some l) (hr : evaluate? env [node] = some r) :
    Leaves p (code ++ .swap :: load).length m InBoth (do return (← l, ← r)) := by
  rw [List.length_append, List.length_cons, Nat.add_comm load.length 1]
  refine (runs_expression hc (Nat.le_refl _) hcode h.first hl).bind fun u m₁ _ hgoes₁ hu => ?_
  have h₁ := h.first.goes hc (Nat.le_refl _) hgoes₁
  obtain ⟨m₂, hswap, ha₂, ht₂⟩ := goes_swap c.next h₁.sound h₁.ahead h₁.machine.skip
  have h₂ := h₁.goes_one hc (Nat.le_refl _) hswap
  obtain ⟨t, v, m₃, ht, hv, hgoes₃, ha₃, hext, hconst, -⟩ := hload.goes c.next hc h₂
  rw [evaluate?_operand ht, hv] at hr
  cases hr
  refine ⟨m₃, hswap.steps.trans hgoes₃.steps, ?_, hconst⟩
  rw [ha₃]
  refine hext.constant? h₂.sound.texts ?_
  rw [ha₂, ht₂]
  exact hu

theorem evaluate?_of_comparison {left right : Expression} (env : Text → Option Constant)
    (hcode : c.comparison left right = .ok code) (hl : Node.operator .unknown ∉ left)
    (hr : Node.operator .unknown ∉ right) :
    (∃ l, evaluate? env left = some l) ∧ ∃ r, evaluate? env right = some r := by
  have hbetween {left right : Expression} {code : List Operation}
      (hl : Node.operator .unknown ∉ left) (hr : Node.operator .unknown ∉ right)
      (hcode : comparison.between c left right = .ok code) :
      (∃ l, evaluate? env left = some l) ∧ ∃ r, evaluate? env right = some r := by
    simp only [comparison.between, bind_ok, pure_ok] at hcode
    obtain ⟨first, hfirst, slot, -, second, hsecond, -⟩ := hcode
    exact ⟨evaluate?_of_expression env hfirst hl, evaluate?_of_expression env hsecond hr⟩
  unfold comparison at hcode
  split at hcode
  · simp only [bind_ok] at hcode
    obtain ⟨code, hcode, -⟩ := hcode
    exact ⟨⟨_, evaluate?_operand rfl⟩, evaluate?_of_expression env hcode hr⟩
  · split at hcode
    · exact hbetween hl hr hcode
    · simp only [bind_ok] at hcode
      obtain ⟨code, hcode, load, hload, -⟩ := hcode
      obtain ⟨t, ht⟩ := (loads_of_ok hload).tree
      exact ⟨evaluate?_of_expression env hcode hl, _, evaluate?_operand ht⟩
  · exact hbetween hl hr hcode

/-- All three ways to compile a comparison leave the left value in register `a` and the
right one in register `b`. -/
theorem leaves_comparison {left right : Expression} {l r : Except ErrorKind Constant}
    (hc : Layout c) (hcode : c.comparison left right = .ok code)
    (h : Poised env p c m (code ++ ops)) (hl : evaluate? env left = some l)
    (hr : evaluate? env right = some r) :
    Leaves p code.length m InBoth (do return (← l, ← r)) := by
  unfold comparison at hcode
  split at hcode
  · rename_i literal
    simp only [bind_ok, pure_ok] at hcode
    obtain ⟨code, hcode, rfl⟩ := hcode
    rw [evaluate?_operand rfl] at hl
    cases hl
    exact leaves_literal hc hcode h hr
  · rename_i node _
    split at hcode
    · exact leaves_between hc hcode h hl hr
    · simp only [bind_ok, pure_ok] at hcode
      obtain ⟨code, hcode, load, hload, rfl⟩ := hcode
      exact leaves_operand hc hcode (loads_of_ok hload) h hl hr
  · exact leaves_between hc hcode h hl hr

end
end Compiler
end Birl
