import Birl.Proofs.Compiler.Values
import Birl.Proofs.Machine.Call
import Birl.Proofs.Machine.Flow

/-!
# Passing arguments

While a frame under construction lies on the stack, the frame under it runs as if it
were on top. The code of the arguments of a call evaluates them there one by one, checks
each and writes it into its slot of the new frame, or fails with the first error
(`arguments_leave`).
-/

namespace Birl

open Machine

-- ---------------------------------------------------------------------------
-- The new frame
-- ---------------------------------------------------------------------------

namespace Frame

/-- A frame that takes arguments: they stand in its slots from 1 on, and all other slots
are Null. -/
structure Carries (owner : FrameOwner) (vs : List Constant) (f : Frame) : Prop where
  place : f.place = (⟨owner, 0, false, 0⟩, .none)
  slots : ∀ a, f.constant? a = some ((.null :: vs)[a]?.getD .null)

section
variable {f : Frame} {owner : FrameOwner} {vs : List Constant} {size : Nat}

theorem carries_new (owner : FrameOwner) (size : Nat) : (Frame.new owner size).Carries owner [] := by
  refine ⟨rfl, fun a => ?_⟩
  rw [constant?, slot_new]
  cases a <;> rfl

theorem Carries.owner_eq (h : f.Carries owner vs) : f.owner = owner :=
  congrArg (fun place => place.1.owner) h.place

theorem Carries.ready (h : f.Carries owner vs) : f.ready = false :=
  congrArg (fun place => place.1.ready) h.place

theorem Carries.store (h : f.Carries owner vs) (hs : f.Sound size) (ha : vs.length + 1 < size)
    {outer : TextStore} {v : Value} {k : Constant} (hv : outer.constant? v = some k) :
    ∃ f', f.store (vs.length + 1) v outer = .ok f' ∧ f'.Sound size ∧ f'.Carries owner (vs ++ [k]) := by
  obtain ⟨f', hstore, hsound, hconst, -⟩ := hs.store_ok ha hv
  refine ⟨f', hstore, hsound, (place_store hstore).trans h.place, fun a => ?_⟩
  rw [hconst]
  split
  · rename_i heq
    subst heq
    simp
  · rename_i hne
    rw [h.slots]
    cases a with
    | zero => rfl
    | succ i =>
      simp only [List.getElem?_cons_succ, List.getElem?_append]
      split
      · rfl
      · rename_i hle
        have hout : vs[i]? = none := List.getElem?_eq_none (by omega)
        have hout' : [k][i - vs.length]? = none := List.getElem?_eq_none (by simp; omega)
        rw [hout, hout']

end
end Frame

namespace Machine

def push (m : Machine) (f : Frame) : Machine := { m with calls := f :: m.calls }

section
variable {p : Program} {m m' : Machine} {f f' : Frame} {base n : Nat} {owner : FrameOwner}
  {vs : List Constant} {ops : List Operation}

-- ---------------------------------------------------------------------------
-- Under the new frame
-- ---------------------------------------------------------------------------

theorem current_push (hf : f.ready = false) : (m.push f).current = m.current := by
  simp [push, current, lastReady?, hf]

theorem modifyCurrent_push (hf : f.ready = false) (g : Frame → Frame) :
    (m.push f).modifyCurrent g = (m.modifyCurrent g).push f := by
  rcases m.current_cases with ⟨above, x, below, hcalls, habove, hx, -, hmod⟩ | ⟨hcalls, -, hmod⟩
  · rw [hmod]
    have hlast : modifyLastReady g m.calls = some (above ++ g x :: below) := by
      rcases lastReady_cases m.calls with ⟨above', x', below', hcalls', habove', hx', -, hlast⟩ |
        ⟨hnone, -, -⟩
      · obtain ⟨rfl, rfl, rfl⟩ :=
          split_unique (hcalls.symm.trans hcalls') habove (.inl hx) habove' (.inl hx')
        exact hlast g
      · have := hnone x (by simp [hcalls])
        rw [hx] at this
        cases this
    simp [push, modifyCurrent, modifyLastReady, hf, hlast]
  · rw [hmod]
    have hlast : modifyLastReady g m.calls = none := by
      rcases lastReady_cases m.calls with ⟨above', x', below', hcalls', -, hx', -, -⟩ | ⟨-, -, hlast⟩
      · have := hcalls x' (by simp [hcalls'])
        rw [hx'] at this
        cases this
      · exact hlast g
    simp [push, modifyCurrent, modifyLastReady, hf, hlast]

theorem advance_push (hf : f.ready = false) : (m.push f).advance = m.advance.push f :=
  modifyCurrent_push hf _

theorem Sound.of_push (h : (m.push f).Sound) : m.Sound ∧ f.Sound m.frameSize :=
  ⟨h.pop rfl, h.top rfl⟩

theorem Kept.of_push (hf : f.ready = false) (h : Kept base (m.push f) m') :
    ∃ k, m' = k.push f ∧ Kept base m k ∧ k.current = m'.current := by
  have hcur := current_push (m := m) hf
  have hready : m'.current.ready = m.current.ready := by rw [h.ready, hcur]
  have hmachine : m' = (m.working m'.current m'.a m'.b m'.held m'.texts).push f := by
    calc m' = (m.push f).working m'.current m'.a m'.b m'.held m'.texts := h.machine
      _ = (m.working m'.current m'.a m'.b m'.held m'.texts).push f := by
        unfold working
        rw [modifyCurrent_push hf]
        rfl
  have hcurrent : (m.working m'.current m'.a m'.b m'.held m'.texts).current = m'.current :=
    current_working hready
  have hsound : (m.working m'.current m'.a m'.b m'.held m'.texts).Sound :=
    (Sound.of_push (hmachine ▸ h.sound)).1
  refine ⟨_, hmachine, ⟨hsound, ?_, ?_, ?_, ?_, ?_, ?_⟩, hcurrent⟩
  · rw [hcurrent]
    rfl
  · rw [hcurrent, h.owner, hcur]
  · rw [hcurrent, h.comparison, hcur]
  · rw [hcurrent, h.ready, hcur]
  · rw [hcurrent, h.skip, hcur]
  · rw [hcurrent]
    intro address ha
    rw [h.slots address ha, hcur]

-- ---------------------------------------------------------------------------
-- One argument
-- ---------------------------------------------------------------------------

theorem runs_assertKind (base : Nat) {kind : ParameterKind} {v : Constant} (h : m.Sound)
    (hk : m.current.skip = 0) (ha : Ahead p m (.assertKind kind :: ops)) (hv : InB v m) :
    Runs p base 1 m (kind.accept v) := by
  have hassert := TextStore.assertKind_ok kind hv
  cases hr : kind.accept v with
  | ok w =>
    simp only [hr] at hassert
    obtain ⟨x, hx, hconst⟩ := hassert
    refine ⟨{ m.advance with a := m.a, b := x, held := m.held, texts := m.texts },
      goes_registers h ha hk h.texts ?_, hconst⟩
    simp [execute, hx, done]
  | error category =>
    simp only [hr] at hassert
    obtain ⟨fault, hfault, hkind⟩ := hassert
    have hfail : execute p m.advance (.assertKind kind) = (m.advance, .error fault) := by
      simp [execute, hfault, fail]
    obtain ⟨line, function, hstep⟩ := ha.step_error hk hfail
    exact ⟨0, m, _, _, Nat.one_pos, .refl, hstep, hkind, kept_registers h h.advance.texts⟩

theorem step_writeArgument {v : Constant} (h : (m.push f).Sound) (hk : m.current.skip = 0)
    (hf : f.Carries owner vs) (hsize : vs.length + 1 < m.frameSize)
    (ha : Ahead p (m.push f) (.writeArgument ↑(vs.length + 1) :: ops)) (hv : InB v m) :
    ∃ f', Machine.step p (m.push f) = (m.advance.push f', .ok .normal) ∧
      (m.advance.push f').Sound ∧ f'.Carries owner (vs ++ [v]) := by
  obtain ⟨hsound, hframe⟩ := h.of_push
  obtain ⟨f', hstore, hsound', hcarries⟩ := hf.store hframe hsize hv
  have hwrite : (m.advance.push f).writeSlot f ↑(vs.length + 1) = .ok f' := by
    have hb : (m.advance.push f).b = m.b := advance_b m
    have ht : (m.advance.push f).texts = m.texts := advance_texts m
    simp only [writeSlot, hframe.address hsize, bind, Except.bind, hb, ht]
    exact hstore
  have hexec : execute p (m.push f).advance (.writeArgument ↑(vs.length + 1)) =
      (m.advance.push f', .ok .normal) := by
    rw [advance_push hf.ready]
    simp only [execute, writeArgument, push, hf.ready, Bool.false_eq_true, if_false]
    rw [← push, hwrite]
    rfl
  have hskip : (m.push f).current.skip = 0 := by rw [current_push hf.ready, hk]
  refine ⟨f', ha.step_ok hskip hexec, ?_, hcarries⟩
  exact hsound.advance.push (by simpa using hsound')

-- ---------------------------------------------------------------------------
-- Plugins
-- ---------------------------------------------------------------------------

theorem loadArguments_values {size : Nat} (hs : f.Sound size) (address : Nat) {texts : TextStore}
    (ht : texts.WellFormed) (hvs : ∀ i v, vs[i]? = some v → f.constant? (address + i) = some v) :
    ∃ args texts', loadArguments f texts address vs.length = (.ok args, texts') ∧
      texts.Extends texts' ∧ args.map texts'.constant? = vs.map some := by
  induction vs generalizing address texts with
  | nil => exact ⟨[], texts, rfl, .refl, rfl⟩
  | cons v vs ih =>
    obtain ⟨k, x, texts₁, hk, hload, hext, hx, -⟩ := hs.load_ok address texts
    have hkv : k = v := Option.some.inj (hk.symm.trans (hvs 0 v rfl))
    subst hkv
    have ht₁ := hext.wellFormed ht
    obtain ⟨args, texts', hargs, hext', hmap⟩ := ih (address + 1) ht₁ fun i w hi => by
      have := hvs (i + 1) w hi
      rwa [Nat.add_assoc, Nat.add_comm 1 i]
    refine ⟨x :: args, texts', ?_, hext.trans hext', ?_⟩
    · simp only [List.length_cons, loadArguments, hload, hargs]
      rfl
    · rw [List.map_cons, List.map_cons, hmap, hext'.constant? ht₁ hx]

section
variable {index : Int} {plugin : Plugin} {args : List Value} {texts texts' : TextStore}

theorem callPlugin_fails {fault : Fault} (hp : m.plugin? index = some plugin)
    (hf : f.Carries .plugin vs)
    (hload : loadArguments f m.texts 1 plugin.params.length = (.ok args, texts))
    (hcall : plugin.call texts args = (.error fault, texts')) :
    (m.push f).callPlugin index =
      ({ m with texts := texts' }, .error (.within plugin.name fault)) := by
  have hplugin : (m.push f).plugin? index = some plugin := hp
  have hload' : loadArguments f (m.push f).texts 1 plugin.params.length = (.ok args, texts) := hload
  have hpushed : (m.push f).calls = f :: m.calls := rfl
  have hready : (decide (FrameOwner.plugin ≠ .plugin) || false) = false := by decide
  simp only [callPlugin, hplugin, hpushed, hf.owner_eq, hf.ready, hready, Bool.false_eq_true,
    if_false, hload', hcall]
  rfl

theorem callPlugin_gives {v : Value} {caller : Frame} (hp : m.plugin? index = some plugin)
    (hf : f.Carries .plugin vs)
    (hload : loadArguments f m.texts 1 plugin.params.length = (.ok args, texts))
    (hcall : plugin.call texts args = (.ok v, texts'))
    (hstore : m.current.store 0 v texts' = .ok caller) :
    (m.push f).callPlugin index =
      (({ m with texts := texts' } : Machine).modifyCurrent fun _ => caller, .ok .normal) := by
  have hplugin : (m.push f).plugin? index = some plugin := hp
  have hload' : loadArguments f (m.push f).texts 1 plugin.params.length = (.ok args, texts) := hload
  have hstore' : ({ m with texts := texts' } : Machine).current.store 0 v texts' = .ok caller := hstore
  have hpushed : (m.push f).calls = f :: m.calls := rfl
  have hready : (decide (FrameOwner.plugin ≠ .plugin) || false) = false := by decide
  simp only [callPlugin, hplugin, hpushed, hf.owner_eq, hf.ready, hready, Bool.false_eq_true,
    if_false, hload', hcall]
  simp only [push]
  rw [hstore']
  rfl

theorem step_callPlugin (h : (m.push f).Sound)
    (hk : m.current.skip = 0) (hf : f.Carries .plugin vs) (hp : m.plugin? index = some plugin)
    (hlen : plugin.params.length = vs.length) (hlive : plugin.call.GivesLive)
    (ha : Ahead p (m.push f) (.callPlugin index :: ops)) :
    ∃ args texts, args.map texts.constant? = vs.map some ∧
      match plugin.call texts args with
      | (.error fault, _) => ∃ m' line name, Machine.step p (m.push f) =
          (m', .error (.runtime line name (.within plugin.name fault)))
      | (.ok v, texts') => ∃ k caller, texts'.constant? v = some k ∧
          m.advance.current.store 0 v texts' = .ok caller ∧
          Machine.step p (m.push f) =
            (({ m.advance with texts := texts' } : Machine).modifyCurrent fun _ => caller,
              .ok .normal) := by
  obtain ⟨hsound, hframe⟩ := h.of_push
  have hskip : (m.push f).current.skip = 0 := by rw [current_push hf.ready, hk]
  have hexec : execute p (m.push f).advance (.callPlugin index) =
      (m.advance.push f).callPlugin index := by
    rw [advance_push hf.ready]
    rfl
  have hplugin : m.advance.plugin? index = some plugin := by
    unfold plugin? at hp ⊢
    rw [show m.advance.plugins = m.plugins from modifyCurrent_plugins m _]
    exact hp
  obtain ⟨args, texts, hload, hext, hargs⟩ := loadArguments_values hframe 1 hsound.texts
    fun i v hi => by rw [hf.slots, Nat.add_comm, List.getElem?_cons_succ, hi]; rfl
  rw [← hlen, ← advance_texts m] at hload
  refine ⟨args, texts, hargs, ?_⟩
  rcases hcall : plugin.call texts args with ⟨fault | v, texts'⟩
  · have hfails := callPlugin_fails hplugin hf hload hcall
    exact ⟨_, ha.step_error hskip (hexec.trans hfails)⟩
  · have hargsLive : ∀ v ∈ args, texts.Live v := by
      intro v hv
      have hmem := List.mem_map_of_mem (f := texts.constant?) hv
      rw [hargs] at hmem
      obtain ⟨k, -, hk⟩ := List.mem_map.mp hmem
      exact ⟨k, hk.symm⟩
    obtain ⟨k, hk⟩ := hlive texts args (hext.wellFormed hsound.texts) hargsLive v texts' hcall
    obtain ⟨caller, hstore, -⟩ := hsound.advance.current.store_ok
      (Nat.lt_of_lt_of_le Nat.zero_lt_two hsound.advance.size) hk
    have hcalled := callPlugin_gives hplugin hf hload hcall hstore
    exact ⟨k, caller, hk, hstore, ha.step_ok hskip (hexec.trans hcalled)⟩

end
end
end Machine

namespace Compiler

section
variable {p : Program} {c : Compiler} {m : Machine} {f : Frame} {owner : FrameOwner}
  {vs : List Constant} {code ops : List Operation}

theorem Matches.push (hm : Matches c m) (hf : f.ready = false) : Matches c (m.push f) := by
  refine ⟨hm.size, ?_, ?_⟩
  · rw [current_push hf]
    exact hm.skip
  · rw [hm.place]
    simp [Machine.push, lastReady?, hf]

theorem environment_push (hf : f.ready = false) : c.environment (m.push f) = c.environment m := by
  funext name
  unfold environment Symbol.frame
  rw [current_push hf]
  rfl

/-- So many instructions of the caller later, a frame that carries the arguments lies on
the frames of the caller, in which nothing that a name stands for has changed. -/
def Passed (c : Compiler) (owner : FrameOwner) (n : Nat) (m : Machine) (vs : List Constant)
    (m' : Machine) : Prop :=
  ∃ k f, m' = k.push f ∧ m'.Sound ∧ Kept c.next m k ∧ k.current.pc = m.current.pc + n ∧
    f.Carries owner vs

/-- One argument: its value is taken, checked and written into the next slot. -/
theorem argument_leaves {e : Expression} {kind : ParameterKind}
    {value : Except ErrorKind Constant} (hl : Layout c) (hcode : c.expression c.next e = .ok code)
    (hfit : vs.length + 1 < c.frameSize) (h : (m.push f).Sound) (hm : Matches c m)
    (hf : f.Carries owner vs)
    (ha : Ahead p (m.push f) (code ++ .assertKind kind :: .writeArgument ↑(vs.length + 1) :: ops))
    (hr : evaluate? (c.environment m) e = some value) :
    Leaves p (code.length + 2) (m.push f)
      (fun v => c.Passed owner (code.length + 2) m (vs ++ [v])) (value >>= kind.accept) := by
  have hruns := runs_expression hl (Nat.le_refl _) hcode
    ⟨h, hm.push hf.ready, environment_push hf.ready, ha⟩ hr
  refine hruns.bind fun v _ _ hgoes₁ hv => ?_
  have hahead₁ := hgoes₁.ahead ha
  obtain ⟨m₁, rfl, hkept₁, hcur₁⟩ := hgoes₁.kept.of_push hf.ready
  have hm₁ := hm.kept hkept₁
  have hassert := runs_assertKind c.next hgoes₁.kept.sound (hm₁.push hf.ready).skip hahead₁ hv
  rw [← bind_pure (kind.accept v)]
  refine @Runs.bind _ _ _ 1 1 _ _ _ _ hassert fun w _ _ hgoes₂ hw => ?_
  have hahead₂ := hgoes₂.ahead_one hahead₁
  obtain ⟨m₂, rfl, hkept₂, hcur₂⟩ := hgoes₂.kept.of_push hf.ready
  have hm₂ := hm₁.kept hkept₂
  obtain ⟨f', hstep, hsound, hcarries⟩ :=
    step_writeArgument hgoes₂.kept.sound hm₂.skip hf (hm₂.size ▸ hfit) hahead₂ hw
  have hkept₃ : Kept c.next m₂ m₂.advance :=
    kept_registers hgoes₂.kept.sound.of_push.1 hsound.of_push.1.texts
  have hkept : Kept c.next m m₂.advance :=
    (hkept₁.trans hkept₂ (Nat.le_refl _)).trans hkept₃ (Nat.le_refl _)
  refine ⟨_, .step hstep .refl, m₂.advance, f', rfl, hsound, hkept, ?_, hcarries⟩
  rw [current_advance]
  show m₂.current.pc + 1 = _
  rw [hcur₂, hgoes₂.pc, hgoes₁.pc, current_push hf.ready]
  rfl

theorem arguments_leave {args : List Expression} {kinds : List ParameterKind} {address : Nat}
    {r : Except ErrorKind (List Constant)} (hl : Layout c)
    (hcode : c.arguments address args kinds = .ok code) (hlen : args.length = kinds.length)
    (haddr : address = vs.length + 1) (hfit : vs.length + kinds.length < c.frameSize)
    (h : (m.push f).Sound) (hm : Matches c m) (hf : f.Carries owner vs)
    (ha : Ahead p (m.push f) (code ++ ops))
    (hr : arguments? (c.environment m) args kinds = some r) :
    Leaves p code.length (m.push f) (fun ws => c.Passed owner code.length m (vs ++ ws)) r := by
  induction args generalizing kinds address code vs m f r with
  | nil =>
    obtain rfl : kinds = [] := List.eq_nil_of_length_eq_zero hlen.symm
    cases hcode
    cases hr
    exact ⟨m.push f, .refl, m, f, rfl, h, .refl h.of_push.1, rfl, by rwa [List.append_nil]⟩
  | cons e args ih =>
    cases kinds with
    | nil => cases hlen
    | cons kind kinds =>
      subst haddr
      simp only [arguments, bind_ok, pure_ok] at hcode
      obtain ⟨first, hfirst, more, hmore, rfl⟩ := hcode
      obtain ⟨value, hvalue, hr⟩ := Option.bind_eq_some_iff.mp hr
      simp only [List.append_assoc, List.cons_append] at ha
      simp only [List.length_cons] at hfit
      have hlength : (first ++ .assertKind kind :: .writeArgument ↑(vs.length + 1) :: more).length =
          first.length + 2 + more.length := by
        simp only [List.length_append, List.length_cons]
        omega
      have hone := argument_leaves hl hfirst (by omega) h hm hf ha hvalue
      rw [hlength]
      cases haccept : value >>= kind.accept with
      | error category =>
        simp only [haccept] at hone hr
        cases hr
        obtain ⟨m', e, hran, hkind⟩ := hone
        exact ⟨m', e, hran.fails _, hkind⟩
      | ok w =>
        simp only [haccept] at hone hr
        obtain ⟨r', hr', rfl⟩ := Option.map_eq_some_iff.mp hr
        obtain ⟨_, hsteps, k, f', rfl, hsound, hkept, hpc, hcarries⟩ := hone
        have hahead : Ahead p (k.push f') (more ++ ops) := by
          refine @Ahead.drop p (m.push f)
            (first ++ [.assertKind kind, .writeArgument ↑(vs.length + 1)]) _ _ (by simpa using ha) ?_ ?_
          · rw [current_push hcarries.ready, current_push hf.ready, hkept.owner]
          · rw [current_push hcarries.ready, current_push hf.ready, hpc, List.length_append]
            rfl
        have henv := hl.environment hm hkept (Nat.le_refl _)
        have hrest := ih hmore (Nat.succ.inj hlen) (by simp) (by simp; omega) hsound (hm.kept hkept)
          hcarries hahead (henv.symm ▸ hr')
        refine (hrest.map fun ws m' hpassed => ?_).after hsteps
        obtain ⟨k', f'', rfl, hsound', hkept', hpc', hcarries'⟩ := hpassed
        refine ⟨k', f'', rfl, hsound', hkept.trans hkept' (Nat.le_refl _), ?_, by simpa using hcarries'⟩
        rw [hpc', hpc, Nat.add_assoc]

end
end Compiler
end Birl
