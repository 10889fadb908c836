import Birl.Library
import Birl.Proofs.Machine.Resume
import Birl.Proofs.Machine.Sound

/-!
# Identities from another source

A run takes nothing from outside but its input and the identities that it draws. So
with another source of identities it goes the same way, as long as that gives the same
identities where the run draws one (`Reaches.withPlugins`).
-/

namespace Birl

/-- Plugins that differ at most in where identities come from. -/
inductive Plugin.Redrawn (identities identities' : Nat → Text) : Plugin → Plugin → Prop
  | same (plugin : Plugin) : Redrawn identities identities' plugin plugin
  | identity : Redrawn identities identities'
      { name := "IDENTIDADE", call := Library.identity identities }
      { name := "IDENTIDADE", call := Library.identity identities' }

/-- Plugins in the same places that differ at most in where identities come from. -/
structure Redrawn (identities identities' : Nat → Text) (plugins plugins' : Array Plugin) :
    Prop where
  size : plugins'.size = plugins.size
  each : ∀ (i : Nat) plugin, plugins[i]? = some plugin →
    ∃ plugin', plugins'[i]? = some plugin' ∧ Plugin.Redrawn identities identities' plugin plugin'

theorem Redrawn.refl {identities identities' : Nat → Text} (plugins : Array Plugin) :
    Redrawn identities identities' plugins plugins :=
  ⟨rfl, fun _ plugin h => ⟨plugin, h, .same plugin⟩⟩

theorem Redrawn.push {identities identities' : Nat → Text} {plugins plugins' : Array Plugin}
    {plugin plugin' : Plugin} (h : Redrawn identities identities' plugins plugins')
    (hp : Plugin.Redrawn identities identities' plugin plugin') :
    Redrawn identities identities' (plugins.push plugin) (plugins'.push plugin') := by
  refine ⟨by simp [h.size], fun i p hi => ?_⟩
  rw [Array.getElem?_push] at hi ⊢
  rw [h.size]
  split at hi
  · cases hi
    rw [if_pos ‹_›]
    exact ⟨plugin', rfl, hp⟩
  · rw [if_neg ‹_›]
    exact h.each i p hi

namespace Machine

def called? (p : Program) (m : Machine) : Option Plugin := do
  let segment ← m.segment? p
  let instruction ← segment.code[m.current.pc]?
  match instruction.op with
  | .callPlugin index => if m.current.skip = 0 then m.plugin? index else none
  | _ => none

def CallsPlugin (p : Program) (m : Machine) (name : Text) : Prop :=
  (m.called? p).map Plugin.name = some name

instance (p : Program) (m : Machine) (name : Text) : Decidable (m.CallsPlugin p name) :=
  inferInstanceAs (Decidable (_ = _))

def withPlugins (m : Machine) (plugins : Array Plugin) : Machine := m.refit m.output plugins

/-- What comes out, with other plugins. -/
def exchange {α : Type} (plugins : Array Plugin) (x : Machine × α) : Machine × α :=
  (x.1.withPlugins plugins, x.2)

section
variable {p : Program} {m m' : Machine} {identities identities' : Nat → Text} {plugins : Array Plugin}

theorem refitted_eq_exchange {α : Type} {x : Machine × α} (h : x.1.output = m.output) :
    refitted m.output plugins x = exchange plugins x := by
  rw [exchange, withPlugins, h, refitted]

theorem modifyCurrent_withPlugins (g : Frame → Frame) :
    (m.withPlugins plugins).modifyCurrent g = (m.modifyCurrent g).withPlugins plugins := by
  rw [withPlugins, withPlugins, modifyCurrent_refit, modifyCurrent_output]

theorem leave_withPlugins : (m.withPlugins plugins).leave = exchange plugins m.leave := by
  rw [withPlugins, leave_refit, refitted_eq_exchange leave_unused.1]

theorem execute_withPlugins {op : Operation}
    (hcall : ∀ index, op = .callPlugin index →
      (m.withPlugins plugins).callPlugin index = exchange plugins (m.callPlugin index)) :
    execute p (m.withPlugins plugins) op = exchange plugins (execute p m op) := by
  cases hwrites : op.writes with
  | false =>
    by_cases hop : ∃ index, op = .callPlugin index
    · obtain ⟨index, rfl⟩ := hop
      exact hcall index rfl
    · rw [not_exists] at hop
      rw [withPlugins, execute_refit hwrites hop,
        refitted_eq_exchange (execute_unused hwrites hop).1]
  | true =>
    have hemit (t : Except Fault Text) :
        (m.withPlugins plugins).emit t = exchange plugins (m.emit t) := by
      cases t <;> rfl
    cases op with
    | readInput =>
      have hinput : (m.withPlugins plugins).input = m.input := rfl
      simp only [execute, readInput, hinput]
      split <;> rfl
    | print => exact hemit _
    | printDebug => exact hemit _
    | newLine => rfl
    | flush =>
      have hflush : (m.withPlugins plugins).flush = exchange plugins m.flush := rfl
      simp only [execute, hflush, exchange]
      split <;> rfl
    | _ => cases hwrites

theorem plugin?_withPlugins (h : Redrawn identities identities' m.plugins plugins) (index : Int) :
    Option.Rel (Plugin.Redrawn identities identities') (m.plugin? index)
      ((m.withPlugins plugins).plugin? index) := by
  unfold plugin?
  split
  · show Option.Rel _ _ plugins[index.toNat]?
    cases hplugin : m.plugins[index.toNat]? with
    | none =>
      rw [Array.getElem?_eq_none_iff, ← h.size, ← Array.getElem?_eq_none_iff] at hplugin
      rw [hplugin]
      exact .none
    | some plugin =>
      obtain ⟨plugin', hplugin', hredrawn⟩ := h.each _ _ hplugin
      rw [hplugin']
      exact .some hredrawn
  · exact .none

/-- The call of a plugin does the same if it draws the same identity, or none. -/
theorem callPlugin_withPlugins (h : Redrawn identities identities' m.plugins plugins) {index : Int}
    (hdraw : ∀ plugin, m.plugin? index = some plugin → plugin.name = "IDENTIDADE" →
      identities' m.texts.next = identities m.texts.next) :
    (m.withPlugins plugins).callPlugin index = exchange plugins (m.callPlugin index) := by
  have hrelated := plugin?_withPlugins h index
  unfold callPlugin
  generalize m.plugin? index = found at hrelated hdraw
  generalize (m.withPlugins plugins).plugin? index = found' at hrelated
  cases hrelated with
  | none => rfl
  | some hredrawn =>
    cases hredrawn with
    | same =>
      simp only [withPlugins, refit, exchange, modifyCurrent, current, fail, done]
      repeat' split
      all_goals simp_all
    | identity =>
      have hsame := hdraw _ rfl rfl
      simp only [loadArguments, List.length_nil, Library.identity, withPlugins, refit, exchange,
        modifyCurrent, current, fail, done, hsame]
      repeat' split
      all_goals simp_all

theorem step_withPlugins (h : Redrawn identities identities' m.plugins plugins)
    (hdraw : m.CallsPlugin p "IDENTIDADE" → identities' m.texts.next = identities m.texts.next)
    {r : Except Error Status} (hs : step p m = (m', r)) :
    step p (m.withPlugins plugins) = (m'.withPlugins plugins, r) := by
  have hleave : ({ m.withPlugins plugins with b := .null } : Machine).leave =
      exchange plugins { m with b := .null }.leave :=
    leave_withPlugins (m := { m with b := .null })
  have hexecute {s : Segment} {instruction : Instruction} (hseg : m.segment? p = some s)
      (hi : s.code[m.current.pc]? = some instruction) (hk : m.current.skip = 0) :
      execute p (m.withPlugins plugins).advance instruction.op =
        exchange plugins (execute p m.advance instruction.op) := by
    have hadvance : (m.withPlugins plugins).advance = m.advance.withPlugins plugins :=
      modifyCurrent_withPlugins _
    have hplugins : m.advance.plugins = m.plugins := modifyCurrent_plugins m _
    have htexts : m.advance.texts = m.texts := modifyCurrent_texts m _
    rw [hadvance]
    refine execute_withPlugins fun index hop => callPlugin_withPlugins (hplugins ▸ h) ?_
    intro plugin hplugin hname
    rw [htexts]
    have hplugin : m.plugin? index = some plugin := by
      rwa [plugin?, hplugins] at hplugin
    exact hdraw (by simp [CallsPlugin, called?, hseg, hi, hop, hk, hplugin, hname])
  cases stepped_of_step hs with
  | noCode hseg => exact Stepped.step_eq (.noCode hseg)
  | ended hseg hi hc => exact Stepped.step_eq (.ended hseg hi hc)
  | returned hseg hi hc hl => exact Stepped.step_eq (.returned hseg hi hc (by rw [hleave, hl]; rfl))
  | stuck hseg hi hc hl => exact Stepped.step_eq (.stuck hseg hi hc (by rw [hleave, hl]; rfl))
  | @skipped s instruction hseg hi hk =>
    rw [← modifyCurrent_withPlugins]
    exact Stepped.step_eq (.skipped hseg hi hk)
  | executed hseg hi hk he =>
    exact Stepped.step_eq (.executed hseg hi hk (by rw [hexecute hseg hi hk, he]; rfl))
  | failed hseg hi hk he =>
    exact Stepped.step_eq (.failed hseg hi hk (by rw [hexecute hseg hi hk, he]; rfl))

theorem Reaches.withPlugins {last : Machine} (hr : Reaches p m last)
    (h : Redrawn identities identities' m.plugins plugins)
    (hdraw : ∀ m', Reaches p m m' → m'.CallsPlugin p "IDENTIDADE" →
      identities' m'.texts.next = identities m'.texts.next) :
    Reaches p (m.withPlugins plugins) (last.withPlugins plugins) ∧ last.plugins = m.plugins := by
  induction hr with
  | refl m => exact ⟨.refl _, rfl⟩
  | step hs hf _ ih =>
    obtain ⟨hplugins, -⟩ := step_setup hs
    obtain ⟨hreaches, hlast⟩ := ih (hplugins ▸ h) fun m' hm' => hdraw m' (.step hs hf hm')
    exact ⟨.step (step_withPlugins h (hdraw _ (.refl _)) hs) hf hreaches, hlast.trans hplugins⟩

theorem Due.withPlugins {r : Except Error Status} {goal : Machine} (hd : Due p m r goal)
    (h : Redrawn identities identities' m.plugins plugins)
    (hdraw : ∀ m', Reaches p m m' → m'.CallsPlugin p "IDENTIDADE" →
      identities' m'.texts.next = identities m'.texts.next) :
    Due p (m.withPlugins plugins) r (goal.withPlugins plugins) := by
  obtain ⟨last, m', hreaches, hs, hstop, hn, output, rfl, houtput⟩ := hd
  obtain ⟨hreaches', hplugins⟩ := hreaches.withPlugins h hdraw
  have hs' := step_withPlugins (hplugins ▸ h) (hdraw last hreaches) hs
  exact ⟨last.withPlugins plugins, _, hreaches', hs', hstop, hn, output, rfl, houtput⟩

end
end Machine
end Birl
