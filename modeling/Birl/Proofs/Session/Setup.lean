import Birl.Proofs.Compiler.Growth
import Birl.Proofs.Machine.Identities
import Birl.Proofs.Session.Safety

/-!
# Sessions before the first line

A host sets a session up by declaring globals and registering plugins. A session that
was set up stands at the start of an empty program (`fresh_prepare`). One that is set
up for another mode and with another source of identities is the same in all but these
(`prepare_matches`).
-/

namespace Birl

/-- What a host adds to a session: a variable with its value, or a function. -/
inductive Registration where
  | global (name : Text) (value : Constant) (readOnly : Bool)
  | plugin (name : Text) (params : List ParameterKind) (call : Callback)

namespace Session

def register (s : Session) : Registration → Result Unit
  | .global name value readOnly =>
    let (v, machine) := s.machine.intern value
    { s with machine }.registerGlobal name v readOnly
  | .plugin name params call => s.registerPlugin name params (some call)

/-- Adds everything, up to the first failure. -/
def registerAll (s : Session) : List Registration → Result Unit
  | [] => (s, .ok ())
  | r :: rest =>
    match s.register r with
    | (s, .ok ()) => s.registerAll rest
    | failed => failed

def prepare (options : SessionOptions) (setup : List Registration) : Except Error Session :=
  match Session.new options with
  | .error e => .error e
  | .ok s =>
    match s.registerAll setup with
    | (s, .ok ()) => .ok s
    | (_, .error e) => .error e

-- ---------------------------------------------------------------------------
-- Another mode, and identities from another source
-- ---------------------------------------------------------------------------

/-- The sessions differ at most in their mode and in where identities come from. -/
def Matches (identities identities' : Nat → Text) (s s' : Session) : Prop :=
  ∃ interactive plugins, s' = { s with interactive, machine := s.machine.withPlugins plugins } ∧
    Redrawn identities identities' s.machine.plugins plugins

/-- The same came out of sessions that match. -/
def Result.Matches {α : Type} (identities identities' : Nat → Text) (x x' : Result α) : Prop :=
  x.1.Matches identities identities' x'.1 ∧ x'.2 = x.2

def Result.andThen (x : Result Unit) (f : Session → Result Unit) : Result Unit :=
  match x with
  | (s, .ok ()) => f s
  | failed => failed

section
variable {identities identities' : Nat → Text} {s s' : Session}

theorem setGlobal_withPlugins (m : Machine) (plugins : Array Plugin) (address : Int) (v : Value) :
    (m.withPlugins plugins).setGlobal address v =
      (m.setGlobal address v).map (·.withPlugins plugins) := by
  have haddress : (m.withPlugins plugins).globalAddress address = m.globalAddress address := rfl
  have hglobal : (m.withPlugins plugins).global = m.global := rfl
  have htexts : (m.withPlugins plugins).texts = m.texts := rfl
  simp only [Machine.setGlobal, haddress, hglobal, htexts]
  cases m.globalAddress address with
  | error fault => rfl
  | ok address =>
    simp only [bind, Except.bind]
    cases m.global.store address v m.texts <;> rfl

theorem Matches.registerGlobal (h : s.Matches identities identities' s') (name : Text) (v : Value)
    (readOnly : Bool) :
    Result.Matches identities identities' (s.registerGlobal name v readOnly)
      (s'.registerGlobal name v readOnly) := by
  obtain ⟨interactive, plugins, rfl, hplugins⟩ := h
  simp only [Session.registerGlobal, setGlobal_withPlugins]
  cases s.compiler.declareGlobal name readOnly with
  | error fault => exact ⟨⟨interactive, plugins, rfl, hplugins⟩, rfl⟩
  | ok declared =>
    obtain ⟨address, compiler⟩ := declared
    simp only
    cases hset : s.machine.setGlobal address v with
    | error fault => exact ⟨⟨interactive, plugins, rfl, hplugins⟩, rfl⟩
    | ok machine =>
      obtain ⟨global, rfl, -⟩ := Machine.setGlobal_ok hset
      exact ⟨⟨interactive, plugins, rfl, hplugins⟩, rfl⟩

theorem Matches.registerPlugin (h : s.Matches identities identities' s') {plugin plugin' : Plugin}
    (hp : Plugin.Redrawn identities identities' plugin plugin') :
    Result.Matches identities identities'
      (s.registerPlugin plugin.name plugin.params (some plugin.call))
      (s'.registerPlugin plugin'.name plugin'.params (some plugin'.call)) := by
  obtain ⟨interactive, plugins, rfl, hplugins⟩ := h
  have hname : plugin'.name = plugin.name := by cases hp <;> rfl
  have hparams : plugin'.params = plugin.params := by cases hp <;> rfl
  have hadded := hplugins.push hp
  have hplugin' :
      plugin' = { name := plugin.name, params := plugin.params, call := plugin'.call } := by
    rw [← hname, ← hparams]
  rw [hplugin'] at hadded
  have hsize : (s.machine.withPlugins plugins).plugins.size = s.machine.plugins.size :=
    hplugins.size
  simp only [Session.registerPlugin, Machine.addPlugin, hname, hparams, hsize]
  split
  · exact ⟨⟨interactive, plugins, rfl, hplugins⟩, rfl⟩
  · split
    · exact ⟨⟨interactive, _, rfl, hadded⟩, rfl⟩
    · exact ⟨⟨interactive, _, rfl, hadded⟩, rfl⟩

theorem Result.Matches.naming {α : Type} {x x' : Result α}
    (h : x.Matches identities identities' x') (context : Text) :
    Result.Matches identities identities' (naming context x) (naming context x') := by
  obtain ⟨s, r⟩ := x
  obtain ⟨s', r'⟩ := x'
  obtain ⟨hs, hr⟩ := h
  cases hr
  rcases r with (_ | _ | _ | _) | _ <;> exact ⟨hs, rfl⟩

theorem Result.Matches.andThen {x x' : Result Unit} {f f' : Session → Result Unit}
    (h : x.Matches identities identities' x')
    (hf : ∀ s s', s.Matches identities identities' s' →
      Result.Matches identities identities' (f s) (f' s')) :
    Result.Matches identities identities' (x.andThen f) (x'.andThen f') := by
  obtain ⟨s, r⟩ := x
  obtain ⟨s', r'⟩ := x'
  obtain ⟨hs, hr⟩ := h
  cases hr
  rcases r with e | ⟨⟩
  · exact ⟨hs, rfl⟩
  · exact hf s s' hs

theorem Matches.registerGlobals (h : s.Matches identities identities' s')
    (globals : List (Text × Text)) :
    Result.Matches identities identities' (s.registerGlobals globals)
      (s'.registerGlobals globals) := by
  induction globals generalizing s s' with
  | nil => exact ⟨h, rfl⟩
  | cons entry rest ih =>
    obtain ⟨name, t⟩ := entry
    obtain ⟨interactive, plugins, rfl, hplugins⟩ := h
    have hinterned : Matches identities identities'
        { s with machine := (s.machine.intern (.text t)).2 }
        { s with interactive, machine := ((s.machine.withPlugins plugins).intern (.text t)).2 } :=
      ⟨interactive, plugins, rfl, hplugins⟩
    have hnamed := (hinterned.registerGlobal name (s.machine.intern (.text t)).1 true).naming
      ("stdlib global " ++ name)
    exact Result.Matches.andThen hnamed fun s₁ s₁' h₁ => ih h₁

theorem Matches.registerPlugins (h : s.Matches identities identities' s')
    {plugins plugins' : List Plugin}
    (hp : List.Forall₂ (Plugin.Redrawn identities identities') plugins plugins') :
    Result.Matches identities identities' (s.registerPlugins plugins)
      (s'.registerPlugins plugins') := by
  induction hp generalizing s s' with
  | nil => exact ⟨h, rfl⟩
  | @cons plugin plugin' _ _ hplugin _ ih =>
    have hname : plugin'.name = plugin.name := by cases hplugin <;> rfl
    have hnamed := (h.registerPlugin hplugin).naming ("stdlib plugin " ++ plugin.name)
    rw [Session.registerPlugins, Session.registerPlugins, hname]
    rw [hname] at hnamed
    exact Result.Matches.andThen hnamed fun s₁ s₁' h₁ => ih h₁

theorem Matches.register (h : s.Matches identities identities' s') (r : Registration) :
    Result.Matches identities identities' (s.register r) (s'.register r) := by
  cases r with
  | global name value readOnly =>
    obtain ⟨interactive, plugins, rfl, hplugins⟩ := h
    have hinterned : Matches identities identities' { s with machine := (s.machine.intern value).2 }
        { s with interactive, machine := ((s.machine.withPlugins plugins).intern value).2 } :=
      ⟨interactive, plugins, rfl, hplugins⟩
    exact hinterned.registerGlobal name (s.machine.intern value).1 readOnly
  | plugin name params call => exact h.registerPlugin (.same { name, params, call })

theorem Matches.registerAll (h : s.Matches identities identities' s') (setup : List Registration) :
    Result.Matches identities identities' (s.registerAll setup) (s'.registerAll setup) := by
  induction setup generalizing s s' with
  | nil => exact ⟨h, rfl⟩
  | cons r rest ih => exact Result.Matches.andThen (h.register r) fun s₁ s₁' h₁ => ih h₁

theorem redrawn_library (identities identities' : Nat → Text) :
    List.Forall₂ (Plugin.Redrawn identities identities') (Library.plugins identities)
      (Library.plugins identities') :=
  .cons (.same _) (.cons (.same _) (.cons (.same _) (.cons .identity (.cons (.same _) .nil))))

theorem new_matches {options : SessionOptions} (interactive : Bool) (identities : Nat → Text)
    (h : Session.new options = .ok s) :
    ∃ s', Session.new { options with interactive, identities } = .ok s' ∧
      s.Matches options.identities identities s' := by
  have hstart : (start options).Matches options.identities identities
      (start { options with interactive, identities }) := ⟨interactive, #[], rfl, .refl _⟩
  rcases new_ok.mp h with ⟨hlibrary, s₁, hglobals, hplugins⟩ | ⟨hlibrary, rfl⟩
  · obtain ⟨hs₁, hr₁⟩ := hstart.registerGlobals Library.globals
    rw [hglobals] at hs₁ hr₁
    obtain ⟨hs, hr⟩ := hs₁.registerPlugins (redrawn_library options.identities identities)
    rw [hplugins] at hs hr
    exact ⟨_, new_ok.mpr (.inl ⟨hlibrary, _, Prod.ext rfl hr₁, Prod.ext rfl hr⟩), hs⟩
  · exact ⟨_, new_ok.mpr (.inr ⟨hlibrary, rfl⟩), hstart⟩

theorem prepare_matches {options : SessionOptions} {setup : List Registration} (interactive : Bool)
    (identities : Nat → Text) (h : prepare options setup = .ok s) :
    ∃ s', prepare { options with interactive, identities } setup = .ok s' ∧
      s.Matches options.identities identities s' := by
  unfold prepare at h
  split at h
  · cases h
  · rename_i s₀ hnew
    obtain ⟨s₀', hnew', hmatches⟩ := new_matches interactive identities hnew
    obtain ⟨hs, hr⟩ := hmatches.registerAll setup
    split at h
    · rename_i s₁ hall
      cases h
      rw [hall] at hs hr
      have hall' : s₀'.registerAll setup = ((s₀'.registerAll setup).1, .ok ()) := Prod.ext rfl hr
      refine ⟨_, ?_, hs⟩
      rw [prepare, hnew']
      simp only
      rw [hall']
    · cases h

theorem prepare_noLibrary (options : SessionOptions) (setup : List Registration)
    (identities : Nat → Text) (h : options.library = false) :
    prepare { options with identities } setup = prepare options setup := by
  simp [prepare, Session.new, h]

/-- The interactive session that is set up alike. Its identities are the same where they
are drawn; without the library they are drawn nowhere. -/
theorem prepare_agrees {options : SessionOptions} {setup : List Registration}
    {identities : Nat → Text} {draws : Machine → Prop}
    (h : prepare { options with interactive := false } setup = .ok s)
    (hdraw : options.library = true → ∀ m, draws m →
      identities m.texts.next = options.identities m.texts.next) :
    ∃ s' identities', prepare { options with interactive := true, identities } setup = .ok s' ∧
      s.Matches options.identities identities' s' ∧
      ∀ m, draws m → identities' m.texts.next = options.identities m.texts.next := by
  by_cases hlibrary : options.library = true
  · obtain ⟨s', hs', hmatches⟩ := prepare_matches true identities h
    exact ⟨s', identities, hs', hmatches, hdraw hlibrary⟩
  · obtain ⟨s', hs', hmatches⟩ := prepare_matches true options.identities h
    have hsame := prepare_noLibrary { options with interactive := true } setup identities
      (by simpa using hlibrary)
    exact ⟨s', options.identities, hsame.trans hs', hmatches, fun _ _ => rfl⟩

-- ---------------------------------------------------------------------------
-- Before the first line
-- ---------------------------------------------------------------------------

/-- The session has compiled and run nothing. -/
structure Fresh (options : SessionOptions) (s : Session) : Prop where
  interactive : s.interactive = options.interactive
  safe : s.compiler.Safe s.machine.plugins
  tidy : s.compiler.Tidy
  program : s.compiler.program = .empty
  scopes : s.compiler.depth = 0
  stack : s.machine.stack = [⟨.code globalCode, 0, true, 0⟩]
  output : s.machine.output = options.output
  depth : s.depth = 0
  quit : s.quit = false
  entryRun : s.entryRun = false

variable {options : SessionOptions}

theorem fresh_start (options : SessionOptions) : Fresh options (start options) :=
  ⟨rfl, Compiler.safe_new _ _, Compiler.tidy_new _, rfl, rfl, rfl, rfl, rfl, rfl, rfl⟩

theorem Fresh.withTexts (h : Fresh options s) (texts : TextStore) :
    Fresh options { s with machine := { s.machine with texts } } :=
  ⟨h.interactive, h.safe, h.tidy, h.program, h.scopes, h.stack, h.output, h.depth, h.quit, h.entryRun⟩

theorem Fresh.registerGlobal (h : Fresh options s) (name : Text) (v : Value) (readOnly : Bool) :
    Fresh options (s.registerGlobal name v readOnly).1 := by
  refine registerGlobal_induct h (fun address compiler hd => ?_)
    fun address compiler machine hdeclared hset => ?_
  · obtain ⟨-, symbol, -, hdeclares⟩ := Compiler.declareGlobal_ok hd
    obtain ⟨-, hp, -, -, -, hscopes⟩ := hdeclares.keeps
    exact ⟨h.interactive, h.safe.declareGlobal hd, h.tidy.declareGlobal hd, hp.trans h.program,
      hscopes.trans h.scopes, h.stack, h.output, h.depth, h.quit, h.entryRun⟩
  · obtain ⟨global, rfl, hcontrol⟩ := Machine.setGlobal_ok hset
    refine ⟨h.interactive, hdeclared.safe, hdeclared.tidy, hdeclared.program, hdeclared.scopes,
      ?_, h.output, h.depth, h.quit, h.entryRun⟩
    rw [← h.stack]
    simp [Machine.stack, Machine.frames, hcontrol]

theorem Fresh.registerPlugin (h : Fresh options s) (name : Text) (params : List ParameterKind)
    (call : Callback) : Fresh options (s.registerPlugin name params (some call)).1 := by
  refine registerPlugin_induct h ⟨h.interactive, h.safe.addPlugin _, h.tidy, h.program, h.scopes,
    h.stack, h.output, h.depth, h.quit, h.entryRun⟩ fun compiler hr => ?_
  have hsafe := h.safe.registerPlugin call hr
  have htidy := h.tidy.registerPlugin hr
  obtain ⟨-, -, rfl⟩ := Compiler.registerPlugin_ok hr
  exact ⟨h.interactive, hsafe, htidy, h.program, h.scopes, h.stack, h.output, h.depth, h.quit,
    h.entryRun⟩

theorem fresh_new (h : Session.new options = .ok s) :
    Fresh options s :=
  new_induct (fresh_start options) (fun _ _ hf => hf.withTexts _)
    (fun _ name v readOnly hf => hf.registerGlobal name v readOnly)
    (fun _ plugin _ hf => hf.registerPlugin plugin.name plugin.params plugin.call) h

theorem Fresh.registerAll (h : Fresh options s) (setup : List Registration) :
    Fresh options (s.registerAll setup).1 := by
  induction setup generalizing s with
  | nil => exact h
  | cons r rest ih =>
    have hregistered : Fresh options (s.register r).1 := by
      cases r with
      | global name value readOnly => exact (h.withTexts _).registerGlobal name _ readOnly
      | plugin name params call => exact h.registerPlugin name params call
    simp only [Session.registerAll]
    split
    · rename_i heq
      rw [heq] at hregistered
      exact ih hregistered
    · exact hregistered

theorem fresh_prepare {setup : List Registration}
    (h : prepare options setup = .ok s) : Fresh options s := by
  unfold prepare at h
  split at h
  · cases h
  · rename_i s₀ hnew
    have hall := (fresh_new hnew).registerAll setup
    split at h
    · rename_i heq
      rw [heq] at hall
      cases h
      exact hall
    · cases h

end
end Session
end Birl
