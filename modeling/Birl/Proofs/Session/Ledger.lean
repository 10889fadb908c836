import Birl.Proofs.Compiler.Ownership
import Birl.Proofs.Session.History

/-!
# What a global variable holds

A `Ledger` follows one variable of the global scope, by its name and its slot, through all
that happens in a session: it knows the instructions that were compiled to give the
variable a value, and every value that they, the host or, for the result variable, calls
have stored. A variable has its slot from the moment its line is compiled, and the slot
may have served something else before. So the ledger also tells whether it is settled: a
value was stored at a time when no code from before the variable was left to run.

What is read from a variable that is settled is what was last stored in it, and a slot
that nothing was written to is Null (`Moves.tells`).
-/

namespace Birl

theorem Session.Grounded.not_local {s : Session} (hg : s.Grounded)
    (hruns : s.machine.globalRuns = true) {operand : Int} :
    s.machine.next? s.program ≠ some (.writeLocal operand) := by
  intro hnext
  obtain ⟨id, pos, -, hop, howner, -⟩ := Machine.next?_place hnext
  rw [Machine.current_of_globalRuns hruns, hg.rooted.1] at howner
  exact hg.compiler.confined hop (FrameOwner.code.inj howner).symm

/-- What is known of the global variable of a name and a slot. -/
structure Ledger where
  /-- The length of the global code when the variable had been given the slot. -/
  since : Option Nat := none
  /-- The instructions that give the variable a value, by segment and position. -/
  places : List (Nat × Nat) := []
  /-- The values that were stored in the variable as such, the latest first. -/
  stores : List Constant := []
  /-- Whether one was stored when the code from before the variable had been passed. -/
  settled : Bool := false
  /-- Whether anything was written to the slot. -/
  touched : Bool := false
  deriving DecidableEq, Repr

namespace Ledger

/-- Notes a compiler that may have given the variable its slot. -/
def noted (l : Ledger) (name : Text) (a : Nat) (c : Compiler) : Ledger :=
  if l.since.isNone && c.hasGlobal name a then { l with since := some c.program.globalLength } else l

/-- Whether the next step, which writes the slot, does so for the variable: by an
instruction that was compiled for it, or as the end of a call for the result variable. -/
def isOwn (l : Ledger) (name : Text) (p : Program) (m : Machine) : Bool :=
  match m.next? p with
  | some (.writeGlobal _) | some (.writeLocal _) => m.place?.any (· ∈ l.places)
  | _ => name = returnName

/-- Notes a value that was written to the slot, after which the global frame stands at
`pc`. -/
def written (l : Ledger) (own : Bool) (k : Constant) (pc : Nat) : Ledger :=
  if own then
    { l with
      stores := k :: l.stores
      settled := l.settled || l.since.any (· ≤ pc)
      touched := true }
  else { l with touched := true }

/-- Takes over what happens in a session. -/
def after (name : Text) (a : Nat) (l : Ledger) : Event → Ledger
  | .compiled before cmd after =>
    { l.noted name a after with places := before.storePlaces after cmd name a ++ l.places }
  | .declared after => l.noted name a after
  | .stored other address v m =>
    match m.texts.constant? v with
    | some k => if address = a then l.written (other = name) k m.global.pc else l
    | none => l
  | .stepped p m =>
    match m.writes? p with
    | some (address, k) =>
      if address = a then l.written (l.isOwn name p m) k (m.step p).1.global.pc else l
    | none => l
  | .recovered => l

/-- What the compiler knows of the variable. -/
structure Guards (l : Ledger) (name : Text) (a : Nat) (c : Compiler) : Prop where
  bound : c.hasGlobal name a = true → l.since ≠ none
  reserved : l.since ≠ none → c.Reserved name a
  since_le : ∀ n, l.since = some n → n ≤ c.program.globalLength
  places : ∀ n, l.since = some n → c.WrittenAt a n l.places
  result : l.since ≠ none → a = 0 → name = returnName

/-- The ledger is right about the slot. -/
structure Tells (l : Ledger) (name : Text) (a : Nat) (s : Session) : Prop where
  guards : l.Guards name a s.compiler
  passed : l.settled = true → ∃ n, l.since = some n ∧ n ≤ s.machine.global.pc
  latest : l.settled = true →
    l.stores ≠ [] ∧ s.machine.global.constant? a = l.stores.head?
  untouched : l.touched = false → s.machine.global.constant? a = some .null

section
variable {l : Ledger} {name : Text} {a : Nat} {c c' : Compiler} {s s' : Session}

-- ---------------------------------------------------------------------------
-- The compiler moves on
-- ---------------------------------------------------------------------------

theorem noted_of_bound (h : l.since ≠ none) (c : Compiler) : l.noted name a c = l := by
  obtain ⟨n, hn⟩ := Option.ne_none_iff_exists'.mp h
  simp [noted, hn]

/-- A compiler that gives the variable its slot, or adds instructions that write it. -/
theorem Guards.change (h : l.Guards name a c) (hc : c.Reachable) (hc' : c'.Reachable)
    (hs : c.Settles c') (hp : c.program.Extends c'.program) {more : List (Nat × Nat)}
    (hw : ∀ n, c.Reserved name a → c.WrittenAt a n l.places → c'.WrittenAt a n (more ++ l.places))
    (hcode : c.depth = 0 → ∀ id pos, id ≠ globalCode → ∀ op,
      c'.program.operation? id pos = some op → c.program.operation? id pos = some op) :
    Guards { l.noted name a c' with places := more ++ l.places } name a c' := by
  by_cases hsince : l.since = none
  · cases hg : c'.hasGlobal name a with
    | true =>
      have hno : c.hasGlobal name a = false := by
        cases hb : c.hasGlobal name a with
        | false => rfl
        | true => exact absurd hsince (h.bound hb)
      have hnoted : (l.noted name a c').since = some c'.program.globalLength := by
        simp [noted, hsince, hg]
      refine ⟨fun _ => by simp [hnoted], fun _ => hc'.reserved hg, fun n hn => ?_, fun n hn => ?_,
        fun _ hzero => hc'.returnSlot (hzero ▸ hg)⟩
      all_goals
        obtain rfl : c'.program.globalLength = n := Option.some.inj (hnoted.symm.trans hn)
      · exact Nat.le_refl _
      · exact Compiler.writtenAt_bound hc hs hno hg hcode
    | false =>
      have hnoted : (l.noted name a c').since = none := by simp [noted, hsince, hg]
      exact ⟨fun hg' => by simp [hg] at hg', fun hne => absurd hnoted hne,
        fun n hn => by simp [hnoted] at hn, fun n hn => by simp [hnoted] at hn,
        fun hne => absurd hnoted hne⟩
  · rw [noted_of_bound hsince]
    have hreserved := h.reserved hsince
    exact ⟨fun _ => hsince, fun _ => hreserved.settles hs,
      fun n hn => Nat.le_trans (h.since_le n hn) hp.globalLength_le,
      fun n hn => hw n hreserved (h.places n hn), fun _ => h.result hsince⟩

theorem Guards.same (h : l.Guards name a c) (hg : c'.globals = c.globals)
    (hs : c.Settles c') (hp : c.program.Extends c'.program)
    (hw : ∀ id pos, c'.program.operation? id pos = some (.writeGlobal a) →
      c.program.operation? id pos = some (.writeGlobal a)) : l.Guards name a c' := by
  refine ⟨fun hb => h.bound ?_, fun hne => (h.reserved hne).settles hs,
    fun n hn => Nat.le_trans (h.since_le n hn) hp.globalLength_le,
    fun n hn id pos hop => h.places n hn id pos (hw id pos hop), h.result⟩
  simpa [Compiler.hasGlobal, Compiler.global?, hg] using hb

theorem Guards.compile {line : Int} {cmd : Command} {hint : ScopeHint} (h : l.Guards name a c)
    (hc : c.Reachable) (hcompile : c.compile line cmd = .ok (hint, c')) :
    Guards { l.noted name a c' with places := c.storePlaces c' cmd name a ++ l.places } name a c' := by
  refine h.change hc (hc.compile hcompile) (Compiler.settles_compile hcompile)
    (Compiler.widens_compile hcompile).program (fun n hr hw => hw.compile hc hr hcompile)
    fun hdepth id pos hid op hop => ?_
  obtain ⟨compiled, hcompiled, -⟩ := Compiler.command_of_compile hcompile
  refine (Compiler.operation?_compile hcompiled hcompile hop).resolve_right fun ⟨hcurrent, _⟩ => ?_
  exact hid (hcurrent.trans (Compiler.currentCode_of_depth hdepth))

theorem Guards.declareGlobal {other : Text} {readOnly : Bool} {address : Nat}
    (h : l.Guards name a c) (hc : c.Reachable)
    (hd : c.declareGlobal other readOnly = .ok (address, c')) :
    Guards (l.noted name a c') name a c' := by
  obtain ⟨-, symbol, -, hdeclares⟩ := Compiler.declareGlobal_ok hd
  have hprogram : c'.program = c.program := hdeclares.keeps.2.1
  have hchange : Guards { l.noted name a c' with places := [] ++ l.places } name a c' :=
    h.change hc (hc.declareGlobal hd) (Compiler.settles_declareGlobal hd)
      (Compiler.widens_declareGlobal hd).program
      (fun n _ hw id pos hop => hw id pos (hprogram ▸ hop))
      (fun _ id pos _ op hop => hprogram ▸ hop)
  have hplaces : (l.noted name a c').places = l.places := by
    unfold noted
    split <;> rfl
  rwa [List.nil_append, ← hplaces] at hchange

-- ---------------------------------------------------------------------------
-- The machine moves on
-- ---------------------------------------------------------------------------

theorem Tells.withMachine (h : l.Tells name a s) {machine : Machine}
    (hk : machine.global.constant? a = s.machine.global.constant? a)
    (hpc : s.machine.global.pc ≤ machine.global.pc) : l.Tells name a { s with machine } := by
  refine ⟨h.guards, fun hs => ?_, fun hs => ?_, fun ht => hk.trans (h.untouched ht)⟩
  · obtain ⟨n, hn, hle⟩ := h.passed hs
    exact ⟨n, hn, Nat.le_trans hle hpc⟩
  · obtain ⟨hne, hlatest⟩ := h.latest hs
    exact ⟨hne, hk.trans hlatest⟩

theorem Tells.noted (h : l.Tells name a s) {compiler : Compiler} {places : List (Nat × Nat)}
    (hg : Guards { l.noted name a compiler with places } name a compiler) :
    Tells { l.noted name a compiler with places } name a { s with compiler } := by
  obtain ⟨hstores, hsettled, htouched⟩ : (l.noted name a compiler).stores = l.stores ∧
      (l.noted name a compiler).settled = l.settled ∧
      (l.noted name a compiler).touched = l.touched := by
    unfold Ledger.noted
    split <;> simp
  refine ⟨hg, fun hs => ?_, fun hs => ?_, fun ht => h.untouched (htouched.symm.trans ht)⟩
  · obtain ⟨n, hn, hle⟩ := h.passed (hsettled.symm.trans hs)
    have hsame : l.noted name a compiler = l := noted_of_bound (by simp [hn]) compiler
    exact ⟨n, by simp [hsame, hn], hle⟩
  · rw [hstores]
    exact h.latest (hsettled.symm.trans hs)

/-- A value was written, for the variable itself if the ledger is settled. -/
theorem Tells.written (h : l.Tells name a s) {machine : Machine} {own : Bool} {k : Constant}
    (hk : machine.global.constant? a = some k) (hpc : s.machine.global.pc ≤ machine.global.pc)
    (hown : l.settled = true → own = true) :
    (l.written own k machine.global.pc).Tells name a { s with machine } := by
  obtain ⟨hbound, hreserved, hsince, hplaces, hresult⟩ := h.guards
  cases own with
  | true =>
    refine ⟨⟨hbound, hreserved, hsince, hplaces, hresult⟩, fun hs => ?_,
      fun _ => ⟨List.cons_ne_nil _ _, hk⟩, nofun⟩
    rcases Bool.or_eq_true_iff.mp hs with hs | hs
    · obtain ⟨n, hn, hle⟩ := h.passed hs
      exact ⟨n, hn, Nat.le_trans hle hpc⟩
    · have hpassed : ∃ n, l.since = some n ∧ n ≤ machine.global.pc := by
        simpa [Option.any_eq_true] using hs
      exact hpassed
  | false =>
    have hno (hs : l.settled = true) : False := Bool.false_ne_true (hown hs)
    exact ⟨⟨hbound, hreserved, hsince, hplaces, hresult⟩, fun hs => (hno hs).elim,
      fun hs => (hno hs).elim, nofun⟩

/-- When the code from before the variable has been passed, its slot is written only for
the variable itself. -/
theorem Guards.own (h : l.Guards name a s.compiler) (hg : s.Grounded) {n : Nat}
    (hn : l.since = some n) (hpassed : n ≤ s.machine.global.pc) {k : Constant}
    (hw : s.machine.writes? s.program = some (a, k)) : l.isOwn name s.program s.machine = true := by
  have hbound : l.since ≠ none := by simp [hn]
  rcases Machine.writes?_cases hw with hnext | ⟨hruns, operand, hnext⟩ | ⟨hzero, hnext⟩
  · obtain ⟨id, pos, hplace, hop, howner, rfl⟩ := Machine.next?_place hnext
    have hmem : (id, s.machine.current.pc) ∈ l.places := by
      refine (h.places n hn id _ hop).resolve_left fun ⟨hid, hlt⟩ => ?_
      -- Only the global frame runs the global code, and it is past that place.
      rcases s.machine.runs_cases with ⟨-, hcur, -⟩ | ⟨-, hcur, -⟩
      · rw [hcur] at hlt
        omega
      · exact hg.calls _ hcur (hid ▸ howner)
    simp [isOwn, hnext, hplace, hmem]
  · exact absurd hnext (hg.not_local hruns)
  · unfold isOwn
    split
    · rename_i operand hn'
      exact absurd hn' (hnext operand).1
    · rename_i operand hn'
      exact absurd hn' (hnext operand).2
    · exact decide_eq_true (h.result hbound hzero)

/-- What becomes of the slot and of the ledger `l` where the machine goes from `m` to
`m'`: nothing was written, or a value was, and then for the variable itself, provided `P`. -/
inductive Writes (l : Ledger) (a : Nat) (m m' : Machine) (P : Prop) : Ledger → Prop
  | nothing (hk : m'.global.constant? a = m.global.constant? a) : Writes l a m m' P l
  | value {own : Bool} {k : Constant} (hk : m'.global.constant? a = some k)
      (hown : l.since ≠ none → P → own = true) : Writes l a m m' P (l.written own k m'.global.pc)

theorem Guards.stepped (h : l.Guards name a s.compiler) (hg : s.Grounded) :
    l.Writes a s.machine (s.machine.step s.program).1
      (∀ n, l.since = some n → n ≤ s.machine.global.pc)
      (l.after name a (.stepped s.program s.machine)) := by
  have hslot := (Machine.step_global hg.sound hg.pos s.program).2 a
  simp only [after]
  cases hw : s.machine.writes? s.program with
  | none =>
    rw [hw] at hslot
    exact .nothing hslot
  | some w =>
    obtain ⟨address, k⟩ := w
    simp only [hw, Option.elim_some] at hslot ⊢
    by_cases ha : address = a
    · rw [if_pos ha.symm] at hslot
      rw [if_pos ha]
      refine .value hslot fun hbound hpassed => ?_
      obtain ⟨n, hn⟩ := Option.ne_none_iff_exists'.mp hbound
      exact h.own hg hn (hpassed n hn) (ha ▸ hw)
    · rw [if_neg (Ne.symm ha)] at hslot
      rw [if_neg ha]
      exact .nothing hslot

theorem Guards.stored (h : l.Guards name a s.compiler) (hg : s.Grounded) {other : Text}
    {symbol : Symbol} {v : Value} {machine : Machine}
    (hsymbol : s.compiler.global? other = some symbol)
    (hs : s.machine.setGlobal symbol.address v = .ok machine) :
    machine.global.pc = s.machine.global.pc ∧
      l.Writes a s.machine machine True (l.after name a (.stored other symbol.address v s.machine)) := by
  obtain ⟨hlt, rfl, k, hk⟩ := Session.setGlobal_stored hs
  obtain ⟨-, hslots⟩ := @Frame.Sound.afterStore _ _ symbol.address v s.machine.texts hg.sound hlt
  have hcontrol : (s.machine.global.afterStore symbol.address v s.machine.texts).control =
      s.machine.global.control := Frame.control_afterStore
  have hpc : (s.machine.global.afterStore symbol.address v s.machine.texts).pc =
      s.machine.global.pc := congrArg Control.pc hcontrol
  refine ⟨hpc, ?_⟩
  have hslot := hslots a
  simp only [hk, Option.elim_some] at hslot
  simp only [after, hk]
  by_cases ha : symbol.address = a
  · rw [if_pos ha.symm] at hslot
    rw [if_pos ha, ← hpc]
    have hown (hbound : l.since ≠ none) (_ : True) : decide (other = name) = true :=
      decide_eq_true ((h.reserved hbound).only other symbol hsymbol ha)
    exact @Writes.value l a s.machine { s.machine with global := _ } True _ k hslot hown
  · rw [if_neg (Ne.symm ha)] at hslot
    rw [if_neg ha]
    exact .nothing hslot

theorem Tells.writes (h : l.Tells name a s) {machine : Machine} {P : Prop} {l' : Ledger}
    (hw : l.Writes a s.machine machine P l') (hpc : s.machine.global.pc ≤ machine.global.pc)
    (hP : l.settled = true → P) : l'.Tells name a { s with machine } := by
  cases hw with
  | nothing hk => exact h.withMachine hk hpc
  | value hk hown =>
    refine h.written hk hpc fun hs => hown ?_ (hP hs)
    obtain ⟨n, hn, -⟩ := h.passed hs
    simp [hn]

end
end Ledger

namespace Session

section
variable {s s' : Session} {more : List Event} {l : Ledger} {name : Text} {a : Nat}

theorem Move.tells (hm : Move s more s') (hg : Grounded s) (h : l.Tells name a s) :
    (more.foldl (Ledger.after name a) l).Tells name a s' := by
  cases hm with
  | compiled hc => exact h.noted (h.guards.compile hg.compiler hc)
  | @entryCall line =>
    have hguards : l.Guards name a (s.compiler.appendEntryCall line) := by
      refine h.guards.same rfl (.of_eq rfl rfl) (Program.extends_append _ _ _) fun id pos hop => ?_
      refine (Program.operation?_append hop).resolve_right fun ⟨_, i, hi, _⟩ => ?_
      have hmem := List.mem_of_getElem? hi
      simp at hmem
    exact ⟨hguards, h.passed, h.latest, h.untouched⟩
  | declared hd => exact h.noted (h.guards.declareGlobal hg.compiler hd)
  | stored hsymbol hs =>
    obtain ⟨hpc, hwrites⟩ := h.guards.stored hg hsymbol hs
    exact h.writes hwrites (Nat.le_of_eq hpc.symm) fun _ => trivial
  | stepped =>
    refine h.writes (h.guards.stepped hg) (Machine.step_pc_le hg.rooted hg.pc_le).1 fun hs n hn => ?_
    obtain ⟨n', hn', hpassed⟩ := h.passed hs
    cases hn.symm.trans hn'
    exact hpassed
  | recovered => exact h.withMachine rfl hg.pc_le
  | registered hr =>
    obtain ⟨-, -, rfl⟩ := Compiler.registerPlugin_ok hr
    exact ⟨h.guards.same rfl (.of_eq rfl rfl) (.refl _) fun _ _ hop => hop, h.passed, h.latest,
      h.untouched⟩
  | plugin | texts | streams | noted => exact ⟨h.guards, h.passed, h.latest, h.untouched⟩

theorem Moves.tells (hm : Moves s more s') (hg : Grounded s) (h : l.Tells name a s) :
    (more.foldl (Ledger.after name a) l).Tells name a s' := by
  induction hm with
  | refl => exact h
  | snoc hm hlast ih =>
    rw [List.foldl_append]
    exact hlast.tells (hm.grounded hg) ih

-- ---------------------------------------------------------------------------
-- New sessions
-- ---------------------------------------------------------------------------

/-- The ledger of a session that has run nothing: variables that are there hold what they
are meant to. -/
def openLedger (s : Session) (name : Text) (a : Nat) : Ledger :=
  if s.compiler.hasGlobal name a then
    { since := some s.program.globalLength
      stores := (s.machine.global.constant? a).toList
      settled := true
      touched := true }
  else { touched := a < s.compiler.globalBase }

def ledger (s : Session) (name : Text) (a : Nat) (events : List Event) : Ledger :=
  events.foldl (Ledger.after name a) (s.openLedger name a)

/-- The slots that no variable of the global scope was given are Null. -/
def Blank (s : Session) : Prop :=
  Grounded s ∧ ∀ a, s.compiler.globalBase ≤ a → s.machine.global.constant? a = some .null

theorem blank_start (options : SessionOptions) : Blank (start options) := by
  refine ⟨grounded_start options, fun a _ => ?_⟩
  have hslot : (start options).machine.global.slot a = .null :=
    Frame.slot_new (.code globalCode) (frameSizeFor options.frameSize) a
  rw [Frame.constant?, hslot]
  rfl

theorem Blank.setGlobal (h : Blank s) (name : Text) (v : Value) : Blank (s.setGlobal name v).1 := by
  refine setGlobal_induct h fun symbol machine hsymbol hs => ?_
  refine ⟨(Move.stored hsymbol hs).grounded h.1, fun a ha => ?_⟩
  have ha : s.compiler.globalBase ≤ a := ha
  obtain ⟨hlt, rfl, k, hk⟩ := setGlobal_stored hs
  obtain ⟨-, hslots⟩ :=
    @Frame.Sound.afterStore _ _ symbol.address v s.machine.texts h.1.sound hlt
  have hne : a ≠ symbol.address := by
    have := (h.1.compiler.layout.globals name symbol hsymbol).1
    omega
  have hslot := hslots a
  rw [hk, Option.elim_some, if_neg hne] at hslot
  exact hslot.trans (h.2 a ha)

theorem Blank.registerGlobal (h : Blank s) (name : Text) (v : Value) (readOnly : Bool) :
    Blank (s.registerGlobal name v readOnly).1 := by
  rcases hd : s.compiler.declareGlobal name readOnly with e | ⟨address, compiler⟩
  · simpa only [Session.registerGlobal, hd] using h
  · rw [registerGlobal_eq hd]
    have hbase := (Compiler.settles_declareGlobal hd).base
    have hdeclared : Blank { s with compiler } :=
      ⟨(Move.declared hd).grounded h.1, fun a ha => h.2 a (Nat.le_trans hbase ha)⟩
    exact hdeclared.setGlobal name v

theorem Blank.registerPlugin (h : Blank s) (name : Text) (params : List ParameterKind)
    (call : Option Callback) : Blank (s.registerPlugin name params call).1 := by
  refine ⟨(moves_registerPlugin s name params call).grounded h.1, ?_⟩
  cases call with
  | none => exact h.2
  | some call =>
    refine registerPlugin_induct (I := fun s' => ∀ a, s'.compiler.globalBase ≤ a →
      s'.machine.global.constant? a = some .null) h.2 h.2 fun compiler hr => ?_
    obtain ⟨-, -, rfl⟩ := Compiler.registerPlugin_ok hr
    exact h.2

theorem blank_new {options : SessionOptions} (h : Session.new options = .ok s) : Blank s :=
  new_induct (blank_start options)
    (fun s _ hb => ⟨(Move.texts s _).grounded hb.1, hb.2⟩)
    (fun _ name v readOnly hb => hb.registerGlobal name v readOnly)
    (fun _ plugin _ hb => hb.registerPlugin plugin.name plugin.params _) h

theorem tells_new {options : SessionOptions} (h : Session.new options = .ok s) (name : Text)
    (a : Nat) : (s.openLedger name a).Tells name a s := by
  obtain ⟨hgrounded, hblank⟩ := blank_new h
  have hprogram : s.compiler.program = .empty := (fresh_new h).program
  unfold openLedger
  split
  · rename_i hg
    obtain ⟨k, hk⟩ := hgrounded.sound.constant a
    have hwritten : s.compiler.WrittenAt a s.program.globalLength [] := by
      intro id pos hop
      rw [hprogram] at hop
      obtain ⟨segment, hs, hop⟩ := Option.bind_eq_some_iff.mp hop
      rw [Program.operations_empty hs] at hop
      cases hop
    refine ⟨⟨fun _ => by simp, fun _ => hgrounded.compiler.reserved hg, ?_, ?_,
      fun _ hzero => hgrounded.compiler.returnSlot (hzero ▸ hg)⟩, fun _ => ?_, fun _ => ?_, by simp⟩
    · intro n hn
      exact Nat.le_of_eq (Option.some.inj hn).symm
    · intro n hn
      rw [← Option.some.inj hn]
      exact hwritten
    · refine ⟨_, rfl, ?_⟩
      have hzero : s.program.globalLength = 0 := by
        rw [Session.program, hprogram]
        rfl
      omega
    · simp [hk]
  · rename_i hg
    exact ⟨⟨fun hb => absurd hb hg, by simp, by simp, by simp, by simp⟩, by simp, by simp,
      fun ht => hblank a (by simpa using ht)⟩

/-- What a new session's ledger tells after any requests. -/
theorem tells_performAll {options : SessionOptions} (h : Session.new options = .ok s)
    (requests : List Request) (name : Text) (a : Nat) :
    (s.ledger name a (s.history requests)).Tells name a (s.performAll requests) :=
  (moves_performAll s requests).tells (grounded_new h) (tells_new h name a)

theorem getGlobal_value (hg : Grounded s) {symbol : Symbol}
    (hs : s.compiler.global? name = some symbol) :
    ∃ v texts, s.getGlobal name = ({ s with machine := { s.machine with texts } }, .ok v) ∧
      s.machine.texts.Extends texts ∧
      texts.constant? v = s.machine.global.constant? symbol.address := by
  have hlt : symbol.address < s.machine.frameSize := by
    rw [hg.size]
    exact hg.compiler.layout.global? hs
  obtain ⟨k, v, texts, hk, hload, htexts, hv, -⟩ :=
    hg.sound.load_ok symbol.address s.machine.texts
  have hget : s.machine.getGlobal symbol.address = .ok (v, { s.machine with texts }) := by
    have haddress : s.machine.globalAddress symbol.address = .ok symbol.address := by
      simp [Machine.globalAddress, hlt]
    simp [Machine.getGlobal, haddress, hload, bind, Except.bind, pure, Except.pure]
  exact ⟨v, texts, by simp only [Session.getGlobal, hs, hget], htexts, hv.trans hk.symm⟩

end
end Session

/-- What is read from the variable is what was last stored in it, if the ledger is
settled, and Null if nothing was written to its slot. -/
structure Ledger.Shows (l : Ledger) (value : Option Constant) : Prop where
  settled : l.settled = true → l.stores ≠ [] ∧ value = l.stores.head?
  untouched : l.touched = false → value = some .null

theorem Ledger.Tells.shows {l : Ledger} {name : Text} {a : Nat} {s : Session}
    (h : l.Tells name a s) {value : Option Constant} (hv : value = s.machine.global.constant? a) :
    l.Shows value := by
  subst hv
  exact ⟨h.latest, h.untouched⟩

/-- Whatever a session was asked for, and whatever failed: what the host gets of a global
variable, and what code that refers to it reads at any time, is what was last stored in
the variable as such, once that was done with the code from before the variable passed;
and it is Null as long as nothing was written to its slot. -/
theorem global_shows_own_value {options : SessionOptions} {s₀ : Session}
    (h : Session.new options = .ok s₀) (requests : List Request) (name : Text) (a : Nat) :
    (∀ symbol, (s₀.performAll requests).compiler.global? name = some symbol → symbol.address = a →
      ∃ v, ((s₀.performAll requests).getGlobal name).2 = .ok v ∧
        (s₀.ledger name a (s₀.history requests)).Shows
          (((s₀.performAll requests).getGlobal name).1.machine.texts.constant? v)) ∧
    ∀ before p m after, s₀.history requests = before ++ .stepped p m :: after →
      m.next? p = some (.readGlobal a) → m.current.skip = 0 →
      ∃ m', m.step p = (m', .ok .normal) ∧
        (s₀.ledger name a before).Shows (m'.texts.constant? m'.held) := by
  have hmoves := Session.moves_performAll s₀ requests
  have hgrounded := Session.grounded_new h
  constructor
  · rintro symbol hsymbol rfl
    obtain ⟨v, texts, hget, -, hvalue⟩ :=
      Session.getGlobal_value (hmoves.grounded hgrounded) hsymbol
    rw [hget]
    exact ⟨v, rfl, (Session.tells_performAll h requests name _).shows hvalue⟩
  · intro before p m after hevents hnext hskip
    obtain ⟨s, hs, rfl, rfl⟩ := hmoves.at_step hevents
    have hground := hs.grounded hgrounded
    have hlt : a < s.machine.frameSize := by
      obtain ⟨id, pos, -, hop, -⟩ := Machine.next?_place hnext
      obtain ⟨segment, hsegment, hop⟩ := Option.bind_eq_some_iff.mp hop
      have hrefers := hground.compiler.refers id segment hsegment _ (List.mem_of_getElem? hop)
      rw [hground.size]
      exact Int.ofNat_lt.mp hrefers.2
    obtain ⟨m', hstep, hvalue⟩ := Machine.step_readGlobal hground.sound hlt hnext hskip
    have htells := hs.tells hgrounded (Session.tells_new h name a)
    exact ⟨m', hstep, htells.shows hvalue⟩

def immediate : SessionOptions := { interactive := true, library := false }

/-- A variable that has a value, and a line that fails after that. -/
def settledRequests : List Request :=
  [.feed "VEM: X, 1 + 2 * 3", .feed "VEM: Y, 1 + 2 / 0", .feed "CE QUER VER ISSO: X"]

theorem global_shows_own_value_settled : ∃ s₀ v, Session.new immediate = .ok s₀ ∧
    ((s₀.performAll settledRequests).getGlobal "X").2 = .ok v ∧
    ((s₀.performAll settledRequests).getGlobal "X").1.machine.texts.constant? v = some (.int 7) := by
  have hfacts : ((Session.start immediate).performAll settledRequests).compiler.global? "X" =
        some { address := 1, global := true } ∧
      ((Session.start immediate).ledger "X" 1
        ((Session.start immediate).history settledRequests)).settled = true ∧
      ((Session.start immediate).ledger "X" 1
        ((Session.start immediate).history settledRequests)).stores = [.int 7] := by
    decide +kernel
  obtain ⟨hsymbol, hsettled, hstores⟩ := hfacts
  have hnew : Session.new immediate = .ok (Session.start immediate) := rfl
  obtain ⟨hhost, -⟩ := global_shows_own_value hnew settledRequests "X" 1
  obtain ⟨v, hv, hshows⟩ := hhost _ hsymbol rfl
  obtain ⟨-, hvalue⟩ := hshows.settled hsettled
  rw [hstores] at hvalue
  exact ⟨Session.start immediate, v, hnew, hv, hvalue⟩

/-- A variable whose first value cannot be computed. -/
def unsettledRequests : List Request := [.feed "VEM: X, 1 + 2 / 0"]

/-- Without a settled ledger there may be something else: no value was ever stored in the
variable, and what the host gets is the left side of the sum that could not be computed. -/
theorem hidden_value_shown : ∃ s₀, Session.new immediate = .ok s₀ ∧
    (s₀.performAll unsettledRequests).compiler.global? "X" =
      some { address := 1, global := true } ∧
    (s₀.ledger "X" 1 (s₀.history unsettledRequests)).stores = [] ∧
    ((s₀.performAll unsettledRequests).getGlobal "X").2.toOption = some (.int 1) := by
  refine ⟨Session.start immediate, rfl, ?_⟩
  decide +kernel

end Birl
