import Birl.Proofs.Host
import Birl.Proofs.Session.Ledger

/-!
# Values of the host persist

A host that has assigned a variable gets the value back, in the form that the language
gives back values of its kind, until something else is stored in the variable or until
code runs that was compiled before the variable had its slot (`host_value_persists`).
Such code is there where a return has stopped the global code within a block, and it may
still use the slot for variables of the block.
-/

namespace Birl

namespace HostValue

/-- The host value of the type closest to a plain value. -/
def ofConstant : Constant → HostValue
  | .null => nothing
  | .int n => integer (.ofInt64 n)
  | .number x => double x
  | .text t => string t

/-- What becomes of a value that is assigned and then fetched: integers come back with 64
bits, numbers with double precision, truth values as 1 or 0, strings as they are, and no
value of any kind as no value. Pointers stand for what they point to. -/
def returned (v : HostValue) : Option HostValue :=
  match v.target with
  | integer n => (HostInteger.ofInt? (.signed .bits64) n.value).map integer
  | single x | double x => some (double x)
  | truth b => (HostInteger.ofInt? (.signed .bits64) (if b then 1 else 0)).map integer
  | string t => some (string t)
  | nothing | none _ => some nothing
  | value _ | pointer _ | foreign _ => .none

theorem ofInt?_toInt64 {n : HostInteger} {i : Int64} (h : n.toInt64? = some i) :
    HostInteger.ofInt? (.signed .bits64) n.value = some (.ofInt64 i) :=
  HostInteger.ofInt?_eq_some.mpr ⟨rfl, HostInteger.toInt64?_eq_some.mp h⟩

theorem target_ne (v x : HostValue) : v.target ≠ pointer x := by
  induction v with
  | pointer v ih => exact ih
  | _ => nofun

/-- A value that comes into the language is a constant that is put into the store. -/
theorem toValue_ok {texts texts' : TextStore} {v : HostValue} {w : Value}
    (hv : ∀ x, v ≠ .value x) (h : v.toValue texts = (.ok w, texts')) :
    ∃ k, v.returned = some (ofConstant k) ∧ texts.intern k = (w, texts') := by
  have hdirect : v.toValue texts = v.target.toValueDirect texts := by
    cases v with
    | value x => exact absurd rfl (hv x)
    | _ => rfl
  rw [hdirect] at h
  unfold returned
  cases hu : v.target with rw [hu] at h
  | nothing =>
    cases h
    exact ⟨.null, rfl, rfl⟩
  | integer n =>
    simp only [toValueDirect] at h
    split at h
    · rename_i i hi
      cases h
      exact ⟨.int i, by simp [ofInt?_toInt64 hi, ofConstant], rfl⟩
    · cases h
  | single x | double x =>
    cases h
    exact ⟨.number x, rfl, rfl⟩
  | truth b =>
    cases h
    refine ⟨.int (if b then 1 else 0), ?_, rfl⟩
    cases b <;> rfl
  | string t =>
    cases h
    exact ⟨.text t, rfl, rfl⟩
  | none t =>
    cases t with
    | pointer | any | failure =>
      cases h
      exact ⟨.null, rfl, rfl⟩
    | _ => cases h
  | pointer x => exact absurd hu (target_ne v x)
  | value x | foreign t => cases h

theorem ofValue_constant {texts : TextStore} {v : Value} {k : Constant}
    (h : texts.constant? v = some k) : ofValue texts v .none = .ok (ofConstant k) := by
  cases v with
  | text id =>
    obtain ⟨t, ht, rfl⟩ := TextStore.constant?_text.mp h
    simp [ofValue, natural, TextStore.get, ht, ofConstant, Except.map, bind, Except.bind, pure,
      Except.pure]
  | _ =>
    cases h
    rfl

end HostValue

namespace Compiler

-- ---------------------------------------------------------------------------
-- Variables that may be written
-- ---------------------------------------------------------------------------

/-- The global variable of a name has this slot, and code may change it. -/
def Writable (c : Compiler) (name : Text) (a : Nat) : Prop :=
  ∃ s, c.global? name = some s ∧ s.address = a ∧ s.readOnly = false

section
variable {c c' : Compiler} {name other : Text} {a : Nat} {symbol : Symbol}

theorem Writable.hasGlobal (h : c.Writable name a) : c.hasGlobal name a = true := by
  obtain ⟨s, hs, ha, -⟩ := h
  exact hasGlobal_iff.mpr ⟨s, hs, ha⟩

theorem Writable.declare (h : c.Writable name a) (hd : c.declare other false = .ok (symbol, c')) :
    c'.Writable name a := by
  obtain ⟨s, hs, ha, hw⟩ := h
  rcases Nat.eq_zero_or_pos c.depth with hdepth | hdepth
  · have hinner := innermost_of_depth_zero hdepth
    have hset (vars : Bindings) := setInnermost_of_depth_zero vars hdepth
    by_cases hname : other = name
    · subst hname
      have hfound : c.globals.find? other = some s := hs
      simp only [Compiler.declare, hinner, hfound, hw, hset] at hd
      cases hd
      exact ⟨{ s with readOnly := false }, by simp [global?, Bindings.find?_put], ha, rfl⟩
    · refine ⟨s, ?_, ha, hw⟩
      cases declares_of_ok hd <;>
        simpa [global?, hset, hinner, Bindings.find?_put, Ne.symm hname] using hs
  · refine ⟨s, ?_, ha, hw⟩
    have hglobals (vars : Bindings) := setInnermost_globals vars hdepth
    cases declares_of_ok hd <;> simpa [global?, hglobals] using hs

theorem Writable.compile (h : c.Writable name a) {line : Int} {cmd : Command} {hint : ScopeHint}
    (hc : c.compile line cmd = .ok (hint, c')) : c'.Writable name a := by
  obtain ⟨code, c₁, hemits, rfl⟩ := compile_ok hc
  have hemitted : c₁.Writable name a := by
    cases hemits with
    | assign _ ht =>
      cases ht with
      | visible => exact h
      | declared hd => exact h.declare hd
    | _ => exact h
  exact hemitted

theorem Writable.declareGlobal (h : c.Writable name a) {address : Nat}
    (hd : c.declareGlobal other false = .ok (address, c')) : c'.Writable name a := by
  simp only [Compiler.declareGlobal, check_ok, bind_ok, pure_ok] at hd
  obtain ⟨-, ⟨symbol, c''⟩, hdeclare, he⟩ := hd
  cases he
  exact h.declare hdeclare

end
end Compiler

def Request.isHosted : Request → Bool
  | .assign _ _ | .fetch _ | .eval _ => true
  | _ => false

namespace Session

section
variable {s s' : Session} {more : List Event} {l : Ledger} {name : Text} {a : Nat}

theorem compiler_setGlobal (s : Session) (name : Text) (v : Value) :
    (s.setGlobal name v).1.compiler = s.compiler :=
  setGlobal_induct (I := fun s' => s'.compiler = s.compiler) rfl fun _ _ _ _ => rfl

theorem compiler_getGlobal (s : Session) (name : Text) :
    (s.getGlobal name).1.compiler = s.compiler :=
  getGlobal_induct (I := fun s' => s'.compiler = s.compiler) rfl fun _ _ => rfl

theorem compiler_fetch (s : Session) (name : Text) : (s.fetch name).1.compiler = s.compiler := by
  rw [fetch_fst, compiler_getGlobal]

theorem compiler_runAndRecover (s : Session) : s.runAndRecover.1.compiler = s.compiler := by
  rcases hrun : s.machine.run s.program with ⟨machine, r⟩
  obtain ⟨log, heq⟩ := runAndRecover_eq hrun
  rw [heq]
  cases r <;> rfl

theorem writable_feed (h : s.compiler.Writable name a) (source : Text) :
    (s.feed source).1.compiler.Writable name a := by
  rcases s.feed_cases source with ⟨cmd, hint, compiler, hl, hc⟩ | ⟨-, hfeed⟩
  · obtain ⟨s', ⟨log, rfl⟩, hfeed⟩ := feed_compiled hl hc
    have hcompiled : compiler.Writable name a := h.compile hc
    rw [hfeed]
    split
    · exact hcompiled
    · rw [compiler_runAndRecover]
      exact hcompiled
  · rw [hfeed]
    exact h

theorem writable_feedLines (h : s.compiler.Writable name a) (lines : List Text) :
    (s.feedLines lines).1.compiler.Writable name a := by
  induction lines generalizing s with
  | nil => exact h
  | cons line rest ih =>
    have hfeed := writable_feed h line
    simp only [feedLines]
    rcases hf : s.feed line with ⟨s', e | ⟨⟩⟩
    all_goals rw [hf] at hfeed
    · exact hfeed
    · simp only
      split
      · exact hfeed
      · exact ih hfeed

theorem writable_registerGlobal (h : s.compiler.Writable name a) (other : Text) (v : Value) :
    (s.registerGlobal other v false).1.compiler.Writable name a := by
  rcases hd : s.compiler.declareGlobal other false with e | ⟨address, compiler⟩
  · simpa only [registerGlobal, hd] using h
  · rw [registerGlobal_eq hd, compiler_setGlobal]
    exact h.declareGlobal hd

/-- What a host program asks for leaves variables that may be written where they are. -/
theorem writable_perform (h : s.compiler.Writable name a) {request : Request}
    (hr : request.isHosted = true) : (s.perform request).compiler.Writable name a := by
  cases request with
  | assign other v =>
    simp only [perform, assign]
    rcases v.toValue s.machine.texts with ⟨e | w, texts⟩
    · exact h
    · have hget := compiler_getGlobal { s with machine := { s.machine with texts } } other
      rcases hg : getGlobal { s with machine := { s.machine with texts } } other with ⟨s', e | _⟩
      all_goals
        rw [hg] at hget
        have hs' : s'.compiler.Writable name a := by
          rw [hget]
          exact h
      · exact writable_registerGlobal hs' other w
      · simp only [compiler_setGlobal]
        exact hs'
  | fetch other =>
    simp only [perform, compiler_fetch]
    exact h
  | eval source =>
    have hfeed := writable_feedLines h source.lines
    simp only [perform, eval, feedSource]
    split
    · exact h
    · rcases hf : s.feedLines source.lines with ⟨s', e | ⟨⟩⟩
      all_goals rw [hf] at hfeed
      · exact hfeed
      · simp only [compiler_fetch]
        exact hfeed
  | _ => cases hr

theorem writable_performAll (h : s.compiler.Writable name a) {requests : List Request}
    (hr : ∀ request ∈ requests, request.isHosted = true) :
    (s.performAll requests).compiler.Writable name a := by
  induction requests generalizing s with
  | nil => exact h
  | cons request rest ih =>
    obtain ⟨hrequest, hrest⟩ := List.forall_mem_cons.mp hr
    exact ih (writable_perform h hrequest) hrest

-- ---------------------------------------------------------------------------
-- Assigning and reading
-- ---------------------------------------------------------------------------

theorem fetch_value (hg : Grounded s) (hs : s.compiler.hasGlobal name a = true) {k : Constant}
    (hk : s.machine.global.constant? a = some k) : (s.fetch name).2 = .ok (.ofConstant k) := by
  obtain ⟨symbol, hsymbol, rfl⟩ := Compiler.hasGlobal_iff.mp hs
  obtain ⟨v, texts, hget, -, hv⟩ := getGlobal_value hg hsymbol
  rw [hk] at hv
  simp only [fetch, hget, HostValue.ofValue_constant hv]

theorem setGlobal_notes (hg : Grounded s) {v : Value} {k : Constant}
    (h : (s.setGlobal name v).2 = .ok ()) (hk : s.machine.texts.constant? v = some k)
    (ha : s.compiler.hasGlobal name a = true) (l : Ledger) :
    ((s.setEvents name v).foldl (Ledger.after name a) l).stores.head? = some k ∧
      (s.setGlobal name v).1.machine.global.constant? a = some k := by
  obtain ⟨symbol, hsymbol, rfl⟩ := Compiler.hasGlobal_iff.mp ha
  rcases hs : s.machine.setGlobal symbol.address v with e | machine
  · simp [setGlobal, hsymbol, hs] at h
  · obtain ⟨hlt, rfl, -⟩ := setGlobal_stored hs
    obtain ⟨-, hslots⟩ := @Frame.Sound.afterStore _ _ symbol.address v s.machine.texts hg.sound hlt
    have hslot := hslots symbol.address
    rw [hk, Option.elim_some, if_pos rfl] at hslot
    constructor
    · simp [setEvents, hsymbol, hs, Ledger.after, hk, Ledger.written]
    · simp only [setGlobal, hsymbol, hs]
      exact hslot

theorem registerGlobal_notes (hg : Grounded s) {v : Value} {k : Constant} {readOnly : Bool}
    (h : (s.registerGlobal name v readOnly).2 = .ok ()) (hk : s.machine.texts.constant? v = some k)
    (ha : (s.registerGlobal name v readOnly).1.compiler.hasGlobal name a = true) (l : Ledger) :
    ((s.registerEvents name v readOnly).foldl (Ledger.after name a) l).stores.head? = some k ∧
      (s.registerGlobal name v readOnly).1.machine.global.constant? a = some k := by
  rcases hd : s.compiler.declareGlobal name readOnly with e | ⟨address, compiler⟩
  · simp [registerGlobal, hd] at h
  · rw [registerGlobal_eq hd] at h ha ⊢
    rw [compiler_setGlobal] at ha
    simp only [registerEvents, hd, List.foldl_cons]
    exact setGlobal_notes ((Move.declared hd).grounded hg) h hk ha _

theorem assign_notes (hg : Grounded s) {v : HostValue} (hv : ∀ x, v ≠ .value x)
    (h : (s.assign name v).2 = .ok ())
    (ha : (s.assign name v).1.compiler.hasGlobal name a = true) (l : Ledger) :
    ∃ k, v.returned = some (.ofConstant k) ∧
      ((s.assignEvents name v).foldl (Ledger.after name a) l).stores.head? = some k ∧
      (s.assign name v).1.machine.global.constant? a = some k := by
  rcases hvalue : v.toValue s.machine.texts with ⟨e | w, texts⟩
  all_goals simp only [assign, assignEvents, hvalue] at h ha ⊢
  · cases h
  · obtain ⟨k, hreturned, hintern⟩ := HostValue.toValue_ok hv hvalue
    have htexts := (Move.texts s texts).grounded hg
    have hstands {texts' : TextStore} (hext : texts.Extends texts') :
        texts'.constant? w = some k := by
      rw [← show (s.machine.texts.intern k).1 = w from congrArg Prod.fst hintern]
      exact TextStore.Extends.intern (by rwa [hintern])
    refine ⟨k, hreturned, ?_⟩
    cases hb : s.compiler.global? name with
    | some symbol =>
      obtain ⟨_, texts', hget, hext, -⟩ := getGlobal_value htexts hb
      rw [hget] at h ha ⊢
      rw [compiler_setGlobal] at ha
      exact setGlobal_notes ((Move.texts s texts').grounded hg) h (hstands hext) ha l
    | none =>
      have hget : getGlobal { s with machine := { s.machine with texts } } name =
          ({ s with machine := { s.machine with texts } },
            .error (.plain (.unknownVariable name))) := by
        simp only [getGlobal, hb]
      rw [hget] at h ha ⊢
      exact registerGlobal_notes htexts h (hstands .refl) ha l

-- ---------------------------------------------------------------------------
-- From an assignment on
-- ---------------------------------------------------------------------------

theorem ledger_append (s : Session) (name : Text) (a : Nat) (before more : List Event) :
    s.ledger name a (before ++ more) = more.foldl (Ledger.after name a) (s.ledger name a before) :=
  List.foldl_append

end
end Session

namespace Ledger

section
variable {l l' : Ledger} {name : Text} {a n : Nat} {m m' : Machine} {P : Prop}

theorem since_written (own : Bool) (k : Constant) (pc : Nat) : (l.written own k pc).since = l.since := by
  unfold written
  split <;> rfl

theorem since_after (h : l.since = some n) (e : Event) : (l.after name a e).since = some n := by
  have hbound : l.since ≠ none := by simp [h]
  cases e with
  | compiled before cmd after => simpa only [Ledger.after, noted_of_bound hbound] using h
  | declared after => simpa only [Ledger.after, noted_of_bound hbound] using h
  | stored other address v m =>
    simp only [Ledger.after]
    split
    · split
      · rw [since_written, h]
      · exact h
    · exact h
  | stepped p m =>
    simp only [Ledger.after]
    split
    · split
      · rw [since_written, h]
      · exact h
    · exact h
  | recovered => exact h

theorem since_foldl (h : l.since = some n) (more : List Event) :
    (more.foldl (Ledger.after name a) l).since = some n := by
  induction more generalizing l with
  | nil => exact h
  | cons e rest ih => exact ih (since_after h e)

/-- A slot that holds the latest value holds it after a write for the variable itself. -/
theorem Writes.latest (hw : l.Writes a m m' P l') (hb : l.since ≠ none) (hP : P)
    (hk : m.global.constant? a = l.stores.head?) : m'.global.constant? a = l'.stores.head? := by
  cases hw with
  | nothing hsame => exact hsame.trans hk
  | value hvalue hown =>
    rw [written, if_pos (hown hb hP)]
    exact hvalue

end
end Ledger

namespace Session

section
variable {s s' : Session} {more : List Event} {l : Ledger} {name : Text} {a n : Nat}

theorem Move.latest (hm : Move s more s') (hg : Grounded s) (h : l.Guards name a s.compiler)
    (hn : l.since = some n) (hp : ∀ p m, .stepped p m ∈ more → n ≤ m.global.pc)
    (hk : s.machine.global.constant? a = l.stores.head?) :
    s'.machine.global.constant? a = (more.foldl (Ledger.after name a) l).stores.head? := by
  have hbound : l.since ≠ none := by simp [hn]
  cases hm with
  | compiled hc =>
    simp only [List.foldl_cons, List.foldl_nil, Ledger.after, Ledger.noted_of_bound hbound]
    exact hk
  | declared hd =>
    simp only [List.foldl_cons, List.foldl_nil, Ledger.after, Ledger.noted_of_bound hbound]
    exact hk
  | stored hsymbol hs => exact (h.stored hg hsymbol hs).2.latest hbound trivial hk
  | stepped =>
    refine (h.stepped hg).latest hbound (fun n' hn' => ?_) hk
    cases hn.symm.trans hn'
    exact hp _ _ List.mem_cons_self
  | _ => exact hk

/-- A slot that holds the latest value of a variable does so as long as no code from
before the variable runs. -/
theorem Moves.latest (hm : Moves s more s') (hg : Grounded s) (h : l.Tells name a s)
    (hn : l.since = some n) (hp : ∀ p m, .stepped p m ∈ more → n ≤ m.global.pc)
    (hk : s.machine.global.constant? a = l.stores.head?) :
    s'.machine.global.constant? a = (more.foldl (Ledger.after name a) l).stores.head? := by
  induction hm with
  | refl => exact hk
  | snoc hm hlast ih =>
    rw [List.foldl_append]
    exact hlast.latest (hm.grounded hg) (hm.tells hg h).guards (Ledger.since_foldl hn _)
      (fun p m hmem => hp p m (List.mem_append_right _ hmem))
      (ih fun p m hmem => hp p m (List.mem_append_left _ hmem))

end
end Session

/-- Once a host has assigned a variable, it gets the value back, whatever it assigns, reads
and runs later, and whatever fails: until something else is stored in the variable, and
until code runs that was compiled before the variable had its slot. A variable that the
language does not let code write may be replaced by one that code declares. -/
theorem host_value_persists {input : Input} {drawn : Nat} {identities : Nat → Text} {s₀ : Session}
    (h : Session.embedded input drawn identities = .ok s₀) {requests assigned later all : List Request}
    {name : Text} {v : HostValue} {a : Nat} (hv : ∀ x, v ≠ .value x)
    (hset : ((s₀.performAll requests).assign name v).2 = .ok ())
    (hassigned : assigned = requests ++ [.assign name v]) (hall : all = assigned ++ later)
    (ha : (s₀.performAll assigned).compiler.hasGlobal name a = true)
    (hlater : ∀ request ∈ later, request.isHosted = true)
    (hfixed : ¬(s₀.performAll assigned).compiler.Writable name a →
      (s₀.performAll all).compiler.hasGlobal name a = true)
    (hstores : (s₀.ledger name a (s₀.history all)).stores =
      (s₀.ledger name a (s₀.history assigned)).stores)
    (hpassed : ∀ n, (s₀.ledger name a (s₀.history assigned)).since = some n →
      ∀ p m, .stepped p m ∈ (s₀.performAll assigned).history later → n ≤ m.global.pc) :
    ∃ w, v.returned = some w ∧ ((s₀.performAll all).fetch name).2 = .ok w := by
  have hgrounded (requests : List Request) : (s₀.performAll requests).Grounded :=
    (Session.moves_performAll s₀ requests).grounded (Session.grounded_new h)
  have htells := Session.tells_performAll h assigned name a
  have hassign : s₀.performAll assigned = ((s₀.performAll requests).assign name v).1 := by
    rw [hassigned, Session.performAll_append]
    rfl
  -- The value is the latest of the ledger and is in the slot.
  obtain ⟨k, hreturned, hlatest, hslot⟩ := Session.assign_notes (hgrounded requests) hv hset
    (hassign ▸ ha) (s₀.ledger name a (s₀.history requests))
  have hledger : (s₀.ledger name a (s₀.history assigned)).stores.head? = some k := by
    rw [hassigned, Session.history_append, Session.ledger_append, ← hlatest]
    simp [Session.history, Session.events]
  rw [← hassign] at hslot
  obtain ⟨n, hn⟩ := Option.ne_none_iff_exists'.mp (htells.guards.bound ha)
  -- It stays there.
  have hend : (s₀.performAll all).machine.global.constant? a = some k := by
    have hmoves := Session.moves_performAll (s₀.performAll assigned) later
    have hkept := hmoves.latest (hgrounded assigned) htells hn (hpassed n hn)
      (hslot.trans hledger.symm)
    rw [← Session.performAll_append, ← Session.ledger_append, ← Session.history_append, ← hall,
      hstores, hledger] at hkept
    exact hkept
  have hglobal : (s₀.performAll all).compiler.hasGlobal name a = true := by
    by_cases hw : (s₀.performAll assigned).compiler.Writable name a
    · rw [hall, Session.performAll_append]
      exact (Session.writable_performAll hw hlater).hasGlobal
    · exact hfixed hw
  exact ⟨_, hreturned, Session.fetch_value (hgrounded all) hglobal hend⟩

def hostSession : Session := (Session.embedded {} 0).toOption.getD (Session.start {})

theorem embedded_hostSession : Session.embedded {} 0 = .ok hostSession :=
  eq_ok_getD (by decide +kernel) _

def seven : HostValue := .integer ⟨.signed .word, 7, by decide⟩

/-- A block of the global code that a return leaves before it declares a variable. -/
def stoppedBlock : Text := "É ELE QUE A GENTE QUER: 1, 1\nÉ ELE MEMO\nBIRL\nVEM: Y, 5\nFIM"

/-- Code that fails, and then an assignment. -/
def assigningSeven : List Request := [.eval "VEM: A, 1 / 0", .assign "N" seven]

/-- Code that is stopped, and code that finds it left to run. -/
def stoppedLater : List Request := [.eval stoppedBlock, .assign "M" seven, .eval "CE QUER VER ISSO: N"]

/-- A step of the machine has the global code before the place behind it. -/
def Event.stepsFrom (place : Nat) : Event → Bool
  | .stepped _ m => place ≤ m.global.pc
  | _ => true

theorem host_value_persists_stopped : seven.returned = some (.integer (.ofInt64 7)) ∧
    ((hostSession.performAll (assigningSeven ++ stoppedLater)).fetch "N").2 =
      .ok (.integer (.ofInt64 7)) := by
  have hfacts :
      ((hostSession.performAll [.eval "VEM: A, 1 / 0"]).assign "N" seven).2.toBool = true ∧
      (hostSession.performAll assigningSeven).compiler.hasGlobal "N" 4 = true ∧
      (hostSession.performAll (assigningSeven ++ stoppedLater)).compiler.hasGlobal "N" 4 = true ∧
      (hostSession.ledger "N" 4 (hostSession.history (assigningSeven ++ stoppedLater))).stores =
        (hostSession.ledger "N" 4 (hostSession.history assigningSeven)).stores ∧
      (hostSession.ledger "N" 4 (hostSession.history assigningSeven)).since = some 5 ∧
      ((hostSession.performAll assigningSeven).history stoppedLater).all (Event.stepsFrom 5) = true := by
    decide +kernel
  obtain ⟨hset, hglobal, hlast, hstores, hsince, hsteps⟩ := hfacts
  have hset : ((hostSession.performAll [.eval "VEM: A, 1 / 0"]).assign "N" seven).2 = .ok () := by
    cases hs : ((hostSession.performAll [.eval "VEM: A, 1 / 0"]).assign "N" seven).2 with
    | ok u => rfl
    | error e =>
      rw [hs] at hset
      cases hset
  have hhosted : ∀ request ∈ stoppedLater, request.isHosted = true := by
    simp [stoppedLater, Request.isHosted]
  have hnovalue : ∀ x, seven ≠ .value x := by
    intro x hx
    cases hx
  have hassigned : assigningSeven = [.eval "VEM: A, 1 / 0"] ++ [.assign "N" seven] := rfl
  obtain ⟨w, hw, hfetch⟩ := host_value_persists embedded_hostSession hnovalue hset hassigned rfl
    hglobal hhosted (fun _ => hlast) hstores fun n hn p m hmem => by
      cases hsince.symm.trans hn
      exact of_decide_eq_true (List.all_eq_true.mp hsteps _ hmem)
  have hseven : seven.returned = some (.integer (.ofInt64 7)) := by decide +kernel
  cases hw.symm.trans hseven
  exact ⟨hseven, hfetch⟩

/-- A block that was stopped, an assignment, and code that lets the block go on. -/
def stoppedBefore : List Request :=
  [.eval stoppedBlock, .assign "N" seven, .eval "CE QUER VER ISSO: N"]

/-- Code from before the variable may write its slot: the only value that was stored in the
variable is 7, and what the host gets is the value of a variable of the block. -/
theorem host_value_overwritten :
    (hostSession.performAll stoppedBefore).compiler.hasGlobal "N" 3 = true ∧
    (hostSession.ledger "N" 3 (hostSession.history stoppedBefore)).stores = [.int 7] ∧
    ((hostSession.performAll stoppedBefore).fetch "N").2.toOption =
      some (.integer (.ofInt64 5)) := by
  decide +kernel

end Birl
