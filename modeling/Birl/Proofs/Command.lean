import Birl.Proofs.Machine.Arithmetic
import Birl.Stream

/-!
# What commands ask for

The commands that work on variables, on plain values: a declaration, an assignment, a
conversion or an input asks for a value of the variable it names, and a comparison
for an outcome (`Command.asks`); a call asks for the values of its arguments
(`arguments?`). What the machine does to values of a store is what is asked of the
plain values that they stand for.
-/

namespace Birl

-- ---------------------------------------------------------------------------
-- Plain values
-- ---------------------------------------------------------------------------

/-- The value of an expression or the class of its first error; nothing where the
expression cannot be read. -/
def evaluate? (env : Text → Option Constant) (e : Expression) : Option (Except ErrorKind Constant) :=
  (read none (.before none) e).map (Tree.eval env)

def Constant.display : Constant → Text
  | null => nullText
  | int n => .ofInt n.toInt
  | number x => x.text
  | text t => t

def Constant.compare : Constant → Constant → Comparison
  | null, null => .equal
  | int x, int y => TextStore.compareInt64 x y
  | int x, number y => TextStore.compareNumbers (.ofInt64 x) y
  | number x, int y => TextStore.compareNumbers x (.ofInt64 y)
  | number x, number y => TextStore.compareNumbers x y
  | text s, text t => TextStore.compareTexts s t
  | _, _ => .notEqual

/-- Converts a plain value. Null has no number, and a text only if it is written as
one. -/
def Kind.convert : Kind → Constant → Except ErrorKind Constant
  | text, k => .ok (.text k.display)
  | _, .null => .error .type
  | integer, .int n => .ok (.int n)
  | integer, .number x => x.toInt64?.elim (.error .parseValue) fun n => .ok (.int n)
  | integer, .text t => t.trim.toInt64?.elim (.error .parseValue) fun n => .ok (.int n)
  | number, .int n => .ok (.number (.ofInt64 n))
  | number, .number x => .ok (.number x)
  | number, .text t =>
    match Reading.number t.trim.bytes with
    | .ok x => .ok (.number x)
    | .error _ => .error .parseValue

/-- The value that a parameter takes from an argument: an Integer becomes a Number where
one is wanted. -/
def ParameterKind.accept : ParameterKind → Constant → Except ErrorKind Constant
  | known .integer, .int n => .ok (.int n)
  | known .number, .int n => .ok (.number (.ofInt64 n))
  | known .number, .number x => .ok (.number x)
  | known .text, .text t => .ok (.text t)
  | _, _ => .error .type

/-- The values that parameters take from arguments, or the class of the first error;
nothing where an argument before it cannot be read. -/
def arguments? (env : Text → Option Constant) :
    List Expression → List ParameterKind → Option (Except ErrorKind (List Constant))
  | e :: args, kind :: kinds =>
    (evaluate? env e).bind fun value =>
      match value >>= kind.accept with
      | .error category => some (.error category)
      | .ok v => (arguments? env args kinds).map (Except.map (v :: ·))
  | _, _ => some (.ok [])

theorem length_arguments? {env : Text → Option Constant} {args : List Expression}
    {kinds : List ParameterKind} {vs : List Constant} (h : arguments? env args kinds = some (.ok vs))
    (hl : args.length = kinds.length) : vs.length = kinds.length := by
  induction args generalizing kinds vs with
  | nil =>
    obtain rfl : kinds = [] := List.eq_nil_of_length_eq_zero hl.symm
    cases h
    rfl
  | cons e args ih =>
    cases kinds with
    | nil => cases hl
    | cons kind kinds =>
      obtain ⟨value, -, h⟩ := Option.bind_eq_some_iff.mp h
      split at h
      · cases h
      · obtain ⟨r, hr, hvs⟩ := Option.map_eq_some_iff.mp h
        cases r with
        | error category => cases hvs
        | ok ws =>
          cases hvs
          exact congrArg (· + 1) (ih hr (Nat.succ.inj hl))

/-- What a command is to bring about: a value of the variable it names, or the outcome
of a comparison. -/
inductive Change where
  | assign (v : Constant)
  | compare (outcome : Comparison)

/-- Whether a command gives a value to the variable it names. -/
def CommandKind.assigns : CommandKind → Bool
  | declare | set | input _ | convert _ => true
  | _ => false

def CommandKind.prints : CommandKind → Bool
  | print | printLine | printDebug => true
  | _ => false

/-- What a command asks for where names have the values that `env` gives them, or the
class of its error. -/
def Command.asks (env : Text → Option Constant) (input : Input) (cmd : Command) :
    Option (Except ErrorKind Change) :=
  match cmd.kind with
  | .declare =>
    match cmd.args with
    | [] => some (.ok (.assign .null))
    | e :: _ => (evaluate? env e).map (Except.map .assign)
  | .set => (evaluate? env (cmd.args.headD [])).map (Except.map .assign)
  | .convert kind => (env cmd.name).map fun v => (kind.convert v).map .assign
  | .input kind =>
    match input.readLine.1 with
    | .failed _ => some (.error .other)
    | .full t | .last t => some ((kind.convert (.text t.chomp)).map .assign)
  | .compare => do
    let left ← evaluate? env (cmd.args.headD [])
    let right ← evaluate? env ((cmd.args.drop 1).headD [])
    return do
      let u ← left
      let v ← right
      return .compare (u.compare v)
  | _ => none

-- ---------------------------------------------------------------------------
-- Values of a store
-- ---------------------------------------------------------------------------

namespace TextStore

section
variable {s : TextStore} {v w : Value} {k k' : Constant}

theorem get_of_constant {id : Nat} (h : s.constant? (.text id) = some k) :
    ∃ t, s.get id = .ok t ∧ k = .text t := by
  obtain ⟨t, ht, rfl⟩ := constant?_text.mp h
  exact ⟨t, by simp [TextStore.get, ht], rfl⟩

theorem compare_constant (hv : s.constant? v = some k) (hw : s.constant? w = some k') :
    s.compare v w = .ok (k.compare k') := by
  cases v with
  | text i =>
    obtain ⟨x, hx, rfl⟩ := get_of_constant hv
    cases w with
    | text j =>
      obtain ⟨y, hy, rfl⟩ := get_of_constant hw
      simp only [TextStore.compare, hx, hy]
      rfl
    | _ => cases hw; rfl
  | _ =>
    cases hv
    cases w with
    | text j =>
      obtain ⟨y, hy, rfl⟩ := get_of_constant hw
      rfl
    | _ => cases hw; rfl

theorem assertKind_ok (kind : ParameterKind) (hv : s.constant? v = some k) :
    match kind.accept k with
    | .ok w => ∃ x, v.assertKind kind = .ok x ∧ s.constant? x = some w
    | .error category => ∃ fault, v.assertKind kind = .error fault ∧ fault.kind = category := by
  cases v with
  | text id =>
    obtain ⟨t, -, rfl⟩ := constant?_text.mp hv
    cases kind with
    | unknown code => exact ⟨_, rfl, rfl⟩
    | known kind =>
      cases kind with
      | text => exact ⟨_, rfl, hv⟩
      | _ => exact ⟨_, rfl, rfl⟩
  | _ =>
    cases hv
    cases kind with
    | unknown code => exact ⟨_, rfl, rfl⟩
    | known kind => cases kind <;> exact ⟨_, rfl, rfl⟩

structure Converts (expected : Except ErrorKind Constant) (result : StoreResult) : Prop where
  wellFormed : result.2.WellFormed
  agrees : match expected with
    | .ok w => ∃ x, result.1 = .ok x ∧ result.2.constant? x = some w
    | .error kind => ∃ fault, result.1 = .error fault ∧ fault.kind = kind

theorem toInteger_ok (hs : s.WellFormed) (hv : s.constant? v = some k) :
    Converts (Kind.convert .integer k) (s.toInteger v) := by
  refine ⟨hs.toInteger v, ?_⟩
  cases v with
  | null => cases hv; exact ⟨_, rfl, rfl⟩
  | int n => cases hv; exact ⟨_, rfl, rfl⟩
  | number x =>
    cases hv
    cases hx : x.toInt64? with
    | some n => simp [Kind.convert, TextStore.toInteger, hx, constant?]
    | none => simp [Kind.convert, TextStore.toInteger, hx, Fault.kind]
  | text id =>
    obtain ⟨t, ht, rfl⟩ := constant?_text.mp hv
    obtain ⟨taken, htake, -⟩ := take_ok hs ht
    cases hn : t.trim.toInt64? with
    | some n => simp [Kind.convert, TextStore.toInteger, htake, hn, constant?]
    | none => simp [Kind.convert, TextStore.toInteger, htake, hn, Fault.kind]

theorem toNumber_ok (hs : s.WellFormed) (hv : s.constant? v = some k) :
    Converts (Kind.convert .number k) (s.toNumber v) := by
  refine ⟨hs.toNumber v, ?_⟩
  cases v with
  | null => cases hv; exact ⟨_, rfl, rfl⟩
  | int n => cases hv; exact ⟨_, rfl, rfl⟩
  | number x => cases hv; exact ⟨_, rfl, rfl⟩
  | text id =>
    obtain ⟨t, ht, rfl⟩ := constant?_text.mp hv
    obtain ⟨taken, htake, -⟩ := take_ok hs ht
    cases hx : Reading.number t.trim.bytes with
    | ok x => simp [Kind.convert, TextStore.toNumber, htake, hx, constant?]
    | error _ => simp [Kind.convert, TextStore.toNumber, htake, hx, Fault.kind]

theorem toText_ok (hs : s.WellFormed) (hv : s.constant? v = some k) :
    Converts (Kind.convert .text k) (s.toText v) := by
  refine ⟨hs.toText v, ?_⟩
  cases v with
  | text id =>
    obtain ⟨t, ht, rfl⟩ := constant?_text.mp hv
    exact ⟨_, rfl, hv⟩
  | _ =>
    cases hv
    exact ⟨_, rfl, (intern_ok s (.text _)).2.1⟩

end
end TextStore
end Birl
