import Birl.Host.Value
import Birl.Machine

/-!
# Functions of the host

A host function becomes a plugin if its parameters are of types that the language has kinds for and
it gives at most one value, with or without a reason for a failure after it.
-/

namespace Birl

structure HostFunction where
  params : List HostType
  /-- Whether the last parameter takes any number of arguments. -/
  variadic : Bool := false
  results : List HostType := []
  /-- Gives the value, nothing if the function has none, or the reason for a failure. -/
  call : List HostValue → Except Text HostValue

inductive HostOffer where
  | function (f : HostFunction)
  /-- Something of another type, or no function of a function type. -/
  | notFunction (typeName : Text)

namespace HostFunction

/-- The kinds of the parameters, the first of them with number `position`. -/
def kinds (name : Text) (position : Nat) : List HostType → Except Fault (List ParameterKind)
  | [] => .ok []
  | t :: ts =>
    match t.kind with
    | .error fault => .error (.within (name ++ ": parameter " ++ Text.ofNat position) fault)
    | .ok kind => (kinds name (position + 1) ts).map (.known kind :: ·)

def values (f : HostFunction) : List HostType :=
  if f.results.getLast? = some .failure then f.results.dropLast else f.results

def arguments (texts : TextStore) (position : Nat) :
    List Value → List HostType → Except Fault (List HostValue)
  | v :: vs, t :: ts =>
    match HostValue.ofValue texts v (some t) with
    | .error fault => .error (.within ("argument " ++ Text.ofNat position) fault)
    | .ok h => (arguments texts (position + 1) vs ts).map (h :: ·)
  | _, _ => .ok []

def callback (f : HostFunction) : Callback := fun texts args =>
  match arguments texts 1 args f.params with
  | .error fault => (.error fault, texts)
  | .ok args =>
    match f.call args with
    | .error reason => (.error (.host reason), texts)
    | .ok result => if f.values.isEmpty then (.ok .null, texts) else result.toValue texts

end HostFunction

def HostOffer.plugin (name : Text) : HostOffer → Except Fault Plugin
  | notFunction typeName => .error (.notFunction name typeName)
  | function f => do
    if f.variadic then throw (.variadicFunction name)
    let params ← HostFunction.kinds name 1 f.params
    if f.values.length > 1 then throw (.severalResults name)
    return { name, params, call := f.callback }

end Birl
