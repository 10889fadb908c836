import Birl.Host.Function
import Birl.Session

/-!
# Sessions inside a host program

What a host program does with a session: exchange globals, offer functions, and run code. Code runs
line by line, as in an interactive session.
-/

namespace Birl.Session

/-- A session for a host program. The sessions of a host share a source of identities, of which this
one gets what follows the first `drawn`. -/
def embedded (input : Input) (drawn : Nat)
    (identities : Nat → Text := fun _ => Library.blankIdentity) : Except Error Session :=
  Session.new { interactive := true, input, identities := fun n => identities (drawn + n) }

/-- Assigns a global variable, and declares it if there is none of that name. -/
def assign (s : Session) (name : Text) (v : HostValue) : Result Unit :=
  let (result, texts) := v.toValue s.machine.texts
  let s := { s with machine := { s.machine with texts } }
  match result with
  | .error fault => (s, .error (.plain fault))
  | .ok v =>
    match s.getGlobal name with
    | (s, .ok _) => s.setGlobal name v
    | (s, .error _) => s.registerGlobal name v false

/-- Reads a global variable as a host value of the closest type. -/
def fetch (s : Session) (name : Text) : Result HostValue :=
  match s.getGlobal name with
  | (s, .error e) => (s, .error e)
  | (s, .ok v) =>
    match HostValue.ofValue s.machine.texts v none with
    | .error fault => (s, .error (.plain fault))
    | .ok h => (s, .ok h)

def offer (s : Session) (name : Text) (f : HostOffer) : Result Unit :=
  match f.plugin name with
  | .error fault => (s, .error (.plain fault))
  | .ok plugin => s.registerPlugin plugin.name plugin.params (some plugin.call)

/-- Runs code and gives the result of the last call. Code inside an open block runs when a later
call closes it. -/
def eval (s : Session) (source : Text) : Result HostValue :=
  if s.quit then (s, .error (.plain .programHasQuit))
  else match s.feedSource source with
    | (s, .error e) => (s, .error e)
    | (s, .ok ()) => s.fetch returnName

/-- Runs a source file and then the entry point, if the file declares it. -/
def load (s : Session) (files : Files) (path : Text) : Result Unit :=
  match files path with
  | .error e => (s, .error (.plain (.unreadableFile path e)))
  | .ok content =>
    match s.eval (content.dropSuffix "\n") with
    | (s, .error e) => (s, .error e)
    | (s, .ok _) => s.runEntryPoint

end Birl.Session
