import Birl.Machine
import Birl.Text.Lower

/-!
# The standard library

Read-only globals and functions that every session has unless it is told otherwise.
-/

namespace Birl

def version : Text := "0.4.0"

namespace Library

/-- An identity with nothing random in it, for sessions that have no source of them. -/
def blankIdentity : Text := "00000000-0000-4000-8000-000000000000"

def globals : List (Text × Text) := [("BIRL_VERSAO", version), ("FRANGO_VAZIO", .empty)]

def measuring (f : Text → Nat) : Callback := fun texts args =>
  match texts.textOf (args.headD .null) with
  | .ok t => (.ok (.int (Int64.ofNat (f t))), texts)
  | .error fault => (.error fault, texts)

def changing (f : Text → Text) : Callback := fun texts args =>
  match texts.textOf (args.headD .null) with
  | .ok t =>
    let (v, texts) := texts.intern (.text (f t))
    (.ok v, texts)
  | .error fault => (.error fault, texts)

/-- Gives an identity. They come from outside: `identities n` is the one that is drawn when the text
that takes it gets the id `n`. No id is given twice, so every sequence of draws is of this form. -/
def identity (identities : Nat → Text) : Callback := fun texts _ =>
  let (v, texts) := texts.intern (.text (identities texts.next))
  (.ok v, texts)

/-- The Integer nearest to a Number, a half going away from zero. -/
def round : Callback := fun texts args =>
  let x := ((args.headD .null).numeric?).getD .zero
  match x.rounded.toInt64? with
  | some n => (.ok (.int n), texts)
  | none => (.error (.cannotRound x), texts)

def plugins (identities : Nat → Text) : List Plugin :=
  [{ name := "TAMANHO", params := [.known .text], call := measuring Text.runeCount },
    { name := "GRITA", params := [.known .text], call := changing Text.upperFull },
    { name := "SUSSURRA", params := [.known .text], call := changing Text.lowerFull },
    { name := "IDENTIDADE", call := identity identities },
    { name := "ARREDONDA", params := [.known .number], call := round }]

end Library
end Birl
