import Birl.Command
import Birl.Keyword
import Birl.Token

/-!
# Keyword phrases

A command is recognised by the words its line starts with, in folded form. Where several phrases fit
the longest one counts.
-/

namespace Birl.Phrase

def table : List (CommandKind × List Text) :=
  CommandKind.all.map fun kind => (kind, kind.phrase.map Keyword.fold)

def leadingWords (tokens : List Token) : List Text :=
  (tokens.takeWhile fun t => t.kind.isWord).map fun t => Keyword.fold t.lexeme

/-- The longest phrase that `words` start with, as the kind of command and the number of words. -/
def longest? (words : List Text) (best : Option (CommandKind × Nat)) :
    List (CommandKind × List Text) → Option (CommandKind × Nat)
  | [] => best
  | (kind, phrase) :: rest =>
    let better := phrase.isPrefixOf words && (best.map Prod.snd).getD 0 < phrase.length
    longest? words (if better then some (kind, phrase.length) else best) rest

/-- The command that a line starts with, and the number of tokens of its phrase. -/
def match? (tokens : List Token) : Option (CommandKind × Nat) :=
  longest? (leadingWords tokens) none table

end Birl.Phrase
