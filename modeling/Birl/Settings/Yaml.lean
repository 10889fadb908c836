import Birl.Settings.Yaml.Meaning

/-!
# YAML settings files

The entries of the first document of a file. References stand for the nodes they mean, and the tables
that a table merges give it what it does not set itself. Settings are at most two tables deep, and
nothing below that is looked at.
-/

namespace Birl.Yaml

/-- The key whose value is merged into its table. -/
def isMerge : Node → Bool
  | .scalar w =>
    let tagged := w.tag?.any (isTag "merge")
    w.text = "<<" && (tagged || (w.plain && w.tag?.all (isOneOf ["!"])))
  | _ => false

def isSameKey : Node → Node → Bool
  | .scalar v, .scalar w => v.text = w.text
  | .reference m _, .reference n _ => m = n
  | .list _, .list _ => true
  | .table _, .table _ => true
  | _, _ => false

def keysDiffer : List (Node × Node) → Bool
  | [] => true
  | (key, _) :: pairs => !pairs.any (fun (other, _) => isSameKey key other) && keysDiffer pairs

namespace Document

/-- The text of a key, which must be a scalar; a null is no key. -/
def keyText? (d : Document) (key : Node) : Option (Option Text) :=
  match d.target key with
  | .scalar w =>
    match w.entry with
    | .null => some none
    | .scalar s => s.text?.map some
    | _ => none
  | _ => none

def pairs? (d : Document) (n : Node) : Option (List (Node × Node)) :=
  match d.target n with
  | .table pairs => some pairs
  | _ => none

/-- The tables that a node merges: itself, or the items of a list. -/
def merged? (d : Document) : Node → Option (List (List (Node × Node)))
  | .list items => items.mapM d.pairs?
  | n => (d.pairs? n).map ([·])

/-- The fields of a table: its own, then those of the tables it merges that are not set yet. A table
that merges itself has none. -/
def fields? (d : Document) : (fuel : Nat) → List (Node × Node) → Option (List (Text × Node))
  | 0, _ => none
  | fuel + 1, pairs =>
    if !keysDiffer pairs then none
    else do
      let own ← (pairs.filter fun (key, _) => !isMerge key).mapM fun (key, value) =>
        (d.keyText? key).map fun text? => text?.map fun text => (text, value)
      let own := own.filterMap id
      match pairs.find? fun (key, _) => isMerge key with
      | none => return own
      | some (_, source) =>
        (← d.merged? source).foldlM (fun fields pairs => do
          let more ← d.fields? fuel pairs
          return fields ++ more.filter fun (key, _) => (fields.lookup key).isNone) own

/-- The entry of a node, with tables up to a depth. -/
def entry (d : Document) : (depth : Nat) → Node → Entry
  | 0, n =>
    match d.target n with
    | .scalar w => w.entry
    | _ => .list
  | depth + 1, n =>
    match d.target n with
    | .scalar w => w.entry
    | .table pairs =>
      -- Every table that another merges is one of the document's.
      match d.fields? (d.size + 1) pairs with
      | some fields => .table (fields.map fun (key, value) => (key, d.entry depth value))
      | none => .list
    | _ => .list

end Document

/-- The entries of a file; one without a document has none. -/
def document? (t : Text) : Option Entry := do
  let d ← Document.ofTokens? (tokens (← characters? t))
  return d.entry 2 d.root

end Birl.Yaml
