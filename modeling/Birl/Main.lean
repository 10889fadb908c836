import Birl.CommandLine
import Birl.Log.Line

/-!
# The program

Hands the arguments, standard input and the files that they name to the command, and writes what it
leaves behind.
-/

namespace Birl.CommandLine

def readAll (stream : IO.FS.Stream) : IO Text := do
  let mut bytes := ByteArray.empty
  repeat
    let more ← stream.read 65536
    if more.isEmpty then break
    bytes := bytes ++ more
  return ⟨bytes.toList⟩

/-- The number that the system gives to the failure of reading a directory. -/
def directoryCode : UInt32 := 21

def readFile (path : Text) : IO (Except FileError Text) := do
  try
    let bytes ← IO.FS.readBinFile path.toStringLossy
    return .ok ⟨bytes.toList⟩
  catch e =>
    return .error <| match e with
      | .inappropriateType _ code _ =>
        if code == directoryCode then .isDirectory else .notDirectory
      | _ => .missing

def pathsOf (options : Options) (directories : List Text) : List Text :=
  let sources := options.sources.filterMap fun source =>
    match source.origin with
    | .file path => some path
    | _ => none
  options.settingsPath :: sources ++
    directories.flatMap fun directory => Settings.fileNames.map (Settings.inDirectory directory)

def filesAt (paths : List Text) : IO Files := do
  let found ← paths.mapM fun path => return (path, ← readFile path)
  return fun path => (found.lookup path).getD (.error .missing)

def directoriesFrom (directory : Text) : List Text :=
  let names := (Text.splitBytes 47 directory.bytes).filter (!·.isEmpty)
  (List.range (names.length + 1)).reverse.map fun n =>
    "/" ++ Text.join "/" ((names.take n).map Text.mk)

/-- Random UUIDs of version 4. The system gives the seed. -/
def randomIdentity (seed n : Nat) : Text :=
  let (draw, generator) := randNat (mkStdGen (hash (seed, n)).toNat) 0 ((1 <<< 128) - 1)
  let variant := (randNat generator 8 11).1
  let digits := Quoted.hex 32 draw
  let piece (start length : Nat) := (digits.drop start).take length
  .ofChars (piece 0 8 ++ '-' :: piece 8 4 ++ '-' :: '4' :: piece 13 3 ++
    '-' :: Quoted.hex 1 variant ++ piece 17 3 ++ '-' :: piece 20 12)

def writeTo (stream : IO.FS.Stream) (t : Text) : IO Unit := do
  stream.write ⟨t.bytes.toArray⟩
  stream.flush

end Birl.CommandLine

open Birl CommandLine

def main (args : List String) : IO UInt32 := do
  let args := args.map Text.ofString
  let options := (Options.parse args).toOption.getD { help := true }
  let directories := directoriesFrom (Text.ofString (← IO.currentDir).toString)
  let idle := options.help || options.version
  let files ← filesAt (if idle then [] else pathsOf options directories)
  let input ← if idle then pure Text.empty else readAll (← IO.getStdin)
  let seed ← IO.rand 0 (1 <<< 120)
  let around : Surroundings :=
    { files, directories, input := .ofText input, identities := randomIdentity seed }
  let outcome := run around args
  writeTo (← IO.getStdout) outcome.out
  let stderr ← IO.getStderr
  for notice in outcome.notices do
    writeTo stderr <| match notice with
      | .message t => t
      | .event e => if outcome.jsonLog then e.jsonLine else e.plainLine
  return outcome.code.toNat.toUInt32
