import StatementLexer.Command.Run
import Std.Time

/-! # The program

Collects what the command can see, runs it, and prints what it leaves.
-/

namespace StatementLexer.Command

def variableNames : List String :=
  ["MATHC_VERBOSE", "MATHC_CONFIG", "MATHC_NO_COLOR", "HOME", "XDG_CONFIG_HOME"]

/-- What an operating system error says about a file; its number may come negated. -/
def diskFault (e : IO.Error) : DiskFault :=
  let known (code : UInt32) : DiskFault :=
    let number := min code.toNat (Nat.pow 2 32 - code.toNat)
    (DiskFault.ofNumber? number).getD (.device (toString e))
  match e with
  | .noFileOrDirectory _ code _ => known code
  | .inappropriateType _ code _ => known code
  | .alreadyExists _ code _ => known code
  | _ => .device (toString e)

def readText (path : String) : IO (Except DiskFault String) := do
  try
    match String.fromUTF8? (← IO.FS.readBinFile path) with
    | some text => return .ok text
    | none => return .error .notText
  catch e => return .error (diskFault e)

def lookupIn {α : Type} (pairs : List (String × α)) (key : String) : Option α :=
  (pairs.find? (·.1 = key)).map (·.2)

def timeStamp : IO String := do
  let now := Std.Time.DateTime.ofTimestamp (← Std.Time.Timestamp.now) .UTC
  return now.format "uuuu-MM-dd'T'HH:mm:ss.SSSSSS'Z'"

def thisWorld (arguments : List String) : IO World := do
  let environment ← variableNames.filterMapM fun name => do
    return (← IO.getEnv name).map (name, ·)
  let lookup := lookupIn environment
  let texts ← (wanted lookup arguments).mapM fun path => do
    return (path, ← readText path)
  let shelf : Shelf := fun path => (lookupIn texts path).getD (.error .notFound)
  return ⟨arguments, lookup, shelf, ← timeStamp⟩

end StatementLexer.Command

def main (arguments : List String) : IO UInt32 := do
  let outcome := StatementLexer.Command.run (← StatementLexer.Command.thisWorld arguments)
  IO.print outcome.stdout
  IO.eprint outcome.stderr
  return UInt32.ofNat outcome.exit
