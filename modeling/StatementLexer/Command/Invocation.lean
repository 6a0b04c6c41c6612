import StatementLexer.Command.Argument

/-! # Reading the arguments

Arguments are taken from left to right. A value belongs to the option before it, or stands for a file;
it is looked at only when the next option is taken or the arguments end, so a mistake in it is reported
after one in the spelling of the next option. The environment fills in for options that were not given.
-/

namespace StatementLexer.Command

structure Invocation where
  files : List String
  format : Option OutputFormat
  config : Option String
  summary : Bool
  verbose : Bool
  noColor : Bool
  deriving DecidableEq, Repr

/-- Values that were taken and not looked at. -/
inductive Pending where
  | nothing
  | files (paths : List String)
  | option (setting : Setting) (value : Option String)
  deriving DecidableEq, Repr

structure Reading where
  files : List String
  format : Option OutputFormat
  config : Option String
  switches : List (Switch × Bool)
  pending : Pending
  /-- Only files follow. -/
  filesOnly : Bool
  deriving DecidableEq, Repr

inductive Stop where
  | usage (error : UsageError)
  /-- A question, asked by a letter or by its name. -/
  | question (q : Question) (byName : Bool)
  deriving DecidableEq, Repr

namespace Reading

def initial : Reading := ⟨[], none, none, [], .nothing, false⟩

/-- Takes a value for an option; each option is given once. -/
def store (r : Reading) (setting : Setting) (value : String) : Except UsageError Reading :=
  let label := (Flag.setting setting).label
  match setting with
  | .format =>
      if r.format.isSome then .error (.repeated label)
      else
        match OutputFormat.ofLabel? value with
        | some f => .ok { r with format := some f }
        | none => .error (.ofValue value label)
  | .config =>
      if r.config.isSome then .error (.repeated label)
      else if value = "" then .error (.valueRequired label)
      else .ok { r with config := some value }

def settle (r : Reading) : Except UsageError Reading :=
  let settled := { r with pending := .nothing }
  match r.pending with
  | .nothing => .ok settled
  | .files paths =>
      if paths.contains "" then .error (.valueRequired filesLabel)
      else .ok { settled with files := r.files ++ paths }
  | .option setting none => .error (.valueRequired (Flag.setting setting).label)
  | .option setting (some value) => settled.store setting value

def turnOn (r : Reading) (s : Switch) : Except UsageError Reading :=
  if r.switches.any (·.1 = s) then .error (.repeated (Flag.switch s).label)
  else .ok { r with switches := (s, true) :: r.switches }

def takeFile (r : Reading) (path : String) : Except UsageError Reading :=
  match r.pending with
  | .files paths => .ok { r with pending := .files (paths ++ [path]) }
  | _ => r.settle.map fun r => { r with pending := .files [path] }

def takeFlag (r : Reading) (flag : Flag) (byName : Bool) (attached : Option String) :
    Except Stop Reading :=
  match flag, attached with
  | .setting s, some value =>
      (r.settle.bind fun r => r.store s value).mapError .usage
  | .setting s, none =>
      (r.settle.map fun r => { r with pending := .option s none }).mapError .usage
  | _, some value => .error (.usage (.surplusValue value flag.label))
  | .switch s, none => (r.settle.bind fun r => r.turnOn s).mapError .usage
  | .question q, none => (r.settle.mapError .usage).bind fun _ => .error (.question q byName)

def takeName (r : Reading) (argument : List Char) : Except Stop Reading :=
  let name := argument.takeWhile (· != '=')
  let attached := match argument.drop name.length with
    | [] => none
    | _ :: value => some (String.ofList value)
  match Flag.ofName? (String.ofList name) with
  | none => .error (.usage (.unexpected ("--" ++ String.ofList name)))
  | some flag => r.takeFlag flag true attached

/-- The value attached to a letter: all that follows it, without an equals sign in front. -/
def attachedValue? : List Char → Option String
  | [] => none
  | '=' :: rest => some (String.ofList rest)
  | rest => some (String.ofList rest)

def takeLetters (r : Reading) : List Char → Except Stop Reading
  | [] => .ok r
  | c :: rest =>
      match Flag.ofLetter? c with
      | none => .error (.usage (.unexpected ("-" ++ String.singleton c)))
      | some (.setting s) => r.takeFlag (.setting s) false (attachedValue? rest)
      | some flag => (r.takeFlag flag false none).bind fun r => r.takeLetters rest

def take (r : Reading) (argument : String) : Except Stop Reading :=
  if r.filesOnly then (r.takeFile argument).mapError .usage
  else
    match argument.toList, r.pending with
    | ['-', '-'], _ => .ok { r with filesOnly := true }
    | '-' :: '-' :: name, _ => r.takeName name
    | '-' :: c :: rest, _ => r.takeLetters (c :: rest)
    | _, .option s none => .ok { r with pending := .option s (some argument) }
    | _, _ => (r.takeFile argument).mapError .usage

def switchValue (r : Reading) (lookup : String → Option String) (s : Switch) :
    Except UsageError Bool :=
  match r.switches.find? (·.1 = s), (Flag.switch s).envName?.bind lookup with
  | some (_, value), _ => .ok value
  | none, none => .ok false
  | none, some "true" => .ok true
  | none, some "false" => .ok false
  | none, some value => .error (.ofValue value (Flag.switch s).label)

def configValue (r : Reading) (lookup : String → Option String) :
    Except UsageError (Option String) :=
  let flag := Flag.setting .config
  match r.config, flag.envName?.bind lookup with
  | some path, _ => .ok (some path)
  | none, some "" => .error (.valueRequired flag.label)
  | none, named => .ok named

def finish (r : Reading) (lookup : String → Option String) : Except UsageError Invocation := do
  let r ← r.settle
  let summary ← r.switchValue lookup .summary
  let verbose ← r.switchValue lookup .verbose
  let config ← r.configValue lookup
  let noColor ← r.switchValue lookup .noColor
  if r.files.isEmpty then .error .filesRequired
  else return ⟨r.files, r.format, config, summary, verbose, noColor⟩

end Reading

def parse (lookup : String → Option String) (arguments : List String) : Except Stop Invocation :=
  (arguments.foldlM Reading.take Reading.initial).bind fun r =>
    (r.finish lookup).mapError .usage

end StatementLexer.Command
