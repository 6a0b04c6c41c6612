import StatementLexer.Command.Help
import StatementLexer.Command.Invocation
import StatementLexer.Command.Log
import StatementLexer.Settings.Store

/-! # The command

From arguments, environment and files to what is printed. Settings are read before logging starts; the
arguments count for more than the settings.
-/

namespace StatementLexer.Command

structure World where
  arguments : List String
  lookup : String → Option String
  shelf : Shelf
  /-- The time that log lines carry. -/
  stamp : String

structure Outcome where
  exit : Nat
  stdout : String
  stderr : String
  deriving DecidableEq, Repr

/-- The settings file that was named, or the places to search. -/
def settingsPlaces (lookup : String → Option String) (i : Invocation) : List String :=
  match i.config with
  | some path => [path]
  | none => (Settings.Homes.ofEnvironment lookup).places

def loadSettings (w : World) (i : Invocation) : Except Fault Settings :=
  match i.config with
  | some path => Settings.load w.shelf path
  | none => Settings.search w.shelf (settingsPlaces w.lookup i)

def sessionOptions (s : Settings) (i : Invocation) : Options :=
  let base := s.options i.files
  { base with format := i.format.getD base.format, summary := base.summary || i.summary }

def logText (w : World) (s : Settings) (i : Invocation) (events : List Event) : String :=
  if i.verbose || s.verbose then
    String.join (events.map fun e => (LogLine.ofEvent e).render (!i.noColor) w.stamp)
  else ""

def failed (log : String) (fault : Fault) : Outcome :=
  ⟨1, "", log ++ fault.report ++ "\n"⟩

def runSession (w : World) (i : Invocation) : Outcome :=
  match loadSettings w i with
  | .error fault => failed "" fault
  | .ok settings =>
      let options := sessionOptions settings i
      let log := logText w settings i
      match Session.start options w.shelf with
      | .error fault => failed (log [.started options]) fault
      | .ok session =>
          let log := log (.started options :: session.events)
          match session.chunks with
          | .error fault => failed log fault
          | .ok chunks => ⟨0, String.join (chunks.map (·.text)), log⟩

def wanted (lookup : String → Option String) (arguments : List String) : List String :=
  match parse lookup arguments with
  | .ok i => settingsPlaces lookup i ++ i.files
  | .error _ => []

def run (w : World) : Outcome :=
  match parse w.lookup w.arguments with
  | .ok i => runSession w i
  | .error (.question q byName) => ⟨0, q.answer w.lookup byName, ""⟩
  | .error (.usage e) => ⟨2, "", e.report⟩

end StatementLexer.Command
