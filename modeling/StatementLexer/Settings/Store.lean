import StatementLexer.Disk.Tree
import StatementLexer.Session.Fault
import StatementLexer.Settings.Basic

/-! # Where settings are kept

Settings are read from the file that the user names, or else from the first of three places that has
one: the current folder, the user's home, and the folder for the settings of all programs.
-/

namespace StatementLexer.Settings

def fileName : String := "mathc.toml"

def ofText (text : String) : Except SettingsFault Settings :=
  match Toml.read? text with
  | none => .error .notToml
  | some members =>
      match ofMembers? members with
      | none => .error .unexpectedContent
      | some settings => .ok settings

def load (shelf : Shelf) (path : String) : Except Fault Settings :=
  if !shelf.holds path then .error (.settings (.missing path))
  else
    match shelf path with
    | .error cause => .error (.disk cause)
    | .ok text => (ofText text).mapError .settings

structure Homes where
  home : Option String
  config : Option String

namespace Homes

/-- The folders that the environment names; a relative one for settings does not count. -/
def ofEnvironment (lookup : String → Option String) : Homes :=
  let home := (lookup "HOME").filter (· ≠ "")
  let named := (lookup "XDG_CONFIG_HOME").filter (·.startsWith "/")
  ⟨home, named <|> home.map (· ++ "/.config")⟩

/-- The places where a settings file may be, in order. -/
def places (h : Homes) : List String :=
  fileName :: (h.home.map (· ++ "/.config/mathc/" ++ fileName)).toList ++
    (h.config.map (· ++ "/mathc/" ++ fileName)).toList

end Homes

/-- The settings in the first of some places that has a file, the default settings if none has. -/
def search (shelf : Shelf) (places : List String) : Except Fault Settings :=
  match places.find? shelf.holds with
  | some path => load shelf path
  | none => .ok {}

def save (s : Settings) (tree : Tree) (start : Place) (path : String) : Except Fault Tree :=
  let folders : Except DiskFault Tree := match Tree.parent? path with
    | none => .ok tree
    | some parent => tree.makeFolders start parent
  (folders.bind fun tree => tree.write start path s.text).mapError .disk

end StatementLexer.Settings
