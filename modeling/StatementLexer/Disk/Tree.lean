import StatementLexer.Disk.Fault

/-! # File trees

Files and folders under one root, and the rules by which a path finds its way: names are followed from
folder to folder, `.` stays, `..` goes back, and a slash at the end asks for a folder.
-/

namespace StatementLexer

/-- The names that lead from the root to a place. -/
abbrev Place := List String

inductive Entry where
  | file (bytes : ByteArray)
  | folder

/-- The entries that were made, the newest first. A folder on the way to an entry needs none of its
own. -/
structure Tree where
  entries : List (Place × Entry)

namespace Tree

def empty : Tree := ⟨[]⟩

def get? (t : Tree) (place : Place) : Option Entry :=
  match t.entries.find? (·.1 = place) with
  | some (_, entry) => some entry
  | none =>
      if place = [] ∨ t.entries.any (fun (p, _) => place.isPrefixOf p) then some .folder else none

def put (t : Tree) (place : Place) (entry : Entry) : Tree :=
  ⟨(place, entry) :: t.entries⟩

/-- The names of a path, empty where two slashes meet or one ends it. -/
def names (path : String) : List String :=
  path.splitOn "/"

/-- The longest name and the longest path, in bytes. -/
def nameLimit : Nat := 255

@[inherit_doc nameLimit]
def pathLimit : Nat := 4095

/-- One name of a path, from a place that has to be a folder. -/
def follow (t : Tree) (place : Place) (name : String) : Except DiskFault Place :=
  match t.get? place with
  | none => .error .notFound
  | some (.file _) => .error .notDirectory
  | some .folder =>
      if name = "" ∨ name = "." then .ok place
      else if name = ".." then .ok place.dropLast
      else if nameLimit < name.utf8ByteSize then .error .nameTooLong
      else .ok (place ++ [name])

/-- Where a path leads from a folder; a path that starts with a slash leads from the root. The last
name need not stand for anything. -/
def resolve (t : Tree) (start : Place) (path : String) : Except DiskFault Place :=
  if path.contains '\x00' then .error .nullInName
  else if pathLimit < path.utf8ByteSize then .error .nameTooLong
  else
    match names path with
    | [""] => .error .notFound
    | "" :: rest => rest.foldlM t.follow []
    | all => all.foldlM t.follow start

def read (t : Tree) (start : Place) (path : String) : Except DiskFault String := do
  let place ← t.resolve start path
  match t.get? place with
  | none => .error .notFound
  | some .folder => .error .isDirectory
  | some (.file bytes) =>
      match String.fromUTF8? bytes with
      | some text => .ok text
      | none => .error .notText

def shelf (t : Tree) (start : Place) : Shelf :=
  t.read start

def stem (path : String) : String :=
  String.ofList (path.toList.reverse.dropWhile (· == '/')).reverse

def write (t : Tree) (start : Place) (path text : String) : Except DiskFault Tree := do
  if path ≠ "" ∧ stem path = "" then .error .isDirectory
  else
    let place ← t.resolve start (stem path)
    match t.get? place, t.get? place.dropLast with
    | some .folder, _ => .error .isDirectory
    | _, none => .error .notFound
    | _, some (.file _) => .error .notDirectory
    | _, some .folder =>
        if stem path ≠ path then .error .isDirectory
        else .ok (t.put place (.file text.toUTF8))

/-- The parts of a path: repeated slashes, a slash at the end and a `.` behind the beginning do not
count. -/
def parts (path : String) : List String :=
  match names path with
  | [] => []
  | first :: rest =>
      (if first = "" then [] else [first]) ++ rest.filter fun name => name ≠ "" ∧ name ≠ "."

def parent? (path : String) : Option String :=
  match parts path with
  | [] => none
  | all => some ((if path.startsWith "/" then "/" else "") ++ "/".intercalate all.dropLast)

def makeFolder (t : Tree) (start : Place) (path : String) : Except DiskFault Tree := do
  let place ← t.resolve start path
  match t.get? place with
  | some _ => .error .alreadyExists
  | none =>
      match t.get? place.dropLast with
      | none => .error .notFound
      | some (.file _) => .error .notDirectory
      | some .folder => .ok (t.put place .folder)

def isFolder (t : Tree) (start : Place) (path : String) : Bool :=
  match t.resolve start path with
  | .error _ => false
  | .ok place =>
      match t.get? place with
      | some .folder => true
      | _ => false

/-- Makes a folder and those on the way to it that are missing; `depth` bounds their number. -/
def makeFoldersWithin (start : Place) : Nat → Tree → String → Except DiskFault Tree
  | 0, _, _ => .error .notFound
  | depth + 1, t, path =>
      if path = "" then .ok t
      else
        let settle (t : Tree) (fault : DiskFault) : Except DiskFault Tree :=
          if t.isFolder start path then .ok t else .error fault
        match t.makeFolder start path with
        | .ok t => .ok t
        | .error .notFound =>
            match parent? path with
            | none => .error .notFound
            | some parent => do
                let t ← makeFoldersWithin start depth t parent
                match t.makeFolder start path with
                | .ok t => .ok t
                | .error fault => settle t fault
        | .error fault => settle t fault

@[inherit_doc makeFoldersWithin]
def makeFolders (t : Tree) (start : Place) (path : String) : Except DiskFault Tree :=
  makeFoldersWithin start ((names path).length + 1) t path

end Tree

end StatementLexer
