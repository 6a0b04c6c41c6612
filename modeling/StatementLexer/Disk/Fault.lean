/-! # Disk faults

Why a file cannot be read or written. The texts are those of the operating system.
-/

namespace StatementLexer

inductive DiskFault where
  | notFound
  | alreadyExists
  | notDirectory
  | isDirectory
  | nameTooLong
  /-- A path holds a null character. -/
  | nullInName
  /-- The bytes of a file are no text. -/
  | notText
  /-- A fault that the device itself reports. -/
  | device (text : String)
  deriving DecidableEq, Repr

namespace DiskFault

def message : DiskFault → String
  | notFound => "No such file or directory (os error 2)"
  | alreadyExists => "File exists (os error 17)"
  | notDirectory => "Not a directory (os error 20)"
  | isDirectory => "Is a directory (os error 21)"
  | nameTooLong => "File name too long (os error 36)"
  | nullInName => "file name contained an unexpected NUL byte"
  | notText => "stream did not contain valid UTF-8"
  | device text => text

def ofNumber? : Nat → Option DiskFault
  | 2 => some notFound
  | 17 => some alreadyExists
  | 20 => some notDirectory
  | 21 => some isDirectory
  | 36 => some nameTooLong
  | _ => none

/-- The fault is one of the path: it leads to nothing. -/
def isAbsence : DiskFault → Bool
  | notFound => true
  | notDirectory => true
  | nameTooLong => true
  | nullInName => true
  | _ => false

end DiskFault

abbrev Shelf := String → Except DiskFault String

/-- Something stands under the path, be it readable or not. -/
def Shelf.holds (shelf : Shelf) (path : String) : Bool :=
  match shelf path with
  | .ok _ => true
  | .error fault => !fault.isAbsence

end StatementLexer
