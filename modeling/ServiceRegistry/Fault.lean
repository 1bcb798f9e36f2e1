import ServiceRegistry.Text.Decimal

/-!
# Faults of reading and listing

A fault is what an operating system or a module answers in place of an entry's bytes or of a
listing: a kind, which decides how the fault is treated, and a text for people.
-/

namespace ServiceRegistry

/-- The classes into which faults fall. -/
inductive Fault.Kind where
  | notFound
  | permissionDenied
  | notADirectory
  | isADirectory
  | invalidInput
  | invalidData
  | invalidFilename
  | interrupted
  | unexpectedEof
  | other
  /-- Any further class, by its name. -/
  | named (name : String)
deriving DecidableEq

/-- Why an entry or a listing could not be read. -/
structure Fault where
  kind : Fault.Kind
  text : String
deriving DecidableEq

namespace Fault

/-- The text of a fault that the operating system reports under a number. -/
def numbered (kind : Kind) (text : String) (code : Nat) : Fault :=
  ⟨kind, text ++ " (os error " ++ Decimal.text code ++ ")"⟩

/-- Nothing is there. -/
def missing : Fault := numbered .notFound "No such file or directory" 2

/-- Something on the way is not a directory. -/
def notADirectory : Fault := numbered .notADirectory "Not a directory" 20

/-- A directory was read as if it were a file. -/
def isADirectory : Fault := numbered .isADirectory "Is a directory" 21

/-- A path or a part of it is too long. -/
def nameTooLong : Fault := numbered .invalidFilename "File name too long" 36

/-- A path holds the character that ends paths. -/
def nulInPath : Fault := ⟨.invalidInput, "file name contained an unexpected NUL byte"⟩

/-- Bytes that should have been text are not. -/
def notText : Fault := ⟨.invalidData, "stream did not contain valid UTF-8"⟩

end Fault

end ServiceRegistry
