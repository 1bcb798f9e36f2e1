import ServiceRegistry.Files.Path
import ServiceRegistry.Stream

/-!
# File trees

A `FileTree` holds the files and folders that the program can see, the folder in which it works and
the home folder of the account under which it runs.
Looking up a path walks the tree part by part, and the first part that cannot be taken decides the
fault: a part under a file, a part that is too long, a part that is not there. There are no links.
-/

namespace ServiceRegistry

/-- What stands at a place of the tree. -/
inductive FileNode where
  | file (content : Bytes)
  | folder
deriving DecidableEq

/-- Names of folders from the root downwards, and the name of the file or folder itself. -/
abbrev Place := List (List Char)

/-- Files and folders, the folder where relative paths start, and where the account is at home. -/
structure FileTree where
  nodes : List (Place × FileNode) := []
  workingFolder : Place := []
  /-- The home folder that the account database names, if it names one. -/
  accountHome : Option Path := some "/root".toList

namespace FileTree

/-- The number of bytes of a text in UTF-8. -/
def byteSize : List Char → Nat
  | [] => 0
  | c :: rest => c.utf8Size + byteSize rest

/-- The largest number of bytes of one name. -/
def maxName : Nat := 255

/-- The smallest number of bytes that a path cannot have. -/
def pathLimit : Nat := 4096

/-- What stands at a place. The root is always there. -/
def node? (t : FileTree) (place : Place) : Option FileNode :=
  if place.isEmpty then some .folder else t.nodes.lookup place

/-- Takes one part of a path from a place that is reached. -/
def step (t : FileTree) (here : Place × FileNode) (part : List Char) :
    Except Fault (Place × FileNode) :=
  match here.2 with
  | .file _ => .error .notADirectory
  | .folder =>
    if part = [] ∨ part = ['.'] then .ok here
    else if part = ['.', '.'] then .ok (here.1.dropLast, .folder)
    else if maxName < byteSize part then .error .nameTooLong
    else match t.node? (here.1 ++ [part]) with
      | some node => .ok (here.1 ++ [part], node)
      | none => .error .missing

/-- The place that a path leads to and what stands there. -/
def find (t : FileTree) (p : Path) : Except Fault (Place × FileNode) :=
  if p.contains '\x00' then .error .nulInPath
  else if p.isEmpty then .error .missing
  else if pathLimit ≤ byteSize p then .error .nameTooLong
  else p.parts.foldlM t.step (if p.isAbsolute then [] else t.workingFolder, .folder)

/-- Whether a path leads to a folder. -/
def isFolder (t : FileTree) (p : Path) : Bool :=
  match t.find p with
  | .ok (_, .folder) => true
  | _ => false

/-- Whether a path leads anywhere. -/
def isThere (t : FileTree) (p : Path) : Bool := (t.find p).isOk

/-- Opens a file or folder; only reading a folder shows that it is none. -/
def openStream (t : FileTree) (p : Path) : Except Fault Stream :=
  match t.find p with
  | .ok (_, .file content) => .ok (.ofBytes content)
  | .ok (_, .folder) => .ok [.fault .isADirectory]
  | .error fault => .error fault

/-- The whole text of a file. -/
def readText (t : FileTree) (p : Path) : Except Fault String := do
  let bytes ← (← t.openStream p).readAll
  match bytes.text? with
  | some text => .ok text
  | none => .error .notText

/-- The names directly under a place, and whether each is a folder. -/
def childrenAt (t : FileTree) (place : Place) : List (List Char × Bool) :=
  t.nodes.filterMap fun (other, node) =>
    match other.getLast? with
    | some name => if other.dropLast = place then some (name, node = .folder) else none
    | none => none

/-- The names in a folder, and whether each is a folder. -/
def list (t : FileTree) (p : Path) : Except Fault (List (List Char × Bool)) :=
  match t.find p with
  | .ok (place, .folder) => .ok (t.childrenAt place)
  | .ok (_, .file _) => .error .notADirectory
  | .error fault => .error fault

/-- The place that a path names, without looking whether anything is there. -/
def placeOf (t : FileTree) (p : Path) : Place :=
  p.components.foldl
    (fun place c => match c with
      | .root => []
      | .current => place
      | .parent => place.dropLast
      | .normal name => place ++ [name])
    t.workingFolder

/-- Puts a node at a place, in place of what stands there. -/
def setNode (t : FileTree) (place : Place) (node : FileNode) : FileTree :=
  { t with nodes := t.nodes.filter (·.1 ≠ place) ++ [(place, node)] }

/-- Makes a place a folder unless something stands there. -/
def ensureFolder (t : FileTree) (place : Place) : FileTree :=
  if (t.node? place).isSome then t else t.setNode place .folder

/-- Makes all places from the root down to the given one folders, where nothing stands. -/
def ensureFolders (t : FileTree) (place : Place) : FileTree :=
  (List.range (place.length + 1)).foldl (fun t n => t.ensureFolder (place.take n)) t

/-- Writes a file, with the folders that lead to it. -/
def write (t : FileTree) (p : Path) (content : Bytes) : FileTree :=
  let place := t.placeOf p
  (t.ensureFolders place.dropLast).setNode place (.file content)

/-- Makes a folder, with the folders that lead to it. -/
def makeFolder (t : FileTree) (p : Path) : FileTree := t.ensureFolders (t.placeOf p)

/-- Removes a file, or a folder with all it holds. -/
def remove (t : FileTree) (p : Path) : FileTree :=
  let place := t.placeOf p
  { t with nodes := t.nodes.filter fun n => !place.isPrefixOf n.1 }

/-- The text of the working folder's path. -/
def workingPath (t : FileTree) : Path := t.workingFolder.flatMap fun name => '/' :: name

end FileTree

end ServiceRegistry
