/-!
# Paths of files

A path is a text of parts between slashes; one that starts with a slash is absolute. Paths are
joined as texts, without resolving anything. `Path.components` is the view that does not see
repeated slashes, a slash at the end, or `.` anywhere but at the start.
-/

namespace ServiceRegistry

/-- The text of a path. -/
abbrev Path := List Char

namespace Path

/-- What a path is made of. -/
inductive Component where
  /-- The slash that makes a path absolute. -/
  | root
  /-- A dot at the start of a relative path. -/
  | current
  /-- Two dots. -/
  | parent
  /-- The name of a file or folder. -/
  | normal (name : List Char)
deriving DecidableEq

/-- Whether the path starts at the root. -/
def isAbsolute (p : Path) : Bool := p.head? == some '/'

/-- The texts between the slashes. -/
def parts : Path → List (List Char)
  | [] => [[]]
  | c :: rest =>
    if c = '/' then [] :: parts rest
    else match parts rest with
      | [] => [[c]]
      | part :: more => (c :: part) :: more

/-- The component that a part stands for, unless it stands for nothing. -/
def component? : List Char → Option Component
  | [] => none
  | ['.'] => none
  | ['.', '.'] => some .parent
  | name => some (.normal name)

/-- The components of a path. -/
def components (p : Path) : List Component :=
  let start : List Component :=
    if p.isAbsolute then [.root]
    else if p.parts.head? = some ['.'] then [.current]
    else []
  start ++ p.parts.filterMap component?

/-- Appends a second path after a slash; an absolute second path stands alone. -/
def join (p q : Path) : Path :=
  if q.isAbsolute then q
  else if p.isEmpty || p.getLast? == some '/' then p ++ q
  else p ++ '/' :: q

/-- The last component, if it is a name. -/
def fileName? (p : Path) : Option (List Char) :=
  match p.components.getLast? with
  | some (.normal name) => some name
  | _ => none

end Path

end ServiceRegistry
