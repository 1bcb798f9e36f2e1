import ServiceRegistry.Dict
import ServiceRegistry.ModuleId
import ServiceRegistry.Text.Slashes
import ServiceRegistry.Text.Split

/-!
# Locations of module entries

A location names one entry of one module, in the form `module://<number>/<path>`. Any text can
stand where a location is expected, so `Location` holds the text and `Location.split?` says which
module and which path it names, if it names any. Folders end in a slash.
-/

namespace ServiceRegistry

/-- The text that names an entry of a module; providers are told apart by it. -/
structure Location where
  text : String
deriving DecidableEq, Inhabited

namespace Location

instance : Ord Location := ⟨fun a b => compare a.text b.text⟩

instance : Std.TransOrd Location where
  eq_swap := fun {a b} => by
    change compare a.text b.text = (compare b.text a.text).swap
    exact Std.OrientedCmp.eq_swap
  isLE_trans := fun {a b c} (h : (compare a.text b.text).isLE)
      (h' : (compare b.text c.text).isLE) => by
    change (compare a.text c.text).isLE
    exact Std.TransCmp.isLE_trans h h'

instance : Std.LawfulEqOrd Location where
  compare_self := fun {a} => by
    change compare a.text a.text = .eq
    exact Std.ReflCmp.compare_self
  eq_of_compare := fun {a b} (h : compare a.text b.text = .eq) => by
    cases a; cases b; cases Std.LawfulEqCmp.eq_of_compare h; rfl

/-- What every location of a module starts with. -/
def scheme : List Char := "module://".toList

/-- The location of the entry at a path of a module; slashes in front of the path do not count. -/
def ofEntry (owner : ModuleId) (path : List Char) : Location :=
  ⟨String.ofList (scheme ++ owner.text.toList ++ '/' :: Slashes.dropLeading path)⟩

/-- The module and the path that a location names. -/
def split? (l : Location) : Option (ModuleId × List Char) := do
  let cs := l.text.toList
  guard (scheme.isPrefixOf cs)
  let (owner, path) ← Text.splitFirst '/' (cs.drop scheme.length)
  let word ← Decimal.readWord? owner
  return (⟨word⟩, path)

/-- The module that a location names. -/
def owner? (l : Location) : Option ModuleId := l.split?.map (·.1)

/-- The path inside the module that a location names. -/
def path? (l : Location) : Option (List Char) := l.split?.map (·.2)

/-- The path that a location names inside one given module. -/
def pathIn? (owner : ModuleId) (l : Location) : Option (List Char) :=
  l.split?.bind fun p => if p.1 = owner then some p.2 else none

/-- Whether the location is that of a folder. -/
def isFolder (l : Location) : Bool := Slashes.endsInSlash l.text.toList

/-- What follows the last slash. -/
def baseName (l : Location) : String := String.ofList (Slashes.afterLast l.text.toList)

/-- The locations of a list in ascending order, each once. -/
def sortUnique (ls : List Location) : List Location := (SortedSet.ofList ls).keys

/-- The text of an entry's location: the scheme, the owner's number, and the path without the
slashes in front. -/
theorem toList_ofEntry (owner : ModuleId) (path : List Char) :
    (ofEntry owner path).text.toList =
      scheme ++ (Decimal.print owner.word.toNat ++ '/' :: Slashes.dropLeading path) := by
  simp [ofEntry, ModuleId.text, Decimal.text]

/-- The location of a module's entry names the module and the entry's path. -/
theorem split?_ofEntry (owner : ModuleId) (path : List Char) :
    (ofEntry owner path).split? = some (owner, Slashes.dropLeading path) := by
  have hcut : Text.splitFirst '/'
      (Decimal.print owner.word.toNat ++ '/' :: Slashes.dropLeading path) =
        some (Decimal.print owner.word.toNat, Slashes.dropLeading path) := by
    refine Text.splitFirst_eq_some_iff.2 ⟨rfl, fun h => ?_⟩
    exact absurd (Decimal.isDigit_of_mem_print h) (by decide)
  have hscheme : scheme.isPrefixOf (scheme ++
      (Decimal.print owner.word.toNat ++ '/' :: Slashes.dropLeading path)) = true :=
    List.isPrefixOf_iff_prefix.2 (List.prefix_append _ _)
  unfold split?
  rw [toList_ofEntry]
  dsimp only
  rw [hscheme, List.drop_left, hcut]
  change (Decimal.readWord? (Decimal.print owner.word.toNat)).bind _ = _
  rw [Decimal.readWord?_print]
  rfl

/-- The owner of an entry can be told from its location. -/
@[simp] theorem owner?_ofEntry (owner : ModuleId) (path : List Char) :
    (ofEntry owner path).owner? = some owner := by
  rw [owner?, split?_ofEntry]
  rfl

/-- Sorting and dropping repetitions neither adds nor loses a location. -/
theorem mem_sortUnique {ls : List Location} {l : Location} : l ∈ sortUnique ls ↔ l ∈ ls :=
  SortedSet.mem_keys_ofList

end Location

end ServiceRegistry
