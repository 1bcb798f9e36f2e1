import ServiceRegistry.Catalog
import ServiceRegistry.Host

/-!
# Followers

A follower keeps a catalog in step with a host: the contribution of a module is in the catalog while
the module's types can be used. What it has registered is kept by module, so that a module's
departure removes that module's providers and no others.

While a follower takes up the modules that its host lists, it marks those of which it hears by
events; the list says nothing new about them and is not followed for them. The changes in this
module act on the follower and the catalog's table together; when they happen is told in the module
on following.
-/

namespace ServiceRegistry

/-- A follower's subscription to a host. -/
structure Subscription where
  host : Nat
  listener : ListenerId
deriving DecidableEq

/-- What keeps a catalog in step with a host. -/
structure Follower where
  /-- The catalog that is kept. -/
  catalog : Nat
  rule : ScanRule := {}
  /-- The states of the modules that are taken up at the start. -/
  startupStates : List ModuleState := ModuleState.startupDefaults
  /-- What is registered, by module. -/
  groups : Dict ModuleId Contribution := .empty
  /-- The modules of which an event came while the follower is starting. -/
  marks : Option (List ModuleId) := none
  running : Bool := false
  subscription : Option Subscription := none
  /-- How many hold the follower; one that nobody holds hears no events. -/
  holders : Nat := 1

namespace Follower

instance : Inhabited Follower := ⟨{ catalog := 0 }⟩

/-- A follower that works as settings say. -/
def ofSettings (catalog : Nat) (s : Settings) : Follower where
  catalog := catalog
  rule := ScanRule.ofSettings s
  startupStates := s.startupStates

/-- Names the states of the modules that are taken up at the start, or leaves them as they are. -/
def startingWith (f : Follower) : Option (List ModuleState) → Follower
  | some states => { f with startupStates := states }
  | none => f

/-- Marks a module while the follower is starting. -/
def mark (f : Follower) (id : ModuleId) : Follower :=
  { f with marks := f.marks.map fun ids => if id ∈ ids then ids else id :: ids }

/-- Whether a module is marked. -/
def isMarked (f : Follower) (id : ModuleId) : Bool :=
  match f.marks with
  | some ids => id ∈ ids
  | none => false

/-- Removes what is registered for a module. -/
def drop (f : Follower) (t : Table) (id : ModuleId) : Follower × Table :=
  match f.groups.get? id with
  | some c => ({ f with groups := f.groups.erase id }, t.unregisterAll c)
  | none => (f, t)

/-- Registers what a module contributes, in place of what is registered for it. -/
def adopt (f : Follower) (t : Table) (c : Contribution) : Follower × Table :=
  let (f, t) := f.drop t c.module
  ({ f with groups := f.groups.insert c.module c }, t.registerAll c)

/-- Takes up a module that has arrived. -/
def arrive (f : Follower) (t : Table) (c : Contribution) : Follower × Table :=
  (f.mark c.module).adopt t c

/-- Lets go of a module that has departed. -/
def depart (f : Follower) (t : Table) (id : ModuleId) : Follower × Table := (f.mark id).drop t id

/-- Begins to run, with no module marked. -/
def begin (f : Follower) : Follower := { f with marks := some [], running := true }

/-- Ends the period in which events are marked. -/
def settle (f : Follower) : Follower := { f with marks := none }

/-- Stops, and removes all that is registered. -/
def halt (f : Follower) (t : Table) : Follower × Table :=
  ({ f with running := false, marks := none, groups := .empty },
    f.groups.values.foldl Table.unregisterAll t)

/-- The modules for which something is registered, in ascending order. -/
def tracked (f : Follower) : List ModuleId := f.groups.keys

/-- The services that a module contributes, if it is taken up. -/
def contributions? (f : Follower) (id : ModuleId) : Option (List String) :=
  (f.groups.get? id).map Contribution.services

/-! Of the follower itself, each change concerns the groups and the marks only. -/

section Changes

variable (f : Follower) (t : Table) (c : Contribution) (id x : ModuleId)

/-- Of the follower, letting go of a module takes away the module's group. -/
theorem fst_drop : (f.drop t id).1 = { f with groups := f.groups.erase id } := by
  unfold drop
  split
  · rfl
  · rename_i h
    rw [Dict.erase_eq_self h]

/-- Of the table, letting go of a module takes away what its group has registered. -/
theorem snd_drop : (f.drop t id).2 = ((f.groups.get? id).map t.unregisterAll).getD t := by
  unfold drop
  split <;> simp_all

/-- Of the follower, adopting a contribution puts it in place of the module's group. -/
theorem fst_adopt : (f.adopt t c).1 = { f with groups := f.groups.insert c.module c } := by
  simp only [adopt, fst_drop, Dict.insert_erase]

/-- Of the table, adopting a contribution registers it where the module's group is gone. -/
theorem snd_adopt : (f.adopt t c).2 = (f.drop t c.module).2.registerAll c := rfl

/-- An arrival puts the contribution in place of the module's group and marks the module. -/
theorem fst_arrive :
    (f.arrive t c).1 = { f.mark c.module with groups := f.groups.insert c.module c } :=
  fst_adopt _ _ _

/-- To the table, an arrival does what adopting does. -/
theorem snd_arrive : (f.arrive t c).2 = (f.drop t c.module).2.registerAll c := by
  rw [arrive, snd_adopt, snd_drop, snd_drop]
  rfl

/-- A departure takes away the module's group and marks the module. -/
theorem fst_depart : (f.depart t id).1 = { f.mark id with groups := f.groups.erase id } :=
  fst_drop _ _ _

/-- Who holds a follower does not matter to what it takes up. -/
theorem arrive_holders (k : Nat) : { f with holders := k }.arrive t c =
    ({ (f.arrive t c).1 with holders := k }, (f.arrive t c).2) := by
  refine Prod.ext ?_ ?_
  · rw [fst_arrive, fst_arrive]
    rfl
  · rw [snd_arrive, snd_arrive, snd_drop, snd_drop]

/-- Adopting a contribution leaves a follower with its catalog. -/
@[simp] theorem catalog_adopt : (f.adopt t c).1.catalog = f.catalog := by rw [fst_adopt]

/-- An arrival leaves a follower with its catalog. -/
@[simp] theorem catalog_arrive : (f.arrive t c).1.catalog = f.catalog := by
  rw [fst_arrive]
  rfl

/-- A departure leaves a follower with its catalog. -/
@[simp] theorem catalog_depart : (f.depart t id).1.catalog = f.catalog := by
  rw [fst_depart]
  rfl

/-- Marking a module does not make a follower one that is starting, nor end its start. -/
@[simp] theorem isSome_marks_mark : (f.mark id).marks.isSome = f.marks.isSome := by
  simp [mark]

/-- What is marked after a module was marked: the module if the follower is starting, and all that
was. -/
theorem isMarked_mark : (f.mark id).isMarked x = (f.isMarked x || (f.marks.isSome && x == id)) := by
  unfold mark isMarked
  cases f.marks with
  | none => rfl
  | some ids => by_cases h : id ∈ ids <;> by_cases hx : x = id <;> simp_all

/-- While a follower is starting, a module that it marks is marked. -/
theorem isMarked_of_mark (hx : x = id) (h : f.marks.isSome = true) :
    (f.mark id).isMarked x = true := by
  rw [isMarked_mark, h]
  simp [hx]

/-- Marking a module leaves the others as they were. -/
theorem isMarked_mark_of_ne (hx : x ≠ id) : (f.mark id).isMarked x = f.isMarked x := by
  rw [isMarked_mark]
  simp [hx]

end Changes

end Follower

end ServiceRegistry
