import ServiceRegistry.Follower
import ServiceRegistry.Stock
import ServiceRegistry.World.Run

/-!
# The world of a registry

A `World` holds everything that operations work on: module objects and what resolving them needs,
hosts, catalogs and followers, each known by a number. Operations that ask a module for a listing,
announce an event or take a host's list give others the chance to act before they go on; at these
points they stop with a `Signal`. What happens there is not part of the world: it can be anything
that changes the world, other operations included, and these can be interrupted in turn. A `Notice`
is only read: at its signal nothing acts on the world.
-/

namespace ServiceRegistry

/-- What is reported while operations go on. -/
inductive Notice where
  /-- A follower has registered what a module contributes. -/
  | tookUp (follower : Nat) (m : Module)
  /-- A follower has let go of a departed module. -/
  | letGo (follower : Nat) (id : ModuleId)
  /-- A host has put another module object in the place of one. -/
  | replaced (host : Nat) (m : Module)
deriving DecidableEq

/-- The points at which something outside may act or look on. -/
inductive Signal where
  /-- A module has prepared its answer to a request for a listing. -/
  | listed (m : Module)
  /-- A recorder hears of an event. -/
  | heard (recorder : Nat) (e : Event)
  /-- A host that is watched has prepared the list of its modules. -/
  | surveyed (watch : Nat)
  /-- Something is reported; nobody acts. -/
  | reported (n : Notice)
deriving DecidableEq

/-- All that operations work on. -/
structure World where
  stock : Stock := {}
  environment : Environment := .empty
  hosts : Store Host := {}
  catalogs : Store Catalog := {}
  followers : Store Follower := {}
  /-- The number for the next provider. -/
  nextSerial : Nat := 0

instance : Inhabited World := ⟨{}⟩

/-- An operation on the world. -/
abbrev Work (α : Type) := Interruptible World Signal α

namespace World

/-- The files and variables that the world shows. -/
def surroundings (w : World) : Surroundings := ⟨w.stock.files, w.environment⟩

/-- The state of a host. -/
def host (w : World) (n : Nat) : Host := w.hosts.get n

/-- The state of a catalog. -/
def catalog (w : World) (n : Nat) : Catalog := w.catalogs.get n

/-- The state of a follower. -/
def follower (w : World) (n : Nat) : Follower := w.followers.get n

/-- Changes the state of a host. -/
def setHost (w : World) (n : Nat) (h : Host) : World := { w with hosts := w.hosts.set n h }

/-- Changes the table of a catalog. -/
def setTable (w : World) (n : Nat) (t : Table) : World :=
  { w with catalogs := w.catalogs.set n { w.catalog n with table := t } }

/-- Changes the state of a follower. -/
def setFollower (w : World) (n : Nat) (f : Follower) : World :=
  { w with followers := w.followers.set n f }

/-- Changes a host's bus. -/
def setBus (w : World) (n : Nat) (b : Bus) : World := w.setHost n { w.host n with bus := b }

/-- Performs what acts on the stock alone. -/
def onStock {α : Type} (f : Stock → α × Stock) (w : World) : α × World :=
  let (a, stock) := f w.stock
  (a, { w with stock })

/-- Changes a follower and its catalog's table together. -/
def onFollower (w : World) (n : Nat) (f : Follower → Table → Follower × Table) : World :=
  let follower := w.follower n
  let (after, table) := f follower (w.catalog follower.catalog).table
  (w.setTable follower.catalog table).setFollower n after

/-- The table that a follower keeps. -/
def tableOf (w : World) (f : Follower) : Table := (w.catalog f.catalog).table

/-! What each change leaves to be read. -/

section Reading

variable (w : World) (n k : Nat) (h : Host) (t : Table) (f : Follower) (b : Bus)
  (change : Follower → Table → Follower × Table)

/-- Questions to the stock leave hosts alone. -/
@[simp] theorem host_onStock {α : Type} (g : Stock → α × Stock) :
    (onStock g w).2.host k = w.host k := rfl

/-- Questions to the stock leave followers alone. -/
@[simp] theorem follower_onStock {α : Type} (g : Stock → α × Stock) :
    (onStock g w).2.follower k = w.follower k := rfl

/-- Questions to the stock leave catalogs alone. -/
@[simp] theorem catalog_onStock {α : Type} (g : Stock → α × Stock) :
    (onStock g w).2.catalog k = w.catalog k := rfl

/-- Questions to the stock change it as they do by themselves. -/
@[simp] theorem stock_onStock {α : Type} (g : Stock → α × Stock) :
    (onStock g w).2.stock = (g w.stock).2 := rfl

/-- Questions to the stock use up no numbers. -/
@[simp] theorem nextSerial_onStock {α : Type} (g : Stock → α × Stock) :
    (onStock g w).2.nextSerial = w.nextSerial := rfl

/-- Writing a host changes that host only. -/
@[simp] theorem host_setHost : (w.setHost n h).host k = if k = n then h else w.host k :=
  Store.get_set w.hosts n k h

/-- Writing a host leaves followers alone. -/
@[simp] theorem follower_setHost : (w.setHost n h).follower k = w.follower k := rfl

/-- Writing a host leaves catalogs alone. -/
@[simp] theorem catalog_setHost : (w.setHost n h).catalog k = w.catalog k := rfl

/-- Writing a host leaves the stock alone. -/
@[simp] theorem stock_setHost : (w.setHost n h).stock = w.stock := rfl

/-- Writing a host uses up no numbers. -/
@[simp] theorem nextSerial_setHost : (w.setHost n h).nextSerial = w.nextSerial := rfl

/-- Writing a table leaves hosts alone. -/
@[simp] theorem host_setTable : (w.setTable n t).host k = w.host k := rfl

/-- Writing a table leaves followers alone. -/
@[simp] theorem follower_setTable : (w.setTable n t).follower k = w.follower k := rfl

/-- Writing a table changes the one catalog, and not its pins. -/
@[simp] theorem catalog_setTable : (w.setTable n t).catalog k =
    if k = n then { w.catalog n with table := t } else w.catalog k :=
  Store.get_set w.catalogs n k _

/-- Writing a table leaves the stock alone. -/
@[simp] theorem stock_setTable : (w.setTable n t).stock = w.stock := rfl

/-- Writing a table uses up no numbers. -/
@[simp] theorem nextSerial_setTable : (w.setTable n t).nextSerial = w.nextSerial := rfl

/-- Writing a follower leaves hosts alone. -/
@[simp] theorem host_setFollower : (w.setFollower n f).host k = w.host k := rfl

/-- Writing a follower changes that follower only. -/
@[simp] theorem follower_setFollower :
    (w.setFollower n f).follower k = if k = n then f else w.follower k :=
  Store.get_set w.followers n k f

/-- Writing a follower leaves catalogs alone. -/
@[simp] theorem catalog_setFollower : (w.setFollower n f).catalog k = w.catalog k := rfl

/-- Writing a follower leaves the stock alone. -/
@[simp] theorem stock_setFollower : (w.setFollower n f).stock = w.stock := rfl

/-- Writing a follower uses up no numbers. -/
@[simp] theorem nextSerial_setFollower : (w.setFollower n f).nextSerial = w.nextSerial := rfl

/-- Writing a bus changes its host only, and not the list of modules. -/
@[simp] theorem host_setBus :
    (w.setBus n b).host k = if k = n then { w.host n with bus := b } else w.host k := by
  simp [setBus]

/-- Writing a bus leaves followers alone. -/
@[simp] theorem follower_setBus : (w.setBus n b).follower k = w.follower k := rfl

/-- Writing a bus leaves catalogs alone. -/
@[simp] theorem catalog_setBus : (w.setBus n b).catalog k = w.catalog k := rfl

/-- Writing a bus leaves the stock alone. -/
@[simp] theorem stock_setBus : (w.setBus n b).stock = w.stock := rfl

/-- Writing a bus uses up no numbers. -/
@[simp] theorem nextSerial_setBus : (w.setBus n b).nextSerial = w.nextSerial := rfl

/-- A follower's change leaves hosts alone. -/
@[simp] theorem host_onFollower : (w.onFollower n change).host k = w.host k := rfl

/-- A follower's change is made to that follower. -/
@[simp] theorem follower_onFollower : (w.onFollower n change).follower k =
    if k = n then (change (w.follower n) (w.catalog (w.follower n).catalog).table).1
    else w.follower k :=
  Store.get_set w.followers n k _

/-- A follower's change is made to the table of its catalog. -/
@[simp] theorem catalog_onFollower : (w.onFollower n change).catalog k =
    if k = (w.follower n).catalog then
      { w.catalog k with
        table := (change (w.follower n) (w.catalog (w.follower n).catalog).table).2 }
    else w.catalog k := by
  change ((w.setTable _ _).setFollower n _).catalog k = _
  rw [catalog_setFollower, catalog_setTable]
  split
  · subst k
    rfl
  · rfl

/-- A follower's change leaves the stock alone. -/
@[simp] theorem stock_onFollower : (w.onFollower n change).stock = w.stock := rfl

/-- A follower's change uses up no numbers. -/
@[simp] theorem nextSerial_onFollower :
    (w.onFollower n change).nextSerial = w.nextSerial := rfl

end Reading

end World

end ServiceRegistry
