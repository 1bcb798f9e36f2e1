import ServiceRegistry.Catalog
import ServiceRegistry.Contract
import ServiceRegistry.Module.Content
import ServiceRegistry.Store

/-!
# Modules at work

The `Stock` is all that resolving providers can read or change: the file tree, the contents of the
module objects with the number of questions put to each, and what providers remember. Nothing in
this module calls back, so each operation is a function of the stock.

`Stock.locateFirst` answers for a list of candidates in order of preference: the first that
resolves, agrees with the pin if there is one, and meets the contract. `Stock.locateEach` answers
all that resolve and meet the contract. Failures only make a candidate drop out.
-/

namespace ServiceRegistry

/-- A module object: what it contains and how often it was asked. -/
structure ModuleObject where
  content : Content
  /-- How often it was asked for a listing. -/
  listed : Nat := 0
  /-- How often it was asked for the bytes of an entry. -/
  opened : Nat := 0
  /-- How often it was asked for a type. -/
  loaded : Nat := 0
deriving Inhabited

/-- The file tree, the module objects and the memories of the providers. -/
structure Stock where
  files : FileTree := {}
  objects : Store ModuleObject := {}
  memos : Store Memo := {}

namespace Stock

/-- What a module answers at present. -/
def view (s : Stock) (m : Module) : ModuleView := (s.objects.get m.object).content.view s.files

/-- Changes a module object. -/
def update (s : Stock) (m : Module) (f : ModuleObject → ModuleObject) : Stock :=
  { s with objects := s.objects.modify m.object f }

/-- Counting questions leaves what modules answer. -/
theorem view_update (s : Stock) (m k : Module) {f : ModuleObject → ModuleObject}
    (hf : ∀ o, (f o).content = o.content) : (s.update m f).view k = s.view k := by
  unfold view update Store.modify
  rw [Store.get_set]
  split
  · rename_i h
    rw [hf, h]
  · rfl

/-- Asks a module for a listing. -/
def list (s : Stock) (m : Module) (folder : String) : Except Fault (List Location) × Stock :=
  ((s.view m).list folder.toList, s.update m fun o => { o with listed := o.listed + 1 })

/-- Asking for a listing leaves what modules answer. -/
@[simp] theorem view_list (s : Stock) (m k : Module) (folder : String) :
    (s.list m folder).2.view k = s.view k :=
  s.view_update m k fun _ => rfl

/-- Asks a module for the bytes of an entry. -/
def openEntry (s : Stock) (m : Module) (l : Location) : Except Fault Stream × Stock :=
  ((s.view m).openEntry l, s.update m fun o => { o with opened := o.opened + 1 })

/-- Asks a module for a type. -/
def loadType (s : Stock) (m : Module) (name : String) : Except TypeFault LoadedType × Stock :=
  ((s.view m).loadType name, s.update m fun o => { o with loaded := o.loaded + 1 })

/-- What a provider remembers. -/
def memo (s : Stock) (p : Provider) : Memo := s.memos.get p.serial

/-- Resolves a provider: from its memory, or else from its descriptor. -/
def resolve (s : Stock) (p : Provider) : Resolution × Stock :=
  match s.memo p with
  | some r => (r, s)
  | none =>
    let v := s.view p.module
    let r := p.fetch v
    let s := s.update p.module fun o =>
      { o with opened := o.opened + 1, loaded := o.loaded + p.typeLoads v }
    (r, { s with memos := s.memos.set p.serial (p.remember r) })

/-- Whether the module behind a provider meets a contract; it is asked only if the contract names an
origin. -/
def accepts (s : Stock) (c : Contract) (p : Provider) : Bool × Stock :=
  match c.origin with
  | none => (true, s)
  | some _ =>
    let (loaded, s) := s.loadType p.module c.name
    (c.isMetBy loaded, s)

/-- Whether a type has the name that is pinned, if one is. -/
def agrees (pin : Option String) (t : LoadedType) : Bool :=
  match pin with
  | some name => t.name == name
  | none => true

/-- The type of the first candidate that resolves, agrees with the pin and meets the contract. -/
def locateFirst (pin : Option String) (c : Contract) :
    List Provider → Stock → Option LoadedType × Stock
  | [], s => (none, s)
  | p :: rest, s =>
    match s.resolve p with
    | (.error _, s) => locateFirst pin c rest s
    | (.ok t, s) =>
      if agrees pin t then
        match s.accepts c p with
        | (true, s) => (some t, s)
        | (false, s) => locateFirst pin c rest s
      else locateFirst pin c rest s

/-- The types of all candidates that resolve and meet the contract, in order. -/
def locateEach (c : Contract) : List Provider → Stock → List LoadedType × Stock
  | [], s => ([], s)
  | p :: rest, s =>
    match s.resolve p with
    | (.error _, s) => locateEach c rest s
    | (.ok t, s) =>
      match s.accepts c p with
      | (true, s) =>
        let (ts, s) := locateEach c rest s
        (t :: ts, s)
      | (false, s) => locateEach c rest s

/-- Locates the preferred type for a service in a catalog. -/
def locate (s : Stock) (k : Catalog) (env : Environment) (c : Contract) (service : String) :
    Option LoadedType × Stock :=
  locateFirst (k.pins.lookup env service) c (k.table.candidates service) s

/-- Locates all types for a service in a catalog; pins do not matter. -/
def locateAll (s : Stock) (k : Catalog) (c : Contract) (service : String) :
    List LoadedType × Stock :=
  locateEach c (k.table.candidates service) s

/-- The contract for a service as a module sees it; the name alone if it does not see the type. -/
def contractFor (s : Stock) (m : Module) (service : String) : Contract × Stock :=
  match s.loadType m service with
  | (.ok t, s) => (.ofType t, s)
  | (.error _, s) => ({ name := service }, s)

end Stock

end ServiceRegistry
