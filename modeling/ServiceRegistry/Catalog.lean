import ServiceRegistry.Contribution
import ServiceRegistry.Pins

/-!
# Catalogs

A catalog lists the providers of each service, the most recently registered first. Registering a
provider takes the place of one with the same location, and removing goes by location too. A
service without providers is not listed.

`Table.candidates` is the view of a table: `candidates_register` and `candidates_unregister` say
what each change does to the providers of every service.
-/

namespace ServiceRegistry

/-- The providers of each service, most recent first. -/
abbrev Table := Dict String (List Provider)

namespace Table

/-- The providers of a service. -/
def candidates (t : Table) (service : String) : List Provider := (t.get? service).getD []

/-- Puts a provider first for a service, in place of one with the same location. -/
def register (t : Table) (service : String) (p : Provider) : Table :=
  t.insert service (p :: (t.candidates service).filter (·.location ≠ p.location))

/-- Removes the provider with a location from a service. -/
def unregister (t : Table) (service : String) (l : Location) : Table :=
  match t.get? service with
  | none => t
  | some ps =>
    match ps.filter (·.location ≠ l) with
    | [] => t.erase service
    | rest => t.insert service rest

/-- Whether a service has a provider with a location. -/
def lists (t : Table) (service : String) (l : Location) : Bool :=
  (t.candidates service).any (·.location = l)

/-- Registers the providers of a contribution one after another. -/
def registerAll (t : Table) (c : Contribution) : Table :=
  c.providers.foldl (fun t p => t.register p.service p) t

/-- Removes the providers of a contribution one after another. -/
def unregisterAll (t : Table) (c : Contribution) : Table :=
  c.providers.foldl (fun t p => t.unregister p.service p.location) t

/-- How many providers of a contribution are still there when their turn to be removed comes. -/
def removals (t : Table) : List Provider → Nat
  | [] => 0
  | p :: rest =>
    (if t.lists p.service p.location then 1 else 0) +
      removals (t.unregister p.service p.location) rest

/-- Registering puts a provider in front of the candidates of its service, in place of one at the
same location. -/
theorem candidates_register (t : Table) (changed service : String) (p : Provider) :
    (t.register changed p).candidates service =
      if service = changed then p :: (t.candidates changed).filter (·.location ≠ p.location)
      else t.candidates service := by
  unfold register candidates
  rw [Dict.get?_insert]
  split <;> simp_all

/-- Unregistering takes the provider at a location from the candidates of one service. -/
theorem candidates_unregister (t : Table) (changed service : String) (l : Location) :
    (t.unregister changed l).candidates service =
      if service = changed then (t.candidates changed).filter (·.location ≠ l)
      else t.candidates service := by
  unfold unregister candidates
  cases h : t.get? changed with
  | none => by_cases hs : service = changed <;> simp_all
  | some ps =>
    dsimp only
    cases hf : ps.filter (·.location ≠ l) with
    | nil =>
      simp only [Dict.get?_erase]
      split <;> simp_all
    | cons p rest =>
      simp only [Dict.get?_insert]
      split <;> simp_all

/-- The number of providers of all services. -/
def count (t : Table) : Nat := t.values.flatten.length

end Table

/-- A table of providers, and the source of the pins that apply to it. -/
structure Catalog where
  table : Table := .empty
  pins : PinSource := .environment

namespace Catalog

instance : Inhabited Catalog := ⟨{}⟩

end Catalog

end ServiceRegistry
