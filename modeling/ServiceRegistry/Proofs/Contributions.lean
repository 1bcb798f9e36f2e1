import Mathlib.Data.List.Nodup
import ServiceRegistry.Contribution

/-!
# What a scan contributes

The providers of a contribution stand for the descriptors of a listing, each once and in order.
Their numbers follow on from the number that the scan was given, so no two scans make the same
provider. Nothing is said here of which module's locations a listing shows.
-/

namespace ServiceRegistry

/-- Dropping repetitions leaves none. -/
theorem nodup_eraseDups {α : Type} [DecidableEq α] (l : List α) : l.eraseDups.Nodup := by
  cases l with
  | nil => exact List.nodup_nil
  | cons a rest =>
    rw [List.eraseDups_cons, List.nodup_cons]
    refine ⟨fun ha => ?_, nodup_eraseDups _⟩
    simpa using List.mem_filter.1 (List.mem_eraseDups.1 ha)
termination_by l.length
decreasing_by
  have := List.length_filter_le (fun b => !b == a) rest
  rw [List.length_cons]
  omega

namespace ScanRule

variable {rule : ScanRule} {m : Module} {serial : Nat} {listing : Except Fault (List Location)}

/-- The descriptors that a listing shows; a folder that cannot be listed shows none. -/
def shown (listing : Except Fault (List Location)) : List Location :=
  match listing with
  | .error _ => []
  | .ok ls => descriptors ls

/-- A contribution is that of the module that was scanned. -/
@[simp] theorem module_contribution :
    (rule.contribution m serial listing).module = m.id := rfl

/-- No descriptor of a listing is taken twice. -/
theorem nodup_descriptors (ls : List Location) : (descriptors ls).Nodup := nodup_eraseDups _

/-- What a scan shows, it shows once. -/
theorem nodup_shown (listing : Except Fault (List Location)) : (shown listing).Nodup := by
  cases listing with
  | error fault => exact List.nodup_nil
  | ok ls => exact nodup_descriptors ls

/-- Of a listing, the descriptors are taken, and all of them. -/
theorem mem_descriptors {ls : List Location} {l : Location} :
    l ∈ descriptors ls ↔ l ∈ ls ∧ isDescriptor l = true := by
  rw [descriptors, List.mem_eraseDups, List.mem_filter]

/-- A contribution has one provider for each location that the scan shows, in the same order. -/
theorem providers_contribution (rule : ScanRule) (m : Module) (serial : Nat)
    (listing : Except Fault (List Location)) :
    (rule.contribution m serial listing).providers = (shown listing).zipIdx.map fun (l, n) =>
      { serial := serial + n, service := l.baseName, location := l, module := m,
        cacheFailures := rule.cacheFailures } := by
  cases listing <;> rfl

/-- There is one provider for each descriptor that is shown. -/
theorem locations_contribution (rule : ScanRule) (m : Module) (serial : Nat)
    (listing : Except Fault (List Location)) :
    (rule.contribution m serial listing).providers.map (·.location) = shown listing := by
  cases listing with
  | error fault => rfl
  | ok ls =>
    simp only [contribution, shown, List.map_map]
    exact List.zipIdx_map_fst 0 (descriptors ls)

/-- The services of a contribution are the names of the locations that the scan shows. -/
theorem services_contribution (rule : ScanRule) (m : Module) (serial : Nat)
    (listing : Except Fault (List Location)) :
    (rule.contribution m serial listing).services = (shown listing).map (·.baseName) := by
  rw [← locations_contribution rule m serial, List.map_map, Contribution.services,
    providers_contribution, List.map_map, List.map_map]
  rfl

/-- A contribution has as many providers as the scan shows locations. -/
theorem length_contribution (rule : ScanRule) (m : Module) (serial : Nat)
    (listing : Except Fault (List Location)) :
    (rule.contribution m serial listing).providers.length = (shown listing).length := by
  rw [← locations_contribution rule m serial, List.length_map]

/-- A provider that a scan makes is the module's, goes by the last part of its location, and has a
number of the scan's own. -/
theorem of_mem_contribution {p : Provider}
    (hp : p ∈ (rule.contribution m serial listing).providers) :
    p.module = m ∧ p.service = p.location.baseName ∧ p.location ∈ shown listing ∧
      serial ≤ p.serial ∧
      p.serial < serial + (rule.contribution m serial listing).providers.length := by
  have hloc : p.location ∈ shown listing := by
    rw [← locations_contribution rule m serial]
    exact List.mem_map_of_mem hp
  rw [length_contribution]
  cases listing with
  | error fault => exact absurd hp List.not_mem_nil
  | ok ls =>
    obtain ⟨⟨l, k⟩, hk, rfl⟩ := List.mem_map.1 hp
    have hlt : k < (descriptors ls).length := by
      have := List.snd_lt_of_mem_zipIdx hk
      simpa using this
    refine ⟨rfl, rfl, hloc, Nat.le_add_right serial k, ?_⟩
    exact Nat.add_lt_add_left hlt serial

end ScanRule

end ServiceRegistry
