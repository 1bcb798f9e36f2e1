import ServiceRegistry.Provider
import ServiceRegistry.Settings.Basic

/-!
# Contributions

A contribution is what one module offers at one time: a provider for each descriptor in the
module's descriptor folder. Descriptors are the entries directly in the folder that are no folders
themselves; a listing that names one of them twice counts it once. A service is named by the last
part of its descriptor's location.
-/

namespace ServiceRegistry

/-- The providers of one module. -/
structure Contribution where
  module : ModuleId
  providers : List Provider := []
deriving DecidableEq, Inhabited

namespace Contribution

/-- The services of the providers, in order. -/
def services (c : Contribution) : List String := c.providers.map (·.service)

end Contribution

/-- How modules are searched for descriptors. -/
structure ScanRule where
  folder : String := defaultDescriptorFolder
  cacheFailures : Bool := true
deriving DecidableEq

namespace ScanRule

instance : Inhabited ScanRule := ⟨{}⟩

/-- The rule that settings ask for. -/
def ofSettings (s : Settings) : ScanRule := ⟨s.descriptorFolder, s.cacheFailures⟩

/-- Whether an entry is a descriptor. -/
def isDescriptor (l : Location) : Bool := !l.isFolder && !l.baseName.isEmpty

/-- The descriptors of a listing, each once, in order. -/
def descriptors (listing : List Location) : List Location :=
  (listing.filter isDescriptor).eraseDups

/-- What a module contributes, given the listing of its descriptor folder. The new providers are
numbered from `serial` on; a folder that cannot be listed contributes nothing. -/
def contribution (rule : ScanRule) (m : Module) (serial : Nat)
    (listing : Except Fault (List Location)) : Contribution where
  module := m.id
  providers := match listing with
    | .error _ => []
    | .ok listing => (descriptors listing).zipIdx.map fun (l, n) =>
      { serial := serial + n
        service := l.baseName
        location := l
        module := m
        cacheFailures := rule.cacheFailures }

end ScanRule

end ServiceRegistry
