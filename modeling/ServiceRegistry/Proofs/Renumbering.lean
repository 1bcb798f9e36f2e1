import ServiceRegistry.Proofs.Holdings

/-!
# Renumbering providers

Numbers tell provider objects apart and mean nothing else. Changing them by any rule goes through
every change of a follower's holdings, so two courses of events in which the same providers are made
under different numbers lead to holdings that are alike up to renumbering.
-/

namespace ServiceRegistry

namespace Dict

variable {κ ν ν' : Type} [Ord κ]

/-- Changes all values. -/
def map (f : ν → ν') (d : Dict κ ν) : Dict κ ν' :=
  ⟨d.entries.map fun e => (e.1, f e.2), List.pairwise_map.2 d.sorted⟩

/-- Looking up in a mapped dictionary maps what is found. -/
theorem get?_map (f : ν → ν') (d : Dict κ ν) (k : κ) : (d.map f).get? k = (d.get? k).map f := by
  simp only [get?, map, List.find?_map, Option.map_map]
  rfl

variable [Std.TransOrd κ] [Std.LawfulEqOrd κ] [DecidableEq κ]

/-- Mapping commutes with an insertion. -/
theorem map_insert (f : ν → ν') (d : Dict κ ν) (k : κ) (v : ν) :
    (d.insert k v).map f = (d.map f).insert k (f v) := by
  apply ext_get?
  intro k'
  rw [get?_map, get?_insert, get?_insert, get?_map]
  split <;> rfl

/-- Mapping commutes with a removal. -/
theorem map_erase (f : ν → ν') (d : Dict κ ν) (k : κ) :
    (d.erase k).map f = (d.map f).erase k := by
  apply ext_get?
  intro k'
  rw [get?_map, get?_erase, get?_erase, get?_map]
  split <;> rfl

end Dict

variable (ρ : Nat → Nat)

/-- A provider under another number. -/
def Provider.renumber (p : Provider) : Provider := { p with serial := ρ p.serial }

/-- A contribution whose providers have other numbers. -/
def Contribution.renumber (c : Contribution) : Contribution :=
  { c with providers := c.providers.map (·.renumber ρ) }

namespace Table

/-- A table whose providers have other numbers. -/
def renumber (t : Table) : Table := t.map fun ps => ps.map (·.renumber ρ)

variable (t : Table) (c : Contribution) (service : String) (p : Provider) (l : Location)

/-- Leaving out a location does not depend on the numbers of providers. -/
theorem filter_map_renumber (ps : List Provider) :
    (ps.map (·.renumber ρ)).filter (·.location ≠ l) =
      (ps.filter (·.location ≠ l)).map (·.renumber ρ) := by
  rw [List.filter_map]
  rfl

/-- The candidates of a renumbered table are the renumbered candidates. -/
theorem candidates_renumber :
    (t.renumber ρ).candidates service = (t.candidates service).map (·.renumber ρ) := by
  unfold candidates renumber
  rw [Dict.get?_map]
  cases t.get? service <;> rfl

/-- Renumbering commutes with a registration. -/
theorem renumber_register : (t.register service p).renumber ρ =
    (t.renumber ρ).register service (p.renumber ρ) := by
  unfold register
  rw [candidates_renumber, renumber, Dict.map_insert, List.map_cons, ← filter_map_renumber]
  rfl

/-- Renumbering commutes with a removal. -/
theorem renumber_unregister : (t.unregister service l).renumber ρ =
    (t.renumber ρ).unregister service l := by
  unfold unregister
  rw [renumber, renumber, Dict.get?_map]
  cases t.get? service with
  | none => rfl
  | some ps =>
    dsimp only [Option.map_some]
    rw [filter_map_renumber]
    cases ps.filter (·.location ≠ l) with
    | nil => exact Dict.map_erase _ t service
    | cons q rest => exact Dict.map_insert _ t service _

/-- Renumbering commutes with the registration of a contribution. -/
theorem renumber_registerAll :
    (t.registerAll c).renumber ρ = (t.renumber ρ).registerAll (c.renumber ρ) := by
  unfold registerAll Contribution.renumber
  rw [List.foldl_map]
  induction c.providers generalizing t with
  | nil => rfl
  | cons p rest ih =>
    rw [List.foldl_cons, List.foldl_cons, ih, renumber_register]
    rfl

/-- Renumbering commutes with the removal of a contribution. -/
theorem renumber_unregisterAll :
    (t.unregisterAll c).renumber ρ = (t.renumber ρ).unregisterAll (c.renumber ρ) := by
  unfold unregisterAll Contribution.renumber
  rw [List.foldl_map]
  induction c.providers generalizing t with
  | nil => rfl
  | cons p rest ih =>
    rw [List.foldl_cons, List.foldl_cons, ih, renumber_unregister]
    rfl

end Table

namespace Holdings

/-- Holdings whose providers have other numbers. -/
def renumber (x : Holdings) : Holdings := ⟨x.groups.map (·.renumber ρ), x.table.renumber ρ⟩

/-- Renumbering commutes with the end of a module's holdings. -/
theorem renumber_drop (x : Holdings) (id : ModuleId) :
    (x.drop id).renumber ρ = (x.renumber ρ).drop id := by
  unfold drop renumber
  dsimp only
  rw [Dict.get?_map]
  cases x.groups.get? id with
  | none => rfl
  | some c =>
    dsimp only [Option.map_some]
    rw [Dict.map_erase, Table.renumber_unregisterAll]

/-- Renumbering commutes with taking a contribution. -/
theorem renumber_take (x : Holdings) (c : Contribution) :
    (x.take c).renumber ρ = (x.renumber ρ).take (c.renumber ρ) := by
  have hdrop := renumber_drop ρ x c.module
  unfold take
  change _ = Holdings.mk (((x.renumber ρ).drop c.module).groups.insert c.module (c.renumber ρ))
    (((x.renumber ρ).drop c.module).table.registerAll (c.renumber ρ))
  rw [← hdrop]
  unfold renumber
  dsimp only
  rw [Dict.map_insert, Table.renumber_registerAll]

end Holdings

/-- Two scans that are shown the same listing contribute the same, up to the numbers. -/
theorem ScanRule.renumber_contribution {ρ : Nat → Nat} {start : Nat}
    (hρ : ∀ a b, start ≤ a → start ≤ b → ρ a = ρ b) (rule : ScanRule) (m : Module)
    {serial serial' : Nat} (h : start ≤ serial) (h' : start ≤ serial')
    (listing : Except Fault (List Location)) :
    (rule.contribution m serial listing).renumber ρ =
      (rule.contribution m serial' listing).renumber ρ := by
  cases listing with
  | error fault => rfl
  | ok ls =>
    unfold Contribution.renumber contribution Provider.renumber
    simp only [List.map_map, Contribution.mk.injEq, true_and]
    refine List.map_congr_left fun x _ => ?_
    have hnumber : ρ (serial + x.2) = ρ (serial' + x.2) :=
      hρ _ _ (Nat.le_add_right_of_le h) (Nat.le_add_right_of_le h')
    simp [hnumber]

end ServiceRegistry
