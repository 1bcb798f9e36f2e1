import Mathlib.Data.List.Nodup
import ServiceRegistry.Proofs.Contributions
import ServiceRegistry.Catalog

/-!
# Registering and removing contributions

What the changes of a table do to the question which providers stand for a service. A table is
`Distinct` if no service has two providers with one location; every change keeps that, so a pair of
a service and a location stands for at most one provider. It is `Tight` if no service is listed
without providers; that is kept too, and a tight table is determined by what it lists.
-/

namespace ServiceRegistry.Table

variable {t : Table} {service changed : String} {p q : Provider} {l : Location}

/-- No service has two providers with one location. -/
def Distinct (t : Table) : Prop :=
  ∀ service, ((t.candidates service).map (·.location)).Nodup

/-- The empty table has no candidates. -/
@[simp] theorem candidates_empty (service : String) : candidates .empty service = [] := rfl

/-- The empty table has no repetitions. -/
theorem distinct_empty : Distinct .empty := fun _ => List.nodup_nil

/-- After a registration the candidates are the new one and those of other locations. -/
theorem mem_candidates_register :
    q ∈ (t.register changed p).candidates service ↔
      (service = changed ∧ q = p) ∨
        (q ∈ t.candidates service ∧ ¬(service = changed ∧ q.location = p.location)) := by
  rw [candidates_register]
  by_cases h : service = changed
  · subst h
    simp
  · simp [h]

/-- After a removal the candidates are those of other locations. -/
theorem mem_candidates_unregister :
    q ∈ (t.unregister changed l).candidates service ↔
      q ∈ t.candidates service ∧ ¬(service = changed ∧ q.location = l) := by
  rw [candidates_unregister]
  by_cases h : service = changed
  · subst h
    simp
  · simp [h]

/-- A registration makes no repetitions. -/
theorem Distinct.register (h : t.Distinct) (changed : String) (p : Provider) :
    (t.register changed p).Distinct := by
  intro service
  rw [candidates_register]
  split
  · rw [List.map_cons, List.nodup_cons]
    constructor
    · intro hp
      obtain ⟨q, hq, hloc⟩ := List.mem_map.1 hp
      simpa [hloc] using (List.mem_filter.1 hq).2
    · exact (h changed).sublist (List.filter_sublist.map _)
  · exact h service

/-- A removal makes no repetitions. -/
theorem Distinct.unregister (h : t.Distinct) (changed : String) (l : Location) :
    (t.unregister changed l).Distinct := by
  intro service
  rw [candidates_unregister]
  split
  · exact (h changed).sublist (List.filter_sublist.map _)
  · exact h service

/-- No service is listed without providers. -/
def Tight (t : Table) : Prop := ∀ service, t.get? service ≠ some []

/-- The empty table has no empty entries. -/
theorem tight_empty : Tight .empty := fun _ h => nomatch h

/-- A registration makes no empty entries. -/
theorem Tight.register (ht : t.Tight) (changed : String) (p : Provider) :
    (t.register changed p).Tight := by
  intro service h
  rw [Table.register, Dict.get?_insert] at h
  split at h
  · cases h
  · exact ht service h

/-- A removal leaves no empty entries. -/
theorem Tight.unregister (ht : t.Tight) (changed : String) (l : Location) :
    (t.unregister changed l).Tight := by
  intro service h
  unfold Table.unregister at h
  split at h
  · exact ht service h
  · rename_i ps _
    cases hrest : ps.filter (·.location ≠ l) with
    | nil =>
      simp only [hrest, Dict.get?_erase] at h
      split at h
      · cases h
      · exact ht service h
    | cons p rest =>
      simp only [hrest, Dict.get?_insert] at h
      split at h
      · cases h
      · exact ht service h

/-- Without empty entries, a table is what it lists. -/
theorem Tight.ext {t' : Table} (ht : t.Tight) (ht' : t'.Tight)
    (h : ∀ service, t.candidates service = t'.candidates service) : t = t' := by
  apply Dict.ext_get?
  intro service
  have hservice := h service
  have hne := ht service
  have hne' := ht' service
  unfold candidates at hservice
  cases hget : t.get? service <;> cases hget' : t'.get? service <;> simp_all

/-! ## What changes of single providers keep -/

section Keeping

variable {P : Table → Prop} (ht : P t)
include ht

/-- What each registration keeps, registering a contribution keeps. -/
theorem registerAll_keeps (hP : ∀ t service p, P t → P (t.register service p))
    (c : Contribution) : P (t.registerAll c) := by
  unfold registerAll
  induction c.providers generalizing t with
  | nil => exact ht
  | cons p rest ih => exact ih (hP t p.service p ht)

/-- What each removal keeps, removing a contribution keeps. -/
theorem unregisterAll_keeps (hP : ∀ t service l, P t → P (t.unregister service l))
    (c : Contribution) : P (t.unregisterAll c) := by
  unfold unregisterAll
  induction c.providers generalizing t with
  | nil => exact ht
  | cons p rest ih => exact ih (hP t p.service p.location ht)

/-- What each removal keeps, removing several contributions keeps. -/
theorem foldl_unregisterAll_keeps (hP : ∀ t service l, P t → P (t.unregister service l))
    (cs : List Contribution) : P (cs.foldl unregisterAll t) := by
  induction cs generalizing t with
  | nil => exact ht
  | cons c rest ih => exact ih (unregisterAll_keeps ht hP c)

end Keeping

/-- The registration of a contribution makes no repetitions. -/
theorem Distinct.registerAll (h : t.Distinct) (c : Contribution) : (t.registerAll c).Distinct :=
  registerAll_keeps h (fun _ service p ht => ht.register service p) c

/-- The removal of a contribution makes no repetitions. -/
theorem Distinct.unregisterAll (h : t.Distinct) (c : Contribution) :
    (t.unregisterAll c).Distinct :=
  unregisterAll_keeps h (fun _ service l ht => ht.unregister service l) c

/-- The removal of contributions makes no repetitions. -/
theorem Distinct.foldl_unregisterAll (h : t.Distinct) (cs : List Contribution) :
    (cs.foldl Table.unregisterAll t).Distinct :=
  foldl_unregisterAll_keeps h (fun _ service l ht => ht.unregister service l) cs

/-- The registration of a contribution makes no empty entries. -/
theorem Tight.registerAll (h : t.Tight) (c : Contribution) : (t.registerAll c).Tight :=
  registerAll_keeps h (fun _ service p ht => ht.register service p) c

/-- The removal of a contribution leaves no empty entries. -/
theorem Tight.unregisterAll (h : t.Tight) (c : Contribution) : (t.unregisterAll c).Tight :=
  unregisterAll_keeps h (fun _ service l ht => ht.unregister service l) c

/-- The removal of contributions leaves no empty entries. -/
theorem Tight.foldl_unregisterAll (h : t.Tight) (cs : List Contribution) :
    (cs.foldl Table.unregisterAll t).Tight :=
  foldl_unregisterAll_keeps h (fun _ service l ht => ht.unregister service l) cs

/-- A provider of a list stands for a pair of a service and a location. -/
def Pairs (ps : List Provider) (service : String) (l : Location) : Prop :=
  ∃ p ∈ ps, p.service = service ∧ p.location = l

/-- The pairs of a list are that of its first provider and those of the rest. -/
theorem pairs_cons {p : Provider} {ps : List Provider} {service : String} {l : Location} :
    Pairs (p :: ps) service l ↔ (p.service = service ∧ p.location = l) ∨ Pairs ps service l := by
  simp [Pairs]

/-- Removing a contribution removes what has one of its pairs of a service and a location. -/
theorem mem_candidates_unregisterAll {c : Contribution} :
    q ∈ (t.unregisterAll c).candidates service ↔
      q ∈ t.candidates service ∧ ¬Pairs c.providers service q.location := by
  unfold unregisterAll
  induction c.providers generalizing t with
  | nil => simp [Pairs]
  | cons p rest ih =>
    rw [List.foldl_cons, ih, mem_candidates_unregister, pairs_cons, not_or, and_assoc,
      @eq_comm _ service, @eq_comm _ q.location]

/-- After a contribution is registered, its pairs of a service and a location stand for its own
providers, and all other pairs for what they did before. -/
theorem mem_candidates_registerAll {c : Contribution}
    (hc : (c.providers.map (·.location)).Nodup) :
    q ∈ (t.registerAll c).candidates service ↔
      (q ∈ c.providers ∧ q.service = service) ∨
        (q ∈ t.candidates service ∧ ¬Pairs c.providers service q.location) := by
  obtain ⟨module, ps⟩ := c
  dsimp only [registerAll] at hc ⊢
  induction ps generalizing t with
  | nil => simp [Pairs]
  | cons p rest ih =>
    rw [List.map_cons, List.nodup_cons] at hc
    have hp : ¬Pairs rest service p.location := by
      rintro ⟨r, hr, -, hloc⟩
      exact hc.1 (hloc ▸ List.mem_map_of_mem hr)
    rw [List.foldl_cons, ih hc.2, mem_candidates_register, pairs_cons, List.mem_cons]
    constructor
    · rintro (⟨hq, hs⟩ | ⟨⟨rfl, rfl⟩ | ⟨hq, hne⟩, hrest⟩)
      · exact .inl ⟨.inr hq, hs⟩
      · exact .inl ⟨.inl rfl, rfl⟩
      · refine .inr ⟨hq, not_or.2 ⟨fun h => hne ⟨h.1.symm, h.2.symm⟩, hrest⟩⟩
    · rintro (⟨rfl | hq, hs⟩ | ⟨hq, hne⟩)
      · exact .inr ⟨.inl ⟨hs.symm, rfl⟩, hs ▸ hp⟩
      · exact .inl ⟨hq, hs⟩
      · rw [not_or] at hne
        exact .inr ⟨.inr ⟨hq, fun h => hne.1 ⟨h.1.symm, h.2.symm⟩⟩, hne.2⟩

/-- Removing several contributions removes what has a pair of one of them. -/
theorem mem_candidates_foldl_unregisterAll {cs : List Contribution} :
    q ∈ (cs.foldl unregisterAll t).candidates service ↔
      q ∈ t.candidates service ∧ ∀ c ∈ cs, ¬Pairs c.providers service q.location := by
  induction cs generalizing t with
  | nil => simp
  | cons c rest ih =>
    rw [List.foldl_cons, ih, mem_candidates_unregisterAll, List.forall_mem_cons, and_assoc]

end ServiceRegistry.Table
