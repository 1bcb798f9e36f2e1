import Mathlib.Data.Set.Card
import ServiceRegistry.Proofs.Correspondence
import ServiceRegistry.Proofs.Preference

/-!
# A table as the record of its changes

What a table answers follows from the list of the changes that were made to it. A pair of a service
and a location is live if the last change of the pair was a registration. The table lists the live
pairs and no others, each with the provider of that registration, the latest registration first
(`records_of_calls`); what a removal answers is whether its pair was live.

Contributions are registered and removed one provider after another, and nothing is asked of them:
they can name a pair twice.
-/

namespace ServiceRegistry

open OutsiderCall (live)

/-- A request to change a table. -/
inductive TableCall where
  | register (service : String) (p : Provider)
  | unregister (service : String) (l : Location)
  | registerAll (c : Contribution)
  | unregisterAll (c : Contribution)
deriving DecidableEq

namespace TableCall

/-- What a request does to a table. -/
def apply (t : Table) : TableCall → Table
  | register service p => t.register service p
  | unregister service l => t.unregister service l
  | registerAll c => t.registerAll c
  | unregisterAll c => t.unregisterAll c

/-- The single changes that a request consists of, in order. -/
def changes : TableCall → List OutsiderCall
  | register service p => [.register service p]
  | unregister service l => [.unregister service l]
  | registerAll c => c.providers.map fun p => .register p.service p
  | unregisterAll c => c.providers.map fun p => .unregister p.service p.location

/-- The single changes that requests have made, newest first. -/
def log (calls : List TableCall) : List OutsiderCall := (calls.flatMap changes).reverse

/-- A request makes its single changes one after another. -/
theorem apply_eq_foldl (t : Table) (call : TableCall) :
    call.apply t = call.changes.foldl OutsiderCall.apply t := by
  cases call with
  | register service p => rfl
  | unregister service l => rfl
  | registerAll c =>
    rw [changes, List.foldl_map]
    rfl
  | unregisterAll c =>
    rw [changes, List.foldl_map]
    rfl

/-- Requests make their single changes one after another. -/
theorem foldl_apply (calls : List TableCall) (t : Table) :
    calls.foldl apply t = (calls.flatMap changes).foldl OutsiderCall.apply t := by
  induction calls generalizing t with
  | nil => rfl
  | cons call rest ih =>
    rw [List.foldl_cons, ih, apply_eq_foldl, List.flatMap_cons, List.foldl_append]

end TableCall

namespace OutsiderCall

/-- How many changes there have been since a pair of a service and a location was last
registered. -/
def age (log : List OutsiderCall) (service : String) (l : Location) : Nat :=
  log.findIdx fun call => call.leaves?.isSome && (call.service = service && call.location = l)

/-- How many providers of a list stand for a live pair when their turn to be removed comes. -/
def liveAtTurn (log : List OutsiderCall) : List Provider → Nat
  | [] => 0
  | p :: rest =>
    (if (live log p.service p.location).isSome then 1 else 0) +
      liveAtTurn (unregister p.service p.location :: log) rest

variable {log : List OutsiderCall} {call : OutsiderCall} {service : String} {l : Location}

/-- A registration that has just been made has age zero. -/
theorem age_cons_self (service : String) (p : Provider) :
    age (register service p :: log) service p.location = 0 := by
  simp [age, List.findIdx_cons, leaves?, OutsiderCall.service, location]

/-- Any other change makes a registration older by one. -/
theorem age_cons_of_ne (h : call.leaves? = none ∨ ¬(call.service = service ∧ call.location = l)) :
    age (call :: log) service l = age log service l + 1 := by
  have hother : (call.leaves?.isSome && (call.service = service && call.location = l)) = false := by
    rcases h with h | h
    · simp [h]
    · simp only [Bool.and_eq_false_imp, decide_eq_true_eq]
      exact fun _ hs => decide_eq_false fun hl => h ⟨hs, hl⟩
  rw [age, List.findIdx_cons, hother]
  rfl

end OutsiderCall

namespace Table

/-- A table is what a list of changes, newest first, has made of the empty one. -/
structure Kept (log : List OutsiderCall) (t : Table) : Prop where
  registered : ∀ service p, p ∈ t.candidates service ↔ live log service p.location = some p
  distinct : t.Distinct
  latest : ∀ service, (t.candidates service).Pairwise fun p q =>
    OutsiderCall.age log service p.location < OutsiderCall.age log service q.location
  tight : t.Tight

variable {log : List OutsiderCall} {t : Table} {service : String} {l : Location}

/-- The empty table is what no change has made. -/
theorem kept_empty : Kept [] .empty where
  registered _ _ := ⟨fun h => absurd h List.not_mem_nil, nofun⟩
  distinct := distinct_empty
  latest _ := .nil
  tight := tight_empty

/-- After a change the table lists what is then live. -/
theorem Kept.registered_apply (h : t.Kept log) (call : OutsiderCall) (service : String)
    (q : Provider) : q ∈ (call.apply t).candidates service ↔
      live (call :: log) service q.location = some q := by
  rw [OutsiderCall.mem_candidates_apply, live]
  split
  · exact Iff.rfl
  · exact h.registered service q

/-- Registering puts the newest pair in front and leaves the order of the others. -/
theorem Kept.register (h : t.Kept log) (changed : String) (p : Provider) :
    (t.register changed p).Kept (.register changed p :: log) where
  registered := h.registered_apply (.register changed p)
  distinct := h.distinct.register changed p
  latest service := by
    rw [candidates_register]
    split
    · rename_i hs
      subst hs
      have hage : ∀ q ∈ (t.candidates service).filter (·.location ≠ p.location),
          OutsiderCall.age (.register service p :: log) service q.location =
            OutsiderCall.age log service q.location + 1 := by
        intro q hq
        have hne : q.location ≠ p.location := by simpa using (List.mem_filter.1 hq).2
        exact OutsiderCall.age_cons_of_ne (.inr fun hpair => hne hpair.2.symm)
      rw [List.pairwise_cons]
      constructor
      · intro q hq
        rw [OutsiderCall.age_cons_self, hage q hq]
        exact Nat.succ_pos _
      · refine ((h.latest service).filter _).imp_of_mem fun hq hr hlt => ?_
        rw [hage _ hq, hage _ hr]
        exact Nat.succ_lt_succ hlt
    · rename_i hs
      refine (h.latest service).imp fun hlt => ?_
      rw [OutsiderCall.age_cons_of_ne (.inr fun hpair => hs hpair.1.symm),
        OutsiderCall.age_cons_of_ne (.inr fun hpair => hs hpair.1.symm)]
      exact Nat.succ_lt_succ hlt
  tight := h.tight.register changed p

/-- Removing takes one pair out and leaves the order of the others. -/
theorem Kept.unregister (h : t.Kept log) (changed : String) (l : Location) :
    (t.unregister changed l).Kept (.unregister changed l :: log) where
  registered := h.registered_apply (.unregister changed l)
  distinct := h.distinct.unregister changed l
  latest service := by
    have hlatest : (t.candidates service).Pairwise fun p q =>
        OutsiderCall.age (.unregister changed l :: log) service p.location <
          OutsiderCall.age (.unregister changed l :: log) service q.location := by
      refine (h.latest service).imp fun hlt => ?_
      rw [OutsiderCall.age_cons_of_ne (.inl rfl), OutsiderCall.age_cons_of_ne (.inl rfl)]
      exact Nat.succ_lt_succ hlt
    rw [candidates_unregister]
    split
    · rename_i hs
      exact hs ▸ hlatest.filter _
    · exact hlatest
  tight := h.tight.unregister changed l

/-- A change adds itself to what a table keeps. -/
theorem Kept.apply (h : t.Kept log) (call : OutsiderCall) :
    (call.apply t).Kept (call :: log) := by
  cases call with
  | register service p => exact h.register service p
  | unregister service l => exact h.unregister service l

/-- Changes add themselves to what a table keeps, the last one in front. -/
theorem Kept.foldl_apply (h : t.Kept log) (changes : List OutsiderCall) :
    (changes.foldl OutsiderCall.apply t).Kept (changes.reverse ++ log) := by
  induction changes generalizing t log with
  | nil => exact h
  | cons call rest ih =>
    rw [List.foldl_cons, List.reverse_cons, List.append_assoc]
    exact ih (h.apply call)

/-! ## What a table answers -/

/-- A table lists the pairs that are live. -/
theorem Kept.lists (h : t.Kept log) (service : String) (l : Location) :
    t.lists service l = (live log service l).isSome := by
  rw [Bool.eq_iff_iff, Table.lists, List.any_eq_true, Option.isSome_iff_exists]
  constructor
  · rintro ⟨p, hp, hl⟩
    cases decide_eq_true_iff.1 hl
    exact ⟨p, (h.registered service p).1 hp⟩
  · rintro ⟨p, hp⟩
    cases OutsiderCall.location_of_live hp
    exact ⟨p, (h.registered service p).2 hp, decide_eq_true rfl⟩

/-- A removal counts the providers whose pair is live at its turn. -/
theorem Kept.removals (h : t.Kept log) (ps : List Provider) :
    t.removals ps = OutsiderCall.liveAtTurn log ps := by
  induction ps generalizing t log with
  | nil => rfl
  | cons p rest ih =>
    rw [Table.removals, OutsiderCall.liveAtTurn, h.lists, ih (h.unregister p.service p.location)]

/-- A service that is listed has a provider, and only such a service is. -/
theorem Tight.get?_isSome_iff (ht : t.Tight) :
    (t.get? service).isSome = true ↔ ∃ p, p ∈ t.candidates service := by
  unfold candidates
  cases hget : t.get? service with
  | none => simp
  | some ps =>
    cases ps with
    | nil => exact absurd hget (ht service)
    | cons p rest => simp

/-- A service has a candidate exactly if some pair of it is live. -/
theorem Kept.contains (h : t.Kept log) (service : String) :
    t.contains service = true ↔ ∃ l p, live log service l = some p := by
  rw [Dict.contains, h.tight.get?_isSome_iff]
  constructor
  · rintro ⟨p, hp⟩
    exact ⟨p.location, p, (h.registered service p).1 hp⟩
  · rintro ⟨l, p, hp⟩
    cases OutsiderCall.location_of_live hp
    exact ⟨p, (h.registered service p).2 hp⟩

/-- A table has an entry for a service exactly if some pair of it is live. -/
theorem Kept.mem_keys (h : t.Kept log) (service : String) :
    service ∈ t.keys ↔ ∃ l p, live log service l = some p := by
  rw [Dict.mem_keys_iff, ← Option.isSome_iff_exists]
  exact h.contains service

/-- The pairs of a service and a location for which a table has a provider. -/
def pairs (t : Table) : List (String × Location) :=
  t.entries.flatMap fun e => e.2.map fun p => (e.1, p.location)

/-- A table counts its pairs. -/
theorem length_pairs (t : Table) : t.pairs.length = t.count := by
  simp only [pairs, count, Dict.values, List.length_flatMap, List.length_flatten, List.length_map,
    List.map_map]
  rfl

/-- The pairs of a table are those of its candidates. -/
theorem mem_pairs : (service, l) ∈ t.pairs ↔ ∃ p ∈ t.candidates service, p.location = l := by
  have hentry (ps : List Provider) : (service, ps) ∈ t.entries → t.candidates service = ps := by
    intro hps
    rw [candidates, Dict.get?_eq_some_iff.2 hps, Option.getD_some]
  rw [pairs, List.mem_flatMap]
  constructor
  · rintro ⟨⟨service', ps⟩, he, hpair⟩
    obtain ⟨p, hp, hpair⟩ := List.mem_map.1 hpair
    cases hpair
    exact ⟨p, hentry ps he ▸ hp, rfl⟩
  · rintro ⟨p, hp, rfl⟩
    unfold candidates at hp
    cases hget : t.get? service with
    | none =>
      rw [hget] at hp
      exact absurd hp List.not_mem_nil
    | some ps =>
      rw [hget] at hp
      exact ⟨(service, ps), Dict.get?_eq_some_iff.1 hget, List.mem_map.2 ⟨p, hp, rfl⟩⟩

/-- In a table without repetitions no pair occurs twice. -/
theorem Distinct.nodup_pairs (h : t.Distinct) : t.pairs.Nodup := by
  refine List.nodup_flatMap.2 ⟨fun e he => ?_, ?_⟩
  · have hcandidates : t.candidates e.1 = e.2 := by
      rw [candidates, Dict.get?_eq_some_iff.2 he, Option.getD_some]
    have hnodup := h e.1
    rw [hcandidates] at hnodup
    refine List.Nodup.of_map Prod.snd ?_
    rw [List.map_map]
    exact hnodup
  · refine t.sorted.imp fun {a b} hlt => ?_
    intro x ha hb
    obtain ⟨p, -, rfl⟩ := List.mem_map.1 ha
    obtain ⟨q, -, heq⟩ := List.mem_map.1 hb
    rw [(Prod.mk.inj heq).1] at hlt
    simp [Std.ReflCmp.compare_self] at hlt

/-- The pairs of a table are the live ones. -/
theorem Kept.mem_pairs (h : t.Kept log) (x : String × Location) :
    x ∈ t.pairs ↔ (live log x.1 x.2).isSome = true := by
  rw [← h.lists, Table.lists, List.any_eq_true]
  simp only [decide_eq_true_eq]
  exact Table.mem_pairs

/-- A table that lists the live pairs of a log, and answers accordingly. -/
structure Records (log : List OutsiderCall) (t : Table) : Prop where
  /-- The candidates of a service are the providers that were registered last for its live
  locations. -/
  candidates : ∀ service p, p ∈ t.candidates service ↔ live log service p.location = some p
  /-- No location is listed twice. -/
  nodup : ∀ service, ((t.candidates service).map (·.location)).Nodup
  /-- The latest registration comes first. -/
  latest : ∀ service, (t.candidates service).Pairwise fun p q =>
    OutsiderCall.age log service p.location < OutsiderCall.age log service q.location
  /-- Removing a pair answers whether it was live. -/
  lists : ∀ service l, t.lists service l = (live log service l).isSome
  /-- Removing a contribution answers how many of its pairs were live when they were reached. -/
  removals : ∀ c : Contribution, t.removals c.providers = OutsiderCall.liveAtTurn log c.providers
  /-- A service is listed if it has a live location. -/
  contains : ∀ service, t.contains service = true ↔ ∃ l p, live log service l = some p
  /-- The services that are listed are those, in ascending order and each once. -/
  keys : ∀ service, service ∈ t.keys ↔ ∃ l p, live log service l = some p
  ascending : t.keys.Pairwise fun a b => compare a b = .lt
  /-- The providers of all services are as many as there are live pairs. -/
  count : {x : String × Location | (live log x.1 x.2).isSome = true}.Finite ∧
    t.count = {x : String × Location | (live log x.1 x.2).isSome = true}.ncard
  /-- A table is empty if no pair is live. -/
  isEmpty : t.isEmpty = true ↔ ∀ service l, live log service l = none

/-- Finitely many pairs are live, and a table counts them. -/
theorem Kept.count (h : t.Kept log) :
    {x : String × Location | (live log x.1 x.2).isSome = true}.Finite ∧
      t.count = {x : String × Location | (live log x.1 x.2).isSome = true}.ncard := by
  have hset : {x : String × Location | (live log x.1 x.2).isSome = true} =
      (t.pairs.toFinset : Set (String × Location)) := by
    ext x
    rw [Set.mem_ofPred_eq, Finset.mem_coe, List.mem_toFinset, h.mem_pairs]
  rw [hset, Set.ncard_coe_finset, List.toFinset_card_of_nodup h.distinct.nodup_pairs, length_pairs]
  exact ⟨Finset.finite_toSet _, rfl⟩

/-- A table is empty exactly if no pair is live. -/
theorem Kept.isEmpty (h : t.Kept log) :
    t.isEmpty = true ↔ ∀ service l, live log service l = none := by
  have hkeys : t.isEmpty = true ↔ t.keys = [] := by
    rw [Dict.isEmpty, Dict.keys, List.isEmpty_iff, List.map_eq_nil_iff]
  rw [hkeys, List.eq_nil_iff_forall_not_mem]
  constructor
  · intro hnone service l
    rw [Option.eq_none_iff_forall_ne_some]
    exact fun p hp => hnone service ((h.mem_keys service).2 ⟨l, p, hp⟩)
  · intro hnone service hmem
    obtain ⟨l, p, hp⟩ := (h.mem_keys service).1 hmem
    rw [hnone service l] at hp
    cases hp

/-- Whatever was asked of a table that was empty, it lists the pairs that are live, and answers
accordingly. -/
theorem records_of_calls (calls : List TableCall) :
    (calls.foldl TableCall.apply .empty).Records (TableCall.log calls) := by
  have h : (calls.foldl TableCall.apply .empty).Kept (TableCall.log calls) := by
    rw [TableCall.foldl_apply, TableCall.log, ← List.append_nil (List.reverse _)]
    exact kept_empty.foldl_apply _
  exact {
    candidates := h.registered
    nodup := h.distinct
    latest := h.latest
    lists := h.lists
    removals := fun c => h.removals c.providers
    contains := h.contains
    keys := h.mem_keys
    ascending := List.pairwise_map.2 (Dict.sorted _)
    count := h.count
    isEmpty := h.isEmpty }

end Table

end ServiceRegistry
