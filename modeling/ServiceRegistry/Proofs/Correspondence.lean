import ServiceRegistry.Proofs.Tables
import ServiceRegistry.Follower

/-!
# Stored contributions and the table

A follower's stored contributions and the table of its catalog correspond: the table lists the
providers of the stored contributions and, beside them, what outsiders have registered and not
removed again. Removing goes by location, so the correspondence rests on who owns which pair of a
service and a location: a stored contribution owns pairs whose locations name its module, and
outsiders keep away from the pairs that modules list (`Corresponds`).

Each change of a follower keeps the correspondence, and so does each call of an outsider. How these
changes come about in a run is not the subject of this module.
-/

namespace ServiceRegistry

/-- A change of a table by someone who is no follower. -/
inductive OutsiderCall where
  | register (service : String) (p : Provider)
  | unregister (service : String) (l : Location)
deriving DecidableEq

namespace OutsiderCall

/-- The service that a call is about. -/
def service : OutsiderCall → String
  | register service _ => service
  | unregister service _ => service

/-- The location that a call is about. -/
def location : OutsiderCall → Location
  | register _ p => p.location
  | unregister _ l => l

/-- The provider that stands for a call's pair after the call. -/
def leaves? : OutsiderCall → Option Provider
  | register _ p => some p
  | unregister _ _ => none

/-- What a call does to a table. -/
def apply (t : Table) : OutsiderCall → Table
  | register service p => t.register service p
  | unregister service l => t.unregister service l

/-- What outsiders' calls, newest first, have left for a service and a location. -/
def live : List OutsiderCall → String → Location → Option Provider
  | [], _, _ => none
  | call :: before, service, l =>
    if service = call.service ∧ l = call.location then call.leaves? else live before service l

/-- What an outsider has registered at a location is a provider of that location. -/
theorem location_of_live {calls : List OutsiderCall} {service : String} {l : Location}
    {p : Provider} (h : live calls service l = some p) : p.location = l := by
  induction calls with
  | nil => cases h
  | cons call before ih =>
    unfold live at h
    split at h
    · rename_i hpair
      cases call with
      | register service' q =>
        cases h
        exact hpair.2.symm
      | unregister service' l' => cases h
    · exact ih h

/-- Nothing is left of a provider that was never registered. -/
theorem register_of_live {calls : List OutsiderCall} {service : String} {l : Location}
    {p : Provider} (h : live calls service l = some p) : register service p ∈ calls := by
  induction calls with
  | nil => cases h
  | cons call before ih =>
    unfold live at h
    split at h
    · rename_i hpair
      cases call with
      | register service' q =>
        cases h
        exact hpair.1 ▸ List.mem_cons_self
      | unregister service' l' => cases h
    · exact List.mem_cons_of_mem call (ih h)

/-- An outsider's call decides what stands at its own location, and there only. -/
theorem mem_candidates_apply {t : Table} {call : OutsiderCall} {service : String} {q : Provider} :
    q ∈ (call.apply t).candidates service ↔
      if service = call.service ∧ q.location = call.location then call.leaves? = some q
      else q ∈ t.candidates service := by
  split
  · rename_i hpair
    cases call with
    | register service' p =>
      rw [apply, Table.mem_candidates_register, leaves?, Option.some.injEq, @eq_comm _ p]
      exact ⟨fun h => h.elim (·.2) fun h => absurd hpair h.2, fun h => .inl ⟨hpair.1, h⟩⟩
    | unregister service' l =>
      rw [apply, Table.mem_candidates_unregister]
      exact ⟨fun h => absurd hpair h.2, nofun⟩
  · rename_i hpair
    cases call with
    | register service' p =>
      rw [apply, Table.mem_candidates_register]
      refine ⟨fun h => ?_, fun h => .inr ⟨h, hpair⟩⟩
      rcases h with ⟨hservice, rfl⟩ | h
      · exact absurd ⟨hservice, rfl⟩ hpair
      · exact h.1
    | unregister service' l =>
      rw [apply, Table.mem_candidates_unregister]
      exact and_iff_left hpair

end OutsiderCall

/-- A contribution of a module, with providers of the module's own descriptors that were numbered
before `bound`. -/
structure Contribution.Owned (lists : Location → Prop) (bound : Nat) (id : ModuleId)
    (c : Contribution) : Prop where
  module : c.module = id
  nodup : (c.providers.map (·.location)).Nodup
  owner : ∀ p ∈ c.providers, p.module.id = id ∧ p.location.owner? = some id
  listed : ∀ p ∈ c.providers, lists p.location ∧ p.service = p.location.baseName
  numbered : ∀ p ∈ c.providers, p.serial < bound

variable {lists : Location → Prop} {bound : Nat} {id : ModuleId} {c : Contribution}
  {groups : Dict ModuleId Contribution} {t : Table} {calls : List OutsiderCall}
  {service : String} {l : Location}

/-- The locations of an owned contribution are those of its module. -/
theorem Contribution.Owned.owner_of_pairs (hc : c.Owned lists bound id)
    (h : Table.Pairs c.providers service l) : l.owner? = some id := by
  obtain ⟨p, hp, -, rfl⟩ := h
  exact (hc.owner p hp).2

/-- An owned contribution has only locations that were listed, each for the service of its name. -/
theorem Contribution.Owned.listed_of_pairs (hc : c.Owned lists bound id)
    (h : Table.Pairs c.providers service l) : lists l ∧ service = l.baseName := by
  obtain ⟨p, hp, hservice, rfl⟩ := h
  exact ⟨(hc.listed p hp).1, hservice ▸ (hc.listed p hp).2⟩

/-- Numbers below a bound are below a higher one. -/
theorem Contribution.Owned.mono {bound' : Nat} (hc : c.Owned lists bound id)
    (h : bound ≤ bound') : c.Owned lists bound' id :=
  { hc with numbered := fun p hp => Nat.lt_of_lt_of_le (hc.numbered p hp) h }

/-- What a scan contributes is the module's own if the module lists only descriptors of its own. -/
theorem Contribution.owned_of_shown {rule : ScanRule} {m : Module} {serial : Nat}
    {listing : Except Fault (List Location)}
    (h : ∀ l ∈ ScanRule.shown listing, lists l ∧ l.owner? = some m.id) :
    (rule.contribution m serial listing).Owned lists
      (serial + (rule.contribution m serial listing).providers.length) m.id where
  module := rfl
  nodup := by
    rw [ScanRule.locations_contribution]
    exact ScanRule.nodup_shown listing
  owner p hp := by
    obtain ⟨hmodule, -, hl, -⟩ := ScanRule.of_mem_contribution hp
    exact ⟨hmodule ▸ rfl, (h _ hl).2⟩
  listed p hp := by
    obtain ⟨-, hservice, hl, -⟩ := ScanRule.of_mem_contribution hp
    exact ⟨(h _ hl).1, hservice⟩
  numbered p hp := by
    obtain ⟨-, -, -, -, hserial⟩ := ScanRule.of_mem_contribution hp
    exact hserial

/-- A stored contribution has a provider for a service. -/
def Stores (groups : Dict ModuleId Contribution) (service : String) (p : Provider) : Prop :=
  ∃ id c, groups.get? id = some c ∧ p ∈ c.providers ∧ p.service = service

/-- The stored contributions and the outsiders' calls account for the table. -/
structure Corresponds (lists : Location → Prop) (bound : Nat)
    (groups : Dict ModuleId Contribution) (calls : List OutsiderCall) (t : Table) : Prop where
  owned : ∀ id c, groups.get? id = some c → c.Owned lists bound id
  /-- The outsiders keep away from the pairs that modules list. -/
  unlisted : ∀ call ∈ calls, ¬(lists call.location ∧ call.service = call.location.baseName)
  registered : ∀ service p, p ∈ t.candidates service ↔
    Stores groups service p ∨ OutsiderCall.live calls service p.location = some p
  distinct : t.Distinct
  tight : t.Tight

namespace Corresponds

/-- At first there are no groups, no calls and no entries, and these correspond. -/
theorem empty : Corresponds lists bound .empty [] .empty where
  owned := fun id c h => by cases h
  unlisted := fun call h => absurd h List.not_mem_nil
  registered := fun service p => by
    constructor
    · intro h
      exact absurd h List.not_mem_nil
    · rintro (⟨id, c, h, -⟩ | h) <;> cases h
  distinct := Table.distinct_empty
  tight := Table.tight_empty

/-- The correspondence holds for a higher bound on the numbers of providers as well. -/
theorem mono {bound' : Nat} (h : Corresponds lists bound groups calls t) (hb : bound ≤ bound') :
    Corresponds lists bound' groups calls t :=
  { h with owned := fun id c hc => (h.owned id c hc).mono hb }

/-- What an outsider has registered is at no location of a module's listing. -/
theorem unlisted_of_live (h : Corresponds lists bound groups calls t) {p : Provider}
    (hlive : OutsiderCall.live calls service l = some p) :
    ¬(lists l ∧ service = l.baseName) := by
  have hloc := OutsiderCall.location_of_live hlive
  have := h.unlisted _ (OutsiderCall.register_of_live hlive)
  simpa only [OutsiderCall.service, OutsiderCall.location, hloc] using this

/-- A pair of a stored contribution is none of the outsiders'. -/
theorem live_of_stores (h : Corresponds lists bound groups calls t) {p : Provider}
    (hp : Stores groups service p) : OutsiderCall.live calls service p.location = none := by
  obtain ⟨id, c, hc, hp, hservice⟩ := hp
  have hlisted := (h.owned id c hc).listed p hp
  cases hlive : OutsiderCall.live calls service p.location with
  | none => rfl
  | some q => exact absurd ⟨hlisted.1, hservice ▸ hlisted.2⟩ (h.unlisted_of_live hlive)

/-- Removing a stored contribution removes its own providers and no others. -/
theorem remove (h : Corresponds lists bound groups calls t) (hc : groups.get? id = some c) :
    Corresponds lists bound (groups.erase id) calls (t.unregisterAll c) := by
  have howned := h.owned id c hc
  refine ⟨fun id' c' hc' => ?_, h.unlisted, fun service p => ?_, h.distinct.unregisterAll c,
    h.tight.unregisterAll c⟩
  · rw [Dict.get?_erase] at hc'
    split at hc'
    · cases hc'
    · exact h.owned id' c' hc'
  · rw [Table.mem_candidates_unregisterAll, h.registered]
    constructor
    · rintro ⟨⟨id', c', hc', hp, hservice⟩ | hlive, hpairs⟩
      · refine .inl ⟨id', c', ?_, hp, hservice⟩
        rw [Dict.get?_erase, if_neg]
        · exact hc'
        · rintro rfl
          cases hc.symm.trans hc'
          exact hpairs ⟨p, hp, hservice, rfl⟩
      · exact .inr hlive
    · rintro (⟨id', c', hc', hp, hservice⟩ | hlive)
      · rw [Dict.get?_erase] at hc'
        split at hc'
        · cases hc'
        · rename_i hne
          refine ⟨.inl ⟨id', c', hc', hp, hservice⟩, fun hpairs => hne ?_⟩
          have hid := ((h.owned id' c' hc').owner p hp).2
          exact Option.some.inj (hid.symm.trans (howned.owner_of_pairs hpairs))
      · exact ⟨.inr hlive, fun hpairs =>
          h.unlisted_of_live hlive (howned.listed_of_pairs hpairs)⟩

/-- Storing the contribution of a module that has none adds the contribution's providers. -/
theorem add (h : Corresponds lists bound groups calls t) (hnone : groups.get? id = none)
    (hc : c.Owned lists bound id) :
    Corresponds lists bound (groups.insert id c) calls (t.registerAll c) := by
  refine ⟨fun id' c' hc' => ?_, h.unlisted, fun service p => ?_, h.distinct.registerAll c,
    h.tight.registerAll c⟩
  · rw [Dict.get?_insert] at hc'
    split at hc'
    · rename_i heq
      cases hc'
      exact heq ▸ hc
    · exact h.owned id' c' hc'
  · rw [Table.mem_candidates_registerAll hc.nodup, h.registered]
    constructor
    · rintro (⟨hp, hservice⟩ | ⟨⟨id', c', hc', hp, hservice⟩ | hlive, -⟩)
      · exact .inl ⟨id, c, by rw [Dict.get?_insert, if_pos rfl], hp, hservice⟩
      · have hne : id' ≠ id := by
          rintro rfl
          cases hnone.symm.trans hc'
        exact .inl ⟨id', c', by rw [Dict.get?_insert, if_neg hne]; exact hc', hp, hservice⟩
      · exact .inr hlive
    · rintro (⟨id', c', hc', hp, hservice⟩ | hlive)
      · rw [Dict.get?_insert] at hc'
        split at hc'
        · cases hc'
          exact .inl ⟨hp, hservice⟩
        · rename_i hne
          refine .inr ⟨.inl ⟨id', c', hc', hp, hservice⟩, fun hpairs => hne ?_⟩
          have hid := ((h.owned id' c' hc').owner p hp).2
          exact Option.some.inj (hid.symm.trans (hc.owner_of_pairs hpairs))
      · exact .inr ⟨.inr hlive, fun hpairs =>
          h.unlisted_of_live hlive (hc.listed_of_pairs hpairs)⟩

/-- Removing all stored contributions leaves what is the outsiders'. -/
theorem removeAll (h : Corresponds lists bound groups calls t) :
    Corresponds lists bound .empty calls (groups.values.foldl Table.unregisterAll t) := by
  refine ⟨fun id c hc => (by cases hc), h.unlisted, fun service p => ?_,
    h.distinct.foldl_unregisterAll _, h.tight.foldl_unregisterAll _⟩
  rw [Table.mem_candidates_foldl_unregisterAll, h.registered]
  constructor
  · rintro ⟨⟨id, c, hc, hp, hservice⟩ | hlive, hpairs⟩
    · exact absurd ⟨p, hp, hservice, rfl⟩ (hpairs c (Dict.mem_values_iff.2 ⟨id, hc⟩))
    · exact .inr hlive
  · rintro (⟨id, c, hc, -⟩ | hlive)
    · cases hc
    · refine ⟨.inr hlive, fun c hc hpairs => ?_⟩
      obtain ⟨id, hc⟩ := Dict.mem_values_iff.1 hc
      exact h.unlisted_of_live hlive ((h.owned id c hc).listed_of_pairs hpairs)

/-- An outsider's call changes what is the outsiders'. -/
theorem apply (h : Corresponds lists bound groups calls t) {call : OutsiderCall}
    (hcall : ¬(lists call.location ∧ call.service = call.location.baseName)) :
    Corresponds lists bound groups (call :: calls) (call.apply t) := by
  refine ⟨h.owned, fun d hd => ?_, fun service p => ?_, ?_, ?_⟩
  · rcases List.mem_cons.1 hd with rfl | hd
    · exact hcall
    · exact h.unlisted d hd
  · rw [OutsiderCall.mem_candidates_apply, OutsiderCall.live]
    split
    · rename_i hpair
      refine ⟨.inr, fun hp => hp.resolve_left ?_⟩
      rintro ⟨id, c, hc, hp, hservice⟩
      have hlisted := (h.owned id c hc).listed p hp
      rw [hpair.2, hservice, hpair.1] at hlisted
      exact hcall hlisted
    · exact h.registered service p
  · cases call with
    | register service p => exact h.distinct.register service p
    | unregister service l => exact h.distinct.unregister service l
  · cases call with
    | register service p => exact h.tight.register service p
    | unregister service l => exact h.tight.unregister service l

/-! ## The changes of a follower -/

section Changes

variable {f : Follower} (h : Corresponds lists bound f.groups calls t)
include h

/-- Letting go of a module keeps the correspondence. -/
theorem drop (id : ModuleId) :
    Corresponds lists bound (f.drop t id).1.groups calls (f.drop t id).2 := by
  unfold Follower.drop
  split
  · rename_i c hc
    exact h.remove hc
  · exact h

/-- Adopting an owned contribution keeps the correspondence. -/
theorem adopt (hc : c.Owned lists bound id) :
    Corresponds lists bound (f.adopt t c).1.groups calls (f.adopt t c).2 := by
  have hdrop := h.drop c.module
  have hnone : (f.drop t c.module).1.groups.get? c.module = none := by
    rw [Follower.fst_drop, Dict.get?_erase, if_pos rfl]
  exact hdrop.add hnone (hc.module ▸ hc)

/-- An arrival keeps the correspondence. -/
theorem arrive (hc : c.Owned lists bound id) :
    Corresponds lists bound (f.arrive t c).1.groups calls (f.arrive t c).2 :=
  adopt (f := f.mark c.module) h hc

/-- A departure keeps the correspondence. -/
theorem depart (id : ModuleId) :
    Corresponds lists bound (f.depart t id).1.groups calls (f.depart t id).2 :=
  drop (f := f.mark id) h id

/-- The end of a run keeps the correspondence: only what outsiders have registered is left. -/
theorem halt : Corresponds lists bound (f.halt t).1.groups calls (f.halt t).2 := h.removeAll

end Changes

/-! ## What follows for those who look on -/

/-- A follower's contributions and a table as they look from outside. -/
structure Accounts (bound : Nat) (f : Follower) (calls : List OutsiderCall) (t : Table) :
    Prop where
  /-- A provider that no outsider has registered is listed for a service exactly if a stored
  contribution has it. -/
  scanned : ∀ service p, (∀ s, OutsiderCall.register s p ∉ calls) →
    (p ∈ t.candidates service ↔ Stores f.groups service p)
  /-- What is listed beside the stored contributions is what the outsiders' calls have left. -/
  outsiders : ∀ service p, p ∈ t.candidates service ↔
    Stores f.groups service p ∨ OutsiderCall.live calls service p.location = some p
  /-- The outsiders have left nothing where a stored contribution has a provider. -/
  apart : ∀ service p, Stores f.groups service p →
    OutsiderCall.live calls service p.location = none
  /-- The providers of later scans are others than those of the stored contributions. -/
  numbered : ∀ service p, Stores f.groups service p → p.serial < bound
  /-- No service lists a location twice. -/
  distinct : ∀ service, ((t.candidates service).map (·.location)).Nodup
  /-- The services that a follower shows for a module are those that list a provider of the module
  which is none of the outsiders'. -/
  contributions : ∀ id service,
    (∃ services, f.contributions? id = some services ∧ service ∈ services) ↔
      ∃ p ∈ t.candidates service, p.module.id = id ∧
        OutsiderCall.live calls service p.location ≠ some p

/-- What corresponds gives an account of every entry of the table. -/
theorem accounts {f : Follower} (h : Corresponds lists bound f.groups calls t) :
    Accounts bound f calls t where
  scanned service p hp := by
    rw [h.registered]
    refine ⟨fun hor => hor.resolve_right fun hlive => ?_, .inl⟩
    exact hp _ (OutsiderCall.register_of_live hlive)
  outsiders := h.registered
  apart service p hp := h.live_of_stores hp
  numbered := by
    rintro service p ⟨id, c, hc, hp, -⟩
    exact (h.owned id c hc).numbered p hp
  distinct := h.distinct
  contributions id service := by
    simp only [Follower.contributions?, Option.map_eq_some_iff]
    constructor
    · rintro ⟨_, ⟨c, hc, rfl⟩, hservice⟩
      obtain ⟨p, hp, hservice⟩ := List.mem_map.1 hservice
      have hstores : Stores f.groups service p := ⟨id, c, hc, hp, hservice⟩
      refine ⟨p, (h.registered service p).2 (.inl hstores), ((h.owned id c hc).owner p hp).1, ?_⟩
      rw [h.live_of_stores hstores]
      exact nofun
    · rintro ⟨p, hp, hid, hlive⟩
      obtain ⟨id', c, hc, hp, hservice⟩ := ((h.registered service p).1 hp).resolve_right hlive
      cases ((h.owned id' c hc).owner p hp).1.symm.trans hid
      exact ⟨_, ⟨c, hc, rfl⟩, List.mem_map.2 ⟨p, hp, hservice⟩⟩

end Corresponds

end ServiceRegistry
