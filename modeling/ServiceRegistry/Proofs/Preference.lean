import ServiceRegistry.Proofs.Tables
import ServiceRegistry.Follower

/-!
# The order of preference

The candidates of a service stand in the order in which their modules were taken up, the latest
first. `Ordered` ties a table to a list of contributions in that order: it has for each service what
the contributions offer, and nothing else. Taking up a module puts its contribution in front, in
place of an earlier one, and letting go of a module leaves the order of the others.

The contributions own their locations, so none can displace another's candidates.
-/

namespace ServiceRegistry

namespace Contribution

/-- What a contribution offers for a service, in order of preference. -/
def offers (c : Contribution) (service : String) : List Provider :=
  (c.providers.filter (·.service = service)).reverse

/-- Whether a contribution has a provider for a service at a location. -/
def names (c : Contribution) (service : String) (l : Location) : Bool :=
  c.providers.any fun p => p.service = service ∧ p.location = l

/-- The locations of a contribution's providers are different and name the module. -/
structure Own (c : Contribution) : Prop where
  nodup : (c.providers.map (·.location)).Nodup
  owner : ∀ p ∈ c.providers, p.location.owner? = some c.module

variable {c : Contribution} {service : String} {p : Provider} {l : Location}

/-- A contribution offers its providers of a service. -/
theorem mem_offers : p ∈ c.offers service ↔ p ∈ c.providers ∧ p.service = service := by
  rw [offers, List.mem_reverse, List.mem_filter, decide_eq_true_iff]

/-- A contribution names the pairs of its providers. -/
theorem names_eq_true : c.names service l = true ↔
    ∃ p ∈ c.providers, p.service = service ∧ p.location = l := by
  simp [names]

/-- All that an own contribution names belongs to its module. -/
theorem Own.owner_of_names (hc : c.Own) (h : c.names service l = true) :
    l.owner? = some c.module := by
  obtain ⟨p, hp, -, rfl⟩ := names_eq_true.1 h
  exact hc.owner p hp

end Contribution

namespace ScanRule

variable {rule : ScanRule} {m : Module} {serial : Nat} {listing : Except Fault (List Location)}

/-- What a scan contributes owns its locations if the listing shows the module's own. -/
theorem own_contribution (h : ∀ l ∈ shown listing, l.owner? = some m.id) :
    (rule.contribution m serial listing).Own where
  nodup := by
    rw [locations_contribution]
    exact nodup_shown listing
  owner p hp := h p.location (of_mem_contribution hp).2.2.1

/-- What a scan offers for a service are the descriptors that end in the service's name. -/
theorem locations_offers (rule : ScanRule) (m : Module) (serial : Nat)
    (listing : Except Fault (List Location)) (service : String) :
    ((rule.contribution m serial listing).offers service).map (·.location) =
      ((shown listing).filter (·.baseName = service)).reverse := by
  have hbase : ∀ p ∈ (rule.contribution m serial listing).providers,
      decide (p.service = service) = decide (p.location.baseName = service) := by
    intro p hp
    rw [(of_mem_contribution hp).2.1]
  rw [Contribution.offers, List.filter_congr hbase, List.map_reverse,
    ← locations_contribution rule m serial, List.filter_map]
  rfl

end ScanRule

namespace Table

variable {t : Table} {c : Contribution} {service : String} {p : Provider} {l : Location}

/-- The offers of a contribution go in front of all that is there, and take the place of what is at
their locations. -/
theorem candidates_registerAll (hnodup : (c.providers.map (·.location)).Nodup) :
    (t.registerAll c).candidates service =
      c.offers service ++ (t.candidates service).filter fun q => !c.names service q.location := by
  obtain ⟨module, ps⟩ := c
  dsimp only [registerAll, Contribution.offers, Contribution.names] at hnodup ⊢
  induction ps generalizing t with
  | nil => simp
  | cons p rest ih =>
    rw [List.map_cons, List.nodup_cons] at hnodup
    have hp : (rest.any fun q => q.service = service ∧ q.location = p.location) = false := by
      rw [Bool.eq_false_iff]
      intro hany
      obtain ⟨q, hq, hpair⟩ := List.any_eq_true.1 hany
      exact hnodup.1 ((of_decide_eq_true hpair).2 ▸ List.mem_map_of_mem hq)
    rw [List.foldl_cons, ih hnodup.2, candidates_register]
    by_cases hs : service = p.service
    · subst hs
      rw [if_pos rfl, List.filter_cons_of_pos (by rw [hp]; rfl),
        List.filter_cons_of_pos (by simp), List.reverse_cons, List.append_assoc,
        List.singleton_append, List.filter_filter]
      congr 2
      apply List.filter_congr
      intro q _
      by_cases hl : q.location = p.location <;> simp [hl, eq_comm]
    · rw [if_neg hs, List.filter_cons_of_neg (by simpa using Ne.symm hs)]
      congr 1
      apply List.filter_congr
      intro q _
      simp [Ne.symm hs]

/-- Removing a contribution leaves the other candidates in their order. -/
theorem candidates_unregisterAll :
    (t.unregisterAll c).candidates service =
      (t.candidates service).filter fun q => !c.names service q.location := by
  obtain ⟨module, ps⟩ := c
  dsimp only [unregisterAll, Contribution.names]
  induction ps generalizing t with
  | nil => simp
  | cons p rest ih =>
    rw [List.foldl_cons, ih, candidates_unregister]
    split
    · rename_i hs
      subst hs
      rw [List.filter_filter]
      apply List.filter_congr
      intro q _
      by_cases hl : q.location = p.location <;> simp [hl, eq_comm]
    · rename_i hs
      apply List.filter_congr
      intro q _
      simp [Ne.symm hs]

end Table

/-- What is left of offers if some contributions are left out. -/
theorem filter_flatMap_offers {order : List Contribution} {service : String}
    {keep : Provider → Bool} {stays : Contribution → Bool}
    (h : ∀ c ∈ order, ∀ p ∈ c.offers service, keep p = stays c) :
    (order.flatMap (·.offers service)).filter keep =
      (order.filter stays).flatMap (·.offers service) := by
  induction order with
  | nil => rfl
  | cons c rest ih =>
    have hc := h c List.mem_cons_self
    rw [List.flatMap_cons, List.filter_append, ih fun d hd => h d (List.mem_cons_of_mem c hd)]
    cases hs : stays c with
    | true =>
      rw [List.filter_cons_of_pos hs, List.flatMap_cons,
        List.filter_eq_self.2 fun p hp => (hc p hp).trans hs]
    | false =>
      rw [List.filter_cons_of_neg (by simp [hs]),
        List.filter_eq_nil_iff.2 fun p hp => by simp [hc p hp, hs]]
      rfl

/-- A table lists what contributions offer, the first of them most preferred. -/
structure Ordered (groups : Dict ModuleId Contribution) (t : Table) (order : List Contribution) :
    Prop where
  groups : ∀ id c, groups.get? id = some c ↔ c ∈ order ∧ c.module = id
  nodup : (order.map (·.module)).Nodup
  own : ∀ c ∈ order, c.Own
  candidates : ∀ service, t.candidates service = order.flatMap (·.offers service)
  tight : t.Tight

namespace Ordered

variable {groups : Dict ModuleId Contribution} {t : Table} {order : List Contribution}
  {c : Contribution} {id : ModuleId}

/-- With no groups the empty table is in order. -/
theorem empty : Ordered .empty .empty [] where
  groups _ _ := ⟨nofun, fun h => absurd h.1 List.not_mem_nil⟩
  nodup := List.nodup_nil
  own _ h := absurd h List.not_mem_nil
  candidates _ := rfl
  tight := Table.tight_empty

/-- A module has one contribution in the order. -/
theorem eq_of_module (h : Ordered groups t order) {d : Contribution} (hc : c ∈ order)
    (hd : d ∈ order) (hid : c.module = d.module) : c = d :=
  List.inj_on_of_nodup_map h.nodup hc hd hid

/-- Letting go of a module leaves the order of the others. -/
theorem remove (h : Ordered groups t order) (hc : groups.get? id = some c) :
    Ordered (groups.erase id) (t.unregisterAll c) (order.filter (·.module ≠ id)) := by
  obtain ⟨hmem, hid⟩ := (h.groups id c).1 hc
  refine ⟨fun x d => ?_, h.nodup.sublist (List.filter_sublist.map _), fun d hd => ?_,
    fun service => ?_, h.tight.unregisterAll c⟩
  · rw [Dict.get?_erase]
    split
    · rename_i hx
      simp [hx]
    · rename_i hx
      rw [h.groups, List.mem_filter]
      constructor
      · rintro ⟨hd, rfl⟩
        exact ⟨⟨hd, by simpa using hx⟩, rfl⟩
      · rintro ⟨⟨hd, -⟩, rfl⟩
        exact ⟨hd, rfl⟩
  · exact h.own d (List.mem_filter.1 hd).1
  · rw [Table.candidates_unregisterAll, h.candidates, filter_flatMap_offers]
    · intro d hd q hq
      obtain ⟨hq, hservice⟩ := Contribution.mem_offers.1 hq
      by_cases hdid : d.module = id
      · have hdc := h.eq_of_module hd hmem (hdid.trans hid.symm)
        subst hdc
        have hnames := Contribution.names_eq_true.2 ⟨q, hq, hservice, rfl⟩
        simp [hdid, hnames]
      · have hnames : c.names service q.location = false := by
          refine Bool.eq_false_iff.2 fun hnames => hdid ?_
          have howner := ((h.own d hd).owner q hq).symm.trans ((h.own c hmem).owner_of_names hnames)
          exact (Option.some.inj howner).trans hid
        simp [hdid, hnames]

/-- Taking up a module that has no contribution puts its contribution in front. -/
theorem add (h : Ordered groups t order) (hnone : groups.get? c.module = none) (hc : c.Own) :
    Ordered (groups.insert c.module c) (t.registerAll c) (c :: order) := by
  have hnew : ∀ d ∈ order, d.module ≠ c.module := by
    intro d hd hid
    rw [(h.groups c.module d).2 ⟨hd, hid⟩] at hnone
    cases hnone
  refine ⟨fun x d => ?_, ?_, ?_, fun service => ?_, h.tight.registerAll c⟩
  · rw [Dict.get?_insert, List.mem_cons]
    split
    · rename_i hx
      constructor
      · rintro ⟨⟩
        exact ⟨.inl rfl, hx.symm⟩
      · rintro ⟨rfl | hd, hid⟩
        · rfl
        · exact absurd (hid.trans hx) (hnew d hd)
    · rename_i hx
      rw [h.groups]
      constructor
      · rintro ⟨hd, hid⟩
        exact ⟨.inr hd, hid⟩
      · rintro ⟨rfl | hd, hid⟩
        · exact absurd hid.symm hx
        · exact ⟨hd, hid⟩
  · rw [List.map_cons, List.nodup_cons]
    refine ⟨fun hmem => ?_, h.nodup⟩
    obtain ⟨d, hd, hid⟩ := List.mem_map.1 hmem
    exact hnew d hd hid
  · rw [List.forall_mem_cons]
    exact ⟨hc, h.own⟩
  · rw [Table.candidates_registerAll hc.nodup, h.candidates, List.flatMap_cons,
      List.filter_eq_self.2]
    intro q hq
    obtain ⟨d, hd, hq⟩ := List.mem_flatMap.1 hq
    have howner := (h.own d hd).owner q (Contribution.mem_offers.1 hq).1
    rw [Bool.not_eq_true', Bool.eq_false_iff]
    intro hnames
    refine hnew d hd ?_
    rw [hc.owner_of_names hnames] at howner
    exact (Option.some.inj howner).symm

/-! ## The changes of a follower -/

section Changes

variable {f : Follower} (h : Ordered f.groups t order)
include h

/-- Dropping a module takes its contribution out of the order. -/
theorem drop (id : ModuleId) :
    Ordered (f.drop t id).1.groups (f.drop t id).2 (order.filter (·.module ≠ id)) := by
  unfold Follower.drop
  split
  · rename_i c hc
    exact h.remove hc
  · rename_i hnone
    have hall : order.filter (·.module ≠ id) = order := by
      refine List.filter_eq_self.2 fun c hc => decide_eq_true fun hid => ?_
      rw [(h.groups id c).2 ⟨hc, hid⟩] at hnone
      cases hnone
    rw [hall]
    exact h

/-- Adopting a contribution puts it in front, in place of the one its module had. -/
theorem adopt (hc : c.Own) :
    Ordered (f.adopt t c).1.groups (f.adopt t c).2 (c :: order.filter (·.module ≠ c.module)) := by
  refine (h.drop c.module).add ?_ hc
  rw [Follower.fst_drop, Dict.get?_erase, if_pos rfl]

/-- An arrival puts the contribution in front, in place of the one its module had. -/
theorem arrive (hc : c.Own) :
    Ordered (f.arrive t c).1.groups (f.arrive t c).2
      (c :: order.filter (·.module ≠ c.module)) :=
  adopt (f := f.mark c.module) h hc

/-- A departure takes the contribution of the module out of the order. -/
theorem depart (id : ModuleId) :
    Ordered (f.depart t id).1.groups (f.depart t id).2 (order.filter (·.module ≠ id)) :=
  drop (f := f.mark id) h id

/-- A follower that stops leaves nothing behind. -/
theorem halt : (f.halt t).1.groups = .empty ∧ (f.halt t).2 = .empty := by
  refine ⟨rfl, (h.tight.foldl_unregisterAll _).ext Table.tight_empty fun service => ?_⟩
  apply List.eq_nil_iff_forall_not_mem.2
  intro q hq
  obtain ⟨hq, hpairs⟩ := Table.mem_candidates_foldl_unregisterAll.1 hq
  rw [h.candidates] at hq
  obtain ⟨c, hc, hq⟩ := List.mem_flatMap.1 hq
  obtain ⟨hq, hservice⟩ := Contribution.mem_offers.1 hq
  exact hpairs c (Dict.mem_values_iff.2 ⟨c.module, (h.groups c.module c).2 ⟨hc, rfl⟩⟩)
    ⟨q, hq, hservice, rfl⟩

end Changes

end Ordered

end ServiceRegistry
