import ServiceRegistry.Proofs.Correspondence
import ServiceRegistry.Proofs.Preference

/-!
# What is held for modules

The `Holdings` of a follower are the contributions that it has stored and the table of its catalog.
Letting go of a module is a change of the holdings that can be put off: it changes places with
taking up and letting go of other modules (`drop_comm`, `drop_take_of_ne`), and after it nothing
shows that the module was taken up before (`drop_take_self`). What the module has contributed
matters only in so far as contributions own their locations.
-/

namespace ServiceRegistry

/-- What a follower has stored, and what its catalog lists. -/
structure Holdings where
  groups : Dict ModuleId Contribution
  table : Table

namespace Holdings

/-- Lets go of a module. -/
def drop (x : Holdings) (id : ModuleId) : Holdings :=
  match x.groups.get? id with
  | some c => ⟨x.groups.erase id, x.table.unregisterAll c⟩
  | none => x

/-- Takes up a module with a contribution. -/
def take (x : Holdings) (c : Contribution) : Holdings where
  groups := (x.drop c.module).groups.insert c.module c
  table := (x.drop c.module).table.registerAll c

/-- Whether a module's contribution has a provider for a service at a location. -/
def names (x : Holdings) (id : ModuleId) (service : String) (l : Location) : Bool :=
  (x.groups.get? id).any (·.names service l)

section Follower

variable (f : Follower) (t : Table)

/-- Of groups and table, letting go of a module is dropping its group. -/
theorem of_drop (id : ModuleId) :
    ⟨(f.drop t id).1.groups, (f.drop t id).2⟩ = (Holdings.mk f.groups t).drop id := by
  unfold Follower.drop drop
  cases f.groups.get? id <;> rfl

/-- Of groups and table, a departure is dropping the module's group. -/
theorem of_depart (id : ModuleId) :
    ⟨(f.depart t id).1.groups, (f.depart t id).2⟩ = (Holdings.mk f.groups t).drop id :=
  of_drop (f.mark id) t id

/-- Of groups and table, an arrival is taking up the contribution. -/
theorem of_arrive (c : Contribution) :
    ⟨(f.arrive t c).1.groups, (f.arrive t c).2⟩ = (Holdings.mk f.groups t).take c := by
  unfold take
  rw [← of_drop, Follower.snd_arrive, Follower.fst_arrive, Follower.fst_drop, Dict.insert_erase]

end Follower

variable {x y : Holdings} {c d : Contribution} {id id' : ModuleId} {service : String}
  {l : Location}

/-- Dropping a group takes it from the groups. -/
theorem groups_drop : (x.drop id).groups = x.groups.erase id := by
  unfold drop
  split
  · rfl
  · rename_i h
    rw [Dict.erase_eq_self h]

/-- Taking up a contribution puts it into the groups, in place of the module's group. -/
theorem groups_take : (x.take c).groups = x.groups.insert c.module c := by
  rw [take, groups_drop, Dict.insert_erase]

/-- Dropping a group takes those candidates that stand where the group has registered any. -/
theorem candidates_drop : (x.drop id).table.candidates service =
    (x.table.candidates service).filter fun q => !x.names id service q.location := by
  unfold drop names
  split
  · rename_i d h
    rw [h, Table.candidates_unregisterAll]
    rfl
  · rename_i h
    rw [h]
    simp

/-- Taking up a contribution puts its providers in front, in place of those at the same locations.
-/
theorem candidates_take (hc : (c.providers.map (·.location)).Nodup) :
    (x.take c).table.candidates service = c.offers service ++
      ((x.drop c.module).table.candidates service).filter fun q => !c.names service q.location :=
  Table.candidates_registerAll hc

/-- Dropping a group leaves no service without candidates in the table. -/
theorem tight_drop (h : x.table.Tight) : (x.drop id).table.Tight := by
  unfold drop
  split
  · exact h.unregisterAll _
  · exact h

/-- Taking up a contribution leaves no service without candidates in the table. -/
theorem tight_take (h : x.table.Tight) : (x.take c).table.Tight := (tight_drop h).registerAll c

/-- Holdings without empty entries are what is stored and what is listed. -/
theorem ext_candidates (hgroups : x.groups = y.groups) (hx : x.table.Tight) (hy : y.table.Tight)
    (h : ∀ service, x.table.candidates service = y.table.candidates service) : x = y := by
  obtain ⟨groups, t⟩ := x
  obtain ⟨groups', t'⟩ := y
  cases hgroups
  cases hx.ext hy h
  rfl

/-- Dropping a group leaves what other groups name. -/
theorem names_drop_of_ne (h : id' ≠ id) :
    (x.drop id).names id' service l = x.names id' service l := by
  rw [names, names, groups_drop, Dict.get?_erase, if_neg h]

/-- Taking up a contribution leaves what other groups name. -/
theorem names_take_of_ne (h : id ≠ c.module) :
    (x.take c).names id service l = x.names id service l := by
  rw [names, names, groups_take, Dict.get?_insert, if_neg h]

/-- What the group of a contribution names is what the contribution does. -/
theorem names_take_self : (x.take c).names c.module service l = c.names service l := by
  rw [names, groups_take, Dict.get?_insert, if_pos rfl, Option.any_some]

/-- It makes no difference which of two modules is let go of first. -/
theorem drop_comm (hx : x.table.Tight) (id id' : ModuleId) :
    (x.drop id).drop id' = (x.drop id').drop id := by
  by_cases hid : id' = id
  · rw [hid]
  refine ext_candidates ?_ (tight_drop (tight_drop hx)) (tight_drop (tight_drop hx))
    fun service => ?_
  · apply Dict.ext_get?
    intro k
    simp only [groups_drop, Dict.get?_erase]
    split <;> split <;> rfl
  · simp only [candidates_drop, names_drop_of_ne hid, names_drop_of_ne (Ne.symm hid)]
    exact List.filter_comm _ _ _

/-- There is nothing to be dropped of a module that is not tracked. -/
theorem drop_of_untracked (h : x.groups.get? id = none) : x.drop id = x := by
  unfold drop
  rw [h]

/-- A module that has been let go of is not there to be let go of. -/
theorem drop_drop_self : (x.drop id).drop id = x.drop id := by
  apply drop_of_untracked
  rw [groups_drop, Dict.get?_erase, if_pos rfl]

/-- Letting go of one module and taking up another can change places. -/
theorem drop_take_of_ne (hx : x.table.Tight) (hc : c.Own) (hid : c.module ≠ id)
    (howner : ∀ service l, x.names id service l = true → l.owner? = some id) :
    (x.take c).drop id = (x.drop id).take c := by
  refine ext_candidates ?_ (tight_drop (tight_take hx)) (tight_take (tight_drop hx))
    fun service => ?_
  · apply Dict.ext_get?
    intro k
    simp only [groups_drop, groups_take, Dict.get?_erase, Dict.get?_insert]
    split <;> split <;> simp_all
  · -- What comes in front is at locations of its own module, so letting go of the other spares it.
    have hoffers : (c.offers service).filter (fun q => !x.names id service q.location) =
        c.offers service := by
      refine List.filter_eq_self.2 fun q hq => ?_
      rw [Bool.not_eq_true', Bool.eq_false_iff]
      intro hnames
      have hlocation := hc.owner q (Contribution.mem_offers.1 hq).1
      rw [howner service q.location hnames] at hlocation
      exact hid (Option.some.inj hlocation).symm
    rw [candidates_drop, candidates_take hc.nodup, candidates_take hc.nodup,
      drop_comm hx id c.module]
    simp only [names_take_of_ne hid.symm, List.filter_append, hoffers]
    rw [List.filter_comm]
    simp only [candidates_drop, names_drop_of_ne hid.symm]

/-- Nothing shows that a module was taken up, once it has been let go of. -/
theorem drop_take_self (hx : x.table.Tight) (hc : (c.providers.map (·.location)).Nodup)
    (hfree : ∀ service, ∀ q ∈ (x.drop c.module).table.candidates service,
      c.names service q.location = false) :
    (x.take c).drop c.module = x.drop c.module := by
  refine ext_candidates ?_ (tight_drop (tight_take hx)) (tight_drop hx) fun service => ?_
  · apply Dict.ext_get?
    intro k
    simp only [groups_drop, groups_take, Dict.get?_erase, Dict.get?_insert]
    split <;> rfl
  · have hoffers : (c.offers service).filter (fun q => !c.names service q.location) = [] := by
      refine List.filter_eq_nil_iff.2 fun q hq => ?_
      obtain ⟨hq, hservice⟩ := Contribution.mem_offers.1 hq
      have hnames := Contribution.names_eq_true.2 ⟨q, hq, hservice, rfl⟩
      simp [hnames]
    have hrest : ((x.drop c.module).table.candidates service).filter
        (fun q => !c.names service q.location) = (x.drop c.module).table.candidates service :=
      List.filter_eq_self.2 fun q hq => by rw [hfree service q hq, Bool.not_false]
    rw [candidates_drop, candidates_take hc]
    simp only [names_take_self, List.filter_append, hoffers, hrest, List.nil_append]

end Holdings

namespace Corresponds

variable {lists : Location → Prop} {bound : Nat} {groups : Dict ModuleId Contribution}
  {calls : List OutsiderCall} {t : Table} {id : ModuleId} {c : Contribution} {service : String}
  {l : Location} {q : Provider}

variable {x : Holdings}

/-- Dropping a group keeps the correspondence of groups and table. -/
theorem holdings_drop (h : Corresponds lists bound x.groups calls x.table) (id : ModuleId) :
    Corresponds lists bound (x.drop id).groups calls (x.drop id).table := by
  unfold Holdings.drop
  split
  · rename_i c hc
    exact h.remove hc
  · exact h

/-- Taking up an owned contribution keeps the correspondence of groups and table. -/
theorem holdings_take (h : Corresponds lists bound x.groups calls x.table)
    (hc : c.Owned lists bound id) :
    Corresponds lists bound (x.take c).groups calls (x.take c).table := by
  refine (h.holdings_drop c.module).add ?_ (hc.module ▸ hc)
  rw [Holdings.groups_drop, Dict.get?_erase, if_pos rfl]

/-- What a stored contribution names is the module's. -/
theorem owner_of_names (h : Corresponds lists bound groups calls t)
    (hnames : (Holdings.mk groups t).names id service l = true) : l.owner? = some id := by
  unfold Holdings.names at hnames
  cases hc : groups.get? id with
  | none =>
    rw [hc] at hnames
    cases hnames
  | some c =>
    rw [hc] at hnames
    exact (h.owned id c hc).owner_of_pairs (Contribution.names_eq_true.1 hnames)

/-- Where a module that is not taken up can have descriptors, nothing is listed. -/
theorem not_names {bound' : Nat} (h : Corresponds lists bound groups calls t)
    (hnone : groups.get? id = none) (hc : c.Owned lists bound' id) (hq : q ∈ t.candidates service) :
    c.names service q.location = false := by
  rw [Bool.eq_false_iff]
  intro hnames
  have hpairs := Contribution.names_eq_true.1 hnames
  rcases (h.registered service q).1 hq with ⟨id', d, hd, hq, hservice⟩ | hlive
  · have howner := ((h.owned id' d hd).owner q hq).2
    rw [hc.owner_of_pairs hpairs] at howner
    rw [Option.some.inj howner, hd] at hnone
    cases hnone
  · exact h.unlisted_of_live hlive (hc.listed_of_pairs hpairs)

end Corresponds

end ServiceRegistry
