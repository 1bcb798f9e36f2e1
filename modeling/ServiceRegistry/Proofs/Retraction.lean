import ServiceRegistry.Proofs.Ledger

/-!
# Taking a registration back

What registering the contribution of a scan and removing it again comes to. While it is registered,
its providers stand in front of all others. Afterwards the table is the former one without the
contribution's pairs of a service and a location (`Table.without`), so it is the former one if it
had none of them; and every provider of the contribution has been there to be removed
(`Table.retracted_of_calls`).

It matters that a scan counts a descriptor once: of two providers with one service and one location
the second would take the place of the first, and only one of them could be removed.
-/

namespace ServiceRegistry.Table

variable {t : Table} {c : Contribution} {service : String} {ps : List Provider}

/-- A table without the pairs of a service and a location of a contribution's providers. A service
of which nothing is left is not listed. -/
def without (t : Table) (c : Contribution) : Table where
  entries := (t.entries.map fun e =>
    (e.1, e.2.filter fun p => !c.names e.1 p.location)).filter fun e => !e.2.isEmpty
  sorted := (List.pairwise_map.2 t.sorted).filter _

/-- A table without a contribution has an entry where some provider of the old entry is left. -/
theorem get?_without_eq_some_iff : (t.without c).get? service = some ps ↔
    ∃ qs, t.get? service = some qs ∧ (qs.filter fun p => !c.names service p.location) = ps ∧
      ps ≠ [] := by
  simp only [Dict.get?_eq_some_iff, without, List.mem_filter, List.mem_map]
  constructor
  · rintro ⟨⟨⟨service', qs⟩, hqs, heq⟩, hne⟩
    cases heq
    exact ⟨qs, hqs, rfl, by simpa using hne⟩
  · rintro ⟨qs, hqs, rfl, hne⟩
    exact ⟨⟨_, hqs, rfl⟩, by simpa using hne⟩

/-- A table without a contribution has no empty entries. -/
theorem tight_without (t : Table) (c : Contribution) : (t.without c).Tight := by
  intro service h
  obtain ⟨-, -, -, hne⟩ := get?_without_eq_some_iff.1 h
  exact hne rfl

/-- The candidates in a table without a contribution are those that it does not name. -/
theorem candidates_without : (t.without c).candidates service =
    (t.candidates service).filter fun p => !c.names service p.location := by
  unfold candidates
  cases hleft : (t.without c).get? service with
  | some ps =>
    obtain ⟨qs, hqs, hps, -⟩ := get?_without_eq_some_iff.1 hleft
    rw [hqs]
    exact hps.symm
  | none =>
    cases hformer : t.get? service with
    | none => rfl
    | some qs =>
      -- Were anything left, the service would be listed with it.
      symm
      by_contra hne
      have := get?_without_eq_some_iff.2 ⟨qs, hformer, rfl, hne⟩
      rw [hleft] at this
      cases this

/-- Without pairs that it has not, a table is as it is. -/
theorem without_eq_self (ht : t.Tight)
    (hnone : ∀ p ∈ c.providers, t.lists p.service p.location = false) : t.without c = t := by
  refine (tight_without t c).ext ht fun service => ?_
  rw [candidates_without, List.filter_eq_self]
  intro q hq
  rw [Bool.not_eq_true', Bool.eq_false_iff]
  intro hnames
  obtain ⟨p, hp, rfl, hl⟩ := Contribution.names_eq_true.1 hnames
  have hlists : t.lists p.service p.location = true :=
    List.any_eq_true.2 ⟨q, hq, decide_eq_true hl.symm⟩
  rw [hnone p hp] at hlists
  cases hlists

/-- Removing what was just registered takes the contribution's pairs out of the former table. -/
theorem unregisterAll_registerAll (ht : t.Tight) (hc : (c.providers.map (·.location)).Nodup) :
    (t.registerAll c).unregisterAll c = t.without c := by
  refine ((ht.registerAll c).unregisterAll c).ext (tight_without t c) fun service => ?_
  have hoffers : (c.offers service).filter (fun q => !c.names service q.location) = [] := by
    refine List.filter_eq_nil_iff.2 fun q hq => ?_
    obtain ⟨hq, hservice⟩ := Contribution.mem_offers.1 hq
    simp [Contribution.names_eq_true.2 ⟨q, hq, hservice, rfl⟩]
  rw [candidates_unregisterAll, candidates_registerAll hc, candidates_without, List.filter_append,
    hoffers, List.nil_append, List.filter_filter]
  simp only [Bool.and_self]

/-- Removing providers one after another finds each of them, if all are there and no two have one
location. -/
theorem removals_eq_length (hnodup : (ps.map (·.location)).Nodup)
    (hlists : ∀ p ∈ ps, t.lists p.service p.location = true) : t.removals ps = ps.length := by
  induction ps generalizing t with
  | nil => rfl
  | cons p rest ih =>
    obtain ⟨hp, hrest⟩ := List.nodup_cons.1 hnodup
    have hleft : ∀ q ∈ rest,
        (t.unregister p.service p.location).lists q.service q.location = true := by
      intro q hq
      obtain ⟨r, hr, hl⟩ := List.any_eq_true.1 (hlists q (List.mem_cons_of_mem p hq))
      refine List.any_eq_true.2 ⟨r, mem_candidates_unregister.2 ⟨hr, fun hpair => hp ?_⟩, hl⟩
      have hlocation : q.location = p.location := (of_decide_eq_true hl).symm.trans hpair.2
      exact List.mem_map.2 ⟨q, hq, hlocation⟩
    rw [removals, hlists p List.mem_cons_self, ih hrest hleft, List.length_cons]
    exact Nat.add_comm 1 _

/-- After a contribution is registered, all of its providers are there. -/
theorem lists_registerAll (hc : (c.providers.map (·.location)).Nodup) {p : Provider}
    (hp : p ∈ c.providers) : (t.registerAll c).lists p.service p.location = true :=
  List.any_eq_true.2 ⟨p, (mem_candidates_registerAll hc).2 (.inl ⟨hp, rfl⟩), decide_eq_true rfl⟩

/-- No request leaves a service without providers. -/
theorem Tight.apply (ht : t.Tight) (call : TableCall) : (call.apply t).Tight := by
  cases call with
  | register service p => exact ht.register service p
  | unregister service l => exact ht.unregister service l
  | registerAll c => exact ht.registerAll c
  | unregisterAll c => exact ht.unregisterAll c

/-- No sequence of requests leaves an empty entry. -/
theorem Tight.foldl_apply (ht : t.Tight) (calls : List TableCall) :
    (calls.foldl TableCall.apply t).Tight := by
  induction calls generalizing t with
  | nil => exact ht
  | cons call rest ih => exact ih (ht.apply call)

/-- What registering a contribution and removing it again comes to in a table. -/
structure Retracted (t : Table) (c : Contribution) : Prop where
  /-- While it is registered, its offers for a service stand in front, the last of the scan first,
  and what was at their locations is gone. -/
  registered : ∀ service, (t.registerAll c).candidates service =
    c.offers service ++ (t.candidates service).filter fun q => !c.names service q.location
  /-- All of its providers are there when their turn to be removed comes. -/
  removals : (t.registerAll c).removals c.providers = c.providers.length
  /-- Nothing but its pairs of a service and a location is missing afterwards. -/
  removed : (t.registerAll c).unregisterAll c = t.without c
  /-- No service is left without providers. -/
  tight : ((t.registerAll c).unregisterAll c).Tight
  /-- Nothing is missing if none of its pairs was there before. -/
  unchanged : (∀ p ∈ c.providers, t.lists p.service p.location = false) →
    (t.registerAll c).unregisterAll c = t

/-- Removing the contribution of a scan takes its registration back, whatever the listing that was
scanned and whatever was asked of the table before. -/
theorem retracted_of_calls (calls : List TableCall) (rule : ScanRule) (m : Module) (serial : Nat)
    (listing : Except Fault (List Location)) :
    (calls.foldl TableCall.apply .empty).Retracted (rule.contribution m serial listing) := by
  have ht : (calls.foldl TableCall.apply .empty).Tight := tight_empty.foldl_apply calls
  have hc : ((rule.contribution m serial listing).providers.map (·.location)).Nodup := by
    rw [ScanRule.locations_contribution]
    exact ScanRule.nodup_shown listing
  have hremoved := unregisterAll_registerAll ht hc
  exact {
    registered := fun service => candidates_registerAll hc
    removals := removals_eq_length hc fun p hp => lists_registerAll hc hp
    removed := hremoved
    tight := hremoved ▸ tight_without _ _
    unchanged := fun hnone => hremoved.trans (without_eq_self ht hnone) }

end ServiceRegistry.Table
