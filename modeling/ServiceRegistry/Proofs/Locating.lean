import Mathlib.Data.List.Basic
import ServiceRegistry.Stock

/-!
# Locating one type and locating all

Resolving a provider changes what is remembered, but not what it will give while the modules stay as
they are (`Stock.Steady`): a memory repeats what was found, and what is not remembered is found
again. So each provider has one type to offer under a contract, or none (`Stock.offer?`), and both
ways of locating go by these offers alone. The answers that follow are collected in
`Stock.Agrees`; `agrees_of_apart` says that they hold in every state, for every catalog, whatever is
remembered of its providers.

Provider objects are taken to be told apart by their numbers. Nothing is said of modules whose
contents change between two questions.
-/

namespace ServiceRegistry

/-- The provider objects of a list are told apart by their numbers. -/
def Provider.Apart (ps : List Provider) : Prop :=
  ∀ p ∈ ps, ∀ q ∈ ps, p.serial = q.serial → p = q

namespace Stock

/-- What resolving a provider gives: what is remembered of it, or else what its descriptor says. -/
def outcome (s : Stock) (p : Provider) : Resolution :=
  (s.memo p).getD (p.fetch (s.view p.module))

/-- The type that a provider has to offer under a contract, if it resolves and meets the
contract. -/
def offer? (s : Stock) (c : Contract) (p : Provider) : Option LoadedType :=
  match s.outcome p with
  | .error _ => none
  | .ok t => if c.isMetBy ((s.view p.module).loadType c.name) then some t else none

/-- Modules answer as before, and the providers of a list give what they gave. -/
structure Steady (ps : List Provider) (s s' : Stock) : Prop where
  view : ∀ m, s'.view m = s.view m
  outcome : ∀ p ∈ ps, s'.outcome p = s.outcome p

variable {s s' s'' : Stock} {ps qs : List Provider} {p q : Provider} {c : Contract}
  {t : LoadedType} {pin : Option String}

/-! ## Single providers -/

/-- A stock gives what it gives. -/
theorem Steady.refl (ps : List Provider) (s : Stock) : Steady ps s s :=
  ⟨fun _ => rfl, fun _ _ => rfl⟩

/-- What stays in two steps stays in both together. -/
theorem Steady.trans (h : Steady ps s s') (h' : Steady ps s' s'') : Steady ps s s'' where
  view m := (h'.view m).trans (h.view m)
  outcome p hp := (h'.outcome p hp).trans (h.outcome p hp)

/-- Providers offer what they offered. -/
theorem Steady.offer? (h : Steady ps s s') (hp : p ∈ ps) : s'.offer? c p = s.offer? c p := by
  unfold Stock.offer?
  rw [h.outcome p hp, h.view]

/-- A change that leaves a module's content alone changes no answer. -/
theorem steady_update (s : Stock) (m : Module) {f : ModuleObject → ModuleObject}
    (hf : ∀ o, (f o).content = o.content) : Steady ps s (s.update m f) where
  view k := s.view_update m k hf
  outcome p _ := by
    unfold outcome
    rw [s.view_update m p.module hf]
    rfl

/-- Resolving a provider answers with its outcome. -/
theorem fst_resolve (s : Stock) (p : Provider) : (s.resolve p).1 = s.outcome p := by
  unfold resolve outcome
  cases s.memo p <;> rfl

/-- What is remembered after a provider was fetched is no other than what was fetched. -/
theorem getD_remember (p : Provider) (r : Resolution) : (p.remember r).getD r = r := by
  unfold Provider.remember
  split <;> rfl

/-- Resolving changes what no module answers. -/
theorem view_resolve (s : Stock) (p : Provider) (m : Module) :
    (s.resolve p).2.view m = s.view m := by
  unfold resolve
  cases s.memo p with
  | some r => rfl
  | none => exact s.view_update p.module m fun _ => rfl

/-- Resolving remembers an outcome for the provider only, and only if nothing is remembered yet. -/
theorem memo_resolve (s : Stock) (p q : Provider) : (s.resolve p).2.memo q =
    if s.memo p = none ∧ q.serial = p.serial then p.remember (s.outcome p) else s.memo q := by
  unfold resolve outcome
  cases s.memo p with
  | some r => simp
  | none =>
    simp only [true_and]
    exact Store.get_set s.memos p.serial q.serial _

/-- Resolving a provider leaves what it and the others give. -/
theorem steady_resolve (hps : Provider.Apart ps) (hp : p ∈ ps) (s : Stock) :
    Steady ps s (s.resolve p).2 where
  view := s.view_resolve p
  outcome q hq := by
    rw [outcome, memo_resolve, view_resolve]
    split
    · rename_i h
      obtain rfl := hps q hq p hp h.2
      have houtcome : s.outcome q = q.fetch (s.view q.module) := by
        rw [outcome, h.1, Option.getD_none]
      rw [← houtcome, getD_remember]
    · rfl

/-- Resolving one of some providers gives its outcome and leaves what all of them give. -/
theorem resolve_eq (hps : Provider.Apart ps) (hp : p ∈ ps) (s : Stock) :
    ∃ s', Steady ps s s' ∧ s.resolve p = (s.outcome p, s') :=
  ⟨_, steady_resolve hps hp s, Prod.ext (s.fst_resolve p) rfl⟩

/-- A contract is met or not by what the module has for its name. -/
theorem fst_accepts (s : Stock) (c : Contract) (p : Provider) :
    (s.accepts c p).1 = c.isMetBy ((s.view p.module).loadType c.name) := by
  unfold accepts
  cases horigin : c.origin with
  | none => simp [Contract.isMetBy, horigin]
  | some origin => rfl

/-- Checking a contract leaves what providers give. -/
theorem steady_accepts (s : Stock) (c : Contract) (p : Provider) :
    Steady ps s (s.accepts c p).2 := by
  unfold accepts
  cases c.origin with
  | none => exact .refl ps s
  | some origin => exact s.steady_update p.module fun _ => rfl

/-- Checking a contract answers by the module's type and leaves what providers give. -/
theorem accepts_eq (ps : List Provider) (s : Stock) (c : Contract) (p : Provider) :
    ∃ s', Steady ps s s' ∧
      s.accepts c p = (c.isMetBy ((s.view p.module).loadType c.name), s') :=
  ⟨_, steady_accepts s c p, Prod.ext (s.fst_accepts c p) rfl⟩

/-! ## Both ways of locating -/

/-- Locating all types takes what the first provider has to offer and goes on. -/
theorem locateEach_cons (hps : Provider.Apart ps) (hp : p ∈ ps) (qs : List Provider)
    (c : Contract) (s : Stock) :
    ∃ s', Steady ps s s' ∧ locateEach c (p :: qs) s =
      ((s.offer? c p).toList ++ (locateEach c qs s').1, (locateEach c qs s').2) := by
  obtain ⟨s₁, hresolved, hresolve⟩ := resolve_eq hps hp s
  rw [locateEach, hresolve, offer?]
  cases s.outcome p with
  | error e => exact ⟨s₁, hresolved, rfl⟩
  | ok t =>
    obtain ⟨s₂, hasked, haccepts⟩ := accepts_eq ps s₁ c p
    rw [hresolved.view] at haccepts
    refine ⟨s₂, hresolved.trans hasked, ?_⟩
    dsimp only
    rw [haccepts]
    cases c.isMetBy ((s.view p.module).loadType c.name) <;> rfl

/-- Locating one type takes what the first provider has to offer if it agrees with the pin, and goes
on otherwise. -/
theorem locateFirst_cons (hps : Provider.Apart ps) (hp : p ∈ ps) (qs : List Provider)
    (pin : Option String) (c : Contract) (s : Stock) :
    ∃ s', Steady ps s s' ∧ locateFirst pin c (p :: qs) s =
      match (s.offer? c p).filter (agrees pin) with
      | some t => (some t, s')
      | none => locateFirst pin c qs s' := by
  obtain ⟨s₁, hresolved, hresolve⟩ := resolve_eq hps hp s
  rw [locateFirst, hresolve, offer?]
  cases s.outcome p with
  | error e => exact ⟨s₁, hresolved, rfl⟩
  | ok t =>
    dsimp only
    cases hagrees : agrees pin t with
    | false =>
      -- The module is not asked; its answer would not matter.
      refine ⟨s₁, hresolved, ?_⟩
      cases c.isMetBy ((s.view p.module).loadType c.name) <;>
        simp [Option.filter_some, hagrees]
    | true =>
      obtain ⟨s₂, hasked, haccepts⟩ := accepts_eq ps s₁ c p
      rw [hresolved.view] at haccepts
      refine ⟨s₂, hresolved.trans hasked, ?_⟩
      rw [haccepts]
      cases c.isMetBy ((s.view p.module).loadType c.name) <;>
        simp [Option.filter_some, hagrees]

/-- A list of providers offers what it offered. -/
theorem Steady.filterMap_offer? (h : Steady ps s s') (hqs : qs ⊆ ps) :
    qs.filterMap (s'.offer? c) = qs.filterMap (s.offer? c) :=
  List.filterMap_congr fun _ hq => h.offer? (hqs hq)

/-- All types are located by what each provider has to offer. -/
theorem locateEach_eq (hps : Provider.Apart ps) (hqs : qs ⊆ ps) (c : Contract) (s : Stock) :
    (locateEach c qs s).1 = qs.filterMap (s.offer? c) ∧ Steady ps s (locateEach c qs s).2 := by
  induction qs generalizing s with
  | nil => exact ⟨rfl, .refl ps s⟩
  | cons p rest ih =>
    obtain ⟨hp, hrest⟩ := List.cons_subset.1 hqs
    obtain ⟨s', hsteady, heq⟩ := locateEach_cons hps hp rest c s
    obtain ⟨hfst, hsnd⟩ := ih hrest s'
    rw [heq]
    refine ⟨?_, hsteady.trans hsnd⟩
    rw [hfst, hsteady.filterMap_offer? hrest, List.filterMap_cons]
    cases s.offer? c p <;> rfl

/-- One type is located by what each provider has to offer, the first that agrees with the pin. -/
theorem locateFirst_eq (hps : Provider.Apart ps) (hqs : qs ⊆ ps) (pin : Option String)
    (c : Contract) (s : Stock) :
    (locateFirst pin c qs s).1 = (qs.filterMap (s.offer? c)).find? (agrees pin) ∧
      Steady ps s (locateFirst pin c qs s).2 := by
  induction qs generalizing s with
  | nil => exact ⟨rfl, .refl ps s⟩
  | cons p rest ih =>
    obtain ⟨hp, hrest⟩ := List.cons_subset.1 hqs
    obtain ⟨s', hsteady, heq⟩ := locateFirst_cons hps hp rest pin c s
    obtain ⟨hfst, hsnd⟩ := ih hrest s'
    rw [hsteady.filterMap_offer? hrest] at hfst
    rw [heq, List.filterMap_cons]
    cases hoffer : s.offer? c p with
    | none => exact ⟨hfst, hsteady.trans hsnd⟩
    | some t =>
      cases hagrees : agrees pin t with
      | true => simpa [Option.filter_some, hagrees] using hsteady
      | false =>
        simp only [Option.filter_some, hagrees, List.find?_cons]
        exact ⟨hfst, hsteady.trans hsnd⟩

/-! ## What the two answers have in common -/

/-- A provider offers the type it resolves to if that meets the contract. -/
theorem offer?_eq_some_iff : s.offer? c p = some t ↔
    s.outcome p = .ok t ∧ c.isMetBy ((s.view p.module).loadType c.name) = true := by
  unfold offer?
  cases s.outcome p with
  | error e => simp
  | ok t' => simp [and_comm]

/-- The type that is wanted of some types in order of preference: the first that has the pinned
name, or the first of all if none is pinned. -/
def preferred : Option String → List LoadedType → Option LoadedType
  | none, ts => ts.head?
  | some name, ts => ts.find? (·.name = name)

/-- The first type that agrees with a pin is the preferred one. -/
theorem find?_agrees (pin : Option String) (ts : List LoadedType) :
    ts.find? (agrees pin) = preferred pin ts := by
  cases pin with
  | none => cases ts <;> rfl
  | some name => rfl

/-- In a stock, locating one type for a service in a catalog and locating all agree. -/
structure Agrees (s : Stock) (k : Catalog) (env : Environment) (c : Contract) (service : String) :
    Prop where
  /-- The one type is the preferred of all that are located after it. -/
  oneFirst : (s.locate k env c service).1 = preferred (k.pins.lookup env service)
    ((s.locate k env c service).2.locateAll k c service).1
  /-- The one type is the preferred of all that were located before it. -/
  allFirst : ((s.locateAll k c service).2.locate k env c service).1 =
    preferred (k.pins.lookup env service) (s.locateAll k c service).1
  /-- What is located comes from a candidate whose module sees the contract's type from the
  contract's origin. -/
  origin : ∀ origin, c.origin = some origin →
    ∀ t, t ∈ (s.locateAll k c service).1 ∨ (s.locate k env c service).1 = some t →
      ∃ p ∈ k.table.candidates service, s.outcome p = .ok t ∧
        ∃ seen, (s.view p.module).loadType c.name = .ok seen ∧ seen.origin = origin
  /-- Candidates that do not resolve or do not meet the contract can be there or not. -/
  useless : ∀ k' : Catalog, k'.pins = k.pins → Provider.Apart (k'.table.candidates service) →
    ((k'.table.candidates service).filter fun p => (s.offer? c p).isSome) =
      ((k.table.candidates service).filter fun p => (s.offer? c p).isSome) →
    (s.locate k' env c service).1 = (s.locate k env c service).1 ∧
      (s.locateAll k' c service).1 = (s.locateAll k c service).1

/-- Candidates without an offer do not show in the offers. -/
theorem filterMap_filter_offer? (s : Stock) (c : Contract) (ps : List Provider) :
    (ps.filter fun p => (s.offer? c p).isSome).filterMap (s.offer? c) =
      ps.filterMap (s.offer? c) := by
  rw [List.filterMap_filter]
  refine List.filterMap_congr fun p _ => ?_
  cases s.offer? c p <;> rfl

/-- A candidate with an offer under a contract with an origin sees the type from there. -/
theorem seen_of_offer? {origin : ModuleId} (h : s.offer? c p = some t)
    (horigin : c.origin = some origin) : s.outcome p = .ok t ∧
      ∃ seen, (s.view p.module).loadType c.name = .ok seen ∧ seen.origin = origin := by
  obtain ⟨houtcome, hmet⟩ := offer?_eq_some_iff.1 h
  refine ⟨houtcome, ?_⟩
  unfold Contract.isMetBy at hmet
  rw [horigin] at hmet
  cases hload : (s.view p.module).loadType c.name with
  | error e =>
    rw [hload] at hmet
    cases hmet
  | ok seen =>
    rw [hload] at hmet
    exact ⟨seen, rfl, decide_eq_true_iff.1 hmet⟩

/-- Whatever is remembered of the candidates, locating one type and locating all agree. -/
theorem agrees_of_apart (s : Stock) (k : Catalog) (env : Environment) (c : Contract)
    (service : String) (h : Provider.Apart (k.table.candidates service)) :
    s.Agrees k env c service := by
  have hall (s : Stock) := locateEach_eq h (List.Subset.refl _) c s
  have hone (s : Stock) := locateFirst_eq h (List.Subset.refl _) (k.pins.lookup env service) c s
  refine ⟨?_, ?_, fun origin horigin t ht => ?_, fun k' hpins h' huseless => ?_⟩
  · rw [locate, locateAll, (hall _).1, (hone s).1,
      (hone s).2.filterMap_offer? (List.Subset.refl _), find?_agrees]
  · rw [locate, locateAll, (hone _).1, (hall s).1,
      (hall s).2.filterMap_offer? (List.Subset.refl _), find?_agrees]
  · have hmem : t ∈ (k.table.candidates service).filterMap (s.offer? c) := by
      rcases ht with ht | ht
      · exact (hall s).1 ▸ ht
      · exact List.mem_of_find?_eq_some ((hone s).1 ▸ ht)
    obtain ⟨p, hp, hoffer⟩ := List.mem_filterMap.1 hmem
    exact ⟨p, hp, seen_of_offer? hoffer horigin⟩
  · have hoffers : (k'.table.candidates service).filterMap (s.offer? c) =
        (k.table.candidates service).filterMap (s.offer? c) := by
      rw [← filterMap_filter_offer?, huseless, filterMap_filter_offer?]
    constructor
    · rw [locate, locate, (hone s).1, (locateFirst_eq h' (List.Subset.refl _) _ c s).1, hoffers,
        hpins]
    · rw [locateAll, locateAll, (hall s).1, (locateEach_eq h' (List.Subset.refl _) c s).1, hoffers]

/-! A service has four candidates of a module that defines the service's type: one is not resolved
yet and has no descriptor, one is remembered as a failure, and two are remembered with their types.
The type of the last is pinned. -/

section Example

/-- The candidates differ in their numbers. -/
def candidate (serial : Nat) : Provider :=
  ⟨serial, "Greeter", ⟨"module://1/Greeter"⟩, ⟨0, ⟨1⟩, "module-1"⟩, true⟩

/-- The module of the candidates. -/
def typeModule : InMemory where
  id := ⟨1⟩
  name := "module-1"
  types := { defined := Dict.empty.insert "Greeter" () }

/-- What is remembered of three of the candidates. -/
def halfResolved : Stock where
  objects := ⟨[{ content := .inMemory typeModule }]⟩
  memos := ⟨[some (.error (.emptyDescriptor ⟨"module://1/Greeter"⟩)), some (.ok ⟨"Hello", ⟨1⟩⟩),
    some (.ok ⟨"Welcome", ⟨1⟩⟩)]⟩

/-- The catalog with the candidates and the pin. -/
def pinnedCatalog : Catalog where
  table := Dict.empty.insert "Greeter" [candidate 3, candidate 0, candidate 1, candidate 2]
  pins := .fixed (Dict.empty.insert "Greeter" "Welcome")

/-- The type of the service. -/
def greeterContract : Contract := ⟨"Greeter", some ⟨1⟩⟩

/-- The type of the last candidate is located, for it is pinned, and both types are listed. -/
theorem agrees_of_apart_halfResolved :
    Provider.Apart (pinnedCatalog.table.candidates "Greeter") ∧
    halfResolved.Agrees pinnedCatalog .empty greeterContract "Greeter" ∧
    (halfResolved.locate pinnedCatalog .empty greeterContract "Greeter").1 =
      some ⟨"Welcome", ⟨1⟩⟩ ∧
    (halfResolved.locateAll pinnedCatalog greeterContract "Greeter").1 =
      [⟨"Hello", ⟨1⟩⟩, ⟨"Welcome", ⟨1⟩⟩] := by
  have hcandidates : pinnedCatalog.table.candidates "Greeter" =
      [candidate 3, candidate 0, candidate 1, candidate 2] := rfl
  have hapart : Provider.Apart (pinnedCatalog.table.candidates "Greeter") := by
    rw [hcandidates]
    unfold Provider.Apart
    decide
  refine ⟨hapart, agrees_of_apart _ _ _ _ _ hapart, ?_, ?_⟩
  · rfl
  · rfl

end Example

end Stock

end ServiceRegistry
