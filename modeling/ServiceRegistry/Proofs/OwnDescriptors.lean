import ServiceRegistry.Proofs.Descriptors
import ServiceRegistry.Proofs.Locating
import ServiceRegistry.Proofs.Preference
import ServiceRegistry.Proofs.Undisturbed
import ServiceRegistry.World.Search

/-!
# Two ways to a module's own descriptor

A finder comes upon a descriptor of its own module as a candidate of the catalog, subject to a pin
and to the contract, or else in the module itself, subject to neither. What a finder answers is told
without its course in `World.fst_calm_find`: the first type that the catalog, the module's own
descriptor or the pin yields, and last what the caller names.

For a module in memory the second way makes the first superfluous, as long as the module's own
candidates are the last of their services (`World.find_of_addsOwn`). Providers are taken to be
numbered in the order in which they are made.
-/

namespace ServiceRegistry

/-- A provider with a number of its own can be added. -/
theorem Provider.Apart.cons {p : Provider} {ps : List Provider} (h : Provider.Apart ps)
    (hp : ∀ q ∈ ps, q.serial ≠ p.serial) : Provider.Apart (p :: ps) := by
  intro q hq r hr hserial
  rcases List.mem_cons.1 hq with rfl | hqps <;> rcases List.mem_cons.1 hr with rfl | hrps
  · rfl
  · exact absurd hserial.symm (hp r hrps)
  · exact absurd hserial (hp q hqps)
  · exact h q hqps r hrps hserial

/-! ## Contracts as a module sees them -/

/-- The contract for a service as a module sees it. -/
def ModuleView.contractFor (v : ModuleView) (service : String) : Contract :=
  match v.loadType service with
  | .ok t => .ofType t
  | .error _ => { name := service }

/-- Types are loaded under the name that is asked for. -/
theorem TypeSpace.name_of_load {space : TypeSpace} {viewer : ModuleId} {name : String}
    {t : LoadedType} (h : space.load viewer name = .ok t) : t.name = name := by
  unfold load at h
  split at h
  · cases h
  · split at h
    · cases h
      rfl
    · split at h
      · cases h
        rfl
      · cases h

/-- A module in memory meets the contract that it sees. -/
theorem InMemory.isMetBy_contractFor (m : InMemory) (service : String) :
    (m.view.contractFor service).isMetBy
      (m.view.loadType (m.view.contractFor service).name) = true := by
  unfold ModuleView.contractFor
  cases hload : m.view.loadType service with
  | error e => rfl
  | ok t =>
    have hname : t.name = service := TypeSpace.name_of_load hload
    simp [Contract.ofType, hname, hload, Contract.isMetBy]

namespace Stock

/-- Loading a type answers as the module's view does, and leaves what providers give. -/
theorem loadType_eq (ps : List Provider) (s : Stock) (m : Module) (name : String) :
    ∃ s', Steady ps s s' ∧ s.loadType m name = ((s.view m).loadType name, s') :=
  ⟨(s.loadType m name).2, s.steady_update m fun _ => rfl, rfl⟩

/-- The contract of a service is that of the module's view, and asking for it leaves what providers
give. -/
theorem contractFor_eq (ps : List Provider) (s : Stock) (m : Module) (service : String) :
    ∃ s', Steady ps s s' ∧ s.contractFor m service = ((s.view m).contractFor service, s') := by
  obtain ⟨s', hsteady, hload⟩ := loadType_eq ps s m service
  refine ⟨s', hsteady, ?_⟩
  unfold contractFor ModuleView.contractFor
  rw [hload]
  cases (s.view m).loadType service <;> rfl

end Stock

/-! ## What a finder answers -/

/-- The provider that a finder makes for its module's own descriptor. -/
def Finder.ownProvider (f : Finder) (service : String) (serial : Nat) : Provider where
  serial := serial
  service := service
  location := World.ownDescriptor f service
  module := f.context
  cacheFailures := false

namespace World

open Interruptible

variable {w w' w'' : World} {f : Finder} {ps : List Provider} {service : String}

/-- Only questions have come between two worlds, none of which matters to some providers. -/
structure Asked (ps : List Provider) (w w' : World) : Prop where
  environment : w'.environment = w.environment
  catalog : ∀ k, w'.catalog k = w.catalog k
  steady : Stock.Steady ps w.stock w'.stock

/-- No question at all is a case of questions only. -/
theorem Asked.refl (ps : List Provider) (w : World) : Asked ps w w :=
  ⟨rfl, fun _ => rfl, .refl ps w.stock⟩

/-- Questions after questions are questions only. -/
theorem Asked.trans (h : Asked ps w w') (h' : Asked ps w' w'') : Asked ps w w'' where
  environment := h'.environment.trans h.environment
  catalog k := (h'.catalog k).trans (h.catalog k)
  steady := h.steady.trans h'.steady

/-- Questions that matter to none of some providers matter to none of fewer. -/
theorem Asked.mono {qs : List Provider} (h : Asked ps w w') (hqs : qs ⊆ ps) : Asked qs w w' where
  environment := h.environment
  catalog := h.catalog
  steady := ⟨h.steady.view, fun q hq => h.steady.outcome q (hqs hq)⟩

/-- A question to the stock that leaves what providers give is a question only. -/
theorem asked_onStock {α : Type} {q : Stock → α × Stock}
    (h : Stock.Steady ps w.stock (q w.stock).2) : Asked ps w (onStock q w).2 :=
  ⟨rfl, fun _ => rfl, h⟩

/-- What the catalog has for a finder. -/
def located? (f : Finder) (service : String) (w : World) : Option LoadedType :=
  (((w.catalog f.catalog).table.candidates service).filterMap
    (w.stock.offer? ((w.stock.view f.context).contractFor service))).find?
      (Stock.agrees ((w.catalog f.catalog).pins.lookup w.environment service))

/-- What the module's own descriptor has for a finder. -/
def own? (f : Finder) (service : String) (w : World) : Option LoadedType :=
  match (w.stock.view f.context).list f.folder.toList with
  | .ok locations =>
    if ownDescriptor f service ∈ locations then
      ((f.ownProvider service 0).fetch (w.stock.view f.context)).toOption
    else none
  | .error _ => none

/-- What the pin has for a finder. -/
def pinned? (f : Finder) (service : String) (w : World) : Option LoadedType :=
  ((w.catalog f.catalog).pins.lookup w.environment service).bind fun name =>
    ((w.stock.view f.context).loadType name).toOption

/-- What is left for a finder. -/
def lastResort (f : Finder) (service : String) (fallback : Option String) (w : World) :
    Except Error LoadedType :=
  match fallback with
  | some name => ((w.stock.view f.context).loadType name).mapError .typeLoad
  | none => .error (.notFound ("Provider for " ++ service ++ " cannot be found"))

section Congr

variable (hview : w'.stock.view f.context = w.stock.view f.context)
include hview

/-- What an own descriptor has is the same after questions. -/
theorem own?_congr : own? f service w' = own? f service w := by
  rw [own?, own?, hview]

/-- What a pin has is the same after questions. -/
theorem pinned?_congr (henvironment : w'.environment = w.environment)
    (hpins : (w'.catalog f.catalog).pins = (w.catalog f.catalog).pins) :
    pinned? f service w' = pinned? f service w := by
  rw [pinned?, pinned?, hview, henvironment, hpins]

/-- What is left is the same after questions. -/
theorem lastResort_congr (fallback : Option String) :
    lastResort f service fallback w' = lastResort f service fallback w := by
  unfold lastResort
  rw [hview]

end Congr

/-- Providers of a catalog are told apart by their numbers, which have been given out in order;
nothing is remembered under a number that has not. -/
structure Numbered (w : World) (n : Nat) : Prop where
  apart : ∀ service, Provider.Apart ((w.catalog n).table.candidates service)
  below : ∀ service, ∀ p ∈ (w.catalog n).table.candidates service, p.serial < w.nextSerial
  fresh : ∀ k, w.nextSerial ≤ k → w.stock.memos.get k = none

/-- The first stage of a search answers with what the catalog has, and only asks. -/
theorem findInCatalog_eq (hps : Provider.Apart ps)
    (hcandidates : (w.catalog f.catalog).table.candidates service ⊆ ps) :
    ∃ w', Asked ps w w' ∧ w'.nextSerial = w.nextSerial ∧
      findInCatalog f service w = (located? f service w, w') := by
  obtain ⟨s₁, hsteady₁, hcontract⟩ := Stock.contractFor_eq ps w.stock f.context service
  obtain ⟨hfirst, hsteady₂⟩ := Stock.locateFirst_eq hps hcandidates
    ((w.catalog f.catalog).pins.lookup w.environment service)
    ((w.stock.view f.context).contractFor service) s₁
  rw [hsteady₁.filterMap_offer? hcandidates] at hfirst
  have heq : findInCatalog f service w =
      locate f.catalog ((w.stock.view f.context).contractFor service) service
        { w with stock := s₁ } := by
    simp only [findInCatalog, onStock, hcontract]
  rw [heq]
  exact ⟨(locate f.catalog ((w.stock.view f.context).contractFor service) service
      { w with stock := s₁ }).2,
    ⟨rfl, fun _ => rfl, hsteady₁.trans hsteady₂⟩, rfl, Prod.ext hfirst rfl⟩

/-- A module that is asked for a listing goes on to answer as it does. -/
theorem calm_list (ps : List Provider) (w : World) (m : Module) (folder : String) :
    ∃ w', Asked ps w w' ∧ w'.nextSerial = w.nextSerial ∧
      (list m folder).calm w = ((w'.stock.view m).list folder.toList, w') := by
  refine ⟨(onStock (·.list m folder) w).2, asked_onStock (w.stock.steady_update m fun _ => rfl),
    rfl, ?_⟩
  rw [stock_onStock, Stock.view_list]
  rfl

/-- The second stage answers with what the module's own descriptor has, and only asks. -/
theorem findOwn_eq (hown : w.stock.outcome (f.ownProvider service w.nextSerial) =
      (f.ownProvider service 0).fetch (w.stock.view f.context)) :
    ∃ w', Asked [] w w' ∧
      findOwn f service ((w.stock.view f.context).list f.folder.toList) w =
        (own? f service w, w') := by
  unfold findOwn own?
  dsimp only
  cases (w.stock.view f.context).list f.folder.toList with
  | error fault => exact ⟨w, .refl [] w, rfl⟩
  | ok locations =>
    dsimp only
    by_cases hshown : ownDescriptor f service ∈ locations
    · rw [if_pos (List.contains_iff_mem.2 hshown), if_pos hshown]
      have hr := (w.stock.fst_resolve (f.ownProvider service w.nextSerial)).trans hown
      refine ⟨(onStock (·.resolve (f.ownProvider service w.nextSerial))
        { w with nextSerial := w.nextSerial + 1 }).2, ⟨rfl, fun _ => rfl, ⟨?_, nofun⟩⟩,
        Prod.ext (congrArg Except.toOption hr) rfl⟩
      exact w.stock.view_resolve (f.ownProvider service w.nextSerial)
    · rw [if_neg (mt List.contains_iff_mem.1 hshown), if_neg hshown]
      exact ⟨w, .refl [] w, rfl⟩

/-- The third stage answers with what the pin has, and only asks. -/
theorem findPinned_eq (f : Finder) (service : String) (w : World) :
    ∃ w', Asked [] w w' ∧ findPinned f service w = (pinned? f service w, w') := by
  unfold findPinned pinned?
  cases (w.catalog f.catalog).pins.lookup w.environment service with
  | none => exact ⟨w, .refl [] w, rfl⟩
  | some name =>
    exact ⟨(onStock (·.loadType f.context name) w).2,
      asked_onStock (w.stock.steady_update f.context fun _ => rfl), rfl⟩

/-- The last stage answers with what is left. -/
theorem fst_findFallback (f : Finder) (service : String) (fallback : Option String) (w : World) :
    (findFallback f service fallback w).1 = lastResort f service fallback w := by
  cases fallback <;> rfl

/-- A finder answers with the first type that the catalog, the module's own descriptor or the pin
has, and otherwise with what is left. -/
theorem fst_calm_find (hw : w.Numbered f.catalog) (service : String) (fallback : Option String) :
    ((find f service fallback).calm w).1 =
      match (located? f service w).or ((own? f service w).or (pinned? f service w)) with
      | some t => .ok t
      | none => lastResort f service fallback w := by
  -- The provider that the finder is going to make counts among those that keep their outcome.
  let own := f.ownProvider service w.nextSerial
  let candidates := (w.catalog f.catalog).table.candidates service
  have hapart : Provider.Apart (own :: candidates) :=
    (hw.apart service).cons fun p hp => Nat.ne_of_lt (hw.below service p hp)
  have hfetch : w.stock.outcome own = own.fetch (w.stock.view f.context) := by
    rw [Stock.outcome, Stock.memo, hw.fresh own.serial (Nat.le_refl _)]
    rfl
  obtain ⟨w₁, hasked₁, hserial₁, hcatalog⟩ :=
    findInCatalog_eq (f := f) hapart (List.subset_cons_self own candidates)
  unfold find
  rw [calm_bind, calm_act, hcatalog]
  cases located? f service w with
  | some t => rfl
  | none =>
    dsimp only
    obtain ⟨w₂, hlisted, hserial₂, hlist⟩ := calm_list (own :: candidates) w₁ f.context f.folder
    have hasked₂ := hasked₁.trans hlisted
    obtain ⟨w₃, hresolved, hown⟩ : ∃ w₃, Asked [] w₂ w₃ ∧ findOwn f service
        ((w₂.stock.view f.context).list f.folder.toList) w₂ = (own? f service w₂, w₃) := by
      refine findOwn_eq ?_
      rw [hserial₂, hserial₁, hasked₂.steady.outcome own List.mem_cons_self, hfetch,
        hasked₂.steady.view]
      rfl
    rw [calm_bind, hlist, calm_bind, calm_act, hown, own?_congr (hasked₂.steady.view _)]
    cases own? f service w with
    | some t => rfl
    | none =>
      dsimp only
      have hasked₃ := (hasked₂.mono (List.nil_subset _)).trans hresolved
      obtain ⟨w₄, hasked₄, hpinned⟩ := findPinned_eq f service w₃
      rw [calm_bind, calm_act, hpinned, pinned?_congr (hasked₃.steady.view _)
        hasked₃.environment (congrArg Catalog.pins (hasked₃.catalog _))]
      cases pinned? f service w with
      | some t => rfl
      | none =>
        dsimp only
        rw [calm_act, fst_findFallback,
          lastResort_congr ((hasked₃.trans hasked₄).steady.view _)]
        rfl

/-! ## Own candidates -/

/-- Two worlds in which a finder's own module is the same module in memory. In the second one the
catalog has a contribution of the module's as well, which comes last. All other candidates give
what they gave, and the module's own what their descriptors say. -/
structure AddsOwn (f : Finder) (m : InMemory) (c : Contribution) (w w' : World) : Prop where
  environment : w'.environment = w.environment
  pins : (w'.catalog f.catalog).pins = (w.catalog f.catalog).pins
  contextBefore : w.stock.view f.context = m.view
  contextAfter : w'.stock.view f.context = m.view
  candidates : ∀ service, (w'.catalog f.catalog).table.candidates service =
    (w.catalog f.catalog).table.candidates service ++ c.offers service
  others : ∀ service, ∀ p ∈ (w.catalog f.catalog).table.candidates service,
    w'.stock.outcome p = w.stock.outcome p ∧ w'.stock.view p.module = w.stock.view p.module
  own : ∀ p ∈ c.providers, w'.stock.outcome p = p.fetch m.view

namespace AddsOwn

variable {m : InMemory} {c : Contribution} (h : AddsOwn f m c w w')
include h

/-- The module of the finder answers the same in both worlds. -/
theorem view_eq : w'.stock.view f.context = w.stock.view f.context :=
  h.contextAfter.trans h.contextBefore.symm

/-- The catalog has what it had, or else what the module's own candidates offer. -/
theorem located?_eq (service : String) : located? f service w' =
    (located? f service w).or
      (((c.offers service).filterMap (w'.stock.offer? (m.view.contractFor service))).find?
        (Stock.agrees ((w.catalog f.catalog).pins.lookup w.environment service))) := by
  have hothers : ((w.catalog f.catalog).table.candidates service).filterMap
      (w'.stock.offer? (m.view.contractFor service)) =
        ((w.catalog f.catalog).table.candidates service).filterMap
          (w.stock.offer? (m.view.contractFor service)) := by
    refine List.filterMap_congr fun p hp => ?_
    obtain ⟨houtcome, hview⟩ := h.others service p hp
    rw [Stock.offer?, Stock.offer?, houtcome, hview]
  unfold located?
  rw [h.contextBefore, h.contextAfter, h.pins, h.environment, h.candidates,
    List.filterMap_append, List.find?_append, hothers]

/-- The module meets the contract, so its own candidates offer what their descriptors say. -/
theorem offer?_eq {p : Provider} (hp : p ∈ c.providers) (hmodule : p.module = f.context)
    (service : String) : w'.stock.offer? (m.view.contractFor service) p =
      (p.fetch m.view).toOption := by
  rw [Stock.offer?, h.own p hp, hmodule, h.contextAfter, m.isMetBy_contractFor]
  cases p.fetch m.view <;> rfl

end AddsOwn

end World

/-- The folder of a finder is in its written form. -/
theorem Finder.folder_make (catalog : Nat) (context : Module) (folder : Option String) :
    Slashes.Folder (Finder.make catalog context folder).folder.toList := by
  cases folder with
  | none =>
    change Slashes.Folder defaultDescriptorFolder.toList
    exact ⟨by decide, .inr (by decide)⟩
  | some folder =>
    change Slashes.Folder (folderName folder).toList
    rw [folderName, String.toList_ofList]
    exact Slashes.folder_asFolder folder.toList

/-- What is fetched depends on the location alone. -/
theorem Provider.fetch_congr {p q : Provider} (h : p.location = q.location) (v : ModuleView) :
    p.fetch v = q.fetch v := by
  unfold fetch readName
  rw [h]

/-- What a scan of a module in memory offers for a service is at the place of the service's
descriptor. -/
theorem InMemory.locations_offers (m : InMemory) (rule : ScanRule) (context : Module) (serial : Nat)
    (service : String) :
    ((rule.contribution context serial (m.view.list rule.folder.toList)).offers service).map
      (·.location) = (m.descriptor? rule.folder.toList service).toList := by
  rw [ScanRule.locations_offers]
  change ((ScanRule.shown (.ok (m.list rule.folder.toList))).filter _).reverse = _
  rw [filter_shown_list]
  cases m.descriptor? rule.folder.toList service <;> rfl

namespace World

/-- A finder finds the descriptor of a service in a module in memory, and what it says. -/
theorem own?_of_descriptor? {f : Finder} {m : InMemory} {w : World} {p : Provider} {l : Location}
    {service : String} (hview : w.stock.view f.context = m.view) (hid : f.context.id = m.id)
    (hf : Slashes.Folder f.folder.toList)
    (hdescriptor : m.descriptor? f.folder.toList service = some l) (hl : p.location = l) :
    own? f service w = (p.fetch m.view).toOption := by
  have hlisted : l ∈ m.list f.folder.toList :=
    (ScanRule.mem_descriptors.1 (InMemory.mem_shown_list.2 hdescriptor).1).1
  have hown : ownDescriptor f service = l := by
    unfold InMemory.descriptor? at hdescriptor
    dsimp only at hdescriptor
    split at hdescriptor
    · rw [ownDescriptor, hid, ← Option.some.inj hdescriptor, Slashes.asFolder_of_folder hf]
    · cases hdescriptor
  have hlocation : (f.ownProvider service 0).location = p.location := by
    rw [hl, ← hown, Finder.ownProvider]
  have hlist : m.view.list f.folder.toList = .ok (m.list f.folder.toList) := rfl
  rw [own?, hview, hlist, Provider.fetch_congr hlocation]
  exact if_pos (hown ▸ hlisted)

/-- For a module in memory a finder answers the same whether or not the catalog has the module's own
providers as its last candidates. -/
theorem find_of_addsOwn {catalog : Nat} {context : Module} {folder : Option String} {m : InMemory}
    {rule : ScanRule} {serial : Nat} {w w' : World} (hid : context.id = m.id)
    (hfolder : rule.folder = (Finder.make catalog context folder).folder)
    (hw : w.Numbered catalog) (hw' : w'.Numbered catalog)
    (h : AddsOwn (Finder.make catalog context folder) m
      (rule.contribution context serial (m.view.list rule.folder.toList)) w w')
    (service : String) (fallback : Option String) :
    ((find (Finder.make catalog context folder) service fallback).calm w').1 =
      ((find (Finder.make catalog context folder) service fallback).calm w).1 := by
  rw [fst_calm_find hw', fst_calm_find hw, own?_congr h.view_eq,
    pinned?_congr h.view_eq h.environment h.pins, lastResort_congr h.view_eq, h.located?_eq]
  have hlocations := m.locations_offers rule context serial service
  cases hdescriptor : m.descriptor? rule.folder.toList service with
  | none =>
    rw [hdescriptor, Option.toList_none, List.map_eq_nil_iff] at hlocations
    rw [hlocations, List.filterMap_nil, List.find?_nil, Option.or_none]
  | some l =>
    rw [hdescriptor, Option.toList_some, List.map_eq_singleton_iff] at hlocations
    obtain ⟨p, hp, hl⟩ := hlocations
    obtain ⟨hmem, -⟩ := Contribution.mem_offers.1 (hp ▸ List.mem_singleton_self p)
    have hmodule : p.module = context := (ScanRule.of_mem_contribution hmem).1
    rw [hfolder] at hdescriptor
    have hown := own?_of_descriptor? h.contextBefore hid
      (Finder.folder_make catalog context folder) hdescriptor hl
    rw [hp, hown, List.filterMap_cons, h.offer?_eq hmem hmodule, List.filterMap_nil]
    -- Whether the pin lets the catalog have the descriptor's type or not, it is found next.
    cases located? (Finder.make catalog context folder) service w with
    | some t => rfl
    | none =>
      cases (p.fetch m.view).toOption with
      | none => rfl
      | some t =>
        dsimp only
        rw [List.find?_singleton]
        generalize Stock.agrees _ t = agreed
        cases agreed <;> rfl

/-! The module of the finder has a descriptor that names another type than the pin does. The only
other candidate has no descriptor. -/

section Example

/-- The module with a descriptor of its own. -/
def helloModule : InMemory :=
  .build ⟨7⟩ [.service "Greeter" [72, 101, 108, 108, 111], .defines "Hello", .defines "Welcome"]

/-- The object of the module. -/
def helloObject : Module := ⟨0, ⟨7⟩, "module-7"⟩

/-- The object of the other candidate. -/
def bareObject : Module := ⟨1, ⟨8⟩, "module-8"⟩

/-- The provider for the module's descriptor. -/
def helloProvider : Provider :=
  ⟨0, "Greeter", ⟨"module://7/META-INF/services/Greeter"⟩, helloObject, true⟩

/-- The other candidate. -/
def bareProvider : Provider :=
  ⟨1, "Greeter", ⟨"module://8/META-INF/services/Greeter"⟩, bareObject, true⟩

/-- Both modules, and a catalog that pins the type that the descriptor does not name. -/
def pinned (t : Table) : World where
  stock := { objects := ⟨[{ content := .inMemory helloModule },
    { content := .inMemory { id := ⟨8⟩, name := "module-8" } }]⟩ }
  catalogs := ⟨[{ table := t, pins := .fixed (Dict.empty.insert "Greeter" "Welcome") }]⟩
  nextSerial := 2

/-- A table with the other candidate only. -/
def bareTable : Table := .register .empty "Greeter" bareProvider

/-- A table with both candidates. -/
def helloTable : Table :=
  (Table.register .empty "Greeter" helloProvider).register "Greeter" bareProvider

/-- The bare table has one candidate, for the greeter. -/
theorem candidates_bareTable (service : String) :
    bareTable.candidates service = if service = "Greeter" then [bareProvider] else [] := by
  rw [bareTable, Table.candidates_register]
  rfl

/-- The other table has the module's own candidate behind it. -/
theorem candidates_helloTable (service : String) : helloTable.candidates service =
    if service = "Greeter" then [bareProvider, helloProvider] else [] := by
  rw [helloTable, Table.candidates_register, Table.candidates_register,
    Table.candidates_register]
  split <;> rfl

/-- The worlds of the example give out numbers that are not in use. -/
theorem numbered_pinned {t : Table} {ps : List Provider} (hps : Provider.Apart ps)
    (hbelow : ∀ p ∈ ps, p.serial < 2)
    (ht : ∀ service, t.candidates service = if service = "Greeter" then ps else []) :
    (pinned t).Numbered 0 := by
  have hcandidates (service : String) : ((pinned t).catalog 0).table.candidates service =
      if service = "Greeter" then ps else [] := ht service
  refine ⟨fun service => ?_, fun service p hp => ?_, fun k _ => rfl⟩
  · rw [hcandidates]
    split
    · exact hps
    · exact nofun
  · rw [hcandidates] at hp
    split at hp
    · exact hbelow p hp
    · exact absurd hp List.not_mem_nil

/-- What the default rule makes of the finder's module. -/
def helloContribution : Contribution :=
  ScanRule.contribution {} helloObject 0 (helloModule.view.list defaultDescriptorFolder.toList)

/-- The two worlds of the example differ in the module's own contribution only. -/
theorem addsOwn_pinned : AddsOwn (.make 0 helloObject none) helloModule helloContribution
    (pinned bareTable) (pinned helloTable) where
  environment := rfl
  pins := rfl
  contextBefore := rfl
  contextAfter := rfl
  candidates service := by
    change helloTable.candidates service = bareTable.candidates service ++ _
    have hoffers : helloContribution.offers service =
        if service = "Greeter" then [helloProvider] else [] := by
      have hproviders : helloContribution.providers = [helloProvider] := by decide
      rw [Contribution.offers, hproviders]
      by_cases hservice : service = "Greeter"
      · simp [hservice, helloProvider]
      · simp [hservice, Ne.symm hservice, helloProvider]
    rw [candidates_helloTable, candidates_bareTable, hoffers]
    split <;> rfl
  others _ _ _ := ⟨rfl, rfl⟩
  own p hp := by
    rw [Stock.outcome, (ScanRule.of_mem_contribution hp).1]
    rfl

/-- The module finds what its descriptor names, whether or not the catalog has its contribution. -/
theorem find_of_addsOwn_pinned :
    (pinned bareTable).Numbered 0 ∧ (pinned helloTable).Numbered 0 ∧
    AddsOwn (.make 0 helloObject none) helloModule helloContribution
      (pinned bareTable) (pinned helloTable) ∧
    ((find (.make 0 helloObject none) "Greeter" none).calm (pinned helloTable)).1 =
      ((find (.make 0 helloObject none) "Greeter" none).calm (pinned bareTable)).1 ∧
    ((find (.make 0 helloObject none) "Greeter" none).calm (pinned bareTable)).1 =
      .ok ⟨"Hello", ⟨7⟩⟩ := by
  have hbare : (pinned bareTable).Numbered 0 :=
    numbered_pinned (by unfold Provider.Apart; decide) (by decide) candidates_bareTable
  have hhello : (pinned helloTable).Numbered 0 :=
    numbered_pinned (by unfold Provider.Apart; decide) (by decide) candidates_helloTable
  exact ⟨hbare, hhello, addsOwn_pinned,
    @find_of_addsOwn 0 helloObject none helloModule {} 0 _ _ rfl rfl hbare hhello addsOwn_pinned
      "Greeter" none, rfl⟩

end Example

end World

end ServiceRegistry
