import ServiceRegistry.Proofs.CommandAnswers
import ServiceRegistry.Proofs.OwnDescriptors
import ServiceRegistry.Proofs.PinLookups

/-!
# Pins that name no implementation

A variable without a value is no pin, and the command line takes no pin without an implementation.
Settings take one, and it counts: nothing agrees with it, so a service that is pinned to no name is
not located at all (`Arguments.BlankPinned`, `Arguments.blanks_of_readPin`).

The settings are asked last. So behind a blank pin that counts there is no other, and without blank
pins the service would be located as if it were not pinned.
-/

namespace ServiceRegistry

/-! ## Types have names -/

/-- Content that knows a type under a name gives it under that name. -/
theorem Content.name_of_loadType {files : FileTree} {content : Content} {name : String}
    {t : LoadedType} (h : (content.view files).loadType name = .ok t) : t.name = name := by
  cases content with
  | inMemory m => exact TypeSpace.name_of_load h
  | folder m => exact TypeSpace.name_of_load h
  | fixed m => exact TypeSpace.name_of_load h

namespace Stock

variable {s : Stock} {p : Provider} {t : LoadedType}

/-- A provider has no type without a name to give. -/
theorem name_of_fetch (h : p.fetch (s.view p.module) = .ok t) : t.name ≠ "" := by
  unfold Provider.fetch at h
  cases hname : p.readName (s.view p.module) with
  | error e =>
    rw [hname] at h
    cases h
  | ok name =>
    have hne : name ≠ "" := by
      rintro rfl
      unfold Provider.readName at hname
      cases hfirst : Provider.firstName ((s.view p.module).openEntry p.location) with
      | error fault =>
        rw [hfirst] at hname
        cases hname
      | ok first =>
        rw [hfirst] at hname
        dsimp only at hname
        split at hname
        · cases hname
        · rename_i hempty
          cases hname
          exact hempty rfl
    rw [hname] at h
    dsimp only at h
    cases hload : (s.view p.module).loadType name with
    | error e =>
      rw [hload] at h
      cases h
    | ok found =>
      rw [hload] at h
      cases h
      exact (Content.name_of_loadType hload).symm ▸ hne

/-- No type without a name is remembered. -/
def Named (s : Stock) : Prop := ∀ n t, s.memos.get n = some (.ok t) → t.name ≠ ""

/-- What a provider is or becomes resolved to has a name. -/
theorem Named.name_of_outcome (h : s.Named) (hoffer : s.outcome p = .ok t) : t.name ≠ "" := by
  unfold outcome memo at hoffer
  cases hmemo : s.memos.get p.serial with
  | none =>
    rw [hmemo] at hoffer
    exact name_of_fetch hoffer
  | some r =>
    rw [hmemo, Option.getD_some] at hoffer
    exact h p.serial t (hmemo.trans (congrArg some hoffer))

/-- Resolving providers brings no type without a name into memory. -/
theorem Named.resolve (h : s.Named) (p : Provider) : (s.resolve p).2.Named := by
  intro n t hn
  have hmemo := memo_resolve s p { p with serial := n }
  unfold memo at hmemo
  rw [hn] at hmemo
  split at hmemo
  · refine h.name_of_outcome (p := p) ?_
    unfold Provider.remember at hmemo
    split at hmemo
    · exact (Option.some.inj hmemo).symm
    · cases hmemo
  · exact h n t hmemo.symm

/-- Nothing is located for a service that is pinned to no name. -/
theorem Named.find?_agrees_blank (h : s.Named) (c : Contract) (ps : List Provider) :
    (ps.filterMap (s.offer? c)).find? (agrees (some "")) = none := by
  rw [List.find?_eq_none]
  intro t ht hagrees
  obtain ⟨p, -, hoffer⟩ := List.mem_filterMap.1 ht
  exact h.name_of_outcome (offer?_eq_some_iff.1 hoffer).1 (beq_iff_eq.1 hagrees)

end Stock

/-! ## The pins of a command line and of settings -/

namespace Arguments

variable {a : Arguments} {s : Settings} {e : Environment} {service : String} {texts : List String}

/-- A pin that the command line takes names an implementation. -/
theorem ne_blank_of_readPin {text : String} {pin : String × String} (h : readPin text = .ok pin) :
    pin.2 ≠ "" := by
  unfold readPin at h
  split at h
  · split at h
    · cases h
    · rename_i id implementation _ hboth
      cases h
      intro hblank
      have himplementation : implementation = [] := by simpa using congrArg String.toList hblank
      simp [himplementation] at hboth
  · cases h

/-- None of the pins that the command line takes is blank. -/
theorem ne_blank_of_mapM_readPin (h : texts.mapM readPin = .ok a.pins) :
    ∀ pin ∈ a.pins, pin.2 ≠ "" := by
  generalize a.pins = pins at h
  induction texts generalizing pins with
  | nil =>
    cases h
    exact nofun
  | cons text rest ih =>
    rw [List.mapM_cons] at h
    cases hpin : readPin text with
    | error e =>
      rw [hpin] at h
      cases h
    | ok pin =>
      cases hrest : rest.mapM readPin with
      | error e =>
        rw [hpin, hrest] at h
        cases h
      | ok more =>
        rw [hpin, hrest] at h
        cases h
        exact List.forall_mem_cons.2 ⟨ne_blank_of_readPin hpin, ih more hrest⟩

/-- The settings pin a service to no name, and neither the command line nor the variables pin it. -/
structure BlankPinned (a : Arguments) (s : Settings) (e : Environment) (service : String) :
    Prop where
  settings : s.pins.get? service = some ""
  commandLine : a.pins.reverse.lookup service = none
  environment : (if s.consultEnvironment then e.value? service else none).filter
    (!·.isEmpty) = none

/-- What becomes of blank pins in lookups, and in a catalog to which the pins of a command line and
of settings apply. -/
structure Blanks (a : Arguments) (s : Settings) (e : Environment) (stock : Stock) (table : Table)
    (c : Contract) (service : String) : Prop where
  /-- A lookup answers no name just if the settings pin the service to none and nothing else pins
  it. -/
  blank : (a.pinSource s).lookup e service = some "" ↔ a.BlankPinned s e service
  /-- With blank pins taken out of every source, there is no pin then, and any other pin stays. -/
  without : (a.pinSource s).withoutBlanks.lookup e.withoutBlanks service =
    ((a.pinSource s).lookup e service).filter (!·.isEmpty)
  /-- A service that is pinned to no name is not located. -/
  missed : a.BlankPinned s e service → (stock.locate ⟨table, a.pinSource s⟩ e c service).1 = none
  /-- So taking blank pins out makes a difference just if there is something to locate. -/
  located : (stock.locate ⟨table, a.pinSource s⟩ e c service).1 =
      (stock.locate ⟨table, (a.pinSource s).withoutBlanks⟩ e.withoutBlanks c service).1 ↔
    (a.BlankPinned s e service → (stock.locateAll ⟨table, a.pinSource s⟩ c service).1 = [])

section Lookups

variable (hpins : ∀ pin ∈ a.pins, pin.2 ≠ "")
include hpins

/-- The command line has no blank pin for a service. -/
theorem lookup_pins_ne_blank : a.pins.reverse.lookup service ≠ some "" := by
  intro hblank
  obtain ⟨front, rest, hpair, -⟩ := List.lookup_eq_some_iff.1 hblank
  have hmem : (service, "") ∈ a.pins.reverse := hpair ▸ by simp
  exact hpins _ (List.mem_reverse.1 hmem) rfl

/-- A lookup through all sources answers a blank name just if the settings alone have a pin for the
service, a blank one. -/
theorem lookup_pinSource_eq_blank_iff :
    (a.pinSource s).lookup e service = some "" ↔ a.BlankPinned s e service := by
  rw [lookup_pinSource, pin?]
  constructor
  · intro h
    rcases Option.or_eq_some_iff.1 h with hcommand | ⟨hcommand, h⟩
    · exact absurd hcommand (lookup_pins_ne_blank hpins)
    · rcases Option.or_eq_some_iff.1 h with hvariable | ⟨hvariable, hsettings⟩
      · simpa using (Option.filter_eq_some_iff.1 hvariable).2
      · exact ⟨hsettings, hcommand, hvariable⟩
  · rintro ⟨hsettings, hcommand, hvariable⟩
    rw [hcommand, hvariable, hsettings]
    rfl

/-- To drop blank pins from all sources is to drop the blank answers of their lookups. -/
theorem lookup_withoutBlanks_pinSource :
    (a.pinSource s).withoutBlanks.lookup e.withoutBlanks service =
      ((a.pinSource s).lookup e service).filter (!·.isEmpty) := by
  by_cases hblank : (a.pinSource s).lookup e service = some ""
  · -- The settings are asked last, so there is no pin behind theirs.
    obtain ⟨hsettings, hcommand, hvariable⟩ := (lookup_pinSource_eq_blank_iff hpins).1 hblank
    rw [hblank, PinSource.lookup_withoutBlanks, offered_pinSource, hcommand, hvariable, hsettings]
    rfl
  · rw [PinSource.lookup_withoutBlanks_of_ne hblank]
    cases hlookup : (a.pinSource s).lookup e service with
    | none => rfl
    | some name =>
      have hne : name ≠ "" := fun hname => hblank (hname ▸ hlookup)
      simp [Option.filter_some, hne]

end Lookups

/-- A blank pin counts just if it stands in the settings and no other source pins the service, and
then nothing is located, whatever there is. -/
theorem blanks_of_readPin (hread : texts.mapM readPin = .ok a.pins) {stock : Stock}
    (hnamed : stock.Named) {table : Table} (hapart : Provider.Apart (table.candidates service))
    (s : Settings) (e : Environment) (c : Contract) :
    Blanks a s e stock table c service := by
  have hpins := ne_blank_of_mapM_readPin hread
  have hblank : (a.pinSource s).lookup e service = some "" ↔ a.BlankPinned s e service :=
    lookup_pinSource_eq_blank_iff hpins
  have hwithout : (a.pinSource s).withoutBlanks.lookup e.withoutBlanks service =
      ((a.pinSource s).lookup e service).filter (!·.isEmpty) :=
    lookup_withoutBlanks_pinSource hpins
  have hlocate (source : PinSource) (e : Environment) :
      (stock.locate ⟨table, source⟩ e c service).1 =
        ((table.candidates service).filterMap (stock.offer? c)).find?
          (Stock.agrees (source.lookup e service)) :=
    (Stock.locateFirst_eq hapart (List.Subset.refl _) _ c stock).1
  have hall : (stock.locateAll ⟨table, a.pinSource s⟩ c service).1 =
      (table.candidates service).filterMap (stock.offer? c) :=
    (Stock.locateEach_eq hapart (List.Subset.refl _) c stock).1
  refine ⟨hblank, hwithout, fun h => ?_, ?_⟩
  · rw [hlocate, hblank.2 h]
    exact hnamed.find?_agrees_blank c _
  · rw [hlocate, hlocate, hwithout, hall]
    by_cases h : a.BlankPinned s e service
    · have hnone : (some "").filter (!·.isEmpty) = none := rfl
      rw [hblank.2 h, hnamed.find?_agrees_blank c, hnone, Stock.find?_agrees, Stock.preferred,
        eq_comm, List.head?_eq_none_iff]
      exact ⟨fun hempty _ => hempty, fun hempty => hempty h⟩
    · have hne : (a.pinSource s).lookup e service ≠ some "" := mt hblank.1 h
      have hsame : ((a.pinSource s).lookup e service).filter (!·.isEmpty) =
          (a.pinSource s).lookup e service := by
        rw [← hwithout, PinSource.lookup_withoutBlanks_of_ne hne]
      simp [h, hsame]

/-! Settings pin a service to no name, and the command line pins another one. The module has a
provider for the service, which has been resolved. -/

section Example

/-- Settings that pin a service to the blank name. -/
def blankSettings : Settings := Settings.pin {} "Greeter" ""

/-- Arguments that ask for the service and pin another one. -/
def pinArguments : Arguments where
  command := .locate "Greeter"
  modules := []
  pins := [("Farewell", "Bye")]

/-- A table with the provider of the module. -/
def greeterTable : Table := .register .empty "Greeter" World.helloProvider

/-- A stock in which the provider has been resolved. -/
def resolvedStock : Stock :=
  (Stock.resolve { objects := ⟨[{ content := .inMemory World.helloModule }]⟩ }
    World.helloProvider).2

/-- The stock of the example remembers a type with a name. -/
theorem named_resolvedStock : resolvedStock.Named := by
  refine Stock.Named.resolve (fun n t hn => ?_) World.helloProvider
  have hnone : (none : Memo) = some (.ok t) := hn
  cases hnone

/-- Settings that pin a service to no name leave nothing to be located for it, while all that is
provided can still be listed. -/
theorem blanks_of_readPin_blankSettings :
    ["Farewell=Bye"].mapM readPin = .ok pinArguments.pins ∧
    pinArguments.BlankPinned blankSettings .empty "Greeter" ∧
    Blanks pinArguments blankSettings .empty resolvedStock greeterTable ⟨"Greeter", none⟩
      "Greeter" ∧
    (resolvedStock.locateAll ⟨greeterTable, pinArguments.pinSource blankSettings⟩
      ⟨"Greeter", none⟩ "Greeter").1 = [⟨"Hello", ⟨7⟩⟩] := by
  have hread : ["Farewell=Bye"].mapM readPin = .ok pinArguments.pins := by decide
  have hcandidates : greeterTable.candidates "Greeter" = [World.helloProvider] := rfl
  have hapart : Provider.Apart (greeterTable.candidates "Greeter") := by
    rw [hcandidates]
    unfold Provider.Apart
    decide
  exact ⟨hread, ⟨by decide, by decide, by decide⟩,
    blanks_of_readPin hread named_resolvedStock hapart blankSettings .empty ⟨"Greeter", none⟩,
    by rfl⟩

end Example

end Arguments

end ServiceRegistry
