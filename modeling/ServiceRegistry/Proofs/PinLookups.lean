import ServiceRegistry.CommandLine.Run

/-!
# Pins in the order in which they are asked for

A source of pins, however its chains are nested, is a list of pins for each service
(`PinSource.offered`), of which a lookup answers the first (`PinSource.lookup_eq_head?`). Taking the
blank pins out of every source takes them out of this list (`PinSource.offered_withoutBlanks`), so
that a lookup then goes on to the first pin that names an implementation.
-/

namespace ServiceRegistry

/-! ## Taking blank values out -/

/-- The pairs whose values are not empty. -/
def Dict.withoutBlanks (d : Dict String String) : Dict String String :=
  ⟨d.entries.filter fun e => !e.2.isEmpty, d.sorted.filter _⟩

/-- Leaving out blank values hides a key exactly if its value is blank. -/
theorem Dict.get?_withoutBlanks (d : Dict String String) (k : String) :
    d.withoutBlanks.get? k = (d.get? k).filter (!·.isEmpty) := by
  apply Option.ext
  intro v
  rw [Dict.get?_eq_some_iff, Option.filter_eq_some_iff, Dict.get?_eq_some_iff]
  exact List.mem_filter

/-- Without the variables that have no value, all others are found as before. -/
theorem Environment.value?_withoutBlanks (e : Environment) (name : String) :
    (value? e.withoutBlanks name).filter (!·.isEmpty) =
      (e.value? name).filter (!·.isEmpty) := by
  unfold value?
  cases Text.splitFirst '=' name.toList with
  | none =>
    dsimp only
    split
    · rfl
    · rw [Dict.get?_withoutBlanks, Option.filter_filter]
      simp
  | some cut =>
    -- Such a name is found inside a value, which is not empty then.
    obtain ⟨front, start⟩ := cut
    dsimp only
    rw [Dict.get?_withoutBlanks]
    cases e.get? (String.ofList front) with
    | none => rfl
    | some value =>
      by_cases hempty : value = ""
      · subst hempty
        have hunnamed : (start ++ ['=']).isPrefixOf "".toList = false := by cases start <;> rfl
        simp only [hunnamed]
        rfl
      · simp [Option.filter_some, hempty]

namespace PinSource

variable {e : Environment} {service : String}

mutual

/-- The source without pins that name no implementation. -/
def withoutBlanks : PinSource → PinSource
  | environment => environment
  | fixed pins => fixed pins.withoutBlanks
  | chain sources => chain (withoutBlanksAll sources)

/-- Sources without pins that name no implementation. -/
def withoutBlanksAll : List PinSource → List PinSource
  | [] => []
  | source :: rest => source.withoutBlanks :: withoutBlanksAll rest

end

mutual

/-- The pins of all sources for a service, in the order in which the sources are asked. -/
def offered (e : Environment) (service : String) : PinSource → List String
  | environment => ((e.value? service).filter (!·.isEmpty)).toList
  | fixed pins => (pins.get? service).toList
  | chain sources => offeredAll e service sources

/-- The pins of some sources for a service. -/
def offeredAll (e : Environment) (service : String) : List PinSource → List String
  | [] => []
  | source :: rest => source.offered e service ++ offeredAll e service rest

end

mutual

/-- A lookup answers the first pin. -/
theorem lookup_eq_head? (e : Environment) (service : String) :
    ∀ source : PinSource, source.lookup e service = (source.offered e service).head?
  | environment => by rw [lookup, offered, Option.head?_toList]
  | fixed pins => by rw [lookup, offered, Option.head?_toList]
  | chain sources => by rw [lookup, offered, lookupFirst_eq_head? e service sources]

/-- The first pin that is found is the first one on offer. -/
theorem lookupFirst_eq_head? (e : Environment) (service : String) :
    ∀ sources : List PinSource,
      lookupFirst e service sources = (offeredAll e service sources).head?
  | [] => rfl
  | source :: rest => by
    rw [lookupFirst, offeredAll, List.head?_append, lookup_eq_head? e service source,
      lookupFirst_eq_head? e service rest]

end

mutual

/-- Without blank pins a source has those of its pins that are not blank. -/
theorem offered_withoutBlanks (e : Environment) (service : String) :
    ∀ source : PinSource, source.withoutBlanks.offered e.withoutBlanks service =
      (source.offered e service).filter (!·.isEmpty)
  | environment => by
    rw [withoutBlanks, offered, offered, Environment.value?_withoutBlanks]
    cases e.value? service with
    | none => rfl
    | some value => cases h : value.isEmpty <;> simp [Option.filter_some, h]
  | fixed pins => by
    rw [withoutBlanks, offered, offered, Dict.get?_withoutBlanks]
    cases pins.get? service with
    | none => rfl
    | some value => cases h : value.isEmpty <;> simp [Option.filter_some, h]
  | chain sources => by
    rw [withoutBlanks, offered, offered, offeredAll_withoutBlanks e service sources]

/-- Sources without blank values offer what is not blank. -/
theorem offeredAll_withoutBlanks (e : Environment) (service : String) :
    ∀ sources : List PinSource, offeredAll e.withoutBlanks service (withoutBlanksAll sources) =
      (offeredAll e service sources).filter (!·.isEmpty)
  | [] => rfl
  | source :: rest => by
    rw [withoutBlanksAll, offeredAll, offeredAll, List.filter_append,
      offered_withoutBlanks e service source, offeredAll_withoutBlanks e service rest]

end

/-- Without blank pins, a lookup answers the first pin that is not blank. -/
theorem lookup_withoutBlanks (e : Environment) (service : String) (source : PinSource) :
    source.withoutBlanks.lookup e.withoutBlanks service =
      (source.offered e service).find? (!·.isEmpty) := by
  rw [lookup_eq_head?, offered_withoutBlanks, List.head?_filter]

/-- A lookup whose answer is not blank answers the same without blank pins. -/
theorem lookup_withoutBlanks_of_ne {source : PinSource} (h : source.lookup e service ≠ some "") :
    source.withoutBlanks.lookup e.withoutBlanks service = source.lookup e service := by
  rw [lookup_withoutBlanks]
  rw [lookup_eq_head?] at h ⊢
  cases hoffered : source.offered e service with
  | nil => rfl
  | cons first rest =>
    have hfirst : first ≠ "" := by simpa [hoffered] using h
    simp [hfirst]

end PinSource

namespace Arguments

/-- The pins for a service that the settings, the variables and the command line have. -/
theorem offered_pinSource (a : Arguments) (s : Settings) (e : Environment) (service : String) :
    (a.pinSource s).offered e service = (a.pins.reverse.lookup service).toList ++
      (((if s.consultEnvironment then e.value? service else none).filter (!·.isEmpty)).toList ++
        (s.pins.get? service).toList) := by
  have hsettings : PinSource.offeredAll e service (PinSource.listOfSettings s) =
      ((if s.consultEnvironment then e.value? service else none).filter (!·.isEmpty)).toList ++
        (s.pins.get? service).toList := by
    unfold PinSource.listOfSettings
    by_cases hempty : s.pins.isEmpty = true
    · have hnone : s.pins.get? service = none := by
        rw [Dict.ext (List.isEmpty_iff.1 hempty) (e := .empty), Dict.get?_empty]
      cases s.consultEnvironment <;> simp [PinSource.offeredAll, PinSource.offered, hempty, hnone]
    · cases s.consultEnvironment <;> simp [PinSource.offeredAll, PinSource.offered, hempty]
  unfold pinSource
  by_cases hempty : a.pins = []
  · simp [hempty, PinSource.offered, hsettings]
  · simp [hempty, PinSource.offered, PinSource.offeredAll, hsettings, Dict.get?_ofList]

end Arguments

end ServiceRegistry
