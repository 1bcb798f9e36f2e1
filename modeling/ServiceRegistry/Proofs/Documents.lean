import ServiceRegistry.Module.Manifest
import ServiceRegistry.Proofs.JsonReading
import ServiceRegistry.Settings.Document

/-!
# Documents of the registry

Layers of settings, settings, manifests and type spaces are read back from the text that is written
for them (`documents_readBack`). A record is written as an object that leaves out some of its fields
(`Json.membersOfFields`), and what is read from an object is the list of its fields, each there or
not (`Json.fields?_membersOfFields`). So it is enough that each field is decoded from what it is
encoded to (`Json.Undoes`), and one that is left out to what it then stands for. Dictionaries and
sets come back as they were, since they have only one order.
-/

namespace ServiceRegistry

/-! ## Collections -/

/-- A dictionary is made anew from its own entries. -/
theorem Dict.ofList_entries {κ ν : Type} [Ord κ] [Std.TransOrd κ] [Std.LawfulEqOrd κ]
    [DecidableEq κ] (d : Dict κ ν) : Dict.ofList d.entries = d :=
  Dict.ext_get? fun k => by rw [Dict.get?_ofList, Dict.lookup_entries]

/-- A set is made anew from its own elements. -/
theorem SortedSet.ofList_keys {κ : Type} [Ord κ] [Std.TransOrd κ] [Std.LawfulEqOrd κ]
    [DecidableEq κ] (s : SortedSet κ) : SortedSet.ofList s.keys = s := by
  have hentries : s.keys.map (·, ()) = s.entries := by
    rw [Dict.keys, List.map_map]
    exact List.map_id _
  rw [SortedSet.ofList, hentries, Dict.ofList_entries]

namespace Json

variable {α : Type} {decode : Decoder α} {encode : α → Json} {fields : List (String × Option Json)}
  {key : String}

/-- What is encoded is decoded to what it was, and its text says all of it. -/
structure Undoes (decode : Decoder α) (encode : α → Json) : Prop where
  decode_encode : ∀ v, decode (encode v) = some v
  plain : ∀ v, Plain (encode v)

/-- A value is read back from the text that is written for it. -/
theorem Undoes.read?_bind (h : Undoes decode encode) (v : α) :
    (read? (String.ofList (compact (encode v)))).bind decode = some v := by
  rw [read?_compact (h.plain v)]
  exact h.decode_encode v

/-- Booleans are read back. -/
theorem undoes_asBool : Undoes asBool .bool := ⟨fun _ => rfl, .bool⟩

/-- Texts are read back. -/
theorem undoes_asString : Undoes asString .string := ⟨fun _ => rfl, .string⟩

/-- Module numbers are read back, the largest ones too. -/
theorem undoes_asModuleId : Undoes asModuleId ModuleId.toJson where
  decode_encode id := by simp [asModuleId, asWord, ModuleId.toJson, nat, id.word.toNat_lt_size]
  plain id := .whole false id.word.toNat

/-- States are read back by their names. -/
theorem undoes_asState : Undoes (asName ModuleState.ofText?) fun s => .string s.text :=
  ⟨ModuleState.ofText?_text, fun s => .string s.text⟩

/-- Lists are read back if their items are. -/
theorem Undoes.asList (h : Undoes decode encode) :
    Undoes (asList decode) fun vs => .array (vs.map encode) where
  decode_encode vs := by
    unfold Json.asList
    dsimp only
    induction vs with
    | nil => rfl
    | cons v vs ih => simp [h.decode_encode, ih]
  plain vs := .array fun item hitem => by
    obtain ⟨v, -, rfl⟩ := List.mem_map.1 hitem
    exact h.plain v

/-- Dictionaries are read back, in their order, if their values are. -/
theorem Undoes.asDict (h : Undoes decode encode) :
    Undoes (asDict decode) fun d => .object (d.entries.map fun e => (e.1, encode e.2)) where
  decode_encode d := by
    have hmembers : (d.entries.map fun e => (e.1, encode e.2)).mapM
        (fun m : String × Json => (decode m.2).map fun v => (m.1, v)) = some d.entries := by
      induction d.entries with
      | nil => rfl
      | cons e more ih => simp [h.decode_encode, ih]
    rw [Json.asDict, hmembers, Option.map_some, Dict.ofList_entries]
  plain d := .object fun m hm => by
    obtain ⟨e, -, rfl⟩ := List.mem_map.1 hm
    exact h.plain e.2

/-- Sets of texts are read back from the list of their elements. -/
theorem undoes_asSet : Undoes asSet SortedSet.toJson where
  decode_encode s := by
    rw [asSet, SortedSet.toJson, undoes_asString.asList.decode_encode, Option.map_some,
      SortedSet.ofList_keys]
  plain s := undoes_asString.asList.plain s.keys

/-! ## Records -/

/-- The members of a record, without the fields that are not there. -/
def membersOfFields (fields : List (String × Option Json)) : List (String × Json) :=
  fields.flatMap fun f => (f.2.map (f.1, ·)).toList

/-- The members of a key are those in both parts of an object. -/
theorem membersOf_append (key : String) (members more : List (String × Json)) :
    membersOf key (members ++ more) = membersOf key members ++ membersOf key more := by
  rw [membersOf, List.filter_append, List.map_append, membersOf, membersOf]

/-- A field that is set is a member of its key only, and one that is left out is none. -/
theorem membersOf_field (key : String) (f : String × Option Json) :
    membersOf key (f.2.map (f.1, ·)).toList = if f.1 = key then f.2.toList else [] := by
  obtain ⟨name, value⟩ := f
  cases value with
  | none => simp [membersOf]
  | some j => by_cases hkey : name = key <;> simp [membersOf, hkey]

/-- A key that is not that of a field has no members. -/
theorem membersOf_eq_nil (hkey : key ∉ fields.map (·.1)) :
    membersOf key (membersOfFields fields) = [] := by
  unfold membersOfFields
  induction fields with
  | nil => rfl
  | cons f more ih =>
    rw [List.map_cons, List.mem_cons, not_or] at hkey
    rw [List.flatMap_cons, membersOf_append, membersOf_field, if_neg (Ne.symm hkey.1), ih hkey.2,
      List.append_nil]

/-- In a record, each key has at most its own field. -/
theorem membersOf_fields (hnodup : (fields.map (·.1)).Nodup) {f : String × Option Json}
    (hf : f ∈ fields) : membersOf f.1 (membersOfFields fields) = f.2.toList := by
  induction fields with
  | nil => exact absurd hf List.not_mem_nil
  | cons first more ih =>
    rw [List.map_cons, List.nodup_cons] at hnodup
    have hcons : membersOfFields (first :: more) =
        (first.2.map (first.1, ·)).toList ++ membersOfFields more := List.flatMap_cons
    rw [hcons, membersOf_append, membersOf_field]
    rcases List.mem_cons.1 hf with rfl | hmore
    · rw [if_pos rfl, membersOf_eq_nil hnodup.1, List.append_nil]
    · have hne : first.1 ≠ f.1 := fun heq => hnodup.1 (heq ▸ List.mem_map_of_mem hmore)
      rw [if_neg hne, ih hnodup.2 hmore, List.nil_append]

/-- What is read from an object are the fields that were written. -/
theorem fields?_membersOfFields (fields : List (String × Option Json))
    (hnodup : (fields.map (·.1)).Nodup) (required : Nat) :
    fields? (fields.map (·.1)) required (.object (membersOfFields fields)) =
      some (fields.map (·.2)) := by
  have honce : ((fields.map (·.1)).all fun name =>
      (membersOf name (membersOfFields fields)).length ≤ 1) = true := by
    rw [List.all_eq_true]
    intro name hname
    obtain ⟨f, hf, rfl⟩ := List.mem_map.1 hname
    rw [membersOf_fields hnodup hf, decide_eq_true_eq]
    cases f.2 <;> simp
  have hvalues : ((fields.map (·.1)).map fun name =>
      (membersOf name (membersOfFields fields)).head?) = fields.map (·.2) := by
    rw [List.map_map]
    refine List.map_congr_left fun f hf => ?_
    rw [Function.comp_apply, membersOf_fields hnodup hf, Option.head?_toList]
  rw [fields?, if_pos honce, hvalues]

/-- An object is plain if the values of its fields are. -/
theorem plain_membersOfFields (h : ∀ f ∈ fields, ∀ j ∈ f.2, Plain j) :
    Plain (.object (membersOfFields fields)) := by
  refine .object fun m hm => ?_
  obtain ⟨f, hf, hm⟩ := List.mem_flatMap.1 hm
  obtain ⟨j, hj, rfl⟩ := Option.map_eq_some_iff.1 (Option.mem_toList.1 hm)
  exact h f hf j hj

/-- A field that is there is decoded, whatever it would be otherwise. -/
theorem Undoes.present (h : Undoes decode encode) (default v : α) :
    defaulted default decode (some (encode v)) = some v :=
  h.decode_encode v

/-- A field that can be left out is decoded whether or not it is there. -/
theorem Undoes.optional (h : Undoes decode encode) (hnull : ∀ v, encode v ≠ .null) (v : Option α) :
    defaulted none (orNull decode) (v.map encode) = some v := by
  cases v with
  | none => rfl
  | some v =>
    have hsome : orNull decode (encode v) = (decode (encode v)).map some := by
      unfold orNull
      split
      · exact absurd ‹_› (hnull v)
      · rfl
    simp [defaulted, hsome, h.decode_encode]

/-- What is written for an optional value is plain. -/
theorem Undoes.plain_optional (h : Undoes decode encode) (v : Option α) :
    ∀ j ∈ v.map encode, Plain j := by
  intro j hj
  obtain ⟨v, -, rfl⟩ := Option.map_eq_some_iff.1 hj
  exact h.plain v

end Json

/-! ## What the records hold -/

open Json

/-- Pins are read back. -/
theorem undoes_pins : Undoes (asDict asString) Dict.toJson := undoes_asString.asDict

/-- The imports of a type space are read back. -/
theorem undoes_imports : Undoes (asDict asModuleId) TypeSpace.importsToJson :=
  undoes_asModuleId.asDict

namespace Settings

/-- Lists of states are read back. -/
theorem undoes_asStates : Undoes asStates ModuleState.listToJson := undoes_asState.asList

/-- The fields of settings, all of which are written. -/
def fields (s : Settings) : List (String × Option Json) := [
  ("debug", some (.bool s.debug)),
  ("descriptorDir", some (.string s.descriptorFolder)),
  ("cacheFailures", some (.bool s.cacheFailures)),
  ("consultEnv", some (.bool s.consultEnvironment)),
  ("overrides", some s.pins.toJson),
  ("startupStates", some (ModuleState.listToJson s.startupStates))]

/-- Settings are read back field by field. -/
theorem undoes_ofJson? : Undoes ofJson? toJson where
  decode_encode s := by
    have hfields : fields? keys 0 s.toJson = some (s.fields.map (·.2)) :=
      fields?_membersOfFields s.fields (show keys.Nodup by decide) 0
    rw [ofJson?, hfields]
    simp [fields, undoes_asBool.present, undoes_asString.present, undoes_pins.present,
      undoes_asStates.present]
  plain s := by
    refine plain_membersOfFields (show ∀ f ∈ s.fields, _ from ?_)
    simp [fields, undoes_asBool.plain, undoes_asString.plain, undoes_pins.plain,
      undoes_asStates.plain]

/-- The fields of a layer, of which those that it does not set are left out. -/
def Layer.fields (l : Layer) : List (String × Option Json) := [
  ("debug", l.debug.map .bool),
  ("descriptorDir", l.descriptorFolder.map .string),
  ("cacheFailures", l.cacheFailures.map .bool),
  ("consultEnv", l.consultEnvironment.map .bool),
  ("overrides", if l.pins.isEmpty then none else some l.pins.toJson),
  ("startupStates", l.startupStates.map ModuleState.listToJson)]

/-- A layer is written as the object of the fields that it sets. -/
theorem Layer.toJson_eq (l : Layer) : l.toJson = .object (membersOfFields l.fields) := by
  unfold Layer.toJson membersOfFields Layer.fields
  simp only [List.flatMap_cons, List.flatMap_nil, Option.map_map, Function.comp_def]
  split <;> simp

/-- Pins are left out if there are none. -/
theorem defaulted_pins (pins : Dict String String) :
    defaulted .empty (asDict asString) (if pins.isEmpty then none else some pins.toJson) =
      some pins := by
  split
  · rename_i hempty
    exact congrArg some (Dict.ext (List.isEmpty_iff.1 hempty).symm)
  · exact undoes_pins.decode_encode pins

/-- Layers are read back: what was left out is not set. -/
theorem Layer.undoes_ofJson? : Undoes Layer.ofJson? Layer.toJson where
  decode_encode l := by
    have hfields : fields? keys 6 l.toJson = some (l.fields.map (·.2)) := by
      rw [Layer.toJson_eq]
      exact fields?_membersOfFields l.fields (show keys.Nodup by decide) 6
    rw [Layer.ofJson?, hfields]
    simp [Layer.fields, undoes_asBool.optional nofun, undoes_asString.optional nofun,
      defaulted_pins, undoes_asStates.optional nofun]
  plain l := by
    rw [Layer.toJson_eq]
    refine plain_membersOfFields ?_
    simp only [Layer.fields, List.forall_mem_cons]
    refine ⟨undoes_asBool.plain_optional _, undoes_asString.plain_optional _,
      undoes_asBool.plain_optional _, undoes_asBool.plain_optional _, fun j hj => ?_,
      undoes_asStates.plain_optional _, nofun⟩
    split at hj
    · cases hj
    · rw [← Option.mem_some_iff.1 hj]
      exact undoes_pins.plain l.pins

end Settings

namespace Manifest

/-- The fields of a manifest, of which a name that is not given is left out. -/
def fields (m : Manifest) : List (String × Option Json) := [
  ("name", m.name.map .string),
  ("types", some (.array (m.types.map .string))),
  ("imports", some (TypeSpace.importsToJson m.imports))]

/-- A manifest is written as the object of its fields, the name among them if it is given. -/
theorem toJson_eq (m : Manifest) : m.toJson = .object (membersOfFields m.fields) := by
  unfold toJson membersOfFields fields
  simp [Function.comp_def]

/-- Manifests are read back. -/
theorem undoes_ofJson? : Undoes ofJson? toJson where
  decode_encode m := by
    have hfields : fields? ["name", "types", "imports"] 0 m.toJson = some (m.fields.map (·.2)) := by
      rw [toJson_eq]
      exact fields?_membersOfFields m.fields
        (show ["name", "types", "imports"].Nodup by decide) 0
    rw [ofJson?, hfields]
    simp [fields, undoes_asString.optional nofun, undoes_asString.asList.present,
      undoes_imports.present]
  plain m := by
    rw [toJson_eq]
    refine plain_membersOfFields ?_
    simp [fields, undoes_asString.plain, undoes_asString.asList.plain, undoes_imports.plain]

end Manifest

namespace TypeSpace

/-- The fields of a type space, all of which are written. -/
def fields (space : TypeSpace) : List (String × Option Json) := [
  ("defined", some space.defined.toJson),
  ("imports", some (importsToJson space.imports)),
  ("rejected", some space.rejected.toJson)]

/-- Type spaces are read back. -/
theorem undoes_ofJson? : Undoes ofJson? toJson where
  decode_encode space := by
    have hfields : fields? ["defined", "imports", "rejected"] 0 space.toJson =
        some (space.fields.map (·.2)) :=
      fields?_membersOfFields space.fields
        (show ["defined", "imports", "rejected"].Nodup by decide) 0
    rw [ofJson?, hfields]
    simp [fields, undoes_asSet.present, undoes_imports.present, undoes_pins.present]
  plain space := by
    refine plain_membersOfFields (show ∀ f ∈ space.fields, _ from ?_)
    simp [fields, undoes_asSet.plain, undoes_imports.plain, undoes_pins.plain]

end TypeSpace

/-- Whatever texts, numbers and collections a layer, settings, a manifest or a type space holds, it
is read back from the text that is written for it. -/
theorem documents_readBack :
    (∀ l : Settings.Layer,
      (read? (String.ofList l.toJson.compact)).bind Settings.Layer.ofJson? = some l) ∧
    (∀ s : Settings, (read? (String.ofList s.toJson.compact)).bind Settings.ofJson? = some s) ∧
    (∀ m : Manifest, (read? (String.ofList m.toJson.compact)).bind Manifest.ofJson? = some m) ∧
    (∀ space : TypeSpace,
      (read? (String.ofList space.toJson.compact)).bind TypeSpace.ofJson? = some space) :=
  ⟨Settings.Layer.undoes_ofJson?.read?_bind, Settings.undoes_ofJson?.read?_bind,
    Manifest.undoes_ofJson?.read?_bind, TypeSpace.undoes_ofJson?.read?_bind⟩

end ServiceRegistry
