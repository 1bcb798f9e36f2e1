import ServiceRegistry.Proofs.Documents
import ServiceRegistry.Proofs.LayeredSettings

/-!
# Settings that are written and put over others

Settings and layers have the same keys, so the document of settings can stand where a layer is
expected: it is read as the layer that sets every field (`Settings.asLayer`). Put over any base,
this layer gives the settings back, but for pins that only the base has (`dumped_restored`).

The descriptor folder comes back because it is in its written form already. The defaults have it so,
and each `Settings.Change` keeps it so whatever text it is given (`Change.written_apply`). Settings
that are read from a document of all fields, which may name a folder otherwise, are left out.
-/

namespace ServiceRegistry

namespace Json

/-- A field that can be left out and is there is decoded to its value. -/
theorem Undoes.given {α : Type} {decode : Decoder α} {encode : α → Json} (h : Undoes decode encode)
    (hnull : ∀ v, encode v ≠ .null) (v : α) :
    defaulted none (orNull decode) (some (encode v)) = some (some v) :=
  h.optional hnull (some v)

end Json

namespace Settings

variable {s : Settings}

/-! ## Ways of changing settings -/

/-- One way of changing settings. -/
inductive Change where
  /-- Puts a layer over them. -/
  | merge (layer : Layer)
  /-- Applies environment variables. -/
  | environment (lookup : String → Option String)
  /-- Switches the reporting of details. -/
  | debug (on : Bool)
  /-- Names the descriptor folder. -/
  | descriptorFolder (text : String)
  /-- Says whether failures are remembered. -/
  | cacheFailures (on : Bool)
  /-- Says whether environment variables can pin implementations. -/
  | consultEnvironment (on : Bool)
  /-- Pins one more implementation. -/
  | pin (service implementation : String)
  /-- Says which modules a follower takes up when it starts. -/
  | startupStates (states : List ModuleState)

namespace Change

/-- The settings after a change. -/
def apply (s : Settings) : Change → Settings
  | merge layer => s.merge layer
  | environment lookup => s.applyVariables lookup
  | debug on => { s with debug := on }
  | descriptorFolder text => s.setDescriptorFolder text
  | cacheFailures on => { s with cacheFailures := on }
  | consultEnvironment on => { s with consultEnvironment := on }
  | pin service implementation => s.pin service implementation
  | startupStates states => { s with startupStates := states }

/-- The settings that changes make of the defaults, one after another. -/
def made (changes : List Change) : Settings := changes.foldl apply {}

end Change

/-! ## The descriptor folder -/

/-- The descriptor folder is in its written form. -/
def Written (s : Settings) : Prop := Slashes.Folder s.descriptorFolder.toList

/-- The written form of a folder's name begins with no slash and, unless it is empty, ends in one.
-/
theorem folder_folderName (text : String) : Slashes.Folder (folderName text).toList := by
  rw [folderName, String.toList_ofList]
  exact Slashes.folder_asFolder text.toList

/-- A folder that may be named anew is in its written form if it was so before. -/
theorem folder_getD (h : s.Written) (named : Option String) :
    Slashes.Folder ((named.map folderName).getD s.descriptorFolder).toList := by
  cases named with
  | none => exact h
  | some text => exact folder_folderName text

/-- Bringing a folder's name into its written form a second time changes nothing. -/
theorem Written.folderName_eq (h : s.Written) :
    folderName s.descriptorFolder = s.descriptorFolder := by
  rw [folderName, Slashes.asFolder_of_folder h, String.ofList_toList]

/-- No change takes the descriptor folder out of its written form. -/
theorem Change.written_apply (change : Change) (h : s.Written) : (change.apply s).Written := by
  cases change with
  | merge layer => exact folder_getD h layer.descriptorFolder
  | environment lookup =>
    change Slashes.Folder (s.applyVariables lookup).descriptorFolder.toList
    rw [applyVariables_eq]
    exact folder_getD h _
  | descriptorFolder text => exact folder_folderName text
  | debug on => exact h
  | cacheFailures on => exact h
  | consultEnvironment on => exact h
  | pin service implementation => exact h
  | startupStates states => exact h

/-- Changes keep settings in their written form. -/
theorem Change.written_foldl (changes : List Change) (h : s.Written) :
    (changes.foldl apply s).Written := by
  induction changes generalizing s with
  | nil => exact h
  | cons change rest ih => exact ih (change.written_apply h)

/-- Settings that are made by changes of the defaults are in their written form. -/
theorem Change.written_made (changes : List Change) : (made changes).Written :=
  written_foldl changes (show Slashes.Folder _ by decide)

/-! ## Settings as a layer -/

/-- The layer that sets every field as settings have it. -/
def asLayer (s : Settings) : Layer where
  debug := some s.debug
  descriptorFolder := some s.descriptorFolder
  cacheFailures := some s.cacheFailures
  consultEnvironment := some s.consultEnvironment
  pins := s.pins
  startupStates := some s.startupStates

/-- The document of settings, read as that of a layer, sets every field. -/
theorem layer_ofJson?_toJson (s : Settings) : Layer.ofJson? s.toJson = some s.asLayer := by
  have hfields : Json.fields? keys 6 s.toJson = some (s.fields.map (·.2)) :=
    Json.fields?_membersOfFields s.fields (show keys.Nodup by decide) 6
  have hbool (b : Bool) : Json.bool b ≠ .null := by simp
  have hstring (t : String) : Json.string t ≠ .null := by simp
  have hstates (states : List ModuleState) : ModuleState.listToJson states ≠ .null := by
    simp [ModuleState.listToJson]
  rw [Layer.ofJson?, hfields]
  simp [fields, asLayer, Json.undoes_asBool.given hbool, Json.undoes_asString.given hstring,
    undoes_pins.present, undoes_asStates.given hstates]

/-- Dumped settings are read as a layer that sets every field. -/
theorem read?_dumped (s : Settings) :
    (Json.read? (String.ofList s.toJson.compact)).bind Layer.ofJson? = some s.asLayer := by
  rw [Json.read?_compact (undoes_ofJson?.plain s)]
  exact layer_ofJson?_toJson s

/-- Put over a base, the layer of settings leaves only pins of the base. -/
theorem Written.merge_asLayer (h : s.Written) (base : Settings) :
    base.merge s.asLayer = { s with pins := base.pins.extend s.pins } := by
  simp only [merge, asLayer, Option.getD_some, Option.map_some, h.folderName_eq]

/-- What becomes of settings that are written as a document and read back as a layer. -/
structure Restored (s : Settings) (l : Layer) : Prop where
  /-- The text that is written for the settings says the layer. -/
  reads : (Json.read? (String.ofList s.toJson.compact)).bind Layer.ofJson? = some l
  /-- Over a base, all fields are those of the settings, and the base's pins stay below theirs. -/
  overBase : ∀ base : Settings, base.merge l = { s with pins := base.pins.extend s.pins }
  /-- On a service that both pin, the settings win. -/
  pinned : ∀ (base : Settings) (service : String),
    (base.merge l).pins.get? service = (s.pins.get? service).or (base.pins.get? service)
  /-- Over the defaults, the settings are as they were. -/
  overDefaults : ({} : Settings).merge l = s

/-- Whatever changes have made settings of the defaults, the text that is written for them is a
layer that restores them over any base. -/
theorem dumped_restored (changes : List Change) :
    Restored (Change.made changes) (Change.made changes).asLayer := by
  have hwritten := Change.written_made changes
  refine ⟨read?_dumped _, hwritten.merge_asLayer, fun base service => ?_, ?_⟩
  · rw [hwritten.merge_asLayer base]
    exact Dict.get?_extend ..
  · have hpins : ({} : Settings).pins.extend (Change.made changes).pins = _ :=
      Dict.ofList_entries (Change.made changes).pins
    rw [hwritten.merge_asLayer, hpins]

end Settings

end ServiceRegistry
