import Mathlib.Data.List.TakeWhile
import ServiceRegistry.Proofs.BuiltListings
import ServiceRegistry.Proofs.Locations
import ServiceRegistry.Proofs.OwnDescriptors

/-!
# What a finder takes for a descriptor

A scan of a module in memory contributes the entries directly in the descriptor folder by their
names. A finder makes a location of the folder and the service, and looks whether the listing shows
it, whatever kind of entry it is. For a service whose name has no slash both come to the same
(`World.finds_of_build`): what the finder finds is what the scan contributes.

A scan contributes nothing for a name with slashes, but a finder finds some of them
(`World.Strays`). An entry that is stored with a slash at its end is listed like a subfolder and can
be opened all the same; and in the folder without a name, slashes in front of a service do not
count.

The catalog is empty here and the service is not pinned, so that a finder has no other way.
-/

namespace ServiceRegistry

variable {folder path : List Char} {m : InMemory} {service : String} {t : LoadedType}

/-! ## What can be opened -/

/-- The path of an entry is the one it was made from, without slashes in front. -/
theorem Location.ownPath_ofEntry_dropLeading (id : ModuleId) (path : List Char) :
    (ofEntry id path).ownPath id = .ok (Slashes.dropLeading path) := by
  simp [ownPath, pathIn?, split?_ofEntry]

/-- A base name has no slash. -/
theorem Location.slash_not_mem_baseName (l : Location) : '/' ∉ l.baseName.toList := by
  rw [baseName, String.toList_ofList, Slashes.afterLast, List.mem_reverse]
  intro hslash
  simpa using List.mem_takeWhile_imp hslash

/-- What a module in memory opens is stored under the path without slashes in front. -/
theorem InMemory.exists_of_openEntry {stream : Stream}
    (h : m.openEntry (.ofEntry m.id path) = .ok stream) :
    ∃ content, m.entries.get? (String.ofList (Slashes.dropLeading path)) = some content := by
  cases hget : m.entries.get? (String.ofList (Slashes.dropLeading path)) with
  | none =>
    simp only [openEntry, Location.ownPath_ofEntry_dropLeading, bind, Except.bind, hget] at h
    cases h
  | some content => exact ⟨content, rfl⟩

/-- A type is fetched from a descriptor that can be opened. -/
theorem Provider.exists_of_fetch {p : Provider} {v : ModuleView} (h : p.fetch v = .ok t) :
    ∃ stream, v.openEntry p.location = .ok stream := by
  cases hopen : v.openEntry p.location with
  | ok stream => exact ⟨stream, rfl⟩
  | error fault =>
    simp [fetch, readName, firstName, hopen, bind, Except.bind] at h

/-! ## What is listed -/

namespace InMemory

/-- A path can be listed in a folder: it is that of an entry directly in the folder, with or without
a slash behind it. -/
def Listable (folder path : List Char) : Prop :=
  ∃ name, name ≠ [] ∧ '/' ∉ name ∧ (path = folder ++ name ∨ path = folder ++ name ++ ['/'])

/-- A path that can be listed in a folder is listed as it is. -/
theorem Listable.child? (h : Listable folder path) : child? folder path = some path := by
  obtain ⟨name, hne, hslash, rfl | rfl⟩ := h
  · simp [child?, Text.splitFirst_eq_none_iff.2 hslash, hne]
  · have hcut : Text.splitFirst '/' (name ++ ['/']) = some (name, []) :=
      Text.splitFirst_eq_some_iff.2 ⟨rfl, hslash⟩
    simp [child?, hcut, hne]

/-- What is listed as it is can be listed. -/
theorem listable_of_child? {key : List Char} (h : child? folder key = some path) :
    Listable folder path := by
  obtain ⟨sub, hne, hslash, ⟨-, hself⟩ | hsub⟩ := child?_eq_some h
  · exact ⟨sub, hne, hslash, .inl hself⟩
  · exact ⟨sub, hne, hslash, .inr hsub⟩

/-- What is listed in a folder does not start with a slash. -/
theorem Listable.dropLeading (h : Listable folder path) (hf : Slashes.Folder folder) :
    Slashes.dropLeading path = path := by
  obtain ⟨name, hne, hslash, rfl | rfl⟩ := h
  · exact dropLeading_append hf hslash
  · refine Slashes.dropLeading_eq_self fun hhead => hf.head?_append hslash ?_
    rwa [List.head?_append_of_ne_nil _ (by simp [hne])] at hhead

/-- A path that can be opened is listed just if it names an entry of the folder. -/
theorem mem_list_iff_listable (hf : Slashes.Folder folder) {content : Bytes}
    (hget : m.entries.get? (String.ofList (Slashes.dropLeading path)) = some content) :
    .ofEntry m.id path ∈ m.list folder ↔ Listable folder (Slashes.dropLeading path) := by
  rw [mem_list, Slashes.asFolder_of_folder hf]
  constructor
  · rintro ⟨key, child, -, hchild, heq⟩
    have hpath := listable_of_child? hchild
    rwa [(Location.ofEntry_inj.1 heq).2, hpath.dropLeading hf]
  · intro hpath
    refine ⟨_, Slashes.dropLeading path, Dict.mem_keys_iff.2 ⟨content, hget⟩, ?_, ?_⟩
    · exact (congrArg (child? folder) (String.toList_ofList)).trans hpath.child?
    · exact Location.ofEntry_inj.2 ⟨rfl, (hpath.dropLeading hf).symm⟩

/-- For a name without slashes, the path of an entry is listed just if the entry is the descriptor
of that name. -/
theorem isSome_descriptor?_iff (hf : Slashes.Folder folder) (hslash : '/' ∉ service.toList)
    {content : Bytes} (hget : m.entries.get?
      (String.ofList (Slashes.dropLeading (folder ++ service.toList))) = some content) :
    (m.descriptor? folder service).isSome = true ↔
      Listable folder (Slashes.dropLeading (folder ++ service.toList)) := by
  rw [dropLeading_append hf hslash] at hget ⊢
  unfold descriptor?
  rw [Slashes.asFolder_of_folder hf]
  dsimp only
  constructor
  · intro h
    split at h
    · rename_i hentry
      exact ⟨service.toList, hentry.1, hslash, .inl rfl⟩
    · cases h
  · rintro ⟨name, hne, -, heq | heq⟩
    · have hservice : service.toList ≠ [] := List.append_cancel_left heq ▸ hne
      rw [if_pos ⟨hservice, hslash, Option.isSome_iff_exists.2 ⟨content, hget⟩⟩]
      rfl
    · rw [List.append_assoc, List.append_cancel_left_eq] at heq
      exact absurd (heq ▸ List.mem_append_right name List.mem_cons_self) hslash

end InMemory

namespace World

open Interruptible

variable {w : World} {f : Finder} {rule : ScanRule} {context : Module} {n : Nat}

/-! ## Both ways to a descriptor -/

/-- A finder takes an entry for the descriptor of a service although the service's name has slashes:
its path is listed, with or without a slash behind it, once the slashes in front are dropped. -/
structure Strays (f : Finder) (v : ModuleView) (service : String) (t : LoadedType) : Prop where
  slash : '/' ∈ service.toList
  listed : InMemory.Listable f.folder.toList
    (Slashes.dropLeading (f.folder.toList ++ service.toList))
  fetched : (f.ownProvider service 0).fetch v = .ok t

/-- A module in memory has something for a finder if it has a descriptor of the service, or if the
finder strays. -/
theorem own?_eq_some_iff (hview : w.stock.view f.context = m.view) (hid : f.context.id = m.id)
    (hf : Slashes.Folder f.folder.toList) : own? f service w = some t ↔
      ((m.descriptor? f.folder.toList service).isSome = true ∧
        (f.ownProvider service 0).fetch m.view = .ok t) ∨ Strays f m.view service t := by
  have hown : ownDescriptor f service = .ofEntry m.id (f.folder.toList ++ service.toList) := by
    rw [ownDescriptor, hid]
  have hiff : own? f service w = some t ↔ ownDescriptor f service ∈ m.list f.folder.toList ∧
      (f.ownProvider service 0).fetch m.view = .ok t := by
    have hlist : m.view.list f.folder.toList = .ok (m.list f.folder.toList) := rfl
    rw [own?, hview, hlist]
    dsimp only
    cases (f.ownProvider service 0).fetch m.view <;> split <;> simp_all [Except.toOption]
  -- What is fetched is stored, so that being listed comes down to the path.
  have hstored (hfetch : (f.ownProvider service 0).fetch m.view = .ok t) :
      ∃ content, m.entries.get? (String.ofList
        (Slashes.dropLeading (f.folder.toList ++ service.toList))) = some content := by
    obtain ⟨stream, hopen⟩ := Provider.exists_of_fetch hfetch
    exact InMemory.exists_of_openEntry ((congrArg m.openEntry hown).symm.trans hopen)
  rw [hiff, hown]
  by_cases hslash : '/' ∈ service.toList
  · have hnone : (m.descriptor? f.folder.toList service).isSome = false := by
      simp [InMemory.descriptor?, hslash]
    rw [hnone]
    constructor
    · rintro ⟨hlisted, hfetch⟩
      obtain ⟨content, hget⟩ := hstored hfetch
      exact .inr ⟨hslash, (InMemory.mem_list_iff_listable hf hget).1 hlisted, hfetch⟩
    · rintro (⟨hfalse, -⟩ | ⟨-, hpath, hfetch⟩)
      · cases hfalse
      · obtain ⟨content, hget⟩ := hstored hfetch
        exact ⟨(InMemory.mem_list_iff_listable hf hget).2 hpath, hfetch⟩
  · have hnot : ¬Strays f m.view service t := fun h => hslash h.slash
    rw [or_iff_left hnot]
    refine and_congr_left fun hfetch => ?_
    obtain ⟨content, hget⟩ := hstored hfetch
    rw [InMemory.mem_list_iff_listable hf hget, InMemory.isSome_descriptor?_iff hf hslash hget]

/-- Scanning a module puts one question to it, and numbers the providers of what it lists. -/
theorem calm_scan (rule : ScanRule) (context : Module) (w : World) :
    ((scan rule context).calm w).1 = rule.contribution context w.nextSerial
      ((w.stock.view context).list rule.folder.toList) ∧
    ((scan rule context).calm w).2.stock = (w.stock.list context rule.folder).2 :=
  ⟨rfl, rfl⟩

/-- What a scan contributes for a service is at the place of the module's descriptor of it. -/
theorem exists_scanned_iff (hview : w.stock.view context = m.view)
    (hfresh : ∀ k, w.nextSerial ≤ k → w.stock.memos.get k = none) (rule : ScanRule) {own : Provider}
    (hown : ∀ l, m.descriptor? rule.folder.toList service = some l → own.location = l) :
    (∃ p ∈ ((scan rule context).calm w).1.providers, p.service = service ∧
      (((scan rule context).calm w).2.stock.resolve p).1 = .ok t) ↔
    (m.descriptor? rule.folder.toList service).isSome = true ∧ own.fetch m.view = .ok t := by
  obtain ⟨hcontribution, hstock⟩ := calm_scan rule context w
  have hlist : (w.stock.view context).list rule.folder.toList =
      .ok (m.list rule.folder.toList) := by
    rw [hview]
    rfl
  rw [hcontribution, hstock, hlist]
  have hresolve : ∀ p ∈ (rule.contribution context w.nextSerial
      (.ok (m.list rule.folder.toList))).providers,
      ((w.stock.list context rule.folder).2.resolve p).1 = p.fetch m.view := by
    intro p hp
    obtain ⟨hmodule, -, -, hserial, -⟩ := ScanRule.of_mem_contribution hp
    have hmemo : (w.stock.list context rule.folder).2.memo p = none := hfresh p.serial hserial
    rw [Stock.fst_resolve, Stock.outcome, hmemo, Option.getD_none, Stock.view_list, hmodule, hview]
  constructor
  · rintro ⟨p, hp, rfl, hok⟩
    obtain ⟨-, hservice, hshown, -⟩ := ScanRule.of_mem_contribution hp
    have hdescriptor := InMemory.mem_shown_list.1 ⟨hshown, hservice.symm⟩
    rw [hresolve p hp] at hok
    rw [hdescriptor, Provider.fetch_congr (hown _ hdescriptor)]
    exact ⟨rfl, hok⟩
  · rintro ⟨hsome, hfetch⟩
    obtain ⟨l, hdescriptor⟩ := Option.isSome_iff_exists.1 hsome
    obtain ⟨hshown, hservice⟩ := InMemory.mem_shown_list.2 hdescriptor
    rw [← ScanRule.locations_contribution rule context w.nextSerial] at hshown
    obtain ⟨p, hp, hl⟩ := List.mem_map.1 hshown
    refine ⟨p, hp, ?_, ?_⟩
    · rw [(ScanRule.of_mem_contribution hp).2.1, hl, hservice]
    · rw [hresolve p hp, Provider.fetch_congr (hl.trans (hown l hdescriptor).symm), hfetch]

/-- A finder whose catalog is empty and pins nothing has only the module's own descriptor. -/
theorem fst_calm_find_of_empty (htable : (w.catalog f.catalog).table = .empty)
    (hpin : (w.catalog f.catalog).pins.lookup w.environment service = none)
    (hfresh : ∀ k, w.nextSerial ≤ k → w.stock.memos.get k = none) :
    ((find f service none).calm w).1 = match own? f service w with
      | some t => .ok t
      | none => .error (.notFound ("Provider for " ++ service ++ " cannot be found")) := by
  have hcandidates (service : String) : (w.catalog f.catalog).table.candidates service = [] := by
    rw [htable]
    rfl
  have hnumbered : w.Numbered f.catalog := by
    refine ⟨fun service => ?_, fun service => ?_, hfresh⟩
    · rw [hcandidates]
      exact nofun
    · rw [hcandidates]
      exact nofun
  have hlocated : located? f service w = none := by
    rw [located?, hcandidates]
    rfl
  have hpinned : pinned? f service w = none := by
    rw [pinned?, hpin]
    rfl
  rw [fst_calm_find hnumbered, hlocated, hpinned, Option.none_or, Option.or_none]
  rfl

/-- What a finder answers on a module, set against what a scan of the module contributes. -/
structure Finds (f : Finder) (rule : ScanRule) (service : String) (w : World) : Prop where
  /-- A finder finds what a provider of the scan resolves to, and where it strays. -/
  found : ∀ t, ((find f service none).calm w).1 = .ok t ↔
    (∃ p ∈ ((scan rule f.context).calm w).1.providers, p.service = service ∧
      (((scan rule f.context).calm w).2.stock.resolve p).1 = .ok t) ∨
    Strays f (w.stock.view f.context) service t
  /-- For the services for which it strays, which have slashes, the scan contributes nothing. -/
  apart : ∀ p ∈ ((scan rule f.context).calm w).1.providers, '/' ∉ p.service.toList
  /-- Otherwise it answers that there is no provider. -/
  missed : (∀ t, ((find f service none).calm w).1 ≠ .ok t) → ((find f service none).calm w).1 =
    .error (.notFound ("Provider for " ++ service ++ " cannot be found"))

/-- However a module in memory was built and the folder is named, a finder whose catalog is empty
and pins nothing finds what a scan of the module contributes, but for the services for which it
strays. -/
theorem finds_of_build {steps : List InMemory.BuildStep}
    (hcontent : (w.stock.objects.get context.object).content = .inMemory (.build context.id steps))
    (htable : (w.catalog n).table = .empty)
    (hpin : (w.catalog n).pins.lookup w.environment service = none)
    (hfresh : ∀ k, w.nextSerial ≤ k → w.stock.memos.get k = none) (rule : ScanRule) :
    Finds (.make n context (some rule.folder)) rule service w := by
  let m := InMemory.build context.id steps
  let f := Finder.make n context (some rule.folder)
  have hview : w.stock.view context = m.view := by
    rw [Stock.view, hcontent]
    rfl
  have hid : context.id = m.id := (InMemory.id_build _ _).symm
  have hf : Slashes.Folder f.folder.toList := Finder.folder_make n context _
  have hfolder : f.folder.toList = Slashes.asFolder rule.folder.toList := String.toList_ofList
  have hdescriptor :
      m.descriptor? f.folder.toList service = m.descriptor? rule.folder.toList service := by
    rw [InMemory.descriptor?, InMemory.descriptor?, Slashes.asFolder_of_folder hf, hfolder]
  have hown (l : Location) (hl : m.descriptor? rule.folder.toList service = some l) :
      (f.ownProvider service 0).location = l := by
    unfold InMemory.descriptor? at hl
    dsimp only at hl
    split at hl
    · rw [← Option.some.inj hl, ← hfolder, ← hid]
      rfl
    · cases hl
  have hanswer : ((find f service none).calm w).1 = _ := fst_calm_find_of_empty htable hpin hfresh
  refine ⟨fun t => ?_, fun p hp => ?_, fun hnone => ?_⟩
  · have hsome : own? f service w = some t ↔
        ((m.descriptor? f.folder.toList service).isSome = true ∧
          (f.ownProvider service 0).fetch m.view = .ok t) ∨ Strays f m.view service t :=
      own?_eq_some_iff hview hid hf
    rw [hdescriptor, ← exists_scanned_iff hview hfresh rule hown] at hsome
    refine Iff.trans ?_ (hsome.trans (by rw [← hview]; rfl))
    rw [hanswer]
    cases own? f service w <;> simp
  · rw [(ScanRule.of_mem_contribution hp).2.1]
    exact p.location.slash_not_mem_baseName
  · rw [hanswer] at hnone ⊢
    cases hown? : own? f service w with
    | none => rfl
    | some t =>
      rw [hown?] at hnone
      exact absurd rfl (hnone t)

/-! A module has a descriptor, and beside it an entry whose path ends in a slash. -/

section Example

/-- A module is built with a descriptor, and an entry that ends in a slash beside it. -/
def straySteps : List InMemory.BuildStep :=
  [.service "Greeter" [72, 101, 108, 108, 111],
    .entry "META-INF/services/sub/" [72, 101, 108, 108, 111], .defines "Hello"]

/-- The object of the module. -/
def strayContext : Module := ⟨0, ⟨7⟩, "module-7"⟩

/-- A world with the module that was built. -/
def strayWorld : World where
  stock := { objects := ⟨[{ content := .inMemory (.build ⟨7⟩ straySteps) }]⟩ }
  catalogs := ⟨[{ pins := .fixed .empty }]⟩

/-- An entry that ends in a slash is found as the module's own descriptor, although the scan skips
it. -/
theorem finds_of_build_stray :
    (strayWorld.stock.objects.get strayContext.object).content =
      .inMemory (.build strayContext.id straySteps) ∧
    Finds (.make 0 strayContext (some defaultDescriptorFolder)) {} "sub/" strayWorld ∧
    ((find (.make 0 strayContext (some defaultDescriptorFolder)) "sub/" none).calm strayWorld).1 =
      .ok ⟨"Hello", ⟨7⟩⟩ ∧
    ((scan {} strayContext).calm strayWorld).1.services = ["Greeter"] := by
  have hcontent : (strayWorld.stock.objects.get strayContext.object).content =
      .inMemory (.build strayContext.id straySteps) := rfl
  exact ⟨hcontent, finds_of_build hcontent rfl rfl (fun _ _ => rfl) {}, by decide +kernel,
    by decide +kernel⟩

end Example

end World

end ServiceRegistry
