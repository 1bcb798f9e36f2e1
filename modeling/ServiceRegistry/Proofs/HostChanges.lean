import Mathlib.Data.List.Nodup
import ServiceRegistry.Host

/-!
# Changes of a host's list

A host changes its list in three announced ways: it installs a module, moves one to another state,
or takes one off the list. `Host.Changes` puts them together with the events that announce them.
Besides, `Host.replace` puts another object in a module's place, whatever the module's state.

What matters to followers of a host is which module objects are available, that is, in a state in
which their types can be used. `Changes.available?` says that the kind of the event tells all about
it: an arrival makes the event's module available, a departure makes the module unavailable, and
every other event leaves all modules as they are.
-/

namespace ServiceRegistry.Host

variable {h h' : Host} {id x : ModuleId} {m : Module} {e : Hosted}

/-- The module object of a number, if its types can be used. -/
def available? (h : Host) (id : ModuleId) : Option Module :=
  (h.hosted? id).bind fun e => if e.state.isResolved then some e.module else none

/-- No two modules of the list have one number. -/
def Distinct (h : Host) : Prop := (h.modules.map (·.module.id)).Nodup

/-- The entry that is found for a number is of that number. -/
theorem id_of_hosted? (he : h.hosted? id = some e) : e.module.id = id := by
  simpa using List.find?_some he

/-- In a list without repeated numbers, a module's entry is found by its number. -/
theorem Distinct.hosted?_of_mem (hd : h.Distinct) (he : e ∈ h.modules) :
    h.hosted? e.module.id = some e := by
  unfold Distinct at hd
  unfold hosted?
  generalize h.modules = l at hd he ⊢
  induction l with
  | nil => exact absurd he List.not_mem_nil
  | cons d rest ih =>
    rw [List.map_cons, List.nodup_cons] at hd
    rcases List.mem_cons.1 he with rfl | he
    · simp
    · have hne : d.module.id ≠ e.module.id := fun hc =>
        hd.1 (hc ▸ List.mem_map_of_mem he)
      rw [List.find?_cons_of_neg (by simpa using hne)]
      exact ih hd.2 he

/-- The entry that is found stands on the list. -/
theorem mem_of_hosted? (he : h.hosted? id = some e) : e ∈ h.modules := List.mem_of_find?_eq_some he

/-! ## Changing one entry -/

section ChangeFirst

variable {f : Hosted → Hosted} (hf : ∀ e, e.module.id = id → (f e).module.id = id)
include hf

/-- To change the first entry of a number is seen by that number only. -/
theorem find?_changeFirst (l : List Hosted) (x : ModuleId) :
    (changeFirst id f l).find? (·.module.id = x) =
      if x = id then (l.find? (·.module.id = id)).map f else l.find? (·.module.id = x) := by
  induction l with
  | nil => simp [changeFirst]
  | cons e rest ih =>
    unfold changeFirst
    by_cases he : e.module.id = id
    · have hfe := hf e he
      by_cases hx : x = id
      · subst hx
        simp [he, hfe]
      · simp [he, hfe, hx, Ne.symm hx]
    · by_cases hx : x = id
      · subst hx
        simp [he, ih]
      · by_cases hex : e.module.id = x <;> simp [he, hx, hex, ih]

/-- A change of an entry that keeps its number keeps all numbers. -/
theorem map_id_changeFirst (l : List Hosted) :
    (changeFirst id f l).map (·.module.id) = l.map (·.module.id) := by
  induction l with
  | nil => rfl
  | cons e rest ih =>
    unfold changeFirst
    split
    · rename_i he
      rw [List.map_cons, List.map_cons, hf e he, he]
    · rw [List.map_cons, List.map_cons, ih]

/-- A change of an entry is found under its number only. -/
theorem hosted?_change : (h.change id f).hosted? x =
    if x = id then (h.hosted? id).map f else h.hosted? x :=
  find?_changeFirst hf h.modules x

/-- A change of an entry that keeps its number keeps the numbers distinct. -/
theorem Distinct.change (hd : h.Distinct) : (h.change id f).Distinct := by
  unfold Distinct
  rw [Host.change, map_id_changeFirst hf]
  exact hd

end ChangeFirst

/-- What stands on a list with one entry changed stood there or is the change of what did. -/
theorem mem_changeFirst {f : Hosted → Hosted} {l : List Hosted} (he : e ∈ changeFirst id f l) :
    e ∈ l ∨ ∃ d ∈ l, e = f d := by
  induction l with
  | nil => exact absurd he List.not_mem_nil
  | cons d rest ih =>
    unfold changeFirst at he
    split at he
    · rcases List.mem_cons.1 he with rfl | he
      · exact .inr ⟨d, List.mem_cons_self, rfl⟩
      · exact .inl (List.mem_cons_of_mem d he)
    · rcases List.mem_cons.1 he with rfl | he
      · exact .inl List.mem_cons_self
      · rcases ih he with he | ⟨d', hd', rfl⟩
        · exact .inl (List.mem_cons_of_mem d he)
        · exact .inr ⟨d', List.mem_cons_of_mem d hd', rfl⟩

/-! ## Announced changes -/

/-- An event of a kind announces that a module moves from a state to a state. -/
inductive Moves : EventKind → ModuleState → ModuleState → Prop where
  | resolve : Moves .resolved .installed .resolved
  | start : Moves .started .resolved .active
  | stop : Moves .stopped .active .resolved
  | unresolve {s : ModuleState} (hs : s.isResolved = true) : Moves .unresolved s .installed

/-- An event announces that a host changes as it does. -/
inductive Changes (h : Host) : Event → Host → Prop where
  | install {m : Module} {h' : Host} (hm : h.install m = .ok h') : Changes h ⟨.installed, m⟩ h'
  | move {m : Module} {kind : EventKind} {s s' : ModuleState}
      (hm : h.hosted? m.id = some ⟨m, s⟩) (hs : Moves kind s s') :
      Changes h ⟨kind, m⟩ (h.change m.id fun e => { e with state := s' })
  | remove {m : Module} {h' : Host} (hm : h.remove m.id = .ok (m, h')) :
      Changes h ⟨.uninstalled, m⟩ h'

/-- A host accepts a module of a new number, at the end of the list. -/
theorem install_eq_ok (hm : h.install m = .ok h') :
    h.hosted? m.id = none ∧ h'.bus = h.bus ∧ h'.modules = h.modules ++ [⟨m, .installed⟩] := by
  unfold install at hm
  split at hm
  · cases hm
  · rename_i hnone
    cases hm
    exact ⟨by simpa using hnone, rfl, rfl⟩

/-- A host removes the module of a number that is listed, and gives back its object. -/
theorem remove_eq_ok (hm : h.remove id = .ok (m, h')) :
    (∃ s, h.hosted? id = some ⟨m, s⟩) ∧ h'.bus = h.bus ∧
      h'.modules = h.modules.eraseP (·.module.id = id) := by
  unfold remove at hm
  cases he : h.hosted? id with
  | none =>
    rw [he] at hm
    cases hm
  | some e =>
    rw [he] at hm
    cases hm
    exact ⟨⟨e.state, rfl⟩, rfl, rfl⟩

/-- A host replaces the object of the first entry of its number. -/
theorem replace_eq_ok (hm : h.replace m = .ok h') :
    h' = h.change m.id fun e => { e with module := m } := by
  unfold replace at hm
  split at hm
  · cases hm
    rfl
  · cases hm

/-- An accepted module is found under its number, as installed. -/
theorem hosted?_install (hm : h.install m = .ok h') (x : ModuleId) :
    h'.hosted? x = if x = m.id then some ⟨m, .installed⟩ else h.hosted? x := by
  obtain ⟨hnone, -, hmod⟩ := install_eq_ok hm
  unfold hosted? at hnone ⊢
  rw [hmod, List.find?_append]
  by_cases hx : x = m.id
  · subst hx
    rw [hnone]
    simp
  · rw [if_neg hx, List.find?_cons_of_neg (by simpa using Ne.symm hx)]
    simp

/-- A removed module is no longer found, if its number stood on the list once. -/
theorem hosted?_remove (hd : h.Distinct) (hm : h.remove id = .ok (m, h')) (x : ModuleId) :
    h'.hosted? x = if x = id then none else h.hosted? x := by
  obtain ⟨-, -, hmod⟩ := remove_eq_ok hm
  unfold Distinct at hd
  unfold hosted?
  rw [hmod]
  clear hm hmod
  generalize h.modules = l at hd ⊢
  induction l with
  | nil => simp
  | cons e rest ih =>
    rw [List.map_cons, List.nodup_cons] at hd
    by_cases he : e.module.id = id
    · rw [List.eraseP_cons_of_pos (by simpa using he)]
      by_cases hx : x = id
      · rw [if_pos hx, List.find?_eq_none]
        intro d hd' hdx
        exact hd.1 (he.trans (hx.symm.trans (of_decide_eq_true hdx).symm) ▸
          List.mem_map_of_mem hd')
      · rw [if_neg hx, List.find?_cons_of_neg (by simpa [he] using Ne.symm hx)]
    · rw [List.eraseP_cons_of_neg (by simpa using he)]
      by_cases hex : e.module.id = x
      · rw [List.find?_cons_of_pos (by simpa using hex), if_neg (hex ▸ he),
          List.find?_cons_of_pos (by simpa using hex)]
      · rw [List.find?_cons_of_neg (by simpa using hex), ih hd.2,
          List.find?_cons_of_neg (by simpa using hex)]

/-- What is available of a module is told by its entry. -/
theorem available?_eq_of_hosted? (hx : h'.hosted? x = h.hosted? x) :
    h'.available? x = h.available? x := by
  rw [available?, available?, hx]

/-- The kind of the event tells which modules a change makes available. -/
theorem Changes.available? {e : Event} (hc : h.Changes e h') (hd : h.Distinct) (x : ModuleId) :
    h'.available? x =
      if x = e.module.id ∧ e.kind.isArrival = true then some e.module
      else if x = e.module.id ∧ e.kind.isDeparture = true then none
      else h.available? x := by
  cases hc with
  | @install m h' hm =>
    rw [if_neg (by simp [EventKind.isArrival]), if_neg (by simp [EventKind.isDeparture])]
    by_cases hx : x = m.id
    · subst hx
      rw [Host.available?, Host.available?, hosted?_install hm, if_pos rfl, (install_eq_ok hm).1]
      rfl
    · exact available?_eq_of_hosted? (by rw [hosted?_install hm, if_neg hx])
  | @move m kind s s' hm hs =>
    have hmove : (h.change m.id fun e => { e with state := s' }).hosted? x =
        if x = m.id then (h.hosted? m.id).map fun e => { e with state := s' }
        else h.hosted? x :=
      hosted?_change fun e he => he
    by_cases hx : x = m.id
    · subst hx
      rw [if_pos rfl, hm] at hmove
      rw [Host.available?, hmove, Host.available?, hm]
      cases hs <;> simp [EventKind.isArrival, EventKind.isDeparture, ModuleState.isResolved]
    · rw [if_neg hx] at hmove
      rw [if_neg (fun h => hx h.1), if_neg (fun h => hx h.1)]
      exact available?_eq_of_hosted? hmove
  | @remove m h' hm =>
    have hremove := hosted?_remove hd hm x
    by_cases hx : x = m.id
    · rw [if_pos hx] at hremove
      rw [Host.available?, hremove]
      simp [hx, EventKind.isArrival, EventKind.isDeparture]
    · rw [if_neg hx] at hremove
      rw [if_neg (fun h => hx h.1), if_neg (fun h => hx h.1)]
      exact available?_eq_of_hosted? hremove

/-- Announced changes keep the numbers of a list distinct. -/
theorem Changes.distinct {e : Event} (hc : h.Changes e h') (hd : h.Distinct) : h'.Distinct := by
  cases hc with
  | install hm =>
    obtain ⟨hnone, -, hmod⟩ := install_eq_ok hm
    unfold Distinct
    rw [hmod, List.map_append]
    refine List.nodup_append'.2 ⟨hd, List.nodup_singleton _, ?_⟩
    rw [List.map_singleton, List.disjoint_singleton]
    intro hmem
    obtain ⟨d, hd', hid⟩ := List.mem_map.1 hmem
    have := List.find?_eq_none.1 hnone d hd'
    exact this (by simpa using hid)
  | move hm hs => exact hd.change fun e he => he
  | remove hm =>
    unfold Distinct
    rw [(remove_eq_ok hm).2.2]
    exact hd.sublist (List.eraseP_sublist.map _)

/-- Announced changes do not touch the bus. -/
theorem Changes.bus {e : Event} (hc : h.Changes e h') : h'.bus = h.bus := by
  cases hc with
  | install hm => exact (install_eq_ok hm).2.1
  | move hm hs => rfl
  | remove hm => exact (remove_eq_ok hm).2.1

/-- An event is of a module on the list, unless it announces an installation. -/
theorem Changes.module_mem {e : Event} (hc : h.Changes e h') :
    e.kind = .installed ∨ ∃ d ∈ h.modules, d.module = e.module := by
  cases hc with
  | install hm => exact .inl rfl
  | move hm hs => exact .inr ⟨_, mem_of_hosted? hm, rfl⟩
  | remove hm =>
    obtain ⟨⟨s, he⟩, -⟩ := remove_eq_ok hm
    exact .inr ⟨_, mem_of_hosted? he, rfl⟩

/-- Only an installation brings a module object onto the list, the event's. -/
theorem Changes.mem_modules {d : Hosted} {ev : Event} (hc : h.Changes ev h')
    (hd : d ∈ h'.modules) :
    (∃ d' ∈ h.modules, d'.module = d.module) ∨ ev.kind = .installed ∧ d.module = ev.module := by
  cases hc with
  | install hm =>
    rw [(install_eq_ok hm).2.2] at hd
    rcases List.mem_append.1 hd with hd | hd
    · exact .inl ⟨d, hd, rfl⟩
    · exact .inr ⟨rfl, by rw [List.mem_singleton.1 hd]⟩
  | move hm hs =>
    rcases mem_changeFirst hd with hd | ⟨d', hd', rfl⟩
    · exact .inl ⟨d, hd, rfl⟩
    · exact .inl ⟨d', hd', rfl⟩
  | remove hm =>
    rw [(remove_eq_ok hm).2.2] at hd
    exact .inl ⟨d, List.mem_of_mem_eraseP hd, rfl⟩

/-- Replacing puts another object in an available module's place. -/
theorem available?_replace (hm : h.replace m = .ok h') (x : ModuleId) :
    h'.available? x =
      if x = m.id then (h.available? m.id).map fun _ => m else h.available? x := by
  have hreplace : h'.hosted? x =
      if x = m.id then (h.hosted? m.id).map fun e => { e with module := m }
      else h.hosted? x := by
    rw [replace_eq_ok hm]
    exact hosted?_change fun e _ => rfl
  by_cases hx : x = m.id
  · subst hx
    rw [if_pos rfl] at hreplace ⊢
    rw [available?, hreplace, available?]
    cases h.hosted? m.id with
    | none => rfl
    | some e => by_cases he : e.state.isResolved <;> simp [he]
  · rw [if_neg hx] at hreplace ⊢
    exact available?_eq_of_hosted? hreplace

/-- A replacement keeps the numbers of a list distinct. -/
theorem Distinct.replace (hd : h.Distinct) (hm : h.replace m = .ok h') : h'.Distinct := by
  rw [replace_eq_ok hm]
  exact hd.change fun e _ => rfl

/-- A replacement does not touch the bus. -/
theorem bus_replace (hm : h.replace m = .ok h') : h'.bus = h.bus := by
  rw [replace_eq_ok hm]
  rfl

/-! ## The rules of the operations -/

/-- To resolve moves a module from installed to resolved. -/
theorem moves_resolveRule {s s' : ModuleState} (hr : resolveRule id s = .ok (some s')) :
    Moves .resolved s s' := by
  cases s <;> simp [resolveRule, ModuleState.isResolved] at hr
  exact hr ▸ .resolve

/-- To start moves a module from resolved to active. -/
theorem moves_startRule {s s' : ModuleState} (hr : startRule id s = .ok (some s')) :
    Moves .started s s' := by
  cases s <;> simp [startRule] at hr
  exact hr ▸ .start

/-- To stop moves a module from active back to resolved. -/
theorem moves_stopRule {s s' : ModuleState} (hr : stopRule id s = .ok (some s')) :
    Moves .stopped s s' := by
  cases s <;> simp [stopRule] at hr
  exact hr ▸ .stop

/-- To unresolve moves a module back to installed, if it is resolved or active. -/
theorem moves_unresolveRule {s s' : ModuleState} (hr : unresolveRule s = .ok (some s')) :
    Moves .unresolved s s' := by
  unfold unresolveRule at hr
  split at hr
  · rename_i hs
    cases hr
    exact .unresolve hs
  · cases hr

/-- A change of state by a rule is announced by the rule's event. -/
theorem changes_transition {rule : ModuleState → Except HostError (Option ModuleState)}
    {kind : EventKind} (hrule : ∀ s s', rule s = .ok (some s') → Moves kind s s')
    (ht : h.transition id rule = .ok (some m, h')) : m.id = id ∧ h.Changes ⟨kind, m⟩ h' := by
  unfold transition at ht
  cases he : h.hosted? id with
  | none =>
    rw [he] at ht
    cases ht
  | some e =>
    rw [he] at ht
    have hid := id_of_hosted? he
    dsimp only at ht
    split at ht
    · cases ht
    · cases ht
    · rename_i s hs
      cases ht
      refine ⟨hid, ?_⟩
      have hmove : h.hosted? e.module.id = some ⟨e.module, e.state⟩ := hid ▸ he
      exact hid ▸ .move hmove (hrule e.state s hs)

/-- A change of state happens if the rule says so. -/
theorem transition_of_rule {rule : ModuleState → Except HostError (Option ModuleState)}
    {s' : ModuleState} (he : h.hosted? id = some e) (hs : rule e.state = .ok (some s')) :
    h.transition id rule = .ok (some e.module, h.change id fun e => { e with state := s' }) := by
  unfold transition
  rw [he]
  simp only [hs]

/-- A change of state that the rule does not ask for leaves the host as it is. -/
theorem eq_of_transition {rule : ModuleState → Except HostError (Option ModuleState)}
    (ht : h.transition id rule = .ok (none, h')) : h' = h := by
  unfold transition at ht
  split at ht
  · cases ht
  · split at ht <;> cases ht
    rfl

/-- A change of state brings no module object onto the list. -/
theorem module_of_transition {rule : ModuleState → Except HostError (Option ModuleState)}
    {changed : Option Module} (ht : h.transition id rule = .ok (changed, h')) :
    h'.bus = h.bus ∧ (∀ m ∈ changed, ∃ d ∈ h.modules, d.module = m) ∧
      ∀ e ∈ h'.modules, ∃ d ∈ h.modules, d.module = e.module := by
  unfold transition at ht
  split at ht
  · cases ht
  · rename_i d hd
    split at ht
    · cases ht
    · cases ht
      exact ⟨rfl, nofun, fun e he => ⟨e, he, rfl⟩⟩
    · cases ht
      refine ⟨rfl, fun m hm => ?_, fun e he => ?_⟩
      · cases hm
        exact ⟨d, mem_of_hosted? hd, rfl⟩
      · rcases mem_changeFirst he with he | ⟨c, hc, rfl⟩
        · exact ⟨e, he, rfl⟩
        · exact ⟨c, hc, rfl⟩

end ServiceRegistry.Host
