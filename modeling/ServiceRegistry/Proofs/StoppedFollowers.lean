import Mathlib.Logic.Relation
import ServiceRegistry.Proofs.Preference
import ServiceRegistry.World.Following

/-!
# Stopped followers

A follower that has stopped neither runs nor listens nor marks modules. What an operation does to
such a follower and to its table is compared before and after a stretch of the operation
(`Follower.Spares`): the follower stays stopped, and candidates can only be lost, unless the
operation is one that takes up modules regardless of whether the follower runs.
-/

namespace ServiceRegistry

/-- Removing several contributions leaves the other candidates in their order. -/
theorem Table.candidates_foldl_unregisterAll {t : Table} {cs : List Contribution}
    {service : String} : (cs.foldl Table.unregisterAll t).candidates service =
      (t.candidates service).filter fun q => cs.all fun c => !c.names service q.location := by
  induction cs generalizing t with
  | nil => simp
  | cons c rest ih =>
    rw [List.foldl_cons, ih, candidates_unregisterAll, List.filter_filter]
    apply List.filter_congr
    intro q _
    rw [List.all_cons, Bool.and_comm]

namespace Follower

/-- A follower that has stopped, and has not been started again. -/
structure Stopped (f : Follower) : Prop where
  running : f.running = false
  marks : f.marks = none
  subscription : f.subscription = none

/-- What becomes of a follower and its table in a stretch of work; `takes` if the work may take up
modules although the follower has stopped. -/
structure Spares (takes : Prop) (f : Follower) (t : Table) (f' : Follower) (t' : Table) :
    Prop where
  catalog : f'.catalog = f.catalog
  stopped : f.Stopped → f'.Stopped
  /-- Candidates of a stopped follower can be lost, but none are added. -/
  fewer : ¬takes → f.Stopped → ∀ service, (t'.candidates service).Sublist (t.candidates service)
  /-- Where nothing is stored, nothing changes. -/
  bare : ¬takes → f.Stopped → f.groups = .empty → f'.groups = .empty ∧ t' = t

variable {takes takes' : Prop} {f f' f'' : Follower} {t t' t'' : Table} {c : Contribution}
  {id : ModuleId}

/-- What spares a follower spares it where more is allowed. -/
theorem Spares.mono (h : Spares takes f t f' t') (ht : takes → takes') :
    Spares takes' f t f' t' :=
  { h with fewer := fun hn => h.fewer (mt ht hn), bare := fun hn => h.bare (mt ht hn) }

/-- Stretches of work that spare a follower do so together. -/
theorem Spares.trans (h : Spares takes f t f' t') (h' : Spares takes f' t' f'' t'') :
    Spares takes f t f'' t'' where
  catalog := h'.catalog.trans h.catalog
  stopped hf := h'.stopped (h.stopped hf)
  fewer ht hf service := (h'.fewer ht (h.stopped hf) service).trans (h.fewer ht hf service)
  bare ht hf hbare := by
    obtain ⟨hgroups, rfl⟩ := h.bare ht hf hbare
    exact h'.bare ht (h.stopped hf) hgroups

/-- A change of a follower that concerns neither what it has stored nor its table. -/
theorem Spares.of_groups (hcatalog : f'.catalog = f.catalog) (hgroups : f'.groups = f.groups)
    (hstopped : f.Stopped → f'.Stopped) : Spares takes f t f' t where
  catalog := hcatalog
  stopped := hstopped
  fewer _ _ _ := .refl _
  bare _ _ hbare := ⟨hgroups.trans hbare, rfl⟩

/-- Marking a module does not start a stopped follower. -/
theorem Stopped.mark (hf : f.Stopped) (id : ModuleId) : (f.mark id).Stopped where
  running := hf.running
  marks := by rw [Follower.mark, hf.marks, Option.map_none]
  subscription := hf.subscription

/-- Only work that takes up modules regardless, or that of a running follower, takes up one. -/
theorem spares_adopt (h : f.Stopped → takes) :
    Spares takes f t (f.adopt t c).1 (f.adopt t c).2 where
  catalog := catalog_adopt f t c
  stopped hf := by
    rw [fst_adopt]
    exact { hf with }
  fewer ht hf := absurd (h hf) ht
  bare ht hf := absurd (h hf) ht

/-- An arrival spares a stopped follower only if modules may be taken up. -/
theorem spares_arrive (h : f.Stopped → takes) :
    Spares takes f t (f.arrive t c).1 (f.arrive t c).2 where
  catalog := catalog_arrive f t c
  stopped hf := by
    rw [fst_arrive]
    exact { hf.mark c.module with }
  fewer ht hf := absurd (h hf) ht
  bare ht hf := absurd (h hf) ht

/-- A departure spares a follower. -/
theorem spares_depart : Spares takes f t (f.depart t id).1 (f.depart t id).2 where
  catalog := catalog_depart f t id
  stopped hf := by
    rw [fst_depart]
    exact { hf.mark id with }
  fewer _ _ service := by
    rw [depart, snd_drop]
    cases (f.mark id).groups.get? id with
    | none => exact .refl _
    | some c =>
      dsimp only [Option.map_some, Option.getD_some]
      rw [Table.candidates_unregisterAll]
      exact List.filter_sublist
  bare _ _ hbare := by
    have hnone : (f.mark id).groups.get? id = none := by
      change f.groups.get? id = none
      rw [hbare, Dict.get?_empty]
    rw [depart, fst_drop, snd_drop, hnone]
    exact ⟨(Dict.erase_eq_self hnone).trans hbare, rfl⟩

/-- Stopping spares a follower that has stopped. -/
theorem spares_halt : Spares takes f t (f.halt t).1 (f.halt t).2 where
  catalog := rfl
  stopped hf := ⟨rfl, rfl, hf.subscription⟩
  fewer _ _ service := by
    rw [halt, Table.candidates_foldl_unregisterAll]
    exact List.filter_sublist
  bare _ _ hbare := by
    rw [halt, hbare]
    exact ⟨rfl, rfl⟩

end Follower

namespace World

/-- What becomes of a follower and its table in the world. -/
abbrev Spares (takes : Prop) (n : Nat) (w w' : World) : Prop :=
  Follower.Spares takes (w.follower n) (w.tableOf (w.follower n)) (w'.follower n)
    (w'.tableOf (w'.follower n))

variable {takes : Prop} {n k : Nat} {w w' : World} {f : Follower}

/-- What leaves the follower and its table spares it. -/
theorem Spares.of_eq (hfollower : w'.follower n = w.follower n)
    (htable : w'.tableOf (w.follower n) = w.tableOf (w.follower n)) : Spares takes n w w' := by
  unfold Spares
  rw [hfollower, htable]
  exact .of_groups rfl rfl id

/-- Doing nothing spares a follower. -/
theorem Spares.refl (w : World) : Spares takes n w w := .of_eq rfl rfl

/-- A change of a follower's flags spares it, unless it starts the follower. -/
theorem spares_setFollower (hcatalog : f.catalog = (w.follower k).catalog)
    (hgroups : f.groups = (w.follower k).groups)
    (hstopped : (w.follower k).Stopped → f.Stopped) : Spares takes n w (w.setFollower k f) := by
  unfold Spares tableOf
  rw [follower_setFollower]
  simp only [catalog_setFollower]
  split
  · rename_i hn
    subst hn
    rw [hcatalog]
    exact .of_groups hcatalog hgroups hstopped
  · exact .of_groups rfl rfl id

/-- A stretch of work is no more than its steps. -/
theorem Spares.of_steps (h : Relation.ReflTransGen (Spares takes n) w w') :
    Spares takes n w w' := by
  induction h with
  | refl => exact .refl w
  | tail _ hstep ih => exact ih.trans hstep

end World

end ServiceRegistry
