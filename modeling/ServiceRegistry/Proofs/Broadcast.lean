import Mathlib.Logic.Relation
import ServiceRegistry.Proofs.Runs
import ServiceRegistry.World.Delivery

/-!
# Listeners that use the bus

A listener that hears of an event can use the bus that delivers it: subscribe others, end
subscriptions, its own too, clear the history, look at what the bus remembers, and publish events,
which are delivered in full before the first event reaches the next listener. The chronicle of a bus
is the list of everything that was done with it, at whatever depth, and of what was answered
(`Deed`). A chronicle is `Faithful` if every answer in it is right after what was done before, and
if every event was delivered to exactly those whose subscription stood when it was published, in the
order of their ids.

Ids and counts are numbers without a bound here. They tell how many subscriptions were made and how
many events were published, so a bus that counts with 64 bits answers the same for the first 2 ^ 64
deeds (`Deed.Fits`).

While an event is on its way the chronicle of the bus is not complete. So a use of the bus `Leads`
on if the publications that began with it are finished, and nothing was delivered of those that were
on their way.
-/

namespace ServiceRegistry

open Relation (ReflTransGen)

/-- The number of a listener. -/
def Listener.number : Listener → Nat
  | .recorder n => n
  | .follower n => n

namespace Bus

/-- Something that was done with a bus, and what was answered. -/
inductive Deed where
  /-- A recorder was subscribed under an id. -/
  | subscribed (recorder : Nat) (id : ListenerId)
  /-- A subscription was ended, if there was one to be found. -/
  | unsubscribed (id : ListenerId) (found : Bool)
  | published (e : Event)
  /-- A delivery was made of the publication with a number, counted from zero. -/
  | delivered (publication : Nat) (signal : Signal)
  | cleared
  /-- It was asked how many events were published. -/
  | counted (count : Nat)
  /-- It was asked for the recent events. -/
  | recalled (limit : Option Nat) (events : List Event)
deriving DecidableEq

/-- The event that a deed publishes. -/
def Deed.event? : Deed → Option Event
  | .published e => some e
  | _ => none

/-- The delivery that a deed makes of a publication. -/
def Deed.delivery? (n : Nat) : Deed → Option Signal
  | .delivered k i => if k = n then some i else none
  | _ => none

/-! ## Chronicles

A chronicle begins with what was done last. -/

/-- The events that were published, newest first. -/
def events (c : List Deed) : List Event := c.filterMap Deed.event?

/-- The events that were published since the history was cleared, newest first. -/
def eventsSinceClear (c : List Deed) : List Event := events (c.takeWhile (· ≠ .cleared))

/-- Whether a deed is a subscription. -/
def Deed.isSubscription : Deed → Bool
  | .subscribed _ _ => true
  | _ => false

/-- How many subscriptions were made. -/
def subscriptions (c : List Deed) : Nat := c.countP Deed.isSubscription

/-- What was delivered of a publication, oldest first. -/
def deliveries (n : Nat) (c : List Deed) : List Signal :=
  (c.filterMap (Deed.delivery? n)).reverse

/-- A recorder was subscribed under an id, and the subscription has not been ended since. -/
def Stands (c : List Deed) (id : ListenerId) (recorder : Nat) : Prop :=
  ∃ after before, c = after ++ .subscribed recorder id :: before ∧
    ∀ found, .unsubscribed id found ∉ after

/-- What was answered is right after all that was done before. -/
def Deed.Due (size : Nat) (before : List Deed) : Deed → Prop
  | .subscribed _ id => id.number = subscriptions before ∧
    ∀ r earlier, .subscribed r earlier ∈ before → earlier.number < id.number
  | .unsubscribed id found => found = true ↔ ∃ r, Stands before id r
  | .delivered n _ => n < (events before).length
  | .counted n => n = (events before).length
  | .recalled none es => es = (eventsSinceClear before).take size
  | .recalled (some limit) es => es = ((eventsSinceClear before).take size).take limit
  | .published _ => True
  | .cleared => True

/-- The number that was answered, if any, can be told with 64 bits. -/
def Deed.Fits : Deed → Prop
  | .subscribed _ id => id.number < UInt64.size
  | .counted n => n < UInt64.size
  | _ => True

/-- Every answer was right. -/
def Accurate (size : Nat) (c : List Deed) : Prop :=
  ∀ after deed before, c = after ++ deed :: before → deed.Due size before

/-- What was delivered of an event is what those whose subscriptions stand are to hear, in the order
of their ids. -/
def Meant (c : List Deed) (e : Event) (signals : List Signal) : Prop :=
  ∃ standing : List (ListenerId × Nat), standing.Pairwise (·.1.number < ·.1.number) ∧
    (∀ id r, (id, r) ∈ standing ↔ Stands c id r) ∧
    signals = standing.map fun s => .heard s.2 e

/-- A chronicle tells of a bus that serves its listeners as it should. -/
structure Faithful (size : Nat) (c : List Deed) : Prop where
  accurate : Accurate size c
  /-- No subscription is ended twice. -/
  once : ∀ id, c.count (.unsubscribed id true) ≤ 1
  /-- Every event has been delivered to those who were listening when it was published. -/
  delivered : ∀ after e before, c = after ++ .published e :: before →
    Meant before e (deliveries (events before).length c)
  /-- Counters of 64 bits would not have wrapped in the first 2 ^ 64 deeds. -/
  fits : c.length ≤ UInt64.size → ∀ deed ∈ c, deed.Fits

variable {size n : Nat} {c c' : List Deed} {deed : Deed} {id : ListenerId} {r : Nat} {e : Event}

/-- The events of a chronicle are those of its parts. -/
theorem events_append : events (c ++ c') = events c ++ events c' := List.filterMap_append

/-- A deed that publishes nothing adds no event. -/
theorem events_cons (hd : deed.event? = none) : events (deed :: c) = events c :=
  List.filterMap_cons_none hd

/-- A publication adds its event, as the newest. -/
@[simp] theorem events_cons_published : events (.published e :: c) = e :: events c := rfl

/-- A deed that neither publishes nor clears leaves the events since the history was cleared. -/
theorem eventsSinceClear_cons (hd : deed.event? = none) (hc : deed ≠ .cleared) :
    eventsSinceClear (deed :: c) = eventsSinceClear c := by
  unfold eventsSinceClear
  rw [List.takeWhile_cons_of_pos (by simpa using hc), events_cons hd]

/-- The deliveries of a publication are those of both parts of a chronicle, the earlier part first.
-/
theorem deliveries_append :
    deliveries n (c ++ c') = deliveries n c' ++ deliveries n c := by
  simp [deliveries]

/-- A delivery is added at the end of those of its publication. -/
theorem deliveries_cons_delivered (i : Signal) :
    deliveries n (.delivered n i :: c) = deliveries n c ++ [i] := by
  simp [deliveries, Deed.delivery?]

/-- A chronicle without deliveries of a publication has none to show for it. -/
theorem deliveries_eq_nil (h : ∀ k i, .delivered k i ∈ c → k ≠ n) : deliveries n c = [] := by
  simp only [deliveries, List.reverse_eq_nil_iff, List.filterMap_eq_nil_iff]
  intro deed hmem
  cases deed with
  | delivered k i => exact if_neg (h k i hmem)
  | _ => rfl

/-- A subscription stands after one more deed if that has made it, or if it stood and has not been
ended. -/
theorem stands_cons : Stands (deed :: c) id r ↔
    deed = .subscribed r id ∨ (∀ found, deed ≠ .unsubscribed id found) ∧ Stands c id r := by
  constructor
  · rintro ⟨after, before, hsplit, hafter⟩
    cases after with
    | nil => exact .inl (List.cons.inj hsplit).1
    | cons first after =>
      obtain ⟨rfl, rfl⟩ := List.cons.inj hsplit
      refine .inr ⟨fun found hfound => ?_, after, before, rfl, fun found hmem => ?_⟩
      · exact hafter found (hfound ▸ List.mem_cons_self)
      · exact hafter found (List.mem_cons_of_mem _ hmem)
  · rintro (rfl | ⟨hne, after, before, rfl, hafter⟩)
    · exact ⟨[], c, rfl, fun _ => List.not_mem_nil⟩
    · refine ⟨deed :: after, before, rfl, fun found hmem => ?_⟩
      rcases List.mem_cons.1 hmem with heq | hmem
      · exact hne found heq.symm
      · exact hafter found hmem

/-- A subscription that stands was made. -/
theorem Stands.mem (hs : Stands c id r) : .subscribed r id ∈ c := by
  obtain ⟨after, before, rfl, -⟩ := hs
  exact List.mem_append_right _ List.mem_cons_self

/-- The empty chronicle is accurate. -/
theorem accurate_nil : Accurate size [] := by
  intro after deed before hsplit
  exact absurd hsplit.symm (by simp)

/-- A chronicle is accurate if its last answer is due after an accurate chronicle. -/
theorem accurate_cons : Accurate size (deed :: c) ↔ deed.Due size c ∧ Accurate size c := by
  constructor
  · intro h
    refine ⟨h [] deed c rfl, fun after d before hsplit => ?_⟩
    exact h (deed :: after) d before (by rw [hsplit]; rfl)
  · rintro ⟨hd, hc⟩ after d before hsplit
    cases after with
    | nil =>
      obtain ⟨rfl, rfl⟩ := List.cons.inj hsplit
      exact hd
    | cons first after => exact hc after d before (List.cons.inj hsplit).2

/-- What is due in a chronicle is due wherever it stands. -/
theorem Accurate.of_mem (h : Accurate size c) (hmem : deed ∈ c) :
    ∃ before, deed.Due size before ∧ before ⊆ c ∧ (events before).length ≤ (events c).length := by
  obtain ⟨after, before, rfl⟩ := List.append_of_mem hmem
  refine ⟨before, h after deed before rfl, fun d hd => ?_, ?_⟩
  · exact List.mem_append_right _ (List.mem_cons_of_mem _ hd)
  · rw [events_append, List.length_append]
    have hcons : (events before).length ≤ (events (deed :: before)).length := by
      unfold events
      rw [List.filterMap_cons]
      split <;> simp
    omega

/-- Deliveries are made only of what was published. -/
theorem Accurate.delivered_lt {i : Signal} (h : Accurate size c) (hmem : .delivered n i ∈ c) :
    n < (events c).length := by
  obtain ⟨before, hdue, -, hle⟩ := h.of_mem hmem
  exact Nat.lt_of_lt_of_le hdue hle

/-- An id is not given again, so that a subscription that has ended does not stand again. -/
theorem Accurate.not_stands (h : Accurate size c) (hmem : .unsubscribed id true ∈ c) :
    ¬Stands c id r := by
  rintro ⟨after, before, rfl, hafter⟩
  have hlater : .unsubscribed id true ∈ before := by
    rcases List.mem_append.1 hmem with hmem | hmem
    · exact absurd hmem (hafter true)
    · exact (List.mem_cons.1 hmem).resolve_left fun hc => by cases hc
  obtain ⟨earliest, hdue, hsub, -⟩ :=
    Accurate.of_mem (fun a d b hsplit => h (after ++ .subscribed r id :: a) d b (by simp [hsplit]))
      hlater
  obtain ⟨first, hfirst⟩ := hdue.1 rfl
  exact Nat.lt_irrefl _ ((h after _ before rfl).2 first id (hsub hfirst.mem))

/-- Every number that is answered is at most the number of deeds before. -/
theorem Accurate.fits (h : Accurate size c) (hc : c.length ≤ UInt64.size) (hmem : deed ∈ c) :
    deed.Fits := by
  obtain ⟨after, before, rfl⟩ := List.append_of_mem hmem
  have hdue := h after deed before rfl
  have hbefore : before.length < UInt64.size := by
    rw [List.length_append, List.length_cons] at hc
    omega
  cases deed with
  | subscribed r id => exact Nat.lt_of_le_of_lt (hdue.1 ▸ List.countP_le_length) hbefore
  | counted n => exact Nat.lt_of_le_of_lt (hdue ▸ List.length_filterMap_le _ _) hbefore
  | unsubscribed | published | delivered | cleared | recalled => exact trivial

/-- As no id is given twice, no subscription is found twice when it is ended. -/
theorem Accurate.once (h : Accurate size c) (id : ListenerId) :
    c.count (.unsubscribed id true) ≤ 1 := by
  induction c with
  | nil => simp
  | cons deed c ih =>
    obtain ⟨hd, hc⟩ := accurate_cons.1 h
    by_cases heq : deed = .unsubscribed id true
    · subst heq
      obtain ⟨r, hr⟩ := hd.1 rfl
      have hzero := List.count_eq_zero.2 fun hmem => hc.not_stands hmem hr
      exact Nat.le_of_eq (by rw [List.count_cons_self, hzero, Nat.zero_add])
    · rw [List.count_cons_of_ne heq]
      exact ih hc

/-! ## A bus and its chronicle -/

/-- A bus is as its chronicle tells. -/
structure Tallies (size : Nat) (b : Bus) (c : List Deed) : Prop where
  historySize : b.historySize = size
  next : b.nextListener = subscriptions c
  fresh : ∀ r id, .subscribed r id ∈ c → id.number < b.nextListener
  ascending : b.listeners.Pairwise (·.1.number < ·.1.number)
  listeners : ∀ id l, (id, l) ∈ b.listeners ↔ ∃ r, l = .recorder r ∧ Stands c id r
  log : b.log = events c
  history : b.history = (eventsSinceClear c).take size
  accurate : Accurate size c

variable {b : Bus}

/-- A new bus tallies with the empty chronicle. -/
theorem tallies_make (size capacity : Nat) : Tallies size (make size capacity) [] where
  historySize := rfl
  next := rfl
  fresh r id hmem := absurd hmem List.not_mem_nil
  ascending := .nil
  listeners id l := by
    refine ⟨fun hmem => absurd hmem List.not_mem_nil, ?_⟩
    rintro ⟨r, -, hs⟩
    exact absurd hs.mem List.not_mem_nil
  log := rfl
  history := List.take_nil.symm
  accurate := accurate_nil

namespace Tallies

/-- Something is noted that changes nothing. -/
theorem note (h : Tallies size b c) (hdue : deed.Due size c) (hevent : deed.event? = none)
    (hcleared : deed ≠ .cleared) (hsubscribed : ∀ r id, deed ≠ .subscribed r id)
    (hunsubscribed : ∀ id found, deed ≠ .unsubscribed id found) : Tallies size b (deed :: c) where
  historySize := h.historySize
  next := by
    rw [h.next]
    cases deed with
    | subscribed r id => exact absurd rfl (hsubscribed r id)
    | _ => rfl
  fresh r id hmem :=
    h.fresh r id ((List.mem_cons.1 hmem).resolve_left fun hc => hsubscribed r id hc.symm)
  ascending := h.ascending
  listeners id l := by
    rw [h.listeners]
    refine exists_congr fun r => and_congr_right fun _ => ?_
    rw [stands_cons, or_iff_right (hsubscribed r id), and_iff_right (hunsubscribed id)]
  log := by rw [h.log, events_cons hevent]
  history := by rw [h.history, eventsSinceClear_cons hevent hcleared]
  accurate := accurate_cons.2 ⟨hdue, h.accurate⟩

/-- A bus knows an id if and only if its subscription stands. -/
theorem isSubscribed_iff (h : Tallies size b c) :
    b.isSubscribed id = true ↔ ∃ r, Stands c id r := by
  simp only [isSubscribed, List.any_eq_true, decide_eq_true_eq]
  constructor
  · rintro ⟨⟨_, l⟩, hmem, rfl⟩
    obtain ⟨r, -, hr⟩ := (h.listeners _ l).1 hmem
    exact ⟨r, hr⟩
  · rintro ⟨r, hr⟩
    exact ⟨(id, .recorder r), (h.listeners id _).2 ⟨r, rfl, hr⟩, rfl⟩

/-- A bus that takes a subscription tallies with the longer chronicle. -/
theorem subscribe (h : Tallies size b c) (r : Nat) :
    Tallies size (b.subscribe (.recorder r)).2 (.subscribed r ⟨b.nextListener⟩ :: c) where
  historySize := h.historySize
  next := by
    rw [subscriptions, List.countP_cons_of_pos rfl]
    exact congrArg (· + 1) h.next
  fresh r' id hmem := by
    rcases List.mem_cons.1 hmem with heq | hmem
    · cases heq
      exact Nat.lt_succ_self _
    · exact Nat.lt_succ_of_lt (h.fresh r' id hmem)
  ascending := by
    refine List.pairwise_append.2 ⟨h.ascending, List.pairwise_singleton _ _, ?_⟩
    rintro ⟨id, l⟩ hl last hlast
    obtain ⟨r', -, hs⟩ := (h.listeners id l).1 hl
    rw [List.mem_singleton.1 hlast]
    exact h.fresh r' id hs.mem
  listeners id l := by
    simp only [Bus.subscribe, List.mem_append, List.mem_singleton, Prod.mk.injEq, stands_cons,
      h.listeners]
    constructor
    · rintro (⟨r', rfl, hs⟩ | ⟨rfl, rfl⟩)
      · exact ⟨r', rfl, .inr ⟨by simp, hs⟩⟩
      · exact ⟨r, rfl, .inl rfl⟩
    · rintro ⟨r', rfl, heq | ⟨-, hs⟩⟩
      · cases heq
        exact .inr ⟨rfl, rfl⟩
      · exact .inl ⟨r', rfl, hs⟩
  log := by
    rw [events_cons rfl]
    exact h.log
  history := by
    rw [eventsSinceClear_cons rfl (by simp)]
    exact h.history
  accurate := accurate_cons.2 ⟨⟨h.next, h.fresh⟩, h.accurate⟩

/-- A bus that ends a subscription, or finds none to end, tallies with the longer chronicle. -/
theorem unsubscribe (h : Tallies size b c) (id : ListenerId) :
    Tallies size (b.unsubscribe id) (.unsubscribed id (b.isSubscribed id) :: c) where
  historySize := h.historySize
  next := h.next
  fresh r id' hmem := h.fresh r id' ((List.mem_cons.1 hmem).resolve_left (by simp))
  ascending := h.ascending.filter _
  listeners id' l := by
    simp only [Bus.unsubscribe, List.mem_filter, h.listeners, decide_eq_true_eq, stands_cons]
    constructor
    · rintro ⟨⟨r, rfl, hs⟩, hne⟩
      refine ⟨r, rfl, .inr ⟨fun found heq => ?_, hs⟩⟩
      cases heq
      exact hne rfl
    · rintro ⟨r, rfl, heq | ⟨hne, hs⟩⟩
      · cases heq
      · refine ⟨⟨r, rfl, hs⟩, fun heq => ?_⟩
        subst heq
        exact hne _ rfl
  log := by
    rw [events_cons rfl]
    exact h.log
  history := by
    rw [eventsSinceClear_cons rfl (by simp)]
    exact h.history
  accurate := accurate_cons.2 ⟨h.isSubscribed_iff, h.accurate⟩

/-- A bus that records an event tallies with the longer chronicle. -/
theorem record (h : Tallies size b c) (e : Event) :
    Tallies size (b.record e) (.published e :: c) where
  historySize := h.historySize
  next := h.next
  fresh r id hmem := h.fresh r id ((List.mem_cons.1 hmem).resolve_left (by simp))
  ascending := h.ascending
  listeners id l := by
    rw [show (b.record e).listeners = b.listeners from rfl, h.listeners]
    simp [stands_cons]
  log := by
    rw [events_cons_published, ← h.log]
    rfl
  history := by
    have hevents : eventsSinceClear (.published e :: c) = e :: eventsSinceClear c := by
      unfold eventsSinceClear
      rw [List.takeWhile_cons_of_pos (by simp), events_cons_published]
    rw [hevents, show (b.record e).history = (e :: b.history).take b.historySize from rfl,
      h.historySize,
      h.history]
    cases size with
    | zero => rfl
    | succ size => simp [List.take_take]
  accurate := accurate_cons.2 ⟨trivial, h.accurate⟩

/-- A bus that clears its history tallies with the longer chronicle. -/
theorem clearHistory (h : Tallies size b c) : Tallies size b.clearHistory (.cleared :: c) where
  historySize := h.historySize
  next := h.next
  fresh r id hmem := h.fresh r id ((List.mem_cons.1 hmem).resolve_left (by simp))
  ascending := h.ascending
  listeners id l := by
    rw [show b.clearHistory.listeners = b.listeners from rfl, h.listeners]
    simp [stands_cons]
  log := by
    rw [events_cons rfl]
    exact h.log
  history := by
    simp [eventsSinceClear, events, Bus.clearHistory]
  accurate := accurate_cons.2 ⟨trivial, h.accurate⟩

/-- The number of events that a bus tells is the one that is due. -/
theorem count (h : Tallies size b c) : Tallies size b (.counted b.eventCount :: c) :=
  h.note (congrArg List.length h.log) rfl (by simp) (by simp) (by simp)

/-- The recent events that a bus tells are those that are due. -/
theorem recent (h : Tallies size b c) (limit : Option Nat) :
    Tallies size b (.recalled limit (b.recent limit) :: c) := by
  refine h.note ?_ rfl (by simp) (by simp) (by simp)
  cases limit with
  | none => exact h.history
  | some limit => exact congrArg (List.take limit) h.history

/-- A delivery of something that was published leaves the bus as its chronicle tells. -/
theorem deliver (h : Tallies size b c) (hn : n < (events c).length) (i : Signal) :
    Tallies size b (.delivered n i :: c) :=
  h.note hn rfl (by simp) (by simp) (by simp)

/-- All who hear of an event that is published now, are those whose subscription stands. -/
theorem meant (h : Tallies size b c) (e : Event) :
    Meant c e (b.audience.map fun l => .heard l.number e) := by
  refine ⟨b.listeners.map fun l => (l.1, l.2.number), List.pairwise_map.2 h.ascending,
    fun id r => ?_, by simp [audience]⟩
  simp only [List.mem_map, Prod.mk.injEq]
  constructor
  · rintro ⟨⟨_, l⟩, hmem, rfl, rfl⟩
    obtain ⟨r, rfl, hs⟩ := (h.listeners _ l).1 hmem
    exact hs
  · intro hs
    exact ⟨(id, .recorder r), (h.listeners id _).2 ⟨r, rfl, hs⟩, rfl, rfl⟩

end Tallies

/-! ## Uses -/

/-- A host's bus is used, which is noted in the chronicle, or something happens that leaves the bus
alone. What happens at a delivery is for `hearing` to say. -/
inductive Use (h : Nat) (hearing : Nat → Signal → World × List Deed → World × List Deed → Prop)
    (s t : World × List Deed) : Prop where
  | subscribe (r : Nat)
    (ht : t = (s.1.setBus h ((s.1.host h).bus.subscribe (.recorder r)).2,
      .subscribed r ((s.1.host h).bus.subscribe (.recorder r)).1 :: s.2))
  | unsubscribe (id : ListenerId)
    (ht : t = (s.1.setBus h ((s.1.host h).bus.unsubscribe id),
      .unsubscribed id ((s.1.host h).bus.isSubscribed id) :: s.2))
  | publish (e : Event)
    (hs : (World.publish h e).Ends (hearing (events s.2).length) (s.1, .published e :: s.2) () t)
  | clear (ht : t = (s.1.setBus h (s.1.host h).bus.clearHistory, .cleared :: s.2))
  | count (ht : t = (s.1, .counted (s.1.host h).bus.eventCount :: s.2))
  | recent (limit : Option Nat)
    (ht : t = (s.1, .recalled limit ((s.1.host h).bus.recent limit) :: s.2))
  | elsewhere (hbus : (t.1.host h).bus = (s.1.host h).bus) (ht : t.2 = s.2)

/-- A use of a bus in which listeners use it while they hear of an event, to a depth. -/
def NestedUse (h : Nat) : Nat → World × List Deed → World × List Deed → Prop
  | 0 => fun _ _ => False
  | d + 1 => Use h fun n i s t => ReflTransGen (NestedUse h d) (s.1, .delivered n i :: s.2) t

/-- Nothing was delivered of the first so many publications. -/
def Later (n : Nat) (c : List Deed) : Prop := ∀ k i, .delivered k i ∈ c → n ≤ k

/-- Every event that was published since has been delivered as it is meant. -/
def Finished (since before : List Deed) : Prop :=
  ∀ after e mid, since = after ++ .published e :: mid →
    Meant (mid ++ before) e (deliveries (events (mid ++ before)).length after)

/-- From a state, things can be done with a bus that lead to another. -/
def Leads (h size : Nat) (s t : World × List Deed) : Prop :=
  ∃ since, t.2 = since ++ s.2 ∧ Tallies size (t.1.host h).bus t.2 ∧
    Later (events s.2).length since ∧ Finished since s.2

variable {since before : List Deed} {h d : Nat} {s t u : World × List Deed}

/-- What delivers nothing of many first publications delivers nothing of fewer. -/
theorem Later.mono {m : Nat} (hl : Later n c) (hm : m ≤ n) : Later m c :=
  fun k i hmem => Nat.le_trans hm (hl k i hmem)

/-- Two parts that deliver nothing of the first publications do so together. -/
theorem Later.append (hc : Later n c) (hc' : Later n c') : Later n (c ++ c') :=
  fun k i hmem => (List.mem_append.1 hmem).elim (hc k i) (hc' k i)

/-- Of an earlier publication, a later part has no deliveries. -/
theorem Later.deliveries {m : Nat} (hl : Later n c) (hm : m < n) : deliveries m c = [] :=
  deliveries_eq_nil fun k i hmem => by
    have := hl k i hmem
    omega

/-- A deed that is no delivery delivers nothing. -/
theorem later_single (hdelivered : ∀ k i, deed ≠ .delivered k i) : Later n [deed] :=
  fun k i hmem => absurd (List.mem_singleton.1 hmem).symm (hdelivered k i)

/-- A deed that publishes nothing leaves nothing to be delivered. -/
theorem finished_single (hevent : deed.event? = none) : Finished [deed] before := by
  intro after e mid hsplit
  have hmem : .published e ∈ [deed] := hsplit ▸ List.mem_append_right _ List.mem_cons_self
  rw [← List.mem_singleton.1 hmem] at hevent
  cases hevent

/-- An item that stands in two lists in sequence stands in one of them. -/
theorem append_eq_append_cons {α : Type} {xs ys after rest : List α} {x : α}
    (hsplit : xs ++ ys = after ++ x :: rest) :
    (∃ mid, xs = after ++ x :: mid ∧ rest = mid ++ ys) ∨
      ∃ mid, after = xs ++ mid ∧ ys = mid ++ x :: rest := by
  rcases List.append_eq_append_iff.1 hsplit with ⟨mid, hafter, hys⟩ | ⟨mid, hxs, hrest⟩
  · exact .inr ⟨mid, hafter, hys⟩
  · cases mid with
    | nil => exact .inr ⟨[], by simpa using hxs.symm, hrest.symm⟩
    | cons first mid =>
      obtain ⟨rfl, rfl⟩ := List.cons.inj hrest
      exact .inl ⟨mid, hxs, rfl⟩

/-- What is done later delivers nothing of what was finished before. -/
theorem Finished.append (ha : Finished c (c' ++ before)) (hb : Finished c' before)
    (hc : ∀ n i, .delivered n i ∈ c →
      n < (events before).length ∨ (events (c' ++ before)).length ≤ n) :
    Finished (c ++ c') before := by
  intro after e mid hsplit
  obtain ⟨rest, hrest, rfl⟩ | ⟨rest, rfl, hrest⟩ := append_eq_append_cons hsplit
  · rw [List.append_assoc]
    exact ha after e rest hrest
  · have hnone : deliveries (events (mid ++ before)).length c = [] := by
      refine deliveries_eq_nil fun n i hmem => ?_
      have hn := hc n i hmem
      simp only [hrest, events_append, events_cons_published, List.length_append,
        List.length_cons] at hn ⊢
      omega
    rw [deliveries_append, hnone, List.append_nil]
    exact hb rest e mid hrest

/-- An event that was published is finished with what was delivered of it. -/
theorem Finished.publish (hs : Finished since (.published e :: before))
    (he : Meant before e (deliveries (events before).length since)) :
    Finished (since ++ [.published e]) before := by
  intro after e' mid hsplit
  obtain ⟨rest, hrest, rfl⟩ | ⟨rest, rfl, hrest⟩ := append_eq_append_cons hsplit
  · rw [List.append_assoc]
    exact hs after e' rest hrest
  · obtain ⟨rfl, hcons⟩ := List.append_eq_singleton_iff.1 hrest.symm |>.resolve_right (by simp)
    cases hcons
    rw [List.append_nil]
    exact he

namespace Leads

/-- To do nothing leads from a state to itself. -/
theorem refl (hs : Tallies size (s.1.host h).bus s.2) : Leads h size s s :=
  ⟨[], rfl, hs, fun _ _ hmem => absurd hmem List.not_mem_nil,
    fun _ _ _ hsplit => absurd hsplit.symm (by simp)⟩

/-- What leads to a state, and on from there, leads all the way. -/
theorem trans (a : Leads h size s t) (b : Leads h size t u) : Leads h size s u := by
  obtain ⟨c, ht, -, hlater, hfinished⟩ := a
  obtain ⟨c', hu, htallies, hlater', hfinished'⟩ := b
  rw [ht] at hu hlater' hfinished'
  refine ⟨c' ++ c, by rw [hu, List.append_assoc], htallies, (hlater'.mono ?_).append hlater,
    hfinished'.append hfinished fun n i hmem => .inr (hlater' n i hmem)⟩
  rw [events_append, List.length_append]
  omega

/-- One thing was done, and no event was published or delivered. -/
theorem of_deed (ht : Tallies size (t.1.host h).bus (deed :: s.2)) (hdeeds : t.2 = deed :: s.2)
    (hevent : deed.event? = none) (hdelivered : ∀ k i, deed ≠ .delivered k i) :
    Leads h size s t :=
  ⟨[deed], hdeeds, hdeeds ▸ ht, later_single hdelivered, finished_single hevent⟩

end Leads

/-- What uses of a bus lead to, many of them lead to. -/
theorem leads_of_uses {use : World × List Deed → World × List Deed → Prop}
    (huse : ∀ s t, Tallies size (s.1.host h).bus s.2 → use s t → Leads h size s t)
    (hs : Tallies size (s.1.host h).bus s.2) (hst : ReflTransGen use s t) : Leads h size s t := by
  induction hst with
  | refl => exact .refl hs
  | tail _ hstep ih =>
    obtain ⟨since, -, htallies, -, -⟩ := id ih
    exact ih.trans (huse _ _ htallies hstep)

/-! ## Publishing -/

/-- An event that was published after certain deeds is on its way: some have heard of it. -/
def Underway (h size : Nat) (before : List Deed) (e : Event) (heard : List Listener)
    (u : World × List Deed) : Prop :=
  ∃ since, u.2 = since ++ .published e :: before ∧ Tallies size (u.1.host h).bus u.2 ∧
    Later (events before).length since ∧ Finished since (.published e :: before) ∧
    deliveries (events before).length since = heard.map fun l => .heard l.number e

namespace Underway

variable {heard : List Listener}

/-- When an event is recorded, nobody has heard of it. -/
theorem record (hs : Tallies size (s.1.host h).bus s.2) (e : Event) :
    Underway h size s.2 e [] ((World.record h e s.1).2, .published e :: s.2) := by
  have hrecord : Tallies size ((World.record h e s.1).2.host h).bus (.published e :: s.2) := by
    rw [World.host_record, if_pos rfl]
    exact hs.record e
  exact ⟨[], rfl, hrecord, fun _ _ hmem => absurd hmem List.not_mem_nil,
    fun _ _ _ hsplit => absurd hsplit.symm (by simp), rfl⟩

/-- One more hears of the event, and does what leads on. -/
theorem deliver (hu : Underway h size before e heard u)
    (hv : Tallies size (u.1.host h).bus u.2 → (events before).length < (events u.2).length →
      Leads h size (u.1, .delivered (events before).length (.heard r e) :: u.2) t) :
    Underway h size before e (heard ++ [.recorder r]) t := by
  obtain ⟨since, hdeeds, htallies, hlater, hfinished, hdeliveries⟩ := hu
  have hlt : (events before).length < (events u.2).length := by
    simp only [hdeeds, events_append, events_cons_published, List.length_append, List.length_cons]
    omega
  obtain ⟨c, ht, httallies, htlater, htfinished⟩ := hv htallies hlt
  refine ⟨c ++ .delivered (events before).length (.heard r e) :: since, by simp [ht, hdeeds],
    httallies, ?_, ?_, ?_⟩
  · refine (htlater.mono ?_).append fun k i hmem => ?_
    · rw [events_cons rfl]
      omega
    · rcases List.mem_cons.1 hmem with heq | hmem
      · cases heq
        exact Nat.le_refl _
      · exact hlater k i hmem
  · rw [hdeeds] at htlater htfinished
    refine Finished.append htfinished ?_ fun n i hmem => .inr (htlater n i hmem)
    -- The delivery is of the event itself, none of whose deliveries count for what came after it.
    refine Finished.append (c := [_]) (finished_single rfl) hfinished fun n i hmem => .inl ?_
    cases List.mem_singleton.1 hmem
    exact Nat.lt_succ_self _
  · rw [deliveries_append, deliveries_cons_delivered, hdeliveries, htlater.deliveries hlt]
    simp [Listener.number]

/-- An event that has reached all for whom it is meant is finished. -/
theorem leads (ht : Underway h size s.2 e heard t)
    (hmeant : Meant s.2 e (heard.map fun l => .heard l.number e)) : Leads h size s t := by
  obtain ⟨since, hdeeds, htallies, hlater, hfinished, hdeliveries⟩ := ht
  refine ⟨since ++ [.published e], by simp [hdeeds], htallies,
    hlater.append (later_single (by simp)), hfinished.publish ?_⟩
  rw [hdeliveries]
  exact hmeant

end Underway

/-- An event that is published reaches everyone who is to hear of it, whatever they do then. -/
theorem leads_publish {hearing : Nat → Signal → World × List Deed → World × List Deed → Prop}
    (hhearing : ∀ n i s t, Tallies size (s.1.host h).bus s.2 → n < (events s.2).length →
      hearing n i s t → Leads h size (s.1, .delivered n i :: s.2) t)
    (hs : Tallies size (s.1.host h).bus s.2)
    (hpublish : (World.publish h e).Ends (hearing (events s.2).length)
      (s.1, .published e :: s.2) () t) : Leads h size s t := by
  unfold World.publish at hpublish
  simp only [Interruptible.ends_bind, Interruptible.ends_act] at hpublish
  obtain ⟨audience, u, ⟨rfl, rfl⟩, hpublish⟩ := hpublish
  have hrecorders (l : Listener) (hl : l ∈ (s.1.host h).bus.audience) : ∃ r, l = .recorder r := by
    obtain ⟨⟨id, _⟩, hmem, rfl⟩ := List.mem_map.1 hl
    obtain ⟨r, hr, -⟩ := (hs.listeners id _).1 hmem
    exact ⟨r, hr⟩
  have hmeant := hs.meant e
  rw [World.fst_record] at hpublish
  generalize (s.1.host h).bus.audience = audience at hpublish hrecorders hmeant
  have hdone := Interruptible.Ends.each_induction
    (motive := fun rest u => ∃ heard, audience = heard ++ rest ∧ Underway h size s.2 e heard u)
    hpublish ⟨[], rfl, .record hs e⟩ ?_
  · obtain ⟨heard, hall, ht⟩ := hdone
    rw [List.append_nil] at hall
    exact ht.leads (hall ▸ hmeant)
  · rintro l rest u v hdeliver ⟨heard, hall, hu⟩
    obtain ⟨r, rfl⟩ := hrecorders l (hall ▸ List.mem_append_right _ List.mem_cons_self)
    refine ⟨heard ++ [.recorder r], by simp [hall], hu.deliver fun htallies hlt => ?_⟩
    exact hhearing _ _ u v htallies hlt ((Interruptible.ends_interrupt _ _).1 hdeliver)

/-- A use of a bus leads on if what is done at deliveries does. -/
theorem Use.leads {hearing : Nat → Signal → World × List Deed → World × List Deed → Prop}
    (hhearing : ∀ n i s t, Tallies size (s.1.host h).bus s.2 → n < (events s.2).length →
      hearing n i s t → Leads h size (s.1, .delivered n i :: s.2) t)
    (hs : Tallies size (s.1.host h).bus s.2) (hst : Use h hearing s t) : Leads h size s t := by
  cases hst with
  | subscribe r ht =>
    subst ht
    refine .of_deed ?_ rfl rfl (by simp)
    rw [World.host_setBus, if_pos rfl]
    exact hs.subscribe r
  | unsubscribe id ht =>
    subst ht
    exact .of_deed (by simpa using hs.unsubscribe id) rfl rfl (by simp)
  | publish e hpublish => exact leads_publish hhearing hs hpublish
  | clear ht =>
    subst ht
    exact .of_deed (by simpa using hs.clearHistory) rfl rfl (by simp)
  | count ht =>
    subst ht
    exact .of_deed hs.count rfl rfl (by simp)
  | recent limit ht =>
    subst ht
    exact .of_deed (hs.recent limit) rfl rfl (by simp)
  | elsewhere hbus ht =>
    obtain ⟨w, c⟩ := t
    subst ht
    exact ⟨[], rfl, hbus ▸ hs, fun _ _ hmem => absurd hmem List.not_mem_nil,
      fun _ _ _ hsplit => absurd hsplit.symm (by simp)⟩

/-- By induction on the depth to which listeners use the bus. -/
theorem leads_of_nestedUse (hs : Tallies size (s.1.host h).bus s.2) (hst : NestedUse h d s t) :
    Leads h size s t := by
  induction d generalizing s t with
  | zero => exact hst.elim
  | succ d ih =>
    refine Use.leads (fun n i s t htallies hn hacts => ?_) hs hst
    exact leads_of_uses (fun _ _ => ih) (htallies.deliver hn i) hacts

/-- Whatever is done with a new bus, and by listeners while they hear of events, it serves them as
it should. If no more than 2 ^ 64 things are done, then its numbers are those of counters of 64
bits. -/
theorem faithful_of_uses {w : World} {capacity : Nat}
    (hbus : (w.host h).bus = make size capacity) (ht : ReflTransGen (NestedUse h d) (w, []) t) :
    Faithful size t.2 := by
  have hfresh : Tallies size (w.host h).bus [] := by
    rw [hbus]
    exact tallies_make size capacity
  obtain ⟨since, hdeeds, htallies, -, hfinished⟩ :=
    leads_of_uses (fun _ _ => leads_of_nestedUse) (s := (w, [])) hfresh ht
  rw [List.append_nil] at hdeeds
  subst hdeeds
  refine ⟨htallies.accurate, htallies.accurate.once, fun after e before hsplit => ?_,
    fun hlength _ hmem => htallies.accurate.fits hlength hmem⟩
  have hmeant := hfinished after e before hsplit
  rw [List.append_nil] at hmeant
  have hnone : deliveries (events before).length (.published e :: before) = [] := by
    refine deliveries_eq_nil fun k i hmem => ?_
    have hbefore : Accurate size before := fun a deed b hb =>
      htallies.accurate (after ++ .published e :: a) deed b (by simp [hsplit, hb])
    have hmem : .delivered k i ∈ before := (List.mem_cons.1 hmem).resolve_left (by simp)
    exact Nat.ne_of_lt (hbefore.delivered_lt hmem)
  rw [hsplit, deliveries_append, hnone]
  exact hmeant

/-! A listener ends another's subscription and adds a third, and publishes; the one whose
subscription has ended still hears of the first event, and not of the second. -/

section Example

/-- A host with a bus, and the bus's chronicle. -/
def scene (b : Bus) (c : List Deed) : World × List Deed := ({ hosts := ⟨[{ bus := b }]⟩ }, c)

variable {hearing : Nat → Signal → World × List Deed → World × List Deed → Prop}

/-- A subscription on the stage of the example. -/
theorem subscribe_scene (b : Bus) (c : List Deed) (r : Nat) :
    Use 0 hearing (scene b c)
      (scene (b.subscribe (.recorder r)).2 (.subscribed r ⟨b.nextListener⟩ :: c)) :=
  .subscribe r rfl

/-- The end of a subscription on the stage of the example. -/
theorem unsubscribe_scene (b : Bus) (c : List Deed) (id : ListenerId) :
    Use 0 hearing (scene b c)
      (scene (b.unsubscribe id) (.unsubscribed id (b.isSubscribed id) :: c)) :=
  .unsubscribe id rfl

/-- A look at the recent events on the stage of the example. -/
theorem recent_scene (b : Bus) (c : List Deed) (limit : Option Nat) :
    Use 0 hearing (scene b c) (scene b (.recalled limit (b.recent limit) :: c)) :=
  .recent limit rfl

/-- A publication to two recorders, each of which may act before the next one hears. -/
theorem publish_scene {q : Nat} (hb : b.audience = [.recorder q, .recorder r])
    (hq : hearing (events c).length (.heard q e) (scene (b.record e) (.published e :: c)) u)
    (hr : hearing (events c).length (.heard r e) u t) : Use 0 hearing (scene b c) t := by
  refine .publish e ?_
  unfold World.publish
  simp only [Interruptible.ends_bind, Interruptible.ends_act]
  refine ⟨b.audience, _, ⟨rfl, rfl⟩, ?_⟩
  simp only [hb, Interruptible.ends_each_cons, Interruptible.ends_each_nil, World.deliver,
    Interruptible.ends_interrupt]
  exact ⟨u, hq, t, hr, rfl⟩

/-- The event that is published first. -/
def firstEvent : Event := ⟨.installed, ⟨0, ⟨1⟩, "module-1"⟩⟩

/-- The event that is published from inside the first. -/
def secondEvent : Event := ⟨.resolved, ⟨0, ⟨1⟩, "module-1"⟩⟩

/-- What was done, the last first. -/
def exchange : List Deed :=
  [.recalled none [secondEvent], .unsubscribed ⟨1⟩ false, .delivered 0 (.heard 1 firstEvent),
    .delivered 1 (.heard 2 secondEvent), .delivered 1 (.heard 0 secondEvent),
    .published secondEvent, .subscribed 2 ⟨2⟩, .unsubscribed ⟨1⟩ true,
    .delivered 0 (.heard 0 firstEvent), .published firstEvent, .subscribed 1 ⟨1⟩,
    .subscribed 0 ⟨0⟩]

/-- A chronicle with a nested publication, a subscription that ends before its delivery comes, and
one that begins after the event, is faithful. -/
theorem faithful_of_uses_exchange : ∃ t,
    ReflTransGen (NestedUse 0 2) (scene (make 1 16) []) t ∧
      ((scene (make 1 16) []).1.host 0).bus = make 1 16 ∧ t.2 = exchange ∧ Faithful 1 t.2 := by
  obtain ⟨t, ht, hdeeds⟩ : ∃ t, ReflTransGen (NestedUse 0 2) (scene (make 1 16) []) t ∧
      t.2 = exchange := by
    refine ⟨_, .tail (.tail (.single (subscribe_scene _ _ 0)) (subscribe_scene _ _ 1))
      (publish_scene (e := firstEvent) rfl
        (.tail (.tail (.single (unsubscribe_scene _ _ ⟨1⟩)) (subscribe_scene _ _ 2))
          (publish_scene (e := secondEvent) rfl .refl .refl))
        (.tail (.single (unsubscribe_scene _ _ ⟨1⟩)) (recent_scene _ _ none))), ?_⟩
    rfl
  exact ⟨t, ht, rfl, hdeeds, faithful_of_uses rfl ht⟩

end Example

end Bus

end ServiceRegistry
