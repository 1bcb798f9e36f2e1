import ServiceRegistry.Lifecycle
import ServiceRegistry.Module.Basic

/-!
# Event buses

A bus keeps what was published and who listens. Publishing records the event before anyone hears of
it; who hears of it are the listeners of that moment, in the order in which they subscribed.

There are two views of the past. The history holds the most recent events, up to a size, and can be
cleared. Receivers read the log from where it stood when they were made; the newest events, as many
as the channel holds, can still be read, and a receiver that falls behind is told how many it has
missed.

Subscriptions and events are counted without a bound. A counter of 64 bits gives the same numbers
for the first 2 ^ 64 of each.
-/

namespace ServiceRegistry

/-- A change of a module that a host announces. -/
structure Event where
  kind : EventKind
  module : Module
deriving DecidableEq

/-- Whom events are delivered to. -/
inductive Listener where
  /-- A recorder that may act on what it hears. -/
  | recorder (number : Nat)
  /-- A follower. -/
  | follower (number : Nat)
deriving DecidableEq

/-- The number that a bus gives to a subscription. -/
structure ListenerId where
  number : Nat
deriving DecidableEq

/-- The text for people. -/
def ListenerId.text (id : ListenerId) : String := "listener-" ++ Decimal.text id.number

/-- What was published and who listens. -/
structure Bus where
  /-- How many events the history holds at most. -/
  historySize : Nat := 100
  /-- How many events receivers can be behind. -/
  channelSize : Nat := 1024
  /-- The subscriptions, oldest first. -/
  listeners : List (ListenerId × Listener) := []
  /-- The number for the next subscription. -/
  nextListener : Nat := 0
  /-- All events, newest first. -/
  log : List Event := []
  /-- The recent events, newest first. -/
  history : List Event := []

namespace Bus

instance : Inhabited Bus := ⟨{}⟩

/-- A bus whose channel is asked to hold a number of events; it holds the next power of two. -/
def make (historySize channelCapacity : Nat) : Bus :=
  { historySize, channelSize := (max 1 channelCapacity).nextPowerOfTwo }

/-- Adds a listener, under a new number. -/
def subscribe (b : Bus) (l : Listener) : ListenerId × Bus :=
  (⟨b.nextListener⟩,
    { b with
      listeners := b.listeners ++ [(⟨b.nextListener⟩, l)]
      nextListener := b.nextListener + 1 })

/-- Whether a subscription is in force. -/
def isSubscribed (b : Bus) (id : ListenerId) : Bool := b.listeners.any (·.1 = id)

/-- Ends a subscription; without effect if there is none. -/
def unsubscribe (b : Bus) (id : ListenerId) : Bus :=
  { b with listeners := b.listeners.filter (·.1 ≠ id) }

/-- Records an event. -/
def record (b : Bus) (e : Event) : Bus :=
  { b with log := e :: b.log, history := (e :: b.history).take b.historySize }

/-- Those who hear of an event that is published now, in order. -/
def audience (b : Bus) : List Listener := b.listeners.map (·.2)

/-- How many events were published. -/
def eventCount (b : Bus) : Nat := b.log.length

/-- The recent events, newest first, at most as many as asked for. -/
def recent (b : Bus) : Option Nat → List Event
  | some limit => b.history.take limit
  | none => b.history

/-- Forgets the recent events. -/
def clearHistory (b : Bus) : Bus := { b with history := [] }

/-- What a receiver finds when it reads on. -/
inductive Reception where
  | event (e : Event)
  /-- All has been read. -/
  | nothing
  /-- The receiver fell behind by that many events. -/
  | missed (count : Nat)
deriving DecidableEq

/-- Reads on from the event of a number, and where to read on after that. -/
def receive (b : Bus) (position : Nat) : Reception × Nat :=
  if position + b.channelSize < b.log.length then
    (.missed (b.log.length - b.channelSize - position), b.log.length - b.channelSize)
  else if h : position < b.log.length then
    (.event b.log[b.log.length - 1 - position], position + 1)
  else (.nothing, position)

end Bus

end ServiceRegistry
