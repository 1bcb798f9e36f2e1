import ServiceRegistry.Session.Basic

/-!
# Summaries of sessions

What can be seen of the named objects at one moment: the hosts with the numbers of listeners and
events, the catalogs, the followers with what each has registered, and which providers remember
something.
-/

namespace ServiceRegistry

/-- What can be seen of a host. -/
structure HostSummary where
  listeners : Nat
  events : Nat
  /-- The modules, unless the name is another name or the list is given. -/
  modules : Option (List Hosted)

/-- What can be seen of a follower. -/
structure FollowerSummary where
  running : Bool
  contributions : List (ModuleId × List String)

/-- What can be seen of a session. -/
structure SessionSummary where
  hosts : List (String × HostSummary)
  /-- The services of each catalog that is not empty, with the locations of their providers. -/
  catalogs : List (String × List (String × List Location))
  followers : List (String × FollowerSummary)
  /-- Whether each provider remembers something. -/
  providers : List (String × Bool)

namespace Session

/-- What can be seen of a host. -/
def summarizeHost (w : World) (h : NamedHost) : HostSummary :=
  let host := w.host h.handle.host
  { listeners := host.bus.listeners.length
    events := host.bus.eventCount
    modules := if h.own then some host.modules else none }

/-- What can be seen of a table. -/
def summarizeTable (t : Table) : List (String × List Location) :=
  t.entries.map fun e => (e.1, e.2.map (·.location))

/-- What can be seen of a follower. -/
def summarizeFollower (f : Follower) : FollowerSummary where
  running := f.running
  contributions := f.groups.entries.map fun e => (e.1, e.2.services)

/-- What can be seen of the named objects. -/
def summarize (s : Session) : SessionSummary :=
  let (w, d) := s
  { hosts := d.hosts.entries.map fun e => (e.1, summarizeHost w e.2)
    catalogs := d.catalogs.entries.filterMap fun e =>
      let t := (w.catalog e.2).table
      if t.isEmpty then none else some (e.1, summarizeTable t)
    followers := d.followers.entries.map fun e => (e.1, summarizeFollower (w.follower e.2))
    providers := d.providers.entries.map fun e => (e.1, (w.stock.memo e.2).isSome) }

end Session

end ServiceRegistry
