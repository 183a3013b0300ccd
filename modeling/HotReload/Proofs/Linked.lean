import HotReload.Proofs.Lifecycle
import HotReload.Proofs.Regular
import HotReload.Socket.Network

set_option autoImplicit false

namespace HotReload

namespace Network

theorem socket?_mapSocket (network : Network) (generation other : Nat) (f : Socket → Socket) :
    (network.mapSocket generation f).socket? other =
      if other = generation then (network.socket? other).map f else network.socket? other := by
  obtain ⟨links⟩ := network
  simp only [mapSocket, socket?]
  induction links with
  | nil => simp
  | cons link rest ih =>
    simp only [List.map_cons, List.find?_cons]
    by_cases named : link.generation = generation
    · by_cases asked : other = generation
      · simp [named, asked]
      · have unasked : generation ≠ other := fun same => asked same.symm
        simpa [named, asked, unasked] using ih
    · by_cases found : link.generation = other
      · have unnamed : other ≠ generation := fun same => named (found.trans same)
        simp [found, unnamed]
      · simpa [named, found] using ih

theorem socket?_mapSocket_self {network : Network} {generation : Nat} {s : Socket}
    (found : network.socket? generation = some s) (f : Socket → Socket) :
    (network.mapSocket generation f).socket? generation = some (f s) := by
  simp [socket?_mapSocket, found]

theorem socket?_mapSocket_of_ne {generation other : Nat} (different : other ≠ generation)
    (network : Network) (f : Socket → Socket) :
    (network.mapSocket generation f).socket? other = network.socket? other := by
  simp [socket?_mapSocket, different]

def opening (network : Network) (generation : Nat) (url : String) : Network :=
  ⟨network.links ++ [⟨generation, url, {}⟩]⟩

theorem socket?_opening (network : Network) (generation other : Nat) (url : String) :
    (network.opening generation url).socket? other =
      (network.socket? other).or (if other = generation then some {} else none) := by
  simp only [opening, socket?, List.find?_append]
  cases network.links.find? fun link => link.generation = other with
  | some link => simp
  | none => by_cases same : other = generation <;> simp [same, eq_comm]

end Network

theorem Inbox.mem_emitAll {inbox : Inbox} {generation : Nat} {reports : List Report}
    {signal : Signal} :
    signal ∈ (inbox.emitAll generation reports).signals ↔
      signal ∈ inbox.signals ∨
        (inbox.isGone = false ∧ ∃ report ∈ reports, ⟨generation, report⟩ = signal) := by
  unfold emitAll
  cases inbox.isGone <;> simp

-- The socket that a connection has in use has not ended without a word.
structure InUse (connection : Connection) (inbox : Inbox) (generation : Nat) (s : Socket) : Prop where
  held : s.isHeld = true
  wanted : s.ready ≠ .closing
  shaken : connection.state = .open → s.ready ≠ .connecting
  heard : s.ready = .closed →
    ∃ report : Report, report.ends = true ∧ ⟨generation, report⟩ ∈ inbox.signals

theorem InUse.mono {connection : Connection} {inbox later : Inbox} {generation : Nat} {s : Socket}
    (inUse : InUse connection inbox generation s)
    (kept : ∀ signal ∈ inbox.signals, signal.generation = generation → signal.report.ends = true →
      signal ∈ later.signals) :
    InUse connection later generation s :=
  { inUse with
    heard := fun closed =>
      have ⟨report, ends, waiting⟩ := inUse.heard closed
      ⟨report, ends, kept _ waiting rfl ends⟩ }

structure Linked (network : Network) (connection : Connection) (inbox : Inbox) : Prop where
  sound : ∀ generation s, network.socket? generation = some s →
    s.Sound ∧ generation ≤ connection.generation
  active : ∀ generation s, network.socket? generation = some s → s.isActive = true →
    connection.current = some generation
  inUse : ∀ generation, connection.current = some generation →
    ∃ s, network.socket? generation = some s ∧ InUse connection inbox generation s
  signals : ∀ signal ∈ inbox.signals, ∃ s, network.socket? signal.generation = some s ∧
    s.ready ≠ .connecting ∧ (signal.report.ends = true → s.ready = .closed)

namespace Linked

variable {network : Network} {connection : Connection} {inbox : Inbox}

theorem initial : Linked {} .initial .empty where
  sound _ _ found := by cases found
  active _ _ found := by cases found
  inUse _ current := by cases current
  signals := by simp [Inbox.empty]

theorem of_lookup {other : Network} (linked : Linked network connection inbox)
    (same : ∀ generation, other.socket? generation = network.socket? generation) :
    Linked other connection inbox where
  sound generation s found := linked.sound generation s (same generation ▸ found)
  active generation s found := linked.active generation s (same generation ▸ found)
  inUse generation current := by
    rw [same]
    exact linked.inUse generation current
  signals signal waiting := by
    rw [same]
    exact linked.signals signal waiting

theorem step (linked : Linked network connection inbox) {generation : Nat} {s : Socket}
    {after : Socket.Outcome} {f : Socket → Socket} (found : network.socket? generation = some s)
    (moved : f s = after.socket) (ongoing : s.Ongoing after)
    (held : connection.current = some generation → after.socket.isHeld = s.isHeld)
    (listening : after.reports ≠ [] → inbox.isGone = true → connection.current = none) :
    Linked (network.mapSocket generation f) connection
      (inbox.emitAll generation after.reports) := by
  have there : (network.mapSocket generation f).socket? generation = some after.socket :=
    moved ▸ Network.socket?_mapSocket_self found f
  have elsewhere other (different : other ≠ generation) :=
    Network.socket?_mapSocket_of_ne different network f
  refine ⟨?_, ?_, ?_, ?_⟩
  · intro other t lookup
    by_cases same : other = generation
    · subst same
      cases there.symm.trans lookup
      exact ⟨ongoing.sound, (linked.sound _ _ found).2⟩
    · exact linked.sound other t (elsewhere other same ▸ lookup)
  · intro other t lookup active
    by_cases same : other = generation
    · subst same
      cases there.symm.trans lookup
      exact linked.active _ _ found (ongoing.active active)
    · exact linked.active other t (elsewhere other same ▸ lookup) active
  · intro other current
    obtain ⟨t, lookup, inUse⟩ := linked.inUse other current
    by_cases same : other = generation
    · subst same
      cases found.symm.trans lookup
      refine ⟨_, there, (held current).trans inUse.held, ongoing.wanted inUse.wanted,
        fun isOpen => ongoing.shaken (inUse.shaken isOpen), fun closed => ?_⟩
      by_cases early : s.ready = .closed
      · obtain ⟨report, ends, waiting⟩ := inUse.heard early
        exact ⟨report, ends, Inbox.mem_emitAll.mpr (.inl waiting)⟩
      · -- It has ended just now, and of its own accord, so it leaves a last word.
        have active : s.isActive = true := by
          cases ready : s.ready <;> simp_all [Socket.isActive, inUse.wanted]
        obtain ⟨report, reported, ends⟩ := ongoing.ended inUse.held active closed
        have there : inbox.isGone = false := by
          cases gone : inbox.isGone with
          | false => rfl
          | true => cases current.symm.trans (listening (List.ne_nil_of_mem reported) gone)
        exact ⟨report, ends, Inbox.mem_emitAll.mpr (.inr ⟨there, report, reported, rfl⟩)⟩
    · exact ⟨t, (elsewhere other same).trans lookup,
        inUse.mono fun signal waiting _ _ => Inbox.mem_emitAll.mpr (.inl waiting)⟩
  · intro signal waiting
    rcases Inbox.mem_emitAll.mp waiting with early | ⟨_, report, reported, rfl⟩
    · obtain ⟨t, lookup, shaken, ended⟩ := linked.signals signal early
      by_cases same : signal.generation = generation
      · rw [same] at lookup ⊢
        cases found.symm.trans lookup
        exact ⟨_, there, ongoing.shaken shaken, fun ends => ongoing.closed (ended ends)⟩
      · exact ⟨t, (elsewhere _ same).trans lookup, shaken, ended⟩
    · obtain ⟨shaken, ended⟩ := ongoing.reports report reported
      exact ⟨_, there, shaken, ended⟩

theorem send (linked : Linked network connection inbox) (generation : Nat) (data : String) :
    Linked (network.mapSocket generation (Socket.send · data)) connection inbox := by
  cases found : network.socket? generation with
  | none =>
    refine linked.of_lookup fun other => ?_
    rw [Network.socket?_mapSocket]
    split
    next same => simp [same, found]
    next => rfl
  | some s =>
    have ongoing := Socket.ongoing_send (linked.sound generation s found).1 data
    have held : (s.send data).isHeld = s.isHeld := s.step_isHeld (.send data) nofun
    have sent := linked.step (f := (Socket.send · data)) found rfl ongoing (fun _ => held)
      (absurd rfl)
    simpa [Inbox.emitAll] using sent

theorem vacate {other : Connection} (linked : Linked network connection inbox)
    (none : other.current = none) (later : connection.generation ≤ other.generation)
    (quiet : ∀ generation s, network.socket? generation = some s → s.isActive = false) :
    Linked network other inbox where
  sound generation s found :=
    ⟨(linked.sound generation s found).1, Nat.le_trans (linked.sound generation s found).2 later⟩
  active generation s found active := by cases (quiet generation s found).symm.trans active
  inUse generation current := by cases none.symm.trans current
  signals := linked.signals

theorem dismiss {other : Connection} (linked : Linked network connection inbox)
    (none : other.current = none) (later : connection.generation ≤ other.generation) :
    Linked (connection.current.elim network (network.mapSocket · Socket.close)) other inbox := by
  cases current : connection.current with
  | none =>
    refine linked.vacate none later fun generation s found => Bool.eq_false_iff.mpr fun active => ?_
    cases current.symm.trans (linked.active generation s found active)
  | some generation =>
    obtain ⟨s, found, _⟩ := linked.inUse generation current
    have there := Network.socket?_mapSocket_self found Socket.close
    have elsewhere other (different : other ≠ generation) :=
      Network.socket?_mapSocket_of_ne different network Socket.close
    have shut : s.close.isActive = false := by
      rcases s.close_ready with ⟨_, closed⟩ | ⟨_, closing⟩ <;> simp [Socket.isActive, *]
    refine ⟨?_, ?_, ?_, ?_⟩
    · intro which t lookup
      by_cases same : which = generation
      · subst same
        cases there.symm.trans lookup
        obtain ⟨sound, bound⟩ := linked.sound _ _ found
        exact ⟨sound.close, Nat.le_trans bound later⟩
      · obtain ⟨sound, bound⟩ := linked.sound which t (elsewhere which same ▸ lookup)
        exact ⟨sound, Nat.le_trans bound later⟩
    · intro which t lookup active
      by_cases same : which = generation
      · subst same
        cases there.symm.trans lookup
        cases shut.symm.trans active
      · have only := linked.active which t (elsewhere which same ▸ lookup) active
        cases current.symm.trans only
        exact absurd rfl same
    · intro which vacant
      cases none.symm.trans vacant
    · intro signal waiting
      obtain ⟨t, lookup, shaken, ended⟩ := linked.signals signal waiting
      by_cases same : signal.generation = generation
      · rw [same] at lookup ⊢
        cases found.symm.trans lookup
        rcases s.close_ready with ⟨_, closed⟩ | ⟨going, closing⟩
        · exact ⟨_, there, by simp [closed], fun _ => closed⟩
        · exact ⟨_, there, by simp [closing], fun ends => absurd (ended ends) going⟩
      · exact ⟨t, (elsewhere _ same).trans lookup, shaken, ended⟩

theorem opening (linked : Linked network connection inbox) (vacant : connection.current = none)
    (url : String) (activity : Nat) :
    Linked (network.opening (connection.generation + 1) url)
      ⟨.connecting, some (connection.generation + 1), connection.generation + 1, activity⟩
      inbox := by
  have unknown : network.socket? (connection.generation + 1) = none := by
    cases found : network.socket? (connection.generation + 1) with
    | none => rfl
    | some s => exact absurd (linked.sound _ s found).2 (Nat.not_succ_le_self _)
  have known generation s (found : network.socket? generation = some s) :
      (network.opening (connection.generation + 1) url).socket? generation = some s := by
    simp [Network.socket?_opening, found]
  have fresh : (network.opening (connection.generation + 1) url).socket?
      (connection.generation + 1) = some {} := by
    simp [Network.socket?_opening, unknown]
  -- Whatever is found is the new socket or one that has been there before.
  have oldOrNew generation s
      (lookup : (network.opening (connection.generation + 1) url).socket? generation = some s) :
      (generation = connection.generation + 1 ∧ s = {}) ∨ network.socket? generation = some s := by
    rw [Network.socket?_opening, Option.or_eq_some_iff] at lookup
    rcases lookup with old | ⟨_, new⟩
    · exact .inr old
    · split at new
      next same => exact .inl ⟨same, (Option.some.inj new).symm⟩
      next => cases new
  refine ⟨?_, ?_, ?_, ?_⟩
  · intro generation s lookup
    rcases oldOrNew generation s lookup with ⟨rfl, rfl⟩ | old
    · exact ⟨Socket.sound_new, Nat.le_refl _⟩
    · obtain ⟨sound, bound⟩ := linked.sound generation s old
      exact ⟨sound, Nat.le_succ_of_le bound⟩
  · intro generation s lookup active
    rcases oldOrNew generation s lookup with ⟨rfl, _⟩ | old
    · rfl
    · cases vacant.symm.trans (linked.active generation s old active)
  · intro generation current
    cases current
    exact ⟨_, fresh, rfl, nofun, nofun, nofun⟩
  · intro signal waiting
    obtain ⟨s, found, spoken⟩ := linked.signals signal waiting
    exact ⟨s, known _ s found, spoken⟩

theorem take (linked : Linked network connection inbox) {signal : Signal} {rest : List Signal}
    (queued : inbox.signals = signal :: rest)
    (other : connection.current = some signal.generation → signal.report.ends = false) :
    Linked network connection { inbox with signals := rest } where
  sound := linked.sound
  active := linked.active
  inUse generation current := by
    obtain ⟨s, found, inUse⟩ := linked.inUse generation current
    refine ⟨s, found, inUse.mono fun waiting member same ends => ?_⟩
    rcases List.mem_cons.mp (queued ▸ member) with rfl | later
    · rw [other (same ▸ current)] at ends
      cases ends
    · exact later
  signals waiting member := linked.signals waiting (by simp [queued, List.mem_cons_of_mem _ member])

theorem carryOn {other : Connection} (linked : Linked network connection inbox)
    (current : other.current = connection.current)
    (generation : other.generation = connection.generation)
    (shaken : other.state = .open → ∀ generation s, connection.current = some generation →
      network.socket? generation = some s → s.ready ≠ .connecting) :
    Linked network other inbox where
  sound := generation ▸ linked.sound
  active := current ▸ linked.active
  inUse := by
    intro generation inUse
    rw [current] at inUse
    obtain ⟨s, found, use⟩ := linked.inUse generation inUse
    exact ⟨s, found, use.held, use.wanted, fun isOpen => shaken isOpen generation s inUse found,
      use.heard⟩
  signals := linked.signals

theorem leave (linked : Linked network connection inbox) (vacant : connection.current = none) :
    Linked network connection inbox.leave where
  sound := linked.sound
  active := linked.active
  inUse generation current := by cases vacant.symm.trans current
  signals := by simp [Inbox.leave]

end Linked

end HotReload
