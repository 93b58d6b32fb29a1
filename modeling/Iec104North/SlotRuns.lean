import Iec104North.Slots

/-!
# Who holds which slot

Over any well-formed run no peer holds two slots and only connected peers hold
slots.  A peer which finds one keeps it until it is closed, and it finds one
while no more peers of its IP are connected than there are slots for it.
-/

namespace Iec104North.SlotRuns

open Iec104North.Library
open Iec104North.Values
open Iec104North.Config
open Iec104North.Config.IEC104Config
open Iec104North.Server
open Iec104North.Connections
open Iec104North.ImportProtocol
open Iec104North.RedundancyImport
open Iec104North.LedgerRefinement
open Iec104North.Runs
open Iec104North.Slots

/-! ## Steps -/

section Steps

variable (platform : Platform) {system : System} {earlier : List Event}

theorem getRedundancyGroup_step (event : Event) (ip : String) :
    (step platform system event).1.server.config.getRedundancyGroup ip =
      system.server.config.getRedundancyGroup ip := by
  rw [getRedundancyGroup_eq_layout, getRedundancyGroup_eq_layout,
    layout_step]

theorem server_step_connection (con : Connection) (peerAddress : String)
    (what : PeerConnectionEvent) :
    (step platform system (.connection con peerAddress what)).1.server =
      (connectionEventHandler system.server con peerAddress what).1 :=
  rfl

/-- Without a slot, a connection event does nothing. -/
theorem connectionEventHandler_absent {server : IEC104Server}
    {peerAddress : String} (missing : slotFor server peerAddress = none)
    (con : Connection) (what : PeerConnectionEvent) :
    connectionEventHandler server con peerAddress what = (server, []) := by
  rw [connectionEventHandler_eq, missing]

/-- The events of a peer leave the others allowed where they are. -/
theorem allowedAt_step (con : Connection) {peerAddress : String}
    (what : PeerConnectionEvent) {peers : Peers} {other : Peer}
    {place : Place} (apart : other ≠ splitPeerAddress peerAddress)
    (allowed : AllowedAt system.server.config peers other place) :
    AllowedAt
      (step platform system
        (.connection con peerAddress what)).1.server.config
      (peers.handle (splitPeerAddress peerAddress) what) other place :=
  ⟨(peers.mem_opened_handle_iff _ what apart).mpr allowed.1,
    (getRedundancyGroup_step platform _ other.1).trans allowed.2⟩

/-- No well-formed event gives a peer two slots, or a stranger one. -/
theorem step_holding {event : Event}
    (wellFormed : WellFormedEvent earlier event)
    (holding :
      Holding (AllowedAt system.server.config (Peers.after earlier))
        (holderOf system.server.config)) :
    Holding
      (AllowedAt (step platform system event).1.server.config
        (Peers.after (earlier ++ [event])))
      (holderOf (step platform system event).1.server.config) := by
  rw [Peers.after_concat]
  by_cases connection :
      ∃ con peerAddress what, event = .connection con peerAddress what
  · rcases connection with ⟨con, peerAddress, what, rfl⟩
    rcases wellFormed con peerAddress what rfl with ⟨-, hasPort, opens⟩
    cases found : slotFor system.server peerAddress with
    | none =>
        have kept :
            ∀ other place, other ≠ splitPeerAddress peerAddress →
              AllowedAt system.server.config (Peers.after earlier) other
                  place →
                _ :=
          fun other place apart allowed =>
            allowedAt_step platform con what apart allowed
        rw [server_step_connection,
          connectionEventHandler_absent found] at kept ⊢
        exact holding.absent (holdsNone_of_findSlot holding found) kept
    | some entry =>
        rcases entry with ⟨group, slot, isNew⟩
        have listed := (findSlot_eq_some found).1
        rw [server_step_connection]
        rw [holderOf_connectionEventHandler hasPort found con what]
        apply holding.update (mayHold_of_findSlot holding hasPort found)
        · intro next entry
          split at entry
          · simp at entry
          · exact (Option.some.inj entry).symm
        · intro next entry
          split at entry
          · simp at entry
          rename_i isOpen
          rw [← Option.some.inj entry]
          refine
            ⟨?_,
              (getRedundancyGroup_step platform
                (.connection con peerAddress what) _).trans listed⟩
          cases what with
          | opened => simp [Peers.next, Peers.handle]
          | closed => exact (isOpen rfl).elim
          | activated => simpa [Peers.next, Peers.handle] using opens
          | deactivated => simpa [Peers.next, Peers.handle] using opens
        · intro other place apart allowed
          exact allowedAt_step platform con what apart allowed
  · rw [Peers.next_other _ connection,
      (step_leavesSlots platform system event connection).holderOf]
    refine ⟨holding.unique, ?_⟩
    intro place peer holds
    rcases holding.allowed holds with ⟨isOpen, listed⟩
    exact ⟨isOpen, (getRedundancyGroup_step platform _ _).trans listed⟩

/-- An event which ends the connection of a peer. -/
def Closes (peer : Peer) (event : Event) : Prop :=
  ∃ con peerAddress,
    event = .connection con peerAddress .closed ∧
      splitPeerAddress peerAddress = peer

/-- A peer keeps its slot until it is closed. -/
theorem step_kept {event : Event}
    (wellFormed : WellFormedEvent earlier event)
    (holding :
      Holding (AllowedAt system.server.config (Peers.after earlier))
        (holderOf system.server.config))
    {place : Place} {peer : Peer}
    (holds : holderOf system.server.config place = some peer)
    (stays : ¬ Closes peer event) :
    holderOf (step platform system event).1.server.config place =
      some peer := by
  by_cases connection :
      ∃ con peerAddress what, event = .connection con peerAddress what
  · rcases connection with ⟨con, peerAddress, what, rfl⟩
    rcases wellFormed con peerAddress what rfl with ⟨-, hasPort, -⟩
    rw [server_step_connection]
    cases found : slotFor system.server peerAddress with
    | none => rwa [connectionEventHandler_absent found]
    | some entry =>
        rcases entry with ⟨group, slot, isNew⟩
        rw [holderOf_connectionEventHandler hasPort found con what]
        apply Holding.kept (mayHold_of_findSlot holding hasPort found) holds
        intro isPeer
        rw [if_neg]
        rintro rfl
        exact stays ⟨con, peerAddress, rfl, isPeer.symm⟩
  · rw [(step_leavesSlots platform system event connection).holderOf, holds]

end Steps

/-! ## Capacity -/

/-- The positions of the slots for an IP in the first group that lists it. -/
def slotsOf (config : IEC104Config) (ip : String) : List Nat :=
  ((config.getRedundancyGroup ip).bind
      (config.redundancyGroups[·]?)).elim [] fun redGroup =>
    redGroup.connections.findIdxs fun connection =>
      connection.clientIp == ip

theorem nodup_slotsOf (config : IEC104Config) (ip : String) :
    (slotsOf config ip).Nodup := by
  rw [slotsOf]
  cases
    (config.getRedundancyGroup ip).bind (config.redundancyGroups[·]?) with
  | none => exact List.nodup_nil
  | some redGroup => exact List.nodup_findIdxs

theorem mem_slotsOf {config : IEC104Config} {ip : String} {group : Nat}
    (listed : config.getRedundancyGroup ip = some group) {slot : Nat}
    (member : slot ∈ slotsOf config ip) :
    ∃ connection,
      config.slot? group slot = some connection ∧
        connection.clientIp = ip := by
  rw [slotsOf, listed, Option.bind_some] at member
  cases present : config.redundancyGroups[group]? with
  | none => simp [present] at member
  | some redGroup =>
      rw [present, Option.elim_some,
        List.mem_findIdxs_iff_exists_getElem_pos] at member
      rcases member with ⟨within, clientIp⟩
      refine ⟨redGroup.connections[slot], ?_, by simpa using clientIp⟩
      simp [slot?, present, within]

/-- The slots for an IP depend on the layout only. -/
theorem length_slotsOf (config : IEC104Config) (ip : String) :
    (slotsOf config ip).length =
      ((config.getRedundancyGroup ip).bind (config.layout[·]?)).elim 0
        fun entry => entry.2.countP fun slot => slot.1 == ip := by
  rw [slotsOf]
  cases config.getRedundancyGroup ip with
  | none => rfl
  | some group =>
      rw [Option.bind_some, Option.bind_some, layout, List.getElem?_map]
      cases config.redundancyGroups[group]? with
      | none => rfl
      | some redGroup =>
          simp [List.countP_map, Function.comp_def]

/-- Every connected peer of the IP holds a slot. -/
def Placed (config : IEC104Config) (ip : String) (peers : Peers) : Prop :=
  ∀ port, (ip, port) ∈ peers.opened →
    ∃ place, holderOf config place = some (ip, port)

/-- At no time were there more peers of the IP than slots for it. -/
def HasRoom (config : IEC104Config) (ip : String) (events : List Event) :
    Prop :=
  ∀ earlier, earlier <+: events →
    ((Peers.after earlier).openFrom ip).length ≤ (slotsOf config ip).length

section Room

variable (platform : Platform) {system : System} {earlier : List Event}
  (holding :
    Holding (AllowedAt system.server.config (Peers.after earlier))
      (holderOf system.server.config))

include holding

/-- When fewer peers are connected than there are slots, one is free. -/
theorem findSlot_of_room {ip : String} {group : Nat}
    (listed : system.server.config.getRedundancyGroup ip = some group)
    (room :
      ((Peers.after earlier).openFrom ip).length <
        (slotsOf system.server.config ip).length)
    (port : String) : findSlot system.server.config ip port ≠ none := by
  intro missing
  have distinct :
      ((slotsOf system.server.config ip).map (Prod.mk group)).Nodup :=
    (nodup_slotsOf _ ip).map (Prod.mk_right_injective group)
  have inside :
      ∀ place ∈ (slotsOf system.server.config ip).map (Prod.mk group),
        ∀ peer, holderOf system.server.config place = some peer →
          peer ∈ (Peers.after earlier).openFrom ip := by
    intro place member peer holds
    rcases List.mem_map.mp member with ⟨slot, inSlots, rfl⟩
    rcases mem_slotsOf listed inSlots with ⟨connection, present, clientIp⟩
    rcases holderOf_eq_some_iff.mp holds with ⟨same, there, -, isPeer⟩
    rw [present, Option.some.injEq] at there
    apply List.mem_filter.mpr
    refine ⟨(holding.allowed holds).1, ?_⟩
    rw [← isPeer, ← there, clientIp]
    exact beq_self_eq_true ip
  rcases
      holding.exists_free distinct inside (by simpa using room) with
    ⟨place, member, free⟩
  rcases List.mem_map.mp member with ⟨slot, inSlots, rfl⟩
  rcases mem_slotsOf listed inSlots with ⟨connection, present, clientIp⟩
  have taken := (findSlot_eq_none missing listed present clientIp).2
  simp [holderOf, present, peerIn, taken] at free

/-- While there is room, every connected peer of a listed IP has a slot. -/
theorem step_placed {event : Event}
    (wellFormed : WellFormedEvent earlier event) {ip : String}
    {group : Nat}
    (listed : system.server.config.getRedundancyGroup ip = some group)
    (room :
      ((Peers.after (earlier ++ [event])).openFrom ip).length ≤
        (slotsOf system.server.config ip).length)
    (placed : Placed system.server.config ip (Peers.after earlier)) :
    Placed (step platform system event).1.server.config ip
      (Peers.after (earlier ++ [event])) := by
  intro port isOpen
  by_cases before : (ip, port) ∈ (Peers.after earlier).opened
  · rcases placed port before with ⟨place, holds⟩
    refine ⟨place, step_kept platform wellFormed holding holds ?_⟩
    rintro ⟨con, peerAddress, rfl, isPeer⟩
    simp [Peers.next, Peers.handle, isPeer] at isOpen
  -- The event opens the connection of this peer.
  by_cases connection :
      ∃ con peerAddress what, event = .connection con peerAddress what
  · rcases connection with ⟨con, peerAddress, what, rfl⟩
    rw [Peers.after_concat, Peers.next] at isOpen room
    have isPeer : (ip, port) = splitPeerAddress peerAddress := by
      by_contra other
      exact
        before
          (((Peers.after earlier).mem_opened_handle_iff _ what other).mp
            isOpen)
    rcases wellFormed con peerAddress what rfl with ⟨-, hasPort, opens⟩
    rw [← isPeer] at opens hasPort room
    rcases opens.mpr before with rfl
    have found :
        findSlot system.server.config ip port ≠ none := by
      apply findSlot_of_room holding listed
      rw [Peers.openFrom, Peers.handle, List.filter_append,
        List.length_append] at room
      simpa [Peers.openFrom, Nat.succ_le_iff] using room
    cases entry : slotFor system.server peerAddress with
    | none =>
        rw [slotFor, ← isPeer] at entry
        exact (found entry).elim
    | some place =>
        rcases place with ⟨first, slot, isNew⟩
        refine ⟨(first, slot), ?_⟩
        rw [server_step_connection,
          holderOf_connectionEventHandler (isPeer ▸ hasPort) entry con
            .opened, Function.update_self, isPeer]
        rfl
  · rw [Peers.after_concat, Peers.next_other _ connection] at isOpen
    exact (before isOpen).elim

end Room

/-! ## Runs -/

section Runs

variable (platform : Platform) {start : System}
  (fresh : Fresh start.server.config.redundancyGroups)

theorem layout_run (events : List Event) :
    ((machine platform).after start events).server.config.layout =
      start.server.config.layout :=
  (machine platform).invariant_after
    (fun system =>
      system.server.config.layout = start.server.config.layout)
    (fun system event kept =>
      (layout_step platform system event).trans kept)
    rfl events

theorem getRedundancyGroup_run (events : List Event) (ip : String) :
    ((machine platform).after start
        events).server.config.getRedundancyGroup ip =
      start.server.config.getRedundancyGroup ip := by
  rw [getRedundancyGroup_eq_layout, getRedundancyGroup_eq_layout,
    layout_run]

theorem length_slotsOf_run (events : List Event) (ip : String) :
    (slotsOf ((machine platform).after start events).server.config
        ip).length =
      (slotsOf start.server.config ip).length := by
  rw [length_slotsOf, length_slotsOf, getRedundancyGroup_run, layout_run]

include fresh

/-- Nobody holds a slot before the first event. -/
theorem holderOf_fresh (place : Place) :
    holderOf start.server.config place = none := by
  rw [holderOf, Option.bind_eq_none_iff]
  intro connection present
  rcases Option.bind_eq_some_iff.mp present with
    ⟨redGroup, there, inGroup⟩
  rw [peerIn, if_pos]
  exact
    fresh.free redGroup (List.mem_of_getElem? there) connection
      (List.mem_of_getElem? inGroup)

theorem holding_run {events : List Event}
    (wellFormed : EachStep WellFormedEvent events) :
    Holding
      (AllowedAt ((machine platform).after start events).server.config
        (Peers.after events))
      (holderOf ((machine platform).after start events).server.config) := by
  refine EachStep.induction ?_ ?_ wellFormed
  · constructor
    · intro place other peer holds
      simp [holderOf_fresh fresh] at holds
    · intro place peer holds
      simp [holderOf_fresh fresh] at holds
  · intro earlier event _ holding last
    rw [Machine.after_append]
    exact step_holding platform last holding

theorem kept_run {earlier later : List Event}
    (wellFormed : EachStep WellFormedEvent (earlier ++ later))
    {place : Place} {peer : Peer}
    (holds :
      holderOf ((machine platform).after start earlier).server.config place =
        some peer)
    (stays : ∀ event ∈ later, ¬ Closes peer event) :
    holderOf
        ((machine platform).after start (earlier ++ later)).server.config
        place =
      some peer := by
  induction later using List.reverseRecOn with
  | nil => simpa using holds
  | append_singleton later event ih =>
      rw [← List.append_assoc] at wellFormed ⊢
      rcases (eachStep_concat_iff _ _ _).mp wellFormed with ⟨before, last⟩
      have kept :=
        ih before fun other member => stays other (by simp [member])
      rw [Machine.after_append]
      exact
        step_kept platform last (holding_run platform fresh before) kept
          (stays event (by simp))

theorem placed_run {events : List Event}
    (wellFormed : EachStep WellFormedEvent events) {ip : String}
    {group : Nat}
    (listed : start.server.config.getRedundancyGroup ip = some group)
    (room : HasRoom start.server.config ip events) :
    Placed ((machine platform).after start events).server.config ip
      (Peers.after events) := by
  induction events using List.reverseRecOn with
  | nil =>
      intro port isOpen
      simp at isOpen
  | append_singleton events event ih =>
      rcases (eachStep_concat_iff _ _ _).mp wellFormed with ⟨before, last⟩
      have placed :=
        ih before fun earlier isPrefix =>
          room earlier (isPrefix.trans (List.prefix_append _ _))
      have enough := room (events ++ [event]) (List.prefix_refl _)
      rw [← length_slotsOf_run platform events ip] at enough
      rw [Machine.after_append]
      exact
        step_placed platform (holding_run platform fresh before) last
          ((getRedundancyGroup_run platform events ip).trans listed) enough
          placed

end Runs

/--
What holds of the slots after a list of events: nobody holds two slots of a
group, only connected peers hold slots, every connected peer of a listed IP
holds exactly one slot if there was always room, and it has held that slot
since it got it.
-/
structure SlotsHeld (platform : Platform) (start : System)
    (events : List Event) : Prop where
  once :
    ∀ {group slot other peer},
      holderOf ((machine platform).after start events).server.config
          (group, slot) =
        some peer →
      holderOf ((machine platform).after start events).server.config
          (group, other) =
        some peer →
      slot = other
  connected :
    ∀ {place peer},
      holderOf ((machine platform).after start events).server.config place =
        some peer →
      peer ∈ (Peers.after events).opened
  exactlyOne :
    ∀ {ip port group},
      start.server.config.getRedundancyGroup ip = some group →
      HasRoom start.server.config ip events →
      (ip, port) ∈ (Peers.after events).opened →
      ∃! slot,
        holderOf ((machine platform).after start events).server.config
            (group, slot) =
          some (ip, port)
  kept :
    ∀ {earlier later place peer},
      events = earlier ++ later →
      (∀ event ∈ later, ¬ Closes peer event) →
      holderOf ((machine platform).after start earlier).server.config
          place =
        some peer →
      holderOf ((machine platform).after start events).server.config place =
        some peer

/-- The run lemma: from free slots on, all are held as they should be. -/
theorem slotsHeld_of_fresh (platform : Platform) {start : System}
    (fresh : Fresh start.server.config.redundancyGroups)
    {events : List Event}
    (wellFormed : EachStep WellFormedEvent events) :
    SlotsHeld platform start events := by
  have holding := holding_run platform fresh wellFormed
  refine ⟨?_, ?_, ?_, ?_⟩
  · intro group slot other peer first second
    exact (Prod.mk.inj (holding.unique first second)).2
  · intro place peer holds
    exact (holding.allowed holds).1
  · intro ip port group listed room isOpen
    rcases placed_run platform fresh wellFormed listed room port isOpen with
      ⟨⟨first, slot⟩, holds⟩
    have inGroup := (holding.allowed holds).2
    rw [getRedundancyGroup_run, listed, Option.some.injEq] at inGroup
    dsimp only at inGroup
    subst inGroup
    refine ⟨slot, holds, ?_⟩
    intro other also
    exact (Prod.mk.inj (holding.unique also holds)).2
  · rintro earlier later place peer rfl stays holds
    exact kept_run platform fresh wellFormed holds stays

/-- The slots are held as they should be over every well-formed run. -/
theorem slotsHeld_run (platform : Platform) {start : System}
    (fresh : Fresh start.server.config.redundancyGroups)
    {events : List Event}
    (wellFormed : EachStep WellFormedEvent events) :
    SlotsHeld platform start events :=
  slotsHeld_of_fresh platform fresh wellFormed

/-- A system with one group of three slots, two of them for one IP. -/
def groupSystem : System where
  server :=
    { sampleServer with
      config :=
        { sampleServer.config with
          redundancyGroups :=
            [{ name := "red-group-1"
               index := 0
               connections :=
                 [{ clientIp := "10.0.0.1" }, { clientIp := "10.0.0.2" },
                  { clientIp := "10.0.0.1" }] }] } }

theorem fresh_groupSystem :
    Fresh groupSystem.server.config.redundancyGroups where
  index := by
    intro position redGroup present
    rcases List.getElem?_eq_some_iff.mp present with ⟨within, rfl⟩
    have first : position = 0 := Nat.lt_one_iff.mp within
    subst first
    rfl
  free := by decide

theorem slotsHeld_run_sample :
    SlotsHeld samplePlatform groupSystem
      [.connection 1 "10.0.0.1:49152" .opened,
       .connection 2 "10.0.0.1:49153" .opened,
       .connection 2 "10.0.0.1:49153" .activated,
       .connection 1 "10.0.0.1:49152" .closed] :=
  slotsHeld_run samplePlatform fresh_groupSystem (by decide)

/-- The groups of an imported configuration are held like this. -/
theorem slotsHeld_imported (platform : Platform) {start : System}
    {document : Option Json}
    (imported : start.server.config = importProtocolConfig {} document)
    {events : List Event}
    (wellFormed : EachStep WellFormedEvent events) :
    SlotsHeld platform start events := by
  apply slotsHeld_of_fresh platform _ wellFormed
  rw [imported]
  exact importProtocolConfig_fresh .nil document

end Iec104North.SlotRuns
