import Iec104North.Library.Holding
import Iec104North.RedundancyImport
import Iec104North.TableReads

/-!
# Slots and the connections that hold them

Each slot of a redundancy group is a place which at most one open connection
holds.  A connection gets a free slot of the first group that lists its IP with
its first event that finds one, keeps it, and gives it back when it is closed.
-/

namespace Iec104North.Slots

open Iec104North.Library
open Iec104North.AsduTypes
open Iec104North.Values
open Iec104North.Config
open Iec104North.Config.IEC104Config
open Iec104North.Server
open Iec104North.Server.IEC104Server
open Iec104North.OutstandingCommands
open Iec104North.Commands
open Iec104North.CommandPaths
open Iec104North.Readings
open Iec104North.Interrogation
open Iec104North.Connections
open Iec104North.LedgerRefinement
open Iec104North.Runs
open Iec104North.TableReads

/-! ## Peers -/

/-- A peer, by its IP and port. -/
abbrev Peer := String × String

/--
The peers that are connected, and those of them whose last activation or
deactivation was an activation.
-/
structure Peers where
  opened : List Peer := []
  activated : List Peer := []

instance (peers : Peers) (peer : Peer) :
    Decidable (peer ∈ peers.activated) :=
  inferInstance

/-- A list without one peer. -/
def without (peer : Peer) (peers : List Peer) : List Peer :=
  peers.filter fun other => other != peer

@[simp]
theorem mem_without_iff {peer other : Peer} {peers : List Peer} :
    other ∈ without peer peers ↔ other ∈ peers ∧ other ≠ peer := by
  simp [without]

namespace Peers

/-- The peers after an event of one of them. -/
def handle (peers : Peers) (peer : Peer) : PeerConnectionEvent → Peers
  | .opened => ⟨peers.opened ++ [peer], without peer peers.activated⟩
  | .closed => ⟨without peer peers.opened, without peer peers.activated⟩
  | .activated => ⟨peers.opened, peer :: without peer peers.activated⟩
  | .deactivated => ⟨peers.opened, without peer peers.activated⟩

/-- The connected peers of an IP. -/
def openFrom (ip : String) (peers : Peers) : List Peer :=
  peers.opened.filter fun peer => peer.1 == ip

/-- The peers after an event of the server. -/
def next (peers : Peers) : Event → Peers
  | .connection _ peerAddress what =>
      peers.handle (splitPeerAddress peerAddress) what
  | _ => peers

theorem next_other (peers : Peers) {event : Event}
    (other :
      ¬ ∃ con peerAddress what, event = .connection con peerAddress what) :
    peers.next event = peers := by
  cases event with
  | connection con peerAddress what =>
      exact (other ⟨con, peerAddress, what, rfl⟩).elim
  | _ => rfl

/-- The peers after a list of events. -/
def after (events : List Event) : Peers :=
  events.foldl next {}

@[simp]
theorem after_nil : after [] = {} :=
  rfl

@[simp]
theorem after_concat (events : List Event) (event : Event) :
    after (events ++ [event]) = (after events).next event := by
  simp [after]

/-- The events of one peer leave the others connected. -/
theorem mem_opened_handle_iff (peers : Peers) (peer : Peer)
    (what : PeerConnectionEvent) {other : Peer} (apart : other ≠ peer) :
    other ∈ (peers.handle peer what).opened ↔ other ∈ peers.opened := by
  cases what <;> simp [handle, apart]

/-- They leave the others activated or not. -/
theorem mem_activated_handle_iff (peers : Peers) (peer : Peer)
    (what : PeerConnectionEvent) {other : Peer} (apart : other ≠ peer) :
    other ∈ (peers.handle peer what).activated ↔
      other ∈ peers.activated := by
  cases what <;> simp [handle, apart]

/-- A peer is activated by the event `activated` only. -/
theorem mem_activated_handle_self (peers : Peers) (peer : Peer)
    {what : PeerConnectionEvent} :
    peer ∈ (peers.handle peer what).activated ↔ what = .activated := by
  cases what <;> simp [handle]

end Peers

/--
A connection event is well-formed when the peer has an IP and a port, and is
connected, unless the event is the one that opens the connection.
-/
def WellFormedEvent (earlier : List Event) (event : Event) : Prop :=
  ∀ con peerAddress what,
    event = .connection con peerAddress what →
      (splitPeerAddress peerAddress).1 ≠ "" ∧
        (splitPeerAddress peerAddress).2 ≠ "" ∧
        (what = .opened ↔
          splitPeerAddress peerAddress ∉ (Peers.after earlier).opened)

theorem wellFormedEvent_connection_iff {earlier : List Event}
    {con : Connection} {peerAddress : String}
    {what : PeerConnectionEvent} :
    WellFormedEvent earlier (.connection con peerAddress what) ↔
      (splitPeerAddress peerAddress).1 ≠ "" ∧
        (splitPeerAddress peerAddress).2 ≠ "" ∧
        (what = .opened ↔
          splitPeerAddress peerAddress ∉ (Peers.after earlier).opened) := by
  constructor
  · exact fun wellFormed => wellFormed con peerAddress what rfl
  · rintro wellFormed _ _ _ ⟨⟩
    exact wellFormed

instance (earlier : List Event) :
    ∀ event, Decidable (WellFormedEvent earlier event)
  | .connection _ _ _ =>
      decidable_of_iff _ wellFormedEvent_connection_iff.symm
  | .command _ _ _ _ => isTrue nofun
  | .operationReturned _ _ => isTrue nofun
  | .datapoint _ _ _ => isTrue nofun
  | .interrogation _ _ _ => isTrue nofun
  | .scanTimeouts _ => isTrue nofun
  | .slaveRunning _ => isTrue nofun
  | .registerControl => isTrue nofun

/-! ## Events that are no connection events -/

/-- The audits an effect raises. -/
def auditOf : Effect → Option String
  | .audit _ message => some message
  | _ => none

/-- The messages of the audits, in order. -/
def auditLog (effects : List Effect) : List String :=
  effects.filterMap auditOf

@[simp]
theorem auditLog_nil : auditLog [] = [] :=
  rfl

@[simp]
theorem auditLog_append (first second : List Effect) :
    auditLog (first ++ second) = auditLog first ++ auditLog second :=
  List.filterMap_append

/-- What connection events alone may change. -/
structure LeavesSlots (before after : IEC104Server)
    (effects : List Effect) : Prop where
  groups : after.config.redundancyGroups = before.config.redundancyGroups
  serviceName : after.serviceName = before.serviceName
  lastConnectionAudit :
    after.lastConnectionAudit = before.lastConnectionAudit
  lastGlobalAudit : after.lastGlobalAudit = before.lastGlobalAudit
  silent : auditLog effects = []

section OtherEvents

variable (platform : Platform)

theorem LeavesSlots.refl (server : IEC104Server) :
    LeavesSlots server server [] :=
  ⟨rfl, rfl, rfl, rfl, rfl⟩

theorem handleFeedback_leavesSlots (server : IEC104Server)
    (feedback : CommandLedger.Feedback) :
    LeavesSlots server (handleFeedback server feedback).1
      (handleFeedback server feedback).2 := by
  rcases feedback with ⟨kind, type, ca, ioa, isNegative⟩
  cases kind with
  | actCon =>
      refine ⟨rfl, rfl, rfl, rfl, ?_⟩
      simp only [handleFeedback, handleActCon]
      split
      · simp [auditLog, auditOf]
      · rfl
  | actTerm =>
      refine ⟨rfl, rfl, rfl, rfl, ?_⟩
      simp only [handleFeedback, handleActTerm]
      split
      · simp [auditLog, auditOf]
      · rfl

theorem auditLog_enqueuedFor (server : IEC104Server) (object : DataObject)
    (now : Nat) :
    auditLog (enqueuedFor platform server object now) = [] := by
  simp only [enqueuedFor]
  split
  · rfl
  split
  · rfl
  split
  · simp only [enqueueSpontDatapoint]
    split <;> rfl
  · rfl

theorem datapoint_leavesSlots (system : System) (assetName : String)
    (dp : Datapoint) (now : Nat) :
    let stepped := step platform system (.datapoint assetName dp now)
    LeavesSlots system.server stepped.1.server stepped.2 := by
  cases reads : readObject platform system.server dp with
  | some object =>
      rw [step_datapoint_read platform system assetName now reads]
      exact
        ⟨rfl, rfl, rfl, rfl,
          auditLog_enqueuedFor platform system.server object now⟩
  | none =>
      simp only [step]
      split
      · exact .refl system.server
      rename_i server effects sent
      by_cases running :
          dp.name = "data_object" ∧ system.server.slaveRunning = true
      · rw [sendDatapoint_object platform system.server assetName now
          running.1 running.2] at sent
        cases stands : objectFeedback (readDataObject platform dp) with
        | some feedback =>
            rw [handleDataObject_feedback platform system.server now
              stands] at sent
            rcases Prod.mk.inj (Except.ok.inj sent) with ⟨rfl, rfl⟩
            exact handleFeedback_leavesSlots system.server feedback
        | none =>
            have incomplete :
                isComplete (readDataObject platform dp) = false := by
              simpa [readObject, running, stands] using reads
            rw [handleDataObject_incomplete platform system.server now stands
              incomplete] at sent
            rcases Prod.mk.inj (Except.ok.inj sent) with ⟨rfl, rfl⟩
            exact .refl system.server
      · rw [sendDatapoint] at sent
        split at sent
        · rcases Prod.mk.inj (Except.ok.inj sent) with ⟨rfl, rfl⟩
          exact ⟨rfl, rfl, rfl, rfl, rfl⟩
        split at sent
        · rename_i isObject
          have stopped : ¬ system.server.slaveRunning = true :=
            fun runs => running ⟨by simpa using isObject, runs⟩
          rw [if_neg stopped] at sent
          rcases Prod.mk.inj (Except.ok.inj sent) with ⟨rfl, rfl⟩
          exact .refl system.server
        · rcases Prod.mk.inj (Except.ok.inj sent) with ⟨rfl, rfl⟩
          exact .refl system.server

theorem auditLog_response (server : IEC104Server)
    (connection : Connection) (asdu : Asdu) (ca : Int) (qoi : Nat) :
    auditLog
        (sendInterrogationResponse platform server connection asdu ca
          qoi).2 = [] := by
  apply List.filterMap_eq_nil_iff.mpr
  intro effect member
  simp only [sendInterrogationResponse, List.mem_append, List.mem_map,
    List.mem_singleton] at member
  rcases member with (rfl | ⟨newAsdu, -, rfl⟩) | rfl <;> rfl

theorem auditLog_respondEach (server : IEC104Server)
    (connection : Connection) (asdu : Asdu) (qoi : Nat)
    (addresses : List Int) :
    auditLog (respondEach platform connection asdu qoi server addresses).2 =
      [] := by
  induction addresses generalizing server with
  | nil => rfl
  | cons ca rest ih =>
      rw [respondEach, auditLog_append, auditLog_response, ih]
      rfl

theorem interrogation_leavesSlots (server : IEC104Server)
    (connection : Connection) (asdu : Asdu) (qoi : Nat) :
    let handled := interrogationHandler platform server connection asdu qoi
    LeavesSlots server handled.1 handled.2 := by
  have silent :
      auditLog
          (interrogationHandler platform server connection asdu qoi).2 =
        [] := by
    simp only [interrogationHandler]
    split
    · rfl
    split
    · exact auditLog_respondEach platform server connection asdu qoi _
    split
    · exact auditLog_response platform server connection asdu asdu.ca qoi
    · rfl
  rcases
      interrogationHandler_sameEntries platform connection asdu qoi
        server with
    ⟨table, -, left⟩
  dsimp only
  rw [left]
  exact ⟨rfl, rfl, rfl, rfl, silent⟩

theorem command_leavesSlots (server : IEC104Server)
    (connection : Connection) (asdu : Asdu) (checkTime rcvdTime : Nat) :
    let entered :=
      enterAsduHandler platform server connection asdu checkTime rcvdTime
    LeavesSlots server entered.server entered.effects := by
  rcases
      enterAsduHandler_cases platform server connection asdu checkTime
        rcvdTime with
    ⟨io, parameters, isSelect, -, -, entered⟩ | ⟨cot, -, -, entered⟩ |
      ⟨-, -, entered⟩
  · rw [entered]
    refine ⟨rfl, rfl, rfl, rfl, ?_⟩
    dsimp only
    split <;> rfl
  · rw [entered]
    dsimp only
    split <;> exact ⟨rfl, rfl, rfl, rfl, rfl⟩
  · rw [entered]
    exact ⟨rfl, rfl, rfl, rfl, rfl⟩

/-- No other event touches the slots or raises an audit. -/
theorem step_leavesSlots (system : System) (event : Event)
    (other :
      ¬ ∃ con peerAddress what, event = .connection con peerAddress what) :
    let stepped := step platform system event
    LeavesSlots system.server stepped.1.server stepped.2 := by
  cases event with
  | command connection asdu checkTime rcvdTime =>
      exact
        command_leavesSlots platform system.server connection asdu checkTime
          rcvdTime
  | operationReturned address result =>
      simp only [step]
      split
      · exact .refl system.server
      · refine ⟨rfl, rfl, rfl, rfl, ?_⟩
        simp only [operationReturned]
        split <;> rfl
  | datapoint assetName dp now =>
      exact datapoint_leavesSlots platform system assetName dp now
  | interrogation connection asdu qoi =>
      exact
        interrogation_leavesSlots platform system.server connection asdu qoi
  | scanTimeouts currentTime => exact ⟨rfl, rfl, rfl, rfl, rfl⟩
  | connection con peerAddress what =>
      exact (other ⟨con, peerAddress, what, rfl⟩).elim
  | slaveRunning running => exact ⟨rfl, rfl, rfl, rfl, rfl⟩
  | registerControl => exact ⟨rfl, rfl, rfl, rfl, rfl⟩

end OtherEvents

/-! ## Places -/

/-- The place of a slot: its group and its position there. -/
abbrev Place := Nat × Nat

/-- The peer in a slot; the slot is free while its port is empty. -/
def peerIn (connection : RedGroupCon) : Option Peer :=
  if connection.port = "" then
    none
  else
    some (connection.clientIp, connection.port)

/-- The peer which holds the slot at a place. -/
def holderOf (config : IEC104Config) (place : Place) : Option Peer :=
  (config.slot? place.1 place.2).bind peerIn

/-- A connected peer may hold slots of the first group that lists its IP. -/
def AllowedAt (config : IEC104Config) (peers : Peers) (peer : Peer)
    (place : Place) : Prop :=
  peer ∈ peers.opened ∧ config.getRedundancyGroup peer.1 = some place.1

theorem LeavesSlots.holderOf {before after : IEC104Server}
    {effects : List Effect} (leaves : LeavesSlots before after effects) :
    holderOf after.config = holderOf before.config := by
  funext place
  rw [Slots.holderOf, Slots.holderOf, slot?, slot?, leaves.groups]

theorem holderOf_eq_some_iff {config : IEC104Config} {place : Place}
    {peer : Peer} :
    holderOf config place = some peer ↔
      ∃ connection,
        config.slot? place.1 place.2 = some connection ∧
          connection.port ≠ "" ∧
          (connection.clientIp, connection.port) = peer := by
  simp only [holderOf, Option.bind_eq_some_iff, peerIn]
  constructor
  · rintro ⟨connection, present, holds⟩
    split at holds
    · simp at holds
    · rename_i taken
      exact ⟨connection, present, taken, Option.some.inj holds⟩
  · rintro ⟨connection, present, taken, holds⟩
    exact ⟨connection, present, by rw [if_neg taken, holds]⟩

section Finding

variable {config : IEC104Config} {ip port : String}

theorem getRedGroupCon_eq_some {group : RedGroup} {slot : Nat}
    (found : getRedGroupCon group ip port = some slot) :
    ∃ connection,
      group.connections[slot]? = some connection ∧
        connection.clientIp = ip ∧ connection.port = port := by
  rw [getRedGroupCon, List.findIdx?_eq_some_iff_getElem] at found
  rcases found with ⟨within, fits, -⟩
  rw [Bool.and_eq_true, beq_iff_eq, beq_iff_eq] at fits
  exact
    ⟨group.connections[slot], List.getElem?_eq_getElem within, fits.1,
      fits.2⟩

theorem getRedGroupCon_eq_none {group : RedGroup}
    (missing : getRedGroupCon group ip port = none)
    {slot : Nat} {connection : RedGroupCon}
    (present : group.connections[slot]? = some connection)
    (listed : connection.clientIp = ip) : connection.port ≠ port := by
  rw [getRedGroupCon, List.findIdx?_eq_none_iff] at missing
  intro same
  simpa [listed, same] using
    missing connection (List.mem_of_getElem? present)

/--
The slot that is found is in the first group that lists the IP, and has the
port, or is free when no slot there has the port.
-/
theorem findSlot_eq_some {group slot : Nat} {isNew : Bool}
    (found : findSlot config ip port = some (group, slot, isNew)) :
    config.getRedundancyGroup ip = some group ∧
      ∃ connection,
        config.slot? group slot = some connection ∧
          connection.clientIp = ip ∧
          ((isNew = false ∧ connection.port = port) ∨
            (isNew = true ∧ connection.port = "" ∧
              ∀ other another, config.slot? group other = some another →
                another.clientIp = ip → another.port ≠ port)) := by
  simp only [findSlot] at found
  split at found
  · simp at found
  rename_i first listed
  split at found
  · simp at found
  rename_i redGroup present
  have slots :
      ∀ position, config.slot? first position =
        redGroup.connections[position]? := by
    intro position
    simp [slot?, present]
  split at found
  · rename_i position known
    simp only [Option.some.injEq, Prod.mk.injEq] at found
    rcases found with ⟨rfl, rfl, rfl⟩
    rcases getRedGroupCon_eq_some known with
      ⟨connection, there, clientIp, samePort⟩
    refine ⟨listed, connection, ?_, clientIp, Or.inl ⟨rfl, samePort⟩⟩
    rw [slots, there]
  rename_i unknown
  split at found
  · rename_i position free
    simp only [Option.some.injEq, Prod.mk.injEq] at found
    rcases found with ⟨rfl, rfl, rfl⟩
    rcases getRedGroupCon_eq_some free with
      ⟨connection, there, clientIp, noPort⟩
    refine
      ⟨listed, connection, by rw [slots, there], clientIp,
        Or.inr ⟨rfl, noPort, ?_⟩⟩
    intro other another at' sameIp
    rw [slots] at at'
    exact getRedGroupCon_eq_none unknown at' sameIp
  · simp at found

/-- Without a slot, all slots of the IP are taken, and by other ports. -/
theorem findSlot_eq_none (missing : findSlot config ip port = none)
    {group : Nat} (listed : config.getRedundancyGroup ip = some group)
    {slot : Nat} {connection : RedGroupCon}
    (present : config.slot? group slot = some connection)
    (clientIp : connection.clientIp = ip) :
    connection.port ≠ port ∧ connection.port ≠ "" := by
  rcases Option.bind_eq_some_iff.mp present with ⟨redGroup, there, inGroup⟩
  simp only [findSlot, listed, there] at missing
  split at missing
  · simp at missing
  rename_i unknown
  split at missing
  · simp at missing
  rename_i full
  exact
    ⟨getRedGroupCon_eq_none unknown inGroup clientIp,
      getRedGroupCon_eq_none full inGroup clientIp⟩

variable {peers : Peers}
  (holding : Holding (AllowedAt config peers) (holderOf config))

include holding

/-- The peer of an event may hold the slot that is found for it. -/
theorem mayHold_of_findSlot (hasPort : port ≠ "") {group slot : Nat}
    {isNew : Bool}
    (found : findSlot config ip port = some (group, slot, isNew)) :
    MayHold (holderOf config) (ip, port) (group, slot) := by
  rcases findSlot_eq_some found with
    ⟨listed, connection, present, rfl, known | ⟨-, free, unknown⟩⟩
  · left
    rw [holderOf_eq_some_iff]
    exact
      ⟨connection, present, by rw [known.2]; exact hasPort, by rw [known.2]⟩
  · right
    constructor
    · simp [holderOf, present, peerIn, free]
    · intro other holds
      have inGroup := (holding.allowed holds).2
      rcases holderOf_eq_some_iff.mp holds with
        ⟨another, there, -, same⟩
      rcases Prod.mk.inj same with ⟨sameIp, samePort⟩
      rw [listed, Option.some.injEq] at inGroup
      rw [← inGroup] at there
      exact unknown other.2 another there sameIp samePort

/-- A peer for which no slot is found holds none. -/
theorem holdsNone_of_findSlot (missing : findSlot config ip port = none)
    (place : Place) : holderOf config place ≠ some (ip, port) := by
  intro holds
  have inGroup := (holding.allowed holds).2
  rcases holderOf_eq_some_iff.mp holds with ⟨connection, there, -, same⟩
  rcases Prod.mk.inj same with ⟨sameIp, samePort⟩
  exact (findSlot_eq_none missing inGroup there sameIp).1 samePort

end Finding

/-! ## What an event does to its slot -/

/-- The change of the slot by an event of its peer. -/
def slotChange : PeerConnectionEvent → RedGroupCon → RedGroupCon
  | .opened, connection => connection
  | .closed, connection => { connection with port := "" }
  | .activated, connection => { connection with isActive := true }
  | .deactivated, connection => { connection with isActive := false }

@[simp]
theorem config_sendConnectionStatusAudit (server : IEC104Server)
    (auditType index letter : String) :
    (sendConnectionStatusAudit server auditType index letter).1.config =
      server.config := by
  simp only [sendConnectionStatusAudit]
  split <;> rfl

@[simp]
theorem config_sendGlobalStatusAudit (server : IEC104Server)
    (auditType : String) :
    (sendGlobalStatusAudit server auditType).1.config = server.config := by
  simp only [sendGlobalStatusAudit]
  split <;> rfl

@[simp]
theorem config_modifySlot (server : IEC104Server) (group slot : Nat)
    (change : RedGroupCon → RedGroupCon) :
    (Connections.modifySlot server group slot change).config =
      server.config.modifySlot group slot change :=
  rfl

@[simp]
theorem config_removeOutstandingCommands (server : IEC104Server)
    (con : Connection) :
    (removeOutstandingCommands server con).config = server.config :=
  rfl

theorem config_handleSlotEvent (server : IEC104Server) (group slot : Nat)
    (con : Connection) (what : PeerConnectionEvent) :
    (handleSlotEvent server group slot con what).1.config =
      if what = .opened then
        server.config
      else
        server.config.modifySlot group slot (slotChange what) := by
  cases what with
  | opened => simp [handleSlotEvent]
  | closed =>
      simp only [handleSlotEvent]
      split
      · simp only [config_removeOutstandingCommands, config_modifySlot,
          config_sendConnectionStatusAudit]
        rfl
      · simp only [config_sendGlobalStatusAudit,
          config_removeOutstandingCommands, config_modifySlot,
          config_sendConnectionStatusAudit]
        rfl
  | activated =>
      simp only [handleSlotEvent, config_modifySlot,
        config_sendGlobalStatusAudit, config_sendConnectionStatusAudit]
      rfl
  | deactivated =>
      simp only [handleSlotEvent, config_modifySlot,
        config_removeOutstandingCommands, config_sendConnectionStatusAudit]
      rfl

/-- The holder of a place after its slot has been changed. -/
theorem holderOf_modifySlot (config : IEC104Config) (group slot : Nat)
    (change : RedGroupCon → RedGroupCon) :
    holderOf (config.modifySlot group slot change) =
      Function.update (holderOf config) (group, slot)
        (((config.slot? group slot).map change).bind peerIn) := by
  funext place
  rw [holderOf, slot?_modifySlot]
  by_cases here : place = (group, slot)
  · subst here
    simp
  · rw [Function.update_of_ne here, if_neg]
    · rfl
    · rintro ⟨sameGroup, sameSlot⟩
      exact here (Prod.ext sameGroup sameSlot)

theorem layout_handleSlotEvent (server : IEC104Server) (group slot : Nat)
    (con : Connection) (what : PeerConnectionEvent) :
    (handleSlotEvent server group slot con what).1.config.layout =
      server.config.layout := by
  rw [config_handleSlotEvent]
  split
  · rfl
  · apply layout_modifySlot
    · intro connection
      cases what <;> rfl
    · intro connection
      cases what <;> rfl

theorem layout_assignSlot (server : IEC104Server) (peerAddress : String)
    (place : Nat × Nat × Bool) :
    (assignSlot server peerAddress place).config.layout =
      server.config.layout := by
  rw [assignSlot]
  split
  · exact
      layout_modifySlot server.config place.1 place.2.1 (fun _ => rfl)
        fun _ => rfl
  · rfl

theorem layout_connectionEventHandler (server : IEC104Server)
    (con : Connection) (peerAddress : String)
    (what : PeerConnectionEvent) :
    (connectionEventHandler server con peerAddress what).1.config.layout =
      server.config.layout := by
  rw [connectionEventHandler_eq]
  split
  · rfl
  · rw [layout_handleSlotEvent, layout_assignSlot]

/-- No event of the server changes the layout. -/
theorem layout_step (platform : Platform) (system : System)
    (event : Event) :
    (step platform system event).1.server.config.layout =
      system.server.config.layout := by
  by_cases connection :
      ∃ con peerAddress what, event = .connection con peerAddress what
  · rcases connection with ⟨con, peerAddress, what, rfl⟩
    exact layout_connectionEventHandler system.server con peerAddress what
  · rw [layout, layout,
      (step_leavesSlots platform system event connection).groups]

section Found

variable {server : IEC104Server} {peerAddress : String} {group slot : Nat}
  {isNew : Bool}
  (hasPort : (splitPeerAddress peerAddress).2 ≠ "")
  (found : slotFor server peerAddress = some (group, slot, isNew))

include hasPort found

/-- The slot that is found has the IP and, once assigned, the port. -/
theorem assignSlot_slot? :
    ∃ connection,
      (assignSlot server peerAddress (group, slot, isNew)).config.slot? group
            slot =
          some connection ∧
        peerIn connection = some (splitPeerAddress peerAddress) := by
  rcases findSlot_eq_some found with
    ⟨-, connection, present, clientIp, known | ⟨new, free, -⟩⟩
  · refine ⟨connection, ?_, ?_⟩
    · rw [assignSlot, known.1]
      exact present
    · rw [peerIn, known.2, clientIp, if_neg hasPort]
  · refine
      ⟨{ connection with port := (splitPeerAddress peerAddress).2 }, ?_, ?_⟩
    · rw [assignSlot, new]
      simp [slot?_modifySlot, present]
    · simp only [peerIn, clientIp]
      rw [if_neg hasPort]

theorem holderOf_assignSlot :
    holderOf
        (assignSlot server peerAddress (group, slot, isNew)).config =
      Function.update (holderOf server.config) (group, slot)
        (some (splitPeerAddress peerAddress)) := by
  rcases assignSlot_slot? hasPort found with ⟨connection, present, holds⟩
  funext place
  by_cases here : place = (group, slot)
  · rw [here, Function.update_self, holderOf, present]
    exact holds
  · rw [Function.update_of_ne here, assignSlot]
    split
    · rw [config_modifySlot, holderOf_modifySlot,
        Function.update_of_ne here]
    · rfl

/-- The peer holds the slot that is found for it, unless it is closed. -/
theorem holderOf_connectionEventHandler (con : Connection)
    (what : PeerConnectionEvent) :
    holderOf
        (connectionEventHandler server con peerAddress what).1.config =
      Function.update (holderOf server.config) (group, slot)
        (if what = .closed then
          none
        else
          some (splitPeerAddress peerAddress)) := by
  rcases assignSlot_slot? hasPort found with ⟨connection, present, holds⟩
  have changed :
      peerIn (slotChange what connection) =
        if what = .closed then
          none
        else
          some (splitPeerAddress peerAddress) := by
    cases what with
    | closed => rfl
    | _ => exact holds
  rw [connectionEventHandler_eq, found]
  dsimp only
  rw [config_handleSlotEvent]
  split
  · rename_i isOpened
    rw [holderOf_assignSlot hasPort found, isOpened]
    rfl
  · rw [holderOf_modifySlot, holderOf_assignSlot hasPort found,
      Function.update_idem, present, ← changed]
    rfl

end Found

end Iec104North.Slots
