import Iec104North.SlotRuns

/-!
# Active slots

The flag `isActive` of a slot says that the connection in the slot is activated.
It is set and cleared by the activation events but not by the one that closes a
connection, so it is right as long as no connection that holds a slot is closed
while it is activated.
-/

namespace Iec104North.ActiveSlots

open Iec104North.Library
open Iec104North.Values
open Iec104North.Config
open Iec104North.Config.IEC104Config
open Iec104North.Server
open Iec104North.Connections
open Iec104North.ImportProtocol
open Iec104North.RedundancyImport
open Iec104North.LedgerRefinement
open Iec104North.Runs
open Iec104North.Slots
open Iec104North.SlotRuns

/-! ## One slot -/

/-- The slot is active when the connection in it is activated. -/
def IsRight (peers : Peers) (connection : RedGroupCon) : Prop :=
  connection.isActive = true ↔
    ∃ peer, peerIn connection = some peer ∧ peer ∈ peers.activated

section OneSlot

variable {peers : Peers} {connection : RedGroupCon} {peer : Peer}

theorem isRight_iff_of_free (free : peerIn connection = none) :
    IsRight peers connection ↔ connection.isActive = false := by
  simp [IsRight, free]

theorem isRight_iff_of_taken (taken : peerIn connection = some peer) :
    IsRight peers connection ↔
      (connection.isActive = true ↔ peer ∈ peers.activated) := by
  simp [IsRight, taken]

/-- An event of one peer leaves the slots of the others right or not. -/
theorem isRight_handle_iff (what : PeerConnectionEvent)
    (apart : peerIn connection ≠ some peer) :
    IsRight (peers.handle peer what) connection ↔
      IsRight peers connection := by
  cases taken : peerIn connection with
  | none => rw [isRight_iff_of_free taken, isRight_iff_of_free taken]
  | some other =>
      have isOther : other ≠ peer := by
        rintro rfl
        exact apart taken
      rw [isRight_iff_of_taken taken, isRight_iff_of_taken taken,
        peers.mem_activated_handle_iff peer what isOther]

/-- Opening and closing leave the flag, and need it cleared. -/
theorem isRight_slotChange_iff (taken : peerIn connection = some peer)
    (what : PeerConnectionEvent) :
    IsRight (peers.handle peer what) (slotChange what connection) ↔
      (what = .opened ∨ what = .closed → connection.isActive = false) := by
  by_cases closes : what = .closed
  · rw [closes, slotChange, isRight_iff_of_free rfl]
    simp
  · have still : peerIn (slotChange what connection) = some peer := by
      cases what with
      | closed => exact (closes rfl).elim
      | _ => exact taken
    rw [isRight_iff_of_taken still, peers.mem_activated_handle_self]
    cases what <;> simp [slotChange]

end OneSlot

/-! ## The slots of the server -/

/--
An active slot has a port, and the active slots are those whose connection is
activated.
-/
structure ActiveRight (peers : Peers) (config : IEC104Config) : Prop where
  port :
    ∀ {group slot connection},
      config.slot? group slot = some connection →
      connection.isActive = true →
      connection.port ≠ ""
  activated :
    ∀ {group slot connection},
      config.slot? group slot = some connection →
      (connection.isActive = true ↔
        ∃ peer, peerIn connection = some peer ∧ peer ∈ peers.activated)

theorem activeRight_iff_isRight {peers : Peers} {config : IEC104Config} :
    ActiveRight peers config ↔
      ∀ group slot connection,
        config.slot? group slot = some connection →
          IsRight peers connection := by
  constructor
  · intro right group slot connection present
    exact right.activated present
  · intro right
    refine ⟨?_, fun present => right _ _ _ present⟩
    intro group slot connection present isActive
    rcases (right group slot connection present).mp isActive with
      ⟨peer, holds, -⟩
    rw [peerIn] at holds
    split at holds
    · simp at holds
    · assumption

/--
The event does not close a connection which holds a slot and is activated.
-/
def DeactivatesFirst (peers : Peers) (config : IEC104Config)
    (event : Event) : Prop :=
  ∀ con peerAddress,
    event = .connection con peerAddress .closed →
    splitPeerAddress peerAddress ∈ peers.activated →
    ∀ place, holderOf config place ≠ some (splitPeerAddress peerAddress)

section Found

variable {server : IEC104Server} {peerAddress : String} {group slot : Nat}
  {isNew : Bool}
  (found : slotFor server peerAddress = some (group, slot, isNew))

include found

/-- The slot that is found gets the port, and no other. -/
theorem slot?_assignSlot :
    ∃ connection,
      server.config.slot? group slot = some connection ∧
        connection.clientIp = (splitPeerAddress peerAddress).1 ∧
        ∀ other position,
          (assignSlot server peerAddress
              (group, slot, isNew)).config.slot? other position =
            if other = group ∧ position = slot then
              some
                { connection with port := (splitPeerAddress peerAddress).2 }
            else
              server.config.slot? other position := by
  rcases findSlot_eq_some found with
    ⟨-, connection, present, clientIp, cases⟩
  refine ⟨connection, present, clientIp, ?_⟩
  intro other position
  rw [assignSlot]
  rcases cases with ⟨rfl, known⟩ | ⟨rfl, -⟩
  · rw [← known]
    split
    · contradiction
    · split
      · rename_i here
        rw [here.1, here.2, present]
      · rfl
  · rw [if_pos rfl, config_modifySlot, slot?_modifySlot]
    split
    · rename_i here
      rw [here.1, here.2, present]
      rfl
    · rfl

/-- The event changes the slot that is found and no other. -/
theorem slot?_connectionEventHandler (con : Connection)
    (what : PeerConnectionEvent) :
    ∃ connection,
      server.config.slot? group slot = some connection ∧
        connection.clientIp = (splitPeerAddress peerAddress).1 ∧
        ∀ other position,
          (connectionEventHandler server con peerAddress
              what).1.config.slot? other position =
            if other = group ∧ position = slot then
              some
                (slotChange what
                  { connection with
                    port := (splitPeerAddress peerAddress).2 })
            else
              server.config.slot? other position := by
  rcases slot?_assignSlot found with
    ⟨connection, present, clientIp, assigned⟩
  refine ⟨connection, present, clientIp, ?_⟩
  intro other position
  rw [connectionEventHandler_eq, found]
  dsimp only
  rw [config_handleSlotEvent]
  split
  · rename_i isOpened
    rw [assigned, isOpened]
    rfl
  · rw [slot?_modifySlot, assigned]
    split
    · rfl
    · rfl

end Found

section OneEvent

variable {config : IEC104Config} {peers : Peers}
  (right : ActiveRight peers config)

include right

/-- The flag of a slot that a peer may hold says if it does, activated. -/
theorem isActive_iff_holds {peer : Peer} {group slot : Nat}
    (may : MayHold (holderOf config) peer (group, slot))
    {connection : RedGroupCon}
    (present : config.slot? group slot = some connection) :
    connection.isActive = true ↔
      holderOf config (group, slot) = some peer ∧
        peer ∈ peers.activated := by
  have isRight :=
    activeRight_iff_isRight.mp right group slot connection present
  have holder : holderOf config (group, slot) = peerIn connection := by
    rw [holderOf, present]
    rfl
  rcases may with holds | ⟨free, -⟩
  · rw [holder] at holds ⊢
    rw [(isRight_iff_of_taken holds).mp isRight, holds]
    simp
  · rw [holder] at free ⊢
    rw [(isRight_iff_of_free free).mp isRight, free]
    simp

/-- The events of a peer that holds no slot leave the flags right. -/
theorem activeRight_absent {peer : Peer} (what : PeerConnectionEvent)
    (holdsNone : ∀ place, holderOf config place ≠ some peer) :
    ActiveRight (peers.handle peer what) config := by
  rw [activeRight_iff_isRight] at right ⊢
  intro group slot connection present
  apply (isRight_handle_iff what ?_).mpr
  · exact right group slot connection present
  · intro holds
    apply holdsNone (group, slot)
    rw [holderOf, present]
    exact holds

end OneEvent

section Steps

variable (platform : Platform) {system : System} {earlier : List Event}
  (holding :
    Holding (AllowedAt system.server.config (Peers.after earlier))
      (holderOf system.server.config))
  (right : ActiveRight (Peers.after earlier) system.server.config)

include holding right

/-- An event with a slot keeps the flags right if it leaves no stale one. -/
theorem activeRight_found_iff {peerAddress : String}
    (hasPort : (splitPeerAddress peerAddress).2 ≠ "") {group slot : Nat}
    {isNew : Bool}
    (found : slotFor system.server peerAddress = some (group, slot, isNew))
    (con : Connection) (what : PeerConnectionEvent) :
    ActiveRight
        ((Peers.after earlier).handle (splitPeerAddress peerAddress) what)
        (connectionEventHandler system.server con peerAddress
          what).1.config ↔
      (what = .opened ∨ what = .closed →
        splitPeerAddress peerAddress ∈ (Peers.after earlier).activated →
        holderOf system.server.config (group, slot) ≠
          some (splitPeerAddress peerAddress)) := by
  have may := mayHold_of_findSlot holding hasPort found
  rcases slot?_connectionEventHandler found con what with
    ⟨connection, present, clientIp, slots⟩
  have flag := isActive_iff_holds right may present
  have taken :
      peerIn
          { connection with port := (splitPeerAddress peerAddress).2 } =
        some (splitPeerAddress peerAddress) := by
    rw [peerIn, if_neg hasPort, clientIp]
  have here :=
    @isRight_slotChange_iff (Peers.after earlier) _ _ taken what
  constructor
  · intro after stale isActivated holds
    have isRight :=
      activeRight_iff_isRight.mp after group slot _
        (by rw [slots, if_pos ⟨rfl, rfl⟩])
    have cleared : connection.isActive = false := here.mp isRight stale
    simp [flag.mpr ⟨holds, isActivated⟩] at cleared
  · intro leaves
    rw [activeRight_iff_isRight]
    intro other position another there
    rw [slots] at there
    split at there
    · rcases Option.some.inj there with rfl
      apply here.mpr
      intro stale
      by_contra isActive
      rcases flag.mp (by simpa using isActive) with ⟨holds, isActivated⟩
      exact leaves stale isActivated holds
    · rename_i elsewhere
      apply (isRight_handle_iff what ?_).mpr
      · exact activeRight_iff_isRight.mp right other position another there
      · intro holds
        have held :
            holderOf system.server.config (other, position) =
              some (splitPeerAddress peerAddress) := by
          rw [holderOf, there]
          exact holds
        exact elsewhere (Prod.mk.inj (holding.eq_of_mayHold may held))

/-- An event keeps the flags right unless it closes an activated holder. -/
theorem step_activeRight_iff {event : Event}
    (wellFormed : WellFormedEvent earlier event) :
    ActiveRight (Peers.after (earlier ++ [event]))
        (step platform system event).1.server.config ↔
      DeactivatesFirst (Peers.after earlier) system.server.config event := by
  rw [Peers.after_concat]
  by_cases connection :
      ∃ con peerAddress what, event = .connection con peerAddress what
  · rcases connection with ⟨con, peerAddress, what, rfl⟩
    rcases wellFormed con peerAddress what rfl with ⟨-, hasPort, opens⟩
    rw [server_step_connection, Peers.next]
    cases found : slotFor system.server peerAddress with
    | none =>
        have holdsNone := holdsNone_of_findSlot holding found
        rw [connectionEventHandler_absent found]
        apply iff_of_true (activeRight_absent right what holdsNone)
        rintro _ _ ⟨⟩ - place
        exact holdsNone place
    | some entry =>
        rcases entry with ⟨group, slot, isNew⟩
        have may := mayHold_of_findSlot holding hasPort found
        rw [activeRight_found_iff holding right hasPort found con what]
        constructor
        · rintro leaves _ _ ⟨⟩ isActivated place holds
          rcases holding.eq_of_mayHold may holds with rfl
          exact leaves (.inr rfl) isActivated holds
        · rintro first (rfl | rfl) isActivated holds
          · exact opens.mp rfl (holding.allowed holds).1
          · exact first con peerAddress rfl isActivated (group, slot) holds
  · have groups :=
      (step_leavesSlots platform system event connection).groups
    rw [Peers.next_other _ connection]
    apply iff_of_true
    · rw [activeRight_iff_isRight] at right ⊢
      intro group slot another present
      rw [slot?, groups] at present
      exact right group slot another present
    · rintro con peerAddress rfl
      exact (connection ⟨con, peerAddress, .closed, rfl⟩).elim

end Steps

/-! ## Runs -/

/-- The flags are right before the first event. -/
theorem activeRight_inactive {config : IEC104Config}
    (fresh : Fresh config.redundancyGroups)
    (inactive : Inactive config.redundancyGroups) :
    ActiveRight {} config := by
  rw [activeRight_iff_isRight]
  intro group slot connection present
  rcases Option.bind_eq_some_iff.mp present with ⟨redGroup, there, inGroup⟩
  have member := List.mem_of_getElem? there
  have free : peerIn connection = none := by
    rw [peerIn, if_pos]
    exact fresh.free redGroup member connection (List.mem_of_getElem? inGroup)
  rw [isRight_iff_of_free free]
  exact inactive redGroup member connection (List.mem_of_getElem? inGroup)

/-- The run lemma: from free and inactive slots on. -/
theorem activeRight_iff_of_fresh (platform : Platform) {start : System}
    (fresh : Fresh start.server.config.redundancyGroups)
    (inactive : Inactive start.server.config.redundancyGroups)
    {events : List Event} (wellFormed : EachStep WellFormedEvent events) :
    (∀ earlier, earlier <+: events →
        ActiveRight (Peers.after earlier)
          ((machine platform).after start earlier).server.config) ↔
      EachStep
        (fun earlier event =>
          DeactivatesFirst (Peers.after earlier)
            ((machine platform).after start earlier).server.config event)
        events := by
  refine forall_prefix_iff_eachStep ?_ ?_ wellFormed
  · exact activeRight_inactive fresh inactive
  · intro earlier event each last right
    have holding := holding_run platform fresh each
    rw [Machine.after_append]
    exact step_activeRight_iff platform holding right last

/--
Over every well-formed run the active slots are those whose connection is
activated, exactly when no connection is closed while it holds a slot and is
activated.
-/
theorem activeRight_iff (platform : Platform) {start : System}
    (fresh : Fresh start.server.config.redundancyGroups)
    (inactive : Inactive start.server.config.redundancyGroups)
    {events : List Event} (wellFormed : EachStep WellFormedEvent events) :
    (∀ earlier, earlier <+: events →
        ActiveRight (Peers.after earlier)
          ((machine platform).after start earlier).server.config) ↔
      EachStep
        (fun earlier event =>
          DeactivatesFirst (Peers.after earlier)
            ((machine platform).after start earlier).server.config event)
        events :=
  activeRight_iff_of_fresh platform fresh inactive wellFormed

theorem inactive_groupSystem :
    Inactive groupSystem.server.config.redundancyGroups := by
  decide

/-- A connection that is deactivated first, and another one in its slot. -/
def deactivatedFirst : List Event :=
  [.connection 1 "10.0.0.2:49152" .opened,
   .connection 1 "10.0.0.2:49152" .activated,
   .connection 1 "10.0.0.2:49152" .deactivated,
   .connection 1 "10.0.0.2:49152" .closed,
   .connection 2 "10.0.0.2:49153" .opened]

theorem activeRight_iff_sample :
    (∀ earlier, earlier <+: deactivatedFirst →
        ActiveRight (Peers.after earlier)
          ((machine samplePlatform).after groupSystem
            earlier).server.config) ↔
      EachStep
        (fun earlier event =>
          DeactivatesFirst (Peers.after earlier)
            ((machine samplePlatform).after groupSystem
              earlier).server.config event)
        deactivatedFirst :=
  activeRight_iff samplePlatform fresh_groupSystem inactive_groupSystem
    (by decide)

/-- A connection that is closed while activated, and another one. -/
def closedActive : List Event :=
  [.connection 1 "10.0.0.2:49152" .opened,
   .connection 1 "10.0.0.2:49152" .activated,
   .connection 1 "10.0.0.2:49152" .closed,
   .connection 2 "10.0.0.2:49153" .opened]

/-- The slot stays active without a port, and for the next connection. -/
theorem closedActive_staysActive :
    Fresh groupSystem.server.config.redundancyGroups ∧
      Inactive groupSystem.server.config.redundancyGroups ∧
      EachStep WellFormedEvent closedActive ∧
      ∀ entry ∈ [(closedActive.take 3, ""), (closedActive, "49153")],
        (((machine samplePlatform).after groupSystem
              entry.1).server.config.slot? 0 1).map
            (fun connection => (connection.isActive, connection.port)) =
          some (true, entry.2) ∧
        ¬ ActiveRight (Peers.after entry.1)
          ((machine samplePlatform).after groupSystem
            entry.1).server.config := by
  refine ⟨fresh_groupSystem, inactive_groupSystem, by decide, ?_⟩
  simp only [List.forall_mem_cons]
  refine ⟨⟨rfl, ?_⟩, ⟨rfl, ?_⟩, by simp⟩
  · intro right
    exact @ActiveRight.port _ _ right 0 1 _ rfl rfl rfl
  · intro right
    rcases (@ActiveRight.activated _ _ right 0 1 _ rfl).mp rfl with
      ⟨peer, holds, isActivated⟩
    rcases Option.some.inj holds with rfl
    revert isActivated
    decide

/-- The same holds of the groups of an imported configuration. -/
theorem activeRight_imported_iff (platform : Platform) {start : System}
    {document : Option Json}
    (imported : start.server.config = importProtocolConfig {} document)
    {events : List Event} (wellFormed : EachStep WellFormedEvent events) :
    (∀ earlier, earlier <+: events →
        ActiveRight (Peers.after earlier)
          ((machine platform).after start earlier).server.config) ↔
      EachStep
        (fun earlier event =>
          DeactivatesFirst (Peers.after earlier)
            ((machine platform).after start earlier).server.config event)
        events := by
  apply activeRight_iff_of_fresh platform _ _ wellFormed
  · rw [imported]
    exact importProtocolConfig_fresh .nil document
  · rw [imported]
    exact importProtocolConfig_inactive (by simp [Inactive]) document

end Iec104North.ActiveSlots
