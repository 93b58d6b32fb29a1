import Iec104North.Audits

/-!
# The audit trail of a run

The trail begins with the audits of `sendInitialAudits`.  This module gives the
start, what one event does to the slots and to the audits, and what is known of
the trail after every run.
-/

namespace Iec104North.AuditTrail

open Iec104North.Library
open Iec104North.Values
open Iec104North.Config
open Iec104North.Config.IEC104Config
open Iec104North.Server
open Iec104North.Server.IEC104Server
open Iec104North.Connections
open Iec104North.RedundancyImport
open Iec104North.LedgerRefinement
open Iec104North.Runs
open Iec104North.Slots
open Iec104North.SlotRuns
open Iec104North.Audits

/-- The system when the slave has been started. -/
def started (server : IEC104Server) : System where
  server := (sendInitialAudits server).server

/-- The messages of the audits from `sendInitialAudits` on. -/
def auditTrail (platform : Platform) (server : IEC104Server)
    (events : List Event) : List String :=
  auditLog
    ((sendInitialAudits server).effects ++
      (machine platform).outputs (started server) events)

/-! ## The start -/

section Start

variable (platform : Platform) {server : IEC104Server} (new : New server)

theorem remembers_nil (service : String) (place : Place) :
    Remembers (auditTypeFor service (labelAt place)) "" [] := by
  intro status stated
  simp [auditTypeFor, toList_auditStart] at stated

theorem sendInitialAudits_eq (server : IEC104Server) :
    let messages :=
      (initialAudits (letteredConfig server)).map
        (messageOf server.serviceName)
    (sendInitialAudits server).server =
        { server with
          config := letteredConfig server
          lastConnectionAudit :=
            messages.getLastD server.lastConnectionAudit
          lastGlobalAudit := "disconnected" } ∧
      auditLog (sendInitialAudits server).effects =
        withoutRepeats server.lastConnectionAudit messages ++
          (unlessSame server.lastGlobalAudit "disconnected").map
            (globalMessage server.serviceName) := by
  intro messages
  rcases
      sendConnectionStatusAudits_raises
        { server with config := letteredConfig server }
        (initialAudits (letteredConfig server)) with
    ⟨left, raised⟩
  rcases
      sendGlobalStatusAudit_raises
        (sendConnectionStatusAudits
          { server with config := letteredConfig server }
          (initialAudits (letteredConfig server))).1
        "disconnected" with
    ⟨globalLeft, globalRaised⟩
  rw [left] at globalLeft globalRaised
  constructor
  · rw [← globalLeft, ← left]
    rfl
  · have effects :
        auditLog (sendInitialAudits server).effects =
          auditLog
              (sendConnectionStatusAudits
                { server with config := letteredConfig server }
                (initialAudits (letteredConfig server))).2 ++
            auditLog
              (sendGlobalStatusAudit
                (sendConnectionStatusAudits
                  { server with config := letteredConfig server }
                  (initialAudits (letteredConfig server))).1
                "disconnected").2 :=
      auditLog_append _ _
    rw [effects, raised, left, globalRaised]

include new

theorem fresh_started :
    Fresh (started server).server.config.redundancyGroups := by
  rw [started, (sendInitialAudits_eq server).1, letteredConfig]
  constructor
  · intro position redGroup present
    rw [List.getElem?_map, Option.map_eq_some_iff] at present
    rcases present with ⟨before, present, rfl⟩
    have index := new.groups.index present
    exact index
  · intro redGroup member connection inGroup
    rcases List.mem_map.mp member with ⟨before, inGroups, rfl⟩
    simp only [setPathLetters, List.mem_mapIdx] at inGroup
    rcases inGroup with ⟨position, within, rfl⟩
    have free :=
      new.groups.free before inGroups _ (List.getElem_mem within)
    exact free

theorem lettered_started : Lettered (started server).server.config := by
  rw [started, (sendInitialAudits_eq server).1]
  exact letteredConfig_lettered server new.groups

theorem auditTrail_nil :
    auditTrail platform server [] =
      withoutRepeats ""
          ((initialAudits (letteredConfig server)).map
            (messageOf server.serviceName)) ++
        [globalMessage server.serviceName "disconnected"] := by
  rw [auditTrail, Machine.outputs_nil, List.append_nil,
    (sendInitialAudits_eq server).2, new.lastConnectionAudit,
    new.lastGlobalAudit]
  rfl

/-- The trail right after the start of the slave. -/
theorem trail_started :
    Trail server.serviceName (started server).server
      (auditTrail platform server []) := by
  have lettered := letteredConfig_lettered server new.groups
  have silent :
      (withoutRepeats ""
          ((initialAudits (letteredConfig server)).map
            (messageOf server.serviceName))).filterMap
        (globalTypeIn server.serviceName) = [] := by
    apply List.filterMap_eq_nil_iff.mpr
    intro message member
    rcases List.mem_map.mp (withoutRepeats_subset _ _ member) with
      ⟨audit, isAudit, rfl⟩
    rcases initialAudits_isInitial lettered audit isAudit with
      ⟨place, label, -⟩
    rw [messageOf, label, globalTypeIn_message]
  have globals :
      (auditTrail platform server []).filterMap
          (globalTypeIn server.serviceName) = ["disconnected"] := by
    rw [auditTrail_nil platform new, List.filterMap_append, silent]
    simp [globalTypeIn_global server.serviceName (Or.inr rfl)]
  constructor
  · rw [started, (sendInitialAudits_eq server).1]
  · intro place
    have remembers :=
      ((remembers_nil server.serviceName
        place).lastStatement_withoutRepeats
          ((initialAudits (letteredConfig server)).map
            (messageOf server.serviceName))).2
    rw [auditTrail_nil platform new, started, (sendInitialAudits_eq server).1,
      new.lastConnectionAudit]
    apply remembers.append_silent
    simp [auditTypeFor_global server.serviceName place (Or.inr rfl)]
  · rw [globals]
    rfl
  · rw [globals, started, (sendInitialAudits_eq server).1]
    rfl
  · rw [globals]
    exact List.isChain_singleton _

end Start

/-! ## Steps -/

section Steps

variable (platform : Platform) {server : IEC104Server} (new : New server)

/-- The server after the start of its slave and a list of events. -/
def serverAfter (platform : Platform) (server : IEC104Server)
    (events : List Event) : IEC104Server :=
  ((machine platform).after (started server) events).server

theorem auditTrail_concat (events : List Event) (event : Event) :
    auditTrail platform server (events ++ [event]) =
      auditTrail platform server events ++
        auditLog
          (step platform
            ((machine platform).after (started server) events) event).2 := by
  rw [auditTrail, auditTrail, Machine.outputs_append, ← List.append_assoc,
    auditLog_append]
  simp

theorem serverAfter_concat (events : List Event) (event : Event) :
    serverAfter platform server (events ++ [event]) =
      (step platform ((machine platform).after (started server) events)
        event).1.server := by
  rw [serverAfter, Machine.after_append]
  rfl

theorem isGlobalType_globalTypeOf (established : Bool)
    (what : PeerConnectionEvent) :
    ∀ type, globalTypeOf established what = some type →
      IsGlobalType type := by
  intro type isType
  cases what with
  | opened => simp [globalTypeOf] at isType
  | closed =>
      simp only [globalTypeOf, Option.ite_none_left_eq_some,
        Option.some.injEq] at isType
      exact Or.inr isType.2.symm
  | activated => exact Or.inl (Option.some.inj isType).symm
  | deactivated => simp [globalTypeOf] at isType

/--
What one event does to the slots and to the audits: nothing when it is no
connection event or finds no slot, else it gives the slot to the peer or takes
it back, and raises what belongs to that.
-/
inductive SlotStep (before after : IEC104Server) (effects : List Effect) :
    Event → Prop where
  | other (event : Event)
      (noConnection :
        ¬ ∃ con peerAddress what, event = .connection con peerAddress what)
      (leaves : LeavesSlots before after effects) :
      SlotStep before after effects event
  | absent (con : Connection) (peerAddress : String)
      (what : PeerConnectionEvent)
      (missing : slotFor before peerAddress = none)
      (holdsNone : ∀ place,
        holderOf before.config place ≠ some (splitPeerAddress peerAddress))
      (left : after = before) (silent : effects = []) :
      SlotStep before after effects (.connection con peerAddress what)
  | found (con : Connection) (peerAddress : String)
      (what : PeerConnectionEvent) (group slot : Nat) (isNew : Bool)
      (isFound : slotFor before peerAddress = some (group, slot, isNew))
      (may :
        MayHold (holderOf before.config) (splitPeerAddress peerAddress)
          (group, slot))
      (holders :
        holderOf after.config =
          Function.update (holderOf before.config) (group, slot)
            (if what = .closed then
              none
            else
              some (splitPeerAddress peerAddress)))
      (raises :
        Raises before after (labelAt (group, slot)) (auditTypeOf what)
          (globalTypeOf after.isAnyConnectionEstablished what) effects) :
      SlotStep before after effects (.connection con peerAddress what)

include new

theorem lettered_after (events : List Event) :
    Lettered (serverAfter platform server events).config := by
  rw [Lettered, serverAfter, layout_run]
  exact lettered_started new

theorem holding_after {events : List Event}
    (wellFormed : EachStep WellFormedEvent events) :
    Holding
      (AllowedAt (serverAfter platform server events).config
        (Peers.after events))
      (holderOf (serverAfter platform server events).config) :=
  holding_run platform (fresh_started new) wellFormed

theorem slotStep_concat {events : List Event} {event : Event}
    (each : EachStep WellFormedEvent events)
    (last : WellFormedEvent events event) :
    SlotStep (serverAfter platform server events)
      (serverAfter platform server (events ++ [event]))
      (step platform ((machine platform).after (started server) events)
        event).2
      event := by
  have holding := holding_after platform new each
  rw [serverAfter_concat]
  by_cases connection :
      ∃ con peerAddress what, event = .connection con peerAddress what
  · rcases connection with ⟨con, peerAddress, what, rfl⟩
    have hasPort := (last con peerAddress what rfl).2.1
    cases found :
        slotFor (serverAfter platform server events) peerAddress with
    | none =>
        have handled := connectionEventHandler_absent found con what
        rw [serverAfter] at handled
        refine
          .absent con peerAddress what found
            (holdsNone_of_findSlot holding found) ?_ ?_
        · simp only [step]
          rw [handled, serverAfter]
        · simp only [step]
          rw [handled]
    | some entry =>
        rcases entry with ⟨group, slot, isNew⟩
        exact
          .found con peerAddress what group slot isNew found
            (mayHold_of_findSlot holding hasPort found)
            (holderOf_connectionEventHandler hasPort found con what)
            (connectionEventHandler_raises
              (lettered_after platform new events) hasPort found con what)
  · exact
      .other event connection
        (step_leavesSlots platform _ event connection)

/-- What is known of the trail is known after every run. -/
theorem trail_run {events : List Event}
    (wellFormed : EachStep WellFormedEvent events) :
    Trail server.serviceName (serverAfter platform server events)
      (auditTrail platform server events) := by
  refine EachStep.induction ?_ ?_ wellFormed
  · exact trail_started platform new
  · intro earlier event each kept last
    rw [auditTrail_concat]
    cases slotStep_concat platform new each last with
    | other _ noConnection leaves => exact kept.leaves leaves
    | absent con peerAddress what missing holdsNone left silent =>
        rwa [left, silent, auditLog_nil, List.append_nil]
    | found con peerAddress what group slot isNew isFound may holders raises =>
        exact kept.raised raises (isGlobalType_globalTypeOf _ what)

end Steps

end Iec104North.AuditTrail
