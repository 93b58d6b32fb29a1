import Iec104North.CommandLedger
import Iec104North.CommandPaths
import Iec104North.Runs

/-!
# The server moves a ledger

Each event of the server is one move of its ledger, and the messages it sends
for outstanding commands are those the move delivers.  Which move it is depends
on the event and on the state before it.
-/

namespace Iec104North.LedgerRefinement

open Iec104North.Library
open Iec104North.AsduTypes
open Iec104North.Values
open Iec104North.Server
open Iec104North.Server.IEC104Server
open Iec104North.OutstandingCommands
open Iec104North.Commands
open Iec104North.CommandPaths
open Iec104North.CommandLedger
open Iec104North.Readings
open Iec104North.Interrogation
open Iec104North.Connections
open Iec104North.Runs

/-! ## The move of an event -/

/-- The feedback the attributes of a data object stand for. -/
def objectFeedback (object : DataObject) : Option Feedback :=
  if object.cot = Cot.activationCon then
    some ⟨.actCon, object.type, object.ca, object.ioa, object.isNegative⟩
  else if object.cot = Cot.activationTermination then
    some ⟨.actTerm, object.type, object.ca, object.ioa, object.isNegative⟩
  else
    none

theorem objectFeedback_eq_none_iff {object : DataObject} :
    objectFeedback object = none ↔
      object.cot ≠ Cot.activationCon ∧
        object.cot ≠ Cot.activationTermination := by
  rw [objectFeedback]
  split
  · simp_all
  · split <;> simp_all

/-- The feedback a data point carries. -/
def feedbackOf (platform : Platform) (dp : Datapoint) : Option Feedback :=
  if dp.name = "data_object" then
    objectFeedback (readDataObject platform dp)
  else
    none

/-- A connection event after which the connection takes no more messages. -/
def isLoss : PeerConnectionEvent → Bool
  | .opened => false
  | .closed => true
  | .activated => false
  | .deactivated => true

/-- The slot `connectionEventHandler` finds for a peer. -/
def slotFor (server : IEC104Server) (peerAddress : String) :
    Option (Nat × Nat × Bool) :=
  let peer := splitPeerAddress peerAddress
  findSlot server.config peer.1 peer.2

/-- The move a command ASDU makes. -/
def commandMove (platform : Platform) (server : IEC104Server)
    (connection : Connection) (asdu : Asdu) (checkTime rcvdTime : Nat) :
    Move :=
  match (validateCommand platform server asdu checkTime).2 with
  | .forward forwarded io =>
      match commandParameters platform forwarded io with
      | some (_, isSelect) =>
          .enter
            ⟨newCommand server connection asdu rcvdTime isSelect, connection,
              forwarded⟩
            server.operRegistered
      | none => .idle
  | _ => .idle

/-- The move an event makes. -/
def moveOf (platform : Platform) (system : System) : Event → Move
  | .command connection asdu checkTime rcvdTime =>
      commandMove platform system.server connection asdu checkTime rcvdTime
  | .operationReturned address result =>
      match system.pending.find? (isPendingFor address) with
      | none => .idle
      | some handler => .returned handler (decide (result ≤ 0))
  | .datapoint _ dp _ =>
      if system.server.slaveRunning then
        match feedbackOf platform dp with
        | some feedback => .answer feedback
        | none => .idle
      else
        .idle
  | .scanTimeouts currentTime => .discard (hasTimedOut · currentTime)
  | .connection con peerAddress event =>
      if isLoss event && (slotFor system.server peerAddress).isSome then
        .discard (isSentFromConnection · con)
      else
        .idle
  | .interrogation _ _ _ => .idle
  | .slaveRunning _ => .idle
  | .registerControl => .idle

/-- The ledger of a system. -/
def view (system : System) : Ledger where
  outstanding := system.server.outstandingCommands
  pending := system.pending
  allocated := system.server.allocated

/--
The effects leave the ledger alone: the list and the counter are the same and
no message for an outstanding command is sent.
-/
structure LeavesLedger (before after : IEC104Server)
    (effects : List Effect) : Prop where
  outstanding : after.outstandingCommands = before.outstandingCommands
  allocated : after.allocated = before.allocated
  silent : deliveries effects = []

/-! ## Commands -/

section Commands

variable (platform : Platform) (server : IEC104Server)
  (connection : Connection) (asdu : Asdu) (checkTime rcvdTime : Nat)

theorem commandMove_inadmissible
    (inadmissible :
      ¬ ∃ io, Admissible platform server asdu io checkTime) :
    commandMove platform server connection asdu checkTime rcvdTime =
      .idle := by
  rcases
      validateCommand_rejected platform server asdu checkTime inadmissible with
    ⟨cot, answer | answered⟩
  · simp [commandMove, answer]
  · simp [commandMove, answered]

theorem commandMove_admissible {io : CommandObject}
    {parameters : CommandParameters} {isSelect : Bool}
    (admissible : Admissible platform server asdu io checkTime)
    (found :
      commandParameters platform (forwardedAsdu asdu) io =
        some (parameters, isSelect)) :
    commandMove platform server connection asdu checkTime rcvdTime =
      .enter
        ⟨newCommand server connection asdu rcvdTime isSelect, connection,
          forwardedAsdu asdu⟩
        server.operRegistered := by
  have verdict :=
    (validateCommand_forward_iff platform server asdu checkTime
      (forwardedAsdu asdu) io).mpr ⟨admissible, rfl⟩
  simp [commandMove, verdict, found]

/-- A command handler makes its move. -/
theorem enterAsduHandler_moves (system : System)
    (isServer : system.server = server) :
    let entered :=
      enterAsduHandler platform server connection asdu checkTime rcvdTime
    let move :=
      commandMove platform server connection asdu checkTime rcvdTime
    view ⟨entered.server, system.pending ++ entered.pending.toList⟩ =
        (view system).move move ∧
      deliveries entered.effects =
        move.delivers server.outstandingCommands := by
  subst isServer
  rcases
      enterAsduHandler_cases platform system.server connection asdu checkTime
        rcvdTime with
    ⟨io, parameters, isSelect, admissible, found, entered⟩ |
      ⟨cot, -, inadmissible, entered⟩ | ⟨-, inadmissible, entered⟩
  · have move :=
      commandMove_admissible platform system.server connection asdu
        checkTime rcvdTime admissible found
    simp only [entered, move]
    cases registered : system.server.operRegistered
    · exact ⟨rfl, rfl⟩
    · exact ⟨rfl, rfl⟩
  · have move :=
      commandMove_inadmissible platform system.server connection asdu
        checkTime rcvdTime inadmissible
    simp only [move, entered]
    split
    · exact ⟨by simp [view, Ledger.move, Move.outstanding, Move.pending,
        Move.allocated, touchTable], rfl⟩
    · exact ⟨by simp [view, Ledger.move, Move.outstanding, Move.pending,
        Move.allocated], rfl⟩
  · have move :=
      commandMove_inadmissible platform system.server connection asdu
        checkTime rcvdTime inadmissible
    simp only [move, entered]
    exact ⟨by simp [view, Ledger.move, Move.outstanding, Move.pending,
      Move.allocated], rfl⟩

end Commands

/-! ## Data points -/

section Datapoints

variable (platform : Platform) (server : IEC104Server)

/-- The two handlers of feedback. -/
def handleFeedback (feedback : Feedback) :
    IEC104Server × List Effect :=
  match feedback.kind with
  | .actCon =>
      handleActCon server feedback.type feedback.ca feedback.ioa
        feedback.isNegative
  | .actTerm =>
      handleActTerm server feedback.type feedback.ca feedback.ioa
        feedback.isNegative

theorem handleFeedback_moves (feedback : Feedback)
    (pending : List PendingOperation) :
    view ⟨(handleFeedback server feedback).1, pending⟩ =
        (view ⟨server, pending⟩).move (.answer feedback) ∧
      deliveries (handleFeedback server feedback).2 =
        (Move.answer feedback).delivers server.outstandingCommands := by
  rcases feedback with ⟨kind, type, ca, ioa, isNegative⟩
  have fits :
      (⟨kind, type, ca, ioa, isNegative⟩ : Feedback).fits =
        fun command => isMatching command type ca ioa := rfl
  cases kind with
  | actCon =>
      refine ⟨rfl, ?_⟩
      rw [handleFeedback, handleActCon_snd, Move.delivers, fits]
      cases server.outstandingCommands.find? _ with
      | none => rfl
      | some command =>
          simp only [Option.map_some, Option.getD_some, sendActCon_snd]
          rfl
  | actTerm =>
      refine ⟨rfl, ?_⟩
      rw [handleFeedback, handleActTerm_snd, Move.delivers, fits]
      cases server.outstandingCommands.find? _ with
      | none => rfl
      | some command => rfl

theorem handleDataObject_feedback {object : DataObject}
    {feedback : Feedback} (now : Nat)
    (stands : objectFeedback object = some feedback) :
    handleDataObject platform server object now =
      .ok (handleFeedback server feedback) := by
  rw [objectFeedback] at stands
  split at stands
  · rename_i actCon
    rcases Option.some.inj stands with rfl
    simp [handleDataObject, actCon, handleFeedback]
  · split at stands
    · rename_i actTerm
      rcases Option.some.inj stands with rfl
      simp [handleDataObject, actTerm, handleFeedback]
    · simp at stands

/-- A data point with feedback goes to a handler of feedback. -/
theorem sendDatapoint_feedback (assetName : String) {dp : Datapoint}
    {feedback : Feedback} (now : Nat)
    (carries : feedbackOf platform dp = some feedback)
    (running : server.slaveRunning = true) :
    sendDatapoint platform server assetName dp now =
      .ok (handleFeedback server feedback) := by
  rw [feedbackOf] at carries
  split at carries
  · rename_i name
    rw [← handleDataObject_feedback platform server now carries]
    simp [sendDatapoint, name, running]
  · simp at carries

theorem enqueueSpontDatapoint_silent (dp : DataPoints.DataPoint)
    (cot : CauseOfTransmission) (typeId : Int) :
    deliveries (enqueueSpontDatapoint platform server dp cot typeId) =
      [] := by
  unfold enqueueSpontDatapoint
  split <;> rfl

theorem handleDataObject_leavesLedger {object : DataObject} {now : Nat}
    {after : IEC104Server} {effects : List Effect}
    (noFeedback : objectFeedback object = none)
    (handled :
      handleDataObject platform server object now = .ok (after, effects)) :
    LeavesLedger server after effects := by
  rcases objectFeedback_eq_none_iff.mp noFeedback with ⟨notActCon, notActTerm⟩
  rw [handleDataObject, if_neg (by simpa using notActCon),
    if_neg (by simpa using notActTerm)] at handled
  split at handled
  · split at handled
    · rename_i found read
      rcases Prod.mk.inj (Except.ok.inj handled) with ⟨rfl, rfl⟩
      rcases Prod.mk.inj read with ⟨rfl, -⟩
      exact ⟨rfl, rfl, rfl⟩
    · rename_i found dp read
      rcases Prod.mk.inj read with ⟨rfl, -⟩
      split at handled
      · simp at handled
      · rcases Prod.mk.inj (Except.ok.inj handled) with ⟨rfl, rfl⟩
        refine ⟨rfl, rfl, ?_⟩
        split
        · exact enqueueSpontDatapoint_silent platform _ _ _ _
        · rfl
  · rcases Prod.mk.inj (Except.ok.inj handled) with ⟨rfl, rfl⟩
    exact ⟨rfl, rfl, rfl⟩

/-- Every other data point leaves the ledger alone. -/
theorem sendDatapoint_leavesLedger {assetName : String} {dp : Datapoint}
    {now : Nat} {after : IEC104Server} {effects : List Effect}
    (noFeedback :
      server.slaveRunning = true → feedbackOf platform dp = none)
    (sent :
      sendDatapoint platform server assetName dp now =
        .ok (after, effects)) :
    LeavesLedger server after effects := by
  rw [sendDatapoint] at sent
  split at sent
  · rcases Prod.mk.inj (Except.ok.inj sent) with ⟨rfl, rfl⟩
    exact ⟨rfl, rfl, rfl⟩
  split at sent
  · rename_i isObject
    split at sent
    · rename_i running
      have nothing := noFeedback running
      rw [feedbackOf, if_pos (by simpa using isObject)] at nothing
      exact handleDataObject_leavesLedger platform server nothing sent
    · rcases Prod.mk.inj (Except.ok.inj sent) with ⟨rfl, rfl⟩
      exact ⟨rfl, rfl, rfl⟩
  · rcases Prod.mk.inj (Except.ok.inj sent) with ⟨rfl, rfl⟩
    exact ⟨rfl, rfl, rfl⟩

end Datapoints

/-! ## Interrogations -/

section Interrogations

variable (platform : Platform) (connection : Connection) (asdu : Asdu)
  (qoi : Nat)

theorem deliveries_sendData (asdus : List DataAsdu) :
    deliveries (asdus.map (.sendData connection)) = [] := by
  induction asdus with
  | nil => rfl
  | cons head rest ih => exact ih

theorem sendInterrogationResponse_leavesLedger (server : IEC104Server)
    (ca : Int) :
    let response :=
      sendInterrogationResponse platform server connection asdu ca qoi
    LeavesLedger server response.1 response.2 := by
  refine ⟨rfl, rfl, ?_⟩
  simp only [sendInterrogationResponse, deliveries_append,
    deliveries_sendData]
  rfl

theorem respondEach_leavesLedger (server : IEC104Server)
    (addresses : List Int) :
    let response :=
      respondEach platform connection asdu qoi server addresses
    LeavesLedger server response.1 response.2 := by
  induction addresses generalizing server with
  | nil => exact ⟨rfl, rfl, rfl⟩
  | cons ca rest ih =>
      have first :=
        sendInterrogationResponse_leavesLedger platform connection asdu qoi
          server ca
      have others :=
        ih (sendInterrogationResponse platform server connection asdu ca
          qoi).1
      constructor
      · exact others.outstanding.trans first.outstanding
      · exact others.allocated.trans first.allocated
      · simp only [respondEach, deliveries_append, first.silent,
          others.silent, List.append_nil]

theorem interrogationHandler_leavesLedger (server : IEC104Server) :
    let handled :=
      interrogationHandler platform server connection asdu qoi
    LeavesLedger server handled.1 handled.2 := by
  simp only [interrogationHandler]
  split
  · exact ⟨rfl, rfl, rfl⟩
  split
  · exact respondEach_leavesLedger platform connection asdu qoi server _
  split
  · exact
      sendInterrogationResponse_leavesLedger platform connection asdu qoi
        server asdu.ca
  · exact ⟨rfl, rfl, rfl⟩

end Interrogations

/-! ## Connection events -/

section ConnectionEvents

variable (server : IEC104Server)

theorem sendConnectionStatusAudit_leavesLedger
    (auditType redGroupIndex pathLetter : String) :
    let audited :=
      sendConnectionStatusAudit server auditType redGroupIndex pathLetter
    LeavesLedger server audited.1 audited.2 := by
  simp only [sendConnectionStatusAudit]
  split <;> exact ⟨rfl, rfl, rfl⟩

theorem sendGlobalStatusAudit_leavesLedger (auditType : String) :
    let audited := sendGlobalStatusAudit server auditType
    LeavesLedger server audited.1 audited.2 := by
  simp only [sendGlobalStatusAudit]
  split <;> exact ⟨rfl, rfl, rfl⟩

/-- A slot event of a lost connection discards its commands. -/
theorem handleSlotEvent_ledger (group slot : Nat) (con : Connection)
    (event : PeerConnectionEvent) :
    let handled := handleSlotEvent server group slot con event
    handled.1.outstandingCommands =
        (if isLoss event then
          server.outstandingCommands.filter
            fun command => !isSentFromConnection command con
        else
          server.outstandingCommands) ∧
      handled.1.allocated = server.allocated ∧
      deliveries handled.2 = [] := by
  have status := fun auditType : String =>
    sendConnectionStatusAudit_leavesLedger server auditType
      (slotLabel server group slot).1 (slotLabel server group slot).2
  cases event with
  | opened =>
      have passive := status "passive"
      simp only [handleSlotEvent, isLoss, Bool.false_eq_true, if_false]
      exact ⟨passive.outstanding, passive.allocated, passive.silent⟩
  | closed =>
      have disconnected := status "disconnected"
      simp only [handleSlotEvent, isLoss, if_true]
      split
      · exact
          ⟨by simp [modifySlot, disconnected.outstanding],
            disconnected.allocated, disconnected.silent⟩
      · have global :=
          sendGlobalStatusAudit_leavesLedger
            (removeOutstandingCommands
              (modifySlot
                (sendConnectionStatusAudit server "disconnected"
                  (slotLabel server group slot).1
                  (slotLabel server group slot).2).1
                group slot fun connection => { connection with port := "" })
              con)
            "disconnected"
        refine ⟨?_, ?_, ?_⟩
        · rw [global.outstanding]
          simp [modifySlot, disconnected.outstanding]
        · exact global.allocated.trans disconnected.allocated
        · rw [deliveries_append, disconnected.silent, global.silent]
          rfl
  | activated =>
      have active := status "active"
      have global :=
        sendGlobalStatusAudit_leavesLedger
          (sendConnectionStatusAudit server "active"
            (slotLabel server group slot).1
            (slotLabel server group slot).2).1
          "connected"
      simp only [handleSlotEvent, isLoss, Bool.false_eq_true, if_false]
      refine ⟨?_, ?_, ?_⟩
      · simp only [modifySlot]
        rw [global.outstanding, active.outstanding]
      · simp only [modifySlot]
        rw [global.allocated, active.allocated]
      · rw [deliveries_append, active.silent, global.silent]
        rfl
  | deactivated =>
      have passive := status "passive"
      simp only [handleSlotEvent, isLoss, if_true]
      exact
        ⟨by simp [modifySlot, passive.outstanding], passive.allocated,
          passive.silent⟩

/-- The server with the port of the peer in the slot that was found. -/
def assignSlot (peerAddress : String) (place : Nat × Nat × Bool) :
    IEC104Server :=
  if place.2.2 then
    modifySlot server place.1 place.2.1 fun connection =>
      { connection with port := (splitPeerAddress peerAddress).2 }
  else
    server

/-- The handler acts on the slot found for the peer, or not at all. -/
theorem connectionEventHandler_eq (con : Connection) (peerAddress : String)
    (event : PeerConnectionEvent) :
    connectionEventHandler server con peerAddress event =
      match slotFor server peerAddress with
      | none => (server, [])
      | some place =>
          handleSlotEvent (assignSlot server peerAddress place) place.1
            place.2.1 con event := by
  simp only [connectionEventHandler, slotFor]
  cases
    findSlot server.config (splitPeerAddress peerAddress).1
      (splitPeerAddress peerAddress).2 with
  | none => rfl
  | some place => rfl

theorem assignSlot_ledger (peerAddress : String)
    (place : Nat × Nat × Bool) :
    (assignSlot server peerAddress place).outstandingCommands =
        server.outstandingCommands ∧
      (assignSlot server peerAddress place).allocated =
        server.allocated := by
  rw [assignSlot]
  split <;> exact ⟨rfl, rfl⟩

/--
A connection event discards the commands of a lost connection when a slot is
found for its peer, and otherwise leaves them.
-/
theorem connectionEventHandler_ledger (con : Connection)
    (peerAddress : String) (event : PeerConnectionEvent) :
    let handled := connectionEventHandler server con peerAddress event
    handled.1.outstandingCommands =
        (if isLoss event && (slotFor server peerAddress).isSome then
          server.outstandingCommands.filter
            fun command => !isSentFromConnection command con
        else
          server.outstandingCommands) ∧
      handled.1.allocated = server.allocated ∧
      deliveries handled.2 = [] := by
  rw [connectionEventHandler_eq]
  cases found : slotFor server peerAddress with
  | none => simp [deliveries]
  | some place =>
      have assigned := assignSlot_ledger server peerAddress place
      have handled :=
        handleSlotEvent_ledger (assignSlot server peerAddress place) place.1
          place.2.1 con event
      rw [assigned.1, assigned.2] at handled
      simpa using handled

end ConnectionEvents

/-! ## The step -/

variable (platform : Platform)

/-- Leaving the ledger alone is the move `idle`. -/
theorem LeavesLedger.idle {before after : IEC104Server}
    {effects : List Effect} (leaves : LeavesLedger before after effects)
    (pending : List PendingOperation) :
    view ⟨after, pending⟩ = (view ⟨before, pending⟩).move .idle ∧
      deliveries effects =
        Move.idle.delivers before.outstandingCommands := by
  constructor
  · simp [view, Ledger.move, Move.outstanding, Move.pending, Move.allocated,
      leaves.outstanding, leaves.allocated]
  · exact leaves.silent

theorem operationReturned_delivers (handler : PendingOperation)
    (result : Int) :
    deliveries (operationReturned handler result) =
      if result ≤ 0 then [refuse handler] else [] := by
  rw [operationReturned]
  by_cases success : 0 < result
  · rw [if_pos success, if_neg (by omega)]
    rfl
  · rw [if_neg success, if_pos (by omega)]
    rfl

/-- One event of the server is one move of its ledger. -/
theorem step_moves (system : System) (event : Event) :
    view (step platform system event).1 =
        (view system).move (moveOf platform system event) ∧
      deliveries (step platform system event).2 =
        (moveOf platform system event).delivers
          system.server.outstandingCommands := by
  have unchanged :
      LeavesLedger system.server system.server [] := ⟨rfl, rfl, rfl⟩
  cases event with
  | command connection asdu checkTime rcvdTime =>
      exact
        enterAsduHandler_moves platform system.server connection asdu
          checkTime rcvdTime system rfl
  | operationReturned address result =>
      simp only [step, moveOf]
      cases found : system.pending.find? (isPendingFor address) with
      | none => exact unchanged.idle system.pending
      | some handler =>
          have same : handler.command.address = address := by
            simpa [isPendingFor] using List.find?_some found
          subst same
          refine ⟨rfl, ?_⟩
          rw [operationReturned_delivers]
          simp [Move.delivers]
  | datapoint assetName dp now =>
      have silent :
          (system.server.slaveRunning = true →
              feedbackOf platform dp = none) →
            view
                  (step platform system (.datapoint assetName dp now)).1 =
                (view system).move .idle ∧
              deliveries
                  (step platform system (.datapoint assetName dp now)).2 =
                [] := by
        intro noFeedback
        simp only [step]
        cases sent : sendDatapoint platform system.server assetName dp now with
        | error exception => exact unchanged.idle system.pending
        | ok result =>
            exact
              (sendDatapoint_leavesLedger platform system.server noFeedback
                sent).idle system.pending
      by_cases running : system.server.slaveRunning = true
      · cases carries : feedbackOf platform dp with
        | none =>
            simpa [moveOf, carries, Move.delivers] using
              silent fun _ => carries
        | some feedback =>
            have sent :=
              sendDatapoint_feedback platform system.server assetName now
                carries running
            simpa [step, moveOf, running, carries, sent] using
              handleFeedback_moves system.server feedback system.pending
      · simpa [moveOf, running, Move.delivers] using
          silent fun stopped => absurd stopped running
  | interrogation connection asdu qoi =>
      exact
        (interrogationHandler_leavesLedger platform connection asdu qoi
          system.server).idle system.pending
  | scanTimeouts currentTime =>
      refine ⟨?_, rfl⟩
      simp [step, moveOf, view, Ledger.move, Move.outstanding, Move.pending,
        Move.allocated]
      rfl
  | connection con peerAddress event =>
      have handled :=
        connectionEventHandler_ledger system.server con peerAddress event
      simp only [step, moveOf]
      split
      · rename_i lost
        simp only [lost, if_true] at handled
        refine ⟨?_, handled.2.2⟩
        simp [view, Ledger.move, Move.outstanding, Move.pending,
          Move.allocated, handled.1, handled.2.1]
      · rename_i kept
        simp only [kept] at handled
        exact
          LeavesLedger.idle ⟨handled.1, handled.2.1, handled.2.2⟩
            system.pending
  | slaveRunning running => exact unchanged.idle system.pending
  | registerControl => exact unchanged.idle system.pending

/-- The move of an event fits the ledger before it. -/
theorem moveOf_fits (system : System) (event : Event) :
    (moveOf platform system event).Fits (view system) := by
  cases event with
  | command connection asdu checkTime rcvdTime =>
      simp only [moveOf, commandMove]
      split
      · split
        · exact ⟨rfl, rfl⟩
        · trivial
      · trivial
  | operationReturned address result =>
      simp only [moveOf]
      split
      · trivial
      · rename_i handler found
        exact List.mem_of_find?_eq_some found
  | datapoint assetName dp now =>
      simp only [moveOf]
      split
      · split <;> trivial
      · trivial
  | interrogation connection asdu qoi => trivial
  | scanTimeouts currentTime => trivial
  | connection con peerAddress event =>
      simp only [moveOf]
      split <;> trivial
  | slaveRunning running => trivial
  | registerControl => trivial

/-- Only a command ASDU brings a command in, from its own connection. -/
theorem moveOf_enter {system : System} {event : Event}
    {handler : PendingOperation} {registered : Bool}
    (enters :
      moveOf platform system event = .enter handler registered) :
    ∃ connection asdu checkTime rcvdTime isSelect,
      event = .command connection asdu checkTime rcvdTime ∧
        handler =
          ⟨newCommand system.server connection asdu rcvdTime isSelect,
            connection, forwardedAsdu asdu⟩ ∧
        registered = system.server.operRegistered := by
  cases event with
  | command connection asdu checkTime rcvdTime =>
      by_cases admissible :
          ∃ io, Admissible platform system.server asdu io checkTime
      · rcases admissible with ⟨io, admissible⟩
        rcases
            enterAsduHandler_admissible platform system.server connection asdu
              checkTime rcvdTime admissible with
          ⟨parameters, isSelect, found, -⟩
        have move :=
          commandMove_admissible platform system.server connection asdu
            checkTime rcvdTime admissible found
        rw [moveOf, move, Move.enter.injEq] at enters
        exact
          ⟨connection, asdu, checkTime, rcvdTime, isSelect, rfl,
            enters.1.symm, enters.2.symm⟩
      · rw [moveOf,
          commandMove_inadmissible platform system.server connection asdu
            checkTime rcvdTime admissible] at enters
        simp at enters
  | operationReturned address result =>
      simp only [moveOf] at enters
      split at enters <;> simp at enters
  | datapoint assetName dp now =>
      simp only [moveOf] at enters
      split at enters
      · split at enters <;> simp at enters
      · simp at enters
  | connection con peerAddress event =>
      simp only [moveOf] at enters
      split at enters <;> simp at enters
  | interrogation connection asdu qoi => simp [moveOf] at enters
  | scanTimeouts currentTime => simp [moveOf] at enters
  | slaveRunning running => simp [moveOf] at enters
  | registerControl => simp [moveOf] at enters

/-! ## Runs -/

section Runs

variable (start : System)

/-- The messages for outstanding commands sent in a run. -/
def delivered (events : List Event) : List Delivery :=
  deliveries ((machine platform).outputs start events)

/-- The move of an event after a run. -/
def moveAfter (earlier : List Event) (event : Event) : Move :=
  moveOf platform ((machine platform).after start earlier) event

@[simp]
theorem delivered_nil : delivered platform start [] = [] :=
  rfl

/-- The ledger after one more event. -/
theorem view_concat (events : List Event) (event : Event) :
    view ((machine platform).after start (events ++ [event])) =
      (view ((machine platform).after start events)).move
        (moveAfter platform start events event) := by
  have moves :=
    step_moves platform ((machine platform).after start events) event
  simpa [moveAfter] using moves.1

theorem outstanding_concat (events : List Event) (event : Event) :
    ((machine platform).after start
        (events ++ [event])).server.outstandingCommands =
      (moveAfter platform start events event).outstanding
        ((machine platform).after start
          events).server.outstandingCommands :=
  congrArg Ledger.outstanding (view_concat platform start events event)

/-- The messages after one more event. -/
theorem delivered_concat (events : List Event) (event : Event) :
    delivered platform start (events ++ [event]) =
      delivered platform start events ++
        (moveAfter platform start events event).delivers
          ((machine platform).after start
            events).server.outstandingCommands := by
  have moves :=
    step_moves platform ((machine platform).after start events) event
  simp only [delivered, Machine.outputs_append, deliveries_append,
    Machine.outputs_cons, Machine.outputs_nil, List.append_nil,
    machine_step, moves.2]
  rfl

/-- The books are kept in every run that starts without commands. -/
theorem bookkeeping_run (initial : Initial start) (events : List Event) :
    Bookkeeping (view ((machine platform).after start events))
      (delivered platform start events) := by
  induction events using List.reverseRecOn with
  | nil =>
      constructor <;>
        simp [view, initial.outstanding, initial.pending]
  | append_singleton events event ih =>
      rw [view_concat, delivered_concat]
      exact
        ih.move (moveOf_fits platform ((machine platform).after start events)
          event)

end Runs

end Iec104North.LedgerRefinement
