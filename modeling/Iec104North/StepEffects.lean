import Iec104North.InterrogationReplies

/-!
# What a step emits

Every effect of a step belongs to its event: a command is handed over or
answered on its connection, a callback that fails answers the command it was
called for, feedback is passed on to an outstanding command, a data object is
enqueued, an interrogation gets its replies, and a connection event is audited.

The inversion lemma says this once; what runs send, and what they send whatever
else happens in between, is derived from it.
-/

namespace Iec104North.StepEffects

open Iec104North.Library
open Iec104North.Values
open Iec104North.Server
open Iec104North.Server.IEC104Server
open Iec104North.OutstandingCommands
open Iec104North.Commands
open Iec104North.CommandPaths
open Iec104North.LedgerRefinement
open Iec104North.Readings
open Iec104North.Interrogation
open Iec104North.Connections
open Iec104North.Runs
open Iec104North.TableReads
open Iec104North.MonitoringData
open Iec104North.InterrogationReplies

/-- What the events of a system may emit. -/
inductive Emits (system : System) : Event → Effect → Prop
  | handOver (connection : Connection) (asdu : Asdu)
      (checkTime rcvdTime : Nat) (call : OperationCall) :
      Emits system (.command connection asdu checkTime rcvdTime)
        (.operation call)
  | answer (connection : Connection) (asdu : Asdu)
      (checkTime rcvdTime : Nat) (command : Option OutstandingCommand)
      (cot : CauseOfTransmission) :
      Emits system (.command connection asdu checkTime rcvdTime)
        (.sendAsdu command connection (asdu.reject cot))
  | failure (address : Nat) (result : Int) (handler : PendingOperation)
      (member : handler ∈ system.pending) :
      Emits system (.operationReturned address result)
        (.sendAsdu (some handler.command) handler.connection
          { handler.asdu with isNegative := true })
  | actCon (assetName : String) (dp : Datapoint) (now : Nat)
      (command : OutstandingCommand)
      (member : command ∈ system.server.outstandingCommands)
      (negative : Bool) :
      Emits system (.datapoint assetName dp now)
        (.sendActCon (some command) command.connection command.receivedAsdu
          negative)
  | actTerm (assetName : String) (dp : Datapoint) (now : Nat)
      (command : OutstandingCommand)
      (member : command ∈ system.server.outstandingCommands)
      (negative : Bool) :
      Emits system (.datapoint assetName dp now)
        (.sendActTerm (some command) command.connection
          { command.receivedAsdu with isNegative := negative })
  | enqueue (assetName : String) (dp : Datapoint) (now : Nat)
      (data : DataAsdu) :
      Emits system (.datapoint assetName dp now) (.enqueueAsdu data)
  | reply (connection : Connection) (asdu : Asdu) (qoi : Nat)
      (effect : Effect)
      (isReply : IsReply system.server connection asdu effect) :
      Emits system (.interrogation connection asdu qoi) effect
  | audit (con : Connection) (peerAddress : String)
      (event : PeerConnectionEvent) (level : AuditLevel)
      (message : String) :
      Emits system (.connection con peerAddress event)
        (.audit level message)

/-! ## The inversion lemma -/

section Audits

theorem audit_of_mem_connectionStatusAudit {server : IEC104Server}
    {auditType index letter : String} {effect : Effect}
    (member :
      effect ∈
        (sendConnectionStatusAudit server auditType index letter).2) :
    ∃ level message, effect = .audit level message := by
  simp only [sendConnectionStatusAudit] at member
  split at member
  · simp at member
  · exact ⟨_, _, List.mem_singleton.mp member⟩

theorem audit_of_mem_globalStatusAudit {server : IEC104Server}
    {auditType : String} {effect : Effect}
    (member : effect ∈ (sendGlobalStatusAudit server auditType).2) :
    ∃ level message, effect = .audit level message := by
  simp only [sendGlobalStatusAudit] at member
  split at member
  · simp at member
  · exact ⟨_, _, List.mem_singleton.mp member⟩

theorem audit_of_mem_slotEvent {server : IEC104Server} {group slot : Nat}
    {con : Connection} {event : PeerConnectionEvent} {effect : Effect}
    (member :
      effect ∈ (handleSlotEvent server group slot con event).2) :
    ∃ level message, effect = .audit level message := by
  cases event with
  | opened => exact audit_of_mem_connectionStatusAudit member
  | closed =>
      simp only [handleSlotEvent] at member
      split at member
      · exact audit_of_mem_connectionStatusAudit member
      · rcases List.mem_append.mp member with slotAudit | globalAudit
        · exact audit_of_mem_connectionStatusAudit slotAudit
        · exact audit_of_mem_globalStatusAudit globalAudit
  | activated =>
      rcases List.mem_append.mp member with slotAudit | globalAudit
      · exact audit_of_mem_connectionStatusAudit slotAudit
      · exact audit_of_mem_globalStatusAudit globalAudit
  | deactivated => exact audit_of_mem_connectionStatusAudit member

/-- Connection events are audited and nothing else. -/
theorem audit_of_mem_connectionEvent {server : IEC104Server}
    {con : Connection} {peerAddress : String} {event : PeerConnectionEvent}
    {effect : Effect}
    (member :
      effect ∈ (connectionEventHandler server con peerAddress event).2) :
    ∃ level message, effect = .audit level message := by
  rw [connectionEventHandler_eq] at member
  split at member
  · simp at member
  · exact audit_of_mem_slotEvent member

end Audits

section Inversion

variable (platform : Platform) {system : System} {event : Event}
  {effect : Effect}

theorem emits_feedback {assetName : String} {dp : Datapoint} {now : Nat}
    {feedback : CommandLedger.Feedback}
    (member : effect ∈ (handleFeedback system.server feedback).2) :
    Emits system (.datapoint assetName dp now) effect := by
  rcases feedback with ⟨kind, type, ca, ioa, isNegative⟩
  cases kind with
  | actCon =>
      simp only [handleFeedback, handleActCon] at member
      split at member
      · rename_i command found
        rw [sendActCon_snd, List.mem_singleton] at member
        rw [member]
        exact
          .actCon assetName dp now command (List.mem_of_find?_eq_some found)
            isNegative
      · simp at member
  | actTerm =>
      simp only [handleFeedback, handleActTerm] at member
      split at member
      · rename_i command found
        rw [sendActTerm_snd, List.mem_singleton] at member
        rw [member]
        exact
          .actTerm assetName dp now command
            (List.mem_of_find?_eq_some found) isNegative
      · simp at member

/-- The inversion lemma: what a step emits. -/
theorem emits_of_mem_step
    (member : effect ∈ (step platform system event).2) :
    Emits system event effect := by
  cases event with
  | command connection asdu checkTime rcvdTime =>
      simp only [step] at member
      rcases
          enterAsduHandler_cases platform system.server connection asdu
            checkTime rcvdTime with
        ⟨io, parameters, isSelect, -, -, entered⟩ |
          ⟨cot, -, -, entered⟩ | ⟨-, -, entered⟩
      · rw [entered] at member
        dsimp only at member
        split at member
        · rw [List.mem_singleton.mp member]
          exact .handOver connection asdu checkTime rcvdTime _
        · rw [List.mem_singleton.mp member]
          exact
            .answer connection asdu checkTime rcvdTime _ Cot.activationCon
      · rw [entered] at member
        rw [List.mem_singleton.mp member]
        exact .answer connection asdu checkTime rcvdTime none cot
      · rw [entered] at member
        simp at member
  | operationReturned address result =>
      simp only [step] at member
      split at member
      · simp at member
      · rename_i handler found
        rw [operationReturned] at member
        split at member
        · simp at member
        · rw [List.mem_singleton.mp member]
          exact
            .failure address result handler
              (List.mem_of_find?_eq_some found)
  | datapoint assetName dp now =>
      cases reads : readObject platform system.server dp with
      | none =>
          rcases sendDatapoint_noRead platform assetName now reads with
            ⟨processed, effects, sent, leaves⟩
          simp only [step, sent] at member
          rcases leaves.effects with rfl | ⟨feedback, rfl⟩
          · simp at member
          · exact emits_feedback member
      | some object =>
          rw [step_datapoint_read platform system assetName now reads]
            at member
          rcases enqueuedFor_enqueues platform member with ⟨data, rfl⟩
          exact .enqueue assetName dp now data
  | interrogation connection asdu qoi =>
      exact
        .reply connection asdu qoi effect
          (isReply_interrogationHandler platform system.server connection
            asdu qoi effect member)
  | scanTimeouts currentTime => simp [step] at member
  | connection con peerAddress event =>
      rcases audit_of_mem_connectionEvent member with
        ⟨level, message, rfl⟩
      exact .audit con peerAddress event level message
  | slaveRunning running => simp [step] at member
  | registerControl => simp [step] at member

end Inversion

/-! ## Interrogations leave no trace -/

section Traceless

variable (platform : Platform)

/-- The event is an interrogation. -/
def isInterrogation : Event → Bool
  | .interrogation _ _ _ => true
  | _ => false

/-- The effect replies to an interrogation; no other message has this form. -/
def isReply : Effect → Bool
  | .sendActCon none _ _ _ => true
  | .sendActTerm none _ _ => true
  | .sendData _ _ => true
  | _ => false

/-- Exactly the interrogations are answered with replies. -/
theorem isReply_of_emits {system : System} {event : Event}
    {effect : Effect} (emits : Emits system event effect) :
    isReply effect = isInterrogation event := by
  cases emits with
  | reply connection asdu qoi _ reply => cases reply <;> rfl
  | handOver => rfl
  | answer => rfl
  | failure => rfl
  | actCon => rfl
  | actTerm => rfl
  | enqueue => rfl
  | audit => rfl

/-- An interrogation leaves the system as it was. -/
theorem step_interrogation_fst (system : System) (connection : Connection)
    (asdu : Asdu) (qoi : Nat) :
    (step platform system (.interrogation connection asdu qoi)).1 =
      system := by
  rw [step, interrogationHandler_server]

/-- The server refines itself without interrogations. -/
theorem refines_without_interrogations :
    Refines (machine platform) (machine platform) id
      (Option.guard fun event => !isInterrogation event)
      (Option.guard fun effect => !isReply effect) where
  shown system event projected projection := by
    rcases Option.guard_eq_some_iff.mp projection with ⟨rfl, other⟩
    refine ⟨rfl, ?_⟩
    rw [List.filterMap_eq_filter, id_eq, machine_step, List.filter_eq_self]
    intro effect member
    rw [isReply_of_emits (emits_of_mem_step platform member)]
    exact other
  hidden system event projection := by
    rw [Option.guard_eq_none_iff] at projection
    cases event with
    | interrogation connection asdu qoi =>
        refine ⟨step_interrogation_fst platform system connection asdu qoi, ?_⟩
        rw [List.filterMap_eq_filter, machine_step, List.filter_eq_nil_iff]
        intro effect member
        rw [isReply_of_emits (emits_of_mem_step platform member)]
        simp [isInterrogation]
    | _ => simp [isInterrogation] at projection

/--
Interrogations can be taken out of any run: the system ends in the same state,
and everything but the replies to them is sent as before.
-/
theorem interrogations_leaveNoTrace (start : System)
    (events : List Event) :
    let others := events.filter fun event => !isInterrogation event
    (machine platform).after start events =
        (machine platform).after start others ∧
      ((machine platform).outputs start events).filter
          (fun effect => !isReply effect) =
        (machine platform).outputs start others := by
  have refines := refines_without_interrogations platform
  have projected := List.filterMap_eq_filter (p := fun event : Event =>
    !isInterrogation event)
  have visible := List.filterMap_eq_filter (p := fun effect : Effect =>
    !isReply effect)
  refine ⟨?_, ?_⟩
  · have after := refines.after start events
    rw [projected] at after
    exact after
  · have outputs := refines.outputs start events
    rw [projected, visible] at outputs
    exact outputs

end Traceless

end Iec104North.StepEffects
