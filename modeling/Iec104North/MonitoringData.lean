import Iec104North.InterrogationResponse
import Iec104North.TableReads

/-!
# Monitoring data of a step

The ASDUs with monitoring data which one step hands to lib60870: a data object
enqueues the point it was applied to, an interrogation sends the covered points
of the common addresses it is for, and nothing else sends or enqueues any.
-/

namespace Iec104North.MonitoringData

open Iec104North.Library
open Iec104North.AsduTypes
open Iec104North.Values
open Iec104North.Config
open Iec104North.DataPoints
open Iec104North.Server
open Iec104North.Server.IEC104Server
open Iec104North.OutstandingCommands
open Iec104North.Commands
open Iec104North.CommandPaths
open Iec104North.LedgerRefinement
open Iec104North.Readings
open Iec104North.Interrogation
open Iec104North.InterrogationResponse
open Iec104North.Connections
open Iec104North.Runs
open Iec104North.TableReads

/-- The ASDU with monitoring data that is sent or enqueued. -/
def dataAsduOf : Effect → Option DataAsdu
  | .sendData _ asdu => some asdu
  | .enqueueAsdu asdu => some asdu
  | _ => none

/-- The ASDUs with monitoring data, in the order of the calls. -/
def dataAsdus (effects : List Effect) : List DataAsdu :=
  effects.filterMap dataAsduOf

@[simp]
theorem dataAsdus_nil : dataAsdus [] = [] :=
  rfl

@[simp]
theorem dataAsdus_append (first second : List Effect) :
    dataAsdus (first ++ second) = dataAsdus first ++ dataAsdus second :=
  List.filterMap_append

theorem mem_dataAsdus_of_enqueued {effects : List Effect}
    {asdu : DataAsdu} (enqueued : .enqueueAsdu asdu ∈ effects) :
    asdu ∈ dataAsdus effects :=
  List.mem_filterMap.mpr ⟨_, enqueued, rfl⟩

/-! ## Steps without monitoring data -/

section Silent

variable (platform : Platform)

theorem dataAsdus_command (server : IEC104Server)
    (connection : Connection) (asdu : Asdu) (checkTime rcvdTime : Nat) :
    dataAsdus
        (enterAsduHandler platform server connection asdu checkTime
          rcvdTime).effects =
      [] := by
  rcases
      enterAsduHandler_cases platform server connection asdu checkTime
        rcvdTime with
    ⟨io, parameters, isSelect, -, -, entered⟩ | ⟨cot, -, -, entered⟩ |
      ⟨-, -, entered⟩
  · rw [entered]
    dsimp only
    split <;> rfl
  · rw [entered]
    rfl
  · rw [entered]
    rfl

theorem dataAsdus_operationReturned (handler : PendingOperation)
    (result : Int) :
    dataAsdus (operationReturned handler result) = [] := by
  rw [operationReturned]
  split <;> rfl

@[simp]
theorem dataAsdus_connectionStatusAudit (server : IEC104Server)
    (auditType index letter : String) :
    dataAsdus
        (sendConnectionStatusAudit server auditType index letter).2 =
      [] := by
  simp only [sendConnectionStatusAudit]
  split <;> rfl

@[simp]
theorem dataAsdus_globalStatusAudit (server : IEC104Server)
    (auditType : String) :
    dataAsdus (sendGlobalStatusAudit server auditType).2 = [] := by
  simp only [sendGlobalStatusAudit]
  split <;> rfl

theorem dataAsdus_slotEvent (server : IEC104Server) (group slot : Nat)
    (con : Connection) (event : PeerConnectionEvent) :
    dataAsdus (handleSlotEvent server group slot con event).2 = [] := by
  cases event with
  | opened => simp [handleSlotEvent]
  | closed =>
      simp only [handleSlotEvent]
      split <;> simp
  | activated => simp [handleSlotEvent]
  | deactivated => simp [handleSlotEvent]

theorem dataAsdus_connectionEvent (server : IEC104Server)
    (con : Connection) (peerAddress : String)
    (event : PeerConnectionEvent) :
    dataAsdus (connectionEventHandler server con peerAddress event).2 =
      [] := by
  simp only [connectionEventHandler]
  split
  · rfl
  · exact dataAsdus_slotEvent _ _ _ con event

theorem dataAsdus_feedback (server : IEC104Server)
    (feedback : CommandLedger.Feedback) :
    dataAsdus (handleFeedback server feedback).2 = [] := by
  rcases feedback with ⟨kind, type, ca, ioa, isNegative⟩
  cases kind with
  | actCon =>
      simp only [handleFeedback, handleActCon]
      split
      · simp [sendActCon_snd, dataAsdus, dataAsduOf]
      · rfl
  | actTerm =>
      simp only [handleFeedback, handleActTerm]
      split
      · simp [sendActTerm_snd, dataAsdus, dataAsduOf]
      · rfl

theorem dataAsdus_noRead (system : System) (assetName : String)
    (dp : Datapoint) (now : Nat)
    (noRead : readObject platform system.server dp = none) :
    dataAsdus (step platform system (.datapoint assetName dp now)).2 =
      [] := by
  rcases sendDatapoint_noRead platform assetName now noRead with
    ⟨processed, effects, sent, leaves⟩
  simp only [step, sent]
  rcases leaves.effects with rfl | ⟨feedback, rfl⟩
  · rfl
  · exact dataAsdus_feedback system.server feedback

end Silent

/-! ## Interrogations -/

section Interrogations

variable (platform : Platform) (connection : Connection) (asdu : Asdu)
  (qoi : Nat)

/-- Tables with the same content give the same objects. -/
theorem responseObjects_of_sameEntries {before after : PointTable}
    (same : SameEntries before after) (ca : Int) :
    responseObjects after ca qoi = responseObjects before ca qoi := by
  have device : after.device ca = before.device ca := by
    apply Std.ExtTreeMap.ext_getElem?
    intro ioa
    rw [PointTable.device_entry, PointTable.device_entry, same.entries]
  rw [responseObjects, responseObjects, device]

theorem dataAsdus_response (server : IEC104Server) (ca : Int) :
    dataAsdus
        (sendInterrogationResponse platform server connection asdu ca
          qoi).2 =
      responseAsdus platform server.config.appLayerParameters asdu ca
        (responseObjects server.exchangeDefinitions ca qoi) := by
  have sent : dataAsduOf ∘ Effect.sendData connection = some := rfl
  rw [sendInterrogationResponse, dataAsdus_append, dataAsdus_append]
  simp [dataAsdus, dataAsduOf, List.filterMap_map, List.filterMap_cons,
    sent, responseObjects]

/-- The loop answers each CA from the table as it was. -/
theorem dataAsdus_respondEach (server : IEC104Server)
    (addresses : List Int)
    (configured :
      ∀ ca ∈ addresses, server.exchangeDefinitions.HasDevice ca) :
    dataAsdus
        (respondEach platform connection asdu qoi server addresses).2 =
      addresses.flatMap fun ca =>
        responseAsdus platform server.config.appLayerParameters asdu ca
          (responseObjects server.exchangeDefinitions ca qoi) := by
  induction addresses generalizing server with
  | nil => rfl
  | cons ca rest ih =>
      have same :
          SameEntries server.exchangeDefinitions
            (server.exchangeDefinitions.touchDevice ca) :=
        .touchDevice (configured ca (by simp))
      have later :=
        ih
          (sendInterrogationResponse platform server connection asdu ca qoi).1
          (fun other member =>
            (same.devices other).mpr (configured other (by simp [member])))
      rw [respondEach, dataAsdus_append, dataAsdus_response, later,
        List.flatMap_cons]
      congr 2
      funext other
      exact
        congrArg _
          (responseObjects_of_sameEntries qoi same other)

/-- An interrogation is for a common address of the table. -/
def IsInterrogated (server : IEC104Server) (ca : Int) : Prop :=
  20 ≤ qoi ∧
    qoi ≤ 36 ∧
    server.exchangeDefinitions.HasDevice ca ∧
    (isBroadcastCA asdu.ca server.config.appLayerParameters = true ∨
      asdu.ca = ca)

/-- What an interrogation sends. -/
theorem mem_dataAsdus_interrogation (server : IEC104Server)
    (data : DataAsdu) :
    data ∈
        dataAsdus
          (interrogationHandler platform server connection asdu qoi).2 ↔
      ∃ ca,
        IsInterrogated asdu qoi server ca ∧
          data ∈
            responseAsdus platform server.config.appLayerParameters asdu ca
              (responseObjects server.exchangeDefinitions ca qoi) := by
  simp only [interrogationHandler, IsInterrogated]
  split
  · rename_i outside
    constructor
    · intro member
      simp [dataAsdus, dataAsduOf] at member
    · rintro ⟨ca, ⟨low, high, -⟩, -⟩
      omega
  rename_i within
  split
  · rename_i broadcast
    rw [dataAsdus_respondEach platform connection asdu qoi server _
      fun ca member => (mem_keys_iff _ ca).mp member, List.mem_flatMap]
    simp only [mem_keys_iff, broadcast, true_or, and_true]
    exact exists_congr fun ca => by
      rw [show 20 ≤ qoi ∧ qoi ≤ 36 ∧ _ ↔ _ from
        ⟨fun all => all.2.2, fun has => ⟨by omega, by omega, has⟩⟩]
  rename_i single
  split
  · rename_i configured
    rw [dataAsdus_response]
    constructor
    · intro member
      exact
        ⟨asdu.ca, ⟨by omega, by omega, configured, Or.inr rfl⟩, member⟩
    · rintro ⟨ca, ⟨-, -, -, broadcast | rfl⟩, member⟩
      · exact absurd broadcast single
      · exact member
  · rename_i unconfigured
    constructor
    · intro member
      simp [dataAsdus, dataAsduOf] at member
    · rintro ⟨ca, ⟨-, -, configured, broadcast | rfl⟩, -⟩
      · exact absurd broadcast single
      · exact absurd configured unconfigured

end Interrogations

/-! ## Steps -/

section Steps

variable (platform : Platform) {system : System} {event : Event}
  {data : DataAsdu}

theorem enqueuedFor_enqueues {server : IEC104Server} {object : DataObject}
    {now : Nat} {effect : Effect}
    (member : effect ∈ enqueuedFor platform server object now) :
    ∃ asdu, effect = .enqueueAsdu asdu := by
  rcases exists_of_mem_enqueuedFor platform member with
    ⟨point, updated, -, -, enqueued⟩
  simp only [enqueueSpontDatapoint] at enqueued
  split at enqueued
  · simp at enqueued
  · exact ⟨_, List.mem_singleton.mp enqueued⟩

/--
A monitoring ASDU of a step is enqueued for a data object, or answers an
interrogation of a common address.
-/
theorem mem_dataAsdus_step
    (member : data ∈ dataAsdus (step platform system event).2) :
    (∃ assetName dp now object,
        event = .datapoint assetName dp now ∧
          readObject platform system.server dp = some object ∧
          .enqueueAsdu data ∈
            enqueuedFor platform system.server object now) ∨
      ∃ connection asdu qoi ca,
        event = .interrogation connection asdu qoi ∧
          IsInterrogated asdu qoi system.server ca ∧
          data ∈
            responseAsdus platform
              system.server.config.appLayerParameters asdu ca
              (responseObjects system.server.exchangeDefinitions ca
                qoi) := by
  cases event with
  | command connection asdu checkTime rcvdTime =>
      simp only [step, dataAsdus_command] at member
      simp at member
  | operationReturned address result =>
      simp only [step] at member
      split at member
      · simp at member
      · simp [dataAsdus_operationReturned] at member
  | datapoint assetName dp now =>
      cases reads : readObject platform system.server dp with
      | none =>
          rw [dataAsdus_noRead platform system assetName dp now reads]
            at member
          simp at member
      | some object =>
          rw [step_datapoint_read platform system assetName now reads]
            at member
          refine Or.inl ⟨assetName, dp, now, object, rfl, reads, ?_⟩
          rcases List.mem_filterMap.mp member with ⟨effect, enqueued, isData⟩
          rcases enqueuedFor_enqueues platform enqueued with ⟨asdu, rfl⟩
          rcases Option.some.inj isData with rfl
          exact enqueued
  | interrogation connection asdu qoi =>
      rcases
          (mem_dataAsdus_interrogation platform connection asdu qoi
            system.server data).mp member with
        ⟨ca, interrogated, sent⟩
      exact
        Or.inr ⟨connection, asdu, qoi, ca, rfl, interrogated, sent⟩
  | scanTimeouts currentTime => simp [step] at member
  | connection con peerAddress event =>
      simp only [step, dataAsdus_connectionEvent] at member
      simp at member
  | slaveRunning running => simp [step] at member
  | registerControl => simp [step] at member

end Steps

end Iec104North.MonitoringData
