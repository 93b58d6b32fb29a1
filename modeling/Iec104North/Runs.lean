import Iec104North.Commands
import Iec104North.Connections
import Iec104North.Interrogation
import Iec104North.Library.Machine
import Iec104North.Readings

/-!
# Runs of the server

The threads of the server interleave: lib60870 calls the handlers, Fledge calls
`send`, and the monitoring thread scans for timeouts.  An event is one step of
one of them.  A command handler makes two: one until it is in the control
callback, one when the callback has returned.
-/

namespace Iec104North.Runs

open Iec104North.Library
open Iec104North.Values
open Iec104North.Server
open Iec104North.OutstandingCommands
open Iec104North.Commands
open Iec104North.Readings
open Iec104North.Interrogation
open Iec104North.Connections

/-- One step of one thread, with what it reads from the outside. -/
inductive Event where
  | command (connection : Connection) (asdu : Asdu)
      (checkTime rcvdTime : Nat)
  | operationReturned (address : Nat) (result : Int)
  | datapoint (assetName : String) (dp : Datapoint) (now : Nat)
  | interrogation (connection : Connection) (asdu : Asdu) (qoi : Nat)
  | scanTimeouts (currentTime : Nat)
  | connection (con : Connection) (peerAddress : String)
      (event : PeerConnectionEvent)
  | slaveRunning (running : Bool)
  | registerControl
deriving DecidableEq, Repr

/-- The server and the command handlers that are in the control callback. -/
structure System where
  server : IEC104Server
  pending : List PendingOperation := []

/-- Pick a handler that is in the callback for the command at an address. -/
def isPendingFor (address : Nat) (pending : PendingOperation) : Bool :=
  pending.command.address == address

/-- One step of the system. -/
def step (platform : Platform) (system : System) :
    Event → System × List Effect
  | .command connection asdu checkTime rcvdTime =>
      let entered :=
        enterAsduHandler platform system.server connection asdu checkTime
          rcvdTime
      (⟨entered.server, system.pending ++ entered.pending.toList⟩,
        entered.effects)
  | .operationReturned address result =>
      match system.pending.find? (isPendingFor address) with
      | none => (system, [])
      | some pending =>
          (⟨system.server, system.pending.eraseP (isPendingFor address)⟩,
            operationReturned pending result)
  | .datapoint assetName dp now =>
      match sendDatapoint platform system.server assetName dp now with
      | .error _ => (system, [])
      | .ok (server, effects) => (⟨server, system.pending⟩, effects)
  | .interrogation connection asdu qoi =>
      let handled :=
        interrogationHandler platform system.server connection asdu qoi
      (⟨handled.1, system.pending⟩, handled.2)
  | .scanTimeouts currentTime =>
      (⟨scanTimeouts system.server currentTime, system.pending⟩, [])
  | .connection con peerAddress event =>
      let handled :=
        connectionEventHandler system.server con peerAddress event
      (⟨handled.1, system.pending⟩, handled.2)
  | .slaveRunning running =>
      (⟨{ system.server with slaveRunning := running }, system.pending⟩, [])
  | .registerControl =>
      (⟨{ system.server with operRegistered := true }, system.pending⟩, [])

/-- The server as an event-driven machine. -/
def machine (platform : Platform) : Machine System Event Effect :=
  ⟨step platform⟩

@[simp]
theorem machine_step (platform : Platform) (system : System)
    (event : Event) :
    (machine platform).step system event = step platform system event :=
  rfl

/-- The data points of a numbered batch, one after the other. -/
def batchEvents (clock : Nat → Nat)
    (numbered : List ((String × Datapoint) × Nat)) : List Event :=
  numbered.map fun entry =>
    .datapoint entry.1.1 entry.1.2 (clock entry.2)

/--
`send` is the run of the data points of its batch, up to the one that throws.
-/
theorem sendBatch_run (platform : Platform) (clock : Nat → Nat)
    (system : System) (numbered : List ((String × Datapoint) × Nat)) :
    ∃ processed,
      processed <+: batchEvents clock numbered ∧
        (machine platform).after system processed =
          ⟨(sendBatch platform clock system.server numbered).1,
            system.pending⟩ ∧
        (machine platform).outputs system processed =
          (sendBatch platform clock system.server numbered).2.1 ∧
        ((sendBatch platform clock system.server numbered).2.2 = none →
          processed = batchEvents clock numbered) := by
  induction numbered generalizing system with
  | nil => exact ⟨[], List.prefix_refl _, rfl, rfl, fun _ => rfl⟩
  | cons entry rest ih =>
      rcases entry with ⟨⟨assetName, dp⟩, index⟩
      cases sent :
          sendDatapoint platform system.server assetName dp (clock index) with
      | error exception =>
          refine ⟨[], List.nil_prefix, ?_, ?_, ?_⟩
          · simp [sendBatch, sent]
          · simp [sendBatch, sent]
          · simp [sendBatch, sent]
      | ok processed =>
          rcases processed with ⟨server, effects⟩
          rcases ih ⟨server, system.pending⟩ with
            ⟨later, isPrefix, after, outputs, whole⟩
          have first :
              step platform system
                  (.datapoint assetName dp (clock index)) =
                (⟨server, system.pending⟩, effects) := by
            simp [step, sent]
          refine
            ⟨.datapoint assetName dp (clock index) :: later, ?_, ?_, ?_, ?_⟩
          · simpa [batchEvents] using isPrefix
          · simpa [first, sendBatch, sent] using after
          · simpa [first, sendBatch, sent] using outputs
          · intro noException
            have all := whole (by simpa [sendBatch, sent] using noException)
            simp [all, batchEvents]

/-- A server which has received no command yet. -/
structure Initial (system : System) : Prop where
  outstanding : system.server.outstandingCommands = []
  pending : system.pending = []

/-- `sampleServer` before its first event. -/
def sampleSystem : System where
  server := sampleServer

/-- A data object for the command `sampleCommand`. -/
def sampleFeedback (cot : CauseOfTransmission) (isNegative : Int) :
    Datapoint where
  name := "data_object"
  attributes :=
    [⟨"do_type", .string "C_SC_NA_1"⟩, ⟨"do_ca", .integer 1⟩,
     ⟨"do_ioa", .integer 20⟩, ⟨"do_cot", .integer cot⟩,
     ⟨"do_negative", .integer isNegative⟩]

end Iec104North.Runs
