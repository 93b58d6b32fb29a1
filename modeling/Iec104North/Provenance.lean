import Iec104North.StepEffects

/-!
# Where messages come from

No message is made up: in every run, what the server sends on a connection
answers a command or an interrogation received on that connection before, and
mirrors its ASDU up to the fields an answer sets.  The commands and handlers the
server holds carry the ASDUs they came with, which is the invariant behind it.
-/

namespace Iec104North.Provenance

open Iec104North.Library
open Iec104North.Values
open Iec104North.Server
open Iec104North.OutstandingCommands
open Iec104North.Commands
open Iec104North.CommandPaths
open Iec104North.CommandLedger
open Iec104North.LedgerRefinement
open Iec104North.Interrogation
open Iec104North.Runs
open Iec104North.InterrogationReplies
open Iec104North.StepEffects

/-! ## What is held -/

/-- Commands and handlers hold what has a property, each on its connection. -/
structure HoldsOnly (property : Connection → Asdu → Prop)
    (ledger : Ledger) : Prop where
  outstanding :
    ∀ command ∈ ledger.outstanding,
      property command.connection command.receivedAsdu
  pending :
    ∀ handler ∈ ledger.pending,
      property handler.connection handler.asdu

namespace HoldsOnly

variable {property : Connection → Asdu → Prop} {ledger : Ledger}

theorem mono {other : Connection → Asdu → Prop}
    (holds : HoldsOnly property ledger)
    (weaker : ∀ connection asdu,
      property connection asdu → other connection asdu) :
    HoldsOnly other ledger :=
  ⟨fun command member => weaker _ _ (holds.outstanding command member),
    fun handler member => weaker _ _ (holds.pending handler member)⟩

/-- Feedback changes neither the connection nor the ASDU of a command. -/
theorem leaves_mirrors {feedback : Feedback}
    {command changed : OutstandingCommand}
    (left : feedback.leaves command = some changed) :
    changed.connection = command.connection ∧
      changed.receivedAsdu = command.receivedAsdu := by
  rw [Feedback.leaves] at left
  split at left
  · rw [afterActCon_eq_some left, sendActCon]
    split <;> exact ⟨rfl, rfl⟩
  · simp at left

/-- A move keeps what is held, if what it enters has the property. -/
theorem move (holds : HoldsOnly property ledger) (move : Move)
    (enters :
      ∀ handler registered, move = .enter handler registered →
        property handler.command.connection handler.command.receivedAsdu ∧
          property handler.connection handler.asdu) :
    HoldsOnly property (ledger.move move) := by
  cases move with
  | enter handler registered =>
      rcases enters handler registered rfl with ⟨asCommand, asHandler⟩
      constructor
      · intro command member
        rcases List.mem_append.mp member with earlier | new
        · exact holds.outstanding command earlier
        · rcases List.mem_singleton.mp new with rfl
          exact asCommand
      · intro other member
        rcases List.mem_append.mp member with earlier | new
        · exact holds.pending other earlier
        · split at new
          · rcases List.mem_singleton.mp new with rfl
            exact asHandler
          · simp at new
  | returned handler refused =>
      exact
        ⟨holds.outstanding,
          fun other member =>
            holds.pending other (List.mem_of_mem_eraseP member)⟩
  | answer feedback =>
      refine ⟨?_, holds.pending⟩
      intro command member
      rcases mem_alterFirst feedback.fits feedback.leaves member with
        earlier | ⟨hit, found, left⟩
      · exact holds.outstanding command earlier
      · rcases leaves_mirrors left with ⟨connection, asdu⟩
        rw [connection, asdu]
        exact holds.outstanding hit (List.mem_of_find?_eq_some found)
  | discard test =>
      exact
        ⟨fun command member =>
            holds.outstanding command (List.mem_of_mem_filter member),
          holds.pending⟩
  | idle => exact holds

end HoldsOnly

/-! ## Received commands -/

/-- A command with this ASDU, up to COT and negative flag, was received. -/
def CommandReceived (events : List Event) (connection : Connection)
    (asdu : Asdu) : Prop :=
  ∃ received checkTime rcvdTime cot isNegative,
    .command connection received checkTime rcvdTime ∈ events ∧
      asdu = { received with cot := cot, isNegative := isNegative }

/-- An interrogation with this ASDU was received. -/
def InterrogationReceived (events : List Event) (connection : Connection)
    (asdu : Asdu) : Prop :=
  ∃ qoi, .interrogation connection asdu qoi ∈ events

theorem CommandReceived.later {events : List Event}
    {connection : Connection} {asdu : Asdu}
    (received : CommandReceived events connection asdu) (event : Event) :
    CommandReceived (events ++ [event]) connection asdu := by
  rcases received with
    ⟨original, checkTime, rcvdTime, cot, isNegative, member, mirrored⟩
  exact
    ⟨original, checkTime, rcvdTime, cot, isNegative,
      List.mem_append_left _ member, mirrored⟩

theorem CommandReceived.withNegative {events : List Event}
    {connection : Connection} {asdu : Asdu}
    (received : CommandReceived events connection asdu) (isNegative : Bool) :
    CommandReceived events connection
      { asdu with isNegative := isNegative } := by
  rcases received with
    ⟨original, checkTime, rcvdTime, cot, -, member, rfl⟩
  exact
    ⟨original, checkTime, rcvdTime, cot, isNegative, member, rfl⟩

section Runs

variable (platform : Platform) {start : System}

/-- In every run, what is held was received before. -/
theorem holdsOnly_run (initial : Initial start) (events : List Event) :
    HoldsOnly (CommandReceived events)
      (view ((machine platform).after start events)) := by
  induction events using List.reverseRecOn with
  | nil =>
      constructor
      · simp [view, initial.outstanding]
      · simp [view, initial.pending]
  | append_singleton events event induction =>
      rw [view_concat]
      refine
        (induction.mono fun connection asdu received =>
          received.later event).move _ ?_
      intro handler registered enters
      rcases moveOf_enter platform enters with
        ⟨connection, asdu, checkTime, rcvdTime, isSelect, rfl, rfl, -⟩
      have received :
          CommandReceived
            (events ++ [.command connection asdu checkTime rcvdTime])
            connection (forwardedAsdu asdu) :=
        ⟨asdu, checkTime, rcvdTime, Cot.activationCon, asdu.isNegative,
          by simp, rfl⟩
      exact ⟨received, received⟩

end Runs

/-! ## Messages -/

/-- What has been received answers for a message of the server. -/
inductive Answers (events : List Event) (server : IEC104Server) :
    Effect → Prop
  | actCon (command : OutstandingCommand) (connection : Connection)
      (asdu : Asdu) (negative : Bool)
      (received : CommandReceived events connection asdu) :
      Answers events server
        (.sendActCon (some command) connection asdu negative)
  | actTerm (command : OutstandingCommand) (connection : Connection)
      (asdu : Asdu)
      (received : CommandReceived events connection asdu) :
      Answers events server (.sendActTerm (some command) connection asdu)
  | answer (command : Option OutstandingCommand) (connection : Connection)
      (asdu : Asdu) (negative : asdu.isNegative = true)
      (received : CommandReceived events connection asdu) :
      Answers events server (.sendAsdu command connection asdu)
  | interrogation (connection : Connection) (asdu : Asdu) (effect : Effect)
      (received : InterrogationReceived events connection asdu)
      (reply : IsReply server connection asdu effect) :
      Answers events server effect

/-- The connection a message is sent on; the rest is for no master alone. -/
def sentOn : Effect → Option Connection
  | .sendActCon _ connection _ _ => some connection
  | .sendActTerm _ connection _ => some connection
  | .sendAsdu _ connection _ => some connection
  | .sendData connection _ => some connection
  | .enqueueAsdu _ => none
  | .operation _ => none
  | .audit _ _ => none

/--
In every run, each message on a connection answers a command or an
interrogation which was received on the same connection before, and mirrors
its ASDU; the replies to an interrogation are for its CA or, on a broadcast,
for one of the table.
-/
theorem messages_answerReceived (platform : Platform) {start : System}
    (initial : Initial start) {events : List Event} {event : Event}
    {effect : Effect}
    (member :
      effect ∈
        (step platform ((machine platform).after start events) event).2)
    (isMessage : (sentOn effect).isSome) :
    Answers (events ++ [event]) ((machine platform).after start events).server
      effect := by
  have holds := holdsOnly_run platform initial events
  cases emits_of_mem_step platform member with
  | handOver => simp [sentOn] at isMessage
  | answer connection asdu checkTime rcvdTime command cot =>
      exact
        .answer command connection _ rfl
          ⟨asdu, checkTime, rcvdTime, cot, true, by simp, rfl⟩
  | failure address result handler isPending =>
      exact
        .answer _ handler.connection _ rfl
          (((holds.pending handler isPending).later _).withNegative true)
  | actCon assetName dp now command isOutstanding negative =>
      exact
        .actCon command _ _ negative
          ((holds.outstanding command isOutstanding).later _)
  | actTerm assetName dp now command isOutstanding negative =>
      exact
        .actTerm command _ _
          (((holds.outstanding command isOutstanding).later
            _).withNegative negative)
  | enqueue => simp [sentOn] at isMessage
  | reply connection asdu qoi _ reply =>
      exact .interrogation connection asdu _ ⟨qoi, by simp⟩ reply
  | audit => simp [sentOn] at isMessage

/-- An activation confirmation from the south is sent for the command. -/
theorem messages_answerReceived_sample :
    Answers
      ([.command 1 sampleCommand 0 0] ++
        [.datapoint "south" (sampleFeedback Cot.activationCon 0) 0])
      ((machine samplePlatform).after sampleSystem
        [.command 1 sampleCommand 0 0]).server
      (.sendActCon (some (newCommand sampleServer 1 sampleCommand 0 false)) 1
        (forwardedAsdu sampleCommand) false) :=
  messages_answerReceived samplePlatform
    (show Initial sampleSystem from ⟨rfl, rfl⟩) (by decide) rfl

end Iec104North.Provenance
