import Iec104North.CommandOutcomes
import Iec104North.Mailboxes

/-!
# A command and its acknowledgement

A command leaves the plugin as a list of strings, and its acknowledgement comes
back as a data object.  A south plugin that acknowledges with the type, CA and
IOA it was handed writes a data object in which `send` finds the key of the
command again, and the mailbox of this key has the command at its head: the
acknowledgement reaches the master which has sent the command.
-/

namespace Iec104North.CommandRoundTrip

open Iec104North.Library
open Iec104North.AsduTypes
open Iec104North.Values
open Iec104North.Server
open Iec104North.OutstandingCommands
open Iec104North.Commands
open Iec104North.CommandPaths
open Iec104North.CommandOutcomes
open Iec104North.CommandLedger
open Iec104North.LedgerRefinement
open Iec104North.FeedbackQueue
open Iec104North.Readings
open Iec104North.Runs
open Iec104North.Mailboxes

/-! ## The acknowledgement -/

/--
The data object of an acknowledgement, with the attributes south plugins give
it: `createCommandAck` of the tests.
-/
def createCommandAck (type : String) (ca ioa cot : Int)
    (isNegative : Bool) : Datapoint where
  name := "data_object"
  attributes :=
    [⟨"do_type", .string type⟩, ⟨"do_ca", .integer ca⟩,
      ⟨"do_oa", .integer 0⟩, ⟨"do_cot", .integer cot⟩,
      ⟨"do_test", .integer 0⟩,
      ⟨"do_negative", .integer (if isNegative then 1 else 0)⟩,
      ⟨"do_ioa", .integer ioa⟩]

/-- The cause of transmission of a kind of feedback. -/
def causeOf : FeedbackKind → CauseOfTransmission
  | .actCon => Cot.activationCon
  | .actTerm => Cot.activationTermination

/-- The parameter the control callback gets under a name. -/
def parameterOf (call : OperationCall) (name : String) : Option String :=
  (call.names.zip call.parameters).lookup name

/-- The number `std::stoi` reads in a parameter. -/
def numberOf (call : OperationCall) (name : String) : Option Int :=
  (parameterOf call name).bind fun parameter =>
    (stoi parameter.toList).toOption

/-- The acknowledgement for a command, from what was handed over of it. -/
def acknowledge (call : OperationCall) (kind : FeedbackKind)
    (isNegative : Bool) : Option Datapoint := do
  let type ← parameterOf call "co_type"
  let ca ← numberOf call "co_ca"
  let ioa ← numberOf call "co_ioa"
  return createCommandAck type ca ioa (causeOf kind) isNegative

/-- `co_se` says that the command is a select. -/
def isSelectIn (call : OperationCall) : Bool :=
  parameterOf call "co_se" == some "1"

/-- What is handed over for the master. -/
def messageFor (kind : FeedbackKind) (isSelect isNegative : Bool) :
    Message :=
  match kind with
  | .actCon => .actCon isSelect isNegative
  | .actTerm => .actTerm isNegative

/-! ## Reading it back -/

section RoundTrip

variable (platform : Platform)

/-- `send` reads an acknowledgement as the feedback it was written for. -/
theorem feedbackOf_createCommandAck {type : String} {ca ioa : Int}
    (caInRange : IsInt32 ca) (ioaInRange : IsInt32 ioa)
    (kind : FeedbackKind) (isNegative : Bool) :
    feedbackOf platform
        (createCommandAck type ca ioa (causeOf kind) isNegative) =
      some ⟨kind, getTypeIdFromString type, ca, ioa, isNegative⟩ := by
  have cot : toInt32 (causeOf kind) = causeOf kind := by
    cases kind <;> rfl
  have object :
      readDataObject platform
          (createCommandAck type ca ioa (causeOf kind) isNegative) =
        { type := getTypeIdFromString type
          ca := ca
          ioa := ioa
          cot := causeOf kind
          isNegative := isNegative } := by
    cases isNegative <;>
      simp [readDataObject, createCommandAck, readAttribute,
        platform.toInt_integer, platform.toStringValue_string, cot,
        toInt32_of_isInt32 caInRange, toInt32_of_isInt32 ioaInRange]
  rw [feedbackOf, object]
  cases kind <;> rfl

/-- The names of the types are read back as the types. -/
theorem getTypeIdFromString_of_mem {name : String} {typeId : TypeId}
    (member : (name, typeId) ∈ mapAsduTypeId) :
    getTypeIdFromString name = typeId.value := by
  have all :
      ∀ entry ∈ mapAsduTypeId,
        getTypeIdFromString entry.1 = entry.2.value := by
    decide
  exact all _ member

/-- What a call says of its command, and its acknowledgement. -/
theorem acknowledge_commandCall (server : IEC104Server) {asdu : Asdu}
    {command : CommandObject} {parameters : CommandParameters}
    {isSelect : Bool} (first : asdu.elements.head? = some command)
    (found :
      commandParameters platform asdu command = some (parameters, isSelect))
    (caInRange : IsInt32 asdu.ca)
    (ioaInRange : IsInt32 command.objectAddress) :
    isSelectIn (commandCall server parameters) = isSelect ∧
      ∀ kind isNegative,
        ∃ ack,
          acknowledge (commandCall server parameters) kind isNegative =
              some ack ∧
            feedbackOf platform ack =
              some
                ⟨kind, asdu.typeId, asdu.ca, command.objectAddress,
                  isNegative⟩ := by
  have describes := describes_commandParameters first found
  have coSe := (commandParameters_select found).1
  have ca : numberOf (commandCall server parameters) "co_ca" = some asdu.ca := by
    have parameter :
        parameterOf (commandCall server parameters) "co_ca" =
          some parameters.coCa :=
      rfl
    rw [numberOf, parameter, Option.bind_some, describes.coCa,
      stoi_toString caInRange]
    rfl
  have ioa :
      numberOf (commandCall server parameters) "co_ioa" =
        some command.objectAddress := by
    have parameter :
        parameterOf (commandCall server parameters) "co_ioa" =
          some parameters.coIoa :=
      rfl
    have written : toString command.objectAddress = parameters.coIoa := by
      have coIoa := describes.coIoa
      rw [first] at coIoa
      exact Option.some.inj coIoa
    rw [numberOf, parameter, Option.bind_some, ← written,
      stoi_toString ioaInRange]
    rfl
  rcases describes.coType with ⟨typeId, value, named⟩
  constructor
  · show (some parameters.coSe == some "1") = isSelect
    rw [coSe]
    cases isSelect <;> rfl
  · intro kind isNegative
    refine
      ⟨createCommandAck parameters.coType asdu.ca command.objectAddress
        (causeOf kind) isNegative, ?_, ?_⟩
    · rw [acknowledge, ca, ioa]
      rfl
    · rw [feedbackOf_createCommandAck platform caInRange ioaInRange,
        getTypeIdFromString_of_mem named, value]

end RoundTrip

/-! ## The oldest command of a mailbox -/

/--
Mail after which a command that is at the head still is: everything but the
feedback that ends it, the loss of its own connection, and a scan which is past
its deadline.
-/
def Spares (command : OutstandingCommand) : Mail → Prop
  | .command _ _ => True
  | .returned _ _ => True
  | .feedback kind isNegative =>
      kind = .actCon ∧ isNegative = false ∧ command.isSelect = false
  | .lost connection => connection ≠ command.connection
  | .scan currentTime => currentTime ≤ command.nextTimeout

instance (command : OutstandingCommand) :
    (mail : Mail) → Decidable (Spares command mail)
  | .command _ _ => .isTrue trivial
  | .returned _ _ => .isTrue trivial
  | .feedback kind isNegative =>
      inferInstanceAs
        (Decidable
          (kind = .actCon ∧ isNegative = false ∧ command.isSelect = false))
  | .lost connection =>
      inferInstanceAs (Decidable (connection ≠ command.connection))
  | .scan currentTime =>
      inferInstanceAs (Decidable (currentTime ≤ command.nextTimeout))

/-- The command is at the head, whatever progress it has made. -/
def IsOldest (command : OutstandingCommand) (mailbox : Mailbox) : Prop :=
  ∃ head rest,
    mailbox.waiting = head :: rest ∧
      SameCommand command head ∧ head.nextTimeout = command.nextTimeout

section Oldest

variable {command : OutstandingCommand} {mailbox : Mailbox}

/-- A test that the command does not pass leaves it at the head. -/
theorem IsOldest.without (oldest : IsOldest command mailbox)
    {test : OutstandingCommand → Bool}
    (fails :
      ∀ head,
        SameCommand command head →
          head.nextTimeout = command.nextTimeout → test head = false) :
    IsOldest command (mailbox.without test) := by
  rcases oldest with ⟨head, rest, waiting, same, deadline⟩
  refine ⟨head, rest.filter fun other => !test other, ?_, same, deadline⟩
  show mailbox.waiting.filter _ = _
  rw [waiting, List.filter_cons_of_pos]
  rw [fails head same deadline]
  rfl

theorem IsOldest.take (oldest : IsOldest command mailbox) (key : Key)
    {mail : Mail} (spares : Spares command mail) :
    IsOldest command (mailbox.take key mail).1 := by
  cases mail with
  | command handler registered =>
      rcases oldest with ⟨head, rest, waiting, same, deadline⟩
      refine ⟨head, rest ++ [handler.command], ?_, same, deadline⟩
      show mailbox.waiting ++ _ = _
      rw [waiting]
      rfl
  | returned handler refused => exact oldest
  | feedback kind isNegative =>
      rcases oldest with ⟨head, rest, waiting, same, deadline⟩
      rcases spares with ⟨rfl, rfl, execute⟩
      rcases
          answerHead_positive key rest (same.isSelect.trans execute) with
        ⟨changed, answered, kept, left⟩
      refine ⟨changed, rest, ?_, same.trans kept, left.trans deadline⟩
      show answerHead mailbox.waiting _ = _
      rw [waiting, answered]
  | lost connection =>
      apply oldest.without
      intro head same _
      rw [isSentFromConnection, same.connection]
      exact beq_eq_false_iff_ne.mpr spares
  | scan currentTime =>
      apply oldest.without
      intro head _ deadline
      rw [hasTimedOut, deadline]
      exact decide_eq_false (not_lt.mpr spares)

/-- The run lemma. -/
theorem IsOldest.run (oldest : IsOldest command mailbox) (key : Key)
    {mails : List Mail} (spared : ∀ mail ∈ mails, Spares command mail) :
    IsOldest command ((mailboxMachine key).after mailbox mails) := by
  induction mails generalizing mailbox with
  | nil => exact oldest
  | cons mail rest induction =>
      exact
        induction (oldest.take key (spared mail List.mem_cons_self))
          fun other member => spared other (List.mem_cons_of_mem mail member)

end Oldest

/-! ## The round trip -/

section Acknowledged

variable (platform : Platform)

/-- A command that was handed over, and what the callback got. -/
theorem handsOver_cases {system : System} {connection : Connection}
    {asdu : Asdu} {checkTime rcvdTime : Nat} {call : OperationCall}
    (handsOver :
      .operation call ∈
        (step platform system
          (.command connection asdu checkTime rcvdTime)).2) :
    ∃ io parameters isSelect,
      asdu.elements.head? = some io ∧
        commandParameters platform (forwardedAsdu asdu) io =
          some (parameters, isSelect) ∧
        call = commandCall system.server parameters ∧
        (step platform system
              (.command connection asdu checkTime
                rcvdTime)).1.server.outstandingCommands =
          system.server.outstandingCommands ++
            [newCommand system.server connection asdu rcvdTime isSelect] := by
  simp only [step] at handsOver ⊢
  rcases
      enterAsduHandler_cases platform system.server connection asdu checkTime
        rcvdTime with
    ⟨io, parameters, isSelect, admissible, found, entered⟩ |
      ⟨cot, -, -, entered⟩ | ⟨-, -, entered⟩
  · rw [entered] at handsOver ⊢
    refine ⟨io, parameters, isSelect, admissible.first, found, ?_, rfl⟩
    dsimp only at handsOver
    split at handsOver
    · rcases List.mem_singleton.mp handsOver with ⟨⟩
      rfl
    · cases List.mem_singleton.mp handsOver
  · rw [entered] at handsOver
    cases List.mem_singleton.mp handsOver
  · rw [entered] at handsOver
    exact absurd handsOver List.not_mem_nil

/-- Feedback is delivered to the oldest command of its key. -/
theorem deliveries_of_isOldest {system : System}
    {command : OutstandingCommand}
    (oldest : IsOldest command (mailboxOf (keyOf command) system))
    (running : system.server.slaveRunning = true) {feedback : Feedback}
    (sameKey : feedbackKey feedback = keyOf command) {dp : Datapoint}
    (carries : feedbackOf platform dp = some feedback)
    (assetName : String) (now : Nat) :
    deliveries
        (step platform system (.datapoint assetName dp now)).2 =
      [⟨command.address, command.connection,
        messageFor feedback.kind command.isSelect feedback.isNegative⟩] := by
  rcases oldest with ⟨head, rest, waiting, same, -⟩
  have queue :
      keyQueue (feedbackKey feedback) system.server.outstandingCommands =
        head :: rest := by
    rw [sameKey]
    exact waiting
  have move :
      moveOf platform system (.datapoint assetName dp now) =
        .answer feedback := by
    simp only [moveOf, running, if_true, carries]
  rw [(step_moves platform system (.datapoint assetName dp now)).2, move,
    Move.delivers, find?_fits, queue]
  show [feedback.deliver head] = _
  rw [Feedback.deliver, Feedback.message, same.address, same.connection,
    same.isSelect]
  rfl

end Acknowledged

/-- What the control callback gets for `sampleCommand`. -/
def sampleCall : OperationCall where
  operation := "IEC104Command"
  names := CommandParameters.names
  parameters := ["C_SC_NA_1", "1", "20", "7", "0", "0", "0", "", "1"]
  destination := none

/-- The callback returns, the same command comes again, and it is scanned. -/
def sampleBetween : List Event :=
  [.operationReturned 0 1, .command 2 sampleCommand 0 5,
    .datapoint "south" (sampleFeedback Cot.activationCon 0) 0,
    .scanTimeouts 100]

end Iec104North.CommandRoundTrip
