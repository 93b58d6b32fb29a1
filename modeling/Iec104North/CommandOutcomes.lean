import Iec104North.CommandPaths
import Iec104North.Library.Decimals

/-!
# The outcome of a command

A supported command should either be rejected at once, without a trace in the
list of outstanding commands, or be taken, silently and with one new entry.
The handler adds the entry before it knows whether the callback succeeds, so
that a command whose forwarding fails has both the answer and the entry.

The nine parameters of a forwarded command describe it, except that setpoint
commands lose the S/E bit of their qualifier, and that a setpoint with a
fraction is written with six decimals.
-/

namespace Iec104North.CommandOutcomes

open Iec104North.AsduTypes
open Iec104North.Library
open Iec104North.Values
open Iec104North.Server
open Iec104North.OutstandingCommands
open Iec104North.Commands
open Iec104North.CommandPaths

/-! ## Rejected or taken -/

/-- An effect that sends an ASDU on a connection. -/
def isReply : Effect → Bool
  | .sendActCon _ _ _ _ => true
  | .sendActTerm _ _ _ => true
  | .sendAsdu _ _ _ => true
  | .sendData _ _ => true
  | .enqueueAsdu _ => false
  | .operation _ => false
  | .audit _ _ => false

/-- One negative reply, and the outstanding commands are as they were. -/
structure Rejected (before after : IEC104Server) (effects : List Effect) :
    Prop where
  reply :
    ∃ command connection answer,
      effects.filter isReply = [.sendAsdu command connection answer] ∧
        answer.isNegative = true
  outstanding : after.outstandingCommands = before.outstandingCommands

/-- No reply, and one new outstanding command at the end of the list. -/
structure Taken (connection : Connection) (asdu : Asdu)
    (before after : IEC104Server) (effects : List Effect) : Prop where
  silent : effects.filter isReply = []
  outstanding :
    ∃ command,
      after.outstandingCommands = before.outstandingCommands ++ [command] ∧
        command.typeId = asdu.typeId ∧
        command.ca = asdu.ca ∧
        asdu.elements.head?.map CommandObject.objectAddress =
          some command.ioa ∧
        command.connection = connection

/-- The command is admissible, but its forwarding fails. -/
def ForwardingFails (platform : Platform) (server : IEC104Server)
    (asdu : Asdu) (checkTime : Nat) (result : Int) : Prop :=
  (∃ io, Admissible platform server asdu io checkTime) ∧
    (server.operRegistered = false ∨ result ≤ 0)

variable (platform : Platform) (server : IEC104Server)
  (connection : Connection) (asdu : Asdu) (checkTime rcvdTime : Nat)
  (result : Int)

theorem not_rejected_of_taken {before after : IEC104Server}
    {effects : List Effect}
    (taken : Taken connection asdu before after effects) :
    ¬ Rejected before after effects := by
  intro rejected
  rcases taken.outstanding with ⟨command, grown, -⟩
  have same := rejected.outstanding
  rw [grown] at same
  simp at same

/-- The new entry describes the command it was created for. -/
theorem newCommand_describes {io : CommandObject}
    (first : asdu.elements.head? = some io) (isSelect : Bool) :
    asdu.elements.head?.map CommandObject.objectAddress =
      some
        (newCommand server connection asdu rcvdTime isSelect).ioa := by
  simp [newCommand, forwardedAsdu, create, first]

/-- A command whose forwarding fails is answered and stays in the list. -/
theorem neither_of_forwardingFails
    (fails : ForwardingFails platform server asdu checkTime result) :
    let handled :=
      asduHandler platform server connection asdu checkTime rcvdTime result
    ¬ Rejected server handled.2.1 handled.2.2 ∧
      ¬ Taken connection asdu server handled.2.1 handled.2.2 := by
  rcases fails with ⟨⟨io, admissible⟩, failure⟩
  rcases
      asduHandler_admissible platform server connection asdu checkTime rcvdTime
        result admissible with
    ⟨parameters, isSelect, -, handled⟩
  have refused : ¬ (server.operRegistered = true ∧ 0 < result) := by
    rcases failure with unregistered | negative
    · simp [unregistered]
    · intro success
      omega
  simp only [handled, if_neg refused]
  constructor
  · intro rejected
    have same := rejected.outstanding
    simp [addCommand] at same
  · intro taken
    have silent := taken.silent
    simp [refusal, isReply] at silent

theorem taken_of_forwarded {io : CommandObject}
    (admissible : Admissible platform server asdu io checkTime)
    (registered : server.operRegistered = true) (success : 0 < result) :
    let handled :=
      asduHandler platform server connection asdu checkTime rcvdTime result
    Taken connection asdu server handled.2.1 handled.2.2 := by
  rcases
      asduHandler_admissible platform server connection asdu checkTime rcvdTime
        result admissible with
    ⟨parameters, isSelect, -, handled⟩
  simp only [handled, registered, success, and_self, if_true]
  constructor
  · simp [isReply]
  · exact
      ⟨newCommand server connection asdu rcvdTime isSelect, rfl, rfl, rfl,
        newCommand_describes server connection asdu rcvdTime
          admissible.first isSelect, rfl⟩

theorem rejected_of_inadmissible
    (supported : isSupportedCommandType asdu.typeId = true)
    (inadmissible :
      ¬ ∃ io, Admissible platform server asdu io checkTime) :
    let handled :=
      asduHandler platform server connection asdu checkTime rcvdTime result
    Rejected server handled.2.1 handled.2.2 := by
  rcases
      enterAsduHandler_rejected platform server connection asdu checkTime
        rcvdTime supported inadmissible with
    ⟨cot, entered⟩
  simp only [asduHandler, entered]
  constructor
  · exact ⟨none, connection, asdu.reject cot, rfl, rfl⟩
  · split <;> rfl

/--
A supported command ends in exactly one of the two outcomes unless it is
admissible and its forwarding fails.
-/
theorem asduHandler_outcome_iff
    (supported : isSupportedCommandType asdu.typeId = true) :
    let handled :=
      asduHandler platform server connection asdu checkTime rcvdTime result
    Xor (Rejected server handled.2.1 handled.2.2)
        (Taken connection asdu server handled.2.1 handled.2.2) ↔
      ¬ ForwardingFails platform server asdu checkTime result := by
  intro handled
  constructor
  · intro exclusive fails
    have neither :=
      neither_of_forwardingFails platform server connection asdu checkTime
        rcvdTime result fails
    rcases exclusive with ⟨rejected, -⟩ | ⟨taken, -⟩
    · exact neither.1 rejected
    · exact neither.2 taken
  · intro succeeds
    by_cases admissible : ∃ io, Admissible platform server asdu io checkTime
    · have forwarded : server.operRegistered = true ∧ 0 < result := by
        by_contra failure
        refine succeeds ⟨admissible, ?_⟩
        by_cases registered : server.operRegistered = true
        · exact Or.inr (not_lt.mp fun success =>
            failure ⟨registered, success⟩)
        · exact Or.inl (by simpa using registered)
      rcases admissible with ⟨io, admissible⟩
      have taken :=
        taken_of_forwarded platform server connection asdu checkTime rcvdTime
          result admissible forwarded.1 forwarded.2
      exact Or.inr ⟨taken, not_rejected_of_taken connection asdu taken⟩
    · have rejected :=
        rejected_of_inadmissible platform server connection asdu checkTime
          rcvdTime result supported admissible
      exact Or.inl
        ⟨rejected, fun taken =>
          not_rejected_of_taken connection asdu taken rejected⟩

theorem asduHandler_outcome_iff_sample :
    isSupportedCommandType sampleCommand.typeId = true ∧
      (Xor
          (Rejected sampleServer
            (asduHandler samplePlatform sampleServer 1 sampleCommand 0 0
              1).2.1
            (asduHandler samplePlatform sampleServer 1 sampleCommand 0 0
              1).2.2)
          (Taken 1 sampleCommand sampleServer
            (asduHandler samplePlatform sampleServer 1 sampleCommand 0 0
              1).2.1
            (asduHandler samplePlatform sampleServer 1 sampleCommand 0 0
              1).2.2) ↔
        ¬ ForwardingFails samplePlatform sampleServer sampleCommand 0 1) :=
  ⟨by decide,
    asduHandler_outcome_iff samplePlatform sampleServer 1 sampleCommand 0 0 1
      (by decide)⟩

/-- The callback returns 0: the answer is sent and the entry stays. -/
theorem callbackFailure_leavesEntry :
    isSupportedCommandType sampleCommand.typeId = true ∧
      let handled :=
        asduHandler samplePlatform sampleServer 1 sampleCommand 0 0 0
      ¬ Xor (Rejected sampleServer handled.2.1 handled.2.2)
        (Taken 1 sampleCommand sampleServer handled.2.1 handled.2.2) := by
  refine ⟨by decide, ?_⟩
  rintro handled (⟨rejected, -⟩ | ⟨taken, -⟩)
  · exact absurd rejected.outstanding (by decide)
  · exact absurd taken.silent (by decide)

/-! ## The parameters of a forwarded command -/

/--
A text says the value of a command: its state or its scaled value in decimal,
or a number that is the setpoint up to a tolerance.
-/
def SaysValue (tolerance : ℚ) (typeId : Int) (command : CommandObject)
    (text : String) : Prop :=
  match typeIdToDataType typeId with
  | some .sp => text = flag command.singleState
  | some .dp => text = toString command.state
  | some .stepPos => text = toString command.state
  | some .normalized =>
      Denotes tolerance text.toList (numericOf command.setpoint)
  | some .scaled => text = toString command.scaled
  | some .short =>
      Denotes tolerance text.toList (numericOf command.setpoint)
  | none => False

/-- The setpoint commands, whose qualifier is a QOS. -/
def isSetpointCommand (typeId : Int) : Bool :=
  match typeIdToDataType typeId with
  | some .normalized => true
  | some .scaled => true
  | some .short => true
  | _ => false

/-- The setpoint commands whose value is a `float`. -/
def isFloatCommand (typeId : Int) : Bool :=
  match typeIdToDataType typeId with
  | some .normalized => true
  | some .short => true
  | _ => false

/-- All parameters but `co_se` and `co_cot` as the command says. -/
structure Describes (platform : Platform) (tolerance : ℚ) (asdu : Asdu)
    (command : CommandObject) (parameters : CommandParameters) : Prop where
  coType :
    ∃ typeId,
      typeId.value = asdu.typeId ∧
        (parameters.coType, typeId) ∈ mapAsduTypeId
  coCa : parameters.coCa = toString asdu.ca
  coIoa :
    asdu.elements.head?.map (fun first => toString first.objectAddress) =
      some parameters.coIoa
  coTest : parameters.coTest = flag asdu.isTest
  coNegative : parameters.coNegative = flag asdu.isNegative
  coTs :
    parameters.coTs =
      if isCommandWithTimestamp asdu.typeId then
        toString (platform.toMsTimestamp command.timestamp)
      else ""
  coValue : SaysValue tolerance asdu.typeId command parameters.coValue

section Parameters

variable {platform asdu} {command : CommandObject}
  {parameters : CommandParameters} {isSelect : Bool}

/-- Only the text of a `float` may say something else. -/
theorem saysValue_iff (tolerance : ℚ)
    (found :
      commandParameters platform asdu command =
        some (parameters, isSelect)) :
    SaysValue tolerance asdu.typeId command parameters.coValue ↔
      (isFloatCommand asdu.typeId = true →
        Denotes tolerance (floatToString command.setpoint).toList
          (numericOf command.setpoint)) := by
  cases named : TypeId.ofInt? asdu.typeId with
  | none => simp [commandParameters, named] at found
  | some typeId =>
      cases typeId
      all_goals
        simp only [commandParameters, named, Option.some.injEq,
          Prod.mk.injEq, reduceCtorEq] at found
      all_goals
        rcases found with ⟨rfl, -⟩
        simp [SaysValue, isFloatCommand, typeIdToDataType, named]

/-- All other parameters are as the command says. -/
theorem describes_of_saysValue {tolerance : ℚ}
    (first : asdu.elements.head? = some command)
    (found :
      commandParameters platform asdu command =
        some (parameters, isSelect))
    (coValue :
      SaysValue tolerance asdu.typeId command parameters.coValue) :
    Describes platform tolerance asdu command parameters := by
  cases named : TypeId.ofInt? asdu.typeId with
  | none => simp [commandParameters, named] at found
  | some typeId =>
      have value := TypeId.ofInt?_eq_some_iff.mp named
      cases typeId
      all_goals
        simp only [commandParameters, named, Option.some.injEq,
          Prod.mk.injEq, reduceCtorEq] at found
      all_goals
        rcases found with ⟨rfl, -⟩
        refine ⟨⟨_, value.symm, ?_⟩, rfl, ?_, rfl, rfl, ?_, coValue⟩
      all_goals
        simp [isCommandWithTimestamp, commonParameters, mapAsduTypeId, named,
          first]

/-- The parameters describe the command as well as the text of a `float`. -/
theorem describes_iff (tolerance : ℚ)
    (first : asdu.elements.head? = some command)
    (found :
      commandParameters platform asdu command =
        some (parameters, isSelect)) :
    Describes platform tolerance asdu command parameters ↔
      (isFloatCommand asdu.typeId = true →
        Denotes tolerance (floatToString command.setpoint).toList
          (numericOf command.setpoint)) := by
  rw [← saysValue_iff tolerance found]
  exact ⟨Describes.coValue, describes_of_saysValue first found⟩

/-- They describe it up to half a unit of the sixth decimal. -/
theorem describes_commandParameters
    (first : asdu.elements.head? = some command)
    (found :
      commandParameters platform asdu command =
        some (parameters, isSelect)) :
    Describes platform (1 / 2 / 10 ^ 6) asdu command parameters :=
  (describes_iff _ first found).mpr fun _ =>
    floatToString_denotes command.setpoint

/-- The select flag is the S/E bit, except for setpoint commands. -/
theorem commandParameters_select
    (found :
      commandParameters platform asdu command =
        some (parameters, isSelect)) :
    parameters.coSe = flag isSelect ∧
      isSelect =
        (command.isSelect && !isSetpointCommand asdu.typeId) := by
  cases named : TypeId.ofInt? asdu.typeId with
  | none => simp [commandParameters, named] at found
  | some typeId =>
      cases typeId
      all_goals
        simp only [commandParameters, named, Option.some.injEq,
          Prod.mk.injEq, reduceCtorEq] at found
      all_goals
        rcases found with ⟨rfl, rfl⟩
        simp [isSetpointCommand, typeIdToDataType, named, commonParameters,
          flag]

end Parameters

theorem flag_eq_one_iff (value : Bool) : flag value = "1" ↔ value = true := by
  cases value <;> decide

/-- The S/E bit is lost exactly for setpoint commands which set it. -/
theorem selectKept_iff (typeId : Int) (select : Bool) :
    ((select && !isSetpointCommand typeId) = select) ↔
      ¬ (isSetpointCommand typeId = true ∧ select = true) := by
  cases isSetpointCommand typeId <;> cases select <;> decide

/--
What `forwardCommand` hands over: the parameters describe the command, `co_se`
and the select flag of the new entry are the S/E bit.
-/
structure Faithful (platform : Platform) (tolerance : ℚ) (asdu : Asdu)
    (command : CommandObject) (call : OperationCall)
    (entry : OutstandingCommand) : Prop where
  parameters :
    ∃ parameters,
      call.parameters = parameters.toList ∧
        Describes platform tolerance asdu command parameters ∧
        (parameters.coSe = "1" ↔ command.isSelect = true)
  isSelect : entry.isSelect = command.isSelect

/-- When what `forwardCommand` hands over is faithful up to a tolerance. -/
theorem faithful_iff {platform : Platform} {asdu : Asdu}
    {command : CommandObject} {parameters : CommandParameters}
    {isSelect : Bool} {call : OperationCall} {entry : OutstandingCommand}
    (first : asdu.elements.head? = some command)
    (found :
      commandParameters platform asdu command = some (parameters, isSelect))
    (handedOver : call.parameters = parameters.toList)
    (added : entry.isSelect = isSelect) (tolerance : ℚ) :
    Faithful platform tolerance asdu command call entry ↔
      ¬ (isSetpointCommand asdu.typeId = true ∧ command.isSelect = true) ∧
        (isFloatCommand asdu.typeId = true →
          Denotes tolerance (floatToString command.setpoint).toList
            (numericOf command.setpoint)) := by
  rcases commandParameters_select found with ⟨coSe, select⟩
  rw [← selectKept_iff, ← select, ← describes_iff tolerance first found]
  constructor
  · intro faithful
    rcases faithful.parameters with ⟨other, isOther, describes, -⟩
    rcases CommandParameters.toList_inj (handedOver.symm.trans isOther) with
      rfl
    exact ⟨added.symm.trans faithful.isSelect, describes⟩
  · rintro ⟨kept, describes⟩
    refine ⟨⟨parameters, handedOver, describes, ?_⟩, added.trans kept⟩
    rw [coSe, flag_eq_one_iff, kept]

/--
The forwarded parameters and the new entry are faithful to the command unless
it is a setpoint command with the S/E bit set, or has a setpoint for which six
decimals do not suffice.  Up to half a unit of the sixth decimal, the S/E bit
alone decides.
-/
theorem forwardCommand_faithful_iff {command : CommandObject}
    (supported : isSupportedCommandType asdu.typeId = true)
    (first : asdu.elements.head? = some command)
    (registered : server.operRegistered = true) :
    ∃ added pending call,
      forwardCommand platform server asdu command connection rcvdTime =
          some (added, pending, some call) ∧
        added.outstandingCommands =
          server.outstandingCommands ++ [pending.command] ∧
        call.operation = "IEC104Command" ∧
        call.names = CommandParameters.names ∧
        (Faithful platform 0 asdu command call pending.command ↔
          ¬ (isSetpointCommand asdu.typeId = true ∧
              command.isSelect = true) ∧
            (isFloatCommand asdu.typeId = true →
              (numericOf command.setpoint).HasDecimals 6)) ∧
        (Faithful platform (1 / 2 / 10 ^ 6) asdu command call
            pending.command ↔
          ¬ (isSetpointCommand asdu.typeId = true ∧
            command.isSelect = true)) := by
  have branch := commandParameters_isSome platform asdu command
  rw [supported] at branch
  rcases Option.isSome_iff_exists.mp branch with
    ⟨⟨parameters, isSelect⟩, found⟩
  have faithful (tolerance : ℚ) :
      Faithful platform tolerance asdu command (commandCall server parameters)
          (addToOutstandingCommands server asdu connection isSelect
            rcvdTime).2 ↔
        _ :=
    faithful_iff first found rfl rfl tolerance
  refine
    ⟨(addToOutstandingCommands server asdu connection isSelect rcvdTime).1,
      ⟨(addToOutstandingCommands server asdu connection isSelect rcvdTime).2,
        connection, asdu⟩,
      commandCall server parameters, ?_, rfl, rfl, rfl, ?_, ?_⟩
  · simp [forwardCommand, found, operation, registered, commandCall,
      addToOutstandingCommands]
  · rw [faithful, floatToString_denotes_zero_iff]
  · rw [faithful]
    exact and_iff_left fun _ => floatToString_denotes command.setpoint

theorem forwardCommand_faithful_iff_sample :
    ∃ added pending call,
      forwardCommand samplePlatform sampleServer sampleCommand
          ⟨20, 0x01, 0, 0, samplePlatform.createFromMsTimestamp 0⟩ 1 0 =
          some (added, pending, some call) ∧
        added.outstandingCommands =
          sampleServer.outstandingCommands ++ [pending.command] ∧
        call.operation = "IEC104Command" ∧
        call.names = CommandParameters.names ∧
        (Faithful samplePlatform 0 sampleCommand
            ⟨20, 0x01, 0, 0, samplePlatform.createFromMsTimestamp 0⟩ call
            pending.command ↔
          ¬ (isSetpointCommand sampleCommand.typeId = true ∧
              CommandObject.isSelect
                  ⟨20, 0x01, 0, 0,
                    samplePlatform.createFromMsTimestamp 0⟩ =
                true) ∧
            (isFloatCommand sampleCommand.typeId = true →
              (numericOf 0).HasDecimals 6)) ∧
        (Faithful samplePlatform (1 / 2 / 10 ^ 6) sampleCommand
            ⟨20, 0x01, 0, 0, samplePlatform.createFromMsTimestamp 0⟩ call
            pending.command ↔
          ¬ (isSetpointCommand sampleCommand.typeId = true ∧
            CommandObject.isSelect
                ⟨20, 0x01, 0, 0, samplePlatform.createFromMsTimestamp 0⟩ =
              true)) :=
  forwardCommand_faithful_iff samplePlatform sampleServer 1 sampleCommand 0
    (by decide) rfl rfl

/-- A scaled setpoint command with the S/E bit set. -/
def sampleSetpointSelect : CommandObject :=
  ⟨20, 0x80, 0, 7, samplePlatform.createFromMsTimestamp 0⟩

/-- A short setpoint command which executes the setpoint `1e-7`. -/
def sampleSmallSetpoint : CommandObject :=
  ⟨20, 0x00, 0x33d6bf95, 0, samplePlatform.createFromMsTimestamp 0⟩

theorem sampleSmallSetpoint_decimals :
    ¬ (numericOf sampleSmallSetpoint.setpoint).HasDecimals 6 := by
  have setpoint :
      numericOf sampleSmallSetpoint.setpoint =
        .finite (((14073749 : ℕ) : ℤ) * 2 ^ (-47 : ℤ)) :=
    rfl
  rw [setpoint]
  rintro ⟨units, same⟩
  have integers : 2 ^ 47 * units = 14073749 * 10 ^ 6 := by
    have scaled : (2 : ℚ) ^ 47 * units = 14073749 * 10 ^ 6 := by
      norm_num at same ⊢
      linarith
    exact_mod_cast scaled
  omega

/--
A setpoint select is forwarded as an execute, and the setpoint `1e-7` as zero.
-/
theorem setpointCommands_forwardedWrongly :
    (sampleSetpointSelect.isSelect = true ∧
      ∃ added pending call,
        forwardCommand samplePlatform sampleServer
            { sampleCommand with
              typeId := TypeId.C_SE_NB_1.value
              elements := [sampleSetpointSelect] }
            sampleSetpointSelect 1 0 =
            some (added, pending, some call) ∧
          call.parameters[5]? = some "0" ∧
          ¬ Faithful samplePlatform 0
            { sampleCommand with
              typeId := TypeId.C_SE_NB_1.value
              elements := [sampleSetpointSelect] }
            sampleSetpointSelect call pending.command) ∧
      ∃ added pending call,
        forwardCommand samplePlatform sampleServer
            { sampleCommand with
              typeId := TypeId.C_SE_NC_1.value
              elements := [sampleSmallSetpoint] }
            sampleSmallSetpoint 1 0 =
            some (added, pending, some call) ∧
          call.parameters[8]? = some "0.000000" ∧
          ¬ Faithful samplePlatform 0
            { sampleCommand with
              typeId := TypeId.C_SE_NC_1.value
              elements := [sampleSmallSetpoint] }
            sampleSmallSetpoint call pending.command := by
  constructor
  · refine ⟨by decide, _, _, _, rfl, by decide, ?_⟩
    intro faithful
    exact absurd faithful.isSelect (by decide)
  · refine ⟨_, _, _, rfl, by decide, ?_⟩
    intro faithful
    rw [faithful_iff rfl rfl rfl rfl] at faithful
    apply sampleSmallSetpoint_decimals
    rw [← floatToString_denotes_zero_iff]
    exact faithful.2 (by decide)

end Iec104North.CommandOutcomes
