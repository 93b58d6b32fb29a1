import Iec104North.OutstandingCommands

/-!
# Command ASDUs

The path of a command from `asduHandler` to the control callback.  The callback
belongs to the south side and may run while other threads change the server,
so the path is cut there: `forwardCommand` ends when `operation` calls the
callback and `operationReturned` is what is left to do with its result.
`asduHandler` joins the two parts for a callback that nothing interleaves
with.
-/

namespace Iec104North.Commands

open Iec104North.AsduTypes
open Iec104North.Library
open Iec104North.Values
open Iec104North.Server
open Iec104North.OutstandingCommands

/-! ## Parameters of the control operation -/

/-- The nine parameters of `IEC104Command`. -/
structure CommandParameters where
  coType : String
  coCa : String
  coIoa : String
  coCot : String
  coNegative : String
  coSe : String
  coTest : String
  coTs : String
  coValue : String
deriving DecidableEq, Repr

/-- The names `forwardCommand` passes along with the parameters. -/
def CommandParameters.names : List String :=
  ["co_type", "co_ca", "co_ioa", "co_cot", "co_negative", "co_se", "co_test",
   "co_ts", "co_value"]

/-- The parameters in the order of the enumeration `CommandParameters`. -/
def CommandParameters.toList (parameters : CommandParameters) :
    List String :=
  [parameters.coType, parameters.coCa, parameters.coIoa, parameters.coCot,
   parameters.coNegative, parameters.coSe, parameters.coTest,
   parameters.coTs, parameters.coValue]

theorem CommandParameters.toList_inj {parameters other : CommandParameters}
    (same : parameters.toList = other.toList) : parameters = other := by
  cases parameters
  cases other
  simpa [CommandParameters.toList] using same

/-- How `forwardCommand` writes a flag. -/
def flag (value : Bool) : String :=
  if value then "1" else "0"

/-- The parameters before the switch of `forwardCommand`. -/
def commonParameters (asdu : Asdu) (command : CommandObject) :
    CommandParameters where
  coType := getStringFromTypeID asdu.typeId
  coCa := toString asdu.ca
  coIoa := toString command.objectAddress
  coCot := toString asdu.cot
  coNegative := flag asdu.isNegative
  coSe := "0"
  coTest := flag asdu.isTest
  coTs := ""
  coValue := ""

/--
The switch of `IEC104Server::forwardCommand`: the parameters and the select
flag of the outstanding command.
-/
def commandParameters (platform : Platform) (asdu : Asdu)
    (command : CommandObject) : Option (CommandParameters × Bool) :=
  let common := commonParameters asdu command
  let ts := toString (platform.toMsTimestamp command.timestamp)
  match TypeId.ofInt? asdu.typeId with
  | some .C_SC_NA_1 =>
      some
        ({ common with
            coType := "C_SC_NA_1"
            coValue := flag command.singleState
            coSe := flag command.isSelect },
          command.isSelect)
  | some .C_SC_TA_1 =>
      some
        ({ common with
            coType := "C_SC_TA_1"
            coTs := ts
            coValue := flag command.singleState
            coSe := flag command.isSelect },
          command.isSelect)
  | some .C_DC_NA_1 =>
      some
        ({ common with
            coType := "C_DC_NA_1"
            coValue := toString command.state
            coSe := flag command.isSelect },
          command.isSelect)
  | some .C_DC_TA_1 =>
      some
        ({ common with
            coType := "C_DC_TA_1"
            coTs := ts
            coValue := toString command.state
            coSe := flag command.isSelect },
          command.isSelect)
  | some .C_RC_NA_1 =>
      some
        ({ common with
            coType := "C_RC_NA_1"
            coValue := toString command.state
            coSe := flag command.isSelect },
          command.isSelect)
  | some .C_RC_TA_1 =>
      some
        ({ common with
            coType := "C_RC_TA_1"
            coTs := ts
            coValue := toString command.state
            coSe := flag command.isSelect },
          command.isSelect)
  | some .C_SE_NA_1 =>
      some
        ({ common with
            coType := "C_SE_NA_1"
            coValue := floatToString command.setpoint },
          false)
  | some .C_SE_TA_1 =>
      some
        ({ common with
            coType := "C_SE_TA_1"
            coTs := ts
            coValue := floatToString command.setpoint },
          false)
  | some .C_SE_NB_1 =>
      some
        ({ common with
            coType := "C_SE_NB_1"
            coValue := toString command.scaled },
          false)
  | some .C_SE_TB_1 =>
      some
        ({ common with
            coType := "C_SE_TB_1"
            coTs := ts
            coValue := toString command.scaled },
          false)
  | some .C_SE_NC_1 =>
      some
        ({ common with
            coType := "C_SE_NC_1"
            coValue := floatToString command.setpoint },
          false)
  | some .C_SE_TC_1 =>
      some
        ({ common with
            coType := "C_SE_TC_1"
            coTs := ts
            coValue := floatToString command.setpoint },
          false)
  | _ => none

/-! ## Forwarding -/

/--
The call `IEC104Server::operation` makes; without a registered callback there
is none and the result is -1.
-/
def operation (server : IEC104Server) (name : String)
    (names parameters : List String) : Option OperationCall :=
  if server.operRegistered then
    some
      { operation := name
        names := names
        parameters := parameters
        destination :=
          if server.config.cmdDest == "" then none
          else some server.config.cmdDest }
  else
    none

/-- What a command handler holds while the control callback runs. -/
structure PendingOperation where
  command : OutstandingCommand
  connection : Connection
  asdu : Asdu
deriving DecidableEq, Repr

/--
`IEC104Server::forwardCommand` up to the control callback: the outstanding
command is in the list and the callback is about to be called.
-/
def forwardCommand (platform : Platform) (server : IEC104Server)
    (asdu : Asdu) (command : CommandObject) (connection : Connection)
    (rcvdTime : Nat) :
    Option (IEC104Server × PendingOperation × Option OperationCall) :=
  match commandParameters platform asdu command with
  | none => none
  | some (parameters, isSelect) =>
      let (added, outstanding) :=
        addToOutstandingCommands server asdu connection isSelect rcvdTime
      some
        (added, ⟨outstanding, connection, asdu⟩,
          operation added "IEC104Command" CommandParameters.names
            parameters.toList)

/--
The rest of `forwardCommand`, `validateCommand` and `asduHandler` when
`operation` has returned `result`.
-/
def operationReturned (pending : PendingOperation) (result : Int) :
    List Effect :=
  if 0 < result then
    []
  else
    [.sendAsdu (some pending.command) pending.connection
      { pending.asdu with isNegative := true }]

/-! ## Validation -/

/-- `IEC104Server::checkTimestamp`. -/
def checkTimestamp (platform : Platform) (server : IEC104Server)
    (timestamp : CP56Time2a) (currentTime : Nat) : Bool :=
  let commandTime := platform.toMsTimestamp timestamp
  let timeDiff : Int :=
    if currentTime < commandTime then
      toInt32 (commandTime - currentTime)
    else
      toInt32 (currentTime - commandTime)
  !(toInt32 (server.config.cmdRecvTimeout * 1000) < timeDiff || timeDiff < 0)

/-- `IEC104Server::checkIfCmdTimeIsValid`. -/
def checkIfCmdTimeIsValid (platform : Platform) (server : IEC104Server)
    (typeId : Int) (io : CommandObject) (currentTime : Nat) : Bool :=
  if server.config.cmdRecvTimeout == 0 then
    true
  else
    match TypeId.ofInt? typeId with
    | some .C_SC_TA_1 | some .C_DC_TA_1 | some .C_RC_TA_1
    | some .C_SE_TA_1 | some .C_SE_TB_1 | some .C_SE_TC_1 =>
        checkTimestamp platform server io.timestamp currentTime
    | _ => false

/--
Where `validateCommand` ends: with an answer for `asduHandler` to send, with an
answer it has sent itself, or in `forwardCommand`.
-/
inductive Verdict where
  | answer (asdu : Asdu)
  | answered (asdu : Asdu)
  | forward (asdu : Asdu) (command : CommandObject)
deriving DecidableEq, Repr

/-- `IEC104Server::validateCommand` up to `forwardCommand`. -/
def validateCommand (platform : Platform) (server : IEC104Server)
    (asdu : Asdu) (checkTime : Nat) : IEC104Server × Verdict :=
  if server.checkIfSouthConnected == false then
    (server, .answer (asdu.reject Cot.activationCon))
  else if asdu.cot ≠ Cot.activation then
    (server, .answer (asdu.reject Cot.unknownCot))
  else
    match asdu.elements.head? with
    | none => (server, .answer (asdu.reject Cot.unknownTypeId))
    | some io =>
      let ld := server.exchangeDefinitions.device asdu.ca
      let touched :=
        { server with
          exchangeDefinitions :=
            server.exchangeDefinitions.touchDevice asdu.ca }
      if ld.isEmpty then
        (touched, .answer (asdu.reject Cot.unknownCa))
      else if server.config.isOriginatorAllowed asdu.oa == false then
        (touched, .answer (asdu.reject Cot.activationCon))
      else
        match ld[io.objectAddress]?.join with
        | none => (touched, .answer (asdu.reject Cot.unknownIoa))
        | some dp =>
          if dp.isMatchingCommand asdu.typeId == false then
            (touched, .answer (asdu.reject Cot.unknownTypeId))
          else if isCommandWithTimestamp asdu.typeId then
            if server.config.allowCmdWithTime == false then
              (touched, .answer (asdu.reject Cot.unknownTypeId))
            else if
                checkIfCmdTimeIsValid platform server asdu.typeId io
                  checkTime == false then
              (touched, .answered (asdu.reject Cot.activationCon))
            else
              (touched, .forward { asdu with cot := Cot.activationCon } io)
          else if server.config.allowCmdWithoutTime == false then
            (touched, .answer (asdu.reject Cot.unknownTypeId))
          else
            (touched, .forward { asdu with cot := Cot.activationCon } io)

/-! ## The handler -/

/-- A command handler that is in the control callback, or has ended. -/
structure CommandOutcome where
  handled : Bool
  server : IEC104Server
  effects : List Effect
  pending : Option PendingOperation

/--
`IEC104Server::asduHandler` until it calls the control callback; `pending` is
set when it is in the callback.
-/
def enterAsduHandler (platform : Platform) (server : IEC104Server)
    (connection : Connection) (asdu : Asdu) (checkTime rcvdTime : Nat) :
    CommandOutcome :=
  if isSupportedCommandType asdu.typeId == false then
    ⟨false, server, [], none⟩
  else
    match validateCommand platform server asdu checkTime with
    | (validated, .answer answer) =>
        ⟨true, validated, [.sendAsdu none connection answer], none⟩
    | (validated, .answered answer) =>
        ⟨true, validated, [.sendAsdu none connection answer], none⟩
    | (validated, .forward forwarded command) =>
        match forwardCommand platform validated forwarded command connection
            rcvdTime with
        | none =>
            ⟨true, validated,
              [.sendAsdu none connection
                { forwarded with isNegative := true }],
              none⟩
        | some (added, pending, none) =>
            ⟨true, added, operationReturned pending (-1), none⟩
        | some (added, pending, some call) =>
            ⟨true, added, [.operation call], some pending⟩

/--
`IEC104Server::asduHandler` with a callback that returns `result` and that no
other thread interleaves with.
-/
def asduHandler (platform : Platform) (server : IEC104Server)
    (connection : Connection) (asdu : Asdu) (checkTime rcvdTime : Nat)
    (result : Int) : Bool × IEC104Server × List Effect :=
  let entered :=
    enterAsduHandler platform server connection asdu checkTime rcvdTime
  match entered.pending with
  | none => (entered.handled, entered.server, entered.effects)
  | some pending =>
      (entered.handled, entered.server,
        entered.effects ++ operationReturned pending result)

/-- A single command for the point at 1:20 of `sampleServer`. -/
def sampleCommand : Asdu where
  typeId := TypeId.C_SC_NA_1.value
  cot := Cot.activation
  isTest := false
  isNegative := false
  oa := 0
  ca := 1
  elements :=
    [⟨20, 0x01, 0, 0, samplePlatform.createFromMsTimestamp 0⟩]

end Iec104North.Commands
