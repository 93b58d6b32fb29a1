import Iec104North.Commands

/-!
# Where a command ends

`validateCommand` forwards a command exactly when it is admissible and answers
every other one negatively.  The handler of a supported command then ends in
one of three ways: it has sent one negative answer, it has added an
outstanding command and refused it because no callback is registered, or it
has added an outstanding command and is in the callback.
-/

namespace Iec104North.CommandPaths

open Iec104North.AsduTypes
open Iec104North.Values
open Iec104North.DataPoints
open Iec104North.Server
open Iec104North.OutstandingCommands
open Iec104North.Commands

/-! ## Validation -/

/-- The tests of `validateCommand` on the time tag. -/
def TimeAccepted (platform : Platform) (server : IEC104Server)
    (asdu : Asdu) (io : CommandObject) (checkTime : Nat) : Prop :=
  if isCommandWithTimestamp asdu.typeId = true then
    server.config.allowCmdWithTime = true ∧
      checkIfCmdTimeIsValid platform server asdu.typeId io checkTime = true
  else
    server.config.allowCmdWithoutTime = true

/-- The tests `validateCommand` makes before it forwards a command. -/
structure Admissible (platform : Platform) (server : IEC104Server)
    (asdu : Asdu) (io : CommandObject) (checkTime : Nat) : Prop where
  south : server.checkIfSouthConnected = true
  cot : asdu.cot = Cot.activation
  first : asdu.elements.head? = some io
  originator : server.config.isOriginatorAllowed asdu.oa = true
  point :
    ∃ dp,
      server.exchangeDefinitions.lookup asdu.ca io.objectAddress = some dp ∧
        dp.isMatchingCommand asdu.typeId = true
  time : TimeAccepted platform server asdu io checkTime

/-- The ASDU comes as far as the read of the table. -/
def readsTable (server : IEC104Server) (asdu : Asdu) : Bool :=
  server.checkIfSouthConnected && asdu.cot == Cot.activation &&
    asdu.elements.head?.isSome

/-- The server with the entry `m_exchangeDefinitions[ca]`. -/
def touchTable (server : IEC104Server) (ca : Int) : IEC104Server :=
  { server with
    exchangeDefinitions := server.exchangeDefinitions.touchDevice ca }

variable (platform : Platform) (server : IEC104Server)
  (connection : Connection) (asdu : Asdu) (checkTime rcvdTime : Nat)

/-- The only thing `validateCommand` changes is the table it reads. -/
theorem validateCommand_fst :
    (validateCommand platform server asdu checkTime).1 =
      if readsTable server asdu then
        touchTable server asdu.ca
      else
        server := by
  unfold validateCommand readsTable touchTable
  by_cases south : server.checkIfSouthConnected = true
  · by_cases activation : asdu.cot = Cot.activation
    · cases first : asdu.elements.head? with
      | none => simp [south, activation]
      | some io =>
          simp only [south, activation, beq_false, Bool.not_true,
            Bool.false_eq_true, if_false, ne_eq, not_true_eq_false,
            beq_self_eq_true, Bool.and_self, Option.isSome_some, if_true]
          repeat' split
          all_goals rfl
    · simp [south, activation]
  · simp [south]

theorem lookup_eq_device_join (table : PointTable) (ca ioa : Int) :
    table.lookup ca ioa = ((table.device ca)[ioa]?).join := by
  rw [PointTable.device_entry]
  rfl

theorem device_isEmpty_of_lookup {table : PointTable} {ca ioa : Int}
    {dp : DataPoint} (found : table.lookup ca ioa = some dp) :
    (table.device ca).isEmpty = false := by
  rw [lookup_eq_device_join] at found
  by_contra empty
  simp only [Bool.not_eq_false, Std.ExtTreeMap.isEmpty_iff] at empty
  simp [empty] at found

/-- The ASDU `validateCommand` hands to `forwardCommand`. -/
def forwardedAsdu (asdu : Asdu) : Asdu :=
  { asdu with cot := Cot.activationCon }

/-- No other object of the ASDU makes it admissible. -/
theorem not_admissible {io : CommandObject}
    (first : asdu.elements.head? = some io)
    (rejected : ¬ Admissible platform server asdu io checkTime) :
    ¬ ∃ io, Admissible platform server asdu io checkTime := by
  rintro ⟨other, admissible⟩
  rcases Option.some.inj (first.symm.trans admissible.first) with rfl
  exact rejected admissible

/--
An admissible command is forwarded, every other one is answered negatively.
-/
theorem validateCommand_cases :
    (∃ io,
      Admissible platform server asdu io checkTime ∧
        (validateCommand platform server asdu checkTime).2 =
          .forward (forwardedAsdu asdu) io) ∨
    ((¬ ∃ io, Admissible platform server asdu io checkTime) ∧
      ∃ cot,
        (validateCommand platform server asdu checkTime).2 =
            .answer (asdu.reject cot) ∨
          (validateCommand platform server asdu checkTime).2 =
            .answered (asdu.reject cot)) := by
  rw [validateCommand]
  split
  · rename_i disconnected
    refine .inr ⟨?_, _, .inl rfl⟩
    rintro ⟨io, admissible⟩
    simp [admissible.south] at disconnected
  rename_i south
  split
  · rename_i other
    refine .inr ⟨?_, _, .inl rfl⟩
    rintro ⟨io, admissible⟩
    exact other admissible.cot
  rename_i activation
  split
  · rename_i empty
    refine .inr ⟨?_, _, .inl rfl⟩
    rintro ⟨io, admissible⟩
    have first := admissible.first
    simp [empty] at first
  rename_i io first
  dsimp only
  have refused := not_admissible platform server asdu checkTime first
  split
  · rename_i empty
    refine .inr ⟨refused fun admissible => ?_, _, .inl rfl⟩
    rcases admissible.point with ⟨dp, found, -⟩
    simp [device_isEmpty_of_lookup found] at empty
  split
  · rename_i filtered
    refine .inr ⟨refused fun admissible => ?_, _, .inl rfl⟩
    simp [admissible.originator] at filtered
  rename_i originator
  rw [← lookup_eq_device_join]
  split
  · rename_i missing
    refine .inr ⟨refused fun admissible => ?_, _, .inl rfl⟩
    rcases admissible.point with ⟨dp, found, -⟩
    simp [found] at missing
  rename_i dp found
  split
  · rename_i mismatch
    refine .inr ⟨refused fun admissible => ?_, _, .inl rfl⟩
    rcases admissible.point with ⟨other, isFound, matching⟩
    rcases Option.some.inj (found.symm.trans isFound) with rfl
    simp [matching] at mismatch
  rename_i matching
  have tested :
      TimeAccepted platform server asdu io checkTime →
        Admissible platform server asdu io checkTime := fun time =>
    ⟨by simpa using south, by simpa using activation, first,
      by simpa using originator, ⟨dp, found, by simpa using matching⟩, time⟩
  split
  · rename_i timed
    rw [TimeAccepted, if_pos timed] at tested
    split
    · rename_i forbidden
      refine .inr ⟨refused fun admissible => ?_, _, .inl rfl⟩
      have time := admissible.time
      rw [TimeAccepted, if_pos timed] at time
      simp [time.1] at forbidden
    rename_i allowed
    split
    · rename_i late
      refine .inr ⟨refused fun admissible => ?_, _, .inr rfl⟩
      have time := admissible.time
      rw [TimeAccepted, if_pos timed] at time
      simp [time.2] at late
    rename_i valid
    exact .inl ⟨io, tested ⟨by simpa using allowed, by simpa using valid⟩, rfl⟩
  · rename_i untimed
    rw [TimeAccepted, if_neg untimed] at tested
    split
    · rename_i forbidden
      refine .inr ⟨refused fun admissible => ?_, _, .inl rfl⟩
      have time := admissible.time
      rw [TimeAccepted, if_neg untimed] at time
      simp [time] at forbidden
    rename_i allowed
    exact .inl ⟨io, tested (by simpa using allowed), rfl⟩

/-- A command is forwarded exactly when it is admissible. -/
theorem validateCommand_forward_iff (forwarded : Asdu)
    (io : CommandObject) :
    (validateCommand platform server asdu checkTime).2 =
        .forward forwarded io ↔
      Admissible platform server asdu io checkTime ∧
        forwarded = forwardedAsdu asdu := by
  rcases validateCommand_cases platform server asdu checkTime with
    ⟨object, admissible, verdict⟩ | ⟨rejected, cot, verdict | verdict⟩
  · rw [verdict, Verdict.forward.injEq]
    constructor
    · rintro ⟨rfl, rfl⟩
      exact ⟨admissible, rfl⟩
    · rintro ⟨other, rfl⟩
      exact ⟨rfl, Option.some.inj (admissible.first.symm.trans other.first)⟩
  · rw [verdict]
    exact iff_of_false (by simp) fun accepted => rejected ⟨io, accepted.1⟩
  · rw [verdict]
    exact iff_of_false (by simp) fun accepted => rejected ⟨io, accepted.1⟩

/-- Every other command is answered, and the answer is negative. -/
theorem validateCommand_rejected
    (rejected :
      ¬ ∃ io, Admissible platform server asdu io checkTime) :
    ∃ cot,
      (validateCommand platform server asdu checkTime).2 =
          .answer (asdu.reject cot) ∨
        (validateCommand platform server asdu checkTime).2 =
          .answered (asdu.reject cot) := by
  rcases validateCommand_cases platform server asdu checkTime with
    ⟨io, admissible, -⟩ | ⟨-, answered⟩
  · exact (rejected ⟨io, admissible⟩).elim
  · exact answered

/-! ## The handler -/

/-- An admissible command has a supported type. -/
theorem Admissible.supported {platform : Platform}
    {server : IEC104Server} {asdu : Asdu} {io : CommandObject}
    {checkTime : Nat}
    (admissible : Admissible platform server asdu io checkTime) :
    isSupportedCommandType asdu.typeId = true := by
  rcases admissible.point with ⟨dp, -, matching⟩
  exact ((dp.isMatchingCommand_iff asdu.typeId).mp matching).2.1

/-- Exactly the supported types have a branch in `forwardCommand`. -/
theorem commandParameters_isSome (io : CommandObject) :
    (commandParameters platform asdu io).isSome =
      isSupportedCommandType asdu.typeId := by
  unfold commandParameters isSupportedCommandType
  cases found : TypeId.ofInt? asdu.typeId with
  | none => rfl
  | some typeId => cases typeId <;> rfl

/-- The outstanding command `forwardCommand` creates. -/
def newCommand (isSelect : Bool) : OutstandingCommand :=
  create server.allocated (forwardedAsdu asdu) connection
    server.config.cmdExecTimeout isSelect rcvdTime

/-- The server with a new outstanding command at the end of its list. -/
def addCommand (command : OutstandingCommand) : IEC104Server :=
  { touchTable server command.ca with
    outstandingCommands := server.outstandingCommands ++ [command]
    allocated := server.allocated + 1 }

/-- The call of the control callback for a command. -/
def commandCall (parameters : CommandParameters) : OperationCall where
  operation := "IEC104Command"
  names := CommandParameters.names
  parameters := parameters.toList
  destination :=
    if server.config.cmdDest == "" then none else some server.config.cmdDest

/-- The negative answer to a command that was not forwarded. -/
def refusal (isSelect : Bool) : Effect :=
  .sendAsdu (some (newCommand server connection asdu rcvdTime isSelect))
    connection { forwardedAsdu asdu with isNegative := true }

theorem enterAsduHandler_unsupported
    (unsupported : isSupportedCommandType asdu.typeId = false) :
    enterAsduHandler platform server connection asdu checkTime rcvdTime =
      ⟨false, server, [], none⟩ := by
  simp [enterAsduHandler, unsupported]

/-- A supported command that is not admissible gets one negative answer. -/
theorem enterAsduHandler_rejected
    (supported : isSupportedCommandType asdu.typeId = true)
    (rejected : ¬ ∃ io, Admissible platform server asdu io checkTime) :
    ∃ cot,
      enterAsduHandler platform server connection asdu checkTime rcvdTime =
        ⟨true,
          if readsTable server asdu then touchTable server asdu.ca
          else server,
          [.sendAsdu none connection (asdu.reject cot)], none⟩ := by
  rcases validateCommand_rejected platform server asdu checkTime rejected with
    ⟨cot, verdict⟩
  have left := validateCommand_fst platform server asdu checkTime
  refine ⟨cot, ?_⟩
  rw [← left]
  unfold enterAsduHandler
  rcases verdict with answer | answered
  · rw [← Prod.eta (validateCommand platform server asdu checkTime), answer]
    simp [supported]
  · rw [← Prod.eta (validateCommand platform server asdu checkTime),
      answered]
    simp [supported]

/-- An admissible command becomes outstanding before the callback is called. -/
theorem enterAsduHandler_admissible {io : CommandObject}
    (admissible : Admissible platform server asdu io checkTime) :
    ∃ parameters isSelect,
      commandParameters platform (forwardedAsdu asdu) io =
          some (parameters, isSelect) ∧
        enterAsduHandler platform server connection asdu checkTime
            rcvdTime =
          ⟨true,
            addCommand server
              (newCommand server connection asdu rcvdTime isSelect),
            if server.operRegistered then
              [.operation (commandCall server parameters)]
            else
              [refusal server connection asdu rcvdTime isSelect],
            if server.operRegistered then
              some
                ⟨newCommand server connection asdu rcvdTime isSelect,
                  connection, forwardedAsdu asdu⟩
            else
              none⟩ := by
  have supported := admissible.supported
  have verdict :=
    (validateCommand_forward_iff platform server asdu checkTime _ io).mpr
      ⟨admissible, rfl⟩
  have left := validateCommand_fst platform server asdu checkTime
  have reads : readsTable server asdu = true := by
    simp [readsTable, admissible.south, admissible.cot, admissible.first]
  rw [if_pos reads] at left
  have branch := commandParameters_isSome platform (forwardedAsdu asdu) io
  rw [show (forwardedAsdu asdu).typeId = asdu.typeId from rfl, supported]
    at branch
  rcases Option.isSome_iff_exists.mp branch with
    ⟨⟨parameters, isSelect⟩, found⟩
  refine ⟨parameters, isSelect, found, ?_⟩
  rw [enterAsduHandler,
    ← Prod.eta (validateCommand platform server asdu checkTime), verdict,
    left]
  simp only [supported, forwardCommand, found]
  by_cases registered : server.operRegistered = true
  · simp [operation, addToOutstandingCommands, touchTable, addCommand,
      newCommand, commandCall, registered]
    rfl
  · simp [operation, addToOutstandingCommands, touchTable, addCommand,
      newCommand, refusal, operationReturned, registered]
    rfl

/-- The three ways a command can go. -/
theorem enterAsduHandler_cases :
    (∃ io parameters isSelect,
      Admissible platform server asdu io checkTime ∧
        commandParameters platform (forwardedAsdu asdu) io =
          some (parameters, isSelect) ∧
        enterAsduHandler platform server connection asdu checkTime
            rcvdTime =
          ⟨true,
            addCommand server
              (newCommand server connection asdu rcvdTime isSelect),
            if server.operRegistered then
              [.operation (commandCall server parameters)]
            else
              [refusal server connection asdu rcvdTime isSelect],
            if server.operRegistered then
              some
                ⟨newCommand server connection asdu rcvdTime isSelect,
                  connection, forwardedAsdu asdu⟩
            else
              none⟩) ∨
      (∃ cot,
        isSupportedCommandType asdu.typeId = true ∧
          (¬ ∃ io, Admissible platform server asdu io checkTime) ∧
          enterAsduHandler platform server connection asdu checkTime
              rcvdTime =
            ⟨true,
              if readsTable server asdu then touchTable server asdu.ca
              else server,
              [.sendAsdu none connection (asdu.reject cot)], none⟩) ∨
      (isSupportedCommandType asdu.typeId = false ∧
        (¬ ∃ io, Admissible platform server asdu io checkTime) ∧
        enterAsduHandler platform server connection asdu checkTime rcvdTime =
          ⟨false, server, [], none⟩) := by
  by_cases admissible : ∃ io, Admissible platform server asdu io checkTime
  · rcases admissible with ⟨io, admissible⟩
    rcases
        enterAsduHandler_admissible platform server connection asdu checkTime
          rcvdTime admissible with
      ⟨parameters, isSelect, found, entered⟩
    exact .inl ⟨io, parameters, isSelect, admissible, found, entered⟩
  · by_cases supported : isSupportedCommandType asdu.typeId = true
    · rcases
          enterAsduHandler_rejected platform server connection asdu checkTime
            rcvdTime supported admissible with
        ⟨cot, entered⟩
      exact .inr (.inl ⟨cot, supported, admissible, entered⟩)
    · rw [Bool.not_eq_true] at supported
      exact
        .inr
          (.inr
            ⟨supported, admissible,
              enterAsduHandler_unsupported platform server connection asdu
                checkTime rcvdTime supported⟩)

/-- The handler with the result of the callback, for an admissible command. -/
theorem asduHandler_admissible (result : Int) {io : CommandObject}
    (admissible : Admissible platform server asdu io checkTime) :
    ∃ parameters isSelect,
      commandParameters platform (forwardedAsdu asdu) io =
          some (parameters, isSelect) ∧
        asduHandler platform server connection asdu checkTime rcvdTime
            result =
          (true,
            addCommand server
              (newCommand server connection asdu rcvdTime isSelect),
            (if server.operRegistered then
              [.operation (commandCall server parameters)]
            else
              []) ++
              if server.operRegistered = true ∧ 0 < result then []
              else [refusal server connection asdu rcvdTime isSelect]) := by
  rcases
      enterAsduHandler_admissible platform server connection asdu checkTime
        rcvdTime admissible with
    ⟨parameters, isSelect, found, entered⟩
  refine ⟨parameters, isSelect, found, ?_⟩
  unfold asduHandler
  rw [entered]
  by_cases registered : server.operRegistered = true
  · simp [registered, operationReturned, refusal]
  · simp [registered]

end Iec104North.CommandPaths
