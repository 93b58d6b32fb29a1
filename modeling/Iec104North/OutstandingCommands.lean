import Iec104North.Library.Cxx
import Iec104North.Library.FirstMatch
import Iec104North.Server
import Mathlib.Tactic.Simps.Basic

/-!
# Outstanding commands

`IEC104OutstandingCommand` and the loops of the server over the vector
`m_outstandingCommands`.  Each of these loops runs under
`m_outstandingCommandsLock` and is one step here.
-/

namespace Iec104North.OutstandingCommands

open Iec104North.Library
open Iec104North.Values
open Iec104North.Server

/-! ## One outstanding command -/

/-- The constructor `IEC104OutstandingCommand::IEC104OutstandingCommand`. -/
@[simps]
def create (address : Nat) (asdu : Asdu) (connection : Connection)
    (cmdExecTimeout : Int) (isSelect : Bool) (now : Nat) :
    OutstandingCommand where
  address := address
  receivedAsdu := asdu
  connection := connection
  typeId := asdu.typeId
  ca := asdu.ca
  ioa := (asdu.elements.head?.map CommandObject.objectAddress).getD 0
  isSelect := isSelect
  cmdExecTimeout := cmdExecTimeout
  commandRcvdTime := now
  nextTimeout := toUInt64 (now + toInt32 (cmdExecTimeout * 1000))
  state := .waitActCon

/-- `IEC104OutstandingCommand::isSentFromConnection`. -/
def isSentFromConnection (command : OutstandingCommand)
    (connection : Connection) : Bool :=
  connection == command.connection

/-- `IEC104OutstandingCommand::isMatching`. -/
def isMatching (command : OutstandingCommand) (typeId ca ioa : Int) : Bool :=
  typeId == command.typeId && ca == command.ca && ioa == command.ioa

/-- `IEC104OutstandingCommand::hasTimedOut`. -/
def hasTimedOut (command : OutstandingCommand) (currentTime : Nat) : Bool :=
  command.nextTimeout < currentTime

/-- `IEC104OutstandingCommand::sendActCon`. -/
def sendActCon (command : OutstandingCommand) (negative : Bool) :
    OutstandingCommand × List Effect :=
  let effects :=
    [Effect.sendActCon (some command) command.connection
      command.receivedAsdu negative]
  if negative == false && command.isSelect == false then
    ({ command with state := .waitActTerm }, effects)
  else
    ({ command with nextTimeout := 0, state := .completed }, effects)

/-- `IEC104OutstandingCommand::sendActTerm`. -/
def sendActTerm (command : OutstandingCommand) (negative : Bool) :
    OutstandingCommand × List Effect :=
  let asdu := { command.receivedAsdu with isNegative := negative }
  ({ command with
      receivedAsdu := asdu, nextTimeout := 0, state := .completed },
    [.sendActTerm (some command) command.connection asdu])

@[simp]
theorem sendActCon_snd (command : OutstandingCommand) (negative : Bool) :
    (sendActCon command negative).2 =
      [.sendActCon (some command) command.connection command.receivedAsdu
        negative] := by
  rw [sendActCon]
  split <;> rfl

@[simp]
theorem sendActTerm_snd (command : OutstandingCommand) (negative : Bool) :
    (sendActTerm command negative).2 =
      [.sendActTerm (some command) command.connection
        { command.receivedAsdu with isNegative := negative }] :=
  rfl

/-- A command that got a negative ACT-CON is due at the next scan. -/
theorem sendActCon_negative_nextTimeout (command : OutstandingCommand) :
    (sendActCon command true).1.nextTimeout = 0 := by
  simp [sendActCon]

/-! ## The list of outstanding commands -/

/-- `IEC104Server::addToOutstandingCommands`; gives the new object back. -/
def addToOutstandingCommands (server : IEC104Server) (asdu : Asdu)
    (connection : Connection) (isSelect : Bool) (now : Nat) :
    IEC104Server × OutstandingCommand :=
  let command :=
    create server.allocated asdu connection server.config.cmdExecTimeout
      isSelect now
  ({ server with
      outstandingCommands := server.outstandingCommands ++ [command]
      allocated := server.allocated + 1 },
    command)

/-- `IEC104Server::removeOutstandingCommands`. -/
def removeOutstandingCommands (server : IEC104Server)
    (connection : Connection) : IEC104Server :=
  { server with
    outstandingCommands :=
      eraseWhile (isSentFromConnection · connection) []
        server.outstandingCommands }

/-- `IEC104Server::removeAllOutstandingCommands`. -/
def removeAllOutstandingCommands (server : IEC104Server) : IEC104Server :=
  { server with
    outstandingCommands :=
      eraseWhile (fun _ => true) [] server.outstandingCommands }

/-- What `handleActCon` leaves of the command it has found. -/
def afterActCon (isNegative : Bool) (command : OutstandingCommand) :
    Option OutstandingCommand :=
  let sent := (sendActCon command isNegative).1
  if sent.isSelect then none else some sent

theorem afterActCon_eq_some {isNegative : Bool}
    {command changed : OutstandingCommand}
    (left : afterActCon isNegative command = some changed) :
    changed = (sendActCon command isNegative).1 := by
  simp only [afterActCon] at left
  split at left
  · simp at left
  · exact (Option.some.inj left).symm

/-- `IEC104Server::handleActCon`. -/
def handleActCon (server : IEC104Server) (type ca ioa : Int)
    (isNegative : Bool) : IEC104Server × List Effect :=
  let matching := fun command : OutstandingCommand =>
    isMatching command type ca ioa
  ({ server with
      outstandingCommands :=
        alterFirst matching (afterActCon isNegative)
          server.outstandingCommands },
    match server.outstandingCommands.find? matching with
    | some command => (sendActCon command isNegative).2
    | none => [])

/-- `IEC104Server::handleActTerm`. -/
def handleActTerm (server : IEC104Server) (type ca ioa : Int)
    (isNegative : Bool) : IEC104Server × List Effect :=
  let matching := fun command : OutstandingCommand =>
    isMatching command type ca ioa
  ({ server with
      outstandingCommands :=
        alterFirst matching (fun _ => none) server.outstandingCommands },
    match server.outstandingCommands.find? matching with
    | some command => (sendActTerm command isNegative).2
    | none => [])

/-- The first command that matches the feedback gets it, if there is one. -/
theorem handleActCon_snd (server : IEC104Server) (type ca ioa : Int)
    (isNegative : Bool) :
    (handleActCon server type ca ioa isNegative).2 =
      ((server.outstandingCommands.find? fun command =>
        isMatching command type ca ioa).map fun command =>
          (sendActCon command isNegative).2).getD [] := by
  rw [handleActCon]
  cases server.outstandingCommands.find? fun command =>
    isMatching command type ca ioa <;> rfl

theorem handleActTerm_snd (server : IEC104Server) (type ca ioa : Int)
    (isNegative : Bool) :
    (handleActTerm server type ca ioa isNegative).2 =
      ((server.outstandingCommands.find? fun command =>
        isMatching command type ca ioa).map fun command =>
          (sendActTerm command isNegative).2).getD [] := by
  rw [handleActTerm]
  cases server.outstandingCommands.find? fun command =>
    isMatching command type ca ioa <;> rfl

/-- The scan for timeouts in `IEC104Server::_monitoringThread`. -/
def scanTimeouts (server : IEC104Server) (currentTime : Nat) :
    IEC104Server :=
  { server with
    outstandingCommands :=
      eraseWhile (hasTimedOut · currentTime) []
        server.outstandingCommands }

/-! ## What the loops leave -/

@[simp]
theorem removeOutstandingCommands_outstandingCommands
    (server : IEC104Server) (connection : Connection) :
    (removeOutstandingCommands server connection).outstandingCommands =
      server.outstandingCommands.filter
        (fun command => !isSentFromConnection command connection) := by
  simp [removeOutstandingCommands, eraseWhile_eq_append_filter]

@[simp]
theorem scanTimeouts_outstandingCommands
    (server : IEC104Server) (currentTime : Nat) :
    (scanTimeouts server currentTime).outstandingCommands =
      server.outstandingCommands.filter
        (fun command => !hasTimedOut command currentTime) := by
  simp [scanTimeouts, eraseWhile_eq_append_filter]

@[simp]
theorem isMatching_iff {command : OutstandingCommand}
    {typeId ca ioa : Int} :
    isMatching command typeId ca ioa = true ↔
      command.typeId = typeId ∧ command.ca = ca ∧ command.ioa = ioa := by
  unfold isMatching
  rw [Bool.and_eq_true, Bool.and_eq_true, beq_iff_eq, beq_iff_eq, beq_iff_eq,
    and_assoc]
  exact and_congr eq_comm (and_congr eq_comm eq_comm)

@[simp]
theorem isSentFromConnection_iff {command : OutstandingCommand}
    {connection : Connection} :
    isSentFromConnection command connection = true ↔
      command.connection = connection := by
  unfold isSentFromConnection
  rw [beq_iff_eq]
  exact eq_comm

end Iec104North.OutstandingCommands
