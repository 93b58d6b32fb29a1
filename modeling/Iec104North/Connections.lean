import Iec104North.OutstandingCommands

/-!
# Connection events

`sendInitialAudits` gives the slots of the redundancy groups their path letters
and raises the first audits.  `connectionEventHandler` keeps the slots, raises
the audits and drops the outstanding commands of a connection that is closed or
deactivated.
-/

namespace Iec104North.Connections

open Iec104North.Values
open Iec104North.Config
open Iec104North.Server
open Iec104North.Server.IEC104Server
open Iec104North.OutstandingCommands

/-! ## The start of the slave -/

/-- The path letter of the slot at a position of its group. -/
def pathLetterAt (position : Nat) : String :=
  if position == 0 then "A" else "B"

/-- The arguments of `sendConnectionStatusAudit`. -/
structure ConnectionAudit where
  auditType : String
  redGroupIndex : String
  pathLetter : String
deriving DecidableEq, Repr

/-- The audits of `sendInitialAudits` for one group. -/
def initialGroupAudits (index : Nat) (redGroup : RedGroup) :
    List ConnectionAudit :=
  (redGroup.connections.map fun connection =>
    ⟨"disconnected", toString index, connection.pathLetter⟩) ++
  match redGroup.connections.length with
  | 0 => [⟨"unused", toString index, "A"⟩, ⟨"unused", toString index, "B"⟩]
  | 1 => [⟨"unused", toString index, "B"⟩]
  | _ => []

/-- The audits of `sendInitialAudits` for groups that are not configured. -/
def unusedGroupAudits (configuredRedGroups maxRedGroups : Nat) :
    List ConnectionAudit :=
  (List.range' configuredRedGroups
      (maxRedGroups - configuredRedGroups)).flatMap fun index =>
    [⟨"unused", toString index, "A"⟩, ⟨"unused", toString index, "B"⟩]

/-- The connection audits of `sendInitialAudits`, in order. -/
def initialAudits (config : IEC104Config) : List ConnectionAudit :=
  (config.redundancyGroups.zipIdx.flatMap fun entry =>
    initialGroupAudits entry.2 entry.1) ++
  unusedGroupAudits config.redundancyGroups.length
    config.maxRedundancyGroups

/-- `sendConnectionStatusAudit` for one audit after the other. -/
def sendConnectionStatusAudits (server : IEC104Server) :
    List ConnectionAudit → IEC104Server × List Effect
  | [] => (server, [])
  | audit :: rest =>
      let first :=
        sendConnectionStatusAudit server audit.auditType
          audit.redGroupIndex audit.pathLetter
      let remaining := sendConnectionStatusAudits first.1 rest
      (remaining.1, first.2 ++ remaining.2)

/-- `SetPathLetter` for all slots of a group. -/
def setPathLetters (redGroup : RedGroup) : RedGroup :=
  { redGroup with
    connections :=
      redGroup.connections.mapIdx fun position connection =>
        { connection with pathLetter := pathLetterAt position } }

/-- What `sendInitialAudits` does. -/
structure SlaveStart where
  server : IEC104Server
  effects : List Effect
  maxOpenConnections : Nat

/--
`IEC104Server::sendInitialAudits`, with which `startSlave` begins;
`maxOpenConnections` goes to `CS104_Slave_setMaxOpenConnections`.
-/
def sendInitialAudits (server : IEC104Server) : SlaveStart :=
  let lettered :=
    { server with
      config :=
        { server.config with
          redundancyGroups :=
            server.config.redundancyGroups.map setPathLetters } }
  let (audited, effects) :=
    sendConnectionStatusAudits lettered (initialAudits lettered.config)
  let (started, globalEffects) :=
    sendGlobalStatusAudit audited "disconnected"
  { server := started
    effects := effects ++ globalEffects
    maxOpenConnections :=
      server.config.redundancyGroups.foldl
        (fun total redGroup => total + redGroup.connections.length) 0 }

/-! ## Events -/

/-- `CS104_PeerConnectionEvent`. -/
inductive PeerConnectionEvent where
  | opened
  | closed
  | activated
  | deactivated
deriving DecidableEq, Repr

/--
IP and port of a peer address: what stands before and after the first colon;
both are empty when there is none.
-/
def splitPeerAddress (peerAddress : String) : String × String :=
  let characters := peerAddress.toList
  if ':' ∈ characters then
    (String.ofList (characters.takeWhile (· != ':')),
      String.ofList ((characters.dropWhile (· != ':')).drop 1))
  else
    ("", "")

/--
The slot `connectionEventHandler` works on: group and position.  A slot with
the port of the peer comes first; otherwise a free one is taken, and `true`
says so.
-/
def findSlot (config : IEC104Config) (ip port : String) :
    Option (Nat × Nat × Bool) :=
  match config.getRedundancyGroup ip with
  | none => none
  | some group =>
      match config.redundancyGroups[group]? with
      | none => none
      | some redGroup =>
          match getRedGroupCon redGroup ip port with
          | some slot => some (group, slot, false)
          | none =>
              match getRedGroupCon redGroup ip with
              | some slot => some (group, slot, true)
              | none => none

/-- Change one slot of the configuration of the server. -/
def modifySlot (server : IEC104Server) (group slot : Nat)
    (change : RedGroupCon → RedGroupCon) : IEC104Server :=
  { server with config := server.config.modifySlot group slot change }

/-- The index of a group and the path letter of one of its slots. -/
def slotLabel (server : IEC104Server) (group slot : Nat) :
    String × String :=
  (((server.config.redundancyGroups[group]?.map
      fun redGroup => toString redGroup.index).getD ""),
    ((server.config.slot? group slot).map RedGroupCon.pathLetter).getD "")

/-- The branches of `connectionEventHandler` for a slot that was found. -/
def handleSlotEvent (server : IEC104Server) (group slot : Nat)
    (con : Connection) (event : PeerConnectionEvent) :
    IEC104Server × List Effect :=
  let label := slotLabel server group slot
  match event with
  | .opened => sendConnectionStatusAudit server "passive" label.1 label.2
  | .closed =>
      let (audited, effects) :=
        sendConnectionStatusAudit server "disconnected" label.1 label.2
      let freed :=
        modifySlot audited group slot fun connection =>
          { connection with port := "" }
      let removed := removeOutstandingCommands freed con
      if removed.isAnyConnectionEstablished then
        (removed, effects)
      else
        let (disconnected, globalEffects) :=
          sendGlobalStatusAudit removed "disconnected"
        (disconnected, effects ++ globalEffects)
  | .activated =>
      let (audited, effects) :=
        sendConnectionStatusAudit server "active" label.1 label.2
      let (connected, globalEffects) :=
        sendGlobalStatusAudit audited "connected"
      (modifySlot connected group slot fun connection =>
          { connection with isActive := true },
        effects ++ globalEffects)
  | .deactivated =>
      let (audited, effects) :=
        sendConnectionStatusAudit server "passive" label.1 label.2
      let removed := removeOutstandingCommands audited con
      (modifySlot removed group slot fun connection =>
          { connection with isActive := false },
        effects)

/--
`IEC104Server::connectionEventHandler`; `peerAddress` is what
`IMasterConnection_getPeerAddress` gives for the connection.
-/
def connectionEventHandler (server : IEC104Server) (con : Connection)
    (peerAddress : String) (event : PeerConnectionEvent) :
    IEC104Server × List Effect :=
  let (ip, port) := splitPeerAddress peerAddress
  match findSlot server.config ip port with
  | none => (server, [])
  | some (group, slot, isNew) =>
      let assigned :=
        if isNew then
          modifySlot server group slot fun connection =>
            { connection with port := port }
        else
          server
      handleSlotEvent assigned group slot con event

end Iec104North.Connections
