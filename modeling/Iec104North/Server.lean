import Iec104North.Config
import Iec104North.DataPoints

/-!
# The state of the server and its effects

`IEC104Server` between two calls, and the calls it makes to the outside:
lib60870 functions that send or enqueue an ASDU, the registered control
callback, and audits.
-/

namespace Iec104North.Server

open Iec104North.Values
open Iec104North.Config
open Iec104North.DataPoints

/--
The field `m_state` of an outstanding command: 0 (completed), 1 (waiting for
ACT-CON) or 2 (waiting for ACT-TERM).
-/
inductive CommandState where
  | completed
  | waitActCon
  | waitActTerm
deriving DecidableEq, Repr

/--
An `IEC104OutstandingCommand`.  `address` is the identity of the object; two
objects of one run never share it.
-/
structure OutstandingCommand where
  address : Nat
  receivedAsdu : Asdu
  connection : Connection
  typeId : Int
  ca : Int
  ioa : Int
  isSelect : Bool
  cmdExecTimeout : Int
  commandRcvdTime : Nat
  nextTimeout : Nat
  state : CommandState
deriving DecidableEq, Repr

/-- How an audit is raised: `audit_info`, `audit_fail` or `audit_success`. -/
inductive AuditLevel where
  | info
  | fail
  | success
deriving DecidableEq, Repr

/-- One call of the registered control callback. -/
structure OperationCall where
  operation : String
  names : List String
  parameters : List String
  destination : Option String
deriving DecidableEq, Repr

/--
A call to the outside.  `IMasterConnection_sendACT_CON`, `sendACT_TERM` and
`sendASDU` name the outstanding command they answer, if any.  lib60870 writes
the cause of transmission of ACT-CON and ACT-TERM itself, so that the `cot` of
the ASDU handed over does not matter there.
-/
inductive Effect where
  | sendActCon (command : Option OutstandingCommand)
      (connection : Connection) (asdu : Asdu) (negative : Bool)
  | sendActTerm (command : Option OutstandingCommand)
      (connection : Connection) (asdu : Asdu)
  | sendAsdu (command : Option OutstandingCommand)
      (connection : Connection) (asdu : Asdu)
  | sendData (connection : Connection) (asdu : DataAsdu)
  | enqueueAsdu (asdu : DataAsdu)
  | operation (call : OperationCall)
  | audit (level : AuditLevel) (message : String)
deriving DecidableEq, Repr

/--
The fields of `IEC104Server`.  `slaveRunning` says that `m_slave` is there and
`CS104_Slave_isRunning` holds, `operRegistered` that `m_oper` is set, and
`allocated` counts the outstanding commands allocated so far.
-/
structure IEC104Server where
  config : IEC104Config
  exchangeDefinitions : PointTable
  outstandingCommands : List OutstandingCommand := []
  slaveRunning : Bool := false
  operRegistered : Bool := false
  serviceName : String := ""
  lastConnectionAudit : String := ""
  lastGlobalAudit : String := ""
  allocated : Nat := 0

namespace IEC104Server

/-- `IEC104Server::checkIfSouthConnected`. -/
def checkIfSouthConnected (server : IEC104Server) : Bool :=
  server.config.monitoredSouthPlugins.any fun southPlugin =>
    southPlugin.connxStatus == .started

/-- `IEC104Server::isAnyConnectionEstablished`. -/
def isAnyConnectionEstablished (server : IEC104Server) : Bool :=
  server.config.redundancyGroups.any fun redGroup =>
    redGroup.connections.any fun connection => connection.port != ""

/-- `IEC104Server::sendConnectionStatusAudit`. -/
def sendConnectionStatusAudit (server : IEC104Server)
    (auditType redGroupIndex pathLetter : String) :
    IEC104Server × List Effect :=
  let level :=
    if auditType == "disconnected" then AuditLevel.fail
    else if auditType == "passive" || auditType == "active" then .success
    else .info
  let auditString :=
    server.serviceName ++ "-" ++ redGroupIndex ++ "-" ++ pathLetter ++ "-" ++
      auditType
  if auditString == server.lastConnectionAudit then
    (server, [])
  else
    ({ server with lastConnectionAudit := auditString },
      [.audit level auditString])

/-- `IEC104Server::sendGlobalStatusAudit`. -/
def sendGlobalStatusAudit (server : IEC104Server) (auditType : String) :
    IEC104Server × List Effect :=
  if auditType == server.lastGlobalAudit then
    (server, [])
  else
    let level :=
      if auditType == "disconnected" then AuditLevel.fail
      else if auditType == "connected" then .success
      else .info
    ({ server with lastGlobalAudit := auditType },
      [.audit level (server.serviceName ++ "-" ++ auditType)])

end IEC104Server

/--
A server with a connected south plugin, a monitoring point at 1:10 and a
command point at 1:20, both single points, to run the model on.
-/
def sampleServer : IEC104Server where
  config :=
    { monitoredSouthPlugins := [⟨"south", .started, .idle⟩]
      allowedCommands := 2 }
  exchangeDefinitions :=
    (PointTable.empty.store
        (DataPoint.create "TM" 1 10 .sp false 1)).store
      (DataPoint.create "TC" 1 20 .sp true 0)
  slaveRunning := true
  operRegistered := true

end Iec104North.Server
