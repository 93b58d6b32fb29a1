import Iec104North.Library.Periods
import Iec104North.Server

/-!
# The monitoring thread

`IEC104Server::_monitoringThread` starts and stops the slave, asks for the
state of the south side until the request is accepted, and tells the south side
once that the socket is open.  The scan for timeouts at the end of a turn
shares nothing with this and is a step of its own.
-/

namespace Iec104North.MonitoringLoop

open Iec104North.Library
open Iec104North.Config
open Iec104North.Server

/-! ## The thread -/

/-- `southStatusRequested`, `serverRunning` and `m_initSocketFinished`. -/
structure LoopState where
  southStatusRequested : Bool := false
  serverRunning : Bool := false
  initSocketFinished : Bool := false
deriving DecidableEq, Repr

/-- `CS104_Slave_start`, `CS104_Slave_stop`, or `operation` and its result. -/
inductive LoopCall where
  | slaveStart
  | slaveStop
  | operation (call : OperationCall) (result : Int)
deriving DecidableEq, Repr

/--
What one turn of the loop finds: the results of the control callback, which are
`none` while no callback is registered, whether `CS104_Slave_isRunning`, and
the monitored south plugins.
-/
structure Turn where
  requestReturned : Option Int
  northStatusReturned : Option Int
  slaveRunning : Bool
  monitoredSouthPlugins : List SouthPluginMonitor
deriving DecidableEq, Repr

/-- The result of `IEC104Server::operation`: -1 without a callback. -/
def operation (returned : Option Int) : Int :=
  match returned with
  | none => -1
  | some res => res

section Thread

variable (server : IEC104Server)

/-- The control destination of an operation. -/
def cmdDest : Option String :=
  if server.config.cmdDest == "" then none else some server.config.cmdDest

/-- The operation `request_connection_status`. -/
def connectionStatusRequest : OperationCall where
  operation := "request_connection_status"
  names := ["desc"]
  parameters := ["request connection status"]
  destination := cmdDest server

/-- The operation `north_status` with `init_socket_finished`. -/
def northStatus : OperationCall where
  operation := "north_status"
  names := ["north_status"]
  parameters := ["init_socket_finished"]
  destination := cmdDest server

/-- What `checkIfSouthConnected` returns in a turn. -/
def southConnected (turn : Turn) : Bool :=
  let found :=
    { server with
      config :=
        { server.config with
          monitoredSouthPlugins := turn.monitoredSouthPlugins } }
  found.checkIfSouthConnected

/-- `IEC104Server::requestSouthConnectionStatus`, as the loop calls it. -/
def requestSouthConnectionStatus (state : LoopState) (turn : Turn) :
    LoopState × List LoopCall :=
  if state.southStatusRequested == false then
    let res := operation turn.requestReturned
    ({ state with southStatusRequested := decide (0 < res) },
      [.operation (connectionStatusRequest server) res])
  else
    (state, [])

/--
The notification of the south side; the flag is set whatever `operation`
returns.
-/
def notifySouth (state : LoopState) (turn : Turn) :
    LoopState × List LoopCall :=
  if turn.slaveRunning && !state.initSocketFinished then
    ({ state with initSocketFinished := true },
      [.operation (northStatus server) (operation turn.northStatusReturned)])
  else
    (state, [])

/-- The branch for the mode of the server. -/
def controlSlave (state : LoopState) (turn : Turn) :
    LoopState × List LoopCall :=
  match server.config.mode with
  | .connectAlways =>
      if state.serverRunning == false then
        ({ state with serverRunning := true }, [.slaveStart])
      else
        (state, [])
  | .connectIfSouthConnxStarted =>
      if state.serverRunning == false then
        if southConnected server turn then
          ({ state with serverRunning := true }, [.slaveStart])
        else
          (state, [])
      else
        let (notified, calls) := notifySouth server state turn
        if southConnected server turn == false then
          ({ notified with
              serverRunning := false
              initSocketFinished := false },
            calls ++ [.slaveStop])
        else
          (notified, calls)

/-- One turn of the loop. -/
def loopTurn (state : LoopState) (turn : Turn) :
    LoopState × List LoopCall :=
  let (requested, requestCalls) :=
    requestSouthConnectionStatus server state turn
  let (controlled, slaveCalls) := controlSlave server requested turn
  (controlled, requestCalls ++ slaveCalls)

/-- What follows the loop. -/
def leaveLoop (state : LoopState) : LoopState × List LoopCall :=
  if state.serverRunning then
    ({ state with serverRunning := false }, [.slaveStop])
  else
    (state, [])

/-- The loop as a machine. -/
def loop : Machine LoopState Turn LoopCall :=
  ⟨loopTurn server⟩

@[simp]
theorem loop_step (state : LoopState) (turn : Turn) :
    (loop server).step state turn = loopTurn server state turn :=
  rfl

@[simp]
theorem notifySouth_serverRunning (state : LoopState) (turn : Turn) :
    (notifySouth server state turn).1.serverRunning =
      state.serverRunning := by
  rw [notifySouth]
  split <;> rfl

/-- The calls of the loop. -/
def loopCalls (turns : List Turn) : List LoopCall :=
  (loop server).outputs {} turns

/-- `IEC104Server::_monitoringThread`: all its calls, in order. -/
def monitoringThread (turns : List Turn) : List LoopCall :=
  loopCalls server turns ++ (leaveLoop ((loop server).after {} turns)).2

end Thread

/-! ## Kinds of calls -/

/-- A start is `true` and a stop is `false`. -/
def slaveBoundary : LoopCall → Option Bool
  | .slaveStart => some true
  | .slaveStop => some false
  | .operation _ _ => none

section Periods

variable (calls : List LoopCall)

@[simp]
theorem period_slaveStart :
    period slaveBoundary (calls ++ [.slaveStart]) = some [] :=
  period_concat_start rfl

@[simp]
theorem period_slaveStop :
    period slaveBoundary (calls ++ [.slaveStop]) = none :=
  period_concat_stop rfl

@[simp]
theorem period_operation (call : OperationCall) (result : Int) :
    period slaveBoundary (calls ++ [.operation call result]) =
      (period slaveBoundary calls).map (· ++ [.operation call result]) :=
  period_concat_within rfl

end Periods

/-- The operation is `request_connection_status`. -/
def isRequest : LoopCall → Bool
  | .operation call _ => call.operation == "request_connection_status"
  | _ => false

/-- The operation is `north_status` with `init_socket_finished`. -/
def isNorthStatus : LoopCall → Bool
  | .operation call _ =>
      call.operation == "north_status" &&
        call.parameters == ["init_socket_finished"]
  | _ => false

/-- A notification which the callback has accepted. -/
def isAccepted : LoopCall → Bool
  | .operation call result =>
      isNorthStatus (.operation call result) && decide (0 < result)
  | _ => false

@[simp]
theorem isRequest_connectionStatusRequest (server : IEC104Server)
    (result : Int) :
    isRequest (.operation (connectionStatusRequest server) result) = true :=
  rfl

@[simp]
theorem isRequest_northStatus (server : IEC104Server) (result : Int) :
    isRequest (.operation (northStatus server) result) = false := by
  simp [isRequest, northStatus]

@[simp]
theorem isNorthStatus_connectionStatusRequest (server : IEC104Server)
    (result : Int) :
    isNorthStatus (.operation (connectionStatusRequest server) result) =
      false := by
  simp [isNorthStatus, connectionStatusRequest]

@[simp]
theorem isNorthStatus_northStatus (server : IEC104Server)
    (result : Int) :
    isNorthStatus (.operation (northStatus server) result) = true :=
  rfl

theorem isNorthStatus_of_isAccepted {call : LoopCall}
    (accepted : isAccepted call = true) : isNorthStatus call = true := by
  cases call with
  | operation call result =>
      rw [isAccepted, Bool.and_eq_true] at accepted
      exact accepted.1
  | _ => simp [isAccepted] at accepted

/-! ## The invariant of the loop -/

/-- A notification is issued while the slave has been started. -/
def IssuedWithin (before : List LoopCall) (call : LoopCall) : Prop :=
  isNorthStatus call = true →
    (period slaveBoundary before).isSome = true

/-- No notification was issued since the start when one is issued. -/
def IssuedOnce (before : List LoopCall) (call : LoopCall) : Prop :=
  isNorthStatus call = true →
    ∀ calls ∈ period slaveBoundary before,
      ∀ earlier ∈ calls, isNorthStatus earlier = false

/-- What the flags of the loop say about the calls made so far. -/
structure Consistent (state : LoopState) (calls : List LoopCall) :
    Prop where
  running :
    (period slaveBoundary calls).isSome = state.serverRunning
  idle :
    state.serverRunning = false → state.initSocketFinished = false
  notYet :
    state.initSocketFinished = false →
      ∀ since ∈ period slaveBoundary calls,
        ∀ call ∈ since, isNorthStatus call = false
  alternates : Alternates slaveBoundary calls
  within : EachStep IssuedWithin calls
  once : EachStep IssuedOnce calls

namespace Consistent

theorem initial : Consistent {} [] where
  running := rfl
  idle _ := rfl
  notYet := by simp
  alternates := .nil
  within := eachStep_nil _
  once := eachStep_nil _

variable {state : LoopState} {calls : List LoopCall}

/-- A call that is no notification leaves both conditions on them. -/
theorem issued_concat (consistent : Consistent state calls)
    {call : LoopCall} (other : isNorthStatus call = false) :
    EachStep IssuedWithin (calls ++ [call]) ∧
      EachStep IssuedOnce (calls ++ [call]) := by
  rw [eachStep_concat_iff, eachStep_concat_iff]
  refine ⟨⟨consistent.within, ?_⟩, consistent.once, ?_⟩
  · simp [IssuedWithin, other]
  · simp [IssuedOnce, other]

theorem start (consistent : Consistent state calls)
    (stopped : state.serverRunning = false) :
    Consistent { state with serverRunning := true }
      (calls ++ [.slaveStart]) where
  running := by simp
  idle := by simp
  notYet := by simp
  alternates := by
    apply consistent.alternates.concat_start rfl
    rw [← Option.not_isSome_iff_eq_none, consistent.running, stopped]
    simp
  within := (consistent.issued_concat rfl).1
  once := (consistent.issued_concat rfl).2

theorem stop (consistent : Consistent state calls)
    (started : state.serverRunning = true) :
    Consistent
      { state with serverRunning := false, initSocketFinished := false }
      (calls ++ [.slaveStop]) where
  running := by simp
  idle := by simp
  notYet := by simp
  alternates :=
    consistent.alternates.concat_stop rfl (consistent.running.trans started)
  within := (consistent.issued_concat rfl).1
  once := (consistent.issued_concat rfl).2

theorem request (consistent : Consistent state calls)
    (server : IEC104Server) (turn : Turn) :
    Consistent (requestSouthConnectionStatus server state turn).1
      (calls ++ (requestSouthConnectionStatus server state turn).2) := by
  rw [requestSouthConnectionStatus]
  split
  · have issued :=
      consistent.issued_concat
        (isNorthStatus_connectionStatusRequest server
          (operation turn.requestReturned))
    constructor
    · rw [period_operation, Option.isSome_map]
      exact consistent.running
    · exact consistent.idle
    · intro unset since isSince call member
      rw [period_operation, Option.mem_map] at isSince
      rcases isSince with ⟨earlier, isEarlier, rfl⟩
      rcases List.mem_append.mp member with old | new
      · exact consistent.notYet unset earlier isEarlier call old
      · rw [List.mem_singleton.mp new]
        simp
    · exact consistent.alternates.concat_within rfl
    · exact issued.1
    · exact issued.2
  · rw [List.append_nil]
    exact consistent

theorem notify (consistent : Consistent state calls)
    (started : state.serverRunning = true) (server : IEC104Server)
    (turn : Turn) :
    Consistent (notifySouth server state turn).1
      (calls ++ (notifySouth server state turn).2) := by
  rw [notifySouth]
  split
  · rename_i due
    rw [Bool.and_eq_true, Bool.not_eq_true'] at due
    constructor
    · rw [period_operation, Option.isSome_map]
      exact consistent.running
    · simp [started]
    · simp
    · exact consistent.alternates.concat_within rfl
    · rw [eachStep_concat_iff]
      exact
        ⟨consistent.within, fun _ => consistent.running.trans started⟩
    · rw [eachStep_concat_iff]
      exact ⟨consistent.once, fun _ => consistent.notYet due.2⟩
  · rw [List.append_nil]
    exact consistent

theorem control (consistent : Consistent state calls)
    (server : IEC104Server) (turn : Turn) :
    Consistent (controlSlave server state turn).1
      (calls ++ (controlSlave server state turn).2) := by
  have started : ¬ (state.serverRunning == false) = true →
      state.serverRunning = true := by
    simp
  simp only [controlSlave]
  split
  · split
    · rename_i stopped
      exact consistent.start (beq_iff_eq.mp stopped)
    · simpa using consistent
  · split
    · rename_i stopped
      split
      · exact consistent.start (beq_iff_eq.mp stopped)
      · simpa using consistent
    · rename_i running
      have notified := consistent.notify (started running) server turn
      split
      · rw [← List.append_assoc]
        apply notified.stop
        rw [notifySouth_serverRunning]
        exact started running
      · exact notified

theorem turn (consistent : Consistent state calls)
    (server : IEC104Server) (turn : Turn) :
    Consistent (loopTurn server state turn).1
      (calls ++ (loopTurn server state turn).2) := by
  rw [loopTurn, ← List.append_assoc]
  exact (consistent.request server turn).control server turn

end Consistent

/-- The flags and the calls fit in every run. -/
theorem consistent_run (server : IEC104Server) (turns : List Turn) :
    Consistent ((loop server).after {} turns) (loopCalls server turns) := by
  induction turns using List.reverseRecOn with
  | nil => exact .initial
  | append_singleton turns last ih =>
      rw [loopCalls, Machine.after_append, Machine.outputs_append]
      simpa [loopCalls] using ih.turn server last

/-- `sampleServer`, which waits for the south side. -/
def waitingServer : IEC104Server :=
  { sampleServer with
    config :=
      { sampleServer.config with mode := .connectIfSouthConnxStarted } }

/-- A turn with a connected or disconnected south side. -/
def sampleTurn (connected : Bool) (requestReturned : Int) : Turn where
  requestReturned := some requestReturned
  northStatusReturned := some 1
  slaveRunning := true
  monitoredSouthPlugins :=
    [{ assetName := "south"
       connxStatus := if connected then .started else .notConnected }]

end Iec104North.MonitoringLoop
