import Iec104North.MonitoringLoop

/-!
# Starts, stops and requests of the monitoring thread

The calls of `_monitoringThread` over any list of turns: the slave is started
and stopped alternately and is stopped in the end, and the state of the south
side is asked for once in each turn until the request is accepted.
-/

namespace Iec104North.SlaveControl

open Iec104North.Library
open Iec104North.Config
open Iec104North.Server
open Iec104North.MonitoringLoop

section Turns

variable (server : IEC104Server)

/-- The calls of the turn that follows some turns. -/
def callsOf (earlier : List Turn) (turn : Turn) : List LoopCall :=
  (loopTurn server ((loop server).after {} earlier) turn).2

/-- The request of a turn, with its result. -/
def requestOf (turn : Turn) : LoopCall :=
  .operation (connectionStatusRequest server)
    (operation turn.requestReturned)

/-- The request of a turn is accepted. -/
def IsRequestAccepted (turn : Turn) : Prop :=
  0 < operation turn.requestReturned

instance (turn : Turn) : Decidable (IsRequestAccepted turn) :=
  inferInstanceAs (Decidable (_ < _))

/-! ## Requests -/

section Requests

variable (state : LoopState) (turn : Turn)

theorem controlSlave_southStatusRequested :
    (controlSlave server state turn).1.southStatusRequested =
      state.southStatusRequested := by
  simp only [controlSlave, notifySouth]
  repeat' split
  all_goals rfl

theorem filter_controlSlave :
    (controlSlave server state turn).2.filter isRequest = [] := by
  simp only [controlSlave, notifySouth]
  repeat' split
  all_goals simp [isRequest, northStatus]

theorem southStatusRequested_turn :
    (loopTurn server state turn).1.southStatusRequested =
      (state.southStatusRequested || decide (IsRequestAccepted turn)) := by
  simp only [loopTurn, controlSlave_southStatusRequested]
  rw [requestSouthConnectionStatus]
  cases requested : state.southStatusRequested with
  | false =>
      rw [Bool.false_or]
      rfl
  | true => simp [requested]

theorem filter_turn :
    (loopTurn server state turn).2.filter isRequest =
      if state.southStatusRequested then [] else [requestOf server turn] := by
  simp only [loopTurn, List.filter_append, filter_controlSlave,
    List.append_nil]
  rw [requestSouthConnectionStatus]
  cases requested : state.southStatusRequested with
  | false => simp [requestOf]
  | true => simp

end Requests

/-- The thread remembers whether a request was accepted. -/
theorem southStatusRequested_run (turns : List Turn) :
    ((loop server).after {} turns).southStatusRequested = true ↔
      ∃ turn ∈ turns, IsRequestAccepted turn := by
  induction turns using List.reverseRecOn with
  | nil => simp
  | append_singleton turns last ih =>
      rw [Machine.after_append]
      simp [southStatusRequested_turn, ih, or_and_right, exists_or]

/-! ## Starts and stops -/

section Boundaries

variable (state : LoopState) (turn : Turn)

theorem boundary_requestSouthConnectionStatus {call : LoopCall}
    (member :
      call ∈ (requestSouthConnectionStatus server state turn).2) :
    slaveBoundary call = none := by
  rw [requestSouthConnectionStatus] at member
  split at member
  · rw [List.mem_singleton.mp member]
    rfl
  · simp at member

theorem boundary_notifySouth {call : LoopCall}
    (member : call ∈ (notifySouth server state turn).2) :
    slaveBoundary call = none := by
  rw [notifySouth] at member
  split at member
  · rw [List.mem_singleton.mp member]
    rfl
  · simp at member

/-- In the mode that depends on the south side, what a start or stop saw. -/
theorem southConnected_of_boundary
    (mode : server.config.mode = .connectIfSouthConnxStarted)
    {call : LoopCall} {mark : Bool}
    (marks : slaveBoundary call = some mark)
    (member : call ∈ (loopTurn server state turn).2) :
    southConnected server turn = mark := by
  rw [loopTurn] at member
  rcases List.mem_append.mp member with requests | controls
  · have within :=
      boundary_requestSouthConnectionStatus server state turn requests
    simp [within] at marks
  simp only [controlSlave, mode] at controls
  split at controls
  · split at controls
    · rename_i connected
      rw [List.mem_singleton.mp controls] at marks
      rw [connected]
      exact Option.some.inj marks
    · simp at controls
  · split at controls
    · rename_i disconnected
      rcases List.mem_append.mp controls with notified | stops
      · simp [boundary_notifySouth server _ turn notified] at marks
      · rw [List.mem_singleton.mp stops] at marks
        rw [beq_iff_eq.mp disconnected]
        exact Option.some.inj marks
    · simp [boundary_notifySouth server _ turn controls] at marks

/-- In the other mode the slave is started unless it has been. -/
theorem boundaries_of_connectAlways
    (mode : server.config.mode = .connectAlways) :
    (loopTurn server state turn).1.serverRunning = true ∧
      (loopTurn server state turn).2.filterMap slaveBoundary =
        if state.serverRunning then [] else [true] := by
  have silent :
      (requestSouthConnectionStatus server state
        turn).2.filterMap slaveBoundary = [] :=
    List.filterMap_eq_nil_iff.mpr fun call member =>
      boundary_requestSouthConnectionStatus server state turn member
  have kept :
      (requestSouthConnectionStatus server state turn).1.serverRunning =
        state.serverRunning := by
    rw [requestSouthConnectionStatus]
    split <;> rfl
  simp only [loopTurn, List.filterMap_append, silent, List.nil_append,
    controlSlave, mode, kept]
  cases running : state.serverRunning with
  | false => exact ⟨rfl, rfl⟩
  | true => exact ⟨kept.trans running, rfl⟩

end Boundaries

/-- In the mode that always accepts there is one start and no stop. -/
theorem boundaries_connectAlways_run
    (mode : server.config.mode = .connectAlways) (turns : List Turn) :
    (((loop server).after {} turns).serverRunning = true ↔
        turns ≠ []) ∧
      (loopCalls server turns).filterMap slaveBoundary =
        if turns = [] then [] else [true] := by
  induction turns using List.reverseRecOn with
  | nil => exact ⟨by simp, rfl⟩
  | append_singleton turns last ih =>
      have turned :=
        boundaries_of_connectAlways server
          ((loop server).after {} turns) last mode
      rw [loopCalls, Machine.after_append, Machine.outputs_append,
        List.filterMap_append]
      constructor
      · simpa using turned.1
      · have before := ih.2
        rw [loopCalls] at before
        rw [before]
        simp only [Machine.outputs_cons, Machine.outputs_nil,
          List.append_nil, loop_step, turned.2, ih.1]
        by_cases first : turns = [] <;> simp [first]

end Turns

/-! ## Runs -/

/-- What the calls of the monitoring thread are over a list of turns. -/
structure Controls (server : IEC104Server) (turns : List Turn) : Prop where
  alternates : Alternates slaveBoundary (monitoringThread server turns)
  stopsLast :
    ∀ mark ∈
        ((monitoringThread server turns).filterMap slaveBoundary).getLast?,
      mark = false
  startsConnected :
    server.config.mode = .connectIfSouthConnxStarted →
      EachStep
        (fun earlier turn =>
          .slaveStart ∈ callsOf server earlier turn →
            southConnected server turn = true)
        turns
  stopsDisconnected :
    server.config.mode = .connectIfSouthConnxStarted →
      EachStep
        (fun earlier turn =>
          .slaveStop ∈ callsOf server earlier turn →
            southConnected server turn = false)
        turns
  onceAlways :
    server.config.mode = .connectAlways →
      (monitoringThread server turns).filterMap slaveBoundary =
        if turns = [] then [] else [true, false]
  requests :
    EachStep
      (fun earlier turn =>
        (callsOf server earlier turn).filter isRequest =
          if ∃ before ∈ earlier, IsRequestAccepted before then []
          else [requestOf server turn])
      turns
  noLateRequest :
    (leaveLoop ((loop server).after {} turns)).2.filter isRequest = []

/-- Whatever the thread finds, it starts, stops and asks as it should. -/
theorem controls_run (server : IEC104Server) (turns : List Turn) :
    Controls server turns := by
  have consistent := consistent_run server turns
  have ended :
      Alternates slaveBoundary (monitoringThread server turns) ∧
        period slaveBoundary (monitoringThread server turns) = none := by
    rw [monitoringThread, leaveLoop]
    split
    · rename_i running
      exact
        ⟨consistent.alternates.concat_stop rfl
            (consistent.running.trans running),
          period_slaveStop _⟩
    · rename_i stopped
      rw [List.append_nil, ← Option.not_isSome_iff_eq_none,
        consistent.running]
      exact ⟨consistent.alternates, stopped⟩
  constructor
  · exact ended.1
  · exact getLast?_of_stopped ended.2
  · intro mode earlier turn later split starts
    exact southConnected_of_boundary server _ turn mode rfl starts
  · intro mode earlier turn later split stops
    exact southConnected_of_boundary server _ turn mode rfl stops
  · intro mode
    rcases boundaries_connectAlways_run server mode turns with
      ⟨running, boundaries⟩
    rw [monitoringThread, List.filterMap_append, boundaries, leaveLoop]
    by_cases first : turns = []
    · simp [first]
    · rw [if_pos (running.mpr first), if_neg first, if_neg first]
      rfl
  · intro earlier turn later split
    rw [callsOf, filter_turn]
    simp only [southStatusRequested_run]
  · rw [leaveLoop]
    split <;> rfl

example :
    monitoringThread waitingServer
        [sampleTurn false 0, sampleTurn true 1, sampleTurn false 0] =
      [.operation (connectionStatusRequest waitingServer) 0,
       .operation (connectionStatusRequest waitingServer) 1, .slaveStart,
       .operation (northStatus waitingServer) 1, .slaveStop] := by
  decide

end Iec104North.SlaveControl
