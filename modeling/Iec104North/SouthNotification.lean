import Iec104North.MonitoringLoop

/-!
# The notification of the south side

`m_initSocketFinished` is set when `north_status` has been issued, whatever
`operation` returned.  The flag says that the notification was accepted as long
as none that leaves it set is refused.
-/

namespace Iec104North.SouthNotification

open Iec104North.Library
open Iec104North.Config
open Iec104North.Server
open Iec104North.MonitoringLoop

/-! ## Accepted notifications -/

/--
The slave is started, and a notification was accepted since.  A stop ends what
a start began.
-/
def IsNotified (calls : List LoopCall) : Prop :=
  ∃ since ∈ period slaveBoundary calls,
    ∃ call ∈ since, isAccepted call = true

instance (calls : List LoopCall) : Decidable (IsNotified calls) :=
  inferInstanceAs
    (Decidable (∃ since ∈ period slaveBoundary calls,
      ∃ call ∈ since, isAccepted call = true))

/-- The flag says whether a notification was accepted since the start. -/
def IsFlagRight (state : LoopState) (calls : List LoopCall) : Prop :=
  state.initSocketFinished = true ↔ IsNotified calls

section Concat

variable (calls : List LoopCall)

theorem isNotified_operation (call : OperationCall) (result : Int) :
    IsNotified (calls ++ [.operation call result]) ↔
      IsNotified calls ∨
        (period slaveBoundary calls).isSome = true ∧
          isAccepted (.operation call result) = true := by
  rw [IsNotified, IsNotified, period_operation]
  cases period slaveBoundary calls with
  | none => simp
  | some since => simp [or_and_right, exists_or]

theorem not_isNotified_slaveStart :
    ¬ IsNotified (calls ++ [.slaveStart]) := by
  simp [IsNotified]

theorem not_isNotified_slaveStop :
    ¬ IsNotified (calls ++ [.slaveStop]) := by
  simp [IsNotified]

variable {calls}

/-- Without a notification none was accepted. -/
theorem not_isNotified_of_unset {state : LoopState}
    (consistent : Consistent state calls)
    (unset : state.initSocketFinished = false) : ¬ IsNotified calls := by
  rintro ⟨since, isSince, call, member, accepted⟩
  have issued := isNorthStatus_of_isAccepted accepted
  rw [consistent.notYet unset since isSince call member] at issued
  simp at issued

end Concat

/-! ## One turn -/

/--
A notification that is due is accepted, unless the slave is stopped in the same
turn.
-/
def NotificationAccepted (server : IEC104Server) (state : LoopState)
    (turn : Turn) : Prop :=
  state.serverRunning = true →
    state.initSocketFinished = false →
    turn.slaveRunning = true →
    southConnected server turn = true →
      0 < operation turn.northStatusReturned

instance (server : IEC104Server) (state : LoopState) (turn : Turn) :
    Decidable (NotificationAccepted server state turn) :=
  inferInstanceAs (Decidable (_ → _))

section Turns

variable (server : IEC104Server) {state : LoopState}
  {calls : List LoopCall} (turn : Turn)

/-- A request changes neither side. -/
theorem isFlagRight_request :
    IsFlagRight (requestSouthConnectionStatus server state turn).1
        (calls ++ (requestSouthConnectionStatus server state turn).2) ↔
      IsFlagRight state calls := by
  rw [requestSouthConnectionStatus]
  split
  · simp [IsFlagRight, isNotified_operation, isAccepted]
  · rw [List.append_nil]

/-- A notification leaves the flag right when it is accepted or not due. -/
theorem isFlagRight_notify (consistent : Consistent state calls)
    (started : state.serverRunning = true)
    (right : IsFlagRight state calls) :
    IsFlagRight (notifySouth server state turn).1
        (calls ++ (notifySouth server state turn).2) ↔
      (state.initSocketFinished = false →
        turn.slaveRunning = true →
          0 < operation turn.northStatusReturned) := by
  rw [notifySouth]
  split
  · rename_i due
    rw [Bool.and_eq_true, Bool.not_eq_true'] at due
    have before := not_isNotified_of_unset consistent due.2
    have within := consistent.running.trans started
    simp [IsFlagRight, isNotified_operation, before, within, due,
      isAccepted]
  · rename_i notDue
    rw [List.append_nil]
    refine iff_of_true right ?_
    intro unset running
    simp [unset, running] at notDue

/-- A start and a stop leave the flag unset, as it should be. -/
theorem isFlagRight_control
    (mode : server.config.mode = .connectIfSouthConnxStarted)
    (consistent : Consistent state calls)
    (right : IsFlagRight state calls) :
    IsFlagRight (controlSlave server state turn).1
        (calls ++ (controlSlave server state turn).2) ↔
      NotificationAccepted server state turn := by
  simp only [controlSlave, mode]
  split
  · rename_i isStopped
    have stopped : state.serverRunning = false := beq_iff_eq.mp isStopped
    have notDue : NotificationAccepted server state turn := by
      simp [NotificationAccepted, stopped]
    split
    · refine iff_of_true ?_ notDue
      simp [IsFlagRight, consistent.idle stopped, not_isNotified_slaveStart]
    · rw [List.append_nil]
      exact iff_of_true right notDue
  · rename_i isStarted
    have started : state.serverRunning = true := by simpa using isStarted
    split
    · rename_i disconnected
      refine iff_of_true ?_ ?_
      · rw [← List.append_assoc, IsFlagRight]
        exact iff_of_false (by simp) (not_isNotified_slaveStop _)
      · simp [NotificationAccepted, beq_iff_eq.mp disconnected]
    · rename_i isConnected
      have connected : southConnected server turn = true := by
        simpa using isConnected
      rw [isFlagRight_notify server turn consistent started right]
      simp [NotificationAccepted, started, connected]

/-- A turn keeps the flag right exactly when no notification is lost. -/
theorem isFlagRight_turn
    (mode : server.config.mode = .connectIfSouthConnxStarted)
    (consistent : Consistent state calls)
    (right : IsFlagRight state calls) :
    IsFlagRight (loopTurn server state turn).1
        (calls ++ (loopTurn server state turn).2) ↔
      NotificationAccepted server state turn := by
  have requested := consistent.request server turn
  have kept :
      (requestSouthConnectionStatus server state turn).1.serverRunning =
          state.serverRunning ∧
        (requestSouthConnectionStatus server state
            turn).1.initSocketFinished =
          state.initSocketFinished := by
    rw [requestSouthConnectionStatus]
    split <;> exact ⟨rfl, rfl⟩
  rw [loopTurn, ← List.append_assoc]
  refine
    (isFlagRight_control server turn mode requested
      ((isFlagRight_request server turn).mpr right)).trans ?_
  rw [NotificationAccepted, NotificationAccepted, kept.1, kept.2]

end Turns

/-! ## Runs -/

/--
The flag says in every state of the loop whether a notification was accepted
since the start; at most one is accepted before the slave is stopped, and none
is issued before it is started.
-/
structure NotifiesOnce (server : IEC104Server) (turns : List Turn) :
    Prop where
  flag :
    ∀ earlier, earlier <+: turns →
      IsFlagRight ((loop server).after {} earlier)
        (loopCalls server earlier)
  acceptedOnce :
    EachStep
      (fun before call =>
        isAccepted call = true →
          ∀ since ∈ period slaveBoundary before,
            ∀ earlier ∈ since, isAccepted earlier = false)
      (loopCalls server turns)
  issuedWithin :
    EachStep
      (fun before call =>
        isNorthStatus call = true →
          (period slaveBoundary before).isSome = true)
      (loopCalls server turns)

theorem flagRight_iff (server : IEC104Server)
    (mode : server.config.mode = .connectIfSouthConnxStarted)
    (turns : List Turn) :
    (∀ earlier, earlier <+: turns →
        IsFlagRight ((loop server).after {} earlier)
          (loopCalls server earlier)) ↔
      EachStep
        (fun earlier turn =>
          NotificationAccepted server ((loop server).after {} earlier) turn)
        turns := by
  refine
    @forall_prefix_iff_eachStep _ _ (fun _ _ => True) _ ?_ ?_ turns
      fun _ _ _ _ => trivial
  · simp [IsFlagRight, IsNotified, loopCalls]
  · intro earlier last _ _ right
    rw [← isFlagRight_turn server last mode (consistent_run server earlier)
      right]
    simp [loopCalls]

/--
The flag stands for an accepted notification in a run exactly when every
notification that is due in a turn which does not stop the slave is accepted.
-/
theorem notifiesOnce_iff (server : IEC104Server)
    (mode : server.config.mode = .connectIfSouthConnxStarted)
    (turns : List Turn) :
    NotifiesOnce server turns ↔
      EachStep
        (fun earlier turn =>
          NotificationAccepted server ((loop server).after {} earlier) turn)
        turns := by
  have consistent := consistent_run server turns
  rw [← flagRight_iff server mode turns]
  refine ⟨NotifiesOnce.flag, fun flag => ⟨flag, ?_, consistent.within⟩⟩
  intro before call later split accepted since isSince earlier member
  rw [Bool.eq_false_iff]
  intro again
  have issued :=
    consistent.once before call later split
      (isNorthStatus_of_isAccepted accepted) since isSince earlier member
  rw [isNorthStatus_of_isAccepted again] at issued
  simp at issued

theorem notifiesOnce_iff_sample :
    NotifiesOnce waitingServer [sampleTurn true 1, sampleTurn true 1] :=
  (notifiesOnce_iff waitingServer rfl _).mpr (by decide)

/-- A turn without any control callback. -/
def unregisteredTurn : Turn :=
  { sampleTurn true 1 with
    requestReturned := none
    northStatusReturned := none }

/-- Without a callback the notification is never accepted. -/
theorem unregistered_flagged :
    ¬ NotifiesOnce waitingServer [unregisteredTurn, unregisteredTurn] := by
  intro notifies
  have flagged := notifies.flag _ (List.prefix_refl _)
  have wrong :
      ¬ IsFlagRight
          ((loop waitingServer).after {} [unregisteredTurn, unregisteredTurn])
          (loopCalls waitingServer [unregisteredTurn, unregisteredTurn]) := by
    rw [IsFlagRight]
    decide
  exact wrong flagged

end Iec104North.SouthNotification
