import Iec104North.LedgerRefinement

/-!
# Lost connections

When a connection is closed or deactivated, no outstanding command should refer
to it any more.  The handler returns before it removes the commands when the
peer has no redundancy group, or no slot in it; the commands then stay exactly
in the runs in which such an event meets one of them.
-/

namespace Iec104North.ConnectionLoss

open Iec104North.Library
open Iec104North.AsduTypes
open Iec104North.Values
open Iec104North.Server
open Iec104North.OutstandingCommands
open Iec104North.Commands
open Iec104North.CommandPaths
open Iec104North.CommandLedger
open Iec104North.LedgerRefinement
open Iec104North.Readings
open Iec104North.Interrogation
open Iec104North.Connections
open Iec104North.Runs

/-! ## Activated connections -/

/-- Whether a connection is activated after an event, given it was before. -/
def activation (con : Connection) (active : Bool) : Event → Bool
  | .connection other _ .activated => if other = con then true else active
  | .connection other _ .closed => if other = con then false else active
  | .connection other _ .deactivated =>
      if other = con then false else active
  | _ => active

/-- The connection is open and activated after the events. -/
def isActivated (con : Connection) (events : List Event) : Bool :=
  events.foldl (activation con) false

/-- The event activates the connection. -/
def activates (con : Connection) : Event → Bool
  | .connection other _ .activated => other == con
  | _ => false

@[simp]
theorem isActivated_concat (con : Connection) (events : List Event)
    (event : Event) :
    isActivated con (events ++ [event]) =
      activation con (isActivated con events) event := by
  simp [isActivated]

/-- A connection stays inactive until an event activates it. -/
theorem isActivated_append_eq_false {con : Connection}
    {earlier later : List Event}
    (inactive : isActivated con earlier = false)
    (never : ∀ event ∈ later, activates con event = false) :
    isActivated con (earlier ++ later) = false := by
  induction later using List.reverseRecOn with
  | nil => simpa using inactive
  | append_singleton later event ih =>
      have before :=
        ih fun other member => never other (by simp [member])
      have last := never event (by simp)
      rw [← List.append_assoc, isActivated_concat, before]
      cases event with
      | connection other peerAddress event =>
          cases event <;> simp_all [activation, activates]
      | command => rfl
      | operationReturned => rfl
      | datapoint => rfl
      | interrogation => rfl
      | scanTimeouts => rfl
      | slaveRunning => rfl
      | registerControl => rfl

/-- Commands are received on activated connections only. -/
def ReceivedActivated (earlier : List Event) (event : Event) : Prop :=
  ∀ con asdu checkTime rcvdTime,
    event = .command con asdu checkTime rcvdTime →
      isActivated con earlier = true

/-! ## Feedback on a connection -/

/-- The connection on which an effect sends feedback. -/
def feedbackConnection : Effect → Option Connection
  | .sendActCon (some _) connection _ _ => some connection
  | .sendActTerm (some _) connection _ => some connection
  | _ => none

theorem feedbackConnection_of_silent {effects : List Effect}
    (silent : deliveries effects = []) :
    ∀ effect ∈ effects, feedbackConnection effect = none := by
  intro effect member
  have nothing : deliveryOf effect = none := by
    rw [deliveries, List.filterMap_eq_nil_iff] at silent
    exact silent effect member
  cases effect with
  | sendActCon command connection asdu isNegative =>
      cases command with
      | none => rfl
      | some command => simp [deliveryOf] at nothing
  | sendActTerm command connection asdu =>
      cases command with
      | none => rfl
      | some command => simp [deliveryOf] at nothing
  | sendAsdu command connection asdu => rfl
  | sendData connection asdu => rfl
  | enqueueAsdu asdu => rfl
  | operation call => rfl
  | audit level message => rfl

/-- Feedback goes to the connection of an outstanding command. -/
theorem handleFeedback_connection (server : IEC104Server)
    (feedback : Feedback) {effect : Effect}
    (member : effect ∈ (handleFeedback server feedback).2)
    {con : Connection} (sends : feedbackConnection effect = some con) :
    ∃ command ∈ server.outstandingCommands, command.connection = con := by
  rcases feedback with ⟨kind, type, ca, ioa, isNegative⟩
  cases kind with
  | actCon =>
      simp only [handleFeedback, handleActCon] at member
      split at member
      · rename_i command found
        rw [sendActCon_snd, List.mem_singleton] at member
        subst member
        exact
          ⟨command, List.mem_of_find?_eq_some found,
            Option.some.inj sends⟩
      · simp at member
  | actTerm =>
      simp only [handleFeedback, handleActTerm] at member
      split at member
      · rename_i command found
        rw [sendActTerm_snd, List.mem_singleton] at member
        subst member
        exact
          ⟨command, List.mem_of_find?_eq_some found,
            Option.some.inj sends⟩
      · simp at member

variable (platform : Platform)

theorem enterAsduHandler_noFeedback (server : IEC104Server)
    (connection : Connection) (asdu : Asdu) (checkTime rcvdTime : Nat) :
    ∀ effect ∈
        (enterAsduHandler platform server connection asdu checkTime
          rcvdTime).effects,
      feedbackConnection effect = none := by
  intro effect member
  rcases
      enterAsduHandler_cases platform server connection asdu checkTime
        rcvdTime with
    ⟨io, parameters, isSelect, -, -, entered⟩ | ⟨cot, -, -, entered⟩ |
      ⟨-, -, entered⟩
  · rw [entered] at member
    dsimp only at member
    split at member
    · rcases List.mem_singleton.mp member with rfl
      rfl
    · rcases List.mem_singleton.mp member with rfl
      rfl
  · rw [entered] at member
    rcases List.mem_singleton.mp member with rfl
    rfl
  · rw [entered] at member
    simp at member

theorem operationReturned_noFeedback (handler : PendingOperation)
    (result : Int) :
    ∀ effect ∈ operationReturned handler result,
      feedbackConnection effect = none := by
  intro effect member
  rw [operationReturned] at member
  split at member
  · simp at member
  · rcases List.mem_singleton.mp member with rfl
    rfl

/-- A step sends feedback only for a command outstanding before it. -/
theorem step_feedbackConnection (system : System) (event : Event)
    {effect : Effect} (member : effect ∈ (step platform system event).2)
    {con : Connection} (sends : feedbackConnection effect = some con) :
    ∃ command ∈ system.server.outstandingCommands,
      command.connection = con := by
  have silent :
      ∀ effects : List Effect,
        deliveries effects = [] → effect ∈ effects → False := by
    intro effects nothing inEffects
    rw [feedbackConnection_of_silent nothing effect inEffects] at sends
    simp at sends
  cases event with
  | command connection asdu checkTime rcvdTime =>
      rw [enterAsduHandler_noFeedback platform system.server connection asdu
        checkTime rcvdTime effect member] at sends
      simp at sends
  | operationReturned address result =>
      simp only [step] at member
      split at member
      · simp at member
      · rename_i handler found
        rw [operationReturned_noFeedback handler result effect member]
          at sends
        simp at sends
  | datapoint assetName dp now =>
      cases given :
          (if system.server.slaveRunning then feedbackOf platform dp
          else none) with
      | some feedback =>
          split at given
          · rename_i running
            have sent :=
              sendDatapoint_feedback platform system.server assetName now
                given running
            simp only [step, sent] at member
            exact
              handleFeedback_connection system.server feedback member sends
          · simp at given
      | none =>
          have noFeedback :
              system.server.slaveRunning = true →
                feedbackOf platform dp = none := by
            intro running
            simpa [running] using given
          simp only [step] at member
          split at member
          · simp at member
          · rename_i sent
            exact
              (silent _
                (sendDatapoint_leavesLedger platform system.server noFeedback
                  sent).silent member).elim
  | interrogation connection asdu qoi =>
      exact
        (silent _
          (interrogationHandler_leavesLedger platform connection asdu qoi
            system.server).silent member).elim
  | scanTimeouts currentTime => simp [step] at member
  | connection con' peerAddress event =>
      exact
        (silent _
          (connectionEventHandler_ledger system.server con' peerAddress
            event).2.2 member).elim
  | slaveRunning running => simp [step] at member
  | registerControl => simp [step] at member

/-! ## Runs -/

section Runs

variable (start : System)

/--
The condition on one step: a lost connection has a slot, or no outstanding
command refers to it.
-/
def LossHandled (earlier : List Event) (event : Event) : Prop :=
  let system := (machine platform).after start earlier
  ∀ con peerAddress loss,
    event = .connection con peerAddress loss → isLoss loss = true →
      (slotFor system.server peerAddress).isSome = true ∨
        ∀ command ∈ system.server.outstandingCommands,
          command.connection ≠ con

/--
After a connection is lost, and until it is activated again, no outstanding
command refers to it and no feedback is sent on it.
-/
def ForgetsLost (events : List Event) : Prop :=
  ∀ earlier con peerAddress loss later rest,
    events =
        earlier ++ .connection con peerAddress loss :: (later ++ rest) →
      isLoss loss = true →
      (∀ event ∈ later, activates con event = false) →
        let lost := earlier ++ [.connection con peerAddress loss]
        (∀ command ∈
            ((machine platform).after start
              (lost ++ later)).server.outstandingCommands,
          command.connection ≠ con) ∧
        ∀ effect ∈
            (machine platform).outputs
              ((machine platform).after start lost) later,
          feedbackConnection effect ≠ some con

/-- Outstanding commands belong to activated connections. -/
def OnActivated (events : List Event) : Prop :=
  ∀ command ∈
      ((machine platform).after start events).server.outstandingCommands,
    isActivated command.connection events = true

/-- An activated connection stays so until it is lost. -/
theorem activation_true (con : Connection) (event : Event) :
    activation con true event = true ∨
      ∃ peerAddress loss,
        event = .connection con peerAddress loss ∧ isLoss loss = true := by
  cases event with
  | connection other peerAddress event =>
      by_cases same : other = con
      · subst same
        cases event with
        | opened => exact Or.inl rfl
        | closed => exact Or.inr ⟨peerAddress, .closed, rfl, rfl⟩
        | activated => exact Or.inl (by simp [activation])
        | deactivated => exact Or.inr ⟨peerAddress, .deactivated, rfl, rfl⟩
      · cases event <;> simp [activation, same]
  | command => exact Or.inl rfl
  | operationReturned => exact Or.inl rfl
  | datapoint => exact Or.inl rfl
  | interrogation => exact Or.inl rfl
  | scanTimeouts => exact Or.inl rfl
  | slaveRunning => exact Or.inl rfl
  | registerControl => exact Or.inl rfl

/-- The step lemma. -/
theorem onActivated_concat {events : List Event} {event : Event}
    (holds : OnActivated platform start events)
    (received : ReceivedActivated events event)
    (handled : LossHandled platform start events event) :
    OnActivated platform start (events ++ [event]) := by
  intro command member
  rw [outstanding_concat] at member
  rw [isActivated_concat]
  rcases Move.mem_outstanding member with
    ⟨old, wasThere, same⟩ | ⟨handler, registered, enters, rfl⟩
  · rw [same.connection, holds old wasThere]
    rcases activation_true old.connection event with
      active | ⟨peerAddress, loss, rfl, isLost⟩
    · exact active
    · rcases handled old.connection peerAddress loss rfl isLost with
        slot | none
      · have kept :
            isSentFromConnection command old.connection = false := by
          simp only [moveAfter, moveOf, isLost, slot, Bool.and_self, if_true,
            Move.outstanding, List.mem_filter, Bool.not_eq_true'] at member
          exact member.2
        have sent :=
          isSentFromConnection_iff.mpr same.connection
        simp [kept] at sent
      · exact (none old wasThere rfl).elim
  · rcases moveOf_enter platform enters with
      ⟨connection, asdu, checkTime, rcvdTime, isSelect, rfl, rfl, -⟩
    exact received connection asdu checkTime rcvdTime rfl

theorem onActivated_run (initial : Initial start) {events : List Event}
    (received : EachStep ReceivedActivated events)
    (handled : EachStep (LossHandled platform start) events) :
    OnActivated platform start events := by
  induction events using List.reverseRecOn with
  | nil => simp [OnActivated, initial.outstanding]
  | append_singleton events event ih =>
      have receivedSteps := (eachStep_concat_iff _ _ _).mp received
      have handledSteps := (eachStep_concat_iff _ _ _).mp handled
      exact
        onActivated_concat platform start
          (ih receivedSteps.1 handledSteps.1) receivedSteps.2
          handledSteps.2

/-- Commands of a connection that is not activated are not answered. -/
theorem outputs_feedbackConnection {con : Connection} {system : System}
    {later : List Event}
    (never :
      ∀ first second, later = first ++ second → second ≠ [] →
        ∀ command ∈
            ((machine platform).after system
              first).server.outstandingCommands,
          command.connection ≠ con) :
    ∀ effect ∈ (machine platform).outputs system later,
      feedbackConnection effect ≠ some con := by
  induction later generalizing system with
  | nil => simp
  | cons event later ih =>
      intro effect member sends
      rcases List.mem_append.mp member with now | after
      · rcases step_feedbackConnection platform system event now sends with
          ⟨command, isOutstanding, same⟩
        exact
          never [] (event :: later) rfl (by simp) command isOutstanding same
      · refine ih ?_ effect after sends
        intro first second split more
        exact never (event :: first) second (by simp [split]) more

/--
When commands come in on activated connections only, lost connections are
forgotten exactly in the runs in which every loss is handled or harmless.
-/
theorem forgetsLost_iff_lossHandled (initial : Initial start)
    {events : List Event} (received : EachStep ReceivedActivated events) :
    ForgetsLost platform start events ↔
      EachStep (LossHandled platform start) events := by
  constructor
  · intro forgets earlier event rest split con peerAddress loss is isLost
    subst is
    have forgotten :=
      (forgets earlier con peerAddress loss [] rest (by simpa using split)
        isLost (by simp)).1
    by_cases slot :
        (slotFor ((machine platform).after start earlier).server
          peerAddress).isSome = true
    · exact Or.inl slot
    · have idle :
          moveAfter platform start earlier
              (.connection con peerAddress loss) =
            .idle := by
        simp [moveAfter, moveOf, slot]
      refine Or.inr fun command member => forgotten command ?_
      rw [List.append_nil, outstanding_concat, idle]
      exact member
  · intro handled earlier con peerAddress loss later rest split isLost never
    have activated :
        ∀ first second, later = first ++ second →
          ∀ command ∈
              ((machine platform).after start
                (earlier ++ [.connection con peerAddress loss] ++
                  first)).server.outstandingCommands,
            command.connection ≠ con := by
      intro first second parts command member same
      have whole :
          events =
            (earlier ++ [.connection con peerAddress loss] ++ first) ++
              (second ++ rest) := by
        simp [split, parts]
      rw [whole] at received handled
      have active :=
        onActivated_run platform start initial received.prefix
          handled.prefix command member
      have lost :
          isActivated con (earlier ++ [.connection con peerAddress loss]) =
            false := by
        rw [isActivated_concat]
        cases loss <;> simp_all [activation, isLoss]
      have inactive :
          isActivated con
              (earlier ++ [.connection con peerAddress loss] ++ first) =
            false := by
        apply isActivated_append_eq_false lost
        intro event inFirst
        exact never event (by simp [parts, inFirst])
      rw [same, inactive] at active
      simp at active
    refine ⟨activated later [] (by simp), ?_⟩
    apply outputs_feedbackConnection
    intro first second parts _
    simpa using activated first second parts

/-- A master that activates its connection, sends a command and disconnects. -/
def sampleDisconnect : List Event :=
  [.connection 1 "10.0.0.1:49152" .opened,
   .connection 1 "10.0.0.1:49152" .activated,
   .command 1 sampleCommand 0 0,
   .connection 1 "10.0.0.1:49152" .closed]

theorem sampleDisconnect_received :
    EachStep ReceivedActivated sampleDisconnect := by
  intro earlier event later split con asdu checkTime rcvdTime is
  subst is
  rcases earlier with - | ⟨first, - | ⟨second, - | ⟨third, earlier⟩⟩⟩
  · simp [sampleDisconnect] at split
  · simp [sampleDisconnect] at split
  · simp [sampleDisconnect] at split
    rcases split with ⟨rfl, rfl, ⟨rfl, -⟩, -⟩
    decide
  · rcases earlier with - | ⟨fourth, earlier⟩
    · simp [sampleDisconnect] at split
    · simp [sampleDisconnect] at split

theorem forgetsLost_iff_lossHandled_sample :
    ForgetsLost samplePlatform sampleSystem sampleDisconnect ↔
      EachStep (LossHandled samplePlatform sampleSystem) sampleDisconnect :=
  forgetsLost_iff_lossHandled samplePlatform sampleSystem ⟨rfl, rfl⟩
    sampleDisconnect_received

/-- Without redundancy groups the command of a closed connection stays. -/
theorem closedConnection_keepsCommand :
    Initial sampleSystem ∧
      EachStep ReceivedActivated sampleDisconnect ∧
      ¬ ForgetsLost samplePlatform sampleSystem sampleDisconnect := by
  refine ⟨⟨rfl, rfl⟩, sampleDisconnect_received, ?_⟩
  intro forgets
  have forgotten :=
    (forgets (sampleDisconnect.take 3) 1 "10.0.0.1:49152" .closed [] [] rfl rfl
      (by simp)).1
  revert forgotten
  decide

end Runs

end Iec104North.ConnectionLoss
