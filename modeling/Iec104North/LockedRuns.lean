import Iec104North.AuditTrail
import Iec104North.CommandsLock
import Iec104North.Library.Simulation
import Iec104North.LifeCycle
import Iec104North.StepEffects

/-!
# Threads under the lock

A step of the server does at most one call on the outstanding commands, as a
whole.  The threads of the plugin do these calls in turns, under the lock, with
the other threads in between.  The lock makes the one out of the other: threads
whose calls get the lock in some order leave the commands, and send the
messages, of every run of the plugin that makes the calls in this order.
-/

namespace Iec104North.LockedRuns

open Iec104North.Library
open Iec104North.Values
open Iec104North.Server
open Iec104North.Server.IEC104Server
open Iec104North.OutstandingCommands
open Iec104North.Commands
open Iec104North.CommandPaths
open Iec104North.CommandLedger
open Iec104North.LedgerRefinement
open Iec104North.Connections
open Iec104North.Audits
open Iec104North.AuditTrail
open Iec104North.MonitoringLoop
open Iec104North.Runs
open Iec104North.LifeCycle
open Iec104North.StepEffects
open Iec104North.CommandsLock

/-! ## The calls of the server -/

section Server

variable (platform : Platform)

/-- The call an event makes, if it makes one. -/
def callOf (system : System) : Event → Option CommandsCall
  | .command connection asdu checkTime rcvdTime =>
      match
          commandMove platform system.server connection asdu checkTime
            rcvdTime with
      | .enter handler _ => some (.add handler.command)
      | _ => none
  | .operationReturned _ _ => none
  | .datapoint _ dp _ =>
      if system.server.slaveRunning then
        (feedbackOf platform dp).map .feedback
      else
        none
  | .interrogation _ _ _ => none
  | .scanTimeouts currentTime => some (.scan currentTime)
  | .connection con peerAddress event =>
      if isLoss event && (slotFor system.server peerAddress).isSome then
        some (.remove con)
      else
        none
  | .slaveRunning _ => none
  | .registerControl => none

/-- The messages that are sent under the lock. -/
def isFeedback : Effect → Bool
  | .sendActCon (some _) _ _ _ => true
  | .sendActTerm (some _) _ _ => true
  | _ => false

theorem feedback_of_silent {effects : List Effect}
    (silent : deliveries effects = []) : effects.filter isFeedback = [] := by
  rw [deliveries, List.filterMap_eq_nil_iff] at silent
  rw [List.filter_eq_nil_iff]
  intro effect member isFeedback
  have undelivered := silent effect member
  cases effect with
  | sendActCon command connection asdu isNegative =>
      cases command with
      | none => simp [LockedRuns.isFeedback] at isFeedback
      | some command => simp [deliveryOf] at undelivered
  | sendActTerm command connection asdu =>
      cases command with
      | none => simp [LockedRuns.isFeedback] at isFeedback
      | some command => simp [deliveryOf] at undelivered
  | _ => simp [LockedRuns.isFeedback] at isFeedback

theorem feedbackEffects_isFeedback (feedback : Feedback)
    (command : OutstandingCommand) :
    (feedbackEffects feedback command).filter isFeedback =
      feedbackEffects feedback command := by
  rcases feedback with ⟨kind, type, ca, ioa, isNegative⟩
  cases kind <;> simp [feedbackEffects, isFeedback]

/-- The handlers of feedback are the whole call. -/
theorem handleFeedback_performs (server : IEC104Server)
    (feedback : Feedback) :
    let handled := handleFeedback server feedback
    let performed :=
      perform server.outstandingCommands (.feedback feedback)
    handled.1.outstandingCommands = performed.1 ∧
      handled.2.filter isFeedback = performed.2 := by
  intro handled performed
  have messages :
      (perform server.outstandingCommands (.feedback feedback)).2.filter
          isFeedback =
        (perform server.outstandingCommands (.feedback feedback)).2 := by
    rw [perform]
    cases server.outstandingCommands.find? feedback.fits with
    | none => rfl
    | some command => exact feedbackEffects_isFeedback feedback command
  rw [show performed.2 = _ from messages.symm]
  rcases feedback with ⟨kind, type, ca, ioa, isNegative⟩
  cases kind with
  | actCon =>
      refine ⟨rfl, congrArg (List.filter isFeedback) ?_⟩
      exact handleActCon_snd server type ca ioa isNegative
  | actTerm =>
      refine ⟨rfl, congrArg (List.filter isFeedback) ?_⟩
      exact handleActTerm_snd server type ca ioa isNegative

/-- The event does with the commands what its call does. -/
def Performs (system : System) (event : Event) : Prop :=
  let call := (callOf platform system event).toList
  let stepped := step platform system event
  stepped.1.server.outstandingCommands =
      wholeCalls.after system.server.outstandingCommands call ∧
    stepped.2.filter isFeedback =
      wholeCalls.outputs system.server.outstandingCommands call

variable {platform} {system : System} {event : Event}

theorem performs_of_some {call : CommandsCall}
    (calls : callOf platform system event = some call)
    (commands :
      (step platform system event).1.server.outstandingCommands =
        (perform system.server.outstandingCommands call).1)
    (sent :
      (step platform system event).2.filter isFeedback =
        (perform system.server.outstandingCommands call).2) :
    Performs platform system event := by
  rw [Performs, calls]
  refine ⟨commands, ?_⟩
  rw [sent]
  exact (List.append_nil _).symm

/-- An event without a call leaves the commands and sends no feedback. -/
theorem performs_of_none
    (calls : callOf platform system event = none)
    (move : moveOf platform system event = .idle) :
    Performs platform system event := by
  rcases step_moves platform system event with ⟨moved, delivered⟩
  rw [move] at moved delivered
  rw [Performs, calls]
  exact ⟨congrArg Ledger.outstanding moved, feedback_of_silent delivered⟩

/-- A call that erases discards the commands that pass its test. -/
theorem performs_of_erases {call : CommandsCall}
    {test : OutstandingCommand → Bool}
    (calls : callOf platform system event = some call)
    (erases : call.erases = some test)
    (move : moveOf platform system event = .discard test) :
    Performs platform system event := by
  rcases step_moves platform system event with ⟨moved, delivered⟩
  rw [move] at moved delivered
  refine performs_of_some calls ?_ ?_
  · rw [perform_erases erases]
    exact congrArg Ledger.outstanding moved
  · rw [perform_erases erases]
    exact feedback_of_silent delivered

variable (platform system)

/-- A command handler sends no feedback. -/
theorem noFeedback_command (connection : Connection) (asdu : Asdu)
    (checkTime rcvdTime : Nat) :
    (step platform system
          (.command connection asdu checkTime rcvdTime)).2.filter
        isFeedback =
      [] := by
  rw [List.filter_eq_nil_iff]
  intro effect member
  cases emits_of_mem_step platform member with
  | handOver => simp [isFeedback]
  | answer => simp [isFeedback]

theorem performs_command (connection : Connection) (asdu : Asdu)
    (checkTime rcvdTime : Nat) :
    Performs platform system
      (.command connection asdu checkTime rcvdTime) := by
  by_cases admissible :
      ∃ io, Admissible platform system.server asdu io checkTime
  · rcases admissible with ⟨io, admissible⟩
    rcases
        enterAsduHandler_admissible platform system.server connection asdu
          checkTime rcvdTime admissible with
      ⟨parameters, isSelect, found, -⟩
    have enters :=
      commandMove_admissible platform system.server connection asdu
        checkTime rcvdTime admissible found
    rcases
        step_moves platform system
          (.command connection asdu checkTime rcvdTime) with
      ⟨moved, -⟩
    rw [moveOf, enters] at moved
    have calls :
        callOf platform system
            (.command connection asdu checkTime rcvdTime) =
          some
            (.add
              (newCommand system.server connection asdu rcvdTime
                isSelect)) := by
      simp only [callOf, enters]
    exact
      performs_of_some calls (congrArg Ledger.outstanding moved)
        (noFeedback_command platform system connection asdu checkTime
          rcvdTime)
  · have idle :=
      commandMove_inadmissible platform system.server connection asdu
        checkTime rcvdTime admissible
    refine performs_of_none ?_ idle
    simp only [callOf, idle]

theorem performs_operationReturned (address : Nat) (result : Int) :
    Performs platform system (.operationReturned address result) := by
  have sent :
      (step platform system (.operationReturned address result)).2.filter
          isFeedback =
        [] := by
    rw [List.filter_eq_nil_iff]
    intro effect member
    cases emits_of_mem_step platform member with
    | failure => simp [isFeedback]
  refine ⟨?_, sent⟩
  simp only [step, callOf]
  split <;> rfl

theorem performs_datapoint (assetName : String) (dp : Datapoint)
    (now : Nat) :
    Performs platform system (.datapoint assetName dp now) := by
  by_cases running : system.server.slaveRunning = true
  · cases carries : feedbackOf platform dp with
    | none =>
        apply performs_of_none
        · simp [callOf, running, carries]
        · simp [moveOf, running, carries]
    | some feedback =>
        have handled :=
          sendDatapoint_feedback platform system.server assetName now
            carries running
        rcases handleFeedback_performs system.server feedback with
          ⟨commands, sent⟩
        have calls :
            callOf platform system (.datapoint assetName dp now) =
              some (.feedback feedback) := by
          simp [callOf, running, carries]
        refine performs_of_some calls ?_ ?_
        · simp only [step, handled]
          exact commands
        · simp only [step, handled]
          exact sent
  · apply performs_of_none
    · simp [callOf, running]
    · simp [moveOf, running]

theorem performs_connection (con : Connection) (peerAddress : String)
    (event : PeerConnectionEvent) :
    Performs platform system (.connection con peerAddress event) := by
  by_cases lost :
      (isLoss event && (slotFor system.server peerAddress).isSome) = true
  · apply performs_of_erases
    · rw [callOf, if_pos lost]
    · rfl
    · rw [moveOf, if_pos lost]
  · apply performs_of_none
    · rw [callOf, if_neg lost]
    · rw [moveOf, if_neg lost]

/-- The step lemma: an event does with the commands what its call does. -/
theorem performs (event : Event) : Performs platform system event := by
  cases event with
  | command connection asdu checkTime rcvdTime =>
      exact
        performs_command platform system connection asdu checkTime rcvdTime
  | operationReturned address result =>
      exact performs_operationReturned platform system address result
  | datapoint assetName dp now =>
      exact performs_datapoint platform system assetName dp now
  | interrogation connection asdu qoi => exact performs_of_none rfl rfl
  | scanTimeouts currentTime => exact performs_of_erases rfl rfl rfl
  | connection con peerAddress event =>
      exact performs_connection platform system con peerAddress event
  | slaveRunning running => exact performs_of_none rfl rfl
  | registerControl => exact performs_of_none rfl rfl

end Server

/-! ## The calls of the plugin -/

section Plugin

variable (platform : PluginPlatform)

/-- The call an event of the plugin makes; the destructor removes all. -/
def pluginCallMade (plugin : Plugin) : PluginEvent → Option CommandsCall
  | .server event =>
      if plugin.isDeleted then none
      else callOf platform.values plugin.system event
  | .finish =>
      if !plugin.isDeleted && plugin.isStopping && plugin.thread.isNone then
        some .removeAll
      else
        none
  | _ => none

/-- The messages that are sent under the lock, among the calls. -/
def feedbackIn : PluginCall → Option Effect
  | .effect effect => if isFeedback effect then some effect else none
  | _ => none

theorem feedbackIn_effects (effects : List Effect) :
    (effects.map PluginCall.effect).filterMap feedbackIn =
      effects.filter isFeedback := by
  rw [List.filterMap_map, ← List.filterMap_eq_filter]
  apply List.filterMap_congr
  intro effect _
  simp [feedbackIn, Option.guard]

/-- The first audits are audits. -/
theorem audit_of_mem_connectionStatusAudits {server : IEC104Server}
    {audits : List ConnectionAudit} {effect : Effect}
    (member : effect ∈ (sendConnectionStatusAudits server audits).2) :
    ∃ level message, effect = .audit level message := by
  induction audits generalizing server with
  | nil => simp [sendConnectionStatusAudits] at member
  | cons audit rest induction =>
      simp only [sendConnectionStatusAudits] at member
      rcases List.mem_append.mp member with first | later
      · exact audit_of_mem_connectionStatusAudit first
      · exact induction later

theorem noFeedback_initialAudits (server : IEC104Server) :
    (sendInitialAudits server).effects.filter isFeedback = [] := by
  rw [List.filter_eq_nil_iff]
  intro effect member
  have isAudit : ∃ level message, effect = .audit level message := by
    rcases List.mem_append.mp member with slotAudit | globalAudit
    · exact audit_of_mem_connectionStatusAudits slotAudit
    · exact audit_of_mem_globalStatusAudit globalAudit
  rcases isAudit with ⟨level, message, rfl⟩
  simp [isFeedback]

/-- The monitoring thread sends no feedback. -/
theorem noFeedback_thread (calls : List LoopCall) :
    (calls.map pluginCallOf).filterMap feedbackIn = [] := by
  rw [List.filterMap_map, List.filterMap_eq_nil_iff]
  intro call _
  cases call <;> rfl

/-- Destroying the resources sends no feedback. -/
theorem noFeedback_stop (plugin : Plugin) :
    (stopCalls plugin).filterMap feedbackIn = [] := by
  rw [stopCalls, List.filterMap_append, List.filterMap_append]
  cases plugin.monitoringThread <;> cases plugin.hasSlave <;>
    cases plugin.hasTlsConfig <;> rfl

/-- A step of the plugin does with the commands what its call does. -/
def PluginPerforms (plugin : Plugin) (event : PluginEvent)
    (stepped : Plugin × List PluginCall) : Prop :=
  let call := (pluginCallMade platform plugin event).toList
  stepped.1.server.outstandingCommands =
      wholeCalls.after plugin.server.outstandingCommands call ∧
    stepped.2.filterMap feedbackIn =
      wholeCalls.outputs plugin.server.outstandingCommands call

section Steps

variable {platform} {plugin : Plugin}

theorem performs_start :
    PluginPerforms platform plugin .start (startSlave plugin) := by
  rw [startSlave]
  split
  · constructor
    · show
        (sendInitialAudits plugin.server).server.outstandingCommands = _
      rw [(sendInitialAudits_eq plugin.server).1]
      rfl
    · have audits := noFeedback_initialAudits plugin.server
      rw [← feedbackIn_effects] at audits
      dsimp only
      rw [List.cons_append, List.filterMap_cons_none rfl,
        List.filterMap_append, audits]
      rfl
  · exact ⟨rfl, rfl⟩

theorem performs_server (alive : plugin.isDeleted = false) (event : Event) :
    PluginPerforms platform plugin (.server event)
      (serverStep platform plugin event) := by
  have calls :
      pluginCallMade platform plugin (.server event) =
        callOf platform.values plugin.system event := by
    rw [pluginCallMade, alive]
    rfl
  rw [PluginPerforms, calls]
  have performed := performs platform.values plugin.system
  cases event with
  | slaveRunning isRunning =>
      have stepped := performed (.slaveRunning (isRunning && plugin.hasSlave))
      exact ⟨stepped.1, (feedbackIn_effects _).trans stepped.2⟩
  | _ =>
      exact
        ⟨(performed _).1, (feedbackIn_effects _).trans (performed _).2⟩

theorem performs_thread (requestReturned northStatusReturned : Option Int)
    (slaveRunning : Bool) :
    PluginPerforms platform plugin
      (.thread requestReturned northStatusReturned slaveRunning)
      (threadStep plugin requestReturned northStatusReturned
        slaveRunning) := by
  rw [threadStep]
  split
  · exact ⟨rfl, rfl⟩
  · split
    · exact ⟨rfl, noFeedback_thread _⟩
    · exact ⟨rfl, noFeedback_thread _⟩

theorem performs_finish (alive : plugin.isDeleted = false) :
    PluginPerforms platform plugin .finish (finishShutdown plugin) := by
  rw [PluginPerforms, pluginCallMade, alive, finishShutdown]
  by_cases ends : (plugin.isStopping && plugin.thread.isNone) = true
  · rw [if_pos ends, Bool.not_false, Bool.true_and, if_pos ends]
    refine ⟨rfl, ?_⟩
    rw [noFeedback_stop]
    rfl
  · rw [if_neg ends, Bool.not_false, Bool.true_and, if_neg ends]
    exact ⟨rfl, rfl⟩

end Steps

/-- The plugin tracks the whole calls. -/
theorem plugin_tracks_calls :
    Tracks (pluginMachine platform) wholeCalls
      (fun plugin => plugin.server.outstandingCommands)
      (pluginCallMade platform) feedbackIn where
  step plugin event := by
    intro observed
    change
      PluginPerforms platform plugin event (pluginStep platform plugin event)
    cases alive : plugin.isDeleted with
    | true =>
        have noCall : pluginCallMade platform plugin event = none := by
          cases event <;> simp [pluginCallMade, alive]
        rw [PluginPerforms, noCall]
        simp [pluginStep, alive]
    | false =>
        cases event with
        | start => simpa [pluginStep, alive] using performs_start
        | server event =>
            simpa [pluginStep, alive] using performs_server alive event
        | thread requestReturned northStatusReturned slaveRunning =>
            simpa [pluginStep, alive] using
              performs_thread requestReturned northStatusReturned
                slaveRunning
        | shutdown =>
            rw [PluginPerforms]
            simp [pluginStep, alive, pluginCallMade, Plugin.server]
        | finish => simpa [pluginStep, alive] using performs_finish alive

/-! ## Threads and runs -/

section Threads

variable {Thread : Type*} [DecidableEq Thread]

/-- The outstanding commands of a plugin, with nobody at them. -/
def freeCommands (Thread : Type*) (plugin : Plugin) :
    Locked Thread (List OutstandingCommand) Section where
  object := plugin.server.outstandingCommands

/--
Whatever the order in which the threads make their turns, no iterator is used
that is no longer valid.  When the lock is free, the commands and the messages
for them are those of every run of the plugin with these calls in this order.
A thread that has the lock gives it back after one turn for each command and
two more, whatever the others do in the meantime.
-/
theorem loops_areAtomic (start : Plugin)
    (schedule : List (LockEvent Thread CommandsCall)) :
    let free := freeCommands Thread start
    let locked := turns.machine.after free schedule
    locked.isBroken = false ∧
      (∀ events,
        (pluginMachine platform).observed (pluginCallMade platform) start
              events =
            turns.callsMade free schedule →
          locked.holder = none →
            locked.object =
                ((pluginMachine platform).after start
                  events).server.outstandingCommands ∧
              turns.machine.outputs free schedule =
                ((pluginMachine platform).outputs start events).filterMap
                  feedbackIn) ∧
      ∀ thread inside,
        locked.holder = some (thread, inside) →
          ∀ later : List (LockEvent Thread CommandsCall),
            locked.object.length + 1 <
                later.countP (LockEvent.isTurnOf thread) →
              ∃ earlier,
                earlier <+: later ∧
                  (turns.machine.after locked earlier).holder = none := by
  intro free locked
  have serial :=
    calls_atomic.serial_run start.server.outstandingCommands schedule
  refine ⟨serial.intact, ?_, ?_⟩
  · intro events sameCalls isFree
    have threads :=
      calls_atomic.free_run start.server.outstandingCommands schedule isFree
    rcases (plugin_tracks_calls platform).run start events with
      ⟨commands, sent⟩
    rw [sameCalls] at commands sent
    exact ⟨threads.1.trans commands.symm, threads.2.trans sent.symm⟩
  · intro thread inside isHolder later enough
    apply
      calls_atomic.released isHolder (serial.inside thread inside isHolder)
        later
    refine Nat.lt_of_le_of_lt ?_ enough
    rw [remainingTurns]
    split
    · exact Nat.zero_le _
    · exact Nat.succ_le_succ (Nat.sub_le _ _)

-- The second thread asks for the lock while the first one is in its loop.
example :
    let command := create 0 sampleCommand 7 20 false 1000
    let free : Locked Nat (List OutstandingCommand) Section :=
      { object := [command] }
    let schedule : List (LockEvent Nat CommandsCall) :=
      [.lock 1 (.scan 2000), .turn 1, .lock 2 .removeAll, .turn 1,
        .lock 2 .removeAll, .turn 2, .turn 2]
    turns.callsMade free schedule = [.scan 2000, .removeAll] ∧
      (turns.machine.after free schedule).object = [] := by
  decide

end Threads

end Plugin

end Iec104North.LockedRuns
