import Iec104North.Authorisation
import Iec104North.ResourceProtocol
import Iec104North.SlaveControl

/-!
# The slave follows the south side

In the mode that depends on the south side, clients find an open slave only
while some monitored asset has reported that its connection is started.  What
the assets have reported is in the configuration of the server, which `send`
updates and the monitoring thread reads, each in its own thread.  After every
turn of the thread the slave is started exactly as the reports up to that turn
ask for, whatever the plugin has done before.
-/

namespace Iec104North.SouthGating

open Iec104North.Library
open Iec104North.Values
open Iec104North.Config
open Iec104North.Server
open Iec104North.Connections
open Iec104North.Runs
open Iec104North.TableReads
open Iec104North.Authorisation
open Iec104North.MonitoringLoop
open Iec104North.SlaveControl
open Iec104North.Audits
open Iec104North.AuditTrail
open Iec104North.ImportProtocol
open Iec104North.LifeCycle
open Iec104North.ResourceProtocol

/-! ## A turn -/

section Turns

variable (server : IEC104Server) (state : LoopState) (turn : Turn)

/-- The mode does not depend on the south side, or the south side is there. -/
def wantsSlave : Bool :=
  match server.config.mode with
  | .connectAlways => true
  | .connectIfSouthConnxStarted => southConnected server turn

/-- After a turn, the slave is started if and only if it should be. -/
theorem serverRunning_loopTurn :
    (loopTurn server state turn).1.serverRunning =
      wantsSlave server turn := by
  rw [wantsSlave]
  cases mode : server.config.mode with
  | connectAlways =>
      exact (boundaries_of_connectAlways server state turn mode).1
  | connectIfSouthConnxStarted =>
      dsimp only
      simp only [loopTurn, controlSlave, mode]
      split
      · rename_i stopped
        split
        · rename_i connected
          exact connected.symm
        · rename_i disconnected
          rw [beq_iff_eq.mp stopped, Bool.eq_false_iff.mpr disconnected]
      · rename_i running
        split
        · rename_i disconnected
          exact (beq_iff_eq.mp disconnected).symm
        · rename_i connected
          simp only [beq_iff_eq, Bool.not_eq_false] at running connected
          rw [notifySouth_serverRunning, running, connected]

/-- A turn starts the slave only when it should be started. -/
theorem wantsSlave_of_boundary {call : LoopCall} {mark : Bool}
    (marks : slaveBoundary call = some mark)
    (member : call ∈ (loopTurn server state turn).2) :
    wantsSlave server turn = mark := by
  rw [wantsSlave]
  split
  · rename_i mode
    rcases boundaries_of_connectAlways server state turn mode with
      ⟨-, boundaries⟩
    have boundary :
        mark ∈ (loopTurn server state turn).2.filterMap slaveBoundary :=
      List.mem_filterMap.mpr ⟨call, member, marks⟩
    rw [boundaries] at boundary
    split at boundary
    · simp at boundary
    · exact (List.mem_singleton.mp boundary).symm
  · rename_i mode
    exact southConnected_of_boundary server state turn mode marks member

end Turns

/-! ## The events of the server -/

/-- The events of the server among those of the plugin. -/
def serverEvents (events : List PluginEvent) : List Event :=
  events.filterMap fun
    | .server event => some event
    | _ => none

theorem serverEvents_append (earlier later : List PluginEvent) :
    serverEvents (earlier ++ later) =
      serverEvents earlier ++ serverEvents later :=
  List.filterMap_append

section Initial

variable (platform : PluginPlatform) (configData : Option ConfigCategory)

/-- The system `plugin_init` makes. -/
def initialSystem : System :=
  (pluginInit platform configData).1.system

/-- Imported monitors have no status. -/
theorem importProtocolConfig_notConnected {config : IEC104Config}
    (before :
      ∀ monitor ∈ config.monitoredSouthPlugins,
        monitor.connxStatus = .notConnected)
    (document : Option Json) :
    ∀ monitor ∈ (importProtocolConfig config document).monitoredSouthPlugins,
      monitor.connxStatus = .notConnected := by
  have layers :
      ∀ transportLayer applicationLayer : Json,
        (importApplicationLayer (importTransportLayer config transportLayer)
            applicationLayer).monitoredSouthPlugins =
          config.monitoredSouthPlugins := by
    intro transportLayer applicationLayer
    have filtered :
        ∀ (filters : List Json) (filtering : IEC104Config),
          (filters.foldl importFilter filtering).monitoredSouthPlugins =
            filtering.monitoredSouthPlugins := by
      intro filters
      induction filters with
      | nil => exact fun _ => rfl
      | cons filter rest induction =>
          intro filtering
          rw [List.foldl_cons, induction, importFilter]
          repeat' split
          all_goals rfl
    simp only [importApplicationLayer, importTransportLayer]
    split
    · rw [filtered]
      split <;> rfl
    · split <;> rfl
  simp only [importProtocolConfig]
  split
  · exact before
  · split
    · simp only [importSouthMonitoring]
      split
      · intro monitor member
        rw [layers, List.mem_append] at member
        rcases member with old | new
        · exact before monitor old
        · rcases List.mem_filterMap.mp new with ⟨southMonInst, -, made⟩
          rw [southPluginMonitor] at made
          split at made
          · rcases Option.map_eq_some_iff.mp made with ⟨assetName, -, rfl⟩
            rfl
          · simp at made
      · rw [layers]
        exact before
    · exact before

theorem notConnected_initialSystem :
    ∀ monitor ∈
        (initialSystem platform
          configData).server.config.monitoredSouthPlugins,
      monitor.connxStatus = .notConnected := by
  have none :
      ∀ monitor ∈ ({} : IEC104Config).monitoredSouthPlugins,
        monitor.connxStatus = .notConnected :=
    fun _ member => (List.not_mem_nil member).elim
  rw [initialSystem, pluginInit, configure]
  split
  · rename_i protocolStack dataExchange _ _
    simp only [setJsonConfig]
    split
    · split
      · exact importProtocolConfig_notConnected none protocolStack
      · exact importProtocolConfig_notConnected none protocolStack
    · exact importProtocolConfig_notConnected none protocolStack
  · exact none

end Initial

/-! ## What the server has been told -/

section Reached

variable {platform : Platform} {start system : System}
  {events : List Event}

/-- The redundancy groups have nothing to do with the south side. -/
theorem reached_withGroups
    (reached : Reached platform start events system) {changed : System}
    (groups :
      ∃ redGroups,
        changed.server.config =
          { system.server.config with redundancyGroups := redGroups }) :
    Reached platform start events changed := by
  rcases reached with ⟨before, monitors, config, names, reflects⟩
  rcases groups with ⟨redGroups, config'⟩
  refine ⟨redGroups, monitors, ?_, names, reflects⟩
  rw [config', config]

/-- One more event of the server, up to what it says of the slave. -/
theorem reached_server (reached : Reached platform start events system)
    {event possible : Event}
    (same :
      ∀ monitors,
        monitorsAfter platform monitors possible =
          monitorsAfter platform monitors event) :
    Reached platform start (events ++ [event])
      (step platform system possible).1 := by
  rcases reached with ⟨groups, monitors, config, names, reflects⟩
  rcases step_config platform system possible with ⟨redGroups, stepped⟩
  refine
    ⟨redGroups, monitorsAfter platform monitors event, ?_, ?_,
      monitorsAfter_reflects platform reflects event⟩
  · rw [stepped, config, same]
  · rw [monitorsAfter_assetNames, names]

end Reached

section Runs

variable (platform : PluginPlatform) (configData : Option ConfigCategory)

theorem reached_pluginStep {events : List PluginEvent} {plugin : Plugin}
    {start : System}
    (reached :
      Reached platform.values start (serverEvents events) plugin.system)
    (event : PluginEvent)
    (alive : (pluginStep platform plugin event).1.isDeleted = false) :
    Reached platform.values start (serverEvents (events ++ [event]))
      (pluginStep platform plugin event).1.system := by
  have silent :
      ∀ other : PluginEvent,
        serverEvents [other] = [] →
          serverEvents (events ++ [other]) = serverEvents events := by
    intro other none
    rw [serverEvents_append, none, List.append_nil]
  unfold LifeCycle.pluginStep at alive ⊢
  split
  · rename_i deleted
    rw [if_pos deleted] at alive
    rw [deleted] at alive
    exact absurd alive Bool.true_eq_false.mp
  · rename_i notDeleted
    rw [if_neg notDeleted] at alive
    cases event with
    | start =>
        rw [silent _ rfl]
        dsimp only
        rw [startSlave]
        split
        · refine
            reached_withGroups reached
              ⟨(letteredConfig plugin.server).redundancyGroups, ?_⟩
          show (sendInitialAudits plugin.server).server.config = _
          rw [(sendInitialAudits_eq plugin.server).1]
          rfl
        · exact reached
    | server event =>
        rw [serverEvents_append]
        refine reached_server reached fun monitors => ?_
        cases event <;> rfl
    | thread requestReturned northStatusReturned slaveRunning =>
        rw [silent _ rfl]
        dsimp only
        rw [threadStep]
        split
        · exact reached
        · split
          · exact reached
          · exact reached
    | shutdown =>
        rw [silent _ rfl]
        exact reached
    | finish =>
        rw [silent _ rfl]
        dsimp only at alive ⊢
        rw [finishShutdown] at alive ⊢
        split
        · rename_i isReady
          rw [if_pos isReady] at alive
          exact absurd alive Bool.true_eq_false.mp
        · exact reached

theorem pluginAfter_concat (events : List PluginEvent)
    (event : PluginEvent) :
    pluginAfter platform configData (events ++ [event]) =
      (pluginStep platform (pluginAfter platform configData events)
        event).1 := by
  rw [pluginAfter, Machine.after_append]
  rfl

/-- A plugin that is deleted stays so. -/
theorem isDeleted_pluginStep {plugin : Plugin}
    (deleted : plugin.isDeleted = true) (event : PluginEvent) :
    (pluginStep platform plugin event).1.isDeleted = true := by
  unfold LifeCycle.pluginStep
  rw [if_pos deleted]
  exact deleted

/-- The run lemma: as long as there is a server, it knows what it was told. -/
theorem reached_pluginAfter (events : List PluginEvent) :
    (pluginAfter platform configData events).isDeleted = false →
      Reached platform.values (initialSystem platform configData)
        (serverEvents events)
        (pluginAfter platform configData events).system := by
  induction events using List.reverseRecOn with
  | nil =>
      exact fun _ =>
        reached_run platform.values _
          (notConnected_initialSystem platform configData) []
  | append_singleton events event induction =>
      intro alive
      have before :
          (pluginAfter platform configData events).isDeleted = false := by
        by_contra deleted
        rw [Bool.not_eq_false] at deleted
        rw [pluginAfter_concat, isDeleted_pluginStep platform deleted]
          at alive
        exact Bool.true_eq_false.mp alive
      rw [pluginAfter_concat] at alive ⊢
      exact reached_pluginStep platform (induction before) event alive

/--
The plugin serves clients when the mode is always to, or when some monitored
asset was last reported to be started.
-/
def ShouldServe (events : List PluginEvent) : Prop :=
  (initialSystem platform configData).server.config.mode = .connectAlways ∨
    SouthStarted platform.values (initialSystem platform configData)
      (serverEvents events)

theorem wantsSlave_iff {events : List PluginEvent}
    (alive : (pluginAfter platform configData events).isDeleted = false)
    (turn : Turn)
    (monitored :
      turn.monitoredSouthPlugins =
        (pluginAfter platform
          configData events).server.config.monitoredSouthPlugins) :
    wantsSlave (pluginAfter platform configData events).server turn = true ↔
      ShouldServe platform configData events := by
  have reached := reached_pluginAfter platform configData events alive
  have connected :
      southConnected (pluginAfter platform configData events).server turn =
        (pluginAfter platform
          configData events).system.server.checkIfSouthConnected := by
    rw [southConnected, monitored]
    rfl
  have mode :
      (pluginAfter platform configData events).server.config.mode =
        (initialSystem platform configData).server.config.mode := by
    rcases reached with ⟨groups, monitors, config, -, -⟩
    rw [Plugin.server, config]
  rw [wantsSlave, ShouldServe, ← reached.checkIfSouthConnected_iff,
    connected, mode]
  split
  · rename_i always
    simp [always]
  · rename_i depends
    simp [depends]

/-- The calls of one step of the plugin. -/
def callsOf (events : List PluginEvent) (event : PluginEvent) :
    List PluginCall :=
  (pluginStep platform (pluginAfter platform configData events) event).2

/--
How the slave is started and stopped in a run: only when the south side asks
for it, apart from the end, and after every turn of the thread the slave is
where it should be.
-/
structure FollowsSouth (events : List PluginEvent) : Prop where
  starts :
    EachStep
      (fun earlier event =>
        .slave .start ∈ callsOf platform configData earlier event →
          ShouldServe platform configData earlier)
      events
  stops :
    EachStep
      (fun earlier event =>
        .slave .stop ∈ callsOf platform configData earlier event →
          (pluginAfter platform configData earlier).started = false ∨
            ¬ ShouldServe platform configData earlier)
      events
  level :
    EachStep
      (fun earlier event =>
        (∃ requestReturned northStatusReturned slaveRunning,
            event =
              .thread requestReturned northStatusReturned slaveRunning) →
          (pluginAfter platform configData (earlier ++ [event])).thread.isSome →
            (isServing
                  (pluginAfter platform configData (earlier ++ [event])) =
                true ↔
              ShouldServe platform configData earlier))
      events

/-- A start is `true` and a stop is `false`, as for the thread. -/
def slaveMark : PluginCall → Option Bool
  | .slave .start => some true
  | .slave .stop => some false
  | _ => none

@[simp]
theorem slaveMark_pluginCallOf (call : LoopCall) :
    slaveMark (pluginCallOf call) = slaveBoundary call := by
  cases call <;> rfl

/-- Only the thread starts and stops the slave. -/
theorem marks_of_mem_step {plugin : Plugin} {event : PluginEvent}
    {call : PluginCall} {mark : Bool} (marks : slaveMark call = some mark)
    (member : call ∈ (pluginStep platform plugin event).2) :
    plugin.isDeleted = false ∧
      (plugin.started = true →
        ∃ turn : Turn,
          turn.monitoredSouthPlugins =
              plugin.server.config.monitoredSouthPlugins ∧
            wantsSlave plugin.server turn = mark) ∧
      (plugin.started = false → mark = false) := by
  have effects :
      ∀ effects : List Effect, call ∉ effects.map .effect := by
    intro effects isEffect
    rcases List.mem_map.mp isEffect with ⟨effect, -, rfl⟩
    simp [slaveMark] at marks
  unfold LifeCycle.pluginStep at member
  split at member
  · simp at member
  · rename_i notDeleted
    refine ⟨Bool.eq_false_iff.mpr notDeleted, ?_⟩
    cases event with
    | start =>
        dsimp only at member
        rw [startSlave] at member
        split at member
        · rw [List.mem_append, List.mem_cons, List.mem_singleton] at member
          rcases member with (rfl | audit) | rfl
          · simp [slaveMark] at marks
          · exact (effects _ audit).elim
          · simp [slaveMark] at marks
        · simp at member
    | server event => exact (effects _ member).elim
    | thread requestReturned northStatusReturned slaveRunning =>
        dsimp only at member
        rw [threadStep] at member
        split at member
        · simp at member
        · rename_i state isThread
          split at member
          · rename_i started
            rcases List.mem_map.mp member with ⟨loopCall, inTurn, rfl⟩
            rw [slaveMark_pluginCallOf] at marks
            refine
              ⟨fun _ =>
                ⟨⟨requestReturned, northStatusReturned, slaveRunning,
                    plugin.server.config.monitoredSouthPlugins⟩,
                  rfl, ?_⟩,
                fun stopped => ?_⟩
            · exact
                wantsSlave_of_boundary plugin.server state _ marks inTurn
            · rw [started] at stopped
              exact absurd stopped Bool.true_eq_false.mp
          · rename_i stopped
            refine ⟨fun started => absurd started stopped, fun _ => ?_⟩
            rcases List.mem_map.mp member with ⟨loopCall, left, rfl⟩
            rw [leaveLoop] at left
            split at left
            · rw [List.mem_singleton.mp left] at marks
              exact (Option.some.inj marks).symm
            · simp at left
    | shutdown => simp at member
    | finish =>
        dsimp only at member
        rw [finishShutdown] at member
        split at member
        · simp only [stopCalls, List.mem_append] at member
          rcases member with (join | destroy) | tls
          · split at join
            · rw [List.mem_singleton.mp join] at marks
              simp [slaveMark] at marks
            · simp at join
          · split at destroy
            · rw [List.mem_singleton.mp destroy] at marks
              simp [slaveMark] at marks
            · simp at destroy
          · split at tls
            · rw [List.mem_singleton.mp tls] at marks
              simp [slaveMark] at marks
            · simp at tls
        · simp at member

/-- What a start or a stop in a run says about the south side. -/
theorem shouldServe_of_marks {events : List PluginEvent}
    {event : PluginEvent} {call : PluginCall} {mark : Bool}
    (marks : slaveMark call = some mark)
    (member : call ∈ callsOf platform configData events event) :
    ((pluginAfter platform configData events).started = true →
        (mark = true ↔ ShouldServe platform configData events)) ∧
      ((pluginAfter platform configData events).started = false →
        mark = false) := by
  rcases marks_of_mem_step platform marks member with
    ⟨alive, turned, left⟩
  refine ⟨fun started => ?_, left⟩
  rcases turned started with ⟨turn, monitored, wants⟩
  rw [← wantsSlave_iff platform configData alive turn monitored, wants]

/-- A deleted plugin has no thread. -/
theorem thread_of_isDeleted (events : List PluginEvent) :
    (pluginAfter platform configData events).isDeleted = true →
      (pluginAfter platform configData events).thread = none := by
  induction events using List.reverseRecOn with
  | nil =>
      intro deleted
      rcases pluginInit_obeys platform configData with ⟨isNew, -⟩
      exact isNew.thread
  | append_singleton events event induction =>
      rw [pluginAfter_concat]
      unfold LifeCycle.pluginStep
      split
      · exact induction
      · rename_i notDeleted
        intro deleted
        cases event with
        | start =>
            dsimp only at deleted
            rw [startSlave] at deleted
            split at deleted
            · exact absurd deleted notDeleted
            · exact absurd deleted notDeleted
        | server event => exact absurd deleted notDeleted
        | thread requestReturned northStatusReturned slaveRunning =>
            dsimp only at deleted
            rw [threadStep] at deleted
            split at deleted
            · exact absurd deleted notDeleted
            · split at deleted
              · exact absurd deleted notDeleted
              · exact absurd deleted notDeleted
        | shutdown => exact absurd deleted notDeleted
        | finish =>
            dsimp only at deleted ⊢
            rw [finishShutdown] at deleted ⊢
            split
            · rename_i isReady
              rw [Bool.and_eq_true, Option.isNone_iff_eq_none] at isReady
              exact isReady.2
            · rename_i notReady
              rw [if_neg notReady] at deleted
              exact absurd deleted notDeleted

/-- Whatever happens, the slave follows the south side. -/
theorem followsSouth_run (events : List PluginEvent) :
    FollowsSouth platform configData events where
  starts := by
    intro earlier event later split starts
    rcases shouldServe_of_marks platform configData rfl starts with
      ⟨turned, left⟩
    cases started : (pluginAfter platform configData earlier).started with
    | true => exact (turned started).mp rfl
    | false => exact absurd (left started) Bool.true_eq_false.mp
  stops := by
    intro earlier event later split stops
    rcases shouldServe_of_marks platform configData rfl stops with
      ⟨turned, -⟩
    cases started : (pluginAfter platform configData earlier).started with
    | false => exact Or.inl rfl
    | true =>
        refine Or.inr fun serves => ?_
        exact absurd ((turned started).mpr serves) Bool.false_ne_true
  level := by
    rintro earlier event later - ⟨requested, notified, slaveRunning, rfl⟩
    rw [pluginAfter_concat]
    unfold LifeCycle.pluginStep
    split
    · rename_i deleted
      intro running
      rw [thread_of_isDeleted platform configData earlier deleted]
        at running
      exact absurd running Bool.false_ne_true
    · rename_i notDeleted
      have alive := Bool.eq_false_iff.mpr notDeleted
      dsimp only
      rw [threadStep]
      split
      · rename_i noThread
        intro running
        rw [noThread] at running
        exact absurd running Bool.false_ne_true
      · split
        · intro _
          rw [← wantsSlave_iff platform configData alive
              ⟨requested, notified, slaveRunning, _⟩ rfl,
            ← serverRunning_loopTurn]
          exact Iff.rfl
        · intro running
          exact absurd running Bool.false_ne_true

end Runs

end Iec104North.SouthGating
