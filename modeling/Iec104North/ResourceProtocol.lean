import Iec104North.AuditTrail
import Iec104North.LifeCycle
import Iec104North.StationRefinement

/-!
# The resources of the plugin

The slave, its TLS configuration and the monitoring thread have to be used in
order: a slave is configured while it stands still, only the thread starts and
stops it, nothing is sent through a slave that is not there, the thread is
joined before the slave is destroyed, and a TLS configuration outlives the slave
that uses it.  Every run in which Fledge starts and shuts down the plugin once
keeps to this, and a shutdown releases everything.
-/

namespace Iec104North.ResourceProtocol

open Iec104North.Library
open Iec104North.Values
open Iec104North.Config
open Iec104North.Server
open Iec104North.OutstandingCommands
open Iec104North.Connections
open Iec104North.Audits
open Iec104North.AuditTrail
open Iec104North.Runs
open Iec104North.TableReads
open Iec104North.MonitoringLoop
open Iec104North.TlsConfiguration
open Iec104North.StepEffects
open Iec104North.StationRefinement
open Iec104North.LifeCycle

/-! ## The protocol -/

/-- The slave does not exist, stands still, or runs. -/
inductive SlaveState where
  | absent
  | stopped
  | running
deriving DecidableEq, Repr

/-- The slave, and whether there are a TLS configuration and a thread. -/
structure Resources where
  slave : SlaveState := .absent
  tls : Bool := false
  thread : Bool := false
deriving DecidableEq, Repr

/-- The calls on the slave, each in the state it requires. -/
def permitSlave (resources : Resources) : SlaveCall → Option Resources
  | .create isSecure _ _ =>
      if resources.slave = .absent ∧ (isSecure = true → resources.tls) then
        some { resources with slave := .stopped }
      else
        none
  | .start =>
      if resources.slave = .stopped ∧ resources.thread then
        some { resources with slave := .running }
      else
        none
  | .stop =>
      if resources.slave = .running ∧ resources.thread then
        some { resources with slave := .stopped }
      else
        none
  | .destroy =>
      if resources.slave = .stopped ∧ resources.thread = false then
        some { resources with slave := .absent }
      else
        none
  | _ => if resources.slave = .stopped then some resources else none

/-- The calls on the TLS configuration; a slave may be using it. -/
def permitTls (resources : Resources) : TlsCall → Option Resources
  | .destroy =>
      if resources.tls ∧ resources.slave = .absent then
        some { resources with tls := false }
      else
        none
  | _ =>
      if resources.tls ∧ resources.slave = .absent then some resources
      else none

/-- Messages that go through the slave: data, and feedback for commands. -/
def goesThroughSlave : Effect → Bool
  | .enqueueAsdu _ => true
  | .sendActCon (some _) _ _ _ => true
  | .sendActTerm (some _) _ _ => true
  | _ => false

/-- What the plugin may do with its resources. -/
def resourceProtocol : Protocol Resources PluginCall where
  permit resources
    | .tlsCreate =>
        if resources.tls then none else some { resources with tls := true }
    | .tls call => permitTls resources call
    | .slave call => permitSlave resources call
    | .threadStart =>
        if resources.thread then none
        else some { resources with thread := true }
    | .threadJoin =>
        if resources.thread then some { resources with thread := false }
        else none
    | .operation _ _ => some resources
    | .effect effect =>
        if goesThroughSlave effect = true ∧ resources.slave = .absent then
          none
        else
          some resources

/-! ## The resources of a plugin -/

/-- A slave that is there runs while the thread has it started. -/
def slaveState (hasSlave serverRunning : Bool) : SlaveState :=
  if hasSlave then if serverRunning then .running else .stopped
  else .absent

/-- The monitoring thread has the slave started. -/
def isServing (plugin : Plugin) : Bool :=
  (plugin.thread.map LoopState.serverRunning).getD false

/-- What a plugin has. -/
def resourcesOf (plugin : Plugin) : Resources where
  slave := slaveState plugin.hasSlave (isServing plugin)
  tls := plugin.hasTlsConfig
  thread := plugin.monitoringThread

/-- Fledge starts a plugin once, before it shuts it down once. -/
def IsOrderly (earlier : List PluginEvent) : PluginEvent → Prop
  | .start => .start ∉ earlier ∧ .shutdown ∉ earlier
  | .shutdown => .shutdown ∉ earlier
  | _ => True

instance (earlier : List PluginEvent) (event : PluginEvent) :
    Decidable (IsOrderly earlier event) := by
  cases event <;> unfold IsOrderly <;> infer_instance

/-- What the flags of a plugin say about each other and about the events. -/
structure Coherent (events : List PluginEvent) (plugin : Plugin) :
    Prop where
  thread :
    plugin.thread.isSome → plugin.monitoringThread ∧ plugin.hasSlave
  started : plugin.started = true → plugin.thread.isSome
  notStarted :
    .start ∉ events →
      plugin.monitoringThread = false ∧ plugin.started = false
  notStopping :
    .shutdown ∉ events →
      plugin.isStopping = false ∧ plugin.isDeleted = false
  stopping : plugin.isStopping = true → plugin.started = false
  running : plugin.server.slaveRunning = true → plugin.hasSlave
  deleted :
    plugin.isDeleted = true →
      plugin.thread = none ∧
        resourcesOf plugin = {} ∧
        plugin.server.outstandingCommands = []

/-! ## Initialisation -/

section Initialisation

/-- Nothing but a destruction changes the state of a TLS configuration. -/
theorem run_tls {calls : List TlsCall}
    (others : ∀ call ∈ calls, call ≠ .destroy) :
    resourceProtocol.run { tls := true } (calls.map .tls) =
      some { tls := true } := by
  apply resourceProtocol.run_eq_self
  intro call member
  rcases List.mem_map.mp member with ⟨tlsCall, isCall, rfl⟩
  cases tlsCall with
  | destroy => exact (others .destroy isCall rfl).elim
  | _ => rfl

theorem mem_loadFile {platform : TlsPlatform} {load : String → Bool}
    {call : String → TlsCall} {file : String} {made : TlsCall}
    (member : made ∈ (loadFile platform load call file).2) :
    made = .access file ∨ made = call file := by
  rw [loadFile] at member
  split at member
  · simpa using member
  · exact Or.inl (List.mem_singleton.mp member)

/-- `createTLSConfiguration` destroys what it has created when it fails. -/
theorem createTLSConfiguration_destroys (platform : TlsPlatform)
    (creates : platform.createsConfiguration = true)
    (config : TlsConfig) :
    ∃ calls,
      (∀ call ∈ calls, call ≠ .destroy) ∧
        (createTLSConfiguration platform config).2 =
          calls ++
            if (createTLSConfiguration platform config).1 then []
            else [.destroy] := by
  simp only [createTLSConfiguration, creates, if_true]
  refine ⟨_, ?_, rfl⟩
  intro call member
  simp only [List.mem_append] at member
  rcases member with ((own | key) | remote) | ca
  · rw [loadOwnCertificate] at own
    split at own
    · simp at own
    · rcases mem_loadFile own with rfl | rfl <;> simp
  · rw [loadPrivateKey] at key
    split at key
    · simp at key
    · rcases mem_loadFile key with rfl | rfl <;> simp
  · rw [addRemoteCertificates] at remote
    split at remote
    · rw [List.mem_singleton.mp remote]
      simp
    · rcases List.mem_cons.mp remote with rfl | added
      · simp
      · rcases List.mem_flatMap.mp added with ⟨name, -, made⟩
        rcases mem_loadFile made with rfl | rfl <;> simp
  · rw [addCaCertificates] at ca
    split at ca
    · rw [List.mem_singleton.mp ca]
      simp
    · rcases List.mem_cons.mp ca with rfl | added
      · simp
      · rcases List.mem_flatMap.mp added with ⟨name, -, made⟩
        rcases mem_loadFile made with rfl | rfl <;> simp

variable (platform : PluginPlatform)

theorem run_createTls (tlsConfig : TlsConfig) :
    resourceProtocol.run {} (createTls platform tlsConfig).2 =
      some { tls := (createTls platform tlsConfig).1 } := by
  rw [createTls]
  dsimp only
  by_cases creates : platform.tls.createsConfiguration = true
  · rcases createTLSConfiguration_destroys platform.tls creates tlsConfig with
      ⟨calls, others, made⟩
    rw [if_pos creates, made, Protocol.run_cons, List.map_append]
    show
      resourceProtocol.run { tls := true } (calls.map .tls ++ _) = some _
    rw [resourceProtocol.run_append_of_eq (run_tls others)]
    cases (createTLSConfiguration platform.tls tlsConfig).1 <;> rfl
  · rw [if_neg creates, createTLSConfiguration, if_neg creates]
    rfl

/-- The settings of a slave need one that stands still and leave it so. -/
theorem run_slaveSettings (config : IEC104Config) (tls : Bool) :
    resourceProtocol.run { slave := .stopped, tls := tls }
        ((slaveSettings config).map .slave) =
      some { slave := .stopped, tls := tls } := by
  apply resourceProtocol.run_eq_self
  intro call member
  rcases List.mem_map.mp member with ⟨slaveCall, isCall, rfl⟩
  simp only [slaveSettings, List.mem_append] at isCall
  rcases isCall with ((port | address) | fixed) | groups
  · rw [List.mem_singleton.mp port]
    rfl
  · split at address
    · rw [List.mem_singleton.mp address]
      rfl
    · simp at address
  · simp only [List.mem_cons, List.not_mem_nil, or_false] at fixed
    rcases fixed with rfl | rfl | rfl | rfl | rfl | rfl | rfl <;> rfl
  · split at groups
    · rw [List.mem_singleton.mp groups]
      rfl
    · rcases List.mem_cons.mp groups with rfl | added
      · rfl
      · rcases List.mem_map.mp added with ⟨redGroup, -, rfl⟩
        rfl

theorem run_createSlave (config : IEC104Config) (isSecure : Bool) :
    resourceProtocol.run { tls := isSecure }
        (createSlave platform config isSecure).2 =
      some
        { slave :=
            slaveState (createSlave platform config isSecure).1 false
          tls := isSecure } := by
  rw [createSlave]
  split
  · have created :
        resourceProtocol.permit { tls := isSecure }
            (.slave (.create isSecure config.asduQueueSize 100)) =
          some { slave := .stopped, tls := isSecure } := by
      cases isSecure <;> rfl
    rw [List.map_cons, Protocol.run_cons, created, Option.bind_some,
      run_slaveSettings]
    rfl
  · rfl

/-- A plugin that has not been started. -/
structure IsNew (plugin : Plugin) : Prop where
  thread : plugin.thread = none
  monitoringThread : plugin.monitoringThread = false
  started : plugin.started = false
  isStopping : plugin.isStopping = false
  isDeleted : plugin.isDeleted = false
  slaveRunning : plugin.server.slaveRunning = false

theorem setJsonConfig_obeys {plugin : Plugin} (isNew : IsNew plugin)
    (noSlave : plugin.hasSlave = false)
    (noTls : plugin.hasTlsConfig = false)
    (stackConfig dataExchangeConfig tlsConfig : Option Json) :
    let made :=
      setJsonConfig platform plugin stackConfig dataExchangeConfig tlsConfig
    IsNew made.1 ∧
      resourceProtocol.run {} made.2 = some (resourcesOf made.1) := by
  rcases isNew with
    ⟨thread, monitoringThread, started, isStopping, isDeleted,
      slaveRunning⟩
  simp only [setJsonConfig]
  split
  · have tlsCalls :=
      run_createTls platform (importTlsConfig plugin.tlsConfig tlsConfig)
    split
    · rename_i tlsOk
      rw [tlsOk] at tlsCalls
      refine
        ⟨⟨thread, monitoringThread, started, isStopping, isDeleted,
          slaveRunning⟩, ?_⟩
      rw [resourceProtocol.run_append_of_eq tlsCalls, run_createSlave]
      simp [resourcesOf, isServing, Plugin.withServer, thread,
        monitoringThread]
    · rename_i tlsFailed
      rw [Bool.not_eq_true] at tlsFailed
      rw [tlsFailed] at tlsCalls
      refine
        ⟨⟨thread, monitoringThread, started, isStopping, isDeleted,
          slaveRunning⟩, ?_⟩
      rw [tlsCalls]
      simp [resourcesOf, Plugin.withServer, thread, monitoringThread,
        noSlave, noTls, slaveState]
  · refine
      ⟨⟨thread, monitoringThread, started, isStopping, isDeleted,
        slaveRunning⟩, ?_⟩
    rw [run_createSlave platform _ false]
    simp [resourcesOf, isServing, Plugin.withServer, thread,
      monitoringThread, noTls]

/-- `plugin_init` leaves a plugin that has what its calls have made. -/
theorem pluginInit_obeys (configData : Option ConfigCategory) :
    let made := pluginInit platform configData
    IsNew made.1 ∧
      resourceProtocol.run {} made.2 = some (resourcesOf made.1) := by
  have isNew :
      IsNew (newServer (configData.getD defaultConfig).name) :=
    ⟨rfl, rfl, rfl, rfl, rfl, rfl⟩
  simp only [pluginInit, configure]
  split
  · exact setJsonConfig_obeys platform isNew rfl rfl _ _ _
  · exact ⟨isNew, rfl⟩

end Initialisation

/-! ## Steps -/

section Steps

/-- Effects for which nothing is required, or the slave they require. -/
theorem run_effects {resources : Resources} {effects : List Effect}
    (allowed :
      ∀ effect ∈ effects,
        goesThroughSlave effect = true → resources.slave ≠ .absent) :
    resourceProtocol.run resources (effects.map .effect) =
      some resources := by
  apply resourceProtocol.run_eq_self
  intro call member
  rcases List.mem_map.mp member with ⟨effect, isEffect, rfl⟩
  refine if_neg ?_
  rintro ⟨throughSlave, absent⟩
  exact allowed effect isEffect throughSlave absent

/-- Only while the slave runs, a message is sent through it. -/
theorem slaveRunning_of_goesThroughSlave {platform : Platform}
    {system : System} {event : Event} {effect : Effect}
    (member : effect ∈ (step platform system event).2)
    (throughSlave : goesThroughSlave effect = true) :
    system.server.slaveRunning = true := by
  have datapoint :
      ∃ assetName dp now, event = .datapoint assetName dp now := by
    cases emits_of_mem_step platform member with
    | actCon assetName dp now => exact ⟨assetName, dp, now, rfl⟩
    | actTerm assetName dp now => exact ⟨assetName, dp, now, rfl⟩
    | enqueue assetName dp now => exact ⟨assetName, dp, now, rfl⟩
    | reply connection asdu qoi _ reply =>
        cases reply <;> simp [goesThroughSlave] at throughSlave
    | _ => simp [goesThroughSlave] at throughSlave
  rcases datapoint with ⟨assetName, dp, now, rfl⟩
  by_contra stopped
  rw [Bool.not_eq_true] at stopped
  simp only [step, Readings.sendDatapoint, stopped] at member
  split at member
  · simp at member
  · rename_i sent
    split at sent
    · rcases Except.ok.inj sent with ⟨rfl, rfl⟩
      simp at member
    · split at sent
      · simp only [Bool.false_eq_true, if_false] at sent
        rcases Except.ok.inj sent with ⟨rfl, rfl⟩
        simp at member
      · rcases Except.ok.inj sent with ⟨rfl, rfl⟩
        simp at member

end Steps

/-! ### The monitoring thread -/

section Thread

variable (server : IEC104Server) (state : LoopState) (turn : Turn)
  (tls : Bool)

/-- The resources while the thread runs. -/
def served (serverRunning tls : Bool) : Resources where
  slave := slaveState true serverRunning
  tls := tls
  thread := true

theorem run_requestSouthConnectionStatus (resources : Resources) :
    resourceProtocol.run resources
        ((requestSouthConnectionStatus server state turn).2.map
          pluginCallOf) =
      some resources := by
  rw [requestSouthConnectionStatus]
  split <;> rfl

theorem run_notifySouth (resources : Resources) :
    resourceProtocol.run resources
        ((notifySouth server state turn).2.map pluginCallOf) =
      some resources := by
  rw [notifySouth]
  split <;> rfl

theorem requestSouthConnectionStatus_serverRunning :
    (requestSouthConnectionStatus server state turn).1.serverRunning =
      state.serverRunning := by
  rw [requestSouthConnectionStatus]
  split <;> rfl

/-- The branch for the mode starts a standing slave and stops a running one. -/
theorem run_controlSlave :
    resourceProtocol.run (served state.serverRunning tls)
        ((controlSlave server state turn).2.map pluginCallOf) =
      some
        (served (controlSlave server state turn).1.serverRunning tls) := by
  have start :
      ∀ stopped : (state.serverRunning == false) = true,
        resourceProtocol.run (served state.serverRunning tls)
            ([LoopCall.slaveStart].map pluginCallOf) =
          some (served true tls) := by
    intro stopped
    rw [beq_iff_eq.mp stopped]
    rfl
  simp only [controlSlave]
  split
  · split
    · rename_i stopped
      exact start stopped
    · rfl
  · split
    · rename_i stopped
      split
      · exact start stopped
      · rfl
    · rename_i running
      have isRunning : state.serverRunning = true := by
        simpa using running
      split
      · rw [List.map_append,
          resourceProtocol.run_append_of_eq
            (run_notifySouth server state turn _), isRunning]
        rfl
      · rw [run_notifySouth, notifySouth_serverRunning]

/-- A turn takes the slave from one state of the thread to the next. -/
theorem run_loopTurn :
    resourceProtocol.run (served state.serverRunning tls)
        ((loopTurn server state turn).2.map pluginCallOf) =
      some (served (loopTurn server state turn).1.serverRunning tls) := by
  rw [loopTurn, List.map_append,
    resourceProtocol.run_append_of_eq
      (run_requestSouthConnectionStatus server state turn _),
    ← requestSouthConnectionStatus_serverRunning server state turn]
  exact run_controlSlave server _ turn tls

/-- The thread does not end with a running slave. -/
theorem run_leaveLoop :
    resourceProtocol.run (served state.serverRunning tls)
        ((leaveLoop state).2.map pluginCallOf) =
      some (served false tls) := by
  rw [leaveLoop]
  cases running : state.serverRunning with
  | true => rfl
  | false => rfl

end Thread

/-! ## The invariant -/

namespace Coherent

variable {platform : PluginPlatform} {events : List PluginEvent}
  {plugin : Plugin}

/-- A step that keeps the invariant and whose calls are permitted. -/
def Kept (events : List PluginEvent) (event : PluginEvent)
    (plugin : Plugin) (stepped : Plugin × List PluginCall) : Prop :=
  Coherent (events ++ [event]) stepped.1 ∧
    resourceProtocol.run (resourcesOf plugin) stepped.2 =
      some (resourcesOf stepped.1)

theorem later (coherent : Coherent events plugin) (event : PluginEvent) :
    Coherent (events ++ [event]) plugin :=
  { coherent with
    notStarted := fun never =>
      coherent.notStarted fun member =>
        never (List.mem_append_left _ member)
    notStopping := fun never =>
      coherent.notStopping fun member =>
        never (List.mem_append_left _ member) }

theorem idle (coherent : Coherent events plugin) (event : PluginEvent) :
    Kept events event plugin (plugin, []) :=
  ⟨coherent.later event, rfl⟩

/-- The resources while the thread is there. -/
theorem resourcesOf_thread (coherent : Coherent events plugin)
    {state : LoopState} (isThread : plugin.thread = some state) :
    resourcesOf plugin = served state.serverRunning plugin.hasTlsConfig := by
  rcases coherent.thread (by simp [isThread]) with ⟨there, hasSlave⟩
  simp [resourcesOf, isServing, served, isThread, there, hasSlave]

theorem startSlave (coherent : Coherent events plugin)
    (alive : plugin.isDeleted = false)
    (orderly : IsOrderly events .start) :
    Kept events .start plugin (LifeCycle.startSlave plugin) := by
  rcases coherent.notStarted orderly.1 with ⟨noThread, -⟩
  rcases coherent.notStopping orderly.2 with ⟨notStopping, -⟩
  have thread : plugin.thread = none := by
    by_contra running
    have there :=
      coherent.thread (Option.isSome_iff_ne_none.mpr running)
    rw [noThread] at there
    exact Bool.false_ne_true there.1
  rw [LifeCycle.startSlave]
  split
  · rename_i isReady
    rw [noThread, Bool.not_false, Bool.and_true] at isReady
    have slaveRunning :
        (sendInitialAudits plugin.server).server.slaveRunning =
          plugin.server.slaveRunning := by
      rw [(sendInitialAudits_eq plugin.server).1]
    constructor
    · exact
        { thread := fun _ => ⟨rfl, isReady⟩
          started := fun _ => rfl
          notStarted := fun never => (never (by simp)).elim
          notStopping := fun _ => ⟨notStopping, alive⟩
          stopping := fun stopping => by
            rw [show plugin.isStopping = true from stopping] at notStopping
            exact absurd notStopping Bool.true_eq_false.mp
          running := fun running =>
            coherent.running (slaveRunning.symm.trans running)
          deleted := fun deleted => by
            rw [show plugin.isDeleted = true from deleted] at alive
            exact absurd alive Bool.true_eq_false.mp }
    · have before :
          resourcesOf plugin =
            { slave := .stopped, tls := plugin.hasTlsConfig } := by
        simp [resourcesOf, isServing, slaveState, thread, noThread, isReady]
      have audits :
          resourceProtocol.run
              { slave := .stopped, tls := plugin.hasTlsConfig }
              ((sendInitialAudits plugin.server).effects.map .effect) =
            some { slave := .stopped, tls := plugin.hasTlsConfig } :=
        run_effects fun effect _ _ => by simp
      dsimp only
      rw [before, List.cons_append, Protocol.run_cons]
      show
        resourceProtocol.run
            { slave := .stopped, tls := plugin.hasTlsConfig } (_ ++ _) =
          some _
      rw [resourceProtocol.run_append_of_eq audits]
      simp [resourceProtocol, resourcesOf, isServing, slaveState,
        Plugin.withServer, isReady]
  · exact coherent.idle _

theorem serverStep (coherent : Coherent events plugin)
    (alive : plugin.isDeleted = false) (event : Event) :
    Kept events (.server event) plugin
      (LifeCycle.serverStep platform plugin event) := by
  have running :
      (LifeCycle.serverStep platform plugin
            event).1.server.slaveRunning = true →
        plugin.hasSlave = true := by
    by_cases slave : ∃ isRunning, event = .slaveRunning isRunning
    · rcases slave with ⟨isRunning, rfl⟩
      intro runs
      have both : (isRunning && plugin.hasSlave) = true := runs
      exact (Bool.and_eq_true_iff.mp both).2
    · have others : ∀ isRunning, event ≠ .slaveRunning isRunning :=
        fun isRunning is => slave ⟨isRunning, is⟩
      have possible :
          (LifeCycle.serverStep platform plugin event).1.system =
            (step platform.values plugin.system event).1 := by
        cases event with
        | slaveRunning isRunning => exact (others isRunning rfl).elim
        | _ => rfl
      rw [Plugin.server, possible,
        step_slaveRunning platform.values plugin.system event others]
      exact coherent.running
  constructor
  · exact
      { coherent.later (.server event) with
        running := running
        deleted := fun deleted => by
          rw [show plugin.isDeleted = true from deleted] at alive
          exact absurd alive Bool.true_eq_false.mp }
  · refine run_effects fun effect member throughSlave => ?_
    have hasSlave :=
      coherent.running
        (slaveRunning_of_goesThroughSlave member throughSlave)
    rw [resourcesOf, slaveState, if_pos hasSlave]
    split <;> simp

theorem threadStep (coherent : Coherent events plugin)
    (alive : plugin.isDeleted = false)
    (requestReturned northStatusReturned : Option Int)
    (slaveRunning : Bool) :
    Kept events (.thread requestReturned northStatusReturned slaveRunning)
      plugin
      (LifeCycle.threadStep plugin requestReturned northStatusReturned
        slaveRunning) := by
  have notDeleted : plugin.isDeleted = true → False := by
    rw [alive]
    exact Bool.false_ne_true
  rw [LifeCycle.threadStep]
  split
  · exact coherent.idle _
  · rename_i state isThread
    have there := coherent.thread (by simp [isThread])
    have resources := coherent.resourcesOf_thread isThread
    split
    · rename_i started
      constructor
      · exact
          { coherent.later _ with
            thread := fun _ => there
            started := fun _ => rfl
            deleted := fun deleted => (notDeleted deleted).elim }
      · rw [resources, run_loopTurn]
        simp [resourcesOf, isServing, served, there]
    · rename_i stopped
      constructor
      · exact
          { coherent.later _ with
            thread := by simp
            started := fun started => absurd started stopped
            deleted := fun deleted => (notDeleted deleted).elim }
      · rw [resources, run_leaveLoop]
        simp [resourcesOf, isServing, served, there]

theorem shutdown (coherent : Coherent events plugin)
    (alive : plugin.isDeleted = false) :
    Kept events .shutdown plugin
      ({ plugin with started := false, isStopping := true }, []) := by
  refine ⟨?_, rfl⟩
  exact
    { coherent.later .shutdown with
      started := by simp
      notStarted := fun never =>
        ⟨((coherent.later .shutdown).notStarted never).1, rfl⟩
      notStopping := fun never => (never (by simp)).elim
      stopping := fun _ => rfl
      deleted := fun deleted => by
        rw [show plugin.isDeleted = true from deleted] at alive
        exact absurd alive Bool.true_eq_false.mp }

theorem finishShutdown (coherent : Coherent events plugin) :
    Kept events .finish plugin (LifeCycle.finishShutdown plugin) := by
  rw [LifeCycle.finishShutdown]
  split
  · rename_i isReady
    rw [Bool.and_eq_true, Option.isNone_iff_eq_none] at isReady
    rcases isReady with ⟨stopping, noThread⟩
    have notStarted := coherent.stopping stopping
    constructor
    · exact
        { coherent.later .finish with
          thread := fun running => by
            have absent : plugin.thread.isSome = true := running
            rw [noThread] at absent
            exact absurd absent Bool.false_ne_true
          notStarted := fun _ => ⟨rfl, notStarted⟩
          notStopping := fun never => by
            have before :=
              coherent.notStopping fun member =>
                never (List.mem_append_left _ member)
            rw [stopping] at before
            exact absurd before.1 Bool.true_eq_false.mp
          running := fun running => absurd running Bool.false_ne_true
          deleted := fun _ => by
            refine ⟨noThread, ?_, ?_⟩
            · simp [resourcesOf, slaveState]
            · simp [Plugin.server, Plugin.withServer,
                removeAllOutstandingCommands, eraseWhile_eq_append_filter] }
    · have serving : isServing plugin = false := by
        simp [isServing, noThread]
      rw [resourcesOf, serving, stopCalls]
      simp only [resourcesOf, isServing, noThread, Plugin.withServer]
      cases plugin.monitoringThread <;> cases plugin.hasSlave <;>
        cases plugin.hasTlsConfig <;> rfl
  · exact coherent.idle _

/-- The step lemma. -/
theorem step (coherent : Coherent events plugin) {event : PluginEvent}
    (orderly : IsOrderly events event) :
    Kept events event plugin (pluginStep platform plugin event) := by
  unfold pluginStep
  split
  · exact coherent.idle event
  · rename_i notDeleted
    have alive : plugin.isDeleted = false := by
      simpa using notDeleted
    cases event with
    | start => exact coherent.startSlave alive orderly
    | server event => exact coherent.serverStep alive event
    | thread requestReturned northStatusReturned slaveRunning =>
        exact
          coherent.threadStep alive requestReturned northStatusReturned
            slaveRunning
    | shutdown => exact coherent.shutdown alive
    | finish => exact coherent.finishShutdown

end Coherent

theorem IsNew.coherent {plugin : Plugin} (isNew : IsNew plugin) :
    Coherent [] plugin where
  thread := by simp [isNew.thread]
  started := by simp [isNew.started]
  notStarted _ := ⟨isNew.monitoringThread, isNew.started⟩
  notStopping _ := ⟨isNew.isStopping, isNew.isDeleted⟩
  stopping := by simp [isNew.isStopping]
  running := by simp [isNew.slaveRunning]
  deleted := by simp [isNew.isDeleted]

/-! ## Runs -/

section Runs

variable (platform : PluginPlatform) (configData : Option ConfigCategory)

/-- The plugin after its initialisation and some events. -/
def pluginAfter (events : List PluginEvent) : Plugin :=
  (pluginMachine platform).after (pluginInit platform configData).1 events

/-- All calls of the plugin, from its initialisation on. -/
def pluginCalls (events : List PluginEvent) : List PluginCall :=
  (pluginInit platform configData).2 ++
    (pluginMachine platform).outputs (pluginInit platform configData).1
      events

/-- The run lemma. -/
theorem coherent_run {events : List PluginEvent}
    (orderly : EachStep IsOrderly events) :
    Coherent events (pluginAfter platform configData events) ∧
      resourceProtocol.run
          (resourcesOf (pluginInit platform configData).1)
          ((pluginMachine platform).outputs
            (pluginInit platform configData).1 events) =
        some (resourcesOf (pluginAfter platform configData events)) := by
  rcases pluginInit_obeys platform configData with ⟨isNew, -⟩
  have step :
      ∀ earlier event,
        IsOrderly earlier event →
          Coherent earlier (pluginAfter platform configData earlier) →
            Coherent.Kept earlier event
              (pluginAfter platform configData earlier)
              ((pluginMachine platform).step
                (pluginAfter platform configData earlier) event) :=
    fun earlier event meets coherent => coherent.step meets
  exact resourceProtocol.run_outputs isNew.coherent step orderly

/--
In every orderly run, all calls of the plugin are permitted when they are made,
and they leave the resources which the plugin says it has.
-/
theorem calls_obeyProtocol {events : List PluginEvent}
    (orderly : EachStep IsOrderly events) :
    resourceProtocol.run {} (pluginCalls platform configData events) =
      some (resourcesOf (pluginAfter platform configData events)) := by
  rcases pluginInit_obeys platform configData with ⟨-, made⟩
  rw [pluginCalls, resourceProtocol.run_append_of_eq made]
  exact (coherent_run platform configData orderly).2

/-- A life from the start to the end, with the default configuration. -/
def sampleLife : List PluginEvent :=
  [.start, .server .registerControl, .thread (some 1) none false, .shutdown,
    .thread none none false, .finish]

theorem calls_obeyProtocol_sample :
    resourceProtocol.run {}
        (pluginCalls samplePluginPlatform none sampleLife) =
      some (resourcesOf (pluginAfter samplePluginPlatform none sampleLife)) :=
  calls_obeyProtocol samplePluginPlatform none (by decide)

end Runs

/-! ## Shutdown -/

section Shutdown

variable (platform : PluginPlatform)

/-- The shutdown has begun, and perhaps the thread has ended. -/
structure Stops (plugin : Plugin) (isEnded : Bool) : Prop where
  alive :
    plugin.isDeleted = false →
      plugin.isStopping = true ∧ plugin.started = false
  ended :
    isEnded = true → plugin.isDeleted = false → plugin.thread = none

/-- When `m_started` is not set, the thread leaves its loop. -/
theorem threadStep_stopped {plugin : Plugin}
    (stopped : plugin.started = false)
    (requestReturned northStatusReturned : Option Int)
    (slaveRunning : Bool) :
    (threadStep plugin requestReturned northStatusReturned
        slaveRunning).1 =
      { plugin with thread := none } := by
  rw [threadStep]
  split
  · rename_i noThread
    cases plugin
    cases noThread
    rfl
  · rw [if_neg (by simp [stopped])]

theorem Stops.step {plugin : Plugin} {isEnded : Bool}
    (stops : Stops plugin isEnded) {event : PluginEvent}
    (noStart : event ≠ .start) :
    Stops (pluginStep platform plugin event).1 isEnded := by
  unfold pluginStep
  split
  · exact stops
  · rename_i notDeleted
    have alive : plugin.isDeleted = false := by
      simpa using notDeleted
    rcases stops.alive alive with ⟨stopping, stopped⟩
    cases event with
    | start => exact (noStart rfl).elim
    | server event =>
        exact ⟨fun _ => ⟨stopping, stopped⟩, fun ended _ =>
          stops.ended ended alive⟩
    | thread requestReturned northStatusReturned slaveRunning =>
        dsimp only
        rw [threadStep_stopped stopped]
        exact ⟨fun _ => ⟨stopping, stopped⟩, fun _ _ => rfl⟩
    | shutdown =>
        exact ⟨fun _ => ⟨rfl, rfl⟩, fun ended _ => stops.ended ended alive⟩
    | finish =>
        dsimp only
        rw [finishShutdown]
        split
        · exact ⟨by simp, by simp⟩
        · exact stops

theorem Stops.after {plugin : Plugin} {isEnded : Bool}
    (stops : Stops plugin isEnded) {events : List PluginEvent}
    (noStart : .start ∉ events) :
    Stops ((pluginMachine platform).after plugin events) isEnded := by
  induction events generalizing plugin with
  | nil => exact stops
  | cons event rest induction =>
      rw [List.mem_cons, not_or] at noStart
      exact
        induction (stops.step platform (Ne.symm noStart.1)) noStart.2

/-- The next step of the thread is its last one. -/
theorem Stops.thread {plugin : Plugin} {isEnded : Bool}
    (stops : Stops plugin isEnded)
    (requestReturned northStatusReturned : Option Int)
    (slaveRunning : Bool) :
    Stops
      (pluginStep platform plugin
        (.thread requestReturned northStatusReturned slaveRunning)).1
      true := by
  unfold pluginStep
  split
  · rename_i deleted
    exact
      ⟨stops.alive, fun _ alive => by
        rw [deleted] at alive
        exact absurd alive Bool.true_eq_false.mp⟩
  · rename_i notDeleted
    have alive : plugin.isDeleted = false := by
      simpa using notDeleted
    rcases stops.alive alive with ⟨stopping, stopped⟩
    dsimp only
    rw [threadStep_stopped stopped]
    exact ⟨fun _ => ⟨stopping, stopped⟩, fun _ _ => rfl⟩

/-- When the thread has ended, the shutdown completes. -/
theorem Stops.finish {plugin : Plugin} (stops : Stops plugin true) :
    (pluginStep platform plugin .finish).1.isDeleted = true := by
  unfold pluginStep
  split
  · rename_i deleted
    exact deleted
  · rename_i notDeleted
    have alive : plugin.isDeleted = false := by
      simpa using notDeleted
    have isReady :
        (plugin.isStopping && plugin.thread.isNone) = true := by
      rw [(stops.alive alive).1, stops.ended rfl alive]
      rfl
    dsimp only
    rw [finishShutdown, if_pos isReady]

/-- In an orderly run nothing is started after a shutdown. -/
theorem noStart_after_shutdown {earlier later : List PluginEvent}
    (orderly : EachStep IsOrderly (earlier ++ .shutdown :: later)) :
    .start ∉ later := by
  intro member
  rcases List.append_of_mem member with ⟨before, after, rfl⟩
  have meets :=
    orderly (earlier ++ .shutdown :: before) .start after (by simp)
  exact meets.2 (by simp)

/--
A shutdown completes as soon as the thread has made one more step, whatever the
other threads do meanwhile: the thread has ended, no outstanding command is
left, all calls were permitted, and every resource is released.
-/
theorem shutdown_releases (configData : Option ConfigCategory)
    {events between later : List PluginEvent}
    {requestReturned northStatusReturned : Option Int}
    {slaveRunning : Bool}
    (orderly :
      EachStep IsOrderly
        (events ++
          .shutdown ::
            (between ++
              .thread requestReturned northStatusReturned slaveRunning ::
                (later ++ [.finish])))) :
    let all :=
      events ++
        .shutdown ::
          (between ++
            .thread requestReturned northStatusReturned slaveRunning ::
              (later ++ [.finish]))
    let ended := pluginAfter platform configData all
    ended.isDeleted = true ∧
      ended.thread = none ∧
      ended.server.outstandingCommands = [] ∧
      resourceProtocol.run {} (pluginCalls platform configData all) =
        some {} := by
  intro all ended
  have noStart := noStart_after_shutdown orderly
  simp only [List.mem_append, List.mem_cons, not_or] at noStart
  rcases noStart with ⟨notBetween, -, notLater, -⟩
  have begun :
      Stops
        (pluginStep platform (pluginAfter platform configData events)
          .shutdown).1 false := by
    unfold pluginStep
    split
    · rename_i deleted
      exact
        ⟨fun alive => by
          rw [deleted] at alive
          exact absurd alive Bool.true_eq_false.mp, by simp⟩
    · exact ⟨fun _ => ⟨rfl, rfl⟩, by simp⟩
  have finished :
      ended.isDeleted = true := by
    have stops :=
      (((begun.after platform notBetween).thread platform requestReturned
        northStatusReturned slaveRunning).after platform
          notLater).finish platform
    simpa [ended, all, pluginAfter] using stops
  rcases coherent_run platform configData orderly with ⟨coherent, -⟩
  rcases coherent.deleted finished with ⟨noThread, resources, outstanding⟩
  rcases pluginInit_obeys platform configData with ⟨-, made⟩
  refine ⟨finished, noThread, outstanding, ?_⟩
  rw [pluginCalls, resourceProtocol.run_append_of_eq made,
    (coherent_run platform configData orderly).2]
  exact congrArg some resources

theorem shutdown_releases_sample :
    let ended := pluginAfter samplePluginPlatform none sampleLife
    ended.isDeleted = true ∧
      ended.thread = none ∧
      ended.server.outstandingCommands = [] ∧
      resourceProtocol.run {}
          (pluginCalls samplePluginPlatform none sampleLife) =
        some {} :=
  shutdown_releases samplePluginPlatform none
    (show
      EachStep IsOrderly
        ([.start, .server .registerControl, .thread (some 1) none false] ++
          .shutdown :: ([] ++ .thread none none false :: ([] ++ [.finish])))
      by decide)

end Shutdown

end Iec104North.ResourceProtocol
