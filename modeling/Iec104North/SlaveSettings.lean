import Iec104North.ResourceProtocol

/-!
# The settings of the slave

`setJsonConfig` sets up a new slave call by call.  Replayed in order, the calls
of a run give what lib60870 has: while there is a slave, its settings are those
the configuration of the server stands for, and they are within the ranges
lib60870 asks for, whatever the configuration category was.  This is why the
server can take the parameters of an ASDU from its configuration.
-/

namespace Iec104North.SlaveSettings

open Iec104North.Library
open Iec104North.Values
open Iec104North.Config
open Iec104North.Server
open Iec104North.Connections
open Iec104North.Runs
open Iec104North.MonitoringLoop
open Iec104North.ImportProtocol
open Iec104North.RedundancyImport
open Iec104North.TableReads
open Iec104North.Slots
open Iec104North.Audits
open Iec104North.AuditTrail
open Iec104North.LifeCycle
open Iec104North.ResourceProtocol

/-! ## Settings -/

/-- `CS104_APCIParameters`. -/
structure ConnectionParameters where
  k : Int
  w : Int
  t0 : Int
  t1 : Int
  t2 : Int
  t3 : Int
deriving DecidableEq, Repr

/--
What lib60870 keeps of the calls on a slave; `allowedClients` has an element
for each redundancy group.
-/
structure Settings where
  isSecure : Bool
  maxLowPrioQueueSize : Int
  maxHighPrioQueueSize : Int
  tcpPort : Option Int := none
  ipAddress : Option String := none
  connectionParameters : Option ConnectionParameters := none
  appLayerParameters : Option AppLayerParameters := none
  handlers : List SlaveHandler := []
  serverMode : Option ServerMode := none
  allowedClients : List (List String) := []
  maxOpenConnections : Option Nat := none
deriving DecidableEq, Repr

/-- What a call changes in the settings of a slave that is there. -/
def Settings.apply (settings : Settings) : SlaveCall → Settings
  | .setLocalPort tcpPort => { settings with tcpPort := some tcpPort }
  | .setLocalAddress ipAddress =>
      { settings with ipAddress := some ipAddress }
  | .setConnectionParameters k w t0 t1 t2 t3 =>
      { settings with connectionParameters := some ⟨k, w, t0, t1, t2, t3⟩ }
  | .setAppLayerParameters parameters =>
      { settings with appLayerParameters := some parameters }
  | .setHandler handler =>
      { settings with handlers := settings.handlers ++ [handler] }
  | .setServerMode mode => { settings with serverMode := some mode }
  | .addRedundancyGroup redGroup =>
      { settings with
        allowedClients :=
          settings.allowedClients ++ [redGroup.allowedClients] }
  | .setMaxOpenConnections maxOpenConnections =>
      { settings with maxOpenConnections := some maxOpenConnections }
  | .create _ _ _ | .start | .stop | .destroy => settings

/-- A call on the slave, if there is one where one is needed. -/
def settle (settings : Option Settings) :
    SlaveCall → Option (Option Settings)
  | .create isSecure maxLowPrioQueueSize maxHighPrioQueueSize =>
      if settings.isNone then
        some
          (some
            { isSecure := isSecure
              maxLowPrioQueueSize := maxLowPrioQueueSize
              maxHighPrioQueueSize := maxHighPrioQueueSize })
      else
        none
  | .destroy => if settings.isSome then some none else none
  | call => settings.map fun there => some (there.apply call)

/-- The settings of the slave, replayed from the calls of the plugin. -/
def settingsProtocol : Protocol (Option Settings) PluginCall where
  permit settings
    | .slave call => settle settings call
    | _ => some settings

/-! ## The settings of a configuration -/

/-- The clients which have slots, group by group. -/
def slotClients (config : IEC104Config) : List (List String) :=
  config.redundancyGroups.map fun redGroup =>
    redGroup.connections.map RedGroupCon.clientIp

/--
The settings a configuration stands for; the connections are limited to the
slots as soon as the slave is started.
-/
def settingsFor (config : IEC104Config) (isStarted : Bool) : Settings where
  isSecure := config.useTls
  maxLowPrioQueueSize := config.asduQueueSize
  maxHighPrioQueueSize := 100
  tcpPort := some (tcpPort config)
  ipAddress := if config.bindOnIp then some config.ip else none
  connectionParameters :=
    some ⟨config.k, config.w, config.t0, config.t1, config.t2, config.t3⟩
  appLayerParameters := some config.appLayerParameters
  handlers :=
    [.clockSync, .interrogation, .asdu, .connectionRequest,
      .connectionEvent]
  serverMode :=
    some
      (if config.redundancyGroups.isEmpty then .singleRedundancyGroup
      else .multipleRedundancyGroups)
  allowedClients := slotClients config
  maxOpenConnections :=
    if isStarted then some (slotClients config).flatten.length else none

/-- The settings a plugin stands for. -/
def settingsOf (plugin : Plugin) : Option Settings :=
  if plugin.hasSlave then
    some (settingsFor plugin.server.config plugin.monitoringThread)
  else
    none

/-- The ranges of lib60870 and of the standard. -/
structure Settings.InRange (settings : Settings) : Prop where
  queues :
    0 < settings.maxLowPrioQueueSize ∧ 0 < settings.maxHighPrioQueueSize
  tcpPort : ∀ port ∈ settings.tcpPort, isBetween 1 65535 port = true
  ipAddress :
    ∀ address ∈ settings.ipAddress, isValidIPAddress address = true
  window :
    ∀ parameters ∈ settings.connectionParameters,
      isBetween 1 32767 parameters.k = true ∧
        isBetween 1 32767 parameters.w = true
  timeouts :
    ∀ parameters ∈ settings.connectionParameters,
      isBetween 1 255 parameters.t0 = true ∧
        isBetween 1 255 parameters.t1 = true ∧
        isBetween 1 255 parameters.t2 = true ∧ 0 ≤ parameters.t3
  appLayerParameters :
    ∀ parameters ∈ settings.appLayerParameters,
      isBetween 1 2 parameters.sizeOfCA = true ∧
        isBetween 1 3 parameters.sizeOfIOA = true ∧
        isBetween 11 253 parameters.maxSizeOfASDU = true
  allowedClients :
    ∀ clients ∈ settings.allowedClients, ∀ ip ∈ clients,
      isValidIPAddress ip = true

section Configuration

/-- Connection events and south events leave the settings. -/
theorem settingsFor_congr {config changed : IEC104Config}
    (same :
      ∃ groups monitors,
        changed =
          { config with
            redundancyGroups := groups
            monitoredSouthPlugins := monitors })
    (clients : slotClients changed = slotClients config)
    (isStarted : Bool) :
    settingsFor changed isStarted = settingsFor config isStarted := by
  rcases same with ⟨groups, monitors, rfl⟩
  have lengths :
      groups.length = config.redundancyGroups.length := by
    simpa [slotClients] using congrArg List.length clients
  have isEmpty :
      groups.isEmpty = config.redundancyGroups.isEmpty := by
    rw [Bool.eq_iff_iff, List.isEmpty_iff_length_eq_zero,
      List.isEmpty_iff_length_eq_zero, lengths]
  simp only [settingsFor, clients, isEmpty, tcpPort,
    IEC104Config.appLayerParameters]

theorem slotClients_eq_layout (config : IEC104Config) :
    slotClients config =
      config.layout.map fun entry => entry.2.map Prod.fst := by
  simp [slotClients, IEC104Config.layout, Function.comp_def]

/-- The path letters have nothing to do with the clients. -/
theorem slotClients_letteredConfig (server : IEC104Server) :
    slotClients (letteredConfig server) = slotClients server.config := by
  rw [slotClients, letteredConfig, List.map_map]
  apply List.map_congr_left
  intro redGroup _
  apply List.ext_getElem?
  intro position
  simp only [Function.comp_apply, setPathLetters, List.getElem?_map,
    List.getElem?_mapIdx, Option.map_map]
  rfl

/-- What `sendInitialAudits` counts. -/
theorem maxOpenConnections_eq (server : IEC104Server) :
    (sendInitialAudits server).maxOpenConnections =
      (slotClients server.config).flatten.length := by
  show
    List.foldl
        (fun total redGroup => total + redGroup.connections.length) 0
        server.config.redundancyGroups =
      _
  rw [List.length_flatten, slotClients, List.map_map,
    ← List.foldl_map, ← List.sum_eq_foldl]
  simp [Function.comp_def]

end Configuration

/-! ## Import -/

section Import

/-- The address the slave is bound to is valid, if it is bound to one. -/
def LocalAddressValid (config : IEC104Config) : Prop :=
  config.bindOnIp = true → isValidIPAddress config.ip = true

theorem importFilter_address (config : IEC104Config) (filter : Json) :
    (importFilter config filter).bindOnIp = config.bindOnIp ∧
      (importFilter config filter).ip = config.ip := by
  simp only [importFilter]
  split
  · split
    · split <;> exact ⟨rfl, rfl⟩
    · exact ⟨rfl, rfl⟩
  · exact ⟨rfl, rfl⟩

theorem importApplicationLayer_address (config : IEC104Config)
    (applicationLayer : Json) :
    (importApplicationLayer config applicationLayer).bindOnIp =
        config.bindOnIp ∧
      (importApplicationLayer config applicationLayer).ip = config.ip := by
  have filtered :
      ∀ filters : List Json,
        (filters.foldl importFilter config).bindOnIp = config.bindOnIp ∧
          (filters.foldl importFilter config).ip = config.ip := by
    intro filters
    induction filters generalizing config with
    | nil => exact ⟨rfl, rfl⟩
    | cons filter rest induction =>
        rcases importFilter_address config filter with ⟨bindOnIp, ip⟩
        rcases induction (importFilter config filter) with ⟨bound, same⟩
        exact ⟨bound.trans bindOnIp, same.trans ip⟩
  simp only [importApplicationLayer]
  split
  · exact filtered _
  · exact ⟨rfl, rfl⟩

theorem importTransportLayer_address {config : IEC104Config}
    (valid : LocalAddressValid config) (transportLayer : Json) :
    LocalAddressValid (importTransportLayer config transportLayer) := by
  intro bound
  simp only [importTransportLayer] at bound ⊢
  cases found : srvIp transportLayer with
  | none =>
      rw [found] at bound
      exact valid bound
  | some address => exact (Option.filter_eq_some_iff.mp found).2

theorem importProtocolConfig_address {config : IEC104Config}
    (valid : LocalAddressValid config) (document : Option Json) :
    LocalAddressValid (importProtocolConfig config document) := by
  simp only [importProtocolConfig]
  split
  · exact valid
  · split
    · rename_i protocolStack _ transportLayer applicationLayer _ _
      rcases
          importApplicationLayer_address
            (importTransportLayer config transportLayer)
            applicationLayer with
        ⟨bindOnIp, ip⟩
      have transported :=
        importTransportLayer_address valid transportLayer
      have layered :
          LocalAddressValid
            (importApplicationLayer
              (importTransportLayer config transportLayer)
              applicationLayer) := by
        rw [LocalAddressValid, bindOnIp, ip]
        exact transported
      simp only [importSouthMonitoring]
      split
      · exact layered
      · exact layered
    · exact valid

/-- The allowed clients of every group are valid and have its slots. -/
def ClientsValid (groups : List RedGroup) : Prop :=
  ∀ redGroup ∈ groups,
    redGroup.allowedClients =
        redGroup.connections.map RedGroupCon.clientIp ∧
      ∀ ip ∈ redGroup.allowedClients, isValidIPAddress ip = true

theorem importRedundancyGroup_clients (groups : List RedGroup)
    (redGroup : Json) (valid : ClientsValid groups) :
    ClientsValid (importRedundancyGroup groups redGroup) := by
  intro other member
  rw [importRedundancyGroup_eq, List.mem_append] at member
  rcases member with old | new
  · exact valid other old
  · rw [Option.mem_toList, Option.map_eq_some_iff] at new
    rcases new with ⟨name, -, rfl⟩
    refine ⟨by simp, ?_⟩
    rw [allowedClients_groupOf]
    intro ip isClient
    rcases List.mem_filterMap.mp isClient with ⟨connection, -, found⟩
    exact (Option.filter_eq_some_iff.mp found).2

/-- What the import into a new server makes sure of. -/
structure IsSound (config : IEC104Config) : Prop where
  inRange : ImportProtocol.InRange config
  address : LocalAddressValid config
  clients : ClientsValid config.redundancyGroups

theorem IsSound.default : IsSound {} where
  inRange := .default
  address bound := (Bool.false_ne_true bound).elim
  clients _ member := (List.not_mem_nil member).elim

theorem importProtocolConfig_isSound {config : IEC104Config}
    (sound : IsSound config) (document : Option Json) :
    IsSound (importProtocolConfig config document) where
  inRange := importProtocolConfig_inRange sound.inRange document
  address := importProtocolConfig_address sound.address document
  clients :=
    importProtocolConfig_induction ClientsValid importRedundancyGroup_clients
      sound.clients document

/-- A sound configuration stands for settings which a slave can have. -/
theorem IsSound.settingsFor {config : IEC104Config}
    (sound : IsSound config) (isStarted : Bool) :
    (settingsFor config isStarted).InRange where
  queues := ⟨sound.inRange.asduQueueSize, show (0 : Int) < 100 by decide⟩
  tcpPort := by
    intro port isPort
    rw [← Option.some.inj isPort, LifeCycle.tcpPort]
    split
    · rfl
    · rename_i other
      exact
        sound.inRange.tcpPort.resolve_left fun unset => other (by simp [unset])
  ipAddress := by
    intro address isAddress
    simp only [SlaveSettings.settingsFor] at isAddress
    split at isAddress
    · rename_i bound
      rw [← Option.some.inj isAddress]
      exact sound.address bound
    · simp at isAddress
  window := by
    intro parameters are
    rw [← Option.some.inj are]
    exact ⟨sound.inRange.k, sound.inRange.w⟩
  timeouts := by
    intro parameters are
    rw [← Option.some.inj are]
    exact
      ⟨sound.inRange.t0, sound.inRange.t1, sound.inRange.t2,
        sound.inRange.t3⟩
  appLayerParameters := by
    intro parameters are
    rw [← Option.some.inj are]
    refine ⟨sound.inRange.caSize, sound.inRange.ioaSize, ?_⟩
    have asduSize := sound.inRange.asduSize
    rw [isAsduSize, Bool.or_eq_true] at asduSize
    simp only [IEC104Config.appLayerParameters]
    split
    · rfl
    · rename_i given
      exact asduSize.resolve_left given
  allowedClients := by
    intro group isGroup ip isClient
    rcases List.mem_map.mp isGroup with ⟨redGroup, member, rfl⟩
    rcases sound.clients redGroup member with ⟨same, valid⟩
    rw [← same] at isClient
    exact valid ip isClient

end Import

/-! ## Initialisation -/

section Initialisation

/-- Calls that neither make nor destroy the slave set one thing each. -/
theorem run_sets (settings : Settings) {calls : List SlaveCall}
    (sets :
      ∀ call ∈ calls, ∀ there : Settings,
        settle (some there) call = some (some (there.apply call))) :
    settingsProtocol.run (some settings) (calls.map .slave) =
      some (some (calls.foldl Settings.apply settings)) := by
  induction calls generalizing settings with
  | nil => rfl
  | cons call rest induction =>
      have first : settingsProtocol.permit (some settings) (.slave call) =
          some (some (settings.apply call)) :=
        sets call List.mem_cons_self settings
      rw [List.map_cons, Protocol.run_cons, first, Option.bind_some,
        List.foldl_cons]
      exact
        induction _ fun other member =>
          sets other (List.mem_cons_of_mem call member)

theorem foldl_addRedundancyGroup (groups : List RedGroup)
    (settings : Settings) :
    (groups.map SlaveCall.addRedundancyGroup).foldl Settings.apply
        settings =
      { settings with
        allowedClients :=
          settings.allowedClients ++
            groups.map RedGroup.allowedClients } := by
  induction groups generalizing settings with
  | nil => simp
  | cons redGroup rest induction =>
      rw [List.map_cons, List.foldl_cons, induction]
      simp [Settings.apply]

/-- What `setJsonConfig` sets on a new slave. -/
theorem foldl_slaveSettings {config : IEC104Config}
    (clients : ClientsValid config.redundancyGroups) :
    (slaveSettings config).foldl Settings.apply
        { isSecure := config.useTls
          maxLowPrioQueueSize := config.asduQueueSize
          maxHighPrioQueueSize := 100 } =
      settingsFor config false := by
  have allowed :
      config.redundancyGroups.map RedGroup.allowedClients =
        slotClients config :=
    List.map_congr_left fun redGroup member => (clients redGroup member).1
  simp only [slaveSettings, List.foldl_append]
  by_cases single : config.redundancyGroups.isEmpty = true
  · have none : slotClients config = [] := by
      rw [slotClients, List.isEmpty_iff.mp single]
      rfl
    rw [if_pos single, settingsFor, if_pos single, none]
    cases config.bindOnIp <;> rfl
  · rw [if_neg single, List.foldl_cons, foldl_addRedundancyGroup, allowed,
      settingsFor, if_neg single]
    cases config.bindOnIp <;> rfl

theorem slaveSettings_set (config : IEC104Config) :
    ∀ call ∈ slaveSettings config, ∀ there : Settings,
      settle (some there) call = some (some (there.apply call)) := by
  intro call member there
  simp only [slaveSettings, List.mem_append] at member
  rcases member with ((port | address) | fixed) | groups
  · rw [List.mem_singleton.mp port]
    rfl
  · split at address
    · rw [List.mem_singleton.mp address]
      rfl
    · simp at address
  · simp only [List.mem_cons, List.not_mem_nil, or_false] at fixed
    rcases fixed with rfl | rfl | rfl | rfl | rfl | rfl | rfl <;> rfl
  · split at groups
    · rw [List.mem_singleton.mp groups]
      rfl
    · rcases List.mem_cons.mp groups with rfl | added
      · rfl
      · rcases List.mem_map.mp added with ⟨redGroup, -, rfl⟩
        rfl

variable (platform : PluginPlatform)

theorem settles_createSlave {config : IEC104Config} {isSecure : Bool}
    (clients : ClientsValid config.redundancyGroups)
    (useTls : config.useTls = isSecure) :
    settingsProtocol.run none (createSlave platform config isSecure).2 =
      some
        (if (createSlave platform config isSecure).1 then
          some (settingsFor config false)
        else
          none) := by
  subst useTls
  rw [createSlave]
  split
  · rw [List.map_cons, Protocol.run_cons]
    show
      settingsProtocol.run
          (some
            { isSecure := config.useTls
              maxLowPrioQueueSize := config.asduQueueSize
              maxHighPrioQueueSize := 100 })
          ((slaveSettings config).map .slave) =
        _
    rw [run_sets _ (slaveSettings_set config), foldl_slaveSettings clients]
    rfl
  · rfl

/-- The calls for the TLS configuration leave the slave. -/
theorem settles_createTls (tlsConfig : TlsConfiguration.TlsConfig) :
    settingsProtocol.run none (createTls platform tlsConfig).2 =
      some none := by
  apply settingsProtocol.run_eq_self
  intro call member
  rw [createTls] at member
  dsimp only at member
  split at member
  · rcases List.mem_cons.mp member with rfl | tls
    · rfl
    · rcases List.mem_map.mp tls with ⟨tlsCall, -, rfl⟩
      rfl
  · simp at member

/-- What a new plugin has imported. -/
theorem isSound_pluginInit (configData : Option ConfigCategory) :
    IsSound (pluginInit platform configData).1.server.config := by
  rw [pluginInit, configure]
  split
  · rename_i protocolStack dataExchange _ _
    simp only [setJsonConfig]
    split
    · split
      · exact importProtocolConfig_isSound .default protocolStack
      · exact importProtocolConfig_isSound .default protocolStack
    · exact importProtocolConfig_isSound .default protocolStack
  · exact .default

/-- `plugin_init` sets up the slave as its configuration says. -/
theorem settles_pluginInit (configData : Option ConfigCategory) :
    let made := pluginInit platform configData
    settingsProtocol.run none made.2 =
      some
        (if made.1.hasSlave then
          some (settingsFor made.1.server.config false)
        else
          none) := by
  intro made
  rw [show made = pluginInit platform configData from rfl, pluginInit,
    configure]
  split
  · rename_i protocolStack dataExchange _ _
    have clients :=
      (importProtocolConfig_isSound .default protocolStack).clients
    simp only [setJsonConfig]
    split
    · rename_i useTls
      split
      · rw [settingsProtocol.run_append_of_eq (settles_createTls platform _)]
        exact settles_createSlave platform clients useTls
      · exact settles_createTls platform _
    · rename_i noTls
      rw [Bool.not_eq_true] at noTls
      exact settles_createSlave platform clients noTls
  · rfl

end Initialisation

/-! ## Runs -/

/-- The thread has a slave, and what is configured can be set on one. -/
structure Settled (plugin : Plugin) : Prop where
  thread : plugin.thread.isSome → plugin.hasSlave
  inRange :
    ∀ isStarted, (settingsFor plugin.server.config isStarted).InRange

namespace Settled

variable {plugin : Plugin}

/-- A step that keeps the invariant and the settings of the plugin. -/
def Kept (plugin : Plugin) (stepped : Plugin × List PluginCall) : Prop :=
  Settled stepped.1 ∧
    settingsProtocol.run (settingsOf plugin) stepped.2 =
      some (settingsOf stepped.1)

theorem idle (settled : Settled plugin) : Kept plugin (plugin, []) :=
  ⟨settled, rfl⟩

/-- Effects have nothing to do with the settings. -/
theorem run_effects (settings : Option Settings) (effects : List Effect) :
    settingsProtocol.run settings (effects.map .effect) =
      some settings := by
  apply settingsProtocol.run_eq_self
  intro call member
  rcases List.mem_map.mp member with ⟨effect, -, rfl⟩
  rfl

/-- Neither have the calls of the monitoring thread. -/
theorem run_thread (settings : Settings) (calls : List LoopCall) :
    settingsProtocol.run (some settings) (calls.map pluginCallOf) =
      some (some settings) := by
  apply settingsProtocol.run_eq_self
  intro call member
  rcases List.mem_map.mp member with ⟨loopCall, -, rfl⟩
  cases loopCall <;> rfl

theorem startSlave (settled : Settled plugin) :
    Kept plugin (LifeCycle.startSlave plugin) := by
  rw [LifeCycle.startSlave]
  split
  · rename_i isReady
    rw [Bool.and_eq_true, Bool.not_eq_true'] at isReady
    rcases isReady with ⟨hasSlave, noThread⟩
    have config :
        (sendInitialAudits plugin.server).server.config =
          letteredConfig plugin.server := by
      rw [(sendInitialAudits_eq plugin.server).1]
    have same :
        ∀ isStarted,
          settingsFor (sendInitialAudits plugin.server).server.config
              isStarted =
            settingsFor plugin.server.config isStarted := by
      rw [config]
      exact
        settingsFor_congr ⟨_, plugin.server.config.monitoredSouthPlugins, rfl⟩
          (slotClients_letteredConfig plugin.server)
    constructor
    · refine ⟨fun _ => hasSlave, fun isStarted => ?_⟩
      show
        (settingsFor (sendInitialAudits plugin.server).server.config
          isStarted).InRange
      rw [same]
      exact settled.inRange isStarted
    · have before :
          settingsOf plugin =
            some (settingsFor plugin.server.config false) := by
        rw [settingsOf, if_pos hasSlave, noThread]
      have limited :
          (settingsFor plugin.server.config false).apply
              (.setMaxOpenConnections
                (sendInitialAudits plugin.server).maxOpenConnections) =
            settingsFor plugin.server.config true := by
        rw [maxOpenConnections_eq]
        rfl
      dsimp only
      rw [before, List.cons_append, Protocol.run_cons]
      show
        settingsProtocol.run (some (Settings.apply _ _)) (_ ++ _) = some _
      rw [limited, settingsProtocol.run_append_of_eq (run_effects _ _)]
      exact
        congrArg some
          ((if_pos hasSlave).trans (congrArg some (same true))).symm
  · exact settled.idle

theorem serverStep (settled : Settled plugin) (platform : PluginPlatform)
    (event : Event) :
    Kept plugin (LifeCycle.serverStep platform plugin event) := by
  have stepped :
      ∃ possible,
        LifeCycle.serverStep platform plugin event =
          ({ plugin with
              system := (Runs.step platform.values plugin.system possible).1 },
            (Runs.step platform.values plugin.system possible).2.map
              .effect) :=
    ⟨_, rfl⟩
  rcases stepped with ⟨possible, stepped⟩
  rw [stepped]
  have same :
      ∀ isStarted,
        settingsFor
            (Runs.step platform.values plugin.system
              possible).1.server.config isStarted =
          settingsFor plugin.server.config isStarted := by
    apply settingsFor_congr
    · rcases step_config platform.values plugin.system possible with
        ⟨groups, config⟩
      exact ⟨groups, _, config⟩
    · rw [slotClients_eq_layout, slotClients_eq_layout]
      exact congrArg _ (layout_step platform.values plugin.system possible)
  constructor
  · refine ⟨settled.thread, fun isStarted => ?_⟩
    show (settingsFor (Runs.step _ _ possible).1.server.config _).InRange
    rw [same]
    exact settled.inRange isStarted
  · rw [run_effects, settingsOf, settingsOf]
    split
    · exact congrArg some (congrArg some (same _).symm)
    · rfl

theorem threadStep (settled : Settled plugin)
    (requestReturned northStatusReturned : Option Int)
    (slaveRunning : Bool) :
    Kept plugin
      (LifeCycle.threadStep plugin requestReturned northStatusReturned
        slaveRunning) := by
  rw [LifeCycle.threadStep]
  split
  · exact settled.idle
  · rename_i state isThread
    have hasSlave : plugin.hasSlave = true :=
      settled.thread (by simp [isThread])
    have before :
        settingsOf plugin =
          some
            (settingsFor plugin.server.config plugin.monitoringThread) :=
      if_pos hasSlave
    split
    · refine ⟨⟨fun _ => hasSlave, settled.inRange⟩, ?_⟩
      rw [before, run_thread]
      exact congrArg some before.symm
    · refine ⟨⟨by simp, settled.inRange⟩, ?_⟩
      rw [before, run_thread]
      exact congrArg some before.symm

theorem finishShutdown (settled : Settled plugin) :
    Kept plugin (LifeCycle.finishShutdown plugin) := by
  rw [LifeCycle.finishShutdown]
  split
  · rename_i isReady
    rw [Bool.and_eq_true, Option.isNone_iff_eq_none] at isReady
    rcases isReady with ⟨-, noThread⟩
    constructor
    · refine ⟨fun running => ?_, settled.inRange⟩
      have absent : plugin.thread.isSome = true := running
      rw [noThread] at absent
      exact absurd absent Bool.false_ne_true
    · simp only [stopCalls, settingsOf]
      cases plugin.monitoringThread <;> cases plugin.hasSlave <;>
        cases plugin.hasTlsConfig <;> rfl
  · exact settled.idle

/-- The step lemma. -/
theorem step (settled : Settled plugin) (platform : PluginPlatform)
    (event : PluginEvent) :
    Kept plugin (pluginStep platform plugin event) := by
  unfold pluginStep
  split
  · exact settled.idle
  · cases event with
    | start => exact settled.startSlave
    | server event => exact settled.serverStep platform event
    | thread requestReturned northStatusReturned slaveRunning =>
        exact
          settled.threadStep requestReturned northStatusReturned slaveRunning
    | shutdown => exact ⟨⟨settled.thread, settled.inRange⟩, rfl⟩
    | finish => exact settled.finishShutdown

end Settled

section Runs

variable (platform : PluginPlatform) (configData : Option ConfigCategory)

/--
After every run, the calls on the slave have left the settings which the
configuration of the server stands for, and these are within their ranges;
without a slave nothing is set.
-/
theorem settings_agree (events : List PluginEvent) :
    let plugin := pluginAfter platform configData events
    settingsProtocol.run none (pluginCalls platform configData events) =
        some (settingsOf plugin) ∧
      ∀ settings ∈ settingsOf plugin, settings.InRange := by
  intro plugin
  rcases pluginInit_obeys platform configData with ⟨isNew, -⟩
  have new : Settled (pluginInit platform configData).1 :=
    ⟨by simp [isNew.thread],
      (isSound_pluginInit platform configData).settingsFor⟩
  have made :
      settingsProtocol.run none (pluginInit platform configData).2 =
        some (settingsOf (pluginInit platform configData).1) := by
    rw [settles_pluginInit, settingsOf, isNew.monitoringThread]
  have always : EachStep (fun _ _ => True) events :=
    fun _ _ _ _ => trivial
  have step :
      ∀ earlier event,
        True →
          Settled (pluginAfter platform configData earlier) →
            Settled.Kept (pluginAfter platform configData earlier)
              ((pluginMachine platform).step
                (pluginAfter platform configData earlier) event) :=
    fun _ event _ settled => settled.step platform event
  rcases
      @Protocol.run_outputs _ _ settingsProtocol _ _ (pluginMachine platform)
        settingsOf _ (fun _ => Settled) _ new step events always with
    ⟨settled, run⟩
  constructor
  · rw [pluginCalls, settingsProtocol.run_append_of_eq made]
    exact run
  · intro settings are
    rw [settingsOf] at are
    split at are
    · rw [← Option.some.inj are]
      exact settled.inRange _
    · simp at are

end Runs

end Iec104North.SlaveSettings
