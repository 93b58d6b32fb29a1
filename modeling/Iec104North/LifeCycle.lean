import Iec104North.ImportExchange
import Iec104North.Library.Typestate
import Iec104North.MonitoringLoop
import Iec104North.Runs
import Iec104North.TlsConfiguration

/-!
# The life of the plugin

`plugin_init` makes a server from the configuration and creates the lib60870
slave, `plugin_start` starts the monitoring thread, which starts and stops the
slave, and `plugin_shutdown` waits for the thread and releases everything.  In
between the handlers, `plugin_send` and `plugin_register` work on the server.

An event is one step of one thread.  A turn of the monitoring thread stands at
the moment it reads the state of the south side, `plugin_shutdown` makes two
steps: one until it waits for the thread, one after the thread has ended.
-/

namespace Iec104North.LifeCycle

open Iec104North.Library
open Iec104North.Values
open Iec104North.Config
open Iec104North.DataPoints
open Iec104North.Server
open Iec104North.OutstandingCommands
open Iec104North.Connections
open Iec104North.Runs
open Iec104North.MonitoringLoop
open Iec104North.ImportProtocol
open Iec104North.ImportExchange
open Iec104North.TlsConfiguration

/-! ## Calls -/

/-- The handlers `setJsonConfig` installs. -/
inductive SlaveHandler where
  | clockSync
  | interrogation
  | asdu
  | connectionRequest
  | connectionEvent
deriving DecidableEq, Repr

/-- `CS104_ServerMode`, as far as the plugin uses it. -/
inductive ServerMode where
  | singleRedundancyGroup
  | multipleRedundancyGroups
deriving DecidableEq, Repr

/-- A call of lib60870 on the slave. -/
inductive SlaveCall where
  | create (isSecure : Bool) (maxLowPrioQueueSize maxHighPrioQueueSize : Int)
  | setLocalPort (tcpPort : Int)
  | setLocalAddress (ipAddress : String)
  | setConnectionParameters (k w t0 t1 t2 t3 : Int)
  | setAppLayerParameters (parameters : AppLayerParameters)
  | setHandler (handler : SlaveHandler)
  | setServerMode (mode : ServerMode)
  | addRedundancyGroup (redGroup : RedGroup)
  | setMaxOpenConnections (maxOpenConnections : Nat)
  | start
  | stop
  | destroy
deriving DecidableEq, Repr

/--
A call of the plugin to the outside: on the TLS configuration, on the slave, on
the monitoring thread, of the control callback by this thread, or an effect of
the server.
-/
inductive PluginCall where
  | tlsCreate
  | tls (call : TlsCall)
  | slave (call : SlaveCall)
  | threadStart
  | threadJoin
  | operation (call : OperationCall) (result : Int)
  | effect (effect : Effect)
deriving DecidableEq, Repr

/-! ## The plugin -/

/--
The server with what it owns: `m_slave` and `m_tlsConfig` are set, `m_started`,
`m_monitoringThread` is set, and the locals of the monitoring thread while it
runs.  `isStopping` says that `plugin_shutdown` has begun, `isDeleted` that it
has deleted the server.
-/
structure Plugin where
  system : System
  tlsConfig : TlsConfig := {}
  hasSlave : Bool := false
  hasTlsConfig : Bool := false
  started : Bool := false
  monitoringThread : Bool := false
  thread : Option LoopState := none
  isStopping : Bool := false
  isDeleted : Bool := false

namespace Plugin

/-- The server of the plugin. -/
def server (plugin : Plugin) : IEC104Server :=
  plugin.system.server

/-- Replace the server. -/
def withServer (plugin : Plugin) (server : IEC104Server) : Plugin :=
  { plugin with system := { plugin.system with server := server } }

end Plugin

/-! ## Initialisation -/

/-- What comes from outside, with whether a slave can be created. -/
structure PluginPlatform where
  values : Platform
  tls : TlsPlatform
  createsSlave : Bool

/--
A Fledge `ConfigCategory`: an item that is missing is `none`, and the text of
an item that is there stands for its document, if it can be parsed.
-/
structure ConfigCategory where
  name : String
  protocolStack : Option (Option Json)
  exchangedData : Option (Option Json)
  tlsConf : Option (Option Json)

section Initialisation

variable (platform : PluginPlatform)

/-- `IEC104Config::TcpPort`. -/
def tcpPort (config : IEC104Config) : Int :=
  if config.tcpPort == -1 then 2404 else config.tcpPort

/-- What `setJsonConfig` sets on a new slave. -/
def slaveSettings (config : IEC104Config) : List SlaveCall :=
  [.setLocalPort (tcpPort config)] ++
    (if config.bindOnIp then [.setLocalAddress config.ip] else []) ++
    [.setConnectionParameters config.k config.w config.t0 config.t1
        config.t2 config.t3,
      .setAppLayerParameters config.appLayerParameters,
      .setHandler .clockSync, .setHandler .interrogation, .setHandler .asdu,
      .setHandler .connectionRequest, .setHandler .connectionEvent] ++
    if config.redundancyGroups.isEmpty then
      [.setServerMode .singleRedundancyGroup]
    else
      .setServerMode .multipleRedundancyGroups ::
        config.redundancyGroups.map .addRedundancyGroup

/-- `CS104_Slave_create` or `CS104_Slave_createSecure`, with the settings. -/
def createSlave (config : IEC104Config) (isSecure : Bool) :
    Bool × List PluginCall :=
  if platform.createsSlave then
    (true,
      (SlaveCall.create isSecure config.asduQueueSize 100 ::
        slaveSettings config).map .slave)
  else
    (false, [])

/-- `createTLSConfiguration`, with `TLSConfiguration_create`. -/
def createTls (tlsConfig : TlsConfig) : Bool × List PluginCall :=
  let created := createTLSConfiguration platform.tls tlsConfig
  (created.1,
    if platform.tls.createsConfiguration then
      .tlsCreate :: created.2.map .tls
    else
      [])

/-- `IEC104Server::setJsonConfig` on parsed documents. -/
def setJsonConfig (plugin : Plugin)
    (stackConfig dataExchangeConfig tlsConfig : Option Json) :
    Plugin × List PluginCall :=
  let config := importProtocolConfig plugin.server.config stackConfig
  let tls := importTlsConfig plugin.tlsConfig tlsConfig
  let imported :=
    { plugin.withServer
        { plugin.server with
          config := config
          exchangeDefinitions := importExchangeConfig dataExchangeConfig } with
      tlsConfig := tls }
  if config.useTls then
    let (tlsOk, tlsCalls) := createTls platform tls
    if tlsOk then
      let (hasSlave, slaveCalls) := createSlave platform config true
      ({ imported with hasSlave := hasSlave, hasTlsConfig := true },
        tlsCalls ++ slaveCalls)
    else
      (imported, tlsCalls)
  else
    let (hasSlave, slaveCalls) := createSlave platform config false
    ({ imported with hasSlave := hasSlave }, slaveCalls)

/-- `IEC104Server::configure`; without a TLS item the text is empty. -/
def configure (plugin : Plugin) (config : ConfigCategory) :
    Plugin × List PluginCall :=
  match config.protocolStack, config.exchangedData with
  | some protocolStack, some dataExchange =>
      setJsonConfig platform plugin protocolStack dataExchange
        config.tlsConf.join
  | _, _ => (plugin, [])

end Initialisation

/-! ### The default configuration -/

/-- A redundancy group of the default configuration. -/
def defaultGroup (name : String) (clients : List String) : Json :=
  .object
    [("connections",
        .array
          (clients.map fun client => .object [("clt_ip", .string client)])),
      ("rg_name", .string name)]

/-- The default of the item `protocol_stack`. -/
def defaultProtocolStack : Json :=
  .object
    [("protocol_stack",
      .object
        [("name", .string "iec104server"),
          ("version", .string "1.0"),
          ("transport_layer",
            .object
              [("redundancy_groups",
                  .array
                    [defaultGroup "red-group-1"
                        ["192.168.2.244", "192.168.0.11"],
                      defaultGroup "red-group-2"
                        ["192.168.2.224", "192.168.0.11", "192.168.0.12"],
                      .object [("rg_name", .string "catch-all")]]),
                ("bind_on_ip", .bool false),
                ("srv_ip", .string "0.0.0.0"),
                ("port", .int 2404),
                ("tls", .bool false),
                ("k_value", .int 12),
                ("w_value", .int 8),
                ("t0_timeout", .int 10),
                ("t1_timeout", .int 15),
                ("t2_timeout", .int 10),
                ("t3_timeout", .int 20)]),
          ("application_layer",
            .object
              [("ca_asdu_size", .int 2),
                ("ioaddr_size", .int 3),
                ("asdu_size", .int 0),
                ("time_sync", .bool false),
                ("cmd_exec_timeout", .int 20),
                ("cmd_recv_timeout", .int 60),
                ("accept_cmd_with_time", .int 2),
                ("cmd_dest", .string ""),
                ("filter_orig", .bool false),
                ("filter_list",
                  .array
                    [.object [("orig_addr", .int 0)],
                      .object [("orig_addr", .int 1)],
                      .object [("orig_addr", .int 2)]])])])]

/-- A protocol of a datapoint of the default configuration. -/
def defaultProtocol (name address typeId : String)
    (others : List (String × Json) := []) : Json :=
  .object
    ([("name", .string name), ("address", .string address),
      ("typeid", .string typeId)] ++ others)

/-- A datapoint of the default configuration. -/
def defaultDatapoint (label : String) (protocols : List Json) : Json :=
  .object [("label", .string label), ("protocols", .array protocols)]

/-- The default of the item `exchanged_data`. -/
def defaultExchangedData : Json :=
  .object
    [("exchanged_data",
      .object
        [("name", .string "iec104server"),
          ("version", .string "1.0"),
          ("datapoints",
            .array
              [defaultDatapoint "TS1"
                  [defaultProtocol "iec104" "45-672" "M_SP_NA_1",
                    defaultProtocol "tase2" "S_114562"
                      "Data_StateQTimeTagExtended"],
                defaultDatapoint "TM1"
                  [defaultProtocol "iec104" "45-984" "M_ME_NA_1",
                    defaultProtocol "tase2" "S_114562" "Data_RealQ"],
                defaultDatapoint "CM1"
                  [defaultProtocol "iec104" "45-10005" "C_SC_NA_1"
                    [("termination_timeout", .int 3000)]]])])]

/-- Certificates of the default configuration. -/
def defaultCertificates (files : List String) : Json :=
  .array (files.map fun file => .object [("cert_file", .string file)])

/-- The default of the item `tls_conf`. -/
def defaultTlsConf : Json :=
  .object
    [("tls_conf",
      .object
        [("private_key", .string "iec104_server.key"),
          ("own_cert", .string "iec104_server.cer"),
          ("ca_certs",
            defaultCertificates ["iec104_ca.cer", "iec104_ca2.cer"]),
          ("remote_certs", defaultCertificates ["iec104_client.cer"])])]

/-- `default_config`, as `plugin_init` makes a category of it. -/
def defaultConfig : ConfigCategory where
  name := "newConfig"
  protocolStack := some (some defaultProtocolStack)
  exchangedData := some (some defaultExchangedData)
  tlsConf := some (some defaultTlsConf)

/-- A server as its constructor leaves it, with the name of its service. -/
def newServer (serviceName : String) : Plugin where
  system :=
    { server :=
        { config := {}
          exchangeDefinitions := .empty
          serviceName := serviceName } }

/-- `plugin_init`. -/
def pluginInit (platform : PluginPlatform)
    (configData : Option ConfigCategory) : Plugin × List PluginCall :=
  let config := configData.getD defaultConfig
  configure platform (newServer config.name) config

/-! ## Start, operation and shutdown -/

/-- What the threads of the plugin do. -/
inductive PluginEvent where
  | start
  | server (event : Event)
  | thread (requestReturned northStatusReturned : Option Int)
      (slaveRunning : Bool)
  | shutdown
  | finish
deriving DecidableEq, Repr

/--
`IEC104Server::startSlave`.  `CS104_Slave_setMaxOpenConnections` is called among
the audits; `plugin_start` comes once, so that no thread is there yet.
-/
def startSlave (plugin : Plugin) : Plugin × List PluginCall :=
  if plugin.hasSlave && !plugin.monitoringThread then
    let slaveStart := sendInitialAudits plugin.server
    ({ plugin.withServer slaveStart.server with
        started := true
        monitoringThread := true
        thread := some {} },
      .slave (.setMaxOpenConnections slaveStart.maxOpenConnections) ::
        slaveStart.effects.map .effect ++ [.threadStart])
  else
    (plugin, [])

/--
A step of the server.  `slaveRunning` says that `m_slave` is there and runs, so
it does not hold without a slave.
-/
def serverStep (platform : PluginPlatform) (plugin : Plugin)
    (event : Event) : Plugin × List PluginCall :=
  let possible :=
    match event with
    | .slaveRunning isRunning => .slaveRunning (isRunning && plugin.hasSlave)
    | other => other
  let stepped := step platform.values plugin.system possible
  ({ plugin with system := stepped.1 }, stepped.2.map .effect)

/-- A call of the monitoring thread. -/
def pluginCallOf : LoopCall → PluginCall
  | .slaveStart => .slave .start
  | .slaveStop => .slave .stop
  | .operation call result => .operation call result

/--
The next step of the monitoring thread: a turn, or the end when `m_started` is
no longer set.
-/
def threadStep (plugin : Plugin)
    (requestReturned northStatusReturned : Option Int)
    (slaveRunning : Bool) : Plugin × List PluginCall :=
  match plugin.thread with
  | none => (plugin, [])
  | some state =>
      if plugin.started then
        let turned :=
          loopTurn plugin.server state
            { requestReturned := requestReturned
              northStatusReturned := northStatusReturned
              slaveRunning := slaveRunning
              monitoredSouthPlugins :=
                plugin.server.config.monitoredSouthPlugins }
        ({ plugin with thread := some turned.1 },
          turned.2.map pluginCallOf)
      else
        let left := leaveLoop state
        ({ plugin with thread := none }, left.2.map pluginCallOf)

/-- `IEC104Server::stop` from the join of the thread on. -/
def stopCalls (plugin : Plugin) : List PluginCall :=
  (if plugin.monitoringThread then [.threadJoin] else []) ++
    (if plugin.hasSlave then [.slave .destroy] else []) ++
    if plugin.hasTlsConfig then [.tls .destroy] else []

/--
The rest of `plugin_shutdown`, when the thread has ended: `stop` releases the
slave and the TLS configuration, the destructor drops the outstanding commands
and has nothing left to stop.
-/
def finishShutdown (plugin : Plugin) : Plugin × List PluginCall :=
  if plugin.isStopping && plugin.thread.isNone then
    ({ plugin.withServer
        { removeAllOutstandingCommands plugin.server with
          slaveRunning := false } with
        hasSlave := false
        hasTlsConfig := false
        monitoringThread := false
        isDeleted := true },
      stopCalls plugin)
  else
    (plugin, [])

/-- One step of the plugin; a deleted server does nothing any more. -/
def pluginStep (platform : PluginPlatform) (plugin : Plugin)
    (event : PluginEvent) : Plugin × List PluginCall :=
  if plugin.isDeleted then
    (plugin, [])
  else
    match event with
    | .start => startSlave plugin
    | .server event => serverStep platform plugin event
    | .thread requestReturned northStatusReturned slaveRunning =>
        threadStep plugin requestReturned northStatusReturned slaveRunning
    | .shutdown =>
        ({ plugin with started := false, isStopping := true }, [])
    | .finish => finishShutdown plugin

/-- The plugin as a machine. -/
def pluginMachine (platform : PluginPlatform) :
    Machine Plugin PluginEvent PluginCall :=
  ⟨pluginStep platform⟩

@[simp]
theorem pluginMachine_step (platform : PluginPlatform) (plugin : Plugin)
    (event : PluginEvent) :
    (pluginMachine platform).step plugin event =
      pluginStep platform plugin event :=
  rfl

/-- A platform on which every slave and every file can be had. -/
def samplePluginPlatform : PluginPlatform where
  values := samplePlatform
  tls := sampleTlsPlatform
  createsSlave := true

end Iec104North.LifeCycle
