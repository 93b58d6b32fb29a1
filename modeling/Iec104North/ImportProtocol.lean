import Iec104North.Config
import Iec104North.Library.Json

/-!
# Import of the protocol stack

`IEC104Config::importProtocolConfig` on a parsed document: redundancy groups,
transport layer, application layer and the monitored south plugins.  A member
that is missing or faulty leaves the value the configuration has.
-/

namespace Iec104North.ImportProtocol

open Std
open Iec104North.Library
open Iec104North.Config

/-! ## IP addresses -/

/-- One of the four numbers of an IPv4 address, without leading zeros. -/
def isOctet (digits : List Char) : Bool :=
  !digits.isEmpty && digits.all Char.isDigit &&
    (digits.length == 1 || digits.head? != some '0') &&
    decide (decimal digits ≤ 255)

/-- `IEC104Config::isValidIPAddress`: `inet_pton` takes it as IPv4. -/
def isValidIPAddress (addrStr : String) : Bool :=
  let octets := addrStr.toList.splitOn '.'
  octets.length == 4 && octets.all isOctet

example : isValidIPAddress "192.168.0.10" = true := by decide

/-! ## Redundancy groups -/

/-- `IEC104Config::importRedundancyGroupConnections`. -/
def importRedundancyGroupConnections (connection : Json)
    (redundancyGroup : RedGroup) : RedGroup :=
  if connection.isObject then
    match (connection.member? "clt_ip").bind Json.asString with
    | none => redundancyGroup
    | some cltIp =>
        if isValidIPAddress cltIp then
          { redundancyGroup with
            allowedClients := redundancyGroup.allowedClients ++ [cltIp]
            connections :=
              redundancyGroup.connections ++ [{ clientIp := cltIp }] }
        else
          redundancyGroup
  else
    redundancyGroup

/-- One turn of the loop of `IEC104Config::importRedundancyGroups`. -/
def importRedundancyGroup (groups : List RedGroup) (redGroup : Json) :
    List RedGroup :=
  if redGroup.isObject then
    match (redGroup.member? "rg_name").bind Json.asString with
    | none => groups
    | some redGroupName =>
        let redundancyGroup : RedGroup :=
          { name := redGroupName, index := groups.length, connections := [] }
        match (redGroup.member? "connections").bind Json.asArray with
        | some connections =>
            groups ++
              [connections.foldl
                (fun group connection =>
                  importRedundancyGroupConnections connection group)
                redundancyGroup]
        | none => groups ++ [redundancyGroup]
  else
    groups

/-- `IEC104Config::importRedundancyGroups`. -/
def importRedundancyGroups (config : IEC104Config)
    (redundancyGroups : List Json) : IEC104Config :=
  { config with
    redundancyGroups :=
      redundancyGroups.foldl importRedundancyGroup config.redundancyGroups }

/-! ## Members with a range -/

/-- An integer member within a range, or the value there is. -/
def importInt (layer : Json) (name : String) (inRange : Int → Bool)
    (current : Int) : Int :=
  match (layer.member? name).bind Json.asInt with
  | some value => if inRange value then value else current
  | none => current

/-- A Boolean member, or the value there is. -/
def importBool (layer : Json) (name : String) (current : Bool) : Bool :=
  ((layer.member? name).bind Json.asBool).getD current

/-- What `importInt` gives is the value there was or one within the range. -/
theorem importInt_cases (layer : Json) (name : String)
    (inRange : Int → Bool) (current : Int) :
    importInt layer name inRange current = current ∨
      inRange (importInt layer name inRange current) = true ∧
        IsInt32 (importInt layer name inRange current) := by
  simp only [importInt]
  cases found : (layer.member? name).bind Json.asInt with
  | none => exact Or.inl rfl
  | some value =>
      rcases Option.bind_eq_some_iff.mp found with ⟨member, -, isInt⟩
      dsimp only
      by_cases accepted : inRange value = true
      · rw [if_pos accepted]
        exact Or.inr ⟨accepted, Json.asInt_inRange isInt⟩
      · rw [if_neg accepted]
        exact Or.inl rfl

/-- Between two bounds, both included. -/
def isBetween (low high : Int) (value : Int) : Bool :=
  decide (low ≤ value) && decide (value ≤ high)

/-! ## The transport layer -/

/-- The mode a string stands for; an unknown one keeps the current mode. -/
def modeOf (modeValue : String) (current : Mode) : Mode :=
  if modeValue == "accept_always" then .connectAlways
  else if modeValue == "accept_if_south_connx_started" then
    .connectIfSouthConnxStarted
  else current

/-- The mode member of the transport layer. -/
def importMode (transportLayer : Json) (current : Mode) : Mode :=
  match (transportLayer.member? "mode").bind Json.asString with
  | some modeValue => modeOf modeValue current
  | none => current

/-- The local address, if the transport layer has a valid one. -/
def srvIp (transportLayer : Json) : Option String :=
  ((transportLayer.member? "srv_ip").bind Json.asString).filter
    isValidIPAddress

/-- `IEC104Config::importTransportLayer`. -/
def importTransportLayer (config : IEC104Config) (transportLayer : Json) :
    IEC104Config :=
  let grouped :=
    match (transportLayer.member? "redundancy_groups").bind Json.asArray with
    | some redundancyGroups =>
        importRedundancyGroups config redundancyGroups
    | none => config
  { grouped with
    mode := importMode transportLayer config.mode
    tcpPort :=
      importInt transportLayer "port" (isBetween 1 65535) config.tcpPort
    k := importInt transportLayer "k_value" (isBetween 1 32767) config.k
    w := importInt transportLayer "w_value" (isBetween 1 32767) config.w
    t0 := importInt transportLayer "t0_timeout" (isBetween 1 255) config.t0
    t1 := importInt transportLayer "t1_timeout" (isBetween 1 255) config.t1
    t2 := importInt transportLayer "t2_timeout" (isBetween 1 255) config.t2
    t3 :=
      importInt transportLayer "t3_timeout" (fun value => -1 < value)
        config.t3
    useTls := importBool transportLayer "tls" config.useTls
    ip := (srvIp transportLayer).getD config.ip
    bindOnIp := (srvIp transportLayer).isSome || config.bindOnIp }

/-! ## The application layer -/

/-- One turn of the loop over `filter_list`. -/
def importFilter (config : IEC104Config) (filter : Json) : IEC104Config :=
  if filter.isObject then
    match (filter.member? "orig_addr").bind Json.asInt with
    | some oaValue =>
        if isBetween 0 255 oaValue then
          { config with
            allowedOriginators :=
              config.allowedOriginators.insert oaValue oaValue
            filterOriginators := true }
        else
          config
    | none => config
  else
    config

/-- The range of `asdu_size`: 0, or 11 to 253. -/
def isAsduSize (asduSize : Int) : Bool :=
  asduSize == 0 || isBetween 11 253 asduSize

/-- `IEC104Config::importApplicationLayer`. -/
def importApplicationLayer (config : IEC104Config)
    (applicationLayer : Json) : IEC104Config :=
  let filtered :=
    match (applicationLayer.member? "filter_list").bind Json.asArray with
    | some filters => filters.foldl importFilter config
    | none => config
  { filtered with
    caSize :=
      importInt applicationLayer "ca_asdu_size" (isBetween 1 2)
        config.caSize
    ioaSize :=
      importInt applicationLayer "ioaddr_size" (isBetween 1 3)
        config.ioaSize
    asduSize :=
      importInt applicationLayer "asdu_size" isAsduSize config.asduSize
    timeSync := importBool applicationLayer "time_sync" config.timeSync
    asduQueueSize :=
      importInt applicationLayer "asdu_queue_size" (fun value => 0 < value)
        config.asduQueueSize
    allowedCommands :=
      importInt applicationLayer "accept_cmd_with_time" (isBetween 0 2)
        config.allowedCommands
    cmdRecvTimeout :=
      importInt applicationLayer "cmd_recv_timeout" (fun value => 0 ≤ value)
        config.cmdRecvTimeout
    cmdExecTimeout :=
      importInt applicationLayer "cmd_exec_timeout" (fun value => 0 ≤ value)
        config.cmdExecTimeout
    cmdDest :=
      ((applicationLayer.member? "cmd_dest").bind Json.asString).getD
        config.cmdDest }

/-! ## The document -/

/-- The monitored south plugin of one element of `south_monitoring`. -/
def southPluginMonitor (southMonInst : Json) : Option SouthPluginMonitor :=
  if southMonInst.isObject then
    ((southMonInst.member? "asset").bind Json.asString).map
      fun assetName => { assetName := assetName }
  else
    none

/-- The `south_monitoring` part of `importProtocolConfig`. -/
def importSouthMonitoring (config : IEC104Config) (protocolStack : Json) :
    IEC104Config :=
  match (protocolStack.member? "south_monitoring").bind Json.asArray with
  | some southMonitoring =>
      { config with
        monitoredSouthPlugins :=
          config.monitoredSouthPlugins ++
            southMonitoring.filterMap southPluginMonitor }
  | none => config

/-- A member that is an object. -/
def objectMember (value : Json) (name : String) : Option Json :=
  (value.member? name).filter Json.isObject

/--
`IEC104Config::importProtocolConfig`; there is no document when the text cannot
be parsed.
-/
def importProtocolConfig (config : IEC104Config)
    (document : Option Json) : IEC104Config :=
  match document.bind fun root => objectMember root "protocol_stack" with
  | none => config
  | some protocolStack =>
      match
          objectMember protocolStack "transport_layer",
          objectMember protocolStack "application_layer" with
      | some transportLayer, some applicationLayer =>
          importSouthMonitoring
            (importApplicationLayer
              (importTransportLayer config transportLayer)
              applicationLayer)
            protocolStack
      | _, _ => config

/-! ## Ranges -/

/--
The numbers of the configuration are in their ranges; a `tcpPort` of -1 is the
default port.
-/
structure InRange (config : IEC104Config) : Prop where
  tcpPort : config.tcpPort = -1 ∨ isBetween 1 65535 config.tcpPort = true
  k : isBetween 1 32767 config.k = true
  w : isBetween 1 32767 config.w = true
  t0 : isBetween 1 255 config.t0 = true
  t1 : isBetween 1 255 config.t1 = true
  t2 : isBetween 1 255 config.t2 = true
  t3 : 0 ≤ config.t3
  caSize : isBetween 1 2 config.caSize = true
  ioaSize : isBetween 1 3 config.ioaSize = true
  asduSize : isAsduSize config.asduSize = true
  asduQueueSize : 0 < config.asduQueueSize
  allowedCommands : isBetween 0 2 config.allowedCommands = true
  cmdRecvTimeout : 0 ≤ config.cmdRecvTimeout
  cmdExecTimeout : 0 ≤ config.cmdExecTimeout

/-- The defaults are in their ranges. -/
theorem InRange.default : InRange {} := by
  constructor <;> decide

/-- A property of the value there was and of all accepted ones is kept. -/
theorem importInt_keeps {property : Int → Prop} {inRange : Int → Bool}
    {current : Int} (kept : property current)
    (accepts : ∀ value, inRange value = true → property value)
    (layer : Json) (name : String) :
    property (importInt layer name inRange current) := by
  rcases importInt_cases layer name inRange current with same | accepted
  · rw [same]
    exact kept
  · exact accepts _ accepted.1

theorem importTransportLayer_inRange {config : IEC104Config}
    (before : InRange config) (transportLayer : Json) :
    InRange (importTransportLayer config transportLayer) := by
  have grouped :
      InRange
        (match
            (transportLayer.member? "redundancy_groups").bind Json.asArray with
        | some redundancyGroups =>
            importRedundancyGroups config redundancyGroups
        | none => config) := by
    split
    · exact { before with }
    · exact before
  have tcpPort :
      importInt transportLayer "port" (isBetween 1 65535) config.tcpPort =
          -1 ∨
        isBetween 1 65535
            (importInt transportLayer "port" (isBetween 1 65535)
              config.tcpPort) =
          true := by
    rcases
        importInt_cases transportLayer "port" (isBetween 1 65535)
          config.tcpPort with
      same | accepted
    · rw [same]
      exact before.tcpPort
    · exact Or.inr accepted.1
  exact
    { grouped with
      tcpPort := tcpPort
      k := importInt_keeps before.k (fun _ => id) transportLayer "k_value"
      w := importInt_keeps before.w (fun _ => id) transportLayer "w_value"
      t0 :=
        importInt_keeps before.t0 (fun _ => id) transportLayer "t0_timeout"
      t1 :=
        importInt_keeps before.t1 (fun _ => id) transportLayer "t1_timeout"
      t2 :=
        importInt_keeps before.t2 (fun _ => id) transportLayer "t2_timeout"
      t3 :=
        importInt_keeps before.t3
          (fun value accepted => by
            have above : -1 < value := by simpa using accepted
            omega)
          transportLayer "t3_timeout" }

theorem importFilter_inRange {config : IEC104Config}
    (before : InRange config) (filter : Json) :
    InRange (importFilter config filter) := by
  simp only [importFilter]
  split
  · split
    · split
      · exact { before with }
      · exact before
    · exact before
  · exact before

theorem importApplicationLayer_inRange {config : IEC104Config}
    (before : InRange config) (applicationLayer : Json) :
    InRange (importApplicationLayer config applicationLayer) := by
  have filtered :
      ∀ filters : List Json, InRange (filters.foldl importFilter config) :=
    fun filters =>
      filters.foldlRecOn importFilter before
        fun _ kept filter _ => importFilter_inRange kept filter
  have started :
      InRange
        (match
            (applicationLayer.member? "filter_list").bind Json.asArray with
        | some filters => filters.foldl importFilter config
        | none => config) := by
    split
    · exact filtered _
    · exact before
  exact
    { started with
      caSize :=
        importInt_keeps before.caSize (fun _ => id) applicationLayer
          "ca_asdu_size"
      ioaSize :=
        importInt_keeps before.ioaSize (fun _ => id) applicationLayer
          "ioaddr_size"
      asduSize :=
        importInt_keeps before.asduSize (fun _ => id) applicationLayer
          "asdu_size"
      asduQueueSize :=
        importInt_keeps before.asduQueueSize (by simp) applicationLayer
          "asdu_queue_size"
      allowedCommands :=
        importInt_keeps before.allowedCommands (fun _ => id) applicationLayer
          "accept_cmd_with_time"
      cmdRecvTimeout :=
        importInt_keeps before.cmdRecvTimeout (by simp) applicationLayer
          "cmd_recv_timeout"
      cmdExecTimeout :=
        importInt_keeps before.cmdExecTimeout (by simp) applicationLayer
          "cmd_exec_timeout" }

/-- Whatever the document, the configuration stays within its ranges. -/
theorem importProtocolConfig_inRange {config : IEC104Config}
    (before : InRange config) (document : Option Json) :
    InRange (importProtocolConfig config document) := by
  simp only [importProtocolConfig]
  split
  · exact before
  · split
    · rename_i protocolStack _ transportLayer applicationLayer _ _
      have layers :=
        importApplicationLayer_inRange
          (importTransportLayer_inRange before transportLayer)
          applicationLayer
      simp only [importSouthMonitoring]
      split
      · exact { layers with }
      · exact layers
    · exact before

end Iec104North.ImportProtocol
