import Iec104North.OutstandingCommands

/-!
# Readings from the south side

`IEC104Server::send`: south events update the monitored south plugins, data
objects carry feedback of commands or update a point and are enqueued.  An
exception that leaves `send` ends the batch; it is thrown before the data
object has changed anything.
-/

namespace Iec104North.Readings

open Iec104North.AsduTypes
open Iec104North.Library
open Iec104North.Values
open Iec104North.Config
open Iec104North.DataPoints
open Iec104North.Server
open Iec104North.OutstandingCommands

/-! ## South events -/

/-- The connection status a `connx_status` attribute stands for. -/
def connxStatusOf (connxStatusValue : String) : ConnectionStatus :=
  if connxStatusValue == "not connected" then .notConnected
  else if connxStatusValue == "started" then .started
  else .notConnected

/-- The GI status a `gi_status` attribute stands for. -/
def giStatusOf (giStatusValue : String) : GiStatus :=
  if giStatusValue == "started" then .started
  else if giStatusValue == "in progress" then .inProgress
  else if giStatusValue == "failed" then .failed
  else if giStatusValue == "finished" then .finished
  else .idle

/-- One turn of the loop in `updateSouthMonitoringInstance`. -/
def updateSouthMonitor (platform : Platform)
    (southPluginMonitor : SouthPluginMonitor) (objDp : Attribute) :
    SouthPluginMonitor :=
  if objDp.name == "connx_status" then
    { southPluginMonitor with
      connxStatus := connxStatusOf (platform.toStringValue objDp.value) }
  else if objDp.name == "gi_status" then
    { southPluginMonitor with
      giStatus := giStatusOf (platform.toStringValue objDp.value) }
  else
    southPluginMonitor

/-- `IEC104Server::updateSouthMonitoringInstance`. -/
def updateSouthMonitoringInstance (platform : Platform) (dp : Datapoint)
    (southPluginMonitor : SouthPluginMonitor) : SouthPluginMonitor :=
  dp.attributes.foldl (updateSouthMonitor platform) southPluginMonitor

/-- The `south_event` branch of `send`: the first monitor of the asset. -/
def handleSouthEvent (platform : Platform) (server : IEC104Server)
    (assetName : String) (dp : Datapoint) : IEC104Server :=
  { server with
    config :=
      { server.config with
        monitoredSouthPlugins :=
          alterFirst (fun monitor => assetName == monitor.assetName)
            (fun monitor =>
              some (updateSouthMonitoringInstance platform dp monitor))
            server.config.monitoredSouthPlugins } }

/-! ## Attributes of a data object -/

/-- The local variables of `send` for one data object. -/
structure DataObject where
  ca : Int := -1
  ioa : Int := -1
  cot : CauseOfTransmission := Cot.unknownCot
  type : Int := -1
  hasTimestamp : Bool := false
  timestamp : Nat := 0
  tsIv : Bool := false
  tsSu : Bool := false
  tsSub : Bool := false
  isNegative : Bool := false
  value : Option DatapointValue := none
  qd : Quality := Quality.good
deriving DecidableEq, Repr

/-- Set the bits of `mask` when the attribute is not 0. -/
def raiseQuality (platform : Platform) (object : DataObject)
    (mask : Quality) (attrVal : DatapointValue) : DataObject :=
  if platform.toInt attrVal ≠ 0 then
    { object with qd := object.qd ||| mask }
  else
    object

/-- One turn of the attribute loop of `send`. -/
def readAttribute (platform : Platform) (object : DataObject)
    (objDp : Attribute) : DataObject :=
  let attrVal := objDp.value
  match objDp.name with
  | "do_ca" => { object with ca := toInt32 (platform.toInt attrVal) }
  | "do_ioa" => { object with ioa := toInt32 (platform.toInt attrVal) }
  | "do_cot" => { object with cot := toInt32 (platform.toInt attrVal) }
  | "do_type" =>
      { object with
        type := getTypeIdFromString (platform.toStringValue attrVal) }
  | "do_value" => { object with value := some attrVal }
  | "do_negative" =>
      if platform.toInt attrVal ≠ 0 then
        { object with isNegative := true }
      else
        object
  | "do_quality_iv" => raiseQuality platform object Quality.invalid attrVal
  | "do_quality_bl" => raiseQuality platform object Quality.blocked attrVal
  | "do_quality_ov" => raiseQuality platform object Quality.overflow attrVal
  | "do_quality_sb" =>
      raiseQuality platform object Quality.substituted attrVal
  | "do_quality_nt" =>
      raiseQuality platform object Quality.nonTopical attrVal
  | "do_ts" =>
      { object with
        timestamp := toUInt64 (platform.toInt attrVal), hasTimestamp := true }
  | "do_ts_iv" =>
      if platform.toInt attrVal ≠ 0 then { object with tsIv := true }
      else object
  | "do_ts_su" =>
      if platform.toInt attrVal ≠ 0 then { object with tsSu := true }
      else object
  | "do_ts_sub" =>
      if platform.toInt attrVal ≠ 0 then { object with tsSub := true }
      else object
  | _ => object

/-- The attribute loop of `send`. -/
def readDataObject (platform : Platform) (dp : Datapoint) : DataObject :=
  dp.attributes.foldl (readAttribute platform) {}

/-- The time stamp `send` hands to `m_updateDataPoint`. -/
def DataObject.ts (platform : Platform) (object : DataObject) :
    Option CP56Time2a :=
  if object.hasTimestamp then
    some
      { platform.createFromMsTimestamp object.timestamp with
        invalid := object.tsIv
        summerTime := object.tsSu
        substituted := object.tsSub }
  else
    none

/-! ## Updating a point -/

/-- `IEC104Server::m_getDataPoint`; the read of the table may insert keys. -/
def getDataPoint (server : IEC104Server) (ca ioa typeId : Int) :
    IEC104Server × Option DataPoint :=
  let dp := server.exchangeDefinitions.lookup ca ioa
  ({ server with
      exchangeDefinitions := server.exchangeDefinitions.access ca ioa },
    dp.filter fun point => isMessageTypeMatching point.type typeId)

/--
The value of a step position from a string `[n,b]`: first and last character
are cut off, `n` ends at the first comma.
-/
def stepPositionValue (posValue : BitVec 7) (transient : BitVec 1)
    (str : List Char) : Except CxxException PointValue :=
  match substr str 1 (toUInt64 (str.length - 2)) with
  | .error exception => .error exception
  | .ok cleaned =>
      if ',' ∈ cleaned then
        let numStr := cleaned.takeWhile (· != ',')
        let boolStr := (cleaned.dropWhile (· != ',')).drop 1
        match stoi numStr with
        | .error exception => .error exception
        | .ok wtrVal =>
            .ok
              (.stepPos (BitVec.ofInt 7 wtrVal)
                (BitVec.ofBool (boolStr == "true".toList)))
      else
        .ok (.stepPos posValue transient)

/--
The value half of a branch of `m_updateDataPoint`: a `do_value` of the type the
union member takes is narrowed to the width of its field.
-/
def assignValue (value : PointValue) (newValue : Option DatapointValue) :
    Except CxxException PointValue :=
  match value, newValue with
  | .sp _, some (.integer number) => .ok (.sp (BitVec.ofInt 1 number))
  | .dp _, some (.integer number) => .ok (.dp (BitVec.ofInt 2 number))
  | .stepPos posValue transient, some (.string str) =>
      stepPositionValue posValue transient str.toList
  | .normalized _, some (.float number) =>
      .ok (.normalized (toFloat number))
  | .scaled _, some (.integer number) =>
      .ok (.scaled (BitVec.ofInt 16 number))
  | .short _, some (.float number) => .ok (.short (toFloat number))
  | _, _ => .ok value

/--
The case labels of `m_updateDataPoint`: the union member a message type writes,
and whether it sets the time stamp.
-/
def updatedMember (typeId : Int) : Option (DataType × Bool) :=
  match TypeId.ofInt? typeId with
  | some .M_SP_NA_1 => some (.sp, false)
  | some .M_SP_TB_1 => some (.sp, true)
  | some .M_DP_NA_1 => some (.dp, false)
  | some .M_DP_TB_1 => some (.dp, true)
  | some .M_ST_NA_1 => some (.stepPos, false)
  | some .M_ST_TB_1 => some (.stepPos, true)
  | some .M_ME_NA_1 => some (.normalized, false)
  | some .M_ME_TD_1 => some (.normalized, true)
  | some .M_ME_NB_1 => some (.scaled, false)
  | some .M_ME_TE_1 => some (.scaled, true)
  | some .M_ME_NC_1 => some (.short, false)
  | some .M_ME_TF_1 => some (.short, true)
  | _ => none

/--
`IEC104Server::m_updateDataPoint`.  `send` calls it with a message type that
matches the point, so that the member written is the one in use.
-/
def updateDataPoint (platform : Platform) (dp : DataPoint) (typeId : Int)
    (value : Option DatapointValue) (ts : Option CP56Time2a)
    (quality : Quality) (now : Nat) : Except CxxException DataPoint :=
  match updatedMember typeId with
  | some (member, timed) =>
      if member = dp.type then
        match assignValue dp.value value with
        | .error exception => .error exception
        | .ok assigned =>
            .ok
              { dp with
                value := assigned
                quality := quality
                ts :=
                  if timed then
                    some (ts.getD (platform.createFromMsTimestamp now))
                  else
                    dp.ts }
      else
        .ok dp
  | none => .ok dp

/-! ## Enqueuing a point -/

/-- The switch of `m_enqueueSpontDatapoint`. -/
def spontaneousObject (dp : DataPoint) (typeId : Int) :
    Option MonitoringObject :=
  match TypeId.ofInt? typeId with
  | some .M_SP_NA_1 | some .M_DP_NA_1 | some .M_ST_NA_1
  | some .M_ME_NA_1 | some .M_ME_NB_1 | some .M_ME_NC_1 =>
      some ⟨dp.ioa, dp.value, dp.quality, none⟩
  | some .M_SP_TB_1 | some .M_DP_TB_1 | some .M_ST_TB_1
  | some .M_ME_TD_1 | some .M_ME_TE_1 | some .M_ME_TF_1 =>
      some ⟨dp.ioa, dp.value, dp.quality, dp.ts⟩
  | _ => none

/--
`IEC104Server::m_enqueueSpontDatapoint`; the result of adding the object is not
looked at.
-/
def enqueueSpontDatapoint (platform : Platform) (server : IEC104Server)
    (dp : DataPoint) (cot : CauseOfTransmission) (typeId : Int) :
    List Effect :=
  let asdu : DataAsdu := { cot := cot, oa := 0, ca := dp.ca, objects := [] }
  match spontaneousObject dp typeId with
  | none => []
  | some io =>
      [.enqueueAsdu
        ((addInformationObject platform server.config.appLayerParameters
          asdu io).getD asdu)]

/-- The causes of transmission with which `send` enqueues a point. -/
def isSpontaneousCot (cot : CauseOfTransmission) : Bool :=
  cot == Cot.periodic || cot == Cot.spontaneous ||
    cot == Cot.returnInfoRemote || cot == Cot.returnInfoLocal ||
    cot == Cot.backgroundScan

/-! ## The dispatch of `send` -/

/-- What `send` does with the attributes of a data object. -/
def handleDataObject (platform : Platform) (server : IEC104Server)
    (object : DataObject) (now : Nat) :
    Except CxxException (IEC104Server × List Effect) :=
  if object.cot == Cot.activationCon then
    .ok
      (handleActCon server object.type object.ca object.ioa
        object.isNegative)
  else if object.cot == Cot.activationTermination then
    .ok
      (handleActTerm server object.type object.ca object.ioa
        object.isNegative)
  else if object.ca != -1 && object.ioa != -1 &&
      object.cot != Cot.unknownCot && object.type != -1 then
    match getDataPoint server object.ca object.ioa object.type with
    | (found, none) => .ok (found, [])
    | (found, some dp) =>
        match
            updateDataPoint platform dp object.type object.value
              (object.ts platform) object.qd now with
        | .error exception => .error exception
        | .ok updated =>
            .ok
              ({ found with
                  exchangeDefinitions :=
                    found.exchangeDefinitions.store updated },
                if isSpontaneousCot object.cot then
                  enqueueSpontDatapoint platform found updated object.cot
                    object.type
                else
                  [])
  else
    .ok (server, [])

/-- One turn of the loop of `send` over the data points of a reading. -/
def sendDatapoint (platform : Platform) (server : IEC104Server)
    (assetName : String) (dp : Datapoint) (now : Nat) :
    Except CxxException (IEC104Server × List Effect) :=
  if dp.name == "south_event" then
    .ok (handleSouthEvent platform server assetName dp, [])
  else if dp.name == "data_object" then
    if server.slaveRunning then
      handleDataObject platform server (readDataObject platform dp) now
    else
      .ok (server, [])
  else
    .ok (server, [])

/-- The data points of a batch, each with its asset, in order. -/
def batch (readings : List Reading) : List (String × Datapoint) :=
  readings.flatMap fun reading =>
    reading.datapoints.map fun dp => (reading.assetName, dp)

/--
The loops of `send` over a numbered batch; `clock` gives the time at which each
data point is processed.
-/
def sendBatch (platform : Platform) (clock : Nat → Nat)
    (server : IEC104Server) :
    List ((String × Datapoint) × Nat) →
      IEC104Server × List Effect × Option CxxException
  | [] => (server, [], none)
  | ((assetName, dp), index) :: rest =>
      match sendDatapoint platform server assetName dp (clock index) with
      | .error exception => (server, [], some exception)
      | .ok (processed, effects) =>
          let remaining := sendBatch platform clock processed rest
          (remaining.1, effects ++ remaining.2.1, remaining.2.2)

/-- `IEC104Server::send`: the number of readings, or the exception thrown. -/
def send (platform : Platform) (clock : Nat → Nat) (server : IEC104Server)
    (readings : List Reading) :
    IEC104Server × List Effect × Except CxxException Nat :=
  let sent := sendBatch platform clock server (batch readings).zipIdx
  (sent.1, sent.2.1,
    match sent.2.2 with
    | none => .ok readings.length
    | some exception => .error exception)

end Iec104North.Readings
