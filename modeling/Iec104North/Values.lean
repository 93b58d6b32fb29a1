import Iec104North.AsduTypes
import Iec104North.Library.Float

/-!
# Values exchanged with lib60870 and Fledge

ASDUs, information objects and time stamps on the side of the masters, readings
and their attributes on the south side.  `Platform` collects what the plugin
takes from code outside the repository.
-/

namespace Iec104North.Values

open Iec104North.Library

/-- An `IMasterConnection`, by its address. -/
abbrev Connection := Nat

/-- The fields of a `struct sCP56Time2a`. -/
structure CP56Time2a where
  millisecond : BitVec 16
  minute : BitVec 6
  substituted : Bool
  invalid : Bool
  hour : BitVec 5
  summerTime : Bool
  dayOfMonth : BitVec 5
  dayOfWeek : BitVec 3
  month : BitVec 4
  year : BitVec 7
deriving DecidableEq, Repr

/-! ## Causes of transmission and quality flags -/

/-- `CS101_CauseOfTransmission`; the plugin casts any integer to it. -/
abbrev CauseOfTransmission := Int

namespace Cot

abbrev periodic : CauseOfTransmission := 1
abbrev backgroundScan : CauseOfTransmission := 2
abbrev spontaneous : CauseOfTransmission := 3
abbrev activation : CauseOfTransmission := 6
abbrev activationCon : CauseOfTransmission := 7
abbrev activationTermination : CauseOfTransmission := 10
abbrev returnInfoRemote : CauseOfTransmission := 11
abbrev returnInfoLocal : CauseOfTransmission := 12
abbrev interrogatedByStation : CauseOfTransmission := 20
abbrev unknownTypeId : CauseOfTransmission := 44
abbrev unknownCot : CauseOfTransmission := 45
abbrev unknownCa : CauseOfTransmission := 46
abbrev unknownIoa : CauseOfTransmission := 47

end Cot

/-- `QualityDescriptor`. -/
abbrev Quality := BitVec 8

namespace Quality

abbrev good : Quality := 0x00
abbrev overflow : Quality := 0x01
abbrev blocked : Quality := 0x10
abbrev substituted : Quality := 0x20
abbrev nonTopical : Quality := 0x40
abbrev invalid : Quality := 0x80

end Quality

/-! ## Command ASDUs -/

/--
The information object of a command ASDU.  `qualifier` is the SCO, DCO, RCO or
QOS octet; a setpoint command has `setpoint` or `scaled` as its value, and the
commands with time tag have `timestamp`.
-/
structure CommandObject where
  objectAddress : Int
  qualifier : BitVec 8
  setpoint : Single
  scaled : Int
  timestamp : CP56Time2a
deriving DecidableEq, Repr

/-- `SingleCommand_getState`. -/
def CommandObject.singleState (command : CommandObject) : Bool :=
  command.qualifier.getLsbD 0

/-- `DoubleCommand_getState` and `StepCommand_getState`. -/
def CommandObject.state (command : CommandObject) : Nat :=
  (command.qualifier.extractLsb' 0 2).toNat

/-- The S/E bit of the qualifier. -/
def CommandObject.isSelect (command : CommandObject) : Bool :=
  command.qualifier.getLsbD 7

/-- A `CS101_ASDU` received from a master, with the objects it decodes to. -/
structure Asdu where
  typeId : Int
  cot : CauseOfTransmission
  isTest : Bool
  isNegative : Bool
  oa : Int
  ca : Int
  elements : List CommandObject
deriving DecidableEq, Repr

/-- `CS101_ASDU_setCOT` and `CS101_ASDU_setNegative(asdu, true)`. -/
def Asdu.reject (asdu : Asdu) (cot : CauseOfTransmission) : Asdu :=
  { asdu with cot := cot, isNegative := true }

/-! ## Monitoring ASDUs -/

/--
The value of a monitoring point: the member of the union `m_value` which
belongs to the data type of the point, without its quality.
-/
inductive PointValue where
  | sp (value : BitVec 1)
  | dp (value : BitVec 2)
  | stepPos (posValue : BitVec 7) (transient : BitVec 1)
  | normalized (value : Single)
  | scaled (value : BitVec 16)
  | short (value : Single)
deriving DecidableEq, Repr

open Iec104North.AsduTypes

/-- The data type whose union member is in use. -/
def PointValue.dataType : PointValue → DataType
  | .sp _ => .sp
  | .dp _ => .dp
  | .stepPos _ _ => .stepPos
  | .normalized _ => .normalized
  | .scaled _ => .scaled
  | .short _ => .short

/-- An information object with a monitoring value. -/
structure MonitoringObject where
  objectAddress : Int
  value : PointValue
  quality : Quality
  timestamp : Option CP56Time2a
deriving DecidableEq, Repr

/-- The type identification of a monitoring object. -/
def MonitoringObject.typeId (object : MonitoringObject) : TypeId :=
  match object.value.dataType, object.timestamp with
  | .sp, none => .M_SP_NA_1
  | .sp, some _ => .M_SP_TB_1
  | .dp, none => .M_DP_NA_1
  | .dp, some _ => .M_DP_TB_1
  | .stepPos, none => .M_ST_NA_1
  | .stepPos, some _ => .M_ST_TB_1
  | .normalized, none => .M_ME_NA_1
  | .normalized, some _ => .M_ME_TD_1
  | .scaled, none => .M_ME_NB_1
  | .scaled, some _ => .M_ME_TE_1
  | .short, none => .M_ME_NC_1
  | .short, some _ => .M_ME_TF_1

/-- `CS101_AppLayerParameters`, the fields `setJsonConfig` writes. -/
structure AppLayerParameters where
  sizeOfCA : Int
  sizeOfIOA : Int
  maxSizeOfASDU : Int
deriving DecidableEq, Repr

/-- A `CS101_ASDU` with monitoring information. -/
structure DataAsdu where
  cot : CauseOfTransmission
  oa : Int
  ca : Int
  objects : List MonitoringObject
deriving DecidableEq, Repr

/-! ## Readings -/

/-- The Fledge `DatapointValue` of an attribute. -/
inductive DatapointValue where
  | integer (value : Int)
  | float (value : Double)
  | string (value : String)
  | other
deriving DecidableEq, Repr

/-- A `Datapoint` inside a `data_object` or `south_event`. -/
structure Attribute where
  name : String
  value : DatapointValue
deriving DecidableEq, Repr

/-- A `Datapoint` of a reading, with the vector of its attributes. -/
structure Datapoint where
  name : String
  attributes : List Attribute
deriving DecidableEq, Repr

/-- A Fledge `Reading`. -/
structure Reading where
  assetName : String
  datapoints : List Datapoint
deriving DecidableEq, Repr

/-! ## The platform -/

/--
The code outside the repository.  `toInt` and `toStringValue` are accessors of
Fledge's `DatapointValue`, which give a number and a string back and whose
result on a value of another type is not specified; the time conversions and
`objectFits` (there is room for one more object in an ASDU with the given
objects) are lib60870's.
-/
structure Platform where
  toInt : DatapointValue → Int
  toInt_integer : ∀ value, toInt (.integer value) = value
  toStringValue : DatapointValue → String
  toStringValue_string : ∀ value, toStringValue (.string value) = value
  toMsTimestamp : CP56Time2a → Nat
  createFromMsTimestamp : Nat → CP56Time2a
  objectFits :
    AppLayerParameters → List MonitoringObject → MonitoringObject → Bool

/--
`CS101_ASDU_addInformationObject`: it succeeds when the ASDU is empty, or has
objects of the same type and fewer than 127 of them, and there is room for the
object.
-/
def addInformationObject (platform : Platform)
    (parameters : AppLayerParameters) (asdu : DataAsdu)
    (object : MonitoringObject) : Option DataAsdu :=
  let sameType :=
    match asdu.objects.head? with
    | none => true
    | some first =>
        first.typeId == object.typeId && asdu.objects.length < 127
  if sameType && platform.objectFits parameters asdu.objects object then
    some { asdu with objects := asdu.objects ++ [object] }
  else
    none

/-- The octets of a monitoring object after its address. -/
def MonitoringObject.elementSize (object : MonitoringObject) : Int :=
  let valueSize :=
    match object.value.dataType with
    | .sp => 1
    | .dp => 1
    | .stepPos => 2
    | .normalized => 3
    | .scaled => 3
    | .short => 5
  if object.timestamp.isSome then valueSize + 7 else valueSize

/--
A platform to run the model on: an object fits while the ASDU, with its header
of four octets and the CA, stays within its maximal size.  Time stamps are not
converted.
-/
def samplePlatform : Platform where
  toInt
    | .integer value => value
    | _ => 0
  toInt_integer := by simp
  toStringValue
    | .string value => value
    | _ => ""
  toStringValue_string := by simp
  toMsTimestamp _ := 0
  createFromMsTimestamp _ :=
    ⟨0, 0, false, false, 0, false, 1, 0, 1, 0⟩
  objectFits parameters objects object :=
    (object :: objects).foldl
        (fun size one => size + parameters.sizeOfIOA + one.elementSize)
        (4 + parameters.sizeOfCA) ≤
      parameters.maxSizeOfASDU

end Iec104North.Values
