import Mathlib.Data.List.Basic

/-!
# Type identifications and data types

The tables of `iec104_datapoint.cpp`: names and numbers of the ASDU types, the
supported command and monitoring types, and the data type behind each of them.
The plugin keeps a type identification in an `int`; each of its switch
statements is a match on the enumerator with that number.
-/

namespace Iec104North.AsduTypes

/-- `IEC60870_5_TypeID`, as far as `mapAsduTypeId` names it. -/
inductive TypeId where
  | M_SP_TA_1 | M_SP_NA_1 | M_DP_NA_1 | M_DP_TA_1 | M_ST_NA_1 | M_ST_TA_1
  | M_BO_NA_1 | M_BO_TA_1 | M_ME_NA_1 | M_ME_TA_1 | M_ME_NB_1 | M_ME_TB_1
  | M_ME_NC_1 | M_ME_TC_1 | M_IT_NA_1 | M_IT_TA_1 | M_EP_TA_1 | M_EP_TB_1
  | M_EP_TC_1 | M_PS_NA_1 | M_ME_ND_1 | M_SP_TB_1 | M_DP_TB_1 | M_ST_TB_1
  | M_BO_TB_1 | M_ME_TD_1 | M_ME_TE_1 | M_ME_TF_1 | M_IT_TB_1 | M_EP_TD_1
  | M_EP_TE_1 | M_EP_TF_1 | S_IT_TC_1 | C_SC_NA_1 | C_DC_NA_1 | C_RC_NA_1
  | C_SE_NA_1 | C_SE_NB_1 | C_SE_NC_1 | C_BO_NA_1 | C_SC_TA_1 | C_DC_TA_1
  | C_RC_TA_1 | C_SE_TA_1 | C_SE_TB_1 | C_SE_TC_1 | C_BO_TA_1 | M_EI_NA_1
  | S_CH_NA_1 | S_RP_NA_1 | S_AR_NA_1 | S_KR_NA_1 | S_KS_NA_1 | S_KC_NA_1
  | S_ER_NA_1 | S_US_NA_1 | S_UQ_NA_1 | S_UR_NA_1 | S_UK_NA_1 | S_UA_NA_1
  | S_UC_NA_1 | C_IC_NA_1 | C_CI_NA_1 | C_RD_NA_1 | C_CS_NA_1 | C_TS_NA_1
  | C_RP_NA_1 | C_CD_NA_1 | C_TS_TA_1 | P_ME_NA_1 | P_ME_NB_1 | P_ME_NC_1
  | P_AC_NA_1 | F_FR_NA_1 | F_SR_NA_1 | F_SC_NA_1 | F_LS_NA_1 | F_AF_NA_1
  | F_SG_NA_1 | F_DR_TA_1 | F_SC_NB_1
deriving DecidableEq, Repr

/-- The number of an ASDU type in the type identification octet. -/
def TypeId.value : TypeId → Int
  | .M_SP_TA_1 => 2
  | .M_SP_NA_1 => 1
  | .M_DP_NA_1 => 3
  | .M_DP_TA_1 => 4
  | .M_ST_NA_1 => 5
  | .M_ST_TA_1 => 6
  | .M_BO_NA_1 => 7
  | .M_BO_TA_1 => 8
  | .M_ME_NA_1 => 9
  | .M_ME_TA_1 => 10
  | .M_ME_NB_1 => 11
  | .M_ME_TB_1 => 12
  | .M_ME_NC_1 => 13
  | .M_ME_TC_1 => 14
  | .M_IT_NA_1 => 15
  | .M_IT_TA_1 => 16
  | .M_EP_TA_1 => 17
  | .M_EP_TB_1 => 18
  | .M_EP_TC_1 => 19
  | .M_PS_NA_1 => 20
  | .M_ME_ND_1 => 21
  | .M_SP_TB_1 => 30
  | .M_DP_TB_1 => 31
  | .M_ST_TB_1 => 32
  | .M_BO_TB_1 => 33
  | .M_ME_TD_1 => 34
  | .M_ME_TE_1 => 35
  | .M_ME_TF_1 => 36
  | .M_IT_TB_1 => 37
  | .M_EP_TD_1 => 38
  | .M_EP_TE_1 => 39
  | .M_EP_TF_1 => 40
  | .S_IT_TC_1 => 41
  | .C_SC_NA_1 => 45
  | .C_DC_NA_1 => 46
  | .C_RC_NA_1 => 47
  | .C_SE_NA_1 => 48
  | .C_SE_NB_1 => 49
  | .C_SE_NC_1 => 50
  | .C_BO_NA_1 => 51
  | .C_SC_TA_1 => 58
  | .C_DC_TA_1 => 59
  | .C_RC_TA_1 => 60
  | .C_SE_TA_1 => 61
  | .C_SE_TB_1 => 62
  | .C_SE_TC_1 => 63
  | .C_BO_TA_1 => 64
  | .M_EI_NA_1 => 70
  | .S_CH_NA_1 => 81
  | .S_RP_NA_1 => 82
  | .S_AR_NA_1 => 83
  | .S_KR_NA_1 => 84
  | .S_KS_NA_1 => 85
  | .S_KC_NA_1 => 86
  | .S_ER_NA_1 => 87
  | .S_US_NA_1 => 90
  | .S_UQ_NA_1 => 91
  | .S_UR_NA_1 => 92
  | .S_UK_NA_1 => 93
  | .S_UA_NA_1 => 94
  | .S_UC_NA_1 => 95
  | .C_IC_NA_1 => 100
  | .C_CI_NA_1 => 101
  | .C_RD_NA_1 => 102
  | .C_CS_NA_1 => 103
  | .C_TS_NA_1 => 104
  | .C_RP_NA_1 => 105
  | .C_CD_NA_1 => 106
  | .C_TS_TA_1 => 107
  | .P_ME_NA_1 => 110
  | .P_ME_NB_1 => 111
  | .P_ME_NC_1 => 112
  | .P_AC_NA_1 => 113
  | .F_FR_NA_1 => 120
  | .F_SR_NA_1 => 121
  | .F_SC_NA_1 => 122
  | .F_LS_NA_1 => 123
  | .F_AF_NA_1 => 124
  | .F_SG_NA_1 => 125
  | .F_DR_TA_1 => 126
  | .F_SC_NB_1 => 127

/-- `mapAsduTypeId`: all existing ASDU types with their names. -/
def mapAsduTypeId : List (String × TypeId) :=
  [("M_SP_TA_1", .M_SP_TA_1), ("M_SP_NA_1", .M_SP_NA_1),
   ("M_DP_NA_1", .M_DP_NA_1), ("M_DP_TA_1", .M_DP_TA_1),
   ("M_ST_NA_1", .M_ST_NA_1), ("M_ST_TA_1", .M_ST_TA_1),
   ("M_BO_NA_1", .M_BO_NA_1), ("M_BO_TA_1", .M_BO_TA_1),
   ("M_ME_NA_1", .M_ME_NA_1), ("M_ME_TA_1", .M_ME_TA_1),
   ("M_ME_NB_1", .M_ME_NB_1), ("M_ME_TB_1", .M_ME_TB_1),
   ("M_ME_NC_1", .M_ME_NC_1), ("M_ME_TC_1", .M_ME_TC_1),
   ("M_IT_NA_1", .M_IT_NA_1), ("M_IT_TA_1", .M_IT_TA_1),
   ("M_EP_TA_1", .M_EP_TA_1), ("M_EP_TB_1", .M_EP_TB_1),
   ("M_EP_TC_1", .M_EP_TC_1), ("M_PS_NA_1", .M_PS_NA_1),
   ("M_ME_ND_1", .M_ME_ND_1), ("M_SP_TB_1", .M_SP_TB_1),
   ("M_DP_TB_1", .M_DP_TB_1), ("M_ST_TB_1", .M_ST_TB_1),
   ("M_BO_TB_1", .M_BO_TB_1), ("M_ME_TD_1", .M_ME_TD_1),
   ("M_ME_TE_1", .M_ME_TE_1), ("M_ME_TF_1", .M_ME_TF_1),
   ("M_IT_TB_1", .M_IT_TB_1), ("M_EP_TD_1", .M_EP_TD_1),
   ("M_EP_TE_1", .M_EP_TE_1), ("M_EP_TF_1", .M_EP_TF_1),
   ("S_IT_TC_1", .S_IT_TC_1), ("C_SC_NA_1", .C_SC_NA_1),
   ("C_DC_NA_1", .C_DC_NA_1), ("C_RC_NA_1", .C_RC_NA_1),
   ("C_SE_NA_1", .C_SE_NA_1), ("C_SE_NB_1", .C_SE_NB_1),
   ("C_SE_NC_1", .C_SE_NC_1), ("C_BO_NA_1", .C_BO_NA_1),
   ("C_SC_TA_1", .C_SC_TA_1), ("C_DC_TA_1", .C_DC_TA_1),
   ("C_RC_TA_1", .C_RC_TA_1), ("C_SE_TA_1", .C_SE_TA_1),
   ("C_SE_TB_1", .C_SE_TB_1), ("C_SE_TC_1", .C_SE_TC_1),
   ("C_BO_TA_1", .C_BO_TA_1), ("M_EI_NA_1", .M_EI_NA_1),
   ("S_CH_NA_1", .S_CH_NA_1), ("S_RP_NA_1", .S_RP_NA_1),
   ("S_AR_NA_1", .S_AR_NA_1), ("S_KR_NA_1", .S_KR_NA_1),
   ("S_KS_NA_1", .S_KS_NA_1), ("S_KC_NA_1", .S_KC_NA_1),
   ("S_ER_NA_1", .S_ER_NA_1), ("S_US_NA_1", .S_US_NA_1),
   ("S_UQ_NA_1", .S_UQ_NA_1), ("S_UR_NA_1", .S_UR_NA_1),
   ("S_UK_NA_1", .S_UK_NA_1), ("S_UA_NA_1", .S_UA_NA_1),
   ("S_UC_NA_1", .S_UC_NA_1), ("C_IC_NA_1", .C_IC_NA_1),
   ("C_CI_NA_1", .C_CI_NA_1), ("C_RD_NA_1", .C_RD_NA_1),
   ("C_CS_NA_1", .C_CS_NA_1), ("C_TS_NA_1", .C_TS_NA_1),
   ("C_RP_NA_1", .C_RP_NA_1), ("C_CD_NA_1", .C_CD_NA_1),
   ("C_TS_TA_1", .C_TS_TA_1), ("P_ME_NA_1", .P_ME_NA_1),
   ("P_ME_NB_1", .P_ME_NB_1), ("P_ME_NC_1", .P_ME_NC_1),
   ("P_AC_NA_1", .P_AC_NA_1), ("F_FR_NA_1", .F_FR_NA_1),
   ("F_SR_NA_1", .F_SR_NA_1), ("F_SC_NA_1", .F_SC_NA_1),
   ("F_LS_NA_1", .F_LS_NA_1), ("F_AF_NA_1", .F_AF_NA_1),
   ("F_SG_NA_1", .F_SG_NA_1), ("F_DR_TA_1", .F_DR_TA_1),
   ("F_SC_NB_1", .F_SC_NB_1)]

/-- The enumerator an `int` stands for, if it has one. -/
def TypeId.ofInt? (number : Int) : Option TypeId :=
  (mapAsduTypeId.map Prod.snd).find? fun typeId => typeId.value == number

@[simp]
theorem TypeId.ofInt?_value (typeId : TypeId) :
    TypeId.ofInt? typeId.value = some typeId := by
  cases typeId <;> rfl

theorem TypeId.ofInt?_eq_some_iff {number : Int} {typeId : TypeId} :
    TypeId.ofInt? number = some typeId ↔ number = typeId.value := by
  constructor
  · intro found
    have hit := List.find?_some found
    exact (by simpa using hit : typeId.value = number).symm
  · rintro rfl
    exact TypeId.ofInt?_value typeId

/-- `IEC104DataPoint::getTypeIdFromString`; an unknown name gets 0. -/
def getTypeIdFromString (name : String) : Int :=
  ((mapAsduTypeId.lookup name).map TypeId.value).getD 0

/-- `IEC104DataPoint::getStringFromTypeID`; an unknown number gets "". -/
def getStringFromTypeID (typeId : Int) : String :=
  ((mapAsduTypeId.find? fun entry => entry.2.value == typeId).map
    Prod.fst).getD ""

/-- The data types `IEC60870_TYPE_SP` to `IEC60870_TYPE_SHORT`. -/
inductive DataType where
  | sp
  | dp
  | stepPos
  | normalized
  | scaled
  | short
deriving DecidableEq, Repr

/-! ## The switch statements on type identifications -/

/-- `IEC104DataPoint::isSupportedCommandType`. -/
def isSupportedCommandType (typeId : Int) : Bool :=
  match TypeId.ofInt? typeId with
  | some .C_SC_NA_1 | some .C_SC_TA_1
  | some .C_DC_NA_1 | some .C_DC_TA_1
  | some .C_RC_NA_1 | some .C_RC_TA_1
  | some .C_SE_NA_1 | some .C_SE_TA_1
  | some .C_SE_NB_1 | some .C_SE_TB_1
  | some .C_SE_NC_1 | some .C_SE_TC_1 => true
  | _ => false

/-- `IEC104DataPoint::isCommandWithTimestamp`. -/
def isCommandWithTimestamp (typeId : Int) : Bool :=
  match TypeId.ofInt? typeId with
  | some .C_SC_TA_1 | some .C_DC_TA_1 | some .C_RC_TA_1
  | some .C_SE_TA_1 | some .C_SE_TB_1 | some .C_SE_TC_1 => true
  | _ => false

/-- `IEC104DataPoint::isSupportedMonitoringType`. -/
def isSupportedMonitoringType (typeId : Int) : Bool :=
  match TypeId.ofInt? typeId with
  | some .M_SP_NA_1 | some .M_SP_TA_1 | some .M_SP_TB_1
  | some .M_DP_NA_1 | some .M_DP_TA_1 | some .M_DP_TB_1
  | some .M_ST_NA_1 | some .M_ST_TA_1 | some .M_ST_TB_1
  | some .M_ME_NA_1 | some .M_ME_TA_1 | some .M_ME_TD_1
  | some .M_ME_NB_1 | some .M_ME_TB_1 | some .M_ME_TE_1
  | some .M_ME_NC_1 | some .M_ME_TC_1 | some .M_ME_TF_1 => true
  | _ => false

/-- `IEC104DataPoint::typeIdToDataType`; `none` is the data type 0. -/
def typeIdToDataType (typeId : Int) : Option DataType :=
  match TypeId.ofInt? typeId with
  | some .M_SP_NA_1 | some .M_SP_TA_1 | some .M_SP_TB_1
  | some .C_SC_NA_1 | some .C_SC_TA_1 => some .sp
  | some .M_DP_NA_1 | some .M_DP_TA_1 | some .M_DP_TB_1
  | some .C_DC_NA_1 | some .C_DC_TA_1 => some .dp
  | some .M_ST_NA_1 | some .M_ST_TA_1 | some .M_ST_TB_1
  | some .C_RC_NA_1 | some .C_RC_TA_1 => some .stepPos
  | some .M_ME_NA_1 | some .M_ME_TA_1 | some .M_ME_TD_1
  | some .C_SE_NA_1 | some .C_SE_TA_1 => some .normalized
  | some .M_ME_NB_1 | some .M_ME_TB_1 | some .M_ME_TE_1
  | some .C_SE_NB_1 | some .C_SE_TB_1 => some .scaled
  | some .M_ME_NC_1 | some .M_ME_TC_1 | some .M_ME_TF_1
  | some .C_SE_NC_1 | some .C_SE_TC_1 => some .short
  | _ => none

/-- The test of `IEC104DataPoint::isMessageTypeMatching` on the data type. -/
def isMessageTypeMatching (type : DataType) (expectedType : Int) : Bool :=
  match TypeId.ofInt? expectedType with
  | some .M_SP_NA_1 | some .M_SP_TB_1 => type == .sp
  | some .M_DP_NA_1 | some .M_DP_TB_1 => type == .dp
  | some .M_ME_NA_1 | some .M_ME_TD_1 => type == .normalized
  | some .M_ME_NB_1 | some .M_ME_TE_1 => type == .scaled
  | some .M_ME_NC_1 | some .M_ME_TF_1 => type == .short
  | some .M_ST_NA_1 | some .M_ST_TB_1 => type == .stepPos
  | _ => false

/-- The data-type half of `IEC104DataPoint::isMatchingCommand`. -/
def isMatchingCommandType (type : DataType) (typeId : Int) : Bool :=
  match type with
  | .sp =>
      typeId == TypeId.C_SC_NA_1.value || typeId == TypeId.C_SC_TA_1.value
  | .dp =>
      typeId == TypeId.C_DC_NA_1.value || typeId == TypeId.C_DC_TA_1.value
  | .stepPos =>
      typeId == TypeId.C_RC_NA_1.value || typeId == TypeId.C_RC_TA_1.value
  | .normalized =>
      typeId == TypeId.C_SE_NA_1.value || typeId == TypeId.C_SE_TA_1.value
  | .scaled =>
      typeId == TypeId.C_SE_NB_1.value || typeId == TypeId.C_SE_TB_1.value
  | .short =>
      typeId == TypeId.C_SE_NC_1.value || typeId == TypeId.C_SE_TC_1.value

/-! ## How the tables agree -/

/-- A command point takes exactly the supported commands of its data type. -/
theorem isMatchingCommandType_iff (type : DataType) (typeId : Int) :
    isMatchingCommandType type typeId = true ↔
      isSupportedCommandType typeId = true ∧
        typeIdToDataType typeId = some type := by
  cases found : TypeId.ofInt? typeId with
  | none =>
      have unnamed : ∀ named : TypeId, typeId ≠ named.value := by
        rintro named rfl
        simp at found
      cases type <;>
        simp [isMatchingCommandType, isSupportedCommandType, found, unnamed]
  | some named =>
      rcases TypeId.ofInt?_eq_some_iff.mp found with rfl
      cases type <;> cases named <;> decide

/-- No type is a command and a monitoring type. -/
theorem not_supportedMonitoring_of_command {typeId : Int}
    (command : isSupportedCommandType typeId = true) :
    isSupportedMonitoringType typeId = false := by
  cases found : TypeId.ofInt? typeId with
  | none => simp [isSupportedCommandType, found] at command
  | some named =>
      rcases TypeId.ofInt?_eq_some_iff.mp found with rfl
      revert command
      cases named <;> decide

end Iec104North.AsduTypes
