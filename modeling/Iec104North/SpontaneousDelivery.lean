import Iec104North.ImportExchange
import Iec104North.LastValue

/-!
# Which data objects are enqueued

A data object is enqueued for the point that was defined last at its address.
The importer and `send` decide by different tables which types a point takes:
`isSupportedMonitoringType` has the types with a short time tag, and
`isMessageTypeMatching` has not and does not ask whether the point is a
command.
-/

namespace Iec104North.SpontaneousDelivery

open Iec104North.Library
open Iec104North.AsduTypes
open Iec104North.Values
open Iec104North.DataPoints
open Iec104North.Server
open Iec104North.Readings
open Iec104North.Runs
open Iec104North.LedgerRefinement
open Iec104North.TableReads
open Iec104North.LastValue
open Iec104North.ImportExchange

/-! ## Types -/

/-- The monitoring types with the short time tag CP24Time2a. -/
def hasShortTime (typeId : Int) : Bool :=
  match TypeId.ofInt? typeId with
  | some .M_SP_TA_1 | some .M_DP_TA_1 | some .M_ST_TA_1
  | some .M_ME_TA_1 | some .M_ME_TB_1 | some .M_ME_TC_1 => true
  | _ => false

/-- A monitoring type of the data type matches unless its time tag is short. -/
theorem isMessageTypeMatching_iff (type : DataType) (typeId : Int) :
    isMessageTypeMatching type typeId = true ↔
      isSupportedMonitoringType typeId = true ∧
        typeIdToDataType typeId = some type ∧
        hasShortTime typeId = false := by
  cases found : TypeId.ofInt? typeId with
  | none =>
      simp [isMessageTypeMatching, isSupportedMonitoringType, found]
  | some named =>
      rcases TypeId.ofInt?_eq_some_iff.mp found with rfl
      cases type <;> cases named <;> decide

/-! ## Texts of step positions -/

/--
The update of a step position with a text does not throw: the text is not
empty, and an int starts behind its first character if a comma follows there.
-/
def IsStepText (text : List Char) : Prop :=
  text ≠ [] ∧
    ∀ cleaned,
      substr text 1 (toUInt64 (text.length - 2)) = .ok cleaned →
        ',' ∈ cleaned →
          ∃ number, stoi (cleaned.takeWhile (· != ',')) = .ok number

theorem stepPositionValue_ok_iff (posValue : BitVec 7)
    (transient : BitVec 1) (text : List Char) :
    (∃ value, stepPositionValue posValue transient text = .ok value) ↔
      IsStepText text := by
  simp only [stepPositionValue, IsStepText]
  cases cut : substr text 1 (toUInt64 (text.length - 2)) with
  | error exception =>
      have empty : text = [] := by
        rw [substr] at cut
        split at cut
        · rename_i short
          exact List.length_eq_zero_iff.mp (Nat.lt_one_iff.mp short)
        · simp at cut
      simp [empty]
  | ok cleaned =>
      have nonempty : text ≠ [] := by
        rintro rfl
        simp [substr] at cut
      by_cases comma : ',' ∈ cleaned
      · cases number : stoi (cleaned.takeWhile (· != ',')) with
        | error exception => simp [comma, number]
        | ok value => simp [comma, number, nonempty]
      · simp [comma, nonempty]

/-- The data object is applied to a point of the type when it matches. -/
def IsProcessed (type : DataType) (object : DataObject) : Prop :=
  object.ca ≠ -1 ∧
    object.ioa ≠ -1 ∧
    (type = .stepPos →
      ∀ text ∈ textOf object.value, IsStepText text.toList)

section Updates

variable (platform : Platform)

theorem assignValue_ok_iff (value : PointValue)
    (newValue : Option DatapointValue) :
    (∃ assigned, assignValue value newValue = .ok assigned) ↔
      (value.dataType = .stepPos →
        ∀ text ∈ textOf newValue, IsStepText text.toList) := by
  cases newValue with
  | none => cases value <;> simp [assignValue, textOf]
  | some attrVal =>
      cases value with
      | stepPos posValue transient =>
          cases attrVal with
          | string text =>
              simpa [assignValue, textOf, PointValue.dataType] using
                stepPositionValue_ok_iff posValue transient text.toList
          | _ => simp [assignValue, textOf]
      | _ => cases attrVal <;> simp [assignValue, PointValue.dataType]

theorem updatedPoint_ok_iff {point : DataPoint} {object : DataObject}
    (matching : isMessageTypeMatching point.type object.type = true)
    (now : Nat) :
    (∃ updated, updatedPoint platform object now point = .ok updated) ↔
      (point.type = .stepPos →
        ∀ text ∈ textOf object.value, IsStepText text.toList) := by
  rcases updatedMember_of_matching matching with ⟨timed, member⟩
  refine Iff.trans ?_ (assignValue_ok_iff point.value object.value)
  simp only [updatedPoint, updateDataPoint, member, if_true]
  cases assignValue point.value object.value with
  | error exception => simp
  | ok assigned => simp

/-- Every type that matches a point has an object to enqueue. -/
theorem exists_spontaneousObject (point : DataPoint) {type : DataType}
    {typeId : Int} (matching : isMessageTypeMatching type typeId = true) :
    ∃ io, spontaneousObject point typeId = some io := by
  cases found : TypeId.ofInt? typeId with
  | none => simp [isMessageTypeMatching, found] at matching
  | some named =>
      rcases TypeId.ofInt?_eq_some_iff.mp found with rfl
      revert matching
      cases named <;> simp [isMessageTypeMatching, spontaneousObject]

end Updates

/-! ## Steps -/

/-- The data object of a data point has a spontaneous cause. -/
def IsSpontaneous (platform : Platform) (dp : Datapoint) : Prop :=
  dp.name = "data_object" ∧
    isSpontaneousCot (readDataObject platform dp).cot = true

/-- An ASDU is enqueued while a data point is processed. -/
def Enqueues (platform : Platform) (system : System) (assetName : String)
    (dp : Datapoint) (now : Nat) : Prop :=
  ∃ asdu,
    .enqueueAsdu asdu ∈
      (step platform system (.datapoint assetName dp now)).2

section Steps

variable (platform : Platform) {system : System} {dp : Datapoint}
  (running : system.server.slaveRunning = true)
  (spontaneous : IsSpontaneous platform dp)

theorem isMessageTypeMatching_unnamed (type : DataType) :
    isMessageTypeMatching type (-1) = false := by
  cases type <;> decide

/-- A spontaneous cause is known and no feedback of a command. -/
theorem isSpontaneousCot_cases {cot : CauseOfTransmission}
    (isSpontaneous : isSpontaneousCot cot = true) :
    cot ≠ Cot.activationCon ∧
      cot ≠ Cot.activationTermination ∧ cot ≠ Cot.unknownCot := by
  simp only [isSpontaneousCot, Bool.or_eq_true, beq_iff_eq, or_assoc]
    at isSpontaneous
  rcases isSpontaneous with rfl | rfl | rfl | rfl | rfl <;> decide

include running spontaneous

/-- A spontaneous object reads the table unless a number is missing. -/
theorem readObject_spontaneous :
    readObject platform system.server dp =
      if (readDataObject platform dp).ca ≠ -1 ∧
          (readDataObject platform dp).ioa ≠ -1 ∧
          (readDataObject platform dp).type ≠ -1 then
        some (readDataObject platform dp)
      else
        none := by
  rcases spontaneous with ⟨name, isSpontaneous⟩
  rcases isSpontaneousCot_cases isSpontaneous with
    ⟨notActCon, notActTerm, known⟩
  have noFeedback :
      objectFeedback (readDataObject platform dp) = none :=
    objectFeedback_eq_none_iff.mpr ⟨notActCon, notActTerm⟩
  simp [readObject, name, running, noFeedback, isComplete, known, and_assoc]

/-- An object is enqueued for a point that it matches and is applied to. -/
theorem enqueues_iff (assetName : String) (now : Nat) :
    Enqueues platform system assetName dp now ↔
      ∃ point,
        system.server.exchangeDefinitions.lookup
              (readDataObject platform dp).ca
              (readDataObject platform dp).ioa =
            some point ∧
          isMessageTypeMatching point.type
              (readDataObject platform dp).type = true ∧
          IsProcessed point.type (readDataObject platform dp) := by
  have reads := readObject_spontaneous platform running spontaneous
  constructor
  · rintro ⟨asdu, enqueued⟩
    split at reads
    · rename_i numbers
      rw [step_datapoint_read platform system assetName now reads] at enqueued
      rcases exists_of_mem_enqueuedFor platform enqueued with
        ⟨point, updated, isMatched, update, -⟩
      rcases matchedPoint_eq_some isMatched with ⟨found, matching⟩
      exact
        ⟨point, found, matching, numbers.1, numbers.2.1,
          (updatedPoint_ok_iff platform matching now).mp ⟨updated, update⟩⟩
    · exact
        ((step_datapoint_noRead platform system assetName dp now
          reads).2.2 asdu enqueued).elim
  · rintro ⟨point, found, matching, isCa, isIoa, text⟩
    have type : (readDataObject platform dp).type ≠ -1 := by
      intro missing
      rw [missing, isMessageTypeMatching_unnamed] at matching
      simp at matching
    rw [if_pos ⟨isCa, isIoa, type⟩] at reads
    have isMatched :
        matchedPoint system.server.exchangeDefinitions
            (readDataObject platform dp) = some point :=
      Option.filter_eq_some_iff.mpr ⟨found, matching⟩
    rcases (updatedPoint_ok_iff platform matching now).mpr text with
      ⟨updated, update⟩
    rcases exists_spontaneousObject updated matching with ⟨io, created⟩
    rw [Enqueues, step_datapoint_read platform system assetName now reads]
    simp only [enqueuedFor, isMatched, update, spontaneous.2, if_true,
      enqueueSpontDatapoint, created]
    exact ⟨_, List.mem_singleton_self _⟩

end Steps

/-! ## Runs -/

/--
What should be enqueued: the point was defined last with a monitoring type, and
the object has a supported monitoring type with the same data type.
-/
def IsExpected (document : Option Json) (object : DataObject) : Prop :=
  ∃ definition,
    lastDefinition document object.ca object.ioa = some definition ∧
      isSupportedMonitoringType definition.typeId = true ∧
      isSupportedMonitoringType object.type = true ∧
      typeIdToDataType object.type = typeIdToDataType definition.typeId

/--
The tables agree on an object: when it has a monitoring type of the data type
of its point, it has no short time tag and can be applied if the point is no
command, and has a short time tag or cannot be applied if the point is one.
-/
def IsAgreed (document : Option Json) (object : DataObject) : Prop :=
  ∀ definition,
    lastDefinition document object.ca object.ioa = some definition →
      isSupportedMonitoringType object.type = true →
        typeIdToDataType object.type = some definition.type →
          (isSupportedCommandType definition.typeId = false ↔
            hasShortTime object.type = false ∧
              IsProcessed definition.type object)

/--
A spontaneous object is enqueued when it should be, and only then, exactly when
the tables agree on it.
-/
theorem enqueues_expected_iff (platform : Platform)
    (document : Option Json) {start : System}
    (imported :
      start.server.exchangeDefinitions = importExchangeConfig document)
    (events : List Event)
    (running :
      ((machine platform).after start events).server.slaveRunning = true)
    (assetName : String) {dp : Datapoint}
    (spontaneous : IsSpontaneous platform dp) (now : Nat) :
    (Enqueues platform ((machine platform).after start events) assetName dp
          now ↔
        IsExpected document (readDataObject platform dp)) ↔
      IsAgreed document (readDataObject platform dp) := by
  have lookups :
      ((((machine platform).after start
            events).server.exchangeDefinitions.lookup
          (readDataObject platform dp).ca
          (readDataObject platform dp).ioa).map DataPoint.settings) =
        (lastDefinition document (readDataObject platform dp).ca
            (readDataObject platform dp).ioa).map
          fun definition => definition.dataPoint.settings := by
    rw [sameSettings_run platform start events, imported,
      lookup_importExchangeConfig, Option.map_map]
    rfl
  rw [enqueues_iff platform running spontaneous]
  cases last :
      lastDefinition document (readDataObject platform dp).ca
        (readDataObject platform dp).ioa with
  | none =>
      rw [last, Option.map_none, Option.map_eq_none_iff] at lookups
      simp [lookups, IsExpected, IsAgreed, last]
  | some definition =>
      rw [last, Option.map_some, Option.map_eq_some_iff] at lookups
      rcases lookups with ⟨point, found, settings⟩
      have type : point.type = definition.type :=
        (DataPoint.type_eq_of_settings settings).trans
          definition.type_dataPoint
      have noCommand := definition.isSupportedMonitoringType_iff
      simp only [found, Option.some.injEq, exists_eq_left', forall_eq', type,
        isMessageTypeMatching_iff, IsExpected, IsAgreed, last,
        definition.typeIdToDataType_typeId, noCommand]
      tauto

/-- A single command point at 1:20. -/
def sampleDocument : Json :=
  .object
    [("exchanged_data", .object
      [("datapoints", .array
        [.object
          [("label", .string "TC"),
           ("protocols", .array
             [.object
               [("name", .string "iec104"), ("address", .string "1-20"),
                ("typeid", .string "C_SC_NA_1")]])]])])]

/-- The system with the points of `sampleDocument`. -/
def commandPointSystem : System where
  server :=
    { sampleServer with
      exchangeDefinitions := importExchangeConfig (some sampleDocument) }

/-- A spontaneous single point for 1:20. -/
def sampleObject : Datapoint where
  name := "data_object"
  attributes :=
    [⟨"do_type", .string "M_SP_NA_1"⟩, ⟨"do_ca", .integer 1⟩,
     ⟨"do_ioa", .integer 20⟩, ⟨"do_cot", .integer Cot.spontaneous⟩,
     ⟨"do_value", .integer 1⟩]

theorem enqueues_expected_iff_sample :
    (Enqueues samplePlatform
          ((machine samplePlatform).after commandPointSystem []) "TC"
          sampleObject 0 ↔
        IsExpected (some sampleDocument)
          (readDataObject samplePlatform sampleObject)) ↔
      IsAgreed (some sampleDocument)
        (readDataObject samplePlatform sampleObject) :=
  enqueues_expected_iff samplePlatform (some sampleDocument) rfl [] rfl "TC"
    ⟨rfl, by decide⟩ 0

/-- A single point is enqueued for a point configured as a command. -/
theorem commandPoint_enqueued :
    Enqueues samplePlatform
        ((machine samplePlatform).after commandPointSystem []) "TC"
        sampleObject 0 ∧
      ¬ IsExpected (some sampleDocument)
        (readDataObject samplePlatform sampleObject) := by
  constructor
  · refine
      ⟨{ cot := Cot.spontaneous, oa := 0, ca := 1,
         objects := [⟨20, .sp 1, Quality.good, none⟩] }, ?_⟩
    decide
  · rintro ⟨definition, last, monitoring, -⟩
    have typeId :
        (lastDefinition (some sampleDocument) 1 20).map
            Definition.typeId =
          some TypeId.C_SC_NA_1.value := by
      decide
    have command := Option.map_eq_some_iff.mp typeId
    rcases command with ⟨same, lastly, isCommand⟩
    rw [show lastDefinition (some sampleDocument) 1 20 = some definition
      from last, Option.some.injEq] at lastly
    rw [lastly, isCommand] at monitoring
    revert monitoring
    decide

end Iec104North.SpontaneousDelivery
