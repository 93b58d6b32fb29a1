import Iec104North.ImportProtocol
import Iec104North.MonitoringData
import Iec104North.SpontaneousDelivery

/-!
# The size of an ASDU

`m_enqueueSpontDatapoint` does not look whether its object was added, and
`sendInterrogationResponse` does not when it adds an object to a new ASDU.
Both rest on the maximal size of an ASDU: the importer takes sizes from 11 on,
but a short measured value with time tag takes more.
-/

namespace Iec104North.AsduSize

open Iec104North.Library
open Iec104North.AsduTypes
open Iec104North.Values
open Iec104North.Config
open Iec104North.DataPoints
open Iec104North.Server
open Iec104North.LedgerRefinement
open Iec104North.Readings
open Iec104North.Interrogation
open Iec104North.InterrogationResponse
open Iec104North.Runs
open Iec104North.TableReads
open Iec104North.LastValue
open Iec104North.ImportProtocol
open Iec104North.SpontaneousDelivery
open Iec104North.MonitoringData

/-! ## Sizes -/

/-- The octets of an ASDU with given objects: header, addresses, elements. -/
def sizeOfASDU (parameters : AppLayerParameters)
    (objects : List MonitoringObject) : Int :=
  objects.foldl
    (fun size object => size + parameters.sizeOfIOA + object.elementSize)
    (4 + parameters.sizeOfCA)

/--
`CS101_ASDU_addInformationObject` has room for an object while the ASDU stays
within its maximal size.
-/
def FitsBySize (platform : Platform) : Prop :=
  ∀ parameters objects object,
    platform.objectFits parameters objects object = true ↔
      sizeOfASDU parameters (object :: objects) ≤ parameters.maxSizeOfASDU

theorem fitsBySize_sample : FitsBySize samplePlatform := by
  intro parameters objects object
  exact decide_eq_true_iff

/-- A short measured value with time tag is the largest object. -/
theorem elementSize_le (object : MonitoringObject) :
    object.elementSize ≤ 12 := by
  rcases object with ⟨address, value, quality, timestamp⟩
  cases value <;> cases timestamp <;>
    simp [MonitoringObject.elementSize, PointValue.dataType]

theorem fits_empty_iff {platform : Platform} (bySize : FitsBySize platform)
    (parameters : AppLayerParameters) (object : MonitoringObject) :
    platform.objectFits parameters [] object = true ↔
      4 + parameters.sizeOfCA + parameters.sizeOfIOA + object.elementSize ≤
        parameters.maxSizeOfASDU :=
  bySize parameters [] object

/-- The largest object fits into an empty ASDU. -/
def FitsLargest (config : IEC104Config) : Prop :=
  config.asduSize = 0 ∨
    16 + config.caSize + config.ioaSize ≤ config.asduSize

instance (config : IEC104Config) : Decidable (FitsLargest config) :=
  inferInstanceAs (Decidable (_ ∨ _))

/-- With parameters in their ranges every object fits if the largest does. -/
theorem fits_of_fitsLargest {platform : Platform}
    (bySize : FitsBySize platform) {config : IEC104Config}
    (inRange : InRange config) (large : FitsLargest config)
    (object : MonitoringObject) :
    platform.objectFits config.appLayerParameters [] object = true := by
  have element := elementSize_le object
  have ca := inRange.caSize
  have ioa := inRange.ioaSize
  simp only [isBetween, Bool.and_eq_true, decide_eq_true_eq] at ca ioa
  rw [fits_empty_iff bySize]
  simp only [IEC104Config.appLayerParameters, beq_iff_eq]
  rcases large with unlimited | wide
  · rw [if_pos unlimited]
    omega
  · rw [if_neg (by omega)]
    omega

/-! ## What a step should report -/

/--
A step reports what it should, in ASDUs with at least one object: the point a
spontaneous data object was applied to, and the covered points of every CA an
interrogation is for.
-/
structure ReportsAll (platform : Platform) (system : System)
    (event : Event) : Prop where
  nonempty :
    ∀ data ∈ dataAsdus (step platform system event).2, data.objects ≠ []
  spontaneous :
    ∀ assetName dp now object point updated,
      event = .datapoint assetName dp now →
      readObject platform system.server dp = some object →
      isSpontaneousCot object.cot = true →
      matchedPoint system.server.exchangeDefinitions object = some point →
      updatedPoint platform object now point = .ok updated →
        ∃ data ∈ dataAsdus (step platform system event).2,
          data.ca = updated.ca ∧
            ∃ io ∈ data.objects,
              io.objectAddress = updated.ioa ∧
                io.value = updated.value ∧ io.quality = updated.quality
  interrogated :
    ∀ connection asdu qoi ca ioa point,
      event = .interrogation connection asdu qoi →
      IsInterrogated asdu qoi system.server ca →
      system.server.exchangeDefinitions.lookup ca ioa = some point →
      IsCovered qoi point →
        ∃ data ∈ dataAsdus (step platform system event).2,
          data.ca = ca ∧ pointObject point ∈ data.objects

section Steps

variable {platform : Platform} {system : System} {event : Event}
  (fits :
    ∀ object,
      platform.objectFits system.server.config.appLayerParameters [] object =
        true)

/-- What is enqueued for a point, when its object fits and when it does not. -/
theorem enqueueSpontDatapoint_eq (server : IEC104Server)
    (point : DataPoint) (cot : CauseOfTransmission) {typeId : Int}
    {io : MonitoringObject}
    (created : spontaneousObject point typeId = some io) :
    enqueueSpontDatapoint platform server point cot typeId =
      [.enqueueAsdu
        { cot := cot, oa := 0, ca := point.ca
          objects :=
            if platform.objectFits server.config.appLayerParameters [] io
            then [io] else [] }] := by
  simp only [enqueueSpontDatapoint, created, addInformationObject,
    List.head?_nil, Bool.true_and, List.nil_append]
  split <;> rfl

include fits

theorem nonempty_of_fits :
    ∀ data ∈ dataAsdus (step platform system event).2,
      data.objects ≠ [] := by
  intro data member
  rcases mem_dataAsdus_step platform member with
    ⟨assetName, dp, now, object, rfl, -, enqueued⟩ |
      ⟨connection, asdu, qoi, ca, rfl, -, sent⟩
  · rcases exists_of_mem_enqueuedFor platform enqueued with
      ⟨point, updated, isMatched, -, forPoint⟩
    rcases
        exists_spontaneousObject updated
          (matchedPoint_eq_some isMatched).2 with
      ⟨io, created⟩
    rw [enqueueSpontDatapoint_eq _ _ _ created, if_pos (fits io),
      List.mem_singleton] at forPoint
    rcases Effect.enqueueAsdu.inj forPoint with rfl
    simp
  · exact
      (packingLaws platform _ asdu ca).nonempty_packed (by simp) _
        (fun object _ => fits object) data sent

/-- Every object to report is in one of the ASDUs of the response. -/
theorem exists_responseAsdu (asdu : Asdu) {ca : Int} {qoi : Nat}
    {object : MonitoringObject}
    (member :
      object ∈ responseObjects system.server.exchangeDefinitions ca qoi) :
    ∃ data ∈
        responseAsdus platform system.server.config.appLayerParameters asdu
          ca (responseObjects system.server.exchangeDefinitions ca qoi),
      data.ca = ca ∧ object ∈ data.objects := by
  have laws :=
    packingLaws platform system.server.config.appLayerParameters asdu ca
  have content :
      (responseAsdus platform system.server.config.appLayerParameters asdu ca
          (responseObjects system.server.exchangeDefinitions ca
            qoi)).flatMap DataAsdu.objects =
        responseObjects system.server.exchangeDefinitions ca qoi :=
    laws.flatMap_packed (by simp) _ fun other _ => fits other
  rw [← content, List.mem_flatMap] at member
  rcases member with ⟨data, sent, contains⟩
  exact
    ⟨data, sent, (isResponseAsdu_of_mem platform _ data sent).ca, contains⟩

theorem reportsAll_of_fits : ReportsAll platform system event where
  nonempty := nonempty_of_fits fits
  spontaneous := by
    rintro assetName dp now object point updated rfl reads spontaneous
      isMatched update
    rcases
        exists_spontaneousObject updated
          (matchedPoint_eq_some isMatched).2 with
      ⟨io, created⟩
    rw [step_datapoint_read platform system assetName now reads]
    simp only [enqueuedFor, isMatched, update, spontaneous, if_true,
      enqueueSpontDatapoint_eq _ _ _ created, fits io]
    exact
      ⟨_, List.mem_singleton_self _, rfl, io, List.mem_singleton_self _,
        spontaneousObject_eq_some created⟩
  interrogated := by
    rintro connection asdu qoi ca ioa point rfl interrogated found covered
    rcases
        exists_responseAsdu fits asdu
          (pointObject_mem_responseObjects found covered) with
      ⟨data, sent, isAnswer⟩
    refine ⟨data, ?_, isAnswer⟩
    exact
      (mem_dataAsdus_interrogation platform connection asdu qoi system.server
        data).mpr ⟨ca, interrogated, sent⟩

end Steps

/-! ## Runs -/

section Largest

variable (platform : Platform) (config : IEC104Config)

/-- A system with a short measured value at 1:10. -/
def shortSystem : System where
  server :=
    { config := config
      exchangeDefinitions :=
        PointTable.empty.store
          (DataPoint.create "TM" 1 10 .short false 1)
      slaveRunning := true }

/-- A spontaneous short measured value with time tag for 1:10. -/
def largestObject : Datapoint where
  name := "data_object"
  attributes :=
    [⟨"do_type", .string "M_ME_TF_1"⟩, ⟨"do_ca", .integer 1⟩,
     ⟨"do_ioa", .integer 10⟩, ⟨"do_cot", .integer Cot.spontaneous⟩]

theorem readDataObject_largest :
    readDataObject platform largestObject =
      { ca := 1, ioa := 10, cot := Cot.spontaneous
        type := TypeId.M_ME_TF_1.value } := by
  have type :
      getTypeIdFromString "M_ME_TF_1" = TypeId.M_ME_TF_1.value := by
    decide
  have numbers :
      toInt32 1 = 1 ∧
        toInt32 10 = 10 ∧
        toInt32 Cot.spontaneous = Cot.spontaneous := by
    decide
  simp [readDataObject, readAttribute, largestObject, type, numbers,
    platform.toStringValue_string, platform.toInt_integer]

/-- The point of `shortSystem` after `largestObject`. -/
def updatedShort : DataPoint :=
  { DataPoint.create "TM" 1 10 .short false 1 with
    quality := Quality.good
    ts := some (platform.createFromMsTimestamp 0) }

theorem readObject_largest :
    readObject platform (shortSystem config).server largestObject =
      some (readDataObject platform largestObject) := by
  have complete :
      objectFeedback (readDataObject platform largestObject) = none ∧
        isComplete (readDataObject platform largestObject) = true := by
    rw [readDataObject_largest]
    decide
  simp only [readObject, complete, and_self, if_true]
  exact if_pos ⟨rfl, rfl⟩

theorem matchedPoint_largest :
    matchedPoint (shortSystem config).server.exchangeDefinitions
        (readDataObject platform largestObject) =
      some (DataPoint.create "TM" 1 10 .short false 1) := by
  rw [readDataObject_largest, matchedPoint, shortSystem,
    PointTable.lookup_store]
  decide

theorem updatedPoint_largest :
    updatedPoint platform (readDataObject platform largestObject) 0
        (DataPoint.create "TM" 1 10 .short false 1) =
      .ok (updatedShort platform) := by
  rw [readDataObject_largest]
  rfl

/-- What is enqueued for the largest object when it does not fit. -/
theorem largestObject_dropped
    (refused :
      ∀ object : MonitoringObject, object.elementSize = 12 →
        platform.objectFits config.appLayerParameters [] object = false) :
    { cot := Cot.spontaneous, oa := 0, ca := 1, objects := [] } ∈
      dataAsdus
        (step platform (shortSystem config)
          (.datapoint "TM" largestObject 0)).2 := by
  have created :
      spontaneousObject (updatedShort platform) TypeId.M_ME_TF_1.value =
        some
          ⟨10, .short 0, Quality.good,
            some (platform.createFromMsTimestamp 0)⟩ :=
    rfl
  have spontaneous : isSpontaneousCot Cot.spontaneous = true := by decide
  rw [step_datapoint_read platform _ "TM" 0
    (readObject_largest platform config)]
  simp only [enqueuedFor, matchedPoint_largest, updatedPoint_largest]
  rw [readDataObject_largest]
  simp only [spontaneous, if_true, enqueueSpontDatapoint_eq _ _ _ created]
  apply mem_dataAsdus_of_enqueued
  rw [if_neg]
  · exact List.mem_singleton_self _
  · exact Bool.eq_false_iff.mp (refused _ rfl)

end Largest

/--
Every run reports all it should, in ASDUs with at least one object, exactly
when the largest object fits into an empty ASDU.
-/
theorem reportsAll_iff_fitsLargest {platform : Platform}
    (bySize : FitsBySize platform) {before : IEC104Config}
    (inRange : InRange before) (applicationLayer : Json) :
    let config := importApplicationLayer before applicationLayer
    (∀ start : System,
      start.server.config.appLayerParameters =
          config.appLayerParameters →
        ∀ events : List Event,
          EachStep
            (fun earlier event =>
              ReportsAll platform ((machine platform).after start earlier)
                event)
            events) ↔
      FitsLargest config := by
  intro config
  have accepted := importApplicationLayer_inRange inRange applicationLayer
  constructor
  · intro reports
    by_contra small
    have refused :
        ∀ object : MonitoringObject, object.elementSize = 12 →
          platform.objectFits config.appLayerParameters [] object =
            false := by
      intro object largest
      rw [FitsLargest, not_or] at small
      rw [Bool.eq_false_iff, ne_eq, fits_empty_iff bySize, largest]
      simp only [IEC104Config.appLayerParameters, beq_iff_eq, if_neg small.1]
      omega
    have each :=
      reports (shortSystem config) rfl [.datapoint "TM" largestObject 0] []
        _ [] rfl
    exact
      each.nonempty _ (largestObject_dropped platform config refused) rfl
  · intro large start parameters events earlier event later split
    apply reportsAll_of_fits
    intro object
    rw [appLayerParameters_run, parameters]
    exact fits_of_fitsLargest bySize accepted large object

/-- An application layer with a given `asdu_size`. -/
def sampleLayer (asduSize : Int) : Json :=
  .object [("asdu_size", .int asduSize)]

theorem reportsAll_iff_fitsLargest_sample :
    (∀ start : System,
      start.server.config.appLayerParameters =
          (importApplicationLayer {}
            (sampleLayer 21)).appLayerParameters →
        ∀ events : List Event,
          EachStep
            (fun earlier event =>
              ReportsAll samplePlatform
                ((machine samplePlatform).after start earlier) event)
            events) ↔
      FitsLargest (importApplicationLayer {} (sampleLayer 21)) :=
  reportsAll_iff_fitsLargest fitsBySize_sample InRange.default
    (sampleLayer 21)

/-- With 20 octets the largest object is dropped from its ASDU. -/
theorem accepted20_drops :
    (importApplicationLayer {} (sampleLayer 20)).asduSize = 20 ∧
      ¬ ReportsAll samplePlatform
          (shortSystem (importApplicationLayer {} (sampleLayer 20)))
          (.datapoint "TM" largestObject 0) := by
  refine ⟨by decide, fun reports => ?_⟩
  refine reports.nonempty _ (largestObject_dropped samplePlatform _ ?_) rfl
  intro object largest
  rw [Bool.eq_false_iff, ne_eq, fits_empty_iff fitsBySize_sample, largest]
  decide

end Iec104North.AsduSize
