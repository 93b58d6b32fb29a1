import Iec104North.ImportExchange
import Iec104North.LastValue
import Iec104North.MonitoringData

/-!
# Invalid until received

A point is imported with the flag INVALID.  `m_updateDataPoint` writes the
value of a data object only when it has the type the point requires, but its
quality always: an object without such a value takes the flag away when it
does not carry it itself.
-/

namespace Iec104North.InvalidUntilReceived

open Iec104North.Library
open Iec104North.AsduTypes
open Iec104North.Values
open Iec104North.DataPoints
open Iec104North.Server
open Iec104North.LedgerRefinement
open Iec104North.Readings
open Iec104North.Interrogation
open Iec104North.InterrogationResponse
open Iec104North.Runs
open Iec104North.TableReads
open Iec104North.LastValue
open Iec104North.ImportExchange
open Iec104North.MonitoringData

/-! ## Applied data objects -/

/-- The flag INVALID is set. -/
def IsInvalid (quality : Quality) : Prop :=
  quality &&& Quality.invalid = Quality.invalid

instance (quality : Quality) : Decidable (IsInvalid quality) :=
  inferInstanceAs (Decidable (_ = _))

/-- A `do_value` of the type a point of the data type requires. -/
def hasRequiredType (type : DataType) (value : Option DatapointValue) :
    Bool :=
  match type, value with
  | .sp, some (.integer _) | .dp, some (.integer _)
  | .scaled, some (.integer _) => true
  | .stepPos, some (.string _) => true
  | .normalized, some (.float _) | .short, some (.float _) => true
  | _, _ => false

/-- A data object that is applied to a point of a data type. -/
structure Application where
  type : DataType
  object : DataObject

/-- The object brings a value. -/
def Application.hasValue (application : Application) : Bool :=
  hasRequiredType application.type application.object.value

section Applications

variable (platform : Platform)

/-- What an event applies to the point at an address. -/
def appliedTo (ca ioa : Int) (system : System) :
    Event → Option Application
  | .datapoint _ dp now =>
      match readObject platform system.server dp with
      | none => none
      | some object =>
          match matchedPoint system.server.exchangeDefinitions object with
          | none => none
          | some point =>
              match updatedPoint platform object now point with
              | .error _ => none
              | .ok _ =>
                  if ca = object.ca ∧ ioa = object.ioa then
                    some ⟨point.type, object⟩
                  else
                    none
  | _ => none

/-- What a run applies to the point at an address, in order. -/
def applications (start : System) (ca ioa : Int) (events : List Event) :
    List Application :=
  (machine platform).observed (appliedTo platform ca ioa) start events

/-- The point at an address has received a value. -/
def IsReceived (start : System) (ca ioa : Int) (events : List Event) :
    Prop :=
  ∃ application ∈ applications platform start ca ioa events,
    application.hasValue = true

instance (start : System) (ca ioa : Int) (events : List Event) :
    Decidable (IsReceived platform start ca ioa events) :=
  inferInstanceAs
    (Decidable (∃ application ∈ applications platform start ca ioa events,
      application.hasValue = true))

theorem isReceived_concat (start : System) (ca ioa : Int)
    (events : List Event) (event : Event) :
    IsReceived platform start ca ioa (events ++ [event]) ↔
      IsReceived platform start ca ioa events ∨
        ∃ application ∈
            appliedTo platform ca ioa
              ((machine platform).after start events) event,
          application.hasValue = true := by
  simp only [IsReceived, applications, Machine.observed_append,
    Machine.observed_singleton, List.mem_append, Option.mem_toList,
    or_and_right, exists_or]
  rfl

end Applications

/-! ## Steps -/

section Steps

variable (platform : Platform) (system : System) (event : Event)
  (ca ioa : Int)

/-- The point at an address after a step: what is applied is written. -/
theorem lookup_step :
    match appliedTo platform ca ioa system event with
    | none =>
        (step platform system event).1.server.exchangeDefinitions.lookup
            ca ioa =
          system.server.exchangeDefinitions.lookup ca ioa
    | some application =>
        ∃ point now updated,
          system.server.exchangeDefinitions.lookup ca ioa = some point ∧
            point.type = application.type ∧
            isMessageTypeMatching point.type application.object.type =
              true ∧
            updatedPoint platform application.object now point =
              .ok updated ∧
            (step platform system event).1.server.exchangeDefinitions.lookup
                ca ioa =
              some updated := by
  by_cases datapoint :
      ∃ assetName dp now, event = .datapoint assetName dp now
  · rcases datapoint with ⟨assetName, dp, now, rfl⟩
    simp only [appliedTo]
    cases reads : readObject platform system.server dp with
    | none =>
        simp only
        rw [(step_datapoint_noRead platform system assetName dp now reads).1]
    | some object =>
        have after :=
          lookup_tableAfter platform system.server.exchangeDefinitions object
            now ca ioa
        rw [step_datapoint_read platform system assetName now reads]
        dsimp only
        rw [after]
        cases isMatched :
            matchedPoint system.server.exchangeDefinitions object with
        | none => simp
        | some point =>
            dsimp only
            cases update : updatedPoint platform object now point with
            | error exception => simp
            | ok updated =>
                dsimp only
                by_cases address : ca = object.ca ∧ ioa = object.ioa
                · rw [if_pos address, if_pos address]
                  rcases matchedPoint_eq_some isMatched with
                    ⟨found, matching⟩
                  rw [← address.1, ← address.2] at found
                  exact
                    ⟨point, now, updated, found, rfl, matching, update, rfl⟩
                · rw [if_neg address, if_neg address]
  · have nothing : appliedTo platform ca ioa system event = none := by
      cases event with
      | datapoint assetName dp now =>
          exact (datapoint ⟨assetName, dp, now, rfl⟩).elim
      | _ => rfl
    rw [nothing]
    exact
      step_lookup platform system event
        (fun assetName dp now isDatapoint =>
          datapoint ⟨assetName, dp, now, isDatapoint⟩) ca ioa

/-- What a step reports of a point is what the point has after the step. -/
theorem lookup_of_reported {data : DataAsdu} {object : MonitoringObject}
    (reported : data ∈ dataAsdus (step platform system event).2)
    (member : object ∈ data.objects) :
    ∃ current,
      (step platform system event).1.server.exchangeDefinitions.lookup
            data.ca object.objectAddress =
          some current ∧
        current.value = object.value ∧
        current.quality = object.quality := by
  rcases mem_dataAsdus_step platform reported with
    ⟨assetName, dp, now, read, rfl, reads, enqueued⟩ |
      ⟨connection, asdu, qoi, ca, rfl, -, sent⟩
  · have isEffect :
        .enqueueAsdu data ∈
          (step platform system (.datapoint assetName dp now)).2 := by
      rw [step_datapoint_read platform system assetName now reads]
      exact enqueued
    exact lookup_of_enqueued platform isEffect member
  · have isAnswer := isResponseAsdu_of_mem platform _ data sent
    have isCovered :=
      (packingLaws platform _ asdu ca).mem_of_mem_packed _ _ data sent object
        member
    rcases (mem_responseObjects_iff _ ca qoi object).mp isCovered with
      ⟨point, found, -, rfl⟩
    refine ⟨point, ?_, rfl, rfl⟩
    rw [isAnswer.ca,
      step_lookup platform system _
        (fun assetName dp now isDatapoint => by simp at isDatapoint)]
    exact found

end Steps

/-! ## Runs -/

/-- The points that the importer creates are invalid. -/
theorem isImported_importExchangeConfig (document : Option Json) :
    IsImported (importExchangeConfig document) := by
  rw [importExchangeConfig]
  exact
    (definitions document).foldlRecOn _ IsImported.empty
      fun table imported definition _ => imported.store _ _ _ _ _ _

theorem isInvalid_of_imported {table : PointTable}
    (imported : IsImported table) {ca ioa : Int} {point : DataPoint}
    (found : table.lookup ca ioa = some point) :
    IsInvalid point.quality := by
  rw [(imported ca ioa point found).2]
  decide

section Runs

variable (platform : Platform) (start : System) (ca ioa : Int)

/-- What an event applies to the point is marked INVALID, or a value came. -/
def MarksInvalid (earlier : List Event) (event : Event) : Prop :=
  IsReceived platform start ca ioa (earlier ++ [event]) ∨
    ∀ application ∈
        appliedTo platform ca ioa ((machine platform).after start earlier)
          event,
      IsInvalid application.object.qd

instance (earlier : List Event) (event : Event) :
    Decidable (MarksInvalid platform start ca ioa earlier event) :=
  inferInstanceAs (Decidable (_ ∨ _))

/-- The point is INVALID after an event, or a value came. -/
def StoresInvalid (earlier : List Event) (event : Event) : Prop :=
  IsReceived platform start ca ioa (earlier ++ [event]) ∨
    ∀ point ∈
        ((machine platform).after start
          (earlier ++ [event])).server.exchangeDefinitions.lookup ca ioa,
      IsInvalid point.quality

/-- Every ASDU of an event has the point with INVALID, or a value came. -/
def ReportsInvalid (earlier : List Event) (event : Event) : Prop :=
  IsReceived platform start ca ioa (earlier ++ [event]) ∨
    ∀ data ∈
        dataAsdus
          (step platform ((machine platform).after start earlier) event).2,
      data.ca = ca →
        ∀ object ∈ data.objects,
          object.objectAddress = ioa → IsInvalid object.quality

instance (earlier : List Event) (event : Event) :
    Decidable (ReportsInvalid platform start ca ioa earlier event) :=
  inferInstanceAs (Decidable (_ ∨ _))

variable {platform start ca ioa} {events : List Event}

/-- The invariant of a run in which no value came. -/
theorem isInvalid_run
    (imported : IsImported start.server.exchangeDefinitions)
    (marked : EachStep (MarksInvalid platform start ca ioa) events)
    (missing : ¬ IsReceived platform start ca ioa events) :
    ∀ point ∈
        ((machine platform).after start
          events).server.exchangeDefinitions.lookup ca ioa,
      IsInvalid point.quality := by
  induction events using List.reverseRecOn with
  | nil => exact fun point found => isInvalid_of_imported imported found
  | append_singleton events event ih =>
      rcases (eachStep_concat_iff _ _ _).mp marked with ⟨before, last⟩
      have notYet : ¬ IsReceived platform start ca ioa events :=
        fun received =>
          missing ((isReceived_concat platform start ca ioa events event).mpr
            (Or.inl received))
      have written :=
        lookup_step platform ((machine platform).after start events) event ca
          ioa
      intro point found
      rw [Machine.after_append] at found
      cases applied :
          appliedTo platform ca ioa ((machine platform).after start events)
            event with
      | none =>
          simp only [applied] at written
          exact ih before notYet point (written ▸ found)
      | some application =>
          simp only [applied] at written
          rcases written with
            ⟨before, now, updated, -, -, matching, update, isUpdated⟩
          rcases Option.some.inj (isUpdated.symm.trans found) with rfl
          rw [(updatedPoint_writes platform matching update).2]
          exact (last.resolve_left missing) application applied

/-- The point stays INVALID exactly when it is always marked so. -/
theorem storesInvalid_iff_marksInvalid
    (imported : IsImported start.server.exchangeDefinitions) :
    EachStep (StoresInvalid platform start ca ioa) events ↔
      EachStep (MarksInvalid platform start ca ioa) events := by
  constructor
  · intro stored earlier event later split
    refine (stored earlier event later split).imp id ?_
    intro invalid application applied
    have written :=
      lookup_step platform ((machine platform).after start earlier) event ca
        ioa
    rw [Option.mem_def.mp applied] at written
    rcases written with ⟨before, now, updated, -, -, matching, update, found⟩
    rw [← (updatedPoint_writes platform matching update).2]
    apply invalid
    rw [Machine.after_append]
    exact found
  · intro marked earlier event later split
    rw [StoresInvalid]
    by_cases received :
        IsReceived platform start ca ioa (earlier ++ [event])
    · exact Or.inl received
    · have whole :
          EachStep (MarksInvalid platform start ca ioa)
            ((earlier ++ [event]) ++ later) := by
        simpa [split] using marked
      exact Or.inr (isInvalid_run imported whole.prefix received)

end Runs

/--
As long as no value has come for the point at an address, every ASDU that
contains the point has it with INVALID, if the data objects applied to it
carry the flag.
-/
theorem reportsInvalid_run (platform : Platform) (document : Option Json)
    {start : System}
    (imported :
      start.server.exchangeDefinitions = importExchangeConfig document)
    (ca ioa : Int) (events : List Event)
    (marked : EachStep (MarksInvalid platform start ca ioa) events) :
    EachStep (ReportsInvalid platform start ca ioa) events := by
  have isImported : IsImported start.server.exchangeDefinitions := by
    rw [imported]
    exact isImported_importExchangeConfig document
  have stored := (storesInvalid_iff_marksInvalid isImported).mpr marked
  intro earlier event later split
  refine (stored earlier event later split).imp id ?_
  rintro invalid data reported rfl object member rfl
  rcases lookup_of_reported platform _ event reported member with
    ⟨current, found, -, quality⟩
  rw [← quality]
  apply invalid
  rw [Machine.after_append]
  exact found

/-- A single point at 1:10. -/
def sampleDocument : Json :=
  .object
    [("exchanged_data", .object
      [("datapoints", .array
        [.object
          [("label", .string "TS"),
           ("protocols", .array
             [.object
               [("name", .string "iec104"), ("address", .string "1-10"),
                ("typeid", .string "M_SP_NA_1")]])]])])]

/-- The system with the point of `sampleDocument`. -/
def singlePointSystem : System where
  server :=
    { sampleServer with
      exchangeDefinitions := importExchangeConfig (some sampleDocument) }

/-- A spontaneous object for 1:10 without value, with or without INVALID. -/
def sampleObject (invalid : Int) : Event :=
  .datapoint "TS"
    ⟨"data_object",
      [⟨"do_type", .string "M_SP_NA_1"⟩, ⟨"do_ca", .integer 1⟩,
       ⟨"do_ioa", .integer 10⟩, ⟨"do_cot", .integer Cot.spontaneous⟩,
       ⟨"do_quality_iv", .integer invalid⟩]⟩
    0

theorem reportsInvalid_run_sample :
    EachStep (ReportsInvalid samplePlatform singlePointSystem 1 10)
      [sampleObject 1, .interrogation 1 sampleInterrogation 20] :=
  reportsInvalid_run samplePlatform (some sampleDocument) rfl 1 10 _
    (by decide)

/-- The first object for a point has no value, and the point becomes valid. -/
theorem missingValue_reportedValid :
    ¬ EachStep (ReportsInvalid samplePlatform singlePointSystem 1 10)
      [sampleObject 0] := by
  decide

end Iec104North.InvalidUntilReceived
