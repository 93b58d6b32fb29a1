import Iec104North.InterrogationResponse
import Iec104North.TableReads

/-!
# The last value of a point

An interrogation reports what the last data objects for a point have left: the
quality of the last one, and the value of the last one whose `do_value` had
the type the point requires.  Step positions come as text, and `send` throws
on some texts and reads others that are no step position; the result is about
runs without such texts.
-/

namespace Iec104North.LastValue

open Iec104North.Library
open Iec104North.AsduTypes
open Iec104North.Values
open Iec104North.Config
open Iec104North.DataPoints
open Iec104North.Server
open Iec104North.LedgerRefinement
open Iec104North.Readings
open Iec104North.Interrogation
open Iec104North.InterrogationResponse
open Iec104North.Runs
open Iec104North.TableReads

/-! ## Step positions -/

/-- The position and the transient flag of a text `[n,b]` with an int `n`. -/
def stepPositionOf (str : List Char) : Option (Int × Bool) :=
  if str.head? = some '[' ∧ str.getLast? = some ']' ∧
      ',' ∈ withoutEnds str then
    (intOf ((withoutEnds str).takeWhile (· != ','))).map fun position =>
      (position,
        ((withoutEnds str).dropWhile (· != ',')).drop 1 == "true".toList)
  else
    none

/--
The text is a step position, or has no comma that would make `send` read one.
-/
def ReadableText (str : List Char) : Prop :=
  ((stepPositionOf str).isSome = true ∧ str.length < 0x10000000000000000) ∨
    (str ≠ [] ∧ ',' ∉ withoutEnds str)

instance (str : List Char) : Decidable (ReadableText str) :=
  inferInstanceAs (Decidable (_ ∨ _))

/-- `send` reads such a text as it should. -/
theorem stepPositionValue_readable {str : List Char}
    (readable : ReadableText str) (posValue : BitVec 7)
    (transient : BitVec 1) :
    stepPositionValue posValue transient str =
      .ok
        (((stepPositionOf str).map fun position =>
          .stepPos (BitVec.ofInt 7 position.1)
            (BitVec.ofBool position.2)).getD
          (.stepPos posValue transient)) := by
  rcases readable with ⟨isPosition, fits⟩ | ⟨nonempty, noComma⟩
  · rcases Option.isSome_iff_exists.mp isPosition with ⟨position, found⟩
    simp only [stepPositionOf, Option.ite_none_right_eq_some] at found
    rcases found with ⟨⟨opened, closed, comma⟩, number⟩
    rcases Option.map_eq_some_iff.mp number with ⟨value, isInt, rfl⟩
    have long : 2 ≤ str.length := by
      have some := List.length_pos_of_mem comma
      rw [withoutEnds, List.length_dropLast, List.length_drop] at some
      omega
    simp only [stepPositionValue, substr_withoutEnds long fits, comma, if_true,
      stoi_of_intOf isInt, stepPositionOf, opened, closed, and_self, isInt,
      Option.map_some, Option.getD_some]
  · rcases substr_mem_withoutEnds nonempty with ⟨cleaned, read, within⟩
    have none : ',' ∉ cleaned := fun member => noComma (within _ member)
    simp only [stepPositionValue, read, none, if_false, stepPositionOf,
      noComma, and_false, Option.map_none, Option.getD_none]

/-! ## Last values -/

section LastValues

variable (platform : Platform)

/--
The value of a `do_value` that has the type a point requires, reduced to the
width of its field.
-/
def requiredValue (type : DataType) (value : Option DatapointValue) :
    Option PointValue :=
  match type, value with
  | .sp, some (.integer number) => some (.sp (BitVec.ofInt 1 number))
  | .dp, some (.integer number) => some (.dp (BitVec.ofInt 2 number))
  | .stepPos, some (.string str) =>
      (stepPositionOf str.toList).map fun position =>
        .stepPos (BitVec.ofInt 7 position.1) (BitVec.ofBool position.2)
  | .normalized, some (.float number) =>
      some (.normalized (toFloat number))
  | .scaled, some (.integer number) =>
      some (.scaled (BitVec.ofInt 16 number))
  | .short, some (.float number) => some (.short (toFloat number))
  | _, _ => none

/-- The data object is for a point and no feedback of a command. -/
def Matches (point : DataPoint) (object : DataObject) : Prop :=
  object.ca = point.ca ∧
    object.ioa = point.ioa ∧
    isMessageTypeMatching point.type object.type = true ∧
    object.cot ≠ Cot.activationCon ∧
    object.cot ≠ Cot.activationTermination ∧
    object.cot ≠ Cot.unknownCot

instance (point : DataPoint) (object : DataObject) :
    Decidable (Matches point object) :=
  inferInstanceAs (Decidable (_ ∧ _))

/-- The data object an event brings for a point. -/
def matchedBy (point : DataPoint) : Event → Option DataObject
  | .datapoint _ dp _ =>
      if dp.name = "data_object" ∧
          Matches point (readDataObject platform dp) then
        some (readDataObject platform dp)
      else
        none
  | _ => none

/-- The data objects a run brings for a point, in order. -/
def history (point : DataPoint) (events : List Event) : List DataObject :=
  events.filterMap (matchedBy platform point)

/-- The value of the last object that has one of the required type. -/
def lastValue (point : DataPoint) (objects : List DataObject) :
    PointValue :=
  (objects.filterMap fun object =>
    requiredValue point.type object.value).getLast?.getD
      (DataPoint.initialValue point.type)

/-- The quality of the last object. -/
def lastQuality (objects : List DataObject) : Quality :=
  (objects.getLast?.map DataObject.qd).getD DataPoint.initialQuality

theorem lastValue_concat (point : DataPoint) (objects : List DataObject)
    (object : DataObject) :
    lastValue point (objects ++ [object]) =
      (requiredValue point.type object.value).getD
        (lastValue point objects) := by
  rw [lastValue, lastValue, List.filterMap_append]
  cases found : requiredValue point.type object.value with
  | none => simp [found]
  | some value => simp [found]

theorem lastQuality_concat (objects : List DataObject)
    (object : DataObject) :
    lastQuality (objects ++ [object]) = object.qd := by
  simp [lastQuality]

/-- What an interrogation should report of a point. -/
def lastObject (point : DataPoint) (events : List Event) :
    MonitoringObject :=
  ⟨point.ioa, lastValue point (history platform point events),
    lastQuality (history platform point events), none⟩

/-! ## Updates -/

/-- The text of a `do_value`. -/
def textOf : Option DatapointValue → Option String
  | some (.string str) => some str
  | _ => none

theorem assignValue_readable (value : PointValue)
    (newValue : Option DatapointValue)
    (readable :
      value.dataType = .stepPos →
        ∀ str ∈ textOf newValue, ReadableText str.toList) :
    assignValue value newValue =
      .ok
        ((requiredValue value.dataType newValue).getD value) := by
  cases newValue with
  | none => cases value <;> rfl
  | some attrVal =>
      cases value with
      | stepPos posValue transient =>
          cases attrVal with
          | string str =>
              exact
                stepPositionValue_readable (readable rfl str rfl) posValue
                  transient
          | _ => rfl
      | _ => cases attrVal <;> rfl

/-- A message that matches a point writes the member in use. -/
theorem updatedMember_of_matching {type : DataType} {typeId : Int}
    (matching : isMessageTypeMatching type typeId = true) :
    ∃ timed, updatedMember typeId = some (type, timed) := by
  cases found : TypeId.ofInt? typeId with
  | none => simp [isMessageTypeMatching, found] at matching
  | some named =>
      rcases TypeId.ofInt?_eq_some_iff.mp found with rfl
      revert matching
      cases type <;> cases named <;> decide

/-- What an update makes of the value and the quality of its point. -/
theorem updatedPoint_writes {point updated : DataPoint} {object : DataObject}
    {now : Nat}
    (matching : isMessageTypeMatching point.type object.type = true)
    (update : updatedPoint platform object now point = .ok updated) :
    assignValue point.value object.value = .ok updated.value ∧
      updated.quality = object.qd := by
  rcases updatedMember_of_matching matching with ⟨timed, member⟩
  simp only [updatedPoint, updateDataPoint, member, if_true] at update
  split at update
  · simp at update
  · rename_i assigned assign
    rcases Except.ok.inj update with rfl
    exact ⟨assign, rfl⟩

/-- The data object can be read for its point. -/
def Readable (point : DataPoint) (object : DataObject) : Prop :=
  object.ca ≠ -1 ∧
    object.ioa ≠ -1 ∧
    (point.type = .stepPos →
      ∀ str ∈ textOf object.value, ReadableText str.toList)

instance (point : DataPoint) (object : DataObject) :
    Decidable (Readable point object) :=
  inferInstanceAs (Decidable (_ ∧ _))

theorem updatedPoint_readable {point : DataPoint} {object : DataObject}
    (matching : isMessageTypeMatching point.type object.type = true)
    (readable :
      point.type = .stepPos →
        ∀ str ∈ textOf object.value, ReadableText str.toList)
    (now : Nat) :
    ∃ updated,
      updatedPoint platform object now point = .ok updated ∧
        updated.value =
          (requiredValue point.type object.value).getD
            point.value ∧
        updated.quality = object.qd := by
  rcases updatedMember_of_matching matching with ⟨timed, member⟩
  have assigned :=
    assignValue_readable point.value object.value readable
  simp only [updatedPoint, updateDataPoint, member, if_true, assigned]
  exact ⟨_, rfl, rfl, rfl⟩

end LastValues

/-! ## Steps -/

section Steps

variable (platform : Platform) {system : System} {point current : DataPoint}

/-- A data object that matches a point and has an address reads the table. -/
theorem readObject_of_matches {server : IEC104Server} {dp : Datapoint}
    (name : dp.name = "data_object") (running : server.slaveRunning = true)
    (matching : Matches point (readDataObject platform dp))
    (isCa : (readDataObject platform dp).ca ≠ -1)
    (isIoa : (readDataObject platform dp).ioa ≠ -1) :
    readObject platform server dp = some (readDataObject platform dp) := by
  rcases matching with ⟨-, -, type, notActCon, notActTerm, known⟩
  have noFeedback :=
    objectFeedback_eq_none_iff.mpr ⟨notActCon, notActTerm⟩
  have typed : (readDataObject platform dp).type ≠ -1 := by
    intro untyped
    rw [untyped] at type
    revert type
    cases point.type <;> decide
  have complete : isComplete (readDataObject platform dp) = true := by
    simp [isComplete, isCa, isIoa, known, typed]
  simp only [readObject, name, running, and_self, if_true, noFeedback,
    complete]

/-- Conversely the object with which `send` reads its table entry matches. -/
theorem matches_of_readObject {dp : Datapoint} {object : DataObject}
    (reads : readObject platform system.server dp = some object)
    (ca : object.ca = point.ca) (ioa : object.ioa = point.ioa)
    (type : isMessageTypeMatching point.type object.type = true) :
    dp.name = "data_object" ∧
      object = readDataObject platform dp ∧ Matches point object := by
  rcases readObject_eq_some platform reads with
    ⟨name, -, rfl, noFeedback, complete⟩
  rcases objectFeedback_eq_none_iff.mp noFeedback with ⟨notActCon, notActTerm⟩
  refine ⟨name, rfl, ca, ioa, type, notActCon, notActTerm, ?_⟩
  intro unknown
  simp [isComplete, unknown] at complete

/-- An event that brings nothing for a point leaves it. -/
theorem step_unmatched {event : Event}
    (found :
      system.server.exchangeDefinitions.lookup point.ca point.ioa =
        some current)
    (settings : current.settings = point.settings)
    (nothing : matchedBy platform point event = none) :
    (step platform system event).1.server.exchangeDefinitions.lookup
        point.ca point.ioa =
      some current := by
  by_cases datapoint :
      ∃ assetName dp now, event = .datapoint assetName dp now
  · rcases datapoint with ⟨assetName, dp, now, rfl⟩
    cases reads : readObject platform system.server dp with
    | none =>
        rw [(step_datapoint_noRead platform system assetName dp now reads).1]
        exact found
    | some object =>
        rw [step_datapoint_read platform system assetName now reads,
          lookup_tableAfter]
        split
        · rename_i address
          have unmatched :
              matchedPoint system.server.exchangeDefinitions object =
                none := by
            by_contra hit
            rcases Option.ne_none_iff_exists'.mp hit with ⟨other, isMatched⟩
            rcases matchedPoint_eq_some isMatched with ⟨isFound, type⟩
            rw [← address.1, ← address.2, found] at isFound
            rcases Option.some.inj isFound with rfl
            rw [DataPoint.type_eq_of_settings settings] at type
            rcases
                matches_of_readObject platform reads address.1.symm
                  address.2.symm type with
              ⟨name, rfl, isMatch⟩
            simp [matchedBy, name, isMatch] at nothing
          rw [unmatched]
          exact found
        · exact found
  · rw [step_lookup platform system event
      fun assetName dp now isDatapoint =>
        datapoint ⟨assetName, dp, now, isDatapoint⟩]
    exact found

/-- A data object is processed while the slave is running. -/
def WhileRunning (system : System) : Event → Prop
  | .datapoint _ dp _ =>
      dp.name = "data_object" → system.server.slaveRunning = true
  | _ => True

/-- A data object that brings something for a point is written to it. -/
theorem step_matched {event : Event} {object : DataObject}
    (found :
      system.server.exchangeDefinitions.lookup point.ca point.ioa =
        some current)
    (settings : current.settings = point.settings)
    (running : WhileRunning system event)
    (brings : matchedBy platform point event = some object)
    (readable : Readable point object) :
    ∃ next,
      (step platform system event).1.server.exchangeDefinitions.lookup
          point.ca point.ioa =
          some next ∧
        next.settings = point.settings ∧
        next.value =
          (requiredValue point.type object.value).getD
            current.value ∧
        next.quality = object.qd := by
  cases event with
  | datapoint assetName dp now =>
      simp only [matchedBy, Option.ite_none_right_eq_some] at brings
      rcases brings with ⟨⟨name, isMatch⟩, isObject⟩
      rcases Option.some.inj isObject with rfl
      have reads :=
        readObject_of_matches platform name (running name) isMatch
          readable.1 readable.2.1
      have type := DataPoint.type_eq_of_settings settings
      rcases isMatch with ⟨ca, ioa, matching, -⟩
      rw [← type] at matching
      have isMatched :
          matchedPoint system.server.exchangeDefinitions
              (readDataObject platform dp) =
            some current := by
        rw [matchedPoint, ca, ioa, found]
        simpa using matching
      obtain ⟨updated, update, value, quality⟩ :=
        updatedPoint_readable platform matching
          (by rw [type]; exact readable.2.2) now
      refine
        ⟨updated, ?_,
          (updatedPoint_settings platform update).trans settings, ?_,
          quality⟩
      · rw [step_datapoint_read platform system assetName now reads,
          lookup_tableAfter, if_pos ⟨ca.symm, ioa.symm⟩, isMatched]
        simp only [update]
      · rw [value, type]
  | _ => simp [matchedBy] at brings

end Steps

/-! ## Runs -/

section Runs

variable (platform : Platform) {start : System} {events : List Event}

/-- The points of a table are as the constructor leaves them. -/
def IsImported (table : PointTable) : Prop :=
  ∀ ca ioa point,
    table.lookup ca ioa = some point →
      point.value = DataPoint.initialValue point.type ∧
        point.quality = DataPoint.initialQuality

/-- Every data object of an event can be read for the point it is for. -/
def ReadableEvent (table : PointTable) (event : Event) : Prop :=
  ∀ ca ioa point,
    table.lookup ca ioa = some point →
      ∀ object ∈ matchedBy platform point event, Readable point object

/-- The run lemma: each point has the last value and the last quality. -/
theorem lookup_run (imported : IsImported start.server.exchangeDefinitions)
    (running :
      EachStep
        (fun earlier event =>
          WhileRunning ((machine platform).after start earlier) event)
        events)
    (readable :
      ∀ event ∈ events,
        ReadableEvent platform start.server.exchangeDefinitions event)
    {point : DataPoint}
    (isImported :
      start.server.exchangeDefinitions.lookup point.ca point.ioa =
        some point) :
    ∃ current,
      ((machine platform).after start
          events).server.exchangeDefinitions.lookup point.ca point.ioa =
          some current ∧
        current.settings = point.settings ∧
        current.value =
          lastValue point (history platform point events) ∧
        current.quality = lastQuality (history platform point events) := by
  induction events using List.reverseRecOn with
  | nil =>
      have initial := imported _ _ _ isImported
      exact ⟨point, isImported, rfl, initial.1, initial.2⟩
  | append_singleton events event ih =>
      rcases (eachStep_concat_iff _ _ _).mp running with ⟨before, last⟩
      obtain ⟨current, found, settings, value, quality⟩ :=
        ih before fun other member => readable other (by simp [member])
      have grown :
          history platform point (events ++ [event]) =
            history platform point events ++
              (matchedBy platform point event).toList := by
        rw [history, history, List.filterMap_append]
        cases brings : matchedBy platform point event with
        | none => simp [brings]
        | some object => simp [brings]
      rw [Machine.after_append, grown]
      cases brings : matchedBy platform point event with
      | none =>
          exact
            ⟨current, step_unmatched platform found settings brings,
              settings, by simpa using value, by simpa using quality⟩
      | some object =>
          obtain ⟨next, written, kept, newValue, newQuality⟩ :=
            step_matched platform found settings last brings
              (readable event (by simp) _ _ _ isImported object brings)
          refine ⟨next, written, kept, ?_, ?_⟩
          · rw [newValue, value, Option.toList_some, lastValue_concat]
          · rw [newQuality, Option.toList_some, lastQuality_concat]

end Runs

/-! ## Spontaneous objects -/

section Spontaneous

variable (platform : Platform)

theorem spontaneousObject_eq_some {dp : DataPoint} {typeId : Int}
    {io : MonitoringObject}
    (created : spontaneousObject dp typeId = some io) :
    io.objectAddress = dp.ioa ∧
      io.value = dp.value ∧ io.quality = dp.quality := by
  simp only [spontaneousObject] at created
  split at created
  all_goals
    cases created
    try exact ⟨rfl, rfl, rfl⟩

/-- An enqueued ASDU has no other object than the one of its point. -/
theorem enqueueSpontDatapoint_objects {server : IEC104Server}
    {dp : DataPoint} {cot : CauseOfTransmission} {typeId : Int}
    {asdu : DataAsdu} {object : MonitoringObject}
    (enqueued :
      .enqueueAsdu asdu ∈
        enqueueSpontDatapoint platform server dp cot typeId)
    (member : object ∈ asdu.objects) :
    asdu.ca = dp.ca ∧
      object.objectAddress = dp.ioa ∧
      object.value = dp.value ∧ object.quality = dp.quality := by
  simp only [enqueueSpontDatapoint] at enqueued
  split at enqueued
  · simp at enqueued
  · rename_i io created
    rcases Effect.enqueueAsdu.inj (List.mem_singleton.mp enqueued) with rfl
    cases added :
        addInformationObject platform server.config.appLayerParameters
          { cot := cot, oa := 0, ca := dp.ca, objects := [] } io with
    | none => simp [added] at member
    | some extended =>
        rcases addInformationObject_eq_some platform _ added with ⟨rfl, -⟩
        rw [added] at member
        obtain rfl : object = io := by simpa using member
        exact ⟨rfl, spontaneousObject_eq_some created⟩

/-- What is enqueued for a point is what the point now has. -/
theorem lookup_of_enqueued {system : System} {assetName : String}
    {dp : Datapoint} {now : Nat} {asdu : DataAsdu}
    {object : MonitoringObject}
    (enqueued :
      .enqueueAsdu asdu ∈
        (step platform system (.datapoint assetName dp now)).2)
    (member : object ∈ asdu.objects) :
    ∃ current,
      (step platform system
            (.datapoint assetName dp
              now)).1.server.exchangeDefinitions.lookup asdu.ca
          object.objectAddress =
          some current ∧
        current.value = object.value ∧
        current.quality = object.quality := by
  cases reads : readObject platform system.server dp with
  | none =>
      exact
        ((step_datapoint_noRead platform system assetName dp now
          reads).2.2 asdu enqueued).elim
  | some received =>
      rw [step_datapoint_read platform system assetName now reads]
        at enqueued ⊢
      rcases exists_of_mem_enqueuedFor platform enqueued with
        ⟨point, updated, isMatched, update, forPoint⟩
      rcases enqueueSpontDatapoint_objects platform forPoint member with
        ⟨ca, ioa, value, quality⟩
      have address :=
        PointTable.lookup_addressed (matchedPoint_eq_some isMatched).1
      have settings := updatedPoint_settings platform update
      rw [DataPoint.ca_eq_of_settings settings, address.1] at ca
      rw [DataPoint.ioa_eq_of_settings settings, address.2] at ioa
      refine ⟨updated, ?_, value.symm, quality.symm⟩
      rw [lookup_tableAfter, ca, ioa, if_pos ⟨rfl, rfl⟩, isMatched]
      simp only [update]

end Spontaneous

/-! ## Interrogations -/

theorem isCovered_of_settings {point current : DataPoint}
    (same : current.settings = point.settings) (qoi : Nat) :
    IsCovered qoi current ↔ IsCovered qoi point := by
  rw [IsCovered, IsCovered, isInGroup, isInGroup,
    DataPoint.isCommand_eq_of_settings same,
    DataPoint.giGroups_eq_of_settings same]

/-- The point behind one with its settings. -/
theorem lookup_of_sameSettings {before after : PointTable}
    (same : SameSettings before after) {ca ioa : Int} {current : DataPoint}
    (found : after.lookup ca ioa = some current) :
    ∃ point,
      before.lookup ca ioa = some point ∧
        current.settings = point.settings := by
  have settings := same ca ioa
  rw [found, Option.map_some, eq_comm, Option.map_eq_some_iff] at settings
  rcases settings with ⟨point, isImported, equal⟩
  exact ⟨point, isImported, equal.symm⟩

/-- After a run every imported point has its last value and quality. -/
theorem exists_lastObject (platform : Platform) {start : System}
    {events : List Event}
    (imported : IsImported start.server.exchangeDefinitions)
    (running :
      EachStep
        (fun earlier event =>
          WhileRunning ((machine platform).after start earlier) event)
        events)
    (readable :
      ∀ event ∈ events,
        ReadableEvent platform start.server.exchangeDefinitions event)
    {point : DataPoint} {ca ioa : Int}
    (isImported :
      start.server.exchangeDefinitions.lookup ca ioa = some point) :
    ∃ current,
      ((machine platform).after start
          events).server.exchangeDefinitions.lookup ca ioa =
          some current ∧
        current.settings = point.settings ∧
        pointObject current = lastObject platform point events := by
  rcases PointTable.lookup_addressed isImported with ⟨rfl, rfl⟩
  rcases lookup_run platform imported running readable isImported with
    ⟨current, found, settings, value, quality⟩
  refine ⟨current, found, settings, ?_⟩
  rw [pointObject, lastObject, DataPoint.ioa_eq_of_settings settings, value,
    quality]

/--
In every run whose data objects are processed while the slave is running and
can be read, an interrogation reports of every point it covers the last value
and the last quality.  What was just enqueued spontaneously is what it reports.
-/
theorem interrogation_reportsLast (platform : Platform) (start : System)
    (imported : IsImported start.server.exchangeDefinitions)
    (events : List Event)
    (running :
      EachStep
        (fun earlier event =>
          WhileRunning ((machine platform).after start earlier) event)
        events)
    (readable :
      ∀ event ∈ events,
        ReadableEvent platform start.server.exchangeDefinitions event) :
    let system := (machine platform).after start events
    (∀ connection asdu ca qoi,
      ∀ object ∈
          reportedObjects
            (sendInterrogationResponse platform system.server connection
              asdu ca qoi).2,
        ∃ point,
          start.server.exchangeDefinitions.lookup ca object.objectAddress =
              some point ∧
            IsCovered qoi point ∧
            object = lastObject platform point events) ∧
    (FitsEmpty platform start.server.config.appLayerParameters →
      (∀ connection asdu ca qoi ioa point,
        start.server.exchangeDefinitions.lookup ca ioa = some point →
        IsCovered qoi point →
          lastObject platform point events ∈
            reportedObjects
              (sendInterrogationResponse platform system.server connection
                asdu ca qoi).2) ∧
      ∀ assetName dp now asdu object,
        .enqueueAsdu asdu ∈
          (step platform system (.datapoint assetName dp now)).2 →
        object ∈ asdu.objects →
          ∀ connection request qoi point,
            start.server.exchangeDefinitions.lookup asdu.ca
                object.objectAddress = some point →
            IsCovered qoi point →
              ⟨object.objectAddress, object.value, object.quality, none⟩ ∈
                reportedObjects
                  (sendInterrogationResponse platform
                    (step platform system
                      (.datapoint assetName dp now)).1.server connection
                    request asdu.ca qoi).2) := by
  intro system
  have same : SameSettings _ system.server.exchangeDefinitions :=
    sameSettings_run platform start events
  have parameters : system.server.config.appLayerParameters = _ :=
    appLayerParameters_run platform start events
  have last :
      ∀ {point : DataPoint} {ca ioa : Int},
        start.server.exchangeDefinitions.lookup ca ioa = some point →
          ∃ current,
            system.server.exchangeDefinitions.lookup ca ioa = some current ∧
              current.settings = point.settings ∧
              pointObject current = lastObject platform point events :=
    fun isImported =>
      exists_lastObject platform imported running readable isImported
  refine ⟨?_, fun fits => ⟨?_, ?_⟩⟩
  · intro connection asdu ca qoi object reported
    rcases
        (mem_responseObjects_iff _ ca qoi object).mp
          (mem_responseObjects_of_reported platform system.server connection
            asdu ca qoi reported) with
      ⟨current, found, covered, rfl⟩
    rcases lookup_of_sameSettings same found with ⟨point, isImported, -⟩
    rcases last isImported with ⟨other, isFound, settings, equal⟩
    rcases Option.some.inj (found.symm.trans isFound) with rfl
    exact
      ⟨point, isImported, (isCovered_of_settings settings qoi).mp covered,
        equal⟩
  · intro connection asdu ca qoi ioa point isImported covered
    rcases last isImported with ⟨current, found, settings, equal⟩
    rw [reportedObjects_eq platform system.server connection asdu ca qoi
      (by rw [parameters]; exact fits), ← equal]
    exact
      pointObject_mem_responseObjects found
        ((isCovered_of_settings settings qoi).mpr covered)
  · intro assetName dp now asdu object enqueued member connection request
      qoi point isImported covered
    rcases lookup_of_enqueued platform enqueued member with
      ⟨current, found, value, quality⟩
    have settings :=
      same.trans
        (step_sameSettings platform system (.datapoint assetName dp now))
    rcases lookup_of_sameSettings settings found with ⟨other, isOther, equal⟩
    rcases Option.some.inj (isImported.symm.trans isOther) with rfl
    have isPoint :
        pointObject current =
          ⟨object.objectAddress, object.value, object.quality, none⟩ := by
      rw [pointObject, (PointTable.lookup_addressed found).2, value, quality]
    rw [← isPoint, reportedObjects_eq platform _ connection request asdu.ca qoi
      (by
        rw [step_appLayerParameters, parameters]
        exact fits)]
    exact
      pointObject_mem_responseObjects found
        ((isCovered_of_settings equal qoi).mpr covered)

/-- Importing a point keeps the others as they were imported. -/
theorem IsImported.store {table : PointTable} (imported : IsImported table)
    (label : String) (ca ioa : Int) (type : DataType) (isCommand : Bool)
    (giGroups : BitVec 32) :
    IsImported
      (table.store
        (DataPoint.create label ca ioa type isCommand giGroups)) := by
  intro otherCa otherIoa point found
  rw [PointTable.lookup_store] at found
  split at found
  · rcases Option.some.inj found with rfl
    simp [DataPoint.create, DataPoint.type]
  · exact imported otherCa otherIoa point found

theorem IsImported.empty : IsImported PointTable.empty := by
  intro ca ioa point found
  simp at found

/-- A step position at 1:10. -/
def samplePoint : DataPoint :=
  DataPoint.create "TM" 1 10 .stepPos false 1

/-- `sampleSystem` with `samplePoint` only. -/
def sampleSteps : System where
  server :=
    { sampleServer with
      exchangeDefinitions := PointTable.empty.store samplePoint }

/-- A text for `samplePoint`, with or without the flag `blocked`. -/
def sampleText (text : String) (blocked : Int) : Event :=
  .datapoint "south"
    ⟨"data_object",
      [⟨"do_type", .string "M_ST_NA_1"⟩, ⟨"do_ca", .integer 1⟩,
       ⟨"do_ioa", .integer 10⟩, ⟨"do_cot", .integer Cot.spontaneous⟩,
       ⟨"do_value", .string text⟩, ⟨"do_quality_bl", .integer blocked⟩]⟩
    0

theorem readableEvent_sample {event : Event}
    (readable :
      ∀ object ∈ matchedBy samplePlatform samplePoint event,
        Readable samplePoint object) :
    ReadableEvent samplePlatform sampleSteps.server.exchangeDefinitions
      event := by
  intro ca ioa point found
  rw [sampleSteps, PointTable.lookup_store] at found
  split at found
  · rcases Option.some.inj found with rfl
    exact readable
  · simp at found

/-- The second text is no step position: the point keeps its value. -/
theorem interrogation_reportsLast_sample :
    lastObject samplePlatform samplePoint
        [sampleText "[5,true]" 0, sampleText "[5]" 1] ∈
      reportedObjects
        (sendInterrogationResponse samplePlatform
          ((machine samplePlatform).after sampleSteps
            [sampleText "[5,true]" 0, sampleText "[5]" 1]).server
          1 sampleInterrogation 1 20).2 := by
  refine
    ((interrogation_reportsLast samplePlatform sampleSteps
        (IsImported.empty.store _ _ _ _ _ _) _ ?_ ?_).2
      fitsEmpty_sample).1 1 sampleInterrogation 1 20 10 samplePoint
      (by decide) (by decide)
  · exact
      (eachStep_concat_iff _ [_] _).mpr
        ⟨(eachStep_concat_iff _ [] _).mpr
          ⟨eachStep_nil _, fun _ => rfl⟩, fun _ => rfl⟩
  · simp only [List.forall_mem_cons]
    exact
      ⟨readableEvent_sample (by decide), readableEvent_sample (by decide),
        by simp⟩

/--
An empty text throws: its flag `blocked` is lost.  `(7x,true)` is no step
position and is read as one.
-/
theorem unreadableTexts_reported :
    reportedObjects
          (sendInterrogationResponse samplePlatform
            ((machine samplePlatform).after sampleSteps
              [sampleText "[5,true]" 0, sampleText "" 1]).server
            1 sampleInterrogation 1 20).2 =
        [⟨10, .stepPos 5 1, Quality.good, none⟩] ∧
      lastObject samplePlatform samplePoint
          [sampleText "[5,true]" 0, sampleText "" 1] =
        ⟨10, .stepPos 5 1, Quality.blocked, none⟩ ∧
      reportedObjects
          (sendInterrogationResponse samplePlatform
            ((machine samplePlatform).after sampleSteps
              [sampleText "[5,true]" 0, sampleText "(7x,true)" 0]).server
            1 sampleInterrogation 1 20).2 =
        [⟨10, .stepPos 7 1, Quality.good, none⟩] ∧
      lastObject samplePlatform samplePoint
          [sampleText "[5,true]" 0, sampleText "(7x,true)" 0] =
        ⟨10, .stepPos 5 1, Quality.good, none⟩ := by
  decide

end Iec104North.LastValue
