import Iec104North.AsduSize
import Iec104North.AttributeReading

/-!
# The ASDUs of a batch

Every spontaneous data object for a point gives one ASDU, with what this data
object brought: `m_enqueueSpontDatapoint` encodes the point before the next
data object can change it.
-/

namespace Iec104North.SpontaneousAsdus

open Iec104North.Library
open Iec104North.AsduTypes
open Iec104North.Values
open Iec104North.DataPoints
open Iec104North.Server
open Iec104North.LedgerRefinement
open Iec104North.Readings
open Iec104North.TableReads
open Iec104North.LastValue
open Iec104North.SpontaneousDelivery
open Iec104North.AsduSize
open Iec104North.AttributeReading

/-! ## Message types -/

/-- The message type of a data type without time tag. -/
def untimedType : DataType → TypeId
  | .sp => .M_SP_NA_1
  | .dp => .M_DP_NA_1
  | .stepPos => .M_ST_NA_1
  | .normalized => .M_ME_NA_1
  | .scaled => .M_ME_NB_1
  | .short => .M_ME_NC_1

/-- The message type of a data type with the long time tag. -/
def timedType : DataType → TypeId
  | .sp => .M_SP_TB_1
  | .dp => .M_DP_TB_1
  | .stepPos => .M_ST_TB_1
  | .normalized => .M_ME_TD_1
  | .scaled => .M_ME_TE_1
  | .short => .M_ME_TF_1

/-- A message type is one of the twelve, for a data type. -/
def IsMessageType (type : DataType) (typeId : Int) : Prop :=
  typeId = (untimedType type).value ∨ typeId = (timedType type).value

instance (type : DataType) (typeId : Int) :
    Decidable (IsMessageType type typeId) :=
  inferInstanceAs (Decidable (_ ∨ _))

theorem isMessageTypeMatching_eq_true_iff {type : DataType}
    {typeId : Int} :
    isMessageTypeMatching type typeId = true ↔ IsMessageType type typeId := by
  constructor
  · intro matching
    cases found : TypeId.ofInt? typeId with
    | none => simp [isMessageTypeMatching, found] at matching
    | some named =>
        rcases TypeId.ofInt?_eq_some_iff.mp found with rfl
        revert matching
        cases type <;> cases named <;> decide
  · rintro (rfl | rfl) <;> cases type <;> rfl

theorem updatedMember_of_isMessageType {type : DataType} {typeId : Int}
    (isType : IsMessageType type typeId) :
    updatedMember typeId =
      some (type, typeId == (timedType type).value) := by
  rcases isType with rfl | rfl <;> cases type <;> rfl

/-- The object of a point has a time tag when its message type has. -/
theorem spontaneousObject_of_isMessageType {point : DataPoint}
    {type : DataType} {typeId : Int} (isType : IsMessageType type typeId) :
    spontaneousObject point typeId =
      some
        ⟨point.ioa, point.value, point.quality,
          if typeId = (timedType type).value then point.ts else none⟩ := by
  rcases isType with rfl | rfl <;> cases type <;> rfl

/-- The type of an object is the message type it was made for. -/
theorem typeId_of_isMessageType {object : MonitoringObject} {typeId : Int}
    (isType : IsMessageType object.value.dataType typeId)
    (timed :
      object.timestamp.isSome = true ↔
        typeId = (timedType object.value.dataType).value) :
    object.typeId.value = typeId := by
  rcases object with ⟨address, value, quality, timestamp⟩
  cases timestamp with
  | none =>
      have untimed : typeId ≠ (timedType value.dataType).value := by
        simpa using timed
      rcases isType with rfl | isTimed
      · cases value <;> rfl
      · exact absurd isTimed untimed
  | some time =>
      rcases timed.mp rfl with rfl
      cases value <;> rfl

/-! ## What a data object brings -/

section DataObjects

variable (platform : Platform)

/-- The time stamp a data object gives, or the current time. -/
def timeOf (object : DataObject) (now : Nat) : CP56Time2a :=
  (object.ts platform).getD (platform.createFromMsTimestamp now)

/-- A point with what a data object brings. -/
def written (object : DataObject) (now : Nat) (point : DataPoint) :
    DataPoint :=
  { point with
    value :=
      (requiredValue point.type object.value).getD point.value
    quality := object.qd
    ts :=
      if object.type = (timedType point.type).value then
        some (timeOf platform object now)
      else
        point.ts }

/-- The update of a point by a data object that can be read for it. -/
theorem updatedPoint_eq {point : DataPoint} {object : DataObject}
    (isType : IsMessageType point.type object.type)
    (readable :
      point.type = .stepPos →
        ∀ str ∈ textOf object.value, ReadableText str.toList)
    (now : Nat) :
    updatedPoint platform object now point =
      .ok (written platform object now point) := by
  have assigned :=
    assignValue_readable point.value object.value readable
  simp only [updatedPoint, updateDataPoint,
    updatedMember_of_isMessageType isType, if_true, assigned, beq_iff_eq]
  rfl

/-- A data object changes a point and is no feedback of a command. -/
def Applies (point : DataPoint) (object : DataObject) : Prop :=
  Matches point object ∧ object.ca ≠ -1 ∧ object.ioa ≠ -1

instance (point : DataPoint) (object : DataObject) :
    Decidable (Applies point object) :=
  inferInstanceAs (Decidable (_ ∧ _))

/-- The value of a point after the data objects which came for it. -/
def valueAfter (point : DataPoint) (objects : List DataObject) :
    PointValue :=
  ((objects.filter fun object => Applies point object).filterMap
      fun object =>
        requiredValue point.type object.value).getLast?.getD
    point.value

theorem valueAfter_concat (point : DataPoint) (objects : List DataObject)
    (object : DataObject) :
    valueAfter point (objects ++ [object]) =
      if Applies point object then
        (requiredValue point.type object.value).getD
          (valueAfter point objects)
      else
        valueAfter point objects := by
  rw [valueAfter, List.filter_append, List.filterMap_append]
  split
  · rename_i applies
    cases found : requiredValue point.type object.value with
    | none => simp [applies, found, valueAfter]
    | some value => simp [applies, found]
  · rename_i other
    simp [other, valueAfter]

/-- A data object that should be enqueued. -/
def IsDelivered (table : PointTable) (object : DataObject) : Prop :=
  isSpontaneousCot object.cot = true ∧
    object.ca ≠ -1 ∧
    object.ioa ≠ -1 ∧
    ∃ point ∈ table.lookup object.ca object.ioa,
      IsMessageType point.type object.type

instance (table : PointTable) (object : DataObject) :
    Decidable (IsDelivered table object) :=
  inferInstanceAs (Decidable (_ ∧ _))

/-- The ASDU of a data object which comes after others in a batch. -/
structure Carries (table : PointTable) (earlier : List DataObject)
    (object : DataObject) (now : Nat) (asdu : DataAsdu) : Prop where
  cot : asdu.cot = object.cot
  ca : asdu.ca = object.ca
  single :
    ∃ point ∈ table.lookup object.ca object.ioa,
      ∃ io : MonitoringObject,
        asdu.objects = [io] ∧
          io.typeId.value = object.type ∧
          io.objectAddress = point.ioa ∧
          io.quality = object.qd ∧
          io.value =
            (requiredValue point.type object.value).getD
              (valueAfter point earlier) ∧
          io.timestamp =
            if object.type = (timedType point.type).value then
              some (timeOf platform object now)
            else
              none

end DataObjects

/-! ## One data point -/

/-- The ASDUs that are enqueued. -/
def enqueuedAsdus (effects : List Effect) : List DataAsdu :=
  effects.filterMap fun
    | .enqueueAsdu asdu => some asdu
    | _ => none

theorem enqueuedAsdus_append (first second : List Effect) :
    enqueuedAsdus (first ++ second) =
      enqueuedAsdus first ++ enqueuedAsdus second :=
  List.filterMap_append

theorem enqueuedAsdus_eq_nil {effects : List Effect}
    (silent : ∀ asdu, .enqueueAsdu asdu ∉ effects) :
    enqueuedAsdus effects = [] := by
  refine List.filterMap_eq_nil_iff.mpr fun effect member => ?_
  cases effect with
  | enqueueAsdu asdu => exact absurd member (silent asdu)
  | _ => rfl

section Steps

variable (platform : Platform)

/-- The data object of a data point. -/
def objectAt (dp : Datapoint) : Option DataObject :=
  if dp.name = "data_object" then
    some (objectOf platform dp.attributes)
  else
    none

/-- The data objects of the first data points of a batch. -/
def objectsOf (items : List (String × Datapoint)) : List DataObject :=
  items.filterMap fun item => objectAt platform item.2

theorem objectsOf_concat (items : List (String × Datapoint))
    (item : String × Datapoint) :
    objectsOf platform (items ++ [item]) =
      objectsOf platform items ++ (objectAt platform item.2).toList := by
  rw [objectsOf, List.filterMap_append]
  cases found : objectAt platform item.2 with
  | none => simp [objectsOf, found]
  | some object => simp [objectsOf, found]

/-- The state of a server that has processed the first data objects. -/
structure Follows (start : IEC104Server) (earlier : List DataObject)
    (server : IEC104Server) : Prop where
  running : server.slaveRunning = true
  parameters :
    server.config.appLayerParameters = start.config.appLayerParameters
  points :
    ∀ ca ioa,
      (server.exchangeDefinitions.lookup ca ioa).map
          (fun current => (current.settings, current.value)) =
        (start.exchangeDefinitions.lookup ca ioa).map fun point =>
          (point.settings, valueAfter point earlier)

/-- What the table has of a point of the start. -/
structure IsCurrent (point : DataPoint) (earlier : List DataObject)
    (current : DataPoint) : Prop where
  settings : current.settings = point.settings
  value : current.value = valueAfter point earlier

/-- The data objects of a data point can be read for the points. -/
def ReadableAt (dp : Datapoint) : Prop :=
  ∀ object ∈ objectAt platform dp,
    IsMessageType .stepPos object.type →
      ∀ str ∈ textOf object.value, ReadableText str.toList

/-- A data object that is read for a point changes it. -/
theorem applies_iff_of_reads {server : IEC104Server} {dp : Datapoint}
    {object : DataObject} (reads : readObject platform server dp = some object)
    (point : DataPoint) :
    Applies point object ↔
      object.ca = point.ca ∧
        object.ioa = point.ioa ∧ IsMessageType point.type object.type := by
  rcases readObject_eq_some platform reads with
    ⟨-, -, -, noFeedback, complete⟩
  rcases objectFeedback_eq_none_iff.mp noFeedback with ⟨notActCon, notActTerm⟩
  simp only [isComplete, Bool.and_eq_true, bne_iff_ne, ne_eq] at complete
  rcases complete with ⟨⟨⟨ca, ioa⟩, known⟩, -⟩
  simp only [Applies, Matches, isMessageTypeMatching_eq_true_iff]
  tauto

/-- What should be enqueued changes the point at its address. -/
theorem IsDelivered.applies {table : PointTable} {object : DataObject}
    (delivered : IsDelivered table object) :
    ∃ point ∈ table.lookup object.ca object.ioa, Applies point object := by
  rcases delivered with ⟨spontaneous, ca, ioa, point, found, type⟩
  rcases isSpontaneousCot_cases spontaneous with
    ⟨notActCon, notActTerm, known⟩
  have address := PointTable.lookup_addressed found
  exact
    ⟨point, found,
      ⟨address.1.symm, address.2.symm,
        isMessageTypeMatching_eq_true_iff.mpr type, notActCon, notActTerm,
        known⟩,
      ca, ioa⟩

/-- The data object of a data point changes no point. -/
def ChangesNone (start : IEC104Server) (dp : Datapoint) : Prop :=
  ∀ object ∈ objectAt platform dp,
    ∀ point ∈ start.exchangeDefinitions.lookup object.ca object.ioa,
      ¬ Applies point object

theorem ChangesNone.not_isDelivered {start : IEC104Server}
    {dp : Datapoint} (none : ChangesNone platform start dp)
    {object : DataObject} (isObject : object ∈ objectAt platform dp) :
    ¬ IsDelivered start.exchangeDefinitions object := by
  intro delivered
  rcases delivered.applies with ⟨point, found, applies⟩
  exact none object isObject point found applies

namespace Follows

variable {platform}
variable {start server processed : IEC104Server} {earlier : List DataObject}

/-- A data object that changes no point leaves the values. -/
theorem silent (follows : Follows start earlier server)
    {dp : Datapoint} (none : ChangesNone platform start dp)
    (running : processed.slaveRunning = true)
    (parameters :
      processed.config.appLayerParameters =
        server.config.appLayerParameters)
    (same :
      ∀ ca ioa,
        processed.exchangeDefinitions.lookup ca ioa =
          server.exchangeDefinitions.lookup ca ioa) :
    Follows start (earlier ++ (objectAt platform dp).toList)
      processed where
  running := running
  parameters := parameters.trans follows.parameters
  points := by
    intro ca ioa
    rw [same, follows.points]
    cases isObject : objectAt platform dp with
    | none => simp
    | some object =>
        refine Option.map_congr fun point found => ?_
        have other : ¬ Applies point object := by
          intro applies
          have address := PointTable.lookup_addressed found
          refine none object isObject point ?_ applies
          rw [applies.1.1, applies.1.2.1, address.1, address.2]
          exact found
        simp [valueAfter_concat, other]

/-- The point of the start behind a point of the table. -/
theorem point_of_lookup (follows : Follows start earlier server)
    {ca ioa : Int} {current : DataPoint}
    (found : server.exchangeDefinitions.lookup ca ioa = some current) :
    ∃ point,
      start.exchangeDefinitions.lookup ca ioa = some point ∧
        IsCurrent point earlier current := by
  have points := follows.points ca ioa
  rw [found, Option.map_some, eq_comm, Option.map_eq_some_iff] at points
  rcases points with ⟨point, isPoint, same⟩
  rcases Prod.mk.inj same with ⟨settings, value⟩
  exact ⟨point, isPoint, settings.symm, value.symm⟩

/-- The point of the table for a point of the start. -/
theorem lookup_of_point (follows : Follows start earlier server)
    {ca ioa : Int} {point : DataPoint}
    (isPoint : start.exchangeDefinitions.lookup ca ioa = some point) :
    ∃ current,
      server.exchangeDefinitions.lookup ca ioa = some current ∧
        IsCurrent point earlier current := by
  have points := follows.points ca ioa
  rw [isPoint, Option.map_some, Option.map_eq_some_iff] at points
  rcases points with ⟨current, found, same⟩
  rcases Prod.mk.inj same with ⟨settings, value⟩
  exact ⟨current, found, settings, value⟩

end Follows

/-- What one data point adds to the ASDUs. -/
def Adds (start : IEC104Server) (earlier : List DataObject)
    (dp : Datapoint) (now : Nat) (asdus : List DataAsdu) : Prop :=
  (∃ object ∈ objectAt platform dp,
    IsDelivered start.exchangeDefinitions object ∧
      ∃ asdu,
        asdus = [asdu] ∧
          Carries platform start.exchangeDefinitions earlier object now
            asdu) ∨
    (∀ object ∈ objectAt platform dp,
        ¬ IsDelivered start.exchangeDefinitions object) ∧
      asdus = []

/-- A data point is processed, and adds what it should. -/
def Delivers (start server : IEC104Server) (earlier : List DataObject)
    (assetName : String) (dp : Datapoint) (now : Nat) : Prop :=
  ∃ processed effects,
    sendDatapoint platform server assetName dp now =
        .ok (processed, effects) ∧
      Follows start (earlier ++ (objectAt platform dp).toList)
        processed ∧
      Adds platform start earlier dp now (enqueuedAsdus effects)

variable {platform}
variable {start server : IEC104Server} {earlier : List DataObject}
  {dp : Datapoint}

/-- A data point that changes no point. -/
theorem delivers_of_changesNone
    (follows : Follows start earlier server)
    (assetName : String) (now : Nat)
    (none : ChangesNone platform start dp) :
    Delivers platform start server earlier assetName dp now := by
  cases reads : readObject platform server dp with
  | none =>
      rcases sendDatapoint_noRead platform assetName now reads with
        ⟨processed, effects, sent, leaves⟩
      exact
        ⟨processed, effects, sent,
          follows.silent none (leaves.slaveRunning.trans follows.running)
            (by rw [leaves.config]; rfl)
            (fun ca ioa => by rw [leaves.exchangeDefinitions]),
          Or.inr
            ⟨fun _ => none.not_isDelivered platform,
              enqueuedAsdus_eq_nil (leaves.not_mem platform)⟩⟩
  | some object =>
      rcases readObject_eq_some platform reads with
        ⟨isObject, -, rfl, noFeedback, complete⟩
      have unmatched :
          matchedPoint server.exchangeDefinitions
              (readDataObject platform dp) =
            .none := by
        by_contra hit
        rcases Option.ne_none_iff_exists'.mp hit with ⟨current, isMatched⟩
        rcases matchedPoint_eq_some isMatched with ⟨found, type⟩
        rcases follows.point_of_lookup found with
          ⟨point, isPoint, isCurrent⟩
        have address := PointTable.lookup_addressed isPoint
        refine
          none (readDataObject platform dp) ?_ point isPoint
            ((applies_iff_of_reads platform reads point).mpr
              ⟨address.1.symm, address.2.symm, ?_⟩)
        · simp [objectAt, isObject, readDataObject_eq]
        · rw [← DataPoint.type_eq_of_settings isCurrent.settings]
          exact isMessageTypeMatching_eq_true_iff.mp type
      have handled :=
        handleDataObject_unmatched platform server now noFeedback complete
          unmatched
      exact
        ⟨_, [],
          (sendDatapoint_object platform server assetName now isObject
            follows.running).trans handled,
          follows.silent none follows.running rfl
            (PointTable.lookup_access _ _ _),
          Or.inr ⟨fun _ => none.not_isDelivered platform, rfl⟩⟩

/-- The server that has written a data object to a point. -/
theorem Follows.store (follows : Follows start earlier server)
    {object : DataObject} {point current : DataPoint}
    (isPoint :
      start.exchangeDefinitions.lookup object.ca object.ioa = some point)
    (applies : Applies point object)
    (isCurrent : IsCurrent point earlier current)
    {updated : DataPoint} (kept : updated.settings = current.settings)
    (newValue :
      updated.value =
        (requiredValue current.type object.value).getD
          current.value) :
    Follows start (earlier ++ [object])
      { server with
        exchangeDefinitions :=
          (server.exchangeDefinitions.access object.ca object.ioa).store
            updated } where
  running := follows.running
  parameters := follows.parameters
  points := by
    intro ca ioa
    have same := kept.trans isCurrent.settings
    rw [PointTable.lookup_store, PointTable.lookup_access,
      DataPoint.ca_eq_of_settings same, DataPoint.ioa_eq_of_settings same]
    split
    · rename_i address
      rw [applies.1.1, applies.1.2.1, ← address.1, ← address.2] at isPoint
      rw [isPoint]
      simp [same, newValue, isCurrent.value, valueAfter_concat, applies,
        DataPoint.type_eq_of_settings isCurrent.settings]
    · rename_i elsewhere
      rw [follows.points]
      refine Option.map_congr fun other found => ?_
      have address := PointTable.lookup_addressed found
      have spared : ¬ Applies other object := by
        intro applied
        refine elsewhere ⟨?_, ?_⟩
        · rw [← applies.1.1, applied.1.1, address.1]
        · rw [← applies.1.2.1, applied.1.2.1, address.2]
      simp [valueAfter_concat, spared]

/-- The ASDU that is enqueued for a point after its update. -/
theorem carries_enqueued
    (fits :
      ∀ io,
        platform.objectFits server.config.appLayerParameters [] io = true)
    {object : DataObject} {point current : DataPoint} (now : Nat)
    (isPoint :
      start.exchangeDefinitions.lookup object.ca object.ioa = some point)
    (type : IsMessageType current.type object.type)
    (isCurrent : IsCurrent point earlier current)
    (kept :
      (written platform object now current).settings = current.settings) :
    ∃ asdu,
      enqueuedAsdus
          (enqueueSpontDatapoint platform server
            (written platform object now current) object.cot object.type) =
          [asdu] ∧
        Carries platform start.exchangeDefinitions earlier object now
          asdu := by
  have sameType := DataPoint.type_eq_of_settings isCurrent.settings
  have address := PointTable.lookup_addressed isPoint
  have created :
      spontaneousObject (written platform object now current) object.type =
        some
          ⟨current.ioa, (written platform object now current).value,
            object.qd,
            if object.type = (timedType current.type).value then
              some (timeOf platform object now)
            else
              none⟩ := by
    rw [spontaneousObject_of_isMessageType type]
    simp only [written]
    split <;> rfl
  have isType :
      (written platform object now current).value.dataType =
        current.type :=
    DataPoint.type_eq_of_settings kept
  refine
    ⟨_, by rw [enqueueSpontDatapoint_eq _ _ _ created, if_pos (fits _)]; rfl,
      rfl, (DataPoint.ca_eq_of_settings isCurrent.settings).trans address.1,
      point, isPoint, _, rfl, ?_,
      DataPoint.ioa_eq_of_settings isCurrent.settings, rfl, ?_, ?_⟩
  · refine typeId_of_isMessageType ?_ ?_
    · rw [isType]
      exact type
    · rw [isType]
      dsimp only
      split <;> simp_all
  · simp only [written, sameType, isCurrent.value]
  · simp only [sameType]

/-- What a data object that changes a point adds. -/
theorem adds_written
    (fits :
      ∀ io,
        platform.objectFits server.config.appLayerParameters [] io = true)
    {object : DataObject} (isObject : objectAt platform dp = some object)
    {point current : DataPoint} (now : Nat)
    (isPoint :
      start.exchangeDefinitions.lookup object.ca object.ioa = some point)
    (applies : Applies point object)
    (type : IsMessageType current.type object.type)
    (isCurrent : IsCurrent point earlier current)
    (kept :
      (written platform object now current).settings = current.settings) :
    Adds platform start earlier dp now
      (enqueuedAsdus
        (if isSpontaneousCot object.cot then
          enqueueSpontDatapoint platform server
            (written platform object now current) object.cot object.type
        else
          [])) := by
  by_cases spontaneous : isSpontaneousCot object.cot = true
  · rw [if_pos spontaneous]
    have sameType := DataPoint.type_eq_of_settings isCurrent.settings
    exact
      Or.inl
        ⟨object, isObject,
          ⟨spontaneous, applies.2.1, applies.2.2, point, isPoint,
            sameType ▸ type⟩,
          carries_enqueued fits now isPoint type isCurrent kept⟩
  · rw [if_neg spontaneous]
    refine Or.inr ⟨?_, rfl⟩
    intro other isOther delivered
    rcases Option.some.inj (isObject.symm.trans isOther) with rfl
    exact spontaneous delivered.1

/-- A data object that changes a point. -/
theorem delivers_of_applies
    (follows : Follows start earlier server)
    (fits :
      ∀ io,
        platform.objectFits start.config.appLayerParameters [] io = true)
    (assetName : String) (now : Nat) (readable : ReadableAt platform dp)
    (isObject : dp.name = "data_object") {point : DataPoint}
    (isPoint :
      start.exchangeDefinitions.lookup (readDataObject platform dp).ca
          (readDataObject platform dp).ioa =
        some point)
    (applies : Applies point (readDataObject platform dp)) :
    Delivers platform start server earlier assetName dp now := by
  have reads :=
    readObject_of_matches platform isObject follows.running applies.1
      applies.2.1 applies.2.2
  rcases readObject_eq_some platform reads with
    ⟨-, -, -, noFeedback, complete⟩
  rcases follows.lookup_of_point isPoint with ⟨current, found, isCurrent⟩
  have matching : isMessageTypeMatching current.type _ = true :=
    DataPoint.type_eq_of_settings isCurrent.settings ▸ applies.1.2.2.1
  have type := isMessageTypeMatching_eq_true_iff.mp matching
  have isMatched :
      matchedPoint server.exchangeDefinitions (readDataObject platform dp) =
        some current :=
    Option.filter_eq_some_iff.mpr ⟨found, matching⟩
  have object :
      objectAt platform dp = some (readDataObject platform dp) := by
    rw [objectAt, if_pos isObject, readDataObject_eq]
  have update :=
    updatedPoint_eq platform type
      (fun isStep => readable _ object (isStep ▸ type)) now
  have kept := updatedPoint_settings platform update
  have handled :=
    handleDataObject_matched platform server now noFeedback complete
      isMatched
  rw [update, Except.map] at handled
  refine
    ⟨_, _,
      (sendDatapoint_object platform server assetName now isObject
        follows.running).trans handled, ?_, ?_⟩
  · rw [object]
    exact follows.store isPoint applies isCurrent kept rfl
  · exact
      adds_written (by rw [follows.parameters]; exact fits) object now isPoint
        applies type isCurrent kept

/-- Every data point is processed and adds what it should. -/
theorem delivers (follows : Follows start earlier server)
    (fits :
      ∀ io,
        platform.objectFits start.config.appLayerParameters [] io = true)
    (assetName : String) (now : Nat)
    (readable : ReadableAt platform dp) :
    Delivers platform start server earlier assetName dp now := by
  by_cases changes : ChangesNone platform start dp
  · exact delivers_of_changesNone follows assetName now changes
  · simp only [ChangesNone, not_forall, not_not] at changes
    rcases changes with ⟨object, isObjectAt, point, isPoint, applies⟩
    rw [objectAt, Option.mem_def, Option.ite_none_right_eq_some,
      ← readDataObject_eq] at isObjectAt
    rcases isObjectAt with ⟨isObject, same⟩
    rcases Option.some.inj same with rfl
    exact
      delivers_of_applies follows fits assetName now readable isObject isPoint
        applies

end Steps

/-! ## Batches -/

section Batches

variable (platform : Platform) (clock : Nat → Nat) (start : IEC104Server)
  (items : List (String × Datapoint))

/-- The data point is a data object that should be enqueued. -/
def IsDeliveredAt (item : (String × Datapoint) × Nat) : Prop :=
  ∃ object ∈ objectAt platform item.1.2,
    IsDelivered start.exchangeDefinitions object

instance (item : (String × Datapoint) × Nat) :
    Decidable (IsDeliveredAt platform start item) :=
  inferInstanceAs (Decidable (∃ object ∈ objectAt _ _, _))

/-- The ASDU of a data object at its place in the batch. -/
def CarriesAt (item : (String × Datapoint) × Nat) (asdu : DataAsdu) :
    Prop :=
  ∃ object ∈ objectAt platform item.1.2,
    Carries platform start.exchangeDefinitions
      (objectsOf platform (items.take item.2)) object (clock item.2) asdu

/-- The loops of `send` from some place of the batch on. -/
theorem sendBatch_delivers
    (fits :
      ∀ io,
        platform.objectFits start.config.appLayerParameters [] io = true)
    (readable : ∀ item ∈ items, ReadableAt platform item.2)
    (rest : List (String × Datapoint)) :
    ∀ (before : List (String × Datapoint)) (server : IEC104Server),
      items = before ++ rest →
      Follows start (objectsOf platform before) server →
        (sendBatch platform clock server (rest.zipIdx before.length)).2.2 =
            none ∧
          List.Forall₂ (CarriesAt platform clock start items)
            ((rest.zipIdx before.length).filter fun item =>
              IsDeliveredAt platform start item)
            (enqueuedAsdus
              (sendBatch platform clock server
                (rest.zipIdx before.length)).2.1) := by
  induction rest with
  | nil => exact fun _ _ _ _ => ⟨rfl, List.Forall₂.nil⟩
  | cons item rest ih =>
      intro before server whole follows
      rcases item with ⟨assetName, dp⟩
      rcases
          delivers follows fits assetName (clock before.length)
            (readable (assetName, dp) (by simp [whole])) with
        ⟨processed, effects, sent, followed, adds⟩
      have later :=
        ih (before ++ [(assetName, dp)]) processed (by simp [whole])
          (by rw [objectsOf_concat]; exact followed)
      rw [List.length_append, List.length_singleton] at later
      have taken : items.take before.length = before := by
        simp [whole]
      simp only [List.zipIdx_cons, sendBatch, sent, enqueuedAsdus_append]
      refine ⟨later.1, ?_⟩
      rcases adds with
        ⟨object, isObject, delivered, asdu, added, carries⟩ | ⟨other, added⟩
      · have isDelivered :
            IsDeliveredAt platform start
              ((assetName, dp), before.length) :=
          ⟨object, isObject, delivered⟩
        rw [added, List.filter_cons_of_pos (by simpa using isDelivered)]
        exact
          List.Forall₂.cons ⟨object, isObject, by rw [taken]; exact carries⟩
            later.2
      · have notDelivered :
            ¬ IsDeliveredAt platform start
                ((assetName, dp), before.length) := by
          rintro ⟨object, isObject, delivered⟩
          exact other object isObject delivered
        rw [added, List.filter_cons_of_neg (by simpa using notDelivered)]
        exact later.2

end Batches

/-! ## Step positions -/

/-- The text `[n,b]` of a step position, with an int `n`. -/
def IsStepPosition (str : String) : Prop :=
  (stepPositionOf str.toList).isSome = true ∧
    str.toList.length < 0x10000000000000000

instance (str : String) : Decidable (IsStepPosition str) :=
  inferInstanceAs (Decidable (_ ∧ _))

/-- The texts of step positions in a batch are step positions. -/
def HasStepPositions (platform : Platform) (readings : List Reading) :
    Prop :=
  ∀ object ∈ objectsOf platform (batch readings),
    IsMessageType .stepPos object.type →
      ∀ str ∈ textOf object.value, IsStepPosition str

instance (platform : Platform) (readings : List Reading) :
    Decidable (HasStepPositions platform readings) :=
  inferInstanceAs (Decidable (∀ object ∈ objectsOf _ _, _ → ∀ str ∈ _, _))

/--
For every batch `send` enqueues one ASDU for each spontaneous data object whose
type matches the point at its address, in the order of the batch, and no other.
The ASDU has what this data object brought.
-/
theorem send_enqueues (platform : Platform) (clock : Nat → Nat)
    (server : IEC104Server) (readings : List Reading)
    (running : server.slaveRunning = true)
    (fits :
      ∀ io,
        platform.objectFits server.config.appLayerParameters [] io = true)
    (texts : HasStepPositions platform readings) :
    (send platform clock server readings).2.2 = .ok readings.length ∧
      List.Forall₂ (CarriesAt platform clock server (batch readings))
        ((batch readings).zipIdx.filter fun item =>
          IsDeliveredAt platform server item)
        (enqueuedAsdus (send platform clock server readings).2.1) := by
  have readable : ∀ item ∈ batch readings, ReadableAt platform item.2 := by
    intro item member object isObject type str isText
    exact
      Or.inl
        (texts object (List.mem_filterMap.mpr ⟨item, member, isObject⟩) type
          str isText)
  have follows : Follows server (objectsOf platform []) server :=
    ⟨running, rfl, fun _ _ => rfl⟩
  rcases
      sendBatch_delivers platform clock server (batch readings) fits readable
        (batch readings) [] server rfl follows with
    ⟨noException, delivered⟩
  refine ⟨?_, delivered⟩
  rw [List.length_nil] at noException
  simp only [send, noException]

/-- A point is updated twice, between the two an unknown step position. -/
def sampleReadings : List Reading :=
  [⟨"TM",
    [sampleDataObject "M_SP_NA_1" 10 (.integer 1),
      sampleDataObject "M_ST_NA_1" 11 (.string "[5,true]")]⟩,
    ⟨"TM", [sampleDataObject "M_SP_TB_1" 10 (.integer 0)]⟩]

theorem fits_sample (io : MonitoringObject) :
    samplePlatform.objectFits sampleServer.config.appLayerParameters [] io =
      true := by
  rcases io with ⟨address, value, quality, timestamp⟩
  cases value <;> cases timestamp <;> rfl

theorem send_enqueues_sample :
    (send samplePlatform (fun _ => 0) sampleServer sampleReadings).2.2 =
        .ok 2 ∧
      List.Forall₂
        (CarriesAt samplePlatform (fun _ => 0) sampleServer
          (batch sampleReadings))
        ((batch sampleReadings).zipIdx.filter fun item =>
          IsDeliveredAt samplePlatform sampleServer item)
        (enqueuedAsdus
          (send samplePlatform (fun _ => 0) sampleServer
            sampleReadings).2.1) :=
  send_enqueues samplePlatform (fun _ => 0) sampleServer sampleReadings rfl
    fits_sample (by decide)

end Iec104North.SpontaneousAsdus
