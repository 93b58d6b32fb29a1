import Iec104North.Interrogation

/-!
# The response to an interrogation

`sendInterrogationResponse` sends a positive ACT-CON, ASDUs with the covered
points of the CA, and an ACT-TERM.  The packing rules of the library say that
no point is lost or sent twice and that a new ASDU is started only for a point
which the current one refuses.
-/

namespace Iec104North.InterrogationResponse

open Iec104North.AsduTypes
open Iec104North.Library
open Iec104North.Values
open Iec104North.DataPoints
open Iec104North.Server
open Iec104North.Interrogation

/-! ## The covered points -/

/-- An interrogation covers the monitoring points of its group. -/
def IsCovered (qoi : Nat) (point : DataPoint) : Prop :=
  point.isCommand = false ∧ isInGroup point qoi = true

instance (qoi : Nat) (point : DataPoint) :
    Decidable (IsCovered qoi point) :=
  inferInstanceAs (Decidable (_ ∧ _))

theorem responseObject_eq_some_iff {qoi : Nat} {entry : Option DataPoint}
    {object : MonitoringObject} :
    responseObject qoi entry = some object ↔
      ∃ point,
        entry = some point ∧
          IsCovered qoi point ∧ object = pointObject point := by
  cases entry with
  | none => simp [responseObject]
  | some point =>
      simp only [responseObject, DataPoint.isMonitoringType_iff, IsCovered,
        Option.some.injEq, exists_eq_left']
      split
      · rename_i monitoring
        split
        · rename_i inGroup
          simp only [monitoring, inGroup, and_self, true_and,
            Option.some.injEq]
          exact eq_comm
        · rename_i outside
          simp [outside]
      · rename_i command
        simp [command]

/-- The objects the loop of `sendInterrogationResponse` adds to its ASDUs. -/
def responseObjects (table : PointTable) (ca : Int) (qoi : Nat) :
    List MonitoringObject :=
  (table.device ca).toList.filterMap fun entry => responseObject qoi entry.2

section Objects

variable (table : PointTable) (ca : Int) (qoi : Nat)

theorem mem_responseObjects_iff (object : MonitoringObject) :
    object ∈ responseObjects table ca qoi ↔
      ∃ point,
        table.lookup ca object.objectAddress = some point ∧
          IsCovered qoi point ∧ object = pointObject point := by
  simp only [responseObjects, List.mem_filterMap, Prod.exists,
    Std.ExtTreeMap.mem_toList_iff_getElem?_eq_some,
    responseObject_eq_some_iff]
  constructor
  · rintro ⟨ioa, entry, stored, point, rfl, covered, rfl⟩
    rw [PointTable.device_entry] at stored
    have found := PointTable.lookup_eq_some_iff.mpr stored
    have address := (PointTable.lookup_addressed found).2
    refine ⟨point, ?_, covered, rfl⟩
    rw [pointObject, address]
    exact found
  · rintro ⟨point, found, covered, rfl⟩
    refine ⟨point.ioa, some point, ?_, point, rfl, covered, rfl⟩
    rw [PointTable.device_entry]
    exact PointTable.lookup_eq_some_iff.mp found

/-- A covered point gives one of the objects. -/
theorem pointObject_mem_responseObjects {table : PointTable} {ca ioa : Int}
    {qoi : Nat} {point : DataPoint}
    (found : table.lookup ca ioa = some point)
    (covered : IsCovered qoi point) :
    pointObject point ∈ responseObjects table ca qoi := by
  rw [mem_responseObjects_iff]
  refine ⟨point, ?_, covered, rfl⟩
  rw [pointObject, (PointTable.lookup_addressed found).2]
  exact found

theorem responseObjects_untimed {table : PointTable} {ca : Int} {qoi : Nat}
    {object : MonitoringObject}
    (member : object ∈ responseObjects table ca qoi) :
    object.timestamp = none := by
  rcases (mem_responseObjects_iff table ca qoi object).mp member with
    ⟨point, -, -, rfl⟩
  rfl

/-- The objects come in ascending order of their addresses. -/
theorem responseObjects_ascending :
    (responseObjects table ca qoi).Pairwise fun first second =>
      first.objectAddress < second.objectAddress := by
  rw [responseObjects, List.pairwise_filterMap]
  refine
    (Std.ExtTreeMap.ordered_keys_toList.imp_of_mem ?_ :
      (table.device ca).toList.Pairwise _)
  intro first second firstMember secondMember ordered object adds other
    addsOther
  rcases responseObject_eq_some_iff.mp (Option.mem_def.mp adds) with
    ⟨point, isPoint, -, rfl⟩
  rcases responseObject_eq_some_iff.mp (Option.mem_def.mp addsOther) with
    ⟨otherPoint, isOther, -, rfl⟩
  have address :
      ∀ {entry : Int × Option DataPoint} {stored : DataPoint},
        entry ∈ (table.device ca).toList →
          entry.2 = some stored → stored.ioa = entry.1 := by
    rintro ⟨ioa, entry⟩ stored member rfl
    have found := Std.ExtTreeMap.mem_toList_iff_getElem?_eq_some.mp member
    exact (table.device_storedUnder ca ioa stored found).2
  simp only [pointObject]
  rw [address firstMember isPoint, address secondMember isOther]
  exact Int.compare_eq_lt.mp ordered

end Objects

/-! ## Adding objects to an ASDU -/

section Adding

variable (platform : Platform) (parameters : AppLayerParameters)

/-- An ASDU has no room for one more object. -/
def IsFull (asdu : DataAsdu) (object : MonitoringObject) : Prop :=
  127 ≤ asdu.objects.length ∨
    platform.objectFits parameters asdu.objects object = false

theorem addInformationObject_eq_some {asdu extended : DataAsdu}
    {object : MonitoringObject}
    (added :
      addInformationObject platform parameters asdu object =
        some extended) :
    extended = { asdu with objects := asdu.objects ++ [object] } ∧
      ∀ first ∈ asdu.objects.head?, first.typeId = object.typeId := by
  rw [addInformationObject] at added
  cases head : asdu.objects.head? with
  | none =>
      simp only [head, Bool.true_and, Option.ite_none_right_eq_some] at added
      exact ⟨(Option.some.inj added.2).symm, by simp⟩
  | some first =>
      simp only [head, Bool.and_eq_true, beq_iff_eq,
        Option.ite_none_right_eq_some] at added
      rcases added with ⟨⟨⟨same, -⟩, -⟩, equal⟩
      exact ⟨(Option.some.inj equal).symm, by simpa using same⟩

/-- An ASDU refuses an object of another type and one it has no room for. -/
theorem addInformationObject_eq_none {asdu : DataAsdu}
    {object : MonitoringObject}
    (refused :
      addInformationObject platform parameters asdu object = none) :
    (∃ first ∈ asdu.objects.head?, first.typeId ≠ object.typeId) ∨
      IsFull platform parameters asdu object := by
  rw [addInformationObject] at refused
  cases head : asdu.objects.head? with
  | none =>
      simp only [head, Bool.true_and, ite_eq_right_iff, reduceCtorEq,
        imp_false, Bool.not_eq_true] at refused
      exact .inr (.inr refused)
  | some first =>
      by_cases same : first.typeId = object.typeId
      · right
        by_contra room
        rw [IsFull, not_or, not_le, Bool.not_eq_false] at room
        simp [head, same, room.1, room.2] at refused
      · exact .inl ⟨first, rfl, same⟩

/-- `CS101_ASDU_addInformationObject` follows the rules of packing. -/
theorem packingLaws (asdu : Asdu) (ca : Int) :
    PackingLaws (addInformationObject platform parameters)
      (emptyResponse asdu ca) DataAsdu.objects
      (fun object => platform.objectFits parameters [] object = true) where
  items_empty := rfl
  items_add added := by
    rw [(addInformationObject_eq_some platform parameters added).1]
  add_empty fits := by simp [addInformationObject, emptyResponse, fits]

/-- Every object without time tag fits into an empty ASDU. -/
def FitsEmpty : Prop :=
  ∀ object : MonitoringObject, object.timestamp = none →
    platform.objectFits parameters [] object = true

/-- What every ASDU of a response has. -/
structure IsResponseAsdu (ca : Int) (newAsdu : DataAsdu) : Prop where
  cot : newAsdu.cot = Cot.interrogatedByStation
  ca : newAsdu.ca = ca
  singleType :
    ∀ first ∈ newAsdu.objects.head?,
      ∀ object ∈ newAsdu.objects, object.typeId = first.typeId

theorem IsResponseAsdu.add {ca : Int} {asdu extended : DataAsdu}
    {object : MonitoringObject} (before : IsResponseAsdu ca asdu)
    (added :
      addInformationObject platform parameters asdu object =
        some extended) :
    IsResponseAsdu ca extended := by
  rcases addInformationObject_eq_some platform parameters added with
    ⟨rfl, sameType⟩
  refine ⟨before.cot, before.ca, ?_⟩
  intro first isFirst other member
  rw [Option.mem_def, List.head?_append] at isFirst
  cases head : asdu.objects.head? with
  | none =>
      have nothing : asdu.objects = [] := List.head?_eq_none_iff.mp head
      simp [nothing] at isFirst member
      rw [member, isFirst]
  | some old =>
      have same : old = first := by simpa [head] using isFirst
      subst same
      rcases List.mem_append.mp member with earlier | last
      · exact before.singleType old head other earlier
      · rcases List.mem_singleton.mp last with rfl
        exact (sameType old head).symm

/-- Each ASDU of a response has the CA, the cause and one type. -/
theorem isResponseAsdu_of_mem {asdu : Asdu} {ca : Int}
    {objects : List MonitoringObject} :
    ∀ newAsdu ∈ responseAsdus platform parameters asdu ca objects,
      IsResponseAsdu ca newAsdu :=
  forall_packed ⟨rfl, rfl, by simp [emptyResponse]⟩
    (fun _ before added => before.add platform parameters added) _

end Adding

/-! ## The reported objects -/

/-- The information objects in the data ASDUs that are sent. -/
def reportedObjects (effects : List Effect) : List MonitoringObject :=
  effects.flatMap fun effect =>
    match effect with
    | .sendData _ newAsdu => newAsdu.objects
    | _ => []

section Reported

variable (platform : Platform) (server : IEC104Server)
  (connection : Connection) (asdu : Asdu) (ca : Int) (qoi : Nat)

theorem reportedObjects_response :
    reportedObjects
        (sendInterrogationResponse platform server connection asdu ca
          qoi).2 =
      (responseAsdus platform server.config.appLayerParameters asdu ca
        (responseObjects server.exchangeDefinitions ca qoi)).flatMap
          DataAsdu.objects := by
  simp [reportedObjects, sendInterrogationResponse, responseObjects,
    List.flatMap_map]

/-- Only covered points are reported. -/
theorem mem_responseObjects_of_reported {object : MonitoringObject}
    (reported :
      object ∈
        reportedObjects
          (sendInterrogationResponse platform server connection asdu ca
            qoi).2) :
    object ∈ responseObjects server.exchangeDefinitions ca qoi := by
  rw [reportedObjects_response, List.mem_flatMap] at reported
  rcases reported with ⟨newAsdu, isSent, member⟩
  exact
    (packingLaws platform _ asdu ca).mem_of_mem_packed _ _ newAsdu isSent
      object member

/-- When each of them fits into an ASDU, all covered points are reported. -/
theorem reportedObjects_eq
    (fits : FitsEmpty platform server.config.appLayerParameters) :
    reportedObjects
        (sendInterrogationResponse platform server connection asdu ca
          qoi).2 =
      responseObjects server.exchangeDefinitions ca qoi := by
  rw [reportedObjects_response]
  exact
    (packingLaws platform _ asdu ca).flatMap_packed (by simp) _
      fun object member => fits object (responseObjects_untimed member)

end Reported

/-! ## The response -/

/-- The data ASDUs with which an interrogation is answered. -/
structure IsResponse (platform : Platform) (server : IEC104Server)
    (ca : Int) (qoi : Nat) (newAsdus : List DataAsdu) : Prop where
  each : ∀ newAsdu ∈ newAsdus, IsResponseAsdu ca newAsdu
  nonempty : ∀ newAsdu ∈ newAsdus, newAsdu.objects ≠ []
  ascending :
    (newAsdus.flatMap DataAsdu.objects).Pairwise fun first second =>
      first.objectAddress < second.objectAddress
  covered :
    ∀ object,
      object ∈ newAsdus.flatMap DataAsdu.objects ↔
        ∃ point,
          server.exchangeDefinitions.lookup ca object.objectAddress =
              some point ∧
            point.isCommand = false ∧
            point.giGroups.getLsbD (qoi - 20) = true ∧
            object = ⟨point.ioa, point.value, point.quality, none⟩
  onlyWhenRefused :
    List.IsChain
      (fun closed next =>
        ∃ object,
          next.objects.head? = some object ∧
            ((∃ first ∈ closed.objects.head?,
                first.typeId ≠ object.typeId) ∨
              IsFull platform server.config.appLayerParameters closed
                object))
      newAsdus

/--
The response to an interrogation: ACT-CON, the covered points of the CA, packed
in ascending order, and ACT-TERM.
-/
theorem interrogationResponse_complete (platform : Platform)
    (server : IEC104Server) (connection : Connection) (asdu : Asdu)
    (ca : Int) (qoi : Nat)
    (fits : FitsEmpty platform server.config.appLayerParameters) :
    ∃ newAsdus,
      IsResponse platform server ca qoi newAsdus ∧
        (sendInterrogationResponse platform server connection asdu ca
            qoi).2 =
          [.sendActCon none connection { asdu with ca := ca } false] ++
            newAsdus.map (.sendData connection) ++
            [.sendActTerm none connection { asdu with ca := ca }] := by
  have laws :=
    packingLaws platform server.config.appLayerParameters asdu ca
  have goes :
      ∀ object ∈ responseObjects server.exchangeDefinitions ca qoi,
        platform.objectFits server.config.appLayerParameters [] object =
          true :=
    fun object member => fits object (responseObjects_untimed member)
  have tests :
      ∀ newAsdu : DataAsdu,
        (newAsdu.objects.length == 0) = true ↔ newAsdu.objects = [] := by
    simp
  have content := laws.flatMap_packed tests _ goes
  refine
    ⟨responseAsdus platform server.config.appLayerParameters asdu ca
      (responseObjects server.exchangeDefinitions ca qoi), ?_, rfl⟩
  refine ⟨?_, laws.nonempty_packed tests _ goes, ?_, ?_, ?_⟩
  · exact isResponseAsdu_of_mem platform _
  · rw [responseAsdus, content]
    exact responseObjects_ascending server.exchangeDefinitions ca qoi
  · intro object
    rw [responseAsdus, content, mem_responseObjects_iff]
    simp only [IsCovered, isInGroup, pointObject, and_assoc]
  · apply (laws.isChain_packed _ _ goes).imp
    rintro closed next ⟨object, first, refused⟩
    exact ⟨object, first, addInformationObject_eq_none platform _ refused⟩

/-- An interrogation of the CA of `sampleServer`. -/
def sampleInterrogation : Asdu where
  typeId := TypeId.C_IC_NA_1.value
  cot := Cot.activation
  isTest := false
  isNegative := false
  oa := 0
  ca := 1
  elements := []

/-- Every object fits into an empty ASDU of `sampleServer`. -/
theorem fitsEmpty_sample :
    FitsEmpty samplePlatform sampleServer.config.appLayerParameters := by
  rintro ⟨address, value, quality, timestamp⟩ untimed
  obtain rfl : timestamp = none := untimed
  cases value <;> rfl

theorem interrogationResponse_complete_sample :
    ∃ newAsdus,
      IsResponse samplePlatform sampleServer 1 20 newAsdus ∧
        (sendInterrogationResponse samplePlatform sampleServer 1
            sampleInterrogation 1 20).2 =
          [.sendActCon none 1 sampleInterrogation false] ++
            newAsdus.map (.sendData 1) ++
            [.sendActTerm none 1 sampleInterrogation] :=
  interrogationResponse_complete samplePlatform sampleServer 1
    sampleInterrogation 1 20 fitsEmpty_sample

end Iec104North.InterrogationResponse
