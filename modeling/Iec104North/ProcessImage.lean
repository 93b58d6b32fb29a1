import Iec104North.Library.Machine
import Iec104North.MonitoringData
import Mathlib.Data.List.Dedup
import Mathlib.Data.List.Sort

/-!
# The process image

For the masters the server is a process image: the configured points in the
order of their addresses, each with its latest value.  A data object is written
to the point it is for and reported when its cause asks for it; an
interrogation reads out the points of its group.  Commands, their feedback,
scans, connection events and south events are not part of the picture.

This module states that picture as a machine of its own and relates the table
of points to it; `StationRefinement` shows that the server refines it.
-/

namespace Iec104North.ProcessImage

open Iec104North.Library
open Iec104North.AsduTypes
open Iec104North.Values
open Iec104North.DataPoints
open Iec104North.Server
open Iec104North.Readings
open Iec104North.Interrogation
open Iec104North.InterrogationResponse
open Iec104North.Runs
open Iec104North.TableReads
open Iec104North.MonitoringData

/-! ## Images -/

/-- The order of the points: by common address, then by object address. -/
def Precedes (first second : DataPoint) : Prop :=
  first.ca < second.ca ∨ first.ca = second.ca ∧ first.ioa < second.ioa

instance : Std.Irrefl Precedes where
  irrefl point before := by
    rcases before with smaller | ⟨-, smaller⟩
    · exact lt_irrefl _ smaller
    · exact lt_irrefl _ smaller

instance : Std.Antisymm Precedes where
  antisymm first second before after := by
    unfold Precedes at before after
    omega

/-- The points of a station, in order and with one point for an address. -/
@[ext]
structure Image where
  points : List DataPoint
  ordered : points.Pairwise Precedes

namespace Image

/-- Two images with the same points are the same image. -/
theorem eq_of_mem_iff {first second : Image}
    (same : ∀ point, point ∈ first.points ↔ point ∈ second.points) :
    first = second :=
  Image.ext (first.ordered.eq_of_mem_iff second.ordered same)

/-- The data object is for the point. -/
def isFor (object : DataObject) (point : DataPoint) : Bool :=
  point.ca == object.ca && point.ioa == object.ioa &&
    isMessageTypeMatching point.type object.type

section Operations

variable (platform : Platform) (parameters : AppLayerParameters)
  (image : Image)

/-- A point after a data object. -/
def writeTo (object : DataObject) (now : Nat) (point : DataPoint) :
    DataPoint :=
  if isFor object point then
    (updatedPoint platform object now point).toOption.getD point
  else
    point

theorem writeTo_settings (object : DataObject) (now : Nat)
    (point : DataPoint) :
    (writeTo platform object now point).settings = point.settings := by
  rw [writeTo]
  split
  · cases update : updatedPoint platform object now point with
    | error exception => rfl
    | ok updated => exact updatedPoint_settings platform update
  · rfl

/-- The image after a data object. -/
def receive (object : DataObject) (now : Nat) : Image where
  points := image.points.map (writeTo platform object now)
  ordered := by
    rw [List.pairwise_map]
    apply image.ordered.imp
    intro first second before
    have firstSettings := writeTo_settings platform object now first
    have secondSettings := writeTo_settings platform object now second
    rw [Precedes, DataPoint.ca_eq_of_settings firstSettings,
      DataPoint.ca_eq_of_settings secondSettings,
      DataPoint.ioa_eq_of_settings firstSettings,
      DataPoint.ioa_eq_of_settings secondSettings]
    exact before

/-- The ASDU which reports a point after a data object. -/
def reportOf (object : DataObject) (point : DataPoint) : List DataAsdu :=
  let asdu : DataAsdu :=
    { cot := object.cot, oa := 0, ca := point.ca, objects := [] }
  (spontaneousObject point object.type).toList.map fun io =>
    (addInformationObject platform parameters asdu io).getD asdu

/-- What a data object makes the station report. -/
def spontaneous (object : DataObject) (now : Nat) : List DataAsdu :=
  (image.points.filter (isFor object)).flatMap fun point =>
    match updatedPoint platform object now point with
    | .error _ => []
    | .ok updated =>
        if isSpontaneousCot object.cot then
          reportOf platform parameters object updated
        else
          []

/-- The objects of one common address which an interrogation reads out. -/
def readOut (qoi : Nat) (ca : Int) : List MonitoringObject :=
  (image.points.filter fun point =>
    point.ca = ca ∧ IsCovered qoi point).map pointObject

/-- The common addresses with points, each once and in ascending order. -/
def sectors : List Int :=
  (image.points.map DataPoint.ca).dedup

/-- The common addresses an interrogation is for. -/
def addressed (asdu : Asdu) : List Int :=
  if isBroadcastCA asdu.ca parameters then image.sectors else [asdu.ca]

/-- What an interrogation makes the station report. -/
def interrogate (asdu : Asdu) (qoi : Nat) : List DataAsdu :=
  if 20 ≤ qoi ∧ qoi ≤ 36 then
    (image.addressed parameters asdu).flatMap fun ca =>
      responseAsdus platform parameters asdu ca (image.readOut qoi ca)
  else
    []

end Operations

end Image

/-! ## The machine -/

/-- What concerns the image: data objects, interrogations and the slave. -/
inductive ImageEvent where
  | dataObject (object : DataObject) (now : Nat)
  | interrogation (connection : Connection) (asdu : Asdu) (qoi : Nat)
  | running (isRunning : Bool)
deriving DecidableEq, Repr

/-- Monitoring data for one master, or for all of them through the queue. -/
structure Transmission where
  destination : Option Connection
  asdu : DataAsdu
deriving DecidableEq, Repr

/-- An image, the format of its ASDUs and whether it takes data objects. -/
structure Station where
  image : Image
  parameters : AppLayerParameters
  isRunning : Bool

/-- One step of a station. -/
def stationStep (platform : Platform) (station : Station) :
    ImageEvent → Station × List Transmission
  | .dataObject object now =>
      if station.isRunning then
        ({ station with image := station.image.receive platform object now },
          (station.image.spontaneous platform station.parameters object
            now).map fun asdu => ⟨none, asdu⟩)
      else
        (station, [])
  | .interrogation connection asdu qoi =>
      (station,
        (station.image.interrogate platform station.parameters asdu
          qoi).map fun asdu => ⟨some connection, asdu⟩)
  | .running isRunning => ({ station with isRunning := isRunning }, [])

/-- The station as a machine which transmits monitoring data. -/
def stationMachine (platform : Platform) :
    Machine Station ImageEvent Transmission :=
  ⟨stationStep platform⟩

/-! ## The image of a table -/

section Tables

variable (platform : Platform) (parameters : AppLayerParameters)
  (table : PointTable)

/-- The points of a table; null pointers are no points. -/
def tablePoints : List DataPoint :=
  table.devices.toList.flatMap fun device =>
    device.2.toList.filterMap fun entry => entry.2

theorem mem_tablePoints_iff (point : DataPoint) :
    point ∈ tablePoints table ↔
      table.lookup point.ca point.ioa = some point := by
  simp only [tablePoints, List.mem_flatMap, List.mem_filterMap, Prod.exists,
    Std.ExtTreeMap.mem_toList_iff_getElem?_eq_some]
  constructor
  · rintro ⟨ca, device, isDevice, ioa, entry, isEntry, rfl⟩
    have stored : table.entryAt ca ioa = some (some point) := by
      rw [PointTable.entryAt, entryOf, isDevice]
      exact isEntry
    rcases table.addressed ca ioa point stored with ⟨rfl, rfl⟩
    exact PointTable.lookup_eq_some_iff.mpr stored
  · intro found
    have stored := PointTable.lookup_eq_some_iff.mp found
    rw [PointTable.entryAt, entryOf, Option.bind_eq_some_iff] at stored
    rcases stored with ⟨device, isDevice, isEntry⟩
    exact ⟨point.ca, device, isDevice, point.ioa, some point, isEntry, rfl⟩

theorem tablePoints_ordered : (tablePoints table).Pairwise Precedes := by
  have addresses :
      ∀ device ∈ table.devices.toList, ∀ entry ∈ device.2.toList,
        ∀ point, entry.2 = some point →
          point.ca = device.1 ∧ point.ioa = entry.1 := by
    rintro ⟨ca, device⟩ isDevice ⟨ioa, entry⟩ isEntry point rfl
    rw [Std.ExtTreeMap.mem_toList_iff_getElem?_eq_some]
      at isDevice isEntry
    apply table.addressed ca ioa point
    rw [entryOf, isDevice]
    exact isEntry
  rw [tablePoints, List.pairwise_flatMap]
  constructor
  · intro device isDevice
    rw [List.pairwise_filterMap]
    refine Std.ExtTreeMap.ordered_keys_toList.imp_of_mem ?_
    intro first second firstMember secondMember ascending point isPoint
      other isOther
    have firstAddress := addresses device isDevice first firstMember point
      isPoint
    have secondAddress := addresses device isDevice second secondMember
      other isOther
    right
    rw [firstAddress.1, secondAddress.1, firstAddress.2, secondAddress.2]
    exact ⟨rfl, Int.compare_eq_lt.mp ascending⟩
  · refine Std.ExtTreeMap.ordered_keys_toList.imp_of_mem ?_
    intro first second firstMember secondMember ascending point isPoint
      other isOther
    rcases List.mem_filterMap.mp isPoint with ⟨entry, isEntry, isValue⟩
    rcases List.mem_filterMap.mp isOther with
      ⟨otherEntry, isOtherEntry, isOtherValue⟩
    left
    rw [(addresses first firstMember entry isEntry point isValue).1,
      (addresses second secondMember otherEntry isOtherEntry other
        isOtherValue).1]
    exact Int.compare_eq_lt.mp ascending

/-- The image of a table. -/
def imageOf : Image where
  points := tablePoints table
  ordered := tablePoints_ordered table

theorem mem_imageOf_iff (point : DataPoint) :
    point ∈ (imageOf table).points ↔
      table.lookup point.ca point.ioa = some point :=
  mem_tablePoints_iff table point

theorem mem_imageOf_of_lookup {table : PointTable} {ca ioa : Int}
    {point : DataPoint} (found : table.lookup ca ioa = some point) :
    point ∈ (imageOf table).points := by
  rw [mem_imageOf_iff, (PointTable.lookup_addressed found).1,
    (PointTable.lookup_addressed found).2]
  exact found

/-- Tables which find the same points have the same image. -/
theorem imageOf_eq_of_lookup {first second : PointTable}
    (same : ∀ ca ioa, first.lookup ca ioa = second.lookup ca ioa) :
    imageOf first = imageOf second := by
  apply Image.eq_of_mem_iff
  intro point
  rw [mem_imageOf_iff, mem_imageOf_iff, same]

/-- The point a data object matches is the point of the image it is for. -/
theorem filter_isFor (object : DataObject) :
    (imageOf table).points.filter (Image.isFor object) =
      (matchedPoint table object).toList := by
  apply List.Pairwise.eq_of_mem_iff (r := Precedes)
  · exact (imageOf table).ordered.filter _
  · cases matchedPoint table object <;> simp
  intro point
  rw [List.mem_filter, mem_imageOf_iff, Option.mem_toList, matchedPoint,
    Option.filter_eq_some_iff]
  simp only [Image.isFor, Bool.and_eq_true, beq_iff_eq]
  constructor
  · rintro ⟨found, ⟨sameCa, sameIoa⟩, matching⟩
    rw [← sameCa, ← sameIoa]
    exact ⟨found, matching⟩
  · rintro ⟨found, matching⟩
    rcases PointTable.lookup_addressed found with ⟨sameCa, sameIoa⟩
    refine ⟨?_, ⟨sameCa, sameIoa⟩, matching⟩
    rw [sameCa, sameIoa]
    exact found

/-- A data object is written to the points it is for. -/
theorem lookup_tableAfter_eq (object : DataObject) (now : Nat)
    (ca ioa : Int) :
    (tableAfter platform table object now).lookup ca ioa =
      (table.lookup ca ioa).map (Image.writeTo platform object now) := by
  rw [lookup_tableAfter]
  cases found : table.lookup ca ioa with
  | none =>
      split
      · rename_i address
        rw [matchedPoint, ← address.1, ← address.2, found]
        rfl
      · rfl
  | some point =>
      rcases PointTable.lookup_addressed found with ⟨rfl, rfl⟩
      rw [Option.map_some, Image.writeTo]
      by_cases address : point.ca = object.ca ∧ point.ioa = object.ioa
      · rw [if_pos address, matchedPoint, ← address.1, ← address.2, found,
          Option.filter_some]
        have here :
            Image.isFor object point =
              isMessageTypeMatching point.type object.type := by
          simp [Image.isFor, address]
        rw [here]
        by_cases matching :
            isMessageTypeMatching point.type object.type = true
        · simp only [matching, if_true]
          cases updatedPoint platform object now point <;> rfl
        · simp only [matching, if_false, Bool.false_eq_true]
      · have elsewhere : Image.isFor object point = false := by
          rw [Image.isFor, Bool.and_eq_false_iff]
          left
          simpa [Image.isFor] using address
        rw [if_neg address, elsewhere]
        rfl

/-- The image of the table after a data object. -/
theorem imageOf_tableAfter (object : DataObject) (now : Nat) :
    imageOf (tableAfter platform table object now) =
      (imageOf table).receive platform object now := by
  apply Image.eq_of_mem_iff
  intro point
  rw [mem_imageOf_iff, lookup_tableAfter_eq, Option.map_eq_some_iff,
    Image.receive, List.mem_map]
  constructor
  · rintro ⟨old, found, written⟩
    exact ⟨old, mem_imageOf_of_lookup found, written⟩
  · rintro ⟨old, member, rfl⟩
    have settings := Image.writeTo_settings platform object now old
    refine ⟨old, ?_, rfl⟩
    rw [DataPoint.ca_eq_of_settings settings,
      DataPoint.ioa_eq_of_settings settings]
    exact (mem_imageOf_iff table old).mp member

/-- What a data object makes the server enqueue is what the image reports. -/
theorem dataAsdus_enqueuedFor (server : IEC104Server) (object : DataObject)
    (now : Nat) :
    dataAsdus (enqueuedFor platform server object now) =
      (imageOf server.exchangeDefinitions).spontaneous platform
        server.config.appLayerParameters object now := by
  rw [Image.spontaneous, filter_isFor, enqueuedFor]
  cases matchedPoint server.exchangeDefinitions object with
  | none => rfl
  | some point =>
      rw [Option.toList_some, List.flatMap_singleton]
      dsimp only
      cases updatedPoint platform object now point with
      | error exception => rfl
      | ok updated =>
          dsimp only
          split
          · rw [Image.reportOf, enqueueSpontDatapoint]
            cases spontaneousObject updated object.type <;> rfl
          · rfl

/-! ### Interrogations -/

/-- The objects of a response are what the image reads out. -/
theorem readOut_imageOf (qoi : Nat) (ca : Int) :
    (imageOf table).readOut qoi ca = responseObjects table ca qoi := by
  apply List.Pairwise.eq_of_mem_iff
    (r := fun first second : MonitoringObject =>
      first.objectAddress < second.objectAddress)
  · rw [Image.readOut, List.pairwise_map]
    refine ((imageOf table).ordered.filter _).imp_of_mem ?_
    intro first second firstMember secondMember before
    have firstCa := of_decide_eq_true (List.mem_filter.mp firstMember).2
    have secondCa := of_decide_eq_true (List.mem_filter.mp secondMember).2
    rcases before with smaller | ⟨-, smaller⟩
    · rw [firstCa.1, secondCa.1] at smaller
      exact absurd smaller (lt_irrefl _)
    · exact smaller
  · exact responseObjects_ascending table ca qoi
  intro object
  rw [mem_responseObjects_iff, Image.readOut, List.mem_map]
  simp only [List.mem_filter, mem_imageOf_iff, decide_eq_true_eq]
  constructor
  · rintro ⟨point, ⟨found, rfl, covered⟩, rfl⟩
    exact ⟨point, found, covered, rfl⟩
  · rintro ⟨point, found, covered, rfl⟩
    rcases PointTable.lookup_addressed found with ⟨rfl, -⟩
    exact ⟨point, ⟨found, rfl, covered⟩, rfl⟩

theorem mem_sectors_iff (image : Image) (ca : Int) :
    ca ∈ image.sectors ↔ ∃ point ∈ image.points, point.ca = ca := by
  rw [Image.sectors, List.mem_dedup, List.mem_map]

theorem sectors_ascending (image : Image) :
    image.sectors.Pairwise fun first second => first < second := by
  have sorted : image.sectors.Pairwise fun first second => first ≤ second := by
    apply List.Pairwise.sublist (List.dedup_sublist _)
    rw [List.pairwise_map]
    apply image.ordered.imp
    intro first second before
    rcases before with smaller | ⟨same, -⟩
    · exact smaller.le
    · exact same.le
  exact
    sorted.imp₂ (fun first second below apart => lt_of_le_of_ne below apart)
      (List.nodup_dedup _)

/-- Only the sectors of the table have something to read out. -/
theorem keys_filter_sectors :
    (table.devices.keys.filter fun ca => ca ∈ (imageOf table).sectors) =
      (imageOf table).sectors := by
  apply List.Pairwise.eq_of_mem_iff
    (r := fun first second : Int => first < second)
  · apply List.Pairwise.filter
    exact Std.ExtTreeMap.ordered_keys.imp Int.compare_eq_lt.mp
  · exact sectors_ascending _
  intro ca
  rw [List.mem_filter, decide_eq_true_eq]
  apply and_iff_right_of_imp
  intro member
  rcases (mem_sectors_iff _ ca).mp member with ⟨point, isPoint, rfl⟩
  have found := (mem_imageOf_iff table point).mp isPoint
  rw [mem_keys_iff]
  exact
    PointTable.hasDevice_of_entryAt (PointTable.lookup_eq_some_iff.mp found)

/-- Elements which contribute nothing can be left out. -/
theorem flatMap_filter_eq {α β : Type} {keep : α → Bool} {f : α → List β}
    (list : List α) (nothing : ∀ a, keep a = false → f a = []) :
    (list.filter keep).flatMap f = list.flatMap f := by
  induction list with
  | nil => rfl
  | cons head tail induction =>
      rw [List.filter_cons]
      cases kept : keep head with
      | true =>
          rw [if_pos rfl, List.flatMap_cons, List.flatMap_cons, induction]
      | false =>
          rw [if_neg Bool.false_ne_true, List.flatMap_cons,
            nothing head kept, induction]
          rfl

theorem readOut_eq_nil {image : Image} {ca : Int} (qoi : Nat)
    (absent : ca ∉ image.sectors) : image.readOut qoi ca = [] := by
  rw [Image.readOut, List.map_eq_nil_iff, List.filter_eq_nil_iff]
  intro point member selected
  have selected := of_decide_eq_true selected
  exact absent ((mem_sectors_iff image ca).mpr ⟨point, member, selected.1⟩)

/-- What an interrogation makes the server send is what the image reports. -/
theorem dataAsdus_interrogationHandler (server : IEC104Server)
    (connection : Connection) (asdu : Asdu) (qoi : Nat) :
    dataAsdus (interrogationHandler platform server connection asdu qoi).2 =
      (imageOf server.exchangeDefinitions).interrogate platform
        server.config.appLayerParameters asdu qoi := by
  have nothing :
      ∀ ca, responseAsdus platform server.config.appLayerParameters asdu ca
          [] = [] :=
    fun _ => rfl
  rw [interrogationHandler, Image.interrogate]
  by_cases within : 20 ≤ qoi ∧ qoi ≤ 36
  · have inside : ¬ (qoi < 20 ∨ 36 < qoi) := by omega
    rw [if_neg inside, if_pos within, Image.addressed]
    split
    · rw [dataAsdus_respondEach platform connection asdu qoi server _
        fun ca member => (mem_keys_iff _ ca).mp member,
        ← keys_filter_sectors, flatMap_filter_eq]
      · simp only [readOut_imageOf]
      · intro ca absent
        rw [readOut_eq_nil qoi (of_decide_eq_false absent), nothing]
    · rw [List.flatMap_singleton]
      split
      · rw [readOut_imageOf]
        exact dataAsdus_response platform connection asdu qoi server asdu.ca
      · rename_i unconfigured
        rw [readOut_eq_nil, nothing]
        · rfl
        · intro member
          rw [← keys_filter_sectors, List.mem_filter, mem_keys_iff] at member
          exact unconfigured member.1
  · have outside : qoi < 20 ∨ 36 < qoi := by omega
    rw [if_pos outside, if_neg within]
    rfl

end Tables

end Iec104North.ProcessImage
