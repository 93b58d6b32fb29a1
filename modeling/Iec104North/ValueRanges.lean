import Iec104North.AttributeReading
import Iec104North.InvalidUntilReceived

/-!
# Numbers beyond the range of their field

`m_updateDataPoint` cuts the number of a `do_value` to the width of its field:
one bit, two bits, or 7 and 16 bits with a sign.  A number beyond the range
becomes another one, and the quality stays as the data object has it.
-/

namespace Iec104North.ValueRanges

open Iec104North.Library
open Iec104North.AsduTypes
open Iec104North.Values
open Iec104North.DataPoints
open Iec104North.Server
open Iec104North.Readings
open Iec104North.Runs
open Iec104North.TableReads
open Iec104North.LastValue
open Iec104North.MonitoringData
open Iec104North.InvalidUntilReceived
open Iec104North.AttributeReading

/-! ## Fields -/

/-- A field with a sign has room for the numbers in its range. -/
theorem toInt_ofInt_eq_self_iff (width : Nat) (number : Int) :
    (BitVec.ofInt (width + 1) number).toInt = number ↔
      -(2 ^ width : Nat) ≤ number ∧ number < (2 ^ width : Nat) := by
  have positive : 0 < 2 ^ (width + 1) := Nat.two_pow_pos _
  have double : 2 ^ (width + 1) = 2 * 2 ^ width := Nat.pow_succ'
  rw [BitVec.toInt_ofInt]
  constructor
  · intro same
    have low := Int.le_bmod (x := number) positive
    have high := Int.bmod_lt (x := number) positive
    rw [same] at low high
    constructor
    · omega
    · omega
  · rintro ⟨low, high⟩
    exact Int.bmod_eq_of_le (by omega) (by omega)

/-! ## Delivered numbers -/

/-- A number delivered for a point, with the flag of a step position. -/
inductive Delivered where
  | sp (number : Int)
  | dp (number : Int)
  | stepPos (number : Int) (transient : Bool)
  | scaled (number : Int)
deriving DecidableEq, Repr

namespace Delivered

/-- The number is in the range of its field. -/
def InRange : Delivered → Prop
  | sp number => 0 ≤ number ∧ number ≤ 1
  | dp number => 0 ≤ number ∧ number ≤ 3
  | stepPos number _ => -64 ≤ number ∧ number ≤ 63
  | scaled number => -32768 ≤ number ∧ number ≤ 32767

instance : (delivered : Delivered) → Decidable delivered.InRange
  | sp _ => inferInstanceAs (Decidable (_ ∧ _))
  | dp _ => inferInstanceAs (Decidable (_ ∧ _))
  | stepPos _ _ => inferInstanceAs (Decidable (_ ∧ _))
  | scaled _ => inferInstanceAs (Decidable (_ ∧ _))

/-- The number a value shows. -/
def shownBy : PointValue → Option Delivered
  | .sp value => some (sp value.toNat)
  | .dp value => some (dp value.toNat)
  | .stepPos posValue transient =>
      some (stepPos posValue.toInt (transient == 1))
  | .scaled value => some (scaled value.toInt)
  | _ => none

/-- What the field holds of the number. -/
def field : Delivered → PointValue
  | sp number => .sp (BitVec.ofInt 1 number)
  | dp number => .dp (BitVec.ofInt 2 number)
  | stepPos number transient =>
      .stepPos (BitVec.ofInt 7 number) (BitVec.ofBool transient)
  | scaled number => .scaled (BitVec.ofInt 16 number)

/-- The field shows the number exactly when it has room for it. -/
theorem shownBy_field_iff (delivered : Delivered) :
    shownBy delivered.field = some delivered ↔ delivered.InRange := by
  cases delivered with
  | sp number =>
      simp only [shownBy, field, InRange, Option.some.injEq, sp.injEq,
        BitVec.toNat_ofInt]
      omega
  | dp number =>
      simp only [shownBy, field, InRange, Option.some.injEq, dp.injEq,
        BitVec.toNat_ofInt]
      omega
  | stepPos number transient =>
      have flag : (BitVec.ofBool transient == 1) = transient := by
        cases transient <;> rfl
      simp only [shownBy, field, InRange, Option.some.injEq, stepPos.injEq,
        toInt_ofInt_eq_self_iff 6, flag, and_true]
      omega
  | scaled number =>
      simp only [shownBy, field, InRange, Option.some.injEq, scaled.injEq,
        toInt_ofInt_eq_self_iff 15]
      omega

end Delivered

/-! ## Texts -/

/-- The text after the first comma of a step position. -/
def flagOf (str : List Char) : List Char :=
  ((withoutEnds str).dropWhile (· != ',')).drop 1

/-- The number and the flag of a text `[n,true]` or `[n,false]`. -/
def flaggedPositionOf (str : List Char) : Option (Int × Bool) :=
  if flagOf str ∈ ["true".toList, "false".toList] ∧
      str.length < 0x10000000000000000 then
    stepPositionOf str
  else
    none

/-- The number a `do_value` delivers for a point. -/
def deliveredBy (type : DataType) (value : Option DatapointValue) :
    Option Delivered :=
  match type, value with
  | .sp, some (.integer number) => some (.sp number)
  | .dp, some (.integer number) => some (.dp number)
  | .stepPos, some (.string str) =>
      (flaggedPositionOf str.toList).map fun position =>
        .stepPos position.1 position.2
  | .scaled, some (.integer number) => some (.scaled number)
  | _, _ => none

/-- A `do_value` from which the field of a point is read. -/
def isRead (type : DataType) (value : Option DatapointValue) : Bool :=
  match type, value with
  | .stepPos, some (.string str) => ',' ∈ withoutEnds str.toList
  | _, _ => hasRequiredType type value

section Assigned

variable (platform : Platform)

/-- Any other `do_value` leaves the field. -/
theorem assignValue_unread {value : PointValue}
    {newValue : Option DatapointValue} {assigned : PointValue}
    (assign : assignValue value newValue = .ok assigned)
    (unread : isRead value.dataType newValue = false) : assigned = value := by
  cases newValue with
  | none =>
      cases value <;> exact (Except.ok.inj assign).symm
  | some attrVal =>
      cases value with
      | stepPos posValue transient =>
          cases attrVal with
          | string str =>
              have noComma : ',' ∉ withoutEnds str.toList := by
                simpa [isRead, PointValue.dataType] using unread
              simp only [assignValue, stepPositionValue] at assign
              split at assign
              · simp at assign
              · rename_i cleaned cut
                have nonempty : str.toList ≠ [] := by
                  intro empty
                  simp [empty, substr] at cut
                rcases substr_mem_withoutEnds nonempty with
                  ⟨same, isCut, within⟩
                rcases Except.ok.inj (isCut.symm.trans cut) with rfl
                rw [if_neg fun comma => noComma (within _ comma)] at assign
                exact (Except.ok.inj assign).symm
          | _ => exact (Except.ok.inj assign).symm
      | _ =>
          cases attrVal <;>
            first
            | exact (Except.ok.inj assign).symm
            | simp [isRead, hasRequiredType, PointValue.dataType] at unread

theorem flaggedPositionOf_eq_some {str : List Char}
    {position : Int × Bool} (found : flaggedPositionOf str = some position) :
    stepPositionOf str = some position ∧ ReadableText str := by
  rw [flaggedPositionOf, Option.ite_none_right_eq_some] at found
  rcases found with ⟨⟨-, fits⟩, isPosition⟩
  exact ⟨isPosition, Or.inl ⟨by rw [isPosition]; rfl, fits⟩⟩

/-- A delivered number has the type the point requires. -/
theorem requiredValue_delivered {type : DataType}
    {newValue : Option DatapointValue} {delivered : Delivered}
    (delivers : deliveredBy type newValue = some delivered) :
    requiredValue type newValue = some delivered.field ∧
      (type = .stepPos →
        ∀ str ∈ textOf newValue, ReadableText str.toList) := by
  simp only [deliveredBy] at delivers
  split at delivers
  · rcases Option.some.inj delivers with rfl
    exact ⟨rfl, by simp⟩
  · rcases Option.some.inj delivers with rfl
    exact ⟨rfl, by simp⟩
  · rename_i str
    rcases Option.map_eq_some_iff.mp delivers with ⟨position, found, rfl⟩
    rcases flaggedPositionOf_eq_some found with ⟨isPosition, readable⟩
    refine ⟨by simp only [requiredValue, isPosition]; rfl, fun _ => ?_⟩
    rintro other same
    rcases Option.some.inj same with rfl
    exact readable
  · rcases Option.some.inj delivers with rfl
    exact ⟨rfl, by simp⟩
  · simp at delivers

/-- A delivered number is cut to the field. -/
theorem assignValue_delivered {value : PointValue}
    {newValue : Option DatapointValue} {assigned : PointValue}
    (assign : assignValue value newValue = .ok assigned)
    {delivered : Delivered}
    (delivers : deliveredBy value.dataType newValue = some delivered) :
    assigned = delivered.field := by
  rcases requiredValue_delivered delivers with ⟨isValue, readable⟩
  have expected := assignValue_readable value newValue readable
  rw [isValue, Option.getD_some] at expected
  exact Except.ok.inj (assign.symm.trans expected)

end Assigned

/-! ## Runs -/

section Runs

variable (platform : Platform) (start : System) (ca ioa : Int)

/-- The number of the last data object from which the field was read. -/
def lastDelivered (events : List Event) : Option Delivered :=
  ((applications platform start ca ioa events).filter fun application =>
      isRead application.type application.object.value).getLast?.bind
    fun application =>
      deliveredBy application.type application.object.value

/-- The quality of the last data object of a point. -/
def qualityDelivered (events : List Event) : Option Quality :=
  (applications platform start ca ioa events).getLast?.map
    fun application => application.object.qd

/-- The flag INVALID or OVERFLOW is set. -/
def IsFlagged (quality : Quality) : Prop :=
  IsInvalid quality ∨ quality &&& Quality.overflow = Quality.overflow

instance (quality : Quality) : Decidable (IsFlagged quality) :=
  inferInstanceAs (Decidable (_ ∨ _))

variable {platform start ca ioa}

theorem applications_concat (events : List Event) (event : Event) :
    applications platform start ca ioa (events ++ [event]) =
      applications platform start ca ioa events ++
        (appliedTo platform ca ioa ((machine platform).after start events)
          event).toList := by
  simp [applications]

/-- The table has of a delivered number what its field holds. -/
theorem lookup_delivered {events : List Event} {delivered : Delivered}
    (isLast : lastDelivered platform start ca ioa events = some delivered) :
    ∃ current,
      ((machine platform).after start
          events).server.exchangeDefinitions.lookup ca ioa =
          some current ∧
        current.value = delivered.field ∧
        qualityDelivered platform start ca ioa events =
          some current.quality := by
  induction events using List.reverseRecOn with
  | nil => simp [lastDelivered, applications] at isLast
  | append_singleton events event ih =>
      have written :=
        lookup_step platform ((machine platform).after start events) event ca
          ioa
      rw [Machine.after_append]
      rw [lastDelivered, applications_concat] at isLast
      rw [qualityDelivered, applications_concat]
      cases applied :
          appliedTo platform ca ioa ((machine platform).after start events)
            event with
      | none =>
          simp only [applied] at written
          simp only [applied, Option.toList_none, List.append_nil] at isLast ⊢
          rcases ih isLast with ⟨current, found, value, quality⟩
          exact ⟨current, written.trans found, value, quality⟩
      | some application =>
          simp only [applied] at written
          rcases written with
            ⟨point, now, updated, found, type, matching, update, isUpdated⟩
          rcases updatedPoint_writes platform matching update with
            ⟨assign, quality⟩
          refine ⟨updated, isUpdated, ?_, by simp [quality]⟩
          simp only [applied, Option.toList_some, List.filter_append,
            List.filter_cons, List.filter_nil] at isLast
          cases read : isRead application.type application.object.value with
          | true =>
              simp only [read, if_true, List.getLast?_concat,
                Option.bind_some] at isLast
              rw [← type] at isLast
              exact assignValue_delivered assign isLast
          | false =>
              simp only [read, Bool.false_eq_true, if_false,
                List.append_nil] at isLast
              rcases ih isLast with ⟨current, isCurrent, value, -⟩
              rcases Option.some.inj (isCurrent.symm.trans found) with rfl
              rw [← type] at read
              exact (assignValue_unread assign read).trans value

end Runs

/--
In every run, when the last data object from which the field of a point was
read delivered a number: what is transmitted for the point shows this number or
carries INVALID or OVERFLOW exactly when the number is in the range of the
field or the last data object carried one of the flags.
-/
theorem transmitted_iff_inRange (platform : Platform) (start : System)
    (ca ioa : Int) (earlier : List Event) (event : Event)
    {delivered : Delivered}
    (isLast :
      lastDelivered platform start ca ioa (earlier ++ [event]) =
        some delivered)
    {data : DataAsdu}
    (transmitted :
      data ∈
        dataAsdus
          (step platform ((machine platform).after start earlier) event).2)
    (address : data.ca = ca) {io : MonitoringObject}
    (member : io ∈ data.objects) (objectAddress : io.objectAddress = ioa) :
    (Delivered.shownBy io.value = some delivered ∨ IsFlagged io.quality) ↔
      (delivered.InRange ∨
        ∃ quality ∈
            qualityDelivered platform start ca ioa (earlier ++ [event]),
          IsFlagged quality) := by
  rcases lookup_delivered isLast with ⟨current, found, value, quality⟩
  rcases lookup_of_reported platform _ event transmitted member with
    ⟨reported, isReported, sameValue, sameQuality⟩
  rw [Machine.after_append] at found
  rw [address, objectAddress] at isReported
  rcases Option.some.inj (found.symm.trans isReported) with rfl
  simp only [quality, Option.mem_def, Option.some.injEq, exists_eq_left',
    ← sameValue, ← sameQuality, value, delivered.shownBy_field_iff]

/-- A system with a scaled value at 1:10. -/
def scaledSystem : System where
  server :=
    { sampleServer with
      exchangeDefinitions :=
        PointTable.empty.store
          (DataPoint.create "TM" 1 10 .scaled false 1) }

/-- A spontaneous scaled value for 1:10. -/
def scaledObject (number : Int) : Event :=
  .datapoint "TM" (sampleDataObject "M_ME_NB_1" 10 (.integer number)) 0

/-- The ASDU with a scaled value at 1:10. -/
def scaledAsdu (number : Int) : DataAsdu where
  cot := Cot.spontaneous
  oa := 0
  ca := 1
  objects := [⟨10, .scaled (BitVec.ofInt 16 number), Quality.good, none⟩]

theorem transmitted_iff_inRange_sample :
    (Delivered.shownBy (.scaled (BitVec.ofInt 16 300)) =
          some (.scaled 300) ∨
        IsFlagged Quality.good) ↔
      ((Delivered.scaled 300).InRange ∨
        ∃ quality ∈
            qualityDelivered samplePlatform scaledSystem 1 10
              ([] ++ [scaledObject 300]),
          IsFlagged quality) :=
  transmitted_iff_inRange samplePlatform scaledSystem 1 10 []
    (scaledObject 300) (by decide) (by decide : scaledAsdu 300 ∈ _) rfl
    (List.mem_singleton_self _) rfl

/-- 40000 is transmitted as -25536, with good quality. -/
theorem outOfRange_transmitted :
    lastDelivered samplePlatform scaledSystem 1 10 [scaledObject 40000] =
        some (.scaled 40000) ∧
      dataAsdus (step samplePlatform scaledSystem (scaledObject 40000)).2 =
        [scaledAsdu (-25536)] ∧
      ¬ (Delivered.shownBy (.scaled (BitVec.ofInt 16 (-25536))) =
            some (.scaled 40000) ∨
          IsFlagged Quality.good) := by
  decide

end Iec104North.ValueRanges
