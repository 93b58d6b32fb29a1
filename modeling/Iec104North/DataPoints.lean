import Iec104North.Values
import Mathlib.Tactic.Linarith

/-!
# Data points and the exchange definitions

`IEC104DataPoint` and the table `m_exchangeDefinitions` of the server, a map of
common addresses to maps of object addresses to points.  Reading a `std::map`
with `operator[]` inserts a missing key: `PointTable.touchDevice` and
`PointTable.access` are the two reads of the server that do so.
-/

namespace Iec104North.DataPoints

open Std
open Iec104North.AsduTypes
open Iec104North.Values

/--
An `IEC104DataPoint`.  Its data type `m_type` is the union member in use, and
`m_ts` is not set before the first message with time tag.
-/
structure DataPoint where
  label : String
  ca : Int
  ioa : Int
  isCommand : Bool
  giGroups : BitVec 32
  value : PointValue
  quality : Quality
  ts : Option CP56Time2a
deriving DecidableEq, Repr

namespace DataPoint

/-- The value the constructor gives a point of a data type. -/
def initialValue : DataType → PointValue
  | .sp => .sp 0
  | .dp => .dp 0
  | .stepPos => .stepPos 0 0
  | .normalized => .normalized 0
  | .scaled => .scaled 0
  | .short => .short 0

/-- The quality the constructor gives a point. -/
def initialQuality : Quality :=
  Quality.invalid ||| Quality.nonTopical

/-- The constructor `IEC104DataPoint::IEC104DataPoint`. -/
def create (label : String) (ca ioa : Int) (type : DataType)
    (isCommand : Bool) (giGroups : BitVec 32) : DataPoint where
  label := label
  ca := ca
  ioa := ioa
  isCommand := isCommand
  giGroups := giGroups
  value := initialValue type
  quality := initialQuality
  ts := none

/-- `m_type`. -/
def type (point : DataPoint) : DataType :=
  point.value.dataType

/-- `IEC104DataPoint::isMonitoringType`. -/
def isMonitoringType (point : DataPoint) : Bool :=
  if point.isCommand then false else true

/-- `IEC104DataPoint::isMatchingCommand`. -/
def isMatchingCommand (point : DataPoint) (typeId : Int) : Bool :=
  if point.isCommand then isMatchingCommandType point.type typeId else false

@[simp]
theorem dataType_initialValue (type : DataType) :
    (initialValue type).dataType = type := by
  cases type <;> rfl

/-- The point as it was imported, without value, quality and time stamp. -/
def settings (point : DataPoint) : DataPoint :=
  create point.label point.ca point.ioa point.type point.isCommand
    point.giGroups

theorem type_eq_of_settings {point other : DataPoint}
    (same : point.settings = other.settings) : point.type = other.type := by
  have types := congrArg type same
  simpa [settings, create, type] using types

theorem isCommand_eq_of_settings {point other : DataPoint}
    (same : point.settings = other.settings) :
    point.isCommand = other.isCommand := by
  have commands := congrArg DataPoint.isCommand same
  simpa [settings, create] using commands

theorem ca_eq_of_settings {point other : DataPoint}
    (same : point.settings = other.settings) : point.ca = other.ca := by
  have addresses := congrArg DataPoint.ca same
  simpa [settings, create] using addresses

theorem ioa_eq_of_settings {point other : DataPoint}
    (same : point.settings = other.settings) : point.ioa = other.ioa := by
  have addresses := congrArg DataPoint.ioa same
  simpa [settings, create] using addresses

theorem giGroups_eq_of_settings {point other : DataPoint}
    (same : point.settings = other.settings) :
    point.giGroups = other.giGroups := by
  have groups := congrArg DataPoint.giGroups same
  simpa [settings, create] using groups

@[simp]
theorem isMonitoringType_iff (point : DataPoint) :
    point.isMonitoringType = true ↔ point.isCommand = false := by
  simp [isMonitoringType]

theorem isMatchingCommand_iff (point : DataPoint) (typeId : Int) :
    point.isMatchingCommand typeId = true ↔
      point.isCommand = true ∧
        isSupportedCommandType typeId = true ∧
        typeIdToDataType typeId = some point.type := by
  by_cases command : point.isCommand = true
  · simp [isMatchingCommand, command, isMatchingCommandType_iff]
  · simp [isMatchingCommand, command]

end DataPoint

/-! ## The table of points -/

/-- `std::map<int, IEC104DataPoint*>`; `none` is the null pointer. -/
abbrev Device := ExtTreeMap Int (Option DataPoint)

/-- The entry of a nested map, if both keys are present. -/
def entryOf (devices : ExtTreeMap Int Device) (ca ioa : Int) :
    Option (Option DataPoint) :=
  devices[ca]?.bind fun device => device[ioa]?

/-- The points of a map have a given CA and are stored under their IOA. -/
def StoredUnder (ca : Int) (device : Device) : Prop :=
  ∀ (ioa : Int) (point : DataPoint),
    device[ioa]? = some (some point) → point.ca = ca ∧ point.ioa = ioa

/-- `insert` on a map with integer keys. -/
theorem getElem?_insert_int {β : Type} (map : ExtTreeMap Int β)
    (key : Int) (value : β) (other : Int) :
    (map.insert key value)[other]? =
      if other = key then some value else map[other]? := by
  rw [ExtTreeMap.getElem?_insert]
  by_cases equal : other = key
  · subst equal
    simp
  · have apart : ¬ compare key other = .eq := by
      intro same
      exact equal (LawfulEqCmp.eq_of_compare same).symm
    simp [equal, apart]

theorem StoredUnder.insert {ca ioa : Int} {device : Device}
    {entry : Option DataPoint} (stored : StoredUnder ca device)
    (fits : ∀ point, entry = some point →
      point.ca = ca ∧ point.ioa = ioa) :
    StoredUnder ca (device.insert ioa entry) := by
  intro other point found
  rw [getElem?_insert_int] at found
  split at found
  · rename_i equal
    subst equal
    exact fits point (by simpa using found)
  · exact stored other point found

/--
`m_exchangeDefinitions`.  Every point is stored under its own addresses, as
`importExchangeConfig` does it.
-/
structure PointTable where
  devices : ExtTreeMap Int Device
  addressed : ∀ ca ioa point,
    entryOf devices ca ioa = some (some point) →
      point.ca = ca ∧ point.ioa = ioa

namespace PointTable

/-- The table without any point. -/
def empty : PointTable where
  devices := ∅
  addressed := by
    intro ca ioa point found
    simp [entryOf] at found

/-- The CA has an entry, possibly an empty one. -/
def HasDevice (table : PointTable) (ca : Int) : Prop :=
  ca ∈ table.devices

instance (table : PointTable) (ca : Int) :
    Decidable (table.HasDevice ca) :=
  inferInstanceAs (Decidable (ca ∈ table.devices))

/-- The entry at an address; the inner `none` is a null pointer. -/
def entryAt (table : PointTable) (ca ioa : Int) :
    Option (Option DataPoint) :=
  entryOf table.devices ca ioa

/-- The point configured at an address. -/
def lookup (table : PointTable) (ca ioa : Int) : Option DataPoint :=
  (table.entryAt ca ioa).join

/-- The map of one CA; empty when the CA has no entry. -/
def device (table : PointTable) (ca : Int) : Device :=
  table.devices[ca]?.getD ∅

@[simp]
theorem entryAt_empty (ca ioa : Int) : empty.entryAt ca ioa = none := by
  simp [empty, entryAt, entryOf]

@[simp]
theorem lookup_empty (ca ioa : Int) : empty.lookup ca ioa = none := by
  simp [lookup]

theorem device_entry (table : PointTable) (ca ioa : Int) :
    (table.device ca)[ioa]? = table.entryAt ca ioa := by
  unfold device entryAt entryOf
  cases table.devices[ca]? <;> simp

theorem hasDevice_of_entryAt {table : PointTable} {ca ioa : Int}
    {entry : Option DataPoint} (found : table.entryAt ca ioa = some entry) :
    table.HasDevice ca := by
  unfold entryAt entryOf at found
  unfold HasDevice
  cases present : table.devices[ca]? with
  | none => simp [present] at found
  | some device =>
      exact ExtTreeMap.mem_iff_isSome_getElem?.mpr (by simp [present])

theorem lookup_eq_some_iff {table : PointTable} {ca ioa : Int}
    {point : DataPoint} :
    table.lookup ca ioa = some point ↔
      table.entryAt ca ioa = some (some point) := by
  simp [lookup, Option.join_eq_some_iff]

/-- Replace the map of one CA. -/
private def setDevice (table : PointTable) (ca : Int) (device : Device)
    (addressed : StoredUnder ca device) : PointTable where
  devices := table.devices.insert ca device
  addressed := by
    intro other ioa point found
    unfold entryOf at found
    rw [getElem?_insert_int] at found
    split at found
    · rename_i equal
      subst equal
      exact addressed ioa point (by simpa using found)
    · exact table.addressed other ioa point found

private theorem entryAt_setDevice (table : PointTable) (ca : Int)
    (device : Device) (addressed : StoredUnder ca device)
    (other ioa : Int) :
    (table.setDevice ca device addressed).entryAt other ioa =
      if other = ca then device[ioa]? else table.entryAt other ioa := by
  unfold setDevice entryAt entryOf
  rw [getElem?_insert_int]
  split <;> rfl

private theorem hasDevice_setDevice (table : PointTable) (ca : Int)
    (device : Device) (addressed : StoredUnder ca device)
    (other : Int) :
    (table.setDevice ca device addressed).HasDevice other ↔
      other = ca ∨ table.HasDevice other := by
  unfold setDevice HasDevice
  rw [ExtTreeMap.mem_insert, LawfulEqCmp.compare_eq_iff_eq]
  exact or_congr eq_comm Iff.rfl

theorem device_storedUnder (table : PointTable) (ca : Int) :
    StoredUnder ca (table.device ca) := by
  intro ioa point found
  rw [device_entry] at found
  exact table.addressed ca ioa point found

/-- `m_exchangeDefinitions[ca]`: a missing CA gets an empty map. -/
def touchDevice (table : PointTable) (ca : Int) : PointTable :=
  table.setDevice ca (table.device ca) (table.device_storedUnder ca)

theorem device_entry_fits (table : PointTable) (ca ioa : Int) :
    ∀ point, ((table.device ca)[ioa]?).getD none = some point →
      point.ca = ca ∧ point.ioa = ioa := by
  intro point found
  apply table.device_storedUnder ca ioa point
  cases present : (table.device ca)[ioa]? with
  | none => simp [present] at found
  | some entry => simpa [present] using found

/--
`m_exchangeDefinitions[ca][ioa]`: a missing CA gets a map and a missing IOA a
null pointer.
-/
def access (table : PointTable) (ca ioa : Int) : PointTable :=
  table.setDevice ca
    ((table.device ca).insert ioa (((table.device ca)[ioa]?).getD none))
    ((table.device_storedUnder ca).insert (table.device_entry_fits ca ioa))

/-- Write a point to the entry at its addresses. -/
def store (table : PointTable) (point : DataPoint) : PointTable :=
  table.setDevice point.ca
    ((table.device point.ca).insert point.ioa (some point))
    ((table.device_storedUnder point.ca).insert
      (by rintro stored ⟨⟩; exact ⟨rfl, rfl⟩))

/-! ### What the operations leave and change -/

@[simp]
theorem entryAt_touchDevice (table : PointTable) (ca other ioa : Int) :
    (table.touchDevice ca).entryAt other ioa = table.entryAt other ioa := by
  rw [touchDevice, entryAt_setDevice]
  split
  · rename_i equal
    subst equal
    exact table.device_entry other ioa
  · rfl

@[simp]
theorem hasDevice_touchDevice (table : PointTable) (ca other : Int) :
    (table.touchDevice ca).HasDevice other ↔
      other = ca ∨ table.HasDevice other := by
  rw [touchDevice, hasDevice_setDevice]

@[simp]
theorem lookup_touchDevice (table : PointTable) (ca other ioa : Int) :
    (table.touchDevice ca).lookup other ioa = table.lookup other ioa := by
  simp [lookup]

theorem entryAt_access (table : PointTable) (ca ioa other otherIoa : Int) :
    (table.access ca ioa).entryAt other otherIoa =
      if other = ca ∧ otherIoa = ioa then
        some (table.lookup ca ioa)
      else
        table.entryAt other otherIoa := by
  rw [access, entryAt_setDevice]
  by_cases sameCa : other = ca
  · subst sameCa
    rw [getElem?_insert_int, device_entry, device_entry]
    by_cases sameIoa : otherIoa = ioa
    · subst sameIoa
      cases entry : table.entryAt other otherIoa <;> simp [lookup, entry]
    · simp [sameIoa]
  · simp [sameCa]

@[simp]
theorem hasDevice_access (table : PointTable) (ca ioa other : Int) :
    (table.access ca ioa).HasDevice other ↔
      other = ca ∨ table.HasDevice other := by
  rw [access, hasDevice_setDevice]

@[simp]
theorem lookup_access (table : PointTable) (ca ioa other otherIoa : Int) :
    (table.access ca ioa).lookup other otherIoa =
      table.lookup other otherIoa := by
  unfold lookup
  rw [entryAt_access]
  split
  · rename_i equal
    rcases equal with ⟨rfl, rfl⟩
    simp [lookup]
  · rfl

theorem entryAt_store (table : PointTable) (point : DataPoint)
    (ca ioa : Int) :
    (table.store point).entryAt ca ioa =
      if ca = point.ca ∧ ioa = point.ioa then
        some (some point)
      else
        table.entryAt ca ioa := by
  rw [store, entryAt_setDevice]
  by_cases sameCa : ca = point.ca
  · subst sameCa
    rw [getElem?_insert_int, device_entry]
    by_cases sameIoa : ioa = point.ioa
    · simp [sameIoa]
    · simp [sameIoa]
  · simp [sameCa]

@[simp]
theorem hasDevice_store (table : PointTable) (point : DataPoint)
    (ca : Int) :
    (table.store point).HasDevice ca ↔
      ca = point.ca ∨ table.HasDevice ca := by
  rw [store, hasDevice_setDevice]

theorem lookup_store (table : PointTable) (point : DataPoint)
    (ca ioa : Int) :
    (table.store point).lookup ca ioa =
      if ca = point.ca ∧ ioa = point.ioa then
        some point
      else
        table.lookup ca ioa := by
  unfold lookup
  rw [entryAt_store]
  split <;> simp

theorem lookup_addressed {table : PointTable} {ca ioa : Int}
    {point : DataPoint} (found : table.lookup ca ioa = some point) :
    point.ca = ca ∧ point.ioa = ioa :=
  table.addressed ca ioa point (lookup_eq_some_iff.mp found)

end PointTable

end Iec104North.DataPoints
