import Iec104North.ImportExchange
import Iec104North.LastValue

/-!
# The groups of a point

`gi_groups` is a list of items, separated by commas: "station", or the number
of a group.  The loop of the importer sets one bit for each item, and the
interrogation of a group tests the bit of the group.
-/

namespace Iec104North.GiGroups

open Iec104North.Library
open Iec104North.AsduTypes
open Iec104North.Values
open Iec104North.DataPoints
open Iec104North.Server
open Iec104North.Interrogation
open Iec104North.InterrogationResponse
open Iec104North.Runs
open Iec104North.TableReads
open Iec104North.LastValue
open Iec104North.ImportExchange

/-! ## Items -/

/-- The items of a list of groups. -/
def itemsOf (giGroups : String) : List (List Char) :=
  giGroups.toList.splitOn ','

/-- The group an item names; "station" is group 0. -/
def groupOf (item : List Char) : Option Nat :=
  if item = "station".toList then
    some 0
  else if isDecimal item = true ∧ 1 ≤ decimal item ∧ decimal item ≤ 16 then
    some (decimal item).toNat
  else
    none

theorem groupOf_le {item : List Char} {group : Nat}
    (names : groupOf item = some group) : group ≤ 16 := by
  rw [groupOf] at names
  split at names
  · rcases Option.some.inj names with rfl
    omega
  split at names
  · rename_i number
    rcases Option.some.inj names with rfl
    omega
  · simp at names

/-- `std::stoi` throws on an item of digits: there is none, or too many. -/
def Throws (item : List Char) : Prop :=
  item = [] ∨ (isDecimal item = true ∧ ¬ IsInt32 (decimal item))

instance (item : List Char) : Decidable (Throws item) :=
  inferInstanceAs (Decidable (_ ∨ _))

/-! ## The mask -/

theorem getLsbD_or_group (mask : BitVec 32) {group : Nat}
    (small : group ≤ 16) (bit : Nat) :
    (mask ||| (1 <<< group)).getLsbD bit =
      (mask.getLsbD bit || decide (group = bit)) := by
  rw [BitVec.getLsbD_or, BitVec.natCast_eq_ofNat, BitVec.getLsbD_ofNat,
    Nat.one_shiftLeft, Nat.testBit_two_pow]
  by_cases same : group = bit
  · have within : bit < 32 := by omega
    simp [same, within]
  · simp [same]

/-- One turn of the loop with an item that names a group. -/
theorem groupsOf_cons_some {item : List Char} {group : Nat}
    (names : groupOf item = some group) (mask : BitVec 32)
    (rest : List (List Char)) :
    groupsOf mask (item :: rest) =
      groupsOf (mask ||| (1 <<< group)) rest := by
  rw [groupOf] at names
  split at names
  · rename_i station
    rcases Option.some.inj names with rfl
    rw [groupsOf, if_pos (by simpa using station)]
    rfl
  split at names
  · rename_i noStation number
    rcases Option.some.inj names with rfl
    have digits := (isDecimal_iff.mp number.1).2
    have inRange : IsInt32 (decimal item) := by
      constructor <;> omega
    rw [groupsOf, if_neg (by simpa using noStation),
      if_pos (List.all_eq_true.mpr digits), stoi_of_isDecimal number.1,
      if_pos inRange]
    dsimp only
    rw [if_neg (by omega)]
  · simp at names

/-- One turn with an item that names none. -/
theorem groupsOf_cons_none {item : List Char}
    (namesNone : groupOf item = none) (mask : BitVec 32)
    (rest : List (List Char)) :
    groupsOf mask (item :: rest) =
      if Throws item then .error .stop else .ok 1 := by
  have noStation : item ≠ "station".toList := by
    rintro rfl
    revert namesNone
    decide
  have noNumber :
      isDecimal item = true → ¬ (1 ≤ decimal item ∧ decimal item ≤ 16) := by
    intro number bounds
    rw [groupOf, if_neg noStation, if_pos ⟨number, bounds⟩] at namesNone
    simp at namesNone
  rw [groupsOf, if_neg (by simpa using noStation)]
  by_cases number : isDecimal item = true
  · have digits := (isDecimal_iff.mp number).2
    have outside := noNumber number
    rw [if_pos (List.all_eq_true.mpr digits), stoi_of_isDecimal number]
    by_cases inRange : IsInt32 (decimal item)
    · have nothrow : ¬ Throws item := by
        rintro (empty | ⟨-, overlong⟩)
        · exact (isDecimal_iff.mp number).1 empty
        · exact overlong inRange
      rw [if_pos inRange, if_neg nothrow]
      dsimp only
      rw [if_pos (by omega)]
    · have throws : Throws item := .inr ⟨number, inRange⟩
      rw [if_neg inRange, if_pos throws]
  · by_cases empty : item = []
    · rcases empty with rfl
      rfl
    · have nothrow : ¬ Throws item := by
        rintro (isEmpty | ⟨isNumber, -⟩)
        · exact empty isEmpty
        · exact number isNumber
      have noDigits : ¬ item.all Char.isDigit = true := by
        intro digits
        exact number (isDecimal_iff.mpr ⟨empty, List.all_eq_true.mp digits⟩)
      rw [if_neg noDigits, if_neg nothrow]

/-- The loop over items that each name a group sets the bits of the groups. -/
theorem groupsOf_named {items : List (List Char)}
    (named : ∀ item ∈ items, (groupOf item).isSome = true)
    (mask : BitVec 32) :
    ∃ result,
      groupsOf mask items = .ok result ∧
        ∀ bit,
          result.getLsbD bit =
            (mask.getLsbD bit ||
              items.any fun item => groupOf item == some bit) := by
  induction items generalizing mask with
  | nil => exact ⟨mask, rfl, by simp⟩
  | cons item rest ih =>
      rcases Option.isSome_iff_exists.mp (named item (by simp)) with
        ⟨group, names⟩
      rcases
          ih (fun other member => named other (by simp [member]))
            (mask ||| (1 <<< group)) with
        ⟨result, read, bits⟩
      refine ⟨result, ?_, ?_⟩
      · rw [groupsOf_cons_some names]
        exact read
      · intro bit
        rw [bits, getLsbD_or_group mask (groupOf_le names), List.any_cons,
          names, Bool.or_assoc]
        rfl

/-- The first item that names no group decides how the loop ends. -/
theorem groupsOf_unnamed {items : List (List Char)} {item : List Char}
    (first :
      items.find? (fun item => (groupOf item).isNone) = some item)
    (mask : BitVec 32) :
    groupsOf mask items = if Throws item then .error .stop else .ok 1 := by
  induction items generalizing mask with
  | nil => simp at first
  | cons head rest ih =>
      cases names : groupOf head with
      | none =>
          have same : head = item := by simpa [names] using first
          rw [groupsOf_cons_none names, same]
      | some group =>
          rw [groupsOf_cons_some names]
          exact ih (by simpa [names] using first) _

/-- A protocol has a list of groups with items that each name a group. -/
structure ListsGroups (protocol : Json) (giGroups : String) : Prop where
  member :
    (protocol.member? "gi_groups").bind Json.asString = some giGroups
  nonempty : giGroups ≠ ""
  named : ∀ item ∈ itemsOf giGroups, (groupOf item).isSome = true

/-- The importer sets bit 0 for "station" and bit `g` for the group `g`. -/
theorem importGiGroups_listed {protocol : Json} {giGroups : String}
    (lists : ListsGroups protocol giGroups) :
    ∃ mask,
      importGiGroups protocol = .ok mask ∧
        ∀ bit,
          mask.getLsbD bit = true ↔
            ∃ item ∈ itemsOf giGroups, groupOf item = some bit := by
  rcases Option.bind_eq_some_iff.mp lists.member with
    ⟨member, isMember, isString⟩
  rcases groupsOf_named lists.named 0 with ⟨mask, read, bits⟩
  refine ⟨mask, ?_, ?_⟩
  · simp only [importGiGroups, isMember, isString]
    rw [if_neg (by simpa using lists.nonempty)]
    exact read
  · intro bit
    rw [bits]
    simp

/-! ## Interrogations -/

/-- A point that is imported gets the groups of its protocol. -/
theorem importGiGroups_of_importProtocol {label : String} {protocol : Json}
    {definition : Definition}
    (imported : importProtocol label protocol = .ok (some definition)) :
    importGiGroups protocol = .ok definition.giGroups := by
  simp only [importProtocol] at imported
  split at imported
  · simp at imported
  split at imported
  · simp at imported
  split at imported
  · simp at imported
  split at imported
  · split at imported
    · simp at imported
    rename_i giGroups read
    split at imported
    · simp at imported
    split at imported
    · rcases Option.some.inj (Except.ok.inj imported) with rfl
      exact read
    · simp at imported
  · simp at imported

section Reported

variable (platform : Platform) {start : System} {point : DataPoint}
  {ca ioa : Int}
  (found : start.server.exchangeDefinitions.lookup ca ioa = some point)
  (monitoring : point.isCommand = false) (events : List Event)
  (connection : Connection) (asdu : Asdu) (group : Nat)

/-- The interrogation of a group reports the point at an address. -/
def ReportsAt (system : System) (ca ioa : Int) (qoi : Nat) : Prop :=
  ∃ object ∈
      reportedObjects
        (sendInterrogationResponse platform system.server connection asdu ca
          qoi).2,
    object.objectAddress = ioa

include found

/-- Only a group with its bit in the mask of the point reports it. -/
theorem getLsbD_of_reportsAt
    (reports :
      ReportsAt platform connection asdu
        ((machine platform).after start events) ca ioa (20 + group)) :
    point.giGroups.getLsbD group = true := by
  rcases reports with ⟨object, reported, rfl⟩
  rcases
      (mem_responseObjects_iff _ ca _ object).mp
        (mem_responseObjects_of_reported platform _ connection asdu ca _
          reported) with
    ⟨current, isCurrent, covered, -⟩
  rcases
      lookup_of_sameSettings (sameSettings_run platform start events)
        isCurrent with
    ⟨other, isFound, settings⟩
  rcases Option.some.inj (found.symm.trans isFound) with rfl
  have inGroup := ((isCovered_of_settings settings _).mp covered).2
  simpa [isInGroup] using inGroup

include monitoring

/-- A group with its bit in the mask reports the point if objects fit. -/
theorem reportsAt_of_getLsbD
    (fits : FitsEmpty platform start.server.config.appLayerParameters)
    (listed : point.giGroups.getLsbD group = true) :
    ReportsAt platform connection asdu
      ((machine platform).after start events) ca ioa (20 + group) := by
  have settings := sameSettings_run platform start events ca ioa
  rw [found, Option.map_some, Option.map_eq_some_iff] at settings
  rcases settings with ⟨current, isCurrent, same⟩
  have covered : IsCovered (20 + group) current := by
    rw [isCovered_of_settings same]
    exact ⟨monitoring, by simpa [isInGroup] using listed⟩
  refine
    ⟨pointObject current, ?_, (PointTable.lookup_addressed isCurrent).2⟩
  rw [reportedObjects_eq platform _ connection asdu ca _
    (by rw [appLayerParameters_run]; exact fits)]
  exact pointObject_mem_responseObjects isCurrent covered

end Reported

/--
The mask of a list of groups has the bits of the groups that are listed.  After
every run an interrogation reports a point with this mask only for a group that
is listed, and for each of them when an object fits into an ASDU.
-/
theorem giGroups_reported_iff (platform : Platform) {protocol : Json}
    {giGroups : String} (lists : ListsGroups protocol giGroups) :
    ∃ mask,
      importGiGroups protocol = .ok mask ∧
        (∀ bit,
          mask.getLsbD bit = true ↔
            ∃ item ∈ itemsOf giGroups, groupOf item = some bit) ∧
        ∀ label definition,
          importProtocol label protocol = .ok (some definition) →
          isSupportedCommandType definition.typeId = false →
          ∀ start : System,
            start.server.exchangeDefinitions.lookup definition.ca
                definition.ioa =
              some definition.dataPoint →
            ∀ events connection asdu group,
              (ReportsAt platform connection asdu
                  ((machine platform).after start events) definition.ca
                  definition.ioa (20 + group) →
                ∃ item ∈ itemsOf giGroups, groupOf item = some group) ∧
              (FitsEmpty platform start.server.config.appLayerParameters →
                (∃ item ∈ itemsOf giGroups, groupOf item = some group) →
                ReportsAt platform connection asdu
                  ((machine platform).after start events) definition.ca
                  definition.ioa (20 + group)) := by
  rcases importGiGroups_listed lists with ⟨mask, read, bits⟩
  refine ⟨mask, read, bits, ?_⟩
  intro label definition imported monitoring start found events connection
    asdu group
  have same : definition.dataPoint.giGroups = mask :=
    Except.ok.inj
      ((importGiGroups_of_importProtocol imported).symm.trans read)
  rw [← bits, ← same]
  exact
    ⟨getLsbD_of_reportsAt platform found events connection asdu group,
      reportsAt_of_getLsbD platform found monitoring events connection asdu
        group⟩

/-- An entry of a single point in the station group and in group 3. -/
def sampleProtocol : Json :=
  .object
    [("name", .string "iec104"), ("address", .string "1-10"),
     ("typeid", .string "M_SP_NA_1"),
     ("gi_groups", .string "station,3,03")]

/-- What the importer makes of `sampleProtocol`. -/
def sampleDefinition : Definition :=
  ⟨"TM", 1, 10, TypeId.M_SP_NA_1.value, 9, by decide⟩

/-- `sampleSystem` with the point of `sampleProtocol` only. -/
def groupedSystem : System where
  server :=
    { sampleServer with
      exchangeDefinitions :=
        PointTable.empty.store sampleDefinition.dataPoint }

theorem listsGroups_sample :
    ListsGroups sampleProtocol "station,3,03" :=
  ⟨by decide, by decide, by decide⟩

theorem giGroups_reported_iff_sample :
    (∃ mask,
      importGiGroups sampleProtocol = .ok mask ∧
        ∀ bit,
          mask.getLsbD bit = true ↔
            ∃ item ∈ itemsOf "station,3,03", groupOf item = some bit) ∧
      ReportsAt samplePlatform 1 sampleInterrogation
        ((machine samplePlatform).after groupedSystem []) 1 10 (20 + 3) := by
  rcases giGroups_reported_iff samplePlatform listsGroups_sample with
    ⟨mask, read, bits, reported⟩
  refine ⟨⟨mask, read, bits⟩, ?_⟩
  exact
    (reported "TM" sampleDefinition rfl (by decide) groupedSystem (by decide)
        [] 1 sampleInterrogation 3).2
      fitsEmpty_sample ⟨"3".toList, by decide, by decide⟩

end Iec104North.GiGroups
