import Iec104North.ExchangeDocument

/-!
# The points of a document

The table that is left by the import of a document: the points of a well-formed
document, each with what the last entry for its address says, and what happens
to the points of a document with malformed groups.
-/

namespace Iec104North.DocumentPoints

open Iec104North.Library
open Iec104North.AsduTypes
open Iec104North.Values
open Iec104North.DataPoints
open Iec104North.ImportExchange
open Iec104North.GiGroups
open Iec104North.ExchangeDocument

/-! ## Malformed groups -/

/--
The importer creates one point for each entry that defines one, in the order of
the document, and each has what its entry says.
-/
def CreatesPoints (document : Json) : Prop :=
  List.Forall₂ Entry.IsDefinition
    ((entries document).filter Entry.isPoint) (definitions (some document))

/--
Malformed groups put their entry into the station group and leave the other
entries exactly when the importer recovers from each of them.
-/
theorem createsPoints_iff_recovers {document : Json}
    (framed : IsFramed document) :
    CreatesPoints document ↔
      ∀ entry ∈ entries document, entry.isPoint = true → entry.Recovers := by
  constructor
  · intro creates entry member isPoint
    by_contra leaves
    have fewer :=
      length_definitions_lt framed ⟨entry, member, isPoint, leaves⟩
    have equal := creates.length_eq
    rw [← List.countP_eq_length_filter] at equal
    omega
  · intro recovers
    have kept : ∀ entry ∈ entries document, ¬ entry.IsLost :=
      fun entry member isLost => isLost.2 (recovers entry member isLost.1)
    rw [CreatesPoints, definitions_of_kept framed kept]
    exact forall₂_isDefinition framed.entry kept

/-- An entry with a given address and `gi_groups`. -/
def sampleEntry (address : String) (giGroups : Json) : Json :=
  .object
    [("name", .string "iec104"), ("address", .string address),
     ("typeid", .string "M_SP_NA_1"), ("gi_groups", giGroups)]

/-- A point at 1:10 with given groups, and two more after it. -/
def groupsDocument (giGroups : Json) : Json :=
  .object
    [("exchanged_data", .object
      [("datapoints", .array
        [.object
          [("label", .string "TM1"),
           ("protocols", .array
             [sampleEntry "1-10" giGroups,
              sampleEntry "1-11" (.string "station")])],
         .object
          [("label", .string "TM2"),
           ("protocols", .array
             [sampleEntry "1-12" (.string "station")])]])])]

theorem isFramed_sampleEntry {label address : String} {giGroups : Json}
    (ca ioa : Int)
    (isAddress : IsAddress (Json.cString address) ca ioa) :
    (Entry.mk label (sampleEntry address giGroups)).IsFramed where
  name := rfl
  address _ := ⟨Json.cString address, ca, ioa, rfl, isAddress⟩
  type _ := rfl
  groups _ noPoint := by
    have isPoint :
        (Entry.mk label (sampleEntry address giGroups)).isPoint = true :=
      rfl
    simp [isPoint] at noPoint

theorem isFramed_groupsDocument (giGroups : Json) :
    IsFramed (groupsDocument giGroups) := by
  refine ⟨_, rfl, ?_, ?_⟩
  · simp only [List.forall_mem_cons]
    exact ⟨rfl, rfl, by simp⟩
  · have listed :
        entries (groupsDocument giGroups) =
          [⟨"TM1", sampleEntry "1-10" giGroups⟩,
            ⟨"TM1", sampleEntry "1-11" (.string "station")⟩,
            ⟨"TM2", sampleEntry "1-12" (.string "station")⟩] :=
      rfl
    rw [listed]
    simp only [List.forall_mem_cons]
    refine
      ⟨isFramed_sampleEntry 1 10 ⟨"1".toList, "10".toList, ?_⟩,
        isFramed_sampleEntry 1 11 ⟨"1".toList, "11".toList, ?_⟩,
        isFramed_sampleEntry 1 12 ⟨"1".toList, "12".toList, ?_⟩, by simp⟩
    all_goals
      exact ⟨by decide, by decide, rfl, by decide, by decide, rfl, by decide⟩

/-- The importer recovers from a number that is no group. -/
theorem createsPoints_iff_recovers_sample :
    CreatesPoints (groupsDocument (.string "3,17")) ↔
      ∀ entry ∈ entries (groupsDocument (.string "3,17")),
        entry.isPoint = true → entry.Recovers :=
  createsPoints_iff_recovers (isFramed_groupsDocument (.string "3,17"))

/--
Groups that end in a comma take all points of the document with them, and
groups that are no string those of their data point.
-/
theorem malformedGroups_losePoints :
    ((IsFramed (groupsDocument (.string "1,")) ∧
        ¬ CreatesPoints (groupsDocument (.string "1,"))) ∧
      ∀ ioa ∈ [10, 11, 12],
        (importExchangeConfig
            (some (groupsDocument (.string "1,")))).lookup 1 ioa =
          none) ∧
      (IsFramed (groupsDocument (.int 1)) ∧
        ¬ CreatesPoints (groupsDocument (.int 1))) ∧
      ∀ ioa ∈ [10, 11],
        (importExchangeConfig (some (groupsDocument (.int 1)))).lookup 1
            ioa =
          none := by
  refine
    ⟨⟨⟨isFramed_groupsDocument _, ?_⟩, by decide⟩,
      ⟨isFramed_groupsDocument _, ?_⟩, by decide⟩
  · intro creates
    have equal := creates.length_eq
    revert equal
    decide
  · intro creates
    have equal := creates.length_eq
    revert equal
    decide

/-! ## The last entry for an address -/

/-- The point has what an entry says, and the quality of the constructor. -/
structure IsPointOf (entry : Entry) (ca ioa : Int) (point : DataPoint) :
    Prop where
  label : point.label = entry.label
  ca : point.ca = ca
  ioa : point.ioa = ioa
  type : typeIdToDataType entry.typeId = some point.type
  isCommand : point.isCommand = isSupportedCommandType entry.typeId
  groups :
    ∀ group, point.giGroups.getLsbD group = true ↔ entry.IsInGroup group
  quality : point.quality = Quality.invalid ||| Quality.nonTopical

theorem isAddress_unique {address : String} {ca ioa otherCa otherIoa : Int}
    (isAddress : IsAddress address ca ioa)
    (isOther : IsAddress address otherCa otherIoa) :
    ca = otherCa ∧ ioa = otherIoa := by
  have same :=
    (addressOf_of_isAddress isAddress).symm.trans
      (addressOf_of_isAddress isOther)
  simpa using same

section OneEntry

variable {entry : Entry} {definition : Definition}
  (agrees : entry.IsDefinition definition)

include agrees

/-- The definition of an entry is for the address of the entry. -/
theorem isFor_iff (isPoint : entry.isPoint = true) (ca ioa : Int) :
    entry.IsFor ca ioa ↔ definition.isFor ca ioa = true := by
  rcases agrees.address with ⟨address, isText, isAddress⟩
  simp only [Entry.IsFor, isPoint, true_and, isText, Option.some.injEq,
    exists_eq_left', Definition.isFor, Bool.and_eq_true, beq_iff_eq]
  constructor
  · intro isOther
    exact isAddress_unique isAddress isOther
  · rintro ⟨rfl, rfl⟩
    exact isAddress

theorem isPointOf_dataPoint :
    IsPointOf entry definition.ca definition.ioa definition.dataPoint where
  label := agrees.label
  ca := rfl
  ioa := rfl
  type := by
    rw [definition.type_dataPoint, ← agrees.typeId]
    exact definition.typeIdToDataType_typeId
  isCommand := by
    rw [← agrees.typeId]
    rfl
  groups := agrees.groups
  quality := rfl

end OneEntry

/-- The definition that is found last in a list with one for an address. -/
theorem find?_reverse_last {before after : List Definition}
    {definition : Definition} {ca ioa : Int}
    (here : definition.isFor ca ioa = true)
    (noLater : ∀ later ∈ after, ¬ later.isFor ca ioa = true) :
    (before ++ definition :: after).reverse.find?
        (Definition.isFor ca ioa) =
      some definition := by
  have none :
      after.reverse.find? (Definition.isFor ca ioa) = none := by
    rw [List.find?_eq_none]
    intro later member
    exact noLater later (List.mem_reverse.mp member)
  rw [List.reverse_append, List.reverse_cons, List.append_assoc,
    List.find?_append, none, Option.none_or, List.singleton_append,
    List.find?_cons_of_pos here]

section WellFormed

variable {document : Json} (wellFormed : IsWellFormed document)

include wellFormed

theorem definitions_of_wellFormed :
    definitions (some document) =
      (entries document).filterMap Entry.imported :=
  definitions_of_kept wellFormed.isFramed.1 wellFormed.isFramed.2

/-- An entry for an address is imported for this address, and no other is. -/
theorem imported_of_wellFormed {entry : Entry}
    (member : entry ∈ entries document) :
    (entry.isPoint = false ∧ entry.imported = none) ∨
      (entry.isPoint = true ∧
        ∃ definition,
          entry.imported = some definition ∧
            entry.IsDefinition definition) :=
  (imported_cases (wellFormed.isFramed.1.entry entry member)
    (wellFormed.isFramed.2 entry member)).2

/-- The importer has a definition for an address that an entry is for. -/
theorem isFor_iff_imported {entry : Entry}
    (member : entry ∈ entries document) (ca ioa : Int) :
    entry.IsFor ca ioa ↔
      ∃ definition,
        entry.imported = some definition ∧
          definition.isFor ca ioa = true := by
  rcases imported_of_wellFormed wellFormed member with
    ⟨skipped, imported⟩ | ⟨isPoint, definition, imported, agrees⟩
  · simp [Entry.IsFor, skipped, imported]
  · rw [isFor_iff agrees isPoint, imported]
    simp

/-- There is a point at an address when an entry is for it. -/
theorem lookup_isSome_iff (ca ioa : Int) :
    ((importExchangeConfig (some document)).lookup ca ioa).isSome = true ↔
      ∃ entry ∈ entries document, entry.IsFor ca ioa := by
  rw [lookup_importExchangeConfig, Option.isSome_map, lastDefinition,
    List.find?_isSome, definitions_of_wellFormed wellFormed]
  simp only [List.mem_reverse, List.mem_filterMap]
  constructor
  · rintro ⟨definition, ⟨entry, member, imported⟩, here⟩
    exact
      ⟨entry, member,
        (isFor_iff_imported wellFormed member ca ioa).mpr
          ⟨definition, imported, here⟩⟩
  · rintro ⟨entry, member, isFor⟩
    rcases (isFor_iff_imported wellFormed member ca ioa).mp isFor with
      ⟨definition, imported, here⟩
    exact ⟨definition, ⟨entry, member, imported⟩, here⟩

/-- The point has what the last entry for its address says. -/
theorem lookup_lastEntry {before after : List Entry} {entry : Entry}
    (split : entries document = before ++ entry :: after) {ca ioa : Int}
    (isFor : entry.IsFor ca ioa)
    (last : ∀ later ∈ after, ¬ later.IsFor ca ioa) :
    ∃ point,
      (importExchangeConfig (some document)).lookup ca ioa = some point ∧
        IsPointOf entry ca ioa point := by
  have member : entry ∈ entries document := by simp [split]
  rcases imported_of_wellFormed wellFormed member with
    ⟨skipped, -⟩ | ⟨isPoint, definition, imported, agrees⟩
  · have defines := isFor.1
    simp [skipped] at defines
  have here : definition.isFor ca ioa = true :=
    (isFor_iff agrees isPoint ca ioa).mp isFor
  have noLater :
      ∀ later ∈ after.filterMap Entry.imported,
        ¬ later.isFor ca ioa = true := by
    intro later isLater isHere
    rcases List.mem_filterMap.mp isLater with ⟨other, inAfter, isImported⟩
    have inDocument : other ∈ entries document := by simp [split, inAfter]
    exact
      last other inAfter
        ((isFor_iff_imported wellFormed inDocument ca ioa).mpr
          ⟨later, isImported, isHere⟩)
  have address : definition.ca = ca ∧ definition.ioa = ioa := by
    simpa [Definition.isFor] using here
  refine ⟨definition.dataPoint, ?_, ?_⟩
  · rw [lookup_importExchangeConfig, lastDefinition,
      definitions_of_wellFormed wellFormed, split, List.filterMap_append,
      List.filterMap_cons_some imported, find?_reverse_last here noLater,
      Option.map_some]
  · rw [← address.1, ← address.2]
    exact isPointOf_dataPoint agrees

/-- Only the entries that define points have an influence. -/
theorem definitions_eq_filter :
    definitions (some document) =
      ((entries document).filter Entry.isPoint).filterMap
        Entry.imported := by
  rw [definitions_of_wellFormed wellFormed, List.filterMap_filter]
  apply List.filterMap_congr
  intro entry member
  rcases imported_of_wellFormed wellFormed member with
    ⟨skipped, imported⟩ | ⟨isPoint, -⟩
  · simp [skipped, imported]
  · simp [isPoint]

end WellFormed

/--
The table of a well-formed document has a point exactly at the addresses of the
entries with a supported type, each point has what the last entry for its
address says, and other entries have no influence.
-/
theorem importExchangeConfig_lastEntry {document : Json}
    (wellFormed : IsWellFormed document) :
    (∀ ca ioa,
      ((importExchangeConfig (some document)).lookup ca ioa).isSome =
          true ↔
        ∃ entry ∈ entries document, entry.IsFor ca ioa) ∧
      (∀ before entry after ca ioa,
        entries document = before ++ entry :: after →
        entry.IsFor ca ioa →
        (∀ later ∈ after, ¬ later.IsFor ca ioa) →
        ∃ point,
          (importExchangeConfig (some document)).lookup ca ioa =
              some point ∧
            IsPointOf entry ca ioa point) ∧
      ∀ other,
        IsWellFormed other →
        (entries other).filter Entry.isPoint =
          (entries document).filter Entry.isPoint →
        importExchangeConfig (some other) =
          importExchangeConfig (some document) := by
  refine ⟨lookup_isSome_iff wellFormed, ?_, ?_⟩
  · intro before entry after ca ioa split isFor last
    exact lookup_lastEntry wellFormed split isFor last
  · intro other otherWellFormed same
    rw [importExchangeConfig, importExchangeConfig,
      definitions_eq_filter otherWellFormed,
      definitions_eq_filter wellFormed, same]

/-- The last entry of `groupsDocument`. -/
def lastSample : Entry :=
  ⟨"TM2", sampleEntry "1-12" (.string "station")⟩

theorem isFor_lastSample : lastSample.IsFor 1 12 :=
  ⟨rfl, "1-12", rfl, "1".toList, "12".toList, by decide, by decide, rfl,
    by decide, by decide, rfl, by decide⟩

theorem isMalformed_sampleEntry (label address giGroups : String) :
    Entry.IsMalformed ⟨label, sampleEntry address (.string giGroups)⟩ ↔
      Json.cString giGroups ≠ "" ∧
        ∃ item ∈ itemsOf (Json.cString giGroups), groupOf item = none :=
  isMalformed_iff rfl rfl

theorem isWellFormed_groupsDocument :
    IsWellFormed (groupsDocument (.string "3")) := by
  rcases isFramed_groupsDocument (.string "3") with
    ⟨datapoints, found, shaped, framed⟩
  have clean :
      ∀ entry ∈ entries (groupsDocument (.string "3")),
        ¬ entry.IsMalformed := by
    have listed :
        entries (groupsDocument (.string "3")) =
          [⟨"TM1", sampleEntry "1-10" (.string "3")⟩,
            ⟨"TM1", sampleEntry "1-11" (.string "station")⟩, lastSample] :=
      rfl
    rw [listed]
    simp only [List.forall_mem_cons]
    refine ⟨?_, ?_, ?_, by simp⟩
    · rw [isMalformed_sampleEntry]
      decide
    · rw [isMalformed_sampleEntry]
      decide
    · rw [lastSample, isMalformed_sampleEntry]
      decide
  exact
    ⟨datapoints, found, shaped, fun entry member =>
      ⟨framed entry member, fun _ => clean entry member⟩⟩

theorem importExchangeConfig_lastEntry_sample :
    ∃ point,
      (importExchangeConfig
            (some (groupsDocument (.string "3")))).lookup 1 12 =
          some point ∧
        IsPointOf lastSample 1 12 point :=
  (importExchangeConfig_lastEntry isWellFormed_groupsDocument).2.1
    [⟨"TM1", sampleEntry "1-10" (.string "3")⟩,
      ⟨"TM1", sampleEntry "1-11" (.string "station")⟩]
    lastSample [] 1 12 rfl isFor_lastSample (by simp)

end Iec104North.DocumentPoints
