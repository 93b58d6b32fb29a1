import Iec104North.GiGroups

/-!
# Exchange documents

A document of the exchanged data as a list of entries: the elements of the
`protocols` arrays, each with the label of its data point.  When the importer
leaves no loop early, it creates one point for each entry of the protocol
`iec104` with a supported type, in the order of the document.
-/

namespace Iec104North.ExchangeDocument

open Iec104North.Library
open Iec104North.AsduTypes
open Iec104North.DataPoints
open Iec104North.ImportProtocol
open Iec104North.ImportExchange
open Iec104North.GiGroups

/-! ## Entries -/

/-- An element of `protocols`, with the label of its data point. -/
structure Entry where
  label : String
  protocol : Json

/-- An address `digits-digits` with both numbers in the range of an int. -/
def IsAddress (address : String) (ca ioa : Int) : Prop :=
  ∃ caStr ioaStr,
    address.toList = caStr ++ '-' :: ioaStr ∧
      isDecimal caStr = true ∧ decimal caStr = ca ∧ IsInt32 ca ∧
      isDecimal ioaStr = true ∧ decimal ioaStr = ioa ∧ IsInt32 ioa

namespace Entry

variable (entry : Entry)

/-- A string member of the entry. -/
def text (name : String) : Option String :=
  (entry.protocol.member? name).bind Json.asString

/-- The number of the `typeid` of the entry. -/
def typeId : Int :=
  ((entry.text "typeid").map getTypeIdFromString).getD 0

/-- The entry is for the protocol `iec104`. -/
def isIec104 : Bool :=
  entry.text "name" == some "iec104"

/-- The entry defines a point: it has a supported type, too. -/
def isPoint : Bool :=
  entry.isIec104 &&
    (isSupportedCommandType entry.typeId ||
      isSupportedMonitoringType entry.typeId)

/-- `gi_groups` is no string, or has an item that names no group. -/
def IsMalformed : Prop :=
  ∃ member,
    entry.protocol.member? "gi_groups" = some member ∧
      ∀ giGroups,
        member.asString = some giGroups →
          giGroups ≠ "" ∧ ∃ item ∈ itemsOf giGroups, groupOf item = none

/--
The groups of the entry: those that are listed, and the station group when
`gi_groups` is absent or malformed.
-/
def IsInGroup (group : Nat) : Prop :=
  (group = 0 ∧
      (entry.protocol.member? "gi_groups" = none ∨ entry.IsMalformed)) ∨
    (¬ entry.IsMalformed ∧
      ∃ giGroups,
        entry.text "gi_groups" = some giGroups ∧
          giGroups ≠ "" ∧
          ∃ item ∈ itemsOf giGroups, groupOf item = some group)

/-- The entry defines a point at an address. -/
def IsFor (ca ioa : Int) : Prop :=
  entry.isPoint = true ∧
    ∃ address, entry.text "address" = some address ∧ IsAddress address ca ioa

/--
The members an entry must have.  Only an entry that defines a point may have
malformed groups.
-/
structure IsFramed : Prop where
  name : (entry.text "name").isSome = true
  address :
    entry.isIec104 = true →
      ∃ address ca ioa,
        entry.text "address" = some address ∧ IsAddress address ca ioa
  type : entry.isIec104 = true → (entry.text "typeid").isSome = true
  groups :
    entry.isIec104 = true → entry.isPoint = false → ¬ entry.IsMalformed

/-- An entry with well-formed groups. -/
structure IsWellFormed : Prop extends entry.IsFramed where
  allGroups : entry.isIec104 = true → ¬ entry.IsMalformed

/-- The definition of a point has what the entry says. -/
structure IsDefinition (definition : Definition) : Prop where
  label : definition.label = entry.label
  address :
    ∃ address,
      entry.text "address" = some address ∧
        IsAddress address definition.ca definition.ioa
  typeId : definition.typeId = entry.typeId
  groups :
    ∀ group,
      definition.giGroups.getLsbD group = true ↔ entry.IsInGroup group

/--
The importer falls back to the station group when `gi_groups` is malformed: it
is a string whose first item that names no group does not make `std::stoi`
throw.
-/
def Recovers : Prop :=
  ∀ member,
    entry.protocol.member? "gi_groups" = some member →
      ∃ giGroups,
        member.asString = some giGroups ∧
          (giGroups ≠ "" →
            ∀ item ∈
                (itemsOf giGroups).find? fun item => (groupOf item).isNone,
              ¬ Throws item)

end Entry

/-! ## One entry -/

theorem addressOf_of_isAddress {address : String} {ca ioa : Int}
    (isAddress : IsAddress address ca ioa) :
    addressOf address.toList = some (ca, ioa) := by
  rcases isAddress with
    ⟨caStr, ioaStr, split, caNumber, rfl, caRange, ioaNumber, rfl,
      ioaRange⟩
  have noDash : '-' ∉ caStr := by
    intro member
    exact absurd ((isDecimal_iff.mp caNumber).2 _ member) (by decide)
  apply addressOf_eq_some_iff.mpr
  exact
    ⟨caStr, ioaStr, split, noDash,
      startsWithInt_of_isDecimal caNumber caRange,
      startsWithInt_of_isDecimal ioaNumber ioaRange⟩

theorem getLsbD_one_iff (group : Nat) :
    (1 : BitVec 32).getLsbD group = true ↔ group = 0 := by
  simp

section OneEntry

variable {entry : Entry}

/-- Groups that are absent put the point into the station group. -/
theorem isInGroup_of_absent
    (absent : entry.protocol.member? "gi_groups" = none) (group : Nat) :
    entry.IsInGroup group ↔ group = 0 := by
  simp [Entry.IsInGroup, Entry.text, absent]

theorem isInGroup_of_malformed (malformed : entry.IsMalformed)
    (group : Nat) : entry.IsInGroup group ↔ group = 0 := by
  simp [Entry.IsInGroup, malformed]

/-- The `gi_groups` of an entry that are no string. -/
theorem isMalformed_of_noString {member : Json}
    (found : entry.protocol.member? "gi_groups" = some member)
    (noString : member.asString = none) : entry.IsMalformed :=
  ⟨member, found, by simp [noString]⟩

/-- The `gi_groups` of an entry that are a string. -/
theorem isMalformed_iff {member : Json} {giGroups : String}
    (found : entry.protocol.member? "gi_groups" = some member)
    (isString : member.asString = some giGroups) :
    entry.IsMalformed ↔
      giGroups ≠ "" ∧ ∃ item ∈ itemsOf giGroups, groupOf item = none := by
  simp [Entry.IsMalformed, found, isString]

theorem isInGroup_iff_listed {member : Json} {giGroups : String}
    (found : entry.protocol.member? "gi_groups" = some member)
    (isString : member.asString = some giGroups)
    (wellFormed : ¬ entry.IsMalformed) (group : Nat) :
    entry.IsInGroup group ↔
      giGroups ≠ "" ∧
        ∃ item ∈ itemsOf giGroups, groupOf item = some group := by
  simp [Entry.IsInGroup, Entry.text, wellFormed, found, isString]

/-- The importer reads the groups the entry is in. -/
def Entry.ReadsGroups (entry : Entry) : Prop :=
  ∃ mask,
    importGiGroups entry.protocol = .ok mask ∧
      ∀ group, mask.getLsbD group = true ↔ entry.IsInGroup group

/-- A string is read item by item. -/
theorem importGiGroups_items {member : Json} {giGroups : String}
    (found : entry.protocol.member? "gi_groups" = some member)
    (isString : member.asString = some giGroups) (nonempty : giGroups ≠ "") :
    importGiGroups entry.protocol = groupsOf 0 (itemsOf giGroups) := by
  simp only [importGiGroups, found, isString]
  rw [if_neg (by simpa using nonempty)]
  rfl

/-- Every item names a group. -/
theorem readsGroups_of_named {member : Json} {giGroups : String}
    (found : entry.protocol.member? "gi_groups" = some member)
    (isString : member.asString = some giGroups) (nonempty : giGroups ≠ "")
    (named : ∀ item ∈ itemsOf giGroups, (groupOf item).isSome = true) :
    entry.ReadsGroups := by
  have wellFormed : ¬ entry.IsMalformed := by
    rw [isMalformed_iff found isString]
    rintro ⟨-, item, member, unnamed⟩
    simpa [unnamed] using named item member
  rcases groupsOf_named named 0 with ⟨mask, loop, bits⟩
  refine
    ⟨mask, (importGiGroups_items found isString nonempty).trans loop, ?_⟩
  intro group
  rw [isInGroup_iff_listed found isString wellFormed, bits]
  simp [nonempty]

/-- The first item that names no group is refused without an exception. -/
theorem readsGroups_of_unnamed {member : Json} {giGroups : String}
    (found : entry.protocol.member? "gi_groups" = some member)
    (isString : member.asString = some giGroups) (nonempty : giGroups ≠ "")
    {item : List Char}
    (first :
      ((itemsOf giGroups).find? fun item => (groupOf item).isNone) =
        some item)
    (reads : ¬ Throws item) : entry.ReadsGroups := by
  have faulty : entry.IsMalformed :=
    (isMalformed_iff found isString).mpr
      ⟨nonempty, item, List.mem_of_find?_eq_some first,
        by simpa using List.find?_some first⟩
  have loop := groupsOf_unnamed first 0
  rw [if_neg reads] at loop
  refine ⟨1, (importGiGroups_items found isString nonempty).trans loop, ?_⟩
  intro group
  rw [getLsbD_one_iff, isInGroup_of_malformed faulty]

/-- An empty string is no group at all. -/
theorem readsGroups_of_empty {member : Json}
    (found : entry.protocol.member? "gi_groups" = some member)
    (isString : member.asString = some "") : entry.ReadsGroups := by
  have wellFormed : ¬ entry.IsMalformed := by
    rw [isMalformed_iff found isString]
    exact fun faulty => faulty.1 rfl
  refine ⟨0, by simp [importGiGroups, found, isString], ?_⟩
  intro group
  rw [isInGroup_iff_listed found isString wellFormed]
  simp

/-- The groups of an entry are read as they should be, or a loop is left. -/
theorem importGiGroups_cases (entry : Entry) :
    (entry.Recovers ∧ entry.ReadsGroups) ∨
      (¬ entry.Recovers ∧
        ∃ exit, importGiGroups entry.protocol = .error exit) := by
  cases found : entry.protocol.member? "gi_groups" with
  | none =>
      refine .inl ⟨by simp [Entry.Recovers, found], 1, ?_, ?_⟩
      · simp [importGiGroups, found]
      · intro group
        rw [getLsbD_one_iff, isInGroup_of_absent found]
  | some member =>
      cases isString : member.asString with
      | none =>
          refine .inr ⟨by simp [Entry.Recovers, found, isString], .leave, ?_⟩
          simp [importGiGroups, found, isString]
      | some giGroups =>
          by_cases empty : giGroups = ""
          · rw [empty] at isString
            exact
              .inl
                ⟨by simp [Entry.Recovers, found, isString],
                  readsGroups_of_empty found isString⟩
          cases first :
              (itemsOf giGroups).find? fun item =>
                (groupOf item).isNone with
          | none =>
              have named :
                  ∀ item ∈ itemsOf giGroups,
                    (groupOf item).isSome = true := by
                simpa [Option.isSome_iff_ne_none] using first
              exact
                .inl
                  ⟨by simp [Entry.Recovers, found, isString, first],
                    readsGroups_of_named found isString empty named⟩
          | some item =>
              by_cases throws : Throws item
              · have loop := groupsOf_unnamed first 0
                rw [if_pos throws] at loop
                exact
                  .inr
                    ⟨by
                      simp [Entry.Recovers, found, isString, empty, first,
                        throws],
                      .stop,
                      (importGiGroups_items found isString empty).trans
                        loop⟩
              · exact
                  .inl
                    ⟨by simp [Entry.Recovers, found, isString, first, throws],
                      readsGroups_of_unnamed found isString empty first
                        throws⟩

/-- Well-formed groups do not make the importer leave a loop. -/
theorem recovers_of_wellFormed (wellFormed : ¬ entry.IsMalformed) :
    entry.Recovers := by
  intro member found
  cases isString : member.asString with
  | none => exact (wellFormed (isMalformed_of_noString found isString)).elim
  | some giGroups =>
      refine ⟨giGroups, rfl, fun nonempty item first => ?_⟩
      refine (wellFormed ((isMalformed_iff found isString).mpr ?_)).elim
      exact
        ⟨nonempty, item, List.mem_of_find?_eq_some first,
          by simpa using List.find?_some first⟩

/-- What the importer makes of an entry. -/
def Entry.importedAs (entry : Entry) :
    Except LoopExit (Option Definition) :=
  importProtocol entry.label entry.protocol

/-- An entry of another protocol is skipped. -/
theorem importedAs_of_other {name : String}
    (isName : entry.text "name" = some name)
    (other : entry.isIec104 = false) : entry.importedAs = .ok none := by
  rcases Option.bind_eq_some_iff.mp isName with ⟨member, found, -⟩
  have isObject := Json.isObject_of_member? found
  rw [Entry.text] at isName
  have noIec104 : name ≠ "iec104" := by
    simpa [Entry.isIec104, Entry.text, isName] using other
  simp [Entry.importedAs, importProtocol, isObject, isName, noIec104]

/-- An entry of this protocol with a text for its address, and a type. -/
theorem importedAs_of_texts {address typeIdStr : String}
    (isIec104 : entry.isIec104 = true)
    (isText : entry.text "address" = some address)
    (isType : entry.text "typeid" = some typeIdStr) :
    entry.importedAs =
      match importGiGroups entry.protocol with
      | .error exit => .error exit
      | .ok giGroups =>
          match addressOf address.toList with
          | none => .error .stop
          | some (ca, ioa) =>
              if supported :
                  (isSupportedCommandType entry.typeId ||
                    isSupportedMonitoringType entry.typeId) = true then
                .ok
                  (some
                    ⟨entry.label, ca, ioa, entry.typeId, giGroups,
                      supported⟩)
              else
                .ok none := by
  have isName : entry.text "name" = some "iec104" := by
    simpa [Entry.isIec104] using isIec104
  rcases Option.bind_eq_some_iff.mp isName with ⟨member, found, -⟩
  have isObject := Json.isObject_of_member? found
  have typeId : entry.typeId = getTypeIdFromString typeIdStr := by
    simp [Entry.typeId, isType]
  rw [Entry.text] at isName isText isType
  simp only [Entry.importedAs, importProtocol, isObject, isName, isText,
    isType, typeId]
  rfl

/-- An entry of this protocol with an address and a type. -/
theorem importedAs_of_iec104 {address typeIdStr : String} {ca ioa : Int}
    (isIec104 : entry.isIec104 = true)
    (isText : entry.text "address" = some address)
    (isAddress : IsAddress address ca ioa)
    (isType : entry.text "typeid" = some typeIdStr) :
    entry.importedAs =
      match importGiGroups entry.protocol with
      | .error exit => .error exit
      | .ok giGroups =>
          if supported :
              (isSupportedCommandType entry.typeId ||
                isSupportedMonitoringType entry.typeId) = true then
            .ok
              (some
                ⟨entry.label, ca, ioa, entry.typeId, giGroups, supported⟩)
          else
            .ok none := by
  rw [importedAs_of_texts isIec104 isText isType,
    addressOf_of_isAddress isAddress]

/--
An entry is skipped, or it is imported as what it says, or it makes the
importer leave a loop.
-/
theorem importedAs_cases (framed : entry.IsFramed) :
    (entry.isPoint = false ∧ entry.importedAs = .ok none) ∨
      (entry.isPoint = true ∧
        entry.Recovers ∧
        ∃ definition,
          entry.importedAs = .ok (some definition) ∧
            entry.IsDefinition definition) ∨
      (entry.isPoint = true ∧
        ¬ entry.Recovers ∧ ∃ exit, entry.importedAs = .error exit) := by
  cases isIec104 : entry.isIec104 with
  | false =>
      rcases Option.isSome_iff_exists.mp framed.name with ⟨name, isName⟩
      exact
        .inl
          ⟨by simp [Entry.isPoint, isIec104],
            importedAs_of_other isName isIec104⟩
  | true =>
      rcases framed.address isIec104 with
        ⟨address, ca, ioa, isText, isAddress⟩
      rcases Option.isSome_iff_exists.mp (framed.type isIec104) with
        ⟨typeIdStr, isType⟩
      have imported := importedAs_of_iec104 isIec104 isText isAddress isType
      have isPoint :
          entry.isPoint =
            (isSupportedCommandType entry.typeId ||
              isSupportedMonitoringType entry.typeId) := by
        simp [Entry.isPoint, isIec104]
      rcases importGiGroups_cases entry with
        ⟨recovers, giGroups, read, bits⟩ | ⟨leaves, exit, read⟩
      · rw [read] at imported
        by_cases supported : entry.isPoint = true
        · refine .inr (.inl ⟨supported, recovers, ?_⟩)
          rw [isPoint] at supported
          exact
            ⟨_, imported.trans (dif_pos supported), rfl,
              ⟨address, isText, isAddress⟩, rfl, bits⟩
        · refine .inl ⟨by simpa using supported, ?_⟩
          rw [isPoint] at supported
          exact imported.trans (dif_neg supported)
      · rw [read] at imported
        refine .inr (.inr ⟨?_, leaves, exit, imported⟩)
        by_contra noPoint
        rw [Bool.not_eq_true] at noPoint
        exact
          leaves
            (recovers_of_wellFormed (framed.groups isIec104 noPoint))

end OneEntry

/-! ## Documents -/

/-- The elements of `datapoints`. -/
def datapointsOf (document : Json) : Option (List Json) :=
  (objectMember document "exchanged_data").bind fun exchangeData =>
    (exchangeData.member? "datapoints").bind Json.asArray

/-- The label and the elements of `protocols` of a data point. -/
def protocolsOf (datapoint : Json) : Option (String × List Json) :=
  match
      (datapoint.member? "label").bind Json.asString,
      (datapoint.member? "protocols").bind Json.asArray with
  | some label, some protocols => some (label, protocols)
  | _, _ => none

/-- The entries of a data point. -/
def entriesOf (datapoint : Json) : List Entry :=
  match protocolsOf datapoint with
  | some (label, protocols) => protocols.map fun protocol => ⟨label, protocol⟩
  | none => []

/-- The entries of a document, in order. -/
def entries (document : Json) : List Entry :=
  ((datapointsOf document).getD []).flatMap entriesOf

/-- The document has its arrays, and every entry meets a condition. -/
def HasEntries (condition : Entry → Prop) (document : Json) : Prop :=
  ∃ datapoints,
    datapointsOf document = some datapoints ∧
      (∀ datapoint ∈ datapoints, (protocolsOf datapoint).isSome = true) ∧
      ∀ entry ∈ entries document, condition entry

/-- A document that is well-formed except for the groups of its points. -/
def IsFramed (document : Json) : Prop :=
  HasEntries Entry.IsFramed document

/-- A well-formed document. -/
def IsWellFormed (document : Json) : Prop :=
  HasEntries Entry.IsWellFormed document

/-- The point an entry is imported as, if it is. -/
def Entry.imported (entry : Entry) : Option Definition :=
  match entry.importedAs with
  | .ok definition => definition
  | .error _ => none

/-- One turn of the loop over `protocols`. -/
theorem importProtocols_cons (label : String) (protocol : Json)
    (rest : List Json) :
    importProtocols label (protocol :: rest) =
      match (Entry.mk label protocol).importedAs with
      | .error .stop => ([], false)
      | .error .leave => ([], true)
      | .ok definition =>
          (definition.toList ++ (importProtocols label rest).1,
            (importProtocols label rest).2) :=
  rfl

/-- One turn of the loop over `datapoints`. -/
theorem importDatapoints_cons {datapoint : Json} {label : String}
    {protocols : List Json}
    (has : protocolsOf datapoint = some (label, protocols))
    (rest : List Json) :
    importDatapoints (datapoint :: rest) =
      (importProtocols label protocols).1 ++
        if (importProtocols label protocols).2 then
          importDatapoints rest
        else
          [] := by
  rw [protocolsOf] at has
  split at has
  · rename_i isLabel areProtocols
    rcases Prod.mk.inj (Option.some.inj has) with ⟨rfl, rfl⟩
    rcases Option.bind_eq_some_iff.mp isLabel with ⟨member, found, -⟩
    simp only [importDatapoints, Json.isObject_of_member? found, isLabel,
      areProtocols]
    rfl
  · simp at has

/-- The entry defines a point and makes the importer leave a loop. -/
def Entry.IsLost (entry : Entry) : Prop :=
  entry.isPoint = true ∧ ¬ entry.Recovers

/-- An entry that is not lost is skipped, or imported as what it says. -/
theorem imported_cases {entry : Entry} (framed : entry.IsFramed)
    (kept : ¬ entry.IsLost) :
    entry.importedAs = .ok entry.imported ∧
      ((entry.isPoint = false ∧ entry.imported = none) ∨
        (entry.isPoint = true ∧
          ∃ definition,
            entry.imported = some definition ∧
              entry.IsDefinition definition)) := by
  rcases importedAs_cases framed with
    ⟨skipped, imported⟩ | ⟨isPoint, -, definition, imported, agrees⟩ |
      ⟨isPoint, leaves, -⟩
  · simp [Entry.imported, imported, skipped]
  · simp [Entry.imported, imported, isPoint, agrees]
  · exact (kept ⟨isPoint, leaves⟩).elim

/-- Without lost entries there is one definition for each point. -/
theorem forall₂_isDefinition {entries : List Entry}
    (framed : ∀ entry ∈ entries, entry.IsFramed)
    (kept : ∀ entry ∈ entries, ¬ entry.IsLost) :
    List.Forall₂ Entry.IsDefinition (entries.filter Entry.isPoint)
      (entries.filterMap Entry.imported) := by
  induction entries with
  | nil => exact .nil
  | cons entry rest ih =>
      have later :=
        ih (fun other member => framed other (by simp [member]))
          fun other member => kept other (by simp [member])
      rcases
          (imported_cases (framed entry (by simp))
            (kept entry (by simp))).2 with
        ⟨skipped, imported⟩ | ⟨isPoint, definition, imported, agrees⟩
      · rw [List.filter_cons_of_neg (by simp [skipped]),
          List.filterMap_cons_none imported]
        exact later
      · rw [List.filter_cons_of_pos isPoint,
          List.filterMap_cons_some imported]
        exact .cons agrees later

/-! ### The loop over the protocols -/

theorem importProtocols_of_kept {label : String} {protocols : List Json}
    (framed :
      ∀ entry ∈ protocols.map (Entry.mk label), entry.IsFramed)
    (kept : ∀ entry ∈ protocols.map (Entry.mk label), ¬ entry.IsLost) :
    importProtocols label protocols =
      ((protocols.map (Entry.mk label)).filterMap Entry.imported, true) := by
  induction protocols with
  | nil => rfl
  | cons protocol rest ih =>
      rw [List.map_cons] at framed kept ⊢
      rcases List.forall_mem_cons.mp framed with ⟨framedFirst, framedRest⟩
      rcases List.forall_mem_cons.mp kept with ⟨keptFirst, keptRest⟩
      rw [importProtocols_cons, (imported_cases framedFirst keptFirst).1,
        ih framedRest keptRest]
      cases imported : (Entry.mk label protocol).imported <;> simp [imported]

/-- The importer creates fewer points than there are when it leaves a loop. -/
theorem length_importProtocols_lt {label : String} {protocols : List Json}
    (framed :
      ∀ entry ∈ protocols.map (Entry.mk label), entry.IsFramed)
    (lost : ∃ entry ∈ protocols.map (Entry.mk label), entry.IsLost) :
    (importProtocols label protocols).1.length <
      (protocols.map (Entry.mk label)).countP Entry.isPoint := by
  induction protocols with
  | nil => simp at lost
  | cons protocol rest ih =>
      rw [List.map_cons] at framed lost ⊢
      rcases List.forall_mem_cons.mp framed with ⟨framedFirst, framedRest⟩
      rw [importProtocols_cons, List.countP_cons]
      by_cases first : (Entry.mk label protocol).IsLost
      · rcases importedAs_cases framedFirst with
          ⟨skipped, -⟩ | ⟨-, recovers, -⟩ | ⟨isPoint, -, exit, imported⟩
        · have isPoint := first.1
          simp [skipped] at isPoint
        · exact (first.2 recovers).elim
        · rw [imported, isPoint]
          cases exit <;> simp
      · have later :
            ∃ entry ∈ rest.map (Entry.mk label), entry.IsLost := by
          rcases lost with ⟨entry, member, isLost⟩
          rcases List.mem_cons.mp member with rfl | inRest
          · exact (first isLost).elim
          · exact ⟨entry, inRest, isLost⟩
        have fewer := ih framedRest later
        rcases imported_cases framedFirst first with
          ⟨imported, ⟨skipped, none⟩ | ⟨isPoint, definition, some, -⟩⟩
        · rw [imported, none, skipped]
          simpa using fewer
        · rw [imported, some, isPoint]
          simp only [Option.toList_some, List.length_append,
            List.length_singleton, if_true]
          omega

theorem length_importProtocols_le {label : String} {protocols : List Json}
    (framed :
      ∀ entry ∈ protocols.map (Entry.mk label), entry.IsFramed) :
    (importProtocols label protocols).1.length ≤
      (protocols.map (Entry.mk label)).countP Entry.isPoint := by
  by_cases lost : ∃ entry ∈ protocols.map (Entry.mk label), entry.IsLost
  · exact (length_importProtocols_lt framed lost).le
  · have kept :
        ∀ entry ∈ protocols.map (Entry.mk label), ¬ entry.IsLost :=
      fun entry member isLost => lost ⟨entry, member, isLost⟩
    rw [importProtocols_of_kept framed kept, List.countP_eq_length_filter,
      (forall₂_isDefinition framed kept).length_eq]

/-! ### The loop over the data points -/

theorem importDatapoints_of_kept {datapoints : List Json}
    (shaped :
      ∀ datapoint ∈ datapoints, (protocolsOf datapoint).isSome = true)
    (framed : ∀ entry ∈ datapoints.flatMap entriesOf, entry.IsFramed)
    (kept : ∀ entry ∈ datapoints.flatMap entriesOf, ¬ entry.IsLost) :
    importDatapoints datapoints =
      (datapoints.flatMap entriesOf).filterMap Entry.imported := by
  induction datapoints with
  | nil => rfl
  | cons datapoint rest ih =>
      rcases List.forall_mem_cons.mp shaped with ⟨shapedFirst, shapedRest⟩
      rcases Option.isSome_iff_exists.mp shapedFirst with
        ⟨⟨label, protocols⟩, has⟩
      have here : entriesOf datapoint = protocols.map (Entry.mk label) := by
        simp [entriesOf, has]
      rw [List.flatMap_cons, here] at framed kept ⊢
      rcases List.forall_mem_append.mp framed with ⟨framedFirst, framedRest⟩
      rcases List.forall_mem_append.mp kept with ⟨keptFirst, keptRest⟩
      rw [importDatapoints_cons has,
        importProtocols_of_kept framedFirst keptFirst,
        List.filterMap_append, ih shapedRest framedRest keptRest, if_pos rfl]

theorem length_importDatapoints_lt {datapoints : List Json}
    (shaped :
      ∀ datapoint ∈ datapoints, (protocolsOf datapoint).isSome = true)
    (framed : ∀ entry ∈ datapoints.flatMap entriesOf, entry.IsFramed)
    (lost : ∃ entry ∈ datapoints.flatMap entriesOf, entry.IsLost) :
    (importDatapoints datapoints).length <
      (datapoints.flatMap entriesOf).countP Entry.isPoint := by
  induction datapoints with
  | nil => simp at lost
  | cons datapoint rest ih =>
      rcases List.forall_mem_cons.mp shaped with ⟨shapedFirst, shapedRest⟩
      rcases Option.isSome_iff_exists.mp shapedFirst with
        ⟨⟨label, protocols⟩, has⟩
      have here : entriesOf datapoint = protocols.map (Entry.mk label) := by
        simp [entriesOf, has]
      rw [List.flatMap_cons, here] at framed lost ⊢
      rcases List.forall_mem_append.mp framed with ⟨framedFirst, framedRest⟩
      have first := length_importProtocols_le framedFirst
      rw [importDatapoints_cons has, List.length_append, List.countP_append]
      by_cases later : ∃ entry ∈ rest.flatMap entriesOf, entry.IsLost
      · have fewer := ih shapedRest framedRest later
        split
        · omega
        · rw [List.length_nil]
          omega
      · have kept :
            ∀ entry ∈ rest.flatMap entriesOf, ¬ entry.IsLost :=
          fun entry member isLost => later ⟨entry, member, isLost⟩
        have fewer :
            (importProtocols label protocols).1.length <
              (protocols.map (Entry.mk label)).countP Entry.isPoint := by
          apply length_importProtocols_lt framedFirst
          rcases lost with ⟨entry, member, isLost⟩
          rcases List.mem_append.mp member with inFirst | inRest
          · exact ⟨entry, inFirst, isLost⟩
          · exact (kept entry inRest isLost).elim
        have equal :=
          (forall₂_isDefinition framedRest kept).length_eq
        rw [importDatapoints_of_kept shapedRest framedRest kept,
          List.countP_eq_length_filter, List.countP_eq_length_filter, equal]
        rw [List.countP_eq_length_filter] at fewer
        split
        · omega
        · rw [List.length_nil]
          omega

/-! ## Framed documents -/

/-- What the importer creates of a document that has its arrays. -/
theorem exists_datapoints {condition : Entry → Prop} {document : Json}
    (has : HasEntries condition document) :
    ∃ datapoints,
      entries document = datapoints.flatMap entriesOf ∧
        definitions (some document) = importDatapoints datapoints ∧
        (∀ datapoint ∈ datapoints,
          (protocolsOf datapoint).isSome = true) ∧
        ∀ entry ∈ datapoints.flatMap entriesOf, condition entry := by
  rcases has with ⟨datapoints, found, shaped, each⟩
  have same : entries document = datapoints.flatMap entriesOf := by
    simp [entries, found]
  refine ⟨datapoints, same, ?_, shaped, same ▸ each⟩
  rw [datapointsOf] at found
  simp only [definitions, Option.bind_some, found]

/-- Without lost entries every entry is imported. -/
theorem definitions_of_kept {document : Json} (framed : IsFramed document)
    (kept : ∀ entry ∈ entries document, ¬ entry.IsLost) :
    definitions (some document) =
      (entries document).filterMap Entry.imported := by
  rcases exists_datapoints framed with
    ⟨datapoints, same, read, shaped, each⟩
  rw [same] at kept ⊢
  rw [read, importDatapoints_of_kept shaped each kept]

/-- A lost entry takes at least one point with it. -/
theorem length_definitions_lt {document : Json} (framed : IsFramed document)
    (lost : ∃ entry ∈ entries document, entry.IsLost) :
    (definitions (some document)).length <
      (entries document).countP Entry.isPoint := by
  rcases exists_datapoints framed with
    ⟨datapoints, same, read, shaped, each⟩
  rw [same] at lost ⊢
  rw [read]
  exact length_importDatapoints_lt shaped each lost

theorem IsFramed.entry {document : Json} (framed : IsFramed document) :
    ∀ entry ∈ entries document, entry.IsFramed := by
  rcases framed with ⟨datapoints, found, shaped, each⟩
  exact each

/-- A well-formed document is framed and has no lost entry. -/
theorem IsWellFormed.isFramed {document : Json}
    (wellFormed : IsWellFormed document) :
    IsFramed document ∧
      ∀ entry ∈ entries document, ¬ entry.IsLost := by
  rcases wellFormed with ⟨datapoints, found, shaped, each⟩
  constructor
  · exact
      ⟨datapoints, found, shaped, fun entry member =>
        (each entry member).toIsFramed⟩
  · rintro entry member ⟨isPoint, leaves⟩
    have isIec104 : entry.isIec104 = true := by
      rw [Entry.isPoint, Bool.and_eq_true] at isPoint
      exact isPoint.1
    exact
      leaves
        (recovers_of_wellFormed ((each entry member).allGroups isIec104))

end Iec104North.ExchangeDocument
