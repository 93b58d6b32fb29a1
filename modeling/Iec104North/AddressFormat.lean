import Iec104North.DocumentPoints

/-!
# The format of an address

The address of an entry is `digits-digits`.  The importer looks for the first
`-` and lets `std::stoi` read what stands before and after it, so that blanks, a
sign and whatever follows a number are overlooked.
-/

namespace Iec104North.AddressFormat

open Iec104North.Library
open Iec104North.DataPoints
open Iec104North.ImportExchange
open Iec104North.ExchangeDocument
open Iec104North.DocumentPoints

/-! ## Addresses -/

theorem isDigit_or_dash {address : String} {ca ioa : Int}
    (isAddress : IsAddress address ca ioa) :
    ∀ character ∈ address.toList,
      character.isDigit = true ∨ character = '-' := by
  rcases isAddress with
    ⟨caStr, ioaStr, split, caNumber, -, -, ioaNumber, -⟩
  intro character member
  rw [split, List.mem_append, List.mem_cons] at member
  rcases member with inCa | isDash | inIoa
  · exact .inl ((isDecimal_iff.mp caNumber).2 character inCa)
  · exact .inr isDash
  · exact .inl ((isDecimal_iff.mp ioaNumber).2 character inIoa)

/-- An address has no NUL, at which its C string would end. -/
theorem cString_of_isAddress {address : String} {ca ioa : Int}
    (isAddress : IsAddress address ca ioa) :
    Json.cString address = address := by
  have noNul :
      ∀ character ∈ address.toList, (character != '\x00') = true := by
    intro character member
    rw [bne_iff_ne]
    rintro rfl
    exact absurd (isDigit_or_dash isAddress _ member) (by decide)
  rw [Json.cString, List.takeWhile_eq_self_iff.mpr noNul,
    String.ofList_toList]

/-! ## Exits -/

/-- `std::stoi` is the only reason for the loop over the items to fail. -/
theorem groupsOf_error {mask : BitVec 32} {items : List (List Char)}
    {exit : LoopExit} (fails : groupsOf mask items = .error exit) :
    exit = .stop := by
  induction items generalizing mask with
  | nil => simp [groupsOf] at fails
  | cons item rest ih =>
      rw [groupsOf] at fails
      split at fails
      · exact ih fails
      split at fails
      · split at fails
        · exact (Except.error.inj fails).symm
        split at fails
        · simp at fails
        · exact ih fails
      · simp at fails

/-- `gi_groups` is there and no string. -/
def HasOtherGroups (entry : Entry) : Prop :=
  ∃ member,
    entry.protocol.member? "gi_groups" = some member ∧
      member.asString = none

/-- The loop over the protocols is left for groups that are no string. -/
theorem importGiGroups_exit {entry : Entry} {exit : LoopExit}
    (fails : importGiGroups entry.protocol = .error exit) :
    HasOtherGroups entry ↔ exit = .leave := by
  simp only [importGiGroups] at fails
  split at fails
  · simp at fails
  rename_i member found
  split at fails
  · rename_i noString
    exact iff_of_true ⟨member, found, noString⟩ (Except.error.inj fails).symm
  · rename_i giGroups isString
    split at fails
    · simp at fails
    · rw [groupsOf_error fails]
      apply iff_of_false
      · rintro ⟨other, same, noString⟩
        rw [found, Option.some.injEq] at same
        rw [same, noString] at isString
        simp at isString
      · simp

/-! ## Entries whose turn comes -/

/-- The entries of a data point whose turn comes, and whether it goes on. -/
def reachedProtocols (label : String) : List Json → List Entry × Bool
  | [] => ([], true)
  | protocol :: rest =>
      let entry : Entry := ⟨label, protocol⟩
      match entry.importedAs with
      | .error .stop => ([entry], false)
      | .error .leave => ([entry], true)
      | .ok _ =>
          let later := reachedProtocols label rest
          (entry :: later.1, later.2)

/-- The entries whose turn comes, in the order of the import. -/
def reachedDatapoints : List Json → List Entry
  | [] => []
  | datapoint :: rest =>
      match protocolsOf datapoint with
      | some (label, protocols) =>
          let reached := reachedProtocols label protocols
          reached.1 ++ if reached.2 then reachedDatapoints rest else []
      | none => []

/-- The entries of a document whose turn comes. -/
def reached (document : Json) : List Entry :=
  reachedDatapoints ((datapointsOf document).getD [])

theorem importProtocols_eq_reached (label : String)
    (protocols : List Json) :
    importProtocols label protocols =
      ((reachedProtocols label protocols).1.filterMap Entry.imported,
        (reachedProtocols label protocols).2) := by
  induction protocols with
  | nil => rfl
  | cons protocol rest ih =>
      rw [importProtocols_cons, reachedProtocols]
      dsimp only
      cases imported : (Entry.mk label protocol).importedAs with
      | error exit => cases exit <;> simp [Entry.imported, imported]
      | ok definition =>
          rw [ih]
          cases definition <;> simp [Entry.imported, imported]

/-- A data point without its members ends the import. -/
theorem importDatapoints_cons_none {datapoint : Json}
    (hasNone : protocolsOf datapoint = none) (rest : List Json) :
    importDatapoints (datapoint :: rest) = [] := by
  rw [protocolsOf] at hasNone
  rw [importDatapoints]
  split
  · rfl
  cases isLabel : (datapoint.member? "label").bind Json.asString with
  | none => rfl
  | some label =>
      cases areProtocols :
          (datapoint.member? "protocols").bind Json.asArray with
      | none => rfl
      | some protocols => simp [isLabel, areProtocols] at hasNone

theorem importDatapoints_eq_reached (datapoints : List Json) :
    importDatapoints datapoints =
      (reachedDatapoints datapoints).filterMap Entry.imported := by
  induction datapoints with
  | nil => rfl
  | cons datapoint rest ih =>
      rw [reachedDatapoints]
      cases has : protocolsOf datapoint with
      | none => exact importDatapoints_cons_none has rest
      | some entry =>
          rcases entry with ⟨label, protocols⟩
          rw [importDatapoints_cons has, importProtocols_eq_reached, ih]
          dsimp only
          rw [List.filterMap_append]
          split <;> rfl

/-- The table with the points of a list of entries. -/
def tableOf (entries : List Entry) : PointTable :=
  (entries.filterMap Entry.imported).foldl
    (fun table definition => table.store definition.dataPoint) .empty

/-- Every point of the table comes from an entry whose turn comes. -/
theorem importExchangeConfig_eq_tableOf (document : Json) :
    importExchangeConfig (some document) = tableOf (reached document) := by
  have same :
      definitions (some document) =
        (reached document).filterMap Entry.imported := by
    rw [reached, ← importDatapoints_eq_reached, datapointsOf]
    simp only [definitions, Option.bind_some]
    split
    · rename_i none
      rw [none]
      rfl
    · rename_i datapoints found
      rw [found]
      rfl
  rw [importExchangeConfig, tableOf, same]

/-- An entry that stops the import is the last one of its data point. -/
theorem reachedProtocols_stop {label : String} {protocols : List Json}
    {before after : List Entry} {entry : Entry}
    (split :
      (reachedProtocols label protocols).1 = before ++ entry :: after)
    (stops : entry.importedAs = .error .stop) :
    after = [] ∧ (reachedProtocols label protocols).2 = false := by
  induction protocols generalizing before with
  | nil => simp [reachedProtocols] at split
  | cons protocol rest ih =>
      rw [reachedProtocols] at split ⊢
      dsimp only at split ⊢
      cases imported : (Entry.mk label protocol).importedAs with
      | error exit =>
          have here :
              [Entry.mk label protocol] = before ++ entry :: after := by
            cases exit <;> simpa [imported] using split
          rcases List.append_eq_singleton_iff.mp here.symm with
            ⟨-, same⟩ | ⟨-, absurd⟩
          · rcases List.cons.inj same with ⟨rfl, none⟩
            rw [stops] at imported
            rcases Except.error.inj imported with rfl
            exact ⟨none, rfl⟩
          · simp at absurd
      | ok definition =>
          simp only [imported] at split
          cases before with
          | nil =>
              rcases List.cons.inj split with ⟨rfl, -⟩
              simp [stops] at imported
          | cons first others => exact ih (List.cons.inj split).2

/-- It is the last one that is reached at all. -/
theorem reachedDatapoints_stop {datapoints : List Json}
    {before after : List Entry} {entry : Entry}
    (split : reachedDatapoints datapoints = before ++ entry :: after)
    (stops : entry.importedAs = .error .stop) : after = [] := by
  induction datapoints generalizing before with
  | nil => simp [reachedDatapoints] at split
  | cons datapoint rest ih =>
      rw [reachedDatapoints] at split
      cases has : protocolsOf datapoint with
      | none => simp [has] at split
      | some found =>
          rcases found with ⟨label, protocols⟩
          simp only [has] at split
          have ofRest {front : List Entry}
              (isRest :
                (if (reachedProtocols label protocols).2 then
                    reachedDatapoints rest
                  else
                    []) =
                  front ++ entry :: after) : after = [] := by
            split at isRest
            · exact ih isRest
            · simp at isRest
          rcases List.append_eq_append_iff.mp split with
            ⟨later, -, inRest⟩ | ⟨here, inFirst, ends⟩
          · exact ofRest inRest
          · cases here with
            | nil => exact @ofRest [] ends.symm
            | cons first others =>
                rcases List.cons.inj ends with ⟨rfl, rest⟩
                rcases reachedProtocols_stop inFirst stops with
                  ⟨rfl, leaves⟩
                rw [rest, leaves]
                rfl

/-- Nothing is imported after an entry that stops the import. -/
theorem importExchangeConfig_stop {document : Json}
    {before after : List Entry} {entry : Entry}
    (split : reached document = before ++ entry :: after)
    (stops : entry.importedAs = .error .stop) :
    importExchangeConfig (some document) = tableOf before := by
  rw [importExchangeConfig_eq_tableOf, split,
    reachedDatapoints_stop split stops, tableOf, List.filterMap_append,
    List.filterMap_cons_none (by rw [Entry.imported, stops]),
    List.filterMap_nil, List.append_nil]
  rfl

/-! ## Checks -/

/-- The entry has an address. -/
def HasAddress (entry : Entry) (address : String) : Prop :=
  entry.protocol.member? "address" = some (.string address)

/--
The entry defines a point only if its address has the format, and then at this
address.  Any other address stops the import and leaves the points of the
entries before it.
-/
structure ChecksAddress (document : Json) (before : List Entry)
    (entry : Entry) (address : String) : Prop where
  accepted :
    ∀ definition,
      entry.imported = some definition →
        IsAddress address definition.ca definition.ioa
  rejected :
    (¬ ∃ ca ioa, IsAddress address ca ioa) →
      entry.importedAs = .error .stop ∧
        importExchangeConfig (some document) = tableOf before

/-- The addresses of all entries whose turn comes are checked. -/
def ChecksAddresses (document : Json) : Prop :=
  ∀ before entry after address,
    reached document = before ++ entry :: after →
    entry.isIec104 = true →
    HasAddress entry address →
    ChecksAddress document before entry address

/--
The address has the format, or the importer stops at the entry: there is no
type, `std::stoi` throws on the groups, or the address does not start as one.
-/
def KeepsFormat (entry : Entry) (address : String) : Prop :=
  (∃ ca ioa, IsAddress address ca ioa) ∨
    entry.text "typeid" = none ∨
    ¬ HasOtherGroups entry ∧
      (entry.Recovers →
        ∀ ca ioa,
          ¬ StartsAsAddress (Json.cString address).toList ca ioa)

section OneEntry

variable {entry : Entry} {address : String}
  (isIec104 : entry.isIec104 = true) (has : HasAddress entry address)

include has

theorem text_of_hasAddress :
    entry.text "address" = some (Json.cString address) := by
  rw [Entry.text, has]
  rfl

include isIec104

/-- Without a type the import stops. -/
theorem importedAs_of_noType (noType : entry.text "typeid" = none) :
    entry.importedAs = .error .stop := by
  have isName : entry.text "name" = some "iec104" := by
    simpa [Entry.isIec104] using isIec104
  have isObject := Json.isObject_of_member? has
  have isText := text_of_hasAddress has
  rw [Entry.text] at isName isText noType
  simp only [Entry.importedAs, importProtocol, isObject, isName, isText,
    noType]
  rfl

/-- Groups that are read lead on to the address. -/
theorem importedAs_of_groups {typeIdStr : String}
    (isType : entry.text "typeid" = some typeIdStr)
    {giGroups : BitVec 32}
    (read : importGiGroups entry.protocol = .ok giGroups) :
    (entry.importedAs = .error .stop ∧
        ∀ ca ioa,
          ¬ StartsAsAddress (Json.cString address).toList ca ioa) ∨
      ∃ ca ioa,
        StartsAsAddress (Json.cString address).toList ca ioa ∧
          ∃ definition,
            entry.importedAs = .ok definition ∧
              ∀ point ∈ definition, point.ca = ca ∧ point.ioa = ioa := by
  have imported :=
    importedAs_of_texts isIec104 (text_of_hasAddress has) isType
  rw [read] at imported
  dsimp only at imported
  split at imported
  · rename_i unread
    refine .inl ⟨imported, ?_⟩
    intro ca ioa starts
    rw [addressOf_eq_some_iff.mpr starts] at unread
    simp at unread
  · rename_i ca ioa numbers
    refine .inr ⟨ca, ioa, addressOf_eq_some_iff.mp numbers, ?_⟩
    split at imported
    · refine ⟨_, imported, ?_⟩
      rintro point ⟨⟩
      exact ⟨rfl, rfl⟩
    · exact ⟨_, imported, by simp⟩

/-- The point of an entry has the numbers its address starts with. -/
theorem startsAsAddress_of_imported {definition : Definition}
    (imported : entry.imported = some definition) :
    StartsAsAddress (Json.cString address).toList definition.ca
      definition.ioa := by
  rw [Entry.imported] at imported
  cases isType : entry.text "typeid" with
  | none =>
      rw [importedAs_of_noType isIec104 has isType] at imported
      simp at imported
  | some typeIdStr =>
      cases read : importGiGroups entry.protocol with
      | error exit =>
          rw [importedAs_of_texts isIec104 (text_of_hasAddress has) isType,
            read] at imported
          simp at imported
      | ok giGroups =>
          rcases importedAs_of_groups isIec104 has isType read with
            ⟨stops, -⟩ | ⟨ca, ioa, starts, point, isPoint, numbers⟩
          · rw [stops] at imported
            simp at imported
          · rw [isPoint] at imported
            rcases numbers definition imported with ⟨rfl, rfl⟩
            exact starts

/-- The importer stops at a faulty address, or overlooks what is wrong. -/
theorem importedAs_stop_iff
    (noAddress : ¬ ∃ ca ioa, IsAddress address ca ioa) :
    entry.importedAs = .error .stop ↔ KeepsFormat entry address := by
  rw [KeepsFormat, or_iff_right noAddress]
  cases isType : entry.text "typeid" with
  | none =>
      exact
        iff_of_true (importedAs_of_noType isIec104 has isType) (.inl rfl)
  | some typeIdStr =>
      rw [or_iff_right (by simp)]
      rcases importGiGroups_cases entry with
        ⟨recovers, giGroups, read, -⟩ | ⟨leaves, exit, fails⟩
      · have areGroups : ¬ HasOtherGroups entry := by
          rintro ⟨member, found, noString⟩
          simp [importGiGroups, found, noString] at read
        rcases importedAs_of_groups isIec104 has isType read with
          ⟨stops, fits⟩ | ⟨ca, ioa, starts, definition, imported, -⟩
        · exact iff_of_true stops ⟨areGroups, fun _ => fits⟩
        · rw [imported]
          apply iff_of_false (by simp)
          exact fun keeps => keeps.2 recovers ca ioa starts
      · have imported :=
          importedAs_of_texts isIec104 (text_of_hasAddress has) isType
        rw [fails] at imported
        rw [imported, importGiGroups_exit fails]
        cases exit with
        | leave => simp
        | stop => simp [leaves]

end OneEntry

/-- The numbers of an address are those it starts with. -/
theorem startsAsAddress_unique {address : List Char}
    {ca ioa otherCa otherIoa : Int}
    (starts : StartsAsAddress address ca ioa)
    (also : StartsAsAddress address otherCa otherIoa) :
    ca = otherCa ∧ ioa = otherIoa := by
  have same :=
    (addressOf_eq_some_iff.mpr starts).symm.trans
      (addressOf_eq_some_iff.mpr also)
  simpa using same

/--
The addresses are checked exactly when each has the format or makes the
importer stop.
-/
theorem checksAddresses_iff (document : Json) :
    ChecksAddresses document ↔
      ∀ entry ∈ reached document, ∀ address,
        entry.isIec104 = true →
        HasAddress entry address →
        KeepsFormat entry address := by
  constructor
  · intro checks entry member address isIec104 has
    rcases List.append_of_mem member with ⟨before, after, split⟩
    by_cases isAddress : ∃ ca ioa, IsAddress address ca ioa
    · exact .inl isAddress
    · exact
        (importedAs_stop_iff isIec104 has isAddress).mp
          ((checks before entry after address split isIec104 has).rejected
            isAddress).1
  · intro keeps before entry after address split isIec104 has
    have kept := keeps entry (by simp [split]) address isIec104 has
    constructor
    · intro definition imported
      have starts := startsAsAddress_of_imported isIec104 has imported
      by_cases isAddress : ∃ ca ioa, IsAddress address ca ioa
      · rcases isAddress with ⟨ca, ioa, isAddress⟩
        have numbers := addressOf_of_isAddress isAddress
        rw [cString_of_isAddress isAddress] at starts
        rcases
            startsAsAddress_unique (addressOf_eq_some_iff.mp numbers)
              starts with
          ⟨rfl, rfl⟩
        exact isAddress
      · have stops :=
          (importedAs_stop_iff isIec104 has isAddress).mpr kept
        simp [Entry.imported, stops] at imported
    · intro noAddress
      have stops := (importedAs_stop_iff isIec104 has noAddress).mpr kept
      exact ⟨stops, importExchangeConfig_stop split stops⟩

/-- A point at 1:10, and an entry with another address after it. -/
def addressDocument (address : String) : Json :=
  .object
    [("exchanged_data", .object
      [("datapoints", .array
        [.object
          [("label", .string "TM1"),
           ("protocols",
             .array [sampleEntry "1-10" (.string "station")])],
         .object
          [("label", .string "TM2"),
           ("protocols",
             .array [sampleEntry address (.string "station")])]])])]

/-- A character behind the number is overlooked, and a point is replaced. -/
theorem trailingCharacter_replacesPoint :
    (¬ ∃ ca ioa, IsAddress "1-10x" ca ioa) ∧
      ((importExchangeConfig (some (addressDocument "1-10x"))).lookup 1
            10).map DataPoint.label =
        some "TM2" ∧
      ¬ ChecksAddresses (addressDocument "1-10x") := by
  have noAddress : ¬ ∃ ca ioa, IsAddress "1-10x" ca ioa := by
    rintro ⟨ca, ioa, isAddress⟩
    have only := isDigit_or_dash isAddress 'x' (by decide)
    revert only
    decide
  refine ⟨noAddress, by decide, ?_⟩
  intro checks
  have checked :=
    checks [⟨"TM1", sampleEntry "1-10" (.string "station")⟩]
      ⟨"TM2", sampleEntry "1-10x" (.string "station")⟩ [] "1-10x" rfl rfl
      rfl
  have stops := (checked.rejected noAddress).1
  have imported :
      (Entry.mk "TM2"
        (sampleEntry "1-10x" (.string "station"))).imported.isSome :=
    by decide
  simp [Entry.imported, stops] at imported

end Iec104North.AddressFormat
