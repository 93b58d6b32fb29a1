import Iec104North.DataPoints
import Iec104North.ImportProtocol
import Mathlib.Data.List.Induction

/-!
# Import of the exchanged data

`IEC104Config::importExchangeConfig` on a parsed document.  The import writes
one point after the other to the exchange definitions and stops at the first
faulty element; the points written so far stay.
-/

namespace Iec104North.ImportExchange

open Iec104North.Library
open Iec104North.AsduTypes
open Iec104North.DataPoints
open Iec104North.ImportProtocol

/-! ## Points -/

/-- A supported type has a data type. -/
theorem typeIdToDataType_isSome_of_supported {typeId : Int}
    (supported :
      (isSupportedCommandType typeId || isSupportedMonitoringType typeId) =
        true) :
    (typeIdToDataType typeId).isSome = true := by
  cases found : TypeId.ofInt? typeId with
  | none =>
      simp [isSupportedCommandType, isSupportedMonitoringType, found]
        at supported
  | some named =>
      rcases TypeId.ofInt?_eq_some_iff.mp found with rfl
      revert supported
      cases named <;> decide

/-- What defines a point: its label, addresses, type and groups. -/
structure Definition where
  label : String
  ca : Int
  ioa : Int
  typeId : Int
  giGroups : BitVec 32
  supported :
    (isSupportedCommandType typeId || isSupportedMonitoringType typeId) =
      true

namespace Definition

/-- The data type of a point. -/
def type (definition : Definition) : DataType :=
  (typeIdToDataType definition.typeId).get
    (typeIdToDataType_isSome_of_supported definition.supported)

/-- The `IEC104DataPoint` that is created. -/
def dataPoint (definition : Definition) : DataPoint :=
  .create definition.label definition.ca definition.ioa definition.type
    (isSupportedCommandType definition.typeId) definition.giGroups

theorem typeIdToDataType_typeId (definition : Definition) :
    typeIdToDataType definition.typeId = some definition.type :=
  (Option.some_get _).symm

theorem type_dataPoint (definition : Definition) :
    definition.dataPoint.type = definition.type :=
  DataPoint.dataType_initialValue definition.type

/-- A point has a monitoring type unless it is a command. -/
theorem isSupportedMonitoringType_iff (definition : Definition) :
    isSupportedMonitoringType definition.typeId = true ↔
      isSupportedCommandType definition.typeId = false := by
  have supported := definition.supported
  rw [Bool.or_eq_true] at supported
  constructor
  · intro monitoring
    by_contra command
    rw [Bool.not_eq_false] at command
    rw [not_supportedMonitoring_of_command command] at monitoring
    simp at monitoring
  · intro noCommand
    rw [noCommand] at supported
    simpa using supported

end Definition

/-! ## One protocol -/

/-- How a turn of a loop ends the loop: `break`, or `return` of the import. -/
inductive LoopExit where
  | leave
  | stop
deriving DecidableEq, Repr

/-- The loop over the items of `gi_groups`. -/
def groupsOf (giGroups : BitVec 32) :
    List (List Char) → Except LoopExit (BitVec 32)
  | [] => .ok giGroups
  | substr :: rest =>
      if substr == "station".toList then
        groupsOf (giGroups ||| 1) rest
      else if substr.all Char.isDigit then
        match stoi substr with
        | .error _ => .error .stop
        | .ok group =>
            if group ≤ 0 ∨ 17 ≤ group then
              .ok 1
            else
              groupsOf (giGroups ||| (1 <<< group.toNat)) rest
      else
        .ok 1

/-- The `gi_groups` of a protocol; "station" is group 0. -/
def importGiGroups (protocol : Json) : Except LoopExit (BitVec 32) :=
  match protocol.member? "gi_groups" with
  | none => .ok 1
  | some member =>
      match member.asString with
      | none => .error .leave
      | some giGroupsMember =>
          if giGroupsMember == "" then
            .ok 0
          else
            groupsOf 0 (giGroupsMember.toList.splitOn ',')

/-- CA and IOA of an address `XXX-YYY`. -/
def addressOf (address : List Char) : Option (Int × Int) :=
  if '-' ∈ address then
    match
        stoi (address.takeWhile (· != '-')),
        stoi ((address.dropWhile (· != '-')).drop 1) with
    | .ok ca, .ok ioa => some (ca, ioa)
    | _, _ => none
  else
    none

/-- The text starts with a number before its first `-`, and so after it. -/
def StartsAsAddress (address : List Char) (ca ioa : Int) : Prop :=
  ∃ caStr ioaStr,
    address = caStr ++ '-' :: ioaStr ∧
      '-' ∉ caStr ∧ StartsWithInt caStr ca ∧ StartsWithInt ioaStr ioa

/-- The first `-` separates the two parts. -/
theorem split_at_dash {address caStr ioaStr : List Char}
    (split : address = caStr ++ '-' :: ioaStr) (noDash : '-' ∉ caStr) :
    address.takeWhile (· != '-') = caStr ∧
      (address.dropWhile (· != '-')).drop 1 = ioaStr := by
  have others : ∀ character ∈ caStr, (character != '-') = true := by
    intro character member
    rw [bne_iff_ne]
    rintro rfl
    exact noDash member
  rw [split, List.takeWhile_append_of_pos others,
    List.dropWhile_append_of_pos others]
  simp

/-- The importer reads the numbers of such a text. -/
theorem addressOf_eq_some_iff {address : List Char} {ca ioa : Int} :
    addressOf address = some (ca, ioa) ↔ StartsAsAddress address ca ioa := by
  constructor
  · intro read
    rw [addressOf] at read
    split at read
    · rename_i dash
      rcases List.eq_append_cons_of_mem dash with
        ⟨caStr, ioaStr, parts, noDash⟩
      rcases split_at_dash parts noDash with ⟨first, second⟩
      rw [first, second] at read
      split at read
      · rename_i isCa isIoa
        rcases Prod.mk.inj (Option.some.inj read) with ⟨rfl, rfl⟩
        exact
          ⟨caStr, ioaStr, parts, noDash, stoi_eq_ok_iff.mp isCa,
            stoi_eq_ok_iff.mp isIoa⟩
      · simp at read
    · simp at read
  · rintro ⟨caStr, ioaStr, split, noDash, isCa, isIoa⟩
    rcases split_at_dash split noDash with ⟨first, second⟩
    rw [addressOf, if_pos (by simp [split]), first, second,
      stoi_eq_ok_iff.mpr isCa, stoi_eq_ok_iff.mpr isIoa]

/-- One turn of the loop over `protocols`. -/
def importProtocol (label : String) (protocol : Json) :
    Except LoopExit (Option Definition) :=
  if protocol.isObject == false then
    .error .stop
  else
    match (protocol.member? "name").bind Json.asString with
    | none => .error .stop
    | some protocolName =>
        if protocolName != "iec104" then
          .ok none
        else
          match
              (protocol.member? "address").bind Json.asString,
              (protocol.member? "typeid").bind Json.asString with
          | some address, some typeIdStr =>
              match importGiGroups protocol with
              | .error exit => .error exit
              | .ok giGroups =>
                  match addressOf address.toList with
                  | none => .error .stop
                  | some (ca, ioa) =>
                      let typeId := getTypeIdFromString typeIdStr
                      if supported :
                          (isSupportedCommandType typeId ||
                            isSupportedMonitoringType typeId) = true then
                        .ok
                          (some
                            ⟨label, ca, ioa, typeId, giGroups, supported⟩)
                      else
                        .ok none
          | _, _ => .error .stop

/-! ## The document -/

/--
The loop over `protocols`: the points that are defined, and whether the import
goes on.
-/
def importProtocols (label : String) : List Json → List Definition × Bool
  | [] => ([], true)
  | protocol :: rest =>
      match importProtocol label protocol with
      | .error .stop => ([], false)
      | .error .leave => ([], true)
      | .ok definition =>
          let later := importProtocols label rest
          (definition.toList ++ later.1, later.2)

/-- The loop over `datapoints`. -/
def importDatapoints : List Json → List Definition
  | [] => []
  | datapoint :: rest =>
      if datapoint.isObject == false then
        []
      else
        match
            (datapoint.member? "label").bind Json.asString,
            (datapoint.member? "protocols").bind Json.asArray with
        | some label, some protocols =>
            let imported := importProtocols label protocols
            imported.1 ++
              if imported.2 then importDatapoints rest else []
        | _, _ => []

/-- The points a document defines, in the order of the import. -/
def definitions (document : Option Json) : List Definition :=
  match
      (document.bind fun root => objectMember root "exchanged_data").bind
        fun exchangeData =>
          (exchangeData.member? "datapoints").bind Json.asArray with
  | none => []
  | some datapoints => importDatapoints datapoints

/--
`IEC104Config::importExchangeConfig`: the exchange definitions with one point
after the other; there is no document when the text cannot be parsed.
-/
def importExchangeConfig (document : Option Json) : PointTable :=
  (definitions document).foldl
    (fun table definition => table.store definition.dataPoint) .empty

/-! ## The last definition of an address -/

/-- The definition is for an address. -/
def Definition.isFor (ca ioa : Int) (definition : Definition) : Bool :=
  definition.ca == ca && definition.ioa == ioa

/-- The definition which last defined the point at an address. -/
def lastDefinition (document : Option Json) (ca ioa : Int) :
    Option Definition :=
  (definitions document).reverse.find? (Definition.isFor ca ioa)

/-- The table has the point that was defined last. -/
theorem lookup_importExchangeConfig (document : Option Json)
    (ca ioa : Int) :
    (importExchangeConfig document).lookup ca ioa =
      (lastDefinition document ca ioa).map Definition.dataPoint := by
  rw [importExchangeConfig, lastDefinition]
  induction definitions document using List.reverseRecOn with
  | nil => simp
  | append_singleton earlier definition ih =>
      rw [List.foldl_append, List.foldl_cons, List.foldl_nil,
        PointTable.lookup_store, List.reverse_append, List.reverse_singleton,
        List.singleton_append, List.find?_cons]
      by_cases here : definition.isFor ca ioa = true
      · rw [here]
        simp only [Definition.isFor, Bool.and_eq_true, beq_iff_eq] at here
        rw [if_pos ⟨here.1.symm, here.2.symm⟩]
        rfl
      · rw [Bool.not_eq_true] at here
        rw [here, if_neg, ih]
        rintro ⟨rfl, rfl⟩
        simp [Definition.isFor, Definition.dataPoint, DataPoint.create] at here

end Iec104North.ImportExchange
