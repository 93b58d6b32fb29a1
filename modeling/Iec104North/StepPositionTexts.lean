import Iec104North.SpontaneousAsdus

/-!
# Texts for step positions

`m_updateDataPoint` cuts a text out of the `do_value` of a step position and
reads an int from it, and `send` catches no exception: a text without an int
ends the batch.  `stoi` also takes an int with other characters behind it, and
nobody looks at the first and the last character.
-/

namespace Iec104North.StepPositionTexts

open Iec104North.Library
open Iec104North.AsduTypes
open Iec104North.Values
open Iec104North.DataPoints
open Iec104North.Server
open Iec104North.Readings
open Iec104North.Runs
open Iec104North.TableReads
open Iec104North.LastValue
open Iec104North.SpontaneousDelivery
open Iec104North.AttributeReading
open Iec104North.SpontaneousAsdus

/-! ## Reading a text -/

/-- The characters that are cut out, all but the first and the last. -/
def between (str : List Char) : List Char :=
  (str.drop 1).take (toUInt64 (str.length - 2))

/-- The characters before the first comma. -/
def numberText (str : List Char) : List Char :=
  (between str).takeWhile (· != ',')

/-- The position that is read when an int was found. -/
def positionRead (str : List Char) (number : Int) : PointValue :=
  .stepPos (BitVec.ofInt 7 number)
    (BitVec.ofBool
      (((between str).dropWhile (· != ',')).drop 1 == "true".toList))

theorem stepPositionValue_eq {str : List Char} (nonempty : str ≠ [])
    (posValue : BitVec 7) (transient : BitVec 1) :
    stepPositionValue posValue transient str =
      if ',' ∈ between str then
        (stoi (numberText str)).map (positionRead str)
      else
        .ok (.stepPos posValue transient) := by
  have length : ¬ str.length < 1 := by
    have := List.length_pos_iff.mpr nonempty
    omega
  simp only [stepPositionValue, substr, if_neg length]
  rw [← between, ← numberText]
  split
  · cases stoi (numberText str) <;> rfl
  · rfl

/--
A point with a value takes a text as it should: a step position, a text without
a comma to cut at, or one that is read as the position the point already has.
-/
def IsAccepted (value : PointValue) (str : String) : Prop :=
  IsStepPosition str ∨
    (str.toList ≠ [] ∧ ',' ∉ between str.toList) ∨
    (str.toList ≠ [] ∧
      ∃ number,
        stoi (numberText str.toList) = .ok number ∧
          value = positionRead str.toList number)

/-- A text is kept from the point unless it is a step position. -/
theorem isAccepted_iff (posValue : BitVec 7) (transient : BitVec 1)
    (str : String) :
    IsAccepted (.stepPos posValue transient) str ↔
      ∃ value,
        stepPositionValue posValue transient str.toList = .ok value ∧
          (¬ IsStepPosition str → value = .stepPos posValue transient) := by
  constructor
  · rintro (isStep | ⟨nonempty, noComma⟩ | ⟨nonempty, number, found, same⟩)
    · exact
        ⟨_, stepPositionValue_readable (Or.inl isStep) posValue transient,
          fun other => absurd isStep other⟩
    · exact
        ⟨_, by rw [stepPositionValue_eq nonempty, if_neg noComma],
          fun _ => rfl⟩
    · refine ⟨.stepPos posValue transient, ?_, fun _ => rfl⟩
      rw [stepPositionValue_eq nonempty, found, same]
      split <;> rfl
  · rintro ⟨value, read, kept⟩
    by_cases isStep : IsStepPosition str
    · exact Or.inl isStep
    rcases kept isStep with rfl
    have nonempty : str.toList ≠ [] := by
      intro empty
      simp [stepPositionValue, empty, substr] at read
    rw [stepPositionValue_eq nonempty] at read
    split at read
    · cases found : stoi (numberText str.toList) with
      | error exception => simp [found, Except.map] at read
      | ok number =>
          rw [found] at read
          exact
            Or.inr (Or.inr ⟨nonempty, number, found,
              (Except.ok.inj read).symm⟩)
    · rename_i noComma
      exact Or.inr (Or.inl ⟨nonempty, noComma⟩)

/-- The same for the value of a step position. -/
theorem isAccepted_iff_assigned {value : PointValue}
    (type : value.dataType = .stepPos) (str : String) :
    IsAccepted value str ↔
      ∃ assigned,
        assignValue value (some (.string str)) = .ok assigned ∧
          (¬ IsStepPosition str → assigned = value) := by
  cases value with
  | stepPos posValue transient => exact isAccepted_iff posValue transient str
  | _ => simp [PointValue.dataType] at type

/-! ## One data point -/

section Steps

variable (platform : Platform)

/-- The step position a data point is applied to, with its text. -/
def textFor (server : IEC104Server) (dp : Datapoint) :
    Option (DataPoint × String) :=
  match readObject platform server dp with
  | none => none
  | some object =>
      match matchedPoint server.exchangeDefinitions object with
      | none => none
      | some point =>
          if point.type = .stepPos then
            (textOf object.value).map fun str => (point, str)
          else
            none

theorem textOf_eq_some_iff {value : Option DatapointValue}
    {str : String} :
    textOf value = some str ↔ value = some (.string str) := by
  rcases value with - | attrVal
  · simp [textOf]
  · cases attrVal <;> simp [textOf]

/-- Something holds of the text a data object brings for its point. -/
theorem forall_textFor_iff {server : IEC104Server} {dp : Datapoint}
    {object : DataObject} {point : DataPoint}
    (reads : readObject platform server dp = some object)
    (isMatched : matchedPoint server.exchangeDefinitions object = some point)
    (property : DataPoint × String → Prop) :
    (∀ entry ∈ textFor platform server dp, property entry) ↔
      (point.type = .stepPos →
        ∀ str ∈ textOf object.value, property (point, str)) := by
  simp only [textFor, reads, isMatched]
  by_cases type : point.type = .stepPos
  · simp [type, Option.map_eq_some_iff]
  · simp [type]

/-- The text is no step position, and the point keeps its value. -/
def KeepsValue (before after : IEC104Server) (dp : Datapoint) : Prop :=
  ∀ entry ∈ textFor platform before dp,
    ¬ IsStepPosition entry.2 →
      (after.exchangeDefinitions.lookup entry.1.ca entry.1.ioa).map
          DataPoint.value =
        some entry.1.value

/-- The point takes the text as it should. -/
def AcceptsText (server : IEC104Server) (dp : Datapoint) : Prop :=
  ∀ entry ∈ textFor platform server dp,
    IsAccepted entry.1.value entry.2

theorem lookup_written {point updated : DataPoint}
    (settings : updated.settings = point.settings) (table : PointTable)
    (ca ioa : Int) :
    ((table.access ca ioa).store updated).lookup point.ca point.ioa =
      some updated := by
  rw [PointTable.lookup_store, DataPoint.ca_eq_of_settings settings,
    DataPoint.ioa_eq_of_settings settings, if_pos ⟨rfl, rfl⟩]

/-- A point is updated as it should be exactly when its text is taken. -/
theorem updatesText_iff {point : DataPoint} {object : DataObject}
    (matching : isMessageTypeMatching point.type object.type = true)
    (now : Nat) :
    (∃ updated,
        updatedPoint platform object now point = .ok updated ∧
          (point.type = .stepPos →
            ∀ str ∈ textOf object.value,
              ¬ IsStepPosition str → updated.value = point.value)) ↔
      (point.type = .stepPos →
        ∀ str ∈ textOf object.value, IsAccepted point.value str) := by
  constructor
  · rintro ⟨updated, update, kept⟩ type str text
    refine (isAccepted_iff_assigned type str).mpr ?_
    have written := (updatedPoint_writes platform matching update).1
    rw [textOf_eq_some_iff.mp text] at written
    exact ⟨updated.value, written, kept type str text⟩
  · intro accepts
    have assigns :
        ∀ type : point.type = .stepPos,
          ∀ str ∈ textOf object.value,
            ∃ assigned,
              assignValue point.value object.value =
                  .ok assigned ∧
                (¬ IsStepPosition str → assigned = point.value) := by
      intro type str text
      rw [textOf_eq_some_iff.mp text]
      exact
        (isAccepted_iff_assigned type str).mp
          (accepts type str text)
    have ok :
        ∃ updated, updatedPoint platform object now point = .ok updated := by
      refine (updatedPoint_ok_iff platform matching now).mpr ?_
      intro type str text
      rcases assigns type str text with ⟨assigned, assign, -⟩
      exact
        (assignValue_ok_iff point.value _).mp ⟨assigned, assign⟩
          type str text
    rcases ok with ⟨updated, update⟩
    refine ⟨updated, update, fun type str text notStep => ?_⟩
    rcases assigns type str text with ⟨assigned, assign, kept⟩
    have written := (updatedPoint_writes platform matching update).1
    rcases Except.ok.inj (written.symm.trans assign) with same
    rw [same, kept notStep]

/-- A data point is processed as it should exactly when its text is taken. -/
theorem handlesText_iff (server : IEC104Server) (assetName : String)
    (dp : Datapoint) (now : Nat) :
    (∃ processed effects,
        sendDatapoint platform server assetName dp now =
            .ok (processed, effects) ∧
          KeepsValue platform server processed dp) ↔
      AcceptsText platform server dp := by
  cases reads : readObject platform server dp with
  | none =>
      rcases sendDatapoint_noRead platform assetName now reads with
        ⟨processed, effects, sent, -⟩
      have noText : textFor platform server dp = none := by
        simp [textFor, reads]
      simp [sent, KeepsValue, AcceptsText, noText]
  | some object =>
      rcases readObject_eq_some platform reads with
        ⟨isObject, running, rfl, noFeedback, complete⟩
      rw [sendDatapoint_object platform server assetName now isObject running]
      cases isMatched :
          matchedPoint server.exchangeDefinitions
            (readDataObject platform dp) with
      | none =>
          have noText : textFor platform server dp = none := by
            simp [textFor, reads, isMatched]
          rw [handleDataObject_unmatched platform server now noFeedback
            complete isMatched]
          simp [KeepsValue, AcceptsText, noText]
      | some point =>
          have matching := (matchedPoint_eq_some isMatched).2
          have texts := forall_textFor_iff platform reads isMatched
          rw [handleDataObject_matched platform server now noFeedback complete
            isMatched]
          simp only [KeepsValue, AcceptsText, texts,
            ← updatesText_iff platform matching now]
          cases update :
              updatedPoint platform (readDataObject platform dp) now
                point with
          | error exception => simp [Except.map]
          | ok updated =>
              have found :=
                lookup_written (updatedPoint_settings platform update)
                  server.exchangeDefinitions
                  (readDataObject platform dp).ca
                  (readDataObject platform dp).ioa
              simp [Except.map, found]

end Steps

/-! ## Batches -/

section Batches

variable (platform : Platform) (clock : Nat → Nat) (server : IEC104Server)

/-- The server after the first data points of a batch. -/
def serverAfter (before : List ((String × Datapoint) × Nat)) :
    IEC104Server :=
  (sendBatch platform clock server before).1

/-- The loops of `send` and one more data point. -/
theorem sendBatch_concat (before : List ((String × Datapoint) × Nat))
    (item : (String × Datapoint) × Nat) :
    sendBatch platform clock server (before ++ [item]) =
      match (sendBatch platform clock server before).2.2 with
      | some exception =>
          ((sendBatch platform clock server before).1,
            (sendBatch platform clock server before).2.1, some exception)
      | none =>
          match
              sendDatapoint platform
                (sendBatch platform clock server before).1 item.1.1 item.1.2
                (clock item.2) with
          | .error exception =>
              ((sendBatch platform clock server before).1,
                (sendBatch platform clock server before).2.1, some exception)
          | .ok (processed, effects) =>
              (processed,
                (sendBatch platform clock server before).2.1 ++ effects,
                none) := by
  induction before generalizing server with
  | nil =>
      rcases item with ⟨⟨assetName, dp⟩, index⟩
      simp only [List.nil_append, sendBatch]
      cases sendDatapoint platform server assetName dp (clock index) with
      | error exception => rfl
      | ok sent => simp
  | cons first rest ih =>
      rcases first with ⟨⟨assetName, dp⟩, index⟩
      simp only [List.cons_append, sendBatch]
      cases sendDatapoint platform server assetName dp (clock index) with
      | error exception => rfl
      | ok sent =>
          rcases sent with ⟨processed, effects⟩
          simp only [ih processed]
          cases (sendBatch platform clock processed rest).2.2 with
          | some exception => rfl
          | none =>
              dsimp only
              split <;> simp

/-- A text that is no step position leaves the value of its point. -/
def LeavesValue (before : List ((String × Datapoint) × Nat))
    (item : (String × Datapoint) × Nat) : Prop :=
  KeepsValue platform (serverAfter platform clock server before)
    (serverAfter platform clock server (before ++ [item])) item.1.2

/-- A point takes its text as it should. -/
def TakesText (before : List ((String × Datapoint) × Nat))
    (item : (String × Datapoint) × Nat) : Prop :=
  AcceptsText platform (serverAfter platform clock server before) item.1.2

/-- The loops end as they should exactly when every text is taken. -/
theorem sendBatch_handles_iff
    (numbered : List ((String × Datapoint) × Nat)) :
    (sendBatch platform clock server numbered).2.2 = none ∧
        EachStep (LeavesValue platform clock server) numbered ↔
      EachStep (TakesText platform clock server) numbered := by
  induction numbered using List.reverseRecOn with
  | nil => simp [sendBatch]
  | append_singleton numbered item ih =>
      have handles :=
        handlesText_iff platform (sendBatch platform clock server numbered).1
          item.1.1 item.1.2 (clock item.2)
      have whole := sendBatch_concat platform clock server numbered item
      rw [eachStep_concat_iff, eachStep_concat_iff, ← ih]
      simp only [TakesText, LeavesValue, serverAfter, whole, ← handles]
      cases (sendBatch platform clock server numbered).2.2 with
      | some exception => simp
      | none =>
          dsimp only
          cases
              sendDatapoint platform
                (sendBatch platform clock server numbered).1 item.1.1
                item.1.2 (clock item.2) with
          | error exception => simp
          | ok sent =>
              rcases sent with ⟨processed, effects⟩
              simp

/-- What `send` should do with any texts in a batch. -/
structure HandlesTexts (readings : List Reading) : Prop where
  completes :
    (send platform clock server readings).2.2 = .ok readings.length
  processed :
    (machine platform).after ⟨server, []⟩
        (batchEvents clock (batch readings).zipIdx) =
      ⟨(send platform clock server readings).1, []⟩
  keeps :
    EachStep (LeavesValue platform clock server) (batch readings).zipIdx

/--
`send` completes, with every data point processed and the values kept from
texts that are no step positions, exactly when every step position in turn
takes its text.
-/
theorem send_handlesTexts_iff (readings : List Reading) :
    HandlesTexts platform clock server readings ↔
      EachStep (TakesText platform clock server) (batch readings).zipIdx := by
  rw [← sendBatch_handles_iff]
  constructor
  · intro handles
    refine ⟨?_, handles.keeps⟩
    have completes := handles.completes
    simp only [send] at completes
    split at completes
    · rename_i noException
      exact noException
    · simp at completes
  · rintro ⟨noException, keeps⟩
    rcases
        sendBatch_run platform clock ⟨server, []⟩ (batch readings).zipIdx with
      ⟨events, -, after, -, whole⟩
    refine ⟨by simp only [send, noException], ?_, keeps⟩
    rw [← whole noException]
    exact after

end Batches

/-- A reading with a text for the step position at 1:10. -/
def textReading (text : String) : Reading where
  assetName := "TM"
  datapoints := [sampleDataObject "M_ST_NA_1" 10 (.string text)]

/-- What `send` returns for a text, and the position after a batch with it. -/
def sentText (text : String) (later : List Reading) :
    Except CxxException Nat × Option PointValue :=
  let sent :=
    send samplePlatform (fun _ => 0) sampleSteps.server
      (textReading text :: later)
  (sent.2.2,
    (sent.1.exchangeDefinitions.lookup 1 10).map DataPoint.value)

/--
An empty text and one without an int end the batch with an exception: the next
reading is lost.  `(7x,true)` is no step position and moves the point to 7.
-/
theorem faultyTexts_mishandled :
    ¬ HandlesTexts samplePlatform (fun _ => 0) sampleSteps.server
        [textReading "", textReading "[5,true]"] ∧
      sentText "" [textReading "[5,true]"] =
        (.error .outOfRange, some (.stepPos 0 0)) ∧
      sentText "[x,true]" [textReading "[5,true]"] =
        (.error .invalidArgument, some (.stepPos 0 0)) ∧
      sentText "(7x,true)" [] = (.ok 1, some (.stepPos 7 1)) ∧
      ¬ IsStepPosition "(7x,true)" := by
  have results :
      sentText "" [textReading "[5,true]"] =
          (.error .outOfRange, some (.stepPos 0 0)) ∧
        sentText "[x,true]" [textReading "[5,true]"] =
          (.error .invalidArgument, some (.stepPos 0 0)) ∧
        sentText "(7x,true)" [] = (.ok 1, some (.stepPos 7 1)) ∧
        ¬ IsStepPosition "(7x,true)" := by
    decide
  refine ⟨fun handles => ?_, results⟩
  have completes := handles.completes
  have thrown := congrArg Prod.fst results.1
  exact absurd (completes.symm.trans thrown) (by decide)

end Iec104North.StepPositionTexts
