import Iec104North.Readings
import Mathlib.Data.List.Forall2
import Mathlib.Data.List.Induction
import Mathlib.Data.List.Perm.Lattice

/-!
# The attributes of a data object

What the objDp loop of `send` reads depends, for each name, on the
attributes with this name only: a value comes from the last of them, a flag is
set when one of them is not 0.  The order of attributes with different names
does not matter, and attributes with other names do not matter at all.
-/

namespace Iec104North.AttributeReading

open Iec104North.Library
open Iec104North.AsduTypes
open Iec104North.Values
open Iec104North.Server
open Iec104North.Readings

/-! ## Reading by name -/

/-- The attributes with a name, in order. -/
def named (attributes : List Attribute) (name : String) : List Attribute :=
  attributes.filter fun objDp => objDp.name == name

/-- The value of the last objDp with a name. -/
def lastOf (attributes : List Attribute) (name : String) :
    Option DatapointValue :=
  ((named attributes name).getLast?).map Attribute.value

/-- An attribute with a name is not 0. -/
def isRaised (platform : Platform) (attributes : List Attribute)
    (name : String) : Bool :=
  (named attributes name).any fun objDp =>
    platform.toInt objDp.value != 0

/-- The quality bits a flag gives. -/
def bitsOf (raised : Bool) (mask : Quality) : Quality :=
  if raised then mask else Quality.good

/-- The data object its attributes stand for. -/
def objectOf (platform : Platform) (attributes : List Attribute) :
    DataObject where
  ca :=
    ((lastOf attributes "do_ca").map fun attrVal =>
      toInt32 (platform.toInt attrVal)).getD (-1)
  ioa :=
    ((lastOf attributes "do_ioa").map fun attrVal =>
      toInt32 (platform.toInt attrVal)).getD (-1)
  cot :=
    ((lastOf attributes "do_cot").map fun attrVal =>
      toInt32 (platform.toInt attrVal)).getD Cot.unknownCot
  type :=
    ((lastOf attributes "do_type").map fun attrVal =>
      getTypeIdFromString (platform.toStringValue attrVal)).getD (-1)
  hasTimestamp := (lastOf attributes "do_ts").isSome
  timestamp :=
    ((lastOf attributes "do_ts").map fun attrVal =>
      toUInt64 (platform.toInt attrVal)).getD 0
  tsIv := isRaised platform attributes "do_ts_iv"
  tsSu := isRaised platform attributes "do_ts_su"
  tsSub := isRaised platform attributes "do_ts_sub"
  isNegative := isRaised platform attributes "do_negative"
  value := lastOf attributes "do_value"
  qd :=
    bitsOf (isRaised platform attributes "do_quality_iv") Quality.invalid |||
      bitsOf (isRaised platform attributes "do_quality_bl") Quality.blocked |||
      bitsOf (isRaised platform attributes "do_quality_ov")
        Quality.overflow |||
      bitsOf (isRaised platform attributes "do_quality_sb")
        Quality.substituted |||
      bitsOf (isRaised platform attributes "do_quality_nt") Quality.nonTopical

/-- The names `send` looks for. -/
def attributeNames : List String :=
  ["do_ca", "do_ioa", "do_cot", "do_type", "do_value", "do_negative",
    "do_quality_iv", "do_quality_bl", "do_quality_ov", "do_quality_sb",
    "do_quality_nt", "do_ts", "do_ts_iv", "do_ts_su", "do_ts_sub"]

/-- Nothing else is read. -/
theorem objectOf_congr (platform : Platform)
    {attributes others : List Attribute}
    (same :
      ∀ name ∈ attributeNames, named attributes name = named others name) :
    objectOf platform attributes = objectOf platform others := by
  have last :
      ∀ name ∈ attributeNames,
        lastOf attributes name = lastOf others name := by
    intro name known
    rw [lastOf, lastOf, same name known]
  have raised :
      ∀ name ∈ attributeNames,
        isRaised platform attributes name =
          isRaised platform others name := by
    intro name known
    rw [isRaised, isRaised, same name known]
  simp only [attributeNames, List.forall_mem_cons] at last raised
  simp only [objectOf, last, raised]

section Concat

variable (platform : Platform) (attributes : List Attribute)
  (objDp : Attribute) (name : String)

@[simp]
theorem lastOf_nil : lastOf [] name = none :=
  rfl

@[simp]
theorem isRaised_nil : isRaised platform [] name = false :=
  rfl

theorem lastOf_concat :
    lastOf (attributes ++ [objDp]) name =
      if objDp.name = name then
        some objDp.value
      else
        lastOf attributes name := by
  rw [lastOf, named, List.filter_append]
  split
  · rename_i same
    simp [same]
  · rename_i other
    simp [other, lastOf, named]

theorem isRaised_concat :
    isRaised platform (attributes ++ [objDp]) name =
      (isRaised platform attributes name ||
        (objDp.name == name &&
          platform.toInt objDp.value != 0)) := by
  rw [isRaised, named, List.filter_append, List.any_append, isRaised, named]
  by_cases same : objDp.name = name
  · simp [same]
  · simp [same]

end Concat

@[simp]
theorem bitsOf_false (mask : Quality) : bitsOf false mask = 0 :=
  rfl

theorem bitsOf_or (raised more : Bool) (mask : Quality) :
    bitsOf (raised || more) mask =
      bitsOf raised mask ||| bitsOf more mask := by
  cases raised <;> cases more <;> simp [bitsOf]

/-- A flag that is not 0 sets its bits. -/
theorem raiseQuality_eq (platform : Platform) (object : DataObject)
    (mask : Quality) (attrVal : DatapointValue) :
    raiseQuality platform object mask attrVal =
      { object with
        qd :=
          object.qd ||| bitsOf (platform.toInt attrVal != 0) mask } := by
  rw [raiseQuality]
  split
  · rename_i raised
    simp [bitsOf, raised]
  · rename_i cleared
    simp [bitsOf, not_not.mp cleared]

/-- One turn of the loop: one more attribute is read. -/
theorem readAttribute_objectOf (platform : Platform)
    (attributes : List Attribute) (objDp : Attribute) :
    readAttribute platform (objectOf platform attributes) objDp =
      objectOf platform (attributes ++ [objDp]) := by
  by_cases known : objDp.name ∈ attributeNames
  · simp only [attributeNames, List.mem_cons, List.not_mem_nil,
      or_false] at known
    -- the guarded branches do nothing when the flag is 0
    by_cases cleared : platform.toInt objDp.value = 0
    all_goals
      rcases known with isName | isName | isName | isName | isName | isName |
        isName | isName | isName | isName | isName | isName | isName |
        isName | isName
    all_goals
      simp [readAttribute, raiseQuality_eq, objectOf, lastOf_concat,
        isRaised_concat, bitsOf_or, isName, cleared]
    all_goals ac_rfl
  · have same :
        ∀ name ∈ attributeNames,
          named (attributes ++ [objDp]) name = named attributes name := by
      intro name isKnown
      have other : objDp.name ≠ name := fun equal => known (equal ▸ isKnown)
      simp [named, other]
    rw [objectOf_congr platform same]
    simp only [attributeNames, List.mem_cons, not_or] at known
    simp [readAttribute, known]

/-- The attribute loop reads by name. -/
theorem readDataObject_eq (platform : Platform) (dp : Datapoint) :
    readDataObject platform dp = objectOf platform dp.attributes := by
  rw [readDataObject]
  induction dp.attributes using List.reverseRecOn with
  | nil => simp [objectOf]
  | append_singleton attributes objDp ih =>
      rw [List.foldl_concat, ih, readAttribute_objectOf]

/-! ## Rearranged data objects -/

section Rearranged

variable {attributes others extra : List Attribute}

/-- Distinct names: no two attributes have the same. -/
theorem named_le_one (distinct : (attributes.map Attribute.name).Nodup)
    (name : String) :
    named attributes name = [] ∨ ∃ objDp, named attributes name = [objDp] := by
  have apart :
      (named attributes name).Pairwise fun one two => one.name ≠ two.name :=
    (List.pairwise_map.mp distinct).filter _
  have same : ∀ objDp ∈ named attributes name, objDp.name = name := by
    intro objDp member
    simpa using List.of_mem_filter member
  cases found : named attributes name with
  | nil => exact Or.inl rfl
  | cons one rest =>
      cases rest with
      | nil => exact Or.inr ⟨one, rfl⟩
      | cons two rest =>
          rw [found] at apart same
          exact
            absurd ((same one (by simp)).trans (same two (by simp)).symm)
              ((List.pairwise_cons.mp apart).1 two (by simp))

/-- Neither the order nor attributes with other names matter. -/
theorem named_eq_of_perm
    (distinct : (attributes.map Attribute.name).Nodup)
    (unknown : ∀ objDp ∈ extra, objDp.name ∉ attributeNames)
    (perm : others.Perm (attributes ++ extra)) {name : String}
    (known : name ∈ attributeNames) :
    named others name = named attributes name := by
  have noExtra : named extra name = [] := by
    refine List.filter_eq_nil_iff.mpr fun objDp member isName => ?_
    exact unknown objDp member (eq_of_beq isName ▸ known)
  have reordered : (named others name).Perm (named attributes name) := by
    have filtered := perm.filter fun objDp => objDp.name == name
    rw [List.filter_append] at filtered
    rw [← named, ← named, ← named, noExtra, List.append_nil] at filtered
    exact filtered
  rcases named_le_one distinct name with none | ⟨objDp, one⟩
  · rw [none] at reordered ⊢
    exact List.perm_nil.mp reordered
  · rw [one] at reordered ⊢
    exact List.perm_singleton.mp reordered

end Rearranged

/--
A data object whose attributes have distinct names, and one with the same
attributes in another order and attributes with other names among them.
-/
structure Rearranged (dp other : Datapoint) : Prop where
  isObject : dp.name = "data_object"
  sameName : other.name = dp.name
  distinct : (dp.attributes.map Attribute.name).Nodup
  perm :
    ∃ extra : List Attribute,
      (∀ objDp ∈ extra, objDp.name ∉ attributeNames) ∧
        other.attributes.Perm (dp.attributes ++ extra)

/-- Readings with the same data points, some data objects rearranged. -/
def SameData (reading other : Reading) : Prop :=
  reading.assetName = other.assetName ∧
    List.Forall₂ (fun dp otherDp => dp = otherDp ∨ Rearranged dp otherDp)
      reading.datapoints other.datapoints

theorem Rearranged.readDataObject_eq (platform : Platform)
    {dp other : Datapoint} (rearranged : Rearranged dp other) :
    readDataObject platform other = readDataObject platform dp := by
  rcases rearranged.perm with ⟨extra, unknown, perm⟩
  rw [AttributeReading.readDataObject_eq, AttributeReading.readDataObject_eq]
  exact
    objectOf_congr platform fun name known =>
      named_eq_of_perm rearranged.distinct unknown perm known

theorem Rearranged.sendDatapoint_eq (platform : Platform)
    {dp other : Datapoint} (rearranged : Rearranged dp other)
    (server : IEC104Server) (assetName : String) (now : Nat) :
    sendDatapoint platform server assetName other now =
      sendDatapoint platform server assetName dp now := by
  simp only [sendDatapoint, rearranged.sameName, rearranged.isObject,
    rearranged.readDataObject_eq platform]
  rfl

/-- The batches of readings with the same data. -/
theorem batch_sameData {readings others : List Reading}
    (same : List.Forall₂ SameData readings others) :
    List.Forall₂
      (fun item other =>
        item.1 = other.1 ∧ (item.2 = other.2 ∨ Rearranged item.2 other.2))
      (batch readings) (batch others) := by
  induction same with
  | nil => exact List.Forall₂.nil
  | cons sameData _ ih =>
      refine List.rel_append ?_ ih
      simp only [sameData.1, List.forall₂_map_left_iff,
        List.forall₂_map_right_iff, true_and]
      exact sameData.2

/-- The loops of `send` over batches with the same data. -/
theorem sendBatch_sameData (platform : Platform) (clock : Nat → Nat)
    {items others : List (String × Datapoint)}
    (same :
      List.Forall₂
        (fun item other =>
          item.1 = other.1 ∧ (item.2 = other.2 ∨ Rearranged item.2 other.2))
        items others)
    (server : IEC104Server) (index : Nat) :
    sendBatch platform clock server (others.zipIdx index) =
      sendBatch platform clock server (items.zipIdx index) := by
  induction same generalizing server index with
  | nil => rfl
  | @cons item other _ _ sameItem _ ih =>
      have sameStep :
          sendDatapoint platform server other.1 other.2 (clock index) =
            sendDatapoint platform server item.1 item.2 (clock index) := by
        rw [← sameItem.1]
        rcases sameItem.2 with equal | rearranged
        · rw [equal]
        · exact rearranged.sendDatapoint_eq platform server _ _
      simp only [List.zipIdx_cons, sendBatch, sameStep, ih]

/--
The order of the attributes of a data object, and attributes with names `send`
does not look for, change nothing of what `send` does.
-/
theorem send_rearranged (platform : Platform) (clock : Nat → Nat)
    (server : IEC104Server) {readings others : List Reading}
    (same : List.Forall₂ SameData readings others) :
    send platform clock server others =
      send platform clock server readings := by
  have sameBatch :=
    sendBatch_sameData platform clock (batch_sameData same) server 0
  simp only [send, sameBatch, same.length_eq]

/-- A data object for CA 1 with a spontaneous cause. -/
def sampleDataObject (type : String) (ioa : Int) (value : DatapointValue) :
    Datapoint where
  name := "data_object"
  attributes :=
    [⟨"do_type", .string type⟩, ⟨"do_ca", .integer 1⟩,
     ⟨"do_ioa", .integer ioa⟩, ⟨"do_cot", .integer Cot.spontaneous⟩,
     ⟨"do_value", value⟩]

/-- A single point at 1:10. -/
def sampleObject : Datapoint :=
  sampleDataObject "M_SP_NA_1" 10 (.integer 1)

/-- The same in the opposite order, with an attribute `send` ignores. -/
def rearrangedObject : Datapoint where
  name := "data_object"
  attributes := ⟨"do_origin", .string "TM"⟩ :: sampleObject.attributes.reverse

theorem rearranged_sample : Rearranged sampleObject rearrangedObject where
  isObject := rfl
  sameName := rfl
  distinct := by decide
  perm :=
    ⟨[⟨"do_origin", .string "TM"⟩], by decide,
      ((List.reverse_perm _).cons _).trans
        (List.perm_append_singleton _ _).symm⟩

theorem send_rearranged_sample :
    send samplePlatform (fun _ => 0) sampleServer
        [⟨"TM", [rearrangedObject]⟩] =
      send samplePlatform (fun _ => 0) sampleServer
        [⟨"TM", [sampleObject]⟩] :=
  send_rearranged samplePlatform (fun _ => 0) sampleServer
    (.cons ⟨rfl, .cons (Or.inr rearranged_sample) .nil⟩ .nil)

end Iec104North.AttributeReading
