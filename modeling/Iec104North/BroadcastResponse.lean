import Iec104North.InterrogationReplies
import Iec104North.ProcessImage

/-!
# The whole answer to an interrogation

`interrogationHandler` refuses an interrogation with one negative ACT-CON, or
answers it for each common address it is for.  What it reports in all is the
process image, cut down to the covered points of these addresses.
-/

namespace Iec104North.BroadcastResponse

open Iec104North.Library
open Iec104North.Values
open Iec104North.DataPoints
open Iec104North.Server
open Iec104North.Interrogation
open Iec104North.InterrogationResponse
open Iec104North.TableReads
open Iec104North.MonitoringData
open Iec104North.InterrogationReplies
open Iec104North.ProcessImage

/-! ## Answers -/

/-- The answer for one common address: its monitoring ASDUs. -/
structure Answer where
  ca : Int
  data : List DataAsdu
deriving DecidableEq, Repr

/-- The messages of an answer. -/
def Answer.messages (connection : Connection) (asdu : Asdu)
    (answer : Answer) : List Effect :=
  [.sendActCon none connection { asdu with ca := answer.ca } false] ++
    answer.data.map (.sendData connection) ++
    [.sendActTerm none connection { asdu with ca := answer.ca }]

/-- The objects an answer reports, each with the CA of its ASDU. -/
def Answer.reported (answer : Answer) : List (Int × MonitoringObject) :=
  answer.data.flatMap fun data =>
    data.objects.map fun object => (data.ca, object)

/-- The interrogation is refused. -/
def IsRefused (server : IEC104Server) (asdu : Asdu) (qoi : Nat) : Prop :=
  qoi < 20 ∨
    36 < qoi ∨
    isBroadcastCA asdu.ca server.config.appLayerParameters = false ∧
      ¬ server.exchangeDefinitions.HasDevice asdu.ca

/-- The objects are in the order of their addresses. -/
def ReportedBefore (first second : Int × MonitoringObject) : Prop :=
  first.1 < second.1 ∨
    first.1 = second.1 ∧
      first.2.objectAddress < second.2.objectAddress

instance : Std.Irrefl ReportedBefore where
  irrefl object before := by
    rcases before with smaller | ⟨-, smaller⟩
    · exact lt_irrefl _ smaller
    · exact lt_irrefl _ smaller

instance : Std.Antisymm ReportedBefore where
  antisymm first second before after := by
    unfold ReportedBefore at before after
    omega

section Answers

variable (platform : Platform) (server : IEC104Server)
  (connection : Connection) (asdu : Asdu) (qoi : Nat)

/-- The answer the server gives for a common address. -/
def answerFor (ca : Int) : Answer where
  ca := ca
  data :=
    responseAsdus platform server.config.appLayerParameters asdu ca
      (responseObjects server.exchangeDefinitions ca qoi)

theorem messages_answerFor (ca : Int) :
    (answerFor platform server asdu qoi ca).messages connection asdu =
      (sendInterrogationResponse platform server connection asdu ca qoi).2 :=
  rfl

/-- The common addresses an interrogation is answered for. -/
def answeredAddresses : List Int :=
  if isBroadcastCA asdu.ca server.config.appLayerParameters then
    server.exchangeDefinitions.devices.keys
  else
    [asdu.ca]

theorem interrogationHandler_refused
    (refused : IsRefused server asdu qoi) :
    ∃ cot,
      (interrogationHandler platform server connection asdu qoi).2 =
        [.sendActCon none connection { asdu with cot := cot } true] := by
  rw [interrogationHandler]
  split
  · exact ⟨asdu.cot, rfl⟩
  rename_i within
  rcases refused with low | high | ⟨single, unconfigured⟩
  · exact absurd (Or.inl low) within
  · exact absurd (Or.inr high) within
  · rw [single, if_neg Bool.false_ne_true, if_neg unconfigured]
    exact ⟨Cot.unknownCa, rfl⟩

theorem interrogationHandler_answered
    (answered : ¬ IsRefused server asdu qoi) :
    (interrogationHandler platform server connection asdu qoi).2 =
      ((answeredAddresses server asdu).map
        (answerFor platform server asdu qoi)).flatMap
          (Answer.messages connection asdu) := by
  simp only [IsRefused, not_or, not_and, not_not] at answered
  rcases answered with ⟨low, high, configured⟩
  have within : ¬ (qoi < 20 ∨ 36 < qoi) := by omega
  rw [interrogationHandler, if_neg within, answeredAddresses,
    List.flatMap_map]
  simp only [messages_answerFor]
  split
  · rw [respondEach_eq platform server connection asdu qoi _
      fun ca member => (mem_keys_iff _ ca).mp member]
  · rename_i single
    rw [if_pos (configured (Bool.eq_false_iff.mpr single)),
      List.flatMap_singleton]

/-- An answer reports what the image reads out for its CA. -/
theorem reported_answerFor
    (fits : FitsEmpty platform server.config.appLayerParameters)
    (ca : Int) :
    (answerFor platform server asdu qoi ca).reported =
      ((imageOf server.exchangeDefinitions).readOut qoi ca).map
        fun object => (ca, object) := by
  have sameCa :
      ∀ data ∈ (answerFor platform server asdu qoi ca).data,
        data.ca = ca :=
    fun data member => (isResponseAsdu_of_mem platform _ data member).ca
  have content :
      (answerFor platform server asdu qoi ca).data.flatMap
          DataAsdu.objects =
        responseObjects server.exchangeDefinitions ca qoi :=
    (reportedObjects_response platform server 0 asdu ca qoi).symm.trans
      (reportedObjects_eq platform server 0 asdu ca qoi fits)
  rw [readOut_imageOf, ← content, Answer.reported, List.map_flatMap]
  apply List.flatMap_congr
  intro data member
  rw [sameCa data member]

end Answers

/-! ## The reported image -/

section Reported

variable (server : IEC104Server) (asdu : Asdu) (qoi : Nat)

theorem answeredAddresses_ascending :
    (answeredAddresses server asdu).Pairwise
      fun first second => first < second := by
  rw [answeredAddresses]
  split
  · exact Std.ExtTreeMap.ordered_keys.imp Int.compare_eq_lt.mp
  · exact List.pairwise_singleton _ _

theorem mem_answeredAddresses_iff
    (answered : ¬ IsRefused server asdu qoi) (ca : Int) :
    ca ∈ answeredAddresses server asdu ↔
      IsInterrogated asdu qoi server ca := by
  simp only [IsRefused, not_or, not_and, not_not] at answered
  rcases answered with ⟨low, high, configured⟩
  rw [answeredAddresses, IsInterrogated]
  split
  · rename_i broadcast
    rw [mem_keys_iff]
    constructor
    · intro present
      exact ⟨by omega, by omega, present, Or.inl broadcast⟩
    · rintro ⟨-, -, present, -⟩
      exact present
  · rename_i single
    rw [List.mem_singleton]
    constructor
    · rintro rfl
      exact
        ⟨by omega, by omega, configured (Bool.eq_false_iff.mpr single),
          Or.inr rfl⟩
    · rintro ⟨-, -, -, broadcast | same⟩
      · exact absurd broadcast single
      · exact same.symm

/-- The covered points of the addresses an interrogation is for, in order. -/
def coveredPoints : List DataPoint :=
  (imageOf server.exchangeDefinitions).points.filter fun point =>
    point.ca ∈ answeredAddresses server asdu ∧ IsCovered qoi point

/-- Reading out one address after the other gives the points in order. -/
theorem readOut_addresses :
    ((answeredAddresses server asdu).flatMap fun ca =>
        ((imageOf server.exchangeDefinitions).readOut qoi ca).map
          fun object => (ca, object)) =
      (coveredPoints server asdu qoi).map fun point =>
        (point.ca, pointObject point) := by
  apply List.Pairwise.eq_of_mem_iff (r := ReportedBefore)
  · rw [List.pairwise_flatMap]
    constructor
    · intro ca member
      rw [List.pairwise_map, readOut_imageOf]
      exact
        (responseObjects_ascending _ ca qoi).imp fun smaller =>
          Or.inr ⟨rfl, smaller⟩
    · refine (answeredAddresses_ascending server asdu).imp ?_
      intro first second smaller one isOne other isOther
      rcases List.mem_map.mp isOne with ⟨object, -, rfl⟩
      rcases List.mem_map.mp isOther with ⟨otherObject, -, rfl⟩
      exact Or.inl smaller
  · rw [coveredPoints, List.pairwise_map]
    exact
      ((imageOf server.exchangeDefinitions).ordered.filter _).imp
        fun before => before
  rintro ⟨ca, object⟩
  simp only [List.mem_flatMap, List.mem_map, Image.readOut, coveredPoints,
    List.mem_filter, decide_eq_true_eq, Prod.mk.injEq]
  constructor
  · rintro
      ⟨other, addressed, read, ⟨point, ⟨member, sameCa, covered⟩, rfl⟩, rfl,
        rfl⟩
    rw [← sameCa] at addressed
    exact ⟨point, ⟨member, addressed, covered⟩, sameCa, rfl⟩
  · rintro ⟨point, ⟨member, addressed, covered⟩, rfl, rfl⟩
    exact
      ⟨point.ca, addressed, _, ⟨point, ⟨member, rfl, covered⟩, rfl⟩, rfl,
        rfl⟩

end Reported

/-! ## The whole answer -/

/-- An interrogation is answered for all the addresses it is for. -/
structure IsAnswered (server : IEC104Server) (connection : Connection)
    (asdu : Asdu) (qoi : Nat) (effects : List Effect)
    (answers : List Answer) : Prop where
  messages :
    effects = answers.flatMap (Answer.messages connection asdu)
  ascending :
    (answers.map Answer.ca).Pairwise fun first second => first < second
  addresses :
    ∀ ca,
      ca ∈ answers.map Answer.ca ↔ IsInterrogated asdu qoi server ca
  reported :
    answers.flatMap Answer.reported =
      ((imageOf server.exchangeDefinitions).points.filter fun point =>
          point.ca ∈ answers.map Answer.ca ∧ IsCovered qoi point).map
        fun point => (point.ca, pointObject point)

/--
An interrogation is refused with one negative ACT-CON, or answered: for each
common address it is for, in ascending order, there are an ACT-CON, monitoring
ASDUs and an ACT-TERM, and all of them together report each covered point of
these addresses once, in the order of the image.
-/
theorem interrogationHandler_complete (platform : Platform)
    (server : IEC104Server) (connection : Connection) (asdu : Asdu)
    (qoi : Nat)
    (fits : FitsEmpty platform server.config.appLayerParameters) :
    let handled :=
      interrogationHandler platform server connection asdu qoi
    handled.1 = server ∧
      (IsRefused server asdu qoi →
        ∃ cot,
          handled.2 =
            [.sendActCon none connection { asdu with cot := cot } true]) ∧
      (¬ IsRefused server asdu qoi →
        ∃ answers,
          IsAnswered server connection asdu qoi handled.2 answers) := by
  refine
    ⟨interrogationHandler_server platform server connection asdu qoi,
      interrogationHandler_refused platform server connection asdu qoi, ?_⟩
  intro answered
  have addresses :
      ((answeredAddresses server asdu).map
          (answerFor platform server asdu qoi)).map Answer.ca =
        answeredAddresses server asdu := by
    rw [List.map_map]
    exact List.map_id' _
  refine
    ⟨(answeredAddresses server asdu).map
      (answerFor platform server asdu qoi), ?_, ?_, ?_, ?_⟩
  · exact
      interrogationHandler_answered platform server connection asdu qoi
        answered
  · rw [addresses]
    exact answeredAddresses_ascending server asdu
  · rw [addresses]
    exact mem_answeredAddresses_iff server asdu qoi answered
  · rw [addresses, List.flatMap_map, ← coveredPoints, ← readOut_addresses]
    simp only [reported_answerFor platform server asdu qoi fits]

theorem interrogationHandler_complete_sample :
    let handled :=
      interrogationHandler samplePlatform sampleServer 1
        { sampleInterrogation with ca := 0xffff } 20
    handled.1 = sampleServer ∧
      (IsRefused sampleServer { sampleInterrogation with ca := 0xffff } 20 →
        ∃ cot,
          handled.2 =
            [.sendActCon none 1
              { sampleInterrogation with ca := 0xffff, cot := cot } true]) ∧
      (¬ IsRefused sampleServer { sampleInterrogation with ca := 0xffff }
          20 →
        ∃ answers,
          IsAnswered sampleServer 1
            { sampleInterrogation with ca := 0xffff } 20 handled.2
            answers) :=
  interrogationHandler_complete samplePlatform sampleServer 1
    { sampleInterrogation with ca := 0xffff } 20 fitsEmpty_sample

end Iec104North.BroadcastResponse
