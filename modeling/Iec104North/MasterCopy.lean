import Iec104North.AsduSize
import Iec104North.InvalidUntilReceived
import Iec104North.Library.Replica
import Iec104North.SpontaneousAsdus
import Iec104North.StationRefinement

/-!
# The copies the masters have

A master writes down the values which are reported to it, and so has a copy of
the points.  Answers to its interrogations are sent on its connection, all else
goes through the queue of the slave, and an answer may overtake the queue.

A copy that is up to date stays so, and one that is not becomes so with an
interrogation, as long as every data object which changes a point has a cause
that is reported.  What arrives late does no harm.
-/

namespace Iec104North.MasterCopy

open Iec104North.Library
open Iec104North.Values
open Iec104North.DataPoints
open Iec104North.Server
open Iec104North.LedgerRefinement
open Iec104North.Readings
open Iec104North.Interrogation
open Iec104North.InterrogationResponse
open Iec104North.Runs
open Iec104North.TableReads
open Iec104North.TableFrame
open Iec104North.MonitoringData
open Iec104North.AsduSize
open Iec104North.InvalidUntilReceived
open Iec104North.ProcessImage
open Iec104North.StationRefinement

/-! ## Copies -/

/-- What is shown of a point: its value and its quality. -/
abbrev Shown := PointValue × Quality

/-- What a point shows. -/
def shownOf (point : DataPoint) : Shown :=
  (point.value, point.quality)

/-- What the point at an address shows, if there is one. -/
def shownAt (system : System) (ca ioa : Int) : Option Shown :=
  (system.server.exchangeDefinitions.lookup ca ioa).map shownOf

/-- What a master writes down of a transmission. -/
def statementsOf (transmission : Transmission) :
    List ((Int × Int) × Shown) :=
  transmission.asdu.objects.map fun object =>
    ((transmission.asdu.ca, object.objectAddress),
      (object.value, object.quality))

/-- The transmission is sent on a connection, past the queue. -/
def isDirect (transmission : Transmission) : Bool :=
  transmission.destination.isSome

/-- The transmission is for the master, or for all masters. -/
def isFor (connection : Connection) (transmission : Transmission) : Bool :=
  transmission.destination == none ||
    transmission.destination == some connection

/-- What a master is sent of some effects. -/
def sentTo (connection : Connection) (effects : List Effect) :
    List Transmission :=
  (transmissions effects).filter (isFor connection)

@[simp]
theorem sentTo_append (connection : Connection)
    (first second : List Effect) :
    sentTo connection (first ++ second) =
      sentTo connection first ++ sentTo connection second := by
  rw [sentTo, transmissions, List.filterMap_append, List.filter_append]
  rfl

theorem mem_sentTo_iff {connection : Connection} {effects : List Effect}
    {transmission : Transmission} :
    transmission ∈ sentTo connection effects ↔
      transmission ∈ transmissions effects ∧
        (transmission.destination = none ∨
          transmission.destination = some connection) := by
  simp [sentTo, isFor]

theorem isAbout_iff {transmission : Transmission} {ca ioa : Int} :
    IsAbout statementsOf (ca, ioa) transmission ↔
      transmission.asdu.ca = ca ∧
        ∃ object ∈ transmission.asdu.objects,
          object.objectAddress = ioa := by
  simp only [IsAbout, statementsOf, List.mem_map, Prod.mk.injEq,
    Prod.exists]
  constructor
  · rintro ⟨value, quality, object, member, ⟨sameCa, sameIoa⟩, -⟩
    exact ⟨sameCa, object, member, sameIoa⟩
  · rintro ⟨sameCa, object, member, sameIoa⟩
    exact ⟨_, _, object, member, ⟨sameCa, sameIoa⟩, rfl, rfl⟩

/-- Every object, with time tag or without, fits into an empty ASDU. -/
def FitsAll (platform : Platform) (parameters : AppLayerParameters) : Prop :=
  ∀ object, platform.objectFits parameters [] object = true

theorem fitsAll_sample :
    FitsAll samplePlatform sampleServer.config.appLayerParameters :=
  SpontaneousAsdus.fits_sample

/-! ## Steps -/

section Steps

variable (platform : Platform) (connection : Connection) (ca ioa : Int)

/--
A data object which changes what a point shows has a cause that is reported.
-/
def Announced (system : System) (event : Event) : Prop :=
  ∀ object now point,
    objectFor platform ca ioa system event = some (object, now) →
      system.server.exchangeDefinitions.lookup ca ioa = some point →
        isSpontaneousCot object.cot = true ∨
          shownOf (Image.writeTo platform object now point) =
            shownOf point

/-- The event is an interrogation by the master which covers the point. -/
def Asks (system : System) (event : Event) : Prop :=
  ∃ asdu qoi point,
    event = .interrogation connection asdu qoi ∧
      IsInterrogated asdu qoi system.server ca ∧
      system.server.exchangeDefinitions.lookup ca ioa = some point ∧
      IsCovered qoi point

variable {platform connection ca ioa} {system : System} {event : Event}

/-- What a master is told of a point is what the point then shows. -/
theorem shownAt_of_sent {transmission : Transmission} {shown : Shown}
    (sent :
      transmission ∈ sentTo connection (step platform system event).2)
    (stated : ((ca, ioa), shown) ∈ statementsOf transmission) :
    shownAt (step platform system event).1 ca ioa = some shown := by
  rcases List.mem_filterMap.mp (mem_sentTo_iff.mp sent).1 with
    ⟨effect, isEffect, isSent⟩
  have reported :
      transmission.asdu ∈ dataAsdus (step platform system event).2 := by
    refine List.mem_filterMap.mpr ⟨effect, isEffect, ?_⟩
    rw [← transmissionOf_asdu, isSent]
    rfl
  rcases List.mem_map.mp stated with ⟨object, member, is⟩
  rcases Prod.mk.inj is with ⟨address, rfl⟩
  rcases Prod.mk.inj address with ⟨rfl, rfl⟩
  rcases lookup_of_reported platform _ _ reported member with
    ⟨current, found, value, quality⟩
  rw [shownAt, found, Option.map_some, shownOf, value, quality]

/-- An answer to an interrogation tells its master of the covered points. -/
theorem exists_sent_of_asks
    (fits : FitsAll platform system.server.config.appLayerParameters)
    (asks : Asks connection ca ioa system event) :
    ∃ transmission ∈ sentTo connection (step platform system event).2,
      IsAbout statementsOf (ca, ioa) transmission := by
  rcases asks with ⟨asdu, qoi, point, rfl, interrogated, found, covered⟩
  rcases
      (reportsAll_of_fits fits).interrogated connection asdu qoi ca ioa point
        rfl interrogated found covered with
    ⟨data, reported, sameCa, member⟩
  have told :=
    transmissions_interrogationHandler platform system.server connection asdu
      qoi
  rw [← dataAsdus_interrogationHandler platform system.server connection]
    at told
  refine ⟨⟨some connection, data⟩, ?_, ?_⟩
  · rw [mem_sentTo_iff]
    refine ⟨?_, Or.inr rfl⟩
    simp only [step] at reported ⊢
    rw [told]
    exact List.mem_map_of_mem reported
  · rw [isAbout_iff]
    exact
      ⟨sameCa, pointObject point, member,
        (PointTable.lookup_addressed found).2⟩

/-- The event which brings a data object for an address. -/
theorem objectFor_eq_some {object : DataObject} {now : Nat}
    (isObject :
      objectFor platform ca ioa system event = some (object, now)) :
    ∃ assetName dp,
      event = .datapoint assetName dp now ∧
        readObject platform system.server dp = some object ∧
        object.ca = ca ∧ object.ioa = ioa := by
  cases event with
  | datapoint assetName dp time =>
      simp only [objectFor] at isObject
      split at isObject
      · simp at isObject
      · rename_i read reads
        rcases Option.ite_none_right_eq_some.mp isObject with ⟨address, is⟩
        rcases Prod.mk.inj (Option.some.inj is) with ⟨rfl, rfl⟩
        exact ⟨assetName, dp, rfl, reads, address⟩
  | _ => simp [objectFor] at isObject

/-- Data objects whose causes are reported are announced. -/
theorem announced_of_spontaneous
    (spontaneous :
      ∀ assetName dp now,
        event = .datapoint assetName dp now →
          isSpontaneousCot (readDataObject platform dp).cot = true) :
    Announced platform ca ioa system event := by
  intro object now point isObject found
  rcases objectFor_eq_some isObject with ⟨assetName, dp, is, reads, -, -⟩
  rcases readObject_eq_some platform reads with ⟨-, -, rfl, -⟩
  exact Or.inl (spontaneous assetName dp now is)

/-- A data object which is reported tells every master of its point. -/
theorem exists_queued {object : DataObject} {now : Nat}
    {point updated : DataPoint}
    (fits : FitsAll platform system.server.config.appLayerParameters)
    (isObject :
      objectFor platform ca ioa system event = some (object, now))
    (found :
      system.server.exchangeDefinitions.lookup ca ioa = some point)
    (isFor : Image.isFor object point = true)
    (update : updatedPoint platform object now point = .ok updated)
    (spontaneous : isSpontaneousCot object.cot = true) :
    ∃ transmission ∈ sentTo connection (step platform system event).2,
      IsAbout statementsOf (ca, ioa) transmission ∧
        isDirect transmission = false := by
  rcases objectFor_eq_some isObject with ⟨assetName, dp, rfl, reads, rfl, rfl⟩
  have isMatched :
      matchedPoint system.server.exchangeDefinitions object = some point := by
    rw [matchedPoint, found, Option.filter_eq_some_iff]
    simp only [Image.isFor, Bool.and_eq_true] at isFor
    exact ⟨rfl, isFor.2⟩
  rcases
      (reportsAll_of_fits fits).spontaneous assetName dp now object point
        updated rfl reads spontaneous isMatched update with
    ⟨data, reported, sameCa, io, member, address, -, -⟩
  have settings := updatedPoint_settings platform update
  have location := PointTable.lookup_addressed found
  rw [step_datapoint_read platform system assetName now reads] at reported ⊢
  rcases List.mem_filterMap.mp reported with ⟨effect, isEffect, isData⟩
  rcases enqueuedFor_enqueues platform isEffect with ⟨asdu, rfl⟩
  rcases Option.some.inj isData with rfl
  refine ⟨⟨none, asdu⟩, ?_, ?_, rfl⟩
  · rw [mem_sentTo_iff]
    exact
      ⟨List.mem_filterMap.mpr ⟨_, isEffect, rfl⟩, Or.inl rfl⟩
  · rw [isAbout_iff, sameCa, DataPoint.ca_eq_of_settings settings,
      location.1]
    rw [DataPoint.ioa_eq_of_settings settings, location.2] at address
    exact ⟨rfl, io, member, address⟩

/-- A data object which is not reported is kept from the masters. -/
theorem sentTo_eq_nil {object : DataObject} {now : Nat}
    (isObject :
      objectFor platform ca ioa system event = some (object, now))
    (silent : isSpontaneousCot object.cot = false) :
    sentTo connection (step platform system event).2 = [] := by
  rcases objectFor_eq_some isObject with ⟨assetName, dp, rfl, reads, -, -⟩
  have nothing :
      enqueuedFor platform system.server object now = [] := by
    rw [enqueuedFor]
    split
    · rfl
    split
    · rfl
    rw [silent, if_neg Bool.false_ne_true]
  rw [step_datapoint_read platform system assetName now reads]
  dsimp only
  rw [nothing]
  rfl

/-- A data object changes what a point shows, and nothing else does. -/
theorem shownAt_step (system : System) (event : Event) :
    shownAt (step platform system event).1 ca ioa =
      (system.server.exchangeDefinitions.lookup ca ioa).map fun point =>
        (objectFor platform ca ioa system event).elim (shownOf point)
          fun entry =>
            shownOf (Image.writeTo platform entry.1 entry.2 point) := by
  rw [shownAt, lookup_step_eq, Option.map_map]
  congr 1
  funext point
  cases objectFor platform ca ioa system event <;> rfl

/-- No point is added and none goes. -/
theorem isSome_shownAt_step (system : System) (event : Event) :
    (shownAt (step platform system event).1 ca ioa).isSome =
      (shownAt system ca ioa).isSome := by
  rw [shownAt_step, shownAt, Option.isSome_map, Option.isSome_map]

/-- What changes is queued for the masters, if it is announced. -/
theorem shownAt_step_or_queued
    (fits : FitsAll platform system.server.config.appLayerParameters)
    (announced : Announced platform ca ioa system event) :
    shownAt (step platform system event).1 ca ioa = shownAt system ca ioa ∨
      ∃ transmission ∈ sentTo connection (step platform system event).2,
        IsAbout statementsOf (ca, ioa) transmission ∧
          isDirect transmission = false := by
  rw [shownAt_step, shownAt]
  cases found : system.server.exchangeDefinitions.lookup ca ioa with
  | none => exact Or.inl rfl
  | some point =>
      cases isObject : objectFor platform ca ioa system event with
      | none => exact Or.inl rfl
      | some entry =>
          rcases entry with ⟨object, now⟩
          rw [Option.map_some, Option.map_some, Option.elim_some]
          rcases announced object now point isObject found with
            spontaneous | same
          · by_cases isFor : Image.isFor object point = true
            · cases update : updatedPoint platform object now point with
              | error exception =>
                  left
                  rw [Image.writeTo, if_pos isFor, update]
                  rfl
              | ok updated =>
                  right
                  exact
                    exists_queued fits isObject found isFor update
                      spontaneous
            · left
              rw [Image.writeTo, if_neg isFor]
          · exact Or.inl (congrArg some same)

end Steps

/-! ## Runs -/

/--
What a master is sent settles on what the point shows, and there is something
about the point if it shows something else than at the start.
-/
structure Tells (ca ioa : Int) (start system : System)
    (sent : List Transmission) : Prop where
  settles :
    ∀ shown, shownAt system ca ioa = some shown →
      SettlesOn statementsOf isDirect (ca, ioa) shown sent
  changes :
    shownAt system ca ioa = shownAt start ca ioa ∨
      ∃ transmission ∈ sent, IsAbout statementsOf (ca, ioa) transmission
  present :
    (∃ transmission ∈ sent, IsAbout statementsOf (ca, ioa) transmission) →
      (shownAt system ca ioa).isSome = true

section Runs

variable {platform : Platform} {start : System} {ca ioa : Int}

theorem Tells.refl : Tells ca ioa start start [] where
  settles _ _ := trivial
  changes := Or.inl rfl
  present told := by simp at told

/-- The step lemma: an announced step tells of what it changes. -/
theorem Tells.step {system : System} {sent : List Transmission}
    (tells : Tells ca ioa start system sent) (connection : Connection)
    (fits : FitsAll platform system.server.config.appLayerParameters)
    {event : Event} (announced : Announced platform ca ioa system event) :
    Tells ca ioa start (step platform system event).1
      (sent ++ sentTo connection (step platform system event).2) := by
  have agree :
      ∀ shown,
        shownAt (Runs.step platform system event).1 ca ioa = some shown →
          ∀ transmission ∈
              sentTo connection (Runs.step platform system event).2,
            Agrees statementsOf (ca, ioa) shown transmission := by
    intro shown shows transmission member stated isStated
    have told := shownAt_of_sent member isStated
    rw [shows] at told
    exact (Option.some.inj told).symm
  have present :
      (∃ transmission ∈
          sent ++ sentTo connection (Runs.step platform system event).2,
        IsAbout statementsOf (ca, ioa) transmission) →
        (shownAt (Runs.step platform system event).1 ca ioa).isSome =
          true := by
    rintro ⟨transmission, member, isAbout⟩
    rcases List.mem_append.mp member with earlier | now
    · rw [isSome_shownAt_step]
      exact tells.present ⟨transmission, earlier, isAbout⟩
    · rcases isAbout with ⟨shown, stated⟩
      rw [shownAt_of_sent now stated]
      rfl
  rcases shownAt_step_or_queued fits announced with
    same | ⟨transmission, member, isAbout, isQueued⟩
  · refine ⟨fun shown shows => ?_, ?_, present⟩
    · have before := tells.settles shown (same.symm.trans shows)
      exact before.append (agree shown shows)
    · rcases tells.changes with still | ⟨transmission, member, isAbout⟩
      · exact Or.inl (same.trans still)
      · exact
          Or.inr ⟨transmission, List.mem_append_left _ member, isAbout⟩
  · refine ⟨fun shown shows => ?_, Or.inr ?_, present⟩
    · exact
        settlesOn_append_queued sent (agree shown shows) member isAbout
          isQueued
    · exact ⟨transmission, List.mem_append_right _ member, isAbout⟩

/-- A copy which was up to date, or was told of the point, is up to date. -/
theorem Tells.replay_eq {system : System} {sent : List Transmission}
    (tells : Tells ca ioa start system sent)
    {known : Int × Int → Option Shown}
    (informed :
      known (ca, ioa) = shownAt start ca ioa ∨
        ∃ transmission ∈ sent,
          IsAbout statementsOf (ca, ioa) transmission)
    {arrived : List Transmission}
    (delivered : Delivered isDirect sent arrived) :
    replay statementsOf known arrived (ca, ioa) =
      shownAt system ca ioa := by
  by_cases told :
      ∃ transmission ∈ sent, IsAbout statementsOf (ca, ioa) transmission
  · rcases Option.isSome_iff_exists.mp (tells.present told) with
      ⟨shown, shows⟩
    rcases told with ⟨transmission, member, isAbout⟩
    have arrives := delivered.perm.mem_iff.mpr member
    rw [shows]
    exact
      (delivered.settlesOn (tells.settles shown shows)).replay_eq
        ⟨transmission, arrives, isAbout⟩ known
  · have upToDate := informed.resolve_right told
    have still := tells.changes.resolve_right told
    rw [still, ← upToDate]
    apply replay_of_not_about
    intro transmission arrives isAbout
    exact
      told ⟨transmission, delivered.perm.mem_iff.mp arrives, isAbout⟩

variable (fits : FitsAll platform start.server.config.appLayerParameters)

include fits

/-- The format of the ASDUs stays as it was. -/
theorem fits_run (earlier : List Event) :
    FitsAll platform
      ((machine platform).after start
        earlier).server.config.appLayerParameters := by
  rw [appLayerParameters_run]
  exact fits

/-- The run lemma: an announced run tells of all it changes. -/
theorem tells_run (connection : Connection) {events : List Event}
    (announced :
      EachStep
        (fun earlier event =>
          Announced platform ca ioa ((machine platform).after start earlier)
            event)
        events) :
    Tells ca ioa start ((machine platform).after start events)
      (sentTo connection ((machine platform).outputs start events)) := by
  refine EachStep.induction ?_ ?_ announced
  · exact Tells.refl
  · intro earlier event _ tells announced
    have next := tells.step connection (fits_run fits earlier) announced
    rw [Machine.after_append, Machine.outputs_append, sentTo_append]
    simpa [machine_step] using next

/-- A master which asks for a point is told of it. -/
theorem exists_sent_of_seen {connection : Connection} {events : List Event}
    (asked :
      (machine platform).Seen (Asks connection ca ioa) start events) :
    ∃ transmission ∈
        sentTo connection ((machine platform).outputs start events),
      IsAbout statementsOf (ca, ioa) transmission := by
  rcases asked with ⟨earlier, event, later, rfl, asks⟩
  rcases exists_sent_of_asks (fits_run fits earlier) asks with
    ⟨transmission, member, isAbout⟩
  refine ⟨transmission, ?_, isAbout⟩
  rw [Machine.outputs_append, sentTo_append, Machine.outputs_cons,
    sentTo_append]
  exact List.mem_append_right _ (List.mem_append_left _ member)

/--
Once all it was sent has arrived, a master knows what a point shows, if it did
at the start or has asked for the point on the way.  Answers may have overtaken
the queue, and whatever changed the point was announced.
-/
theorem copy_upToDate {connection : Connection} {events : List Event}
    {known : Int × Int → Option Shown} {arrived : List Transmission}
    (announced :
      EachStep
        (fun earlier event =>
          Announced platform ca ioa ((machine platform).after start earlier)
            event)
        events)
    (informed :
      known (ca, ioa) = shownAt start ca ioa ∨
        (machine platform).Seen (Asks connection ca ioa) start events)
    (delivered :
      Delivered isDirect
        (sentTo connection ((machine platform).outputs start events))
        arrived) :
    replay statementsOf known arrived (ca, ioa) =
      shownAt ((machine platform).after start events) ca ioa :=
  (tells_run fits connection announced).replay_eq
    (informed.imp_right (exists_sent_of_seen fits)) delivered

end Runs

/-- Two values for the point at 1:10, and an interrogation of its CA. -/
def sampleNews : List Event :=
  [.datapoint "south" (sampleReading 10 1) 0,
    .datapoint "south" (sampleReading 10 0) 0,
    .interrogation 1 sampleInterrogation 20]

/-- The transmission of a value of the point at 1:10. -/
def sampleTransmission (destination : Option Connection)
    (cot : CauseOfTransmission) (value : BitVec 1) : Transmission where
  destination := destination
  asdu :=
    { cot := cot, oa := 0, ca := 1
      objects := [⟨10, .sp value, Quality.good, none⟩] }

theorem sentTo_sampleNews :
    sentTo 1 ((machine samplePlatform).outputs sampleSystem sampleNews) =
      [sampleTransmission none Cot.spontaneous 1,
        sampleTransmission none Cot.spontaneous 0,
        sampleTransmission (some 1) Cot.interrogatedByStation 0] :=
  rfl

/-- The answer overtakes both values, and the master hears 0, 1 and 0. -/
def sampleArrival : List Transmission :=
  [sampleTransmission (some 1) Cot.interrogatedByStation 0,
    sampleTransmission none Cot.spontaneous 1,
    sampleTransmission none Cot.spontaneous 0]

theorem delivered_sample :
    Delivered isDirect
      (sentTo 1 ((machine samplePlatform).outputs sampleSystem sampleNews))
      sampleArrival := by
  rw [sentTo_sampleNews]
  apply Delivered.overtake [] [sampleTransmission none Cot.spontaneous 0] rfl
  apply Delivered.overtake [sampleTransmission none Cot.spontaneous 1] [] rfl
  exact .inOrder

theorem announced_sample (ca ioa : Int) :
    EachStep
      (fun earlier event =>
        Announced samplePlatform ca ioa
          ((machine samplePlatform).after sampleSystem earlier) event)
      sampleNews := by
  intro earlier event later split
  have member : event ∈ sampleNews := by simp [split]
  apply announced_of_spontaneous
  rintro assetName dp now rfl
  simp only [sampleNews, List.mem_cons, List.not_mem_nil, or_false,
    Event.datapoint.injEq, reduceCtorEq] at member
  rcases member with ⟨-, rfl, -⟩ | ⟨-, rfl, -⟩ <;> decide

theorem copy_upToDate_sample :
    replay statementsOf (fun _ => none) sampleArrival (1, 10) =
      shownAt ((machine samplePlatform).after sampleSystem sampleNews) 1
        10 := by
  refine
    copy_upToDate fitsAll_sample (announced_sample 1 10)
      (Or.inr ?_) delivered_sample
  have interrogated :
      IsInterrogated sampleInterrogation 20
        ((machine samplePlatform).after sampleSystem
          (sampleNews.take 2)).server 1 :=
    ⟨by decide, by decide, by decide, Or.inr rfl⟩
  refine ⟨sampleNews.take 2, _, [], rfl, sampleInterrogation, 20, ?_⟩
  exact
    ⟨{ DataPoint.create "TM" 1 10 .sp false 1 with
        value := .sp 0, quality := Quality.good },
      rfl, interrogated, rfl, by decide⟩

/-! ## Copies that are kept up to date -/

section Exactness

variable {platform : Platform} {start : System} {ca ioa : Int}

/--
A master which knows what a point shows and is told everything in order stays
up to date throughout a run exactly when all that changes the point is
announced.
-/
theorem copy_keptUpToDate_iff (connection : Connection)
    (fits : FitsAll platform start.server.config.appLayerParameters)
    {known : Int × Int → Option Shown}
    (upToDate : known (ca, ioa) = shownAt start ca ioa)
    (events : List Event) :
    (∀ earlier, earlier <+: events →
      replay statementsOf known
          (sentTo connection ((machine platform).outputs start earlier))
          (ca, ioa) =
        shownAt ((machine platform).after start earlier) ca ioa) ↔
      EachStep
        (fun earlier event =>
          Announced platform ca ioa ((machine platform).after start earlier)
            event)
        events := by
  have anyStep : EachStep (fun _ _ => True) events :=
    fun _ _ _ _ => trivial
  refine forall_prefix_iff_eachStep upToDate ?_ anyStep
  intro earlier event _ _ before
  rw [Machine.after_append, Machine.outputs_append, sentTo_append,
    replay_append, Machine.after_cons, Machine.after_nil,
    Machine.outputs_cons, Machine.outputs_nil, List.append_nil, machine_step]
  constructor
  · intro after object now point isObject found
    by_contra hidden
    rw [not_or, Bool.not_eq_true] at hidden
    rw [sentTo_eq_nil isObject hidden.1, shownAt_step, isObject, found]
      at after
    have stays :
        some (shownOf point) =
          some (shownOf (Image.writeTo platform object now point)) := by
      calc
        some (shownOf point) =
            shownAt ((machine platform).after start earlier) ca ioa := by
          rw [shownAt, found, Option.map_some]
        _ = _ := before.symm
        _ = _ := after
    exact hidden.2 (Option.some.inj stays).symm
  · intro announced
    have tells :=
      Tells.refl.step connection (fits_run fits earlier) announced
    exact tells.replay_eq (Or.inl before) .inOrder

end Exactness

theorem copy_keptUpToDate_iff_sample :
    (∀ earlier, earlier <+: sampleNews →
      replay statementsOf (fun address => shownAt sampleSystem address.1
            address.2)
          (sentTo 1
            ((machine samplePlatform).outputs sampleSystem earlier))
          (1, 10) =
        shownAt ((machine samplePlatform).after sampleSystem earlier) 1
          10) ↔
      EachStep
        (fun earlier event =>
          Announced samplePlatform 1 10
            ((machine samplePlatform).after sampleSystem earlier) event)
        sampleNews :=
  copy_keptUpToDate_iff 1 fitsAll_sample rfl sampleNews

end Iec104North.MasterCopy
