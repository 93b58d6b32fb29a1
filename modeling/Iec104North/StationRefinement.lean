import Iec104North.ProcessImage
import Iec104North.StepEffects
import Iec104North.TableFrame

/-!
# The server refines its station

Data objects, interrogations and the state of the slave are steps of the
station; everything else is invisible to it.  So monitoring is a function of
these alone, in whatever way commands and connections interleave, and the value
of a point a function of its own data objects.
-/

namespace Iec104North.StationRefinement

open Iec104North.Library
open Iec104North.Values
open Iec104North.DataPoints
open Iec104North.Server
open Iec104North.LedgerRefinement
open Iec104North.Readings
open Iec104North.Commands
open Iec104North.Interrogation
open Iec104North.InterrogationResponse
open Iec104North.Runs
open Iec104North.TableReads
open Iec104North.TableFrame
open Iec104North.MonitoringData
open Iec104North.InterrogationReplies
open Iec104North.StepEffects
open Iec104North.ProcessImage

/-! ## Transmissions -/

section Transmissions

variable (platform : Platform)

/-- The transmission an effect is, if it is one. -/
def transmissionOf : Effect → Option Transmission
  | .sendData connection asdu => some ⟨some connection, asdu⟩
  | .enqueueAsdu asdu => some ⟨none, asdu⟩
  | _ => none

/-- The transmissions among the effects, in order. -/
def transmissions (effects : List Effect) : List Transmission :=
  effects.filterMap transmissionOf

theorem transmissionOf_asdu (effect : Effect) :
    (transmissionOf effect).map Transmission.asdu = dataAsduOf effect := by
  cases effect <;> rfl

/-- Transmissions to one destination, from the ASDUs. -/
theorem transmissions_eq_map {destination : Option Connection}
    {effects : List Effect}
    (same :
      ∀ effect ∈ effects, ∀ transmission,
        transmissionOf effect = some transmission →
          transmission.destination = destination) :
    transmissions effects =
      (dataAsdus effects).map fun asdu => ⟨destination, asdu⟩ := by
  rw [transmissions, dataAsdus, List.map_filterMap]
  apply List.filterMap_congr
  intro effect member
  rw [← transmissionOf_asdu, Option.map_map]
  cases isSent : transmissionOf effect with
  | none => rfl
  | some transmission =>
      have destined := same effect member transmission isSent
      simp only [Option.map_some, Function.comp_apply, Option.some.injEq]
      rw [← destined]

/-- What is enqueued for a data object goes to all masters. -/
theorem transmissions_enqueuedFor (server : IEC104Server)
    (object : DataObject) (now : Nat) :
    transmissions (enqueuedFor platform server object now) =
      ((imageOf server.exchangeDefinitions).spontaneous platform
        server.config.appLayerParameters object now).map
          fun asdu => ⟨none, asdu⟩ := by
  rw [← dataAsdus_enqueuedFor]
  apply transmissions_eq_map
  intro effect member transmission isSent
  rcases enqueuedFor_enqueues platform member with ⟨data, rfl⟩
  rcases Option.some.inj isSent with rfl
  rfl

/-- What an interrogation sends goes to the master that asked. -/
theorem transmissions_interrogationHandler (server : IEC104Server)
    (connection : Connection) (asdu : Asdu) (qoi : Nat) :
    transmissions
        (interrogationHandler platform server connection asdu qoi).2 =
      ((imageOf server.exchangeDefinitions).interrogate platform
        server.config.appLayerParameters asdu qoi).map
          fun asdu => ⟨some connection, asdu⟩ := by
  rw [← dataAsdus_interrogationHandler platform server connection]
  apply transmissions_eq_map
  intro effect member transmission isSent
  cases
    isReply_interrogationHandler platform server connection asdu qoi effect
      member with
  | refusal => simp [transmissionOf] at isSent
  | actCon => simp [transmissionOf] at isSent
  | actTerm => simp [transmissionOf] at isSent
  | data data =>
      rcases Option.some.inj isSent with rfl
      rfl

theorem transmissions_eq_nil {effects : List Effect}
    (silent : dataAsdus effects = []) : transmissions effects = [] := by
  rw [dataAsdus, List.filterMap_eq_nil_iff] at silent
  rw [transmissions, List.filterMap_eq_nil_iff]
  intro effect member
  have nothing := silent effect member
  rw [← transmissionOf_asdu, Option.map_eq_none_iff] at nothing
  exact nothing

end Transmissions

/-! ## The refinement -/

section Refinement

variable (platform : Platform)

/-- The station a system shows to its masters. -/
def stationOf (system : System) : Station where
  image := imageOf system.server.exchangeDefinitions
  parameters := system.server.config.appLayerParameters
  isRunning := system.server.slaveRunning

/-- What an event of the server is for the station. -/
def imageEventOf : Event → Option ImageEvent
  | .datapoint _ dp now =>
      let object := readDataObject platform dp
      if dp.name = "data_object" ∧ objectFeedback object = none ∧
          isComplete object = true then
        some (.dataObject object now)
      else
        none
  | .interrogation connection asdu qoi =>
      some (.interrogation connection asdu qoi)
  | .slaveRunning isRunning => some (.running isRunning)
  | _ => none

/-- `readObject` reads the data objects of the station while it runs. -/
theorem readObject_eq (server : IEC104Server) (assetName : String)
    (dp : Datapoint) (now : Nat) :
    readObject platform server dp =
      match imageEventOf platform (.datapoint assetName dp now) with
      | some (.dataObject object _) =>
          if server.slaveRunning then some object else none
      | _ => none := by
  simp only [readObject, imageEventOf]
  by_cases running : server.slaveRunning = true
  · by_cases name : dp.name = "data_object"
    · by_cases reach :
          objectFeedback (readDataObject platform dp) = none ∧
            isComplete (readDataObject platform dp) = true
      · simp [running, name, reach]
      · simp [running, name, reach]
    · simp [running, name]
  · have stopped :
        ¬ (dp.name = "data_object" ∧ server.slaveRunning = true) :=
      fun both => running both.2
    rw [if_neg stopped]
    split
    · rw [if_neg running]
    · rfl

/-- Only the slave itself changes whether it runs. -/
theorem step_slaveRunning (system : System) (event : Event)
    (others : ∀ isRunning, event ≠ .slaveRunning isRunning) :
    (step platform system event).1.server.slaveRunning =
      system.server.slaveRunning := by
  cases event with
  | command connection asdu checkTime rcvdTime =>
      exact
        (enterAsduHandler_fields platform system.server connection asdu
          checkTime rcvdTime).2.2.1
  | operationReturned address result =>
      simp only [step]
      split <;> rfl
  | datapoint assetName dp now =>
      cases reads : readObject platform system.server dp with
      | none =>
          rcases sendDatapoint_noRead platform assetName now reads with
            ⟨processed, effects, sent, leaves⟩
          simp only [step, sent]
          exact leaves.slaveRunning
      | some object =>
          rw [step_datapoint_read platform system assetName now reads]
  | interrogation connection asdu qoi =>
      rcases
          interrogationHandler_sameEntries platform connection asdu qoi
            system.server with
        ⟨table, -, left⟩
      simp only [step]
      rw [left]
  | scanTimeouts currentTime => rfl
  | connection con peerAddress event =>
      exact
        (connectionEventHandler_onlyConnections system.server con
          peerAddress event).slaveRunning
  | slaveRunning isRunning => exact (others isRunning rfl).elim
  | registerControl => rfl

/-- A step which finds the same points leaves the station as it is. -/
theorem stationOf_step_eq {system : System} {event : Event}
    (others : ∀ isRunning, event ≠ .slaveRunning isRunning)
    (same :
      ∀ ca ioa,
        (step platform system event).1.server.exchangeDefinitions.lookup
            ca ioa =
          system.server.exchangeDefinitions.lookup ca ioa) :
    stationOf (step platform system event).1 = stationOf system := by
  rw [stationOf, stationOf, imageOf_eq_of_lookup same,
    step_appLayerParameters, step_slaveRunning platform system event others]

/-- A data object which is not read leaves the station and is silent. -/
theorem station_noRead {system : System} (assetName : String)
    {dp : Datapoint} (now : Nat)
    (noRead : readObject platform system.server dp = none) :
    let stepped := step platform system (.datapoint assetName dp now)
    stationOf stepped.1 = stationOf system ∧
      transmissions stepped.2 = [] := by
  refine
    ⟨stationOf_step_eq platform nofun fun ca ioa => ?_,
      transmissions_eq_nil
        (dataAsdus_noRead platform system assetName dp now noRead)⟩
  rw [(step_datapoint_noRead platform system assetName dp now noRead).1]

/-- The server refines the station. -/
theorem server_refines_station :
    Refines (machine platform) (stationMachine platform) stationOf
      (imageEventOf platform) transmissionOf where
  shown system event projected projection := by
    rw [machine_step]
    cases event with
    | datapoint assetName dp now =>
        have reads :=
          readObject_eq platform system.server assetName dp now
        simp only [imageEventOf] at projection
        split at projection
        · rename_i isObject
          rcases Option.some.inj projection with rfl
          rw [imageEventOf, if_pos isObject] at reads
          dsimp only [stationMachine, stationStep, stationOf] at reads ⊢
          split
          · rename_i running
            rw [if_pos running] at reads
            rw [step_datapoint_read platform system assetName now reads]
            dsimp only
            rw [imageOf_tableAfter]
            exact
              ⟨rfl, transmissions_enqueuedFor platform system.server _ now⟩
          · rename_i stopped
            rw [if_neg stopped] at reads
            exact station_noRead platform assetName now reads
        · simp at projection
    | interrogation connection asdu qoi =>
        rcases Option.some.inj projection with rfl
        refine
          ⟨stationOf_step_eq platform nofun
            (step_lookup platform system _ nofun), ?_⟩
        exact
          transmissions_interrogationHandler platform system.server
            connection asdu qoi
    | slaveRunning isRunning =>
        rcases Option.some.inj projection with rfl
        exact ⟨rfl, rfl⟩
    | command => simp [imageEventOf] at projection
    | operationReturned => simp [imageEventOf] at projection
    | scanTimeouts => simp [imageEventOf] at projection
    | connection => simp [imageEventOf] at projection
    | registerControl => simp [imageEventOf] at projection
  hidden system event projection := by
    rw [machine_step]
    by_cases datapoint :
        ∃ assetName dp now, event = .datapoint assetName dp now
    · rcases datapoint with ⟨assetName, dp, now, rfl⟩
      have reads :=
        readObject_eq platform system.server assetName dp now
      rw [projection] at reads
      exact station_noRead platform assetName now reads
    have noDatapoint :
        ∀ assetName dp now, event ≠ .datapoint assetName dp now :=
      fun assetName dp now is => datapoint ⟨assetName, dp, now, is⟩
    refine
      ⟨stationOf_step_eq platform ?_
        (step_lookup platform system event noDatapoint), ?_⟩
    · rintro isRunning rfl
      simp [imageEventOf] at projection
    rw [List.filterMap_eq_nil_iff]
    intro effect member
    cases emits_of_mem_step platform member with
    | handOver => rfl
    | answer => rfl
    | failure => rfl
    | actCon => rfl
    | actTerm => rfl
    | enqueue assetName dp now =>
        exact (noDatapoint assetName dp now rfl).elim
    | reply => simp [imageEventOf] at projection
    | audit => rfl

/--
Every run of the server is a run of its station: the same image at the end,
and the same monitoring data to the same masters on the way.
-/
theorem run_refines_station (start : System) (events : List Event) :
    let imageEvents := events.filterMap (imageEventOf platform)
    stationOf ((machine platform).after start events) =
        (stationMachine platform).after (stationOf start) imageEvents ∧
      transmissions ((machine platform).outputs start events) =
        (stationMachine platform).outputs (stationOf start) imageEvents :=
  (server_refines_station platform).run start events

/-- Servers with the same points, format and slave have the same station. -/
theorem stationOf_eq {first second : System}
    (samePoints :
      ∀ ca ioa,
        first.server.exchangeDefinitions.lookup ca ioa =
          second.server.exchangeDefinitions.lookup ca ioa)
    (sameParameters :
      first.server.config.appLayerParameters =
        second.server.config.appLayerParameters)
    (sameRunning :
      first.server.slaveRunning = second.server.slaveRunning) :
    stationOf first = stationOf second := by
  rw [stationOf, stationOf, imageOf_eq_of_lookup samePoints, sameParameters,
    sameRunning]

/-- Servers with the same station find the same points. -/
theorem lookup_eq_of_stationOf {first second : System}
    (same : stationOf first = stationOf second) (ca ioa : Int) :
    first.server.exchangeDefinitions.lookup ca ioa =
      second.server.exchangeDefinitions.lookup ca ioa := by
  have points := congrArg (fun station => station.image.points) same
  dsimp only [stationOf] at points
  apply Option.ext
  intro point
  constructor
  · intro found
    have member := mem_imageOf_of_lookup found
    rw [points, mem_imageOf_iff, (PointTable.lookup_addressed found).1,
      (PointTable.lookup_addressed found).2] at member
    exact member
  · intro found
    have member := mem_imageOf_of_lookup found
    rw [← points, mem_imageOf_iff, (PointTable.lookup_addressed found).1,
      (PointTable.lookup_addressed found).2] at member
    exact member

/--
Commands, their feedback, scans, connection events and south events do not
interfere with monitoring: runs which differ in these alone transmit the same
data and leave the same points, whatever the servers hold besides.
-/
theorem monitoring_ignoresControls {first second : System}
    (samePoints :
      ∀ ca ioa,
        first.server.exchangeDefinitions.lookup ca ioa =
          second.server.exchangeDefinitions.lookup ca ioa)
    (sameParameters :
      first.server.config.appLayerParameters =
        second.server.config.appLayerParameters)
    (sameRunning :
      first.server.slaveRunning = second.server.slaveRunning)
    {events others : List Event}
    (sameEvents :
      events.filterMap (imageEventOf platform) =
        others.filterMap (imageEventOf platform)) :
    transmissions ((machine platform).outputs first events) =
        transmissions ((machine platform).outputs second others) ∧
      ∀ ca ioa,
        ((machine platform).after first
            events).server.exchangeDefinitions.lookup ca ioa =
          ((machine platform).after second
            others).server.exchangeDefinitions.lookup ca ioa := by
  rcases
      (server_refines_station platform).alike
        (stationOf_eq samePoints sameParameters sameRunning) sameEvents with
    ⟨sameStation, sameOutputs⟩
  exact ⟨sameOutputs, lookup_eq_of_stationOf sameStation⟩

/-- A value for the point at 1:10 and an interrogation of its CA. -/
def sampleMonitoring : List Event :=
  [.datapoint "south" (sampleReading 10 1) 0,
    .interrogation 1 sampleInterrogation 20]

theorem monitoring_ignoresControls_sample :
    transmissions
          ((machine samplePlatform).outputs sampleSystem
            (.command 1 sampleCommand 0 0 :: sampleMonitoring)) =
        transmissions
          ((machine samplePlatform).outputs sampleSystem
            sampleMonitoring) ∧
      ∀ ca ioa,
        ((machine samplePlatform).after sampleSystem
            (.command 1 sampleCommand 0 0 ::
              sampleMonitoring)).server.exchangeDefinitions.lookup ca ioa =
          ((machine samplePlatform).after sampleSystem
            sampleMonitoring).server.exchangeDefinitions.lookup ca ioa :=
  monitoring_ignoresControls samplePlatform (fun _ _ => rfl) rfl rfl rfl

end Refinement

/-! ## The history of a point -/

section Histories

variable (platform : Platform)

/-- A data object for an address, with the time it arrives. -/
def objectFor (ca ioa : Int) (system : System) :
    Event → Option (DataObject × Nat)
  | .datapoint _ dp now =>
      match readObject platform system.server dp with
      | none => none
      | some object =>
          if object.ca = ca ∧ object.ioa = ioa then some (object, now)
          else none
  | _ => none

/-- The data objects a run brings for an address, in order. -/
def objectsFor (start : System) (ca ioa : Int) (events : List Event) :
    List (DataObject × Nat) :=
  (machine platform).observed (objectFor platform ca ioa) start events

/-- A point after the data objects for its address. -/
def writeAll (point : DataPoint) (objects : List (DataObject × Nat)) :
    DataPoint :=
  objects.foldl
    (fun current entry => Image.writeTo platform entry.1 entry.2 current)
    point

theorem writeAll_append (point : DataPoint)
    (earlier later : List (DataObject × Nat)) :
    writeAll platform point (earlier ++ later) =
      writeAll platform (writeAll platform point earlier) later :=
  List.foldl_append

theorem objectsFor_concat (start : System) (ca ioa : Int)
    (events : List Event) (event : Event) :
    objectsFor platform start ca ioa (events ++ [event]) =
      objectsFor platform start ca ioa events ++
        (objectFor platform ca ioa ((machine platform).after start events)
          event).toList := by
  rw [objectsFor, Machine.observed_append, Machine.observed_singleton]
  rfl

/-- A data object for another address leaves a point as it is. -/
theorem writeTo_elsewhere {object : DataObject} (now : Nat)
    {point : DataPoint}
    (elsewhere : ¬ (object.ca = point.ca ∧ object.ioa = point.ioa)) :
    Image.writeTo platform object now point = point := by
  rw [Image.writeTo, if_neg]
  simp only [Image.isFor, Bool.and_eq_true, beq_iff_eq]
  rintro ⟨⟨sameCa, sameIoa⟩, -⟩
  exact elsewhere ⟨sameCa.symm, sameIoa.symm⟩

/-- A step writes to a point what it brings for its address. -/
theorem lookup_step_eq (system : System) (event : Event) (ca ioa : Int) :
    (step platform system event).1.server.exchangeDefinitions.lookup ca ioa =
      (system.server.exchangeDefinitions.lookup ca ioa).map fun point =>
        writeAll platform point
          (objectFor platform ca ioa system event).toList := by
  by_cases datapoint :
      ∃ assetName dp now, event = .datapoint assetName dp now
  · rcases datapoint with ⟨assetName, dp, now, rfl⟩
    rw [objectFor]
    cases reads : readObject platform system.server dp with
    | none =>
        rw [(step_datapoint_noRead platform system assetName dp now reads).1]
        exact Option.map_id'.symm
    | some object =>
        rw [step_datapoint_read platform system assetName now reads]
        dsimp only
        rw [lookup_tableAfter_eq]
        apply Option.map_congr
        intro point found
        rcases PointTable.lookup_addressed found with ⟨rfl, rfl⟩
        split
        · rfl
        · rename_i elsewhere
          exact writeTo_elsewhere platform now elsewhere
  · have nothing : objectFor platform ca ioa system event = none := by
      cases event with
      | datapoint assetName dp now =>
          exact (datapoint ⟨assetName, dp, now, rfl⟩).elim
      | _ => rfl
    rw [nothing,
      step_lookup platform system event fun assetName dp now is =>
        datapoint ⟨assetName, dp, now, is⟩]
    exact Option.map_id'.symm

/-- The run lemma: a point is what its own data objects made of it. -/
theorem lookup_run_eq (start : System) (events : List Event)
    (ca ioa : Int) :
    ((machine platform).after start events).server.exchangeDefinitions.lookup
        ca ioa =
      (start.server.exchangeDefinitions.lookup ca ioa).map fun point =>
        writeAll platform point (objectsFor platform start ca ioa events) := by
  induction events using List.reverseRecOn with
  | nil => simp [objectsFor, writeAll]
  | append_singleton events event induction =>
      rw [Machine.after_append, Machine.after_cons, Machine.after_nil,
        machine_step, lookup_step_eq, induction, Option.map_map,
        objectsFor_concat]
      congr 1
      funext point
      rw [Function.comp_apply, writeAll_append]

/-- Values for 1:10 and 1:20 of `sampleServer`, in either order. -/
def sampleOrder (first second : Int) : List Event :=
  [.datapoint "south" (sampleReading first 1) 0,
    .datapoint "south" (sampleReading second 1) 0]

/-- The data object of `sampleReading`, when it is for an address. -/
def sampleObjectFor (ca ioa target : Int) : List (DataObject × Nat) :=
  if 1 = ca ∧ target = ioa then
    [(readDataObject samplePlatform (sampleReading target 1), 0)]
  else
    []

theorem objectsFor_sampleOrder (ca ioa : Int) :
    objectsFor samplePlatform sampleSystem ca ioa (sampleOrder 10 20) =
        sampleObjectFor ca ioa 10 ++ sampleObjectFor ca ioa 20 ∧
      objectsFor samplePlatform sampleSystem ca ioa (sampleOrder 20 10) =
        sampleObjectFor ca ioa 20 ++ sampleObjectFor ca ioa 10 := by
  have read :
      ∀ target : Int, ∀ system : System,
        readObject samplePlatform system.server (sampleReading target 1) =
            some (readDataObject samplePlatform (sampleReading target 1)) →
          (readDataObject samplePlatform (sampleReading target 1)).ca = 1 →
          (readDataObject samplePlatform (sampleReading target 1)).ioa =
              target →
            (objectFor samplePlatform ca ioa system
                (.datapoint "south" (sampleReading target 1) 0)).toList =
              sampleObjectFor ca ioa target := by
    intro target system reads sameCa sameIoa
    simp only [objectFor, reads, sampleObjectFor, sameCa, sameIoa]
    split <;> rfl
  constructor
  · rw [sampleOrder, objectsFor, Machine.observed, Machine.observed,
      Machine.observed, read 10 _ rfl rfl rfl, read 20 _ rfl rfl rfl,
      List.append_nil]
  · rw [sampleOrder, objectsFor, Machine.observed, Machine.observed,
      Machine.observed, read 20 _ rfl rfl rfl, read 10 _ rfl rfl rfl,
      List.append_nil]

/-- Only one of the two values of `sampleOrder` is for an address. -/
theorem sampleObjectFor_comm (ca ioa : Int) :
    sampleObjectFor ca ioa 10 ++ sampleObjectFor ca ioa 20 =
      sampleObjectFor ca ioa 20 ++ sampleObjectFor ca ioa 10 := by
  simp only [sampleObjectFor]
  split
  · rename_i first
    rw [if_neg (by omega)]
    rfl
  · rw [List.append_nil]
    rfl

end Histories

end Iec104North.StationRefinement
