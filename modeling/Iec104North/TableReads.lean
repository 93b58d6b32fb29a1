import Iec104North.LedgerRefinement

/-!
# Reads of the table of points

What one event does to `m_exchangeDefinitions`: a command reads the map of its
CA, a data object its entry, an interrogation the maps that are there, and
nothing else touches the table.
-/

namespace Iec104North.TableReads

open Iec104North.Library
open Iec104North.AsduTypes
open Iec104North.Values
open Iec104North.Config
open Iec104North.DataPoints
open Iec104North.Server
open Iec104North.Server.IEC104Server
open Iec104North.OutstandingCommands
open Iec104North.Commands
open Iec104North.CommandPaths
open Iec104North.LedgerRefinement
open Iec104North.Readings
open Iec104North.Interrogation
open Iec104North.Connections
open Iec104North.Runs

/-! ## Tables with the same content -/

/-- Two tables with the same CAs and the same entries. -/
structure SameEntries (before after : PointTable) : Prop where
  devices : ∀ ca, after.HasDevice ca ↔ before.HasDevice ca
  entries : ∀ ca ioa, after.entryAt ca ioa = before.entryAt ca ioa

namespace SameEntries

theorem refl (table : PointTable) : SameEntries table table :=
  ⟨fun _ => Iff.rfl, fun _ _ => rfl⟩

theorem trans {first second third : PointTable}
    (earlier : SameEntries first second)
    (later : SameEntries second third) : SameEntries first third :=
  ⟨fun ca => (later.devices ca).trans (earlier.devices ca),
    fun ca ioa => (later.entries ca ioa).trans (earlier.entries ca ioa)⟩

theorem lookup {before after : PointTable}
    (same : SameEntries before after) (ca ioa : Int) :
    after.lookup ca ioa = before.lookup ca ioa := by
  rw [PointTable.lookup, PointTable.lookup, same.entries]

theorem touchDevice {table : PointTable} {ca : Int}
    (configured : table.HasDevice ca) :
    SameEntries table (table.touchDevice ca) := by
  refine ⟨?_, fun other ioa => table.entryAt_touchDevice ca other ioa⟩
  intro other
  rw [PointTable.hasDevice_touchDevice]
  exact or_iff_right_of_imp fun equal => equal ▸ configured

end SameEntries

/-! ## Interrogations -/

section Interrogations

variable (platform : Platform) (connection : Connection) (asdu : Asdu)
  (qoi : Nat)

theorem respondEach_sameEntries (server : IEC104Server)
    (addresses : List Int)
    (configured :
      ∀ ca ∈ addresses, server.exchangeDefinitions.HasDevice ca) :
    ∃ table,
      SameEntries server.exchangeDefinitions table ∧
        (respondEach platform connection asdu qoi server addresses).1 =
          { server with exchangeDefinitions := table } := by
  induction addresses generalizing server with
  | nil => exact ⟨server.exchangeDefinitions, .refl _, rfl⟩
  | cons ca rest ih =>
      have first :
          SameEntries server.exchangeDefinitions
            (server.exchangeDefinitions.touchDevice ca) :=
        .touchDevice (configured ca (by simp))
      obtain ⟨table, later, left⟩ :=
        ih
          (sendInterrogationResponse platform server connection asdu ca qoi).1
          (fun other member =>
            (first.devices other).mpr (configured other (by simp [member])))
      exact ⟨table, first.trans later, left⟩

/-- The CAs of the loop over the table. -/
theorem mem_keys_iff (table : PointTable) (ca : Int) :
    ca ∈ table.devices.keys ↔ table.HasDevice ca :=
  Std.ExtTreeMap.mem_keys

/-- An interrogation leaves the server and the content of the table. -/
theorem interrogationHandler_sameEntries (server : IEC104Server) :
    ∃ table,
      SameEntries server.exchangeDefinitions table ∧
        (interrogationHandler platform server connection asdu qoi).1 =
          { server with exchangeDefinitions := table } := by
  simp only [interrogationHandler]
  split
  · exact ⟨server.exchangeDefinitions, .refl _, rfl⟩
  split
  · apply respondEach_sameEntries
    intro ca member
    exact (mem_keys_iff _ ca).mp member
  split
  · rename_i configured
    exact ⟨_, .touchDevice configured, rfl⟩
  · exact ⟨server.exchangeDefinitions, .refl _, rfl⟩

end Interrogations

/-! ## Connection events -/

section ConnectionEvents

variable (server : IEC104Server)

/-- What connection events may change of the server. -/
structure OnlyConnections (before after : IEC104Server) : Prop where
  exchangeDefinitions :
    after.exchangeDefinitions = before.exchangeDefinitions
  config :
    ∃ groups,
      after.config = { before.config with redundancyGroups := groups }
  slaveRunning : after.slaveRunning = before.slaveRunning
  operRegistered : after.operRegistered = before.operRegistered

namespace OnlyConnections

theorem refl : OnlyConnections server server :=
  ⟨rfl, ⟨server.config.redundancyGroups, rfl⟩, rfl, rfl⟩

theorem trans {first second third : IEC104Server}
    (earlier : OnlyConnections first second)
    (later : OnlyConnections second third) :
    OnlyConnections first third := by
  rcases earlier.config with ⟨groups, config⟩
  rcases later.config with ⟨moreGroups, moreConfig⟩
  exact
    ⟨later.exchangeDefinitions.trans earlier.exchangeDefinitions,
      ⟨moreGroups, by rw [moreConfig, config]⟩,
      later.slaveRunning.trans earlier.slaveRunning,
      later.operRegistered.trans earlier.operRegistered⟩

theorem connectionStatusAudit (auditType index letter : String) :
    OnlyConnections server
      (sendConnectionStatusAudit server auditType index letter).1 := by
  simp only [sendConnectionStatusAudit]
  split <;> exact ⟨rfl, ⟨server.config.redundancyGroups, rfl⟩, rfl, rfl⟩

theorem globalStatusAudit (auditType : String) :
    OnlyConnections server (sendGlobalStatusAudit server auditType).1 := by
  simp only [sendGlobalStatusAudit]
  split <;> exact ⟨rfl, ⟨server.config.redundancyGroups, rfl⟩, rfl, rfl⟩

theorem modifySlot (group slot : Nat)
    (change : RedGroupCon → RedGroupCon) :
    OnlyConnections server (modifySlot server group slot change) :=
  ⟨rfl, ⟨_, rfl⟩, rfl, rfl⟩

theorem remove (con : Connection) :
    OnlyConnections server (removeOutstandingCommands server con) :=
  ⟨rfl, ⟨server.config.redundancyGroups, rfl⟩, rfl, rfl⟩

end OnlyConnections

theorem handleSlotEvent_onlyConnections (group slot : Nat)
    (con : Connection) (event : PeerConnectionEvent) :
    OnlyConnections server
      (handleSlotEvent server group slot con event).1 := by
  cases event with
  | opened => exact .connectionStatusAudit server _ _ _
  | closed =>
      have freed :=
        ((OnlyConnections.connectionStatusAudit server "disconnected"
          (slotLabel server group slot).1
          (slotLabel server group slot).2).trans
          (.modifySlot _ group slot
            fun connection => { connection with port := "" })).trans
          (.remove _ con)
      simp only [handleSlotEvent]
      split
      · exact freed
      · exact freed.trans (.globalStatusAudit _ "disconnected")
  | activated =>
      simp only [handleSlotEvent]
      exact
        ((OnlyConnections.connectionStatusAudit server "active" _ _).trans
          (.globalStatusAudit _ "connected")).trans
          (.modifySlot _ group slot _)
  | deactivated =>
      exact
        ((OnlyConnections.connectionStatusAudit server "passive" _ _).trans
          (.remove _ con)).trans (.modifySlot _ group slot _)

theorem connectionEventHandler_onlyConnections (con : Connection)
    (peerAddress : String) (event : PeerConnectionEvent) :
    OnlyConnections server
      (connectionEventHandler server con peerAddress event).1 := by
  rw [connectionEventHandler_eq]
  split
  · exact .refl server
  · rename_i place found
    have assigned :
        OnlyConnections server (assignSlot server peerAddress place) := by
      rw [assignSlot]
      split
      · exact .modifySlot server _ _ _
      · exact .refl server
    exact assigned.trans (handleSlotEvent_onlyConnections _ _ _ con event)

end ConnectionEvents

/-! ## Data objects -/

section DataObjects

variable (platform : Platform)

/-- The last test of `send` before it looks for the point. -/
def isComplete (object : DataObject) : Bool :=
  object.ca != -1 && object.ioa != -1 && object.cot != Cot.unknownCot &&
    object.type != -1

/-- The data object with which `send` reads the table. -/
def readObject (server : IEC104Server) (dp : Datapoint) :
    Option DataObject :=
  if dp.name = "data_object" ∧ server.slaveRunning = true then
    let object := readDataObject platform dp
    if objectFeedback object = none ∧ isComplete object = true then
      some object
    else
      none
  else
    none

/-- The point a data object is for, if its type matches. -/
def matchedPoint (table : PointTable) (object : DataObject) :
    Option DataPoint :=
  (table.lookup object.ca object.ioa).filter fun point =>
    isMessageTypeMatching point.type object.type

/-- What a data object makes of its point. -/
def updatedPoint (object : DataObject) (now : Nat) (point : DataPoint) :
    Except CxxException DataPoint :=
  updateDataPoint platform point object.type object.value
    (object.ts platform) object.qd now

/-- The table after a data object; an exception leaves it as it was. -/
def tableAfter (table : PointTable) (object : DataObject) (now : Nat) :
    PointTable :=
  match matchedPoint table object with
  | none => table.access object.ca object.ioa
  | some point =>
      match updatedPoint platform object now point with
      | .error _ => table
      | .ok updated =>
          (table.access object.ca object.ioa).store updated

/-- What `send` enqueues for a data object. -/
def enqueuedFor (server : IEC104Server) (object : DataObject)
    (now : Nat) : List Effect :=
  match matchedPoint server.exchangeDefinitions object with
  | none => []
  | some point =>
      match updatedPoint platform object now point with
      | .error _ => []
      | .ok updated =>
          if isSpontaneousCot object.cot then
            enqueueSpontDatapoint platform server updated object.cot
              object.type
          else
            []

/-- What is enqueued is enqueued for the point that was updated. -/
theorem exists_of_mem_enqueuedFor {server : IEC104Server}
    {object : DataObject} {now : Nat} {effect : Effect}
    (member : effect ∈ enqueuedFor platform server object now) :
    ∃ point updated,
      matchedPoint server.exchangeDefinitions object = some point ∧
        updatedPoint platform object now point = .ok updated ∧
        effect ∈
          enqueueSpontDatapoint platform server updated object.cot
            object.type := by
  simp only [enqueuedFor] at member
  split at member
  · simp at member
  rename_i point isMatched
  split at member
  · simp at member
  rename_i updated update
  split at member
  · exact ⟨point, updated, isMatched, update, member⟩
  · simp at member

theorem getDataPoint_eq (server : IEC104Server) (object : DataObject) :
    getDataPoint server object.ca object.ioa object.type =
      ({ server with
          exchangeDefinitions :=
            server.exchangeDefinitions.access object.ca object.ioa },
        matchedPoint server.exchangeDefinitions object) :=
  rfl

section Complete

variable (server : IEC104Server) {object : DataObject} (now : Nat)
  (noFeedback : objectFeedback object = none)

include noFeedback

/-- A data object for no point only reads the table. -/
theorem handleDataObject_unmatched (complete : isComplete object = true)
    (unmatched : matchedPoint server.exchangeDefinitions object = none) :
    handleDataObject platform server object now =
      .ok
        ({ server with
            exchangeDefinitions :=
              server.exchangeDefinitions.access object.ca object.ioa },
          []) := by
  rcases objectFeedback_eq_none_iff.mp noFeedback with ⟨notActCon, notActTerm⟩
  rw [isComplete] at complete
  rw [handleDataObject, if_neg (by simpa using notActCon),
    if_neg (by simpa using notActTerm), if_pos complete, getDataPoint_eq,
    unmatched]

/-- A data object for a point is written to it, unless that throws. -/
theorem handleDataObject_matched (complete : isComplete object = true)
    {point : DataPoint}
    (matched : matchedPoint server.exchangeDefinitions object = some point) :
    handleDataObject platform server object now =
      (updatedPoint platform object now point).map fun updated =>
        ({ server with
            exchangeDefinitions :=
              (server.exchangeDefinitions.access object.ca
                object.ioa).store updated },
          if isSpontaneousCot object.cot then
            enqueueSpontDatapoint platform server updated object.cot
              object.type
          else
            []) := by
  rcases objectFeedback_eq_none_iff.mp noFeedback with ⟨notActCon, notActTerm⟩
  rw [isComplete] at complete
  rw [handleDataObject, if_neg (by simpa using notActCon),
    if_neg (by simpa using notActTerm), if_pos complete, getDataPoint_eq,
    matched]
  dsimp only
  have update :
      updateDataPoint platform point object.type object.value
          (object.ts platform) object.qd now =
        updatedPoint platform object now point := rfl
  rw [update]
  cases updatedPoint platform object now point <;> rfl

/-- Any other data object without feedback does nothing. -/
theorem handleDataObject_incomplete
    (incomplete : isComplete object = false) :
    handleDataObject platform server object now = .ok (server, []) := by
  rcases objectFeedback_eq_none_iff.mp noFeedback with ⟨notActCon, notActTerm⟩
  rw [isComplete, ← Bool.not_eq_true] at incomplete
  rw [handleDataObject, if_neg (by simpa using notActCon),
    if_neg (by simpa using notActTerm), if_neg incomplete]

end Complete

theorem sendDatapoint_object (server : IEC104Server) (assetName : String)
    {dp : Datapoint} (now : Nat) (name : dp.name = "data_object")
    (running : server.slaveRunning = true) :
    sendDatapoint platform server assetName dp now =
      handleDataObject platform server (readDataObject platform dp) now := by
  rw [sendDatapoint, name, if_neg (by decide), if_pos (by decide),
    if_pos running]

/-- `readObject` finds the data object of a data point. -/
theorem readObject_eq_some {server : IEC104Server} {dp : Datapoint}
    {object : DataObject}
    (reads : readObject platform server dp = some object) :
    dp.name = "data_object" ∧
      server.slaveRunning = true ∧
      readDataObject platform dp = object ∧
      objectFeedback object = none ∧ isComplete object = true := by
  rw [readObject] at reads
  split at reads
  · rename_i isObject
    dsimp only at reads
    split at reads
    · rename_i reach
      rcases Option.some.inj reads with rfl
      exact ⟨isObject.1, isObject.2, rfl, reach.1, reach.2⟩
    · simp at reads
  · simp at reads

/-- The step of a data object that reads the table. -/
theorem step_datapoint_read (system : System) (assetName : String)
    {dp : Datapoint} {object : DataObject} (now : Nat)
    (reads : readObject platform system.server dp = some object) :
    step platform system (.datapoint assetName dp now) =
      (⟨{ system.server with
            exchangeDefinitions :=
              tableAfter platform system.server.exchangeDefinitions object
                now },
          system.pending⟩,
        enqueuedFor platform system.server object now) := by
  rcases readObject_eq_some platform reads with
    ⟨name, running, rfl, noFeedback, complete⟩
  simp only [step, sendDatapoint_object platform system.server assetName now
    name running, tableAfter, enqueuedFor]
  cases matched :
      matchedPoint system.server.exchangeDefinitions
        (readDataObject platform dp) with
  | none =>
      rw [handleDataObject_unmatched platform system.server now noFeedback
        complete matched]
  | some point =>
      rw [handleDataObject_matched platform system.server now noFeedback
        complete matched]
      dsimp only
      cases updatedPoint platform (readDataObject platform dp) now point <;>
        rfl

/-- The monitored south plugins after an event. -/
def monitorsAfter (monitors : List SouthPluginMonitor) :
    Event → List SouthPluginMonitor
  | .datapoint assetName dp _ =>
      if dp.name = "south_event" then
        alterFirst (fun monitor => assetName == monitor.assetName)
          (fun monitor =>
            some (updateSouthMonitoringInstance platform dp monitor))
          monitors
      else
        monitors
  | _ => monitors

/-- Feedback changes neither the table nor the settings. -/
theorem handleFeedback_fields (server : IEC104Server)
    (feedback : CommandLedger.Feedback) :
    (handleFeedback server feedback).1.exchangeDefinitions =
        server.exchangeDefinitions ∧
      (handleFeedback server feedback).1.config = server.config ∧
      ∀ asdu, .enqueueAsdu asdu ∉ (handleFeedback server feedback).2 := by
  rcases feedback with ⟨kind, type, ca, ioa, isNegative⟩
  cases kind with
  | actCon =>
      refine ⟨rfl, rfl, fun asdu member => ?_⟩
      simp only [handleFeedback, handleActCon] at member
      split at member
      · simp [sendActCon_snd] at member
      · simp at member
  | actTerm =>
      refine ⟨rfl, rfl, fun asdu member => ?_⟩
      simp only [handleFeedback, handleActTerm] at member
      split at member
      · simp [sendActTerm_snd] at member
      · simp at member

/-- What a data point that reads no entry leaves, and what it sends. -/
structure LeavesTable (server : IEC104Server) (assetName : String)
    (dp : Datapoint) (now : Nat) (processed : IEC104Server)
    (effects : List Effect) : Prop where
  exchangeDefinitions :
    processed.exchangeDefinitions = server.exchangeDefinitions
  config :
    processed.config =
      { server.config with
        monitoredSouthPlugins :=
          monitorsAfter platform server.config.monitoredSouthPlugins
            (.datapoint assetName dp now) }
  slaveRunning : processed.slaveRunning = server.slaveRunning
  effects :
    effects = [] ∨
      ∃ feedback, effects = (handleFeedback server feedback).2

/-- A data point that does not read the table is processed and leaves it. -/
theorem sendDatapoint_noRead {server : IEC104Server} (assetName : String)
    {dp : Datapoint} (now : Nat)
    (noRead : readObject platform server dp = none) :
    ∃ processed effects,
      sendDatapoint platform server assetName dp now =
          .ok (processed, effects) ∧
        LeavesTable platform server assetName dp now processed effects := by
  by_cases south : dp.name = "south_event"
  · refine
      ⟨handleSouthEvent platform server assetName dp, [],
        by rw [sendDatapoint, if_pos (by simpa using south)],
        rfl, ?_, rfl, Or.inl rfl⟩
    simp only [monitorsAfter, if_pos south]
    rfl
  have monitors :
      monitorsAfter platform server.config.monitoredSouthPlugins
          (.datapoint assetName dp now) =
        server.config.monitoredSouthPlugins := by
    simp only [monitorsAfter, if_neg south]
  by_cases isObject :
      dp.name = "data_object" ∧ server.slaveRunning = true
  · rw [sendDatapoint_object platform server assetName now isObject.1
      isObject.2]
    cases stands : objectFeedback (readDataObject platform dp) with
    | some feedback =>
        have fields := handleFeedback_fields server feedback
        have still :
            (handleFeedback server feedback).1.slaveRunning =
              server.slaveRunning := by
          rcases feedback with ⟨kind, type, ca, ioa, isNegative⟩
          cases kind <;> rfl
        exact
          ⟨_, _, handleDataObject_feedback platform server now stands,
            fields.1, by rw [monitors]; exact fields.2.1, still,
            Or.inr ⟨feedback, rfl⟩⟩
    | none =>
        have incomplete :
            isComplete (readDataObject platform dp) = false := by
          simpa [readObject, isObject, stands] using noRead
        exact
          ⟨_, _,
            handleDataObject_incomplete platform server now stands
              incomplete,
            rfl, by rw [monitors], rfl, Or.inl rfl⟩
  · refine ⟨server, [], ?_, rfl, by rw [monitors], rfl, Or.inl rfl⟩
    rw [sendDatapoint, if_neg (by simpa using south)]
    by_cases name : dp.name = "data_object"
    · have stopped : ¬ server.slaveRunning = true :=
        fun running => isObject ⟨name, running⟩
      rw [if_pos (by simpa using name), if_neg stopped]
    · rw [if_neg (by simpa using name)]

theorem LeavesTable.not_mem {server processed : IEC104Server}
    {assetName : String} {dp : Datapoint} {now : Nat}
    {effects : List Effect}
    (leaves :
      LeavesTable platform server assetName dp now processed effects)
    (asdu : DataAsdu) : .enqueueAsdu asdu ∉ effects := by
  rcases leaves.effects with rfl | ⟨feedback, rfl⟩
  · simp
  · exact (handleFeedback_fields server feedback).2.2 asdu

/-- The step of a data point that does not read the table. -/
theorem step_datapoint_noRead (system : System) (assetName : String)
    (dp : Datapoint) (now : Nat)
    (noRead : readObject platform system.server dp = none) :
    let stepped := step platform system (.datapoint assetName dp now)
    stepped.1.server.exchangeDefinitions =
        system.server.exchangeDefinitions ∧
      stepped.1.server.config =
        { system.server.config with
          monitoredSouthPlugins :=
            monitorsAfter platform
              system.server.config.monitoredSouthPlugins
              (.datapoint assetName dp now) } ∧
      ∀ asdu, .enqueueAsdu asdu ∉ stepped.2 := by
  rcases sendDatapoint_noRead platform assetName now noRead with
    ⟨processed, effects, sent, leaves⟩
  simp only [step, sent]
  exact ⟨leaves.exchangeDefinitions, leaves.config, leaves.not_mem platform⟩

end DataObjects

/-! ## Points -/

section Points

variable (platform : Platform)

theorem stepPositionValue_dataType {posValue : BitVec 7}
    {transient : BitVec 1} {str : List Char} {value : PointValue}
    (read : stepPositionValue posValue transient str = .ok value) :
    value.dataType = .stepPos := by
  simp only [stepPositionValue] at read
  split at read
  · simp at read
  · split at read
    · split at read
      · simp at read
      · rcases Except.ok.inj read with rfl
        rfl
    · rcases Except.ok.inj read with rfl
      rfl

/-- A value is assigned to the union member in use. -/
theorem assignValue_dataType {value assigned : PointValue}
    {newValue : Option DatapointValue}
    (done : assignValue value newValue = .ok assigned) :
    assigned.dataType = value.dataType := by
  simp only [assignValue] at done
  split at done
  · rcases Except.ok.inj done with rfl
    rfl
  · rcases Except.ok.inj done with rfl
    rfl
  · exact stepPositionValue_dataType done
  · rcases Except.ok.inj done with rfl
    rfl
  · rcases Except.ok.inj done with rfl
    rfl
  · rcases Except.ok.inj done with rfl
    rfl
  · rcases Except.ok.inj done with rfl
    rfl

/-- An update keeps the settings of the point. -/
theorem updatedPoint_settings {object : DataObject} {now : Nat}
    {point updated : DataPoint}
    (done : updatedPoint platform object now point = .ok updated) :
    updated.settings = point.settings := by
  simp only [updatedPoint, updateDataPoint] at done
  split at done
  · split at done
    · split at done
      · simp at done
      · rename_i assigned assign
        rcases Except.ok.inj done with rfl
        have type := assignValue_dataType assign
        simp only [DataPoint.settings, DataPoint.type]
        rw [type]
    · rcases Except.ok.inj done with rfl
      rfl
  · rcases Except.ok.inj done with rfl
    rfl

theorem matchedPoint_eq_some {table : PointTable} {object : DataObject}
    {point : DataPoint} (found : matchedPoint table object = some point) :
    table.lookup object.ca object.ioa = some point ∧
      isMessageTypeMatching point.type object.type = true := by
  rw [matchedPoint, Option.filter_eq_some_iff] at found
  exact found

/-- Every CA and every entry of the table has the same settings. -/
def SameSettings (before after : PointTable) : Prop :=
  ∀ ca ioa,
    (after.lookup ca ioa).map DataPoint.settings =
      (before.lookup ca ioa).map DataPoint.settings

theorem SameSettings.refl (table : PointTable) : SameSettings table table :=
  fun _ _ => rfl

theorem SameSettings.trans {first second third : PointTable}
    (earlier : SameSettings first second)
    (later : SameSettings second third) : SameSettings first third :=
  fun ca ioa => (later ca ioa).trans (earlier ca ioa)

/-- The point at every address after a data object. -/
theorem lookup_tableAfter (table : PointTable) (object : DataObject)
    (now : Nat) (ca ioa : Int) :
    (tableAfter platform table object now).lookup ca ioa =
      if ca = object.ca ∧ ioa = object.ioa then
        match matchedPoint table object with
        | none => table.lookup ca ioa
        | some point =>
            match updatedPoint platform object now point with
            | .error _ => table.lookup ca ioa
            | .ok updated => some updated
      else
        table.lookup ca ioa := by
  rw [tableAfter]
  cases matched : matchedPoint table object with
  | none => simp
  | some point =>
      cases update : updatedPoint platform object now point with
      | error exception => simp [update]
      | ok updated =>
          have settings := updatedPoint_settings platform update
          have address :=
            PointTable.lookup_addressed (matchedPoint_eq_some matched).1
          have sameCa :=
            (DataPoint.ca_eq_of_settings settings).trans address.1
          have sameIoa :=
            (DataPoint.ioa_eq_of_settings settings).trans address.2
          simp only [update, PointTable.lookup_store, sameCa, sameIoa,
            PointTable.lookup_access]

theorem tableAfter_sameSettings (table : PointTable) (object : DataObject)
    (now : Nat) :
    SameSettings table (tableAfter platform table object now) := by
  intro ca ioa
  rw [lookup_tableAfter]
  split
  · rename_i address
    rcases address with ⟨rfl, rfl⟩
    cases matched : matchedPoint table object with
    | none => rfl
    | some point =>
        cases update : updatedPoint platform object now point with
        | error exception => simp [update]
        | ok updated =>
            rw [(matchedPoint_eq_some matched).1]
            simp [update, updatedPoint_settings platform update]
  · rfl

end Points

/-! ## Commands -/

section Commands

variable (platform : Platform) (server : IEC104Server)
  (connection : Connection) (asdu : Asdu) (checkTime rcvdTime : Nat)

/-- The handler of a command comes as far as the read of the table. -/
def readsDevice : Bool :=
  isSupportedCommandType asdu.typeId && readsTable server asdu

/-- A command reads the map of its CA and leaves the settings. -/
theorem enterAsduHandler_fields :
    let after :=
      (enterAsduHandler platform server connection asdu checkTime
        rcvdTime).server
    after.exchangeDefinitions =
        (if readsDevice server asdu then
          server.exchangeDefinitions.touchDevice asdu.ca
        else
          server.exchangeDefinitions) ∧
      after.config = server.config ∧
      after.slaveRunning = server.slaveRunning ∧
      after.operRegistered = server.operRegistered := by
  rcases
      enterAsduHandler_cases platform server connection asdu checkTime
        rcvdTime with
    ⟨io, parameters, isSelect, admissible, -, entered⟩ |
      ⟨cot, supported, -, entered⟩ | ⟨unsupported, -, entered⟩
  · have reads : readsDevice server asdu = true := by
      simp [readsDevice, readsTable, admissible.supported, admissible.south,
        admissible.cot, admissible.first]
    rw [entered, if_pos reads]
    exact ⟨rfl, rfl, rfl, rfl⟩
  · have same : readsDevice server asdu = readsTable server asdu := by
      simp [readsDevice, supported]
    rw [entered, same]
    split
    · exact ⟨rfl, rfl, rfl, rfl⟩
    · exact ⟨rfl, rfl, rfl, rfl⟩
  · rw [entered]
    simp [readsDevice, unsupported]

end Commands

/-! ## Steps -/

section Steps

variable (platform : Platform) (system : System) (event : Event)

/-- A command for a CA without points is refused when it reads the table. -/
theorem enterAsduHandler_unknownCa (server : IEC104Server)
    (connection : Connection) (asdu : Asdu) (checkTime rcvdTime : Nat)
    (reads : readsDevice server asdu = true)
    (unconfigured : ¬ server.exchangeDefinitions.HasDevice asdu.ca) :
    (enterAsduHandler platform server connection asdu checkTime
        rcvdTime).effects =
      [.sendAsdu none connection (asdu.reject Cot.unknownCa)] := by
  have device : server.exchangeDefinitions.device asdu.ca = ∅ := by
    rw [PointTable.device,
      Std.ExtTreeMap.getElem?_eq_none (by exact unconfigured)]
    rfl
  simp only [readsDevice, readsTable, Bool.and_eq_true, beq_iff_eq,
    Option.isSome_iff_exists] at reads
  rcases reads with ⟨supported, ⟨south, activation⟩, io, first⟩
  have verdict :
      (validateCommand platform server asdu checkTime).2 =
        .answer (asdu.reject Cot.unknownCa) := by
    simp [validateCommand, south, activation, first, device]
  rw [enterAsduHandler,
    ← Prod.eta (validateCommand platform server asdu checkTime), verdict]
  simp [supported]

/-- What a step leaves of the configuration. -/
theorem step_config :
    ∃ groups,
      (step platform system event).1.server.config =
        { system.server.config with
          redundancyGroups := groups
          monitoredSouthPlugins :=
            monitorsAfter platform
              system.server.config.monitoredSouthPlugins event } := by
  cases event with
  | command connection asdu checkTime rcvdTime =>
      exact
        ⟨system.server.config.redundancyGroups,
          (enterAsduHandler_fields platform system.server connection asdu
            checkTime rcvdTime).2.1⟩
  | operationReturned address result =>
      refine ⟨system.server.config.redundancyGroups, ?_⟩
      simp only [step]
      split <;> rfl
  | datapoint assetName dp now =>
      refine ⟨system.server.config.redundancyGroups, ?_⟩
      cases reads : readObject platform system.server dp with
      | none =>
          exact
            (step_datapoint_noRead platform system assetName dp now
              reads).2.1
      | some object =>
          have isObject : dp.name = "data_object" := by
            by_contra other
            simp [readObject, other] at reads
          rw [step_datapoint_read platform system assetName now reads]
          simp [monitorsAfter, isObject]
  | interrogation connection asdu qoi =>
      rcases
          interrogationHandler_sameEntries platform connection asdu qoi
            system.server with
        ⟨table, -, left⟩
      simp only [step]
      rw [left]
      exact ⟨system.server.config.redundancyGroups, rfl⟩
  | scanTimeouts currentTime =>
      exact ⟨system.server.config.redundancyGroups, rfl⟩
  | connection con peerAddress event =>
      exact
        (connectionEventHandler_onlyConnections system.server con
          peerAddress event).config
  | slaveRunning running =>
      exact ⟨system.server.config.redundancyGroups, rfl⟩
  | registerControl =>
      exact ⟨system.server.config.redundancyGroups, rfl⟩

/-- Only data points change the points of the table. -/
theorem step_lookup
    (notDatapoint :
      ∀ assetName dp now, event ≠ .datapoint assetName dp now)
    (ca ioa : Int) :
    (step platform system event).1.server.exchangeDefinitions.lookup ca ioa =
      system.server.exchangeDefinitions.lookup ca ioa := by
  cases event with
  | command connection asdu checkTime rcvdTime =>
      have left :=
        (enterAsduHandler_fields platform system.server connection asdu
          checkTime rcvdTime).1
      simp only [step]
      rw [left]
      split
      · exact PointTable.lookup_touchDevice _ _ _ _
      · rfl
  | operationReturned address result =>
      simp only [step]
      split <;> rfl
  | datapoint assetName dp now =>
      exact (notDatapoint assetName dp now rfl).elim
  | interrogation connection asdu qoi =>
      rcases
          interrogationHandler_sameEntries platform connection asdu qoi
            system.server with
        ⟨table, same, left⟩
      simp only [step]
      rw [left]
      exact same.lookup ca ioa
  | scanTimeouts currentTime => rfl
  | connection con peerAddress event =>
      have left :=
        (connectionEventHandler_onlyConnections system.server con
          peerAddress event).exchangeDefinitions
      simp only [step]
      rw [left]
  | slaveRunning running => rfl
  | registerControl => rfl

/-- No step changes what a point was imported with. -/
theorem step_sameSettings :
    SameSettings system.server.exchangeDefinitions
      (step platform system event).1.server.exchangeDefinitions := by
  by_cases datapoint :
      ∃ assetName dp now, event = .datapoint assetName dp now
  · rcases datapoint with ⟨assetName, dp, now, rfl⟩
    cases reads : readObject platform system.server dp with
    | none =>
        rw [(step_datapoint_noRead platform system assetName dp now reads).1]
        exact .refl _
    | some object =>
        rw [step_datapoint_read platform system assetName now reads]
        exact tableAfter_sameSettings platform _ object now
  · intro ca ioa
    rw [step_lookup platform system event
      fun assetName dp now isDatapoint =>
        datapoint ⟨assetName, dp, now, isDatapoint⟩]

theorem step_appLayerParameters :
    (step platform system event).1.server.config.appLayerParameters =
      system.server.config.appLayerParameters := by
  rcases step_config platform system event with ⟨groups, config⟩
  rw [config]
  rfl

end Steps

/-! ## Runs -/

section Runs

variable (platform : Platform) (start : System) (events : List Event)

/-- No run changes what a point was imported with. -/
theorem sameSettings_run :
    SameSettings start.server.exchangeDefinitions
      ((machine platform).after start
        events).server.exchangeDefinitions :=
  (machine platform).invariant_after
    (fun system =>
      SameSettings start.server.exchangeDefinitions
        system.server.exchangeDefinitions)
    (fun system event kept =>
      kept.trans (step_sameSettings platform system event))
    (.refl _) events

theorem appLayerParameters_run :
    ((machine platform).after start
        events).server.config.appLayerParameters =
      start.server.config.appLayerParameters :=
  (machine platform).invariant_after
    (fun system =>
      system.server.config.appLayerParameters =
        start.server.config.appLayerParameters)
    (fun system event kept =>
      (step_appLayerParameters platform system event).trans kept)
    rfl events

end Runs

end Iec104North.TableReads
