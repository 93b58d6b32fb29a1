import Iec104North.StationRefinement

/-!
# Commands do not see the monitoring data

Commands, connections and audits read the settings of the points and nothing
else of the table.  A data object writes the value of its point and leaves the
settings, so that the run without data objects and interrogations handles
everything else alike.  One trace is left: a data object for an address that
is not configured inserts an entry, and a command for the same CA is then
refused for another cause.  Data objects therefore have to be for configured
points.
-/

namespace Iec104North.ControlIndependence

open Iec104North.Library
open Iec104North.AsduTypes
open Iec104North.Values
open Iec104North.DataPoints
open Iec104North.Server
open Iec104North.OutstandingCommands
open Iec104North.Commands
open Iec104North.CommandPaths
open Iec104North.Readings
open Iec104North.LedgerRefinement
open Iec104North.Connections
open Iec104North.Runs
open Iec104North.TableReads
open Iec104North.TableFrame
open Iec104North.MonitoringData
open Iec104North.StepEffects
open Iec104North.StationRefinement

/-! ## Tables with the same settings -/

/-- What a command can find at an address. -/
def settingsAt (table : PointTable) (ca ioa : Int) :
    Option (Option DataPoint) :=
  (table.entryAt ca ioa).map (Option.map DataPoint.settings)

/-- Commands find the same in both tables. -/
def SameForCommands (table other : PointTable) : Prop :=
  ∀ ca ioa, settingsAt table ca ioa = settingsAt other ca ioa

namespace SameForCommands

variable {table other : PointTable}

theorem settings_lookup (same : SameForCommands table other)
    (ca ioa : Int) :
    (table.lookup ca ioa).map DataPoint.settings =
      (other.lookup ca ioa).map DataPoint.settings := by
  have joined := congrArg Option.join (same ca ioa)
  rw [settingsAt, settingsAt, Option.join_map_eq_map_join,
    Option.join_map_eq_map_join] at joined
  exact joined

/-- A device is empty when nothing is found in it. -/
theorem isEmpty_device (same : SameForCommands table other) (ca : Int) :
    (table.device ca).isEmpty = (other.device ca).isEmpty := by
  have nothing :
      ∀ table : PointTable,
        (table.device ca).isEmpty = true ↔
          ∀ ioa, settingsAt table ca ioa = none := by
    intro table
    rw [Std.ExtTreeMap.isEmpty_iff, Std.ExtTreeMap.eq_empty_iff_forall_not_mem]
    constructor
    · intro empty ioa
      have absent := empty ioa
      rw [Std.ExtTreeMap.mem_iff_isSome_getElem?, PointTable.device_entry,
        Bool.not_eq_true, Option.isSome_eq_false_iff,
        Option.isNone_iff_eq_none] at absent
      rw [settingsAt, absent]
      rfl
    · intro none ioa member
      have absent := none ioa
      rw [settingsAt, Option.map_eq_none_iff] at absent
      rw [Std.ExtTreeMap.mem_iff_isSome_getElem?, PointTable.device_entry,
        absent] at member
      exact Bool.false_ne_true member
  rw [Bool.eq_iff_iff, nothing, nothing]
  exact forall_congr' fun ioa => by rw [same]

end SameForCommands

/-- The read of a command changes no entry. -/
theorem settingsAt_touchDevice (table : PointTable) (touched ca ioa : Int) :
    settingsAt (table.touchDevice touched) ca ioa =
      settingsAt table ca ioa := by
  rw [settingsAt, settingsAt, PointTable.entryAt_touchDevice]

/-- A data object for a point leaves all settings. -/
theorem settingsAt_tableAfter (platform : Platform) {table : PointTable}
    {object : DataObject} (now : Nat)
    (configured : (table.lookup object.ca object.ioa).isSome = true)
    (ca ioa : Int) :
    settingsAt (tableAfter platform table object now) ca ioa =
      settingsAt table ca ioa := by
  have accessed :
      settingsAt (table.access object.ca object.ioa) ca ioa =
        settingsAt table ca ioa := by
    rw [settingsAt, settingsAt, PointTable.entryAt_access]
    split
    · rename_i address
      rcases Option.isSome_iff_exists.mp configured with ⟨point, found⟩
      rw [address.1, address.2, PointTable.lookup_eq_some_iff.mp found,
        found]
    · rfl
  rw [tableAfter]
  cases matched : matchedPoint table object with
  | none => exact accessed
  | some point =>
      have found := (matchedPoint_eq_some matched).1
      cases update : updatedPoint platform object now point with
      | error exception => simp only [update]
      | ok updated =>
          have settings := updatedPoint_settings platform update
          have address := PointTable.lookup_addressed found
          simp only [update]
          rw [settingsAt, PointTable.entryAt_store]
          split
          · rename_i here
            rcases here with ⟨rfl, rfl⟩
            rw [settingsAt, DataPoint.ca_eq_of_settings settings,
              DataPoint.ioa_eq_of_settings settings, address.1, address.2,
              PointTable.lookup_eq_some_iff.mp found, Option.map_some,
              Option.map_some, Option.map_some, Option.map_some, settings]
          · exact accessed

/-! ## Servers with such tables -/

/-- The server with another table. -/
abbrev withTable (server : IEC104Server) (table : PointTable) :
    IEC104Server :=
  { server with exchangeDefinitions := table }

section Handlers

variable (platform : Platform) {server : IEC104Server}
  {table : PointTable}
  (same : SameForCommands server.exchangeDefinitions table)

theorem isMatchingCommand_eq {point other : DataPoint}
    (same : point.settings = other.settings) (typeId : Int) :
    point.isMatchingCommand typeId = other.isMatchingCommand typeId := by
  rw [DataPoint.isMatchingCommand, DataPoint.isMatchingCommand,
    DataPoint.isCommand_eq_of_settings same,
    DataPoint.type_eq_of_settings same]

/-! ### Commands -/

/-- The rest of the handler does not look at the table. -/
theorem forwardCommand_withTable (forwarded : Asdu) (io : CommandObject)
    (connection : Connection) (rcvdTime : Nat) (validated : IEC104Server) :
    forwardCommand platform (withTable validated table) forwarded io
        connection rcvdTime =
      (forwardCommand platform validated forwarded io connection
        rcvdTime).map fun result =>
          (withTable result.1 table, result.2) := by
  rw [forwardCommand, forwardCommand]
  split <;> rfl

include same

/-- A command is judged alike. -/
theorem validateCommand_withTable (asdu : Asdu) (checkTime : Nat) :
    (validateCommand platform (withTable server table) asdu checkTime).2 =
      (validateCommand platform server asdu checkTime).2 := by
  have isEmpty := same.isEmpty_device asdu.ca
  have south :
      (withTable server table).checkIfSouthConnected =
        server.checkIfSouthConnected :=
    rfl
  have time :
      ∀ io,
        checkIfCmdTimeIsValid platform (withTable server table) asdu.typeId
            io checkTime =
          checkIfCmdTimeIsValid platform server asdu.typeId io checkTime :=
    fun _ => rfl
  simp only [validateCommand, south, time]
  split
  · rfl
  · split
    · rfl
    · split
      · rfl
      · rename_i io first
        have settings := same.settings_lookup asdu.ca io.objectAddress
        rw [lookup_eq_device_join, lookup_eq_device_join] at settings
        simp only [← isEmpty]
        by_cases unknownCa :
            (server.exchangeDefinitions.device asdu.ca).isEmpty = true
        · rw [if_pos unknownCa, if_pos unknownCa]
        rw [if_neg unknownCa, if_neg unknownCa]
        by_cases refused :
            (server.config.isOriginatorAllowed asdu.oa == false) = true
        · rw [if_pos refused, if_pos refused]
        rw [if_neg refused, if_neg refused]
        cases found :
            (server.exchangeDefinitions.device
              asdu.ca)[io.objectAddress]?.join with
        | none =>
            rw [found, Option.map_none, eq_comm,
              Option.map_eq_none_iff] at settings
            rw [settings]
        | some point =>
            rw [found, Option.map_some, eq_comm,
              Option.map_eq_some_iff] at settings
            rcases settings with ⟨other, there, alike⟩
            rw [there]
            dsimp only
            rw [isMatchingCommand_eq alike]
            repeat' split
            all_goals rfl

/-- A command is handled alike, and leaves the settings of its table. -/
theorem enterAsduHandler_withTable (connection : Connection) (asdu : Asdu)
    (checkTime rcvdTime : Nat) :
    ∃ read,
      (∀ ca ioa, settingsAt read ca ioa = settingsAt table ca ioa) ∧
        enterAsduHandler platform (withTable server table) connection asdu
            checkTime rcvdTime =
          { enterAsduHandler platform server connection asdu checkTime
              rcvdTime with
            server :=
              withTable
                (enterAsduHandler platform server connection asdu checkTime
                  rcvdTime).server
                read } := by
  by_cases unsupported : (isSupportedCommandType asdu.typeId == false) = true
  · refine ⟨table, fun _ _ => rfl, ?_⟩
    rw [enterAsduHandler, enterAsduHandler, if_pos unsupported,
      if_pos unsupported]
  · let read :=
      if readsTable server asdu then table.touchDevice asdu.ca else table
    have verdict := validateCommand_withTable platform same asdu checkTime
    have validated :
        (validateCommand platform (withTable server table) asdu
            checkTime).1 =
          withTable (validateCommand platform server asdu checkTime).1
            read := by
      rw [validateCommand_fst, validateCommand_fst]
      show
        (if readsTable server asdu then _ else _) =
          withTable (if readsTable server asdu then _ else _)
            (if readsTable server asdu then _ else _)
      split <;> rfl
    refine ⟨read, ?_, ?_⟩
    · intro ca ioa
      show settingsAt (if readsTable server asdu then _ else _) _ _ = _
      split
      · exact settingsAt_touchDevice table asdu.ca ca ioa
      · rfl
    · rw [enterAsduHandler, enterAsduHandler, if_neg unsupported,
        if_neg unsupported,
        ← Prod.eta (validateCommand platform (withTable server table) asdu
          checkTime),
        verdict, validated,
        ← Prod.eta (validateCommand platform server asdu checkTime)]
      cases (validateCommand platform server asdu checkTime).2 with
      | answer answer => rfl
      | answered answer => rfl
      | forward forwarded io =>
          dsimp only
          rw [forwardCommand_withTable]
          cases
            forwardCommand platform
              (validateCommand platform server asdu checkTime).1 forwarded io
              connection rcvdTime with
          | none => rfl
          | some result =>
              rcases result with ⟨added, pending, call⟩
              cases call <;> rfl

end Handlers

section Frames

variable (platform : Platform) (server : IEC104Server)
  (table : PointTable)

theorem connectionStatusAudit_withTable
    (auditType index letter : String) :
    (withTable server table).sendConnectionStatusAudit auditType index
        letter =
      (withTable
          (server.sendConnectionStatusAudit auditType index letter).1 table,
        (server.sendConnectionStatusAudit auditType index letter).2) := by
  simp only [IEC104Server.sendConnectionStatusAudit]
  split <;> rfl

theorem globalStatusAudit_withTable (auditType : String) :
    (withTable server table).sendGlobalStatusAudit auditType =
      (withTable (server.sendGlobalStatusAudit auditType).1 table,
        (server.sendGlobalStatusAudit auditType).2) := by
  simp only [IEC104Server.sendGlobalStatusAudit]
  split <;> rfl

theorem handleSlotEvent_withTable (group slot : Nat) (con : Connection)
    (what : PeerConnectionEvent) :
    handleSlotEvent (withTable server table) group slot con what =
      (withTable (handleSlotEvent server group slot con what).1 table,
        (handleSlotEvent server group slot con what).2) := by
  have label :
      slotLabel (withTable server table) group slot =
        slotLabel server group slot :=
    rfl
  cases what with
  | opened => exact connectionStatusAudit_withTable server table _ _ _
  | closed =>
      have removed :
          ∀ (removed : IEC104Server) (effects : List Effect),
            (if (withTable removed table).isAnyConnectionEstablished then
                (withTable removed table, effects)
              else
                (((withTable removed table).sendGlobalStatusAudit
                    "disconnected").1,
                  effects ++
                    ((withTable removed table).sendGlobalStatusAudit
                      "disconnected").2)) =
              let closed :=
                if removed.isAnyConnectionEstablished then
                  (removed, effects)
                else
                  ((removed.sendGlobalStatusAudit "disconnected").1,
                    effects ++
                      (removed.sendGlobalStatusAudit "disconnected").2)
              (withTable closed.1 table, closed.2) := by
        intro removed effects
        have same :
            (withTable removed table).isAnyConnectionEstablished =
              removed.isAnyConnectionEstablished :=
          rfl
        rw [same, globalStatusAudit_withTable]
        split <;> rfl
      unfold handleSlotEvent
      dsimp only
      rw [label, connectionStatusAudit_withTable]
      exact
        removed
          (removeOutstandingCommands
            (modifySlot
              (server.sendConnectionStatusAudit "disconnected"
                (slotLabel server group slot).1
                (slotLabel server group slot).2).1
              group slot fun connection => { connection with port := "" })
            con)
          _
  | activated =>
      unfold handleSlotEvent
      dsimp only
      rw [label, connectionStatusAudit_withTable]
      dsimp only
      rw [globalStatusAudit_withTable]
      rfl
  | deactivated =>
      unfold handleSlotEvent
      dsimp only
      rw [label, connectionStatusAudit_withTable]
      rfl

/-- Connection events have nothing to do with the table. -/
theorem connectionEventHandler_withTable (con : Connection)
    (peerAddress : String) (what : PeerConnectionEvent) :
    connectionEventHandler (withTable server table) con peerAddress what =
      (withTable (connectionEventHandler server con peerAddress what).1 table,
        (connectionEventHandler server con peerAddress what).2) := by
  have slot :
      slotFor (withTable server table) peerAddress =
        slotFor server peerAddress :=
    rfl
  rw [connectionEventHandler_eq, connectionEventHandler_eq, slot]
  cases slotFor server peerAddress with
  | none => rfl
  | some place =>
      have assigned :
          assignSlot (withTable server table) peerAddress place =
            withTable (assignSlot server peerAddress place) table := by
        rw [assignSlot, assignSlot]
        split <;> rfl
      dsimp only
      rw [assigned, handleSlotEvent_withTable]

/-- Neither has a data point that does not read it. -/
theorem sendDatapoint_withTable {dp : Datapoint}
    (noRead : readObject platform server dp = none) (assetName : String)
    (now : Nat) :
    ∃ processed effects,
      sendDatapoint platform server assetName dp now =
          .ok (processed, effects) ∧
        sendDatapoint platform (withTable server table) assetName dp now =
          .ok (withTable processed table, effects) := by
  by_cases south : (dp.name == "south_event") = true
  · refine ⟨handleSouthEvent platform server assetName dp, [], ?_, ?_⟩
    · rw [sendDatapoint, if_pos south]
    · rw [sendDatapoint, if_pos south]
      rfl
  by_cases isObject :
      dp.name = "data_object" ∧ server.slaveRunning = true
  · rcases isObject with ⟨name, running⟩
    rw [sendDatapoint_object platform server assetName now name running,
      sendDatapoint_object platform (withTable server table) assetName now
        name running]
    cases stands : objectFeedback (readDataObject platform dp) with
    | some feedback =>
        refine
          ⟨_, _, handleDataObject_feedback platform server now stands, ?_⟩
        rw [handleDataObject_feedback platform _ now stands]
        rcases feedback with ⟨kind, type, ca, ioa, isNegative⟩
        cases kind <;> rfl
    | none =>
        have incomplete :
            isComplete (readDataObject platform dp) = false := by
          simpa [readObject, name, running, stands] using noRead
        exact
          ⟨_, _,
            handleDataObject_incomplete platform server now stands
              incomplete,
            handleDataObject_incomplete platform _ now stands incomplete⟩
  · have idle :
        ∀ other : IEC104Server,
          other.slaveRunning = server.slaveRunning →
            sendDatapoint platform other assetName dp now =
              .ok (other, []) := by
      intro other same
      rw [sendDatapoint, if_neg south]
      split
      · rename_i name
        have stopped : ¬ other.slaveRunning = true :=
          fun running =>
            isObject ⟨beq_iff_eq.mp name, same.symm.trans running⟩
        rw [if_neg stopped]
      · rfl
    exact ⟨server, [], idle server rfl, idle (withTable server table) rfl⟩

end Frames

/-! ## Monitoring -/

/-- Data objects for points, and interrogations. -/
def isMonitoring (platform : Platform) (event : Event) : Bool :=
  match imageEventOf platform event with
  | some (.dataObject _ _) => true
  | some (.interrogation _ _ _) => true
  | _ => false

/-- The effect is neither monitoring data nor a reply to an interrogation. -/
def isControl : Effect → Bool
  | .enqueueAsdu _ => false
  | effect => !isReply effect

/-- A data object that is read is for a configured point. -/
def DeliversConfigured (platform : Platform) (imported : PointTable)
    (server : IEC104Server) : Event → Prop
  | .datapoint _ dp _ =>
      ∀ object ∈ readObject platform server dp,
        (imported.lookup object.ca object.ioa).isSome = true
  | _ => True

instance (platform : Platform) (imported : PointTable)
    (server : IEC104Server) (event : Event) :
    Decidable (DeliversConfigured platform imported server event) :=
  match event with
  | .datapoint _ dp _ =>
      inferInstanceAs
        (Decidable
          (∀ object ∈ readObject platform server dp,
            (imported.lookup object.ca object.ioa).isSome = true))
  | .command _ _ _ _ => .isTrue trivial
  | .operationReturned _ _ => .isTrue trivial
  | .interrogation _ _ _ => .isTrue trivial
  | .scanTimeouts _ => .isTrue trivial
  | .connection _ _ _ => .isTrue trivial
  | .slaveRunning _ => .isTrue trivial
  | .registerControl => .isTrue trivial

/-- Systems which differ in the values of the imported points alone. -/
structure Alike (imported : PointTable) (system other : System) : Prop where
  pending : other.pending = system.pending
  server :
    other.server =
      withTable system.server other.server.exchangeDefinitions
  here : SameForCommands system.server.exchangeDefinitions imported
  there : SameForCommands other.server.exchangeDefinitions imported

section Unwinding

variable (platform : Platform) {imported : PointTable}
  {system : System}

/-- Data points that are no monitoring do not read the table. -/
theorem noRead_of_control {assetName : String} {dp : Datapoint} {now : Nat}
    (control : isMonitoring platform (.datapoint assetName dp now) = false)
    (server : IEC104Server) : readObject platform server dp = none := by
  rw [readObject_eq platform server assetName dp now]
  rw [isMonitoring] at control
  cases image : imageEventOf platform (.datapoint assetName dp now) with
  | none => rfl
  | some imageEvent =>
      cases imageEvent with
      | dataObject object arrives => simp [image] at control
      | interrogation => rfl
      | running => rfl

/-- The other events are not seen as monitoring. -/
theorem isControl_of_mem {event : Event} {effect : Effect}
    (control : isMonitoring platform event = false)
    (member : effect ∈ (step platform system event).2) :
    isControl effect = true := by
  cases emits_of_mem_step platform member with
  | enqueue assetName dp now data =>
      have noRead := noRead_of_control platform control system.server
      exact
        ((step_datapoint_noRead platform system assetName dp now
          noRead).2.2 data member).elim
  | reply => simp [isMonitoring, imageEventOf] at control
  | handOver => rfl
  | answer => rfl
  | failure => rfl
  | actCon => rfl
  | actTerm => rfl
  | audit => rfl

/-- The other events are handled alike whatever the values of the points. -/
theorem step_withTable {event : Event} {table : PointTable}
    (control : isMonitoring platform event = false)
    (same : SameForCommands system.server.exchangeDefinitions table) :
    let stepped := step platform system event
    ∃ read,
      (∀ ca ioa, settingsAt read ca ioa = settingsAt table ca ioa) ∧
        step platform ⟨withTable system.server table, system.pending⟩ event =
          (⟨withTable stepped.1.server read, stepped.1.pending⟩,
            stepped.2) := by
  intro stepped
  have unread :
      ∀ ca ioa, settingsAt table ca ioa = settingsAt table ca ioa :=
    fun _ _ => rfl
  cases event with
  | command connection asdu checkTime rcvdTime =>
      rcases
          enterAsduHandler_withTable platform same connection asdu checkTime
            rcvdTime with
        ⟨read, settings, entered⟩
      refine ⟨read, settings, ?_⟩
      simp only [step]
      rw [entered]
      rfl
  | operationReturned address result =>
      refine ⟨table, unread, ?_⟩
      simp only [stepped, step]
      cases system.pending.find? (isPendingFor address) <;> rfl
  | datapoint assetName dp now =>
      have noRead := noRead_of_control platform control system.server
      rcases
          sendDatapoint_withTable platform system.server table noRead
            assetName now with
        ⟨processed, effects, sent, other⟩
      refine ⟨table, unread, ?_⟩
      simp only [stepped, step, sent, other]
  | interrogation => simp [isMonitoring, imageEventOf] at control
  | scanTimeouts currentTime => exact ⟨table, unread, rfl⟩
  | connection con peerAddress event =>
      refine ⟨table, unread, ?_⟩
      simp only [stepped, step]
      rw [connectionEventHandler_withTable]
  | slaveRunning running => exact ⟨table, unread, rfl⟩
  | registerControl => exact ⟨table, unread, rfl⟩

/-- The other events leave the settings. -/
theorem step_sameForCommands {event : Event}
    (control : isMonitoring platform event = false) :
    SameForCommands
      (step platform system event).1.server.exchangeDefinitions
      system.server.exchangeDefinitions := by
  have kept :
      ∀ {changed : PointTable},
        changed = system.server.exchangeDefinitions →
          SameForCommands changed system.server.exchangeDefinitions := by
    rintro changed rfl ca ioa
    rfl
  cases event with
  | command connection asdu checkTime rcvdTime =>
      intro ca ioa
      simp only [step]
      rw [(enterAsduHandler_fields platform system.server connection asdu
        checkTime rcvdTime).1]
      split
      · exact settingsAt_touchDevice _ asdu.ca ca ioa
      · rfl
  | operationReturned address result =>
      apply kept
      simp only [step]
      split <;> rfl
  | datapoint assetName dp now =>
      exact
        kept
          (step_datapoint_noRead platform system assetName dp now
            (noRead_of_control platform control system.server)).1
  | interrogation => simp [isMonitoring, imageEventOf] at control
  | scanTimeouts currentTime => exact kept rfl
  | connection con peerAddress event =>
      exact
        kept
          (connectionEventHandler_onlyConnections system.server con
            peerAddress event).exchangeDefinitions
  | slaveRunning running => exact kept rfl
  | registerControl => exact kept rfl

/-- Monitoring leaves everything but the values, and is seen as such. -/
theorem step_monitoring {event : Event}
    (monitoring : isMonitoring platform event = true)
    (configured :
      DeliversConfigured platform system.server.exchangeDefinitions
        system.server event) :
    let stepped := step platform system event
    (∃ written,
      SameForCommands written system.server.exchangeDefinitions ∧
        stepped.1 = ⟨withTable system.server written, system.pending⟩) ∧
      ∀ effect ∈ stepped.2, isControl effect = false := by
  intro stepped
  cases event with
  | datapoint assetName dp now =>
      cases reads : readObject platform system.server dp with
      | some object =>
          simp only [stepped]
          rw [step_datapoint_read platform system assetName now reads]
          refine ⟨⟨_, ?_, rfl⟩, ?_⟩
          · exact
              settingsAt_tableAfter platform now (configured object reads)
          · intro effect member
            rcases enqueuedFor_enqueues platform member with ⟨data, rfl⟩
            rfl
      | none =>
          have idle :
              step platform system (.datapoint assetName dp now) =
                (system, []) := by
            rw [readObject_eq platform system.server assetName dp now]
              at reads
            rw [isMonitoring] at monitoring
            simp only [imageEventOf] at monitoring reads
            split at monitoring
            · rename_i object arrives isObject
              split at isObject
              · rename_i reach
                rw [if_pos reach] at reads
                have stopped : ¬ system.server.slaveRunning = true := by
                  simpa using reads
                simp [step, sendDatapoint, reach.1, stopped]
              · simp at isObject
            · rename_i isInterrogation
              split at isInterrogation <;> simp at isInterrogation
            · simp at monitoring
          simp only [stepped, idle]
          exact
            ⟨⟨system.server.exchangeDefinitions, fun _ _ => rfl, rfl⟩,
              fun _ member => (List.not_mem_nil member).elim⟩
  | interrogation connection asdu qoi =>
      refine
        ⟨⟨system.server.exchangeDefinitions, fun _ _ => rfl,
          step_interrogation_fst platform system connection asdu qoi⟩, ?_⟩
      intro effect member
      have reply := isReply_of_emits (emits_of_mem_step platform member)
      cases effect with
      | enqueueAsdu => rfl
      | _ => exact congrArg (!·) reply
  | _ => simp [isMonitoring, imageEventOf] at monitoring

/-- The run and the run without monitoring walk in step. -/
theorem server_unwinding :
    Unwinding (machine platform) (Alike imported)
      (fun system event =>
        DeliversConfigured platform imported system.server event)
      (fun event => !isMonitoring platform event) isControl where
  kept := by
    intro system other event alike configured keeps
    have control : isMonitoring platform event = false := by
      simpa using keeps
    have same :
        SameForCommands system.server.exchangeDefinitions
          other.server.exchangeDefinitions :=
      fun ca ioa => (alike.here ca ioa).trans (alike.there ca ioa).symm
    rcases step_withTable platform control same with
      ⟨read, settings, stepped⟩
    have isOther :
        other =
          ⟨withTable system.server other.server.exchangeDefinitions,
            system.pending⟩ := by
      rw [← alike.server, ← alike.pending]
    rw [machine_step, machine_step, isOther, stepped]
    refine ⟨⟨rfl, rfl, ?_, ?_⟩, ?_⟩
    · intro ca ioa
      rw [step_sameForCommands platform control, alike.here]
    · intro ca ioa
      show settingsAt read ca ioa = _
      rw [settings, alike.there]
    · rw [List.filter_eq_self]
      exact fun effect member => isControl_of_mem platform control member
  purged := by
    intro system other event alike configured purges
    have monitoring : isMonitoring platform event = true := by
      simpa using purges
    have present :
        DeliversConfigured platform system.server.exchangeDefinitions
          system.server event := by
      cases event with
      | datapoint assetName dp now =>
          intro object reads
          have settings := alike.here.settings_lookup object.ca object.ioa
          have isPoint := configured object reads
          rw [← Option.isSome_map, ← settings, Option.isSome_map] at isPoint
          exact isPoint
      | _ => trivial
    rcases step_monitoring platform monitoring present with
      ⟨⟨written, same, stepped⟩, seen⟩
    rw [machine_step, stepped]
    refine ⟨⟨alike.pending, alike.server, ?_, alike.there⟩, ?_⟩
    · intro ca ioa
      exact (same ca ioa).trans (alike.here ca ioa)
    · rw [List.filter_eq_nil_iff]
      intro effect member
      rw [seen effect member]
      exact Bool.false_ne_true

/-- A data object for an unknown CA changes how a command is refused. -/
example :
    let object : Datapoint :=
      { sampleReading 10 1 with
        attributes :=
          (sampleReading 10 1).attributes ++ [⟨"do_ca", .integer 9⟩] }
    let command : Event := .command 1 { sampleCommand with ca := 9 } 0 0
    let refused (cot : CauseOfTransmission) : Effect :=
      .sendAsdu none 1 ({ sampleCommand with ca := 9 }.reject cot)
    (machine samplePlatform).outputs sampleSystem [command] =
        [refused Cot.unknownCa] ∧
      (machine samplePlatform).outputs sampleSystem
          [.datapoint "south" object 0, command] =
        [refused Cot.unknownIoa] := by
  decide

end Unwinding

end Iec104North.ControlIndependence
