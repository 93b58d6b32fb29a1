import Iec104North.CommandOutcomes
import Iec104North.TableReads

/-!
# Authorised commands

A command gets to the control callback exactly when it is authorised by the
imported configuration, the imported table and the history of south events.
The connection status of a monitored asset is the last one delivered for it.
-/

namespace Iec104North.Authorisation

open Iec104North.Library
open Iec104North.AsduTypes
open Iec104North.Values
open Iec104North.Config
open Iec104North.DataPoints
open Iec104North.Server
open Iec104North.Server.IEC104Server
open Iec104North.OutstandingCommands
open Iec104North.Commands
open Iec104North.CommandPaths
open Iec104North.CommandOutcomes
open Iec104North.Readings
open Iec104North.Runs
open Iec104North.TableReads

/-! ## The connection status of a south plugin -/

section SouthStatus

variable (platform : Platform)

/-- The connection statuses in a list of attributes, in order. -/
def connxStatuses (attributes : List Attribute) : List String :=
  (attributes.filter fun objDp => objDp.name == "connx_status").map
    fun objDp => platform.toStringValue objDp.value

/-- The connection statuses an event delivers for an asset. -/
def deliveredStatuses (asset : String) : Event → List String
  | .datapoint assetName dp _ =>
      if dp.name = "south_event" ∧ assetName = asset then
        connxStatuses platform dp.attributes
      else
        []
  | _ => []

/-- The connection statuses a run delivers for an asset. -/
def statusHistory (events : List Event) (asset : String) : List String :=
  events.flatMap (deliveredStatuses platform asset)

/-- The connection status after a history of delivered ones. -/
def lastStatus (history : List String) : ConnectionStatus :=
  (history.getLast?.map connxStatusOf).getD .notConnected

theorem connxStatusOf_eq_started (value : String) :
    connxStatusOf value = .started ↔ value = "started" := by
  rw [connxStatusOf]
  split
  · rename_i notConnected
    simp only [beq_iff_eq] at notConnected
    simp [notConnected]
  · split
    · rename_i started
      simpa using started
    · rename_i other
      simpa using other

theorem lastStatus_eq_started (history : List String) :
    lastStatus history = .started ↔ history.getLast? = some "started" := by
  rw [lastStatus]
  cases history.getLast? with
  | none => simp
  | some value => simp [connxStatusOf_eq_started]

theorem lastStatus_append (earlier later : List String) :
    lastStatus (earlier ++ later) =
      (later.getLast?.map connxStatusOf).getD (lastStatus earlier) := by
  rw [lastStatus, List.getLast?_append]
  cases later.getLast? <;> rfl

theorem connxStatus_updateSouthMonitor (monitor : SouthPluginMonitor)
    (objDp : Attribute) :
    (updateSouthMonitor platform monitor objDp).connxStatus =
      if objDp.name = "connx_status" then
        connxStatusOf (platform.toStringValue objDp.value)
      else
        monitor.connxStatus := by
  simp only [updateSouthMonitor, beq_iff_eq]
  split
  · rfl
  · split <;> rfl

/-- A south event leaves the last status it delivers. -/
theorem connxStatus_foldl (attributes : List Attribute)
    (monitor : SouthPluginMonitor) :
    (attributes.foldl (updateSouthMonitor platform) monitor).connxStatus =
      ((connxStatuses platform attributes).getLast?.map
        connxStatusOf).getD monitor.connxStatus := by
  induction attributes using List.reverseRecOn with
  | nil => rfl
  | append_singleton attributes objDp ih =>
      rw [List.foldl_append, List.foldl_cons, List.foldl_nil,
        connxStatus_updateSouthMonitor, ih]
      by_cases isConnx : objDp.name = "connx_status"
      · simp [connxStatuses, isConnx]
      · simp [connxStatuses, isConnx]

theorem assetName_update (dp : Datapoint) (monitor : SouthPluginMonitor) :
    (updateSouthMonitoringInstance platform dp monitor).assetName =
      monitor.assetName := by
  rw [updateSouthMonitoringInstance]
  induction dp.attributes generalizing monitor with
  | nil => rfl
  | cons objDp rest ih =>
      rw [List.foldl_cons, ih, updateSouthMonitor]
      split
      · rfl
      · split <;> rfl

end SouthStatus

/-! ## The monitored south plugins -/

/--
The first monitor of each asset has a given status, the other ones are never
updated.  `seen` lists the assets of the monitors in front.
-/
def Reflects (status : String → ConnectionStatus) :
    List String → List SouthPluginMonitor → Prop
  | _, [] => True
  | seen, monitor :: rest =>
      monitor.connxStatus =
          (if monitor.assetName ∈ seen then .notConnected
          else status monitor.assetName) ∧
        Reflects status (monitor.assetName :: seen) rest

namespace Reflects

variable {status changed : String → ConnectionStatus}
  {seen : List String} {monitors : List SouthPluginMonitor}

/-- The status of an asset in front does not matter. -/
theorem congr (reflects : Reflects status seen monitors)
    (same : ∀ asset, asset ∉ seen → changed asset = status asset) :
    Reflects changed seen monitors := by
  induction monitors generalizing seen with
  | nil => trivial
  | cons monitor rest ih =>
      rcases reflects with ⟨head, tail⟩
      refine ⟨?_, ih tail fun asset outside => same asset ?_⟩
      · rw [head]
        split
        · rfl
        · rename_i outside
          exact (same _ outside).symm
      · exact fun inside => outside (by simp [inside])

/-- An update of the first monitor of an asset. -/
theorem alterFirst (reflects : Reflects status seen monitors)
    {asset : String} (outside : asset ∉ seen)
    {update : SouthPluginMonitor → SouthPluginMonitor}
    (assetName :
      ∀ monitor : SouthPluginMonitor,
        (update monitor).assetName = monitor.assetName)
    (updated :
      ∀ monitor : SouthPluginMonitor,
        monitor.connxStatus = status asset →
          (update monitor).connxStatus = changed asset)
    (others : ∀ other, other ≠ asset → changed other = status other) :
    Reflects changed seen
      (alterFirst (fun monitor => asset == monitor.assetName)
        (fun monitor => some (update monitor)) monitors) := by
  induction monitors generalizing seen with
  | nil => trivial
  | cons monitor rest ih =>
      rcases reflects with ⟨head, tail⟩
      by_cases isAsset : asset = monitor.assetName
      · subst isAsset
        rw [if_neg outside] at head
        simp only [Library.alterFirst, beq_self_eq_true, if_true]
        constructor
        · rw [assetName, if_neg outside]
          exact updated monitor head
        · rw [assetName]
          refine tail.congr fun other notSeen => others other ?_
          rintro rfl
          exact notSeen (by simp)
      · have noMatch : (asset == monitor.assetName) = false := by
          simpa using isAsset
        simp only [Library.alterFirst, noMatch, Bool.false_eq_true, if_false]
        refine ⟨?_, ih tail ?_⟩
        · rw [head, others _ (Ne.symm isAsset)]
        · simpa [isAsset] using outside

/-- A started monitor is the first one of an asset with that status. -/
theorem exists_started_iff (reflects : Reflects status seen monitors) :
    (∃ monitor ∈ monitors, monitor.connxStatus = .started) ↔
      ∃ monitor ∈ monitors,
        monitor.assetName ∉ seen ∧ status monitor.assetName = .started := by
  induction monitors generalizing seen with
  | nil => simp
  | cons monitor rest ih =>
      rcases reflects with ⟨head, tail⟩
      have later := ih tail
      rw [List.exists_mem_cons_iff, List.exists_mem_cons_iff, later]
      simp only [List.mem_cons, not_or]
      constructor
      · rintro (started | ⟨other, member, ⟨-, outside⟩, started⟩)
        · left
          rw [head] at started
          split at started
          · simp at started
          · rename_i outside
            exact ⟨outside, started⟩
        · exact .inr ⟨other, member, outside, started⟩
      · rintro (⟨outside, started⟩ | ⟨other, member, outside, started⟩)
        · left
          rw [head, if_neg outside, started]
        · by_cases same : other.assetName = monitor.assetName
          · left
            rw [same] at outside started
            rw [head, if_neg outside, started]
          · exact .inr ⟨other, member, ⟨same, outside⟩, started⟩

end Reflects

/-! ## Runs -/

section Runs

variable (platform : Platform) (start : System)

/-- The status of every asset after a run. -/
def statusAfter (events : List Event) (asset : String) : ConnectionStatus :=
  lastStatus (statusHistory platform events asset)

/-- The step lemma for the monitored south plugins. -/
theorem monitorsAfter_reflects {events : List Event}
    {monitors : List SouthPluginMonitor}
    (reflects : Reflects (statusAfter platform events) [] monitors)
    (event : Event) :
    Reflects (statusAfter platform (events ++ [event])) []
      (monitorsAfter platform monitors event) := by
  have history :
      ∀ asset,
        statusAfter platform (events ++ [event]) asset =
          lastStatus
            (statusHistory platform events asset ++
              deliveredStatuses platform asset event) := by
    intro asset
    simp [statusAfter, statusHistory]
  by_cases south :
      ∃ assetName dp now,
        event = .datapoint assetName dp now ∧ dp.name = "south_event"
  · rcases south with ⟨assetName, dp, now, rfl, name⟩
    simp only [monitorsAfter, name, if_true]
    apply reflects.alterFirst (by simp) (assetName_update platform dp)
    · intro monitor before
      rw [history, lastStatus_append, updateSouthMonitoringInstance,
        connxStatus_foldl, before]
      simp [deliveredStatuses, name, statusAfter]
    · intro other apart
      rw [history]
      simp [deliveredStatuses, apart.symm, statusAfter]
  · have silent : ∀ asset, deliveredStatuses platform asset event = [] := by
      intro asset
      cases event with
      | datapoint assetName dp now =>
          have name : dp.name ≠ "south_event" :=
            fun name => south ⟨assetName, dp, now, rfl, name⟩
          simp [deliveredStatuses, name]
      | _ => rfl
    have same : monitorsAfter platform monitors event = monitors := by
      cases event with
      | datapoint assetName dp now =>
          have name : dp.name ≠ "south_event" :=
            fun name => south ⟨assetName, dp, now, rfl, name⟩
          simp [monitorsAfter, name]
      | _ => rfl
    rw [same]
    refine reflects.congr fun asset _ => ?_
    rw [history, silent, List.append_nil]
    rfl

theorem monitorsAfter_assetNames (monitors : List SouthPluginMonitor)
    (event : Event) :
    (monitorsAfter platform monitors event).map
        SouthPluginMonitor.assetName =
      monitors.map SouthPluginMonitor.assetName := by
  cases event with
  | datapoint assetName dp now =>
      simp only [monitorsAfter]
      split
      · exact map_alterFirst_update _ _ (assetName_update platform dp) _
      · rfl
  | _ => rfl

/--
What a state reached from `start` still has of its configuration, and what the
events have made of the monitored south plugins.
-/
def Reached (events : List Event) (system : System) : Prop :=
  ∃ groups monitors,
    system.server.config =
        { start.server.config with
          redundancyGroups := groups
          monitoredSouthPlugins := monitors } ∧
      monitors.map SouthPluginMonitor.assetName =
        start.server.config.monitoredSouthPlugins.map
          SouthPluginMonitor.assetName ∧
      Reflects (statusAfter platform events) [] monitors

/-- Before the first event no asset has a status. -/
theorem reflects_notConnected (seen : List String)
    (monitors : List SouthPluginMonitor)
    (initial :
      ∀ monitor ∈ monitors, monitor.connxStatus = .notConnected) :
    Reflects (statusAfter platform []) seen monitors := by
  induction monitors generalizing seen with
  | nil => trivial
  | cons monitor rest ih =>
      refine ⟨?_, ih _ fun other member => initial other (by simp [member])⟩
      rw [initial monitor (by simp)]
      split <;> rfl

/-- The run lemma. -/
theorem reached_run
    (initial :
      ∀ monitor ∈ start.server.config.monitoredSouthPlugins,
        monitor.connxStatus = .notConnected)
    (events : List Event) :
    Reached platform start events
      ((machine platform).after start events) := by
  induction events using List.reverseRecOn with
  | nil =>
      exact ⟨_, _, rfl, rfl, reflects_notConnected platform [] _ initial⟩
  | append_singleton events event ih =>
      rcases ih with ⟨groups, monitors, config, names, reflects⟩
      rcases
          step_config platform ((machine platform).after start events)
            event with
        ⟨moreGroups, moreConfig⟩
      rw [Machine.after_append]
      refine ⟨moreGroups, monitorsAfter platform monitors event, ?_, ?_,
        monitorsAfter_reflects platform reflects event⟩
      · simp only [Machine.after_cons, Machine.after_nil, machine_step]
        rw [moreConfig, config]
      · rw [monitorsAfter_assetNames, names]

/-- Some monitored asset was last delivered the status "started". -/
def SouthStarted (events : List Event) : Prop :=
  ∃ monitor ∈ start.server.config.monitoredSouthPlugins,
    (statusHistory platform events monitor.assetName).getLast? =
      some "started"

variable {platform start} {events : List Event} {system : System}

theorem Reached.checkIfSouthConnected_iff
    (reached : Reached platform start events system) :
    system.server.checkIfSouthConnected = true ↔
      SouthStarted platform start events := by
  rcases reached with ⟨groups, monitors, config, names, reflects⟩
  have started :
      ∀ list : List SouthPluginMonitor,
        (∃ monitor ∈ list,
            statusAfter platform events monitor.assetName = .started) ↔
          ∃ asset ∈ list.map SouthPluginMonitor.assetName,
            statusAfter platform events asset = .started := by
    simp
  have first := reflects.exists_started_iff
  simp only [List.not_mem_nil, not_false_eq_true, true_and] at first
  rw [checkIfSouthConnected, config, List.any_eq_true]
  simp only [beq_iff_eq]
  rw [first, started, names, ← started, SouthStarted]
  simp only [statusAfter, lastStatus_eq_started]

end Runs

/-! ## Authorised commands -/

section Commands

variable {platform : Platform} {start : System} {events : List Event}

/-- A command with time tag is tested for its time unless there is no limit. -/
theorem checkIfCmdTimeIsValid_iff (server : IEC104Server) {typeId : Int}
    (timed : isCommandWithTimestamp typeId = true) (io : CommandObject)
    (currentTime : Nat) :
    checkIfCmdTimeIsValid platform server typeId io currentTime = true ↔
      server.config.cmdRecvTimeout = 0 ∨
        checkTimestamp platform server io.timestamp currentTime = true := by
  by_cases unlimited : server.config.cmdRecvTimeout = 0
  · simp [checkIfCmdTimeIsValid, unlimited]
  · cases found : TypeId.ofInt? typeId with
    | none => simp [isCommandWithTimestamp, found] at timed
    | some named =>
        rw [isCommandWithTimestamp, found] at timed
        simp only [checkIfCmdTimeIsValid, beq_iff_eq, unlimited, if_false,
          false_or, found]
        cases named
        all_goals
          first
          | rfl
          | exact (Bool.false_ne_true timed).elim

/-- The time tag of a command, or its absence, is allowed. -/
def TimeAllowed (platform : Platform) (server : IEC104Server)
    (asdu : Asdu) (io : CommandObject) (checkTime : Nat) : Prop :=
  (isCommandWithTimestamp asdu.typeId = false ∧
      server.config.allowCmdWithoutTime = true) ∨
    (isCommandWithTimestamp asdu.typeId = true ∧
      server.config.allowCmdWithTime = true ∧
      (server.config.cmdRecvTimeout = 0 ∨
        checkTimestamp platform server io.timestamp checkTime = true))

theorem timeAccepted_iff (server : IEC104Server) (asdu : Asdu)
    (io : CommandObject) (checkTime : Nat) :
    TimeAccepted platform server asdu io checkTime ↔
      TimeAllowed platform server asdu io checkTime := by
  rw [TimeAccepted, TimeAllowed]
  by_cases timed : isCommandWithTimestamp asdu.typeId = true
  · simp [timed, checkIfCmdTimeIsValid_iff server timed io checkTime]
  · simp [timed]

/--
What a command needs to be handed to the control callback, in terms of the
imported configuration, the imported table and the events so far.
-/
structure Authorised (platform : Platform) (start : System)
    (events : List Event) (asdu : Asdu) (checkTime : Nat) : Prop where
  supported : isSupportedCommandType asdu.typeId = true
  south : SouthStarted platform start events
  cot : asdu.cot = Cot.activation
  configured : start.server.exchangeDefinitions.HasDevice asdu.ca
  originator : start.server.config.isOriginatorAllowed asdu.oa = true
  object :
    ∃ io,
      asdu.elements.head? = some io ∧
        (∃ point,
          start.server.exchangeDefinitions.lookup asdu.ca
              io.objectAddress = some point ∧
            point.isCommand = true ∧
            typeIdToDataType asdu.typeId = some point.type) ∧
        TimeAllowed platform start.server asdu io checkTime

/-- Points with the same settings take the same commands. -/
theorem isMatchingCommand_of_settings {point other : DataPoint}
    (same : point.settings = other.settings) (typeId : Int) :
    point.isMatchingCommand typeId = other.isMatchingCommand typeId := by
  rw [DataPoint.isMatchingCommand, DataPoint.isMatchingCommand,
    DataPoint.isCommand_eq_of_settings same,
    DataPoint.type_eq_of_settings same]

theorem exists_matching_iff {before after : PointTable}
    (same : SameSettings before after) (ca ioa typeId : Int) :
    (∃ point,
        after.lookup ca ioa = some point ∧
          point.isMatchingCommand typeId = true) ↔
      ∃ point,
        before.lookup ca ioa = some point ∧
          point.isMatchingCommand typeId = true := by
  have settings := same ca ioa
  cases old : before.lookup ca ioa with
  | none =>
      rw [old, Option.map_none, Option.map_eq_none_iff] at settings
      simp [settings]
  | some point =>
      rw [old, Option.map_some, Option.map_eq_some_iff] at settings
      rcases settings with ⟨other, found, equal⟩
      simp [found, isMatchingCommand_of_settings equal]

/-- In a reached state the admissible commands are the authorised ones. -/
theorem Reached.admissible_iff {system : System}
    (reached : Reached platform start events system)
    (settings :
      SameSettings start.server.exchangeDefinitions
        system.server.exchangeDefinitions)
    (asdu : Asdu) (checkTime : Nat) :
    (∃ io, Admissible platform system.server asdu io checkTime) ↔
      Authorised platform start events asdu checkTime := by
  have south := reached.checkIfSouthConnected_iff
  have points := exists_matching_iff settings asdu.ca
  rcases reached with ⟨groups, monitors, config, -⟩
  have time :
      ∀ io,
        TimeAllowed platform system.server asdu io checkTime ↔
          TimeAllowed platform start.server asdu io checkTime := by
    intro io
    simp only [TimeAllowed, IEC104Config.allowCmdWithoutTime,
      IEC104Config.allowCmdWithTime, checkTimestamp, config]
  have originator :
      system.server.config.isOriginatorAllowed asdu.oa =
        start.server.config.isOriginatorAllowed asdu.oa := by
    simp only [IEC104Config.isOriginatorAllowed, config]
  constructor
  · rintro ⟨io, admissible⟩
    rcases (points io.objectAddress asdu.typeId).mp admissible.point with
      ⟨point, found, matching⟩
    have parts := (point.isMatchingCommand_iff asdu.typeId).mp matching
    exact
      { supported := parts.2.1
        south := south.mp admissible.south
        cot := admissible.cot
        configured :=
          PointTable.hasDevice_of_entryAt
            (PointTable.lookup_eq_some_iff.mp found)
        originator := originator ▸ admissible.originator
        object :=
          ⟨io, admissible.first, ⟨point, found, parts.1, parts.2.2⟩,
            (time io).mp ((timeAccepted_iff _ _ _ _).mp admissible.time)⟩ }
  · intro authorised
    rcases authorised.object with
      ⟨io, first, ⟨point, found, isCommand, type⟩, allowed⟩
    have matching :=
      (point.isMatchingCommand_iff asdu.typeId).mpr
        ⟨isCommand, authorised.supported, type⟩
    exact
      ⟨io,
        { south := south.mpr authorised.south
          cot := authorised.cot
          first := first
          originator := originator ▸ authorised.originator
          point :=
            (points io.objectAddress asdu.typeId).mpr
              ⟨point, found, matching⟩
          time := (timeAccepted_iff _ _ _ _).mpr ((time io).mpr allowed) }⟩

/-- The effect is a call of the control callback. -/
def isCall : Effect → Bool
  | .operation _ => true
  | _ => false

/--
In every reached state the control callback gets exactly the authorised
commands, each of them once, and every other supported command gets one
negative reply on its connection.
-/
theorem command_handedOver_iff (platform : Platform) (start : System)
    (initial :
      ∀ monitor ∈ start.server.config.monitoredSouthPlugins,
        monitor.connxStatus = .notConnected)
    (events : List Event) (connection : Connection) (asdu : Asdu)
    (checkTime rcvdTime : Nat) (result : Int) :
    let server := ((machine platform).after start events).server
    let effects :=
      (asduHandler platform server connection asdu checkTime rcvdTime
        result).2.2
    ((∃ call,
        .operation call ∈ effects ∧ call.operation = "IEC104Command") ↔
      server.operRegistered = true ∧
        Authorised platform start events asdu checkTime) ∧
    (server.operRegistered = true →
      Authorised platform start events asdu checkTime →
        ∃ call,
          call.operation = "IEC104Command" ∧
            effects.filter isCall = [.operation call]) ∧
    (isSupportedCommandType asdu.typeId = true →
      ¬ (server.operRegistered = true ∧
          Authorised platform start events asdu checkTime ∧ 0 < result) →
        ∃ command answer,
          effects.filter isReply = [.sendAsdu command connection answer] ∧
            answer.isNegative = true) := by
  intro server effects
  have authorised_iff :
      (∃ io, Admissible platform server asdu io checkTime) ↔
        Authorised platform start events asdu checkTime :=
    (reached_run platform start initial events).admissible_iff
      (sameSettings_run platform start events) asdu checkTime
  by_cases authorised : Authorised platform start events asdu checkTime
  · rcases authorised_iff.mpr authorised with ⟨io, admissible⟩
    rcases
        asduHandler_admissible platform server connection asdu checkTime
          rcvdTime result admissible with
      ⟨parameters, isSelect, -, handled⟩
    have made :
        effects =
          (if server.operRegistered then
              [.operation (commandCall server parameters)]
            else
              []) ++
            if server.operRegistered = true ∧ 0 < result then []
            else [refusal server connection asdu rcvdTime isSelect] := by
      simp only [effects, handled]
    by_cases registered : server.operRegistered = true
    · by_cases success : 0 < result
      · rw [if_pos registered, if_pos ⟨registered, success⟩] at made
        rw [made]
        refine ⟨?_, fun _ _ => ⟨commandCall server parameters, rfl, rfl⟩, ?_⟩
        · simp [registered, authorised, commandCall]
        · exact fun _ failed => (failed ⟨registered, authorised, success⟩).elim
      · rw [if_pos registered, if_neg fun both => success both.2] at made
        rw [made]
        refine ⟨?_, fun _ _ => ⟨commandCall server parameters, rfl, rfl⟩,
          fun _ _ => ⟨_, _, rfl, rfl⟩⟩
        simp [registered, authorised, commandCall]
    · rw [if_neg registered, if_neg fun both => registered both.1] at made
      rw [made]
      refine ⟨?_, fun isRegistered => (registered isRegistered).elim,
        fun _ _ => ⟨_, _, rfl, rfl⟩⟩
      simp [registered, refusal]
  · have inadmissible :=
      fun admissible => authorised (authorised_iff.mp admissible)
    by_cases supported : isSupportedCommandType asdu.typeId = true
    · rcases
          enterAsduHandler_rejected platform server connection asdu checkTime
            rcvdTime supported inadmissible with
        ⟨cot, entered⟩
      have made :
          effects = [.sendAsdu none connection (asdu.reject cot)] := by
        simp only [effects, asduHandler, entered]
      rw [made]
      refine ⟨?_, fun _ isAuthorised => (authorised isAuthorised).elim,
        fun _ _ => ⟨_, _, rfl, rfl⟩⟩
      simp [authorised]
    · have made : effects = [] := by
        simp only [effects, asduHandler,
          enterAsduHandler_unsupported platform server connection asdu
            checkTime rcvdTime (by simpa using supported)]
      rw [made]
      simp [authorised, supported]

end Commands

/-- `sampleSystem` before its south plugin is connected. -/
def sampleUnconnected : System where
  server :=
    { sampleServer with
      config :=
        { sampleServer.config with
          monitoredSouthPlugins := [⟨"south", .notConnected, .idle⟩] } }

/-- The south event that connects it. -/
def sampleConnected : List Event :=
  [.datapoint "south"
    ⟨"south_event", [⟨"connx_status", .string "started"⟩]⟩ 0]

theorem authorised_sample :
    Authorised samplePlatform sampleUnconnected sampleConnected sampleCommand
      0 where
  supported := by decide
  south := ⟨⟨"south", .notConnected, .idle⟩, by decide, by decide⟩
  cot := rfl
  configured := by decide
  originator := by decide
  object :=
    ⟨⟨20, 0x01, 0, 0, samplePlatform.createFromMsTimestamp 0⟩, rfl,
      ⟨DataPoint.create "TC" 1 20 .sp true 0, by decide, rfl, by decide⟩,
      .inl ⟨by decide, by decide⟩⟩

theorem command_handedOver_iff_sample :
    ∃ call,
      .operation call ∈
          (asduHandler samplePlatform
            ((machine samplePlatform).after sampleUnconnected
              sampleConnected).server 1 sampleCommand 0 0 1).2.2 ∧
        call.operation = "IEC104Command" :=
  (command_handedOver_iff samplePlatform sampleUnconnected (by decide)
    sampleConnected 1 sampleCommand 0 0 1).1.mpr
    ⟨rfl, authorised_sample⟩

end Iec104North.Authorisation
