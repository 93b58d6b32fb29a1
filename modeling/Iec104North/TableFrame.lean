import Iec104North.ImportExchange
import Iec104North.TableReads

/-!
# The keys of the table of points

`operator[]` inserts the key it does not find.  The keys of
`m_exchangeDefinitions` therefore stay the imported ones exactly in the runs
whose commands and data objects only read configured addresses.
-/

namespace Iec104North.TableFrame

open Iec104North.Library
open Iec104North.AsduTypes
open Iec104North.Values
open Iec104North.DataPoints
open Iec104North.Server
open Iec104North.Commands
open Iec104North.CommandPaths
open Iec104North.Readings
open Iec104North.Interrogation
open Iec104North.ImportExchange
open Iec104North.Runs
open Iec104North.TableReads

/-! ## Tables with the same keys -/

/-- No entry of the table is a null pointer. -/
def NoNull (table : PointTable) : Prop :=
  ∀ ca ioa, table.entryAt ca ioa ≠ some none

theorem NoNull.empty : NoNull PointTable.empty := by
  intro ca ioa
  simp

theorem NoNull.store {table : PointTable} (noNull : NoNull table)
    (point : DataPoint) : NoNull (table.store point) := by
  intro ca ioa
  rw [PointTable.entryAt_store]
  split
  · simp
  · exact noNull ca ioa

/-- The importer writes points only. -/
theorem noNull_importExchangeConfig (document : Option Json) :
    NoNull (importExchangeConfig document) := by
  rw [importExchangeConfig]
  exact
    (definitions document).foldlRecOn _ NoNull.empty
      fun table noNull definition _ => noNull.store definition.dataPoint

/-- The table has the keys of the imported one, and no null pointer. -/
structure SameKeys (imported current : PointTable) : Prop where
  devices : ∀ ca, current.HasDevice ca ↔ imported.HasDevice ca
  entries :
    ∀ ca ioa,
      (current.entryAt ca ioa).isSome = (imported.entryAt ca ioa).isSome
  notNull : NoNull current

namespace SameKeys

variable {imported current : PointTable}

theorem refl (notNull : NoNull imported) : SameKeys imported imported :=
  ⟨fun _ => Iff.rfl, fun _ _ => rfl, notNull⟩

theorem of_sameEntries {after : PointTable}
    (same : SameKeys imported current)
    (entries : SameEntries current after) : SameKeys imported after where
  devices ca := (entries.devices ca).trans (same.devices ca)
  entries ca ioa := by rw [entries.entries, same.entries]
  notNull ca ioa := by
    rw [entries.entries]
    exact same.notNull ca ioa

/-- A present entry is a point. -/
theorem lookup_isSome (same : SameKeys imported current) {ca ioa : Int}
    (present : (imported.entryAt ca ioa).isSome = true) :
    ∃ point, current.entryAt ca ioa = some (some point) := by
  rw [← same.entries] at present
  rcases Option.isSome_iff_exists.mp present with ⟨entry, found⟩
  cases entry with
  | none => exact (same.notNull ca ioa found).elim
  | some point => exact ⟨point, found⟩

/-- The read of a command keeps the keys when its CA is configured. -/
theorem touchDevice_iff (same : SameKeys imported current) (ca : Int) :
    SameKeys imported (current.touchDevice ca) ↔ imported.HasDevice ca := by
  constructor
  · intro kept
    exact
      (kept.devices ca).mp
        ((PointTable.hasDevice_touchDevice _ _ _).mpr (.inl rfl))
  · intro configured
    exact same.of_sameEntries
      (.touchDevice ((same.devices ca).mpr configured))

/-- Writing a point to an entry that is there keeps the keys. -/
theorem store (same : SameKeys imported current) {point : DataPoint}
    (present : (imported.entryAt point.ca point.ioa).isSome = true) :
    SameKeys imported (current.store point) := by
  rcases same.lookup_isSome present with ⟨stored, found⟩
  refine ⟨?_, ?_, same.notNull.store point⟩
  · intro ca
    rw [PointTable.hasDevice_store, ← same.devices ca]
    apply or_iff_right_of_imp
    rintro rfl
    exact PointTable.hasDevice_of_entryAt found
  · intro ca ioa
    rw [PointTable.entryAt_store]
    split
    · rename_i address
      rcases address with ⟨rfl, rfl⟩
      rw [present]
      rfl
    · exact same.entries ca ioa

/-- Reading an entry keeps the keys when it is there. -/
theorem access_iff (same : SameKeys imported current) (ca ioa : Int) :
    SameKeys imported (current.access ca ioa) ↔
      (imported.entryAt ca ioa).isSome = true := by
  constructor
  · intro kept
    rw [← kept.entries, PointTable.entryAt_access]
    simp
  · intro present
    rcases same.lookup_isSome present with ⟨point, found⟩
    have value : current.lookup ca ioa = some point :=
      PointTable.lookup_eq_some_iff.mpr found
    refine same.of_sameEntries ⟨?_, ?_⟩
    · intro other
      rw [PointTable.hasDevice_access]
      apply or_iff_right_of_imp
      rintro rfl
      exact PointTable.hasDevice_of_entryAt found
    · intro other otherIoa
      rw [PointTable.entryAt_access]
      split
      · rename_i address
        rcases address with ⟨rfl, rfl⟩
        rw [value, found]
      · rfl

end SameKeys

/-- A data object keeps the keys when its address is configured. -/
theorem tableAfter_sameKeys_iff (platform : Platform)
    {imported current : PointTable} (same : SameKeys imported current)
    (object : DataObject) (now : Nat) :
    SameKeys imported (tableAfter platform current object now) ↔
      (imported.entryAt object.ca object.ioa).isSome = true := by
  rw [tableAfter]
  cases matched : matchedPoint current object with
  | none => exact same.access_iff object.ca object.ioa
  | some point =>
      have found := (matchedPoint_eq_some matched).1
      have present :
          (imported.entryAt object.ca object.ioa).isSome = true := by
        rw [← same.entries, PointTable.lookup_eq_some_iff.mp found]
        rfl
      refine iff_of_true ?_ present
      cases update : updatedPoint platform object now point with
      | error exception => simpa only [update] using same
      | ok updated =>
          have settings := updatedPoint_settings platform update
          have address := PointTable.lookup_addressed found
          simp only [update]
          apply ((same.access_iff _ _).mpr present).store
          rw [DataPoint.ca_eq_of_settings settings,
            DataPoint.ioa_eq_of_settings settings, address.1, address.2]
          exact present

/-! ## Steps that read configured addresses -/

/--
A command that reads the table is for a configured CA, a data object that
reads it for a configured point.
-/
def ReadsConfigured (platform : Platform) (imported : PointTable)
    (system : System) : Event → Prop
  | .command _ asdu _ _ =>
      readsDevice system.server asdu = true → imported.HasDevice asdu.ca
  | .datapoint _ dp _ =>
      ∀ object ∈ readObject platform system.server dp,
        (imported.entryAt object.ca object.ioa).isSome = true
  | _ => True

instance (platform : Platform) (imported : PointTable) (system : System)
    (event : Event) :
    Decidable (ReadsConfigured platform imported system event) :=
  match event with
  | .command _ asdu _ _ =>
      inferInstanceAs
        (Decidable
          (readsDevice system.server asdu = true →
            imported.HasDevice asdu.ca))
  | .datapoint _ dp _ =>
      inferInstanceAs
        (Decidable
          (∀ object ∈ readObject platform system.server dp,
            (imported.entryAt object.ca object.ioa).isSome = true))
  | .operationReturned _ _ => .isTrue trivial
  | .interrogation _ _ _ => .isTrue trivial
  | .scanTimeouts _ => .isTrue trivial
  | .connection _ _ _ => .isTrue trivial
  | .slaveRunning _ => .isTrue trivial
  | .registerControl => .isTrue trivial

/-- The step lemma: the keys stay when the step reads configured ones. -/
theorem step_sameKeys_iff (platform : Platform) {imported : PointTable}
    {system : System}
    (same : SameKeys imported system.server.exchangeDefinitions)
    (event : Event) :
    SameKeys imported
        (step platform system event).1.server.exchangeDefinitions ↔
      ReadsConfigured platform imported system event := by
  cases event with
  | command connection asdu checkTime rcvdTime =>
      have left :=
        (enterAsduHandler_fields platform system.server connection asdu
          checkTime rcvdTime).1
      simp only [step, ReadsConfigured]
      rw [left]
      by_cases reads : readsDevice system.server asdu = true
      · simp only [reads, if_true, forall_const]
        exact same.touchDevice_iff asdu.ca
      · simp only [reads, Bool.false_eq_true, if_false, false_imp_iff,
          iff_true]
        exact same
  | operationReturned address result =>
      refine iff_of_true ?_ trivial
      simp only [step]
      split <;> exact same
  | datapoint assetName dp now =>
      cases reads : readObject platform system.server dp with
      | none =>
          rw [(step_datapoint_noRead platform system assetName dp now
            reads).1]
          apply iff_of_true same
          intro object member
          simp [reads] at member
      | some object =>
          rw [step_datapoint_read platform system assetName now reads]
          rw [tableAfter_sameKeys_iff platform same object now,
            ReadsConfigured, reads]
          simp
  | interrogation connection asdu qoi =>
      rcases
          interrogationHandler_sameEntries platform connection asdu qoi
            system.server with
        ⟨table, entries, left⟩
      refine iff_of_true ?_ trivial
      simp only [step]
      rw [left]
      exact same.of_sameEntries entries
  | scanTimeouts currentTime => exact iff_of_true same trivial
  | connection con peerAddress event =>
      refine iff_of_true ?_ trivial
      have left :=
        (connectionEventHandler_onlyConnections system.server con
          peerAddress event).exchangeDefinitions
      simp only [step]
      rw [left]
      exact same
  | slaveRunning running => exact iff_of_true same trivial
  | registerControl => exact iff_of_true same trivial

/-! ## What the masters see of the keys -/

/-- The CA that a positive ACT-CON to no command is for. -/
def respondedCa : Effect → Option Int
  | .sendActCon none _ asdu false => some asdu.ca
  | _ => none

section Interrogations

variable (platform : Platform) (server : IEC104Server)
  (connection : Connection) (asdu : Asdu) (qoi : Nat)

theorem responded_response (ca : Int) :
    (sendInterrogationResponse platform server connection asdu ca
        qoi).2.filterMap respondedCa = [ca] := by
  have silent : respondedCa ∘ Effect.sendData connection = fun _ => none :=
    rfl
  simp [sendInterrogationResponse, respondedCa, List.filterMap_map, silent]

/-- The loop over the CAs responds for each of them, in order. -/
theorem responded_respondEach (addresses : List Int) :
    (respondEach platform connection asdu qoi server addresses).2.filterMap
        respondedCa = addresses := by
  induction addresses generalizing server with
  | nil => rfl
  | cons ca rest ih =>
      rw [respondEach, List.filterMap_append, responded_response, ih]
      rfl

end Interrogations

/--
The table is as it was imported, and the masters get the answers that belong
to that: a negative ACT-CON to an interrogation of an unconfigured CA, a
response for each configured CA to a broadcast, and UNKNOWN_CA to a command
for an unconfigured CA.
-/
structure TableKept (platform : Platform) (imported : PointTable)
    (server : IEC104Server) : Prop where
  keys : SameKeys imported server.exchangeDefinitions
  unknownInterrogation :
    ∀ connection asdu qoi,
      isBroadcastCA asdu.ca server.config.appLayerParameters = false →
      ¬ imported.HasDevice asdu.ca →
        ∃ cot,
          (interrogationHandler platform server connection asdu qoi).2 =
            [.sendActCon none connection { asdu with cot := cot } true]
  broadcast :
    ∀ connection asdu qoi,
      20 ≤ qoi →
      qoi ≤ 36 →
      isBroadcastCA asdu.ca server.config.appLayerParameters = true →
        let visited :=
          (interrogationHandler platform server connection asdu
            qoi).2.filterMap respondedCa
        visited.Nodup ∧ ∀ ca, ca ∈ visited ↔ imported.HasDevice ca
  unknownCommand :
    ∀ connection asdu checkTime rcvdTime,
      readsDevice server asdu = true →
      ¬ imported.HasDevice asdu.ca →
        (enterAsduHandler platform server connection asdu checkTime
            rcvdTime).effects =
          [.sendAsdu none connection (asdu.reject Cot.unknownCa)]

/-- The answers follow from the keys. -/
theorem tableKept_of_sameKeys (platform : Platform) {imported : PointTable}
    {server : IEC104Server}
    (same : SameKeys imported server.exchangeDefinitions) :
    TableKept platform imported server where
  keys := same
  unknownInterrogation connection asdu qoi single unconfigured := by
    have absent : ¬ server.exchangeDefinitions.HasDevice asdu.ca :=
      fun configured => unconfigured ((same.devices asdu.ca).mp configured)
    simp only [interrogationHandler, single, Bool.false_eq_true, if_false,
      absent]
    split
    · exact ⟨asdu.cot, rfl⟩
    · exact ⟨Cot.unknownCa, rfl⟩
  broadcast connection asdu qoi low high all := by
    have inRange : ¬ (qoi < 20 ∨ 36 < qoi) := by omega
    simp only [interrogationHandler, inRange, if_false, all, if_true,
      responded_respondEach]
    refine ⟨Std.ExtTreeMap.nodup_keys, fun ca => ?_⟩
    rw [mem_keys_iff, same.devices]
  unknownCommand connection asdu checkTime rcvdTime reads unconfigured :=
    enterAsduHandler_unknownCa platform server connection asdu checkTime
      rcvdTime reads
      fun configured => unconfigured ((same.devices asdu.ca).mp configured)

/-! ## Runs -/

/-- The run lemma: the keys stay while the steps read configured ones. -/
theorem sameKeys_run (platform : Platform) {start : System}
    (notNull : NoNull start.server.exchangeDefinitions)
    {events : List Event}
    (reads :
      EachStep
        (fun earlier event =>
          ReadsConfigured platform start.server.exchangeDefinitions
            ((machine platform).after start earlier) event)
        events) :
    SameKeys start.server.exchangeDefinitions
      ((machine platform).after start events).server.exchangeDefinitions := by
  refine EachStep.induction ?_ ?_ reads
  · exact .refl notNull
  · intro earlier event _ kept configured
    rw [Machine.after_append]
    exact (step_sameKeys_iff platform kept event).mpr configured

/-- An imported table keeps its keys while only configured ones are read. -/
theorem sameKeys_run_imported (platform : Platform) {start : System}
    {document : Option Json}
    (imported :
      start.server.exchangeDefinitions = importExchangeConfig document)
    {events : List Event}
    (reads :
      EachStep
        (fun earlier event =>
          ReadsConfigured platform (importExchangeConfig document)
            ((machine platform).after start earlier) event)
        events) :
    SameKeys (importExchangeConfig document)
      ((machine platform).after start events).server.exchangeDefinitions := by
  rw [← imported] at reads ⊢
  apply sameKeys_run platform _ reads
  rw [imported]
  exact noNull_importExchangeConfig document

/--
The table keeps its imported keys throughout a run, with all the masters see
of them, exactly if every step reads configured addresses only.
-/
theorem tableKept_iff_readsConfigured (platform : Platform)
    (start : System) (notNull : NoNull start.server.exchangeDefinitions)
    (events : List Event) :
    (∀ earlier later, events = earlier ++ later →
      TableKept platform start.server.exchangeDefinitions
        ((machine platform).after start earlier).server) ↔
      EachStep
        (fun earlier event =>
          ReadsConfigured platform start.server.exchangeDefinitions
            ((machine platform).after start earlier) event)
        events := by
  constructor
  · rintro kept earlier event later rfl
    have before := (kept earlier (event :: later) rfl).keys
    have after := (kept (earlier ++ [event]) later (by simp)).keys
    rw [Machine.after_append] at after
    exact (step_sameKeys_iff platform before event).mp after
  · rintro reads earlier later rfl
    exact
      tableKept_of_sameKeys platform (sameKeys_run platform notNull
        reads.prefix)

/-- `sampleServer` has no null pointer in its table. -/
theorem noNull_sample : NoNull sampleServer.exchangeDefinitions :=
  (NoNull.empty.store _).store _

/-- A spontaneous value for the point at 1:10 or another IOA. -/
def sampleReading (ioa value : Int) : Datapoint where
  name := "data_object"
  attributes :=
    [⟨"do_type", .string "M_SP_NA_1"⟩, ⟨"do_ca", .integer 1⟩,
     ⟨"do_ioa", .integer ioa⟩, ⟨"do_cot", .integer Cot.spontaneous⟩,
     ⟨"do_value", .integer value⟩]

theorem tableKept_iff_readsConfigured_sample :
    (∀ earlier later,
      [.datapoint "south" (sampleReading 10 1) 0,
          .command 1 sampleCommand 0 0] =
        earlier ++ later →
      TableKept samplePlatform sampleServer.exchangeDefinitions
        ((machine samplePlatform).after sampleSystem earlier).server) ↔
      EachStep
        (fun earlier event =>
          ReadsConfigured samplePlatform sampleServer.exchangeDefinitions
            ((machine samplePlatform).after sampleSystem earlier) event)
        [.datapoint "south" (sampleReading 10 1) 0,
          .command 1 sampleCommand 0 0] :=
  tableKept_iff_readsConfigured samplePlatform sampleSystem noNull_sample _

/--
A command for CA 2 is refused and inserts CA 2; an interrogation for CA 2 then
gets a response.  A data object for 1:99 inserts a null pointer.
-/
theorem missingKeys_inserted :
    ¬ sampleServer.exchangeDefinitions.HasDevice 2 ∧
      (step samplePlatform sampleSystem
          (.command 1 { sampleCommand with ca := 2 } 0
            0)).1.server.exchangeDefinitions.HasDevice 2 ∧
      (machine samplePlatform).outputs sampleSystem
          [.command 1 { sampleCommand with ca := 2 } 0 0,
            .interrogation 1 { sampleCommand with ca := 2 } 20] =
        [.sendAsdu none 1
            ({ sampleCommand with ca := 2 }.reject Cot.unknownCa),
          .sendActCon none 1 { sampleCommand with ca := 2 } false,
          .sendActTerm none 1 { sampleCommand with ca := 2 }] ∧
      sampleServer.exchangeDefinitions.entryAt 1 99 = none ∧
      (step samplePlatform sampleSystem
          (.datapoint "south" (sampleReading 99 1)
            0)).1.server.exchangeDefinitions.entryAt 1 99 =
        some none := by
  decide

end Iec104North.TableFrame
