import Iec104North.Slots
import Iec104North.StepEffects

/-!
# Supervision goes on by itself

The slots of the redundancy groups and the audits of the connections depend on
nothing but the connection events.  Commands, their feedback, data objects,
interrogations and scans for timeouts can be taken out of any run, and every
peer still has its slot and every audit is raised as before.
-/

namespace Iec104North.SupervisionIndependence

open Iec104North.Library
open Iec104North.Values
open Iec104North.Config
open Iec104North.Config.IEC104Config
open Iec104North.Server
open Iec104North.Server.IEC104Server
open Iec104North.OutstandingCommands
open Iec104North.LedgerRefinement
open Iec104North.Connections
open Iec104North.Runs
open Iec104North.StepEffects
open Iec104North.Slots

/-! ## Servers with the same slots -/

/-- What supervision reads is the same. -/
structure SameSlots (server other : IEC104Server) : Prop where
  groups : other.config.redundancyGroups = server.config.redundancyGroups
  serviceName : other.serviceName = server.serviceName
  lastConnectionAudit :
    other.lastConnectionAudit = server.lastConnectionAudit
  lastGlobalAudit : other.lastGlobalAudit = server.lastGlobalAudit

/-- The same slots and the same effects. -/
def Agree (first second : IEC104Server × List Effect) : Prop :=
  SameSlots first.1 second.1 ∧ first.2 = second.2

theorem SameSlots.of_leaves {server changed other : IEC104Server}
    {effects : List Effect} (leaves : LeavesSlots server changed effects)
    (same : SameSlots server other) : SameSlots changed other where
  groups := same.groups.trans leaves.groups.symm
  serviceName := same.serviceName.trans leaves.serviceName.symm
  lastConnectionAudit :=
    same.lastConnectionAudit.trans leaves.lastConnectionAudit.symm
  lastGlobalAudit := same.lastGlobalAudit.trans leaves.lastGlobalAudit.symm

section Operations

variable {server other : IEC104Server} (same : SameSlots server other)

include same

theorem connectionStatusAudit_agree (auditType index letter : String) :
    Agree (sendConnectionStatusAudit server auditType index letter)
      (sendConnectionStatusAudit other auditType index letter) := by
  simp only [sendConnectionStatusAudit, same.serviceName,
    same.lastConnectionAudit]
  split
  · exact ⟨same, rfl⟩
  · exact ⟨⟨same.groups, rfl, rfl, same.lastGlobalAudit⟩, rfl⟩

theorem globalStatusAudit_agree (auditType : String) :
    Agree (sendGlobalStatusAudit server auditType)
      (sendGlobalStatusAudit other auditType) := by
  simp only [sendGlobalStatusAudit, same.serviceName, same.lastGlobalAudit]
  split
  · exact ⟨same, rfl⟩
  · exact ⟨⟨same.groups, rfl, same.lastConnectionAudit, rfl⟩, rfl⟩

theorem modifySlot_same (group slot : Nat)
    (change : RedGroupCon → RedGroupCon) :
    SameSlots (modifySlot server group slot change)
      (modifySlot other group slot change) where
  groups := congrArg (List.modify · group _) same.groups
  serviceName := same.serviceName
  lastConnectionAudit := same.lastConnectionAudit
  lastGlobalAudit := same.lastGlobalAudit

theorem removeOutstandingCommands_same (con : Connection) :
    SameSlots (removeOutstandingCommands server con)
      (removeOutstandingCommands other con) :=
  ⟨same.groups, same.serviceName, same.lastConnectionAudit,
    same.lastGlobalAudit⟩

theorem slotLabel_eq (group slot : Nat) :
    slotLabel other group slot = slotLabel server group slot := by
  rw [slotLabel, slotLabel, slot?, slot?, same.groups]

theorem isAnyConnectionEstablished_eq :
    other.isAnyConnectionEstablished = server.isAnyConnectionEstablished := by
  rw [isAnyConnectionEstablished, isAnyConnectionEstablished, same.groups]

theorem slotFor_eq (peerAddress : String) :
    slotFor other peerAddress = slotFor server peerAddress := by
  simp only [slotFor, findSlot, getRedundancyGroup, same.groups]

theorem assignSlot_same (peerAddress : String) (place : Nat × Nat × Bool) :
    SameSlots (assignSlot server peerAddress place)
      (assignSlot other peerAddress place) := by
  rw [assignSlot, assignSlot]
  split
  · exact modifySlot_same same place.1 place.2.1 _
  · exact same

end Operations

/-! ## Connection events -/

section Events

variable {server other : IEC104Server}

theorem handleSlotEvent_agree (same : SameSlots server other)
    (group slot : Nat) (con : Connection) (event : PeerConnectionEvent) :
    Agree (handleSlotEvent server group slot con event)
      (handleSlotEvent other group slot con event) := by
  have label := slotLabel_eq same group slot
  cases event with
  | opened =>
      rw [handleSlotEvent, handleSlotEvent, label]
      exact connectionStatusAudit_agree same _ _ _
  | closed =>
      rcases
          connectionStatusAudit_agree same "disconnected"
            (slotLabel server group slot).1
            (slotLabel server group slot).2 with
        ⟨audited, effects⟩
      have removed :=
        removeOutstandingCommands_same
          (modifySlot_same audited group slot fun connection =>
            { connection with port := "" })
          con
      rcases globalStatusAudit_agree removed "disconnected" with
        ⟨disconnected, globalEffects⟩
      simp only [handleSlotEvent, label, isAnyConnectionEstablished_eq removed]
      split
      · exact ⟨removed, effects⟩
      · refine ⟨disconnected, ?_⟩
        rw [effects, globalEffects]
  | activated =>
      rcases
          connectionStatusAudit_agree same "active"
            (slotLabel server group slot).1
            (slotLabel server group slot).2 with
        ⟨audited, effects⟩
      rcases globalStatusAudit_agree audited "connected" with
        ⟨connected, globalEffects⟩
      simp only [handleSlotEvent, label]
      refine ⟨modifySlot_same connected group slot _, ?_⟩
      rw [effects, globalEffects]
  | deactivated =>
      rcases
          connectionStatusAudit_agree same "passive"
            (slotLabel server group slot).1
            (slotLabel server group slot).2 with
        ⟨audited, effects⟩
      simp only [handleSlotEvent, label]
      exact
        ⟨modifySlot_same (removeOutstandingCommands_same audited con) group
          slot _, effects⟩

theorem connectionEventHandler_agree (same : SameSlots server other)
    (con : Connection) (peerAddress : String)
    (event : PeerConnectionEvent) :
    Agree (connectionEventHandler server con peerAddress event)
      (connectionEventHandler other con peerAddress event) := by
  rw [connectionEventHandler_eq, connectionEventHandler_eq,
    slotFor_eq same peerAddress]
  cases slotFor server peerAddress with
  | none => exact ⟨same, rfl⟩
  | some place =>
      exact
        handleSlotEvent_agree (assignSlot_same same peerAddress place)
          place.1 place.2.1 con event

end Events

/-! ## Runs -/

/-- The event is a connection event. -/
def isConnection : Event → Bool
  | .connection _ _ _ => true
  | _ => false

/-- The effect is an audit. -/
def isAudit : Effect → Bool
  | .audit _ _ => true
  | _ => false

theorem isAudit_eq (effect : Effect) :
    isAudit effect = (auditOf effect).isSome := by
  cases effect <;> rfl

section Runs

variable (platform : Platform)

/-- Connection events raise audits and nothing else. -/
theorem isAudit_of_mem_connection {system : System} {con : Connection}
    {peerAddress : String} {what : PeerConnectionEvent} {effect : Effect}
    (member :
      effect ∈
        (step platform system (.connection con peerAddress what)).2) :
    isAudit effect = true := by
  rcases audit_of_mem_connectionEvent member with ⟨level, message, rfl⟩
  rfl

/-- The run of the connection events alone supervises the same. -/
theorem supervision_unwinding :
    Unwinding (machine platform)
      (fun system other => SameSlots system.server other.server)
      (fun _ _ => True) isConnection isAudit where
  kept := by
    intro system other event same _ keep
    cases event with
    | connection con peerAddress what =>
        rcases connectionEventHandler_agree same con peerAddress what with
          ⟨after, effects⟩
        have audits :
            ∀ effect ∈
                ((machine platform).step system
                  (.connection con peerAddress what)).2,
              isAudit effect = true :=
          fun effect member => isAudit_of_mem_connection platform member
        refine ⟨after, ?_⟩
        rw [List.filter_eq_self.mpr audits]
        exact effects
    | _ => exact absurd keep Bool.false_ne_true
  purged := by
    intro system other event same _ purge
    have noConnection :
        ¬ ∃ con peerAddress what,
          event = .connection con peerAddress what := by
      rintro ⟨con, peerAddress, what, rfl⟩
      exact absurd purge Bool.true_eq_false.mp
    have leaves := step_leavesSlots platform system event noConnection
    refine ⟨same.of_leaves leaves, ?_⟩
    rw [List.filter_eq_nil_iff]
    intro effect member
    have silent := List.filterMap_eq_nil_iff.mp leaves.silent effect member
    rw [isAudit_eq, silent]
    exact Bool.false_ne_true

/--
Nothing but connection events matters for supervision: the run of the
connection events alone raises the same audits, in the same order, and leaves
the same slots.
-/
theorem supervision_ignoresTraffic (start : System) (events : List Event) :
    let connections := events.filter isConnection
    let after := (machine platform).after start events
    let supervised := (machine platform).after start connections
    ((machine platform).outputs start events).filter isAudit =
        (machine platform).outputs start connections ∧
      SameSlots supervised.server after.server := by
  have always :
      EachStep (fun _ _ => True) events :=
    fun _ _ _ _ => trivial
  rcases
      (supervision_unwinding platform).run
        (⟨rfl, rfl, rfl, rfl⟩ : SameSlots start.server start.server)
        always with
    ⟨same, outputs⟩
  exact
    ⟨outputs, same.groups.symm, same.serviceName.symm,
      same.lastConnectionAudit.symm, same.lastGlobalAudit.symm⟩

end Runs

end Iec104North.SupervisionIndependence
