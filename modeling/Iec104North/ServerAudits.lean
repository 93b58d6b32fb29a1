import Iec104North.AuditTrail

/-!
# The audits for the server

The last audit for the server goes with the slots that are held: "connected"
stands only while a slot is held, and does stand while the holder of a slot is
activated.
-/

namespace Iec104North.ServerAudits

open Iec104North.Library
open Iec104North.Values
open Iec104North.Config
open Iec104North.Config.IEC104Config
open Iec104North.Server
open Iec104North.Server.IEC104Server
open Iec104North.Connections
open Iec104North.RedundancyImport
open Iec104North.LedgerRefinement
open Iec104North.Runs
open Iec104North.Slots
open Iec104North.SlotRuns
open Iec104North.Audits
open Iec104North.AuditTrail

/-- Some slot has a port exactly when some slot is held. -/
theorem established_iff (server : IEC104Server) :
    server.isAnyConnectionEstablished = true ↔
      ∃ place peer, holderOf server.config place = some peer := by
  simp only [isAnyConnectionEstablished, List.any_eq_true, bne_iff_ne]
  constructor
  · rintro ⟨redGroup, inGroups, connection, inGroup, taken⟩
    rcases List.mem_iff_getElem?.mp inGroups with ⟨group, there⟩
    rcases List.mem_iff_getElem?.mp inGroup with ⟨slot, present⟩
    refine
      ⟨(group, slot), (connection.clientIp, connection.port),
        holderOf_eq_some_iff.mpr ⟨connection, ?_, taken, rfl⟩⟩
    simp [slot?, there, present]
  · rintro ⟨place, peer, holds⟩
    rcases holderOf_eq_some_iff.mp holds with
      ⟨connection, present, taken, -⟩
    rcases Option.bind_eq_some_iff.mp present with
      ⟨redGroup, there, inGroup⟩
    exact
      ⟨redGroup, List.mem_of_getElem? there, connection,
        List.mem_of_getElem? inGroup, taken⟩

/--
The global audit goes with the slots: it is "connected" only when a slot is
held, and is so when the holder of one is activated.
-/
structure GlobalKept (server : IEC104Server) (peers : Peers) : Prop where
  established :
    server.lastGlobalAudit = "connected" →
      ∃ place peer, holderOf server.config place = some peer
  activated :
    ∀ {place peer}, holderOf server.config place = some peer →
      peer ∈ peers.activated → server.lastGlobalAudit = "connected"

namespace GlobalKept

variable {peers : Peers} {before after : IEC104Server}

/-- Without a slot for its peer, an event does not matter. -/
theorem absent (kept : GlobalKept before peers) {peer : Peer}
    (missing : ∀ place, holderOf before.config place ≠ some peer)
    (what : PeerConnectionEvent) :
    GlobalKept before (peers.handle peer what) := by
  refine ⟨kept.established, ?_⟩
  intro place other holds active
  have apart : other ≠ peer := by
    rintro rfl
    exact missing place holds
  exact
    kept.activated holds
      ((peers.mem_activated_handle_iff peer what apart).mp active)

variable {peer : Peer} {what : PeerConnectionEvent} {place : Place}
  (holders :
    holderOf after.config =
      Function.update (holderOf before.config) place
        (if what = .closed then none else some peer))

include holders

/-- Another peer that is activated was so before, at its place. -/
theorem activated_before {other : Place} {next : Peer}
    (holds : holderOf after.config other = some next)
    (active : next ∈ (peers.handle peer what).activated) :
    what = .activated ∨
      holderOf before.config other = some next ∧
        next ∈ peers.activated := by
  by_cases same : next = peer
  · rw [same] at active
    exact Or.inl ((peers.mem_activated_handle_self peer).mp active)
  · right
    have elsewhere : other ≠ place := by
      rintro rfl
      rw [holders, Function.update_self] at holds
      split at holds
      · simp at holds
      · exact same (Option.some.inj holds).symm
    rw [holders, Function.update_of_ne elsewhere] at holds
    exact
      ⟨holds, (peers.mem_activated_handle_iff peer what same).mp active⟩

theorem found (kept : GlobalKept before peers)
    (lastGlobalAudit :
      after.lastGlobalAudit =
        (globalTypeOf after.isAnyConnectionEstablished what).getD
          before.lastGlobalAudit) :
    GlobalKept after (peers.handle peer what) := by
  by_cases isClosed : what = .closed
  · subst isClosed
    by_cases left : after.isAnyConnectionEstablished = true
    · rw [globalTypeOf, if_pos left, Option.getD_none] at lastGlobalAudit
      refine ⟨fun _ => (established_iff after).mp left, ?_⟩
      intro other next holds active
      rcases activated_before holders holds active with now | earlier
      · simp at now
      · rw [lastGlobalAudit]
        exact kept.activated earlier.1 earlier.2
    · rw [globalTypeOf, if_neg left, Option.getD_some] at lastGlobalAudit
      constructor
      · intro connected
        rw [lastGlobalAudit] at connected
        simp at connected
      · intro other next holds active
        exact (left ((established_iff after).mpr ⟨other, next, holds⟩)).elim
  · constructor
    · intro connected
      refine ⟨place, peer, ?_⟩
      rw [holders, Function.update_self, if_neg isClosed]
    · intro other next holds active
      rcases activated_before holders holds active with rfl | earlier
      · exact lastGlobalAudit
      · have connected := kept.activated earlier.1 earlier.2
        rw [lastGlobalAudit, connected]
        cases what with
        | closed => exact (isClosed rfl).elim
        | _ => rfl

end GlobalKept

section Server

variable (platform : Platform) {server : IEC104Server} (new : New server)

include new

theorem globalKept_run {events : List Event}
    (wellFormed : EachStep WellFormedEvent events) :
    GlobalKept (serverAfter platform server events)
      (Peers.after events) := by
  refine EachStep.induction ?_ ?_ wellFormed
  · have free := holderOf_fresh (fresh_started new)
    constructor
    · intro connected
      rw [serverAfter, Machine.after_nil, started,
        (sendInitialAudits_eq server).1] at connected
      simp at connected
    · intro place peer holds
      exact absurd ((free place).symm.trans holds) (by simp)
  · intro earlier event each kept last
    rw [Peers.after_concat]
    cases slotStep_concat platform new each last with
    | other _ noConnection leaves =>
        rw [Peers.next_other _ noConnection]
        constructor
        · rw [leaves.lastGlobalAudit, leaves.holderOf]
          exact kept.established
        · rw [leaves.lastGlobalAudit, leaves.holderOf]
          exact kept.activated
    | absent con peerAddress what missing holdsNone left silent =>
        rw [left]
        exact kept.absent holdsNone what
    | found con peerAddress what group slot isNew isFound may holders raises =>
        exact kept.found holders raises.lastGlobalAudit

end Server

/-- The types of the audits for the server in a trail. -/
def globalTrail (platform : Platform) (server : IEC104Server)
    (events : List Event) : List String :=
  (auditTrail platform server events).filterMap
    (globalTypeIn server.serviceName)

/--
What the audits for the server state after a list of events: the last one is
"connected" only while some slot of a group has a port, and is "connected"
when the last activation or deactivation of a peer with a slot was an
activation; they begin with "disconnected" and alternate.
-/
structure GlobalsRight (platform : Platform) (server : IEC104Server)
    (events : List Event) : Prop where
  established :
    (globalTrail platform server events).getLast? = some "connected" →
      ∃ group slot connection,
        (serverAfter platform server events).config.slot? group slot =
            some connection ∧
          connection.port ≠ ""
  activated :
    ∀ {place peer},
      holderOf (serverAfter platform server events).config place =
          some peer →
        peer ∈ (Peers.after events).activated →
          (globalTrail platform server events).getLast? = some "connected"
  first :
    (globalTrail platform server events).head? = some "disconnected"
  twoTypes :
    ∀ auditType ∈ globalTrail platform server events,
      auditType = "connected" ∨ auditType = "disconnected"
  alternates : (globalTrail platform server events).IsChain (· ≠ ·)

/-- The audits for the server are right after every well-formed run. -/
theorem globalsRight_run (platform : Platform) {server : IEC104Server}
    (new : New server) {events : List Event}
    (wellFormed : EachStep WellFormedEvent events) :
    GlobalsRight platform server events := by
  have trail := trail_run platform new wellFormed
  have kept := globalKept_run platform new wellFormed
  refine ⟨?_, ?_, trail.first, ?_, trail.alternates⟩
  · intro connected
    rw [globalTrail, trail.last, Option.some.injEq] at connected
    rcases kept.established connected with ⟨place, peer, holds⟩
    rcases holderOf_eq_some_iff.mp holds with
      ⟨connection, present, taken, -⟩
    exact ⟨place.1, place.2, connection, present, taken⟩
  · intro place peer holds active
    rw [globalTrail, trail.last, kept.activated holds active]
  · intro auditType member
    rcases List.mem_filterMap.mp member with ⟨message, -, stated⟩
    rw [globalTypeIn] at stated
    split at stated
    · exact Or.inl (Option.some.inj stated).symm
    split at stated
    · exact Or.inr (Option.some.inj stated).symm
    · simp at stated

theorem new_groupSystem : New groupSystem.server :=
  ⟨fresh_groupSystem, rfl, rfl⟩

/-- Two peers of one group come, one is activated, and both go. -/
def sampleConnections : List Event :=
  [.connection 1 "10.0.0.1:49152" .opened,
   .connection 2 "10.0.0.2:49153" .opened,
   .connection 2 "10.0.0.2:49153" .activated,
   .connection 2 "10.0.0.2:49153" .closed,
   .connection 1 "10.0.0.1:49152" .closed]

theorem globalsRight_run_sample :
    GlobalsRight samplePlatform groupSystem.server sampleConnections :=
  globalsRight_run samplePlatform new_groupSystem (by decide)

end Iec104North.ServerAudits
