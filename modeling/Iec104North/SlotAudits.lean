import Iec104North.ServerAudits

/-!
# The audits for the slots

The last audit for a slot states the status of the slot as long as no second or
later slot of a group with more than two slots changes its status: all of these
have the path letter B.
-/

namespace Iec104North.SlotAudits

open Iec104North.Library
open Iec104North.Values
open Iec104North.Config
open Iec104North.Config.IEC104Config
open Iec104North.Server
open Iec104North.Server.IEC104Server
open Iec104North.Connections
open Iec104North.RedundancyImport
open Iec104North.LedgerRefinement
open Iec104North.Runs
open Iec104North.Slots
open Iec104North.SlotRuns
open Iec104North.Audits
open Iec104North.AuditTrail
open Iec104North.ServerAudits

/-! ## Status of a slot -/

/-- The status of the slot at a place. -/
def statusAt (peers : Peers) (config : IEC104Config) (place : Place) :
    String :=
  match holderOf config place with
  | none => "disconnected"
  | some peer => if peer ∈ peers.activated then "active" else "passive"

section Status

variable {peers : Peers} {config after : IEC104Config} {peer : Peer}
  (what : PeerConnectionEvent)

theorem statusAt_of_same {place : Place}
    (same : holderOf after place = holderOf config place)
    (apart : holderOf config place ≠ some peer) :
    statusAt (peers.handle peer what) after place =
      statusAt peers config place := by
  rw [statusAt, statusAt, same]
  cases holds : holderOf config place with
  | none => rfl
  | some other =>
      have isOther : other ≠ peer := by
        rintro rfl
        exact apart holds
      simp only [peers.mem_activated_handle_iff peer what isOther]

/-- An event gives its slot the status that its audit states. -/
theorem statusAt_update {allowed : Peer → Place → Prop}
    (holding : Holding allowed (holderOf config)) {place : Place}
    (may : MayHold (holderOf config) peer place)
    (holders :
      holderOf after =
        Function.update (holderOf config) place
          (if what = .closed then none else some peer)) :
    statusAt (peers.handle peer what) after =
      Function.update (statusAt peers config) place (auditTypeOf what) := by
  funext other
  by_cases here : other = place
  · rw [here, Function.update_self, statusAt, holders, Function.update_self]
    cases what with
    | closed => rfl
    | opened => simp [peers.mem_activated_handle_self, auditTypeOf]
    | activated => simp [peers.mem_activated_handle_self, auditTypeOf]
    | deactivated => simp [peers.mem_activated_handle_self, auditTypeOf]
  · rw [Function.update_of_ne here]
    apply statusAt_of_same
    · rw [holders, Function.update_of_ne here]
    · exact fun holds => here (holding.eq_of_mayHold may holds)

end Status

/-! ## The status of the slots -/

/-- The trail states the status of each slot under the label of the slot. -/
def SlotsRight (platform : Platform) (server : IEC104Server)
    (events : List Event) : Prop :=
  ∀ place, HasSlot (serverAfter platform server events).config place →
    lastStatement
        (auditTypeFor server.serviceName
          (slotLabel (serverAfter platform server events) place.1 place.2))
        (auditTrail platform server events) =
      some
        (statusAt (Peers.after events)
          (serverAfter platform server events).config place)

/-- No other slot of the group has the path letter of the slot. -/
def HasOwnLetter (config : IEC104Config) (group slot : Nat) : Prop :=
  slot = 0 ∨
    ∀ redGroup, config.redundancyGroups[group]? = some redGroup →
      redGroup.connections.length ≤ 2

/--
The event leaves the status of the slot that is found for its peer, or no other
slot of the group has the path letter of that slot.
-/
def KeepsApart (platform : Platform) (server : IEC104Server)
    (earlier : List Event) (event : Event) : Prop :=
  ∀ con peerAddress what group slot isNew,
    event = .connection con peerAddress what →
    slotFor (serverAfter platform server earlier) peerAddress =
        some (group, slot, isNew) →
      statusAt (Peers.after earlier)
            (serverAfter platform server earlier).config (group, slot) =
          auditTypeOf what ∨
        HasOwnLetter (serverAfter platform server earlier).config group slot

theorem pathLetterAt_eq_iff {position other : Nat} :
    pathLetterAt position = pathLetterAt other ↔
      (position = 0 ↔ other = 0) := by
  by_cases first : position = 0 <;> by_cases second : other = 0 <;>
    simp [pathLetterAt, first, second]

theorem hasOwnLetter_iff {config : IEC104Config} {group slot : Nat}
    (isSlot : HasSlot config (group, slot)) :
    HasOwnLetter config group slot ↔
      ∀ other, HasSlot config other →
        labelAt other = labelAt (group, slot) → other = (group, slot) := by
  rcases hasSlot_iff.mp isSlot with ⟨redGroup, inGroups, within⟩
  dsimp only at inGroups within
  constructor
  · rintro own ⟨otherGroup, other⟩ isOther same
    rcases labelAt_eq_iff.mp same with ⟨rfl, letter⟩
    rcases hasSlot_iff.mp isOther with ⟨sameGroup, there, inside⟩
    dsimp only at there inside letter
    rw [inGroups, Option.some.injEq] at there
    subst there
    rw [pathLetterAt_eq_iff] at letter
    rcases own with first | few
    · rw [first, letter.mpr first]
    · have two := few redGroup inGroups
      congr 1
      omega
  · intro alone
    by_contra shared
    rw [HasOwnLetter, not_or] at shared
    rcases shared with ⟨notFirst, many⟩
    have three : 2 < redGroup.connections.length := by
      by_contra few
      apply many
      intro same there
      rw [inGroups, Option.some.injEq] at there
      subst there
      exact Nat.le_of_not_lt few
    -- One of the positions 1 and 2 is another slot with the letter B.
    have other :
        ∃ position, position ≠ slot ∧ position ≠ 0 ∧ position ≤ 2 := by
      by_cases second : slot = 1
      · exact ⟨2, by omega, by omega, le_rfl⟩
      · exact ⟨1, by omega, by omega, by omega⟩
    rcases other with ⟨position, apart, notZero, low⟩
    have same :=
      alone (group, position)
        (hasSlot_iff.mpr ⟨redGroup, inGroups, by dsimp only; omega⟩)
        (labelAt_eq_iff.mpr
          ⟨rfl, pathLetterAt_eq_iff.mpr (by simp [notZero, notFirst])⟩)
    exact apart (Prod.mk.inj same).2

section Labelled

variable (platform : Platform) {server : IEC104Server} (new : New server)
  {events : List Event}

theorem hasSlot_after (events : List Event) (place : Place) :
    HasSlot (serverAfter platform server events).config place ↔
      HasSlot (started server).server.config place := by
  have same :=
    congrArg Option.isSome
      ((slot?_layout (serverAfter platform server events).config place.1
        place.2).trans
        ((congrArg
          (fun layout : List (Nat × List (String × String)) =>
            layout[place.1]?.bind fun entry => entry.2[place.2]?)
          (layout_run platform events)).trans
          (slot?_layout (started server).server.config place.1
            place.2).symm))
  rw [Option.isSome_map, Option.isSome_map] at same
  rw [HasSlot, HasSlot, same]

include new

/-- The trail is right exactly when it is faithful to the status of places. -/
theorem slotsRight_iff_faithful (events : List Event) :
    SlotsRight platform server events ↔
      Faithful (HasSlot (started server).server.config) labelAt
        (statusAt (Peers.after events)
          (serverAfter platform server events).config)
        (fun label =>
          lastStatement (auditTypeFor server.serviceName label)
            (auditTrail platform server events)) := by
  have label :
      ∀ place, HasSlot (serverAfter platform server events).config place →
        slotLabel (serverAfter platform server events) place.1 place.2 =
          labelAt place := by
    intro place isSlot
    rcases Option.isSome_iff_exists.mp isSlot with ⟨connection, present⟩
    exact slotLabel_eq (lettered_after platform new events) present
  constructor
  · intro right place isSlot
    have here := (hasSlot_after platform events place).mpr isSlot
    rw [← right place here, label place here]
  · intro faithful place here
    rw [label place here]
    exact faithful place ((hasSlot_after platform events place).mp here)

theorem slotsRight_nil : SlotsRight platform server [] := by
  rw [slotsRight_iff_faithful platform new]
  intro place isSlot
  have initial : HasSlot (letteredConfig server) place := by
    rwa [started, (sendInitialAudits_eq server).1] at isSlot
  have unrepeated :=
    ((remembers_nil server.serviceName place).lastStatement_withoutRepeats
      ((initialAudits (letteredConfig server)).map
        (messageOf server.serviceName))).1
  have disconnected :=
    lastStatement_initialAudits
      (letteredConfig_lettered server new.groups) server.serviceName initial
  have silent :
      ∀ message ∈ [globalMessage server.serviceName "disconnected"],
        auditTypeFor server.serviceName (labelAt place) message = none := by
    simp [auditTypeFor_global server.serviceName place (Or.inr rfl)]
  rw [List.nil_append, List.nil_append, disconnected] at unrepeated
  dsimp only
  rw [auditTrail_nil platform new, lastStatement_append_silent _ silent,
    unrepeated, serverAfter, Machine.after_nil, statusAt,
    holderOf_fresh (fresh_started new) place]

/-- An event keeps the trail right exactly when it keeps labels apart. -/
theorem slotsRight_concat_iff {event : Event}
    (each : EachStep WellFormedEvent events)
    (last : WellFormedEvent events event)
    (right : SlotsRight platform server events) :
    SlotsRight platform server (events ++ [event]) ↔
      KeepsApart platform server events event := by
  have faithful := (slotsRight_iff_faithful platform new events).mp right
  have holding := holding_after platform new each
  have trail := trail_run platform new each
  rw [slotsRight_iff_faithful platform new, Peers.after_concat,
    auditTrail_concat]
  cases slotStep_concat platform new each last with
  | other _ noConnection leaves =>
      rw [Peers.next_other _ noConnection, leaves.silent, List.append_nil]
      have status :
          statusAt (Peers.after events)
              (serverAfter platform server (events ++ [event])).config =
            statusAt (Peers.after events)
              (serverAfter platform server events).config := by
        funext place
        rw [statusAt, statusAt, leaves.holderOf]
      rw [status]
      apply iff_of_true faithful
      intro con peerAddress what group slot isNew isConnection
      exact (noConnection ⟨con, peerAddress, what, isConnection⟩).elim
  | absent con peerAddress what missing holdsNone left silent =>
      rw [left, silent, auditLog_nil, List.append_nil]
      have status :
          statusAt
              ((Peers.after events).next
                (.connection con peerAddress what))
              (serverAfter platform server events).config =
            statusAt (Peers.after events)
              (serverAfter platform server events).config := by
        funext place
        exact statusAt_of_same what rfl (holdsNone place)
      rw [status]
      apply iff_of_true faithful
      rintro _ _ _ group slot isNew ⟨⟩ found
      rw [missing] at found
      simp at found
  | found con peerAddress what group slot isNew isFound may holders raises =>
      have status :
          statusAt
              ((Peers.after events).next
                (.connection con peerAddress what))
              (serverAfter platform server
                (events ++ [.connection con peerAddress what])).config =
            Function.update
              (statusAt (Peers.after events)
                (serverAfter platform server events).config)
              (group, slot) (auditTypeOf what) :=
        statusAt_update what holding may holders
      have isSlot :
          HasSlot (serverAfter platform server events).config
            (group, slot) := by
        rcases findSlot_eq_some isFound with ⟨-, connection, present, -⟩
        rw [HasSlot, present]
        rfl
      have here := (hasSlot_after platform events (group, slot)).mp isSlot
      have own := hasOwnLetter_iff isSlot
      simp only [hasSlot_after platform events] at own
      rw [status]
      refine (faithful.update_iff here ?_).trans ?_
      · intro other _
        exact
          trail.lastStatement_raised raises
            (isGlobalType_globalTypeOf _ what) other
      · rw [← own]
        constructor
        · rintro apart _ _ _ _ _ _ ⟨⟩ found
          rw [isFound, Option.some.injEq] at found
          cases found
          exact apart
        · intro apart
          exact apart con peerAddress what group slot isNew rfl isFound

end Labelled

theorem slotsRight_iff (platform : Platform) {server : IEC104Server}
    (new : New server) {events : List Event}
    (wellFormed : EachStep WellFormedEvent events) :
    (∀ earlier, earlier <+: events → SlotsRight platform server earlier) ↔
      EachStep (KeepsApart platform server) events := by
  refine forall_prefix_iff_eachStep ?_ ?_ wellFormed
  · exact slotsRight_nil platform new
  · intro earlier event each last right
    exact slotsRight_concat_iff platform new each last right

theorem slotsRight_iff_sample :
    (∀ earlier, earlier <+: sampleConnections →
        SlotsRight samplePlatform groupSystem.server earlier) ↔
      EachStep (KeepsApart samplePlatform groupSystem.server)
        sampleConnections :=
  slotsRight_iff samplePlatform new_groupSystem (by decide)

/-- The audit for the second slot is taken for one of the third. -/
theorem secondSlot_hidesThird :
    New groupSystem.server ∧
      EachStep WellFormedEvent
        [.connection 1 "10.0.0.2:49152" .opened] ∧
      ¬ SlotsRight samplePlatform groupSystem.server
        [.connection 1 "10.0.0.2:49152" .opened] := by
  refine ⟨new_groupSystem, by decide, ?_⟩
  intro right
  have third := right (0, 2) rfl
  revert third
  decide

end Iec104North.SlotAudits
