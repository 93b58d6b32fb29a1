import Iec104North.Library.StatusLog
import Iec104North.SlotRuns

/-!
# The audit trail

`sendConnectionStatusAudit` raises an audit for a slot under the index of its
group and its path letter, `sendGlobalStatusAudit` one for the server.  Both
leave out what repeats their last audit.  This module says what the trail of a
run states, slot by slot and of the server.
-/

namespace Iec104North.Audits

open Iec104North.Library
open Iec104North.Values
open Iec104North.Config
open Iec104North.Config.IEC104Config
open Iec104North.Server
open Iec104North.Server.IEC104Server
open Iec104North.OutstandingCommands
open Iec104North.Connections
open Iec104North.RedundancyImport
open Iec104North.LedgerRefinement
open Iec104North.Runs
open Iec104North.Slots
open Iec104North.SlotRuns

/-! ## Messages -/

/-- What the audits for one slot start with. -/
def auditStart (serviceName : String) (label : String × String) : String :=
  serviceName ++ "-" ++ label.1 ++ "-" ++ label.2 ++ "-"

/-- The message of `sendConnectionStatusAudit`. -/
def auditMessage (serviceName : String) (label : String × String)
    (auditType : String) : String :=
  auditStart serviceName label ++ auditType

/-- The message of `sendGlobalStatusAudit`. -/
def globalMessage (serviceName auditType : String) : String :=
  serviceName ++ "-" ++ auditType

/-- The status a message states of the slot with a label. -/
def auditTypeFor (serviceName : String) (label : String × String)
    (message : String) : Option String :=
  let start := (auditStart serviceName label).toList
  if start <+: message.toList then
    some (String.ofList (message.toList.drop start.length))
  else
    none

/-- The status a message states of the server. -/
def globalTypeIn (serviceName message : String) : Option String :=
  if message = globalMessage serviceName "connected" then
    some "connected"
  else if message = globalMessage serviceName "disconnected" then
    some "disconnected"
  else
    none

/-- The label of the slot at a place: group index and path letter. -/
def labelAt (place : Place) : String × String :=
  (toString place.1, pathLetterAt place.2)

section Labels

theorem toList_pathLetterAt (position : Nat) :
    (pathLetterAt position).toList = [if position = 0 then 'A' else 'B'] := by
  rw [pathLetterAt]
  by_cases first : position = 0
  · simp [first]
  · simp [first]

/-- Up to a separator that neither word has, the words are the same. -/
theorem append_cons_prefix_iff {separator : Char} {word other : List Char}
    (inWord : separator ∉ word) (inOther : separator ∉ other)
    (rest more : List Char) :
    word ++ separator :: rest <+: other ++ separator :: more ↔
      word = other ∧ rest <+: more := by
  induction word generalizing other with
  | nil =>
      cases other with
      | nil => simp
      | cons head tail =>
          have apart : separator ≠ head := fun same => inOther (by simp [same])
          simp [apart]
  | cons first word ih =>
      rw [List.mem_cons, not_or] at inWord
      cases other with
      | nil =>
          simp [Ne.symm inWord.1]
      | cons head tail =>
          rw [List.mem_cons, not_or] at inOther
          simp [ih inWord.2 inOther.2, and_assoc]

theorem toList_toString (index : Nat) :
    (toString index).toList = Nat.toDigits 10 index := by
  rw [Nat.toString_eq_ofList_toDigits, String.toList_ofList]

theorem isDigit_of_mem_toString (index : Nat) {character : Char}
    (member : character ∈ Nat.toDigits 10 index) :
    character.isDigit = true :=
  Nat.isDigit_of_mem_toDigits (by decide) (by decide) member

theorem separator_notMem_toString (index : Nat) :
    '-' ∉ Nat.toDigits 10 index := by
  intro member
  have digit := isDigit_of_mem_toString index member
  revert digit
  decide

theorem toDigits_inj {first second : Nat}
    (same : Nat.toDigits 10 first = Nat.toDigits 10 second) :
    first = second := by
  rw [← Nat.ofDigitChars_ten_toDigits (n := first), same,
    Nat.ofDigitChars_ten_toDigits]

theorem toList_auditStart (serviceName : String)
    (label : String × String) :
    (auditStart serviceName label).toList =
      serviceName.toList ++
        '-' :: (label.1.toList ++ '-' :: (label.2.toList ++ ['-'])) := by
  simp [auditStart]

theorem toList_globalMessage (serviceName auditType : String) :
    (globalMessage serviceName auditType).toList =
      serviceName.toList ++ '-' :: auditType.toList := by
  simp [globalMessage]

/-- Labels of places are the same when group and letter are. -/
theorem labelAt_eq_iff {place other : Place} :
    labelAt other = labelAt place ↔
      other.1 = place.1 ∧ pathLetterAt other.2 = pathLetterAt place.2 := by
  simp only [labelAt, Prod.mk.injEq, and_congr_left_iff]
  intro _
  constructor
  · intro same
    apply toDigits_inj
    rw [← toList_toString, ← toList_toString, same]
  · intro same
    rw [same]

variable (serviceName : String) (place other : Place) (auditType : String)

theorem auditStart_prefix_iff :
    (auditStart serviceName (labelAt other)).toList <+:
        (auditMessage serviceName (labelAt place) auditType).toList ↔
      labelAt other = labelAt place := by
  rw [labelAt_eq_iff, auditMessage, String.toList_append, toList_auditStart,
    toList_auditStart]
  simp only [labelAt, toList_toString, toList_pathLetterAt,
    List.append_assoc, List.cons_append, List.prefix_append_right_inj,
    List.nil_append, List.cons_prefix_cons, true_and]
  rw [append_cons_prefix_iff (separator_notMem_toString _)
    (separator_notMem_toString _)]
  constructor
  · rintro ⟨group, letter⟩
    refine ⟨toDigits_inj group, ?_⟩
    apply String.toList_inj.mp
    rw [toList_pathLetterAt, toList_pathLetterAt]
    simpa using letter
  · rintro ⟨group, letter⟩
    have same := congrArg String.toList letter
    rw [toList_pathLetterAt, toList_pathLetterAt] at same
    rw [group]
    simpa using same

/-- An audit for a slot is read under the label of the slot only. -/
theorem auditTypeFor_message :
    auditTypeFor serviceName (labelAt other)
        (auditMessage serviceName (labelAt place) auditType) =
      if labelAt other = labelAt place then some auditType else none := by
  simp only [auditTypeFor, auditStart_prefix_iff]
  split
  · rename_i same
    rw [same, auditMessage, String.toList_append, List.drop_left,
      String.ofList_toList]
  · rfl

/-- The types of the audits for the server. -/
def IsGlobalType (auditType : String) : Prop :=
  auditType = "connected" ∨ auditType = "disconnected"

/-- After the name of the service, audits for slots have a digit. -/
theorem auditStart_not_prefix_global {auditType : String}
    (global : IsGlobalType auditType) :
    ¬ (auditStart serviceName (labelAt place)).toList <+:
      (globalMessage serviceName auditType).toList := by
  have letter :
      ∃ first rest, auditType.toList = first :: rest ∧
        first.isDigit = false ∧ first ≠ '-' := by
    rcases global with rfl | rfl
    · exact ⟨'c', "onnected".toList, by decide, by decide, by decide⟩
    · exact ⟨'d', "isconnected".toList, by decide, by decide, by decide⟩
  rcases letter with ⟨first, rest, isType, notDigit, notSeparator⟩
  rw [toList_auditStart, toList_globalMessage, isType]
  simp only [labelAt, toList_toString, List.prefix_append_right_inj,
    List.cons_prefix_cons, true_and]
  intro starts
  cases digits : Nat.toDigits 10 place.1 with
  | nil =>
      rw [digits] at starts
      exact notSeparator (List.cons_prefix_cons.mp starts).1.symm
  | cons digit others =>
      have isDigit : digit.isDigit = true :=
        isDigit_of_mem_toString place.1 (by simp [digits])
      rw [digits] at starts
      rw [(List.cons_prefix_cons.mp starts).1, notDigit] at isDigit
      simp at isDigit

/-- Audits for the server state nothing of the slots. -/
theorem auditTypeFor_global {auditType : String}
    (global : IsGlobalType auditType) :
    auditTypeFor serviceName (labelAt place)
        (globalMessage serviceName auditType) = none := by
  simp only [auditTypeFor]
  exact if_neg (auditStart_not_prefix_global serviceName place global)

/-- Audits for slots state nothing of the server. -/
theorem globalTypeIn_message :
    globalTypeIn serviceName
        (auditMessage serviceName (labelAt place) auditType) = none := by
  have apart :
      ∀ {globalType}, IsGlobalType globalType →
        auditMessage serviceName (labelAt place) auditType ≠
          globalMessage serviceName globalType := by
    intro globalType global same
    apply auditStart_not_prefix_global serviceName place global
    rw [← same]
    exact (auditStart_prefix_iff serviceName place place auditType).mpr rfl
  rw [globalTypeIn, if_neg (apart (Or.inl rfl)), if_neg (apart (Or.inr rfl))]

theorem globalTypeIn_global {auditType : String}
    (global : IsGlobalType auditType) :
    globalTypeIn serviceName (globalMessage serviceName auditType) =
      some auditType := by
  rcases global with rfl | rfl
  · rw [globalTypeIn, if_pos rfl]
  · rw [globalTypeIn, if_neg, if_pos rfl]
    intro same
    have types := congrArg String.toList same
    rw [toList_globalMessage, toList_globalMessage,
      List.append_cancel_left_eq] at types
    revert types
    decide

end Labels

/-! ## What the handlers raise -/

/-- The audit for the slot with which a connection event is answered. -/
def auditTypeOf : PeerConnectionEvent → String
  | .opened => "passive"
  | .closed => "disconnected"
  | .activated => "active"
  | .deactivated => "passive"

/-- The audit for the server, given whether a connection is left. -/
def globalTypeOf (established : Bool) : PeerConnectionEvent → Option String
  | .closed => if established then none else some "disconnected"
  | .activated => some "connected"
  | _ => none

section Raised

variable (server : IEC104Server)

theorem sendConnectionStatusAudit_raises (label : String × String)
    (auditType : String) :
    let message := auditMessage server.serviceName label auditType
    let audited :=
      sendConnectionStatusAudit server auditType label.1 label.2
    audited.1 = { server with lastConnectionAudit := message } ∧
      auditLog audited.2 =
        unlessSame server.lastConnectionAudit message := by
  have message :
      server.serviceName ++ "-" ++ label.1 ++ "-" ++ label.2 ++ "-" ++
          auditType =
        auditMessage server.serviceName label auditType := rfl
  simp only [sendConnectionStatusAudit, message, beq_iff_eq, unlessSame]
  split
  · rename_i same
    rw [same]
    exact ⟨rfl, rfl⟩
  · exact ⟨rfl, rfl⟩

theorem sendGlobalStatusAudit_raises (auditType : String) :
    let audited := sendGlobalStatusAudit server auditType
    audited.1 = { server with lastGlobalAudit := auditType } ∧
      auditLog audited.2 =
        (unlessSame server.lastGlobalAudit auditType).map
          (globalMessage server.serviceName) := by
  simp only [sendGlobalStatusAudit, beq_iff_eq, unlessSame]
  split
  · rename_i same
    rw [same]
    exact ⟨rfl, rfl⟩
  · exact ⟨rfl, rfl⟩

/-- The global audits of an event, without a repetition. -/
def globalLogOf (lastGlobalAudit : String) (raised : Option String) :
    List String :=
  raised.elim [] (unlessSame lastGlobalAudit)

/-- What an event changes of the memory of the audits, and what it raises. -/
structure Raises (before after : IEC104Server) (label : String × String)
    (auditType : String) (globalType : Option String)
    (effects : List Effect) : Prop where
  serviceName : after.serviceName = before.serviceName
  lastConnectionAudit :
    after.lastConnectionAudit =
      auditMessage before.serviceName label auditType
  lastGlobalAudit :
    after.lastGlobalAudit = globalType.getD before.lastGlobalAudit
  raised :
    auditLog effects =
      unlessSame before.lastConnectionAudit
          (auditMessage before.serviceName label auditType) ++
        (globalLogOf before.lastGlobalAudit globalType).map
          (globalMessage before.serviceName)

theorem handleSlotEvent_raises (group slot : Nat) (con : Connection)
    (what : PeerConnectionEvent) :
    let handled := handleSlotEvent server group slot con what
    Raises server handled.1 (slotLabel server group slot) (auditTypeOf what)
      (globalTypeOf handled.1.isAnyConnectionEstablished what)
      handled.2 := by
  rcases
      sendConnectionStatusAudit_raises server (slotLabel server group slot)
        (auditTypeOf what) with
    ⟨left, raised⟩
  cases what with
  | opened =>
      simp only [handleSlotEvent, auditTypeOf] at left raised ⊢
      rw [left]
      exact ⟨rfl, rfl, rfl, by simpa [globalTypeOf, globalLogOf] using raised⟩
  | closed =>
      simp only [handleSlotEvent, auditTypeOf] at left raised ⊢
      rw [left]
      split
      · rename_i established
        rw [globalTypeOf, if_pos established]
        exact ⟨rfl, rfl, rfl, by simpa [globalLogOf] using raised⟩
      · rename_i deserted
        rw [isAnyConnectionEstablished, config_sendGlobalStatusAudit,
          ← isAnyConnectionEstablished, globalTypeOf, if_neg deserted]
        rcases sendGlobalStatusAudit_raises _ "disconnected" with
          ⟨globalLeft, globalRaised⟩
        rw [globalLeft]
        refine ⟨rfl, rfl, rfl, ?_⟩
        rw [auditLog_append, raised, globalRaised]
        rfl
  | activated =>
      simp only [handleSlotEvent, auditTypeOf] at left raised ⊢
      rw [left]
      rcases sendGlobalStatusAudit_raises _ "connected" with
        ⟨globalLeft, globalRaised⟩
      rw [globalLeft]
      refine ⟨rfl, rfl, rfl, ?_⟩
      rw [auditLog_append, raised, globalRaised]
      rfl
  | deactivated =>
      simp only [handleSlotEvent, auditTypeOf] at left raised ⊢
      rw [left]
      exact ⟨rfl, rfl, rfl, by simpa [globalTypeOf, globalLogOf] using raised⟩

/-- The index of each group is its position, and its slots have letters. -/
def Lettered (config : IEC104Config) : Prop :=
  ∀ (group : Nat) (entry : Nat × List (String × String)),
    config.layout[group]? = some entry →
      entry.1 = group ∧
        ∀ (slot : Nat) (pair : String × String),
          entry.2[slot]? = some pair → pair.2 = pathLetterAt slot

section Lettered

variable {config : IEC104Config} {group : Nat} {redGroup : RedGroup}

theorem layout_getElem?
    (inGroups : config.redundancyGroups[group]? = some redGroup) :
    config.layout[group]? =
      some
        (redGroup.index,
          redGroup.connections.map fun connection =>
            (connection.clientIp, connection.pathLetter)) := by
  rw [layout, List.getElem?_map, inGroups, Option.map_some]

theorem Lettered.index (lettered : Lettered config)
    (inGroups : config.redundancyGroups[group]? = some redGroup) :
    redGroup.index = group :=
  (lettered group _ (layout_getElem? inGroups)).1

theorem Lettered.pathLetter (lettered : Lettered config)
    (inGroups : config.redundancyGroups[group]? = some redGroup)
    {slot : Nat} {connection : RedGroupCon}
    (inGroup : redGroup.connections[slot]? = some connection) :
    connection.pathLetter = pathLetterAt slot := by
  refine
    (lettered group _ (layout_getElem? inGroups)).2 slot
      (connection.clientIp, connection.pathLetter) ?_
  rw [List.getElem?_map, inGroup, Option.map_some]

end Lettered

variable {server}

theorem slotLabel_eq (lettered : Lettered server.config) {group slot : Nat}
    {connection : RedGroupCon}
    (present : server.config.slot? group slot = some connection) :
    slotLabel server group slot = labelAt (group, slot) := by
  rcases Option.bind_eq_some_iff.mp present with
    ⟨redGroup, inGroups, inGroup⟩
  rw [slotLabel, labelAt, inGroups, present, Option.map_some,
    Option.map_some, Option.getD_some, Option.getD_some,
    lettered.pathLetter inGroups inGroup, lettered.index inGroups]

/-- The audits of an event whose slot is found. -/
theorem connectionEventHandler_raises (lettered : Lettered server.config)
    {peerAddress : String} {group slot : Nat} {isNew : Bool}
    (hasPort : (splitPeerAddress peerAddress).2 ≠ "")
    (found : slotFor server peerAddress = some (group, slot, isNew))
    (con : Connection) (what : PeerConnectionEvent) :
    let handled := connectionEventHandler server con peerAddress what
    Raises server handled.1 (labelAt (group, slot)) (auditTypeOf what)
      (globalTypeOf handled.1.isAnyConnectionEstablished what)
      handled.2 := by
  rw [connectionEventHandler_eq, found]
  dsimp only
  have assigned :
      Lettered
        (assignSlot server peerAddress (group, slot, isNew)).config := by
    rw [Lettered, layout_assignSlot]
    exact lettered
  rcases assignSlot_slot? hasPort found with ⟨connection, present, -⟩
  have raises :=
    handleSlotEvent_raises
      (assignSlot server peerAddress (group, slot, isNew)) group slot con
      what
  rw [slotLabel_eq assigned present] at raises
  rw [assignSlot] at raises ⊢
  split at raises
  · rename_i new
    rw [if_pos new]
    exact { raises with }
  · rename_i known
    rw [if_neg known]
    exact raises

end Raised

/-! ## The trail so far -/

/--
What is known of a server and of the trail up to now: the audits remembered
are the last ones of the trail, and the audits for the server alternate.
-/
structure Trail (service : String) (server : IEC104Server)
    (trail : List String) : Prop where
  serviceName : server.serviceName = service
  remembers :
    ∀ place,
      Remembers (auditTypeFor service (labelAt place))
        server.lastConnectionAudit trail
  first :
    (trail.filterMap (globalTypeIn service)).head? =
      some "disconnected"
  last :
    (trail.filterMap (globalTypeIn service)).getLast? =
      some server.lastGlobalAudit
  alternates :
    (trail.filterMap (globalTypeIn service)).IsChain (· ≠ ·)

namespace Trail

variable {service : String} {before after : IEC104Server}
  {trail : List String} {effects : List Effect}

theorem leaves (kept : Trail service before trail)
    (leaves : LeavesSlots before after effects) :
    Trail service after (trail ++ auditLog effects) := by
  rw [leaves.silent, List.append_nil]
  constructor
  · rw [leaves.serviceName, kept.serviceName]
  · rw [leaves.lastConnectionAudit]
    exact kept.remembers
  · exact kept.first
  · rw [leaves.lastGlobalAudit]
    exact kept.last
  · exact kept.alternates

section Raising

variable {place : Place} {auditType : String} {globalType : Option String}
  (kept : Trail service before trail)
  (raises :
    Raises before after (labelAt place) auditType globalType effects)
  (global : ∀ type, globalType = some type → IsGlobalType type)

include raises global

/-- Audits for the server state nothing of the slots. -/
theorem globals_silent (other : Place) :
    ∀ message ∈
        (globalLogOf before.lastGlobalAudit globalType).map
          (globalMessage service),
      auditTypeFor service (labelAt other) message = none := by
  intro message member
  rcases List.mem_map.mp member with ⟨type, raised, rfl⟩
  cases globalType with
  | none => simp [globalLogOf] at raised
  | some wanted =>
      simp only [globalLogOf, Option.elim_some, unlessSame] at raised
      split at raised
      · simp at raised
      · rw [List.mem_singleton.mp raised]
        exact auditTypeFor_global service other (global wanted rfl)

include kept

/-- The audits for the server after an event. -/
theorem globals_raised :
    (trail ++ auditLog effects).filterMap (globalTypeIn service) =
      trail.filterMap (globalTypeIn service) ++
        globalLogOf before.lastGlobalAudit globalType := by
  have silent :
      (unlessSame before.lastConnectionAudit
          (auditMessage service (labelAt place) auditType)).filterMap
        (globalTypeIn service) = [] := by
    rw [unlessSame]
    split
    · rfl
    · simp [globalTypeIn_message]
  have globals :
      ((globalLogOf before.lastGlobalAudit globalType).map
          (globalMessage service)).filterMap (globalTypeIn service) =
        globalLogOf before.lastGlobalAudit globalType := by
    cases globalType with
    | none => rfl
    | some type =>
        simp only [globalLogOf, Option.elim_some, unlessSame]
        split
        · rfl
        · simp [globalTypeIn_global service (global type rfl)]
  rw [List.filterMap_append, raises.raised, List.filterMap_append,
    kept.serviceName, silent, globals, List.nil_append]

/-- The trail states what was raised for the slot, and else what it did. -/
theorem lastStatement_raised (other : Place) :
    lastStatement (auditTypeFor service (labelAt other))
        (trail ++ auditLog effects) =
      if labelAt other = labelAt place then
        some auditType
      else
        lastStatement (auditTypeFor service (labelAt other)) trail := by
  rw [raises.raised, kept.serviceName, ← List.append_assoc,
    lastStatement_append_silent _ (globals_silent raises global other),
    (kept.remembers other).lastStatement_unlessSame, auditTypeFor_message]
  split <;> rfl

theorem raised : Trail service after (trail ++ auditLog effects) := by
  have globals := kept.globals_raised raises global
  constructor
  · rw [raises.serviceName, kept.serviceName]
  · intro other
    rw [raises.raised, raises.lastConnectionAudit, kept.serviceName,
      ← List.append_assoc]
    exact
      ((kept.remembers other).next _).append_silent
        (globals_silent raises global other)
  · rw [globals, List.head?_append, kept.first]
    rfl
  · rw [globals, raises.lastGlobalAudit]
    cases globalType with
    | none => simpa [globalLogOf] using kept.last
    | some type =>
        exact (isChain_unlessSame kept.alternates kept.last type).2
  · rw [globals]
    cases globalType with
    | none => simpa [globalLogOf] using kept.alternates
    | some type =>
        exact (isChain_unlessSame kept.alternates kept.last type).1

end Raising

end Trail

/-! ## The start of the slave -/

/-- A server that has not started its slave yet. -/
structure New (server : IEC104Server) : Prop where
  groups : Fresh server.config.redundancyGroups
  lastConnectionAudit : server.lastConnectionAudit = ""
  lastGlobalAudit : server.lastGlobalAudit = ""

section Start

variable (server : IEC104Server)

/-- The message of one of the initial audits. -/
def messageOf (serviceName : String) (audit : ConnectionAudit) : String :=
  auditMessage serviceName (audit.redGroupIndex, audit.pathLetter)
    audit.auditType

theorem sendConnectionStatusAudits_raises (audits : List ConnectionAudit) :
    let messages := audits.map (messageOf server.serviceName)
    let audited := sendConnectionStatusAudits server audits
    audited.1 =
        { server with
          lastConnectionAudit :=
            messages.getLastD server.lastConnectionAudit } ∧
      auditLog audited.2 =
        withoutRepeats server.lastConnectionAudit messages := by
  induction audits generalizing server with
  | nil => exact ⟨rfl, rfl⟩
  | cons audit rest ih =>
      rcases
          sendConnectionStatusAudit_raises server
            (audit.redGroupIndex, audit.pathLetter) audit.auditType with
        ⟨left, raised⟩
      dsimp only at left raised
      simp only [sendConnectionStatusAudits]
      rw [left]
      rcases
          ih
            { server with
              lastConnectionAudit := messageOf server.serviceName audit } with
        ⟨later, others⟩
      constructor
      · rw [List.map_cons, List.getLastD_cons]
        exact later
      · rw [auditLog_append, raised]
        exact congrArg _ others

/-- The configuration `sendInitialAudits` works on. -/
def letteredConfig : IEC104Config :=
  { server.config with
    redundancyGroups := server.config.redundancyGroups.map setPathLetters }

theorem letteredConfig_lettered
    (fresh : Fresh server.config.redundancyGroups) :
    Lettered (letteredConfig server) := by
  intro group entry inLayout
  rw [layout, letteredConfig, List.map_map, List.getElem?_map,
    Option.map_eq_some_iff] at inLayout
  rcases inLayout with ⟨redGroup, inGroups, rfl⟩
  have index := fresh.index inGroups
  refine ⟨index, ?_⟩
  intro slot pair inSlots
  simp only [Function.comp_apply, setPathLetters, List.getElem?_map,
    List.getElem?_mapIdx, Option.map_map, Option.map_eq_some_iff] at inSlots
  rcases inSlots with ⟨connection, -, rfl⟩
  rfl

end Start

section InitialAudits

variable {config : IEC104Config} (lettered : Lettered config)

/-- There is a slot at the place. -/
def HasSlot (config : IEC104Config) (place : Place) : Prop :=
  (config.slot? place.1 place.2).isSome = true

/-- An initial audit states nothing of the slots but that they are free. -/
def IsInitial (config : IEC104Config) (audit : ConnectionAudit) : Prop :=
  ∃ place, (audit.redGroupIndex, audit.pathLetter) = labelAt place ∧
    (audit.auditType = "disconnected" ∨
      ∀ other, HasSlot config other → labelAt other ≠ labelAt place)

theorem hasSlot_iff {place : Place} :
    HasSlot config place ↔
      ∃ redGroup,
        config.redundancyGroups[place.1]? = some redGroup ∧
          place.2 < redGroup.connections.length := by
  rw [HasSlot, slot?]
  cases config.redundancyGroups[place.1]? with
  | none => simp
  | some redGroup => simp

/-- The second label of a group without a second slot is of no slot. -/
theorem labelAt_ne_of_short {group : Nat} {redGroup : RedGroup}
    (inGroups : config.redundancyGroups[group]? = some redGroup)
    {position : Nat}
    (short : redGroup.connections.length ≤ position) (second : position ≤ 1)
    {other : Place} (isSlot : HasSlot config other) :
    labelAt other ≠ labelAt (group, position) := by
  rw [Ne, labelAt_eq_iff]
  rintro ⟨rfl, letter⟩
  rcases hasSlot_iff.mp isSlot with ⟨same, there, within⟩
  rw [inGroups, Option.some.injEq] at there
  subst there
  have first : other.2 = 0 := by omega
  have isSecond : position = 1 := by omega
  simp [pathLetterAt, first, isSecond] at letter

/-- No slot has the label of a group that is not configured. -/
theorem labelAt_ne_of_unconfigured {group position : Nat}
    (unconfigured : config.redundancyGroups.length ≤ group)
    {other : Place} (isSlot : HasSlot config other) :
    labelAt other ≠ labelAt (group, position) := by
  rw [Ne, labelAt_eq_iff]
  rintro ⟨rfl, -⟩
  rcases hasSlot_iff.mp isSlot with ⟨redGroup, there, -⟩
  rw [List.getElem?_eq_none unconfigured] at there
  simp at there

include lettered

theorem initialGroupAudits_isInitial {group : Nat} {redGroup : RedGroup}
    (inGroups : config.redundancyGroups[group]? = some redGroup) :
    ∀ audit ∈ initialGroupAudits group redGroup,
      IsInitial config audit := by
  have unused :
      ∀ position, redGroup.connections.length ≤ position → position ≤ 1 →
        IsInitial config
          ⟨"unused", (labelAt (group, position)).1,
            (labelAt (group, position)).2⟩ :=
    fun position short second =>
      ⟨(group, position), rfl,
        Or.inr fun other => labelAt_ne_of_short inGroups short second⟩
  intro audit member
  rw [initialGroupAudits, List.mem_append, List.mem_map] at member
  rcases member with ⟨connection, inGroup, rfl⟩ | isUnused
  · rcases List.mem_iff_getElem?.mp inGroup with ⟨slot, present⟩
    refine ⟨(group, slot), ?_, Or.inl rfl⟩
    rw [labelAt, lettered.pathLetter inGroups present]
  · split at isUnused
    · rename_i none
      rcases List.mem_pair.mp isUnused with rfl | rfl
      · exact unused 0 none.le (by omega)
      · exact unused 1 (by omega) le_rfl
    · rename_i one
      rw [List.mem_singleton.mp isUnused]
      exact unused 1 one.le le_rfl
    · simp at isUnused

theorem initialAudits_isInitial :
    ∀ audit ∈ initialAudits config, IsInitial config audit := by
  intro audit member
  rw [initialAudits, List.mem_append, List.mem_flatMap] at member
  rcases member with ⟨entry, inGroups, isGroup⟩ | isUnused
  · exact
      initialGroupAudits_isInitial lettered
        (List.mem_zipIdx_iff_getElem?.mp inGroups) audit isGroup
  · rw [unusedGroupAudits, List.mem_flatMap] at isUnused
    rcases isUnused with ⟨group, inRange, isGroup⟩
    have unconfigured : config.redundancyGroups.length ≤ group :=
      (List.mem_range'_1.mp inRange).1
    rcases List.mem_pair.mp isGroup with rfl | rfl
    · exact
        ⟨(group, 0), rfl,
          Or.inr fun other => labelAt_ne_of_unconfigured unconfigured⟩
    · exact
        ⟨(group, 1), rfl,
          Or.inr fun other => labelAt_ne_of_unconfigured unconfigured⟩

/-- Each slot has an initial audit, which states that it is free. -/
theorem mem_initialAudits {place : Place} (isSlot : HasSlot config place) :
    ⟨"disconnected", (labelAt place).1, (labelAt place).2⟩ ∈
      initialAudits config := by
  rcases hasSlot_iff.mp isSlot with ⟨redGroup, inGroups, within⟩
  have present := List.getElem?_eq_getElem within
  rw [initialAudits, List.mem_append, List.mem_flatMap]
  left
  refine
    ⟨(redGroup, place.1), List.mem_zipIdx_iff_getElem?.mpr inGroups, ?_⟩
  rw [initialGroupAudits, List.mem_append, List.mem_map]
  left
  refine ⟨redGroup.connections[place.2], List.getElem_mem within, ?_⟩
  rw [labelAt, lettered.pathLetter inGroups present]

/-- The initial audits state that all slots are free. -/
theorem lastStatement_initialAudits (service : String) {place : Place}
    (isSlot : HasSlot config place) :
    lastStatement (auditTypeFor service (labelAt place))
        ((initialAudits config).map (messageOf service)) =
      some "disconnected" := by
  apply lastStatement_of_forall
  · refine
      ⟨_, List.mem_map_of_mem (mem_initialAudits lettered isSlot), ?_⟩
    exact (auditTypeFor_message service place place _).trans (if_pos rfl)
  · intro message member auditType stated
    rcases List.mem_map.mp member with ⟨audit, isAudit, rfl⟩
    rcases initialAudits_isInitial lettered audit isAudit with
      ⟨other, label, initial⟩
    rw [messageOf, label, auditTypeFor_message] at stated
    split at stated
    · rename_i same
      rcases initial with disconnected | noSlot
      · rw [← Option.some.inj stated, disconnected]
      · exact (noSlot place isSlot same).elim
    · simp at stated

end InitialAudits

end Iec104North.Audits
