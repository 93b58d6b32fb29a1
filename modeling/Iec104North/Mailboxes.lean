import Iec104North.FeedbackQueue
import Iec104North.Library.Simulation

/-!
# Mailboxes

A mailbox has the commands with one type, CA and IOA which wait for feedback, in
the order in which they came, and those of their handlers which are in the
control callback.  A command comes in at the end and feedback goes to the head.
A lost connection and a scan for timeouts take commands out wherever they are,
and a callback that fails answers its own command.

The server runs one mailbox for each key.  What becomes of a command depends on
the mail of its mailbox alone, whatever goes on for other keys in between.
-/

namespace Iec104North.Mailboxes

open Iec104North.Library
open Iec104North.Values
open Iec104North.Server
open Iec104North.OutstandingCommands
open Iec104North.Commands
open Iec104North.CommandPaths
open Iec104North.CommandLedger
open Iec104North.LedgerRefinement
open Iec104North.FeedbackQueue
open Iec104North.Connections
open Iec104North.Runs

/-! ## A mailbox -/

/-- The commands of a key that wait, and their handlers in the callback. -/
structure Mailbox where
  waiting : List OutstandingCommand
  pending : List PendingOperation
deriving DecidableEq, Repr

/-- What comes for a mailbox. -/
inductive Mail where
  | command (handler : PendingOperation) (registered : Bool)
  | returned (handler : PendingOperation) (refused : Bool)
  | feedback (kind : FeedbackKind) (isNegative : Bool)
  | lost (connection : Connection)
  | scan (currentTime : Nat)
deriving DecidableEq, Repr

namespace Mailbox

variable (mailbox : Mailbox)

/-- The mailbox without the commands that pass a test. -/
def without (test : OutstandingCommand → Bool) : Mailbox :=
  { mailbox with
    waiting := mailbox.waiting.filter fun command => !test command }

/-- What a mailbox does with its mail. -/
def take (key : Key) : Mail → Mailbox × List Delivery
  | .command handler registered =>
      (⟨mailbox.waiting ++ [handler.command],
          mailbox.pending ++ if registered then [handler] else []⟩,
        if registered then [] else [refuse handler])
  | .returned handler refused =>
      ({ mailbox with
          pending :=
            mailbox.pending.eraseP fun other =>
              other.command.address == handler.command.address },
        if refused then [refuse handler] else [])
  | .feedback kind isNegative =>
      let feedback := feedbackFor key kind isNegative
      ({ mailbox with waiting := answerHead mailbox.waiting feedback },
        mailbox.waiting.head?.toList.map feedback.deliver)
  | .lost connection =>
      (mailbox.without (isSentFromConnection · connection), [])
  | .scan currentTime => (mailbox.without (hasTimedOut · currentTime), [])

end Mailbox

/-- The mailbox of a key as a machine. -/
def mailboxMachine (key : Key) : Machine Mailbox Mail Delivery where
  step mailbox := mailbox.take key

@[simp]
theorem mailboxMachine_step (key : Key) (mailbox : Mailbox) (mail : Mail) :
    (mailboxMachine key).step mailbox mail = mailbox.take key mail :=
  rfl

/-! ## The mailboxes of a ledger -/

/-- The handlers of the commands with a key. -/
def keyPending (key : Key) (handlers : List PendingOperation) :
    List PendingOperation :=
  handlers.filter fun handler => keyOf handler.command == key

/-- The mailbox of a key in a ledger. -/
def mailboxIn (key : Key) (ledger : Ledger) : Mailbox where
  waiting := keyQueue key ledger.outstanding
  pending := keyPending key ledger.pending

section Moves

variable (key : Key) (ledger : Ledger)

theorem mailboxIn_enter (handler : PendingOperation) (registered : Bool) :
    mailboxIn key (ledger.move (.enter handler registered)) =
      if keyOf handler.command = key then
        ((mailboxIn key ledger).take key (.command handler registered)).1
      else
        mailboxIn key ledger := by
  by_cases mine : keyOf handler.command = key
  · cases registered <;>
      simp [mailboxIn, Ledger.move, Move.outstanding, Move.pending,
        Mailbox.take, keyQueue, keyPending, mine]
  · cases registered <;>
      simp [mailboxIn, Ledger.move, Move.outstanding, Move.pending,
        keyQueue, keyPending, mine]

/-- The handler that returns is the first one for its command. -/
theorem mailboxIn_returned {handler : PendingOperation}
    (found :
      ledger.pending.find? (isPendingFor handler.command.address) =
        some handler)
    (refused : Bool) :
    mailboxIn key (ledger.move (.returned handler refused)) =
      if keyOf handler.command = key then
        ((mailboxIn key ledger).take key (.returned handler refused)).1
      else
        mailboxIn key ledger := by
  have erased :=
    filter_eraseP_of_find? _ (fun other => keyOf other.command == key) found
  have pending :
      keyPending key (ledger.move (.returned handler refused)).pending =
        if keyOf handler.command == key then
          (keyPending key ledger.pending).eraseP
            (isPendingFor handler.command.address)
        else
          keyPending key ledger.pending :=
    erased
  rw [mailboxIn, pending]
  by_cases mine : keyOf handler.command = key
  · rw [if_pos (beq_iff_eq.mpr mine), if_pos mine]
    rfl
  · rw [if_neg (by simpa using mine), if_neg mine]
    rfl

theorem mailboxIn_answer (feedback : Feedback) :
    mailboxIn key (ledger.move (.answer feedback)) =
      if feedbackKey feedback = key then
        ((mailboxIn key ledger).take key
          (.feedback feedback.kind feedback.isNegative)).1
      else
        mailboxIn key ledger := by
  by_cases mine : feedbackKey feedback = key
  · rw [if_pos mine, mailboxIn]
    show (⟨keyQueue key (alterFirst _ _ _), _⟩ : Mailbox) = _
    rw [keyQueue_answer_same ledger.outstanding mine, ← mine]
    rfl
  · rw [if_neg mine, mailboxIn]
    show (⟨keyQueue key (alterFirst _ _ _), _⟩ : Mailbox) = _
    rw [keyQueue_answer_other ledger.outstanding mine]
    rfl

theorem mailboxIn_discard (test : OutstandingCommand → Bool) :
    mailboxIn key (ledger.move (.discard test)) =
      (mailboxIn key ledger).without test := by
  have waiting :
      keyQueue key
          (ledger.outstanding.filter fun command => !test command) =
        (keyQueue key ledger.outstanding).filter
          fun command => !test command :=
    List.filter_comm _ _ _
  exact
    congrArg (fun queue => Mailbox.mk queue (keyPending key ledger.pending))
      waiting

end Moves

/-! ## The mail of the server -/

section Server

variable (platform : Platform) (key : Key)

/-- The mailbox of a key in a system. -/
def mailboxOf (system : System) : Mailbox :=
  mailboxIn key (view system)

/-- The mail an event brings for a key. -/
def mailOf (system : System) : Event → Option Mail
  | .command connection asdu checkTime rcvdTime =>
      match
          commandMove platform system.server connection asdu checkTime
            rcvdTime with
      | .enter handler registered =>
          if keyOf handler.command = key then
            some (.command handler registered)
          else
            none
      | _ => none
  | .operationReturned address result =>
      match system.pending.find? (isPendingFor address) with
      | some handler =>
          if keyOf handler.command = key then
            some (.returned handler (decide (result ≤ 0)))
          else
            none
      | none => none
  | .datapoint _ dp _ =>
      if system.server.slaveRunning then
        match feedbackOf platform dp with
        | some feedback =>
            if feedbackKey feedback = key then
              some (.feedback feedback.kind feedback.isNegative)
            else
              none
        | none => none
      else
        none
  | .scanTimeouts currentTime => some (.scan currentTime)
  | .connection con peerAddress event =>
      if isLoss event && (slotFor system.server peerAddress).isSome then
        some (.lost con)
      else
        none
  | .interrogation _ _ _ => none
  | .slaveRunning _ => none
  | .registerControl => none

/-- The outstanding command an effect is about. -/
def commandOf : Effect → Option OutstandingCommand
  | .sendActCon command _ _ _ => command
  | .sendActTerm command _ _ => command
  | .sendAsdu command _ _ => command
  | _ => none

/-- The message an effect delivers for a command with a key. -/
def deliveryFor (effect : Effect) : Option Delivery :=
  if (commandOf effect).map keyOf = some key then deliveryOf effect
  else none

theorem deliveryOf_eq_none {effect : Effect}
    (isForNone : commandOf effect = none) : deliveryOf effect = none := by
  cases effect with
  | sendActCon command connection asdu isNegative =>
      rw [show command = none from isForNone]
      rfl
  | sendActTerm command connection asdu =>
      rw [show command = none from isForNone]
      rfl
  | sendAsdu command connection asdu =>
      rw [show command = none from isForNone]
      rfl
  | _ => rfl

/-- Effects about commands with one key. -/
theorem deliveries_of_key {effects : List Effect} {other : Key}
    (about :
      ∀ effect ∈ effects, ∀ command ∈ commandOf effect,
        keyOf command = other) :
    effects.filterMap (deliveryFor key) =
      if other = key then deliveries effects else [] := by
  by_cases mine : other = key
  · rw [if_pos mine, deliveries]
    apply List.filterMap_congr
    intro effect member
    rw [deliveryFor]
    split
    · rfl
    · rename_i apart
      cases isFor : commandOf effect with
      | none => exact (deliveryOf_eq_none isFor).symm
      | some command =>
          rw [isFor, Option.map_some, about effect member command isFor]
            at apart
          exact absurd (congrArg some mine) apart
  · rw [if_neg mine, List.filterMap_eq_nil_iff]
    intro effect member
    rw [deliveryFor, if_neg]
    intro isFor
    rcases Option.map_eq_some_iff.mp isFor with ⟨command, found, same⟩
    exact mine ((about effect member command found).symm.trans same)

theorem deliveries_of_silent {effects : List Effect}
    (silent : deliveries effects = []) :
    effects.filterMap (deliveryFor key) = [] := by
  rw [deliveries, List.filterMap_eq_nil_iff] at silent
  rw [List.filterMap_eq_nil_iff]
  intro effect member
  rw [deliveryFor, silent effect member, ite_self]

/-! ## The step -/

/-- The event is for the mailbox what mail it brings. -/
def TakesMail (system : System) (event : Event) : Prop :=
  let mail := (mailOf platform key system event).toList
  mailboxOf key (step platform system event).1 =
      (mailboxMachine key).after (mailboxOf key system) mail ∧
    (step platform system event).2.filterMap (deliveryFor key) =
      (mailboxMachine key).outputs (mailboxOf key system) mail

variable {platform key} {system : System} {event : Event}

theorem takesMail_of_some {mail : Mail}
    (brings : mailOf platform key system event = some mail)
    (mailbox :
      mailboxOf key (step platform system event).1 =
        ((mailboxOf key system).take key mail).1)
    (sent :
      (step platform system event).2.filterMap (deliveryFor key) =
        ((mailboxOf key system).take key mail).2) :
    TakesMail platform key system event := by
  rw [TakesMail, brings]
  refine ⟨mailbox, ?_⟩
  rw [sent]
  exact (List.append_nil _).symm

theorem takesMail_of_none
    (brings : mailOf platform key system event = none)
    (mailbox :
      mailboxOf key (step platform system event).1 = mailboxOf key system)
    (sent :
      (step platform system event).2.filterMap (deliveryFor key) = []) :
    TakesMail platform key system event := by
  rw [TakesMail, brings]
  exact ⟨mailbox, sent⟩

/-- A move of the mailbox of one key, and no move of the others. -/
theorem takesMail_of_key {other : Key} {mail : Mail}
    (brings :
      mailOf platform key system event =
        if other = key then some mail else none)
    (mailbox :
      mailboxOf key (step platform system event).1 =
        if other = key then ((mailboxOf key system).take key mail).1
        else mailboxOf key system)
    (sent :
      (step platform system event).2.filterMap (deliveryFor key) =
        if other = key then deliveries (step platform system event).2
        else [])
    (delivers :
      other = key →
        deliveries (step platform system event).2 =
          ((mailboxOf key system).take key mail).2) :
    TakesMail platform key system event := by
  by_cases mine : other = key
  · rw [if_pos mine] at brings mailbox sent
    exact takesMail_of_some brings mailbox (sent.trans (delivers mine))
  · rw [if_neg mine] at brings mailbox sent
    exact takesMail_of_none brings mailbox sent

/-- An event that makes no move brings no mail. -/
theorem takesMail_of_idle
    (brings : mailOf platform key system event = none)
    (idle : moveOf platform system event = .idle) :
    TakesMail platform key system event := by
  rcases step_moves platform system event with ⟨moved, sent⟩
  rw [idle] at moved sent
  refine takesMail_of_none brings ?_ (deliveries_of_silent key sent)
  rw [mailboxOf, moved]
  rfl

variable (platform key system)

theorem takesMail_command (connection : Connection) (asdu : Asdu)
    (checkTime rcvdTime : Nat) :
    TakesMail platform key system
      (.command connection asdu checkTime rcvdTime) := by
  rcases
      step_moves platform system
        (.command connection asdu checkTime rcvdTime) with
    ⟨moved, sent⟩
  by_cases admissible :
      ∃ io, Admissible platform system.server asdu io checkTime
  · rcases admissible with ⟨io, admissible⟩
    rcases
        enterAsduHandler_admissible platform system.server connection asdu
          checkTime rcvdTime admissible with
      ⟨parameters, isSelect, found, entered⟩
    have enters :=
      commandMove_admissible platform system.server connection asdu
        checkTime rcvdTime admissible found
    have move :
        moveOf platform system
            (.command connection asdu checkTime rcvdTime) =
          _ :=
      enters
    rw [move] at moved sent
    have brings :
        mailOf platform key system
            (.command connection asdu checkTime rcvdTime) =
          if
              keyOf
                  (newCommand system.server connection asdu rcvdTime
                    isSelect) =
                key then
            some
              (.command
                ⟨newCommand system.server connection asdu rcvdTime isSelect,
                  connection, forwardedAsdu asdu⟩
                system.server.operRegistered)
          else
            none := by
      simp only [mailOf, enters]
    refine takesMail_of_key brings ?_ ?_ fun _ => sent
    · rw [mailboxOf, moved]
      exact mailboxIn_enter key (view system) _ _
    · apply deliveries_of_key
      intro effect member command isFor
      simp only [step, entered] at member
      split at member
      · rw [List.mem_singleton.mp member] at isFor
        simp [commandOf] at isFor
      · rw [List.mem_singleton.mp member] at isFor
        rcases Option.some.inj isFor with rfl
        rfl
  · have idle :=
      commandMove_inadmissible platform system.server connection asdu
        checkTime rcvdTime admissible
    refine takesMail_of_idle ?_ idle
    simp only [mailOf, idle]

theorem takesMail_operationReturned (address : Nat) (result : Int) :
    TakesMail platform key system (.operationReturned address result) := by
  cases found : system.pending.find? (isPendingFor address) with
  | none =>
      apply takesMail_of_idle
      · simp only [mailOf, found]
      · simp only [moveOf, found]
  | some handler =>
      rcases
          step_moves platform system (.operationReturned address result) with
        ⟨moved, sent⟩
      have same : handler.command.address = address := by
        simpa [isPendingFor] using List.find?_some found
      have move :
          moveOf platform system (.operationReturned address result) =
            .returned handler (decide (result ≤ 0)) := by
        simp only [moveOf, found]
      rw [move] at moved sent
      have brings :
          mailOf platform key system (.operationReturned address result) =
            if keyOf handler.command = key then
              some (.returned handler (decide (result ≤ 0)))
            else
              none := by
        simp only [mailOf, found]
      refine takesMail_of_key brings ?_ ?_ fun _ => sent
      · rw [mailboxOf, moved]
        apply mailboxIn_returned
        rw [same]
        exact found
      · apply deliveries_of_key
        intro effect member command isFor
        simp only [step, found, operationReturned] at member
        split at member
        · exact absurd member List.not_mem_nil
        · rw [List.mem_singleton.mp member] at isFor
          rcases Option.some.inj isFor with rfl
          rfl

/-- Feedback is passed on to a command with its key. -/
theorem keyOf_of_mem_handleFeedback {server : IEC104Server}
    {feedback : Feedback} {effect : Effect}
    (member : effect ∈ (handleFeedback server feedback).2)
    {command : OutstandingCommand} (isFor : command ∈ commandOf effect) :
    keyOf command = feedbackKey feedback := by
  rcases feedback with ⟨kind, type, ca, ioa, isNegative⟩
  cases kind with
  | actCon =>
      simp only [handleFeedback, handleActCon] at member
      split at member
      · rename_i hit found
        rw [sendActCon_snd, List.mem_singleton] at member
        rw [member] at isFor
        rcases Option.some.inj isFor with rfl
        exact fits_iff.mp (List.find?_some found)
      · exact absurd member List.not_mem_nil
  | actTerm =>
      simp only [handleFeedback, handleActTerm] at member
      split at member
      · rename_i hit found
        rw [sendActTerm_snd, List.mem_singleton] at member
        rw [member] at isFor
        rcases Option.some.inj isFor with rfl
        exact fits_iff.mp (List.find?_some found)
      · exact absurd member List.not_mem_nil

/-- Feedback for a key goes to the head of its mailbox. -/
theorem delivers_answer (ledger : Ledger) (feedback : Feedback) :
    (Move.answer feedback).delivers ledger.outstanding =
      ((mailboxIn (feedbackKey feedback) ledger).take (feedbackKey feedback)
        (.feedback feedback.kind feedback.isNegative)).2 := by
  rw [Move.delivers, find?_fits]
  rfl

theorem takesMail_datapoint (assetName : String) (dp : Datapoint)
    (now : Nat) :
    TakesMail platform key system (.datapoint assetName dp now) := by
  by_cases running : system.server.slaveRunning = true
  · cases carries : feedbackOf platform dp with
    | none =>
        apply takesMail_of_idle
        · simp [mailOf, running, carries]
        · simp [moveOf, running, carries]
    | some feedback =>
        rcases
            step_moves platform system (.datapoint assetName dp now) with
          ⟨moved, sent⟩
        have move :
            moveOf platform system (.datapoint assetName dp now) =
              .answer feedback := by
          simp only [moveOf, running, if_true, carries]
        rw [move] at moved sent
        have brings :
            mailOf platform key system (.datapoint assetName dp now) =
              if feedbackKey feedback = key then
                some (.feedback feedback.kind feedback.isNegative)
              else
                none := by
          simp only [mailOf, running, if_true, carries]
        refine takesMail_of_key brings ?_ ?_ ?_
        · rw [mailboxOf, moved]
          exact mailboxIn_answer key (view system) feedback
        · apply deliveries_of_key
          intro effect member command isFor
          have handled :=
            sendDatapoint_feedback platform system.server assetName now
              carries running
          simp only [step, handled] at member
          exact keyOf_of_mem_handleFeedback member isFor
        · rintro rfl
          rw [sent]
          exact delivers_answer (view system) feedback
  · apply takesMail_of_idle
    · simp [mailOf, running]
    · simp [moveOf, running]

/-- Discarded commands leave every mailbox without a message. -/
theorem takesMail_of_discard {event : Event} {mail : Mail}
    {test : OutstandingCommand → Bool}
    (brings : mailOf platform key system event = some mail)
    (discards : moveOf platform system event = .discard test)
    (takes :
      (mailboxOf key system).take key mail =
        ((mailboxOf key system).without test, [])) :
    TakesMail platform key system event := by
  rcases step_moves platform system event with ⟨moved, sent⟩
  rw [discards] at moved sent
  refine takesMail_of_some brings ?_ ?_
  · rw [takes, mailboxOf, moved]
    exact mailboxIn_discard key (view system) test
  · rw [takes]
    exact deliveries_of_silent key sent

theorem takesMail_connection (con : Connection) (peerAddress : String)
    (event : PeerConnectionEvent) :
    TakesMail platform key system (.connection con peerAddress event) := by
  by_cases lost :
      (isLoss event && (slotFor system.server peerAddress).isSome) = true
  · have brings :
        mailOf platform key system (.connection con peerAddress event) =
          some (.lost con) := by
      rw [mailOf, if_pos lost]
    have discards :
        moveOf platform system (.connection con peerAddress event) =
          .discard (isSentFromConnection · con) := by
      rw [moveOf, if_pos lost]
    exact takesMail_of_discard platform key system brings discards rfl
  · apply takesMail_of_idle
    · rw [mailOf, if_neg lost]
    · rw [moveOf, if_neg lost]

/-- The step lemma: every event is for a mailbox what mail it brings. -/
theorem takesMail (event : Event) : TakesMail platform key system event := by
  cases event with
  | command connection asdu checkTime rcvdTime =>
      exact
        takesMail_command platform key system connection asdu checkTime
          rcvdTime
  | operationReturned address result =>
      exact takesMail_operationReturned platform key system address result
  | datapoint assetName dp now =>
      exact takesMail_datapoint platform key system assetName dp now
  | interrogation connection asdu qoi => exact takesMail_of_idle rfl rfl
  | scanTimeouts currentTime =>
      exact takesMail_of_discard platform key system rfl rfl rfl
  | connection con peerAddress event =>
      exact takesMail_connection platform key system con peerAddress event
  | slaveRunning running => exact takesMail_of_idle rfl rfl
  | registerControl => exact takesMail_of_idle rfl rfl

/-- The server tracks the mailbox of every key. -/
theorem server_tracks_mailbox :
    Tracks (machine platform) (mailboxMachine key) (mailboxOf key)
      (mailOf platform key) (deliveryFor key) :=
  ⟨takesMail platform key⟩

/--
In every run, the commands of a key and the messages for them are those of a
mailbox which takes the mail for this key, in the order in which it comes.
-/
theorem commands_runInMailboxes (start : System) (events : List Event) :
    let mail := (machine platform).observed (mailOf platform key) start events
    mailboxOf key ((machine platform).after start events) =
        (mailboxMachine key).after (mailboxOf key start) mail ∧
      ((machine platform).outputs start events).filterMap
          (deliveryFor key) =
        (mailboxMachine key).outputs (mailboxOf key start) mail :=
  (server_tracks_mailbox platform key).run start events

end Server

end Iec104North.Mailboxes
