import Iec104North.Commands
import Iec104North.Library.Machine
import Mathlib.Data.List.Nodup

/-!
# The ledger of commands

What the server is for, as far as commands are concerned: commands come in,
feedback of the south side goes to the first command it fits, commands are
discarded, and the control callback returns.  A ledger has the outstanding
commands, the handlers that are in the callback and the number of commands so
far; a move changes it and hands over messages for the masters.

Nothing here depends on ASDUs from masters, the configuration or the table of
points.  `LedgerRefinement` shows that the server is an instance.
-/

namespace Iec104North.CommandLedger

open Iec104North.Library
open Iec104North.Values
open Iec104North.Server
open Iec104North.OutstandingCommands
open Iec104North.Commands

/-! ## Feedback and messages -/

/-- The two kinds of feedback from the south side. -/
inductive FeedbackKind where
  | actCon
  | actTerm
deriving DecidableEq, Repr

/-- Feedback from the south side. -/
structure Feedback where
  kind : FeedbackKind
  type : Int
  ca : Int
  ioa : Int
  isNegative : Bool
deriving DecidableEq, Repr

/-- What is handed over to lib60870 for the master of a command. -/
inductive Message where
  | actCon (isSelect isNegative : Bool)
  | actTerm (isNegative : Bool)
deriving DecidableEq, Repr

/-- A message for the command at an address, to be sent on a connection. -/
structure Delivery where
  address : Nat
  connection : Connection
  message : Message
deriving DecidableEq, Repr

/--
The message an effect hands over to lib60870 for an outstanding command.  The
flag of an ACT-TERM is that of the ASDU it is sent with, which lib60870 may
still rewrite.  The answer to a command whose forwarding has failed is the
ACT-CON of this command.
-/
def deliveryOf : Effect → Option Delivery
  | .sendActCon (some command) connection _ isNegative =>
      some
        ⟨command.address, connection, .actCon command.isSelect isNegative⟩
  | .sendActTerm (some command) connection asdu =>
      some ⟨command.address, connection, .actTerm asdu.isNegative⟩
  | .sendAsdu (some command) connection asdu =>
      some
        ⟨command.address, connection,
          .actCon command.isSelect asdu.isNegative⟩
  | _ => none

/-- The messages for outstanding commands among some effects. -/
def deliveries (effects : List Effect) : List Delivery :=
  effects.filterMap deliveryOf

@[simp]
theorem deliveries_append (first second : List Effect) :
    deliveries (first ++ second) =
      deliveries first ++ deliveries second := by
  simp [deliveries]

/-- The messages for the command at an address. -/
def messagesTo (address : Nat) (delivered : List Delivery) :
    List Message :=
  (delivered.filter fun delivery => delivery.address == address).map
    Delivery.message

@[simp]
theorem messagesTo_nil (address : Nat) : messagesTo address [] = [] :=
  rfl

@[simp]
theorem messagesTo_append (address : Nat) (first second : List Delivery) :
    messagesTo address (first ++ second) =
      messagesTo address first ++ messagesTo address second := by
  simp [messagesTo]

@[simp]
theorem messagesTo_singleton (address : Nat) (delivery : Delivery) :
    messagesTo address [delivery] =
      if delivery.address = address then [delivery.message] else [] := by
  by_cases same : delivery.address = address
  · simp [messagesTo, same]
  · simp [messagesTo, same]

/-! ## Moves -/

/-- The commands a feedback fits. -/
def Feedback.fits (feedback : Feedback) (command : OutstandingCommand) :
    Bool :=
  isMatching command feedback.type feedback.ca feedback.ioa

/-- What a feedback leaves of the command it goes to. -/
def Feedback.leaves (feedback : Feedback) (command : OutstandingCommand) :
    Option OutstandingCommand :=
  match feedback.kind with
  | .actCon => afterActCon feedback.isNegative command
  | .actTerm => none

/-- The message a feedback becomes. -/
def Feedback.message (feedback : Feedback)
    (command : OutstandingCommand) : Message :=
  match feedback.kind with
  | .actCon => .actCon command.isSelect feedback.isNegative
  | .actTerm => .actTerm feedback.isNegative

/-- A feedback delivered to a command. -/
def Feedback.deliver (feedback : Feedback)
    (command : OutstandingCommand) : Delivery :=
  ⟨command.address, command.connection, feedback.message command⟩

/-- The answer to a command whose forwarding has failed. -/
def refuse (handler : PendingOperation) : Delivery :=
  ⟨handler.command.address, handler.connection,
    .actCon handler.command.isSelect true⟩

/-- The outstanding commands, the handlers in the callback, and a counter. -/
structure Ledger where
  outstanding : List OutstandingCommand
  pending : List PendingOperation
  allocated : Nat
deriving DecidableEq, Repr

/--
A move of the ledger.  `enter` adds a command, which is refused at once when no
callback is registered; `returned` ends the handler of a command, which is
refused when the callback has failed; `discard` drops commands.
-/
inductive Move where
  | enter (handler : PendingOperation) (registered : Bool)
  | returned (handler : PendingOperation) (refused : Bool)
  | answer (feedback : Feedback)
  | discard (test : OutstandingCommand → Bool)
  | idle

/-- What a move makes of the list of outstanding commands. -/
def Move.outstanding (commands : List OutstandingCommand) :
    Move → List OutstandingCommand
  | .enter handler _ => commands ++ [handler.command]
  | .returned _ _ => commands
  | .answer feedback => alterFirst feedback.fits feedback.leaves commands
  | .discard test => commands.filter fun command => !test command
  | .idle => commands

/-- What a move makes of the handlers in the callback. -/
def Move.pending (handlers : List PendingOperation) :
    Move → List PendingOperation
  | .enter handler registered =>
      handlers ++ if registered then [handler] else []
  | .returned handler _ =>
      handlers.eraseP fun other =>
        other.command.address == handler.command.address
  | _ => handlers

/-- The number of commands after a move. -/
def Move.allocated (count : Nat) : Move → Nat
  | .enter _ _ => count + 1
  | _ => count

/-- The messages a move delivers. -/
def Move.delivers (commands : List OutstandingCommand) :
    Move → List Delivery
  | .enter handler registered => if registered then [] else [refuse handler]
  | .returned handler refused => if refused then [refuse handler] else []
  | .answer feedback =>
      (commands.find? feedback.fits).toList.map feedback.deliver
  | .discard _ => []
  | .idle => []

/-- One move of the ledger. -/
def Ledger.move (ledger : Ledger) (move : Move) : Ledger where
  outstanding := move.outstanding ledger.outstanding
  pending := move.pending ledger.pending
  allocated := move.allocated ledger.allocated

/--
A move fits a ledger: a new command gets the next address and waits for its
ACT-CON, and only a handler that is in the callback returns.
-/
def Move.Fits (ledger : Ledger) : Move → Prop
  | .enter handler _ =>
      handler.command.address = ledger.allocated ∧
        handler.command.state = .waitActCon
  | .returned handler _ => handler ∈ ledger.pending
  | _ => True

/-- The address of the command a move answers with feedback. -/
def Move.answers (commands : List OutstandingCommand) : Move → Option Nat
  | .answer feedback =>
      (commands.find? feedback.fits).map OutstandingCommand.address
  | _ => none

/-- The address of the command a move refuses. -/
def Move.refuses : Move → Option Nat
  | .enter handler false => some handler.command.address
  | .returned handler true => some handler.command.address
  | _ => none

/-! ## Addresses -/

/--
Every address belongs to one command: it is not used twice in the list or by
two handlers, and no message names an address that is still to come.
-/
structure Bookkeeping (ledger : Ledger) (sent : List Delivery) :
    Prop where
  outstandingNodup :
    (ledger.outstanding.map OutstandingCommand.address).Nodup
  outstandingAllocated :
    ∀ command ∈ ledger.outstanding, command.address < ledger.allocated
  pendingNodup :
    (ledger.pending.map fun handler => handler.command.address).Nodup
  pendingAllocated :
    ∀ handler ∈ ledger.pending, handler.command.address < ledger.allocated
  sentAllocated :
    ∀ delivery ∈ sent, delivery.address < ledger.allocated

/-- Two states of one outstanding command. -/
structure SameCommand (command changed : OutstandingCommand) : Prop where
  address : changed.address = command.address
  connection : changed.connection = command.connection
  typeId : changed.typeId = command.typeId
  ca : changed.ca = command.ca
  ioa : changed.ioa = command.ioa
  isSelect : changed.isSelect = command.isSelect

theorem sendActCon_same (command : OutstandingCommand)
    (isNegative : Bool) :
    SameCommand command (sendActCon command isNegative).1 := by
  rw [sendActCon]
  split <;> exact ⟨rfl, rfl, rfl, rfl, rfl, rfl⟩

/-- A feedback changes the progress of a command and nothing else. -/
theorem Feedback.leaves_same {feedback : Feedback}
    {command changed : OutstandingCommand}
    (left : feedback.leaves command = some changed) :
    SameCommand command changed := by
  rw [Feedback.leaves] at left
  split at left
  · rcases afterActCon_eq_some left with rfl
    exact sendActCon_same command feedback.isNegative
  · simp at left

theorem SameCommand.refl (command : OutstandingCommand) :
    SameCommand command command :=
  ⟨rfl, rfl, rfl, rfl, rfl, rfl⟩

theorem SameCommand.trans {first second third : OutstandingCommand}
    (earlier : SameCommand first second)
    (later : SameCommand second third) : SameCommand first third :=
  ⟨later.address.trans earlier.address,
    later.connection.trans earlier.connection,
    later.typeId.trans earlier.typeId, later.ca.trans earlier.ca,
    later.ioa.trans earlier.ioa, later.isSelect.trans earlier.isSelect⟩

/-- After a move every command was there before, or has just come in. -/
theorem Move.mem_outstanding {commands : List OutstandingCommand}
    {move : Move} {command : OutstandingCommand}
    (member : command ∈ move.outstanding commands) :
    (∃ old ∈ commands, SameCommand old command) ∨
      ∃ handler registered,
        move = .enter handler registered ∧ command = handler.command := by
  cases move with
  | enter handler registered =>
      rcases List.mem_append.mp member with old | isNew
      · exact Or.inl ⟨command, old, .refl command⟩
      · exact
          Or.inr ⟨handler, registered, rfl, List.mem_singleton.mp isNew⟩
  | returned handler refused =>
      exact Or.inl ⟨command, member, .refl command⟩
  | answer feedback =>
      rcases mem_alterFirst _ _ member with old | ⟨hit, found, left⟩
      · exact Or.inl ⟨command, old, .refl command⟩
      · exact
          Or.inl
            ⟨hit, List.mem_of_find?_eq_some found,
              Feedback.leaves_same left⟩
  | discard test =>
      exact
        Or.inl ⟨command, List.mem_of_mem_filter member, .refl command⟩
  | idle => exact Or.inl ⟨command, member, .refl command⟩

theorem nodup_concat_of_lt {α : Type} {label : α → Nat} {elements : List α}
    {element : α} (nodup : (elements.map label).Nodup)
    (below : ∀ other ∈ elements, label other < label element) :
    ((elements ++ [element]).map label).Nodup := by
  rw [List.map_append, List.nodup_append]
  refine ⟨nodup, by simp, ?_⟩
  intro value inList other isNew equal
  rcases List.mem_map.mp inList with ⟨old, member, rfl⟩
  have new : other = label element := by simpa using isNew
  have less := below old member
  omega

namespace Bookkeeping

variable {ledger : Ledger} {sent : List Delivery}

theorem enter (book : Bookkeeping ledger sent)
    {handler : PendingOperation} (registered : Bool)
    (next : handler.command.address = ledger.allocated) :
    Bookkeeping (ledger.move (.enter handler registered))
      (sent ++
        (Move.enter handler registered).delivers ledger.outstanding) := by
  have old : ∀ {address : Nat}, address < ledger.allocated →
      address < ledger.allocated + 1 := fun less => by omega
  have new : handler.command.address < ledger.allocated + 1 := by omega
  constructor
  · apply nodup_concat_of_lt book.outstandingNodup
    intro other member
    have less := book.outstandingAllocated other member
    omega
  · intro command member
    rcases List.mem_append.mp member with inList | isNew
    · exact old (book.outstandingAllocated command inList)
    · rcases List.mem_singleton.mp isNew with rfl
      exact new
  · cases registered with
    | false => simpa [Ledger.move, Move.pending] using book.pendingNodup
    | true =>
        simp only [Ledger.move, Move.pending, if_true]
        apply nodup_concat_of_lt book.pendingNodup
        intro other member
        have less := book.pendingAllocated other member
        omega
  · intro other member
    rcases List.mem_append.mp member with inList | isNew
    · exact old (book.pendingAllocated other inList)
    · cases registered with
      | false => simp at isNew
      | true =>
          rcases List.mem_singleton.mp isNew with rfl
          exact new
  · intro delivery member
    rcases List.mem_append.mp member with before | isNew
    · exact old (book.sentAllocated delivery before)
    · cases registered with
      | false =>
          rcases List.mem_singleton.mp isNew with rfl
          exact new
      | true => simp [Move.delivers] at isNew

theorem returned (book : Bookkeeping ledger sent)
    {handler : PendingOperation} (refused : Bool)
    (member : handler ∈ ledger.pending) :
    Bookkeeping (ledger.move (.returned handler refused))
      (sent ++
        (Move.returned handler refused).delivers ledger.outstanding) := by
  constructor
  · exact book.outstandingNodup
  · exact book.outstandingAllocated
  · exact List.Nodup.sublist (List.eraseP_sublist.map _) book.pendingNodup
  · intro other remains
    exact book.pendingAllocated other (List.mem_of_mem_eraseP remains)
  · intro delivery isSent
    rcases List.mem_append.mp isSent with before | isNew
    · exact book.sentAllocated delivery before
    · cases refused with
      | false => simp [Move.delivers] at isNew
      | true =>
          rcases List.mem_singleton.mp isNew with rfl
          exact book.pendingAllocated handler member

theorem answer (book : Bookkeeping ledger sent) (feedback : Feedback) :
    Bookkeeping (ledger.move (.answer feedback))
      (sent ++ (Move.answer feedback).delivers ledger.outstanding) := by
  constructor
  · refine List.Nodup.sublist ?_ book.outstandingNodup
    apply map_alterFirst_sublist
    intro element changed left
    exact (Feedback.leaves_same left).address
  · intro command member
    rcases mem_alterFirst _ _ member with inList | ⟨hit, found, left⟩
    · exact book.outstandingAllocated command inList
    · have less :=
        book.outstandingAllocated hit (List.mem_of_find?_eq_some found)
      rw [(Feedback.leaves_same left).address]
      exact less
  · exact book.pendingNodup
  · exact book.pendingAllocated
  · intro delivery isSent
    rcases List.mem_append.mp isSent with before | isNew
    · exact book.sentAllocated delivery before
    · simp only [Move.delivers, List.mem_map, Option.mem_toList] at isNew
      rcases isNew with ⟨command, found, rfl⟩
      exact
        book.outstandingAllocated command (List.mem_of_find?_eq_some found)

/-- Every move which fits keeps the books. -/
theorem move (book : Bookkeeping ledger sent) {move : Move}
    (fits : move.Fits ledger) :
    Bookkeeping (ledger.move move)
      (sent ++ move.delivers ledger.outstanding) := by
  cases move with
  | enter handler registered => exact book.enter registered fits.1
  | returned handler refused => exact book.returned refused fits
  | answer feedback => exact book.answer feedback
  | discard test =>
      simp only [Move.delivers, List.append_nil]
      exact
        ⟨List.Nodup.sublist (List.filter_sublist.map _)
            book.outstandingNodup,
          fun command member =>
            book.outstandingAllocated command (List.mem_of_mem_filter member),
          book.pendingNodup, book.pendingAllocated, book.sentAllocated⟩
  | idle =>
      simp only [Move.delivers, List.append_nil]
      exact
        ⟨book.outstandingNodup, book.outstandingAllocated, book.pendingNodup,
          book.pendingAllocated, book.sentAllocated⟩

/-- No message has been sent for a command that is still to come. -/
theorem messagesTo_next (book : Bookkeeping ledger sent) {address : Nat}
    (next : address = ledger.allocated) :
    messagesTo address sent = [] := by
  rw [messagesTo, List.map_eq_nil_iff, List.filter_eq_nil_iff]
  intro delivery member same
  have less := book.sentAllocated delivery member
  have equal : delivery.address = address := by simpa using same
  omega

end Bookkeeping

end Iec104North.CommandLedger
