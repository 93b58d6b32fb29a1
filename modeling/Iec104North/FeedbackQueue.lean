import Iec104North.LedgerRefinement

/-!
# The queue of one key

The commands with one type, CA and IOA form a queue: new ones come in at its
end, and feedback goes to its head.  An ACT-CON leaves a command that is
executed where it is, and an ACT-TERM takes the head away.  The ledger runs one
such queue for each key, as far as nothing is discarded.
-/

namespace Iec104North.FeedbackQueue

open Iec104North.Library
open Iec104North.Values
open Iec104North.Server
open Iec104North.OutstandingCommands
open Iec104North.Commands
open Iec104North.CommandLedger

/-! ## Keys -/

/-- What feedback says about its command. -/
structure Key where
  typeId : Int
  ca : Int
  ioa : Int
deriving DecidableEq, Repr

/-- The key of an outstanding command. -/
def keyOf (command : OutstandingCommand) : Key :=
  ⟨command.typeId, command.ca, command.ioa⟩

/-- The key of a feedback. -/
def feedbackKey (feedback : Feedback) : Key :=
  ⟨feedback.type, feedback.ca, feedback.ioa⟩

/-- A feedback for a key. -/
def feedbackFor (key : Key) (kind : FeedbackKind) (isNegative : Bool) :
    Feedback :=
  ⟨kind, key.typeId, key.ca, key.ioa, isNegative⟩

/-- The commands with a key, in the order of the list. -/
def keyQueue (key : Key) (commands : List OutstandingCommand) :
    List OutstandingCommand :=
  commands.filter fun command => keyOf command == key

theorem fits_iff {feedback : Feedback} {command : OutstandingCommand} :
    feedback.fits command = true ↔
      keyOf command = feedbackKey feedback := by
  simp [Feedback.fits, keyOf, feedbackKey]

theorem mem_keyQueue {key : Key} {commands : List OutstandingCommand}
    {command : OutstandingCommand} :
    command ∈ keyQueue key commands ↔
      command ∈ commands ∧ keyOf command = key := by
  simp [keyQueue]

theorem keyOf_same {command changed : OutstandingCommand}
    (same : SameCommand command changed) :
    keyOf changed = keyOf command := by
  simp [keyOf, same.typeId, same.ca, same.ioa]

/-- A feedback finds the head of the queue of its key. -/
theorem find?_fits (feedback : Feedback)
    (commands : List OutstandingCommand) :
    commands.find? feedback.fits =
      (keyQueue (feedbackKey feedback) commands).head? := by
  have same :
      feedback.fits =
        fun command => keyOf command == feedbackKey feedback := by
    funext command
    rw [Bool.eq_iff_iff, fits_iff, beq_iff_eq]
  rw [keyQueue, List.head?_filter, same]

/-! ## The queue -/

/-- What a feedback makes of the queue. -/
def answerHead (queue : List OutstandingCommand) (feedback : Feedback) :
    List OutstandingCommand :=
  match queue with
  | [] => []
  | head :: rest => (feedback.leaves head).toList ++ rest

/-- The queue of a key as a machine that takes feedback. -/
def queueMachine :
    Machine (List OutstandingCommand) Feedback Delivery where
  step queue feedback :=
    (answerHead queue feedback, queue.head?.toList.map feedback.deliver)

@[simp]
theorem queueMachine_step (queue : List OutstandingCommand)
    (feedback : Feedback) :
    queueMachine.step queue feedback =
      (answerHead queue feedback,
        queue.head?.toList.map feedback.deliver) :=
  rfl

/-- On a queue of its key, the loop over the list works on the head. -/
theorem alterFirst_eq_answerHead {feedback : Feedback}
    {queue : List OutstandingCommand}
    (all : ∀ command ∈ queue, feedback.fits command = true) :
    alterFirst feedback.fits feedback.leaves queue =
      answerHead queue feedback := by
  cases queue with
  | nil => rfl
  | cons head rest => simp [alterFirst, answerHead, all head (by simp)]

/-- Feedback for the key works on the queue. -/
theorem keyQueue_answer_same {key : Key} {feedback : Feedback}
    (commands : List OutstandingCommand)
    (same : feedbackKey feedback = key) :
    keyQueue key
        (alterFirst feedback.fits feedback.leaves commands) =
      answerHead (keyQueue key commands) feedback := by
  rw [keyQueue, filter_alterFirst_of_within]
  · apply alterFirst_eq_answerHead
    intro command member
    rw [fits_iff, same]
    exact (mem_keyQueue.mp member).2
  · intro command fits
    simpa [same] using fits_iff.mp fits
  · intro command changed fits left
    have key := keyOf_same (Feedback.leaves_same left)
    simpa [key, same] using fits_iff.mp fits

/-- Feedback for another key leaves the queue. -/
theorem keyQueue_answer_other {key : Key} {feedback : Feedback}
    (commands : List OutstandingCommand)
    (other : feedbackKey feedback ≠ key) :
    keyQueue key
        (alterFirst feedback.fits feedback.leaves commands) =
      keyQueue key commands := by
  rw [keyQueue, filter_alterFirst_of_outside]
  · rfl
  · intro command fits
    simpa [fits_iff.mp fits] using other
  · intro command changed fits left
    have key := keyOf_same (Feedback.leaves_same left)
    simpa [key, fits_iff.mp fits] using other

/-! ## Following some commands through the ledger -/

/-- The feedback a move gives to a key. -/
def givenTo (key : Key) : Move → Option Feedback
  | .answer feedback =>
      if feedbackKey feedback = key then some feedback else none
  | _ => none

/--
A move that keeps the commands at some addresses: it discards none of their
queue, refuses none of them and brings no other command with their key.
-/
def Keeps (key : Key) (addresses : List Nat)
    (commands : List OutstandingCommand) : Move → Prop
  | .enter handler _ => keyOf handler.command ≠ key
  | .returned handler true => handler.command.address ∉ addresses
  | .discard test => ∀ command ∈ keyQueue key commands, test command = false
  | _ => True

instance (key : Key) (addresses : List Nat)
    (commands : List OutstandingCommand) :
    (move : Move) → Decidable (Keeps key addresses commands move)
  | .enter handler _ =>
      inferInstanceAs (Decidable (keyOf handler.command ≠ key))
  | .returned handler true =>
      inferInstanceAs (Decidable (handler.command.address ∉ addresses))
  | .returned _ false => inferInstanceAs (Decidable True)
  | .discard test =>
      inferInstanceAs
        (Decidable
          (∀ command ∈ keyQueue key commands, test command = false))
  | .answer _ => inferInstanceAs (Decidable True)
  | .idle => inferInstanceAs (Decidable True)

/-- The deliveries for the commands at some addresses. -/
def deliveriesTo (addresses : List Nat) (sent : List Delivery) :
    List Delivery :=
  sent.filter fun delivery => delivery.address ∈ addresses

@[simp]
theorem deliveriesTo_nil (addresses : List Nat) :
    deliveriesTo addresses [] = [] :=
  rfl

@[simp]
theorem deliveriesTo_append (addresses : List Nat)
    (first second : List Delivery) :
    deliveriesTo addresses (first ++ second) =
      deliveriesTo addresses first ++ deliveriesTo addresses second := by
  simp [deliveriesTo]

/--
The queue of a key in a ledger, when the outstanding commands with the key are
those at some addresses.
-/
structure Follows (key : Key) (addresses : List Nat) (ledger : Ledger)
    (queue : List OutstandingCommand) : Prop where
  queue : keyQueue key ledger.outstanding = queue
  mine :
    ∀ command ∈ ledger.outstanding,
      command.address ∈ addresses ↔ keyOf command = key
  old : ∀ address ∈ addresses, address < ledger.allocated

section Follows

variable {key : Key} {addresses : List Nat} {ledger : Ledger}
  {queue : List OutstandingCommand}

theorem Follows.mine_move (follows : Follows key addresses ledger queue)
    {move : Move} (fits : move.Fits ledger)
    (keeps : Keeps key addresses ledger.outstanding move) :
    ∀ command ∈ move.outstanding ledger.outstanding,
      command.address ∈ addresses ↔ keyOf command = key := by
  intro command member
  rcases Move.mem_outstanding member with
    ⟨before, wasThere, same⟩ | ⟨handler, registered, rfl, rfl⟩
  · rw [same.address, keyOf_same same]
    exact follows.mine before wasThere
  · refine iff_of_false ?_ keeps
    intro inside
    have less := follows.old _ inside
    rw [fits.1] at less
    exact lt_irrefl _ less

theorem Follows.old_move (follows : Follows key addresses ledger queue)
    (move : Move) :
    ∀ address ∈ addresses, address < move.allocated ledger.allocated := by
  intro address inside
  have less := follows.old address inside
  cases move with
  | enter handler registered => exact Nat.lt_succ_of_lt less
  | returned handler refused => exact less
  | answer feedback => exact less
  | discard test => exact less
  | idle => exact less

theorem Follows.queue_move (follows : Follows key addresses ledger queue)
    {move : Move} (keeps : Keeps key addresses ledger.outstanding move) :
    keyQueue key (move.outstanding ledger.outstanding) =
      queueMachine.after queue (givenTo key move).toList := by
  rw [← follows.queue]
  cases move with
  | enter handler registered =>
      have other : keyOf handler.command ≠ key := keeps
      simp [Move.outstanding, givenTo, keyQueue, other]
  | returned handler refused => rfl
  | answer feedback =>
      by_cases same : feedbackKey feedback = key
      · simpa [Move.outstanding, givenTo, same] using
          keyQueue_answer_same ledger.outstanding same
      · simpa [Move.outstanding, givenTo, same] using
          keyQueue_answer_other ledger.outstanding same
  | discard test =>
      have kept :
          ∀ command ∈ keyQueue key ledger.outstanding,
            (!test command) = true := by
        intro command member
        simp [keeps command member]
      simp only [Move.outstanding, givenTo, Option.toList_none,
        Machine.after_nil]
      rw [keyQueue, List.filter_comm, ← keyQueue, List.filter_eq_self]
      exact kept
  | idle => rfl

theorem Follows.delivers_move (follows : Follows key addresses ledger queue)
    {move : Move} (fits : move.Fits ledger)
    (keeps : Keeps key addresses ledger.outstanding move) :
    deliveriesTo addresses (move.delivers ledger.outstanding) =
      queueMachine.outputs queue (givenTo key move).toList := by
  cases move with
  | enter handler registered =>
      cases registered with
      | true => rfl
      | false =>
          have outside : handler.command.address ∉ addresses := by
            intro inside
            have less := follows.old _ inside
            rw [fits.1] at less
            exact lt_irrefl _ less
          simp [Move.delivers, givenTo, deliveriesTo, refuse, outside]
  | returned handler refused =>
      cases refused with
      | false => rfl
      | true =>
          have outside : handler.command.address ∉ addresses := keeps
          simp [Move.delivers, givenTo, deliveriesTo, refuse, outside]
  | answer feedback =>
      simp only [Move.delivers]
      by_cases same : feedbackKey feedback = key
      · rw [find?_fits, same, follows.queue]
        cases content : queue with
        | nil => simp [givenTo, same]
        | cons head rest =>
            have inQueue : head ∈ keyQueue key ledger.outstanding := by
              rw [follows.queue, content]
              simp
            have member := mem_keyQueue.mp inQueue
            have inside := (follows.mine head member.1).mpr member.2
            simp [givenTo, same, deliveriesTo, Feedback.deliver, inside]
      · cases found : ledger.outstanding.find? feedback.fits with
        | none => simp [givenTo, same]
        | some command =>
            have outside : command.address ∉ addresses := by
              rw [follows.mine command (List.mem_of_find?_eq_some found),
                fits_iff.mp (List.find?_some found)]
              exact same
            simp [givenTo, same, deliveriesTo, Feedback.deliver, outside]
  | discard test => rfl
  | idle => rfl

/-- The step lemma: the queue takes the feedback that is given to its key. -/
theorem Follows.move (follows : Follows key addresses ledger queue)
    {move : Move} (fits : move.Fits ledger)
    (keeps : Keeps key addresses ledger.outstanding move) :
    Follows key addresses (ledger.move move)
        (queueMachine.after queue (givenTo key move).toList) ∧
      deliveriesTo addresses (move.delivers ledger.outstanding) =
        queueMachine.outputs queue (givenTo key move).toList :=
  ⟨⟨follows.queue_move keeps, follows.mine_move fits keeps,
      follows.old_move move⟩,
    follows.delivers_move fits keeps⟩

end Follows

/-! ## Runs of the queue -/

theorem deliver_same {command changed : OutstandingCommand}
    (same : SameCommand command changed) (feedback : Feedback) :
    feedback.deliver changed = feedback.deliver command := by
  simp [Feedback.deliver, Feedback.message, same.address, same.connection,
    same.isSelect]

/-- A positive ACT-CON leaves a command that is executed at the head. -/
theorem answerHead_positive (key : Key) {head : OutstandingCommand}
    (rest : List OutstandingCommand) (execute : head.isSelect = false) :
    ∃ changed,
      answerHead (head :: rest) (feedbackFor key .actCon false) =
          changed :: rest ∧
        SameCommand head changed ∧
        changed.nextTimeout = head.nextTimeout := by
  refine
    ⟨(sendActCon head false).1, ?_, sendActCon_same head false, ?_⟩
  · simp [answerHead, feedbackFor, Feedback.leaves, afterActCon, sendActCon,
      execute]
  · simp [sendActCon, execute]

/-- Every one of several positive ACT-CON goes to the head. -/
theorem outputs_replicate_actCon (key : Key) (count : Nat)
    (head : OutstandingCommand) (rest : List OutstandingCommand)
    (execute : head.isSelect = false) :
    ∃ changed,
      queueMachine.after (head :: rest)
            (List.replicate count (feedbackFor key .actCon false)) =
          changed :: rest ∧
        SameCommand head changed ∧
        queueMachine.outputs (head :: rest)
            (List.replicate count (feedbackFor key .actCon false)) =
          List.replicate count
            ((feedbackFor key .actCon false).deliver head) := by
  induction count generalizing head with
  | zero => exact ⟨head, rfl, .refl head, rfl⟩
  | succ count ih =>
      rcases answerHead_positive key rest execute with
        ⟨changed, answered, same, -⟩
      rcases ih changed (same.isSelect.trans execute) with
        ⟨final, after, finalSame, outputs⟩
      refine ⟨final, ?_, same.trans finalSame, ?_⟩
      · rw [List.replicate_succ, Machine.after_cons, queueMachine_step,
          answered]
        exact after
      · rw [List.replicate_succ, Machine.outputs_cons, queueMachine_step,
          answered]
        simp only [outputs, deliver_same same, List.head?_cons,
          Option.toList_some, List.map_cons, List.map_nil,
          List.singleton_append]
        rfl

/-- Several ACT-TERM go through the queue in order. -/
theorem outputs_actTerm (key : Key) (queue : List OutstandingCommand)
    (negatives : List Bool) (fit : negatives.length = queue.length) :
    queueMachine.outputs queue
        (negatives.map (feedbackFor key .actTerm)) =
      List.zipWith
        (fun command isNegative =>
          (feedbackFor key .actTerm isNegative).deliver command)
        queue negatives := by
  induction negatives generalizing queue with
  | nil =>
      rcases List.length_eq_zero_iff.mp fit.symm with rfl
      rfl
  | cons isNegative negatives ih =>
      cases queue with
      | nil => simp at fit
      | cons head rest =>
          have popped :
              answerHead (head :: rest)
                  (feedbackFor key .actTerm isNegative) =
                rest := rfl
          rw [List.map_cons, Machine.outputs_cons, queueMachine_step, popped,
            ih rest (by simpa using fit)]
          rfl

end Iec104North.FeedbackQueue
