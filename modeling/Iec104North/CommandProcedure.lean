import Iec104North.LedgerRefinement

/-!
# The command procedure

Towards its master a command has at most one ACT-CON and at most one ACT-TERM,
the latter after a positive ACT-CON, and nothing after the message that
completes it.  The field `m_state` follows the procedure, but the search for
the command of a feedback does not read it.  A run therefore obeys the
procedure exactly when every feedback finds a command which waits for it, and
no command gets both feedback and a refusal.
-/

namespace Iec104North.CommandProcedure

open Iec104North.Library
open Iec104North.AsduTypes
open Iec104North.Values
open Iec104North.Server
open Iec104North.OutstandingCommands
open Iec104North.Commands
open Iec104North.CommandLedger
open Iec104North.LedgerRefinement
open Iec104North.Runs

/-! ## Conversations -/

/-- An ACT-CON. -/
def isActCon : Message → Bool
  | .actCon _ _ => true
  | .actTerm _ => false

/-- The messages which complete a command. -/
def completes : Message → Bool
  | .actCon isSelect isNegative => isSelect || isNegative
  | .actTerm _ => true

/-- The messages for one command obey the command procedure. -/
structure ObeysProcedure (messages : List Message) : Prop where
  oneActCon : (messages.filter isActCon).length ≤ 1
  oneActTerm :
    (messages.filter fun message => !isActCon message).length ≤ 1
  confirmed :
    ∀ earlier isNegative later,
      messages = earlier ++ .actTerm isNegative :: later →
        ∃ isSelect, .actCon isSelect false ∈ earlier
  silent :
    ∀ earlier message later,
      messages = earlier ++ message :: later →
        completes message = true → later = []

/-- `m_state` is completed by the messages which complete a command. -/
theorem sendActCon_completed_iff (command : OutstandingCommand)
    (isNegative : Bool) :
    (sendActCon command isNegative).1.state = .completed ↔
      completes (.actCon command.isSelect isNegative) = true := by
  cases select : command.isSelect <;> cases isNegative <;>
    simp [sendActCon, completes, select]

/-- The conversations a master can have about a command. -/
inductive Conversation : List Message → Prop where
  | silent : Conversation []
  | answered (isSelect isNegative : Bool) :
      Conversation [.actCon isSelect isNegative]
  | terminated (isNegative : Bool) :
      Conversation [.actCon false false, .actTerm isNegative]

/-- A conversation goes on in at most one way. -/
theorem conversation_concat_iff (messages : List Message)
    (message : Message) :
    Conversation (messages ++ [message]) ↔
      match message with
      | .actCon _ _ => messages = []
      | .actTerm _ => messages = [.actCon false false] := by
  constructor
  · intro conversation
    generalize whole : messages ++ [message] = list at conversation
    cases conversation with
    | silent => simp at whole
    | answered isSelect isNegative =>
        have ends : messages = [] ∧ message = .actCon isSelect isNegative := by
          simpa using List.append_inj' (whole.trans (List.nil_append _).symm)
            rfl
        rw [ends.2]
        exact ends.1
    | terminated isNegative =>
        have ends :
            messages = [.actCon false false] ∧
              message = .actTerm isNegative := by
          simpa using
            List.append_inj'
              (whole.trans
                (show _ = [Message.actCon false false] ++ _ from rfl))
              rfl
        rw [ends.2]
        exact ends.1
  · cases message with
    | actCon isSelect isNegative =>
        rintro rfl
        exact .answered isSelect isNegative
    | actTerm isNegative =>
        rintro rfl
        exact .terminated isNegative

theorem Conversation.obeysProcedure {messages : List Message}
    (conversation : Conversation messages) : ObeysProcedure messages := by
  cases conversation with
  | silent => constructor <;> simp
  | answered isSelect isNegative =>
      constructor
      · simp [List.filter_cons, isActCon]
      · simp [isActCon]
      · intro earlier negative later split
        rcases List.append_eq_singleton_iff.mp split.symm with
          ⟨rfl, same⟩ | ⟨-, same⟩
        · simp at same
        · simp at same
      · intro earlier message later split _
        rcases List.append_eq_singleton_iff.mp split.symm with
          ⟨rfl, same⟩ | ⟨-, same⟩
        · simpa using (List.cons.inj same).2
        · simp at same
  | terminated isNegative =>
      constructor
      · simp [List.filter_cons, isActCon]
      · simp [isActCon]
      · intro earlier negative later split
        cases earlier with
        | nil => simp at split
        | cons head rest =>
            rcases (List.cons.inj split).1 with rfl
            exact ⟨false, by simp⟩
      · intro earlier message later split complete
        rcases earlier with - | ⟨head, - | ⟨next, rest⟩⟩
        · rcases (List.cons.inj split).1 with rfl
          simp [completes] at complete
        · simpa using (List.cons.inj (List.cons.inj split).2).2.symm
        · simp at split

theorem ObeysProcedure.conversation {messages : List Message}
    (obeys : ObeysProcedure messages) : Conversation messages := by
  rcases messages with - | ⟨first, rest⟩
  · exact .silent
  cases first with
  | actTerm isNegative =>
      rcases obeys.confirmed [] isNegative rest rfl with ⟨isSelect, member⟩
      simp at member
  | actCon isSelect isNegative =>
      by_cases complete : completes (.actCon isSelect isNegative) = true
      · rcases obeys.silent [] _ rest rfl complete with rfl
        exact .answered isSelect isNegative
      · have positive : isSelect = false ∧ isNegative = false := by
          simpa [completes] using complete
        rcases positive with ⟨rfl, rfl⟩
        rcases rest with - | ⟨second, others⟩
        · exact .answered false false
        cases second with
        | actCon again negative =>
            have one := obeys.oneActCon
            simp [List.filter_cons, isActCon] at one
        | actTerm negative =>
            rcases
                obeys.silent [.actCon false false] (.actTerm negative) others
                  rfl rfl with
              rfl
            exact .terminated negative

/-- The procedure is obeyed exactly by these conversations. -/
theorem obeysProcedure_iff_conversation (messages : List Message) :
    ObeysProcedure messages ↔ Conversation messages :=
  ⟨ObeysProcedure.conversation, Conversation.obeysProcedure⟩

/-! ## Awaited feedback -/

/-- The command waits for the feedback. -/
def Awaits (command : OutstandingCommand) (feedback : Feedback) : Prop :=
  match feedback.kind with
  | .actCon => command.state = .waitActCon
  | .actTerm => command.state = .waitActTerm

/--
The condition on a move: feedback finds no command, or one that waits for it
and has not been refused; a callback fails only for a command which no feedback
has found.
-/
def Awaited (commands : List OutstandingCommand)
    (answered refused : Nat → Prop) : Move → Prop
  | .answer feedback =>
      ∀ command,
        commands.find? feedback.fits = some command →
          Awaits command feedback ∧ ¬ refused command.address
  | .returned handler true => ¬ answered handler.command.address
  | _ => True

/--
How `m_state`, the refusal and the messages so far of an outstanding command go
together.
-/
inductive Stage (refused : Prop) : CommandState → List Message → Prop where
  | waiting (accepted : ¬ refused) : Stage refused .waitActCon []
  | refused (isSelect : Bool) (is : refused) :
      Stage refused .waitActCon [.actCon isSelect true]
  | confirmed (accepted : ¬ refused) :
      Stage refused .waitActTerm [.actCon false false]
  | completed (accepted : ¬ refused) :
      Stage refused .completed [.actCon false true]

/-- Another message is allowed exactly when the command waits for it. -/
theorem Stage.feedback_iff {refused : Prop}
    {command : OutstandingCommand} {messages : List Message}
    (stage : Stage refused command.state messages) (feedback : Feedback) :
    Conversation (messages ++ [feedback.message command]) ↔
      Awaits command feedback ∧ ¬ refused := by
  rw [conversation_concat_iff]
  rcases feedback with ⟨kind, type, ca, ioa, isNegative⟩
  cases kind with
  | actCon =>
      show messages = [] ↔ command.state = .waitActCon ∧ ¬ refused
      generalize command.state = state at stage
      cases stage <;> simp [*]
  | actTerm =>
      show messages = [.actCon false false] ↔
        command.state = .waitActTerm ∧ ¬ refused
      generalize command.state = state at stage
      cases stage <;> simp [*]

/-- What a feedback leaves of a command has got the message. -/
theorem Stage.leaves {refused : Prop}
    {command changed : OutstandingCommand} {messages : List Message}
    {feedback : Feedback}
    (stage : Stage refused command.state messages)
    (awaits : Awaits command feedback) (accepted : ¬ refused)
    (left : feedback.leaves command = some changed) :
    Stage refused changed.state
      (messages ++ [feedback.message command]) := by
  rcases feedback with ⟨kind, type, ca, ioa, isNegative⟩
  cases kind with
  | actTerm => simp [Feedback.leaves] at left
  | actCon =>
      have waits : command.state = .waitActCon := awaits
      rw [waits] at stage
      cases stage with
      | refused isSelect is => exact (accepted is).elim
      | waiting _ =>
          simp only [Feedback.leaves, afterActCon, sendActCon] at left
          cases select : command.isSelect <;> cases isNegative <;>
            simp [select] at left
          · rw [← left, Feedback.message, select]
            exact .confirmed accepted
          · rw [← left, Feedback.message, select]
            exact .completed accepted

/-! ## One move -/

/-- The addresses that are marked after a move which marks one of them. -/
def orNow (marked : Nat → Prop) (now : Option Nat) (address : Nat) : Prop :=
  marked address ∨ now = some address

/-- A move sends something for the command it answers or refuses only. -/
theorem messagesTo_delivers_eq_nil_iff (commands : List OutstandingCommand)
    (move : Move) (address : Nat) :
    messagesTo address (move.delivers commands) = [] ↔
      move.answers commands ≠ some address ∧
        move.refuses ≠ some address := by
  cases move with
  | enter handler registered =>
      cases registered <;>
        simp [Move.delivers, Move.answers, Move.refuses, refuse]
  | returned handler refused =>
      cases refused <;>
        simp [Move.delivers, Move.answers, Move.refuses, refuse]
  | answer feedback =>
      cases found : commands.find? feedback.fits with
      | none => simp [Move.delivers, Move.answers, Move.refuses, found]
      | some command =>
          simp [Move.delivers, Move.answers, Move.refuses, found,
            Feedback.deliver]
  | discard test => simp [Move.delivers, Move.answers, Move.refuses]
  | idle => simp [Move.delivers, Move.answers, Move.refuses]

/--
The marks of the commands that were answered and refused fit the messages, and
a handler in the callback has not refused its command.
-/
structure Marked (ledger : Ledger) (sent : List Delivery)
    (answered refused : Nat → Prop) : Prop where
  book : Bookkeeping ledger sent
  silent :
    ∀ address,
      messagesTo address sent = [] ↔
        ¬ answered address ∧ ¬ refused address
  pending :
    ∀ handler ∈ ledger.pending, ¬ refused handler.command.address

section Moves

variable {ledger : Ledger} {sent : List Delivery}
  {answered refused : Nat → Prop}

theorem Marked.next_unmarked (marked : Marked ledger sent answered refused) :
    ¬ answered ledger.allocated ∧ ¬ refused ledger.allocated :=
  (marked.silent ledger.allocated).mp (marked.book.messagesTo_next rfl)

/-- A handler that is still in the callback is not the one just refused. -/
theorem Marked.move_pending (marked : Marked ledger sent answered refused)
    {move : Move} (fits : move.Fits ledger) :
    ∀ handler ∈ move.pending ledger.pending,
      ¬ orNow refused move.refuses handler.command.address := by
  intro handler member
  cases move with
  | enter newHandler registered =>
      cases registered with
      | true =>
          rintro (before | now)
          · rcases List.mem_append.mp member with old | isNew
            · exact marked.pending handler old before
            · rcases List.mem_singleton.mp isNew with rfl
              rw [fits.1] at before
              exact marked.next_unmarked.2 before
          · simp [Move.refuses] at now
      | false =>
          have old : handler ∈ ledger.pending := by
            simpa [Move.pending] using member
          rintro (before | now)
          · exact marked.pending handler old before
          · have less := marked.book.pendingAllocated handler old
            have same :
                newHandler.command.address = handler.command.address := by
              simpa [Move.refuses] using now
            rw [← same, fits.1] at less
            exact lt_irrefl _ less
  | returned ended failed =>
      have other :=
        ne_of_mem_eraseP (fun one => one.command.address)
          marked.book.pendingNodup fits member
      rintro (before | now)
      · exact marked.pending handler (List.mem_of_mem_eraseP member) before
      · cases failed with
        | false => simp [Move.refuses] at now
        | true => exact other (by simpa [Move.refuses] using now.symm)
  | answer feedback =>
      rintro (before | now)
      · exact marked.pending handler member before
      · simp [Move.refuses] at now
  | discard test =>
      rintro (before | now)
      · exact marked.pending handler member before
      · simp [Move.refuses] at now
  | idle =>
      rintro (before | now)
      · exact marked.pending handler member before
      · simp [Move.refuses] at now

/-- The marks fit after every move. -/
theorem Marked.move (marked : Marked ledger sent answered refused)
    {move : Move} (fits : move.Fits ledger) :
    Marked (ledger.move move) (sent ++ move.delivers ledger.outstanding)
      (orNow answered (move.answers ledger.outstanding))
      (orNow refused move.refuses) := by
  refine ⟨marked.book.move fits, ?_, marked.move_pending fits⟩
  intro address
  rw [messagesTo_append, List.append_eq_nil_iff, marked.silent,
    messagesTo_delivers_eq_nil_iff, orNow, orNow]
  tauto

/-- Every outstanding command is in a stage of the procedure. -/
def Staged (ledger : Ledger) (sent : List Delivery)
    (refused : Nat → Prop) : Prop :=
  ∀ command ∈ ledger.outstanding,
    Stage (refused command.address) command.state
      (messagesTo command.address sent)

/-- A command that a move neither answers nor refuses stays in its stage. -/
theorem Stage.unaffected {command : OutstandingCommand} {move : Move}
    (stage :
      Stage (refused command.address) command.state
        (messagesTo command.address sent))
    (notAnswered :
      move.answers ledger.outstanding ≠ some command.address)
    (notRefused : move.refuses ≠ some command.address) :
    Stage (orNow refused move.refuses command.address) command.state
      (messagesTo command.address
        (sent ++ move.delivers ledger.outstanding)) := by
  have nothing :=
    (messagesTo_delivers_eq_nil_iff ledger.outstanding move
      command.address).mpr ⟨notAnswered, notRefused⟩
  have same :
      orNow refused move.refuses command.address ↔
        refused command.address :=
    or_iff_left notRefused
  rw [messagesTo_append, nothing, List.append_nil, same]
  exact stage

/-- The stages after a command has come in. -/
theorem Staged.enter (marked : Marked ledger sent answered refused)
    (staged : Staged ledger sent refused) {handler : PendingOperation}
    (registered : Bool)
    (fits : (Move.enter handler registered).Fits ledger) :
    Staged (ledger.move (.enter handler registered))
      (sent ++
        (Move.enter handler registered).delivers ledger.outstanding)
      (orNow refused (Move.enter handler registered).refuses) := by
  intro command member
  rcases List.mem_append.mp member with old | isNew
  · have less := marked.book.outstandingAllocated command old
    apply (staged command old).unaffected
    · simp [Move.answers]
    · cases registered with
      | true => simp [Move.refuses]
      | false =>
          intro now
          have same : handler.command.address = command.address := by
            simpa [Move.refuses] using now
          rw [← same, fits.1] at less
          exact lt_irrefl _ less
  · rcases List.mem_singleton.mp isNew with rfl
    have unused := marked.book.messagesTo_next fits.1
    have unmarked := marked.next_unmarked.2
    rw [← fits.1] at unmarked
    rw [messagesTo_append, unused, fits.2]
    cases registered with
    | true =>
        apply Stage.waiting
        rintro (before | now)
        · exact unmarked before
        · simp [Move.refuses] at now
    | false =>
        have refusedNow :
            orNow refused (Move.enter handler false).refuses
              handler.command.address := Or.inr rfl
        simpa [Move.delivers, refuse] using
          Stage.refused handler.command.isSelect refusedNow

/-- The stages after the callback has returned. -/
theorem Staged.returned (marked : Marked ledger sent answered refused)
    (staged : Staged ledger sent refused) {handler : PendingOperation}
    (failed : Bool) (member : handler ∈ ledger.pending)
    (awaited :
      Awaited ledger.outstanding answered refused
        (.returned handler failed)) :
    Staged (ledger.move (.returned handler failed))
      (sent ++
        (Move.returned handler failed).delivers ledger.outstanding)
      (orNow refused (Move.returned handler failed).refuses) := by
  intro command isOutstanding
  have stage := staged command isOutstanding
  cases failed with
  | false =>
      exact stage.unaffected (by simp [Move.answers])
        (by simp [Move.refuses])
  | true =>
      by_cases same : handler.command.address = command.address
      · have nothing : messagesTo command.address sent = [] := by
          rw [← same]
          exact (marked.silent _).mpr
            ⟨awaited, marked.pending handler member⟩
        have refusedNow :
            orNow refused (Move.returned handler true).refuses
              command.address := by
          rw [← same]
          exact Or.inr rfl
        rw [nothing] at stage
        rw [messagesTo_append, nothing]
        generalize command.state = state at stage
        cases stage with
        | waiting accepted =>
            simpa [Move.delivers, refuse, same] using
              Stage.refused handler.command.isSelect refusedNow
      · apply stage.unaffected
        · simp [Move.answers]
        · simpa [Move.refuses] using same

/-- The stages after feedback. -/
theorem Staged.answer (marked : Marked ledger sent answered refused)
    (staged : Staged ledger sent refused) (feedback : Feedback)
    (awaited :
      Awaited ledger.outstanding answered refused (.answer feedback)) :
    Staged (ledger.move (.answer feedback))
      (sent ++ (Move.answer feedback).delivers ledger.outstanding)
      (orNow refused (Move.answer feedback).refuses) := by
  intro command member
  cases found : ledger.outstanding.find? feedback.fits with
  | none =>
      have same :
          alterFirst feedback.fits feedback.leaves ledger.outstanding =
            ledger.outstanding :=
        alterFirst_of_find?_eq_none _ _ found
      simp only [Ledger.move, Move.outstanding, same] at member
      apply (staged command member).unaffected
      · simp [Move.answers, found]
      · simp [Move.refuses]
  | some hit =>
      have waits := awaited hit found
      rcases mem_alterFirst_of_nodup _ _ OutstandingCommand.address
          marked.book.outstandingNodup found member with
        ⟨old, other⟩ | left
      · apply (staged command old).unaffected
        · simpa [Move.answers, found] using other.symm
        · simp [Move.refuses]
      · have stage :=
          (staged hit (List.mem_of_find?_eq_some found)).leaves waits.1
            waits.2 left
        have address := (Feedback.leaves_same left).address
        have same :
            orNow refused (Move.answer feedback).refuses command.address ↔
              refused hit.address := by
          rw [address]
          exact or_iff_left (by simp [Move.refuses])
        rw [same, messagesTo_append, address]
        simpa [Move.delivers, found, Feedback.deliver] using stage

/-- The step lemma: a move that is awaited keeps every command in a stage. -/
theorem Staged.move (marked : Marked ledger sent answered refused)
    (staged : Staged ledger sent refused) {move : Move}
    (fits : move.Fits ledger)
    (awaited : Awaited ledger.outstanding answered refused move) :
    Staged (ledger.move move) (sent ++ move.delivers ledger.outstanding)
      (orNow refused move.refuses) := by
  cases move with
  | enter handler registered => exact staged.enter marked registered fits
  | returned handler failed =>
      exact staged.returned marked failed fits awaited
  | answer feedback => exact staged.answer marked feedback awaited
  | discard test =>
      intro command member
      apply (staged command (List.mem_of_mem_filter member)).unaffected
      · simp [Move.answers]
      · simp [Move.refuses]
  | idle =>
      intro command member
      apply (staged command member).unaffected
      · simp [Move.answers]
      · simp [Move.refuses]

/-- All messages sent so far are conversations. -/
def Conversing (sent : List Delivery) : Prop :=
  ∀ address, Conversation (messagesTo address sent)

theorem Conversing.append_singleton_iff (conversing : Conversing sent)
    (delivery : Delivery) :
    Conversing (sent ++ [delivery]) ↔
      Conversation
        (messagesTo delivery.address sent ++ [delivery.message]) := by
  constructor
  · intro all
    simpa using all delivery.address
  · intro one address
    by_cases same : delivery.address = address
    · subst same
      simpa using one
    · simpa [same] using conversing address

/--
The messages stay conversations exactly when the move is awaited.
-/
theorem Conversing.move_iff (conversing : Conversing sent)
    (marked : Marked ledger sent answered refused)
    (staged : Staged ledger sent refused) {move : Move}
    (fits : move.Fits ledger) :
    Conversing (sent ++ move.delivers ledger.outstanding) ↔
      Awaited ledger.outstanding answered refused move := by
  cases move with
  | enter handler registered =>
      cases registered with
      | true => simpa [Move.delivers, Awaited] using conversing
      | false =>
          have unused := marked.book.messagesTo_next fits.1
          rw [Move.delivers, if_neg (by simp),
            conversing.append_singleton_iff, conversation_concat_iff]
          exact iff_of_true unused trivial
  | returned handler failed =>
      cases failed with
      | false => simpa [Move.delivers, Awaited] using conversing
      | true =>
          have accepted := marked.pending handler fits
          rw [Move.delivers, if_pos rfl, conversing.append_singleton_iff,
            conversation_concat_iff]
          show messagesTo handler.command.address sent = [] ↔ ¬ _
          rw [marked.silent]
          exact and_iff_left accepted
  | answer feedback =>
      cases found : ledger.outstanding.find? feedback.fits with
      | none => simpa [Move.delivers, Awaited, found] using conversing
      | some hit =>
          have stage := staged hit (List.mem_of_find?_eq_some found)
          simp only [Move.delivers, found, Option.toList_some, List.map_cons,
            List.map_nil, Awaited, Option.some.injEq, forall_eq']
          rw [conversing.append_singleton_iff]
          exact stage.feedback_iff feedback
  | discard test => simpa [Move.delivers, Awaited] using conversing
  | idle => simpa [Move.delivers, Awaited] using conversing

end Moves

/-! ## Runs -/

section Runs

variable (platform : Platform) (start : System)

/-- In the run some feedback has found the command at an address. -/
def Answered (events : List Event) (address : Nat) : Prop :=
  (machine platform).Seen
    (fun system event =>
      (moveOf platform system event).answers
          system.server.outstandingCommands =
        some address)
    start events

/-- In the run the command at an address has been refused. -/
def Refused (events : List Event) (address : Nat) : Prop :=
  (machine platform).Seen
    (fun system event =>
      (moveOf platform system event).refuses = some address)
    start events

/-- The condition on one step of a run. -/
def FeedbackAwaited (earlier : List Event) (event : Event) : Prop :=
  Awaited ((machine platform).after start earlier).server.outstandingCommands
    (Answered platform start earlier) (Refused platform start earlier)
    (moveAfter platform start earlier event)

theorem answered_concat (events : List Event) (event : Event) :
    Answered platform start (events ++ [event]) =
      orNow (Answered platform start events)
        ((moveAfter platform start events event).answers
          ((machine platform).after start
            events).server.outstandingCommands) :=
  funext fun _ =>
    propext ((machine platform).seen_concat_iff _ start events event)

theorem refused_concat (events : List Event) (event : Event) :
    Refused platform start (events ++ [event]) =
      orNow (Refused platform start events)
        (moveAfter platform start events event).refuses :=
  funext fun _ =>
    propext ((machine platform).seen_concat_iff _ start events event)

/-- The marks of a run fit its messages. -/
theorem marked_run (initial : Initial start) (events : List Event) :
    Marked (view ((machine platform).after start events))
      (delivered platform start events) (Answered platform start events)
      (Refused platform start events) := by
  induction events using List.reverseRecOn with
  | nil =>
      refine ⟨bookkeeping_run platform start initial [], ?_, ?_⟩
      · simp [Answered, Refused]
      · simp [view, initial.pending]
  | append_singleton events event ih =>
      rw [view_concat, delivered_concat, answered_concat, refused_concat]
      exact
        ih.move (moveOf_fits platform ((machine platform).after start events)
          event)

/--
In a run whose steps are all awaited, the commands are in stages and the
messages are conversations.
-/
theorem staged_run (initial : Initial start) {events : List Event}
    (each : EachStep (FeedbackAwaited platform start) events) :
    Staged (view ((machine platform).after start events))
        (delivered platform start events) (Refused platform start events) ∧
      Conversing (delivered platform start events) := by
  refine EachStep.induction ?_ ?_ each
  · constructor
    · simp [Staged, view, initial.outstanding]
    · exact fun _ => .silent
  · rintro earlier event - ⟨staged, conversing⟩ awaited
    have marked := marked_run platform start initial earlier
    have fits :=
      moveOf_fits platform ((machine platform).after start earlier) event
    rw [view_concat, delivered_concat, refused_concat]
    exact
      ⟨staged.move marked fits awaited,
        (conversing.move_iff marked staged fits).mpr awaited⟩

theorem Conversing.left {first second : List Delivery}
    (conversing : Conversing (first ++ second)) : Conversing first := by
  intro address
  have conversation := conversing address
  rw [messagesTo_append] at conversation
  generalize messagesTo address second = later at conversation
  generalize messagesTo address first = earlier at conversation ⊢
  induction later using List.reverseRecOn with
  | nil => simpa using conversation
  | append_singleton later message ih =>
      apply ih
      rw [← List.append_assoc, conversation_concat_iff] at conversation
      split at conversation
      · rw [conversation]
        exact .silent
      · rw [conversation]
        exact .answered false false

/--
A run obeys the command procedure for every command exactly when every step
of it is awaited.
-/
theorem obeysProcedure_iff_feedbackAwaited (initial : Initial start)
    (events : List Event) :
    (∀ address,
        ObeysProcedure
          (messagesTo address
            (deliveries ((machine platform).outputs start events)))) ↔
      EachStep (FeedbackAwaited platform start) events := by
  simp only [obeysProcedure_iff_conversation]
  change Conversing (delivered platform start events) ↔ _
  constructor
  · intro conversing
    induction events using List.reverseRecOn with
    | nil => exact eachStep_nil _
    | append_singleton events event ih =>
        rw [delivered_concat] at conversing
        have each := ih conversing.left
        have run := staged_run platform start initial each
        have marked := marked_run platform start initial events
        have fits :=
          moveOf_fits platform ((machine platform).after start events) event
        exact
          (eachStep_concat_iff _ events event).mpr
            ⟨each, (run.2.move_iff marked run.1 fits).mp conversing⟩
  · intro each
    exact (staged_run platform start initial each).2

theorem obeysProcedure_iff_feedbackAwaited_sample :
    Initial sampleSystem ∧
      ((∀ address,
          ObeysProcedure
            (messagesTo address
              (deliveries
                ((machine samplePlatform).outputs sampleSystem
                  [.command 1 sampleCommand 0 0])))) ↔
        EachStep (FeedbackAwaited samplePlatform sampleSystem)
          [.command 1 sampleCommand 0 0]) :=
  ⟨⟨rfl, rfl⟩,
    obeysProcedure_iff_feedbackAwaited samplePlatform sampleSystem
      ⟨rfl, rfl⟩ _⟩

/-- A command and two positive ACT-CON of the south side for it. -/
def sampleDuplicate : List Event :=
  [.command 1 sampleCommand 0 0,
   .datapoint "south" (sampleFeedback Cot.activationCon 0) 0,
   .datapoint "south" (sampleFeedback Cot.activationCon 0) 0]

/-- The master gets both ACT-CON for its one command. -/
theorem duplicateActCon_disobeys :
    Initial sampleSystem ∧
      ¬ ∀ address,
        ObeysProcedure
          (messagesTo address
            (deliveries
              ((machine samplePlatform).outputs sampleSystem
                sampleDuplicate))) := by
  refine ⟨⟨rfl, rfl⟩, ?_⟩
  intro obeys
  have one := (obeys 0).oneActCon
  revert one
  decide

end Runs

end Iec104North.CommandProcedure
