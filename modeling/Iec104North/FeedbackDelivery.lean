import Iec104North.FeedbackQueue

/-!
# Delivering feedback

A command that is alone with its key gets the feedback of the south side,
whatever else happens to other commands and connections.  Several commands with
one key share a queue: all their ACT-CON go to the first of them.
-/

namespace Iec104North.FeedbackDelivery

open Iec104North.Library
open Iec104North.Values
open Iec104North.Server
open Iec104North.OutstandingCommands
open Iec104North.Commands
open Iec104North.CommandLedger
open Iec104North.LedgerRefinement
open Iec104North.FeedbackQueue
open Iec104North.Runs

/-! ## Runs that keep some commands -/

section Keeping

variable (platform : Platform) (key : Key) (addresses : List Nat)
  (start : System)

/-- The feedback given to a key in a run. -/
def given (events : List Event) : List Feedback :=
  (machine platform).observed
    (fun system event => givenTo key (moveOf platform system event)) start
    events

/-- The step keeps the commands at some addresses. -/
def KeepsCommands (earlier : List Event) (event : Event) : Prop :=
  Keeps key addresses
    ((machine platform).after start earlier).server.outstandingCommands
    (moveAfter platform start earlier event)

instance (earlier : List Event) (event : Event) :
    Decidable
      (KeepsCommands platform key addresses start earlier event) :=
  inferInstanceAs (Decidable (Keeps _ _ _ _))

theorem given_concat (events : List Event) (event : Event) :
    given platform key start (events ++ [event]) =
      given platform key start events ++
        (givenTo key (moveAfter platform start events event)).toList := by
  simp [given, moveAfter]

variable {key addresses start}

/-- The run lemma: the queue takes the feedback given to its key. -/
theorem follows_run {queue : List OutstandingCommand}
    (follows : Follows key addresses (view start) queue)
    {events : List Event}
    (keeps : EachStep (KeepsCommands platform key addresses start) events) :
    Follows key addresses (view ((machine platform).after start events))
        (queueMachine.after queue (given platform key start events)) ∧
      deliveriesTo addresses (delivered platform start events) =
        queueMachine.outputs queue (given platform key start events) := by
  refine EachStep.induction ?_ ?_ keeps
  · exact ⟨follows, rfl⟩
  · rintro earlier event - ⟨before, sent⟩ kept
    have next :=
      before.move
        (moveOf_fits platform ((machine platform).after start earlier) event)
        kept
    rw [view_concat, delivered_concat, given_concat, Machine.after_append,
      Machine.outputs_append, deliveriesTo_append, sent]
    exact ⟨next.1, congrArg _ next.2⟩

end Keeping

theorem delivered_append (platform : Platform) (start : System)
    (first second : List Event) :
    delivered platform start (first ++ second) =
      delivered platform start first ++
        delivered platform ((machine platform).after start first) second := by
  simp [delivered]

/-- The commands with a key are those at the addresses of its queue. -/
theorem follows_keyQueue {ledger : Ledger} {sent : List Delivery}
    (book : Bookkeeping ledger sent) (key : Key) :
    Follows key
      ((keyQueue key ledger.outstanding).map OutstandingCommand.address)
      ledger (keyQueue key ledger.outstanding) := by
  refine ⟨rfl, ?_, ?_⟩
  · intro command member
    constructor
    · intro inside
      rcases List.mem_map.mp inside with ⟨other, inQueue, same⟩
      have parts := mem_keyQueue.mp inQueue
      have equal :=
        List.inj_on_of_nodup_map book.outstandingNodup parts.1 member same
      rw [← equal]
      exact parts.2
    · intro isKey
      exact
        List.mem_map_of_mem (mem_keyQueue.mpr ⟨member, isKey⟩)
  · intro address inside
    rcases List.mem_map.mp inside with ⟨command, inQueue, rfl⟩
    exact book.outstandingAllocated command (mem_keyQueue.mp inQueue).1

/-! ## Several commands with one key -/

theorem deliveriesTo_eq_nil {addresses : List Nat} {sent : List Delivery}
    (nothing : ∀ address ∈ addresses, messagesTo address sent = []) :
    deliveriesTo addresses sent = [] := by
  rw [deliveriesTo, List.filter_eq_nil_iff]
  intro delivery member inside
  have none := nothing delivery.address (by simpa using inside)
  rw [messagesTo, List.map_eq_nil_iff, List.filter_eq_nil_iff] at none
  exact none delivery member (by simp)

/-- What the queue makes of ACT-CON and ACT-TERM for all its commands. -/
theorem outputs_both (key : Key) (head : OutstandingCommand)
    (rest : List OutstandingCommand) (execute : head.isSelect = false)
    (negatives : List Bool) (fit : negatives.length = rest.length + 1) :
    queueMachine.outputs (head :: rest)
        (List.replicate (rest.length + 1) (feedbackFor key .actCon false) ++
          negatives.map (feedbackFor key .actTerm)) =
      List.replicate (rest.length + 1)
          ((feedbackFor key .actCon false).deliver head) ++
        List.zipWith
          (fun command isNegative =>
            (feedbackFor key .actTerm isNegative).deliver command)
          (head :: rest) negatives := by
  rcases outputs_replicate_actCon key (rest.length + 1) head rest execute with
    ⟨changed, after, same, outputs⟩
  rw [Machine.outputs_append, after, outputs,
    outputs_actTerm key (changed :: rest) negatives (by simpa using fit)]
  cases negatives with
  | nil => simp at fit
  | cons isNegative negatives =>
      simp only [List.zipWith_cons_cons, deliver_same same]

/--
When as many positive ACT-CON and then as many ACT-TERM come for a key as
commands to execute are waiting, each command gets its own exactly if there is
one command only.
-/
theorem ownFeedback_iff_single (platform : Platform) (start : System)
    (initial : Initial start) (earlier events : List Event) (key : Key)
    (negatives : List Bool) (commands : List OutstandingCommand)
    (waiting :
      keyQueue key
          ((machine platform).after start
            earlier).server.outstandingCommands =
        commands)
    (some : commands ≠ [])
    (execute : ∀ command ∈ commands, command.isSelect = false)
    (fresh :
      ∀ command ∈ commands,
        messagesTo command.address (delivered platform start earlier) = [])
    (keeps :
      EachStep
        (KeepsCommands platform key
          (commands.map OutstandingCommand.address)
          ((machine platform).after start earlier))
        events)
    (fit : negatives.length = commands.length)
    (feedback :
      given platform key ((machine platform).after start earlier) events =
        List.replicate commands.length (feedbackFor key .actCon false) ++
          negatives.map (feedbackFor key .actTerm)) :
    deliveriesTo (commands.map OutstandingCommand.address)
          (delivered platform start (earlier ++ events)) =
        commands.map (feedbackFor key .actCon false).deliver ++
          List.zipWith
            (fun command isNegative =>
              (feedbackFor key .actTerm isNegative).deliver command)
            commands negatives ↔
      commands.length = 1 := by
  have book := bookkeeping_run platform start initial earlier
  have follows :
      Follows key (commands.map OutstandingCommand.address)
        (view ((machine platform).after start earlier)) commands := by
    have whole := follows_keyQueue book key
    rwa [show
      keyQueue key
          (view ((machine platform).after start earlier)).outstanding =
        commands from waiting] at whole
  have nodup :
      (commands.map OutstandingCommand.address).Nodup := by
    rw [← waiting]
    exact List.Nodup.sublist (List.filter_sublist.map _)
      book.outstandingNodup
  have before :
      deliveriesTo (commands.map OutstandingCommand.address)
          (delivered platform start earlier) =
        [] := by
    apply deliveriesTo_eq_nil
    intro address inside
    rcases List.mem_map.mp inside with ⟨command, member, rfl⟩
    exact fresh command member
  rw [delivered_append, deliveriesTo_append, before, List.nil_append,
    (follows_run platform follows keeps).2, feedback]
  rcases commands with - | ⟨head, rest⟩
  · exact (some rfl).elim
  rw [List.length_cons,
    outputs_both key head rest (execute head (by simp)) negatives fit,
    List.append_left_inj]
  constructor
  · intro own
    rcases rest with - | ⟨second, rest⟩
    · rfl
    · have twice :
          (feedbackFor key .actCon false).deliver head =
            (feedbackFor key .actCon false).deliver second := by
        simp only [List.length_cons, List.replicate_succ, List.map_cons,
          List.cons.injEq] at own
        exact own.2.1
      have same : head.address = second.address :=
        congrArg Delivery.address twice
      simp [same] at nodup
  · intro single
    rcases List.length_eq_zero_iff.mp (Nat.succ.inj single) with rfl
    rfl

/-- The key of `sampleCommand`. -/
def sampleKey : Key :=
  ⟨sampleCommand.typeId, 1, 20⟩

/-- An ACT-CON and an ACT-TERM for `sampleCommand`. -/
def sampleConfirmation : List Event :=
  [.datapoint "south" (sampleFeedback Cot.activationCon 0) 0,
   .datapoint "south" (sampleFeedback Cot.activationTermination 0) 0]

theorem sampleConfirmation_keeps :
    EachStep
      (KeepsCommands samplePlatform sampleKey [0]
        ((machine samplePlatform).after sampleSystem
          [.command 1 sampleCommand 0 0]))
      sampleConfirmation := by
  refine
    (eachStep_concat_iff _ [_] _).mpr
      ⟨(eachStep_concat_iff _ [] _).mpr ⟨eachStep_nil _, ?_⟩, ?_⟩
  · decide
  · decide

theorem ownFeedback_iff_single_sample :
    deliveriesTo [0]
          (delivered samplePlatform sampleSystem
            ([.command 1 sampleCommand 0 0] ++ sampleConfirmation)) =
        [⟨0, 1, .actCon false false⟩] ++ [⟨0, 1, .actTerm false⟩] ↔
      1 = 1 :=
  ownFeedback_iff_single samplePlatform sampleSystem ⟨rfl, rfl⟩
    [.command 1 sampleCommand 0 0] sampleConfirmation sampleKey [false] _ rfl
    (by decide) (by decide) (by decide) sampleConfirmation_keeps rfl
    (by decide)

/-- Commands of two masters for one point, then their feedback. -/
def sampleCrossed : List Event :=
  [.command 1 sampleCommand 0 0, .command 2 sampleCommand 0 0] ++
    [.datapoint "south" (sampleFeedback Cot.activationCon 0) 0,
     .datapoint "south" (sampleFeedback Cot.activationCon 0) 0,
     .datapoint "south" (sampleFeedback Cot.activationTermination 0) 0,
     .datapoint "south" (sampleFeedback Cot.activationTermination 0) 0]

/-- The first master gets both ACT-CON, the second one none. -/
theorem crossedFeedback :
    (keyQueue sampleKey
          ((machine samplePlatform).after sampleSystem
            (sampleCrossed.take 2)).server.outstandingCommands).map
          (fun command => (command.address, command.connection)) =
        [(0, 1), (1, 2)] ∧
      deliveriesTo [0, 1]
          (delivered samplePlatform sampleSystem sampleCrossed) =
        [⟨0, 1, .actCon false false⟩, ⟨0, 1, .actCon false false⟩,
          ⟨0, 1, .actTerm false⟩, ⟨1, 2, .actTerm false⟩] ∧
      deliveriesTo [0, 1]
          (delivered samplePlatform sampleSystem sampleCrossed) ≠
        [⟨0, 1, .actCon false false⟩, ⟨1, 2, .actCon false false⟩,
          ⟨0, 1, .actTerm false⟩, ⟨1, 2, .actTerm false⟩] := by
  decide

/-! ## One command with its key -/

/--
All the feedback for a command: one ACT-CON, and an ACT-TERM after it when the
command is executed and the ACT-CON is positive.
-/
def FullFeedback (command : OutstandingCommand) : List Feedback → Prop
  | [confirmation] =>
      confirmation.kind = .actCon ∧
        (confirmation.isNegative = true ∨ command.isSelect = true)
  | [confirmation, termination] =>
      confirmation.kind = .actCon ∧
        confirmation.isNegative = false ∧
        command.isSelect = false ∧
        termination.kind = .actTerm
  | _ => False

/-- Before its last feedback the command is in its queue. -/
theorem after_partial {command : OutstandingCommand}
    {first rest : List Feedback}
    (full : FullFeedback command (first ++ rest)) (more : rest ≠ []) :
    ∃ changed, queueMachine.after [command] first = [changed] := by
  rcases first with - | ⟨confirmation, first⟩
  · exact ⟨command, rfl⟩
  · rcases first with - | ⟨second, first⟩
    · rcases rest with - | ⟨termination, - | ⟨third, rest⟩⟩
      · exact (more rfl).elim
      · rcases full with ⟨kind, positive, execute, -⟩
        refine ⟨(sendActCon command confirmation.isNegative).1, ?_⟩
        have left :
            confirmation.leaves command =
              some (sendActCon command confirmation.isNegative).1 := by
          rw [Feedback.leaves, kind]
          simp [afterActCon, sendActCon, positive, execute]
        simp [answerHead, left]
      · exact full.elim
    · rcases first with - | ⟨third, first⟩
      · rcases rest with - | ⟨termination, rest⟩
        · exact (more rfl).elim
        · exact full.elim
      · exact full.elim

/-- The full feedback goes to the command, which is then done. -/
theorem outputs_full {command : OutstandingCommand}
    {feedbacks : List Feedback} (full : FullFeedback command feedbacks) :
    queueMachine.outputs [command] feedbacks =
        feedbacks.map (fun feedback => feedback.deliver command) ∧
      ∀ changed ∈ queueMachine.after [command] feedbacks,
        changed.nextTimeout = 0 := by
  rcases feedbacks with
    - | ⟨confirmation, - | ⟨termination, - | ⟨third, rest⟩⟩⟩
  · exact full.elim
  · rcases full with ⟨kind, done⟩
    refine ⟨rfl, ?_⟩
    intro changed member
    have left : confirmation.leaves command = some changed := by
      simpa [answerHead] using member
    rw [Feedback.leaves, kind] at left
    rcases done with negative | select
    · rw [negative] at left
      rw [afterActCon_eq_some left]
      exact sendActCon_negative_nextTimeout command
    · simp [afterActCon, (sendActCon_same command _).isSelect, select]
        at left
  · rcases full with ⟨kind, positive, execute, isTerm⟩
    have left :
        confirmation.leaves command =
          some (sendActCon command confirmation.isNegative).1 := by
      rw [Feedback.leaves, kind]
      simp [afterActCon, sendActCon, positive, execute]
    have gone :
        termination.leaves
            (sendActCon command confirmation.isNegative).1 =
          none := by
      rw [Feedback.leaves, isTerm]
    constructor
    · simp [answerHead, left, deliver_same (sendActCon_same command _)]
    · simp [answerHead, left, gone]
  · exact full.elim

section Alone

variable {key : Key} {address : Nat} {ledger : Ledger}

/--
A move that does not disturb the command at an address: its callback does not
fail, and it is neither timed out nor lost with its connection.
-/
def Undisturbed (address : Nat) (commands : List OutstandingCommand) :
    Move → Prop
  | .returned handler true => handler.command.address ≠ address
  | .discard test =>
      ∀ command ∈ commands,
        command.address = address → test command = false
  | _ => True

instance (commands : List OutstandingCommand) :
    (move : Move) → Decidable (Undisturbed address commands move)
  | .returned handler true =>
      inferInstanceAs (Decidable (handler.command.address ≠ address))
  | .discard test =>
      inferInstanceAs
        (Decidable
          (∀ command ∈ commands,
            command.address = address → test command = false))
  | .returned _ false => inferInstanceAs (Decidable True)
  | .enter _ _ => inferInstanceAs (Decidable True)
  | .answer _ => inferInstanceAs (Decidable True)
  | .idle => inferInstanceAs (Decidable True)

/--
While the command is in its queue, a move that does not disturb it keeps it,
when the queue does not grow.
-/
theorem keeps_of_undisturbed {queued : OutstandingCommand}
    (follows : Follows key [address] ledger [queued]) {move : Move}
    (undisturbed : Undisturbed address ledger.outstanding move)
    (alone :
      (keyQueue key (move.outstanding ledger.outstanding)).length ≤ 1) :
    Keeps key [address] ledger.outstanding move := by
  cases move with
  | enter handler registered =>
      intro same
      have grown :
          keyQueue key (ledger.outstanding ++ [handler.command]) =
            [queued, handler.command] := by
        rw [keyQueue, List.filter_append, ← keyQueue, follows.queue]
        simp [same]
      rw [Move.outstanding, grown] at alone
      simp at alone
  | returned handler refused =>
      cases refused with
      | false => trivial
      | true =>
          intro inside
          exact undisturbed (by simpa using inside)
  | answer feedback => trivial
  | discard test =>
      intro command member
      have parts := mem_keyQueue.mp member
      have inside := (follows.mine command parts.1).mpr parts.2
      exact undisturbed command parts.1 (by simpa using inside)
  | idle => trivial

/--
A move after the feedback: none more is given to the key while an entry for the
command is left, and its callback does not fail.
-/
def Settles (key : Key) (address : Nat)
    (commands : List OutstandingCommand) : Move → Prop
  | .returned handler true => handler.command.address ≠ address
  | .answer feedback =>
      feedbackKey feedback = key →
        ∀ command ∈ commands, command.address ≠ address
  | _ => True

instance (commands : List OutstandingCommand) :
    (move : Move) → Decidable (Settles key address commands move)
  | .returned handler true =>
      inferInstanceAs (Decidable (handler.command.address ≠ address))
  | .answer feedback =>
      inferInstanceAs
        (Decidable
          (feedbackKey feedback = key →
            ∀ command ∈ commands, command.address ≠ address))
  | .returned _ false => inferInstanceAs (Decidable True)
  | .enter _ _ => inferInstanceAs (Decidable True)
  | .discard _ => inferInstanceAs (Decidable True)
  | .idle => inferInstanceAs (Decidable True)

/-- What is left of the command is due at the next scan. -/
structure Settled (key : Key) (address : Nat) (ledger : Ledger) :
    Prop where
  old : address < ledger.allocated
  due :
    ∀ command ∈ ledger.outstanding,
      command.address = address →
        keyOf command = key ∧ command.nextTimeout = 0

/-- Nothing is left of the command. -/
structure Gone (address : Nat) (ledger : Ledger) : Prop where
  old : address < ledger.allocated
  gone : ∀ command ∈ ledger.outstanding, command.address ≠ address

theorem old_move {move : Move} (old : address < ledger.allocated) :
    address < move.allocated ledger.allocated := by
  cases move with
  | enter handler registered => exact Nat.lt_succ_of_lt old
  | returned handler refused => exact old
  | answer feedback => exact old
  | discard test => exact old
  | idle => exact old

theorem Gone.move (gone : Gone address ledger) {move : Move}
    (fits : move.Fits ledger) : Gone address (ledger.move move) := by
  refine ⟨old_move gone.old, ?_⟩
  intro command member
  rcases Move.mem_outstanding member with
    ⟨before, wasThere, same⟩ | ⟨handler, registered, rfl, rfl⟩
  · rw [same.address]
    exact gone.gone before wasThere
  · rw [fits.1]
    exact (Nat.ne_of_lt gone.old).symm

/-- A scan takes away what is left of the command. -/
theorem Settled.scan (settled : Settled key address ledger)
    {currentTime : Nat} (later : 0 < currentTime) :
    Gone address (ledger.move (.discard (hasTimedOut · currentTime))) := by
  refine ⟨settled.old, ?_⟩
  intro command member same
  have parts := List.mem_filter.mp member
  have due := (settled.due command parts.1 same).2
  have timedOut : hasTimedOut command currentTime = true := by
    simp [hasTimedOut, due, later]
  simp [timedOut] at parts

/-- The step lemma: a settled command gets nothing and stays settled. -/
theorem Settled.move (settled : Settled key address ledger) {move : Move}
    (fits : move.Fits ledger)
    (settles : Settles key address ledger.outstanding move) :
    Settled key address (ledger.move move) ∧
      deliveriesTo [address] (move.delivers ledger.outstanding) = [] := by
  have newer : ∀ handler : PendingOperation,
      handler.command.address = ledger.allocated →
        handler.command.address ≠ address := by
    intro handler next same
    have less := settled.old
    omega
  cases move with
  | enter handler registered =>
      have other := newer handler fits.1
      refine ⟨⟨Nat.lt_succ_of_lt settled.old, ?_⟩, ?_⟩
      · intro command member same
        rcases List.mem_append.mp member with old | isNew
        · exact settled.due command old same
        · rcases List.mem_singleton.mp isNew with rfl
          exact (other same).elim
      · cases registered with
        | true => rfl
        | false => simp [Move.delivers, deliveriesTo, refuse, other]
  | returned handler refused =>
      refine ⟨⟨settled.old, settled.due⟩, ?_⟩
      cases refused with
      | false => rfl
      | true =>
          have other : handler.command.address ≠ address := settles
          simp [Move.delivers, deliveriesTo, refuse, other]
  | answer feedback =>
      have other :
          ∀ hit, ledger.outstanding.find? feedback.fits = some hit →
            hit.address ≠ address := by
        intro hit found same
        have member := List.mem_of_find?_eq_some found
        have isKey := (settled.due hit member same).1
        have fitsHit := fits_iff.mp (List.find?_some found)
        exact settles (fitsHit.symm.trans isKey) hit member same
      refine ⟨⟨settled.old, ?_⟩, ?_⟩
      · intro command member same
        rcases mem_alterFirst _ _ member with old | ⟨hit, found, left⟩
        · exact settled.due command old same
        · rw [(Feedback.leaves_same left).address] at same
          exact (other hit found same).elim
      · cases found : ledger.outstanding.find? feedback.fits with
        | none => simp [Move.delivers, found]
        | some hit =>
            simp [Move.delivers, found, deliveriesTo, Feedback.deliver,
              other hit found]
  | discard test =>
      refine ⟨⟨settled.old, ?_⟩, rfl⟩
      intro command member
      exact settled.due command (List.mem_of_mem_filter member)
  | idle => exact ⟨⟨settled.old, settled.due⟩, rfl⟩

end Alone

section Runs

variable (platform : Platform) {start : System}

/-- Nothing comes back of a command that is gone. -/
theorem gone_run {address : Nat} {state : System}
    (gone : Gone address (view state)) (events : List Event) :
    Gone address (view ((machine platform).after state events)) := by
  induction events using List.reverseRecOn with
  | nil => exact gone
  | append_singleton events event ih =>
      rw [view_concat]
      exact
        ih.move
          (moveOf_fits platform ((machine platform).after state events)
            event)

/-- The run lemma for a settled command. -/
theorem settled_run {key : Key} {address : Nat} {state : System}
    (settled : Settled key address (view state)) {events : List Event}
    (settles :
      EachStep
        (fun earlier event =>
          Settles key address
            ((machine platform).after state
              earlier).server.outstandingCommands
            (moveAfter platform state earlier event))
        events) :
    Settled key address (view ((machine platform).after state events)) ∧
      deliveriesTo [address] (delivered platform state events) = [] := by
  refine EachStep.induction ?_ ?_ settles
  · exact ⟨settled, rfl⟩
  · rintro earlier event - ⟨before, silent⟩ settle
    have next :=
      before.move
        (moveOf_fits platform ((machine platform).after state earlier) event)
        settle
    rw [view_concat, delivered_concat, deliveriesTo_append, silent]
    exact ⟨next.1, next.2⟩

/-- A command that has just come in and is alone is its queue. -/
theorem follows_entered (initial : Initial start) {earlier : List Event}
    {entering : Event} {handler : PendingOperation}
    (enters :
      moveAfter platform start earlier entering = .enter handler true)
    (alone :
      (keyQueue (keyOf handler.command)
        ((machine platform).after start
          (earlier ++ [entering])).server.outstandingCommands).length ≤ 1) :
    Follows (keyOf handler.command) [handler.command.address]
        (view ((machine platform).after start (earlier ++ [entering])))
        [handler.command] ∧
      deliveriesTo [handler.command.address]
          (delivered platform start (earlier ++ [entering])) =
        [] := by
  have fits :=
    moveOf_fits platform ((machine platform).after start earlier) entering
  change (moveAfter platform start earlier entering).Fits _ at fits
  rw [enters] at fits
  have queue :
      keyQueue (keyOf handler.command)
          ((machine platform).after start
            (earlier ++ [entering])).server.outstandingCommands =
        [handler.command] := by
    rw [outstanding_concat, enters, Move.outstanding, keyQueue,
      List.filter_append] at alone ⊢
    simpa using alone
  constructor
  · have follows :=
      follows_keyQueue
        (bookkeeping_run platform start initial (earlier ++ [entering]))
        (keyOf handler.command)
    rwa [show
      keyQueue (keyOf handler.command)
          (view ((machine platform).after start
            (earlier ++ [entering]))).outstanding =
        [handler.command] from queue] at follows
  · have before :=
      (bookkeeping_run platform start initial earlier).messagesTo_next
        fits.1
    rw [delivered_concat, enters, deliveriesTo_append]
    simpa [Move.delivers] using deliveriesTo_eq_nil (by simpa using before)

/--
While feedback is still to come, the queue of the command is the command.
-/
theorem follows_begun {command : OutstandingCommand} {state : System}
    (follows :
      Follows (keyOf command) [command.address] (view state) [command])
    {feedbacks more : List Feedback} {begun : List Event}
    (alone :
      ∀ first second, begun = first ++ second →
        (keyQueue (keyOf command)
          ((machine platform).after state
            first).server.outstandingCommands).length ≤ 1)
    (undisturbed :
      EachStep
        (fun earlier event =>
          Undisturbed command.address
            ((machine platform).after state
              earlier).server.outstandingCommands
            (moveAfter platform state earlier event))
        begun)
    (full : FullFeedback command feedbacks)
    (partly :
      given platform (keyOf command) state begun ++ more = feedbacks)
    (unfinished : more ≠ []) :
    EachStep
      (KeepsCommands platform (keyOf command) [command.address] state)
      begun := by
  induction begun using List.reverseRecOn generalizing more with
  | nil => exact eachStep_nil _
  | append_singleton begun event ih =>
      have steps := (eachStep_concat_iff _ begun event).mp undisturbed
      rw [given_concat, List.append_assoc] at partly
      have before :=
        ih
          (fun first second split =>
            alone first (second ++ [event]) (by simp [split]))
          steps.1 partly (by simp [unfinished])
      have run := (follows_run platform follows before).1
      obtain ⟨queued, isQueue⟩ :=
        after_partial (partly ▸ full) (by simp [unfinished])
      rw [isQueue] at run
      have short := alone (begun ++ [event]) [] (by simp)
      rw [outstanding_concat] at short
      exact
        (eachStep_concat_iff _ begun event).mpr
          ⟨before, keeps_of_undisturbed run steps.2 short⟩

/-- After its full feedback the command is settled. -/
theorem settled_of_follows {command : OutstandingCommand} {state : System}
    {feedbacks : List Feedback}
    (follows :
      Follows (keyOf command) [command.address] (view state)
        (queueMachine.after [command] feedbacks))
    (full : FullFeedback command feedbacks) :
    Settled (keyOf command) command.address (view state) := by
  refine ⟨follows.old command.address (by simp), ?_⟩
  intro other member same
  have isKey := (follows.mine other member).mp (by simp [same])
  have inQueue := mem_keyQueue.mpr ⟨member, isKey⟩
  rw [follows.queue] at inQueue
  exact ⟨isKey, (outputs_full full).2 other inQueue⟩

end Runs

/--
A run in which a command gets all its feedback.  After `earlier` the event
`entering` brings the command in and calls the callback; `begun` and `last` are
the events up to its last feedback, and `later` is what follows.
-/
structure FeedbackRun (platform : Platform) (start : System) where
  earlier : List Event
  entering : Event
  handler : PendingOperation
  begun : List Event
  last : Event
  later : List Event
  feedbacks : List Feedback
  entered : System := (machine platform).after start (earlier ++ [entering])
  done : System := (machine platform).after entered (begun ++ [last])
  isEntered :
    entered = (machine platform).after start (earlier ++ [entering])
  isDone : done = (machine platform).after entered (begun ++ [last])
  enters : moveAfter platform start earlier entering = .enter handler true
  full : FullFeedback handler.command feedbacks
  alone :
    ∀ first second, begun = first ++ second →
      (keyQueue (keyOf handler.command)
        ((machine platform).after entered
          first).server.outstandingCommands).length ≤ 1
  undisturbed :
    EachStep
      (fun past event =>
        Undisturbed handler.command.address
          ((machine platform).after entered past).server.outstandingCommands
          (moveAfter platform entered past event))
      begun
  given :
    given platform (keyOf handler.command) entered (begun ++ [last]) =
      feedbacks
  isLast :
    (givenTo (keyOf handler.command)
      (moveAfter platform entered begun last)).isSome = true
  settles :
    EachStep
      (fun past event =>
        Settles (keyOf handler.command) handler.command.address
          ((machine platform).after done past).server.outstandingCommands
          (moveAfter platform done past event))
      later

/-- All the events of the run. -/
def FeedbackRun.events {platform : Platform} {start : System}
    (run : FeedbackRun platform start) : List Event :=
  run.earlier ++ [run.entering] ++ (run.begun ++ [run.last]) ++ run.later

section FeedbackRuns

variable {platform : Platform} {start : System}

/-- The state of the queue when the last feedback has been given. -/
theorem FeedbackRun.follows_done (run : FeedbackRun platform start)
    (initial : Initial start) :
    Follows (keyOf run.handler.command) [run.handler.command.address]
        (view run.done)
        (queueMachine.after [run.handler.command] run.feedbacks) ∧
      deliveriesTo [run.handler.command.address]
          (delivered platform start
            (run.earlier ++ [run.entering] ++ (run.begun ++ [run.last]))) =
        queueMachine.outputs [run.handler.command] run.feedbacks := by
  have alone := run.alone [] run.begun rfl
  rw [run.isEntered] at alone
  rcases follows_entered platform initial run.enters alone with
    ⟨follows, nothing⟩
  rw [← run.isEntered] at follows
  rcases Option.isSome_iff_exists.mp run.isLast with ⟨final, isFinal⟩
  have split :=
    given_concat platform (keyOf run.handler.command) run.entered run.begun
      run.last
  rw [isFinal, run.given] at split
  have keeps :=
    follows_begun platform follows run.alone run.undisturbed run.full
      split.symm (by simp)
  have keepsLast :
      KeepsCommands platform (keyOf run.handler.command)
        [run.handler.command.address] run.entered run.begun run.last := by
    cases isMove : moveAfter platform run.entered run.begun run.last with
    | answer answered => simp [KeepsCommands, isMove, Keeps]
    | enter => simp [isMove, givenTo] at isFinal
    | returned => simp [isMove, givenTo] at isFinal
    | discard => simp [isMove, givenTo] at isFinal
    | idle => simp [isMove, givenTo] at isFinal
  have keepsDone :=
    (eachStep_concat_iff _ run.begun run.last).mpr ⟨keeps, keepsLast⟩
  rcases follows_run platform follows keepsDone with ⟨followsDone, sent⟩
  rw [run.given] at followsDone sent
  rw [← run.isDone] at followsDone
  refine ⟨followsDone, ?_⟩
  rw [delivered_append, deliveriesTo_append, nothing, ← run.isEntered, sent,
    List.nil_append]

theorem FeedbackRun.after_events (run : FeedbackRun platform start) :
    (machine platform).after start run.events =
      (machine platform).after run.done run.later := by
  rw [FeedbackRun.events, Machine.after_append, Machine.after_append,
    ← run.isEntered, ← run.isDone]

end FeedbackRuns

/-- `sampleCommand` with its handler in the callback. -/
def sampleHandler : PendingOperation where
  command :=
    create 0 { sampleCommand with cot := Cot.activationCon } 1 20 false 0
  connection := 1
  asdu := { sampleCommand with cot := Cot.activationCon }

/-- `sampleCommand`, its ACT-CON and ACT-TERM, and a scan. -/
def sampleRun : FeedbackRun samplePlatform sampleSystem where
  earlier := []
  entering := .command 1 sampleCommand 0 0
  handler := sampleHandler
  begun :=
    [.datapoint "south" (sampleFeedback Cot.activationCon 0) 0]
  last :=
    .datapoint "south" (sampleFeedback Cot.activationTermination 0) 0
  later := [.scanTimeouts 1]
  feedbacks :=
    [feedbackFor sampleKey .actCon false,
      feedbackFor sampleKey .actTerm false]
  isEntered := rfl
  isDone := rfl
  enters := rfl
  full := ⟨rfl, rfl, rfl, rfl⟩
  alone := by
    intro first second split
    rcases first with - | ⟨event, - | ⟨other, rest⟩⟩
    · decide
    · rcases (List.cons.inj split).1 with rfl
      decide
    · simp at split
  undisturbed :=
    (eachStep_concat_iff _ [] _).mpr ⟨eachStep_nil _, by decide⟩
  given := by decide
  isLast := by decide
  settles :=
    (eachStep_concat_iff _ [] _).mpr ⟨eachStep_nil _, by decide⟩

end Iec104North.FeedbackDelivery
