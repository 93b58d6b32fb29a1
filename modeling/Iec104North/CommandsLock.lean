import Iec104North.CommandLedger
import Iec104North.Library.Lock
import Iec104North.Library.VectorLoop

/-!
# The lock of the outstanding commands

Command handlers, `plugin_send`, connection events, the monitoring thread and
the destructor work on `m_outstandingCommands` in threads of their own.  They
add to it and loop over it with an iterator, which an erasure by another thread
would invalidate.  `m_outstandingCommandsLock` is what prevents this.

Here a thread makes one turn of its loop at a time and others go on in between.
The lock makes the calls atomic: one that erases takes effect when it gets the
lock, a command is added or found in one turn, and feedback without a command
comes to nothing when its loop ends.
-/

namespace Iec104North.CommandsLock

open Iec104North.Library
open Iec104North.Values
open Iec104North.Server
open Iec104North.OutstandingCommands
open Iec104North.CommandLedger

/-! ## Whole calls -/

/--
A call of a function that takes the lock: `addToOutstandingCommands`,
`handleActCon` or `handleActTerm`, `removeOutstandingCommands`,
`removeAllOutstandingCommands` and the scan for timeouts.
-/
inductive CommandsCall where
  | add (command : OutstandingCommand)
  | feedback (feedback : Feedback)
  | remove (connection : Connection)
  | removeAll
  | scan (currentTime : Nat)
deriving DecidableEq, Repr

/-- The test of a loop that erases. -/
def CommandsCall.erases : CommandsCall → Option (OutstandingCommand → Bool)
  | .add _ => none
  | .feedback _ => none
  | .remove connection => some (isSentFromConnection · connection)
  | .removeAll => some fun _ => true
  | .scan currentTime => some (hasTimedOut · currentTime)

/-- The messages of `sendActCon` or `sendActTerm` for a command. -/
def feedbackEffects (feedback : Feedback) (command : OutstandingCommand) :
    List Effect :=
  match feedback.kind with
  | .actCon => (sendActCon command feedback.isNegative).2
  | .actTerm => (sendActTerm command feedback.isNegative).2

/-- What a whole call makes of the commands. -/
def perform (commands : List OutstandingCommand) :
    CommandsCall → List OutstandingCommand × List Effect
  | .add command => (commands ++ [command], [])
  | .feedback feedback =>
      (alterFirst feedback.fits feedback.leaves commands,
        ((commands.find? feedback.fits).map (feedbackEffects feedback)).getD
          [])
  | .remove connection =>
      (eraseWhile (isSentFromConnection · connection) [] commands, [])
  | .removeAll => (eraseWhile (fun _ => true) [] commands, [])
  | .scan currentTime =>
      (eraseWhile (hasTimedOut · currentTime) [] commands, [])

/-- The outstanding commands, one whole call after the other. -/
def wholeCalls :
    Machine (List OutstandingCommand) CommandsCall Effect where
  step := perform

@[simp]
theorem wholeCalls_step (commands : List OutstandingCommand)
    (call : CommandsCall) :
    wholeCalls.step commands call = perform commands call :=
  rfl

/-- Whole calls that erase are filters. -/
theorem perform_erases {call : CommandsCall}
    {test : OutstandingCommand → Bool} (erases : call.erases = some test)
    (commands : List OutstandingCommand) :
    perform commands call =
      (commands.filter fun command => !test command, []) := by
  cases call with
  | add command => simp [CommandsCall.erases] at erases
  | feedback feedback => simp [CommandsCall.erases] at erases
  | remove connection =>
      rcases Option.some.inj erases with rfl
      simp [perform, eraseWhile_eq_append_filter]
  | removeAll =>
      rcases Option.some.inj erases with rfl
      simp [perform, eraseWhile_eq_append_filter]
  | scan currentTime =>
      rcases Option.some.inj erases with rfl
      simp [perform, eraseWhile_eq_append_filter]

/-! ## Turns -/

/--
Where a thread stands inside a call: the position of its iterator, and whether
it has left its loop.
-/
structure Section where
  call : CommandsCall
  position : Nat := 0
  isDone : Bool := false
deriving DecidableEq, Repr

/-- A turn of a loop that erases; the iterator must be valid. -/
def erasingTurn (call : CommandsCall) (test : OutstandingCommand → Bool)
    (commands : List OutstandingCommand) (position : Nat) :
    Turn (List OutstandingCommand) Section Effect :=
  if valid : position ≤ commands.length then
    match eraseTurn test ⟨⟨commands, position, valid⟩, []⟩ with
    | none => .leaves
    | some loop =>
        .goes loop.it.vector
          { call := call, position := loop.it.position } []
  else
    .undefined

/-- A turn of the loop of `handleActCon` or `handleActTerm`. -/
def searchingTurn (feedback : Feedback)
    (commands : List OutstandingCommand) (position : Nat) :
    Turn (List OutstandingCommand) Section Effect :=
  if valid : position ≤ commands.length then
    match
        searchTurn feedback.fits feedback.leaves
          ⟨⟨commands, position, valid⟩, none⟩ with
    | none => .leaves
    | some loop =>
        .goes loop.it.vector
          { call := .feedback feedback
            position := loop.it.position
            isDone := loop.found.isSome }
          ((loop.found.map (feedbackEffects feedback)).getD [])
  else
    .undefined

/-- A turn of a call; `addToOutstandingCommands` makes one only. -/
def turn (commands : List OutstandingCommand) (inside : Section) :
    Turn (List OutstandingCommand) Section Effect :=
  if inside.isDone then
    .leaves
  else
    match inside.call with
    | .add command =>
        .goes (commands ++ [command]) { inside with isDone := true } []
    | .feedback feedback => searchingTurn feedback commands inside.position
    | .remove connection =>
        erasingTurn inside.call (isSentFromConnection · connection) commands
          inside.position
    | .removeAll =>
        erasingTurn inside.call (fun _ => true) commands inside.position
    | .scan currentTime =>
        erasingTurn inside.call (hasTimedOut · currentTime) commands
          inside.position

-- An iterator at the end of a list which another thread has shortened since.
example : turn [] { call := .scan 0, position := 1 } = .undefined := rfl

/-- The calls with their turns. -/
def turns :
    Turns (List OutstandingCommand) CommandsCall Section Effect where
  enter call := { call := call }
  turn := turn

/-- A turn of a call that erases is a turn of its loop. -/
theorem turn_erases {inside : Section} {test : OutstandingCommand → Bool}
    (erases : inside.call.erases = some test)
    (notDone : inside.isDone = false) (commands : List OutstandingCommand) :
    turn commands inside =
      erasingTurn inside.call test commands inside.position := by
  rcases inside with ⟨call, position, isDone⟩
  rcases notDone with rfl
  cases call with
  | add command => simp [CommandsCall.erases] at erases
  | feedback feedback => simp [CommandsCall.erases] at erases
  | remove connection =>
      rcases Option.some.inj erases with rfl
      rfl
  | removeAll =>
      rcases Option.some.inj erases with rfl
      rfl
  | scan currentTime =>
      rcases Option.some.inj erases with rfl
      rfl

/-! ### The turns of a loop at an element and behind the last one -/

section Loops

variable (call : CommandsCall) (test : OutstandingCommand → Bool)
  (feedback : Feedback) (visited rest : List OutstandingCommand)
  (command : OutstandingCommand)

theorem erasingTurn_nil :
    erasingTurn call test visited visited.length = .leaves := by
  have ends := eraseTurn_nil test visited []
  simp only [Iterator.between, List.append_nil] at ends
  rw [erasingTurn, dif_pos (Nat.le_refl _), ends]

theorem erasingTurn_cons :
    erasingTurn call test (visited ++ command :: rest) visited.length =
      if test command then
        .goes (visited ++ rest) { call := call, position := visited.length }
          []
      else
        .goes (visited ++ command :: rest)
          { call := call, position := visited.length + 1 } [] := by
  have goes := eraseTurn_cons test visited rest [] command
  simp only [Iterator.between] at goes
  rw [erasingTurn, dif_pos (by simp), goes]
  by_cases passes : test command = true
  · simp [passes]
  · simp [passes]

theorem searchingTurn_nil :
    searchingTurn feedback visited visited.length = .leaves := by
  have ends := searchTurn_nil feedback.fits feedback.leaves visited
  simp only [Iterator.between, List.append_nil] at ends
  rw [searchingTurn, dif_pos (Nat.le_refl _), ends]

theorem searchingTurn_cons :
    searchingTurn feedback (visited ++ command :: rest) visited.length =
      if feedback.fits command then
        .goes (visited ++ (feedback.leaves command).toList ++ rest)
          { call := .feedback feedback
            position := visited.length
            isDone := true }
          (feedbackEffects feedback command)
      else
        .goes (visited ++ command :: rest)
          { call := .feedback feedback, position := visited.length + 1 }
          [] := by
  have goes :=
    searchTurn_cons feedback.fits feedback.leaves visited rest command
  simp only [Iterator.between] at goes
  rw [searchingTurn, dif_pos (by simp), goes]
  by_cases fits : feedback.fits command = true
  · simp [fits]
  · simp [fits]

end Loops

/-! ## The calls are atomic -/

/--
The commands for those who see whole calls only.  A loop that erases counts as
through: what it will erase is no longer there.
-/
def seenCommands (commands : List OutstandingCommand) (inside : Section) :
    List OutstandingCommand :=
  match inside.call.erases with
  | none => commands
  | some test =>
      commands.take inside.position ++
        (commands.drop inside.position).filter fun command => !test command

/--
The call that has not taken effect: one that erases takes effect with the lock,
any other one when it adds, changes or erases its command.
-/
def ahead (inside : Section) : Option CommandsCall :=
  if inside.isDone || inside.call.erases.isSome then none
  else some inside.call

/--
What holds inside a call: the iterator is valid, and feedback fits none of the
commands before it.
-/
structure IsInside (commands : List OutstandingCommand) (inside : Section) :
    Prop where
  valid : inside.position ≤ commands.length
  erasing : inside.call.erases.isSome → inside.isDone = false
  unmatched :
    ∀ feedback,
      inside.call = .feedback feedback →
        inside.isDone = false →
          ∀ command ∈ commands.take inside.position,
            feedback.fits command = false

/-- A bound for the turns to come. -/
def remainingTurns (commands : List OutstandingCommand) (inside : Section) :
    Nat :=
  if inside.isDone then 0 else commands.length - inside.position + 1

/-- A call takes effect. -/
theorem effectiveCall (commands : List OutstandingCommand)
    (call : CommandsCall) :
    Passes wholeCalls commands (some call) (perform commands call).1 none
      (perform commands call).2 :=
  .effective commands call

/-- The commands before the iterator and from it on. -/
theorem split_position {commands : List OutstandingCommand} {position : Nat}
    (valid : position ≤ commands.length) :
    ∃ visited rest,
      commands = visited ++ rest ∧ position = visited.length :=
  ⟨commands.take position, commands.drop position,
    (List.take_append_drop _ _).symm, (List.length_take_of_le valid).symm⟩

/-! ### Calls that erase -/

section Erasing

variable {call : CommandsCall} {test : OutstandingCommand → Bool}
  (erases : call.erases = some test) (position : Nat)

include erases

theorem ahead_erases (isDone : Bool) :
    ahead ⟨call, position, isDone⟩ = none := by
  simp [ahead, erases]

theorem seenCommands_erases (visited rest : List OutstandingCommand) :
    seenCommands (visited ++ rest) ⟨call, visited.length, false⟩ =
      visited ++ rest.filter fun command => !test command := by
  simp [seenCommands, erases]

theorem isInside_erases {commands : List OutstandingCommand}
    (valid : position ≤ commands.length) :
    IsInside commands ⟨call, position, false⟩ := by
  refine ⟨valid, fun _ => rfl, ?_⟩
  rintro feedback rfl
  simp [CommandsCall.erases] at erases

/-- A turn that leaves the others what they see. -/
theorem passes_erases {before after : List OutstandingCommand}
    (next : Nat)
    (same :
      seenCommands after ⟨call, next, false⟩ =
        seenCommands before ⟨call, position, false⟩) :
    Passes wholeCalls (seenCommands before ⟨call, position, false⟩)
      (ahead ⟨call, position, false⟩)
      (seenCommands after ⟨call, next, false⟩)
      (ahead ⟨call, next, false⟩) [] := by
  rw [same, ahead_erases erases, ahead_erases erases]
  exact .silent _ _

/-- A turn of a loop that erases changes nothing for the others. -/
theorem goes_erases {commands next : List OutstandingCommand}
    {other : Section} {outputs : List Effect}
    (valid : position ≤ commands.length)
    (goes :
      erasingTurn call test commands position = .goes next other outputs) :
    IsInside next other ∧
      remainingTurns next other <
        remainingTurns commands ⟨call, position, false⟩ ∧
      Passes wholeCalls (seenCommands commands ⟨call, position, false⟩)
        (ahead ⟨call, position, false⟩) (seenCommands next other)
        (ahead other) outputs := by
  rcases split_position valid with ⟨visited, rest, rfl, rfl⟩
  cases rest with
  | nil =>
      rw [List.append_nil, erasingTurn_nil] at goes
      simp at goes
  | cons command rest =>
      rw [erasingTurn_cons] at goes
      have before :=
        seenCommands_erases erases visited (command :: rest)
      by_cases passes : test command = true
      · rw [if_pos passes] at goes
        rcases Turn.goes.inj goes with ⟨rfl, rfl, rfl⟩
        refine
          ⟨isInside_erases erases _ (by simp), by simp [remainingTurns],
            passes_erases erases _ _ ?_⟩
        rw [before, seenCommands_erases erases,
          List.filter_cons_of_neg (by simp [passes])]
      · rw [if_neg passes] at goes
        rcases Turn.goes.inj goes with ⟨rfl, rfl, rfl⟩
        refine
          ⟨isInside_erases erases _ (by simp),
            by simp [remainingTurns]; omega, passes_erases erases _ _ ?_⟩
        have after :=
          seenCommands_erases erases (visited ++ [command]) rest
        rw [← List.append_cons, List.length_append, List.length_singleton]
          at after
        rw [before, after, List.filter_cons_of_pos (by simp [passes]),
          ← List.append_cons]

/-- At its end the loop has erased all that it counts for. -/
theorem leaves_erases {commands : List OutstandingCommand}
    (valid : position ≤ commands.length)
    (leaves : erasingTurn call test commands position = .leaves) :
    Passes wholeCalls (seenCommands commands ⟨call, position, false⟩)
      (ahead ⟨call, position, false⟩) commands none [] := by
  rcases split_position valid with ⟨visited, rest, rfl, rfl⟩
  cases rest with
  | nil =>
      rw [ahead_erases erases, seenCommands_erases erases]
      exact .silent _ _
  | cons command rest =>
      rw [erasingTurn_cons] at leaves
      split at leaves
      · simp at leaves
      · simp at leaves

/-- The loop takes effect with the lock. -/
theorem enters_erases (commands : List OutstandingCommand) :
    Passes wholeCalls commands (some call)
      (seenCommands commands ⟨call, 0, false⟩) (ahead ⟨call, 0, false⟩)
      [] := by
  have whole := perform_erases erases commands
  have seen := seenCommands_erases erases [] commands
  rw [List.nil_append, List.nil_append, List.length_nil] at seen
  have effect := effectiveCall commands call
  rw [whole] at effect
  rw [seen, ahead_erases erases]
  exact effect

end Erasing

/-! ### Feedback -/

section Searching

variable {feedback : Feedback} {visited rest : List OutstandingCommand}
  (unmatched : ∀ earlier ∈ visited, feedback.fits earlier = false)

include unmatched

/-- Feedback goes to the first command that it fits. -/
theorem perform_feedback {command : OutstandingCommand}
    (fits : feedback.fits command = true) :
    perform (visited ++ command :: rest) (.feedback feedback) =
      (visited ++ (feedback.leaves command).toList ++ rest,
        feedbackEffects feedback command) := by
  have noEarlier : visited.find? feedback.fits = none :=
    List.find?_eq_none.mpr fun earlier member => by
      simp [unmatched earlier member]
  rw [perform, alterFirst_split _ _ unmatched fits, List.find?_append,
    noEarlier, Option.none_or, List.find?_cons_of_pos fits]
  rfl

/-- Feedback that fits no command changes nothing. -/
theorem perform_feedback_unmatched :
    perform visited (.feedback feedback) = (visited, []) := by
  have noCommand : visited.find? feedback.fits = none :=
    List.find?_eq_none.mpr fun earlier member => by
      simp [unmatched earlier member]
  rw [perform, alterFirst_eq_self _ _ unmatched, noCommand]
  rfl

theorem isInside_feedback :
    IsInside (visited ++ rest)
      ⟨.feedback feedback, visited.length, false⟩ := by
  refine ⟨by simp, fun _ => rfl, ?_⟩
  intro other same _
  rcases CommandsCall.feedback.inj same with rfl
  rw [List.take_left]
  exact unmatched

end Searching

section Searching

variable {feedback : Feedback} {commands : List OutstandingCommand}
  {position : Nat}
  (isInside : IsInside commands ⟨.feedback feedback, position, false⟩)

include isInside

/-- The commands before the iterator do not fit. -/
theorem split_feedback :
    ∃ visited rest,
      commands = visited ++ rest ∧
        position = visited.length ∧
        ∀ earlier ∈ visited, feedback.fits earlier = false := by
  rcases split_position isInside.valid with ⟨visited, rest, rfl, here⟩
  refine ⟨visited, rest, rfl, here, ?_⟩
  have unmatched := isInside.unmatched feedback rfl rfl
  rw [here, List.take_left] at unmatched
  exact unmatched

/-- The call takes effect in the turn that finds its command. -/
theorem goes_feedback {next : List OutstandingCommand} {other : Section}
    {outputs : List Effect}
    (goes :
      searchingTurn feedback commands position = .goes next other outputs) :
    IsInside next other ∧
      remainingTurns next other <
        remainingTurns commands ⟨.feedback feedback, position, false⟩ ∧
      Passes wholeCalls
        (seenCommands commands ⟨.feedback feedback, position, false⟩)
        (ahead ⟨.feedback feedback, position, false⟩)
        (seenCommands next other) (ahead other) outputs := by
  rcases split_feedback isInside with ⟨visited, rest, rfl, rfl, unmatched⟩
  cases rest with
  | nil =>
      rw [List.append_nil, searchingTurn_nil] at goes
      simp at goes
  | cons command rest =>
      rw [searchingTurn_cons] at goes
      by_cases fits : feedback.fits command = true
      · rw [if_pos fits] at goes
        rcases Turn.goes.inj goes with ⟨rfl, rfl, rfl⟩
        refine ⟨⟨by simp, ?_, ?_⟩, by simp [remainingTurns], ?_⟩
        · intro isErasing
          simp [CommandsCall.erases] at isErasing
        · intro _ _ notDone
          simp at notDone
        · have effect :=
            effectiveCall (visited ++ command :: rest) (.feedback feedback)
          rw [perform_feedback unmatched fits] at effect
          exact effect
      · rw [if_neg fits] at goes
        rcases Turn.goes.inj goes with ⟨rfl, rfl, rfl⟩
        have passed :
            ∀ earlier ∈ visited ++ [command],
              feedback.fits earlier = false := by
          intro earlier member
          rcases List.mem_append.mp member with before | last
          · exact unmatched earlier before
          · rw [List.mem_singleton.mp last]
            exact Bool.not_eq_true _ ▸ fits
        refine ⟨?_, by simp [remainingTurns]; omega, .silent _ _⟩
        have inside :
            IsInside (visited ++ [command] ++ rest)
              ⟨.feedback feedback, (visited ++ [command]).length, false⟩ :=
          isInside_feedback passed
        rw [← List.append_cons, List.length_append, List.length_singleton]
          at inside
        exact inside

/-- Without a command that fits, the call comes to nothing. -/
theorem leaves_feedback
    (leaves : searchingTurn feedback commands position = .leaves) :
    Passes wholeCalls
      (seenCommands commands ⟨.feedback feedback, position, false⟩)
      (ahead ⟨.feedback feedback, position, false⟩) commands none [] := by
  rcases split_feedback isInside with ⟨visited, rest, rfl, rfl, unmatched⟩
  cases rest with
  | nil =>
      have effect := effectiveCall visited (.feedback feedback)
      rw [perform_feedback_unmatched unmatched] at effect
      rw [List.append_nil]
      exact effect
  | cons command rest =>
      rw [searchingTurn_cons] at leaves
      split at leaves
      · simp at leaves
      · simp at leaves

end Searching

/-! ### All calls -/

/-- An iterator that is valid leads to a turn that is defined. -/
theorem turn_defined {commands : List OutstandingCommand} {inside : Section}
    (isInside : IsInside commands inside) :
    turn commands inside ≠ .undefined := by
  have erasing :
      ∀ call test,
        erasingTurn call test commands inside.position ≠ .undefined := by
    intro call test
    rw [erasingTurn, dif_pos isInside.valid]
    split <;> simp
  have searching :
      ∀ feedback,
        searchingTurn feedback commands inside.position ≠ .undefined := by
    intro feedback
    rw [searchingTurn, dif_pos isInside.valid]
    split <;> simp
  rw [turn]
  split
  · simp
  · split
    · simp
    · exact searching _
    · exact erasing _ _
    · exact erasing _ _
    · exact erasing _ _

/-- A call adds a command, is feedback, or erases. -/
theorem call_cases (call : CommandsCall) :
    (∃ command, call = .add command) ∨
      (∃ feedback, call = .feedback feedback) ∨
      ∃ test, call.erases = some test := by
  cases call with
  | add command => exact Or.inl ⟨command, rfl⟩
  | feedback feedback => exact Or.inr (Or.inl ⟨feedback, rfl⟩)
  | remove connection => exact Or.inr (Or.inr ⟨_, rfl⟩)
  | removeAll => exact Or.inr (Or.inr ⟨_, rfl⟩)
  | scan currentTime => exact Or.inr (Or.inr ⟨_, rfl⟩)

theorem call_enters (commands : List OutstandingCommand)
    (call : CommandsCall) :
    Passes wholeCalls commands (some call)
      (seenCommands commands ⟨call, 0, false⟩) (ahead ⟨call, 0, false⟩)
      [] := by
  rcases call_cases call with
    ⟨command, rfl⟩ | ⟨feedback, rfl⟩ | ⟨test, erases⟩
  · exact .silent _ _
  · exact .silent _ _
  · exact enters_erases erases commands

theorem call_goes {commands next : List OutstandingCommand}
    {inside other : Section} {outputs : List Effect}
    (isInside : IsInside commands inside)
    (goes : turn commands inside = .goes next other outputs) :
    IsInside next other ∧
      remainingTurns next other < remainingTurns commands inside ∧
      Passes wholeCalls (seenCommands commands inside) (ahead inside)
        (seenCommands next other) (ahead other) outputs := by
  rcases inside with ⟨call, position, isDone⟩
  cases isDone with
  | true => simp [turn] at goes
  | false =>
      rcases call_cases call with
        ⟨command, rfl⟩ | ⟨feedback, rfl⟩ | ⟨test, erases⟩
      · rcases Turn.goes.inj goes with ⟨rfl, rfl, rfl⟩
        refine ⟨⟨?_, ?_, ?_⟩, by simp [remainingTurns], ?_⟩
        · exact isInside.valid.trans (by simp)
        · intro isErasing
          simp [CommandsCall.erases] at isErasing
        · intro _ _ notDone
          simp at notDone
        · exact effectiveCall commands (.add command)
      · exact goes_feedback isInside goes
      · rw [turn_erases erases rfl] at goes
        exact goes_erases erases position isInside.valid goes

theorem call_leaves {commands : List OutstandingCommand}
    {inside : Section} (isInside : IsInside commands inside)
    (leaves : turn commands inside = .leaves) :
    Passes wholeCalls (seenCommands commands inside) (ahead inside) commands
      none [] := by
  rcases inside with ⟨call, position, isDone⟩
  cases isDone with
  | true =>
      have keeps : call.erases = none := by
        cases erases : call.erases with
        | none => rfl
        | some test => simpa [erases] using isInside.erasing
      simp only [seenCommands, keeps]
      exact .silent _ _
  | false =>
      rcases call_cases call with
        ⟨command, rfl⟩ | ⟨feedback, rfl⟩ | ⟨test, erases⟩
      · simp [turn] at leaves
      · exact leaves_feedback isInside leaves
      · rw [turn_erases erases rfl] at leaves
        exact leaves_erases erases position isInside.valid leaves

/-- The lock makes the calls atomic. -/
theorem calls_atomic :
    Atomic turns wholeCalls seenCommands ahead IsInside remainingTurns where
  enters commands call := by
    refine ⟨⟨Nat.zero_le _, fun _ => rfl, ?_⟩, call_enters commands call⟩
    intro _ _ _ command member
    simp [turns] at member
  goes := call_goes
  leaves := call_leaves
  defined := turn_defined

end Iec104North.CommandsLock
