import Iec104North.TableReads

/-!
# The deadline of a command

An outstanding command gets its deadline when it comes in: the time of receipt
and `cmd_exec_timeout` seconds.  A positive ACT-CON of an execute command
leaves it, so that the scan for timeouts decides by the time of receipt until
the command is closed.
-/

namespace Iec104North.CommandDeadlines

open Iec104North.Library
open Iec104North.Values
open Iec104North.Config
open Iec104North.Server
open Iec104North.OutstandingCommands
open Iec104North.Commands
open Iec104North.CommandPaths
open Iec104North.CommandLedger
open Iec104North.LedgerRefinement
open Iec104North.TableReads
open Iec104North.Runs

/-! ## Deadlines -/

/-- `m_nextTimeout` of a command that has just come in. -/
def deadline (cmdExecTimeout : Int) (rcvdTime : Nat) : Nat :=
  toUInt64 (rcvdTime + toInt32 (cmdExecTimeout * 1000))

/-- The feedback ends the time of a command: it is no positive ACT-CON. -/
def closesOn (feedback : Feedback) (command : OutstandingCommand) : Prop :=
  feedback.kind = .actTerm ∨
    feedback.isNegative = true ∨ command.isSelect = true

/-- The move answers the command at an address with such a feedback. -/
def MoveCloses (commands : List OutstandingCommand) (address : Nat)
    (move : Move) : Prop :=
  ∃ feedback command,
    move = .answer feedback ∧
      commands.find? feedback.fits = some command ∧
      command.address = address ∧ closesOn feedback command

/-- Any other feedback leaves the deadline. -/
theorem nextTimeout_of_leaves {feedback : Feedback}
    {command changed : OutstandingCommand}
    (stays : ¬ closesOn feedback command)
    (left : feedback.leaves command = some changed) :
    changed.nextTimeout = command.nextTimeout := by
  rw [closesOn, not_or, not_or, Bool.not_eq_true, Bool.not_eq_true] at stays
  rw [Feedback.leaves] at left
  split at left
  · rcases afterActCon_eq_some left with rfl
    simp [sendActCon, stays.2.1, stays.2.2]
  · simp at left

/-- What a move makes of the deadline of a command that it does not close. -/
theorem nextTimeout_of_move {commands : List OutstandingCommand}
    {move : Move} {command : OutstandingCommand}
    (stays : ¬ MoveCloses commands command.address move)
    (member : command ∈ move.outstanding commands) :
    (∃ old ∈ commands,
        command.address = old.address ∧
          command.nextTimeout = old.nextTimeout) ∨
      ∃ handler registered,
        move = .enter handler registered ∧ command = handler.command := by
  cases move with
  | enter handler registered =>
      rcases List.mem_append.mp member with old | isNew
      · exact .inl ⟨command, old, rfl, rfl⟩
      · exact .inr ⟨handler, registered, rfl, List.mem_singleton.mp isNew⟩
  | returned handler refused => exact .inl ⟨command, member, rfl, rfl⟩
  | answer feedback =>
      rcases mem_alterFirst _ _ member with old | ⟨hit, found, left⟩
      · exact .inl ⟨command, old, rfl, rfl⟩
      · have address := (Feedback.leaves_same left).address
        refine
          .inl
            ⟨hit, List.mem_of_find?_eq_some found, address,
              nextTimeout_of_leaves ?_ left⟩
        intro closes
        exact stays ⟨feedback, hit, rfl, found, address.symm, closes⟩
  | discard test =>
      exact .inl ⟨command, List.mem_of_mem_filter member, rfl, rfl⟩
  | idle => exact .inl ⟨command, member, rfl, rfl⟩

/-! ## Runs -/

section Runs

variable (platform : Platform) (start : System)

/-- No run changes `cmd_exec_timeout`. -/
theorem cmdExecTimeout_run (events : List Event) :
    ((machine platform).after start
        events).server.config.cmdExecTimeout =
      start.server.config.cmdExecTimeout :=
  (machine platform).invariant_after
    (fun system =>
      system.server.config.cmdExecTimeout =
        start.server.config.cmdExecTimeout)
    (fun system event kept => by
      rcases step_config platform system event with ⟨groups, config⟩
      rw [machine_step, config]
      exact kept)
    rfl events

/-- The counter of commands never goes back. -/
theorem allocated_concat_le (events : List Event) (event : Event) :
    ((machine platform).after start events).server.allocated ≤
      ((machine platform).after start
        (events ++ [event])).server.allocated := by
  have counter :
      ((machine platform).after start
          (events ++ [event])).server.allocated =
        (moveAfter platform start events event).allocated
          ((machine platform).after start events).server.allocated :=
    congrArg Ledger.allocated (view_concat platform start events event)
  rw [counter, Move.allocated.eq_def]
  split
  · exact Nat.le_succ _
  · exact le_rfl

/-- The event closes the command at an address. -/
def Closes (address : Nat) (system : System) (event : Event) : Prop :=
  MoveCloses system.server.outstandingCommands address
    (moveOf platform system event)

/-- The event says that a connection is closed or deactivated. -/
def Loses (connection : Connection) (event : Event) : Prop :=
  ∃ peerAddress change,
    event = .connection connection peerAddress change ∧
      isLoss change = true

variable (before : List Event) (connection : Connection) (asdu : Asdu)
  (checkTime rcvdTime : Nat)

/-- The events up to the receipt of a command. -/
def received : List Event :=
  before ++ [.command connection asdu checkTime rcvdTime]

/-- The address the command gets when it comes in. -/
def addressOf : Nat :=
  ((machine platform).after start before).server.allocated

/-- The command is outstanding after some events. -/
def IsOutstanding (events : List Event) : Prop :=
  ∃ command ∈ ((machine platform).after start
      events).server.outstandingCommands,
    command.address = addressOf platform start before

instance (events : List Event) :
    Decidable (IsOutstanding platform start before events) :=
  inferInstanceAs (Decidable (∃ command ∈ _, _))

/--
A command came in and is still outstanding: no ACT-TERM, no negative ACT-CON
and no ACT-CON of a select command was handled for it since, and its connection
was neither closed nor deactivated.
-/
structure IsAwaited (later : List Event) : Prop where
  entered :
    IsOutstanding platform start before
      (received before connection asdu checkTime rcvdTime)
  undisturbed :
    EachStep
      (fun earlier event =>
        ¬ Closes platform (addressOf platform start before)
            ((machine platform).after start
              (received before connection asdu checkTime rcvdTime ++
                earlier))
            event ∧
          ¬ Loses connection event)
      later
  outstanding :
    IsOutstanding platform start before
      (received before connection asdu checkTime rcvdTime ++ later)

variable {start before connection asdu checkTime rcvdTime}
  (initial : Initial start)

include initial

/-- Addresses of commands that came in are below the counter. -/
theorem address_lt_allocated (events : List Event) :
    ∀ command ∈ ((machine platform).after start
        events).server.outstandingCommands,
      command.address <
        ((machine platform).after start events).server.allocated :=
  (bookkeeping_run platform start initial events).outstandingAllocated

/-- The command that has come in has its deadline, and its address is used. -/
theorem nextTimeout_received
    (entered :
      IsOutstanding platform start before
        (received before connection asdu checkTime rcvdTime)) :
    addressOf platform start before <
        ((machine platform).after start
          (received before connection asdu checkTime
            rcvdTime)).server.allocated ∧
      ∀ command ∈ ((machine platform).after start
          (received before connection asdu checkTime
            rcvdTime)).server.outstandingCommands,
        command.address = addressOf platform start before →
          command.nextTimeout =
            deadline start.server.config.cmdExecTimeout rcvdTime := by
  constructor
  · rcases entered with ⟨command, member, address⟩
    rw [← address]
    exact address_lt_allocated platform initial _ command member
  · intro command member address
    rw [received, outstanding_concat] at member
    rcases Move.mem_outstanding member with
      ⟨old, inList, same⟩ | ⟨handler, registered, enters, rfl⟩
    · have less :=
        address_lt_allocated platform initial before old inList
      rw [← same.address, address, addressOf] at less
      omega
    · rcases moveOf_enter platform enters with
        ⟨_, _, _, _, isSelect, isEvent, rfl, -⟩
      rcases Event.command.inj isEvent with ⟨rfl, rfl, rfl, rfl⟩
      have timeout := cmdExecTimeout_run platform start before
      simp [newCommand, deadline, timeout]

/-- The run lemma: the command keeps its deadline while it is not closed. -/
theorem nextTimeout_run {later : List Event}
    (entered :
      IsOutstanding platform start before
        (received before connection asdu checkTime rcvdTime))
    (stays :
      EachStep
        (fun earlier event =>
          ¬ Closes platform (addressOf platform start before)
            ((machine platform).after start
              (received before connection asdu checkTime rcvdTime ++
                earlier))
            event)
        later) :
    addressOf platform start before <
        ((machine platform).after start
          (received before connection asdu checkTime rcvdTime ++
            later)).server.allocated ∧
      ∀ command ∈ ((machine platform).after start
          (received before connection asdu checkTime rcvdTime ++
            later)).server.outstandingCommands,
        command.address = addressOf platform start before →
          command.nextTimeout =
            deadline start.server.config.cmdExecTimeout rcvdTime := by
  induction later using List.reverseRecOn with
  | nil =>
      rw [List.append_nil]
      exact nextTimeout_received platform initial entered
  | append_singleton earlier event ih =>
      rcases (eachStep_concat_iff _ _ _).mp stays with ⟨each, last⟩
      rcases ih each with ⟨used, kept⟩
      rw [← List.append_assoc]
      constructor
      · exact lt_of_lt_of_le used (allocated_concat_le platform start _ event)
      · intro command member address
        rw [outstanding_concat] at member
        rw [← address] at last
        rcases nextTimeout_of_move last member with
          ⟨old, inList, same, unchanged⟩ |
            ⟨handler, registered, enters, rfl⟩
        · rw [unchanged]
          exact kept old inList (same.symm.trans address)
        · have fits :=
            moveOf_fits platform
              ((machine platform).after start
                (received before connection asdu checkTime rcvdTime ++
                  earlier))
              event
          rw [show _ = _ from enters] at fits
          have next : handler.command.address = _ := fits.1
          rw [address] at next
          exact absurd next used.ne

/-- A scan removes an awaited command when its deadline has passed. -/
theorem removed_iff_deadline {later : List Event}
    (awaited :
      IsAwaited platform start before connection asdu checkTime rcvdTime
        later)
    (currentTime : Nat) :
    ¬ IsOutstanding platform start before
        (received before connection asdu checkTime rcvdTime ++ later ++
          [.scanTimeouts currentTime]) ↔
      deadline start.server.config.cmdExecTimeout rcvdTime <
        currentTime := by
  have kept :=
    (nextTimeout_run platform initial awaited.entered
      fun earlier event rest split =>
        (awaited.undisturbed earlier event rest split).1).2
  have scanned (command : OutstandingCommand) :
      command ∈
          ((machine platform).after start
            (received before connection asdu checkTime rcvdTime ++ later ++
              [.scanTimeouts currentTime])).server.outstandingCommands ↔
        command ∈
            ((machine platform).after start
              (received before connection asdu checkTime rcvdTime ++
                later)).server.outstandingCommands ∧
          ¬ command.nextTimeout < currentTime := by
    simp [step, hasTimedOut]
  constructor
  · intro removed
    by_contra early
    rcases awaited.outstanding with ⟨command, member, address⟩
    refine removed ⟨command, (scanned command).mpr ⟨member, ?_⟩, address⟩
    rw [kept command member address]
    exact early
  · rintro passed ⟨command, member, address⟩
    rcases (scanned command).mp member with ⟨inList, early⟩
    rw [kept command inList address] at early
    exact early passed

end Runs

/-! ## The exact deadline -/

/-- The deadline is exact: the product and the sum fit. -/
def IsTimely (cmdExecTimeout : Int) (rcvdTime : Nat) : Prop :=
  cmdExecTimeout ≤ 2147483 ∧
    rcvdTime + cmdExecTimeout * 1000 < 0x10000000000000000

instance (cmdExecTimeout : Int) (rcvdTime : Nat) :
    Decidable (IsTimely cmdExecTimeout rcvdTime) :=
  inferInstanceAs (Decidable (_ ∧ _))

/-- A sum that wraps around is before a time that its first part is not. -/
theorem mod_lt_iff_exact {modulus first second time : Nat}
    (small : second < modulus) (ordered : first ≤ time)
    (fits : time < modulus) :
    ((first + second) % modulus < time ↔ first + second < time) ↔
      first + second < modulus := by
  by_cases within : first + second < modulus
  · simp [Nat.mod_eq_of_lt within, within]
  · have wrapped :
        (first + second) % modulus = first + second - modulus := by
      rw [Nat.mod_eq_sub_mod (by omega), Nat.mod_eq_of_lt (by omega)]
    rw [wrapped]
    omega

/-- The deadline of a timeout whose product fits. -/
theorem deadline_of_fits {cmdExecTimeout : Int}
    (accepted : 0 ≤ cmdExecTimeout) (fits : cmdExecTimeout ≤ 2147483)
    (rcvdTime : Nat) :
    deadline cmdExecTimeout rcvdTime =
      (rcvdTime + (cmdExecTimeout * 1000).toNat) % 0x10000000000000000 := by
  have product :
      toInt32 (cmdExecTimeout * 1000) = cmdExecTimeout * 1000 :=
    toInt32_of_isInt32 ⟨by omega, by omega⟩
  rw [deadline, product, toUInt64]
  omega

theorem deadline_exact_iff {cmdExecTimeout : Int}
    (accepted : 0 ≤ cmdExecTimeout) (fits : cmdExecTimeout ≤ 2147483)
    {rcvdTime currentTime : Nat} (ordered : rcvdTime ≤ currentTime)
    (isTime : currentTime < 0x10000000000000000) :
    (deadline cmdExecTimeout rcvdTime < currentTime ↔
        rcvdTime + cmdExecTimeout * 1000 < currentTime) ↔
      rcvdTime + cmdExecTimeout * 1000 < 0x10000000000000000 := by
  rcases Int.eq_ofNat_of_zero_le
      (show 0 ≤ cmdExecTimeout * 1000 by omega) with
    ⟨milliseconds, product⟩
  have small : milliseconds < 0x10000000000000000 := by omega
  have wrapped := mod_lt_iff_exact small ordered isTime
  rw [deadline_of_fits accepted fits, product, Int.toNat_natCast]
  exact_mod_cast wrapped

/--
The scan at a time removes an awaited command exactly when more than
`cmd_exec_timeout` seconds have passed since its receipt, if the deadline is
exact, and as long as the product fits only then.
-/
theorem scanRemoves_exact (platform : Platform) {start : System}
    (initial : Initial start)
    (accepted : 0 ≤ start.server.config.cmdExecTimeout)
    {before later : List Event} {connection : Connection} {asdu : Asdu}
    {checkTime rcvdTime : Nat}
    (awaited :
      IsAwaited platform start before connection asdu checkTime rcvdTime
        later)
    {currentTime : Nat} (ordered : rcvdTime ≤ currentTime)
    (isTime : currentTime < 0x10000000000000000) :
    (IsTimely start.server.config.cmdExecTimeout rcvdTime →
        (¬ IsOutstanding platform start before
            (received before connection asdu checkTime rcvdTime ++ later ++
              [.scanTimeouts currentTime]) ↔
          rcvdTime + start.server.config.cmdExecTimeout * 1000 <
            currentTime)) ∧
      (start.server.config.cmdExecTimeout ≤ 2147483 →
        (¬ IsOutstanding platform start before
            (received before connection asdu checkTime rcvdTime ++ later ++
              [.scanTimeouts currentTime]) ↔
          rcvdTime + start.server.config.cmdExecTimeout * 1000 <
            currentTime) →
        IsTimely start.server.config.cmdExecTimeout rcvdTime) := by
  rw [removed_iff_deadline platform initial awaited]
  constructor
  · rintro ⟨fits, sum⟩
    exact (deadline_exact_iff accepted fits ordered isTime).mpr sum
  · intro fits exact
    exact ⟨fits, (deadline_exact_iff accepted fits ordered isTime).mp exact⟩

/-- `sampleSystem` with a given `cmd_exec_timeout`. -/
def timeoutSystem (cmdExecTimeout : Int) : System where
  server :=
    { sampleServer with
      config :=
        { sampleServer.config with cmdExecTimeout := cmdExecTimeout } }

/-- `sampleCommand` has just come in. -/
theorem isAwaited_sample {cmdExecTimeout : Int}
    (entered :
      IsOutstanding samplePlatform (timeoutSystem cmdExecTimeout) []
        (received [] 1 sampleCommand 0 1700000000000)) :
    IsAwaited samplePlatform (timeoutSystem cmdExecTimeout) [] 1
      sampleCommand 0 1700000000000 [] :=
  ⟨entered, eachStep_nil _, entered⟩

theorem scanRemoves_exact_sample :
    IsTimely 20 1700000000000 ∧
      (¬ IsOutstanding samplePlatform (timeoutSystem 20) []
          (received [] 1 sampleCommand 0 1700000000000 ++ [] ++
            [.scanTimeouts 1700000020001]) ↔
        (1700000000000 : Int) + 20 * 1000 < 1700000020001) :=
  ⟨by decide,
    (scanRemoves_exact samplePlatform
      (⟨rfl, rfl⟩ : Initial (timeoutSystem 20)) (by decide)
      (isAwaited_sample (by decide)) (by decide) (by decide)).1
      (by decide)⟩

/-- With a timeout of 2147484 seconds a command is removed at once. -/
theorem longTimeout_removedAtOnce :
    IsAwaited samplePlatform (timeoutSystem 2147484) [] 1 sampleCommand 0
        1700000000000 [] ∧
      ¬ IsOutstanding samplePlatform (timeoutSystem 2147484) []
          (received [] 1 sampleCommand 0 1700000000000 ++ [] ++
            [.scanTimeouts 1700000000000]) ∧
      ¬ (1700000000000 : Int) + 2147484 * 1000 < 1700000000000 :=
  ⟨isAwaited_sample (by decide), by decide, by decide⟩

/-- A timeout whose product does not fit has a scan that decides wrongly. -/
theorem exists_wrong_scan {cmdExecTimeout : Int}
    (isInt : IsInt32 cmdExecTimeout) (long : 2147483 < cmdExecTimeout)
    {rcvdTime : Nat} (isTime : rcvdTime < 0x8000000000000000) :
    ∃ currentTime,
      rcvdTime ≤ currentTime ∧
        currentTime < 0x10000000000000000 ∧
        ¬ (deadline cmdExecTimeout rcvdTime < currentTime ↔
          rcvdTime + cmdExecTimeout * 1000 < currentTime) := by
  have product : toInt32 (cmdExecTimeout * 1000) < 0x80000000 := toInt32_lt _
  have low : -0x80000000 ≤ toInt32 (cmdExecTimeout * 1000) :=
    Int.le_bmod (by omega)
  rcases isInt with ⟨-, high⟩
  -- the sum with the product that is computed wraps around at most once
  have sum :
      (deadline cmdExecTimeout rcvdTime : Int) =
          rcvdTime + toInt32 (cmdExecTimeout * 1000) ∨
        (deadline cmdExecTimeout rcvdTime : Int) =
          rcvdTime + toInt32 (cmdExecTimeout * 1000) +
            0x10000000000000000 := by
    unfold deadline toUInt64
    omega
  have isDeadline :
      deadline cmdExecTimeout rcvdTime < 0x10000000000000000 := by
    unfold deadline toUInt64
    omega
  by_cases early :
      deadline cmdExecTimeout rcvdTime < rcvdTime + cmdExecTimeout * 1000
  · exact
      ⟨max rcvdTime (deadline cmdExecTimeout rcvdTime + 1), by omega,
        by omega, by omega⟩
  · exact
      ⟨(rcvdTime + cmdExecTimeout * 1000 + 1).toNat, by omega, by omega,
        by omega⟩

end Iec104North.CommandDeadlines
