import Iec104North.Library.Machine

/-!
# Calls under a lock

Threads call the operations of a shared object.  A call takes the lock, goes
through the object in turns and gives the lock back.  Other threads ask for the
lock in between and do not get it; but what the object is in the middle of a
call is neither what it was before nor what it will be afterwards.

A call is atomic when one moment of it, from the lock to the unlock, can be
taken for the whole call: up to there the object is seen as it was before, and
from there on as the call leaves it.  Any interleaving of threads is then a run
of whole calls, in the order in which they got the lock.
-/

namespace Iec104North.Library

variable {Thread Object Call Inside Output : Type*}

/-! ## Turns and threads -/

/-- What a turn comes to; `leaves` gives the lock back. -/
inductive Turn (Object Inside Output : Type*) where
  | goes (object : Object) (inside : Inside) (outputs : List Output)
  | leaves
  | undefined

/-- The turns of the calls of an object. -/
structure Turns (Object Call Inside Output : Type*) where
  enter : Call → Inside
  turn : Object → Inside → Turn Object Inside Output

/--
An object and its lock, with the thread that holds it and where this thread
stands inside its call.
-/
structure Locked (Thread Object Inside : Type*) where
  object : Object
  holder : Option (Thread × Inside) := none
  isBroken : Bool := false

/--
A step of a thread: it asks for the lock to make a call, and once more when it
did not get it, or it makes a turn of its call.
-/
inductive LockEvent (Thread Call : Type*) where
  | lock (thread : Thread) (call : Call)
  | turn (thread : Thread)
deriving DecidableEq, Repr

/-- The event is a turn of a thread. -/
def LockEvent.isTurnOf [DecidableEq Thread] (thread : Thread) :
    LockEvent Thread Call → Bool
  | .lock _ _ => false
  | .turn other => decide (other = thread)

/-- The threads as a machine; only the holder of the lock makes a turn. -/
def Turns.machine [DecidableEq Thread]
    (turns : Turns Object Call Inside Output) :
    Machine (Locked Thread Object Inside) (LockEvent Thread Call) Output where
  step locked event :=
    match event, locked.holder with
    | .lock thread call, none =>
        ({ locked with holder := some (thread, turns.enter call) }, [])
    | .lock _ _, some _ => (locked, [])
    | .turn _, none => (locked, [])
    | .turn thread, some (holder, inside) =>
        if thread = holder then
          match turns.turn locked.object inside with
          | .goes object next outputs =>
              ({ locked with
                  object := object, holder := some (holder, next) },
                outputs)
          | .leaves => ({ locked with holder := none }, [])
          | .undefined => ({ locked with isBroken := true }, [])
        else
          (locked, [])

/-- The call a step makes: a thread gets the lock if it is free. -/
def callMade (locked : Locked Thread Object Inside) :
    LockEvent Thread Call → Option Call
  | .lock _ call => if locked.holder.isNone then some call else none
  | .turn _ => none

/-- The calls that have got the lock, in order. -/
def Turns.callsMade [DecidableEq Thread]
    (turns : Turns Object Call Inside Output)
    (locked : Locked Thread Object Inside)
    (events : List (LockEvent Thread Call)) : List Call :=
  turns.machine.observed callMade locked events

/-! ## Atomic calls -/

/--
A step for those who see whole calls only: nothing happens, or the call that is
ahead takes effect.
-/
inductive Passes (whole : Machine Object Call Output) :
    Object → Option Call → Object → Option Call → List Output → Prop
  | silent (object : Object) (ahead : Option Call) :
      Passes whole object ahead object ahead []
  | effective (object : Object) (call : Call) :
      Passes whole object (some call) (whole.step object call).1 none
        (whole.step object call).2

/--
Calls are atomic: `seen` is the object for those who see whole calls only,
`ahead` the call as long as it has not taken effect, `valid` what holds inside
a call, and `remaining` bounds the turns to come.
-/
structure Atomic (turns : Turns Object Call Inside Output)
    (whole : Machine Object Call Output)
    (seen : Object → Inside → Object) (ahead : Inside → Option Call)
    (valid : Object → Inside → Prop) (remaining : Object → Inside → Nat) :
    Prop where
  enters : ∀ object call,
    valid object (turns.enter call) ∧
      Passes whole object (some call) (seen object (turns.enter call))
        (ahead (turns.enter call)) []
  goes : ∀ {object inside next other outputs},
    valid object inside →
      turns.turn object inside = .goes next other outputs →
        valid next other ∧
          remaining next other < remaining object inside ∧
          Passes whole (seen object inside) (ahead inside)
            (seen next other) (ahead other) outputs
  leaves : ∀ {object inside},
    valid object inside →
      turns.turn object inside = .leaves →
        Passes whole (seen object inside) (ahead inside) object none []
  defined : ∀ {object inside},
    valid object inside → turns.turn object inside ≠ .undefined

/-! ## Runs -/

/-- The whole calls so far, apart from the one that is ahead. -/
def Reached (whole : Machine Object Call Output) (start : Object)
    (calls : List Call) (seen : Object) (ahead : Option Call)
    (outputs : List Output) : Prop :=
  ∃ earlier,
    calls = earlier ++ ahead.toList ∧
      seen = whole.after start earlier ∧
      outputs = whole.outputs start earlier

theorem Reached.passes {whole : Machine Object Call Output}
    {start seen next : Object} {calls : List Call}
    {ahead other : Option Call} {outputs more : List Output}
    (reached : Reached whole start calls seen ahead outputs)
    (passes : Passes whole seen ahead next other more) :
    Reached whole start calls next other (outputs ++ more) := by
  rcases reached with ⟨earlier, split, rfl, rfl⟩
  cases passes with
  | silent => exact ⟨earlier, split, rfl, List.append_nil _⟩
  | effective call =>
      refine ⟨earlier ++ [call], ?_, ?_, ?_⟩
      · simpa using split
      · simp
      · simp

/-- A thread gets the lock for a call, which then is the one ahead. -/
theorem Reached.ask {whole : Machine Object Call Output}
    {start seen : Object} {calls : List Call} {outputs : List Output}
    (reached : Reached whole start calls seen none outputs) (call : Call) :
    Reached whole start (calls ++ [call]) seen (some call) outputs := by
  rcases reached with ⟨earlier, split, after, emitted⟩
  refine ⟨earlier, ?_, after, emitted⟩
  rw [split]
  simp

namespace Locked

variable (locked : Locked Thread Object Inside)

/-- The object for those who see whole calls only. -/
def seenBy (seen : Object → Inside → Object) : Object :=
  match locked.holder with
  | none => locked.object
  | some (_, inside) => seen locked.object inside

/-- The call which has got the lock and has not taken effect. -/
def callAhead (ahead : Inside → Option Call) : Option Call :=
  locked.holder.bind fun holder => ahead holder.2

end Locked

/-- What holds of a lock after some calls. -/
structure Serial (whole : Machine Object Call Output)
    (seen : Object → Inside → Object) (ahead : Inside → Option Call)
    (valid : Object → Inside → Prop) (start : Object) (calls : List Call)
    (outputs : List Output) (locked : Locked Thread Object Inside) :
    Prop where
  intact : locked.isBroken = false
  inside : ∀ thread inside,
    locked.holder = some (thread, inside) → valid locked.object inside
  reached :
    Reached whole start calls (locked.seenBy seen) (locked.callAhead ahead)
      outputs

namespace Atomic

variable [DecidableEq Thread] {turns : Turns Object Call Inside Output}
  {whole : Machine Object Call Output} {seen : Object → Inside → Object}
  {ahead : Inside → Option Call} {valid : Object → Inside → Prop}
  {remaining : Object → Inside → Nat}
  (atomic : Atomic turns whole seen ahead valid remaining)

include atomic

/-- The step lemma. -/
theorem serial_step {start : Object} {calls : List Call}
    {outputs : List Output} {locked : Locked Thread Object Inside}
    (serial : Serial whole seen ahead valid start calls outputs locked)
    (event : LockEvent Thread Call) :
    Serial whole seen ahead valid start
      (calls ++ (callMade locked event).toList)
      (outputs ++ (turns.machine.step locked event).2)
      (turns.machine.step locked event).1 := by
  rcases locked with ⟨object, holder, isBroken⟩
  rcases serial with ⟨rfl, isValid, reached⟩
  cases holder with
  | none =>
      cases event with
      | lock thread call =>
          rcases atomic.enters object call with ⟨validInside, passes⟩
          refine ⟨rfl, ?_, (reached.ask call).passes passes⟩
          intro holder inside isHolder
          rcases Option.some.inj isHolder with ⟨rfl, rfl⟩
          exact validInside
      | turn thread =>
          refine ⟨rfl, isValid, ?_⟩
          simpa [callMade, Turns.machine] using reached
  | some holder =>
      rcases holder with ⟨holder, inside⟩
      have here : valid object inside := isValid holder inside rfl
      cases event with
      | lock thread call =>
          refine ⟨rfl, isValid, ?_⟩
          simpa [callMade, Turns.machine] using reached
      | turn thread =>
          have noCall :
              calls ++
                  (callMade
                    (⟨object, some (holder, inside), false⟩ :
                      Locked Thread Object Inside)
                    (.turn thread : LockEvent Thread Call)).toList =
                calls :=
            List.append_nil calls
          rw [noCall]
          by_cases mine : thread = holder
          · cases turned : turns.turn object inside with
            | goes next other more =>
                rcases atomic.goes here turned with
                  ⟨validNext, -, passes⟩
                simp only [Turns.machine, if_pos mine, turned]
                refine ⟨rfl, ?_, reached.passes passes⟩
                intro _ _ isHolder
                rcases Option.some.inj isHolder with ⟨rfl, rfl⟩
                exact validNext
            | leaves =>
                simp only [Turns.machine, if_pos mine, turned]
                refine
                  ⟨rfl, ?_, reached.passes (atomic.leaves here turned)⟩
                intro _ _ isHolder
                simp at isHolder
            | undefined => exact absurd turned (atomic.defined here)
          · simp only [Turns.machine, if_neg mine]
            refine ⟨rfl, isValid, ?_⟩
            rw [List.append_nil]
            exact reached

/-- The run lemma, from a free lock. -/
theorem serial_run (start : Object)
    (events : List (LockEvent Thread Call)) :
    let free : Locked Thread Object Inside := { object := start }
    Serial whole seen ahead valid start (turns.callsMade free events)
      (turns.machine.outputs free events)
      (turns.machine.after free events) := by
  intro free
  induction events using List.reverseRecOn with
  | nil =>
      refine ⟨rfl, ?_, [], rfl, rfl, rfl⟩
      intro thread inside isHolder
      simp [free] at isHolder
  | append_singleton events event induction =>
      have stepped := atomic.serial_step induction event
      simpa [Turns.callsMade] using stepped

/--
Whenever the lock is free, the object and all outputs are those of the whole
calls that got the lock, in the order in which they got it.
-/
theorem free_run (start : Object) (events : List (LockEvent Thread Call)) :
    let free : Locked Thread Object Inside := { object := start }
    let locked := turns.machine.after free events
    let calls := turns.callsMade free events
    locked.holder = none →
      locked.object = whole.after start calls ∧
        turns.machine.outputs free events = whole.outputs start calls := by
  intro free locked calls isFree
  rcases (atomic.serial_run start events).reached with
    ⟨earlier, split, after, emitted⟩
  have noneAhead : locked.callAhead ahead = none := by
    simp [Locked.callAhead, isFree]
  have whole : locked.seenBy seen = locked.object := by
    simp [Locked.seenBy, isFree]
  have all : calls = earlier := by
    rw [show calls = _ from split, noneAhead]
    exact List.append_nil earlier
  rw [all, ← whole]
  exact ⟨after, emitted⟩

/-- A turn of the holder gives the lock back or leaves fewer to come. -/
theorem turn_cases {locked : Locked Thread Object Inside} {thread : Thread}
    {inside : Inside} (isHolder : locked.holder = some (thread, inside))
    (isValid : valid locked.object inside) :
    let next := (turns.machine.step locked (.turn thread : LockEvent _ Call)).1
    next.holder = none ∨
      ∃ other,
        next.holder = some (thread, other) ∧
          valid next.object other ∧
          remaining next.object other < remaining locked.object inside := by
  rcases locked with ⟨object, holder, isBroken⟩
  rcases isHolder with rfl
  cases turned : turns.turn object inside with
  | goes changed other outputs =>
      rcases atomic.goes isValid turned with ⟨validNext, fewer, -⟩
      simp only [Turns.machine, turned, if_true]
      exact Or.inr ⟨other, rfl, validNext, fewer⟩
  | leaves =>
      simp only [Turns.machine, turned, if_true]
      exact Or.inl trivial
  | undefined => exact absurd turned (atomic.defined isValid)

/--
The holder of the lock gives it back within the turns that remain, whatever the
other threads do between its turns.
-/
theorem released {locked : Locked Thread Object Inside} {thread : Thread}
    {inside : Inside} (isHolder : locked.holder = some (thread, inside))
    (isValid : valid locked.object inside)
    (events : List (LockEvent Thread Call))
    (enough :
      remaining locked.object inside <
        events.countP (LockEvent.isTurnOf thread)) :
    ∃ earlier,
      earlier <+: events ∧
        (turns.machine.after locked earlier).holder = none := by
  induction events generalizing locked inside with
  | nil => simp at enough
  | cons event rest induction =>
      -- a step of another thread changes nothing
      have skip :
          LockEvent.isTurnOf thread event = false →
            (turns.machine.step locked event).1 = locked := by
        intro notMine
        rcases locked with ⟨object, holder, isBroken⟩
        rcases isHolder with rfl
        cases event with
        | lock other call => rfl
        | turn other =>
            have apart : other ≠ thread := of_decide_eq_false notMine
            simp only [Turns.machine, if_neg apart]
      cases mine : LockEvent.isTurnOf thread event with
      | false =>
          rw [List.countP_cons_of_neg (by simp [mine])] at enough
          rcases induction isHolder isValid enough with
            ⟨earlier, isPrefix, free⟩
          refine
            ⟨event :: earlier, (List.prefix_cons_inj event).mpr isPrefix, ?_⟩
          rw [Machine.after_cons, skip mine]
          exact free
      | true =>
          rw [List.countP_cons_of_pos mine] at enough
          cases event with
          | lock other call => simp [LockEvent.isTurnOf] at mine
          | turn other =>
              rcases of_decide_eq_true mine with rfl
              rcases atomic.turn_cases isHolder isValid with
                free | ⟨next, stays, validNext, fewer⟩
              · exact
                  ⟨[.turn other],
                    (List.prefix_cons_inj _).mpr List.nil_prefix, free⟩
              · have enoughLater :=
                  Nat.lt_of_lt_of_le fewer (Nat.le_of_lt_succ enough)
                rcases induction stays validNext enoughLater with
                  ⟨earlier, isPrefix, free⟩
                exact
                  ⟨.turn other :: earlier,
                    (List.prefix_cons_inj _).mpr isPrefix, free⟩

end Atomic

end Iec104North.Library
