import Mathlib.Data.List.Induction
import Mathlib.Tactic.TypeStar

/-!
# Event-driven machines with outputs

A machine takes one event at a time, changes its state and emits outputs.
This module gives the run of a machine over a list of events, conditions which
every step of a run meets in the state it starts from, and the invariant rule.

Conditions on steps are predicates of the events already handled and of the
next event.  The state before a step and the outputs emitted so far are
functions of the former, so a condition can mention both.
-/

namespace Iec104North.Library

/-- One event takes a state to the next one and emits a list of outputs. -/
structure Machine (State Event Output : Type*) where
  step : State → Event → State × List Output

variable {State Event Output : Type*}

namespace Machine

variable (machine : Machine State Event Output)

/-- The state after a list of events. -/
def after (state : State) (events : List Event) : State :=
  events.foldl (fun current event => (machine.step current event).1) state

/-- Everything emitted while a list of events is handled, in order. -/
def outputs (state : State) : List Event → List Output
  | [] => []
  | event :: rest =>
      (machine.step state event).2 ++
        outputs (machine.step state event).1 rest

@[simp]
theorem after_nil (state : State) : machine.after state [] = state :=
  rfl

@[simp]
theorem after_cons (state : State) (event : Event) (rest : List Event) :
    machine.after state (event :: rest) =
      machine.after (machine.step state event).1 rest :=
  rfl

@[simp]
theorem after_append (state : State) (first second : List Event) :
    machine.after state (first ++ second) =
      machine.after (machine.after state first) second := by
  simp [after]

@[simp]
theorem outputs_nil (state : State) : machine.outputs state [] = [] :=
  rfl

@[simp]
theorem outputs_cons (state : State) (event : Event) (rest : List Event) :
    machine.outputs state (event :: rest) =
      (machine.step state event).2 ++
        machine.outputs (machine.step state event).1 rest :=
  rfl

@[simp]
theorem outputs_append (state : State) (first second : List Event) :
    machine.outputs state (first ++ second) =
      machine.outputs state first ++
        machine.outputs (machine.after state first) second := by
  induction first generalizing state with
  | nil => simp
  | cons event rest induction => simp [induction]

end Machine

/-! ## Conditions along a run -/

/-- Every event of the list meets the condition after the events before it. -/
def EachStep (condition : List Event → Event → Prop)
    (events : List Event) : Prop :=
  ∀ earlier event later,
    events = earlier ++ event :: later → condition earlier event

@[simp]
theorem eachStep_nil (condition : List Event → Event → Prop) :
    EachStep condition [] := by
  intro earlier event later split
  simp at split

theorem eachStep_concat_iff (condition : List Event → Event → Prop)
    (events : List Event) (event : Event) :
    EachStep condition (events ++ [event]) ↔
      EachStep condition events ∧ condition events event := by
  constructor
  · intro each
    refine ⟨?_, each events event [] rfl⟩
    intro earlier middle later split
    exact each earlier middle (later ++ [event]) (by simp [split])
  · rintro ⟨each, last⟩ earlier middle later split
    rcases List.eq_nil_or_concat later with rfl | ⟨initial, final, rfl⟩
    · have ends : events = earlier ∧ event = middle := by
        simpa using List.append_inj' split rfl
      rcases ends with ⟨rfl, rfl⟩
      exact last
    · have ends : events = earlier ++ middle :: initial ∧ event = final := by
        have regrouped :
            events ++ [event] =
              (earlier ++ middle :: initial) ++ [final] := by
          simpa using split
        simpa using List.append_inj' regrouped rfl
      exact each earlier middle initial ends.1

theorem EachStep.prefix {condition : List Event → Event → Prop}
    {first second : List Event}
    (each : EachStep condition (first ++ second)) :
    EachStep condition first := by
  intro earlier event later split
  exact each earlier event (later ++ second) (by simp [split])

theorem eachStep_iff_getElem (condition : List Event → Event → Prop)
    (events : List Event) :
    EachStep condition events ↔
      ∀ index, ∀ within : index < events.length,
        condition (events.take index) events[index] := by
  constructor
  · intro each index within
    apply each (events.take index) events[index] (events.drop (index + 1))
    rw [← List.drop_eq_getElem_cons within, List.take_append_drop]
  · rintro each earlier event later rfl
    have here := each earlier.length (by simp)
    simpa using here

instance (condition : List Event → Event → Prop)
    [∀ earlier event, Decidable (condition earlier event)]
    (events : List Event) : Decidable (EachStep condition events) :=
  decidable_of_iff _ (eachStep_iff_getElem condition events).symm

/--
Induction along a run whose steps all meet a condition: a property of the
events handled so far holds at the start and is preserved by one more event
that meets the condition after such a run.
-/
@[elab_as_elim]
theorem EachStep.induction {condition : List Event → Event → Prop}
    {property : List Event → Prop}
    (start : property [])
    (step : ∀ events event,
      EachStep condition events → property events →
        condition events event →
        property (events ++ [event]))
    {events : List Event} (each : EachStep condition events) :
    property events := by
  induction events using List.reverseRecOn with
  | nil => exact start
  | append_singleton events event induction =>
      have parts := (eachStep_concat_iff condition events event).mp each
      exact step events event parts.1 (induction parts.1) parts.2

/--
Along a run whose steps are all well-formed, a property holds after every part
of the run exactly when every step meets a condition: it holds at the start,
and a step keeps it exactly when it meets the condition.
-/
theorem forall_prefix_iff_eachStep {property : List Event → Prop}
    {wellFormed condition : List Event → Event → Prop}
    (start : property [])
    (step : ∀ events event,
      EachStep wellFormed events → wellFormed events event →
        property events →
        (property (events ++ [event]) ↔ condition events event))
    {events : List Event} (each : EachStep wellFormed events) :
    (∀ earlier, earlier <+: events → property earlier) ↔
      EachStep condition events := by
  induction events using List.reverseRecOn with
  | nil =>
      apply iff_of_true _ (eachStep_nil _)
      intro earlier isPrefix
      rw [List.prefix_nil.mp isPrefix]
      exact start
  | append_singleton events event induction =>
      rcases (eachStep_concat_iff _ _ _).mp each with ⟨before, last⟩
      have next := step events event before last
      rw [eachStep_concat_iff, ← induction before]
      constructor
      · intro whole
        have parts : ∀ earlier, earlier <+: events → property earlier :=
          fun earlier isPrefix =>
            whole earlier (isPrefix.trans (List.prefix_append _ _))
        refine ⟨parts, ?_⟩
        exact
          (next (parts events (List.prefix_refl _))).mp
            (whole _ (List.prefix_refl _))
      · rintro ⟨parts, meets⟩ earlier isPrefix
        rcases List.prefix_concat_iff.mp isPrefix with rfl | inside
        · exact (next (parts events (List.prefix_refl _))).mpr meets
        · exact parts earlier inside

namespace Machine

variable (machine : Machine State Event Output)

/-- Some step of the run passes a test on its event and the state before it. -/
def Seen (test : State → Event → Prop) (state : State)
    (events : List Event) : Prop :=
  ∃ earlier event later,
    events = earlier ++ event :: later ∧
      test (machine.after state earlier) event

@[simp]
theorem not_seen_nil (test : State → Event → Prop) (state : State) :
    ¬ machine.Seen test state [] := by
  rintro ⟨earlier, event, later, split, -⟩
  simp at split

theorem seen_concat_iff (test : State → Event → Prop) (state : State)
    (events : List Event) (event : Event) :
    machine.Seen test state (events ++ [event]) ↔
      machine.Seen test state events ∨
        test (machine.after state events) event := by
  have never :=
    eachStep_concat_iff
      (fun earlier next => ¬ test (machine.after state earlier) next)
      events event
  have seen :
      ∀ list : List Event,
        machine.Seen test state list ↔
          ¬ EachStep
            (fun earlier next =>
              ¬ test (machine.after state earlier) next) list := by
    intro list
    simp [Seen, EachStep]
  rw [seen, seen, never, not_and_or, not_not]

/-- What is seen of the steps of a run, in order. -/
def observed {Seen : Type*} (look : State → Event → Option Seen)
    (state : State) : List Event → List Seen
  | [] => []
  | event :: rest =>
      (look state event).toList ++
        observed look (machine.step state event).1 rest

@[simp]
theorem observed_nil {Seen : Type*} (look : State → Event → Option Seen)
    (state : State) : machine.observed look state [] = [] :=
  rfl

@[simp]
theorem observed_append {Seen : Type*}
    (look : State → Event → Option Seen) (state : State)
    (first second : List Event) :
    machine.observed look state (first ++ second) =
      machine.observed look state first ++
        machine.observed look (machine.after state first) second := by
  induction first generalizing state with
  | nil => rfl
  | cons event rest ih => simp [observed, ih]

@[simp]
theorem observed_singleton {Seen : Type*}
    (look : State → Event → Option Seen) (state : State)
    (event : Event) :
    machine.observed look state [event] = (look state event).toList := by
  simp [observed]

/-- A look that does not depend on the state is a projection. -/
theorem observed_eq_filterMap {Seen : Type*} (project : Event → Option Seen)
    (state : State) (events : List Event) :
    machine.observed (fun _ => project) state events =
      events.filterMap project := by
  induction events generalizing state with
  | nil => rfl
  | cons event rest induction =>
      rw [observed, induction, List.filterMap_cons]
      cases project event <;> rfl

/-- A state property kept by every step holds after every list of events. -/
theorem invariant_after (invariant : State → Prop)
    (step : ∀ state event,
      invariant state → invariant (machine.step state event).1)
    {state : State} (initial : invariant state) (events : List Event) :
    invariant (machine.after state events) := by
  induction events generalizing state with
  | nil => exact initial
  | cons event rest induction => exact induction (step state event initial)

end Machine

end Iec104North.Library
