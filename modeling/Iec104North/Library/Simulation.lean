import Iec104North.Library.Machine

/-!
# Refinement between machines

A machine refines another one when some of its events are steps of the other
one and the rest are invisible.  The relation is given by an abstraction of the
states, a projection of the events and a view of the outputs.

The run rule carries the relation from steps to runs.  Two runs which project
to the same events are then alike for everybody who sees the abstract machine
only, whatever their invisible events do in between.

What an event is for the abstract machine may depend on the state it meets.
The concrete machine tracks the abstract one then, on what is observed of its
run; a refinement is the case where the state does not matter.

Where invisible events do leave traces in the state, which only other invisible
events can find, there is no abstraction.  A relation between the states of a
run and of the run without these events serves instead.
-/

namespace Iec104North.Library

variable {State Event Output AbstractState AbstractEvent AbstractOutput :
  Type*}

/-! ## Tracking -/

/--
Every step of the concrete machine is a step of the abstract one on what is
observed of it, or no step when nothing is.
-/
structure Tracks (concrete : Machine State Event Output)
    (abstract : Machine AbstractState AbstractEvent AbstractOutput)
    (abstraction : State → AbstractState)
    (look : State → Event → Option AbstractEvent)
    (visible : Output → Option AbstractOutput) : Prop where
  step : ∀ state event,
    let observed := (look state event).toList
    abstraction (concrete.step state event).1 =
        abstract.after (abstraction state) observed ∧
      (concrete.step state event).2.filterMap visible =
        abstract.outputs (abstraction state) observed

/-- The run rule: a run is the abstract run of what is observed of it. -/
theorem Tracks.run {concrete : Machine State Event Output}
    {abstract : Machine AbstractState AbstractEvent AbstractOutput}
    {abstraction : State → AbstractState}
    {look : State → Event → Option AbstractEvent}
    {visible : Output → Option AbstractOutput}
    (tracks : Tracks concrete abstract abstraction look visible)
    (state : State) (events : List Event) :
    let observed := concrete.observed look state events
    abstraction (concrete.after state events) =
        abstract.after (abstraction state) observed ∧
      (concrete.outputs state events).filterMap visible =
        abstract.outputs (abstraction state) observed := by
  induction events generalizing state with
  | nil => exact ⟨rfl, rfl⟩
  | cons event rest induction =>
      intro observed
      have parts :
          observed =
            (look state event).toList ++
              concrete.observed look (concrete.step state event).1 rest :=
        rfl
      rcases tracks.step state event with ⟨stepped, seen⟩
      rcases induction (concrete.step state event).1 with ⟨after, outputs⟩
      rw [Machine.after_cons, Machine.outputs_cons, List.filterMap_append,
        parts, Machine.after_append, Machine.outputs_append, after, outputs,
        stepped, seen]
      exact ⟨rfl, rfl⟩

/-! ## Refinement -/

/--
Every step of the concrete machine is a step of the abstract one on the
projected event, or invisible when the event has no projection.
-/
structure Refines (concrete : Machine State Event Output)
    (abstract : Machine AbstractState AbstractEvent AbstractOutput)
    (abstraction : State → AbstractState)
    (project : Event → Option AbstractEvent)
    (visible : Output → Option AbstractOutput) : Prop where
  shown : ∀ state event projected,
    project event = some projected →
      abstraction (concrete.step state event).1 =
          (abstract.step (abstraction state) projected).1 ∧
        (concrete.step state event).2.filterMap visible =
          (abstract.step (abstraction state) projected).2
  hidden : ∀ state event,
    project event = none →
      abstraction (concrete.step state event).1 = abstraction state ∧
        (concrete.step state event).2.filterMap visible = []

namespace Refines

variable {concrete : Machine State Event Output}
  {abstract : Machine AbstractState AbstractEvent AbstractOutput}
  {abstraction : State → AbstractState}
  {project : Event → Option AbstractEvent}
  {visible : Output → Option AbstractOutput}
  (refines : Refines concrete abstract abstraction project visible)

include refines

/-- Refinement is tracking the projected events. -/
theorem tracks :
    Tracks concrete abstract abstraction (fun _ => project) visible where
  step state event := by
    intro observed
    cases projection : project event with
    | none =>
        have nothing : observed = [] := by simp [observed, projection]
        rw [nothing]
        exact refines.hidden state event projection
    | some projected =>
        have one : observed = [projected] := by simp [observed, projection]
        rw [one, Machine.after_cons, Machine.outputs_cons, Machine.after_nil,
          Machine.outputs_nil, List.append_nil]
        exact refines.shown state event projected projection

/-- The run rule: a run is the abstract run of its projected events. -/
theorem run (state : State) (events : List Event) :
    abstraction (concrete.after state events) =
        abstract.after (abstraction state) (events.filterMap project) ∧
      (concrete.outputs state events).filterMap visible =
        abstract.outputs (abstraction state) (events.filterMap project) := by
  rw [← concrete.observed_eq_filterMap project state events]
  exact refines.tracks.run state events

theorem after (state : State) (events : List Event) :
    abstraction (concrete.after state events) =
      abstract.after (abstraction state) (events.filterMap project) :=
  (refines.run state events).1

theorem outputs (state : State) (events : List Event) :
    (concrete.outputs state events).filterMap visible =
      abstract.outputs (abstraction state) (events.filterMap project) :=
  (refines.run state events).2

/-- Runs with the same projection look the same. -/
theorem alike {first second : State}
    (sameStart : abstraction first = abstraction second)
    {events others : List Event}
    (sameEvents : events.filterMap project = others.filterMap project) :
    abstraction (concrete.after first events) =
        abstraction (concrete.after second others) ∧
      (concrete.outputs first events).filterMap visible =
        (concrete.outputs second others).filterMap visible := by
  rw [refines.after, refines.after, refines.outputs, refines.outputs,
    sameStart, sameEvents]
  exact ⟨rfl, rfl⟩

end Refines

/-! ## Runs without some of their events -/

/--
Related states stay related when both make a step with an event to keep, and
when the first one alone makes a step with any other event; what is seen of
the outputs are those of the kept events.  The steps of the first run meet a
condition.
-/
structure Unwinding (machine : Machine State Event Output)
    (alike : State → State → Prop) (condition : State → Event → Prop)
    (keep : Event → Bool) (seen : Output → Bool) : Prop where
  kept : ∀ {state other event},
    alike state other →
      condition state event →
        keep event = true →
          alike (machine.step state event).1 (machine.step other event).1 ∧
            (machine.step state event).2.filter seen =
              (machine.step other event).2
  purged : ∀ {state other event},
    alike state other →
      condition state event →
        keep event = false →
          alike (machine.step state event).1 other ∧
            (machine.step state event).2.filter seen = []

/-- The run rule: a run and the run of its kept events alone. -/
theorem Unwinding.run {machine : Machine State Event Output}
    {alike : State → State → Prop} {condition : State → Event → Prop}
    {keep : Event → Bool} {seen : Output → Bool}
    (unwinding : Unwinding machine alike condition keep seen)
    {start other : State} (sameStart : alike start other)
    {events : List Event}
    (each :
      EachStep
        (fun earlier event => condition (machine.after start earlier) event)
        events) :
    alike (machine.after start events)
        (machine.after other (events.filter keep)) ∧
      (machine.outputs start events).filter seen =
        machine.outputs other (events.filter keep) := by
  refine EachStep.induction ?_ ?_ each
  · exact ⟨sameStart, rfl⟩
  · intro earlier event _ before meets
    rcases before with ⟨same, outputs⟩
    rw [Machine.after_append, Machine.outputs_append, List.filter_append,
      List.filter_append, Machine.after_append, Machine.outputs_append,
      outputs]
    simp only [Machine.after_cons, Machine.after_nil, Machine.outputs_cons,
      Machine.outputs_nil, List.append_nil]
    cases keeps : keep event with
    | true =>
        rcases unwinding.kept same meets keeps with ⟨next, seenAs⟩
        simp [keeps, next, seenAs]
    | false =>
        rcases unwinding.purged same meets keeps with ⟨next, unseen⟩
        simp [keeps, next, unseen]

end Iec104North.Library
