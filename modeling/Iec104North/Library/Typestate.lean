import Iec104North.Library.Machine

/-!
# Protocols on calls

A protocol says which calls a resource permits in each of its states and what
state a call leads to.  A list of calls obeys the protocol when each of them is
permitted in the state the calls before it have led to.

The run rule: when the calls of every step take the resources of a machine from
where they are before the step to where they are after it, so do the calls of a
whole run.
-/

namespace Iec104North.Library

/-- Which calls a resource permits, and the state they lead to. -/
structure Protocol (Resource Call : Type*) where
  permit : Resource → Call → Option Resource

namespace Protocol

variable {Resource Call : Type*} (protocol : Protocol Resource Call)

/-- The state after some calls, if every one of them is permitted. -/
def run (resource : Resource) (calls : List Call) : Option Resource :=
  calls.foldlM protocol.permit resource

@[simp]
theorem run_nil (resource : Resource) :
    protocol.run resource [] = some resource :=
  rfl

@[simp]
theorem run_cons (resource : Resource) (call : Call) (rest : List Call) :
    protocol.run resource (call :: rest) =
      (protocol.permit resource call).bind fun next =>
        protocol.run next rest :=
  List.foldlM_cons

theorem run_append (resource : Resource) (first second : List Call) :
    protocol.run resource (first ++ second) =
      (protocol.run resource first).bind fun next =>
        protocol.run next second :=
  List.foldlM_append

/-- Two lists of calls which are permitted one after the other. -/
theorem run_append_of_eq {resource between : Resource}
    {first second : List Call}
    (permitted : protocol.run resource first = some between) :
    protocol.run resource (first ++ second) =
      protocol.run between second := by
  rw [run_append, permitted, Option.bind_some]

/-- Calls which are permitted and leave the state as it is. -/
theorem run_eq_self {resource : Resource} {calls : List Call}
    (neutral :
      ∀ call ∈ calls, protocol.permit resource call = some resource) :
    protocol.run resource calls = some resource := by
  induction calls with
  | nil => rfl
  | cons call rest induction =>
      rw [run_cons, neutral call List.mem_cons_self, Option.bind_some]
      exact
        induction fun other member =>
          neutral other (List.mem_cons_of_mem call member)

variable {State Event : Type*}

/-- The run rule for machines whose outputs are calls. -/
theorem run_outputs {machine : Machine State Event Call}
    {resources : State → Resource} {condition : List Event → Event → Prop}
    {invariant : List Event → State → Prop} {start : State}
    (initial : invariant [] start)
    (step : ∀ events event,
      condition events event →
        invariant events (machine.after start events) →
          let stepped := machine.step (machine.after start events) event
          invariant (events ++ [event]) stepped.1 ∧
            protocol.run (resources (machine.after start events))
                stepped.2 =
              some (resources stepped.1))
    {events : List Event} (each : EachStep condition events) :
    invariant events (machine.after start events) ∧
      protocol.run (resources start) (machine.outputs start events) =
        some (resources (machine.after start events)) := by
  refine EachStep.induction ?_ ?_ each
  · exact ⟨initial, rfl⟩
  · intro events event _ before meets
    rcases before with ⟨kept, permitted⟩
    rcases step events event meets kept with ⟨next, calls⟩
    rw [Machine.after_append, Machine.outputs_append,
      protocol.run_append_of_eq permitted, Machine.outputs_cons,
      Machine.outputs_nil, List.append_nil]
    exact ⟨next, calls⟩

end Protocol

end Iec104North.Library
