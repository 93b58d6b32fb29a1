import Mathlib.Data.List.Chain
import Mathlib.Logic.Function.Basic
import Mathlib.Tactic.TypeStar

/-!
# Logs without repetitions

A log states statuses of labels.  A message which repeats the one before it is
left out, so that the log is shorter than what was to be logged; the last
statement on a label is the same in both.  Places with different labels can be
told apart in the log, and places which share a label cannot.
-/

namespace Iec104North.Library

variable {Message Status : Type*}

/-! ## The last statement -/

/-- What the log states last; `states` reads a message. -/
def lastStatement (states : Message → Option Status) (log : List Message) :
    Option Status :=
  (log.filterMap states).getLast?

section LastStatement

variable {states : Message → Option Status}

@[simp]
theorem lastStatement_nil : lastStatement states [] = none :=
  rfl

theorem lastStatement_append (first second : List Message) :
    lastStatement states (first ++ second) =
      (lastStatement states second).or (lastStatement states first) := by
  rw [lastStatement, List.filterMap_append, List.getLast?_append]
  rfl

theorem lastStatement_concat (log : List Message) (message : Message) :
    lastStatement states (log ++ [message]) =
      (states message).or (lastStatement states log) := by
  rw [lastStatement_append]
  cases stated : states message <;> simp [lastStatement, stated]

/-- Messages which state nothing do not matter. -/
theorem lastStatement_append_silent (log : List Message)
    {more : List Message} (silent : ∀ message ∈ more, states message = none) :
    lastStatement states (log ++ more) = lastStatement states log := by
  have none : more.filterMap states = [] :=
    List.filterMap_eq_nil_iff.mpr silent
  rw [lastStatement_append, lastStatement, none]
  rfl

/-- What all messages agree on is stated last. -/
theorem lastStatement_of_forall {log : List Message} {status : Status}
    (someone : ∃ message ∈ log, states message = some status)
    (all : ∀ message ∈ log, ∀ other,
      states message = some other → other = status) :
    lastStatement states log = some status := by
  rcases someone with ⟨message, member, stated⟩
  have nonempty : log.filterMap states ≠ [] :=
    List.ne_nil_of_mem (List.mem_filterMap.mpr ⟨message, member, stated⟩)
  rw [lastStatement, List.getLast?_eq_some_getLast nonempty,
    Option.some.injEq]
  rcases List.mem_filterMap.mp (List.getLast_mem nonempty) with
    ⟨last, inLog, reads⟩
  exact all last inLog _ reads

end LastStatement

/-! ## Leaving out repetitions -/

section Repetitions

variable [DecidableEq Message]

/-- A message, unless it is the remembered one. -/
def unlessSame (remembered message : Message) : List Message :=
  if message = remembered then [] else [message]

/-- Messages without those that repeat the one before. -/
def withoutRepeats (remembered : Message) : List Message → List Message
  | [] => []
  | message :: rest =>
      unlessSame remembered message ++ withoutRepeats message rest

/-- Nothing is added. -/
theorem withoutRepeats_subset (remembered : Message)
    (messages : List Message) :
    withoutRepeats remembered messages ⊆ messages := by
  induction messages generalizing remembered with
  | nil => exact List.Subset.refl _
  | cons message rest ih =>
      intro other member
      rw [withoutRepeats, unlessSame, List.mem_append] at member
      rcases member with here | later
      · split at here
        · simp at here
        · simp [List.mem_singleton.mp here]
      · exact List.mem_cons_of_mem message (ih message later)

/-- What the remembered message states was stated last. -/
def Remembers (states : Message → Option Status) (remembered : Message)
    (log : List Message) : Prop :=
  ∀ status, states remembered = some status →
    lastStatement states log = some status

variable {states : Message → Option Status} {remembered : Message}
  {log : List Message}

/-- Leaving out a repetition leaves the last statement. -/
theorem Remembers.lastStatement_unlessSame
    (remembers : Remembers states remembered log) (message : Message) :
    lastStatement states (log ++ unlessSame remembered message) =
      (states message).or (lastStatement states log) := by
  rw [unlessSame]
  split
  · rename_i same
    rw [List.append_nil, same]
    cases stated : states remembered with
    | none => rfl
    | some status => exact remembers status stated
  · exact lastStatement_concat log message

theorem Remembers.next (remembers : Remembers states remembered log)
    (message : Message) :
    Remembers states message (log ++ unlessSame remembered message) := by
  intro status stated
  rw [remembers.lastStatement_unlessSame, stated]
  rfl

omit [DecidableEq Message] in
/-- Messages which state nothing leave what is remembered. -/
theorem Remembers.append_silent (remembers : Remembers states remembered log)
    {more : List Message} (silent : ∀ message ∈ more, states message = none) :
    Remembers states remembered (log ++ more) := by
  intro status stated
  rw [lastStatement_append_silent log silent]
  exact remembers status stated

/-- The log without repetitions states the same. -/
theorem Remembers.lastStatement_withoutRepeats
    (remembers : Remembers states remembered log) (messages : List Message) :
    lastStatement states (log ++ withoutRepeats remembered messages) =
        lastStatement states (log ++ messages) ∧
      Remembers states (messages.getLastD remembered)
        (log ++ withoutRepeats remembered messages) := by
  induction messages generalizing log remembered with
  | nil => simpa [withoutRepeats] using remembers
  | cons message rest ih =>
      have later := ih (remembers.next message)
      rw [withoutRepeats, ← List.append_assoc, List.getLastD_cons]
      refine ⟨?_, later.2⟩
      rw [later.1, lastStatement_append, remembers.lastStatement_unlessSame,
        List.append_cons log message rest, lastStatement_append,
        lastStatement_concat]

/-- Neighbours in a log without repetitions differ. -/
theorem isChain_unlessSame (chain : log.IsChain (· ≠ ·))
    (last : log.getLast? = some remembered) (message : Message) :
    (log ++ unlessSame remembered message).IsChain (· ≠ ·) ∧
      (log ++ unlessSame remembered message).getLast? = some message := by
  rw [unlessSame]
  split
  · rename_i same
    rw [List.append_nil, same]
    exact ⟨chain, last⟩
  · rename_i apart
    constructor
    · apply chain.append (List.isChain_singleton message)
      intro before isLast after isFirst
      rw [last, Option.mem_some_iff] at isLast
      rw [List.head?_cons, Option.mem_some_iff] at isFirst
      rw [← isLast, ← isFirst]
      exact Ne.symm apart
    · rw [List.getLast?_concat]

end Repetitions

/-! ## Labelled places -/

section Labels

variable {Place Label : Type*}

/-- The log states the real status of each place under its label. -/
def Faithful (places : Place → Prop) (label : Place → Label)
    (real : Place → Status) (logged : Label → Option Status) : Prop :=
  ∀ place, places place → logged (label place) = some (real place)

/--
A log stays faithful when it states the new status of a place under its label,
unless the status changes and another place has the same label.
-/
theorem Faithful.update_iff [DecidableEq Place] [DecidableEq Label]
    {places : Place → Prop} {label : Place → Label} {real : Place → Status}
    {logged logged' : Label → Option Status}
    (faithful : Faithful places label real logged) {place : Place}
    (here : places place) {status : Status}
    (stated : ∀ other, places other →
      logged' (label other) =
        if label other = label place then
          some status
        else
          logged (label other)) :
    Faithful places label (Function.update real place status) logged' ↔
      real place = status ∨
        ∀ other, places other → label other = label place →
          other = place := by
  constructor
  · intro after
    by_cases same : real place = status
    · exact Or.inl same
    · right
      intro other isPlace shared
      by_contra apart
      have now := after other isPlace
      have before := faithful other isPlace
      rw [stated other isPlace, if_pos shared,
        Function.update_of_ne apart, Option.some.injEq] at now
      rw [shared, faithful place here, Option.some.injEq] at before
      exact same (before.trans now.symm)
  · rintro alone other isPlace
    rw [stated other isPlace]
    by_cases same : other = place
    · rw [same, if_pos rfl, Function.update_self]
    · rw [Function.update_of_ne same, ← faithful other isPlace]
      split
      · rename_i shared
        rcases alone with unchanged | unique
        · rw [shared, faithful place here, unchanged]
        · exact (same (unique other isPlace shared)).elim
      · rfl

end Labels

end Iec104North.Library
