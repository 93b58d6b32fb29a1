import Iec104North.Library.Machine
import Mathlib.Data.List.Chain

/-!
# Periods between starts and stops

Some calls of a list start something, some stop it, and the others do neither.
The period of a list is what has been called since the last start, if no stop
has ended it.  The results say when starts and stops alternate, and how the
period changes with one more call.
-/

namespace Iec104North.Library

variable {Call : Type*} (boundary : Call → Option Bool)

/-- One more call: a start, a stop, or a call within the period. -/
def extendPeriod (current : Option (List Call)) (call : Call) :
    Option (List Call) :=
  match boundary call with
  | some true => some []
  | some false => none
  | none => current.map (· ++ [call])

/-- The calls since the last start; `none` without one that is in force. -/
def period (calls : List Call) : Option (List Call) :=
  calls.foldl (extendPeriod boundary) none

@[simp]
theorem period_nil : period boundary ([] : List Call) = none :=
  rfl

theorem period_concat (calls : List Call) (call : Call) :
    period boundary (calls ++ [call]) =
      extendPeriod boundary (period boundary calls) call := by
  rw [period, List.foldl_append]
  rfl

/-- Starts and stops alternate, and the first of them is a start. -/
structure Alternates (calls : List Call) : Prop where
  chain : (calls.filterMap boundary).IsChain (· ≠ ·)
  first : ∀ mark ∈ (calls.filterMap boundary).head?, mark = true

/-- A period is on exactly when the last start or stop is a start. -/
theorem getLast?_boundaries_iff (calls : List Call) :
    (calls.filterMap boundary).getLast? = some true ↔
      (period boundary calls).isSome = true := by
  induction calls using List.reverseRecOn with
  | nil => simp
  | append_singleton calls call ih =>
      rw [List.filterMap_append, period_concat, extendPeriod]
      cases mark : boundary call with
      | none => simpa [mark] using ih
      | some starts => cases starts <;> simp [mark]

section Concat

variable {boundary} {calls : List Call} {call : Call}

theorem period_concat_start (starts : boundary call = some true) :
    period boundary (calls ++ [call]) = some [] := by
  simp [period_concat, extendPeriod, starts]

theorem period_concat_stop (stops : boundary call = some false) :
    period boundary (calls ++ [call]) = none := by
  simp [period_concat, extendPeriod, stops]

theorem period_concat_within (within : boundary call = none) :
    period boundary (calls ++ [call]) =
      (period boundary calls).map (· ++ [call]) := by
  simp [period_concat, extendPeriod, within]

/-- Without a period nothing was started, or a stop came last. -/
theorem getLast?_of_stopped (stopped : period boundary calls = none) :
    ∀ mark ∈ (calls.filterMap boundary).getLast?, mark = false := by
  intro mark isLast
  cases mark with
  | false => rfl
  | true =>
      have started := (getLast?_boundaries_iff boundary calls).mp isLast
      simp [stopped] at started

namespace Alternates

theorem nil : Alternates boundary ([] : List Call) where
  chain := List.isChain_nil
  first := by simp

theorem concat_within (alternates : Alternates boundary calls)
    (within : boundary call = none) :
    Alternates boundary (calls ++ [call]) := by
  have same :
      (calls ++ [call]).filterMap boundary = calls.filterMap boundary := by
    simp [within]
  constructor
  · rw [same]
    exact alternates.chain
  · rw [same]
    exact alternates.first

/-- A start is made without a period. -/
theorem concat_start (alternates : Alternates boundary calls)
    (starts : boundary call = some true)
    (stopped : period boundary calls = none) :
    Alternates boundary (calls ++ [call]) := by
  have grown :
      (calls ++ [call]).filterMap boundary =
        calls.filterMap boundary ++ [true] := by
    simp [starts]
  have last := (getLast?_boundaries_iff boundary calls).not
  constructor
  · rw [grown]
    apply alternates.chain.append (List.isChain_singleton true)
    rintro before isLast next isNext rfl
    rcases Option.some.inj isNext with rfl
    exact last.mpr (by simp [stopped]) isLast
  · rw [grown]
    intro mark isFirst
    rw [List.head?_append, Option.mem_def] at isFirst
    cases head : (calls.filterMap boundary).head? with
    | none => simpa [head] using isFirst.symm
    | some earlier =>
        apply alternates.first
        simpa [head] using isFirst

/-- A stop ends a period. -/
theorem concat_stop (alternates : Alternates boundary calls)
    (stops : boundary call = some false)
    (started : (period boundary calls).isSome = true) :
    Alternates boundary (calls ++ [call]) := by
  have grown :
      (calls ++ [call]).filterMap boundary =
        calls.filterMap boundary ++ [false] := by
    simp [stops]
  have last := (getLast?_boundaries_iff boundary calls).mpr started
  constructor
  · rw [grown]
    apply alternates.chain.append (List.isChain_singleton false)
    rintro before isLast next isNext rfl
    rcases Option.some.inj isNext with rfl
    rw [last] at isLast
    simp at isLast
  · rw [grown]
    intro mark isFirst
    rw [List.head?_append_of_ne_nil _
      (fun empty => by simp [empty] at last)] at isFirst
    exact alternates.first mark isFirst

end Alternates

end Concat

end Iec104North.Library
