import Iec104North.Library.VectorLoop
import Iec104North.OutstandingCommands

/-!
# The loops over the outstanding commands

The loops of the server over `m_outstandingCommands`, turn by turn.  Those that
erase while iterating end after one turn for each command and keep exactly the
commands that do not pass their test, in their order.  Those that handle
feedback end at the first command that matches and leave all others.
-/

namespace Iec104North.CommandLoops

open Iec104North.Library
open Iec104North.Server
open Iec104North.OutstandingCommands

/-! ## Loops that erase -/

section Erasing

variable (test : OutstandingCommand → Bool)
  (before after : List OutstandingCommand)

/--
The loop which erases the commands that pass a test ends, whatever the list.
It visits each command once, leaves the commands that do not pass, in their
order, and deletes the others.
-/
structure Filters : Prop where
  terminates :
    ∃ turns last, EndsAfter (eraseTurn test) turns ⟨.begin before, []⟩ last
  exact :
    ∀ turns last,
      EndsAfter (eraseTurn test) turns ⟨.begin before, []⟩ last →
        turns = before.length ∧
          last.it.vector = after ∧ last.deleted = before.filter test
  filtered : after = before.filter fun command => !test command

/-- The loop of the model is the one of the source. -/
theorem filters_eraseWhile :
    Filters test before (eraseWhile test [] before) := by
  have ends := eraseTurn_endsAfter test [] before []
  rw [← Iterator.begin_eq_between] at ends
  refine ⟨⟨_, _, ends⟩, ?_, ?_⟩
  · intro turns last also
    rcases ends.unique also with ⟨same, rfl⟩
    exact ⟨same.symm, List.append_nil _, rfl⟩
  · rw [eraseWhile_eq_append_filter, List.nil_append]

end Erasing

/-! ## Loops that look for a command -/

section Searching

variable (test : OutstandingCommand → Bool)
  (change : OutstandingCommand → Option OutstandingCommand)
  (before after : List OutstandingCommand)

/--
The loop which looks for a command that passes a test ends, whatever the list.
It visits no command twice and finds the first one that passes.  Only this one
is changed or erased: the commands before and after it stay as they are.
-/
structure AltersFirst : Prop where
  terminates :
    ∃ turns last,
      EndsAfter (searchTurn test change) turns ⟨.begin before, none⟩ last
  exact :
    ∀ turns last,
      EndsAfter (searchTurn test change) turns ⟨.begin before, none⟩ last →
        turns ≤ before.length ∧
          last.it.vector = after ∧ last.found = before.find? test
  missing : before.find? test = none → after = before
  first :
    ∀ front command back,
      before = front ++ command :: back →
      (∀ other ∈ front, test other = false) →
      test command = true →
      after = front ++ (change command).toList ++ back

theorem altersFirst_alterFirst :
    AltersFirst test change before (alterFirst test change before) := by
  rcases searchTurn_endsAfter test change [] before with
    ⟨turns, last, few, ends, vector, found⟩
  rw [← Iterator.begin_eq_between] at ends
  refine ⟨⟨_, _, ends⟩, ?_, ?_, ?_⟩
  · intro others other also
    rcases ends.unique also with ⟨rfl, rfl⟩
    exact ⟨few, vector, found⟩
  · exact alterFirst_of_find?_eq_none test change
  · rintro front command back rfl unmatched passes
    exact alterFirst_split test change unmatched passes

end Searching

/-! ## The loops of the server -/

/--
The scan for timeouts keeps the commands that have not timed out at its time,
`removeOutstandingCommands` those of other connections, and
`removeAllOutstandingCommands` none; feedback changes or removes the first
command that matches it.
-/
theorem loops_exact (server : IEC104Server) :
    (∀ currentTime,
      Filters (hasTimedOut · currentTime) server.outstandingCommands
        (scanTimeouts server currentTime).outstandingCommands) ∧
      (∀ connection,
        Filters (isSentFromConnection · connection)
          server.outstandingCommands
          (removeOutstandingCommands server
            connection).outstandingCommands) ∧
      (Filters (fun _ => true) server.outstandingCommands
          (removeAllOutstandingCommands server).outstandingCommands ∧
        (removeAllOutstandingCommands server).outstandingCommands = []) ∧
      ∀ type ca ioa isNegative,
        AltersFirst (isMatching · type ca ioa) (afterActCon isNegative)
            server.outstandingCommands
            (handleActCon server type ca ioa
              isNegative).1.outstandingCommands ∧
          AltersFirst (isMatching · type ca ioa) (fun _ => none)
            server.outstandingCommands
            (handleActTerm server type ca ioa
              isNegative).1.outstandingCommands := by
  have all :=
    filters_eraseWhile (fun _ => true) server.outstandingCommands
  refine ⟨?_, ?_, ⟨all, ?_⟩, ?_⟩
  · intro currentTime
    exact filters_eraseWhile _ server.outstandingCommands
  · intro connection
    exact filters_eraseWhile _ server.outstandingCommands
  · exact all.filtered.trans (by simp)
  · intro type ca ioa isNegative
    exact
      ⟨altersFirst_alterFirst _ _ server.outstandingCommands,
        altersFirst_alterFirst _ _ server.outstandingCommands⟩

end Iec104North.CommandLoops
