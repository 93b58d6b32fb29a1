import Mathlib.Data.List.Nodup
import Mathlib.Data.List.Perm.Basic
import Mathlib.Logic.Function.Basic
import Mathlib.Tactic.ByContra

/-!
# Places held by clients

A partial function says which client holds which place.  A client holds at most
one place, and only a place it is allowed at.  Giving a place to a client which
holds none, and taking a place back from its client, keep this.  When fewer
clients are around than there are places for them, some place is free.
-/

namespace Iec104North.Library

variable {Place Client : Type*}

/-- No client holds two places, and every client is allowed at its place. -/
structure Holding (allowed : Client → Place → Prop)
    (holder : Place → Option Client) : Prop where
  unique : ∀ {place other client},
    holder place = some client → holder other = some client → place = other
  allowed : ∀ {place client},
    holder place = some client → allowed client place

/-- The client holds the place, or the place is free and it holds none. -/
def MayHold (holder : Place → Option Client) (client : Client)
    (place : Place) : Prop :=
  holder place = some client ∨
    (holder place = none ∧ ∀ other, holder other ≠ some client)

namespace Holding

variable {allowed allowed' : Client → Place → Prop}
  {holder : Place → Option Client} {client : Client} {place : Place}

/-- A client which may hold a place holds no other one. -/
theorem eq_of_mayHold (holding : Holding allowed holder)
    (may : MayHold holder client place) {other : Place}
    (held : holder other = some client) : other = place := by
  rcases may with holds | ⟨-, none⟩
  · exact holding.unique held holds
  · exact (none other held).elim

/-- The place is given to its client, or taken back. -/
theorem update [DecidableEq Place] (holding : Holding allowed holder)
    (may : MayHold holder client place) {entry : Option Client}
    (own : ∀ next, entry = some next → next = client)
    (fits : ∀ next, entry = some next → allowed' next place)
    (others : ∀ other at', other ≠ client →
      allowed other at' → allowed' other at') :
    Holding allowed' (Function.update holder place entry) := by
  have apart :
      ∀ {other : Place} {next : Client},
        other ≠ place → holder other = some next → next ≠ client := by
    rintro other next elsewhere held rfl
    exact elsewhere (holding.eq_of_mayHold may held)
  constructor
  · intro first second next atFirst atSecond
    by_cases isFirst : first = place
    · by_cases isSecond : second = place
      · rw [isFirst, isSecond]
      · rw [isFirst, Function.update_self] at atFirst
        rw [Function.update_of_ne isSecond] at atSecond
        exact (apart isSecond atSecond (own next atFirst)).elim
    · rw [Function.update_of_ne isFirst] at atFirst
      by_cases isSecond : second = place
      · rw [isSecond, Function.update_self] at atSecond
        exact (apart isFirst atFirst (own next atSecond)).elim
      · rw [Function.update_of_ne isSecond] at atSecond
        exact holding.unique atFirst atSecond
  · intro other next held
    by_cases same : other = place
    · rw [same, Function.update_self] at held
      rw [same]
      exact fits next held
    · rw [Function.update_of_ne same] at held
      exact others next other (apart same held) (holding.allowed held)

/-- All keep their places, except for the client when it leaves. -/
theorem kept [DecidableEq Place] (may : MayHold holder client place)
    {entry : Option Client} {other : Place} {next : Client}
    (held : holder other = some next)
    (stays : next = client → entry = some client) :
    Function.update holder place entry other = some next := by
  by_cases same : other = place
  · rw [same, Function.update_self]
    rw [same] at held
    rcases may with holds | ⟨free, -⟩
    · have isClient : next = client := Option.some.inj (held.symm.trans holds)
      rw [stays isClient, isClient]
    · rw [free] at held
      simp at held
  · rw [Function.update_of_ne same, held]

/-- A client without a place may come and go. -/
theorem absent (holding : Holding allowed holder)
    (none : ∀ other, holder other ≠ some client)
    (others : ∀ other at', other ≠ client →
      allowed other at' → allowed' other at') :
    Holding allowed' holder where
  unique := holding.unique
  allowed := by
    intro other next held
    refine others next other ?_ (holding.allowed held)
    rintro rfl
    exact none other held

/--
Some place is free when all that hold one of the places are in a list of
clients shorter than the list of places.
-/
theorem exists_free (holding : Holding allowed holder)
    {places : List Place} (distinct : places.Nodup)
    {clients : List Client}
    (inside : ∀ place ∈ places, ∀ client,
      holder place = some client → client ∈ clients)
    (few : clients.length < places.length) :
    ∃ place ∈ places, holder place = none := by
  by_contra taken
  have held :
      ∀ place ∈ places, ∃ client ∈ clients, holder place = some client := by
    intro place member
    cases holds : holder place with
    | none => exact (taken ⟨place, member, holds⟩).elim
    | some client => exact ⟨client, inside place member client holds, rfl⟩
  have nodup : (places.map holder).Nodup := by
    apply List.Nodup.map_on _ distinct
    intro first isFirst second isSecond same
    rcases held first isFirst with ⟨client, -, holds⟩
    exact holding.unique holds (same ▸ holds)
  have subset : places.map holder ⊆ clients.map some := by
    intro entry member
    rcases List.mem_map.mp member with ⟨place, inPlaces, rfl⟩
    rcases held place inPlaces with ⟨client, inClients, holds⟩
    rw [holds]
    exact List.mem_map_of_mem inClients
  have length := (List.subperm_of_subset nodup subset).length_le
  rw [List.length_map, List.length_map] at length
  omega

end Holding

end Iec104North.Library
