import Iec104North.Library.FirstMatch

/-!
# Loops with an iterator into a vector

An iterator stands at an element of its vector or behind the last one.  Erasing
the element at which it stands leaves it at the next one, so that a loop must
either erase or advance.  A loop is the function which makes one turn, as long
as there is one to make; it ends where this function gives none.

The two loops here walk over a whole vector and erase on the way, and look for
the first element that passes a test and change or erase this one.  They end,
and leave what `eraseWhile` and `alterFirst` give.
-/

namespace Iec104North.Library

/-! ## Turns of a loop -/

/-- The loop ends in a state after a number of turns. -/
inductive EndsAfter {State : Type*} (turn : State → Option State) :
    Nat → State → State → Prop where
  | ended {state : State} (noTurn : turn state = none) :
      EndsAfter turn 0 state state
  | again {turns : Nat} {state next last : State}
      (goes : turn state = some next) (ends : EndsAfter turn turns next last) :
      EndsAfter turn (turns + 1) state last

/-- A loop ends in one way only. -/
theorem EndsAfter.unique {State : Type*} {turn : State → Option State}
    {turns others : Nat} {state last other : State}
    (ends : EndsAfter turn turns state last)
    (also : EndsAfter turn others state other) :
    turns = others ∧ last = other := by
  induction ends generalizing others with
  | ended noTurn =>
      cases also with
      | ended => exact ⟨rfl, rfl⟩
      | again goes => simp [noTurn] at goes
  | again goes ends induction =>
      cases also with
      | ended noTurn => simp [noTurn] at goes
      | again alsoGoes alsoEnds =>
          rcases Option.some.inj (goes.symm.trans alsoGoes) with rfl
          rcases induction alsoEnds with ⟨rfl, rfl⟩
          exact ⟨rfl, rfl⟩

variable {α : Type*}

/-! ## Iterators -/

/-- A position in a vector, or the one behind its last element. -/
structure Iterator (α : Type*) where
  vector : List α
  position : Nat
  valid : position ≤ vector.length

namespace Iterator

/-- The iterator `begin`. -/
def begin (vector : List α) : Iterator α :=
  ⟨vector, 0, Nat.zero_le _⟩

/-- The iterator stands at an element. -/
def Inside (it : Iterator α) : Prop :=
  it.position < it.vector.length

instance (it : Iterator α) : Decidable it.Inside :=
  inferInstanceAs (Decidable (_ < _))

/-- The element at which the iterator stands. -/
def current (it : Iterator α) (inside : it.Inside) : α :=
  it.vector.get ⟨it.position, inside⟩

/-- Go to the next element. -/
def advance (it : Iterator α) (inside : it.Inside) : Iterator α :=
  ⟨it.vector, it.position + 1, inside⟩

/-- Erase the element; the iterator then stands at the next one. -/
def erase (it : Iterator α) (inside : it.Inside) : Iterator α where
  vector := it.vector.eraseIdx it.position
  position := it.position
  valid := by
    rw [List.length_eraseIdx_of_lt inside]
    exact Nat.le_sub_one_of_lt inside

/-- Change the element. -/
def assign (it : Iterator α) (value : α) : Iterator α where
  vector := it.vector.set it.position value
  position := it.position
  valid := by
    rw [List.length_set]
    exact it.valid

/-- The iterator between the elements before it and those from it on. -/
def between (visited rest : List α) : Iterator α :=
  ⟨visited ++ rest, visited.length, by simp⟩

theorem begin_eq_between (vector : List α) :
    begin vector = between [] vector :=
  rfl

theorem not_inside_between_nil (visited : List α) :
    ¬ (between visited []).Inside := by
  simp [Inside, between]

variable (visited rest : List α) (element : α)

theorem inside_between_cons : (between visited (element :: rest)).Inside := by
  simp [Inside, between]

theorem current_between
    (inside : (between visited (element :: rest)).Inside) :
    (between visited (element :: rest)).current inside = element := by
  simp [current, between]

theorem advance_between
    (inside : (between visited (element :: rest)).Inside) :
    (between visited (element :: rest)).advance inside =
      between (visited ++ [element]) rest := by
  simp [advance, between]

theorem erase_between
    (inside : (between visited (element :: rest)).Inside) :
    (between visited (element :: rest)).erase inside =
      between visited rest := by
  simp [erase, between, List.eraseIdx_append_of_length_le]

theorem assign_between (value : α) :
    (between visited (element :: rest)).assign value =
      between visited (value :: rest) := by
  simp [assign, between]

end Iterator

/-! ## Erasing while iterating -/

/-- The iterator, and the elements which were erased and deleted. -/
structure Erasing (α : Type*) where
  it : Iterator α
  deleted : List α := []

variable (test : α → Bool)

/-- Erase and delete the current element if it passes, or advance. -/
def eraseTurn (loop : Erasing α) : Option (Erasing α) :=
  if inside : loop.it.Inside then
    let current := loop.it.current inside
    if test current then
      some ⟨loop.it.erase inside, loop.deleted ++ [current]⟩
    else
      some ⟨loop.it.advance inside, loop.deleted⟩
  else
    none

theorem eraseTurn_nil (visited deleted : List α) :
    eraseTurn test ⟨.between visited [], deleted⟩ = none := by
  rw [eraseTurn, dif_neg (Iterator.not_inside_between_nil visited)]

theorem eraseTurn_cons (visited rest deleted : List α) (element : α) :
    eraseTurn test ⟨.between visited (element :: rest), deleted⟩ =
      if test element then
        some ⟨.between visited rest, deleted ++ [element]⟩
      else
        some ⟨.between (visited ++ [element]) rest, deleted⟩ := by
  rw [eraseTurn, dif_pos (Iterator.inside_between_cons visited rest element)]
  simp only [Iterator.current_between, Iterator.erase_between,
    Iterator.advance_between]

/--
The loop makes one turn for each element.  The elements that pass the test are
deleted, in order and once each, and the others stay.
-/
theorem eraseTurn_endsAfter (visited rest deleted : List α) :
    EndsAfter (eraseTurn test) rest.length
      ⟨.between visited rest, deleted⟩
      ⟨.between (eraseWhile test visited rest) [],
        deleted ++ rest.filter test⟩ := by
  induction rest generalizing visited deleted with
  | nil =>
      rw [eraseWhile, List.filter_nil, List.append_nil]
      exact .ended (eraseTurn_nil test visited deleted)
  | cons element rest induction =>
      have turn := eraseTurn_cons test visited rest deleted element
      by_cases erased : test element = true
      · rw [if_pos erased] at turn
        rw [eraseWhile, if_pos erased, List.filter_cons_of_pos erased,
          List.append_cons]
        exact .again turn (induction visited (deleted ++ [element]))
      · rw [if_neg erased] at turn
        rw [eraseWhile, if_neg erased, List.filter_cons_of_neg erased]
        exact .again turn (induction (visited ++ [element]) deleted)

/-! ## Looking for the first match -/

/-- The iterator, and the element which was found; then the loop is left. -/
structure Searching (α : Type*) where
  it : Iterator α
  found : Option α := none

variable (change : α → Option α)

/--
Change or erase the current element and leave the loop if it passes the test,
or advance.
-/
def searchTurn (loop : Searching α) : Option (Searching α) :=
  if loop.found.isSome then
    none
  else if inside : loop.it.Inside then
    let current := loop.it.current inside
    if test current then
      match change current with
      | none => some ⟨loop.it.erase inside, some current⟩
      | some value => some ⟨loop.it.assign value, some current⟩
    else
      some ⟨loop.it.advance inside, none⟩
  else
    none

theorem searchTurn_found (it : Iterator α) (element : α) :
    searchTurn test change ⟨it, some element⟩ = none :=
  rfl

theorem searchTurn_nil (visited : List α) :
    searchTurn test change ⟨.between visited [], none⟩ = none := by
  rw [searchTurn, if_neg (by simp),
    dif_neg (Iterator.not_inside_between_nil visited)]

theorem searchTurn_cons (visited rest : List α) (element : α) :
    searchTurn test change ⟨.between visited (element :: rest), none⟩ =
      if test element then
        some
          ⟨.between visited ((change element).toList ++ rest), some element⟩
      else
        some ⟨.between (visited ++ [element]) rest, none⟩ := by
  rw [searchTurn, if_neg (by simp),
    dif_pos (Iterator.inside_between_cons visited rest element)]
  simp only [Iterator.current_between, Iterator.erase_between,
    Iterator.advance_between, Iterator.assign_between]
  cases change element <;> rfl

/-- The loop visits no element twice and gives what `alterFirst` gives. -/
theorem searchTurn_endsAfter (visited rest : List α) :
    ∃ turns last,
      turns ≤ rest.length ∧
        EndsAfter (searchTurn test change) turns
          ⟨.between visited rest, none⟩ last ∧
        last.it.vector = visited ++ alterFirst test change rest ∧
        last.found = rest.find? test := by
  induction rest generalizing visited with
  | nil =>
      exact
        ⟨0, _, Nat.le_refl 0, .ended (searchTurn_nil test change visited),
          rfl, rfl⟩
  | cons element rest induction =>
      have turn := searchTurn_cons test change visited rest element
      by_cases passes : test element = true
      · rw [if_pos passes] at turn
        rw [alterFirst, if_pos passes, List.find?_cons_of_pos passes]
        exact
          ⟨1, _, by simp,
            .again turn (.ended (searchTurn_found test change _ element)),
            rfl, rfl⟩
      · rw [if_neg passes] at turn
        rw [alterFirst, if_neg passes, List.find?_cons_of_neg passes]
        rcases induction (visited ++ [element]) with
          ⟨turns, last, few, ends, vector, found⟩
        refine
          ⟨turns + 1, last, Nat.succ_le_succ few, .again turn ends, ?_,
            found⟩
        rw [vector, ← List.append_cons]

end Iec104North.Library
