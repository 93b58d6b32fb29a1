import Mathlib.Data.List.Basic
import Mathlib.Data.List.Chain
import Mathlib.Tactic.TypeStar

/-!
# Packing a stream of items into groups

Items are added to a current group one after the other.  When an item does not
go in, the current group is closed and the item is added to an empty group.
The results say that no item is lost, repeated or reordered, that no empty
group is closed, and that a group is closed only for an item it refuses.
-/

namespace Iec104North.Library

variable {Group Item : Type*}

/-- The closed groups, and the group which is current at the end. -/
def pack (add : Group → Item → Option Group) (empty : Group)
    (current : Group) : List Item → List Group × Group
  | [] => ([], current)
  | item :: rest =>
      match add current item with
      | some extended => pack add empty extended rest
      | none =>
          let packed :=
            pack add empty ((add empty item).getD empty) rest
          (current :: packed.1, packed.2)

/-- All groups of a packing which are not empty, in order. -/
def packed (add : Group → Item → Option Group) (empty : Group)
    (isEmpty : Group → Bool) (items : List Item) : List Group :=
  let result := pack add empty empty items
  result.1 ++ if isEmpty result.2 then [] else [result.2]

section Invariant

variable {add : Group → Item → Option Group} {empty : Group}
  {property : Group → Prop}

/-- The invariant rule: what adding an item preserves holds of every group. -/
theorem forall_pack (start : property empty) {stream : List Item}
    (step : ∀ {group item extended},
      item ∈ stream → property group → add group item = some extended →
        property extended)
    {current : Group} (begun : property current) :
    (∀ group ∈ (pack add empty current stream).1, property group) ∧
      property (pack add empty current stream).2 := by
  induction stream generalizing current with
  | nil => exact ⟨by simp [pack], begun⟩
  | cons item rest ih =>
      have later := @ih fun member => step (List.mem_cons_of_mem item member)
      cases added : add current item with
      | some extended =>
          simp only [pack, added]
          exact later (step List.mem_cons_self begun added)
      | none =>
          have fresh : property ((add empty item).getD empty) := by
            cases first : add empty item with
            | none => exact start
            | some extended => exact step List.mem_cons_self start first
          rcases later fresh with ⟨closed, last⟩
          simp only [pack, added, List.forall_mem_cons]
          exact ⟨⟨begun, closed⟩, last⟩

theorem forall_packed (start : property empty) {stream : List Item}
    (step : ∀ {group item extended},
      item ∈ stream → property group → add group item = some extended →
        property extended)
    (isEmpty : Group → Bool) :
    ∀ group ∈ packed add empty isEmpty stream, property group := by
  rcases forall_pack start step start with ⟨closed, last⟩
  intro group member
  rw [packed] at member
  rcases List.mem_append.mp member with earlier | final
  · exact closed group earlier
  · split at final
    · simp at final
    · rcases List.mem_singleton.mp final with rfl
      exact last

end Invariant

/--
The items of a group, and what `add` does: it appends the item or refuses it,
and an empty group accepts every item of interest.
-/
structure PackingLaws (add : Group → Item → Option Group) (empty : Group)
    (items : Group → List Item) (accepted : Item → Prop) : Prop where
  items_empty : items empty = []
  items_add : ∀ {group item extended},
    add group item = some extended → items extended = items group ++ [item]
  add_empty : ∀ {item}, accepted item → (add empty item).isSome

namespace PackingLaws

variable {add : Group → Item → Option Group} {empty : Group}
  {items : Group → List Item} {accepted : Item → Prop}

/-- Whatever the groups accept, they hold items of the stream only. -/
theorem mem_of_mem_packed (laws : PackingLaws add empty items accepted)
    (isEmpty : Group → Bool) (stream : List Item) :
    ∀ group ∈ packed add empty isEmpty stream,
      ∀ item ∈ items group, item ∈ stream := by
  refine forall_packed ?_ ?_ isEmpty
  · simp [laws.items_empty]
  · intro group item extended isItem before added other member
    rw [laws.items_add added] at member
    rcases List.mem_append.mp member with earlier | last
    · exact before other earlier
    · rcases List.mem_singleton.mp last with rfl
      exact isItem

/-- The group which takes the item the current group has refused. -/
theorem restart (laws : PackingLaws add empty items accepted)
    {item : Item} (goes : accepted item) :
    items ((add empty item).getD empty) = [item] := by
  rcases Option.isSome_iff_exists.mp (laws.add_empty goes) with ⟨fresh, added⟩
  simp [added, laws.items_add added, laws.items_empty]

/-- The groups contain exactly the items, in order. -/
theorem flatMap_pack (laws : PackingLaws add empty items accepted)
    (current : Group) (stream : List Item)
    (goes : ∀ item ∈ stream, accepted item) :
    (pack add empty current stream).1.flatMap items ++
        items (pack add empty current stream).2 =
      items current ++ stream := by
  induction stream generalizing current with
  | nil => simp [pack]
  | cons item rest ih =>
      have restGoes : ∀ other ∈ rest, accepted other :=
        fun other member => goes other (by simp [member])
      cases added : add current item with
      | some extended =>
          simp only [pack, added]
          rw [ih extended restGoes, laws.items_add added]
          simp
      | none =>
          have fresh := laws.restart (goes item (by simp))
          simp only [pack, added, List.flatMap_cons, List.append_assoc]
          rw [ih _ restGoes, fresh]
          simp

/-- Every group the packing closes has an item. -/
theorem nonempty_pack (laws : PackingLaws add empty items accepted)
    (current : Group) (stream : List Item)
    (goes : ∀ item ∈ stream, accepted item)
    (started : items current ≠ [] ∨
      ∀ item ∈ stream.head?, (add current item).isSome) :
    ∀ group ∈ (pack add empty current stream).1, items group ≠ [] := by
  induction stream generalizing current with
  | nil => simp [pack]
  | cons item rest ih =>
      have restGoes : ∀ other ∈ rest, accepted other :=
        fun other member => goes other (by simp [member])
      cases added : add current item with
      | some extended =>
          have extendedItems := laws.items_add added
          simp only [pack, added]
          exact ih extended restGoes (Or.inl (by simp [extendedItems]))
      | none =>
          have currentItems : items current ≠ [] := by
            rcases started with some | first
            · exact some
            · simp [added] at first
          have fresh := laws.restart (goes item (by simp))
          simp only [pack, added, List.mem_cons]
          rintro group (rfl | member)
          · exact currentItems
          · exact ih _ restGoes (Or.inl (by simp [fresh])) group member

/--
The group after a closed one starts with an item which the closed one has
refused.
-/
theorem isChain_pack (laws : PackingLaws add empty items accepted)
    (current : Group) (stream : List Item)
    (goes : ∀ item ∈ stream, accepted item) :
    List.IsChain
        (fun closed next =>
          ∃ item, (items next).head? = some item ∧ add closed item = none)
        ((pack add empty current stream).1 ++
          [(pack add empty current stream).2]) ∧
      (items current ≠ [] →
        ((pack add empty current stream).1 ++
            [(pack add empty current stream).2]).head?.bind
          (fun group => (items group).head?) = (items current).head?) := by
  induction stream generalizing current with
  | nil => simp [pack]
  | cons item rest ih =>
      have restGoes : ∀ other ∈ rest, accepted other :=
        fun other member => goes other (by simp [member])
      cases added : add current item with
      | some extended =>
          have extendedItems := laws.items_add added
          rcases ih extended restGoes with ⟨chain, first⟩
          simp only [pack, added]
          refine ⟨chain, fun started => ?_⟩
          rw [first (by simp [extendedItems]), extendedItems]
          cases content : items current with
          | nil => exact (started content).elim
          | cons head tail => simp
      | none =>
          have fresh := laws.restart (goes item (by simp))
          rcases ih ((add empty item).getD empty) restGoes with ⟨chain, first⟩
          simp only [pack, added, List.cons_append]
          refine ⟨?_, fun _ => by simp⟩
          rw [List.isChain_cons]
          refine ⟨?_, chain⟩
          intro next isNext
          refine ⟨item, ?_, added⟩
          have firstItem := first (by simp [fresh])
          rw [Option.mem_def.mp isNext, fresh] at firstItem
          simpa using firstItem

section Packed

variable {isEmpty : Group → Bool}
  (tests : ∀ group, isEmpty group = true ↔ items group = [])

include tests

theorem flatMap_packed (laws : PackingLaws add empty items accepted)
    (stream : List Item) (goes : ∀ item ∈ stream, accepted item) :
    (packed add empty isEmpty stream).flatMap items = stream := by
  have content := laws.flatMap_pack empty stream goes
  rw [laws.items_empty, List.nil_append] at content
  unfold packed
  by_cases last : isEmpty (pack add empty empty stream).2 = true
  · have nothing := (tests _).mp last
    simpa [last, nothing] using content
  · simpa [last] using content

theorem nonempty_packed (laws : PackingLaws add empty items accepted)
    (stream : List Item) (goes : ∀ item ∈ stream, accepted item) :
    ∀ group ∈ packed add empty isEmpty stream, items group ≠ [] := by
  intro group member
  unfold packed at member
  rcases List.mem_append.mp member with closed | last
  · refine laws.nonempty_pack empty stream goes (Or.inr ?_) group closed
    intro item first
    exact laws.add_empty (goes item (List.mem_of_mem_head? first))
  · split at last
    · simp at last
    · rename_i notEmpty
      rcases List.mem_singleton.mp last with rfl
      exact fun nothing => notEmpty ((tests _).mpr nothing)

end Packed

theorem isChain_packed (laws : PackingLaws add empty items accepted)
    (isEmpty : Group → Bool) (stream : List Item)
    (goes : ∀ item ∈ stream, accepted item) :
    List.IsChain
      (fun closed next =>
        ∃ item, (items next).head? = some item ∧ add closed item = none)
      (packed add empty isEmpty stream) := by
  have chain := (laws.isChain_pack empty stream goes).1
  simp only [packed]
  split
  · simpa using chain.left_of_append
  · exact chain

end PackingLaws

end Iec104North.Library
