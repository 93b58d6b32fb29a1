import Mathlib.Data.List.Basic
import Mathlib.Data.List.Perm.Subperm
import Mathlib.Tactic.TypeStar

/-!
# First match and erasing while iterating

Two loops over a vector which change it on the way.

`alterFirst` stops at the first element that satisfies a test and replaces it,
or erases it.  `eraseWhile` walks over the whole vector and erases every
element that satisfies the test; its first argument is the part the iterator
has left behind, so that the vector is always that part followed by the rest.
-/

namespace Iec104North.Library

variable {α β : Type*}

/--
Replace the first element which satisfies `test` by what `change` makes of it;
`none` erases it.
-/
def alterFirst (test : α → Bool) (change : α → Option α) :
    List α → List α
  | [] => []
  | head :: rest =>
      if test head then
        (change head).toList ++ rest
      else
        head :: alterFirst test change rest

/-- Erase every element which satisfies `test`, keeping the iterator valid. -/
def eraseWhile (test : α → Bool) (visited : List α) : List α → List α
  | [] => visited
  | current :: rest =>
      if test current then
        eraseWhile test visited rest
      else
        eraseWhile test (visited ++ [current]) rest

theorem eraseWhile_eq_append_filter (test : α → Bool)
    (visited remaining : List α) :
    eraseWhile test visited remaining =
      visited ++ remaining.filter (fun element => !test element) := by
  induction remaining generalizing visited with
  | nil => simp [eraseWhile]
  | cons current rest induction =>
      by_cases erased : test current = true
      · simp [eraseWhile, erased, induction]
      · simp [eraseWhile, erased, induction]

variable (test : α → Bool) (change : α → Option α)

theorem alterFirst_eq_self {elements : List α}
    (missing : ∀ element ∈ elements, test element = false) :
    alterFirst test change elements = elements := by
  induction elements with
  | nil => rfl
  | cons head rest induction =>
      have headMissing : test head = false := missing head (by simp)
      have restMissing : ∀ element ∈ rest, test element = false :=
        fun element member => missing element (by simp [member])
      simp [alterFirst, headMissing, induction restMissing]

/-- The list around the first match is kept as it is. -/
theorem alterFirst_split {before after : List α} {hit : α}
    (missing : ∀ element ∈ before, test element = false)
    (matching : test hit = true) :
    alterFirst test change (before ++ hit :: after) =
      before ++ (change hit).toList ++ after := by
  induction before with
  | nil => simp [alterFirst, matching]
  | cons head rest induction =>
      have headMissing : test head = false := missing head (by simp)
      have restMissing : ∀ element ∈ rest, test element = false :=
        fun element member => missing element (by simp [member])
      simpa [alterFirst, headMissing] using induction restMissing

/-- The position of the first match. -/
theorem find?_split {elements : List α} {hit : α}
    (found : elements.find? test = some hit) :
    ∃ before after,
      elements = before ++ hit :: after ∧
        (∀ element ∈ before, test element = false) ∧
        test hit = true := by
  rw [List.find?_eq_some_iff_append] at found
  rcases found with ⟨matching, before, after, split, missing⟩
  exact ⟨before, after, split, by simpa using missing, matching⟩

theorem alterFirst_of_find?_eq_none {elements : List α}
    (missing : elements.find? test = none) :
    alterFirst test change elements = elements :=
  alterFirst_eq_self test change (by simpa using missing)

theorem mem_alterFirst {elements : List α} {element : α}
    (member : element ∈ alterFirst test change elements) :
    element ∈ elements ∨
      ∃ hit, elements.find? test = some hit ∧
        change hit = some element := by
  cases found : elements.find? test with
  | none =>
      rw [alterFirst_of_find?_eq_none test change found] at member
      exact Or.inl member
  | some hit =>
      rcases find?_split test found with
        ⟨before, after, split, missing, matching⟩
      rw [split, alterFirst_split test change missing matching] at member
      rcases List.mem_append.mp member with inFront | inAfter
      · rcases List.mem_append.mp inFront with inBefore | changed
        · exact Or.inl (by simp [split, inBefore])
        · exact Or.inr ⟨hit, rfl, by simpa using changed⟩
      · exact Or.inl (by simp [split, inAfter])

/--
When labels are not repeated and the change keeps them, an element of the new
list is the replacement of the match or has another label than the match.
-/
theorem mem_alterFirst_of_nodup (label : α → β) {elements : List α}
    {hit element : α} (nodup : (elements.map label).Nodup)
    (found : elements.find? test = some hit)
    (member : element ∈ alterFirst test change elements) :
    (element ∈ elements ∧ label element ≠ label hit) ∨
      change hit = some element := by
  rcases find?_split test found with ⟨before, after, split, missing, matching⟩
  rw [split, alterFirst_split test change missing matching] at member
  rw [split, List.map_append, List.map_cons, List.nodup_append,
    List.nodup_cons] at nodup
  rcases nodup with ⟨-, ⟨notAfter, -⟩, apart⟩
  rcases List.mem_append.mp member with inFront | inAfter
  · rcases List.mem_append.mp inFront with inBefore | changed
    · refine Or.inl ⟨by simp [split, inBefore], ?_⟩
      exact apart (label element) (List.mem_map_of_mem inBefore)
        (label hit) (by simp)
    · exact Or.inr (by simpa using changed)
  · refine Or.inl ⟨by simp [split, inAfter], ?_⟩
    intro same
    exact notAfter (same ▸ List.mem_map_of_mem inAfter)

/-- Erasing the only element with a label leaves none with this label. -/
theorem ne_of_mem_eraseP [BEq β] [LawfulBEq β] (label : α → β)
    {elements : List α} {hit element : α}
    (nodup : (elements.map label).Nodup) (isHit : hit ∈ elements)
    (member :
      element ∈ elements.eraseP fun other => label other == label hit) :
    label element ≠ label hit := by
  obtain ⟨erased, before, after, -, same, split, rest⟩ :=
    @List.exists_of_eraseP α (fun other => label other == label hit)
      elements hit isHit (by simp)
  have equal : label erased = label hit := by simpa using same
  rw [rest] at member
  rw [split, List.map_append, List.map_cons, List.nodup_append,
    List.nodup_cons] at nodup
  rcases nodup with ⟨-, ⟨notAfter, -⟩, apart⟩
  rw [← equal]
  rcases List.mem_append.mp member with inBefore | inAfter
  · exact apart (label element) (List.mem_map_of_mem inBefore)
      (label erased) (by simp)
  · intro same
    exact notAfter (same ▸ List.mem_map_of_mem inAfter)

/-- A label kept by the change is kept by the list, up to an erased element. -/
theorem map_alterFirst_sublist (label : α → β) {elements : List α}
    (kept : ∀ element changed,
      change element = some changed → label changed = label element) :
    ((alterFirst test change elements).map label).Sublist
      (elements.map label) := by
  induction elements with
  | nil => simp [alterFirst]
  | cons head rest induction =>
      by_cases matching : test head = true
      · cases changed : change head with
        | none => simp [alterFirst, matching, changed]
        | some value =>
            simp [alterFirst, matching, changed, kept head value changed]
      · simpa [alterFirst, matching] using induction

/-- A label kept by an update is kept by the list. -/
theorem map_alterFirst_update (label : α → β) {update : α → α}
    (kept : ∀ element, label (update element) = label element)
    (elements : List α) :
    (alterFirst test (fun element => some (update element))
        elements).map label =
      elements.map label := by
  induction elements with
  | nil => rfl
  | cons head rest induction =>
      by_cases matching : test head = true
      · simp [alterFirst, matching, kept]
      · simpa [alterFirst, matching] using induction

/--
Restricted to a property which the match and its replacement both have, the
loop is the same loop on the restricted list.
-/
theorem filter_alterFirst_of_within (keep : α → Bool) {elements : List α}
    (within : ∀ element, test element = true → keep element = true)
    (stays : ∀ element changed,
      test element = true → change element = some changed →
        keep changed = true) :
    (alterFirst test change elements).filter keep =
      alterFirst test change (elements.filter keep) := by
  induction elements with
  | nil => rfl
  | cons head rest induction =>
      by_cases matching : test head = true
      · have kept : keep head = true := within head matching
        cases changed : change head with
        | none => simp [alterFirst, matching, changed, kept]
        | some value =>
            have valueKept := stays head value matching changed
            simp [alterFirst, matching, changed, kept, valueKept]
      · by_cases kept : keep head = true
        · simp [alterFirst, matching, kept, induction]
        · simp [alterFirst, matching, kept, induction]

/-- Restricted to a property which both lack, the loop changes nothing. -/
theorem filter_alterFirst_of_outside (keep : α → Bool) {elements : List α}
    (outside : ∀ element, test element = true → keep element = false)
    (stays : ∀ element changed,
      test element = true → change element = some changed →
        keep changed = false) :
    (alterFirst test change elements).filter keep =
      elements.filter keep := by
  induction elements with
  | nil => rfl
  | cons head rest induction =>
      by_cases matching : test head = true
      · have dropped : keep head = false := outside head matching
        cases changed : change head with
        | none => simp [alterFirst, matching, changed, dropped]
        | some value =>
            have valueDropped := stays head value matching changed
            simp [alterFirst, matching, changed, dropped, valueDropped]
      · by_cases kept : keep head = true
        · simp [alterFirst, matching, kept, induction]
        · simp [alterFirst, matching, kept, induction]

/-- Erasing the first match, restricted to a property. -/
theorem filter_eraseP_of_find? (keep : α → Bool) {elements : List α}
    {hit : α}
    (found : elements.find? test = some hit) :
    (elements.eraseP test).filter keep =
      if keep hit then (elements.filter keep).eraseP test
      else elements.filter keep := by
  rcases find?_split test found with
    ⟨before, after, rfl, missing, matching⟩
  have notBefore : ∀ element ∈ before, ¬ test element = true :=
    fun element member => by simp [missing element member]
  have notKept : ∀ element ∈ before.filter keep, ¬ test element = true :=
    fun element member => notBefore element (List.mem_of_mem_filter member)
  rw [List.eraseP_append_right _ notBefore,
    List.eraseP_cons_of_pos matching, List.filter_append, List.filter_append]
  by_cases kept : keep hit = true
  · rw [if_pos kept, List.filter_cons_of_pos kept,
      List.eraseP_append_right _ notKept, List.eraseP_cons_of_pos matching]
  · rw [if_neg kept, List.filter_cons_of_neg kept]

end Iec104North.Library
