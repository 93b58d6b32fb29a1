import Iec104North.ImportProtocol

/-!
# The originators that may send commands

`filter_list` names the originator addresses that may send commands.  Each
element that the importer takes adds its address and switches the filter on;
the others are skipped, so that the filter stays off when none is taken.
-/

namespace Iec104North.OriginatorFilter

open Iec104North.Library
open Iec104North.Config
open Iec104North.ImportProtocol

/-- An element of `filter_list` is an object with an integer `orig_addr`. -/
def Lists (filter : Json) (oa : Int) : Prop :=
  (filter.member? "orig_addr").bind Json.asInt = some oa

instance (filter : Json) (oa : Int) : Decidable (Lists filter oa) :=
  inferInstanceAs (Decidable (_ = _))

/-- The importer takes the element. -/
def IsTaken (filter : Json) : Prop :=
  ∃ oa, Lists filter oa ∧ 0 ≤ oa ∧ oa ≤ 255

/-! ## The loop over the list -/

/-- One turn of the loop: the address of an element that is taken. -/
theorem importFilter_of_taken (config : IEC104Config) {filter : Json}
    {oa : Int} (lists : Lists filter oa) (low : 0 ≤ oa) (high : oa ≤ 255) :
    importFilter config filter =
      { config with
        allowedOriginators := config.allowedOriginators.insert oa oa
        filterOriginators := true } := by
  rcases Option.bind_eq_some_iff.mp lists with ⟨member, found, -⟩
  rw [Lists] at lists
  simp [importFilter, Json.isObject_of_member? found, lists, isBetween, low,
    high]

theorem importFilter_of_skipped (config : IEC104Config) {filter : Json}
    (skipped : ¬ IsTaken filter) : importFilter config filter = config := by
  rw [importFilter]
  split
  · split
    · rename_i oa lists
      rw [if_neg]
      simp only [isBetween, Bool.and_eq_true, decide_eq_true_eq]
      exact fun bounds => skipped ⟨oa, lists, bounds⟩
    · rfl
  · rfl

/-- The loop switches the filter on when it takes an element. -/
theorem filterOriginators_foldl (config : IEC104Config)
    (filters : List Json) :
    (filters.foldl importFilter config).filterOriginators = true ↔
      config.filterOriginators = true ∨
        ∃ filter ∈ filters, IsTaken filter := by
  induction filters generalizing config with
  | nil => simp
  | cons filter rest ih =>
      rw [List.foldl_cons, ih]
      simp only [List.mem_cons, exists_eq_or_imp]
      by_cases taken : IsTaken filter
      · rcases taken with ⟨oa, lists, low, high⟩
        simp [importFilter_of_taken config lists low high,
          show IsTaken filter from ⟨oa, lists, low, high⟩]
      · simp [importFilter_of_skipped config taken, taken]

/-- The loop adds no address that no element has. -/
theorem allowedOriginators_foldl (config : IEC104Config)
    (filters : List Json) {oa : Int}
    (allowed :
      oa ∈ (filters.foldl importFilter config).allowedOriginators) :
    oa ∈ config.allowedOriginators ∨
      ∃ filter ∈ filters, Lists filter oa := by
  induction filters generalizing config with
  | nil => exact .inl allowed
  | cons filter rest ih =>
      rw [List.foldl_cons] at allowed
      rcases ih (importFilter config filter) allowed with
        already | ⟨later, member, lists⟩
      · by_cases taken : IsTaken filter
        · rcases taken with ⟨address, lists, low, high⟩
          rw [importFilter_of_taken config lists low high] at already
          rcases Std.ExtTreeMap.mem_insert.mp already with same | before
          · rcases Std.LawfulEqCmp.eq_of_compare same with rfl
            exact .inr ⟨filter, by simp, lists⟩
          · exact .inl before
        · rw [importFilter_of_skipped config taken] at already
          exact .inl already
      · exact .inr ⟨later, by simp [member], lists⟩

/-! ## The application layer -/

section ApplicationLayer

variable {applicationLayer : Json} {filters : List Json}
  (isArray :
    (applicationLayer.member? "filter_list").bind Json.asArray =
      some filters)

include isArray

theorem isOriginatorAllowed_imported (config : IEC104Config) (oa : Int) :
    (importApplicationLayer config applicationLayer).isOriginatorAllowed
        oa =
      (filters.foldl importFilter config).isOriginatorAllowed oa := by
  simp [importApplicationLayer, isArray, IEC104Config.isOriginatorAllowed]

/--
Only the originators that are listed may send commands exactly when the
importer takes an element of the list.
-/
theorem onlyListed_iff_taken :
    (∀ oa,
        (importApplicationLayer {} applicationLayer).isOriginatorAllowed
            oa =
          true →
        ∃ filter ∈ filters, Lists filter oa) ↔
      ∃ filter ∈ filters, IsTaken filter := by
  simp only [isOriginatorAllowed_imported isArray]
  have switched := filterOriginators_foldl {} filters
  simp only [Bool.false_eq_true, false_or] at switched
  rw [← switched]
  constructor
  · intro only
    by_contra off
    have allowed :
        (filters.foldl importFilter {}).isOriginatorAllowed 0 = true := by
      rw [IEC104Config.isOriginatorAllowed, if_neg off]
    rcases only 0 allowed with ⟨filter, member, lists⟩
    exact off (switched.mpr ⟨filter, member, 0, lists, by omega, by omega⟩)
  · intro on oa allowed
    rw [IEC104Config.isOriginatorAllowed, if_pos on] at allowed
    have member := allowedOriginators_foldl {} filters
      (Std.ExtTreeMap.contains_iff_mem.mp allowed)
    simpa using member

end ApplicationLayer

/-- An application layer whose only filter has a given address. -/
def filterLayer (oa : Int) : Json :=
  .object
    [("filter_list", .array [.object [("orig_addr", .int oa)]])]

theorem onlyListed_iff_taken_sample :
    (∀ oa,
        (importApplicationLayer {} (filterLayer 11)).isOriginatorAllowed
            oa =
          true →
        ∃ filter ∈ [Json.object [("orig_addr", .int 11)]],
          Lists filter oa) ↔
      ∃ filter ∈ [Json.object [("orig_addr", .int 11)]], IsTaken filter :=
  @onlyListed_iff_taken (filterLayer 11) _ rfl

/-- A list with one faulty address lets every originator in. -/
theorem faultyFilter_allowsOthers :
    (importApplicationLayer {} (filterLayer 300)).isOriginatorAllowed 7 =
        true ∧
      ¬ ∃ filter ∈ [Json.object [("orig_addr", .int 300)]],
        Lists filter 7 := by
  constructor
  · decide
  · rintro ⟨filter, member, lists⟩
    rcases List.mem_singleton.mp member with rfl
    revert lists
    decide

end Iec104North.OriginatorFilter
