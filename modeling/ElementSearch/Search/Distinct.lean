/-!
# Distinct items

The items of a list without repetitions, each in the place where it occurs first.
-/

namespace ElementSearch

/-- The items of a list in the order of their first occurrences. -/
def distinct {α : Type} [DecidableEq α] (items : List α) : List α :=
  items.eraseDups

/-- Dropping repetitions drops no item altogether. -/
theorem mem_distinct {α : Type} [DecidableEq α] {items : List α} {item : α} :
    item ∈ distinct items ↔ item ∈ items :=
  List.mem_eraseDups

/-- The first occurrence of an item is kept and its later ones are dropped. -/
theorem distinct_cons {α : Type} [DecidableEq α] (item : α) (rest : List α) :
    distinct (item :: rest) = item :: distinct (rest.filter (· ≠ item)) := by
  rw [distinct, List.eraseDups_cons, distinct]
  congr 3
  funext other
  by_cases same : other = item <;> simp [same]

/-- No item is left twice. -/
theorem nodup_distinct {α : Type} [DecidableEq α] (items : List α) : (distinct items).Nodup := by
  match items with
  | [] => exact .nil
  | item :: rest =>
    rw [distinct_cons, List.nodup_cons, mem_distinct]
    exact ⟨by simp, nodup_distinct _⟩
termination_by items.length
decreasing_by
  exact Nat.lt_succ_of_le (List.length_filter_le _ rest)

/-- A list without repetitions is left as it is. -/
theorem distinct_eq_self {α : Type} [DecidableEq α] {items : List α} (nodup : items.Nodup) :
    distinct items = items := by
  induction items with
  | nil => rfl
  | cons item rest ih =>
    obtain ⟨fresh, nodupRest⟩ := List.nodup_cons.mp nodup
    have all : rest.filter (· ≠ item) = rest :=
      List.filter_eq_self.mpr fun other member => decide_eq_true fun same => fresh (same ▸ member)
    rw [distinct_cons, all, ih nodupRest]

end ElementSearch
