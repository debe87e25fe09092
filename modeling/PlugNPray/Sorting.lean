import Mathlib

/-! Sorting by a comparator, as far as its documentation promises. -/
namespace PlugNPray.Sorting

/-- A sort by a comparator that says whether its first argument goes before its second:
    the result has the same elements, and no element has to go before an earlier one
    when the comparator orders by a number. Nothing is promised about ties. -/
structure Sorter where
  sort : {α : Type} → (α → α → Bool) → List α → List α
  perm : ∀ {α : Type} (before : α → α → Bool) (l : List α), (sort before l).Perm l
  sorted : ∀ {α : Type} (key : α → Nat) (l : List α),
    (sort (fun a b => decide (key a < key b)) l).Pairwise (fun a b => key a ≤ key b)

/-- Insertion of an element before the first one that it goes before. -/
def insert {α : Type} (before : α → α → Bool) (x : α) : List α → List α
  | [] => [x]
  | y :: rest => if before y x then y :: insert before x rest else x :: y :: rest

theorem insert_perm {α : Type} (before : α → α → Bool) (x : α) (l : List α) : (insert before x l).Perm (x :: l) := by
  induction l with
  | nil => exact .refl _
  | cons y rest ih =>
    simp only [insert]
    split_ifs
    · exact (ih.cons y).trans (.swap x y rest)
    · exact .refl _

theorem insert_sorted {α : Type} (key : α → Nat) (x : α) {l : List α} (sorted : l.Pairwise (fun a b => key a ≤ key b)) :
    (insert (fun a b => decide (key a < key b)) x l).Pairwise (fun a b => key a ≤ key b) := by
  induction l with
  | nil => exact List.pairwise_singleton _ x
  | cons y rest ih =>
    obtain ⟨least,tail⟩ := List.pairwise_cons.mp sorted
    simp only [insert]
    split_ifs with first
    · refine List.pairwise_cons.mpr ⟨fun z member => ?_,ih tail⟩
      rcases List.mem_cons.mp ((insert_perm _ x rest).mem_iff.mp member) with rfl | old
      · exact (of_decide_eq_true first).le
      · exact least z old
    · have low : key x ≤ key y := by simpa using first
      refine List.pairwise_cons.mpr ⟨fun z member => ?_,sorted⟩
      rcases List.mem_cons.mp member with rfl | old
      · exact low
      · exact low.trans (least z old)

/-- Insertion sort keeps the promise. -/
def insertion_sorter : Sorter where
  sort before l := l.foldr (insert before) []
  perm before l := by
    induction l with
    | nil => exact .refl _
    | cons x rest ih => exact (insert_perm before x _).trans (ih.cons x)
  sorted key l := by
    induction l with
    | nil => exact .nil
    | cons x rest ih => exact insert_sorted key x ih

end PlugNPray.Sorting
