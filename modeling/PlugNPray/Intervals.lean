import Mathlib

/-!
Half-open ranges of addresses, how often a family of ranges hits an address, and
what the hits say about the sizes.
-/
namespace PlugNPray.Intervals

/-- The addresses `base`, ..., `base + size - 1`. -/
structure Range where
  base : Nat
  size : Nat
  deriving DecidableEq, Repr

def Range.Contains (r : Range) (a : Nat) : Prop := r.base ≤ a ∧ a < r.base + r.size
instance (r : Range) (a : Nat) : Decidable (r.Contains a) := by unfold Range.Contains; infer_instance

/-- The number of ranges of the family that contain the address. -/
def hits (rs : List Range) (a : Nat) : Nat := rs.countP (fun r => decide (r.Contains a))
/-- The total size of a family. -/
def sizes (rs : List Range) : Nat := (rs.map Range.size).sum
/-- One if the address is among the `size` addresses from `base` on. -/
def one (base size a : Nat) : Nat := if base ≤ a ∧ a < base + size then 1 else 0
/-- The family covers the addresses below `n` once each and no other. -/
def Tiles (rs : List Range) (n : Nat) : Prop := ∀ a, hits rs a = one 0 n a

@[simp] theorem hits_nil (a : Nat) : hits [] a = 0 := rfl
@[simp] theorem hits_cons (r : Range) (rs : List Range) (a : Nat) :
    hits (r :: rs) a = one r.base r.size a + hits rs a := by
  by_cases inside : r.base ≤ a ∧ a < r.base + r.size
  · simp [hits,one,Range.Contains,inside]
    omega
  · simp [hits,one,Range.Contains,inside]
@[simp] theorem hits_append (rs ss : List Range) (a : Nat) : hits (rs ++ ss) a = hits rs a + hits ss a :=
  List.countP_append
@[simp] theorem sizes_nil : sizes [] = 0 := rfl
@[simp] theorem sizes_cons (r : Range) (rs : List Range) : sizes (r :: rs) = r.size + sizes rs := by
  simp [sizes]
@[simp] theorem sizes_append (rs ss : List Range) : sizes (rs ++ ss) = sizes rs + sizes ss := by
  simp [sizes]

theorem hits_perm {rs ss : List Range} (same : rs.Perm ss) (a : Nat) : hits rs a = hits ss a :=
  same.countP_eq _
theorem sizes_perm {rs ss : List Range} (same : rs.Perm ss) : sizes rs = sizes ss :=
  (same.map Range.size).sum_eq

theorem one_split (base first second a : Nat) :
    one base (first + second) a = one base first a + one (base + first) second a := by
  unfold one
  split_ifs <;> omega

/-- Counting hits address by address counts sizes range by range. -/
theorem sum_hits {rs : List Range} {n : Nat} (inside : ∀ r ∈ rs, r.base + r.size ≤ n) :
    ∑ a ∈ Finset.range n, hits rs a = sizes rs := by
  induction rs with
  | nil => simp
  | cons r rest ih =>
    have fits := inside r (by simp)
    have here : ∑ a ∈ Finset.range n, one r.base r.size a = r.size := by
      have region : (Finset.range n).filter (fun a => r.base ≤ a ∧ a < r.base + r.size) =
          Finset.Ico r.base (r.base + r.size) := by
        ext a
        simp only [Finset.mem_filter,Finset.mem_range,Finset.mem_Ico]
        omega
      simp only [one,Finset.sum_boole,region,Nat.card_Ico,Nat.cast_id]
      omega
    simp only [hits_cons,Finset.sum_add_distrib,here,sizes_cons]
    rw [ih (fun s member => inside s (by simp [member]))]

/-- Ranges that never overlap take no more room than the part of memory they lie in. -/
theorem sizes_le_of_hits {rs : List Range} {n : Nat} (inside : ∀ r ∈ rs, r.base + r.size ≤ n)
    (apart : ∀ a, hits rs a ≤ 1) : sizes rs ≤ n := by
  rw [← sum_hits inside]
  calc ∑ a ∈ Finset.range n, hits rs a ≤ ∑ _a ∈ Finset.range n, 1 :=
        Finset.sum_le_sum (fun a _ => apart a)
    _ = n := by simp

/-- The sizes of a tiling add up to the tiled part, empty ranges anywhere. -/
theorem sizes_of_tiles {rs : List Range} {n : Nat} (tiles : Tiles rs n)
    (inside : ∀ r ∈ rs, r.base + r.size ≤ n) : sizes rs = n := by
  rw [← sum_hits inside]
  calc ∑ a ∈ Finset.range n, hits rs a = ∑ _a ∈ Finset.range n, 1 := by
        refine Finset.sum_congr rfl (fun a member => ?_)
        have below := Finset.mem_range.mp member
        rw [tiles a,one,if_pos (by omega)]
    _ = n := by simp

/-- A tiling whose ranges, empty ones too, stay inside the tiled part. -/
structure Covers (rs : List Range) (n : Nat) : Prop where
  once : Tiles rs n
  inside : ∀ r ∈ rs, r.base + r.size ≤ n

theorem covers_perm {rs ss : List Range} {n : Nat} (same : rs.Perm ss) (covers : Covers rs n) : Covers ss n :=
  ⟨fun a => (hits_perm same a).symm.trans (covers.once a),fun r member => covers.inside r (same.mem_iff.mpr member)⟩

/-- Two ranges without a common address. -/
def Range.Apart (r s : Range) : Prop := r.size = 0 ∨ s.size = 0 ∨ r.base + r.size ≤ s.base ∨ s.base + s.size ≤ r.base

instance (r s : Range) : Decidable (r.Apart s) := by unfold Range.Apart; infer_instance

theorem hits_of_pairwise {rs : List Range} (apart : rs.Pairwise Range.Apart) (a : Nat) : hits rs a ≤ 1 := by
  induction rs with
  | nil => exact Nat.zero_le 1
  | cons r rest ih =>
    obtain ⟨here,later⟩ := List.pairwise_cons.mp apart
    by_cases inside : r.base ≤ a ∧ a < r.base + r.size
    · have none : hits rest a = 0 := by
        refine List.countP_eq_zero.mpr (fun s member contains => ?_)
        obtain ⟨low,high⟩ := of_decide_eq_true contains
        rcases here s member with empty | empty | below | above <;> omega
      rw [hits_cons,none,one,if_pos inside]
    · rw [hits_cons,one,if_neg inside,Nat.zero_add]
      exact ih later

/-- Two members of a family without overlaps, at different places, are apart. -/
theorem apart_of_hits {r s : Range} {rs : List Range} (apart : ∀ a, hits (r :: rs) a ≤ 1) (member : s ∈ rs)
    (filledR : 0 < r.size) (filledS : 0 < s.size) :
    r.base + r.size ≤ s.base ∨ s.base + s.size ≤ r.base := by
  by_contra overlap
  have common := apart (max r.base s.base)
  have second : 0 < hits rs (max r.base s.base) := by
    exact List.countP_pos_iff.mpr ⟨s,member,decide_eq_true ⟨by omega,by omega⟩⟩
  have first : one r.base r.size (max r.base s.base) = 1 := by
    unfold one
    rw [if_pos (by omega)]
  rw [hits_cons,first] at common
  omega

end PlugNPray.Intervals
