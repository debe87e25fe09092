import PlugNPray.Intervals

/-!
A flat memory of bytes: reading and writing ranges, and when a family of ranges
can slide towards the low end one after the other.
-/
namespace PlugNPray.FlatMemory
open PlugNPray.Intervals
universe u
variable {Byte : Type u}

/-- The bytes of a range, in address order. -/
def load (mem : Nat → Byte) (base size : Nat) : List Byte := (List.range size).map (fun k => mem (base + k))
/-- The memory with the bytes written from `base` on. -/
def store (mem : Nat → Byte) (base : Nat) (bytes : List Byte) : Nat → Byte :=
  fun a => if base ≤ a then (bytes[a - base]?).getD (mem a) else mem a

@[simp] theorem load_length (mem : Nat → Byte) (base size : Nat) : (load mem base size).length = size := by
  simp [load]
@[simp] theorem load_zero (mem : Nat → Byte) (base : Nat) : load mem base 0 = [] := rfl
@[simp] theorem store_nil (mem : Nat → Byte) (base : Nat) : store mem base [] = mem := by
  funext a
  simp [store]

theorem load_add (mem : Nat → Byte) (base first second : Nat) :
    load mem base (first + second) = load mem base first ++ load mem (base + first) second := by
  simp [load,List.range_add,Nat.add_assoc]

theorem load_congr {mem mem' : Nat → Byte} {base size : Nat}
    (same : ∀ a, base ≤ a → a < base + size → mem' a = mem a) : load mem' base size = load mem base size := by
  refine List.map_congr_left (fun k member => ?_)
  have inside := List.mem_range.mp member
  exact same (base + k) (by omega) (by omega)

theorem store_outside (mem : Nat → Byte) {base a : Nat} {bytes : List Byte}
    (outside : a < base ∨ base + bytes.length ≤ a) : store mem base bytes a = mem a := by
  unfold store
  split_ifs with above
  · rw [List.getElem?_eq_none (by omega)]
    rfl
  · rfl

theorem store_inside (mem : Nat → Byte) {base k : Nat} {bytes : List Byte} (inside : k < bytes.length) :
    store mem base bytes (base + k) = bytes[k] := by
  simp [store,List.getElem?_eq_getElem inside]

theorem store_append (mem : Nat → Byte) (base : Nat) (first second : List Byte) :
    store mem base (first ++ second) = store (store mem base first) (base + first.length) second := by
  funext a
  unfold store
  by_cases low : a < base
  · rw [if_neg (by omega),if_neg (by omega),if_neg (by omega)]
  · by_cases mid : a < base + first.length
    · rw [if_pos (by omega),if_neg (by omega),if_pos (by omega),List.getElem?_append_left (by omega)]
    · rw [if_pos (by omega),if_pos (by omega),if_pos (by omega),List.getElem?_append_right (by omega),
        List.getElem?_eq_none (l := first) (by omega)]
      simp [Nat.sub_sub]

/-- What was written is read back. -/
theorem load_store_same (mem : Nat → Byte) (base : Nat) (bytes : List Byte) :
    load (store mem base bytes) base bytes.length = bytes := by
  refine List.ext_getElem (by simp) (fun k inside _ => ?_)
  have bound : k < bytes.length := by simpa using inside
  simp only [load,List.getElem_map,List.getElem_range]
  exact store_inside mem bound

/-- A write changes no range apart from it. -/
theorem load_store_apart (mem : Nat → Byte) {base other size : Nat} {bytes : List Byte}
    (apart : other + size ≤ base ∨ base + bytes.length ≤ other) :
    load (store mem base bytes) other size = load mem other size :=
  load_congr (fun _ low high => store_outside mem (by omega))

/-- A write into one range of a family without overlaps leaves the others alone. -/
theorem load_store_other (mem : Nat → Byte) {r s : Range} {rs : List Range} {bytes : List Byte}
    (apart : ∀ a, hits (r :: rs) a ≤ 1) (member : s ∈ rs) (fills : bytes.length = r.size) :
    load (store mem r.base bytes) s.base s.size = load mem s.base s.size := by
  rcases Nat.eq_zero_or_pos s.size with empty | filledS
  · rw [empty,load_zero,load_zero]
  rcases Nat.eq_zero_or_pos r.size with empty | filledR
  · rw [List.eq_nil_of_length_eq_zero (fills.trans empty),store_nil]
  · have places := apart_of_hits apart member filledR filledS
    exact load_store_apart mem (by omega)

/-! ## Sliding ranges together -/

/-- The ranges fit below their own bases when laid out in order from `d` on. -/
def Slides : Nat → List Range → Prop
  | _, [] => True
  | d, r :: rest => (0 < r.size → d ≤ r.base) ∧ Slides (d + r.size) rest

theorem slides_member {d : Nat} {rs : List Range} (slides : Slides d rs) {r : Range} (member : r ∈ rs)
    (nonempty : 0 < r.size) : d ≤ r.base := by
  induction rs generalizing d with
  | nil => cases member
  | cons s rest ih =>
    rcases List.mem_cons.mp member with rfl | later
    · exact slides.1 nonempty
    · have := ih slides.2 later
      omega

/-- Sorted ranges that never overlap slide down without meeting one not yet moved. -/
theorem slides_of_sorted {rs : List Range} (sorted : rs.Pairwise (fun r s => r.base ≤ s.base))
    (apart : ∀ a, hits rs a ≤ 1) : Slides 0 rs := by
  have room : ∀ pre r post, rs = pre ++ r :: post → 0 < r.size → sizes pre ≤ r.base := by
    intro pre r post split nonempty
    subst split
    have ordered := (List.pairwise_append.mp sorted).2.2
    refine sizes_le_of_hits (fun s member => ?_) (fun a => ?_)
    · have low := ordered s member r (by simp)
      by_cases empty : s.size = 0
      · omega
      · have family : ∀ a, hits (r :: (pre ++ post)) a ≤ 1 := fun a => by
          have := apart a
          simp only [hits_append,hits_cons] at this ⊢
          omega
        have := apart_of_hits family (List.mem_append_left post member) nonempty (by omega)
        omega
    · have := apart a
      simp only [hits_append] at this
      omega
  have build : ∀ (post pre : List Range), rs = pre ++ post → Slides (sizes pre) post := by
    intro post
    induction post with
    | nil => intro _ _; trivial
    | cons r rest ih =>
      intro pre split
      refine ⟨room pre r rest split,?_⟩
      have next := ih (pre ++ [r]) (by simpa using split)
      simpa using next
  exact build rs [] rfl

end PlugNPray.FlatMemory
