import Mathlib

/-! Lists edited at a place: the element there, the part before it and the part after it. -/
namespace PlugNPray.Places
universe u v
variable {α : Type u} {β : Type v}

/-- The first element with the property, with its place. -/
def first (p : α → Bool) (l : List α) : Option (Nat × α) :=
  (l.findIdx? p).bind (fun i => (l[i]?).map (fun x => (i,x)))

theorem split_of_getElem? {l : List α} {i : Nat} {x : α} (here : l[i]? = some x) :
    ∃ pre post, l = pre ++ x :: post ∧ pre.length = i := by
  obtain ⟨inside,rfl⟩ := List.getElem?_eq_some_iff.mp here
  exact ⟨l.take i,l.drop (i + 1),by simp,by simp; omega⟩

theorem split_of_first {p : α → Bool} {l : List α} {i : Nat} {x : α} (found : first p l = some (i,x)) :
    ∃ pre post, l = pre ++ x :: post ∧ pre.length = i ∧ p x ∧ ∀ y ∈ pre, p y = false := by
  obtain ⟨k,place,got⟩ := Option.bind_eq_some_iff.mp found
  obtain ⟨y,here,same⟩ := Option.map_eq_some_iff.mp got
  cases same
  obtain ⟨inside,hit,least⟩ := List.findIdx?_eq_some_iff_getElem.mp place
  obtain ⟨pre,post,rfl,size⟩ := split_of_getElem? here
  refine ⟨pre,post,rfl,size,?_,fun y member => ?_⟩
  · simpa [← size] using hit
  · obtain ⟨j,bound,rfl⟩ := List.getElem_of_mem member
    have earlier := least j (by omega)
    simpa [List.getElem_append_left bound] using earlier

theorem first_split {p : α → Bool} {pre post : List α} {x : α} (hit : p x) (least : ∀ y ∈ pre, p y = false) :
    first p (pre ++ x :: post) = some (pre.length,x) := by
  have place : (pre ++ x :: post).findIdx? p = some pre.length := by
    refine List.findIdx?_eq_some_iff_getElem.mpr ⟨by simp,by simpa using hit,fun j earlier => ?_⟩
    rw [List.getElem_append_left earlier,least _ (List.getElem_mem _)]
    simp
  simp [first,place]

theorem first_none {p : α → Bool} {l : List α} : first p l = none ↔ ∀ x ∈ l, p x = false := by
  constructor
  · intro missed x member
    by_contra hit
    obtain ⟨pre,y,post,rfl,hit,least⟩ : ∃ pre y post, l = pre ++ y :: post ∧ p y ∧ ∀ z ∈ pre, p z = false := by
      cases place : l.find? p with
      | none => exact absurd (List.find?_eq_none.mp place x member) (by simpa using hit)
      | some y =>
        obtain ⟨yes,pre,post,split,least⟩ := List.find?_eq_some_iff_append.mp place
        exact ⟨pre,y,post,split,yes,fun z listed => by simpa using least z listed⟩
    rw [first_split hit least] at missed
    cases missed
  · intro none
    simp [first,List.findIdx?_eq_none_iff.mpr none]

@[simp] theorem modify_split (pre post : List α) (x : α) (f : α → α) :
    (pre ++ x :: post).modify pre.length f = pre ++ f x :: post := by
  rw [List.modify_eq_take_cons_drop (by simp)]
  simp
@[simp] theorem eraseIdx_split (pre post : List α) (x : α) : (pre ++ x :: post).eraseIdx pre.length = pre ++ post := by
  rw [List.eraseIdx_append_of_length_le (le_refl _)]
  simp
@[simp] theorem set_split (pre post : List α) (x y : α) : (pre ++ x :: post).set pre.length y = pre ++ y :: post := by
  rw [List.set_append_right _ _ (le_refl _)]
  simp

/-- The first with the key is taken off. -/
theorem map_eraseIdx [DecidableEq β] {f : α → β} {b : β} {l pre post : List α} {a : α} (split : l = pre ++ a :: post) (mine : f a = b)
    (others : ∀ x ∈ pre, f x ≠ b) : (l.eraseIdx pre.length).map f = (l.map f).erase b := by
  have apart : b ∉ pre.map f := by
    intro listed
    obtain ⟨x,member,same⟩ := List.mem_map.mp listed
    exact others x member same
  subst split
  rw [eraseIdx_split,List.map_append,List.map_append,List.map_cons,mine,List.erase_append_right _ apart,List.erase_cons_head]

/-! ## Records found by a key -/

variable {κ : Type v} [DecidableEq κ]

/-- The first record with the key. -/
def record (key : α → κ) (k : κ) (l : List α) : Option α := l.find? (fun x => key x = k)

theorem record_here {key : α → κ} {k : κ} {pre : List α} {x : α} (post : List α) (hit : key x = k) (least : ∀ y ∈ pre, key y ≠ k) :
    record key k (pre ++ x :: post) = some x := by
  have before : pre.find? (fun y => key y = k) = none := by simpa using least
  simp [record,List.find?_append,before,hit]
theorem record_other {key : α → κ} {k : κ} (pre post : List α) {x : α} (other : key x ≠ k) :
    record key k (pre ++ x :: post) = record key k (pre ++ post) := by
  simp [record,List.find?_append,other]
theorem record_none {key : α → κ} {k : κ} {l : List α} (none : ∀ x ∈ l, key x ≠ k) : record key k l = .none := by
  simpa [record] using none
theorem record_append {key : α → κ} {k : κ} (l : List α) {post : List α} (none : ∀ x ∈ post, key x ≠ k) :
    record key k (l ++ post) = record key k l := by
  have after : post.find? (fun y => key y = k) = .none := by simpa using none
  simp [record,List.find?_append,after]
/-- An edit of the first record with a key, that keeps the key, is seen under that key alone. -/
theorem record_modify {key : α → κ} {f : α → α} (keeps : ∀ x, key (f x) = key x) (k q : κ) (l : List α) :
    record key q (l.modify (l.findIdx (fun x => key x = k)) f) = if q = k then (record key k l).map f else record key q l := by
  unfold record
  induction l with
  | nil => simp
  | cons x l ih =>
    by_cases mine : key x = k
    · by_cases same : q = k
      · simp [List.findIdx_cons,mine,same,keeps]
      · simp [List.findIdx_cons,mine,same,Ne.symm same,keeps]
    · by_cases same : q = k
      · rw [if_pos same] at ih ⊢
        simpa [List.findIdx_cons,mine,same] using ih
      · rw [if_neg same] at ih ⊢
        by_cases other : key x = q
        · simp [List.findIdx_cons,other,same]
        · simpa [List.findIdx_cons,mine,other] using ih
theorem record_mem {key : α → κ} {k : κ} {l : List α} {x : α} (found : record key k l = some x) : x ∈ l ∧ key x = k :=
  ⟨List.mem_of_find?_eq_some found,by simpa using List.find?_some found⟩

end PlugNPray.Places
