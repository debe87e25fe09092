import PlugNPray.Places

/-!
Threads as stacks of what they have still to do. A move takes the first item of one
stack, puts what follows from it in its place, and may start new threads.
-/
namespace PlugNPray.Stacks
open PlugNPray.Places
universe u v
variable {α : Type u}

/-- Thread `i` has done its first item: `sigue` comes next, and the threads of `lanza` start. -/
def advance (hilos : List (List α)) (i : Nat) (sigue resto : List α) (lanza : List (List α)) : List (List α) :=
  hilos.set i (sigue ++ resto) ++ lanza

theorem advance_split (pre post lanza : List (List α)) (sigue resto viejo : List α) :
    advance (pre ++ viejo :: post) pre.length sigue resto lanza = pre ++ (sigue ++ resto) :: post ++ lanza := by
  rw [advance,set_split]

/-! ## Sums over what is pending -/

section sums
variable {β : Type v} [AddCommMonoid β]

def weight (f : α → β) (pila : List α) : β := (pila.map f).sum
def total (f : α → β) (hilos : List (List α)) : β := (hilos.map (weight f)).sum

@[simp] theorem weight_nil (f : α → β) : weight f [] = 0 := rfl
@[simp] theorem weight_cons (f : α → β) (a : α) (pila : List α) : weight f (a :: pila) = f a + weight f pila := by
  simp [weight]
@[simp] theorem weight_append (f : α → β) (pila pila' : List α) :
    weight f (pila ++ pila') = weight f pila + weight f pila' := by
  simp [weight]
@[simp] theorem total_nil (f : α → β) : total f [] = 0 := rfl
@[simp] theorem total_cons (f : α → β) (pila : List α) (hilos : List (List α)) :
    total f (pila :: hilos) = weight f pila + total f hilos := by
  simp [total]
@[simp] theorem total_append (f : α → β) (hilos hilos' : List (List α)) :
    total f (hilos ++ hilos') = total f hilos + total f hilos' := by
  simp [total]

theorem weight_zero {f : α → β} {pila : List α} (none : ∀ a ∈ pila, f a = 0) : weight f pila = 0 := by
  induction pila with
  | nil => rfl
  | cons a rest ih =>
    rw [weight_cons,none a List.mem_cons_self,ih (fun b member => none b (List.mem_cons_of_mem a member)),add_zero]

theorem weight_add (f g : α → β) (pila : List α) : weight (fun a => f a + g a) pila = weight f pila + weight g pila := by
  simp [weight,List.sum_map_add]

theorem total_add (f g : α → β) (hilos : List (List α)) : total (fun a => f a + g a) hilos = total f hilos + total g hilos := by
  induction hilos with
  | nil => simp
  | cons pila rest ih =>
    rw [total_cons,total_cons,total_cons,ih,weight_add]
    abel

/-- What a move does to a sum. -/
theorem total_advance (f : α → β) {hilos : List (List α)} {i : Nat} {a : α} {resto : List α}
    (here : hilos[i]? = some (a :: resto)) (sigue : List α) (lanza : List (List α)) :
    total f (advance hilos i sigue resto lanza) + f a = total f hilos + weight f sigue + total f lanza := by
  obtain ⟨pre,post,rfl,rfl⟩ := split_of_getElem? here
  rw [advance_split]
  simp only [total_append,total_cons,weight_append,weight_cons]
  abel
end sums

theorem weight_mono {f g : α → Nat} (less : ∀ a, f a ≤ g a) (pila : List α) : weight f pila ≤ weight g pila := by
  induction pila with
  | nil => simp
  | cons a rest ih =>
    rw [weight_cons,weight_cons]
    exact Nat.add_le_add (less a) ih

theorem total_mono {f g : α → Nat} (less : ∀ a, f a ≤ g a) (hilos : List (List α)) : total f hilos ≤ total g hilos := by
  induction hilos with
  | nil => simp
  | cons pila rest ih =>
    rw [total_cons,total_cons]
    exact Nat.add_le_add (weight_mono less pila) ih

theorem total_zero {β : Type v} [AddCommMonoid β] {f : α → β} {hilos : List (List α)} (none : ∀ pila ∈ hilos, ∀ a ∈ pila, f a = 0) : total f hilos = 0 := by
  induction hilos with
  | nil => simp
  | cons pila rest ih =>
    obtain ⟨first,later⟩ := List.forall_mem_cons.mp none
    rw [total_cons,weight_zero first,ih later,add_zero]

theorem weight_le_total (f : α → Nat) {hilos : List (List α)} {pila : List α} (member : pila ∈ hilos) :
    weight f pila ≤ total f hilos := by
  obtain ⟨pre,post,rfl⟩ := List.append_of_mem member
  simp only [total_append,total_cons]
  omega

theorem item_le_total (f : α → Nat) {hilos : List (List α)} {i : Nat} {a : α} {resto : List α}
    (here : hilos[i]? = some (a :: resto)) : f a ≤ total f hilos := by
  have part := weight_le_total f (List.mem_of_getElem? here)
  rw [weight_cons] at part
  omega

/-- Two threads count twice. -/
theorem two_le_total {f : α → Nat} {hilos : List (List α)} {i j : Nat} {pila pila' : List α} (here : hilos[i]? = some pila)
    (there : hilos[j]? = some pila') (other : j ≠ i) : weight f pila + weight f pila' ≤ total f hilos := by
  obtain ⟨pre,post,rfl,rfl⟩ := split_of_getElem? here
  have elsewhere : pila' ∈ pre ∨ pila' ∈ post := by
    rcases Nat.lt_or_gt_of_ne other with before | after
    · rw [List.getElem?_append_left before] at there
      exact .inl (List.mem_of_getElem? there)
    · rw [List.getElem?_append_right after.le] at there
      obtain ⟨n,same⟩ : ∃ n, j - pre.length = n + 1 := ⟨j - pre.length - 1,by omega⟩
      rw [same,List.getElem?_cons_succ] at there
      exact .inr (List.mem_of_getElem? there)
  simp only [total_append,total_cons]
  rcases elsewhere with listed | listed
  · have part := weight_le_total f listed
    omega
  · have part := weight_le_total f listed
    omega

/-! ## The threads after a move -/

theorem mem_advance {hilos lanza : List (List α)} {i : Nat} {sigue resto pila : List α}
    (member : pila ∈ advance hilos i sigue resto lanza) : pila ∈ hilos ∨ pila = sigue ++ resto ∨ pila ∈ lanza := by
  rcases List.mem_append.mp member with kept | new
  · rcases List.mem_or_eq_of_mem_set kept with old | rfl
    · exact .inl old
    · exact .inr (.inl rfl)
  · exact .inr (.inr new)

/-- Of the threads that were there only the mover changes. -/
theorem mem_advance_other {hilos lanza : List (List α)} {i : Nat} {sigue resto pila : List α}
    (member : pila ∈ advance hilos i sigue resto lanza) :
    (∃ j, j ≠ i ∧ hilos[j]? = some pila) ∨ pila = sigue ++ resto ∨ pila ∈ lanza := by
  rcases List.mem_append.mp member with kept | new
  · obtain ⟨j,here⟩ := List.mem_iff_getElem?.mp kept
    rw [List.getElem?_set] at here
    split_ifs at here with mine inside
    · exact .inr (.inl (Option.some.inj here).symm)
    · exact .inl ⟨j,Ne.symm mine,here⟩
  · exact .inr (.inr new)

/-! ## What holds of everything pending -/

/-- Every pending item of every thread has the property. -/
def Every (p : α → Prop) (hilos : List (List α)) : Prop := ∀ pila ∈ hilos, ∀ a ∈ pila, p a

theorem every_here {p : α → Prop} {hilos : List (List α)} {i : Nat} {a : α} {resto : List α}
    (every : Every p hilos) (here : hilos[i]? = some (a :: resto)) : p a :=
  every _ (List.mem_of_getElem? here) a List.mem_cons_self

theorem every_advance {p : α → Prop} {hilos : List (List α)} {i : Nat} {a : α} {resto sigue : List α}
    {lanza : List (List α)} (every : Every p hilos) (here : hilos[i]? = some (a :: resto))
    (next : ∀ b ∈ sigue, p b) (started : Every p lanza) : Every p (advance hilos i sigue resto lanza) := by
  intro pila member b listed
  rcases mem_advance member with old | rfl | new
  · exact every pila old b listed
  · rcases List.mem_append.mp listed with first | later
    · exact next b first
    · exact every _ (List.mem_of_getElem? here) b (List.mem_cons_of_mem a later)
  · exact started pila new b listed

theorem Every.mono {p q : α → Prop} {hilos : List (List α)} (every : Every p hilos) (weaker : ∀ a, p a → q a) :
    Every q hilos :=
  fun pila member a listed => weaker a (every pila member a listed)

/-- Some pending item of some thread has the property. -/
def Pending (p : α → Prop) (hilos : List (List α)) : Prop := ∃ pila ∈ hilos, ∃ a ∈ pila, p a

theorem pending_next {p : α → Prop} {hilos : List (List α)} {i : Nat} {a : α} {resto sigue : List α} {lanza : List (List α)}
    (here : hilos[i]? = some (a :: resto)) (next : ∃ b ∈ sigue ++ resto, p b) : Pending p (advance hilos i sigue resto lanza) := by
  obtain ⟨pre,post,rfl,rfl⟩ := split_of_getElem? here
  obtain ⟨b,member,holds⟩ := next
  rw [advance_split]
  exact ⟨sigue ++ resto,by simp,b,member,holds⟩

/-- What is pending stays so, unless it was the item that is done. -/
theorem pending_advance {p : α → Prop} {hilos : List (List α)} {i : Nat} {a : α} {resto sigue : List α} {lanza : List (List α)}
    (pending : Pending p hilos) (here : hilos[i]? = some (a :: resto)) :
    p a ∨ Pending p (advance hilos i sigue resto lanza) := by
  obtain ⟨pila,member,b,listed,holds⟩ := pending
  have split := split_of_getElem? here
  obtain ⟨pre,post,rfl,rfl⟩ := split
  rw [advance_split]
  rcases List.mem_append.mp member with before | here_or_after
  · exact .inr ⟨pila,by simp [before],b,listed,holds⟩
  · rcases List.mem_cons.mp here_or_after with rfl | after
    · rcases List.mem_cons.mp listed with rfl | later
      · exact .inl holds
      · exact .inr ⟨sigue ++ resto,by simp,b,List.mem_append_right sigue later,holds⟩
    · exact .inr ⟨pila,by simp [after],b,listed,holds⟩

/-- More to do next leaves pending what was. -/
theorem pending_advance_mono {p : α → Prop} {hilos : List (List α)} {i : Nat} {a : α} {resto sigue sigue' : List α}
    {lanza : List (List α)} (here : hilos[i]? = some (a :: resto)) (more : ∀ b ∈ sigue, b ∈ sigue')
    (pending : Pending p (advance hilos i sigue resto [])) : Pending p (advance hilos i sigue' resto lanza) := by
  obtain ⟨pila,member,b,listed,holds⟩ := pending
  obtain ⟨pre,post,rfl,rfl⟩ := split_of_getElem? here
  rw [advance_split] at member ⊢
  simp only [List.append_nil,List.mem_append,List.mem_cons] at member
  rcases member with before | rfl | after
  · exact ⟨pila,by simp [before],b,listed,holds⟩
  · refine ⟨sigue' ++ resto,by simp,b,?_,holds⟩
    rcases List.mem_append.mp listed with first | later
    · exact List.mem_append_left resto (more b first)
    · exact List.mem_append_right sigue' later
  · exact ⟨pila,by simp [after],b,listed,holds⟩

/-- Where the property can be computed. -/
theorem every_of_all {p : α → Bool} {hilos : List (List α)} (all : hilos.all (fun pila => pila.all p) = true) :
    Every (fun a => p a = true) hilos :=
  fun pila member => List.all_eq_true.mp (List.all_eq_true.mp all pila member)

/-! ## What has to come next -/

/-- An item that leads is followed at once by one that goes with it. -/
def Followed (leads : α → Bool) (goes : α → α → Prop) : List α → Prop
  | [] => True
  | a :: rest => (leads a = true → ∃ b later, rest = b :: later ∧ goes a b) ∧ Followed leads goes rest

theorem followed_append {leads : α → Bool} {goes : α → α → Prop} {first second : List α} (none : ∀ a ∈ first, leads a = false)
    (followed : Followed leads goes second) : Followed leads goes (first ++ second) := by
  induction first with
  | nil => exact followed
  | cons a rest ih =>
    refine ⟨fun leading => ?_,ih (fun b member => none b (List.mem_cons_of_mem a member))⟩
    rw [none a List.mem_cons_self] at leading
    cases leading

end PlugNPray.Stacks
