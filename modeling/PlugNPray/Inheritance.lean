import Mathlib

/-!
Priority inheritance over any owners and waiters: the priority of a process is exact
when it is the least of its own and of those that wait for something it has. What
keeps priorities exact when a waiter comes, something changes hands, or one priority
is set.
-/
namespace PlugNPray.Inheritance
universe u v w
variable {ι : Type u} {P : Type v} {α : Type w} [LinearOrder α]

structure Net (ι : Type u) (P : Type v) where
  owner : ι → Option P
  waits : ι → P → Prop

/-- `q` waits for something that `p` has. -/
def Net.Waiter (N : Net ι P) (p q : P) : Prop := ∃ i, N.owner i = some p ∧ N.waits i q

/-- The priorities that count for a process. -/
def claims (N : Net ι P) (base prio : P → α) (p : P) : Set α := insert (base p) (prio '' {q | N.Waiter p q})

def Exact (N : Net ι P) (base prio : P → α) (p : P) : Prop := IsLeast (claims N base prio p) (prio p)

variable {N N' : Net ι P} {base prio prio' : P → α} {p q d : P} {v : α}

theorem Exact.le_base (exact : Exact N base prio p) : prio p ≤ base p := exact.2 (Set.mem_insert _ _)

theorem Exact.le_waiter (exact : Exact N base prio p) (waits : N.Waiter p q) : prio p ≤ prio q :=
  exact.2 (Set.mem_insert_of_mem _ ⟨q,waits,rfl⟩)

theorem exact_of (least : ∀ q, N.Waiter p q → prio p ≤ prio q) (low : prio p ≤ base p)
    (attained : prio p = base p ∨ ∃ q, N.Waiter p q ∧ prio q = prio p) : Exact N base prio p := by
  refine ⟨?_,?_⟩
  · rcases attained with own | ⟨q,waits,same⟩
    · exact own ▸ Set.mem_insert _ _
    · exact Set.mem_insert_of_mem _ ⟨q,waits,same⟩
  · rintro x (rfl | ⟨q,waits,rfl⟩)
    · exact low
    · exact least q waits

theorem Exact.attained (exact : Exact N base prio p) : prio p = base p ∨ ∃ q, N.Waiter p q ∧ prio q = prio p := by
  rcases exact.1 with own | ⟨q,waits,same⟩
  · exact .inl own
  · exact .inr ⟨q,waits,same⟩

/-- The same waiters with the same priorities. -/
theorem Exact.congr (exact : Exact N base prio p) (waiters : ∀ q, N'.Waiter p q ↔ N.Waiter p q) (own : prio' p = prio p)
    (same : ∀ q, N.Waiter p q → prio' q = prio q) : Exact N' base prio' p := by
  refine exact_of (fun q waits => ?_) (own ▸ exact.le_base) ?_
  · have old := (waiters q).mp waits
    rw [own,same q old]
    exact exact.le_waiter old
  · rw [own]
    exact exact.attained.imp_right (fun ⟨q,waits,eq⟩ => ⟨q,(waiters q).mpr waits,(same q waits).trans eq⟩)

/-- New waiters that are not more urgent change nothing. -/
theorem Exact.gain_le (exact : Exact N base prio p) {new : P → Prop} (waiters : ∀ q, N'.Waiter p q ↔ N.Waiter p q ∨ new q)
    (low : ∀ q, new q → prio p ≤ prio q) : Exact N' base prio p := by
  refine exact_of (fun q waits => ?_) exact.le_base ?_
  · exact ((waiters q).mp waits).elim exact.le_waiter (low q)
  · exact exact.attained.imp_right (fun ⟨q,waits,eq⟩ => ⟨q,(waiters q).mpr (.inl waits),eq⟩)

variable [DecidableEq P]

/-- More urgent new waiters pass the least of their priorities on. -/
theorem Exact.gain_lt (exact : Exact N base prio p) {new : P → Prop} (waiters : ∀ q, N'.Waiter p q ↔ N.Waiter p q ∨ new q)
    (least : IsLeast (prio '' {q | new q}) v) (low : v < prio p) : Exact N' base (Function.update prio p v) p := by
  refine exact_of (fun q waits => ?_) ?_ ?_
  · rw [Function.update_self]
    by_cases same : q = p
    · rw [same,Function.update_self]
    · rw [Function.update_of_ne same]
      rcases (waiters q).mp waits with old | added
      · exact low.le.trans (exact.le_waiter old)
      · exact least.2 ⟨q,added,rfl⟩
  · rw [Function.update_self]
    exact low.le.trans exact.le_base
  · obtain ⟨q,added,rfl⟩ := least.1
    have other : q ≠ p := by
      rintro rfl
      exact lt_irrefl _ low
    exact .inr ⟨q,(waiters q).mpr (.inr added),by rw [Function.update_of_ne other,Function.update_self]⟩

/-- A priority that is recomputed is exact, where nobody waits for itself. -/
theorem exact_recomputed (least : IsLeast (claims N base prio p) v) (apart : ¬ N.Waiter p p) :
    Exact N base (Function.update prio p v) p := by
  have other : ∀ q, N.Waiter p q → q ≠ p := by
    rintro q waits rfl
    exact apart waits
  refine exact_of (fun q waits => ?_) ?_ ?_
  · rw [Function.update_self,Function.update_of_ne (other q waits)]
    exact least.2 (Set.mem_insert_of_mem _ ⟨q,waits,rfl⟩)
  · rw [Function.update_self]
    exact least.2 (Set.mem_insert _ _)
  · rw [Function.update_self]
    rcases least.1 with own | ⟨q,waits,same⟩
    · exact .inl own
    · exact .inr ⟨q,waits,(Function.update_of_ne (other q waits) v prio).trans same⟩

/-- Who does not have what `d` waits for does not see its priority. -/
theorem Exact.away (exact : Exact N base prio p) (other : p ≠ d) (far : ¬ N.Waiter p d) : Exact N base (Function.update prio d v) p :=
  exact.congr (fun _ => .rfl) (Function.update_of_ne other v prio)
    (fun q waits => Function.update_of_ne (by rintro rfl; exact far waits) v prio)

/-- Who has what `d` waits for stays exact when `d` becomes more urgent exactly if it is at least as urgent itself. -/
theorem Exact.chain (exact : Exact N base prio p) (other : p ≠ d) (low : v < prio d) (waits : N.Waiter p d) :
    Exact N base (Function.update prio d v) p ↔ prio p ≤ v := by
  have own : Function.update prio d v p = prio p := Function.update_of_ne other v prio
  constructor
  · intro still
    have least := still.le_waiter waits
    rwa [own,Function.update_self] at least
  · intro urgent
    refine exact_of (fun q waits => ?_) (own ▸ exact.le_base) ?_
    · by_cases same : q = d
      · rwa [own,same,Function.update_self]
      · rw [own,Function.update_of_ne same]
        exact exact.le_waiter waits
    · rw [own]
      refine exact.attained.imp_right (fun ⟨q,held,eq⟩ => ⟨q,held,?_⟩)
      have same : q ≠ d := by
        rintro rfl
        exact absurd (eq ▸ urgent) (not_le_of_gt low)
      rw [Function.update_of_ne same,eq]

end PlugNPray.Inheritance
