import Mathlib.Logic.Basic

/-!
Loops without a bound: a turn stops with a result, or goes on from another state. A function
that counts its turns computes what the loop ends with, if a measure falls at every turn.
-/
namespace PlugNPray.Loops
universe u v
variable {State : Type u} {Result : Type v}

/-- The loop that starts in the state ends with the result. -/
inductive Ends (turn : State → Result ⊕ State) : State → Result → Prop
  | stops {s : State} {r : Result} (last : turn s = .inl r) : Ends turn s r
  | goes_on {s t : State} {r : Result} (moved : turn s = .inr t) (later : Ends turn t r) : Ends turn s r

/-- What a loop that counts its turns computes, as long as there are no fewer than the measure. -/
theorem ends_of_counted {turn : State → Result ⊕ State} {counted : Nat → State → Result} {inv : State → Prop} {rest : State → Nat}
    (last : ∀ s, rest s = 0 → turn s = .inl (counted 0 s))
    (next : ∀ n s, counted (n + 1) s = (turn s).elim id (counted n))
    (falls : ∀ s t, inv s → turn s = .inr t → inv t ∧ rest t < rest s) :
    ∀ n s, inv s → rest s ≤ n → Ends turn s (counted n s) := by
  intro n
  induction n with
  | zero =>
    intro s _ enough
    exact .stops (last s (Nat.le_zero.mp enough))
  | succ n ih =>
    intro s held enough
    rw [next]
    cases here : turn s with
    | inl r => exact .stops here
    | inr t =>
      obtain ⟨kept,less⟩ := falls s t held here
      apply Ends.goes_on here
      apply ih t kept
      omega

end PlugNPray.Loops
