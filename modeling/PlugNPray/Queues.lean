import PlugNPray.Runs

/-!
A queue of a system that moves: what leaves it at the front, what jumps to the front, and what joins it behind.
-/
namespace PlugNPray.Queues
open PlugNPray.Runs
universe u v w
variable {State : Type u} {Label : Type v} {α : Type w}

/-- What the moves of a run give, one after the other. -/
def along (step : Label → State → Option State) (f : Label → State → List α) : List Label → State → List α
  | [], _ => []
  | l :: rest, s =>
    match step l s with
    | some t => f l s ++ along step f rest t
    | none => []

variable {step : Label → State → Option State} {guard : Label → State → Prop} {queue : State → List α}
  {leaves jumps : Label → State → List α} {labels : List Label} {s t : State}

theorem along_cons {f : Label → State → List α} {l : Label} (moved : step l s = some t) (rest : List Label) :
    along step f (l :: rest) s = f l s ++ along step f rest t := by
  simp [along,moved]

/-- The queue after a guarded move: those who leave are the first, and those who join are behind. -/
def Moves (step : Label → State → Option State) (guard : Label → State → Prop) (queue : State → List α)
    (leaves jumps : Label → State → List α) : Prop :=
  ∀ l s t, guard l s → step l s = some t → ∃ joins, jumps l s ++ queue s ++ joins = leaves l s ++ queue t

section place
variable [DecidableEq α] {x : α}

/-- Whoever does not leave is in the queue still, and closer to the front by as many as leave. -/
theorem place_of_move {before after first jumped joins : List α} (same : jumped ++ before ++ joins = first ++ after) (waits : x ∈ before)
    (stays : x ∉ first) : x ∈ after ∧ after.idxOf x + first.length ≤ before.idxOf x + jumped.length := by
  have listed : x ∈ first ++ after := by
    rw [← same]
    exact List.mem_append_left _ (List.mem_append_right _ waits)
  have place : (first ++ after).idxOf x = first.length + after.idxOf x := List.idxOf_append_of_notMem stays
  have bound : (jumped ++ before ++ joins).idxOf x ≤ jumped.length + before.idxOf x := by
    rw [List.idxOf_append_of_mem (List.mem_append_right _ waits)]
    by_cases jumps : x ∈ jumped
    · rw [List.idxOf_append_of_mem jumps]
      exact (List.idxOf_le_length).trans (Nat.le_add_right _ _)
    · rw [List.idxOf_append_of_notMem jumps]
  rw [same,place] at bound
  exact ⟨(List.mem_append.mp listed).resolve_left stays,by omega⟩

/-- The wait is bounded: while somebody waits, as many have left as were in front of him or jumped there. -/
theorem Moves.wait_bounded (moves : Moves step guard queue leaves jumps) (guarded : Guarded step guard labels s)
    (reached : run step labels s = some t) (waits : x ∈ queue s) (stays : x ∉ along step leaves labels s) :
    x ∈ queue t ∧ (queue t).idxOf x + (along step leaves labels s).length ≤ (queue s).idxOf x + (along step jumps labels s).length := by
  induction labels generalizing s with
  | nil =>
    cases reached
    exact ⟨waits,le_rfl⟩
  | cons l rest ih =>
    obtain ⟨here,later⟩ := guarded
    obtain ⟨u,moved,reached⟩ := Option.bind_eq_some_iff.mp reached
    rw [along_cons moved,List.mem_append,not_or] at stays
    obtain ⟨joins,same⟩ := moves l s u here moved
    obtain ⟨waiting,closer⟩ := place_of_move same waits stays.1
    obtain ⟨still,bound⟩ := ih (later u moved) reached waiting stays.2
    rw [along_cons moved,along_cons moved,List.length_append,List.length_append]
    exact ⟨still,by omega⟩

end place
end PlugNPray.Queues
