import Mathlib

/-!
Runs of a deterministic labelled step function: a label says who moves and what
the environment answers, and the step is undefined where the move is not enabled.
-/
namespace PlugNPray.Runs
universe u v
variable {State : Type u} {Label : Type v}

/-- The state after the labels in order, when every move is enabled. -/
def run (step : Label → State → Option State) : List Label → State → Option State
  | [], s => some s
  | l :: rest, s => (step l s).bind (run step rest)

/-- Every move of the run is made in a state that meets the guard. -/
def Guarded (step : Label → State → Option State) (guard : Label → State → Prop) :
    List Label → State → Prop
  | [], _ => True
  | l :: rest, s => guard l s ∧ ∀ t, step l s = some t → Guarded step guard rest t

/-- The invariant survives every move made under the guard. -/
def Preserved (step : Label → State → Option State) (guard : Label → State → Prop)
    (inv : State → Prop) : Prop :=
  ∀ l s t, inv s → guard l s → step l s = some t → inv t

variable {step : Label → State → Option State} {guard : Label → State → Prop} {inv : State → Prop}

@[simp] theorem run_nil (s : State) : run step [] s = some s := rfl
@[simp] theorem run_cons (l : Label) (rest : List Label) (s : State) :
    run step (l :: rest) s = (step l s).bind (run step rest) := rfl

theorem run_append (first second : List Label) (s : State) :
    run step (first ++ second) s = (run step first s).bind (run step second) := by
  induction first generalizing s with
  | nil => rfl
  | cons l rest ih =>
    simp only [List.cons_append,run_cons]
    cases step l s with
    | none => rfl
    | some t => exact ih t

/-- Where every move is possible a run is a fold. -/
theorem run_total (f : Label → State → State) (labels : List Label) (s : State) :
    run (fun l s => some (f l s)) labels s = some (labels.foldl (fun s l => f l s) s) := by
  induction labels generalizing s with
  | nil => rfl
  | cons l rest ih => exact ih (f l s)

/-- The run lemma: what every guarded move keeps, a guarded run keeps. -/
theorem invariant_of_guarded (keeps : Preserved step guard inv) {labels : List Label} {start s : State}
    (initial : inv start) (guarded : Guarded step guard labels start)
    (reached : run step labels start = some s) : inv s := by
  induction labels generalizing start with
  | nil => cases reached; exact initial
  | cons l rest ih =>
    obtain ⟨here,later⟩ := guarded
    obtain ⟨t,moved,reached⟩ := Option.bind_eq_some_iff.mp reached
    exact ih (keeps l start t initial here moved) (later t moved) reached

theorem Guarded.mono {guard' : Label → State → Prop} (weaker : ∀ l s, guard l s → guard' l s) {labels : List Label} {start : State}
    (guarded : Guarded step guard labels start) : Guarded step guard' labels start := by
  induction labels generalizing start with
  | nil => trivial
  | cons l rest ih => exact ⟨weaker l start guarded.1,fun t moved => ih (guarded.2 t moved)⟩

theorem Guarded.and {guard' : Label → State → Prop} {labels : List Label} {start : State} (first : Guarded step guard labels start)
    (second : Guarded step guard' labels start) : Guarded step (fun l s => guard l s ∧ guard' l s) labels start := by
  induction labels generalizing start with
  | nil => trivial
  | cons l rest ih => exact ⟨⟨first.1,second.1⟩,fun t moved => ih (first.2 t moved) (second.2 t moved)⟩

/-- A guard on the labels alone. -/
theorem guarded_of_labels {fine : Label → Prop} {labels : List Label} (all : ∀ l ∈ labels, fine l) (start : State) :
    Guarded step (fun l _ => fine l) labels start := by
  induction labels generalizing start with
  | nil => trivial
  | cons l rest ih => exact ⟨all l (by simp),fun t _ => ih (fun k member => all k (List.mem_cons_of_mem l member)) t⟩

/-- What holds of every guarded move from a state with the invariant holds all along a guarded run. -/
theorem guarded_of_invariant {prop : Label → State → Prop} (keeps : Preserved step guard inv)
    (holds : ∀ l s, inv s → guard l s → prop l s) {labels : List Label} {start : State} (initial : inv start)
    (moves : Guarded step guard labels start) : Guarded step prop labels start := by
  induction labels generalizing start with
  | nil => trivial
  | cons l rest ih =>
    obtain ⟨here,later⟩ := moves
    exact ⟨holds l start initial here,fun t moved => ih (keeps l start t initial here moved) (later t moved)⟩

/-- Where the invariant holds and the moves are admitted, a property of single moves holds all
    along a run exactly when a guard does, if the guard is exact for one move and keeps the invariant. -/
theorem guarded_congr {admitted prop : Label → State → Prop}
    (keeps : ∀ l s t, inv s → admitted l s → guard l s → step l s = some t → inv t)
    (sharp : ∀ l s, inv s → admitted l s → (prop l s ↔ guard l s)) {labels : List Label} {start : State} (initial : inv start)
    (moves : Guarded step admitted labels start) : Guarded step prop labels start ↔ Guarded step guard labels start := by
  induction labels generalizing start with
  | nil => exact .rfl
  | cons l rest ih =>
    obtain ⟨here,later⟩ := moves
    refine (and_congr_left' (sharp l start initial here)).trans (and_congr_right (fun guarded => ?_))
    exact forall₂_congr (fun t moved => ih (keeps l start t initial here guarded moved) (later t moved))

theorem guarded_cons {l : Label} {rest : List Label} {s t : State} (moved : step l s = some t) :
    Guarded step guard (l :: rest) s ↔ guard l s ∧ Guarded step guard rest t :=
  and_congr_right (fun _ => ⟨fun later => later t moved,fun later u moved' => by cases moved.symm.trans moved'; exact later⟩)

/-- A guard that can be decided move by move can be decided for a run. -/
instance decidableGuarded [∀ l s, Decidable (guard l s)] : ∀ labels s, Decidable (Guarded step guard labels s)
  | [], _ => isTrue trivial
  | l :: rest, s =>
    match moved : step l s with
    | none => decidable_of_iff (guard l s) ⟨fun here => ⟨here,fun _ moved' => by cases moved.symm.trans moved'⟩,And.left⟩
    | some t =>
      have := decidableGuarded rest t
      decidable_of_iff _ (guarded_cons moved).symm

theorem guarded_append {first second : List Label} {start : State}
    (guarded : Guarded step guard (first ++ second) start) :
    Guarded step guard first start ∧
      ∀ t, run step first start = some t → Guarded step guard second t := by
  induction first generalizing start with
  | nil => exact ⟨trivial,fun t reached => by cases reached; exact guarded⟩
  | cons l rest ih =>
    obtain ⟨here,later⟩ := guarded
    refine ⟨⟨here,fun t moved => (ih (later t moved)).1⟩,?_⟩
    intro t reached
    obtain ⟨mid,moved,reached⟩ := Option.bind_eq_some_iff.mp reached
    exact (ih (later mid moved)).2 t reached

/-! ## Machines that answer -/

section Answers
variable {Request : Type u} {Answer : Type v} {Machine : Type*}

/-- The answers to requests made one after the other. -/
def answers (serve : Request → Machine → Answer × Machine) : List Request → Machine → List Answer
  | [], _ => []
  | r :: rest, m => (serve r m).1 :: answers serve rest (serve r m).2

/-- Related machines that answer alike and stay related answer every sequence alike. -/
theorem answers_eq {serve : Request → Machine → Answer × Machine} {related : Machine → Machine → Prop}
    (alike : ∀ r m m', related m m' → (serve r m').1 = (serve r m).1 ∧ related (serve r m).2 (serve r m').2)
    (requests : List Request) {m m' : Machine} (start : related m m') : answers serve requests m' = answers serve requests m := by
  induction requests generalizing m m' with
  | nil => rfl
  | cons r rest ih =>
    obtain ⟨same,next⟩ := alike r m m' start
    rw [answers,answers,same,ih next]

end Answers

end PlugNPray.Runs
