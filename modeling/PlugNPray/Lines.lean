import Mathlib

/-!
Lines of a text, and reading them through a buffer of bounded size: what one read
takes, and which line it is a piece of.
-/
namespace PlugNPray.Lines

/-- The bytes that end a line and a string in C. -/
def nl : UInt8 := 10
def nul : UInt8 := 0

universe u
variable {α : Type u} [DecidableEq α] {nl : α}

/-- The lines of a text, without their newlines. A newline ends a line and starts none. -/
def lines (nl : α) : List α → List (List α)
  | [] => []
  | c :: l =>
    if c = nl then [] :: lines nl l
    else
      match lines nl l with
      | [] => [[c]]
      | x :: rest => (c :: x) :: rest

/-- A read of at most `n` characters that stops after a newline, and what is left of the text. -/
def fgets (nl : α) : Nat → List α → List α × List α
  | 0, l => ([],l)
  | _+1, [] => ([],[])
  | n+1, c :: l => if c = nl then ([c],l) else (c :: (fgets nl n l).1,(fgets nl n l).2)

/-! ## Lines -/

omit [DecidableEq α] in
theorem plain_cons {c : α} {x : List α} : nl ∉ c :: x ↔ nl ≠ c ∧ nl ∉ x := by
  rw [List.mem_cons,not_or]

@[simp] theorem lines_nil : lines nl [] = [] := rfl
@[simp] theorem lines_newline (l : List α) : lines nl (nl :: l) = [] :: lines nl l := by simp [lines]

theorem lines_append {x : List α} (plain : nl ∉ x) (l : List α) : lines nl (x ++ nl :: l) = x :: lines nl l := by
  induction x with
  | nil => simp
  | cons c x ih =>
    obtain ⟨other,later⟩ := plain_cons.mp plain
    rw [List.cons_append,lines,if_neg (Ne.symm other),ih later]

theorem lines_last {x : List α} (plain : nl ∉ x) (some : x ≠ []) : lines nl x = [x] := by
  induction x with
  | nil => exact absurd rfl some
  | cons c x ih =>
    obtain ⟨other,later⟩ := plain_cons.mp plain
    rw [lines,if_neg (Ne.symm other)]
    cases x with
    | nil => rfl
    | cons d x => rw [ih later (by simp)]

/-- A text is empty, or a last line without a newline, or a line, a newline and more text. -/
inductive Texto (nl : α) : List α → Prop where
  | vacio : Texto nl []
  | ultima (x : List α) (plain : nl ∉ x) (some : x ≠ []) : Texto nl x
  | linea (x l : List α) (plain : nl ∉ x) : Texto nl (x ++ nl :: l)

variable (nl) in
theorem texto_cases (l : List α) : Texto nl l := by
  induction l with
  | nil => exact .vacio
  | cons c l ih =>
    by_cases newline : c = nl
    · subst newline
      exact .linea [] l (by simp)
    · cases ih with
      | vacio => exact .ultima [c] (by simpa using Ne.symm newline) (by simp)
      | ultima _ plain some => exact .ultima (c :: l) (plain_cons.mpr ⟨Ne.symm newline,plain⟩) (by simp)
      | linea x l plain => exact .linea (c :: x) l (plain_cons.mpr ⟨Ne.symm newline,plain⟩)

/-- The first line of a text: a newline follows it, or nothing does. -/
theorem lines_cons {l x : List α} {rest : List (List α)} (split : lines nl l = x :: rest) :
    nl ∉ x ∧ ((∃ l', l = x ++ nl :: l' ∧ rest = lines nl l') ∨ (l = x ∧ x ≠ [] ∧ rest = [])) := by
  cases texto_cases nl l with
  | vacio => cases split
  | ultima _ plain some =>
    rw [lines_last plain some] at split
    obtain ⟨rfl,rfl⟩ := List.cons.inj split
    exact ⟨plain,.inr ⟨rfl,some,rfl⟩⟩
  | linea y l' plain =>
    rw [lines_append plain] at split
    obtain ⟨rfl,rfl⟩ := List.cons.inj split
    exact ⟨plain,.inl ⟨l',rfl,rfl⟩⟩

theorem lines_empty {l : List α} {rest : List (List α)} (split : lines nl l = [] :: rest) :
    ∃ l', l = nl :: l' ∧ rest = lines nl l' := by
  obtain ⟨_,more | ⟨_,some,_⟩⟩ := lines_cons split
  · exact more
  · exact absurd rfl some

/-! ## One read -/

/-- A line with room for its newline is read with it. -/
theorem fgets_line {x : List α} (plain : nl ∉ x) {n : Nat} (room : x.length < n) (l : List α) :
    fgets nl n (x ++ nl :: l) = (x ++ [nl],l) := by
  induction x generalizing n with
  | nil =>
    obtain ⟨n,rfl⟩ := Nat.exists_eq_succ_of_ne_zero (Nat.ne_of_gt room)
    simp [fgets]
  | cons c x ih =>
    obtain ⟨other,later⟩ := plain_cons.mp plain
    obtain ⟨n,rfl⟩ := Nat.exists_eq_succ_of_ne_zero (Nat.ne_of_gt (Nat.zero_lt_of_lt room))
    rw [List.cons_append,fgets,if_neg (Ne.symm other),ih later (by simpa using room)]
    rfl

/-- A last line with room is read whole. -/
theorem fgets_last {x : List α} (plain : nl ∉ x) {n : Nat} (room : x.length ≤ n) : fgets nl n x = (x,[]) := by
  induction x generalizing n with
  | nil => cases n <;> rfl
  | cons c x ih =>
    obtain ⟨other,later⟩ := plain_cons.mp plain
    obtain ⟨n,rfl⟩ := Nat.exists_eq_succ_of_ne_zero (Nat.ne_of_gt (Nat.zero_lt_of_lt room))
    rw [fgets,if_neg (Ne.symm other),ih later (by simpa using room)]

/-- Of a line without room for its newline the read takes a piece. -/
theorem fgets_long {x : List α} (plain : nl ∉ x) {n : Nat} (long : n ≤ x.length) (l : List α) :
    fgets nl n (x ++ l) = (x.take n,x.drop n ++ l) := by
  induction x generalizing n with
  | nil =>
    obtain rfl : n = 0 := by simpa using long
    rfl
  | cons c x ih =>
    obtain ⟨other,later⟩ := plain_cons.mp plain
    cases n with
    | zero => rfl
    | succ n =>
      rw [List.cons_append,fgets,if_neg (Ne.symm other),ih later (by simpa using long)]
      simp

theorem fgets_nil (n : Nat) : fgets nl n [] = ([],[]) := by cases n <;> rfl

variable (nl) in
/-- A read with room takes something of what there is. -/
theorem fgets_shorter {n : Nat} (room : 0 < n) {l : List α} (some : l ≠ []) : (fgets nl n l).2.length < l.length := by
  cases texto_cases nl l with
  | vacio => exact absurd rfl some
  | ultima _ plain _ =>
    have filled := List.length_pos_iff.mpr some
    rcases le_or_gt l.length n with fits | long
    · simpa [fgets_last plain fits] using filled
    · have read := fgets_long plain long.le []
      simp only [List.append_nil] at read
      rw [read,List.length_drop]
      omega
  | linea x l plain =>
    rcases lt_or_ge x.length n with fits | long
    · rw [fgets_line plain fits]
      simp
      omega
    · rw [fgets_long plain long]
      simp
      omega

/-! ## How many lines -/

variable (nl) in
/-- A read takes one line at most. -/
theorem fgets_lines (n : Nat) (l : List α) : (lines nl l).length ≤ (lines nl (fgets nl n l).2).length + 1 := by
  cases texto_cases nl l with
  | vacio => simp
  | ultima _ plain some => simp [lines_last plain some]
  | linea x l plain =>
    rcases lt_or_ge x.length n with fits | long
    · rw [fgets_line plain fits,lines_append plain]
      rfl
    · rw [fgets_long plain long,lines_append plain,lines_append (fun member => plain (List.mem_of_mem_drop member))]
      simp

end PlugNPray.Lines
