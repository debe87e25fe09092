import PlugNPray.Inheritance
import PlugNPray.MutexOwners
import PlugNPray.Priorities

/-!
Inherited priorities with multilevel queues: what the functions on priorities compute,
and when every process has the priority of the most urgent of those that wait for it.
-/
namespace PlugNPray.MutexPriorities
open PlugNPray.Scheduler PlugNPray.Handlers PlugNPray.ReadyQueues PlugNPray.Moves PlugNPray.Stacks PlugNPray.Runs PlugNPray.Places
open PlugNPray.Inheritance PlugNPray.MutexOwners PlugNPray.Priorities PlugNPray.References

/-! ## Owners and waiters -/

def espera (s : Ks) (i q : Nat) : Prop := ∃ m, s.lista_mutex[i]? = some m ∧ q ∈ m.cola_espera

def red (s : Ks) : Net Nat Nat := ⟨dueno s,espera s⟩

def prio (s : Ks) (p : Nat) : Int := (s.procesos p).prioridad
def base (s : Ks) (p : Nat) : Int := (s.procesos p).prioridad_original

def Exacta (s : Ks) (p : Nat) : Prop := Exact (red s) (base s) (prio s) p

variable {cfg : Config} {s : Ks} {p q d j : Nat}

theorem waiter_iff : (red s).Waiter p q ↔ ∃ m ∈ s.lista_mutex, m.pid_dueno = some p ∧ q ∈ m.cola_espera := by
  constructor
  · rintro ⟨i,owner,m,here,waits⟩
    exact ⟨m,List.mem_of_getElem? here,(dueno_of_here here).symm.trans owner,waits⟩
  · rintro ⟨m,member,owner,waits⟩
    obtain ⟨i,here⟩ := List.getElem?_of_mem member
    exact ⟨i,(dueno_of_here here).trans owner,m,here,waits⟩

/-- Waiters for the other mutexes. -/
def Otros (s : Ks) (j p q : Nat) : Prop := ∃ i, i ≠ j ∧ dueno s i = some p ∧ espera s i q

theorem waiter_split {m : Mutex} (here : s.lista_mutex[j]? = some m) :
    (red s).Waiter p q ↔ Otros s j p q ∨ (m.pid_dueno = some p ∧ q ∈ m.cola_espera) := by
  constructor
  · rintro ⟨i,owner,m',there,waits⟩
    by_cases same : i = j
    · subst same
      cases here.symm.trans there
      exact .inr ⟨(dueno_of_here here).symm.trans owner,waits⟩
    · exact .inl ⟨i,same,owner,m',there,waits⟩
  · rintro (⟨i,_,owner,waits⟩ | ⟨owner,waits⟩)
    · exact ⟨i,owner,waits⟩
    · exact ⟨j,(dueno_of_here here).trans owner,m,here,waits⟩

theorem here_con_mutex {m : Mutex} (here : s.lista_mutex[j]? = some m) (f : Mutex → Mutex) :
    (s.con_mutex j f).lista_mutex[j]? = some (f m) := by
  simp [here]

theorem espera_con_mutex {i : Nat} (other : i ≠ j) (f : Mutex → Mutex) : espera (s.con_mutex j f) i q ↔ espera s i q := by
  simp [espera,other.symm]

theorem otros_con_mutex (f : Mutex → Mutex) : Otros (s.con_mutex j f) j p q ↔ Otros s j p q := by
  refine exists_congr (fun i => and_congr_right (fun other => ?_))
  rw [dueno_modify other.symm,espera_con_mutex other]

theorem waiter_con_mutex {m : Mutex} (here : s.lista_mutex[j]? = some m) (f : Mutex → Mutex) :
    (red (s.con_mutex j f)).Waiter p q ↔ Otros s j p q ∨ ((f m).pid_dueno = some p ∧ q ∈ (f m).cola_espera) := by
  rw [waiter_split (here_con_mutex here f),otros_con_mutex]

/-! ## What the functions compute -/

/-- No waiter has a negative priority, so that -1 stands for an empty queue only. -/
def Positivas (s : Ks) : Prop := ∀ m ∈ s.lista_mutex, ∀ q ∈ m.cola_espera, 0 ≤ prio s q

theorem mayor_prioridad_least {cola : List Nat} (positive : ∀ q ∈ cola, 0 ≤ prio s q) :
    (cola = [] ∧ mayor_prioridad_del_mutex s cola = -1) ∨
      (IsLeast (prio s '' {q | q ∈ cola}) (mayor_prioridad_del_mutex s cola) ∧ 0 ≤ mayor_prioridad_del_mutex s cola) := by
  suffices walk : ∀ (l : List Nat) (seen : List Nat), (∀ q ∈ seen ++ l, 0 ≤ prio s q) → ∀ mejor : Int,
      (seen = [] ∧ mejor = -1) ∨ (IsLeast (prio s '' {q | q ∈ seen}) mejor ∧ 0 ≤ mejor) →
      let final := l.foldl (fun mejor p => if mejor = -1 ∨ (s.procesos p).prioridad < mejor then (s.procesos p).prioridad else mejor) mejor
      (seen ++ l = [] ∧ final = -1) ∨ (IsLeast (prio s '' {q | q ∈ seen ++ l}) final ∧ 0 ≤ final) from
    walk cola [] (by simpa using positive) (-1) (.inl ⟨rfl,rfl⟩)
  intro l
  induction l with
  | nil =>
    intro seen _ mejor held
    simpa using held
  | cons x rest ih =>
    intro seen positive mejor held
    have grow : seen ++ x :: rest = (seen ++ [x]) ++ rest := by simp
    rw [grow] at positive ⊢
    simp only [List.foldl_cons]
    refine ih (seen ++ [x]) positive _ (.inr ?_)
    have here : 0 ≤ prio s x := positive x (by simp)
    have insert : prio s '' {q | q ∈ seen ++ [x]} = insert (prio s x) (prio s '' {q | q ∈ seen}) := by
      ext v
      simp [or_comm,eq_comm]
    rcases held with ⟨rfl,rfl⟩ | ⟨least,up⟩
    · simp only [true_or,if_true]
      exact ⟨⟨⟨x,by simp,rfl⟩,by rintro v ⟨q,member,rfl⟩; simp at member; rw [member]; exact le_refl _⟩,here⟩
    · rw [insert]
      have min := least.insert (prio s x)
      have no : mejor ≠ -1 := by omega
      split_ifs with better
      · have low : prio s x < mejor := better.resolve_left no
        rw [min_eq_left low.le] at min
        exact ⟨min,here⟩
      · have high : mejor ≤ prio s x := not_lt.mp (fun low => better (.inr low))
        rw [min_eq_right high] at min
        exact ⟨min,up⟩

theorem prio_con_prioridad (v : Int) : prio (s.con_prioridad p v) = Function.update (prio s) p v := by
  funext q
  by_cases same : q = p
  · simp [prio,same]
  · simp [prio,same]

theorem base_con_prioridad (v : Int) : base (s.con_prioridad p v) = base s := by
  funext q
  by_cases same : q = p
  · simp [base,same]
  · simp [base,same]

/-- aplicar_herencia leaves the priority if no waiter is more urgent, and else gives the process that of the most urgent. -/
inductive Hereda (cola : List Nat) (p : Nat) (s t : Ks) : Prop where
  | queda (low : ∀ q ∈ cola, prio s p ≤ prio s q) (same : prio t = prio s)
  | sube (v : Int) (least : IsLeast (prio s '' {q | q ∈ cola}) v) (low : v < prio s p) (same : prio t = Function.update (prio s) p v)

theorem aplicar_herencia_hereda {cola : List Nat} (positive : ∀ q ∈ cola, 0 ≤ prio s q) :
    Hereda cola p s (aplicar_herencia cfg p cola s).1 := by
  unfold aplicar_herencia
  dsimp only
  rcases mayor_prioridad_least positive with ⟨rfl,none⟩ | ⟨least,up⟩
  · rw [if_pos (.inl none)]
    exact .queda (by simp) rfl
  · split_ifs with keeps ready range
    · refine .queda (fun q member => ?_) rfl
      have low : prio s p ≤ mayor_prioridad_del_mutex s cola := keeps.resolve_left (by omega)
      exact low.trans (least.2 ⟨q,member,rfl⟩)
    · push Not at keeps
      rw [encolar_en_ready_ks]
      exact .sube _ least keeps.2 (prio_con_prioridad _)
    · push Not at keeps
      rw [encolar_en_ready_ks]
      exact .sube _ least keeps.2 (prio_con_prioridad _)
    · push Not at keeps
      exact .sube _ least keeps.2 (prio_con_prioridad _)

/-- What an update of priorities leaves alone. -/
structure MismaRed (s t : Ks) : Prop where
  mutexes : t.lista_mutex = s.lista_mutex
  base : base t = base s

theorem MismaRed.red {t : Ks} (same : MismaRed s t) : red t = red s := by
  unfold MutexPriorities.red espera dueno
  rw [same.mutexes]

theorem aplicar_herencia_red (cmn : cfg.cmn = true) (cola : List Nat) : MismaRed s (aplicar_herencia cfg p cola s).1 := by
  have what := aplicar_herencia_cases cmn p cola s
  refine ⟨herencia_mutex what,?_⟩
  generalize aplicar_herencia cfg p cola s = r at what
  cases what with
  | nada => rfl
  | cambia v => exact base_con_prioridad v
  | muda v => split_ifs <;> exact base_con_prioridad v

/-- What devolver_prioridad computes. -/
theorem devolver_prioridad_least (positive : Positivas s) :
    ∃ v, IsLeast (claims (red s) (base s) (prio s) p) v ∧ prio (devolver_prioridad p s) = Function.update (prio s) p v := by
  let step := fun (mejor : Int) (m : Mutex) =>
    if m.pid_dueno = some p then
      let candidato := mayor_prioridad_del_mutex s m.cola_espera
      if candidato ≠ -1 ∧ candidato < mejor then candidato else mejor
    else mejor
  have walk : ∀ (l seen : List Mutex) (mejor : Int), (∀ m ∈ l, m ∈ s.lista_mutex) →
      IsLeast (insert (base s p) (prio s '' {q | ∃ m ∈ seen, m.pid_dueno = some p ∧ q ∈ m.cola_espera})) mejor →
      IsLeast (insert (base s p) (prio s '' {q | ∃ m ∈ seen ++ l, m.pid_dueno = some p ∧ q ∈ m.cola_espera})) (l.foldl step mejor) := by
    intro l
    induction l with
    | nil =>
      intro seen mejor _ least
      simpa using least
    | cons m rest ih =>
      intro seen mejor listed least
      rw [show seen ++ m :: rest = (seen ++ [m]) ++ rest by simp]
      refine ih (seen ++ [m]) _ (fun m' member => listed m' (List.mem_cons_of_mem m member)) ?_
      by_cases owned : m.pid_dueno = some p
      · have set : insert (base s p) (prio s '' {q | ∃ m' ∈ seen ++ [m], m'.pid_dueno = some p ∧ q ∈ m'.cola_espera}) =
            insert (base s p) (prio s '' {q | ∃ m ∈ seen, m.pid_dueno = some p ∧ q ∈ m.cola_espera}) ∪
              prio s '' {q | q ∈ m.cola_espera} := by
          rw [Set.insert_union,← Set.image_union]
          congr 2
          ext q
          constructor
          · rintro ⟨m',member,owner,waits⟩
            rcases List.mem_append.mp member with old | new
            · exact .inl ⟨m',old,owner,waits⟩
            · rw [List.mem_singleton.mp new] at waits
              exact .inr waits
          · rintro (⟨m',member,owner,waits⟩ | waits)
            · exact ⟨m',List.mem_append_left _ member,owner,waits⟩
            · exact ⟨m,by simp,owned,waits⟩
        simp only [step,owned,if_true]
        rw [set]
        rcases mayor_prioridad_least (positive m (listed m List.mem_cons_self)) with ⟨empty,none⟩ | ⟨best,up⟩
        · rw [if_neg (fun better => better.1 none)]
          simpa [empty] using least
        · have min := least.union best
          split_ifs with better
          · rwa [min_eq_right better.2.le] at min
          · have high : mejor ≤ mayor_prioridad_del_mutex s m.cola_espera := by
              by_contra low
              exact better ⟨by omega,by omega⟩
            rwa [min_eq_left high] at min
      · have set : {q | ∃ m' ∈ seen ++ [m], m'.pid_dueno = some p ∧ q ∈ m'.cola_espera} =
            {q | ∃ m ∈ seen, m.pid_dueno = some p ∧ q ∈ m.cola_espera} := by
          ext q
          simp [or_and_right,exists_or,owned]
        simp only [step,owned,if_false]
        rwa [set]
  have least := walk s.lista_mutex [] (base s p) (fun _ => id) (by simp)
  have set : claims (red s) (base s) (prio s) p =
      insert (base s p) (prio s '' {q | ∃ m ∈ [] ++ s.lista_mutex, m.pid_dueno = some p ∧ q ∈ m.cola_espera}) := by
    unfold claims
    congr 2
    ext q
    exact waiter_iff
  refine ⟨_,set ▸ least,?_⟩
  unfold devolver_prioridad
  dsimp only
  split_ifs with same
  · rw [show s.lista_mutex.foldl step (base s p) = prio s p from same,Function.update_eq_self]
  · exact prio_con_prioridad _

theorem devolver_prioridad_red : MismaRed s (devolver_prioridad p s) := by
  have what := devolver_prioridad_cases p s
  refine ⟨devolucion_mutex what,?_⟩
  generalize devolver_prioridad p s = t at what
  cases what with
  | nada => rfl
  | cambia v => exact base_con_prioridad v

/-! ## Mutexes that change hands -/

/-- A process waits for one mutex at most, and nobody for a free one. -/
structure Ordenada (s : Ks) : Prop where
  una : ∀ i i' q, espera s i q → espera s i' q → i = i'
  sin_repetir : ∀ m ∈ s.lista_mutex, m.cola_espera.Nodup
  libre : ∀ m ∈ s.lista_mutex, m.pid_dueno = none → m.cola_espera = []

theorem mem_con_mutex {f : Mutex → Mutex} {m m' : Mutex} (here : s.lista_mutex[j]? = some m)
    (member : m' ∈ (s.con_mutex j f).lista_mutex) : m' = f m ∨ m' ∈ s.lista_mutex := by
  obtain ⟨pre,post,split,rfl⟩ := split_of_getElem? here
  simp only [Ks.con_mutex_lista_mutex,split,modify_split,List.mem_append,List.mem_cons] at member ⊢
  rcases member with before | rfl | after
  · exact .inr (.inl before)
  · exact .inl rfl
  · exact .inr (.inr (.inr after))

/-- A mutex gets another record; who waits for it then waits for it already, or waits for nothing. -/
theorem Ordenada.con_mutex (ordered : Ordenada s) {f : Mutex → Mutex} {m : Mutex} (here : s.lista_mutex[j]? = some m)
    (queue : ∀ q ∈ (f m).cola_espera, q ∈ m.cola_espera ∨ ∀ i, ¬ espera s i q) (once : (f m).cola_espera.Nodup)
    (free : (f m).pid_dueno = none → (f m).cola_espera = []) : Ordenada (s.con_mutex j f) := by
  have old : ∀ i q, espera (s.con_mutex j f) i q → espera s i q ∨ (i = j ∧ ∀ i, ¬ espera s i q) := by
    rintro i q ⟨m',there,waits⟩
    by_cases same : i = j
    · subst same
      cases (here_con_mutex here f).symm.trans there
      exact (queue q waits).imp (fun waits => ⟨m,here,waits⟩) (fun none => ⟨rfl,none⟩)
    · exact .inl ((espera_con_mutex same f).mp ⟨m',there,waits⟩)
  refine ⟨fun i i' q waits waits' => ?_,fun m' member => ?_,fun m' member => ?_⟩
  · rcases old i q waits with first | ⟨rfl,none⟩
    · rcases old i' q waits' with second | ⟨rfl,none⟩
      · exact ordered.una i i' q first second
      · exact absurd first (none i)
    · rcases old i' q waits' with second | ⟨rfl,_⟩
      · exact absurd second (none i')
      · rfl
  · rcases mem_con_mutex here member with rfl | listed
    · exact once
    · exact ordered.sin_repetir m' listed
  · rcases mem_con_mutex here member with rfl | listed
    · exact free
    · exact ordered.libre m' listed

theorem Ordenada.congr (ordered : Ordenada s) {t : Ks} (mutexes : t.lista_mutex = s.lista_mutex) : Ordenada t := by
  have same : espera t = espera s := by
    funext i q
    simp [espera,mutexes]
  exact ⟨same ▸ ordered.una,mutexes ▸ ordered.sin_repetir,mutexes ▸ ordered.libre⟩

section handover
variable {m : Mutex} {cola : List Nat} {D : Nat → Prop}

/-- The first of a queue, once it is taken off, waits for nothing. -/
theorem Ordenada.first_free (ordered : Ordenada s) (here : s.lista_mutex[j]? = some m) (queue : m.cola_espera = q :: cola) (i : Nat)
    (f : Mutex → Mutex) (rest : (f m).cola_espera = cola) : ¬ espera (s.con_mutex j f) i q := by
  have once := ordered.sin_repetir m (List.mem_of_getElem? here)
  rw [queue] at once
  rintro ⟨m',there,waits⟩
  by_cases same : i = j
  · subst same
    cases (here_con_mutex here f).symm.trans there
    rw [rest] at waits
    exact (List.nodup_cons.mp once).1 waits
  · have elsewhere := (espera_con_mutex same f).mp ⟨m',there,waits⟩
    exact same (ordered.una i j q elsewhere ⟨m,here,by simp [queue]⟩)

theorem no_waiter (free : ∀ i, ¬ espera s i q) : ¬ (red s).Waiter p q :=
  fun ⟨i,_,waits⟩ => free i waits

/-- Inheriting from new waiters keeps priorities exact, if who has what the heir waits for is urgent enough. -/
theorem aplicar_exacta (cmn : cfg.cmn = true) {N : Net Nat Nat} (positive : ∀ r ∈ cola, 0 ≤ prio s r)
    (own : ¬ D q → Exact N (base s) (prio s) q) (waiters : ¬ D q → ∀ r, (red s).Waiter q r ↔ N.Waiter q r ∨ r ∈ cola)
    (others : ∀ p, ¬ D p → p ≠ q → Exacta s p)
    (chain : ∀ p v, ¬ D p → p ≠ q → (red s).Waiter p q → IsLeast (prio s '' {r | r ∈ cola}) v → v < prio s q → prio s p ≤ v)
    {p : Nat} (lives : ¬ D p) : Exacta (aplicar_herencia cfg q cola s).1 p := by
  have net := aplicar_herencia_red (s := s) (p := q) cmn cola
  unfold Exacta
  rw [net.red,net.base]
  cases @aplicar_herencia_hereda cfg _ q _ positive with
  | queda low same =>
    rw [same]
    by_cases mine : p = q
    · subst mine
      exact (own lives).gain_le (waiters lives) low
    · exact others p lives mine
  | sube v least low same =>
    rw [same]
    by_cases mine : p = q
    · subst mine
      exact (own lives).gain_lt (waiters lives) least low
    · by_cases waits : (red s).Waiter p q
      · exact ((others p lives mine).chain mine low waits).mpr (chain p v lives mine waits least low)
      · exact (others p lives mine).away mine waits

/-- The mutexes change in one place, in which the process has no part. -/
theorem Exacta.con_mutex (exact : Exacta s p) (here : s.lista_mutex[j]? = some m) {f : Mutex → Mutex}
    (before : m.pid_dueno = some p → m.cola_espera = []) (after : (f m).pid_dueno = some p → (f m).cola_espera = []) :
    Exacta (s.con_mutex j f) p := by
  refine Exact.congr exact (fun r => ?_) rfl (fun _ _ => rfl)
  rw [waiter_con_mutex here f,waiter_split here]
  refine or_congr_right (iff_of_false ?_ ?_)
  · rintro ⟨owner,waits⟩
    rw [after owner] at waits
    cases waits
  · rintro ⟨owner,waits⟩
    rw [before owner] at waits
    cases waits

def cedido (q : Nat) (cola : List Nat) (m : Mutex) : Mutex := { m with pid_dueno := some q, cola_espera := cola }

theorem cedido_waiters (here : s.lista_mutex[j]? = some m) (other : m.pid_dueno ≠ some q) (r : Nat) :
    (red (s.con_mutex j (cedido q cola))).Waiter q r ↔ (red s).Waiter q r ∨ r ∈ cola := by
  rw [waiter_con_mutex here,waiter_split here]
  simp [cedido,other]

/-- A mutex of a dead process goes to the first that waits. -/
theorem hereda_exacta (cmn : cfg.cmn = true) (ordered : Ordenada s) (positive : Positivas s) (here : s.lista_mutex[j]? = some m)
    (owned : m.pid_dueno = some d) (dead : D d) (queue : m.cola_espera = q :: cola) (exact : ∀ p, ¬ D p → Exacta s p)
    (lives : ¬ D p) : Exacta (heredar_mutex cfg j q cola s).1 p := by
  have given : ∀ r, ¬ D r → r ≠ q → Exacta (s.con_mutex j (cedido q cola)) r := by
    intro r alive other
    refine (exact r alive).con_mutex here (fun owner => ?_) (fun owner => ?_)
    · rw [owned] at owner
      cases owner
      exact absurd dead alive
    · exact absurd (Option.some.inj owner).symm other
  unfold heredar_mutex
  dsimp only
  rw [if_pos cmn]
  refine aplicar_exacta (s := s.con_mutex j (cedido q cola)) (N := red s) cmn ?_ (fun alive => exact q alive) ?_ given ?_ lives
  · exact fun r member => positive m (List.mem_of_getElem? here) r (by simp [queue,member])
  · intro alive r
    refine cedido_waiters here ?_ r
    rw [owned]
    rintro same
    cases same
    exact alive dead
  · exact fun p v _ _ waits => absurd waits (no_waiter (fun i => ordered.first_free here queue i (cedido q cola) rfl))

/-- devolver_prioridad of a process that waits for nothing. -/
theorem devolver_exacta (positive : Positivas s) (free : ∀ i, ¬ espera s i d) (exact : p ≠ d → Exacta s p) :
    Exacta (devolver_prioridad d s) p := by
  obtain ⟨v,least,same⟩ := devolver_prioridad_least (p := d) positive
  have net := devolver_prioridad_red (s := s) (p := d)
  unfold Exacta
  rw [net.red,net.base,same]
  by_cases mine : p = d
  · subst mine
    exact exact_recomputed least (no_waiter free)
  · exact (exact mine).away mine (no_waiter free)

/-- An unlock that leaves the mutex free. -/
theorem libera_exacta (positive : Positivas s) (here : s.lista_mutex[j]? = some m) (empty : m.cola_espera = [])
    (free : ∀ i, ¬ espera s i d) (exact : Exacta s p) :
    Exacta (devolver_prioridad d (s.con_mutex j (fun m => { m with pid_dueno := none }))) p := by
  refine devolver_exacta ?_ ?_ (fun _ => exact.con_mutex here (fun _ => empty) (fun _ => empty))
  · intro m' member
    rcases mem_con_mutex here member with rfl | listed
    · simp [empty]
    · exact positive m' listed
  · rintro i ⟨m',there,waits⟩
    by_cases same : i = j
    · subst same
      cases (here_con_mutex here _).symm.trans there
      rw [empty] at waits
      cases waits
    · exact free i ((espera_con_mutex same _).mp ⟨m',there,waits⟩)

/-- An unlock that hands the mutex over. -/
theorem cede_exacta (cmn : cfg.cmn = true) (ordered : Ordenada s) (positive : Positivas s) (here : s.lista_mutex[j]? = some m)
    (owned : m.pid_dueno = some d) (queue : m.cola_espera = q :: cola) (free : ∀ i, ¬ espera s i d)
    (exact : ∀ p, ¬ D p → Exacta s p) (lives : ¬ D p) :
    Exacta (aplicar_herencia cfg q cola (devolver_prioridad d (s.con_mutex j (cedido q cola)))).1 p := by
  have mine : espera s j q := ⟨m,here,by simp [queue]⟩
  have other : d ≠ q := by
    rintro rfl
    exact free j mine
  have later : ∀ i r, espera (s.con_mutex j (cedido q cola)) i r → espera s i r := by
    rintro i r ⟨m',there,waits⟩
    by_cases same : i = j
    · subst same
      cases (here_con_mutex here _).symm.trans there
      exact ⟨m,here,by simp [queue]; exact .inr waits⟩
    · exact (espera_con_mutex same _).mp ⟨m',there,waits⟩
  have positive' : Positivas (s.con_mutex j (cedido q cola)) := by
    intro m' member r waits
    rcases mem_con_mutex here member with rfl | listed
    · exact positive m (List.mem_of_getElem? here) r (by rw [queue]; exact List.mem_cons_of_mem q waits)
    · exact positive m' listed r waits
  obtain ⟨v,least,same⟩ := devolver_prioridad_least (s := s.con_mutex j (cedido q cola)) (p := d) positive'
  have net := devolver_prioridad_red (s := s.con_mutex j (cedido q cola)) (p := d)
  have given : ∀ r, ¬ D r → r ≠ q → Exacta (devolver_prioridad d (s.con_mutex j (cedido q cola))) r :=
    fun r alive far => devolver_exacta positive' (fun i waits => free i (later i d waits))
      (fun not_d => (exact r alive).con_mutex here
        (fun owner => absurd (Option.some.inj (owned.symm.trans owner)).symm not_d) (fun owner => absurd (Option.some.inj owner).symm far))
  refine aplicar_exacta (N := red s) cmn ?_ ?_ ?_ given ?_ lives
  · intro r member
    rw [same]
    have far : r ≠ d := by
      rintro rfl
      exact free j ⟨m,here,by simp [queue,member]⟩
    rw [Function.update_of_ne far]
    exact positive m (List.mem_of_getElem? here) r (by simp [queue,member])
  · intro alive
    rw [net.base,same]
    exact (exact q alive).away other.symm (no_waiter free)
  · intro alive r
    rw [net.red]
    refine cedido_waiters here ?_ r
    rw [owned]
    rintro eq
    exact other (Option.some.inj eq)
  · intro r v _ _ waits
    rw [net.red] at waits
    exact absurd waits (no_waiter (fun i => ordered.first_free here queue i (cedido q cola) rfl))

def encolado (p : Nat) (m : Mutex) : Mutex := { m with cola_espera := m.cola_espera ++ [p] }

theorem encolado_waiters {w : Nat} (here : s.lista_mutex[j]? = some m) (owned : m.pid_dueno = some d) (r : Nat) :
    (red (s.con_mutex j (encolado w))).Waiter d r ↔ (red s).Waiter d r ∨ r ∈ m.cola_espera ++ [w] := by
  rw [waiter_con_mutex here,waiter_split here]
  simp [encolado,owned]
  tauto

/-- A lock that waits: who has what the owner waits for must be urgent enough. -/
theorem espera_exacta (cmn : cfg.cmn = true) {w : Nat} (positive : ∀ r ∈ m.cola_espera ++ [w], 0 ≤ prio s r)
    (here : s.lista_mutex[j]? = some m) (owned : m.pid_dueno = some d) (exact : ∀ p, ¬ D p → Exacta s p)
    (chain : ∀ p v, ¬ D p → p ≠ d → (red (s.con_mutex j (encolado w))).Waiter p d →
      IsLeast (prio s '' {r | r ∈ m.cola_espera ++ [w]}) v → v < prio s d → prio s p ≤ v) (lives : ¬ D p) :
    Exacta (aplicar_herencia cfg d (m.cola_espera ++ [w]) (s.con_mutex j (encolado w))).1 p := by
  refine aplicar_exacta (s := s.con_mutex j (encolado w)) (N := red s) cmn positive (fun alive => exact d alive)
    (fun _ => encolado_waiters here owned) ?_ chain lives
  intro r alive other
  refine Exact.congr (exact r alive) (fun x => ?_) rfl (fun _ _ => rfl)
  rw [waiter_con_mutex here,waiter_split here]
  have far : m.pid_dueno ≠ some r := by
    rw [owned]
    rintro same
    exact other (Option.some.inj same).symm
  simp [encolado,far]
end handover

/-! ## Which processes the owners are -/

/-- The lists that buscar_proceso_por_pid looks at. -/
def buscadas (cfg : Config) : List Cola := .lista_exec :: .lista_block :: .lista_susp_ready :: .lista_susp_block :: colas_de_ready cfg

def Presente (cfg : Config) (listas : Cola → List Nat) (p : Nat) : Prop := ∃ c ∈ buscadas cfg, p ∈ listas c

theorem presente_encontrado (present : Presente cfg s.listas p) : buscar_proceso_por_pid cfg s p = some p := by
  obtain ⟨c,served,member⟩ := present
  unfold buscar_proceso_por_pid
  cases found : ((Cola.lista_exec :: .lista_block :: .lista_susp_ready :: .lista_susp_block :: colas_de_ready cfg).flatMap s.listas).find?
      (· = p) with
  | none =>
    have missing := List.find?_eq_none.mp found p (List.mem_flatMap.mpr ⟨c,served,member⟩)
    simp at missing
  | some q => rw [find_self found]

section lists
variable {f : Cola → List Nat} {c c' : Cola}

theorem presente_agregar (present : Presente cfg f p) : Presente cfg (Function.update f c (f c ++ [q])) p := by
  obtain ⟨c',served,member⟩ := present
  refine ⟨c',served,?_⟩
  by_cases same : c' = c
  · subst same
    simp [member]
  · rwa [Function.update_of_ne same]

theorem presente_aqui (served : c ∈ buscadas cfg) : Presente cfg (Function.update f c (f c ++ [p])) p :=
  ⟨c,served,by simp⟩

theorem presente_quitar (other : p ≠ q) (present : Presente cfg f p) : Presente cfg (Function.update f c ((f c).erase q)) p := by
  obtain ⟨c',served,member⟩ := present
  refine ⟨c',served,?_⟩
  by_cases same : c' = c
  · subst same
    rw [Function.update_self]
    exact (List.mem_erase_of_ne other).mpr member
  · rwa [Function.update_of_ne same]

/-- A process that is taken off a list and put on one that is looked at. -/
theorem presente_pasa (served : p = q → c' ∈ buscadas cfg) (present : Presente cfg f p) :
    Presente cfg (Function.update (Function.update f c ((f c).erase q)) c' (Function.update f c ((f c).erase q) c' ++ [q])) p := by
  by_cases same : p = q
  · subst same
    exact presente_aqui (served rfl)
  · exact presente_agregar (presente_quitar same present)
end lists

theorem destino_buscada (cmn : cfg.cmn = true) {v : Int} (range : en_rango cfg v = true) : destino cfg v ∈ buscadas cfg := by
  have count : 0 ≤ v ∧ v < cfg.cantidad_colas := by simpa [en_rango] using range
  simp only [destino,cmn,range,if_true,buscadas,colas_de_ready,List.mem_cons,List.mem_map,List.mem_range,reduceCtorEq,false_or]
  exact ⟨v.toNat,by omega,rfl⟩

section present
variable {desde : Nat → Int} {n hora : Nat} {cola : List Nat}

theorem presente_apto (juego : EnJuego (Apto cfg desde n) s) (present : Presente cfg s.listas p) : Apto cfg desde n p := by
  obtain ⟨c,served,member⟩ := present
  refine juego.listas c ?_ ?_ p member
  · rintro rfl
    simp [buscadas,colas_de_ready] at served
    split_ifs at served <;> simp at served
  · rintro rfl
    simp [buscadas,colas_de_ready] at served
    split_ifs at served <;> simp at served

theorem presente_destino (cmn : cfg.cmn = true) (fijo : Fijo cfg desde n s) (juego : EnJuego (Apto cfg desde n) s)
    (present : Presente cfg s.listas p) : destino cfg (s.procesos p).prioridad ∈ buscadas cfg :=
  destino_buscada cmn ((fijo.igual p).trans (presente_apto juego present).2)

theorem presente_herencia (cmn : cfg.cmn = true) {r : Ks × Pila} (what : Herencia cfg q cola s r)
    (range : ∀ v, Candidata s cola v → en_rango cfg v = true) (present : Presente cfg s.listas p) : Presente cfg r.1.listas p := by
  cases what with
  | nada => exact present
  | cambia v => exact present
  | muda v _ low waiter =>
    have served := destino_buscada cmn (range v waiter)
    split_ifs
    · exact presente_pasa (fun _ => served) present
    · exact presente_agregar present

theorem presente_despierta (cmn : cfg.cmn = true) (fijo : Fijo cfg desde n s) (juego : EnJuego (Apto cfg desde n) s) {r : Ks × Pila}
    (what : Despierta cfg hora q s r) (present : Presente cfg s.listas p) : Presente cfg r.1.listas p := by
  have served : p = q → destino cfg (s.procesos q).prioridad ∈ buscadas cfg :=
    fun same => same ▸ presente_destino cmn fijo juego present
  cases what with
  | block | desaloja => exact presente_pasa served present
  | susp_block => exact presente_pasa (fun _ => by simp [buscadas]) present
  | inesperado => exact present

theorem heredar_context (fijo : Fijo cfg desde n s) (juego : EnJuego (Apto cfg desde n) s) {i : Nat} {m : Mutex}
    (here : s.lista_mutex[i]? = some m) (queue : m.cola_espera = q :: cola) :
    Fijo cfg desde n (heredar_mutex cfg i q cola s).1 ∧ EnJuego (Apto cfg desde n) (heredar_mutex cfg i q cola s).1 ∧
      Apto cfg desde n q ∧ ∀ v, Candidata s cola v → en_rango cfg v = true := by
  have waits := juego.espera m (List.mem_of_getElem? here)
  rw [queue] at waits
  have rest : ∀ r ∈ cola, Apto cfg desde n r := fun r member => waits r (List.mem_cons_of_mem q member)
  have taken : Fijo cfg desde n (s.con_mutex i (fun m => { m with pid_dueno := some q, cola_espera := cola })) :=
    fijo.mismas rfl (fun _ => ⟨rfl,rfl⟩)
  exact ⟨taken.herencia (heredar_mutex_cases cfg i q cola s) (waits q List.mem_cons_self) rest,
    (heredar_mutex_juego juego (waits q List.mem_cons_self) rest).1,waits q List.mem_cons_self,fun v what => fijo.candidata what rest⟩

theorem bucle_presente (cmn : cfg.cmn = true) (pid p : Nat) :
    Bucle cfg hora pid (fun t => Presente cfg t.listas p ∧ Fijo cfg desde n t ∧ EnJuego (Apto cfg desde n) t)
      (fun t _ => Presente cfg t.listas p) where
  acaba t held := held.1
  suelta t i m held here owned empty :=
    ⟨held.1,held.2.1.mismas rfl (fun _ => ⟨rfl,rfl⟩),(@bucle_juego _ cfg hora pid).suelta t i m held.2.2 here owned empty⟩
  pausa t i m q cola held here owned queue _ := by
    obtain ⟨_,_,_,range⟩ := heredar_context held.2.1 held.2.2 here queue
    exact presente_herencia cmn (heredar_mutex_cases cfg i q cola t) range held.1
  sigue t i m q cola r held here owned queue quiet what := by
    obtain ⟨fijo,juego,own,range⟩ := heredar_context held.2.1 held.2.2 here queue
    have given := presente_herencia cmn (heredar_mutex_cases cfg i q cola t) range held.1
    have done := presente_despierta cmn fijo juego what given
    exact ⟨fun _ => ⟨done,fijo.despierta what,(despertar_juego what juego own).1⟩,fun _ => done⟩

/-- Outside a BSOD a process stays on the lists until it terminates. -/
theorem efecto_presente (cmn : cfg.cmn = true) {e : Entrada} {a : Accion} {r : Efecto} (effect : efecto cfg hora e a s = some r)
    (fijo : Fijo cfg desde n s) (juego : EnJuego (Apto cfg desde n) s) (named : Tiene (Apto cfg desde n) a)
    (other : a ≠ .manejar_bsod) (lives : muere p a e s = false) (present : Presente cfg s.listas p) : Presente cfg r.ks.listas p := by
  have served : ∀ {q}, p = q → destino cfg (s.procesos q).prioridad ∈ buscadas cfg :=
    fun same => same ▸ presente_destino cmn fijo juego present
  -- A running process that is taken off its list terminates.
  have ends : ∀ q, e.pid? = some q → muere p a e s = (q = p && p ∈ s.listas .lista_exec) →
      Presente cfg (terminar_proceso q s).ks.listas p := by
    intro q arrives what
    rw [lives] at what
    unfold terminar_proceso
    split
    case h_1 x found =>
      obtain rfl := find_self found
      have running := List.mem_of_find?_eq_some found
      refine presente_quitar ?_ present
      rintro rfl
      simp [running] at what
    case h_2 => exact present
  have cedes : ∀ {q j siguiente : Nat} {espera : List Nat} {m : Mutex} {nombre : String} {t : Ks} {r : Ks × Pila}, Apto cfg desde n q →
      buscar_mutex s nombre = some (j,m) → m.cola_espera = siguiente :: espera →
      Devolucion q (s.con_mutex j (fun m => { m with pid_dueno := some siguiente, cola_espera := espera })) t →
      Herencia cfg siguiente espera t r → Presente cfg r.1.listas p := by
    intro q j siguiente espera m nombre t r own found queue what inherits
    have waits := juego.espera m (mem_of_buscar found)
    rw [queue] at waits
    have rest : ∀ x ∈ espera, Apto cfg desde n x := fun x member => waits x (List.mem_cons_of_mem siguiente member)
    have taken := fijo.mismas (t := s.con_mutex j (fun m => { m with pid_dueno := some siguiente, cola_espera := espera })) rfl
      (fun _ => ⟨rfl,rfl⟩)
    have back := taken.devolucion what own (juego.con_mutex (fun _ _ => rest))
    refine presente_herencia cmn inherits (fun v waiter => back.candidata waiter rest) ?_
    cases what <;> exact present
  have move := efecto_mueve effect
  cases move with
  | manejar_bsod busy => exact absurd rfl other
  | manejar_proceso_exit | exit_desconocido | manejar_seg_fault | seg_fault_desconocido =>
    obtain ⟨q,arrives,same⟩ := Option.map_eq_some_iff.mp effect
    rw [← same]
    exact ends q arrives (by simp [muere,arrives])
  | agregar_a_new q => exact presente_agregar present
  | mover_proceso_a_ready q | mover_proceso_de_block_a_ready q | sacar_de_susp_ready q => exact presente_pasa served present
  | manejar_fin_quantum k q => exact presente_pasa served present
  | fin_quantum_invalido k q running moving invalid =>
    exact presente_pasa (fun same => invalid ▸ served same) present
  | fin_quantum_al_frente k q running moving valid =>
    by_cases same : p = q
    · exact ⟨_,served same,by simp [same]⟩
    · obtain ⟨c,looked,member⟩ := presente_quitar (c := .lista_exec) same present
      refine ⟨c,looked,?_⟩
      by_cases here : c = destino cfg (s.procesos q).prioridad
      · subst here
        simpa using .inr member
      · simpa [here] using member
  | desconectar_ociosa k idle =>
    have listas : (quitar_cpu_libre k s).listas = s.listas := by unfold quitar_cpu_libre; split_ifs <;> rfl
    exact listas ▸ present
  | desconectar_ocupada k q busy desaloja one =>
    have listas : (quitar_cpu_libre k s).listas = s.listas := by unfold quitar_cpu_libre; split_ifs <;> rfl
    have start : Presente cfg (quitar_cpu_libre k s).listas p := listas ▸ present
    exact presente_pasa served start
  | liberar_mutex_del_proceso pid i => exact liberar_mutex_del_proceso_rule (bucle_presente cmn pid p) i ⟨present,fijo,juego⟩
  | ceder_mutex pid i q r what silent =>
    exact liberar_mutex_del_proceso_rule (bucle_presente cmn pid p) (i + 1)
      ⟨presente_despierta cmn fijo juego what present,fijo.despierta what,
        (despertar_juego what juego (named q (by simp [en_mano]))).1⟩
  | ceder_mutex_pausa pid i q r what pausa => exact presente_despierta cmn fijo juego what present
  | vence_suspension t q | mover_a_susp_ready q | bloquear_proceso q | bloquear_por_compactacion q =>
    exact presente_pasa (fun _ => by simp [buscadas]) present
  | planificar c q k cola libres served' first free timer | planificar_timer c q k cola libres served' first free timer =>
    by_cases same : p = q
    · exact ⟨.lista_exec,by simp [buscadas],by simp [same]⟩
    · refine presente_agregar ?_
      obtain ⟨c',looked,member⟩ := present
      refine ⟨c',looked,?_⟩
      by_cases here : c' = c
      · subst here
        rw [first] at member
        simpa [first] using (List.mem_cons.mp member).resolve_left same
      · simpa [here] using member
  | lock_espera q k j pid nombre m r found taken what =>
    rcases what with rfl | ⟨_,owner,inherits⟩
    · exact present
    · refine presente_herencia cmn inherits (fun v waiter => ?_) present
      refine (fijo.mismas rfl (fun _ => ⟨rfl,rfl⟩)).candidata waiter (fun x member => ?_)
      rcases List.mem_append.mp member with old | new
      · exact juego.espera m (mem_of_buscar found) x old
      · exact List.mem_singleton.mp new ▸ named q (by simp [en_mano])
  | unlock_sin_espera q k j nombre m t found empty what => cases what <;> exact present
  | unlock_cede q k j siguiente espera nombre m t r found queue what d inherits silent wakes =>
    have given := cedes (named q (by simp [en_mano])) found queue what inherits
    cases wakes <;> exact given
  | unlock_pausa q k j siguiente espera nombre m t r found queue what inherits pausa =>
    exact cedes (named q (by simp [en_mano])) found queue what inherits
  | despertar_siguiente q d wakes => cases wakes <;> exact present
  | intentar_dessuspender_procesos =>
    obtain ⟨c,looked,member⟩ := present
    refine ⟨c,looked,?_⟩
    by_cases here : c = .lista_susp_ready
    · subst here
      simpa [intentar_dessuspender_procesos] using (cfg.sorter.perm _ _).mem_iff.mpr member
    · simpa [intentar_dessuspender_procesos,here] using member
  | fin_compactacion q waits =>
    by_cases same : p = q
    · exact ⟨.lista_exec,by simp [buscadas],by simp [same]⟩
    · exact presente_quitar same (presente_agregar present)
  | _ => exact present
end present

/-! ## One move -/

/-- Neither mutexes nor priorities change. -/
structure Quieta (s t : Ks) : Prop extends MismaRed s t where
  prio : prio t = prio s

theorem Quieta.exacta {t : Ks} (quiet : Quieta s t) (exact : Exacta s p) : Exacta t p := by
  unfold Exacta
  rwa [quiet.red,quiet.base,quiet.prio]

theorem quieta_of {t : Ks} (same : t.lista_mutex = s.lista_mutex)
    (procesos : ∀ q, (t.procesos q).prioridad = (s.procesos q).prioridad ∧
      (t.procesos q).prioridad_original = (s.procesos q).prioridad_original) : Quieta s t :=
  ⟨⟨same,funext (fun q => (procesos q).2)⟩,funext (fun q => (procesos q).1)⟩

/-- The actions that create a process or a mutex, or change the owner of one. -/
def toca_mutex : Accion → Bool
  | .crear_proceso_inicial | .manejar_init_proc _ | .agregar_mutex _ | .manejar_mutex_lock _ _ | .manejar_mutex_unlock _ _
  | .liberar_mutex_del_proceso _ _ | .ceder_mutex _ _ _ => true
  | _ => false

theorem mueve_quieta {hora : Nat} {a : Accion} {r : Efecto} (move : Mueve cfg hora s a r) (other : toca_mutex a = false) :
    Quieta s r.ks := by
  have one : ∀ {t : Ks} (q : Nat), t.lista_mutex = s.lista_mutex → (∀ x, x ≠ q → t.procesos x = s.procesos x) →
      (t.procesos q).prioridad = (s.procesos q).prioridad → (t.procesos q).prioridad_original = (s.procesos q).prioridad_original →
      Quieta s t := by
    intro t q mutexes others first original
    refine quieta_of mutexes (fun x => ?_)
    by_cases same : x = q
    · exact same ▸ ⟨first,original⟩
    · rw [others x same]
      exact ⟨rfl,rfl⟩
  cases move with
  | crear_proceso_inicial | manejar_init_proc | agregar_mutex | lock_desconocido | lock_libre | lock_espera | unlock_desconocido
  | unlock_sin_espera | unlock_cede | unlock_pausa | liberar_mutex_del_proceso | ceder_mutex | ceder_mutex_pausa => cases other
  | desconectar_ociosa k idle => unfold quitar_cpu_libre; split_ifs <;> exact quieta_of rfl (fun _ => ⟨rfl,rfl⟩)
  | desconectar_ocupada k q busy desaloja alone =>
    have procesos : (quitar_cpu_libre k s).procesos = s.procesos := by unfold quitar_cpu_libre; split_ifs <;> rfl
    have mutexes : (quitar_cpu_libre k s).lista_mutex = s.lista_mutex := by unfold quitar_cpu_libre; split_ifs <;> rfl
    refine one q (by simpa using mutexes) (fun x other => by simp [other,procesos]) ?_ ?_ <;> simp [procesos]
  | manejar_io t q k v x kept =>
    obtain ⟨_,_,_,rfl⟩ := manejar_io_some kept
    refine one q rfl (fun x other => by simp [other]) ?_ ?_ <;> simp
  | despertar_siguiente q d wakes =>
    cases wakes <;> (refine one q rfl (fun x other => by simp [other]) ?_ ?_ <;> simp)
  | mover_proceso_a_ready q | mover_proceso_de_block_a_ready q | sacar_de_susp_ready q | mover_a_susp_ready q | bloquear_proceso q
  | bloquear_por_compactacion q | planificar _ q | planificar_timer _ q | vence_quantum _ _ q | vence_suspension _ q
  | vence_en_vano _ q | manejar_proceso_exit _ q | manejar_seg_fault _ q | manejar_fin_quantum _ q | fin_quantum_invalido _ q
  | fin_quantum_al_frente _ q | fin_io_block q | fin_io_susp_block q | fin_io_inesperado q | fin_compactacion q =>
    refine one q rfl (fun x far => ?_) ?_ ?_
    · simp [pasa_a_ready,mover_a_susp_ready,bloquear_proceso,bloquear_por_compactacion,far]
    · simp [pasa_a_ready,mover_a_susp_ready,bloquear_proceso,bloquear_por_compactacion]
    · simp [pasa_a_ready,mover_a_susp_ready,bloquear_proceso,bloquear_por_compactacion]
  | _ => exact quieta_of rfl (fun _ => ⟨rfl,rfl⟩)

/-- Owners and waiters are in `A`, and the priorities of those that are not in `D` are exact. -/
structure Mutexes (A D : Nat → Prop) (s : Ks) : Prop where
  ordenada : Ordenada s
  exactas : ∀ p, ¬ D p → Exacta s p
  duenos : ∀ m ∈ s.lista_mutex, ∀ d, m.pid_dueno = some d → A d
  esperas : ∀ m ∈ s.lista_mutex, ∀ q ∈ m.cola_espera, A q

namespace Mutexes
variable {A D : Nat → Prop}

theorem quieta (held : Mutexes A D s) {t : Ks} (quiet : Quieta s t) : Mutexes A D t :=
  ⟨held.ordenada.congr quiet.mutexes,fun p lives => quiet.exacta (held.exactas p lives),quiet.mutexes ▸ held.duenos,
    quiet.mutexes ▸ held.esperas⟩

/-- A mutex gets another record, and then priorities change. -/
theorem con_mutex (held : Mutexes A D s) {m : Mutex} {f : Mutex → Mutex} {t : Ks} (here : s.lista_mutex[j]? = some m)
    (mutexes : t.lista_mutex = (s.con_mutex j f).lista_mutex) (ordered : Ordenada (s.con_mutex j f))
    (owner : ∀ d, (f m).pid_dueno = some d → A d) (queue : ∀ q ∈ (f m).cola_espera, A q) (exact : ∀ p, ¬ D p → Exacta t p) :
    Mutexes A D t := by
  refine ⟨ordered.congr mutexes,exact,fun m' member => ?_,fun m' member => ?_⟩
  · rw [mutexes] at member
    rcases mem_con_mutex here member with rfl | listed
    · exact owner
    · exact held.duenos m' listed
  · rw [mutexes] at member
    rcases mem_con_mutex here member with rfl | listed
    · exact queue
    · exact held.esperas m' listed

/-- The process that is created has no part in the mutexes. -/
theorem nace (held : Mutexes A D s) (new : ¬ A s.proximo_pid) (k : Option Nat) (prioridad : Int) :
    Mutexes A D (crear_proceso k prioridad s).ks := by
  have others : ∀ q, q ≠ s.proximo_pid → (crear_proceso k prioridad s).ks.procesos q = s.procesos q := by
    intro q far
    simp [crear_proceso,far]
  have first : prio (crear_proceso k prioridad s).ks s.proximo_pid = base (crear_proceso k prioridad s).ks s.proximo_pid := by
    simp [prio,base,crear_proceso,proceso_nuevo]
  refine ⟨held.ordenada.congr rfl,fun p lives => ?_,held.duenos,held.esperas⟩
  by_cases same : p = s.proximo_pid
  · subst same
    have alone : ∀ q, ¬ (red (crear_proceso k prioridad s).ks).Waiter s.proximo_pid q := by
      intro q waits
      obtain ⟨m,member,owner,_⟩ := waiter_iff.mp waits
      exact new (held.duenos m member _ owner)
    exact exact_of (fun q waits => absurd waits (alone q)) first.le (.inl first)
  · have exact := held.exactas p lives
    have mine : base (crear_proceso k prioridad s).ks p = base s p := by simp only [base,others p same]
    refine exact_of (fun q waits => ?_) ?_ ?_
    · obtain ⟨m,member,_,queued⟩ := waiter_iff.mp waits
      have far : q ≠ s.proximo_pid := fun eq => new (eq ▸ held.esperas m member q queued)
      simp only [prio,others p same,others q far]
      exact exact.le_waiter waits
    · rw [mine]
      simp only [prio,others p same]
      exact exact.le_base
    · rw [mine]
      rcases exact.attained with own | ⟨q,waits,eq⟩
      · simp only [prio,others p same]
        exact .inl own
      · refine .inr ⟨q,waits,?_⟩
        obtain ⟨m,member,_,queued⟩ := waiter_iff.mp waits
        have far : q ≠ s.proximo_pid := fun eq => new (eq ▸ held.esperas m member q queued)
        simp only [prio,others p same,others q far]
        exact eq

theorem agrega_mutex (held : Mutexes A D s) (nombre : String) :
    Mutexes A D { s with lista_mutex := s.lista_mutex ++ [⟨nombre,none,[]⟩] } := by
  have at_most : ∀ (i : Nat) (m : Mutex), (s.lista_mutex ++ [(⟨nombre,none,[]⟩ : Mutex)])[i]? = some m →
      s.lista_mutex[i]? = some m ∨ m = ⟨nombre,none,[]⟩ := by
    intro i m here
    rcases lt_or_ge i s.lista_mutex.length with inside | past
    · exact .inl (by rwa [List.getElem?_append_left inside] at here)
    · rw [List.getElem?_append_right past] at here
      exact .inr (List.mem_singleton.mp (List.mem_of_getElem? here))
  have waits_iff : ∀ i q, espera { s with lista_mutex := s.lista_mutex ++ [⟨nombre,none,[]⟩] } i q → espera s i q := by
    rintro i q ⟨m,here,waits⟩
    rcases at_most i m here with old | rfl
    · exact ⟨m,old,waits⟩
    · cases waits
  refine ⟨⟨fun i i' q first second => held.ordenada.una i i' q (waits_iff i q first) (waits_iff i' q second),?_,?_⟩,?_,?_,?_⟩
  · intro m member
    rcases List.mem_append.mp member with old | new
    · exact held.ordenada.sin_repetir m old
    · simp [List.mem_singleton.mp new]
  · intro m member free
    rcases List.mem_append.mp member with old | new
    · exact held.ordenada.libre m old free
    · rw [List.mem_singleton.mp new]
  · intro p lives
    refine (held.exactas p lives).congr (fun q => ?_) rfl (fun _ _ => rfl)
    rw [waiter_iff,waiter_iff]
    simp [or_and_right,exists_or]
  · intro m member d owner
    rcases List.mem_append.mp member with old | new
    · exact held.duenos m old d owner
    · rw [List.mem_singleton.mp new] at owner
      cases owner
  · intro m member q waits
    rcases List.mem_append.mp member with old | new
    · exact held.esperas m old q waits
    · rw [List.mem_singleton.mp new] at waits
      cases waits

end Mutexes

end PlugNPray.MutexPriorities
