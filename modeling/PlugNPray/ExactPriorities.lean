import PlugNPray.Waiting

/-!
Priority inheritance over whole runs with multilevel queues: every process that lives has the priority of the most urgent of
itself and those that wait for it, as long as no LOCK makes the owner of a mutex more urgent than somebody whom he waits for.
-/
namespace PlugNPray.ExactPriorities
open PlugNPray.Scheduler PlugNPray.Handlers PlugNPray.ReadyQueues PlugNPray.Moves PlugNPray.Stacks PlugNPray.Runs PlugNPray.Places
open PlugNPray.Inheritance PlugNPray.References PlugNPray.Priorities
open PlugNPray.MutexOwners hiding espera
open PlugNPray.MutexPriorities PlugNPray.Waiting

variable {cfg : Config} {hora : Nat} {s t : Ks} {p q j : Nat} {a : Accion} {e : Entrada}

/-! ## What is expected of a move -/

/-- Whoever unlocks a mutex owns it, or nobody does, and he waits for none. -/
def devuelve_lo_suyo (a : Accion) (e : Entrada) (s : Ks) : Bool :=
  match a with
  | .manejar_mutex_unlock p _ => desbloquea_lo_suyo a e s && no_espera s p
  | _ => true

/-- The processes that live and have something that `d` waits for are at least as urgent as `p`. -/
def alcanza (muertos : List Nat) (p d : Nat) (s : Ks) : Bool :=
  s.lista_mutex.all (fun m => d ∉ m.cola_espera || m.pid_dueno.all (fun r => r ∈ muertos || r = d || prio s r ≤ prio s p))

/-- Where a LOCK waits and its owner inherits the priority, nobody has to inherit it from the owner. -/
def hereda_bien (muertos : List Nat) (a : Accion) (e : Entrada) (s : Ks) : Bool :=
  match a, e.cadena?.bind (buscar_mutex s) with
  | .manejar_mutex_lock p _, some (_,m) => m.pid_dueno.all (fun d => prio s d ≤ prio s p || alcanza muertos p d s)
  | _, _ => true

theorem alcanza_iff {muertos : List Nat} {d : Nat} : alcanza muertos p d s = true ↔
    ∀ m ∈ s.lista_mutex, d ∈ m.cola_espera → ∀ r, m.pid_dueno = some r → r ∉ muertos → r ≠ d → prio s r ≤ prio s p := by
  simp only [alcanza,List.all_eq_true,Bool.or_eq_true,decide_eq_true_eq,Option.all_eq_true]
  constructor
  · intro all m member waits r owner lives other
    rcases all m member with far | rest
    · exact absurd waits far
    · rcases rest r owner with (dead | same) | low
      · exact absurd dead lives
      · exact absurd same other
      · exact low
  · intro all m member
    by_cases waits : d ∈ m.cola_espera
    · refine .inr (fun r owner => ?_)
      by_cases lives : r ∈ muertos
      · exact .inl (.inl lives)
      · by_cases other : r = d
        · exact .inl (.inr other)
        · exact .inr (all m member waits r owner lives other)
    · exact .inl waits

/-! ## What waking a process leaves alone -/

theorem despierta_quieta {r : Ks × Pila} (what : Despierta cfg hora p s r) : Quieta s r.1 := by
  refine quieta_of (despierta_mutex what) (fun q => ?_)
  cases what <;> (by_cases same : q = p <;> simp [same,mover_a_susp_ready])

section priorities
variable {desde : Nat → Int} {n : Nat}

theorem no_negativa (fijo : Fijo cfg desde n s) (own : Apto cfg desde n p) : 0 ≤ prio s p := by
  have range : en_rango cfg (s.procesos p).prioridad = true := (fijo.igual p).trans own.2
  have bounds : 0 ≤ (s.procesos p).prioridad ∧ (s.procesos p).prioridad < cfg.cantidad_colas := by simpa [en_rango] using range
  exact bounds.1

theorem positivas_of (fijo : Fijo cfg desde n s) (juego : EnJuego (Apto cfg desde n) s) : Positivas s :=
  fun m member _ waits => no_negativa fijo (juego.espera m member _ waits)

/-! ## The moves on mutexes -/

variable {A D : Nat → Prop}

/-- The mutexes of a dead process, one after the other. -/
theorem bucle_exactas (cmn : cfg.cmn = true) {pid : Nat} (dead : D pid) :
    Bucle cfg hora pid (fun t => Mutexes A D t ∧ Fijo cfg desde n t ∧ EnJuego (Apto cfg desde n) t) (fun t _ => Mutexes A D t) := by
  have hereda : ∀ {t : Ks} {i : Nat} {m : Mutex} {q : Nat} {cola : List Nat}, Mutexes A D t → Fijo cfg desde n t →
      EnJuego (Apto cfg desde n) t → t.lista_mutex[i]? = some m → m.pid_dueno = some pid → m.cola_espera = q :: cola →
      Mutexes A D (heredar_mutex cfg i q cola t).1 := by
    intro t i m q cola held fijo juego here owned queue
    have once := held.ordenada.sin_repetir m (List.mem_of_getElem? here)
    have waits := held.esperas m (List.mem_of_getElem? here)
    rw [queue] at once waits
    refine held.con_mutex (f := cedido q cola) here heredar_mutex_mutex ?_ ?_ ?_ ?_
    · refine held.ordenada.con_mutex here (fun r member => .inl ?_) (List.nodup_cons.mp once).2 (fun free => ?_)
      · rw [queue]
        exact List.mem_cons_of_mem q member
      · cases free
    · intro d owner
      cases owner
      exact waits q List.mem_cons_self
    · exact fun r member => waits r (List.mem_cons_of_mem q member)
    · exact fun r lives => hereda_exacta cmn held.ordenada (positivas_of fijo juego) here owned dead queue held.exactas lives
  refine ⟨fun t held => held.1,fun t i m held here owned empty => ?_,fun t i m q cola held here owned queue _ => ?_,
    fun t i m q cola r held here owned queue quiet what => ?_⟩
  · obtain ⟨held,fijo,juego⟩ := held
    refine ⟨held.con_mutex here rfl ?_ ?_ ?_ (fun r lives => ?_),fijo.mismas rfl (fun _ => ⟨rfl,rfl⟩),
      (@bucle_juego _ cfg hora pid).suelta t i m juego here owned empty⟩
    · exact held.ordenada.con_mutex here (fun r member => .inl member) (by simp [empty]) (fun _ => empty)
    · intro d owner
      cases owner
    · exact held.esperas m (List.mem_of_getElem? here)
    · exact (held.exactas r lives).con_mutex here (fun _ => empty) (fun _ => empty)
  · exact hereda held.1 held.2.1 held.2.2 here owned queue
  · obtain ⟨held,fijo,juego⟩ := held
    obtain ⟨fijo',juego',own,_⟩ := heredar_context fijo juego here queue
    have done := (hereda held fijo juego here owned queue).quieta (despierta_quieta what)
    exact ⟨fun _ => ⟨done,fijo'.despierta what,(despertar_juego what juego' own).1⟩,fun _ => done⟩

/-- The owner that a LOCK waits for, outside the critical section of the LOCK. -/
theorem hereda_bien_iff {muertos : List Nat} {k : Nat} {nombre : String} {m : Mutex} {d : Nat} (arrives : e.cadena? = some nombre)
    (found : buscar_mutex s nombre = some (j,m)) (owned : m.pid_dueno = some d) :
    hereda_bien muertos (.manejar_mutex_lock p k) e s = true ↔ (prio s p < prio s d → alcanza muertos p d s = true) := by
  simp only [hereda_bien,arrives,Option.bind_some,found,owned,Option.all_some,Bool.or_eq_true,decide_eq_true_eq]
  rw [← not_lt,imp_iff_not_or]

/-- The priority that the owner of a mutex inherits from a LOCK is that of the process that locks. -/
theorem least_of_lock {m : Mutex} {d : Nat} {v : Int} (here : s.lista_mutex[j]? = some m) (owned : m.pid_dueno = some d)
    (exact : Exacta s d) (least : IsLeast (prio s '' {r | r ∈ m.cola_espera ++ [p]}) v) (low : v < prio s d) : v = prio s p := by
  obtain ⟨r,member,rfl⟩ := least.1
  rcases List.mem_append.mp member with old | new
  · have waits : (red s).Waiter d r := waiter_iff.mpr ⟨m,List.mem_of_getElem? here,owned,old⟩
    exact absurd (exact.le_waiter waits) (not_le_of_gt low)
  · rw [List.mem_singleton.mp new]

theorem lock_exactas (cmn : cfg.cmn = true) {muertos : List Nat} {k : Nat} {nombre : String} (arrives : e.cadena? = some nombre)
    (held : Mutexes A (· ∈ muertos) s) (positive : Positivas s) (own : A p) (mine : 0 ≤ prio s p) (free : ∀ i, ¬ espera s i p)
    (living : ∀ i q, espera s i q → q ∉ muertos) (seen : ∀ m ∈ s.lista_mutex, ∀ d, m.pid_dueno = some d → d ∉ muertos → Presente cfg s.listas d)
    (reaches : hereda_bien muertos (.manejar_mutex_lock p k) e s = true) :
    Mutexes A (· ∈ muertos) (manejar_mutex_lock cfg p k nombre s).ks := by
  unfold manejar_mutex_lock
  cases found : buscar_mutex s nombre with
  | none => exact held
  | some x =>
    obtain ⟨j,m⟩ := x
    have here := here_of_buscar found
    have listed := List.mem_of_getElem? here
    dsimp only
    cases owned : m.pid_dueno with
    | none =>
      have empty := held.ordenada.libre m listed owned
      refine held.con_mutex here rfl ?_ ?_ (held.esperas m listed) (fun r lives => ?_)
      · exact held.ordenada.con_mutex here (fun r member => .inl member) (by simp [empty]) (fun _ => empty)
      · intro d owner
        cases owner
        exact own
      · exact (held.exactas r lives).con_mutex here (fun _ => empty) (fun _ => empty)
    | some d =>
      have queue : ∀ r ∈ m.cola_espera ++ [p], r ∈ m.cola_espera ∨ r = p := by simp
      have positive' : ∀ r ∈ m.cola_espera ++ [p], 0 ≤ prio s r := by
        intro r member
        rcases queue r member with old | rfl
        · exact positive m listed r old
        · exact mine
      have ordered : Ordenada (s.con_mutex j (encolado p)) := by
        refine held.ordenada.con_mutex here (fun r member => ?_) ?_ ?_
        · rcases queue r member with old | rfl
          · exact .inl old
          · exact .inr free
        · refine List.nodup_append.mpr ⟨held.ordenada.sin_repetir m listed,by simp,fun r old r' new => ?_⟩
          rw [List.mem_singleton.mp new]
          rintro rfl
          exact free j ⟨m,here,old⟩
        · intro none
          cases owned.symm.trans none
      have plain : ∀ r, r ∉ muertos → r ≠ d → Exacta (s.con_mutex j (encolado p)) r := by
        intro r lives other
        refine Exact.congr (held.exactas r lives) (fun x => ?_) rfl (fun _ _ => rfl)
        have far : m.pid_dueno ≠ some r := fun same => other (Option.some.inj (owned.symm.trans same)).symm
        rw [waiter_con_mutex here,waiter_split here]
        simp [encolado,far]
      have owner' : ∀ d', (encolado p m).pid_dueno = some d' → A d' := held.duenos m listed
      have queue' : ∀ r ∈ (encolado p m).cola_espera, A r := by
        intro r member
        rcases queue r member with old | rfl
        · exact held.esperas m listed r old
        · exact own
      dsimp only
      cases looked : buscar_proceso_por_pid cfg (s.con_mutex j (fun m => { m with cola_espera := m.cola_espera ++ [p] })) d with
      | none =>
        refine held.con_mutex here rfl ordered owner' queue' (fun r lives => plain r lives ?_)
        rintro rfl
        have missing := @presente_encontrado cfg (s.con_mutex j (encolado p)) r (seen m listed r owned lives)
        cases missing.symm.trans looked
      | some d' =>
        obtain rfl : d' = d := find_self looked
        dsimp only
        rw [if_pos cmn]
        refine held.con_mutex here (herencia_mutex (aplicar_herencia_cases cmn ..)) ordered owner' queue' (fun r lives => ?_)
        refine espera_exacta cmn positive' here owned held.exactas (fun r v lives other waits least low => ?_) lives
        -- Whoever has what the owner waits for is at least as urgent as the process that locks.
        rcases (waiter_con_mutex here (encolado p)).mp waits with ⟨i,_,owner,before⟩ | ⟨owner,_⟩
        case inr => exact absurd (Option.some.inj (owned.symm.trans owner)).symm other
        have same := least_of_lock here owned (held.exactas d' (living i d' before)) least low
        obtain ⟨m',there,member⟩ := before
        have reach := alcanza_iff.mp ((hereda_bien_iff arrives found owned).mp reaches (same ▸ low))
        rw [same]
        exact reach m' (List.mem_of_getElem? there) member r ((dueno_of_here there).symm.trans owner) lives other

/-- A LOCK that makes the owner of a mutex more urgent than somebody that has what the owner waits for leaves him with a priority
    that is not exact. -/
theorem lock_inexacta (cmn : cfg.cmn = true) {muertos : List Nat} {k : Nat} {nombre : String} (arrives : e.cadena? = some nombre)
    (positive : Positivas s) (mine : 0 ≤ prio s p) (living : ∀ i q, espera s i q → q ∉ muertos)
    (seen : ∀ m ∈ s.lista_mutex, ∀ d, m.pid_dueno = some d → d ∉ muertos → Presente cfg s.listas d)
    (short : hereda_bien muertos (.manejar_mutex_lock p k) e s = false) :
    ∃ r, r ∉ muertos ∧ ¬ Exacta (manejar_mutex_lock cfg p k nombre s).ks r := by
  cases found : buscar_mutex s nombre with
  | none => simp [hereda_bien,arrives,found] at short
  | some x =>
    obtain ⟨j,m⟩ := x
    have here := here_of_buscar found
    have listed := List.mem_of_getElem? here
    cases owned : m.pid_dueno with
    | none => simp [hereda_bien,arrives,found,owned] at short
    | some d =>
      have fails : ¬ (prio s p < prio s d → alcanza muertos p d s = true) := by
        rw [← hereda_bien_iff (k := k) arrives found owned,short]
        exact Bool.false_ne_true
      obtain ⟨low,far⟩ := Classical.not_imp.mp fails
      rw [alcanza_iff] at far
      push Not at far
      obtain ⟨m',member,waiting,r,owner,lives,other,high⟩ := far
      obtain ⟨i,there⟩ := List.getElem?_of_mem member
      have present : Presente cfg s.listas d := seen m listed d owned (living i d ⟨m',there,waiting⟩)
      have looked := @presente_encontrado cfg (s.con_mutex j (encolado p)) d present
      have same : (manejar_mutex_lock cfg p k nombre s).ks =
          (aplicar_herencia cfg d (m.cola_espera ++ [p]) (s.con_mutex j (encolado p))).1 := by
        unfold manejar_mutex_lock
        simp only [found,owned]
        unfold encolado at looked
        rw [looked]
        dsimp only
        rw [if_pos cmn]
        rfl
      refine ⟨r,lives,fun exact => ?_⟩
      rw [same] at exact
      have net := @aplicar_herencia_red cfg (s.con_mutex j (encolado p)) d cmn (m.cola_espera ++ [p])
      have waits : (red (aplicar_herencia cfg d (m.cola_espera ++ [p]) (s.con_mutex j (encolado p))).1).Waiter r d := by
        have apart : i ≠ j := by
          rintro rfl
          cases here.symm.trans there
          exact other (Option.some.inj (owner.symm.trans owned))
        rw [net.red,waiter_con_mutex here]
        exact .inl ⟨i,apart,(dueno_of_here there).trans owner,m',there,waiting⟩
      have least := exact.le_waiter waits
      have positive' : ∀ q ∈ m.cola_espera ++ [p], 0 ≤ prio (s.con_mutex j (encolado p)) q := by
        intro q queued
        rcases List.mem_append.mp queued with old | new
        · exact positive m listed q old
        · rw [List.mem_singleton.mp new]
          exact mine
      have last : p ∈ m.cola_espera ++ [p] := by simp
      cases @aplicar_herencia_hereda cfg (s.con_mutex j (encolado p)) d _ positive' with
      | queda keeps _ => exact absurd (keeps p last) (not_le_of_gt low)
      | sube v lowest _ now =>
        rw [now,Function.update_of_ne other,Function.update_self] at least
        exact absurd (least.trans (lowest.2 ⟨p,last,rfl⟩)) (not_le_of_gt high)

theorem siguiente_quieta {d : Efecto} (wakes : Siguiente p s d) : Quieta s d.ks := by
  cases wakes <;> exact quieta_of rfl (fun q => by by_cases same : q = p <;> simp [same])

theorem unlock_exactas (cmn : cfg.cmn = true) {k : Nat} {nombre : String} (arrives : e.cadena? = some nombre)
    (held : Mutexes A D s) (positive : Positivas s) (gives : devuelve_lo_suyo (.manejar_mutex_unlock p k) e s = true) :
    Mutexes A D (manejar_mutex_unlock cfg p k nombre s).ks := by
  simp only [devuelve_lo_suyo,desbloquea_lo_suyo,arrives,Option.bind_some,Bool.and_eq_true,no_espera_iff] at gives
  obtain ⟨owns,free⟩ := gives
  unfold manejar_mutex_unlock
  cases found : buscar_mutex s nombre with
  | none => exact held
  | some x =>
    obtain ⟨j,m⟩ := x
    have here := here_of_buscar found
    have listed := List.mem_of_getElem? here
    simp only [found,Option.all_some,Bool.or_eq_true,decide_eq_true_eq] at owns
    dsimp only
    cases queue : m.cola_espera with
    | nil =>
      dsimp only
      rw [if_pos cmn]
      refine held.con_mutex (f := fun m => { m with pid_dueno := none }) here devolver_prioridad_red.mutexes ?_ ?_
        (held.esperas m listed) (fun r lives => libera_exacta positive here queue free (held.exactas r lives))
      · exact held.ordenada.con_mutex here (fun r member => .inl member) (by simp [queue]) (fun _ => queue)
      · intro d owner
        cases owner
    | cons siguiente espera =>
      have owned : m.pid_dueno = some p := by
        refine owns.resolve_left (fun none => ?_)
        rw [held.ordenada.libre m listed none] at queue
        cases queue
      have once := held.ordenada.sin_repetir m listed
      have waits := held.esperas m listed
      rw [queue] at once waits
      have given : Mutexes A D (aplicar_herencia cfg siguiente espera
          (devolver_prioridad p (s.con_mutex j (cedido siguiente espera)))).1 := by
        have mutexes := herencia_mutex (aplicar_herencia_cases cmn siguiente espera (devolver_prioridad p (s.con_mutex j (cedido siguiente espera))))
        refine held.con_mutex here (mutexes.trans devolver_prioridad_red.mutexes) ?_ ?_ ?_ (fun r lives => ?_)
        · refine held.ordenada.con_mutex here (fun r member => .inl ?_) (List.nodup_cons.mp once).2 (fun none => ?_)
          · rw [queue]
            exact List.mem_cons_of_mem siguiente member
          · cases none
        · intro d owner
          cases owner
          exact waits siguiente List.mem_cons_self
        · exact fun r member => waits r (List.mem_cons_of_mem siguiente member)
        · exact cede_exacta cmn held.ordenada positive here owned queue free held.exactas lives
      dsimp only
      rw [if_pos cmn]
      split_ifs with silent
      · show Mutexes A D (despertar_siguiente siguiente _).ks
        exact given.quieta (siguiente_quieta (despertar_siguiente_cases siguiente _))
      · exact given

/-- One move, with the processes that have terminated after it. -/
theorem efecto_exactas (cmn : cfg.cmn = true) {muertos : List Nat} {r : Efecto} (effect : efecto cfg hora e a s = some r)
    (held : Mutexes (· < s.proximo_pid) (· ∈ muertos) s) (fijo : Fijo cfg desde n s) (juego : EnJuego (Apto cfg desde n) s)
    (named : Tiene (Apto cfg desde n) a) (living : ∀ i q, espera s i q → q ∉ muertos)
    (seen : ∀ m ∈ s.lista_mutex, ∀ d, m.pid_dueno = some d → d ∉ muertos → Presente cfg s.listas d)
    (dead : ∀ pid, de_muerte pid a = true → pid ∈ muertos) (free : ∀ p k, a = .manejar_mutex_lock p k → ∀ i, ¬ espera s i p)
    (gives : devuelve_lo_suyo a e s = true) (reaches : hereda_bien muertos a e s = true) :
    Mutexes (· < s.proximo_pid) (· ∈ muertos) r.ks := by
  have positive := positivas_of fijo juego
  by_cases other : toca_mutex a = false
  · exact held.quieta (mueve_quieta (efecto_mueve effect) other)
  cases a with
  | crear_proceso_inicial =>
    cases effect
    exact held.nace (lt_irrefl _) none 0
  | manejar_init_proc k =>
    obtain ⟨prioridad,_,rfl⟩ := Option.map_eq_some_iff.mp effect
    exact held.nace (lt_irrefl _) (some k) prioridad
  | agregar_mutex nombre =>
    cases effect
    exact held.agrega_mutex nombre
  | manejar_mutex_lock p k =>
    obtain ⟨nombre,arrives,rfl⟩ := Option.map_eq_some_iff.mp effect
    have own := named p (by simp [en_mano])
    exact lock_exactas cmn arrives held positive (fijo.pids ▸ own.1) (no_negativa fijo own) (free p k rfl) living seen reaches
  | manejar_mutex_unlock p k =>
    obtain ⟨nombre,arrives,rfl⟩ := Option.map_eq_some_iff.mp effect
    exact unlock_exactas cmn arrives held positive gives
  | liberar_mutex_del_proceso pid i =>
    cases effect
    exact liberar_mutex_del_proceso_rule (bucle_exactas cmn (dead pid (by simp [de_muerte]))) i ⟨held,fijo,juego⟩
  | ceder_mutex pid i q =>
    have here := dead pid (by simp [de_muerte])
    have move := efecto_mueve effect
    cases move with
    | ceder_mutex _ _ _ r what silent =>
      exact liberar_mutex_del_proceso_rule (bucle_exactas cmn here) (i + 1) ⟨held.quieta (despierta_quieta what),
        fijo.despierta what,(despertar_juego what juego (named q (by simp [en_mano]))).1⟩
    | ceder_mutex_pausa _ _ _ r what pausa => exact held.quieta (despierta_quieta what)
  | _ => exact absurd rfl other
end priorities

/-! ## Runs -/

theorem mata_of_muere (dies : muere p a e s = true) : mata a e s = some p := by
  cases a with
  | manejar_proceso_exit | manejar_seg_fault =>
    simp only [muere,Bool.and_eq_true,decide_eq_true_eq] at dies
    obtain ⟨arrives,running⟩ := dies
    simp only [mata,arrives,Option.bind_some,buscar_proceso_en_exec]
    cases found : (s.listas .lista_exec).find? (· = p) with
    | none =>
      have missing := List.find?_eq_none.mp found p running
      simp at missing
    | some q => rw [find_self found]
  | _ => cases dies

/-- Dead, or on a list that is looked at. -/
def Visible (cfg : Config) (v : Vigilado) (p : Nat) : Prop := p ∈ v.muertos ∨ Presente cfg v.sistema.ks.listas p

structure Exactas (cfg : Config) (v : Vigilado) : Prop where
  orden : Orden v
  prioridades : ∃ desde, Prioridades cfg desde v.sistema
  vivos : ∀ p, p ∉ v.muertos → Vivo p v.sistema
  juego : EnJuego (Visible cfg v) v.sistema.ks
  pendiente : Every (Tiene (Visible cfg v)) v.sistema.hilos
  duenos : ∀ j d, dueno v.sistema.ks j = some d → Visible cfg v d
  exactas : ∀ p, p ∉ v.muertos → Exacta v.sistema.ks p

theorem inicio_exactas : Exactas cfg inicio where
  orden := inicio_orden
  prioridades := ⟨_,inicial_prioridades cfg⟩
  vivos p _ := inicial_vivo p
  juego := ⟨by simp [inicio,inicial],by simp [inicio,inicial],by simp [inicio,inicial],by simp [inicio,inicial]⟩
  pendiente := by simp [inicio,inicial,Every,Tiene,en_mano]
  duenos := by simp [inicio,inicial,dueno]
  exactas p _ := by
    refine exact_of (fun q waits => ?_) (le_refl _) (.inl rfl)
    obtain ⟨m,member,_⟩ := waiter_iff.mp waits
    cases member

/-- What a run has to respect: locks and deaths in order, and unlocks by the owner. -/
def Debido (l : Paso) (v : Vigilado) : Prop := Regla l v ∧ al_mover devuelve_lo_suyo l v.sistema = true

instance (l : Paso) (v : Vigilado) : Decidable (Debido l v) := inferInstanceAs (Decidable (_ ∧ _))

/-- No LOCK of the move makes an owner more urgent than somebody whom he waits for. -/
def Alcanza (l : Paso) (v : Vigilado) : Prop := al_mover (hereda_bien v.muertos) l v.sistema = true

instance (l : Paso) (v : Vigilado) : Decidable (Alcanza l v) := inferInstanceAs (Decidable (_ = true))

section step
variable {l : Paso} {v w : Vigilado} {resto : Pila} {r : Efecto}

theorem Exactas.mutexes (held : Exactas cfg v) : Mutexes (· < v.sistema.ks.proximo_pid) (· ∈ v.muertos) v.sistema.ks where
  ordenada := held.orden.ordenada
  exactas := held.exactas
  duenos m member d owner := by
    obtain ⟨j,here⟩ := List.getElem?_of_mem member
    exact held.orden.nacidos.duenos j d ((dueno_of_here here).trans owner)
  esperas := held.orden.nacidos.juego.espera

theorem Exactas.seen (held : Exactas cfg v) (m : Mutex) (member : m ∈ v.sistema.ks.lista_mutex) (d : Nat) (owner : m.pid_dueno = some d)
    (lives : d ∉ v.muertos) : Presente cfg v.sistema.ks.listas d := by
  obtain ⟨j,here⟩ := List.getElem?_of_mem member
  exact (held.duenos j d ((dueno_of_here here).trans owner)).resolve_left lives

theorem vigila_avanza (moved : vigila cfg l v = some w) :
    ∃ a resto r, Avanza cfg l v.sistema w.sistema a resto r ∧ w.muertos = (mata a l.entrada v.sistema.ks).toList ++ v.muertos := by
  obtain ⟨t,made,rfl⟩ := Option.map_eq_some_iff.mp moved
  obtain ⟨a,resto,r,advances⟩ := paso_avanza made
  exact ⟨a,resto,r,advances,by simp [cima_of_here advances.here]⟩

theorem paso_of_vigila (moved : vigila cfg l v = some w) : paso cfg l v.sistema = some w.sistema := by
  obtain ⟨t,made,rfl⟩ := Option.map_eq_some_iff.mp moved
  exact made

/-- The processes that are seen are still seen after a move, or have died with it. -/
theorem visible_sigue (cmn : cfg.cmn = true) (held : Exactas cfg v) (moved : vigila cfg l v = some w)
    (outside : w.sistema.ks.bsod_activo = false) (seen : Visible cfg v p) : Visible cfg w p := by
  obtain ⟨a,resto,r,⟨here,_,effect,move,after⟩,dead'⟩ := vigila_avanza moved
  obtain ⟨desde,ranks⟩ := held.prioridades
  rw [after] at outside
  have other := (mueve_bsod move outside).2
  rcases seen with dead | present
  · exact .inl (dead' ▸ List.mem_append_right _ dead)
  · by_cases lives : muere p a l.entrada v.sistema.ks = false
    · have still := efecto_presente cmn effect ranks.fijo ranks.juego (every_here ranks.pendiente here) other lives present
      exact .inr (by rwa [after])
    · have dies := mata_of_muere (Bool.not_eq_false _ ▸ lives)
      exact .inl (by simp [dead',dies])

/-- A process that becomes ready is on a list that is looked at. -/
theorem presente_nueva (cmn : cfg.cmn = true) {s : Ks} {r : Efecto} (move : Mueve cfg hora s (.mover_proceso_a_ready p) r)
    (planned : destino cfg (s.procesos p).prioridad ≠ .lista_ready_invalida) : Presente cfg r.ks.listas p := by
  have range : en_rango cfg (s.procesos p).prioridad = true := by
    by_contra out
    exact planned (by simp [destino,cmn,out])
  cases move with
  | mover_proceso_a_ready _ desaloja one => exact presente_aqui (destino_buscada cmn range)

theorem vigila_exactas (cmn : cfg.cmn = true) (held : Exactas cfg v) (rule : Debido l v) (reaches : Alcanza l v)
    (moved : vigila cfg l v = some w) (outside : w.sistema.ks.bsod_activo = false) : Exactas cfg w := by
  have order := vigila_orden l v w held.orden rule.1 moved
  have made := paso_of_vigila moved
  have keeps : ∀ p, Visible cfg v p → Visible cfg w p := fun p => visible_sigue cmn held moved outside
  obtain ⟨a,resto,r,⟨here,_,effect,move,after⟩,dead⟩ := vigila_avanza moved
  have top := cima_of_here here
  obtain ⟨desde,ranks⟩ := held.prioridades
  have named := every_here held.pendiente here
  have juego := held.juego.mono keeps
  have named' : Tiene (Visible cfg w) a := fun p member => keeps p (named p member)
  have fresh : ∀ p, a = .mover_proceso_a_ready p → destino cfg (v.sistema.ks.procesos p).prioridad ≠ .lista_ready_invalida →
      Visible cfg w p := by
    rintro p rfl planned
    exact .inr (after ▸ presente_nueva cmn move planned)
  have fresh' : ∀ p k, a = .manejar_mutex_lock p k → ∀ i, ¬ espera v.sistema.ks i p := by
    rintro p k rfl
    have due := rule.1
    simp only [Regla,al_mover,top,Option.all_some,en_regla,Bool.and_eq_true,no_espera_iff] at due
    exact due.1
  have gives : devuelve_lo_suyo a l.entrada v.sistema.ks = true := by simpa [al_mover,top] using rule.2
  have inherits : hereda_bien v.muertos a l.entrada v.sistema.ks = true := by simpa [Alcanza,al_mover,top] using reaches
  -- Whoever is not dead after the move lived before it.
  have older : ∀ p, p ∉ w.muertos → p ∉ v.muertos := fun p lives member => lives (dead ▸ List.mem_append_right _ member)
  refine ⟨order,paso_prioridades cmn ranks made,fun p lives => ?_,?_,?_,fun j d owned => ?_,fun p lives => ?_⟩
  · refine paso_vivo (held.vivos p (older p lives)) ?_ made
    simp only [al_mover,top,Option.all_some,Bool.not_eq_true']
    by_contra dies
    have killed := mata_of_muere (Bool.not_eq_false _ ▸ dies)
    exact lives (by simp [dead,killed])
  · exact after ▸ mueve_en_juego move juego named' fresh
  · exact after ▸ every_advance (held.pendiente.mono (fun b tiene p member => keeps p (tiene p member))) here
      (mueve_tiene move juego named') (mueve_lanza_tiene move)
  · rw [after] at owned
    rcases (efecto_cambio effect j).owner_of owned with before | ⟨m,there,waits⟩ | ⟨k,rfl⟩
    · exact keeps d (held.duenos j d before)
    · exact juego.espera m (List.mem_of_getElem? there) d waits
    · exact named' d (by simp [en_mano])
  · have killed : ∀ pid, de_muerte pid a = true → pid ∈ v.muertos := by
      intro pid release
      by_contra living
      exact absurd ((held.vivos pid living).here here) (by simp [release])
    have done := efecto_exactas cmn effect held.mutexes ranks.fijo ranks.juego (every_here ranks.pendiente here) held.orden.vivos
      held.seen killed fresh' gives inherits
    rw [after]
    exact done.exactas p (older p lives)

/-- A LOCK that makes the owner of a mutex too urgent leaves a process that lives with a priority that is not exact. -/
theorem vigila_inexacta (cmn : cfg.cmn = true) (held : Exactas cfg v) (short : ¬ Alcanza l v) (moved : vigila cfg l v = some w) :
    ∃ p, p ∉ w.muertos ∧ ¬ Exacta w.sistema.ks p := by
  obtain ⟨a,resto,r,⟨here,_,effect,_,after⟩,dead⟩ := vigila_avanza moved
  have top := cima_of_here here
  obtain ⟨desde,ranks⟩ := held.prioridades
  have fails : hereda_bien v.muertos a l.entrada v.sistema.ks = false := by
    simpa [Alcanza,al_mover,top] using short
  cases a with
  | manejar_mutex_lock p k =>
    obtain ⟨nombre,arrives,rfl⟩ := Option.map_eq_some_iff.mp effect
    have own := every_here ranks.pendiente here p (by simp [en_mano])
    obtain ⟨q,lives,wrong⟩ := lock_inexacta cmn arrives (positivas_of ranks.fijo ranks.juego) (no_negativa ranks.fijo own)
      held.orden.vivos held.seen fails
    exact ⟨q,by simpa [dead,mata] using lives,by rwa [after]⟩
  | _ => simp [hereda_bien] at fails

end step

theorem fuera_de_bsod {moves : List Paso} {v w : Vigilado} (reached : run (vigila cfg) moves v = some w)
    (outside : w.sistema.ks.bsod_activo = false) : v.sistema.ks.bsod_activo = false := by
  induction moves generalizing v with
  | nil =>
    cases reached
    exact outside
  | cons l rest ih =>
    obtain ⟨u,moved,reached⟩ := Option.bind_eq_some_iff.mp reached
    obtain ⟨a,resto,r,⟨_,_,_,move,after⟩,_⟩ := vigila_avanza moved
    have next := ih reached
    rw [after] at next
    exact (mueve_bsod move next).1

/-- What devolver_prioridad would give a process whose priority is exact. -/
theorem devolver_misma (positive : Positivas s) (exact : Exacta s p) : prio (devolver_prioridad p s) p = prio s p := by
  obtain ⟨v,least,same⟩ := devolver_prioridad_least (p := p) positive
  rw [same,Function.update_self]
  exact least.unique exact

/-- In every state of a run from `v` every process that lives has the least of its own priority and those of all that wait for
    a mutex of it, which is what devolver_prioridad gives it. -/
def Siempre (cfg : Config) (moves : List Paso) (v : Vigilado) : Prop :=
  ∀ before after u, moves = before ++ after → run (vigila cfg) before v = some u →
    ∀ p, p ∉ u.muertos → Exacta u.sistema.ks p ∧ prio (devolver_prioridad p u.sistema.ks) p = prio u.sistema.ks p

theorem Exactas.ahora {v : Vigilado} (held : Exactas cfg v) (lives : p ∉ v.muertos) :
    Exacta v.sistema.ks p ∧ prio (devolver_prioridad p v.sistema.ks) p = prio v.sistema.ks p := by
  obtain ⟨desde,ranks⟩ := held.prioridades
  have exact := held.exactas p lives
  exact ⟨exact,devolver_misma (positivas_of ranks.fijo ranks.juego) exact⟩

theorem siempre_iff (cmn : cfg.cmn = true) {moves : List Paso} {v w : Vigilado} (held : Exactas cfg v)
    (guarded : Guarded (vigila cfg) Debido moves v) (reached : run (vigila cfg) moves v = some w)
    (outside : w.sistema.ks.bsod_activo = false) : Guarded (vigila cfg) Alcanza moves v ↔ Siempre cfg moves v := by
  induction moves generalizing v with
  | nil =>
    constructor
    · rintro _ before after u split arrived p lives
      obtain ⟨rfl,rfl⟩ := List.append_eq_nil_iff.mp split.symm
      cases arrived
      exact held.ahora lives
    · exact fun _ => trivial
  | cons l rest ih =>
    obtain ⟨u,moved,reached⟩ := Option.bind_eq_some_iff.mp reached
    have after := fuera_de_bsod reached outside
    obtain ⟨rule,later⟩ := guarded
    constructor
    · rintro ⟨reaches,more⟩ before back x split arrived p lives
      have next := vigila_exactas cmn held rule reaches moved after
      cases before with
      | nil =>
        cases arrived
        exact held.ahora lives
      | cons l' before =>
        obtain ⟨rfl,rfl⟩ := List.cons.inj split
        rw [run_cons,moved] at arrived
        exact (ih next (later u moved) reached).mp (more u moved) before back x rfl arrived p lives
    · intro always
      have exact := always [l] rest u rfl (by rw [run_cons,moved]; rfl)
      have reaches : Alcanza l v := by
        by_contra short
        obtain ⟨p,lives,wrong⟩ := vigila_inexacta cmn held short moved
        exact wrong (exact p lives).1
      have next := vigila_exactas cmn held rule reaches moved after
      refine ⟨reaches,fun t moved' => ?_⟩
      cases moved.symm.trans moved'
      refine (ih next (later u moved) reached).mpr (fun before back x split arrived => ?_)
      exact always (l :: before) back x (by rw [split]; rfl) (by rw [run_cons,moved]; exact arrived)

/-- With multilevel queues, in a run in which the owners unlock and nobody that waits for a mutex asks for one, unlocks one or
    dies: until a BSOD every priority is exact in every state if and only if no LOCK makes an owner more urgent than a process
    that has something he waits for. -/
theorem priorities_exact (cmn : cfg.cmn = true) {moves : List Paso} {w : Vigilado}
    (guarded : Guarded (vigila cfg) Debido moves inicio) (reached : run (vigila cfg) moves inicio = some w)
    (outside : w.sistema.ks.bsod_activo = false) :
    Guarded (vigila cfg) Alcanza moves inicio ↔ Siempre cfg moves inicio :=
  siempre_iff cmn inicio_exactas guarded reached outside

def tres_colas : Config := ⟨.CMN,[.FIFO,.FIFO,.FIFO],false,PlugNPray.Sorting.insertion_sorter⟩

/-- Process 0 creates one with that priority, for the next CPU, on thread `h`. -/
def nace (prioridad : Int) (h : Nat) : List Paso :=
  llama 3 0 .init_proc (.entero prioridad) ++ turnos 3 1 ++ [{ hilo := 3, entrada := .respuesta .OK }] ++ turnos 3 4 ++
    [{ hilo := 0, entrada := .cliente_cpu }] ++ turnos h 2 ++ turnos 1 6

/-- Process 2 has the mutex a, and process 1 has b and waits for a. -/
def cadena : List Paso :=
  arranque ++ [{ hilo := 0, entrada := .cliente_cpu }] ++ turnos 3 2 ++ turnos 1 6 ++ nace 1 4 ++ nace 2 5 ++
    llama 5 2 .mutex_create (.cadena "a") ++ turnos 5 2 ++ llama 5 2 .mutex_lock (.cadena "a") ++ turnos 5 1 ++
    llama 4 1 .mutex_create (.cadena "b") ++ turnos 4 2 ++ llama 4 1 .mutex_lock (.cadena "b") ++ turnos 4 1 ++
    llama 4 1 .mutex_lock (.cadena "a") ++ turnos 4 4

/-- Process 2 inherits the priority 1. -/
theorem priorities_exact_cadena : ∃ w, run (vigila tres_colas) cadena inicio = some w ∧ prio w.sistema.ks 2 = 1 ∧
    (Guarded (vigila tres_colas) Alcanza cadena inicio ↔ Siempre tres_colas cadena inicio) := by
  have ends : (run (vigila tres_colas) cadena inicio).map (fun v => (prio v.sistema.ks 2,v.sistema.ks.bsod_activo)) = some (1,false) := by
    decide +kernel
  obtain ⟨w,reached,ends⟩ := Option.map_eq_some_iff.mp ends
  obtain ⟨inherited,outside⟩ := Prod.mk.inj ends
  have guarded : Guarded (vigila tres_colas) Debido cadena inicio := by decide +kernel
  exact ⟨w,reached,inherited,priorities_exact rfl guarded reached outside⟩

/-- Process 0 waits for b: process 1 inherits its priority, and process 2, that process 1 waits for, does not. -/
theorem chain_not_exact : ∃ w, run (vigila tres_colas) (cadena ++ llama 3 0 .mutex_lock (.cadena "b") ++ turnos 3 4) inicio = some w ∧
    Guarded (vigila tres_colas) Debido (cadena ++ llama 3 0 .mutex_lock (.cadena "b") ++ turnos 3 4) inicio ∧
    w.sistema.ks.bsod_activo = false ∧ 2 ∉ w.muertos ∧ prio w.sistema.ks 2 = 1 ∧ prio (devolver_prioridad 2 w.sistema.ks) 2 = 0 ∧
    ¬ Exacta w.sistema.ks 2 := by
  have ends : (run (vigila tres_colas) (cadena ++ llama 3 0 .mutex_lock (.cadena "b") ++ turnos 3 4) inicio).map (fun v =>
      (v.sistema.ks.bsod_activo,v.muertos,v.sistema.ks.lista_mutex.map (fun m => (m.pid_dueno,m.cola_espera)))) =
      some (false,[],[(some 2,[1]),(some 1,[0])]) := by
    decide +kernel
  have ranks : (run (vigila tres_colas) (cadena ++ llama 3 0 .mutex_lock (.cadena "b") ++ turnos 3 4) inicio).map (fun v =>
      (prio v.sistema.ks 2,prio (devolver_prioridad 2 v.sistema.ks) 2,prio v.sistema.ks 1)) = some (1,0,0) := by
    decide +kernel
  obtain ⟨w,reached,ends⟩ := Option.map_eq_some_iff.mp ends
  rw [reached] at ranks
  simp only [Prod.mk.injEq] at ends
  obtain ⟨outside,dead,mutexes⟩ := ends
  simp only [Option.map_some,Option.some.injEq,Prod.mk.injEq] at ranks
  obtain ⟨low,again,high⟩ := ranks
  have guarded : Guarded (vigila tres_colas) Debido (cadena ++ llama 3 0 .mutex_lock (.cadena "b") ++ turnos 3 4) inicio := by
    decide +kernel
  refine ⟨w,reached,guarded,outside,by simp [dead],low,again,fun exact => ?_⟩
  obtain ⟨m,member,same⟩ := List.mem_map.mp (mutexes ▸ List.mem_cons_self : (some 2,[1]) ∈ w.sistema.ks.lista_mutex.map (fun m =>
    (m.pid_dueno,m.cola_espera)))
  obtain ⟨owner,queue⟩ := Prod.mk.inj same
  have waits : (red w.sistema.ks).Waiter 2 1 := waiter_iff.mpr ⟨m,member,owner,by simp [queue]⟩
  have least := exact.le_waiter waits
  rw [low,high] at least
  exact absurd least (by decide)

end PlugNPray.ExactPriorities
