import PlugNPray.Shutdown

/-!
Who owns a user mutex, from the moment it is granted to a process until the process
gives it back or dies.
-/
namespace PlugNPray.MutexOwners
open PlugNPray.Scheduler PlugNPray.Handlers PlugNPray.ReadyQueues PlugNPray.Moves PlugNPray.Stacks PlugNPray.Runs PlugNPray.Places

/-! ## Grants and the ends of them -/

def dueno (s : Ks) (j : Nat) : Option Nat := (s.lista_mutex[j]?).bind Mutex.pid_dueno

/-- The move from `s` to `t` grants mutex `j` to a process: it takes it while it is free, or it is the first of those
    that wait and is taken off the queue. -/
inductive Concede (l : Paso) (s t : Planificador) (j p : Nat) : Prop where
  | toma (k : Nat) (nombre : String) (m : Mutex) (top : cima s l.hilo = some (.manejar_mutex_lock p k)) (arrives : l.entrada = .cadena nombre)
      (found : buscar_mutex s.ks nombre = some (j,m)) (free : m.pid_dueno = none)
  | hereda (m m' : Mutex) (before : s.ks.lista_mutex[j]? = some m) (after : t.ks.lista_mutex[j]? = some m')
      (queue : m.cola_espera = p :: m'.cola_espera) (owner : m'.pid_dueno = some p)

/-- The process executes MUTEX_UNLOCK on mutex `j`. -/
def renuncia (p j : Nat) (a : Accion) (e : Entrada) (s : Ks) : Bool :=
  match a with
  | .manejar_mutex_unlock q _ => q = p && (e.cadena?.bind (buscar_mutex s)).any (fun m => m.1 = j)
  | _ => false

/-- The process terminates. -/
def muere (p : Nat) (a : Accion) (e : Entrada) (s : Ks) : Bool :=
  match a with
  | .manejar_proceso_exit _ | .manejar_seg_fault _ => e.pid? = some p && p ∈ s.listas .lista_exec
  | _ => false

/-- Whoever unlocks a mutex owns it, or nobody does. -/
def desbloquea_lo_suyo (a : Accion) (e : Entrada) (s : Ks) : Bool :=
  match a with
  | .manejar_mutex_unlock p _ => (e.cadena?.bind (buscar_mutex s)).all (fun m => m.2.pid_dueno = none || m.2.pid_dueno = some p)
  | _ => true

/-- The rest of a termination. -/
def de_muerte (p : Nat) : Accion → Bool
  | .pedir (.finalizar_proceso q _) | .recibir (.finalizar_proceso q _) | .liberar_mutex_del_proceso q _ | .ceder_mutex q _ _ => q = p
  | _ => false

variable {cfg : Config} {hora : Nat} {s : Ks} {p j : Nat}

theorem here_of_buscar {nombre : String} {m : Mutex} (found : buscar_mutex s nombre = some (j,m)) : s.lista_mutex[j]? = some m := by
  obtain ⟨pre,post,split,here,_⟩ := split_of_first found
  rw [split,← here]
  simp

theorem dueno_of_here {m : Mutex} (here : s.lista_mutex[j]? = some m) : dueno s j = m.pid_dueno := by
  simp [dueno,here]

theorem dueno_modify {i : Nat} {f : Mutex → Mutex} (other : i ≠ j) : dueno (s.con_mutex i f) j = dueno s j := by
  simp [dueno,other]

/-! ## The release at a death -/

/-- The loop of a dead process leaves alone the mutexes of the others. -/
theorem bucle_dueno {pid : Nat} (other : pid ≠ p) :
    Bucle cfg hora pid (fun t => dueno t j = some p) (fun t _ => dueno t j = some p) := by
  have far : ∀ (t : Ks) (i : Nat) (m : Mutex), dueno t j = some p → t.lista_mutex[i]? = some m → m.pid_dueno = some pid → i ≠ j := by
    rintro t i m held here owned rfl
    rw [dueno_of_here here,owned] at held
    cases held
    exact absurd rfl other
  exact {
    acaba := fun t held => held
    suelta := fun t i m held here owned _ => by rwa [dueno_modify (far t i m held here owned)]
    pausa := fun t i m siguiente espera held here owned _ _ => by
      simpa [dueno,heredar_mutex_mutex,far t i m held here owned] using held
    sigue := fun t i m siguiente espera r held here owned _ _ what => by
      have kept : dueno r.1 j = some p := by
        simpa [dueno,despierta_mutex what,heredar_mutex_mutex,far t i m held here owned] using held
      exact ⟨fun _ => kept,fun _ => kept⟩ }

/-! ## One move -/

/-- The owner stays, unless it gives the mutex back, or somebody else unlocks it. -/
theorem efecto_dueno {e : Entrada} {a : Accion} {r : Efecto} (effect : efecto cfg hora e a s = some r) (held : dueno s j = some p)
    (own : desbloquea_lo_suyo a e s = true) (keeps : renuncia p j a e s = false) (alive : de_muerte p a = false) :
    dueno r.ks j = some p := by
  by_cases unlocks : ∃ q k, a = .manejar_mutex_unlock q k
  · obtain ⟨q,k,rfl⟩ := unlocks
    obtain ⟨nombre,arrives,rfl⟩ := Option.map_eq_some_iff.mp effect
    have other : ∀ i m, buscar_mutex s nombre = some (i,m) → i ≠ j := by
      rintro i m found rfl
      have who : m.pid_dueno = some p := (dueno_of_here (here_of_buscar found)).symm.trans held
      have mine : p = q := by simpa [desbloquea_lo_suyo,arrives,found,who] using own
      simp [renuncia,arrives,found,mine] at keeps
    have what := manejar_mutex_unlock_cases cfg q k nombre s
    generalize manejar_mutex_unlock cfg q k nombre s = d at what ⊢
    cases what with
    | desconocido missing => exact held
    | sin_espera i m t found empty what =>
      simpa [dueno,devolucion_mutex what,other i m found] using held
    | cede i siguiente espera m t r found queue what d inherits silent wakes =>
      have mutexes : d.ks.lista_mutex = r.1.lista_mutex := by cases wakes <;> rfl
      simpa [dueno,mutexes,herencia_mutex inherits,devolucion_mutex what,other i m found] using held
    | pausa i siguiente espera m t r found queue what inherits pausa =>
      simpa [dueno,herencia_mutex inherits,devolucion_mutex what,other i m found] using held
  have move := efecto_mueve effect
  have same : ∀ {t : Ks}, t.lista_mutex = s.lista_mutex → dueno t j = some p := fun mutexes => by rwa [dueno,mutexes]
  cases move with
  | unlock_desconocido | unlock_sin_espera | unlock_cede | unlock_pausa => exact absurd ⟨_,_,rfl⟩ unlocks
  | agregar_mutex nombre =>
    obtain ⟨m,here,owner⟩ := Option.bind_eq_some_iff.mp held
    have inside := (List.getElem?_eq_some_iff.mp here).1
    simp [dueno,List.getElem?_append_left inside,here,owner]
  | lock_libre q k i nombre m found free =>
    have other : i ≠ j := by
      rintro rfl
      rw [dueno_of_here (here_of_buscar found),free] at held
      cases held
    rwa [dueno_modify other]
  | lock_espera q k i pid nombre m r found taken what =>
    have queued : dueno (s.con_mutex i (fun m => { m with cola_espera := m.cola_espera ++ [q] })) j = some p := by
      by_cases here : i = j
      · subst here
        rw [dueno_of_here (here_of_buscar found)] at held
        simp [dueno,here_of_buscar found,held]
      · rwa [dueno_modify here]
    rcases what with rfl | ⟨cmn,owner,inherits⟩
    · exact queued
    · rwa [dueno,herencia_mutex inherits]
  | liberar_mutex_del_proceso pid i =>
    exact (liberar_mutex_del_proceso_rule (bucle_dueno (by simpa [de_muerte] using alive)) i held)
  | ceder_mutex pid i q r what silent =>
    exact (liberar_mutex_del_proceso_rule (bucle_dueno (by simpa [de_muerte] using alive)) (i + 1) (same (despierta_mutex what)))
  | ceder_mutex_pausa pid i q r what pausa => exact same (despierta_mutex what)
  | despertar_siguiente q d wakes => cases wakes <;> exact held
  | desconectar_ociosa k idle | desconectar_ocupada k q busy desaloja one =>
    refine same ?_
    change (quitar_cpu_libre k s).lista_mutex = s.lista_mutex
    unfold quitar_cpu_libre
    split_ifs <;> rfl
  | _ => exact held

theorem de_bucle_sin_muerte {pila : Pila} (one : Desalojo pila) : pila.all (fun b => !de_muerte p b) = true := by
  rcases one with rfl | ⟨k,q,rfl⟩ <;> rfl

theorem anuncio_sin_muerte (v : Int) : (anuncio cfg v).all (fun b => !de_muerte p b) = true := by
  unfold anuncio si
  split_ifs <;> rfl

theorem interrupciones_sin_muerte (s : Ks) : (interrupciones s).all (fun b => !de_muerte p b) = true := by
  simp [interrupciones,de_muerte]

theorem tras_respuesta_sin_muerte {q : Pedido} (alive : de_muerte p (.recibir q) = false) (v : Respuesta) :
    (tras_respuesta q v).all (fun b => !de_muerte p b) = true := by
  cases q with
  | crear_proceso q k => cases k <;> cases v <;> rfl
  | finalizar_proceso q k => simpa [tras_respuesta,de_muerte] using alive
  | _ => cases v <;> rfl

/-- The loop of a dead process goes on with that process. -/
theorem bucle_muerte {pid : Nat} (other : pid ≠ p) :
    Bucle cfg hora pid (fun _ => True) (fun _ pila => pila.all (fun b => !de_muerte p b) = true) where
  acaba _ _ := rfl
  suelta _ _ _ _ _ _ _ := trivial
  pausa t i m siguiente espera _ _ _ _ _ := by
    simp only [List.all_append,de_bucle_sin_muerte (herencia_pila (heredar_mutex_cases cfg i siguiente espera t)),Bool.true_and]
    simp [de_muerte,other]
  sigue t i m siguiente espera r _ _ _ _ _ what := by
    refine ⟨fun _ => trivial,fun _ => ?_⟩
    cases what <;> simp [de_muerte,other]

/-- Only a termination leads to the release of the mutexes of the process. -/
theorem efecto_muerte {e : Entrada} {a : Accion} {r : Efecto} (effect : efecto cfg hora e a s = some r)
    (lives : muere p a e s = false) (alive : de_muerte p a = false) : r.sigue.all (fun b => !de_muerte p b) = true := by
  have dies : ∀ pid, e.pid? = some pid → (muere p a e s = (pid = p && p ∈ s.listas .lista_exec)) →
      (terminar_proceso pid s).sigue.all (fun b => !de_muerte p b) = true := by
    intro pid arrives what
    rw [lives] at what
    unfold terminar_proceso
    split
    case h_1 q found =>
      obtain rfl := find_self found
      have running := List.mem_of_find?_eq_some found
      have other : q ≠ p := by
        rintro rfl
        simp [running] at what
      simp [de_muerte,other]
    case h_2 => rfl
  have move := efecto_mueve effect
  cases move with
  | manejar_proceso_exit | exit_desconocido | manejar_seg_fault | seg_fault_desconocido =>
    obtain ⟨pid,arrives,same⟩ := Option.map_eq_some_iff.mp effect
    rw [← same]
    exact dies pid arrives (by simp [muere,arrives])
  | recibir q v => exact tras_respuesta_sin_muerte alive v
  | pedir q free =>
    have same : de_muerte p (.recibir q) = de_muerte p (.pedir q) := by cases q <;> rfl
    simp [same,alive]
  | mover_proceso_a_ready q desaloja one | mover_proceso_de_block_a_ready q desaloja one | desconectar_ocupada k q busy desaloja one
  | sacar_de_susp_ready q i desaloja one =>
    simp only [List.all_append,de_bucle_sin_muerte one,anuncio_sin_muerte,Bool.true_and]
    try rfl
  | manejar_fin_quantum k q running still desaloja one =>
    simp only [List.all_append,de_bucle_sin_muerte one,Bool.true_and]
    rfl
  | liberar_mutex_del_proceso pid i =>
    exact liberar_mutex_del_proceso_rule (bucle_muerte (by simpa [de_muerte] using alive)) i trivial
  | ceder_mutex pid i q r what silent =>
    exact liberar_mutex_del_proceso_rule (bucle_muerte (by simpa [de_muerte] using alive)) (i + 1) trivial
  | ceder_mutex_pausa pid i q r what pausa =>
    have other : pid ≠ p := by simpa [de_muerte] using alive
    cases what <;> simp [de_muerte,other]
  | liberar_cpu_de_quantum k planificable => cases planificable <;> rfl
  | lock_espera q k i pid nombre m r found taken what =>
    have sends : Desalojo r.2 := by
      rcases what with rfl | ⟨cmn,owner,inherits⟩
      · exact desalojo_nil
      · exact herencia_pila inherits
    simp only [List.all_append,de_bucle_sin_muerte sends,Bool.true_and]
    rfl
  | unlock_cede q k i siguiente espera nombre m t r found queue what d inherits silent wakes => cases wakes <;> rfl
  | unlock_pausa q k i siguiente espera nombre m t r found queue what inherits pausa =>
    simp only [List.all_append,de_bucle_sin_muerte (herencia_pila inherits),Bool.true_and]
    rfl
  | despertar_siguiente q d wakes => cases wakes <;> rfl
  | desalojar_todas_las_cpus busy | manejar_bsod busy =>
    simp only [List.all_append,interrupciones_sin_muerte,Bool.true_and]
    rfl
  | tomar_pedido_io t d q cola queue => cases t <;> rfl
  | _ => rfl

theorem mueve_lanza_sin_muerte {a : Accion} {r : Efecto} (move : Mueve cfg hora s a r) :
    Every (fun b => de_muerte p b = false) r.lanza := by
  have none : Every (fun b => de_muerte p b = false) ([] : List Pila) := fun _ member => by cases member
  cases move with
  | iniciar_hilos | cliente_cpu | cliente_io t | lanzar_quantum t k q | bloquear_proceso q por =>
    simp [bloquear_proceso,Every,de_muerte]
  | despertar_siguiente q d wakes => cases wakes <;> exact none
  | _ => exact none

/-! ## Runs -/

/-- Nobody is in the middle of the death of the process. -/
def Vivo (p : Nat) (s : Planificador) : Prop := Every (fun b => de_muerte p b = false) s.hilos

theorem Vivo.here {s : Planificador} {i : Nat} {a : Accion} {resto : Pila} (alive : Vivo p s) (here : s.hilos[i]? = some (a :: resto)) :
    de_muerte p a = false :=
  every_here (p := fun b => de_muerte p b = false) alive here

theorem inicial_vivo (p : Nat) : Vivo p inicial := by
  simp [Vivo,Every,inicial,de_muerte]

theorem paso_vivo {l : Paso} {s t : Planificador} (alive : Vivo p s) (lives : al_mover (fun a e k => !muere p a e k) l s = true)
    (moved : paso cfg l s = some t) : Vivo p t := by
  obtain ⟨a,resto,r,here,_,effect,move,rfl⟩ := paso_avanza moved
  simp only [al_mover,cima_of_here here,Option.all_some,Bool.not_eq_true'] at lives
  refine every_advance alive here (fun b member => ?_) (mueve_lanza_sin_muerte move)
  simpa using List.all_eq_true.mp (efecto_muerte effect lives (alive.here here)) b member

theorem paso_dueno {l : Paso} {s t : Planificador} (alive : Vivo p s) (held : dueno s.ks j = some p)
    (own : al_mover desbloquea_lo_suyo l s = true) (keeps : al_mover (fun a e k => !renuncia p j a e k) l s = true)
    (moved : paso cfg l s = some t) : dueno t.ks j = some p := by
  obtain ⟨a,resto,r,here,_,effect,_,rfl⟩ := paso_avanza moved
  simp only [al_mover,cima_of_here here,Option.all_some,Bool.not_eq_true'] at own keeps
  exact efecto_dueno effect held own keeps (alive.here here)

/-- Whom a mutex is granted to owns it. -/
theorem concede_dueno {l : Paso} {s t : Planificador} (moved : paso cfg l s = some t) (granted : Concede l s t j p) :
    dueno t.ks j = some p := by
  cases granted with
  | toma k nombre m top arrives found free =>
    obtain ⟨a,resto,r,here,_,effect,_,rfl⟩ := paso_avanza moved
    obtain rfl : a = .manejar_mutex_lock p k := Option.some.inj ((cima_of_here here).symm.trans top)
    rw [arrives] at effect
    cases effect
    simp only [manejar_mutex_lock,found,free]
    simp [dueno,here_of_buscar found]
  | hereda m m' before after queue owner => rw [dueno_of_here after,owner]

/-- In a run in which every MUTEX_UNLOCK is of the owner, or of a free mutex: from the move that grants a mutex to a process
    on, while the process neither unlocks it nor terminates, it stays the owner, and no move grants the mutex to another. -/
theorem mutex_kept {before after : List Paso} {l : Paso} {s t u : Planificador} {p j : Nat}
    (guarded : Guarded (paso cfg) (fun l s => al_mover desbloquea_lo_suyo l s = true) (before ++ l :: after) inicial)
    (lives : Guarded (paso cfg) (fun l s => al_mover (fun a e k => !muere p a e k) l s = true) (before ++ l :: after) inicial)
    (reached : run (paso cfg) before inicial = some s) (moved : paso cfg l s = some t) (granted : Concede l s t j p)
    (keeps : Guarded (paso cfg) (fun l s => al_mover (fun a e k => !renuncia p j a e k) l s = true) after t)
    (goes : run (paso cfg) after t = some u) :
    dueno u.ks j = some p ∧
      ∀ l' v q, al_mover desbloquea_lo_suyo l' u = true → al_mover (fun a e k => !renuncia p j a e k) l' u = true →
        paso cfg l' u = some v → Concede l' u v j q → q = p := by
  obtain ⟨lives₀,later⟩ := guarded_append lives
  obtain ⟨here,lives₁⟩ := later s reached
  have alive : Vivo p s := invariant_of_guarded (fun _ _ _ held lives moved => paso_vivo held lives moved) (inicial_vivo p) lives₀ reached
  have own := ((guarded_append guarded).2 s reached).2 t moved
  have kept : Vivo p u ∧ dueno u.ks j = some p :=
    @invariant_of_guarded _ _ _ _ (fun s => Vivo p s ∧ dueno s.ks j = some p)
      (fun _ _ _ held guards moved =>
        ⟨paso_vivo held.1 guards.2.1 moved,paso_dueno held.1 held.2 guards.1 guards.2.2 moved⟩)
      _ _ _ ⟨paso_vivo alive here moved,concede_dueno moved granted⟩ (own.and ((lives₁ t moved).and keeps)) goes
  refine ⟨kept.2,fun l' v q own' keeps' moved' granted' => ?_⟩
  have still := paso_dueno kept.1 kept.2 own' keeps' moved'
  rw [concede_dueno moved' granted'] at still
  exact Option.some.inj still

/-- Process 0 has the mutex when process 1 asks for it. -/
def espera : List Paso := turnos 3 1 ++ llama 4 1 .mutex_lock (.cadena "m") ++ turnos 4 4

theorem toma_concede : ∃ s t, run (paso fifo) por_tomar inicial = some s ∧ paso fifo toma s = some t ∧ Concede toma s t 0 0 := by
  have ends : (run (paso fifo) por_tomar inicial).map (fun s => (cima s 3,buscar_mutex s.ks "m",(paso fifo toma s).isSome)) =
      some (some (.manejar_mutex_lock 0 0),some (0,⟨"m",none,[]⟩),true) := by decide
  obtain ⟨s,reached,ends⟩ := Option.map_eq_some_iff.mp ends
  obtain ⟨top,ends⟩ := Prod.mk.inj ends
  obtain ⟨found,moves⟩ := Prod.mk.inj ends
  obtain ⟨t,moved⟩ := Option.isSome_iff_exists.mp moves
  exact ⟨s,t,reached,moved,.toma 0 "m" _ top rfl found rfl⟩

theorem mutex_kept_espera : ∃ s t u, run (paso fifo) por_tomar inicial = some s ∧ paso fifo toma s = some t ∧ Concede toma s t 0 0 ∧
    run (paso fifo) espera t = some u ∧ dueno u.ks 0 = some 0 ∧
      ∀ l' v q, al_mover desbloquea_lo_suyo l' u = true → al_mover (fun a e k => !renuncia 0 0 a e k) l' u = true →
        paso fifo l' u = some v → Concede l' u v 0 q → q = 0 := by
  obtain ⟨s,t,reached,moved,granted⟩ := toma_concede
  have goes : (run (paso fifo) (por_tomar ++ toma :: espera) inicial).isSome = true := by decide
  obtain ⟨u,goes⟩ := Option.isSome_iff_exists.mp goes
  rw [run_append,reached,Option.bind_some,run_cons,moved,Option.bind_some] at goes
  have keeps : Guarded (paso fifo) (fun l s => al_mover (fun a e k => !renuncia 0 0 a e k) l s = true)
      (por_tomar ++ toma :: espera) inicial := by decide
  have kept := mutex_kept (by decide) (by decide) reached moved granted (((guarded_append keeps).2 s reached).2 t moved) goes
  exact ⟨s,t,u,reached,moved,granted,goes,kept⟩

/-- Process 1 unlocks the mutex of process 0, and locks it. -/
def robo : List Paso := turnos 3 1 ++ llama 4 1 .mutex_unlock (.cadena "m") ++ turnos 4 1 ++ llama 4 1 .mutex_lock (.cadena "m")

/-- Process 0 has done nothing since it was granted the mutex, and process 1 owns it. -/
theorem mutex_stolen : ∃ s t u, run (paso fifo) por_tomar inicial = some s ∧ paso fifo toma s = some t ∧ Concede toma s t 0 0 ∧
    run (paso fifo) robo t = some u ∧
    Guarded (paso fifo) (fun l s => al_mover (fun a e k => !muere 0 a e k) l s = true) (por_tomar ++ toma :: robo) inicial ∧
    Guarded (paso fifo) (fun l s => al_mover (fun a e k => !renuncia 0 0 a e k) l s = true) robo t ∧ dueno u.ks 0 = some 1 := by
  obtain ⟨s,t,reached,moved,granted⟩ := toma_concede
  have ends : (run (paso fifo) (por_tomar ++ toma :: robo) inicial).map (fun u => dueno u.ks 0) = some (some 1) := by decide
  obtain ⟨u,goes,owner⟩ := Option.map_eq_some_iff.mp ends
  rw [run_append,reached,Option.bind_some,run_cons,moved,Option.bind_some] at goes
  have keeps : Guarded (paso fifo) (fun l s => al_mover (fun a e k => !renuncia 0 0 a e k) l s = true)
      (por_tomar ++ toma :: robo) inicial := by decide
  exact ⟨s,t,u,reached,moved,granted,goes,by decide,((guarded_append keeps).2 s reached).2 t moved,owner⟩

end PlugNPray.MutexOwners
