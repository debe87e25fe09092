import PlugNPray.IoRequests
import PlugNPray.Waiting

/-!
Processes that block for a user mutex: who is still in its queue, and who is woken up
when he leaves it.
-/
namespace PlugNPray.LockWakeUps
open PlugNPray.Scheduler PlugNPray.Handlers PlugNPray.ReadyQueues PlugNPray.Moves PlugNPray.Stacks PlugNPray.Runs
open PlugNPray.MutexOwners (dueno dueno_of_here here_of_buscar)
open PlugNPray.IoRequests (bloqueado reposa mueve_bloqueado despierta_bloqueado liberar_bloqueado)
open PlugNPray.MutexPriorities (toca_mutex mueve_quieta)
open PlugNPray.Waiting (cola cola_of_here modify_here efecto_cambio)

/-! ## What is seen of a run -/

structure Vigilado where
  sistema : Planificador
  /-- The mutex for which a process was blocked last, if it was for one. -/
  motivo : Nat → Option Nat

def anotar (a : Option Accion) (motivo : Nat → Option Nat) : Nat → Option Nat :=
  match a with
  | some (.bloquear_proceso p (.mutex j)) => Function.update motivo p (some j)
  | some (.bloquear_proceso p (.io _)) | some (.bloquear_por_compactacion p) => Function.update motivo p none
  | _ => motivo

def vigila (cfg : Config) (l : Paso) (v : Vigilado) : Option Vigilado :=
  (paso cfg l v.sistema).map (fun t => ⟨t,anotar (cima v.sistema l.hilo) v.motivo⟩)

def inicio : Vigilado := ⟨inicial,fun _ => none⟩

/-- The move does not block a process for a mutex whose queue it has left. -/
def todavia_en_cola (a : Accion) (_ : Entrada) (s : Ks) : Bool :=
  match a with
  | .bloquear_proceso p (.mutex j) => p ∈ cola s j
  | _ => true

/-- The process asks for a mutex that it neither owns nor waits for already. -/
def pide_lo_ajeno (a : Accion) (e : Entrada) (s : Ks) : Bool :=
  match a, e.cadena?.bind (buscar_mutex s) with
  | .manejar_mutex_lock p _, some (_,m) => m.pid_dueno ≠ some p && p ∉ m.cola_espera
  | _, _ => true

def espera_bien (a : Accion) (e : Entrada) (s : Ks) : Bool := todavia_en_cola a e s && pide_lo_ajeno a e s

/-- The actions that wake a waiter up. -/
def despierta (p : Nat) : Accion → Bool
  | .despertar_siguiente q | .ceder_mutex _ _ q | .mover_proceso_de_block_a_ready q | .mover_a_susp_ready q => q = p
  | _ => false

/-- A process that is blocked for a mutex is in its queue, or a thread is waking it up. -/
def EnCola (v : Vigilado) : Prop := ∀ p j, v.motivo p = some j → bloqueado (v.sistema.ks.procesos p).estado = true →
  p ∈ cola v.sistema.ks j ∨ Pending (fun a => despierta p a = true) v.sistema.hilos

variable {cfg : Config} {hora : Nat} {s t : Ks} {p q i j : Nat}

/-! ## A waiter leaves the queue -/

theorem cola_of_mutexes (same : t.lista_mutex = s.lista_mutex) : cola t j = cola s j := by
  rw [cola,same,cola]

theorem cola_modify {f : Mutex → Mutex} {m : Mutex} (same : t.lista_mutex = s.lista_mutex.modify i f)
    (here : s.lista_mutex[i]? = some m) : cola t j = if i = j then (f m).cola_espera else cola s j := by
  split_ifs with eq
  · subst eq
    exact cola_of_here (modify_here same here)
  · rw [cola,same,List.getElem?_modify_ne _ _ eq,cola]

/-- The first waiter is given the mutex: everyone else stays where he is. -/
theorem cola_cede {m : Mutex} {espera : List Nat}
    (same : t.lista_mutex = s.lista_mutex.modify i (fun m => { m with pid_dueno := some q, cola_espera := espera }))
    (here : s.lista_mutex[i]? = some m) (queue : m.cola_espera = q :: espera) (queued : p ∈ cola s j) : p = q ∨ p ∈ cola t j := by
  rw [cola_modify same here]
  split_ifs with eq
  · subst eq
    rw [cola_of_here here,queue] at queued
    exact List.mem_cons.mp queued
  · exact .inr queued

theorem cola_suelta {m : Mutex} (same : t.lista_mutex = s.lista_mutex.modify i (fun m => { m with pid_dueno := none }))
    (here : s.lista_mutex[i]? = some m) : cola t j = cola s j := by
  rw [cola_modify same here]
  split_ifs with eq
  · subst eq
    exact (cola_of_here here).symm
  · rfl

/-- The heir of a dead owner is not blocked any more. -/
theorem despierta_libera {r : Ks × Pila} (what : Despierta cfg hora q s r) : bloqueado (r.1.procesos q).estado = false := by
  cases what with
  | block blocked | desaloja blocked => simp [bloqueado]
  | susp_block suspended => simp [mover_a_susp_ready,bloqueado]
  | inesperado other other' => simp [bloqueado,other,other']

/-- The next owner is not blocked any more, or the thread goes on to wake it up. -/
theorem siguiente_despierta {d : Efecto} (wakes : Siguiente q s d) (now : bloqueado (d.ks.procesos q).estado = true) :
    ∃ b ∈ d.sigue, despierta q b = true := by
  cases wakes with
  | block blocked | susp_block suspended => simp [despierta]
  | inesperado other other' => simp [bloqueado,other,other'] at now

/-- The loop over the mutexes of a dead process leaves a waiter in the queue, wakes it up, or stops before it does. -/
theorem liberar_en_cola (pid i : Nat) (queued : p ∈ cola s j)
    (now : bloqueado ((liberar_mutex_del_proceso cfg hora pid i s).1.procesos p).estado = true) :
    p ∈ cola (liberar_mutex_del_proceso cfg hora pid i s).1 j ∨
      ∃ b ∈ (liberar_mutex_del_proceso cfg hora pid i s).2, despierta p b = true := by
  have body : Bucle cfg hora pid (fun t => bloqueado (t.procesos p).estado = true → p ∈ cola t j)
      (fun t pila => bloqueado (t.procesos p).estado = true → p ∈ cola t j ∨ ∃ b ∈ pila, despierta p b = true) :=
    { acaba := fun _ kept now => .inl (kept now)
      suelta := by
        intro t i m kept here owned empty now
        rw [cola_suelta (m := m) rfl here]
        exact kept now
      pausa := by
        intro t i m siguiente espera kept here owned queue pausa now
        rw [heredar_mutex_estado] at now
        rcases cola_cede heredar_mutex_mutex here queue (kept now) with rfl | still
        · exact .inr ⟨.ceder_mutex pid i p,by simp,by simp [despierta]⟩
        · exact .inl still
      sigue := by
        intro t i m siguiente espera r kept here owned queue silent what
        have stays : bloqueado (r.1.procesos p).estado = true → p ∈ cola r.1 j := by
          intro now
          have before := despierta_bloqueado what now
          rw [heredar_mutex_estado] at before
          rcases cola_cede heredar_mutex_mutex here queue (kept before) with rfl | still
          · rw [despierta_libera what] at now
            cases now
          · rw [cola_of_mutexes (despierta_mutex what)]
            exact still
        exact ⟨fun _ => stays,fun _ now => .inl (stays now)⟩ }
  exact liberar_mutex_del_proceso_rule body i (fun _ => queued) now

/-- A waiter stays in the queue, or the thread that takes it off goes on to wake it up. -/
theorem mueve_en_cola {a : Accion} {r : Efecto} (move : Mueve cfg hora s a r) (queued : p ∈ cola s j)
    (now : bloqueado (r.ks.procesos p).estado = true) : p ∈ cola r.ks j ∨ ∃ b ∈ r.sigue, despierta p b = true := by
  by_cases touches : toca_mutex a = false
  · rw [cola_of_mutexes (mueve_quieta move touches).mutexes]
    exact .inl queued
  cases move with
  | agregar_mutex nombre =>
    refine .inl ?_
    cases here : s.lista_mutex[j]? with
    | none => simp [cola,here] at queued
    | some m =>
      have kept : (s.lista_mutex ++ [⟨nombre,none,[]⟩])[j]? = some m := by
        rw [List.getElem?_append_left (List.getElem?_eq_some_iff.mp here).1,here]
      rw [cola_of_here here] at queued
      rw [cola_of_here kept]
      exact queued
  | lock_libre q k i nombre m found free =>
    refine .inl ?_
    rw [cola_modify (f := fun m => { m with pid_dueno := some q }) rfl (here_of_buscar found)]
    split_ifs with eq
    · subst eq
      rw [cola_of_here (here_of_buscar found)] at queued
      exact queued
    · exact queued
  | lock_espera q k i pid nombre m r found taken what =>
    have same : r.1.lista_mutex = s.lista_mutex.modify i (fun m => { m with cola_espera := m.cola_espera ++ [q] }) := by
      rcases what with rfl | ⟨_,_,inherits⟩
      · rfl
      · exact herencia_mutex inherits
    refine .inl ?_
    rw [cola_modify same (here_of_buscar found)]
    split_ifs with eq
    · subst eq
      rw [cola_of_here (here_of_buscar found)] at queued
      exact List.mem_append_left [q] queued
    · exact queued
  | unlock_sin_espera q k i nombre m t found empty what =>
    refine .inl ?_
    rw [cola_suelta (m := m) ((devolucion_mutex what).trans rfl) (here_of_buscar found)]
    exact queued
  | unlock_cede q k i siguiente espera nombre m t r found queue what d inherits silent wakes =>
    have given : r.1.lista_mutex = _ := (herencia_mutex inherits).trans (devolucion_mutex what)
    rcases cola_cede given (here_of_buscar found) queue queued with rfl | still
    · obtain ⟨b,member,wakes⟩ := siguiente_despierta wakes now
      exact .inr ⟨b,List.mem_append_left _ member,wakes⟩
    · have kept : d.ks.lista_mutex = r.1.lista_mutex := by cases wakes <;> rfl
      rw [cola_of_mutexes kept]
      exact .inl still
  | unlock_pausa q k i siguiente espera nombre m t r found queue what inherits pausa =>
    have given : r.1.lista_mutex = _ := (herencia_mutex inherits).trans (devolucion_mutex what)
    rcases cola_cede given (here_of_buscar found) queue queued with rfl | still
    · exact .inr ⟨.despertar_siguiente p,by simp,by simp [despierta]⟩
    · exact .inl still
  | liberar_mutex_del_proceso pid i => exact liberar_en_cola pid i queued now
  | ceder_mutex pid i q r what silent =>
    rw [← cola_of_mutexes (j := j) (despierta_mutex what)] at queued
    exact liberar_en_cola pid (i + 1) queued now
  | ceder_mutex_pausa pid i q r what pausa =>
    rw [cola_of_mutexes (despierta_mutex what)]
    exact .inl queued
  | lock_desconocido | unlock_desconocido | crear_proceso_inicial | manejar_init_proc => exact .inl queued
  | _ => exact absurd rfl touches

/-- A thread that is to wake a process up does so, or goes on to. -/
theorem efecto_despierta {a : Accion} {e : Entrada} {r : Efecto} (effect : efecto cfg hora e a s = some r)
    (wakes : despierta p a = true) (now : bloqueado (r.ks.procesos p).estado = true) : ∃ b ∈ r.sigue, despierta p b = true := by
  have move := efecto_mueve effect
  cases move with
  | despertar_siguiente q d next =>
    obtain rfl : q = p := by simpa [despierta] using wakes
    exact siguiente_despierta next now
  | ceder_mutex pid i q r what silent =>
    obtain rfl : q = p := by simpa [despierta] using wakes
    have before := liberar_bloqueado now
    rw [despierta_libera what] at before
    cases before
  | ceder_mutex_pausa pid i q r what pausa =>
    obtain rfl : q = p := by simpa [despierta] using wakes
    rw [despierta_libera what] at now
    cases now
  | mover_proceso_de_block_a_ready q =>
    obtain rfl : q = p := by simpa [despierta] using wakes
    simp [pasa_a_ready,bloqueado] at now
  | mover_a_susp_ready q =>
    obtain rfl : q = p := by simpa [despierta] using wakes
    simp [mover_a_susp_ready,bloqueado] at now
  | _ => cases wakes

/-! ## Runs -/

/-- The reason for which a process is blocked after a move: it was so before, or this move blocks it for the mutex. -/
theorem anotar_cases {a : Accion} {e : Entrada} {r : Efecto} {motivo : Nat → Option Nat} (effect : efecto cfg hora e a s = some r)
    (why : anotar (some a) motivo p = some j) (now : bloqueado (r.ks.procesos p).estado = true) :
    a = .bloquear_proceso p (.mutex j) ∨ motivo p = some j ∧ bloqueado (s.procesos p).estado = true := by
  rcases mueve_bloqueado (efecto_mueve effect) now with before | ⟨m,rfl⟩ | rfl
  · by_cases blocks : (∃ q m, a = .bloquear_proceso q m) ∨ ∃ q, a = .bloquear_por_compactacion q
    · rcases blocks with ⟨q,m,rfl⟩ | ⟨q,rfl⟩
      · cases m with
        | io t =>
          by_cases same : p = q
          · subst same
            simp [anotar] at why
          · exact .inr ⟨by simpa [anotar,same] using why,before⟩
        | mutex i =>
          by_cases same : p = q
          · subst same
            obtain rfl : i = j := by simpa [anotar] using why
            exact .inl rfl
          · exact .inr ⟨by simpa [anotar,same] using why,before⟩
      · by_cases same : p = q
        · subst same
          simp [anotar] at why
        · exact .inr ⟨by simpa [anotar,same] using why,before⟩
    · push Not at blocks
      have same : anotar (some a) motivo = motivo := by
        cases a <;> first | rfl | exact absurd rfl (blocks.1 _ _) | exact absurd rfl (blocks.2 _)
      rw [same] at why
      exact .inr ⟨why,before⟩
  · cases m with
    | io t => simp [anotar] at why
    | mutex i =>
      obtain rfl : i = j := by simpa [anotar] using why
      exact .inl rfl
  · simp [anotar] at why

theorem vigila_en_cola {l : Paso} {v w : Vigilado} (held : EnCola v) (guard : al_mover todavia_en_cola l v.sistema = true)
    (moved : vigila cfg l v = some w) : EnCola w := by
  obtain ⟨t,advances,rfl⟩ := Option.map_eq_some_iff.mp moved
  obtain ⟨a,resto,r,here,alive,effect,move,rfl⟩ := paso_avanza advances
  have top := cima_of_here here
  intro p j why now
  dsimp only at why now ⊢
  rw [top] at why
  have goes : p ∈ cola v.sistema.ks j → p ∈ cola r.ks j ∨
      Pending (fun a => despierta p a = true) (advance v.sistema.hilos l.hilo r.sigue resto r.lanza) := by
    intro queued
    refine (mueve_en_cola move queued now).imp_right ?_
    rintro ⟨b,member,wakes⟩
    exact pending_next here ⟨b,List.mem_append_left resto member,wakes⟩
  rcases anotar_cases effect why now with rfl | ⟨was,before⟩
  · have still : p ∈ cola v.sistema.ks j := by simpa [al_mover,top,todavia_en_cola] using guard
    exact goes still
  · rcases held p j was before with queued | waking
    · exact goes queued
    · rcases pending_advance waking here with wakes | still
      · obtain ⟨b,member,wakes⟩ := efecto_despierta effect wakes now
        exact .inr (pending_next here ⟨b,List.mem_append_left resto member,wakes⟩)
      · exact .inr still

theorem inicio_en_cola : EnCola inicio := by
  intro p j why
  cases why

/-- Nobody waits for a mutex twice, or for one that is free or his own. -/
structure Ajeno (s : Ks) (j : Nat) : Prop where
  una_vez : (cola s j).Nodup
  libre : dueno s j = none → cola s j = []
  otro : ∀ p, dueno s j = some p → p ∉ cola s j

theorem ajeno_of_same (held : Ajeno s j) (same : t.lista_mutex[j]? = s.lista_mutex[j]?) : Ajeno t j := by
  have queue : cola t j = cola s j := by rw [cola,cola,same]
  have owner : dueno t j = dueno s j := by rw [dueno,dueno,same]
  exact ⟨queue ▸ held.una_vez,fun free => queue ▸ held.libre (owner ▸ free),fun p owned => queue ▸ held.otro p (owner ▸ owned)⟩

/-- The record that a mutex gets. -/
theorem ajeno_of_here {m : Mutex} (here : s.lista_mutex[j]? = some m) (once : m.cola_espera.Nodup)
    (free : m.pid_dueno = none → m.cola_espera = []) (other : ∀ p, m.pid_dueno = some p → p ∉ m.cola_espera) : Ajeno s j := by
  have queue := cola_of_here here
  have owner := dueno_of_here here
  exact ⟨queue ▸ once,fun none => queue ▸ free (owner ▸ none),fun p owned => queue ▸ other p (owner ▸ owned)⟩

theorem efecto_ajeno {a : Accion} {e : Entrada} {r : Efecto} (effect : efecto cfg hora e a s = some r)
    (asks : pide_lo_ajeno a e s = true) (held : Ajeno s j) : Ajeno r.ks j := by
  cases efecto_cambio effect j with
  | igual same quiet => exact ajeno_of_same held same
  | crea nombre past now => exact ajeno_of_here now List.nodup_nil (fun _ => rfl) (fun _ _ => List.not_mem_nil)
  | toma p k nombre m top arrives found free now =>
    have here := here_of_buscar found
    have empty : m.cola_espera = [] := cola_of_here here ▸ held.libre ((dueno_of_here here).trans free)
    refine ajeno_of_here now (by simp [empty]) (fun _ => empty) (fun q _ => ?_)
    simp [empty]
  | encola p k nombre m top arrives found taken now =>
    have here := here_of_buscar found
    have once : m.cola_espera.Nodup := cola_of_here here ▸ held.una_vez
    subst top
    obtain ⟨other,fresh⟩ : m.pid_dueno ≠ some p ∧ p ∉ m.cola_espera := by simpa [pide_lo_ajeno,arrives,found] using asks
    refine ajeno_of_here now ?_ (fun free => absurd free taken) (fun q owned queued => ?_)
    · refine List.nodup_append.mpr ⟨once,List.nodup_singleton p,fun q old q' new => ?_⟩
      rw [List.mem_singleton.mp new]
      rintro rfl
      exact fresh old
    · rcases List.mem_append.mp queued with old | new
      · have apart := held.otro q ((dueno_of_here here).trans owned)
        rw [cola_of_here here] at apart
        exact apart old
      · rw [List.mem_singleton.mp new] at owned
        exact other owned
  | suelta m other here empty now => exact ajeno_of_here now (by simp [empty]) (fun _ => empty) (fun q owned => by cases owned)
  | cede m q rest other here queue now =>
    have once : m.cola_espera.Nodup := cola_of_here here ▸ held.una_vez
    rw [queue] at once
    obtain ⟨apart,later⟩ := List.nodup_cons.mp once
    refine ajeno_of_here now later (fun free => by cases free) (fun q' owned => ?_)
    obtain rfl : q = q' := Option.some.inj owned
    exact apart

/-- What holds of a run in which the waits are in order. -/
structure EnEspera (v : Vigilado) : Prop where
  en_cola : EnCola v
  ajenos : ∀ j, Ajeno v.sistema.ks j

theorem vigila_en_espera {l : Paso} {v w : Vigilado} (held : EnEspera v) (guard : al_mover espera_bien l v.sistema = true)
    (moved : vigila cfg l v = some w) : EnEspera w := by
  obtain ⟨t,advances,rfl⟩ := Option.map_eq_some_iff.mp moved
  obtain ⟨a,resto,r,here,alive,effect,move,rfl⟩ := paso_avanza advances
  have both : espera_bien a l.entrada v.sistema.ks = true := by simpa [al_mover,cima_of_here here] using guard
  obtain ⟨queued,asks⟩ := Bool.and_eq_true_iff.mp both
  constructor
  · refine vigila_en_cola held.en_cola ?_ moved
    simpa [al_mover,cima_of_here here] using queued
  · exact fun j => efecto_ajeno effect asks (held.ajenos j)

theorem inicio_en_espera : EnEspera inicio where
  en_cola := inicio_en_cola
  ajenos j := ⟨by simp [inicio,inicial,cola],by simp [inicio,inicial,cola],by simp [inicio,inicial,dueno]⟩

/-- In a run in which no process is blocked for a mutex once it has left the queue, or asks for one that it owns or waits for,
    a process that is blocked for a mutex is still in its queue whenever no thread is between two steps, and does not own it. -/
theorem no_lost_wakeup {labels : List Paso} {v : Vigilado}
    (guarded : Guarded (vigila cfg) (fun l v => al_mover espera_bien l v.sistema = true) labels inicio)
    (reached : run (vigila cfg) labels inicio = some v) (rest : Every (fun a => reposa [] a = true) v.sistema.hilos)
    (why : v.motivo p = some j) (blocked : bloqueado (v.sistema.ks.procesos p).estado = true) :
    p ∈ cola v.sistema.ks j ∧ dueno v.sistema.ks j ≠ some p := by
  have held : EnEspera v :=
    invariant_of_guarded (fun _ _ _ held guard moved => vigila_en_espera held guard moved) inicio_en_espera guarded reached
  have still : p ∈ cola v.sistema.ks j := by
    rcases held.en_cola p j why blocked with queued | ⟨pila,member,a,listed,wakes⟩
    · exact queued
    · have quiet := rest pila member a listed
      cases a with
      | despertar_siguiente | ceder_mutex | mover_proceso_de_block_a_ready | mover_a_susp_ready => cases quiet
      | _ => cases wakes
  exact ⟨still,fun owned => (held.ajenos j).otro p owned still⟩

theorem no_lost_wakeup_candado : ∃ v, run (vigila fifo) candado inicio = some v ∧ v.motivo 1 = some 0 ∧
    bloqueado (v.sistema.ks.procesos 1).estado = true ∧ 1 ∈ cola v.sistema.ks 0 ∧ dueno v.sistema.ks 0 ≠ some 1 := by
  have ends : (run (vigila fifo) candado inicio).map (fun v => (v.motivo 1,bloqueado (v.sistema.ks.procesos 1).estado,
      v.sistema.hilos.all (fun pila => pila.all (reposa [])))) = some (some 0,true,true) := by decide
  obtain ⟨v,reached,ends⟩ := Option.map_eq_some_iff.mp ends
  obtain ⟨why,ends⟩ := Prod.mk.inj ends
  obtain ⟨blocked,rest⟩ := Prod.mk.inj ends
  exact ⟨v,reached,why,blocked,no_lost_wakeup (by decide) reached (every_of_all rest) why blocked⟩

/-- Process 0 has the mutex; process 1 is put on its queue and, before it is blocked, process 0 unlocks. -/
def cesion_temprana : List Paso :=
  por_tomar ++ [toma] ++ turnos 3 1 ++ llama 4 1 .mutex_lock (.cadena "m") ++ llama 3 0 .mutex_unlock (.cadena "m") ++ turnos 3 1 ++
    turnos 4 4

/-- Process 1 owns the mutex that it is blocked for, and no thread is going to wake it up. -/
theorem wakeup_lost : ∃ v, run (vigila fifo) cesion_temprana inicio = some v ∧
    Every (fun a => reposa [] a = true) v.sistema.hilos ∧ v.motivo 1 = some 0 ∧
    bloqueado (v.sistema.ks.procesos 1).estado = true ∧ 1 ∉ cola v.sistema.ks 0 ∧ dueno v.sistema.ks 0 = some 1 := by
  have ends : (run (vigila fifo) cesion_temprana inicio).map (fun v => (v.motivo 1,bloqueado (v.sistema.ks.procesos 1).estado,
      v.sistema.hilos.all (fun pila => pila.all (reposa [])),cola v.sistema.ks 0,dueno v.sistema.ks 0)) =
        some (some 0,true,true,[],some 1) := by decide
  obtain ⟨v,reached,ends⟩ := Option.map_eq_some_iff.mp ends
  obtain ⟨why,ends⟩ := Prod.mk.inj ends
  obtain ⟨blocked,ends⟩ := Prod.mk.inj ends
  obtain ⟨rest,ends⟩ := Prod.mk.inj ends
  obtain ⟨empty,owner⟩ := Prod.mk.inj ends
  exact ⟨v,reached,every_of_all rest,why,blocked,by simp [empty],owner⟩

end PlugNPray.LockWakeUps
