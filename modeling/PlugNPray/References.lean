import PlugNPray.Moves

/-!
Which processes the scheduler can still get at: those on a list past admission, those
that wait for a mutex, for a device or for the end of a compaction, and those that a
thread has in hand. A move only passes such references on, except when it admits a
new process.
-/
namespace PlugNPray.References
open PlugNPray.Scheduler PlugNPray.Handlers PlugNPray.ReadyQueues PlugNPray.Moves PlugNPray.Stacks PlugNPray.Places

/-- The processes that the rest of a request goes on with. -/
def de_pedido : Pedido → List Nat
  | .dessuspender_proceso p _ | .crear_segmento p _ _ _ | .escribir_datos p _ | .leer_datos p _ => [p]
  | _ => []

/-- The processes that an action goes on with, once they have been admitted. -/
def en_mano : Accion → List Nat
  | .pedir q | .recibir q => de_pedido q
  | .bloquear_proceso p _ | .manejar_io _ p _ | .encolar_pedido_io _ p | .manejar_mutex_lock p _ | .manejar_mutex_unlock p _
  | .despertar_siguiente p | .mover_proceso_de_block_a_ready p | .mover_a_susp_ready p | .manejar_mem_alloc p _
  | .esperar_planificacion p | .anotar_espera p | .bloquear_por_compactacion p | .ejecutar_io_stdin _ p | .esperar_io _ _ p
  | .manejar_fin_io p | .sacar_de_susp_ready p _ | .ceder_mutex _ _ p => [p]
  | _ => []

/-- All processes that the shared state gives access to are in `A`. -/
structure EnJuego (A : Nat → Prop) (s : Ks) : Prop where
  listas : ∀ c, c ≠ .lista_new → c ≠ .lista_ready_invalida → ∀ p ∈ s.listas c, A p
  espera : ∀ m ∈ s.lista_mutex, ∀ p ∈ m.cola_espera, A p
  io : ∀ t, ∀ p ∈ s.cola_espera_io t, A p
  esperando : ∀ p, s.proceso_esperando_memoria = some p → A p

def Tiene (A : Nat → Prop) (a : Accion) : Prop := ∀ p ∈ en_mano a, A p

variable {A : Nat → Prop} {cfg : Config} {s : Ks} {p : Nat} {c : Cola}

namespace EnJuego

theorem con_lista (juego : EnJuego A s) {l : List Nat} (all : c ≠ .lista_new → c ≠ .lista_ready_invalida → ∀ q ∈ l, A q) :
    EnJuego A (s.con_lista c l) := by
  refine ⟨fun c' old valid q member => ?_,juego.espera,juego.io,juego.esperando⟩
  by_cases same : c' = c
  · subst same
    rw [Ks.con_lista_listas,Function.update_self] at member
    exact all old valid q member
  · rw [Ks.con_lista_listas,Function.update_of_ne same] at member
    exact juego.listas c' old valid q member

theorem agregar (juego : EnJuego A s) (new : c ≠ .lista_new → c ≠ .lista_ready_invalida → A p) : EnJuego A (s.agregar c p) := by
  refine juego.con_lista (fun old valid q member => ?_)
  rcases List.mem_append.mp member with listed | one
  · exact juego.listas c old valid q listed
  · exact List.mem_singleton.mp one ▸ new old valid

theorem agregar_al_frente (juego : EnJuego A s) (new : A p) : EnJuego A (s.agregar_al_frente c p) := by
  refine juego.con_lista (fun old valid q member => ?_)
  rcases List.mem_cons.mp member with rfl | listed
  · exact new
  · exact juego.listas c old valid q listed

theorem quitar (juego : EnJuego A s) : EnJuego A (s.quitar c p) :=
  juego.con_lista (fun old valid q member => juego.listas c old valid q (List.mem_of_mem_erase member))

theorem con_procesos (juego : EnJuego A s) (f : Nat → Proceso) : EnJuego A { s with procesos := f } :=
  ⟨juego.listas,juego.espera,juego.io,juego.esperando⟩

theorem mono {B : Nat → Prop} (juego : EnJuego A s) (sub : ∀ p, A p → B p) : EnJuego B s :=
  ⟨fun c old valid p member => sub p (juego.listas c old valid p member),fun m listed p member => sub p (juego.espera m listed p member),
    fun t p member => sub p (juego.io t p member),fun p waits => sub p (juego.esperando p waits)⟩

/-- A mutex whose queue only has processes in `A`. -/
theorem con_mutex (juego : EnJuego A s) {j : Nat} {f : Mutex → Mutex}
    (queue : ∀ m, s.lista_mutex[j]? = some m → ∀ q ∈ (f m).cola_espera, A q) : EnJuego A (s.con_mutex j f) := by
  refine ⟨juego.listas,fun m member q waits => ?_,juego.io,juego.esperando⟩
  obtain ⟨i,inside,rfl⟩ := List.getElem_of_mem member
  simp only [Ks.con_mutex_lista_mutex] at inside waits
  rw [List.getElem_modify] at waits
  split_ifs at waits with here
  · subst here
    exact queue _ (List.getElem?_eq_getElem (by simpa using inside)) q waits
  · exact juego.espera _ (List.getElem_mem _) q waits

end EnJuego

theorem desalojo_tiene {pila : Pila} (one : Desalojo pila) : ∀ b ∈ pila, Tiene A b := by
  rcases one with rfl | ⟨k,q,rfl⟩
  · simp
  · simp [Tiene,en_mano]

theorem si_tiene {b : Bool} {a : Accion} (named : Tiene A a) : ∀ x ∈ si b a, Tiene A x := by
  cases b <;> simp_all [si]

theorem append_tiene {pila pila' : Pila} (first : ∀ b ∈ pila, Tiene A b) (second : ∀ b ∈ pila', Tiene A b) :
    ∀ b ∈ pila ++ pila', Tiene A b :=
  fun b member => (List.mem_append.mp member).elim (first b) (second b)

theorem herencia_juego {espera : List Nat} {r : Ks × Pila} (what : Herencia cfg p espera s r) (juego : EnJuego A s)
    (named : A p) : EnJuego A r.1 ∧ ∀ b ∈ r.2, Tiene A b := by
  cases what with
  | nada => exact ⟨juego,by simp⟩
  | cambia v => exact ⟨juego.con_procesos _,by simp⟩
  | muda v cmn low waiter ready desaloja one =>
    refine ⟨EnJuego.agregar ?_ (fun _ _ => named),desalojo_tiene one⟩
    split_ifs
    · exact juego.quitar.con_procesos _
    · exact juego.con_procesos _

theorem heredar_mutex_juego {i siguiente : Nat} {espera : List Nat} (juego : EnJuego A s) (named : A siguiente)
    (waiters : ∀ q ∈ espera, A q) :
    EnJuego A (heredar_mutex cfg i siguiente espera s).1 ∧ ∀ b ∈ (heredar_mutex cfg i siguiente espera s).2, Tiene A b :=
  herencia_juego (heredar_mutex_cases cfg i siguiente espera s) (juego.con_mutex (fun _ _ => waiters)) named

theorem mover_a_susp_ready_juego (juego : EnJuego A s) (named : A p) (hora : Nat) : EnJuego A (mover_a_susp_ready hora p s) :=
  (juego.quitar.con_procesos _).agregar (fun _ _ => named)

theorem despertar_juego {hora : Nat} {r : Ks × Pila} (what : Despierta cfg hora p s r) (juego : EnJuego A s) (named : A p) :
    EnJuego A r.1 ∧ ∀ b ∈ r.2, Tiene A b := by
  cases what with
  | block =>
    have moved := ((((juego.con_procesos _ : EnJuego A (s.cancelar_timer p)).quitar (c := .lista_block) (p := p)).con_procesos _ :
      EnJuego A (((s.cancelar_timer p).quitar .lista_block p).con_estado p .READY)).agregar
        (c := destino cfg (s.procesos p).prioridad) (p := p) (fun _ _ => named))
    exact ⟨⟨moved.listas,moved.espera,moved.io,moved.esperando⟩,by simp⟩
  | desaloja =>
    refine ⟨((((juego.con_procesos _ : EnJuego A (s.cancelar_timer p)).quitar).con_procesos _ :
      EnJuego A (((s.cancelar_timer p).quitar .lista_block p).con_estado p .READY)).agregar (fun _ _ => named)),?_⟩
    simp [Tiene,en_mano]
  | susp_block => exact ⟨mover_a_susp_ready_juego (juego.con_procesos _) named hora,by simp⟩
  | inesperado => exact ⟨juego.con_procesos _,by simp⟩

/-- The loop over the mutexes of a dead process passes references on. -/
theorem bucle_juego (hora pid : Nat) :
    Bucle cfg hora pid (EnJuego A) (fun s pila => EnJuego A s ∧ ∀ b ∈ pila, Tiene A b) where
  acaba s juego := ⟨juego,by simp⟩
  suelta s i m juego here owned empty := juego.con_mutex (fun m' here' q waits => by
    cases here.symm.trans here'
    rw [empty] at waits
    cases waits)
  pausa s i m siguiente espera juego here owned queue quiet := by
    have waits := juego.espera m (List.mem_of_getElem? here)
    rw [queue] at waits
    have named := waits siguiente List.mem_cons_self
    obtain ⟨after,tail⟩ := @heredar_mutex_juego _ cfg _ i _ _ juego named (fun q member => waits q (List.mem_cons_of_mem _ member))
    exact ⟨after,append_tiene tail (by simpa [Tiene,en_mano] using named)⟩
  sigue s i m siguiente espera r juego here owned queue quiet what := by
    have waits := juego.espera m (List.mem_of_getElem? here)
    rw [queue] at waits
    have named := waits siguiente List.mem_cons_self
    have after := (@heredar_mutex_juego _ cfg _ i _ _ juego named (fun q member => waits q (List.mem_cons_of_mem _ member))).1
    obtain ⟨done,tail⟩ := despertar_juego what after named
    exact ⟨fun _ => done,fun _ => ⟨done,append_tiene tail (by simp [Tiene,en_mano])⟩⟩

/-! ## One move -/

theorem devolucion_juego {t : Ks} (what : Devolucion p s t) (juego : EnJuego A s) : EnJuego A t := by
  cases what with
  | nada => exact juego
  | cambia v => exact juego.con_procesos _

theorem tras_respuesta_tiene {q : Pedido} (named : ∀ p ∈ de_pedido q, A p) (r : Respuesta) : ∀ b ∈ tras_respuesta q r, Tiene A b := by
  cases q with
  | crear_proceso p k => cases k <;> cases r <;> simp [tras_respuesta,Tiene,en_mano]
  | _ => cases r <;> simp_all [tras_respuesta,Tiene,en_mano,de_pedido]

theorem pasa_a_ready_juego (juego : EnJuego A s) (origen : Cola) (named : destino cfg (s.procesos p).prioridad ≠ .lista_ready_invalida → A p) :
    EnJuego A (pasa_a_ready cfg origen p s) :=
  EnJuego.agregar (juego.quitar.con_procesos _) (fun _ valid => named valid)

/-- Running processes are in play. -/
theorem EnJuego.exec (juego : EnJuego A s) (running : p ∈ s.listas .lista_exec) : A p :=
  juego.listas .lista_exec (by simp) (by simp) p running

theorem de_cola_de_ready {c : Cola} (served : c ∈ colas_de_ready cfg) : c ≠ .lista_new ∧ c ≠ .lista_ready_invalida := by
  unfold colas_de_ready at served
  split_ifs at served
  · obtain ⟨n,_,rfl⟩ := List.mem_map.mp served
    simp
  · simp_all

/-- The lists that buscar_proceso_por_pid looks at are in play. -/
theorem EnJuego.encontrado {pid : Nat} (juego : EnJuego A s) (found : buscar_proceso_por_pid cfg s pid = some p) : A p := by
  have member := List.mem_of_find?_eq_some found
  simp only [List.mem_flatMap,List.mem_cons] at member
  obtain ⟨c,rfl | rfl | rfl | rfl | served,member⟩ := member
  · exact juego.listas _ (by simp) (by simp) p member
  · exact juego.listas _ (by simp) (by simp) p member
  · exact juego.listas _ (by simp) (by simp) p member
  · exact juego.listas _ (by simp) (by simp) p member
  · exact juego.listas c (de_cola_de_ready served).1 (de_cola_de_ready served).2 p member

theorem mem_of_buscar {nombre : String} {j : Nat} {m : Mutex} (found : buscar_mutex s nombre = some (j,m)) : m ∈ s.lista_mutex := by
  obtain ⟨pre,post,split,_⟩ := split_of_first found
  rw [split]
  simp

theorem mueve_en_juego {hora : Nat} {a : Accion} {r : Efecto} (move : Mueve cfg hora s a r) (juego : EnJuego A s) (named : Tiene A a)
    (fresh : ∀ p, a = .mover_proceso_a_ready p → destino cfg (s.procesos p).prioridad ≠ .lista_ready_invalida → A p) :
    EnJuego A r.ks := by
  have own : ∀ {p}, en_mano a = [p] → A p := fun {p} hand => named p (hand ▸ List.mem_singleton_self p)
  cases move with
  | agregar_a_new p => exact juego.agregar (fun old => absurd rfl old)
  | mover_proceso_a_ready p desaloja one => exact pasa_a_ready_juego juego .lista_new (fresh p rfl)
  | planificar c p k cola libres served first free timer =>
    obtain ⟨old,valid⟩ := de_cola_de_ready served
    have waiting := juego.listas c old valid
    rw [first] at waiting
    have rest := juego.con_lista (c := c) (l := cola) (fun _ _ q member => waiting q (List.mem_cons_of_mem p member))
    exact EnJuego.agregar ⟨rest.listas,rest.espera,rest.io,rest.esperando⟩ (fun _ _ => waiting p List.mem_cons_self)
  | planificar_timer c p k cola libres served first free timer =>
    obtain ⟨old,valid⟩ := de_cola_de_ready served
    have waiting := juego.listas c old valid
    rw [first] at waiting
    have rest := juego.con_lista (c := c) (l := cola) (fun _ _ q member => waiting q (List.mem_cons_of_mem p member))
    have done := EnJuego.agregar (c := .lista_exec) rest (fun _ _ => waiting p List.mem_cons_self)
    exact ⟨done.listas,done.espera,done.io,done.esperando⟩
  | vence_suspension t p found valid blocked =>
    have listed := juego.encontrado found
    exact ((((juego.con_procesos _ : EnJuego A (s.cancelar_timer p)).quitar (c := .lista_block) (p := p)).con_procesos _ :
      EnJuego A (((s.cancelar_timer p).quitar .lista_block p).con_estado p .SUSP_BLOCK)).agregar (fun _ _ => listed))
  | desconectar_ociosa k idle =>
    unfold quitar_cpu_libre
    split_ifs <;> exact ⟨juego.listas,juego.espera,juego.io,juego.esperando⟩
  | desconectar_ocupada k p busy desaloja one =>
    have freed : EnJuego A (quitar_cpu_libre k s) := by
      unfold quitar_cpu_libre
      split_ifs <;> exact ⟨juego.listas,juego.espera,juego.io,juego.esperando⟩
    have moved := ((freed.con_procesos _ : EnJuego A ((quitar_cpu_libre k s).cancelar_timer p)).quitar (c := .lista_exec) (p := p))
    exact EnJuego.agregar ((moved.con_procesos _ :
      EnJuego A ((((quitar_cpu_libre k s).cancelar_timer p).quitar .lista_exec p).con_estado p .READY)).con_procesos _)
        (fun _ _ => juego.exec (List.mem_of_find?_eq_some busy))
  | manejar_proceso_exit k p running | manejar_seg_fault k p running =>
    exact ((juego.con_procesos _ : EnJuego A (s.cancelar_timer p)).quitar (c := .lista_exec) (p := p)).con_procesos _
  | liberar_mutex_del_proceso pid i => exact (liberar_mutex_del_proceso_rule (bucle_juego hora pid) i juego).1
  | ceder_mutex pid i p r what silent =>
    exact (liberar_mutex_del_proceso_rule (bucle_juego hora pid) (i + 1) (despertar_juego what juego (own rfl)).1).1
  | ceder_mutex_pausa pid i p r what pausa => exact (despertar_juego what juego (own rfl)).1
  | manejar_fin_quantum k p running normal desaloja one =>
    exact EnJuego.agregar ((juego.quitar (c := .lista_exec) (p := p)).con_procesos _) (fun _ _ => juego.exec running)
  | fin_quantum_invalido k p running moving invalid =>
    exact EnJuego.agregar ((juego.quitar (c := .lista_exec) (p := p)).con_procesos _) (fun _ _ => juego.exec running)
  | fin_quantum_al_frente k p running moving valid =>
    exact EnJuego.agregar_al_frente ((juego.quitar (c := .lista_exec) (p := p)).con_procesos _) (juego.exec running)
  | bloquear_proceso p por =>
    have moved : EnJuego A ((s.quitar .lista_exec p).agregar .lista_block p) := juego.quitar.agregar (fun _ _ => own rfl)
    exact ⟨moved.listas,moved.espera,moved.io,moved.esperando⟩
  | encolar_pedido_io t p =>
    refine ⟨juego.listas,juego.espera,fun t' q member => ?_,juego.esperando⟩
    by_cases same : t' = t
    · subst same
      simp only [encolar_pedido_io,Function.update_self,List.mem_append,List.mem_singleton] at member
      rcases member with old | rfl
      · exact juego.io t' q old
      · exact own rfl
    · simp only [encolar_pedido_io,Function.update_of_ne same] at member
      exact juego.io t' q member
  | agregar_mutex nombre =>
    refine ⟨juego.listas,fun m member => ?_,juego.io,juego.esperando⟩
    rcases List.mem_append.mp member with old | new
    · exact juego.espera m old
    · obtain rfl := List.mem_singleton.mp new
      simp
  | lock_libre p k j nombre m found free =>
    exact juego.con_mutex (fun m' here => juego.espera m' (List.mem_of_getElem? here))
  | lock_espera p k j pid nombre m r found taken what =>
    have queued : EnJuego A (s.con_mutex j (fun m => { m with cola_espera := m.cola_espera ++ [p] })) := by
      refine juego.con_mutex (fun m' here q waits => ?_)
      rcases List.mem_append.mp waits with old | new
      · exact juego.espera m' (List.mem_of_getElem? here) q old
      · exact List.mem_singleton.mp new ▸ own rfl
    rcases what with rfl | ⟨cmn,owner,inherits⟩
    · exact queued
    · exact (herencia_juego inherits queued (queued.encontrado owner)).1
  | unlock_sin_espera p k j nombre m t found empty what =>
    exact devolucion_juego what (juego.con_mutex (fun m' here => juego.espera m' (List.mem_of_getElem? here)))
  | unlock_cede p k j siguiente espera nombre m t r found queue what d inherits silent wakes =>
    have waits := juego.espera m (mem_of_buscar found)
    rw [queue] at waits
    have given := devolucion_juego what (juego.con_mutex (fun _ _ q member => waits q (List.mem_cons_of_mem siguiente member)))
    have held := (herencia_juego inherits given (waits siguiente List.mem_cons_self)).1
    cases wakes <;> exact held.con_procesos _
  | unlock_pausa p k j siguiente espera nombre m t r found queue what inherits pausa =>
    have waits := juego.espera m (mem_of_buscar found)
    rw [queue] at waits
    have given := devolucion_juego what (juego.con_mutex (fun _ _ q member => waits q (List.mem_cons_of_mem siguiente member)))
    exact (herencia_juego inherits given (waits siguiente List.mem_cons_self)).1
  | despertar_siguiente p d wakes => cases wakes <;> exact juego.con_procesos _
  | mover_proceso_de_block_a_ready p desaloja one => exact pasa_a_ready_juego juego .lista_block (fun _ => own rfl)
  | mover_a_susp_ready p => exact mover_a_susp_ready_juego juego (own rfl) hora
  | bloquear_por_compactacion p =>
    have moved : EnJuego A ((s.quitar .lista_exec p).agregar .lista_block p) := juego.quitar.agregar (fun _ _ => own rfl)
    exact ⟨moved.listas,moved.espera,moved.io,moved.esperando⟩
  | anotar_espera p => exact ⟨juego.listas,juego.espera,juego.io,fun q waits => by cases waits; exact own rfl⟩
  | tomar_pedido_io t d p cola queue =>
    refine ⟨juego.listas,juego.espera,fun t' q member => ?_,juego.esperando⟩
    dsimp only at member
    by_cases same : t' = t
    · subst same
      rw [Function.update_self] at member
      exact juego.io t' q (queue ▸ List.mem_cons_of_mem p member)
    · rw [Function.update_of_ne same] at member
      exact juego.io t' q member
  | intentar_dessuspender_procesos =>
    exact juego.con_lista (fun old valid q member => juego.listas _ old valid q ((cfg.sorter.perm _ _).mem_iff.mp member))
  | sacar_de_susp_ready p i desaloja one => exact pasa_a_ready_juego juego .lista_susp_ready (fun _ => own rfl)
  | fin_compactacion p waits =>
    have moved : EnJuego A ((s.agregar .lista_exec p).quitar .lista_block p) := (juego.agregar (fun _ _ => juego.esperando p waits)).quitar
    exact ⟨moved.listas,moved.espera,moved.io,moved.esperando⟩
  | limpiar_espera => exact ⟨juego.listas,juego.espera,juego.io,fun q waits => by cases waits⟩
  | manejar_bsod busy =>
    refine ⟨fun c old valid q member => ?_,juego.espera,juego.io,juego.esperando⟩
    simp only [vaciar] at member
    split at member
    all_goals first | cases member | skip
    split_ifs at member
    · cases member
    · exact juego.listas _ old valid q member
  | _ => exact ⟨juego.listas,juego.espera,juego.io,juego.esperando⟩

theorem mueve_tiene {hora : Nat} {a : Accion} {r : Efecto} (move : Mueve cfg hora s a r) (juego : EnJuego A s) (named : Tiene A a) :
    ∀ b ∈ r.sigue, Tiene A b := by
  have own : ∀ {p}, en_mano a = [p] → A p := fun {p} hand => named p (hand ▸ List.mem_singleton_self p)
  cases move with
  | recibir q v => exact tras_respuesta_tiene named v
  | mover_proceso_a_ready p desaloja one | mover_proceso_de_block_a_ready p desaloja one =>
    exact append_tiene (desalojo_tiene one) (si_tiene (by simp [Tiene,en_mano]))
  | desconectar_ocupada k p busy desaloja one =>
    exact append_tiene (desalojo_tiene one) (si_tiene (by simp [Tiene,en_mano]))
  | liberar_mutex_del_proceso pid i => exact (liberar_mutex_del_proceso_rule (bucle_juego hora pid) i juego).2
  | ceder_mutex pid i p r what silent =>
    exact (liberar_mutex_del_proceso_rule (bucle_juego hora pid) (i + 1) (despertar_juego what juego (own rfl)).1).2
  | ceder_mutex_pausa pid i p r what pausa =>
    exact append_tiene (despertar_juego what juego (own rfl)).2 (by simp [Tiene,en_mano])
  | manejar_fin_quantum k p running normal desaloja one =>
    exact append_tiene (desalojo_tiene one) (by simp [Tiene,en_mano])
  | liberar_cpu_de_quantum k planificable =>
    exact append_tiene (si_tiene (by simp [Tiene,en_mano])) (by simp [Tiene,en_mano])
  | syscall_io k p t running | syscall_mutex_lock k p running | syscall_mutex_unlock k p running | syscall_mem_alloc k p running =>
    have admitted := juego.exec running
    simp_all [Tiene,en_mano]
  | lock_espera p k j pid nombre m r found taken what =>
    refine append_tiene ?_ (by simpa [Tiene,en_mano] using named)
    rcases what with rfl | ⟨cmn,owner,inherits⟩
    · simp
    · cases inherits with
      | nada | cambia => simp
      | muda v cmn low waiter ready desaloja one => exact desalojo_tiene one
  | unlock_cede p k j siguiente espera nombre m t r found queue what d inherits silent wakes =>
    have waits := juego.espera m (mem_of_buscar found) siguiente (queue ▸ List.mem_cons_self)
    refine append_tiene ?_ (by simp [Tiene,en_mano])
    cases wakes <;> simp_all [Tiene,en_mano]
  | unlock_pausa p k j siguiente espera nombre m t r found queue what inherits pausa =>
    have waits := juego.espera m (mem_of_buscar found) siguiente (queue ▸ List.mem_cons_self)
    refine append_tiene ?_ (by simpa [Tiene,en_mano] using waits)
    cases inherits with
    | nada | cambia => simp
    | muda v cmn low waiter ready desaloja one => exact desalojo_tiene one
  | despertar_siguiente p d wakes => cases wakes <;> simp_all [Tiene,en_mano]
  | desalojar_todas_las_cpus busy | manejar_bsod busy =>
    refine append_tiene (fun b member => ?_) (by simp [Tiene,en_mano])
    obtain ⟨q,_,rfl⟩ := List.mem_map.mp member
    simp [Tiene,en_mano]
  | tomar_pedido_io t d p cola queue =>
    have waits := juego.io t p (queue ▸ List.mem_cons_self)
    cases t <;> simpa [ejecutar_io,Tiene,en_mano,de_pedido] using waits
  | leer_susp_ready i p here =>
    have listed := juego.listas .lista_susp_ready (by simp) (by simp) p (List.mem_of_getElem? here)
    simpa [Tiene,en_mano,de_pedido] using listed
  | sacar_de_susp_ready p i desaloja one =>
    exact append_tiene (append_tiene (desalojo_tiene one) (si_tiene (by simp [Tiene,en_mano]))) (by simp [Tiene,en_mano])
  | _ => simp_all [Tiene,en_mano,crear_proceso,de_pedido,bloquear_proceso,verificar_fin_bsod]

theorem mueve_lanza_tiene {hora : Nat} {a : Accion} {r : Efecto} (move : Mueve cfg hora s a r) : Every (Tiene A) r.lanza := by
  cases move with
  | despertar_siguiente p d wakes => cases wakes <;> simp [Every]
  | _ => simp [Every,Tiene,en_mano,crear_proceso,bloquear_proceso,verificar_fin_bsod]

end PlugNPray.References
