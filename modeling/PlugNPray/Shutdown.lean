import PlugNPray.Moves
import PlugNPray.Sorting

/-!
What is left of the scheduler once manejar_bsod has run: it brings nothing back to
life if at that moment no thread, no device queue and no mutex holds on to a process.
-/
namespace PlugNPray.Shutdown
open PlugNPray.Scheduler PlugNPray.Handlers PlugNPray.ReadyQueues PlugNPray.Moves PlugNPray.Stacks PlugNPray.Places PlugNPray.Runs

/-- The requests after which a process comes back to a list, or a new one comes. -/
def revive_pedido : Pedido → Bool
  | .finalizar_proceso _ _ | .suspender_proceso _ | .eliminar_segmento _ _ _ => false
  | _ => true

/-- The actions that put a process on a list or a queue, or lead to one that does. -/
def revive : Accion → Bool
  | .enviar_ejecutar _ _ | .crear_proceso_inicial | .agregar_a_new _ | .mover_proceso_a_ready _ | .ceder_mutex _ _ _
  | .bloquear_proceso _ _ | .manejar_io _ _ _ | .encolar_pedido_io _ _ | .manejar_mutex_lock _ _ | .despertar_siguiente _
  | .mover_proceso_de_block_a_ready _ | .mover_a_susp_ready _ | .manejar_init_proc _ | .manejar_mem_alloc _ _
  | .esperar_planificacion _ | .anotar_espera _ | .bloquear_por_compactacion _ | .ejecutar_io_stdin _ _ | .esperar_io _ _ _
  | .manejar_fin_io _ | .sacar_de_susp_ready _ _ => true
  | .pedir q | .recibir q => revive_pedido q
  | _ => false

def inerte (a : Accion) : Bool := !revive a

/-- The ready queues that the configuration does not have are never used. -/
def en_uso (cfg : Config) : Cola → Bool
  | .colas_ready n => cfg.cmn && n < cfg.cantidad_colas
  | _ => true

/-- Nobody is waited for. -/
structure Suelto (s : Ks) : Prop where
  io : ∀ t, s.cola_espera_io t = []
  espera : ∀ m ∈ s.lista_mutex, m.cola_espera = []
  esperando : s.proceso_esperando_memoria = none

/-- No process is on a list, and nobody is waited for. -/
structure Apagado (cfg : Config) (s : Ks) : Prop where
  listas : ∀ c, en_uso cfg c = true → s.listas c = []
  suelto : Suelto s

variable {cfg : Config} {s : Ks}

theorem de_ready_en_uso {c : Cola} (served : c ∈ colas_de_ready cfg) : en_uso cfg c = true := by
  unfold colas_de_ready at served
  split_ifs at served with cmn
  · obtain ⟨n,bound,rfl⟩ := List.mem_map.mp served
    simpa [en_uso,cmn] using List.mem_range.mp bound
  · rw [List.mem_singleton.mp served]
    rfl

namespace Apagado

theorem exec (off : Apagado cfg s) {p : Nat} : p ∉ s.listas .lista_exec := by
  rw [off.listas .lista_exec rfl]
  exact List.not_mem_nil

/-- Nobody is found any more. -/
theorem buscar (off : Apagado cfg s) (pid : Nat) : buscar_proceso_por_pid cfg s pid = none := by
  refine List.find?_eq_none.mpr (fun p member => ?_)
  simp only [List.mem_flatMap,List.mem_cons] at member
  obtain ⟨c,used,member⟩ := member
  have empty : s.listas c = [] := by
    rcases used with rfl | rfl | rfl | rfl | served
    · exact off.listas _ rfl
    · exact off.listas _ rfl
    · exact off.listas _ rfl
    · exact off.listas _ rfl
    · exact off.listas c (de_ready_en_uso served)
  rw [empty] at member
  cases member

/-- Other parts of the state do not matter. -/
theorem congr (off : Apagado cfg s) {t : Ks} (listas : t.listas = s.listas) (io : t.cola_espera_io = s.cola_espera_io)
    (espera : ∀ m ∈ t.lista_mutex, m.cola_espera = []) (esperando : t.proceso_esperando_memoria = none) : Apagado cfg t :=
  ⟨fun c used => listas ▸ off.listas c used,fun tipo => io ▸ off.suelto.io tipo,espera,esperando⟩

/-- A mutex that nobody waits for may change hands. -/
theorem con_mutex (off : Apagado cfg s) {j : Nat} {f : Mutex → Mutex} (kept : ∀ m, (f m).cola_espera = m.cola_espera) :
    Apagado cfg (s.con_mutex j f) := by
  refine off.congr rfl rfl (fun m member => ?_) off.suelto.esperando
  obtain ⟨i,inside,rfl⟩ := List.getElem_of_mem member
  simp only [Ks.con_mutex_lista_mutex,List.getElem_modify]
  split_ifs
  · rw [kept]
    exact off.suelto.espera _ (List.getElem_mem _)
  · exact off.suelto.espera _ (List.getElem_mem _)

theorem nobody_waits (off : Apagado cfg s) {i : Nat} {m : Mutex} (here : s.lista_mutex[i]? = some m) : m.cola_espera = [] :=
  off.suelto.espera m (List.mem_of_getElem? here)

theorem bucle (hora pid : Nat) : Bucle cfg hora pid (Apagado cfg) (fun s pila => Apagado cfg s ∧ pila = []) where
  acaba s off := ⟨off,rfl⟩
  suelta s i m off _ _ _ := off.con_mutex (fun _ => rfl)
  pausa s i m siguiente espera off here _ queue _ := by
    rw [off.nobody_waits here] at queue
    cases queue
  sigue s i m siguiente espera r off here _ queue _ _ := by
    rw [off.nobody_waits here] at queue
    cases queue

end Apagado

theorem mem_of_buscar {nombre : String} {j : Nat} {m : Mutex} (found : buscar_mutex s nombre = some (j,m)) : m ∈ s.lista_mutex := by
  obtain ⟨pre,post,split,_⟩ := split_of_first found
  rw [split]
  simp

/-- The critical section of manejar_bsod. -/
theorem vaciar_apagado (loose : Suelto s) {v : Int} :
    Apagado cfg { vaciar cfg s with bsod_activo := true, cpus_pendientes_bsod := v } := by
  refine ⟨fun c used => ?_,⟨loose.io,loose.espera,loose.esperando⟩⟩
  cases c with
  | colas_ready n =>
    simp only [en_uso,Bool.and_eq_true,decide_eq_true_eq] at used
    simp [vaciar,used]
  | _ => rfl

/-- After the shutdown an action that revives nobody leaves only such actions. -/
theorem mueve_apagado {hora : Nat} {a : Accion} {r : Efecto} (move : Mueve cfg hora s a r) (off : Apagado cfg s)
    (inert : inerte a = true) :
    Apagado cfg r.ks ∧ (∀ b ∈ r.sigue, inerte b = true) ∧ Every (fun b => inerte b = true) r.lanza := by
  have started : Every (fun b => inerte b = true) ([] : List Pila) := every_of_all rfl
  cases move with
  | recibir q v =>
    refine ⟨off.congr rfl rfl off.suelto.espera off.suelto.esperando,?_,started⟩
    cases q with
    | crear_proceso => cases inert
    | finalizar_proceso | suspender_proceso => exact List.all_eq_true.mp rfl
    | eliminar_segmento => cases v <;> exact List.all_eq_true.mp rfl
    | _ => cases inert
  | planificar c p k cola libres served first free timer | planificar_timer c p k cola libres served first free timer =>
    rw [off.listas c (de_ready_en_uso served)] at first
    cases first
  | vence_quantum t k p found valid => rw [off.buscar p] at found; cases found
  | vence_suspension t p found valid blocked => rw [off.buscar p] at found; cases found
  | desconectar_ociosa k idle =>
    refine ⟨?_,List.all_eq_true.mp rfl,started⟩
    unfold quitar_cpu_libre
    split_ifs
    · exact off.congr rfl rfl off.suelto.espera off.suelto.esperando
    · exact off
  | desconectar_ocupada k p busy desaloja one => exact absurd (List.mem_of_find?_eq_some busy) off.exec
  | manejar_proceso_exit k p running | manejar_seg_fault k p running | manejar_fin_quantum k p running
  | fin_quantum_invalido k p running | fin_quantum_al_frente k p running | syscall_io k p t running
  | syscall_mutex_create k p running | syscall_mutex_lock k p running | syscall_mutex_unlock k p running
  | syscall_init_proc k p running | syscall_mem_alloc k p running | syscall_mem_free k p running
  | syscall_desconocida k p running => exact absurd running off.exec
  | liberar_mutex_del_proceso pid i =>
    obtain ⟨still,silent⟩ := liberar_mutex_del_proceso_rule (Apagado.bucle hora pid) i off
    exact ⟨still,by simp [silent],started⟩
  | agregar_mutex nombre =>
    refine ⟨off.congr rfl rfl (fun m member => ?_) off.suelto.esperando,List.all_eq_true.mp rfl,started⟩
    rcases List.mem_append.mp member with old | new
    · exact off.suelto.espera m old
    · rw [List.mem_singleton.mp new]
  | unlock_sin_espera p k j nombre m t found empty what =>
    refine ⟨?_,List.all_eq_true.mp rfl,started⟩
    have free := off.con_mutex (j := j) (f := fun m => { m with pid_dueno := none }) (fun _ => rfl)
    cases what with
    | nada => exact free
    | cambia v => exact free.congr rfl rfl free.suelto.espera free.suelto.esperando
  | unlock_cede p k j siguiente espera nombre m t r found queue what d inherits silent wakes =>
    rw [off.suelto.espera m (mem_of_buscar found)] at queue
    cases queue
  | unlock_pausa p k j siguiente espera nombre m t r found queue what inherits pausa =>
    rw [off.suelto.espera m (mem_of_buscar found)] at queue
    cases queue
  | desalojar_todas_las_cpus busy =>
    simp only [interrupciones,off.listas .lista_exec rfl]
    exact ⟨off,List.all_eq_true.mp rfl,started⟩
  | tomar_pedido_io t d p cola queue => rw [off.suelto.io t] at queue; cases queue
  | intentar_dessuspender_procesos =>
    refine ⟨⟨fun c used => ?_,⟨off.suelto.io,off.suelto.espera,off.suelto.esperando⟩⟩,List.all_eq_true.mp rfl,started⟩
    by_cases same : c = .lista_susp_ready
    · subst same
      have empty := (cfg.sorter.perm (comparar_prioridad_suspension s) (s.listas .lista_susp_ready)).length_eq
      rw [off.listas .lista_susp_ready rfl] at empty
      simpa [intentar_dessuspender_procesos,off.listas .lista_susp_ready rfl] using List.eq_nil_of_length_eq_zero empty
    · simpa [intentar_dessuspender_procesos,same] using off.listas c used
  | seguir_recorrido i inside => rw [off.listas .lista_susp_ready rfl] at inside; cases inside
  | leer_susp_ready i p here => rw [off.listas .lista_susp_ready rfl] at here; cases here
  | fin_compactacion p waits | redespachar p k waits => rw [off.suelto.esperando] at waits; cases waits
  | liberar_cpu_de_quantum k planificable =>
    refine ⟨off.congr rfl rfl off.suelto.espera off.suelto.esperando,?_,started⟩
    cases planificable <;> exact List.all_eq_true.mp rfl
  | limpiar_espera => exact ⟨off.congr rfl rfl off.suelto.espera rfl,List.all_eq_true.mp rfl,started⟩
  | manejar_bsod busy =>
    refine ⟨vaciar_apagado off.suelto,?_,started⟩
    simp only [interrupciones,off.listas .lista_exec rfl]
    exact List.all_eq_true.mp rfl
  | pedir q free => exact ⟨off.congr rfl rfl off.suelto.espera off.suelto.esperando,by simpa [inerte,revive] using inert,started⟩
  | enviar_ejecutar | crear_proceso_inicial | agregar_a_new | mover_proceso_a_ready | ceder_mutex | ceder_mutex_pausa
  | bloquear_proceso | manejar_io | encolar_pedido_io | lock_desconocido | lock_libre | lock_espera | despertar_siguiente
  | mover_proceso_de_block_a_ready | mover_a_susp_ready | manejar_init_proc | manejar_mem_alloc | esperar_planificacion
  | anotar_espera | bloquear_por_compactacion | ejecutar_io_stdin | io_servida | io_fallida | fin_io_block | fin_io_susp_block
  | fin_io_inesperado | sacar_de_susp_ready => cases inert
  | _ =>
    exact ⟨off.congr rfl rfl off.suelto.espera off.suelto.esperando,List.all_eq_true.mp rfl,every_of_all rfl⟩

/-! ## Runs -/

/-- When manejar_bsod runs, no device queue, no mutex and no compaction has a process that waits, and no thread has
    anything to do that would revive one. -/
def sosegado (l : Paso) (s : Planificador) : Bool :=
  match s.hilos[l.hilo]? with
  | some (.manejar_bsod :: _) =>
    [TipoIo.SLEEP,.STDIN,.STDOUT].all (fun t => s.ks.cola_espera_io t = []) && s.ks.lista_mutex.all (fun m => m.cola_espera = []) &&
      s.ks.proceso_esperando_memoria = none && s.hilos.all (fun pila => pila.all inerte)
  | _ => true

structure Final (cfg : Config) (s : Planificador) : Prop where
  apagado : Apagado cfg s.ks
  quietos : Every (fun a => inerte a = true) s.hilos

theorem paso_final {l : Paso} {s t : Planificador} (held : s.ks.bsod_activo = true → Final cfg s) (calm : sosegado l s = true)
    (moved : paso cfg l s = some t) (bsod : t.ks.bsod_activo = true) : Final cfg t := by
  obtain ⟨a,resto,r,here,alive,effect,move,rfl⟩ := paso_avanza moved
  have going : Final cfg s → Final cfg ⟨r.ks,advance s.hilos l.hilo r.sigue resto r.lanza⟩ := by
    intro final
    obtain ⟨off,next,started⟩ := mueve_apagado move final.apagado (every_here (p := fun a => inerte a = true) final.quietos here)
    exact ⟨off,every_advance final.quietos here next started⟩
  by_cases start : a = .manejar_bsod
  · subst start
    simp only [sosegado,here,Bool.and_eq_true,decide_eq_true_eq] at calm
    obtain ⟨⟨⟨io,espera⟩,esperando⟩,quiet⟩ := calm
    have inert := every_of_all quiet
    have loose : Suelto s.ks :=
      ⟨fun t => by simpa using List.all_eq_true.mp io t (by cases t <;> simp),by simpa using espera,esperando⟩
    cases move with
    | manejar_bsod busy =>
      refine ⟨vaciar_apagado loose,every_advance inert here (fun b member => ?_) (by simp [Every])⟩
      rcases List.mem_append.mp member with sends | last
      · obtain ⟨p,_,rfl⟩ := List.mem_map.mp sends
        rfl
      · rw [List.mem_singleton.mp last]
        rfl
  · exact going (held ((mueve_bsod_activo move start).symm.trans bsod))

/-- Once manejar_bsod has run, nobody waits in a device queue, for a mutex or for a compaction, no process is on a ready
    queue, running, or on any other list, and no thread is about to send OP_EJECUTAR_PROCESO. -/
theorem shutdown_final {labels : List Paso} {s : Planificador}
    (guarded : Guarded (paso cfg) (fun l s => sosegado l s = true) labels inicial)
    (reached : run (paso cfg) labels inicial = some s) (bsod : s.ks.bsod_activo = true) :
    (∀ t, s.ks.cola_espera_io t = []) ∧ (∀ m ∈ s.ks.lista_mutex, m.cola_espera = []) ∧ s.ks.proceso_esperando_memoria = none ∧
      (∀ c ∈ colas_de_ready cfg, s.ks.listas c = []) ∧ s.ks.listas .lista_exec = [] ∧
      Every (fun a => ∀ k p, a ≠ .enviar_ejecutar k p) s.hilos := by
  have held : s.ks.bsod_activo = true → Final cfg s :=
    @invariant_of_guarded _ _ _ _ (fun s => s.ks.bsod_activo = true → Final cfg s)
      (fun _ _ _ held calm moved bsod => paso_final held calm moved bsod) _ _ _ (fun bsod => by cases bsod) guarded reached
  obtain ⟨off,inert⟩ := held bsod
  refine ⟨off.suelto.io,off.suelto.espera,off.suelto.esperando,fun c served => off.listas c (de_ready_en_uso served),
    off.listas .lista_exec rfl,inert.mono (fun a quiet k p same => ?_)⟩
  subst same
  cases quiet

/-- A CPU connects and is given the first process. -/
def despacho : List Paso := arranque ++ [{ hilo := 0, entrada := .cliente_cpu },{ hilo := 3 },{ hilo := 3 },{ hilo := 1 },{ hilo := 1 },
  { hilo := 1 },{ hilo := 1 },{ hilo := 1 },{ hilo := 1 }]

def bsod : List Paso := [{ hilo := 2, entrada := .aviso .memoria_corrupta },{ hilo := 2 }]

theorem shutdown_final_despacho : ∃ s, run (paso fifo) (despacho ++ bsod) inicial = some s ∧ s.ks.bsod_activo = true ∧
    (∀ t, s.ks.cola_espera_io t = []) ∧ (∀ m ∈ s.ks.lista_mutex, m.cola_espera = []) ∧ s.ks.proceso_esperando_memoria = none ∧
      (∀ c ∈ colas_de_ready fifo, s.ks.listas c = []) ∧ s.ks.listas .lista_exec = [] ∧
      Every (fun a => ∀ k p, a ≠ .enviar_ejecutar k p) s.hilos := by
  have ends : (run (paso fifo) (despacho ++ bsod) inicial).map (fun s => s.ks.bsod_activo) = some true := by decide
  obtain ⟨s,reached,begun⟩ := Option.map_eq_some_iff.mp ends
  exact ⟨s,reached,begun,shutdown_final (by decide) reached begun⟩

/-- INIT_PROC and then SLEEP; the new process gets the CPU, and a device the request. -/
def siesta : List Paso := despacho ++ [{ hilo := 3, entrada := .codigo .proceso_syscall },{ hilo := 3, entrada := .llamada 0 .init_proc },
  { hilo := 3, entrada := .entero 0 },{ hilo := 3 },{ hilo := 3, entrada := .respuesta .OK },{ hilo := 3 },{ hilo := 3 },{ hilo := 3 },
  { hilo := 3 },{ hilo := 3, entrada := .codigo .proceso_syscall },{ hilo := 3, entrada := .llamada 0 (.io .SLEEP) },{ hilo := 3 },
  { hilo := 3 },{ hilo := 3 },{ hilo := 3, entrada := .entero 1000 },{ hilo := 3 },{ hilo := 3 },{ hilo := 1 },{ hilo := 1 },
  { hilo := 1 },{ hilo := 1 },{ hilo := 1 },{ hilo := 1 },{ hilo := 0, entrada := .cliente_io .SLEEP },{ hilo := 5 },{ hilo := 5 }]

/-- The CPU that an action sends OP_EJECUTAR_PROCESO to, and the process. -/
def envia_ejecutar : Accion → Option (Nat × Nat)
  | .enviar_ejecutar k p => some (k,p)
  | _ => none

/-- A second CPU connects, and process 0 is in the middle of INIT_PROC: Kernel Memory has not answered yet. -/
def nacimiento : List Paso := despacho ++ [{ hilo := 0, entrada := .cliente_cpu }] ++ turnos 4 2 ++ llama 3 0 .init_proc (.entero 0) ++ turnos 3 1

/-- INIT_PROC goes on after the BSOD: the new process, which was on none of the lists that manejar_bsod empties, gets the second CPU. -/
theorem shutdown_revives : ∃ s₀ s t, run (paso fifo) nacimiento inicial = some s₀ ∧
    (∀ c ∈ [Cola.lista_new,.lista_ready,.lista_exec,.lista_block,.lista_susp_ready,.lista_susp_block,.lista_ready_invalida],
      1 ∉ s₀.ks.listas c) ∧
    run (paso fifo) (bsod ++ [{ hilo := 3, entrada := .respuesta .OK }] ++ turnos 3 3) s₀ = some s ∧
    s.ks.bsod_activo = true ∧ s.ks.listas .lista_ready = [1] ∧
    run (paso fifo) (turnos 1 4) s = some t ∧ t.ks.terminado = false ∧ t.ks.listas .lista_exec = [1] ∧
    (cima t 1).bind envia_ejecutar = some (1,1) := by
  have begins : (run (paso fifo) nacimiento inicial).map (fun s => [Cola.lista_new,.lista_ready,.lista_exec,.lista_block,
      .lista_susp_ready,.lista_susp_block,.lista_ready_invalida].all (fun c => 1 ∉ s.ks.listas c)) = some true := by decide +kernel
  obtain ⟨s₀,reached₀,nowhere⟩ := Option.map_eq_some_iff.mp begins
  have goes : (run (paso fifo) (nacimiento ++ (bsod ++ [{ hilo := 3, entrada := .respuesta .OK }] ++ turnos 3 3)) inicial).map
      (fun s => (s.ks.bsod_activo,s.ks.listas .lista_ready)) = some (true,[1]) := by decide +kernel
  obtain ⟨s,reached,goes⟩ := Option.map_eq_some_iff.mp goes
  obtain ⟨begun,ready⟩ := Prod.mk.inj goes
  have ends : (run (paso fifo) (nacimiento ++ (bsod ++ [{ hilo := 3, entrada := .respuesta .OK }] ++ turnos 3 3) ++ turnos 1 4)
      inicial).map (fun t => (t.ks.terminado,t.ks.listas .lista_exec,(cima t 1).bind envia_ejecutar)) =
        some (false,[1],some (1,1)) := by decide +kernel
  obtain ⟨t,planned,ends⟩ := Option.map_eq_some_iff.mp ends
  obtain ⟨alive,ends⟩ := Prod.mk.inj ends
  obtain ⟨running,sends⟩ := Prod.mk.inj ends
  rw [run_append,reached] at planned
  rw [run_append,reached₀] at reached
  refine ⟨s₀,s,t,reached₀,fun c listed => ?_,reached,begun,ready,planned,alive,running,sends⟩
  simpa using List.all_eq_true.mp nowhere c listed

end PlugNPray.Shutdown
