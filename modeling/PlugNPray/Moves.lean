import PlugNPray.ReadyQueues

/-!
The moves of the scheduler's threads as rules, one for each branch of an action: what
the move found, and what it leaves. Proofs about runs go by these rules.
-/
namespace PlugNPray.Moves
open PlugNPray.Scheduler PlugNPray.Handlers PlugNPray.ReadyQueues PlugNPray.Stacks PlugNPray.Places

/-- The post that follows when a process was put on a queue the planner looks at. -/
def anuncio (cfg : Config) (v : Int) : Pila := si (destino cfg v ≠ .lista_ready_invalida) .post_hay_procesos_ready

/-- A process taken from a list and put on the list of its priority. -/
def pasa_a_ready (cfg : Config) (c : Cola) (p : Nat) (s : Ks) : Ks :=
  ((s.quitar c p).con_estado p .READY).agregar (destino cfg (s.procesos p).prioridad) p

/-- despertar_siguiente by the state of the next owner. -/
inductive Siguiente (p : Nat) (s : Ks) : Efecto → Prop where
  | block (blocked : (s.procesos p).estado = .BLOCK) :
      Siguiente p s ⟨s.cancelar_timer p,[.mover_proceso_de_block_a_ready p],[]⟩
  | susp_block (suspended : (s.procesos p).estado = .SUSP_BLOCK) :
      Siguiente p s ⟨s.cancelar_timer p,[.mover_a_susp_ready p],[]⟩
  | inesperado (other : (s.procesos p).estado ≠ .BLOCK) (other' : (s.procesos p).estado ≠ .SUSP_BLOCK) :
      Siguiente p s ⟨s.cancelar_timer p,[],[]⟩

theorem despertar_siguiente_cases (p : Nat) (s : Ks) : Siguiente p s (despertar_siguiente p s) := by
  unfold despertar_siguiente
  dsimp only
  split
  case h_1 blocked => exact .block blocked
  case h_2 suspended => exact .susp_block suspended
  case h_3 other other' => exact .inesperado other other'

inductive Mueve (cfg : Config) (hora : Nat) (s : Ks) : Accion → Efecto → Prop where
  | enviar_ejecutar (k p : Nat) : Mueve cfg hora s (.enviar_ejecutar k p) ⟨s,[],[]⟩
  | enviar_interrumpir (k : Option Nat) (p : Nat) : Mueve cfg hora s (.enviar_interrumpir k p) ⟨s,[],[]⟩
  | enviar_respuesta (k : Nat) (v : RespuestaCpu) : Mueve cfg hora s (.enviar_respuesta k v) ⟨s,[],[]⟩
  | enviar_confirmacion (free : s.mutex_pedidos_memoria = false) : Mueve cfg hora s .enviar_confirmacion ⟨s,[],[]⟩
  | post_hay_procesos_ready :
      Mueve cfg hora s .post_hay_procesos_ready ⟨{ s with sem_hay_procesos_ready := s.sem_hay_procesos_ready + 1 },[],[]⟩
  | post_hay_cpus_libres :
      Mueve cfg hora s .post_hay_cpus_libres ⟨{ s with sem_hay_cpus_libres := s.sem_hay_cpus_libres + 1 },[],[]⟩
  | post_puede_planificar :
      Mueve cfg hora s .post_puede_planificar ⟨{ s with sem_puede_planificar := s.sem_puede_planificar + 1 },[],[]⟩
  | post_cola_io (t : TipoIo) :
      Mueve cfg hora s (.post_cola_io t) ⟨{ s with sem_cola_io := Function.update s.sem_cola_io t (s.sem_cola_io t + 1) },[],[]⟩
  | pedir (q : Pedido) (free : s.mutex_pedidos_memoria = false) :
      Mueve cfg hora s (.pedir q) ⟨{ s with mutex_pedidos_memoria := true },[.recibir q],[]⟩
  | recibir (q : Pedido) (v : Respuesta) :
      Mueve cfg hora s (.recibir q) ⟨{ s with mutex_pedidos_memoria := false },tras_respuesta q v,[]⟩
  | crear_proceso_inicial : Mueve cfg hora s .crear_proceso_inicial (crear_proceso none 0 s)
  | iniciar_hilos :
      Mueve cfg hora s .iniciar_hilos ⟨s,[.atender_conexiones_entrantes],[[.planificador_corto_plazo],[.hilo_escuchar_memoria]]⟩
  | cliente_cpu :
      Mueve cfg hora s .atender_conexiones_entrantes
        ⟨{ s with proximo_cliente := s.proximo_cliente + 1 },[.atender_conexiones_entrantes],
          [[.agregar_cpu (some s.proximo_cliente),.atender_cpu s.proximo_cliente]]⟩
  | cliente_io (t : TipoIo) :
      Mueve cfg hora s .atender_conexiones_entrantes
        ⟨{ s with proximo_cliente := s.proximo_cliente + 1 },[.atender_conexiones_entrantes],[[.atender_io t s.proximo_cliente]]⟩
  | agregar_a_new (p : Nat) : Mueve cfg hora s (.agregar_a_new p) ⟨s.agregar .lista_new p,[],[]⟩
  | mover_proceso_a_ready (p : Nat) (desaloja : Pila) (one : Desalojo desaloja) :
      Mueve cfg hora s (.mover_proceso_a_ready p)
        ⟨pasa_a_ready cfg .lista_new p s,desaloja ++ anuncio cfg (s.procesos p).prioridad,[]⟩
  | planificador_corto_plazo (n : Nat) (token : s.sem_hay_procesos_ready = n + 1) :
      Mueve cfg hora s .planificador_corto_plazo ⟨{ s with sem_hay_procesos_ready := n },[.esperar_cpu_libre],[]⟩
  | esperar_cpu_libre (n : Nat) (token : s.sem_hay_cpus_libres = n + 1) :
      Mueve cfg hora s .esperar_cpu_libre ⟨{ s with sem_hay_cpus_libres := n },[.esperar_permiso],[]⟩
  | esperar_permiso (n : Nat) (token : s.sem_puede_planificar = n + 1) :
      Mueve cfg hora s .esperar_permiso ⟨{ s with sem_puede_planificar := n },[.planificar],[]⟩
  | planificar_nada (none : obtener_proximo_proceso_ready cfg s = none) :
      Mueve cfg hora s .planificar ⟨s,[.post_hay_cpus_libres,.post_puede_planificar,.planificador_corto_plazo],[]⟩
  | planificar (c : Cola) (p k : Nat) (cola : List Nat) (libres : List (Option Nat)) (served : c ∈ colas_de_ready cfg)
      (first : s.listas c = p :: cola) (free : s.lista_cpus_libres = some k :: libres) (timer : necesita_timer cfg c = false) :
      Mueve cfg hora s .planificar
        ⟨(({ s.con_lista c cola with lista_cpus_libres := libres } : Ks).con_proceso p
            (fun x => { x with estado := .EXEC, cpu := some k, socket_cpu := some k })).agregar .lista_exec p,
          [.enviar_ejecutar k p,.post_puede_planificar,.planificador_corto_plazo],[]⟩
  | planificar_timer (c : Cola) (p k : Nat) (cola : List Nat) (libres : List (Option Nat)) (served : c ∈ colas_de_ready cfg)
      (first : s.listas c = p :: cola) (free : s.lista_cpus_libres = some k :: libres) (timer : necesita_timer cfg c = true) :
      Mueve cfg hora s .planificar
        ⟨{ (({ s.con_lista c cola with lista_cpus_libres := libres } : Ks).con_proceso p
            (fun x => { x with estado := .EXEC, cpu := some k, socket_cpu := some k, timer := some s.proximo_timer })).agregar
              .lista_exec p with proximo_timer := s.proximo_timer + 1 },
          [.enviar_ejecutar k p,.lanzar_quantum s.proximo_timer k p,.post_puede_planificar,.planificador_corto_plazo],[]⟩
  | lanzar_quantum (t k p : Nat) : Mueve cfg hora s (.lanzar_quantum t k p) ⟨s,[],[[.hilo_quantum t k p]]⟩
  | vence_quantum (t k p : Nat) (found : buscar_proceso_por_pid cfg s p = some p) (valid : (s.procesos p).timer = some t) :
      Mueve cfg hora s (.hilo_quantum t k p) ⟨s.cancelar_timer p,[.enviar_interrumpir (some k) p],[]⟩
  | quantum_viejo (t k p : Nat) : Mueve cfg hora s (.hilo_quantum t k p) ⟨s,[],[]⟩
  | vence_suspension (t p : Nat) (found : buscar_proceso_por_pid cfg s p = some p) (valid : (s.procesos p).timer = some t)
      (blocked : (s.procesos p).estado = .BLOCK) :
      Mueve cfg hora s (.hilo_suspension t p)
        ⟨(((s.cancelar_timer p).quitar .lista_block p).con_estado p .SUSP_BLOCK).agregar .lista_susp_block p,
          [.pedir (.suspender_proceso p)],[]⟩
  | vence_en_vano (t p : Nat) (valid : (s.procesos p).timer = some t) (other : (s.procesos p).estado ≠ .BLOCK) :
      Mueve cfg hora s (.hilo_suspension t p) ⟨s.cancelar_timer p,[],[]⟩
  | suspension_vieja (t p : Nat) : Mueve cfg hora s (.hilo_suspension t p) ⟨s,[],[]⟩
  | agregar_cpu (k : Option Nat) :
      Mueve cfg hora s (.agregar_cpu k) ⟨{ s with lista_cpus_libres := s.lista_cpus_libres ++ [k] },[.post_hay_cpus_libres],[]⟩
  | atender_syscall (k : Nat) : Mueve cfg hora s (.atender_cpu k) ⟨s,[.manejar_syscall k,.atender_cpu k],[]⟩
  | atender_desconocido (k : Nat) : Mueve cfg hora s (.atender_cpu k) ⟨s,[.atender_cpu k],[]⟩
  | atender_fin (k : Nat) (c : CodigoCpu) : Mueve cfg hora s (.atender_cpu k) ⟨s,[.consultar_bsod k c,.atender_cpu k],[]⟩
  | atender_corte (k : Nat) : Mueve cfg hora s (.atender_cpu k) ⟨s,[.desconectar_cpu k],[]⟩
  | consultar_bsod (k : Nat) (c : CodigoCpu) (bsod : s.bsod_activo = true) :
      Mueve cfg hora s (.consultar_bsod k c) ⟨s,[.verificar_fin_bsod],[]⟩
  | consultar_exit (k : Nat) (c : CodigoCpu) (normal : s.bsod_activo = false) :
      Mueve cfg hora s (.consultar_bsod k c) ⟨s,[.manejar_proceso_exit k],[]⟩
  | consultar_seg_fault (k : Nat) (c : CodigoCpu) (normal : s.bsod_activo = false) :
      Mueve cfg hora s (.consultar_bsod k c) ⟨s,[.manejar_seg_fault k],[]⟩
  | consultar_fin_quantum (k : Nat) (c : CodigoCpu) (normal : s.bsod_activo = false) :
      Mueve cfg hora s (.consultar_bsod k c) ⟨s,[.manejar_fin_quantum k],[]⟩
  | verificar_fin_bsod : Mueve cfg hora s .verificar_fin_bsod (verificar_fin_bsod s)
  | salir_si_cero (n : Int) : Mueve cfg hora s (.salir_si_cero n) ⟨{ s with terminado := s.terminado || n = 0 },[],[]⟩
  | desconectar_ociosa (k : Nat) (idle : proceso_de_cpu s k = none) :
      Mueve cfg hora s (.desconectar_cpu k) ⟨quitar_cpu_libre k s,[],[]⟩
  | desconectar_ocupada (k p : Nat) (busy : proceso_de_cpu s k = some p) (desaloja : Pila) (one : Desalojo desaloja) :
      Mueve cfg hora s (.desconectar_cpu k)
        ⟨(((((quitar_cpu_libre k s).cancelar_timer p).quitar .lista_exec p).con_estado p .READY).con_cpu p none).agregar
          (destino cfg (s.procesos p).prioridad) p,desaloja ++ anuncio cfg (s.procesos p).prioridad,[]⟩
  | manejar_proceso_exit (k p : Nat) (running : p ∈ s.listas .lista_exec) :
      Mueve cfg hora s (.manejar_proceso_exit k)
        ⟨((s.cancelar_timer p).quitar .lista_exec p).con_estado p .EXIT_STATE,[.pedir (.finalizar_proceso p (s.procesos p).cpu)],[]⟩
  | exit_desconocido (k p : Nat) (unknown : p ∉ s.listas .lista_exec) : Mueve cfg hora s (.manejar_proceso_exit k) ⟨s,[],[]⟩
  | manejar_seg_fault (k p : Nat) (running : p ∈ s.listas .lista_exec) :
      Mueve cfg hora s (.manejar_seg_fault k)
        ⟨((s.cancelar_timer p).quitar .lista_exec p).con_estado p .EXIT_STATE,[.pedir (.finalizar_proceso p (s.procesos p).cpu)],[]⟩
  | seg_fault_desconocido (k p : Nat) (unknown : p ∉ s.listas .lista_exec) : Mueve cfg hora s (.manejar_seg_fault k) ⟨s,[],[]⟩
  | liberar_mutex_del_proceso (pid i : Nat) :
      Mueve cfg hora s (.liberar_mutex_del_proceso pid i)
        ⟨(liberar_mutex_del_proceso cfg hora pid i s).1,(liberar_mutex_del_proceso cfg hora pid i s).2,[]⟩
  | ceder_mutex (pid i p : Nat) (r : Ks × Pila) (what : Despierta cfg hora p s r) (silent : r.2 = []) :
      Mueve cfg hora s (.ceder_mutex pid i p)
        ⟨(liberar_mutex_del_proceso cfg hora pid (i + 1) r.1).1,(liberar_mutex_del_proceso cfg hora pid (i + 1) r.1).2,[]⟩
  | ceder_mutex_pausa (pid i p : Nat) (r : Ks × Pila) (what : Despierta cfg hora p s r) (pausa : r.2 ≠ []) :
      Mueve cfg hora s (.ceder_mutex pid i p) ⟨r.1,r.2 ++ [.liberar_mutex_del_proceso pid (i + 1)],[]⟩
  | manejar_fin_quantum (k p : Nat) (running : p ∈ s.listas .lista_exec) (normal : s.compactando = false) (desaloja : Pila)
      (one : Desalojo desaloja) :
      Mueve cfg hora s (.manejar_fin_quantum k)
        ⟨(((s.quitar .lista_exec p).con_estado p .READY).con_cpu p none).agregar (destino cfg (s.procesos p).prioridad) p,
          desaloja ++ [.liberar_cpu_de_quantum (s.procesos p).cpu (destino cfg (s.procesos p).prioridad ≠ .lista_ready_invalida)],[]⟩
  | fin_quantum_invalido (k p : Nat) (running : p ∈ s.listas .lista_exec) (moving : s.compactando = true)
      (invalid : destino cfg (s.procesos p).prioridad = .lista_ready_invalida) :
      Mueve cfg hora s (.manejar_fin_quantum k)
        ⟨(((s.quitar .lista_exec p).con_estado p .READY).con_cpu p none).agregar .lista_ready_invalida p,
          [.liberar_cpu_de_quantum (s.procesos p).cpu false],[]⟩
  | fin_quantum_al_frente (k p : Nat) (running : p ∈ s.listas .lista_exec) (moving : s.compactando = true)
      (valid : destino cfg (s.procesos p).prioridad ≠ .lista_ready_invalida) :
      Mueve cfg hora s (.manejar_fin_quantum k)
        ⟨(((s.quitar .lista_exec p).con_estado p .READY).con_cpu p none).agregar_al_frente (destino cfg (s.procesos p).prioridad) p,
          [.liberar_cpu_de_quantum (s.procesos p).cpu true],[]⟩
  | fin_quantum_desconocido (k p : Nat) (unknown : p ∉ s.listas .lista_exec) : Mueve cfg hora s (.manejar_fin_quantum k) ⟨s,[],[]⟩
  | liberar_cpu_de_quantum (k : Option Nat) (planificable : Bool) :
      Mueve cfg hora s (.liberar_cpu_de_quantum k planificable)
        ⟨{ s with lista_cpus_libres := s.lista_cpus_libres ++ [k] },
          si planificable .post_hay_procesos_ready ++ [.post_hay_cpus_libres],[]⟩
  | syscall_io (k p : Nat) (t : TipoIo) (running : p ∈ s.listas .lista_exec) :
      Mueve cfg hora s (.manejar_syscall k) ⟨s,[.bloquear_proceso p (.io t),.manejar_io t p k],[]⟩
  | syscall_mutex_create (k p : Nat) (running : p ∈ s.listas .lista_exec) :
      Mueve cfg hora s (.manejar_syscall k) ⟨s,[.manejar_mutex_create p k],[]⟩
  | syscall_mutex_lock (k p : Nat) (running : p ∈ s.listas .lista_exec) :
      Mueve cfg hora s (.manejar_syscall k) ⟨s,[.manejar_mutex_lock p k],[]⟩
  | syscall_mutex_unlock (k p : Nat) (running : p ∈ s.listas .lista_exec) :
      Mueve cfg hora s (.manejar_syscall k) ⟨s,[.manejar_mutex_unlock p k],[]⟩
  | syscall_init_proc (k p : Nat) (running : p ∈ s.listas .lista_exec) :
      Mueve cfg hora s (.manejar_syscall k) ⟨s,[.manejar_init_proc k],[]⟩
  | syscall_mem_alloc (k p : Nat) (running : p ∈ s.listas .lista_exec) :
      Mueve cfg hora s (.manejar_syscall k) ⟨s,[.manejar_mem_alloc p k],[]⟩
  | syscall_mem_free (k p : Nat) (running : p ∈ s.listas .lista_exec) :
      Mueve cfg hora s (.manejar_syscall k) ⟨s,[.manejar_mem_free p k],[]⟩
  | syscall_desconocida (k p : Nat) (running : p ∈ s.listas .lista_exec) :
      Mueve cfg hora s (.manejar_syscall k) ⟨s,[.enviar_respuesta k .ERROR],[]⟩
  | syscall_de_nadie (k p : Nat) (unknown : p ∉ s.listas .lista_exec) : Mueve cfg hora s (.manejar_syscall k) ⟨s,[],[]⟩
  | bloquear_proceso (p : Nat) (por : Motivo) : Mueve cfg hora s (.bloquear_proceso p por) (bloquear_proceso p s)
  | manejar_io (t : TipoIo) (p k : Nat) (v : Entrada) (x : Proceso) (kept : manejar_io t v (s.procesos p) = some x) :
      Mueve cfg hora s (.manejar_io t p k) ⟨s.con_proceso p (fun _ => x),[.encolar_pedido_io t p],[]⟩
  | encolar_pedido_io (t : TipoIo) (p : Nat) : Mueve cfg hora s (.encolar_pedido_io t p) ⟨encolar_pedido_io t p s,[.post_cola_io t],[]⟩
  | manejar_mutex_create (p k : Nat) (nombre : String) (new : buscar_mutex s nombre = none) :
      Mueve cfg hora s (.manejar_mutex_create p k) ⟨s,[.agregar_mutex nombre,.enviar_respuesta k .OK],[]⟩
  | mutex_existente (p k : Nat) : Mueve cfg hora s (.manejar_mutex_create p k) ⟨s,[.enviar_respuesta k .OK],[]⟩
  | agregar_mutex (nombre : String) :
      Mueve cfg hora s (.agregar_mutex nombre) ⟨{ s with lista_mutex := s.lista_mutex ++ [⟨nombre,none,[]⟩] },[],[]⟩
  | lock_desconocido (p k : Nat) : Mueve cfg hora s (.manejar_mutex_lock p k) ⟨s,[.enviar_respuesta k .ERROR],[]⟩
  | lock_libre (p k j : Nat) (nombre : String) (m : Mutex) (found : buscar_mutex s nombre = some (j,m)) (free : m.pid_dueno = none) :
      Mueve cfg hora s (.manejar_mutex_lock p k)
        ⟨s.con_mutex j (fun m => { m with pid_dueno := some p }),[.enviar_respuesta k .OK],[]⟩
  | lock_espera (p k j pid : Nat) (nombre : String) (m : Mutex) (r : Ks × Pila) (found : buscar_mutex s nombre = some (j,m))
      (taken : m.pid_dueno = some pid)
      (what : r = (s.con_mutex j (fun m => { m with cola_espera := m.cola_espera ++ [p] }),[]) ∨
        (cfg.cmn = true ∧
          buscar_proceso_por_pid cfg (s.con_mutex j (fun m => { m with cola_espera := m.cola_espera ++ [p] })) pid = some pid ∧
          Herencia cfg pid (m.cola_espera ++ [p]) (s.con_mutex j (fun m => { m with cola_espera := m.cola_espera ++ [p] })) r)) :
      Mueve cfg hora s (.manejar_mutex_lock p k)
        ⟨r.1,r.2 ++ [.enviar_respuesta k .BLOQUEADO,.bloquear_proceso p (.mutex j)],[]⟩
  | unlock_desconocido (p k : Nat) : Mueve cfg hora s (.manejar_mutex_unlock p k) ⟨s,[.enviar_respuesta k .ERROR],[]⟩
  | unlock_sin_espera (p k j : Nat) (nombre : String) (m : Mutex) (t : Ks) (found : buscar_mutex s nombre = some (j,m))
      (empty : m.cola_espera = []) (what : Devolucion p (s.con_mutex j (fun m => { m with pid_dueno := none })) t) :
      Mueve cfg hora s (.manejar_mutex_unlock p k) ⟨t,[.enviar_respuesta k .OK],[]⟩
  | unlock_cede (p k j siguiente : Nat) (espera : List Nat) (nombre : String) (m : Mutex) (t : Ks) (r : Ks × Pila)
      (found : buscar_mutex s nombre = some (j,m)) (queue : m.cola_espera = siguiente :: espera)
      (what : Devolucion p (s.con_mutex j (fun m => { m with pid_dueno := some siguiente, cola_espera := espera })) t)
      (d : Efecto) (inherits : Herencia cfg siguiente espera t r) (silent : r.2 = []) (wakes : Siguiente siguiente r.1 d) :
      Mueve cfg hora s (.manejar_mutex_unlock p k) ⟨d.ks,d.sigue ++ [.enviar_respuesta k .OK],[]⟩
  | unlock_pausa (p k j siguiente : Nat) (espera : List Nat) (nombre : String) (m : Mutex) (t : Ks) (r : Ks × Pila)
      (found : buscar_mutex s nombre = some (j,m)) (queue : m.cola_espera = siguiente :: espera)
      (what : Devolucion p (s.con_mutex j (fun m => { m with pid_dueno := some siguiente, cola_espera := espera })) t)
      (inherits : Herencia cfg siguiente espera t r) (pausa : r.2 ≠ []) :
      Mueve cfg hora s (.manejar_mutex_unlock p k) ⟨r.1,r.2 ++ [.despertar_siguiente siguiente,.enviar_respuesta k .OK],[]⟩
  | despertar_siguiente (p : Nat) (d : Efecto) (wakes : Siguiente p s d) : Mueve cfg hora s (.despertar_siguiente p) d
  | mover_proceso_de_block_a_ready (p : Nat) (desaloja : Pila) (one : Desalojo desaloja) :
      Mueve cfg hora s (.mover_proceso_de_block_a_ready p)
        ⟨pasa_a_ready cfg .lista_block p s,desaloja ++ anuncio cfg (s.procesos p).prioridad,[]⟩
  | mover_a_susp_ready (p : Nat) : Mueve cfg hora s (.mover_a_susp_ready p) ⟨mover_a_susp_ready hora p s,[],[]⟩
  | manejar_init_proc (k : Nat) (prioridad : Int) : Mueve cfg hora s (.manejar_init_proc k) (crear_proceso (some k) prioridad s)
  | manejar_mem_alloc (p k : Nat) (id_segmento tamanio : Int) :
      Mueve cfg hora s (.manejar_mem_alloc p k) ⟨s,[.pedir (.crear_segmento p k id_segmento tamanio)],[]⟩
  | manejar_mem_free (p k : Nat) (id_segmento : Int) :
      Mueve cfg hora s (.manejar_mem_free p k) ⟨s,[.pedir (.eliminar_segmento p k id_segmento)],[]⟩
  | esperar_planificacion (p n : Nat) (token : s.sem_puede_planificar = n + 1) :
      Mueve cfg hora s (.esperar_planificacion p) ⟨{ s with sem_puede_planificar := n },[.anotar_espera p],[]⟩
  | anotar_espera (p : Nat) :
      Mueve cfg hora s (.anotar_espera p)
        ⟨{ s with proceso_esperando_memoria := some p, cpu_esperando_memoria := (s.procesos p).cpu },
          [.bloquear_por_compactacion p],[]⟩
  | bloquear_por_compactacion (p : Nat) :
      Mueve cfg hora s (.bloquear_por_compactacion p) ⟨bloquear_por_compactacion p s,[.desalojar_todas_las_cpus],[]⟩
  | desalojar_todas_las_cpus (busy : todos_con_cpu s = true) :
      Mueve cfg hora s .desalojar_todas_las_cpus ⟨s,interrupciones s ++ [.enviar_confirmacion],[]⟩
  | atender_io (t : TipoIo) (d n : Nat) (token : s.sem_cola_io t = n + 1) :
      Mueve cfg hora s (.atender_io t d)
        ⟨{ s with sem_cola_io := Function.update s.sem_cola_io t n },[.tomar_pedido_io t d,.atender_io t d],[]⟩
  | tomar_nada (t : TipoIo) (d : Nat) (empty : s.cola_espera_io t = []) : Mueve cfg hora s (.tomar_pedido_io t d) ⟨s,[],[]⟩
  | tomar_pedido_io (t : TipoIo) (d p : Nat) (cola : List Nat) (queue : s.cola_espera_io t = p :: cola) :
      Mueve cfg hora s (.tomar_pedido_io t d)
        ⟨{ s with cola_espera_io := Function.update s.cola_espera_io t cola },ejecutar_io t d p,[]⟩
  | ejecutar_io_stdin (d p : Nat) : Mueve cfg hora s (.ejecutar_io_stdin d p) ⟨s,[.pedir (.escribir_datos p d)],[]⟩
  | io_servida (t : TipoIo) (d p : Nat) : Mueve cfg hora s (.esperar_io t d p) ⟨s,[.manejar_fin_io p],[]⟩
  | io_fallida (t : TipoIo) (d p : Nat) : Mueve cfg hora s (.esperar_io t d p) ⟨s,[],[]⟩
  | fin_io_block (p : Nat) (blocked : (s.procesos p).estado = .BLOCK) :
      Mueve cfg hora s (.manejar_fin_io p) ⟨s.cancelar_timer p,[.mover_proceso_de_block_a_ready p],[]⟩
  | fin_io_susp_block (p : Nat) (suspended : (s.procesos p).estado = .SUSP_BLOCK) :
      Mueve cfg hora s (.manejar_fin_io p) ⟨s.cancelar_timer p,[.mover_a_susp_ready p,.intentar_dessuspender_procesos],[]⟩
  | fin_io_inesperado (p : Nat) (other : (s.procesos p).estado ≠ .BLOCK) (other' : (s.procesos p).estado ≠ .SUSP_BLOCK) :
      Mueve cfg hora s (.manejar_fin_io p) ⟨s.cancelar_timer p,[],[]⟩
  | intentar_dessuspender_procesos :
      Mueve cfg hora s .intentar_dessuspender_procesos ⟨intentar_dessuspender_procesos cfg s,[.seguir_recorrido 0],[]⟩
  | seguir_recorrido (i : Nat) (inside : i < (s.listas .lista_susp_ready).length) :
      Mueve cfg hora s (.seguir_recorrido i) ⟨s,[.leer_susp_ready i],[]⟩
  | recorrido_completo (i : Nat) (done : (s.listas .lista_susp_ready).length ≤ i) : Mueve cfg hora s (.seguir_recorrido i) ⟨s,[],[]⟩
  | leer_susp_ready (i p : Nat) (here : (s.listas .lista_susp_ready)[i]? = some p) :
      Mueve cfg hora s (.leer_susp_ready i) ⟨s,[.pedir (.dessuspender_proceso p i)],[]⟩
  | sacar_de_susp_ready (p i : Nat) (desaloja : Pila) (one : Desalojo desaloja) :
      Mueve cfg hora s (.sacar_de_susp_ready p i)
        ⟨pasa_a_ready cfg .lista_susp_ready p s,desaloja ++ anuncio cfg (s.procesos p).prioridad ++ [.seguir_recorrido i],[]⟩
  | memoria_disponible :
      Mueve cfg hora s .hilo_escuchar_memoria ⟨s,[.intentar_dessuspender_procesos,.hilo_escuchar_memoria],[]⟩
  | aviso_fin_compactacion : Mueve cfg hora s .hilo_escuchar_memoria ⟨s,[.fin_compactacion,.hilo_escuchar_memoria],[]⟩
  | memoria_corrupta : Mueve cfg hora s .hilo_escuchar_memoria ⟨s,[.manejar_bsod,.hilo_escuchar_memoria],[]⟩
  | aviso_desconocido : Mueve cfg hora s .hilo_escuchar_memoria ⟨s,[.hilo_escuchar_memoria],[]⟩
  | memoria_cerrada : Mueve cfg hora s .hilo_escuchar_memoria ⟨s,[],[]⟩
  | fin_compactacion (p : Nat) (waits : s.proceso_esperando_memoria = some p) :
      Mueve cfg hora s .fin_compactacion
        ⟨{ ((s.con_proceso p (fun x => { x with estado := .EXEC, cpu := s.cpu_esperando_memoria })).agregar .lista_exec p).quitar
            .lista_block p with compactando := false },[.redespachar],[]⟩
  | fin_compactacion_nadie (none : s.proceso_esperando_memoria = none) :
      Mueve cfg hora s .fin_compactacion ⟨{ s with compactando := false },[.redespachar],[]⟩
  | redespachar_nadie (none : s.proceso_esperando_memoria = none) : Mueve cfg hora s .redespachar ⟨s,[.post_puede_planificar],[]⟩
  | redespachar (p k : Nat) (waits : s.proceso_esperando_memoria = some p) (reserved : s.cpu_esperando_memoria = some k) :
      Mueve cfg hora s .redespachar ⟨s,[.enviar_ejecutar k p,.limpiar_espera,.post_puede_planificar],[]⟩
  | limpiar_espera :
      Mueve cfg hora s .limpiar_espera ⟨{ s with proceso_esperando_memoria := none, cpu_esperando_memoria := none },[],[]⟩
  | manejar_bsod (busy : todos_con_cpu s = true) :
      Mueve cfg hora s .manejar_bsod
        ⟨{ vaciar cfg s with bsod_activo := true, cpus_pendientes_bsod := (s.listas .lista_exec).length },
          interrupciones s ++ [.salir_si_cero (s.listas .lista_exec).length],[]⟩

theorem find_self {l : List Nat} {p q : Nat} (found : l.find? (· = p) = some q) : q = p := by
  simpa using List.find?_some found

theorem missing_of_find {s : Ks} {p : Nat} (missing : buscar_proceso_en_exec s p = none) : p ∉ s.listas .lista_exec :=
  fun listed => by simpa using List.find?_eq_none.mp missing p listed

theorem sem_wait_some {n : Nat} {pasa : Nat → Efecto} {r : Efecto} (moved : sem_wait n pasa = some r) :
    ∃ m, n = m + 1 ∧ r = pasa m := by
  cases n with
  | zero => cases moved
  | succ m => exact ⟨m,rfl,(Option.some.inj moved).symm⟩

/-- An IO syscall leaves its data in the process and nothing else. -/
theorem manejar_io_some {t : TipoIo} {e : Entrada} {x y : Proceso} (kept : manejar_io t e x = some y) :
    ∃ tiempo direccion_fisica tamanio,
      y = { x with io_tiempo := tiempo, io_direccion_fisica := direccion_fisica, io_tamanio := tamanio } := by
  cases t with
  | SLEEP =>
    obtain ⟨tiempo,_,rfl⟩ := Option.map_eq_some_iff.mp kept
    exact ⟨tiempo,_,_,rfl⟩
  | STDIN =>
    obtain ⟨⟨tamanio,direccion_fisica⟩,_,rfl⟩ := Option.map_eq_some_iff.mp kept
    exact ⟨_,direccion_fisica,tamanio,rfl⟩
  | STDOUT =>
    obtain ⟨⟨direccion_fisica,tamanio⟩,_,rfl⟩ := Option.map_eq_some_iff.mp kept
    exact ⟨_,direccion_fisica,tamanio,rfl⟩

theorem obtener_cases {cfg : Config} {s : Ks} {c : Cola} {p : Nat} (found : obtener_proximo_proceso_ready cfg s = some (c,p)) :
    c ∈ colas_de_ready cfg ∧ ∃ cola, s.listas c = p :: cola := by
  obtain ⟨c',served,head⟩ := List.exists_of_findSome?_eq_some found
  obtain ⟨q,first,same⟩ := Option.map_eq_some_iff.mp head
  cases same
  exact ⟨served,List.head?_eq_some_iff.mp first⟩

/-- manejar_mutex_lock on the mutex of the name. -/
inductive Toma (cfg : Config) (p k : Nat) (nombre : String) (s : Ks) : Efecto → Prop where
  | desconocido (missing : buscar_mutex s nombre = none) : Toma cfg p k nombre s ⟨s,[.enviar_respuesta k .ERROR],[]⟩
  | libre (j : Nat) (m : Mutex) (found : buscar_mutex s nombre = some (j,m)) (free : m.pid_dueno = none) :
      Toma cfg p k nombre s ⟨s.con_mutex j (fun m => { m with pid_dueno := some p }),[.enviar_respuesta k .OK],[]⟩
  | espera (j pid : Nat) (m : Mutex) (r : Ks × Pila) (found : buscar_mutex s nombre = some (j,m)) (taken : m.pid_dueno = some pid)
      (what : r = (s.con_mutex j (fun m => { m with cola_espera := m.cola_espera ++ [p] }),[]) ∨
        (cfg.cmn = true ∧
          buscar_proceso_por_pid cfg (s.con_mutex j (fun m => { m with cola_espera := m.cola_espera ++ [p] })) pid = some pid ∧
          Herencia cfg pid (m.cola_espera ++ [p]) (s.con_mutex j (fun m => { m with cola_espera := m.cola_espera ++ [p] })) r)) :
      Toma cfg p k nombre s ⟨r.1,r.2 ++ [.enviar_respuesta k .BLOQUEADO,.bloquear_proceso p (.mutex j)],[]⟩

/-- manejar_mutex_unlock on the mutex of the name. -/
inductive Suelta (cfg : Config) (p k : Nat) (nombre : String) (s : Ks) : Efecto → Prop where
  | desconocido (missing : buscar_mutex s nombre = none) : Suelta cfg p k nombre s ⟨s,[.enviar_respuesta k .ERROR],[]⟩
  | sin_espera (j : Nat) (m : Mutex) (t : Ks) (found : buscar_mutex s nombre = some (j,m)) (empty : m.cola_espera = [])
      (what : Devolucion p (s.con_mutex j (fun m => { m with pid_dueno := none })) t) :
      Suelta cfg p k nombre s ⟨t,[.enviar_respuesta k .OK],[]⟩
  | cede (j siguiente : Nat) (espera : List Nat) (m : Mutex) (t : Ks) (r : Ks × Pila) (found : buscar_mutex s nombre = some (j,m))
      (queue : m.cola_espera = siguiente :: espera)
      (what : Devolucion p (s.con_mutex j (fun m => { m with pid_dueno := some siguiente, cola_espera := espera })) t)
      (d : Efecto) (inherits : Herencia cfg siguiente espera t r) (silent : r.2 = []) (wakes : Siguiente siguiente r.1 d) :
      Suelta cfg p k nombre s ⟨d.ks,d.sigue ++ [.enviar_respuesta k .OK],[]⟩
  | pausa (j siguiente : Nat) (espera : List Nat) (m : Mutex) (t : Ks) (r : Ks × Pila) (found : buscar_mutex s nombre = some (j,m))
      (queue : m.cola_espera = siguiente :: espera)
      (what : Devolucion p (s.con_mutex j (fun m => { m with pid_dueno := some siguiente, cola_espera := espera })) t)
      (inherits : Herencia cfg siguiente espera t r) (pausa : r.2 ≠ []) :
      Suelta cfg p k nombre s ⟨r.1,r.2 ++ [.despertar_siguiente siguiente,.enviar_respuesta k .OK],[]⟩

theorem manejar_mutex_lock_cases (cfg : Config) (p k : Nat) (nombre : String) (s : Ks) :
    Toma cfg p k nombre s (manejar_mutex_lock cfg p k nombre s) := by
  simp only [manejar_mutex_lock]
  split
  case h_1 missing => exact .desconocido missing
  case h_2 j m found =>
    split
    case h_1 free => exact .libre j m found free
    case h_2 pid taken =>
      refine .espera j pid m _ found taken ?_
      split
      case h_1 q owner =>
        obtain rfl := find_self owner
        split_ifs with cmn
        · exact .inr ⟨cmn,owner,aplicar_herencia_cases cmn q _ _⟩
        · exact .inl rfl
      case h_2 => exact .inl rfl

theorem manejar_mutex_unlock_cases (cfg : Config) (p k : Nat) (nombre : String) (s : Ks) :
    Suelta cfg p k nombre s (manejar_mutex_unlock cfg p k nombre s) := by
  simp only [manejar_mutex_unlock]
  split
  case h_1 missing => exact .desconocido missing
  case h_2 j m found =>
    split
    case h_1 empty =>
      refine .sin_espera j m _ found empty ?_
      split_ifs
      · exact devolver_prioridad_cases p _
      · exact .nada
    case h_2 siguiente espera queue =>
      by_cases cmn : cfg.cmn = true
      · simp only [cmn,if_true]
        have what := devolver_prioridad_cases p (s.con_mutex j (fun m => { m with pid_dueno := some siguiente, cola_espera := espera }))
        have inherits := aplicar_herencia_cases cmn siguiente espera (devolver_prioridad p (s.con_mutex j (fun m => { m with pid_dueno := some siguiente, cola_espera := espera })))
        split_ifs with silent
        · exact .cede j siguiente espera m _ _ found queue what _ inherits silent (despertar_siguiente_cases ..)
        · exact .pausa j siguiente espera m _ _ found queue what inherits silent
      · simp only [cmn,Bool.false_eq_true,if_false]
        exact .cede j siguiente espera m _ _ found queue .nada _ .nada rfl (despertar_siguiente_cases ..)

theorem efecto_mueve {cfg : Config} {hora : Nat} {e : Entrada} {a : Accion} {s : Ks} {r : Efecto}
    (moved : efecto cfg hora e a s = some r) : Mueve cfg hora s a r := by
  cases a with
  | enviar_ejecutar => cases moved; exact .enviar_ejecutar ..
  | enviar_interrumpir => cases moved; exact .enviar_interrumpir ..
  | enviar_respuesta => cases moved; exact .enviar_respuesta ..
  | enviar_confirmacion =>
    simp only [efecto] at moved
    split_ifs at moved with taken
    cases moved
    exact .enviar_confirmacion (by simpa using taken)
  | post_hay_procesos_ready => cases moved; exact .post_hay_procesos_ready
  | post_hay_cpus_libres => cases moved; exact .post_hay_cpus_libres
  | post_puede_planificar => cases moved; exact .post_puede_planificar
  | post_cola_io => cases moved; exact .post_cola_io _
  | pedir q =>
    simp only [efecto] at moved
    split_ifs at moved with taken
    cases moved
    exact .pedir q (by simpa using taken)
  | recibir q =>
    obtain ⟨v,_,rfl⟩ := Option.map_eq_some_iff.mp moved
    exact .recibir q v
  | crear_proceso_inicial => cases moved; exact .crear_proceso_inicial
  | iniciar_hilos => cases moved; exact .iniciar_hilos
  | atender_conexiones_entrantes =>
    simp only [efecto] at moved
    split at moved
    · cases moved; exact .cliente_cpu
    · cases moved; exact .cliente_io _
    · cases moved
  | agregar_a_new p => cases moved; exact .agregar_a_new p
  | mover_proceso_a_ready p =>
    cases moved
    rw [mover_proceso_a_ready,encolar_en_ready_ks,encolar_en_ready_planificable]
    simp only [Ks.con_estado_procesos,Ks.quitar_procesos,Function.update_self]
    exact .mover_proceso_a_ready p _ (encolar_en_ready_desaloja ..)
  | planificador_corto_plazo =>
    simp only [efecto] at moved
    obtain ⟨n,token,rfl⟩ := sem_wait_some moved
    exact .planificador_corto_plazo n token
  | esperar_cpu_libre =>
    simp only [efecto] at moved
    obtain ⟨n,token,rfl⟩ := sem_wait_some moved
    exact .esperar_cpu_libre n token
  | esperar_permiso =>
    simp only [efecto] at moved
    obtain ⟨n,token,rfl⟩ := sem_wait_some moved
    exact .esperar_permiso n token
  | planificar =>
    simp only [efecto,planificar] at moved
    split at moved
    case h_1 none => cases moved; exact .planificar_nada none
    case h_2 c p found =>
      obtain ⟨served,cola,first⟩ := obtener_cases found
      split at moved
      case h_1 k libres free =>
        split_ifs at moved with timer
        · cases moved
          have move := @Mueve.planificar_timer cfg hora s c p k cola libres served first free timer
          simpa [Ks.con_proceso,Ks.agregar,Ks.con_lista,first] using move
        · cases moved
          have move := @Mueve.planificar cfg hora s c p k cola libres served first free (by simpa using timer)
          simpa [first] using move
      case h_2 => cases moved
  | lanzar_quantum t k p => cases moved; exact .lanzar_quantum t k p
  | hilo_quantum t k p =>
    cases moved
    simp only [hilo_quantum]
    split
    case h_1 q found =>
      obtain rfl := find_self found
      split_ifs with valid
      · exact .vence_quantum t k q found valid
      · exact .quantum_viejo t k q
    case h_2 => exact .quantum_viejo t k p
  | hilo_suspension t p =>
    cases moved
    simp only [hilo_suspension]
    split
    case h_1 q found =>
      obtain rfl := find_self found
      split_ifs with valid blocked
      · exact .vence_suspension t q found valid (by simpa using blocked)
      · exact .vence_en_vano t q valid (by simpa using blocked)
      · exact .suspension_vieja t q
    case h_2 => exact .suspension_vieja t p
  | agregar_cpu k => cases moved; exact .agregar_cpu k
  | atender_cpu k =>
    simp only [efecto] at moved
    split at moved
    · cases moved; exact .atender_syscall k
    · cases moved; exact .atender_desconocido k
    · cases moved; exact .atender_fin k _
    · cases moved; exact .atender_corte k
    · cases moved
  | consultar_bsod k c =>
    simp only [efecto] at moved
    split_ifs at moved with bsod
    · cases moved; exact .consultar_bsod k c bsod
    · have normal : s.bsod_activo = false := by simpa using bsod
      split at moved
      · cases moved; exact .consultar_exit k _ normal
      · cases moved; exact .consultar_seg_fault k _ normal
      · cases moved; exact .consultar_fin_quantum k _ normal
  | verificar_fin_bsod => cases moved; exact .verificar_fin_bsod
  | salir_si_cero n => cases moved; exact .salir_si_cero n
  | desconectar_cpu k =>
    cases moved
    simp only [desconectar_cpu]
    split
    case h_1 p busy =>
      have same : proceso_de_cpu (quitar_cpu_libre k s) k = proceso_de_cpu s k := by
        unfold quitar_cpu_libre
        split_ifs <;> rfl
      have prioridad : ((quitar_cpu_libre k s).procesos p).prioridad = (s.procesos p).prioridad := by
        unfold quitar_cpu_libre
        split_ifs <;> rfl
      rw [encolar_en_ready_ks,encolar_en_ready_planificable]
      simp only [Ks.con_cpu_procesos,Ks.con_estado_procesos,Ks.quitar_procesos,Ks.cancelar_timer_procesos,Function.update_self,prioridad]
      exact .desconectar_ocupada k p (same ▸ busy) _ (encolar_en_ready_desaloja ..)
    case h_2 idle =>
      have same : proceso_de_cpu (quitar_cpu_libre k s) k = proceso_de_cpu s k := by
        unfold quitar_cpu_libre
        split_ifs <;> rfl
      exact .desconectar_ociosa k (same ▸ idle)
  | manejar_proceso_exit k =>
    obtain ⟨pid,_,rfl⟩ := Option.map_eq_some_iff.mp moved
    simp only [terminar_proceso]
    split
    case h_1 p found =>
      obtain rfl := find_self found
      exact .manejar_proceso_exit k p (List.mem_of_find?_eq_some found)
    case h_2 missing => exact .exit_desconocido k pid (missing_of_find missing)
  | manejar_seg_fault k =>
    obtain ⟨pid,_,rfl⟩ := Option.map_eq_some_iff.mp moved
    simp only [terminar_proceso]
    split
    case h_1 p found =>
      obtain rfl := find_self found
      exact .manejar_seg_fault k p (List.mem_of_find?_eq_some found)
    case h_2 missing => exact .seg_fault_desconocido k pid (missing_of_find missing)
  | liberar_mutex_del_proceso pid i => cases moved; exact .liberar_mutex_del_proceso pid i
  | ceder_mutex pid i p =>
    cases moved
    have what := despertar_heredero_cases cfg hora p s
    simp only [ceder_mutex]
    split_ifs with silent
    · exact .ceder_mutex pid i p _ what silent
    · exact .ceder_mutex_pausa pid i p _ what silent
  | manejar_fin_quantum k =>
    obtain ⟨pid,_,rfl⟩ := Option.map_eq_some_iff.mp moved
    simp only [manejar_fin_quantum]
    split
    case h_1 p found =>
      obtain rfl := find_self found
      have running := List.mem_of_find?_eq_some found
      by_cases moving : s.compactando
      · simp only [Ks.con_cpu_compactando,Ks.con_estado_compactando,Ks.quitar_compactando,moving,if_true]
        rw [encolar_al_frente_de_ready_ks,encolar_al_frente_de_ready_planificable,encolar_al_frente_de_ready_desaloja]
        simp only [Ks.con_cpu_procesos,Ks.con_estado_procesos,Ks.quitar_procesos,Function.update_self,List.nil_append]
        by_cases invalid : destino cfg (s.procesos p).prioridad = .lista_ready_invalida
        · simpa [invalid] using @Mueve.fin_quantum_invalido cfg hora _ k p running moving invalid
        · simpa [invalid] using @Mueve.fin_quantum_al_frente cfg hora _ k p running moving invalid
      · simp only [Ks.con_cpu_compactando,Ks.con_estado_compactando,Ks.quitar_compactando,moving,Bool.false_eq_true,if_false]
        rw [encolar_en_ready_ks,encolar_en_ready_planificable]
        simp only [Ks.con_cpu_procesos,Ks.con_estado_procesos,Ks.quitar_procesos,Function.update_self]
        exact .manejar_fin_quantum k p running (by simpa using moving) _ (encolar_en_ready_desaloja ..)
    case h_2 missing => exact .fin_quantum_desconocido k pid (missing_of_find missing)
  | liberar_cpu_de_quantum k planificable => cases moved; exact .liberar_cpu_de_quantum k planificable
  | manejar_syscall k =>
    obtain ⟨⟨pid,tipo⟩,_,rfl⟩ := Option.map_eq_some_iff.mp moved
    simp only [manejar_syscall]
    split
    case h_1 p found =>
      obtain rfl := find_self found
      have running := List.mem_of_find?_eq_some found
      cases tipo with
      | io t => exact .syscall_io k p t running
      | mutex_create => exact .syscall_mutex_create k p running
      | mutex_lock => exact .syscall_mutex_lock k p running
      | mutex_unlock => exact .syscall_mutex_unlock k p running
      | init_proc => exact .syscall_init_proc k p running
      | mem_alloc => exact .syscall_mem_alloc k p running
      | mem_free => exact .syscall_mem_free k p running
      | desconocida => exact .syscall_desconocida k p running
    case h_2 missing => exact .syscall_de_nadie k pid (missing_of_find missing)
  | bloquear_proceso p por => cases moved; exact .bloquear_proceso p por
  | manejar_io t p k =>
    obtain ⟨x,kept,rfl⟩ := Option.map_eq_some_iff.mp moved
    exact .manejar_io t p k e x kept
  | encolar_pedido_io t p => cases moved; exact .encolar_pedido_io t p
  | manejar_mutex_create p k =>
    obtain ⟨nombre,_,rfl⟩ := Option.map_eq_some_iff.mp moved
    simp only [manejar_mutex_create]
    split
    case h_1 => exact .mutex_existente p k
    case h_2 new => exact .manejar_mutex_create p k nombre new
  | agregar_mutex nombre => cases moved; exact .agregar_mutex nombre
  | manejar_mutex_lock p k =>
    obtain ⟨nombre,_,rfl⟩ := Option.map_eq_some_iff.mp moved
    have what := manejar_mutex_lock_cases cfg p k nombre s
    generalize manejar_mutex_lock cfg p k nombre s = d at what ⊢
    cases what with
    | desconocido missing => exact .lock_desconocido p k
    | libre j m found free => exact .lock_libre p k j nombre m found free
    | espera j pid m r found taken what => exact .lock_espera p k j pid nombre m r found taken what
  | manejar_mutex_unlock p k =>
    obtain ⟨nombre,_,rfl⟩ := Option.map_eq_some_iff.mp moved
    have what := manejar_mutex_unlock_cases cfg p k nombre s
    generalize manejar_mutex_unlock cfg p k nombre s = d at what ⊢
    cases what with
    | desconocido missing => exact .unlock_desconocido p k
    | sin_espera j m t found empty what => exact .unlock_sin_espera p k j nombre m t found empty what
    | cede j siguiente espera m t r found queue what d inherits silent wakes =>
      exact .unlock_cede p k j siguiente espera nombre m t r found queue what d inherits silent wakes
    | pausa j siguiente espera m t r found queue what inherits pausa =>
      exact .unlock_pausa p k j siguiente espera nombre m t r found queue what inherits pausa
  | despertar_siguiente p => cases moved; exact .despertar_siguiente p _ (despertar_siguiente_cases p s)
  | mover_proceso_de_block_a_ready p =>
    cases moved
    rw [mover_proceso_de_block_a_ready,encolar_en_ready_ks,encolar_en_ready_planificable]
    simp only [Ks.con_estado_procesos,Ks.quitar_procesos,Function.update_self]
    exact .mover_proceso_de_block_a_ready p _ (encolar_en_ready_desaloja ..)
  | mover_a_susp_ready p => cases moved; exact .mover_a_susp_ready p
  | manejar_init_proc k =>
    obtain ⟨prioridad,_,rfl⟩ := Option.map_eq_some_iff.mp moved
    exact .manejar_init_proc k prioridad
  | manejar_mem_alloc p k =>
    obtain ⟨⟨id_segmento,tamanio⟩,_,rfl⟩ := Option.map_eq_some_iff.mp moved
    exact .manejar_mem_alloc p k id_segmento tamanio
  | manejar_mem_free p k =>
    obtain ⟨id_segmento,_,rfl⟩ := Option.map_eq_some_iff.mp moved
    exact .manejar_mem_free p k id_segmento
  | esperar_planificacion p =>
    simp only [efecto] at moved
    obtain ⟨n,token,rfl⟩ := sem_wait_some moved
    exact .esperar_planificacion p n token
  | anotar_espera p => cases moved; exact .anotar_espera p
  | bloquear_por_compactacion p => cases moved; exact .bloquear_por_compactacion p
  | desalojar_todas_las_cpus =>
    simp only [efecto] at moved
    split_ifs at moved with busy
    cases moved
    exact .desalojar_todas_las_cpus busy
  | atender_io t d =>
    simp only [efecto] at moved
    obtain ⟨n,token,rfl⟩ := sem_wait_some moved
    exact .atender_io t d n token
  | tomar_pedido_io t d =>
    cases moved
    simp only [tomar_pedido_io]
    split
    case h_1 empty => exact .tomar_nada t d empty
    case h_2 p cola queue => exact .tomar_pedido_io t d p cola queue
  | ejecutar_io_stdin d p => cases moved; exact .ejecutar_io_stdin d p
  | esperar_io t d p =>
    obtain ⟨ok,_,rfl⟩ := Option.map_eq_some_iff.mp moved
    cases ok with
    | true => exact .io_servida t d p
    | false => exact .io_fallida t d p
  | manejar_fin_io p =>
    cases moved
    simp only [manejar_fin_io,Ks.cancelar_timer_procesos,Function.update_self]
    split
    case h_1 blocked => exact .fin_io_block p blocked
    case h_2 suspended => exact .fin_io_susp_block p suspended
    case h_3 other other' => exact .fin_io_inesperado p other other'
  | intentar_dessuspender_procesos => cases moved; exact .intentar_dessuspender_procesos
  | seguir_recorrido i =>
    cases moved
    by_cases inside : i < (s.listas .lista_susp_ready).length
    · simpa [si,inside] using @Mueve.seguir_recorrido cfg hora _ i inside
    · simpa [si,inside] using @Mueve.recorrido_completo cfg hora _ i (by omega)
  | leer_susp_ready i =>
    obtain ⟨p,here,rfl⟩ := Option.map_eq_some_iff.mp moved
    exact .leer_susp_ready i p here
  | sacar_de_susp_ready p i =>
    cases moved
    rw [sacar_de_susp_ready,encolar_en_ready_ks,encolar_en_ready_planificable]
    simp only [Ks.con_estado_procesos,Ks.quitar_procesos,Function.update_self]
    exact .sacar_de_susp_ready p i _ (encolar_en_ready_desaloja ..)
  | hilo_escuchar_memoria =>
    simp only [efecto] at moved
    split at moved
    · cases moved; exact .memoria_disponible
    · cases moved; exact .aviso_fin_compactacion
    · cases moved; exact .memoria_corrupta
    · cases moved; exact .aviso_desconocido
    · cases moved; exact .memoria_cerrada
    · cases moved
  | fin_compactacion =>
    cases moved
    simp only [fin_compactacion]
    split
    case h_1 p waits => exact .fin_compactacion p waits
    case h_2 none => exact .fin_compactacion_nadie none
  | redespachar =>
    simp only [efecto] at moved
    split at moved
    case h_1 none => cases moved; exact .redespachar_nadie none
    case h_2 p waits =>
      obtain ⟨k,reserved,rfl⟩ := Option.map_eq_some_iff.mp moved
      exact .redespachar p k waits reserved
  | limpiar_espera => cases moved; exact .limpiar_espera
  | manejar_bsod =>
    simp only [efecto,manejar_bsod] at moved
    split_ifs at moved with busy
    cases moved
    exact .manejar_bsod busy

theorem anuncio_de_bucle (cfg : Config) (v : Int) : ∀ b ∈ anuncio cfg v, de_bucle b = true := by
  unfold anuncio si
  split_ifs <;> simp [de_bucle]

theorem interrupciones_de_bucle (s : Ks) : ∀ b ∈ interrupciones s, de_bucle b = true := by
  simp [interrupciones,de_bucle]

/-- Only manejar_bsod touches the flag. -/
theorem mueve_bsod_activo {cfg : Config} {hora : Nat} {s : Ks} {a : Accion} {r : Efecto} (move : Mueve cfg hora s a r)
    (other : a ≠ .manejar_bsod) : r.ks.bsod_activo = s.bsod_activo := by
  have far : Ajena Ks.bsod_activo := fun _ _ _ _ _ => rfl
  cases move with
  | desconectar_ociosa k idle | desconectar_ocupada k p busy desaloja one =>
    change (quitar_cpu_libre k s).bsod_activo = s.bsod_activo
    unfold quitar_cpu_libre
    split_ifs <;> rfl
  | liberar_mutex_del_proceso pid i => exact liberar_ajena far cfg hora pid i s
  | ceder_mutex pid i p r what silent => exact (liberar_ajena far cfg hora pid (i + 1) r.1).trans (despierta_ajena far what)
  | ceder_mutex_pausa pid i p r what pausa => exact despierta_ajena far what
  | lock_espera p k j pid nombre m r found taken what =>
    rcases what with rfl | ⟨cmn,owner,inherits⟩
    · rfl
    · exact (herencia_ajena far inherits).trans rfl
  | unlock_sin_espera p k j nombre m t found empty what => exact (devolucion_ajena far what).trans rfl
  | unlock_cede p k j siguiente espera nombre m t r found queue what d inherits silent wakes =>
    have same := (herencia_ajena far inherits).trans ((devolucion_ajena far what).trans rfl)
    cases wakes <;> exact same
  | unlock_pausa p k j siguiente espera nombre m t r found queue what inherits pausa =>
    exact (herencia_ajena far inherits).trans ((devolucion_ajena far what).trans rfl)
  | despertar_siguiente p d wakes => cases wakes <;> rfl
  | manejar_bsod busy => exact absurd rfl other
  | _ => rfl

/-- A BSOD is never undone, and only manejar_bsod begins one. -/
theorem mueve_bsod {cfg : Config} {s : Ks} {hora : Nat} {a : Accion} {r : Efecto} (move : Mueve cfg hora s a r) (outside : r.ks.bsod_activo = false) :
    s.bsod_activo = false ∧ a ≠ .manejar_bsod := by
  have other : a ≠ .manejar_bsod := by
    rintro rfl
    cases move
    cases outside
  exact ⟨(mueve_bsod_activo move other).symm.trans outside,other⟩

/-- One move of one thread. -/
structure Avanza (cfg : Config) (l : Paso) (s t : Planificador) (a : Accion) (resto : Pila) (r : Efecto) : Prop where
  here : s.hilos[l.hilo]? = some (a :: resto)
  alive : s.ks.terminado = false
  effect : efecto cfg l.hora l.entrada a s.ks = some r
  move : Mueve cfg l.hora s.ks a r
  result : t = ⟨r.ks,advance s.hilos l.hilo r.sigue resto r.lanza⟩

theorem paso_avanza {cfg : Config} {l : Paso} {s t : Planificador} (moved : paso cfg l s = some t) :
    ∃ a resto r, Avanza cfg l s t a resto r := by
  unfold paso at moved
  split at moved
  case h_1 a resto here =>
    split_ifs at moved with ended
    obtain ⟨r,done,rfl⟩ := Option.map_eq_some_iff.mp moved
    exact ⟨a,resto,r,here,by simpa using ended,done,efecto_mueve done,rfl⟩
  case h_2 => cases moved

end PlugNPray.Moves
