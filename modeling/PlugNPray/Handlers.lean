import PlugNPray.Scheduler
import PlugNPray.Stacks
import PlugNPray.Runs

/-!
The threads of Kernel Scheduler. A move takes one thread through its next critical
section, send or receive; what it receives, and the time, come with the label, so that
the other modules may do anything.
-/
namespace PlugNPray.Handlers
open PlugNPray.Scheduler PlugNPray.Stacks PlugNPray.Places

/-! ## What a thread receives -/

inductive Aviso where
  | memoria_disponible
  | fin_compactacion
  | memoria_corrupta
  | desconocido
  deriving DecidableEq

/-- What a move receives; a number that does not arrive is what its variable had. -/
inductive Entrada where
  | nada
  | corte
  | codigo (c : CodigoCpu)
  | pid (p : Nat)
  | llamada (p : Nat) (tipo : Syscall)
  | entero (v : Int)
  | enteros (v w : Int)
  | cadena (nombre : String)
  | respuesta (r : Respuesta)
  | aviso (a : Aviso)
  | respuesta_io (ok : Bool)
  | cliente_cpu
  | cliente_io (tipo : TipoIo)
  deriving DecidableEq

namespace Entrada
def pid? : Entrada → Option Nat
  | pid p => some p
  | _ => none
def llamada? : Entrada → Option (Nat × Syscall)
  | llamada p tipo => some (p,tipo)
  | _ => none
def entero? : Entrada → Option Int
  | entero v => some v
  | _ => none
def enteros? : Entrada → Option (Int × Int)
  | enteros v w => some (v,w)
  | _ => none
def cadena? : Entrada → Option String
  | cadena nombre => some nombre
  | _ => none
def respuesta? : Entrada → Option Respuesta
  | respuesta r => some r
  | _ => none
def respuesta_io? : Entrada → Option Bool
  | respuesta_io ok => some ok
  | _ => none
end Entrada

/-! ## Moves -/

/-- What a move leaves: the shared state, what the thread does next, and the threads it starts. -/
structure Efecto where
  ks : Ks
  sigue : Pila
  lanza : List Pila := []

def si (b : Bool) (a : Accion) : Pila := if b then [a] else []

/-- sem_wait: the thread is held until there is a token. -/
def sem_wait (n : Nat) (pasa : Nat → Efecto) : Option Efecto := if n = 0 then none else some (pasa (n - 1))

/-! ### Processes on their way to ready -/

def mover_proceso_a_ready (cfg : Config) (p : Nat) (s : Ks) : Efecto :=
  let r := encolar_en_ready cfg p ((s.quitar .lista_new p).con_estado p .READY)
  ⟨r.ks,r.desaloja ++ si r.planificable .post_hay_procesos_ready,[]⟩

def mover_proceso_de_block_a_ready (cfg : Config) (p : Nat) (s : Ks) : Efecto :=
  let r := encolar_en_ready cfg p ((s.quitar .lista_block p).con_estado p .READY)
  ⟨r.ks,r.desaloja ++ si r.planificable .post_hay_procesos_ready,[]⟩

def mover_a_susp_ready (hora p : Nat) (s : Ks) : Ks :=
  ((s.quitar .lista_susp_block p).con_proceso p (fun x => { x with estado := .SUSP_READY, tiempo_suspension := hora })).agregar
    .lista_susp_ready p

/-! ### The planner -/

def planificar (cfg : Config) (s : Ks) : Option Efecto :=
  match obtener_proximo_proceso_ready cfg s with
  | none => some ⟨s,[.post_hay_cpus_libres,.post_puede_planificar,.planificador_corto_plazo],[]⟩
  | some (c,p) =>
    match s.lista_cpus_libres with
    | some k :: libres =>
      let s := { s.con_lista c (s.listas c).tail with lista_cpus_libres := libres }
      let s := s.con_proceso p (fun x => { x with estado := .EXEC, cpu := some k, socket_cpu := some k })
      let s := s.agregar .lista_exec p
      if necesita_timer cfg c then
        let t := s.proximo_timer
        some ⟨{ s.con_proceso p (fun x => { x with timer := some t }) with proximo_timer := t + 1 },
          [.enviar_ejecutar k p,.lanzar_quantum t k p,.post_puede_planificar,.planificador_corto_plazo],[]⟩
      else some ⟨s,[.enviar_ejecutar k p,.post_puede_planificar,.planificador_corto_plazo],[]⟩
    | _ => none

/-! ### Timers -/

def hilo_quantum (cfg : Config) (t k pid : Nat) (s : Ks) : Efecto :=
  match buscar_proceso_por_pid cfg s pid with
  | some p =>
    if (s.procesos p).timer = some t then ⟨s.cancelar_timer p,[.enviar_interrumpir (some k) pid],[]⟩ else ⟨s,[],[]⟩
  | none => ⟨s,[],[]⟩

def hilo_suspension (cfg : Config) (t pid : Nat) (s : Ks) : Efecto :=
  match buscar_proceso_por_pid cfg s pid with
  | some p =>
    if (s.procesos p).timer = some t then
      let s := s.cancelar_timer p
      if (s.procesos p).estado = .BLOCK then
        ⟨((s.quitar .lista_block p).con_estado p .SUSP_BLOCK).agregar .lista_susp_block p,[.pedir (.suspender_proceso p)],[]⟩
      else ⟨s,[],[]⟩
    else ⟨s,[],[]⟩
  | none => ⟨s,[],[]⟩

/-! ### CPUs -/

/-- The first running process that is assigned the CPU. -/
def proceso_de_cpu (s : Ks) (k : Nat) : Option Nat :=
  (s.listas .lista_exec).find? (fun p => (s.procesos p).cpu = some k)

/-- A CPU off lista_cpus_libres, with a token of the semaphore if there is one. -/
def quitar_cpu_libre (k : Nat) (s : Ks) : Ks :=
  if some k ∈ s.lista_cpus_libres then
    { s with lista_cpus_libres := s.lista_cpus_libres.erase (some k), sem_hay_cpus_libres := s.sem_hay_cpus_libres - 1 }
  else s

def desconectar_cpu (cfg : Config) (k : Nat) (s : Ks) : Efecto :=
  let s := quitar_cpu_libre k s
  match proceso_de_cpu s k with
  | some p =>
    let r := encolar_en_ready cfg p ((((s.cancelar_timer p).quitar .lista_exec p).con_estado p .READY).con_cpu p none)
    ⟨r.ks,r.desaloja ++ si r.planificable .post_hay_procesos_ready,[]⟩
  | none => ⟨s,[],[]⟩

/-- manejar_proceso_exit and manejar_seg_fault, which differ in their logs only. -/
def terminar_proceso (pid : Nat) (s : Ks) : Efecto :=
  match buscar_proceso_en_exec s pid with
  | some p =>
    ⟨((s.cancelar_timer p).quitar .lista_exec p).con_estado p .EXIT_STATE,
      [.pedir (.finalizar_proceso p (s.procesos p).cpu)],[]⟩
  | none => ⟨s,[],[]⟩

def manejar_fin_quantum (cfg : Config) (pid : Nat) (s : Ks) : Efecto :=
  match buscar_proceso_en_exec s pid with
  | some p =>
    let cpu := (s.procesos p).cpu
    let s := ((s.quitar .lista_exec p).con_estado p .READY).con_cpu p none
    let r := if s.compactando then encolar_al_frente_de_ready cfg p s else encolar_en_ready cfg p s
    ⟨r.ks,r.desaloja ++ [.liberar_cpu_de_quantum cpu r.planificable],[]⟩
  | none => ⟨s,[],[]⟩

def bloquear_proceso (p : Nat) (s : Ks) : Efecto :=
  let cpu := (s.procesos p).cpu
  let t := s.proximo_timer
  let s := ((s.quitar .lista_exec p).con_proceso p
    (fun x => { x with estado := .BLOCK, cpu := none, timer := some t })).agregar .lista_block p
  ⟨{ s with proximo_timer := t + 1 },[.agregar_cpu cpu],[[.hilo_suspension t p]]⟩

def manejar_syscall (k pid : Nat) (tipo : Syscall) (s : Ks) : Efecto :=
  match buscar_proceso_en_exec s pid with
  | some p =>
    match tipo with
    | .io t => ⟨s,[.bloquear_proceso p (.io t),.manejar_io t p k],[]⟩
    | .mutex_create => ⟨s,[.manejar_mutex_create p k],[]⟩
    | .mutex_lock => ⟨s,[.manejar_mutex_lock p k],[]⟩
    | .mutex_unlock => ⟨s,[.manejar_mutex_unlock p k],[]⟩
    | .init_proc => ⟨s,[.manejar_init_proc k],[]⟩
    | .mem_alloc => ⟨s,[.manejar_mem_alloc p k],[]⟩
    | .mem_free => ⟨s,[.manejar_mem_free p k],[]⟩
    | .desconocida => ⟨s,[.enviar_respuesta k .ERROR],[]⟩
  | none => ⟨s,[],[]⟩

/-! ### IO -/

def manejar_io_sleep (e : Entrada) (x : Proceso) : Option Proceso :=
  e.entero?.map (fun tiempo => { x with io_tiempo := tiempo })

def manejar_io_stdin (e : Entrada) (x : Proceso) : Option Proceso :=
  e.enteros?.map (fun (tamanio,direccion_fisica) => { x with io_tamanio := tamanio, io_direccion_fisica := direccion_fisica })

def manejar_io_stdout (e : Entrada) (x : Proceso) : Option Proceso :=
  e.enteros?.map (fun (direccion_fisica,tamanio) => { x with io_direccion_fisica := direccion_fisica, io_tamanio := tamanio })

def manejar_io : TipoIo → Entrada → Proceso → Option Proceso
  | .SLEEP => manejar_io_sleep
  | .STDIN => manejar_io_stdin
  | .STDOUT => manejar_io_stdout

def encolar_pedido_io (tipo : TipoIo) (p : Nat) (s : Ks) : Ks :=
  { s with cola_espera_io := Function.update s.cola_espera_io tipo (s.cola_espera_io tipo ++ [p]) }

/-- What the device is asked first; STDOUT reads the memory before it talks to the device. -/
def ejecutar_io (tipo : TipoIo) (d p : Nat) : Pila :=
  match tipo with
  | .SLEEP => [.esperar_io .SLEEP d p]
  | .STDIN => [.ejecutar_io_stdin d p]
  | .STDOUT => [.pedir (.leer_datos p d)]

def tomar_pedido_io (tipo : TipoIo) (d : Nat) (s : Ks) : Efecto :=
  match s.cola_espera_io tipo with
  | [] => ⟨s,[],[]⟩
  | p :: cola => ⟨{ s with cola_espera_io := Function.update s.cola_espera_io tipo cola },ejecutar_io tipo d p,[]⟩

def manejar_fin_io (p : Nat) (s : Ks) : Efecto :=
  let s := s.cancelar_timer p
  match (s.procesos p).estado with
  | .BLOCK => ⟨s,[.mover_proceso_de_block_a_ready p],[]⟩
  | .SUSP_BLOCK => ⟨s,[.mover_a_susp_ready p,.intentar_dessuspender_procesos],[]⟩
  | _ => ⟨s,[],[]⟩

/-! ### User mutexes -/

def manejar_mutex_create (k : Nat) (nombre : String) (s : Ks) : Efecto :=
  match buscar_mutex s nombre with
  | some _ => ⟨s,[.enviar_respuesta k .OK],[]⟩
  | none => ⟨s,[.agregar_mutex nombre,.enviar_respuesta k .OK],[]⟩

def manejar_mutex_lock (cfg : Config) (p k : Nat) (nombre : String) (s : Ks) : Efecto :=
  match buscar_mutex s nombre with
  | none => ⟨s,[.enviar_respuesta k .ERROR],[]⟩
  | some (j,m) =>
    match m.pid_dueno with
    | none => ⟨s.con_mutex j (fun m => { m with pid_dueno := some p }),[.enviar_respuesta k .OK],[]⟩
    | some pid =>
      let s := s.con_mutex j (fun m => { m with cola_espera := m.cola_espera ++ [p] })
      let r :=
        match buscar_proceso_por_pid cfg s pid with
        | some dueno => if cfg.cmn then aplicar_herencia cfg dueno (m.cola_espera ++ [p]) s else (s,[])
        | none => (s,[])
      ⟨r.1,r.2 ++ [.enviar_respuesta k .BLOQUEADO,.bloquear_proceso p (.mutex j)],[]⟩

/-- The end of the critical section of an unlock: the next owner as it is now. -/
def despertar_siguiente (siguiente : Nat) (s : Ks) : Efecto :=
  let s' := s.cancelar_timer siguiente
  match (s.procesos siguiente).estado with
  | .BLOCK => ⟨s',[.mover_proceso_de_block_a_ready siguiente],[]⟩
  | .SUSP_BLOCK => ⟨s',[.mover_a_susp_ready siguiente],[]⟩
  | _ => ⟨s',[],[]⟩

def manejar_mutex_unlock (cfg : Config) (p k : Nat) (nombre : String) (s : Ks) : Efecto :=
  match buscar_mutex s nombre with
  | none => ⟨s,[.enviar_respuesta k .ERROR],[]⟩
  | some (j,m) =>
    match m.cola_espera with
    | [] =>
      let s := s.con_mutex j (fun m => { m with pid_dueno := none })
      ⟨if cfg.cmn then devolver_prioridad p s else s,[.enviar_respuesta k .OK],[]⟩
    | siguiente :: espera =>
      let s := s.con_mutex j (fun m => { m with pid_dueno := some siguiente, cola_espera := espera })
      let r := if cfg.cmn then aplicar_herencia cfg siguiente espera (devolver_prioridad p s) else (s,[])
      if r.2 = [] then
        let r := despertar_siguiente siguiente r.1
        ⟨r.ks,r.sigue ++ [.enviar_respuesta k .OK],[]⟩
      else ⟨r.1,r.2 ++ [.despertar_siguiente siguiente,.enviar_respuesta k .OK],[]⟩

/-! ### New processes and memory -/

def proceso_nuevo (prioridad : Int) (x : Proceso) : Proceso :=
  { x with
    prioridad := prioridad, prioridad_original := prioridad, estado := .NEW, socket_cpu := none, cpu := none, timer := none }

/-- manejar_init_proc; the process created at the start has no CPU that asks for it. -/
def crear_proceso (k : Option Nat) (prioridad : Int) (s : Ks) : Efecto :=
  let p := s.proximo_pid
  ⟨{ s.con_proceso p (proceso_nuevo prioridad) with proximo_pid := p + 1 },[.pedir (.crear_proceso p k)],[]⟩

def bloquear_por_compactacion (p : Nat) (s : Ks) : Ks :=
  let s := (s.quitar .lista_exec p).con_proceso p (fun x => { x with estado := .BLOCK, cpu := none })
  { s.agregar .lista_block p with compactando := true }

/-- The interrupts for all running processes; one without a CPU is a NULL dereference. -/
def interrupciones (s : Ks) : Pila :=
  (s.listas .lista_exec).map (fun p => .enviar_interrumpir (s.procesos p).cpu p)

def todos_con_cpu (s : Ks) : Bool := (s.listas .lista_exec).all (fun p => (s.procesos p).cpu.isSome)

/-- What follows the answer to a request. -/
def tras_respuesta : Pedido → Respuesta → Pila
  | .crear_proceso p none, _ => [.agregar_a_new p,.mover_proceso_a_ready p,.iniciar_hilos]
  | .crear_proceso p (some k), .OK => [.agregar_a_new p,.mover_proceso_a_ready p,.enviar_respuesta k .OK]
  | .crear_proceso _ (some k), _ => [.enviar_respuesta k .ERROR]
  | .finalizar_proceso p cpu, _ => [.liberar_mutex_del_proceso p 0,.agregar_cpu cpu]
  | .suspender_proceso _, _ => []
  | .dessuspender_proceso p i, .OK => [.sacar_de_susp_ready p i]
  | .dessuspender_proceso _ i, _ => [.seguir_recorrido (i + 1)]
  | .crear_segmento _ k _ _, .OK => [.enviar_respuesta k .OK]
  | .crear_segmento p k _ _, .COMPACTAR => [.enviar_respuesta k .BLOQUEADO,.esperar_planificacion p]
  | .crear_segmento _ k _ _, .ERROR => [.enviar_respuesta k .ERROR]
  | .eliminar_segmento _ k _, .OK => [.enviar_respuesta k .OK]
  | .eliminar_segmento _ k _, _ => [.enviar_respuesta k .ERROR]
  | .escribir_datos p _, .OK => [.manejar_fin_io p]
  | .escribir_datos _ _, _ => []
  | .leer_datos p d, _ => [.esperar_io .STDOUT d p]

/-! ### De-suspension and notifications -/

def comparar_prioridad_suspension (s : Ks) (a b : Nat) : Bool :=
  let a := s.procesos a
  let b := s.procesos b
  if a.prioridad ≠ b.prioridad then a.prioridad < b.prioridad else a.tiempo_suspension < b.tiempo_suspension

def intentar_dessuspender_procesos (cfg : Config) (s : Ks) : Ks :=
  s.con_lista .lista_susp_ready (cfg.sorter.sort (comparar_prioridad_suspension s) (s.listas .lista_susp_ready))

def sacar_de_susp_ready (cfg : Config) (p i : Nat) (s : Ks) : Efecto :=
  let r := encolar_en_ready cfg p ((s.quitar .lista_susp_ready p).con_estado p .READY)
  ⟨r.ks,r.desaloja ++ si r.planificable .post_hay_procesos_ready ++ [.seguir_recorrido i],[]⟩

def fin_compactacion (s : Ks) : Ks :=
  match s.proceso_esperando_memoria with
  | some p =>
    let s := s.con_proceso p (fun x => { x with estado := .EXEC, cpu := s.cpu_esperando_memoria })
    { (s.agregar .lista_exec p).quitar .lista_block p with compactando := false }
  | none => { s with compactando := false }

/-- The lists that manejar_bsod empties. It also frees the records of their processes; a record keeps its fields here, and what a
    thread that still has one reads of it afterwards is undefined in the source. -/
def vaciar (cfg : Config) (s : Ks) : Ks :=
  { s with
    listas := fun c =>
      match c with
      | .lista_new | .lista_block | .lista_susp_ready | .lista_susp_block | .lista_ready_invalida | .lista_exec
      | .lista_ready => []
      | .colas_ready n => if cfg.cmn ∧ n < cfg.cantidad_colas then [] else s.listas (.colas_ready n) }

def manejar_bsod (cfg : Config) (s : Ks) : Option Efecto :=
  let n := (s.listas .lista_exec).length
  if todos_con_cpu s then
    some ⟨{ vaciar cfg s with bsod_activo := true, cpus_pendientes_bsod := n },interrupciones s ++ [.salir_si_cero n],[]⟩
  else none

def verificar_fin_bsod (s : Ks) : Efecto :=
  let pendientes := s.cpus_pendientes_bsod - 1
  ⟨{ s with cpus_pendientes_bsod := pendientes },[.salir_si_cero pendientes],[]⟩

/-! ### One move -/

def efecto (cfg : Config) (hora : Nat) (e : Entrada) (a : Accion) (s : Ks) : Option Efecto :=
  match a with
  | .enviar_ejecutar _ _ | .enviar_interrumpir _ _ | .enviar_respuesta _ _ => some ⟨s,[],[]⟩
  | .enviar_confirmacion => if s.mutex_pedidos_memoria then none else some ⟨s,[],[]⟩
  | .post_hay_procesos_ready => some ⟨{ s with sem_hay_procesos_ready := s.sem_hay_procesos_ready + 1 },[],[]⟩
  | .post_hay_cpus_libres => some ⟨{ s with sem_hay_cpus_libres := s.sem_hay_cpus_libres + 1 },[],[]⟩
  | .post_puede_planificar => some ⟨{ s with sem_puede_planificar := s.sem_puede_planificar + 1 },[],[]⟩
  | .post_cola_io t => some ⟨{ s with sem_cola_io := Function.update s.sem_cola_io t (s.sem_cola_io t + 1) },[],[]⟩
  | .pedir q => if s.mutex_pedidos_memoria then none else some ⟨{ s with mutex_pedidos_memoria := true },[.recibir q],[]⟩
  | .recibir q => e.respuesta?.map (fun r => ⟨{ s with mutex_pedidos_memoria := false },tras_respuesta q r,[]⟩)
  | .crear_proceso_inicial => some (crear_proceso none 0 s)
  | .iniciar_hilos => some ⟨s,[.atender_conexiones_entrantes],[[.planificador_corto_plazo],[.hilo_escuchar_memoria]]⟩
  | .atender_conexiones_entrantes =>
    let n := s.proximo_cliente
    match e with
    | .cliente_cpu =>
      some ⟨{ s with proximo_cliente := n + 1 },[.atender_conexiones_entrantes],[[.agregar_cpu (some n),.atender_cpu n]]⟩
    | .cliente_io t => some ⟨{ s with proximo_cliente := n + 1 },[.atender_conexiones_entrantes],[[.atender_io t n]]⟩
    | _ => none
  | .agregar_a_new p => some ⟨s.agregar .lista_new p,[],[]⟩
  | .mover_proceso_a_ready p => some (mover_proceso_a_ready cfg p s)
  | .planificador_corto_plazo =>
    sem_wait s.sem_hay_procesos_ready (fun n => ⟨{ s with sem_hay_procesos_ready := n },[.esperar_cpu_libre],[]⟩)
  | .esperar_cpu_libre => sem_wait s.sem_hay_cpus_libres (fun n => ⟨{ s with sem_hay_cpus_libres := n },[.esperar_permiso],[]⟩)
  | .esperar_permiso => sem_wait s.sem_puede_planificar (fun n => ⟨{ s with sem_puede_planificar := n },[.planificar],[]⟩)
  | .planificar => planificar cfg s
  | .lanzar_quantum t k p => some ⟨s,[],[[.hilo_quantum t k p]]⟩
  | .hilo_quantum t k p => some (hilo_quantum cfg t k p s)
  | .hilo_suspension t p => some (hilo_suspension cfg t p s)
  | .agregar_cpu cpu => some ⟨{ s with lista_cpus_libres := s.lista_cpus_libres ++ [cpu] },[.post_hay_cpus_libres],[]⟩
  | .atender_cpu k =>
    match e with
    | .codigo .proceso_syscall => some ⟨s,[.manejar_syscall k,.atender_cpu k],[]⟩
    | .codigo .desconocido => some ⟨s,[.atender_cpu k],[]⟩
    | .codigo c => some ⟨s,[.consultar_bsod k c,.atender_cpu k],[]⟩
    | .corte => some ⟨s,[.desconectar_cpu k],[]⟩
    | _ => none
  | .consultar_bsod k c =>
    if s.bsod_activo then some ⟨s,[.verificar_fin_bsod],[]⟩
    else
      match c with
      | .proceso_exit => some ⟨s,[.manejar_proceso_exit k],[]⟩
      | .proceso_seg_fault => some ⟨s,[.manejar_seg_fault k],[]⟩
      | _ => some ⟨s,[.manejar_fin_quantum k],[]⟩
  | .verificar_fin_bsod => some (verificar_fin_bsod s)
  | .desconectar_cpu k => some (desconectar_cpu cfg k s)
  | .manejar_proceso_exit _ | .manejar_seg_fault _ => e.pid?.map (fun p => terminar_proceso p s)
  | .liberar_mutex_del_proceso pid i =>
    let r := liberar_mutex_del_proceso cfg hora pid i s
    some ⟨r.1,r.2,[]⟩
  | .ceder_mutex pid i siguiente =>
    let r := ceder_mutex cfg hora pid i siguiente s
    some ⟨r.1,r.2,[]⟩
  | .manejar_fin_quantum _ => e.pid?.map (fun p => manejar_fin_quantum cfg p s)
  | .liberar_cpu_de_quantum cpu planificable =>
    some ⟨{ s with lista_cpus_libres := s.lista_cpus_libres ++ [cpu] },
      si planificable .post_hay_procesos_ready ++ [.post_hay_cpus_libres],[]⟩
  | .manejar_syscall k => e.llamada?.map (fun (p,tipo) => manejar_syscall k p tipo s)
  | .bloquear_proceso p _ => some (bloquear_proceso p s)
  | .manejar_io t p _ =>
    (manejar_io t e (s.procesos p)).map (fun x => ⟨s.con_proceso p (fun _ => x),[.encolar_pedido_io t p],[]⟩)
  | .encolar_pedido_io t p => some ⟨encolar_pedido_io t p s,[.post_cola_io t],[]⟩
  | .manejar_mutex_create _ k => e.cadena?.map (fun nombre => manejar_mutex_create k nombre s)
  | .agregar_mutex nombre => some ⟨{ s with lista_mutex := s.lista_mutex ++ [⟨nombre,none,[]⟩] },[],[]⟩
  | .manejar_mutex_lock p k => e.cadena?.map (fun nombre => manejar_mutex_lock cfg p k nombre s)
  | .manejar_mutex_unlock p k => e.cadena?.map (fun nombre => manejar_mutex_unlock cfg p k nombre s)
  | .despertar_siguiente siguiente => some (despertar_siguiente siguiente s)
  | .mover_proceso_de_block_a_ready p => some (mover_proceso_de_block_a_ready cfg p s)
  | .mover_a_susp_ready p => some ⟨mover_a_susp_ready hora p s,[],[]⟩
  | .manejar_init_proc k => e.entero?.map (fun prioridad => crear_proceso (some k) prioridad s)
  | .manejar_mem_alloc p k => e.enteros?.map (fun (id_segmento,tamanio) => ⟨s,[.pedir (.crear_segmento p k id_segmento tamanio)],[]⟩)
  | .manejar_mem_free p k => e.entero?.map (fun id_segmento => ⟨s,[.pedir (.eliminar_segmento p k id_segmento)],[]⟩)
  | .esperar_planificacion p =>
    sem_wait s.sem_puede_planificar (fun n => ⟨{ s with sem_puede_planificar := n },[.anotar_espera p],[]⟩)
  | .anotar_espera p =>
    some ⟨{ s with proceso_esperando_memoria := some p, cpu_esperando_memoria := (s.procesos p).cpu },
      [.bloquear_por_compactacion p],[]⟩
  | .bloquear_por_compactacion p => some ⟨bloquear_por_compactacion p s,[.desalojar_todas_las_cpus],[]⟩
  | .desalojar_todas_las_cpus =>
    if todos_con_cpu s then some ⟨s,interrupciones s ++ [.enviar_confirmacion],[]⟩ else none
  | .atender_io t d =>
    sem_wait (s.sem_cola_io t) (fun n =>
      ⟨{ s with sem_cola_io := Function.update s.sem_cola_io t n },[.tomar_pedido_io t d,.atender_io t d],[]⟩)
  | .tomar_pedido_io t d => some (tomar_pedido_io t d s)
  | .ejecutar_io_stdin d p => some ⟨s,[.pedir (.escribir_datos p d)],[]⟩
  | .esperar_io _ _ p => e.respuesta_io?.map (fun ok => ⟨s,si ok (.manejar_fin_io p),[]⟩)
  | .manejar_fin_io p => some (manejar_fin_io p s)
  | .intentar_dessuspender_procesos => some ⟨intentar_dessuspender_procesos cfg s,[.seguir_recorrido 0],[]⟩
  | .seguir_recorrido i => some ⟨s,si (i < (s.listas .lista_susp_ready).length) (.leer_susp_ready i),[]⟩
  | .leer_susp_ready i =>
    (s.listas .lista_susp_ready)[i]?.map (fun p => ⟨s,[.pedir (.dessuspender_proceso p i)],[]⟩)
  | .sacar_de_susp_ready p i => some (sacar_de_susp_ready cfg p i s)
  | .hilo_escuchar_memoria =>
    match e with
    | .aviso .memoria_disponible => some ⟨s,[.intentar_dessuspender_procesos,.hilo_escuchar_memoria],[]⟩
    | .aviso .fin_compactacion => some ⟨s,[.fin_compactacion,.hilo_escuchar_memoria],[]⟩
    | .aviso .memoria_corrupta => some ⟨s,[.manejar_bsod,.hilo_escuchar_memoria],[]⟩
    | .aviso .desconocido => some ⟨s,[.hilo_escuchar_memoria],[]⟩
    | .corte => some ⟨s,[],[]⟩
    | _ => none
  | .fin_compactacion => some ⟨fin_compactacion s,[.redespachar],[]⟩
  | .redespachar =>
    match s.proceso_esperando_memoria with
    | none => some ⟨s,[.post_puede_planificar],[]⟩
    | some p => s.cpu_esperando_memoria.map (fun k => ⟨s,[.enviar_ejecutar k p,.limpiar_espera,.post_puede_planificar],[]⟩)
  | .limpiar_espera => some ⟨{ s with proceso_esperando_memoria := none, cpu_esperando_memoria := none },[],[]⟩
  | .manejar_bsod => manejar_bsod cfg s
  | .salir_si_cero n => some ⟨{ s with terminado := s.terminado || n = 0 },[],[]⟩

/-! ## The process and its threads -/

structure Planificador where
  ks : Ks
  hilos : List Pila

/-- Thread `hilo` makes its next move, at time `hora`. -/
structure Paso where
  hilo : Nat
  entrada : Entrada := .nada
  hora : Nat := 0
  deriving DecidableEq

def paso (cfg : Config) (l : Paso) (s : Planificador) : Option Planificador :=
  match s.hilos[l.hilo]? with
  | some (a :: resto) =>
    if s.ks.terminado then none
    else (efecto cfg l.hora l.entrada a s.ks).map (fun r => ⟨r.ks,advance s.hilos l.hilo r.sigue resto r.lanza⟩)
  | _ => none

/-- What a thread does next. -/
def cima (s : Planificador) (i : Nat) : Option Accion := (s.hilos[i]?).bind List.head?

theorem cima_of_here {s : Planificador} {i : Nat} {a : Accion} {resto : Pila} (here : s.hilos[i]? = some (a :: resto)) :
    cima s i = some a := by
  simp [cima,here]

/-- A condition on what the thread that moves does next, what it receives and what it finds. -/
def al_mover (f : Accion → Entrada → Ks → Bool) (l : Paso) (s : Planificador) : Bool :=
  (cima s l.hilo).all (fun a => f a l.entrada s.ks)

/-- The start of main, once the two connections to Kernel Memory are made. -/
def inicial : Planificador where
  ks := {
    procesos := fun _ => ⟨0,0,.NEW,none,none,none,0,0,0,0⟩
    listas := fun _ => []
    lista_cpus_libres := []
    lista_mutex := []
    cola_espera_io := fun _ => []
    sem_cola_io := fun _ => 0
    sem_puede_planificar := 1
    sem_hay_procesos_ready := 0
    sem_hay_cpus_libres := 0
    mutex_pedidos_memoria := false
    compactando := false
    proceso_esperando_memoria := none
    cpu_esperando_memoria := none
    bsod_activo := false
    cpus_pendientes_bsod := 0
    proximo_pid := 0
    proximo_timer := 0
    proximo_cliente := 0
    terminado := false }
  hilos := [[.crear_proceso_inicial]]

def fifo : Config := ⟨.FIFO,[],false,PlugNPray.Sorting.insertion_sorter⟩
def rr : Config := ⟨.RR,[],false,PlugNPray.Sorting.insertion_sorter⟩

/-- main up to its loop: threads 1 and 2 are the planner and the one that listens to Kernel Memory. -/
def arranque : List Paso := [{ hilo := 0 },{ hilo := 0 },{ hilo := 0, entrada := .respuesta .OK },{ hilo := 0 },{ hilo := 0 },
  { hilo := 0 },{ hilo := 0 }]

/-- `n` moves of a thread that receives nothing. -/
def turnos (h n : Nat) : List Paso := List.replicate n { hilo := h }

/-- The thread of a CPU receives a syscall and its argument. -/
def llama (h p : Nat) (tipo : Syscall) (e : Entrada) : List Paso :=
  [{ hilo := h, entrada := .codigo .proceso_syscall },{ hilo := h, entrada := .llamada p tipo },{ hilo := h, entrada := e }]

/-- A memory syscall of process 0 on the CPU of thread 3, with the answer of Kernel Memory. -/
def pide_memoria (tipo : Syscall) (e : Entrada) (v : Respuesta) : List Paso :=
  llama 3 0 tipo e ++ turnos 3 1 ++ [{ hilo := 3, entrada := .respuesta v }] ++ turnos 3 1

/-- Two CPUs, on threads 3 and 4, with processes 0 and 1; process 0 creates a mutex and is about to lock it. -/
def por_tomar : List Paso :=
  arranque ++ [{ hilo := 0, entrada := .cliente_cpu }] ++ turnos 3 2 ++ turnos 1 6 ++
    llama 3 0 .init_proc (.entero 0) ++ turnos 3 1 ++ [{ hilo := 3, entrada := .respuesta .OK }] ++ turnos 3 4 ++
    [{ hilo := 0, entrada := .cliente_cpu }] ++ turnos 4 2 ++ turnos 1 6 ++
    llama 3 0 .mutex_create (.cadena "m") ++ turnos 3 2 ++
    [{ hilo := 3, entrada := .codigo .proceso_syscall },{ hilo := 3, entrada := .llamada 0 .mutex_lock }]

def toma : Paso := { hilo := 3, entrada := .cadena "m" }

/-- Process 0 has the mutex, and process 1 asks for it and blocks. -/
def candado : List Paso := por_tomar ++ [toma] ++ turnos 3 1 ++ llama 4 1 .mutex_lock (.cadena "m") ++ turnos 4 4

end PlugNPray.Handlers
