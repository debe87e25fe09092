import PlugNPray.Sorting
import PlugNPray.Places

/-!
The shared state of Kernel Scheduler and its functions under mutex_listas: process
states and their lists, ready queues, user mutexes with priority inheritance, IO
queues. What a thread has still to do is data too, because some of these functions
give the lock up in the middle to send an interrupt.
-/
namespace PlugNPray.Scheduler
open PlugNPray.Sorting PlugNPray.Places

/-! ## Data -/

inductive Algoritmo where
  | FIFO
  | RR
  | CMN
  deriving DecidableEq

structure Config where
  algoritmo_planificacion : Algoritmo
  algoritmos_por_cola : List Algoritmo
  desalojo_entre_colas : Bool
  sorter : Sorter

namespace Config
def cmn (cfg : Config) : Bool := cfg.algoritmo_planificacion = .CMN
def cantidad_colas (cfg : Config) : Nat := cfg.algoritmos_por_cola.length
end Config

inductive Estado where
  | NEW
  | READY
  | EXEC
  | BLOCK
  | SUSP_READY
  | SUSP_BLOCK
  | EXIT_STATE
  deriving DecidableEq

/-- t_proceso; `none` stands for the -1 of socket_cpu and for NULL. -/
structure Proceso where
  prioridad : Int
  prioridad_original : Int
  estado : Estado
  socket_cpu : Option Nat
  cpu : Option Nat
  timer : Option Nat
  io_tiempo : Int
  io_direccion_fisica : Int
  io_tamanio : Int
  tiempo_suspension : Nat
  deriving DecidableEq

structure Mutex where
  nombre : String
  pid_dueno : Option Nat
  cola_espera : List Nat
  deriving DecidableEq

inductive TipoIo where
  | SLEEP
  | STDIN
  | STDOUT
  deriving DecidableEq

/-- The lists of processes. -/
inductive Cola where
  | lista_new
  | lista_ready
  | colas_ready (c : Nat)
  | lista_ready_invalida
  | lista_exec
  | lista_block
  | lista_susp_ready
  | lista_susp_block
  deriving DecidableEq

/-- The globals. A process is its pid, a CPU, a device and a timer the number of its record; `proximo_pid`, an int in the source,
    has no end here. -/
structure Ks where
  procesos : Nat → Proceso
  listas : Cola → List Nat
  lista_cpus_libres : List (Option Nat)
  lista_mutex : List Mutex
  cola_espera_io : TipoIo → List Nat
  sem_cola_io : TipoIo → Nat
  sem_puede_planificar : Nat
  sem_hay_procesos_ready : Nat
  sem_hay_cpus_libres : Nat
  /-- Taken by a thread that waits for the answer of Kernel Memory. -/
  mutex_pedidos_memoria : Bool
  compactando : Bool
  proceso_esperando_memoria : Option Nat
  cpu_esperando_memoria : Option Nat
  bsod_activo : Bool
  cpus_pendientes_bsod : Int
  proximo_pid : Nat
  proximo_timer : Nat
  proximo_cliente : Nat
  /-- exit has been called. -/
  terminado : Bool

/-! ## What a thread has still to do -/

/-- The requests to Kernel Memory, each with what its caller needs once it is answered. -/
inductive Pedido where
  | crear_proceso (proceso : Nat) (cpu : Option Nat)
  | finalizar_proceso (proceso : Nat) (cpu : Option Nat)
  | suspender_proceso (proceso : Nat)
  | dessuspender_proceso (proceso i : Nat)
  | crear_segmento (proceso cpu : Nat) (id_segmento tamanio : Int)
  | eliminar_segmento (proceso cpu : Nat) (id_segmento : Int)
  | escribir_datos (proceso io : Nat)
  | leer_datos (proceso io : Nat)
  deriving DecidableEq

inductive Respuesta where
  | OK
  | COMPACTAR
  | ERROR
  deriving DecidableEq

/-- The answer to a syscall. -/
inductive RespuestaCpu where
  | OK
  | BLOQUEADO
  | ERROR
  deriving DecidableEq

/-- The code that opens a message of a CPU. -/
inductive CodigoCpu where
  | proceso_exit
  | proceso_syscall
  | proceso_fin_quantum
  | proceso_seg_fault
  | desconocido
  deriving DecidableEq

inductive Syscall where
  | io (tipo : TipoIo)
  | mutex_create
  | mutex_lock
  | mutex_unlock
  | init_proc
  | mem_alloc
  | mem_free
  | desconocida
  deriving DecidableEq

/-- What a process blocks for. -/
inductive Motivo where
  | io (tipo : TipoIo)
  | mutex (lugar : Nat)
  deriving DecidableEq

/-- What a thread does next up to the end of a critical section, a send or a receive; the name
    is that of the function of the source, or says which part of one it is. -/
inductive Accion where
  /- Sends, semaphores and requests. -/
  | enviar_ejecutar (cpu proceso : Nat)
  | enviar_interrumpir (socket : Option Nat) (proceso : Nat)
  | enviar_respuesta (cpu : Nat) (r : RespuestaCpu)
  | enviar_confirmacion
  | post_hay_procesos_ready
  | post_hay_cpus_libres
  | post_puede_planificar
  | post_cola_io (tipo : TipoIo)
  | pedir (pedido : Pedido)
  | recibir (pedido : Pedido)
  /- main -/
  | crear_proceso_inicial
  | iniciar_hilos
  | atender_conexiones_entrantes
  | agregar_a_new (proceso : Nat)
  | mover_proceso_a_ready (proceso : Nat)
  /- planificador_corto_plazo -/
  | planificador_corto_plazo
  | esperar_cpu_libre
  | esperar_permiso
  | planificar
  | lanzar_quantum (timer cpu proceso : Nat)
  /- The timers. -/
  | hilo_quantum (timer cpu proceso : Nat)
  | hilo_suspension (timer proceso : Nat)
  /- atender_cpu and its handlers. -/
  | agregar_cpu (cpu : Option Nat)
  | atender_cpu (cpu : Nat)
  | consultar_bsod (cpu : Nat) (codigo : CodigoCpu)
  | verificar_fin_bsod
  | desconectar_cpu (cpu : Nat)
  | manejar_proceso_exit (cpu : Nat)
  | manejar_seg_fault (cpu : Nat)
  | liberar_mutex_del_proceso (pid i : Nat)
  | ceder_mutex (pid i siguiente : Nat)
  | manejar_fin_quantum (cpu : Nat)
  | liberar_cpu_de_quantum (cpu : Option Nat) (planificable : Bool)
  | manejar_syscall (cpu : Nat)
  | bloquear_proceso (proceso : Nat) (motivo : Motivo)
  | manejar_io (tipo : TipoIo) (proceso cpu : Nat)
  | encolar_pedido_io (tipo : TipoIo) (proceso : Nat)
  | manejar_mutex_create (proceso cpu : Nat)
  | agregar_mutex (nombre : String)
  | manejar_mutex_lock (proceso cpu : Nat)
  | manejar_mutex_unlock (proceso cpu : Nat)
  | despertar_siguiente (siguiente : Nat)
  | mover_proceso_de_block_a_ready (proceso : Nat)
  | mover_a_susp_ready (proceso : Nat)
  | manejar_init_proc (cpu : Nat)
  | manejar_mem_alloc (proceso cpu : Nat)
  | manejar_mem_free (proceso cpu : Nat)
  | esperar_planificacion (proceso : Nat)
  | anotar_espera (proceso : Nat)
  | bloquear_por_compactacion (proceso : Nat)
  | desalojar_todas_las_cpus
  /- atender_io -/
  | atender_io (tipo : TipoIo) (io : Nat)
  | tomar_pedido_io (tipo : TipoIo) (io : Nat)
  | ejecutar_io_stdin (io proceso : Nat)
  | esperar_io (tipo : TipoIo) (io proceso : Nat)
  | manejar_fin_io (proceso : Nat)
  /- intentar_dessuspender_procesos and hilo_escuchar_memoria -/
  | intentar_dessuspender_procesos
  | seguir_recorrido (i : Nat)
  | leer_susp_ready (i : Nat)
  | sacar_de_susp_ready (proceso i : Nat)
  | hilo_escuchar_memoria
  | fin_compactacion
  | redespachar
  | limpiar_espera
  | manejar_bsod
  | salir_si_cero (cpus : Int)
  deriving DecidableEq

abbrev Pila := List Accion

/-! ## Editing the shared state -/

namespace Ks

@[simps] def con_proceso (s : Ks) (p : Nat) (f : Proceso → Proceso) : Ks :=
  { s with procesos := Function.update s.procesos p (f (s.procesos p)) }

@[simps] def con_lista (s : Ks) (c : Cola) (l : List Nat) : Ks := { s with listas := Function.update s.listas c l }

/-- list_add -/
@[simps] def agregar (s : Ks) (c : Cola) (p : Nat) : Ks :=
  { s with listas := Function.update s.listas c (s.listas c ++ [p]) }

/-- list_add_in_index at 0 -/
@[simps] def agregar_al_frente (s : Ks) (c : Cola) (p : Nat) : Ks :=
  { s with listas := Function.update s.listas c (p :: s.listas c) }

/-- list_remove_element -/
@[simps] def quitar (s : Ks) (c : Cola) (p : Nat) : Ks :=
  { s with listas := Function.update s.listas c ((s.listas c).erase p) }

@[simps] def con_mutex (s : Ks) (j : Nat) (f : Mutex → Mutex) : Ks := { s with lista_mutex := s.lista_mutex.modify j f }

@[simps] def con_estado (s : Ks) (p : Nat) (e : Estado) : Ks :=
  { s with procesos := Function.update s.procesos p { s.procesos p with estado := e } }

@[simps] def con_prioridad (s : Ks) (p : Nat) (v : Int) : Ks :=
  { s with procesos := Function.update s.procesos p { s.procesos p with prioridad := v } }

@[simps] def con_cpu (s : Ks) (p : Nat) (k : Option Nat) : Ks :=
  { s with procesos := Function.update s.procesos p { s.procesos p with cpu := k } }

@[simps] def cancelar_timer (s : Ks) (p : Nat) : Ks :=
  { s with procesos := Function.update s.procesos p { s.procesos p with timer := none } }

section fields
variable (s : Ks) (c : Cola) (p : Nat)

@[simp] theorem listas_con_proceso (f : Proceso → Proceso) : (s.con_proceso p f).listas = s.listas := rfl
@[simp] theorem listas_con_mutex (j : Nat) (f : Mutex → Mutex) : (s.con_mutex j f).listas = s.listas := rfl
@[simp] theorem listas_con_estado (e : Estado) : (s.con_estado p e).listas = s.listas := rfl
@[simp] theorem listas_con_prioridad (v : Int) : (s.con_prioridad p v).listas = s.listas := rfl
@[simp] theorem listas_con_cpu (k : Option Nat) : (s.con_cpu p k).listas = s.listas := rfl
@[simp] theorem listas_cancelar_timer : (s.cancelar_timer p).listas = s.listas := rfl
@[simp] theorem listas_con_lista (l : List Nat) : (s.con_lista c l).listas = Function.update s.listas c l := rfl
@[simp] theorem listas_agregar : (s.agregar c p).listas = Function.update s.listas c (s.listas c ++ [p]) := rfl
@[simp] theorem listas_agregar_al_frente : (s.agregar_al_frente c p).listas = Function.update s.listas c (p :: s.listas c) := rfl
@[simp] theorem listas_quitar : (s.quitar c p).listas = Function.update s.listas c ((s.listas c).erase p) := rfl
@[simp] theorem procesos_con_lista (l : List Nat) : (s.con_lista c l).procesos = s.procesos := rfl
@[simp] theorem procesos_agregar : (s.agregar c p).procesos = s.procesos := rfl
@[simp] theorem procesos_agregar_al_frente : (s.agregar_al_frente c p).procesos = s.procesos := rfl
@[simp] theorem procesos_quitar : (s.quitar c p).procesos = s.procesos := rfl
@[simp] theorem procesos_con_mutex (j : Nat) (f : Mutex → Mutex) : (s.con_mutex j f).procesos = s.procesos := rfl
end fields

end Ks

/-! ## Looking processes and mutexes up -/

def buscar_proceso_en_exec (s : Ks) (pid : Nat) : Option Nat := (s.listas .lista_exec).find? (· = pid)

/-- The ready queues of the configuration, in the order in which the planner looks at them. -/
def colas_de_ready (cfg : Config) : List Cola :=
  if cfg.cmn then (List.range cfg.cantidad_colas).map .colas_ready else [.lista_ready]

def buscar_proceso_por_pid (cfg : Config) (s : Ks) (pid : Nat) : Option Nat :=
  ((Cola.lista_exec :: .lista_block :: .lista_susp_ready :: .lista_susp_block :: colas_de_ready cfg).flatMap s.listas).find?
    (· = pid)

def buscar_mutex (s : Ks) (nombre : String) : Option (Nat × Mutex) := first (fun m => m.nombre = nombre) s.lista_mutex

/-! ## Ready queues -/

/-- What comes of putting a process on a ready queue: the interrupt that has to be sent with the lock released, if any. -/
structure Encolado where
  ks : Ks
  planificable : Bool
  desaloja : Pila

def en_rango (cfg : Config) (prioridad : Int) : Bool := 0 ≤ prioridad && prioridad < cfg.cantidad_colas

/-- The running process of worst priority, the first one among equals. -/
def peor (s : Ks) : Option Nat :=
  (s.listas .lista_exec).foldl (fun peor actual =>
    match peor with
    | none => some actual
    | some q => if (s.procesos q).prioridad < (s.procesos actual).prioridad then some actual else some q) none

def encolar_en_ready (cfg : Config) (proceso : Nat) (s : Ks) : Encolado :=
  if cfg.cmn then
    let prioridad := (s.procesos proceso).prioridad
    if en_rango cfg prioridad then
      let s := s.agregar (.colas_ready prioridad.toNat) proceso
      match (if cfg.desalojo_entre_colas then peor s else none) with
      | none => ⟨s,true,[]⟩
      | some q =>
        if prioridad < (s.procesos q).prioridad then ⟨s,true,[.enviar_interrumpir (s.procesos q).socket_cpu q]⟩
        else ⟨s,true,[]⟩
    else ⟨s.agregar .lista_ready_invalida proceso,false,[]⟩
  else ⟨s.agregar .lista_ready proceso,true,[]⟩

def encolar_al_frente_de_ready (cfg : Config) (proceso : Nat) (s : Ks) : Encolado :=
  if cfg.cmn then
    let prioridad := (s.procesos proceso).prioridad
    if en_rango cfg prioridad then ⟨s.agregar_al_frente (.colas_ready prioridad.toNat) proceso,true,[]⟩
    else ⟨s.agregar .lista_ready_invalida proceso,false,[]⟩
  else ⟨s.agregar_al_frente .lista_ready proceso,true,[]⟩

/-- The first queue with a process, and that process. -/
def obtener_proximo_proceso_ready (cfg : Config) (s : Ks) : Option (Cola × Nat) :=
  (colas_de_ready cfg).findSome? (fun c => (s.listas c).head?.map (fun p => (c,p)))

def necesita_timer (cfg : Config) : Cola → Bool
  | .colas_ready c => cfg.algoritmos_por_cola[c]? = some .RR
  | _ => cfg.algoritmo_planificacion = .RR

/-! ## Priority inheritance -/

/-- -1 for an empty queue. -/
def mayor_prioridad_del_mutex (s : Ks) (cola_espera : List Nat) : Int :=
  cola_espera.foldl (fun mejor p =>
    if mejor = -1 ∨ (s.procesos p).prioridad < mejor then (s.procesos p).prioridad else mejor) (-1)

/-- For a ready process whose priority is the number of no queue the source takes an element of colas_ready that does not exist,
    which is undefined; here the removal has no effect. -/
def aplicar_herencia (cfg : Config) (proceso : Nat) (cola_espera : List Nat) (s : Ks) : Ks × Pila :=
  let mejor := mayor_prioridad_del_mutex s cola_espera
  let prioridad := (s.procesos proceso).prioridad
  if mejor = -1 ∨ prioridad ≤ mejor then (s,[])
  else if (s.procesos proceso).estado = .READY then
    let s := if en_rango cfg prioridad then s.quitar (.colas_ready prioridad.toNat) proceso else s
    let r := encolar_en_ready cfg proceso (s.con_prioridad proceso mejor)
    (r.ks,r.desaloja)
  else (s.con_prioridad proceso mejor,[])

def devolver_prioridad (proceso : Nat) (s : Ks) : Ks :=
  let mejor := s.lista_mutex.foldl (fun mejor m =>
    if m.pid_dueno = some proceso then
      let candidato := mayor_prioridad_del_mutex s m.cola_espera
      if candidato ≠ -1 ∧ candidato < mejor then candidato else mejor
    else mejor) (s.procesos proceso).prioridad_original
  if mejor = (s.procesos proceso).prioridad then s else s.con_prioridad proceso mejor

/-! ## Handing mutexes over at a death -/

/-- Mutex `i` for its next owner, who inherits from those that go on waiting. -/
def heredar_mutex (cfg : Config) (i siguiente : Nat) (espera : List Nat) (s : Ks) : Ks × Pila :=
  let s := s.con_mutex i (fun m => { m with pid_dueno := some siguiente, cola_espera := espera })
  if cfg.cmn then aplicar_herencia cfg siguiente espera s else (s,[])

/-- What liberar_mutex_del_proceso does once the priority of the next owner is settled; what the
    thread has to do outside the lock before it goes on with the loop, if anything. -/
def despertar_heredero (cfg : Config) (hora siguiente : Nat) (s : Ks) : Ks × Pila :=
  let s := s.cancelar_timer siguiente
  match (s.procesos siguiente).estado with
  | .BLOCK =>
    let r := encolar_en_ready cfg siguiente ((s.quitar .lista_block siguiente).con_estado siguiente .READY)
    if r.desaloja = [] then
      ({ r.ks with sem_hay_procesos_ready := r.ks.sem_hay_procesos_ready + if r.planificable then 1 else 0 },[])
    else (r.ks,r.desaloja ++ if r.planificable then [.post_hay_procesos_ready] else [])
  | .SUSP_BLOCK =>
    let s := (s.quitar .lista_susp_block siguiente).con_proceso siguiente
      (fun x => { x with estado := .SUSP_READY, tiempo_suspension := hora })
    (s.agregar .lista_susp_ready siguiente,[])
  | _ => (s,[])

/-- The loop from mutex `i` on, for the `n` mutexes that are left. -/
def liberar_desde (cfg : Config) (hora pid : Nat) : Nat → Nat → Ks → Ks × Pila
  | 0, _, s => (s,[])
  | n+1, i, s =>
    match s.lista_mutex[i]? with
    | none => (s,[])
    | some m =>
      if m.pid_dueno = some pid then
        match m.cola_espera with
        | [] => liberar_desde cfg hora pid n (i + 1) (s.con_mutex i (fun m => { m with pid_dueno := none }))
        | siguiente :: espera =>
          let r := heredar_mutex cfg i siguiente espera s
          if r.2 = [] then
            let r := despertar_heredero cfg hora siguiente r.1
            if r.2 = [] then liberar_desde cfg hora pid n (i + 1) r.1
            else (r.1,r.2 ++ [.liberar_mutex_del_proceso pid (i + 1)])
          else (r.1,r.2 ++ [.ceder_mutex pid i siguiente])
      else liberar_desde cfg hora pid n (i + 1) s

def liberar_mutex_del_proceso (cfg : Config) (hora pid i : Nat) (s : Ks) : Ks × Pila :=
  liberar_desde cfg hora pid (s.lista_mutex.length - i) i s

/-- The rest of an iteration that gave the lock up to send an interrupt. -/
def ceder_mutex (cfg : Config) (hora pid i siguiente : Nat) (s : Ks) : Ks × Pila :=
  let r := despertar_heredero cfg hora siguiente s
  if r.2 = [] then liberar_mutex_del_proceso cfg hora pid (i + 1) r.1
  else (r.1,r.2 ++ [.liberar_mutex_del_proceso pid (i + 1)])

end PlugNPray.Scheduler
