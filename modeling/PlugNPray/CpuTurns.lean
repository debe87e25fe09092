import PlugNPray.QuantumTimers

/-!
The scheduler together with its CPUs, message by message: what each CPU reads, the one
interrupt that it remembers and those that it drops, and what it tells the thread that serves it.
-/
namespace PlugNPray.CpuTurns
open PlugNPray.Scheduler PlugNPray.Handlers PlugNPray.Stacks PlugNPray.Runs PlugNPray.QuantumTimers

/-! ## A CPU -/

inductive Mensaje where
  | ejecutar (pid : Nat)
  | interrumpir (pid : Nat)
  | respuesta (r : RespuestaCpu)
  deriving DecidableEq

inductive Modo where
  /-- The main loop. -/
  | principal
  | ejecuta (pid : Nat)
  | recibir_respuesta (pid : Nat) (tipo : Syscall)
  | check_interrupt (pid : Nat)
  /-- Its connection is cut. -/
  | ida
  deriving DecidableEq

/-- The process in the hands of the CPU. -/
def Modo.pid : Modo → Option Nat
  | ejecuta pid | recibir_respuesta pid _ | check_interrupt pid => some pid
  | principal | ida => none

structure Cpu where
  modo : Modo
  interrupcion_pendiente_pid : Option Nat
  /-- The messages that have arrived. -/
  socket_ks : List Mensaje
  deriving DecidableEq

/-- What a turn leaves of the CPU, and what it sends. -/
abbrev Turno := Cpu × List Entrada

def avisar_fin_a_scheduler (codigo : CodigoCpu) (pid : Nat) : List Entrada := [.codigo codigo,.pid pid]

/-- `contexto` is what obtener_contexto answers. -/
def main_loop (contexto : Bool) (c : Cpu) : Option Turno :=
  match c.socket_ks with
  | [] => none
  | .ejecutar pid :: resto =>
    if contexto then some ({ c with socket_ks := resto, modo := .ejecuta pid },[])
    else some ({ c with socket_ks := resto },avisar_fin_a_scheduler .proceso_exit pid)
  | _ :: resto => some ({ c with socket_ks := resto },[])

/-- The calls that OP_BLOQUEADO ends. -/
def bloquea : Syscall → Bool
  | .mutex_lock | .mem_alloc => true
  | _ => false

/-- The calls after which the segment table is asked for again. -/
def refresca : Syscall → Bool
  | .mem_alloc | .mem_free => true
  | _ => false

/-- One turn of the loop, and what the syscall makes of the answer. -/
def recibir_respuesta_scheduler (pid : Nat) (tipo : Syscall) (contexto : Bool) (c : Cpu) : Option Turno :=
  match c.socket_ks with
  | [] => none
  | .interrumpir pid_interrumpido :: resto => some ({ c with socket_ks := resto, interrupcion_pendiente_pid := some pid_interrumpido },[])
  | m :: resto =>
    if bloquea tipo ∧ m = .respuesta .BLOQUEADO then some ({ c with socket_ks := resto, modo := .principal },[])
    else if m ≠ .respuesta .OK ∨ refresca tipo ∧ !contexto then
      some ({ c with socket_ks := resto, modo := .principal },avisar_fin_a_scheduler .proceso_exit pid)
    else some ({ c with socket_ks := resto, modo := .check_interrupt pid },[])

/-- Whether the process is interrupted. -/
def check_interrupt (pid : Nat) (c : Cpu) : Bool × Cpu :=
  match c.interrupcion_pendiente_pid,c.socket_ks with
  | some q, _ => (decide (q = pid),{ c with interrupcion_pendiente_pid := none })
  | none, [] => (false,c)
  | none, .interrumpir q :: resto => (decide (q = pid),{ c with socket_ks := resto })
  | none, _ :: resto => (false,{ c with socket_ks := resto })

/-- How an instruction ends: it goes on, it ends the process, or it calls the scheduler. -/
inductive Instruccion where
  | comun
  | exit
  | seg_fault
  | llamada (tipo : Syscall) (argumentos : Entrada)

def ejecutar_ciclo_instruccion (pid : Nat) (i : Instruccion) (c : Cpu) : Option Turno :=
  match i with
  | .comun => some ({ c with modo := .check_interrupt pid },[])
  | .exit => some ({ c with modo := .principal },avisar_fin_a_scheduler .proceso_exit pid)
  | .seg_fault => some ({ c with modo := .principal },avisar_fin_a_scheduler .proceso_seg_fault pid)
  | .llamada (.io t) argumentos => some ({ c with modo := .principal },[.codigo .proceso_syscall,.llamada pid (.io t),argumentos])
  | .llamada .desconocida _ => none
  | .llamada tipo argumentos =>
    some ({ c with modo := .recibir_respuesta pid tipo },[.codigo .proceso_syscall,.llamada pid tipo,argumentos])

/-! ## The scheduler and its CPUs -/

structure Sistema where
  planificador : Planificador
  cpus : Nat → Cpu
  /-- What each CPU has sent and its thread has not read. -/
  a_ks : Nat → List Entrada
  /-- The last dispatch of the process by the planner came from an RR queue. -/
  de_rr : Nat → Bool
  /-- The CPU and the process that the planner armed a timer for. -/
  relojes : Nat → Option (Nat × Nat)

/-- The CPU whose socket the action reads. -/
def lee_de : Accion → Option Nat
  | .atender_cpu k | .manejar_proceso_exit k | .manejar_seg_fault k | .manejar_fin_quantum k | .manejar_syscall k
  | .manejar_io _ _ k | .manejar_mutex_create _ k | .manejar_mutex_lock _ k | .manejar_mutex_unlock _ k | .manejar_init_proc k
  | .manejar_mem_alloc _ k | .manejar_mem_free _ k => some k
  | _ => none

def es_codigo : Entrada → Bool
  | .codigo _ | .corte => true
  | _ => false

/-- What a thread takes for the next message is that message, or a code if it reads one where there is none. -/
def toma (a : Accion) (e : Entrada) (a_ks : Nat → List Entrada) : Option (Nat → List Entrada) :=
  match lee_de a with
  | none => some a_ks
  | some k =>
    match a_ks k with
    | [] => none
    | x :: resto =>
      if x = e ∨ a = .atender_cpu k ∧ !es_codigo x ∧ es_codigo e then some (Function.update a_ks k resto) else none

def Cpu.recibe (c : Cpu) (m : Mensaje) : Cpu := { c with socket_ks := c.socket_ks ++ [m] }

def entrega (a : Accion) (cpus : Nat → Cpu) : Nat → Cpu :=
  match a with
  | .enviar_ejecutar k p => Function.update cpus k ((cpus k).recibe (.ejecutar p))
  | .enviar_interrumpir (some k) p => Function.update cpus k ((cpus k).recibe (.interrumpir p))
  | .enviar_respuesta k r => Function.update cpus k ((cpus k).recibe (.respuesta r))
  | _ => cpus

def marca (cfg : Config) (a : Accion) (s : Ks) (de_rr : Nat → Bool) : Nat → Bool :=
  match despachado cfg a s with
  | some (c,p) => Function.update de_rr p (necesita_timer cfg c)
  | none => de_rr

def arma (cfg : Config) (a : Accion) (s : Ks) (relojes : Nat → Option (Nat × Nat)) : Nat → Option (Nat × Nat) :=
  match despachado cfg a s,s.lista_cpus_libres with
  | some (c,p), some k :: _ => if necesita_timer cfg c then Function.update relojes s.proximo_timer (some (k,p)) else relojes
  | _, _ => relojes

inductive Evento where
  | planificador (l : Paso)
  /-- The main loop or the wait for an answer reads. -/
  | lee (k : Nat) (contexto : Bool)
  | instruccion (k : Nat) (i : Instruccion)
  | revisa (k : Nat)
  | se_va (k : Nat)

def planifica (cfg : Config) (l : Paso) (v : Sistema) : Option Sistema :=
  (cima v.planificador l.hilo).bind (fun a =>
    (toma a l.entrada v.a_ks).bind (fun a_ks =>
      (Handlers.paso cfg l v.planificador).map (fun t =>
        { planificador := t
          cpus := entrega a v.cpus
          a_ks := a_ks
          de_rr := marca cfg a v.planificador.ks v.de_rr
          relojes := arma cfg a v.planificador.ks v.relojes })))

def leer (contexto : Bool) (c : Cpu) : Option Turno :=
  match c.modo with
  | .principal => main_loop contexto c
  | .recibir_respuesta pid tipo => recibir_respuesta_scheduler pid tipo contexto c
  | _ => none

def instruir (i : Instruccion) (c : Cpu) : Option Turno :=
  match c.modo with
  | .ejecuta pid => ejecutar_ciclo_instruccion pid i c
  | _ => none

/-- The check after an instruction; an interrupted process ends its execution. -/
def revisar (c : Cpu) : Option Turno :=
  match c.modo with
  | .check_interrupt pid =>
    let r := check_interrupt pid c
    if r.1 then some ({ r.2 with modo := .principal },avisar_fin_a_scheduler .proceso_fin_quantum pid)
    else some ({ r.2 with modo := .ejecuta pid },[])
  | _ => none

def irse (c : Cpu) : Option Turno := if c.modo = .ida then none else some ({ c with modo := .ida },[.corte])

/-- CPU `k` has taken its turn. -/
def Sistema.turno (v : Sistema) (k : Nat) (r : Turno) : Sistema :=
  { v with cpus := Function.update v.cpus k r.1, a_ks := Function.update v.a_ks k (v.a_ks k ++ r.2) }

def paso (cfg : Config) (e : Evento) (v : Sistema) : Option Sistema :=
  match e with
  | .planificador l => planifica cfg l v
  | .lee k contexto => (leer contexto (v.cpus k)).map (v.turno k)
  | .instruccion k i => (instruir i (v.cpus k)).map (v.turno k)
  | .revisa k => (revisar (v.cpus k)).map (v.turno k)
  | .se_va k => (irse (v.cpus k)).map (v.turno k)

def inicio : Sistema where
  planificador := inicial
  cpus := fun _ => ⟨.principal,none,[]⟩
  a_ks := fun _ => []
  de_rr := fun _ => false
  relojes := fun _ => none

end PlugNPray.CpuTurns
