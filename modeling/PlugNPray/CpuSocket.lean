import PlugNPray.Protocol
import PlugNPray.Runs

/-!
The socket from Kernel Scheduler to one CPU, integer by integer: the threads that
write on it without a lock of its own, the thread that serves the CPU, and the three
places of the CPU that read from it.
-/
namespace PlugNPray.CpuSocket
open PlugNPray.Wire PlugNPray.Protocol PlugNPray.Runs

/-! ## Messages -/

/-- The syscalls that are answered with one int. -/
inductive Tipo where
  | init_proc
  | mutex_create
  | mutex_lock
  | mutex_unlock
  | mem_alloc
  | mem_free
  deriving DecidableEq

/-- The calls after which OP_BLOQUEADO takes the process off the CPU. -/
def Tipo.bloquea : Tipo → Bool
  | mutex_lock | mem_alloc => true
  | _ => false

/-- What the threads send and what the CPU makes of what it reads. Answers are told apart by the
    number of their syscall, which is not on the wire. -/
inductive Mensaje where
  | ejecutar (pid : Entero)
  | interrumpir (pid : Entero)
  | respuesta (n : Nat) (v : Entero)
  /-- An int that the reader did not expect, and dropped. -/
  | suelto (v : Entero)
  deriving DecidableEq

def Mensaje.enteros : Mensaje → List Entero
  | ejecutar pid => [OP_EJECUTAR_PROCESO,pid]
  | interrumpir pid => [OP_INTERRUMPIR_PROCESO,pid]
  | respuesta _ v => [v]
  | suelto v => [v]

/-- What the CPU sends: the end of an execution, a syscall that is not answered, or one that is. -/
inductive Aviso where
  | fin
  | io
  | llamada (n : Nat) (tipo : Tipo)
  deriving DecidableEq

/-! ## The two ends -/

/-- Where the CPU is. -/
inductive Cpu where
  /-- The main loop, at the code. -/
  | principal
  /-- The main loop, at the pid that follows the code. -/
  | principal_interrumpir
  | principal_ejecutar
  | ejecuta (pid : Entero)
  | check_interrupt (pid : Entero)
  | check_interrupt_pid (pid : Entero)
  | recibir_respuesta (pid : Entero) (n : Nat) (tipo : Tipo)
  | recibir_respuesta_pid (pid : Entero) (n : Nat) (tipo : Tipo)
  deriving DecidableEq

/-- The thread that serves the CPU: atender_cpu. -/
inductive Manejador where
  | escucha
  | atiende (n : Nat) (tipo : Tipo)
  /-- On its way to put the CPU back on lista_cpus_libres. -/
  | libera
  deriving DecidableEq

structure Sistema where
  canal : List Entero
  /-- What each thread has still to send: the planner, the thread that listens to Kernel Memory, and any others. -/
  escritores : List (List Entero)
  manejador : Manejador
  a_ks : List Aviso
  /-- The CPU is on lista_cpus_libres; the CPU is cpu_esperando_memoria. -/
  libre : Bool
  reservada : Bool
  cpu : Cpu
  interrupcion_pendiente_pid : Entero
  llamadas : Nat
  enviados : List Mensaje
  leidos : List Mensaje

/-- The CPU has connected and is on lista_cpus_libres; any number of other threads may write to it. -/
def inicio (otros : Nat) : Sistema where
  canal := []
  escritores := List.replicate (otros + 2) []
  manejador := .escucha
  a_ks := []
  libre := true
  reservada := false
  cpu := .principal
  interrupcion_pendiente_pid := -1
  llamadas := 0
  enviados := []
  leidos := []

/-- What an instruction does to the conversation. -/
inductive Instruccion where
  | comun
  | fin
  | io
  | llamada (tipo : Tipo)

/-- Who moves; what the rest of the system decides comes with the choice. -/
inductive Eleccion where
  /-- planificador_corto_plazo takes the CPU off lista_cpus_libres for a process. -/
  | despacha (pid : Entero)
  /-- OP_FIN_COMPACTACION: the process that waited for memory goes back to its CPU. -/
  | fin_compactacion (pid : Entero)
  /-- hilo_quantum, encolar_en_ready, desalojar_todas_las_cpus or manejar_bsod. -/
  | interrumpe (i : Nat) (pid : Entero)
  | envia (i : Nat)
  | recibe
  | responde (v : Entero)
  | libera
  /-- After a BSOD: the handler neither answers nor frees the CPU. -/
  | ignora
  | cpu_recibe
  | cpu_revisa (llego : Bool)
  | cpu_instruccion (instruccion : Instruccion)

/-! ## The threads of the scheduler -/

/-- The message whose first int a thread is about to send. -/
def mensaje_de : List Entero → Option Mensaje
  | [op,pid] =>
    if op = OP_EJECUTAR_PROCESO then some (.ejecutar pid)
    else if op = OP_INTERRUMPIR_PROCESO then some (.interrumpir pid) else none
  | _ => none

def enviar_entero (i : Nat) (s : Sistema) : Option Sistema :=
  match s.escritores[i]? with
  | some (v :: faltan) => some { s with
      canal := s.canal ++ [v], escritores := s.escritores.set i faltan,
      enviados := s.enviados ++ (mensaje_de (v :: faltan)).toList }
  | _ => none

/-- The answers that a handler can give to each syscall. -/
def admite (tipo : Tipo) (v : Entero) : Bool := v = OP_OK ∨ v = OP_ERROR ∨ (tipo.bloquea ∧ v = OP_BLOQUEADO)

/-- The handler sends its one-int answer; a process that blocked leaves its CPU free, but for the
    one that waits for a compaction, whose CPU is kept for it. -/
def responder (v : Entero) (s : Sistema) : Option Sistema :=
  match s.manejador with
  | .atiende n tipo =>
    if admite tipo v then
      some { s with
        canal := s.canal ++ [v], enviados := s.enviados ++ [.respuesta n v],
        manejador := if v = OP_BLOQUEADO ∧ tipo ≠ .mem_alloc then .libera else .escucha,
        reservada := s.reservada || (v = OP_BLOQUEADO ∧ tipo = .mem_alloc) }
    else none
  | _ => none

/-! ## The CPU -/

def anota (m : Mensaje) (s : Sistema) : Sistema := { s with leidos := s.leidos ++ [m] }

def main_loop (s : Sistema) : Option Sistema :=
  match s.canal with
  | [] => none
  | codigo :: canal =>
    let s := { s with canal := canal }
    some (if codigo = OP_INTERRUMPIR_PROCESO then { s with cpu := .principal_interrumpir }
      else if codigo = OP_EJECUTAR_PROCESO then { s with cpu := .principal_ejecutar }
      else anota (.suelto codigo) s)

def recibir_respuesta_scheduler (pid : Entero) (n : Nat) (tipo : Tipo) (s : Sistema) : Option Sistema :=
  match s.canal with
  | [] => none
  | codigo :: canal =>
    let s := { s with canal := canal }
    if codigo = OP_INTERRUMPIR_PROCESO then some { s with cpu := .recibir_respuesta_pid pid n tipo }
    else
      let s := anota (.respuesta n codigo) s
      some (if codigo = OP_OK then { s with cpu := .check_interrupt pid }
        else if tipo.bloquea ∧ codigo = OP_BLOQUEADO then { s with cpu := .principal }
        -- any other answer is an error, and the scheduler is told that the process is over
        else { s with cpu := .principal, a_ks := s.a_ks ++ [.fin] })

/-- A read of the pid that follows a code. -/
def recibir_pid (s : Sistema) : Option Sistema :=
  match s.canal with
  | [] => none
  | v :: canal =>
    let s := { s with canal := canal }
    match s.cpu with
    | .principal_interrumpir => some { anota (.interrumpir v) s with cpu := .principal }
    | .principal_ejecutar => some { anota (.ejecutar v) s with cpu := .ejecuta v }
    | .check_interrupt_pid pid =>
      let s := anota (.interrumpir v) s
      some (if v = pid then { s with cpu := .principal, a_ks := s.a_ks ++ [.fin] } else { s with cpu := .ejecuta pid })
    | .recibir_respuesta_pid pid n tipo =>
      some { anota (.interrumpir v) s with cpu := .recibir_respuesta pid n tipo, interrupcion_pendiente_pid := v }
    | _ => none

/-- Whether the data on their way have arrived is up to the network. -/
def check_interrupt (pid : Entero) (llego : Bool) (s : Sistema) : Sistema :=
  if s.interrupcion_pendiente_pid ≠ -1 then
    let pid_interrumpido := s.interrupcion_pendiente_pid
    let s := { s with interrupcion_pendiente_pid := -1 }
    if pid_interrumpido = pid then { s with cpu := .principal, a_ks := s.a_ks ++ [.fin] } else { s with cpu := .ejecuta pid }
  else match s.canal, llego with
    | codigo :: canal, true =>
      let s := { s with canal := canal }
      if codigo = OP_INTERRUMPIR_PROCESO then { s with cpu := .check_interrupt_pid pid }
      else { anota (.suelto codigo) s with cpu := .ejecuta pid }
    | _, _ => { s with cpu := .ejecuta pid }

def ejecutar_instruccion (pid : Entero) (instruccion : Instruccion) (s : Sistema) : Sistema :=
  match instruccion with
  | .comun => { s with cpu := .check_interrupt pid }
  | .fin => { s with cpu := .principal, a_ks := s.a_ks ++ [.fin] }
  | .io => { s with cpu := .principal, a_ks := s.a_ks ++ [.io] }
  | .llamada tipo => { s with
      cpu := .recibir_respuesta pid s.llamadas tipo, a_ks := s.a_ks ++ [.llamada s.llamadas tipo], llamadas := s.llamadas + 1 }

/-! ## Steps -/

def paso : Eleccion → Sistema → Option Sistema
  | .despacha pid, s =>
    if s.libre ∧ s.escritores[0]? = some [] then
      some { s with libre := false, escritores := s.escritores.set 0 [OP_EJECUTAR_PROCESO,pid] }
    else none
  | .fin_compactacion pid, s =>
    if s.reservada ∧ s.escritores[1]? = some [] then
      some { s with reservada := false, escritores := s.escritores.set 1 [OP_EJECUTAR_PROCESO,pid] }
    else none
  | .interrumpe i pid, s =>
    if i ≠ 0 ∧ s.escritores[i]? = some [] then
      some { s with escritores := s.escritores.set i [OP_INTERRUMPIR_PROCESO,pid] }
    else none
  | .envia i, s => enviar_entero i s
  | .recibe, s =>
    match s.manejador, s.a_ks with
    | .escucha, .fin :: a_ks => some { s with manejador := .libera, a_ks := a_ks }
    | .escucha, .io :: a_ks => some { s with manejador := .libera, a_ks := a_ks }
    | .escucha, .llamada n tipo :: a_ks => some { s with manejador := .atiende n tipo, a_ks := a_ks }
    | _, _ => none
  | .responde v, s => responder v s
  | .libera, s =>
    match s.manejador with
    | .libera => some { s with manejador := .escucha, libre := true }
    | _ => none
  | .ignora, s =>
    match s.manejador with
    | .escucha => none
    | _ => some { s with manejador := .escucha }
  | .cpu_recibe, s =>
    match s.cpu with
    | .principal => main_loop s
    | .recibir_respuesta pid n tipo => recibir_respuesta_scheduler pid n tipo s
    | .ejecuta _ | .check_interrupt _ => none
    | _ => recibir_pid s
  | .cpu_revisa llego, s =>
    match s.cpu with
    | .check_interrupt pid => some (check_interrupt pid llego s)
    | _ => none
  | .cpu_instruccion instruccion, s =>
    match s.cpu with
    | .ejecuta pid => some (ejecutar_instruccion pid instruccion s)
    | _ => none

end PlugNPray.CpuSocket
