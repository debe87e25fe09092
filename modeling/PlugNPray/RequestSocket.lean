import PlugNPray.Protocol
import PlugNPray.Runs

/-!
The one socket between Kernel Scheduler and Kernel Memory, integer by integer: any
number of scheduler threads that share it under mutex_pedidos_memoria, and the
handler of Kernel Memory that reads it.
-/
namespace PlugNPray.RequestSocket
open PlugNPray.Wire PlugNPray.Protocol PlugNPray.Runs

/-! ## Requests and their encoding -/

/-- The requests that atender_ks knows; the scheduler never makes the last one. -/
inductive Codigo where
  | crear_proceso
  | finalizar_proceso
  | crear_segmento
  | eliminar_segmento
  | suspender_proceso
  | dessuspender_proceso
  | escribir_datos
  | leer_datos
  | memoria_lista
  deriving DecidableEq

def Codigo.valor : Codigo → Entero
  | crear_proceso => OP_CREAR_PROCESO
  | finalizar_proceso => OP_FINALIZAR_PROCESO
  | crear_segmento => OP_CREAR_SEGMENTO
  | eliminar_segmento => OP_ELIMINAR_SEGMENTO
  | suspender_proceso => OP_SUSPENDER_PROCESO
  | dessuspender_proceso => OP_DESSUSPENDER_PROCESO
  | escribir_datos => OP_ESCRIBIR_DATOS
  | leer_datos => OP_LEER_DATOS
  | memoria_lista => OP_MEMORIA_LISTA

/-- The branch of the handler that an int selects. -/
def Codigo.de (op : Entero) : Option Codigo :=
  [crear_proceso,finalizar_proceso,crear_segmento,eliminar_segmento,suspender_proceso,dessuspender_proceso,
    escribir_datos,leer_datos,memoria_lista].find? (·.valor = op)

/-- A request with its parameters. -/
inductive Pedido where
  | crear_proceso (pid : Entero) (path : List Byte)
  | finalizar_proceso (pid : Entero)
  | crear_segmento (pid id_segmento tamanio : Entero)
  | eliminar_segmento (pid id_segmento : Entero)
  | suspender_proceso (pid : Entero)
  | dessuspender_proceso (pid : Entero)
  | escribir_datos (pid direccion_fisica tamanio : Entero) (contenido : List Byte)
  | leer_datos (pid direccion_fisica tamanio : Entero)
  | memoria_lista
  deriving DecidableEq

/-- An int passed where the socket calls take a size_t. -/
def tamanio_de (v : Entero) : Nat := (v.signExtend 64).toNat

/-- A send of no bytes is no step. A receive of none is left out too: the source waits in it for the next byte, and takes nothing. -/
def envio (b : List Byte) : List Campo := if b = [] then [] else [.bytes b]

def recepcion (n : Nat) : Option Lectura := if n = 0 then none else some (.bytes n)

namespace Pedido

def codigo : Pedido → Codigo
  | crear_proceso .. => .crear_proceso
  | finalizar_proceso _ => .finalizar_proceso
  | crear_segmento .. => .crear_segmento
  | eliminar_segmento .. => .eliminar_segmento
  | suspender_proceso _ => .suspender_proceso
  | dessuspender_proceso _ => .dessuspender_proceso
  | escribir_datos .. => .escribir_datos
  | leer_datos .. => .leer_datos
  | memoria_lista => .memoria_lista

def parametros : Pedido → List Campo
  | crear_proceso pid path => [.entero pid,.entero (BitVec.ofNat 32 path.length)] ++ envio path
  | finalizar_proceso pid => [.entero pid]
  | crear_segmento pid id_segmento tamanio => [.entero pid,.entero id_segmento,.entero tamanio]
  | eliminar_segmento pid id_segmento => [.entero pid,.entero id_segmento]
  | suspender_proceso pid => [.entero pid]
  | dessuspender_proceso pid => [.entero pid]
  | escribir_datos pid direccion_fisica tamanio contenido =>
      [.entero pid,.entero direccion_fisica,.entero tamanio] ++ envio contenido
  | leer_datos pid direccion_fisica tamanio => [.entero pid,.entero direccion_fisica,.entero tamanio]
  | memoria_lista => []

/-- The sends of a request, in order. -/
def campos (r : Pedido) : List Campo := .entero r.codigo.valor :: r.parametros

/-- What the scheduler can send: lengths of strings are ints, and a thread that is given a
    negative size for a buffer dies before it sends anything. -/
def bien : Pedido → Bool
  | crear_proceso _ path => path.length < 2 ^ 31
  | escribir_datos _ _ tamanio contenido => tamanio.toNat < 2 ^ 31 && contenido.length = tamanio.toNat
  | leer_datos _ _ tamanio => tamanio.toNat < 2 ^ 31
  | memoria_lista => false
  | _ => true

/-- The bytes that the scheduler waits for after the OP_OK of a read. -/
def tamanio_datos : Pedido → Nat
  | leer_datos _ _ tamanio => tamanio_de tamanio
  | _ => 0

/-- The answers that the handler can give to each request. -/
def admite : Pedido → Entero → Bool
  | crear_proceso .., a => a = OP_OK
  | finalizar_proceso _, a => a = OP_OK
  | crear_segmento .., a => a = OP_OK ∨ a = OP_COMPACTAR ∨ a = OP_ERROR
  | memoria_lista, _ => true
  | _, a => a = OP_OK ∨ a = OP_ERROR

end Pedido

/-- The answer to a request: its code and, for a successful read, the bytes. -/
structure Respuesta where
  codigo : Entero
  datos : List Byte
  deriving DecidableEq

/-- The sends of an answer, in order. -/
def Respuesta.campos (r : Pedido) (a : Respuesta) : List Campo :=
  .entero a.codigo :: if r.codigo = .leer_datos ∧ a.codigo = OP_OK then envio a.datos else []

/-! ## Kernel Memory: atender_ks -/

/-- The next read of the branch, after the parameters that it has. -/
def siguiente : Codigo → List Campo → Option Lectura
  | .crear_proceso, [] => some .entero
  | .crear_proceso, [_] => some .entero
  | .crear_proceso, [_,.entero len] => recepcion (tamanio_de len)
  | .finalizar_proceso, [] => some .entero
  | .crear_segmento, [] => some .entero
  | .crear_segmento, [_] => some .entero
  | .crear_segmento, [_,_] => some .entero
  | .eliminar_segmento, [] => some .entero
  | .eliminar_segmento, [_] => some .entero
  | .suspender_proceso, [] => some .entero
  | .dessuspender_proceso, [] => some .entero
  | .escribir_datos, [] => some .entero
  | .escribir_datos, [_] => some .entero
  | .escribir_datos, [_,_] => some .entero
  | .escribir_datos, [_,_,.entero tamanio] => recepcion (tamanio_de tamanio)
  | .leer_datos, [] => some .entero
  | .leer_datos, [_] => some .entero
  | .leer_datos, [_,_] => some .entero
  | _, _ => none

/-- The request that the branch has when there is nothing more to read. -/
def interpreta : Codigo → List Campo → Option Pedido
  | .crear_proceso, [.entero pid,.entero _] => some (.crear_proceso pid [])
  | .crear_proceso, [.entero pid,.entero _,.bytes path] => some (.crear_proceso pid path)
  | .finalizar_proceso, [.entero pid] => some (.finalizar_proceso pid)
  | .crear_segmento, [.entero pid,.entero id_segmento,.entero tamanio] => some (.crear_segmento pid id_segmento tamanio)
  | .eliminar_segmento, [.entero pid,.entero id_segmento] => some (.eliminar_segmento pid id_segmento)
  | .suspender_proceso, [.entero pid] => some (.suspender_proceso pid)
  | .dessuspender_proceso, [.entero pid] => some (.dessuspender_proceso pid)
  | .escribir_datos, [.entero pid,.entero direccion_fisica,.entero tamanio] =>
    some (.escribir_datos pid direccion_fisica tamanio [])
  | .escribir_datos, [.entero pid,.entero direccion_fisica,.entero tamanio,.bytes contenido] =>
    some (.escribir_datos pid direccion_fisica tamanio contenido)
  | .leer_datos, [.entero pid,.entero direccion_fisica,.entero tamanio] => some (.leer_datos pid direccion_fisica tamanio)
  | .memoria_lista, [] => some .memoria_lista
  | _, _ => none

/-- Where the handler is. -/
inductive Km where
  | recibe_op
  | recibe (op : Codigo) (leidos : List Campo)
  | atiende (r : Pedido)
  | responde (r : Pedido) (a : Respuesta) (faltan : List Campo)
  | espera_confirmacion (r : Pedido)
  | compacta (r : Pedido)
  | cerrado
  deriving DecidableEq

/-- Once a branch has read all that it reads, it has a request to attend to. -/
def entra (op : Codigo) (leidos : List Campo) : Km :=
  match siguiente op leidos with
  | some _ => .recibe op leidos
  | none => match interpreta op leidos with
    | some r => .atiende r
    | none => .recibe_op

/-- After the last send of an answer. -/
def tras_responder (r : Pedido) (a : Respuesta) : Km :=
  if r.codigo = .crear_segmento ∧ a.codigo = OP_COMPACTAR then .espera_confirmacion r else .recibe_op

/-! ## The system -/

/-- A thread of the scheduler, at its uses of socket_memoria_global. -/
inductive Hilo where
  | fuera
  /-- It has the lock: it sends what is left, then waits for the answer. -/
  | pide (r : Pedido) (faltan : List Campo)
  | recibe_datos (r : Pedido) (codigo : Entero)
  /-- It was answered OP_COMPACTAR and has let go of the lock. -/
  | ventana (r : Pedido)
  /-- It has the lock again, to send OP_OK. -/
  | confirma (r : Pedido)
  deriving DecidableEq

structure Sistema where
  hilos : List Hilo
  mutex_pedidos_memoria : Option Nat
  ida : List Byte
  vuelta : List Byte
  km : Km
  /-- Requests by the threads that issued them, in the order in which they took the lock. -/
  emitidos : List (Nat × Pedido)
  decodificados : List Pedido
  contestados : List (Pedido × Respuesta)
  recibidos : List (Nat × Pedido × Respuesta)
  /-- The confirmations sent, and what was read where one was expected. -/
  confirmados : List (Nat × Pedido)
  leidas : List (Pedido × Entero)

def inicio (n : Nat) : Sistema where
  hilos := List.replicate n .fuera
  mutex_pedidos_memoria := none
  ida := []
  vuelta := []
  km := .recibe_op
  emitidos := []
  decodificados := []
  contestados := []
  recibidos := []
  confirmados := []
  leidas := []

/-- Who moves; what the code outside this socket decides comes with the choice. -/
inductive Eleccion where
  | toma (i : Nat) (r : Pedido)
  | envia (i : Nat)
  | recibe (i : Nat)
  | retoma (i : Nat)
  | confirma (i : Nat)
  | km_recibe
  | km_atiende (a : Respuesta)
  | km_envia
  | km_compacta

/-- A thread lets go of the lock. -/
def Sistema.suelta (s : Sistema) (i : Nat) (h : Hilo) : Sistema :=
  { s with hilos := s.hilos.set i h, mutex_pedidos_memoria := none }

/-- recibir_entero has returned the code of the answer. -/
def tras_respuesta (i : Nat) (r : Pedido) (codigo : Entero) (s : Sistema) : Sistema :=
  if r.codigo = .leer_datos ∧ codigo = OP_OK ∧ r.tamanio_datos ≠ 0 then
    { s with hilos := s.hilos.set i (.recibe_datos r codigo) }
  else
    { s with recibidos := s.recibidos ++ [(i,r,Respuesta.mk codigo [])] }.suelta i
      (if r.codigo = Codigo.crear_segmento ∧ codigo = OP_COMPACTAR then .ventana r else .fuera)

/-- The handler has one more piece of a request. -/
def Sistema.lee (s : Sistema) (op : Codigo) (leidos : List Campo) : Sistema :=
  match entra op leidos with
  | .atiende r => { s with km := .atiende r, decodificados := s.decodificados ++ [r] }
  | km => { s with km := km }

def km_recibe (s : Sistema) : Option Sistema :=
  match s.km with
  | .recibe_op =>
    match recibir .entero s.ida with
    | some (.entero op,ida) =>
      if op = -1 then some { s with km := .cerrado, ida := ida }
      else match Codigo.de op with
        | some c => some ({ s with ida := ida }.lee c [])
        | none => some { s with ida := ida }
    | _ => none
  | .recibe op leidos =>
    match siguiente op leidos with
    | some lectura =>
      match recibir lectura s.ida with
      | some (c,ida) => some ({ s with ida := ida }.lee op (leidos ++ [c]))
      | none => none
    | none => none
  | .espera_confirmacion r =>
    match recibir .entero s.ida with
    | some (.entero v,ida) =>
      some { s with km := if v = OP_OK then .compacta r else .recibe_op, ida := ida, leidas := s.leidas ++ [(r,v)] }
    | _ => none
  | _ => none

def paso : Eleccion → Sistema → Option Sistema
  | .toma i r, s =>
    if s.hilos[i]? = some .fuera ∧ s.mutex_pedidos_memoria = none ∧ r.bien then
      some { s with hilos := s.hilos.set i (.pide r r.campos), mutex_pedidos_memoria := some i,
                    emitidos := s.emitidos ++ [(i,r)] }
    else none
  | .envia i, s =>
    match s.hilos[i]? with
    | some (.pide r (c :: faltan)) => some { s with hilos := s.hilos.set i (.pide r faltan), ida := s.ida ++ c.octetos }
    | _ => none
  | .recibe i, s =>
    match s.hilos[i]? with
    | some (.pide r []) =>
      match recibir .entero s.vuelta with
      | some (.entero codigo,vuelta) => some (tras_respuesta i r codigo { s with vuelta := vuelta })
      | _ => none
    | some (.recibe_datos r codigo) =>
      match recibir (.bytes r.tamanio_datos) s.vuelta with
      | some (.bytes datos,vuelta) =>
        some ({ s with vuelta := vuelta, recibidos := s.recibidos ++ [(i,r,Respuesta.mk codigo datos)] }.suelta i .fuera)
      | _ => none
    | _ => none
  | .retoma i, s =>
    match s.hilos[i]?, s.mutex_pedidos_memoria with
    | some (.ventana r), none => some { s with hilos := s.hilos.set i (.confirma r), mutex_pedidos_memoria := some i }
    | _, _ => none
  | .confirma i, s =>
    match s.hilos[i]? with
    | some (.confirma r) =>
      some ({ s with ida := s.ida ++ bytes_de OP_OK, confirmados := s.confirmados ++ [(i,r)] }.suelta i .fuera)
    | _ => none
  | .km_recibe, s => km_recibe s
  | .km_atiende a, s =>
    match s.km with
    | .atiende r =>
      -- a successful read is answered with as many bytes as it asked for
      if r.admite a.codigo ∧ (a.datos.length = if r.codigo = .leer_datos ∧ a.codigo = OP_OK then r.tamanio_datos else 0) then
        some { s with km := .responde r a (a.campos r), contestados := s.contestados ++ [(r,a)] }
      else none
    | _ => none
  | .km_envia, s =>
    match s.km with
    | .responde r a [c] => some { s with km := tras_responder r a, vuelta := s.vuelta ++ c.octetos }
    | .responde r a (c :: faltan) => some { s with km := .responde r a faltan, vuelta := s.vuelta ++ c.octetos }
    | _ => none
  | .km_compacta, s =>
    match s.km with
    | .compacta _ => some { s with km := .recibe_op }
    | _ => none

end PlugNPray.RequestSocket
