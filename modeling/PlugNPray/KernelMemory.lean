import PlugNPray.Sticks
import PlugNPray.Sorting

/-!
Kernel Memory: segment tables, the free list, the swap and the compaction. Each
operation is one function from state to state; what a Memory Stick or the swap
answers is taken from the answers still to come. `malloc` always succeeds.
-/
namespace PlugNPray.KernelMemory
open PlugNPray.Places PlugNPray.FlatMemory PlugNPray.Huecos PlugNPray.Sticks PlugNPray.Sorting

/-- The value of a 32-bit pattern read as an `int`. -/
def int32 (n : Nat) : Int := if u32 n < 2^31 then u32 n else (u32 n : Int) - 2^32
/-- An `int` converted to `uint32_t`. -/
def a_u32 (i : Int) : Nat := (i % 2^32).toNat

structure Segmento where
  id : Int
  base : Nat
  limite : Nat
  deriving DecidableEq, Repr

structure Contexto where
  pid : Int
  path_instrucciones : String
  instrucciones : List String
  tabla_segmentos : List Segmento
  deriving DecidableEq, Repr

/-- Where one segment is in the swap. `bloques` lists the entries that were filled in. -/
structure SegmentoSwap where
  id : Int
  limite : Nat
  cantidad_bloques : Int
  bloques : List Nat
  deriving DecidableEq, Repr

structure ProcesoSwap where
  pid : Int
  segmentos : List SegmentoSwap
  deriving DecidableEq, Repr

/-- The state of Kernel Memory, with the file of the swap module behind `fd_swap`. -/
structure Estado extends Fisica where
  segment_max_size : Int
  allocation_best_fit : Bool
  memoria_total : Nat
  lista_huecos : List Hueco
  lista_contextos : List Contexto
  fd_swap : Int
  swap_block_size : Int
  swap_total_bloques : Int
  swap_bloques_usados : List Bool
  procesos_en_swap : List ProcesoSwap
  archivo_swap : Nat → UInt8

/-- The state after start-up, before any module connected. -/
def inicial (segment_max_size : Int) (allocation_best_fit : Bool) (respuestas : Nat → Respuesta) : Estado where
  lista_memory_sticks := []
  respuestas := respuestas
  segment_max_size := segment_max_size
  allocation_best_fit := allocation_best_fit
  memoria_total := 0
  lista_huecos := []
  lista_contextos := []
  fd_swap := -1
  swap_block_size := 0
  swap_total_bloques := 0
  swap_bloques_usados := []
  procesos_en_swap := []
  archivo_swap := fun _ => 0

inductive ResultadoCrear where
  | CREAR_SEG_OK
  | CREAR_SEG_COMPACTAR
  | CREAR_SEG_ERROR
  deriving DecidableEq, Repr

/-! ## Contexts -/

/-- `instrucciones` are the lines that the loader read from the script at `path`. -/
def contexto_crear (pid : Int) (path : String) (instrucciones : List String) (m : Estado) : Estado :=
  { m with lista_contextos := m.lista_contextos ++ [⟨pid,path,instrucciones,[]⟩] }

/-- The first context of the process, named by its place in the list. -/
def contexto_buscar (m : Estado) (pid : Int) : Option (Nat × Contexto) :=
  first (fun c => c.pid = pid) m.lista_contextos

def contexto_eliminar (pid : Int) (m : Estado) : Estado :=
  match contexto_buscar m pid with
  | none => m
  | some (i,_) => { m with lista_contextos := m.lista_contextos.eraseIdx i }

/-- The segment table of one context replaced. -/
def Estado.con_tabla (m : Estado) (i : Nat) (f : List Segmento → List Segmento) : Estado :=
  { m with lista_contextos := m.lista_contextos.modify i (fun c => { c with tabla_segmentos := f c.tabla_segmentos }) }

/-! ## Sticks -/

/-- What a stick tells when it connects. -/
structure Alta where
  fd : Int
  tamanio : Nat
  ip : String
  puerto : Int
  memoria : Nat → UInt8

def memory_stick_agregar (a : Alta) (m : Estado) : Estado :=
  { m with
    lista_memory_sticks := m.lista_memory_sticks ++ [⟨a.fd,a.tamanio,m.memoria_total,a.ip,a.puerto,a.memoria⟩]
    memoria_total := u32 (m.memoria_total + a.tamanio)
    lista_huecos := huecos_extender m.lista_huecos m.memoria_total a.tamanio }
/-- The first stick with the socket is forgotten; the total and the free list stay. -/
def memory_stick_eliminar (fd : Int) (m : Estado) : Estado :=
  { m with lista_memory_sticks := m.lista_memory_sticks.eraseP (fun stick => stick.fd = fd) }
def agregar_todos (altas : List Alta) (m : Estado) : Estado := altas.foldl (fun m a => memory_stick_agregar a m) m

def Estado.leer (m : Estado) (dir_global tamanio : Nat) : Option (List UInt8) × Estado :=
  let r := memoria_fisica_leer m.toFisica dir_global tamanio
  (r.1,{ m with toFisica := r.2 })
def Estado.escribir (m : Estado) (dir_global : Nat) (origen : List UInt8) : Bool × Estado :=
  let r := memoria_fisica_escribir m.toFisica dir_global origen
  (r.1,{ m with toFisica := r.2 })

/-! ## Segments -/

def buscar_hueco (m : Estado) (tamanio : Nat) : Option (Nat × Hueco) :=
  if m.allocation_best_fit then buscar_hueco_best_fit m.lista_huecos tamanio
  else buscar_hueco_worst_fit m.lista_huecos tamanio

def buscar_segmento (c : Contexto) (id_segmento : Int) : Option (Nat × Segmento) :=
  first (fun s => s.id = id_segmento) c.tabla_segmentos

def segmento_crear (pid id_segmento : Int) (tamanio : Nat) (m : Estado) : ResultadoCrear × Estado :=
  if m.segment_max_size > 0 ∧ tamanio > a_u32 m.segment_max_size then (.CREAR_SEG_ERROR,m)
  else
    match contexto_buscar m pid with
    | none => (.CREAR_SEG_ERROR,m)
    | some (i,_) =>
      match buscar_hueco m tamanio with
      | none =>
        (if tamanio ≤ huecos_total_libre m.lista_huecos then .CREAR_SEG_COMPACTAR else .CREAR_SEG_ERROR,m)
      | some (k,hueco) =>
        (.CREAR_SEG_OK,Estado.con_tabla { m with lista_huecos := hueco_ocupar m.lista_huecos k tamanio } i
          (fun tabla => tabla ++ [⟨id_segmento,hueco.base,tamanio⟩]))

def segmento_eliminar (pid id_segmento : Int) (m : Estado) : Bool × Estado :=
  match contexto_buscar m pid with
  | none => (false,m)
  | some (i,ctx) =>
    match buscar_segmento ctx id_segmento with
    | none => (false,m)
    | some (j,seg) =>
      (true,Estado.con_tabla { m with lista_huecos := hueco_liberar m.lista_huecos seg.base seg.limite } i
        (fun tabla => tabla.eraseIdx j))

/-! ## Compaction -/

/-- A segment in the list that compaction sorts: which table entry it is, and its value. -/
abbrev Puntero := (Nat × Nat) × Segmento

def todos_los_segmentos (m : Estado) : List Puntero :=
  m.lista_contextos.zipIdx.flatMap (fun ci => ci.1.tabla_segmentos.zipIdx.map (fun sj => ((ci.2,sj.2),sj.1)))
def comparar_segmentos_por_base (a b : Puntero) : Bool := decide (a.2.base < b.2.base)

/-- `seg->base = destino` in the table of the segment's process. -/
def Estado.mover (m : Estado) (p : Nat × Nat) (destino : Nat) : Estado :=
  m.con_tabla p.1 (fun tabla => tabla.modify p.2 (fun s => { s with base := destino }))

/-- The moves of a compaction. `altas i` are the sticks that connect before turn `i`:
    only the segment tables are locked meanwhile. -/
def compactar_turnos (altas : Nat → List Alta) : Nat → List Puntero → Nat → Estado → Bool × Nat × Estado
  | i, [], destino, m => (true,destino,agregar_todos (altas i) m)
  | i, (p,seg) :: resto, destino, m =>
    let m := agregar_todos (altas i) m
    if seg.base ≠ destino then
      match m.leer seg.base seg.limite with
      | (none,m) => (false,destino,m)
      | (some buffer,m) =>
        match m.escribir destino buffer with
        | (false,m) => (false,destino,m)
        | (true,m) => compactar_turnos altas (i + 1) resto (u32 (destino + seg.limite)) (m.mover p destino)
    else compactar_turnos altas (i + 1) resto (u32 (destino + seg.limite)) m

def compactar (orden : Sorter) (altas : Nat → List Alta) (m : Estado) : Bool × Estado :=
  match compactar_turnos altas 0 (orden.sort comparar_segmentos_por_base (todos_los_segmentos m)) 0 m with
  | (true,destino,m) => (true,{ m with lista_huecos := huecos_reconstruir destino m.memoria_total })
  | (false,_,m) => (false,m)

/-! ## Swap -/

/-- A new swap module starts with a file of zeros. -/
def swap_registrar (fd block_size swap_size : Int) (m : Estado) : Estado :=
  let total := if block_size > 0 then swap_size.tdiv block_size else 0
  { m with
    fd_swap := fd
    swap_block_size := block_size
    swap_total_bloques := total
    swap_bloques_usados := List.replicate total.toNat false
    archivo_swap := fun _ => 0 }
def swap_desregistrar (m : Estado) : Estado := { m with fd_swap := -1 }

def swap_bloques_libres (m : Estado) : Int := (m.swap_bloques_usados.take m.swap_total_bloques.toNat).countP (fun u => !u)

/-- The bytes of a block in the file of the swap. -/
def Estado.bloque (m : Estado) : Nat := m.swap_block_size.toNat

def swap_escribir_bloque (nro_bloque : Nat) (contenido : List UInt8) (m : Estado) : Bool × Estado :=
  let guardar (bytes : List UInt8) : Estado :=
    { m with
      archivo_swap := store m.archivo_swap (nro_bloque * m.bloque) bytes
      respuestas := fun k => m.respuestas (k + 1) }
  match m.respuestas 0 with
  | .falla basura => (false,guardar (load basura 0 m.bloque))
  | .responde => (true,guardar contenido)

/-- The bytes that end up in the destination buffer; the caller ignores whether the swap
    answered. Without a swap the buffer keeps its zeros. -/
def swap_leer_bloque (nro_bloque : Nat) (m : Estado) : List UInt8 × Estado :=
  let resto := { m with respuestas := fun k => m.respuestas (k + 1) }
  if m.fd_swap = -1 then (List.replicate m.bloque 0,m)
  else
    match m.respuestas 0 with
    | .falla basura => (load basura 0 m.bloque,resto)
    | .responde => (load m.archivo_swap (nro_bloque * m.bloque) m.bloque,resto)

def buscar_proceso_swap (m : Estado) (pid : Int) : Option (Nat × ProcesoSwap) :=
  first (fun ps => ps.pid = pid) m.procesos_en_swap

/-- `(seg->limite + swap_block_size - 1) / swap_block_size` in `uint32_t`. -/
def bloques_de (m : Estado) (limite : Nat) : Nat :=
  u32 (u32 (limite + a_u32 m.swap_block_size) + (2^32 - 1)) / a_u32 m.swap_block_size

def bloques_necesarios (m : Estado) (tabla : List Segmento) : Int :=
  int32 (tabla.foldl (fun n seg => u32 (n + bloques_de m seg.limite)) 0)

/-- The scan of the bitmap for one segment: free blocks are marked and written in order
    until `cantidad` were written. Answers the blocks taken, with the failed one. -/
def tomar_bloques (buffer : List UInt8) (cantidad : Int) : List Nat → List Nat → Estado → Bool × List Nat × Estado
  | [], tomados, m => (true,tomados,m)
  | b :: resto, tomados, m =>
    if (tomados.length : Int) < cantidad then
      if m.swap_bloques_usados.getD b true then tomar_bloques buffer cantidad resto tomados m
      else
        let m := { m with swap_bloques_usados := m.swap_bloques_usados.set b true }
        match swap_escribir_bloque b ((buffer.drop (tomados.length * m.bloque)).take m.bloque) m with
        | (true,m) => tomar_bloques buffer cantidad resto (tomados ++ [b]) m
        | (false,m) => (false,tomados ++ [b],m)
    else (true,tomados,m)

def Estado.desmarcar (m : Estado) (bloques : List Nat) : Estado :=
  { m with swap_bloques_usados := bloques.foldl (fun usados b => usados.set b false) m.swap_bloques_usados }

/-- Phase one of a suspension: every segment is copied to the swap; the table and the
    sticks stay as they are. A failed segment gives its own blocks back here. -/
def copiar_segmentos : List Segmento → List SegmentoSwap → Estado → Bool × List SegmentoSwap × Estado
  | [], copiados, m => (true,copiados,m)
  | seg :: resto, copiados, m =>
    let cantidad := int32 (bloques_de m seg.limite)
    -- A negative count gives `calloc` a size it refuses, and the first read into NULL fails.
    if cantidad < 0 then (false,copiados,{ m with respuestas := fun k => m.respuestas (k + 1) })
    else
      match m.leer seg.base seg.limite with
      | (none,m) => (false,copiados,m)
      | (some leidos,m) =>
        let buffer := leidos ++ List.replicate (cantidad.toNat * m.bloque - leidos.length) 0
        match tomar_bloques buffer cantidad (List.range m.swap_total_bloques.toNat) [] m with
        | (true,bloques,m) => copiar_segmentos resto (copiados ++ [⟨seg.id,seg.limite,cantidad,bloques⟩]) m
        | (false,bloques,m) => (false,copiados,m.desmarcar bloques)

/-- Every segment of a table given back to the free list. -/
def liberar_tabla (huecos : List Hueco) (tabla : List Segmento) : List Hueco :=
  tabla.foldl (fun hs seg => hueco_liberar hs seg.base seg.limite) huecos

def proceso_suspender (pid : Int) (m : Estado) : Bool × Estado :=
  if m.fd_swap = -1 then (false,m)
  else
    match contexto_buscar m pid with
    | none => (false,m)
    | some (i,ctx) =>
      if (buscar_proceso_swap m pid).isSome then (true,m)
      else if bloques_necesarios m ctx.tabla_segmentos > swap_bloques_libres m then (false,m)
      else
        match copiar_segmentos ctx.tabla_segmentos [] m with
        | (false,copiados,m) => (false,m.desmarcar (copiados.flatMap SegmentoSwap.bloques))
        | (true,copiados,m) =>
          (true,Estado.con_tabla { m with
            lista_huecos := liberar_tabla m.lista_huecos ctx.tabla_segmentos
            procesos_en_swap := m.procesos_en_swap ++ [⟨pid,copiados⟩] } i (fun _ => []))

/-- The tentative placement of a de-suspension: a base for every segment, or none with
    the free list after the roll-back. -/
def ubicar (m : Estado) : List SegmentoSwap → List (SegmentoSwap × Nat) → List Hueco → Option (List (SegmentoSwap × Nat)) × List Hueco
  | [], ubicados, huecos => (some ubicados,huecos)
  | ss :: resto, ubicados, huecos =>
    match buscar_hueco { m with lista_huecos := huecos } ss.limite with
    | none => (none,ubicados.foldl (fun hs u => hueco_liberar hs u.2 u.1.limite) huecos)
    | some (k,hueco) => ubicar m resto (ubicados ++ [(ss,hueco.base)]) (hueco_ocupar huecos k ss.limite)

/-- The blocks of one segment read into its buffer, each marked free once read. -/
def leer_bloques : List Nat → List UInt8 → Estado → List UInt8 × Estado
  | [], buffer, m => (buffer,m)
  | b :: resto, buffer, m =>
    let r := swap_leer_bloque b m
    leer_bloques resto (buffer ++ r.1) (r.2.desmarcar [b])

/-- The data of every segment goes back to the sticks and the table is filled again.
    Failed reads and writes are not noticed. The source writes `limite` bytes of a buffer as long as the blocks: where the blocks
    do not cover `limite` it reads past the end, and here the bytes of the blocks are written. -/
def restaurar (i : Nat) : List (SegmentoSwap × Nat) → Estado → Estado
  | [], m => m
  | (ss,base) :: resto, m =>
    let r := leer_bloques ss.bloques [] m
    let m := (r.2.escribir base (r.1.take ss.limite)).2
    restaurar i resto (m.con_tabla i (fun tabla => tabla ++ [⟨ss.id,base,ss.limite⟩]))

def proceso_dessuspender (pid : Int) (m : Estado) : Bool × Estado :=
  match buscar_proceso_swap m pid with
  | none => (true,m)
  | some (k,ps) =>
    match contexto_buscar m pid with
    | none => (false,m)
    | some (i,_) =>
      match ubicar m ps.segmentos [] m.lista_huecos with
      | (none,huecos) => (false,{ m with lista_huecos := huecos })
      | (some ubicados,huecos) =>
        let m := restaurar i ubicados { m with lista_huecos := huecos }
        (true,{ m with procesos_en_swap := m.procesos_en_swap.eraseIdx k })

/-- The first half of `proceso_liberar_memoria`: the segments in main memory. -/
def liberar_ram (pid : Int) (m : Estado) : Estado :=
  match contexto_buscar m pid with
  | none => m
  | some (i,ctx) =>
    Estado.con_tabla { m with lista_huecos := liberar_tabla m.lista_huecos ctx.tabla_segmentos } i (fun _ => [])
/-- The second half: the segments that were left in the swap. -/
def liberar_swap (pid : Int) (m : Estado) : Estado :=
  match buscar_proceso_swap m pid with
  | none => m
  | some (k,ps) =>
    { m.desmarcar (ps.segmentos.flatMap SegmentoSwap.bloques) with
      procesos_en_swap := m.procesos_en_swap.eraseIdx k }
def proceso_liberar_memoria (pid : Int) (m : Estado) : Estado := liberar_swap pid (liberar_ram pid m)

/-- `OP_FINALIZAR_PROCESO`. -/
def finalizar (pid : Int) (m : Estado) : Estado := contexto_eliminar pid (proceso_liberar_memoria pid m)

end PlugNPray.KernelMemory
