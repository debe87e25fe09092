import PlugNPray.SerialCalls
import PlugNPray.KernelMemory
import PlugNPray.Protocol

/-!
The swap module behind its socket: the requests of Kernel Memory and the loop that serves
them from the file, byte by byte. What the two of them make is an array of blocks.
-/
namespace PlugNPray.SwapSocket
open PlugNPray.Wire PlugNPray.Protocol PlugNPray.Runs PlugNPray.Dialogues PlugNPray.SerialCalls PlugNPray.FlatMemory

/-! ## The swap module -/

/-- BLOCK_SIZE and SWAP_FILE_SIZE: main ends when one of them is not positive. -/
structure Medidas where
  block_size : Entero
  swap_size : Entero
  bloque_positivo : 0 < block_size.toInt
  archivo_positivo : 0 < swap_size.toInt

structure Archivo where
  tamanio : Nat
  datos : Nat → Byte

/-- fread: what the file has of the range; the rest of the buffer is cleared. -/
def Archivo.fread (a : Archivo) (desde n : Nat) : List Byte :=
  let leidos := min n (a.tamanio - desde)
  load a.datos desde leidos ++ List.replicate (n - leidos) 0

def Archivo.fwrite (a : Archivo) (desde : Nat) (buffer : List Byte) : Archivo :=
  ⟨max a.tamanio (desde + buffer.length),store a.datos desde buffer⟩

inductive Orden where
  | escribir_bloque (nro_bloque : Entero) (buffer : List Byte)
  | leer_bloque (nro_bloque : Entero)
  | desconocida

variable (d : Medidas)

namespace Medidas

def total_bloques : Int := if d.block_size.toInt > 0 then d.swap_size.toInt.tdiv d.block_size.toInt else 0
def bloque : Nat := d.block_size.toNat
def invalido (nro_bloque : Entero) : Bool := nro_bloque.toInt < 0 || nro_bloque.toInt ≥ d.total_bloques

/-- ftruncate leaves zeros. -/
def archivo : Archivo := ⟨d.swap_size.toNat,fun _ => 0⟩

end Medidas

def recibir_orden : Lector Orden := do
  let op ← Lector.entero
  if op = OP_SWAP_ESCRIBIR_BLOQUE then do
    let nro_bloque ← Lector.entero
    let buffer ← Lector.bytes d.bloque
    pure (.escribir_bloque nro_bloque buffer)
  else if op = OP_SWAP_LEER_BLOQUE then do
    let nro_bloque ← Lector.entero
    pure (.leer_bloque nro_bloque)
  else pure .desconocida

def atender : Orden → Archivo → Archivo × List Campo
  | .escribir_bloque nro_bloque buffer, a =>
    if d.invalido nro_bloque then (a,[.entero OP_ERROR])
    else (a.fwrite (nro_bloque.toNat * d.bloque) buffer,[.entero OP_OK])
  | .leer_bloque nro_bloque, a =>
    if d.invalido nro_bloque then (a,[.entero OP_ERROR])
    else (a,[.entero OP_OK,.bytes (a.fread (nro_bloque.toNat * d.bloque) d.bloque)])
  | .desconocida, a => (a,[])

/-! ## The requests of Kernel Memory -/

/-- What is written has the length of a block. -/
inductive Pedido where
  | swap_escribir_bloque (nro_bloque : Entero) (contenido : { b : List Byte // b.length = d.bloque })
  | swap_leer_bloque (nro_bloque : Entero)

inductive Resultado where
  | escrito (ok : Bool)
  | leido (destino : Option (List Byte))
  deriving DecidableEq

variable {d}

def Pedido.nro_bloque : Pedido d → Entero
  | .swap_escribir_bloque nro_bloque _ | .swap_leer_bloque nro_bloque => nro_bloque

def pide : Pedido d → List Campo
  | .swap_escribir_bloque nro_bloque contenido => [.entero OP_SWAP_ESCRIBIR_BLOQUE,.entero nro_bloque,.bytes contenido.1]
  | .swap_leer_bloque nro_bloque => [.entero OP_SWAP_LEER_BLOQUE,.entero nro_bloque]

def lector : Pedido d → Lector Resultado
  | .swap_escribir_bloque _ _ => do
    let respuesta ← Lector.entero
    pure (.escrito (respuesta = OP_OK))
  | .swap_leer_bloque _ => do
    let status ← Lector.entero
    if status ≠ OP_OK then pure (.leido none)
    else do
      let destino ← Lector.bytes d.bloque
      pure (.leido (some destino))

def orden : Pedido d → Orden
  | .swap_escribir_bloque nro_bloque contenido => .escribir_bloque nro_bloque contenido.1
  | .swap_leer_bloque nro_bloque => .leer_bloque nro_bloque

/-- Nobody else has the file. -/
def servicio : Servicio (Pedido d) Orden Archivo Resultado Empty where
  pide := pide
  lector := lector
  recibe := recibir_orden d
  atiende := atender d
  cambia o := o.elim

abbrev Sesion (d : Medidas) := Dialogues.Sesion (Pedido d) Orden Archivo Resultado

def inicio (d : Medidas) : Sesion d := servicio.inicio d.archivo

def resultado : Pedido d → Archivo → Resultado
  | .swap_escribir_bloque nro_bloque _, _ => .escrito (!d.invalido nro_bloque)
  | .swap_leer_bloque nro_bloque, a =>
    .leido (if d.invalido nro_bloque then none else some (a.fread (nro_bloque.toNat * d.bloque) d.bloque))

/-! ### Messages -/

theorem length_fread (a : Archivo) (desde n : Nat) : (a.fread desde n).length = n := by
  simp only [Archivo.fread,List.length_append,load_length,List.length_replicate]
  omega

theorem toma_orden (p : Pedido d) : (recibir_orden d).Toma (pide p) (orden p) := by
  cases p with
  | swap_escribir_bloque nro_bloque contenido =>
    apply Lector.Toma.entero
    rw [if_pos rfl]
    apply Lector.Toma.entero
    apply Lector.Toma.bytes contenido.2
    exact Lector.toma_pure _
  | swap_leer_bloque nro_bloque =>
    apply Lector.Toma.entero
    rw [if_neg (by decide),if_pos rfl]
    apply Lector.Toma.entero
    exact Lector.toma_pure _

theorem toma_respuesta (p : Pedido d) (a : Archivo) : (lector p).Toma (atender d (orden p) a).2 (resultado p a) := by
  cases p with
  | swap_escribir_bloque nro_bloque contenido =>
    cases refused : d.invalido nro_bloque <;> simp only [orden,atender,resultado,refused]
    · apply Lector.Toma.entero
      exact Lector.toma_pure _
    · apply Lector.Toma.entero
      exact Lector.toma_pure _
  | swap_leer_bloque nro_bloque =>
    cases refused : d.invalido nro_bloque <;> simp only [orden,atender,resultado,refused]
    · apply Lector.Toma.entero
      rw [if_neg (by simp)]
      apply Lector.Toma.bytes (length_fread _ _ _)
      exact Lector.toma_pure _
    · apply Lector.Toma.entero
      rw [if_pos (by decide)]
      exact Lector.toma_pure _

theorem servicio_acorde : (servicio (d := d)).Acorde (fun _ => True) orden resultado where
  abre := ⟨_,rfl⟩
  espera := by
    intro p
    cases p <;> exact ⟨_,rfl⟩
  pedido := toma_orden
  respuesta p a _ := toma_respuesta p a
  conserva _ _ _ := trivial

/-! ## An array of blocks -/

/-- What the swap is for. -/
def almacen (p : Pedido d) (bloques : Nat → List Byte) : Resultado × (Nat → List Byte) :=
  match p with
  | .swap_escribir_bloque nro_bloque contenido =>
    if d.invalido nro_bloque then (.escrito false,bloques)
    else (.escrito true,Function.update bloques nro_bloque.toNat contenido.1)
  | .swap_leer_bloque nro_bloque => (.leido (if d.invalido nro_bloque then none else some (bloques nro_bloque.toNat)),bloques)

/-- The file holds the blocks one after the other. -/
structure Guarda (d : Medidas) (bloques : Nat → List Byte) (a : Archivo) : Prop where
  tamanio : a.tamanio = d.swap_size.toNat
  bloque : ∀ b, (b + 1) * d.bloque ≤ d.swap_size.toNat → load a.datos (b * d.bloque) d.bloque = bloques b

theorem toNat_of_pos {v : Entero} (positive : 0 < v.toInt) : v.toInt = v.toNat := by
  rw [BitVec.toInt_eq_toNat_cond] at positive ⊢
  split_ifs at positive ⊢
  · rfl
  · omega

/-- A number that is accepted has its block inside the file. -/
theorem dentro_of_valido {nro_bloque : Entero} (taken : d.invalido nro_bloque = false) :
    (nro_bloque.toNat + 1) * d.bloque ≤ d.swap_size.toNat := by
  have block := toNat_of_pos d.bloque_positivo
  have file := toNat_of_pos d.archivo_positivo
  simp only [Medidas.invalido,Medidas.total_bloques,Bool.or_eq_false_iff,decide_eq_false_iff_not,not_lt,not_le,
    if_pos d.bloque_positivo] at taken
  obtain ⟨low,high⟩ := taken
  have number : nro_bloque.toInt = nro_bloque.toNat := by
    rw [BitVec.toInt_eq_toNat_cond] at low ⊢
    split_ifs at low ⊢
    · rfl
    · have := nro_bloque.isLt
      omega
  rw [number,block,file,Int.tdiv_eq_ediv_of_nonneg (by omega)] at high
  have bound : nro_bloque.toNat < d.swap_size.toNat / d.block_size.toNat := by exact_mod_cast high
  exact (Nat.mul_le_mul_right d.bloque bound).trans (Nat.div_mul_le_self _ _)

theorem bloques_apart {b c n : Nat} (other : b ≠ c) : b * n + n ≤ c * n ∨ c * n + n ≤ b * n := by
  rcases lt_or_gt_of_ne other with before | after
  · left
    simpa [Nat.add_mul] using Nat.mul_le_mul_right n before
  · right
    simpa [Nat.add_mul] using Nat.mul_le_mul_right n after

theorem archivo_guarda : Guarda d (fun _ => List.replicate d.bloque 0) d.archivo where
  tamanio := rfl
  bloque b _ := by
    refine List.ext_getElem (by simp) (fun k inside _ => ?_)
    simp [load,Medidas.archivo]

theorem fwrite_guarda {bloques : Nat → List Byte} {a : Archivo} {b : Nat} {contenido : List Byte} (held : Guarda d bloques a)
    (whole : contenido.length = d.bloque) (inside : (b + 1) * d.bloque ≤ d.swap_size.toNat) :
    Guarda d (Function.update bloques b contenido) (a.fwrite (b * d.bloque) contenido) where
  tamanio := by
    rw [Nat.add_mul,Nat.one_mul] at inside
    simp only [Archivo.fwrite,held.tamanio,whole]
    omega
  bloque c room := by
    by_cases same : c = b
    · subst same
      rw [Function.update_self,← whole]
      exact load_store_same a.datos (c * contenido.length) contenido
    · rw [Function.update_of_ne same,← held.bloque c room]
      refine load_store_apart a.datos ?_
      rw [whole]
      exact bloques_apart same

theorem fread_entera {a : Archivo} (size : a.tamanio = d.swap_size.toNat) {b : Nat} (inside : (b + 1) * d.bloque ≤ d.swap_size.toNat) :
    a.fread (b * d.bloque) d.bloque = load a.datos (b * d.bloque) d.bloque := by
  have whole : min d.bloque (a.tamanio - b * d.bloque) = d.bloque := by
    rw [Nat.add_mul,Nat.one_mul] at inside
    rw [size]
    omega
  simp only [Archivo.fread,whole,Nat.sub_self,List.replicate_zero,List.append_nil]

theorem fread_guarda {bloques : Nat → List Byte} {a : Archivo} {b : Nat} (held : Guarda d bloques a)
    (inside : (b + 1) * d.bloque ≤ d.swap_size.toNat) : a.fread (b * d.bloque) d.bloque = bloques b := by
  rw [fread_entera held.tamanio inside]
  exact held.bloque b inside

/-- The server on its file answers as the array, and goes on holding it. -/
theorem sirve_almacen (p : Pedido d) (a : Archivo) (bloques : Nat → List Byte) (held : Guarda d bloques a) :
    (almacen p bloques).1 = (sirve servicio orden resultado p a).1 ∧
      Guarda d (almacen p bloques).2 (sirve servicio orden resultado p a).2 := by
  cases p with
  | swap_escribir_bloque nro_bloque contenido =>
    cases refused : d.invalido nro_bloque
    · refine ⟨by simp [almacen,sirve,resultado,refused],?_⟩
      simp only [almacen,sirve,servicio,orden,atender,refused]
      exact fwrite_guarda held contenido.2 (dentro_of_valido refused)
    · refine ⟨by simp [almacen,sirve,resultado,refused],?_⟩
      simp only [almacen,sirve,servicio,orden,atender,refused]
      exact held
  | swap_leer_bloque nro_bloque =>
    cases refused : d.invalido nro_bloque
    · refine ⟨by simp [almacen,sirve,resultado,refused,fread_guarda held (dentro_of_valido refused)],?_⟩
      simp only [almacen,sirve,servicio,orden,atender,refused]
      exact held
    · refine ⟨by simp [almacen,sirve,resultado,refused],?_⟩
      simp only [almacen,sirve,servicio,orden,atender,refused]
      exact held

/-- Two whole blocks and a byte more. -/
def medidas_prueba : Medidas := ⟨2,5,by decide,by decide⟩

/-- A call and its turns. -/
def llamada (p : Pedido medidas_prueba) (pide sirve vuelve : Nat) : List (Turno (Pedido medidas_prueba) Empty) :=
  .llama p :: (List.replicate pide .cliente ++ (List.replicate sirve .servidor ++ List.replicate vuelve .cliente))

def escribe_y_lee : List (Turno (Pedido medidas_prueba) Empty) :=
  llamada (.swap_escribir_bloque 1 ⟨[7,8],rfl⟩) 3 5 2 ++ llamada (.swap_leer_bloque 1) 2 5 3

def turnos_prueba : List (Turno (Pedido medidas_prueba) Empty) := escribe_y_lee ++ llamada (.swap_leer_bloque 2) 2 4 2

/-- The same calls where the file is part of the state of Kernel Memory. -/
def llamar (p : Pedido d) (m : KernelMemory.Estado) : Resultado × KernelMemory.Estado :=
  match p with
  | .swap_escribir_bloque nro_bloque contenido =>
    let r := KernelMemory.swap_escribir_bloque nro_bloque.toNat (contenido.1.map UInt8.ofBitVec) m
    (.escrito r.1,r.2)
  | .swap_leer_bloque nro_bloque =>
    let r := KernelMemory.swap_leer_bloque nro_bloque.toNat m
    (.leido (some (r.1.map UInt8.toBitVec)),r.2)

/-- Kernel Memory has a swap that answers, and its file is the one of the swap module. -/
structure Refleja (d : Medidas) (a : Archivo) (m : KernelMemory.Estado) : Prop where
  tamanio : a.tamanio = d.swap_size.toNat
  conectado : m.fd_swap ≠ -1
  bloque : m.bloque = d.bloque
  responde : ∀ k, m.respuestas k = .responde
  archivo : ∀ i, m.archivo_swap i = UInt8.ofBitVec (a.datos i)

theorem store_map {f : Byte → UInt8} {datos : Nat → Byte} {archivo : Nat → UInt8} (same : ∀ i, archivo i = f (datos i))
    (desde : Nat) (b : List Byte) (i : Nat) : store archivo desde (b.map f) i = f (store datos desde b i) := by
  simp only [store,List.getElem?_map]
  split_ifs
  · cases b[i - desde]? <;> simp [same]
  · exact same i

theorem load_map {datos : Nat → Byte} {archivo : Nat → UInt8} (same : ∀ i, archivo i = UInt8.ofBitVec (datos i)) (desde n : Nat) :
    (load archivo desde n).map UInt8.toBitVec = load datos desde n := by
  simp [load,same]

theorem sirve_llamar (p : Pedido d) (valid : d.invalido p.nro_bloque = false) (a : Archivo) (m : KernelMemory.Estado)
    (held : Refleja d a m) :
    (llamar p m).1 = (sirve servicio orden resultado p a).1 ∧ Refleja d (sirve servicio orden resultado p a).2 (llamar p m).2 := by
  have inside := dentro_of_valido valid
  cases p with
  | swap_escribir_bloque nro_bloque contenido =>
    simp only [Pedido.nro_bloque] at valid inside
    refine ⟨?_,?_⟩
    · simp [llamar,sirve,resultado,valid,KernelMemory.swap_escribir_bloque,held.responde]
    · simp only [llamar,sirve,servicio,orden,atender,valid,KernelMemory.swap_escribir_bloque,held.responde]
      refine ⟨?_,held.conectado,held.bloque,fun _ => rfl,?_⟩
      · rw [Nat.add_mul,Nat.one_mul] at inside
        simp only [Bool.false_eq_true,if_false,Archivo.fwrite,held.tamanio,contenido.2]
        omega
      · rw [held.bloque]
        exact store_map held.archivo _ _
  | swap_leer_bloque nro_bloque =>
    simp only [Pedido.nro_bloque] at valid inside
    refine ⟨?_,?_⟩
    · simp [llamar,sirve,resultado,valid,KernelMemory.swap_leer_bloque,held.responde,held.conectado,held.bloque,
        load_map held.archivo,fread_entera held.tamanio inside]
    · simp only [llamar,sirve,servicio,orden,atender,valid,KernelMemory.swap_leer_bloque,held.responde,if_neg held.conectado]
      exact ⟨held.tamanio,held.conectado,held.bloque,fun _ => rfl,held.archivo⟩

theorem registrado_refleja {fd : Int} (connected : fd ≠ -1) (m : KernelMemory.Estado) (answers : ∀ k, m.respuestas k = .responde) :
    Refleja d d.archivo (KernelMemory.swap_registrar fd d.block_size.toInt d.swap_size.toInt m) where
  tamanio := rfl
  conectado := connected
  bloque := by
    show d.block_size.toInt.toNat = d.block_size.toNat
    rw [toNat_of_pos d.bloque_positivo]
    rfl
  responde := answers
  archivo _ := rfl

/-- The file that the model of Kernel Memory keeps by itself is that of the swap module behind the socket: once the swap
    has registered, whatever the turns of the two sides, calls for blocks of the swap have the results of that model,
    and between two calls the file is the same. -/
theorem km_swap_behind_socket (d : Medidas) (fd : Int) (connected : fd ≠ -1) (m : KernelMemory.Estado)
    (answering : ∀ k, m.respuestas k = .responde) {turns : List (Turno (Pedido d) Empty)} {v : Sesion d}
    (valid : ∀ p, .llama p ∈ turns → 0 ≤ p.nro_bloque.toInt ∧
      p.nro_bloque.toInt < (KernelMemory.swap_registrar fd d.block_size.toInt d.swap_size.toInt m).swap_total_bloques)
    (reached : run servicio.paso turns (inicio d) = some v) :
    resultados v = answers llamar (pedidos v) (KernelMemory.swap_registrar fd d.block_size.toInt d.swap_size.toInt m) ∧
      (v.llamada = none → ∀ i, (after llamar (pedidos v)
        (KernelMemory.swap_registrar fd d.block_size.toInt d.swap_size.toInt m)).archivo_swap i = UInt8.ofBitVec (v.estado.datos i)) := by
  have held := en_serie_of_run servicio_acorde propio_de_solo trivial reached
  have fine : ∀ p ∈ pedidos v, d.invalido p.nro_bloque = false := by
    refine pedidos_of_run ?_ reached
    rintro t listed p rfl
    obtain ⟨low,high⟩ := valid p listed
    simp only [Medidas.invalido,Bool.or_eq_false_iff,decide_eq_false_iff_not,not_lt,not_le]
    exact ⟨low,high⟩
  obtain ⟨same,mirror⟩ := after_related (pedidos v) (fun p listed => sirve_llamar p (fine p listed))
    (registrado_refleja connected m answering)
  refine ⟨?_,?_⟩
  · rw [held.resultados]
    exact same.symm
  · intro idle i
    rw [held.estado idle]
    exact mirror.archivo i

theorem km_swap_behind_socket_dos : ∃ v : Sesion medidas_prueba, run servicio.paso escribe_y_lee (inicio medidas_prueba) = some v ∧
    resultados v = answers llamar (pedidos v) (KernelMemory.swap_registrar 5 2 5 (KernelMemory.inicial 0 true (fun _ => .responde))) := by
  have ends : (run servicio.paso escribe_y_lee (inicio medidas_prueba)).isSome := by decide +kernel
  obtain ⟨v,reached⟩ := Option.isSome_iff_exists.mp ends
  refine ⟨v,reached,(km_swap_behind_socket medidas_prueba 5 (by decide) _ (fun _ => rfl) ?_ reached).1⟩
  intro p called
  simp only [escribe_y_lee,llamada,List.cons_append,List.mem_cons,List.mem_append,List.mem_replicate,reduceCtorEq,and_false,or_false,
    Turno.llama.injEq,false_or] at called
  rcases called with rfl | rfl <;> exact ⟨by decide,by decide⟩

end PlugNPray.SwapSocket
