import PlugNPray.Dialogues
import PlugNPray.Instructions
import PlugNPray.Protocol

/-!
The socket between a CPU and Kernel Memory: the requests of the CPU for instructions,
contexts and Memory Sticks, byte by byte, with the handler that answers them, while the
other modules change what Kernel Memory holds.
-/
namespace PlugNPray.CpuRequests
open PlugNPray.Wire PlugNPray.Protocol PlugNPray.Runs PlugNPray.Dialogues
open PlugNPray.Instructions (Registros)

/-! ## Data -/

/-- A text with its NUL in a buffer of `n` bytes. -/
structure Cadena (n : Nat) where
  texto : List Byte
  sin_nul : 0 ∉ texto
  entra : texto.length < n
  deriving DecidableEq

/-- What snprintf leaves of a text in the `ip` of a stick. -/
def ip_de (texto : List Byte) : Cadena 64 where
  texto := (texto.takeWhile (· ≠ 0)).take 63
  sin_nul := by
    intro member
    simpa using List.mem_takeWhile_imp (List.mem_of_mem_take member)
  entra := by
    rw [List.length_take]
    omega

structure Segmento where
  id : Entero
  base : Entero
  limite : Entero
  deriving DecidableEq

/-- `linea` of the loader is a buffer of 256 bytes. -/
structure Contexto where
  pid : Entero
  registros : Registros
  instrucciones : List (Cadena 256)
  tabla_segmentos : List Segmento
  deriving DecidableEq

structure MemoryStick where
  fd : Entero
  tamanio : Entero
  ip : Cadena 64
  puerto : Entero
  deriving DecidableEq

structure Memoria where
  lista_contextos : List Contexto
  lista_memory_sticks : List MemoryStick
  /-- The registers that a process of the list saved last. -/
  guardados : Entero → Option Registros

/-- What a CPU knows of a stick; its socket is left out. -/
structure StickCpu where
  ip : List Byte
  puerto : Entero
  base_global : Entero
  tamanio : Entero
  deriving DecidableEq

/-- The bytes of `t_registros_cpu`, which are those of `t_registros`: no member needs padding. -/
def octetos_de (r : Registros) : List Byte :=
  bytes_de r.PC.toBitVec ++ [r.AX.toBitVec,r.BX.toBitVec,r.CX.toBitVec,r.DX.toBitVec] ++ bytes_de r.EAX.toBitVec ++
    bytes_de r.EBX.toBitVec ++ bytes_de r.ECX.toBitVec ++ bytes_de r.EDX.toBitVec ++ bytes_de r.SI.toBitVec ++ bytes_de r.DI.toBitVec

def octeto (b : List Byte) (i : Nat) : UInt8 := ⟨b.getD i 0⟩
def palabra (b : List Byte) (i : Nat) : UInt32 := ⟨b.getD (i + 3) 0 ++ b.getD (i + 2) 0 ++ b.getD (i + 1) 0 ++ b.getD i 0⟩

def registros_de (b : List Byte) : Registros where
  PC := palabra b 0
  AX := octeto b 4
  BX := octeto b 5
  CX := octeto b 6
  DX := octeto b 7
  EAX := palabra b 8
  EBX := palabra b 12
  ECX := palabra b 16
  EDX := palabra b 20
  SI := palabra b 24
  DI := palabra b 28

/-- `sizeof(t_registros)` -/
def tamanio_registros : Nat := 32

theorem length_octetos_de (r : Registros) : (octetos_de r).length = tamanio_registros := rfl

theorem registros_de_octetos (r : Registros) : registros_de (octetos_de r) = r := by
  have word (v : UInt32) : (⟨v.toBitVec.extractLsb' 24 8 ++ v.toBitVec.extractLsb' 16 8 ++ v.toBitVec.extractLsb' 8 8 ++
      v.toBitVec.extractLsb' 0 8⟩ : UInt32) = v := by
    rw [join_bytes]
  cases r
  simp only [registros_de,Registros.mk.injEq]
  exact ⟨word _,rfl,rfl,rfl,rfl,word _,word _,word _,word _,word _,word _⟩

/-! ## Kernel Memory -/

def contexto_buscar (m : Memoria) (pid : Entero) : Option Contexto := m.lista_contextos.find? (fun c => c.pid = pid)

/-- The first context of the process changed, if there is one. -/
def Memoria.con_contexto (m : Memoria) (pid : Entero) (f : Contexto → Contexto) : Memoria :=
  { m with lista_contextos := m.lista_contextos.modify (m.lista_contextos.findIdx (fun c => c.pid = pid)) f }

def contexto_guardar (pid : Entero) (registros : Registros) (m : Memoria) : Memoria :=
  { m.con_contexto pid (fun c => { c with registros := registros }) with
    guardados := fun q => if q = pid ∧ (contexto_buscar m pid).isSome then some registros else m.guardados q }

/-- The requests that atender_cpu reads, with their parameters. -/
inductive Orden where
  | fetch (pid pc : Entero)
  | obtener_contexto (pid : Entero)
  | guardar_contexto (pid : Entero) (registros : Registros)
  | lista_sticks
  | desconocida (op : Entero)

/-- No CPU sends the code -1, which ends the handler. -/
def recibir_orden : Lector Orden := do
  let op ← Lector.entero
  if op = OP_FETCH then do
    let pid ← Lector.entero
    let pc ← Lector.entero
    pure (.fetch pid pc)
  else if op = OP_OBTENER_CONTEXTO then do
    let pid ← Lector.entero
    pure (.obtener_contexto pid)
  else if op = OP_GUARDAR_CONTEXTO then do
    let pid ← Lector.entero
    let registros ← Lector.bytes tamanio_registros
    pure (.guardar_contexto pid (registros_de registros))
  else if op = OP_LISTA_STICKS then pure .lista_sticks
  else pure (.desconocida op)

/-- A text without its NUL, after its length. -/
def enviar_texto (texto : List Byte) : List Campo := [.entero (BitVec.ofNat 32 texto.length),.bytes texto]
def enviar_segmento (s : Segmento) : List Campo := [.entero s.id,.entero s.base,.entero s.limite]
def enviar_stick (s : MemoryStick) : List Campo := enviar_texto s.ip.texto ++ [.entero s.puerto,.entero s.tamanio]

/-- The instruction at a program counter of a process. -/
def instruccion (m : Memoria) (pid pc : Entero) : Option (Cadena 256) :=
  (contexto_buscar m pid).bind (fun ctx => if pc.toInt < 0 then none else ctx.instrucciones[pc.toNat]?)

/-- What the handler does with an order, and what it sends back. -/
def atender_cpu : Orden → Memoria → Memoria × List Campo
  | .fetch pid pc, m =>
    (m,match instruccion m pid pc with
      | none => [.entero OP_ERROR]
      | some linea => .entero OP_OK :: enviar_texto linea.texto)
  | .obtener_contexto pid, m =>
    (m,match contexto_buscar m pid with
      | none => [.entero OP_ERROR]
      | some ctx => [.entero OP_OK,.bytes (octetos_de ctx.registros),.entero (BitVec.ofNat 32 ctx.tabla_segmentos.length)] ++
        ctx.tabla_segmentos.flatMap enviar_segmento)
  | .guardar_contexto pid registros, m => (contexto_guardar pid registros m,[.entero OP_OK])
  | .lista_sticks, m =>
    (m,.entero (BitVec.ofNat 32 m.lista_memory_sticks.length) :: m.lista_memory_sticks.flatMap enviar_stick)
  | .desconocida _, m => (m,[])

/-- What the handlers of the other modules do meanwhile. -/
inductive Otro where
  | contexto_crear (pid : Entero) (instrucciones : List (Cadena 256))
  | contexto_eliminar (pid : Entero)
  | contexto_guardar (pid : Entero) (registros : Registros)
  | cambiar_tabla (pid : Entero) (tabla : List Segmento)
  | memory_stick_agregar (fd tamanio : Entero) (ip : List Byte) (puerto : Entero)
  | memory_stick_eliminar (fd : Entero)

def cambiar : Otro → Memoria → Memoria
  | .contexto_crear pid instrucciones, m =>
    { m with lista_contextos := m.lista_contextos ++ [⟨pid,⟨0,0,0,0,0,0,0,0,0,0,0⟩,instrucciones,[]⟩] }
  | .contexto_eliminar pid, m =>
    { m with
      lista_contextos := m.lista_contextos.eraseP (fun c => c.pid = pid)
      guardados := fun q => if q = pid then none else m.guardados q }
  | .contexto_guardar pid registros, m => contexto_guardar pid registros m
  | .cambiar_tabla pid tabla, m => m.con_contexto pid (fun c => { c with tabla_segmentos := tabla })
  | .memory_stick_agregar fd tamanio ip puerto, m =>
    { m with lista_memory_sticks := m.lista_memory_sticks ++ [⟨fd,tamanio,ip_de ip,puerto⟩] }
  | .memory_stick_eliminar fd, m => { m with lista_memory_sticks := m.lista_memory_sticks.eraseP (fun s => s.fd = fd) }

/-! ## CPU -/

/-- The calls of a CPU; `acepta` tells which sticks of the list take its connection and its handshake. -/
inductive Pedido where
  | fetch (pid pc : Entero)
  | obtener_contexto (pid : Entero)
  | guardar_contexto (pid : Entero) (registros : Registros)
  | actualizar_memory_sticks (acepta : Nat → Bool)

/-- What each call returns, and what it leaves in the variables of the CPU. -/
inductive Resultado where
  | instruccion (texto : Option (List Byte))
  | contexto (leido : Option (Registros × List Segmento))
  | guardado (b : Bool)
  | sticks (lista : Option (List StickCpu))
  deriving DecidableEq

def pide : Pedido → List Campo
  | .fetch pid pc => [.entero OP_FETCH,.entero pid,.entero pc]
  | .obtener_contexto pid => [.entero OP_OBTENER_CONTEXTO,.entero pid]
  | .guardar_contexto pid registros => [.entero OP_GUARDAR_CONTEXTO,.entero pid,.bytes (octetos_de registros)]
  | .actualizar_memory_sticks _ => [.entero OP_LISTA_STICKS]

def recibir_instruccion_desde_memoria : Lector (Option (List Byte)) := do
  let respuesta ← Lector.entero
  if respuesta ≠ OP_OK then pure none
  else do
    let tamanio ← Lector.entero
    if tamanio.toInt ≤ 0 ∨ 10000 < tamanio.toInt then pure none
    else do
      let texto ← Lector.bytes tamanio.toNat
      pure (some texto)

def recibir_segmento : Lector Segmento := do
  let id ← Lector.entero
  let base ← Lector.entero
  let limite ← Lector.entero
  pure ⟨id,base,limite⟩

def obtener_contexto : Lector (Option (Registros × List Segmento)) := do
  let respuesta ← Lector.entero
  if respuesta ≠ OP_OK then pure none
  else do
    let registros ← Lector.bytes tamanio_registros
    let cantidad_segmentos ← Lector.entero
    if cantidad_segmentos.toInt < 0 then pure none
    else do
      let tabla ← Lector.repetir recibir_segmento cantidad_segmentos.toNat
      pure (some (registros_de registros,tabla))

def guardar_contexto : Lector Bool := do
  let respuesta ← Lector.entero
  pure (respuesta = OP_OK)

/-- The loop of actualizar_memory_sticks: `cantidad` sticks to go, from the one at `i`. -/
def recibir_sticks (acepta : Nat → Bool) : Nat → Nat → Entero → List StickCpu → Lector (Option (List StickCpu))
  | 0, _, _, nueva_lista => pure (some nueva_lista)
  | cantidad+1, i, base_actual, nueva_lista => do
    let len_ip ← Lector.entero
    if len_ip.toInt ≤ 0 ∨ 255 < len_ip.toInt then pure none
    else do
      let ip ← Lector.bytes len_ip.toNat
      let puerto ← Lector.entero
      let tamanio ← Lector.entero
      recibir_sticks acepta cantidad (i + 1) (base_actual + tamanio)
        (if acepta i then nueva_lista ++ [⟨ip,puerto,base_actual,tamanio⟩] else nueva_lista)

def actualizar_memory_sticks (acepta : Nat → Bool) : Lector (Option (List StickCpu)) := do
  let cantidad ← Lector.entero
  if cantidad.toInt < 0 then pure none
  else recibir_sticks acepta cantidad.toNat 0 0 []

def lector : Pedido → Lector Resultado
  | .fetch _ _ => do
    let texto ← recibir_instruccion_desde_memoria
    pure (.instruccion texto)
  | .obtener_contexto _ => do
    let leido ← obtener_contexto
    pure (.contexto leido)
  | .guardar_contexto _ _ => do
    let b ← guardar_contexto
    pure (.guardado b)
  | .actualizar_memory_sticks acepta => do
    let lista ← actualizar_memory_sticks acepta
    pure (.sticks lista)

def servicio : Servicio Pedido Orden Memoria Resultado Otro where
  pide := pide
  lector := lector
  recibe := recibir_orden
  atiende := atender_cpu
  cambia := cambiar

abbrev Sesion := Dialogues.Sesion Pedido Orden Memoria Resultado

/-- Kernel Memory before any other module connects. -/
def inicio : Sesion := servicio.inicio ⟨[],[],fun _ => none⟩

/-! ## What each call should return -/

def orden : Pedido → Orden
  | .fetch pid pc => .fetch pid pc
  | .obtener_contexto pid => .obtener_contexto pid
  | .guardar_contexto pid registros => .guardar_contexto pid registros
  | .actualizar_memory_sticks _ => .lista_sticks

/-- Kernel Memory's list, where the base of a stick is the sum of the sizes before it. -/
def conocidos (base : Entero) (l : List MemoryStick) : List StickCpu :=
  l.mapIdx (fun i s => ⟨s.ip.texto,s.puerto,base + ((l.take i).map MemoryStick.tamanio).sum,s.tamanio⟩)

/-- The sticks whose places, counted from `i`, are accepted. -/
def aceptados (acepta : Nat → Bool) (i : Nat) (l : List StickCpu) : List StickCpu :=
  ((l.zipIdx i).filter (fun x => acepta x.2)).map Prod.fst

/-- An empty line is taken for an error. -/
def resultado : Pedido → Memoria → Resultado
  | .fetch pid pc, m => .instruccion (((instruccion m pid pc).map Cadena.texto).filter (· ≠ []))
  | .obtener_contexto pid, m => .contexto ((contexto_buscar m pid).map (fun c => (c.registros,c.tabla_segmentos)))
  | .guardar_contexto _ _, _ => .guardado true
  | .actualizar_memory_sticks acepta, m => .sticks (some (aceptados acepta 0 (conocidos 0 m.lista_memory_sticks)))

/-- The lists have a length that is an `int`, the sticks an IP, and the processes the registers that they saved last. -/
structure Valida (m : Memoria) : Prop where
  tablas : ∀ c ∈ m.lista_contextos, c.tabla_segmentos.length < 2^31
  sticks : m.lista_memory_sticks.length < 2^31
  ips : ∀ s ∈ m.lista_memory_sticks, s.ip.texto ≠ []
  guardados : ∀ pid r, m.guardados pid = some r → ∃ c, contexto_buscar m pid = some c ∧ c.registros = r

/-! ### Contexts -/

variable {m : Memoria} {pid q : Entero} {f : Contexto → Contexto}

theorem buscar_con_contexto (keeps : ∀ c, (f c).pid = c.pid) :
    contexto_buscar (m.con_contexto pid f) q = if q = pid then (contexto_buscar m pid).map f else contexto_buscar m q := by
  unfold contexto_buscar Memoria.con_contexto
  induction m.lista_contextos with
  | nil => simp
  | cons c l ih =>
    by_cases mine : c.pid = pid
    · by_cases same : q = pid
      · simp [List.findIdx_cons,mine,same,keeps]
      · simp [List.findIdx_cons,mine,same,Ne.symm same,keeps]
    · by_cases same : q = pid
      · rw [if_pos same] at ih ⊢
        simpa [List.findIdx_cons,mine,same] using ih
      · rw [if_neg same] at ih ⊢
        by_cases other : c.pid = q
        · simp [List.findIdx_cons,other,same]
        · simpa [List.findIdx_cons,mine,other] using ih

theorem buscar_eliminar (other : q ≠ pid) :
    (m.lista_contextos.eraseP (fun c => c.pid = pid)).find? (fun c => c.pid = q) = contexto_buscar m q := by
  unfold contexto_buscar
  induction m.lista_contextos with
  | nil => rfl
  | cons c l ih =>
    by_cases mine : c.pid = pid
    · simp [mine,Ne.symm other]
    · by_cases here : c.pid = q
      · simp [here,other]
      · simpa [mine,here] using ih

theorem tablas_con_contexto (small : ∀ c ∈ m.lista_contextos, (f c).tabla_segmentos.length < 2^31) (valid : Valida m) :
    ∀ c ∈ (m.con_contexto pid f).lista_contextos, c.tabla_segmentos.length < 2^31 := by
  intro c member
  obtain ⟨i,inside,rfl⟩ := List.getElem_of_mem member
  have inside' : i < m.lista_contextos.length := by simpa [Memoria.con_contexto] using inside
  simp only [Memoria.con_contexto,List.getElem_modify]
  split_ifs
  · exact small _ (List.getElem_mem inside')
  · exact valid.tablas _ (List.getElem_mem inside')

theorem guardar_valida (registros : Registros) (valid : Valida m) : Valida (contexto_guardar pid registros m) where
  tablas := tablas_con_contexto (fun c member => valid.tablas c member) valid
  sticks := valid.sticks
  ips := valid.ips
  guardados := by
    intro p r saved
    have found : contexto_buscar (m.con_contexto pid (fun c => { c with registros := registros })) p = _ :=
      buscar_con_contexto (q := p) (fun _ => rfl)
    show ∃ c, contexto_buscar (m.con_contexto pid _) p = some c ∧ c.registros = r
    rw [found]
    simp only [contexto_guardar] at saved
    by_cases same : p = pid
    · subst same
      simp only [true_and] at saved
      split_ifs at saved with known
      · cases saved
        obtain ⟨c,here⟩ := Option.isSome_iff_exists.mp known
        exact ⟨_,by rw [if_pos rfl,here]; rfl,rfl⟩
      · obtain ⟨c,here,_⟩ := valid.guardados p r saved
        rw [here] at known
        exact absurd rfl known
    · simp only [same,false_and,if_false] at saved
      rw [if_neg same]
      exact valid.guardados p r saved

/-- The lists stay within an `int`, and a stick that joins has an IP. -/
def Permitido (t : Turno Pedido Otro) (v : Sesion) : Prop :=
  match t with
  | .otro (.cambiar_tabla _ tabla) => tabla.length < 2^31
  | .otro (.memory_stick_agregar _ _ ip _) => (ip_de ip).texto ≠ [] ∧ v.estado.lista_memory_sticks.length + 1 < 2^31
  | _ => True

theorem cambiar_valida {o : Otro} {v : Sesion} (admitted : Permitido (.otro o) v) (valid : Valida v.estado) :
    Valida (cambiar o v.estado) := by
  cases o with
  | contexto_crear pid instrucciones =>
    refine ⟨?_,valid.sticks,valid.ips,?_⟩
    · intro c member
      rcases List.mem_append.mp member with old | new
      · exact valid.tablas c old
      · rw [List.mem_singleton.mp new]
        simp
    · intro p r saved
      obtain ⟨c,here,same⟩ := valid.guardados p r saved
      refine ⟨c,?_,same⟩
      show (v.estado.lista_contextos ++ _).find? _ = some c
      rw [List.find?_append,show v.estado.lista_contextos.find? _ = some c from here]
      rfl
  | contexto_eliminar pid =>
    refine ⟨?_,valid.sticks,valid.ips,?_⟩
    · intro c member
      exact valid.tablas c (List.mem_of_mem_eraseP member)
    · intro p r saved
      simp only [cambiar] at saved
      split_ifs at saved with same
      obtain ⟨c,here,kept⟩ := valid.guardados p r saved
      exact ⟨c,(buscar_eliminar same).trans here,kept⟩
  | contexto_guardar pid registros => exact guardar_valida registros valid
  | cambiar_tabla pid tabla =>
    refine ⟨tablas_con_contexto (fun _ _ => admitted) valid,valid.sticks,valid.ips,?_⟩
    intro p r saved
    obtain ⟨c,here,same⟩ := valid.guardados p r saved
    have found : contexto_buscar (v.estado.con_contexto pid (fun c => { c with tabla_segmentos := tabla })) p = _ :=
      buscar_con_contexto (q := p) (fun _ => rfl)
    show ∃ c, contexto_buscar (v.estado.con_contexto pid _) p = some c ∧ c.registros = r
    rw [found]
    split_ifs with mine
    · subst mine
      exact ⟨{ c with tabla_segmentos := tabla },by rw [here]; rfl,same⟩
    · exact ⟨c,here,same⟩
  | memory_stick_agregar fd tamanio ip puerto =>
    refine ⟨valid.tablas,?_,?_,valid.guardados⟩
    · simpa [cambiar] using admitted.2
    · intro s member
      rcases List.mem_append.mp member with old | new
      · exact valid.ips s old
      · rw [List.mem_singleton.mp new]
        exact admitted.1
  | memory_stick_eliminar fd =>
    refine ⟨valid.tablas,?_,?_,valid.guardados⟩
    · exact (List.length_eraseP_le).trans_lt valid.sticks
    · intro s member
      exact valid.ips s (List.mem_of_mem_eraseP member)

/-! ### Messages -/

theorem toNat_longitud {n : Nat} (small : n < 2^31) : (BitVec.ofNat 32 n).toNat = n := by
  rw [BitVec.toNat_ofNat,Nat.mod_eq_of_lt (by omega)]

theorem toInt_longitud {n : Nat} (small : n < 2^31) : (BitVec.ofNat 32 n).toInt = n := by
  rw [BitVec.toInt_eq_toNat_of_lt (by rw [toNat_longitud small]; omega),toNat_longitud small]

theorem toma_orden (p : Pedido) : recibir_orden.Toma (pide p) (orden p) := by
  cases p with
  | fetch pid pc =>
    apply Lector.Toma.entero
    rw [if_pos rfl]
    apply Lector.Toma.entero
    apply Lector.Toma.entero
    exact Lector.toma_pure _
  | obtener_contexto pid =>
    apply Lector.Toma.entero
    rw [if_neg (by decide),if_pos rfl]
    apply Lector.Toma.entero
    exact Lector.toma_pure _
  | guardar_contexto pid registros =>
    apply Lector.Toma.entero
    rw [if_neg (by decide),if_neg (by decide),if_pos rfl]
    apply Lector.Toma.entero
    apply Lector.Toma.bytes (length_octetos_de registros)
    rw [registros_de_octetos]
    exact Lector.toma_pure _
  | actualizar_memory_sticks acepta =>
    apply Lector.Toma.entero
    rw [if_neg (by decide),if_neg (by decide),if_neg (by decide),if_pos rfl]
    exact Lector.toma_pure _

theorem toma_segmento (s : Segmento) : recibir_segmento.Toma (enviar_segmento s) s := by
  apply Lector.Toma.entero
  apply Lector.Toma.entero
  apply Lector.Toma.entero
  exact Lector.toma_pure s

theorem toma_instruccion (texto : Option (Cadena 256)) : recibir_instruccion_desde_memoria.Toma
    (match texto with
      | none => [.entero OP_ERROR]
      | some linea => .entero OP_OK :: enviar_texto linea.texto)
    ((texto.map Cadena.texto).filter (· ≠ [])) := by
  cases texto with
  | none =>
    apply Lector.Toma.entero
    rw [if_pos (by decide)]
    exact Lector.toma_pure _
  | some linea =>
    have small : linea.texto.length < 2^31 := by have := linea.entra; omega
    apply Lector.Toma.entero
    rw [if_neg (by simp)]
    apply Lector.Toma.entero
    rw [toInt_longitud small,toNat_longitud small]
    by_cases empty : linea.texto = []
    · -- The length is refused, and there are no bytes after it.
      rw [if_pos (by simp [empty]),empty]
      intro rest
      simp [empty,Campo.octetos]
      rfl
    · have some : 0 < linea.texto.length := List.length_pos_of_ne_nil empty
      have short := linea.entra
      rw [if_neg (by omega)]
      simp only [Option.map_some,Option.filter_some,empty,ne_eq,not_false_eq_true,decide_true,if_true]
      apply Lector.Toma.bytes rfl
      exact Lector.toma_pure _

theorem toma_contexto {m : Memoria} (valid : Valida m) (pid : Entero) : obtener_contexto.Toma
    (atender_cpu (.obtener_contexto pid) m).2 ((contexto_buscar m pid).map (fun c => (c.registros,c.tabla_segmentos))) := by
  simp only [atender_cpu]
  cases found : contexto_buscar m pid with
  | none =>
    apply Lector.Toma.entero
    rw [if_pos (by decide)]
    exact Lector.toma_pure _
  | some ctx =>
    have small := valid.tablas ctx (List.mem_of_find?_eq_some found)
    apply Lector.Toma.entero
    rw [if_neg (by simp)]
    apply Lector.Toma.bytes (length_octetos_de ctx.registros)
    apply Lector.Toma.entero
    rw [toInt_longitud small,toNat_longitud small,if_neg (by omega)]
    rw [← List.append_nil (List.flatMap _ _)]
    apply (Lector.toma_repetir toma_segmento ctx.tabla_segmentos).bind
    rw [registros_de_octetos]
    exact Lector.toma_pure _

@[simp] theorem conocidos_nil (base : Entero) : conocidos base [] = [] := rfl

theorem conocidos_cons (base : Entero) (s : MemoryStick) (l : List MemoryStick) :
    conocidos base (s :: l) = ⟨s.ip.texto,s.puerto,base,s.tamanio⟩ :: conocidos (base + s.tamanio) l := by
  simp [conocidos,List.mapIdx_cons,BitVec.add_assoc]

theorem aceptados_cons (acepta : Nat → Bool) (i : Nat) (s : StickCpu) (l : List StickCpu) :
    aceptados acepta i (s :: l) = (if acepta i then [s] else []) ++ aceptados acepta (i + 1) l := by
  by_cases takes : acepta i <;> simp [aceptados,takes]

/-- The loop adds to the new list the sticks that it is sent and that take the connection. -/
theorem toma_sticks (acepta : Nat → Bool) {l : List MemoryStick} (ips : ∀ s ∈ l, s.ip.texto ≠ []) (i : Nat) (base_actual : Entero)
    (nueva_lista : List StickCpu) : (recibir_sticks acepta l.length i base_actual nueva_lista).Toma (l.flatMap enviar_stick)
      (some (nueva_lista ++ aceptados acepta i (conocidos base_actual l))) := by
  induction l generalizing i base_actual nueva_lista with
  | nil =>
    rw [conocidos_nil,show aceptados acepta i [] = [] from rfl,List.append_nil]
    exact Lector.toma_pure _
  | cons s l ih =>
    obtain ⟨named,later⟩ := List.forall_mem_cons.mp ips
    have short := s.ip.entra
    have some : 0 < s.ip.texto.length := List.length_pos_of_ne_nil named
    have small : s.ip.texto.length < 2^31 := by omega
    rw [List.length_cons,recibir_sticks]
    apply Lector.Toma.entero
    rw [toInt_longitud small,toNat_longitud small,if_neg (by omega)]
    apply Lector.Toma.bytes rfl
    apply Lector.Toma.entero
    apply Lector.Toma.entero
    rw [conocidos_cons,aceptados_cons,← List.append_assoc]
    have rest := ih later (i + 1) (base_actual + s.tamanio)
      (if acepta i then nueva_lista ++ [⟨s.ip.texto,s.puerto,base_actual,s.tamanio⟩] else nueva_lista)
    split_ifs at rest ⊢
    · exact rest
    · rw [List.append_nil]
      exact rest

theorem toma_lista {m : Memoria} (valid : Valida m) (acepta : Nat → Bool) : (actualizar_memory_sticks acepta).Toma
    (atender_cpu .lista_sticks m).2 (some (aceptados acepta 0 (conocidos 0 m.lista_memory_sticks))) := by
  apply Lector.Toma.entero
  rw [toInt_longitud valid.sticks,toNat_longitud valid.sticks,if_neg (by omega)]
  exact toma_sticks acepta valid.ips 0 0 []

theorem toma_respuesta (p : Pedido) (m : Memoria) (valid : Valida m) :
    (lector p).Toma (atender_cpu (orden p) m).2 (resultado p m) := by
  rw [← List.append_nil (atender_cpu (orden p) m).2]
  cases p with
  | fetch pid pc => exact (toma_instruccion (instruccion m pid pc)).bind (Lector.toma_pure _)
  | obtener_contexto pid => exact (toma_contexto valid pid).bind (Lector.toma_pure _)
  | guardar_contexto pid registros =>
    refine Lector.Toma.bind (a := true) ?_ (Lector.toma_pure _)
    apply Lector.Toma.entero
    exact Lector.toma_pure _
  | actualizar_memory_sticks acepta => exact (toma_lista valid acepta).bind (Lector.toma_pure _)

theorem servicio_acorde : servicio.Acorde Valida orden resultado where
  abre := ⟨_,rfl⟩
  espera := by
    intro p
    cases p <;> exact ⟨_,rfl⟩
  pedido := toma_orden
  respuesta := toma_respuesta
  conserva := by
    intro p m valid
    cases p with
    | guardar_contexto pid registros => exact guardar_valida registros valid
    | _ => exact valid

instance : ∀ (t : Turno Pedido Otro) (v : Sesion), Decidable (Permitido t v)
  | .otro (.cambiar_tabla _ _), _ => inferInstanceAs (Decidable (_ < _))
  | .otro (.memory_stick_agregar _ _ _ _), _ => inferInstanceAs (Decidable (_ ∧ _))
  | .otro (.contexto_crear _ _), _ | .otro (.contexto_eliminar _), _ | .otro (.contexto_guardar _ _), _
  | .otro (.memory_stick_eliminar _), _ => isTrue trivial
  | .llama _, _ | .cliente, _ | .servidor, _ => isTrue trivial

theorem permitido_respeta (t : Turno Pedido Otro) (v : Sesion) (admitted : Permitido t v) : Servicio.Respeta servicio Valida t v := by
  cases t with
  | otro o =>
    intro valid
    exact cambiar_valida admitted valid
  | _ => trivial

theorem inicio_valida : Valida ⟨[],[],fun _ => none⟩ := by
  constructor <;> simp

/-- In every run of a CPU and Kernel Memory, in any order of their turns, both sides are at the start of a message when no call
    is under way, a call that is can be brought to its end, and each call returns what Kernel Memory held when it took
    the request: the instruction, the context with the registers that the process saved last, and the sticks that took
    the connection. -/
theorem cpu_in_lockstep {turns : List (Turno Pedido Otro)} {v : Sesion} (admitted : Guarded servicio.paso Permitido turns inicio)
    (reached : run servicio.paso turns inicio = some v) :
    (v.llamada = none → v.subida = [] ∧ v.bajada = [] ∧ octetos v.envia = [] ∧ v.lee = recibir_orden) ∧
      (∃ (more : List (Turno Pedido Otro)) (w : Sesion), (∀ t ∈ more, t = .cliente ∨ t = .servidor) ∧
        run servicio.paso more v = some w ∧ w.llamada = none) ∧
      (∀ p m r, (p,m,r) ∈ v.hechas → r = resultado p m) ∧
      ∀ pid m r registros, (.obtener_contexto pid,m,r) ∈ v.hechas → m.guardados pid = some registros →
        ∃ c, contexto_buscar m pid = some c ∧ r = .contexto (some (registros,c.tabla_segmentos)) := by
  have held : Servicio.Alineada servicio Valida orden resultado v := by
    refine invariant_of_guarded ?_ (Servicio.inicio_alineada inicio_valida) admitted reached
    intro t v w held allowed moved
    exact Servicio.paso_alineada servicio_acorde t v w held (permitido_respeta t v allowed) moved
  have results : ∀ p m r, (p,m,r) ∈ v.hechas → r = resultado p m := fun p m r member => (held.hechas _ member).2
  refine ⟨?_,held.vuelve servicio_acorde,results,?_⟩
  · intro idle
    have rests := held.reposo idle
    exact ⟨rests.subida,rests.bajada,rests.envia,rests.lee⟩
  · intro pid m r registros member saved
    obtain ⟨c,here,same⟩ := (held.hechas _ member).1.guardados pid registros saved
    refine ⟨c,here,?_⟩
    rw [results _ _ _ member]
    simp [resultado,here,same]

def registros_siete : Registros := ⟨7,1,2,3,4,5,6,7,8,9,10⟩

/-- A call: turns of the CPU, of Kernel Memory and of the CPU again. -/
def llamada (p : Pedido) (pide responde vuelve : Nat) : List (Turno Pedido Otro) :=
  .llama p :: (List.replicate pide .cliente ++ (List.replicate responde .servidor ++ List.replicate vuelve .cliente))

/-- Process 3 is created, saves its registers and asks for its context once it has a segment. -/
def guarda_y_obtiene : List (Turno Pedido Otro) :=
  .otro (.contexto_crear 3 []) :: (llamada (.guardar_contexto 3 registros_siete) 3 5 2 ++
    .otro (.cambiar_tabla 3 [⟨0,16,64⟩]) :: llamada (.obtener_contexto 3) 2 9 7)

theorem cpu_in_lockstep_guarda : ∃ v : Sesion, run servicio.paso guarda_y_obtiene inicio = some v ∧ v.llamada = none ∧
    v.hechas.map (fun x => x.2.2) = [.guardado true,.contexto (some (registros_siete,[⟨0,16,64⟩]))] ∧
    v.subida = [] ∧ v.bajada = [] ∧ ∀ p m r, (p,m,r) ∈ v.hechas → r = resultado p m := by
  have ends : (run servicio.paso guarda_y_obtiene inicio).map (fun v => (v.llamada.isNone,v.hechas.map (fun x => x.2.2))) =
      some (true,[.guardado true,.contexto (some (registros_siete,[⟨0,16,64⟩]))]) := by decide +kernel
  have admitted : Guarded servicio.paso Permitido guarda_y_obtiene inicio := by decide +kernel
  obtain ⟨v,reached,ends⟩ := Option.map_eq_some_iff.mp ends
  obtain ⟨idle,results⟩ := Prod.mk.inj ends
  obtain ⟨aligned,_,right,_⟩ := cpu_in_lockstep admitted reached
  have idle := Option.isNone_iff_eq_none.mp idle
  obtain ⟨up,down,_⟩ := aligned idle
  exact ⟨v,reached,idle,results,up,down,right⟩

/-- The one stick does not take the connection of the CPU. -/
def stick_que_rechaza : List (Turno Pedido Otro) :=
  .otro (.memory_stick_agregar 5 64 [49] 8003) :: llamada (.actualizar_memory_sticks (fun _ => false)) 1 7 6

/-- A process that Kernel Memory does not know saves its registers and asks for its context. -/
def pid_desconocido : List (Turno Pedido Otro) :=
  llamada (.guardar_contexto 3 registros_siete) 3 5 2 ++ llamada (.obtener_contexto 3) 2 4 2

theorem cpu_out_of_lockstep :
    (run servicio.paso stick_que_rechaza inicio).map (fun v => v.hechas.map (fun x => (x.2.1.lista_memory_sticks.length,x.2.2))) =
        some [(1,.sticks (some []))] ∧
      (run servicio.paso pid_desconocido inicio).map (fun v => v.hechas.map (fun x => x.2.2)) =
        some [.guardado true,.contexto none] := by
  constructor <;> decide +kernel

end PlugNPray.CpuRequests
