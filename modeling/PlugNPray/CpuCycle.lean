import PlugNPray.CpuMemory
import PlugNPray.Instructions

/-!
The instruction cycle of a CPU over the memory sticks: the instructions that read and write
memory, and what two runs of one instruction over memories that agree on the segments of the
process have in common. Instructions that call the Kernel Scheduler are left undefined.
-/
namespace PlugNPray.CpuCycle
open PlugNPray.Wire PlugNPray.Mmu PlugNPray.FlatMemory PlugNPray.Huecos PlugNPray.Sticks PlugNPray.CpuMemory PlugNPray.Instructions

/-- Bytes read over a `uint32_t` that was zero. -/
def valor_de (bytes : List UInt8) : UInt32 := .ofNat (numero_de (bytes.map UInt8.toBitVec))
/-- The bytes of a `uint32_t`. -/
def octetos_de (valor : UInt32) : List UInt8 := (bytes_de valor.toBitVec).map UInt8.ofBitVec

def ejecutar_mov_in (tam_max_segmento : UInt32) (tabla_segmentos : List Segmento) (registro_destino : Option String)
    (registros : Registros) (m : MemoriaCpu) : (Registros × Motivo) × MemoriaCpu :=
  match registro_destino with
  | none => ((registros,.ERROR),m)
  | some registro_destino =>
    let tamanio := tamanio_registro registro_destino
    if tamanio = 0 then ((registros,.ERROR),m)
    else match traducir_direccion tam_max_segmento tabla_segmentos registros.SI tamanio with
      | none => ((registros,.SEG_FAULT),m)
      | some direccion_fisica =>
        match leer_memoria direccion_fisica.toNat tamanio.toNat m with
        | (none,m) => ((registros,.ERROR),m)
        | (some bytes,m) => ((siguiente (setear_valor_registro registro_destino (valor_de bytes) registros),.CONTINUAR),m)

def ejecutar_mov_out (tam_max_segmento : UInt32) (tabla_segmentos : List Segmento) (registro_origen : Option String)
    (registros : Registros) (m : MemoriaCpu) : (Registros × Motivo) × MemoriaCpu :=
  match registro_origen with
  | none => ((registros,.ERROR),m)
  | some registro_origen =>
    let tamanio := tamanio_registro registro_origen
    if tamanio = 0 then ((registros,.ERROR),m)
    else match traducir_direccion tam_max_segmento tabla_segmentos registros.DI tamanio with
      | none => ((registros,.SEG_FAULT),m)
      | some direccion_fisica =>
        let valor := obtener_valor_registro registro_origen registros
        match escribir_memoria direccion_fisica.toNat ((octetos_de valor).take tamanio.toNat) m with
        | (false,m) => ((registros,.ERROR),m)
        | (true,m) => ((siguiente registros,.CONTINUAR),m)

/-- The buffer is always obtained. -/
def ejecutar_copy_mem (tam_max_segmento : UInt32) (tabla_segmentos : List Segmento) (registro_tamanio : Option String)
    (registros : Registros) (m : MemoriaCpu) : (Registros × Motivo) × MemoriaCpu :=
  match registro_tamanio with
  | none => ((registros,.ERROR),m)
  | some registro_tamanio =>
    if tamanio_registro registro_tamanio = 0 then ((registros,.ERROR),m)
    else
      let tamanio := obtener_valor_registro registro_tamanio registros
      if tamanio = 0 then ((siguiente registros,.CONTINUAR),m)
      else match traducir_direccion tam_max_segmento tabla_segmentos registros.SI tamanio with
        | none => ((registros,.SEG_FAULT),m)
        | some direccion_fisica_origen =>
          match traducir_direccion tam_max_segmento tabla_segmentos registros.DI tamanio with
          | none => ((registros,.SEG_FAULT),m)
          | some direccion_fisica_destino =>
            match leer_memoria direccion_fisica_origen.toNat tamanio.toNat m with
            | (none,m) => ((registros,.ERROR),m)
            | (some buffer,m) =>
              match escribir_memoria direccion_fisica_destino.toNat buffer m with
              | (false,m) => ((registros,.ERROR),m)
              | (true,m) => ((siguiente registros,.CONTINUAR),m)

/-- The words that strtok cuts at blanks, tabs and newlines. -/
def palabras (instruccion : String) : List String :=
  ((instruccion.toList.splitOnP (fun c => c = ' ' || c = '\t' || c = '\n')).filter (· ≠ [])).map String.ofList

/-- The operation and its parameters. -/
def decode (instruccion : String) : Option String × Option String × Option String :=
  ((palabras instruccion)[0]?,(palabras instruccion)[1]?,(palabras instruccion)[2]?)

/-- The operations that call the Kernel Scheduler. -/
def syscalls : List String :=
  ["SLEEP","INIT_PROC","MUTEX_CREATE","MUTEX_LOCK","MUTEX_UNLOCK","MEM_ALLOC","MEM_FREE","STDIN","STDOUT"]

/-- The instructions that do not touch memory. -/
def entorno (tam_max_segmento : UInt32) (tabla_segmentos : List Segmento) : Entorno where
  tam_max_segmento := tam_max_segmento
  tabla_segmentos := tabla_segmentos
  leer_memoria _ _ := none
  otra _ _ _ _ registros := (registros,.ERROR)

/-- Undefined for a call to the Kernel Scheduler. -/
def execute (tam_max_segmento : UInt32) (tabla_segmentos : List Segmento) (pid : UInt32) (op p1 p2 : Option String)
    (registros : Registros) (m : MemoriaCpu) : Option ((Registros × Motivo) × MemoriaCpu) :=
  match op with
  | some "MOV_IN" => some (ejecutar_mov_in tam_max_segmento tabla_segmentos p1 registros m)
  | some "MOV_OUT" => some (ejecutar_mov_out tam_max_segmento tabla_segmentos p1 registros m)
  | some "COPY_MEM" => some (ejecutar_copy_mem tam_max_segmento tabla_segmentos p1 registros m)
  | op =>
    if (op.map syscalls.contains).getD false then none
    else some (Instructions.execute (entorno tam_max_segmento tabla_segmentos) pid op p1 p2 registros,m)

/-! ## Memories that answer -/

/-- All answer, the CPU's list is right, and memory has less than 2^32 bytes. -/
structure Dispuesta (m : MemoriaCpu) : Prop where
  pequenia : tamanios m.lista_memory_sticks < 2^32
  conoce : Conoce m.lista_memory_sticks m.sticks_cpu
  atiende : Atiende m

theorem Dispuesta.sigue {m m' : MemoriaCpu} (ready : Dispuesta m) (kept : Queda m m') : Dispuesta m' where
  pequenia := kept.tamanios.trans_lt ready.pequenia
  conoce := kept.conoce ready.pequenia ready.conoce
  atiende := kept.atiende ready.atiende

/-- A read answers just when its range is in memory. -/
theorem leer_exacto {m : MemoriaCpu} (ready : Dispuesta m) {dir tam : Nat} (low : dir < 2^32) (some_bytes : 0 < tam) :
    (leer_memoria dir tam m).1 =
      if dir + tam ≤ tamanios m.lista_memory_sticks then some (load (plano m.lista_memory_sticks) dir tam) else none := by
  obtain ⟨-,-,sound,total⟩ := leer_memoria_spec dir tam ready.pequenia ready.conoce low
  cases read : (leer_memoria dir tam m).1 with
  | none =>
    split_ifs with inside
    · have answered := total ready.atiende inside
      rw [read] at answered
      cases answered
    · rfl
  | some bytes =>
    obtain ⟨got,reach⟩ := sound bytes read
    rw [if_pos (reach some_bytes),got]
    rfl

/-- A write inside memory is made. -/
theorem escribir_exacto {m : MemoriaCpu} (ready : Dispuesta m) {dir : Nat} {origen : List UInt8} (low : dir < 2^32)
    (inside : dir + origen.length ≤ tamanios m.lista_memory_sticks) : (escribir_memoria dir origen m).1 = true ∧
    plano (escribir_memoria dir origen m).2.lista_memory_sticks = store (plano m.lista_memory_sticks) dir origen := by
  obtain ⟨-,-,written,total⟩ := escribir_memoria_spec dir origen ready.pequenia ready.conoce low
  have done := total ready.atiende inside
  exact ⟨done,(written done).1⟩

/-- A write that starts after the end of memory fails and writes nothing. -/
theorem escribir_lejos {m : MemoriaCpu} (ready : Dispuesta m) {dir : Nat} {origen : List UInt8} (low : dir < 2^32)
    (some_bytes : origen ≠ []) (outside : tamanios m.lista_memory_sticks ≤ dir) : (escribir_memoria dir origen m).1 = false ∧
    plano (escribir_memoria dir origen m).2.lista_memory_sticks = plano m.lista_memory_sticks := by
  obtain ⟨kept,away,written,-⟩ := escribir_memoria_spec dir origen ready.pequenia ready.conoce low
  have positive := List.length_pos_iff.mpr some_bytes
  constructor
  · rw [Bool.eq_false_iff]
    intro done
    have reach := (written done).2 positive
    omega
  · funext d
    by_cases before : d < dir
    · exact away d (.inl before)
    · rw [plano_outside (by rw [kept.tamanios]; omega),plano_outside (by omega)]

/-- A copy between two ranges of memory that the MMU admits moves the bytes. -/
theorem copy_mem_exacto {m : MemoriaCpu} (ready : Dispuesta m) {tam_max_segmento origen destino tamanio : UInt32}
    {tabla_segmentos : List Segmento} {registro : String} {registros : Registros} (named : tamanio_registro registro ≠ 0)
    (size : obtener_valor_registro registro registros = tamanio) (some_bytes : tamanio ≠ 0)
    (from_ : traducir_direccion tam_max_segmento tabla_segmentos registros.SI tamanio = some origen)
    (to_ : traducir_direccion tam_max_segmento tabla_segmentos registros.DI tamanio = some destino)
    (readable : origen.toNat + tamanio.toNat ≤ tamanios m.lista_memory_sticks)
    (writable : destino.toNat + tamanio.toNat ≤ tamanios m.lista_memory_sticks) :
    ∃ v, ejecutar_copy_mem tam_max_segmento tabla_segmentos (some registro) registros m = ((siguiente registros,.CONTINUAR),v) ∧
      plano v.lista_memory_sticks =
        store (plano m.lista_memory_sticks) destino.toNat (load (plano m.lista_memory_sticks) origen.toNat tamanio.toNat) := by
  have positive : 0 < tamanio.toNat := Nat.pos_of_ne_zero (fun zero => some_bytes (UInt32.toNat_inj.mp zero))
  have read := leer_exacto ready origen.toNat_lt positive
  have kept := leer_memoria_spec origen.toNat tamanio.toNat ready.pequenia ready.conoce origen.toNat_lt
  rw [if_pos readable] at read
  cases got : leer_memoria origen.toNat tamanio.toNat m with
  | mk buffer n =>
    rw [got] at read kept
    obtain rfl : buffer = some _ := read
    have list : n.lista_memory_sticks = m.lista_memory_sticks := kept.sticks
    have room : destino.toNat + (load (plano m.lista_memory_sticks) origen.toNat tamanio.toNat).length ≤
        tamanios n.lista_memory_sticks := by
      rw [load_length,list]
      exact writable
    obtain ⟨done,stored⟩ := escribir_exacto (ready.sigue kept.queda) destino.toNat_lt room
    cases put : escribir_memoria destino.toNat (load (plano m.lista_memory_sticks) origen.toNat tamanio.toNat) n with
    | mk ok v =>
      rw [put] at done stored
      obtain rfl : ok = true := done
      refine ⟨v,?_,?_⟩
      · simp only [ejecutar_copy_mem,if_neg named,size,if_neg some_bytes,from_,to_,got,put]
      · refine stored.trans ?_
        show store (plano n.lista_memory_sticks) _ _ = _
        rw [list]

/-! ## The segments of a process -/

/-- The address is in a segment of the table. -/
def Propio (tabla_segmentos : List Segmento) (d : Nat) : Prop :=
  ∃ s ∈ tabla_segmentos, s.base.toNat ≤ d ∧ d < s.base.toNat + s.limite.toNat

/-- The segments lie in memory. -/
def Residente (tabla_segmentos : List Segmento) (total : Nat) : Prop :=
  ∀ s ∈ tabla_segmentos, s.base.toNat + s.limite.toNat ≤ total

/-- The range is in a segment of the table. -/
def EnSegmento (tabla_segmentos : List Segmento) (dir tam : Nat) : Prop :=
  ∃ s ∈ tabla_segmentos, s.base.toNat ≤ dir ∧ dir + tam ≤ s.base.toNat + s.limite.toNat

/-- The offset and the size reach 2^32, and the limit check sees their sum less 2^32. -/
def Vuelve (tam_max_segmento direccion_logica tamanio : UInt32) : Prop :=
  2^32 ≤ offset tam_max_segmento direccion_logica + tamanio.toNat

section Acotada
variable (tam_max_segmento : UInt32) (tabla_segmentos : List Segmento) (total : Nat)

/-- A read that gets past the limit check by a wrap does not end in memory, and fails. -/
def LecturaAcotada (direccion_logica tamanio : UInt32) : Prop :=
  Vuelve tam_max_segmento direccion_logica tamanio →
    ∀ df ∈ traducir_direccion tam_max_segmento tabla_segmentos direccion_logica tamanio, total < df.toNat + tamanio.toNat

/-- A write that gets past the limit check by a wrap does not start in memory, and writes nothing. -/
def EscrituraAcotada (direccion_logica tamanio : UInt32) : Prop :=
  Vuelve tam_max_segmento direccion_logica tamanio →
    ∀ df ∈ traducir_direccion tam_max_segmento tabla_segmentos direccion_logica tamanio, total ≤ df.toNat

/-- No access of the instruction goes outside the segments by a wrap. A copy writes only what it could read. -/
structure Acotada (op p1 : Option String) (registros : Registros) : Prop where
  mov_in : op = some "MOV_IN" → ∀ registro ∈ p1,
    LecturaAcotada tam_max_segmento tabla_segmentos total registros.SI (tamanio_registro registro)
  mov_out : op = some "MOV_OUT" → ∀ registro ∈ p1,
    EscrituraAcotada tam_max_segmento tabla_segmentos total registros.DI (tamanio_registro registro)
  copy_mem : op = some "COPY_MEM" → ∀ registro ∈ p1,
    let tamanio := obtener_valor_registro registro registros
    LecturaAcotada tam_max_segmento tabla_segmentos total registros.SI tamanio ∧
    ∀ df ∈ traducir_direccion tam_max_segmento tabla_segmentos registros.SI tamanio,
      df.toNat + tamanio.toNat ≤ total → EscrituraAcotada tam_max_segmento tabla_segmentos total registros.DI tamanio

-- Tried before the instance of a finite type, which would go through all 2^32 numbers.
instance (priority := 2000) decidable_numero (numero : Option UInt32) (p : UInt32 → Prop) [DecidablePred p] :
    Decidable (∀ n ∈ numero, p n) := Option.decidableForallMem numero
instance (direccion_logica tamanio : UInt32) : Decidable (Vuelve tam_max_segmento direccion_logica tamanio) :=
  inferInstanceAs (Decidable (_ ≤ _))
instance (direccion_logica tamanio : UInt32) :
    Decidable (LecturaAcotada tam_max_segmento tabla_segmentos total direccion_logica tamanio) := inferInstanceAs (Decidable (_ → _))
instance (direccion_logica tamanio : UInt32) :
    Decidable (EscrituraAcotada tam_max_segmento tabla_segmentos total direccion_logica tamanio) := inferInstanceAs (Decidable (_ → _))
instance (op p1 : Option String) (registros : Registros) : Decidable (Acotada tam_max_segmento tabla_segmentos total op p1 registros) :=
  decidable_of_iff (_ ∧ _ ∧ _) ⟨fun h => ⟨h.1,h.2.1,h.2.2⟩,fun h => ⟨h.mov_in,h.mov_out,h.copy_mem⟩⟩
end Acotada

section Mmu
variable {tam_max_segmento direccion_logica tamanio direccion_fisica : UInt32} {tabla_segmentos : List Segmento} {total : Nat}
  (resident : Residente tabla_segmentos total)
  (admitted : traducir_direccion tam_max_segmento tabla_segmentos direccion_logica tamanio = some direccion_fisica)
include resident admitted

/-- The sums of an access that the MMU admits. -/
theorem traducir_sumas : ∃ s ∈ tabla_segmentos, s.base.toNat + s.limite.toNat ≤ total ∧
    (offset tam_max_segmento direccion_logica + tamanio.toNat) % 2^32 ≤ s.limite.toNat ∧
    direccion_fisica.toNat = (s.base.toNat + offset tam_max_segmento direccion_logica) % 2^32 ∧
    offset tam_max_segmento direccion_logica < tam_max_segmento.toNat := by
  have some_size : tam_max_segmento ≠ 0 := by
    rintro rfl
    simp [traducir_direccion] at admitted
  rw [traducir_eq some_size] at admitted
  obtain ⟨s,seen,checked⟩ := Option.bind_eq_some_iff.mp admitted
  have listed : s ∈ tabla_segmentos := List.mem_of_find?_eq_some seen
  have positive : 0 < tam_max_segmento.toNat := Nat.pos_of_ne_zero (fun zero => some_size (UInt32.toNat_inj.mp zero))
  split_ifs at checked with refused
  have address := base_mas_offset s direccion_logica tam_max_segmento
  rw [Option.some.inj checked] at address
  exact ⟨s,listed,resident s listed,Nat.le_of_not_lt refused,address,Nat.mod_lt _ positive⟩

variable (small : total < 2^32)
include small

/-- Without a wrap an access that the MMU admits lies in a segment of the process. -/
theorem traducir_dentro (straight : ¬ Vuelve tam_max_segmento direccion_logica tamanio) :
    EnSegmento tabla_segmentos direccion_fisica.toNat tamanio.toNat := by
  obtain ⟨s,listed,fits,limit,address,-⟩ := traducir_sumas resident admitted
  unfold Vuelve at straight
  exact ⟨s,listed,by omega,by omega⟩

theorem lectura_dentro (bounded : LecturaAcotada tam_max_segmento tabla_segmentos total direccion_logica tamanio) :
    EnSegmento tabla_segmentos direccion_fisica.toNat tamanio.toNat ∨ total < direccion_fisica.toNat + tamanio.toNat := by
  by_cases wraps : Vuelve tam_max_segmento direccion_logica tamanio
  · exact .inr (bounded wraps direccion_fisica admitted)
  · exact .inl (traducir_dentro resident admitted small wraps)

theorem escritura_dentro (bounded : EscrituraAcotada tam_max_segmento tabla_segmentos total direccion_logica tamanio) :
    EnSegmento tabla_segmentos direccion_fisica.toNat tamanio.toNat ∨ total ≤ direccion_fisica.toNat := by
  by_cases wraps : Vuelve tam_max_segmento direccion_logica tamanio
  · exact .inr (bounded wraps direccion_fisica admitted)
  · exact .inl (traducir_dentro resident admitted small wraps)

end Mmu

/-! ## Memories too small for a wrap -/

section Ajuste
variable {tam_max_segmento : UInt32} {tabla_segmentos : List Segmento} {total : Nat}
  (resident : Residente tabla_segmentos total) (room : tam_max_segmento.toNat + total ≤ 2^32)
include resident room

theorem lectura_acotada (direccion_logica tamanio : UInt32) :
    LecturaAcotada tam_max_segmento tabla_segmentos total direccion_logica tamanio := by
  intro wraps df admitted
  obtain ⟨s,-,fits,-,address,near⟩ := traducir_sumas resident admitted
  unfold Vuelve at wraps
  omega

theorem escritura_acotada {tamanio : UInt32} (short : tamanio.toNat ≤ total ∨ tamanio.toNat ≤ 4) (direccion_logica : UInt32) :
    EscrituraAcotada tam_max_segmento tabla_segmentos total direccion_logica tamanio := by
  intro wraps df admitted
  obtain ⟨s,-,fits,-,address,near⟩ := traducir_sumas resident admitted
  unfold Vuelve at wraps
  omega

theorem acotada_de_ajuste (op p1 : Option String) (registros : Registros) :
    Acotada tam_max_segmento tabla_segmentos total op p1 registros where
  mov_in _ _ _ := lectura_acotada resident room _ _
  mov_out _ registro _ := by
    apply escritura_acotada resident room
    right
    unfold tamanio_registro
    split_ifs <;> decide
  copy_mem _ _ _ := by
    refine ⟨lectura_acotada resident room _ _,?_⟩
    intro df _ readable
    apply escritura_acotada resident room
    left
    omega

end Ajuste

/-! ## Two runs of one instruction -/

section Dos
variable {tam_max_segmento : UInt32} {tabla_segmentos : List Segmento} {m m' : MemoriaCpu}

/-- Two memories of one size that agree on the segments of the table. -/
structure Semejante (tabla_segmentos : List Segmento) (m m' : MemoriaCpu) : Prop where
  primera : Dispuesta m
  segunda : Dispuesta m'
  total : tamanios m'.lista_memory_sticks = tamanios m.lista_memory_sticks
  iguales : ∀ d, Propio tabla_segmentos d → plano m'.lista_memory_sticks d = plano m.lista_memory_sticks d

/-- Two calls over two memories answer the same, agree as the memories did, and change nothing
    outside the segments. -/
structure Concuerda {α : Type} (tabla_segmentos : List Segmento) (m m' : MemoriaCpu) (r r' : α × MemoriaCpu) : Prop where
  mismo : r'.1 = r.1
  semejante : Semejante tabla_segmentos r.2 r'.2
  deja : ∀ d, ¬ Propio tabla_segmentos d → plano r.2.lista_memory_sticks d = plano m.lista_memory_sticks d
  fichas : r.2.lista_memory_sticks.map MemoryStick.ficha = m.lista_memory_sticks.map MemoryStick.ficha
  fichas' : r'.2.lista_memory_sticks.map MemoryStick.ficha = m'.lista_memory_sticks.map MemoryStick.ficha

variable {α β : Type}

theorem concuerda_pura (alike : Semejante tabla_segmentos m m') (x : α) : Concuerda tabla_segmentos m m' (x,m) (x,m') :=
  ⟨rfl,alike,fun _ _ => rfl,rfl,rfl⟩

/-- A second pair of calls after the first. -/
theorem Concuerda.luego {r r' : α × MemoriaCpu} {t t' : β × MemoriaCpu} (first : Concuerda tabla_segmentos m m' r r')
    (second : Concuerda tabla_segmentos r.2 r'.2 t t') : Concuerda tabla_segmentos m m' t t' where
  mismo := second.mismo
  semejante := second.semejante
  deja d apart := (second.deja d apart).trans (first.deja d apart)
  fichas := second.fichas.trans first.fichas
  fichas' := second.fichas'.trans first.fichas'

theorem Concuerda.con {r r' : α × MemoriaCpu} (calls : Concuerda tabla_segmentos m m' r r') (x : β) :
    Concuerda tabla_segmentos m m' (x,r.2) (x,r'.2) :=
  calls.luego (concuerda_pura calls.semejante x)

theorem propio_rango {dir tam k : Nat} (own : EnSegmento tabla_segmentos dir tam) (inside : k < tam) :
    Propio tabla_segmentos (dir + k) := by
  obtain ⟨s,listed,low,high⟩ := own
  exact ⟨s,listed,by omega,by omega⟩

/-- Reads in a segment, or past the end of memory. -/
theorem concuerda_leer (alike : Semejante tabla_segmentos m m') {dir tam : Nat} (low : dir < 2^32) (some_bytes : 0 < tam)
    (place : EnSegmento tabla_segmentos dir tam ∨ tamanios m.lista_memory_sticks < dir + tam) :
    Concuerda tabla_segmentos m m' (leer_memoria dir tam m) (leer_memoria dir tam m') := by
  have kept := leer_memoria_spec dir tam alike.primera.pequenia alike.primera.conoce low
  have kept' := leer_memoria_spec dir tam alike.segunda.pequenia alike.segunda.conoce low
  refine ⟨?_,⟨alike.primera.sigue kept.queda,alike.segunda.sigue kept'.queda,?_,?_⟩,?_,kept.queda.fichas,kept'.queda.fichas⟩
  · rw [leer_exacto alike.primera low some_bytes,leer_exacto alike.segunda low some_bytes,alike.total]
    split_ifs with inside
    · congr 1
      apply List.map_congr_left
      intro k member
      rcases place with own | beyond
      · exact alike.iguales _ (propio_rango own (List.mem_range.mp member))
      · omega
    · rfl
  · rw [kept.sticks,kept'.sticks,alike.total]
  · rw [kept.sticks,kept'.sticks]
    exact alike.iguales
  · intro d _
    rw [kept.sticks]

/-- Writes in a segment, or after the end of memory. -/
theorem concuerda_escribir (alike : Semejante tabla_segmentos m m')
    (resident : Residente tabla_segmentos (tamanios m.lista_memory_sticks)) {dir : Nat} (low : dir < 2^32) {origen : List UInt8}
    (some_bytes : origen ≠ [])
    (place : EnSegmento tabla_segmentos dir origen.length ∨ tamanios m.lista_memory_sticks ≤ dir) :
    Concuerda tabla_segmentos m m' (escribir_memoria dir origen m) (escribir_memoria dir origen m') := by
  have kept := (escribir_memoria_spec dir origen alike.primera.pequenia alike.primera.conoce low).queda
  have kept' := (escribir_memoria_spec dir origen alike.segunda.pequenia alike.segunda.conoce low).queda
  have total : tamanios (escribir_memoria dir origen m').2.lista_memory_sticks =
      tamanios (escribir_memoria dir origen m).2.lista_memory_sticks := by rw [kept.tamanios,kept'.tamanios,alike.total]
  rcases place with own | beyond
  · obtain ⟨s,listed,start,stop⟩ := own
    have fits := resident s listed
    have inside : dir + origen.length ≤ tamanios m.lista_memory_sticks := by omega
    obtain ⟨done,stored⟩ := escribir_exacto alike.primera low inside
    obtain ⟨done',stored'⟩ := escribir_exacto alike.segunda low (by rw [alike.total]; exact inside)
    refine ⟨done'.trans done.symm,⟨alike.primera.sigue kept,alike.segunda.sigue kept',total,?_⟩,?_,kept.fichas,kept'.fichas⟩
    · intro d own
      rw [stored,stored']
      by_cases here : dir ≤ d ∧ d < dir + origen.length
      · obtain ⟨k,rfl⟩ := Nat.exists_eq_add_of_le here.1
        rw [store_inside _ (by omega),store_inside _ (by omega)]
      · rw [store_outside _ (by omega),store_outside _ (by omega)]
        exact alike.iguales d own
    · intro d apart
      rw [stored]
      apply store_outside
      by_contra inside
      exact apart ⟨s,listed,by omega,by omega⟩
  · obtain ⟨fails,same⟩ := escribir_lejos alike.primera low some_bytes beyond
    obtain ⟨fails',same'⟩ := escribir_lejos alike.segunda low some_bytes (by rw [alike.total]; exact beyond)
    refine ⟨fails'.trans fails.symm,⟨alike.primera.sigue kept,alike.segunda.sigue kept',total,?_⟩,?_,kept.fichas,kept'.fichas⟩
    · rw [same,same']
      exact alike.iguales
    · intro d _
      rw [same]

variable (resident : Residente tabla_segmentos (tamanios m.lista_memory_sticks))
  (alike : Semejante tabla_segmentos m m') (registros : Registros)
include resident alike

theorem concuerda_mov_in (registro_destino : Option String)
    (bounded : Acotada tam_max_segmento tabla_segmentos (tamanios m.lista_memory_sticks) (some "MOV_IN") registro_destino registros) :
    Concuerda tabla_segmentos m m' (ejecutar_mov_in tam_max_segmento tabla_segmentos registro_destino registros m)
      (ejecutar_mov_in tam_max_segmento tabla_segmentos registro_destino registros m') := by
  unfold ejecutar_mov_in
  cases registro_destino with
  | none => exact concuerda_pura alike _
  | some registro_destino =>
    by_cases none_such : tamanio_registro registro_destino = 0
    · simp only [if_pos none_such]
      exact concuerda_pura alike _
    simp only [if_neg none_such]
    cases admitted : traducir_direccion tam_max_segmento tabla_segmentos registros.SI (tamanio_registro registro_destino) with
    | none => exact concuerda_pura alike _
    | some direccion_fisica =>
      have positive : 0 < (tamanio_registro registro_destino).toNat :=
        Nat.pos_of_ne_zero (fun zero => none_such (UInt32.toNat_inj.mp zero))
      have place := lectura_dentro resident admitted alike.primera.pequenia (bounded.mov_in rfl registro_destino rfl)
      have calls := concuerda_leer alike direccion_fisica.toNat_lt positive place
      simp only
      generalize leer_memoria direccion_fisica.toNat (tamanio_registro registro_destino).toNat m = r at calls
      generalize leer_memoria direccion_fisica.toNat (tamanio_registro registro_destino).toNat m' = r' at calls
      obtain ⟨bytes,n⟩ := r
      obtain ⟨bytes',n'⟩ := r'
      obtain rfl : bytes' = bytes := calls.mismo
      cases bytes' with
      | none => exact calls.con _
      | some bytes => exact calls.con _

theorem concuerda_mov_out (registro_origen : Option String)
    (bounded : Acotada tam_max_segmento tabla_segmentos (tamanios m.lista_memory_sticks) (some "MOV_OUT") registro_origen registros) :
    Concuerda tabla_segmentos m m' (ejecutar_mov_out tam_max_segmento tabla_segmentos registro_origen registros m)
      (ejecutar_mov_out tam_max_segmento tabla_segmentos registro_origen registros m') := by
  unfold ejecutar_mov_out
  cases registro_origen with
  | none => exact concuerda_pura alike _
  | some registro_origen =>
    by_cases none_such : tamanio_registro registro_origen = 0
    · simp only [if_pos none_such]
      exact concuerda_pura alike _
    simp only [if_neg none_such]
    have positive : 0 < (tamanio_registro registro_origen).toNat :=
      Nat.pos_of_ne_zero (fun zero => none_such (UInt32.toNat_inj.mp zero))
    have short : (tamanio_registro registro_origen).toNat ≤ 4 := by
      unfold tamanio_registro
      split_ifs <;> decide
    have len : ((octetos_de (obtener_valor_registro registro_origen registros)).take
        (tamanio_registro registro_origen).toNat).length = (tamanio_registro registro_origen).toNat := by
      rw [List.length_take]
      exact Nat.min_eq_left short
    cases admitted : traducir_direccion tam_max_segmento tabla_segmentos registros.DI (tamanio_registro registro_origen) with
    | none => exact concuerda_pura alike _
    | some direccion_fisica =>
      have place := escritura_dentro resident admitted alike.primera.pequenia (bounded.mov_out rfl registro_origen rfl)
      rw [← len] at place positive
      have calls := concuerda_escribir alike resident direccion_fisica.toNat_lt (List.length_pos_iff.mp positive) place
      simp only
      generalize escribir_memoria direccion_fisica.toNat _ m = r at calls
      generalize escribir_memoria direccion_fisica.toNat _ m' = r' at calls
      obtain ⟨ok,n⟩ := r
      obtain ⟨ok',n'⟩ := r'
      obtain rfl : ok' = ok := calls.mismo
      cases ok' with
      | false => exact calls.con _
      | true => exact calls.con _

theorem concuerda_copy_mem (registro_tamanio : Option String)
    (bounded : Acotada tam_max_segmento tabla_segmentos (tamanios m.lista_memory_sticks) (some "COPY_MEM") registro_tamanio registros) :
    Concuerda tabla_segmentos m m' (ejecutar_copy_mem tam_max_segmento tabla_segmentos registro_tamanio registros m)
      (ejecutar_copy_mem tam_max_segmento tabla_segmentos registro_tamanio registros m') := by
  unfold ejecutar_copy_mem
  cases registro_tamanio with
  | none => exact concuerda_pura alike _
  | some registro_tamanio =>
    by_cases none_such : tamanio_registro registro_tamanio = 0
    · simp only [if_pos none_such]
      exact concuerda_pura alike _
    simp only [if_neg none_such]
    obtain ⟨reads,writes⟩ := bounded.copy_mem rfl registro_tamanio rfl
    generalize obtener_valor_registro registro_tamanio registros = tamanio at reads writes ⊢
    by_cases empty : tamanio = 0
    · simp only [if_pos empty]
      exact concuerda_pura alike _
    simp only [if_neg empty]
    cases from_ : traducir_direccion tam_max_segmento tabla_segmentos registros.SI tamanio with
    | none => exact concuerda_pura alike _
    | some origen =>
      cases to_ : traducir_direccion tam_max_segmento tabla_segmentos registros.DI tamanio with
      | none => exact concuerda_pura alike _
      | some destino =>
        have positive : 0 < tamanio.toNat := Nat.pos_of_ne_zero (fun zero => empty (UInt32.toNat_inj.mp zero))
        have source := lectura_dentro resident from_ alike.primera.pequenia reads
        have calls := concuerda_leer alike origen.toNat_lt positive source
        have read := leer_exacto alike.primera origen.toNat_lt positive
        simp only
        generalize leer_memoria origen.toNat tamanio.toNat m = r at calls read
        generalize leer_memoria origen.toNat tamanio.toNat m' = r' at calls
        obtain ⟨buffer,n⟩ := r
        obtain ⟨buffer',n'⟩ := r'
        obtain rfl : buffer' = buffer := calls.mismo
        cases buffer' with
        | none => exact calls.con _
        | some buffer =>
          simp only at read
          split_ifs at read with inside
          have len : buffer.length = tamanio.toNat := by
            rw [Option.some.inj read,load_length]
          have sizes : tamanios n.lista_memory_sticks = tamanios m.lista_memory_sticks := tamanios_of_ficha calls.fichas
          have target := escritura_dentro resident to_ alike.primera.pequenia (writes origen from_ inside)
          rw [← len,← sizes] at target
          rw [← len] at positive
          have copies := concuerda_escribir calls.semejante (sizes.symm ▸ resident) destino.toNat_lt
            (List.length_pos_iff.mp positive) target
          simp only
          generalize escribir_memoria destino.toNat buffer n = w at copies
          generalize escribir_memoria destino.toNat buffer n' = w' at copies
          obtain ⟨ok,n2⟩ := w
          obtain ⟨ok',n2'⟩ := w'
          obtain rfl : ok' = ok := copies.mismo
          cases ok' with
          | false => exact calls.luego (copies.con _)
          | true => exact calls.luego (copies.con _)

omit resident alike in
/-- No instruction ends for an interruption. -/
theorem execute_sin_fin {pid : UInt32} {op p1 p2 : Option String} {r : (Registros × Motivo) × MemoriaCpu}
    (done : execute tam_max_segmento tabla_segmentos pid op p1 p2 registros m = some r) : r.1.2 ≠ .FIN_QUANTUM := by
  unfold execute at done
  split at done
  · cases done
    simp only [ejecutar_mov_in]
    repeat' split
    all_goals simp
  · cases done
    simp only [ejecutar_mov_out]
    repeat' split
    all_goals simp
  · cases done
    simp only [ejecutar_copy_mem]
    repeat' split
    all_goals simp
  · split_ifs at done
    cases done
    simp only [Instructions.execute,Instructions.ejecutar_mov_in,entorno]
    repeat' split
    all_goals simp

/-- One instruction over two memories that agree on the segments of the process. -/
theorem concuerda_execute {pid : UInt32} {op p1 p2 : Option String} {r : (Registros × Motivo) × MemoriaCpu}
    (bounded : Acotada tam_max_segmento tabla_segmentos (tamanios m.lista_memory_sticks) op p1 registros)
    (done : execute tam_max_segmento tabla_segmentos pid op p1 p2 registros m = some r) :
    ∃ r', execute tam_max_segmento tabla_segmentos pid op p1 p2 registros m' = some r' ∧
      Concuerda tabla_segmentos m m' r r' := by
  unfold execute at done ⊢
  split at done
  · cases done
    exact ⟨_,rfl,concuerda_mov_in resident alike registros p1 bounded⟩
  · cases done
    exact ⟨_,rfl,concuerda_mov_out resident alike registros p1 bounded⟩
  · cases done
    exact ⟨_,rfl,concuerda_copy_mem resident alike registros p1 bounded⟩
  · split_ifs at done with calls
    cases done
    exact ⟨_,if_neg calls,concuerda_pura alike _⟩

end Dos

end PlugNPray.CpuCycle
