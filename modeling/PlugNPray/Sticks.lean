import PlugNPray.Huecos
import PlugNPray.Places

/-!
The memory sticks: which stick serves a physical address, and physical reads and
writes split at stick borders. The buffer of the Memory Stick module that answers
behind the socket of a stick is kept with Kernel Memory's record of the stick.
-/
namespace PlugNPray.Sticks
open PlugNPray.Places PlugNPray.FlatMemory PlugNPray.Huecos

structure MemoryStick where
  fd : Int
  tamanio : Nat
  base_global : Nat
  ip : String
  puerto : Int
  memoria : Nat → UInt8

/-- How a module answers one request: as asked, or with an error or a broken
    connection that may leave anything in the bytes of the request. -/
inductive Respuesta where
  | responde
  | falla (basura : Nat → UInt8)

/-- The sticks and the answers that the requests still to be made will get. -/
structure Fisica where
  lista_memory_sticks : List MemoryStick
  respuestas : Nat → Respuesta

/-! ## The Memory Stick module -/

def lectura_fuera_de_rango (offset tam tamanio_memoria : Nat) : Bool :=
  u32 (offset + tam) > tamanio_memoria || tam > u32 (tamanio_memoria + 2^32 - offset)
def escritura_fuera_de_rango (offset tam tamanio_memoria : Nat) : Bool := u32 (offset + tam) > tamanio_memoria

def leer_stick (f : Fisica) (stick : MemoryStick) (offset tam : Nat) : Option (List UInt8) × Fisica :=
  let resto := { f with respuestas := fun k => f.respuestas (k + 1) }
  match f.respuestas 0 with
  | .falla _ => (none,resto)
  | .responde => (if lectura_fuera_de_rango offset tam stick.tamanio then none else some (load stick.memoria offset tam),resto)

def escribir_stick (f : Fisica) (i : Nat) (stick : MemoryStick) (offset : Nat) (bytes : List UInt8) : Bool × Fisica :=
  let guardar (contenido : List UInt8) : Fisica :=
    { lista_memory_sticks := f.lista_memory_sticks.set i { stick with memoria := store stick.memoria offset contenido }
      respuestas := fun k => f.respuestas (k + 1) }
  match f.respuestas 0 with
  | .falla basura => (false,guardar (load basura 0 bytes.length))
  | .responde =>
    if escritura_fuera_de_rango offset bytes.length stick.tamanio then
      (false,{ f with respuestas := fun k => f.respuestas (k + 1) })
    else (true,guardar bytes)

/-! ## Physical access -/

/-- The stick that serves the address, named by its place in the list, and the offset in it. -/
def localizar_desde (dir_fisica_global : Nat) :
    List MemoryStick → Nat → Nat → Option (Nat × MemoryStick × Nat)
  | [], _, _ => none
  | stick :: resto, i, acumulado =>
    if dir_fisica_global < u32 (acumulado + stick.tamanio) then
      some (i,stick,u32 (dir_fisica_global + 2^32 - acumulado))
    else localizar_desde dir_fisica_global resto (i + 1) (u32 (acumulado + stick.tamanio))

def memory_stick_localizar (sticks : List MemoryStick) (dir_fisica_global : Nat) : Option (Nat × MemoryStick × Nat) :=
  localizar_desde dir_fisica_global sticks 0 0

/-- The loop of a physical read. Every turn reads at least one byte, so `tamanio` turns are enough. -/
def leer_desde (dir_global tamanio : Nat) : Nat → List UInt8 → Fisica → Option (List UInt8) × Fisica
  | turnos, leidos, f =>
    if leidos.length < tamanio then
      match turnos, memory_stick_localizar f.lista_memory_sticks (u32 (dir_global + leidos.length)) with
      | 0, _ => (none,f)
      | _, none => (none,f)
      | turnos + 1, some (_,stick,offset) =>
        let a_leer := min (tamanio - leidos.length) (u32 (stick.tamanio + 2^32 - offset))
        match leer_stick f stick offset a_leer with
        | (none,f) => (none,f)
        | (some bytes,f) => leer_desde dir_global tamanio turnos (leidos ++ bytes) f
    else (some leidos,f)

def memoria_fisica_leer (f : Fisica) (dir_global tamanio : Nat) : Option (List UInt8) × Fisica :=
  leer_desde dir_global tamanio tamanio [] f

/-- The loop of a physical write, at least one byte a turn. -/
def escribir_desde (dir_global : Nat) (origen : List UInt8) : Nat → Nat → Fisica → Bool × Fisica
  | turnos, escritos, f =>
    if escritos < origen.length then
      match turnos, memory_stick_localizar f.lista_memory_sticks (u32 (dir_global + escritos)) with
      | 0, _ => (false,f)
      | _, none => (false,f)
      | turnos + 1, some (i,stick,offset) =>
        let a_escribir := min (origen.length - escritos) (u32 (stick.tamanio + 2^32 - offset))
        match escribir_stick f i stick offset ((origen.drop escritos).take a_escribir) with
        | (false,f) => (false,f)
        | (true,f) => escribir_desde dir_global origen turnos (escritos + a_escribir) f
    else (true,f)

def memoria_fisica_escribir (f : Fisica) (dir_global : Nat) (origen : List UInt8) : Bool × Fisica :=
  escribir_desde dir_global origen origen.length 0 f

/-! ## The single array behind the sticks -/

def tamanios (sticks : List MemoryStick) : Nat := (sticks.map MemoryStick.tamanio).sum
/-- The bytes of the sticks one after the other, in list order. -/
def plano : List MemoryStick → Nat → UInt8
  | [], _ => 0
  | s :: resto, a => if a < s.tamanio then s.memoria a else plano resto (a - s.tamanio)
/-- What Kernel Memory records of a stick, without the bytes behind it. -/
def MemoryStick.ficha (s : MemoryStick) : Int × Nat × Nat × String × Int := (s.fd,s.tamanio,s.base_global,s.ip,s.puerto)
/-- The later answers after some requests were made. -/
def Avanza (antes despues : Nat → Respuesta) : Prop := ∃ k, ∀ j, despues j = antes (j + k)
/-- Every request still to be made is answered as asked. -/
def TodoResponde (f : Fisica) : Prop := ∀ k, f.respuestas k = .responde

@[simp] theorem tamanios_nil : tamanios [] = 0 := rfl
@[simp] theorem tamanios_cons (s : MemoryStick) (resto : List MemoryStick) :
    tamanios (s :: resto) = s.tamanio + tamanios resto := by simp [tamanios]
@[simp] theorem tamanios_append (pre post : List MemoryStick) : tamanios (pre ++ post) = tamanios pre + tamanios post := by
  simp [tamanios]
theorem tamanios_of_ficha {sticks sticks' : List MemoryStick}
    (same : sticks'.map MemoryStick.ficha = sticks.map MemoryStick.ficha) : tamanios sticks' = tamanios sticks := by
  have sizes := congrArg (List.map (fun r : Int × Nat × Nat × String × Int => r.2.1)) same
  simp only [List.map_map] at sizes
  exact congrArg List.sum sizes

theorem avanza_refl (r : Nat → Respuesta) : Avanza r r := ⟨0,fun _ => rfl⟩
theorem avanza_step (r : Nat → Respuesta) : Avanza r (fun k => r (k + 1)) := ⟨1,fun _ => rfl⟩
theorem avanza_trans {r s t : Nat → Respuesta} (first : Avanza r s) (second : Avanza s t) : Avanza r t := by
  obtain ⟨k,first⟩ := first
  obtain ⟨l,second⟩ := second
  exact ⟨l + k,fun j => by rw [second,first,Nat.add_assoc]⟩
theorem responde_of_avanza {f f' : Fisica} (later : Avanza f.respuestas f'.respuestas) (all : TodoResponde f) :
    TodoResponde f' := by
  obtain ⟨k,shift⟩ := later
  exact fun j => (shift j).trans (all _)

theorem plano_append (pre post : List MemoryStick) (k : Nat) : plano (pre ++ post) (tamanios pre + k) = plano post k := by
  induction pre with
  | nil => simp
  | cons s resto ih =>
    simp only [List.cons_append,plano,tamanios_cons]
    rw [if_neg (by omega),show s.tamanio + tamanios resto + k - s.tamanio = tamanios resto + k by omega,ih]
theorem plano_append_left {pre : List MemoryStick} (post : List MemoryStick) {a : Nat} (inside : a < tamanios pre) :
    plano (pre ++ post) a = plano pre a := by
  induction pre generalizing a with
  | nil => simp at inside
  | cons s resto ih =>
    rw [tamanios_cons] at inside
    simp only [List.cons_append,plano]
    split_ifs with here
    · rfl
    · exact ih (by omega)

theorem plano_outside {sticks : List MemoryStick} {a : Nat} (outside : tamanios sticks ≤ a) : plano sticks a = 0 := by
  obtain ⟨k,rfl⟩ := Nat.exists_eq_add_of_le outside
  have beyond := plano_append sticks [] k
  rw [List.append_nil] at beyond
  exact beyond

/-- Bytes of one stick are bytes of the array. -/
theorem load_plano {pre post : List MemoryStick} {s : MemoryStick} {offset tam : Nat} (inside : offset + tam ≤ s.tamanio) :
    load (plano (pre ++ s :: post)) (tamanios pre + offset) tam = load s.memoria offset tam := by
  refine List.map_congr_left (fun k member => ?_)
  have bound := List.mem_range.mp member
  rw [Nat.add_assoc,plano_append]
  simp only [plano]
  rw [if_pos (by omega)]

/-- A write inside one stick is a write to the array. -/
theorem plano_store {pre post : List MemoryStick} {s : MemoryStick} {offset : Nat} {bytes : List UInt8}
    (inside : offset + bytes.length ≤ s.tamanio) :
    plano (pre ++ { s with memoria := store s.memoria offset bytes } :: post) =
      store (plano (pre ++ s :: post)) (tamanios pre + offset) bytes := by
  funext a
  by_cases before : a < tamanios pre
  · rw [store_outside _ (by omega),plano_append_left _ before,plano_append_left _ before]
  · obtain ⟨k,rfl⟩ := Nat.exists_eq_add_of_le (Nat.le_of_not_lt before)
    rw [plano_append]
    simp only [plano]
    split_ifs with here
    · by_cases written : offset ≤ k ∧ k < offset + bytes.length
      · obtain ⟨j,rfl⟩ := Nat.exists_eq_add_of_le written.1
        rw [store_inside _ (by omega),← Nat.add_assoc,store_inside _ (by omega)]
      · rw [store_outside _ (by omega),store_outside _ (by omega),plano_append]
        simp only [plano,if_pos here]
    · rw [store_outside _ (by omega),plano_append]
      simp only [plano,if_neg here]

/-! ## The stick of an address -/

private theorem localizar_spec (dir i acumulado : Nat) (sticks : List MemoryStick) (above : acumulado ≤ dir)
    (small : acumulado + tamanios sticks < 2^32) :
    (dir < acumulado + tamanios sticks → ∃ pre s post offset, sticks = pre ++ s :: post ∧
      localizar_desde dir sticks i acumulado = some (i + pre.length,s,offset) ∧
      dir = acumulado + tamanios pre + offset ∧ offset < s.tamanio) ∧
    (acumulado + tamanios sticks ≤ dir → localizar_desde dir sticks i acumulado = none) := by
  induction sticks generalizing i acumulado with
  | nil => exact ⟨fun below => absurd below (by simp; omega),fun _ => rfl⟩
  | cons s resto ih =>
    rw [tamanios_cons] at small
    have exact32 : u32 (acumulado + s.tamanio) = acumulado + s.tamanio := u32_of_lt (by omega)
    simp only [localizar_desde,exact32,tamanios_cons]
    by_cases here : dir < acumulado + s.tamanio
    · have offset : u32 (dir + 2^32 - acumulado) = dir - acumulado := by unfold u32; omega
      simp only [here,if_true]
      exact ⟨fun _ => ⟨[],s,resto,dir - acumulado,rfl,by rw [offset]; simp,by simp; omega,by omega⟩,fun beyond => by omega⟩
    · simp only [here,if_false]
      obtain ⟨found,missed⟩ := ih (i + 1) (acumulado + s.tamanio) (by omega) (by omega)
      refine ⟨fun below => ?_,fun beyond => missed (by omega)⟩
      obtain ⟨pre,t,post,offset,rfl,located,place,inside⟩ := found (by omega)
      refine ⟨s :: pre,t,post,offset,rfl,?_,?_,inside⟩
      · rw [located]
        simp [Nat.add_assoc,Nat.add_comm 1]
      · rw [tamanios_cons]
        omega

/-- Below the total exactly the stick that holds the address is located. -/
theorem localizar_inside {sticks : List MemoryStick} {dir : Nat} (small : tamanios sticks < 2^32)
    (inside : dir < tamanios sticks) : ∃ pre s post offset, sticks = pre ++ s :: post ∧
      memory_stick_localizar sticks dir = some (pre.length,s,offset) ∧ dir = tamanios pre + offset ∧ offset < s.tamanio := by
  have found := (localizar_spec dir 0 0 sticks (by omega) (by omega)).1 (by omega)
  simpa [memory_stick_localizar] using found
/-- From the total on no stick is located. -/
theorem localizar_outside {sticks : List MemoryStick} {dir : Nat} (small : tamanios sticks < 2^32)
    (outside : tamanios sticks ≤ dir) : memory_stick_localizar sticks dir = none :=
  (localizar_spec dir 0 0 sticks (by omega) (by omega)).2 (by omega)

/-! ## What physical access leaves alone -/

private theorem localizar_at {dir : Nat} : ∀ {sticks : List MemoryStick} {i acumulado k offset : Nat} {s : MemoryStick},
    localizar_desde dir sticks i acumulado = some (k,s,offset) → ∃ j, k = i + j ∧ sticks[j]? = some s := by
  intro sticks
  induction sticks with
  | nil => intro i acumulado k offset s found; cases found
  | cons t resto ih =>
    intro i acumulado k offset s found
    unfold localizar_desde at found
    split_ifs at found with here
    · cases found
      exact ⟨0,rfl,rfl⟩
    · obtain ⟨j,rfl,listed⟩ := ih found
      exact ⟨j + 1,by omega,listed⟩

/-- A physical read never changes a stick. -/
theorem leer_sticks (f : Fisica) (dir tam : Nat) :
    (memoria_fisica_leer f dir tam).2.lista_memory_sticks = f.lista_memory_sticks := by
  have turn : ∀ (turnos : Nat) (leidos : List UInt8) (f : Fisica),
      (leer_desde dir tam turnos leidos f).2.lista_memory_sticks = f.lista_memory_sticks := by
    intro turnos
    induction turnos with
    | zero => intro leidos f; unfold leer_desde; split_ifs <;> rfl
    | succ turnos ih =>
      intro leidos f
      unfold leer_desde
      split_ifs with more
      · rcases memory_stick_localizar f.lista_memory_sticks (u32 (dir + leidos.length)) with _ | ⟨i,stick,offset⟩
        · rfl
        · cases answer : f.respuestas 0 with
          | falla basura => simp [leer_stick,answer]
          | responde =>
            simp only [leer_stick,answer]
            split_ifs
            · rfl
            · exact ih _ _
      · rfl
  exact turn tam [] f

/-- A physical write keeps what is recorded of every stick. -/
theorem escribir_fichas (f : Fisica) (dir : Nat) (origen : List UInt8) :
    (memoria_fisica_escribir f dir origen).2.lista_memory_sticks.map MemoryStick.ficha =
      f.lista_memory_sticks.map MemoryStick.ficha := by
  have turn : ∀ (turnos escritos : Nat) (f : Fisica),
      (escribir_desde dir origen turnos escritos f).2.lista_memory_sticks.map MemoryStick.ficha =
        f.lista_memory_sticks.map MemoryStick.ficha := by
    intro turnos
    induction turnos with
    | zero => intro escritos f; unfold escribir_desde; split_ifs <;> rfl
    | succ turnos ih =>
      intro escritos f
      unfold escribir_desde
      split_ifs with more
      · cases located : memory_stick_localizar f.lista_memory_sticks (u32 (dir + escritos)) with
        | none => rfl
        | some found =>
          obtain ⟨i,stick,offset⟩ := found
          obtain ⟨j,rfl,listed⟩ := localizar_at located
          obtain ⟨pre,post,split,place⟩ := split_of_getElem? listed
          have put : ∀ contenido : List UInt8, (f.lista_memory_sticks.set (0 + j)
              { stick with memoria := store stick.memoria offset contenido }).map MemoryStick.ficha =
                f.lista_memory_sticks.map MemoryStick.ficha := by
            intro contenido
            rw [Nat.zero_add,split,← place,set_split]
            simp [MemoryStick.ficha]
          cases answer : f.respuestas 0 with
          | falla basura => simp only [escribir_stick,answer]; exact put _
          | responde =>
            simp only [escribir_stick,answer]
            split_ifs
            · rfl
            · exact (ih _ _).trans (put _)
      · rfl
  exact turn origen.length 0 f

/-! ## Physical access is access to the array -/

/-- What a read returns, after `leidos` bytes were read, is the array's, and only a missing answer or the end of memory stops it. -/
private structure Leido (dir tam : Nat) (leidos : List UInt8) (f : Fisica) (r : Option (List UInt8) × Fisica) : Prop where
  later : Avanza f.respuestas r.2.respuestas
  sound : ∀ bytes, r.1 = some bytes →
    bytes = leidos ++ load (plano f.lista_memory_sticks) (dir + leidos.length) (tam - leidos.length) ∧
    (leidos.length < tam → dir + tam ≤ tamanios f.lista_memory_sticks)
  total : TodoResponde f → dir + tam ≤ tamanios f.lista_memory_sticks → r.1.isSome

private theorem leido_done {dir tam : Nat} {leidos : List UInt8} {f : Fisica} (done : ¬ leidos.length < tam) :
    Leido dir tam leidos f (some leidos,f) where
  later := avanza_refl _
  sound bytes same := by
    cases same
    exact ⟨by simp [show tam - leidos.length = 0 by omega],fun more => absurd more done⟩
  total _ _ := rfl

private theorem leer_desde_spec (dir tam : Nat) :
    ∀ (turnos : Nat) (leidos : List UInt8) (f : Fisica), tamanios f.lista_memory_sticks < 2^32 →
      tam - leidos.length ≤ turnos → dir + leidos.length < 2^32 → leidos.length ≤ tam →
      Leido dir tam leidos f (leer_desde dir tam turnos leidos f) := by
  intro turnos
  induction turnos with
  | zero =>
    intro leidos f small enough low bound
    have done : ¬ leidos.length < tam := by omega
    unfold leer_desde
    simp only [done,if_false]
    exact leido_done done
  | succ turnos ih =>
    intro leidos f small enough low bound
    unfold leer_desde
    by_cases more : leidos.length < tam
    · simp only [more,if_true,u32_of_lt low]
      by_cases inside : dir + leidos.length < tamanios f.lista_memory_sticks
      · obtain ⟨pre,s,post,offset,split,located,place,room⟩ := localizar_inside small inside
        have total : tamanios f.lista_memory_sticks = tamanios pre + (s.tamanio + tamanios post) := by simp [split]
        have rest : u32 (s.tamanio + 2^32 - offset) = s.tamanio - offset := by unfold u32; omega
        simp only [located,rest]
        set n := min (tam - leidos.length) (s.tamanio - offset) with nIs
        have nPos : 0 < n := by omega
        have nRoom : offset + n ≤ s.tamanio := by omega
        have accepted : lectura_fuera_de_rango offset n s.tamanio = false := by
          simp only [lectura_fuera_de_rango,Bool.or_eq_false_iff,decide_eq_false_iff_not]
          rw [u32_of_lt (by omega),rest]
          omega
        cases answer : f.respuestas 0 with
        | falla basura =>
          simp only [leer_stick,answer]
          refine ⟨avanza_step _,fun bytes bad => by simp at bad,fun all _ => ?_⟩
          rw [all 0] at answer
          cases answer
        | responde =>
          simp only [leer_stick,answer,accepted]
          have chunk : load s.memoria offset n = load (plano f.lista_memory_sticks) (dir + leidos.length) n := by
            rw [split,place,load_plano nRoom]
          have len : (leidos ++ load s.memoria offset n).length = leidos.length + n := by simp
          obtain ⟨later,sound,total'⟩ := ih (leidos ++ load s.memoria offset n)
            { f with respuestas := fun k => f.respuestas (k + 1) } small (by omega) (by omega) (by omega)
          refine ⟨avanza_trans (avanza_step _) later,fun bytes done => ?_,fun all fits =>
            total' (fun k => all (k + 1)) fits⟩
          obtain ⟨bytesAre,reach⟩ := sound bytes done
          rw [len] at bytesAre reach
          refine ⟨?_,fun _ => ?_⟩
          · rw [bytesAre,chunk,show tam - leidos.length = n + (tam - (leidos.length + n)) by omega,load_add]
            simp [Nat.add_assoc]
          · by_cases last : leidos.length + n < tam
            · exact reach last
            · omega
      · simp only [localizar_outside small (Nat.le_of_not_lt inside)]
        exact ⟨avanza_refl _,fun _ bad => by simp at bad,fun _ fits => by omega⟩
    · simp only [more,if_false]
      exact leido_done more

/-- What a physical read returns are the bytes of the array, and inside memory it succeeds
    while the sticks answer. -/
theorem leer_spec {f : Fisica} (dir tam : Nat) (small : tamanios f.lista_memory_sticks < 2^32) (low : dir < 2^32) :
    Avanza f.respuestas (memoria_fisica_leer f dir tam).2.respuestas ∧
    (∀ bytes, (memoria_fisica_leer f dir tam).1 = some bytes → bytes = load (plano f.lista_memory_sticks) dir tam) ∧
    (TodoResponde f → dir + tam ≤ tamanios f.lista_memory_sticks → (memoria_fisica_leer f dir tam).1.isSome) := by
  have done := leer_desde_spec dir tam tam [] f small (by simp) (by simpa) (by simp)
  exact ⟨done.later,fun bytes same => by simpa using (done.sound bytes same).1,done.total⟩

/-- A physical read that succeeds lies inside memory. -/
theorem leer_dentro {f : Fisica} {dir tam : Nat} (small : tamanios f.lista_memory_sticks < 2^32) (low : dir < 2^32)
    (some_bytes : 0 < tam) {bytes : List UInt8} (done : (memoria_fisica_leer f dir tam).1 = some bytes) :
    dir + tam ≤ tamanios f.lista_memory_sticks :=
  ((leer_desde_spec dir tam tam [] f small (by simp) (by simpa) (by simp)).sound bytes done).2 some_bytes

/-- A write, after `escritos` bytes were written, keeps every byte outside its range; when
    it succeeds it has written the array. -/
private structure Escrito (dir : Nat) (origen : List UInt8) (escritos : Nat) (f : Fisica) (r : Bool × Fisica) : Prop where
  later : Avanza f.respuestas r.2.respuestas
  outside : ∀ a, a < dir ∨ dir + origen.length ≤ a → plano r.2.lista_memory_sticks a = plano f.lista_memory_sticks a
  written : r.1 = true → plano r.2.lista_memory_sticks =
    store (plano f.lista_memory_sticks) (dir + escritos) (origen.drop escritos)
  total : TodoResponde f → dir + origen.length ≤ tamanios f.lista_memory_sticks → r.1 = true

private theorem escrito_done {dir escritos : Nat} {origen : List UInt8} {f : Fisica} (done : ¬ escritos < origen.length) :
    Escrito dir origen escritos f (true,f) where
  later := avanza_refl _
  outside _ _ := rfl
  written _ := by rw [List.drop_eq_nil_of_le (by omega),store_nil]
  total _ _ := rfl

private theorem escribir_desde_spec (dir : Nat) (origen : List UInt8) :
    ∀ (turnos escritos : Nat) (f : Fisica), tamanios f.lista_memory_sticks < 2^32 →
      origen.length - escritos ≤ turnos → dir + escritos < 2^32 → escritos ≤ origen.length →
      Escrito dir origen escritos f (escribir_desde dir origen turnos escritos f) := by
  intro turnos
  induction turnos with
  | zero =>
    intro escritos f small enough low bound
    have done : ¬ escritos < origen.length := by omega
    unfold escribir_desde
    simp only [done,if_false]
    exact escrito_done done
  | succ turnos ih =>
    intro escritos f small enough low bound
    unfold escribir_desde
    by_cases more : escritos < origen.length
    · simp only [more,if_true,u32_of_lt low]
      by_cases inside : dir + escritos < tamanios f.lista_memory_sticks
      · obtain ⟨pre,s,post,offset,split,located,place,room⟩ := localizar_inside small inside
        have total : tamanios f.lista_memory_sticks = tamanios pre + (s.tamanio + tamanios post) := by simp [split]
        have rest : u32 (s.tamanio + 2^32 - offset) = s.tamanio - offset := by unfold u32; omega
        simp only [located,rest]
        set n := min (origen.length - escritos) (s.tamanio - offset) with nIs
        set trozo := (origen.drop escritos).take n with trozoIs
        have len : trozo.length = n := by simp [trozoIs]; omega
        have nRoom : offset + n ≤ s.tamanio := by omega
        -- Whatever is put into the bytes of the request, only they change.
        have put : ∀ contenido : List UInt8, contenido.length = n →
            (f.lista_memory_sticks.set pre.length { s with memoria := store s.memoria offset contenido }).map
              MemoryStick.ficha = f.lista_memory_sticks.map MemoryStick.ficha ∧
            plano (f.lista_memory_sticks.set pre.length { s with memoria := store s.memoria offset contenido }) =
              store (plano f.lista_memory_sticks) (dir + escritos) contenido := by
          intro contenido size
          rw [split,place]
          refine ⟨by simp [MemoryStick.ficha],?_⟩
          rw [List.set_append_right _ _ (le_refl _),Nat.sub_self,List.set_cons_zero]
          exact plano_store (by omega)
        have accepted : escritura_fuera_de_rango offset n s.tamanio = false := by
          simp only [escritura_fuera_de_rango,decide_eq_false_iff_not]
          rw [u32_of_lt (by omega)]
          omega
        cases answer : f.respuestas 0 with
        | falla basura =>
          obtain ⟨_,flat⟩ := put (load basura 0 n) (by simp)
          simp only [escribir_stick,answer,len]
          refine ⟨avanza_step _,fun a outside => ?_,fun bad => by simp at bad,fun all _ => ?_⟩
          · rw [flat,store_outside _ (by simp; omega)]
          · rw [all 0] at answer
            cases answer
        | responde =>
          obtain ⟨same,flat⟩ := put trozo len
          have sizes := tamanios_of_ficha same
          simp only [escribir_stick,answer,len,accepted]
          obtain ⟨later,outside,written,total'⟩ := ih (escritos + n)
            { lista_memory_sticks := f.lista_memory_sticks.set pre.length { s with memoria := store s.memoria offset trozo }
              respuestas := fun k => f.respuestas (k + 1) } (by rw [sizes]; exact small) (by omega) (by omega) (by omega)
          refine ⟨avanza_trans (avanza_step _) later,fun a out => ?_,fun done => ?_,fun all fits =>
            total' (fun k => all (k + 1)) (by rw [sizes]; exact fits)⟩
          · refine (outside a out).trans ?_
            rw [flat,store_outside _ (by omega)]
          · refine (written done).trans ?_
            have parts : origen.drop escritos = trozo ++ origen.drop (escritos + n) := by
              rw [trozoIs,← List.drop_drop,List.take_append_drop]
            rw [flat,parts,store_append,len,Nat.add_assoc]
      · simp only [localizar_outside small (Nat.le_of_not_lt inside)]
        exact ⟨avanza_refl _,fun _ _ => rfl,fun bad => by simp at bad,fun _ fits => by omega⟩
    · simp only [more,if_false]
      exact escrito_done more

/-- A physical write keeps every byte outside its range; when it succeeds it has written
    the array; inside memory it succeeds while the sticks answer. -/
theorem escribir_spec {f : Fisica} (dir : Nat) (origen : List UInt8) (small : tamanios f.lista_memory_sticks < 2^32)
    (low : dir < 2^32) :
    Avanza f.respuestas (memoria_fisica_escribir f dir origen).2.respuestas ∧
    (∀ a, a < dir ∨ dir + origen.length ≤ a →
      plano (memoria_fisica_escribir f dir origen).2.lista_memory_sticks a = plano f.lista_memory_sticks a) ∧
    ((memoria_fisica_escribir f dir origen).1 = true →
      plano (memoria_fisica_escribir f dir origen).2.lista_memory_sticks = store (plano f.lista_memory_sticks) dir origen) ∧
    (TodoResponde f → dir + origen.length ≤ tamanios f.lista_memory_sticks → (memoria_fisica_escribir f dir origen).1 = true) := by
  have done := escribir_desde_spec dir origen origen.length 0 f small (by simp) (by simpa) (by simp)
  exact ⟨done.later,done.outside,fun ok => by simpa [memoria_fisica_escribir] using done.written ok,done.total⟩

end PlugNPray.Sticks
