import PlugNPray.KernelMemory

/-!
The memory sticks as a CPU uses them: the list that it asks Kernel Memory for, with bases
that it adds up itself, and its reads and writes, split at stick borders, with one new list
for an address that it does not know.
-/
namespace PlugNPray.CpuMemory
open PlugNPray.Places PlugNPray.FlatMemory PlugNPray.Huecos PlugNPray.Sticks

/-- A stick that took the connection of the CPU; `socket` is the place that the stick behind
    the connection has in Kernel Memory's list. -/
structure StickCpu where
  socket : Nat
  ip : String
  puerto : Int
  base_global : Nat
  tamanio : Nat
  deriving DecidableEq, Repr

/-- How a request for the list ends: broken off, or with the list, of which some sticks take
    the connection and the handshake. -/
inductive Lista where
  | falla
  | llega (acepta : Nat → Bool)

/-- The sticks, the list of one CPU, and how its requests for a new list will end. -/
structure MemoriaCpu extends Fisica where
  sticks_cpu : List StickCpu
  listas : Nat → Lista

/-- The loop over the list, from the stick at `i` on. -/
def recibir_sticks (acepta : Nat → Bool) : List MemoryStick → Nat → Nat → List StickCpu
  | [], _, _ => []
  | s :: resto, i, base_actual =>
    let nueva_lista := recibir_sticks acepta resto (i + 1) (u32 (base_actual + s.tamanio))
    if acepta i then ⟨i,s.ip,s.puerto,base_actual,s.tamanio⟩ :: nueva_lista else nueva_lista

def actualizar_memory_sticks (m : MemoriaCpu) : Bool × MemoriaCpu :=
  let resto := { m with listas := fun k => m.listas (k + 1) }
  match m.listas 0 with
  | .falla => (false,resto)
  | .llega acepta => (true,{ resto with sticks_cpu := recibir_sticks acepta m.lista_memory_sticks 0 0 })

def buscar_stick_por_direccion (sticks_cpu : List StickCpu) (direccion_fisica : Nat) : Option (StickCpu × Nat) :=
  (sticks_cpu.find? (fun stick => stick.base_global ≤ direccion_fisica &&
      direccion_fisica < u32 (stick.base_global + stick.tamanio))).map
    (fun stick => (stick,direccion_fisica - stick.base_global))

def buscar_o_refrescar_stick (direccion_fisica : Nat) (m : MemoriaCpu) : Option (StickCpu × Nat) × MemoriaCpu :=
  match buscar_stick_por_direccion m.sticks_cpu direccion_fisica with
  | some hit => (some hit,m)
  | none =>
    match actualizar_memory_sticks m with
    | (false,m) => (none,m)
    | (true,m) => (buscar_stick_por_direccion m.sticks_cpu direccion_fisica,m)

/-- A list that is empty is asked for before the first turn. -/
def preparar (m : MemoriaCpu) : Bool × MemoriaCpu :=
  if m.sticks_cpu = [] then actualizar_memory_sticks m else (true,m)

/-- A read over one connection. -/
def pedir_lectura (socket offset tam : Nat) (m : MemoriaCpu) : Option (List UInt8) × MemoriaCpu :=
  match m.lista_memory_sticks[socket]? with
  | none => (none,m)
  | some stick =>
    let r := leer_stick m.toFisica stick offset tam
    (r.1,{ m with toFisica := r.2 })

/-- A write over one connection. -/
def pedir_escritura (socket offset : Nat) (bytes : List UInt8) (m : MemoriaCpu) : Bool × MemoriaCpu :=
  match m.lista_memory_sticks[socket]? with
  | none => (false,m)
  | some stick =>
    let r := escribir_stick m.toFisica socket stick offset bytes
    (r.1,{ m with toFisica := r.2 })

/-- The loop of a read. Every turn reads at least one byte, so `tamanio` turns are enough. -/
def leer_desde (direccion_fisica tamanio : Nat) : Nat → List UInt8 → MemoriaCpu → Option (List UInt8) × MemoriaCpu
  | turnos, leidos, m =>
    if leidos.length < tamanio then
      match turnos, buscar_o_refrescar_stick (u32 (direccion_fisica + leidos.length)) m with
      | 0, (_,m) => (none,m)
      | _, (none,m) => (none,m)
      | turnos + 1, (some (stick,offset),m) =>
        let a_leer := min (tamanio - leidos.length) (u32 (stick.tamanio + 2^32 - offset))
        match pedir_lectura stick.socket offset a_leer m with
        | (none,m) => (none,m)
        | (some bytes,m) => leer_desde direccion_fisica tamanio turnos (leidos ++ bytes) m
    else (some leidos,m)

def leer_memoria (direccion_fisica tamanio : Nat) (m : MemoriaCpu) : Option (List UInt8) × MemoriaCpu :=
  if tamanio = 0 then (some [],m)
  else
    match preparar m with
    | (false,m) => (none,m)
    | (true,m) => leer_desde direccion_fisica tamanio tamanio [] m

/-- The loop of a write, at least one byte a turn. -/
def escribir_desde (direccion_fisica : Nat) (origen : List UInt8) : Nat → Nat → MemoriaCpu → Bool × MemoriaCpu
  | turnos, escritos, m =>
    if escritos < origen.length then
      match turnos, buscar_o_refrescar_stick (u32 (direccion_fisica + escritos)) m with
      | 0, (_,m) => (false,m)
      | _, (none,m) => (false,m)
      | turnos + 1, (some (stick,offset),m) =>
        let a_escribir := min (origen.length - escritos) (u32 (stick.tamanio + 2^32 - offset))
        match pedir_escritura stick.socket offset ((origen.drop escritos).take a_escribir) m with
        | (false,m) => (false,m)
        | (true,m) => escribir_desde direccion_fisica origen turnos (escritos + a_escribir) m
    else (true,m)

def escribir_memoria (direccion_fisica : Nat) (origen : List UInt8) (m : MemoriaCpu) : Bool × MemoriaCpu :=
  if origen = [] then (true,m)
  else
    match preparar m with
    | (false,m) => (false,m)
    | (true,m) => escribir_desde direccion_fisica origen origen.length 0 m

/-! ## The list of a CPU and Kernel Memory's -/

/-- The CPU has the size and the base that the stick behind the connection has in the array. -/
def Conocido (sticks : List MemoryStick) (c : StickCpu) : Prop :=
  ∃ s, sticks[c.socket]? = some s ∧ c.tamanio = s.tamanio ∧ c.base_global = tamanios (sticks.take c.socket)

def Conoce (sticks : List MemoryStick) (sticks_cpu : List StickCpu) : Prop := ∀ c ∈ sticks_cpu, Conocido sticks c

/-- The CPU has a connection to every stick. -/
def Completa (sticks : List MemoryStick) (sticks_cpu : List StickCpu) : Prop :=
  ∀ k < sticks.length, ∃ c ∈ sticks_cpu, c.socket = k

/-- All that is still to be asked is answered as asked, and every stick takes the connection. -/
structure Atiende (m : MemoriaCpu) : Prop where
  responde : TodoResponde m.toFisica
  acepta : ∀ k, ∃ acepta, m.listas k = .llega acepta ∧ ∀ i, acepta i = true

theorem conocido_split {sticks : List MemoryStick} {c : StickCpu} (known : Conocido sticks c) :
    ∃ pre s post, sticks = pre ++ s :: post ∧ c.socket = pre.length ∧ c.tamanio = s.tamanio ∧ c.base_global = tamanios pre := by
  obtain ⟨s,here,size,base⟩ := known
  obtain ⟨pre,post,rfl,place⟩ := split_of_getElem? here
  refine ⟨pre,s,post,rfl,place.symm,size,?_⟩
  rw [base,← place,List.take_left']
  rfl

/-- Sticks that connect later change nothing of what a CPU knows. -/
theorem conocido_append {sticks : List MemoryStick} {c : StickCpu} (known : Conocido sticks c) (nuevos : List MemoryStick) :
    Conocido (sticks ++ nuevos) c := by
  obtain ⟨s,here,size,base⟩ := known
  have inside := (List.getElem?_eq_some_iff.mp here).1
  refine ⟨s,?_,size,?_⟩
  · rw [List.getElem?_append_left inside]
    exact here
  · rw [List.take_append_of_le_length inside.le]
    exact base

theorem conocido_fichas {sticks sticks' : List MemoryStick} {c : StickCpu} (known : Conocido sticks c)
    (same : sticks'.map MemoryStick.ficha = sticks.map MemoryStick.ficha) : Conocido sticks' c := by
  obtain ⟨s,here,size,base⟩ := known
  have there : (sticks'.map MemoryStick.ficha)[c.socket]? = some s.ficha := by
    rw [same,List.getElem?_map,here]
    rfl
  rw [List.getElem?_map] at there
  obtain ⟨s',here',ficha⟩ := Option.map_eq_some_iff.mp there
  have sizes : s'.tamanio = s.tamanio := congrArg (fun r : Int × Nat × Nat × String × Int => r.2.1) ficha
  refine ⟨s',here',size.trans sizes.symm,base.trans ?_⟩
  refine (tamanios_of_ficha ?_).symm
  rw [List.map_take,List.map_take,same]

theorem conoce_fichas {sticks sticks' : List MemoryStick} {sticks_cpu : List StickCpu} (known : Conoce sticks sticks_cpu)
    (same : sticks'.map MemoryStick.ficha = sticks.map MemoryStick.ficha) : Conoce sticks' sticks_cpu :=
  fun c listed => conocido_fichas (known c listed) same

theorem recibir_conoce (acepta : Nat → Bool) (pre resto : List MemoryStick) (small : tamanios (pre ++ resto) < 2^32) :
    Conoce (pre ++ resto) (recibir_sticks acepta resto pre.length (tamanios pre)) := by
  induction resto generalizing pre with
  | nil => intro c listed; cases listed
  | cons s resto ih =>
    have bound : tamanios pre + s.tamanio < 2^32 := by
      rw [tamanios_append,tamanios_cons] at small
      omega
    have later := ih (pre ++ [s]) (by simpa using small)
    have total : tamanios (pre ++ [s]) = tamanios pre + s.tamanio := by simp
    rw [List.append_assoc,List.singleton_append,List.length_append,List.length_singleton,total] at later
    intro c listed
    simp only [recibir_sticks,u32_of_lt bound] at listed
    split_ifs at listed with taken
    · rcases List.mem_cons.mp listed with rfl | old
      · exact ⟨s,by simp,rfl,by simp⟩
      · exact later c old
    · exact later c listed

theorem recibir_completa {acepta : Nat → Bool} (all : ∀ i, acepta i = true) (resto : List MemoryStick) (i base : Nat) :
    ∀ k < resto.length, ∃ c ∈ recibir_sticks acepta resto i base, c.socket = i + k := by
  induction resto generalizing i base with
  | nil => intro k inside; cases inside
  | cons s resto ih =>
    intro k inside
    simp only [recibir_sticks,all i,if_true]
    cases k with
    | zero => exact ⟨_,List.mem_cons_self,rfl⟩
    | succ k =>
      obtain ⟨c,listed,place⟩ := ih (i + 1) (u32 (base + s.tamanio)) k (by simpa using inside)
      exact ⟨c,List.mem_cons_of_mem _ listed,by omega⟩

/-! ## The stick of an address -/

/-- The stick and the offset in it that hold the address. -/
def Ubica (sticks : List MemoryStick) (d : Nat) (c : StickCpu) (offset : Nat) : Prop :=
  ∃ pre s post, sticks = pre ++ s :: post ∧ c.socket = pre.length ∧ c.tamanio = s.tamanio ∧
    d = tamanios pre + offset ∧ offset < s.tamanio

theorem buscar_ubica {sticks : List MemoryStick} {sticks_cpu : List StickCpu} {d offset : Nat} {c : StickCpu}
    (known : Conoce sticks sticks_cpu) (small : tamanios sticks < 2^32)
    (found : buscar_stick_por_direccion sticks_cpu d = some (c,offset)) : Ubica sticks d c offset := by
  obtain ⟨c',hit,same⟩ := Option.map_eq_some_iff.mp found
  cases same
  obtain ⟨pre,s,post,split,place,size,base⟩ := conocido_split (known c (List.mem_of_find?_eq_some hit))
  have inside := List.find?_some hit
  have total : tamanios sticks = tamanios pre + (s.tamanio + tamanios post) := by simp [split]
  rw [Bool.and_eq_true,decide_eq_true_eq,decide_eq_true_eq,base,size,u32_of_lt (by omega)] at inside
  exact ⟨pre,s,post,split,place,size,by omega,by omega⟩

theorem buscar_completa {sticks : List MemoryStick} {sticks_cpu : List StickCpu} {d : Nat}
    (known : Conoce sticks sticks_cpu) (all : Completa sticks sticks_cpu) (small : tamanios sticks < 2^32)
    (inside : d < tamanios sticks) : (buscar_stick_por_direccion sticks_cpu d).isSome := by
  obtain ⟨pre,s,post,offset,split,_,place,room⟩ := localizar_inside small inside
  obtain ⟨c,listed,socket⟩ := all pre.length (by simp [split])
  obtain ⟨pre',s',post',split',place',size,base⟩ := conocido_split (known c listed)
  obtain ⟨rfl,tail⟩ := List.append_inj (split.symm.trans split') (socket.symm.trans place')
  obtain ⟨rfl,-⟩ := List.cons.inj tail
  have total : tamanios sticks = tamanios pre + (s.tamanio + tamanios post) := by simp [split]
  simp only [buscar_stick_por_direccion,Option.isSome_map,List.find?_isSome]
  refine ⟨c,listed,?_⟩
  rw [Bool.and_eq_true,decide_eq_true_eq,decide_eq_true_eq,base,size,u32_of_lt (by omega)]
  omega

/-! ## What a call leaves -/

/-- What every call of a CPU keeps. -/
structure Queda (m m' : MemoriaCpu) : Prop where
  fichas : m'.lista_memory_sticks.map MemoryStick.ficha = m.lista_memory_sticks.map MemoryStick.ficha
  conoce : tamanios m.lista_memory_sticks < 2^32 → Conoce m.lista_memory_sticks m.sticks_cpu →
    Conoce m'.lista_memory_sticks m'.sticks_cpu
  atiende : Atiende m → Atiende m'

theorem queda_refl (m : MemoriaCpu) : Queda m m := ⟨rfl,fun _ known => known,id⟩
theorem Queda.tamanios {m m' : MemoriaCpu} (kept : Queda m m') : tamanios m'.lista_memory_sticks = tamanios m.lista_memory_sticks :=
  tamanios_of_ficha kept.fichas
theorem Queda.trans {m m' m'' : MemoriaCpu} (first : Queda m m') (second : Queda m' m'') : Queda m m'' where
  fichas := second.fichas.trans first.fichas
  conoce small known := second.conoce (first.tamanios ▸ small) (first.conoce small known)
  atiende all := second.atiende (first.atiende all)

/-- A new list leaves the sticks alone; it is right, and complete if all answer. -/
theorem actualizar_spec (m : MemoriaCpu) :
    Queda m (actualizar_memory_sticks m).2 ∧ (actualizar_memory_sticks m).2.toFisica = m.toFisica ∧
    (Atiende m → (actualizar_memory_sticks m).1 = true ∧
      Completa m.lista_memory_sticks (actualizar_memory_sticks m).2.sticks_cpu) := by
  unfold actualizar_memory_sticks
  cases answer : m.listas 0 with
  | falla =>
    refine ⟨⟨rfl,fun _ known => known,fun all => ⟨all.responde,fun k => all.acepta (k + 1)⟩⟩,rfl,?_⟩
    intro all
    obtain ⟨_,arrives,_⟩ := all.acepta 0
    cases answer.symm.trans arrives
  | llega acepta =>
    refine ⟨⟨rfl,fun small _ => ?_,fun all => ⟨all.responde,fun k => all.acepta (k + 1)⟩⟩,rfl,?_⟩
    · exact recibir_conoce acepta [] m.lista_memory_sticks small
    · intro all
      obtain ⟨acepta',arrives,takes⟩ := all.acepta 0
      cases answer.symm.trans arrives
      refine ⟨rfl,fun k inside => ?_⟩
      obtain ⟨c,listed,place⟩ := recibir_completa takes m.lista_memory_sticks 0 0 k inside
      exact ⟨c,listed,by rw [place,Nat.zero_add]⟩

/-- The search, with a new list if need be, finds the stick of the address, and finds one for
    every address of memory if all answer. -/
theorem refrescar_spec {m : MemoriaCpu} (d : Nat) (small : tamanios m.lista_memory_sticks < 2^32)
    (known : Conoce m.lista_memory_sticks m.sticks_cpu) :
    Queda m (buscar_o_refrescar_stick d m).2 ∧ (buscar_o_refrescar_stick d m).2.toFisica = m.toFisica ∧
    (∀ c offset, (buscar_o_refrescar_stick d m).1 = some (c,offset) → Ubica m.lista_memory_sticks d c offset) ∧
    (Atiende m → d < tamanios m.lista_memory_sticks → (buscar_o_refrescar_stick d m).1.isSome) := by
  unfold buscar_o_refrescar_stick
  cases found : buscar_stick_por_direccion m.sticks_cpu d with
  | some hit =>
    refine ⟨queda_refl m,rfl,?_,fun _ _ => rfl⟩
    rintro c offset ⟨⟩
    exact buscar_ubica known small found
  | none =>
    obtain ⟨kept,sticks,served⟩ := actualizar_spec m
    have list := congrArg Fisica.lista_memory_sticks sticks
    cases asked : actualizar_memory_sticks m with
    | mk ok m' =>
      rw [asked] at kept sticks served list
      have known' := kept.conoce small known
      rw [list] at known'
      cases ok with
      | false =>
        refine ⟨kept,sticks,?_,?_⟩
        · intro c offset bad
          cases bad
        · intro all _
          cases (served all).1
      | true =>
        refine ⟨kept,sticks,?_,fun all inside => ?_⟩
        · intro c offset hit
          exact buscar_ubica known' small hit
        · exact buscar_completa known' (served all).2 small inside

theorem preparar_spec (m : MemoriaCpu) : Queda m (preparar m).2 ∧ (preparar m).2.toFisica = m.toFisica ∧
    (Atiende m → (preparar m).1 = true) := by
  unfold preparar
  split_ifs
  · obtain ⟨kept,sticks,served⟩ := actualizar_spec m
    exact ⟨kept,sticks,fun all => (served all).1⟩
  · exact ⟨queda_refl m,rfl,fun _ => rfl⟩

/-! ## Reads and writes are those of the array -/

theorem lectura_spec {m : MemoriaCpu} {pre post : List MemoryStick} {s : MemoryStick}
    (split : m.lista_memory_sticks = pre ++ s :: post) (offset tam : Nat) :
    Queda m (pedir_lectura pre.length offset tam m).2 ∧
    (pedir_lectura pre.length offset tam m).2.lista_memory_sticks = m.lista_memory_sticks ∧
    (∀ bytes, (pedir_lectura pre.length offset tam m).1 = some bytes → bytes = load s.memoria offset tam) ∧
    (Atiende m → offset + tam ≤ s.tamanio → s.tamanio < 2^32 → (pedir_lectura pre.length offset tam m).1.isSome) := by
  have here : m.lista_memory_sticks[pre.length]? = some s := by simp [split]
  have later : Atiende m → TodoResponde { m.toFisica with respuestas := fun k => m.respuestas (k + 1) } :=
    fun all k => all.responde (k + 1)
  simp only [pedir_lectura,here,leer_stick]
  cases answer : m.respuestas 0 with
  | falla basura =>
    refine ⟨⟨rfl,fun _ known => known,fun all => ⟨later all,all.acepta⟩⟩,rfl,?_,?_⟩
    · intro bytes bad
      cases bad
    · intro all
      cases answer.symm.trans (all.responde 0)
  | responde =>
    refine ⟨⟨rfl,fun _ known => known,fun all => ⟨later all,all.acepta⟩⟩,rfl,?_,?_⟩
    · intro bytes done
      split_ifs at done
      exact (Option.some.inj done).symm
    · intro _ room small
      have accepted : lectura_fuera_de_rango offset tam s.tamanio = false := by
        simp only [lectura_fuera_de_rango,Bool.or_eq_false_iff,decide_eq_false_iff_not]
        unfold u32
        omega
      rw [accepted]
      rfl

theorem escritura_spec {m : MemoriaCpu} {pre post : List MemoryStick} {s : MemoryStick}
    (split : m.lista_memory_sticks = pre ++ s :: post) (offset : Nat) (bytes : List UInt8)
    (room : offset + bytes.length ≤ s.tamanio) :
    Queda m (pedir_escritura pre.length offset bytes m).2 ∧
    (∀ a, a < tamanios pre + offset ∨ tamanios pre + offset + bytes.length ≤ a →
      plano (pedir_escritura pre.length offset bytes m).2.lista_memory_sticks a = plano m.lista_memory_sticks a) ∧
    ((pedir_escritura pre.length offset bytes m).1 = true →
      plano (pedir_escritura pre.length offset bytes m).2.lista_memory_sticks =
        store (plano m.lista_memory_sticks) (tamanios pre + offset) bytes) ∧
    (Atiende m → s.tamanio < 2^32 → (pedir_escritura pre.length offset bytes m).1 = true) := by
  have here : m.lista_memory_sticks[pre.length]? = some s := by simp [split]
  have later : Atiende m → ∀ k, m.respuestas (k + 1) = .responde := fun all k => all.responde (k + 1)
  -- Whatever is put into the bytes of the request, only they change.
  have put : ∀ contenido : List UInt8, contenido.length = bytes.length →
      (m.lista_memory_sticks.set pre.length { s with memoria := store s.memoria offset contenido }).map MemoryStick.ficha =
        m.lista_memory_sticks.map MemoryStick.ficha ∧
      plano (m.lista_memory_sticks.set pre.length { s with memoria := store s.memoria offset contenido }) =
        store (plano m.lista_memory_sticks) (tamanios pre + offset) contenido := by
    intro contenido size
    rw [split,set_split]
    exact ⟨by simp [MemoryStick.ficha],plano_store (by omega)⟩
  have kept : ∀ contenido : List UInt8, contenido.length = bytes.length →
      Queda m { m with
        lista_memory_sticks := m.lista_memory_sticks.set pre.length { s with memoria := store s.memoria offset contenido }
        respuestas := fun k => m.respuestas (k + 1) } := by
    intro contenido size
    obtain ⟨same,-⟩ := put contenido size
    exact ⟨same,fun _ known c listed => conocido_fichas (known c listed) same,fun all => ⟨later all,all.acepta⟩⟩
  simp only [pedir_escritura,here,escribir_stick]
  cases answer : m.respuestas 0 with
  | falla basura =>
    have size : (load basura 0 bytes.length).length = bytes.length := by simp
    refine ⟨kept _ size,?_,?_,?_⟩
    · intro a outside
      rw [(put _ size).2,store_outside _ (by omega)]
    · intro bad
      cases bad
    · intro all
      cases answer.symm.trans (all.responde 0)
  | responde =>
    by_cases outside : escritura_fuera_de_rango offset bytes.length s.tamanio = true
    · simp only [outside,if_true]
      refine ⟨⟨rfl,fun _ known => known,fun all => ⟨later all,all.acepta⟩⟩,fun _ _ => trivial,?_,?_⟩
      · intro bad
        cases bad
      · intro _ small
        rw [escritura_fuera_de_rango,u32_of_lt (by omega),decide_eq_true_eq] at outside
        omega
    · have accepted : escritura_fuera_de_rango offset bytes.length s.tamanio = false := Bool.eq_false_iff.mpr outside
      simp only [accepted,Bool.false_eq_true,if_false]
      refine ⟨kept bytes rfl,?_,fun _ => (put bytes rfl).2,fun _ _ => trivial⟩
      intro a outside
      rw [(put bytes rfl).2,store_outside _ outside]

/-- What a read leaves and answers after `leidos` bytes: bytes of the array, or nothing if an
    answer is missing or the range goes beyond memory. -/
structure Leido (dir tam : Nat) (leidos : List UInt8) (m : MemoriaCpu) (r : Option (List UInt8) × MemoriaCpu) : Prop where
  queda : Queda m r.2
  sticks : r.2.lista_memory_sticks = m.lista_memory_sticks
  sound : ∀ bytes, r.1 = some bytes →
    bytes = leidos ++ load (plano m.lista_memory_sticks) (dir + leidos.length) (tam - leidos.length) ∧
    (leidos.length < tam → dir + tam ≤ tamanios m.lista_memory_sticks)
  total : Atiende m → dir + tam ≤ tamanios m.lista_memory_sticks → r.1.isSome

theorem leer_desde_spec (dir tam : Nat) : ∀ (turnos : Nat) (leidos : List UInt8) (m : MemoriaCpu),
    tamanios m.lista_memory_sticks < 2^32 → Conoce m.lista_memory_sticks m.sticks_cpu → tam - leidos.length ≤ turnos →
    dir + leidos.length < 2^32 → leidos.length ≤ tam → Leido dir tam leidos m (leer_desde dir tam turnos leidos m) := by
  intro turnos
  induction turnos with
  | zero =>
    intro leidos m small known enough low bound
    have done : ¬ leidos.length < tam := by omega
    unfold leer_desde
    rw [if_neg done]
    refine ⟨queda_refl m,rfl,?_,fun _ _ => rfl⟩
    rintro bytes ⟨⟩
    exact ⟨by simp [show tam - leidos.length = 0 by omega],fun more => absurd more done⟩
  | succ turnos ih =>
    intro leidos m small known enough low bound
    unfold leer_desde
    by_cases more : leidos.length < tam
    · rw [if_pos more,u32_of_lt low]
      obtain ⟨kept,same,where_,served⟩ := refrescar_spec (m := m) (dir + leidos.length) small known
      generalize buscar_o_refrescar_stick (dir + leidos.length) m = found at kept same where_ served
      obtain ⟨hit,n⟩ := found
      have list : n.lista_memory_sticks = m.lista_memory_sticks := congrArg Fisica.lista_memory_sticks same
      cases hit with
      | none =>
        refine ⟨kept,list,?_,?_⟩
        · intro bytes bad
          cases bad
        · intro all fits
          cases served all (by omega)
      | some hit =>
        obtain ⟨c,offset⟩ := hit
        obtain ⟨pre,s,post,split,place,size,address,inside⟩ := where_ c offset rfl
        have total : tamanios m.lista_memory_sticks = tamanios pre + (s.tamanio + tamanios post) := by simp [split]
        have rest : u32 (s.tamanio + 2^32 - offset) = s.tamanio - offset := by
          unfold u32
          omega
        simp only [place,size,rest]
        set count := min (tam - leidos.length) (s.tamanio - offset) with countIs
        obtain ⟨kept',list',exact',answered⟩ := lectura_spec (list.trans split) offset count
        generalize pedir_lectura pre.length offset count n = got at kept' list' exact' answered
        obtain ⟨bytes,n'⟩ := got
        have known' := kept'.conoce (by rw [list]; exact small) (kept.conoce small known)
        cases bytes with
        | none =>
          refine ⟨kept.trans kept',list'.trans list,?_,?_⟩
          · intro bytes bad
            cases bad
          · intro all _
            cases answered (kept.atiende all) (by omega) (by omega)
        | some bytes =>
          have chunk := exact' bytes rfl
          have len : (leidos ++ bytes).length = leidos.length + count := by rw [List.length_append,chunk,load_length]
          have sameList : n'.lista_memory_sticks = m.lista_memory_sticks := list'.trans list
          obtain ⟨kept2,list2,sound,total2⟩ := ih (leidos ++ bytes) n' (by rw [sameList]; exact small) known'
            (by omega) (by omega) (by omega)
          rw [sameList,len] at sound
          refine ⟨(kept.trans kept').trans kept2,list2.trans sameList,?_,?_⟩
          · intro all done
            obtain ⟨bytesAre,reach⟩ := sound all done
            refine ⟨?_,fun _ => ?_⟩
            · have flat : bytes = load (plano m.lista_memory_sticks) (dir + leidos.length) count := by
                rw [chunk,split,address,load_plano (by omega)]
              rw [bytesAre,flat,show tam - leidos.length = count + (tam - (leidos.length + count)) by omega,load_add]
              simp [Nat.add_assoc]
            · by_cases last : leidos.length + count < tam
              · exact reach last
              · omega
          · intro all fits
            exact total2 (kept'.atiende (kept.atiende all)) (by rw [sameList]; exact fits)
    · rw [if_neg more]
      refine ⟨queda_refl m,rfl,?_,fun _ _ => rfl⟩
      rintro bytes ⟨⟩
      exact ⟨by simp [show tam - leidos.length = 0 by omega],fun more' => absurd more' more⟩

/-- A read returns bytes of the array, and inside memory it succeeds if all answer. -/
theorem leer_memoria_spec {m : MemoriaCpu} (dir tam : Nat) (small : tamanios m.lista_memory_sticks < 2^32)
    (known : Conoce m.lista_memory_sticks m.sticks_cpu) (low : dir < 2^32) : Leido dir tam [] m (leer_memoria dir tam m) := by
  unfold leer_memoria
  by_cases empty : tam = 0
  · rw [if_pos empty]
    refine ⟨queda_refl m,rfl,?_,fun _ _ => rfl⟩
    rintro bytes ⟨⟩
    exact ⟨by simp [empty],fun more => absurd more (by simp [empty])⟩
  rw [if_neg empty]
  obtain ⟨kept,same,served⟩ := preparar_spec m
  generalize preparar m = ready at kept same served
  obtain ⟨ok,n⟩ := ready
  have list : n.lista_memory_sticks = m.lista_memory_sticks := congrArg Fisica.lista_memory_sticks same
  cases ok with
  | false =>
    refine ⟨kept,list,?_,?_⟩
    · intro bytes bad
      cases bad
    · intro all
      cases served all
  | true =>
    obtain ⟨kept',list',sound,total⟩ := leer_desde_spec dir tam tam [] n (by rw [list]; exact small)
      (kept.conoce small known) (by simp) (by simpa) (by simp)
    rw [list] at list' sound total
    exact ⟨kept.trans kept',list',sound,fun all fits => total (kept.atiende all) fits⟩

/-- What a write leaves and answers after `escritos` bytes: nothing changes outside its range,
    and if it succeeds the array is written. -/
structure Escrito (dir : Nat) (origen : List UInt8) (escritos : Nat) (m : MemoriaCpu) (r : Bool × MemoriaCpu) : Prop where
  queda : Queda m r.2
  outside : ∀ a, a < dir ∨ dir + origen.length ≤ a → plano r.2.lista_memory_sticks a = plano m.lista_memory_sticks a
  written : r.1 = true → plano r.2.lista_memory_sticks =
      store (plano m.lista_memory_sticks) (dir + escritos) (origen.drop escritos) ∧
    (escritos < origen.length → dir + origen.length ≤ tamanios m.lista_memory_sticks)
  total : Atiende m → dir + origen.length ≤ tamanios m.lista_memory_sticks → r.1 = true

theorem escrito_done {dir escritos : Nat} {origen : List UInt8} {m : MemoriaCpu} (done : ¬ escritos < origen.length) :
    Escrito dir origen escritos m (true,m) where
  queda := queda_refl m
  outside _ _ := rfl
  written _ := ⟨by rw [List.drop_eq_nil_of_le (by omega),store_nil],fun more => absurd more done⟩
  total _ _ := rfl

/-- A write that stops here has changed nothing. -/
theorem escrito_stop {dir escritos : Nat} {origen : List UInt8} {m n : MemoriaCpu} (kept : Queda m n)
    (list : n.lista_memory_sticks = m.lista_memory_sticks)
    (never : Atiende m → dir + origen.length ≤ tamanios m.lista_memory_sticks → False) :
    Escrito dir origen escritos m (false,n) where
  queda := kept
  outside _ _ := by rw [list]
  written bad := by cases bad
  total all fits := (never all fits).elim

theorem escribir_desde_spec (dir : Nat) (origen : List UInt8) : ∀ (turnos escritos : Nat) (m : MemoriaCpu),
    tamanios m.lista_memory_sticks < 2^32 → Conoce m.lista_memory_sticks m.sticks_cpu → origen.length - escritos ≤ turnos →
    dir + escritos < 2^32 → escritos ≤ origen.length →
    Escrito dir origen escritos m (escribir_desde dir origen turnos escritos m) := by
  intro turnos
  induction turnos with
  | zero =>
    intro escritos m small known enough low bound
    have done : ¬ escritos < origen.length := by omega
    unfold escribir_desde
    rw [if_neg done]
    exact escrito_done done
  | succ turnos ih =>
    intro escritos m small known enough low bound
    unfold escribir_desde
    by_cases more : escritos < origen.length
    · rw [if_pos more,u32_of_lt low]
      obtain ⟨kept,same,where_,served⟩ := refrescar_spec (m := m) (dir + escritos) small known
      generalize buscar_o_refrescar_stick (dir + escritos) m = found at kept same where_ served
      obtain ⟨hit,n⟩ := found
      have list : n.lista_memory_sticks = m.lista_memory_sticks := congrArg Fisica.lista_memory_sticks same
      cases hit with
      | none =>
        apply escrito_stop kept list
        intro all fits
        cases served all (by omega)
      | some hit =>
        obtain ⟨c,offset⟩ := hit
        obtain ⟨pre,s,post,split,place,size,address,inside⟩ := where_ c offset rfl
        have total : tamanios m.lista_memory_sticks = tamanios pre + (s.tamanio + tamanios post) := by simp [split]
        have rest : u32 (s.tamanio + 2^32 - offset) = s.tamanio - offset := by
          unfold u32
          omega
        simp only [place,size,rest]
        set count := min (origen.length - escritos) (s.tamanio - offset) with countIs
        set trozo := (origen.drop escritos).take count with trozoIs
        have len : trozo.length = count := by simp [trozoIs]; omega
        obtain ⟨kept',outside,written,answered⟩ := escritura_spec (list.trans split) offset trozo (by omega)
        generalize pedir_escritura pre.length offset trozo n = got at kept' outside written answered
        obtain ⟨ok,n'⟩ := got
        have known' := kept'.conoce (by rw [list]; exact small) (kept.conoce small known)
        rw [list,← address,len] at outside
        cases ok with
        | false =>
          refine ⟨kept.trans kept',fun a out => outside a (by omega),?_,?_⟩
          · intro bad
            cases bad
          · intro all _
            cases answered (kept.atiende all) (by omega)
        | true =>
          have flat := written rfl
          rw [list,← address] at flat
          have sizes : tamanios n'.lista_memory_sticks = tamanios m.lista_memory_sticks :=
            kept'.tamanios.trans kept.tamanios
          obtain ⟨kept2,outside2,written2,total2⟩ := ih (escritos + count) n' (by rw [sizes]; exact small) known'
            (by omega) (by omega) (by omega)
          rw [sizes] at written2 total2
          refine ⟨(kept.trans kept').trans kept2,?_,?_,?_⟩
          · intro a out
            rw [outside2 a out,outside a (by omega)]
          · intro done
            obtain ⟨stored,reach⟩ := written2 done
            refine ⟨?_,fun _ => ?_⟩
            · have parts : origen.drop escritos = trozo ++ origen.drop (escritos + count) := by
                rw [trozoIs,← List.drop_drop,List.take_append_drop]
              rw [stored,flat,parts,store_append,len,Nat.add_assoc]
            · by_cases last : escritos + count < origen.length
              · exact reach last
              · omega
          · intro all fits
            exact total2 (kept'.atiende (kept.atiende all)) fits
    · rw [if_neg more]
      exact escrito_done more

/-- A write keeps every byte outside its range; when it succeeds it has written the array;
    inside memory it succeeds if all answer. -/
theorem escribir_memoria_spec {m : MemoriaCpu} (dir : Nat) (origen : List UInt8) (small : tamanios m.lista_memory_sticks < 2^32)
    (known : Conoce m.lista_memory_sticks m.sticks_cpu) (low : dir < 2^32) : Escrito dir origen 0 m (escribir_memoria dir origen m) := by
  unfold escribir_memoria
  by_cases empty : origen = []
  · rw [if_pos empty]
    exact escrito_done (by simp [empty])
  rw [if_neg empty]
  obtain ⟨kept,same,served⟩ := preparar_spec m
  generalize preparar m = ready at kept same served
  obtain ⟨ok,n⟩ := ready
  have list : n.lista_memory_sticks = m.lista_memory_sticks := congrArg Fisica.lista_memory_sticks same
  cases ok with
  | false =>
    apply escrito_stop kept list
    intro all _
    cases served all
  | true =>
    obtain ⟨kept',outside,written,total⟩ := escribir_desde_spec dir origen origen.length 0 n (by rw [list]; exact small)
      (kept.conoce small known) (by simp) (by simpa) (by simp)
    rw [list] at outside written total
    exact ⟨kept.trans kept',outside,written,fun all fits => total (kept.atiende all) fits⟩

end PlugNPray.CpuMemory
