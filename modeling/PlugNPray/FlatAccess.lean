import PlugNPray.CpuMemory
import PlugNPray.Runs

/-!
Kernel Memory and any number of CPUs over the same sticks: every access, whoever makes it and
however old its list is, is an access to the one array of all sticks.
-/
namespace PlugNPray.FlatAccess
open PlugNPray.Runs PlugNPray.FlatMemory PlugNPray.Huecos PlugNPray.Sticks PlugNPray.KernelMemory PlugNPray.CpuMemory

/-- Kernel Memory, the lists of the CPUs, and how the requests for a new list will end. -/
structure Sistema where
  km : Estado
  sticks_cpu : Nat → List StickCpu
  listas : Nat → Lista

def Sistema.sticks (s : Sistema) : List MemoryStick := s.km.lista_memory_sticks
/-- The single array. -/
def Sistema.arreglo (s : Sistema) : Nat → UInt8 := plano s.sticks

def inicial (segment_max_size : Int) (allocation_best_fit : Bool) (respuestas : Nat → Respuesta) (listas : Nat → Lista) : Sistema where
  km := KernelMemory.inicial segment_max_size allocation_best_fit respuestas
  sticks_cpu _ := []
  listas := listas

inductive Acceso where
  | memory_stick_agregar (a : Alta)
  | memoria_fisica_leer (dir_global tamanio : UInt32)
  | memoria_fisica_escribir (dir_global : UInt32) (origen : List UInt8)
  | actualizar_memory_sticks (cpu : Nat)
  | leer_memoria (cpu : Nat) (direccion_fisica tamanio : UInt32)
  | escribir_memoria (cpu : Nat) (direccion_fisica : UInt32) (origen : List UInt8)

inductive Resultado where
  | hecho (b : Bool)
  | leido (bytes : Option (List UInt8))
  | escrito (b : Bool)
  deriving DecidableEq

/-- What one CPU has before it. -/
def Sistema.vista (s : Sistema) (cpu : Nat) : MemoriaCpu := ⟨s.km.toFisica,s.sticks_cpu cpu,s.listas⟩
def Sistema.con_vista (s : Sistema) (cpu : Nat) (m : MemoriaCpu) : Sistema :=
  ⟨{ s.km with toFisica := m.toFisica },Function.update s.sticks_cpu cpu m.sticks_cpu,m.listas⟩

def servir : Acceso → Sistema → Resultado × Sistema
  | .memory_stick_agregar a, s => (.hecho true,{ s with km := KernelMemory.memory_stick_agregar a s.km })
  | .memoria_fisica_leer dir_global tamanio, s =>
    let r := s.km.leer dir_global.toNat tamanio.toNat
    (.leido r.1,{ s with km := r.2 })
  | .memoria_fisica_escribir dir_global origen, s =>
    let r := s.km.escribir dir_global.toNat origen
    (.escrito r.1,{ s with km := r.2 })
  | .actualizar_memory_sticks cpu, s =>
    let r := CpuMemory.actualizar_memory_sticks (s.vista cpu)
    (.hecho r.1,s.con_vista cpu r.2)
  | .leer_memoria cpu direccion_fisica tamanio, s =>
    let r := CpuMemory.leer_memoria direccion_fisica.toNat tamanio.toNat (s.vista cpu)
    (.leido r.1,s.con_vista cpu r.2)
  | .escribir_memoria cpu direccion_fisica origen, s =>
    let r := CpuMemory.escribir_memoria direccion_fisica.toNat origen (s.vista cpu)
    (.escrito r.1,s.con_vista cpu r.2)

def accede (a : Acceso) (s : Sistema) : Option Sistema := some (servir a s).2

namespace Acceso
/-- The range that it reads. -/
def lectura : Acceso → Option (Nat × Nat)
  | memoria_fisica_leer dir tam | leer_memoria _ dir tam => some (dir.toNat,tam.toNat)
  | _ => none

/-- Where it writes, and what. -/
def escritura : Acceso → Option (Nat × List UInt8)
  | memoria_fisica_escribir dir origen | escribir_memoria _ dir origen => some (dir.toNat,origen)
  | _ => none

/-- It writes to none of the bytes of the range. -/
def Respeta (dir tam : Nat) (a : Acceso) : Prop :=
  match a.escritura with
  | none => True
  | some (d,bytes) => bytes = [] ∨ d + bytes.length ≤ dir ∨ dir + tam ≤ d

instance (dir tam : Nat) (a : Acceso) : Decidable (a.Respeta dir tam) :=
  match found : a.escritura with
  | none => isTrue (by simp only [Respeta,found])
  | some (d,bytes) => decidable_of_iff (bytes = [] ∨ d + bytes.length ≤ dir ∨ dir + tam ≤ d) (by simp only [Respeta,found])
end Acceso

/-- The total of the sticks stays below 2^32. -/
def Cabe : Acceso → Sistema → Prop
  | .memory_stick_agregar a, s => tamanios s.sticks + a.tamanio < 2^32
  | _, _ => True

instance : ∀ a s, Decidable (Cabe a s)
  | .memory_stick_agregar _, _ => inferInstanceAs (Decidable (_ < _))
  | .memoria_fisica_leer _ _, _ | .memoria_fisica_escribir _ _, _ | .actualizar_memory_sticks _, _
  | .leer_memoria _ _ _, _ | .escribir_memoria _ _ _, _ => isTrue trivial

/-- The sticks and Kernel Memory answer as asked from now on, and every stick takes the
    connections of the CPUs. -/
structure TodosAtienden (s : Sistema) : Prop where
  responde : TodoResponde s.km.toFisica
  acepta : ∀ k, ∃ acepta, s.listas k = .llega acepta ∧ ∀ i, acepta i = true

/-- The access is one to the array: what it answers is in it, what it writes is written, the
    bytes that it does not write stay, and inside memory it succeeds if all answer. -/
structure Plano (a : Acceso) (s : Sistema) : Prop where
  lee : ∀ dir tam bytes, a.lectura = some (dir,tam) → (servir a s).1 = .leido (some bytes) → bytes = load s.arreglo dir tam
  escribe : ∀ dir bytes, a.escritura = some (dir,bytes) → (servir a s).1 = .escrito true →
    (servir a s).2.arreglo = store s.arreglo dir bytes
  deja : ∀ d, d < tamanios s.sticks → a.Respeta d 1 → (servir a s).2.arreglo d = s.arreglo d
  servida : TodosAtienden s → ∀ dir tam, a.lectura = some (dir,tam) → dir + tam ≤ s.km.memoria_total →
    ∃ bytes, (servir a s).1 = .leido (some bytes)
  guardada : TodosAtienden s → ∀ dir bytes, a.escritura = some (dir,bytes) → dir + bytes.length ≤ s.km.memoria_total →
    (servir a s).1 = .escrito true

/-! ## The invariant -/

/-- The total is the sticks', and every list of a CPU is right as far as it goes. -/
structure Coherente (s : Sistema) : Prop where
  pequenio : tamanios s.sticks < 2^32
  total : s.km.memoria_total = tamanios s.sticks
  conoce : ∀ cpu, Conoce s.sticks (s.sticks_cpu cpu)

theorem inicial_coherente (segment_max_size : Int) (allocation_best_fit : Bool) (respuestas : Nat → Respuesta) (listas : Nat → Lista) :
    Coherente (inicial segment_max_size allocation_best_fit respuestas listas) :=
  ⟨Nat.two_pow_pos 32,rfl,fun _ _ listed => absurd listed List.not_mem_nil⟩

/-- The KM's physical accesses keep what the CPUs know. -/
theorem coherente_fisica {s : Sistema} (held : Coherente s) {f : Fisica}
    (same : f.lista_memory_sticks.map MemoryStick.ficha = s.sticks.map MemoryStick.ficha) :
    Coherente { s with km := { s.km with toFisica := f } } where
  pequenio := (tamanios_of_ficha same).trans_lt held.pequenio
  total := held.total.trans (tamanios_of_ficha same).symm
  conoce cpu := conoce_fichas (held.conoce cpu) same

theorem coherente_vista {s : Sistema} (held : Coherente s) {cpu : Nat} {m : MemoriaCpu} (kept : Queda (s.vista cpu) m) :
    Coherente (s.con_vista cpu m) where
  pequenio := (tamanios_of_ficha kept.fichas).trans_lt held.pequenio
  total := held.total.trans (tamanios_of_ficha kept.fichas).symm
  conoce q := by
    show Conoce m.lista_memory_sticks (Function.update s.sticks_cpu cpu m.sticks_cpu q)
    by_cases mine : q = cpu
    · rw [mine,Function.update_self]
      exact kept.conoce held.pequenio (held.conoce cpu)
    · rw [Function.update_of_ne mine]
      exact conoce_fichas (held.conoce q) kept.fichas

theorem accede_coherente : Preserved accede Cabe Coherente := by
  intro a s t held fits moved
  cases moved
  cases a with
  | memory_stick_agregar a =>
    have fits : tamanios s.sticks + a.tamanio < 2^32 := fits
    have sum : tamanios (servir (.memory_stick_agregar a) s).2.sticks = tamanios s.sticks + a.tamanio := by
      show tamanios (s.sticks ++ [_]) = _
      rw [tamanios_append,tamanios_cons,tamanios_nil,Nat.add_zero]
    refine ⟨sum.trans_lt fits,?_,fun cpu c listed => conocido_append (held.conoce cpu c listed) _⟩
    rw [sum]
    show u32 (s.km.memoria_total + a.tamanio) = _
    rw [held.total,u32_of_lt fits]
  | memoria_fisica_leer dir tam =>
    exact coherente_fisica held (by rw [leer_sticks]; rfl)
  | memoria_fisica_escribir dir origen =>
    exact coherente_fisica held (escribir_fichas s.km.toFisica dir.toNat origen)
  | actualizar_memory_sticks cpu => exact coherente_vista held (actualizar_spec (s.vista cpu)).1
  | leer_memoria cpu dir tam =>
    exact coherente_vista held (leer_memoria_spec dir.toNat tam.toNat held.pequenio (held.conoce cpu) dir.toNat_lt).queda
  | escribir_memoria cpu dir origen =>
    exact coherente_vista held (escribir_memoria_spec dir.toNat origen held.pequenio (held.conoce cpu) dir.toNat_lt).queda

/-! ## One access -/

/-- What does not write has nothing to show but its answer. -/
theorem plano_de_lectura {a : Acceso} {s : Sistema} (none : a.escritura = none)
    (lee : ∀ dir tam bytes, a.lectura = some (dir,tam) → (servir a s).1 = .leido (some bytes) → bytes = load s.arreglo dir tam)
    (deja : ∀ d, d < tamanios s.sticks → (servir a s).2.arreglo d = s.arreglo d)
    (servida : TodosAtienden s → ∀ dir tam, a.lectura = some (dir,tam) → dir + tam ≤ s.km.memoria_total →
      ∃ bytes, (servir a s).1 = .leido (some bytes)) : Plano a s where
  lee := lee
  escribe dir bytes writes := by cases none.symm.trans writes
  deja d inside _ := deja d inside
  servida := servida
  guardada _ dir bytes writes := by cases none.symm.trans writes

theorem plano_de_escritura {a : Acceso} {s : Sistema} {dir : Nat} {origen : List UInt8} (none : a.lectura = none)
    (writes : a.escritura = some (dir,origen))
    (escribe : (servir a s).1 = .escrito true → (servir a s).2.arreglo = store s.arreglo dir origen)
    (deja : ∀ d, d < dir ∨ dir + origen.length ≤ d → (servir a s).2.arreglo d = s.arreglo d)
    (guardada : TodosAtienden s → dir + origen.length ≤ s.km.memoria_total → (servir a s).1 = .escrito true) : Plano a s where
  lee dir tam bytes reads := by cases none.symm.trans reads
  escribe d bytes same done := by
    cases writes.symm.trans same
    exact escribe done
  deja d _ apart := by
    simp only [Acceso.Respeta,writes] at apart
    apply deja d
    rcases apart with rfl | before | after
    · rw [List.length_nil]
      omega
    · omega
    · omega
  servida _ dir tam reads := by cases none.symm.trans reads
  guardada all d bytes same fits := by
    cases writes.symm.trans same
    exact guardada all fits

/-- The step lemma. -/
theorem plano_de_coherente {s : Sistema} (held : Coherente s) (a : Acceso) : Plano a s := by
  have atiende : TodosAtienden s → ∀ cpu, Atiende (s.vista cpu) := fun all _ => ⟨all.responde,all.acepta⟩
  have small := held.pequenio
  cases a with
  | memory_stick_agregar a =>
    apply plano_de_lectura rfl
    · intro dir tam bytes reads
      cases reads
    · intro d inside
      exact plano_append_left _ inside
    · intro _ dir tam reads
      cases reads
  | actualizar_memory_sticks cpu =>
    obtain ⟨-,same,-⟩ := actualizar_spec (s.vista cpu)
    apply plano_de_lectura rfl
    · intro dir tam bytes reads
      cases reads
    · intro d _
      exact congrArg (fun f : Fisica => plano f.lista_memory_sticks d) same
    · intro _ dir tam reads
      cases reads
  | memoria_fisica_leer dir tam =>
    obtain ⟨-,sound,total⟩ := leer_spec (f := s.km.toFisica) dir.toNat tam.toNat small dir.toNat_lt
    apply plano_de_lectura rfl
    · rintro _ _ bytes ⟨⟩ done
      exact sound bytes (Resultado.leido.inj done)
    · intro d _
      exact congrArg (fun l => plano l d) (leer_sticks s.km.toFisica dir.toNat tam.toNat)
    · rintro all _ _ ⟨⟩ fits
      obtain ⟨bytes,got⟩ := Option.isSome_iff_exists.mp (total all.responde (held.total ▸ fits))
      exact ⟨bytes,congrArg Resultado.leido got⟩
  | memoria_fisica_escribir dir origen =>
    obtain ⟨-,outside,written,total⟩ := escribir_spec (f := s.km.toFisica) dir.toNat origen small dir.toNat_lt
    apply plano_de_escritura rfl rfl
    · intro done
      exact written (Resultado.escrito.inj done)
    · exact outside
    · intro all fits
      exact congrArg Resultado.escrito (total all.responde (held.total ▸ fits))
  | leer_memoria cpu dir tam =>
    obtain ⟨-,same,sound,total⟩ := leer_memoria_spec (m := s.vista cpu) dir.toNat tam.toNat small (held.conoce cpu) dir.toNat_lt
    apply plano_de_lectura rfl
    · rintro _ _ bytes ⟨⟩ done
      obtain ⟨got,-⟩ := sound bytes (Resultado.leido.inj done)
      rw [List.nil_append,List.length_nil,Nat.add_zero,Nat.sub_zero] at got
      exact got
    · intro d _
      exact congrArg (fun l => plano l d) same
    · rintro all _ _ ⟨⟩ fits
      obtain ⟨bytes,got⟩ := Option.isSome_iff_exists.mp (total (atiende all cpu) (held.total ▸ fits))
      exact ⟨bytes,congrArg Resultado.leido got⟩
  | escribir_memoria cpu dir origen =>
    obtain ⟨-,outside,written,total⟩ := escribir_memoria_spec (m := s.vista cpu) dir.toNat origen small (held.conoce cpu) dir.toNat_lt
    apply plano_de_escritura rfl rfl
    · intro done
      exact (written (Resultado.escrito.inj done)).1
    · exact outside
    · intro all fits
      exact congrArg Resultado.escrito (total (atiende all cpu) (held.total ▸ fits))

/-! ## Runs -/

/-- In every run of connections and accesses, by Kernel Memory and any CPUs, every access is
    one to the single array. -/
theorem accesses_flat (segment_max_size : Int) (allocation_best_fit : Bool) (respuestas : Nat → Respuesta) (listas : Nat → Lista)
    (accesos : List Acceso) (s : Sistema)
    (fits : Guarded accede Cabe accesos (inicial segment_max_size allocation_best_fit respuestas listas))
    (reached : run accede accesos (inicial segment_max_size allocation_best_fit respuestas listas) = some s) (a : Acceso) : Plano a s :=
  plano_de_coherente (invariant_of_guarded accede_coherente
    (inicial_coherente segment_max_size allocation_best_fit respuestas listas) fits reached) a

/-- Two sticks of four bytes; CPU 1 asks for the list when there was only the first. -/
def accesos_prueba : List Acceso :=
  [.memory_stick_agregar ⟨3,4,"10.0.0.1",8002,fun _ => 0⟩,.actualizar_memory_sticks 1,
    .memory_stick_agregar ⟨4,4,"10.0.0.2",8002,fun _ => 0⟩]

def inicio_prueba : Sistema := inicial 0 true (fun _ => .responde) (fun _ => .llega (fun _ => true))
def tras (accesos : List Acceso) : Sistema := accesos.foldl (fun s a => (servir a s).2) inicio_prueba

theorem accesses_flat_stale : Plano (.escribir_memoria 1 2 [1,2,3,4]) (tras accesos_prueba) :=
  accesses_flat 0 true (fun _ => .responde) (fun _ => .llega (fun _ => true)) accesos_prueba (tras accesos_prueba)
    (by decide +kernel) (run_total (fun a s => (servir a s).2) accesos_prueba inicio_prueba) (.escribir_memoria 1 2 [1,2,3,4])

/-! ## What was written is read back -/

/-- A write that succeeds lies inside memory. -/
theorem escribir_desde_dentro {dir : Nat} {origen : List UInt8} : ∀ (turnos escritos : Nat) (f : Fisica),
    tamanios f.lista_memory_sticks < 2^32 → dir + escritos < 2^32 → escritos < origen.length →
    (Sticks.escribir_desde dir origen turnos escritos f).1 = true → dir + origen.length ≤ tamanios f.lista_memory_sticks := by
  intro turnos
  induction turnos with
  | zero =>
    intro escritos f small low more done
    simp [Sticks.escribir_desde,more] at done
  | succ turnos ih =>
    intro escritos f small low more done
    unfold Sticks.escribir_desde at done
    rw [if_pos more,u32_of_lt low] at done
    by_cases inside : dir + escritos < tamanios f.lista_memory_sticks
    · obtain ⟨pre,s,post,offset,split,located,place,room⟩ := localizar_inside small inside
      have total : tamanios f.lista_memory_sticks = tamanios pre + (s.tamanio + tamanios post) := by simp [split]
      have rest : u32 (s.tamanio + 2^32 - offset) = s.tamanio - offset := by
        unfold u32
        omega
      simp only [located,rest] at done
      set count := min (origen.length - escritos) (s.tamanio - offset) with countIs
      set trozo := (origen.drop escritos).take count with trozoIs
      have sizes : tamanios (f.lista_memory_sticks.set pre.length { s with memoria := store s.memoria offset trozo }) =
          tamanios f.lista_memory_sticks := by
        apply tamanios_of_ficha
        rw [split,Places.set_split]
        simp [MemoryStick.ficha]
      by_cases last : escritos + count < origen.length
      · cases answer : f.respuestas 0 with
        | falla basura => simp [escribir_stick,answer] at done
        | responde =>
          simp only [escribir_stick,answer] at done
          split_ifs at done
          exact sizes ▸ ih (escritos + count) _ (by rw [sizes]; exact small) (by omega) last done
      · omega
    · simp [localizar_outside small (Nat.le_of_not_lt inside)] at done

theorem escrito_dentro {s : Sistema} (held : Coherente s) {w : Acceso} {dir : Nat} {origen : List UInt8}
    (writes : w.escritura = some (dir,origen)) (filled : origen ≠ []) (done : (servir w s).1 = .escrito true) :
    dir + origen.length ≤ tamanios s.sticks := by
  have some : 0 < origen.length := List.length_pos_iff.mpr filled
  cases w with
  | memory_stick_agregar a => cases writes
  | memoria_fisica_leer dir tam => cases writes
  | actualizar_memory_sticks cpu => cases writes
  | leer_memoria cpu dir tam => cases writes
  | memoria_fisica_escribir d bytes =>
    cases writes
    exact escribir_desde_dentro origen.length 0 s.km.toFisica held.pequenio d.toNat_lt some (Resultado.escrito.inj done)
  | escribir_memoria cpu d bytes =>
    cases writes
    exact ((escribir_memoria_spec (m := s.vista cpu) d.toNat origen held.pequenio (held.conoce cpu) d.toNat_lt).written
      (Resultado.escrito.inj done)).2 some

theorem respeta_parte {a : Acceso} {dir tam d n : Nat} (apart : a.Respeta dir tam) (low : dir ≤ d) (high : d + n ≤ dir + tam) :
    a.Respeta d n := by
  unfold Acceso.Respeta at apart ⊢
  cases writes : a.escritura with
  | none => trivial
  | some written =>
    rw [writes] at apart
    rcases apart with none | before | after
    · exact .inl none
    · exact .inr (.inl (before.trans low))
    · exact .inr (.inr (high.trans after))

/-- Sticks are only added. -/
theorem accede_crece (a : Acceso) {s : Sistema} (held : Coherente s) : tamanios s.sticks ≤ tamanios (servir a s).2.sticks := by
  cases a with
  | memory_stick_agregar a =>
    show _ ≤ tamanios (s.sticks ++ [_])
    rw [tamanios_append]
    exact Nat.le_add_right _ _
  | memoria_fisica_leer dir tam =>
    exact (tamanios_of_ficha (congrArg (List.map MemoryStick.ficha) (leer_sticks s.km.toFisica dir.toNat tam.toNat))).ge
  | memoria_fisica_escribir dir origen =>
    exact (tamanios_of_ficha (escribir_fichas s.km.toFisica dir.toNat origen)).ge
  | actualizar_memory_sticks cpu => exact (tamanios_of_ficha (actualizar_spec (s.vista cpu)).1.fichas).ge
  | leer_memoria cpu dir tam =>
    have kept := (leer_memoria_spec (m := s.vista cpu) dir.toNat tam.toNat held.pequenio (held.conoce cpu) dir.toNat_lt).queda
    exact (tamanios_of_ficha kept.fichas).ge
  | escribir_memoria cpu dir origen =>
    have kept := (escribir_memoria_spec (m := s.vista cpu) dir.toNat origen held.pequenio (held.conoce cpu) dir.toNat_lt).queda
    exact (tamanios_of_ficha kept.fichas).ge

/-- Bytes of the array stay while nothing is written to them. -/
theorem arreglo_deja (dir tam : Nat) {accesos : List Acceso} {s t : Sistema} (held : Coherente s)
    (inside : dir + tam ≤ tamanios s.sticks) (fits : Guarded accede Cabe accesos s)
    (apart : ∀ a ∈ accesos, a.Respeta dir tam) (reached : run accede accesos s = some t) :
    Coherente t ∧ load t.arreglo dir tam = load s.arreglo dir tam := by
  induction accesos generalizing s with
  | nil => cases reached; exact ⟨held,rfl⟩
  | cons a rest ih =>
    obtain ⟨here,later⟩ := fits
    have next := accede_coherente a s _ held here rfl
    have kept : load (servir a s).2.arreglo dir tam = load s.arreglo dir tam := by
      apply load_congr
      intro d low high
      exact (plano_de_coherente held a).deja d (by omega) (respeta_parte (apart a List.mem_cons_self) low (by omega))
    obtain ⟨heldT,same⟩ := ih next (inside.trans (accede_crece a held)) (later _ rfl)
      (fun b member => apart b (List.mem_cons_of_mem a member)) reached
    exact ⟨heldT,same.trans kept⟩

theorem load_store_part (mem : Nat → UInt8) {base other size : Nat} {bytes : List UInt8} (low : base ≤ other)
    (high : other + size ≤ base + bytes.length) :
    load (store mem base bytes) other size = (bytes.drop (other - base)).take size := by
  apply List.ext_getElem
  · simp only [load_length,List.length_take,List.length_drop]
    omega
  · intro k inside _
    rw [load_length] at inside
    simp only [load,List.getElem_map,List.getElem_range,List.getElem_take,List.getElem_drop]
    rw [show other + k = base + (other - base + k) by omega,store_inside mem (by omega)]

theorem agregar_no_escribe {w : Acceso} {dir : Nat} {origen : List UInt8} (writes : w.escritura = some (dir,origen)) (s : Sistema) :
    Cabe w s := by
  cases w with
  | memory_stick_agregar a => cases writes
  | _ => trivial

/-- What was written is what a later read finds, while nothing else writes there. -/
theorem leido_de_vuelta {s t : Sistema} (held : Coherente s) {w r : Acceso} {dir desde tam : Nat} {origen bytes : List UInt8}
    (writes : w.escritura = some (dir,origen)) (written : (servir w s).1 = .escrito true) {entre : List Acceso}
    (fits : Guarded accede Cabe entre (servir w s).2) (apart : ∀ a ∈ entre, a.Respeta dir origen.length)
    (reached : run accede entre (servir w s).2 = some t) (reads : r.lectura = some (desde,tam))
    (within : dir ≤ desde ∧ desde + tam ≤ dir + origen.length) (read : (servir r t).1 = .leido (some bytes)) :
    bytes = (origen.drop (desde - dir)).take tam := by
  have next : Coherente (servir w s).2 := accede_coherente w s _ held (agregar_no_escribe writes s) rfl
  have stored := (plano_de_coherente held w).escribe dir origen writes written
  by_cases empty : origen = []
  · subst empty
    have heldT := invariant_of_guarded accede_coherente next fits reached
    have none : tam = 0 := by
      rw [List.length_nil] at within
      omega
    rw [(plano_de_coherente heldT r).lee desde tam bytes reads read,none,load_zero,List.take_zero]
  · have inside := (escrito_dentro held writes empty written).trans (accede_crece w held)
    obtain ⟨heldT,same⟩ := arreglo_deja desde tam next (within.2.trans inside) fits
      (fun a member => respeta_parte (apart a member) within.1 within.2) reached
    calc bytes = load t.arreglo desde tam := (plano_de_coherente heldT r).lee desde tam bytes reads read
      _ = load (servir w s).2.arreglo desde tam := same
      _ = load (store s.arreglo dir origen) desde tam := by rw [stored]
      _ = (origen.drop (desde - dir)).take tam := load_store_part s.arreglo within.1 within.2

/-- After any run, a write that succeeds, by Kernel Memory or by a CPU, is what every later
    read of its range answers, whoever reads and however old its list is, as long as nothing
    else writes there. -/
theorem written_read_back (segment_max_size : Int) (allocation_best_fit : Bool) (respuestas : Nat → Respuesta) (listas : Nat → Lista)
    (antes entre : List Acceso) (w r : Acceso) (s t : Sistema) (dir : Nat) (origen : List UInt8) (desde tam : Nat) (bytes : List UInt8)
    (fits : Guarded accede Cabe antes (inicial segment_max_size allocation_best_fit respuestas listas))
    (reached : run accede antes (inicial segment_max_size allocation_best_fit respuestas listas) = some s)
    (writes : w.escritura = some (dir,origen)) (written : (servir w s).1 = .escrito true)
    (fits' : Guarded accede Cabe entre (servir w s).2) (apart : ∀ a ∈ entre, a.Respeta dir origen.length)
    (reached' : run accede entre (servir w s).2 = some t)
    (reads : r.lectura = some (desde,tam)) (within : dir ≤ desde ∧ desde + tam ≤ dir + origen.length)
    (read : (servir r t).1 = .leido (some bytes)) : bytes = (origen.drop (desde - dir)).take tam := by
  have held := invariant_of_guarded accede_coherente
    (inicial_coherente segment_max_size allocation_best_fit respuestas listas) fits reached
  exact leido_de_vuelta held writes written fits' apart reached' reads within read

/-- CPU 1, whose list has only the first stick, writes over the border, and Kernel Memory reads from there. -/
theorem written_read_back_border : [3,4] = (([1,2,3,4] : List UInt8).drop (4 - 2)).take 2 :=
  written_read_back 0 true (fun _ => .responde) (fun _ => .llega (fun _ => true)) accesos_prueba [.escribir_memoria 2 6 [9]]
    (.escribir_memoria 1 2 [1,2,3,4]) (.memoria_fisica_leer 4 2) (tras accesos_prueba)
    (tras (accesos_prueba ++ [.escribir_memoria 1 2 [1,2,3,4],.escribir_memoria 2 6 [9]])) 2 [1,2,3,4] 4 2 [3,4]
    (by decide +kernel) (run_total (fun a s => (servir a s).2) accesos_prueba inicio_prueba) rfl (by decide +kernel)
    (by decide +kernel) (by decide +kernel) rfl rfl (by decide) (by decide +kernel)

end PlugNPray.FlatAccess
