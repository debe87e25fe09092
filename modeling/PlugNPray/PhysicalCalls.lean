import PlugNPray.FlatAccess
import PlugNPray.Loops

/-!
The four calls that read and write physical memory, two of Kernel Memory and two of a CPU, as
the loops that they are, with no bound on their turns: each ends, and a call that returns true
has read or written exactly its range of the one array.
-/
namespace PlugNPray.PhysicalCalls
open PlugNPray.Runs PlugNPray.Loops PlugNPray.Places PlugNPray.FlatMemory PlugNPray.Huecos PlugNPray.Sticks PlugNPray.KernelMemory
open PlugNPray.CpuMemory PlugNPray.FlatAccess

/-! ## One turn of each loop -/

def turno_fisica_leer (dir_global tamanio : Nat) :
    List UInt8 × Fisica → (Option (List UInt8) × Fisica) ⊕ (List UInt8 × Fisica)
  | (leidos,f) =>
    if leidos.length < tamanio then
      match memory_stick_localizar f.lista_memory_sticks (u32 (dir_global + leidos.length)) with
      | none => .inl (none,f)
      | some (_,stick,offset) =>
        match leer_stick f stick offset (min (tamanio - leidos.length) (u32 (stick.tamanio + 2^32 - offset))) with
        | (none,f) => .inl (none,f)
        | (some bytes,f) => .inr (leidos ++ bytes,f)
    else .inl (some leidos,f)

def turno_fisica_escribir (dir_global : Nat) (origen : List UInt8) : Nat × Fisica → (Bool × Fisica) ⊕ (Nat × Fisica)
  | (escritos,f) =>
    if escritos < origen.length then
      match memory_stick_localizar f.lista_memory_sticks (u32 (dir_global + escritos)) with
      | none => .inl (false,f)
      | some (i,stick,offset) =>
        let a_escribir := min (origen.length - escritos) (u32 (stick.tamanio + 2^32 - offset))
        match escribir_stick f i stick offset ((origen.drop escritos).take a_escribir) with
        | (false,f) => .inl (false,f)
        | (true,f) => .inr (escritos + a_escribir,f)
    else .inl (true,f)

def turno_leer_memoria (direccion_fisica tamanio : Nat) :
    List UInt8 × MemoriaCpu → (Option (List UInt8) × MemoriaCpu) ⊕ (List UInt8 × MemoriaCpu)
  | (leidos,m) =>
    if leidos.length < tamanio then
      match buscar_o_refrescar_stick (u32 (direccion_fisica + leidos.length)) m with
      | (none,m) => .inl (none,m)
      | (some (stick,offset),m) =>
        match pedir_lectura stick.socket offset (min (tamanio - leidos.length) (u32 (stick.tamanio + 2^32 - offset))) m with
        | (none,m) => .inl (none,m)
        | (some bytes,m) => .inr (leidos ++ bytes,m)
    else .inl (some leidos,m)

def turno_escribir_memoria (direccion_fisica : Nat) (origen : List UInt8) :
    Nat × MemoriaCpu → (Bool × MemoriaCpu) ⊕ (Nat × MemoriaCpu)
  | (escritos,m) =>
    if escritos < origen.length then
      match buscar_o_refrescar_stick (u32 (direccion_fisica + escritos)) m with
      | (none,m) => .inl (false,m)
      | (some (stick,offset),m) =>
        let a_escribir := min (origen.length - escritos) (u32 (stick.tamanio + 2^32 - offset))
        match pedir_escritura stick.socket offset ((origen.drop escritos).take a_escribir) m with
        | (false,m) => .inl (false,m)
        | (true,m) => .inr (escritos + a_escribir,m)
    else .inl (true,m)

/-! ## Every turn moves at least one byte -/

theorem resto_del_stick {tamanio offset : Nat} (inside : offset < tamanio) (small : tamanio < 2^32) :
    u32 (tamanio + 2^32 - offset) = tamanio - offset := by
  unfold u32
  omega

section Fisica
variable {dir tam : Nat} {origen : List UInt8} {f f' : Fisica} (small : tamanios f.lista_memory_sticks < 2^32)
include small

theorem fisica_leer_avanza {leidos leidos' : List UInt8} (low : dir + leidos.length < 2^32)
    (moved : turno_fisica_leer dir tam (leidos,f) = .inr (leidos',f')) :
    tamanios f'.lista_memory_sticks < 2^32 ∧ dir + leidos'.length < 2^32 ∧ leidos.length < tam ∧ leidos.length < leidos'.length := by
  simp only [turno_fisica_leer,u32_of_lt low] at moved
  split_ifs at moved with more
  by_cases inside : dir + leidos.length < tamanios f.lista_memory_sticks
  · obtain ⟨pre,s,post,offset,split,located,place,room⟩ := localizar_inside small inside
    have total : tamanios f.lista_memory_sticks = tamanios pre + (s.tamanio + tamanios post) := by simp [split]
    have narrow : s.tamanio < 2^32 := by omega
    simp only [located,resto_del_stick room narrow,leer_stick] at moved
    cases answer : f.respuestas 0 with
    | falla basura =>
      rw [answer] at moved
      cases moved
    | responde =>
      simp only [answer] at moved
      split_ifs at moved
      cases moved
      simp only [List.length_append,load_length]
      omega
  · rw [localizar_outside small (Nat.le_of_not_lt inside)] at moved
    cases moved

theorem fisica_escribir_avanza {escritos escritos' : Nat} (low : dir + escritos < 2^32)
    (moved : turno_fisica_escribir dir origen (escritos,f) = .inr (escritos',f')) :
    tamanios f'.lista_memory_sticks < 2^32 ∧ dir + escritos' < 2^32 ∧ escritos < origen.length ∧ escritos < escritos' := by
  simp only [turno_fisica_escribir,u32_of_lt low] at moved
  split_ifs at moved with more
  by_cases inside : dir + escritos < tamanios f.lista_memory_sticks
  · obtain ⟨pre,s,post,offset,split,located,place,room⟩ := localizar_inside small inside
    have total : tamanios f.lista_memory_sticks = tamanios pre + (s.tamanio + tamanios post) := by simp [split]
    have narrow : s.tamanio < 2^32 := by omega
    simp only [located,resto_del_stick room narrow,escribir_stick] at moved
    cases answer : f.respuestas 0 with
    | falla basura =>
      rw [answer] at moved
      cases moved
    | responde =>
      simp only [answer] at moved
      split_ifs at moved
      cases moved
      set trozo := (origen.drop escritos).take (min (origen.length - escritos) (s.tamanio - offset))
      have sizes : tamanios (f.lista_memory_sticks.set pre.length { s with memoria := store s.memoria offset trozo }) =
          tamanios f.lista_memory_sticks := by
        apply tamanios_of_ficha
        rw [split,set_split]
        simp [MemoryStick.ficha]
      rw [sizes]
      omega
  · rw [localizar_outside small (Nat.le_of_not_lt inside)] at moved
    cases moved

end Fisica

section Cpu
variable {dir tam : Nat} {origen : List UInt8} {m m' : MemoriaCpu} (small : tamanios m.lista_memory_sticks < 2^32)
  (known : Conoce m.lista_memory_sticks m.sticks_cpu)
include small known

theorem leer_memoria_avanza {leidos leidos' : List UInt8} (low : dir + leidos.length < 2^32)
    (moved : turno_leer_memoria dir tam (leidos,m) = .inr (leidos',m')) :
    (tamanios m'.lista_memory_sticks < 2^32 ∧ Conoce m'.lista_memory_sticks m'.sticks_cpu) ∧ dir + leidos'.length < 2^32 ∧
      leidos.length < tam ∧ leidos.length < leidos'.length := by
  simp only [turno_leer_memoria,u32_of_lt low] at moved
  split_ifs at moved with more
  obtain ⟨kept,same,where_,-⟩ := refrescar_spec (dir + leidos.length) small known
  generalize buscar_o_refrescar_stick (dir + leidos.length) m = found at kept same where_ moved
  obtain ⟨hit,n⟩ := found
  cases hit with
  | none => cases moved
  | some hit =>
    obtain ⟨c,offset⟩ := hit
    obtain ⟨pre,s,post,split,place,size,address,inside⟩ := where_ c offset rfl
    have total : tamanios m.lista_memory_sticks = tamanios pre + (s.tamanio + tamanios post) := by simp [split]
    have narrow : s.tamanio < 2^32 := by omega
    have list : n.lista_memory_sticks = m.lista_memory_sticks := congrArg Fisica.lista_memory_sticks same
    simp only [place,size,resto_del_stick inside narrow] at moved
    obtain ⟨kept',list',exact',-⟩ := lectura_spec (list.trans split) offset (min (tam - leidos.length) (s.tamanio - offset))
    generalize pedir_lectura pre.length offset (min (tam - leidos.length) (s.tamanio - offset)) n = got at kept' list' exact' moved
    obtain ⟨bytes,n'⟩ := got
    have known' := kept'.conoce (by rw [list]; exact small) (kept.conoce small known)
    cases bytes with
    | none => cases moved
    | some bytes =>
      cases moved
      have all : bytes.length = min (tam - leidos.length) (s.tamanio - offset) := by rw [exact' bytes rfl,load_length]
      refine ⟨⟨?_,known'⟩,?_⟩
      · rw [list',list]
        exact small
      · rw [List.length_append,all]
        omega

theorem escribir_memoria_avanza {escritos escritos' : Nat} (low : dir + escritos < 2^32)
    (moved : turno_escribir_memoria dir origen (escritos,m) = .inr (escritos',m')) :
    (tamanios m'.lista_memory_sticks < 2^32 ∧ Conoce m'.lista_memory_sticks m'.sticks_cpu) ∧ dir + escritos' < 2^32 ∧
      escritos < origen.length ∧ escritos < escritos' := by
  simp only [turno_escribir_memoria,u32_of_lt low] at moved
  split_ifs at moved with more
  obtain ⟨kept,same,where_,-⟩ := refrescar_spec (dir + escritos) small known
  generalize buscar_o_refrescar_stick (dir + escritos) m = found at kept same where_ moved
  obtain ⟨hit,n⟩ := found
  cases hit with
  | none => cases moved
  | some hit =>
    obtain ⟨c,offset⟩ := hit
    obtain ⟨pre,s,post,split,place,size,address,inside⟩ := where_ c offset rfl
    have total : tamanios m.lista_memory_sticks = tamanios pre + (s.tamanio + tamanios post) := by simp [split]
    have narrow : s.tamanio < 2^32 := by omega
    have list : n.lista_memory_sticks = m.lista_memory_sticks := congrArg Fisica.lista_memory_sticks same
    simp only [place,size,resto_del_stick inside narrow] at moved
    set trozo := (origen.drop escritos).take (min (origen.length - escritos) (s.tamanio - offset)) with trozoIs
    have len : trozo.length = min (origen.length - escritos) (s.tamanio - offset) := by
      rw [trozoIs,List.length_take,List.length_drop]
      omega
    obtain ⟨kept',-⟩ := escritura_spec (list.trans split) offset trozo (by omega)
    generalize pedir_escritura pre.length offset trozo n = got at kept' moved
    obtain ⟨ok,n'⟩ := got
    have known' := kept'.conoce (by rw [list]; exact small) (kept.conoce small known)
    cases ok with
    | false => cases moved
    | true =>
      cases moved
      refine ⟨⟨?_,known'⟩,by omega⟩
      rw [kept'.tamanios,list]
      exact small

end Cpu

/-! ## The loops end -/

theorem fisica_leer_termina {f : Fisica} (dir tam : Nat) (small : tamanios f.lista_memory_sticks < 2^32) (low : dir < 2^32) :
    Ends (turno_fisica_leer dir tam) ([],f) (memoria_fisica_leer f dir tam) := by
  have counted := @ends_of_counted _ _ (turno_fisica_leer dir tam) (fun n s => Sticks.leer_desde dir tam n s.1 s.2)
    (fun s => tamanios s.2.lista_memory_sticks < 2^32 ∧ dir + s.1.length < 2^32) (fun s => tam - s.1.length)
  refine counted ?_ ?_ ?_ tam ([],f) ⟨small,low⟩ (Nat.sub_le _ _)
  · rintro ⟨leidos,f⟩ (done : tam - leidos.length = 0)
    have full : ¬ leidos.length < tam := by omega
    simp only [turno_fisica_leer,Sticks.leer_desde,if_neg full]
  · rintro n ⟨leidos,f⟩
    show Sticks.leer_desde dir tam (n + 1) leidos f = _
    conv_lhs => unfold Sticks.leer_desde
    unfold turno_fisica_leer
    by_cases more : leidos.length < tam
    · simp only [if_pos more]
      rcases memory_stick_localizar f.lista_memory_sticks (u32 (dir + leidos.length)) with _ | ⟨i,stick,offset⟩
      · rfl
      · simp only
        rcases leer_stick f stick offset _ with ⟨_ | bytes,g⟩
        · rfl
        · rfl
    · simp only [if_neg more]
      rfl
  · rintro ⟨leidos,f⟩ ⟨leidos',f'⟩ ⟨small,low⟩ moved
    obtain ⟨small',low',more,longer⟩ := fisica_leer_avanza small low moved
    exact ⟨⟨small',low'⟩,Nat.sub_lt_sub_left more longer⟩

theorem fisica_escribir_termina {f : Fisica} (dir : Nat) (origen : List UInt8) (small : tamanios f.lista_memory_sticks < 2^32)
    (low : dir < 2^32) : Ends (turno_fisica_escribir dir origen) (0,f) (memoria_fisica_escribir f dir origen) := by
  have counted := @ends_of_counted _ _ (turno_fisica_escribir dir origen) (fun n s => Sticks.escribir_desde dir origen n s.1 s.2)
    (fun s => tamanios s.2.lista_memory_sticks < 2^32 ∧ dir + s.1 < 2^32) (fun s => origen.length - s.1)
  refine counted ?_ ?_ ?_ origen.length (0,f) ⟨small,low⟩ (Nat.sub_le _ _)
  · rintro ⟨escritos,f⟩ (done : origen.length - escritos = 0)
    have full : ¬ escritos < origen.length := by omega
    simp only [turno_fisica_escribir,Sticks.escribir_desde,if_neg full]
  · rintro n ⟨escritos,f⟩
    show Sticks.escribir_desde dir origen (n + 1) escritos f = _
    conv_lhs => unfold Sticks.escribir_desde
    unfold turno_fisica_escribir
    by_cases more : escritos < origen.length
    · simp only [if_pos more]
      rcases memory_stick_localizar f.lista_memory_sticks (u32 (dir + escritos)) with _ | ⟨i,stick,offset⟩
      · rfl
      · simp only
        rcases escribir_stick f i stick offset _ with ⟨_ | _,g⟩
        · rfl
        · rfl
    · simp only [if_neg more]
      rfl
  · rintro ⟨escritos,f⟩ ⟨escritos',f'⟩ ⟨small,low⟩ moved
    obtain ⟨small',low',more,longer⟩ := fisica_escribir_avanza small low moved
    exact ⟨⟨small',low'⟩,Nat.sub_lt_sub_left more longer⟩

theorem leer_memoria_termina {m : MemoriaCpu} (dir tam : Nat) (small : tamanios m.lista_memory_sticks < 2^32)
    (known : Conoce m.lista_memory_sticks m.sticks_cpu) (low : dir < 2^32) :
    Ends (turno_leer_memoria dir tam) ([],m) (CpuMemory.leer_desde dir tam tam [] m) := by
  have counted := @ends_of_counted _ _ (turno_leer_memoria dir tam) (fun n s => CpuMemory.leer_desde dir tam n s.1 s.2)
    (fun s => (tamanios s.2.lista_memory_sticks < 2^32 ∧ Conoce s.2.lista_memory_sticks s.2.sticks_cpu) ∧ dir + s.1.length < 2^32)
    (fun s => tam - s.1.length)
  refine counted ?_ ?_ ?_ tam ([],m) ⟨⟨small,known⟩,low⟩ (Nat.sub_le _ _)
  · rintro ⟨leidos,m⟩ (done : tam - leidos.length = 0)
    have full : ¬ leidos.length < tam := by omega
    simp only [turno_leer_memoria,CpuMemory.leer_desde,if_neg full]
  · rintro n ⟨leidos,m⟩
    show CpuMemory.leer_desde dir tam (n + 1) leidos m = _
    conv_lhs => unfold CpuMemory.leer_desde
    unfold turno_leer_memoria
    by_cases more : leidos.length < tam
    · simp only [if_pos more]
      rcases buscar_o_refrescar_stick (u32 (dir + leidos.length)) m with ⟨_ | ⟨stick,offset⟩,m'⟩
      · rfl
      · simp only
        rcases pedir_lectura stick.socket offset _ m' with ⟨_ | bytes,m''⟩
        · rfl
        · rfl
    · simp only [if_neg more]
      rfl
  · rintro ⟨leidos,m⟩ ⟨leidos',m'⟩ ⟨⟨small,known⟩,low⟩ moved
    obtain ⟨kept,low',more,longer⟩ := leer_memoria_avanza small known low moved
    exact ⟨⟨kept,low'⟩,Nat.sub_lt_sub_left more longer⟩

theorem escribir_memoria_termina {m : MemoriaCpu} (dir : Nat) (origen : List UInt8) (small : tamanios m.lista_memory_sticks < 2^32)
    (known : Conoce m.lista_memory_sticks m.sticks_cpu) (low : dir < 2^32) :
    Ends (turno_escribir_memoria dir origen) (0,m) (CpuMemory.escribir_desde dir origen origen.length 0 m) := by
  have counted := @ends_of_counted _ _ (turno_escribir_memoria dir origen) (fun n s => CpuMemory.escribir_desde dir origen n s.1 s.2)
    (fun s => (tamanios s.2.lista_memory_sticks < 2^32 ∧ Conoce s.2.lista_memory_sticks s.2.sticks_cpu) ∧ dir + s.1 < 2^32)
    (fun s => origen.length - s.1)
  refine counted ?_ ?_ ?_ origen.length (0,m) ⟨⟨small,known⟩,low⟩ (Nat.sub_le _ _)
  · rintro ⟨escritos,m⟩ (done : origen.length - escritos = 0)
    have full : ¬ escritos < origen.length := by omega
    simp only [turno_escribir_memoria,CpuMemory.escribir_desde,if_neg full]
  · rintro n ⟨escritos,m⟩
    show CpuMemory.escribir_desde dir origen (n + 1) escritos m = _
    conv_lhs => unfold CpuMemory.escribir_desde
    unfold turno_escribir_memoria
    by_cases more : escritos < origen.length
    · simp only [if_pos more]
      rcases buscar_o_refrescar_stick (u32 (dir + escritos)) m with ⟨_ | ⟨stick,offset⟩,m'⟩
      · rfl
      · simp only
        rcases pedir_escritura stick.socket offset _ m' with ⟨_ | _,m''⟩
        · rfl
        · rfl
    · simp only [if_neg more]
      rfl
  · rintro ⟨escritos,m⟩ ⟨escritos',m'⟩ ⟨⟨small,known⟩,low⟩ moved
    obtain ⟨kept,low',more,longer⟩ := escribir_memoria_avanza small known low moved
    exact ⟨⟨kept,low'⟩,Nat.sub_lt_sub_left more longer⟩

/-! ## The calls -/

/-- The loop of the call ends, and with what the call answers. A call of a CPU for no bytes, or
    one that cannot get a list of sticks, has no loop. -/
def Termina : Acceso → Sistema → Prop
  | .memoria_fisica_leer dir tam, s =>
    Ends (turno_fisica_leer dir.toNat tam.toNat) ([],s.km.toFisica) (memoria_fisica_leer s.km.toFisica dir.toNat tam.toNat)
  | .memoria_fisica_escribir dir origen, s =>
    Ends (turno_fisica_escribir dir.toNat origen) (0,s.km.toFisica) (memoria_fisica_escribir s.km.toFisica dir.toNat origen)
  | .leer_memoria cpu dir tam, s => tam ≠ 0 → ∀ m, preparar (s.vista cpu) = (true,m) →
    Ends (turno_leer_memoria dir.toNat tam.toNat) ([],m) (CpuMemory.leer_memoria dir.toNat tam.toNat (s.vista cpu))
  | .escribir_memoria cpu dir origen, s => origen ≠ [] → ∀ m, preparar (s.vista cpu) = (true,m) →
    Ends (turno_escribir_memoria dir.toNat origen) (0,m) (CpuMemory.escribir_memoria dir.toNat origen (s.vista cpu))
  | .memory_stick_agregar _, _ | .actualizar_memory_sticks _, _ => True

/-- A call on the one array: it ends; when it returns true, its range is in memory and exactly its
    bytes were read or written; Kernel Memory never fails inside memory while the sticks answer;
    and what was written is what anybody reads, until it is written again. -/
structure Llamada (a : Acceso) (s : Sistema) : Prop where
  termina : Termina a s
  lee : ∀ dir tam bytes, a.lectura = some (dir,tam) → (servir a s).1 = .leido (some bytes) →
    bytes = load s.arreglo dir tam ∧ (0 < tam → dir + tam ≤ tamanios s.sticks) ∧ (servir a s).2.arreglo = s.arreglo
  escribe : ∀ dir origen, a.escritura = some (dir,origen) → (servir a s).1 = .escrito true →
    (servir a s).2.arreglo = store s.arreglo dir origen ∧ (origen ≠ [] → dir + origen.length ≤ tamanios s.sticks)
  nunca_falla : TodoResponde s.km.toFisica →
    (∀ dir tam, a = .memoria_fisica_leer dir tam → dir.toNat + tam.toNat ≤ s.km.memoria_total →
      ∃ bytes, (servir a s).1 = .leido (some bytes)) ∧
    ∀ dir origen, a = .memoria_fisica_escribir dir origen → dir.toNat + origen.length ≤ s.km.memoria_total →
      (servir a s).1 = .escrito true
  vuelve : ∀ dir origen, a.escritura = some (dir,origen) → (servir a s).1 = .escrito true →
    ∀ entre t, Guarded accede Cabe entre (servir a s).2 → (∀ b ∈ entre, b.Respeta dir origen.length) →
      run accede entre (servir a s).2 = some t → ∀ r desde tam bytes, r.lectura = some (desde,tam) →
        dir ≤ desde → desde + tam ≤ dir + origen.length → (servir r t).1 = .leido (some bytes) →
          bytes = (origen.drop (desde - dir)).take tam

section Llamada
variable {s : Sistema} (held : Coherente s)
include held

theorem termina_de_coherente (a : Acceso) : Termina a s := by
  have small := held.pequenio
  cases a with
  | memory_stick_agregar a => trivial
  | actualizar_memory_sticks cpu => trivial
  | memoria_fisica_leer dir tam => exact fisica_leer_termina dir.toNat tam.toNat small dir.toNat_lt
  | memoria_fisica_escribir dir origen => exact fisica_escribir_termina dir.toNat origen small dir.toNat_lt
  | leer_memoria cpu dir tam =>
    intro some_bytes m ready
    have filled : tam.toNat ≠ 0 := fun zero => some_bytes (UInt32.toNat_inj.mp zero)
    obtain ⟨kept,same,-⟩ := preparar_spec (s.vista cpu)
    rw [ready] at kept same
    have list : m.lista_memory_sticks = s.sticks := congrArg Fisica.lista_memory_sticks same
    simp only [CpuMemory.leer_memoria,if_neg filled,ready]
    apply leer_memoria_termina dir.toNat tam.toNat _ (kept.conoce small (held.conoce cpu)) dir.toNat_lt
    rw [list]
    exact small
  | escribir_memoria cpu dir origen =>
    intro filled m ready
    obtain ⟨kept,same,-⟩ := preparar_spec (s.vista cpu)
    rw [ready] at kept same
    have list : m.lista_memory_sticks = s.sticks := congrArg Fisica.lista_memory_sticks same
    simp only [CpuMemory.escribir_memoria,if_neg filled,ready]
    apply escribir_memoria_termina dir.toNat origen _ (kept.conoce small (held.conoce cpu)) dir.toNat_lt
    rw [list]
    exact small

theorem leido_dentro {a : Acceso} {dir tam : Nat} {bytes : List UInt8} (reads : a.lectura = some (dir,tam))
    (done : (servir a s).1 = .leido (some bytes)) (some_bytes : 0 < tam) : dir + tam ≤ tamanios s.sticks := by
  cases a with
  | memory_stick_agregar a => cases reads
  | actualizar_memory_sticks cpu => cases reads
  | memoria_fisica_escribir d origen => cases reads
  | escribir_memoria cpu d origen => cases reads
  | memoria_fisica_leer d n =>
    cases reads
    exact leer_dentro held.pequenio d.toNat_lt some_bytes (Resultado.leido.inj done)
  | leer_memoria cpu d n =>
    cases reads
    have spec := leer_memoria_spec (m := s.vista cpu) d.toNat n.toNat held.pequenio (held.conoce cpu) d.toNat_lt
    exact (spec.sound bytes (Resultado.leido.inj done)).2 some_bytes

/-- A read leaves every byte. -/
theorem leer_deja {a : Acceso} {dir tam : Nat} (reads : a.lectura = some (dir,tam)) : (servir a s).2.arreglo = s.arreglo := by
  cases a with
  | memory_stick_agregar a => cases reads
  | actualizar_memory_sticks cpu => cases reads
  | memoria_fisica_escribir d origen => cases reads
  | escribir_memoria cpu d origen => cases reads
  | memoria_fisica_leer d n => exact congrArg plano (leer_sticks s.km.toFisica d.toNat n.toNat)
  | leer_memoria cpu d n =>
    exact congrArg plano (leer_memoria_spec (m := s.vista cpu) d.toNat n.toNat held.pequenio (held.conoce cpu) d.toNat_lt).sticks

/-- The step lemma. -/
theorem llamada_de_coherente (a : Acceso) : Llamada a s where
  termina := termina_de_coherente held a
  lee dir tam bytes reads done :=
    ⟨(plano_de_coherente held a).lee dir tam bytes reads done,leido_dentro held reads done,leer_deja held reads⟩
  escribe dir origen writes done :=
    ⟨(plano_de_coherente held a).escribe dir origen writes done,fun filled => escrito_dentro held writes filled done⟩
  nunca_falla all := by
    constructor
    · rintro dir tam rfl fits
      obtain ⟨-,-,total⟩ := leer_spec (f := s.km.toFisica) dir.toNat tam.toNat held.pequenio dir.toNat_lt
      obtain ⟨bytes,got⟩ := Option.isSome_iff_exists.mp (total all (held.total ▸ fits))
      exact ⟨bytes,congrArg Resultado.leido got⟩
    · rintro dir origen rfl fits
      obtain ⟨-,-,-,total⟩ := escribir_spec (f := s.km.toFisica) dir.toNat origen held.pequenio dir.toNat_lt
      exact congrArg Resultado.escrito (total all (held.total ▸ fits))
  vuelve _ _ writes done _ _ fits apart reached _ _ _ _ reads low high read :=
    leido_de_vuelta held writes done fits apart reached reads ⟨low,high⟩ read

end Llamada

end PlugNPray.PhysicalCalls
