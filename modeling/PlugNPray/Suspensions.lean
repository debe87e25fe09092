import PlugNPray.SwapCopies

/-!
What a suspension and a de-suspension can do, whatever sticks and swap answer: the
ways they end and the state that each leaves.
-/
namespace PlugNPray.Suspensions
open PlugNPray.Intervals PlugNPray.Places PlugNPray.FlatMemory PlugNPray.Huecos PlugNPray.Sticks
open PlugNPray.KernelMemory PlugNPray.Operations PlugNPray.Compaction PlugNPray.Partition PlugNPray.SwapCopies

/-! ## Suspension -/

/-- Every request is answered and the segments of the process are inside memory. -/
def Sano (pid : Int) (m : Estado) : Prop :=
  TodoResponde m.toFisica ∧ tamanios m.lista_memory_sticks < 2^32 ∧ ∀ i c, contexto_buscar m pid = some (i,c) →
    ∀ seg ∈ c.tabla_segmentos, seg.base + seg.limite ≤ tamanios m.lista_memory_sticks

/-- The state after the process at place `i` left memory. -/
def suspendido (pid : Int) (m : Estado) (i : Nat) (c : Contexto) (nuevos : List SegmentoSwap) (respuestas : Nat → Respuesta)
    (usados : List Bool) (archivo : Nat → UInt8) : Estado :=
  Estado.con_tabla { Estado.con_swap m respuestas usados archivo with
    lista_huecos := liberar_tabla m.lista_huecos c.tabla_segmentos
    procesos_en_swap := m.procesos_en_swap ++ [⟨pid,nuevos⟩] } i (fun _ => [])

/-- The ways a suspension ends. -/
inductive Suspende (pid : Int) (m : Estado) : Bool → Estado → Prop
  | rechaza : Suspende pid m false m
  | ya (listed : (buscar_proceso_swap m pid).isSome) : Suspende pid m true m
  | falla (respuestas : Nat → Respuesta) (archivo : Nat → UInt8) (kept : ∀ b, m.swap_bloques_usados.getD b true = true →
      load archivo (b * m.bloque) m.bloque = load m.archivo_swap (b * m.bloque) m.bloque) (broken : ¬ Sano pid m) :
      Suspende pid m false (Estado.con_swap m respuestas m.swap_bloques_usados archivo)
  | sale {i : Nat} {c : Contexto} {nuevos : List SegmentoSwap} {respuestas : Nat → Respuesta} {usados : List Bool}
      {archivo : Nat → UInt8} (connected : m.fd_swap ≠ -1) (found : contexto_buscar m pid = some (i,c))
      (absent : ∀ ps ∈ m.procesos_en_swap, ps.pid ≠ pid) (copied : Copiado c.tabla_segmentos m nuevos usados archivo)
      (answered : Sano pid m → respuestas = m.respuestas) :
      Suspende pid m true (suspendido pid m i c nuevos respuestas usados archivo)

/-- A connected swap has blocks, a bitmap for all of them, and the counts for a process that
    is still in memory are exact. -/
structure Medible (pid : Int) (m : Estado) : Prop where
  positive : m.fd_swap ≠ -1 → 0 < m.swap_block_size
  size : m.swap_bloques_usados.length = m.swap_total_bloques.toNat
  bastan : m.fd_swap ≠ -1 → buscar_proceso_swap m pid = none → ∀ i c, contexto_buscar m pid = some (i,c) →
    Bastan m c.tabla_segmentos

/-- A suspension with exact counts ends in one of these ways. -/
theorem suspender_spec {pid : Int} {m : Estado} (medible : Medible pid m) :
    Suspende pid m (proceso_suspender pid m).1 (proceso_suspender pid m).2 := by
  unfold proceso_suspender
  by_cases off : m.fd_swap = -1
  · simp only [off,if_true]
    exact .rechaza
  simp only [off,if_false]
  have filled := medible.positive off
  have positive : 0 < m.bloque := by simp only [Estado.bloque]; omega
  cases found : contexto_buscar m pid with
  | none => exact .rechaza
  | some ic =>
    obtain ⟨i,c⟩ := ic
    simp only
    by_cases already : (buscar_proceso_swap m pid).isSome
    · rw [if_pos already]
      exact .ya already
    rw [if_neg already]
    have enough := medible.bastan off (by simpa using already) i c found
    by_cases scarce : bloques_necesarios m c.tabla_segmentos > swap_bloques_libres m
    · rw [if_pos scarce]
      exact .rechaza
    rw [if_neg scarce]
    have absent : ∀ ps ∈ m.procesos_en_swap, ps.pid ≠ pid := by
      have missing : first (fun ps => decide (ps.pid = pid)) m.procesos_en_swap = none := by
        simpa [buscar_proceso_swap] using already
      exact fun ps member => by simpa using first_none.mp missing ps member
    obtain ⟨counts,sum⟩ := enough (not_lt.mp scarce)
    rw [swap_bloques_libres_eq medible.size] at sum
    obtain ⟨ok,nuevos,respuestas,usados,archivo,copied,reserved,good,answered⟩ := copiar_spec c.tabla_segmentos [] m positive
      counts (Int.ofNat_le.mp sum)
    rw [copied]
    cases ok with
    | false =>
      have undone := reservado_undone reserved
      have same : (Estado.con_swap m respuestas usados archivo).desmarcar (([] ++ nuevos).flatMap SegmentoSwap.bloques) =
          Estado.con_swap m respuestas m.swap_bloques_usados archivo := by
        rw [← undone]
        rfl
      simp only [same]
      refine .falla respuestas archivo reserved.others (fun sound => ?_)
      cases (answered sound.1 sound.2.1 (sound.2.2 i c found)).1
    | true =>
      exact .sale off found absent (good rfl) (fun sound => (answered sound.1 sound.2.1 (sound.2.2 i c found)).2)

/-- A copied table has its entries in the swap, in order. -/
theorem copiar_names : ∀ (tabla : List Segmento) (copiados : List SegmentoSwap) (m : Estado) {copias : List SegmentoSwap} {m' : Estado},
    copiar_segmentos tabla copiados m = (true,copias,m') → copias.map (fun ss => (ss.id,ss.limite)) =
      copiados.map (fun ss => (ss.id,ss.limite)) ++ tabla.map (fun seg => (seg.id,seg.limite)) := by
  intro tabla
  induction tabla with
  | nil => intro copiados m copias m' copied; cases copied; simp
  | cons seg resto ih =>
    intro copiados m copias m' copied
    unfold copiar_segmentos at copied
    by_cases negative : int32 (bloques_de m seg.limite) < 0
    · simp only [negative,if_true] at copied
      cases copied
    · simp only [negative,if_false] at copied
      generalize m.leer seg.base seg.limite = r at copied
      obtain ⟨_ | leidos,leido⟩ := r
      · cases copied
      · simp only at copied
        generalize tomar_bloques (leidos ++ List.replicate
          ((int32 (bloques_de m seg.limite)).toNat * leido.bloque - leidos.length) 0) (int32 (bloques_de m seg.limite))
          (List.range leido.swap_total_bloques.toNat) [] leido = taken at copied
        obtain ⟨ok,bloques,tomado⟩ := taken
        cases ok with
        | false => cases copied
        | true => simpa using ih _ _ copied

/-- Whatever the counts are, either only the swap's own data change or the whole table moves. -/
theorem suspender_frame (pid : Int) (m : Estado) : SoloSwap m (proceso_suspender pid m).2 ∨
    ∃ i c nuevos respuestas usados archivo, contexto_buscar m pid = some (i,c) ∧ (∀ ps ∈ m.procesos_en_swap, ps.pid ≠ pid) ∧
      nuevos.map (fun ss => (ss.id,ss.limite)) = c.tabla_segmentos.map (fun seg => (seg.id,seg.limite)) ∧
      proceso_suspender pid m = (true,suspendido pid m i c nuevos respuestas usados archivo) := by
  unfold proceso_suspender
  by_cases off : m.fd_swap = -1
  · simp only [off,if_true]
    exact .inl (solo_swap_refl m)
  simp only [off,if_false]
  cases found : contexto_buscar m pid with
  | none => exact .inl (solo_swap_refl m)
  | some ic =>
    obtain ⟨i,c⟩ := ic
    simp only
    by_cases already : (buscar_proceso_swap m pid).isSome
    · rw [if_pos already]
      exact .inl (solo_swap_refl m)
    rw [if_neg already]
    by_cases scarce : bloques_necesarios m c.tabla_segmentos > swap_bloques_libres m
    · rw [if_pos scarce]
      exact .inl (solo_swap_refl m)
    rw [if_neg scarce]
    have absent : ∀ ps ∈ m.procesos_en_swap, ps.pid ≠ pid := by
      have missing : first (fun ps => decide (ps.pid = pid)) m.procesos_en_swap = none := by
        simpa [buscar_proceso_swap] using already
      exact fun ps member => by simpa using first_none.mp missing ps member
    have copied := solo_swap_copiar c.tabla_segmentos [] m
    cases done : copiar_segmentos c.tabla_segmentos [] m with
    | mk ok rest =>
      obtain ⟨copias,m'⟩ := rest
      rw [done] at copied
      obtain ⟨respuestas,usados,archivo,same⟩ := copied
      simp only at same
      subst same
      cases ok with
      | false => exact .inl ⟨respuestas,_,archivo,rfl⟩
      | true => exact .inr ⟨i,c,copias,respuestas,usados,archivo,rfl,absent,by simpa using copiar_names _ _ _ done,rfl⟩

/-! ## De-suspension -/

theorem ubicar_names (m : Estado) : ∀ (segmentos : List SegmentoSwap) (ubicados : List (SegmentoSwap × Nat)) (huecos : List Hueco)
    {puestos : List (SegmentoSwap × Nat)} {huecos' : List Hueco}, ubicar m segmentos ubicados huecos = (some puestos,huecos') →
    puestos.map Prod.fst = ubicados.map Prod.fst ++ segmentos := by
  intro segmentos
  induction segmentos with
  | nil => intro ubicados huecos puestos huecos' placed; cases placed; simp
  | cons ss resto ih =>
    intro ubicados huecos puestos huecos' placed
    unfold ubicar at placed
    cases found : buscar_hueco { m with lista_huecos := huecos } ss.limite with
    | none =>
      rw [found] at placed
      cases placed
    | some e =>
      rw [found] at placed
      simpa using ih _ _ placed

/-- The state after the process at place `i` came back. -/
def vuelto (m : Estado) (k i : Nat) (ps : ProcesoSwap) (puestos : List (SegmentoSwap × Nat)) (huecos : List Hueco)
    (f : Fisica) : Estado :=
  { Estado.con_tabla (Estado.con_datos { m with lista_huecos := huecos } f
      (m.desmarcar (ocupados ps.segmentos)).swap_bloques_usados m.archivo_swap) i (fun tabla => tabla ++ puestos.map a_segmento) with
    procesos_en_swap := m.procesos_en_swap.eraseIdx k }

/-- The ways a de-suspension ends. -/
inductive Vuelve (pid : Int) (m : Estado) : Bool → Estado → Prop
  | nunca (absent : buscar_proceso_swap m pid = none) : Vuelve pid m true m
  | huerfano : Vuelve pid m false m
  | no_entra (huecos : List Hueco) : Vuelve pid m false { m with lista_huecos := huecos }
  | vuelve {k i : Nat} {ps : ProcesoSwap} {c : Contexto} {puestos : List (SegmentoSwap × Nat)} {huecos : List Hueco} {f : Fisica}
      (saved : buscar_proceso_swap m pid = some (k,ps)) (found : contexto_buscar m pid = some (i,c))
      (placed : ubicar m ps.segmentos [] m.lista_huecos = (some puestos,huecos)) (names : puestos.map Prod.fst = ps.segmentos)
      (fichas : f.lista_memory_sticks.map MemoryStick.ficha = m.lista_memory_sticks.map MemoryStick.ficha) :
      Vuelve pid m true (vuelto m k i ps puestos huecos f)

theorem dessuspender_spec (pid : Int) (m : Estado) :
    Vuelve pid m (proceso_dessuspender pid m).1 (proceso_dessuspender pid m).2 := by
  unfold proceso_dessuspender
  cases saved : buscar_proceso_swap m pid with
  | none => exact .nunca saved
  | some kps =>
    obtain ⟨k,ps⟩ := kps
    cases found : contexto_buscar m pid with
    | none => exact .huerfano
    | some ic =>
      obtain ⟨i,c⟩ := ic
      simp only
      cases placed : ubicar m ps.segmentos [] m.lista_huecos with
      | mk puestos huecos =>
        cases puestos with
        | none => exact .no_entra huecos
        | some puestos =>
          have names : puestos.map Prod.fst = ps.segmentos := by simpa using ubicar_names m ps.segmentos [] m.lista_huecos placed
          obtain ⟨f,fichas,restored⟩ := restaurar_frame i puestos { m with lista_huecos := huecos }
          have blocks : puestos.flatMap (fun u => u.1.bloques) = ocupados ps.segmentos := by
            rw [← names,ocupados,List.flatMap_map]
          rw [blocks] at restored
          simp only [restored]
          exact .vuelve saved found placed names fichas

/-- When no block read and no write fails, the segments have the bytes that the swap had, if
    they were placed apart from each other. -/
theorem dessuspender_restores {pid : Int} {m : Estado} {k i : Nat} {ps : ProcesoSwap} {c : Contexto}
    {puestos : List (SegmentoSwap × Nat)} {huecos : List Hueco} (saved : buscar_proceso_swap m pid = some (k,ps))
    (found : contexto_buscar m pid = some (i,c)) (placed : ubicar m ps.segmentos [] m.lista_huecos = (some puestos,huecos))
    (names : puestos.map Prod.fst = ps.segmentos) (possible : Restaurable i puestos { m with lista_huecos := huecos })
    (small : tamanios m.lista_memory_sticks < 2^32) (full : ∀ ss ∈ ps.segmentos, ss.limite ≤ ss.bloques.length * m.bloque)
    (low : ∀ u ∈ puestos, u.2 < 2^32) (otros : List Range) (apart : ∀ a, hits (puestos.map rango_ubicado ++ otros) a ≤ 1) :
    ∃ f : Fisica, proceso_dessuspender pid m = (true,vuelto m k i ps puestos huecos f) ∧ Avanza m.respuestas f.respuestas ∧
      (∀ r ∈ otros, load (plano f.lista_memory_sticks) r.base r.size = load (plano m.lista_memory_sticks) r.base r.size) ∧
      (puestos.map a_segmento).map (contenido (plano f.lista_memory_sticks)) =
        ps.segmentos.map (contenido_swap m.bloque m.archivo_swap) := by
  obtain ⟨f,done,later,_,others,data⟩ := restaurar_spec i puestos otros { m with lista_huecos := huecos } possible small
    (fun u member => full u.1 (names ▸ List.mem_map_of_mem member)) low apart
  refine ⟨f,?_,later,others,data.trans ?_⟩
  · rw [names] at done
    simp only [proceso_dessuspender,saved,found,placed,done]
    rfl
  · rw [← names,List.map_map]
    rfl

end PlugNPray.Suspensions
