import PlugNPray.KernelMemory
import PlugNPray.Runs

/-!
Kernel Memory under its requests: one operation of a handler is one step, and the
parts of the state that the copies to and from the swap leave alone.
-/
namespace PlugNPray.Operations
open PlugNPray.Places PlugNPray.FlatMemory PlugNPray.Huecos PlugNPray.Sticks PlugNPray.Sorting PlugNPray.KernelMemory

/-- The requests that change the state, with what the environment adds to each. -/
inductive Operacion where
  | memory_stick_agregar (a : Alta)
  | contexto_crear (pid : Int) (path : String) (instrucciones : List String)
  | segmento_crear (pid id_segmento : Int) (tamanio : Nat)
  | segmento_eliminar (pid id_segmento : Int)
  | compactar (altas : Nat → List Alta)
  | proceso_suspender (pid : Int)
  | proceso_dessuspender (pid : Int)
  | proceso_liberar_memoria (pid : Int)
  | finalizar (pid : Int)
  | escribir (dir_fisica : Nat) (bytes : List UInt8)
  | swap_registrar (fd block_size swap_size : Int)
  | swap_desregistrar

def aplicar (orden : Sorter) : Operacion → Estado → Estado
  | .memory_stick_agregar a, m => KernelMemory.memory_stick_agregar a m
  | .contexto_crear pid path instrucciones, m => KernelMemory.contexto_crear pid path instrucciones m
  | .segmento_crear pid id_segmento tamanio, m => (KernelMemory.segmento_crear pid id_segmento tamanio m).2
  | .segmento_eliminar pid id_segmento, m => (KernelMemory.segmento_eliminar pid id_segmento m).2
  | .compactar altas, m => (KernelMemory.compactar orden altas m).2
  | .proceso_suspender pid, m => (KernelMemory.proceso_suspender pid m).2
  | .proceso_dessuspender pid, m => (KernelMemory.proceso_dessuspender pid m).2
  | .proceso_liberar_memoria pid, m => KernelMemory.proceso_liberar_memoria pid m
  | .finalizar pid, m => KernelMemory.finalizar pid m
  | .escribir dir_fisica bytes, m => (m.escribir dir_fisica bytes).2
  | .swap_registrar fd block_size swap_size, m => KernelMemory.swap_registrar fd block_size swap_size m
  | .swap_desregistrar, m => KernelMemory.swap_desregistrar m

/-- Every operation is always possible. -/
def paso (orden : Sorter) (op : Operacion) (m : Estado) : Option Estado := some (aplicar orden op m)

/-- What happens to Kernel Memory: a request, or a stick that leaves. -/
inductive Suceso where
  | pide (op : Operacion)
  | memory_stick_eliminar (fd : Int)

def suceder (orden : Sorter) : Suceso → Estado → Estado
  | .pide op, m => aplicar orden op m
  | .memory_stick_eliminar fd, m => KernelMemory.memory_stick_eliminar fd m

def sucede (orden : Sorter) (e : Suceso) (m : Estado) : Option Estado := some (suceder orden e m)

/-- A condition on the requests alone. -/
def al_pedir (guard : Operacion → Estado → Prop) : Suceso → Estado → Prop
  | .pide op, m => guard op m
  | .memory_stick_eliminar _, _ => True

instance (guard : Operacion → Estado → Prop) [∀ op m, Decidable (guard op m)] : ∀ e m, Decidable (al_pedir guard e m)
  | .pide op, m => inferInstanceAs (Decidable (guard op m))
  | .memory_stick_eliminar _, _ => isTrue trivial

/-! ## Contexts by place -/

theorem split_of_contexto {m : Estado} {pid : Int} {i : Nat} {c : Contexto} (found : contexto_buscar m pid = some (i,c)) :
    ∃ pre post, m.lista_contextos = pre ++ c :: post ∧ pre.length = i ∧ c.pid = pid ∧ ∀ d ∈ pre, d.pid ≠ pid := by
  obtain ⟨pre,post,split,place,hit,least⟩ := split_of_first found
  exact ⟨pre,post,split,place,by simpa using hit,fun d listed => by simpa using least d listed⟩

theorem contexto_mem {m : Estado} {pid : Int} {i : Nat} {c : Contexto} (found : contexto_buscar m pid = some (i,c)) :
    c ∈ m.lista_contextos := by
  obtain ⟨pre,post,split,_⟩ := split_of_contexto found
  rw [split]
  simp

theorem split_of_proceso_swap {m : Estado} {pid : Int} {k : Nat} {ps : ProcesoSwap}
    (found : buscar_proceso_swap m pid = some (k,ps)) : ∃ pre post, m.procesos_en_swap = pre ++ ps :: post ∧
      pre.length = k ∧ ps.pid = pid ∧ ∀ qs ∈ pre, qs.pid ≠ pid := by
  obtain ⟨pre,post,split,place,hit,least⟩ := split_of_first found
  exact ⟨pre,post,split,place,by simpa using hit,fun d listed => by simpa using least d listed⟩

theorem con_tabla_split {m : Estado} {pre post : List Contexto} {c : Contexto} (split : m.lista_contextos = pre ++ c :: post)
    (f : List Segmento → List Segmento) :
    m.con_tabla pre.length f = { m with
      lista_contextos := pre ++ { c with tabla_segmentos := f c.tabla_segmentos } :: post } := by
  simp [Estado.con_tabla,split]

theorem pids_con_tabla (m : Estado) (i : Nat) (f : List Segmento → List Segmento) :
    (m.con_tabla i f).lista_contextos.map Contexto.pid = m.lista_contextos.map Contexto.pid := by
  refine List.ext_getElem? (fun k => ?_)
  simp only [Estado.con_tabla,List.getElem?_map,List.getElem?_modify]
  cases m.lista_contextos[k]? with
  | none => rfl
  | some c =>
    by_cases here : i = k
    · simp [here]
    · simp [here]

/-- Both searches find a hole that is on the list and large enough. -/
theorem buscar_hueco_sound {m : Estado} {tamanio k : Nat} {h : Hueco} (found : buscar_hueco m tamanio = some (k,h)) :
    m.lista_huecos[k]? = some h ∧ tamanio ≤ h.tamanio := by
  unfold buscar_hueco at found
  split_ifs at found
  · exact best_fit_sound found
  · exact worst_fit_sound found

/-- The hole found is a smallest or a largest one, and none is found only if none is large enough. -/
theorem buscar_hueco_least (m : Estado) (tamanio : Nat) :
    (∀ k h, buscar_hueco m tamanio = some (k,h) → ∀ g ∈ m.lista_huecos, tamanio ≤ g.tamanio →
      if m.allocation_best_fit then h.tamanio ≤ g.tamanio else g.tamanio ≤ h.tamanio) ∧
    (buscar_hueco m tamanio = none → ∀ g ∈ m.lista_huecos, g.tamanio < tamanio) := by
  unfold buscar_hueco
  split_ifs
  · exact best_fit_least m.lista_huecos tamanio
  · exact worst_fit_greatest m.lista_huecos tamanio

theorem contexto_none {m : Estado} {pid : Int} :
    contexto_buscar m pid = none ↔ pid ∉ m.lista_contextos.map Contexto.pid := by
  rw [contexto_buscar,first_none]
  simp

theorem pids_liberar (pid : Int) (m : Estado) :
    (proceso_liberar_memoria pid m).lista_contextos.map Contexto.pid = m.lista_contextos.map Contexto.pid := by
  have swap : ∀ n : Estado, (liberar_swap pid n).lista_contextos = n.lista_contextos := by
    intro n
    unfold liberar_swap
    cases buscar_proceso_swap n pid <;> rfl
  rw [proceso_liberar_memoria,swap,liberar_ram]
  cases contexto_buscar m pid with
  | none => rfl
  | some ic => exact pids_con_tabla _ _ _

/-- A process that is finalized has no context any more, if it had one. -/
theorem pids_finalizar (pid : Int) (m : Estado) :
    (finalizar pid m).lista_contextos.map Contexto.pid = (m.lista_contextos.map Contexto.pid).erase pid := by
  rw [← pids_liberar pid m,finalizar]
  generalize proceso_liberar_memoria pid m = n
  unfold contexto_eliminar
  cases found : contexto_buscar n pid with
  | none => exact (List.erase_of_not_mem (contexto_none.mp found)).symm
  | some ic =>
    obtain ⟨i,c⟩ := ic
    obtain ⟨pre,post,split,rfl,mine,others⟩ := split_of_contexto found
    exact map_eraseIdx split mine others

/-- What Kernel Memory has of the swap: the connection, the bitmap, the saved processes, and the file behind. -/
structure Registro where
  fd_swap : Int
  swap_block_size : Int
  swap_total_bloques : Int
  swap_bloques_usados : List Bool
  procesos_en_swap : List ProcesoSwap
  archivo_swap : Nat → UInt8

def Estado.registro (m : Estado) : Registro :=
  ⟨m.fd_swap,m.swap_block_size,m.swap_total_bloques,m.swap_bloques_usados,m.procesos_en_swap,m.archivo_swap⟩

/-! ## What the copies leave alone -/

/-- The swap's bitmap and file, the answers still to come and the bytes behind the
    sticks; everything else of Kernel Memory is its map of memory. -/
def Estado.con_datos (m : Estado) (f : Fisica) (usados : List Bool) (archivo : Nat → UInt8) : Estado :=
  { m with toFisica := f, swap_bloques_usados := usados, archivo_swap := archivo }

/-- Only the answers, the bitmap and the file of the swap may differ. -/
def SoloSwap (m m' : Estado) : Prop :=
  ∃ respuestas usados archivo, m' = Estado.con_datos m ⟨m.lista_memory_sticks,respuestas⟩ usados archivo

theorem solo_swap_refl (m : Estado) : SoloSwap m m := ⟨m.respuestas,m.swap_bloques_usados,m.archivo_swap,rfl⟩
theorem solo_swap_trans {m m' m'' : Estado} (first : SoloSwap m m') (second : SoloSwap m' m'') : SoloSwap m m'' := by
  obtain ⟨r,u,a,rfl⟩ := first
  obtain ⟨r',u',a',rfl⟩ := second
  exact ⟨r',u',a',rfl⟩

theorem solo_swap_desmarcar (m : Estado) (bloques : List Nat) : SoloSwap m (m.desmarcar bloques) :=
  ⟨m.respuestas,_,m.archivo_swap,rfl⟩

theorem solo_swap_escribir_bloque (b : Nat) (contenido : List UInt8) (m : Estado) :
    SoloSwap m (swap_escribir_bloque b contenido m).2 := by
  unfold swap_escribir_bloque
  cases m.respuestas 0 with
  | falla basura => exact ⟨_,_,_,rfl⟩
  | responde => exact ⟨_,_,_,rfl⟩

theorem solo_swap_leer (m : Estado) (dir tam : Nat) : SoloSwap m (m.leer dir tam).2 := by
  refine ⟨(m.leer dir tam).2.respuestas,m.swap_bloques_usados,m.archivo_swap,?_⟩
  have same := leer_sticks m.toFisica dir tam
  simp [Estado.leer,Estado.con_datos,← same]

theorem solo_swap_tomar (buffer : List UInt8) (cantidad : Int) :
    ∀ (candidatos tomados : List Nat) (m : Estado), SoloSwap m (tomar_bloques buffer cantidad candidatos tomados m).2.2 := by
  intro candidatos
  induction candidatos with
  | nil => intro tomados m; exact solo_swap_refl m
  | cons b resto ih =>
    intro tomados m
    unfold tomar_bloques
    split_ifs with more used
    · exact ih tomados m
    · set marcado : Estado := { m with swap_bloques_usados := m.swap_bloques_usados.set b true }
      have marked : SoloSwap m marcado := ⟨m.respuestas,_,m.archivo_swap,rfl⟩
      have written := solo_swap_escribir_bloque b ((buffer.drop (tomados.length * marcado.bloque)).take marcado.bloque) marcado
      dsimp only
      generalize swap_escribir_bloque b ((buffer.drop (tomados.length * marcado.bloque)).take marcado.bloque) marcado = r
        at written ⊢
      obtain ⟨_ | _,m'⟩ := r
      · exact solo_swap_trans marked written
      · exact solo_swap_trans marked (solo_swap_trans written (ih (tomados ++ [b]) m'))
    · exact solo_swap_refl m

theorem solo_swap_copiar : ∀ (tabla : List Segmento) (copiados : List SegmentoSwap) (m : Estado),
    SoloSwap m (copiar_segmentos tabla copiados m).2.2 := by
  intro tabla
  induction tabla with
  | nil => intro copiados m; exact solo_swap_refl m
  | cons seg resto ih =>
    intro copiados m
    have read := solo_swap_leer m seg.base seg.limite
    unfold copiar_segmentos
    generalize int32 (bloques_de m seg.limite) = cantidad
    generalize m.leer seg.base seg.limite = r at read ⊢
    obtain ⟨leidos,m'⟩ := r
    by_cases negative : cantidad < 0
    · simp only [negative,if_true]
      exact ⟨_,_,_,rfl⟩
    · simp only [negative,if_false]
      cases leidos with
      | none => exact read
      | some leidos =>
        simp only
        generalize leidos ++ List.replicate (cantidad.toNat * m'.bloque - leidos.length) 0 = buffer
        have taken := solo_swap_tomar buffer cantidad (List.range m'.swap_total_bloques.toNat) [] m'
        generalize tomar_bloques buffer cantidad (List.range m'.swap_total_bloques.toNat) [] m' = t at taken ⊢
        obtain ⟨copiado,bloques,m''⟩ := t
        cases copiado with
        | false => exact solo_swap_trans read (solo_swap_trans taken (solo_swap_desmarcar m'' bloques))
        | true => exact solo_swap_trans read (solo_swap_trans taken (ih _ m''))

/-- Reading blocks takes answers and marks the blocks free, read or not. -/
theorem leer_bloques_frame : ∀ (bloques : List Nat) (buffer : List UInt8) (m : Estado), ∃ respuestas,
    (leer_bloques bloques buffer m).2 =
      Estado.con_datos m ⟨m.lista_memory_sticks,respuestas⟩ (m.desmarcar bloques).swap_bloques_usados m.archivo_swap := by
  intro bloques
  induction bloques with
  | nil => intro buffer m; exact ⟨m.respuestas,rfl⟩
  | cons b resto ih =>
    intro buffer m
    have read : ∃ respuestas, (swap_leer_bloque b m).2 = { m with respuestas := respuestas } := by
      unfold swap_leer_bloque
      split_ifs
      · exact ⟨m.respuestas,rfl⟩
      · cases m.respuestas 0 with
        | falla basura => exact ⟨_,rfl⟩
        | responde => exact ⟨_,rfl⟩
    obtain ⟨respuestas,read⟩ := read
    obtain ⟨respuestas',rest⟩ := ih (buffer ++ (swap_leer_bloque b m).1) ((swap_leer_bloque b m).2.desmarcar [b])
    refine ⟨respuestas',?_⟩
    simp only [leer_bloques]
    rw [rest,read]
    rfl

/-- A physical write keeps the map: the records of the sticks and everything else. -/
theorem escribir_frame (m : Estado) (dir : Nat) (bytes : List UInt8) : ∃ f : Fisica,
    f.lista_memory_sticks.map MemoryStick.ficha = m.lista_memory_sticks.map MemoryStick.ficha ∧
      (m.escribir dir bytes).2 = Estado.con_datos m f m.swap_bloques_usados m.archivo_swap :=
  ⟨(memoria_fisica_escribir m.toFisica dir bytes).2,escribir_fichas m.toFisica dir bytes,rfl⟩

/-- The entry that a placed segment of the swap gets in the table. -/
def a_segmento (u : SegmentoSwap × Nat) : Segmento := ⟨u.1.id,u.2,u.1.limite⟩

@[simp] theorem con_tabla_con_tabla (m : Estado) (i : Nat) (f g : List Segmento → List Segmento) :
    (m.con_tabla i f).con_tabla i g = m.con_tabla i (fun tabla => g (f tabla)) := by
  simp only [Estado.con_tabla,List.modify_modify_eq]
  rfl
@[simp] theorem con_tabla_id (m : Estado) (i : Nat) : m.con_tabla i (fun tabla => tabla) = m := by
  have same : m.lista_contextos.modify i (fun c => c) = m.lista_contextos := List.modify_id i m.lista_contextos
  simp only [Estado.con_tabla,same]

/-- The data of one segment go back to the sticks. -/
theorem restaurar_datos (ss : SegmentoSwap) (base : Nat) (m : Estado) : ∃ f : Fisica,
    f.lista_memory_sticks.map MemoryStick.ficha = m.lista_memory_sticks.map MemoryStick.ficha ∧
      ((leer_bloques ss.bloques [] m).2.escribir base ((leer_bloques ss.bloques [] m).1.take ss.limite)).2 =
        Estado.con_datos m f (m.desmarcar ss.bloques).swap_bloques_usados m.archivo_swap := by
  obtain ⟨respuestas,read⟩ := leer_bloques_frame ss.bloques [] m
  obtain ⟨f,fichas,written⟩ := escribir_frame (leer_bloques ss.bloques [] m).2 base
    ((leer_bloques ss.bloques [] m).1.take ss.limite)
  rw [read] at fichas
  refine ⟨f,fichas,written.trans ?_⟩
  rw [read]
  rfl

theorem con_tabla_entries (m : Estado) (i : Nat) (u : SegmentoSwap × Nat) (resto : List (SegmentoSwap × Nat)) :
    (m.con_tabla i (fun tabla => tabla ++ [a_segmento u])).con_tabla i (fun tabla => tabla ++ resto.map a_segmento) =
      m.con_tabla i (fun tabla => tabla ++ (u :: resto).map a_segmento) := by
  simp

/-- The data go back to the sticks, the table gets the placed segments, in order, and their
    blocks are marked free. -/
theorem restaurar_frame (i : Nat) : ∀ (ubicados : List (SegmentoSwap × Nat)) (m : Estado),
    ∃ f : Fisica, f.lista_memory_sticks.map MemoryStick.ficha = m.lista_memory_sticks.map MemoryStick.ficha ∧
      restaurar i ubicados m = (Estado.con_datos m f (m.desmarcar (ubicados.flatMap (fun u => u.1.bloques))).swap_bloques_usados
        m.archivo_swap).con_tabla i (fun tabla => tabla ++ ubicados.map a_segmento) := by
  intro ubicados
  induction ubicados with
  | nil =>
    intro m
    refine ⟨m.toFisica,rfl,?_⟩
    simp only [restaurar,List.map_nil,List.append_nil,con_tabla_id]
    rfl
  | cons u resto ih =>
    intro m
    obtain ⟨ss,base⟩ := u
    obtain ⟨f,fichas,moved⟩ := restaurar_datos ss base m
    simp only [restaurar,moved]
    obtain ⟨g,fichas',rest⟩ := ih ((Estado.con_datos m f (m.desmarcar ss.bloques).swap_bloques_usados m.archivo_swap).con_tabla i
      (fun tabla => tabla ++ [⟨ss.id,base,ss.limite⟩]))
    have marks : (m.desmarcar (((ss,base) :: resto).flatMap (fun u => u.1.bloques))).swap_bloques_usados =
        ((m.desmarcar ss.bloques).desmarcar (resto.flatMap (fun u => u.1.bloques))).swap_bloques_usados := by
      simp [Estado.desmarcar,List.foldl_append]
    refine ⟨g,fichas'.trans fichas,rest.trans ?_⟩
    rw [marks]
    exact con_tabla_entries (Estado.con_datos m g _ m.archivo_swap) i (ss,base) resto

end PlugNPray.Operations
