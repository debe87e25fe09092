import PlugNPray.Suspensions

/-!
Every base that Kernel Memory records is a 32-bit number, whatever the requests and
whatever sticks and swap answer.
-/
namespace PlugNPray.Addresses
open PlugNPray.Runs PlugNPray.Places PlugNPray.Huecos PlugNPray.Sticks PlugNPray.Sorting PlugNPray.KernelMemory
open PlugNPray.Operations PlugNPray.Compaction PlugNPray.SwapCopies PlugNPray.Suspensions

def Bajos (huecos : List Hueco) : Prop := ∀ h ∈ huecos, h.base < 2^32

structure Direcciones (m : Estado) : Prop where
  total : m.memoria_total < 2^32
  huecos : Bajos m.lista_huecos
  segmentos : ∀ c ∈ m.lista_contextos, ∀ s ∈ c.tabla_segmentos, s.base < 2^32

theorem u32_lt (n : Nat) : u32 n < 2^32 := Nat.mod_lt _ (by decide)

/-! ## The free list -/

theorem bajos_extender {huecos : List Hueco} (low : Bajos huecos) {base : Nat} (start : base < 2^32) (bytes : Nat) :
    Bajos (huecos_extender huecos base bytes) := by
  intro h member
  unfold huecos_extender at member
  cases last : huecos.getLast? with
  | none =>
    rw [last] at member
    rcases List.mem_append.mp member with old | new
    · exact low h old
    · exact List.mem_singleton.mp new ▸ start
  | some ultimo =>
    simp only [last] at member
    split_ifs at member
    · rcases List.mem_append.mp member with old | new
      · exact low h (List.mem_of_mem_dropLast old)
      · rw [List.mem_singleton.mp new]
        exact low ultimo (List.mem_of_getLast? last)
    · rcases List.mem_append.mp member with old | new
      · exact low h old
      · exact List.mem_singleton.mp new ▸ start

theorem bajos_ocupar {huecos : List Hueco} (low : Bajos huecos) (k usado : Nat) : Bajos (hueco_ocupar huecos k usado) := by
  intro h member
  unfold hueco_ocupar at member
  cases here : huecos[k]? with
  | none =>
    rw [here] at member
    exact low h member
  | some hueco =>
    simp only [here] at member
    split_ifs at member
    · exact low h (List.mem_of_mem_eraseIdx member)
    · rcases List.mem_or_eq_of_mem_set member with old | rfl
      · exact low h old
      · exact u32_lt _

theorem bajos_liberar {huecos : List Hueco} (low : Bajos huecos) {base : Nat} (start : base < 2^32) (tamanio : Nat) :
    Bajos (hueco_liberar huecos base tamanio) := by
  intro h member
  rcases List.mem_append.mp member with old | new
  · exact low h old
  · exact List.mem_singleton.mp new ▸ start

theorem bajos_liberar_tabla {tabla : List Segmento} (starts : ∀ s ∈ tabla, s.base < 2^32) {huecos : List Hueco} (low : Bajos huecos) :
    Bajos (liberar_tabla huecos tabla) := by
  induction tabla generalizing huecos with
  | nil => exact low
  | cons s resto ih =>
    obtain ⟨here,later⟩ := List.forall_mem_cons.mp starts
    exact ih later (bajos_liberar low here s.limite)

theorem bajo_encontrado {m : Estado} (low : Bajos m.lista_huecos) {tamanio k : Nat} {h : Hueco}
    (found : buscar_hueco m tamanio = some (k,h)) : h.base < 2^32 :=
  low h (List.mem_of_getElem? (buscar_hueco_sound found).1)

theorem bajos_ubicar (m : Estado) : ∀ (segmentos : List SegmentoSwap) (ubicados : List (SegmentoSwap × Nat)) (huecos : List Hueco),
    Bajos huecos → (∀ u ∈ ubicados, u.2 < 2^32) → Bajos (ubicar m segmentos ubicados huecos).2 ∧
      ∀ puestos, (ubicar m segmentos ubicados huecos).1 = some puestos → ∀ u ∈ puestos, u.2 < 2^32 := by
  intro segmentos
  induction segmentos with
  | nil =>
    intro ubicados huecos low placed
    refine ⟨low,fun puestos same => ?_⟩
    cases same
    exact placed
  | cons ss resto ih =>
    intro ubicados huecos low placed
    unfold ubicar
    cases found : buscar_hueco { m with lista_huecos := huecos } ss.limite with
    | none =>
      refine ⟨?_,fun puestos bad => by cases bad⟩
      simp only
      clear found ih
      induction ubicados generalizing huecos with
      | nil => exact low
      | cons u otros ih =>
        obtain ⟨here,later⟩ := List.forall_mem_cons.mp placed
        exact ih (hueco_liberar huecos u.2 u.1.limite) (bajos_liberar low here u.1.limite) later
    | some kh =>
      have start := bajo_encontrado (m := { m with lista_huecos := huecos }) low found
      refine ih (ubicados ++ [(ss,kh.2.base)]) (hueco_ocupar huecos kh.1 ss.limite) (bajos_ocupar low kh.1 ss.limite) ?_
      intro u member
      rcases List.mem_append.mp member with old | new
      · exact placed u old
      · exact List.mem_singleton.mp new ▸ start

/-! ## The operations -/

theorem direcciones_con_tabla {m : Estado} (low : Direcciones m) {huecos : List Hueco} (holes : Bajos huecos) (i : Nat)
    {f : List Segmento → List Segmento} (edits : ∀ tabla, (∀ s ∈ tabla, s.base < 2^32) → ∀ s ∈ f tabla, s.base < 2^32) :
    Direcciones (Estado.con_tabla { m with lista_huecos := huecos } i f) := by
  refine ⟨low.total,holes,fun c listed => ?_⟩
  obtain ⟨k,here⟩ := List.getElem?_of_mem listed
  simp only [Estado.con_tabla,List.getElem?_modify] at here
  obtain ⟨d,old,same⟩ := Option.map_eq_some_iff.mp here
  have before := low.segmentos d (List.mem_of_getElem? old)
  subst same
  split_ifs
  · exact edits d.tabla_segmentos before
  · exact before

theorem direcciones_agregar {m : Estado} (low : Direcciones m) (altas : List Alta) : Direcciones (agregar_todos altas m) := by
  induction altas generalizing m with
  | nil => exact low
  | cons a resto ih => exact ih ⟨u32_lt _,bajos_extender low.huecos low.total a.tamanio,low.segmentos⟩

theorem direcciones_turnos (altas : Nat → List Alta) : ∀ (pendientes : List Puntero) (i destino : Nat) (m : Estado),
    destino < 2^32 → Direcciones m → (compactar_turnos altas i pendientes destino m).2.1 < 2^32 ∧
      Direcciones (compactar_turnos altas i pendientes destino m).2.2 := by
  intro pendientes
  induction pendientes with
  | nil => intro i destino m start low; exact ⟨start,direcciones_agregar low (altas i)⟩
  | cons q resto ih =>
    intro i destino m start low
    obtain ⟨p,seg⟩ := q
    have started := direcciones_agregar low (altas i)
    simp only [compactar_turnos]
    generalize agregar_todos (altas i) m = n at started ⊢
    by_cases moves : seg.base = destino
    · simp only [moves,ne_eq,not_true_eq_false,if_false]
      exact ih (i + 1) _ n (u32_lt _) started
    · simp only [moves,ne_eq,not_false_eq_true,if_true]
      have read : Direcciones (n.leer seg.base seg.limite).2 := ⟨started.total,started.huecos,started.segmentos⟩
      generalize n.leer seg.base seg.limite = r at read ⊢
      obtain ⟨_ | leidos,leido⟩ := r
      · exact ⟨start,read⟩
      · have wrote : Direcciones (leido.escribir destino leidos).2 := ⟨read.total,read.huecos,read.segmentos⟩
        simp only
        generalize leido.escribir destino leidos = w at wrote ⊢
        obtain ⟨_ | _,escrito⟩ := w
        · exact ⟨start,wrote⟩
        · refine ih (i + 1) _ (escrito.mover p destino) (u32_lt _) ?_
          refine direcciones_con_tabla wrote wrote.huecos p.1 (fun tabla before s member => ?_)
          obtain ⟨l,here⟩ := List.getElem?_of_mem member
          rw [List.getElem?_modify] at here
          obtain ⟨t,old,same⟩ := Option.map_eq_some_iff.mp here
          subst same
          split_ifs
          · exact start
          · exact before t (List.mem_of_getElem? old)

theorem direcciones_compactar {m : Estado} (low : Direcciones m) (orden : Sorter) (altas : Nat → List Alta) :
    Direcciones (compactar orden altas m).2 := by
  obtain ⟨start,kept⟩ := direcciones_turnos altas (orden.sort comparar_segmentos_por_base (todos_los_segmentos m)) 0 0 m (by decide) low
  unfold compactar
  generalize compactar_turnos altas 0 (orden.sort comparar_segmentos_por_base (todos_los_segmentos m)) 0 m = r at start kept ⊢
  obtain ⟨_ | _,destino,m'⟩ := r
  · exact kept
  · refine ⟨kept.total,fun h member => ?_,kept.segmentos⟩
    simp only [huecos_reconstruir] at member
    split_ifs at member
    · exact List.mem_singleton.mp member ▸ start
    · cases member

theorem direcciones_suspender {m : Estado} (low : Direcciones m) (pid : Int) : Direcciones (proceso_suspender pid m).2 := by
  rcases suspender_frame pid m with ⟨_,_,_,same⟩ | ⟨i,c,nuevos,respuestas,usados,archivo,found,_,_,done⟩
  · rw [same]
    exact ⟨low.total,low.huecos,low.segmentos⟩
  · rw [done]
    have emptied := direcciones_con_tabla low (bajos_liberar_tabla (low.segmentos c (contexto_mem found)) low.huecos) i
      (f := fun _ => []) (fun _ _ s member => by cases member)
    exact ⟨emptied.total,emptied.huecos,emptied.segmentos⟩

theorem direcciones_dessuspender {m : Estado} (low : Direcciones m) (pid : Int) : Direcciones (proceso_dessuspender pid m).2 := by
  unfold proceso_dessuspender
  cases saved : buscar_proceso_swap m pid with
  | none => exact low
  | some kps =>
    obtain ⟨k,ps⟩ := kps
    cases found : contexto_buscar m pid with
    | none => exact low
    | some ic =>
      obtain ⟨i,c⟩ := ic
      simp only
      obtain ⟨holes,bases⟩ := bajos_ubicar m ps.segmentos [] m.lista_huecos low.huecos (fun u member => by cases member)
      generalize ubicar m ps.segmentos [] m.lista_huecos = r at holes bases ⊢
      obtain ⟨_ | puestos,huecos⟩ := r
      · exact ⟨low.total,holes,low.segmentos⟩
      · obtain ⟨f,fichas,restored⟩ := restaurar_frame i puestos { m with lista_huecos := huecos }
        simp only [restored]
        have filled := direcciones_con_tabla low holes i (f := fun tabla => tabla ++ puestos.map a_segmento) (by
          intro tabla before s member
          rcases List.mem_append.mp member with old | new
          · exact before s old
          · obtain ⟨u,placed,rfl⟩ := List.mem_map.mp new
            exact bases puestos rfl u placed)
        exact ⟨filled.total,filled.huecos,filled.segmentos⟩

theorem direcciones_liberar {m : Estado} (low : Direcciones m) (pid : Int) : Direcciones (proceso_liberar_memoria pid m) := by
  have ram : Direcciones (liberar_ram pid m) := by
    unfold liberar_ram
    cases found : contexto_buscar m pid with
    | none => exact low
    | some ic =>
      obtain ⟨i,c⟩ := ic
      exact direcciones_con_tabla low (bajos_liberar_tabla (low.segmentos c (contexto_mem found)) low.huecos) i
        (fun _ _ s member => by cases member)
  unfold proceso_liberar_memoria liberar_swap
  cases buscar_proceso_swap (liberar_ram pid m) pid with
  | none => exact ram
  | some kps => exact ⟨ram.total,ram.huecos,ram.segmentos⟩

theorem direcciones_crear {m : Estado} (low : Direcciones m) (pid id_segmento : Int) (tamanio : Nat) :
    Direcciones (segmento_crear pid id_segmento tamanio m).2 := by
  unfold segmento_crear
  by_cases large : m.segment_max_size > 0 ∧ tamanio > a_u32 m.segment_max_size
  · rw [if_pos large]
    exact low
  rw [if_neg large]
  cases contexto_buscar m pid with
  | none => exact low
  | some ic =>
    cases hole : buscar_hueco m tamanio with
    | none => exact low
    | some kh =>
      have adds : ∀ tabla : List Segmento, (∀ s ∈ tabla, s.base < 2^32) →
          ∀ s ∈ tabla ++ [(⟨id_segmento,kh.2.base,tamanio⟩ : Segmento)], s.base < 2^32 := by
        intro tabla before s member
        rcases List.mem_append.mp member with old | new
        · exact before s old
        · exact List.mem_singleton.mp new ▸ bajo_encontrado low.huecos hole
      exact direcciones_con_tabla low (bajos_ocupar low.huecos kh.1 tamanio) ic.1 adds

theorem direcciones_eliminar {m : Estado} (low : Direcciones m) (pid id_segmento : Int) :
    Direcciones (segmento_eliminar pid id_segmento m).2 := by
  unfold segmento_eliminar
  cases found : contexto_buscar m pid with
  | none => exact low
  | some ic =>
    obtain ⟨i,c⟩ := ic
    cases hit : buscar_segmento c id_segmento with
    | none =>
      simp only [hit]
      exact low
    | some js =>
      obtain ⟨j,seg⟩ := js
      simp only [hit]
      have start : seg.base < 2^32 := by
        obtain ⟨tpre,tpost,entries,_⟩ := split_of_first hit
        exact low.segmentos c (contexto_mem found) seg (by rw [entries]; simp)
      exact direcciones_con_tabla low (bajos_liberar low.huecos start seg.limite) i
        (fun tabla before s member => before s (List.mem_of_mem_eraseIdx member))

/-- The step lemma, for every request and every answer. -/
theorem aplicar_direcciones {orden : Sorter} {m : Estado} (low : Direcciones m) (op : Operacion) : Direcciones (aplicar orden op m) := by
  cases op with
  | memory_stick_agregar a => exact direcciones_agregar low [a]
  | contexto_crear pid path instrucciones =>
    refine ⟨low.total,low.huecos,fun c listed => ?_⟩
    rcases List.mem_append.mp listed with old | new
    · exact low.segmentos c old
    · rw [List.mem_singleton.mp new]
      exact fun s member => by cases member
  | segmento_crear pid id_segmento tamanio => exact direcciones_crear low pid id_segmento tamanio
  | segmento_eliminar pid id_segmento => exact direcciones_eliminar low pid id_segmento
  | compactar altas => exact direcciones_compactar low orden altas
  | proceso_suspender pid => exact direcciones_suspender low pid
  | proceso_dessuspender pid => exact direcciones_dessuspender low pid
  | proceso_liberar_memoria pid => exact direcciones_liberar low pid
  | finalizar pid =>
    have freed := direcciones_liberar low pid
    simp only [aplicar,finalizar,contexto_eliminar]
    split
    · exact freed
    · exact ⟨freed.total,freed.huecos,fun c listed => freed.segmentos c (List.mem_of_mem_eraseIdx listed)⟩
  | escribir dir_fisica bytes => exact ⟨low.total,low.huecos,low.segmentos⟩
  | swap_registrar fd block_size swap_size => exact ⟨low.total,low.huecos,low.segmentos⟩
  | swap_desregistrar => exact ⟨low.total,low.huecos,low.segmentos⟩

theorem inicial_direcciones (segment_max_size : Int) (allocation_best_fit : Bool) (respuestas : Nat → Respuesta) :
    Direcciones (inicial segment_max_size allocation_best_fit respuestas) :=
  ⟨Nat.two_pow_pos 32,fun _ member => absurd member List.not_mem_nil,fun _ listed => absurd listed List.not_mem_nil⟩

end PlugNPray.Addresses
