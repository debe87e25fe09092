import PlugNPray.Compaction

/-!
The free list and the segment tables split the physical memory between them:
every address belongs to one hole or to one segment, after any requests.
-/
namespace PlugNPray.Partition
open PlugNPray.Runs PlugNPray.Intervals PlugNPray.Places PlugNPray.FlatMemory PlugNPray.Huecos PlugNPray.Sticks
open PlugNPray.Sorting PlugNPray.KernelMemory PlugNPray.Operations PlugNPray.Compaction

/-- Holes and segments tile the memory that the sticks add up to. -/
structure Particion (m : Estado) : Prop where
  total : m.memoria_total = tamanios m.lista_memory_sticks
  covers : Covers (rangos m.lista_huecos ++ residentes m.lista_contextos) m.memoria_total

/-- The same when sticks have left: the total still counts their `fuera` bytes. -/
structure Mapa (fuera : Nat) (m : Estado) : Prop where
  total : m.memoria_total = tamanios m.lista_memory_sticks + fuera
  covers : Covers (rangos m.lista_huecos ++ residentes m.lista_contextos) m.memoria_total

theorem particion_mapa {m : Estado} : Particion m ↔ Mapa 0 m :=
  ⟨fun part => ⟨part.total,part.covers⟩,fun map => ⟨map.total,map.covers⟩⟩

/-- What the environment promises: new processes have new pids, addresses are 32-bit
    numbers, a swap has blocks, and no compaction fails. -/
def Admitida (orden : Sorter) : Operacion → Estado → Prop
  | .contexto_crear pid _ _, m => contexto_buscar m pid = none
  | .compactar altas, m => (KernelMemory.compactar orden altas m).1 = true
  | .escribir dir_fisica _, _ => dir_fisica < 2^32
  | .swap_registrar _ block_size _, _ => 0 < block_size
  | _, _ => True

instance (orden : Sorter) : ∀ op m, Decidable (Admitida orden op m)
  | .contexto_crear pid _ _, m => inferInstanceAs (Decidable (contexto_buscar m pid = none))
  | .compactar altas, m => inferInstanceAs (Decidable ((KernelMemory.compactar orden altas m).1 = true))
  | .escribir dir_fisica _, _ => inferInstanceAs (Decidable (dir_fisica < 2^32))
  | .swap_registrar _ block_size _, _ => inferInstanceAs (Decidable (0 < block_size))
  | .memory_stick_agregar _, _ | .segmento_crear _ _ _, _ | .segmento_eliminar _ _, _ | .proceso_suspender _, _
  | .proceso_dessuspender _, _ | .proceso_liberar_memoria _, _ | .finalizar _, _ | .swap_desregistrar, _ => isTrue trivial

/-- A compaction comes to its end. -/
def Completa (orden : Sorter) : Operacion → Estado → Prop
  | .compactar altas, m => (KernelMemory.compactar orden altas m).1 = true
  | _, _ => True

instance (orden : Sorter) : ∀ op m, Decidable (Completa orden op m)
  | .compactar altas, m => inferInstanceAs (Decidable ((KernelMemory.compactar orden altas m).1 = true))
  | .memory_stick_agregar _, _ | .contexto_crear _ _ _, _ | .segmento_crear _ _ _, _ | .segmento_eliminar _ _, _
  | .proceso_suspender _, _ | .proceso_dessuspender _, _ | .proceso_liberar_memoria _, _ | .finalizar _, _ | .escribir _ _, _
  | .swap_registrar _ _ _, _ | .swap_desregistrar, _ => isTrue trivial

theorem completa_of_admitida {orden : Sorter} {op : Operacion} {m : Estado} (admitted : Admitida orden op m) : Completa orden op m := by
  cases op with
  | compactar altas => exact admitted
  | _ => trivial

/-! ## Tables -/

/-- One table replaced: the ranges of its entries, and those of every other table. -/
theorem con_tabla_residentes {m : Estado} {pid : Int} {i : Nat} {c : Contexto} (found : contexto_buscar m pid = some (i,c)) :
    ∃ resto, (residentes m.lista_contextos).Perm (c.tabla_segmentos.map rango ++ resto) ∧
      ∀ f, (residentes (m.con_tabla i f).lista_contextos).Perm ((f c.tabla_segmentos).map rango ++ resto) := by
  obtain ⟨pre,post,split,rfl,_⟩ := split_of_contexto found
  have around : ∀ tabla : List Segmento,
      (residentes (pre ++ { c with tabla_segmentos := tabla } :: post)).Perm
        (tabla.map rango ++ (residentes pre ++ residentes post)) := by
    intro tabla
    simp only [residentes_append,residentes_cons]
    rw [← List.append_assoc,← List.append_assoc]
    exact List.perm_append_comm.append_right _
  refine ⟨residentes pre ++ residentes post,?_,fun f => ?_⟩
  · rw [split]
    exact around c.tabla_segmentos
  · rw [con_tabla_split split]
    exact around (f c.tabla_segmentos)

theorem rangos_liberar_tabla (huecos : List Hueco) (tabla : List Segmento) :
    rangos (liberar_tabla huecos tabla) = rangos huecos ++ tabla.map rango := by
  induction tabla generalizing huecos with
  | nil => simp [liberar_tabla]
  | cons seg resto ih =>
    refine (ih (hueco_liberar huecos seg.base seg.limite)).trans ?_
    simp [rango]

variable {fuera : Nat}

/-- A new free list and a table edit that only pass addresses on keep the partition. -/
private theorem mapa_of_perm {m : Estado} {i : Nat} {f : List Segmento → List Segmento} {huecos : List Hueco}
    (map : Mapa fuera m) (perm : (rangos m.lista_huecos ++ residentes m.lista_contextos).Perm
      (rangos huecos ++ residentes (m.con_tabla i f).lista_contextos)) :
    Mapa fuera (Estado.con_tabla { m with lista_huecos := huecos } i f) := ⟨map.total,covers_perm perm map.covers⟩

/-- A table emptied into the free list. -/
private theorem vaciar_covers {m : Estado} {pid : Int} {i n : Nat} {c : Contexto}
    (found : contexto_buscar m pid = some (i,c)) (covers : Covers (rangos m.lista_huecos ++ residentes m.lista_contextos) n) :
    Covers (rangos (liberar_tabla m.lista_huecos c.tabla_segmentos) ++
      residentes (m.con_tabla i (fun _ => [])).lista_contextos) n := by
  obtain ⟨resto,before,after⟩ := con_tabla_residentes found
  refine covers_perm ?_ covers
  rw [rangos_liberar_tabla,List.append_assoc]
  refine List.Perm.append_left _ (before.trans (List.Perm.append_left _ ?_))
  simpa using (after (fun _ => [])).symm

/-! ## Placing the segments of a suspended process -/

def rango_ubicado (u : SegmentoSwap × Nat) : Range := ⟨u.2,u.1.limite⟩

theorem liberar_ubicados (ubicados : List (SegmentoSwap × Nat)) (huecos : List Hueco) :
    rangos (ubicados.foldl (fun hs u => hueco_liberar hs u.2 u.1.limite) huecos) =
      rangos huecos ++ ubicados.map rango_ubicado := by
  induction ubicados generalizing huecos with
  | nil => simp
  | cons u resto ih =>
    refine (ih (hueco_liberar huecos u.2 u.1.limite)).trans ?_
    simp [rango_ubicado]

/-- Tentative bases come out of the free list, and a roll-back puts them back. -/
theorem ubicar_covers (m : Estado) {n : Nat} (small : n < 2^32) (rs : List Range) :
    ∀ (segmentos : List SegmentoSwap) (ubicados : List (SegmentoSwap × Nat)) (huecos : List Hueco),
      Covers (rangos huecos ++ (ubicados.map rango_ubicado ++ rs)) n →
      (∀ puestos huecos', ubicar m segmentos ubicados huecos = (some puestos,huecos') →
        puestos.map Prod.fst = ubicados.map Prod.fst ++ segmentos ∧
        Covers (rangos huecos' ++ (puestos.map rango_ubicado ++ rs)) n) ∧
      (∀ huecos', ubicar m segmentos ubicados huecos = (none,huecos') → Covers (rangos huecos' ++ rs) n) := by
  intro segmentos
  induction segmentos with
  | nil =>
    intro ubicados huecos covers
    refine ⟨fun puestos huecos' done => ?_,fun huecos' bad => by simp [ubicar] at bad⟩
    obtain ⟨same,rfl⟩ := Prod.mk.inj done
    cases same
    exact ⟨by simp,covers⟩
  | cons ss resto ih =>
    intro ubicados huecos covers
    unfold ubicar
    cases found : buscar_hueco { m with lista_huecos := huecos } ss.limite with
    | none =>
      refine ⟨fun puestos huecos' bad => by simp at bad,fun huecos' done => ?_⟩
      obtain rfl := (Prod.mk.inj done).2
      rw [liberar_ubicados,List.append_assoc]
      exact covers
    | some eleccion =>
      obtain ⟨k,hueco⟩ := eleccion
      obtain ⟨here,fits⟩ := buscar_hueco_sound found
      have taken := ocupar_covers here fits small covers
      have placed : Covers (rangos (hueco_ocupar huecos k ss.limite) ++
          ((ubicados ++ [(ss,hueco.base)]).map rango_ubicado ++ rs)) n := by
        refine covers_perm (List.Perm.append_left _ ?_) taken
        have moved : (ubicados.map rango_ubicado ++ (⟨hueco.base,ss.limite⟩ : Range) :: rs).Perm
            (⟨hueco.base,ss.limite⟩ :: (ubicados.map rango_ubicado ++ rs)) := List.perm_middle
        simpa [rango_ubicado] using moved.symm
      obtain ⟨success,failure⟩ := ih (ubicados ++ [(ss,hueco.base)]) (hueco_ocupar huecos k ss.limite) placed
      refine ⟨fun puestos huecos' done => ?_,failure⟩
      obtain ⟨names,covered⟩ := success puestos huecos' done
      exact ⟨by simpa using names,covered⟩

/-! ## One operation -/

private theorem agregar_mapa {m : Estado} (a : Alta) (map : Mapa fuera m)
    (small : tamanios (memory_stick_agregar a m).lista_memory_sticks + fuera < 2^32) : Mapa fuera (memory_stick_agregar a m) := by
  have before := map.total
  have total : (memory_stick_agregar a m).memoria_total = tamanios (memory_stick_agregar a m).lista_memory_sticks + fuera :=
    agregar_todos_total [a] before small
  have sum : tamanios (memory_stick_agregar a m).lista_memory_sticks = tamanios m.lista_memory_sticks + a.tamanio := by
    simp [memory_stick_agregar]
  have grown : (memory_stick_agregar a m).memoria_total = m.memoria_total + a.tamanio := by omega
  refine ⟨total,?_⟩
  rw [grown]
  exact extender_covers (by omega) map.covers

private theorem segmento_crear_mapa {m : Estado} (pid id_segmento : Int) (tamanio : Nat) (map : Mapa fuera m)
    (small : tamanios m.lista_memory_sticks + fuera < 2^32) : Mapa fuera (segmento_crear pid id_segmento tamanio m).2 := by
  unfold segmento_crear
  by_cases large : m.segment_max_size > 0 ∧ tamanio > a_u32 m.segment_max_size
  · simp only [large,and_self,if_true]
    exact map
  · simp only [large,if_false]
    cases found : contexto_buscar m pid with
    | none => exact map
    | some ic =>
      obtain ⟨i,c⟩ := ic
      cases hole : buscar_hueco m tamanio with
      | none => exact map
      | some kh =>
        obtain ⟨k,hueco⟩ := kh
        obtain ⟨here,fits⟩ := buscar_hueco_sound hole
        obtain ⟨resto,before,after⟩ := con_tabla_residentes found
        refine ⟨map.total,?_⟩
        have taken := ocupar_covers here fits (by rw [map.total]; exact small) map.covers
        refine covers_perm (List.Perm.append_left _ ?_) taken
        refine ((before.cons _).trans ?_).trans (after (fun tabla => tabla ++ [⟨id_segmento,hueco.base,tamanio⟩])).symm
        have moved : (c.tabla_segmentos.map rango ++ (⟨hueco.base,tamanio⟩ : Range) :: resto).Perm
            (⟨hueco.base,tamanio⟩ :: (c.tabla_segmentos.map rango ++ resto)) := List.perm_middle
        simpa [rango] using moved.symm

private theorem segmento_eliminar_mapa {m : Estado} (pid id_segmento : Int) (map : Mapa fuera m) :
    Mapa fuera (segmento_eliminar pid id_segmento m).2 := by
  unfold segmento_eliminar
  cases found : contexto_buscar m pid with
  | none => exact map
  | some ic =>
    obtain ⟨i,c⟩ := ic
    cases hit : buscar_segmento c id_segmento with
    | none => simp only [hit]; exact map
    | some js =>
      obtain ⟨j,seg⟩ := js
      simp only [hit]
      obtain ⟨pre,post,entries,rfl,_⟩ := split_of_first hit
      obtain ⟨resto,before,after⟩ := con_tabla_residentes found
      have removed := after (fun tabla => tabla.eraseIdx pre.length)
      simp only [entries,eraseIdx_split] at before removed
      refine mapa_of_perm map ?_
      rw [rangos_liberar,List.append_assoc]
      refine List.Perm.append_left _ (before.trans (List.Perm.trans ?_ (removed.symm.cons _)))
      simp [rango]

private theorem compactar_mapa {orden : Sorter} {altas : Nat → List Alta} {m : Estado} (map : Mapa fuera m)
    (ok : (compactar orden altas m).1 = true) (small : tamanios (compactar orden altas m).2.lista_memory_sticks + fuera < 2^32) :
    Mapa fuera (compactar orden altas m).2 := by
  have start := turno_inicial orden map.total map.covers
  unfold compactar at ok small ⊢
  cases done : compactar_turnos altas 0 (orden.sort comparar_segmentos_por_base (todos_los_segmentos m)) 0 m with
  | mk success rest =>
    obtain ⟨fin,m'⟩ := rest
    rw [done] at ok small
    cases success with
    | false => cases ok
    | true =>
      obtain ⟨colocados,last⟩ := turnos_placed altas 0 start done small
      have residents := last.residents
      have sum := last.sum
      simp only [List.map_nil,List.nil_append,sizes_nil,Nat.add_zero] at residents sum
      refine ⟨last.total,?_⟩
      exact reconstruir_covers (by rw [last.total]; exact small) sum (covers_perm residents.symm last.placed)

private theorem proceso_suspender_mapa {m : Estado} (pid : Int) (map : Mapa fuera m) :
    Mapa fuera (proceso_suspender pid m).2 := by
  unfold proceso_suspender
  by_cases off : m.fd_swap = -1
  · simp only [off,if_true]
    exact map
  · simp only [off,if_false]
    cases found : contexto_buscar m pid with
    | none => exact map
    | some ic =>
      obtain ⟨i,c⟩ := ic
      simp only
      split_ifs
      · exact map
      · exact map
      · have copied := solo_swap_copiar c.tabla_segmentos [] m
        generalize copiar_segmentos c.tabla_segmentos [] m = r at copied ⊢
        obtain ⟨ok,copiados,m'⟩ := r
        obtain ⟨respuestas,usados,archivo,same⟩ := copied
        simp only at same
        subst same
        cases ok with
        | false => exact ⟨map.total,map.covers⟩
        | true => exact ⟨map.total,vaciar_covers found map.covers⟩

private theorem proceso_dessuspender_mapa {m : Estado} (pid : Int) (map : Mapa fuera m)
    (small : tamanios m.lista_memory_sticks + fuera < 2^32) : Mapa fuera (proceso_dessuspender pid m).2 := by
  unfold proceso_dessuspender
  cases buscar_proceso_swap m pid with
  | none => exact map
  | some kps =>
    obtain ⟨k,ps⟩ := kps
    cases found : contexto_buscar m pid with
    | none => exact map
    | some ic =>
      obtain ⟨i,c⟩ := ic
      have start : Covers (rangos m.lista_huecos ++ (([] : List (SegmentoSwap × Nat)).map rango_ubicado ++
          residentes m.lista_contextos)) m.memoria_total := map.covers
      obtain ⟨placed,undone⟩ := ubicar_covers m (by rw [map.total]; exact small) _ ps.segmentos [] m.lista_huecos start
      cases done : ubicar m ps.segmentos [] m.lista_huecos with
      | mk puestos huecos =>
        simp only [done]
        cases puestos with
        | none => exact ⟨map.total,undone huecos done⟩
        | some puestos =>
          obtain ⟨f,fichas,same⟩ := restaurar_frame i puestos { m with lista_huecos := huecos }
          obtain ⟨resto,before,after⟩ := con_tabla_residentes found
          simp only [same]
          refine ⟨map.total.trans (congrArg (· + fuera) (tamanios_of_ficha fichas).symm),?_⟩
          refine covers_perm (List.Perm.append_left _ ?_) (placed puestos huecos done).2
          refine ((before.append_left _).trans ?_).trans (after (fun tabla => tabla ++ puestos.map a_segmento)).symm
          have names : (puestos.map a_segmento).map rango = puestos.map rango_ubicado := by
            rw [List.map_map]
            rfl
          rw [List.map_append,names,← List.append_assoc]
          exact List.perm_append_comm.append_right _

private theorem liberar_ram_mapa {m : Estado} (pid : Int) (map : Mapa fuera m) : Mapa fuera (liberar_ram pid m) := by
  unfold liberar_ram
  cases found : contexto_buscar m pid with
  | none => exact map
  | some ic => exact ⟨map.total,vaciar_covers found map.covers⟩

private theorem liberar_swap_mapa {m : Estado} (pid : Int) (map : Mapa fuera m) : Mapa fuera (liberar_swap pid m) := by
  unfold liberar_swap
  cases buscar_proceso_swap m pid with
  | none => exact map
  | some kps => exact ⟨map.total,map.covers⟩

theorem liberar_swap_contextos (pid : Int) (m : Estado) : (liberar_swap pid m).lista_contextos = m.lista_contextos := by
  unfold liberar_swap
  cases buscar_proceso_swap m pid <;> rfl

/-- The context of a process is still the first one of its pid after its table was edited. -/
theorem contexto_con_tabla {m : Estado} {pid : Int} {i : Nat} {c : Contexto} (found : contexto_buscar m pid = some (i,c))
    (f : List Segmento → List Segmento) :
    contexto_buscar (m.con_tabla i f) pid = some (i,{ c with tabla_segmentos := f c.tabla_segmentos }) := by
  obtain ⟨pre,post,split,rfl,name,least⟩ := split_of_contexto found
  rw [con_tabla_split split]
  exact first_split (by simpa using name) (fun d listed => by simpa using least d listed)

theorem liberar_ram_vacia {m : Estado} {pid : Int} {i : Nat} {c : Contexto}
    (found : contexto_buscar (liberar_ram pid m) pid = some (i,c)) : c.tabla_segmentos = [] := by
  unfold liberar_ram at found
  cases before : contexto_buscar m pid with
  | none =>
    simp only [before] at found
    cases found
  | some jd =>
    obtain ⟨j,d⟩ := jd
    simp only [before] at found
    have emptied := contexto_con_tabla before (fun _ => [])
    have same := found.symm.trans emptied
    cases same
    rfl

private theorem eliminar_mapa {m : Estado} {pid : Int} (map : Mapa fuera m)
    (vacia : ∀ i c, contexto_buscar m pid = some (i,c) → c.tabla_segmentos = []) :
    Mapa fuera (contexto_eliminar pid m) := by
  unfold contexto_eliminar
  cases found : contexto_buscar m pid with
  | none => exact map
  | some ic =>
    obtain ⟨i,c⟩ := ic
    obtain ⟨pre,post,split,rfl,_⟩ := split_of_contexto found
    have same : residentes (m.lista_contextos.eraseIdx pre.length) = residentes m.lista_contextos := by
      rw [split,eraseIdx_split]
      simp [vacia _ c found]
    refine ⟨map.total,?_⟩
    rw [same]
    exact map.covers

private theorem finalizar_mapa {m : Estado} (pid : Int) (map : Mapa fuera m) : Mapa fuera (finalizar pid m) := by
  refine eliminar_mapa (liberar_swap_mapa pid (liberar_ram_mapa pid map)) (fun i c found => ?_)
  rw [proceso_liberar_memoria,contexto_buscar,liberar_swap_contextos] at found
  have before : contexto_buscar (liberar_ram pid m) pid = some (i,c) := found
  exact liberar_ram_vacia before

/-! ## Runs -/

theorem dessuspender_sticks (pid : Int) (m : Estado) :
    tamanios (proceso_dessuspender pid m).2.lista_memory_sticks = tamanios m.lista_memory_sticks := by
  unfold proceso_dessuspender
  cases buscar_proceso_swap m pid with
  | none => rfl
  | some kps =>
    cases contexto_buscar m pid with
    | none => rfl
    | some ic =>
      obtain ⟨i,c⟩ := ic
      simp only
      obtain ⟨puestos,huecos⟩ := ubicar m kps.2.segmentos [] m.lista_huecos
      cases puestos with
      | none => rfl
      | some puestos =>
        obtain ⟨f,fichas,same⟩ := restaurar_frame i puestos { m with lista_huecos := huecos }
        simp only [same]
        exact tamanios_of_ficha fichas

theorem suspender_sticks (pid : Int) (m : Estado) :
    (proceso_suspender pid m).2.lista_memory_sticks = m.lista_memory_sticks := by
  unfold proceso_suspender
  by_cases off : m.fd_swap = -1
  · simp only [off,if_true]
  · simp only [off,if_false]
    cases contexto_buscar m pid with
    | none => rfl
    | some ic =>
      obtain ⟨i,c⟩ := ic
      simp only
      split_ifs
      · rfl
      · rfl
      · have copied := solo_swap_copiar c.tabla_segmentos [] m
        generalize copiar_segmentos c.tabla_segmentos [] m = r at copied ⊢
        obtain ⟨ok,copiados,m'⟩ := r
        obtain ⟨respuestas,usados,archivo,same⟩ := copied
        simp only at same
        subst same
        cases ok <;> rfl

theorem liberar_sticks (pid : Int) (m : Estado) :
    (proceso_liberar_memoria pid m).lista_memory_sticks = m.lista_memory_sticks := by
  have ram : (liberar_ram pid m).lista_memory_sticks = m.lista_memory_sticks := by
    unfold liberar_ram
    cases contexto_buscar m pid <;> rfl
  rw [← ram,proceso_liberar_memoria]
  unfold liberar_swap
  cases buscar_proceso_swap (liberar_ram pid m) pid <;> rfl

/-- No operation takes a stick away. -/
theorem aplicar_sticks (orden : Sorter) (op : Operacion) (m : Estado) :
    tamanios m.lista_memory_sticks ≤ tamanios (aplicar orden op m).lista_memory_sticks := by
  cases op with
  | memory_stick_agregar a => exact agregar_todos_sticks [a] m
  | contexto_crear pid path instrucciones => exact le_refl _
  | segmento_crear pid id_segmento tamanio =>
    simp only [aplicar,KernelMemory.segmento_crear]
    split
    · exact le_refl _
    · split
      · exact le_refl _
      · split <;> exact le_refl _
  | segmento_eliminar pid id_segmento =>
    simp only [aplicar,KernelMemory.segmento_eliminar]
    split
    · exact le_refl _
    · split <;> exact le_refl _
  | compactar altas => exact compactar_sticks orden altas m
  | proceso_suspender pid => exact (congrArg tamanios (suspender_sticks pid m)).ge
  | proceso_dessuspender pid => exact (dessuspender_sticks pid m).ge
  | proceso_liberar_memoria pid => exact (congrArg tamanios (liberar_sticks pid m)).ge
  | finalizar pid =>
    have freed := (congrArg tamanios (liberar_sticks pid m)).ge
    simp only [aplicar,KernelMemory.finalizar,contexto_eliminar]
    split <;> exact freed
  | escribir dir_fisica bytes => exact (tamanios_of_ficha (escribir_fichas m.toFisica dir_fisica bytes)).ge
  | swap_registrar fd block_size swap_size => exact le_refl _
  | swap_desregistrar => exact le_refl _

theorem sticks_of_run {orden : Sorter} {ops : List Operacion} {m m' : Estado} (reached : run (paso orden) ops m = some m') :
    tamanios m.lista_memory_sticks ≤ tamanios m'.lista_memory_sticks := by
  induction ops generalizing m with
  | nil =>
    cases reached
    exact le_refl _
  | cons op resto ih => exact (aplicar_sticks orden op m).trans (ih reached)

/-- The step lemma: every operation keeps the map while the sticks fit in 32 bits. -/
theorem aplicar_mapa {orden : Sorter} {op : Operacion} {m : Estado} (map : Mapa fuera m) (completed : Completa orden op m)
    (small : tamanios (aplicar orden op m).lista_memory_sticks + fuera < 2^32) : Mapa fuera (aplicar orden op m) := by
  have before := (Nat.add_le_add_right (aplicar_sticks orden op m) fuera).trans_lt small
  cases op with
  | memory_stick_agregar a => exact agregar_mapa a map small
  | contexto_crear pid path instrucciones =>
    refine ⟨map.total,?_⟩
    have same : residentes (m.lista_contextos ++ [⟨pid,path,instrucciones,[]⟩]) = residentes m.lista_contextos := by simp
    simp only [aplicar,KernelMemory.contexto_crear,same]
    exact map.covers
  | segmento_crear pid id_segmento tamanio => exact segmento_crear_mapa pid id_segmento tamanio map before
  | segmento_eliminar pid id_segmento => exact segmento_eliminar_mapa pid id_segmento map
  | compactar altas => exact compactar_mapa map completed small
  | proceso_suspender pid => exact proceso_suspender_mapa pid map
  | proceso_dessuspender pid => exact proceso_dessuspender_mapa pid map before
  | proceso_liberar_memoria pid => exact liberar_swap_mapa pid (liberar_ram_mapa pid map)
  | finalizar pid => exact finalizar_mapa pid map
  | escribir dir_fisica bytes =>
    obtain ⟨f,fichas,same⟩ := escribir_frame m dir_fisica bytes
    simp only [aplicar,same]
    exact ⟨map.total.trans (congrArg (· + fuera) (tamanios_of_ficha fichas).symm),map.covers⟩
  | swap_registrar fd block_size swap_size => exact ⟨map.total,map.covers⟩
  | swap_desregistrar => exact ⟨map.total,map.covers⟩

theorem aplicar_particion {orden : Sorter} {op : Operacion} {m : Estado} (part : Particion m) (completed : Completa orden op m)
    (small : tamanios (aplicar orden op m).lista_memory_sticks < 2^32) : Particion (aplicar orden op m) :=
  particion_mapa.mpr (aplicar_mapa (particion_mapa.mp part) completed small)

theorem liberar_ram_particion {m : Estado} (pid : Int) (part : Particion m) : Particion (liberar_ram pid m) :=
  particion_mapa.mpr (liberar_ram_mapa pid (particion_mapa.mp part))

theorem particion_of_run {orden : Sorter} {segment_max_size : Int} {allocation_best_fit : Bool} {respuestas : Nat → Respuesta}
    {ops : List Operacion} {m : Estado}
    (completed : Guarded (paso orden) (Completa orden) ops (inicial segment_max_size allocation_best_fit respuestas))
    (reached : run (paso orden) ops (inicial segment_max_size allocation_best_fit respuestas) = some m)
    (small : tamanios m.lista_memory_sticks < 2^32) : Particion m := by
  have start : Particion (inicial segment_max_size allocation_best_fit respuestas) :=
    ⟨rfl,fun a => by simp [inicial,one],fun r member => by simp [inicial] at member⟩
  have keeps : Preserved (paso orden) (Completa orden) (fun m => tamanios m.lista_memory_sticks < 2^32 → Particion m) := by
    intro op m m' held completed moved small
    cases moved
    exact aplicar_particion (held ((aplicar_sticks orden op m).trans_lt small)) completed small
  exact invariant_of_guarded keeps (fun _ => start) completed reached small

/-- After any admitted requests every address of memory is in exactly one hole or in
    exactly one segment, none is beyond, and the free total is what the segments leave. -/
theorem memory_partitioned (orden : Sorter) (segment_max_size : Int) (allocation_best_fit : Bool)
    (respuestas : Nat → Respuesta) (ops : List Operacion) (m : Estado)
    (admitted : Guarded (paso orden) (Admitida orden) ops (inicial segment_max_size allocation_best_fit respuestas))
    (reached : run (paso orden) ops (inicial segment_max_size allocation_best_fit respuestas) = some m)
    (small : tamanios m.lista_memory_sticks < 2^32) :
    (∀ a, hits (rangos m.lista_huecos) a + hits (residentes m.lista_contextos) a = if a < m.memoria_total then 1 else 0) ∧
    sizes (residentes m.lista_contextos) ≤ m.memoria_total ∧
    huecos_total_libre m.lista_huecos = m.memoria_total - sizes (residentes m.lista_contextos) ∧
    (m.lista_contextos = [] → huecos_total_libre m.lista_huecos = m.memoria_total) := by
  obtain ⟨total,covers⟩ := particion_of_run (admitted.mono (fun _ _ => completa_of_admitida)) reached small
  have sum := sizes_of_tiles covers.once covers.inside
  rw [sizes_append] at sum
  have free : huecos_total_libre m.lista_huecos = sizes (rangos m.lista_huecos) := total_libre_eq (by omega)
  refine ⟨fun a => ?_,by omega,by omega,fun none => ?_⟩
  · have once := covers.once a
    rw [hits_append,one] at once
    rw [once]
    simp
  · rw [none,residentes_nil,sizes_nil] at sum
    omega

/-- Two processes, a suspension and a compaction during which a stick connects. -/
def jornada : List Operacion :=
  [.memory_stick_agregar ⟨3,8,"10.0.0.1",8002,fun _ => 0⟩,.swap_registrar 4 2 16,
    .contexto_crear 0 "a" [],.contexto_crear 1 "b" [],.segmento_crear 0 0 3,.segmento_crear 1 0 4,.proceso_suspender 0,
    .compactar (fun i => if i = 1 then [⟨5,4,"10.0.0.2",8002,fun _ => 0⟩] else []),.proceso_dessuspender 0]
def tras_jornada : Estado :=
  jornada.foldl (fun m op => aplicar insertion_sorter op m) (inicial 0 true (fun _ => .responde))

/-- The end of both processes. -/
def finales : List Operacion := [.finalizar 0,.finalizar 1]
def tras_finales : Estado := finales.foldl (fun m op => aplicar insertion_sorter op m) tras_jornada

theorem memory_partitioned_jornada :
    tras_jornada.lista_contextos.map Contexto.tabla_segmentos = [[⟨0,4,3⟩],[⟨0,0,4⟩]] ∧
    huecos_total_libre tras_jornada.lista_huecos = 12 - 7 ∧
    tras_finales.lista_contextos = [] ∧ huecos_total_libre tras_finales.lista_huecos = tras_finales.memoria_total := by
  have admitted : Guarded (paso insertion_sorter) (Admitida insertion_sorter) jornada (inicial 0 true (fun _ => .responde)) := by
    decide
  have admitted' : Guarded (paso insertion_sorter) (Admitida insertion_sorter) (jornada ++ finales)
      (inicial 0 true (fun _ => .responde)) := by
    decide
  have none : tras_finales.lista_contextos = [] := by decide
  refine ⟨by decide,?_,none,?_⟩
  · exact (memory_partitioned insertion_sorter 0 true (fun _ => .responde) jornada tras_jornada admitted rfl (by decide)).2.2.1
  · exact (memory_partitioned insertion_sorter 0 true (fun _ => .responde) (jornada ++ finales) tras_finales admitted' rfl
      (by decide)).2.2.2 none

end PlugNPray.Partition
