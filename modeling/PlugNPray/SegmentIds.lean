import PlugNPray.LogicalView
import PlugNPray.Mmu

/-!
Segment ids. Kernel Memory and the MMU look a segment up by the first match on its
id, in tables that are filled by requests, moved to the swap and filled again.
-/
namespace PlugNPray.SegmentIds
open PlugNPray.Runs PlugNPray.Places PlugNPray.Huecos PlugNPray.Sticks PlugNPray.Sorting PlugNPray.KernelMemory
open PlugNPray.Operations PlugNPray.Compaction PlugNPray.Partition PlugNPray.SwapCopies PlugNPray.Suspensions PlugNPray.LogicalView

/-- The ids of the segments of a process, in memory and in the swap. -/
def ids (m : Estado) (pid : Int) : List Int :=
  (tabla_de m.lista_contextos pid).map Segmento.id ++ (guardados_de m.procesos_en_swap pid).map SegmentoSwap.id

/-- No context has two segments with the same id, its saved segments included. -/
def Unicas (m : Estado) : Prop := ∀ c ∈ m.lista_contextos,
  (c.tabla_segmentos.map Segmento.id ++ (guardados_de m.procesos_en_swap c.pid).map SegmentoSwap.id).Nodup

/-- A table entry as a CPU receives it with the context. -/
def recibido (s : Segmento) : Mmu.Segmento := ⟨Int32.ofInt s.id,UInt32.ofNat s.base,UInt32.ofNat s.limite⟩

/-- The table has got the segment, and the MMU looks at it for every address in its number. -/
def Alcanza (pid id_segmento : Int) (tamanio : Nat) (m m' : Estado) : Prop := ∃ base,
  tabla_de m'.lista_contextos pid = tabla_de m.lista_contextos pid ++ [⟨id_segmento,base,tamanio⟩] ∧
  (recibido ⟨id_segmento,base,tamanio⟩).limite.toNat = tamanio ∧
  ∀ tam_max_segmento direccion_logica : UInt32, (Mmu.numero tam_max_segmento direccion_logica : Int) = id_segmento →
    Mmu.buscar_segmento_por_id ((tabla_de m'.lista_contextos pid).map recibido) (direccion_logica / tam_max_segmento).toInt32 =
      some (recibido ⟨id_segmento,base,tamanio⟩)

/-- Everything that the process had under the id is on the free list, and nothing is left under it. -/
def Libera (pid id_segmento : Int) (m m' : Estado) : Prop :=
  (∀ s ∈ tabla_de m.lista_contextos pid, s.id = id_segmento → ⟨s.base,s.limite⟩ ∈ m'.lista_huecos) ∧ id_segmento ∉ ids m' pid

/-- What a request for a segment promises. -/
def Cumple (orden : Sorter) : Operacion → Estado → Prop
  | .segmento_crear pid id_segmento tamanio, m => (segmento_crear pid id_segmento tamanio m).1 = .CREAR_SEG_OK →
    Alcanza pid id_segmento tamanio m (aplicar orden (.segmento_crear pid id_segmento tamanio) m)
  | .segmento_eliminar pid id_segmento, m => (segmento_eliminar pid id_segmento m).1 = true →
    Libera pid id_segmento m (aplicar orden (.segmento_eliminar pid id_segmento) m)
  | _, _ => True

/-- The parameters of a request for a segment have their types. -/
def Tipada : Operacion → Estado → Prop
  | .segmento_crear _ id_segmento tamanio, _ => (-2^31 ≤ id_segmento ∧ id_segmento < 2^31) ∧ tamanio < 2^32
  | _, _ => True

instance : ∀ op m, Decidable (Tipada op m)
  | .segmento_crear _ id_segmento tamanio, _ =>
    inferInstanceAs (Decidable ((-2^31 ≤ id_segmento ∧ id_segmento < 2^31) ∧ tamanio < 2^32))
  | .memory_stick_agregar _, _ | .contexto_crear _ _ _, _ | .segmento_eliminar _ _, _ | .compactar _, _ | .proceso_suspender _, _
  | .proceso_dessuspender _, _ | .proceso_liberar_memoria _, _ | .finalizar _, _ | .escribir _ _, _ | .swap_registrar _ _ _, _
  | .swap_desregistrar, _ => isTrue trivial

/-- The request is within the limit, for a process that exists, and there is a hole for it. -/
def Cabe (pid : Int) (tamanio : Nat) (m : Estado) : Prop :=
  ¬ (m.segment_max_size > 0 ∧ tamanio > a_u32 m.segment_max_size) ∧ contexto_buscar m pid ≠ none ∧ buscar_hueco m tamanio ≠ none

instance (pid : Int) (tamanio : Nat) (m : Estado) : Decidable (Cabe pid tamanio m) := by unfold Cabe; infer_instance

/-- A segment that is created has an id that its process does not use, in memory or in the swap. -/
def Nueva : Operacion → Estado → Prop
  | .segmento_crear pid id_segmento tamanio, m => Cabe pid tamanio m → id_segmento ∉ ids m pid
  | _, _ => True

instance : ∀ op m, Decidable (Nueva op m)
  | .segmento_crear pid id_segmento tamanio, m => inferInstanceAs (Decidable (Cabe pid tamanio m → id_segmento ∉ ids m pid))
  | .memory_stick_agregar _, _ | .contexto_crear _ _ _, _ | .segmento_eliminar _ _, _ | .compactar _, _ | .proceso_suspender _, _
  | .proceso_dessuspender _, _ | .proceso_liberar_memoria _, _ | .finalizar _, _ | .escribir _ _, _ | .swap_registrar _ _ _, _
  | .swap_desregistrar, _ => isTrue trivial

/-! ## The invariant -/

/-- Ids are unique and fit in an `int`; of several contexts with one pid only the first
    has segments, and no process is in the swap twice. -/
structure Identificados (m : Estado) : Prop where
  unicas : ∀ pid, (ids m pid).Nodup
  rango : ∀ pid, ∀ x ∈ ids m pid, -2^31 ≤ x ∧ x < 2^31
  ocultos : m.lista_contextos.Pairwise (fun c d => c.pid = d.pid → d.tabla_segmentos = [])
  suspendidos : (m.procesos_en_swap.map ProcesoSwap.pid).Nodup

theorem tabla_of_first {pre post : List Contexto} {c : Contexto} (least : ∀ d ∈ pre, d.pid ≠ c.pid) :
    tabla_de (pre ++ c :: post) c.pid = c.tabla_segmentos := by
  rw [tabla_de,record_here post rfl least]
  rfl

/-- A context has the table of its pid, or it is hidden behind another one and has none. -/
theorem tabla_or_hidden {cs : List Contexto} (ocultos : cs.Pairwise (fun c d => c.pid = d.pid → d.tabla_segmentos = []))
    {c : Contexto} (listed : c ∈ cs) : c.tabla_segmentos = tabla_de cs c.pid ∨ c.tabla_segmentos = [] := by
  obtain ⟨pre,post,rfl⟩ := List.append_of_mem listed
  by_cases hidden : ∃ d ∈ pre, d.pid = c.pid
  · obtain ⟨d,early,same⟩ := hidden
    exact .inr ((List.pairwise_append.mp ocultos).2.2 d early c (by simp) same)
  · exact .inl (tabla_of_first (fun d early same => hidden ⟨d,early,same⟩)).symm

theorem unicas_of_identificados {m : Estado} (known : Identificados m) : Unicas m := by
  intro c listed
  have unique := known.unicas c.pid
  rcases tabla_or_hidden known.ocultos listed with same | empty
  · rw [same]
    exact unique
  · rw [empty]
    exact (List.nodup_append.mp unique).2.1

/-- No process gets an id by the step, and the lists keep their shape. -/
structure SinNuevas (m m' : Estado) : Prop where
  ids : ∀ pid, (SegmentIds.ids m' pid).Subperm (SegmentIds.ids m pid)
  ocultos : m'.lista_contextos.Pairwise (fun c d => c.pid = d.pid → d.tabla_segmentos = [])
  suspendidos : (m'.procesos_en_swap.map ProcesoSwap.pid).Nodup

theorem identificados_of_sin_nuevas {m m' : Estado} (known : Identificados m) (step : SinNuevas m m') : Identificados m' := by
  refine ⟨fun pid => ?_,fun pid x member => known.rango pid x ((step.ids pid).subset member),step.ocultos,step.suspendidos⟩
  obtain ⟨l,perm,fewer⟩ := step.ids pid
  exact perm.nodup_iff.mp ((known.unicas pid).sublist fewer)

/-! ## Steps that give no id -/

private theorem sin_nuevas_same {m m' : Estado} (known : Identificados m) (contexts : m'.lista_contextos = m.lista_contextos)
    (saved : m'.procesos_en_swap = m.procesos_en_swap) : SinNuevas m m' := by
  refine ⟨fun pid => ?_,by rw [contexts]; exact known.ocultos,by rw [saved]; exact known.suspendidos⟩
  rw [ids,contexts,saved]
  exact List.Subperm.refl _

private theorem pairwise_modify {cs : List Contexto} (ocultos : cs.Pairwise (fun c d => c.pid = d.pid → d.tabla_segmentos = []))
    {pre post : List Contexto} {c : Contexto} (split : cs = pre ++ c :: post) (least : ∀ d ∈ pre, d.pid ≠ c.pid)
    (tabla : List Segmento) :
    (pre ++ { c with tabla_segmentos := tabla } :: post).Pairwise (fun c d => c.pid = d.pid → d.tabla_segmentos = []) := by
  rw [split] at ocultos
  obtain ⟨first,second,between⟩ := List.pairwise_append.mp ocultos
  obtain ⟨here,later⟩ := List.pairwise_cons.mp second
  refine List.pairwise_append.mpr ⟨first,List.pairwise_cons.mpr ⟨here,later⟩,fun d early e late => ?_⟩
  rcases List.mem_cons.mp late with rfl | late
  · exact fun same => absurd same (least d early)
  · exact between d early e (List.mem_cons_of_mem _ late)

/-- The table of one process edited. -/
theorem edita_shape {m : Estado} {pid : Int} {i : Nat} {c : Contexto} (known : Identificados m)
    (found : contexto_buscar m pid = some (i,c)) (f : List Segmento → List Segmento) :
    (m.con_tabla i f).lista_contextos.Pairwise (fun c d => c.pid = d.pid → d.tabla_segmentos = []) := by
  obtain ⟨pre,post,split,rfl,rfl,least⟩ := split_of_contexto found
  rw [con_tabla_split split]
  exact pairwise_modify known.ocultos split least _

private theorem sin_nuevas_con_tabla {m : Estado} {pid : Int} {i : Nat} {c : Contexto} (known : Identificados m)
    (found : contexto_buscar m pid = some (i,c)) (huecos : List Hueco) {f : List Segmento → List Segmento}
    (fewer : (f c.tabla_segmentos).Sublist c.tabla_segmentos) : SinNuevas m (Estado.con_tabla { m with lista_huecos := huecos } i f) := by
  obtain ⟨mine,others⟩ := tabla_con_tabla found f
  have tables : ∀ q, (tabla_de (m.con_tabla i f).lista_contextos q).Sublist (tabla_de m.lista_contextos q) := by
    intro q
    by_cases same : q = pid
    · subst same
      rw [mine,tabla_of_contexto found]
      exact fewer
    · rw [others q same]
  refine ⟨fun q => ?_,edita_shape known found f,known.suspendidos⟩
  exact (((tables q).map Segmento.id).append_right _).subperm

private theorem sin_nuevas_crear_contexto {m : Estado} (known : Identificados m) (pid : Int) (path : String) (instrucciones : List String) :
    SinNuevas m (contexto_crear pid path instrucciones m) := by
  have tables : ∀ q, tabla_de (m.lista_contextos ++ [⟨pid,path,instrucciones,[]⟩]) q = tabla_de m.lista_contextos q := by
    intro q
    simp only [tabla_de,record,List.find?_append]
    cases m.lista_contextos.find? (fun c => decide (c.pid = q)) with
    | some c => rfl
    | none => by_cases mine : pid = q <;> simp [mine]
  refine ⟨fun q => ?_,?_,known.suspendidos⟩
  · rw [ids,contexto_crear,tables q]
    exact List.Subperm.refl _
  · refine List.pairwise_append.mpr ⟨known.ocultos,List.pairwise_singleton _ _,fun c _ d new _ => ?_⟩
    rw [List.mem_singleton.mp new]

private theorem sin_nuevas_eliminar {m : Estado} (known : Identificados m) (pid : Int) : SinNuevas m (contexto_eliminar pid m) := by
  unfold contexto_eliminar
  cases found : contexto_buscar m pid with
  | none => exact sin_nuevas_same known rfl rfl
  | some ic =>
    obtain ⟨i,c⟩ := ic
    obtain ⟨pre,post,split,rfl,rfl,least⟩ := split_of_contexto found
    have ocultos := known.ocultos
    rw [split] at ocultos
    have tables : ∀ q, (tabla_de (pre ++ post) q).Sublist (tabla_de m.lista_contextos q) := by
      intro q
      by_cases mine : c.pid = q
      · subst mine
        have empty : tabla_de (pre ++ post) c.pid = [] := by
          unfold tabla_de
          cases hit : record Contexto.pid c.pid (pre ++ post) with
          | none => rfl
          | some d =>
            obtain ⟨listed,name⟩ := record_mem hit
            rcases List.mem_append.mp listed with early | late
            · exact absurd name (least d early)
            · exact (List.pairwise_cons.mp (List.pairwise_append.mp ocultos).2.1).1 d late name.symm
        rw [empty]
        exact List.nil_sublist _
      · rw [split,tabla_de,tabla_de,record_other pre post mine]
    refine ⟨fun q => ?_,?_,known.suspendidos⟩
    · simp only [ids,split,eraseIdx_split]
      rw [← split]
      exact (((tables q).map Segmento.id).append_right _).subperm
    · exact known.ocultos.sublist (List.eraseIdx_sublist _ _)

private theorem sin_nuevas_compactar {m : Estado} (known : Identificados m) (orden : Sorter) (altas : Nat → List Alta) :
    SinNuevas m (compactar orden altas m).2 := by
  have same := fichas_compactar orden altas m
  have saved : (compactar orden altas m).2.procesos_en_swap = m.procesos_en_swap :=
    congrArg Registro.procesos_en_swap (compactar_registro orden altas m)
  have tables : ∀ (cs ds : List Contexto), fichas ds = fichas cs → ∀ q,
      (tabla_de ds q).map Segmento.id = (tabla_de cs q).map Segmento.id := by
    intro cs
    induction cs with
    | nil =>
      intro ds same q
      rw [List.map_eq_nil_iff.mp same]
    | cons c cs ih =>
      intro ds same q
      obtain ⟨d,ds,rfl,head,tail⟩ := List.map_eq_cons_iff.mp same
      obtain ⟨name,entries⟩ := Prod.mk.inj head
      have entries : d.tabla_segmentos.map Segmento.id = c.tabla_segmentos.map Segmento.id := by
        have firsts := congrArg (List.map Prod.fst) entries
        rw [List.map_map,List.map_map] at firsts
        exact firsts
      by_cases mine : c.pid = q
      · simpa [tabla_de,record,name,mine] using entries
      · have rest := ih ds tail q
        simpa [tabla_de,record,name,mine] using rest
  refine ⟨fun q => ?_,?_,by rw [saved]; exact known.suspendidos⟩
  · rw [ids,ids,saved,tables _ _ same q]
  · have shape : ∀ cs : List Contexto, cs.Pairwise (fun c d => c.pid = d.pid → d.tabla_segmentos = []) ↔
        (fichas cs).Pairwise (fun c d => c.1 = d.1 → d.2 = []) := by
      intro cs
      simp [fichas,List.pairwise_map]
    rw [shape,same,← shape]
    exact known.ocultos

/-! ## The way to the swap and back -/

private theorem sin_nuevas_solo_swap {m m' : Estado} (known : Identificados m) (only : SoloSwap m m') : SinNuevas m m' := by
  obtain ⟨_,_,_,rfl⟩ := only
  exact sin_nuevas_same known rfl rfl

private theorem sin_nuevas_suspender {m : Estado} (known : Identificados m) (pid : Int) : SinNuevas m (proceso_suspender pid m).2 := by
  rcases suspender_frame pid m with only | ⟨i,c,nuevos,respuestas,usados,archivo,found,absent,names,done⟩
  · exact sin_nuevas_solo_swap known only
  rw [done]
  obtain ⟨mine,others⟩ := tabla_con_tabla found (fun _ => [])
  obtain ⟨sin,con,otros⟩ := guardados_append absent nuevos
  refine ⟨fun q => ?_,edita_shape known found (fun _ => []),?_⟩
  · by_cases same : q = pid
    · subst same
      have before : ids m q = c.tabla_segmentos.map Segmento.id := by
        rw [ids,tabla_of_contexto found,sin,List.map_nil,List.append_nil]
      have after : ids (suspendido q m i c nuevos respuestas usados archivo) q = nuevos.map SegmentoSwap.id := by
        refine (congrArg₂ (· ++ ·) (congrArg (List.map Segmento.id) mine) (congrArg (List.map SegmentoSwap.id) con)).trans ?_
        exact List.nil_append _
      have moved := congrArg (List.map Prod.fst) names
      simp only [List.map_map] at moved
      have moved : nuevos.map SegmentoSwap.id = c.tabla_segmentos.map Segmento.id := moved
      rw [before,after,moved]
    · have after : ids (suspendido pid m i c nuevos respuestas usados archivo) q = ids m q :=
        congrArg₂ (· ++ ·) (congrArg (List.map Segmento.id) (others q same)) (congrArg (List.map SegmentoSwap.id) (otros q same))
      rw [after]
  · refine (congrArg List.Nodup List.map_append).mpr (known.suspendidos.append (List.nodup_singleton _) (fun p old new => ?_))
    obtain ⟨ps,listed,rfl⟩ := List.mem_map.mp old
    exact absent ps listed (by simpa using new)

private theorem sin_nuevas_dessuspender {m : Estado} (known : Identificados m) (pid : Int) :
    SinNuevas m (proceso_dessuspender pid m).2 := by
  have ends := dessuspender_spec pid m
  generalize proceso_dessuspender pid m = r at ends ⊢
  obtain ⟨ok,m'⟩ := r
  cases ends with
  | nunca absent => exact sin_nuevas_same known rfl rfl
  | huerfano => exact sin_nuevas_same known rfl rfl
  | no_entra huecos => exact sin_nuevas_same known rfl rfl
  | @vuelve k i ps c puestos huecos f saved found placed names fichas =>
    change SinNuevas m (vuelto m k i ps puestos huecos f)
    obtain ⟨mine,others⟩ := tabla_con_tabla found (fun tabla => tabla ++ puestos.map a_segmento)
    obtain ⟨sin,otros⟩ := guardados_erase saved known.suspendidos
    refine ⟨fun q => ?_,edita_shape known found (fun tabla => tabla ++ puestos.map a_segmento),
      known.suspendidos.sublist ((List.eraseIdx_sublist m.procesos_en_swap k).map ProcesoSwap.pid)⟩
    by_cases same : q = pid
    · subst same
      have before : ids m q = c.tabla_segmentos.map Segmento.id ++ ps.segmentos.map SegmentoSwap.id := by
        rw [ids,tabla_of_contexto found,guardados_of_proceso saved]
      have back : (puestos.map a_segmento).map Segmento.id = ps.segmentos.map SegmentoSwap.id := by
        rw [← names,List.map_map,List.map_map]
        rfl
      have after : ids (vuelto m k i ps puestos huecos f) q = ids m q := by
        rw [before,← back,← List.map_append]
        refine (congrArg₂ (· ++ ·) (congrArg (List.map Segmento.id) mine) (congrArg (List.map SegmentoSwap.id) sin)).trans ?_
        exact List.append_nil _
      rw [after]
    · have after : ids (vuelto m k i ps puestos huecos f) q = ids m q :=
        congrArg₂ (· ++ ·) (congrArg (List.map Segmento.id) (others q same)) (congrArg (List.map SegmentoSwap.id) (otros q same))
      rw [after]

private theorem sin_nuevas_liberar_swap {m : Estado} (known : Identificados m) (pid : Int) : SinNuevas m (liberar_swap pid m) := by
  unfold liberar_swap
  cases saved : buscar_proceso_swap m pid with
  | none => exact sin_nuevas_same known rfl rfl
  | some kps =>
    obtain ⟨k,ps⟩ := kps
    obtain ⟨sin,otros⟩ := guardados_erase saved known.suspendidos
    refine ⟨fun q => ?_,known.ocultos,known.suspendidos.sublist ((List.eraseIdx_sublist _ _).map _)⟩
    refine List.Sublist.subperm ((List.Sublist.refl _).append ?_)
    by_cases same : q = pid
    · subst same
      rw [sin]
      exact List.nil_sublist _
    · rw [otros q same]

private theorem identificados_liberar {m : Estado} (known : Identificados m) (pid : Int) :
    Identificados (proceso_liberar_memoria pid m) := by
  have freed : Identificados (liberar_ram pid m) := by
    unfold liberar_ram
    cases found : contexto_buscar m pid with
    | none => exact known
    | some ic => exact identificados_of_sin_nuevas known (sin_nuevas_con_tabla known found _ (List.nil_sublist _))
  exact identificados_of_sin_nuevas freed (sin_nuevas_liberar_swap freed pid)

/-! ## Requests for segments -/

/-- What a granted request does, and that the others do nothing. -/
theorem crear_cases (pid id_segmento : Int) (tamanio : Nat) (m : Estado) :
    (Cabe pid tamanio m ∧ ∃ i c k hueco, contexto_buscar m pid = some (i,c) ∧ buscar_hueco m tamanio = some (k,hueco) ∧
      segmento_crear pid id_segmento tamanio m = (.CREAR_SEG_OK,Estado.con_tabla
        { m with lista_huecos := hueco_ocupar m.lista_huecos k tamanio } i (fun tabla => tabla ++ [⟨id_segmento,hueco.base,tamanio⟩]))) ∨
    (¬ Cabe pid tamanio m ∧ (segmento_crear pid id_segmento tamanio m).1 ≠ .CREAR_SEG_OK ∧
      (segmento_crear pid id_segmento tamanio m).2 = m) := by
  unfold segmento_crear Cabe
  by_cases large : m.segment_max_size > 0 ∧ tamanio > a_u32 m.segment_max_size
  · rw [if_pos large]
    exact .inr ⟨fun fits => fits.1 large,by simp,rfl⟩
  rw [if_neg large]
  cases found : contexto_buscar m pid with
  | none => exact .inr ⟨by simp,by simp,rfl⟩
  | some ic =>
    obtain ⟨i,c⟩ := ic
    cases hole : buscar_hueco m tamanio with
    | none =>
      refine .inr ⟨by simp,?_,rfl⟩
      simp only
      split_ifs <;> simp
    | some kh => exact .inl ⟨⟨large,by simp,by simp⟩,i,c,kh.1,kh.2,rfl,rfl,rfl⟩

/-- The ids after a granted request. -/
private theorem ids_crear {m : Estado} {pid id_segmento : Int} {tamanio i : Nat} {c : Contexto} {huecos : List Hueco} {base : Nat}
    (found : contexto_buscar m pid = some (i,c)) :
    (ids (Estado.con_tabla { m with lista_huecos := huecos } i (fun tabla => tabla ++ [⟨id_segmento,base,tamanio⟩])) pid).Perm
        (id_segmento :: ids m pid) ∧
    ∀ q, q ≠ pid → ids (Estado.con_tabla { m with lista_huecos := huecos } i
      (fun tabla => tabla ++ [⟨id_segmento,base,tamanio⟩])) q = ids m q := by
  obtain ⟨mine,others⟩ := tabla_con_tabla found (fun tabla => tabla ++ [⟨id_segmento,base,tamanio⟩])
  refine ⟨?_,fun q other => congrArg (· ++ _) (congrArg (List.map Segmento.id) (others q other))⟩
  have after : ids (Estado.con_tabla { m with lista_huecos := huecos } i (fun tabla => tabla ++ [⟨id_segmento,base,tamanio⟩])) pid =
      (c.tabla_segmentos ++ [(⟨id_segmento,base,tamanio⟩ : Segmento)]).map Segmento.id ++
        (guardados_de m.procesos_en_swap pid).map SegmentoSwap.id :=
    congrArg (· ++ _) (congrArg (List.map Segmento.id) mine)
  rw [after,ids,tabla_of_contexto found,List.map_append,List.append_assoc]
  exact List.perm_middle

private theorem identificados_crear {m : Estado} (known : Identificados m) {pid id_segmento : Int} {tamanio : Nat}
    (typed : -2^31 ≤ id_segmento ∧ id_segmento < 2^31) (fresh : Cabe pid tamanio m → id_segmento ∉ ids m pid) :
    Identificados (segmento_crear pid id_segmento tamanio m).2 := by
  rcases crear_cases pid id_segmento tamanio m with ⟨fits,i,c,k,hueco,found,hole,done⟩ | ⟨_,_,same⟩
  · obtain ⟨mine,others⟩ := @ids_crear m pid id_segmento tamanio i c (hueco_ocupar m.lista_huecos k tamanio) hueco.base found
    rw [done]
    refine ⟨fun q => ?_,fun q x member => ?_,
      edita_shape known found (fun tabla => tabla ++ [(⟨id_segmento,hueco.base,tamanio⟩ : Segmento)]),known.suspendidos⟩
    · by_cases same : q = pid
      · subst same
        exact mine.nodup_iff.mpr (List.nodup_cons.mpr ⟨fresh fits,known.unicas q⟩)
      · exact (others q same).symm ▸ known.unicas q
    · by_cases same : q = pid
      · subst same
        rcases List.mem_cons.mp (mine.mem_iff.mp member) with rfl | old
        · exact typed
        · exact known.rango q x old
      · exact known.rango q x ((others q same) ▸ member)
  · rw [same]
    exact known

theorem aplicar_identificados (orden : Sorter) {op : Operacion} {m : Estado} (known : Identificados m) (typed : Tipada op m)
    (fresh : Nueva op m) : Identificados (aplicar orden op m) := by
  cases op with
  | memory_stick_agregar a => exact identificados_of_sin_nuevas known (sin_nuevas_same known rfl rfl)
  | contexto_crear pid path instrucciones =>
    exact identificados_of_sin_nuevas known (sin_nuevas_crear_contexto known pid path instrucciones)
  | segmento_crear pid id_segmento tamanio => exact identificados_crear known typed.1 fresh
  | segmento_eliminar pid id_segmento =>
    simp only [aplicar,KernelMemory.segmento_eliminar]
    cases found : contexto_buscar m pid with
    | none => exact known
    | some ic =>
      cases hit : buscar_segmento ic.2 id_segmento with
      | none =>
        simp only [hit]
        exact known
      | some js =>
        simp only [hit]
        exact identificados_of_sin_nuevas known (sin_nuevas_con_tabla known found _ (List.eraseIdx_sublist _ _))
  | compactar altas => exact identificados_of_sin_nuevas known (sin_nuevas_compactar known orden altas)
  | proceso_suspender pid => exact identificados_of_sin_nuevas known (sin_nuevas_suspender known pid)
  | proceso_dessuspender pid => exact identificados_of_sin_nuevas known (sin_nuevas_dessuspender known pid)
  | proceso_liberar_memoria pid => exact identificados_liberar known pid
  | finalizar pid =>
    have freed := identificados_liberar known pid
    exact identificados_of_sin_nuevas freed (sin_nuevas_eliminar freed pid)
  | escribir dir_fisica bytes => exact identificados_of_sin_nuevas known (sin_nuevas_same known rfl rfl)
  | swap_registrar fd block_size swap_size => exact identificados_of_sin_nuevas known (sin_nuevas_same known rfl rfl)
  | swap_desregistrar => exact identificados_of_sin_nuevas known (sin_nuevas_same known rfl rfl)

/-! ## What the requests promise -/

/-- Among entries with other ids the MMU finds the one with the id. -/
private theorem encuentra {tabla : List Segmento} {id_segmento : Int} {base tamanio : Nat}
    (typed : -2^31 ≤ id_segmento ∧ id_segmento < 2^31) (bounded : ∀ s ∈ tabla, -2^31 ≤ s.id ∧ s.id < 2^31)
    (fresh : ∀ s ∈ tabla, s.id ≠ id_segmento) (tam_max_segmento direccion_logica : UInt32)
    (here : (Mmu.numero tam_max_segmento direccion_logica : Int) = id_segmento) :
    Mmu.buscar_segmento_por_id ((tabla ++ [(⟨id_segmento,base,tamanio⟩ : Segmento)]).map recibido)
        (direccion_logica / tam_max_segmento).toInt32 = some (recibido ⟨id_segmento,base,tamanio⟩) := by
  have back : ∀ i : Int, -2^31 ≤ i ∧ i < 2^31 → (Int32.ofInt i).toInt = i :=
    fun i range => Int32.toInt_ofInt_of_le (by have := range.1; omega) (by have := range.2; omega)
  have quotient : (direccion_logica / tam_max_segmento).toNat = Mmu.numero tam_max_segmento direccion_logica := UInt32.toNat_div _ _
  have number : (direccion_logica / tam_max_segmento).toInt32.toInt = id_segmento := by
    rw [Mmu.toInt_toInt32,quotient,if_pos (by omega),here]
  rw [Mmu.buscar_numero,number,Mmu.segmento_numero,List.map_append,List.find?_append]
  have before : (tabla.map recibido).find? (fun s => decide (s.id.toInt = id_segmento)) = none := by
    refine List.find?_eq_none.mpr (fun s member => ?_)
    obtain ⟨t,listed,rfl⟩ := List.mem_map.mp member
    simp [recibido,back t.id (bounded t listed),fresh t listed]
  rw [before]
  simp [recibido,back id_segmento typed]

private theorem crear_cumple (orden : Sorter) {m : Estado} (known : Identificados m) {pid id_segmento : Int} {tamanio : Nat}
    (typed : Tipada (.segmento_crear pid id_segmento tamanio) m) (fresh : Nueva (.segmento_crear pid id_segmento tamanio) m) :
    Cumple orden (.segmento_crear pid id_segmento tamanio) m := by
  intro granted
  rcases crear_cases pid id_segmento tamanio m with ⟨fits,i,c,k,hueco,found,hole,done⟩ | ⟨_,refused,_⟩
  · have unused := fresh fits
    have bounded := known.rango pid
    rw [ids,tabla_of_contexto found] at unused bounded
    have table : tabla_de (aplicar orden (.segmento_crear pid id_segmento tamanio) m).lista_contextos pid =
        c.tabla_segmentos ++ [⟨id_segmento,hueco.base,tamanio⟩] := by
      rw [aplicar,done]
      exact (tabla_con_tabla found (fun tabla => tabla ++ [⟨id_segmento,hueco.base,tamanio⟩])).1
    refine ⟨hueco.base,by rw [table,tabla_of_contexto found],?_,fun tam_max_segmento direccion_logica here => ?_⟩
    · exact (UInt32.toNat_ofNat_of_lt (by simpa [UInt32.size] using typed.2))
    · rw [table]
      refine encuentra typed.1 (fun s member => ?_) (fun s member same => ?_) tam_max_segmento direccion_logica here
      · exact bounded s.id (List.mem_append_left _ (List.mem_map_of_mem member))
      · exact unused (List.mem_append_left _ (same ▸ List.mem_map_of_mem member))
  · exact absurd granted refused

private theorem eliminar_cumple (orden : Sorter) {m : Estado} (known : Identificados m) (pid id_segmento : Int) :
    Cumple orden (.segmento_eliminar pid id_segmento) m := by
  intro done
  simp only [Libera,aplicar]
  simp only [segmento_eliminar] at done ⊢
  cases found : contexto_buscar m pid with
  | none =>
    rw [found] at done
    cases done
  | some ic =>
    obtain ⟨i,c⟩ := ic
    cases hit : buscar_segmento c id_segmento with
    | none =>
      simp only [found,hit] at done
      cases done
    | some js =>
      obtain ⟨j,seg⟩ := js
      simp only [hit]
      obtain ⟨pre,post,entries,rfl,same,least⟩ := split_of_first hit
      have same : seg.id = id_segmento := by simpa using same
      have unique := known.unicas pid
      rw [ids,tabla_of_contexto found,entries] at unique
      simp only [List.map_append,List.map_cons,List.append_assoc,List.cons_append] at unique
      have gone := (List.perm_middle.nodup_iff.mp unique)
      obtain ⟨alone,_⟩ := List.nodup_cons.mp gone
      rw [same] at alone
      refine ⟨fun s member named => ?_,?_⟩
      · rw [tabla_of_contexto found,entries] at member
        have found_here : s = seg := by
          rcases List.mem_append.mp member with early | late
          · exact absurd (List.mem_append_left _ (List.mem_map_of_mem early)) (named ▸ alone)
          · rcases List.mem_cons.mp late with rfl | late
            · rfl
            · exact absurd (List.mem_append_right _ (List.mem_append_left _ (List.mem_map_of_mem late))) (named ▸ alone)
        subst found_here
        exact List.mem_append_right _ (List.mem_singleton_self _)
      · have after : ids (Estado.con_tabla { m with lista_huecos := hueco_liberar m.lista_huecos seg.base seg.limite } i
            (fun tabla => tabla.eraseIdx pre.length)) pid = (c.tabla_segmentos.eraseIdx pre.length).map Segmento.id ++
              (guardados_de m.procesos_en_swap pid).map SegmentoSwap.id :=
          congrArg (· ++ _) (congrArg (List.map Segmento.id) (tabla_con_tabla found (fun tabla => tabla.eraseIdx pre.length)).1)
        rw [after,entries,eraseIdx_split,List.map_append,List.append_assoc]
        exact alone

/-- A granted request with an id that is in use leaves two segments with the id. -/
private theorem repetida {orden : Sorter} {m : Estado} {pid id_segmento : Int} {tamanio : Nat}
    (fits : Cabe pid tamanio m) (used : id_segmento ∈ ids m pid) :
    ¬ Unicas (aplicar orden (.segmento_crear pid id_segmento tamanio) m) := by
  intro unique
  rcases crear_cases pid id_segmento tamanio m with ⟨_,i,c,k,hueco,found,hole,done⟩ | ⟨refused,_⟩
  · simp only [aplicar,done] at unique
    obtain ⟨pre,post,split,rfl,rfl,least⟩ := split_of_contexto found
    have filled := con_tabla_split (m := { m with lista_huecos := hueco_ocupar m.lista_huecos k tamanio }) split
      (fun tabla => tabla ++ [⟨id_segmento,hueco.base,tamanio⟩])
    rw [filled] at unique
    have here := unique { c with tabla_segmentos := c.tabla_segmentos ++ [⟨id_segmento,hueco.base,tamanio⟩] } (by simp)
    simp only [List.map_append,List.map_cons,List.map_nil,List.append_assoc,List.singleton_append] at here
    obtain ⟨alone,_⟩ := List.nodup_cons.mp (List.perm_middle.nodup_iff.mp here)
    rw [ids,tabla_of_contexto found] at used
    exact alone used
  · exact refused fits

/-- For one request: ids stay unique and the requests keep their promises exactly when no
    segment is created with an id in use. -/
private theorem pasos_exactos (orden : Sorter) {op : Operacion} {m : Estado} (known : Identificados m) (typed : Tipada op m) :
    (Unicas (aplicar orden op m) ∧ Cumple orden op m) ↔ Nueva op m := by
  constructor
  · rintro ⟨unique,_⟩
    cases op with
    | segmento_crear pid id_segmento tamanio => exact fun fits used => repetida fits used unique
    | _ => trivial
  · intro fresh
    refine ⟨unicas_of_identificados (aplicar_identificados orden known typed fresh),?_⟩
    cases op with
    | segmento_crear pid id_segmento tamanio => exact crear_cumple orden known typed fresh
    | segmento_eliminar pid id_segmento => exact eliminar_cumple orden known pid id_segmento
    | _ => trivial

/-- Along a run the ids of every process stay unique, a new segment is the one that the MMU
    finds and a deletion leaves nothing under its id, exactly when every segment is created
    with an id that its process does not use. -/
theorem ids_unique_iff (orden : Sorter) (segment_max_size : Int) (allocation_best_fit : Bool) (respuestas : Nat → Respuesta)
    (sucesos : List Suceso)
    (typed : Guarded (sucede orden) (al_pedir Tipada) sucesos (inicial segment_max_size allocation_best_fit respuestas)) :
    Guarded (sucede orden) (fun e m => Unicas (suceder orden e m) ∧ al_pedir (Cumple orden) e m) sucesos
        (inicial segment_max_size allocation_best_fit respuestas) ↔
      Guarded (sucede orden) (al_pedir Nueva) sucesos (inicial segment_max_size allocation_best_fit respuestas) := by
  have start : Identificados (inicial segment_max_size allocation_best_fit respuestas) :=
    ⟨fun _ => List.nodup_nil,fun _ _ none => absurd none List.not_mem_nil,List.Pairwise.nil,List.nodup_nil⟩
  have leaves : ∀ fd m, Identificados m → Identificados (memory_stick_eliminar fd m) :=
    fun fd m known => identificados_of_sin_nuevas known (sin_nuevas_same known rfl rfl)
  have keeps : ∀ e m m', Identificados m → al_pedir Tipada e m → al_pedir Nueva e m → sucede orden e m = some m' → Identificados m' := by
    intro e m m' known typed fresh moved
    cases moved
    cases e with
    | pide op => exact aplicar_identificados orden known typed fresh
    | memory_stick_eliminar fd => exact leaves fd m known
  have sharp : ∀ e m, Identificados m → al_pedir Tipada e m →
      (Unicas (suceder orden e m) ∧ al_pedir (Cumple orden) e m ↔ al_pedir Nueva e m) := by
    intro e m known typed
    cases e with
    | pide op => exact pasos_exactos orden known typed
    | memory_stick_eliminar fd => exact iff_of_true ⟨unicas_of_identificados (leaves fd m known),trivial⟩ trivial
  exact guarded_congr keeps sharp start typed

/-- Segments come, go to the swap, come back and go under ids that are in use only once. -/
def ids_sueltos : List Suceso :=
  [.pide (.memory_stick_agregar ⟨3,12,"10.0.0.1",8002,fun _ => 0⟩),.pide (.swap_registrar 4 2 16),.pide (.contexto_crear 0 "a" []),
    .pide (.segmento_crear 0 3 5),.pide (.proceso_suspender 0),.pide (.segmento_crear 0 1 4),.pide (.proceso_dessuspender 0),
    .pide (.segmento_eliminar 0 3),.pide (.segmento_crear 0 3 2),.memory_stick_eliminar 3]

theorem ids_unique_sueltos :
    Guarded (sucede insertion_sorter) (fun e m => Unicas (suceder insertion_sorter e m) ∧ al_pedir (Cumple insertion_sorter) e m) ids_sueltos
      (inicial 64 true (fun _ => .responde)) :=
  (ids_unique_iff insertion_sorter 64 true (fun _ => .responde) ids_sueltos (by decide +kernel)).mpr (by decide +kernel)

/-- A second segment with id three is created, the MMU still finds the first one, and when
    the process deletes its segment three the second one stays. -/
def id_repetido : List Suceso :=
  [.pide (.memory_stick_agregar ⟨3,12,"10.0.0.1",8002,fun _ => 0⟩),.pide (.contexto_crear 0 "a" []),.pide (.segmento_crear 0 3 5)]
def otra_vez : List Suceso := id_repetido ++ [.pide (.segmento_crear 0 3 7)]
def tras_repetido (sucesos : List Suceso) : Estado :=
  sucesos.foldl (fun m e => suceder insertion_sorter e m) (inicial 64 true (fun _ => .responde))

theorem ids_repeated : run (sucede insertion_sorter) otra_vez (inicial 64 true (fun _ => .responde)) = some (tras_repetido otra_vez) ∧
    (segmento_crear 0 3 7 (tras_repetido id_repetido)).1 = .CREAR_SEG_OK ∧ ¬ Unicas (tras_repetido otra_vez) ∧
    ¬ Alcanza 0 3 7 (tras_repetido id_repetido) (tras_repetido otra_vez) ∧
    (segmento_eliminar 0 3 (tras_repetido otra_vez)).1 = true ∧
    ¬ Libera 0 3 (tras_repetido otra_vez) (segmento_eliminar 0 3 (tras_repetido otra_vez)).2 := by
  have table : tabla_de (tras_repetido otra_vez).lista_contextos 0 = [⟨3,0,5⟩,⟨3,5,7⟩] := by decide +kernel
  refine ⟨run_total (suceder insertion_sorter) ..,by decide +kernel,?_,?_,by decide +kernel,?_⟩
  · exact @repetida insertion_sorter (tras_repetido id_repetido) 0 3 7 (by decide +kernel) (by decide +kernel)
  · rintro ⟨base,_,_,found⟩
    have first := found 64 192 (by decide)
    rw [table] at first
    exact absurd (congrArg (Option.map Mmu.Segmento.limite) first) (by simp only [recibido,Option.map_some]; decide)
  · rintro ⟨_,left⟩
    revert left
    decide +kernel

end PlugNPray.SegmentIds
