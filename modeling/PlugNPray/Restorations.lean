import PlugNPray.Addresses
import PlugNPray.LogicalView
import PlugNPray.SwapOwners

/-!
What a suspended process finds when it comes back: the bytes that it had when it went to
the swap, unless a block cannot be read or a segment not be written, which goes unnoticed.
-/
namespace PlugNPray.Restorations
open PlugNPray.Runs PlugNPray.Intervals PlugNPray.Places PlugNPray.FlatMemory PlugNPray.Huecos PlugNPray.Sticks
open PlugNPray.Sorting PlugNPray.KernelMemory
open PlugNPray.Operations PlugNPray.Compaction PlugNPray.Partition PlugNPray.SwapCopies PlugNPray.Suspensions
open PlugNPray.LogicalView PlugNPray.SwapOwners PlugNPray.Addresses

/-- Kernel Memory, and what each process had in its segments when it last went to the swap. -/
structure Vigilado where
  estado : Estado
  guardado : Int → List (Int × List UInt8)

/-- The segments of a process that are in memory, with their bytes. -/
def contenidos (m : Estado) (pid : Int) : List (Int × List UInt8) :=
  (tabla_de m.lista_contextos pid).map (contenido (plano m.lista_memory_sticks))

def anotar (m : Estado) (guardado : Int → List (Int × List UInt8)) : Operacion → Int → List (Int × List UInt8)
  | .proceso_suspender pid =>
    if (buscar_proceso_swap m pid).isNone ∧ (proceso_suspender pid m).1 = true then Function.update guardado pid (contenidos m pid)
    else guardado
  | _ => guardado

def vigilar (orden : Sorter) : Suceso → Vigilado → Vigilado
  | .pide op, v => ⟨aplicar orden op v.estado,anotar v.estado v.guardado op⟩
  | .memory_stick_eliminar fd, v => ⟨memory_stick_eliminar fd v.estado,v.guardado⟩
def vigila (orden : Sorter) (e : Suceso) (v : Vigilado) : Option Vigilado := some (vigilar orden e v)

/-- If the saved process can be placed, all its blocks can be read and all its segments be written. -/
def Responden (pid : Int) (m : Estado) : Prop := ∀ kps ∈ buscar_proceso_swap m pid, ∀ ic ∈ contexto_buscar m pid,
  ∀ puestos ∈ (ubicar m kps.2.segmentos [] m.lista_huecos).1,
    Restaurable ic.1 puestos { m with lista_huecos := (ubicar m kps.2.segmentos [] m.lista_huecos).2 }

/-- A process that comes back has its bytes, and one that cannot be read back or written whole
    stays in the swap with its blocks. -/
def Devuelve (pid : Int) (v : Vigilado) : Prop := ∀ k ps, buscar_proceso_swap v.estado pid = some (k,ps) →
  ((proceso_dessuspender pid v.estado).1 = true → ∃ vueltos,
    tabla_de (proceso_dessuspender pid v.estado).2.lista_contextos pid = tabla_de v.estado.lista_contextos pid ++ vueltos ∧
    vueltos.map (contenido (plano (proceso_dessuspender pid v.estado).2.lista_memory_sticks)) = v.guardado pid) ∧
  (¬ Responden pid v.estado → ps ∈ (proceso_dessuspender pid v.estado).2.procesos_en_swap ∧
    ∀ b ∈ ocupados ps.segmentos, (proceso_dessuspender pid v.estado).2.swap_bloques_usados[b]? = some true)

def DevuelveEn : Suceso → Vigilado → Prop
  | .pide (.proceso_dessuspender pid), v => Devuelve pid v
  | _, _ => True

/-- The holes do not overlap and end below 2^32. -/
def Separados (huecos : List Hueco) : Prop := (rangos huecos).Pairwise Range.Apart ∧ ∀ h ∈ huecos, h.base + h.tamanio < 2^32

/-- The sticks add up to less than 2^32 bytes when a process goes and when it comes back, and
    then its segments are placed in separate holes and every request is answered. -/
def Fiable : Operacion → Estado → Prop
  | .proceso_suspender _, m => tamanios m.lista_memory_sticks < 2^32
  | .proceso_dessuspender pid, m => buscar_proceso_swap m pid ≠ none →
    tamanios m.lista_memory_sticks < 2^32 ∧ Separados m.lista_huecos ∧ Responden pid m
  | _, _ => True

/-! ## Deciding the conditions -/

instance (huecos : List Hueco) : Decidable (Separados huecos) := by unfold Separados; infer_instance
instance : (r : Respuesta) → Decidable (r = .responde)
  | .responde => isTrue rfl
  | .falla _ => isFalse (fun same => by cases same)
instance (bloques : List Nat) (m : Estado) : Decidable (Legibles bloques m) := by unfold Legibles; infer_instance
instance decidableRestaurable (i : Nat) : ∀ puestos m, Decidable (Restaurable i puestos m)
  | [], _ => isTrue trivial
  | (ss,base) :: resto, m =>
    have := decidableRestaurable i resto
    inferInstanceAs (Decidable (Legibles ss.bloques m ∧
      ((leer_bloques ss.bloques [] m).2.escribir base ((leer_bloques ss.bloques [] m).1.take ss.limite)).1 = true ∧
      Restaurable i resto (((leer_bloques ss.bloques [] m).2.escribir base
        ((leer_bloques ss.bloques [] m).1.take ss.limite)).2.con_tabla i (fun tabla => tabla ++ [⟨ss.id,base,ss.limite⟩]))))
instance (pid : Int) (m : Estado) : Decidable (Responden pid m) := by unfold Responden; infer_instance
instance : ∀ op m, Decidable (Fiable op m)
  | .proceso_suspender _, m => inferInstanceAs (Decidable (tamanios m.lista_memory_sticks < 2^32))
  | .proceso_dessuspender pid, m => inferInstanceAs (Decidable (buscar_proceso_swap m pid ≠ none →
      tamanios m.lista_memory_sticks < 2^32 ∧ Separados m.lista_huecos ∧ Responden pid m))
  | .memory_stick_agregar _, _ | .contexto_crear _ _ _, _ | .segmento_crear _ _ _, _ | .segmento_eliminar _ _, _ | .compactar _, _
  | .proceso_liberar_memoria _, _ | .finalizar _, _ | .escribir _ _, _ | .swap_registrar _ _ _, _ | .swap_desregistrar, _ =>
    isTrue trivial

/-! ## Placement -/

/-- Segments that are placed in separate holes are apart, from each other and from what is left. -/
theorem ubicar_apart (m : Estado) {n : Nat} (small : n < 2^32) :
    ∀ (segmentos : List SegmentoSwap) (ubicados : List (SegmentoSwap × Nat)) (huecos : List Hueco),
      (∀ r ∈ rangos huecos, r.base + r.size ≤ n) → (∀ a, hits (ubicados.map rango_ubicado ++ rangos huecos) a ≤ 1) →
      ∀ puestos huecos', ubicar m segmentos ubicados huecos = (some puestos,huecos') →
        ∀ a, hits (puestos.map rango_ubicado ++ rangos huecos') a ≤ 1 := by
  intro segmentos
  induction segmentos with
  | nil =>
    intro ubicados huecos inside apart puestos huecos' placed
    cases placed
    exact apart
  | cons ss resto ih =>
    intro ubicados huecos inside apart puestos huecos' placed
    unfold ubicar at placed
    cases found : buscar_hueco { m with lista_huecos := huecos } ss.limite with
    | none =>
      rw [found] at placed
      cases placed
    | some kh =>
      rw [found] at placed
      obtain ⟨here,fits⟩ := buscar_hueco_sound found
      have here : huecos[kh.1]? = some kh.2 := here
      have bound := inside kh.2.rango (mem_rangos here)
      refine ih (ubicados ++ [(ss,kh.2.base)]) (hueco_ocupar huecos kh.1 ss.limite) (ocupar_inside here fits small inside) ?_
        puestos huecos' placed
      intro a
      have taken := hits_ocupar here fits bound small a
      have before := apart a
      simp only [List.map_append,hits_append,List.map_cons,List.map_nil,hits_cons,hits_nil,rango_ubicado] at before ⊢
      omega

/-! ## The invariant -/

/-- The saved segments hold what was noted for their process. -/
structure Guardado (r : Registro) (guardado : Int → List (Int × List UInt8)) : Prop where
  pids : (r.procesos_en_swap.map ProcesoSwap.pid).Nodup
  datos : ∀ ps ∈ r.procesos_en_swap,
    ps.segmentos.map (contenido_swap r.swap_block_size.toNat r.archivo_swap) = guardado ps.pid

structure Fiel (v : Vigilado) : Prop where
  ordenado : Ordenado (Estado.registro v.estado)
  direcciones : Direcciones v.estado
  guardado : Guardado (Estado.registro v.estado) v.guardado

theorem guardado_suelta {r r' : Registro} {guardado : Int → List (Int × List UInt8)} (held : Guardado r guardado) (frees : Suelta r r') :
    Guardado r' guardado := by
  rcases frees with rfl | ⟨pre,ps,post,split,rfl⟩
  · exact held
  · have fewer : (pre ++ post).Sublist r.procesos_en_swap := by
      rw [split]
      exact (List.sublist_cons_self ps post).append_left pre
    exact ⟨held.pids.sublist (fewer.map ProcesoSwap.pid),fun qs member => held.datos qs (fewer.subset member)⟩

/-- The blocks of every saved process are in use. -/
theorem usado_of_saved {r : Registro} (held : Ordenado r) {ps : ProcesoSwap} (listed : ps ∈ r.procesos_en_swap) {ss : SegmentoSwap}
    (member : ss ∈ ps.segmentos) {b : Nat} (mine : b ∈ ss.bloques) : r.swap_bloques_usados.getD b true = true :=
  ((marcado_listed held b).mpr (List.mem_flatMap.mpr ⟨ps,listed,List.mem_flatMap.mpr ⟨ss,member,mine⟩⟩)).2

/-- Blocks in use that keep their bytes keep what is saved. -/
private theorem datos_kept {m : Estado} {guardado : Int → List (Int × List UInt8)} (held : Ordenado (Estado.registro m))
    (saved : Guardado (Estado.registro m) guardado) {archivo : Nat → UInt8}
    (kept : ∀ b, m.swap_bloques_usados.getD b true = true →
      load archivo (b * m.bloque) m.bloque = load m.archivo_swap (b * m.bloque) m.bloque) {ps : ProcesoSwap}
    (listed : ps ∈ m.procesos_en_swap) : ps.segmentos.map (contenido_swap m.bloque archivo) = guardado ps.pid := by
  refine (List.map_congr_left (fun ss member => ?_)).trans (saved.datos ps listed)
  exact contenido_swap_congr (fun b mine => kept b (usado_of_saved held listed member mine))

private theorem suspender_guardado {v : Vigilado} (held : Fiel v) {pid : Int} (copiable : Copiable pid v.estado)
    (small : tamanios v.estado.lista_memory_sticks < 2^32) :
    Guardado (Estado.registro (proceso_suspender pid v.estado).2) (anotar v.estado v.guardado (.proceso_suspender pid)) := by
  obtain ⟨m,guardado⟩ := v
  obtain ⟨ordered,low,saved⟩ := held
  have ends := suspender_spec ⟨fun connected => ordered.positive.resolve_right (fun off => connected off.1),ordered.size,
    fun connected absent i c found => copiable connected absent (i,c) found⟩
  simp only [anotar]
  generalize proceso_suspender pid m = r at ends ⊢
  obtain ⟨ok,m'⟩ := r
  cases ends with
  | rechaza => simpa using saved
  | ya listed =>
    have present : ¬ (buscar_proceso_swap m pid).isNone := by simpa [Option.isSome_iff_ne_none] using listed
    rw [if_neg (fun both => present both.1)]
    exact saved
  | falla respuestas archivo kept broken =>
    rw [if_neg (by simp)]
    exact ⟨saved.pids,fun ps listed => datos_kept ordered saved kept listed⟩
  | @sale i c nuevos respuestas usados archivo connected found absent copied answered =>
    have absent' : (buscar_proceso_swap m pid).isNone := by
      rw [Option.isNone_iff_eq_none,buscar_proceso_swap,first_none]
      simpa using absent
    rw [if_pos ⟨absent',rfl⟩]
    have bases : ∀ seg ∈ c.tabla_segmentos, seg.base < 2^32 := low.segmentos c (contexto_mem found)
    refine ⟨?_,fun ps listed => ?_⟩
    · refine (congrArg List.Nodup List.map_append).mpr ?_
      refine saved.pids.append (List.nodup_singleton _) (fun p old new => ?_)
      obtain ⟨ps,listed,rfl⟩ := List.mem_map.mp old
      exact absent ps listed (by simpa using new)
    · rcases List.mem_append.mp listed with old | new
      · rw [Function.update_of_ne (absent ps old)]
        exact datos_kept ordered saved copied.others old
      · rw [List.mem_singleton.mp new,Function.update_self,contenidos,tabla_of_contexto found]
        exact copied.data small bases

private theorem registrar_guardado {m : Estado} {guardado : Int → List (Int × List UInt8)}
    (saved : Guardado (Estado.registro m) guardado) (fd block_size swap_size : Int) (none : listados m.procesos_en_swap = []) :
    Guardado (Estado.registro (swap_registrar fd block_size swap_size m)) guardado := by
  refine ⟨saved.pids,fun ps listed => Eq.trans (List.map_congr_left (fun ss member => ?_)) (saved.datos ps listed)⟩
  have blocks : ss.bloques = [] := List.flatMap_eq_nil_iff.mp (List.flatMap_eq_nil_iff.mp none ps listed) ss member
  simp only [contenido_swap,blocks,en_bloques,List.flatMap_nil]

theorem pide_fiel {orden : Sorter} {op : Operacion} {v : Vigilado} (held : Fiel v) (typed : Positiva op v.estado)
    (careful : Cuidada op v.estado) (reliable : Fiable op v.estado) : Fiel (vigilar orden (.pide op) v) := by
  refine ⟨aplicar_ordenado held.ordenado typed careful,aplicar_direcciones held.direcciones op,?_⟩
  cases swap : de_swap op with
  | false =>
    have same : anotar v.estado v.guardado op = v.guardado := by
      cases op with
      | proceso_suspender pid => cases swap
      | _ => rfl
    simp only [vigilar,registro_aplicar orden swap,same]
    exact held.guardado
  | true =>
    cases op with
    | proceso_suspender pid => exact suspender_guardado held careful reliable
    | proceso_dessuspender pid => exact guardado_suelta held.guardado (suelta_dessuspender pid v.estado)
    | proceso_liberar_memoria pid => exact guardado_suelta held.guardado (suelta_liberar pid v.estado)
    | finalizar pid => exact guardado_suelta held.guardado (suelta_finalizar pid v.estado)
    | swap_registrar fd block_size swap_size => exact registrar_guardado held.guardado fd block_size swap_size careful
    | swap_desregistrar => exact ⟨held.guardado.pids,held.guardado.datos⟩
    | _ => cases swap

theorem eliminar_fiel {orden : Sorter} {fd : Int} {v : Vigilado} (held : Fiel v) :
    Fiel (vigilar orden (.memory_stick_eliminar fd) v) :=
  ⟨held.ordenado,⟨held.direcciones.total,held.direcciones.huecos,held.direcciones.segmentos⟩,held.guardado⟩

/-! ## Coming back -/

/-- The way back of a process under the conditions. -/
private theorem devuelve_of_fiable {v : Vigilado} (held : Fiel v) {pid : Int} (reliable : Fiable (.proceso_dessuspender pid) v.estado) :
    Devuelve pid v := by
  obtain ⟨m,guardado⟩ := v
  obtain ⟨ordered,low,kept⟩ := held
  intro k ps saved
  simp only at saved ⊢
  obtain ⟨small,⟨apart,ends⟩,answers⟩ := reliable (by rw [saved]; simp)
  refine ⟨fun back => ?_,fun broken => absurd answers broken⟩
  obtain ⟨pre,post,split,_,name,_⟩ := split_of_proceso_swap saved
  have listed : ps ∈ m.procesos_en_swap := by rw [split]; simp
  have positive : 0 < m.swap_block_size := ordered.positive.resolve_right (fun off => by
    have none : m.procesos_en_swap = [] := off.2
    rw [none] at listed
    cases listed)
  have full : ∀ ss ∈ ps.segmentos, ss.limite ≤ ss.bloques.length * m.bloque := by
    intro ss member
    have count : ss.bloques.length = cuantos m.bloque ss.limite := ordered.cuentas ps listed ss member
    rw [count]
    exact le_cuantos ss.limite (by simp only [Estado.bloque]; omega)
  cases found : contexto_buscar m pid with
  | none =>
    simp only [proceso_dessuspender,saved,found] at back
    cases back
  | some ic =>
    obtain ⟨i,c⟩ := ic
    cases placed : ubicar m ps.segmentos [] m.lista_huecos with
    | mk puestos huecos =>
      cases puestos with
      | none =>
        simp only [proceso_dessuspender,saved,found,placed] at back
        cases back
      | some puestos =>
        have possible := answers (k,ps) saved (i,c) found puestos (by rw [placed]; rfl)
        rw [placed] at possible
        have names : puestos.map Prod.fst = ps.segmentos := by simpa using ubicar_names m ps.segmentos [] m.lista_huecos placed
        have bases := (bajos_ubicar m ps.segmentos [] m.lista_huecos low.huecos (by simp)).2 puestos (by rw [placed])
        have inside : ∀ r ∈ rangos m.lista_huecos, r.base + r.size ≤ 2^32 - 1 := by
          intro r member
          obtain ⟨h,hole,rfl⟩ := List.mem_map.mp member
          have bound := ends h hole
          simp only [Hueco.rango]
          omega
        have separate := ubicar_apart m (n := 2^32 - 1) (by decide) ps.segmentos [] m.lista_huecos inside
          (by simpa using hits_of_pairwise apart) puestos huecos placed
        obtain ⟨f,done,_,_,data⟩ := dessuspender_restores saved found placed names possible small full bases (rangos huecos) separate
        refine ⟨puestos.map a_segmento,?_,?_⟩
        · rw [done,tabla_of_contexto found]
          exact (tabla_con_tabla found (fun tabla => tabla ++ puestos.map a_segmento)).1
        · rw [done]
          exact data.trans ((kept.datos ps listed).trans (congrArg guardado name))

/-- In every run that meets the conditions, every process that comes back has the bytes that it left with. -/
theorem restored (orden : Sorter) (segment_max_size : Int) (allocation_best_fit : Bool) (respuestas : Nat → Respuesta)
    (guardado : Int → List (Int × List UInt8)) (sucesos : List Suceso)
    (typed : Guarded (vigila orden) (fun e v => al_pedir Positiva e v.estado) sucesos
      ⟨inicial segment_max_size allocation_best_fit respuestas,guardado⟩)
    (reliable : Guarded (vigila orden) (fun e v => al_pedir Cuidada e v.estado ∧ al_pedir Fiable e v.estado) sucesos
      ⟨inicial segment_max_size allocation_best_fit respuestas,guardado⟩) :
    Guarded (vigila orden) DevuelveEn sucesos ⟨inicial segment_max_size allocation_best_fit respuestas,guardado⟩ := by
  have start : Fiel ⟨inicial segment_max_size allocation_best_fit respuestas,guardado⟩ :=
    ⟨inicial_ordenado segment_max_size allocation_best_fit respuestas,
      inicial_direcciones segment_max_size allocation_best_fit respuestas,⟨List.nodup_nil,fun ps listed => absurd listed List.not_mem_nil⟩⟩
  refine guarded_of_invariant (fun e v v' held guards moved => ?_) (fun e v held guards => ?_) start (typed.and reliable)
  · cases moved
    cases e with
    | pide op => exact pide_fiel held guards.1 guards.2.1 guards.2.2
    | memory_stick_eliminar fd => exact eliminar_fiel held
  · cases e with
    | memory_stick_eliminar fd => trivial
    | pide op =>
      cases op with
      | proceso_dessuspender pid => exact devuelve_of_fiable held guards.2.2
      | _ => trivial

/-- A block that is not read or a segment that is not written goes unnoticed: the process is
    taken off the list all the same. -/
theorem unanswered_lost {m : Estado} {guardado : Int → List (Int × List UInt8)} {pid : Int}
    (pids : (m.procesos_en_swap.map ProcesoSwap.pid).Nodup) (unanswered : ¬ Responden pid m) : ¬ Devuelve pid ⟨m,guardado⟩ := by
  intro returns
  unfold Responden at unanswered
  push Not at unanswered
  obtain ⟨⟨k,ps⟩,saved,⟨i,c⟩,found,puestos,placed,_⟩ := unanswered
  obtain ⟨stays,_⟩ := (returns k ps saved).2 (fun answers => by
    have possible := answers (k,ps) saved (i,c) found puestos placed
    contradiction)
  have saved : buscar_proceso_swap m pid = some (k,ps) := saved
  have found : contexto_buscar m pid = some (i,c) := found
  have erased : (proceso_dessuspender pid m).2.procesos_en_swap = m.procesos_en_swap.eraseIdx k := by
    cases fit : ubicar m ps.segmentos [] m.lista_huecos with
    | mk ubicados huecos =>
      have same : ubicados = some puestos := by
        simp only [fit] at placed
        exact placed
      obtain ⟨f,_,restored⟩ := restaurar_frame i puestos { m with lista_huecos := huecos }
      simp only [proceso_dessuspender,saved,found,fit,same,restored]
      rfl
  have gone : ps ∉ m.procesos_en_swap.eraseIdx k := by
    obtain ⟨pre,post,split,rfl,_,_⟩ := split_of_proceso_swap saved
    rw [split] at pids ⊢
    rw [eraseIdx_split]
    have apart := List.perm_middle.nodup_iff.mp (by simpa using pids)
    exact fun listed => (List.nodup_cons.mp apart).1 (by simpa using List.mem_map_of_mem (f := ProcesoSwap.pid) listed)
  exact gone (erased ▸ stays)

/-- A process goes to the swap, and another one takes its place in memory. -/
def ida : List Suceso :=
  [.pide (.memory_stick_agregar ⟨3,8,"10.0.0.1",8002,fun _ => 0⟩),.pide (.swap_registrar 4 2 16),.pide (.contexto_crear 0 "a" []),
    .pide (.segmento_crear 0 5 3),.pide (.escribir 0 [7,8,9]),.pide (.proceso_suspender 0),.pide (.contexto_crear 1 "b" []),
    .pide (.segmento_crear 1 0 2)]
def nada_anotado : Vigilado := ⟨inicial 0 true (fun _ => .responde),fun _ => []⟩

theorem restored_ida_y_vuelta : Guarded (vigila insertion_sorter) DevuelveEn (ida ++ [.pide (.proceso_dessuspender 0)]) nada_anotado :=
  restored insertion_sorter 0 true (fun _ => .responde) (fun _ => []) (ida ++ [.pide (.proceso_dessuspender 0)])
    (by decide +kernel) (by decide +kernel)

def sin_swap : List Suceso := ida ++ [.pide .swap_desregistrar]
def tras_ida : Vigilado := sin_swap.foldl (fun v e => vigilar insertion_sorter e v) nada_anotado

/-- Without the connection the process comes back with zeros, and its blocks are free. -/
theorem restored_zeros : run (vigila insertion_sorter) sin_swap nada_anotado = some tras_ida ∧
    tras_ida.guardado 0 = [(5,[7,8,9])] ∧ (proceso_dessuspender 0 tras_ida.estado).1 = true ∧
    contenidos (proceso_dessuspender 0 tras_ida.estado).2 0 = [(5,[0,0,0])] ∧
    (proceso_dessuspender 0 tras_ida.estado).2.procesos_en_swap = [] ∧
    (proceso_dessuspender 0 tras_ida.estado).2.swap_bloques_usados = List.replicate 8 false ∧
    ¬ DevuelveEn (.pide (.proceso_dessuspender 0)) tras_ida :=
  ⟨run_total (vigilar insertion_sorter) sin_swap nada_anotado,by decide +kernel,by decide +kernel,by decide +kernel,
    by decide +kernel,by decide +kernel,unanswered_lost (by decide +kernel) (by decide +kernel)⟩

end PlugNPray.Restorations
