import PlugNPray.Operations

/-!
Compaction turn by turn: the segments already placed tile the start of memory and
the ones still to be moved lie above, in the order of their bases.
-/
namespace PlugNPray.Compaction
open PlugNPray.Intervals PlugNPray.Places PlugNPray.FlatMemory PlugNPray.Huecos PlugNPray.Sticks
open PlugNPray.Sorting PlugNPray.KernelMemory PlugNPray.Operations

def rango (s : Segmento) : Range := ⟨s.base,s.limite⟩
/-- The addresses of the segments in memory, one range for each segment of each context. -/
def residentes (contextos : List Contexto) : List Range := contextos.flatMap (fun c => c.tabla_segmentos.map rango)
/-- The table entry at a place. -/
def entrada (contextos : List Contexto) (p : Nat × Nat) : Option Segmento :=
  (contextos[p.1]?).bind (fun c => c.tabla_segmentos[p.2]?)

@[simp] theorem residentes_nil : residentes [] = [] := rfl
@[simp] theorem residentes_cons (c : Contexto) (cs : List Contexto) :
    residentes (c :: cs) = c.tabla_segmentos.map rango ++ residentes cs := rfl
@[simp] theorem residentes_append (cs ds : List Contexto) : residentes (cs ++ ds) = residentes cs ++ residentes ds :=
  List.flatMap_append

theorem rango_mem {cs : List Contexto} {c : Contexto} {s : Segmento} (listed : c ∈ cs) (member : s ∈ c.tabla_segmentos) :
    rango s ∈ residentes cs :=
  List.mem_flatMap.mpr ⟨c,listed,List.mem_map_of_mem member⟩

/-! ## Entries by place -/

theorem split_of_entrada {cs : List Contexto} {p : Nat × Nat} {s : Segmento} (here : entrada cs p = some s) :
    ∃ pre c post tpre tpost, cs = pre ++ c :: post ∧ c.tabla_segmentos = tpre ++ s :: tpost ∧
      p = (pre.length,tpre.length) := by
  obtain ⟨c,outer,inner⟩ := Option.bind_eq_some_iff.mp here
  obtain ⟨pre,post,split,place⟩ := split_of_getElem? outer
  obtain ⟨tpre,tpost,entries,place'⟩ := split_of_getElem? inner
  exact ⟨pre,c,post,tpre,tpost,split,entries,by rw [place,place']⟩

theorem mover_split {m : Estado} {pre post : List Contexto} {c : Contexto} {tpre tpost : List Segmento} {s : Segmento}
    (split : m.lista_contextos = pre ++ c :: post) (entries : c.tabla_segmentos = tpre ++ s :: tpost) (destino : Nat) :
    m.mover (pre.length,tpre.length) destino = { m with
      lista_contextos := pre ++ { c with tabla_segmentos := tpre ++ { s with base := destino } :: tpost } :: post } := by
  rw [Estado.mover,con_tabla_split split,entries,modify_split]

theorem entrada_mover {m : Estado} {p q : Nat × Nat} (other : q ≠ p) (destino : Nat) :
    entrada (m.mover p destino).lista_contextos q = entrada m.lista_contextos q := by
  obtain ⟨i,j⟩ := p
  obtain ⟨k,l⟩ := q
  simp only [entrada,Estado.mover,Estado.con_tabla,List.getElem?_modify]
  by_cases same : i = k
  · subst same
    have different : j ≠ l := fun h => other (by rw [h])
    cases m.lista_contextos[i]? with
    | none => rfl
    | some c => simp [List.getElem?_modify_ne _ _ different]
  · simp [same]

theorem punteros_rangos (m : Estado) :
    (todos_los_segmentos m).map (fun q => rango q.2) = residentes m.lista_contextos := by
  have inner : ∀ ci : Contexto × Nat, (ci.1.tabla_segmentos.zipIdx.map (fun sj => ((ci.2,sj.2),sj.1))).map
      (fun q : Puntero => rango q.2) = ci.1.tabla_segmentos.map rango := by
    intro ci
    rw [List.map_map]
    calc ci.1.tabla_segmentos.zipIdx.map (fun sj => rango sj.1)
        = (ci.1.tabla_segmentos.zipIdx.map Prod.fst).map rango := by rw [List.map_map]; rfl
      _ = ci.1.tabla_segmentos.map rango := by rw [List.zipIdx_map_fst]
  rw [todos_los_segmentos,List.map_flatMap]
  simp only [inner]
  calc m.lista_contextos.zipIdx.flatMap (fun ci => ci.1.tabla_segmentos.map rango)
      = (m.lista_contextos.zipIdx.map Prod.fst).flatMap (fun c => c.tabla_segmentos.map rango) := by
        rw [List.flatMap_map]
    _ = residentes m.lista_contextos := by rw [List.zipIdx_map_fst]; rfl

theorem punteros_entrada {m : Estado} {q : Puntero} (member : q ∈ todos_los_segmentos m) :
    entrada m.lista_contextos q.1 = some q.2 := by
  obtain ⟨ci,outer,inner⟩ := List.mem_flatMap.mp member
  obtain ⟨sj,entry,rfl⟩ := List.mem_map.mp inner
  simp only [entrada,List.mem_zipIdx_iff_getElem?.mp outer,Option.bind_some]
  exact List.mem_zipIdx_iff_getElem?.mp entry

theorem punteros_nodup (m : Estado) : ((todos_los_segmentos m).map Prod.fst).Nodup := by
  rw [todos_los_segmentos,List.map_flatMap,List.nodup_flatMap]
  refine ⟨fun ci _ => ?_,?_⟩
  · rw [List.map_map]
    have places := List.nodup_zipIdx_map_snd ci.1.tabla_segmentos
    have pairs := places.map (f := fun j => (ci.2,j)) (fun a b same => (Prod.mk.inj same).2)
    rwa [List.map_map] at pairs
  · refine List.Pairwise.imp ?_ (List.pairwise_map.mp (List.nodup_zipIdx_map_snd m.lista_contextos))
    intro ci di different p first second
    obtain ⟨q,listed,rfl⟩ := List.mem_map.mp first
    obtain ⟨_,_,rfl⟩ := List.mem_map.mp listed
    obtain ⟨q,listed,same⟩ := List.mem_map.mp second
    obtain ⟨_,_,rfl⟩ := List.mem_map.mp listed
    exact different (Prod.mk.inj same).1.symm

/-! ## Sticks that connect meanwhile -/

theorem agregar_todos_sticks (altas : List Alta) (m : Estado) :
    tamanios m.lista_memory_sticks ≤ tamanios (agregar_todos altas m).lista_memory_sticks := by
  induction altas generalizing m with
  | nil => exact le_refl _
  | cons a resto ih =>
    refine le_trans ?_ (ih (memory_stick_agregar a m))
    simp [memory_stick_agregar]

theorem agregar_todos_append (altas : List Alta) (m : Estado) :
    ∃ nuevos, (agregar_todos altas m).lista_memory_sticks = m.lista_memory_sticks ++ nuevos := by
  induction altas generalizing m with
  | nil => exact ⟨[],(List.append_nil _).symm⟩
  | cons a resto ih =>
    obtain ⟨nuevos,same⟩ := ih (memory_stick_agregar a m)
    exact ⟨_,same.trans (List.append_assoc _ _ _)⟩

theorem agregar_todos_contextos (altas : List Alta) (m : Estado) :
    (agregar_todos altas m).lista_contextos = m.lista_contextos := by
  induction altas generalizing m with
  | nil => rfl
  | cons a resto ih => exact ih (memory_stick_agregar a m)

/-- While the sticks fit in 32 bits the total is the sum of their sizes, and of the ones that left. -/
theorem agregar_todos_total {fuera : Nat} {m : Estado} (altas : List Alta)
    (total : m.memoria_total = tamanios m.lista_memory_sticks + fuera)
    (small : tamanios (agregar_todos altas m).lista_memory_sticks + fuera < 2^32) :
    (agregar_todos altas m).memoria_total = tamanios (agregar_todos altas m).lista_memory_sticks + fuera := by
  induction altas generalizing m with
  | nil => exact total
  | cons a resto ih =>
    have sum : tamanios (memory_stick_agregar a m).lista_memory_sticks = tamanios m.lista_memory_sticks + a.tamanio := by
      simp [memory_stick_agregar]
    have bound := agregar_todos_sticks resto (memory_stick_agregar a m)
    have small' : tamanios (agregar_todos resto (memory_stick_agregar a m)).lista_memory_sticks + fuera < 2^32 := small
    have fits : m.memoria_total + a.tamanio < 2^32 := by omega
    have added : (memory_stick_agregar a m).memoria_total = m.memoria_total + a.tamanio := u32_of_lt fits
    exact ih (by rw [added,sum]; omega) small

/-! ## The invariant of the moves -/

/-- Between two moves: the entries still to be moved, in order, are as they were
    collected and lie from `destino` on, and the others tile what is below. The total
    still counts `fuera` bytes of sticks that left. -/
structure Turno (fuera destino : Nat) (pendientes : List Puntero) (colocados : List Range) (m : Estado) : Prop where
  listed : ∀ q ∈ pendientes, entrada m.lista_contextos q.1 = some q.2
  distinct : (pendientes.map Prod.fst).Nodup
  residents : (residentes m.lista_contextos).Perm (pendientes.map (fun q => rango q.2) ++ colocados)
  placed : Covers colocados destino
  slides : Slides destino (pendientes.map (fun q => rango q.2))
  total : m.memoria_total = tamanios m.lista_memory_sticks + fuera
  room : ∀ r ∈ residentes m.lista_contextos, r.base + r.size ≤ m.memoria_total
  sum : destino + sizes (pendientes.map (fun q => rango q.2)) ≤ m.memoria_total

theorem turno_inicial (orden : Sorter) {fuera : Nat} {m : Estado} (total : m.memoria_total = tamanios m.lista_memory_sticks + fuera)
    (covers : Covers (rangos m.lista_huecos ++ residentes m.lista_contextos) m.memoria_total) :
    Turno fuera 0 (orden.sort comparar_segmentos_por_base (todos_los_segmentos m)) [] m := by
  have perm := orden.perm comparar_segmentos_por_base (todos_los_segmentos m)
  have sorted := orden.sorted (fun q : Puntero => q.2.base) (todos_los_segmentos m)
  have ranges := perm.map (fun q => rango q.2)
  rw [punteros_rangos] at ranges
  have inside : ∀ r ∈ residentes m.lista_contextos, r.base + r.size ≤ m.memoria_total :=
    fun r member => covers.inside r (List.mem_append_right _ member)
  have apart : ∀ a, hits (residentes m.lista_contextos) a ≤ 1 := by
    intro a
    have once := covers.once a
    rw [hits_append,one] at once
    split_ifs at once <;> omega
  refine ⟨fun q member => punteros_entrada (perm.mem_iff.mp member),(perm.map Prod.fst).nodup_iff.mpr (punteros_nodup m),
    by simpa using ranges.symm,⟨fun a => ?_,fun r member => by cases member⟩,?_,total,inside,?_⟩
  · simp [one]
  · refine slides_of_sorted (List.pairwise_map.mpr sorted) (fun a => ?_)
    rw [hits_perm ranges a]
    exact apart a
  · rw [Nat.zero_add,sizes_perm ranges]
    exact sizes_le_of_hits inside apart

theorem turno_altas {fuera destino : Nat} {pendientes : List Puntero} {colocados : List Range} {m : Estado}
    (turno : Turno fuera destino pendientes colocados m) (altas : List Alta)
    (small : tamanios (agregar_todos altas m).lista_memory_sticks + fuera < 2^32) :
    Turno fuera destino pendientes colocados (agregar_todos altas m) := by
  have total := agregar_todos_total altas turno.total small
  have grown : m.memoria_total ≤ (agregar_todos altas m).memoria_total := by
    rw [total,turno.total]
    exact Nat.add_le_add_right (agregar_todos_sticks altas m) fuera
  have same := agregar_todos_contextos altas m
  exact ⟨by rw [same]; exact turno.listed,turno.distinct,by rw [same]; exact turno.residents,turno.placed,turno.slides,total,
    by rw [same]; exact fun r member => (turno.room r member).trans grown,turno.sum.trans grown⟩

theorem turno_con_datos {fuera destino : Nat} {pendientes : List Puntero} {colocados : List Range} {m : Estado}
    (turno : Turno fuera destino pendientes colocados m) {f : Fisica} (usados : List Bool) (archivo : Nat → UInt8)
    (same : tamanios f.lista_memory_sticks = tamanios m.lista_memory_sticks) :
    Turno fuera destino pendientes colocados (Estado.con_datos m f usados archivo) :=
  ⟨turno.listed,turno.distinct,turno.residents,turno.placed,turno.slides,turno.total.trans (congrArg (· + fuera) same.symm),
    turno.room,turno.sum⟩

/-- The ranges of the entries other than the one at a place. -/
def otros (pre post : List Contexto) (tpre tpost : List Segmento) : List Range :=
  residentes pre ++ (tpre.map rango ++ (tpost.map rango ++ residentes post))

theorem residentes_around (pre post : List Contexto) (c : Contexto) (tpre tpost : List Segmento) (s : Segmento) :
    (residentes (pre ++ { c with tabla_segmentos := tpre ++ s :: tpost } :: post)).Perm
      (rango s :: otros pre post tpre tpost) := by
  have moved : (residentes pre ++ tpre.map rango ++ rango s :: (tpost.map rango ++ residentes post)).Perm
      (rango s :: (residentes pre ++ tpre.map rango ++ (tpost.map rango ++ residentes post))) := List.perm_middle
  simpa [otros] using moved

/-- The entry whose turn it is gets its new base; every other entry keeps its own. -/
theorem turno_mover {fuera destino : Nat} {p : Nat × Nat} {s : Segmento} {resto : List Puntero} {colocados : List Range} {m : Estado}
    (turno : Turno fuera destino ((p,s) :: resto) colocados m) :
    Turno fuera (destino + s.limite) resto (⟨destino,s.limite⟩ :: colocados) (m.mover p destino) := by
  have here := turno.listed (p,s) (by simp)
  obtain ⟨pre,c,post,tpre,tpost,split,entries,rfl⟩ := split_of_entrada here
  obtain ⟨first,others⟩ := List.nodup_cons.mp turno.distinct
  have before := residentes_around pre post c tpre tpost s
  have after := residentes_around pre post c tpre tpost { s with base := destino }
  rw [← entries] at before
  have rest : (otros pre post tpre tpost).Perm (resto.map (fun q => rango q.2) ++ colocados) := by
    have residents := turno.residents
    rw [split] at residents
    exact (before.symm.trans residents).cons_inv
  have sum := turno.sum
  rw [List.map_cons,sizes_cons] at sum
  have slides : Slides (destino + s.limite) (resto.map (fun q => rango q.2)) := turno.slides.2
  have fits : destino + s.limite ≤ m.memoria_total := by simp only [rango] at sum; omega
  have moved := mover_split split entries destino
  refine ⟨fun q member => ?_,others,?_,⟨fun a => ?_,fun r member => ?_⟩,slides,?_,fun r member => ?_,?_⟩
  · rw [entrada_mover (fun same => first (List.mem_map.mpr ⟨q,member,same⟩))]
    exact turno.listed q (List.mem_cons_of_mem _ member)
  · rw [moved]
    exact (after.trans (rest.cons _)).trans List.perm_middle.symm
  · have parts := one_split 0 destino s.limite a
    have placed := turno.placed.once a
    have counted : hits (⟨destino,s.limite⟩ :: colocados) a = one destino s.limite a + hits colocados a := hits_cons _ _ a
    rw [Nat.zero_add] at parts
    omega
  · rcases List.mem_cons.mp member with rfl | old
    · exact le_refl _
    · exact (turno.placed.inside r old).trans (Nat.le_add_right _ _)
  · rw [moved]
    exact turno.total
  · rw [moved] at member ⊢
    rcases List.mem_cons.mp (after.mem_iff.mp member) with rfl | old
    · exact fits
    · refine turno.room r ?_
      rw [split]
      exact before.mem_iff.mpr (List.mem_cons_of_mem _ old)
  · rw [moved]
    simp only [rango] at sum ⊢
    omega

/-- A segment that is in its place already stays as it is. -/
theorem mover_same {m : Estado} {p : Nat × Nat} {s : Segmento} (here : entrada m.lista_contextos p = some s) :
    m.mover p s.base = m := by
  obtain ⟨pre,c,post,tpre,tpost,split,entries,rfl⟩ := split_of_entrada here
  rw [mover_split split entries]
  have same : { c with tabla_segmentos := tpre ++ s :: tpost } = c := by rw [← entries]
  simp [same,← split]

/-! ## Whole compactions -/

/-- The move of one segment, whatever the sticks answer. -/
def mudar (m : Estado) (seg : Segmento) (destino : Nat) : Bool × Estado :=
  if seg.base ≠ destino then
    match m.leer seg.base seg.limite with
    | (none,m) => (false,m)
    | (some buffer,m) => m.escribir destino buffer
  else (true,m)

theorem mudar_frame (m : Estado) (seg : Segmento) (destino : Nat) : ∃ f : Fisica,
    f.lista_memory_sticks.map MemoryStick.ficha = m.lista_memory_sticks.map MemoryStick.ficha ∧
      (mudar m seg destino).2 = Estado.con_datos m f m.swap_bloques_usados m.archivo_swap := by
  unfold mudar
  split_ifs with moves
  · have sticks := leer_sticks m.toFisica seg.base seg.limite
    have frame : (m.leer seg.base seg.limite).2 = Estado.con_datos m (memoria_fisica_leer m.toFisica seg.base seg.limite).2
        m.swap_bloques_usados m.archivo_swap := rfl
    generalize m.leer seg.base seg.limite = r at frame ⊢
    obtain ⟨leidos,m'⟩ := r
    generalize (memoria_fisica_leer m.toFisica seg.base seg.limite).2 = f at sticks frame
    simp only at frame
    subst frame
    cases leidos with
    | none => exact ⟨f,by rw [sticks],rfl⟩
    | some buffer =>
      obtain ⟨g,fichas,written⟩ := escribir_frame (Estado.con_datos m f m.swap_bloques_usados m.archivo_swap) destino buffer
      exact ⟨g,fichas.trans (congrArg (List.map MemoryStick.ficha) sticks),written⟩
  · exact ⟨m.toFisica,rfl,rfl⟩

/-- A turn moves the segment, with the table entry on success, and goes on. -/
theorem turnos_cons (altas : Nat → List Alta) (i : Nat) (p : Nat × Nat) (seg : Segmento) (resto : List Puntero)
    (destino : Nat) {m : Estado} (here : entrada m.lista_contextos p = some seg) :
    compactar_turnos altas i ((p,seg) :: resto) destino m =
      let r := mudar (agregar_todos (altas i) m) seg destino
      if r.1 then compactar_turnos altas (i + 1) resto (u32 (destino + seg.limite)) (r.2.mover p destino)
      else (false,destino,r.2) := by
  have kept : entrada (agregar_todos (altas i) m).lista_contextos p = some seg := by
    rw [agregar_todos_contextos]
    exact here
  simp only [compactar_turnos,mudar]
  by_cases moves : seg.base = destino
  · subst moves
    simp [mover_same kept]
  · simp only [ne_eq,moves,not_false_eq_true,if_true]
    rcases (agregar_todos (altas i) m).leer seg.base seg.limite with ⟨_ | buffer,m'⟩
    · rfl
    · simp only
      rcases m'.escribir destino buffer with ⟨_ | _,m''⟩ <;> rfl

/-- Sticks only come: the ones of the first turn are there at the end. -/
theorem turnos_sticks (altas : Nat → List Alta) : ∀ (pendientes : List Puntero) (i destino : Nat) (m : Estado),
    (∀ q ∈ pendientes, entrada m.lista_contextos q.1 = some q.2) → (pendientes.map Prod.fst).Nodup →
    tamanios (agregar_todos (altas i) m).lista_memory_sticks ≤
      tamanios (compactar_turnos altas i pendientes destino m).2.2.lista_memory_sticks := by
  intro pendientes
  induction pendientes with
  | nil => intro i destino m _ _; exact le_refl _
  | cons q resto ih =>
    intro i destino m listed distinct
    obtain ⟨p,seg⟩ := q
    obtain ⟨first,others⟩ := List.nodup_cons.mp distinct
    rw [turnos_cons altas i p seg resto destino (listed (p,seg) (by simp))]
    have contexts := agregar_todos_contextos (altas i) m
    obtain ⟨f,fichas,moved⟩ := mudar_frame (agregar_todos (altas i) m) seg destino
    have same := tamanios_of_ficha fichas
    simp only
    rw [moved]
    split_ifs
    · set movido := (Estado.con_datos (agregar_todos (altas i) m) f (agregar_todos (altas i) m).swap_bloques_usados
        (agregar_todos (altas i) m).archivo_swap).mover p destino
      have grown := agregar_todos_sticks (altas (i + 1)) movido
      refine same.ge.trans (grown.trans (ih _ _ movido (fun q member => ?_) others))
      rw [entrada_mover (fun same => first (List.mem_map.mpr ⟨q,member,same⟩))]
      exact (congrArg (fun cs => entrada cs q.1) contexts).trans (listed q (List.mem_cons_of_mem _ member))
    · exact same.ge

theorem compactar_sticks (orden : Sorter) (altas : Nat → List Alta) (m : Estado) :
    tamanios m.lista_memory_sticks ≤ tamanios (compactar orden altas m).2.lista_memory_sticks := by
  have perm := orden.perm comparar_segmentos_por_base (todos_los_segmentos m)
  have grown := turnos_sticks altas (orden.sort comparar_segmentos_por_base (todos_los_segmentos m)) 0 0 m
    (fun q member => punteros_entrada (perm.mem_iff.mp member)) ((perm.map Prod.fst).nodup_iff.mpr (punteros_nodup m))
  have started := agregar_todos_sticks (altas 0) m
  unfold compactar
  generalize compactar_turnos altas 0 (orden.sort comparar_segmentos_por_base (todos_los_segmentos m)) 0 m = r at grown ⊢
  obtain ⟨_ | _,destino,m'⟩ := r <;> exact started.trans grown

/-- What has nothing to do with sticks, holes and tables stays as it is in a compaction. -/
theorem turnos_ajena {β : Type} {g : Estado → β} (far : ∀ (m : Estado) (f : Fisica) (n : Nat) (huecos : List Hueco) (cs : List Contexto),
    g { m with toFisica := f, memoria_total := n, lista_huecos := huecos, lista_contextos := cs } = g m) (altas : Nat → List Alta) :
    ∀ (pendientes : List Puntero) (i destino : Nat) (m : Estado), g (compactar_turnos altas i pendientes destino m).2.2 = g m := by
  have joined : ∀ (altas : List Alta) (m : Estado), g (agregar_todos altas m) = g m := by
    intro altas
    induction altas with
    | nil => intro m; rfl
    | cons a resto ih => intro m; exact (ih (memory_stick_agregar a m)).trans (far m ⟨_,m.respuestas⟩ _ _ m.lista_contextos)
  intro pendientes
  induction pendientes with
  | nil =>
    intro i destino m
    exact joined (altas i) m
  | cons q resto ih =>
    intro i destino m
    obtain ⟨p,seg⟩ := q
    have started := joined (altas i) m
    simp only [compactar_turnos]
    generalize agregar_todos (altas i) m = n at started ⊢
    rw [← started]
    by_cases moves : seg.base = destino
    · simp only [moves,ne_eq,not_true_eq_false,if_false]
      exact ih (i + 1) (u32 (destino + seg.limite)) n
    · simp only [moves,ne_eq,not_false_eq_true,if_true]
      have read : g (n.leer seg.base seg.limite).2 = g n := far n _ n.memoria_total n.lista_huecos n.lista_contextos
      generalize n.leer seg.base seg.limite = r at read ⊢
      obtain ⟨_ | leidos,leido⟩ := r
      · exact read
      · have written : g (leido.escribir destino leidos).2 = g leido :=
          far leido _ leido.memoria_total leido.lista_huecos leido.lista_contextos
        simp only
        generalize leido.escribir destino leidos = w at written ⊢
        obtain ⟨_ | _,escrito⟩ := w
        · exact written.trans read
        · have moved : g (escrito.mover p destino) = g escrito := far escrito escrito.toFisica escrito.memoria_total escrito.lista_huecos _
          exact (ih (i + 1) (u32 (destino + seg.limite)) (escrito.mover p destino)).trans (moved.trans (written.trans read))

theorem compactar_ajena {β : Type} {g : Estado → β} (far : ∀ (m : Estado) (f : Fisica) (n : Nat) (huecos : List Hueco)
    (cs : List Contexto), g { m with toFisica := f, memoria_total := n, lista_huecos := huecos, lista_contextos := cs } = g m)
    (orden : Sorter) (altas : Nat → List Alta) (m : Estado) : g (compactar orden altas m).2 = g m := by
  have kept := turnos_ajena far altas (orden.sort comparar_segmentos_por_base (todos_los_segmentos m)) 0 0 m
  unfold compactar
  generalize compactar_turnos altas 0 (orden.sort comparar_segmentos_por_base (todos_los_segmentos m)) 0 m = r at kept ⊢
  obtain ⟨_ | _,destino,m'⟩ := r
  · exact kept
  · exact (far m' m'.toFisica m'.memoria_total _ m'.lista_contextos).trans kept

/-- A compaction has nothing to do with the swap. -/
theorem compactar_registro (orden : Sorter) (altas : Nat → List Alta) (m : Estado) :
    Estado.registro (compactar orden altas m).2 = Estado.registro m := compactar_ajena (fun _ _ _ _ _ => rfl) orden altas m

/-- The entries that a compaction keeps: pids, ids and sizes. -/
def fichas (cs : List Contexto) : List (Int × List (Int × Nat)) :=
  cs.map (fun c => (c.pid,c.tabla_segmentos.map (fun s => (s.id,s.limite))))

theorem fichas_mover (m : Estado) (p : Nat × Nat) (destino : Nat) :
    fichas (m.mover p destino).lista_contextos = fichas m.lista_contextos := by
  refine List.ext_getElem? (fun k => ?_)
  simp only [fichas,Estado.mover,Estado.con_tabla,List.getElem?_map,List.getElem?_modify]
  cases m.lista_contextos[k]? with
  | none => rfl
  | some c =>
    by_cases here : p.1 = k
    · simp only [here,if_true,Option.map_eq_map,Option.map_some,Option.some.injEq,Prod.mk.injEq,true_and]
      refine List.ext_getElem? (fun l => ?_)
      simp only [List.getElem?_map,List.getElem?_modify]
      cases c.tabla_segmentos[l]? with
      | none => rfl
      | some s => by_cases there : p.2 = l <;> simp [there]
    · simp [here]

theorem fichas_turnos (altas : Nat → List Alta) : ∀ (pendientes : List Puntero) (i destino : Nat) (m : Estado),
    fichas (compactar_turnos altas i pendientes destino m).2.2.lista_contextos = fichas m.lista_contextos := by
  intro pendientes
  induction pendientes with
  | nil =>
    intro i destino m
    exact congrArg fichas (agregar_todos_contextos (altas i) m)
  | cons q resto ih =>
    intro i destino m
    obtain ⟨p,seg⟩ := q
    have contexts := agregar_todos_contextos (altas i) m
    simp only [compactar_turnos]
    generalize agregar_todos (altas i) m = n at contexts ⊢
    by_cases moves : seg.base = destino
    · simp only [moves,ne_eq,not_true_eq_false,if_false]
      exact (ih (i + 1) (u32 (destino + seg.limite)) n).trans (congrArg fichas contexts)
    · simp only [moves,ne_eq,not_false_eq_true,if_true]
      have read : (n.leer seg.base seg.limite).2.lista_contextos = n.lista_contextos := rfl
      generalize n.leer seg.base seg.limite = r at read ⊢
      obtain ⟨_ | leidos,leido⟩ := r
      · exact congrArg fichas (read.trans contexts)
      · have written : (leido.escribir destino leidos).2.lista_contextos = leido.lista_contextos := rfl
        simp only
        generalize leido.escribir destino leidos = w at written ⊢
        obtain ⟨_ | _,escrito⟩ := w
        · exact congrArg fichas (written.trans (read.trans contexts))
        · have rest := ih (i + 1) (u32 (destino + seg.limite)) (escrito.mover p destino)
          exact rest.trans ((fichas_mover escrito p destino).trans (congrArg fichas (written.trans (read.trans contexts))))

theorem fichas_compactar (orden : Sorter) (altas : Nat → List Alta) (m : Estado) :
    fichas (compactar orden altas m).2.lista_contextos = fichas m.lista_contextos := by
  have kept := fichas_turnos altas (orden.sort comparar_segmentos_por_base (todos_los_segmentos m)) 0 0 m
  unfold compactar
  generalize compactar_turnos altas 0 (orden.sort comparar_segmentos_por_base (todos_los_segmentos m)) 0 m = r at kept ⊢
  obtain ⟨_ | _,destino,m'⟩ := r <;> exact kept

/-- One turn: the invariant before the move and after it, and how the compaction goes on. -/
theorem turno_step (altas : Nat → List Alta) {fuera i destino : Nat} {p : Nat × Nat} {seg : Segmento}
    {resto : List Puntero} {colocados : List Range} {m : Estado} (turno : Turno fuera destino ((p,seg) :: resto) colocados m)
    (small : tamanios (compactar_turnos altas i ((p,seg) :: resto) destino m).2.2.lista_memory_sticks + fuera < 2^32) :
    let r := mudar (agregar_todos (altas i) m) seg destino
    Turno fuera destino ((p,seg) :: resto) colocados (agregar_todos (altas i) m) ∧
      Turno fuera (destino + seg.limite) resto (⟨destino,seg.limite⟩ :: colocados) (r.2.mover p destino) ∧
      compactar_turnos altas i ((p,seg) :: resto) destino m =
        if r.1 then compactar_turnos altas (i + 1) resto (destino + seg.limite) (r.2.mover p destino)
        else (false,destino,r.2) := by
  have grown := turnos_sticks altas ((p,seg) :: resto) i destino m turno.listed turno.distinct
  have bound : tamanios (agregar_todos (altas i) m).lista_memory_sticks + fuera < 2^32 := by omega
  have started := turno_altas turno (altas i) bound
  obtain ⟨f,fichas,moved⟩ := mudar_frame (agregar_todos (altas i) m) seg destino
  have kept : Turno fuera destino ((p,seg) :: resto) colocados (mudar (agregar_todos (altas i) m) seg destino).2 := by
    rw [moved]
    exact turno_con_datos started _ _ (tamanios_of_ficha fichas)
  have sum := started.sum
  have total := started.total
  simp only [List.map_cons,sizes_cons,rango] at sum
  refine ⟨started,turno_mover kept,?_⟩
  rw [turnos_cons altas i p seg resto destino (turno.listed (p,seg) (by simp)),
    u32_of_lt (show destino + seg.limite < 2^32 by omega)]

/-- A compaction that comes to its end has placed every segment. -/
theorem turnos_placed (altas : Nat → List Alta) {fuera : Nat} : ∀ {pendientes : List Puntero} {colocados : List Range}
    (i : Nat) {destino fin : Nat} {m m' : Estado}, Turno fuera destino pendientes colocados m →
    compactar_turnos altas i pendientes destino m = (true,fin,m') → tamanios m'.lista_memory_sticks + fuera < 2^32 →
    ∃ colocados, Turno fuera fin [] colocados m' := by
  intro pendientes
  induction pendientes with
  | nil =>
    intro colocados i destino fin m m' turno done small
    cases done
    exact ⟨colocados,turno_altas turno (altas i) small⟩
  | cons q resto ih =>
    intro colocados i destino fin m m' turno done small
    obtain ⟨p,seg⟩ := q
    obtain ⟨_,next,rest⟩ := turno_step altas turno (i := i) (by rw [done]; exact small)
    rw [done] at rest
    split_ifs at rest
    · exact ih (i + 1) next rest.symm small
    · cases rest

end PlugNPray.Compaction
