import PlugNPray.Capacities

/-!
Where a compaction leaves the segments: one behind the other from address 0 on, in the
order of their old bases, with the rest of memory in one hole.
-/
namespace PlugNPray.Layouts
open PlugNPray.Runs PlugNPray.Intervals PlugNPray.Places PlugNPray.FlatMemory PlugNPray.Huecos PlugNPray.Sticks
open PlugNPray.Sorting PlugNPray.KernelMemory PlugNPray.Operations PlugNPray.Compaction PlugNPray.Partition PlugNPray.Capacities

/-- The entries lie one behind the other from an address on. -/
def Seguidos : Nat → List Segmento → Prop
  | _, [] => True
  | destino, s :: resto => s.base = destino ∧ Seguidos (destino + s.limite) resto

/-- The same entry of the same table, with its id and its size. -/
def MismoSegmento (antes despues : Puntero) : Prop :=
  despues.1 = antes.1 ∧ despues.2.id = antes.2.id ∧ despues.2.limite = antes.2.limite

/-- The entries with the bases that a compaction gives them from an address on. -/
def colocar : Nat → List Puntero → List Puntero
  | _, [] => []
  | destino, (p,s) :: resto => (p,{ s with base := destino }) :: colocar (destino + s.limite) resto

theorem colocar_places (destino : Nat) (pendientes : List Puntero) :
    (colocar destino pendientes).map Prod.fst = pendientes.map Prod.fst := by
  induction pendientes generalizing destino with
  | nil => rfl
  | cons q resto ih => simp [colocar,ih]

theorem colocar_mismos (destino : Nat) (pendientes : List Puntero) :
    List.Forall₂ MismoSegmento pendientes (colocar destino pendientes) := by
  induction pendientes generalizing destino with
  | nil => exact .nil
  | cons q resto ih => exact .cons ⟨rfl,rfl,rfl⟩ (ih _)

theorem colocar_seguidos (destino : Nat) (pendientes : List Puntero) :
    Seguidos destino ((colocar destino pendientes).map Prod.snd) := by
  induction pendientes generalizing destino with
  | nil => trivial
  | cons q resto ih => exact ⟨rfl,ih _⟩

/-! ## The entries after the turns -/

theorem entrada_mover_same {m : Estado} {p : Nat × Nat} {s : Segmento} (here : entrada m.lista_contextos p = some s) (destino : Nat) :
    entrada (m.mover p destino).lista_contextos p = some { s with base := destino } := by
  obtain ⟨pre,c,post,tpre,tpost,split,entries,rfl⟩ := split_of_entrada here
  rw [mover_split split entries]
  simp [entrada]

/-- A compaction that comes to its end puts every entry where its turn says and touches no other. -/
theorem turnos_entradas (altas : Nat → List Alta) {fuera : Nat} : ∀ (pendientes : List Puntero) (colocados : List Range)
    (i destino fin : Nat) (m m' : Estado), Turno fuera destino pendientes colocados m →
    compactar_turnos altas i pendientes destino m = (true,fin,m') → tamanios m'.lista_memory_sticks + fuera < 2^32 →
    (∀ q ∈ colocar destino pendientes, entrada m'.lista_contextos q.1 = some q.2) ∧
      ∀ p ∉ pendientes.map Prod.fst, entrada m'.lista_contextos p = entrada m.lista_contextos p := by
  intro pendientes
  induction pendientes with
  | nil =>
    intro colocados i destino fin m m' turno done small
    cases done
    refine ⟨fun q member => (by cases member),fun p _ => ?_⟩
    rw [agregar_todos_contextos]
  | cons q resto ih =>
    intro colocados i destino fin m m' turno done small
    obtain ⟨p,seg⟩ := q
    obtain ⟨started,next,rest⟩ := turno_step altas turno (i := i) (by rw [done]; exact small)
    rw [done] at rest
    obtain ⟨f,_,moved⟩ := mudar_frame (agregar_todos (altas i) m) seg destino
    have kept : (mudar (agregar_todos (altas i) m) seg destino).2.lista_contextos = m.lista_contextos := by
      rw [moved]
      exact agregar_todos_contextos (altas i) m
    generalize mudar (agregar_todos (altas i) m) seg destino = r at next rest kept
    split_ifs at rest
    · obtain ⟨placed,others⟩ := ih _ (i + 1) _ fin _ m' next rest.symm small
      obtain ⟨first,_⟩ := List.nodup_cons.mp turno.distinct
      have here : entrada r.2.lista_contextos p = some seg := by
        rw [kept]
        exact turno.listed (p,seg) (by simp)
      refine ⟨fun q member => ?_,fun other missing => ?_⟩
      · rcases List.mem_cons.mp member with rfl | later
        · rw [others p first]
          exact entrada_mover_same here destino
        · exact placed q later
      · obtain ⟨different,missing⟩ := not_or.mp (List.mem_cons.not.mp missing)
        rw [others other missing,entrada_mover different,kept]
    · cases rest

/-- The entries are the ones that the tables have at their places. -/
theorem puntero_iff (m : Estado) (q : Puntero) : q ∈ todos_los_segmentos m ↔ entrada m.lista_contextos q.1 = some q.2 := by
  constructor
  · exact punteros_entrada
  · intro here
    obtain ⟨c,outer,inner⟩ := Option.bind_eq_some_iff.mp here
    refine List.mem_flatMap.mpr ⟨(c,q.1.1),List.mem_zipIdx_iff_getElem?.mpr outer,List.mem_map.mpr ⟨(q.2,q.1.2),?_,rfl⟩⟩
    exact List.mem_zipIdx_iff_getElem?.mpr inner

theorem punteros_distinct (m : Estado) : (todos_los_segmentos m).Nodup := (punteros_nodup m).of_map _

/-- Entries at distinct places that are all the entries of the tables. -/
theorem perm_of_entradas {m : Estado} {qs : List Puntero} (distinct : (qs.map Prod.fst).Nodup)
    (listed : ∀ q ∈ qs, entrada m.lista_contextos q.1 = some q.2)
    (others : ∀ p ∉ qs.map Prod.fst, entrada m.lista_contextos p = none) : qs.Perm (todos_los_segmentos m) := by
  refine (List.perm_ext_iff_of_nodup (distinct.of_map _) (punteros_distinct m)).mpr (fun q => ?_)
  rw [puntero_iff]
  constructor
  · exact listed q
  · intro here
    by_cases place : q.1 ∈ qs.map Prod.fst
    · obtain ⟨r,member,same⟩ := List.mem_map.mp place
      have entry := listed r member
      rw [same,here] at entry
      have equal : q = r := Prod.ext same.symm (Option.some.inj entry)
      exact equal ▸ member
    · rw [others q.1 place] at here
      cases here

/-! ## The copies -/

/-- A move writes only where the segment goes. -/
theorem mudar_outside {m : Estado} {seg : Segmento} {destino : Nat} (small : tamanios m.lista_memory_sticks < 2^32)
    (source : seg.base < 2^32) (target : destino < 2^32) {a : Nat} (outside : a < destino ∨ destino + seg.limite ≤ a) :
    plano (mudar m seg destino).2.lista_memory_sticks a = plano m.lista_memory_sticks a := by
  unfold mudar
  split_ifs
  · have sticks := leer_sticks m.toFisica seg.base seg.limite
    obtain ⟨_,sound,_⟩ := leer_spec (f := m.toFisica) seg.base seg.limite small source
    have read : m.leer seg.base seg.limite = ((memoria_fisica_leer m.toFisica seg.base seg.limite).1,
      { m with toFisica := (memoria_fisica_leer m.toFisica seg.base seg.limite).2 }) := rfl
    rw [read]
    generalize memoria_fisica_leer m.toFisica seg.base seg.limite = r at sticks sound ⊢
    obtain ⟨_ | buffer,f⟩ := r
    · exact congrArg (fun sticks => plano sticks a) sticks
    · have filled : buffer.length = seg.limite := by
        rw [sound buffer rfl,load_length]
      have sticks : f.lista_memory_sticks = m.lista_memory_sticks := sticks
      obtain ⟨_,kept,_⟩ := escribir_spec (f := f) destino buffer (by rw [sticks]; exact small) target
      exact (kept a (by omega)).trans (congrArg (fun sticks => plano sticks a) sticks)
  · rfl

/-- The copy of a segment writes over no byte of a segment whose turn is still to come. -/
theorem mudar_pendientes {fuera destino : Nat} {p : Nat × Nat} {seg : Segmento} {resto : List Puntero} {colocados : List Range}
    {m : Estado} (turno : Turno fuera destino ((p,seg) :: resto) colocados m) (small : tamanios m.lista_memory_sticks + fuera < 2^32)
    {q : Puntero} (member : q ∈ resto) :
    load (plano (mudar m seg destino).2.lista_memory_sticks) q.2.base q.2.limite =
      load (plano m.lista_memory_sticks) q.2.base q.2.limite := by
  have total := turno.total
  have sum := turno.sum
  have room : seg.base + seg.limite ≤ m.memoria_total :=
    turno.room (rango seg) (turno.residents.mem_iff.mpr (by simp))
  simp only [List.map_cons,sizes_cons,rango] at sum
  refine load_congr (fun a low high => mudar_outside (by omega) (by omega) (by omega) (.inr ?_))
  have above : destino + seg.limite ≤ (rango q.2).base :=
    slides_member turno.slides.2 (List.mem_map_of_mem (f := fun q : Puntero => rango q.2) member) (by simp only [rango]; omega)
  exact above.trans low

/-- The state that the turn of an entry starts from meets the invariant of the moves. -/
theorem turno_prefijo (altas : Nat → List Alta) {fuera : Nat} {q : Puntero} {resto : List Puntero} : ∀ (hechos : List Puntero)
    (colocados : List Range) (i destino fin : Nat) (m antes : Estado), Turno fuera destino (hechos ++ q :: resto) colocados m →
    tamanios (compactar_turnos altas i (hechos ++ q :: resto) destino m).2.2.lista_memory_sticks + fuera < 2^32 →
    compactar_turnos altas i hechos destino m = (true,fin,antes) →
    tamanios antes.lista_memory_sticks + fuera < 2^32 ∧ ∃ colocados, Turno fuera fin (q :: resto) colocados antes := by
  intro hechos
  induction hechos with
  | nil =>
    intro colocados i destino fin m antes turno small done
    cases done
    have grown := turnos_sticks altas (q :: resto) i destino m turno.listed turno.distinct
    have bound : tamanios (agregar_todos (altas i) m).lista_memory_sticks + fuera < 2^32 :=
      (Nat.add_le_add_right grown fuera).trans_lt small
    exact ⟨bound,colocados,turno_altas turno (altas i) bound⟩
  | cons h hechos ih =>
    intro colocados i destino fin m antes turno small done
    obtain ⟨p,seg⟩ := h
    have here : entrada m.lista_contextos p = some seg := turno.listed (p,seg) (by simp)
    rw [List.cons_append] at turno small
    obtain ⟨_,next,rest⟩ := turno_step altas turno (i := i) small
    rw [rest] at small
    rw [turnos_cons altas i p seg hechos destino here] at done
    simp only at done
    generalize mudar (agregar_todos (altas i) m) seg destino = r at next small done
    have sum := next.sum
    have total := next.total
    split_ifs at done small
    · have low : u32 (destino + seg.limite) = destino + seg.limite := by
        refine u32_of_lt ?_
        have grown := turnos_sticks altas (hechos ++ q :: resto) (i + 1) (destino + seg.limite) (r.2.mover p destino) next.listed
          next.distinct
        have joined := agregar_todos_sticks (altas (i + 1)) (r.2.mover p destino)
        omega
      rw [low] at done
      exact ih _ (i + 1) _ fin _ antes next small done
    · cases done

/-! ## The layout -/

/-- What a compaction that comes to its end leaves: the owners and the entries that there were,
    one behind the other in the order of their old bases, no byte of a waiting segment
    written over by the copy of another, and one hole behind them. -/
structure Compactada (orden : Sorter) (altas : Nat → List Alta) (m m' : Estado) : Prop where
  pids : m'.lista_contextos.map Contexto.pid = m.lista_contextos.map Contexto.pid
  layout : ∃ viejos nuevos : List Puntero, viejos.Perm (todos_los_segmentos m) ∧ nuevos.Perm (todos_los_segmentos m') ∧
    viejos.Pairwise (fun a b => a.2.base ≤ b.2.base) ∧ List.Forall₂ MismoSegmento viejos nuevos ∧
    Seguidos 0 (nuevos.map Prod.snd)
  copies : ∀ hechos p seg resto destino antes,
    orden.sort comparar_segmentos_por_base (todos_los_segmentos m) = hechos ++ (p,seg) :: resto →
    compactar_turnos altas 0 hechos 0 m = (true,destino,antes) → ∀ q ∈ resto,
      load (plano (mudar antes seg destino).2.lista_memory_sticks) q.2.base q.2.limite =
        load (plano antes.lista_memory_sticks) q.2.base q.2.limite
  room : sizes (residentes m.lista_contextos) ≤ m'.memoria_total
  holes : m'.lista_huecos = if sizes (residentes m.lista_contextos) = m'.memoria_total then []
    else [⟨sizes (residentes m.lista_contextos),m'.memoria_total - sizes (residentes m.lista_contextos)⟩]

theorem compactar_done {orden : Sorter} {altas : Nat → List Alta} {m : Estado} (ok : (compactar orden altas m).1 = true) :
    ∃ fin m', compactar_turnos altas 0 (orden.sort comparar_segmentos_por_base (todos_los_segmentos m)) 0 m = (true,fin,m') ∧
      (compactar orden altas m).2 = { m' with lista_huecos := huecos_reconstruir fin m'.memoria_total } := by
  unfold compactar at ok ⊢
  generalize compactar_turnos altas 0 (orden.sort comparar_segmentos_por_base (todos_los_segmentos m)) 0 m = r at ok ⊢
  obtain ⟨_ | _,fin,m'⟩ := r
  · cases ok
  · exact ⟨fin,m',rfl,rfl⟩

theorem compactar_layout {orden : Sorter} {altas : Nat → List Alta} {fuera : Nat} {m : Estado} (map : Mapa fuera m)
    (ok : (compactar orden altas m).1 = true) (small : tamanios (compactar orden altas m).2.lista_memory_sticks + fuera < 2^32) :
    Compactada orden altas m (compactar orden altas m).2 := by
  have start := turno_inicial orden map.total map.covers
  have perm := orden.perm comparar_segmentos_por_base (todos_los_segmentos m)
  have owners := congrArg (List.map Prod.fst) (fichas_compactar orden altas m)
  have grown := compactar_sticks orden altas m
  obtain ⟨fin,m',done,ends⟩ := compactar_done ok
  rw [ends] at small owners grown ⊢
  obtain ⟨colocados,last⟩ := turnos_placed altas 0 start done small
  obtain ⟨placed,others⟩ := turnos_entradas altas _ [] 0 0 fin m m' start done small
  have total := last.total
  have fits : fin ≤ m'.memoria_total := last.sum
  have small : tamanios m'.lista_memory_sticks + fuera < 2^32 := small
  have grown : tamanios m.lista_memory_sticks ≤ tamanios m'.lista_memory_sticks := grown
  have listed := sizes_perm (perm.map (fun q => rango q.2))
  have stops : fin = sizes (residentes m.lista_contextos) := by
    have inside := start.sum
    have before := start.total
    have place := turnos_fin altas _ 0 0 fin m m' (by decide) done
    rw [listed,punteros_rangos,Nat.zero_add] at inside place
    rw [place]
    exact u32_of_lt (by omega)
  refine ⟨?_,⟨_,_,perm,?_,orden.sorted (fun q : Puntero => q.2.base) (todos_los_segmentos m),colocar_mismos 0 _,colocar_seguidos 0 _⟩,
    ?_,?_,?_⟩
  · simpa only [fichas,List.map_map,Function.comp_def] using owners
  · refine perm_of_entradas ?_ placed (fun p missing => ?_)
    · rw [colocar_places]
      exact start.distinct
    · rw [colocar_places] at missing
      refine (others p missing).trans ?_
      by_contra here
      obtain ⟨s,here⟩ := Option.ne_none_iff_exists'.mp here
      exact missing (List.mem_map.mpr ⟨(p,s),perm.mem_iff.mpr ((puntero_iff m (p,s)).mpr here),rfl⟩)
  · intro hechos p seg resto destino antes split reached q member
    rw [split] at start done
    obtain ⟨bound,_,turno⟩ := turno_prefijo altas hechos [] 0 0 destino m antes start (by rw [done]; exact small) reached
    exact mudar_pendientes turno bound member
  · exact stops ▸ fits
  · rw [← stops]
    have left : u32 (m'.memoria_total + 2^32 - fin) = m'.memoria_total - fin := by
      unfold u32
      omega
    simp only [huecos_reconstruir,left]
    split_ifs <;> first | rfl | omega

/-! ## The promise -/

/-- The requests that leave the segments alone. -/
def SinSegmentos : Operacion → Prop
  | .memory_stick_agregar _ | .contexto_crear _ _ _ | .escribir _ _ | .swap_registrar _ _ _ | .swap_desregistrar => True
  | _ => False

/-- A segment of the size may be created for the process if there is a hole for it. -/
structure Posible (pid : Int) (n : Nat) (m : Estado) : Prop where
  allowed : ¬ (m.segment_max_size > 0 ∧ n > a_u32 m.segment_max_size)
  owner : pid ∈ m.lista_contextos.map Contexto.pid

/-- The free memory is enough, wherever it is. -/
def Alcanza (n : Nat) (m : Estado) : Prop := sizes (residentes m.lista_contextos) + n ≤ m.memoria_total
/-- One hole is enough. -/
def Cabe (n : Nat) (m : Estado) : Prop := ∃ h ∈ m.lista_huecos, n ≤ h.tamanio

theorem sin_segmentos_completa {orden : Sorter} {op : Operacion} {m : Estado} (apart : SinSegmentos op) : Completa orden op m := by
  cases op with
  | compactar altas => cases apart
  | _ => trivial

theorem posible_aplicar (orden : Sorter) {op : Operacion} (apart : SinSegmentos op) {pid : Int} {n : Nat} {m : Estado}
    (possible : Posible pid n m) : Posible pid n (aplicar orden op m) := by
  cases op with
  | contexto_crear p path instrucciones =>
    refine ⟨possible.allowed,?_⟩
    have names : (aplicar orden (.contexto_crear p path instrucciones) m).lista_contextos.map Contexto.pid =
        m.lista_contextos.map Contexto.pid ++ [p] := by simp [aplicar,KernelMemory.contexto_crear]
    rw [names]
    exact List.mem_append_left _ possible.owner
  | memory_stick_agregar a => exact ⟨possible.allowed,possible.owner⟩
  | escribir dir_fisica bytes => exact ⟨possible.allowed,possible.owner⟩
  | swap_registrar fd block_size swap_size => exact ⟨possible.allowed,possible.owner⟩
  | swap_desregistrar => exact ⟨possible.allowed,possible.owner⟩
  | _ => cases apart

theorem residentes_aplicar (orden : Sorter) {op : Operacion} (apart : SinSegmentos op) (m : Estado) :
    residentes (aplicar orden op m).lista_contextos = residentes m.lista_contextos := by
  cases op with
  | contexto_crear p path instrucciones => simp [aplicar,KernelMemory.contexto_crear]
  | memory_stick_agregar a => rfl
  | escribir dir_fisica bytes => rfl
  | swap_registrar fd block_size swap_size => rfl
  | swap_desregistrar => rfl
  | _ => cases apart

theorem alcanza_aplicar {orden : Sorter} {op : Operacion} (apart : SinSegmentos op) {n : Nat} {m : Estado} (enough : Alcanza n m)
    (part : Particion m) (after : Particion (aplicar orden op m)) : Alcanza n (aplicar orden op m) := by
  have grown := aplicar_sticks orden op m
  rw [← part.total,← after.total] at grown
  rw [Alcanza,residentes_aplicar orden apart]
  exact enough.trans grown

theorem cabe_extender {huecos : List Hueco} {n total nuevos : Nat} (fits : ∃ h ∈ huecos, n ≤ h.tamanio)
    (inside : ∀ r ∈ rangos huecos, r.base + r.size ≤ total) (small : total + nuevos < 2^32) :
    ∃ h ∈ huecos_extender huecos total nuevos, n ≤ h.tamanio := by
  obtain ⟨h,member,large⟩ := fits
  unfold huecos_extender
  cases last : huecos.getLast? with
  | none =>
    rw [List.getLast?_eq_none_iff.mp last] at member
    cases member
  | some ultimo =>
    simp only
    split_ifs
    · rw [← List.dropLast_append_getLast? ultimo last] at member
      have ends := inside ultimo.rango (List.mem_map_of_mem (List.mem_of_getLast? last))
      simp only [Hueco.rango] at ends
      rcases List.mem_append.mp member with before | here
      · exact ⟨h,List.mem_append_left _ before,large⟩
      · obtain rfl := List.mem_singleton.mp here
        refine ⟨_,List.mem_append_right _ (List.mem_singleton.mpr rfl),?_⟩
        rw [u32_of_lt (by omega)]
        exact large.trans (Nat.le_add_right _ _)
    · exact ⟨h,List.mem_append_left _ member,large⟩

theorem cabe_aplicar {orden : Sorter} {op : Operacion} (apart : SinSegmentos op) {n : Nat} {m : Estado} (fits : Cabe n m)
    (part : Particion m) (small : tamanios (aplicar orden op m).lista_memory_sticks < 2^32) : Cabe n (aplicar orden op m) := by
  cases op with
  | memory_stick_agregar a =>
    refine cabe_extender fits (fun r member => part.covers.inside r (List.mem_append_left _ member)) ?_
    simpa [aplicar,KernelMemory.memory_stick_agregar,part.total] using small
  | contexto_crear p path instrucciones => exact fits
  | escribir dir_fisica bytes => exact fits
  | swap_registrar fd block_size swap_size => exact fits
  | swap_desregistrar => exact fits
  | _ => cases apart

/-- Who is told to compact may have the segment and there is room for it. -/
theorem alcanza_of_compactar {pid id_segmento : Int} {n : Nat} {m : Estado} (part : Particion m)
    (small : tamanios m.lista_memory_sticks < 2^32) (told : (segmento_crear pid id_segmento n m).1 = .CREAR_SEG_COMPACTAR) :
    Posible pid n m ∧ Alcanza n m ∧ (segmento_crear pid id_segmento n m).2 = m := by
  have total := part.total
  have sum := sizes_of_tiles part.covers.once part.covers.inside
  rw [sizes_append] at sum
  have free := @total_libre_eq m.lista_huecos (by omega)
  unfold segmento_crear at told ⊢
  by_cases large : m.segment_max_size > 0 ∧ n > a_u32 m.segment_max_size
  · rw [if_pos large] at told
    cases told
  rw [if_neg large] at told ⊢
  cases found : contexto_buscar m pid with
  | none =>
    rw [found] at told
    cases told
  | some ic =>
    have owner : pid ∈ m.lista_contextos.map Contexto.pid := by
      by_contra missing
      rw [contexto_none.mpr missing] at found
      cases found
    cases hole : buscar_hueco m n with
    | some kh => simp [found,hole] at told
    | none =>
      simp only [found,hole] at told ⊢
      split_ifs at told with enough
      refine ⟨⟨large,owner⟩,?_,trivial⟩
      rw [Alcanza]
      omega

theorem crear_of_cabe {pid id_segmento : Int} {n : Nat} {m : Estado} (possible : Posible pid n m) (fits : Cabe n m) :
    (segmento_crear pid id_segmento n m).1 = .CREAR_SEG_OK := by
  obtain ⟨h,member,large⟩ := fits
  unfold segmento_crear
  rw [if_neg possible.allowed]
  cases found : contexto_buscar m pid with
  | none => exact absurd possible.owner (contexto_none.mp found)
  | some ic =>
    cases hole : buscar_hueco m n with
    | none => exact absurd ((buscar_hueco_least m n).2 hole h member) (by omega)
    | some kh => rfl

theorem cabe_of_compactada {orden : Sorter} {altas : Nat → List Alta} {pid : Int} {n : Nat} {m : Estado} (some : 1 ≤ n)
    (possible : Posible pid n m) (enough : Alcanza n m) (part : Particion m) (after : Particion (compactar orden altas m).2)
    (moved : Compactada orden altas m (compactar orden altas m).2) :
    Posible pid n (compactar orden altas m).2 ∧ Cabe n (compactar orden altas m).2 := by
  have limit : (compactar orden altas m).2.segment_max_size = m.segment_max_size := by
    exact @compactar_ajena Int Estado.segment_max_size (fun _ _ _ _ _ => rfl) orden altas m
  have grown := compactar_sticks orden altas m
  rw [← part.total,← after.total] at grown
  rw [Alcanza] at enough
  refine ⟨⟨by rw [limit]; exact possible.allowed,by rw [moved.pids]; exact possible.owner⟩,?_⟩
  rw [Cabe,moved.holes,if_neg (by omega)]
  exact ⟨_,List.mem_singleton.mpr rfl,by simp only; omega⟩

/-- Requests that leave the segments alone leave the answer as it would be. -/
private theorem keeps_alcanza (orden : Sorter) (pid : Int) (n : Nat) : Preserved (paso orden) (fun op _ => SinSegmentos op)
    (fun m => tamanios m.lista_memory_sticks < 2^32 → Particion m ∧ Posible pid n m ∧ Alcanza n m) := by
  intro op m m' held apart moved small
  cases moved
  obtain ⟨part,possible,enough⟩ := held ((aplicar_sticks orden op m).trans_lt small)
  have after := aplicar_particion part (sin_segmentos_completa apart) small
  exact ⟨after,posible_aplicar orden apart possible,alcanza_aplicar apart enough part after⟩

private theorem keeps_cabe (orden : Sorter) (pid : Int) (n : Nat) : Preserved (paso orden) (fun op _ => SinSegmentos op)
    (fun m => tamanios m.lista_memory_sticks < 2^32 → Particion m ∧ Posible pid n m ∧ Cabe n m) := by
  intro op m m' held apart moved small
  cases moved
  obtain ⟨part,possible,fits⟩ := held ((aplicar_sticks orden op m).trans_lt small)
  exact ⟨aplicar_particion part (sin_segmentos_completa apart) small,posible_aplicar orden apart possible,cabe_aplicar apart fits part small⟩

/-- A compaction that comes to its end leaves the segments packed in their order with one hole
    behind them, and the segment for which it was asked can then be created. -/
theorem compaction_layout (orden : Sorter) (segment_max_size : Int) (allocation_best_fit : Bool) (respuestas : Nat → Respuesta)
    (ops : List Operacion) (m : Estado)
    (completed : Guarded (paso orden) (Completa orden) ops (inicial segment_max_size allocation_best_fit respuestas))
    (reached : run (paso orden) ops (inicial segment_max_size allocation_best_fit respuestas) = some m) :
    (∀ altas, (compactar orden altas m).1 = true → tamanios (compactar orden altas m).2.lista_memory_sticks < 2^32 →
      Compactada orden altas m (compactar orden altas m).2) ∧
    ∀ pid id_segmento n entre altas despues m', 1 ≤ n → (segmento_crear pid id_segmento n m).1 = .CREAR_SEG_COMPACTAR →
      (∀ op ∈ entre ++ despues, SinSegmentos op) →
      Guarded (paso orden) (Completa orden) (entre ++ .compactar altas :: despues) (segmento_crear pid id_segmento n m).2 →
      run (paso orden) (entre ++ .compactar altas :: despues) (segmento_crear pid id_segmento n m).2 = some m' →
      tamanios m'.lista_memory_sticks < 2^32 → (segmento_crear pid id_segmento n m').1 = .CREAR_SEG_OK := by
  constructor
  · intro altas ok small
    have before := (compactar_sticks orden altas m).trans_lt small
    exact compactar_layout (particion_mapa.mp (particion_of_run completed reached before)) ok small
  · intro pid id_segmento n entre altas despues m' some told apart whole ran small
    have after_refusal := aplicar_sticks orden (.segmento_crear pid id_segmento n) m
    rw [run_append] at ran
    obtain ⟨antes,first,ran⟩ := Option.bind_eq_some_iff.mp ran
    obtain ⟨compacta,compacted,second⟩ := Option.bind_eq_some_iff.mp ran
    cases compacted
    have ok : (compactar orden altas antes).1 = true := ((guarded_append whole).2 antes first).1
    have smallCompacta := (sticks_of_run second).trans_lt small
    have smallAntes := (aplicar_sticks orden (.compactar altas) antes).trans_lt smallCompacta
    have smallHere := after_refusal.trans_lt ((sticks_of_run first).trans_lt smallAntes)
    have part := particion_of_run completed reached smallHere
    obtain ⟨possible,enough,same⟩ := alcanza_of_compactar part smallHere told
    rw [same] at first
    obtain ⟨part,possible,enough⟩ := invariant_of_guarded (keeps_alcanza orden pid n) (fun _ => ⟨part,possible,enough⟩)
      (guarded_of_labels (fun op member => apart op (List.mem_append_left _ member)) m) first smallAntes
    have after := @aplicar_particion orden (.compactar altas) antes part ok smallCompacta
    obtain ⟨possible,fits⟩ := cabe_of_compactada some possible enough part after
      (compactar_layout (particion_mapa.mp part) ok smallCompacta)
    obtain ⟨_,possible,fits⟩ := invariant_of_guarded (keeps_cabe orden pid n) (fun _ => ⟨after,possible,fits⟩)
      (guarded_of_labels (fun op member => apart op (List.mem_append_right _ member)) _) second small
    exact crear_of_cabe possible fits

/-- Three free bytes before the first segment and three behind the last one. -/
def con_dos_huecos : List Operacion :=
  [.memory_stick_agregar ⟨3,12,"10.0.0.1",8002,fun _ => 0⟩,.contexto_crear 0 "a" [],.contexto_crear 1 "b" [],.segmento_crear 0 0 3,
    .segmento_crear 1 0 4,.segmento_crear 0 1 2,.segmento_eliminar 0 0]
def tras_dos_huecos : Estado := con_dos_huecos.foldl (fun m op => aplicar insertion_sorter op m) (inicial 0 true (fun _ => .responde))
def una_conexion : Operacion := .memory_stick_agregar ⟨5,4,"10.0.0.2",8002,fun _ => 0⟩
def tras_compactar : Estado :=
  [.compactar (fun _ => []),una_conexion].foldl (fun m op => aplicar insertion_sorter op m) tras_dos_huecos

theorem compaction_layout_dos_huecos : tras_dos_huecos.lista_huecos = [⟨9,3⟩,⟨0,3⟩] ∧
    Compactada insertion_sorter (fun _ => []) tras_dos_huecos (compactar insertion_sorter (fun _ => []) tras_dos_huecos).2 ∧
    (segmento_crear 1 7 5 tras_dos_huecos).1 = .CREAR_SEG_COMPACTAR ∧ (segmento_crear 1 7 5 tras_compactar).1 = .CREAR_SEG_OK := by
  have both := compaction_layout insertion_sorter 0 true (fun _ => .responde) con_dos_huecos tras_dos_huecos (by decide +kernel)
    (run_total (aplicar insertion_sorter) ..)
  refine ⟨by decide +kernel,both.1 (fun _ => []) (by decide +kernel) (by decide +kernel),by decide +kernel,?_⟩
  exact both.2 1 7 5 [] (fun _ => []) [una_conexion] tras_compactar (by decide) (by decide +kernel) (by simp [una_conexion,SinSegmentos])
    (by decide +kernel) (run_total (aplicar insertion_sorter) ..) (by decide +kernel)

end PlugNPray.Layouts
