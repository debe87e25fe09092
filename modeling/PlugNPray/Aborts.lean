import PlugNPray.Layouts

/-!
Compactions that are aborted. The free list is rebuilt only at the end, so an aborted
compaction is harmless as long as it has moved nothing and written over nothing.
-/
namespace PlugNPray.Aborts
open PlugNPray.Runs PlugNPray.Intervals PlugNPray.Places PlugNPray.FlatMemory PlugNPray.Huecos PlugNPray.Sticks
open PlugNPray.Sorting PlugNPray.KernelMemory PlugNPray.Operations PlugNPray.Compaction PlugNPray.Partition PlugNPray.Capacities
open PlugNPray.Layouts

/-- No hole overlaps a segment, every segment has its bytes where its table says, and a new
    segment does not overlap an old one. -/
structure Intacta (m m' : Estado) : Prop where
  apart : ∀ h ∈ m'.lista_huecos, ∀ r ∈ residentes m'.lista_contextos, h.rango.Apart r
  bytes : ∀ p s, entrada m.lista_contextos p = some s → ∃ s', entrada m'.lista_contextos p = some s' ∧
    s'.id = s.id ∧ s'.limite = s.limite ∧ ∀ k < s.limite, s.base + k < tamanios m.lista_memory_sticks →
      plano m'.lista_memory_sticks (s'.base + k) = plano m.lista_memory_sticks (s.base + k)
  given : ∀ pid id_segmento n, (segmento_crear pid id_segmento n m').1 = .CREAR_SEG_OK → ∃ base,
    (residentes (segmento_crear pid id_segmento n m').2.lista_contextos).Perm (⟨base,n⟩ :: residentes m'.lista_contextos) ∧
      ∀ r ∈ residentes m'.lista_contextos, Range.Apart ⟨base,n⟩ r

/-- After the read of a segment the move fails without touching the bytes: the read failed, or the
    write does and the room in front of the segment is at least its size. -/
def FallaSola (destino : Nat) (seg : Segmento) : Option (List UInt8) × Estado → Prop
  | (none,_) => True
  | (some buffer,m) => (m.escribir destino buffer).1 = false ∧ destino + seg.limite ≤ seg.base

/-- The first segment with bytes that is not in its place is not moved. -/
def Inocua (altas : Nat → List Alta) : Nat → List Puntero → Nat → Estado → Prop
  | _, [], _, _ => True
  | i, (p,seg) :: resto, destino, m =>
    if seg.base = destino ∨ seg.limite = 0 then
      Inocua altas (i + 1) resto (u32 (destino + seg.limite)) ((agregar_todos (altas i) m).mover p destino)
    else FallaSola destino seg ((agregar_todos (altas i) m).leer seg.base seg.limite)

/-- Every compaction comes to its end or is harmless. -/
def Segura (orden : Sorter) : Operacion → Estado → Prop
  | .compactar altas, m => (compactar orden altas m).1 = true ∨
      Inocua altas 0 (orden.sort comparar_segmentos_por_base (todos_los_segmentos m)) 0 m
  | _, _ => True

instance (destino : Nat) (seg : Segmento) : ∀ r, Decidable (FallaSola destino seg r)
  | (none,_) => isTrue trivial
  | (some buffer,m) => inferInstanceAs (Decidable ((m.escribir destino buffer).1 = false ∧ destino + seg.limite ≤ seg.base))
instance decidableInocua (altas : Nat → List Alta) : ∀ i pendientes destino m, Decidable (Inocua altas i pendientes destino m)
  | _, [], _, _ => isTrue trivial
  | i, (p,seg) :: resto, destino, m =>
    have := decidableInocua altas (i + 1) resto (u32 (destino + seg.limite)) ((agregar_todos (altas i) m).mover p destino)
    inferInstanceAs (Decidable (if seg.base = destino ∨ seg.limite = 0 then
      Inocua altas (i + 1) resto (u32 (destino + seg.limite)) ((agregar_todos (altas i) m).mover p destino)
      else FallaSola destino seg ((agregar_todos (altas i) m).leer seg.base seg.limite)))
instance (orden : Sorter) : ∀ op m, Decidable (Segura orden op m)
  | .compactar altas, m => inferInstanceAs (Decidable ((compactar orden altas m).1 = true ∨
      Inocua altas 0 (orden.sort comparar_segmentos_por_base (todos_los_segmentos m)) 0 m))
  | .memory_stick_agregar _, _ | .contexto_crear _ _ _, _ | .segmento_crear _ _ _, _ | .segmento_eliminar _ _, _
  | .proceso_suspender _, _ | .proceso_dessuspender _, _ | .proceso_liberar_memoria _, _ | .finalizar _, _ | .escribir _ _, _
  | .swap_registrar _ _ _, _ | .swap_desregistrar, _ => isTrue trivial

/-! ## Nothing moves -/

/-- The sticks stay or become more, and every entry keeps its id, its size, its base unless it
    is empty, and the bytes that the sticks have for it. -/
def Quieta (m m' : Estado) : Prop := tamanios m.lista_memory_sticks ≤ tamanios m'.lista_memory_sticks ∧
  ∀ p s, entrada m.lista_contextos p = some s → ∃ s', entrada m'.lista_contextos p = some s' ∧ s'.id = s.id ∧
    s'.limite = s.limite ∧ (0 < s.limite → s'.base = s.base) ∧ ∀ a, s.base ≤ a → a < s.base + s.limite →
      a < tamanios m.lista_memory_sticks → plano m'.lista_memory_sticks a = plano m.lista_memory_sticks a

theorem quieta_refl (m : Estado) : Quieta m m := ⟨le_refl _,fun _ s here => ⟨s,here,rfl,rfl,fun _ => rfl,fun _ _ _ _ => rfl⟩⟩

theorem quieta_trans {m m' m'' : Estado} (first : Quieta m m') (second : Quieta m' m'') : Quieta m m'' := by
  obtain ⟨grown,entries⟩ := first
  obtain ⟨grown',entries'⟩ := second
  refine ⟨grown.trans grown',fun p s here => ?_⟩
  obtain ⟨s',here',name,size,base,bytes⟩ := entries p s here
  obtain ⟨s'',here'',name',size',base',bytes'⟩ := entries' p s' here'
  rw [size] at size' base' bytes'
  refine ⟨s'',here'',name'.trans name,size',fun some => (base' some).trans (base some),fun a low high inside => ?_⟩
  have same := base (by omega)
  exact (bytes' a (by omega) (by omega) (inside.trans_le grown)).trans (bytes a low high inside)

theorem quieta_altas (altas : List Alta) (m : Estado) : Quieta m (agregar_todos altas m) := by
  refine ⟨agregar_todos_sticks altas m,fun p s here => ⟨s,?_,rfl,rfl,fun _ => rfl,fun a _ _ inside => ?_⟩⟩
  · rw [agregar_todos_contextos]
    exact here
  · obtain ⟨nuevos,sticks⟩ := agregar_todos_append altas m
    rw [sticks]
    exact plano_append_left nuevos inside

/-- An entry without bytes may go anywhere. -/
theorem quieta_mover {m : Estado} {p : Nat × Nat} {s : Segmento} (here : entrada m.lista_contextos p = some s) (empty : s.limite = 0)
    (destino : Nat) : Quieta m (m.mover p destino) := by
  refine ⟨le_refl _,fun q t there => ?_⟩
  by_cases same : q = p
  · subst same
    obtain rfl := Option.some.inj (here.symm.trans there)
    exact ⟨_,entrada_mover_same here destino,rfl,rfl,fun some => by omega,fun _ _ _ _ => rfl⟩
  · exact ⟨t,(entrada_mover same destino).trans there,rfl,rfl,fun _ => rfl,fun _ _ _ _ => rfl⟩

/-- What the sticks are made to do outside the segments does not count. -/
theorem quieta_con_datos {m : Estado} {f : Fisica} (fichas : f.lista_memory_sticks.map MemoryStick.ficha =
      m.lista_memory_sticks.map MemoryStick.ficha)
    (bytes : ∀ r ∈ residentes m.lista_contextos, ∀ a, r.Contains a → plano f.lista_memory_sticks a = plano m.lista_memory_sticks a) :
    Quieta m (Estado.con_datos m f m.swap_bloques_usados m.archivo_swap) := by
  refine ⟨(tamanios_of_ficha fichas).ge,fun p s here => ⟨s,here,rfl,rfl,fun _ => rfl,fun a low high _ => ?_⟩⟩
  obtain ⟨pre,c,post,tpre,tpost,split,entries,_⟩ := split_of_entrada here
  refine bytes (rango s) (rango_mem (c := c) ?_ ?_) a ⟨low,high⟩
  · rw [split]
    simp
  · rw [entries]
    simp

/-! ## Empty segments move, the others stay -/

theorem mudar_vacio (m : Estado) {seg : Segmento} (empty : seg.limite = 0) (destino : Nat) : mudar m seg destino = (true,m) := by
  unfold mudar
  split_ifs
  · rw [empty]
    rfl
  · rfl

theorem mapa_altas {fuera : Nat} {m : Estado} (altas : List Alta) (map : Mapa fuera m)
    (small : tamanios (agregar_todos altas m).lista_memory_sticks + fuera < 2^32) : Mapa fuera (agregar_todos altas m) := by
  induction altas generalizing m with
  | nil => exact map
  | cons a resto ih =>
    have grown := agregar_todos_sticks resto (memory_stick_agregar a m)
    have small' : tamanios (agregar_todos resto (memory_stick_agregar a m)).lista_memory_sticks + fuera < 2^32 := small
    exact ih (@aplicar_mapa fuera insertion_sorter (.memory_stick_agregar a) m map trivial
      ((Nat.add_le_add_right grown fuera).trans_lt small')) small

theorem mapa_mover {fuera destino : Nat} {m : Estado} (map : Mapa fuera m) {p : Nat × Nat} {s : Segmento}
    (here : entrada m.lista_contextos p = some s) (empty : s.limite = 0) (room : destino ≤ m.memoria_total) :
    Mapa fuera (m.mover p destino) := by
  obtain ⟨pre,c,post,tpre,tpost,split,entries,rfl⟩ := split_of_entrada here
  have before := residentes_around pre post c tpre tpost s
  have after := residentes_around pre post c tpre tpost { s with base := destino }
  rw [← entries] at before
  rw [mover_split split entries]
  obtain ⟨total,covers⟩ := map
  rw [split] at covers
  refine ⟨total,fun a => ?_,fun r member => ?_⟩
  · have once := covers.once a
    rw [hits_append,hits_perm before,hits_cons] at once
    rw [hits_append,hits_perm after,hits_cons]
    simp only [rango,empty,one] at once ⊢
    split_ifs at once ⊢ <;> omega
  · rcases List.mem_append.mp member with hole | listed
    · exact covers.inside r (List.mem_append_left _ hole)
    · rcases List.mem_cons.mp (after.mem_iff.mp listed) with rfl | old
      · simpa [rango,empty] using room
      · exact covers.inside r (List.mem_append_right _ (before.mem_iff.mpr (List.mem_cons_of_mem _ old)))

/-! ## The failing turn -/

/-- A read that fails changes no stick. -/
theorem quieta_leer (m : Estado) (dir tam : Nat) : Quieta m (m.leer dir tam).2 := by
  have sticks := leer_sticks m.toFisica dir tam
  exact quieta_con_datos (congrArg (List.map MemoryStick.ficha) sticks) (fun _ _ a _ => congrArg (fun sticks => plano sticks a) sticks)

/-- A write that ends before its source is apart from every segment. -/
theorem quieta_escribir {fuera destino : Nat} {p : Nat × Nat} {seg : Segmento} {resto : List Puntero} {colocados : List Range}
    {m : Estado} (turno : Turno fuera destino ((p,seg) :: resto) colocados m) (small : tamanios m.lista_memory_sticks + fuera < 2^32)
    {buffer : List UInt8} (filled : buffer.length = seg.limite) (before : destino + seg.limite ≤ seg.base) :
    Quieta m (m.escribir destino buffer).2 := by
  have total := turno.total
  have sum := turno.sum
  simp only [List.map_cons,sizes_cons,rango] at sum
  obtain ⟨_,kept,_⟩ := escribir_spec (f := m.toFisica) destino buffer (by omega) (by omega)
  refine quieta_con_datos (escribir_fichas m.toFisica destino buffer) (fun r member a inside => kept a ?_)
  rw [filled]
  obtain ⟨low,high⟩ := inside
  rcases List.mem_append.mp (turno.residents.mem_iff.mp member) with waiting | placed
  · rcases List.mem_cons.mp waiting with rfl | later
    · exact .inr (before.trans low)
    · have above : destino + seg.limite ≤ r.base := slides_member turno.slides.2 later (by omega)
      exact .inr (above.trans low)
  · have below := turno.placed.inside r placed
    exact .inl (by omega)

theorem mapa_con_datos {fuera : Nat} {m : Estado} (map : Mapa fuera m) {f : Fisica}
    (fichas : f.lista_memory_sticks.map MemoryStick.ficha = m.lista_memory_sticks.map MemoryStick.ficha) (usados : List Bool)
    (archivo : Nat → UInt8) : Mapa fuera (Estado.con_datos m f usados archivo) :=
  ⟨map.total.trans (congrArg (· + fuera) (tamanios_of_ficha fichas).symm),map.covers⟩

/-- The turn that fails changes no byte of a segment. -/
theorem quieta_mudar {fuera destino : Nat} {p : Nat × Nat} {seg : Segmento} {resto : List Puntero} {colocados : List Range}
    {m : Estado} (turno : Turno fuera destino ((p,seg) :: resto) colocados m) (small : tamanios m.lista_memory_sticks + fuera < 2^32)
    (moves : seg.base ≠ destino) (harmless : FallaSola destino seg (m.leer seg.base seg.limite)) :
    (mudar m seg destino).1 = false ∧ Quieta m (mudar m seg destino).2 := by
  have total := turno.total
  have room : seg.base + seg.limite ≤ m.memoria_total :=
    turno.room (rango seg) (turno.residents.mem_iff.mpr (by simp))
  obtain ⟨_,sound,_⟩ := leer_spec (f := m.toFisica) seg.base seg.limite (by omega) (by omega)
  have quiet := quieta_leer m seg.base seg.limite
  have sticks := leer_sticks m.toFisica seg.base seg.limite
  have read : m.leer seg.base seg.limite = ((memoria_fisica_leer m.toFisica seg.base seg.limite).1,
    Estado.con_datos m (memoria_fisica_leer m.toFisica seg.base seg.limite).2 m.swap_bloques_usados m.archivo_swap) := rfl
  rw [mudar,if_pos moves]
  rw [read] at harmless quiet ⊢
  generalize memoria_fisica_leer m.toFisica seg.base seg.limite = r at sticks sound harmless quiet ⊢
  obtain ⟨_ | buffer,f⟩ := r
  · exact ⟨rfl,quiet⟩
  · have filled : buffer.length = seg.limite := by
      rw [sound buffer rfl,load_length]
    have same : tamanios f.lista_memory_sticks = tamanios m.lista_memory_sticks := congrArg tamanios sticks
    obtain ⟨failed,before⟩ := harmless
    have wrote := quieta_escribir (turno_con_datos turno m.swap_bloques_usados m.archivo_swap same)
      (by simpa only [Estado.con_datos,same] using small) filled before
    exact ⟨failed,quieta_trans quiet wrote⟩

/-- A harmless compaction that is aborted leaves the map and the bytes as they were. -/
theorem inocua_turnos (altas : Nat → List Alta) {fuera : Nat} : ∀ (pendientes : List Puntero) (colocados : List Range)
    (i destino : Nat) (m : Estado), Turno fuera destino pendientes colocados m → Mapa fuera m → Inocua altas i pendientes destino m →
    tamanios (compactar_turnos altas i pendientes destino m).2.2.lista_memory_sticks + fuera < 2^32 →
    (compactar_turnos altas i pendientes destino m).1 = false →
    Mapa fuera (compactar_turnos altas i pendientes destino m).2.2 ∧ Quieta m (compactar_turnos altas i pendientes destino m).2.2 := by
  intro pendientes
  induction pendientes with
  | nil =>
    intro colocados i destino m turno map harmless small failed
    cases failed
  | cons q resto ih =>
    intro colocados i destino m turno map harmless small failed
    obtain ⟨p,seg⟩ := q
    have grown := turnos_sticks altas ((p,seg) :: resto) i destino m turno.listed turno.distinct
    have bound := (Nat.add_le_add_right grown fuera).trans_lt small
    obtain ⟨started,next,rest⟩ := turno_step altas turno small
    have joined := mapa_altas (altas i) map bound
    have quiet := quieta_altas (altas i) m
    have here := started.listed (p,seg) (by simp)
    have total := started.total
    have sum := started.sum
    simp only [List.map_cons,sizes_cons,rango] at sum
    have low : u32 (destino + seg.limite) = destino + seg.limite := u32_of_lt (by omega)
    simp only [Inocua,low] at harmless
    generalize agregar_todos (altas i) m = n at *
    by_cases still : seg.base = destino ∨ seg.limite = 0
    · rw [if_pos still] at harmless
      have stays : mudar n seg destino = (true,n) := by
        rcases still with same | empty
        · rw [mudar,if_neg (not_not_intro same)]
        · exact mudar_vacio n empty destino
      have moved : Mapa fuera (n.mover p destino) ∧ Quieta n (n.mover p destino) := by
        rcases still with same | empty
        · rw [← same,mover_same here]
          exact ⟨joined,quieta_refl n⟩
        · exact ⟨mapa_mover joined here empty (by omega),quieta_mover here empty destino⟩
      rw [stays] at next rest
      simp only [if_true] at rest
      rw [rest] at small failed ⊢
      obtain ⟨map,later⟩ := ih _ (i + 1) _ _ next moved.1 harmless small failed
      exact ⟨map,quieta_trans quiet (quieta_trans moved.2 later)⟩
    · rw [if_neg still] at harmless
      obtain ⟨failed,kept⟩ := quieta_mudar started bound (not_or.mp still).1 harmless
      obtain ⟨f,fichas,frame⟩ := mudar_frame n seg destino
      rw [failed,if_neg (by decide)] at rest
      rw [rest]
      refine ⟨?_,quieta_trans quiet kept⟩
      rw [frame]
      exact mapa_con_datos joined fichas _ _

/-! ## What is left -/

theorem apart_of_covers {as bs : List Range} {n : Nat} (covers : Covers (as ++ bs) n) {r s : Range} (first : r ∈ as) (second : s ∈ bs) :
    r.Apart s := by
  obtain ⟨pre,post,rfl⟩ := List.append_of_mem first
  by_cases filled : 0 < r.size ∧ 0 < s.size
  · refine .inr (.inr (apart_of_hits (fun a => ?_) (List.mem_append_right (pre ++ post) second) filled.1 filled.2))
    have once := covers.once a
    have fewer : one 0 n a ≤ 1 := by
      unfold one
      split_ifs <;> omega
    simp only [hits_append,hits_cons] at once ⊢
    omega
  · rcases Nat.eq_zero_or_pos r.size with empty | some
    · exact .inl empty
    · exact .inr (.inl (by omega))

theorem intacta_of_mapa {fuera : Nat} {m m' : Estado} (map : Mapa fuera m') (quiet : Quieta m m') : Intacta m m' := by
  have apart : ∀ h ∈ m'.lista_huecos, ∀ r ∈ residentes m'.lista_contextos, h.rango.Apart r :=
    fun h hole r listed => apart_of_covers map.covers (List.mem_map_of_mem hole) listed
  refine ⟨apart,fun p s here => ?_,fun pid id_segmento n granted => ?_⟩
  · obtain ⟨s',here',name,size,base,bytes⟩ := quiet.2 p s here
    refine ⟨s',here',name,size,fun k inside low => ?_⟩
    rw [base (by omega)]
    exact bytes _ (Nat.le_add_right _ _) (by omega) low
  · unfold segmento_crear at granted ⊢
    by_cases large : m'.segment_max_size > 0 ∧ n > a_u32 m'.segment_max_size
    · rw [if_pos large] at granted
      cases granted
    rw [if_neg large] at granted ⊢
    cases found : contexto_buscar m' pid with
    | none =>
      rw [found] at granted
      cases granted
    | some ic =>
      obtain ⟨i,c⟩ := ic
      cases hole : buscar_hueco m' n with
      | none =>
        simp only [found,hole] at granted
        split_ifs at granted
      | some kh =>
        obtain ⟨here,fits⟩ := buscar_hueco_sound hole
        obtain ⟨resto,before,after⟩ := con_tabla_residentes found
        refine ⟨kh.2.base,?_,fun r listed => ?_⟩
        · refine (after (fun tabla => tabla ++ [⟨id_segmento,kh.2.base,n⟩])).trans (List.Perm.trans ?_ (before.symm.cons _))
          simp [rango]
        · have whole := apart kh.2 (List.mem_of_getElem? here) r listed
          simp only [Range.Apart,Hueco.rango] at whole ⊢
          omega

/-- A step lemma: a harmless compaction keeps the map, also when it is aborted. -/
theorem inocua_compactar {orden : Sorter} {altas : Nat → List Alta} {fuera : Nat} {m : Estado} (map : Mapa fuera m)
    (small : tamanios (compactar orden altas m).2.lista_memory_sticks + fuera < 2^32)
    (harmless : Inocua altas 0 (orden.sort comparar_segmentos_por_base (todos_los_segmentos m)) 0 m)
    (failed : (compactar orden altas m).1 = false) :
    Mapa fuera (compactar orden altas m).2 ∧ Quieta m (compactar orden altas m).2 := by
  have start := turno_inicial orden map.total map.covers
  have turns := inocua_turnos altas _ [] 0 0 m start map harmless
  unfold compactar at small failed ⊢
  generalize compactar_turnos altas 0 (orden.sort comparar_segmentos_por_base (todos_los_segmentos m)) 0 m = r at turns small failed ⊢
  obtain ⟨_ | _,destino,m'⟩ := r
  · exact turns small rfl
  · cases failed

/-! ## Runs -/

/-- A compaction that is aborted leaves the segments and their bytes. -/
def DejaIntacta (orden : Sorter) : Suceso → Contado → Prop
  | .pide (.compactar altas), v => (compactar orden altas v.estado).1 = false → Intacta v.estado (compactar orden altas v.estado).2
  | _, _ => True

/-- The map of memory, with what left counted. -/
def Llevada (v : Contado) : Prop := ∃ fuera, Mapa fuera v.estado ∧ tamanios v.estado.lista_memory_sticks + fuera = v.conectado

theorem eliminar_mapa {fuera : Nat} {m : Estado} (map : Mapa fuera m) (fd : Int) :
    ∃ fuera', Mapa fuera' (memory_stick_eliminar fd m) ∧
      tamanios (memory_stick_eliminar fd m).lista_memory_sticks + fuera' = tamanios m.lista_memory_sticks + fuera := by
  have fewer : tamanios (memory_stick_eliminar fd m).lista_memory_sticks ≤ tamanios m.lista_memory_sticks :=
    List.Sublist.sum_le_sum (List.eraseP_sublist.map MemoryStick.tamanio) (fun _ _ => Nat.zero_le _)
  have total := map.total
  refine ⟨fuera + (tamanios m.lista_memory_sticks - tamanios (memory_stick_eliminar fd m).lista_memory_sticks),⟨?_,map.covers⟩,by omega⟩
  change m.memoria_total = _
  omega

/-- The step lemma. -/
theorem contar_llevada {orden : Sorter} {e : Suceso} {v : Contado} (held : Llevada v) (small : (contar orden e v).conectado < 2^32)
    (careful : al_pedir (Segura orden) e v.estado) : Llevada (contar orden e v) := by
  obtain ⟨fuera,map,sum⟩ := held
  cases e with
  | memory_stick_eliminar fd =>
    obtain ⟨fuera',map',sum'⟩ := eliminar_mapa map fd
    exact ⟨fuera',map',sum'.trans sum⟩
  | pide op =>
    have grown := aplicar_sticks orden op v.estado
    have counted : (contar orden (.pide op) v).conectado = tamanios (aplicar orden op v.estado).lista_memory_sticks + fuera := by
      simp only [contar]
      omega
    rw [counted] at small
    refine ⟨fuera,?_,counted.symm⟩
    cases op with
    | compactar altas =>
      cases ended : (compactar orden altas v.estado).1 with
      | true => exact @aplicar_mapa fuera orden (.compactar altas) v.estado map ended small
      | false =>
        have harmless := careful.resolve_left (by rw [ended]; decide)
        exact (inocua_compactar map small harmless ended).1
    | _ =>
      refine aplicar_mapa map ?_ small
      trivial

/-- In every run in which the memory that ever connected fits in 32 bits and every compaction comes
    to its end or is harmless, every aborted compaction leaves the map of memory consistent. -/
theorem aborted_intact (orden : Sorter) (segment_max_size : Int) (allocation_best_fit : Bool) (respuestas : Nat → Respuesta)
    (sucesos : List Suceso)
    (careful : Guarded (cuenta orden) (fun e v => (contar orden e v).conectado < 2^32 ∧ al_pedir (Segura orden) e v.estado) sucesos
      ⟨inicial segment_max_size allocation_best_fit respuestas,0,0⟩) :
    Guarded (cuenta orden) (DejaIntacta orden) sucesos ⟨inicial segment_max_size allocation_best_fit respuestas,0,0⟩ := by
  have start : Llevada ⟨inicial segment_max_size allocation_best_fit respuestas,0,0⟩ :=
    ⟨0,⟨rfl,fun a => by simp [inicial,one],fun r member => by simp [inicial] at member⟩,rfl⟩
  refine guarded_of_invariant (fun e v v' held guards moved => ?_) (fun e v held guards => ?_) start careful
  · cases moved
    exact contar_llevada held guards.1 guards.2
  · obtain ⟨small,safe⟩ := guards
    obtain ⟨fuera,map,sum⟩ := held
    cases e with
    | memory_stick_eliminar fd => trivial
    | pide op =>
      cases op with
      | compactar altas =>
        intro failed
        have grown := compactar_sticks orden altas v.estado
        have harmless := safe.resolve_left (by rw [failed]; decide)
        have small : tamanios (compactar orden altas v.estado).2.lista_memory_sticks + fuera < 2^32 := by
          simp only [contar,aplicar] at small
          omega
        obtain ⟨after,quiet⟩ := inocua_compactar map small harmless failed
        exact intacta_of_mapa after quiet
      | _ => trivial

/-- A hole of three bytes before two segments of two bytes. -/
def hueco_adelante : List Suceso :=
  [.pide (.memory_stick_agregar ⟨3,12,"10.0.0.1",8002,fun _ => 0⟩),.pide (.contexto_crear 0 "a" []),.pide (.segmento_crear 0 0 3),
    .pide (.segmento_crear 0 1 2),.pide (.segmento_crear 0 2 2),.pide (.segmento_eliminar 0 0)]
def compactar_sola : Suceso := .pide (.compactar (fun _ => []))
/-- One request that the sticks do not answer as asked. -/
def falla_en (n : Nat) : Nat → Respuesta := fun k => if k = n then .falla (fun _ => 9) else .responde
def tras_hueco (respuestas : Nat → Respuesta) : Contado :=
  hueco_adelante.foldl (fun v e => contar insertion_sorter e v) ⟨inicial 0 true respuestas,0,0⟩

/-- The first segment cannot be written to its new place, a stick leaves and a compaction is tried again. -/
theorem aborted_intact_escritura : (compactar insertion_sorter (fun _ => []) (tras_hueco (falla_en 1)).estado).1 = false ∧
    Guarded (cuenta insertion_sorter) (DejaIntacta insertion_sorter)
      (hueco_adelante ++ [compactar_sola,.memory_stick_eliminar 3,compactar_sola]) ⟨inicial 0 true (falla_en 1),0,0⟩ :=
  ⟨by decide +kernel,aborted_intact insertion_sorter 0 true (falla_en 1)
    (hueco_adelante ++ [compactar_sola,.memory_stick_eliminar 3,compactar_sola]) (by decide +kernel)⟩

/-- The first segment is moved and the second cannot be read: the first one now overlaps the hole, and
    the next segment that is created lies over it. -/
theorem aborted_overlaps : run (cuenta insertion_sorter) hueco_adelante ⟨inicial 0 true (falla_en 2),0,0⟩ = some (tras_hueco (falla_en 2)) ∧
    (compactar insertion_sorter (fun _ => []) (tras_hueco (falla_en 2)).estado).1 = false ∧
    (compactar insertion_sorter (fun _ => []) (tras_hueco (falla_en 2)).estado).2.lista_huecos = [⟨7,5⟩,⟨0,3⟩] ∧
    residentes (segmento_crear 0 7 3 (compactar insertion_sorter (fun _ => []) (tras_hueco (falla_en 2)).estado).2).2.lista_contextos =
      [⟨0,2⟩,⟨5,2⟩,⟨0,3⟩] ∧
    ¬ DejaIntacta insertion_sorter compactar_sola (tras_hueco (falla_en 2)) := by
  have failed : (compactar insertion_sorter (fun _ => []) (tras_hueco (falla_en 2)).estado).1 = false := by decide +kernel
  refine ⟨run_total (contar insertion_sorter) ..,failed,by decide +kernel,by decide +kernel,fun intact => ?_⟩
  have apart := (intact failed).apart
  revert apart
  decide +kernel

end PlugNPray.Aborts
