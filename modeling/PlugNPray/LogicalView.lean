import PlugNPray.Suspensions

/-!
What a process sees of its memory: its segments by id and contents, wherever they
are. Kernel Memory moves them between sticks and swap and other processes come and
go; the view stays what the process made it.
-/
namespace PlugNPray.LogicalView
open PlugNPray.Runs PlugNPray.Intervals PlugNPray.Places PlugNPray.FlatMemory PlugNPray.Huecos PlugNPray.Sticks
open PlugNPray.Sorting PlugNPray.KernelMemory PlugNPray.Operations PlugNPray.Compaction PlugNPray.Partition PlugNPray.SwapCopies
open PlugNPray.Suspensions

/-- The segments of a process that are in memory. -/
def tabla_de (contextos : List Contexto) (pid : Int) : List Segmento :=
  ((record Contexto.pid pid contextos).map Contexto.tabla_segmentos).getD []
/-- The segments of a process that are in the swap. -/
def guardados_de (procesos : List ProcesoSwap) (pid : Int) : List SegmentoSwap :=
  ((record ProcesoSwap.pid pid procesos).map ProcesoSwap.segmentos).getD []

/-- The logical view: the ids and bytes of the segments in memory and in the swap. -/
def vista (m : Estado) (pid : Int) : Multiset (Int × List UInt8) :=
  ((tabla_de m.lista_contextos pid).map (contenido (plano m.lista_memory_sticks)) ++
    (guardados_de m.procesos_en_swap pid).map (contenido_swap m.bloque m.archivo_swap) : List (Int × List UInt8))

/-- Everything that Kernel Memory keeps about the swap. -/
def swap_de (m : Estado) := (m.procesos_en_swap,m.swap_block_size,m.fd_swap,m.swap_total_bloques,m.swap_bloques_usados,m.archivo_swap)

/-- What every state keeps while the one swap has blocks of `block_size` bytes: one context
    and one place in the swap for each process, and for each block one owner. -/
structure Bien (block_size : Int) (m : Estado) : Prop where
  part : Particion m
  answers : TodoResponde m.toFisica
  pids : (m.lista_contextos.map Contexto.pid).Nodup
  suspended : (m.procesos_en_swap.map ProcesoSwap.pid).Nodup
  registered : m.swap_block_size = 0 ∧ m.fd_swap = -1 ∧ m.procesos_en_swap = [] ∨ 0 < m.swap_block_size ∧ m.fd_swap ≠ -1
  size : m.swap_bloques_usados.length = m.swap_total_bloques.toNat
  full : ∀ ps ∈ m.procesos_en_swap, ∀ ss ∈ ps.segmentos, ss.limite ≤ ss.bloques.length * m.bloque
  nodup : (listados m.procesos_en_swap).Nodup
  marked : ∀ b ∈ listados m.procesos_en_swap, m.swap_bloques_usados.getD b true = true
  block : m.swap_block_size ≤ block_size

variable {block_size : Int}

/-! ## States with the same views -/

theorem vista_congr {m m' : Estado} {q : Int} (tabla : tabla_de m'.lista_contextos q = tabla_de m.lista_contextos q)
    (datos : ∀ s ∈ tabla_de m.lista_contextos q,
      load (plano m'.lista_memory_sticks) s.base s.limite = load (plano m.lista_memory_sticks) s.base s.limite)
    (guardados : guardados_de m'.procesos_en_swap q = guardados_de m.procesos_en_swap q)
    (bloque : m'.bloque = m.bloque)
    (bloques : ∀ b ∈ ocupados (guardados_de m.procesos_en_swap q),
      load m'.archivo_swap (b * m.bloque) m.bloque = load m.archivo_swap (b * m.bloque) m.bloque) : vista m' q = vista m q := by
  have memory : (tabla_de m.lista_contextos q).map (contenido (plano m'.lista_memory_sticks)) =
      (tabla_de m.lista_contextos q).map (contenido (plano m.lista_memory_sticks)) :=
    List.map_congr_left (fun s member => contenido_congr (datos s member))
  have swap : (guardados_de m.procesos_en_swap q).map (contenido_swap m.bloque m'.archivo_swap) =
      (guardados_de m.procesos_en_swap q).map (contenido_swap m.bloque m.archivo_swap) :=
    List.map_congr_left (fun ss member => contenido_swap_congr (fun b mine =>
      bloques b (List.mem_flatMap.mpr ⟨ss,member,mine⟩)))
  rw [vista,vista,tabla,guardados,bloque,memory,swap]

/-- The segments may have moved, but every table entry holds what it held, and nothing
    of the swap changed. -/
structure Conserva (m m' : Estado) : Prop where
  contexts : List.Forall₂ (fun c c' : Contexto => c'.pid = c.pid ∧
    c'.tabla_segmentos.map (contenido (plano m'.lista_memory_sticks)) =
      c.tabla_segmentos.map (contenido (plano m.lista_memory_sticks))) m.lista_contextos m'.lista_contextos
  swap : swap_de m' = swap_de m
  answers : TodoResponde m.toFisica → TodoResponde m'.toFisica

theorem conserva_refl (m : Estado) : Conserva m m := ⟨List.forall₂_same.mpr (fun _ _ => ⟨rfl,rfl⟩),rfl,id⟩

theorem conserva_trans {m m' m'' : Estado} (first : Conserva m m') (second : Conserva m' m'') : Conserva m m'' := by
  refine ⟨?_,second.swap.trans first.swap,fun answers => second.answers (first.answers answers)⟩
  have chain : ∀ {cs ds es : List Contexto} {a b c : Contexto → List (Int × List UInt8)},
      List.Forall₂ (fun x y : Contexto => y.pid = x.pid ∧ b y = a x) cs ds →
      List.Forall₂ (fun x y : Contexto => y.pid = x.pid ∧ c y = b x) ds es →
      List.Forall₂ (fun x y : Contexto => y.pid = x.pid ∧ c y = a x) cs es := by
    intro cs ds es a b c left
    induction left generalizing es with
    | nil => intro right; cases right; exact .nil
    | cons here _ ih =>
      intro right
      cases right with
      | cons here' rest => exact .cons ⟨here'.1.trans here.1,here'.2.trans here.2⟩ (ih rest)
  exact chain first.contexts second.contexts

private theorem conserva_swap {m m' : Estado} (same : Conserva m m') : m'.procesos_en_swap = m.procesos_en_swap ∧
    m'.swap_block_size = m.swap_block_size ∧ m'.fd_swap = m.fd_swap ∧ m'.swap_total_bloques = m.swap_total_bloques ∧
    m'.swap_bloques_usados = m.swap_bloques_usados ∧ m'.archivo_swap = m.archivo_swap := by
  simpa only [swap_de,Prod.mk.injEq] using same.swap

theorem vista_conserva {m m' : Estado} (same : Conserva m m') (q : Int) : vista m' q = vista m q := by
  obtain ⟨procesos,block,_,_,_,archivo⟩ := conserva_swap same
  have tables : (tabla_de m'.lista_contextos q).map (contenido (plano m'.lista_memory_sticks)) =
      (tabla_de m.lista_contextos q).map (contenido (plano m.lista_memory_sticks)) := by
    have contexts := same.contexts
    generalize m.lista_contextos = cs at contexts ⊢
    generalize m'.lista_contextos = cs' at contexts ⊢
    induction contexts with
    | nil => rfl
    | @cons c c' rest rest' here _ ih =>
      obtain ⟨name,entries⟩ := here
      by_cases mine : c.pid = q
      · simpa [tabla_de,record,name,mine] using entries
      · simpa [tabla_de,record,name,mine] using ih
  rw [vista,vista,tables,procesos,archivo,Estado.bloque,block,Estado.bloque]

theorem bien_conserva {m m' : Estado} (bien : Bien block_size m) (part : Particion m') (same : Conserva m m') : Bien block_size m' := by
  obtain ⟨procesos,block,fd,total,usados,archivo⟩ := conserva_swap same
  have names : m'.lista_contextos.map Contexto.pid = m.lista_contextos.map Contexto.pid := by
    have contexts := same.contexts
    generalize m.lista_contextos = cs at contexts ⊢
    generalize m'.lista_contextos = cs' at contexts ⊢
    induction contexts with
    | nil => rfl
    | cons here _ ih => rw [List.map_cons,List.map_cons,here.1,ih]
  refine ⟨part,same.answers bien.answers,by rw [names]; exact bien.pids,by rw [procesos]; exact bien.suspended,?_,?_,?_,
    by rw [procesos]; exact bien.nodup,?_,block.trans_le bien.block⟩
  · rw [procesos,block,fd]
    exact bien.registered
  · rw [usados,total]
    exact bien.size
  · rw [procesos,Estado.bloque,block]
    exact bien.full
  · rw [procesos,usados]
    exact bien.marked

/-! ## New sticks and moves -/

private theorem tablas_iguales {mem mem' : Nat → UInt8} {cs : List Contexto}
    (same : ∀ r ∈ residentes cs, load mem' r.base r.size = load mem r.base r.size) :
    List.Forall₂ (fun c c' : Contexto => c'.pid = c.pid ∧
      c'.tabla_segmentos.map (contenido mem') = c.tabla_segmentos.map (contenido mem)) cs cs :=
  List.forall₂_same.mpr (fun _ listed => ⟨rfl,List.map_congr_left (fun s member =>
    contenido_congr (same (rango s) (rango_mem listed member)))⟩)

theorem conserva_altas {m : Estado} (altas : List Alta)
    (inside : ∀ r ∈ residentes m.lista_contextos, r.base + r.size ≤ tamanios m.lista_memory_sticks) :
    Conserva m (agregar_todos altas m) := by
  obtain ⟨nuevos,sticks⟩ := agregar_todos_append altas m
  refine ⟨?_,?_,?_⟩
  · rw [agregar_todos_contextos,sticks]
    refine tablas_iguales (fun r member => load_congr (fun a _ high => ?_))
    exact plano_append_left nuevos (high.trans_le (inside r member))
  · clear sticks inside
    induction altas generalizing m with
    | nil => rfl
    | cons a resto ih => exact ih (m := memory_stick_agregar a m)
  · clear sticks inside
    induction altas generalizing m with
    | nil => exact id
    | cons a resto ih => exact ih (m := memory_stick_agregar a m)

/-- The place that a segment moves to is apart from every other segment. -/
private theorem destino_apart {destino : Nat} {p : Nat × Nat} {s : Segmento} {resto : List Puntero} {colocados : List Range}
    {m : Estado} (turno : Turno 0 destino ((p,s) :: resto) colocados m) {r : Range}
    (member : r ∈ resto.map (fun q => rango q.2) ++ colocados) (mem : Nat → UInt8) {bytes : List UInt8}
    (fills : bytes.length = s.limite) : load (store mem destino bytes) r.base r.size = load mem r.base r.size := by
  rcases Nat.eq_zero_or_pos r.size with empty | filled
  · rw [empty,load_zero,load_zero]
  · refine load_store_apart mem ?_
    rcases List.mem_append.mp member with later | placed
    · have above : destino + s.limite ≤ r.base := slides_member turno.slides.2 later filled
      omega
    · have below := turno.placed.inside r placed
      omega

/-- The move of one segment succeeds and keeps what every table entry holds. -/
theorem conserva_mudar {destino : Nat} {p : Nat × Nat} {s : Segmento} {resto : List Puntero} {colocados : List Range}
    {m : Estado} (turno : Turno 0 destino ((p,s) :: resto) colocados m) (answers : TodoResponde m.toFisica)
    (small : tamanios m.lista_memory_sticks < 2^32) :
    (mudar m s destino).1 = true ∧ Conserva m ((mudar m s destino).2.mover p destino) := by
  have here := turno.listed (p,s) (by simp)
  unfold mudar
  by_cases moves : s.base = destino
  · subst moves
    simp only [ne_eq,not_true_eq_false,if_false,mover_same here]
    exact ⟨trivial,conserva_refl m⟩
  obtain ⟨pre,c,post,tpre,tpost,split,entries,rfl⟩ := split_of_entrada here
  have before := residentes_around pre post c tpre tpost s
  rw [← entries] at before
  have residents := turno.residents
  rw [split] at residents
  have rest := (before.symm.trans residents).cons_inv
  have total := turno.total
  have sum := turno.sum
  simp only [List.map_cons,sizes_cons,rango] at sum
  have room : s.base + s.limite ≤ m.memoria_total := by
    refine turno.room (rango s) ?_
    rw [split]
    exact before.mem_iff.mpr (by simp)
  set bytes := load (plano m.lista_memory_sticks) s.base s.limite with bytesIs
  have len : bytes.length = s.limite := load_length _ _ _
  obtain ⟨f,wrote,flat,same,answers'⟩ := escribir_ok destino bytes answers small (by rw [len]; omega)
  have read : m.leer s.base s.limite = (some bytes,m) := leer_ok answers small (by omega)
  simp only [ne_eq,moves,not_false_eq_true,if_true,read,wrote]
  refine ⟨trivial,?_⟩
  rw [mover_split (m := Estado.con_datos m f m.swap_bloques_usados m.archivo_swap) split entries]
  have others : ∀ r ∈ otros pre post tpre tpost,
      load (plano f.lista_memory_sticks) r.base r.size = load (plano m.lista_memory_sticks) r.base r.size := by
    intro r member
    rw [flat]
    exact destino_apart turno (rest.mem_iff.mp member) _ len
  simp only [otros,List.mem_append] at others
  refine ⟨?_,rfl,fun _ => answers'⟩
  rw [split]
  refine List.rel_append (tablas_iguales (fun r member => others r (.inl member)))
    (.cons ⟨rfl,?_⟩ (tablas_iguales (fun r member => others r (.inr (.inr (.inr member))))))
  have moved : contenido (plano f.lista_memory_sticks) { s with base := destino } = contenido (plano m.lista_memory_sticks) s := by
    have back := load_store_same (plano m.lista_memory_sticks) destino bytes
    rw [len] at back
    rw [contenido,contenido,flat,back]
  rw [entries]
  simp only [List.map_append,List.map_cons]
  rw [moved]
  congr 1
  · exact List.map_congr_left (fun t member =>
      contenido_congr (others (rango t) (.inr (.inl (List.mem_map_of_mem member)))))
  · congr 1
    exact List.map_congr_left (fun t member =>
      contenido_congr (others (rango t) (.inr (.inr (.inl (List.mem_map_of_mem member))))))

/-- A whole compaction succeeds and keeps what every table entry holds. -/
theorem conserva_turnos (altas : Nat → List Alta) : ∀ (pendientes : List Puntero) (colocados : List Range) (i destino : Nat)
    (m : Estado), Turno 0 destino pendientes colocados m → TodoResponde m.toFisica →
    tamanios (compactar_turnos altas i pendientes destino m).2.2.lista_memory_sticks < 2^32 →
    (compactar_turnos altas i pendientes destino m).1 = true ∧
      Conserva m (compactar_turnos altas i pendientes destino m).2.2 := by
  intro pendientes
  induction pendientes with
  | nil =>
    intro colocados i destino m turno answers small
    exact ⟨rfl,conserva_altas (altas i) (fun r member => (turno.room r member).trans_eq turno.total)⟩
  | cons q resto ih =>
    intro colocados i destino m turno answers small
    obtain ⟨p,s⟩ := q
    have bound := (turnos_sticks altas ((p,s) :: resto) i destino m turno.listed turno.distinct).trans_lt small
    obtain ⟨started,next,rest⟩ := turno_step altas turno small
    have grown := conserva_altas (altas i) (fun r member => (turno.room r member).trans_eq turno.total)
    obtain ⟨success,moved⟩ := conserva_mudar started (grown.answers answers) bound
    rw [success,if_pos rfl] at rest
    rw [rest] at small ⊢
    obtain ⟨done,kept⟩ := ih _ (i + 1) _ _ next (moved.answers (grown.answers answers)) small
    exact ⟨done,conserva_trans grown (conserva_trans moved kept)⟩

theorem conserva_compactar {orden : Sorter} {altas : Nat → List Alta} {m : Estado} (bien : Bien block_size m)
    (small : tamanios (compactar orden altas m).2.lista_memory_sticks < 2^32) :
    (compactar orden altas m).1 = true ∧ Conserva m (compactar orden altas m).2 := by
  have map := particion_mapa.mp bien.part
  have start := turno_inicial orden map.total map.covers
  have bound : tamanios (compactar_turnos altas 0 (orden.sort comparar_segmentos_por_base (todos_los_segmentos m)) 0 m).2.2.lista_memory_sticks < 2^32 := by
    refine lt_of_eq_of_lt ?_ small
    unfold compactar
    rcases compactar_turnos altas 0 (orden.sort comparar_segmentos_por_base (todos_los_segmentos m)) 0 m with ⟨_ | _,d,m'⟩ <;> rfl
  obtain ⟨done,kept⟩ := conserva_turnos altas _ _ 0 0 m start bien.answers bound
  unfold compactar
  generalize compactar_turnos altas 0 (orden.sort comparar_segmentos_por_base (todos_los_segmentos m)) 0 m = r at done kept ⊢
  obtain ⟨success,destino,m'⟩ := r
  cases done
  exact ⟨rfl,kept.contexts,kept.swap,kept.answers⟩

/-! ## Tables and the swap list by process -/

theorem tabla_of_contexto {m : Estado} {pid : Int} {i : Nat} {c : Contexto} (found : contexto_buscar m pid = some (i,c)) :
    tabla_de m.lista_contextos pid = c.tabla_segmentos := by
  obtain ⟨pre,post,split,_,name,least⟩ := split_of_contexto found
  rw [tabla_de,split,record_here post name least]
  rfl

theorem tabla_con_tabla {m : Estado} {pid : Int} {i : Nat} {c : Contexto} (found : contexto_buscar m pid = some (i,c))
    (f : List Segmento → List Segmento) :
    tabla_de (m.con_tabla i f).lista_contextos pid = f c.tabla_segmentos ∧
      ∀ q, q ≠ pid → tabla_de (m.con_tabla i f).lista_contextos q = tabla_de m.lista_contextos q := by
  refine ⟨tabla_of_contexto (contexto_con_tabla found f),fun q other => ?_⟩
  obtain ⟨pre,post,split,rfl,rfl,_⟩ := split_of_contexto found
  rw [con_tabla_split split,split,tabla_de,tabla_de,record_other pre post (Ne.symm other),
    record_other pre post (x := { c with tabla_segmentos := f c.tabla_segmentos }) (Ne.symm other)]

theorem guardados_of_proceso {m : Estado} {pid : Int} {k : Nat} {ps : ProcesoSwap}
    (found : buscar_proceso_swap m pid = some (k,ps)) : guardados_de m.procesos_en_swap pid = ps.segmentos := by
  obtain ⟨pre,post,split,_,name,least⟩ := split_of_proceso_swap found
  rw [guardados_de,split,record_here post name least]
  rfl

theorem guardados_append {procesos : List ProcesoSwap} {pid : Int} (none : ∀ ps ∈ procesos, ps.pid ≠ pid)
    (nuevos : List SegmentoSwap) : guardados_de procesos pid = [] ∧ guardados_de (procesos ++ [⟨pid,nuevos⟩]) pid = nuevos ∧
      ∀ q, q ≠ pid → guardados_de (procesos ++ [⟨pid,nuevos⟩]) q = guardados_de procesos q := by
  refine ⟨?_,?_,fun q other => ?_⟩
  · rw [guardados_de,record_none none]
    rfl
  · have here : record ProcesoSwap.pid pid (procesos ++ [⟨pid,nuevos⟩]) = some ⟨pid,nuevos⟩ := record_here [] rfl none
    rw [guardados_de,here]
    rfl
  · rw [guardados_de,record_append procesos (by simpa using Ne.symm other),← guardados_de]

theorem guardados_erase {m : Estado} {pid : Int} {k : Nat} {ps : ProcesoSwap} (found : buscar_proceso_swap m pid = some (k,ps))
    (nodup : (m.procesos_en_swap.map ProcesoSwap.pid).Nodup) : guardados_de (m.procesos_en_swap.eraseIdx k) pid = [] ∧
      ∀ q, q ≠ pid → guardados_de (m.procesos_en_swap.eraseIdx k) q = guardados_de m.procesos_en_swap q := by
  obtain ⟨pre,post,split,rfl,rfl,least⟩ := split_of_proceso_swap found
  rw [split] at nodup ⊢
  rw [eraseIdx_split]
  refine ⟨?_,fun q other => ?_⟩
  · rw [guardados_de,record_none (fun qs member => ?_)]
    · rfl
    · rcases List.mem_append.mp member with early | late
      · exact least qs early
      · intro same
        rw [List.map_append,List.map_cons] at nodup
        exact (List.nodup_cons.mp (List.nodup_append.mp nodup).2.1).1 (same ▸ List.mem_map_of_mem late)
  · rw [guardados_de,guardados_de,record_other pre post (Ne.symm other)]

theorem ocupados_listados {procesos : List ProcesoSwap} {pid : Int} {b : Nat} (member : b ∈ ocupados (guardados_de procesos pid)) :
    b ∈ listados procesos := by
  unfold guardados_de at member
  cases found : record ProcesoSwap.pid pid procesos with
  | none =>
    rw [found] at member
    cases member
  | some ps =>
    rw [found] at member
    exact List.mem_flatMap.mpr ⟨ps,(record_mem found).1,member⟩

theorem sizes_tabla {m : Estado} {pid : Int} {i : Nat} {c : Contexto} (part : Particion m)
    (found : contexto_buscar m pid = some (i,c)) : sizes (c.tabla_segmentos.map rango) ≤ tamanios m.lista_memory_sticks := by
  obtain ⟨resto,before,_⟩ := con_tabla_residentes found
  have sum := sizes_of_tiles part.covers.once part.covers.inside
  rw [sizes_append,sizes_perm before,sizes_append,part.total] at sum
  omega

theorem residente_inside {m : Estado} (part : Particion m) {r : Range} (member : r ∈ residentes m.lista_contextos) :
    r.base + r.size ≤ tamanios m.lista_memory_sticks := by
  rw [← part.total]
  exact part.covers.inside r (List.mem_append_right _ member)

theorem residente_of_tabla {m : Estado} {q : Int} {s : Segmento} (member : s ∈ tabla_de m.lista_contextos q) :
    rango s ∈ residentes m.lista_contextos := by
  unfold tabla_de at member
  cases found : record Contexto.pid q m.lista_contextos with
  | none =>
    rw [found] at member
    cases member
  | some c =>
    rw [found] at member
    exact rango_mem (record_mem found).1 member

/-! ## Suspension -/

theorem medible_of_bien {m : Estado} (bien : Bien block_size m) (small : tamanios m.lista_memory_sticks + m.bloque < 2^31) (pid : Int) :
    Medible pid m := by
  have filled : m.fd_swap ≠ -1 → 0 < m.swap_block_size := by
    intro connected
    rcases bien.registered with ⟨_,disconnected,_⟩ | ⟨some,_⟩
    · exact absurd disconnected connected
    · exact some
  have bound : m.swap_block_size < 2^32 := by
    simp only [Estado.bloque] at small
    omega
  refine ⟨filled,bien.size,fun connected _ i c found => ?_⟩
  have positive := filled connected
  have few := sizes_tabla bien.part found
  exact bastan_of_contable positive bound (contable_of_small (by simp only [Estado.bloque]; omega) (by omega))

theorem sano_of_bien {m : Estado} (bien : Bien block_size m) (small : tamanios m.lista_memory_sticks < 2^32) (pid : Int) : Sano pid m :=
  ⟨bien.answers,small,fun _ _ found _ member => residente_inside bien.part (rango_mem (contexto_mem found) member)⟩

theorem suspender_cases {m : Estado} (bien : Bien block_size m) (small : tamanios m.lista_memory_sticks + m.bloque < 2^31) (pid : Int) :
    (proceso_suspender pid m).2 = m ∨ ∃ i c nuevos usados archivo, contexto_buscar m pid = some (i,c) ∧
      (∀ ps ∈ m.procesos_en_swap, ps.pid ≠ pid) ∧ 0 < m.swap_block_size ∧ Copiado c.tabla_segmentos m nuevos usados archivo ∧
      (proceso_suspender pid m).2 = suspendido pid m i c nuevos m.respuestas usados archivo := by
  have medible := medible_of_bien bien small pid
  have sano := sano_of_bien bien (by omega) pid
  have ends := suspender_spec medible
  generalize proceso_suspender pid m = r at ends ⊢
  obtain ⟨ok,m'⟩ := r
  cases ends with
  | rechaza => exact .inl rfl
  | ya listed => exact .inl rfl
  | falla respuestas archivo kept broken => exact absurd sano broken
  | @sale i c nuevos respuestas usados archivo connected found absent copied answered =>
    rw [answered sano]
    exact .inr ⟨i,c,nuevos,usados,archivo,found,absent,medible.positive connected,copied,rfl⟩

/-- A suspension changes nobody's view, not even that of its process. -/
theorem vista_suspender {m : Estado} (bien : Bien block_size m) (small : tamanios m.lista_memory_sticks + m.bloque < 2^31) (pid q : Int) :
    vista (proceso_suspender pid m).2 q = vista m q := by
  rcases suspender_cases bien small pid with same | ⟨i,c,nuevos,usados,archivo,found,absent,_,spec,same⟩
  · rw [same]
  · rw [same]
    obtain ⟨vacia,otras⟩ := tabla_con_tabla found (fun _ => [])
    obtain ⟨sin,con,otros⟩ := guardados_append absent nuevos
    by_cases mine : q = pid
    · subst mine
      have before : vista m q = ↑(c.tabla_segmentos.map (contenido (plano m.lista_memory_sticks))) := by
        rw [vista,tabla_of_contexto found,sin,List.map_nil,List.append_nil]
      have inside := (sano_of_bien bien (by omega) q).2.2 i c found
      rw [before,← spec.data (by omega) (fun seg member => by have := inside seg member; omega)]
      refine congrArg Multiset.ofList ?_
      refine (congrArg₂ (· ++ ·) (congrArg (List.map _) vacia) (congrArg (List.map _) con)).trans ?_
      rfl
    · refine vista_congr (otras q mine) (fun _ _ => rfl) (otros q mine) rfl (fun b member => ?_)
      exact spec.others b (bien.marked b (ocupados_listados member))

theorem bien_suspender {m : Estado} (bien : Bien block_size m) (small : tamanios m.lista_memory_sticks + m.bloque < 2^31) (pid : Int)
    (part : Particion (proceso_suspender pid m).2) : Bien block_size (proceso_suspender pid m).2 := by
  rcases suspender_cases bien small pid with same | ⟨i,c,nuevos,usados,archivo,found,absent,some,spec,same⟩
  · rw [same]
    exact bien
  · rw [same] at part ⊢
    have connected : m.fd_swap ≠ -1 := by
      rcases bien.registered with ⟨zero,_⟩ | ⟨_,connected⟩
      · omega
      · exact connected
    have blocks : listados (m.procesos_en_swap ++ [⟨pid,nuevos⟩]) = listados m.procesos_en_swap ++ ocupados nuevos := by
      simp [listados]
    have owned : ∀ b, b ∈ listados m.procesos_en_swap → b ∉ ocupados nuevos := by
      intro b old new
      have used := bien.marked b old
      rw [spec.free b new] at used
      cases used
    refine ⟨part,bien.answers,?_,?_,.inr ⟨some,connected⟩,spec.size.trans bien.size,fun ps member => ?_,?_,
      fun b member => ?_,bien.block⟩
    · exact (congrArg List.Nodup (pids_con_tabla m i (fun _ => []))).mpr bien.pids
    · refine (congrArg List.Nodup List.map_append).mpr ?_
      refine bien.suspended.append (List.nodup_singleton _) (fun p old new => ?_)
      obtain ⟨ps,listed,rfl⟩ := List.mem_map.mp old
      exact absent ps listed (by simpa using new)
    · rcases List.mem_append.mp member with old | new
      · exact bien.full ps old
      · obtain rfl := List.mem_singleton.mp new
        intro ss listed
        have positive : 0 < m.bloque := by simp only [Estado.bloque]; omega
        rw [(spec.count ss listed).2]
        exact le_cuantos ss.limite positive
    · exact blocks ▸ bien.nodup.append spec.nodup owned
    · have member : b ∈ listados m.procesos_en_swap ++ ocupados nuevos := blocks ▸ member
      refine (spec.marks b).trans ?_
      rcases List.mem_append.mp member with old | new
      · rw [bien.marked b old,Bool.true_or]
      · simp [new]

/-! ## De-suspension -/

/-- What a de-suspension that goes through leaves. -/
structure Vuelta (pid : Int) (m : Estado) (k i : Nat) (ps : ProcesoSwap) (c : Contexto) (huecos : List Hueco)
    (puestos : List (SegmentoSwap × Nat)) (f : Fisica) : Prop where
  saved : buscar_proceso_swap m pid = some (k,ps)
  found : contexto_buscar m pid = some (i,c)
  names : puestos.map Prod.fst = ps.segmentos
  connected : m.fd_swap ≠ -1
  answers : TodoResponde f
  others : ∀ r ∈ residentes m.lista_contextos,
    load (plano f.lista_memory_sticks) r.base r.size = load (plano m.lista_memory_sticks) r.base r.size
  data : (puestos.map a_segmento).map (contenido (plano f.lista_memory_sticks)) =
    ps.segmentos.map (contenido_swap m.bloque m.archivo_swap)
  done : (proceso_dessuspender pid m).2 = { Estado.con_tabla (Estado.con_datos { m with lista_huecos := huecos } f
      (m.desmarcar (ocupados ps.segmentos)).swap_bloques_usados m.archivo_swap) i (fun tabla => tabla ++ puestos.map a_segmento) with
    procesos_en_swap := m.procesos_en_swap.eraseIdx k }

theorem dessuspender_cases {m : Estado} (bien : Bien block_size m) (small : tamanios m.lista_memory_sticks < 2^32) (pid : Int) :
    (∃ huecos, (proceso_dessuspender pid m).2 = { m with lista_huecos := huecos }) ∨
      ∃ k i ps c huecos puestos f, Vuelta pid m k i ps c huecos puestos f := by
  cases saved : buscar_proceso_swap m pid with
  | none => exact .inl ⟨m.lista_huecos,by simp [proceso_dessuspender,saved]⟩
  | some kps =>
    obtain ⟨k,ps⟩ := kps
    obtain ⟨pre,post,split,_⟩ := split_of_proceso_swap saved
    have listed : ps ∈ m.procesos_en_swap := by rw [split]; simp
    have connected : m.fd_swap ≠ -1 := by
      rcases bien.registered with ⟨_,_,none⟩ | ⟨_,connected⟩
      · rw [none] at listed
        cases listed
      · exact connected
    cases found : contexto_buscar m pid with
    | none => exact .inl ⟨m.lista_huecos,by simp [proceso_dessuspender,saved,found]⟩
    | some ic =>
      obtain ⟨i,c⟩ := ic
      have start : Covers (rangos m.lista_huecos ++ (([] : List (SegmentoSwap × Nat)).map rango_ubicado ++
          residentes m.lista_contextos)) m.memoria_total := bien.part.covers
      obtain ⟨placed,_⟩ := ubicar_covers m (by rw [bien.part.total]; exact small) _ ps.segmentos [] m.lista_huecos start
      cases fit : ubicar m ps.segmentos [] m.lista_huecos with
      | mk puestos huecos =>
        cases puestos with
        | none => exact .inl ⟨huecos,by simp [proceso_dessuspender,saved,found,fit]⟩
        | some puestos =>
          obtain ⟨names,covers⟩ := placed puestos huecos fit
          have names : puestos.map Prod.fst = ps.segmentos := by simpa using names
          have inside : ∀ r ∈ puestos.map rango_ubicado, r.base + r.size ≤ tamanios m.lista_memory_sticks := by
            intro r member
            rw [← bien.part.total]
            exact covers.inside r (List.mem_append_right _ (List.mem_append_left _ member))
          obtain ⟨f,done,later,others,data⟩ := dessuspender_restores saved found fit names
            (restaurable_of_responde i puestos _ bien.answers connected small inside) small (bien.full ps listed)
            (fun u member => by
              have room := inside _ (List.mem_map_of_mem member)
              simp only [rango_ubicado] at room
              omega)
            (residentes m.lista_contextos)
            (fun a => by
              have once := covers.once a
              rw [hits_append,one] at once
              split_ifs at once <;> omega)
          exact .inr ⟨k,i,ps,c,huecos,puestos,f,saved,found,names,connected,responde_of_avanza later bien.answers,others,data,
            congrArg Prod.snd done⟩

/-- A de-suspension changes nobody's view, whether it goes through or not. -/
theorem vista_dessuspender {m : Estado} (bien : Bien block_size m) (small : tamanios m.lista_memory_sticks < 2^32) (pid q : Int) :
    vista (proceso_dessuspender pid m).2 q = vista m q := by
  rcases dessuspender_cases bien small pid with ⟨huecos,same⟩ | ⟨k,i,ps,c,huecos,puestos,f,vuelta⟩
  · rw [same]
    rfl
  · rw [vuelta.done]
    obtain ⟨mia,otras⟩ := tabla_con_tabla vuelta.found (fun tabla => tabla ++ puestos.map a_segmento)
    obtain ⟨sin,otros⟩ := guardados_erase vuelta.saved bien.suspended
    have kept : ∀ s ∈ tabla_de m.lista_contextos q,
        load (plano f.lista_memory_sticks) s.base s.limite = load (plano m.lista_memory_sticks) s.base s.limite :=
      fun s member => vuelta.others (rango s) (residente_of_tabla member)
    by_cases mine : q = pid
    · subst mine
      have table := tabla_of_contexto vuelta.found
      rw [table] at kept
      have before : vista m q = ↑(c.tabla_segmentos.map (contenido (plano m.lista_memory_sticks)) ++
          ps.segmentos.map (contenido_swap m.bloque m.archivo_swap)) := by
        rw [vista,table,guardados_of_proceso vuelta.saved]
      have old : c.tabla_segmentos.map (contenido (plano f.lista_memory_sticks)) =
          c.tabla_segmentos.map (contenido (plano m.lista_memory_sticks)) :=
        List.map_congr_left (fun s member => contenido_congr (kept s member))
      rw [before,← vuelta.data,← old,← List.map_append]
      refine congrArg Multiset.ofList ?_
      refine (congrArg₂ (· ++ ·) (congrArg (List.map _) mia) (congrArg (List.map _) sin)).trans ?_
      exact List.append_nil _
    · exact vista_congr (otras q mine) kept (otros q mine) rfl (fun _ _ => rfl)

private theorem listados_erase {m : Estado} {pid : Int} {k : Nat} {ps : ProcesoSwap} (bien : Bien block_size m)
    (saved : buscar_proceso_swap m pid = some (k,ps)) :
    ((m.procesos_en_swap.eraseIdx k).map ProcesoSwap.pid).Nodup ∧ (listados (m.procesos_en_swap.eraseIdx k)).Nodup ∧
      (∀ qs ∈ m.procesos_en_swap.eraseIdx k, qs ∈ m.procesos_en_swap) ∧
      ∀ b ∈ listados (m.procesos_en_swap.eraseIdx k),
        (m.desmarcar (ocupados ps.segmentos)).swap_bloques_usados.getD b true = true := by
  obtain ⟨pre,post,split,rfl,_⟩ := split_of_proceso_swap saved
  have owned := bien.nodup
  have marked := bien.marked
  have names := bien.suspended
  rw [split] at owned marked names ⊢
  rw [eraseIdx_split]
  simp only [listados_append,listados_cons] at owned marked ⊢
  rw [List.nodup_append] at owned
  obtain ⟨first,second,between⟩ := owned
  rw [List.nodup_append] at second
  obtain ⟨_,third,after⟩ := second
  refine ⟨?_,?_,fun qs member => ?_,fun b member => ?_⟩
  · exact names.sublist ((List.sublist_cons_self ps post).append_left pre |>.map ProcesoSwap.pid)
  · exact List.nodup_append.mpr ⟨first,third,fun a early b late => between a early b (List.mem_append_right _ late)⟩
  · exact List.mem_append.mpr ((List.mem_append.mp member).imp_right (List.mem_cons_of_mem ps))
  · rcases List.mem_append.mp member with early | late
    · rw [Estado.desmarcar,desmarcar_getD (fun mine => between b early b (List.mem_append_left _ mine) rfl)]
      exact marked b (List.mem_append_left _ early)
    · rw [Estado.desmarcar,desmarcar_getD (fun mine => after b mine b late rfl)]
      exact marked b (List.mem_append_right _ (List.mem_append_right _ late))

theorem bien_dessuspender {m : Estado} (bien : Bien block_size m) (small : tamanios m.lista_memory_sticks < 2^32) (pid : Int)
    (part : Particion (proceso_dessuspender pid m).2) : Bien block_size (proceso_dessuspender pid m).2 := by
  rcases dessuspender_cases bien small pid with ⟨huecos,same⟩ | ⟨k,i,ps,c,huecos,puestos,f,vuelta⟩
  · rw [same] at part ⊢
    exact ⟨part,bien.answers,bien.pids,bien.suspended,bien.registered,bien.size,bien.full,bien.nodup,bien.marked,bien.block⟩
  · rw [vuelta.done] at part ⊢
    obtain ⟨suspended,nodup,members,marked⟩ := listados_erase bien vuelta.saved
    have some : 0 < m.swap_block_size := by
      rcases bien.registered with ⟨_,disconnected,_⟩ | ⟨some,_⟩
      · exact absurd disconnected vuelta.connected
      · exact some
    exact ⟨part,vuelta.answers,(congrArg List.Nodup (pids_con_tabla m i (fun tabla => tabla ++ puestos.map a_segmento))).mpr bien.pids,
      suspended,.inr ⟨some,vuelta.connected⟩,(desmarcar_length _ _).trans bien.size,
      fun qs member => bien.full qs (members qs member),nodup,marked,bien.block⟩

/-! ## The other operations -/

/-- At most the table of one process and the free list differ. -/
def EditaTabla (pid : Int) (m m' : Estado) : Prop := m' = m ∨ ∃ i c f huecos,
  contexto_buscar m pid = some (i,c) ∧ m' = Estado.con_tabla { m with lista_huecos := huecos } i f

theorem edita_crear (pid id_segmento : Int) (tamanio : Nat) (m : Estado) :
    EditaTabla pid m (segmento_crear pid id_segmento tamanio m).2 := by
  unfold segmento_crear
  by_cases large : m.segment_max_size > 0 ∧ tamanio > a_u32 m.segment_max_size
  · exact .inl (by simp only [large,and_self,if_true])
  · simp only [large,if_false]
    cases found : contexto_buscar m pid with
    | none => exact .inl rfl
    | some ic =>
      obtain ⟨i,c⟩ := ic
      cases buscar_hueco m tamanio with
      | none => exact .inl rfl
      | some kh => exact .inr ⟨i,c,fun tabla => tabla ++ [⟨id_segmento,kh.2.base,tamanio⟩],_,found,rfl⟩

theorem edita_eliminar (pid id_segmento : Int) (m : Estado) : EditaTabla pid m (segmento_eliminar pid id_segmento m).2 := by
  unfold segmento_eliminar
  cases found : contexto_buscar m pid with
  | none => exact .inl rfl
  | some ic =>
    cases hit : buscar_segmento ic.2 id_segmento with
    | none => exact .inl (by simp only [hit])
    | some js =>
      simp only [hit]
      exact .inr ⟨ic.1,ic.2,_,_,found,rfl⟩

theorem edita_ram (pid : Int) (m : Estado) : EditaTabla pid m (liberar_ram pid m) := by
  unfold liberar_ram
  cases found : contexto_buscar m pid with
  | none => exact .inl rfl
  | some ic => exact .inr ⟨ic.1,ic.2,_,_,found,rfl⟩

theorem vista_edita {m m' : Estado} {pid q : Int} (edita : EditaTabla pid m m') (other : q ≠ pid) : vista m' q = vista m q := by
  rcases edita with rfl | ⟨i,c,f,huecos,found,rfl⟩
  · rfl
  · exact vista_congr ((tabla_con_tabla found f).2 q other) (fun _ _ => rfl) rfl rfl (fun _ _ => rfl)

theorem bien_edita {m m' : Estado} {pid : Int} (bien : Bien block_size m) (edita : EditaTabla pid m m') (part : Particion m') :
    Bien block_size m' := by
  rcases edita with rfl | ⟨i,c,f,huecos,found,rfl⟩
  · exact bien
  · exact ⟨part,bien.answers,(congrArg List.Nodup (pids_con_tabla m i f)).mpr bien.pids,bien.suspended,
      bien.registered,bien.size,bien.full,bien.nodup,bien.marked,bien.block⟩

theorem vista_liberar_swap {m : Estado} (bien : Bien block_size m) {pid q : Int} (other : q ≠ pid) :
    vista (liberar_swap pid m) q = vista m q := by
  unfold liberar_swap
  cases saved : buscar_proceso_swap m pid with
  | none => rfl
  | some kps => exact vista_congr rfl (fun _ _ => rfl) ((guardados_erase saved bien.suspended).2 q other) rfl (fun _ _ => rfl)

theorem bien_liberar_swap {m : Estado} (bien : Bien block_size m) (pid : Int) : Bien block_size (liberar_swap pid m) := by
  unfold liberar_swap
  cases saved : buscar_proceso_swap m pid with
  | none => exact bien
  | some kps =>
    obtain ⟨k,ps⟩ := kps
    obtain ⟨suspended,nodup,members,marked⟩ := listados_erase bien saved
    have registered : m.swap_block_size = 0 ∧ m.fd_swap = -1 ∧ m.procesos_en_swap.eraseIdx k = [] ∨
        0 < m.swap_block_size ∧ m.fd_swap ≠ -1 :=
      bien.registered.imp_left (fun free => ⟨free.1,free.2.1,by simp [free.2.2]⟩)
    exact ⟨⟨bien.part.total,bien.part.covers⟩,bien.answers,bien.pids,suspended,registered,
      (desmarcar_length _ _).trans bien.size,fun qs member => bien.full qs (members qs member),nodup,marked,bien.block⟩

theorem vista_eliminar {m : Estado} {pid q : Int} (other : q ≠ pid) : vista (contexto_eliminar pid m) q = vista m q := by
  unfold contexto_eliminar
  cases found : contexto_buscar m pid with
  | none => rfl
  | some ic =>
    obtain ⟨i,c⟩ := ic
    obtain ⟨pre,post,split,rfl,rfl,_⟩ := split_of_contexto found
    refine vista_congr ?_ (fun _ _ => rfl) rfl rfl (fun _ _ => rfl)
    simp only [split,eraseIdx_split]
    rw [tabla_de,tabla_de,record_other pre post (Ne.symm other)]

theorem bien_eliminar {m : Estado} (bien : Bien block_size m) (pid : Int) (part : Particion (contexto_eliminar pid m)) :
    Bien block_size (contexto_eliminar pid m) := by
  unfold contexto_eliminar at part ⊢
  cases found : contexto_buscar m pid with
  | none => exact bien
  | some ic =>
    rw [found] at part
    exact ⟨part,bien.answers,bien.pids.sublist ((List.eraseIdx_sublist m.lista_contextos ic.1).map Contexto.pid),bien.suspended,
      bien.registered,bien.size,bien.full,bien.nodup,bien.marked,bien.block⟩

/-! ## Runs -/

/-- What the environment promises: new processes have new pids, addresses are 32-bit
    numbers, and one swap registers once, with blocks of `block_size` bytes. -/
def Estable (block_size : Int) : Operacion → Estado → Prop
  | .contexto_crear pid _ _, m => contexto_buscar m pid = none
  | .escribir dir_fisica _, _ => dir_fisica < 2^32
  | .swap_registrar fd size _, m => fd ≠ -1 ∧ 0 < size ∧ size = block_size ∧ m.swap_block_size = 0
  | .swap_desregistrar, _ => False
  | _, _ => True

instance (block_size : Int) : ∀ op m, Decidable (Estable block_size op m)
  | .contexto_crear pid _ _, m => inferInstanceAs (Decidable (contexto_buscar m pid = none))
  | .escribir dir_fisica _, _ => inferInstanceAs (Decidable (dir_fisica < 2^32))
  | .swap_registrar fd size _, m => inferInstanceAs (Decidable (fd ≠ -1 ∧ 0 < size ∧ size = block_size ∧ m.swap_block_size = 0))
  | .swap_desregistrar, _ => isFalse id
  | .memory_stick_agregar _, _ | .segmento_crear _ _ _, _ | .segmento_eliminar _ _, _ | .compactar _, _
  | .proceso_suspender _, _ | .proceso_dessuspender _, _ | .proceso_liberar_memoria _, _ | .finalizar _, _ => isTrue trivial

/-- The step lemma: every operation keeps the invariant while sticks and a block fit in 31 bits. -/
theorem aplicar_bien {orden : Sorter} {op : Operacion} {m : Estado} (bien : Bien block_size m) (stable : Estable block_size op m)
    (small : (tamanios (aplicar orden op m).lista_memory_sticks : Int) + block_size < 2^31) :
    Bien block_size (aplicar orden op m) := by
  have grown := aplicar_sticks orden op m
  have block := bien.block
  have nonneg : 0 ≤ m.swap_block_size := by
    rcases bien.registered with ⟨zero,_⟩ | ⟨some,_⟩ <;> omega
  have low : tamanios m.lista_memory_sticks + m.bloque < 2^31 := by
    simp only [Estado.bloque]
    omega
  have low' : tamanios (aplicar orden op m).lista_memory_sticks < 2^32 := by omega
  have admitted : Admitida orden op m := by
    cases op with
    | contexto_crear pid path instrucciones => exact stable
    | compactar altas => exact (conserva_compactar bien low').1
    | escribir dir_fisica bytes => exact stable
    | swap_registrar fd size swap_size => exact stable.2.1
    | _ => trivial
  have part := aplicar_particion bien.part (completa_of_admitida admitted) low'
  cases op with
  | memory_stick_agregar a =>
    exact bien_conserva bien part (conserva_altas [a] (fun r member => residente_inside bien.part member))
  | contexto_crear pid path instrucciones =>
    refine ⟨part,bien.answers,?_,bien.suspended,bien.registered,bien.size,bien.full,bien.nodup,bien.marked,bien.block⟩
    refine (congrArg List.Nodup List.map_append).mpr (bien.pids.append (List.nodup_singleton _) (fun p old new => ?_))
    obtain ⟨c,listed,rfl⟩ := List.mem_map.mp old
    have fresh := first_none.mp stable c listed
    simp only [List.map_cons,List.map_nil,List.mem_singleton] at new
    simp [new] at fresh
  | segmento_crear pid id_segmento tamanio => exact bien_edita bien (edita_crear pid id_segmento tamanio m) part
  | segmento_eliminar pid id_segmento => exact bien_edita bien (edita_eliminar pid id_segmento m) part
  | compactar altas => exact bien_conserva bien part (conserva_compactar bien low').2
  | proceso_suspender pid => exact bien_suspender bien low pid part
  | proceso_dessuspender pid => exact bien_dessuspender bien (by omega) pid part
  | proceso_liberar_memoria pid =>
    exact bien_liberar_swap (bien_edita bien (edita_ram pid m) (liberar_ram_particion pid bien.part)) pid
  | finalizar pid =>
    refine bien_eliminar (bien_liberar_swap (bien_edita bien (edita_ram pid m) ?_) pid) pid part
    exact liberar_ram_particion pid bien.part
  | escribir dir_fisica bytes =>
    obtain ⟨later,_⟩ := escribir_spec (f := m.toFisica) dir_fisica bytes (by omega) stable
    exact ⟨part,responde_of_avanza later bien.answers,bien.pids,bien.suspended,bien.registered,bien.size,bien.full,bien.nodup,
      bien.marked,bien.block⟩
  | swap_registrar fd size swap_size =>
    obtain ⟨connected,some,rfl,first⟩ := stable
    have none : m.procesos_en_swap = [] := by
      rcases bien.registered with ⟨_,_,none⟩ | ⟨some',_⟩
      · exact none
      · omega
    refine ⟨part,bien.answers,bien.pids,bien.suspended,.inr ⟨some,connected⟩,List.length_replicate,fun ps member => ?_,bien.nodup,
      fun b member => ?_,le_refl _⟩
    · have member : ps ∈ m.procesos_en_swap := member
      rw [none] at member
      cases member
    · have member : b ∈ listados m.procesos_en_swap := member
      rw [none] at member
      cases member
  | swap_desregistrar => exact stable.elim

theorem bien_of_run {orden : Sorter} {segment_max_size : Int} {allocation_best_fit : Bool} {ops : List Operacion} {m : Estado}
    (nonneg : 0 ≤ block_size)
    (stable : Guarded (paso orden) (Estable block_size) ops (inicial segment_max_size allocation_best_fit (fun _ => .responde)))
    (reached : run (paso orden) ops (inicial segment_max_size allocation_best_fit (fun _ => .responde)) = some m)
    (small : (tamanios m.lista_memory_sticks : Int) + block_size < 2^31) : Bien block_size m := by
  have start : Bien block_size (inicial segment_max_size allocation_best_fit (fun _ => .responde)) :=
    ⟨⟨rfl,fun a => by simp [inicial,one],fun r member => by simp [inicial] at member⟩,fun _ => rfl,
      List.nodup_nil,List.nodup_nil,.inl ⟨rfl,rfl,rfl⟩,rfl,fun _ none => (List.not_mem_nil none).elim,List.nodup_nil,
      fun _ none => (List.not_mem_nil none).elim,nonneg⟩
  have keeps : Preserved (paso orden) (Estable block_size)
      (fun m => (tamanios m.lista_memory_sticks : Int) + block_size < 2^31 → Bien block_size m) := by
    intro op m m' held stable moved small
    cases moved
    have grown := aplicar_sticks orden op m
    exact aplicar_bien (held (by omega)) stable small
  exact invariant_of_guarded keeps (fun _ => start) stable reached small

/-- The requests by which the memory of one process changes. -/
def DeProceso (pid : Int) : Operacion → Prop
  | .segmento_crear p _ _ | .segmento_eliminar p _ | .proceso_suspender p | .proceso_dessuspender p
  | .proceso_liberar_memoria p | .finalizar p => p = pid
  | _ => False

/-- The requests that are about the memory of nobody in particular. -/
def DeNadie : Operacion → Prop
  | .compactar _ | .memory_stick_agregar _ => True
  | _ => False

/-- The process itself neither creates, deletes nor frees memory, and what is written is
    written inside a segment of another process. -/
def Respeta (q : Int) : Operacion → Estado → Prop
  | .segmento_crear p _ _, _ | .segmento_eliminar p _, _ | .proceso_liberar_memoria p, _ | .finalizar p, _ => p ≠ q
  | .escribir dir_fisica bytes, m => ∃ p, p ≠ q ∧ ∃ s ∈ tabla_de m.lista_contextos p,
      s.base ≤ dir_fisica ∧ dir_fisica + bytes.length ≤ s.base + s.limite
  | _, _ => True

theorem vista_de_proceso {orden : Sorter} {op : Operacion} {m : Estado} {pid q : Int} (bien : Bien block_size m)
    (small : (tamanios m.lista_memory_sticks : Int) + block_size < 2^31) (own : DeProceso pid op) (other : q ≠ pid) :
    vista (aplicar orden op m) q = vista m q := by
  have block := bien.block
  have low : tamanios m.lista_memory_sticks + m.bloque < 2^31 := by
    simp only [Estado.bloque]
    have registered := bien.registered
    omega
  cases op with
  | segmento_crear p id_segmento tamanio => cases own; exact vista_edita (edita_crear pid id_segmento tamanio m) other
  | segmento_eliminar p id_segmento => cases own; exact vista_edita (edita_eliminar pid id_segmento m) other
  | proceso_suspender p => exact vista_suspender bien low p q
  | proceso_dessuspender p => exact vista_dessuspender bien (by omega) p q
  | proceso_liberar_memoria p =>
    cases own
    have freed := bien_edita bien (edita_ram pid m) (liberar_ram_particion pid bien.part)
    exact (vista_liberar_swap freed other).trans (vista_edita (edita_ram pid m) other)
  | finalizar p =>
    cases own
    have freed := bien_edita bien (edita_ram pid m) (liberar_ram_particion pid bien.part)
    exact (vista_eliminar other).trans ((vista_liberar_swap freed other).trans (vista_edita (edita_ram pid m) other))
  | _ => exact own.elim

theorem vista_de_nadie {orden : Sorter} {op : Operacion} {m : Estado} (bien : Bien block_size m)
    (small : tamanios (aplicar orden op m).lista_memory_sticks < 2^32) (shared : DeNadie op) (q : Int) :
    vista (aplicar orden op m) q = vista m q := by
  cases op with
  | compactar altas => exact vista_conserva (conserva_compactar bien small).2 q
  | memory_stick_agregar a =>
    exact vista_conserva (conserva_altas [a] (fun r member => residente_inside bien.part member)) q
  | _ => exact shared.elim

/-- Segments of two processes are apart. -/
private theorem ajeno_apart {m : Estado} (part : Particion m) {p q : Int} (other : p ≠ q) {s t : Segmento}
    (mine : s ∈ tabla_de m.lista_contextos p) (theirs : t ∈ tabla_de m.lista_contextos q) (filledS : 0 < s.limite)
    (filledT : 0 < t.limite) : s.base + s.limite ≤ t.base ∨ t.base + t.limite ≤ s.base := by
  unfold tabla_de at mine
  cases found : record Contexto.pid p m.lista_contextos with
  | none =>
    rw [found] at mine
    cases mine
  | some c =>
    rw [found] at mine
    obtain ⟨listed,name⟩ := record_mem found
    obtain ⟨pre,post,split⟩ := List.append_of_mem listed
    have rest : t ∈ tabla_de (pre ++ post) q := by
      rw [split,tabla_de,record_other pre post (by rw [name]; exact other)] at theirs
      exact theirs
    have residing : rango t ∈ residentes (pre ++ post) := residente_of_tabla (m := { m with lista_contextos := pre ++ post }) rest
    obtain ⟨tpre,tpost,entries⟩ := List.append_of_mem mine
    have around := residentes_around pre post c tpre tpost s
    have same : { c with tabla_segmentos := tpre ++ s :: tpost } = c := by
      have entries : c.tabla_segmentos = tpre ++ s :: tpost := entries
      rw [← entries]
    rw [same,← split] at around
    have apart : ∀ a, hits (rango s :: otros pre post tpre tpost) a ≤ 1 := by
      intro a
      have once := part.covers.once a
      rw [hits_append,hits_perm around a,one] at once
      split_ifs at once <;> omega
    have among : rango t ∈ otros pre post tpre tpost := by
      rw [residentes_append] at residing
      simp only [otros,List.mem_append] at residing ⊢
      tauto
    exact apart_of_hits apart among filledS filledT

theorem vista_escribir {m : Estado} {dir_fisica : Nat} {bytes : List UInt8} {q : Int} (bien : Bien block_size m)
    (small : tamanios m.lista_memory_sticks < 2^32) (low : dir_fisica < 2^32) (respeta : Respeta q (.escribir dir_fisica bytes) m) :
    vista (m.escribir dir_fisica bytes).2 q = vista m q := by
  obtain ⟨p,other,s,mine,above,below⟩ := respeta
  obtain ⟨_,outside,_⟩ := escribir_spec (f := m.toFisica) dir_fisica bytes small low
  refine vista_congr rfl (fun t theirs => load_congr (fun a first last => outside a ?_)) rfl rfl (fun _ _ => rfl)
  rcases Nat.eq_zero_or_pos s.limite with empty | filled
  · omega
  · have apart := ajeno_apart bien.part other mine theirs filled (by omega)
    omega

/-- The step lemma of the view: it stays while the process does nothing to its memory itself. -/
theorem vista_aplicar {orden : Sorter} {op : Operacion} {m : Estado} {q : Int} (bien : Bien block_size m)
    (stable : Estable block_size op m) (respeta : Respeta q op m)
    (small : (tamanios (aplicar orden op m).lista_memory_sticks : Int) + block_size < 2^31) :
    vista (aplicar orden op m) q = vista m q := by
  have grown := aplicar_sticks orden op m
  have nonneg : 0 ≤ block_size := by
    have block := bien.block
    rcases bien.registered with ⟨zero,_⟩ | ⟨some,_⟩ <;> omega
  have before : (tamanios m.lista_memory_sticks : Int) + block_size < 2^31 := by omega
  cases op with
  | memory_stick_agregar a => exact vista_de_nadie bien (by omega) (show DeNadie (.memory_stick_agregar a) from trivial) q
  | compactar altas => exact vista_de_nadie bien (by omega) (show DeNadie (.compactar altas) from trivial) q
  | segmento_crear p id_segmento tamanio => exact vista_de_proceso bien before rfl respeta.symm
  | segmento_eliminar p id_segmento => exact vista_de_proceso bien before rfl respeta.symm
  | proceso_liberar_memoria p => exact vista_de_proceso bien before rfl respeta.symm
  | finalizar p => exact vista_de_proceso bien before rfl respeta.symm
  | proceso_suspender p =>
    have block := bien.block
    refine vista_suspender bien ?_ p q
    simp only [Estado.bloque]
    omega
  | proceso_dessuspender p => exact vista_dessuspender bien (by omega) p q
  | contexto_crear pid path instrucciones =>
    refine vista_congr ?_ (fun _ _ => rfl) rfl rfl (fun _ _ => rfl)
    have absent : ∀ c ∈ m.lista_contextos, c.pid ≠ pid := fun c listed => by simpa using first_none.mp stable c listed
    simp only [aplicar,KernelMemory.contexto_crear,tabla_de]
    by_cases mine : pid = q
    · subst mine
      have here : record Contexto.pid pid (m.lista_contextos ++ [⟨pid,path,instrucciones,[]⟩]) =
          some ⟨pid,path,instrucciones,[]⟩ := record_here [] rfl absent
      rw [here,record_none absent]
      rfl
    · rw [record_append m.lista_contextos (by simpa using mine)]
  | escribir dir_fisica bytes => exact vista_escribir bien (by omega) stable respeta
  | swap_registrar fd size swap_size =>
    have none : m.procesos_en_swap = [] := by
      rcases bien.registered with ⟨_,_,none⟩ | ⟨some,_⟩
      · exact none
      · have first := stable.2.2.2
        omega
    simp only [aplicar,KernelMemory.swap_registrar,vista,none]
    rfl
  | swap_desregistrar => exact stable.elim

/-- What others do to memory, where Kernel Memory puts the segments, and what goes to the
    swap and comes back leave the view of a process as it was, once and over whole runs. -/
theorem view_preserved (orden : Sorter) (segment_max_size : Int) (allocation_best_fit : Bool) (block_size : Int)
    (ops : List Operacion) (m : Estado) (positive : 0 < block_size)
    (stable : Guarded (paso orden) (Estable block_size) ops (inicial segment_max_size allocation_best_fit (fun _ => .responde)))
    (reached : run (paso orden) ops (inicial segment_max_size allocation_best_fit (fun _ => .responde)) = some m)
    (small : (tamanios m.lista_memory_sticks : Int) + block_size < 2^31) :
    (∀ pid op, DeProceso pid op → ∀ q, q ≠ pid → vista (aplicar orden op m) q = vista m q) ∧
    (∀ op, DeNadie op → (tamanios (aplicar orden op m).lista_memory_sticks : Int) + block_size < 2^31 →
      ∀ q, vista (aplicar orden op m) q = vista m q) ∧
    (∀ pid, vista (proceso_suspender pid m).2 pid = vista m pid ∧ vista (proceso_dessuspender pid m).2 pid = vista m pid) ∧
    (∀ q despues m', Guarded (paso orden) (fun op n => Estable block_size op n ∧ Respeta q op n) despues m →
      run (paso orden) despues m = some m' → (tamanios m'.lista_memory_sticks : Int) + block_size < 2^31 →
      vista m' q = vista m q) := by
  have bien := bien_of_run positive.le stable reached small
  have low : tamanios m.lista_memory_sticks + m.bloque < 2^31 := by
    have block := bien.block
    simp only [Estado.bloque]
    omega
  refine ⟨fun pid op own q other => vista_de_proceso bien small own other,fun op shared fits q => ?_,fun pid => ?_,?_⟩
  · exact vista_de_nadie bien (by omega) shared q
  · exact ⟨vista_suspender bien low pid pid,vista_dessuspender bien (by omega) pid pid⟩
  · intro q despues m' guarded later fits
    have keeps : Preserved (paso orden) (fun op n => Estable block_size op n ∧ Respeta q op n)
        (fun n => (tamanios n.lista_memory_sticks : Int) + block_size < 2^31 → Bien block_size n ∧ vista n q = vista m q) := by
      rintro op n n' held ⟨stable,respeta⟩ moved bound
      cases moved
      have grown := aplicar_sticks orden op n
      obtain ⟨bien,same⟩ := held (by omega)
      exact ⟨aplicar_bien bien stable bound,(vista_aplicar bien stable respeta bound).trans same⟩
    exact (invariant_of_guarded keeps (fun _ => ⟨bien,rfl⟩) guarded later fits).2

/-- A process with data, and one whose segment will be in its way. -/
def preparar : List Operacion :=
  [.memory_stick_agregar ⟨3,5,"10.0.0.1",8002,fun _ => 0⟩,.memory_stick_agregar ⟨5,7,"10.0.0.2",8003,fun _ => 0⟩,
    .swap_registrar 4 2 16,.contexto_crear 0 "a" [],.contexto_crear 1 "b" [],.segmento_crear 0 0 4,.segmento_crear 1 7 3,
    .escribir 4 [99,65,67]]
/-- The other process leaves, the data go out, are compacted and come back. -/
def ciclo_de_swap : List Operacion := [.proceso_suspender 1,.finalizar 0,.proceso_dessuspender 1,.compactar (fun _ => [])]
def estado_tras (ops : List Operacion) : Estado :=
  ops.foldl (fun m op => aplicar insertion_sorter op m) (inicial 0 true (fun _ => .responde))

theorem view_preserved_ciclo : vista (estado_tras (preparar ++ ciclo_de_swap)) 1 = {(7,[99,65,67])} ∧
    (estado_tras (preparar ++ ciclo_de_swap)).lista_contextos.map Contexto.tabla_segmentos = [[⟨7,0,3⟩]] := by
  have guarded : Guarded (paso insertion_sorter) (fun op n => Estable 2 op n ∧ Respeta 1 op n) ciclo_de_swap
      (estado_tras preparar) := by
    have other : (0 : Int) ≠ 1 := by decide
    exact (guarded_cons rfl).mpr ⟨⟨trivial,trivial⟩,(guarded_cons rfl).mpr ⟨⟨trivial,other⟩,
      (guarded_cons rfl).mpr ⟨⟨trivial,trivial⟩,(guarded_cons rfl).mpr ⟨⟨trivial,trivial⟩,trivial⟩⟩⟩⟩
  have survives := (view_preserved insertion_sorter 0 true 2 preparar (estado_tras preparar) (by decide) (by decide) rfl
    (by decide)).2.2.2 1 ciclo_de_swap (estado_tras (preparar ++ ciclo_de_swap)) guarded rfl (by decide)
  exact ⟨survives.trans (by decide),by decide⟩

end PlugNPray.LogicalView
