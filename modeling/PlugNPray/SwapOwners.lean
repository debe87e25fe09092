import PlugNPray.Suspensions

/-!
Who owns the blocks of the swap: the bitmap against the block lists of the suspended
processes, over suspensions, de-suspensions, terminations and registrations.
-/
namespace PlugNPray.SwapOwners
open PlugNPray.Runs PlugNPray.Places PlugNPray.Sticks PlugNPray.Sorting PlugNPray.KernelMemory PlugNPray.Operations PlugNPray.Compaction
open PlugNPray.SwapCopies PlugNPray.Suspensions

/-- Every marked block has one owner, every listed block is marked, and a saved segment has
    as many blocks as it needs. -/
structure Repartido (r : Registro) : Prop where
  marcas : ∀ b, r.swap_bloques_usados[b]? = some true ↔ (listados r.procesos_en_swap).count b = 1
  unicos : (listados r.procesos_en_swap).Nodup
  dentro : ∀ b ∈ listados r.procesos_en_swap, (b : Int) < r.swap_total_bloques
  cuentas : ∀ ps ∈ r.procesos_en_swap, ∀ ss ∈ ps.segmentos, ss.bloques.length = cuantos r.swap_block_size.toNat ss.limite

/-- A swap that registers has blocks. -/
def Positiva : Operacion → Estado → Prop
  | .swap_registrar _ block_size _, _ => 0 < block_size
  | _, _ => True

instance : ∀ op m, Decidable (Positiva op m)
  | .swap_registrar _ block_size _, _ => inferInstanceAs (Decidable (0 < block_size))
  | .memory_stick_agregar _, _ | .contexto_crear _ _ _, _ | .segmento_crear _ _ _, _ | .segmento_eliminar _ _, _ | .compactar _, _
  | .proceso_suspender _, _ | .proceso_dessuspender _, _ | .proceso_liberar_memoria _, _ | .finalizar _, _ | .escribir _ _, _
  | .swap_desregistrar, _ => isTrue trivial

/-- The counts are exact for a process that is about to be copied. -/
def Copiable (pid : Int) (m : Estado) : Prop := m.fd_swap ≠ -1 → buscar_proceso_swap m pid = none →
  ∀ ic ∈ contexto_buscar m pid, Bastan m ic.2.tabla_segmentos

/-- No swap registers while blocks are listed, and nothing is copied on a wrong count. -/
def Cuidada : Operacion → Estado → Prop
  | .swap_registrar _ _ _, m => listados m.procesos_en_swap = []
  | .proceso_suspender pid, m => Copiable pid m
  | _, _ => True

instance (pid : Int) (m : Estado) : Decidable (Copiable pid m) := by unfold Copiable; infer_instance
instance : ∀ op m, Decidable (Cuidada op m)
  | .swap_registrar _ _ _, m => inferInstanceAs (Decidable (listados m.procesos_en_swap = []))
  | .proceso_suspender pid, m => inferInstanceAs (Decidable (Copiable pid m))
  | .memory_stick_agregar _, _ | .contexto_crear _ _ _, _ | .segmento_crear _ _ _, _ | .segmento_eliminar _ _, _ | .compactar _, _
  | .proceso_dessuspender _, _ | .proceso_liberar_memoria _, _ | .finalizar _, _ | .escribir _ _, _
  | .swap_desregistrar, _ => isTrue trivial

/-! ## The bitmap and the lists -/

theorem listados_split (pre post : List ProcesoSwap) (ps : ProcesoSwap) :
    (listados (pre ++ ps :: post)).Perm (ocupados ps.segmentos ++ listados (pre ++ post)) := by
  simp only [listados_append,listados_cons,← List.append_assoc]
  exact List.perm_append_comm.append_right _

theorem marcado_iff (usados : List Bool) (b : Nat) : usados[b]? = some true ↔ b < usados.length ∧ usados.getD b true = true := by
  by_cases inside : b < usados.length <;> simp [inside]

/-- Among distinct blocks the ones that are listed once are the ones that are listed. -/
theorem count_listed {bloques : List Nat} (unicos : bloques.Nodup) (b : Nat) : bloques.count b = 1 ↔ b ∈ bloques := by
  constructor
  · intro once
    exact List.count_pos_iff.mp (by omega)
  · intro member
    exact List.count_eq_one_of_mem unicos member

/-- The marks with their blocks in range: what the operations keep. -/
structure Ordenado (r : Registro) : Prop extends Repartido r where
  size : r.swap_bloques_usados.length = r.swap_total_bloques.toNat
  positive : 0 < r.swap_block_size ∨ r.fd_swap = -1 ∧ r.procesos_en_swap = []

theorem marcado_listed {r : Registro} (held : Ordenado r) (b : Nat) :
    b < r.swap_bloques_usados.length ∧ r.swap_bloques_usados.getD b true = true ↔ b ∈ listados r.procesos_en_swap := by
  rw [← marcado_iff,held.marcas b,count_listed held.unicos b]

theorem listed_inside {r : Registro} (held : Ordenado r) {b : Nat} (member : b ∈ listados r.procesos_en_swap) :
    b < r.swap_bloques_usados.length := ((marcado_listed held b).mpr member).1

/-- At most one process leaves the list, and its blocks are marked free. -/
def Suelta (r r' : Registro) : Prop := r' = r ∨ ∃ pre ps post, r.procesos_en_swap = pre ++ ps :: post ∧
  r' = { r with
    swap_bloques_usados := (ocupados ps.segmentos).foldl (fun usados b => usados.set b false) r.swap_bloques_usados
    procesos_en_swap := pre ++ post }

theorem ordenado_suelta {r r' : Registro} (held : Ordenado r) (frees : Suelta r r') : Ordenado r' := by
  rcases frees with rfl | ⟨pre,ps,post,split,rfl⟩
  · exact held
  have perm := listados_split pre post ps
  rw [← split] at perm
  have unique := perm.nodup_iff.mp held.unicos
  obtain ⟨mine,others,apart⟩ := List.nodup_append.mp unique
  have still : ∀ b ∈ listados (pre ++ post), b ∈ listados r.procesos_en_swap :=
    fun b member => perm.mem_iff.mpr (List.mem_append_right _ member)
  have length := desmarcar_length (ocupados ps.segmentos) r.swap_bloques_usados
  have positive := held.positive.resolve_right (fun none => by simp [split] at none)
  refine ⟨⟨fun b => ?_,others,fun b member => held.dentro b (still b member),fun qs member => ?_⟩,length.trans held.size,.inl positive⟩
  · rw [marcado_iff,length,count_listed others b]
    by_cases freed : b ∈ ocupados ps.segmentos
    · have inside := listed_inside held (perm.mem_iff.mpr (List.mem_append_left _ freed))
      have absent : b ∉ listados (pre ++ post) := fun listed => apart b freed b listed rfl
      simp only [desmarcar_mem freed inside,absent,Bool.false_eq_true,and_false]
    · rw [desmarcar_getD freed,marcado_listed held b,perm.mem_iff,List.mem_append]
      simp only [freed,false_or]
  · refine held.cuentas qs ?_
    rw [split]
    rcases List.mem_append.mp member with early | late
    · exact List.mem_append_left _ early
    · exact List.mem_append_right _ (List.mem_cons_of_mem _ late)

/-- A process joins the list with blocks that were free. -/
theorem ordenado_suma {m : Estado} (held : Ordenado (Estado.registro m)) {tabla : List Segmento} {nuevos : List SegmentoSwap}
    {usados : List Bool} {archivo : Nat → UInt8} (copied : Copiado tabla m nuevos usados archivo) (connected : m.fd_swap ≠ -1)
    (pid : Int) : Ordenado { Estado.registro m with
      swap_bloques_usados := usados
      procesos_en_swap := m.procesos_en_swap ++ [⟨pid,nuevos⟩]
      archivo_swap := archivo } := by
  have all : listados (m.procesos_en_swap ++ [⟨pid,nuevos⟩]) = listados m.procesos_en_swap ++ ocupados nuevos := by simp
  have inside : ∀ b ∈ ocupados nuevos, b < m.swap_bloques_usados.length := by
    intro b member
    have free := copied.free b member
    by_contra outside
    rw [List.getD_eq_getElem?_getD,List.getElem?_eq_none (not_lt.mp outside)] at free
    cases free
  have apart : ∀ b ∈ listados m.procesos_en_swap, b ∉ ocupados nuevos := by
    intro b old new
    have marked : m.swap_bloques_usados.getD b true = true := ((marcado_listed held b).mpr old).2
    rw [copied.free b new] at marked
    cases marked
  have size : m.swap_bloques_usados.length = m.swap_total_bloques.toNat := held.size
  have unicos : (listados m.procesos_en_swap ++ ocupados nuevos).Nodup := by
    refine List.Nodup.append held.unicos copied.nodup ?_
    exact fun b old new => apart b old new
  have positive := held.positive.resolve_right (fun off => connected off.1)
  refine ⟨⟨fun b => ?_,by rw [all]; exact unicos,fun b member => ?_,fun ps member => ?_⟩,copied.size.trans size,.inl positive⟩
  · have before := marcado_listed held b
    change b < m.swap_bloques_usados.length ∧ m.swap_bloques_usados.getD b true = true ↔ b ∈ listados m.procesos_en_swap at before
    simp only [marcado_iff,all,count_listed unicos b,copied.size,copied.marks b,Bool.or_eq_true,decide_eq_true_eq,List.mem_append]
    rw [← before]
    have new := inside b
    tauto
  · rw [all] at member
    rcases List.mem_append.mp member with old | new
    · exact held.dentro b old
    · have low := inside b new
      change (b : Int) < m.swap_total_bloques
      omega
  · rcases List.mem_append.mp member with old | new
    · exact held.cuentas ps old
    · rw [List.mem_singleton.mp new]
      exact fun ss listed => (copied.count ss listed).2

/-! ## The operations -/

private theorem suspender_ordenado {m : Estado} (held : Ordenado (Estado.registro m)) {pid : Int} (copiable : Copiable pid m) :
    Ordenado (Estado.registro (proceso_suspender pid m).2) := by
  have ends := suspender_spec ⟨fun connected => held.positive.resolve_right (fun off => connected off.1),held.size,
    fun connected absent i c found => copiable connected absent (i,c) found⟩
  generalize proceso_suspender pid m = r at ends ⊢
  obtain ⟨ok,m'⟩ := r
  cases ends with
  | rechaza => exact held
  | ya listed => exact held
  | falla respuestas archivo kept broken => exact ⟨⟨held.marcas,held.unicos,held.dentro,held.cuentas⟩,held.size,held.positive⟩
  | sale connected found absent copied answered => exact ordenado_suma held copied connected pid

theorem suelta_dessuspender (pid : Int) (m : Estado) : Suelta (Estado.registro m) (Estado.registro (proceso_dessuspender pid m).2) := by
  have ends := dessuspender_spec pid m
  generalize proceso_dessuspender pid m = r at ends ⊢
  obtain ⟨ok,m'⟩ := r
  cases ends with
  | nunca absent => exact .inl rfl
  | huerfano => exact .inl rfl
  | no_entra huecos => exact .inl rfl
  | @vuelve k i ps c puestos huecos f saved found placed names fichas =>
    obtain ⟨pre,post,split,rfl,_⟩ := split_of_proceso_swap saved
    have erased : m.procesos_en_swap.eraseIdx pre.length = pre ++ post := by rw [split,eraseIdx_split]
    refine .inr ⟨pre,ps,post,split,?_⟩
    rw [← erased]
    rfl

theorem suelta_liberar (pid : Int) (m : Estado) : Suelta (Estado.registro m) (Estado.registro (proceso_liberar_memoria pid m)) := by
  have ram : Estado.registro (liberar_ram pid m) = Estado.registro m := by
    unfold liberar_ram
    cases contexto_buscar m pid <;> rfl
  rw [← ram]
  unfold proceso_liberar_memoria
  generalize liberar_ram pid m = n
  unfold liberar_swap
  cases saved : buscar_proceso_swap n pid with
  | none => exact .inl rfl
  | some kps =>
    obtain ⟨k,ps⟩ := kps
    obtain ⟨pre,post,split,rfl,_⟩ := split_of_proceso_swap saved
    have erased : n.procesos_en_swap.eraseIdx pre.length = pre ++ post := by rw [split,eraseIdx_split]
    refine .inr ⟨pre,ps,post,split,?_⟩
    rw [← erased]
    rfl

theorem suelta_finalizar (pid : Int) (m : Estado) : Suelta (Estado.registro m) (Estado.registro (finalizar pid m)) := by
  have same : ∀ n : Estado, Estado.registro (contexto_eliminar pid n) = Estado.registro n := by
    intro n
    unfold contexto_eliminar
    cases contexto_buscar n pid <;> rfl
  rw [finalizar,same]
  exact suelta_liberar pid m

/-- The requests that have to do with the swap. -/
def de_swap : Operacion → Bool
  | .proceso_suspender _ | .proceso_dessuspender _ | .proceso_liberar_memoria _ | .finalizar _ | .swap_registrar _ _ _
  | .swap_desregistrar => true
  | _ => false

/-- The other ones leave what Kernel Memory has of the swap alone. -/
theorem registro_aplicar (orden : Sorter) {op : Operacion} (other : de_swap op = false) (m : Estado) :
    Estado.registro (aplicar orden op m) = Estado.registro m := by
  cases op with
  | compactar altas => exact compactar_registro orden altas m
  | segmento_crear pid id_segmento tamanio =>
    simp only [aplicar,segmento_crear]
    by_cases large : m.segment_max_size > 0 ∧ tamanio > a_u32 m.segment_max_size
    · rw [if_pos large]
    · rw [if_neg large]
      cases contexto_buscar m pid with
      | none => rfl
      | some ic => cases buscar_hueco m tamanio <;> rfl
  | segmento_eliminar pid id_segmento =>
    simp only [aplicar,segmento_eliminar]
    cases contexto_buscar m pid with
    | none => rfl
    | some ic =>
      simp only
      cases buscar_segmento ic.2 id_segmento <;> rfl
  | memory_stick_agregar a => rfl
  | contexto_crear pid path instrucciones => rfl
  | escribir dir_fisica bytes => rfl
  | _ => cases other

/-- Nothing listed, nothing marked: the saved segments are empty, and need no block of any size. -/
private theorem registrar_ordenado {m : Estado} (held : Ordenado (Estado.registro m)) (fd : Int) {block_size : Int} (swap_size : Int)
    (positive : 0 < block_size) (none : listados m.procesos_en_swap = []) :
    Ordenado (Estado.registro (swap_registrar fd block_size swap_size m)) := by
  have counts : ∀ ps ∈ m.procesos_en_swap, ∀ ss ∈ ps.segmentos, ss.bloques.length = cuantos block_size.toNat ss.limite := by
    intro ps listed ss member
    have before : ss.bloques.length = cuantos m.bloque ss.limite := held.cuentas ps listed ss member
    have blocks : ss.bloques = [] := List.flatMap_eq_nil_iff.mp (List.flatMap_eq_nil_iff.mp none ps listed) ss member
    have some : 0 < m.swap_block_size := held.positive.resolve_right (fun off => by
      have none : m.procesos_en_swap = [] := off.2
      rw [none] at listed
      cases listed)
    have positive : 0 < m.bloque := by
      simp only [Estado.bloque]
      omega
    have fits := le_cuantos ss.limite positive
    rw [← before,blocks,List.length_nil,Nat.zero_mul] at fits
    have empty : ss.limite = 0 := Nat.le_zero.mp fits
    rw [blocks,empty,cuantos,List.length_nil,Nat.div_eq_of_lt (by omega)]
  refine ⟨⟨fun b => ?_,?_,?_,counts⟩,List.length_replicate,.inl positive⟩
  · change (List.replicate _ false)[b]? = some true ↔ (listados m.procesos_en_swap).count b = 1
    rw [none]
    simp [List.getElem?_replicate]
  · exact none.symm ▸ List.nodup_nil
  · intro b listed
    exact absurd (none ▸ listed : b ∈ ([] : List Nat)) List.not_mem_nil

theorem aplicar_ordenado {orden : Sorter} {op : Operacion} {m : Estado} (held : Ordenado (Estado.registro m)) (typed : Positiva op m)
    (careful : Cuidada op m) : Ordenado (Estado.registro (aplicar orden op m)) := by
  cases swap : de_swap op with
  | false =>
    rw [registro_aplicar orden swap]
    exact held
  | true =>
    cases op with
    | proceso_suspender pid => exact suspender_ordenado held careful
    | proceso_dessuspender pid => exact ordenado_suelta held (suelta_dessuspender pid m)
    | proceso_liberar_memoria pid => exact ordenado_suelta held (suelta_liberar pid m)
    | finalizar pid => exact ordenado_suelta held (suelta_finalizar pid m)
    | swap_registrar fd block_size swap_size => exact registrar_ordenado held fd swap_size typed careful
    | swap_desregistrar =>
      refine ⟨⟨held.marcas,held.unicos,held.dentro,held.cuentas⟩,held.size,held.positive.imp_right ?_⟩
      rintro ⟨_,none⟩
      exact ⟨rfl,none⟩
    | _ => cases swap

theorem inicial_ordenado (segment_max_size : Int) (allocation_best_fit : Bool) (respuestas : Nat → Respuesta) :
    Ordenado (Estado.registro (inicial segment_max_size allocation_best_fit respuestas)) :=
  ⟨⟨fun b => by simp [inicial,Estado.registro],List.nodup_nil,fun b listed => absurd listed List.not_mem_nil,
    fun ps listed => absurd listed List.not_mem_nil⟩,rfl,.inr ⟨rfl,rfl⟩⟩

/-- In every run that registers no swap over saved blocks and copies on exact counts, every
    marked block has exactly one owner and every saved segment has its blocks. -/
theorem blocks_owned (orden : Sorter) (segment_max_size : Int) (allocation_best_fit : Bool) (respuestas : Nat → Respuesta)
    (sucesos : List Suceso) (m : Estado)
    (typed : Guarded (sucede orden) (al_pedir Positiva) sucesos (inicial segment_max_size allocation_best_fit respuestas))
    (careful : Guarded (sucede orden) (al_pedir Cuidada) sucesos (inicial segment_max_size allocation_best_fit respuestas))
    (reached : run (sucede orden) sucesos (inicial segment_max_size allocation_best_fit respuestas) = some m) :
    Repartido (Estado.registro m) := by
  have keeps : Preserved (sucede orden) (fun e m => al_pedir Positiva e m ∧ al_pedir Cuidada e m)
      (fun m => Ordenado (Estado.registro m)) := by
    intro e m m' held guards moved
    cases moved
    cases e with
    | pide op => exact aplicar_ordenado held guards.1 guards.2
    | memory_stick_eliminar fd => exact held
  have start := inicial_ordenado segment_max_size allocation_best_fit respuestas
  exact (invariant_of_guarded keeps start (typed.and careful) reached).toRepartido

/-- A process of four bytes in the swap and one of three in memory, with eight blocks of two bytes. -/
def dos_procesos : List Suceso :=
  [.pide (.memory_stick_agregar ⟨3,12,"10.0.0.1",8002,fun _ => 0⟩),.pide (.swap_registrar 4 2 16),.pide (.contexto_crear 0 "a" []),
    .pide (.contexto_crear 1 "b" []),.pide (.segmento_crear 0 0 4),.pide (.segmento_crear 1 0 3),.pide (.proceso_suspender 0)]
def tras_procesos (sucesos : List Suceso) : Estado :=
  sucesos.foldl (fun m e => suceder insertion_sorter e m) (inicial 0 true (fun _ => .responde))

/-- The connection is lost, and the swap comes back when the first process has left it. -/
def con_cuidado : List Suceso := dos_procesos ++ [.pide .swap_desregistrar,.pide (.proceso_suspender 1),.pide (.finalizar 0),
  .pide (.swap_registrar 5 2 16),.pide (.proceso_suspender 1),.memory_stick_eliminar 3]
/-- It comes back while the first process is saved. -/
def sin_cuidado : List Suceso :=
  dos_procesos ++ [.pide .swap_desregistrar,.pide (.swap_registrar 5 2 16),.pide (.proceso_suspender 1)]

theorem blocks_owned_dos : listados (tras_procesos con_cuidado).procesos_en_swap = [0,1] ∧
    Repartido (Estado.registro (tras_procesos con_cuidado)) :=
  ⟨by decide +kernel,blocks_owned insertion_sorter 0 true (fun _ => .responde) con_cuidado (tras_procesos con_cuidado) (by decide +kernel)
    (by decide +kernel) (run_total (suceder insertion_sorter) ..)⟩

/-- The second process gets the blocks of the first. -/
theorem blocks_shared : run (sucede insertion_sorter) sin_cuidado (inicial 0 true (fun _ => .responde)) = some (tras_procesos sin_cuidado) ∧
    (tras_procesos sin_cuidado).procesos_en_swap = [⟨0,[⟨0,4,2,[0,1]⟩]⟩,⟨1,[⟨0,3,2,[0,1]⟩]⟩] ∧
    ¬ Repartido (Estado.registro (tras_procesos sin_cuidado)) := by
  refine ⟨run_total (suceder insertion_sorter) ..,by decide +kernel,?_⟩
  intro held
  have unique := held.unicos
  revert unique
  decide +kernel

end PlugNPray.SwapOwners
