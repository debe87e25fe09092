import PlugNPray.SwapOwners

/-!
Holes and segments add up to the memory that was connected, whatever is placed where:
also after aborted compactions and when sticks have left.
-/
namespace PlugNPray.Capacities
open PlugNPray.Runs PlugNPray.Intervals PlugNPray.Places PlugNPray.FlatMemory PlugNPray.Huecos PlugNPray.Sticks
open PlugNPray.Sorting PlugNPray.KernelMemory
open PlugNPray.Operations PlugNPray.Compaction PlugNPray.Partition PlugNPray.SwapCopies PlugNPray.Suspensions PlugNPray.SwapOwners

/-- The sizes on the free list and in the tables add up to the total. -/
structure Suma (n : Nat) (m : Estado) : Prop where
  total : m.memoria_total = n
  sizes : sizes (rangos m.lista_huecos) + sizes (residentes m.lista_contextos) = n

/-! ## The free list -/

theorem sizes_extender {huecos : List Hueco} (base bytes : Nat) (small : sizes (rangos huecos) + bytes < 2^32) :
    sizes (rangos (huecos_extender huecos base bytes)) = sizes (rangos huecos) + bytes := by
  unfold huecos_extender
  cases last : huecos.getLast? with
  | none => simp [Hueco.rango]
  | some ultimo =>
    have split := List.dropLast_append_getLast? ultimo last
    have sum : sizes (rangos huecos) = sizes (rangos huecos.dropLast) + ultimo.tamanio := by
      conv_lhs => rw [← split]
      simp [Hueco.rango]
    simp only
    split_ifs
    · have exact32 : u32 (ultimo.tamanio + bytes) = ultimo.tamanio + bytes := u32_of_lt (by omega)
      simp only [rangos_append,sizes_append,rangos_cons,rangos_nil,sizes_cons,sizes_nil,Hueco.rango,exact32]
      omega
    · simp [Hueco.rango]

theorem sizes_ocupar {huecos : List Hueco} {k usado : Nat} {h : Hueco} (here : huecos[k]? = some h) (fits : usado ≤ h.tamanio)
    (small : sizes (rangos huecos) < 2^32) : sizes (rangos (hueco_ocupar huecos k usado)) + usado = sizes (rangos huecos) := by
  obtain ⟨before,after⟩ := ocupar_perm here usado
  have whole := sizes_perm (before.map Hueco.rango)
  have rest := sizes_perm (after.map Hueco.rango)
  simp only [List.map_cons,sizes_cons,Hueco.rango] at whole
  have hole : h.tamanio ≤ sizes (rangos huecos) := by
    rw [rangos,whole]
    exact Nat.le_add_right _ _
  rw [rangos,rangos,rest,whole]
  split_ifs with all
  · omega
  · have left : u32 (h.tamanio + 2^32 - usado) = h.tamanio - usado := by
      unfold u32
      omega
    simp only [List.map_cons,sizes_cons,Hueco.rango,left]
    omega

theorem sizes_ubicar (m : Estado) : ∀ (segmentos : List SegmentoSwap) (ubicados : List (SegmentoSwap × Nat)) (huecos : List Hueco),
    sizes (rangos huecos) < 2^32 → ∀ r, ubicar m segmentos ubicados huecos = r →
      sizes (rangos r.2) + sizes ((r.1.getD []).map rango_ubicado) = sizes (rangos huecos) + sizes (ubicados.map rango_ubicado) := by
  intro segmentos
  induction segmentos with
  | nil =>
    intro ubicados huecos _ r placed
    subst placed
    rfl
  | cons ss resto ih =>
    intro ubicados huecos small r placed
    unfold ubicar at placed
    cases found : buscar_hueco { m with lista_huecos := huecos } ss.limite with
    | none =>
      simp only [found] at placed
      subst placed
      simp [liberar_ubicados]
    | some kh =>
      simp only [found] at placed
      obtain ⟨here,fits⟩ := buscar_hueco_sound found
      have taken : sizes (rangos (hueco_ocupar huecos kh.1 ss.limite)) + ss.limite = sizes (rangos huecos) :=
        sizes_ocupar here fits small
      have rest := ih (ubicados ++ [(ss,kh.2.base)]) (hueco_ocupar huecos kh.1 ss.limite) (by omega) r placed
      simp only [List.map_append,sizes_append,List.map_cons,List.map_nil,sizes_cons,sizes_nil,rango_ubicado] at rest taken ⊢
      omega

/-! ## The tables -/

/-- The free list gets what the table of a process loses, or the other way round. -/
theorem suma_con_tabla {n : Nat} {m : Estado} (held : Suma n m) {pid : Int} {i : Nat} {c : Contexto}
    (found : contexto_buscar m pid = some (i,c)) {huecos : List Hueco} {f : List Segmento → List Segmento}
    (moved : sizes (rangos huecos) + sizes ((f c.tabla_segmentos).map rango) =
      sizes (rangos m.lista_huecos) + sizes (c.tabla_segmentos.map rango)) :
    Suma n (Estado.con_tabla { m with lista_huecos := huecos } i f) := by
  obtain ⟨resto,before,after⟩ := con_tabla_residentes found
  have old := sizes_perm before
  have new := sizes_perm (after f)
  rw [sizes_append] at old new
  have sum := held.sizes
  refine ⟨held.total,?_⟩
  change sizes (rangos huecos) + sizes (residentes (m.con_tabla i f).lista_contextos) = n
  omega

theorem suma_vaciar {n : Nat} {m : Estado} (held : Suma n m) {pid : Int} {i : Nat} {c : Contexto}
    (found : contexto_buscar m pid = some (i,c)) :
    Suma n (Estado.con_tabla { m with lista_huecos := liberar_tabla m.lista_huecos c.tabla_segmentos } i (fun _ => [])) :=
  suma_con_tabla held found (by rw [rangos_liberar_tabla,sizes_append]; rfl)

/-! ## Compaction -/

/-- What happens between two states adds memory, and holes and segments still add up. -/
def Crece (m m' : Estado) : Prop := ∃ k, tamanios m'.lista_memory_sticks = tamanios m.lista_memory_sticks + k ∧
  ∀ n, Suma n m → n + k < 2^32 → Suma (n + k) m'

theorem crece_trans {m m' m'' : Estado} (first : Crece m m') (second : Crece m' m'') : Crece m m'' := by
  obtain ⟨k,sticks,sum⟩ := first
  obtain ⟨l,sticks',sum'⟩ := second
  refine ⟨k + l,by rw [sticks',sticks,Nat.add_assoc],fun n held small => ?_⟩
  rw [← Nat.add_assoc] at small ⊢
  exact sum' (n + k) (sum n held (by omega)) small

/-- Nothing that counts has changed. -/
theorem crece_same {m m' : Estado} (sticks : tamanios m'.lista_memory_sticks = tamanios m.lista_memory_sticks)
    (kept : ∀ n, n < 2^32 → Suma n m → Suma n m') : Crece m m' := ⟨0,sticks,fun n held small => kept n small held⟩

theorem crece_agregar (altas : List Alta) (m : Estado) : Crece m (agregar_todos altas m) := by
  induction altas generalizing m with
  | nil => exact crece_same rfl (fun _ _ held => held)
  | cons a resto ih =>
    refine crece_trans ⟨a.tamanio,by simp [memory_stick_agregar],fun n held small => ?_⟩ (ih (memory_stick_agregar a m))
    have sum := held.sizes
    have room : sizes (rangos m.lista_huecos) + a.tamanio < 2^32 := by omega
    have grown := sizes_extender m.memoria_total a.tamanio room
    constructor
    · simp only [memory_stick_agregar,held.total]
      exact u32_of_lt small
    · simp only [memory_stick_agregar,grown]
      omega

theorem sizes_fichas {cs ds : List Contexto} (same : fichas ds = fichas cs) : sizes (residentes ds) = sizes (residentes cs) := by
  have sum : ∀ cs : List Contexto, sizes (residentes cs) = ((fichas cs).map (fun c => (c.2.map Prod.snd).sum)).sum := by
    intro cs
    induction cs with
    | nil => rfl
    | cons c resto ih =>
      rw [residentes_cons,sizes_append,ih]
      simp [fichas,sizes,Function.comp_def,rango]
  rw [sum,sum,same]

/-- The turns of a compaction, also of one that is aborted. -/
theorem crece_turnos (altas : Nat → List Alta) : ∀ (pendientes : List Puntero) (i destino : Nat) (m : Estado),
    Crece m (compactar_turnos altas i pendientes destino m).2.2 := by
  intro pendientes
  induction pendientes with
  | nil => intro i destino m; exact crece_agregar (altas i) m
  | cons q resto ih =>
    intro i destino m
    obtain ⟨p,seg⟩ := q
    have started := crece_agregar (altas i) m
    simp only [compactar_turnos]
    generalize agregar_todos (altas i) m = n at started ⊢
    refine crece_trans started ?_
    by_cases moves : seg.base = destino
    · simp only [moves,ne_eq,not_true_eq_false,if_false]
      exact ih (i + 1) (u32 (destino + seg.limite)) n
    · simp only [moves,ne_eq,not_false_eq_true,if_true]
      have read : Crece n (n.leer seg.base seg.limite).2 :=
        crece_same (congrArg tamanios (leer_sticks n.toFisica seg.base seg.limite)) (fun _ _ held => ⟨held.total,held.sizes⟩)
      generalize n.leer seg.base seg.limite = r at read ⊢
      obtain ⟨_ | leidos,leido⟩ := r
      · exact read
      · have written : Crece leido (leido.escribir destino leidos).2 :=
          crece_same (tamanios_of_ficha (escribir_fichas leido.toFisica destino leidos)) (fun _ _ held => ⟨held.total,held.sizes⟩)
        simp only
        generalize leido.escribir destino leidos = w at written ⊢
        obtain ⟨_ | _,escrito⟩ := w
        · exact crece_trans read written
        · have moved : Crece escrito (escrito.mover p destino) := by
            refine crece_same rfl (fun _ _ held => ⟨held.total,?_⟩)
            rw [sizes_fichas (fichas_mover escrito p destino)]
            exact held.sizes
          exact crece_trans read (crece_trans written (crece_trans moved (ih (i + 1) _ (escrito.mover p destino))))

/-- A compaction that comes to its end stops behind the last segment. -/
theorem turnos_fin (altas : Nat → List Alta) : ∀ (pendientes : List Puntero) (i destino fin : Nat) (m m' : Estado), destino < 2^32 →
    compactar_turnos altas i pendientes destino m = (true,fin,m') → fin = u32 (destino + sizes (pendientes.map (fun q => rango q.2))) := by
  intro pendientes
  induction pendientes with
  | nil =>
    intro i destino fin m m' low done
    cases done
    exact (u32_of_lt low).symm
  | cons q resto ih =>
    intro i destino fin m m' low done
    obtain ⟨p,seg⟩ := q
    have next : ∀ n, compactar_turnos altas (i + 1) resto (u32 (destino + seg.limite)) n = (true,fin,m') →
        fin = u32 (destino + sizes (((p,seg) :: resto).map (fun q => rango q.2))) := by
      intro n done
      rw [ih (i + 1) _ fin n m' (Nat.mod_lt _ (by decide)) done]
      simp only [u32,List.map_cons,sizes_cons,rango,Nat.mod_add_mod,Nat.add_assoc]
    simp only [compactar_turnos] at done
    generalize agregar_todos (altas i) m = n at done
    by_cases moves : seg.base = destino
    · rw [if_neg (by simpa using moves)] at done
      exact next _ done
    · rw [if_pos moves] at done
      generalize n.leer seg.base seg.limite = r at done
      obtain ⟨_ | leidos,leido⟩ := r
      · cases done
      · simp only at done
        generalize leido.escribir destino leidos = w at done
        obtain ⟨_ | _,escrito⟩ := w
        · cases done
        · exact next _ done

theorem crece_compactar (orden : Sorter) (altas : Nat → List Alta) (m : Estado) : Crece m (compactar orden altas m).2 := by
  have grown := crece_turnos altas (orden.sort comparar_segmentos_por_base (todos_los_segmentos m)) 0 0 m
  have same := fichas_turnos altas (orden.sort comparar_segmentos_por_base (todos_los_segmentos m)) 0 0 m
  have fin := turnos_fin altas (orden.sort comparar_segmentos_por_base (todos_los_segmentos m)) 0 0
  have listed := sizes_perm ((orden.perm comparar_segmentos_por_base (todos_los_segmentos m)).map (fun q => rango q.2))
  rw [punteros_rangos] at listed
  unfold compactar
  cases done : compactar_turnos altas 0 (orden.sort comparar_segmentos_por_base (todos_los_segmentos m)) 0 m with
  | mk ok rest =>
    obtain ⟨destino,m'⟩ := rest
    rw [done] at grown same
    cases ok with
    | false => exact grown
    | true =>
      obtain ⟨k,sticks,sum⟩ := grown
      refine ⟨k,sticks,fun n held small => ?_⟩
      have after : Suma (n + k) m' := sum n held small
      have total := after.sizes
      have same : fichas m'.lista_contextos = fichas m.lista_contextos := same
      have place := fin destino m m' (by decide) done
      rw [listed,Nat.zero_add,← sizes_fichas same,u32_of_lt (show sizes (residentes m'.lista_contextos) < 2^32 by omega)] at place
      refine ⟨after.total,?_⟩
      simp only [huecos_reconstruir,after.total,place]
      split_ifs with room
      · have left : u32 (n + k + 2^32 - sizes (residentes m'.lista_contextos)) = n + k - sizes (residentes m'.lista_contextos) := by
          unfold u32
          omega
        simp only [rangos_cons,rangos_nil,sizes_cons,sizes_nil,Hueco.rango,left]
        omega
      · simp only [rangos_nil,sizes_nil]
        omega

/-! ## The other operations -/

theorem crece_crear (pid id_segmento : Int) (tamanio : Nat) (m : Estado) : Crece m (segmento_crear pid id_segmento tamanio m).2 := by
  unfold segmento_crear
  by_cases large : m.segment_max_size > 0 ∧ tamanio > a_u32 m.segment_max_size
  · rw [if_pos large]
    exact crece_same rfl (fun _ _ held => held)
  rw [if_neg large]
  cases found : contexto_buscar m pid with
  | none => exact crece_same rfl (fun _ _ held => held)
  | some ic =>
    cases hole : buscar_hueco m tamanio with
    | none => exact crece_same rfl (fun _ _ held => held)
    | some kh =>
      obtain ⟨here,fits⟩ := buscar_hueco_sound hole
      refine crece_same rfl (fun n small held => ?_)
      have sum := held.sizes
      have taken := sizes_ocupar here fits (by omega)
      exact @suma_con_tabla n m held pid ic.1 ic.2 found (hueco_ocupar m.lista_huecos kh.1 tamanio)
        (fun tabla => tabla ++ [⟨id_segmento,kh.2.base,tamanio⟩]) (by simp [rango]; omega)

theorem crece_eliminar (pid id_segmento : Int) (m : Estado) : Crece m (segmento_eliminar pid id_segmento m).2 := by
  unfold segmento_eliminar
  cases found : contexto_buscar m pid with
  | none => exact crece_same rfl (fun _ _ held => held)
  | some ic =>
    obtain ⟨i,c⟩ := ic
    cases hit : buscar_segmento c id_segmento with
    | none =>
      simp only [hit]
      exact crece_same rfl (fun _ _ held => held)
    | some js =>
      obtain ⟨j,seg⟩ := js
      simp only [hit]
      obtain ⟨pre,post,entries,rfl,_⟩ := split_of_first hit
      refine crece_same rfl (fun n _ held => suma_con_tabla held found ?_)
      rw [entries,eraseIdx_split]
      simp [rango]
      omega

theorem crece_suspender (pid : Int) (m : Estado) : Crece m (proceso_suspender pid m).2 := by
  refine crece_same (congrArg tamanios (suspender_sticks pid m)) (fun n _ held => ?_)
  rcases suspender_frame pid m with ⟨_,_,_,same⟩ | ⟨i,c,nuevos,respuestas,usados,archivo,found,_,_,done⟩
  · rw [same]
    exact ⟨held.total,held.sizes⟩
  · have emptied := suma_vaciar held found
    rw [done]
    exact ⟨emptied.total,emptied.sizes⟩

theorem crece_dessuspender (pid : Int) (m : Estado) : Crece m (proceso_dessuspender pid m).2 := by
  refine crece_same (dessuspender_sticks pid m) (fun n small held => ?_)
  have sum := held.sizes
  unfold proceso_dessuspender
  cases saved : buscar_proceso_swap m pid with
  | none => exact held
  | some kps =>
    obtain ⟨k,ps⟩ := kps
    cases found : contexto_buscar m pid with
    | none => exact held
    | some ic =>
      obtain ⟨i,c⟩ := ic
      simp only
      have placed := sizes_ubicar m ps.segmentos [] m.lista_huecos (by omega) _ rfl
      generalize ubicar m ps.segmentos [] m.lista_huecos = r at placed ⊢
      obtain ⟨_ | puestos,huecos⟩ := r
      · simp only [Option.getD_none,List.map_nil,sizes_nil,Nat.add_zero] at placed
        exact ⟨held.total,placed ▸ sum⟩
      · obtain ⟨f,_,restored⟩ := restaurar_frame i puestos { m with lista_huecos := huecos }
        simp only [restored]
        have names : (puestos.map a_segmento).map rango = puestos.map rango_ubicado := by
          rw [List.map_map]
          rfl
        have filled := @suma_con_tabla n m held pid i c found huecos (fun tabla => tabla ++ puestos.map a_segmento) (by
          simp only [Option.getD_some,List.map_nil,sizes_nil,Nat.add_zero] at placed
          rw [List.map_append,sizes_append,names]
          omega)
        exact ⟨filled.total,filled.sizes⟩

theorem suma_liberar_ram {n : Nat} {m : Estado} (held : Suma n m) (pid : Int) : Suma n (liberar_ram pid m) := by
  unfold liberar_ram
  cases found : contexto_buscar m pid with
  | none => exact held
  | some ic => exact suma_vaciar held found

theorem suma_liberar {n : Nat} {m : Estado} (held : Suma n m) (pid : Int) : Suma n (proceso_liberar_memoria pid m) := by
  have ram := suma_liberar_ram held pid
  unfold proceso_liberar_memoria liberar_swap
  cases buscar_proceso_swap (liberar_ram pid m) pid with
  | none => exact ram
  | some kps => exact ⟨ram.total,ram.sizes⟩

theorem crece_liberar (pid : Int) (m : Estado) : Crece m (proceso_liberar_memoria pid m) :=
  crece_same (congrArg tamanios (liberar_sticks pid m)) (fun _ _ held => suma_liberar held pid)

/-- The context that goes has no segments left. -/
theorem crece_finalizar (pid : Int) (m : Estado) : Crece m (finalizar pid m) := by
  refine crece_trans (crece_liberar pid m) ?_
  unfold finalizar contexto_eliminar
  cases found : contexto_buscar (proceso_liberar_memoria pid m) pid with
  | none => exact crece_same rfl (fun _ _ held => held)
  | some ic =>
    obtain ⟨i,c⟩ := ic
    have empty : c.tabla_segmentos = [] := by
      rw [proceso_liberar_memoria,contexto_buscar,liberar_swap_contextos] at found
      exact liberar_ram_vacia found
    obtain ⟨pre,post,split,rfl,_⟩ := split_of_contexto found
    refine crece_same rfl (fun n _ held => ⟨held.total,?_⟩)
    have sum := held.sizes
    simp only [split,eraseIdx_split,residentes_append,residentes_cons,empty,List.map_nil,List.nil_append] at sum ⊢
    exact sum

theorem crece_aplicar (orden : Sorter) (op : Operacion) (m : Estado) : Crece m (aplicar orden op m) := by
  cases op with
  | memory_stick_agregar a => exact crece_agregar [a] m
  | contexto_crear pid path instrucciones =>
    refine crece_same rfl (fun n _ held => ⟨held.total,?_⟩)
    simpa [aplicar,contexto_crear] using held.sizes
  | segmento_crear pid id_segmento tamanio => exact crece_crear pid id_segmento tamanio m
  | segmento_eliminar pid id_segmento => exact crece_eliminar pid id_segmento m
  | compactar altas => exact crece_compactar orden altas m
  | proceso_suspender pid => exact crece_suspender pid m
  | proceso_dessuspender pid => exact crece_dessuspender pid m
  | proceso_liberar_memoria pid => exact crece_liberar pid m
  | finalizar pid => exact crece_finalizar pid m
  | escribir dir_fisica bytes =>
    exact crece_same (tamanios_of_ficha (escribir_fichas m.toFisica dir_fisica bytes)) (fun _ _ held => ⟨held.total,held.sizes⟩)
  | swap_registrar fd block_size swap_size => exact crece_same rfl (fun _ _ held => ⟨held.total,held.sizes⟩)
  | swap_desregistrar => exact crece_same rfl (fun _ _ held => ⟨held.total,held.sizes⟩)

/-! ## Runs -/

/-- Kernel Memory, the bytes of all sticks that ever connected and how often a swap registered. -/
structure Contado where
  estado : Estado
  conectado : Nat
  registros : Nat

def registra : Operacion → Nat
  | .swap_registrar _ _ _ => 1
  | _ => 0

def contar (orden : Sorter) : Suceso → Contado → Contado
  | .pide op, v => ⟨aplicar orden op v.estado,v.conectado +
      (tamanios (aplicar orden op v.estado).lista_memory_sticks - tamanios v.estado.lista_memory_sticks),v.registros + registra op⟩
  | .memory_stick_eliminar fd, v => { v with estado := memory_stick_eliminar fd v.estado }
def cuenta (orden : Sorter) (e : Suceso) (v : Contado) : Option Contado := some (contar orden e v)

/-- A failed suspension leaves no trace, and one that goes through gives every segment the
    blocks that it needs and its memory back. -/
def Atomica (pid : Int) (m : Estado) : Prop :=
  ((proceso_suspender pid m).1 = false →
    (proceso_suspender pid m).2.lista_contextos = m.lista_contextos ∧ (proceso_suspender pid m).2.lista_huecos = m.lista_huecos ∧
    (proceso_suspender pid m).2.lista_memory_sticks = m.lista_memory_sticks ∧
    (proceso_suspender pid m).2.procesos_en_swap = m.procesos_en_swap ∧
    (proceso_suspender pid m).2.swap_bloques_usados = m.swap_bloques_usados ∧
    ∀ b ∈ listados m.procesos_en_swap,
      load (proceso_suspender pid m).2.archivo_swap (b * m.bloque) m.bloque = load m.archivo_swap (b * m.bloque) m.bloque) ∧
  ((proceso_suspender pid m).1 = true → buscar_proceso_swap m pid = none → ∃ i c nuevos,
    contexto_buscar m pid = some (i,c) ∧ (proceso_suspender pid m).2.procesos_en_swap = m.procesos_en_swap ++ [⟨pid,nuevos⟩] ∧
    nuevos.map (fun ss => (ss.id,ss.limite)) = c.tabla_segmentos.map (fun seg => (seg.id,seg.limite)) ∧
    (∀ ss ∈ nuevos, ss.bloques.length = cuantos m.bloque ss.limite ∧ ss.cantidad_bloques = ss.bloques.length) ∧
    (ocupados nuevos).Nodup ∧ (∀ b ∈ ocupados nuevos, m.swap_bloques_usados[b]? = some false) ∧
    contexto_buscar (proceso_suspender pid m).2 pid = some (i,{ c with tabla_segmentos := [] }) ∧
    (proceso_suspender pid m).2.lista_huecos = liberar_tabla m.lista_huecos c.tabla_segmentos)

/-! ### The invariant -/

/-- No swap has registered: nothing is saved and nothing can be. -/
def SinSwap (r : Registro) : Prop := r.swap_block_size = 0 ∧ r.fd_swap = -1 ∧ r.procesos_en_swap = []

structure Llevado (v : Contado) : Prop where
  sin_registro : v.registros = 0 → SinSwap (Estado.registro v.estado)
  suma : v.conectado < 2^32 → Suma v.conectado v.estado
  ordenado : v.registros ≤ 1 → v.conectado + v.estado.bloque < 2^31 → Ordenado (Estado.registro v.estado)

theorem sin_swap_suelta {r r' : Registro} (off : SinSwap r) (frees : Suelta r r') : SinSwap r' := by
  rcases frees with rfl | ⟨pre,ps,post,split,_⟩
  · exact off
  · have none := off.2.2
    rw [split] at none
    simp at none

theorem sin_swap_aplicar (orden : Sorter) {op : Operacion} (other : registra op = 0) {m : Estado} (off : SinSwap (Estado.registro m)) :
    SinSwap (Estado.registro (aplicar orden op m)) := by
  cases swap : de_swap op with
  | false =>
    rw [registro_aplicar orden swap]
    exact off
  | true =>
    cases op with
    | proceso_suspender pid =>
      have disconnected : m.fd_swap = -1 := off.2.1
      simp only [aplicar,proceso_suspender,disconnected,if_true]
      exact off
    | proceso_dessuspender pid => exact sin_swap_suelta off (suelta_dessuspender pid m)
    | proceso_liberar_memoria pid => exact sin_swap_suelta off (suelta_liberar pid m)
    | finalizar pid => exact sin_swap_suelta off (suelta_finalizar pid m)
    | swap_registrar fd block_size swap_size => cases other
    | swap_desregistrar => exact ⟨off.1,rfl,off.2.2⟩
    | _ => cases swap

/-- Only a registration changes the size of the blocks. -/
theorem block_size_aplicar (orden : Sorter) {op : Operacion} (other : registra op = 0) (m : Estado) :
    (aplicar orden op m).swap_block_size = m.swap_block_size := by
  have of_suelta : ∀ {r r' : Registro}, Suelta r r' → r'.swap_block_size = r.swap_block_size := by
    intro r r' frees
    rcases frees with rfl | ⟨pre,ps,post,_,rfl⟩ <;> rfl
  change (Estado.registro (aplicar orden op m)).swap_block_size = (Estado.registro m).swap_block_size
  cases swap : de_swap op with
  | false => rw [registro_aplicar orden swap]
  | true =>
    cases op with
    | proceso_suspender pid =>
      rcases suspender_frame pid m with ⟨_,_,_,same⟩ | ⟨i,c,nuevos,respuestas,usados,archivo,_,_,_,done⟩
      · change (proceso_suspender pid m).2.swap_block_size = m.swap_block_size
        rw [same]
        rfl
      · change (proceso_suspender pid m).2.swap_block_size = m.swap_block_size
        rw [done]
        rfl
    | proceso_dessuspender pid => exact of_suelta (suelta_dessuspender pid m)
    | proceso_liberar_memoria pid => exact of_suelta (suelta_liberar pid m)
    | finalizar pid => exact of_suelta (suelta_finalizar pid m)
    | swap_registrar fd block_size swap_size => cases other
    | swap_desregistrar => rfl
    | _ => cases swap

theorem bloque_aplicar (orden : Sorter) {op : Operacion} (other : registra op = 0) (m : Estado) :
    (aplicar orden op m).bloque = m.bloque := congrArg Int.toNat (block_size_aplicar orden other m)

/-- A table is part of what was connected, so its blocks can be counted. -/
theorem copiable_of_suma {n : Nat} {m : Estado} (sum : Suma n m) (ordered : Ordenado (Estado.registro m)) (small : n + m.bloque < 2^31)
    (pid : Int) : Copiable pid m := by
  intro connected _ ic found
  obtain ⟨i,c⟩ := ic
  have found : contexto_buscar m pid = some (i,c) := found
  have positive : 0 < m.swap_block_size := ordered.positive.resolve_right (fun off => connected off.1)
  obtain ⟨resto,before,_⟩ := con_tabla_residentes found
  have part := sizes_perm before
  rw [sizes_append] at part
  have whole := sum.sizes
  simp only [Estado.bloque] at small
  refine bastan_of_contable positive (by omega) (contable_of_small ?_ ?_)
  · simp only [Estado.bloque]
    omega
  · simp only [Estado.bloque]
    omega

theorem contar_llevado {orden : Sorter} {e : Suceso} {v : Contado} (kept : Llevado v) (typed : al_pedir Positiva e v.estado) :
    Llevado (contar orden e v) := by
  cases e with
  | memory_stick_eliminar fd =>
    refine ⟨kept.sin_registro,fun small => ?_,kept.ordenado⟩
    have sum := kept.suma small
    exact ⟨sum.total,sum.sizes⟩
  | pide op =>
    obtain ⟨k,sticks,sum⟩ := crece_aplicar orden op v.estado
    have grown : (contar orden (.pide op) v).conectado = v.conectado + k := by
      simp only [contar,sticks]
      omega
    have counted : (contar orden (.pide op) v).registros = v.registros + registra op := rfl
    refine ⟨fun none => ?_,fun small => ?_,fun once small => ?_⟩
    · rw [counted] at none
      exact sin_swap_aplicar orden (by omega) (kept.sin_registro (by omega))
    · rw [grown] at small ⊢
      exact sum v.conectado (kept.suma (by omega)) small
    · rw [grown] at small
      rw [counted] at once
      have added := kept.suma (by omega)
      cases first : registra op with
      | zero =>
        have block : (contar orden (.pide op) v).estado.bloque = v.estado.bloque := bloque_aplicar orden first v.estado
        rw [block] at small
        have ordered := kept.ordenado (by omega) (by omega)
        refine aplicar_ordenado ordered typed ?_
        cases op with
        | proceso_suspender pid => exact copiable_of_suma added ordered (by omega) pid
        | swap_registrar fd block_size swap_size => cases first
        | _ => trivial
      | succ more =>
        obtain ⟨zero,off,none⟩ := kept.sin_registro (by omega)
        have zero : v.estado.swap_block_size = 0 := zero
        have none : v.estado.procesos_en_swap = [] := none
        have ordered := kept.ordenado (by omega) (by simp only [Estado.bloque,zero]; omega)
        refine aplicar_ordenado ordered typed ?_
        cases op with
        | swap_registrar fd block_size swap_size =>
          simp only [Cuidada,none,listados_nil]
        | _ => cases first

theorem atomica_of_ordenado {m : Estado} (ordered : Ordenado (Estado.registro m)) {pid : Int} (copiable : Copiable pid m) :
    Atomica pid m := by
  have ends := suspender_spec ⟨fun connected => ordered.positive.resolve_right (fun off => connected off.1),ordered.size,
    fun connected absent i c found => copiable connected absent (i,c) found⟩
  unfold Atomica
  generalize proceso_suspender pid m = r at ends ⊢
  obtain ⟨ok,m'⟩ := r
  cases ends with
  | rechaza => exact ⟨fun _ => ⟨rfl,rfl,rfl,rfl,rfl,fun _ _ => rfl⟩,fun bad => (by cases bad)⟩
  | ya listed =>
    refine ⟨fun bad => (by cases bad),fun _ absent => ?_⟩
    rw [absent] at listed
    cases listed
  | falla respuestas archivo kept broken =>
    refine ⟨fun _ => ⟨rfl,rfl,rfl,rfl,rfl,fun b listed => kept b ((marcado_listed ordered b).mpr listed).2⟩,fun bad => (by cases bad)⟩
  | @sale i c nuevos respuestas usados archivo connected found absent copied answered =>
    refine ⟨fun bad => (by cases bad),fun _ _ => ⟨i,c,nuevos,found,rfl,copied.names,fun ss member => ?_,copied.nodup,fun b member => ?_,
      contexto_con_tabla found (fun _ => []),rfl⟩⟩
    · obtain ⟨count,length⟩ := copied.count ss member
      exact ⟨length,by rw [count,length]⟩
    · have free := copied.free b member
      by_cases inside : b < m.swap_bloques_usados.length
      · rw [List.getD_eq_getElem _ _ inside] at free
        rw [List.getElem?_eq_getElem inside,free]
      · rw [List.getD_eq_getElem?_getD,List.getElem?_eq_none (not_lt.mp inside)] at free
        cases free

/-- In every state that is reached under one registration every suspension is atomic. -/
theorem suspension_atomic (orden : Sorter) (segment_max_size : Int) (allocation_best_fit : Bool) (respuestas : Nat → Respuesta)
    (sucesos : List Suceso) (v : Contado)
    (typed : Guarded (cuenta orden) (fun e v => al_pedir Positiva e v.estado) sucesos
      ⟨inicial segment_max_size allocation_best_fit respuestas,0,0⟩)
    (reached : run (cuenta orden) sucesos ⟨inicial segment_max_size allocation_best_fit respuestas,0,0⟩ = some v)
    (once : v.registros ≤ 1) (small : v.conectado + v.estado.bloque < 2^31) (pid : Int) : Atomica pid v.estado := by
  have start : Llevado ⟨inicial segment_max_size allocation_best_fit respuestas,0,0⟩ :=
    ⟨fun _ => ⟨rfl,rfl,rfl⟩,fun _ => ⟨rfl,rfl⟩,fun _ _ => inicial_ordenado segment_max_size allocation_best_fit respuestas⟩
  have keeps : Preserved (cuenta orden) (fun e v => al_pedir Positiva e v.estado) Llevado := by
    intro e v v' kept typed moved
    cases moved
    exact contar_llevado kept typed
  have kept := invariant_of_guarded keeps start typed reached
  have ordered := kept.ordenado once small
  exact atomica_of_ordenado ordered (copiable_of_suma (kept.suma (by omega)) ordered small pid)

/-- The second block of the second segment is not written. -/
def fallo_al_cuarto : Nat → Respuesta := fun k => if k = 5 then .falla (fun _ => 9) else .responde
def antes_del_fallo : List Suceso :=
  [.pide (.memory_stick_agregar ⟨3,8,"10.0.0.1",8002,fun _ => 0⟩),.pide (.swap_registrar 4 2 16),.pide (.contexto_crear 0 "a" []),
    .pide (.segmento_crear 0 0 3),.pide (.segmento_crear 0 1 4)]
def en_el_fallo : Contado := antes_del_fallo.foldl (fun v e => contar insertion_sorter e v) ⟨inicial 0 true fallo_al_cuarto,0,0⟩

/-- Both blocks of the first segment and both of the second are free again. -/
theorem suspension_atomic_fallo : (proceso_suspender 0 en_el_fallo.estado).1 = false ∧
    (proceso_suspender 0 en_el_fallo.estado).2.archivo_swap 6 = 9 ∧ Atomica 0 en_el_fallo.estado :=
  ⟨by decide +kernel,by decide +kernel,suspension_atomic insertion_sorter 0 true fallo_al_cuarto antes_del_fallo en_el_fallo (by decide +kernel)
    (run_total (contar insertion_sorter) ..) (by decide +kernel) (by decide +kernel) 0⟩

end PlugNPray.Capacities
