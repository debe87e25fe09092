import PlugNPray.Operations

/-!
De-suspensions that are refused: what the roll-back of the tentative placement
leaves on the free list, and whether a later request can tell.
-/
namespace PlugNPray.Refusals
open PlugNPray.Runs PlugNPray.Places PlugNPray.Huecos PlugNPray.Sticks PlugNPray.Sorting
open PlugNPray.KernelMemory PlugNPray.Operations

/-- The sizes of the holes. -/
def medidas (huecos : List Hueco) : List Nat := huecos.map Hueco.tamanio

/-- Every segment before the first one that fits nowhere takes the whole of its hole. -/
def Justas (m : Estado) : List SegmentoSwap → List Hueco → Prop
  | [], _ => True
  | ss :: resto, huecos =>
    match buscar_hueco { m with lista_huecos := huecos } ss.limite with
    | none => True
    | some (k,hueco) => hueco.tamanio = ss.limite ∧ Justas m resto (huecos.eraseIdx k)

instance decidableJustas (m : Estado) : ∀ segmentos huecos, Decidable (Justas m segmentos huecos)
  | [], _ => isTrue trivial
  | ss :: resto, huecos =>
    match found : buscar_hueco { m with lista_huecos := huecos } ss.limite with
    | none => isTrue (by simp only [Justas,found])
    | some (k,hueco) =>
      have := decidableJustas m resto (huecos.eraseIdx k)
      decidable_of_iff (hueco.tamanio = ss.limite ∧ Justas m resto (huecos.eraseIdx k)) (by simp only [Justas,found])

/-! ## The roll-back -/

private theorem liberar_todos (ubicados : List (SegmentoSwap × Nat)) (huecos : List Hueco) :
    ubicados.foldl (fun hs u => hueco_liberar hs u.2 u.1.limite) huecos =
      huecos ++ ubicados.map (fun u => ⟨u.2,u.1.limite⟩) := by
  induction ubicados generalizing huecos with
  | nil => simp
  | cons u resto ih =>
    rw [List.foldl_cons,ih]
    simp [hueco_liberar]

/-- The roll-back gives back what was taken: the holes themselves when they were taken
    whole, and otherwise the list has grown. -/
theorem ubicar_undone (m : Estado) : ∀ (segmentos : List SegmentoSwap) (ubicados : List (SegmentoSwap × Nat))
    (huecos huecos' : List Hueco), ubicar m segmentos ubicados huecos = (none,huecos') →
    (Justas m segmentos huecos → huecos'.Perm (huecos ++ ubicados.map (fun u => ⟨u.2,u.1.limite⟩))) ∧
    (¬ Justas m segmentos huecos → huecos.length + ubicados.length < huecos'.length) := by
  intro segmentos
  induction segmentos with
  | nil => intro ubicados huecos huecos' undone; cases undone
  | cons ss resto ih =>
    intro ubicados huecos huecos' undone
    unfold ubicar at undone
    unfold Justas
    cases found : buscar_hueco { m with lista_huecos := huecos } ss.limite with
    | none =>
      rw [found] at undone
      obtain rfl := (Prod.mk.inj undone).2
      rw [liberar_todos]
      exact ⟨fun _ => .refl _,fun bad => absurd trivial bad⟩
    | some eleccion =>
      obtain ⟨k,hueco⟩ := eleccion
      obtain ⟨here,_⟩ := buscar_hueco_sound found
      have here : huecos[k]? = some hueco := here
      obtain ⟨split,rest⟩ := ocupar_perm here ss.limite
      have size := split.length_eq
      rw [found] at undone
      obtain ⟨back,more⟩ := ih (ubicados ++ [(ss,hueco.base)]) (hueco_ocupar huecos k ss.limite) huecos' undone
      simp only [List.length_append,List.length_singleton,List.map_append,List.map_cons,List.map_nil] at back more
      simp only [List.length_cons] at size
      by_cases whole : hueco.tamanio = ss.limite
      · have erased : hueco_ocupar huecos k ss.limite = huecos.eraseIdx k := by
          simp only [hueco_ocupar,here,whole,if_true]
        rw [erased] at back more
        refine ⟨fun exact_fit => (back exact_fit.2).trans ?_,fun loose => ?_⟩
        · have same : (⟨hueco.base,ss.limite⟩ : Hueco) = hueco := by rw [← whole]
          rw [same]
          refine (List.Perm.append_left _ List.perm_append_comm).trans ?_
          exact List.perm_middle.trans (split.symm.append_right _)
        · have below := more (fun exact_fit => loose ⟨whole,exact_fit⟩)
          omega
      · refine ⟨fun exact_fit => absurd exact_fit.1 whole,fun _ => ?_⟩
        rw [if_neg whole] at rest
        have kept := rest.length_eq
        simp only [List.length_cons] at kept
        by_cases exact_fit : Justas m resto (hueco_ocupar huecos k ss.limite)
        · have total := (back exact_fit).length_eq
          simp only [List.length_append,List.length_map,List.length_singleton] at total
          omega
        · have below := more exact_fit
          omega

/-! ## States that answer alike -/

/-- The requests of the scheduler that need memory. -/
inductive Pedido where
  | segmento_crear (pid id_segmento : Int) (tamanio : Nat)
  | proceso_dessuspender (pid : Int)

inductive Contestacion where
  | creado (r : ResultadoCrear)
  | vuelto (ok : Bool)
  deriving DecidableEq, Repr

def contestar : Pedido → Estado → Contestacion × Estado
  | .segmento_crear pid id_segmento tamanio, m =>
    (.creado (KernelMemory.segmento_crear pid id_segmento tamanio m).1,(KernelMemory.segmento_crear pid id_segmento tamanio m).2)
  | .proceso_dessuspender pid, m => (.vuelto (KernelMemory.proceso_dessuspender pid m).1,(KernelMemory.proceso_dessuspender pid m).2)

/-- The same processes in memory and in the swap and holes of the same sizes, wherever they are. -/
structure Parejos (m m' : Estado) : Prop where
  maximo : m'.segment_max_size = m.segment_max_size
  ajuste : m'.allocation_best_fit = m.allocation_best_fit
  pids : m'.lista_contextos.map Contexto.pid = m.lista_contextos.map Contexto.pid
  suspendidos : m'.procesos_en_swap = m.procesos_en_swap
  huecos : (medidas m'.lista_huecos).Perm (medidas m.lista_huecos)

theorem same_size {huecos huecos' : List Hueco} (perm : (medidas huecos').Perm (medidas huecos)) {h : Hueco} (listed : h ∈ huecos') :
    ∃ g ∈ huecos, g.tamanio = h.tamanio := by
  have size : h.tamanio ∈ medidas huecos := perm.mem_iff.mp (List.mem_map_of_mem listed)
  exact List.mem_map.mp size

/-- Which size is chosen depends on nothing but the sizes there are. -/
theorem buscar_medida (m m' : Estado) (ajuste : m'.allocation_best_fit = m.allocation_best_fit)
    (perm : (medidas m'.lista_huecos).Perm (medidas m.lista_huecos)) (tamanio : Nat) :
    (buscar_hueco m' tamanio).map (fun e => e.2.tamanio) = (buscar_hueco m tamanio).map (fun e => e.2.tamanio) := by
  obtain ⟨least,missing⟩ := buscar_hueco_least m tamanio
  obtain ⟨least',missing'⟩ := buscar_hueco_least m' tamanio
  cases found : buscar_hueco m tamanio with
  | none =>
    cases found' : buscar_hueco m' tamanio with
    | none => rfl
    | some e' =>
      obtain ⟨here,fits⟩ := buscar_hueco_sound found'
      obtain ⟨g,listed,same⟩ := same_size perm (List.mem_of_getElem? here)
      have low := missing found g listed
      omega
  | some e =>
    obtain ⟨here,fits⟩ := buscar_hueco_sound found
    obtain ⟨g',listed',same'⟩ := same_size perm.symm (List.mem_of_getElem? here)
    cases found' : buscar_hueco m' tamanio with
    | none =>
      have low := missing' found' g' listed'
      omega
    | some e' =>
      obtain ⟨here',fits'⟩ := buscar_hueco_sound found'
      obtain ⟨g,listed,same⟩ := same_size perm (List.mem_of_getElem? here')
      have one := least e.1 e.2 found g listed (by omega)
      have other := least' e'.1 e'.2 found' g' listed' (by omega)
      rw [ajuste] at other
      simp only [Option.map_some,Option.some.injEq]
      split_ifs at one other <;> omega

/-- The sizes after a hole was cut. -/
theorem ocupar_medidas {huecos huecos' : List Hueco} (perm : (medidas huecos').Perm (medidas huecos)) {i i' : Nat} {h h' : Hueco}
    (here : huecos[i]? = some h) (here' : huecos'[i']? = some h') (same : h'.tamanio = h.tamanio) (usado : Nat) :
    (medidas (hueco_ocupar huecos' i' usado)).Perm (medidas (hueco_ocupar huecos i usado)) ∧
    (medidas (huecos'.eraseIdx i')).Perm (medidas (huecos.eraseIdx i)) := by
  obtain ⟨split,cut⟩ := ocupar_perm here usado
  obtain ⟨split',cut'⟩ := ocupar_perm here' usado
  have rest : (medidas (huecos'.eraseIdx i')).Perm (medidas (huecos.eraseIdx i)) := by
    have all := ((split'.map Hueco.tamanio).symm.trans perm).trans (split.map Hueco.tamanio)
    rw [List.map_cons,List.map_cons,same] at all
    exact all.cons_inv
  refine ⟨(cut'.map Hueco.tamanio).trans (List.Perm.trans ?_ (cut.map Hueco.tamanio).symm),rest⟩
  rw [same]
  split_ifs
  · exact rest
  · exact rest.cons _

theorem total_parejo {huecos huecos' : List Hueco} (perm : (medidas huecos').Perm (medidas huecos)) :
    huecos_total_libre huecos' = huecos_total_libre huecos := by
  have scan : ∀ (hs : List Hueco) (n : Nat), hs.foldl (fun total h => u32 (total + h.tamanio)) n =
      (medidas hs).foldl (fun total t => u32 (total + t)) n := by
    intro hs n
    rw [medidas,List.foldl_map]
  have commutes : RightCommutative (fun total t => u32 (total + t)) := ⟨fun a b c => by simp only [u32]; omega⟩
  rw [huecos_total_libre,huecos_total_libre,scan,scan]
  exact perm.foldl_eq 0

/-- A tentative placement goes through or not, and leaves holes of the same sizes either way. -/
theorem ubicar_parejo {m m' : Estado} (ajuste : m'.allocation_best_fit = m.allocation_best_fit) :
    ∀ (segmentos : List SegmentoSwap) (ubicados ubicados' : List (SegmentoSwap × Nat)) (huecos huecos' : List Hueco),
      ubicados'.map Prod.fst = ubicados.map Prod.fst → (medidas huecos').Perm (medidas huecos) →
      (ubicar m' segmentos ubicados' huecos').1.isSome = (ubicar m segmentos ubicados huecos).1.isSome ∧
      (medidas (ubicar m' segmentos ubicados' huecos').2).Perm (medidas (ubicar m segmentos ubicados huecos).2) := by
  intro segmentos
  induction segmentos with
  | nil => intro ubicados ubicados' huecos huecos' _ perm; exact ⟨rfl,perm⟩
  | cons ss resto ih =>
    intro ubicados ubicados' huecos huecos' names perm
    have chosen := buscar_medida { m with lista_huecos := huecos } { m' with lista_huecos := huecos' } ajuste perm ss.limite
    unfold ubicar
    cases found : buscar_hueco { m with lista_huecos := huecos } ss.limite with
    | none =>
      rw [found] at chosen
      rw [Option.map_eq_none_iff.mp chosen,liberar_todos,liberar_todos]
      refine ⟨rfl,?_⟩
      have limits : ubicados'.map (fun u => u.1.limite) = ubicados.map (fun u => u.1.limite) := by
        have mapped := congrArg (List.map SegmentoSwap.limite) names
        rwa [List.map_map,List.map_map] at mapped
      simp only [medidas,List.map_append,List.map_map] at perm ⊢
      exact perm.append (List.Perm.of_eq limits)
    | some e =>
      rw [found] at chosen
      obtain ⟨e',found',same⟩ := Option.map_eq_some_iff.mp chosen
      obtain ⟨here,_⟩ := buscar_hueco_sound found
      obtain ⟨here',_⟩ := buscar_hueco_sound found'
      rw [found']
      exact ih _ _ _ _ (by simp [names]) (ocupar_medidas perm here here' same ss.limite).1

theorem justas_parejo {m m' : Estado} (ajuste : m'.allocation_best_fit = m.allocation_best_fit) :
    ∀ (segmentos : List SegmentoSwap) (huecos huecos' : List Hueco), (medidas huecos').Perm (medidas huecos) →
      (Justas m' segmentos huecos' ↔ Justas m segmentos huecos) := by
  intro segmentos
  induction segmentos with
  | nil => intro _ _ _; exact .rfl
  | cons ss resto ih =>
    intro huecos huecos' perm
    have chosen := buscar_medida { m with lista_huecos := huecos } { m' with lista_huecos := huecos' } ajuste perm ss.limite
    unfold Justas
    cases found : buscar_hueco { m with lista_huecos := huecos } ss.limite with
    | none =>
      rw [found] at chosen
      rw [Option.map_eq_none_iff.mp chosen]
    | some e =>
      rw [found] at chosen
      obtain ⟨e',found',same⟩ := Option.map_eq_some_iff.mp chosen
      obtain ⟨here,_⟩ := buscar_hueco_sound found
      obtain ⟨here',_⟩ := buscar_hueco_sound found'
      rw [found']
      exact and_congr (by rw [same]) (ih _ _ (ocupar_medidas perm here here' same ss.limite).2)

private theorem crear_parejo {m m' : Estado} (same : Parejos m m') (pid id_segmento : Int) (tamanio : Nat) :
    (segmento_crear pid id_segmento tamanio m').1 = (segmento_crear pid id_segmento tamanio m).1 ∧
      Parejos (segmento_crear pid id_segmento tamanio m).2 (segmento_crear pid id_segmento tamanio m').2 := by
  have chosen := buscar_medida m m' same.ajuste same.huecos tamanio
  have contexts : contexto_buscar m' pid = none ↔ contexto_buscar m pid = none := by
    rw [contexto_none,contexto_none,same.pids]
  have total := total_parejo same.huecos
  have limit : (m'.segment_max_size > 0 ∧ tamanio > a_u32 m'.segment_max_size) ↔
      (m.segment_max_size > 0 ∧ tamanio > a_u32 m.segment_max_size) := by rw [same.maximo]
  unfold segmento_crear
  by_cases large : m.segment_max_size > 0 ∧ tamanio > a_u32 m.segment_max_size
  · rw [if_pos large,if_pos (limit.mpr large)]
    exact ⟨rfl,same⟩
  rw [if_neg large,if_neg (fun above => large (limit.mp above))]
  cases found : contexto_buscar m pid with
  | none =>
    rw [contexts.mpr found]
    exact ⟨rfl,same⟩
  | some ic =>
    cases found' : contexto_buscar m' pid with
    | none =>
      rw [contexts.mp found'] at found
      cases found
    | some ic' =>
      cases hole : buscar_hueco m tamanio with
      | none =>
        rw [hole] at chosen
        simp only [Option.map_eq_none_iff.mp chosen,total]
        exact ⟨trivial,same⟩
      | some e =>
        rw [hole] at chosen
        obtain ⟨e',hole',size⟩ := Option.map_eq_some_iff.mp chosen
        obtain ⟨here,_⟩ := buscar_hueco_sound hole
        obtain ⟨here',_⟩ := buscar_hueco_sound hole'
        simp only [hole']
        refine ⟨trivial,same.maximo,same.ajuste,?_,same.suspendidos,(ocupar_medidas same.huecos here here' size tamanio).1⟩
        rw [pids_con_tabla,pids_con_tabla]
        exact same.pids

private theorem dessuspender_parejo {m m' : Estado} (same : Parejos m m') (pid : Int) :
    (proceso_dessuspender pid m').1 = (proceso_dessuspender pid m).1 ∧
      Parejos (proceso_dessuspender pid m).2 (proceso_dessuspender pid m').2 := by
  have contexts : contexto_buscar m' pid = none ↔ contexto_buscar m pid = none := by
    rw [contexto_none,contexto_none,same.pids]
  have saved : buscar_proceso_swap m' pid = buscar_proceso_swap m pid := by
    rw [buscar_proceso_swap,buscar_proceso_swap,same.suspendidos]
  simp only [proceso_dessuspender,saved]
  cases buscar_proceso_swap m pid with
  | none => exact ⟨rfl,same⟩
  | some kps =>
    obtain ⟨k,ps⟩ := kps
    cases found : contexto_buscar m pid with
    | none =>
      rw [contexts.mpr found]
      exact ⟨rfl,same⟩
    | some ic =>
      cases found' : contexto_buscar m' pid with
      | none =>
        rw [contexts.mp found'] at found
        cases found
      | some ic' =>
        obtain ⟨goes,sizes⟩ := ubicar_parejo same.ajuste ps.segmentos [] [] m.lista_huecos m'.lista_huecos rfl same.huecos
        simp only
        generalize ubicar m ps.segmentos [] m.lista_huecos = r at goes sizes ⊢
        generalize ubicar m' ps.segmentos [] m'.lista_huecos = r' at goes sizes ⊢
        obtain ⟨_ | puestos,huecos⟩ := r <;> obtain ⟨_ | puestos',huecos'⟩ := r' <;> cases goes
        · exact ⟨rfl,same.maximo,same.ajuste,same.pids,same.suspendidos,sizes⟩
        · obtain ⟨f,_,restored⟩ := restaurar_frame ic.1 puestos { m with lista_huecos := huecos }
          obtain ⟨f',_,restored'⟩ := restaurar_frame ic'.1 puestos' { m' with lista_huecos := huecos' }
          simp only [restored,restored']
          refine ⟨trivial,same.maximo,same.ajuste,?_,congrArg (fun l => l.eraseIdx k) same.suspendidos,sizes⟩
          have kept := pids_con_tabla m ic.1 (fun tabla => tabla ++ puestos.map a_segmento)
          have kept' := pids_con_tabla m' ic'.1 (fun tabla => tabla ++ puestos'.map a_segmento)
          exact (kept'.trans same.pids).trans kept.symm

theorem contestar_parejo (p : Pedido) (m m' : Estado) (same : Parejos m m') :
    (contestar p m').1 = (contestar p m).1 ∧ Parejos (contestar p m).2 (contestar p m').2 := by
  cases p with
  | segmento_crear pid id_segmento tamanio =>
    obtain ⟨answer,next⟩ := crear_parejo same pid id_segmento tamanio
    exact ⟨congrArg Contestacion.creado answer,next⟩
  | proceso_dessuspender pid =>
    obtain ⟨answer,next⟩ := dessuspender_parejo same pid
    exact ⟨congrArg Contestacion.vuelto answer,next⟩

/-! ## Refused attempts -/

/-- The state after `n` attempts. -/
def intentos (pid : Int) : Nat → Estado → Estado
  | 0, m => m
  | n + 1, m => (proceso_dessuspender pid (intentos pid n m)).2

/-- However many attempts were made, the free list has the holes that it had, nothing else
    has changed, and no sequence of later requests is answered differently. -/
def SinRastro (pid : Int) (m : Estado) : Prop :=
  ∀ n, ∃ huecos, huecos.Perm m.lista_huecos ∧ intentos pid n m = { m with lista_huecos := huecos } ∧
    ∀ pedidos, answers contestar pedidos (intentos pid n m) = answers contestar pedidos m

/-- The process has no context any more, or no hole has to be cut for its segments. -/
def SinCortes (pid : Int) (m : Estado) : Prop :=
  ∀ k ps, buscar_proceso_swap m pid = some (k,ps) → contexto_buscar m pid ≠ none → Justas m ps.segmentos m.lista_huecos

/-- What a refused attempt does to the free list. -/
theorem refused_huecos {pid : Int} {m : Estado} (refused : (proceso_dessuspender pid m).1 = false) :
    ∃ huecos, (proceso_dessuspender pid m).2 = { m with lista_huecos := huecos } ∧
      (huecos.Perm m.lista_huecos ↔ SinCortes pid m) := by
  unfold proceso_dessuspender at refused ⊢
  unfold SinCortes
  cases saved : buscar_proceso_swap m pid with
  | none =>
    rw [saved] at refused
    cases refused
  | some kps =>
    obtain ⟨k,ps⟩ := kps
    cases found : contexto_buscar m pid with
    | none => exact ⟨m.lista_huecos,rfl,by simp⟩
    | some ic =>
      simp only [saved,found] at refused ⊢
      cases fit : ubicar m ps.segmentos [] m.lista_huecos with
      | mk puestos huecos =>
        cases puestos with
        | some puestos =>
          rw [fit] at refused
          cases refused
        | none =>
          obtain ⟨back,more⟩ := ubicar_undone m ps.segmentos [] m.lista_huecos huecos fit
          refine ⟨huecos,rfl,fun same => ?_,fun whole => ?_⟩
          · rintro _ _ ⟨⟩ _
            by_contra cut
            have grown := more cut
            have size := same.length_eq
            simp only [List.length_nil] at grown
            omega
          · have same := back (whole k ps rfl (by simp))
            rwa [List.map_nil,List.append_nil] at same

private theorem parejos_huecos {m : Estado} {huecos : List Hueco} (perm : huecos.Perm m.lista_huecos) :
    Parejos m { m with lista_huecos := huecos } := ⟨rfl,rfl,rfl,rfl,perm.map Hueco.tamanio⟩

/-- A refused de-suspension leaves no trace exactly when it had no hole to cut. -/
theorem refused_leaves_no_trace_iff (pid : Int) (m : Estado) (refused : (proceso_dessuspender pid m).1 = false) :
    SinRastro pid m ↔ SinCortes pid m := by
  constructor
  · intro untouched
    obtain ⟨huecos,perm,same,_⟩ := untouched 1
    obtain ⟨huecos',left,whole⟩ := refused_huecos refused
    have equal : huecos' = huecos := congrArg Estado.lista_huecos (left.symm.trans same)
    exact whole.mp (equal ▸ perm)
  · intro whole n
    have attempts : ∃ huecos, huecos.Perm m.lista_huecos ∧ intentos pid n m = { m with lista_huecos := huecos } := by
      induction n with
      | zero => exact ⟨m.lista_huecos,.refl _,rfl⟩
      | succ n ih =>
        obtain ⟨huecos,perm,same⟩ := ih
        have alike := parejos_huecos perm
        have refused' := ((dessuspender_parejo alike pid).1).trans refused
        obtain ⟨huecos',left,cuts⟩ := refused_huecos refused'
        refine ⟨huecos',(cuts.mpr ?_).trans perm,?_⟩
        · intro k ps saved found
          exact (@justas_parejo m { m with lista_huecos := huecos } rfl ps.segmentos m.lista_huecos huecos (perm.map Hueco.tamanio)).mpr
            (whole k ps saved found)
        · rw [intentos,same,left]
    obtain ⟨huecos,perm,same⟩ := attempts
    refine ⟨huecos,perm,same,fun pedidos => ?_⟩
    rw [same]
    exact answers_eq contestar_parejo pedidos (parejos_huecos perm)

/-- Ten bytes in one hole, five of them taken, and a process in the swap with segments of three and seven. -/
def dias_previos : List Operacion :=
  [.memory_stick_agregar ⟨3,10,"10.0.0.1",8002,fun _ => 0⟩,.swap_registrar 4 2 16,.contexto_crear 0 "a" [],.contexto_crear 1 "b" [],
    .segmento_crear 0 0 3,.segmento_crear 0 1 7,.proceso_suspender 0,.compactar (fun _ => []),.segmento_crear 1 0 5]
def tras_dias (ops : List Operacion) : Estado :=
  ops.foldl (fun m op => aplicar insertion_sorter op m) (inicial 0 true (fun _ => .responde))

/-- Without the compaction the first segment finds its own hole and takes the whole of it. -/
theorem refused_leaves_no_trace_entero : SinRastro 0 (tras_dias (dias_previos.eraseIdx 7)) := by
  refine (refused_leaves_no_trace_iff 0 (tras_dias (dias_previos.eraseIdx 7)) (by decide +kernel)).mpr ?_
  intro k ps saved _
  have here : buscar_proceso_swap (tras_dias (dias_previos.eraseIdx 7)) 0 =
      some (0,⟨0,[⟨0,3,2,[0,1]⟩,⟨1,7,4,[2,3,4,5]⟩]⟩) := by decide +kernel
  cases here.symm.trans saved
  decide +kernel

/-- After one refusal the four bytes that fitted do not fit any more. -/
theorem refused_leaves_trace : run (paso insertion_sorter) dias_previos (inicial 0 true (fun _ => .responde)) = some (tras_dias dias_previos) ∧
    (proceso_dessuspender 0 (tras_dias dias_previos)).1 = false ∧
    answers contestar [.segmento_crear 1 1 4] (tras_dias dias_previos) = [.creado .CREAR_SEG_OK] ∧
    answers contestar [.segmento_crear 1 1 4] (proceso_dessuspender 0 (tras_dias dias_previos)).2 = [.creado .CREAR_SEG_COMPACTAR] ∧
    ¬ SinRastro 0 (tras_dias dias_previos) := by
  have before : answers contestar [.segmento_crear 1 1 4] (tras_dias dias_previos) = [.creado .CREAR_SEG_OK] := by decide +kernel
  have after : answers contestar [.segmento_crear 1 1 4] (proceso_dessuspender 0 (tras_dias dias_previos)).2 =
      [.creado .CREAR_SEG_COMPACTAR] := by decide +kernel
  refine ⟨rfl,by decide +kernel,before,after,fun untouched => ?_⟩
  obtain ⟨_,_,_,alike⟩ := untouched 1
  have same := (after.symm.trans (alike [.segmento_crear 1 1 4])).trans before
  revert same
  decide

end PlugNPray.Refusals
