import PlugNPray.Queues
import PlugNPray.ProcessLists

/-!
The order of the dispatches under FIFO and RR: the planner takes the first process of lista_ready, a process that becomes
ready goes behind the others, and only one that is evicted for a compaction goes to the front.
-/
namespace PlugNPray.ReadyOrder
open PlugNPray.Scheduler PlugNPray.Handlers PlugNPray.ReadyQueues PlugNPray.Moves PlugNPray.Stacks PlugNPray.Runs
open PlugNPray.ProcessLists PlugNPray.Queues
open PlugNPray.Shutdown (despacho)

variable {cfg : Config} {hora : Nat} {s t u : Ks} {p : Nat}

/-- The processes that are put behind the others. -/
def Crece (s t : Ks) : Prop := s.listas .lista_ready <+: t.listas .lista_ready

theorem crece_refl : Crece s s := List.prefix_rfl
theorem Crece.trans (first : Crece s t) (second : Crece t u) : Crece s u := List.IsPrefix.trans first second
theorem crece_of_eq (same : t.listas .lista_ready = s.listas .lista_ready) : Crece s t := by
  rw [Crece,same]

theorem crece_agregar (c : Cola) (q : Nat) : Crece s (s.agregar c q) := by
  by_cases ready : Cola.lista_ready = c
  · subst ready
    simp [Crece]
  · simp [Crece,ready]

theorem crece_herencia {espera : List Nat} {r : Ks × Pila} (one : cfg.cmn = false) (what : Herencia cfg p espera s r) : Crece s r.1 := by
  cases what with
  | nada => exact crece_refl
  | cambia v cmn | muda v cmn =>
    rw [one] at cmn
    cases cmn

theorem crece_devolucion (what : Devolucion p s t) : Crece s t := crece_of_eq (devolucion_lista what)

theorem crece_despierta {r : Ks × Pila} (what : Despierta cfg hora p s r) : Crece s r.1 := by
  cases what with
  | block blocked n posts | desaloja blocked k q planned =>
    refine Crece.trans (t := ((s.cancelar_timer p).quitar .lista_block p).con_estado p .READY) (crece_of_eq (by simp)) ?_
    exact crece_agregar _ p
  | susp_block suspended => exact crece_of_eq (by simp [mover_a_susp_ready])
  | inesperado => exact crece_refl

theorem crece_siguiente {d : Efecto} (wakes : Siguiente p s d) : Crece s d.ks := by
  cases wakes <;> exact crece_refl

theorem crece_liberar (one : cfg.cmn = false) (pid i : Nat) : Crece s (liberar_mutex_del_proceso cfg hora pid i s).1 := by
  have body : Bucle cfg hora pid (Crece s) (fun u _ => Crece s u) :=
    { acaba := fun _ held => held
      suelta := fun _ i _ held _ _ _ => held
      pausa := fun u i _ siguiente espera held _ _ _ _ =>
        held.trans (crece_herencia (s := u.con_mutex i _) one (heredar_mutex_cases cfg i siguiente espera u))
      sigue := fun u i _ siguiente espera _ held _ _ _ _ what =>
        have given := crece_herencia (s := u.con_mutex i _) one (heredar_mutex_cases cfg i siguiente espera u)
        have done := (held.trans given).trans (crece_despierta what)
        ⟨fun _ => done,fun _ => done⟩ }
  exact liberar_mutex_del_proceso_rule body i crece_refl

theorem crece_pasa (c : Cola) (other : c ≠ .lista_ready) : Crece s (pasa_a_ready cfg c p s) := by
  refine Crece.trans (t := (s.quitar c p).con_estado p .READY) (crece_of_eq (by simp [Ne.symm other])) ?_
  exact crece_agregar _ p

/-- Under FIFO and RR only the planner takes a process off lista_ready, and only the end of a quantum puts one in front. -/
theorem mueve_crece {a : Accion} {r : Efecto} (one : cfg.cmn = false) (move : Mueve cfg hora s a r) (plans : a ≠ .planificar)
    (ends : ∀ k, a ≠ .manejar_fin_quantum k) (other : a ≠ .manejar_bsod) : Crece s r.ks := by
  cases move with
  | planificar_nada | planificar | planificar_timer => exact absurd rfl plans
  | manejar_fin_quantum k | fin_quantum_invalido k | fin_quantum_al_frente k | fin_quantum_desconocido k => exact absurd rfl (ends k)
  | manejar_bsod => exact absurd rfl other
  | mover_proceso_a_ready q | mover_proceso_de_block_a_ready q | sacar_de_susp_ready q => exact crece_pasa _ (by simp)
  | crear_proceso_inicial | manejar_init_proc | verificar_fin_bsod => exact crece_refl
  | agregar_a_new q => exact crece_agregar _ q
  | vence_suspension i q found valid blocked => exact crece_of_eq (by simp)
  | desconectar_ociosa k idle =>
    refine crece_of_eq ?_
    rw [(quitar_cpu_libre_eq k s).1]
  | desconectar_ocupada k q busy desaloja =>
    refine Crece.trans (t := ((((quitar_cpu_libre k s).cancelar_timer q).quitar .lista_exec q).con_estado q .READY).con_cpu q none)
      (crece_of_eq ?_) (crece_agregar _ q)
    simp [(quitar_cpu_libre_eq k s).1]
  | manejar_proceso_exit k q running | manejar_seg_fault k q running => exact crece_of_eq (by simp)
  | liberar_mutex_del_proceso pid i => exact crece_liberar one pid i
  | ceder_mutex pid i q r what silent => exact (crece_despierta what).trans (crece_liberar one pid (i + 1))
  | ceder_mutex_pausa pid i q r what pausa => exact crece_despierta what
  | bloquear_proceso q por => exact crece_of_eq (by simp [bloquear_proceso])
  | bloquear_por_compactacion q => exact crece_of_eq (by simp [bloquear_por_compactacion])
  | mover_a_susp_ready q => exact crece_of_eq (by simp [mover_a_susp_ready])
  | lock_espera q k j pid nombre m r found taken what =>
    rcases what with rfl | ⟨cmn,owner,inherits⟩
    · exact crece_refl
    · rw [one] at cmn
      cases cmn
  | unlock_sin_espera q k j nombre m t found empty what => exact crece_devolucion (s := s.con_mutex j _) what
  | unlock_cede q k j siguiente espera nombre m t r found queue what d inherits silent wakes =>
    have back : Crece s t := crece_devolucion (s := s.con_mutex j _) what
    have woken : Crece r.1 d.ks := crece_siguiente wakes
    exact (back.trans (crece_herencia one inherits)).trans woken
  | unlock_pausa q k j siguiente espera nombre m t r found queue what inherits pausa =>
    have back : Crece s t := crece_devolucion (s := s.con_mutex j _) what
    exact back.trans (crece_herencia one inherits)
  | despertar_siguiente q d wakes => exact crece_siguiente wakes
  | intentar_dessuspender_procesos => exact crece_of_eq (by simp [intentar_dessuspender_procesos])
  | fin_compactacion q waiting => exact crece_of_eq (by simp)
  | _ => exact crece_refl

/-! ## Dispatches -/

/-- The process that the planner takes off lista_ready. -/
def despacha (l : Paso) (s : Planificador) : List Nat :=
  match cima s l.hilo with
  | some .planificar => (s.ks.listas .lista_ready).head?.toList
  | _ => []

/-- The process that a compaction evicts, and that goes to the front. -/
def adelanta (l : Paso) (s : Planificador) : List Nat :=
  match cima s l.hilo with
  | some (.manejar_fin_quantum _) => if s.ks.compactando then l.entrada.pid?.toList.filter (· ∈ s.ks.listas .lista_exec) else []
  | _ => []

theorem destino_uno (one : cfg.cmn = false) (v : Int) : destino cfg v = .lista_ready := by
  simp [destino,one]

/-- The end of a quantum: behind the others, or in front of them during a compaction. -/
theorem fin_quantum_fila (one : cfg.cmn = false) (s : Ks) (p : Nat) : ∃ joins,
    (if s.compactando then [p].filter (· ∈ s.listas .lista_exec) else []) ++ s.listas .lista_ready ++ joins =
      (manejar_fin_quantum cfg p s).ks.listas .lista_ready := by
  unfold manejar_fin_quantum
  cases found : buscar_proceso_en_exec s p with
  | none =>
    refine ⟨[],?_⟩
    simp [missing_of_find found]
  | some q =>
    obtain rfl := find_self found
    have runs : q ∈ s.listas .lista_exec := List.mem_of_find?_eq_some found
    by_cases busy : s.compactando = true
    · refine ⟨[],?_⟩
      simp [busy,runs,encolar_al_frente_de_ready_ks,destino_uno one]
    · refine ⟨[q],?_⟩
      simp [busy,encolar_en_ready_ks,destino_uno one]

/-- The planner takes the first process of lista_ready. -/
theorem planificar_fila {r : Efecto} (one : cfg.cmn = false) (move : Mueve cfg hora s .planificar r) :
    s.listas .lista_ready = (s.listas .lista_ready).head?.toList ++ r.ks.listas .lista_ready := by
  have only : ∀ c, c ∈ colas_de_ready cfg → c = .lista_ready := by
    intro c served
    simpa [colas_de_ready,one] using served
  cases move with
  | planificar_nada none =>
    have empty : s.listas .lista_ready = [] := by simpa [obtener_proximo_proceso_ready,colas_de_ready,one] using none
    simp [empty]
  | planificar c p k cola libres served first free timer | planificar_timer c p k cola libres served first free timer =>
    obtain rfl := only c served
    simp [first]

/-- lista_ready is a queue: the planner takes from the front, and a compaction puts there. -/
theorem fila_mueve (one : cfg.cmn = false) :
    Queues.Moves (Handlers.paso cfg) (fun l s => cima s l.hilo ≠ some .manejar_bsod) (fun s => s.ks.listas .lista_ready)
      despacha adelanta := by
  intro l s t outside moved
  obtain ⟨a,resto,r,step⟩ := paso_avanza moved
  have top := cima_of_here step.here
  have move := step.move
  have kernel : t.ks = r.ks := by rw [step.result]
  have other : a ≠ .manejar_bsod := fun same => outside (by rw [top,same])
  simp only [kernel,adelanta,despacha,top]
  by_cases plans : a = .planificar
  · subst plans
    exact ⟨[],by simpa using planificar_fila one move⟩
  by_cases ends : ∃ k, a = .manejar_fin_quantum k
  · obtain ⟨k,rfl⟩ := ends
    have effect := step.effect
    obtain ⟨p,given,rfl⟩ := Option.map_eq_some_iff.mp effect
    have same := fin_quantum_fila one s.ks p
    simpa [given] using same
  obtain ⟨joins,same⟩ := mueve_crece one move plans (fun k same => ends ⟨k,same⟩) other
  refine ⟨joins,?_⟩
  cases a with
  | planificar => exact absurd rfl plans
  | manejar_fin_quantum k => exact absurd ⟨k,rfl⟩ ends
  | _ => exact same

/-! ## Runs -/

/-- A run that ends outside a BSOD has none on its way. -/
theorem sin_bsod {labels : List Paso} {s t : Planificador} (reached : run (Handlers.paso cfg) labels s = some t)
    (outside : t.ks.bsod_activo = false) :
    s.ks.bsod_activo = false ∧ Guarded (Handlers.paso cfg) (fun l s => cima s l.hilo ≠ some .manejar_bsod) labels s := by
  induction labels generalizing s with
  | nil =>
    cases reached
    exact ⟨outside,trivial⟩
  | cons l rest ih =>
    obtain ⟨u,moved,reached⟩ := Option.bind_eq_some_iff.mp reached
    obtain ⟨after,later⟩ := ih reached
    obtain ⟨a,resto,r,step⟩ := paso_avanza moved
    rw [step.result] at after
    obtain ⟨before,other⟩ := mueve_bsod step.move after
    refine ⟨before,fun same => ?_,fun v moved' => ?_⟩
    · rw [cima_of_here step.here] at same
      exact other (Option.some.inj same)
    · cases moved.symm.trans moved'
      exact later

/-- Under FIFO and RR, in any stretch of a run, outside a BSOD, a process of lista_ready that is not dispatched is there still,
    and the planner has dispatched no more processes than were in front of it or were evicted for a compaction since. -/
theorem ready_wait_bounded {labels : List Paso} {s t : Planificador} (one : cfg.cmn = false)
    (reached : run (Handlers.paso cfg) labels s = some t) (outside : t.ks.bsod_activo = false) (waits : p ∈ s.ks.listas .lista_ready)
    (undispatched : p ∉ along (Handlers.paso cfg) despacha labels s) :
    p ∈ t.ks.listas .lista_ready ∧
      (t.ks.listas .lista_ready).idxOf p + (along (Handlers.paso cfg) despacha labels s).length ≤
        (s.ks.listas .lista_ready).idxOf p + (along (Handlers.paso cfg) adelanta labels s).length :=
  (fila_mueve one).wait_bounded (sin_bsod reached outside).2 reached waits undispatched

/-- Process 0 creates another one. -/
def nace : List Paso := llama 3 0 .init_proc (.entero 0) ++ turnos 3 1 ++ [{ hilo := 3, entrada := .respuesta .OK }] ++ turnos 3 4

/-- The quantum of process 0 ends, and the planner gives the CPU to the next one. -/
def rueda : List Paso := [{ hilo := 3, entrada := .codigo .proceso_fin_quantum },{ hilo := 3 },{ hilo := 3, entrada := .pid 0 }] ++
  turnos 3 3 ++ turnos 1 5

theorem ready_wait_bounded_rueda : ∃ s t, run (paso rr) (despacho ++ nace ++ nace) inicial = some s ∧
    run (paso rr) rueda s = some t ∧ s.ks.listas .lista_ready = [1,2] ∧ t.ks.listas .lista_exec = [1] ∧
      2 ∈ t.ks.listas .lista_ready ∧ (t.ks.listas .lista_ready).idxOf 2 + (along (paso rr) despacha rueda s).length ≤
        (s.ks.listas .lista_ready).idxOf 2 + (along (paso rr) adelanta rueda s).length := by
  have begins : (run (paso rr) (despacho ++ nace ++ nace) inicial).map (fun s => (s.ks.listas .lista_ready,
      along (paso rr) despacha rueda s,(run (paso rr) rueda s).map (fun t => (t.ks.bsod_activo,t.ks.listas .lista_exec)))) =
        some ([1,2],[1],some (false,[1])) := by decide +kernel
  obtain ⟨s,reached,begins⟩ := Option.map_eq_some_iff.mp begins
  obtain ⟨waiting,begins⟩ := Prod.mk.inj begins
  obtain ⟨dispatched,ends⟩ := Prod.mk.inj begins
  obtain ⟨t,turned,ends⟩ := Option.map_eq_some_iff.mp ends
  obtain ⟨outside,running⟩ := Prod.mk.inj ends
  refine ⟨s,t,reached,turned,waiting,running,ready_wait_bounded rfl turned outside ?_ ?_⟩
  · simp [waiting]
  · simp [dispatched]

end PlugNPray.ReadyOrder
