import PlugNPray.Kernels

/-!
The processes there are, as each kernel sees it: the ones that the scheduler has created and not
terminated, and the contexts of Kernel Memory.
-/
namespace PlugNPray.Census
open PlugNPray.Scheduler PlugNPray.Handlers PlugNPray.ReadyQueues PlugNPray.Moves PlugNPray.Stacks PlugNPray.Runs
open PlugNPray.ProcessLists PlugNPray.Sorting PlugNPray.Kernels
open PlugNPray.Shutdown (siesta)

/-! ## Births and deaths on their way -/

def crea (p : Nat) : Pedido → Nat
  | .crear_proceso q _ => if q = p then 1 else 0
  | _ => 0

def acaba (p : Nat) : Pedido → Nat
  | .finalizar_proceso q _ => if q = p then 1 else 0
  | _ => 0

theorem crea_le (p : Nat) (q : Pedido) : crea p q ≤ 1 := by
  cases q with
  | crear_proceso q' c => by_cases same : q' = p <;> simp [crea,same]
  | _ => exact Nat.zero_le 1

/-- The process has been created and has not terminated. -/
def vivo (k : Ks) (p : Nat) : Nat := if p < k.proximo_pid ∧ (k.procesos p).estado ≠ .EXIT_STATE then 1 else 0

variable {cfg : Config} {orden : Sorter} {hora : Nat} {k : Ks} {p q : Nat} {s t : Sistema} {x : Anexo}

theorem estado_de_vivo {c : Cola} : estado_de c ≠ .EXIT_STATE := by cases c <;> simp [estado_de]

/-- Who has a place has not terminated, and who has none stays as he is. -/
theorem vivo_of_sigue {u : Ks} (goes : Sigue cfg k u p) (known : Sitio cfg k p ∨ Fuera k p) (pids : u.proximo_pid = k.proximo_pid) :
    vivo u p = vivo k p := by
  have same : (u.procesos p).estado = .EXIT_STATE ↔ (k.procesos p).estado = .EXIT_STATE := by
    rcases known with ⟨c,here⟩ | out
    · obtain ⟨d,there⟩ := goes.sitio ⟨c,here⟩
      rw [here.estado,there.estado]
      exact iff_of_false estado_de_vivo estado_de_vivo
    · rw [(goes.fuera out).2]
  simp only [Census.vivo,pids,ne_eq,same]

theorem nuevos_of_origen {a : Accion} {r : Efecto} (gives : Encargo k a r) {f : Pedido → Nat} (none : ∀ q, Origen k a q → f q = 0) :
    nuevos f r = 0 := by
  rcases nuevos_cases gives f with zero | ⟨q,origin,same⟩
  · exact zero
  · exact same.trans (none q origin)

theorem crear_vivo (j : Option Nat) (prioridad : Int) (p : Nat) : vivo (crear_proceso j prioridad k).ks p +
    nuevos (acaba p) (crear_proceso j prioridad k) = vivo k p + nuevos (crea p) (crear_proceso j prioridad k) := by
  by_cases mine : p = k.proximo_pid
  · subst mine
    simp [vivo,nuevos,crear_proceso,proceso_nuevo,en_pedir,crea,acaba]
  · have later : p < k.proximo_pid + 1 ↔ p < k.proximo_pid := by omega
    simp [vivo,nuevos,crear_proceso,en_pedir,crea,acaba,mine,later,Ne.symm mine]

theorem termina_vivo (known : ∀ q, Sitio cfg k q ∨ Fuera k q) (born : ∀ q, q ∈ k.listas .lista_exec → q < k.proximo_pid)
    (runs : q ∈ k.listas .lista_exec) (c : Option Nat) (p : Nat) :
    vivo (((k.cancelar_timer q).quitar .lista_exec q).con_estado q .EXIT_STATE) p + acaba p (.finalizar_proceso q c) = vivo k p := by
  by_cases mine : p = q
  · subst mine
    have alive : (k.procesos p).estado = .EXEC := (Sitio.of_mem (known p) runs).estado
    simp [vivo,acaba,born p runs,alive]
  · simp [vivo,acaba,mine,Ne.symm mine]

/-- A process that terminates is asked to be forgotten, one that is created to be known. -/
theorem vivo_mueve {a : Accion} {e : Entrada} {r : Efecto} (move : Mueve cfg hora k a r) (good : en_su_lista cfg a e k = true)
    (inherits : Hereda cfg k a) (known : ∀ q, Sitio cfg k q ∨ Fuera k q) (born : ∀ q, q ∈ k.listas .lista_exec → q < k.proximo_pid)
    (other : a ≠ .manejar_bsod) (p : Nat) : vivo r.ks p + nuevos (acaba p) r = vivo k p + nuevos (crea p) r := by
  have gives := mueve_encargo move
  by_cases plain : ordinaria a = true
  · have births : nuevos (crea p) r = 0 := by
      refine nuevos_of_origen gives (fun q origin => ?_)
      cases origin <;> first | rfl | cases plain
    have deaths : nuevos (acaba p) r = 0 := by
      refine nuevos_of_origen gives (fun q origin => ?_)
      cases origin <;> first | rfl | cases plain
    have created : a ≠ .crear_proceso_inicial ∧ ∀ j, a ≠ .manejar_init_proc j := by
      refine ⟨?_,fun j => ?_⟩ <;> rintro rfl <;> cases plain
    rw [births,deaths,vivo_of_sigue (mueve_sigue move good inherits known plain p) (known p) (Waiting.mueve_pids move created)]
  · cases move with
    | crear_proceso_inicial => exact crear_vivo none 0 p
    | manejar_init_proc j prioridad => exact crear_vivo (some j) prioridad p
    | agregar_a_new q | exit_desconocido j q | seg_fault_desconocido j q => rfl
    | manejar_proceso_exit j q runs | manejar_seg_fault j q runs =>
      have ends := termina_vivo known born runs (k.procesos q).cpu p
      simpa [nuevos,en_pedir,crea] using ends
    | manejar_bsod => exact absurd rfl other
    | _ => exact absurd rfl plain

/-! ## Runs -/

structure Censo (cfg : Config) (s : Sistema) : Prop where
  canal : Canal s
  custodia : Custodia cfg s.scheduler
  acabado : s.scheduler.sistema.ks.bsod_activo = false → ∀ p, 0 < por_servir (acaba p) s → p ∈ s.scheduler.registrados
  cuenta : s.scheduler.sistema.ks.bsod_activo = false → ∀ p : Nat, (pids s.memoria).count (p : Int) + por_servir (crea p) s =
    vivo s.scheduler.sistema.ks p + por_servir (acaba p) s
  una : s.scheduler.sistema.ks.bsod_activo = false → ∀ p, vivo s.scheduler.sistema.ks p + por_servir (acaba p) s ≤ 1
  naturales : ∀ z ∈ pids s.memoria, 0 ≤ z

theorem inicial_censo (segment_max_size : Int) (allocation_best_fit : Bool) (respuestas : Nat → Sticks.Respuesta) :
    Censo cfg (Kernels.inicial segment_max_size allocation_best_fit respuestas) where
  canal := inicial_canal segment_max_size allocation_best_fit respuestas
  custodia := inicio_custodia
  acabado _ p some := by simp [por_servir,Kernels.inicial,inicio,Handlers.inicial,en_pedir] at some
  cuenta _ p := by
    simp [pids,KernelMemory.inicial,por_servir,Kernels.inicial,inicio,Handlers.inicial,en_pedir,vivo]
  una _ p := by simp [por_servir,Kernels.inicial,inicio,Handlers.inicial,en_pedir,vivo]
  naturales z listed := by cases listed

/-- Who has been registered has been created. -/
theorem creado_of_registrado {v : Vigilado} (held : Custodia cfg v) (listed : p ∈ v.registrados) : p < v.sistema.ks.proximo_pid := by
  by_contra late
  have none := held.nuevos p (by omega)
  have some := List.count_pos_iff.mpr listed
  omega

/-- Who runs has been created. -/
theorem nacido_of_exec {v : Vigilado} (held : Custodia cfg v) (outside : v.sistema.ks.bsod_activo = false)
    (runs : p ∈ v.sistema.ks.listas .lista_exec) : p ∈ v.registrados ∧ p < v.sistema.ks.proximo_pid := by
  have listed : p ∈ v.registrados := by
    by_contra unlisted
    exact ((held.sitios outside p).2 unlisted).1.nunca _ runs
  exact ⟨listed,creado_of_registrado held listed⟩

theorem mueve_censo {l : Paso} (held : Censo cfg s) (good : al_mover (en_su_lista cfg) l s.scheduler.sistema = true)
    (moved : mueve_scheduler cfg l s = some t) : Censo cfg t := by
  obtain ⟨a,resto,r,one,crosses⟩ := mueve_scheduler_cases moved
  have canal := mueve_canal held.canal one crosses
  have custodia := vigila_custodia held.custodia good one.vigila
  have move := one.avanza.move
  have top := cima_of_here one.avanza.here
  have kernel : t.scheduler.sistema.ks = r.ks := by rw [one.avanza.result]
  have counts := por_servir_mueve one crosses
  have before : t.scheduler.sistema.ks.bsod_activo = false → s.scheduler.sistema.ks.bsod_activo = false ∧ a ≠ .manejar_bsod := by
    intro outside
    rw [kernel] at outside
    exact mueve_bsod move outside
  have alive : ∀ p, t.scheduler.sistema.ks.bsod_activo = false →
      vivo r.ks p + nuevos (acaba p) r = vivo s.scheduler.sistema.ks p + nuevos (crea p) r := by
    intro p outside
    obtain ⟨calm,other⟩ := before outside
    have inherits : Hereda cfg s.scheduler.sistema.ks a := by
      intro cmn
      obtain ⟨desde,known⟩ := held.custodia.prioridades cmn
      exact ⟨desde,_,known.fijo,known.juego,every_here known.pendiente one.avanza.here⟩
    have good : en_su_lista cfg a l.entrada s.scheduler.sistema.ks = true := by simpa [al_mover,top] using good
    have born := fun q runs => (nacido_of_exec (p := q) held.custodia calm runs).2
    exact vivo_mueve move good inherits (held.custodia.known calm) born other p
  refine ⟨canal,custodia,?_,?_,?_,fun z listed => held.naturales z (crosses.memoria ▸ listed)⟩
  · intro outside p some
    have calm := (before outside).1
    rw [counts] at some
    by_cases old : 0 < por_servir (acaba p) s
    · exact registrados_mono one.vigila (held.acabado calm p old)
    · rcases nuevos_cases (mueve_encargo move) (acaba p) with none | ⟨q,origin,same⟩
      · omega
      · have running : p ∈ s.scheduler.sistema.ks.listas .lista_exec := by
          cases origin with
          | exit j p' runs | seg_fault j p' runs =>
            by_cases mine : p' = p
            · exact mine ▸ runs
            · simp only [acaba,if_neg mine] at same
              omega
          | _ =>
            simp only [acaba] at same
            omega
        exact registrados_mono one.vigila (nacido_of_exec held.custodia calm running).1
  · intro outside p
    have balance := held.cuenta (before outside).1 p
    have same := alive p outside
    rw [counts,counts,crosses.memoria,kernel]
    omega
  · intro outside p
    have once := held.una (before outside).1 p
    have same := alive p outside
    rw [counts,kernel]
    rcases nuevos_cases (mueve_encargo move) (crea p) with none | ⟨q,origin,adds⟩
    · omega
    · by_cases fresh : p = s.scheduler.sistema.ks.proximo_pid
      · have unborn : vivo s.scheduler.sistema.ks p = 0 := by simp [vivo,fresh]
        have unasked : por_servir (acaba p) s = 0 := by
          by_contra some
          have listed := List.count_pos_iff.mpr (held.acabado (before outside).1 p (by omega))
          have none := held.custodia.nuevos p (by omega)
          omega
        have one := crea_le p q
        omega
      · have none : crea p q = 0 := by
          cases origin <;> first | rfl | exact if_neg (Ne.symm fresh)
        omega

/-- The creation of a process that is asked to be forgotten has been served. -/
theorem creado_of_acabado (held : Censo cfg s) (outside : s.scheduler.sistema.ks.bsod_activo = false) (ends : 0 < por_servir (acaba p) s) :
    por_servir (crea p) s = 0 := by
  have listed := List.count_pos_iff.mpr (held.acabado outside p ends)
  have once := held.custodia.partos p
  have none : total (parto p) s.scheduler.sistema.hilos = 0 := by omega
  have asks : total (en_pedir (crea p)) s.scheduler.sistema.hilos ≤ total (parto p) s.scheduler.sistema.hilos := by
    refine total_mono (fun b => ?_) _
    cases b with
    | pedir q => cases q <;> simp [en_pedir,crea,parto,prenatal]
    | _ => simp [en_pedir]
  have sent : weight (Mensaje.peso (crea p)) s.pedidos = 0 := by
    refine weight_zero (fun b member => ?_)
    cases b with
    | confirmacion => rfl
    | pedido q =>
      have waits := held.canal.mio q member
      cases q with
      | crear_proceso q' c =>
        by_cases mine : q' = p
        · subst mine
          have less : total (espera (.crear_proceso q' c)) s.scheduler.sistema.hilos ≤ total (parto q') s.scheduler.sistema.hilos := by
            refine total_mono (fun b => ?_) _
            by_cases here : b = .recibir (.crear_proceso q' c)
            · simp [here,espera,parto,prenatal]
            · simp [espera,here]
          omega
        · simp [Mensaje.peso,crea,mine]
      | _ => rfl
  rw [por_servir,sent]
  omega

theorem atiende_censo (held : Censo cfg s) (same : t.scheduler = s.scheduler) (serves : Atiende orden x s t) : Censo cfg t := by
  refine ⟨atiende_canal held.canal same serves,same ▸ held.custodia,?_,?_,?_,?_⟩
  · intro outside p some
    obtain ⟨b,taken⟩ := serves.toma
    have counts := por_servir_toma same taken (acaba p)
    rw [same] at outside ⊢
    exact held.acabado outside p (by omega)
  · intro outside p
    rw [same] at outside ⊢
    have balance := held.cuenta outside p
    cases serves with
    | sirve q idle taken memoria answer avisos waits =>
      have births := por_servir_toma same taken (crea p)
      have deaths := por_servir_toma same taken (acaba p)
      rw [memoria,servir_pids]
      cases q with
      | crear_proceso q' c =>
        simp only [Mensaje.peso,crea,acaba] at births deaths
        simp only [List.count_append,List.count_cons,List.count_nil,beq_iff_eq,Nat.cast_inj]
        omega
      | finalizar_proceso q' c =>
        simp only [Mensaje.peso,crea,acaba] at births deaths
        rw [List.count_erase]
        by_cases mine : q' = p
        · subst mine
          rw [if_pos rfl] at deaths
          have created := creado_of_acabado held outside (p := q') (by omega)
          simp only [beq_self_eq_true,if_true]
          omega
        · rw [if_neg mine] at deaths
          have apart : ((q' : Int) == (p : Int)) = false := by simpa using mine
          rw [apart]
          simp only [Bool.false_eq_true,if_false]
          omega
      | _ =>
        simp only [Mensaje.peso,crea,acaba] at births deaths
        dsimp only
        omega
    | ignora idle taken kept =>
      simp only [Prod.mk.injEq] at kept
      have births := por_servir_toma same taken (crea p)
      have deaths := por_servir_toma same taken (acaba p)
      simp only [Mensaje.peso] at births deaths
      rw [kept.1]
      omega
    | compacta q waits taken memoria avisos kept done =>
      have births := por_servir_toma same taken (crea p)
      have deaths := por_servir_toma same taken (acaba p)
      simp only [Mensaje.peso] at births deaths
      rw [memoria,compactar_conserva.1]
      omega
  · intro outside p
    obtain ⟨b,taken⟩ := serves.toma
    have counts := por_servir_toma same taken (acaba p)
    rw [same] at outside ⊢
    have once := held.una outside p
    omega
  · intro z listed
    cases serves with
    | sirve q idle taken memoria answer avisos waits =>
      rw [memoria,servir_pids] at listed
      cases q with
      | crear_proceso q' c =>
        rcases List.mem_append.mp listed with old | new
        · exact held.naturales z old
        · rw [List.mem_singleton.mp new]
          exact Int.natCast_nonneg q'
      | finalizar_proceso q' c => exact held.naturales z (List.mem_of_mem_erase listed)
      | _ => exact held.naturales z listed
    | ignora idle taken kept =>
      simp only [Prod.mk.injEq] at kept
      exact held.naturales z (kept.1 ▸ listed)
    | compacta q waits taken memoria avisos kept done =>
      rw [memoria,compactar_conserva.1] at listed
      exact held.naturales z listed

/-- The process that a move takes off a list is there. -/
def EnSuLista (cfg : Config) : Turno → Sistema → Prop :=
  al_scheduler (fun l v => al_mover (en_su_lista cfg) l v.sistema = true)

instance : ∀ u s, Decidable (EnSuLista cfg u s) := fun u s => inferInstanceAs (Decidable (al_scheduler _ u s))

theorem paso_censo (u : Turno) (s t : Sistema) (held : Censo cfg s) (good : EnSuLista cfg u s) (moved : paso cfg orden u s = some t) :
    Censo cfg t := by
  cases u with
  | scheduler l => exact mueve_censo held good moved
  | memoria x =>
    obtain ⟨same,serves⟩ := atender_ks_cases moved
    exact atiende_censo held same serves
  | modulo e =>
    cases moved
    exact ⟨⟨held.canal.uno,held.canal.cerrojo,held.canal.mio⟩,held.custodia,held.acabado,
      fun outside p => by rw [(modulo_conserva e).1]; exact held.cuenta outside p,held.una,
      fun z listed => held.naturales z (by rwa [(modulo_conserva e).1] at listed)⟩

/-- In a run of both kernels in which the process that a move of the scheduler takes off a list is there, outside a BSOD
    Kernel Memory never has two contexts for a process, has contexts only for processes that have been created, and, but for the
    creations and ends that it has still to serve, has them for those that have not terminated. -/
theorem contexts_agree {segment_max_size : Int} {allocation_best_fit : Bool} {respuestas : Nat → Sticks.Respuesta}
    {turnos : List Turno} {s : Sistema}
    (guarded : Guarded (paso cfg orden) (EnSuLista cfg) turnos (Kernels.inicial segment_max_size allocation_best_fit respuestas))
    (reached : run (paso cfg orden) turnos (Kernels.inicial segment_max_size allocation_best_fit respuestas) = some s)
    (outside : s.scheduler.sistema.ks.bsod_activo = false) :
    (pids s.memoria).Nodup ∧ (∀ z ∈ pids s.memoria, ∃ p : Nat, z = p ∧ p < s.scheduler.sistema.ks.proximo_pid) ∧
      ∀ p : Nat, por_servir (crea p) s = 0 → por_servir (acaba p) s = 0 → ((p : Int) ∈ pids s.memoria ↔
        p < s.scheduler.sistema.ks.proximo_pid ∧ (s.scheduler.sistema.ks.procesos p).estado ≠ .EXIT_STATE) := by
  have held : Censo cfg s :=
    invariant_of_guarded paso_censo (inicial_censo segment_max_size allocation_best_fit respuestas) guarded reached
  refine ⟨List.nodup_iff_count_le_one.mpr (fun z => ?_),fun z listed => ⟨z.toNat,?_,?_⟩,fun p created ended => ?_⟩
  · by_cases listed : z ∈ pids s.memoria
    · have number : ((z.toNat : Nat) : Int) = z := Int.toNat_of_nonneg (held.naturales z listed)
      have balance := held.cuenta outside z.toNat
      have once := held.una outside z.toNat
      rw [number] at balance
      omega
    · rw [List.count_eq_zero.mpr listed]
      exact Nat.zero_le 1
  · exact (Int.toNat_of_nonneg (held.naturales z listed)).symm
  · have number : ((z.toNat : Nat) : Int) = z := Int.toNat_of_nonneg (held.naturales z listed)
    have balance := held.cuenta outside z.toNat
    have has := List.count_pos_iff.mpr listed
    rw [number] at balance
    by_cases ends : 0 < por_servir (acaba z.toNat) s
    · exact creado_of_registrado held.custodia (held.acabado outside z.toNat ends)
    · have alive : 0 < vivo s.scheduler.sistema.ks z.toNat := by omega
      unfold vivo at alive
      split_ifs at alive with born
      · exact born.1
      · cases alive
  · have balance := held.cuenta outside p
    rw [created,ended,Nat.add_zero,Nat.add_zero] at balance
    rw [← List.count_pos_iff,balance,vivo]
    split_ifs with alive
    · simpa using alive
    · simpa using alive

/-- Each request is served before its answer is read. -/
def con_memoria (pasos : List Paso) : List Turno :=
  pasos.flatMap (fun l => (if l.entrada.respuesta?.isSome then [.memoria {}] else []) ++ [.scheduler l])

theorem contexts_agree_siesta : ∃ s, run (paso fifo Sorting.insertion_sorter) (con_memoria siesta)
      (Kernels.inicial 64 true (fun _ => .responde)) = some s ∧ (pids s.memoria).Nodup ∧ (0 : Int) ∈ pids s.memoria := by
  have ends : (run (paso fifo Sorting.insertion_sorter) (con_memoria siesta) (Kernels.inicial 64 true (fun _ => .responde))).map
      (fun s => (s.scheduler.sistema.ks.bsod_activo,por_servir (crea 0) s,por_servir (acaba 0) s,s.scheduler.sistema.ks.proximo_pid,
        (s.scheduler.sistema.ks.procesos 0).estado)) = some (false,0,0,2,.BLOCK) := by decide +kernel
  obtain ⟨s,reached,ends⟩ := Option.map_eq_some_iff.mp ends
  simp only [Prod.mk.injEq] at ends
  obtain ⟨outside,created,ended,pids,blocked⟩ := ends
  obtain ⟨distinct,-,agree⟩ := contexts_agree (by decide +kernel) reached outside
  refine ⟨s,reached,distinct,(agree 0 created ended).mpr ⟨?_,?_⟩⟩
  · rw [pids]
    exact Nat.zero_lt_two
  · simp [blocked]

end PlugNPray.Census
