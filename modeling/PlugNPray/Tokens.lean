import PlugNPray.Priorities

/-!
The two counting semaphores of the planner against the lists that they stand for:
every token, wherever it is, has a process on a ready queue or a CPU on
lista_cpus_libres behind it.
-/
namespace PlugNPray.Tokens
open PlugNPray.Scheduler PlugNPray.Handlers PlugNPray.ReadyQueues PlugNPray.Moves PlugNPray.Stacks PlugNPray.References
open PlugNPray.Priorities PlugNPray.Runs

/-- The processes on the queues that the planner looks at. -/
def listos (cfg : Config) (listas : Cola → List Nat) : Nat := ((colas_de_ready cfg).map (fun c => (listas c).length)).sum

/-- The token of sem_hay_procesos_ready that an action is about to give or has taken. -/
def ficha_ready : Accion → Nat
  | .post_hay_procesos_ready | .esperar_cpu_libre | .esperar_permiso | .planificar | .liberar_cpu_de_quantum _ true => 1
  | _ => 0

/-- The same for sem_hay_cpus_libres. -/
def ficha_cpu : Accion → Nat
  | .post_hay_cpus_libres | .esperar_permiso | .planificar => 1
  | _ => 0

variable {cfg : Config} {f : Cola → List Nat} {s t : Ks} {p : Nat} {c : Cola}

/-! ## Counting ready processes -/

theorem colas_de_ready_nodup (cfg : Config) : (colas_de_ready cfg).Nodup := by
  unfold colas_de_ready
  split_ifs
  · exact List.Nodup.map (fun a b same => by cases same; rfl) List.nodup_range
  · simp

/-- A queue of the planner changed. -/
theorem listos_served (served : c ∈ colas_de_ready cfg) (l : List Nat) :
    listos cfg (Function.update f c l) + (f c).length = listos cfg f + l.length := by
  obtain ⟨pre,post,split⟩ := List.append_of_mem served
  have nodup := colas_de_ready_nodup cfg
  rw [split] at nodup
  have fresh := List.nodup_append.mp nodup
  have before : ∀ c' ∈ pre, c' ≠ c := fun c' member same => fresh.2.2 c' member c List.mem_cons_self same
  have after : ∀ c' ∈ post, c' ≠ c := fun c' member same => (List.nodup_cons.mp fresh.2.1).1 (same ▸ member)
  have unchanged : ∀ l' : List Cola, (∀ c' ∈ l', c' ≠ c) →
      l'.map (fun c' => (Function.update f c l c').length) = l'.map (fun c' => (f c').length) := by
    intro l' other
    refine List.map_congr_left (fun c' member => ?_)
    rw [Function.update_of_ne (other c' member)]
  simp only [listos,split,List.map_append,List.map_cons,List.sum_append,List.sum_cons,unchanged pre before,unchanged post after,
    Function.update_self]
  omega

/-- Another list changed. -/
theorem listos_other (other : c ∉ colas_de_ready cfg) (l : List Nat) : listos cfg (Function.update f c l) = listos cfg f := by
  unfold listos
  congr 1
  refine List.map_congr_left (fun c' member => ?_)
  rw [Function.update_of_ne (by rintro rfl; exact other member)]

section others
variable (l : List Nat)

@[simp] theorem listos_new : listos cfg (Function.update f .lista_new l) = listos cfg f :=
  listos_other (by unfold colas_de_ready; split_ifs <;> simp) l
@[simp] theorem listos_ready_invalida : listos cfg (Function.update f .lista_ready_invalida l) = listos cfg f :=
  listos_other (by unfold colas_de_ready; split_ifs <;> simp) l
@[simp] theorem listos_exec : listos cfg (Function.update f .lista_exec l) = listos cfg f :=
  listos_other (by unfold colas_de_ready; split_ifs <;> simp) l
@[simp] theorem listos_block : listos cfg (Function.update f .lista_block l) = listos cfg f :=
  listos_other (by unfold colas_de_ready; split_ifs <;> simp) l
@[simp] theorem listos_susp_ready : listos cfg (Function.update f .lista_susp_ready l) = listos cfg f :=
  listos_other (by unfold colas_de_ready; split_ifs <;> simp) l
@[simp] theorem listos_susp_block : listos cfg (Function.update f .lista_susp_block l) = listos cfg f :=
  listos_other (by unfold colas_de_ready; split_ifs <;> simp) l
end others

theorem destino_served {v : Int} (planned : destino cfg v ≠ .lista_ready_invalida) : destino cfg v ∈ colas_de_ready cfg := by
  unfold destino at planned ⊢
  unfold colas_de_ready
  split_ifs at planned ⊢ with cmn range
  · simp only [en_rango,Bool.and_eq_true,decide_eq_true_eq] at range
    exact List.mem_map.mpr ⟨_,List.mem_range.mpr (by omega),rfl⟩
  · exact absurd rfl planned
  · exact List.mem_singleton_self _

/-- What a process adds to the count when it is put on the list of its priority. -/
def cuenta (cfg : Config) (v : Int) : Nat := if destino cfg v = .lista_ready_invalida then 0 else 1

@[simp] theorem listos_agregar (v : Int) :
    listos cfg (Function.update f (destino cfg v) (f (destino cfg v) ++ [p])) = listos cfg f + cuenta cfg v := by
  unfold cuenta
  split_ifs with invalid
  · simp [invalid]
  · have count := listos_served (f := f) (destino_served invalid) (f (destino cfg v) ++ [p])
    rw [List.length_append,List.length_singleton] at count
    omega

theorem listos_al_frente {v : Int} (planned : destino cfg v ≠ .lista_ready_invalida) :
    listos cfg (Function.update f (destino cfg v) (p :: f (destino cfg v))) = listos cfg f + 1 := by
  have count := listos_served (f := f) (destino_served planned) (p :: f (destino cfg v))
  rw [List.length_cons] at count
  omega

/-- One occurrence less, at most. -/
theorem listos_quitar : listos cfg f ≤ listos cfg (Function.update f c ((f c).erase p)) + 1 := by
  by_cases served : c ∈ colas_de_ready cfg
  · have count := listos_served (f := f) served ((f c).erase p)
    have short := List.length_erase (a := p) (l := f c)
    split_ifs at short <;> omega
  · rw [listos_other served]
    omega

/-! ## The weights of what a move leaves to do -/

@[simp] theorem ficha_ready_anuncio (v : Int) : weight ficha_ready (anuncio cfg v) = cuenta cfg v := by
  unfold anuncio cuenta
  by_cases invalid : destino cfg v = .lista_ready_invalida <;> simp [si,invalid,ficha_ready]

theorem ficha_ready_desalojo {pila : Pila} (one : Desalojo pila) : weight ficha_ready pila = 0 := by
  rcases one with rfl | ⟨k,q,rfl⟩ <;> simp [ficha_ready]

theorem herencia_listos {espera : List Nat} {r : Ks × Pila} (what : Herencia cfg p espera s r)
    (range : cfg.cmn = true → ∀ v, Candidata s espera v → en_rango cfg v = true) :
    r.1.sem_hay_procesos_ready = s.sem_hay_procesos_ready ∧ weight ficha_ready r.2 = 0 ∧ listos cfg s.listas ≤ listos cfg r.1.listas := by
  cases what with
  | nada => exact ⟨rfl,rfl,le_rfl⟩
  | cambia => exact ⟨rfl,rfl,le_rfl⟩
  | muda v cmn low waiter ready desaloja one =>
    have planned : cuenta cfg v = 1 := by simp [cuenta,destino,cmn,range cmn v waiter]
    refine ⟨?_,ficha_ready_desalojo one,?_⟩
    · split_ifs <;> rfl
    · split_ifs
      · have less := @listos_quitar cfg s.listas p (.colas_ready (s.procesos p).prioridad.toNat)
        simp only [Ks.agregar,Ks.con_prioridad,Ks.quitar,listos_agregar]
        omega
      · simp only [Ks.agregar,Ks.con_prioridad,listos_agregar]
        omega

theorem despierta_listos {hora : Nat} {r : Ks × Pila} (what : Despierta cfg hora p s r) :
    r.1.sem_hay_procesos_ready + weight ficha_ready r.2 + listos cfg s.listas = s.sem_hay_procesos_ready + listos cfg r.1.listas := by
  cases what with
  | block blocked n posts =>
    subst posts
    simp [cuenta]
    omega
  | desaloja blocked k q planned =>
    simp [cuenta,planned,ficha_ready]
    omega
  | susp_block suspended => simp [mover_a_susp_ready]
  | inesperado other other' => simp

/-- With multilevel queues the processes that wait have the number of a queue. -/
def EnRango (cfg : Config) (desde : Nat → Int) (n : Nat) (s : Ks) : Prop :=
  cfg.cmn = true → Fijo cfg desde n s ∧ EnJuego (Apto cfg desde n) s

variable {desde : Nat → Int} {n : Nat}

/-- The loop over the mutexes of a dead process announces no more processes than it puts on a queue. -/
theorem bucle_listos (hora pid : Nat) (s₀ : Ks) :
    Bucle cfg hora pid
      (fun s => s.sem_hay_procesos_ready + listos cfg s₀.listas ≤ s₀.sem_hay_procesos_ready + listos cfg s.listas ∧ EnRango cfg desde n s)
      (fun s pila => s.sem_hay_procesos_ready + weight ficha_ready pila + listos cfg s₀.listas ≤
        s₀.sem_hay_procesos_ready + listos cfg s.listas) where
  acaba s held := by simpa using held.1
  suelta s i m held here owned empty :=
    ⟨held.1,fun cmn => (Fijo.bucle hora pid).suelta s i m (held.2 cmn) here owned empty⟩
  pausa s i m siguiente espera held here owned queue quiet := by
    obtain ⟨sem,silent,more⟩ := herencia_listos (heredar_mutex_cases cfg i siguiente espera s)
      (fun cmn v what => (held.2 cmn).1.candidata what (fun q member => (held.2 cmn).2.espera m (List.mem_of_getElem? here) q
        (queue ▸ List.mem_cons_of_mem siguiente member)))
    have before := held.1
    simp only [weight_append,weight_cons,weight_nil,silent,ficha_ready,sem,Ks.con_mutex_sem_hay_procesos_ready,
      Ks.listas_con_mutex] at more ⊢
    omega
  sigue s i m siguiente espera r held here owned queue quiet what := by
    obtain ⟨sem,silent,more⟩ := herencia_listos (heredar_mutex_cases cfg i siguiente espera s)
      (fun cmn v what => (held.2 cmn).1.candidata what (fun q member => (held.2 cmn).2.espera m (List.mem_of_getElem? here) q
        (queue ▸ List.mem_cons_of_mem siguiente member)))
    have woken := despierta_listos what
    have before := held.1
    simp only [Ks.con_mutex_sem_hay_procesos_ready,Ks.listas_con_mutex] at sem more
    refine ⟨fun empty => ⟨?_,fun cmn => ?_⟩,fun _ => ?_⟩
    · rw [empty,weight_nil] at woken
      omega
    · exact ((Fijo.bucle hora pid).sigue s i m siguiente espera r (held.2 cmn) here owned queue quiet what).1 empty
    · simp only [weight_append,weight_cons,weight_nil,ficha_ready]
      omega

theorem liberar_listos (range : EnRango cfg desde n s) (hora pid i : Nat) :
    (liberar_mutex_del_proceso cfg hora pid i s).1.sem_hay_procesos_ready +
        weight ficha_ready (liberar_mutex_del_proceso cfg hora pid i s).2 + listos cfg s.listas ≤
      s.sem_hay_procesos_ready + listos cfg (liberar_mutex_del_proceso cfg hora pid i s).1.listas :=
  liberar_mutex_del_proceso_rule (bucle_listos hora pid s) i ⟨le_rfl,range⟩

theorem devolucion_listos (what : Devolucion p s t) :
    t.sem_hay_procesos_ready = s.sem_hay_procesos_ready ∧ t.listas = s.listas := by
  cases what <;> exact ⟨rfl,rfl⟩

/-- The priority that the next owner may inherit. -/
theorem unlock_en_rango {j siguiente : Nat} {espera : List Nat} {nombre : String} {m : Mutex} {v : Int}
    (range : Fijo cfg desde n s ∧ EnJuego (Apto cfg desde n) s) (found : buscar_mutex s nombre = some (j,m))
    (queue : m.cola_espera = siguiente :: espera)
    (what : Devolucion p (s.con_mutex j (fun m => { m with pid_dueno := some siguiente, cola_espera := espera })) t)
    (own : Apto cfg desde n p) (waiter : Candidata t espera v) : en_rango cfg v = true := by
  have rest : ∀ q ∈ espera, Apto cfg desde n q := fun q member =>
    range.2.espera m (mem_of_buscar found) q (queue ▸ List.mem_cons_of_mem siguiente member)
  have taken := range.1.mismas (t := s.con_mutex j (fun m => { m with pid_dueno := some siguiente, cola_espera := espera })) rfl
    (fun q => ⟨rfl,rfl⟩)
  exact (taken.devolucion what own (range.2.con_mutex (fun _ _ => rest))).candidata waiter rest

theorem interrupciones_weight {g : Accion → Nat} (free : ∀ k q, g (.enviar_interrumpir k q) = 0) (s : Ks) :
    weight g (interrupciones s) = 0 := by
  unfold interrupciones
  induction s.listas .lista_exec with
  | nil => rfl
  | cons q rest ih => simp [free,ih]

/-- A move gives or takes tokens of sem_hay_procesos_ready as it fills or empties the ready queues. -/
theorem mueve_ready {hora : Nat} {a : Accion} {r : Efecto} (move : Mueve cfg hora s a r) (outside : a ≠ .manejar_bsod)
    (range : EnRango cfg desde n s) (named : cfg.cmn = true → Tiene (Apto cfg desde n) a) :
    r.ks.sem_hay_procesos_ready + weight ficha_ready r.sigue + total ficha_ready r.lanza + listos cfg s.listas ≤
      s.sem_hay_procesos_ready + ficha_ready a + listos cfg r.ks.listas := by
  cases move with
  | recibir q v =>
    have nothing : weight ficha_ready (tras_respuesta q v) = 0 := by
      cases q with
      | crear_proceso p k => cases k <;> cases v <;> simp [tras_respuesta,ficha_ready]
      | _ => cases v <;> simp [tras_respuesta,ficha_ready]
    simp [nothing,ficha_ready]
  | mover_proceso_a_ready p desaloja one | mover_proceso_de_block_a_ready p desaloja one | sacar_de_susp_ready p i desaloja one =>
    simp [pasa_a_ready,ficha_ready_desalojo one,ficha_ready]
    omega
  | planificador_corto_plazo m token =>
    simp [ficha_ready]
    omega
  | planificar c p k cola libres served first free timer =>
    have count := listos_served (f := s.listas) served cola
    rw [first,List.length_cons] at count
    simp [ficha_ready]
    omega
  | planificar_timer c p k cola libres served first free timer =>
    have count := listos_served (f := s.listas) served cola
    rw [first,List.length_cons] at count
    simp [ficha_ready]
    omega
  | desconectar_ociosa k idle =>
    have same : (quitar_cpu_libre k s).listas = s.listas ∧ (quitar_cpu_libre k s).sem_hay_procesos_ready = s.sem_hay_procesos_ready := by
      unfold quitar_cpu_libre
      split_ifs <;> exact ⟨rfl,rfl⟩
    simp [same,ficha_ready]
  | desconectar_ocupada k p busy desaloja one =>
    have same : (quitar_cpu_libre k s).listas = s.listas ∧ (quitar_cpu_libre k s).sem_hay_procesos_ready = s.sem_hay_procesos_ready := by
      unfold quitar_cpu_libre
      split_ifs <;> exact ⟨rfl,rfl⟩
    simp [same,ficha_ready_desalojo one,ficha_ready]
    omega
  | liberar_mutex_del_proceso pid i => simpa [ficha_ready] using liberar_listos range hora pid i
  | ceder_mutex pid i p r what silent =>
    have woken := despierta_listos what
    have range' : EnRango cfg desde n r.1 := fun cmn =>
      ⟨(range cmn).1.despierta what,(despertar_juego what (range cmn).2 (named cmn p (by simp [en_mano]))).1⟩
    have rest := liberar_listos range' hora pid (i + 1)
    rw [silent,weight_nil] at woken
    simp only [total_nil,ficha_ready]
    omega
  | ceder_mutex_pausa pid i p r what pausa =>
    have woken := despierta_listos what
    simp [ficha_ready]
    omega
  | manejar_fin_quantum k p running normal desaloja one =>
    have weight_cpu : ficha_ready (.liberar_cpu_de_quantum (s.procesos p).cpu
        (decide (destino cfg (s.procesos p).prioridad ≠ .lista_ready_invalida))) = cuenta cfg (s.procesos p).prioridad := by
      by_cases invalid : destino cfg (s.procesos p).prioridad = .lista_ready_invalida <;> simp [ficha_ready,cuenta,invalid]
    simp only [weight_append,weight_cons,weight_nil,weight_cpu,ficha_ready_desalojo one]
    simp [ficha_ready]
    omega
  | fin_quantum_al_frente k p running moving valid =>
    have count := listos_al_frente (p := p) (f := Function.update s.listas .lista_exec ((s.listas .lista_exec).erase p)) valid
    simp [ficha_ready] at count ⊢
    omega
  | liberar_cpu_de_quantum k planificable => cases planificable <;> simp [si,ficha_ready]
  | lock_espera p k j pid nombre m r found taken what =>
    rcases what with rfl | ⟨cmn,owner,inherits⟩
    · simp [ficha_ready]
    · obtain ⟨sem,silent,more⟩ := herencia_listos inherits (fun cmn v what => by
        obtain ⟨q,member,rfl⟩ := what
        have apt : Apto cfg desde n q := by
          rcases List.mem_append.mp member with old | new
          · exact (range cmn).2.espera m (mem_of_buscar found) q old
          · exact List.mem_singleton.mp new ▸ named cmn p (by simp [en_mano])
        exact ((range cmn).1.igual q).trans apt.2)
      simp only [Ks.listas_con_mutex,Ks.con_mutex_sem_hay_procesos_ready] at sem more
      simp [silent,sem,ficha_ready]
      omega
  | unlock_sin_espera p k j nombre m t found empty what => cases what <;> simp [ficha_ready]
  | unlock_cede p k j siguiente espera nombre m t r found queue what d inherits silent wakes =>
    obtain ⟨sem,quiet,more⟩ := herencia_listos inherits (fun cmn v cand => unlock_en_rango (range cmn) found queue what (named cmn p (by simp [en_mano])) cand)
    obtain ⟨sem',lists'⟩ := devolucion_listos what
    simp only [Ks.listas_con_mutex,Ks.con_mutex_sem_hay_procesos_ready] at sem' lists'
    have done : d.ks.sem_hay_procesos_ready = r.1.sem_hay_procesos_ready ∧ d.ks.listas = r.1.listas ∧ weight ficha_ready d.sigue = 0 := by
      cases wakes <;> simp [ficha_ready]
    simp [done,sem,sem',lists',ficha_ready] at more ⊢
    omega
  | unlock_pausa p k j siguiente espera nombre m t r found queue what inherits pausa =>
    obtain ⟨sem,quiet,more⟩ := herencia_listos inherits (fun cmn v cand => unlock_en_rango (range cmn) found queue what (named cmn p (by simp [en_mano])) cand)
    obtain ⟨sem',lists'⟩ := devolucion_listos what
    simp only [Ks.listas_con_mutex,Ks.con_mutex_sem_hay_procesos_ready] at sem' lists'
    simp [quiet,sem,sem',lists',ficha_ready] at more ⊢
    omega
  | despertar_siguiente p d wakes => cases wakes <;> simp [ficha_ready]
  | desalojar_todas_las_cpus busy => simp [interrupciones_weight (g := ficha_ready) (fun _ _ => rfl),ficha_ready]
  | manejar_bsod busy => exact absurd rfl outside
  | tomar_pedido_io t d p cola queue => cases t <;> simp [ejecutar_io,ficha_ready]
  | intentar_dessuspender_procesos => simp [intentar_dessuspender_procesos,ficha_ready]
  | _ => simp [ficha_ready,crear_proceso,bloquear_proceso,verificar_fin_bsod,bloquear_por_compactacion,mover_a_susp_ready,encolar_pedido_io]

/-! ## Free CPUs -/

theorem ficha_cpu_de_bucle {pila : Pila} (loop : ∀ b ∈ pila, de_bucle b = true) : weight ficha_cpu pila = 0 :=
  weight_zero (fun b member => by
    have mine := loop b member
    cases b <;> simp_all [de_bucle,ficha_cpu])

theorem ficha_cpu_desalojo {pila : Pila} (one : Desalojo pila) : weight ficha_cpu pila = 0 :=
  ficha_cpu_de_bucle (desalojo_de_bucle one)

@[simp] theorem ficha_cpu_anuncio (v : Int) : weight ficha_cpu (anuncio cfg v) = 0 := by
  unfold anuncio
  cases decide (destino cfg v ≠ .lista_ready_invalida) <;> simp [si,ficha_cpu]

/-- The semaphore of free CPUs and their list. -/
def cpus (s : Ks) : Nat × List (Option Nat) := (s.sem_hay_cpus_libres,s.lista_cpus_libres)

theorem cpus_ajena : Ajena cpus := fun _ _ _ _ _ => rfl

/-- A move gives or takes tokens of sem_hay_cpus_libres as it fills or empties the list, unless a CPU leaves the
    list when there is no token to go with it. -/
theorem mueve_cpus {hora : Nat} {a : Accion} {r : Efecto} (move : Mueve cfg hora s a r)
    (counted : ∀ k, a = .desconectar_cpu k → some k ∈ s.lista_cpus_libres → 0 < s.sem_hay_cpus_libres) :
    r.ks.sem_hay_cpus_libres + weight ficha_cpu r.sigue + total ficha_cpu r.lanza + s.lista_cpus_libres.length ≤
      s.sem_hay_cpus_libres + ficha_cpu a + r.ks.lista_cpus_libres.length := by
  have quiet : cpus r.ks = cpus s → weight ficha_cpu r.sigue = 0 → total ficha_cpu r.lanza = 0 →
      r.ks.sem_hay_cpus_libres + weight ficha_cpu r.sigue + total ficha_cpu r.lanza + s.lista_cpus_libres.length ≤
        s.sem_hay_cpus_libres + ficha_cpu a + r.ks.lista_cpus_libres.length := by
    intro same none none'
    obtain ⟨sem,list⟩ := Prod.mk.inj same
    rw [sem,list,none,none']
    omega
  have unplugged : ∀ k, (some k ∈ s.lista_cpus_libres → 0 < s.sem_hay_cpus_libres) →
      (quitar_cpu_libre k s).sem_hay_cpus_libres + s.lista_cpus_libres.length ≤
        s.sem_hay_cpus_libres + (quitar_cpu_libre k s).lista_cpus_libres.length := by
    intro k token
    unfold quitar_cpu_libre
    split_ifs with listed
    · have short := List.length_erase_of_mem listed
      have some_left := List.length_pos_of_mem listed
      have ready := token listed
      dsimp only
      omega
    · omega
  cases move with
  | recibir q v =>
    refine quiet rfl ?_ rfl
    cases q with
    | crear_proceso p k => cases k <;> cases v <;> simp [tras_respuesta,ficha_cpu]
    | _ => cases v <;> simp [tras_respuesta,ficha_cpu]
  | mover_proceso_a_ready p desaloja one | mover_proceso_de_block_a_ready p desaloja one | sacar_de_susp_ready p i desaloja one =>
    exact quiet rfl (by simp [ficha_cpu_desalojo one,ficha_cpu]) rfl
  | esperar_cpu_libre m token =>
    simp [ficha_cpu]
    omega
  | planificar c p k cola libres served first free timer | planificar_timer c p k cola libres served first free timer =>
    simp [ficha_cpu,free]
    omega
  | desconectar_ociosa k idle => simpa [ficha_cpu] using unplugged k (counted k rfl)
  | desconectar_ocupada k p busy desaloja one =>
    simpa [ficha_cpu,ficha_cpu_desalojo one] using unplugged k (counted k rfl)
  | liberar_mutex_del_proceso pid i =>
    exact quiet (liberar_ajena cpus_ajena cfg hora pid i s) (ficha_cpu_de_bucle (liberar_pila cfg hora pid i s)) rfl
  | ceder_mutex pid i p r what silent =>
    exact quiet ((liberar_ajena cpus_ajena cfg hora pid (i + 1) r.1).trans (despierta_ajena cpus_ajena what))
      (ficha_cpu_de_bucle (liberar_pila cfg hora pid (i + 1) r.1)) rfl
  | ceder_mutex_pausa pid i p r what pausa =>
    exact quiet (despierta_ajena cpus_ajena what) (by simp [ficha_cpu_de_bucle (despierta_pila what),ficha_cpu]) rfl
  | manejar_fin_quantum k p running normal desaloja one => exact quiet rfl (by simp [ficha_cpu_desalojo one,ficha_cpu]) rfl
  | liberar_cpu_de_quantum k planificable =>
    cases planificable <;> simp [si,ficha_cpu] <;> omega
  | lock_espera p k j pid nombre m r found taken what =>
    rcases what with rfl | ⟨cmn,owner,inherits⟩
    · exact quiet rfl (by simp [ficha_cpu]) rfl
    · exact quiet ((herencia_ajena cpus_ajena inherits).trans rfl) (by simp [ficha_cpu_desalojo (herencia_pila inherits),ficha_cpu]) rfl
  | unlock_sin_espera p k j nombre m t found empty what =>
    exact quiet ((devolucion_ajena cpus_ajena what).trans rfl) (by simp [ficha_cpu]) rfl
  | unlock_cede p k j siguiente espera nombre m t r found queue what d inherits silent wakes =>
    have same : cpus r.1 = cpus s := (herencia_ajena cpus_ajena inherits).trans ((devolucion_ajena cpus_ajena what).trans rfl)
    cases wakes <;> exact quiet same (by simp [ficha_cpu]) rfl
  | unlock_pausa p k j siguiente espera nombre m t r found queue what inherits pausa =>
    exact quiet ((herencia_ajena cpus_ajena inherits).trans ((devolucion_ajena cpus_ajena what).trans rfl))
      (by simp [ficha_cpu_desalojo (herencia_pila inherits),ficha_cpu]) rfl
  | despertar_siguiente p d wakes => cases wakes <;> exact quiet rfl (by simp [ficha_cpu]) rfl
  | desalojar_todas_las_cpus busy =>
    exact quiet rfl (by simp [interrupciones_weight (g := ficha_cpu) (fun _ _ => rfl),ficha_cpu]) rfl
  | manejar_bsod busy =>
    exact quiet rfl (by simp [interrupciones_weight (g := ficha_cpu) (fun _ _ => rfl),ficha_cpu]) rfl
  | tomar_pedido_io t d p cola queue => exact quiet rfl (by cases t <;> simp [ejecutar_io,ficha_cpu]) rfl
  | intentar_dessuspender_procesos => exact quiet rfl (by simp [ficha_cpu]) rfl
  | _ =>
    simp [ficha_cpu,crear_proceso,bloquear_proceso,verificar_fin_bsod,bloquear_por_compactacion,mover_a_susp_ready,encolar_pedido_io]
    try omega

/-- The list has no NULL as long as none is put on it. -/
theorem mueve_sin_null {hora : Nat} {a : Accion} {r : Efecto} (move : Mueve cfg hora s a r) (given : a ≠ .agregar_cpu none)
    (given' : ∀ b, a ≠ .liberar_cpu_de_quantum none b) (clean : none ∉ s.lista_cpus_libres) : none ∉ r.ks.lista_cpus_libres := by
  have far : Ajena Ks.lista_cpus_libres := fun _ _ _ _ _ => rfl
  have keeps : r.ks.lista_cpus_libres = s.lista_cpus_libres → none ∉ r.ks.lista_cpus_libres := fun same => same ▸ clean
  have unplugged : ∀ k, none ∉ (quitar_cpu_libre k s).lista_cpus_libres := by
    intro k
    unfold quitar_cpu_libre
    split_ifs with listed
    · exact fun member => clean (List.mem_of_mem_erase member)
    · exact clean
  cases move with
  | planificar c p k cola libres served first free timer | planificar_timer c p k cola libres served first free timer =>
    rw [free] at clean
    exact fun member => clean (List.mem_cons_of_mem _ member)
  | desconectar_ociosa k idle | desconectar_ocupada k p busy desaloja one => exact unplugged k
  | liberar_mutex_del_proceso pid i => exact keeps (liberar_ajena far cfg hora pid i s)
  | ceder_mutex pid i p r what silent =>
    exact keeps ((liberar_ajena far cfg hora pid (i + 1) r.1).trans (despierta_ajena far what))
  | ceder_mutex_pausa pid i p r what pausa => exact keeps (despierta_ajena far what)
  | agregar_cpu k =>
    intro member
    rcases List.mem_append.mp member with old | new
    · exact clean old
    · exact given (List.mem_singleton.mp new ▸ rfl)
  | liberar_cpu_de_quantum k planificable =>
    intro member
    rcases List.mem_append.mp member with old | new
    · exact clean old
    · exact given' planificable (List.mem_singleton.mp new ▸ rfl)
  | lock_espera p k j pid nombre m r found taken what =>
    rcases what with rfl | ⟨cmn,owner,inherits⟩
    · exact keeps rfl
    · exact keeps ((herencia_ajena far inherits).trans rfl)
  | unlock_sin_espera p k j nombre m t found empty what => exact keeps ((devolucion_ajena far what).trans rfl)
  | unlock_cede p k j siguiente espera nombre m t r found queue what d inherits silent wakes =>
    have same : r.1.lista_cpus_libres = s.lista_cpus_libres := (herencia_ajena far inherits).trans ((devolucion_ajena far what).trans rfl)
    cases wakes <;> exact keeps same
  | unlock_pausa p k j siguiente espera nombre m t r found queue what inherits pausa =>
    exact keeps ((herencia_ajena far inherits).trans ((devolucion_ajena far what).trans rfl))
  | despertar_siguiente p d wakes => cases wakes <;> exact keeps rfl
  | _ => exact keeps rfl

/-! ## Runs -/

/-- A CPU that goes while it is free takes a token with it. -/
def cpu_contada (l : Paso) (s : Planificador) : Bool :=
  match s.hilos[l.hilo]? with
  | some (.desconectar_cpu k :: _) => !s.ks.lista_cpus_libres.contains (some k) || decide (0 < s.ks.sem_hay_cpus_libres)
  | _ => true

/-- Whoever gives a CPU back has one. -/
def cpu_devuelta (l : Paso) (s : Planificador) : Bool :=
  match s.hilos[l.hilo]? with
  | some (.agregar_cpu none :: _) | some (.liberar_cpu_de_quantum none _ :: _) => false
  | _ => true

structure Fichas (cfg : Config) (s : Planificador) : Prop where
  prioridades : cfg.cmn = true → ∃ desde, Prioridades cfg desde s
  ready : s.ks.bsod_activo = false → s.ks.sem_hay_procesos_ready + total ficha_ready s.hilos ≤ listos cfg s.ks.listas
  cpus : s.ks.sem_hay_cpus_libres + total ficha_cpu s.hilos ≤ s.ks.lista_cpus_libres.length

theorem inicial_fichas (cfg : Config) : Fichas cfg inicial where
  prioridades _ := ⟨_,inicial_prioridades cfg⟩
  ready _ := by simp [inicial,ficha_ready]
  cpus := by simp [inicial,ficha_cpu]

theorem paso_fichas {l : Paso} {s t : Planificador} (held : Fichas cfg s) (counted : cpu_contada l s = true) (moved : paso cfg l s = some t) :
    Fichas cfg t := by
  have prioridades : cfg.cmn = true → ∃ desde, Prioridades cfg desde t := fun cmn =>
    (held.prioridades cmn).elim (fun _ known => paso_prioridades cmn known moved)
  obtain ⟨a,resto,r,here,alive,effect,move,rfl⟩ := paso_avanza moved
  refine ⟨prioridades,fun outside => ?_,?_⟩
  · obtain ⟨before,other⟩ := mueve_bsod move outside
    have sum := total_advance ficha_ready here r.sigue r.lanza
    have enough := held.ready before
    have one : r.ks.sem_hay_procesos_ready + weight ficha_ready r.sigue + total ficha_ready r.lanza + listos cfg s.ks.listas ≤
        s.ks.sem_hay_procesos_ready + ficha_ready a + listos cfg r.ks.listas := by
      by_cases cmn : cfg.cmn = true
      · obtain ⟨desde,known⟩ := held.prioridades cmn
        exact mueve_ready move other (fun _ => ⟨known.fijo,known.juego⟩) (fun _ => every_here known.pendiente here)
      · exact @mueve_ready cfg _ (fun _ => 0) 0 _ _ _ move other (fun yes => absurd yes cmn) (fun yes => absurd yes cmn)
    dsimp only
    omega
  · have sum := total_advance ficha_cpu here r.sigue r.lanza
    have enough := held.cpus
    have one := mueve_cpus move (fun k same listed => by
      subst same
      simpa [cpu_contada,here,listed] using counted)
    dsimp only
    omega

theorem paso_sin_null {l : Paso} {s t : Planificador} (clean : none ∉ s.ks.lista_cpus_libres) (given : cpu_devuelta l s = true)
    (moved : paso cfg l s = some t) : none ∉ t.ks.lista_cpus_libres := by
  obtain ⟨a,resto,r,here,alive,effect,move,rfl⟩ := paso_avanza moved
  refine mueve_sin_null move ?_ (fun b => ?_) clean <;>
  · rintro rfl
    simp [cpu_devuelta,here] at given

/-- Whenever the planner is about to enter its critical section, outside a BSOD, a process is ready and lista_cpus_libres is not
    empty; if no handler has put a NULL on it, the first there is a CPU. -/
theorem planner_finds_both {labels : List Paso} {s : Planificador}
    (guarded : Guarded (paso cfg) (fun l s => cpu_contada l s = true) labels inicial)
    (reached : run (paso cfg) labels inicial = some s) {i : Nat} {resto : Pila} (here : s.hilos[i]? = some (.planificar :: resto))
    (outside : s.ks.bsod_activo = false) :
    (∃ c ∈ colas_de_ready cfg, s.ks.listas c ≠ []) ∧ s.ks.lista_cpus_libres ≠ [] ∧
      (Guarded (paso cfg) (fun l s => cpu_devuelta l s = true) labels inicial →
        ∃ k libres, s.ks.lista_cpus_libres = some k :: libres) := by
  have held : Fichas cfg s :=
    invariant_of_guarded (fun _ _ _ held counted moved => paso_fichas held counted moved) (inicial_fichas cfg) guarded reached
  have free : s.ks.lista_cpus_libres ≠ [] := by
    have cpus := held.cpus
    have one : 1 ≤ total ficha_cpu s.hilos := item_le_total ficha_cpu here
    intro none
    rw [none,List.length_nil] at cpus
    omega
  refine ⟨?_,free,fun given => ?_⟩
  · have ready := held.ready outside
    have one : 1 ≤ total ficha_ready s.hilos := item_le_total ficha_ready here
    by_contra none
    push Not at none
    have empty : listos cfg s.ks.listas = 0 := by
      refine List.sum_eq_zero (fun x member => ?_)
      obtain ⟨c,served,rfl⟩ := List.mem_map.mp member
      rw [none c served]
      rfl
    omega
  · have clean : none ∉ s.ks.lista_cpus_libres :=
      @invariant_of_guarded _ _ _ _ (fun s => none ∉ s.ks.lista_cpus_libres)
        (fun _ _ _ clean given moved => paso_sin_null clean given moved) _ _ _ (by simp [inicial]) given reached
    cases list : s.ks.lista_cpus_libres with
    | nil => exact absurd list free
    | cons first libres =>
      cases first with
      | none => exact absurd (list ▸ List.mem_cons_self) clean
      | some k => exact ⟨k,libres,rfl⟩

/-- A CPU connects, and the planner takes its three tokens. -/
def una_cpu : List Paso := arranque ++ [{ hilo := 0, entrada := .cliente_cpu },{ hilo := 3 },{ hilo := 3 },{ hilo := 1 },{ hilo := 1 },
  { hilo := 1 }]

theorem planner_finds_both_una_cpu : ∃ s resto, run (paso fifo) una_cpu inicial = some s ∧
    s.hilos[1]? = some (.planificar :: resto) ∧ (∃ c ∈ colas_de_ready fifo, s.ks.listas c ≠ []) ∧
    ∃ k libres, s.ks.lista_cpus_libres = some k :: libres := by
  have ends : (run (paso fifo) una_cpu inicial).map (fun s => (s.hilos[1]?,s.ks.bsod_activo)) = some (some [.planificar],false) := by
    decide
  obtain ⟨s,reached,ends⟩ := Option.map_eq_some_iff.mp ends
  obtain ⟨here,outside⟩ := Prod.mk.inj ends
  obtain ⟨ready,_,first⟩ := planner_finds_both (by decide) reached here outside
  exact ⟨s,[],reached,here,ready,first (by decide)⟩

/-- The same, and the CPU goes before the planner enters its critical section: there is no token left to take. -/
def cpu_que_se_va : List Paso := una_cpu ++ [{ hilo := 3, entrada := .corte },{ hilo := 3 }]

theorem planner_finds_no_cpu : ∃ s resto, run (paso fifo) cpu_que_se_va inicial = some s ∧
    s.hilos[1]? = some (.planificar :: resto) ∧ s.ks.bsod_activo = false ∧ s.ks.lista_cpus_libres = [] := by
  have ends : (run (paso fifo) cpu_que_se_va inicial).map (fun s => (s.hilos[1]?,s.ks.bsod_activo,s.ks.lista_cpus_libres)) =
      some (some [.planificar],false,[]) := by decide
  obtain ⟨s,reached,ends⟩ := Option.map_eq_some_iff.mp ends
  obtain ⟨here,ends⟩ := Prod.mk.inj ends
  obtain ⟨outside,empty⟩ := Prod.mk.inj ends
  exact ⟨s,[],reached,here,outside,empty⟩

end PlugNPray.Tokens
