import PlugNPray.IoRequests

/-!
The quantum timers and the dispatches that armed them: which moves of the scheduler leave
the timer of a process alone while they take the process off its CPU.
-/
namespace PlugNPray.QuantumTimers
open PlugNPray.Scheduler PlugNPray.Handlers PlugNPray.ReadyQueues PlugNPray.Moves PlugNPray.Stacks PlugNPray.Runs

/-! ## What is seen of a run -/

/-- The queue and the process that the move dispatches. -/
def despachado (cfg : Config) (a : Accion) (s : Ks) : Option (Cola × Nat) :=
  match a with
  | .planificar => obtener_proximo_proceso_ready cfg s
  | _ => none

structure Vigilado where
  sistema : Planificador
  /-- The timer that the planner armed when it last dispatched the process, if the process has not left EXEC since. -/
  seguido : Nat → Option Nat

def seguir (cfg : Config) (a : Accion) (s t : Ks) (seguido : Nat → Option Nat) (p : Nat) : Option Nat :=
  if (t.procesos p).estado ≠ .EXEC then none
  else
    match despachado cfg a s with
    | some (c,q) => if p = q then (if necesita_timer cfg c then some s.proximo_timer else none) else seguido p
    | none => seguido p

def vigila (cfg : Config) (l : Paso) (v : Vigilado) : Option Vigilado :=
  (paso cfg l v.sistema).map (fun t =>
    ⟨t,match cima v.sistema l.hilo with
      | some a => seguir cfg a v.sistema.ks t.ks v.seguido
      | none => v.seguido⟩)

def inicio : Vigilado := ⟨inicial,fun _ => none⟩

/-- A quantum that ends in time for its process ends the stay in EXEC that it was armed for, on its CPU. -/
def Oportuno (cfg : Config) (l : Paso) (v : Vigilado) : Prop :=
  ∀ t k p, cima v.sistema l.hilo = some (.hilo_quantum t k p) → buscar_proceso_por_pid cfg v.sistema.ks p = some p →
    (v.sistema.ks.procesos p).timer = some t →
    (v.sistema.ks.procesos p).estado = .EXEC ∧ (v.sistema.ks.procesos p).cpu = some k ∧ v.seguido p = some t

/-! ## The moves that leave a timer alone -/

/-- The process that the move takes to another state or another CPU without a look at its timer. -/
def traslada (a : Accion) (s : Ks) : Option Nat :=
  match a with
  | .bloquear_por_compactacion p | .mover_proceso_a_ready p | .mover_proceso_de_block_a_ready p | .mover_a_susp_ready p
  | .sacar_de_susp_ready p _ => some p
  | .fin_compactacion => s.proceso_esperando_memoria
  | _ => none

def deja_timer (cfg : Config) (a : Accion) (e : Entrada) (s : Ks) : Option Nat :=
  match a with
  | .manejar_fin_quantum _ => e.pid?.bind (buscar_proceso_en_exec s)
  | .planificar => (obtener_proximo_proceso_ready cfg s).bind (fun x => if necesita_timer cfg x.1 then none else some x.2)
  | a => traslada a s

/-- Such a move finds the process outside EXEC, or without a timer. -/
def sin_timer_vivo (cfg : Config) (a : Accion) (e : Entrada) (s : Ks) : Bool :=
  (deja_timer cfg a e s).all (fun p => (s.procesos p).estado ≠ .EXEC || (s.procesos p).timer = none)

/-- The process is without a timer, or has it in the state and on the CPU that it had it. -/
def Suave (s s' : Ks) (p : Nat) : Prop :=
  (s'.procesos p).timer = none ∨ ((s'.procesos p).timer = (s.procesos p).timer ∧
    (s'.procesos p).estado = (s.procesos p).estado ∧ (s'.procesos p).cpu = (s.procesos p).cpu)

variable {cfg : Config} {hora : Nat} {s s' s'' : Ks} {p q : Nat}

theorem suave_of_eq (same : s'.procesos = s.procesos) : Suave s s' p := .inr (by rw [same]; simp)

theorem Suave.trans (first : Suave s s' p) (second : Suave s' s'' p) : Suave s s'' p := by
  rcases second with none | ⟨timer,estado,cpu⟩
  · exact .inl none
  · rcases first with none | ⟨timer',estado',cpu'⟩
    · exact .inl (timer.trans none)
    · exact .inr ⟨timer.trans timer',estado.trans estado',cpu.trans cpu'⟩

theorem suave_con_mutex (j : Nat) (f : Mutex → Mutex) : Suave s (s.con_mutex j f) p := suave_of_eq rfl

theorem suave_cancelar (s : Ks) (q p : Nat) : Suave s (s.cancelar_timer q) p := by
  by_cases same : p = q
  · exact .inl (by simp [same])
  · exact .inr (by simp [same])

theorem suave_herencia {espera : List Nat} {r : Ks × Pila} (what : Herencia cfg q espera s r) : Suave s r.1 p := by
  cases what with
  | nada => exact suave_of_eq rfl
  | cambia => by_cases same : p = q <;> simp [Suave,same]
  | muda => split_ifs <;> by_cases same : p = q <;> simp [Suave,same]

theorem suave_devolucion (what : Devolucion q s s') : Suave s s' p := by
  cases what with
  | nada => exact suave_of_eq rfl
  | cambia => by_cases same : p = q <;> simp [Suave,same]

theorem suave_despierta {r : Ks × Pila} (what : Despierta cfg hora q s r) : Suave s r.1 p := by
  cases what with
  | inesperado => exact suave_cancelar s q p
  | susp_block =>
    by_cases same : p = q
    · exact .inl (by simp [mover_a_susp_ready,same])
    · exact .inr (by simp [mover_a_susp_ready,same])
  | _ =>
    by_cases same : p = q
    · exact .inl (by simp [same])
    · exact .inr (by simp [same])

theorem suave_heredar {i : Nat} {espera : List Nat} : Suave s (heredar_mutex cfg i q espera s).1 p :=
  (suave_con_mutex i _).trans (suave_herencia (heredar_mutex_cases cfg i q espera s))

theorem suave_liberar (pid i : Nat) : Suave s (liberar_mutex_del_proceso cfg hora pid i s).1 p := by
  have body : Bucle cfg hora pid (fun s' => Suave s s' p) (fun s' _ => Suave s s' p) :=
    { acaba := fun _ kept => kept
      suelta := fun _ _ _ kept _ _ _ => kept.trans (suave_of_eq rfl)
      pausa := fun _ _ _ _ _ kept _ _ _ _ => kept.trans suave_heredar
      sigue := fun _ _ _ _ _ _ kept _ _ _ _ what =>
        have done := (kept.trans suave_heredar).trans (suave_despierta what)
        ⟨fun _ => done,fun _ => done⟩ }
  exact liberar_mutex_del_proceso_rule body i (suave_of_eq rfl)

theorem suave_siguiente {d : Efecto} (wakes : Siguiente q s d) : Suave s d.ks p := by
  cases wakes <;> exact suave_cancelar s q p

/-- What a move other than the planner's and the end of a quantum does to the timer of a process. -/
theorem mueve_timer {a : Accion} {r : Efecto} (move : Mueve cfg hora s a r) (plans : a ≠ .planificar)
    (ends : ∀ k, a ≠ .manejar_fin_quantum k) (p : Nat) :
    Suave s r.ks p ∨ (traslada a s = some p ∧ (r.ks.procesos p).timer = (s.procesos p).timer) ∨
      ((∃ m, a = .bloquear_proceso p m) ∧ (r.ks.procesos p).timer = some s.proximo_timer) := by
  cases move with
  | planificar_nada | planificar | planificar_timer => exact absurd rfl plans
  | manejar_fin_quantum k | fin_quantum_invalido k | fin_quantum_al_frente k | fin_quantum_desconocido k => exact absurd rfl (ends k)
  | bloquear_proceso q m =>
    by_cases same : p = q
    · exact .inr (.inr ⟨⟨m,by rw [same]⟩,by simp [bloquear_proceso,same]⟩)
    · exact .inl (.inr (by simp [bloquear_proceso,same]))
  | bloquear_por_compactacion q =>
    by_cases same : p = q
    · exact .inr (.inl ⟨by rw [same]; rfl,by simp [bloquear_por_compactacion,same]⟩)
    · exact .inl (.inr (by simp [bloquear_por_compactacion,same]))
  | mover_proceso_a_ready q | mover_proceso_de_block_a_ready q | sacar_de_susp_ready q =>
    by_cases same : p = q
    · exact .inr (.inl ⟨by rw [same]; rfl,by simp [pasa_a_ready,same]⟩)
    · exact .inl (.inr (by simp [pasa_a_ready,same]))
  | mover_a_susp_ready q =>
    by_cases same : p = q
    · exact .inr (.inl ⟨by rw [same]; rfl,by simp [mover_a_susp_ready,same]⟩)
    · exact .inl (.inr (by simp [mover_a_susp_ready,same]))
  | fin_compactacion q waits =>
    by_cases same : p = q
    · exact .inr (.inl ⟨by rw [same]; exact waits,by simp [same]⟩)
    · exact .inl (.inr (by simp [same]))
  | liberar_mutex_del_proceso pid i => exact .inl (suave_liberar pid i)
  | ceder_mutex pid i q r what silent => exact .inl ((suave_despierta what).trans (suave_liberar pid (i + 1)))
  | ceder_mutex_pausa pid i q r what pausa => exact .inl (suave_despierta what)
  | desconectar_ociosa k idle =>
    have procesos : (quitar_cpu_libre k s).procesos = s.procesos := by unfold quitar_cpu_libre; split_ifs <;> rfl
    exact .inl (suave_of_eq procesos)
  | desconectar_ocupada k q busy desaloja one =>
    have procesos : (quitar_cpu_libre k s).procesos = s.procesos := by unfold quitar_cpu_libre; split_ifs <;> rfl
    by_cases same : p = q
    · exact .inl (.inl (by simp [same]))
    · exact .inl (.inr (by simp [procesos,same]))
  | lock_espera q k j pid nombre m r found taken what =>
    rcases what with rfl | ⟨cmn,owner,inherits⟩
    · exact .inl (suave_of_eq rfl)
    · exact .inl ((suave_con_mutex j _).trans (suave_herencia inherits))
  | unlock_sin_espera q k j nombre m s' found empty what => exact .inl ((suave_con_mutex j _).trans (suave_devolucion what))
  | unlock_cede q k j siguiente espera nombre m s' r found queue what d inherits silent wakes =>
    have given : Suave s r.1 p := ((suave_con_mutex j _).trans (suave_devolucion what)).trans (suave_herencia inherits)
    exact .inl (given.trans (suave_siguiente (d := d) wakes))
  | unlock_pausa q k j siguiente espera nombre m s' r found queue what inherits pausa =>
    exact .inl (((suave_con_mutex j _).trans (suave_devolucion what)).trans (suave_herencia inherits))
  | despertar_siguiente q d wakes => exact .inl (suave_siguiente wakes)
  | manejar_io t q k v x kept =>
    by_cases same : p = q
    · subst same
      obtain ⟨_,_,_,rfl⟩ := manejar_io_some kept
      exact .inl (.inr (by simp))
    · exact .inl (.inr (by simp [same]))
  | crear_proceso_inicial | manejar_init_proc k prioridad =>
    by_cases same : p = s.proximo_pid
    · exact .inl (.inl (by simp [crear_proceso,proceso_nuevo,same]))
    · exact .inl (.inr (by simp [crear_proceso,same]))
  | vence_quantum _ _ q | vence_en_vano _ q | fin_io_block q | fin_io_susp_block q | fin_io_inesperado q =>
    exact .inl (suave_cancelar s q p)
  | vence_suspension t q found valid blocked =>
    by_cases same : p = q
    · exact .inl (.inl (by simp [same]))
    · exact .inl (.inr (by simp [same]))
  | manejar_proceso_exit k q running | manejar_seg_fault k q running =>
    by_cases same : p = q
    · exact .inl (.inl (by simp [same]))
    · exact .inl (.inr (by simp [same]))
  | _ => exact .inl (suave_of_eq rfl)

/-! ## Quanta to come -/

/-- The timer, the CPU and the process of a quantum that a thread counts, or is about to. -/
def quantum : Accion → Option (Nat × Nat × Nat)
  | .lanzar_quantum t k p | .hilo_quantum t k p => some (t,k,p)
  | _ => none

theorem de_bucle_quantum : ∀ b, de_bucle b = true → (quantum b).isNone = true := by
  intro b loop
  cases b <;> first | rfl | cases loop

theorem bucle_quantum {pila : Pila} (loop : ∀ b ∈ pila, de_bucle b = true) : pila.all (fun b => (quantum b).isNone) = true :=
  all_de_bucle de_bucle_quantum loop

theorem tras_respuesta_quantum (q : Pedido) (v : Respuesta) : (tras_respuesta q v).all (fun b => (quantum b).isNone) = true := by
  cases q with
  | crear_proceso p k => cases k <;> cases v <;> rfl
  | _ => cases v <;> rfl

/-- Only the planner's dispatch leaves a quantum to count. -/
theorem mueve_quantum {a : Accion} {r : Efecto} (move : Mueve cfg hora s a r) (plans : a ≠ .planificar) :
    r.sigue.all (fun b => (quantum b).isNone) = true := by
  cases move with
  | planificar_nada | planificar | planificar_timer => exact absurd rfl plans
  | recibir q v => exact tras_respuesta_quantum q v
  | mover_proceso_a_ready p desaloja one | mover_proceso_de_block_a_ready p desaloja one | desconectar_ocupada k p busy desaloja one =>
    simp only [List.all_append,bucle_quantum (desalojo_de_bucle one),bucle_quantum (anuncio_de_bucle cfg _),Bool.true_and]
  | sacar_de_susp_ready p i desaloja one =>
    simp only [List.all_append,bucle_quantum (desalojo_de_bucle one),bucle_quantum (anuncio_de_bucle cfg _),Bool.true_and]
    rfl
  | manejar_fin_quantum k p running still desaloja one =>
    simp only [List.all_append,bucle_quantum (desalojo_de_bucle one),Bool.true_and]
    rfl
  | liberar_mutex_del_proceso pid i => exact bucle_quantum (liberar_pila cfg hora pid i s)
  | ceder_mutex pid i p r what silent => exact bucle_quantum (liberar_pila cfg hora pid (i + 1) r.1)
  | ceder_mutex_pausa pid i p r what pausa =>
    simp only [List.all_append,bucle_quantum (despierta_pila what),Bool.true_and]
    rfl
  | liberar_cpu_de_quantum k planificable => cases planificable <;> rfl
  | lock_espera p k j pid nombre m r found taken what =>
    have sends : Desalojo r.2 := by
      rcases what with rfl | ⟨cmn,owner,inherits⟩
      · exact desalojo_nil
      · exact herencia_pila inherits
    simp only [List.all_append,bucle_quantum (desalojo_de_bucle sends),Bool.true_and]
    rfl
  | unlock_cede p k j siguiente espera nombre m t r found queue what d inherits silent wakes => cases wakes <;> rfl
  | unlock_pausa p k j siguiente espera nombre m t r found queue what inherits pausa =>
    simp only [List.all_append,bucle_quantum (desalojo_de_bucle (herencia_pila inherits)),Bool.true_and]
    rfl
  | despertar_siguiente p d wakes => cases wakes <;> rfl
  | desalojar_todas_las_cpus busy | manejar_bsod busy =>
    simp only [List.all_append,bucle_quantum (interrupciones_de_bucle s),Bool.true_and]
    rfl
  | tomar_pedido_io t d p cola queue => cases t <;> rfl
  | _ => rfl

/-- A thread that starts counts the quantum that its starter was about to, if any. -/
theorem mueve_lanza_quantum {a : Accion} {r : Efecto} (move : Mueve cfg hora s a r) :
    ∀ pila ∈ r.lanza, ∀ b ∈ pila, ∀ x, quantum b = some x → quantum a = some x ∧ r.ks = s := by
  cases move with
  | iniciar_hilos | cliente_cpu | cliente_io | bloquear_proceso => simp [bloquear_proceso,quantum]
  | lanzar_quantum t k p => simp [quantum]
  | unlock_cede p k j siguiente espera nombre m t r found queue what d inherits silent wakes => exact fun _ member => by cases member
  | despertar_siguiente p d wakes => cases wakes <;> exact fun _ member => by cases member
  | _ => exact fun _ member => by cases member

theorem mueve_proximo_timer {a : Accion} {r : Efecto} (move : Mueve cfg hora s a r) : s.proximo_timer ≤ r.ks.proximo_timer := by
  have far : Ajena Ks.proximo_timer := fun _ _ _ _ _ => rfl
  cases move with
  | planificar_timer | bloquear_proceso => exact Nat.le_succ _
  | desconectar_ociosa k idle =>
    have timers : (quitar_cpu_libre k s).proximo_timer = s.proximo_timer := by unfold quitar_cpu_libre; split_ifs <;> rfl
    exact timers.ge
  | desconectar_ocupada k p busy desaloja one =>
    have timers : (quitar_cpu_libre k s).proximo_timer = s.proximo_timer := by unfold quitar_cpu_libre; split_ifs <;> rfl
    exact timers.ge
  | liberar_mutex_del_proceso pid i => exact (liberar_ajena far cfg hora pid i s).ge
  | ceder_mutex pid i p r what silent => exact ((liberar_ajena far cfg hora pid (i + 1) r.1).trans (despierta_ajena far what)).ge
  | ceder_mutex_pausa pid i p r what pausa => exact (despierta_ajena far what).ge
  | lock_espera p k j pid nombre m r found taken what =>
    rcases what with rfl | ⟨cmn,owner,inherits⟩
    · exact Nat.le_refl _
    · exact ((herencia_ajena far inherits).trans rfl).ge
  | unlock_sin_espera p k j nombre m t found empty what => exact ((devolucion_ajena far what).trans rfl).ge
  | unlock_cede p k j siguiente espera nombre m t r found queue what d inherits silent wakes =>
    have same : d.ks.proximo_timer = r.1.proximo_timer := by cases wakes <;> rfl
    exact (same.trans ((herencia_ajena far inherits).trans ((devolucion_ajena far what).trans rfl))).ge
  | unlock_pausa p k j siguiente espera nombre m t r found queue what inherits pausa =>
    exact ((herencia_ajena far inherits).trans ((devolucion_ajena far what).trans rfl)).ge
  | despertar_siguiente p d wakes => cases wakes <;> exact Nat.le_refl _
  | _ => exact Nat.le_refl _

/-! ## Runs -/

/-- What there is to know of a quantum to come: while its process has the timer, it is in EXEC on the
    CPU that it was dispatched to, and has been since. -/
def Vive (s : Ks) (seguido : Nat → Option Nat) (b : Accion) : Prop := ∀ t k p, quantum b = some (t,k,p) →
  t < s.proximo_timer ∧ ((s.procesos p).timer = some t →
    (s.procesos p).estado = .EXEC ∧ (s.procesos p).cpu = some k ∧ seguido p = some t)

/-- A quantum to come stays so over a move after which its process has the timer only if it had
    it before, in the same state on the same CPU, and which does not dispatch the process. -/
theorem Vive.conserva {seguido : Nat → Option Nat} {a b : Accion} (vive : Vive s seguido b) (more : s.proximo_timer ≤ s'.proximo_timer)
    (same : ∀ t k p, quantum b = some (t,k,p) → (s'.procesos p).timer = some t → (s.procesos p).timer = some t ∧
      (s'.procesos p).estado = (s.procesos p).estado ∧ (s'.procesos p).cpu = (s.procesos p).cpu ∧
      ∀ c q, despachado cfg a s = some (c,q) → p ≠ q) :
    Vive s' (seguir cfg a s s' seguido) b := by
  intro t k p here
  obtain ⟨older,lives⟩ := vive t k p here
  refine ⟨older.trans_le more,?_⟩
  intro has
  obtain ⟨had,estado,cpu,other⟩ := same t k p here has
  obtain ⟨runs,on,since⟩ := lives had
  have still := estado.trans runs
  refine ⟨still,cpu.trans on,?_⟩
  rw [seguir,if_neg (by simp [still])]
  split
  case h_1 c q sent => rw [if_neg (other c q sent)]; exact since
  case h_2 => exact since

theorem sin_timer_vivo_deja {a : Accion} {e : Entrada} (quiet : sin_timer_vivo cfg a e s = true) (leaves : deja_timer cfg a e s = some p) :
    (s.procesos p).estado ≠ .EXEC ∨ (s.procesos p).timer = none := by
  simpa [sin_timer_vivo,leaves] using quiet

/-- The end of a quantum takes one running process off its CPU, and leaves its timer alone. -/
theorem fin_quantum_timer (q : Nat) (s : Ks) (p : Nat) :
    Suave s (manejar_fin_quantum cfg q s).ks p ∨ (buscar_proceso_en_exec s q = some p ∧
      ((manejar_fin_quantum cfg q s).ks.procesos p).timer = (s.procesos p).timer) := by
  unfold manejar_fin_quantum
  cases found : buscar_proceso_en_exec s q with
  | none => exact .inl (suave_of_eq rfl)
  | some p' =>
    have after : (if (((s.quitar .lista_exec p').con_estado p' .READY).con_cpu p' none).compactando then
          encolar_al_frente_de_ready cfg p' (((s.quitar .lista_exec p').con_estado p' .READY).con_cpu p' none)
        else encolar_en_ready cfg p' (((s.quitar .lista_exec p').con_estado p' .READY).con_cpu p' none)).ks.procesos =
          (((s.quitar .lista_exec p').con_estado p' .READY).con_cpu p' none).procesos := by
      split_ifs
      · rw [encolar_al_frente_de_ready_ks]
        split_ifs <;> rfl
      · rw [encolar_en_ready_ks]
        rfl
    change Suave s (Encolado.ks _) p ∨ _ ∧ ((Encolado.ks _).procesos p).timer = _
    by_cases same : p = p'
    · subst same
      exact .inr ⟨rfl,by rw [after]; simp⟩
    · exact .inl (.inr (by rw [after]; simp [same]))

/-- A process that has the timer of a quantum after a move had it before, and the move did not touch the process otherwise. -/
theorem efecto_conserva {e : Entrada} {a : Accion} {r : Efecto} {t : Nat} (effect : efecto cfg hora e a s = some r)
    (quiet : sin_timer_vivo cfg a e s = true) (older : t < s.proximo_timer)
    (runs : (s.procesos p).timer = some t → (s.procesos p).estado = .EXEC) (has : (r.ks.procesos p).timer = some t) :
    (s.procesos p).timer = some t ∧ (r.ks.procesos p).estado = (s.procesos p).estado ∧
      (r.ks.procesos p).cpu = (s.procesos p).cpu ∧ ∀ c q, despachado cfg a s = some (c,q) → p ≠ q := by
  have suave : Suave s r.ks p → (s.procesos p).timer = some t ∧ (r.ks.procesos p).estado = (s.procesos p).estado ∧
      (r.ks.procesos p).cpu = (s.procesos p).cpu := by
    rintro (none | ⟨timer,estado,cpu⟩)
    · rw [has] at none
      cases none
    · exact ⟨timer.symm.trans has,estado,cpu⟩
  have moved : deja_timer cfg a e s = some p → (r.ks.procesos p).timer = (s.procesos p).timer → False := by
    intro leaves timer
    have had := timer.symm.trans has
    rcases sin_timer_vivo_deja quiet leaves with stopped | none
    · exact stopped (runs had)
    · rw [had] at none
      cases none
  by_cases plans : a = .planificar
  · subst plans
    simp only [efecto,planificar] at effect
    cases next : obtener_proximo_proceso_ready cfg s with
    | none =>
      rw [next] at effect
      cases effect
      exact ⟨has,rfl,rfl,fun c q sent => by simp [despachado,next] at sent⟩
    | some x =>
      obtain ⟨c,q⟩ := x
      simp only [next] at effect
      split at effect
      case h_2 => cases effect
      case h_1 k libres free =>
        by_cases same : p = q
        · subst same
          split_ifs at effect with timer
          · cases effect
            simp at has
            omega
          · cases effect
            exact absurd (by simp) (moved (by simp [deja_timer,next,timer]))
        · have far : ∀ c' q', despachado cfg .planificar s = some (c',q') → p ≠ q' := by
            intro c' q' sent
            rw [despachado,next] at sent
            cases sent
            exact same
          split_ifs at effect <;> cases effect <;> exact ⟨by simpa [same] using has,by simp [same],by simp [same],far⟩
  have idle : ∀ c q, despachado cfg a s = some (c,q) → p ≠ q := by
    intro c q sent
    cases a <;> first | exact absurd rfl plans | cases sent
  by_cases ends : ∃ k, a = .manejar_fin_quantum k
  · obtain ⟨k,rfl⟩ := ends
    obtain ⟨q,arrives,rfl⟩ := Option.map_eq_some_iff.mp effect
    rcases fin_quantum_timer q s p with gentle | ⟨found,timer⟩
    · obtain ⟨timer,estado,cpu⟩ := suave gentle
      exact ⟨timer,estado,cpu,idle⟩
    · exact absurd timer (moved (by simpa [deja_timer,arrives] using found))
  · have ends : ∀ k, a ≠ .manejar_fin_quantum k := fun k same => ends ⟨k,same⟩
    rcases mueve_timer (efecto_mueve effect) plans ends p with gentle | ⟨takes,timer⟩ | ⟨_,timer⟩
    · obtain ⟨timer,estado,cpu⟩ := suave gentle
      exact ⟨timer,estado,cpu,idle⟩
    · refine absurd timer (moved ?_)
      cases a <;> first | exact absurd rfl plans | exact absurd rfl (ends _) | exact takes
    · rw [has] at timer
      cases timer
      omega

/-- The quantum that the planner leaves to count, when it dispatches with one. -/
theorem planificar_vive {e : Entrada} {r : Efecto} {seguido : Nat → Option Nat} (effect : efecto cfg hora e .planificar s = some r) :
    ∀ b ∈ r.sigue, Vive r.ks (seguir cfg .planificar s r.ks seguido) b := by
  simp only [efecto,planificar] at effect
  cases next : obtener_proximo_proceso_ready cfg s with
  | none =>
    rw [next] at effect
    cases effect
    simp [Vive,quantum]
  | some x =>
    obtain ⟨c,q⟩ := x
    simp only [next] at effect
    split at effect
    case h_2 => cases effect
    case h_1 k libres free =>
      split_ifs at effect with timer
      · cases effect
        simp [Vive,quantum,seguir,despachado,next,timer]
      · cases effect
        simp [Vive,quantum]

structure Coherente (v : Vigilado) : Prop where
  quanta : Every (Vive v.sistema.ks v.seguido) v.sistema.hilos

theorem inicio_coherente : Coherente inicio := ⟨by simp [Every,inicio,inicial,Vive,quantum]⟩

theorem vigila_coherente {l : Paso} {v w : Vigilado} (held : Coherente v) (quiet : al_mover (sin_timer_vivo cfg) l v.sistema = true)
    (moved : vigila cfg l v = some w) : Coherente w := by
  obtain ⟨t,advances,rfl⟩ := Option.map_eq_some_iff.mp moved
  obtain ⟨a,resto,r,here,alive,effect,move,rfl⟩ := paso_avanza advances
  have top := cima_of_here here
  have quiet : sin_timer_vivo cfg a l.entrada v.sistema.ks = true := by simpa [al_mover,top] using quiet
  have kept : ∀ b, Vive v.sistema.ks v.seguido b → Vive r.ks (seguir cfg a v.sistema.ks r.ks v.seguido) b := by
    intro b vive
    refine vive.conserva (mueve_proximo_timer move) ?_
    intro t k p count has
    obtain ⟨older,lives⟩ := vive t k p count
    exact efecto_conserva effect quiet older (fun had => (lives had).1) has
  refine ⟨?_⟩
  simp only [top]
  refine every_advance (held.quanta.mono kept) here ?_ ?_
  · by_cases plans : a = .planificar
    · subst plans
      exact planificar_vive effect
    · intro b member t k p count
      have none := List.all_eq_true.mp (mueve_quantum move plans) b member
      rw [count] at none
      cases none
  · intro pila started b member t k p count
    obtain ⟨same,_⟩ := mueve_lanza_quantum move pila started b member (t,k,p) count
    exact kept a (every_here held.quanta here) t k p same

/-- Process 0 runs, and thread 4 counts its quantum. -/
def con_quantum : List Paso := arranque ++ [{ hilo := 0, entrada := .cliente_cpu }] ++ turnos 3 2 ++ turnos 1 7

/-- The same, and process 0 asks for memory and blocks until Kernel Memory compacts. -/
def con_compactacion : List Paso := con_quantum ++ llama 3 0 .mem_alloc (.enteros 0 16) ++ turnos 3 1 ++
  [{ hilo := 3, entrada := .respuesta .COMPACTAR }] ++ turnos 3 4

end PlugNPray.QuantumTimers
