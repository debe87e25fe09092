import PlugNPray.CpuTurns

/-!
The end of quantum of a running process: the timer that is armed for it, and what becomes
of its interrupt on the way to the CPU.
-/
namespace PlugNPray.RunningQuanta
open PlugNPray.Scheduler PlugNPray.Handlers PlugNPray.ReadyQueues PlugNPray.Moves PlugNPray.Stacks PlugNPray.Runs PlugNPray.QuantumTimers
open PlugNPray.CpuTurns

/-! ## What should hold of every state -/

/-- The process is to be executed by the CPU: the dispatch is still to be sent, or to be read. -/
def PorVenir (v : Sistema) (k p : Nat) : Prop :=
  .ejecutar p ∈ (v.cpus k).socket_ks ∨ Pending (· = .enviar_ejecutar k p) v.planificador.hilos

/-- The CPU executes the process, or is going to. -/
def EnManos (v : Sistema) (k p : Nat) : Prop := (v.cpus k).modo.pid = some p ∨ PorVenir v k p

/-- A thread counts the quantum whose timer the process has. -/
def Armado (v : Sistema) (k p : Nat) : Prop :=
  ∃ t, (v.planificador.ks.procesos p).timer = some t ∧ Pending (fun a => quantum a = some (t,k,p)) v.planificador.hilos

/-- An interrupt for the process is on its way to the CPU, or pending inside it. -/
def Avisado (v : Sistema) (k p : Nat) : Prop :=
  Pending (· = .enviar_interrumpir (some k) p) v.planificador.hilos ∨ .interrumpir p ∈ (v.cpus k).socket_ks ∨
    (v.cpus k).interrupcion_pendiente_pid = some p

/-- The process is in lista_exec on the CPU, by a dispatch from an RR queue. -/
def Corre (v : Sistema) (k p : Nat) : Prop :=
  p ∈ v.planificador.ks.listas .lista_exec ∧ v.de_rr p = true ∧ (v.planificador.ks.procesos p).cpu = some k

/-- Every running process of an RR queue has an end of quantum to come, as long as its CPU has not given it back. -/
def ConFin (v : Sistema) : Prop := ∀ k p, Corre v k p → EnManos v k p → Armado v k p ∨ Avisado v k p

/-! ## Steps that do not lose the end of a quantum -/

/-- The waiters that come next for the mutexes of the process, from the place on. -/
def herederos (pid i : Nat) (s : Ks) : List Nat :=
  (s.lista_mutex.drop i).filterMap (fun m => if m.pid_dueno = some pid then m.cola_espera.head? else none)

/-- The processes that a move wakes up, and whose timer it cancels. -/
def despertados (a : Accion) (e : Entrada) (s : Ks) : List Nat :=
  match a with
  | .manejar_fin_io p | .despertar_siguiente p => [p]
  | .liberar_mutex_del_proceso pid i => herederos pid i s
  | .ceder_mutex pid i p => p :: herederos pid (i + 1) s
  | .manejar_mutex_unlock _ _ =>
    ((e.cadena?.bind (buscar_mutex s)).bind (fun x => x.2.cola_espera.head?)).toList
  | _ => []

/-- The process that a move terminates. -/
def termina (a : Accion) (e : Entrada) : Option Nat :=
  match a with
  | .manejar_proceso_exit _ | .manejar_seg_fault _ => e.pid?
  | _ => none

/-- The move wakes up no running process, and none runs that it terminates. -/
def sin_cancelar (a : Accion) (e : Entrada) (s : Ks) : Bool :=
  (despertados a e s).all (fun p => p ∉ s.listas .lista_exec) && (termina a e).all (fun p => p ∉ (s.listas .lista_exec).erase p)

/-- The interrupt that a turn of the CPU takes for good, because it acts on it, drops it or forgets it for that of another process. -/
def gasta (e : Evento) (v : Sistema) : Option (Nat × Nat) :=
  match e with
  | .lee k _ =>
    match (v.cpus k).modo,(v.cpus k).socket_ks with
    | .principal, .interrumpir q :: _ => some (k,q)
    | .recibir_respuesta _ _, .interrumpir q' :: _ =>
      ((v.cpus k).interrupcion_pendiente_pid.filter (fun q => q ≠ q')).map (fun q => (k,q))
    | _, _ => none
  | .revisa k =>
    match (v.cpus k).interrupcion_pendiente_pid,(v.cpus k).socket_ks with
    | some q, _ => some (k,q)
    | none, .interrumpir q :: _ => some (k,q)
    | none, _ => none
  | _ => none

/-- The process that the turn leaves in the hands of the CPU. -/
def conserva (e : Evento) (v : Sistema) : Option Nat :=
  match e with
  | .lee k _ => (v.cpus k).modo.pid
  | _ => none

/-- The dispatch at the end of a compaction. -/
def reanuda (a : Accion) (s : Ks) : Option (Nat × Nat) :=
  match a with
  | .fin_compactacion | .redespachar => s.proceso_esperando_memoria.bind (fun p => s.cpu_esperando_memoria.map (fun k => (k,p)))
  | _ => none

/-- No timer of a running process is cancelled for another reason than its end, a process is resumed after a
    compaction only with its timer armed, and a CPU loses an interrupt for a process that it goes on with, or is to
    execute, only while the timer is armed. -/
def SinPerder (e : Evento) (v : Sistema) : Prop :=
  match e with
  | .planificador l => ∀ a, cima v.planificador l.hilo = some a →
    sin_cancelar a l.entrada v.planificador.ks = true ∧
      ∀ k p, reanuda a v.planificador.ks = some (k,p) → v.de_rr p = true → Armado v k p
  | e => ∀ k p, gasta e v = some (k,p) → Corre v k p → (conserva e v = some p ∨ PorVenir v k p) → Armado v k p

section decidable

instance {α : Type} (p : α → Prop) [DecidablePred p] (hilos : List (List α)) : Decidable (Pending p hilos) :=
  inferInstanceAs (Decidable (∃ pila ∈ hilos, ∃ a ∈ pila, p a))

variable (v : Sistema) (k p : Nat)

instance : Decidable (PorVenir v k p) := inferInstanceAs (Decidable (_ ∨ _))
instance : Decidable (EnManos v k p) := inferInstanceAs (Decidable (_ ∨ _))
instance : Decidable (Avisado v k p) := inferInstanceAs (Decidable (_ ∨ _ ∨ _))
instance : Decidable (Corre v k p) := inferInstanceAs (Decidable (_ ∧ _ ∧ _))

/-- Whether one timer, if the process has it, is counted. -/
def armado_por (v : Sistema) (k p : Nat) : Option Nat → Bool
  | none => false
  | some t => decide (Pending (fun a => quantum a = some (t,k,p)) v.planificador.hilos)

theorem armado_por_iff : armado_por v k p (v.planificador.ks.procesos p).timer = true ↔ Armado v k p := by
  rw [Armado]
  cases (v.planificador.ks.procesos p).timer with
  | none => simp [armado_por]
  | some t => simp [armado_por]

instance : Decidable (Armado v k p) := decidable_of_iff _ (armado_por_iff v k p)

end decidable

/-- What is asked of the one pair that there may be can be decided. -/
def decide_pair (o : Option (Nat × Nat)) (prop : Nat → Nat → Prop) [∀ k p, Decidable (prop k p)] :
    Decidable (∀ k p, o = some (k,p) → prop k p) :=
  match o with
  | none => isTrue nofun
  | some (k,p) => decidable_of_iff (prop k p) ⟨fun here k' p' same => by cases same; exact here,fun all => all k p rfl⟩

instance : ∀ e v, Decidable (SinPerder e v)
  | .planificador l, v =>
    match top : cima v.planificador l.hilo with
    | none => isTrue (fun a same => by rw [top] at same; cases same)
    | some a =>
      have := decide_pair (reanuda a v.planificador.ks) (fun k p => v.de_rr p = true → Armado v k p)
      decidable_of_iff (sin_cancelar a l.entrada v.planificador.ks = true ∧
          ∀ k p, reanuda a v.planificador.ks = some (k,p) → v.de_rr p = true → Armado v k p)
        ⟨fun here b same => by cases top.symm.trans same; exact here,fun all => all a top⟩
  | .lee k contexto, v => decide_pair (gasta (.lee k contexto) v) _
  | .instruccion k i, v => decide_pair (gasta (.instruccion k i) v) _
  | .revisa k, v => decide_pair (gasta (.revisa k) v) _
  | .se_va k, v => decide_pair (gasta (.se_va k) v) _

/-! ## What a move of the scheduler does to a running process -/

variable {cfg : Config} {hora : Nat} {s s' s'' : Ks} {p q : Nat}

/-- A process that runs after the move ran before, on the same CPU and with the same timer. -/
def Calma (s s' : Ks) (p : Nat) : Prop := p ∈ s'.listas .lista_exec → ∀ k, (s'.procesos p).cpu = some k →
  p ∈ s.listas .lista_exec ∧ (s.procesos p).cpu = some k ∧ (s'.procesos p).timer = (s.procesos p).timer

theorem calma_of_eq (listas : s'.listas .lista_exec = s.listas .lista_exec) (procesos : s'.procesos p = s.procesos p) :
    Calma s s' p := by
  intro runs k cpu
  rw [listas] at runs
  rw [procesos] at cpu ⊢
  exact ⟨runs,cpu,rfl⟩

theorem Calma.trans (first : Calma s s' p) (second : Calma s' s'' p) : Calma s s'' p := by
  intro runs k cpu
  obtain ⟨runs,cpu,timer⟩ := second runs k cpu
  obtain ⟨runs',cpu',timer'⟩ := first runs k cpu
  exact ⟨runs',cpu',timer.trans timer'⟩

/-- A process that does not run after the move. -/
theorem calma_of_not (stopped : p ∉ s'.listas .lista_exec) : Calma s s' p := fun runs => absurd runs stopped

theorem calma_of_cpu (free : (s'.procesos p).cpu = none) : Calma s s' p := by
  intro _ k cpu
  rw [free] at cpu
  cases cpu

theorem calma_con_mutex (j : Nat) (f : Mutex → Mutex) : Calma s (s.con_mutex j f) p := calma_of_eq rfl rfl

theorem calma_cancelar (stopped : q ∉ s.listas .lista_exec) (p : Nat) : Calma s (s.cancelar_timer q) p := by
  by_cases same : p = q
  · exact calma_of_not (by rw [same]; exact stopped)
  · exact calma_of_eq rfl (by simp [same])

theorem herencia_exec {espera : List Nat} {r : Ks × Pila} (what : Herencia cfg q espera s r) :
    r.1.listas .lista_exec = s.listas .lista_exec := herencia_lista rfl what

theorem calma_herencia {espera : List Nat} {r : Ks × Pila} (what : Herencia cfg q espera s r) : Calma s r.1 p := by
  intro runs k cpu
  rw [herencia_exec what] at runs
  refine ⟨runs,?_⟩
  cases what with
  | nada => exact ⟨cpu,rfl⟩
  | cambia => by_cases same : p = q <;> simpa [same] using cpu
  | muda => split_ifs at cpu ⊢ <;> by_cases same : p = q <;> simpa [same] using cpu

theorem calma_devolucion (what : Devolucion q s s') : Calma s s' p := by
  intro runs k cpu
  rw [devolucion_lista what] at runs
  refine ⟨runs,?_⟩
  cases what with
  | nada => exact ⟨cpu,rfl⟩
  | cambia => by_cases same : p = q <;> simpa [same] using cpu

theorem despierta_exec {r : Ks × Pila} (what : Despierta cfg hora q s r) : r.1.listas .lista_exec = s.listas .lista_exec := by
  cases what <;> simp [mover_a_susp_ready]

theorem calma_despierta {r : Ks × Pila} (what : Despierta cfg hora q s r) (stopped : q ∉ s.listas .lista_exec) (p : Nat) :
    Calma s r.1 p := by
  by_cases same : p = q
  · refine calma_of_not ?_
    rw [despierta_exec what,same]
    exact stopped
  · refine calma_of_eq (despierta_exec what) ?_
    cases what <;> simp [mover_a_susp_ready,same]

theorem calma_siguiente {d : Efecto} (wakes : Siguiente q s d) (stopped : q ∉ s.listas .lista_exec) (p : Nat) : Calma s d.ks p := by
  cases wakes <;> exact calma_cancelar stopped p

theorem calma_heredar {i : Nat} {espera : List Nat} : Calma s (heredar_mutex cfg i q espera s).1 p :=
  (calma_con_mutex i _).trans (calma_herencia (heredar_mutex_cases cfg i q espera s))

theorem heredero_mem {pid i j : Nat} {m : Mutex} {espera : List Nat} (later : i ≤ j) (here : s.lista_mutex[j]? = some m)
    (owned : m.pid_dueno = some pid) (queue : m.cola_espera = q :: espera) : q ∈ herederos pid i s := by
  refine List.mem_filterMap.mpr ⟨m,?_,by rw [if_pos owned,queue]; rfl⟩
  refine List.mem_of_getElem? (i := j - i) ?_
  rw [List.getElem?_drop]
  simpa [later] using here

/-- The loop over the mutexes of a dead process wakes up the waiters that come next, and no other. -/
theorem calma_liberar (pid i : Nat) (asleep : ∀ q ∈ herederos pid i s, q ∉ s.listas .lista_exec) (p : Nat) :
    Calma s (liberar_mutex_del_proceso cfg hora pid i s).1 p := by
  have body : Recorrido cfg hora pid
      (fun j s' => i ≤ j ∧ s'.lista_mutex.drop j = s.lista_mutex.drop j ∧ s'.listas .lista_exec = s.listas .lista_exec ∧ Calma s s' p)
      (fun s' _ => Calma s s' p) :=
    { acaba := fun _ _ kept _ => kept.2.2.2
      pasa := by
        rintro s' j m ⟨later,rest,exec,calm⟩ _ _
        refine ⟨by omega,?_,exec,calm⟩
        rw [← List.drop_drop,rest,List.drop_drop]
      suelta := by
        rintro s' j m ⟨later,rest,exec,calm⟩ _ _ _
        refine ⟨by omega,?_,exec,calm.trans (calma_con_mutex j _)⟩
        show (s'.lista_mutex.modify j _).drop (j + 1) = _
        rw [List.drop_modify_of_lt _ _ _ _ (by omega),← List.drop_drop,rest,List.drop_drop]
      pausa := by
        rintro s' j m siguiente espera ⟨later,rest,exec,calm⟩ _ _ _ _
        exact calm.trans calma_heredar
      sigue := by
        rintro s' j m siguiente espera r ⟨later,rest,exec,calm⟩ here owned queue _ what
        have kept : (heredar_mutex cfg j siguiente espera s').1.listas .lista_exec = s.listas .lista_exec :=
          (heredar_mutex_lista rfl).trans exec
        have first : s.lista_mutex[j]? = some m := by
          have same := congrArg (fun l => l[0]?) rest
          simp only [List.getElem?_drop,Nat.add_zero] at same
          rw [← same]
          exact here
        have stopped := asleep siguiente (heredero_mem later first owned queue)
        rw [← kept] at stopped
        have done := (calm.trans calma_heredar).trans (calma_despierta what stopped p)
        refine ⟨?_,fun _ => done⟩
        intro _
        refine ⟨by omega,?_,(despierta_exec what).trans kept,done⟩
        rw [despierta_mutex what,heredar_mutex_mutex,List.drop_modify_of_lt _ _ _ _ (by omega),← List.drop_drop,rest,List.drop_drop] }
  exact liberar_rule body i ⟨Nat.le_refl i,rfl,rfl,calma_of_eq rfl rfl⟩

/-- The timer of the process runs out. -/
def vence (a : Accion) (s : Ks) (p : Nat) : Prop :=
  ∃ t, (s.procesos p).timer = some t ∧ ((∃ k, a = .hilo_quantum t k p) ∨ a = .hilo_suspension t p)

theorem quitar_cpu_libre_eq (k : Nat) (s : Ks) :
    (quitar_cpu_libre k s).listas = s.listas ∧ (quitar_cpu_libre k s).procesos = s.procesos := by
  unfold quitar_cpu_libre
  split_ifs <;> exact ⟨rfl,rfl⟩

theorem calma_pasa {c : Cola} (other : c ≠ .lista_exec) (q p : Nat) : Calma s (pasa_a_ready cfg c q s) p := by
  intro runs k cpu
  refine ⟨by simpa [pasa_a_ready,Ne.symm other] using runs,?_⟩
  by_cases same : p = q
  · subst same
    simpa [pasa_a_ready] using cpu
  · simpa [pasa_a_ready,same] using cpu

/-- A process taken off lista_exec and off its CPU, and no other changed. -/
theorem calma_saca (free : (s'.procesos q).cpu = none) (others : ∀ p, p ≠ q → s'.procesos p = s.procesos p)
    (listas : s'.listas .lista_exec = (s.listas .lista_exec).erase q) (p : Nat) : Calma s s' p := by
  by_cases same : p = q
  · exact calma_of_cpu (by rw [same]; exact free)
  · intro runs k cpu
    rw [listas] at runs
    rw [others p same] at cpu ⊢
    exact ⟨List.mem_of_mem_erase runs,cpu,rfl⟩

/-- A process that is terminated, and that does not run any more. -/
theorem calma_terminar {pid : Nat} (last : pid ∉ (s.listas .lista_exec).erase pid) (p : Nat) : Calma s (terminar_proceso pid s).ks p := by
  unfold terminar_proceso
  split
  case h_1 q found =>
    obtain rfl := find_self found
    by_cases same : p = q
    · refine calma_of_not ?_
      simpa [same] using last
    · intro runs k cpu
      refine ⟨List.mem_of_mem_erase (by simpa using runs),?_⟩
      simpa [same] using cpu
  case h_2 => exact calma_of_eq rfl rfl

theorem calma_unlock {q k : Nat} {nombre : String}
    (asleep : ∀ x, buscar_mutex s nombre = some x → ∀ next, x.2.cola_espera.head? = some next → next ∉ s.listas .lista_exec) (p : Nat) :
    Calma s (manejar_mutex_unlock cfg q k nombre s).ks p := by
  have what := manejar_mutex_unlock_cases cfg q k nombre s
  revert what
  generalize manejar_mutex_unlock cfg q k nombre s = r
  intro what
  cases what with
  | desconocido => exact calma_of_eq rfl rfl
  | sin_espera j m t found empty given => exact (calma_con_mutex j _).trans (calma_devolucion given)
  | cede j siguiente espera m t r found queue given d inherits silent wakes =>
    have stopped := asleep (j,m) found siguiente (by rw [queue]; rfl)
    have exec : r.1.listas .lista_exec = s.listas .lista_exec := (herencia_exec inherits).trans ((devolucion_lista given).trans rfl)
    rw [← exec] at stopped
    exact (((calma_con_mutex j _).trans (calma_devolucion given)).trans (calma_herencia inherits)).trans
      (calma_siguiente wakes stopped p)
  | pausa j siguiente espera m t r found queue given inherits pausa =>
    exact ((calma_con_mutex j _).trans (calma_devolucion given)).trans (calma_herencia inherits)

/-- What the end of a compaction does to the process that waits for it. -/
def reanudado (a : Accion) (s s' : Ks) (p : Nat) : Prop :=
  a = .fin_compactacion ∧ s.proceso_esperando_memoria = some p ∧ (s'.procesos p).cpu = s.cpu_esperando_memoria ∧
    (s'.procesos p).timer = (s.procesos p).timer

/-- The moves that neither dispatch nor terminate a process, nor unlock a mutex. -/
theorem mueve_calma {a : Accion} {e : Entrada} {r : Efecto} (move : Mueve cfg hora s a r) (plans : a ≠ .planificar)
    (ends : ∀ k, a ≠ .manejar_proceso_exit k ∧ a ≠ .manejar_seg_fault k) (unlocks : ∀ q k, a ≠ .manejar_mutex_unlock q k)
    (asleep : ∀ q ∈ despertados a e s, q ∉ s.listas .lista_exec) (p : Nat) :
    Calma s r.ks p ∨ vence a s p ∨ reanudado a s r.ks p := by
  cases move with
  | planificar_nada | planificar | planificar_timer => exact absurd rfl plans
  | manejar_proceso_exit k | exit_desconocido k => exact absurd rfl (ends k).1
  | manejar_seg_fault k | seg_fault_desconocido k => exact absurd rfl (ends k).2
  | unlock_desconocido q k | unlock_sin_espera q k | unlock_cede q k | unlock_pausa q k => exact absurd rfl (unlocks q k)
  | mover_proceso_a_ready q | mover_proceso_de_block_a_ready q | sacar_de_susp_ready q =>
    exact .inl (calma_pasa (by simp) q p)
  | mover_a_susp_ready q =>
    refine .inl ?_
    intro runs k cpu
    refine ⟨by simpa [mover_a_susp_ready] using runs,?_⟩
    by_cases same : p = q
    · subst same
      simpa [mover_a_susp_ready] using cpu
    · simpa [mover_a_susp_ready,same] using cpu
  | crear_proceso_inicial | manejar_init_proc =>
    by_cases same : p = s.proximo_pid
    · exact .inl (calma_of_cpu (by simp [crear_proceso,proceso_nuevo,same]))
    · exact .inl (calma_of_eq rfl (by simp [crear_proceso,same]))
  | vence_quantum t k q found valid | vence_suspension t q found valid | vence_en_vano t q valid =>
    by_cases same : p = q
    · subst same
      exact .inr (.inl ⟨t,valid,by simp⟩)
    · exact .inl (calma_of_eq (by simp) (by simp [same]))
  | desconectar_ociosa k idle =>
    obtain ⟨listas,procesos⟩ := quitar_cpu_libre_eq k s
    exact .inl (calma_of_eq (by rw [listas]) (by rw [procesos]))
  | desconectar_ocupada k q busy desaloja one =>
    obtain ⟨listas,procesos⟩ := quitar_cpu_libre_eq k s
    exact .inl (calma_saca (q := q) (by simp) (fun p other => by simp [procesos,other]) (by simp [listas]) p)
  | manejar_fin_quantum k q | fin_quantum_invalido k q | fin_quantum_al_frente k q =>
    exact .inl (calma_saca (q := q) (by simp) (fun p other => by simp [other]) (by simp) p)
  | bloquear_proceso q m =>
    exact .inl (calma_saca (q := q) (by simp [bloquear_proceso]) (fun p other => by simp [bloquear_proceso,other])
      (by simp [bloquear_proceso]) p)
  | bloquear_por_compactacion q =>
    exact .inl (calma_saca (q := q) (by simp [bloquear_por_compactacion]) (fun p other => by simp [bloquear_por_compactacion,other])
      (by simp [bloquear_por_compactacion]) p)
  | liberar_mutex_del_proceso pid i => exact .inl (calma_liberar pid i asleep p)
  | ceder_mutex pid i q r what silent =>
    obtain ⟨first,rest⟩ := List.forall_mem_cons.mp asleep
    refine .inl ((calma_despierta what first p).trans (calma_liberar pid (i + 1) ?_ p))
    intro q' member
    rw [despierta_exec what]
    refine rest q' ?_
    rw [herederos,despierta_mutex what] at member
    exact member
  | ceder_mutex_pausa pid i q r what pausa => exact .inl (calma_despierta what (asleep q List.mem_cons_self) p)
  | manejar_io t q k v x kept =>
    by_cases same : p = q
    · subst same
      obtain ⟨_,_,_,rfl⟩ := manejar_io_some kept
      refine .inl ?_
      intro runs k cpu
      exact ⟨runs,by simpa using cpu,by simp⟩
    · exact .inl (calma_of_eq rfl (by simp [same]))
  | lock_espera q k j pid nombre m r found taken what =>
    rcases what with rfl | ⟨cmn,owner,inherits⟩
    · exact .inl (calma_con_mutex j _)
    · exact .inl ((calma_con_mutex j _).trans (calma_herencia inherits))
  | despertar_siguiente q d wakes => exact .inl (calma_siguiente wakes (asleep q (by simp [despertados])) p)
  | fin_io_block q | fin_io_susp_block q | fin_io_inesperado q => exact .inl (calma_cancelar (asleep q (by simp [despertados])) p)
  | fin_compactacion q waits =>
    by_cases same : p = q
    · subst same
      exact .inr (.inr ⟨rfl,waits,by simp,by simp⟩)
    · refine .inl ?_
      intro runs k cpu
      exact ⟨by simpa [same] using runs,by simpa [same] using cpu,by simp [same]⟩
  | manejar_bsod busy => exact .inl (calma_of_not (by simp [vaciar]))
  | _ => exact .inl (calma_of_eq rfl rfl)

/-- A move that is not the planner's dispatch leaves a running process its CPU and its timer, but for the timer's own
    end and the end of a compaction. -/
theorem efecto_calma {a : Accion} {e : Entrada} {r : Efecto} (effect : efecto cfg hora e a s = some r) (plans : a ≠ .planificar)
    (quiet : sin_cancelar a e s = true) (p : Nat) : Calma s r.ks p ∨ vence a s p ∨ reanudado a s r.ks p := by
  obtain ⟨asleep,last⟩ := Bool.and_eq_true_iff.mp quiet
  have asleep : ∀ q ∈ despertados a e s, q ∉ s.listas .lista_exec := by simpa using asleep
  by_cases ends : ∃ k, a = .manejar_proceso_exit k ∨ a = .manejar_seg_fault k
  · obtain ⟨k,rfl | rfl⟩ := ends <;>
    · obtain ⟨pid,arrives,rfl⟩ := Option.map_eq_some_iff.mp effect
      exact .inl (calma_terminar (by simpa [termina,arrives] using last) p)
  by_cases unlocks : ∃ q k, a = .manejar_mutex_unlock q k
  · obtain ⟨q,k,rfl⟩ := unlocks
    obtain ⟨nombre,arrives,rfl⟩ := Option.map_eq_some_iff.mp effect
    refine .inl (calma_unlock ?_ p)
    intro x found next first
    exact asleep next (by simp [despertados,arrives,found,first])
  push Not at ends unlocks
  exact mueve_calma (efecto_mueve effect) plans ends unlocks asleep p

/-! ## What a move of the scheduler leaves to do -/

/-- Neither a dispatch nor a timer. -/
def comun : Accion → Bool
  | .enviar_ejecutar _ _ | .lanzar_quantum _ _ _ | .hilo_quantum _ _ _ | .hilo_suspension _ _ => false
  | _ => true

theorem comun_quantum {b : Accion} (plain : comun b = true) : quantum b = none := by
  cases b <;> first | rfl | cases plain

theorem bucle_comun {pila : Pila} (loop : ∀ b ∈ pila, de_bucle b = true) : pila.all comun = true := by
  refine List.all_eq_true.mpr ?_
  intro b member
  have yes := loop b member
  cases b <;> first | rfl | cases yes

theorem tras_respuesta_comun (q : Pedido) (v : Respuesta) : (tras_respuesta q v).all comun = true := by
  cases q with
  | crear_proceso p k => cases k <;> cases v <;> rfl
  | _ => cases v <;> rfl

theorem mueve_comun {a : Accion} {r : Efecto} (move : Mueve cfg hora s a r) (plans : a ≠ .planificar) (resumes : a ≠ .redespachar) :
    r.sigue.all comun = true := by
  cases move with
  | planificar_nada | planificar | planificar_timer => exact absurd rfl plans
  | redespachar_nadie | redespachar => exact absurd rfl resumes
  | recibir q v => exact tras_respuesta_comun q v
  | mover_proceso_a_ready p desaloja one | mover_proceso_de_block_a_ready p desaloja one | desconectar_ocupada k p busy desaloja one =>
    simp only [List.all_append,bucle_comun (desalojo_de_bucle one),bucle_comun (anuncio_de_bucle cfg _),Bool.true_and]
  | sacar_de_susp_ready p i desaloja one =>
    simp only [List.all_append,bucle_comun (desalojo_de_bucle one),bucle_comun (anuncio_de_bucle cfg _),Bool.true_and]
    rfl
  | manejar_fin_quantum k p running still desaloja one =>
    simp only [List.all_append,bucle_comun (desalojo_de_bucle one),Bool.true_and]
    rfl
  | liberar_mutex_del_proceso pid i => exact bucle_comun (liberar_pila cfg hora pid i s)
  | ceder_mutex pid i p r what silent => exact bucle_comun (liberar_pila cfg hora pid (i + 1) r.1)
  | ceder_mutex_pausa pid i p r what pausa =>
    simp only [List.all_append,bucle_comun (despierta_pila what),Bool.true_and]
    rfl
  | liberar_cpu_de_quantum k planificable => cases planificable <;> rfl
  | lock_espera p k j pid nombre m r found taken what =>
    have sends : Desalojo r.2 := by
      rcases what with rfl | ⟨cmn,owner,inherits⟩
      · exact desalojo_nil
      · exact herencia_pila inherits
    simp only [List.all_append,bucle_comun (desalojo_de_bucle sends),Bool.true_and]
    rfl
  | unlock_cede p k j siguiente espera nombre m t r found queue what d inherits silent wakes => cases wakes <;> rfl
  | unlock_pausa p k j siguiente espera nombre m t r found queue what inherits pausa =>
    simp only [List.all_append,bucle_comun (desalojo_de_bucle (herencia_pila inherits)),Bool.true_and]
    rfl
  | despertar_siguiente p d wakes => cases wakes <;> rfl
  | desalojar_todas_las_cpus busy | manejar_bsod busy =>
    simp only [List.all_append,bucle_comun (interrupciones_de_bucle s),Bool.true_and]
    rfl
  | tomar_pedido_io t d p cola queue => cases t <;> rfl
  | _ => rfl

/-- What a thread starts with: the quantum that its starter was about to count, a suspension with a new timer, or neither. -/
theorem mueve_lanza {a : Accion} {r : Efecto} (move : Mueve cfg hora s a r) : ∀ pila ∈ r.lanza, ∀ b ∈ pila,
    comun b = true ∨ (∃ t k p, a = .lanzar_quantum t k p ∧ b = .hilo_quantum t k p) ∨
      ∃ p, b = .hilo_suspension s.proximo_timer p ∧ r.ks.proximo_timer = s.proximo_timer + 1 := by
  cases move with
  | iniciar_hilos | cliente_cpu | cliente_io => simp [comun]
  | bloquear_proceso => simp [bloquear_proceso,comun]
  | lanzar_quantum t k p => simp [comun]
  | unlock_cede p k j siguiente espera nombre m t r found queue what d inherits silent wakes => exact fun _ member => by cases member
  | despertar_siguiente p d wakes => cases wakes <;> exact fun _ member => by cases member
  | _ => exact fun _ member => by cases member

/-- The planner's move: nothing, or a dispatch, with the timer that it arms if its queue is RR. -/
structure Despacho (cfg : Config) (s : Ks) (r : Efecto) (c : Cola) (q k : Nat) : Prop where
  elegido : despachado cfg .planificar s = some (c,q)
  libre : ∃ libres, s.lista_cpus_libres = some k :: libres
  exec : r.ks.listas .lista_exec = s.listas .lista_exec ++ [q]
  cpu : (r.ks.procesos q).cpu = some k
  otros : ∀ p, p ≠ q → r.ks.procesos p = s.procesos p
  envia : ∀ b ∈ r.sigue, comun b = true ∨ b = .enviar_ejecutar k q ∨ necesita_timer cfg c = true ∧ b = .lanzar_quantum s.proximo_timer k q
  timer : necesita_timer cfg c = true → (r.ks.procesos q).timer = some s.proximo_timer ∧ r.ks.proximo_timer = s.proximo_timer + 1 ∧
    .lanzar_quantum s.proximo_timer k q ∈ r.sigue

theorem planificar_cases {e : Entrada} {r : Efecto} (effect : efecto cfg hora e .planificar s = some r) :
    r.lanza = [] ∧ ((despachado cfg .planificar s = none ∧ r.ks = s ∧ r.sigue.all comun = true) ∨ ∃ c q k, Despacho cfg s r c q k) := by
  simp only [efecto,planificar] at effect
  cases next : obtener_proximo_proceso_ready cfg s with
  | none =>
    rw [next] at effect
    cases effect
    exact ⟨rfl,.inl ⟨next,rfl,rfl⟩⟩
  | some x =>
    obtain ⟨c,q⟩ := x
    obtain ⟨served,_⟩ := obtener_cases next
    have other : c ≠ .lista_exec := by
      rintro rfl
      simp [colas_de_ready] at served
      split_ifs at served <;> simp at served
    simp only [next] at effect
    split at effect
    case h_2 => cases effect
    case h_1 k libres free =>
      split_ifs at effect with timer
      · cases effect
        refine ⟨rfl,.inr ⟨c,q,k,next,⟨libres,free⟩,by simp [Ne.symm other],by simp,fun p far => by simp [far],?_,?_⟩⟩
        · simp [comun,timer]
        · intro _
          simp
      · cases effect
        refine ⟨rfl,.inr ⟨c,q,k,next,⟨libres,free⟩,by simp [Ne.symm other],by simp,fun p far => by simp [far],?_,?_⟩⟩
        · simp [comun]
        · intro needs
          exact absurd needs timer

/-! ## A move of the scheduler -/

section planificador
variable {v w : Sistema} {l : Paso} {a : Accion} {resto : Pila} {r : Efecto} {k : Nat}

/-- What a step of the scheduler is made of. -/
structure Avance (cfg : Config) (l : Paso) (v w : Sistema) (a : Accion) (resto : Pila) (r : Efecto) : Prop where
  here : v.planificador.hilos[l.hilo]? = some (a :: resto)
  effect : efecto cfg l.hora l.entrada a v.planificador.ks = some r
  planificador : w.planificador = ⟨r.ks,advance v.planificador.hilos l.hilo r.sigue resto r.lanza⟩
  cpus : w.cpus = entrega a v.cpus
  de_rr : w.de_rr = marca cfg a v.planificador.ks v.de_rr
  relojes : w.relojes = arma cfg a v.planificador.ks v.relojes

theorem planifica_avanza (moved : planifica cfg l v = some w) : ∃ a resto r, Avance cfg l v w a resto r := by
  obtain ⟨a,top,moved⟩ := Option.bind_eq_some_iff.mp moved
  obtain ⟨a_ks,_,moved⟩ := Option.bind_eq_some_iff.mp moved
  obtain ⟨t,advances,rfl⟩ := Option.map_eq_some_iff.mp moved
  obtain ⟨b,resto,r,here,alive,effect,move,rfl⟩ := paso_avanza advances
  obtain rfl : b = a := Option.some.inj ((cima_of_here here).symm.trans top)
  exact ⟨b,resto,r,here,effect,rfl,rfl,rfl,rfl⟩

theorem entrega_modo (a : Accion) (cpus : Nat → Cpu) (k : Nat) :
    (entrega a cpus k).modo = (cpus k).modo ∧ (entrega a cpus k).interrupcion_pendiente_pid = (cpus k).interrupcion_pendiente_pid := by
  unfold entrega
  split <;> first | exact ⟨rfl,rfl⟩ | (simp only [Function.update_apply]; split_ifs with same <;> simp [same,Cpu.recibe])

theorem entrega_ejecutar (a : Accion) (cpus : Nat → Cpu) (k p : Nat) :
    .ejecutar p ∈ (entrega a cpus k).socket_ks ↔ .ejecutar p ∈ (cpus k).socket_ks ∨ a = .enviar_ejecutar k p := by
  unfold entrega
  split
  case h_1 k' p' =>
    by_cases same : k = k'
    · subst same
      simp [Cpu.recibe,eq_comm]
    · simp [same,Ne.symm same]
  case h_2 k' p' => by_cases same : k = k' <;> simp [same,Cpu.recibe]
  case h_3 k' r => by_cases same : k = k' <;> simp [same,Cpu.recibe]
  case h_4 other _ _ =>
    have far : a ≠ .enviar_ejecutar k p := other k p
    simp [far]

theorem entrega_interrumpir (a : Accion) (cpus : Nat → Cpu) (k p : Nat) :
    .interrumpir p ∈ (entrega a cpus k).socket_ks ↔ .interrumpir p ∈ (cpus k).socket_ks ∨ a = .enviar_interrumpir (some k) p := by
  unfold entrega
  split
  case h_1 k' p' => by_cases same : k = k' <;> simp [same,Cpu.recibe]
  case h_2 k' p' =>
    by_cases same : k = k'
    · subst same
      simp [Cpu.recibe,eq_comm]
    · simp [same,Ne.symm same]
  case h_3 k' r => by_cases same : k = k' <;> simp [same,Cpu.recibe]
  case h_4 _ other _ =>
    have far : a ≠ .enviar_interrumpir (some k) p := other k p
    simp [far]

/-- An interrupt on its way stays so, whatever the scheduler does. -/
theorem Avance.avisado (step : Avance cfg l v w a resto r) (told : Avisado v k p) : Avisado w k p := by
  obtain ⟨_,pendiente⟩ := entrega_modo a v.cpus k
  rw [Avisado,step.planificador,step.cpus,entrega_interrumpir,pendiente]
  rcases told with sending | arrived | remembered
  · rcases pending_advance sending step.here with rfl | still
    · exact .inr (.inl (.inr rfl))
    · exact .inl still
  · exact .inr (.inl (.inl arrived))
  · exact .inr (.inr remembered)

/-- A process in the hands of a CPU was so before, unless the move is its dispatch. -/
theorem Avance.en_manos (step : Avance cfg l v w a resto r) (held : EnManos w k p) :
    EnManos v k p ∨ .enviar_ejecutar k p ∈ r.sigue ∨ ∃ pila ∈ r.lanza, .enviar_ejecutar k p ∈ pila := by
  rw [EnManos,PorVenir,step.planificador,step.cpus,(entrega_modo a v.cpus k).1,entrega_ejecutar] at held
  rcases held with running | (arrived | rfl) | ⟨pila,member,b,listed,rfl⟩
  · exact .inl (.inl running)
  · exact .inl (.inr (.inl arrived))
  · exact .inl (.inr (.inr ⟨_,List.mem_of_getElem? step.here,_,List.mem_cons_self,rfl⟩))
  · rcases mem_advance member with old | rfl | new
    · exact .inl (.inr (.inr ⟨pila,old,_,listed,rfl⟩))
    · rcases List.mem_append.mp listed with first | later
      · exact .inr (.inl first)
      · exact .inl (.inr (.inr ⟨_,List.mem_of_getElem? step.here,_,List.mem_cons_of_mem a later,rfl⟩))
    · exact .inr (.inr ⟨pila,new,listed⟩)

/-- A quantum that is counted is counted on, unless it ends. -/
theorem Avance.armado (step : Avance cfg l v w a resto r) (armed : Armado v k p)
    (timer : (r.ks.procesos p).timer = (v.planificador.ks.procesos p).timer) :
    Armado w k p ∨ ∃ t, (v.planificador.ks.procesos p).timer = some t ∧ a = .hilo_quantum t k p := by
  obtain ⟨t,has,counts⟩ := armed
  rw [Armado,step.planificador]
  rcases pending_advance counts step.here with now | still
  · cases a with
    | lanzar_quantum t' k' p' =>
      obtain ⟨rfl,rfl,rfl⟩ : t' = t ∧ k' = k ∧ p' = p := by simpa [quantum] using now
      have effect := step.effect
      cases effect
      refine .inl ⟨t',has,[.hilo_quantum t' k' p'],?_,_,List.mem_singleton_self _,rfl⟩
      simp [advance]
    | hilo_quantum t' k' p' =>
      obtain ⟨rfl,rfl,rfl⟩ : t' = t ∧ k' = k ∧ p' = p := by simpa [quantum] using now
      exact .inr ⟨t',has,rfl⟩
    | _ => cases now
  · exact .inl ⟨t,timer.trans has,still⟩

/-- What holds of every state of a run that loses no end of quantum; a timer belongs to the CPU and the process that the
    planner armed it for, and to none if it is a timer of suspension. -/
structure Coherente (v : Sistema) : Prop where
  fin : ConFin v
  quanta : Every (fun b => ∀ t k p, quantum b = some (t,k,p) → v.relojes t = some (k,p)) v.planificador.hilos
  suspensiones : Every (fun b => ∀ t p, b = .hilo_suspension t p → t < v.planificador.ks.proximo_timer ∧ v.relojes t = none)
    v.planificador.hilos
  relojes : ∀ t, v.planificador.ks.proximo_timer ≤ t → v.relojes t = none

theorem marca_of_ne (plans : a ≠ .planificar) (f : Nat → Bool) : marca cfg a s f = f := by
  cases a <;> first | rfl | exact absurd rfl plans

theorem arma_older {t : Nat} (other : t ≠ s.proximo_timer) (f : Nat → Option (Nat × Nat)) : arma cfg a s f t = f t := by
  have same : arma cfg a s f = f ∨ ∃ x, arma cfg a s f = Function.update f s.proximo_timer x := by
    unfold arma
    split
    · split_ifs
      · exact .inr ⟨_,rfl⟩
      · exact .inl rfl
    · exact .inl rfl
  rcases same with same | ⟨x,same⟩
  · rw [same]
  · rw [same,Function.update_of_ne other]

theorem arma_of_ne (plans : a ≠ .planificar) (f : Nat → Option (Nat × Nat)) : arma cfg a s f = f := by
  cases a <;> first | rfl | exact absurd rfl plans

/-- Only the planner dispatches, and the thread that resumes a process after a compaction. -/
theorem sigue_ejecutar {e : Entrada} (effect : efecto cfg hora e a s = some r) (plans : a ≠ .planificar)
    (sends : .enviar_ejecutar k p ∈ r.sigue) : a = .redespachar ∧ reanuda a s = some (k,p) := by
  by_cases resumes : a = .redespachar
  · subst resumes
    refine ⟨rfl,?_⟩
    simp only [efecto] at effect
    cases waits : s.proceso_esperando_memoria with
    | none =>
      rw [waits] at effect
      cases effect
      simp at sends
    | some q =>
      rw [waits] at effect
      obtain ⟨k',reserved,rfl⟩ := Option.map_eq_some_iff.mp effect
      obtain ⟨rfl,rfl⟩ : k = k' ∧ p = q := by simpa using sends
      simp [reanuda,waits,reserved]
  · have none := List.all_eq_true.mp (mueve_comun (efecto_mueve effect) plans resumes) _ sends
    cases none

theorem sigue_suspension {e : Entrada} {b : Accion} (effect : efecto cfg hora e a s = some r) (plans : a ≠ .planificar)
    (member : b ∈ r.sigue) (t q : Nat) : b ≠ .hilo_suspension t q := by
  rintro rfl
  by_cases resumes : a = .redespachar
  · subst resumes
    simp only [efecto] at effect
    split at effect
    · cases effect
      simp at member
    · obtain ⟨k',_,rfl⟩ := Option.map_eq_some_iff.mp effect
      simp at member
  · have none := List.all_eq_true.mp (mueve_comun (efecto_mueve effect) plans resumes) _ member
    cases none

theorem lanza_ejecutar {e : Entrada} (effect : efecto cfg hora e a s = some r) : ¬ ∃ pila ∈ r.lanza, .enviar_ejecutar k p ∈ pila := by
  rintro ⟨pila,started,member⟩
  rcases mueve_lanza (efecto_mueve effect) pila started _ member with common | ⟨_,_,_,_,same⟩ | ⟨_,same,_⟩
  · cases common
  · cases same
  · cases same

/-- The end of a timer does not move its process. -/
theorem vence_corre {e : Entrada} (effect : efecto cfg hora e a s = some r) (ends : vence a s p) :
    r.ks.listas .lista_exec = s.listas .lista_exec ∧ (r.ks.procesos p).cpu = (s.procesos p).cpu := by
  obtain ⟨t,has,⟨k,rfl⟩ | rfl⟩ := ends
  all_goals
    have move := efecto_mueve effect
    cases move <;> simp

/-- The end of the quantum of a running process sends the interrupt. -/
theorem vence_envia {e : Entrada} {t : Nat} (effect : efecto cfg hora e (.hilo_quantum t k p) s = some r)
    (runs : p ∈ s.listas .lista_exec) (has : (s.procesos p).timer = some t) : r.sigue = [.enviar_interrumpir (some k) p] := by
  have found : buscar_proceso_por_pid cfg s p = some p := by
    cases search : buscar_proceso_por_pid cfg s p with
    | none =>
      have missing := List.find?_eq_none.mp search p (by simp [runs])
      simp at missing
    | some q => rw [find_self search]
  cases effect
  simp [hilo_quantum,found,has]

namespace Avance
variable (step : Avance cfg l v w a resto r)
include step

theorem vigente (held : Coherente v) {t : Nat} {x : Nat × Nat} (set : v.relojes t = some x) : w.relojes t = some x := by
  rw [step.relojes,arma_older _ v.relojes]
  · exact set
  · rintro rfl
    rw [held.relojes _ (Nat.le_refl _)] at set
    cases set

/-- A process that goes on running keeps its end of quantum to come. -/
theorem sigue_con_fin (held : Coherente v) (runs : Corre v k p) (held' : EnManos w k p)
    (timer : (r.ks.procesos p).timer = (v.planificador.ks.procesos p).timer ∨ vence a v.planificador.ks p)
    (plans : a ≠ .planificar) (resumes : ∀ k p, reanuda a v.planificador.ks = some (k,p) → v.de_rr p = true → Armado v k p) :
    Armado w k p ∨ Avisado w k p := by
  have fired : ∀ t, (v.planificador.ks.procesos p).timer = some t → a = .hilo_quantum t k p → Avisado w k p := by
    rintro t has rfl
    have sends := vence_envia step.effect runs.1 has
    refine .inl ?_
    rw [step.planificador]
    exact pending_next step.here ⟨_,by rw [sends]; simp,rfl⟩
  have armed : Armado v k p → Armado w k p ∨ Avisado w k p := by
    intro armed
    rcases timer with same | ⟨t,has,⟨k',rfl⟩ | rfl⟩
    · rcases step.armado armed same with still | ⟨t,has,now⟩
      · exact .inl still
      · exact .inr (fired t has now)
    · obtain ⟨t',has',pila,member,b,listed,counts⟩ := armed
      obtain rfl : t' = t := Option.some.inj (has'.symm.trans has)
      have mine := held.quanta pila member b listed t' k p counts
      have other := every_here held.quanta step.here t' k' p rfl
      obtain rfl : k' = k := (Prod.mk.inj (Option.some.inj (other.symm.trans mine))).1
      exact .inr (fired t' has rfl)
    · obtain ⟨t',has',pila,member,b,listed,counts⟩ := armed
      obtain rfl : t' = t := Option.some.inj (has'.symm.trans has)
      have mine := held.quanta pila member b listed t' k p counts
      rw [(every_here held.suspensiones step.here t' p rfl).2] at mine
      cases mine
  rcases step.en_manos held' with before | sends | starts
  · rcases held.fin k p runs before with set | told
    · exact armed set
    · exact .inr (step.avisado told)
  · exact armed (resumes k p (sigue_ejecutar step.effect plans sends).2 runs.2.1)
  · exact absurd starts (lanza_ejecutar step.effect)

end Avance

theorem planifica_con_fin (held : Coherente v) (guard : SinPerder (.planificador l) v) (step : Avance cfg l v w a resto r) : ConFin w := by
  obtain ⟨quiet,resumes⟩ := guard a (cima_of_here step.here)
  rintro k p ⟨runs,rr,cpu⟩ held'
  rw [step.planificador] at runs cpu
  rw [step.de_rr] at rr
  by_cases plans : a = .planificar
  · subst plans
    obtain ⟨none,⟨idle,same,common⟩ | ⟨c,q,k',sent⟩⟩ := planificar_cases step.effect
    · rw [marca,idle] at rr
      rw [same] at runs cpu
      rcases step.en_manos held' with before | sends | starts
      · rcases held.fin k p ⟨runs,rr,cpu⟩ before with set | told
        · rcases step.armado set (by rw [same]) with still | ⟨_,_,bad⟩
          · exact .inl still
          · cases bad
        · exact .inr (step.avisado told)
      · cases List.all_eq_true.mp common _ sends
      · exact absurd starts (lanza_ejecutar step.effect)
    · rw [marca,sent.elegido] at rr
      by_cases mine : p = q
      · subst mine
        simp only [Function.update_self] at rr
        obtain ⟨timer,_,counts⟩ := sent.timer rr
        obtain rfl : k' = k := Option.some.inj (sent.cpu.symm.trans cpu)
        refine .inl ⟨v.planificador.ks.proximo_timer,?_,?_⟩
        · rw [step.planificador]
          exact timer
        · rw [step.planificador]
          exact pending_next step.here ⟨_,List.mem_append_left resto counts,rfl⟩
      · simp only [Function.update_of_ne mine] at rr
        rw [sent.exec] at runs
        rw [sent.otros p mine] at cpu
        have runs : p ∈ v.planificador.ks.listas .lista_exec := by simpa [mine] using runs
        rcases step.en_manos held' with before | sends | starts
        · rcases held.fin k p ⟨runs,rr,cpu⟩ before with set | told
          · rcases step.armado set (by rw [sent.otros p mine]) with still | ⟨_,_,bad⟩
            · exact .inl still
            · cases bad
          · exact .inr (step.avisado told)
        · rcases sent.envia _ sends with common | same | ⟨_,same⟩
          · cases common
          · cases same
            exact absurd rfl mine
          · cases same
        · exact absurd starts (lanza_ejecutar step.effect)
  · rw [marca_of_ne plans] at rr
    rcases efecto_calma step.effect plans quiet p with calm | ends | ⟨rfl,waits,place,timer⟩
    · obtain ⟨before,cpu,timer⟩ := calm runs k cpu
      exact step.sigue_con_fin held ⟨before,rr,cpu⟩ held' (.inl timer) plans resumes
    · obtain ⟨exec,place⟩ := vence_corre step.effect ends
      rw [exec] at runs
      rw [place] at cpu
      exact step.sigue_con_fin held ⟨runs,rr,cpu⟩ held' (.inr ends) plans resumes
    · have set := resumes k p (by simp [reanuda,waits,place.symm.trans cpu]) rr
      rcases step.armado set timer with still | ⟨_,_,bad⟩
      · exact .inl still
      · cases bad

theorem arma_planificar {c : Cola} {q : Nat} (sent : Despacho cfg s r c q k) (f : Nat → Option (Nat × Nat)) :
    arma cfg .planificar s f = if necesita_timer cfg c then Function.update f s.proximo_timer (some (k,q)) else f := by
  obtain ⟨libres,free⟩ := sent.libre
  rw [arma,sent.elegido,free]

theorem arma_ocioso (idle : despachado cfg a s = none) (f : Nat → Option (Nat × Nat)) : arma cfg a s f = f := by
  rw [arma,idle]

theorem avance_quanta (held : Coherente v) (step : Avance cfg l v w a resto r) :
    Every (fun b => ∀ t k p, quantum b = some (t,k,p) → w.relojes t = some (k,p)) w.planificador.hilos := by
  rw [step.planificador]
  have kept := held.quanta.mono (fun b old t k p counts => step.vigente held (old t k p counts))
  refine every_advance kept step.here ?_ ?_
  · intro b next t k p counts
    by_cases plans : a = .planificar
    · subst plans
      obtain ⟨_,⟨_,_,common⟩ | ⟨c,q,k',sent⟩⟩ := planificar_cases step.effect
      · rw [comun_quantum (List.all_eq_true.mp common b next)] at counts
        cases counts
      · rcases sent.envia b next with plain | rfl | ⟨needs,rfl⟩
        · rw [comun_quantum plain] at counts
          cases counts
        · cases counts
        · cases counts
          rw [step.relojes,arma_planificar sent,if_pos needs,Function.update_self]
    · have none := List.all_eq_true.mp (mueve_quantum (efecto_mueve step.effect) plans) b next
      rw [counts] at none
      cases none
  · intro pila started b listed t k p counts
    have now := (mueve_lanza_quantum (efecto_mueve step.effect) pila started b listed _ counts).1
    exact step.vigente held (every_here held.quanta step.here t k p now)

theorem avance_suspensiones (held : Coherente v) (step : Avance cfg l v w a resto r) :
    Every (fun b => ∀ t p, b = .hilo_suspension t p → t < w.planificador.ks.proximo_timer ∧ w.relojes t = none) w.planificador.hilos := by
  rw [step.planificador,step.relojes]
  have grows := mueve_proximo_timer (efecto_mueve step.effect)
  refine every_advance (held.suspensiones.mono ?_) step.here ?_ ?_
  · intro b old t p same
    obtain ⟨older,unset⟩ := old t p same
    refine ⟨older.trans_le grows,?_⟩
    rw [arma_older older.ne]
    exact unset
  · rintro b next t p rfl
    by_cases plans : a = .planificar
    · subst plans
      obtain ⟨_,⟨_,_,common⟩ | ⟨c,q,k',sent⟩⟩ := planificar_cases step.effect
      · cases List.all_eq_true.mp common _ next
      · rcases sent.envia _ next with plain | same | ⟨_,same⟩
        · cases plain
        · cases same
        · cases same
    · exact absurd rfl (sigue_suspension step.effect plans next t p)
  · rintro pila started b listed t p rfl
    rcases mueve_lanza (efecto_mueve step.effect) pila started _ listed with plain | ⟨_,_,_,_,same⟩ | ⟨_,same,next⟩
    · cases plain
    · cases same
    · cases same
      refine ⟨by rw [next]; exact Nat.lt_succ_self _,?_⟩
      have plans : a ≠ .planificar := by
        rintro rfl
        rw [(planificar_cases step.effect).1] at started
        cases started
      rw [arma_of_ne plans]
      exact held.relojes _ (Nat.le_refl _)

theorem avance_relojes (held : Coherente v) (step : Avance cfg l v w a resto r) :
    ∀ t, w.planificador.ks.proximo_timer ≤ t → w.relojes t = none := by
  intro t later
  rw [step.planificador] at later
  have older := (mueve_proximo_timer (efecto_mueve step.effect)).trans later
  rw [step.relojes]
  by_cases plans : a = .planificar
  · subst plans
    obtain ⟨_,⟨idle,_⟩ | ⟨c,q,k',sent⟩⟩ := planificar_cases step.effect
    · rw [arma_ocioso idle]
      exact held.relojes t older
    · rw [arma_planificar sent]
      split_ifs with needs
      · obtain ⟨_,next,_⟩ := sent.timer needs
        replace later : r.ks.proximo_timer ≤ t := later
        rw [Function.update_of_ne (by omega)]
        exact held.relojes t older
      · exact held.relojes t older
  · rw [arma_of_ne plans]
    exact held.relojes t older

theorem planifica_coherente (held : Coherente v) (guard : SinPerder (.planificador l) v) (moved : planifica cfg l v = some w) :
    Coherente w := by
  obtain ⟨a,resto,r,step⟩ := planifica_avanza moved
  exact ⟨planifica_con_fin held guard step,avance_quanta held step,avance_suspensiones held step,avance_relojes held step⟩

end planificador

/-! ## A turn of a CPU -/

section turnos
variable {v w : Sistema} {k : Nat}

/-- What a turn does of the process in the hands of the CPU, and of the interrupts that it knows of. -/
structure Gira (e : Evento) (v : Sistema) (k : Nat) (c : Cpu) : Prop where
  modo : ∀ p, c.modo.pid = some p → (v.cpus k).modo.pid = some p ∨ .ejecutar p ∈ (v.cpus k).socket_ks
  ejecutar : ∀ p, .ejecutar p ∈ c.socket_ks → .ejecutar p ∈ (v.cpus k).socket_ks
  avisado : ∀ p, .interrumpir p ∈ (v.cpus k).socket_ks ∨ (v.cpus k).interrupcion_pendiente_pid = some p →
    (.interrumpir p ∈ c.socket_ks ∨ c.interrupcion_pendiente_pid = some p) ∨
      gasta e v = some (k,p) ∧ (c.modo.pid = some p → conserva e v = some p ∨ .ejecutar p ∈ (v.cpus k).socket_ks)

theorem leer_gira {contexto : Bool} {r : Turno} (turn : leer contexto (v.cpus k) = some r) : Gira (.lee k contexto) v k r.1 := by
  unfold leer at turn
  split at turn
  case h_1 principal =>
    unfold main_loop at turn
    split at turn
    case h_1 => cases turn
    case h_2 pid rest socket =>
      split_ifs at turn with asked <;> cases turn
      · refine ⟨?_,fun p member => by rw [socket]; exact List.mem_cons_of_mem _ member,?_⟩
        · intro p running
          obtain rfl : pid = p := Option.some.inj running
          exact .inr (by rw [socket]; exact List.mem_cons_self)
        · intro p told
          exact .inl (by simpa [socket] using told)
      · refine ⟨fun p running => ?_,fun p member => by rw [socket]; exact List.mem_cons_of_mem _ member,?_⟩
        · rw [principal] at running
          cases running
        · intro p told
          exact .inl (by simpa [socket] using told)
    case h_3 m rest other socket =>
      cases turn
      refine ⟨fun p running => .inl running,fun p member => by rw [socket]; exact List.mem_cons_of_mem _ member,?_⟩
      intro p told
      cases m with
      | ejecutar q => exact absurd rfl (other q)
      | respuesta r => exact .inl (by simpa [socket] using told)
      | interrumpir q =>
        by_cases same : p = q
        · subst same
          refine .inr ⟨by simp [gasta,principal,socket],fun running => ?_⟩
          rw [principal] at running
          cases running
        · exact .inl (by simpa [socket,same] using told)
  case h_2 pid tipo waits =>
    unfold recibir_respuesta_scheduler at turn
    split at turn
    case h_1 => cases turn
    case h_2 q rest socket =>
      cases turn
      refine ⟨fun p running => .inl running,fun p member => by rw [socket]; exact List.mem_cons_of_mem _ member,?_⟩
      rintro p (arrived | remembered)
      · refine .inl ?_
        rw [socket] at arrived
        rcases List.mem_cons.mp arrived with same | later
        · cases same
          exact .inr rfl
        · exact .inl later
      · by_cases same : p = q
        · exact .inl (.inr (by rw [same]))
        · exact .inr ⟨by simp [gasta,waits,socket,remembered,same],fun running => .inl running⟩
    case h_3 m rest other socket =>
      have told : ∀ p, .interrumpir p ∈ (v.cpus k).socket_ks ∨ (v.cpus k).interrupcion_pendiente_pid = some p →
          .interrumpir p ∈ rest ∨ (v.cpus k).interrupcion_pendiente_pid = some p := by
        intro p told
        rw [socket] at told
        refine told.imp_left (fun arrived => ?_)
        exact (List.mem_cons.mp arrived).resolve_left (fun same => other p same.symm)
      split_ifs at turn <;> cases turn
      · refine ⟨fun p running => ?_,fun p member => by rw [socket]; exact List.mem_cons_of_mem _ member,fun p before => .inl (told p before)⟩
        cases running
      · refine ⟨fun p running => ?_,fun p member => by rw [socket]; exact List.mem_cons_of_mem _ member,fun p before => .inl (told p before)⟩
        cases running
      · refine ⟨fun p running => ?_,fun p member => by rw [socket]; exact List.mem_cons_of_mem _ member,fun p before => .inl (told p before)⟩
        exact .inl (by rw [waits]; exact running)
  case h_3 => cases turn

theorem instruir_gira {i : Instruccion} {r : Turno} (turn : instruir i (v.cpus k) = some r) : Gira (.instruccion k i) v k r.1 := by
  unfold instruir at turn
  split at turn
  case h_1 pid runs =>
    unfold ejecutar_ciclo_instruccion at turn
    have kept : r.1.socket_ks = (v.cpus k).socket_ks ∧ r.1.interrupcion_pendiente_pid = (v.cpus k).interrupcion_pendiente_pid ∧
        ∀ p, r.1.modo.pid = some p → p = pid := by
      split at turn <;> cases turn <;> simp [Modo.pid,eq_comm]
    obtain ⟨socket,pendiente,mine⟩ := kept
    refine ⟨fun p running => ?_,fun p member => by rw [← socket]; exact member,fun p told => .inl (by rw [socket,pendiente]; exact told)⟩
    obtain rfl := mine p running
    exact .inl (by rw [runs]; rfl)
  case h_2 => cases turn

/-- The check takes an interrupt, and the CPU goes on with another process than the interrupted one. -/
structure Revisado (pid : Nat) (c d : Cpu) : Prop where
  modo : ∀ p, d.modo.pid = some p → p = pid
  socket : ∀ m ∈ d.socket_ks, m ∈ c.socket_ks
  avisado : ∀ p, .interrumpir p ∈ c.socket_ks ∨ c.interrupcion_pendiente_pid = some p →
    (.interrumpir p ∈ d.socket_ks ∨ d.interrupcion_pendiente_pid = some p) ∨ d.modo.pid ≠ some p ∧
      (c.interrupcion_pendiente_pid = some p ∨ c.interrupcion_pendiente_pid = none ∧ ∃ resto, c.socket_ks = .interrumpir p :: resto)

theorem revisar_revisado {pid : Nat} {c : Cpu} {r : Turno} (checks : c.modo = .check_interrupt pid) (turn : revisar c = some r) :
    Revisado pid c r.1 := by
  rw [revisar,checks] at turn
  cases pending : c.interrupcion_pendiente_pid with
  | some q =>
    have taken : check_interrupt pid c = (decide (q = pid),{ c with interrupcion_pendiente_pid := none }) := by
      rw [check_interrupt,pending]
    simp only [taken,decide_eq_true_eq] at turn
    have told : ∀ p, .interrumpir p ∈ c.socket_ks ∨ c.interrupcion_pendiente_pid = some p → p ≠ q → .interrumpir p ∈ c.socket_ks := by
      rintro p (arrived | remembered) other
      · exact arrived
      · rw [pending] at remembered
        exact absurd (Option.some.inj remembered).symm other
    split_ifs at turn with mine <;> cases turn
    · refine ⟨fun p running => (nomatch running),fun m member => member,fun p before => ?_⟩
      by_cases same : p = q
      · exact .inr ⟨by simp [Modo.pid],.inl (by rw [pending,same])⟩
      · exact .inl (.inl (told p before same))
    · refine ⟨fun p running => (Option.some.inj running).symm,fun m member => member,fun p before => ?_⟩
      by_cases same : p = q
      · exact .inr ⟨by simpa [Modo.pid,same,eq_comm] using mine,.inl (by rw [pending,same])⟩
      · exact .inl (.inl (told p before same))
  | none =>
    cases socket : c.socket_ks with
    | nil =>
      have taken : check_interrupt pid c = (false,c) := by rw [check_interrupt,pending,socket]
      simp only [taken] at turn
      cases turn
      exact ⟨fun p running => (Option.some.inj running).symm,fun m member => member,fun p before => .inl before⟩
    | cons m rest =>
      cases m with
      | interrumpir q =>
        have taken : check_interrupt pid c = (decide (q = pid),{ c with socket_ks := rest }) := by
          rw [check_interrupt,pending,socket]
        simp only [taken,decide_eq_true_eq] at turn
        split_ifs at turn with mine <;> cases turn
        · refine ⟨fun p running => (nomatch running),fun m member => by rw [socket]; exact List.mem_cons_of_mem _ member,fun p before => ?_⟩
          by_cases same : p = q
          · exact .inr ⟨by simp [Modo.pid],.inr ⟨pending,rest,by rw [same,socket]⟩⟩
          · exact .inl (by simpa [socket,same] using before)
        · refine ⟨fun p running => (Option.some.inj running).symm,fun m member => by rw [socket]; exact List.mem_cons_of_mem _ member,
            fun p before => ?_⟩
          by_cases same : p = q
          · exact .inr ⟨by simpa [Modo.pid,same,eq_comm] using mine,.inr ⟨pending,rest,by rw [same,socket]⟩⟩
          · exact .inl (by simpa [socket,same] using before)
      | ejecutar q | respuesta q =>
        have taken : check_interrupt pid c = (false,{ c with socket_ks := rest }) := by rw [check_interrupt,pending,socket]
        simp only [taken] at turn
        cases turn
        exact ⟨fun p running => (Option.some.inj running).symm,fun m member => by rw [socket]; exact List.mem_cons_of_mem _ member,
          fun p before => .inl (by simpa [socket] using before)⟩

theorem revisar_gira {r : Turno} (turn : revisar (v.cpus k) = some r) : Gira (.revisa k) v k r.1 := by
  cases checks : (v.cpus k).modo with
  | check_interrupt pid =>
    have done := revisar_revisado checks turn
    refine ⟨fun p running => ?_,fun p member => done.socket _ member,fun p told => ?_⟩
    · rw [checks,done.modo p running]
      exact .inl rfl
    · rcases done.avisado p told with kept | ⟨stopped,remembered | ⟨none,rest,socket⟩⟩
      · exact .inl kept
      · exact .inr ⟨by simp [gasta,remembered],fun running => absurd running stopped⟩
      · exact .inr ⟨by simp [gasta,none,socket],fun running => absurd running stopped⟩
  | _ =>
    rw [revisar,checks] at turn
    cases turn

theorem irse_gira {r : Turno} (turn : irse (v.cpus k) = some r) : Gira (.se_va k) v k r.1 := by
  unfold irse at turn
  split_ifs at turn
  cases turn
  exact ⟨fun p running => (nomatch running),fun p member => member,fun p told => .inl told⟩

/-- A turn of a CPU that takes no interrupt that is still needed keeps the ends of quantum to come. -/
theorem turno_coherente {e : Evento} {r : Turno} (held : Coherente v) (turn : Gira e v k r.1)
    (guard : ∀ k p, gasta e v = some (k,p) → Corre v k p → (conserva e v = some p ∨ PorVenir v k p) → Armado v k p) :
    Coherente (v.turno k r) := by
  refine ⟨?_,held.quanta,held.suspensiones,held.relojes⟩
  intro j p runs held'
  have cpu : ∀ i, i ≠ k → (v.turno k r).cpus i = v.cpus i := fun i other => by simp [Sistema.turno,other]
  have mine : (v.turno k r).cpus k = r.1 := by simp [Sistema.turno]
  by_cases same : j = k
  · subst same
    have por_venir : PorVenir (v.turno j r) j p → PorVenir v j p := by
      rintro (arrived | sending)
      · rw [mine] at arrived
        exact .inl (turn.ejecutar p arrived)
      · exact .inr sending
    have before : EnManos v j p := by
      rcases held' with running | coming
      · rw [mine] at running
        exact (turn.modo p running).imp_right .inl
      · exact .inr (por_venir coming)
    rcases held.fin j p runs before with armed | sending | told
    · exact .inl armed
    · exact .inr (.inl sending)
    · rcases turn.avisado p told with kept | ⟨spent,goes_on⟩
      · exact .inr (.inr (by rw [mine]; exact kept))
      · refine .inl (guard j p spent runs ?_)
        rcases held' with running | coming
        · rw [mine] at running
          exact (goes_on running).imp_right .inl
        · exact .inr (por_venir coming)
  · simp only [EnManos,PorVenir,Avisado,cpu j same] at held' ⊢
    exact held.fin j p runs held'

theorem paso_coherente {cfg : Config} {e : Evento} (held : Coherente v) (guard : SinPerder e v) (moved : paso cfg e v = some w) :
    Coherente w := by
  cases e with
  | planificador l => exact planifica_coherente held guard moved
  | lee k contexto =>
    obtain ⟨r,turn,rfl⟩ := Option.map_eq_some_iff.mp moved
    exact turno_coherente held (leer_gira turn) guard
  | instruccion k i =>
    obtain ⟨r,turn,rfl⟩ := Option.map_eq_some_iff.mp moved
    exact turno_coherente held (instruir_gira turn) guard
  | revisa k =>
    obtain ⟨r,turn,rfl⟩ := Option.map_eq_some_iff.mp moved
    exact turno_coherente held (revisar_gira turn) guard
  | se_va k =>
    obtain ⟨r,turn,rfl⟩ := Option.map_eq_some_iff.mp moved
    exact turno_coherente held (irse_gira turn) guard

end turnos

/-! ## Runs -/

theorem inicio_coherente : Coherente CpuTurns.inicio := by
  refine ⟨?_,?_,?_,fun _ _ => rfl⟩
  · rintro k p ⟨runs,_⟩
    cases runs
  · intro pila member b listed t k p counts
    simp [CpuTurns.inicio,inicial] at member
    subst member
    simp at listed
    subst listed
    cases counts
  · intro pila member b listed t p same
    simp [CpuTurns.inicio,inicial] at member
    subst member
    simp at listed
    rw [listed] at same
    cases same

/-- In a run that loses no end of quantum every process that runs by a dispatch from an RR queue has one to come,
    as long as its CPU has not given it back. -/
theorem running_has_end {cfg : Config} {labels : List Evento} {v : Sistema}
    (safe : Guarded (CpuTurns.paso cfg) SinPerder labels CpuTurns.inicio)
    (reached : run (CpuTurns.paso cfg) labels CpuTurns.inicio = some v) : ConFin v :=
  (invariant_of_guarded (fun _ _ _ held guard moved => paso_coherente held guard moved) inicio_coherente safe reached).fin

/-- CPU 0 reads the dispatch of process 0 and executes an instruction; the quantum ends, and the interrupt arrives. -/
def fin_de_quantum : List Evento :=
  con_quantum.map .planificador ++ [.lee 0 true,.instruccion 0 .comun,.planificador { hilo := 4 },.planificador { hilo := 4 }]

theorem running_has_end_interrumpido : ∃ v, run (CpuTurns.paso rr) fin_de_quantum CpuTurns.inicio = some v ∧
    Corre v 0 0 ∧ EnManos v 0 0 ∧ ConFin v := by
  have ends : (run (CpuTurns.paso rr) fin_de_quantum CpuTurns.inicio).map
      (fun v => (decide (Corre v 0 0),decide (EnManos v 0 0))) = some (true,true) := by decide +kernel
  obtain ⟨v,reached,ends⟩ := Option.map_eq_some_iff.mp ends
  obtain ⟨runs,held⟩ := Prod.mk.inj ends
  exact ⟨v,reached,of_decide_eq_true runs,of_decide_eq_true held,running_has_end (by decide +kernel) reached⟩

/-- Process 0 asks for memory, which Kernel Memory has to compact first. -/
def mem_alloc_que_espera : List Paso :=
  llama 3 0 .mem_alloc (.enteros 0 16) ++ turnos 3 1 ++ [{ hilo := 3, entrada := .respuesta .COMPACTAR }] ++ turnos 3 6

/-- The process blocks, and its CPU reads OP_BLOQUEADO. -/
def por_compactar : List Evento :=
  con_quantum.map .planificador ++ .lee 0 true :: .instruccion 0 (.llamada .mem_alloc (.enteros 0 16)) ::
    (mem_alloc_que_espera.map .planificador ++ [.lee 0 true])

/-- Its quantum ends, the main loop of the CPU drops the interrupt, and the compaction ends. -/
def sin_fin_de_quantum : List Evento :=
  por_compactar ++ .planificador { hilo := 4 } :: .planificador { hilo := 4 } :: .lee 0 true ::
    .planificador { hilo := 2, entrada := .aviso .fin_compactacion } :: ((turnos 2 3).map .planificador ++ [.lee 0 true])

/-- The process runs again, and nothing is to take its CPU from it. -/
theorem no_end_after_compaction : ∃ v, run (CpuTurns.paso rr) sin_fin_de_quantum CpuTurns.inicio = some v ∧
    Corre v 0 0 ∧ (v.cpus 0).modo = .ejecuta 0 ∧ (v.planificador.ks.procesos 0).timer = none ∧ ¬ Avisado v 0 0 ∧ ¬ ConFin v := by
  have ends : (run (CpuTurns.paso rr) sin_fin_de_quantum CpuTurns.inicio).map (fun v => (decide (Corre v 0 0),(v.cpus 0).modo,
      (v.planificador.ks.procesos 0).timer,decide (Avisado v 0 0))) = some (true,.ejecuta 0,none,false) := by decide +kernel
  obtain ⟨v,reached,ends⟩ := Option.map_eq_some_iff.mp ends
  obtain ⟨runs,ends⟩ := Prod.mk.inj ends
  obtain ⟨executes,ends⟩ := Prod.mk.inj ends
  obtain ⟨unarmed,untold⟩ := Prod.mk.inj ends
  have runs := of_decide_eq_true runs
  have untold := of_decide_eq_false untold
  refine ⟨v,reached,runs,executes,unarmed,untold,fun claim => ?_⟩
  rcases claim 0 0 runs (.inl (by rw [executes]; rfl)) with ⟨t,has,_⟩ | told
  · rw [unarmed] at has
    cases has
  · exact untold told

end PlugNPray.RunningQuanta
