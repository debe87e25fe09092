import PlugNPray.ProcessLists

/-!
Where the CPUs are: on lista_cpus_libres, with the process that runs on them, in the hands
of a handler that is about to give them back, or kept for the process that waits for the end of
a compaction.
-/
namespace PlugNPray.CpuPlaces
open PlugNPray.Scheduler PlugNPray.Handlers PlugNPray.ReadyQueues PlugNPray.Moves PlugNPray.Stacks PlugNPray.Runs
open PlugNPray.ProcessLists
open PlugNPray.Shutdown (siesta)

/-! ## Places -/

/-- The running processes that are assigned the CPU. -/
def ejecuciones (k : Nat) (s : Ks) : Nat := (s.listas .lista_exec).countP (fun p => (s.procesos p).cpu = some k)

/-- The CPU of the process that waits for the end of the compaction. -/
def reservada (k : Nat) (s : Ks) : Nat := if s.compactando = true ∧ s.cpu_esperando_memoria = some k then 1 else 0

/-- A handler gives the CPU back later. -/
def en_manos (k : Nat) : Accion → Nat
  | .agregar_cpu c | .liberar_cpu_de_quantum c _ | .pedir (.finalizar_proceso _ c) | .recibir (.finalizar_proceso _ c) =>
    if c = some k then 1 else 0
  | _ => 0

def sitios (k : Nat) (s : Ks) : Nat := s.lista_cpus_libres.count (some k) + ejecuciones k s + reservada k s

def lugares (k : Nat) (s : Planificador) : Nat := sitios k s.ks + total (en_manos k) s.hilos

/-- The thread of the CPU goes on reading from it. -/
def atiende (k : Nat) (a : Accion) : Nat := if a = .atender_cpu k then 1 else 0
def desconecta (k : Nat) (a : Accion) : Nat := if a = .desconectar_cpu k then 1 else 0

/-- The token of sem_puede_planificar that a thread holds. -/
def permiso : Accion → Nat
  | .planificar | .post_puede_planificar | .anotar_espera _ | .bloquear_por_compactacion _ | .redespachar => 1
  | _ => 0

def suspende (p : Nat) (a : Accion) : Nat := if a = .bloquear_por_compactacion p then 1 else 0

/-- Kernel Memory ends the compaction that it was told to begin. -/
def fin_debido (a : Accion) (_ : Entrada) (s : Ks) : Bool := a ≠ .fin_compactacion || s.compactando

/-! ## What leaves the CPUs where they are -/

/-- What the state says of the CPUs, apart from the processes. -/
def resto (s : Ks) : List (Option Nat) × Bool × Option Nat × Option Nat × Nat × Nat :=
  (s.lista_cpus_libres,s.compactando,s.proceso_esperando_memoria,s.cpu_esperando_memoria,s.sem_puede_planificar,s.proximo_cliente)

theorem laterajena : Ajena resto := fun _ _ _ _ _ => rfl

/-- The running processes are the same, and nobody has another CPU; only a new process is given none. -/
structure Igual (s t : Ks) : Prop where
  exec : t.listas .lista_exec = s.listas .lista_exec
  cpus : ∀ p, (t.procesos p).cpu = (s.procesos p).cpu ∨ p ∉ s.listas .lista_exec ∧ (t.procesos p).cpu = none
  resto : resto t = resto s

variable {cfg : Config} {hora : Nat} {s t u : Ks} {p q k : Nat}

theorem Igual.cpu (same : Igual s t) (runs : p ∈ s.listas .lista_exec) : (t.procesos p).cpu = (s.procesos p).cpu :=
  (same.cpus p).resolve_right (fun none => none.1 runs)

theorem igual_refl : Igual s s := ⟨rfl,fun _ => .inl rfl,rfl⟩

theorem Igual.trans (first : Igual s t) (second : Igual t u) : Igual s u where
  exec := second.exec.trans first.exec
  cpus p := by
    have outside : p ∉ t.listas .lista_exec → p ∉ s.listas .lista_exec := fun out runs => out (by rw [first.exec]; exact runs)
    rcases second.cpus p with same | ⟨out,none⟩
    · rcases first.cpus p with same' | ⟨out,none⟩
      · exact .inl (same.trans same')
      · exact .inr ⟨out,same.trans none⟩
    · exact .inr ⟨outside out,none⟩
  resto := second.resto.trans first.resto

theorem Igual.ejecuciones (same : Igual s t) (k : Nat) : ejecuciones k t = ejecuciones k s := by
  unfold CpuPlaces.ejecuciones
  rw [same.exec]
  refine List.countP_congr (fun p runs => ?_)
  rw [same.cpu runs]

theorem Igual.sitios (same : Igual s t) (k : Nat) : sitios k t = sitios k s := by
  have rest := same.resto
  simp only [CpuPlaces.resto,Prod.mk.injEq] at rest
  obtain ⟨libres,compactando,-,cpu,-⟩ := rest
  simp only [CpuPlaces.sitios,reservada,same.ejecuciones k,libres,compactando,cpu]

/-- Where a process keeps its CPU and lista_exec its processes. -/
theorem igual_of (exec : t.listas .lista_exec = s.listas .lista_exec) (cpu : ∀ p, (t.procesos p).cpu = (s.procesos p).cpu)
    (rest : resto t = resto s) : Igual s t := ⟨exec,fun p => .inl (cpu p),rest⟩

theorem igual_con_mutex (j : Nat) (f : Mutex → Mutex) : Igual s (s.con_mutex j f) := igual_of rfl (fun _ => rfl) rfl

theorem cpu_con_proceso {f : Proceso → Proceso} (keeps : (f (s.procesos q)).cpu = (s.procesos q).cpu) (p : Nat) :
    ((s.con_proceso q f).procesos p).cpu = (s.procesos p).cpu := by
  by_cases same : p = q
  · subst same
    simpa using keeps
  · simp [same]

theorem igual_cancelar : Igual s (s.cancelar_timer q) := igual_of rfl (cpu_con_proceso (f := fun x => { x with timer := none }) rfl) rfl

theorem igual_herencia {espera : List Nat} {r : Ks × Pila} (what : Herencia cfg q espera s r) : Igual s r.1 := by
  refine igual_of (herencia_lista rfl what) (fun p => ?_) (herencia_ajena laterajena what)
  cases what with
  | nada => rfl
  | cambia => by_cases same : p = q <;> simp [same]
  | muda => split_ifs <;> by_cases same : p = q <;> simp [same]

theorem igual_devolucion (what : Devolucion q s t) : Igual s t := by
  refine igual_of (devolucion_lista what) (fun p => ?_) (devolucion_ajena laterajena what)
  cases what with
  | nada => rfl
  | cambia => by_cases same : p = q <;> simp [same]

theorem igual_despierta {r : Ks × Pila} (what : Despierta cfg hora q s r) : Igual s r.1 := by
  refine igual_of ?_ (fun p => ?_) (despierta_ajena laterajena what)
  · cases what <;> simp [mover_a_susp_ready]
  · cases what <;> by_cases same : p = q <;> simp [mover_a_susp_ready,same]

theorem igual_heredar {i : Nat} {espera : List Nat} : Igual s (heredar_mutex cfg i q espera s).1 :=
  (igual_con_mutex i _).trans (igual_herencia (heredar_mutex_cases cfg i q espera s))

theorem igual_siguiente {d : Efecto} (wakes : Siguiente q s d) : Igual s d.ks := by
  cases wakes <;> exact igual_cancelar

theorem igual_liberar (pid i : Nat) : Igual s (liberar_mutex_del_proceso cfg hora pid i s).1 := by
  have body : Bucle cfg hora pid (Igual s) (fun t _ => Igual s t) :=
    { acaba := fun _ same => same
      suelta := fun _ j _ same _ _ _ => same.trans (igual_con_mutex j _)
      pausa := fun _ _ _ _ _ same _ _ _ _ => same.trans igual_heredar
      sigue := fun _ _ _ _ _ _ same _ _ _ _ what =>
        have done := (same.trans igual_heredar).trans (igual_despierta what)
        ⟨fun _ => done,fun _ => done⟩ }
  exact liberar_mutex_del_proceso_rule body i igual_refl

theorem igual_pasa {c : Cola} (other : c ≠ .lista_exec) : Igual s (pasa_a_ready cfg c q s) := by
  refine igual_of ?_ (fun p => ?_) rfl
  · have apart := ne_destino (c := .lista_exec) rfl cfg (s.procesos q).prioridad
    simp [pasa_a_ready,Ne.symm other,apart]
  · by_cases same : p = q <;> simp [pasa_a_ready,same]

/-- The moves that neither move a CPU nor take or give leave to plan. -/
def tranquila : Accion → Bool
  | .post_puede_planificar | .pedir (.finalizar_proceso _ _) | .recibir (.finalizar_proceso _ _) | .atender_conexiones_entrantes
  | .esperar_permiso | .planificar | .agregar_cpu _ | .atender_cpu _ | .desconectar_cpu _ | .manejar_proceso_exit _
  | .manejar_seg_fault _ | .manejar_fin_quantum _ | .liberar_cpu_de_quantum _ _ | .bloquear_proceso _ _ | .esperar_planificacion _
  | .anotar_espera _ | .bloquear_por_compactacion _ | .fin_compactacion | .redespachar | .limpiar_espera | .manejar_bsod => false
  | _ => true

/-- The actions that hold a CPU, a connection or leave to plan. -/
def pesada : Accion → Bool
  | .agregar_cpu _ | .liberar_cpu_de_quantum _ _ | .pedir (.finalizar_proceso _ _) | .recibir (.finalizar_proceso _ _)
  | .atender_cpu _ | .desconectar_cpu _ | .planificar | .post_puede_planificar | .anotar_espera _
  | .bloquear_por_compactacion _ | .redespachar | .limpiar_espera => true
  | _ => false

theorem ligera_de_bucle : ∀ b, de_bucle b = true → (!pesada b) = true := by
  intro b loop
  cases b <;> first | rfl | cases loop

theorem ligera_desalojo {pila : Pila} (one : Desalojo pila) : pila.all (fun b => !pesada b) = true :=
  all_de_bucle ligera_de_bucle (desalojo_de_bucle one)

theorem ligera_anuncio (v : Int) : (anuncio cfg v).all (fun b => !pesada b) = true :=
  all_de_bucle ligera_de_bucle (anuncio_de_bucle cfg v)

theorem ligera_tras_respuesta {q : Pedido} (other : ∀ p c, q ≠ .finalizar_proceso p c) (v : Respuesta) :
    (tras_respuesta q v).all (fun b => !pesada b) = true := by
  cases q with
  | crear_proceso p k => cases k <;> cases v <;> rfl
  | finalizar_proceso p c => exact absurd rfl (other p c)
  | _ => cases v <;> rfl

/-- A quiet move leaves the CPUs where they are, in the state and in the threads. -/
theorem mueve_igual {a : Accion} {r : Efecto} (move : Mueve cfg hora s a r) (quiet : tranquila a = true)
    (unborn : s.proximo_pid ∉ s.listas .lista_exec) :
    Igual s r.ks ∧ r.sigue.all (fun b => !pesada b) = true ∧ r.lanza.all (fun pila => pila.all (fun b => !pesada b)) = true := by
  have newborn : ∀ k prioridad, Igual s (crear_proceso k prioridad s).ks := by
    intro k prioridad
    refine ⟨rfl,fun p => ?_,rfl⟩
    by_cases mine : p = s.proximo_pid
    · subst mine
      exact .inr ⟨unborn,by simp [crear_proceso,proceso_nuevo]⟩
    · exact .inl (by simp [crear_proceso,mine])
  cases move with
  | pedir q free =>
    refine ⟨igual_of rfl (fun _ => rfl) rfl,?_,rfl⟩
    cases q <;> first | rfl | cases quiet
  | recibir q v =>
    refine ⟨igual_of rfl (fun _ => rfl) rfl,ligera_tras_respuesta ?_ v,rfl⟩
    rintro p c rfl
    cases quiet
  | crear_proceso_inicial => exact ⟨newborn none 0,rfl,rfl⟩
  | manejar_init_proc k prioridad => exact ⟨newborn (some k) prioridad,rfl,rfl⟩
  | mover_proceso_a_ready p desaloja one | mover_proceso_de_block_a_ready p desaloja one =>
    exact ⟨igual_pasa (by simp),by simp only [List.all_append,ligera_desalojo one,ligera_anuncio,Bool.and_self],rfl⟩
  | sacar_de_susp_ready p i desaloja one =>
    exact ⟨igual_pasa (by simp),
      by simp only [List.all_append,ligera_desalojo one,ligera_anuncio,Bool.and_self,List.all_cons,List.all_nil]; rfl,rfl⟩
  | vence_quantum t k p found valid => exact ⟨igual_cancelar,rfl,rfl⟩
  | vence_en_vano t p valid other => exact ⟨igual_cancelar,rfl,rfl⟩
  | vence_suspension t p found valid blocked =>
    refine ⟨igual_of (by simp) (fun q => ?_) rfl,rfl,rfl⟩
    by_cases same : q = p <;> simp [same]
  | liberar_mutex_del_proceso pid i =>
    exact ⟨igual_liberar pid i,all_de_bucle ligera_de_bucle (liberar_pila cfg hora pid i s),rfl⟩
  | ceder_mutex pid i p r what silent =>
    have loop := liberar_pila cfg hora pid (i + 1) r.1
    exact ⟨(igual_despierta what).trans (igual_liberar pid (i + 1)),all_de_bucle ligera_de_bucle loop,rfl⟩
  | ceder_mutex_pausa pid i p r what pausa =>
    refine ⟨igual_despierta what,?_,rfl⟩
    simp only [List.all_append,all_de_bucle ligera_de_bucle (despierta_pila what),List.all_cons,List.all_nil,Bool.true_and]
    rfl
  | manejar_io t p k v x kept =>
    obtain ⟨tiempo,direccion_fisica,tamanio,rfl⟩ := manejar_io_some kept
    refine ⟨igual_of rfl (fun q => ?_) rfl,rfl,rfl⟩
    by_cases same : q = p <;> simp [same]
  | lock_espera p k j pid nombre m r found taken what =>
    rcases what with rfl | ⟨cmn,owner,inherits⟩
    · exact ⟨igual_con_mutex j _,rfl,rfl⟩
    · refine ⟨(igual_con_mutex j _).trans (igual_herencia inherits),?_,rfl⟩
      simp only [List.all_append,ligera_desalojo (herencia_pila inherits),List.all_cons,List.all_nil,Bool.true_and]
      rfl
  | unlock_sin_espera p k j nombre m t found empty what =>
    exact ⟨(igual_con_mutex j _).trans (igual_devolucion what),rfl,rfl⟩
  | unlock_cede p k j siguiente espera nombre m t r found queue what d inherits silent wakes =>
    have woken : Igual r.1 d.ks := igual_siguiente wakes
    refine ⟨(((igual_con_mutex j _).trans (igual_devolucion what)).trans (igual_herencia inherits)).trans woken,?_,?_⟩
    · cases wakes <;> rfl
    · cases wakes <;> rfl
  | unlock_pausa p k j siguiente espera nombre m t r found queue what inherits pausa =>
    refine ⟨((igual_con_mutex j _).trans (igual_devolucion what)).trans (igual_herencia inherits),?_,rfl⟩
    simp only [List.all_append,ligera_desalojo (herencia_pila inherits),List.all_cons,List.all_nil,Bool.true_and]
    rfl
  | despertar_siguiente p d wakes => cases wakes <;> exact ⟨igual_cancelar,rfl,rfl⟩
  | fin_io_block p blocked | fin_io_susp_block p suspended | fin_io_inesperado p other other' => exact ⟨igual_cancelar,rfl,rfl⟩
  | mover_a_susp_ready p =>
    refine ⟨igual_of (by simp [mover_a_susp_ready]) (fun q => ?_) rfl,rfl,rfl⟩
    by_cases same : q = p <;> simp [mover_a_susp_ready,same]
  | agregar_a_new p => exact ⟨igual_of (by simp) (fun _ => rfl) rfl,rfl,rfl⟩
  | intentar_dessuspender_procesos => exact ⟨igual_of (by simp [intentar_dessuspender_procesos]) (fun _ => rfl) rfl,rfl,rfl⟩
  | desalojar_todas_las_cpus busy =>
    refine ⟨igual_refl,?_,rfl⟩
    simp only [List.all_append,all_de_bucle ligera_de_bucle (interrupciones_de_bucle s),List.all_cons,List.all_nil,Bool.true_and]
    rfl
  | tomar_pedido_io t d p cola queue =>
    refine ⟨igual_of rfl (fun _ => rfl) rfl,?_,rfl⟩
    cases t <;> rfl
  | cliente_cpu | cliente_io | esperar_permiso | planificar_nada | planificar | planificar_timer | agregar_cpu | atender_syscall
  | atender_desconocido | atender_fin | atender_corte | desconectar_ociosa | desconectar_ocupada | manejar_proceso_exit
  | exit_desconocido | manejar_seg_fault | seg_fault_desconocido | manejar_fin_quantum | fin_quantum_invalido
  | fin_quantum_al_frente | fin_quantum_desconocido | liberar_cpu_de_quantum | bloquear_proceso | esperar_planificacion
  | anotar_espera | bloquear_por_compactacion | fin_compactacion | fin_compactacion_nadie | redespachar_nadie | redespachar
  | limpiar_espera | manejar_bsod | post_puede_planificar => cases quiet
  | _ => exact ⟨igual_of rfl (fun _ => rfl) rfl,rfl,rfl⟩

/-! ## The running processes -/

/-- Processes only leave lista_exec. -/
def Encoge (s t : Ks) : Prop := ∀ p ∈ t.listas .lista_exec, p ∈ s.listas .lista_exec ∧ (t.procesos p).cpu = (s.procesos p).cpu

theorem Igual.encoge (same : Igual s t) : Encoge s t := by
  intro p runs
  rw [same.exec] at runs
  exact ⟨runs,same.cpu runs⟩

/-- A process taken off lista_exec. -/
structure Saca (s t : Ks) (p : Nat) : Prop where
  una_vez : (s.listas .lista_exec).count p = 1
  exec : t.listas .lista_exec = (s.listas .lista_exec).erase p
  otros : ∀ q, q ≠ p → (t.procesos q).cpu = (s.procesos q).cpu

theorem Saca.fuera (takes : Saca s t p) : p ∉ t.listas .lista_exec := by
  rw [takes.exec]
  refine List.count_eq_zero.mp ?_
  rw [List.count_erase_self,takes.una_vez]

theorem Saca.encoge (takes : Saca s t p) : Encoge s t := by
  intro q runs
  have other : q ≠ p := by
    rintro rfl
    exact takes.fuera runs
  rw [takes.exec] at runs
  exact ⟨List.mem_of_mem_erase runs,takes.otros q other⟩

theorem Saca.ejecuciones (takes : Saca s t p) (k : Nat) :
    ejecuciones k s = ejecuciones k t + if (s.procesos p).cpu = some k then 1 else 0 := by
  have listed : p ∈ s.listas .lista_exec := List.count_pos_iff.mp (by rw [takes.una_vez]; exact Nat.one_pos)
  have same : CpuPlaces.ejecuciones k t = ((s.listas .lista_exec).erase p).countP (fun q => (s.procesos q).cpu = some k) := by
    unfold CpuPlaces.ejecuciones
    rw [takes.exec]
    refine List.countP_congr (fun q runs => ?_)
    rw [← takes.exec] at runs
    rw [(takes.encoge q runs).2]
  rw [same]
  unfold CpuPlaces.ejecuciones
  rw [(List.perm_cons_erase listed).countP_eq,List.countP_cons]
  simp

/-- A process put on lista_exec. -/
structure Mete (s t : Ks) (p : Nat) : Prop where
  ausente : p ∉ s.listas .lista_exec
  exec : t.listas .lista_exec = s.listas .lista_exec ++ [p]
  otros : ∀ q, q ≠ p → (t.procesos q).cpu = (s.procesos q).cpu

theorem Mete.ejecuciones (puts : Mete s t p) (k : Nat) :
    ejecuciones k t = ejecuciones k s + if (t.procesos p).cpu = some k then 1 else 0 := by
  unfold CpuPlaces.ejecuciones
  rw [puts.exec,List.countP_append]
  congr 1
  · refine List.countP_congr (fun q runs => ?_)
    have other : q ≠ p := by
      rintro rfl
      exact puts.ausente runs
    rw [puts.otros q other]
  · simp [List.countP_cons]

/-! ## Accounts -/

def marca (s : Ks) : Nat := if s.compactando then 1 else 0

/-- The CPU of the process that a thread is about to block is the one that is kept for it. -/
def Anotado (s : Ks) (p : Nat) : Prop :=
  s.proceso_esperando_memoria = some p ∧ (p ∈ s.listas .lista_exec → (s.procesos p).cpu = s.cpu_esperando_memoria)

def LimpiaYSuelta (pila : Pila) : Prop := Followed (· = .limpiar_espera) (fun _ b => b = .post_puede_planificar) pila

structure Cuentas (s : Planificador) : Prop where
  permiso : s.ks.sem_puede_planificar + total permiso s.hilos + marca s.ks ≤ 1
  anotada : ∀ p, 0 < total (suspende p) s.hilos → Anotado s.ks p
  espera : s.ks.compactando = true → s.ks.proceso_esperando_memoria ≠ none
  limpia : ∀ pila ∈ s.hilos, LimpiaYSuelta pila
  una_vez : ∀ k, lugares k s ≤ 1
  presente : ∀ k, total (atiende k) s.hilos ≤ lugares k s
  conexion : ∀ k, total (atiende k) s.hilos + total (desconecta k) s.hilos ≤ 1
  nuevas : ∀ k, s.ks.proximo_cliente ≤ k → lugares k s = 0 ∧ total (atiende k) s.hilos + total (desconecta k) s.hilos = 0

theorem inicial_cuentas : Cuentas inicial where
  permiso := by simp [inicial,permiso,marca]
  anotada p some := by simp [inicial,suspende] at some
  espera busy := by cases busy
  limpia pila member := by
    obtain rfl := List.mem_singleton.mp member
    exact ⟨(by simp),trivial⟩
  una_vez k := by simp [lugares,sitios,ejecuciones,reservada,inicial,en_manos]
  presente k := by simp [inicial,atiende]
  conexion k := by simp [inicial,atiende,desconecta]
  nuevas k _ := by simp [lugares,sitios,ejecuciones,reservada,inicial,en_manos,atiende,desconecta]

/-- Whoever holds the leave to plan is not about to block a process. -/
theorem nadie_suspende {hilos : List Pila} {pila : Pila} (one : total permiso hilos ≤ 1) (member : pila ∈ hilos)
    (holds : ∀ p, weight (suspende p) pila < weight permiso pila) (p : Nat) : total (suspende p) hilos = 0 := by
  have split : ∀ b, permiso b = suspende p b + (permiso b - suspende p b) := by
    intro b
    cases b with
    | bloquear_por_compactacion q => by_cases same : q = p <;> simp [permiso,suspende,same]
    | _ => simp [suspende]
  have sum : total permiso hilos = total (suspende p) hilos + total (fun b => permiso b - suspende p b) hilos := by
    rw [← total_add]
    exact congrArg (fun f => total f hilos) (funext split)
  have part : weight permiso pila = weight (suspende p) pila + weight (fun b => permiso b - suspende p b) pila := by
    rw [← weight_add]
    exact congrArg (fun f => weight f pila) (funext split)
  have some_left := weight_le_total (fun b => permiso b - suspende p b) member
  have more := holds p
  omega

/-! ## Moves -/

/-- A move that keeps the accounts: what it takes from the state it leaves with the thread. -/
structure Balance (s : Ks) (a : Accion) (r : Efecto) : Prop where
  permiso : r.ks.sem_puede_planificar + weight permiso r.sigue + total permiso r.lanza + marca r.ks ≤
    s.sem_puede_planificar + CpuPlaces.permiso a + marca s
  suspende : ∀ p, a ≠ .anotar_espera p → weight (suspende p) r.sigue + total (suspende p) r.lanza ≤ CpuPlaces.suspende p a
  sitios : ∀ k, CpuPlaces.sitios k r.ks + weight (en_manos k) r.sigue + total (en_manos k) r.lanza = CpuPlaces.sitios k s + en_manos k a
  atiende : ∀ k, weight (atiende k) r.sigue + total (atiende k) r.lanza = CpuPlaces.atiende k a
  desconecta : ∀ k, weight (desconecta k) r.sigue + total (desconecta k) r.lanza = CpuPlaces.desconecta k a
  cliente : s.proximo_cliente ≤ r.ks.proximo_cliente
  limpia : a ≠ .redespachar → r.sigue.all (fun b => b ≠ .limpiar_espera) = true
  lanza : r.lanza.all (fun pila => pila.all (fun b => b ≠ .limpiar_espera)) = true

theorem ligera_pesos {b : Accion} (light : pesada b = false) :
    permiso b = 0 ∧ (∀ p, suspende p b = 0) ∧ ∀ k, en_manos k b = 0 ∧ atiende k b = 0 ∧ desconecta k b = 0 := by
  cases b with
  | pedir q | recibir q => cases q <;> first | exact ⟨rfl,fun _ => rfl,fun _ => ⟨rfl,rfl,rfl⟩⟩ | cases light
  | _ => first | exact ⟨rfl,fun _ => rfl,fun _ => ⟨rfl,rfl,rfl⟩⟩ | cases light

theorem ligera_de_tranquila {a : Accion} (quiet : tranquila a = true) : pesada a = false := by
  cases a with
  | pedir q | recibir q => cases q <;> first | rfl | cases quiet
  | _ => first | rfl | cases quiet

theorem ligera_weight {f : Accion → Nat} (none : ∀ b, pesada b = false → f b = 0) {pila : Pila}
    (light : pila.all (fun b => !pesada b) = true) : weight f pila = 0 := by
  refine weight_zero (fun b member => none b ?_)
  simpa using List.all_eq_true.mp light b member

theorem ligera_total {f : Accion → Nat} (none : ∀ b, pesada b = false → f b = 0) {hilos : List Pila}
    (light : hilos.all (fun pila => pila.all (fun b => !pesada b)) = true) : total f hilos = 0 := by
  refine total_zero (fun pila member b listed => none b ?_)
  simpa using List.all_eq_true.mp (List.all_eq_true.mp light pila member) b listed

theorem ligera_limpia {pila : Pila} (light : pila.all (fun b => !pesada b) = true) : pila.all (fun b => b ≠ .limpiar_espera) = true := by
  refine List.all_eq_true.mpr (fun b member => ?_)
  have mine := List.all_eq_true.mp light b member
  cases b <;> first | rfl | cases mine

/-- A move whose thread is left with nothing that counts. -/
theorem balance_ligera {a : Accion} {r : Efecto} (light : r.sigue.all (fun b => !pesada b) = true)
    (started : r.lanza.all (fun pila => pila.all (fun b => !pesada b)) = true)
    (permiso : r.ks.sem_puede_planificar + marca r.ks ≤ s.sem_puede_planificar + CpuPlaces.permiso a + marca s)
    (sitios : ∀ k, CpuPlaces.sitios k r.ks = CpuPlaces.sitios k s + en_manos k a)
    (quiet : (∀ k, atiende k a = 0) ∧ ∀ k, desconecta k a = 0) (cliente : s.proximo_cliente ≤ r.ks.proximo_cliente) : Balance s a r where
  permiso := by
    rw [ligera_weight (fun b light => (ligera_pesos light).1) light,ligera_total (fun b light => (ligera_pesos light).1) started]
    exact permiso
  suspende p _ := by
    rw [ligera_weight (fun b light => (ligera_pesos light).2.1 p) light,ligera_total (fun b light => (ligera_pesos light).2.1 p) started]
    exact Nat.zero_le _
  sitios k := by
    rw [ligera_weight (fun b light => ((ligera_pesos light).2.2 k).1) light,
      ligera_total (fun b light => ((ligera_pesos light).2.2 k).1) started]
    exact sitios k
  atiende k := by
    rw [ligera_weight (fun b light => ((ligera_pesos light).2.2 k).2.1) light,
      ligera_total (fun b light => ((ligera_pesos light).2.2 k).2.1) started]
    exact (quiet.1 k).symm
  desconecta k := by
    rw [ligera_weight (fun b light => ((ligera_pesos light).2.2 k).2.2) light,
      ligera_total (fun b light => ((ligera_pesos light).2.2 k).2.2) started]
    exact (quiet.2 k).symm
  cliente := cliente
  limpia _ := ligera_limpia light
  lanza := by
    refine List.all_eq_true.mpr (fun pila member => ligera_limpia (List.all_eq_true.mp started pila member))

theorem tranquila_balance {a : Accion} {r : Efecto} (move : Mueve cfg hora s a r) (quiet : tranquila a = true)
    (unborn : s.proximo_pid ∉ s.listas .lista_exec) : Balance s a r ∧ Igual s r.ks := by
  obtain ⟨same,light,started⟩ := mueve_igual move quiet unborn
  have none := ligera_pesos (ligera_de_tranquila quiet)
  have rest := same.resto
  simp only [resto,Prod.mk.injEq] at rest
  obtain ⟨-,busy,-,-,sem,client⟩ := rest
  refine ⟨balance_ligera light started ?_ ?_ ?_ client.ge,same⟩
  · rw [marca,marca,busy,sem]
    omega
  · intro k
    rw [same.sitios k,(none.2.2 k).1,Nat.add_zero]
  · exact ⟨fun k => (none.2.2 k).2.1,fun k => (none.2.2 k).2.2⟩

/-- The same list of free CPUs and the same compaction. -/
theorem sitios_of_exec (libres : t.lista_cpus_libres = s.lista_cpus_libres) (busy : t.compactando = s.compactando)
    (kept : t.cpu_esperando_memoria = s.cpu_esperando_memoria) (k : Nat) :
    sitios k t + ejecuciones k s = sitios k s + ejecuciones k t := by
  simp only [sitios,reservada,libres,busy,kept]
  omega

theorem Saca.sitios (takes : Saca s t p) (libres : t.lista_cpus_libres = s.lista_cpus_libres) (busy : t.compactando = s.compactando)
    (kept : t.cpu_esperando_memoria = s.cpu_esperando_memoria) (k : Nat) :
    CpuPlaces.sitios k t + (if (s.procesos p).cpu = some k then 1 else 0) = CpuPlaces.sitios k s := by
  have same := sitios_of_exec libres busy kept k
  have one := takes.ejecuciones k
  omega

/-- A running process is on lista_exec once. -/
theorem count_exec (known : Sitio cfg s p ∨ Fuera s p) (runs : p ∈ s.listas .lista_exec) : (s.listas .lista_exec).count p = 1 := by
  have here := Sitio.of_mem known runs
  simpa using here.una_vez .lista_exec

/-- The handlers that take a process off its CPU give the CPU to the thread. -/
theorem saca_balance {a : Accion} {r : Efecto} (takes : Saca s r.ks p)
    (rest : resto r.ks = resto s) (gives : ∀ k, weight (en_manos k) r.sigue = if (s.procesos p).cpu = some k then 1 else 0)
    (none : permiso a = 0 ∧ (∀ p, suspende p a = 0) ∧ ∀ k, en_manos k a = 0 ∧ atiende k a = 0 ∧ desconecta k a = 0)
    (plain : weight permiso r.sigue = 0 ∧ (∀ p, weight (suspende p) r.sigue = 0) ∧
      ∀ k, weight (atiende k) r.sigue = 0 ∧ weight (desconecta k) r.sigue = 0)
    (limpia : r.sigue.all (fun b => b ≠ .limpiar_espera) = true)
    (started : r.lanza.all (fun pila => pila.all (fun b => !pesada b)) = true) : Balance s a r := by
  simp only [resto,Prod.mk.injEq] at rest
  obtain ⟨libres,busy,-,kept,sem,client⟩ := rest
  refine ⟨?_,fun q _ => ?_,fun k => ?_,fun k => ?_,fun k => ?_,client.ge,fun _ => limpia,?_⟩
  · rw [plain.1,ligera_total (fun b light => (ligera_pesos light).1) started,marca,marca,busy,sem]
    omega
  · rw [plain.2.1 q,ligera_total (fun b light => (ligera_pesos light).2.1 q) started]
    exact Nat.zero_le _
  · have same := takes.sitios libres busy kept k
    rw [gives k,ligera_total (fun b light => ((ligera_pesos light).2.2 k).1) started,(none.2.2 k).1]
    omega
  · rw [(plain.2.2 k).1,ligera_total (fun b light => ((ligera_pesos light).2.2 k).2.1) started,(none.2.2 k).2.1]
  · rw [(plain.2.2 k).2,ligera_total (fun b light => ((ligera_pesos light).2.2 k).2.2) started,(none.2.2 k).2.2]
  · exact List.all_eq_true.mpr (fun pila member => ligera_limpia (List.all_eq_true.mp started pila member))

/-- The end of a process: manejar_proceso_exit and manejar_seg_fault. -/
theorem termina_balance {a : Accion} (known : Sitio cfg s p ∨ Fuera s p) (runs : p ∈ s.listas .lista_exec)
    (none : permiso a = 0 ∧ (∀ p, suspende p a = 0) ∧ ∀ k, en_manos k a = 0 ∧ atiende k a = 0 ∧ desconecta k a = 0) :
    Balance s a ⟨((s.cancelar_timer p).quitar .lista_exec p).con_estado p .EXIT_STATE,
      [.pedir (.finalizar_proceso p (s.procesos p).cpu)],[]⟩ ∧
      Saca s (((s.cancelar_timer p).quitar .lista_exec p).con_estado p .EXIT_STATE) p := by
  have takes : Saca s (((s.cancelar_timer p).quitar .lista_exec p).con_estado p .EXIT_STATE) p :=
    ⟨count_exec known runs,by simp,fun q other => by simp [other]⟩
  exact ⟨saca_balance takes rfl (by simp [en_manos]) none (by simp [permiso,suspende,atiende,desconecta]) rfl rfl,takes⟩

/-- The end of a quantum, wherever the process goes. -/
theorem quantum_balance {k : Nat} {b : Bool} {desaloja : Pila} (one : Desalojo desaloja) (known : Sitio cfg s p ∨ Fuera s p)
    (runs : p ∈ s.listas .lista_exec) (rest : resto t = resto s) (exec : t.listas .lista_exec = (s.listas .lista_exec).erase p)
    (cpu : ∀ q, q ≠ p → (t.procesos q).cpu = (s.procesos q).cpu) :
    Balance s (.manejar_fin_quantum k) ⟨t,desaloja ++ [.liberar_cpu_de_quantum (s.procesos p).cpu b],[]⟩ ∧ Saca s t p := by
  have takes : Saca s t p := ⟨count_exec known runs,exec,cpu⟩
  have light := ligera_desalojo one
  refine ⟨saca_balance takes rest (fun k => ?_) ⟨rfl,fun _ => rfl,fun _ => ⟨rfl,rfl,rfl⟩⟩ ⟨?_,fun p => ?_,fun k => ⟨?_,?_⟩⟩ ?_ rfl,takes⟩
  · rw [weight_append,ligera_weight (fun b light => ((ligera_pesos light).2.2 k).1) light]
    simp [en_manos]
  · rw [weight_append,ligera_weight (fun b light => (ligera_pesos light).1) light]
    rfl
  · rw [weight_append,ligera_weight (fun b light => (ligera_pesos light).2.1 p) light]
    rfl
  · rw [weight_append,ligera_weight (fun b light => ((ligera_pesos light).2.2 k).2.1) light]
    rfl
  · rw [weight_append,ligera_weight (fun b light => ((ligera_pesos light).2.2 k).2.2) light]
    rfl
  · rw [List.all_append,ligera_limpia light]
    rfl

/-- A dispatch takes the first free CPU. -/
theorem Mete.sitios {libres : List (Option Nat)} {n : Nat} (puts : Mete s t p) (free : s.lista_cpus_libres = some n :: libres)
    (rest : t.lista_cpus_libres = libres) (busy : t.compactando = s.compactando)
    (kept : t.cpu_esperando_memoria = s.cpu_esperando_memoria)
    (cpu : (t.procesos p).cpu = some n) (k : Nat) : CpuPlaces.sitios k t = CpuPlaces.sitios k s := by
  have one := puts.ejecuciones k
  rw [cpu] at one
  simp only [CpuPlaces.sitios,reservada,free,rest,busy,kept,one,List.count_cons,beq_iff_eq]
  omega

theorem despacha_balance {libres : List (Option Nat)} {n : Nat} {sigue : Pila} (puts : Mete s t p)
    (free : s.lista_cpus_libres = some n :: libres) (rest : t.lista_cpus_libres = libres)
    (same : (t.compactando,t.cpu_esperando_memoria,t.sem_puede_planificar,t.proximo_cliente) =
      (s.compactando,s.cpu_esperando_memoria,s.sem_puede_planificar,s.proximo_cliente))
    (cpu : (t.procesos p).cpu = some n)
    (weights : weight permiso sigue = 1 ∧ (∀ q, weight (suspende q) sigue = 0) ∧
      ∀ k, weight (en_manos k) sigue = 0 ∧ weight (atiende k) sigue = 0 ∧ weight (desconecta k) sigue = 0)
    (limpia : sigue.all (fun b => b ≠ .limpiar_espera) = true) : Balance s .planificar ⟨t,sigue,[]⟩ := by
  simp only [Prod.mk.injEq] at same
  obtain ⟨busy,kept,sem,client⟩ := same
  refine ⟨?_,fun q _ => ?_,fun k => ?_,fun k => ?_,fun k => ?_,client.ge,fun _ => limpia,rfl⟩
  · rw [weights.1,marca,marca,busy,sem]
    exact le_rfl
  · rw [weights.2.1 q]
    exact Nat.zero_le _
  · rw [puts.sitios free rest busy kept cpu k,(weights.2.2 k).1]
    rfl
  · rw [(weights.2.2 k).2.1]
    rfl
  · rw [(weights.2.2 k).2.2]
    rfl

/-- The end of a compaction gives the process that waits the CPU that was kept for it. -/
theorem Mete.reanuda (puts : Mete s t p) (free : t.lista_cpus_libres = s.lista_cpus_libres) (busy : s.compactando = true)
    (done : t.compactando = false) (cpu : (t.procesos p).cpu = s.cpu_esperando_memoria) (k : Nat) :
    CpuPlaces.sitios k t = CpuPlaces.sitios k s := by
  have one := puts.ejecuciones k
  rw [cpu] at one
  simp only [CpuPlaces.sitios,reservada,free,busy,done,one,Bool.false_eq_true,false_and,true_and,if_false]
  omega

/-- The process that is to wait leaves its CPU to be kept for it. -/
theorem Saca.espera (takes : Saca s t p) (free : t.lista_cpus_libres = s.lista_cpus_libres) (idle : s.compactando = false)
    (busy : t.compactando = true) (kept : t.cpu_esperando_memoria = s.cpu_esperando_memoria)
    (cpu : (s.procesos p).cpu = s.cpu_esperando_memoria) (k : Nat) : CpuPlaces.sitios k t = CpuPlaces.sitios k s := by
  have one := takes.ejecuciones k
  rw [cpu] at one
  simp only [CpuPlaces.sitios,reservada,free,idle,busy,kept,one,Bool.false_eq_true,false_and,true_and,if_false]
  omega

/-- The moves that give leave to plan to somebody, or that dispatch. -/
def manda : Accion → Bool
  | .planificar | .anotar_espera _ | .fin_compactacion | .limpiar_espera => true
  | _ => false

/-- What a move does with the CPUs. -/
inductive Cambio (s : Ks) (a : Accion) (r : Efecto) : Prop where
  | cuadra (balance : Balance s a r) (espera : r.ks.compactando = true → r.ks.proceso_esperando_memoria ≠ none)
      (sigue : manda a = false → Encoge s r.ks ∧ r.ks.proceso_esperando_memoria = s.proceso_esperando_memoria ∧
        r.ks.cpu_esperando_memoria = s.cpu_esperando_memoria)
  | llega (accepts : a = .atender_conexiones_entrantes)
      (result : r = ⟨{ s with proximo_cliente := s.proximo_cliente + 1 },[.atender_conexiones_entrantes],
        [[.agregar_cpu (some s.proximo_cliente),.atender_cpu s.proximo_cliente]]⟩)
  | corta (k : Nat) (reads : a = .atender_cpu k) (result : r = ⟨s,[.desconectar_cpu k],[]⟩)
  | desconecta (k : Nat) (leaves : a = .desconectar_cpu k) (otros : ∀ j, j ≠ k → sitios j r.ks = sitios j s)
      (mia : sitios k r.ks ≤ sitios k s) (light : r.sigue.all (fun b => !pesada b) = true) (none : r.lanza = [])
      (encoge : Encoge s r.ks) (same : (r.ks.compactando,r.ks.proceso_esperando_memoria,r.ks.cpu_esperando_memoria,
        r.ks.sem_puede_planificar,r.ks.proximo_cliente) =
          (s.compactando,s.proceso_esperando_memoria,s.cpu_esperando_memoria,s.sem_puede_planificar,s.proximo_cliente))

theorem quitar_cpu_libre_sitios (k j : Nat) (s : Ks) :
    (j ≠ k → sitios j (quitar_cpu_libre k s) = sitios j s) ∧ sitios k (quitar_cpu_libre k s) ≤ sitios k s := by
  unfold quitar_cpu_libre
  split_ifs with listed
  · refine ⟨fun other => ?_,?_⟩
    · have apart : (some j : Option Nat) ≠ some k := fun same => other (Option.some.inj same)
      simp only [sitios,ejecuciones,reservada,List.count_erase_of_ne apart]
    · have less : (s.lista_cpus_libres.erase (some k)).count (some k) ≤ s.lista_cpus_libres.count (some k) :=
        List.Sublist.count_le (some k) List.erase_sublist
      simp only [sitios,ejecuciones,reservada]
      omega
  · exact ⟨fun _ => rfl,le_rfl⟩

/-- A move of the thread alone. -/
theorem cambio_de_hilo {a : Accion} {r : Efecto} (balance : Balance s a r) (same : r.ks.listas = s.listas ∧ r.ks.procesos = s.procesos)
    (kept : (r.ks.compactando,r.ks.proceso_esperando_memoria,r.ks.cpu_esperando_memoria) =
      (s.compactando,s.proceso_esperando_memoria,s.cpu_esperando_memoria))
    (waits : s.compactando = true → s.proceso_esperando_memoria ≠ none) : Cambio s a r := by
  simp only [Prod.mk.injEq] at kept
  obtain ⟨busy,waiting,cpu⟩ := kept
  refine .cuadra balance (by rw [busy,waiting]; exact waits) (fun _ => ⟨?_,waiting,cpu⟩)
  intro p runs
  rw [same.1] at runs
  exact ⟨runs,by rw [same.2]⟩

/-- A move that takes a process off lista_exec. -/
theorem cambio_de_saca {a : Accion} {r : Efecto} (balance : Balance s a r) (takes : Saca s r.ks p) (rest : resto r.ks = resto s)
    (waits : s.compactando = true → s.proceso_esperando_memoria ≠ none) : Cambio s a r := by
  simp only [resto,Prod.mk.injEq] at rest
  obtain ⟨-,busy,waiting,cpu,-⟩ := rest
  exact .cuadra balance (by rw [busy,waiting]; exact waits) (fun _ => ⟨takes.encoge,waiting,cpu⟩)

theorem ready_ne_exec {c : Cola} (served : c ∈ colas_de_ready cfg) : Cola.lista_exec ≠ c := ne_of_served rfl served

theorem mueve_cambio {a : Accion} {e : Entrada} {r : Efecto} (move : Mueve cfg hora s a r) (good : en_su_lista cfg a e s = true)
    (due : fin_debido a e s = true) (known : ∀ p, Sitio cfg s p ∨ Fuera s p) (unborn : s.proximo_pid ∉ s.listas .lista_exec)
    (other : a ≠ .manejar_bsod) (annotated : ∀ p, a = .bloquear_por_compactacion p → Anotado s p ∧ s.compactando = false)
    (idle : (∃ p, a = .anotar_espera p) ∨ a = .limpiar_espera → s.compactando = false)
    (waits : s.compactando = true → s.proceso_esperando_memoria ≠ none) : Cambio s a r := by
  by_cases quiet : tranquila a = true
  · obtain ⟨balance,same⟩ := tranquila_balance move quiet unborn
    have rest := same.resto
    simp only [resto,Prod.mk.injEq] at rest
    obtain ⟨-,busy,waiting,cpu,-⟩ := rest
    exact .cuadra balance (by rw [busy,waiting]; exact waits) (fun _ => ⟨same.encoge,waiting,cpu⟩)
  have lista : ∀ c p, origen a s = some (c,p) → p ∈ s.listas c := by
    intro c p takes
    simp only [en_su_lista,takes,Option.all_some,Bool.and_eq_true,decide_eq_true_eq] at good
    exact good.1
  cases move with
  | post_puede_planificar =>
    refine cambio_de_hilo (balance_ligera rfl rfl ?_ (fun _ => rfl) ⟨fun _ => rfl,fun _ => rfl⟩ le_rfl) ⟨rfl,rfl⟩ rfl waits
    exact le_rfl
  | pedir q free =>
    refine cambio_de_hilo ⟨?_,?_,?_,?_,?_,le_rfl,fun _ => rfl,rfl⟩ ⟨rfl,rfl⟩ rfl waits
    · simp [permiso,marca]
    · simp [suspende]
    · cases q <;> simp [sitios,ejecuciones,reservada,en_manos]
    · simp [atiende]
    · simp [desconecta]
  | recibir q v =>
    cases q with
    | finalizar_proceso p c =>
      refine cambio_de_hilo ⟨?_,?_,?_,?_,?_,le_rfl,fun _ => rfl,rfl⟩ ⟨rfl,rfl⟩ rfl waits
      · simp [tras_respuesta,permiso,marca]
      · simp [tras_respuesta,suspende]
      · simp [tras_respuesta,sitios,ejecuciones,reservada,en_manos]
      · simp [tras_respuesta,atiende]
      · simp [tras_respuesta,desconecta]
    | _ => exact absurd rfl quiet
  | cliente_cpu => exact .llega rfl rfl
  | cliente_io t =>
    refine cambio_de_hilo (balance_ligera rfl rfl le_rfl (fun _ => rfl) ⟨fun _ => rfl,fun _ => rfl⟩ ?_) ⟨rfl,rfl⟩ rfl waits
    exact Nat.le_succ _
  | esperar_permiso n token =>
    refine cambio_de_hilo ⟨?_,?_,?_,?_,?_,le_rfl,fun _ => rfl,rfl⟩ ⟨rfl,rfl⟩ rfl waits
    · simp [permiso,marca,token]
    · simp [suspende]
    · simp [sitios,ejecuciones,reservada,en_manos]
    · simp [atiende]
    · simp [desconecta]
  | planificar_nada none =>
    refine cambio_de_hilo ⟨?_,?_,?_,?_,?_,le_rfl,fun _ => rfl,rfl⟩ ⟨rfl,rfl⟩ rfl waits
    · simp [permiso]
    · simp [suspende]
    · simp [en_manos]
    · simp [atiende]
    · simp [desconecta]
  | planificar c p n cola libres served first free timer | planificar_timer c p n cola libres served first free timer =>
    have apart := ready_ne_exec served
    have absent : p ∉ s.listas .lista_exec := by
      intro runs
      have here := Sitio.of_mem (known p) (show p ∈ s.listas c by rw [first]; exact List.mem_cons_self)
      exact apart (here.lista runs)
    refine .cuadra (despacha_balance ⟨absent,?_,?_⟩ free rfl rfl ?_ ?_ rfl) (by simpa using waits) (fun plain => by cases plain)
    · simp [apart]
    · intro q other
      simp [other]
    · simp
    · simp [permiso,suspende,en_manos,atiende,desconecta]
  | agregar_cpu c =>
    refine cambio_de_hilo ⟨?_,?_,fun k => ?_,?_,?_,le_rfl,fun _ => rfl,rfl⟩ ⟨rfl,rfl⟩ rfl waits
    · simp [permiso,marca]
    · simp [suspende]
    · simp only [sitios,ejecuciones,reservada,en_manos,List.count_append,weight_cons,weight_nil,total_nil,List.count_cons,List.count_nil,
        beq_iff_eq]
      omega
    · simp [atiende]
    · simp [desconecta]
  | atender_syscall j | atender_desconocido j | atender_fin j c =>
    refine cambio_de_hilo ⟨?_,?_,fun k => ?_,?_,?_,le_rfl,fun _ => rfl,rfl⟩ ⟨rfl,rfl⟩ rfl waits
    · simp [permiso]
    · simp [suspende]
    · simp [en_manos]
    · simp [atiende]
    · simp [desconecta]
  | atender_corte j => exact .corta j rfl rfl
  | desconectar_ociosa j idle =>
    have kept : (quitar_cpu_libre j s).listas = s.listas ∧ (quitar_cpu_libre j s).procesos = s.procesos := quitar_cpu_libre_eq j s
    refine .desconecta j rfl (fun i other => (quitar_cpu_libre_sitios j i s).1 other) (quitar_cpu_libre_sitios j j s).2 rfl rfl ?_ ?_
    · intro p runs
      rw [kept.1] at runs
      exact ⟨runs,by rw [kept.2]⟩
    · simp only [quitar_cpu_libre]
      split_ifs <;> rfl
  | desconectar_ocupada j p busy desaloja one =>
    have kept : (quitar_cpu_libre j s).listas = s.listas ∧ (quitar_cpu_libre j s).procesos = s.procesos := quitar_cpu_libre_eq j s
    have runs : p ∈ s.listas .lista_exec := List.mem_of_find?_eq_some busy
    have mine : (s.procesos p).cpu = some j := by simpa using List.find?_some busy
    have apart := ne_destino (c := .lista_exec) rfl cfg (s.procesos p).prioridad
    have takes : Saca (quitar_cpu_libre j s) ((((((quitar_cpu_libre j s).cancelar_timer p).quitar .lista_exec p).con_estado p
        .READY).con_cpu p none).agregar (destino cfg (s.procesos p).prioridad) p) p :=
      ⟨by rw [kept.1]; exact count_exec (known p) runs,by simp [apart],fun q other => by simp [other]⟩
    refine .desconecta j rfl (fun i other => ?_) ?_ ?_ rfl ?_ ?_
    · have less := takes.sitios rfl rfl rfl i
      rw [kept.2,mine,if_neg (fun same => other (Option.some.inj same).symm)] at less
      exact less.trans ((quitar_cpu_libre_sitios j i s).1 other)
    · have less := takes.sitios rfl rfl rfl j
      have free := (quitar_cpu_libre_sitios j j s).2
      dsimp only
      omega
    · simp only [List.all_append,ligera_desalojo one,ligera_anuncio,Bool.and_self]
    · intro q running
      obtain ⟨running,cpu⟩ := takes.encoge q running
      rw [kept.1] at running
      rw [kept.2] at cpu
      exact ⟨running,cpu⟩
    · simp only [quitar_cpu_libre]
      split_ifs <;> rfl
  | manejar_proceso_exit k p running =>
    have none := ligera_pesos (b := .manejar_proceso_exit k) rfl
    obtain ⟨balance,takes⟩ := termina_balance (known p) running none
    exact cambio_de_saca balance takes rfl waits
  | manejar_seg_fault k p running =>
    have none := ligera_pesos (b := .manejar_seg_fault k) rfl
    obtain ⟨balance,takes⟩ := termina_balance (known p) running none
    exact cambio_de_saca balance takes rfl waits
  | exit_desconocido k p unknown | seg_fault_desconocido k p unknown | fin_quantum_desconocido k p unknown =>
    refine cambio_de_hilo (balance_ligera rfl rfl le_rfl (fun _ => rfl) ?_ le_rfl) ⟨rfl,rfl⟩ rfl waits
    exact ⟨fun _ => rfl,fun _ => rfl⟩
  | manejar_fin_quantum k p running normal desaloja one =>
    have apart := ne_destino (c := .lista_exec) rfl cfg (s.procesos p).prioridad
    obtain ⟨balance,takes⟩ := quantum_balance (k := k) (b := decide (destino cfg (s.procesos p).prioridad ≠ .lista_ready_invalida))
      (t := (((s.quitar .lista_exec p).con_estado p .READY).con_cpu p none).agregar (destino cfg (s.procesos p).prioridad) p)
      one (known p) running rfl (by simp [apart]) (fun q other => by simp [other])
    exact cambio_de_saca balance takes rfl waits
  | fin_quantum_invalido k p running moving invalid =>
    obtain ⟨balance,takes⟩ := quantum_balance (k := k) (b := false)
      (t := (((s.quitar .lista_exec p).con_estado p .READY).con_cpu p none).agregar .lista_ready_invalida p)
      desalojo_nil (known p) running rfl (by simp) (fun q other => by simp [other])
    exact cambio_de_saca balance takes rfl waits
  | fin_quantum_al_frente k p running moving valid =>
    have apart := ne_destino (c := .lista_exec) rfl cfg (s.procesos p).prioridad
    obtain ⟨balance,takes⟩ := quantum_balance (k := k) (b := true)
      (t := (((s.quitar .lista_exec p).con_estado p .READY).con_cpu p none).agregar_al_frente (destino cfg (s.procesos p).prioridad) p)
      desalojo_nil (known p) running rfl (by simp [apart]) (fun q other => by simp [other])
    exact cambio_de_saca balance takes rfl waits
  | liberar_cpu_de_quantum c planificable =>
    refine cambio_de_hilo ⟨?_,?_,fun k => ?_,?_,?_,le_rfl,?_,rfl⟩ ⟨rfl,rfl⟩ rfl waits
    · cases planificable <;> simp [permiso,marca,si]
    · cases planificable <;> simp [suspende,si]
    · cases planificable <;>
        simp [sitios,ejecuciones,reservada,en_manos,List.count_cons,si] <;> omega
    · cases planificable <;> simp [atiende,si]
    · cases planificable <;> simp [desconecta,si]
    · cases planificable <;> simp [si]
  | bloquear_proceso p por =>
    have running := lista .lista_exec p rfl
    have takes : Saca s (bloquear_proceso p s).ks p :=
      ⟨count_exec (known p) running,by simp [bloquear_proceso],fun q other => by simp [bloquear_proceso,other]⟩
    refine cambio_de_saca (saca_balance takes rfl ?_ ⟨rfl,fun _ => rfl,fun _ => ⟨rfl,rfl,rfl⟩⟩ ?_ rfl rfl) takes rfl waits
    · simp [bloquear_proceso,en_manos]
    · simp [bloquear_proceso,permiso,suspende,atiende,desconecta]
  | esperar_planificacion p n token =>
    refine cambio_de_hilo ⟨?_,?_,?_,?_,?_,le_rfl,fun _ => rfl,rfl⟩ ⟨rfl,rfl⟩ rfl waits
    · simp [permiso,marca,token]
    · simp [suspende]
    · simp [sitios,ejecuciones,reservada,en_manos]
    · simp [atiende]
    · simp [desconecta]
  | anotar_espera p =>
    have calm := idle (.inl ⟨p,rfl⟩)
    refine .cuadra ⟨?_,?_,fun k => ?_,?_,?_,le_rfl,fun _ => rfl,rfl⟩ ?_ (fun plain => by cases plain)
    · simp [permiso,marca]
    · intro q other
      have apart : p ≠ q := fun same => other (by rw [same])
      simp [suspende,apart]
    · simp [sitios,ejecuciones,reservada,calm,en_manos]
    · simp [atiende]
    · simp [desconecta]
    · simp
  | bloquear_por_compactacion p =>
    obtain ⟨⟨waiting,kept⟩,calm⟩ := annotated p rfl
    have running := lista .lista_exec p rfl
    have takes : Saca s (bloquear_por_compactacion p s) p :=
      ⟨count_exec (known p) running,by simp [bloquear_por_compactacion],fun q other => by simp [bloquear_por_compactacion,other]⟩
    refine .cuadra ⟨?_,?_,fun k => ?_,?_,?_,le_rfl,fun _ => rfl,rfl⟩ ?_ (fun _ => ⟨takes.encoge,rfl,rfl⟩)
    · simp [permiso,marca,bloquear_por_compactacion,calm]
    · simp [suspende]
    · rw [takes.espera rfl calm rfl rfl (kept running) k]
      simp [en_manos]
    · simp [atiende]
    · simp [desconecta]
    · simp [bloquear_por_compactacion,waiting]
  | fin_compactacion p waiting =>
    have busy : s.compactando = true := by simpa [fin_debido] using due
    have blocked := lista .lista_block p (by simp [origen,waiting])
    have absent : p ∉ s.listas .lista_exec := by
      intro runs
      have place := (Sitio.of_mem (known p) blocked).lista runs
      cases place
    refine .cuadra ⟨?_,?_,fun k => ?_,?_,?_,le_rfl,fun _ => rfl,rfl⟩ (fun still => by cases still) (fun plain => by cases plain)
    · simp [permiso,marca,busy]
    · simp [suspende]
    · have same := Mete.reanuda (t := { ((s.con_proceso p (fun x => { x with estado := .EXEC, cpu := s.cpu_esperando_memoria })).agregar
        .lista_exec p).quitar .lista_block p with compactando := false }) ⟨absent,by simp,fun q other => by simp [other]⟩ rfl busy rfl
        (by simp) k
      rw [same]
      simp [en_manos]
    · simp [atiende]
    · simp [desconecta]
  | fin_compactacion_nadie none =>
    exact absurd none (waits (by simpa [fin_debido] using due))
  | redespachar_nadie none =>
    refine cambio_de_hilo ⟨?_,?_,?_,?_,?_,le_rfl,fun _ => rfl,rfl⟩ ⟨rfl,rfl⟩ rfl waits
    · simp [permiso]
    · simp [suspende]
    · simp [en_manos]
    · simp [atiende]
    · simp [desconecta]
  | redespachar p k waiting reserved =>
    refine cambio_de_hilo ⟨?_,?_,?_,?_,?_,le_rfl,fun plain => absurd rfl plain,rfl⟩ ⟨rfl,rfl⟩ rfl waits
    · simp [permiso]
    · simp [suspende]
    · simp [en_manos]
    · simp [atiende]
    · simp [desconecta]
  | limpiar_espera =>
    have calm := idle (.inr rfl)
    refine .cuadra (balance_ligera rfl rfl le_rfl (fun k => ?_) ⟨fun _ => rfl,fun _ => rfl⟩ le_rfl) ?_ (fun plain => by cases plain)
    · simp [sitios,ejecuciones,reservada,calm,en_manos]
    · simp [calm]
  | manejar_bsod busy => exact absurd rfl other
  | _ => exact absurd rfl quiet

/-! ## Runs -/

theorem suspende_le (p : Nat) (b : Accion) : suspende p b ≤ permiso b := by
  cases b with
  | bloquear_por_compactacion q => by_cases same : q = p <;> simp [suspende,permiso,same]
  | _ => simp [suspende]

theorem limpia_avanza {hilos lanza : List Pila} {i : Nat} {later sigue : Pila} (all : ∀ pila ∈ hilos, LimpiaYSuelta pila)
    (next : LimpiaYSuelta (sigue ++ later)) (started : lanza.all (fun pila => pila.all (fun b => b ≠ .limpiar_espera)) = true) :
    ∀ pila ∈ advance hilos i sigue later lanza, LimpiaYSuelta pila := by
  intro pila member
  rcases mem_advance member with old | rfl | new
  · exact all pila old
  · exact next
  · rw [← List.append_nil pila]
    refine followed_append (fun b listed => ?_) trivial
    simpa using List.all_eq_true.mp (List.all_eq_true.mp started pila new) b listed

theorem limpia_sigue {sigue later : Pila} (none : sigue.all (fun b => b ≠ .limpiar_espera) = true) (rest : LimpiaYSuelta later) :
    LimpiaYSuelta (sigue ++ later) := by
  refine followed_append (fun b listed => ?_) rest
  simpa using List.all_eq_true.mp none b listed

/-- The accounts while the moves of a thread leave leave to plan and the wait for memory alone. -/
theorem anotada_sigue {v w : Planificador} (held : ∀ p, 0 < total (suspende p) v.hilos → Anotado v.ks p) (encoge : Encoge v.ks w.ks)
    (waiting : w.ks.proceso_esperando_memoria = v.ks.proceso_esperando_memoria)
    (cpu : w.ks.cpu_esperando_memoria = v.ks.cpu_esperando_memoria)
    (less : ∀ p, total (suspende p) w.hilos ≤ total (suspende p) v.hilos) :
    ∀ p, 0 < total (suspende p) w.hilos → Anotado w.ks p := by
  intro p some
  obtain ⟨noted,kept⟩ := held p (some.trans_le (less p))
  refine ⟨waiting.trans noted,fun runs => ?_⟩
  obtain ⟨running,same⟩ := encoge p runs
  rw [same,cpu]
  exact kept running

/-- While somebody may plan, or a compaction goes on, no process is about to be blocked for one. -/
theorem nadie_de_manda {v : Planificador} {i : Nat} {a : Accion} {later : Pila} (held : Cuentas v)
    (here : v.hilos[i]? = some (a :: later)) (sends : manda a = true) (busy : a = .fin_compactacion → v.ks.compactando = true) (p : Nat) : total (suspende p) v.hilos = 0 := by
  have listed : a :: later ∈ v.hilos := List.mem_of_getElem? here
  have one := held.permiso
  have less := total_mono (suspende_le p) v.hilos
  have mine := fun q => weight_mono (suspende_le q) later
  cases a with
  | planificar | anotar_espera q =>
    refine nadie_suspende (by omega) listed (fun q => ?_) p
    have less := mine q
    simp only [weight_cons,permiso,suspende,reduceCtorEq,if_false]
    omega
  | fin_compactacion =>
    rw [marca,if_pos (busy rfl)] at one
    omega
  | limpiar_espera =>
    obtain ⟨b,rest,rfl,rfl⟩ := (held.limpia _ listed).1 rfl
    refine nadie_suspende (by omega) listed (fun q => ?_) p
    have less := weight_mono (suspende_le q) rest
    simp only [weight_cons,permiso,suspende,reduceCtorEq,if_false]
    omega
  | _ => cases sends

section assembly
variable {v : Planificador} {l : Paso} {a : Accion} {later : Pila} {r : Efecto}

theorem cuentas_cuadra (held : Cuentas v) (here : v.hilos[l.hilo]? = some (a :: later)) (move : Mueve cfg hora v.ks a r)
    (due : a = .fin_compactacion → v.ks.compactando = true) (balance : Balance v.ks a r)
    (espera : r.ks.compactando = true → r.ks.proceso_esperando_memoria ≠ none)
    (sigue : manda a = false → Encoge v.ks r.ks ∧ r.ks.proceso_esperando_memoria = v.ks.proceso_esperando_memoria ∧
      r.ks.cpu_esperando_memoria = v.ks.cpu_esperando_memoria) :
    Cuentas ⟨r.ks,advance v.hilos l.hilo r.sigue later r.lanza⟩ := by
  have tail : LimpiaYSuelta later := (held.limpia _ (List.mem_of_getElem? here)).2
  have sum := fun f : Accion → Nat => total_advance f here r.sigue r.lanza
  have places : ∀ k, lugares k ⟨r.ks,advance v.hilos l.hilo r.sigue later r.lanza⟩ = lugares k v := by
    intro k
    have same := balance.sitios k
    have all := sum (en_manos k)
    simp only [lugares]
    omega
  have reads : ∀ k, total (atiende k) (advance v.hilos l.hilo r.sigue later r.lanza) = total (atiende k) v.hilos := by
    intro k
    have same := balance.atiende k
    have all := sum (atiende k)
    omega
  have leaves : ∀ k, total (desconecta k) (advance v.hilos l.hilo r.sigue later r.lanza) = total (desconecta k) v.hilos := by
    intro k
    have same := balance.desconecta k
    have all := sum (desconecta k)
    omega
  have shrinks : ∀ p, a ≠ .anotar_espera p →
      total (suspende p) (advance v.hilos l.hilo r.sigue later r.lanza) ≤ total (suspende p) v.hilos := by
    intro p other
    have less := balance.suspende p other
    have all := sum (suspende p)
    omega
  refine ⟨?_,?_,espera,?_,fun k => ?_,fun k => ?_,fun k => ?_,fun k later => ?_⟩
  · have less := balance.permiso
    have all := sum permiso
    have one := held.permiso
    dsimp only
    omega
  · by_cases plain : manda a = false
    · obtain ⟨encoge,waiting,cpu⟩ := sigue plain
      refine anotada_sigue held.anotada encoge waiting cpu (fun p => shrinks p ?_)
      rintro rfl
      cases plain
    · have nobody := nadie_de_manda held here (by simpa using plain) due
      intro p some
      by_cases mine : a = .anotar_espera p
      · subst mine
        cases move with
        | anotar_espera => exact ⟨rfl,fun _ => rfl⟩
      · have less := shrinks p mine
        rw [nobody p] at less
        exact absurd (some.trans_le less) (Nat.lt_irrefl 0)
  · refine limpia_avanza held.limpia ?_ balance.lanza
    by_cases gives : a = .redespachar
    · subst gives
      cases move with
      | redespachar_nadie none => exact limpia_sigue rfl tail
      | redespachar p k waiting reserved =>
        refine ⟨(by simp),fun _ => ⟨_,_,rfl,rfl⟩,(by simp),tail⟩
    · exact limpia_sigue (balance.limpia gives) tail
  · rw [places k]
    exact held.una_vez k
  · rw [places k,reads k]
    exact held.presente k
  · rw [reads k,leaves k]
    exact held.conexion k
  · rw [places k,reads k,leaves k]
    exact held.nuevas k (balance.cliente.trans later)

/-- A CPU connects: its number is new, and it is about to be put on lista_cpus_libres. -/
theorem cuentas_llega (held : Cuentas v) (here : v.hilos[l.hilo]? = some (.atender_conexiones_entrantes :: later)) :
    Cuentas ⟨{ v.ks with proximo_cliente := v.ks.proximo_cliente + 1 },advance v.hilos l.hilo [.atender_conexiones_entrantes] later
      [[.agregar_cpu (some v.ks.proximo_cliente),.atender_cpu v.ks.proximo_cliente]]⟩ := by
  have tail : LimpiaYSuelta later := (held.limpia _ (List.mem_of_getElem? here)).2
  have sum := fun f : Accion → Nat => total_advance f here [.atender_conexiones_entrantes]
    [[.agregar_cpu (some v.ks.proximo_cliente),.atender_cpu v.ks.proximo_cliente]]
  have leave := sum permiso
  have holds := fun k => sum (en_manos k)
  have reads := fun k => sum (atiende k)
  have leaves := fun k => sum (desconecta k)
  simp only [weight_cons,weight_nil,total_cons,total_nil,permiso,en_manos,atiende,desconecta,reduceCtorEq,if_false,Nat.add_zero,
    Nat.zero_add,Option.some.injEq,Accion.atender_cpu.injEq] at leave holds reads leaves
  have fresh := held.nuevas v.ks.proximo_cliente le_rfl
  have places : ∀ k, lugares k ⟨{ v.ks with proximo_cliente := v.ks.proximo_cliente + 1 },advance v.hilos l.hilo
      [.atender_conexiones_entrantes] later [[.agregar_cpu (some v.ks.proximo_cliente),.atender_cpu v.ks.proximo_cliente]]⟩ =
        lugares k v + if v.ks.proximo_cliente = k then 1 else 0 := by
    intro k
    have all := holds k
    simp only [lugares,sitios,ejecuciones,reservada]
    omega
  refine ⟨?_,?_,held.espera,?_,fun k => ?_,fun k => ?_,fun k => ?_,fun k new => ?_⟩
  · have one := held.permiso
    rw [leave]
    exact one
  · refine anotada_sigue held.anotada (fun p runs => ⟨runs,rfl⟩) rfl rfl (fun p => ?_)
    have all := sum (suspende p)
    simp only [weight_cons,weight_nil,total_cons,total_nil,suspende,reduceCtorEq,if_false,Nat.add_zero] at all
    exact all.le
  · exact limpia_avanza held.limpia (limpia_sigue rfl tail) rfl
  · rw [places k]
    split_ifs with mine
    · subst mine
      omega
    · exact held.una_vez k
  · rw [places k,reads k]
    have less := held.presente k
    split_ifs <;> omega
  · have once := held.conexion k
    rw [reads k,leaves k]
    split_ifs with mine
    · subst mine
      omega
    · exact once
  · have new : v.ks.proximo_cliente + 1 ≤ k := new
    have none := held.nuevas k (by omega)
    rw [places k,reads k,leaves k,if_neg (by omega)]
    exact none

/-- The connection of a CPU is closed. -/
theorem cuentas_corta {k : Nat} (held : Cuentas v) (here : v.hilos[l.hilo]? = some (.atender_cpu k :: later)) :
    Cuentas ⟨v.ks,advance v.hilos l.hilo [.desconectar_cpu k] later []⟩ := by
  have tail : LimpiaYSuelta later := (held.limpia _ (List.mem_of_getElem? here)).2
  have sum := fun f : Accion → Nat => total_advance f here [.desconectar_cpu k] []
  have reads := fun j => sum (atiende j)
  have leaves := fun j => sum (desconecta j)
  have holds := fun j => sum (en_manos j)
  simp only [weight_cons,weight_nil,total_nil,en_manos,atiende,desconecta,reduceCtorEq,if_false,Nat.add_zero,
    Accion.atender_cpu.injEq,Accion.desconectar_cpu.injEq] at reads leaves holds
  have places : ∀ j, lugares j ⟨v.ks,advance v.hilos l.hilo [.desconectar_cpu k] later []⟩ = lugares j v :=
    fun j => congrArg (sitios j v.ks + ·) (holds j)
  refine ⟨?_,?_,held.espera,?_,fun j => ?_,fun j => ?_,fun j => ?_,fun j new => ?_⟩
  · have all := sum permiso
    simp only [weight_cons,weight_nil,total_nil,permiso,Nat.add_zero] at all
    rw [all]
    exact held.permiso
  · refine anotada_sigue held.anotada (fun p runs => ⟨runs,rfl⟩) rfl rfl (fun p => ?_)
    have all := sum (suspende p)
    simp only [weight_cons,weight_nil,total_nil,suspende,reduceCtorEq,if_false,Nat.add_zero] at all
    exact all.le
  · exact limpia_avanza held.limpia (limpia_sigue rfl tail) rfl
  · rw [places j]
    exact held.una_vez j
  · have less := held.presente j
    have one := reads j
    rw [places j]
    dsimp only
    omega
  · have once := held.conexion j
    have one := reads j
    have other := leaves j
    dsimp only
    omega
  · have none := held.nuevas j new
    have one := reads j
    have other := leaves j
    rw [places j]
    dsimp only
    omega

/-- The scheduler forgets a CPU whose thread has stopped reading. -/
theorem cuentas_desconecta {k : Nat} (held : Cuentas v) (here : v.hilos[l.hilo]? = some (.desconectar_cpu k :: later))
    (otros : ∀ j, j ≠ k → sitios j r.ks = sitios j v.ks) (mia : sitios k r.ks ≤ sitios k v.ks)
    (light : r.sigue.all (fun b => !pesada b) = true) (none : r.lanza = []) (encoge : Encoge v.ks r.ks)
    (same : (r.ks.compactando,r.ks.proceso_esperando_memoria,r.ks.cpu_esperando_memoria,r.ks.sem_puede_planificar,r.ks.proximo_cliente) =
      (v.ks.compactando,v.ks.proceso_esperando_memoria,v.ks.cpu_esperando_memoria,v.ks.sem_puede_planificar,v.ks.proximo_cliente)) :
    Cuentas ⟨r.ks,advance v.hilos l.hilo r.sigue later r.lanza⟩ := by
  have tail : LimpiaYSuelta later := (held.limpia _ (List.mem_of_getElem? here)).2
  simp only [Prod.mk.injEq] at same
  obtain ⟨busy,waiting,cpu,sem,client⟩ := same
  have sum : ∀ f : Accion → Nat, (∀ b, pesada b = false → f b = 0) →
      total f (advance v.hilos l.hilo r.sigue later r.lanza) + f (.desconectar_cpu k) = total f v.hilos := by
    intro f zero
    have all := total_advance f here r.sigue r.lanza
    rwa [ligera_weight zero light,none,total_nil,Nat.add_zero,Nat.add_zero,← none] at all
  have holds := fun j => sum (en_manos j) (fun b light => ((ligera_pesos light).2.2 j).1)
  have reads := fun j => sum (atiende j) (fun b light => ((ligera_pesos light).2.2 j).2.1)
  have leaves := fun j => sum (desconecta j) (fun b light => ((ligera_pesos light).2.2 j).2.2)
  simp only [en_manos,atiende,desconecta,reduceCtorEq,if_false,Nat.add_zero,Accion.desconectar_cpu.injEq] at holds reads leaves
  have kept : ∀ j, j ≠ k → lugares j ⟨r.ks,advance v.hilos l.hilo r.sigue later r.lanza⟩ = lugares j v := by
    intro j other
    simp only [lugares,otros j other,holds j]
  have fewer : ∀ j, lugares j ⟨r.ks,advance v.hilos l.hilo r.sigue later r.lanza⟩ ≤ lugares j v := by
    intro j
    by_cases mine : j = k
    · subst mine
      simp only [lugares,holds j]
      omega
    · exact (kept j mine).le
  refine ⟨?_,?_,?_,?_,fun j => ?_,fun j => ?_,fun j => ?_,fun j new => ?_⟩
  · have all := sum permiso (fun b light => (ligera_pesos light).1)
    have one := held.permiso
    simp only [permiso,Nat.add_zero] at all
    simp only [marca,busy,sem,all]
    exact one
  · refine anotada_sigue held.anotada encoge waiting cpu (fun p => ?_)
    have all := sum (suspende p) (fun b light => (ligera_pesos light).2.1 p)
    exact Nat.le_of_add_right_le all.le
  · rw [busy,waiting]
    exact held.espera
  · refine limpia_avanza held.limpia (limpia_sigue (ligera_limpia light) tail) ?_
    rw [none]
    rfl
  · exact (fewer j).trans (held.una_vez j)
  · by_cases mine : j = k
    · subst mine
      have once := held.conexion j
      have gone := leaves j
      have same := reads j
      rw [if_pos rfl] at gone
      dsimp only
      omega
    · rw [kept j mine,reads j]
      exact held.presente j
  · have once := held.conexion j
    have gone := leaves j
    have same := reads j
    dsimp only
    omega
  · have fresh := held.nuevas j (client ▸ new)
    have less := fewer j
    have gone := leaves j
    have same := reads j
    dsimp only
    omega

end assembly

/-- What a move of a thread does with the CPUs when the accounts are kept. -/
theorem cambio_of_cuentas {v : Planificador} {l : Paso} {a : Accion} {later : Pila} {r : Efecto} (held : Cuentas v)
    (here : v.hilos[l.hilo]? = some (a :: later)) (move : Mueve cfg l.hora v.ks a r) (outside : r.ks.bsod_activo = false)
    (good : en_su_lista cfg a l.entrada v.ks = true) (due : fin_debido a l.entrada v.ks = true)
    (known : ∀ p, Sitio cfg v.ks p ∨ Fuera v.ks p) (unborn : v.ks.proximo_pid ∉ v.ks.listas .lista_exec) : Cambio v.ks a r := by
  have listed : a :: later ∈ v.hilos := List.mem_of_getElem? here
  have part := fun f : Accion → Nat => weight_le_total f listed
  have one := held.permiso
  have calm : 0 < weight permiso (a :: later) → v.ks.compactando = false := by
    intro holds
    have mine := part permiso
    by_contra busy
    rw [marca,if_pos (by simpa using busy)] at one
    omega
  have annotated : ∀ p, a = .bloquear_por_compactacion p → Anotado v.ks p ∧ v.ks.compactando = false := by
    rintro p rfl
    refine ⟨held.anotada p ?_,calm (by simp [permiso])⟩
    have mine := part (suspende p)
    simp only [weight_cons,suspende,if_true] at mine
    omega
  have idle : (∃ p, a = .anotar_espera p) ∨ a = .limpiar_espera → v.ks.compactando = false := by
    rintro (⟨p,rfl⟩ | rfl)
    · exact calm (by simp [permiso])
    · obtain ⟨b,rest,rfl,rfl⟩ := (held.limpia _ listed).1 rfl
      exact calm (by simp [permiso])
  exact mueve_cambio move good due known unborn (mueve_bsod move outside).2 annotated idle held.espera

theorem paso_cuentas {l : Paso} {v w : Planificador} (held : Cuentas v) (outside : w.ks.bsod_activo = false)
    (good : al_mover (en_su_lista cfg) l v = true) (due : al_mover fin_debido l v = true)
    (known : ∀ p, Sitio cfg v.ks p ∨ Fuera v.ks p) (unborn : v.ks.proximo_pid ∉ v.ks.listas .lista_exec)
    (moved : paso cfg l v = some w) : Cuentas w := by
  obtain ⟨a,later,r,here,alive,effect,move,rfl⟩ := paso_avanza moved
  have top := cima_of_here here
  have good : en_su_lista cfg a l.entrada v.ks = true := by simpa [al_mover,top] using good
  have due : fin_debido a l.entrada v.ks = true := by simpa [al_mover,top] using due
  cases cambio_of_cuentas held here move outside good due known unborn with
  | cuadra balance espera sigue =>
    refine cuentas_cuadra held here move ?_ balance espera sigue
    rintro rfl
    simpa [fin_debido] using due
  | llega accepts result =>
    subst accepts result
    exact cuentas_llega held here
  | corta k reads result =>
    subst reads result
    exact cuentas_corta held here
  | desconecta k leaves otros mia light none encoge same =>
    subst leaves
    exact cuentas_desconecta held here otros mia light none encoge same

structure Cuidado (cfg : Config) (v : Vigilado) : Prop where
  custodia : Custodia cfg v
  cuentas : v.sistema.ks.bsod_activo = false → Cuentas v.sistema

/-- The process that a move takes off a list is there, and Kernel Memory ends the compactions that it began. -/
def Correcto (cfg : Config) (l : Paso) (v : Vigilado) : Prop :=
  al_mover (en_su_lista cfg) l v.sistema = true ∧ al_mover fin_debido l v.sistema = true

instance (cfg : Config) (l : Paso) (v : Vigilado) : Decidable (Correcto cfg l v) := inferInstanceAs (Decidable (_ ∧ _))

theorem vigila_cuidado {l : Paso} {v w : Vigilado} (held : Cuidado cfg v) (guard : Correcto cfg l v) (moved : vigila cfg l v = some w) :
    Cuidado cfg w := by
  refine ⟨vigila_custodia held.custodia guard.1 moved,fun outside => ?_⟩
  obtain ⟨t,advances,rfl⟩ := Option.map_eq_some_iff.mp moved
  obtain ⟨a,later,r,here,alive,effect,move,rfl⟩ := paso_avanza advances
  have before := (mueve_bsod move outside).1
  exact paso_cuentas (held.cuentas before) outside guard.1 guard.2 (held.custodia.known before) (held.custodia.unborn before) advances

theorem eq_of_countP {f : Nat → Bool} {l : List Nat} (once : l.countP f ≤ 1) (listed : p ∈ l) (holds : f p = true) (listed' : q ∈ l)
    (holds' : f q = true) : p = q := by
  rw [List.countP_eq_length_filter] at once
  have first : p ∈ l.filter f := List.mem_filter.mpr ⟨listed,holds⟩
  have second : q ∈ l.filter f := List.mem_filter.mpr ⟨listed',holds'⟩
  rcases both : l.filter f with _ | ⟨x,_ | ⟨y,rest⟩⟩
  · simp [both] at first
  · rw [both] at first second
    exact (List.mem_singleton.mp first).trans (List.mem_singleton.mp second).symm
  · rw [both] at once
    simp at once

/-- In a run in which the process that a move takes off a list is there and Kernel Memory ends the compactions that it began,
    outside a BSOD a connected CPU is in one place and any other in one at most: on lista_cpus_libres, with a running
    process, in the hands of a handler that gives it back, or kept for the process that waits for the end of a compaction.
    So no two running processes have a CPU in common, and no running process has one that is free. -/
theorem cpu_in_one_place {labels : List Paso} {v : Vigilado} (guarded : Guarded (vigila cfg) (Correcto cfg) labels inicio)
    (reached : run (vigila cfg) labels inicio = some v) (outside : v.sistema.ks.bsod_activo = false) (k : Nat) :
    (Pending (· = .atender_cpu k) v.sistema.hilos → lugares k v.sistema = 1) ∧ lugares k v.sistema ≤ 1 ∧
      (∀ p ∈ v.sistema.ks.listas .lista_exec, (v.sistema.ks.procesos p).cpu = some k →
        some k ∉ v.sistema.ks.lista_cpus_libres ∧
          ∀ q ∈ v.sistema.ks.listas .lista_exec, (v.sistema.ks.procesos q).cpu = some k → q = p) := by
  have start : Cuidado cfg inicio := ⟨inicio_custodia,fun _ => inicial_cuentas⟩
  have held : Cuidado cfg v :=
    invariant_of_guarded (fun _ _ _ held guard moved => vigila_cuidado held guard moved) start guarded reached
  have accounts := held.cuentas outside
  have once := accounts.una_vez k
  refine ⟨?_,once,fun p running mine => ?_⟩
  · rintro ⟨pila,member,a,listed,rfl⟩
    have reads : 0 < weight (atiende k) pila := by
      obtain ⟨first,last,rfl⟩ := List.append_of_mem listed
      simp [atiende]
    have connected := (reads.trans_le (weight_le_total (atiende k) member)).trans_le (accounts.presente k)
    exact le_antisymm once connected
  · have executes : 0 < ejecuciones k v.sistema.ks := List.countP_pos_iff.mpr ⟨p,running,by simpa using mine⟩
    simp only [lugares,sitios] at once
    refine ⟨?_,fun q running' mine' => ?_⟩
    · intro free
      have listed := List.count_pos_iff.mpr free
      omega
    · refine eq_of_countP (f := fun p => (v.sistema.ks.procesos p).cpu = some k) ?_ running' (by simpa using mine') running
        (by simpa using mine)
      simp only [ejecuciones] at once executes
      omega

theorem cpu_in_one_place_siesta : ∃ v, run (vigila fifo) siesta inicio = some v ∧ v.sistema.ks.listas .lista_exec = [1] ∧
    lugares 0 v.sistema = 1 := by
  have ends : (run (vigila fifo) siesta inicio).map (fun v => (v.sistema.ks.bsod_activo,v.sistema.ks.listas .lista_exec,
      v.sistema.hilos[3]?)) = some (false,[1],some [.atender_cpu 0]) := by decide +kernel
  obtain ⟨v,reached,ends⟩ := Option.map_eq_some_iff.mp ends
  obtain ⟨outside,ends⟩ := Prod.mk.inj ends
  obtain ⟨running,reads⟩ := Prod.mk.inj ends
  have connected : Pending (· = .atender_cpu 0) v.sistema.hilos :=
    ⟨_,List.mem_of_getElem? reads,_,List.mem_singleton.mpr rfl,rfl⟩
  exact ⟨v,reached,running,(cpu_in_one_place (by decide +kernel) reached outside 0).1 connected⟩

end PlugNPray.CpuPlaces
