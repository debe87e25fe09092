import PlugNPray.IoRequests

/-!
The processes of lista_susp_ready and the attempts to bring them back to memory: who
has been refused since it entered the list, and which scan of the list gets to whom.
-/
namespace PlugNPray.Resumption
open PlugNPray.Scheduler PlugNPray.Handlers PlugNPray.ReadyQueues PlugNPray.Moves PlugNPray.Stacks PlugNPray.Runs
open PlugNPray.IoRequests (reposa)
open PlugNPray.Shutdown (siesta)

/-! ## Refusals -/

structure Vigilado where
  sistema : Planificador
  /-- The processes whose de-suspension Kernel Memory has refused since they last entered SUSP_READY. -/
  rechazado : Nat → Bool

/-- The move receives a refusal for the process. -/
def rechaza (a : Option Accion) (e : Entrada) (p : Nat) : Bool :=
  match a, e with
  | some (.recibir (.dessuspender_proceso q _)), .respuesta r => q = p && r ≠ .OK
  | _, _ => false

def entra (s t : Ks) (p : Nat) : Bool := (s.procesos p).estado ≠ .SUSP_READY && (t.procesos p).estado = .SUSP_READY

def paso_vigilado (cfg : Config) (l : Paso) (s : Vigilado) : Option Vigilado :=
  (paso cfg l s.sistema).map (fun t =>
    ⟨t,fun p => !entra s.sistema.ks t.ks p && (rechaza (cima s.sistema l.hilo) l.entrada p || s.rechazado p)⟩)

def inicio : Vigilado := ⟨inicial,fun _ => false⟩

/-! ## Scans -/

/-- The action belongs to a scan that still gets to the process at place `n`, or asks for it. -/
def cubre (n p : Nat) : Accion → Bool
  | .intentar_dessuspender_procesos => true
  | .seguir_recorrido i | .leer_susp_ready i => i ≤ n
  | .pedir (.dessuspender_proceso q i) | .recibir (.dessuspender_proceso q i) => q = p || i + 1 ≤ n
  | .sacar_de_susp_ready q i => q = p || i ≤ n
  | _ => false

def lugar (s : Ks) (p : Nat) : Nat := (s.listas .lista_susp_ready).idxOf p

/-! ## What may not happen -/

/-- The first in the queue of the mutex is not suspended. -/
def sin_suspendido (s : Ks) (m : Mutex) : Bool := m.cola_espera.head?.all (fun q => (s.procesos q).estado ≠ .SUSP_BLOCK)

def sin_herencia (s : Ks) (pid i : Nat) : Bool :=
  (s.lista_mutex.drop i).all (fun m => m.pid_dueno ≠ some pid || sin_suspendido s m)

/-- No mutex is handed to a suspended process. -/
def cede_en_memoria (a : Accion) (e : Entrada) (s : Ks) : Bool :=
  match a with
  | .manejar_mutex_unlock _ _ => (e.cadena?.bind (buscar_mutex s)).all (fun m => sin_suspendido s m.2)
  | .despertar_siguiente q => (s.procesos q).estado ≠ .SUSP_BLOCK
  | .liberar_mutex_del_proceso pid i => sin_herencia s pid i
  | .ceder_mutex pid i q => (s.procesos q).estado ≠ .SUSP_BLOCK && sin_herencia s pid (i + 1)
  | _ => true

/-- When a process is taken off lista_susp_ready, each one behind it that has not been refused is still before some scan. -/
def sin_saltos (rechazado : Nat → Bool) (hilo : Nat) (s : Planificador) : Bool :=
  match s.hilos[hilo]? with
  | some (.sacar_de_susp_ready q i :: resto) =>
    let t := s.ks.quitar .lista_susp_ready q
    (t.listas .lista_susp_ready).all (fun p => lugar s.ks p < lugar s.ks q || rechazado p ||
      (advance s.hilos hilo [.seguir_recorrido i] resto []).any (fun pila => pila.any (cubre (lugar t p) p)))
  | _ => true

def todos_intentados (l : Paso) (s : Vigilado) : Bool :=
  al_mover cede_en_memoria l s.sistema && sin_saltos s.rechazado l.hilo s.sistema

/-! ## What a move does to the list -/

variable {cfg : Config} {hora : Nat} {s : Ks}

/-- The list stays, a process enters, the list is sorted, a process is taken off, or the BSOD empties it; who enters
    SUSP_READY is the process that enters the list. -/
inductive Cambio (s : Ks) (a : Accion) (t : Ks) : Prop where
  | igual (same : t.listas .lista_susp_ready = s.listas .lista_susp_ready) (far : ∀ p, entra s t p = false)
  | agrega (p : Nat) (here : a = .mover_a_susp_ready p)
      (same : t.listas .lista_susp_ready = s.listas .lista_susp_ready ++ [p]) (far : ∀ q, q ≠ p → entra s t q = false)
  | ordena (here : a = .intentar_dessuspender_procesos) (far : ∀ p, entra s t p = false)
      (same : ∀ p, p ∈ t.listas .lista_susp_ready ↔ p ∈ s.listas .lista_susp_ready)
  | quita (q i : Nat) (here : a = .sacar_de_susp_ready q i)
      (same : t.listas .lista_susp_ready = (s.listas .lista_susp_ready).erase q) (far : ∀ p, entra s t p = false)
  | vacia (empty : t.listas .lista_susp_ready = [])

theorem entra_of_estado {t : Ks} {p : Nat} (same : (t.procesos p).estado = .SUSP_READY → (s.procesos p).estado = .SUSP_READY) :
    entra s t p = false := by
  by_cases before : (s.procesos p).estado = .SUSP_READY
  · simp [entra,before]
  · simp [entra,mt same before]

/-- Who inherits from a dead process was not suspended, so nobody enters SUSP_READY. -/
theorem despierta_sin_suspendido {p : Nat} {r : Ks × Pila} (what : Despierta cfg hora p s r)
    (inside : (s.procesos p).estado ≠ .SUSP_BLOCK) :
    r.1.listas .lista_susp_ready = s.listas .lista_susp_ready ∧
      (∀ q, (r.1.procesos q).estado = .SUSP_READY → (s.procesos q).estado = .SUSP_READY) ∧
      (∀ q, (r.1.procesos q).estado = .SUSP_BLOCK → (s.procesos q).estado = .SUSP_BLOCK) ∧ r.1.lista_mutex = s.lista_mutex := by
  cases what with
  | susp_block suspended => exact absurd suspended inside
  | block | desaloja =>
    refine ⟨by simp,fun q => ?_,fun q => ?_,rfl⟩ <;> by_cases same : q = p <;> simp [same]
  | inesperado =>
    refine ⟨rfl,fun q => ?_,fun q => ?_,rfl⟩ <;> by_cases same : q = p <;> simp [same]

/-- The mutexes from `i` on are as they were, and nobody has been suspended since. -/
theorem sin_herencia_mono {t : Ks} {pid i : Nat} (mutexes : t.lista_mutex.drop i = s.lista_mutex.drop i)
    (estados : ∀ q, (t.procesos q).estado = .SUSP_BLOCK → (s.procesos q).estado = .SUSP_BLOCK)
    (inside : sin_herencia s pid i = true) : sin_herencia t pid i = true := by
  unfold sin_herencia at inside ⊢
  rw [mutexes]
  refine List.all_eq_true.mpr (fun m member => ?_)
  have here := List.all_eq_true.mp inside m member
  unfold sin_suspendido at here ⊢
  cases queue : m.cola_espera.head? with
  | none => simp
  | some q =>
    simp only [queue,Option.all_some,Bool.or_eq_true,decide_eq_true_eq] at here ⊢
    exact here.imp_right (mt (estados q))

theorem sin_herencia_next {pid i : Nat} (inside : sin_herencia s pid i = true) : sin_herencia s pid (i + 1) = true := by
  unfold sin_herencia at inside ⊢
  rw [List.all_eq_true] at inside ⊢
  intro m member
  rw [← List.drop_drop] at member
  exact inside m (List.mem_of_mem_drop member)

theorem sin_herencia_here {pid i siguiente : Nat} {espera : List Nat} {m : Mutex} (inside : sin_herencia s pid i = true)
    (here : s.lista_mutex[i]? = some m) (owned : m.pid_dueno = some pid) (queue : m.cola_espera = siguiente :: espera) :
    (s.procesos siguiente).estado ≠ .SUSP_BLOCK := by
  have member : m ∈ s.lista_mutex.drop i := by
    have first : (s.lista_mutex.drop i)[0]? = some m := by simpa using here
    exact List.mem_of_getElem? first
  have safe := List.all_eq_true.mp inside m member
  simpa [owned,sin_suspendido,queue] using safe

theorem drop_modify (l : List Mutex) (i : Nat) (f : Mutex → Mutex) : (l.modify i f).drop (i + 1) = l.drop (i + 1) := by
  rw [List.drop_modify_of_lt]
  omega

/-- The part of the state that the loop over the mutexes of a dead process leaves alone when nobody in it is suspended. -/
structure Intacta (s t : Ks) : Prop where
  lista : t.listas .lista_susp_ready = s.listas .lista_susp_ready
  susp_ready : ∀ q, (t.procesos q).estado = .SUSP_READY → (s.procesos q).estado = .SUSP_READY
  susp_block : ∀ q, (t.procesos q).estado = .SUSP_BLOCK → (s.procesos q).estado = .SUSP_BLOCK

theorem Intacta.trans {t u : Ks} (first : Intacta s t) (second : Intacta t u) : Intacta s u :=
  ⟨second.lista.trans first.lista,fun q now => first.susp_ready q (second.susp_ready q now),
    fun q now => first.susp_block q (second.susp_block q now)⟩

theorem heredar_intacta {i q : Nat} {espera : List Nat} : Intacta s (heredar_mutex cfg i q espera s).1 :=
  ⟨heredar_mutex_lista rfl,fun _ now => heredar_mutex_estado.symm.trans now,fun _ now => heredar_mutex_estado.symm.trans now⟩

theorem recorrido_intacta (s : Ks) (pid : Nat) :
    Recorrido cfg hora pid (fun i t => Intacta s t ∧ sin_herencia t pid i = true) (fun t _ => Intacta s t) where
  acaba i t start _ := start.1
  pasa t i m start _ _ := ⟨start.1,sin_herencia_next start.2⟩
  suelta t i m start _ _ _ := by
    have next := sin_herencia_next start.2
    exact ⟨start.1.trans ⟨rfl,fun _ => id,fun _ => id⟩,sin_herencia_mono (drop_modify ..) (fun _ => id) next⟩
  pausa t i m siguiente espera start _ _ _ _ := start.1.trans heredar_intacta
  sigue t i m siguiente espera r start here owned queue quiet what := by
    have inside := sin_herencia_here start.2 here owned queue
    rw [← @heredar_mutex_estado cfg _ _ siguiente i espera] at inside
    obtain ⟨lista,susp_ready,susp_block,mutexes⟩ := despierta_sin_suspendido what inside
    have done := (start.1.trans heredar_intacta).trans ⟨lista,susp_ready,susp_block⟩
    refine ⟨fun _ => ⟨done,sin_herencia_mono ?_ ?_ (sin_herencia_next start.2)⟩,fun _ => done⟩
    · rw [mutexes,heredar_mutex_mutex]
      exact drop_modify ..
    · exact fun q now => heredar_intacta.susp_block q (susp_block q now)

theorem Intacta.igual {t : Ks} {a : Accion} (same : Intacta s t) : Cambio s a t :=
  .igual same.lista (fun p => entra_of_estado (same.susp_ready p))

theorem mueve_susp_ready {e : Entrada} {a : Accion} {r : Efecto} (effect : efecto cfg hora e a s = some r)
    (inside : cede_en_memoria a e s = true) : Cambio s a r.ks := by
  have same : ∀ {t : Ks}, t.listas .lista_susp_ready = s.listas .lista_susp_ready →
      (∀ p, (t.procesos p).estado = .SUSP_READY → (s.procesos p).estado = .SUSP_READY) → Cambio s a t :=
    fun lista estados => .igual lista (fun p => entra_of_estado (estados p))
  by_cases unlocks : ∃ p k, a = .manejar_mutex_unlock p k
  · obtain ⟨p,k,rfl⟩ := unlocks
    obtain ⟨nombre,arrives,rfl⟩ := Option.map_eq_some_iff.mp effect
    have what := manejar_mutex_unlock_cases cfg p k nombre s
    generalize manejar_mutex_unlock cfg p k nombre s = d at what ⊢
    cases what with
    | desconocido missing => exact same rfl (fun _ => id)
    | sin_espera j m t found empty what =>
      exact same ((devolucion_lista what).trans rfl) (fun q now => (devolucion_estado what).symm.trans now)
    | cede j siguiente espera m t r found queue what d inherits silent wakes =>
      have lista : r.1.listas .lista_susp_ready = s.listas .lista_susp_ready :=
        (herencia_lista rfl inherits).trans ((devolucion_lista what).trans rfl)
      have estado : ∀ q, (r.1.procesos q).estado = (s.procesos q).estado := fun q =>
        (herencia_estado inherits).trans ((devolucion_estado what).trans rfl)
      cases wakes with
      | susp_block suspended =>
        rw [estado] at suspended
        simp [cede_en_memoria,arrives,found,sin_suspendido,queue,suspended] at inside
      | block | inesperado =>
        refine same lista (fun q now => (estado q).symm.trans ?_)
        by_cases eq : q = siguiente <;> simpa [eq] using now
    | pausa j siguiente espera m t r found queue what inherits pausa =>
      refine same ((herencia_lista rfl inherits).trans ((devolucion_lista what).trans rfl)) (fun q now => ?_)
      rw [herencia_estado inherits,devolucion_estado what] at now
      exact now
  have move := efecto_mueve effect
  cases move with
  | unlock_desconocido | unlock_sin_espera | unlock_cede | unlock_pausa => exact absurd ⟨_,_,rfl⟩ unlocks
  | liberar_mutex_del_proceso pid i =>
    exact (liberar_rule (recorrido_intacta s pid) i ⟨⟨rfl,fun _ => id,fun _ => id⟩,inside⟩).igual
  | ceder_mutex pid i p r what silent =>
    simp only [cede_en_memoria,Bool.and_eq_true,decide_eq_true_eq] at inside
    obtain ⟨lista,susp_ready,susp_block,mutexes⟩ := despierta_sin_suspendido what inside.1
    have next := sin_herencia_mono (t := r.1) (by rw [mutexes]) susp_block inside.2
    exact (liberar_rule (recorrido_intacta s pid) (i + 1) ⟨⟨lista,susp_ready,susp_block⟩,next⟩).igual
  | ceder_mutex_pausa pid i p r what pausa =>
    simp only [cede_en_memoria,Bool.and_eq_true,decide_eq_true_eq] at inside
    obtain ⟨lista,susp_ready,_,_⟩ := despierta_sin_suspendido what inside.1
    exact same lista susp_ready
  | lock_espera p k j pid nombre m r found taken what =>
    rcases what with rfl | ⟨cmn,owner,inherits⟩
    · exact same rfl (fun _ => id)
    · exact same ((herencia_lista rfl inherits).trans rfl) (fun q now => (herencia_estado inherits).symm.trans now)
  | despertar_siguiente p d wakes =>
    cases wakes with
    | susp_block suspended => simp [cede_en_memoria,suspended] at inside
    | block | inesperado => exact same rfl (fun q now => by by_cases eq : q = p <;> simpa [eq] using now)
  | mover_a_susp_ready p =>
    refine .agrega p rfl (by simp [mover_a_susp_ready]) (fun q other => entra_of_estado (fun now => ?_))
    simpa [mover_a_susp_ready,other] using now
  | intentar_dessuspender_procesos =>
    refine .ordena rfl (fun p => entra_of_estado id) (fun p => ?_)
    simp only [intentar_dessuspender_procesos,Ks.con_lista_listas,Function.update_self]
    exact (cfg.sorter.perm _ _).mem_iff
  | sacar_de_susp_ready p i desaloja one =>
    refine .quita p i rfl (by simp [pasa_a_ready]) (fun q => entra_of_estado (fun now => ?_))
    by_cases eq : q = p <;> simp_all [pasa_a_ready]
  | manejar_bsod busy => exact .vacia rfl
  | desconectar_ociosa k idle =>
    unfold quitar_cpu_libre
    split_ifs <;> exact same rfl (fun _ => id)
  | desconectar_ocupada k p busy desaloja one =>
    have procesos : (quitar_cpu_libre k s).procesos = s.procesos := by unfold quitar_cpu_libre; split_ifs <;> rfl
    have listas : (quitar_cpu_libre k s).listas = s.listas := by unfold quitar_cpu_libre; split_ifs <;> rfl
    refine same (by simp [listas]) (fun q now => ?_)
    by_cases eq : q = p
    · simp [eq] at now
    · simpa [eq,procesos] using now
  | manejar_io t p k v x kept =>
    refine same rfl (fun q now => ?_)
    by_cases eq : q = p
    · subst eq
      obtain ⟨_,_,_,rfl⟩ := manejar_io_some kept
      simpa using now
    · simpa [eq] using now
  | crear_proceso_inicial | manejar_init_proc k prioridad =>
    refine same rfl (fun q now => ?_)
    by_cases eq : q = s.proximo_pid
    · simp [crear_proceso,proceso_nuevo,eq] at now
    · simpa [crear_proceso,eq] using now
  | planificar c p k cola libres served first free timer | planificar_timer c p k cola libres served first free timer =>
    have ready : .lista_susp_ready ≠ c := ne_of_served rfl served
    refine same (by simp [ready]) (fun q now => ?_)
    by_cases eq : q = p
    · simp [eq] at now
    · simpa [eq] using now
  | mover_proceso_a_ready p | mover_proceso_de_block_a_ready p | vence_quantum _ _ p | vence_en_vano _ p | manejar_proceso_exit _ p
  | manejar_seg_fault _ p | manejar_fin_quantum _ p | fin_quantum_invalido _ p | fin_quantum_al_frente _ p | fin_io_block p
  | fin_io_susp_block p | fin_io_inesperado p | fin_compactacion p | vence_suspension _ p | bloquear_proceso p
  | bloquear_por_compactacion p =>
    refine same (by simp [pasa_a_ready,bloquear_proceso,bloquear_por_compactacion]) (fun q now => ?_)
    by_cases eq : q = p
    · simp_all [pasa_a_ready,bloquear_proceso,bloquear_por_compactacion]
    · simpa [pasa_a_ready,bloquear_proceso,bloquear_por_compactacion,eq] using now
  | _ => exact same rfl (fun _ => id)

/-! ## Scans go on -/

theorem lugar_lt {p : Nat} (listed : p ∈ s.listas .lista_susp_ready) : lugar s p < (s.listas .lista_susp_ready).length :=
  List.idxOf_lt_length_of_mem listed

theorem at_lugar {p : Nat} (listed : p ∈ s.listas .lista_susp_ready) : (s.listas .lista_susp_ready)[lugar s p]? = some p :=
  List.getElem?_eq_some_iff.mpr ⟨lugar_lt listed,List.getElem_idxOf (lugar_lt listed)⟩

/-- A scan that gets to a process still does so after its move, or has just been refused it. -/
theorem efecto_cubre {e : Entrada} {a : Accion} {r : Efecto} {p : Nat} (effect : efecto cfg hora e a s = some r)
    (listed : p ∈ s.listas .lista_susp_ready) (covers : cubre (lugar s p) p a = true)
    (stays : ∀ q i, a = .sacar_de_susp_ready q i → q ≠ p) :
    rechaza (some a) e p = true ∨ ∃ b ∈ r.sigue, cubre (lugar s p) p b = true := by
  cases a with
  | intentar_dessuspender_procesos =>
    cases effect
    exact .inr ⟨_,List.mem_singleton_self _,by simp [cubre]⟩
  | seguir_recorrido i =>
    cases effect
    have reaches : i ≤ lugar s p := by simpa [cubre] using covers
    have inside := reaches.trans_lt (lugar_lt listed)
    exact .inr ⟨.leer_susp_ready i,by simp [si,inside],by simp [cubre,reaches]⟩
  | leer_susp_ready i =>
    obtain ⟨q,here,rfl⟩ := Option.map_eq_some_iff.mp effect
    have reaches : i ≤ lugar s p := by simpa [cubre] using covers
    refine .inr ⟨_,List.mem_singleton_self _,?_⟩
    rcases reaches.eq_or_lt with last | before
    · rw [last,at_lugar listed] at here
      cases here
      simp [cubre]
    · simp [cubre,Nat.succ_le_of_lt before]
  | pedir q =>
    have move := efecto_mueve effect
    cases move
    refine .inr ⟨_,List.mem_singleton_self _,?_⟩
    cases q with
    | dessuspender_proceso => exact covers
    | _ => cases covers
  | recibir q =>
    cases q with
    | dessuspender_proceso q i =>
      obtain ⟨v,arrives,rfl⟩ := Option.map_eq_some_iff.mp effect
      have sent : e = .respuesta v := by cases e <;> simp_all [Entrada.respuesta?]
      subst sent
      simp only [cubre,Bool.or_eq_true,decide_eq_true_eq] at covers
      cases v with
      | OK => exact .inr ⟨_,List.mem_singleton_self _,by simp only [cubre,Bool.or_eq_true,decide_eq_true_eq]; omega⟩
      | _ =>
        rcases covers with asked | before
        · exact .inl (by simp [rechaza,asked])
        · exact .inr ⟨_,List.mem_singleton_self _,by simp [cubre,before]⟩
    | _ => cases covers
  | sacar_de_susp_ready q i =>
    cases effect
    have other := stays q i rfl
    have reaches : i ≤ lugar s p := by simpa [cubre,other] using covers
    exact .inr ⟨.seguir_recorrido i,by simp [sacar_de_susp_ready],by simp [cubre,reaches]⟩
  | _ => cases covers

theorem rechaza_mono {a : Option Accion} {e : Entrada} {t : Ks} {p : Nat} (far : entra s t p = false) {before : Bool}
    (refused : rechaza a e p = true ∨ before = true) : (!entra s t p && (rechaza a e p || before)) = true := by
  simpa [far] using refused

/-! ## Runs -/

def entrante : Accion → Bool
  | .mover_a_susp_ready _ => true
  | _ => false

/-- What enters the list is followed by a scan. -/
def Seguida : Pila → Prop := Followed entrante (fun _ b => b = .intentar_dessuspender_procesos)

theorem de_bucle_no_entrante : ∀ b, de_bucle b = true → (!entrante b) = true := by
  intro b loop
  cases b <;> first | rfl | cases loop

theorem all_no_entrante {pila : Pila} (loop : ∀ b ∈ pila, de_bucle b = true) : pila.all (fun b => !entrante b) = true :=
  all_de_bucle de_bucle_no_entrante loop

theorem tras_respuesta_no_entrante (q : Pedido) (v : Respuesta) : (tras_respuesta q v).all (fun b => !entrante b) = true := by
  cases q with
  | crear_proceso p k => cases k <;> cases v <;> rfl
  | _ => cases v <;> rfl

/-- A process enters the list by manejar_fin_io only, which scans it next. -/
theorem efecto_entrante {e : Entrada} {a : Accion} {r : Efecto} (effect : efecto cfg hora e a s = some r)
    (inside : cede_en_memoria a e s = true) :
    r.sigue.all (fun b => !entrante b) = true ∨ ∃ p, r.sigue = [.mover_a_susp_ready p,.intentar_dessuspender_procesos] := by
  by_cases unlocks : ∃ p k, a = .manejar_mutex_unlock p k
  · obtain ⟨p,k,rfl⟩ := unlocks
    obtain ⟨nombre,arrives,rfl⟩ := Option.map_eq_some_iff.mp effect
    have what := manejar_mutex_unlock_cases cfg p k nombre s
    generalize manejar_mutex_unlock cfg p k nombre s = d at what ⊢
    cases what with
    | cede j siguiente espera m t r found queue what d inherits silent wakes =>
      have estado : (r.1.procesos siguiente).estado = (s.procesos siguiente).estado :=
        (herencia_estado inherits).trans ((devolucion_estado what).trans rfl)
      cases wakes with
      | susp_block suspended =>
        rw [estado] at suspended
        simp [cede_en_memoria,arrives,found,sin_suspendido,queue,suspended] at inside
      | block | inesperado => exact .inl rfl
    | pausa j siguiente espera m t r found queue what inherits pausa =>
      exact .inl (by simp only [List.all_append,all_no_entrante (desalojo_de_bucle (herencia_pila inherits)),Bool.true_and]; rfl)
    | desconocido | sin_espera => exact .inl rfl
  have move := efecto_mueve effect
  cases move with
  | unlock_desconocido | unlock_sin_espera | unlock_cede | unlock_pausa => exact absurd ⟨_,_,rfl⟩ unlocks
  | recibir q v => exact .inl (tras_respuesta_no_entrante q v)
  | mover_proceso_a_ready p desaloja one | mover_proceso_de_block_a_ready p desaloja one | desconectar_ocupada k p busy desaloja one
  | sacar_de_susp_ready p i desaloja one =>
    exact .inl (by
      simp only [List.all_append,all_no_entrante (desalojo_de_bucle one),all_no_entrante (anuncio_de_bucle cfg _),Bool.true_and]
      try rfl)
  | manejar_fin_quantum k p running still desaloja one =>
    exact .inl (by simp only [List.all_append,all_no_entrante (desalojo_de_bucle one),Bool.true_and]; rfl)
  | liberar_mutex_del_proceso pid i => exact .inl (all_no_entrante (liberar_pila cfg hora pid i s))
  | ceder_mutex pid i p r what silent => exact .inl (all_no_entrante (liberar_pila cfg hora pid (i + 1) r.1))
  | ceder_mutex_pausa pid i p r what pausa => exact .inl (by simp only [List.all_append,all_no_entrante (despierta_pila what),Bool.true_and]; rfl)
  | liberar_cpu_de_quantum k planificable => cases planificable <;> exact .inl rfl
  | lock_espera p k j pid nombre m r found taken what =>
    have sends : Desalojo r.2 := by
      rcases what with rfl | ⟨cmn,owner,inherits⟩
      · exact desalojo_nil
      · exact herencia_pila inherits
    exact .inl (by simp only [List.all_append,all_no_entrante (desalojo_de_bucle sends),Bool.true_and]; rfl)
  | despertar_siguiente p d wakes =>
    cases wakes with
    | susp_block suspended => simp [cede_en_memoria,suspended] at inside
    | block | inesperado => exact .inl rfl
  | desalojar_todas_las_cpus busy | manejar_bsod busy =>
    exact .inl (by simp only [List.all_append,all_no_entrante (interrupciones_de_bucle s),Bool.true_and]; rfl)
  | tomar_pedido_io t d p cola queue => cases t <;> exact .inl rfl
  | fin_io_susp_block p suspended => exact .inr ⟨p,rfl⟩
  | _ => exact .inl rfl

theorem mueve_lanza_seguida {a : Accion} {r : Efecto} (move : Mueve cfg hora s a r) : ∀ pila ∈ r.lanza, Seguida pila := by
  cases move with
  | iniciar_hilos | cliente_cpu | cliente_io t | lanzar_quantum t k p | bloquear_proceso p por =>
    simp [bloquear_proceso,Seguida,Followed,entrante]
  | unlock_cede p k j siguiente espera nombre m t r found queue what d inherits silent wakes => exact fun _ member => by cases member
  | despertar_siguiente p d wakes => cases wakes <;> exact fun _ member => by cases member
  | _ => exact fun _ member => by cases member

structure Atendidos (s : Vigilado) : Prop where
  cubiertos : ∀ p ∈ s.sistema.ks.listas .lista_susp_ready,
    s.rechazado p = true ∨ Pending (fun a => cubre (lugar s.sistema.ks p) p a = true) s.sistema.hilos
  seguidas : ∀ pila ∈ s.sistema.hilos, Seguida pila

theorem inicio_atendidos : Atendidos inicio where
  cubiertos p listed := by cases listed
  seguidas pila member := by
    obtain rfl := List.mem_singleton.mp member
    simp [Seguida,Followed,entrante]

theorem idxOf_erase {l : List Nat} {p q : Nat} (before : l.idxOf p < l.idxOf q) : (l.erase q).idxOf p = l.idxOf p := by
  induction l with
  | nil => rfl
  | cons x rest ih =>
    by_cases last : x = q
    · subst last
      simp at before
    · rw [List.erase_cons_tail (by simpa using last)]
      by_cases first : x = p
      · subst first
        simp
      · simp only [List.idxOf_cons_ne _ first,List.idxOf_cons_ne _ last] at before ⊢
        rw [ih (by omega)]

/-- A process is taken off the list: those before it keep their places, and the guard looks at the rest. -/
theorem sacar_cubiertos {l : Paso} {s : Vigilado} {u : Planificador} {q i : Nat} {resto : Pila} {r : Efecto} (held : Atendidos s)
    (ahead : sin_saltos s.rechazado l.hilo s.sistema = true) (move : Avanza cfg l s.sistema u (.sacar_de_susp_ready q i) resto r)
    {p : Nat} (listed : p ∈ r.ks.listas .lista_susp_ready) :
    s.rechazado p = true ∨
      Pending (fun b => cubre (lugar r.ks p) p b = true) (advance s.sistema.hilos l.hilo r.sigue resto r.lanza) := by
  have taken : r.ks.listas .lista_susp_ready = (s.sistema.ks.listas .lista_susp_ready).erase q := by
    have what := move.move
    cases what
    simp [pasa_a_ready]
  have last : .seguir_recorrido i ∈ r.sigue := by
    have what := move.move
    cases what
    simp
  rw [taken] at listed
  simp only [sin_saltos,move.here] at ahead
  have here := List.all_eq_true.mp ahead p (by simpa using listed)
  have place : lugar (s.sistema.ks.quitar .lista_susp_ready q) p = lugar r.ks p := by
    unfold lugar
    rw [taken]
    simp
  simp only [Bool.or_eq_true,decide_eq_true_eq,place] at here
  rcases here with (before | refused) | scanned
  · -- In front of the one that leaves.
    have old : p ∈ s.sistema.ks.listas .lista_susp_ready := List.mem_of_mem_erase listed
    have other : q ≠ p := by rintro rfl; omega
    have same : lugar r.ks p = lugar s.sistema.ks p := by
      unfold lugar at before ⊢
      rw [taken]
      exact idxOf_erase before
    rw [same]
    refine (held.cubiertos p old).imp_right (fun pending => ?_)
    rcases @pending_advance _ _ _ _ _ _ r.sigue r.lanza pending move.here with covers | still
    · have reaches : i ≤ lugar s.sistema.ks p := by simpa [cubre,other] using covers
      exact pending_next move.here ⟨.seguir_recorrido i,List.mem_append_left resto last,by simp [cubre,reaches]⟩
    · exact still
  · exact .inl refused
  · obtain ⟨pila,member,found⟩ := List.any_eq_true.mp scanned
    obtain ⟨b,within,covers⟩ := List.any_eq_true.mp found
    exact .inr (pending_advance_mono move.here (fun c listed => List.mem_singleton.mp listed ▸ last) ⟨pila,member,b,within,covers⟩)

theorem avanza_atendidos {l : Paso} {s : Vigilado} {u : Planificador} {a : Accion} {resto : Pila} {r : Efecto} (held : Atendidos s)
    (tried : todos_intentados l s = true) (move : Avanza cfg l s.sistema u a resto r) :
    Atendidos ⟨u,fun p => !entra s.sistema.ks u.ks p && (rechaza (cima s.sistema l.hilo) l.entrada p || s.rechazado p)⟩ := by
  have top := cima_of_here move.here
  simp only [todos_intentados,al_mover,top,Option.all_some,Bool.and_eq_true] at tried
  obtain ⟨inside,ahead⟩ := tried
  have followed := held.seguidas _ (List.mem_of_getElem? move.here)
  rw [top,move.result]
  refine ⟨fun p listed => ?_,fun pila member => ?_⟩
  · dsimp only at listed ⊢
    have next : ∀ b, b ∈ r.sigue ++ resto → cubre (lugar r.ks p) p b = true →
        Pending (fun b => cubre (lugar r.ks p) p b = true) (advance s.sistema.hilos l.hilo r.sigue resto r.lanza) :=
      fun b here covers => pending_next move.here ⟨b,here,covers⟩
    -- Where the list keeps its order, what covered the process goes on.
    have keeps : p ∈ s.sistema.ks.listas .lista_susp_ready → lugar r.ks p = lugar s.sistema.ks p →
        (∀ q i, a = .sacar_de_susp_ready q i → q ≠ p) → entra s.sistema.ks r.ks p = false →
        (!entra s.sistema.ks r.ks p && (rechaza (some a) l.entrada p || s.rechazado p)) = true ∨
          Pending (fun b => cubre (lugar r.ks p) p b = true) (advance s.sistema.hilos l.hilo r.sigue resto r.lanza) := by
      intro old place stays far
      rw [place] at next ⊢
      rcases held.cubiertos p old with refused | pending
      · exact .inl (rechaza_mono far (.inr refused))
      · rcases @pending_advance _ _ _ _ _ _ r.sigue r.lanza pending move.here with covers | still
        · rcases efecto_cubre move.effect old covers stays with refused | ⟨b,listed,covers⟩
          · exact .inl (rechaza_mono far (.inl refused))
          · exact .inr (next b (List.mem_append_left resto listed) covers)
        · exact .inr still
    by_cases takes : ∃ q i, a = .sacar_de_susp_ready q i
    · obtain ⟨q,i,rfl⟩ := takes
      have far : entra s.sistema.ks r.ks p = false := by
        have what := move.move
        cases what
        refine entra_of_estado (fun now => ?_)
        by_cases eq : p = q <;> simp_all [pasa_a_ready]
      exact (sacar_cubiertos held ahead move listed).imp_left (fun refused => rechaza_mono far (.inr refused))
    · have stays : ∀ q i, a = .sacar_de_susp_ready q i → q ≠ p := fun q i same => absurd ⟨q,i,same⟩ takes
      cases mueve_susp_ready move.effect inside with
      | igual same far => exact keeps (same ▸ listed) (by rw [lugar,lugar,same]) stays (far p)
      | agrega q here same far =>
        subst here
        by_cases eq : p = q
        · obtain ⟨b,later,rfl,rfl⟩ := followed.1 rfl
          exact .inr (next .intentar_dessuspender_procesos (by simp) rfl)
        · rw [same] at listed
          have old : p ∈ s.sistema.ks.listas .lista_susp_ready := by simpa [eq] using listed
          exact keeps old (by rw [lugar,lugar,same,List.idxOf_append_of_mem old]) stays (far p eq)
      | ordena here far same =>
        subst here
        have what := move.move
        cases what
        exact .inr (next (.seguir_recorrido 0) (by simp) (by simp [cubre]))
      | quita q i here same far => exact absurd ⟨q,i,here⟩ takes
      | vacia empty =>
        rw [empty] at listed
        cases listed
  · rcases mem_advance member with old | rfl | new
    · exact held.seguidas pila old
    · rcases efecto_entrante move.effect inside with none | ⟨p,same⟩
      · exact followed_append (fun b listed => by simpa using List.all_eq_true.mp none b listed) followed.2
      · rw [same]
        refine ⟨fun _ => ⟨_,_,rfl,rfl⟩,?_,followed.2⟩
        intro leads
        cases leads
    · exact mueve_lanza_seguida move.move pila new

theorem paso_atendidos {l : Paso} {s u : Vigilado} (held : Atendidos s) (tried : todos_intentados l s = true)
    (moved : paso_vigilado cfg l s = some u) : Atendidos u := by
  obtain ⟨t,advances,rfl⟩ := Option.map_eq_some_iff.mp moved
  obtain ⟨a,resto,r,move⟩ := paso_avanza advances
  exact avanza_atendidos held tried move

/-- With no thread between two steps, Kernel Memory has refused each process of lista_susp_ready since it entered it. -/
theorem susp_ready_refused {labels : List Paso} {s : Vigilado}
    (guarded : Guarded (paso_vigilado cfg) (fun l s => todos_intentados l s = true) labels inicio)
    (reached : run (paso_vigilado cfg) labels inicio = some s) (rest : Every (fun a => reposa [] a = true) s.sistema.hilos)
    {p : Nat} (listed : p ∈ s.sistema.ks.listas .lista_susp_ready) : s.rechazado p = true := by
  have held : Atendidos s :=
    invariant_of_guarded (fun _ _ _ held tried moved => paso_atendidos held tried moved) inicio_atendidos guarded reached
  rcases held.cubiertos p listed with refused | ⟨pila,member,b,within,covers⟩
  · exact refused
  · have quiet := rest pila member b within
    cases b <;> first | (cases quiet; done) | cases covers

/-- Process 0 sleeps until it is suspended; when the device is done with it, Kernel Memory has no room for it. -/
def siesta_larga : List Paso := siesta ++ turnos 4 2 ++ [{ hilo := 4, entrada := .respuesta .OK },
  { hilo := 5, entrada := .respuesta_io true }] ++ turnos 5 6 ++ [{ hilo := 5, entrada := .respuesta .ERROR }] ++ turnos 5 1

theorem susp_ready_refused_siesta : ∃ s, run (paso_vigilado fifo) siesta_larga inicio = some s ∧
    0 ∈ s.sistema.ks.listas .lista_susp_ready ∧ s.rechazado 0 = true := by
  have ends : (run (paso_vigilado fifo) siesta_larga inicio).map (fun s => (s.sistema.ks.listas .lista_susp_ready,
      s.sistema.hilos.all (fun pila => pila.all (reposa [])))) = some ([0],true) := by decide
  obtain ⟨s,reached,ends⟩ := Option.map_eq_some_iff.mp ends
  obtain ⟨list,rest⟩ := Prod.mk.inj ends
  have listed : 0 ∈ s.sistema.ks.listas .lista_susp_ready := list ▸ List.mem_singleton_self 0
  exact ⟨s,reached,listed,susp_ready_refused (by decide) reached (every_of_all rest) listed⟩

/-- Process 1 is suspended while it waits for the mutex, and process 0 unlocks it. -/
def herencia_suspendida : List Paso :=
  candado ++ turnos 5 2 ++ [{ hilo := 5, entrada := .respuesta .OK }] ++ llama 3 0 .mutex_unlock (.cadena "m") ++ turnos 3 2

/-- No thread is between two steps, and nobody has tried to bring process 1 back. -/
theorem susp_ready_stranded : ∃ s, run (paso_vigilado fifo) herencia_suspendida inicio = some s ∧
    Every (fun a => reposa [] a = true) s.sistema.hilos ∧ 1 ∈ s.sistema.ks.listas .lista_susp_ready ∧ s.rechazado 1 = false := by
  have ends : (run (paso_vigilado fifo) herencia_suspendida inicio).map (fun s => (s.sistema.ks.listas .lista_susp_ready,
      s.sistema.hilos.all (fun pila => pila.all (reposa [])),s.rechazado 1)) = some ([1],true,false) := by decide
  obtain ⟨s,reached,ends⟩ := Option.map_eq_some_iff.mp ends
  obtain ⟨list,ends⟩ := Prod.mk.inj ends
  obtain ⟨rest,untried⟩ := Prod.mk.inj ends
  exact ⟨s,reached,every_of_all rest,list ▸ List.mem_singleton_self 1,untried⟩

end PlugNPray.Resumption
