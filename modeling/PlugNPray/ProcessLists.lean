import PlugNPray.Waiting

/-!
Where the processes are: each registered process that has not terminated is once in one
list, the one that its state says, as long as every move finds the process that it takes
from a list there.
-/
namespace PlugNPray.ProcessLists
open PlugNPray.Scheduler PlugNPray.Handlers PlugNPray.ReadyQueues PlugNPray.Moves PlugNPray.Stacks PlugNPray.Runs
open PlugNPray.References PlugNPray.Priorities
open PlugNPray.Shutdown (siesta)

/-! ## Places -/

/-- The state of the processes of a list. -/
def estado_de : Cola → Estado
  | .lista_new => .NEW
  | .lista_ready | .colas_ready _ | .lista_ready_invalida => .READY
  | .lista_exec => .EXEC
  | .lista_block => .BLOCK
  | .lista_susp_ready => .SUSP_READY
  | .lista_susp_block => .SUSP_BLOCK

/-- The process occurs once in all lists together, in this one; the list is that of its state and, among the ready queues,
    that of its priority. -/
structure Ubicado (cfg : Config) (s : Ks) (p : Nat) (c : Cola) : Prop where
  una_vez : ∀ e, (s.listas e).count p = if e = c then 1 else 0
  estado : (s.procesos p).estado = estado_de c
  ready : de_ready c = true → c = destino cfg (s.procesos p).prioridad

/-- The process is in no list: it has not been registered, or it has terminated. -/
structure Fuera (s : Ks) (p : Nat) : Prop where
  nunca : ∀ e, p ∉ s.listas e
  estado : (s.procesos p).estado = .NEW ∨ (s.procesos p).estado = .EXIT_STATE

def Sitio (cfg : Config) (s : Ks) (p : Nat) : Prop := ∃ c, Ubicado cfg s p c

variable {cfg : Config} {hora : Nat} {s t u : Ks} {p q : Nat} {c d e : Cola}

theorem Ubicado.lista (here : Ubicado cfg s p c) (listed : p ∈ s.listas d) : d = c := by
  by_contra other
  have none := here.una_vez d
  rw [if_neg other] at none
  exact List.count_eq_zero.mp none listed

theorem Ubicado.mem (here : Ubicado cfg s p c) : p ∈ s.listas c := by
  have one := here.una_vez c
  rw [if_pos rfl] at one
  exact List.count_pos_iff.mp (by omega)

theorem Sitio.of_mem (known : Sitio cfg s p ∨ Fuera s p) (listed : p ∈ s.listas c) : Ubicado cfg s p c := by
  rcases known with ⟨d,here⟩ | out
  · obtain rfl := here.lista listed
    exact here
  · exact absurd listed (out.nunca c)

/-- A process that is neither new nor finished is in the list of its state. -/
theorem Sitio.of_estado (known : Sitio cfg s p ∨ Fuera s p) (new : (s.procesos p).estado ≠ .NEW)
    (alive : (s.procesos p).estado ≠ .EXIT_STATE) : ∃ c, Ubicado cfg s p c ∧ estado_de c = (s.procesos p).estado := by
  rcases known with ⟨c,here⟩ | out
  · exact ⟨c,here,here.estado.symm⟩
  · exact absurd out.estado (by simp [new,alive])

theorem de_block (same : estado_de c = .BLOCK) : c = .lista_block := by cases c <;> first | rfl | cases same
theorem de_susp_block (same : estado_de c = .SUSP_BLOCK) : c = .lista_susp_block := by cases c <;> first | rfl | cases same
theorem de_estado_ready : estado_de c = .READY ↔ de_ready c = true := by cases c <;> simp [estado_de,de_ready]

/-! ## What a move does to one process -/

/-- A process with a place keeps one, and one without stays out. -/
structure Sigue (cfg : Config) (s t : Ks) (p : Nat) : Prop where
  sitio : Sitio cfg s p → Sitio cfg t p
  fuera : Fuera s p → Fuera t p ∧ (t.procesos p).estado = (s.procesos p).estado

theorem Sigue.trans (first : Sigue cfg s t p) (second : Sigue cfg t u p) : Sigue cfg s u p where
  sitio here := second.sitio (first.sitio here)
  fuera out :=
    have middle := first.fuera out
    have last := second.fuera middle.1
    ⟨last.1,last.2.trans middle.2⟩

theorem Sigue.known (goes : Sigue cfg s t p) (known : Sitio cfg s p ∨ Fuera s p) : Sitio cfg t p ∨ Fuera t p :=
  known.imp goes.sitio (fun out => (goes.fuera out).1)

theorem sigue_igual (listas : ∀ e, (t.listas e).count p = (s.listas e).count p)
    (estado : (t.procesos p).estado = (s.procesos p).estado)
    (prioridad : (s.procesos p).estado = .READY → destino cfg (t.procesos p).prioridad = destino cfg (s.procesos p).prioridad) :
    Sigue cfg s t p where
  sitio := by
    rintro ⟨c,here⟩
    refine ⟨c,fun e => (listas e).trans (here.una_vez e),estado.trans here.estado,fun ready => ?_⟩
    rw [prioridad (here.estado.trans (de_estado_ready.mpr ready))]
    exact here.ready ready
  fuera := by
    intro out
    refine ⟨⟨fun e listed => ?_,by rw [estado]; exact out.estado⟩,estado⟩
    have none := (listas e).trans (List.count_eq_zero.mpr (out.nunca e))
    exact List.count_eq_zero.mp none listed

theorem sigue_of_eq (listas : t.listas = s.listas) (estado : (t.procesos p).estado = (s.procesos p).estado)
    (prioridad : (t.procesos p).prioridad = (s.procesos p).prioridad) : Sigue cfg s t p :=
  sigue_igual (fun e => by rw [listas]) estado (fun _ => by rw [prioridad])

theorem sigue_refl : Sigue cfg s s p := sigue_of_eq rfl rfl rfl

/-- The move takes a process from one list to another. -/
structure Traslado (s t : Ks) (p : Nat) (c d : Cola) : Prop where
  listas : ∀ q e, (t.listas e).count q =
    (s.listas e).count q - (if e = c ∧ q = p then 1 else 0) + (if e = d ∧ q = p then 1 else 0)
  otros : ∀ q, q ≠ p → (t.procesos q).estado = (s.procesos q).estado ∧ (t.procesos q).prioridad = (s.procesos q).prioridad

theorem Traslado.sigue (moves : Traslado s t p c d) (source : p ∈ s.listas c) (estado : (t.procesos p).estado = estado_de d)
    (ready : de_ready d = true → d = destino cfg (t.procesos p).prioridad) : Sigue cfg s t q := by
  by_cases same : q = p
  · subst same
    refine ⟨?_,fun out => absurd source (out.nunca c)⟩
    rintro ⟨c',here⟩
    obtain rfl := here.lista source
    refine ⟨d,fun e => ?_,estado,ready⟩
    rw [moves.listas q e,here.una_vez e]
    by_cases old : e = c <;> by_cases new : e = d <;> simp [old,new]
  · obtain ⟨kept,kept'⟩ := moves.otros q same
    refine sigue_igual (fun e => ?_) kept (fun _ => by rw [kept'])
    rw [moves.listas q e]
    simp [same]

theorem count_quitar (s : Ks) (c e : Cola) (p q : Nat) :
    ((s.quitar c p).listas e).count q = (s.listas e).count q - if e = c ∧ q = p then 1 else 0 := by
  by_cases list : e = c
  · subst list
    by_cases same : q = p
    · simp [same]
    · simp [same]
  · simp [list]

theorem count_agregar (s : Ks) (c e : Cola) (p q : Nat) :
    ((s.agregar c p).listas e).count q = (s.listas e).count q + if e = c ∧ q = p then 1 else 0 := by
  by_cases list : e = c
  · subst list
    by_cases same : q = p
    · simp [same]
    · simp [same,Ne.symm same]
  · simp [list]

theorem count_al_frente (s : Ks) (c e : Cola) (p q : Nat) :
    ((s.agregar_al_frente c p).listas e).count q = (s.listas e).count q + if e = c ∧ q = p then 1 else 0 := by
  by_cases list : e = c
  · subst list
    by_cases same : q = p
    · simp [same]
    · simp [same,Ne.symm same]
  · simp [list]

theorem traslado_of (listas : t.listas = ((s.quitar c p).agregar d p).listas)
    (otros : ∀ q, q ≠ p → (t.procesos q).estado = (s.procesos q).estado ∧ (t.procesos q).prioridad = (s.procesos q).prioridad) :
    Traslado s t p c d :=
  ⟨fun q e => by rw [listas,count_agregar,count_quitar],otros⟩

theorem traslado_al_frente (listas : t.listas = ((s.quitar c p).agregar_al_frente d p).listas)
    (otros : ∀ q, q ≠ p → (t.procesos q).estado = (s.procesos q).estado ∧ (t.procesos q).prioridad = (s.procesos q).prioridad) :
    Traslado s t p c d :=
  ⟨fun q e => by rw [listas,count_al_frente,count_quitar],otros⟩

/-- The process enters the second list before it leaves the first. -/
theorem traslado_antes (other : c ≠ d) (listas : t.listas = ((s.agregar d p).quitar c p).listas)
    (otros : ∀ q, q ≠ p → (t.procesos q).estado = (s.procesos q).estado ∧ (t.procesos q).prioridad = (s.procesos q).prioridad) :
    Traslado s t p c d := by
  refine ⟨fun q e => ?_,otros⟩
  rw [listas,count_quitar,count_agregar]
  by_cases old : e = c
  · subst old
    simp [other]
  · simp [old]

/-- The head of a list goes to another. -/
theorem traslado_primero {cola : List Nat} (first : s.listas c = p :: cola)
    (listas : t.listas = ((s.con_lista c cola).agregar d p).listas)
    (otros : ∀ q, q ≠ p → (t.procesos q).estado = (s.procesos q).estado ∧ (t.procesos q).prioridad = (s.procesos q).prioridad) :
    Traslado s t p c d := by
  refine traslado_of (listas.trans ?_) otros
  have erased : (s.listas c).erase p = cola := by simp [first]
  simp [erased]

/-! ## What the functions do -/

theorem sigue_cancelar (s : Ks) (q p : Nat) : Sigue cfg s (s.cancelar_timer q) p :=
  sigue_of_eq rfl (by by_cases same : p = q <;> simp [same]) (by by_cases same : p = q <;> simp [same])

theorem sigue_con_mutex (s : Ks) (j : Nat) (f : Mutex → Mutex) (p : Nat) : Sigue cfg s (s.con_mutex j f) p := sigue_of_eq rfl rfl rfl

theorem sigue_pasa (source : p ∈ s.listas c) (q : Nat) : Sigue cfg s (pasa_a_ready cfg c p s) q := by
  have moves : Traslado s (pasa_a_ready cfg c p s) p c (destino cfg (s.procesos p).prioridad) :=
    traslado_of rfl (fun q other => by simp [pasa_a_ready,other])
  refine moves.sigue source ?_ (fun _ => by simp [pasa_a_ready])
  rw [de_estado_ready.mpr (destino_de_ready cfg _)]
  simp [pasa_a_ready]

theorem sigue_susp_ready (source : p ∈ s.listas .lista_susp_block) (q : Nat) : Sigue cfg s (mover_a_susp_ready hora p s) q := by
  have moves : Traslado s (mover_a_susp_ready hora p s) p .lista_susp_block .lista_susp_ready :=
    traslado_of rfl (fun q other => by simp [mover_a_susp_ready,other])
  exact moves.sigue source (by simp [mover_a_susp_ready,estado_de]) (fun ready => by cases ready)

/-- Whoever inherits has a priority that is the number of a queue. -/
theorem sigue_herencia {espera : List Nat} {r : Ks × Pila} (what : Herencia cfg p espera s r)
    (range : cfg.cmn = true → en_rango cfg (s.procesos p).prioridad = true) (known : Sitio cfg s p ∨ Fuera s p) (q : Nat) :
    Sigue cfg s r.1 q := by
  cases what with
  | nada => exact sigue_refl
  | cambia v cmn low waiter other =>
    by_cases same : q = p
    · subst same
      exact sigue_igual (fun e => rfl) (by simp) (fun ready => absurd ready other)
    · exact sigue_of_eq rfl (by simp [same]) (by simp [same])
  | muda v cmn low waiter ready desaloja one =>
    have old : destino cfg (s.procesos p).prioridad = .colas_ready (s.procesos p).prioridad.toNat := by
      simp [destino,cmn,range cmn]
    obtain ⟨c,here,same⟩ := Sitio.of_estado known (by simp [ready]) (by simp [ready])
    obtain rfl := (here.ready (de_estado_ready.mp (same.trans ready))).trans old
    rw [if_pos (range cmn)]
    have moves : Traslado s (((s.quitar (.colas_ready (s.procesos p).prioridad.toNat) p).con_prioridad p v).agregar (destino cfg v) p)
        p (.colas_ready (s.procesos p).prioridad.toNat) (destino cfg v) :=
      traslado_of rfl (fun q other => by simp [other])
    refine moves.sigue here.mem ?_ (fun _ => by simp)
    rw [de_estado_ready.mpr (destino_de_ready cfg v)]
    simpa using ready

theorem sigue_devolucion (what : Devolucion p s t) (calm : cfg.cmn = true → (s.procesos p).estado ≠ .READY) (q : Nat) :
    Sigue cfg s t q := by
  cases what with
  | nada => exact sigue_refl
  | cambia v source =>
    by_cases same : q = p
    · subst same
      refine sigue_igual (fun e => rfl) (by simp) (fun ready => ?_)
      by_cases cmn : cfg.cmn = true
      · exact absurd ready (calm cmn)
      · simp [destino,cmn]
    · exact sigue_of_eq rfl (by simp [same]) (by simp [same])

theorem sigue_despierta {r : Ks × Pila} (what : Despierta cfg hora p s r) (known : Sitio cfg s p ∨ Fuera s p) (q : Nat) :
    Sigue cfg s r.1 q := by
  cases what with
  | block blocked | desaloja blocked =>
    obtain ⟨c,here,same⟩ := Sitio.of_estado known (by simp [blocked]) (by simp [blocked])
    obtain rfl := de_block (same.trans blocked)
    have pasa : Sigue cfg s (pasa_a_ready cfg .lista_block p s) q := sigue_pasa here.mem q
    refine pasa.trans (sigue_of_eq rfl ?_ ?_) <;> by_cases same : q = p <;> simp [pasa_a_ready,same]
  | susp_block suspended =>
    obtain ⟨c,here,same⟩ := Sitio.of_estado known (by simp [suspended]) (by simp [suspended])
    obtain rfl := de_susp_block (same.trans suspended)
    exact (sigue_cancelar s p q).trans (sigue_susp_ready (s := s.cancelar_timer p) here.mem q)
  | inesperado => exact sigue_cancelar s p q

theorem sigue_siguiente {d : Efecto} (wakes : Siguiente p s d) (q : Nat) : Sigue cfg s d.ks q := by
  cases wakes <;> exact sigue_cancelar s p q

/-! ## The moves -/

/-- The list that a move takes a process from without having looked it up there, and that process. -/
def origen (a : Accion) (s : Ks) : Option (Cola × Nat) :=
  match a with
  | .mover_proceso_a_ready p => some (.lista_new,p)
  | .mover_proceso_de_block_a_ready p => some (.lista_block,p)
  | .mover_a_susp_ready p => some (.lista_susp_block,p)
  | .sacar_de_susp_ready p _ => some (.lista_susp_ready,p)
  | .bloquear_proceso p _ | .bloquear_por_compactacion p => some (.lista_exec,p)
  | .fin_compactacion => s.proceso_esperando_memoria.map (fun p => (.lista_block,p))
  | _ => none

/-- The move finds the process where it takes it from, and the process that unlocks is in no ready queue. -/
def en_su_lista (cfg : Config) (a : Accion) (_ : Entrada) (s : Ks) : Bool :=
  (origen a s).all (fun x => x.2 ∈ s.listas x.1) &&
    match a with
    | .manejar_mutex_unlock p _ => !cfg.cmn || (s.procesos p).estado ≠ .READY
    | _ => true

/-- What is known of the priorities: those of the processes that can inherit are numbers of queues. -/
def Hereda (cfg : Config) (s : Ks) (a : Accion) : Prop := cfg.cmn = true → ∃ desde n, Fijo cfg desde n s ∧
  EnJuego (Apto cfg desde n) s ∧ Tiene (Apto cfg desde n) a

/-- The loop over the mutexes of a dead process keeps every process in its place. -/
theorem sigue_liberar (pid i : Nat) (known : ∀ p, Sitio cfg s p ∨ Fuera s p)
    (inherits : cfg.cmn = true → ∃ desde n, Fijo cfg desde n s ∧ EnJuego (Apto cfg desde n) s) (q : Nat) :
    Sigue cfg s (liberar_mutex_del_proceso cfg hora pid i s).1 q := by
  have step : ∀ {t : Ks} {i siguiente : Nat} {espera : List Nat} {m : Mutex}, t.lista_mutex[i]? = some m →
      m.cola_espera = siguiente :: espera → (cfg.cmn = true → ∃ desde n, Fijo cfg desde n t ∧ EnJuego (Apto cfg desde n) t) →
      (Sitio cfg t siguiente ∨ Fuera t siguiente) → ∀ q, Sigue cfg t (heredar_mutex cfg i siguiente espera t).1 q := by
    intro t i siguiente espera m here queue fixed known q
    refine (sigue_con_mutex t i _ q).trans (sigue_herencia (heredar_mutex_cases cfg i siguiente espera t) ?_ ?_ q)
    · intro cmn
      obtain ⟨desde,n,fijo,juego⟩ := fixed cmn
      have apt := juego.espera m (List.mem_of_getElem? here) siguiente (by simp [queue])
      exact (fijo.igual siguiente).trans apt.2
    · exact (sigue_con_mutex t i _ siguiente).known known
  have body : Bucle cfg hora pid
      (fun t => (∀ q, Sigue cfg s t q) ∧ (cfg.cmn = true → ∃ desde n, Fijo cfg desde n t ∧ EnJuego (Apto cfg desde n) t))
      (fun t _ => ∀ q, Sigue cfg s t q) :=
    { acaba := fun _ held => held.1
      suelta := by
        intro t i m held here owned empty
        refine ⟨fun q => (held.1 q).trans (sigue_con_mutex t i _ q),fun cmn => ?_⟩
        obtain ⟨desde,n,fixed⟩ := held.2 cmn
        exact ⟨desde,n,(Fijo.bucle hora pid).suelta t i m fixed here owned empty⟩
      pausa := by
        intro t i m siguiente espera held here owned queue pausa q
        exact (held.1 q).trans (step here queue held.2 ((held.1 siguiente).known (known siguiente)) q)
      sigue := by
        intro t i m siguiente espera r held here owned queue silent what
        have before := (held.1 siguiente).known (known siguiente)
        have given := step here queue held.2 before
        have done : ∀ q, Sigue cfg s r.1 q := fun q =>
          ((held.1 q).trans (given q)).trans (sigue_despierta what ((given siguiente).known before) q)
        refine ⟨fun quiet => ⟨done,fun cmn => ?_⟩,fun _ => done⟩
        obtain ⟨desde,n,fixed⟩ := held.2 cmn
        exact ⟨desde,n,((Fijo.bucle hora pid).sigue t i m siguiente espera r fixed here owned queue silent what).1 quiet⟩ }
  exact liberar_mutex_del_proceso_rule body i ⟨fun q => sigue_refl,inherits⟩ q

/-- The moves that neither create, register, terminate nor drop processes. -/
def ordinaria : Accion → Bool
  | .crear_proceso_inicial | .manejar_init_proc _ | .agregar_a_new _ | .manejar_proceso_exit _ | .manejar_seg_fault _ | .manejar_bsod => false
  | _ => true

theorem quitar_cpu_libre_eq (k : Nat) (s : Ks) :
    (quitar_cpu_libre k s).listas = s.listas ∧ (quitar_cpu_libre k s).procesos = s.procesos := by
  unfold quitar_cpu_libre
  split_ifs <;> exact ⟨rfl,rfl⟩

theorem sigue_lock {j k pid : Nat} {m : Mutex} {r : Ks × Pila} (inherits : Hereda cfg s (.manejar_mutex_lock p k))
    (known : ∀ q, Sitio cfg s q ∨ Fuera s q)
    (what : r = (s.con_mutex j (fun m => { m with cola_espera := m.cola_espera ++ [p] }),[]) ∨
      (cfg.cmn = true ∧
        buscar_proceso_por_pid cfg (s.con_mutex j (fun m => { m with cola_espera := m.cola_espera ++ [p] })) pid = some pid ∧
        Herencia cfg pid (m.cola_espera ++ [p]) (s.con_mutex j (fun m => { m with cola_espera := m.cola_espera ++ [p] })) r)) (q : Nat) :
    Sigue cfg s r.1 q := by
  rcases what with rfl | ⟨cmn,owner,gives⟩
  · exact sigue_con_mutex s j _ q
  · refine (sigue_con_mutex s j _ q).trans (sigue_herencia gives (fun _ => ?_) ((sigue_con_mutex s j _ pid).known (known pid)) q)
    obtain ⟨desde,n,fijo,juego,named⟩ := inherits cmn
    have apt := (juego.con_mutex (j := j) (f := fun m => { m with cola_espera := m.cola_espera ++ [p] }) ?_).encontrado owner
    · exact (fijo.igual pid).trans apt.2
    · intro m' here x waits
      rcases List.mem_append.mp waits with old | one
      · exact juego.espera m' (List.mem_of_getElem? here) x old
      · rw [List.mem_singleton.mp one]
        exact named p (by simp [en_mano])

/-- An unlock that hands the mutex over, up to the waking of the next owner. -/
theorem sigue_cede {j k siguiente : Nat} {espera : List Nat} {nombre : String} {m : Mutex} {r : Ks × Pila}
    (inherits : Hereda cfg s (.manejar_mutex_unlock p k)) (known : ∀ q, Sitio cfg s q ∨ Fuera s q)
    (calm : cfg.cmn = true → (s.procesos p).estado ≠ .READY) (found : buscar_mutex s nombre = some (j,m))
    (queue : m.cola_espera = siguiente :: espera)
    (what : Devolucion p (s.con_mutex j (fun m => { m with pid_dueno := some siguiente, cola_espera := espera })) t)
    (gives : Herencia cfg siguiente espera t r) (q : Nat) : Sigue cfg s r.1 q := by
  have back : ∀ q, Sigue cfg s t q := fun q => (sigue_con_mutex s j _ q).trans (sigue_devolucion what calm q)
  refine (back q).trans (sigue_herencia gives (fun cmn => ?_) ((back siguiente).known (known siguiente)) q)
  obtain ⟨desde,n,fijo,juego,named⟩ := inherits cmn
  have waits := juego.espera m (mem_of_buscar found)
  rw [queue] at waits
  have taken := fijo.mismas (t := s.con_mutex j (fun m => { m with pid_dueno := some siguiente, cola_espera := espera })) rfl
    (fun q => ⟨rfl,rfl⟩)
  have returned := taken.devolucion what (named p (by simp [en_mano]))
    (juego.con_mutex (fun _ _ q member => waits q (List.mem_cons_of_mem siguiente member)))
  exact (returned.igual siguiente).trans (waits siguiente List.mem_cons_self).2

theorem mueve_sigue {a : Accion} {e : Entrada} {r : Efecto} (move : Mueve cfg hora s a r) (good : en_su_lista cfg a e s = true)
    (inherits : Hereda cfg s a) (known : ∀ q, Sitio cfg s q ∨ Fuera s q) (plain : ordinaria a = true) (q : Nat) : Sigue cfg s r.ks q := by
  obtain ⟨listed,calm⟩ := Bool.and_eq_true_iff.mp good
  have source : ∀ c p, origen a s = some (c,p) → p ∈ s.listas c := by
    intro c p from_
    rw [from_] at listed
    simpa using listed
  cases move with
  | mover_proceso_a_ready p | mover_proceso_de_block_a_ready p | sacar_de_susp_ready p => exact sigue_pasa (source _ p rfl) q
  | mover_a_susp_ready p => exact sigue_susp_ready (source _ p rfl) q
  | planificar c p k cola libres served first free timer | planificar_timer c p k cola libres served first free timer =>
    refine Traslado.sigue (traslado_primero (d := .lista_exec) first rfl (fun q other => by simp [other])) (by simp [first])
      (by simp [estado_de]) (fun ready => by cases ready)
  | vence_quantum t k p | vence_en_vano t p | fin_io_block p | fin_io_susp_block p | fin_io_inesperado p => exact sigue_cancelar s p q
  | vence_suspension t p found valid blocked =>
    obtain ⟨c,here,same⟩ := Sitio.of_estado (known p) (by simp [blocked]) (by simp [blocked])
    obtain rfl := de_block (same.trans blocked)
    exact Traslado.sigue (traslado_of (d := .lista_susp_block) rfl (fun q other => by simp [other])) here.mem
      (by simp [estado_de]) (fun ready => by cases ready)
  | desconectar_ociosa k idle =>
    obtain ⟨listas,procesos⟩ := quitar_cpu_libre_eq k s
    exact sigue_of_eq listas (by rw [procesos]) (by rw [procesos])
  | desconectar_ocupada k p busy desaloja one =>
    obtain ⟨listas,procesos⟩ := quitar_cpu_libre_eq k s
    refine Traslado.sigue (traslado_of (c := .lista_exec) (d := destino cfg (s.procesos p).prioridad) (p := p) ?_
      (fun q other => by simp [other,procesos]))
      (List.mem_of_find?_eq_some busy) ?_ (fun _ => by simp [procesos])
    · simp [listas]
    · rw [de_estado_ready.mpr (destino_de_ready cfg _)]
      simp
  | manejar_fin_quantum k p running =>
    refine Traslado.sigue (traslado_of (p := p) rfl (fun q other => by simp [other])) running ?_ (fun _ => by simp)
    rw [de_estado_ready.mpr (destino_de_ready cfg _)]
    simp
  | fin_quantum_invalido k p running moving invalid =>
    exact Traslado.sigue (traslado_of (p := p) (d := .lista_ready_invalida) rfl (fun q other => by simp [other])) running
      (by simp [estado_de]) (fun _ => by simp [invalid])
  | fin_quantum_al_frente k p running =>
    refine Traslado.sigue (traslado_al_frente (p := p) rfl (fun q other => by simp [other])) running ?_ (fun _ => by simp)
    rw [de_estado_ready.mpr (destino_de_ready cfg _)]
    simp
  | bloquear_proceso p m =>
    exact Traslado.sigue (traslado_of (c := .lista_exec) (d := .lista_block) (p := p) rfl (fun q other => by simp [bloquear_proceso,other]))
      (source _ p rfl) (by simp [bloquear_proceso,estado_de]) (fun ready => by cases ready)
  | bloquear_por_compactacion p =>
    exact Traslado.sigue (traslado_of (c := .lista_exec) (d := .lista_block) (p := p) rfl
      (fun q other => by simp [bloquear_por_compactacion,other])) (source _ p rfl) (by simp [bloquear_por_compactacion,estado_de])
      (fun ready => by cases ready)
  | fin_compactacion p waits =>
    exact Traslado.sigue (traslado_antes (c := .lista_block) (d := .lista_exec) (p := p) (by simp) rfl (fun q other => by simp [other]))
      (source _ p (by simp [origen,waits])) (by simp [estado_de]) (fun ready => by cases ready)
  | liberar_mutex_del_proceso pid i =>
    exact sigue_liberar pid i known (fun cmn => (inherits cmn).imp (fun _ h => h.imp (fun _ h => ⟨h.1,h.2.1⟩))) q
  | ceder_mutex pid i p r what silent =>
    have given := sigue_despierta what (known p)
    refine (given q).trans (sigue_liberar pid (i + 1) (fun q => (given q).known (known q)) (fun cmn => ?_) q)
    obtain ⟨desde,n,fijo,juego,named⟩ := inherits cmn
    exact ⟨desde,n,fijo.despierta what,(despertar_juego what juego (named p (by simp [en_mano]))).1⟩
  | ceder_mutex_pausa pid i p r what pausa => exact sigue_despierta what (known p) q
  | lock_libre p k j nombre m found free => exact sigue_con_mutex s j _ q
  | lock_espera p k j pid nombre m r found taken what => exact sigue_lock inherits known what q
  | unlock_sin_espera p k j nombre m t found empty what =>
    exact (sigue_con_mutex s j _ q).trans (sigue_devolucion what (fun cmn => by simpa [cmn] using calm) q)
  | unlock_cede p k j siguiente espera nombre m t r found queue what d gives silent wakes =>
    exact (sigue_cede inherits known (fun cmn => by simpa [cmn] using calm) found queue what gives q).trans (sigue_siguiente wakes q)
  | unlock_pausa p k j siguiente espera nombre m t r found queue what gives pausa =>
    exact sigue_cede inherits known (fun cmn => by simpa [cmn] using calm) found queue what gives q
  | despertar_siguiente p d wakes => exact sigue_siguiente wakes q
  | manejar_io t p k v x kept =>
    obtain ⟨_,_,_,rfl⟩ := manejar_io_some kept
    exact sigue_of_eq rfl (by by_cases same : q = p <;> simp [same]) (by by_cases same : q = p <;> simp [same])
  | intentar_dessuspender_procesos =>
    refine sigue_igual (fun e => ?_) rfl (fun _ => rfl)
    by_cases list : e = .lista_susp_ready
    · subst list
      simpa [intentar_dessuspender_procesos] using (cfg.sorter.perm _ _).count_eq q
    · simp [intentar_dessuspender_procesos,list]
  | crear_proceso_inicial | manejar_init_proc | agregar_a_new | manejar_proceso_exit | exit_desconocido | manejar_seg_fault
  | seg_fault_desconocido | manejar_bsod => cases plain
  | _ => exact sigue_of_eq rfl rfl rfl

/-- A process that terminates leaves lista_exec, and no other changes place. -/
theorem termina_sigue (running : p ∈ s.listas .lista_exec) (known : Sitio cfg s p ∨ Fuera s p) :
    Fuera (((s.cancelar_timer p).quitar .lista_exec p).con_estado p .EXIT_STATE) p ∧
      ∀ q, q ≠ p → Sigue cfg s (((s.cancelar_timer p).quitar .lista_exec p).con_estado p .EXIT_STATE) q := by
  have here := Sitio.of_mem known running
  refine ⟨⟨fun e => ?_,.inr (by simp)⟩,fun q other => ?_⟩
  · refine List.count_eq_zero.mp ?_
    have count := count_quitar s .lista_exec e p p
    rw [here.una_vez e] at count
    refine count.trans ?_
    by_cases list : e = .lista_exec <;> simp [list]
  · refine sigue_igual (fun e => ?_) (by simp [other]) (fun _ => by simp [other])
    have count := count_quitar s .lista_exec e p q
    simpa [other] using count

/-! ## Births -/

/-- The process that the action is to register. -/
def prenatal : Accion → Option Nat
  | .pedir (.crear_proceso p _) | .recibir (.crear_proceso p _) | .agregar_a_new p => some p
  | _ => none

/-- The process that the move registers. -/
def registra : Option Accion → List Nat
  | some (.agregar_a_new p) => [p]
  | _ => []

def parto (p : Nat) (a : Accion) : Nat := if prenatal a = some p then 1 else 0

theorem parto_of_naciente {b : Accion} (none : naciente b = none) : parto p b = 0 := by
  cases b with
  | pedir r | recibir r => cases r <;> first | rfl | cases none
  | agregar_a_new q => cases none
  | _ => rfl

/-- A process is registered once at most. -/
theorem mueve_parto {a : Accion} {r : Efecto} (move : Mueve cfg hora s a r)
    (created : a ≠ .crear_proceso_inicial ∧ ∀ k, a ≠ .manejar_init_proc k) :
    weight (parto p) r.sigue + (registra (some a)).count p ≤ parto p a ∧ total (parto p) r.lanza = 0 := by
  have none_started : total (parto p) r.lanza = 0 := by
    have none := lanza_naciente move
    generalize r.lanza = hilos at none
    induction hilos with
    | nil => rfl
    | cons pila rest ih =>
      rw [total_cons,ih (fun x member => none x (List.mem_cons_of_mem pila member)),
        weight_zero (fun b listed => parto_of_naciente (none pila List.mem_cons_self b listed))]
  refine ⟨?_,none_started⟩
  by_cases asks : ∃ q, a = .pedir q ∨ a = .recibir q
  · obtain ⟨q,rfl | rfl⟩ := asks
    · cases move
      cases q <;> simp [parto,prenatal,registra]
    · cases move with
      | recibir q v =>
        cases q with
        | crear_proceso n k => cases k <;> cases v <;> simp [tras_respuesta,parto,prenatal,registra]
        | _ => cases v <;> simp [tras_respuesta,parto,prenatal,registra]
  · push Not at asks
    have none : ∀ b ∈ r.sigue, naciente b = none := by
      intro b member
      rcases mueve_naciente move created b member with none | same
      · exact none
      · cases a with
        | pedir q => exact absurd rfl (asks q).1
        | recibir q => exact absurd rfl (asks q).2
        | agregar_a_new q =>
          cases move
          cases member
        | mover_proceso_a_ready q =>
          cases move with
          | mover_proceso_a_ready q desaloja one =>
            rcases List.mem_append.mp member with first | last
            · exact naciente_de_desalojo one b first
            · exact naciente_de_si rfl b last
        | _ => exact same
    rw [weight_zero (fun b member => parto_of_naciente (none b member)),Nat.zero_add]
    cases a with
    | agregar_a_new q => by_cases same : q = p <;> simp [registra,parto,prenatal,same]
    | _ => exact Nat.zero_le _

/-! ## Runs -/

structure Vigilado where
  sistema : Planificador
  registrados : List Nat

def vigila (cfg : Config) (l : Paso) (v : Vigilado) : Option Vigilado :=
  (paso cfg l v.sistema).map (fun t => ⟨t,registra (cima v.sistema l.hilo) ++ v.registrados⟩)

def inicio : Vigilado := ⟨inicial,[]⟩

structure Custodia (cfg : Config) (v : Vigilado) : Prop where
  prioridades : cfg.cmn = true → ∃ desde, Prioridades cfg desde v.sistema
  partos : ∀ p, total (parto p) v.sistema.hilos + v.registrados.count p ≤ 1
  nuevos : ∀ p, v.sistema.ks.proximo_pid ≤ p → total (parto p) v.sistema.hilos + v.registrados.count p = 0
  sitios : v.sistema.ks.bsod_activo = false → ∀ p,
    (p ∈ v.registrados → Sitio cfg v.sistema.ks p ∨ Fuera v.sistema.ks p ∧ (v.sistema.ks.procesos p).estado = .EXIT_STATE) ∧
      (p ∉ v.registrados → Fuera v.sistema.ks p ∧ (v.sistema.ks.procesos p).estado = .NEW)

theorem Custodia.known {v : Vigilado} (held : Custodia cfg v) (outside : v.sistema.ks.bsod_activo = false) (p : Nat) :
    Sitio cfg v.sistema.ks p ∨ Fuera v.sistema.ks p := by
  obtain ⟨registered,unknown⟩ := held.sitios outside p
  by_cases listed : p ∈ v.registrados
  · exact (registered listed).imp_right And.left
  · exact .inr (unknown listed).1

/-- The pid that the next process is to have is nobody's. -/
theorem Custodia.fresh {v : Vigilado} (held : Custodia cfg v) : v.sistema.ks.proximo_pid ∉ v.registrados := by
  have none := held.nuevos v.sistema.ks.proximo_pid le_rfl
  exact List.count_eq_zero.mp (by omega)

theorem Custodia.newborn {v : Vigilado} (held : Custodia cfg v) (outside : v.sistema.ks.bsod_activo = false) :
    Fuera v.sistema.ks v.sistema.ks.proximo_pid :=
  ((held.sitios outside v.sistema.ks.proximo_pid).2 held.fresh).1

theorem Custodia.unborn {v : Vigilado} (held : Custodia cfg v) (outside : v.sistema.ks.bsod_activo = false) :
    v.sistema.ks.proximo_pid ∉ v.sistema.ks.listas .lista_exec :=
  (held.newborn outside).nunca .lista_exec

theorem inicio_custodia : Custodia cfg inicio where
  prioridades _ := ⟨_,inicial_prioridades cfg⟩
  partos p := by simp [inicio,inicial,parto,prenatal]
  nuevos p _ := by simp [inicio,inicial,parto,prenatal]
  sitios _ p := ⟨by simp [inicio],fun _ => ⟨⟨by simp [inicio,inicial],.inl rfl⟩,rfl⟩⟩

/-- A new process is in no list, and the others are where they were. -/
theorem crear_sigue {k : Option Nat} {prioridad : Int} (out : Fuera s s.proximo_pid) :
    (Fuera (crear_proceso k prioridad s).ks s.proximo_pid ∧ ((crear_proceso k prioridad s).ks.procesos s.proximo_pid).estado = .NEW) ∧
      ∀ q, q ≠ s.proximo_pid → Sigue cfg s (crear_proceso k prioridad s).ks q := by
  have new : ((crear_proceso k prioridad s).ks.procesos s.proximo_pid).estado = .NEW := by simp [crear_proceso,proceso_nuevo]
  refine ⟨⟨⟨out.nunca,.inl new⟩,new⟩,fun q other => ?_⟩
  exact sigue_of_eq rfl (by simp [crear_proceso,other]) (by simp [crear_proceso,other])

theorem registra_sigue (out : Fuera s p) (new : (s.procesos p).estado = .NEW) :
    Ubicado cfg (s.agregar .lista_new p) p .lista_new ∧ ∀ q, q ≠ p → Sigue cfg s (s.agregar .lista_new p) q := by
  refine ⟨⟨fun e => ?_,new,fun ready => by cases ready⟩,fun q other => ?_⟩
  · rw [count_agregar,List.count_eq_zero.mpr (out.nunca e)]
    by_cases list : e = .lista_new <;> simp [list]
  · refine sigue_igual (fun e => ?_) rfl (fun _ => rfl)
    rw [count_agregar]
    simp [other]

/-- Nothing but the place of one process changes, and what is known of it is known after the move. -/
theorem sitios_of_sigue {registrados : List Nat} (goes : Sigue cfg s t p)
    (before : (p ∈ registrados → Sitio cfg s p ∨ Fuera s p ∧ (s.procesos p).estado = .EXIT_STATE) ∧
      (p ∉ registrados → Fuera s p ∧ (s.procesos p).estado = .NEW)) :
    (p ∈ registrados → Sitio cfg t p ∨ Fuera t p ∧ (t.procesos p).estado = .EXIT_STATE) ∧
      (p ∉ registrados → Fuera t p ∧ (t.procesos p).estado = .NEW) := by
  have out : ∀ x, Fuera s p ∧ (s.procesos p).estado = x → Fuera t p ∧ (t.procesos p).estado = x := by
    rintro x ⟨none,same⟩
    obtain ⟨none',kept⟩ := goes.fuera none
    exact ⟨none',kept.trans same⟩
  exact ⟨fun listed => (before.1 listed).imp goes.sitio (out _),fun unlisted => out _ (before.2 unlisted)⟩

theorem vigila_custodia {l : Paso} {v w : Vigilado} (held : Custodia cfg v) (guard : al_mover (en_su_lista cfg) l v.sistema = true)
    (moved : vigila cfg l v = some w) : Custodia cfg w := by
  obtain ⟨t,advances,rfl⟩ := Option.map_eq_some_iff.mp moved
  have prioridades : cfg.cmn = true → ∃ desde, Prioridades cfg desde t := by
    intro cmn
    obtain ⟨desde,known⟩ := held.prioridades cmn
    exact paso_prioridades cmn known advances
  obtain ⟨a,resto,r,here,alive,effect,move,rfl⟩ := paso_avanza advances
  have top := cima_of_here here
  have sum := fun p => total_advance (parto p) here r.sigue r.lanza
  by_cases created : a ≠ .crear_proceso_inicial ∧ ∀ k, a ≠ .manejar_init_proc k
  · have pids := Waiting.mueve_pids move created
    have births : ∀ p, total (parto p) (advance v.sistema.hilos l.hilo r.sigue resto r.lanza) +
        (registra (some a) ++ v.registrados).count p ≤ total (parto p) v.sistema.hilos + v.registrados.count p := by
      intro p
      obtain ⟨less,none⟩ := mueve_parto move created (p := p)
      have same := sum p
      rw [List.count_append]
      omega
    simp only [top]
    refine ⟨prioridades,fun p => (births p).trans (held.partos p),fun p later => ?_,fun outside p => ?_⟩
    · rw [pids] at later
      exact Nat.le_zero.mp ((births p).trans (held.nuevos p later).le)
    · obtain ⟨before,other⟩ := mueve_bsod move outside
      have known := held.known before
      have sitios := held.sitios before p
      have good : en_su_lista cfg a l.entrada v.sistema.ks = true := by simpa [al_mover,top] using guard
      have inherits : Hereda cfg v.sistema.ks a := by
        intro cmn
        obtain ⟨desde,known⟩ := held.prioridades cmn
        exact ⟨desde,_,known.fijo,known.juego,every_here known.pendiente here⟩
      by_cases plain : ordinaria a = true
      · have nobody : registra (some a) = [] := by cases a <;> first | rfl | cases plain
        rw [nobody]
        exact sitios_of_sigue (mueve_sigue move good inherits known plain p) sitios
      · cases move with
        | agregar_a_new q =>
          have due : 1 ≤ total (parto q) v.sistema.hilos := by
            have one := item_le_total (parto q) here
            simpa [parto,prenatal] using one
          have fresh : q ∉ v.registrados := by
            have once := held.partos q
            exact List.count_eq_zero.mp (by omega)
          obtain ⟨out,new⟩ := (held.sitios before q).2 fresh
          obtain ⟨placed,others⟩ := @registra_sigue cfg _ q out new
          by_cases same : p = q
          · subst same
            exact ⟨fun _ => .inl ⟨_,placed⟩,fun unlisted => absurd (by simp [registra]) unlisted⟩
          · simpa [registra,same] using sitios_of_sigue (others p same) sitios
        | manejar_proceso_exit k q running | manejar_seg_fault k q running =>
          obtain ⟨gone,others⟩ := termina_sigue running (known q)
          by_cases same : p = q
          · subst same
            have listed : p ∈ v.registrados := by
              by_contra unlisted
              exact (sitios.2 unlisted).1.nunca _ running
            exact ⟨fun _ => .inr ⟨gone,by simp⟩,fun unlisted => absurd listed unlisted⟩
          · exact sitios_of_sigue (others p same) sitios
        | exit_desconocido k q | seg_fault_desconocido k q => exact sitios
        | crear_proceso_inicial => exact absurd rfl created.1
        | manejar_init_proc k prioridad => exact absurd rfl (created.2 k)
        | manejar_bsod => exact absurd rfl other
        | _ => exact absurd rfl plain
  · simp only [not_and_or,not_not,not_forall] at created
    obtain ⟨k,prioridad,rfl,nobody,idle⟩ : ∃ k prioridad, r = crear_proceso k prioridad v.sistema.ks ∧ registra (some a) = [] ∧
        ∀ p, parto p a = 0 := by
      rcases created with rfl | ⟨k,rfl⟩
      · cases move
        exact ⟨none,0,rfl,rfl,fun _ => rfl⟩
      · cases move with
        | manejar_init_proc k prioridad => exact ⟨some k,prioridad,rfl,rfl,fun _ => rfl⟩
    have births : ∀ p, total (parto p) (advance v.sistema.hilos l.hilo (crear_proceso k prioridad v.sistema.ks).sigue resto
        (crear_proceso k prioridad v.sistema.ks).lanza) =
          total (parto p) v.sistema.hilos + if p = v.sistema.ks.proximo_pid then 1 else 0 := by
      intro p
      have same := sum p
      rw [idle p,Nat.add_zero] at same
      rw [same]
      simp [crear_proceso,parto,prenatal,eq_comm]
    have fresh := held.nuevos v.sistema.ks.proximo_pid (Nat.le_refl _)
    simp only [top,nobody,List.nil_append]
    refine ⟨prioridades,fun p => ?_,fun p later => ?_,fun outside p => ?_⟩
    · rw [births p]
      dsimp only
      split_ifs with same
      · subst same
        omega
      · exact held.partos p
    · have later : v.sistema.ks.proximo_pid + 1 ≤ p := later
      rw [births p,if_neg (by omega)]
      exact held.nuevos p (by omega)
    · have unlisted : v.sistema.ks.proximo_pid ∉ v.registrados := List.count_eq_zero.mp (by omega)
      obtain ⟨⟨gone,new⟩,others⟩ := @crear_sigue cfg v.sistema.ks k prioridad
        ((held.sitios outside v.sistema.ks.proximo_pid).2 unlisted).1
      by_cases same : p = v.sistema.ks.proximo_pid
      · subst same
        exact ⟨fun listed => absurd listed unlisted,fun _ => ⟨gone,new⟩⟩
      · exact sitios_of_sigue (others p same) (held.sitios outside p)

/-- In a run in which every move finds the process that it takes from a list there, outside a BSOD, each registered process
    that has not terminated is once in one list, that of its state and, with multilevel queues, of its priority. -/
theorem process_in_one_list {labels : List Paso} {v : Vigilado}
    (guarded : Guarded (vigila cfg) (fun l v => al_mover (en_su_lista cfg) l v.sistema = true) labels inicio)
    (reached : run (vigila cfg) labels inicio = some v) (outside : v.sistema.ks.bsod_activo = false) (registered : p ∈ v.registrados)
    (alive : (v.sistema.ks.procesos p).estado ≠ .EXIT_STATE) :
    ∃ c, (∀ e, (v.sistema.ks.listas e).count p = if e = c then 1 else 0) ∧ estado_de c = (v.sistema.ks.procesos p).estado ∧
      ∀ n, cfg.cmn = true → c = .colas_ready n → (v.sistema.ks.procesos p).prioridad = n := by
  have held : Custodia cfg v :=
    invariant_of_guarded (fun _ _ _ held guard moved => vigila_custodia held guard moved) inicio_custodia guarded reached
  rcases (held.sitios outside p).1 registered with ⟨c,here⟩ | ⟨_,dead⟩
  · refine ⟨c,here.una_vez,here.estado.symm,?_⟩
    rintro n cmn rfl
    have mine := here.ready rfl
    rw [destino,if_pos cmn] at mine
    split_ifs at mine with range
    have low : 0 ≤ (v.sistema.ks.procesos p).prioridad := by
      simp only [en_rango,Bool.and_eq_true,decide_eq_true_eq] at range
      exact range.1
    have same : n = (v.sistema.ks.procesos p).prioridad.toNat := Cola.colas_ready.inj mine
    omega
  · exact absurd dead alive

theorem process_in_one_list_siesta : ∃ v, run (vigila fifo) siesta inicio = some v ∧ 0 ∈ v.registrados ∧
    ∃ c, (∀ e, (v.sistema.ks.listas e).count 0 = if e = c then 1 else 0) ∧ estado_de c = (v.sistema.ks.procesos 0).estado ∧
      ∀ n, fifo.cmn = true → c = .colas_ready n → (v.sistema.ks.procesos 0).prioridad = n := by
  have ends : (run (vigila fifo) siesta inicio).map (fun v => (v.registrados,v.sistema.ks.bsod_activo,(v.sistema.ks.procesos 0).estado)) =
      some ([1,0],false,.BLOCK) := by decide
  obtain ⟨v,reached,ends⟩ := Option.map_eq_some_iff.mp ends
  obtain ⟨registered,ends⟩ := Prod.mk.inj ends
  obtain ⟨outside,blocked⟩ := Prod.mk.inj ends
  have listed : 0 ∈ v.registrados := by simp [registered]
  exact ⟨v,reached,listed,process_in_one_list (by decide) reached outside listed (by simp [blocked])⟩

/-- Process 0 sleeps until it is suspended. When the device is done with it, its thread and the one that listens to Kernel
    Memory both ask to bring it back, and both are told that it is. -/
def doble_vuelta : List Paso := siesta ++ turnos 4 2 ++ [{ hilo := 4, entrada := .respuesta .OK },
  { hilo := 5, entrada := .respuesta_io true }] ++ turnos 5 5 ++ [{ hilo := 2, entrada := .aviso .memoria_disponible }] ++ turnos 2 3 ++
    turnos 5 1 ++ [{ hilo := 5, entrada := .respuesta .OK }] ++ turnos 2 1 ++ [{ hilo := 2, entrada := .respuesta .OK }] ++
    turnos 5 1 ++ turnos 2 1

/-- Process 0 is twice in lista_ready. -/
theorem process_twice_ready : ∃ v, run (vigila fifo) doble_vuelta inicio = some v ∧ v.sistema.ks.bsod_activo = false ∧
    0 ∈ v.registrados ∧ (v.sistema.ks.procesos 0).estado = .READY ∧ v.sistema.ks.listas .lista_ready = [0,0] := by
  have ends : (run (vigila fifo) doble_vuelta inicio).map (fun v => (v.registrados,v.sistema.ks.bsod_activo,
      (v.sistema.ks.procesos 0).estado,v.sistema.ks.listas .lista_ready)) = some ([1,0],false,.READY,[0,0]) := by decide
  obtain ⟨v,reached,ends⟩ := Option.map_eq_some_iff.mp ends
  obtain ⟨registered,ends⟩ := Prod.mk.inj ends
  obtain ⟨outside,ends⟩ := Prod.mk.inj ends
  obtain ⟨ready,twice⟩ := Prod.mk.inj ends
  exact ⟨v,reached,outside,by simp [registered],ready,twice⟩

end PlugNPray.ProcessLists
