import PlugNPray.CpuDuties

/-!
The accounts of the CPUs: whose connections the scheduler has given up, and who still refers
to their CPUs. Only the thread of a CPU takes a process off it.
-/
namespace PlugNPray.CpuAccounts
open PlugNPray.Scheduler PlugNPray.Handlers PlugNPray.ReadyQueues PlugNPray.Moves PlugNPray.Stacks PlugNPray.Runs
open PlugNPray.ProcessLists PlugNPray.CpuPlaces PlugNPray.CpuDuties

variable {cfg : Config} {hora : Nat} {s t : Ks} {a b : Accion} {r : Efecto} {p q k : Nat}

/-! ## What a move does with the running processes -/

inductive Ejecucion (s : Ks) (a : Accion) (t : Ks) : Prop where
  | igual (exec : t.listas .lista_exec = s.listas .lista_exec)
      (cpus : ∀ p, (t.procesos p).cpu = (s.procesos p).cpu ∨ p ∉ s.listas .lista_exec ∧ (t.procesos p).cpu = none)
  | saca (p : Nat) (takes : Saca s t p) (running : p ∈ s.listas .lista_exec)
      (who : (∃ k, (s.procesos p).cpu = some k ∧ (maneja a = some k ∨ a = .desconectar_cpu k)) ∨ ocupa a = some p)
      (after : (t.procesos p).cpu = none ∨ Fuera t p ∧ (t.procesos p).estado = .EXIT_STATE)
  | mete (p k : Nat) (puts : Mete s t p) (cpu : (t.procesos p).cpu = some k)
      (source : some k ∈ s.lista_cpus_libres ∨ a = .fin_compactacion ∧ s.cpu_esperando_memoria = some k)

theorem ejecucion_igual (same : Igual s t) : Ejecucion s a t := .igual same.exec same.cpus

theorem ejecucion_mismas (same : t.listas = s.listas ∧ t.procesos = s.procesos) : Ejecucion s a t :=
  .igual (by rw [same.1]) (fun p => .inl (by rw [same.2]))

theorem mensaje_ejecucion (handles : maneja a = some k) (message : Mensaje s p r)
    (mine : p ∈ s.listas .lista_exec → (s.procesos p).cpu = some k) (known : ∀ p, Sitio cfg s p ∨ Fuera s p) :
    Ejecucion s a r.ks := by
  cases message with
  | nadie unknown => exact ejecucion_mismas ⟨rfl,rfl⟩
  | termina running =>
    have out := (termina_sigue running (known p)).1
    exact .saca p ⟨count_exec (known p) running,by simp,fun q other => by simp [other]⟩ running (.inl ⟨k,mine running,.inl handles⟩)
      (.inr ⟨out,by simp⟩)
  | fin_quantum running t desaloja planificable one exec cpu otros resto =>
    exact .saca p ⟨count_exec (known p) running,exec,otros⟩ running (.inl ⟨k,mine running,.inl handles⟩) (.inl cpu)
  | syscall => exact ejecucion_mismas ⟨rfl,rfl⟩

theorem efecto_ejecucion {e : Entrada} (effect : efecto cfg hora e a s = some r) (own : habla a e s = true)
    (good : en_su_lista cfg a e s = true) (known : ∀ p, Sitio cfg s p ∨ Fuera s p) (unborn : s.proximo_pid ∉ s.listas .lista_exec)
    (kept : s.proceso_esperando_memoria ≠ none → s.cpu_esperando_memoria ≠ none) (other : a ≠ .manejar_bsod) :
    Ejecucion s a r.ks := by
  have move := efecto_mueve effect
  by_cases quiet : tranquila a = true
  · exact ejecucion_igual (mueve_igual move quiet unborn).1
  by_cases message : ∃ k, maneja a = some k ∧ ∀ c, a ≠ .consultar_bsod k c
  · obtain ⟨k,handles,code⟩ := message
    obtain ⟨p,message,mine⟩ := mensaje_de_efecto handles code effect own
    exact mensaje_ejecucion handles message mine known
  have lista : ∀ c p, origen a s = some (c,p) → p ∈ s.listas c := by
    intro c p takes
    simp only [en_su_lista,takes,Option.all_some,Bool.and_eq_true,decide_eq_true_eq] at good
    exact good.1
  cases move with
  | planificar c p n cola libres served first free timer | planificar_timer c p n cola libres served first free timer =>
    have apart := ready_ne_exec served
    have absent : p ∉ s.listas .lista_exec := by
      intro runs
      have here := Sitio.of_mem (known p) (show p ∈ s.listas c by rw [first]; exact List.mem_cons_self)
      exact apart (here.lista runs)
    refine .mete p n ⟨absent,?_,?_⟩ ?_ (.inl (by rw [free]; exact List.mem_cons_self))
    · simp [apart]
    · intro q other
      simp [other]
    · simp
  | desconectar_ociosa j idle => exact ejecucion_mismas (quitar_cpu_libre_eq j s)
  | desconectar_ocupada j p busy desaloja one =>
    obtain ⟨listas,procesos⟩ := quitar_cpu_libre_eq j s
    have running : p ∈ s.listas .lista_exec := List.mem_of_find?_eq_some busy
    have mine : (s.procesos p).cpu = some j := by simpa using List.find?_some busy
    have apart := ne_destino (c := .lista_exec) rfl cfg (s.procesos p).prioridad
    refine .saca p ⟨count_exec (known p) running,?_,?_⟩ running (.inl ⟨j,mine,.inr rfl⟩) (.inl (by simp))
    · simp [apart,listas]
    · intro q other
      simp [other,procesos]
  | bloquear_proceso p por =>
    have running := lista .lista_exec p rfl
    exact .saca p ⟨count_exec (known p) running,by simp [bloquear_proceso],fun q other => by simp [bloquear_proceso,other]⟩ running
      (.inr rfl) (.inl (by simp [bloquear_proceso]))
  | bloquear_por_compactacion p =>
    have running := lista .lista_exec p rfl
    exact .saca p ⟨count_exec (known p) running,by simp [bloquear_por_compactacion],
      fun q other => by simp [bloquear_por_compactacion,other]⟩ running (.inr rfl) (.inl (by simp [bloquear_por_compactacion]))
  | fin_compactacion p waiting =>
    have blocked := lista .lista_block p (by simp [origen,waiting])
    have absent : p ∉ s.listas .lista_exec := by
      intro runs
      have place := (Sitio.of_mem (known p) blocked).lista runs
      cases place
    obtain ⟨k,reserved⟩ := Option.ne_none_iff_exists'.mp (kept (by simp [waiting]))
    exact .mete p k ⟨absent,by simp,fun q other => by simp [other]⟩ (by simp [reserved]) (.inr ⟨rfl,reserved⟩)
  | manejar_proceso_exit k | exit_desconocido k | manejar_seg_fault k | seg_fault_desconocido k | manejar_fin_quantum k
  | fin_quantum_invalido k | fin_quantum_al_frente k | fin_quantum_desconocido k => exact absurd ⟨k,rfl,by simp⟩ message
  | manejar_bsod busy => exact absurd rfl other
  | _ => first | exact ejecucion_mismas ⟨rfl,rfl⟩ | exact absurd rfl quiet

/-- The process that waits for memory and the CPU that is kept for it. -/
def espera (s : Ks) : Option Nat × Option Nat := (s.proceso_esperando_memoria,s.cpu_esperando_memoria)

theorem mueve_espera (move : Mueve cfg hora s a r) (unborn : s.proximo_pid ∉ s.listas .lista_exec) : espera r.ks = espera s ∨
    (a = .limpiar_espera ∧ espera r.ks = (none,none)) ∨ ∃ p, a = .anotar_espera p ∧ espera r.ks = (some p,(s.procesos p).cpu) := by
  by_cases quiet : tranquila a = true
  · have rest := (mueve_igual move quiet unborn).1.resto
    simp only [resto,Prod.mk.injEq] at rest
    obtain ⟨-,-,waiting,cpu,-⟩ := rest
    exact .inl (by rw [espera,espera,waiting,cpu])
  cases move with
  | limpiar_espera => exact .inr (.inl ⟨rfl,rfl⟩)
  | anotar_espera p => exact .inr (.inr ⟨p,rfl,rfl⟩)
  | desconectar_ociosa j idle | desconectar_ocupada j p busy desaloja one =>
    left
    change espera (quitar_cpu_libre j s) = espera s
    unfold quitar_cpu_libre
    split_ifs <;> rfl
  | _ => first | exact .inl rfl | exact absurd rfl quiet

/-- A CPU is free that was, or that a handler gave back. -/
theorem mueve_libres (move : Mueve cfg hora s a r) (unborn : s.proximo_pid ∉ s.listas .lista_exec) {c : Option Nat}
    (free : c ∈ r.ks.lista_cpus_libres) : c ∈ s.lista_cpus_libres ∨ a = .agregar_cpu c ∨ ∃ b, a = .liberar_cpu_de_quantum c b := by
  by_cases quiet : tranquila a = true
  · have rest := (mueve_igual move quiet unborn).1.resto
    simp only [resto,Prod.mk.injEq] at rest
    exact .inl (by rw [← rest.1]; exact free)
  cases move with
  | planificar c p n cola libres served first other timer | planificar_timer c p n cola libres served first other timer =>
    exact .inl (by rw [other]; exact List.mem_cons_of_mem _ free)
  | agregar_cpu d =>
    rcases List.mem_append.mp free with old | new
    · exact .inl old
    · exact .inr (.inl (by rw [List.mem_singleton.mp new]))
  | liberar_cpu_de_quantum d planificable =>
    rcases List.mem_append.mp free with old | new
    · exact .inl old
    · exact .inr (.inr ⟨planificable,by rw [List.mem_singleton.mp new]⟩)
  | desconectar_ociosa j idle | desconectar_ocupada j p busy desaloja one =>
    left
    change c ∈ (quitar_cpu_libre j s).lista_cpus_libres at free
    unfold quitar_cpu_libre at free
    split_ifs at free
    · exact List.mem_of_mem_erase free
    · exact free
  | _ => first | exact .inl free | exact absurd rfl quiet

/-- Whoever gives up a CPU leaves it neither free nor with a process. -/
theorem desconecta_fuera (move : Mueve cfg hora s (.desconectar_cpu k) r)
    (once : s.lista_cpus_libres.count (some k) + ejecuciones k s ≤ 1) :
    some k ∉ r.ks.lista_cpus_libres ∧ ∀ p ∈ r.ks.listas .lista_exec, (r.ks.procesos p).cpu ≠ some k := by
  have free : some k ∉ (quitar_cpu_libre k s).lista_cpus_libres := by
    unfold quitar_cpu_libre
    split_ifs with listed
    · refine List.count_eq_zero.mp ?_
      rw [List.count_erase_self]
      omega
    · exact listed
  obtain ⟨listas,procesos⟩ := quitar_cpu_libre_eq k s
  cases move with
  | desconectar_ociosa j idle =>
    refine ⟨free,fun p running => ?_⟩
    rw [listas] at running
    rw [procesos]
    simpa using List.find?_eq_none.mp idle p running
  | desconectar_ocupada j p busy desaloja one =>
    refine ⟨free,fun q running => ?_⟩
    have runs : p ∈ s.listas .lista_exec := List.mem_of_find?_eq_some busy
    have mine : (s.procesos p).cpu = some k := by simpa using List.find?_some busy
    have apart := ne_destino (c := .lista_exec) rfl cfg (s.procesos p).prioridad
    by_cases same : q = p
    · subst same
      simp
    · have still : q ∈ s.listas .lista_exec := by
        have running : q ∈ (s.listas .lista_exec).erase p := by simpa [apart,listas] using running
        exact List.mem_of_mem_erase running
      intro theirs
      have theirs : (s.procesos q).cpu = some k := by simpa [same,procesos] using theirs
      have few : ejecuciones k s ≤ 1 := by omega
      exact same (@eq_of_countP _ _ (fun p => (s.procesos p).cpu = some k) _ few still (by simpa using theirs) runs (by simpa using mine))

/-- A process that has terminated is on no list again. -/
theorem acabado_sigue {v w : Vigilado} {l : Paso} (held : Custodia cfg v) (outside : w.sistema.ks.bsod_activo = false)
    (guard : al_mover (en_su_lista cfg) l v.sistema = true) (moved : vigila cfg l v = some w) {p : Nat} (out : Fuera v.sistema.ks p)
    (dead : (v.sistema.ks.procesos p).estado = .EXIT_STATE) :
    Fuera w.sistema.ks p ∧ (w.sistema.ks.procesos p).estado = .EXIT_STATE := by
  obtain ⟨t,advances,rfl⟩ := Option.map_eq_some_iff.mp moved
  obtain ⟨a,later,r,here,alive,effect,move,rfl⟩ := paso_avanza advances
  obtain ⟨before,other⟩ := mueve_bsod move outside
  have known := held.known before
  have good : en_su_lista cfg a l.entrada v.sistema.ks = true := by simpa [al_mover,cima_of_here here] using guard
  have goes : ∀ {t : Ks}, ProcessLists.Sigue cfg v.sistema.ks t p → Fuera t p ∧ (t.procesos p).estado = .EXIT_STATE := by
    intro t goes
    obtain ⟨out',same⟩ := goes.fuera out
    exact ⟨out',same.trans dead⟩
  have unlisted : ∀ q, q ∉ v.registrados → p ≠ q := by
    rintro q fresh rfl
    have new := ((held.sitios before p).2 fresh).2
    rw [dead] at new
    cases new
  have fresh := held.fresh
  have newborn := held.newborn before
  by_cases plain : ordinaria a = true
  · have inherits : Hereda cfg v.sistema.ks a := by
      intro cmn
      obtain ⟨desde,known⟩ := held.prioridades cmn
      exact ⟨desde,_,known.fijo,known.juego,every_here known.pendiente here⟩
    exact goes (mueve_sigue move good inherits known plain p)
  · cases move with
    | agregar_a_new q =>
      have due : 1 ≤ total (parto q) v.sistema.hilos := by
        have one := item_le_total (parto q) here
        simpa [parto,prenatal] using one
      have fresh : q ∉ v.registrados := by
        have once := held.partos q
        exact List.count_eq_zero.mp (by omega)
      obtain ⟨out',new⟩ := (held.sitios before q).2 fresh
      exact goes ((@registra_sigue cfg _ q out' new).2 p (unlisted q fresh))
    | manejar_proceso_exit k q running | manejar_seg_fault k q running =>
      refine goes ((termina_sigue running (known q)).2 p ?_)
      rintro rfl
      exact out.nunca _ running
    | crear_proceso_inicial => exact goes ((@crear_sigue cfg _ none 0 newborn).2 p (unlisted _ fresh))
    | manejar_init_proc k prioridad => exact goes ((@crear_sigue cfg _ (some k) prioridad newborn).2 p (unlisted _ fresh))
    | exit_desconocido k q | seg_fault_desconocido k q => exact ⟨out,dead⟩
    | manejar_bsod => exact absurd rfl other
    | _ => exact absurd rfl plain

/-! ## Connections -/

/-- The thread of the CPU reads from it, or is about to give it up. -/
def enlace (k : Nat) (v : Planificador) : Nat := total (atiende k) v.hilos + total (desconecta k) v.hilos

theorem enlace_avanza {v : Planificador} {i : Nat} {later : Pila} (here : v.hilos[i]? = some (a :: later)) (k : Nat) :
    enlace k ⟨r.ks,advance v.hilos i r.sigue later r.lanza⟩ + (atiende k a + desconecta k a) =
      enlace k v + (weight (atiende k) r.sigue + total (atiende k) r.lanza) + (weight (desconecta k) r.sigue + total (desconecta k) r.lanza) := by
  have reads := total_advance (atiende k) here r.sigue r.lanza
  have leaves := total_advance (desconecta k) here r.sigue r.lanza
  simp only [enlace]
  omega

/-- A connection has a new number. -/
theorem enlace_cambio {v : Planificador} {i : Nat} {later : Pila} (here : v.hilos[i]? = some (a :: later)) (change : Cambio v.ks a r) :
    v.ks.proximo_cliente ≤ r.ks.proximo_cliente ∧
      ∀ k, k < v.ks.proximo_cliente → enlace k ⟨r.ks,advance v.hilos i r.sigue later r.lanza⟩ ≤ enlace k v := by
  have sum := @enlace_avanza a r v i later here
  cases change with
  | cuadra balance =>
    refine ⟨balance.cliente,fun k old => ?_⟩
    have same := sum k
    rw [balance.atiende k,balance.desconecta k] at same
    omega
  | llega accepts result =>
    subst accepts result
    refine ⟨Nat.le_succ _,fun k old => ?_⟩
    have same := sum k
    have apart : v.ks.proximo_cliente ≠ k := by omega
    simp only [weight_cons,weight_nil,total_cons,total_nil,atiende,desconecta,reduceCtorEq,if_false,Accion.atender_cpu.injEq,apart] at same
    dsimp only
    omega
  | corta j reads result =>
    subst reads result
    refine ⟨le_rfl,fun k old => ?_⟩
    have same := sum k
    simp only [weight_cons,weight_nil,total_nil,atiende,desconecta,reduceCtorEq,if_false,Accion.atender_cpu.injEq,
      Accion.desconectar_cpu.injEq] at same
    dsimp only
    omega
  | desconecta j leaves otros mia light none encoge same =>
    simp only [Prod.mk.injEq] at same
    refine ⟨same.2.2.2.2.ge,fun k old => ?_⟩
    have same := sum k
    rw [none,ligera_weight (fun b light => ((ligera_pesos light).2.2 k).2.1) light,
      ligera_weight (fun b light => ((ligera_pesos light).2.2 k).2.2) light,total_nil,total_nil,← none] at same
    omega

/-- It ends when it is given up. -/
theorem enlace_retirada {v : Planificador} {i : Nat} {later : Pila} (here : v.hilos[i]? = some (.desconectar_cpu k :: later))
    (move : Mueve cfg hora v.ks (.desconectar_cpu k) r) :
    enlace k ⟨r.ks,advance v.hilos i r.sigue later r.lanza⟩ + 1 = enlace k v := by
  have quiet : r.sigue.all (fun b => !pesada b) = true ∧ r.lanza = [] := by
    cases move with
    | desconectar_ociosa => exact ⟨rfl,rfl⟩
    | desconectar_ocupada k p busy desaloja one =>
      exact ⟨by simp only [List.all_append,ligera_desalojo one,ligera_anuncio,Bool.and_self],rfl⟩
  obtain ⟨light,none⟩ := quiet
  have same := @enlace_avanza _ r _ _ _ here k
  rw [ligera_weight (fun b light => ((ligera_pesos light).2.2 k).2.1) light,
    ligera_weight (fun b light => ((ligera_pesos light).2.2 k).2.2) light,none,total_nil,total_nil,← none] at same
  simp only [atiende,desconecta,reduceCtorEq,if_false,if_true] at same
  omega

/-! ## Runs -/

/-- The run, with the CPUs that have been given up. -/
structure Testigo where
  vigilado : Vigilado
  desconectadas : List Nat

def retira : Option Accion → List Nat
  | some (.desconectar_cpu k) => [k]
  | _ => []

def atestigua (cfg : Config) (l : Paso) (v : Testigo) : Option Testigo :=
  (vigila cfg l v.vigilado).map (fun t => ⟨t,retira (cima v.vigilado.sistema l.hilo) ++ v.desconectadas⟩)

def comienzo : Testigo := ⟨inicio,[]⟩

/-- The CPU that is kept for a process is there when the compaction ends, and nobody else gives it back. -/
def guardada (desconectadas : List Nat) (a : Accion) (_ : Entrada) (s : Ks) : Bool :=
  match a with
  | .fin_compactacion => s.cpu_esperando_memoria.all (fun k => k ∉ desconectadas)
  | .agregar_cpu c | .liberar_cpu_de_quantum c _ => s.cpu_esperando_memoria.all (fun k => c ≠ some k)
  | _ => true

/-- The CPUs send messages about what they run, and the CPU that is kept for a process stays. -/
def Ordenado (cfg : Config) (l : Paso) (v : Testigo) : Prop :=
  Correcto cfg l v.vigilado ∧ al_mover habla l v.vigilado.sistema = true ∧
    al_mover (guardada v.desconectadas) l v.vigilado.sistema = true

instance (cfg : Config) (l : Paso) (v : Testigo) : Decidable (Ordenado cfg l v) := inferInstanceAs (Decidable (_ ∧ _ ∧ _))

/-- How the CPUs are served: a thread does one thing at a time for its CPU, and only for that one, and the process that it is
    to take off it still runs on it. -/
structure Atendido (v : Planificador) : Prop where
  turnos : ∀ pila ∈ v.hilos, Turnado pila
  sirven : ∀ pila ∈ v.hilos, ∀ b ∈ pila, ∀ k, Sirve k b → .atender_cpu k ∈ pila
  ocupados : ∀ pila ∈ v.hilos, ∀ b ∈ pila, ∀ p, ocupa b = some p →
    p ∈ v.ks.listas .lista_exec ∧ ∃ k, (v.ks.procesos p).cpu = some k ∧ .atender_cpu k ∈ pila
  espera : v.ks.proceso_esperando_memoria ≠ none → v.ks.cpu_esperando_memoria ≠ none

/-- The accounts, with the CPUs that have been given up. -/
structure Cuadrado (v : Planificador) (desconectadas : List Nat) : Prop extends Atendido v where
  llenas : Every (fun b => devuelve b ≠ some none) v.hilos
  libres : ∀ c ∈ v.ks.lista_cpus_libres, ∃ k, c = some k ∧ k ∉ desconectadas
  corren : ∀ p ∈ v.ks.listas .lista_exec, ∃ k, (v.ks.procesos p).cpu = some k ∧ k ∉ desconectadas
  quietos : ∀ p, (v.ks.procesos p).cpu ≠ none → p ∉ v.ks.listas .lista_exec →
    Fuera v.ks p ∧ (v.ks.procesos p).estado = .EXIT_STATE
  apartada : ∀ k, v.ks.cpu_esperando_memoria = some k → some k ∉ v.ks.lista_cpus_libres
  idas : ∀ k ∈ desconectadas, k < v.ks.proximo_cliente ∧ enlace k v = 0

theorem inicial_atendido : Atendido inicial where
  turnos pila member := by
    obtain rfl := List.mem_singleton.mp member
    exact turnado_inertes rfl
  sirven pila member b listed k serves := by
    obtain rfl := List.mem_singleton.mp member
    exact absurd serves (sirve_inerte (by rw [List.mem_singleton.mp listed]; rfl))
  ocupados pila member b listed p holds := by
    obtain rfl := List.mem_singleton.mp member
    rw [List.mem_singleton.mp listed] at holds
    cases holds
  espera some := absurd rfl some

theorem inicial_cuadrado : Cuadrado inicial [] where
  toAtendido := inicial_atendido
  llenas pila member b listed := by
    obtain rfl := List.mem_singleton.mp member
    rw [List.mem_singleton.mp listed]
    simp [devuelve]
  libres c free := by cases free
  corren p running := by cases running
  quietos p some := absurd rfl some
  apartada k some := by cases some
  idas k gone := by cases gone

/-- The action takes the process off its CPU, or leads to one that does. -/
def Toma (s : Ks) (a : Accion) (p : Nat) : Prop :=
  (∃ k, (s.procesos p).cpu = some k ∧ (maneja a = some k ∨ a = .desconectar_cpu k)) ∨ ocupa a = some p

/-- Any other running process goes on. -/
theorem Ejecucion.queda (what : Ejecucion s a t) (running : p ∈ s.listas .lista_exec) (free : ¬ Toma s a p) :
    p ∈ t.listas .lista_exec ∧ (t.procesos p).cpu = (s.procesos p).cpu := by
  cases what with
  | igual exec cpus => exact ⟨by rw [exec]; exact running,(cpus p).resolve_right (fun none => none.1 running)⟩
  | saca q takes running' who after =>
    have other : p ≠ q := by
      rintro rfl
      exact free who
    exact ⟨by rw [takes.exec]; exact (List.mem_erase_of_ne other).mpr running,takes.otros p other⟩
  | mete q k puts cpu source =>
    have other : p ≠ q := by
      rintro rfl
      exact puts.ausente running
    exact ⟨by rw [puts.exec]; exact List.mem_append_left _ running,puts.otros p other⟩

/-- What a running process has after the move. -/
theorem Ejecucion.corre (what : Ejecucion s a t) (running : p ∈ t.listas .lista_exec) :
    (p ∈ s.listas .lista_exec ∧ (t.procesos p).cpu = (s.procesos p).cpu) ∨ ∃ k, (t.procesos p).cpu = some k ∧
      (some k ∈ s.lista_cpus_libres ∨ a = .fin_compactacion ∧ s.cpu_esperando_memoria = some k) := by
  cases what with
  | igual exec cpus =>
    rw [exec] at running
    exact .inl ⟨running,(cpus p).resolve_right (fun none => none.1 running)⟩
  | saca q takes => exact .inl (takes.encoge p running)
  | mete q k puts cpu source =>
    by_cases same : p = q
    · subst same
      exact .inr ⟨k,cpu,source⟩
    · rw [puts.exec] at running
      exact .inl ⟨(List.mem_append.mp running).resolve_right (fun new => same (List.mem_singleton.mp new)),puts.otros p same⟩

/-- Who has a CPU and does not run has terminated now, or did neither before. -/
theorem Ejecucion.quieto (what : Ejecucion s a t) (given : (t.procesos p).cpu ≠ none) (still : p ∉ t.listas .lista_exec) :
    ((s.procesos p).cpu ≠ none ∧ p ∉ s.listas .lista_exec) ∨ Fuera t p ∧ (t.procesos p).estado = .EXIT_STATE := by
  cases what with
  | igual exec cpus =>
    rcases cpus p with same | ⟨-,none⟩
    · rw [exec] at still
      rw [same] at given
      exact .inl ⟨given,still⟩
    · exact absurd none given
  | saca q takes running who after =>
    by_cases same : p = q
    · subst same
      exact .inr (after.resolve_left given)
    · rw [takes.exec,List.mem_erase_of_ne same] at still
      rw [takes.otros p same] at given
      exact .inl ⟨given,still⟩
  | mete q k puts cpu source =>
    have same : p ≠ q := by
      rintro rfl
      exact still (by rw [puts.exec]; simp)
    rw [puts.otros p same] at given
    exact .inl ⟨given,fun running => still (by rw [puts.exec]; exact List.mem_append_left _ running)⟩

section step
variable {v : Planificador} {idas : List Nat} {i : Nat} {later : Pila}

theorem lee_peso {pila : Pila} (reads : .atender_cpu k ∈ pila) : 1 ≤ weight (atiende k) pila := by
  obtain ⟨first,last,rfl⟩ := List.append_of_mem reads
  simp only [weight_append,weight_cons,atiende,if_true]
  omega

/-- Only one thread reads from a CPU. -/
theorem lee_solo {hilos : List Pila} (most : total (atiende k) hilos ≤ 1) {i j : Nat} {pila pila' : Pila}
    (here : hilos[i]? = some pila) (there : hilos[j]? = some pila') (reads : .atender_cpu k ∈ pila) (reads' : .atender_cpu k ∈ pila') :
    j = i := by
  by_contra other
  have two := @two_le_total _ (atiende k) _ _ _ _ _ here there other
  have one := lee_peso reads
  have one' := lee_peso reads'
  omega

theorem lee_uno (accounts : Cuentas v) {j : Nat} {pila pila' : Pila} (here : v.hilos[i]? = some pila) (there : v.hilos[j]? = some pila')
    (reads : .atender_cpu k ∈ pila) (reads' : .atender_cpu k ∈ pila') : j = i :=
  lee_solo ((Nat.le_add_right _ _).trans (accounts.conexion k)) here there reads reads'

theorem lee_total {pila : Pila} (member : pila ∈ v.hilos) (reads : .atender_cpu k ∈ pila) : 1 ≤ total (atiende k) v.hilos :=
  (lee_peso reads).trans (weight_le_total (atiende k) member)

section turns
variable {hilos : List Pila}

theorem turno_libre (turnos : ∀ pila ∈ hilos, Turnado pila) (here : hilos[i]? = some (a :: later)) :
    (atareada a = true → ∀ b ∈ later, atareada b = false) ∧ (cierra a = true → later = []) ∧ Turnado later :=
  turnos _ (List.mem_of_getElem? here)

/-- What the thread still reads from, it reads from after the move. -/
theorem lee_despues (turnos : ∀ pila ∈ hilos, Turnado pila) (here : hilos[i]? = some (a :: later)) {x : Accion} (member : x ∈ later)
    (reads : .atender_cpu k ∈ a :: later) : .atender_cpu k ∈ later := by
  rcases List.mem_cons.mp reads with rfl | rest
  · rw [(turno_libre turnos here).2.1 rfl] at member
    cases member
  · exact rest

theorem turnos_avanza (turnos : ∀ pila ∈ hilos, Turnado pila) (here : hilos[i]? = some (a :: later)) (goes : Continua s a r) :
    ∀ pila ∈ advance hilos i r.sigue later r.lanza, Turnado pila := by
  intro pila member
  obtain ⟨busy,last,rest⟩ := turno_libre turnos here
  rcases mem_advance member with old | rfl | new
  · exact turnos pila old
  · by_cases ends : cierra a = true
    · rw [last ends,List.append_nil]
      exact goes.turnado
    · have ends : cierra a = false := by simpa using ends
      refine turnado_append goes.turnado (goes.abierta ends) ?_ rest
      by_cases works : atareada a = true
      · exact .inr (busy works)
      · exact .inl (goes.libre (by simpa using works) ends)
  · exact (goes.lanza pila new).1

end turns

theorem atendido_sirven (held : Atendido v) (here : v.hilos[i]? = some (a :: later)) (goes : Continua v.ks a r) :
    ∀ pila ∈ advance v.hilos i r.sigue later r.lanza, ∀ b ∈ pila, ∀ k, Sirve k b → .atender_cpu k ∈ pila := by
  intro pila member b listed k serves
  have mine := List.mem_of_getElem? here
  rcases mem_advance member with old | rfl | new
  · exact held.sirven pila old b listed k serves
  · rcases List.mem_append.mp listed with first | rest
    · rcases goes.sirve b first k serves with own | rfl | ⟨p,holds,cpu⟩
      · have reads := held.sirven _ mine a List.mem_cons_self k own
        rcases List.mem_cons.mp reads with same | reads
        · subst same
          simp [Sirve,devuelve,maneja] at own
        · exact List.mem_append_right _ reads
      · rcases goes.lee k rfl with reads | ends
        · exact List.mem_append_left _ reads
        · rw [ends] at first
          rw [List.mem_singleton.mp first] at serves
          simp [Sirve,devuelve,maneja] at serves
      · obtain ⟨running,j,cpu',reads⟩ := held.ocupados _ mine a List.mem_cons_self p holds
        have same : j = k := Option.some.inj (cpu'.symm.trans cpu)
        subst same
        rcases List.mem_cons.mp reads with same | reads
        · subst same
          cases holds
        · exact List.mem_append_right _ reads
    · have reads := held.sirven _ mine b (List.mem_cons_of_mem a rest) k serves
      exact List.mem_append_right _ (lee_despues held.turnos here rest reads)
  · exact (goes.lanza pila new).2.1 b listed k serves

theorem cuadrado_llenas (held : Cuadrado v idas) (here : v.hilos[i]? = some (a :: later)) (goes : Continua v.ks a r) :
    Every (fun b => devuelve b ≠ some none) (advance v.hilos i r.sigue later r.lanza) := by
  have mine := List.mem_of_getElem? here
  refine every_advance held.llenas here (fun b member none => ?_) (fun pila new b listed => ((goes.lanza pila new).2.2 b listed).2)
  rcases goes.llena b member none with old | ⟨p,nowhere,running | holds⟩
  · exact held.llenas _ mine a List.mem_cons_self old
  · obtain ⟨k,somewhere,-⟩ := held.corren p running
    simp [nowhere] at somewhere
  · obtain ⟨-,k,somewhere,-⟩ := held.ocupados _ mine a List.mem_cons_self p holds
    simp [nowhere] at somewhere

theorem atendido_ocupados (held : Atendido v) (accounts : Cuentas v) (here : v.hilos[i]? = some (a :: later))
    (goes : Continua v.ks a r) (what : Ejecucion v.ks a r.ks) :
    ∀ pila ∈ advance v.hilos i r.sigue later r.lanza, ∀ b ∈ pila, ∀ p, ocupa b = some p →
      p ∈ r.ks.listas .lista_exec ∧ ∃ k, (r.ks.procesos p).cpu = some k ∧ .atender_cpu k ∈ pila := by
  intro pila member b listed p holds
  have mine := List.mem_of_getElem? here
  rcases mem_advance_other member with ⟨j,other,there⟩ | rfl | new
  · -- Another thread would have to read from the same CPU to take the process off it.
    obtain ⟨running,k,cpu,reads⟩ := held.ocupados pila (List.mem_of_getElem? there) b listed p holds
    have free : ¬ Toma v.ks a p := by
      rintro (⟨k',cpu',handles | rfl⟩ | takes)
      · have same : k' = k := Option.some.inj (cpu'.symm.trans cpu)
        subst same
        have reads' := held.sirven _ mine a List.mem_cons_self k' (.inr handles)
        exact other (lee_uno accounts here there reads' reads)
      · have same : k' = k := Option.some.inj (cpu'.symm.trans cpu)
        subst same
        have one := lee_total (List.mem_of_getElem? there) reads
        have leaves := item_le_total (desconecta k') here
        have most := accounts.conexion k'
        simp only [desconecta,if_true] at leaves
        omega
      · obtain ⟨-,k',cpu',reads'⟩ := held.ocupados _ mine a List.mem_cons_self p takes
        have same : k' = k := Option.some.inj (cpu'.symm.trans cpu)
        subst same
        exact other (lee_uno accounts here there reads' reads)
    obtain ⟨still,same⟩ := what.queda running free
    exact ⟨still,k,same.trans cpu,reads⟩
  · rcases List.mem_append.mp listed with first | rest
    · obtain ⟨exec,cpus,source⟩ := goes.ocupa b first p holds
      rcases source with old | ⟨k,handles,running,cpu⟩
      · obtain ⟨running,k,cpu,reads⟩ := held.ocupados _ mine a List.mem_cons_self p old
        refine ⟨by rw [exec]; exact running,k,(cpus running).trans cpu,List.mem_append_right _ ?_⟩
        rcases List.mem_cons.mp reads with same | reads
        · subst same
          cases old
        · exact reads
      · have reads := held.sirven _ mine a List.mem_cons_self k (.inr handles)
        refine ⟨by rw [exec]; exact running,k,(cpus running).trans cpu,List.mem_append_right _ ?_⟩
        rcases List.mem_cons.mp reads with same | reads
        · subst same
          cases handles
        · exact reads
    · -- The thread has something to do for its CPU later, so nothing now.
      obtain ⟨busy,last,-⟩ := turno_libre held.turnos here
      obtain ⟨running,k,cpu,reads⟩ := held.ocupados _ mine b (List.mem_cons_of_mem a rest) p holds
      have works : atareada b = true := by simp [atareada,holds]
      have idle : atareada a = false := by
        by_contra some
        have none := busy (by simpa using some) b rest
        rw [works] at none
        cases none
      have free : ¬ Toma v.ks a p := by
        rintro (⟨k',-,handles | rfl⟩ | takes)
        · simp [atareada,handles] at idle
        · rw [last rfl] at rest
          cases rest
        · simp [atareada,takes] at idle
      obtain ⟨still,same⟩ := what.queda running free
      exact ⟨still,k,same.trans cpu,List.mem_append_right _ (lee_despues held.turnos here rest reads)⟩
  · rw [((goes.lanza pila new).2.2 b listed).1] at holds
    cases holds

theorem atendido_espera (held : Atendido v) (here : v.hilos[i]? = some (a :: later)) (move : Mueve cfg hora v.ks a r)
    (unborn : v.ks.proximo_pid ∉ v.ks.listas .lista_exec) :
    r.ks.proceso_esperando_memoria ≠ none → r.ks.cpu_esperando_memoria ≠ none := by
  intro waiting
  rcases mueve_espera move unborn with same | ⟨-,none⟩ | ⟨p,rfl,noted⟩
  · obtain ⟨process,cpu⟩ := Prod.mk.inj same
    rw [cpu]
    exact held.espera (process ▸ waiting)
  · exact absurd (Prod.mk.inj none).1 waiting
  · obtain ⟨-,k,cpu,-⟩ := held.ocupados _ (List.mem_of_getElem? here) _ List.mem_cons_self p rfl
    rw [(Prod.mk.inj noted).2,cpu]
    simp

theorem atendido_avanza (held : Atendido v) (accounts : Cuentas v) (here : v.hilos[i]? = some (a :: later))
    (move : Mueve cfg hora v.ks a r) (goes : Continua v.ks a r) (what : Ejecucion v.ks a r.ks)
    (unborn : v.ks.proximo_pid ∉ v.ks.listas .lista_exec) : Atendido ⟨r.ks,advance v.hilos i r.sigue later r.lanza⟩ where
  turnos := turnos_avanza held.turnos here goes
  sirven := atendido_sirven held here goes
  ocupados := atendido_ocupados held accounts here goes what
  espera := atendido_espera held here move unborn

/-- The CPU of whoever does something for it has not been given up. -/
theorem vigente (held : Cuadrado v idas) (here : v.hilos[i]? = some (a :: later)) (serves : Sirve k a) : k ∉ idas := by
  intro gone
  have mine := List.mem_of_getElem? here
  have one := lee_total mine (held.sirven _ mine a List.mem_cons_self k serves)
  have none := (held.idas k gone).2
  simp only [enlace] at none
  omega

theorem cuadrado_corren (held : Cuadrado v idas) (accounts : Cuentas v) (move : Mueve cfg hora v.ks a r) (what : Ejecucion v.ks a r.ks)
    (kept : a = .fin_compactacion → v.ks.cpu_esperando_memoria.all (fun k => k ∉ idas) = true) :
    ∀ p ∈ r.ks.listas .lista_exec, ∃ k, (r.ks.procesos p).cpu = some k ∧ k ∉ retira (some a) ++ idas := by
  intro p running
  have given : ∃ k, (r.ks.procesos p).cpu = some k ∧ k ∉ idas := by
    rcases what.corre running with ⟨before,same⟩ | ⟨k,cpu,free | ⟨ends,reserved⟩⟩
    · rw [same]
      exact held.corren p before
    · obtain ⟨j,same,there⟩ := held.libres _ free
      cases same
      exact ⟨k,cpu,there⟩
    · have there := kept ends
      rw [reserved] at there
      exact ⟨k,cpu,by simpa using there⟩
  obtain ⟨k,cpu,there⟩ := given
  refine ⟨k,cpu,fun gone => (List.mem_append.mp gone).elim (fun now => ?_) there⟩
  cases a with
  | desconectar_cpu j =>
    obtain rfl := List.mem_singleton.mp now
    have once := accounts.una_vez k
    simp only [lugares,sitios] at once
    exact (desconecta_fuera move (by omega)).2 p running cpu
  | _ => cases now

theorem cuadrado_libres (held : Cuadrado v idas) (accounts : Cuentas v) (here : v.hilos[i]? = some (a :: later))
    (move : Mueve cfg hora v.ks a r) (unborn : v.ks.proximo_pid ∉ v.ks.listas .lista_exec) :
    ∀ c ∈ r.ks.lista_cpus_libres, ∃ k, c = some k ∧ k ∉ retira (some a) ++ idas := by
  intro c free
  have returned : devuelve a = some c → ∃ k, c = some k ∧ k ∉ idas := by
    intro gives
    cases c with
    | none => exact absurd gives (held.llenas _ (List.mem_of_getElem? here) a List.mem_cons_self)
    | some k => exact ⟨k,rfl,vigente held here (.inl gives)⟩
  have given : ∃ k, c = some k ∧ k ∉ idas := by
    rcases mueve_libres move unborn free with old | rfl | ⟨b,rfl⟩
    · exact held.libres c old
    · exact returned rfl
    · exact returned rfl
  obtain ⟨k,rfl,there⟩ := given
  refine ⟨k,rfl,fun gone => (List.mem_append.mp gone).elim (fun now => ?_) there⟩
  cases a with
  | desconectar_cpu j =>
    obtain rfl := List.mem_singleton.mp now
    have once := accounts.una_vez k
    simp only [lugares,sitios] at once
    exact (desconecta_fuera move (by omega)).1 free
  | _ => cases now

theorem cuadrado_apartada (held : Cuadrado v idas) (accounts : Cuentas v) (here : v.hilos[i]? = some (a :: later))
    (move : Mueve cfg hora v.ks a r) (unborn : v.ks.proximo_pid ∉ v.ks.listas .lista_exec)
    (kept : ∀ c, (a = .agregar_cpu c ∨ ∃ b, a = .liberar_cpu_de_quantum c b) →
      v.ks.cpu_esperando_memoria.all (fun k => c ≠ some k) = true) :
    ∀ k, r.ks.cpu_esperando_memoria = some k → some k ∉ r.ks.lista_cpus_libres := by
  intro k reserved free
  have source := mueve_libres move unborn free
  rcases mueve_espera move unborn with same | ⟨-,none⟩ | ⟨p,rfl,noted⟩
  · rw [(Prod.mk.inj same).2] at reserved
    rcases source with old | gives
    · exact held.apartada k reserved old
    · have apart := kept (some k) gives
      simp [reserved] at apart
  · rw [(Prod.mk.inj none).2] at reserved
    cases reserved
  · have old : some k ∈ v.ks.lista_cpus_libres := by
      rcases source with old | same | ⟨b,same⟩
      · exact old
      · cases same
      · cases same
    obtain ⟨running,-⟩ := held.ocupados _ (List.mem_of_getElem? here) _ List.mem_cons_self p rfl
    rw [(Prod.mk.inj noted).2] at reserved
    have runs : 0 < ejecuciones k v.ks := List.countP_pos_iff.mpr ⟨p,running,by simpa using reserved⟩
    have listed := List.count_pos_iff.mpr old
    have once := accounts.una_vez k
    simp only [lugares,sitios] at once
    omega

theorem cuadrado_idas (held : Cuadrado v idas) (accounts : Cuentas v) (here : v.hilos[i]? = some (a :: later))
    (move : Mueve cfg hora v.ks a r) (change : Cambio v.ks a r) :
    ∀ k ∈ retira (some a) ++ idas, k < r.ks.proximo_cliente ∧ enlace k ⟨r.ks,advance v.hilos i r.sigue later r.lanza⟩ = 0 := by
  intro k gone
  obtain ⟨more,fewer⟩ := enlace_cambio here change
  rcases List.mem_append.mp gone with now | before
  · cases a with
    | desconectar_cpu j =>
      obtain rfl := List.mem_singleton.mp now
      have leaves := item_le_total (desconecta k) here
      simp only [desconecta,if_true] at leaves
      have old : k < v.ks.proximo_cliente := by
        by_contra late
        have none := (accounts.nuevas k (by omega)).2
        omega
      have less := enlace_retirada here move
      have most := accounts.conexion k
      simp only [enlace] at less ⊢
      omega
    | _ => cases now
  · obtain ⟨old,none⟩ := held.idas k before
    have less := fewer k old
    omega
end step

structure Llevado (cfg : Config) (v : Testigo) : Prop where
  cuidado : Cuidado cfg v.vigilado
  cuadrado : v.vigilado.sistema.ks.bsod_activo = false → Cuadrado v.vigilado.sistema v.desconectadas

theorem atestigua_llevado {l : Paso} {v w : Testigo} (held : Llevado cfg v) (guard : Ordenado cfg l v)
    (moved : atestigua cfg l v = some w) : Llevado cfg w := by
  obtain ⟨correct,own,kept⟩ := guard
  obtain ⟨x,watched,rfl⟩ := Option.map_eq_some_iff.mp moved
  refine ⟨vigila_cuidado held.cuidado correct watched,fun outside => ?_⟩
  have dead := @acabado_sigue cfg v.vigilado x l held.cuidado.custodia outside correct.1 watched
  obtain ⟨t,advances,rfl⟩ := Option.map_eq_some_iff.mp watched
  obtain ⟨a,later,r,here,alive,effect,move,rfl⟩ := paso_avanza advances
  have top := cima_of_here here
  obtain ⟨good,due⟩ := correct
  simp only [al_mover,top,Option.all_some] at own kept good due
  obtain ⟨before,other⟩ := mueve_bsod move outside
  have accounts := held.cuidado.cuentas before
  have square := held.cuadrado before
  have known := held.cuidado.custodia.known before
  have unborn := held.cuidado.custodia.unborn before
  have goes := efecto_continua effect own
  have what := efecto_ejecucion effect own good known unborn square.espera other
  have change := cambio_of_cuentas accounts here move outside good due known unborn
  simp only [top]
  exact {
    toAtendido := atendido_avanza square.toAtendido accounts here move goes what unborn
    llenas := cuadrado_llenas square here goes
    libres := cuadrado_libres square accounts here move unborn
    corren := cuadrado_corren square accounts move what (fun ends => by subst ends; exact kept)
    quietos := by
      intro p given still
      rcases what.quieto given still with ⟨given,still⟩ | out
      · obtain ⟨out,gone⟩ := square.quietos p given still
        exact dead out gone
      · exact out
    apartada := by
      refine cuadrado_apartada square accounts here move unborn (fun c gives => ?_)
      rcases gives with rfl | ⟨b,rfl⟩
      · exact kept
      · exact kept
    idas := cuadrado_idas square accounts here move change }

/-- What the CPUs have to add up to. A process that has terminated is no process any more; its CPU is in the hands of the
    handler that frees it. -/
structure AlDia (v : Testigo) : Prop where
  corren : ∀ p ∈ v.vigilado.sistema.ks.listas .lista_exec, ∃ k, (v.vigilado.sistema.ks.procesos p).cpu = some k ∧ k ∉ v.desconectadas
  de_uno : ∀ p q k, (v.vigilado.sistema.ks.procesos p).estado ≠ .EXIT_STATE → (v.vigilado.sistema.ks.procesos q).estado ≠ .EXIT_STATE →
    (v.vigilado.sistema.ks.procesos p).cpu = some k → (v.vigilado.sistema.ks.procesos q).cpu = some k → p = q
  en_manos : ∀ k, Pending (fun b => devuelve b = some (some k)) v.vigilado.sistema.hilos →
    some k ∉ v.vigilado.sistema.ks.lista_cpus_libres ∧ k ∉ v.desconectadas ∧
      ∀ p, (v.vigilado.sistema.ks.procesos p).estado ≠ .EXIT_STATE → (v.vigilado.sistema.ks.procesos p).cpu ≠ some k
  libres : ∀ k, some k ∈ v.vigilado.sistema.ks.lista_cpus_libres → v.vigilado.sistema.ks.cpu_esperando_memoria ≠ some k ∧
    ∀ p, (v.vigilado.sistema.ks.procesos p).estado ≠ .EXIT_STATE → (v.vigilado.sistema.ks.procesos p).cpu ≠ some k
  idas : ∀ k ∈ v.desconectadas, ∀ p, (v.vigilado.sistema.ks.procesos p).estado ≠ .EXIT_STATE →
    (v.vigilado.sistema.ks.procesos p).cpu ≠ some k

theorem en_manos_of_devuelve (gives : devuelve b = some (some k)) : en_manos k b = 1 := by
  have count : en_manos k b = if devuelve b = some (some k) then 1 else 0 := by
    cases b with
    | pedir q | recibir q => cases q <;> simp [devuelve,en_manos]
    | _ => simp [devuelve,en_manos]
  rw [count,if_pos gives]

/-- In a run in which every CPU sends messages about what it runs, the CPU that is kept for the process that waits for a
    compaction neither disconnects before it ends nor is given back before it is forgotten, every move finds the process that
    it takes off a list there and Kernel Memory ends the compactions that it began, the CPUs add up outside a BSOD. -/
theorem cpus_add_up {labels : List Paso} {v : Testigo} (guarded : Guarded (atestigua cfg) (Ordenado cfg) labels comienzo)
    (reached : run (atestigua cfg) labels comienzo = some v) (outside : v.vigilado.sistema.ks.bsod_activo = false) : AlDia v := by
  have start : Llevado cfg comienzo := ⟨⟨inicio_custodia,fun _ => inicial_cuentas⟩,fun _ => inicial_cuadrado⟩
  have held : Llevado cfg v :=
    invariant_of_guarded (fun _ _ _ held guard moved => atestigua_llevado held guard moved) start guarded reached
  have square := held.cuadrado outside
  have once := (held.cuidado.cuentas outside).una_vez
  simp only [lugares,sitios] at once
  have runs : ∀ p k, (v.vigilado.sistema.ks.procesos p).estado ≠ .EXIT_STATE → (v.vigilado.sistema.ks.procesos p).cpu = some k →
      p ∈ v.vigilado.sistema.ks.listas .lista_exec ∧ 0 < ejecuciones k v.vigilado.sistema.ks := by
    intro p k alive mine
    have running : p ∈ v.vigilado.sistema.ks.listas .lista_exec := by
      by_contra still
      exact alive (square.quietos p (by simp [mine]) still).2
    exact ⟨running,List.countP_pos_iff.mpr ⟨p,running,by simpa using mine⟩⟩
  refine ⟨square.corren,fun p q k alive alive' mine theirs => ?_,fun k held => ?_,fun k free => ⟨?_,fun p alive mine => ?_⟩,
    fun k gone p alive mine => ?_⟩
  · have few : ejecuciones k v.vigilado.sistema.ks ≤ 1 := by
      have one := once k
      omega
    exact @eq_of_countP _ _ (fun p => (v.vigilado.sistema.ks.procesos p).cpu = some k) _ few (runs p k alive mine).1
      (by simpa using mine) (runs q k alive' theirs).1 (by simpa using theirs)
  · obtain ⟨pila,member,b,listed,gives⟩ := held
    have one := once k
    have mine : 0 < total (en_manos k) v.vigilado.sistema.hilos := by
      refine (Nat.lt_of_lt_of_le ?_ (weight_le_total (en_manos k) member))
      obtain ⟨first,last,rfl⟩ := List.append_of_mem listed
      simp only [weight_append,weight_cons,en_manos_of_devuelve gives]
      omega
    refine ⟨fun free => ?_,fun gone => ?_,fun p alive mine' => ?_⟩
    · have listed := List.count_pos_iff.mpr free
      omega
    · have reads := lee_total member (square.sirven pila member b listed k (.inl gives))
      have none := (square.idas k gone).2
      simp only [enlace] at none
      omega
    · have executes := (runs p k alive mine').2
      omega
  · exact fun reserved => square.apartada k reserved free
  · have listed := List.count_pos_iff.mpr free
    have executes := (runs p k alive mine).2
    have one := once k
    omega
  · obtain ⟨j,theirs,there⟩ := square.corren p (runs p k alive mine).1
    cases theirs.symm.trans mine
    exact there gone

/-- Process 0 has a segment between two holes and asks for another for which neither is enough; the thread of its CPU goes
    on until the compaction may begin. -/
def fragmentado : List Paso := arranque ++ [{ hilo := 0, entrada := .cliente_cpu }] ++ turnos 3 2 ++ turnos 1 6 ++
  pide_memoria .mem_alloc (.enteros 0 2) .OK ++ pide_memoria .mem_alloc (.enteros 1 2) .OK ++ pide_memoria .mem_free (.entero 0) .OK ++
  pide_memoria .mem_alloc (.enteros 2 6) .COMPACTAR ++ turnos 3 5

/-- Kernel Memory announces the end of the compaction. -/
def compactado : List Paso := { hilo := 2, entrada := .aviso .fin_compactacion } :: turnos 2 1

theorem cpus_add_up_fragmentado : ∃ v, run (atestigua fifo) (fragmentado ++ compactado) comienzo = some v ∧
    v.vigilado.sistema.ks.listas .lista_exec = [0] ∧ ∃ k, (v.vigilado.sistema.ks.procesos 0).cpu = some k ∧ k ∉ v.desconectadas := by
  have ends : (run (atestigua fifo) (fragmentado ++ compactado) comienzo).map
      (fun v => (v.vigilado.sistema.ks.bsod_activo,v.vigilado.sistema.ks.listas .lista_exec)) = some (false,[0]) := by decide +kernel
  obtain ⟨v,reached,ends⟩ := Option.map_eq_some_iff.mp ends
  obtain ⟨outside,running⟩ := Prod.mk.inj ends
  exact ⟨v,reached,running,(cpus_add_up (by decide +kernel) reached outside).corren 0 (by simp [running])⟩

/-- The CPU that is kept for process 0 disconnects before the end of the compaction: the process runs on a CPU that is gone. -/
theorem runs_on_lost_cpu : ∃ v, run (atestigua fifo) (fragmentado ++ [{ hilo := 3, entrada := .corte },{ hilo := 3 }] ++ compactado)
      comienzo = some v ∧ v.vigilado.sistema.ks.bsod_activo = false ∧ v.vigilado.sistema.ks.listas .lista_exec = [0] ∧
    (v.vigilado.sistema.ks.procesos 0).cpu = some 0 ∧ v.desconectadas = [0] ∧ ¬ AlDia v := by
  have ends : (run (atestigua fifo) (fragmentado ++ [{ hilo := 3, entrada := .corte },{ hilo := 3 }] ++ compactado) comienzo).map
      (fun v => (v.vigilado.sistema.ks.bsod_activo,v.vigilado.sistema.ks.listas .lista_exec,(v.vigilado.sistema.ks.procesos 0).cpu,
        v.desconectadas)) = some (false,[0],some 0,[0]) := by decide +kernel
  obtain ⟨v,reached,ends⟩ := Option.map_eq_some_iff.mp ends
  simp only [Prod.mk.injEq] at ends
  obtain ⟨outside,running,mine,gone⟩ := ends
  refine ⟨v,reached,outside,running,mine,gone,fun right => ?_⟩
  obtain ⟨k,cpu,there⟩ := right.corren 0 (by simp [running])
  cases mine.symm.trans cpu
  exact there (by simp [gone])

end PlugNPray.CpuAccounts
