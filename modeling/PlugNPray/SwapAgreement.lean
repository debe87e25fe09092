import PlugNPray.Census

/-!
Who is in the swap, as each kernel sees it: a process that Kernel Memory keeps in the swap is
one that the scheduler has suspended, as long as the scheduler has one exchange at a time
with Kernel Memory about it.
-/
namespace PlugNPray.SwapAgreement
open PlugNPray.Scheduler PlugNPray.Handlers PlugNPray.ReadyQueues PlugNPray.Moves PlugNPray.Stacks PlugNPray.Runs
open PlugNPray.ProcessLists PlugNPray.Sorting PlugNPray.Kernels PlugNPray.Census
open PlugNPray.Shutdown (siesta)

variable {cfg : Config} {orden : Sorter} {hora : Nat} {j k u : Ks} {p q : Nat} {s t : Sistema} {x : Anexo}

/-! ## Suspended processes stay suspended -/

def Suspendido (k : Ks) (p : Nat) : Prop := (k.procesos p).estado = .SUSP_BLOCK ∨ (k.procesos p).estado = .SUSP_READY

/-- A process that waits for its memory goes on waiting, and one that is suspended stays so. -/
structure Queda (j k : Ks) (p : Nat) : Prop where
  block : (j.procesos p).estado = .SUSP_BLOCK → Suspendido k p
  ready : (j.procesos p).estado = .SUSP_READY → (k.procesos p).estado = .SUSP_READY

theorem queda_igual (same : (k.procesos p).estado = (j.procesos p).estado) : Queda j k p where
  block before := .inl (same.trans before)
  ready before := same.trans before

theorem queda_de_otro {e : Estado} (before : (j.procesos p).estado = e) (other : e ≠ .SUSP_BLOCK) (other' : e ≠ .SUSP_READY) : Queda j k p where
  block suspended := absurd (before.symm.trans suspended) other
  ready suspended := absurd (before.symm.trans suspended) other'

theorem Queda.trans (first : Queda j k p) (second : Queda k u p) : Queda j u p where
  block before := (first.block before).elim second.block (fun ready => .inr (second.ready ready))
  ready before := second.ready (first.ready before)

theorem Queda.suspendido (keeps : Queda j k p) (before : Suspendido j p) : Suspendido k p :=
  before.elim keeps.block (fun ready => .inr (keeps.ready ready))

/-- Only the state of one process changes. -/
theorem queda_de (others : ∀ q', q' ≠ q → (k.procesos q').estado = (j.procesos q').estado) (mine : Queda j k q) : Queda j k p := by
  by_cases same : p = q
  · subst same
    exact mine
  · exact queda_igual (others p same)

theorem queda_con_mutex (i : Nat) (f : Mutex → Mutex) : Queda k (k.con_mutex i f) p := queda_igual rfl

theorem queda_cancelar : Queda k (k.cancelar_timer q) p := queda_igual (by by_cases same : p = q <;> simp [same])

theorem queda_herencia {espera : List Nat} {r : Ks × Pila} (what : Herencia cfg q espera k r) : Queda k r.1 p := by
  refine queda_igual ?_
  cases what with
  | nada => rfl
  | cambia => by_cases same : p = q <;> simp [same]
  | muda => split_ifs <;> by_cases same : p = q <;> simp [same]

theorem queda_devolucion (what : Devolucion q j k) : Queda j k p := by
  refine queda_igual ?_
  cases what with
  | nada => rfl
  | cambia => by_cases same : p = q <;> simp [same]

theorem queda_despierta {r : Ks × Pila} (what : Despierta cfg hora q k r) : Queda k r.1 p := by
  cases what with
  | block blocked | desaloja blocked =>
    exact queda_de (q := q) (fun q' other => by simp [other]) (queda_de_otro blocked (by simp) (by simp))
  | susp_block suspended =>
    refine queda_de (q := q) (fun q' other => by simp [mover_a_susp_ready,other]) ⟨fun _ => .inr ?_,fun ready => ?_⟩
    · simp [mover_a_susp_ready]
    · simp [mover_a_susp_ready]
  | inesperado => exact queda_cancelar

theorem queda_siguiente {d : Efecto} (wakes : Siguiente q k d) : Queda k d.ks p := by
  cases wakes <;> exact queda_cancelar

theorem queda_liberar (pid i : Nat) : Queda k (liberar_mutex_del_proceso cfg hora pid i k).1 p := by
  have body : Bucle cfg hora pid (fun u => Queda k u p) (fun u _ => Queda k u p) :=
    { acaba := fun _ held => held
      suelta := fun _ i _ held _ _ _ => held.trans (queda_con_mutex i _)
      pausa := fun u i _ siguiente espera held _ _ _ _ =>
        held.trans ((queda_con_mutex i _).trans (queda_herencia (heredar_mutex_cases cfg i siguiente espera u)))
      sigue := fun u i _ siguiente espera _ held _ _ _ _ what =>
        have given := (queda_con_mutex i _).trans (queda_herencia (heredar_mutex_cases cfg i siguiente espera u))
        have done := (held.trans given).trans (queda_despierta what)
        ⟨fun _ => done,fun _ => done⟩ }
  exact liberar_mutex_del_proceso_rule body i (queda_igual rfl)

theorem mueve_queda {a : Accion} {e : Entrada} {r : Efecto} (move : Mueve cfg hora k a r) (good : en_su_lista cfg a e k = true)
    (known : ∀ q, Sitio cfg k q ∨ Fuera k q) (unborn : Fuera k k.proximo_pid) (other : ∀ i, a ≠ .sacar_de_susp_ready p i) :
    Queda k r.ks p := by
  have lista : ∀ c q, origen a k = some (c,q) → (k.procesos q).estado = estado_de c := by
    intro c q takes
    simp only [en_su_lista,takes,Option.all_some,Bool.and_eq_true,decide_eq_true_eq] at good
    exact (Sitio.of_mem (known q) good.1).estado
  have corre : ∀ q, q ∈ k.listas .lista_exec → (k.procesos q).estado = .EXEC := fun q runs => (Sitio.of_mem (known q) runs).estado
  have nace : ∀ v prioridad, Queda k (crear_proceso v prioridad k).ks p := by
    intro v prioridad
    refine queda_de (q := k.proximo_pid) (fun q' other => by simp [crear_proceso,other]) ?_
    rcases unborn.estado with new | dead
    · exact queda_de_otro new (by simp) (by simp)
    · exact queda_de_otro dead (by simp) (by simp)
  cases move with
  | crear_proceso_inicial => exact nace none 0
  | manejar_init_proc i prioridad => exact nace (some i) prioridad
  | mover_proceso_a_ready q desaloja one =>
    exact queda_de (q := q) (fun q' other => by simp [pasa_a_ready,other]) (queda_de_otro (lista .lista_new q rfl) (by simp [estado_de]) (by simp [estado_de]))
  | mover_proceso_de_block_a_ready q desaloja one =>
    exact queda_de (q := q) (fun q' other => by simp [pasa_a_ready,other]) (queda_de_otro (lista .lista_block q rfl) (by simp [estado_de]) (by simp [estado_de]))
  | sacar_de_susp_ready q i desaloja one =>
    have apart : p ≠ q := fun same => other i (by rw [same])
    exact queda_igual (by simp [pasa_a_ready,apart])
  | mover_a_susp_ready q =>
    refine queda_de (q := q) (fun q' other => by simp [mover_a_susp_ready,other]) ⟨fun _ => .inr ?_,fun _ => ?_⟩
    · simp [mover_a_susp_ready]
    · simp [mover_a_susp_ready]
  | planificar c q i cola libres served first free timer | planificar_timer c q i cola libres served first free timer =>
    have waits := (Sitio.of_mem (known q) (show q ∈ k.listas c by rw [first]; exact List.mem_cons_self)).estado
    have ready := de_estado_ready.mpr (de_ready_of_served served)
    exact queda_de (q := q) (fun q' other => by simp [other]) (queda_de_otro (waits.trans ready) (by simp) (by simp))
  | vence_suspension i q found valid blocked =>
    exact queda_de (q := q) (fun q' other => by simp [other]) (queda_de_otro blocked (by simp) (by simp))
  | desconectar_ociosa i idle => exact queda_igual (by rw [(quitar_cpu_libre_eq i k).2])
  | desconectar_ocupada i q busy desaloja one =>
    refine queda_de (q := q) (fun q' other => by simp [other,(quitar_cpu_libre_eq i k).2]) ?_
    exact queda_de_otro (corre q (List.mem_of_find?_eq_some busy)) (by simp) (by simp)
  | manejar_proceso_exit i q runs | manejar_seg_fault i q runs | manejar_fin_quantum i q runs | fin_quantum_invalido i q runs
  | fin_quantum_al_frente i q runs =>
    exact queda_de (q := q) (fun q' other => by simp [other]) (queda_de_otro (corre q runs) (by simp) (by simp))
  | bloquear_proceso q por =>
    exact queda_de (q := q) (fun q' other => by simp [bloquear_proceso,other])
      (queda_de_otro (lista .lista_exec q rfl) (by simp [estado_de]) (by simp [estado_de]))
  | bloquear_por_compactacion q =>
    exact queda_de (q := q) (fun q' other => by simp [bloquear_por_compactacion,other])
      (queda_de_otro (lista .lista_exec q rfl) (by simp [estado_de]) (by simp [estado_de]))
  | fin_compactacion q waiting =>
    exact queda_de (q := q) (fun q' other => by simp [other])
      (queda_de_otro (lista .lista_block q (by simp [origen,waiting])) (by simp [estado_de]) (by simp [estado_de]))
  | vence_quantum | vence_en_vano | fin_io_block | fin_io_susp_block | fin_io_inesperado => exact queda_cancelar
  | liberar_mutex_del_proceso pid i => exact queda_liberar pid i
  | ceder_mutex pid i q r what silent => exact (queda_despierta what).trans (queda_liberar pid (i + 1))
  | ceder_mutex_pausa pid i q r what pausa => exact queda_despierta what
  | manejar_io t q i v y kept =>
    obtain ⟨_,_,_,rfl⟩ := manejar_io_some kept
    exact queda_igual (by by_cases same : p = q <;> simp [same])
  | lock_espera q c i pid nombre m r found taken what =>
    rcases what with rfl | ⟨cmn,owner,inherits⟩
    · exact queda_igual rfl
    · exact (queda_con_mutex i _).trans (queda_herencia inherits)
  | unlock_sin_espera q c i nombre m t found empty what => exact (queda_con_mutex i _).trans (queda_devolucion what)
  | unlock_cede q c i siguiente espera nombre m t r found queue what d inherits silent wakes =>
    have woken : Queda r.1 d.ks p := queda_siguiente wakes
    exact (((queda_con_mutex i _).trans (queda_devolucion what)).trans (queda_herencia inherits)).trans woken
  | unlock_pausa q c i siguiente espera nombre m t r found queue what inherits pausa =>
    exact ((queda_con_mutex i _).trans (queda_devolucion what)).trans (queda_herencia inherits)
  | despertar_siguiente q d wakes => exact queda_siguiente wakes
  | _ => exact queda_igual rfl

/-! ## Exchanges about the swap -/

def suspende (p : Nat) : Pedido → Nat
  | .suspender_proceso q => if q = p then 1 else 0
  | _ => 0

/-- A thread asks for the process to be brought back, or has been told that it is. -/
def vuelve (p : Nat) : Accion → Nat
  | .pedir (.dessuspender_proceso q _) | .recibir (.dessuspender_proceso q _) | .sacar_de_susp_ready q _ => if q = p then 1 else 0
  | _ => 0

def saca (p : Nat) : Accion → Nat
  | .sacar_de_susp_ready q _ => if q = p then 1 else 0
  | _ => 0

/-- A thread is in an exchange with Kernel Memory about the swapping of the process. -/
def trueque (p : Nat) : Accion → Nat
  | .pedir (.suspender_proceso q) | .recibir (.suspender_proceso q) => if q = p then 1 else 0
  | a => vuelve p a

/-- Nobody asks for a process to be brought back while another exchange about it is under way. -/
def un_trueque (l : Paso) (v : Vigilado) : Bool :=
  match cima v.sistema l.hilo with
  | some (.leer_susp_ready i) =>
    ((v.sistema.ks.listas .lista_susp_ready)[i]?).all (fun p => total (trueque p) v.sistema.hilos = 0)
  | _ => true

structure Acuerdo (s : Sistema) : Prop where
  suspendido : ∀ p : Nat, 0 < por_servir (suspende p) s + (suspendidos s.memoria).count (p : Int) → Suspendido s.scheduler.sistema.ks p
  una_vez : ∀ p : Nat, (suspendidos s.memoria).count (p : Int) ≤ 1
  naturales : ∀ z ∈ suspendidos s.memoria, 0 ≤ z
  uno : ∀ p, total (vuelve p) s.scheduler.sistema.hilos ≤ 1
  vuelve : ∀ p, 0 < total (vuelve p) s.scheduler.sistema.hilos →
    (s.scheduler.sistema.ks.procesos p).estado = .SUSP_READY ∧ por_servir (suspende p) s = 0
  saca : ∀ p : Nat, 0 < total (saca p) s.scheduler.sistema.hilos → (p : Int) ∉ suspendidos s.memoria
  responde : ∀ (p i : Nat), 0 < total (espera (.dessuspender_proceso p i)) s.scheduler.sistema.hilos → .OK ∈ s.respuestas →
    (p : Int) ∉ suspendidos s.memoria

theorem inicial_acuerdo (segment_max_size : Int) (allocation_best_fit : Bool) (respuestas : Nat → Sticks.Respuesta) :
    Acuerdo (Kernels.inicial segment_max_size allocation_best_fit respuestas) where
  suspendido p some := by
    simp [suspendidos,KernelMemory.inicial,por_servir,Kernels.inicial,inicio,Handlers.inicial,en_pedir] at some
  una_vez p := by simp [suspendidos,KernelMemory.inicial,Kernels.inicial]
  naturales z listed := by cases listed
  uno p := by simp [Kernels.inicial,inicio,Handlers.inicial,SwapAgreement.vuelve]
  vuelve p some := by simp [Kernels.inicial,inicio,Handlers.inicial,SwapAgreement.vuelve] at some
  saca p some := by simp [Kernels.inicial,inicio,Handlers.inicial,SwapAgreement.saca] at some
  responde p i _ answered := by cases answered

theorem vuelve_callada {b : Accion} (silent : trata b = false) : vuelve p b = 0 := by
  cases b <;> first | rfl | cases silent

theorem saca_le (p : Nat) (b : Accion) : saca p b ≤ vuelve p b := by
  cases b <;> first | exact le_rfl | exact Nat.zero_le _

/-- The exchanges to bring a process back after a move: only a scan of lista_susp_ready begins one. -/
theorem vuelve_mueve {a : Accion} {r : Efecto} (gives : Encargo k a r) (p : Nat) :
    (weight (vuelve p) r.sigue + total (vuelve p) r.lanza ≤ vuelve p a ∧
      ∀ i, a = .sacar_de_susp_ready p i → weight (vuelve p) r.sigue + total (vuelve p) r.lanza = 0) ∨
      (∃ i, a = .leer_susp_ready i ∧ (k.listas .lista_susp_ready)[i]? = some p ∧ weight (vuelve p) r.sigue + total (vuelve p) r.lanza = 1) := by
  cases gives with
  | nada other plain sigue lanza =>
    left
    rw [callada_weight (fun _ => vuelve_callada) sigue,callada_total (fun _ => vuelve_callada) lanza]
    exact ⟨Nat.zero_le _,fun _ _ => rfl⟩
  | pide q free =>
    left
    cases q <;> simp [vuelve]
  | contesta q v =>
    refine .inl ⟨?_,fun i same => by cases same⟩
    cases q with
    | crear_proceso q' c => cases c <;> cases v <;> exact Nat.zero_le _
    | dessuspender_proceso q' i => cases v <;> simp [tras_respuesta,vuelve]
    | _ => cases v <;> exact Nat.zero_le _
  | encarga origin =>
    cases origin with
    | susp_ready i q here =>
      by_cases mine : q = p
      · subst mine
        exact .inr ⟨i,rfl,here,by simp [vuelve]⟩
      · left
        simp [vuelve,mine]
    | _ => exact .inl ⟨Nat.zero_le _,fun _ _ => rfl⟩
  | espera | anota | bloquea | termina => exact .inl ⟨Nat.zero_le _,fun _ _ => rfl⟩
  | desaloja silent =>
    left
    rw [weight_append,callada_weight (fun _ => vuelve_callada) silent]
    exact ⟨Nat.zero_le _,fun _ _ => rfl⟩

/-- Whoever is to be taken off lista_susp_ready was, or Kernel Memory has said that he is back. -/
theorem saca_mueve {a : Accion} {r : Efecto} (gives : Encargo k a r) (p : Nat) :
    (weight (saca p) r.sigue + total (saca p) r.lanza = 0) ∨ ∃ i, a = .recibir (.dessuspender_proceso p i) ∧
      r.sigue = tras_respuesta (.dessuspender_proceso p i) .OK := by
  have silent : ∀ {b : Accion}, trata b = false → saca p b = 0 := by
    intro b quiet
    exact Nat.le_zero.mp ((saca_le p b).trans (vuelve_callada quiet).le)
  cases gives with
  | nada other plain sigue lanza =>
    left
    rw [callada_weight (fun _ => silent) sigue,callada_total (fun _ => silent) lanza]
  | contesta q v =>
    cases q with
    | crear_proceso q' c => cases c <;> cases v <;> exact .inl rfl
    | dessuspender_proceso q' i =>
      by_cases mine : q' = p
      · subst mine
        cases v with
        | OK => exact .inr ⟨i,rfl,rfl⟩
        | _ => exact .inl rfl
      · left
        cases v <;> simp [tras_respuesta,saca,mine]
    | _ => cases v <;> exact .inl rfl
  | pide q free => exact .inl rfl
  | encarga origin => exact .inl rfl
  | espera | anota | bloquea | termina => exact .inl rfl
  | desaloja quiet =>
    left
    rw [weight_append,callada_weight (fun _ => silent) quiet]
    rfl

/-- Only a suspension asks for a process to be put in the swap. -/
theorem suspende_mueve {a : Accion} {r : Efecto} (move : Mueve cfg hora k a r) (p : Nat) :
    nuevos (suspende p) r = 0 ∨ (k.procesos p).estado = .BLOCK ∧ (r.ks.procesos p).estado = .SUSP_BLOCK ∧ ∃ i, a = .hilo_suspension i p := by
  rcases nuevos_cases (mueve_encargo move) (suspende p) with none | ⟨q,origin,same⟩
  · exact .inl none
  · cases origin with
    | suspension i q blocked =>
      by_cases mine : q = p
      · subst mine
        cases move with
        | vence_suspension => exact .inr ⟨blocked,by simp,i,rfl⟩
        | vence_en_vano _ _ valid other => exact absurd blocked other
        | suspension_vieja => exact .inl rfl
      · exact .inl (same.trans (if_neg mine))
    | _ => exact .inl same

theorem trueque_libre (canal : Canal s) (none : total (trueque p) s.scheduler.sistema.hilos = 0) :
    total (vuelve p) s.scheduler.sistema.hilos = 0 ∧ por_servir (suspende p) s = 0 := by
  have vuelve_le : ∀ b, vuelve p b ≤ trueque p b := by
    intro b
    cases b with
    | pedir q | recibir q => cases q <;> simp [trueque,vuelve]
    | _ => exact le_rfl
  have pide_le : ∀ b, en_pedir (suspende p) b ≤ trueque p b := by
    intro b
    cases b with
    | pedir q => cases q <;> simp [trueque,en_pedir,suspende]
    | _ => exact Nat.zero_le _
  have sent : weight (Mensaje.peso (suspende p)) s.pedidos = 0 := by
    refine weight_zero (fun b member => ?_)
    cases b with
    | confirmacion => rfl
    | pedido q =>
      have waits := canal.mio q member
      cases q with
      | suspender_proceso q =>
        by_cases mine : q = p
        · subst mine
          have less : total (espera (.suspender_proceso q)) s.scheduler.sistema.hilos ≤ total (trueque q) s.scheduler.sistema.hilos := by
            refine total_mono (fun b => ?_) _
            by_cases here : b = .recibir (.suspender_proceso q)
            · simp [here,espera,trueque]
            · simp [espera,here]
          omega
        · exact if_neg mine
      | _ => rfl
  have first := total_mono vuelve_le s.scheduler.sistema.hilos
  have second := total_mono pide_le s.scheduler.sistema.hilos
  rw [por_servir,sent]
  omega

/-- What a move adds to the waits for one answer: nothing, but for the request itself. -/
theorem espera_mueve {a : Accion} {r : Efecto} (gives : Encargo k a r) (other : ∀ q, a ≠ .pedir q) (q : Pedido) :
    weight (espera q) r.sigue + total (espera q) r.lanza = 0 := by
  have none : weight recibe r.sigue + total recibe r.lanza = 0 := by
    rw [recibe_mueve gives]
    cases a with
    | pedir q => exact absurd rfl (other q)
    | _ => rfl
  have first := weight_mono (espera_le q) r.sigue
  have second := total_mono (espera_le q) r.lanza
  omega

theorem mueve_acuerdo {l : Paso} {a : Accion} {resto : Pila} {r : Efecto} (canal : Canal s) (custodia : Custodia cfg s.scheduler)
    (calm : s.scheduler.sistema.ks.bsod_activo = false) (held : Acuerdo s) (one : Kernels.Avanza cfg l s.scheduler t.scheduler a resto r)
    (crosses : Cruza s t l a) (good : al_mover (en_su_lista cfg) l s.scheduler.sistema = true)
    (single : un_trueque l s.scheduler = true) : Acuerdo t := by
  have move := one.avanza.move
  have gives := mueve_encargo move
  have top := cima_of_here one.avanza.here
  have good : en_su_lista cfg a l.entrada s.scheduler.sistema.ks = true := by simpa [al_mover,top] using good
  have kernel : t.scheduler.sistema.ks = r.ks := by rw [one.avanza.result]
  have hilos : t.scheduler.sistema.hilos = advance s.scheduler.sistema.hilos l.hilo r.sigue resto r.lanza := by rw [one.avanza.result]
  have sum : ∀ f : Accion → Nat, total f t.scheduler.sistema.hilos + f a =
      total f s.scheduler.sistema.hilos + weight f r.sigue + total f r.lanza := by
    intro f
    rw [hilos]
    exact total_advance f one.avanza.here r.sigue r.lanza
  have counts := por_servir_mueve one crosses
  have memoria := crosses.memoria
  have known := custodia.known calm
  have unborn := custodia.newborn calm
  have keeps : ∀ p, (∀ i, a ≠ .sacar_de_susp_ready p i) → Queda s.scheduler.sistema.ks t.scheduler.sistema.ks p := by
    intro p other
    rw [kernel]
    exact mueve_queda move good known unborn other
  have consumed : ∀ f : Accion → Nat, f a ≤ total f s.scheduler.sistema.hilos := fun f => item_le_total f one.avanza.here
  -- whoever is being taken off lista_susp_ready is the only exchange about his process
  have taken : ∀ p i, a = .sacar_de_susp_ready p i → total (vuelve p) t.scheduler.sistema.hilos = 0 := by
    rintro p i rfl
    have once := held.uno p
    have same := sum (vuelve p)
    have mine : vuelve p (.sacar_de_susp_ready p i) = 1 := if_pos rfl
    rcases vuelve_mueve gives p with ⟨-,none⟩ | ⟨j,other,-⟩
    · have none := none i rfl
      omega
    · cases other
  have begins : ∀ p, total (vuelve p) t.scheduler.sistema.hilos ≤ total (vuelve p) s.scheduler.sistema.hilos ∨
      (total (vuelve p) t.scheduler.sistema.hilos = 1 ∧ por_servir (suspende p) s = 0 ∧
        (s.scheduler.sistema.ks.procesos p).estado = .SUSP_READY) := by
    intro p
    have same := sum (vuelve p)
    rcases vuelve_mueve gives p with ⟨less,-⟩ | ⟨i,rfl,here,new⟩
    · left
      omega
    · right
      have alone : total (trueque p) s.scheduler.sistema.hilos = 0 := by simpa [un_trueque,top,here] using single
      obtain ⟨none,unasked⟩ := trueque_libre canal alone
      have mine : vuelve p (.leer_susp_ready i) = 0 := rfl
      exact ⟨by omega,unasked,(Sitio.of_mem (known p) (List.mem_of_getElem? here)).estado⟩
  refine ⟨?_,?_,?_,?_,?_,?_,?_⟩
  case refine_1 =>
    intro p some
    rw [memoria,counts] at some
    rcases suspende_mueve move p with none | ⟨-,blocked,-⟩
    · by_cases leaves : ∃ i, a = .sacar_de_susp_ready p i
      · obtain ⟨i,rfl⟩ := leaves
        have mine : saca p (.sacar_de_susp_ready p i) = 1 := if_pos rfl
        have less := consumed (saca p)
        have back := consumed (vuelve p)
        have mine' : vuelve p (.sacar_de_susp_ready p i) = 1 := if_pos rfl
        have absent := List.count_eq_zero.mpr (held.saca p (by omega))
        have unasked := (held.vuelve p (by omega)).2
        omega
      · exact (keeps p (fun i same => leaves ⟨i,same⟩)).suspendido (held.suspendido p (by omega))
    · rw [kernel]
      exact .inl blocked
  case refine_2 =>
    intro p
    rw [memoria]
    exact held.una_vez p
  case refine_3 =>
    intro z listed
    exact held.naturales z (memoria ▸ listed)
  case refine_4 =>
    intro p
    have once := held.uno p
    rcases begins p with less | ⟨one,-⟩ <;> omega
  case refine_5 =>
    intro p some
    have stays : ∀ i, a ≠ .sacar_de_susp_ready p i := by
      intro i same
      have none := taken p i same
      omega
    have before : (s.scheduler.sistema.ks.procesos p).estado = .SUSP_READY ∧ por_servir (suspende p) s = 0 := by
      rcases begins p with less | ⟨-,unasked,ready⟩
      · exact held.vuelve p (by omega)
      · exact ⟨ready,unasked⟩
    refine ⟨(keeps p stays).ready before.1,?_⟩
    rw [counts,before.2,Nat.zero_add]
    rcases suspende_mueve move p with none | ⟨blocked,-⟩
    · exact none
    · rw [before.1] at blocked
      cases blocked
  case refine_6 =>
    intro p some
    rw [memoria]
    have same := sum (saca p)
    rcases saca_mueve gives p with none | ⟨i,rfl,sigue⟩
    · exact held.saca p (by omega)
    · cases crosses with
      | recibe q v read value kept =>
        have effect := one.avanza.effect
        rw [value] at effect
        have effect : (⟨_,tras_respuesta (.dessuspender_proceso p i) v,[]⟩ : Efecto) = r := Option.some.inj effect
        rw [← effect] at sigue
        have ok : v = .OK := by cases v <;> first | rfl | cases sigue
        subst ok
        refine held.responde p i ?_ (by rw [read]; exact List.mem_cons_self)
        have mine := consumed (espera (.dessuspender_proceso p i))
        rwa [espera,if_pos rfl] at mine
      | nada other => exact absurd rfl (other.2.2.1 _)
  case refine_7 =>
    intro p i waiting answered
    rw [memoria]
    have same := sum (espera (.dessuspender_proceso p i))
    have old : .OK ∈ s.respuestas := by
      cases crosses with
      | recibe q v read value kept =>
        rw [read]
        exact List.mem_cons_of_mem _ answered
      | pide q sent kept | confirma sent kept | oye x read value kept | nada other kept =>
        simp only [Prod.mk.injEq] at kept
        simpa [kept] using answered
    refine held.responde p i ?_ old
    by_cases asks : ∃ q, a = .pedir q
    · obtain ⟨q,rfl⟩ := asks
      have free : s.scheduler.sistema.ks.mutex_pedidos_memoria = false := by
        cases move with
        | pedir q free => exact free
      have nobody := canal.cerrojo
      have balance := canal.uno
      have answers := List.length_pos_of_mem old
      rw [free] at nobody
      simp only [Bool.false_eq_true,if_false] at nobody
      omega
    · have none := espera_mueve gives (fun q same => asks ⟨q,same⟩) (.dessuspender_proceso p i)
      omega

/-! ## What Kernel Memory does with a request -/

variable {m : Memoria}

/-- The processes in the swap after a request is served. -/
inductive Cambia (l l' : List Int) (v : Respuesta) : Pedido → Prop where
  | nada {q : Pedido} (same : l' = l) (other : ∀ p i, q = .dessuspender_proceso p i → v ≠ .OK) : Cambia l l' v q
  | suspende (p : Nat) (absent : (p : Int) ∉ l) (added : l' = l ++ [(p : Int)]) : Cambia l l' v (.suspender_proceso p)
  | vuelve (p i : Nat) (erased : l' = l.erase (p : Int)) : Cambia l l' v (.dessuspender_proceso p i)
  | finaliza (p : Nat) (c : Option Nat) (erased : l' = l.erase (p : Int)) : Cambia l l' v (.finalizar_proceso p c)

theorem servir_cambia (x : Anexo) (q : Pedido) (m : Memoria) :
    Cambia (suspendidos m) (suspendidos (servir x q m).2) (servir x q m).1 q := by
  cases q with
  | finalizar_proceso p c => exact .finaliza p c suspendidos_finalizar
  | suspender_proceso p =>
    rcases (@suspender_conserva m (p : Int)).2 with same | ⟨absent,added⟩
    · exact .nada same (by simp)
    · exact .suspende p absent added
  | dessuspender_proceso p i =>
    have what := (@dessuspender_conserva m (p : Int)).2
    split_ifs at what with ok
    · exact .vuelve p i what
    · refine .nada what (fun _ _ _ answered => ?_)
      simp [servir,codigo,ok] at answered
  | crear_segmento p c id_segmento tamanio => exact .nada segmento_crear_conserva.2 (by simp)
  | eliminar_segmento p c id_segmento => exact .nada segmento_eliminar_conserva.2 (by simp)
  | crear_proceso | escribir_datos | leer_datos => exact .nada rfl (by simp)

/-- The thread whose request is served is the only one that waits. -/
theorem espera_of_sirve {q : Pedido} {rest : List Mensaje} (canal : Canal s) (taken : s.pedidos = .pedido q :: rest) :
    s.respuestas = [] ∧ ∀ q', 0 < total (espera q') s.scheduler.sistema.hilos → q' = q := by
  have mine := canal.mio q (by rw [taken]; exact List.mem_cons_self)
  refine ⟨?_,fun q' waiting => espera_sola canal mine waiting⟩
  have uno := canal.uno
  rw [taken,weight_cons,Mensaje.peso,canal.cerrojo] at uno
  refine List.eq_nil_of_length_eq_zero ?_
  split_ifs at uno <;> omega

theorem atiende_acuerdo (canal : Canal s) (held : Acuerdo s) (same : t.scheduler = s.scheduler) (serves : Atiende orden x s t) :
    Acuerdo t := by
  obtain ⟨suspendido,una_vez,naturales,uno,vuelve,saca,responde⟩ := held
  have fewer : ∀ f, por_servir f t ≤ por_servir f s := by
    intro f
    obtain ⟨b,taken⟩ := serves.toma
    have counts := por_servir_toma same taken f
    omega
  have kept : suspendidos t.memoria = suspendidos s.memoria → t.respuestas = s.respuestas → Acuerdo t := by
    intro swap answers
    refine ⟨?_,?_,?_,?_,?_,?_,?_⟩ <;> try rw [same]
    · intro p some
      rw [swap] at some
      exact suspendido p (by have less := fewer (suspende p); omega)
    · exact swap ▸ una_vez
    · exact swap ▸ naturales
    · exact uno
    · intro p some
      exact ⟨(vuelve p some).1,by have less := fewer (suspende p); have none := (vuelve p some).2; omega⟩
    · exact swap ▸ saca
    · rw [answers,swap]
      exact responde
  cases serves with
  | ignora idle taken kept' =>
    simp only [Prod.mk.injEq] at kept'
    exact kept (by rw [kept'.1]) kept'.2.1
  | compacta q waits taken memoria avisos answers done => exact kept (by rw [memoria,compactar_conserva.2]) answers
  | sirve q idle taken memoria answer avisos waits =>
    obtain ⟨silent,sole⟩ := espera_of_sirve canal taken
    have what := servir_cambia x q s.memoria
    rw [← memoria] at what
    have counts := fun p => por_servir_toma same taken (suspende p)
    have waiting : ∀ p i, 0 < total (espera (.dessuspender_proceso p i)) s.scheduler.sistema.hilos → .OK ∈ t.respuestas →
        q = .dessuspender_proceso p i ∧ (servir x q s.memoria).1 = .OK := by
      intro p i some answered
      rw [answer,silent,List.nil_append,List.mem_singleton] at answered
      exact ⟨(sole _ some).symm,answered.symm⟩
    have count : ∀ p : Nat, por_servir (suspende p) t + (suspendidos t.memoria).count (p : Int) ≤
        por_servir (suspende p) s + (suspendidos s.memoria).count (p : Int) := by
      intro p
      have counts := counts p
      cases what with
      | nada same other =>
        rw [same]
        omega
      | suspende p' absent added =>
        rw [added,List.count_append,List.count_singleton]
        simp only [Mensaje.peso,suspende] at counts
        by_cases mine : p' = p
        · simp only [mine,if_true,beq_self_eq_true] at counts ⊢
          omega
        · simp only [beq_iff_eq,Nat.cast_inj,if_neg mine] at counts ⊢
          omega
      | vuelve p' i erased | finaliza p' c erased =>
        have fewer : ((suspendidos s.memoria).erase (p' : Int)).Sublist (suspendidos s.memoria) := List.erase_sublist
        have less := fewer.count_le (p : Int)
        rw [erased]
        omega
    have subset : ∀ z ∈ suspendidos t.memoria, z ∈ suspendidos s.memoria ∨ ∃ p : Nat, z = p ∧ q = .suspender_proceso p := by
      intro z listed
      cases what with
      | nada same other => exact .inl (same ▸ listed)
      | suspende p' absent added =>
        rw [added,List.mem_append,List.mem_singleton] at listed
        exact listed.imp_right (fun new => ⟨p',new,rfl⟩)
      | vuelve p' i erased | finaliza p' c erased => exact .inl (List.mem_of_mem_erase (erased ▸ listed))
    refine ⟨?_,?_,?_,?_,?_,?_,?_⟩ <;> try rw [same]
    · intro p some
      exact suspendido p (some.trans_le (count p))
    · intro p
      have once := una_vez p
      cases what with
      | nada same other => rwa [same]
      | suspende p' absent added =>
        rw [added,List.count_append,List.count_singleton]
        by_cases mine : p' = p
        · subst mine
          rw [List.count_eq_zero.mpr absent]
          simp
        · simp [mine,once]
      | vuelve p' i erased | finaliza p' c erased =>
        rw [erased]
        exact (List.erase_sublist.count_le _).trans once
    · intro z listed
      rcases subset z listed with old | ⟨p,rfl,-⟩
      · exact naturales z old
      · exact Int.natCast_nonneg p
    · exact uno
    · intro p some
      obtain ⟨ready,none⟩ := vuelve p some
      exact ⟨ready,by have less := fewer (suspende p); omega⟩
    · intro p some listed
      rcases subset p listed with old | ⟨p',number,rfl⟩
      · exact saca p some old
      · obtain rfl := Int.natCast_inj.mp number
        have unasked := (vuelve p (some.trans_le (total_mono (saca_le p) _))).2
        have asked := counts p
        simp only [Mensaje.peso,suspende,if_true] at asked
        omega
    · intro p i some answered listed
      obtain ⟨rfl,ok⟩ := waiting p i some answered
      rw [ok] at what
      cases what with
      | nada same other => exact other p i rfl rfl
      | vuelve p' i' erased =>
        have once := una_vez p
        have none : (suspendidos t.memoria).count (p : Int) = 0 := by
          rw [erased,List.count_erase_self]
          omega
        exact List.count_eq_zero.mp none listed

/-! ## Runs -/

/-- The process that a move takes off a list is there, and nobody asks for one to be brought back in the middle of another
    exchange about it. -/
def UnTrueque (cfg : Config) (u : Turno) (s : Sistema) : Prop :=
  EnSuLista cfg u s ∧ al_scheduler (fun l v => un_trueque l v = true) u s

instance : ∀ u s, Decidable (UnTrueque cfg u s) := fun _ _ => inferInstanceAs (Decidable (_ ∧ _))

structure Tratos (cfg : Config) (s : Sistema) : Prop where
  censo : Censo cfg s
  acuerdo : s.scheduler.sistema.ks.bsod_activo = false → Acuerdo s

theorem paso_tratos (u : Turno) (s t : Sistema) (held : Tratos cfg s) (good : UnTrueque cfg u s) (moved : paso cfg orden u s = some t) :
    Tratos cfg t := by
  refine ⟨paso_censo u s t held.censo good.1 moved,fun outside => ?_⟩
  cases u with
  | scheduler l =>
    obtain ⟨a,resto,r,one,crosses⟩ := mueve_scheduler_cases moved
    have calm : s.scheduler.sistema.ks.bsod_activo = false := by
      rw [one.avanza.result] at outside
      exact (mueve_bsod one.avanza.move outside).1
    exact mueve_acuerdo held.censo.canal held.censo.custodia calm (held.acuerdo calm) one crosses good.1 good.2
  | memoria x =>
    obtain ⟨same,serves⟩ := atender_ks_cases moved
    exact atiende_acuerdo held.censo.canal (held.acuerdo (same ▸ outside)) same serves
  | modulo e =>
    cases moved
    obtain ⟨suspendido,una_vez,naturales,uno,vuelve,saca,responde⟩ := held.acuerdo outside
    have swap := (modulo_conserva (m := s.memoria) e).2
    refine ⟨?_,?_,?_,uno,vuelve,?_,?_⟩ <;> dsimp only <;> rw [swap] <;> assumption

theorem acuerdo_of_run {segment_max_size : Int} {allocation_best_fit : Bool} {respuestas : Nat → Sticks.Respuesta}
    {turnos : List Turno}
    (guarded : Guarded (paso cfg orden) (UnTrueque cfg) turnos (Kernels.inicial segment_max_size allocation_best_fit respuestas))
    (reached : run (paso cfg orden) turnos (Kernels.inicial segment_max_size allocation_best_fit respuestas) = some s)
    (outside : s.scheduler.sistema.ks.bsod_activo = false) : Acuerdo s := by
  have start : Tratos cfg (Kernels.inicial segment_max_size allocation_best_fit respuestas) :=
    ⟨inicial_censo segment_max_size allocation_best_fit respuestas,fun _ => inicial_acuerdo segment_max_size allocation_best_fit respuestas⟩
  exact (invariant_of_guarded paso_tratos start guarded reached).acuerdo outside

namespace Acuerdo

theorem listado (held : Acuerdo s) {z : Int} (listed : z ∈ suspendidos s.memoria) :
    ∃ p : Nat, z = p ∧ Suspendido s.scheduler.sistema.ks p := by
  have natural := Int.toNat_of_nonneg (held.naturales z listed)
  have here := List.count_pos_iff.mpr listed
  refine ⟨z.toNat,natural.symm,held.suspendido z.toNat ?_⟩
  rw [natural]
  omega

theorem nodup (held : Acuerdo s) : (suspendidos s.memoria).Nodup := by
  refine List.nodup_iff_count_le_one.mpr (fun z => ?_)
  by_cases listed : z ∈ suspendidos s.memoria
  · have once := held.una_vez z.toNat
    rwa [Int.toNat_of_nonneg (held.naturales z listed)] at once
  · rw [List.count_eq_zero.mpr listed]
    exact Nat.zero_le 1

end Acuerdo

/-- In a run of both kernels in which the process that a move of the scheduler takes off a list is there, and in which nobody
    asks for a process to be brought back in the middle of another exchange about it, outside a BSOD no process is in the
    swap twice, and whoever is there, or has been asked to go there, is suspended for the scheduler. -/
theorem swapped_are_suspended {segment_max_size : Int} {allocation_best_fit : Bool} {respuestas : Nat → Sticks.Respuesta}
    {turnos : List Turno} {s : Sistema}
    (guarded : Guarded (paso cfg orden) (UnTrueque cfg) turnos (Kernels.inicial segment_max_size allocation_best_fit respuestas))
    (reached : run (paso cfg orden) turnos (Kernels.inicial segment_max_size allocation_best_fit respuestas) = some s)
    (outside : s.scheduler.sistema.ks.bsod_activo = false) :
    (suspendidos s.memoria).Nodup ∧ (∀ z ∈ suspendidos s.memoria, ∃ p : Nat, z = p ∧ Suspendido s.scheduler.sistema.ks p) ∧
      ∀ p, 0 < por_servir (suspende p) s → Suspendido s.scheduler.sistema.ks p := by
  have held := acuerdo_of_run guarded reached outside
  exact ⟨held.nodup,fun _ => held.listado,fun p some => held.suspendido p (by omega)⟩

/-- Kernel Memory has a swap of two blocks, and both kernels go on. -/
def con_swap (pasos : List Paso) : List Turno := .modulo (.swap_registrar 5 2 10) :: con_memoria pasos

/-- Process 0 sleeps until it is put in the swap. -/
theorem swapped_are_suspended_siesta : ∃ s, run (paso fifo Sorting.insertion_sorter)
      (con_swap (siesta ++ turnos 4 2 ++ [{ hilo := 4, entrada := .respuesta .OK }])) (Kernels.inicial 64 true (fun _ => .responde)) = some s ∧
    suspendidos s.memoria = [0] ∧ Suspendido s.scheduler.sistema.ks 0 := by
  have ends : (run (paso fifo Sorting.insertion_sorter) (con_swap (siesta ++ turnos 4 2 ++ [{ hilo := 4, entrada := .respuesta .OK }]))
      (Kernels.inicial 64 true (fun _ => .responde))).map (fun s => (s.scheduler.sistema.ks.bsod_activo,suspendidos s.memoria)) =
      some (false,[0]) := by decide +kernel
  obtain ⟨s,reached,ends⟩ := Option.map_eq_some_iff.mp ends
  obtain ⟨outside,swapped⟩ := Prod.mk.inj ends
  obtain ⟨-,suspended,-⟩ := swapped_are_suspended (by decide +kernel) reached outside
  obtain ⟨p,number,suspended⟩ := suspended 0 (by simp [swapped])
  obtain rfl := Int.natCast_inj.mp number
  exact ⟨s,reached,swapped,suspended⟩

/-- In such a run the processes that Kernel Memory keeps in the swap are suspended for the scheduler, in every state and not only
    when all requests have been answered; so one that is ready, runs or is blocked has its segments in memory. -/
theorem active_in_memory {segment_max_size : Int} {allocation_best_fit : Bool} {respuestas : Nat → Sticks.Respuesta}
    {turnos : List Turno} {s : Sistema}
    (guarded : Guarded (paso cfg orden) (UnTrueque cfg) turnos (Kernels.inicial segment_max_size allocation_best_fit respuestas))
    (reached : run (paso cfg orden) turnos (Kernels.inicial segment_max_size allocation_best_fit respuestas) = some s)
    (outside : s.scheduler.sistema.ks.bsod_activo = false) :
    (∀ z ∈ suspendidos s.memoria, ∃ p : Nat, z = p ∧ Suspendido s.scheduler.sistema.ks p) ∧
      ∀ p : Nat, (s.scheduler.sistema.ks.procesos p).estado ∈ [.READY,.EXEC,.BLOCK] → (p : Int) ∉ suspendidos s.memoria := by
  have held := acuerdo_of_run guarded reached outside
  refine ⟨fun _ => held.listado,fun p active listed => ?_⟩
  obtain ⟨q,same,suspended⟩ := held.listado listed
  obtain rfl := Int.natCast_inj.mp same
  rcases suspended with blocked | ready
  · simp [blocked] at active
  · simp [ready] at active

theorem active_in_memory_siesta : ∃ s, run (paso fifo Sorting.insertion_sorter) (con_swap siesta)
      (Kernels.inicial 64 true (fun _ => .responde)) = some s ∧ (s.scheduler.sistema.ks.procesos 0).estado = .BLOCK ∧
    (0 : Int) ∉ suspendidos s.memoria := by
  have ends : (run (paso fifo Sorting.insertion_sorter) (con_swap siesta) (Kernels.inicial 64 true (fun _ => .responde))).map
      (fun s => (s.scheduler.sistema.ks.bsod_activo,(s.scheduler.sistema.ks.procesos 0).estado)) = some (false,.BLOCK) := by
    decide +kernel
  obtain ⟨s,reached,ends⟩ := Option.map_eq_some_iff.mp ends
  obtain ⟨outside,blocked⟩ := Prod.mk.inj ends
  obtain ⟨-,active⟩ := active_in_memory (by decide +kernel) reached outside
  exact ⟨s,reached,blocked,active 0 (by simp [blocked])⟩

/-- A request to Kernel Memory is still to be sent or to be answered. -/
def pendiente : Accion → Bool
  | .pedir _ | .recibir _ => true
  | _ => false

/-- The device is done with process 0 before its suspension is asked for. The process is brought back first, and is put in the
    swap while it is ready. -/
theorem swapped_and_ready : ∃ s, run (paso fifo Sorting.insertion_sorter)
      (con_swap (siesta ++ turnos 4 1 ++ [{ hilo := 5, entrada := .respuesta_io true }] ++ turnos 5 6 ++
        [{ hilo := 5, entrada := .respuesta .OK }] ++ turnos 5 1 ++ turnos 4 1 ++ [{ hilo := 4, entrada := .respuesta .OK }]))
      (Kernels.inicial 64 true (fun _ => .responde)) = some s ∧
    s.scheduler.sistema.ks.bsod_activo = false ∧ s.scheduler.sistema.hilos.all (fun pila => pila.all (fun a => !pendiente a)) = true ∧
    suspendidos s.memoria = [0] ∧ (s.scheduler.sistema.ks.procesos 0).estado = .READY ∧
    s.scheduler.sistema.ks.listas .lista_ready = [0] := by
  have ends : (run (paso fifo Sorting.insertion_sorter)
      (con_swap (siesta ++ turnos 4 1 ++ [{ hilo := 5, entrada := .respuesta_io true }] ++ turnos 5 6 ++
        [{ hilo := 5, entrada := .respuesta .OK }] ++ turnos 5 1 ++ turnos 4 1 ++ [{ hilo := 4, entrada := .respuesta .OK }]))
      (Kernels.inicial 64 true (fun _ => .responde))).map
      (fun s => (s.scheduler.sistema.ks.bsod_activo,s.scheduler.sistema.hilos.all (fun pila => pila.all (fun a => !pendiente a)),
        suspendidos s.memoria,(s.scheduler.sistema.ks.procesos 0).estado,s.scheduler.sistema.ks.listas .lista_ready)) =
      some (false,true,[0],.READY,[0]) := by decide +kernel
  obtain ⟨s,reached,ends⟩ := Option.map_eq_some_iff.mp ends
  simp only [Prod.mk.injEq] at ends
  exact ⟨s,reached,ends⟩

end PlugNPray.SwapAgreement
