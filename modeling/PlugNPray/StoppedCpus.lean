import PlugNPray.KernelsAndCpus

/-!
The CPUs while Kernel Memory compacts. The scheduler interrupts them and confirms at once; where every process that still runs
has sent the message with which it leaves its CPU, no CPU goes on until the compaction ends.
-/
namespace PlugNPray.StoppedCpus
open PlugNPray.Scheduler PlugNPray.Handlers PlugNPray.ReadyQueues PlugNPray.Moves PlugNPray.Stacks PlugNPray.Runs
open PlugNPray.ProcessLists PlugNPray.Sorting PlugNPray.CpuPlaces PlugNPray.CpuDuties
open PlugNPray.CpuAccounts PlugNPray.CpuSessions PlugNPray.SessionMoves PlugNPray.Conversations PlugNPray.KernelsAndCpus
open PlugNPray.Kernels (Anexo Mensaje atender_ks_cases)
open PlugNPray.CpuTurns (Cpu Modo leer instruir revisar irse)

/-! ## CPUs that have stopped -/

def es_ejecutar : CpuTurns.Mensaje → Bool
  | .ejecutar _ => true
  | _ => false

/-- The thread is about to send OP_BLOQUEADO to the CPU. -/
def bloqueara (k : Nat) (b : Accion) : Nat := if b = .enviar_respuesta k .BLOQUEADO then 1 else 0

/-- The CPU has gone, or it has no process and none is on its way to it, or it waits for an answer that is OP_BLOQUEADO. -/
def Parada (hilos : List Pila) (k : Nat) (c : Cpu) : Prop :=
  c.modo = .ida ∨ c.socket_ks.countP es_ejecutar = 0 ∧ total (despachada k) hilos = 0 ∧
    (c.modo = .principal ∨ aguarda c.modo = 1 ∧ 0 < total (bloqueara k) hilos + c.socket_ks.count (.respuesta .BLOQUEADO))

/-- The message with which a process leaves its CPU, or the part of it that says so. -/
def es_fin : Entrada → Bool
  | .codigo c => c ≠ .proceso_syscall
  | .llamada _ (.io _) => true
  | _ => false

/-- The thread handles such a message, or is to block the process. -/
def retira (p k : Nat) : Accion → Bool
  | .consultar_bsod j _ | .manejar_proceso_exit j | .manejar_seg_fault j | .manejar_fin_quantum j => j = k
  | .bloquear_proceso q _ | .esperar_planificacion q | .anotar_espera q | .bloquear_por_compactacion q => q = p
  | _ => false

/-- The process has sent FIN_QUANTUM, EXIT, SEG_FAULT or a call that blocks it, or its CPU has gone. -/
def avisado (v : Conjunto) (p k : Nat) : Bool :=
  decide ((v.cpus k).modo = .ida) || (v.a_ks k).any es_fin ||
    v.kernels.scheduler.sistema.hilos.any (fun pila => pila.any (retira p k))

/-- So has every process of lista_exec. -/
def desalojados (v : Conjunto) : Bool :=
  (v.kernels.scheduler.sistema.ks.listas .lista_exec).all (fun p =>
    (v.kernels.scheduler.sistema.ks.procesos p).cpu.all (fun k => avisado v p k))

/-- A move that takes a process off a list finds it there, and the OP_OK goes out when nobody is left to stop. -/
def Espera (cfg : Config) : Turno → Conjunto → Prop
  | .scheduler l, v => al_mover (en_su_lista cfg) l v.kernels.scheduler.sistema = true ∧
      (cima v.kernels.scheduler.sistema l.hilo = some .enviar_confirmacion → desalojados v = true)
  | _, _ => True


variable {cfg : Config} {orden : Sorter} {s : Ks} {d k p : Nat} {pila : Pila} {c : Cpu} {l : List Entrada} {mio : Nat → Prop} {ida : Prop}
  {ps : List Parte}

/-! ## A CPU whose process has said that it leaves -/

/-- What becomes of the process is for the thread to say, and the CPU waits for no answer about it. -/
def libre (b : Accion) : Nat := pendiente b - debe b

def avisa (b : Accion) : Nat := if anuncia b then 1 else 0

theorem debe_libre (b : Accion) : debe b + libre b ≤ pendiente b + avisa b := by
  cases b with
  | enviar_respuesta j v => cases v <;> simp [debe,libre,pendiente,avisa,anuncia,atendida]
  | pedir q | recibir q => simp only [debe,libre,pendiente,avisa,anuncia]; omega
  | _ => simp [debe,libre,pendiente,avisa,anuncia,atendida]

theorem libre_le (b : Accion) : libre b ≤ pendiente b := Nat.sub_le _ _

def retirada (p k : Nat) (b : Accion) : Nat := if retira p k b then 1 else 0

theorem por_leer_libre (p k : Nat) (pila : Pila) :
    (pila.flatMap por_leer).count .llamada + weight (retirada p k) pila ≤ weight libre pila := by
  induction pila with
  | nil => exact le_rfl
  | cons b rest ih =>
    have first : (por_leer b).count .llamada + retirada p k b ≤ libre b := by
      cases b with
      | consultar_bsod j | manejar_proceso_exit j | manejar_seg_fault j | manejar_fin_quantum j =>
        by_cases mine : j = k <;> simp [por_leer,retirada,retira,libre,pendiente,debe,atendida,mine]
      | bloquear_proceso q | esperar_planificacion q | anotar_espera q | bloquear_por_compactacion q =>
        by_cases mine : q = p <;> simp [por_leer,retirada,retira,libre,pendiente,debe,atendida,mine]
      | manejar_syscall j => exact le_rfl
      | _ => exact Nat.zero_le _
    rw [List.flatMap_cons,List.count_append,weight_cons,weight_cons]
    omega

theorem mensajes_cuenta (whole : Mensajes mio ida l) : l.countP es_op = l.countP pregunta + l.countP es_fin := by
  induction whole with
  | nada | corte => rfl
  | fin ends mine rest ih =>
    simp only [List.countP_cons,es_op,pregunta,es_fin,ends.1,ih,ne_eq,not_false_eq_true,decide_true]
    simp
    omega
  | @llamada p tipo e l known mine plain rest ih =>
    obtain ⟨code,asks,-⟩ := argumento_plano plain
    have ends : es_fin e = false := by cases e <;> first | rfl | cases plain
    simp only [List.countP_cons,code,asks,ends,ih]
    cases tipo <;> first | exact absurd rfl known | (simp [es_op,pregunta,es_fin]; omega)

theorem oye_cuenta (hears : Oye mio ida ps l) : l.countP es_op + ps.count .llamada = l.countP pregunta + l.countP es_fin := by
  induction hears with
  | mensajes whole => simpa using mensajes_cuenta whole
  | pid mine rest ih => simpa [List.countP_cons,es_op,pregunta,es_fin] using ih
  | @llamada p tipo ps l known mine rest ih =>
    rw [List.count_cons_self,List.countP_cons,List.countP_cons,List.countP_cons]
    cases tipo <;> first | exact absurd rfl known | (simp [es_op,pregunta,es_fin]; omega)
  | @argumentos e ps l plain rest ih =>
    obtain ⟨code,asks,-⟩ := argumento_plano plain
    have ends : es_fin e = false := by cases e <;> first | rfl | cases plain
    simpa [List.countP_cons,code,asks,ends] using ih

theorem ejecutar_vale (m : List CpuTurns.Mensaje) : m.countP es_ejecutar ≤ m.countP vale := by
  refine List.countP_mono_left (fun x _ runs => ?_)
  cases x <;> first | rfl | cases runs

/-- Without any that lets the CPU go on the answers are OP_BLOQUEADO. -/
theorem respuestas_bloqueadas {m : List CpuTurns.Mensaje} (none : m.countP vale = 0) :
    m.countP es_respuesta ≤ m.count (.respuesta .BLOQUEADO) := by
  rw [List.count_eq_countP]
  refine List.countP_mono_left (fun x member answers => ?_)
  have worthless := List.countP_eq_zero.mp none x member
  cases x with
  | respuesta v => simpa using worthless
  | _ => cases answers

/-- Nothing is left for the CPU to go on with, and all that it is owed is OP_BLOQUEADO. -/
theorem parada_de_sesion {hilos : List Pila} (held : Sesion s (total (despacho s k) hilos) k pila c l) (alive : c.modo ≠ .ida)
    (idle : total (despacho s k) hilos + en_vista c = 0) (asks : l.countP pregunta = 0)
    (owes : weight debe pila ≤ total (bloqueara k) hilos) : Parada hilos k c := by
  rw [en_vista,if_neg alive] at idle
  have owed := held.deuda alive
  have runs := ejecutar_vale c.socket_ks
  have answers := respuestas_bloqueadas (m := c.socket_ks) (by omega)
  have sends : total (despachada k) hilos ≤ total (despacho s k) hilos := by
    refine total_mono (fun b => ?_) hilos
    cases b <;> first | exact le_rfl | exact Nat.zero_le _
  refine .inr ⟨by omega,by omega,?_⟩
  cases mode : c.modo with
  | ida => exact absurd mode alive
  | principal => exact .inl rfl
  | recibir_respuesta q tipo =>
    rw [mode] at owed
    simp only [aguarda] at owed
    exact .inr ⟨rfl,by omega⟩
  | ejecuta q | check_interrupt q =>
    rw [mode] at idle
    simp [en_marcha] at idle

section one
variable {v : Planificador} {cpus : Nat → Cpu} {a_ks : Nat → List Entrada}

/-- The thread of the CPU sends OP_BLOQUEADO to that CPU. -/
theorem avisa_total (held : Sesiones v cpus a_ks) (member : pila ∈ v.hilos) (reads : .atender_cpu k ∈ pila) :
    weight avisa pila ≤ total (bloqueara k) v.hilos := by
  have same : weight avisa pila = weight (bloqueara k) pila := by
    unfold weight
    refine congrArg List.sum (List.map_congr_left (fun b listed => ?_))
    cases b with
    | enviar_respuesta j u =>
      obtain rfl := lee_una (held.turnos pila member) reads (held.suyas pila member _ listed j rfl)
      cases u <;> simp [avisa,anuncia,bloqueara]
    | _ => simp [avisa,anuncia,bloqueara]
  rw [same]
  exact weight_le_total (bloqueara k) member

/-- What the thread owes the CPU is OP_BLOQUEADO, once all that is left to say of its process is for the thread to say. -/
theorem parada_de_libre (held : Sesiones v cpus a_ks) (member : pila ∈ v.hilos) (reads : .atender_cpu k ∈ pila)
    (alive : (cpus k).modo ≠ .ida) (asks : (a_ks k).countP pregunta = 0) (frees : ejecuciones k v.ks ≤ weight libre pila + (a_ks k).countP es_op) :
    Parada v.hilos k (cpus k) := by
  have talk := held.sesion pila member k reads
  have few := talk.cuenta
  have less := weight_mono libre_le pila
  have sum := weight_mono debe_libre pila
  have sent := avisa_total held member reads
  rw [weight_add,weight_add] at sum
  exact parada_de_sesion talk alive (by omega) asks (by omega)

/-- Somebody reads from a CPU that has not gone. -/
theorem hilo_de_cpu (held : Sesiones v cpus a_ks) (alive : (cpus k).modo ≠ .ida) : ∃ pila ∈ v.hilos, .atender_cpu k ∈ pila := by
  by_contra nobody
  have zero : total (atiende k) v.hilos = 0 := by
    refine total_zero (fun pila member b listed => if_neg ?_)
    rintro rfl
    exact nobody ⟨pila,member,listed⟩
  have some := held.unidas k alive
  omega

/-- A CPU without a process has stopped. -/
theorem parada_ociosa (held : Sesiones v cpus a_ks) (none : ejecuciones k v.ks = 0) : Parada v.hilos k (cpus k) := by
  by_cases alive : (cpus k).modo = .ida
  · exact .inl alive
  obtain ⟨pila,member,reads⟩ := hilo_de_cpu held alive
  have talk := held.sesion pila member k reads
  have few := talk.cuenta
  have less := weight_mono libre_le pila
  have calls := por_leer_libre 0 k pila
  have counted := oye_cuenta talk.oye
  exact parada_de_libre held member reads alive (by omega) (by omega)

/-- So has one whose process has sent the message with which it leaves. -/
theorem parada_avisada (held : Sesiones v cpus a_ks) (accounts : Cuentas v) (mine : (v.ks.procesos p).cpu = some k)
    (tells : (a_ks k).any es_fin = true ∨ v.hilos.any (fun pila => pila.any (retira p k)) = true) : Parada v.hilos k (cpus k) := by
  by_cases alive : (cpus k).modo = .ida
  · exact .inl alive
  have once := accounts.una_vez k
  simp only [lugares,sitios] at once
  have talks : ∀ pila ∈ v.hilos, .atender_cpu k ∈ pila → 0 < (a_ks k).countP es_fin + weight (retirada p k) pila →
      Parada v.hilos k (cpus k) := by
    intro pila member reads some
    have talk := held.sesion pila member k reads
    have few := talk.cuenta
    have less := weight_mono libre_le pila
    have calls := por_leer_libre p k pila
    have counted := oye_cuenta talk.oye
    exact parada_de_libre held member reads alive (by omega) (by omega)
  rcases tells with said | handled
  · obtain ⟨pila,member,reads⟩ := hilo_de_cpu held alive
    have some := List.countP_pos_iff.mpr (List.any_eq_true.mp said)
    exact talks pila member reads (by omega)
  · obtain ⟨pila,member,inside⟩ := List.any_eq_true.mp handled
    obtain ⟨b,listed,takes⟩ := List.any_eq_true.mp inside
    have reads : .atender_cpu k ∈ pila := by
      cases b with
      | consultar_bsod j | manejar_proceso_exit j | manejar_seg_fault j | manejar_fin_quantum j =>
        obtain rfl := of_decide_eq_true takes
        exact held.suyas pila member _ listed j rfl
      | bloquear_proceso q | esperar_planificacion q | anotar_espera q | bloquear_por_compactacion q =>
        obtain rfl := of_decide_eq_true takes
        obtain ⟨-,j,cpu,reads⟩ := held.ocupados pila member _ listed q rfl
        obtain rfl := Option.some.inj (cpu.symm.trans mine)
        exact reads
      | _ => cases takes
    have some : 0 < weight (retirada p k) pila := by
      obtain ⟨first,last,rfl⟩ := List.append_of_mem listed
      simp only [weight_append,weight_cons,retirada,takes,if_true]
      omega
    exact talks pila member reads (by omega)

/-! ## What has stopped stays so -/

/-- The thread that is to send OP_BLOQUEADO owes it. -/
theorem bloqueara_debe (held : Sesiones v cpus a_ks) (some : 0 < total (bloqueara k) v.hilos) :
    ∃ pila ∈ v.hilos, .atender_cpu k ∈ pila ∧ 1 ≤ weight debe pila := by
  by_contra nobody
  have zero : total (bloqueara k) v.hilos = 0 := by
    refine total_zero (fun pila member b listed => if_neg ?_)
    rintro rfl
    refine nobody ⟨pila,member,held.suyas pila member _ listed k rfl,?_⟩
    obtain ⟨first,last,rfl⟩ := List.append_of_mem listed
    simp only [weight_append,weight_cons,debe,atendida,Option.isSome_some,if_true]
    omega
  omega

theorem parada_lee {contexto : Bool} {r : CpuTurns.Turno} (held : Sesiones v cpus a_ks) (stopped : Parada v.hilos k (cpus k))
    (turn : leer contexto (cpus k) = some r) : Parada v.hilos k r.1 := by
  rcases stopped with gone | ⟨runs,sends,mode⟩
  · simp [leer,gone] at turn
  generalize same : cpus k = c at turn runs mode
  obtain ⟨modo,pending,socket⟩ := c
  unfold leer at turn
  rcases mode with mode | ⟨waits,answer⟩
  · obtain rfl : modo = .principal := mode
    dsimp only at turn
    unfold CpuTurns.main_loop at turn
    split at turn
    case h_1 => cases turn
    case h_2 q resto first =>
      obtain rfl : socket = .ejecutar q :: resto := first
      simp [es_ejecutar] at runs
    case h_3 m resto other first =>
      obtain rfl : socket = m :: resto := first
      cases turn
      rw [List.countP_cons] at runs
      exact .inr ⟨by dsimp only; omega,sends,.inl rfl⟩
  · cases modo with
    | recibir_respuesta q tipo =>
      dsimp only at turn
      unfold CpuTurns.recibir_respuesta_scheduler at turn
      split at turn
      case h_1 => cases turn
      case h_2 z resto first =>
        obtain rfl : socket = .interrumpir z :: resto := first
        cases turn
        refine .inr ⟨?_,sends,.inr ⟨rfl,?_⟩⟩
        · simpa [es_ejecutar] using runs
        · simpa using answer
      case h_3 m resto other first =>
        obtain rfl : socket = m :: resto := first
        rw [List.countP_cons] at runs
        obtain ⟨u,rfl⟩ : ∃ u, m = .respuesta u := by
          cases m with
          | ejecutar z => simp [es_ejecutar] at runs
          | interrumpir z => exact absurd rfl (other z)
          | respuesta u => exact ⟨u,rfl⟩
        have alive : (cpus k).modo ≠ .ida := by rw [same]; simp
        have owed : ∀ pila ∈ v.hilos, .atender_cpu k ∈ pila → weight debe pila + resto.countP es_respuesta = 0 := by
          intro pila member reads
          have owed := (held.sesion pila member k reads).deuda alive
          rw [same] at owed
          simp only [aguarda,List.countP_cons,es_respuesta,if_true] at owed
          omega
        obtain ⟨pila,member,reads⟩ := hilo_de_cpu held alive
        have feared := (held.sesion pila member k reads).temor alive
        rw [same] at feared
        have last := owed pila member reads
        have few := bloqueado_le resto
        have blocked : u = .BLOQUEADO := by
          by_contra plain
          rw [List.count_cons_of_ne (by simpa using plain)] at answer
          obtain ⟨pila',member',reads',owes⟩ := bloqueara_debe (k := k) held (by omega)
          have none := owed pila' member' reads'
          omega
        subst blocked
        have blocks : CpuTurns.bloquea tipo = true := by
          simp only [teme,List.count_cons_self] at feared
          split_ifs at feared with blocks
          · exact blocks
          · omega
        rw [if_pos ⟨blocks,rfl⟩] at turn
        cases turn
        exact .inr ⟨by dsimp only; omega,sends,.inl rfl⟩
    | _ => cases waits

/-- While nobody has leave to plan, the moves of the threads start no CPU. -/
theorem parada_avanza {a : Accion} {e : Entrada} {r : Efecto} {i : Nat} {later : Pila} (accounts : Cuentas v)
    (here : v.hilos[i]? = some (a :: later)) (trato : Trato v.ks e a r) (encoge : Encoge v.ks r.ks) (leave : permiso a = 0)
    (old : ¬ (a = .atender_conexiones_entrantes ∧ e = .cliente_cpu ∧ k = v.ks.proximo_cliente)) (stopped : Parada v.hilos k (cpus k)) :
    Parada (advance v.hilos i r.sigue later r.lanza) k
      (conecta a e v.ks.proximo_cliente (CpuTurns.entrega a cpus) k) := by
  rw [(conecta_vieja _ (fun _ => []) old).1,entrega_apply]
  rcases stopped with gone | ⟨runs,sends,mode⟩
  · exact .inl gone
  obtain ⟨starts,-,started⟩ := trato_envia trato
  have once := accounts.una_vez k
  simp only [lugares,sitios] at once
  have silent : ∀ b, (∀ p, b ≠ .enviar_ejecutar k p) → despachada k b = 0 := by
    intro b other
    cases b with
    | enviar_ejecutar j p => exact if_neg (fun same => other p (by rw [same]))
    | _ => rfl
  have sum := total_advance (despachada k) here r.sigue r.lanza
  have now : weight (despachada k) r.sigue = 0 := by
    refine weight_zero (fun b member => silent b (fun p same => ?_))
    subst same
    rcases starts k p member with ⟨free,mine⟩ | ⟨rfl,-⟩
    · obtain ⟨before,cpu⟩ := encoge p mine.1
      have listed := List.count_pos_iff.mpr free
      have executes : 0 < ejecuciones k v.ks := List.countP_pos_iff.mpr ⟨p,before,by simpa using cpu.symm.trans mine.2⟩
      omega
    · cases leave
  have new : total (despachada k) r.lanza = 0 := total_zero (fun pila member b listed => silent b ((started pila member b listed).1 k))
  have mine := item_le_total (despachada k) here
  have quiet : (mensajes k a).countP es_ejecutar = 0 := by
    refine List.countP_eq_zero.mpr (fun m member => ?_)
    cases m with
    | ejecutar p =>
      obtain rfl := ejecutar_mensajes member
      simp only [despachada,if_true] at mine
      omega
    | _ => simp [es_ejecutar]
  refine .inr ⟨by rw [List.countP_append]; omega,by omega,mode.imp_right (fun waits => ⟨waits.1,?_⟩)⟩
  have sum := total_advance (bloqueara k) here r.sigue r.lanza
  rw [List.count_append]
  by_cases tells : a = .enviar_respuesta k .BLOQUEADO
  · subst tells
    have sent : (mensajes k (.enviar_respuesta k .BLOQUEADO)).count (.respuesta .BLOQUEADO) = 1 := by simp [mensajes]
    omega
  · have none : bloqueara k a = 0 := if_neg tells
    omega

end one

/-! ## Runs -/

/-- A CPU has used registers that it has not sent while it executes. -/
structure Alerta (cfg : Config) (v : Conjunto) : Prop extends Charla cfg v where
  paradas : v.kernels.scheduler.sistema.ks.bsod_activo = false → .confirmacion ∈ v.kernels.pedidos →
    ∀ k, Parada v.kernels.scheduler.sistema.hilos k (v.cpus k)
  compacta : v.en_compactar = true → .confirmacion ∈ v.kernels.pedidos
  guardados : v.kernels.scheduler.sistema.ks.bsod_activo = false → ∀ k, v.sin_guardar k ≠ none → en_marcha (v.cpus k).modo = 1

variable {segment_max_size : Int} {allocation_best_fit : Bool} {respuestas : Nat → Sticks.Respuesta} {v w : Conjunto}

theorem inicial_alerta : Alerta cfg (al_arrancar segment_max_size allocation_best_fit respuestas) where
  toCharla := inicial_charla
  paradas _ _ _ := .inl rfl
  compacta inside := by cases inside
  guardados _ k some := absurd rfl some

/-- A CPU takes its turn. -/
theorem turno_alerta {r : CpuTurns.Turno} {usa : Option Nat} (held : Alerta cfg v) (alive : (v.cpus k).modo ≠ .ida) (talks : Habla v k r)
    (stops : v.kernels.scheduler.sistema.ks.bsod_activo = false → Parada v.kernels.scheduler.sistema.hilos k (v.cpus k) →
      Parada v.kernels.scheduler.sistema.hilos k r.1)
    (saves : v.kernels.scheduler.sistema.ks.bsod_activo = false → r.2 = [] → usa ≠ none → en_marcha r.1.modo = 1) :
    Alerta cfg (v.turno k usa r) := by
  refine ⟨turno_charla held.toCharla alive talks,fun outside sent j => ?_,held.compacta,fun outside j some => ?_⟩
  · by_cases mine : j = k
    · subst mine
      simp only [Conjunto.turno,Function.update_self]
      exact stops outside (held.paradas outside sent j)
    · simp only [Conjunto.turno,Function.update_of_ne mine]
      exact held.paradas outside sent j
  · by_cases mine : j = k
    · subst mine
      simp only [Conjunto.turno,Function.update_self] at some ⊢
      by_cases quiet : r.2 = []
      · rw [if_pos quiet] at some
        exact saves outside quiet some
      · rw [if_neg quiet] at some
        exact absurd rfl some
    · simp only [Conjunto.turno,Function.update_of_ne mine] at some ⊢
      exact held.guardados outside j some

theorem lee_alerta {contexto : Bool} {r : CpuTurns.Turno} (held : Alerta cfg v) (turn : leer contexto (v.cpus k) = some r) :
    Alerta cfg (v.turno k (v.sin_guardar k) r) := by
  apply turno_alerta held (leer_viva turn) (habla_leer held.toCharla turn)
  · intro outside stopped
    exact parada_lee (held.sesiones outside) stopped turn
  · intro outside _ some
    have runs := held.guardados outside k some
    cases mode : (v.cpus k).modo with
    | ejecuta q | check_interrupt q => simp [leer,mode] at turn
    | principal | recibir_respuesta q tipo | ida => simp [mode,en_marcha] at runs

/-- A CPU that executes has not stopped. -/
theorem parada_modo {hilos : List Pila} (stopped : Parada hilos k c) : en_marcha c.modo = 0 := by
  rcases stopped with gone | ⟨-,-,waits | ⟨waits,-⟩⟩
  · rw [gone]
    rfl
  · rw [waits]
    rfl
  · cases mode : c.modo with
    | recibir_respuesta q tipo => rfl
    | _ => simp [mode,aguarda] at waits

theorem instruccion_alerta {i : CpuTurns.Instruccion} {r : CpuTurns.Turno} (held : Alerta cfg v) (fine : propia i = true)
    (turn : instruir i (v.cpus k) = some r) : Alerta cfg (v.turno k (v.cpus k).modo.pid r) := by
  obtain ⟨p,mode⟩ := instruir_modo turn
  apply turno_alerta held (by simp [mode]) (habla_instruir held.toCharla fine turn)
  · intro _ stopped
    have still := parada_modo stopped
    simp [mode,en_marcha] at still
  · intro _ quiet _
    simp only [instruir,mode] at turn
    cases i with
    | comun =>
      cases turn
      rfl
    | exit | seg_fault =>
      cases turn
      cases quiet
    | llamada tipo argumentos => cases tipo <;> cases turn <;> cases quiet

theorem revisa_alerta {r : CpuTurns.Turno} (held : Alerta cfg v) (turn : revisar (v.cpus k) = some r) :
    Alerta cfg (v.turno k (v.sin_guardar k) r) := by
  obtain ⟨p,mode⟩ := revisar_modo turn
  apply turno_alerta held (by simp [mode]) (habla_revisar held.toCharla turn)
  · intro _ stopped
    have still := parada_modo stopped
    simp [mode,en_marcha] at still
  · intro _ quiet _
    simp only [revisar,mode] at turn
    split_ifs at turn <;> cases turn
    · cases quiet
    · rfl

theorem se_va_alerta {r : CpuTurns.Turno} (held : Alerta cfg v) (turn : irse (v.cpus k) = some r) : Alerta cfg (v.turno k none r) := by
  have alive := irse_viva turn
  apply turno_alerta held alive (habla_irse held.toCharla turn)
  · intro _ _
    rw [irse,if_neg alive] at turn
    cases turn
    exact .inl rfl
  · intro _ _ some
    exact absurd rfl some

/-- Where every process has said that it leaves, every CPU has stopped. -/
theorem parada_desalojada (talks : Sesiones v.kernels.scheduler.sistema v.cpus v.a_ks) (accounts : Cuentas v.kernels.scheduler.sistema)
    (all : desalojados v = true) (k : Nat) : Parada v.kernels.scheduler.sistema.hilos k (v.cpus k) := by
  by_cases idle : ejecuciones k v.kernels.scheduler.sistema.ks = 0
  · exact parada_ociosa talks idle
  obtain ⟨p,runs,cpu⟩ := List.countP_pos_iff.mp (Nat.pos_of_ne_zero idle)
  have mine : (v.kernels.scheduler.sistema.ks.procesos p).cpu = some k := of_decide_eq_true cpu
  have told := List.all_eq_true.mp all p runs
  rw [mine,Option.all_some] at told
  simp only [avisado,Bool.or_eq_true,decide_eq_true_eq,or_assoc] at told
  rcases told with gone | tells
  · exact .inl gone
  · exact parada_avisada talks accounts mine tells

/-- While the confirmation is to be sent or read, a move of a thread leaves the CPUs where they are. -/
theorem parada_planifica {l : Paso} {a : Accion} {r : Efecto} {resto : Pila} {l₁ : List Nat} {a_ks : Nat → List Entrada}
    (shut : CompactionLock.Cierre v.kernels l₁) (here : v.kernels.scheduler.sistema.hilos[l.hilo]? = some (a :: resto))
    (effect : efecto cfg l.hora l.entrada a v.kernels.scheduler.sistema.ks = some r) (trato : Trato v.kernels.scheduler.sistema.ks l.entrada a r)
    (change : Cambio v.kernels.scheduler.sistema.ks a r)
    (talks : Sesiones ⟨r.ks,advance v.kernels.scheduler.sistema.hilos l.hilo r.sigue resto r.lanza⟩
      (conecta a l.entrada v.kernels.scheduler.sistema.ks.proximo_cliente (CpuTurns.entrega a v.cpus)) a_ks)
    (some : 0 < total CompactionLock.por_avisar v.kernels.scheduler.sistema.hilos + v.kernels.pedidos.count .confirmacion)
    (stopped : ∀ k, Parada v.kernels.scheduler.sistema.hilos k (v.cpus k)) (k : Nat) :
    Parada (advance v.kernels.scheduler.sistema.hilos l.hilo r.sigue resto r.lanza) k
      (conecta a l.entrada v.kernels.scheduler.sistema.ks.proximo_cliente (CpuTurns.entrega a v.cpus) k) := by
  have encoge := (CompactionLock.encoge_of_cambio change (CompactionLock.sin_mando shut here some).1).1
  have leave : permiso a = 0 := by
    have course := shut.curso
    have one := shut.cuentas.permiso
    have mine := item_le_total permiso here
    have less := total_mono CompactionLock.por_avisar_le v.kernels.scheduler.sistema.hilos
    rw [total_add] at less
    unfold CompactionLock.compactaciones at course
    omega
  by_cases new : a = .atender_conexiones_entrantes ∧ l.entrada = .cliente_cpu ∧ k = v.kernels.scheduler.sistema.ks.proximo_cliente
  · refine parada_ociosa talks ?_
    obtain ⟨rfl,given,rfl⟩ := new
    rw [given] at effect
    obtain rfl := Option.some.inj effect
    have idle := (shut.cuentas.nuevas v.kernels.scheduler.sistema.ks.proximo_cliente le_rfl).1
    simp only [lugares,sitios] at idle
    show ejecuciones v.kernels.scheduler.sistema.ks.proximo_cliente v.kernels.scheduler.sistema.ks = 0
    omega
  · exact parada_avanza shut.cuentas here trato encoge leave new (stopped k)

/-- The confirmation is on its way or is just being sent, and every CPU has stopped. -/
theorem planifica_paradas {l : Paso} {a : Accion} {resto : Pila} {r : Efecto} (held : Alerta cfg v) (good : Espera cfg (.scheduler l) v)
    (moves : Planifica cfg l v w a resto r) (outside : v.kernels.scheduler.sistema.ks.bsod_activo = false)
    (sent : .confirmacion ∈ w.kernels.pedidos) :
    0 < total CompactionLock.por_avisar v.kernels.scheduler.sistema.hilos + v.kernels.pedidos.count .confirmacion ∧
      ∀ j, Parada v.kernels.scheduler.sistema.hilos j (v.cpus j) := by
  by_cases old : .confirmacion ∈ v.kernels.pedidos
  · have counted := List.count_pos_iff.mpr old
    exact ⟨by omega,held.paradas outside old⟩
  have here := moves.one.avanza.here
  cases moves.crosses with
  | confirma added same =>
    have counted := item_le_total CompactionLock.por_avisar here
    simp only [CompactionLock.por_avisar] at counted
    exact ⟨by omega,parada_desalojada (held.sesiones outside) (held.cuentas outside) (good.2 (cima_of_here here))⟩
  | pide q added same => simp [added,old] at sent
  | recibe q u read value same | oye x read value same | nada other same =>
    simp only [Prod.mk.injEq] at same
    exact absurd (same.2.1 ▸ sent) old

theorem planifica_alerta {l : Paso} {a : Accion} {resto : Pila} {r : Efecto} (held : Alerta cfg v) (good : Espera cfg (.scheduler l) v)
    (moves : Planifica cfg l v w a resto r) : Alerta cfg w := by
  have otros := moves.otros
  simp only [Prod.mk.injEq] at otros
  refine ⟨planifica_charla held.toCharla good.1 moves,fun outside sent k => ?_,fun inside => ?_,fun outside k some => ?_⟩
  · obtain ⟨trato,change,talks⟩ := moves.trato held.toCharla good.1 outside
    obtain ⟨some,stopped⟩ := planifica_paradas held good moves (moves.calm outside) sent
    obtain ⟨interrumpidos,closed⟩ := held.cerrado
    rw [moves.sistema,moves.cpus] at talks ⊢
    exact parada_planifica (closed.cierre (moves.calm outside)) moves.one.avanza.here moves.one.avanza.effect trato change talks some
      stopped k
  · rw [otros.2] at inside
    have old := held.compacta inside
    cases moves.crosses with
    | pide q added same | confirma added same =>
      rw [added]
      exact List.mem_append_left _ old
    | recibe q u read value same | oye x read value same | nada other same =>
      simp only [Prod.mk.injEq] at same
      exact same.2.1 ▸ old
  · rw [otros.1] at some
    have runs := held.guardados (moves.calm outside) k some
    rw [moves.cpus]
    by_cases new : a = .atender_conexiones_entrantes ∧ l.entrada = .cliente_cpu ∧ k = v.kernels.scheduler.sistema.ks.proximo_cliente
    · -- A CPU that connects has done nothing yet.
      obtain ⟨-,-,rfl⟩ := new
      have idle := ((held.cuentas (moves.calm outside)).nuevas v.kernels.scheduler.sistema.ks.proximo_cliente le_rfl).2
      have gone : (v.cpus v.kernels.scheduler.sistema.ks.proximo_cliente).modo = .ida := by
        by_contra alive
        have reads := (held.sesiones (moves.calm outside)).unidas _ alive
        omega
      simp [gone,en_marcha] at runs
    · rw [(conecta_vieja _ (fun _ => []) new).1,entrega_modo]
      exact runs

theorem atiende_alerta {x : Anexo} (held : Alerta cfg v) (moved : atiende_ks orden x v = some w) : Alerta cfg w := by
  have talks := atiende_charla held.toCharla moved
  unfold atiende_ks at moved
  split_ifs at moved with enters
  · cases moved
    refine { held with compacta := fun _ => List.mem_of_mem_head? ?_ }
    simp only [confirmada,Bool.and_eq_true,decide_eq_true_eq] at enters
    rw [enters.1.2]
    rfl
  · obtain ⟨t,advances,rfl⟩ := Option.map_eq_some_iff.mp moved
    obtain ⟨same,serves⟩ := atender_ks_cases advances
    have fewer : ∀ m ∈ t.pedidos, m ∈ v.kernels.pedidos := by
      intro m listed
      cases serves with
      | sirve q idle taken | ignora idle taken | compacta q waits taken =>
        rw [taken]
        exact List.mem_cons_of_mem _ listed
    refine ⟨talks,?_,(by simp),?_⟩ <;> dsimp only <;> rw [same]
    · exact fun outside sent => held.paradas outside (fewer _ sent)
    · exact held.guardados

theorem paso_alerta (u : Turno) (v w : Conjunto) (held : Alerta cfg v) (good : Espera cfg u v) (moved : paso cfg orden u v = some w) :
    Alerta cfg w := by
  cases u with
  | scheduler l =>
    obtain ⟨a,resto,r,moves⟩ := planifica_cases moved
    exact planifica_alerta held good moves
  | memoria x => exact atiende_alerta held moved
  | modulo e =>
    have talks := modulo_charla held.toCharla moved
    cases moved
    exact ⟨talks,held.paradas,held.compacta,held.guardados⟩
  | lee k contexto =>
    obtain ⟨r,turn,rfl⟩ := Option.map_eq_some_iff.mp moved
    exact lee_alerta held turn
  | instruccion k i =>
    simp only [KernelsAndCpus.paso] at moved
    split_ifs at moved with fine
    obtain ⟨r,turn,rfl⟩ := Option.map_eq_some_iff.mp moved
    exact instruccion_alerta held fine turn
  | revisa k =>
    obtain ⟨r,turn,rfl⟩ := Option.map_eq_some_iff.mp moved
    exact revisa_alerta held turn
  | se_va k =>
    obtain ⟨r,turn,rfl⟩ := Option.map_eq_some_iff.mp moved
    exact se_va_alerta held turn

instance (u : Turno) (v : Conjunto) : Decidable (Espera cfg u v) := by
  cases u <;> unfold Espera <;> infer_instance

/-- In a run in which a thread confirms the compaction only once every process of lista_exec has sent the message with which it
    leaves its CPU, or its CPU has gone, outside a BSOD no CPU executes anything while Kernel Memory compacts: each has gone, or
    has no process and none on its way, or waits for an answer that is OP_BLOQUEADO, and none has registers that it has not sent. -/
theorem compacts_with_cpus_stopped {turnos : List Turno}
    (guarded : Guarded (paso cfg orden) (Espera cfg) turnos (al_arrancar segment_max_size allocation_best_fit respuestas))
    (reached : run (paso cfg orden) turnos (al_arrancar segment_max_size allocation_best_fit respuestas) = some v)
    (outside : v.kernels.scheduler.sistema.ks.bsod_activo = false) (compacts : v.en_compactar = true) (k : Nat) :
    en_marcha (v.cpus k).modo = 0 ∧ Parada v.kernels.scheduler.sistema.hilos k (v.cpus k) ∧ v.sin_guardar k = none := by
  have held : Alerta cfg v := invariant_of_guarded paso_alerta inicial_alerta guarded reached
  have stopped := held.paradas outside (held.compacta compacts) k
  have still := parada_modo stopped
  refine ⟨still,stopped,?_⟩
  by_contra some
  have runs := held.guardados outside k some
  omega

/-! ## Two CPUs -/

def con_kernels (pasos : List Paso) : List Turno :=
  pasos.flatMap (fun l => (if l.entrada.respuesta?.isSome then [.memoria {}] else []) ++ [.scheduler l])

/-- CPU `k` makes a call of process 0, and its thread hears it. -/
def pide (tipo : Syscall) (e : Entrada) (despues : List Paso) : List Turno :=
  .instruccion 0 (.llamada tipo e) :: con_kernels (llama 3 0 tipo e ++ despues)

/-- A call that is answered OP_OK. -/
def pide_y_sigue (tipo : Syscall) (e : Entrada) (despues : List Paso) : List Turno := pide tipo e despues ++ [.lee 0 true,.revisa 0]

/-- Process 0 fragments the memory on CPU 0 while process 1 executes on CPU 1, and asks for a segment that does not fit without a
    compaction; its thread goes on until it has interrupted CPU 1. -/
def fragmentada : List Turno :=
  .modulo (.memory_stick_agregar ⟨7,8,"",0,fun _ => 0⟩) :: (con_kernels Shutdown.despacho ++ [.lee 0 true] ++
    pide_y_sigue .init_proc (.entero 0) (turnos 3 1 ++ [{ hilo := 3, entrada := .respuesta .OK }] ++ turnos 3 4) ++
    con_kernels ([{ hilo := 0, entrada := .cliente_cpu }] ++ turnos 4 2 ++ turnos 1 6) ++ [.lee 1 true] ++
    pide_y_sigue .mem_alloc (.enteros 0 2) (turnos 3 1 ++ [{ hilo := 3, entrada := .respuesta .OK }] ++ turnos 3 1) ++
    pide_y_sigue .mem_alloc (.enteros 1 2) (turnos 3 1 ++ [{ hilo := 3, entrada := .respuesta .OK }] ++ turnos 3 1) ++
    pide_y_sigue .mem_free (.entero 0) (turnos 3 1 ++ [{ hilo := 3, entrada := .respuesta .OK }] ++ turnos 3 1) ++
    pide .mem_alloc (.enteros 2 6) (turnos 3 1 ++ [{ hilo := 3, entrada := .respuesta .COMPACTAR }] ++ turnos 3 6))

/-- CPU 1 reads its interrupt and sends FIN_QUANTUM; only then the thread confirms. -/
theorem compacts_with_cpus_stopped_fragmentada : ∃ v, run (paso fifo Sorting.insertion_sorter)
      (fragmentada ++ [.instruccion 1 .comun,.revisa 1,.scheduler { hilo := 3 },.memoria {}])
      (al_arrancar 64 true (fun _ => .responde)) = some v ∧ v.en_compactar = true ∧
    v.kernels.scheduler.sistema.ks.listas .lista_exec = [1] ∧ en_marcha (v.cpus 1).modo = 0 ∧ v.sin_guardar 1 = none := by
  have ends : (run (paso fifo Sorting.insertion_sorter)
      (fragmentada ++ [.instruccion 1 .comun,.revisa 1,.scheduler { hilo := 3 },.memoria {}])
      (al_arrancar 64 true (fun _ => .responde))).map (fun v => (v.kernels.scheduler.sistema.ks.bsod_activo,v.en_compactar,
        v.kernels.scheduler.sistema.ks.listas .lista_exec)) = some (false,true,[1]) := by decide +kernel
  obtain ⟨v,reached,ends⟩ := Option.map_eq_some_iff.mp ends
  simp only [Prod.mk.injEq] at ends
  obtain ⟨outside,compacts,running⟩ := ends
  obtain ⟨still,-,saved⟩ := compacts_with_cpus_stopped (by decide +kernel) reached outside compacts 1
  exact ⟨v,reached,compacts,running,still,saved⟩

/-- The thread confirms as soon as it has sent the interrupt, and CPU 1 goes on while Kernel Memory compacts. -/
theorem compacts_with_cpu_running : ∃ v, run (paso fifo Sorting.insertion_sorter)
      (fragmentada ++ [.scheduler { hilo := 3 },.memoria {},.instruccion 1 .comun])
      (al_arrancar 64 true (fun _ => .responde)) = some v ∧ v.kernels.scheduler.sistema.ks.bsod_activo = false ∧
    v.en_compactar = true ∧ 1 ∈ v.kernels.scheduler.sistema.ks.listas .lista_exec ∧ v.a_ks 1 = [] ∧
      (v.cpus 1).modo = .check_interrupt 1 ∧ v.sin_guardar 1 = some 1 := by
  have ends : (run (paso fifo Sorting.insertion_sorter) (fragmentada ++ [.scheduler { hilo := 3 },.memoria {},.instruccion 1 .comun])
      (al_arrancar 64 true (fun _ => .responde))).any (fun v => decide (v.kernels.scheduler.sistema.ks.bsod_activo = false ∧
        v.en_compactar = true ∧ 1 ∈ v.kernels.scheduler.sistema.ks.listas .lista_exec ∧ v.a_ks 1 = [] ∧
        (v.cpus 1).modo = .check_interrupt 1 ∧ v.sin_guardar 1 = some 1)) = true := by decide +kernel
  obtain ⟨v,reached,ends⟩ := (Option.any_eq_true _ _).mp ends
  exact ⟨v,reached,of_decide_eq_true ends⟩

end PlugNPray.StoppedCpus
