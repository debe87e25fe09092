import PlugNPray.CpuAccounts
import PlugNPray.CpuTurns

/-!
What is said between the scheduler and a connected CPU. For the process that the scheduler has on it there is one next
step: a dispatch that is to be sent or read, an instruction, a message, or what its thread makes of a message. So what the
CPU executes is what the scheduler runs on it, and it waits for an answer as long as one is owed.
-/
namespace PlugNPray.CpuSessions
open PlugNPray.Scheduler PlugNPray.Handlers PlugNPray.ReadyQueues PlugNPray.Moves PlugNPray.Stacks PlugNPray.Runs
open PlugNPray.ProcessLists PlugNPray.CpuPlaces PlugNPray.CpuDuties PlugNPray.CpuAccounts
open PlugNPray.CpuTurns (Cpu Modo Turno Instruccion lee_de es_codigo toma bloquea)

/-! ## What a thread does for its CPU -/

/-- The CPU that is told the answer to the request. -/
def contesta_a : Pedido → Option Nat
  | .crear_proceso _ c => c
  | .crear_segmento _ k _ _ | .eliminar_segmento _ k _ => some k
  | _ => none

/-- The CPU that the action reads from, or is to answer. -/
def atendida : Accion → Option Nat
  | .consultar_bsod k _ | .manejar_proceso_exit k | .manejar_seg_fault k | .manejar_fin_quantum k | .manejar_syscall k
  | .manejar_io _ _ k | .manejar_mutex_create _ k | .manejar_mutex_lock _ k | .manejar_mutex_unlock _ k | .manejar_init_proc k
  | .manejar_mem_alloc _ k | .manejar_mem_free _ k | .enviar_respuesta k _ => some k
  | .pedir q | .recibir q => contesta_a q
  | _ => none

/-- What becomes of the process of the CPU is for the thread to say. -/
def pendiente : Accion → Nat
  | .bloquear_proceso _ _ | .esperar_planificacion _ | .anotar_espera _ | .bloquear_por_compactacion _ => 1
  | .manejar_io _ _ _ | .enviar_respuesta _ .BLOQUEADO => 0
  | a => if (atendida a).isSome then 1 else 0

/-- The thread owes its CPU an answer. -/
def debe : Accion → Nat
  | .consultar_bsod _ _ | .manejar_proceso_exit _ | .manejar_seg_fault _ | .manejar_fin_quantum _ | .manejar_syscall _
  | .manejar_io _ _ _ => 0
  | a => if (atendida a).isSome then 1 else 0

/-- The answer may be OP_BLOQUEADO. -/
def peligra : Accion → Nat
  | .manejar_mutex_lock _ _ | .manejar_mem_alloc _ _ | .pedir (.crear_segmento _ _ _ _) | .recibir (.crear_segmento _ _ _ _)
  | .enviar_respuesta _ .BLOQUEADO => 1
  | _ => 0

inductive Parte where
  | pid
  | llamada
  | argumentos
  deriving DecidableEq

/-- What the thread reads of the message that it handles. -/
def por_leer : Accion → List Parte
  | .consultar_bsod _ _ | .manejar_proceso_exit _ | .manejar_seg_fault _ | .manejar_fin_quantum _ => [.pid]
  | .manejar_syscall _ => [.llamada,.argumentos]
  | .manejar_io _ _ _ | .manejar_mutex_create _ _ | .manejar_mutex_lock _ _ | .manejar_mutex_unlock _ _ | .manejar_init_proc _
  | .manejar_mem_alloc _ _ | .manejar_mem_free _ _ => [.argumentos]
  | _ => []

/-- The thread is about to send OP_BLOQUEADO. -/
def anuncia : Accion → Bool
  | .enviar_respuesta _ .BLOQUEADO => true
  | _ => false

/-- OP_BLOQUEADO goes out right before the process is blocked, or waits for the leave to be. -/
def Seguida : Pila → Prop := Followed anuncia (fun _ b => (∃ p m, b = .bloquear_proceso p m) ∨ ∃ p, b = .esperar_planificacion p)

/-! ## What a CPU has sent -/

def argumento : Entrada → Bool
  | .entero _ | .enteros _ _ | .cadena _ => true
  | _ => false

/-- Whole messages, each about a process of the CPU. -/
inductive Mensajes (mio : Nat → Prop) (ida : Prop) : List Entrada → Prop where
  | nada : Mensajes mio ida []
  | corte (gone : ida) : Mensajes mio ida [.corte]
  | fin {c : CodigoCpu} {p : Nat} {l : List Entrada} (ends : c ≠ .proceso_syscall ∧ c ≠ .desconocido) (mine : mio p)
      (rest : Mensajes mio ida l) : Mensajes mio ida (.codigo c :: .pid p :: l)
  | llamada {p : Nat} {tipo : Syscall} {e : Entrada} {l : List Entrada} (known : tipo ≠ .desconocida) (mine : mio p)
      (plain : argumento e = true) (rest : Mensajes mio ida l) :
      Mensajes mio ida (.codigo .proceso_syscall :: .llamada p tipo :: e :: l)

/-- What is left of the message that the thread handles, and then whole messages. -/
inductive Oye (mio : Nat → Prop) (ida : Prop) : List Parte → List Entrada → Prop where
  | mensajes {l : List Entrada} (whole : Mensajes mio ida l) : Oye mio ida [] l
  | pid {p : Nat} {ps : List Parte} {l : List Entrada} (mine : mio p) (rest : Oye mio ida ps l) :
      Oye mio ida (.pid :: ps) (.pid p :: l)
  | llamada {p : Nat} {tipo : Syscall} {ps : List Parte} {l : List Entrada} (known : tipo ≠ .desconocida) (mine : mio p)
      (rest : Oye mio ida ps l) : Oye mio ida (.llamada :: ps) (.llamada p tipo :: l)
  | argumentos {e : Entrada} {ps : List Parte} {l : List Entrada} (plain : argumento e = true) (rest : Oye mio ida ps l) :
      Oye mio ida (.argumentos :: ps) (e :: l)

def es_op : Entrada → Bool
  | .codigo _ => true
  | _ => false

/-- A call that is answered. -/
def pregunta : Entrada → Bool
  | .llamada _ (.io _) => false
  | .llamada _ _ => true
  | _ => false

/-- A call that OP_BLOQUEADO may answer. -/
def arriesga : Entrada → Bool
  | .llamada _ tipo => bloquea tipo
  | _ => false

variable {mio mio' : Nat → Prop} {ida ida' : Prop} {ps : List Parte} {l l' salida : List Entrada}

theorem mensajes_mono (all : ∀ p, mio p → mio' p) (whole : Mensajes mio ida l) : Mensajes mio' ida l := by
  induction whole with
  | nada => exact .nada
  | corte gone => exact .corte gone
  | fin ends mine rest ih => exact .fin ends (all _ mine) ih
  | llamada known mine plain rest ih => exact .llamada known (all _ mine) plain ih

theorem mensajes_append (here : ¬ ida) (whole : Mensajes mio ida l) (more : Mensajes mio ida' salida) : Mensajes mio ida' (l ++ salida) := by
  induction whole with
  | nada => exact more
  | corte gone => exact absurd gone here
  | fin ends mine rest ih => exact .fin ends mine ih
  | llamada known mine plain rest ih => exact .llamada known mine plain ih

/-- Without a code there is no message. -/
theorem mensajes_vacios (whole : Mensajes mio ida l) (none : l.countP es_op = 0) : Mensajes mio' ida l := by
  cases whole with
  | nada => exact .nada
  | corte gone => exact .corte gone
  | fin | llamada => simp [es_op] at none

theorem oye_mono (all : ∀ p, mio p → mio' p) (hears : Oye mio ida ps l) : Oye mio' ida ps l := by
  induction hears with
  | mensajes whole => exact .mensajes (mensajes_mono all whole)
  | pid mine rest ih => exact .pid (all _ mine) ih
  | llamada known mine rest ih => exact .llamada known (all _ mine) ih
  | argumentos plain rest ih => exact .argumentos plain ih

theorem oye_append (here : ¬ ida) (hears : Oye mio ida ps l) (more : Mensajes mio ida' salida) : Oye mio ida' ps (l ++ salida) := by
  induction hears with
  | mensajes whole => exact .mensajes (mensajes_append here whole more)
  | pid mine rest ih => exact .pid mine ih
  | llamada known mine rest ih => exact .llamada known mine ih
  | argumentos plain rest ih => exact .argumentos plain ih

theorem argumento_plano {e : Entrada} (plain : argumento e = true) : es_op e = false ∧ pregunta e = false ∧ arriesga e = false := by
  cases e <;> first | exact ⟨rfl,rfl,rfl⟩ | cases plain

/-- A thread that is between two messages, or has only arguments to read, hears of no process where there is no code. -/
theorem oye_vacia (hears : Oye mio ida ps l) (none : l.countP es_op = 0) (only : ∀ x ∈ ps, x = .argumentos) :
    Oye mio' ida ps l ∧ l.countP pregunta = 0 := by
  induction hears with
  | mensajes whole =>
    refine ⟨.mensajes (mensajes_vacios whole none),?_⟩
    cases whole with
    | nada | corte => rfl
    | fin | llamada => simp [es_op] at none
  | pid | llamada => cases only _ List.mem_cons_self
  | argumentos plain rest ih =>
    obtain ⟨code,asks,-⟩ := argumento_plano plain
    obtain ⟨later,asks'⟩ := ih (by simpa [code] using none) (fun x member => only x (List.mem_cons_of_mem _ member))
    exact ⟨.argumentos plain later,by simpa [asks] using asks'⟩

theorem arriesga_pregunta (e : Entrada) (risky : arriesga e = true) : pregunta e = true := by
  cases e with
  | llamada p tipo => cases tipo <;> first | rfl | cases risky
  | _ => cases risky

/-! ## What a CPU has to read -/

/-- The message lets the CPU go on. -/
def vale : CpuTurns.Mensaje → Bool
  | .ejecutar _ => true
  | .interrumpir _ => false
  | .respuesta r => r ≠ .BLOQUEADO

def es_respuesta : CpuTurns.Mensaje → Bool
  | .respuesta _ => true
  | _ => false

section messages
variable (p : Nat) (r : RespuestaCpu)

@[simp] theorem vale_ejecutar : vale (.ejecutar p) = true := rfl
@[simp] theorem vale_interrumpir : vale (.interrumpir p) = false := rfl
@[simp] theorem vale_respuesta : vale (.respuesta r) = decide (r ≠ .BLOQUEADO) := rfl
@[simp] theorem es_respuesta_ejecutar : es_respuesta (.ejecutar p) = false := rfl
@[simp] theorem es_respuesta_interrumpir : es_respuesta (.interrumpir p) = false := rfl
@[simp] theorem es_respuesta_respuesta : es_respuesta (.respuesta r) = true := rfl
end messages

def en_marcha : Modo → Nat
  | .ejecuta _ | .check_interrupt _ => 1
  | _ => 0

def aguarda : Modo → Nat
  | .recibir_respuesta _ _ => 1
  | _ => 0

def teme : Modo → Nat
  | .recibir_respuesta _ tipo => if bloquea tipo then 1 else 0
  | _ => 0

/-- What there is to go on with inside the CPU; one that has gone does nothing. -/
def en_vista (c : Cpu) : Nat := if c.modo = .ida then 0 else en_marcha c.modo + c.socket_ks.countP vale

/-- The process runs on the CPU as far as the scheduler knows. -/
def Suyo (s : Ks) (k p : Nat) : Prop := p ∈ s.listas .lista_exec ∧ (s.procesos p).cpu = some k

/-- CPU `k`, the thread that serves it, and what each of them has sent to the other; `despachos` says how many dispatches to
    it threads have still to send. -/
structure Sesion (s : Ks) (despachos k : Nat) (pila : Pila) (c : Cpu) (l : List Entrada) : Prop where
  oye : Oye (Suyo s k) (c.modo = .ida) (pila.flatMap por_leer) l
  cuenta : weight pendiente pila + despachos + l.countP es_op + en_vista c ≤ ejecuciones k s
  tiene : ∀ p, c.modo = .ejecuta p ∨ c.modo = .check_interrupt p → Suyo s k p
  lleva : c.modo ≠ .ida → ∀ p, .ejecutar p ∈ c.socket_ks → Suyo s k p
  espera : ∀ p tipo, c.modo = .recibir_respuesta p tipo → Suyo s k p ∨ .respuesta .BLOQUEADO ∈ c.socket_ks
  deuda : c.modo ≠ .ida → weight debe pila + c.socket_ks.countP es_respuesta + l.countP pregunta = aguarda c.modo
  temor : c.modo ≠ .ida → weight peligra pila + c.socket_ks.count (.respuesta .BLOQUEADO) + l.countP arriesga ≤ teme c.modo
  orden : c.modo ≠ .ida → c.socket_ks.Pairwise (fun m m' => (∃ p, m = .ejecutar p) → es_respuesta m' = false)

variable {s t : Ks} {d d' k : Nat} {pila pila' : Pila} {c : Cpu}

/-- A thread with nothing pending owes nothing. -/
theorem nada_debe (follows : Seguida pila) (none : weight pendiente pila = 0) :
    weight debe pila = 0 ∧ ∀ x ∈ pila.flatMap por_leer, x = .argumentos := by
  induction pila with
  | nil => simp
  | cons b rest ih =>
    rw [weight_cons] at none
    obtain ⟨owes,reads⟩ := ih follows.2 (by omega)
    have mine : pendiente b = 0 := by omega
    have own : debe b = 0 ∧ ∀ x ∈ por_leer b, x = .argumentos := by
      cases b with
      | enviar_respuesta j v =>
        cases v with
        | BLOQUEADO =>
          obtain ⟨x,later,rfl,next⟩ := follows.1 rfl
          rcases next with ⟨p,m,rfl⟩ | ⟨p,rfl⟩
          · simp [pendiente] at none
          · simp [pendiente] at none
        | _ => simp [pendiente,atendida] at mine
      | pedir q | recibir q =>
        simp only [pendiente,atendida] at mine
        simpa [debe,atendida,por_leer] using mine
      | _ => first | (simp [pendiente,atendida] at mine; done) | exact ⟨rfl,by simp [por_leer]⟩
    rw [weight_cons,List.flatMap_cons]
    refine ⟨by omega,fun x member => ?_⟩
    rcases List.mem_append.mp member with first | later
    · exact own.2 x first
    · exact reads x later

theorem peligra_le (b : Accion) : peligra b ≤ debe b := by
  cases b with
  | enviar_respuesta j v => cases v <;> simp [peligra,debe,atendida]
  | pedir q | recibir q => cases q <;> simp [peligra,debe,atendida,contesta_a]
  | _ => simp [peligra,debe,atendida]

theorem bloqueado_le (m : List CpuTurns.Mensaje) : m.count (.respuesta .BLOQUEADO) ≤ m.countP es_respuesta := by
  rw [List.count_eq_countP]
  refine List.countP_mono_left (fun x _ same => ?_)
  obtain rfl := beq_iff_eq.mp same
  rfl

theorem arriesga_le (l : List Entrada) : l.countP arriesga ≤ l.countP pregunta := List.countP_mono_left (fun e _ => arriesga_pregunta e)

/-! ## Turns of the CPU -/

theorem Sesion.una (held : Sesion s d k pila c l) (once : ejecuciones k s ≤ 1) (alive : c.modo ≠ .ida) :
    weight pendiente pila + d + l.countP es_op + (en_marcha c.modo + c.socket_ks.countP vale) ≤ 1 := by
  have few := held.cuenta
  rw [en_vista,if_neg alive] at few
  omega

/-- A turn that reads some of the messages and goes on with what it has. -/
theorem sesion_gira (held : Sesion s d k pila c l) (alive : c.modo ≠ .ida) {r : Turno} (reads : r.1.socket_ks.Sublist c.socket_ks)
    (speaks : Mensajes (Suyo s k) (r.1.modo = .ida) r.2) (cuenta : r.2.countP es_op + en_vista r.1 ≤ en_vista c)
    (tiene : ∀ p, r.1.modo = .ejecuta p ∨ r.1.modo = .check_interrupt p → Suyo s k p)
    (espera : ∀ p tipo, r.1.modo = .recibir_respuesta p tipo → Suyo s k p ∨ .respuesta .BLOQUEADO ∈ r.1.socket_ks)
    (deuda : r.1.modo ≠ .ida → r.1.socket_ks.countP es_respuesta + r.2.countP pregunta + aguarda c.modo =
      c.socket_ks.countP es_respuesta + aguarda r.1.modo)
    (temor : r.1.modo ≠ .ida → weight peligra pila + r.1.socket_ks.count (.respuesta .BLOQUEADO) + (l ++ r.2).countP arriesga ≤
      teme r.1.modo) : Sesion s d k pila r.1 (l ++ r.2) where
  oye := oye_append alive held.oye speaks
  cuenta := by
    have few := held.cuenta
    rw [List.countP_append]
    omega
  tiene := tiene
  lleva _ p member := held.lleva alive p (reads.subset member)
  espera := espera
  deuda here := by
    have owed := held.deuda alive
    have change := deuda here
    rw [List.countP_append]
    omega
  temor := temor
  orden _ := (held.orden alive).sublist reads

theorem turno_fin {c : CodigoCpu} {p : Nat} (ends : c ≠ .proceso_syscall ∧ c ≠ .desconocido) (mine : mio p) :
    Mensajes mio ida (CpuTurns.avisar_fin_a_scheduler c p) ∧ (CpuTurns.avisar_fin_a_scheduler c p).countP es_op = 1 ∧
      (CpuTurns.avisar_fin_a_scheduler c p).countP pregunta = 0 ∧ (CpuTurns.avisar_fin_a_scheduler c p).countP arriesga = 0 :=
  ⟨.fin ends mine .nada,rfl,rfl,rfl⟩

theorem turno_llamada {p : Nat} {tipo : Syscall} {e : Entrada} (known : tipo ≠ .desconocida) (plain : argumento e = true) (mine : mio p) :
    Mensajes mio ida [.codigo .proceso_syscall,.llamada p tipo,e] ∧ [.codigo .proceso_syscall,.llamada p tipo,e].countP es_op = 1 ∧
      [.codigo .proceso_syscall,.llamada p tipo,e].countP pregunta = (if pregunta (.llamada p tipo) then 1 else 0) ∧
      [.codigo .proceso_syscall,.llamada p tipo,e].countP arriesga = if bloquea tipo then 1 else 0 := by
  obtain ⟨code,asks,risks⟩ := argumento_plano plain
  refine ⟨.llamada known mine plain .nada,?_,?_,?_⟩
  · rw [List.countP_cons,List.countP_cons,List.countP_cons,code]
    rfl
  · rw [List.countP_cons,List.countP_cons,List.countP_cons,asks]
    cases tipo <;> rfl
  · rw [List.countP_cons,List.countP_cons,List.countP_cons,risks]
    cases tipo <;> rfl

/-- The main loop. -/
theorem sesion_principal {contexto : Bool} {r : Turno} (held : Sesion s d k pila c l) (mode : c.modo = .principal)
    (turn : CpuTurns.main_loop contexto c = some r) : Sesion s d k pila r.1 (l ++ r.2) := by
  obtain ⟨modo,pid,socket⟩ := c
  obtain rfl : modo = .principal := mode
  have alive : Modo.principal ≠ .ida := by simp
  have owed := held.deuda alive
  have feared := held.temor alive
  simp only [aguarda,teme] at owed feared
  unfold CpuTurns.main_loop at turn
  split at turn
  case h_1 => cases turn
  case h_2 p resto same =>
    obtain rfl : socket = .ejecutar p :: resto := same
    have mine := held.lleva alive p List.mem_cons_self
    split_ifs at turn with answered
    · cases turn
      refine sesion_gira held alive (List.sublist_cons_self _ _) .nada ?_ ?_ (by simp) (fun _ => ?_) (fun _ => ?_)
      · simp [en_vista,en_marcha,List.countP_cons,Nat.add_comm]
      · rintro q (same | same)
        · cases same
          exact mine
        · cases same
      · simp [aguarda]
      · simpa [teme] using feared
    · cases turn
      obtain ⟨speaks,one,asks,risks⟩ := @turno_fin (Suyo s k) (Modo.principal = .ida) .proceso_exit p ⟨by simp,by simp⟩ mine
      refine sesion_gira held alive (List.sublist_cons_self _ _) speaks ?_ (by simp) (by simp) (fun _ => ?_) (fun _ => ?_)
      · rw [one]
        simp [en_vista,en_marcha,List.countP_cons,Nat.add_comm]
      · rw [asks]
        simp [aguarda]
      · rw [List.countP_append,risks]
        simpa [teme] using feared
  case h_3 m resto other same =>
    obtain rfl : socket = m :: resto := same
    cases turn
    rw [List.countP_cons] at owed
    rw [List.count_cons] at feared
    refine sesion_gira held alive (List.sublist_cons_self _ _) .nada ?_ (by simp) (by simp) (fun _ => ?_) (fun _ => ?_)
    · simp only [en_vista,reduceCtorEq,if_false,List.countP_cons,List.countP_nil]
      omega
    · simp only [List.countP_cons,List.countP_nil]
      omega
    · rw [List.append_nil]
      simp only [teme]
      omega

/-- What the CPU reads first while it waits for an answer, apart from interrupts, is the answer. -/
theorem sesion_respuesta {pid : Nat} {tipo : Syscall} {q : Nat} {resto : List CpuTurns.Mensaje} (held : Sesion s d k pila c l)
    (follows : Seguida pila) (once : ejecuciones k s ≤ 1) (mode : c.modo = .recibir_respuesta pid tipo) :
    c.socket_ks ≠ .ejecutar q :: resto := by
  intro first
  have alive : c.modo ≠ .ida := by simp [mode]
  have few := held.una once alive
  have owed := held.deuda alive
  have after := (List.pairwise_cons.mp (first ▸ held.orden alive)).1
  have silent : resto.countP es_respuesta = 0 := by
    refine List.countP_eq_zero.mpr (fun m member => ?_)
    simp [after m member ⟨q,rfl⟩]
  rw [first] at few owed
  rw [List.countP_cons_of_neg (by simp),silent,mode] at owed
  rw [List.countP_cons_of_pos rfl] at few
  obtain ⟨none,only⟩ := nada_debe follows (by omega)
  have asks := (@oye_vacia _ (Suyo s k) _ _ _ held.oye (by omega) only).2
  simp only [aguarda] at owed
  omega

/-- The wait for an answer. -/
theorem sesion_contesta {pid : Nat} {tipo : Syscall} {contexto : Bool} {r : Turno} (held : Sesion s d k pila c l)
    (follows : Seguida pila) (once : ejecuciones k s ≤ 1) (mode : c.modo = .recibir_respuesta pid tipo)
    (turn : CpuTurns.recibir_respuesta_scheduler pid tipo contexto c = some r) : Sesion s d k pila r.1 (l ++ r.2) := by
  have nobody : ∀ q resto, c.socket_ks ≠ .ejecutar q :: resto := fun q resto => sesion_respuesta held follows once mode
  obtain ⟨modo,pending,socket⟩ := c
  obtain rfl : modo = .recibir_respuesta pid tipo := mode
  have alive : Modo.recibir_respuesta pid tipo ≠ .ida := by simp
  have owed := held.deuda alive
  have feared := held.temor alive
  have waits := held.espera pid tipo rfl
  unfold CpuTurns.recibir_respuesta_scheduler at turn
  split at turn
  case h_1 => cases turn
  case h_2 q resto same =>
    obtain rfl : socket = .interrumpir q :: resto := same
    cases turn
    refine sesion_gira held alive (List.sublist_cons_self _ _) .nada ?_ (by simp) (fun p tipo' same => ?_) (fun _ => ?_) (fun _ => ?_)
    · simp [en_vista,en_marcha]
    · cases same
      simpa using waits
    · simp
    · simpa using feared
  case h_3 m resto other same =>
    obtain rfl : socket = m :: resto := same
    obtain ⟨v,rfl⟩ : ∃ v, m = .respuesta v := by
      cases m with
      | ejecutar q => exact absurd rfl (nobody q resto)
      | interrumpir q => exact absurd rfl (other q)
      | respuesta v => exact ⟨v,rfl⟩
    simp only [aguarda] at owed
    rw [List.countP_cons_of_pos rfl] at owed
    -- Nothing else is owed, so nothing else can be feared.
    have risk := weight_mono peligra_le pila
    have risk' := arriesga_le l
    have risk'' := bloqueado_le resto
    have mine : v ≠ .BLOQUEADO → Suyo s k pid := by
      intro plain
      rcases waits with mine | blocked
      · exact mine
      · rcases List.mem_cons.mp blocked with same | later
        · cases same
          exact absurd rfl plain
        · have some : 0 < resto.countP es_respuesta := List.countP_pos_iff.mpr ⟨_,later,rfl⟩
          omega
    have calm : weight peligra pila + resto.count (.respuesta .BLOQUEADO) + l.countP arriesga = 0 := by omega
    split_ifs at turn with blocked fails
    · obtain ⟨-,same⟩ := blocked
      cases same
      cases turn
      refine sesion_gira held alive (List.sublist_cons_self _ _) .nada ?_ (by simp) (by simp) (fun _ => ?_) (fun _ => ?_)
      · simp [en_vista,en_marcha]
      · simp [aguarda,List.countP_cons]
      · rw [List.append_nil]
        simp only [teme]
        omega
    · have plain : v ≠ .BLOQUEADO := by
        rintro rfl
        simp only [List.count_cons_self,teme] at feared
        split_ifs at feared with blocks
        · exact blocked ⟨blocks,rfl⟩
        · omega
      obtain ⟨speaks,one,asks,risks⟩ := @turno_fin (Suyo s k) (Modo.principal = .ida) .proceso_exit pid ⟨by simp,by simp⟩ (mine plain)
      cases turn
      refine sesion_gira held alive (List.sublist_cons_self _ _) speaks ?_ (by simp) (by simp) (fun _ => ?_) (fun _ => ?_)
      · rw [one]
        simp [en_vista,en_marcha,plain,Nat.add_comm]
      · rw [asks]
        simp [aguarda,List.countP_cons]
      · rw [List.countP_append,risks]
        simp only [teme]
        omega
    · have plain : v ≠ .BLOQUEADO := by
        rintro rfl
        exact fails (.inl (by simp))
      cases turn
      refine sesion_gira held alive (List.sublist_cons_self _ _) .nada ?_ ?_ (by simp) (fun _ => ?_) (fun _ => ?_)
      · simp [en_vista,en_marcha,plain,Nat.add_comm]
      · rintro q (same | same)
        · cases same
        · cases same
          exact mine plain
      · simp [aguarda,List.countP_cons]
      · rw [List.append_nil]
        simp only [teme]
        omega

/-- What the CPU sends with a call. -/
def propia : Instruccion → Bool
  | .llamada _ argumentos => argumento argumentos
  | _ => true

theorem sesion_instruye {i : Instruccion} {r : Turno} (held : Sesion s d k pila c l) (fine : propia i = true)
    (turn : CpuTurns.instruir i c = some r) : Sesion s d k pila r.1 (l ++ r.2) := by
  obtain ⟨modo,pending,socket⟩ := c
  unfold CpuTurns.instruir at turn
  split at turn
  case h_2 => cases turn
  case h_1 pid mode =>
    obtain rfl : modo = .ejecuta pid := mode
    have alive : Modo.ejecuta pid ≠ .ida := by simp
    have mine := held.tiene pid (.inl rfl)
    have feared := held.temor alive
    simp only [teme] at feared
    have ends : ∀ {c : CodigoCpu}, c ≠ .proceso_syscall ∧ c ≠ .desconocido →
        Sesion s d k pila ⟨.principal,pending,socket⟩ (l ++ CpuTurns.avisar_fin_a_scheduler c pid) := by
      intro c ends
      obtain ⟨speaks,one,asks,risks⟩ := @turno_fin (Suyo s k) (Modo.principal = .ida) c pid ends mine
      refine @sesion_gira _ _ _ _ _ _ held alive ⟨_,CpuTurns.avisar_fin_a_scheduler c pid⟩ (List.Sublist.refl _) speaks ?_ (by simp) (by simp) (fun _ => ?_) (fun _ => ?_)
      · rw [one]
        simp [en_vista,en_marcha]
      · rw [asks]
        simp [aguarda]
      · rw [List.countP_append,risks]
        exact feared
    have calls : ∀ {tipo : Syscall} {e : Entrada} {modo : Modo}, tipo ≠ .desconocida → argumento e = true →
        en_marcha modo = 0 ∧ modo ≠ .ida → (∀ q, modo ≠ .ejecuta q ∧ modo ≠ .check_interrupt q) →
        (∀ q tipo', modo = .recibir_respuesta q tipo' → q = pid) → aguarda modo = (if pregunta (.llamada pid tipo) then 1 else 0) →
        teme modo = (if bloquea tipo then 1 else 0) →
        Sesion s d k pila ⟨modo,pending,socket⟩ (l ++ [.codigo .proceso_syscall,.llamada pid tipo,e]) := by
      intro tipo e modo known plain idle still named asks risks
      obtain ⟨speaks,one,asks',risks'⟩ := @turno_llamada (Suyo s k) (modo = .ida) pid tipo e known plain mine
      refine @sesion_gira _ _ _ _ _ _ held alive ⟨_,[.codigo .proceso_syscall,.llamada pid tipo,e]⟩ (List.Sublist.refl _) speaks ?_ ?_ ?_
        (fun _ => ?_) (fun _ => ?_)
      · rw [one]
        have runs : en_marcha (.ejecuta pid) = 1 := rfl
        simp only [en_vista,idle.2,alive,if_false,idle.1,runs]
        omega
      · rintro q (same | same)
        · exact absurd same (still q).1
        · exact absurd same (still q).2
      · intro q tipo' same
        rw [named q tipo' same]
        exact .inl mine
      · rw [asks',asks]
        simp only [aguarda]
        omega
      · rw [List.countP_append,risks',risks]
        dsimp only
        omega
    unfold CpuTurns.ejecutar_ciclo_instruccion at turn
    split at turn
    case h_1 =>
      cases turn
      refine sesion_gira held alive (List.Sublist.refl _) .nada ?_ ?_ (by simp) (fun _ => ?_) (fun _ => ?_)
      · simp [en_vista,en_marcha]
      · rintro q (same | same)
        · cases same
        · cases same
          exact mine
      · simp [aguarda]
      · simpa [teme] using feared
    case h_2 =>
      cases turn
      exact ends ⟨by simp,by simp⟩
    case h_3 =>
      cases turn
      exact ends ⟨by simp,by simp⟩
    case h_4 t e =>
      cases turn
      exact calls (by simp) fine ⟨rfl,by simp⟩ (by simp) (by simp) rfl rfl
    case h_5 => cases turn
    case h_6 tipo e io known =>
      cases turn
      refine calls known fine ⟨rfl,by simp⟩ (by simp) (fun q tipo' same => by cases same; rfl) ?_ rfl
      cases tipo with
      | io t => exact absurd rfl (io t)
      | _ => rfl

theorem sesion_revisa {r : Turno} (held : Sesion s d k pila c l) (turn : CpuTurns.revisar c = some r) :
    Sesion s d k pila r.1 (l ++ r.2) := by
  obtain ⟨modo,pending,socket⟩ := c
  unfold CpuTurns.revisar at turn
  split at turn
  case h_2 => cases turn
  case h_1 pid mode =>
    obtain rfl : modo = .check_interrupt pid := mode
    have alive : Modo.check_interrupt pid ≠ .ida := by simp
    have mine := held.tiene pid (.inr rfl)
    have owed := held.deuda alive
    have feared := held.temor alive
    simp only [aguarda,teme] at owed feared
    have drops : (CpuTurns.check_interrupt pid ⟨.check_interrupt pid,pending,socket⟩).2.socket_ks.Sublist socket := by
      unfold CpuTurns.check_interrupt
      cases pending with
      | some q => exact List.Sublist.refl _
      | none =>
        cases socket with
        | nil => exact List.Sublist.refl _
        | cons m resto => cases m <;> exact List.sublist_cons_self _ _
    generalize CpuTurns.check_interrupt pid ⟨.check_interrupt pid,pending,socket⟩ = x at turn drops
    obtain ⟨hit,⟨modo',pending',socket'⟩⟩ := x
    have fewer := drops.countP_le (p := vale)
    have silent : socket'.countP es_respuesta = 0 := by
      have less := drops.countP_le (p := es_respuesta)
      dsimp only at less
      omega
    have calm := bloqueado_le socket'
    dsimp only at turn fewer
    split_ifs at turn with interrupted
    · obtain ⟨speaks,one,asks,risks⟩ := @turno_fin (Suyo s k) (Modo.principal = .ida) .proceso_fin_quantum pid ⟨by simp,by simp⟩ mine
      cases turn
      refine sesion_gira held alive drops speaks ?_ (by simp) (by simp) (fun _ => ?_) (fun _ => ?_)
      · rw [one]
        simp only [en_vista,reduceCtorEq,if_false,en_marcha]
        omega
      · simp only [aguarda,asks,silent]
        omega
      · rw [List.countP_append,risks]
        simp only [teme]
        omega
    · cases turn
      refine sesion_gira held alive drops .nada ?_ ?_ (by simp) (fun _ => ?_) (fun _ => ?_)
      · simp only [en_vista,reduceCtorEq,if_false,en_marcha,List.countP_nil]
        omega
      · rintro q (same | same)
        · cases same
          exact mine
        · cases same
      · simp only [aguarda,silent,List.countP_nil]
        omega
      · rw [List.append_nil]
        simp only [teme]
        omega

theorem sesion_se_va {r : Turno} (held : Sesion s d k pila c l) (turn : CpuTurns.irse c = some r) : Sesion s d k pila r.1 (l ++ r.2) := by
  unfold CpuTurns.irse at turn
  split_ifs at turn with gone
  cases turn
  exact sesion_gira held gone (List.Sublist.refl _) (.corte rfl) (by simp [en_vista,es_op]) (by simp) (by simp)
    (fun here => absurd rfl here) (fun here => absurd rfl here)

/-! ## Moves of the threads -/

/-- The thread of the CPU goes from one stack to another, and messages arrive. -/
theorem sesion_sigue {nuevos : List CpuTurns.Mensaje} (held : Sesion s d k pila c l) (follows : Seguida pila')
    (oye : Oye (Suyo s k) (c.modo = .ida) (pila'.flatMap por_leer) l') (suyos : (∀ p, Suyo s k p → Suyo t k p) ∨ ejecuciones k t = 0)
    (cuenta : weight pendiente pila' + d' + l'.countP es_op + nuevos.countP vale + ejecuciones k s ≤
      weight pendiente pila + d + l.countP es_op + ejecuciones k t)
    (deuda : weight debe pila' + nuevos.countP es_respuesta + l'.countP pregunta = weight debe pila + l.countP pregunta)
    (temor : weight peligra pila' + nuevos.count (.respuesta .BLOQUEADO) + l'.countP arriesga ≤ weight peligra pila + l.countP arriesga)
    (llegan : ∀ p, .ejecutar p ∈ nuevos → Suyo t k p)
    (orden : c.modo ≠ .ida → (∀ m ∈ nuevos, es_respuesta m = false) ∨ (∃ v, nuevos = [.respuesta v]) ∧ ∀ p, .ejecutar p ∉ c.socket_ks) :
    Sesion t d' k pila' { c with socket_ks := c.socket_ks ++ nuevos } l' := by
  have few : weight pendiente pila' + d' + l'.countP es_op + en_vista { c with socket_ks := c.socket_ks ++ nuevos } ≤ ejecuciones k t := by
    have before := held.cuenta
    have more : en_vista { c with socket_ks := c.socket_ks ++ nuevos } ≤ en_vista c + nuevos.countP vale := by
      unfold en_vista
      split_ifs
      · exact Nat.zero_le _
      · rw [List.countP_append]
        dsimp only
        omega
    omega
  have owed : c.modo ≠ .ida → weight debe pila' + (c.socket_ks ++ nuevos).countP es_respuesta + l'.countP pregunta = aguarda c.modo := by
    intro alive
    have before := held.deuda alive
    rw [List.countP_append]
    omega
  have feared : c.modo ≠ .ida → weight peligra pila' + (c.socket_ks ++ nuevos).count (.respuesta .BLOQUEADO) + l'.countP arriesga ≤
      teme c.modo := by
    intro alive
    have before := held.temor alive
    rw [List.count_append]
    omega
  have apart : c.modo ≠ .ida → (c.socket_ks ++ nuevos).Pairwise (fun m m' => (∃ p, m = .ejecutar p) → es_respuesta m' = false) := by
    intro alive
    refine List.pairwise_append.mpr ⟨held.orden alive,?_,fun m member m' member' => ?_⟩
    · rcases orden alive with quiet | ⟨⟨v,rfl⟩,-⟩
      · exact List.pairwise_iff_getElem.mpr (fun i j _ inside _ _ => quiet _ (List.getElem_mem inside))
      · exact List.pairwise_singleton _ _
    · rintro ⟨p,rfl⟩
      rcases orden alive with quiet | ⟨-,none⟩
      · exact quiet m' member'
      · exact absurd member (none p)
  rcases suyos with kept | empty
  · refine ⟨oye_mono kept oye,few,fun p runs => kept p (held.tiene p runs),fun alive p member => ?_,fun p tipo mode => ?_,owed,feared,apart⟩
    · rcases List.mem_append.mp member with old | new
      · exact kept p (held.lleva alive p old)
      · exact llegan p new
    · rcases held.espera p tipo mode with mine | blocked
      · exact .inl (kept p mine)
      · exact .inr (List.mem_append_left _ blocked)
  · -- Nobody is left on the CPU, so it has nothing to go on with.
    obtain ⟨none,only⟩ := nada_debe follows (by omega)
    obtain ⟨hears,asks⟩ := @oye_vacia _ (Suyo t k) _ _ _ oye (by omega) only
    have still : c.modo ≠ .ida → en_marcha c.modo = 0 ∧ (c.socket_ks ++ nuevos).countP vale = 0 := by
      intro alive
      have zero : en_vista { c with socket_ks := c.socket_ks ++ nuevos } = 0 := by omega
      simp only [en_vista,alive,if_false] at zero
      omega
    refine ⟨hears,few,?_,fun alive p member => ?_,fun p tipo mode => .inr ?_,owed,feared,apart⟩
    · rintro p (mode | mode)
      · have idle := (still (fun gone => by cases mode.symm.trans gone)).1
        rw [show c.modo = .ejecuta p from mode] at idle
        cases idle
      · have idle := (still (fun gone => by cases mode.symm.trans gone)).1
        rw [show c.modo = .check_interrupt p from mode] at idle
        cases idle
    · have none := List.countP_eq_zero.mp (still alive).2 _ member
      simp at none
    · have mode : c.modo = .recibir_respuesta p tipo := mode
      have alive : c.modo ≠ .ida := by simp [mode]
      have one := owed alive
      simp only [mode,aguarda] at one
      obtain ⟨m,member,answer⟩ := List.countP_pos_iff.mp (show 0 < (c.socket_ks ++ nuevos).countP es_respuesta by omega)
      have worthless := List.countP_eq_zero.mp (still alive).2 m member
      cases m with
      | respuesta v =>
        have same : v = .BLOQUEADO := by simpa using worthless
        exact same ▸ member
      | _ => cases answer

end PlugNPray.CpuSessions
