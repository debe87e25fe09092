import PlugNPray.CpuSocket

/-!
The interrupts of a CPU over several executions: the three places that read the socket
from Kernel Scheduler, message by message, and the pid that one of them leaves for another.
-/
namespace PlugNPray.Interrupts
open PlugNPray.Wire PlugNPray.Protocol PlugNPray.Runs
open PlugNPray.CpuSocket (Tipo Instruccion admite)

/-! ## The CPU -/

inductive Modo where
  /-- The main loop. -/
  | principal
  | ejecuta (pid : Entero)
  | recibir_respuesta (pid : Entero) (tipo : Tipo)
  | check_interrupt (pid : Entero)
  deriving DecidableEq

structure Cpu where
  modo : Modo
  interrupcion_pendiente_pid : Entero
  /-- The ints that have arrived. -/
  socket_ks : List Entero

/-- The calls after which the segment table is asked for again. -/
def refresca : Tipo → Bool
  | .mem_alloc | .mem_free => true
  | _ => false

/-- One turn of the main loop, and whether the scheduler is told that the process is over.
    `contexto` is what `obtener_contexto` answers. -/
def main_loop (contexto : Bool) (c : Cpu) : Option (Cpu × Bool) :=
  match c.socket_ks with
  | [] => none
  | codigo :: resto =>
    if codigo = OP_INTERRUMPIR_PROCESO then
      match resto with
      | [] => none
      | _ :: resto => some ({ c with socket_ks := resto },false)
    else if codigo ≠ OP_EJECUTAR_PROCESO then some ({ c with socket_ks := resto },false)
    else
      match resto with
      | [] => none
      | pid :: resto =>
        if contexto then some ({ c with socket_ks := resto, modo := .ejecuta pid },false)
        else some ({ c with socket_ks := resto },true)

/-- One turn of the loop, and what the syscall makes of the answer. -/
def recibir_respuesta_scheduler (pid : Entero) (tipo : Tipo) (contexto : Bool) (c : Cpu) : Option (Cpu × Bool) :=
  match c.socket_ks with
  | [] => none
  | codigo :: resto =>
    if codigo = OP_INTERRUMPIR_PROCESO then
      match resto with
      | [] => none
      | pid_interrumpido :: resto => some ({ c with socket_ks := resto, interrupcion_pendiente_pid := pid_interrumpido },false)
    else
      let c := { c with socket_ks := resto }
      if tipo.bloquea ∧ codigo = OP_BLOQUEADO then some ({ c with modo := .principal },false)
      else if codigo ≠ OP_OK then some ({ c with modo := .principal },true)
      else if refresca tipo ∧ !contexto then some ({ c with modo := .principal },true)
      else some ({ c with modo := .check_interrupt pid },false)

/-- Whether the process is interrupted. -/
def check_interrupt (pid : Entero) (c : Cpu) : Option (Bool × Cpu) :=
  if c.interrupcion_pendiente_pid ≠ -1 then
    some (decide (c.interrupcion_pendiente_pid = pid),{ c with interrupcion_pendiente_pid := -1 })
  else
    match c.socket_ks with
    | [] => some (false,c)
    | codigo :: resto =>
      if codigo ≠ OP_INTERRUMPIR_PROCESO then some (false,{ c with socket_ks := resto })
      else
        match resto with
        | [] => none
        | pid_interrumpido :: resto => some (decide (pid_interrumpido = pid),{ c with socket_ks := resto })

def ejecutar_instruccion (pid : Entero) (instruccion : Instruccion) (c : Cpu) : Cpu × Bool :=
  match instruccion with
  | .comun => ({ c with modo := .check_interrupt pid },false)
  | .fin | .io => ({ c with modo := .principal },true)
  | .llamada tipo => ({ c with modo := .recibir_respuesta pid tipo },false)

/-! ## The CPU and what it receives -/

inductive Mensaje where
  | ejecutar (pid : Entero)
  | interrumpir (pid : Entero)
  | respuesta (v : Entero)
  deriving DecidableEq

def Mensaje.enteros : Mensaje → List Entero
  | ejecutar pid => [OP_EJECUTAR_PROCESO,pid]
  | interrumpir pid => [OP_INTERRUMPIR_PROCESO,pid]
  | respuesta v => [v]

/-- The CPU, what its scheduler may send it, and what has come of the stream so far. -/
structure Vista where
  cpu : Cpu
  /-- The scheduler has the CPU for free; a syscall waits for its answer. -/
  libre : Bool
  debe : Bool
  recibidos : List Mensaje
  /-- The messages not read yet. -/
  cola : List Mensaje
  /-- The interrupts read while the answer to the last syscall was waited for. -/
  recordados : List Entero

def inicio : Vista := ⟨⟨.principal,-1,[]⟩,true,false,[],[],[]⟩

inductive Evento where
  | llega (m : Mensaje)
  /-- The main loop or the wait for an answer reads. -/
  | lee (contexto : Bool)
  | instruccion (i : Instruccion)
  | revisa

/-- A dispatch goes to a free CPU, an answer to a call, and an interrupt at any time. No
    process has the pid -1. -/
def Emitible (v : Vista) : Mensaje → Prop
  | .ejecutar pid => v.libre ∧ pid ≠ -1
  | .interrumpir pid => pid ≠ -1
  | .respuesta x => v.debe ∧ match v.cpu.modo with
    | .recibir_respuesta _ tipo => admite tipo x
    | _ => False

instance (v : Vista) : ∀ m, Decidable (Emitible v m)
  | .ejecutar _ => inferInstanceAs (Decidable (_ ∧ _))
  | .interrumpir _ => inferInstanceAs (Decidable (_ ≠ _))
  | .respuesta x =>
    have (modo : Modo) : Decidable (match modo with | .recibir_respuesta _ tipo => (admite tipo x : Prop) | _ => False) := by
      cases modo <;> infer_instance
    inferInstanceAs (Decidable (_ ∧ _))

def llegar (m : Mensaje) (v : Vista) : Vista :=
  { v with
    cpu := { v.cpu with socket_ks := v.cpu.socket_ks ++ m.enteros }
    libre := match m with
      | .ejecutar _ => false
      | .interrumpir _ => v.libre
      | .respuesta x => x = OP_BLOQUEADO
    debe := match m with
      | .respuesta _ => false
      | _ => v.debe
    recibidos := v.recibidos ++ [m]
    cola := v.cola ++ [m] }

/-- The unread messages after a read, and the interrupts to remember. -/
def Vista.tras (v : Vista) (r : Cpu × Bool) : Vista :=
  { v with
    cpu := r.1
    libre := v.libre || r.2
    cola := v.cola.tail
    recordados := match v.cpu.modo, v.cola with
      | .recibir_respuesta _ _, .interrumpir pid :: _ => v.recordados ++ [pid]
      | .principal, .ejecutar _ :: _ => []
      | _, _ => v.recordados }

def leer (contexto : Bool) (v : Vista) : Option Vista :=
  match v.cpu.modo with
  | .principal => (main_loop contexto v.cpu).map v.tras
  | .recibir_respuesta pid tipo => (recibir_respuesta_scheduler pid tipo contexto v.cpu).map v.tras
  | _ => none

def instruir (i : Instruccion) (v : Vista) : Option Vista :=
  match v.cpu.modo with
  | .ejecuta pid =>
    let r := ejecutar_instruccion pid i v.cpu
    some { v with cpu := r.1, libre := v.libre || r.2, debe := (match i with | .llamada _ => true | _ => false) }
  | _ => none

/-- The check of a completed instruction; an interrupted process ends its execution. -/
def revisar (v : Vista) : Option Vista :=
  match v.cpu.modo with
  | .check_interrupt pid => (check_interrupt pid v.cpu).map (fun r =>
    { v with
      cpu := { r.2 with modo := if r.1 then .principal else .ejecuta pid }
      libre := v.libre || r.1
      cola := if v.cpu.interrupcion_pendiente_pid ≠ -1 then v.cola else v.cola.tail
      recordados := [] })
  | _ => none

def paso : Evento → Vista → Option Vista
  | .llega m, v => if Emitible v m then some (llegar m v) else none
  | .lee contexto, v => leer contexto v
  | .instruccion i, v => instruir i v
  | .revisa, v => revisar v

/-! ## The claim on a check -/

/-- The messages since the last dispatch. -/
def actuales (recibidos : List Mensaje) : List Mensaje :=
  recibidos.foldl (fun l m => match m with | .ejecutar _ => [] | m => l ++ [m]) []

/-- A check ends the execution exactly if an interrupt for the process came since its dispatch. -/
def Exacto : Evento → Vista → Prop
  | .revisa, v => ∀ pid, v.cpu.modo = .check_interrupt pid →
    ((check_interrupt pid v.cpu).map Prod.fst = some true ↔ .interrumpir pid ∈ actuales v.recibidos)
  | _, _ => True

/-- The pids of the interrupts among the messages. -/
def pids (l : List Mensaje) : List Entero := l.filterMap (fun m => match m with | .interrumpir pid => some pid | _ => none)

/-- At a check nothing is remembered from an earlier execution, and the interrupt that is
    looked at, the last remembered or else the first unread, is for the process if any is. -/
def Atento : Evento → Vista → Prop
  | .revisa, v => ∀ pid, v.cpu.modo = .check_interrupt pid →
    (v.cpu.interrupcion_pendiente_pid = -1 ∨ v.recordados ≠ []) ∧
    (pid ∈ v.recordados ++ pids v.cola → (v.recordados.getLast?.or (pids v.cola).head?) = some pid)
  | _, _ => True

/-- A condition on the pid of the check that the CPU is at. -/
theorem check_iff {modo : Modo} {pid : Entero} (mode : modo = .check_interrupt pid) (prop : Entero → Prop) :
    prop pid ↔ ∀ q, modo = .check_interrupt q → prop q := by
  constructor
  · rintro holds q same
    cases mode.symm.trans same
    exact holds
  · intro all
    exact all pid mode

instance decidableCheck (modo : Modo) (prop : Entero → Prop) [∀ q, Decidable (prop q)] :
    Decidable (∀ q, modo = .check_interrupt q → prop q) :=
  match mode : modo with
  | .check_interrupt pid => decidable_of_iff (prop pid) (check_iff rfl prop)
  | .principal | .ejecuta _ | .recibir_respuesta _ _ => isTrue (fun _ same => by cases same)

instance : ∀ e v, Decidable (Exacto e v)
  | .revisa, v => decidableCheck v.cpu.modo _
  | .llega _, _ | .lee _, _ | .instruccion _, _ => isTrue trivial

instance : ∀ e v, Decidable (Atento e v)
  | .revisa, v => decidableCheck v.cpu.modo _
  | .llega _, _ | .lee _, _ | .instruccion _, _ => isTrue trivial

/-! ## Streams -/

@[simp] theorem actuales_ejecutar (l : List Mensaje) (pid : Entero) : actuales (l ++ [.ejecutar pid]) = [] := by
  simp [actuales]
@[simp] theorem actuales_interrumpir (l : List Mensaje) (pid : Entero) :
    actuales (l ++ [.interrumpir pid]) = actuales l ++ [.interrumpir pid] := by
  simp [actuales]
@[simp] theorem actuales_respuesta (l : List Mensaje) (v : Entero) :
    actuales (l ++ [.respuesta v]) = actuales l ++ [.respuesta v] := by
  simp [actuales]

/-- Nothing but interrupts, and none for the pid that means none. -/
def Interrupciones (l : List Mensaje) : Prop := ∀ m ∈ l, ∃ pid, pid ≠ -1 ∧ m = .interrumpir pid

@[simp] theorem interrupciones_nil : Interrupciones [] := by simp [Interrupciones]
@[simp] theorem interrupciones_cons {m : Mensaje} {l : List Mensaje} :
    Interrupciones (m :: l) ↔ (∃ pid, pid ≠ -1 ∧ m = .interrumpir pid) ∧ Interrupciones l := List.forall_mem_cons
@[simp] theorem interrupciones_append {l r : List Mensaje} : Interrupciones (l ++ r) ↔ Interrupciones l ∧ Interrupciones r :=
  List.forall_mem_append

theorem interrupciones_concat {l : List Mensaje} {pid : Entero} (only : Interrupciones l) (real : pid ≠ -1) :
    Interrupciones (l ++ [.interrumpir pid]) :=
  interrupciones_append.mpr ⟨only,interrupciones_cons.mpr ⟨⟨pid,real,rfl⟩,interrupciones_nil⟩⟩

@[simp] theorem mem_pids {pid : Entero} {l : List Mensaje} : pid ∈ pids l ↔ .interrumpir pid ∈ l := by
  constructor
  · intro member
    obtain ⟨m,listed,hit⟩ := List.mem_filterMap.mp member
    cases m <;> cases hit
    exact listed
  · intro listed
    exact List.mem_filterMap.mpr ⟨_,listed,rfl⟩

/-- What is unread once the process has left the CPU: late interrupts, and at most one
    dispatch with the interrupts of the execution that it starts. -/
def Entre (v : Vista) (cola : List Mensaje) : Prop :=
  (v.libre = true ∧ Interrupciones cola) ∨
  (v.libre = false ∧ ∃ pre pid post, cola = pre ++ .ejecutar pid :: post ∧ pid ≠ -1 ∧ Interrupciones pre ∧
    Interrupciones post ∧ actuales v.recibidos = post)

/-- The interrupts of the execution that are not dealt with are remembered or unread. -/
def Durante (v : Vista) (pid : Entero) : Prop :=
  v.libre = false ∧ pid ≠ -1 ∧ (.interrumpir pid ∈ actuales v.recibidos ↔ pid ∈ v.recordados ∨ .interrumpir pid ∈ v.cola)

def Lugar (v : Vista) : Prop :=
  match v.cpu.modo with
  | .principal => v.debe = false ∧ Entre v v.cola
  | .ejecuta pid => v.debe = false ∧ v.recordados = [] ∧ Interrupciones v.cola ∧ Durante v pid
  | .check_interrupt pid => v.debe = false ∧ Interrupciones v.cola ∧ Durante v pid
  | .recibir_respuesta pid tipo =>
    (v.debe = true ∧ Interrupciones v.cola ∧ Durante v pid) ∨
    (v.debe = false ∧ ∃ pre x post, v.cola = pre ++ .respuesta x :: post ∧ admite tipo x ∧ Interrupciones pre ∧
      (x = OP_BLOQUEADO ∧ Entre v post ∨ x ≠ OP_BLOQUEADO ∧ Interrupciones post ∧ Durante v pid))

structure Coherente (v : Vista) : Prop where
  canal : v.cpu.socket_ks = v.cola.flatMap Mensaje.enteros
  ultimo : ∀ pid, v.recordados.getLast? = some pid → v.cpu.interrupcion_pendiente_pid = pid ∧ pid ≠ -1
  lugar : Lugar v

theorem inicio_coherente : Coherente inicio := ⟨rfl,by simp [inicio],rfl,.inl ⟨rfl,by simp [inicio]⟩⟩

theorem admite_cases {tipo : Tipo} {x : Entero} (admitted : admite tipo x) :
    x ≠ OP_INTERRUMPIR_PROCESO ∧ (x = OP_BLOQUEADO → tipo.bloquea) := by
  simp only [admite,decide_eq_true_eq] at admitted
  rcases admitted with rfl | rfl | ⟨blocks,rfl⟩
  · exact ⟨by decide,fun bad => by cases bad⟩
  · exact ⟨by decide,fun bad => by cases bad⟩
  · exact ⟨by decide,fun _ => blocks⟩

/-! ## Arrivals -/

section Llegadas
variable {v : Vista} {m : Mensaje}

theorem llegar_canal (held : Coherente v) (m : Mensaje) :
    (llegar m v).cpu.socket_ks = (llegar m v).cola.flatMap Mensaje.enteros := by
  simp [llegar,held.canal]

theorem entre_interrumpir {cola : List Mensaje} {pid : Entero} (between : Entre v cola) (real : pid ≠ -1) :
    Entre (llegar (.interrumpir pid) v) (cola ++ [.interrumpir pid]) := by
  rcases between with ⟨free,late⟩ | ⟨busy,pre,next,post,split,named,before,after,current⟩
  · exact .inl ⟨free,interrupciones_concat late real⟩
  · refine .inr ⟨busy,pre,next,post ++ [.interrumpir pid],by simp [split],named,before,interrupciones_concat after real,?_⟩
    simp [llegar,current]

theorem entre_ejecutar {cola : List Mensaje} {pid : Entero} (between : Entre v cola) (free : v.libre = true) (real : pid ≠ -1) :
    Entre (llegar (.ejecutar pid) v) (cola ++ [.ejecutar pid]) := by
  rcases between with ⟨_,late⟩ | ⟨busy,_⟩
  · exact .inr ⟨rfl,cola,pid,[],rfl,real,late,interrupciones_nil,by simp [llegar]⟩
  · rw [free] at busy
    cases busy

theorem durante_interrumpir {pid q : Entero} (during : Durante v pid) : Durante (llegar (.interrumpir q) v) pid := by
  obtain ⟨busy,named,own⟩ := during
  refine ⟨busy,named,?_⟩
  simp only [llegar,actuales_interrumpir,List.mem_append,own]
  tauto

theorem durante_respuesta {pid x : Entero} (during : Durante v pid) (goes_on : x ≠ OP_BLOQUEADO) :
    Durante (llegar (.respuesta x) v) pid := by
  obtain ⟨busy,named,own⟩ := during
  refine ⟨by simp [llegar,goes_on],named,?_⟩
  simp only [llegar,actuales_respuesta,List.mem_append,own]
  simp

theorem llegar_coherente (held : Coherente v) (sent : Emitible v m) : Coherente (llegar m v) := by
  refine ⟨llegar_canal held m,held.ultimo,?_⟩
  have place := held.lugar
  unfold Lugar at place ⊢
  have same : (llegar m v).cpu.modo = v.cpu.modo := rfl
  rw [same]
  cases mode : v.cpu.modo with
  | principal =>
    simp only [mode] at place ⊢
    cases m with
    | ejecutar pid => exact ⟨place.1,entre_ejecutar place.2 sent.1 sent.2⟩
    | interrumpir pid => exact ⟨place.1,entre_interrumpir place.2 sent⟩
    | respuesta x => exact absurd sent.1 (by simp [place.1])
  | ejecuta pid =>
    simp only [mode] at place ⊢
    obtain ⟨asked,handled,only,during⟩ := place
    cases m with
    | ejecutar q => exact absurd sent.1 (by simp [during.1])
    | interrumpir q => exact ⟨asked,handled,interrupciones_concat only sent,durante_interrumpir during⟩
    | respuesta x => exact absurd sent.1 (by simp [asked])
  | check_interrupt pid =>
    simp only [mode] at place ⊢
    obtain ⟨asked,only,during⟩ := place
    cases m with
    | ejecutar q => exact absurd sent.1 (by simp [during.1])
    | interrumpir q => exact ⟨asked,interrupciones_concat only sent,durante_interrumpir during⟩
    | respuesta x => exact absurd sent.1 (by simp [asked])
  | recibir_respuesta pid tipo =>
    simp only [mode] at place ⊢
    rcases place with ⟨asked,only,during⟩ | ⟨answered,pre,x,post,split,admitted,before,after⟩
    · cases m with
      | ejecutar q => exact absurd sent.1 (by simp [during.1])
      | interrumpir q => exact .inl ⟨asked,interrupciones_concat only sent,durante_interrumpir during⟩
      | respuesta x =>
        have admitted := sent.2
        simp only [mode] at admitted
        refine .inr ⟨rfl,v.cola,x,[],rfl,admitted,only,?_⟩
        by_cases blocks : x = OP_BLOQUEADO
        · exact .inl ⟨blocks,.inl ⟨by simp [llegar,blocks],interrupciones_nil⟩⟩
        · exact .inr ⟨blocks,interrupciones_nil,durante_respuesta during blocks⟩
    · cases m with
      | ejecutar q =>
        refine .inr ⟨answered,pre,x,post ++ [.ejecutar q],by simp [llegar,split],admitted,before,?_⟩
        rcases after with ⟨blocks,between⟩ | ⟨_,_,during⟩
        · exact .inl ⟨blocks,entre_ejecutar between sent.1 sent.2⟩
        · exact absurd sent.1 (by simp [during.1])
      | interrumpir q =>
        refine .inr ⟨answered,pre,x,post ++ [.interrumpir q],by simp [llegar,split],admitted,before,?_⟩
        rcases after with ⟨blocks,between⟩ | ⟨goes_on,only,during⟩
        · exact .inl ⟨blocks,entre_interrumpir between sent⟩
        · exact .inr ⟨goes_on,interrupciones_concat only sent,durante_interrumpir during⟩
      | respuesta y => exact absurd sent.1 (by simp [answered])

end Llegadas

/-! ## Reads -/

section Lecturas
variable {v w : Vista} {contexto : Bool}

theorem leer_principal (held : Coherente v) (mode : v.cpu.modo = .principal) (read : leer contexto v = some w) : Coherente w := by
  have place := held.lugar
  have stream := held.canal
  simp only [Lugar,mode] at place
  simp only [leer,mode] at read
  obtain ⟨asked,between⟩ := place
  cases queue : v.cola with
  | nil => simp [main_loop,stream,queue] at read
  | cons m resto =>
    rw [queue] at between stream
    cases m with
    | respuesta x =>
      rcases between with ⟨_,late⟩ | ⟨_,pre,next,post,split,_,before,_⟩
      · simp at late
      · cases pre with
        | nil => cases split
        | cons m pre => cases split; simp at before
    | interrumpir pid =>
      have turn : main_loop contexto v.cpu = some ({ v.cpu with socket_ks := resto.flatMap Mensaje.enteros },false) := by
        simp [main_loop,stream,Mensaje.enteros]
      rw [turn] at read
      cases read
      refine ⟨by simp [Vista.tras,queue],by simpa [Vista.tras,mode,queue] using held.ultimo,?_⟩
      simp only [Lugar,Vista.tras,mode,queue,List.tail_cons,Bool.or_false]
      refine ⟨asked,?_⟩
      rcases between with ⟨free,late⟩ | ⟨busy,pre,next,post,split,named,before,after,current⟩
      · exact .inl ⟨free,(interrupciones_cons.mp late).2⟩
      · cases pre with
        | nil => cases split
        | cons m pre =>
          cases split
          exact .inr ⟨busy,pre,next,post,rfl,named,(interrupciones_cons.mp before).2,after,current⟩
    | ejecutar pid =>
      rcases between with ⟨_,late⟩ | ⟨busy,pre,next,post,split,named,before,after,current⟩
      · simp at late
      cases pre with
      | cons m pre => cases split; simp at before
      | nil =>
        cases split
        cases contexto with
        | false =>
          have turn : main_loop false v.cpu = some ({ v.cpu with socket_ks := resto.flatMap Mensaje.enteros },true) := by
            simp [main_loop,stream,Mensaje.enteros,OP_INTERRUMPIR_PROCESO,OP_EJECUTAR_PROCESO]
          rw [turn] at read
          cases read
          refine ⟨by simp [Vista.tras,queue],by simp [Vista.tras,mode,queue],?_⟩
          simp only [Lugar,Vista.tras,mode,queue,List.tail_cons]
          exact ⟨asked,.inl ⟨by simp,after⟩⟩
        | true =>
          have turn : main_loop true v.cpu =
              some ({ v.cpu with socket_ks := resto.flatMap Mensaje.enteros, modo := .ejecuta pid },false) := by
            simp [main_loop,stream,Mensaje.enteros,OP_INTERRUMPIR_PROCESO,OP_EJECUTAR_PROCESO]
          rw [turn] at read
          cases read
          refine ⟨by simp [Vista.tras,queue],by simp [Vista.tras,mode,queue],?_⟩
          simp only [Lugar,Vista.tras,mode,queue,List.tail_cons]
          exact ⟨asked,trivial,after,by simp [busy],named,by simp [current]⟩

/-- An interrupt that is read while an answer is waited for. -/
theorem leer_recuerda {pid q : Entero} {tipo : Tipo} {resto : List Mensaje} (held : Coherente v)
    (mode : v.cpu.modo = .recibir_respuesta pid tipo) (queue : v.cola = .interrumpir q :: resto)
    (read : leer contexto v = some w) :
    w = { v with
      cpu := { v.cpu with socket_ks := resto.flatMap Mensaje.enteros, interrupcion_pendiente_pid := q }
      cola := resto
      recordados := v.recordados ++ [q] } := by
  have stream := held.canal
  rw [queue] at stream
  have turn : recibir_respuesta_scheduler pid tipo contexto v.cpu =
      some ({ v.cpu with socket_ks := resto.flatMap Mensaje.enteros, interrupcion_pendiente_pid := q },false) := by
    simp [recibir_respuesta_scheduler,stream,Mensaje.enteros]
  simp only [leer,mode,turn,Option.map_some,Option.some.injEq] at read
  rw [← read]
  simp [Vista.tras,mode,queue]

/-- The answer to the syscall: the process leaves the CPU, ends, or goes on to the check. -/
theorem leer_respuesta {pid x : Entero} {tipo : Tipo} {resto : List Mensaje} (held : Coherente v)
    (mode : v.cpu.modo = .recibir_respuesta pid tipo) (queue : v.cola = .respuesta x :: resto) (admitted : admite tipo x)
    (read : leer contexto v = some w) : ∃ modo avisa,
    w = { v with
      cpu := { v.cpu with socket_ks := resto.flatMap Mensaje.enteros, modo := modo }
      libre := v.libre || avisa
      cola := resto } ∧
    (x = OP_BLOQUEADO ∧ modo = .principal ∧ avisa = false ∨
      x ≠ OP_BLOQUEADO ∧ (modo = .principal ∧ avisa = true ∨ modo = .check_interrupt pid ∧ avisa = false)) := by
  have stream := held.canal
  rw [queue] at stream
  obtain ⟨no_interrupt,blocks⟩ := admite_cases admitted
  simp only [leer,mode,recibir_respuesta_scheduler,stream,List.flatMap_cons,Mensaje.enteros,List.cons_append,List.nil_append,
    if_neg no_interrupt] at read
  have turn : ∀ (modo : Modo) (avisa : Bool),
      v.tras ({ v.cpu with socket_ks := resto.flatMap Mensaje.enteros, modo := modo },avisa) = { v with
        cpu := { v.cpu with socket_ks := resto.flatMap Mensaje.enteros, modo := modo }
        libre := v.libre || avisa
        cola := resto } := by
    intro modo avisa
    simp [Vista.tras,mode,queue]
  split_ifs at read with blocking error refused
  · cases read
    exact ⟨.principal,false,turn .principal false,.inl ⟨blocking.2,rfl,rfl⟩⟩
  · cases read
    refine ⟨.principal,true,turn .principal true,.inr ⟨fun same => blocking ⟨blocks same,same⟩,.inl ⟨rfl,rfl⟩⟩⟩
  · cases read
    refine ⟨.principal,true,turn .principal true,.inr ⟨fun same => blocking ⟨blocks same,same⟩,.inl ⟨rfl,rfl⟩⟩⟩
  · cases read
    refine ⟨_,false,turn (.check_interrupt pid) false,.inr ⟨fun same => blocking ⟨blocks same,same⟩,.inr ⟨rfl,rfl⟩⟩⟩

theorem leer_espera {pid : Entero} {tipo : Tipo} (held : Coherente v) (mode : v.cpu.modo = .recibir_respuesta pid tipo)
    (read : leer contexto v = some w) : Coherente w := by
  have place := held.lugar
  simp only [Lugar,mode] at place
  cases queue : v.cola with
  | nil =>
    have stream := held.canal
    simp [leer,mode,recibir_respuesta_scheduler,stream,queue] at read
  | cons m resto =>
    rw [queue] at place
    cases m with
    | ejecutar q =>
      rcases place with ⟨_,only,_⟩ | ⟨_,pre,x,post,split,_,before,_⟩
      · simp at only
      · cases pre with
        | nil => cases split
        | cons m pre => cases split; simp at before
    | interrumpir q =>
      have real : q ≠ -1 := by
        rcases place with ⟨_,only,_⟩ | ⟨_,pre,x,post,split,_,before,_⟩
        · obtain ⟨⟨_,real,same⟩,_⟩ := interrupciones_cons.mp only
          cases same
          exact real
        · cases pre with
          | nil => cases split
          | cons m pre =>
            cases split
            obtain ⟨⟨_,real,same⟩,_⟩ := interrupciones_cons.mp before
            cases same
            exact real
      have moves : ∀ {u : Vista}, u.libre = v.libre → u.recibidos = v.recibidos → u.recordados = v.recordados ++ [q] →
          u.cola = resto → Durante v pid → Durante u pid := by
        rintro u free received remembered unread ⟨busy,named,own⟩
        refine ⟨free.trans busy,named,?_⟩
        rw [received,remembered,unread,own,queue]
        simp only [List.mem_append,List.mem_cons,List.not_mem_nil,or_false,Mensaje.interrumpir.injEq]
        tauto
      rw [leer_recuerda held mode queue read]
      refine ⟨rfl,?_,?_⟩
      · intro p last
        rw [List.getLast?_concat] at last
        cases last
        exact ⟨rfl,real⟩
      · simp only [Lugar,mode]
        rcases place with ⟨asked,only,during⟩ | ⟨answered,pre,x,post,split,admitted,before,after⟩
        · exact .inl ⟨asked,(interrupciones_cons.mp only).2,moves rfl rfl rfl rfl during⟩
        · cases pre with
          | nil => cases split
          | cons m pre =>
            cases split
            refine .inr ⟨answered,pre,x,post,rfl,admitted,(interrupciones_cons.mp before).2,?_⟩
            rcases after with left | ⟨goes_on,only,during⟩
            · exact .inl left
            · exact .inr ⟨goes_on,only,moves rfl rfl rfl rfl during⟩
    | respuesta x =>
      rcases place with ⟨_,only,_⟩ | ⟨answered,pre,y,post,split,admitted,before,after⟩
      · simp at only
      cases pre with
      | cons m pre => cases split; simp at before
      | nil =>
        cases split
        obtain ⟨modo,avisa,rfl,outcome⟩ := leer_respuesta held mode queue admitted read
        refine ⟨rfl,held.ultimo,?_⟩
        rcases outcome with ⟨blocks,rfl,rfl⟩ | ⟨goes_on,⟨rfl,rfl⟩ | ⟨rfl,rfl⟩⟩
        · rcases after with ⟨_,between⟩ | ⟨goes_on,_⟩
          · simp only [Lugar,Bool.or_false]
            exact ⟨answered,between⟩
          · exact absurd blocks goes_on
        · rcases after with ⟨blocks,_⟩ | ⟨_,only,_⟩
          · exact absurd blocks goes_on
          · exact ⟨answered,.inl ⟨by simp,only⟩⟩
        · rcases after with ⟨blocks,_⟩ | ⟨_,only,busy,named,own⟩
          · exact absurd blocks goes_on
          · refine ⟨answered,only,by simp [busy],named,?_⟩
            simp only [own,queue]
            simp

end Lecturas

/-! ## Instructions and checks -/

theorem instruir_coherente {v w : Vista} {i : Instruccion} (held : Coherente v) (ran : instruir i v = some w) : Coherente w := by
  have place := held.lugar
  cases mode : v.cpu.modo with
  | principal => simp [instruir,mode] at ran
  | recibir_respuesta pid tipo => simp [instruir,mode] at ran
  | check_interrupt pid => simp [instruir,mode] at ran
  | ejecuta pid =>
    simp only [Lugar,mode] at place
    obtain ⟨asked,handled,only,busy,named,own⟩ := place
    simp only [instruir,mode,Option.some.injEq] at ran
    subst ran
    cases i with
    | comun => exact ⟨held.canal,held.ultimo,rfl,only,by simp [busy,ejecutar_instruccion],named,own⟩
    | fin => exact ⟨held.canal,held.ultimo,rfl,.inl ⟨by simp [ejecutar_instruccion],only⟩⟩
    | io => exact ⟨held.canal,held.ultimo,rfl,.inl ⟨by simp [ejecutar_instruccion],only⟩⟩
    | llamada tipo =>
      refine ⟨held.canal,held.ultimo,.inl ⟨rfl,only,by simp [busy,ejecutar_instruccion],named,own⟩⟩

/-- What an attentive check answers, and what it leaves unread. -/
theorem check_spec {v : Vista} {pid : Entero} (held : Coherente v) (mode : v.cpu.modo = .check_interrupt pid)
    (attentive : Atento .revisa v) : ∃ hit c, check_interrupt pid v.cpu = some (hit,c) ∧
      (hit = true ↔ .interrumpir pid ∈ actuales v.recibidos) ∧
      c.socket_ks = (if v.cpu.interrupcion_pendiente_pid ≠ -1 then v.cola else v.cola.tail).flatMap Mensaje.enteros := by
  have place := held.lugar
  simp only [Lugar,mode] at place
  obtain ⟨_,only,_,_,own⟩ := place
  obtain ⟨fresh,seen⟩ := attentive pid mode
  have here : .interrumpir pid ∈ actuales v.recibidos ↔ pid ∈ v.recordados ++ pids v.cola := by
    rw [own,List.mem_append,mem_pids]
  by_cases pending : v.cpu.interrupcion_pendiente_pid = -1
  · have none : v.recordados = [] := by
      by_contra some
      obtain ⟨p,last⟩ := Option.isSome_iff_exists.mp (List.getLast?_isSome.mpr some)
      obtain ⟨same,real⟩ := held.ultimo p last
      exact real (same.symm.trans pending)
    rw [none,List.nil_append] at here
    rw [none] at seen
    cases queue : v.cola with
    | nil =>
      refine ⟨false,v.cpu,by simp [check_interrupt,pending,held.canal,queue],?_,by simp [pending,held.canal,queue]⟩
      rw [here,queue]
      simp [pids]
    | cons m resto =>
      rw [queue] at only here seen
      obtain ⟨⟨q,_,rfl⟩,_⟩ := interrupciones_cons.mp only
      refine ⟨decide (q = pid),{ v.cpu with socket_ks := resto.flatMap Mensaje.enteros },?_,?_,by simp [pending]⟩
      · simp [check_interrupt,pending,held.canal,queue,Mensaje.enteros]
      · rw [here,decide_eq_true_eq]
        constructor
        · rintro rfl
          simp
        · intro member
          simpa [pids] using seen member
  · have some := fresh.resolve_left pending
    obtain ⟨p,last⟩ := Option.isSome_iff_exists.mp (List.getLast?_isSome.mpr some)
    obtain ⟨same,_⟩ := held.ultimo p last
    refine ⟨decide (p = pid),{ v.cpu with interrupcion_pendiente_pid := -1 },?_,?_,?_⟩
    · rw [check_interrupt,if_pos pending,same]
    · rw [here,decide_eq_true_eq]
      constructor
      · rintro rfl
        exact List.mem_append_left _ (List.mem_of_getLast? last)
      · intro member
        simpa [last] using seen member
    · rw [if_pos pending]
      exact held.canal

theorem revisar_coherente {v w : Vista} (held : Coherente v) (attentive : Atento .revisa v) (ran : revisar v = some w) :
    Coherente w := by
  cases mode : v.cpu.modo with
  | principal => simp [revisar,mode] at ran
  | recibir_respuesta pid tipo => simp [revisar,mode] at ran
  | ejecuta pid => simp [revisar,mode] at ran
  | check_interrupt pid =>
    have place := held.lugar
    simp only [Lugar,mode] at place
    obtain ⟨asked,only,busy,named,own⟩ := place
    obtain ⟨hit,c,answer,exact,stream⟩ := check_spec held mode attentive
    simp only [revisar,mode,answer,Option.map_some,Option.some.injEq] at ran
    have rest : ∀ m ∈ (if v.cpu.interrupcion_pendiente_pid ≠ -1 then v.cola else v.cola.tail), m ∈ v.cola := by
      intro m member
      split_ifs at member
      · exact member
      · exact List.mem_of_mem_tail member
    subst ran
    refine ⟨stream,by simp,?_⟩
    cases hit with
    | true => exact ⟨asked,.inl ⟨by simp,fun m member => only m (rest m member)⟩⟩
    | false =>
      have none : .interrumpir pid ∉ actuales v.recibidos := fun member => by cases exact.mpr member
      refine ⟨asked,rfl,fun m member => only m (rest m member),by simp [busy],named,?_⟩
      refine iff_of_false none ?_
      rintro (nothing | unread)
      · cases nothing
      · exact none (own.mpr (.inr (rest _ unread)))

theorem paso_coherente : Preserved paso Atento Coherente := by
  intro e v w held attentive moved
  cases e with
  | llega m =>
    simp only [paso] at moved
    split_ifs at moved with sent
    cases moved
    exact llegar_coherente held sent
  | lee contexto =>
    cases mode : v.cpu.modo with
    | principal => exact leer_principal held mode moved
    | recibir_respuesta pid tipo => exact leer_espera held mode moved
    | ejecuta pid => simp [paso,leer,mode] at moved
    | check_interrupt pid => simp [paso,leer,mode] at moved
  | instruccion i => exact instruir_coherente held moved
  | revisa => exact revisar_coherente held attentive moved

/-- A process blocks on a mutex, and it is dispatched again. -/
def bloqueo (antes durante : List Mensaje) : List Evento :=
  [.llega (.ejecutar 1),.lee true,.instruccion (.llamada .mutex_lock)] ++ antes.flatMap (fun m => [.llega m,.lee true]) ++
    [.llega (.respuesta OP_BLOQUEADO),.lee true,.llega (.ejecutar 1),.lee true] ++ durante.map .llega ++ [.instruccion .comun,.revisa]

end PlugNPray.Interrupts
