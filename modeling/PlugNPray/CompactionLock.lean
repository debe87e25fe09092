import PlugNPray.Census
import PlugNPray.CpuPlaces

/-!
A compaction as both kernels see it. The thread whose request needs it takes the leave to plan, sets compactando,
interrupts every CPU and confirms; Kernel Memory compacts and says so; the thread that listens takes compactando away
and gives the leave back.
-/
namespace PlugNPray.CompactionLock
open PlugNPray.Scheduler PlugNPray.Handlers PlugNPray.ReadyQueues PlugNPray.Moves PlugNPray.Stacks PlugNPray.Runs
open PlugNPray.ProcessLists PlugNPray.Sorting PlugNPray.Kernels PlugNPray.Census PlugNPray.CpuPlaces
open PlugNPray.Shutdown (despacho)

/-! ## The stages of a compaction -/

/-- A thread has been told to wait for a compaction, and has not confirmed it. -/
def por_confirmar : Accion → Nat
  | .esperar_planificacion _ | .anotar_espera _ | .bloquear_por_compactacion _ | .desalojar_todas_las_cpus | .enviar_confirmacion => 1
  | _ => 0

/-- A thread is to go on with the compaction for which compactando is set. -/
def en_curso : Accion → Nat
  | .desalojar_todas_las_cpus | .enviar_confirmacion | .fin_compactacion => 1
  | _ => 0

/-- The process for which a thread is about to set compactando. -/
def por_bloquear (p : Nat) : Accion → Nat
  | .esperar_planificacion q | .anotar_espera q | .bloquear_por_compactacion q => if q = p then 1 else 0
  | _ => 0

/-- A thread has set compactando and has not confirmed. -/
def por_avisar : Accion → Nat
  | .desalojar_todas_las_cpus | .enviar_confirmacion => 1
  | _ => 0

/-- The move sets compactando, or takes it away. -/
def empieza : Accion → Nat
  | .bloquear_por_compactacion _ => 1
  | _ => 0

def termina : Accion → Nat
  | .fin_compactacion => 1
  | _ => 0

/-- The confirmations that Kernel Memory has still to get. -/
def confirmaciones (s : Sistema) : Nat :=
  total por_confirmar s.scheduler.sistema.hilos + s.respuestas.count .COMPACTAR + s.pedidos.count .confirmacion

/-- The compactions between the moment compactando is set and the moment it is taken away. -/
def compactaciones (s : Sistema) : Nat :=
  total en_curso s.scheduler.sistema.hilos + s.pedidos.count .confirmacion + s.avisos.count .fin_compactacion

variable {cfg : Config} {orden : Sorter} {hora : Nat} {k : Ks} {p q : Nat} {s t : Sistema} {x : Anexo} {l : Paso} {a : Accion}
  {resto : Pila} {r : Efecto}

theorem por_confirmar_callada {b : Accion} (silent : trata b = false) : por_confirmar b = 0 := by
  cases b <;> first | rfl | cases silent

theorem en_curso_callada {b : Accion} (silent : trata b = false) : en_curso b = 0 := by
  cases b <;> first | rfl | cases silent

theorem por_bloquear_callada {b : Accion} (silent : trata b = false) : por_bloquear p b = 0 := by
  cases b <;> first | rfl | cases silent

theorem por_avisar_callada {b : Accion} (silent : trata b = false) : por_avisar b = 0 := by
  cases b <;> first | rfl | cases silent

/-- compactando is set where a process is blocked for the compaction, and taken away where it ends. -/
theorem mueve_compactando (move : Mueve cfg hora k a r) (unborn : k.proximo_pid ∉ k.listas .lista_exec) :
    r.ks.compactando = match a with
      | .bloquear_por_compactacion _ => true
      | .fin_compactacion => false
      | _ => k.compactando := by
  by_cases quiet : tranquila a = true
  · have same := (mueve_igual move quiet unborn).1.resto
    simp only [CpuPlaces.resto,Prod.mk.injEq] at same
    rw [same.2.1]
    cases a <;> first | rfl | cases quiet
  · have kept : ∀ j, (quitar_cpu_libre j k).compactando = k.compactando := by
      intro j
      unfold quitar_cpu_libre
      split_ifs <;> rfl
    cases move with
    | desconectar_ociosa j idle | desconectar_ocupada j q busy desaloja one => exact kept j
    | post_puede_planificar | cliente_cpu | cliente_io | esperar_permiso | planificar_nada | planificar | planificar_timer | agregar_cpu
    | atender_syscall | atender_desconocido | atender_fin | atender_corte | manejar_proceso_exit | exit_desconocido | manejar_seg_fault
    | seg_fault_desconocido | manejar_fin_quantum | fin_quantum_invalido | fin_quantum_al_frente | fin_quantum_desconocido
    | liberar_cpu_de_quantum | bloquear_proceso | esperar_planificacion | anotar_espera | bloquear_por_compactacion | fin_compactacion
    | fin_compactacion_nadie | redespachar_nadie | redespachar | limpiar_espera | manejar_bsod | pedir | recibir => rfl
    | _ => exact absurd rfl quiet

/-- A thread that reads the answer to a request for a segment may have to wait for a compaction. -/
theorem por_confirmar_tras_respuesta (q : Pedido) (v : Respuesta) : weight por_confirmar (tras_respuesta q v) =
    match q, v with
    | .crear_segmento _ _ _ _, .COMPACTAR => 1
    | _, _ => 0 := by
  cases q with
  | crear_proceso p c => cases c <;> cases v <;> rfl
  | _ => cases v <;> rfl

theorem en_curso_tras_respuesta (q : Pedido) (v : Respuesta) : weight en_curso (tras_respuesta q v) = 0 := by
  cases q with
  | crear_proceso p c => cases c <;> cases v <;> rfl
  | _ => cases v <;> rfl

/-- What a move leaves to its thread that counts. -/
def nuevo (f : Accion → Nat) (e : Entrada) : Accion → Nat
  | .recibir q => (e.respuesta?.map (fun v => weight f (tras_respuesta q v))).getD 0
  | .esperar_planificacion p => f (.anotar_espera p)
  | .anotar_espera p => f (.bloquear_por_compactacion p)
  | .bloquear_por_compactacion _ => f .desalojar_todas_las_cpus
  | .desalojar_todas_las_cpus => f .enviar_confirmacion
  | .hilo_escuchar_memoria => if e = .aviso .fin_compactacion then f .fin_compactacion else 0
  | _ => 0

/-- A count of actions about compactions. -/
structure Cuenta (f : Accion → Nat) : Prop where
  callada : ∀ b, trata b = false → f b = 0
  pide : ∀ q, f (.pedir q) = 0 ∧ f (.recibir q) = 0

theorem cuenta_mueve {f : Accion → Nat} (counts : Cuenta f) (one : Kernels.Avanza cfg l s.scheduler t.scheduler a resto r) :
    total f t.scheduler.sistema.hilos + f a = total f s.scheduler.sistema.hilos + nuevo f l.entrada a := by
  have sum := total_advance f one.avanza.here r.sigue r.lanza
  have effect := one.avanza.effect
  suffices new : weight f r.sigue + total f r.lanza = nuevo f l.entrada a by
    rw [one.avanza.result]
    dsimp only
    omega
  cases mueve_encargo one.avanza.move with
  | nada other plain sigue lanza =>
    rw [callada_weight counts.callada sigue,callada_total counts.callada lanza]
    cases a with
    | hilo_escuchar_memoria =>
      by_cases ends : l.entrada = .aviso .fin_compactacion
      · rw [ends] at effect
        obtain rfl := Option.some.inj effect
        cases sigue
      · simp [nuevo,ends]
    | pedir q => exact absurd rfl (other.1 q)
    | recibir q => exact absurd rfl (other.2 q)
    | _ => first | rfl | cases plain
  | pide q free =>
    simp [nuevo,counts.pide]
  | contesta q v =>
    obtain ⟨v',given,same⟩ := Option.map_eq_some_iff.mp effect
    simp only [Efecto.mk.injEq] at same
    simp [nuevo,given,same.2.1]
  | encarga origin => cases origin <;> simp [nuevo,counts.pide]
  | espera | anota | bloquea => simp [nuevo]
  | desaloja silent =>
    rw [weight_append,callada_weight counts.callada silent]
    simp [nuevo]
  | termina =>
    have ends : l.entrada = .aviso .fin_compactacion := by
      generalize l.entrada = e at effect ⊢
      cases e with
      | aviso x => cases x <;> first | rfl | cases effect
      | _ => cases effect
    have listens : f .hilo_escuchar_memoria = 0 := counts.callada _ rfl
    simp [nuevo,ends,listens]

theorem cuenta_por_confirmar : Cuenta por_confirmar := ⟨fun _ => por_confirmar_callada,fun _ => ⟨rfl,rfl⟩⟩
theorem cuenta_en_curso : Cuenta en_curso := ⟨fun _ => en_curso_callada,fun _ => ⟨rfl,rfl⟩⟩
theorem cuenta_por_bloquear (p : Nat) : Cuenta (por_bloquear p) := ⟨fun _ => por_bloquear_callada,fun _ => ⟨rfl,rfl⟩⟩
theorem cuenta_por_avisar : Cuenta por_avisar := ⟨fun _ => por_avisar_callada,fun _ => ⟨rfl,rfl⟩⟩

/-- A confirmation that is to come is asked for by OP_COMPACTAR, and then by whoever has read it. -/
theorem confirmaciones_mueve (one : Kernels.Avanza cfg l s.scheduler t.scheduler a resto r) (crosses : Cruza s t l a)
    (asked : ∀ q, a = .recibir q → .COMPACTAR ∈ s.respuestas → ∃ p k i z, q = .crear_segmento p k i z) :
    confirmaciones t = confirmaciones s := by
  have sum := cuenta_mueve cuenta_por_confirmar one
  unfold confirmaciones
  cases crosses with
  | pide q sent same =>
    simp only [Prod.mk.injEq] at same
    simp only [por_confirmar,nuevo] at sum
    simp only [sent,same.2.1,List.count_append,List.count_singleton]
    simpa using sum
  | confirma sent same =>
    simp only [Prod.mk.injEq] at same
    simp only [por_confirmar,nuevo] at sum
    rw [sent,same.2.1,List.count_append,List.count_singleton_self]
    omega
  | recibe q v read value same =>
    simp only [Prod.mk.injEq] at same
    simp only [por_confirmar,nuevo,value,Entrada.respuesta?,Option.map_some,Option.getD_some,por_confirmar_tras_respuesta] at sum
    rw [read,same.2.1,List.count_cons]
    by_cases compact : v = .COMPACTAR
    · subst compact
      obtain ⟨p,c,i,z,rfl⟩ := asked q rfl (by rw [read]; exact List.mem_cons_self)
      simp only [beq_self_eq_true,if_true] at sum ⊢
      omega
    · have none : (match q, v with | .crear_segmento _ _ _ _, .COMPACTAR => 1 | _, _ => 0) = 0 := by
        cases v with
        | COMPACTAR => exact absurd rfl compact
        | _ => cases q <;> rfl
      rw [none] at sum
      simp only [beq_iff_eq,if_neg compact]
      omega
  | oye x read value same =>
    simp only [Prod.mk.injEq] at same
    have listens : nuevo por_confirmar l.entrada .hilo_escuchar_memoria = 0 := by simp [nuevo,por_confirmar]
    rw [same.2.1,same.2.2.1]
    simp only [por_confirmar,listens] at sum
    omega
  | nada other same =>
    simp only [Prod.mk.injEq] at same
    rw [same.2.1,same.2.2.1]
    have kept : nuevo por_confirmar l.entrada a = por_confirmar a := by
      cases a with
      | recibir q => exact absurd rfl (other.2.2.1 q)
      | enviar_confirmacion => exact absurd rfl other.2.1
      | hilo_escuchar_memoria => exact absurd rfl other.2.2.2
      | _ => rfl
    omega

/-- A compaction goes from a thread to Kernel Memory and back to a thread. -/
theorem compactaciones_mueve (one : Kernels.Avanza cfg l s.scheduler t.scheduler a resto r) (crosses : Cruza s t l a) :
    compactaciones t + termina a = compactaciones s + empieza a := by
  have sum := cuenta_mueve cuenta_en_curso one
  unfold compactaciones
  cases crosses with
  | pide q sent same =>
    simp only [Prod.mk.injEq] at same
    simp only [en_curso,nuevo] at sum
    simp only [sent,same.2.2.1,List.count_append,List.count_singleton,termina,empieza]
    simpa using sum
  | confirma sent same =>
    simp only [Prod.mk.injEq] at same
    simp only [en_curso,nuevo] at sum
    rw [sent,same.2.2.1,List.count_append,List.count_singleton_self]
    simp only [termina,empieza]
    omega
  | recibe q v read value same =>
    simp only [Prod.mk.injEq] at same
    simp only [en_curso,nuevo,value,Entrada.respuesta?,Option.map_some,Option.getD_some,en_curso_tras_respuesta] at sum
    rw [same.2.1,same.2.2.1]
    simp only [termina,empieza]
    omega
  | oye x read value same =>
    simp only [Prod.mk.injEq] at same
    simp only [en_curso,nuevo,value] at sum
    rw [read,same.2.1,List.count_cons]
    by_cases ends : x = .fin_compactacion
    · simp only [ends,if_true,beq_self_eq_true,termina,empieza] at sum ⊢
      omega
    · simp only [Entrada.aviso.injEq,ends,if_false,beq_iff_eq,termina,empieza] at sum ⊢
      omega
  | nada other same =>
    simp only [Prod.mk.injEq] at same
    rw [same.2.1,same.2.2.2.1]
    cases a with
    | recibir q => exact absurd rfl (other.2.2.1 q)
    | enviar_confirmacion => exact absurd rfl other.2.1
    | hilo_escuchar_memoria => exact absurd rfl other.2.2.2
    | _ =>
      simp only [en_curso,nuevo,termina,empieza] at sum ⊢
      omega

/-! ## The interrupts -/

/-- The kernels, and the processes to which an interrupt has been sent since compactando was last set. -/
structure Observado where
  sistema : Sistema
  interrumpidos : List Nat

def anota (a : Option Accion) (interrumpidos : List Nat) : List Nat :=
  match a with
  | some (.enviar_interrumpir _ p) => p :: interrumpidos
  | some (.bloquear_por_compactacion _) => []
  | _ => interrumpidos

def movida : Turno → Sistema → Option Accion
  | .scheduler l, s => cima s.scheduler.sistema l.hilo
  | _, _ => none

def observa (cfg : Config) (orden : Sorter) (u : Turno) (o : Observado) : Option Observado :=
  (Kernels.paso cfg orden u o.sistema).map (fun t => ⟨t,anota (movida u o.sistema) o.interrumpidos⟩)

/-- By the time a thread confirms, an interrupt has been sent to each of the processes. -/
def Cubre (exec : List Nat) : List Nat → Pila → Prop
  | _, [] => True
  | l, .enviar_confirmacion :: rest => (∀ p ∈ exec, p ∈ l) ∧ Cubre exec l rest
  | l, .enviar_interrumpir _ p :: rest => Cubre exec (p :: l) rest
  | l, _ :: rest => Cubre exec l rest

variable {exec exec' l₁ l₂ : List Nat}

theorem cubre_mono {pila : Pila} (fewer : ∀ p ∈ exec', p ∈ exec) (more : ∀ p ∈ l₁, p ∈ l₂) (covers : Cubre exec l₁ pila) :
    Cubre exec' l₂ pila := by
  induction pila generalizing l₁ l₂ with
  | nil => trivial
  | cons b rest ih =>
    cases b with
    | enviar_confirmacion => exact ⟨fun p runs => more p (covers.1 p (fewer p runs)),ih more covers.2⟩
    | enviar_interrumpir c p =>
      refine ih (fun q listed => ?_) covers
      rcases List.mem_cons.mp listed with rfl | old
      · exact List.mem_cons_self
      · exact List.mem_cons_of_mem p (more q old)
    | _ => exact ih more covers

theorem cubre_sin {pila : Pila} (none : ∀ b ∈ pila, b ≠ .enviar_confirmacion) : Cubre exec l₁ pila := by
  induction pila generalizing l₁ with
  | nil => trivial
  | cons b rest ih =>
    have later : ∀ {l}, Cubre exec l rest := ih (fun b member => none b (List.mem_cons_of_mem _ member))
    cases b with
    | enviar_confirmacion => exact absurd rfl (none _ List.mem_cons_self)
    | _ => exact later

theorem cubre_append {pre post : Pila} (none : ∀ b ∈ pre, b ≠ .enviar_confirmacion) (covers : Cubre exec l₁ post) :
    Cubre exec l₁ (pre ++ post) := by
  induction pre generalizing l₁ with
  | nil => exact covers
  | cons b rest ih =>
    have others := fun b member => none b (List.mem_cons_of_mem _ member)
    cases b with
    | enviar_confirmacion => exact absurd rfl (none _ List.mem_cons_self)
    | enviar_interrumpir c p => exact ih others (cubre_mono (fun _ runs => runs) (fun _ old => List.mem_cons_of_mem p old) covers)
    | _ => exact ih others covers

/-- desalojar_todas_las_cpus sends an interrupt to each running process before it confirms. -/
theorem cubre_interrupciones {c : Nat → Option Nat} {ps : List Nat} {rest : Pila} (all : ∀ p ∈ exec, p ∈ l₁ ∨ p ∈ ps)
    (none : ∀ b ∈ rest, b ≠ .enviar_confirmacion) :
    Cubre exec l₁ (ps.map (fun p => .enviar_interrumpir (c p) p) ++ [.enviar_confirmacion] ++ rest) := by
  induction ps generalizing l₁ with
  | nil => exact ⟨fun p runs => (all p runs).resolve_right List.not_mem_nil,cubre_sin none⟩
  | cons q ps ih =>
    refine @ih (q :: l₁) (fun p runs => ?_)
    rcases all p runs with old | new
    · exact .inl (List.mem_cons_of_mem q old)
    · rcases List.mem_cons.mp new with rfl | later
      · exact .inl List.mem_cons_self
      · exact .inr later

/-- What is left of a thread after a move is covered by what it was. -/
theorem cubre_de_mover {rest : Pila} (other : ∀ p, a ≠ .bloquear_por_compactacion p) (covers : Cubre exec l₁ (a :: rest)) :
    Cubre exec (anota (some a) l₁) rest := by
  cases a with
  | enviar_confirmacion => exact covers.2
  | bloquear_por_compactacion p => exact absurd rfl (other p)
  | _ => exact covers

theorem anota_mono (other : ∀ p, a ≠ .bloquear_por_compactacion p) : ∀ p ∈ l₁, p ∈ anota (some a) l₁ := by
  intro p listed
  cases a with
  | enviar_interrumpir c q => exact List.mem_cons_of_mem q listed
  | bloquear_por_compactacion q => exact absurd rfl (other q)
  | _ => exact listed

/-- Only desalojar_todas_las_cpus leaves a confirmation to be sent. -/
theorem sin_confirmar (gives : Encargo k a r) (other : a ≠ .desalojar_todas_las_cpus) :
    (∀ b ∈ r.sigue, b ≠ .enviar_confirmacion) ∧ ∀ pila ∈ r.lanza, ∀ b ∈ pila, b ≠ .enviar_confirmacion := by
  have quiet : ∀ {pila : Pila}, pila.all (fun b => !trata b) = true → ∀ b ∈ pila, b ≠ .enviar_confirmacion := by
    rintro pila silent b member rfl
    cases List.all_eq_true.mp silent _ member
  cases gives with
  | nada other plain sigue lanza => exact ⟨quiet sigue,fun pila member => quiet (List.all_eq_true.mp lanza pila member)⟩
  | contesta q v =>
    refine ⟨?_,by simp⟩
    cases q with
    | crear_proceso p c => cases c <;> cases v <;> simp [tras_respuesta]
    | _ => cases v <;> simp [tras_respuesta]
  | desaloja => exact absurd rfl other
  | pide | encarga | espera | anota | bloquea | termina => simp

/-! ## The handshake -/

structure Cierre (s : Sistema) (interrumpidos : List Nat) : Prop where
  cuentas : Cuentas s.scheduler.sistema
  una : confirmaciones s = if s.por_compactar.isSome then 1 else 0
  curso : compactaciones s = marca s.scheduler.sistema.ks
  pedido : .COMPACTAR ∈ s.respuestas → ∃ p k i z, s.por_compactar = some (.crear_segmento p k i z) ∧
    0 < total (espera (.crear_segmento p k i z)) s.scheduler.sistema.hilos
  quien : ∀ p, 0 < total (por_bloquear p) s.scheduler.sistema.hilos → ∃ k i z, s.por_compactar = some (.crear_segmento p k i z)
  espera : 0 < total por_avisar s.scheduler.sistema.hilos + s.pedidos.count .confirmacion →
    ∃ p k i z, s.scheduler.sistema.ks.proceso_esperando_memoria = some p ∧ s.por_compactar = some (.crear_segmento p k i z)
  cubre : ∀ pila ∈ s.scheduler.sistema.hilos, Cubre (s.scheduler.sistema.ks.listas .lista_exec) interrumpidos pila
  enviada : .confirmacion ∈ s.pedidos → ∀ p ∈ s.scheduler.sistema.ks.listas .lista_exec, p ∈ interrumpidos

theorem inicial_cierre (segment_max_size : Int) (allocation_best_fit : Bool) (respuestas : Nat → Sticks.Respuesta) :
    Cierre (Kernels.inicial segment_max_size allocation_best_fit respuestas) [] where
  cuentas := inicial_cuentas
  una := rfl
  curso := rfl
  pedido answered := by cases answered
  quien p some := by simp [Kernels.inicial,inicio,Handlers.inicial,por_bloquear] at some
  espera some := by simp [Kernels.inicial,inicio,Handlers.inicial,por_avisar] at some
  cubre pila member := by
    obtain rfl := List.mem_singleton.mp member
    trivial
  enviada sent := by cases sent

theorem por_avisar_le (b : Accion) : por_avisar b + termina b ≤ en_curso b := by
  cases b <;> exact le_rfl

/-- While a confirmation is on its way nobody plans, and nobody ends a compaction. -/
theorem sin_mando {l₁ : List Nat} (held : Cierre s l₁) (here : s.scheduler.sistema.hilos[l.hilo]? = some (a :: resto))
    (some : 0 < total por_avisar s.scheduler.sistema.hilos + s.pedidos.count .confirmacion) :
    manda a = false ∧ ∀ p, a ≠ .bloquear_por_compactacion p := by
  have listed : a :: resto ∈ s.scheduler.sistema.hilos := List.mem_of_getElem? here
  have one := held.cuentas.permiso
  have course := held.curso
  have less := total_mono por_avisar_le s.scheduler.sistema.hilos
  rw [total_add] at less
  have marked : marca s.scheduler.sistema.ks = 1 := by
    have few : marca s.scheduler.sistema.ks ≤ 1 := by
      unfold marca
      split_ifs <;> omega
    unfold compactaciones at course
    omega
  have nobody : permiso a = 0 := by
    have mine := item_le_total permiso here
    omega
  have goes : termina a = 0 := by
    have mine := item_le_total termina here
    unfold compactaciones at course
    omega
  refine ⟨?_,?_⟩
  · cases a with
    | planificar | anotar_espera p => cases nobody
    | fin_compactacion => cases goes
    | limpiar_espera =>
      obtain ⟨b,rest,rfl,rfl⟩ := (held.cuentas.limpia _ listed).1 rfl
      have part := weight_le_total permiso listed
      simp only [weight_cons,permiso] at part
      omega
    | _ => rfl
  · rintro p rfl
    cases nobody

/-- The running processes only leave lista_exec, and the wait for memory stays, where nobody plans or ends a compaction. -/
theorem encoge_of_cambio (what : Cambio k a r) (plain : manda a = false) :
    Encoge k r.ks ∧ r.ks.proceso_esperando_memoria = k.proceso_esperando_memoria := by
  cases what with
  | cuadra balance espera sigue => exact ⟨(sigue plain).1,(sigue plain).2.1⟩
  | llega accepts result => exact result ▸ ⟨fun p runs => ⟨runs,rfl⟩,rfl⟩
  | corta j reads result => exact result ▸ ⟨fun p runs => ⟨runs,rfl⟩,rfl⟩
  | desconecta j leaves otros mia light none encoge same =>
    simp only [Prod.mk.injEq] at same
    exact ⟨encoge,same.2.1⟩

/-- compactando changes with the compactions under way. -/
theorem marca_mueve {l₁ : List Nat} (held : Cierre s l₁) (here : s.scheduler.sistema.hilos[l.hilo]? = some (a :: resto))
    (move : Mueve cfg hora s.scheduler.sistema.ks a r)
    (unborn : s.scheduler.sistema.ks.proximo_pid ∉ s.scheduler.sistema.ks.listas .lista_exec) :
    marca r.ks + termina a = marca s.scheduler.sistema.ks + empieza a ∧
      (a = .fin_compactacion → s.scheduler.sistema.ks.compactando = true) := by
  have flag := mueve_compactando move unborn
  have one := held.cuentas.permiso
  have mine := fun f : Accion → Nat => item_le_total f here
  have busy : a = .fin_compactacion → s.scheduler.sistema.ks.compactando = true := by
    rintro rfl
    have course := held.curso
    have counted := mine en_curso
    unfold compactaciones marca at course
    split_ifs at course with set
    · exact set
    · simp only [en_curso] at counted
      omega
  refine ⟨?_,busy⟩
  cases a with
  | bloquear_por_compactacion p =>
    have counted := mine permiso
    have idle : marca s.scheduler.sistema.ks = 0 := by
      simp only [permiso] at counted
      omega
    simp only [marca,flag,if_true,termina,empieza] at idle ⊢
    omega
  | fin_compactacion => simp [marca,flag,busy rfl,termina,empieza]
  | _ =>
    simp only [marca,flag,termina,empieza]

theorem por_bloquear_tras_respuesta {q : Pedido} {v : Respuesta} (some : 0 < weight (por_bloquear p) (tras_respuesta q v)) :
    v = .COMPACTAR ∧ ∃ k i z, q = .crear_segmento p k i z := by
  cases q with
  | crear_proceso q' c => cases c <;> cases v <;> simp [tras_respuesta,por_bloquear] at some
  | crear_segmento q' c i z =>
    cases v with
    | COMPACTAR =>
      by_cases mine : q' = p
      · exact ⟨rfl,c,i,z,by rw [mine]⟩
      · simp [tras_respuesta,por_bloquear,mine] at some
    | _ => simp [tras_respuesta,por_bloquear] at some
  | _ => cases v <;> simp [tras_respuesta,por_bloquear] at some

theorem por_avisar_tras_respuesta (q : Pedido) (v : Respuesta) : weight por_avisar (tras_respuesta q v) = 0 := by
  cases q with
  | crear_proceso p c => cases c <;> cases v <;> rfl
  | _ => cases v <;> rfl

theorem sin_avisos {pila : Pila} (none : weight por_avisar pila = 0) : ∀ b ∈ pila, b ≠ .enviar_confirmacion := by
  rintro b member rfl
  obtain ⟨first,last,rfl⟩ := List.append_of_mem member
  simp [por_avisar] at none

theorem mueve_cierre {l₁ : List Nat} (canal : Canal s) (custodia : Custodia cfg s.scheduler)
    (calm : s.scheduler.sistema.ks.bsod_activo = false) (outside : t.scheduler.sistema.ks.bsod_activo = false) (held : Cierre s l₁)
    (one : Kernels.Avanza cfg l s.scheduler t.scheduler a resto r) (crosses : Cruza s t l a)
    (good : al_mover (en_su_lista cfg) l s.scheduler.sistema = true) : Cierre t (anota (some a) l₁) := by
  have move := one.avanza.move
  have here := one.avanza.here
  have top := cima_of_here here
  have gives := mueve_encargo move
  have kernel : t.scheduler.sistema.ks = r.ks := by rw [one.avanza.result]
  have hilos : t.scheduler.sistema.hilos = advance s.scheduler.sistema.hilos l.hilo r.sigue resto r.lanza := by rw [one.avanza.result]
  have unborn := custodia.unborn calm
  obtain ⟨marks,busy⟩ := marca_mueve held here move unborn
  have here_good : en_su_lista cfg a l.entrada s.scheduler.sistema.ks = true := by simpa [al_mover,top] using good
  have due : fin_debido a l.entrada s.scheduler.sistema.ks = true := by
    by_cases ends : a = .fin_compactacion
    · simp [fin_debido,busy ends]
    · simp [fin_debido,ends]
  have what := cambio_of_cuentas held.cuentas here move (kernel ▸ outside) here_good due (custodia.known calm) unborn
  have kept : t.por_compactar = s.por_compactar := by
    cases crosses with
    | pide q sent same | confirma sent same | recibe q v read value same | oye x read value same | nada other same =>
      simp only [Prod.mk.injEq] at same
      first | exact same.2.2.2 | exact same.2.2.2.2
  have consumed : ∀ f : Accion → Nat, f a ≤ total f s.scheduler.sistema.hilos := fun f => item_le_total f here
  -- the answer that a thread reads is the one to the request for a segment
  have asked : ∀ q, a = .recibir q → .COMPACTAR ∈ s.respuestas → ∃ p k i z, q = .crear_segmento p k i z ∧ s.por_compactar = some q := by
    rintro q rfl answered
    obtain ⟨p,k,i,z,waits,waiting⟩ := held.pedido answered
    have mine := consumed (espera q)
    simp only [espera,if_true] at mine
    obtain rfl : q = .crear_segmento p k i z := espera_sola canal waiting mine
    exact ⟨p,k,i,z,rfl,waits⟩
  have avisos : total por_avisar t.scheduler.sistema.hilos + por_avisar a =
      total por_avisar s.scheduler.sistema.hilos + nuevo por_avisar l.entrada a := cuenta_mueve cuenta_por_avisar one
  have answers : .COMPACTAR ∈ t.respuestas → .COMPACTAR ∈ s.respuestas ∧
      ∀ q, total (espera q) s.scheduler.sistema.hilos ≤ total (espera q) t.scheduler.sistema.hilos := by
    intro answered
    have sum := fun q => total_advance (espera q) here r.sigue r.lanza
    have balance := canal.uno
    have lock := canal.cerrojo
    rw [hilos]
    cases crosses with
    | recibe q v read value same =>
      have more := List.length_pos_of_mem answered
      rw [read,List.length_cons] at balance
      split_ifs at lock <;> omega
    | pide q sent same =>
      simp only [Prod.mk.injEq] at same
      refine ⟨same.2.1 ▸ answered,fun q' => ?_⟩
      have all := sum q'
      simp only [espera,reduceCtorEq,if_false] at all ⊢
      omega
    | confirma sent same | oye x read value same =>
      simp only [Prod.mk.injEq] at same
      refine ⟨by simpa [same] using answered,fun q' => ?_⟩
      have all := sum q'
      simp only [espera,reduceCtorEq,if_false] at all ⊢
      omega
    | nada other same =>
      simp only [Prod.mk.injEq] at same
      refine ⟨same.2.2.1 ▸ answered,fun q' => ?_⟩
      have all := sum q'
      have none : espera q' a = 0 := if_neg (other.2.2.1 q')
      omega
  refine ⟨?_,?_,?_,?_,?_,?_,?_,?_⟩
  case refine_1 =>
    obtain ⟨u,advances,same⟩ := Option.map_eq_some_iff.mp one.vigila
    rw [← same] at outside ⊢
    have due : al_mover fin_debido l s.scheduler.sistema = true := by simpa [al_mover,top] using due
    exact paso_cuentas held.cuentas outside good due (custodia.known calm) unborn advances
  case refine_2 =>
    rw [confirmaciones_mueve one crosses (fun q reads answered => ?_),kept]
    · exact held.una
    · obtain ⟨p,k,i,z,same,-⟩ := asked q reads answered
      exact ⟨p,k,i,z,same⟩
  case refine_3 =>
    have moved := compactaciones_mueve one crosses
    have course := held.curso
    rw [kernel]
    omega
  case refine_4 =>
    intro answered
    obtain ⟨old,grows⟩ := answers answered
    obtain ⟨p,k,i,z,waits,waiting⟩ := held.pedido old
    exact ⟨p,k,i,z,kept.trans waits,waiting.trans_le (grows _)⟩
  case refine_5 =>
    intro p some
    rw [kept]
    have moved := cuenta_mueve (cuenta_por_bloquear p) one
    by_cases reads : ∃ q, a = .recibir q
    · obtain ⟨q,rfl⟩ := reads
      by_cases old : 0 < total (por_bloquear p) s.scheduler.sistema.hilos
      · exact held.quien p old
      · cases crosses with
        | nada other => exact absurd rfl (other.2.2.1 q)
        | recibe q v read value same =>
          simp only [nuevo,value,Entrada.respuesta?,Option.map_some,Option.getD_some] at moved
          obtain ⟨rfl,k,i,z,rfl⟩ := por_bloquear_tras_respuesta (p := p) (q := q) (v := v) (by omega)
          obtain ⟨-,-,-,-,-,waits⟩ := asked _ rfl (by rw [read]; exact List.mem_cons_self)
          exact ⟨k,i,z,waits⟩
    · have less : nuevo (por_bloquear p) l.entrada a ≤ por_bloquear p a := by
        cases a with
        | recibir q => exact absurd ⟨q,rfl⟩ reads
        | hilo_escuchar_memoria => simp [nuevo,por_bloquear]
        | _ => first | exact le_rfl | exact Nat.zero_le _
      exact held.quien p (by omega)
  case refine_6 =>
    intro some
    rw [kernel,kept]
    by_cases blocks : ∃ p, a = .bloquear_por_compactacion p
    · obtain ⟨p,rfl⟩ := blocks
      have asked := consumed (por_bloquear p)
      have noted := consumed (suspende p)
      simp only [por_bloquear,suspende,if_true] at asked noted
      obtain ⟨k,i,z,waits⟩ := held.quien p (by omega)
      have waiting := (held.cuentas.anotada p (by omega)).1
      exact ⟨p,k,i,z,(encoge_of_cambio what rfl).2.trans waiting,waits⟩
    · have less : nuevo por_avisar l.entrada a ≤ por_avisar a := by
        cases a with
        | bloquear_por_compactacion p => exact absurd ⟨p,rfl⟩ blocks
        | recibir q => cases given : l.entrada.respuesta? <;> simp [nuevo,given,por_avisar_tras_respuesta]
        | hilo_escuchar_memoria => simp [nuevo,por_avisar]
        | _ => first | exact le_rfl | exact Nat.zero_le _
      have old : 0 < total por_avisar s.scheduler.sistema.hilos + s.pedidos.count .confirmacion := by
        cases crosses with
        | confirma sent same =>
          simp only [por_avisar,nuevo] at avisos
          omega
        | pide q sent same =>
          rw [sent] at some
          simp only [List.count_append,List.count_singleton,beq_iff_eq,reduceCtorEq,if_false] at some
          omega
        | recibe q v read value same | oye x read value same | nada other same =>
          simp only [Prod.mk.injEq] at same
          rw [same.2.1] at some
          omega
      obtain ⟨p,k,i,z,waiting,waits⟩ := held.espera old
      exact ⟨p,k,i,z,(encoge_of_cambio what (sin_mando held here old).1).2.trans waiting,waits⟩
  case refine_7 =>
    intro pila member
    rw [kernel]
    rw [hilos] at member
    by_cases old : 0 < total por_avisar s.scheduler.sistema.hilos + s.pedidos.count .confirmacion
    · obtain ⟨plain,other⟩ := sin_mando held here old
      have fewer := fun p runs => ((encoge_of_cambio what plain).1 p runs).1
      by_cases stops : a = .desalojar_todas_las_cpus
      · subst stops
        have alone : ∀ b ∈ resto, b ≠ .enviar_confirmacion := by
          refine sin_avisos ?_
          have part := weight_le_total por_avisar (List.mem_of_getElem? here)
          have less := total_mono por_avisar_le s.scheduler.sistema.hilos
          have course := held.curso
          rw [total_add] at less
          simp only [weight_cons,por_avisar] at part
          unfold compactaciones marca at course
          split_ifs at course <;> omega
        cases move with
        | desalojar_todas_las_cpus =>
          rcases mem_advance member with before | rfl | new
          · exact held.cubre pila before
          · exact cubre_interrupciones (fun _ => .inr) alone
          · cases new
      · obtain ⟨silent,launched⟩ := sin_confirmar gives stops
        rcases mem_advance member with before | rfl | new
        · exact cubre_mono fewer (anota_mono other) (held.cubre pila before)
        · exact cubre_append silent
            (cubre_mono fewer (fun _ listed => listed) (cubre_de_mover other (held.cubre _ (List.mem_of_getElem? here))))
        · exact cubre_sin (launched pila new)
    · have nobody : ∀ pila ∈ s.scheduler.sistema.hilos, ∀ b ∈ pila, b ≠ .enviar_confirmacion := by
        intro pila member
        have part := weight_le_total por_avisar member
        exact sin_avisos (by omega)
      have stops : a ≠ .desalojar_todas_las_cpus := by
        rintro rfl
        have mine := consumed por_avisar
        simp only [por_avisar] at mine
        omega
      obtain ⟨silent,launched⟩ := sin_confirmar gives stops
      refine cubre_sin (fun b listed => ?_)
      rcases mem_advance member with before | rfl | new
      · exact nobody pila before b listed
      · rcases List.mem_append.mp listed with first | later
        · exact silent b first
        · exact nobody _ (List.mem_of_getElem? here) b (List.mem_cons_of_mem a later)
      · exact launched pila new b listed
  case refine_8 =>
    intro sent p runs
    rw [kernel] at runs
    by_cases old : .confirmacion ∈ s.pedidos
    · have counted := List.count_pos_iff.mpr old
      obtain ⟨plain,other⟩ := sin_mando held here (by omega)
      exact anota_mono other p (held.enviada old p ((encoge_of_cambio what plain).1 p runs).1)
    · cases crosses with
      | confirma added same =>
        have covers := held.cubre _ (List.mem_of_getElem? here)
        exact covers.1 p ((encoge_of_cambio what rfl).1 p runs).1
      | pide q added same =>
        rw [added] at sent
        rcases List.mem_append.mp sent with before | new
        · exact absurd before old
        · cases List.mem_singleton.mp new
      | recibe q v read value same | oye x read value same | nada other same =>
        simp only [Prod.mk.injEq] at same
        exact absurd (same.2.1 ▸ sent) old

theorem servir_compactar {q : Pedido} {m : Memoria} (compact : (servir x q m).1 = .COMPACTAR) : ∃ p k i z, q = .crear_segmento p k i z := by
  have plain : ∀ ok, codigo ok ≠ .COMPACTAR := by
    intro ok
    cases ok <;> simp [codigo]
  cases q with
  | crear_segmento p k i z => exact ⟨p,k,i,z,rfl⟩
  | crear_proceso | finalizar_proceso => cases compact
  | _ => exact absurd compact (plain _)

theorem notifica_sin_fin (q : Pedido) (v : Respuesta) : (notifica q v).count .fin_compactacion = 0 := by
  cases q <;> cases v <;> rfl

theorem atiende_cierre {l₁ : List Nat} (canal : Canal s) (held : Cierre s l₁) (same : t.scheduler = s.scheduler)
    (serves : Atiende orden x s t) : Cierre t l₁ := by
  obtain ⟨cuentas,una,curso,pedido,quien,avisa,cubre,enviada⟩ := held
  have part : ∀ p, total (por_bloquear p) s.scheduler.sistema.hilos ≤ total por_confirmar s.scheduler.sistema.hilos := by
    intro p
    refine total_mono (fun b => ?_) _
    cases b with
    | esperar_planificacion q | anotar_espera q | bloquear_por_compactacion q => by_cases mine : q = p <;> simp [por_bloquear,por_confirmar,mine]
    | _ => exact Nat.zero_le _
  have part' : total por_avisar s.scheduler.sistema.hilos ≤ total por_confirmar s.scheduler.sistema.hilos := by
    refine total_mono (fun b => ?_) _
    cases b <;> first | exact le_rfl | exact Nat.zero_le _
  cases serves with
  | sirve q idle taken memoria answer avisos waits =>
    rw [idle] at una
    simp only [confirmaciones,Option.isSome_none,Bool.false_eq_true,if_false] at una
    have sent : s.pedidos.count .confirmacion = t.pedidos.count .confirmacion := by simp [taken]
    have silent : s.respuestas = [] := by
      have uno := canal.uno
      rw [taken,weight_cons,Mensaje.peso,canal.cerrojo] at uno
      refine List.eq_nil_of_length_eq_zero ?_
      split_ifs at uno <;> omega
    rw [silent,List.nil_append] at answer
    refine ⟨same ▸ cuentas,?_,?_,?_,?_,?_,same ▸ cubre,?_⟩
    · rw [confirmaciones,same,answer,waits]
      by_cases compact : (servir x q s.memoria).1 = .COMPACTAR
      · rw [if_pos compact,compact]
        simp only [List.count_singleton_self,Option.isSome_some,if_true]
        omega
      · rw [if_neg compact]
        simp only [List.count_singleton,beq_iff_eq,if_neg compact,Option.isSome_none,Bool.false_eq_true,if_false]
        omega
    · unfold compactaciones at curso ⊢
      rw [same,avisos,List.count_append,notifica_sin_fin]
      omega
    · intro answered
      rw [answer] at answered
      have compact := List.mem_singleton.mp answered
      obtain ⟨p,k,i,z,rfl⟩ := servir_compactar compact.symm
      refine ⟨p,k,i,z,?_,same ▸ canal.mio _ (by rw [taken]; exact List.mem_cons_self)⟩
      rw [waits,if_pos compact.symm]
    · intro p some
      rw [same] at some
      have less := part p
      omega
    · intro some
      rw [same] at some
      omega
    · rw [same]
      intro listed
      exact enviada (by rw [taken]; exact List.mem_cons_of_mem _ listed)
  | ignora idle taken kept =>
    rw [idle,confirmaciones,taken,List.count_cons_self] at una
    simp at una
  | compacta q waits taken memoria avisos kept done =>
    rw [waits,confirmaciones,taken,List.count_cons_self] at una
    simp only [Option.isSome_some,if_true] at una
    have answered : s.respuestas.count .COMPACTAR = 0 := by omega
    have sent : t.pedidos.count .confirmacion = 0 := by omega
    refine ⟨same ▸ cuentas,?_,?_,?_,?_,?_,same ▸ cubre,?_⟩
    · rw [confirmaciones,same,kept,done]
      simp only [Option.isSome_none,Bool.false_eq_true,if_false]
      omega
    · unfold compactaciones at curso ⊢
      rw [taken,List.count_cons_self] at curso
      rw [same,avisos,List.count_append]
      simp only [List.count_cons,List.count_nil,beq_iff_eq,reduceCtorEq,if_true,if_false]
      omega
    · intro listed
      rw [kept] at listed
      exact absurd listed (List.count_eq_zero.mp answered)
    · intro p some
      rw [same] at some
      have less := part p
      omega
    · intro some
      rw [same] at some
      omega
    · intro listed
      exact absurd listed (List.count_eq_zero.mp sent)

/-! ## Runs -/

structure Cerrado (cfg : Config) (o : Observado) : Prop where
  censo : Censo cfg o.sistema
  cierre : o.sistema.scheduler.sistema.ks.bsod_activo = false → Cierre o.sistema o.interrumpidos

theorem observa_cerrado (u : Turno) (o o' : Observado) (held : Cerrado cfg o) (good : EnSuLista cfg u o.sistema)
    (moved : observa cfg orden u o = some o') : Cerrado cfg o' := by
  obtain ⟨t,advances,rfl⟩ := Option.map_eq_some_iff.mp moved
  refine ⟨paso_censo u o.sistema t held.censo good advances,fun outside => ?_⟩
  cases u with
  | scheduler l =>
    obtain ⟨a,resto,r,one,crosses⟩ := mueve_scheduler_cases advances
    have calm : o.sistema.scheduler.sistema.ks.bsod_activo = false := by
      have after := outside
      dsimp only at after
      rw [one.avanza.result] at after
      exact (mueve_bsod one.avanza.move after).1
    have top : movida (.scheduler l) o.sistema = some a := cima_of_here one.avanza.here
    rw [top]
    exact mueve_cierre held.censo.canal held.censo.custodia calm outside (held.cierre calm) one crosses good
  | memoria x =>
    obtain ⟨same,serves⟩ := atender_ks_cases advances
    exact atiende_cierre held.censo.canal (held.cierre (same ▸ outside)) same serves
  | modulo e =>
    cases advances
    obtain ⟨cuentas,una,curso,pedido,quien,avisa,cubre,enviada⟩ := held.cierre outside
    have silent : e.notifica.count .fin_compactacion = 0 := by cases e <;> rfl
    refine ⟨cuentas,una,?_,pedido,quien,avisa,cubre,enviada⟩
    unfold compactaciones at curso ⊢
    dsimp only
    rw [List.count_append]
    omega

def al_empezar (segment_max_size : Int) (allocation_best_fit : Bool) (respuestas : Nat → Sticks.Respuesta) : Observado :=
  ⟨Kernels.inicial segment_max_size allocation_best_fit respuestas,[]⟩

/-- In a run of both kernels in which the process that a move of the scheduler takes off a list is there, outside a BSOD
    compactando is set exactly while one thread or one message is left to go on with the compaction. When the confirmation
    is on its way, Kernel Memory waits for it, the process whose request it was is the one that waits for its memory, nobody
    has leave to plan or can take it, the planner is not between the leave and its return (it sends OP_EJECUTAR_PROCESO before
    it gives the leave back), and every process that is still running has been sent its interrupt. -/
theorem compacts_with_planner_stopped {segment_max_size : Int} {allocation_best_fit : Bool} {respuestas : Nat → Sticks.Respuesta}
    {turnos : List Turno} {o : Observado}
    (guarded : Guarded (observa cfg orden) (fun u o => EnSuLista cfg u o.sistema) turnos
      (al_empezar segment_max_size allocation_best_fit respuestas))
    (reached : run (observa cfg orden) turnos (al_empezar segment_max_size allocation_best_fit respuestas) = some o)
    (outside : o.sistema.scheduler.sistema.ks.bsod_activo = false) :
    compactaciones o.sistema = (if o.sistema.scheduler.sistema.ks.compactando then 1 else 0) ∧
      (.confirmacion ∈ o.sistema.pedidos →
        (∃ p k i z, o.sistema.por_compactar = some (.crear_segmento p k i z) ∧
          o.sistema.scheduler.sistema.ks.proceso_esperando_memoria = some p) ∧
        o.sistema.scheduler.sistema.ks.compactando = true ∧ o.sistema.scheduler.sistema.ks.sem_puede_planificar = 0 ∧
        ¬ Pending (fun a => a = .planificar ∨ a = .post_puede_planificar) o.sistema.scheduler.sistema.hilos ∧
        ∀ p ∈ o.sistema.scheduler.sistema.ks.listas .lista_exec, p ∈ o.interrumpidos) := by
  have start : Cerrado cfg (al_empezar segment_max_size allocation_best_fit respuestas) :=
    ⟨inicial_censo segment_max_size allocation_best_fit respuestas,fun _ => inicial_cierre segment_max_size allocation_best_fit respuestas⟩
  have held : Cierre o.sistema o.interrumpidos := (invariant_of_guarded observa_cerrado start guarded reached).cierre outside
  refine ⟨held.curso,fun sent => ?_⟩
  have counted := List.count_pos_iff.mpr sent
  have busy : marca o.sistema.scheduler.sistema.ks = 1 := by
    have course := held.curso
    unfold compactaciones marca at course
    unfold marca
    split_ifs at course ⊢ <;> omega
  have one := held.cuentas.permiso
  obtain ⟨p,k,i,z,waiting,waits⟩ := held.espera (by omega)
  refine ⟨⟨p,k,i,z,waits,waiting⟩,?_,by omega,?_,held.enviada sent⟩
  · unfold marca at busy
    split_ifs at busy with set
    exact set
  · rintro ⟨pila,member,a,listed,holds⟩
    have token : permiso a = 1 := by rcases holds with rfl | rfl <;> rfl
    obtain ⟨first,last,rfl⟩ := List.append_of_mem listed
    have part := weight_le_total permiso member
    simp only [weight_append,weight_cons] at part
    omega

/-- Two CPUs with processes 0 and 1. Process 0 has a segment between two holes and asks for another for which neither is
    enough; its thread goes on until the confirmation is sent. -/
def fragmentada : List Turno :=
  .modulo (.memory_stick_agregar ⟨7,8,"",0,fun _ => 0⟩) :: con_memoria (despacho ++ llama 3 0 .init_proc (.entero 0) ++ turnos 3 1 ++
    [{ hilo := 3, entrada := .respuesta .OK }] ++ turnos 3 4 ++ [{ hilo := 0, entrada := .cliente_cpu }] ++ turnos 4 2 ++ turnos 1 6 ++
    pide_memoria .mem_alloc (.enteros 0 2) .OK ++ pide_memoria .mem_alloc (.enteros 1 2) .OK ++ pide_memoria .mem_free (.entero 0) .OK ++
    pide_memoria .mem_alloc (.enteros 2 6) .COMPACTAR ++ turnos 3 6)

theorem compacts_with_planner_stopped_fragmentada : ∃ o, run (observa fifo Sorting.insertion_sorter) fragmentada
      (al_empezar 64 true (fun _ => .responde)) = some o ∧ o.sistema.scheduler.sistema.ks.listas .lista_exec = [1] ∧
    o.sistema.scheduler.sistema.ks.sem_puede_planificar = 0 ∧ 1 ∈ o.interrumpidos := by
  have ends : (run (observa fifo Sorting.insertion_sorter) fragmentada (al_empezar 64 true (fun _ => .responde))).map
      (fun o => (o.sistema.scheduler.sistema.ks.bsod_activo,o.sistema.pedidos,o.sistema.scheduler.sistema.ks.listas .lista_exec)) =
      some (false,[.confirmacion],[1]) := by decide +kernel
  obtain ⟨o,reached,ends⟩ := Option.map_eq_some_iff.mp ends
  simp only [Prod.mk.injEq] at ends
  obtain ⟨outside,sent,running⟩ := ends
  obtain ⟨-,-,planner,-,covered⟩ := (compacts_with_planner_stopped (by decide +kernel) reached outside).2 (by simp [sent])
  exact ⟨o,reached,running,planner,covered 1 (by simp [running])⟩

end PlugNPray.CompactionLock
