import PlugNPray.ProcessLists
import PlugNPray.SwapOwners

/-!
Kernel Scheduler and Kernel Memory together: the threads of the scheduler share the socket of the
requests, one thread of Kernel Memory serves it, and a second socket carries the notifications.
A message is on its way until the other side takes it.
-/
namespace PlugNPray.Kernels
open PlugNPray.Scheduler PlugNPray.Handlers PlugNPray.ReadyQueues PlugNPray.Moves PlugNPray.Stacks PlugNPray.Runs
open PlugNPray.ProcessLists PlugNPray.Sorting
open PlugNPray.KernelMemory (Alta a_u32)

abbrev Memoria := KernelMemory.Estado

/-! ## Kernel Memory on the socket of the requests -/

inductive Mensaje where
  | pedido (q : Pedido)
  /-- The OP_OK to an OP_COMPACTAR. -/
  | confirmacion
  deriving DecidableEq

/-- What a request carries that the model of the scheduler does not keep. -/
structure Anexo where
  path : String := ""
  instrucciones : List String := []
  direccion_fisica : Nat := 0
  tamanio : Nat := 0
  contenido : List UInt8 := []

def codigo (ok : Bool) : Respuesta := if ok then .OK else .ERROR

def resultado : KernelMemory.ResultadoCrear → Respuesta
  | .CREAR_SEG_OK => .OK
  | .CREAR_SEG_COMPACTAR => .COMPACTAR
  | .CREAR_SEG_ERROR => .ERROR

/-- One request of atender_ks, with its answer. -/
def servir (x : Anexo) (q : Pedido) (m : Memoria) : Respuesta × Memoria :=
  match q with
  | .crear_proceso p _ => (.OK,KernelMemory.contexto_crear p x.path x.instrucciones m)
  | .finalizar_proceso p _ => (.OK,KernelMemory.finalizar p m)
  | .suspender_proceso p =>
    let r := KernelMemory.proceso_suspender p m
    (codigo r.1,r.2)
  | .dessuspender_proceso p _ =>
    let r := KernelMemory.proceso_dessuspender p m
    (codigo r.1,r.2)
  | .crear_segmento p _ id_segmento tamanio =>
    let r := KernelMemory.segmento_crear p id_segmento (a_u32 tamanio) m
    (resultado r.1,r.2)
  | .eliminar_segmento p _ id_segmento =>
    let r := KernelMemory.segmento_eliminar p id_segmento m
    (codigo r.1,r.2)
  | .escribir_datos _ _ =>
    let r := m.escribir x.direccion_fisica x.contenido
    (codigo r.1,r.2)
  | .leer_datos _ _ =>
    let r := m.leer x.direccion_fisica x.tamanio
    (codigo r.1.isSome,r.2)

/-- The notification that follows an answer. -/
def notifica : Pedido → Respuesta → List Aviso
  | .finalizar_proceso _ _, _ | .eliminar_segmento _ _ _, .OK | .suspender_proceso _, .OK => [.memoria_disponible]
  | _, _ => []

/-- The other modules of Kernel Memory. -/
inductive Modulo where
  | memory_stick_agregar (a : Alta)
  | memory_stick_eliminar (fd : Int)
  | swap_registrar (fd block_size swap_size : Int)
  | swap_desregistrar

def Modulo.aplicar : Modulo → Memoria → Memoria
  | .memory_stick_agregar a, m => KernelMemory.memory_stick_agregar a m
  | .memory_stick_eliminar fd, m => KernelMemory.memory_stick_eliminar fd m
  | .swap_registrar fd block_size swap_size, m => KernelMemory.swap_registrar fd block_size swap_size m
  | .swap_desregistrar, m => KernelMemory.swap_desregistrar m

def Modulo.notifica : Modulo → List Aviso
  | .memory_stick_agregar _ => [.memoria_disponible]
  | .memory_stick_eliminar _ => [.memoria_corrupta]
  | _ => []

/-! ## Both kernels -/

structure Sistema where
  scheduler : Vigilado
  memoria : Memoria
  pedidos : List Mensaje
  respuestas : List Respuesta
  avisos : List Aviso
  /-- The request for a segment whose OP_COMPACTAR has no OP_OK yet. -/
  por_compactar : Option Pedido

inductive Turno where
  | scheduler (l : Paso)
  | memoria (x : Anexo)
  | modulo (e : Modulo)

/-- What a thread of the scheduler receives comes from Kernel Memory, and what it sends goes there. -/
def mueve_scheduler (cfg : Config) (l : Paso) (s : Sistema) : Option Sistema :=
  match cima s.scheduler.sistema l.hilo with
  | some (.pedir q) => (vigila cfg l s.scheduler).map (fun v => { s with scheduler := v, pedidos := s.pedidos ++ [.pedido q] })
  | some .enviar_confirmacion =>
    (vigila cfg l s.scheduler).map (fun v => { s with scheduler := v, pedidos := s.pedidos ++ [.confirmacion] })
  | some (.recibir _) =>
    match s.respuestas with
    | r :: resto =>
      if l.entrada = .respuesta r then (vigila cfg l s.scheduler).map (fun v => { s with scheduler := v, respuestas := resto })
      else none
    | [] => none
  | some .hilo_escuchar_memoria =>
    match s.avisos with
    | x :: resto =>
      if l.entrada = .aviso x then (vigila cfg l s.scheduler).map (fun v => { s with scheduler := v, avisos := resto }) else none
    | [] => none
  | _ => (vigila cfg l s.scheduler).map (fun v => { s with scheduler := v })

/-- The compaction and the segment that asked for it. -/
def compactar (orden : Sorter) (q : Pedido) (m : Memoria) : Memoria :=
  let m := (KernelMemory.compactar orden (fun _ => []) m).2
  match q with
  | .crear_segmento p _ id_segmento tamanio => (KernelMemory.segmento_crear p id_segmento (a_u32 tamanio) m).2
  | _ => m

/-- A turn of atender_ks. Where it takes a request for the OP_OK to its OP_COMPACTAR the source goes on, and reads the rest of the
    request as codes of others: there is no such turn here. -/
def atender_ks (orden : Sorter) (x : Anexo) (s : Sistema) : Option Sistema :=
  match s.por_compactar, s.pedidos with
  | none, .pedido q :: resto =>
    let r := servir x q s.memoria
    some { s with
      memoria := r.2
      pedidos := resto
      respuestas := s.respuestas ++ [r.1]
      avisos := s.avisos ++ notifica q r.1
      por_compactar := if r.1 = .COMPACTAR then some q else none }
  | none, .confirmacion :: resto => some { s with pedidos := resto }
  | some q, .confirmacion :: resto =>
    some { s with
      memoria := compactar orden q s.memoria
      pedidos := resto
      avisos := s.avisos ++ [.fin_compactacion,.memoria_disponible]
      por_compactar := none }
  | _, _ => none

def paso (cfg : Config) (orden : Sorter) : Turno → Sistema → Option Sistema
  | .scheduler l, s => mueve_scheduler cfg l s
  | .memoria x, s => atender_ks orden x s
  | .modulo e, s => some { s with memoria := e.aplicar s.memoria, avisos := s.avisos ++ e.notifica }

def inicial (segment_max_size : Int) (allocation_best_fit : Bool) (respuestas : Nat → Sticks.Respuesta) : Sistema where
  scheduler := inicio
  memoria := KernelMemory.inicial segment_max_size allocation_best_fit respuestas
  pedidos := []
  respuestas := []
  avisos := []
  por_compactar := none

/-- A condition on the moves of the scheduler. -/
def al_scheduler (guard : Paso → Vigilado → Prop) : Turno → Sistema → Prop
  | .scheduler l, s => guard l s.scheduler
  | _, _ => True

instance (guard : Paso → Vigilado → Prop) [∀ l v, Decidable (guard l v)] : ∀ t s, Decidable (al_scheduler guard t s)
  | .scheduler l, s => inferInstanceAs (Decidable (guard l s.scheduler))
  | .memoria _, _ | .modulo _, _ => isTrue trivial

/-! ## What a turn does -/

variable {cfg : Config} {orden : Sorter} {s t : Sistema}

/-- One move of a thread of the scheduler. -/
structure Avanza (cfg : Config) (l : Paso) (v w : Vigilado) (a : Accion) (resto : Pila) (r : Efecto) : Prop where
  avanza : Moves.Avanza cfg l v.sistema w.sistema a resto r
  vigila : vigila cfg l v = some w

theorem vigila_avanza {l : Paso} {v w : Vigilado} (moved : vigila cfg l v = some w) : ∃ a resto r, Avanza cfg l v w a resto r := by
  obtain ⟨t,advances,rfl⟩ := Option.map_eq_some_iff.mp moved
  obtain ⟨a,resto,r,one⟩ := paso_avanza advances
  exact ⟨a,resto,r,one,moved⟩

/-- The sockets after a move of the scheduler. -/
inductive Cruza (s t : Sistema) (l : Paso) : Accion → Prop where
  | pide (q : Pedido) (sent : t.pedidos = s.pedidos ++ [.pedido q])
      (same : (t.memoria,t.respuestas,t.avisos,t.por_compactar) = (s.memoria,s.respuestas,s.avisos,s.por_compactar)) : Cruza s t l (.pedir q)
  | confirma (sent : t.pedidos = s.pedidos ++ [.confirmacion])
      (same : (t.memoria,t.respuestas,t.avisos,t.por_compactar) = (s.memoria,s.respuestas,s.avisos,s.por_compactar)) :
      Cruza s t l .enviar_confirmacion
  | recibe (q : Pedido) (r : Respuesta) (read : s.respuestas = r :: t.respuestas) (value : l.entrada = .respuesta r)
      (same : (t.memoria,t.pedidos,t.avisos,t.por_compactar) = (s.memoria,s.pedidos,s.avisos,s.por_compactar)) : Cruza s t l (.recibir q)
  | oye (x : Aviso) (read : s.avisos = x :: t.avisos) (value : l.entrada = .aviso x)
      (same : (t.memoria,t.pedidos,t.respuestas,t.por_compactar) = (s.memoria,s.pedidos,s.respuestas,s.por_compactar)) :
      Cruza s t l .hilo_escuchar_memoria
  | nada {a : Accion} (other : (∀ q, a ≠ .pedir q) ∧ a ≠ .enviar_confirmacion ∧ (∀ q, a ≠ .recibir q) ∧ a ≠ .hilo_escuchar_memoria)
      (same : (t.memoria,t.pedidos,t.respuestas,t.avisos,t.por_compactar) = (s.memoria,s.pedidos,s.respuestas,s.avisos,s.por_compactar)) :
      Cruza s t l a

theorem Cruza.memoria {l : Paso} {a : Accion} (crosses : Cruza s t l a) : t.memoria = s.memoria := by
  cases crosses with
  | pide q sent same | confirma sent same | recibe q r read value same | oye x read value same | nada other same =>
    simp only [Prod.mk.injEq] at same
    exact same.1

theorem registrados_mono {l : Paso} {v w : Vigilado} (moved : vigila cfg l v = some w) {p : Nat} (listed : p ∈ v.registrados) :
    p ∈ w.registrados := by
  obtain ⟨t,-,rfl⟩ := Option.map_eq_some_iff.mp moved
  exact List.mem_append_right _ listed

theorem mueve_scheduler_cases {l : Paso} (moved : mueve_scheduler cfg l s = some t) :
    ∃ a resto r, Avanza cfg l s.scheduler t.scheduler a resto r ∧ Cruza s t l a := by
  have named : ∀ {w a}, vigila cfg l s.scheduler = some w → cima s.scheduler.sistema l.hilo = some a →
      ∃ resto r, Avanza cfg l s.scheduler w a resto r := by
    intro w a advances top
    obtain ⟨b,resto,r,one⟩ := vigila_avanza advances
    obtain rfl := Option.some.inj ((cima_of_here one.avanza.here).symm.trans top)
    exact ⟨resto,r,one⟩
  unfold mueve_scheduler at moved
  split at moved
  case h_1 q top =>
    obtain ⟨w,advances,rfl⟩ := Option.map_eq_some_iff.mp moved
    obtain ⟨resto,r,one⟩ := named advances top
    exact ⟨_,resto,r,one,.pide q rfl rfl⟩
  case h_2 top =>
    obtain ⟨w,advances,rfl⟩ := Option.map_eq_some_iff.mp moved
    obtain ⟨resto,r,one⟩ := named advances top
    exact ⟨_,resto,r,one,.confirma rfl rfl⟩
  case h_3 q top =>
    split at moved
    case h_1 v rest read =>
      split_ifs at moved with value
      obtain ⟨w,advances,rfl⟩ := Option.map_eq_some_iff.mp moved
      obtain ⟨resto,r,one⟩ := named advances top
      exact ⟨_,resto,r,one,.recibe q v read value rfl⟩
    case h_2 => cases moved
  case h_4 top =>
    split at moved
    case h_1 x rest read =>
      split_ifs at moved with value
      obtain ⟨w,advances,rfl⟩ := Option.map_eq_some_iff.mp moved
      obtain ⟨resto,r,one⟩ := named advances top
      exact ⟨_,resto,r,one,.oye x read value rfl⟩
    case h_2 => cases moved
  case h_5 pide confirma recibe oye =>
    obtain ⟨w,advances,rfl⟩ := Option.map_eq_some_iff.mp moved
    obtain ⟨a,resto,r,one⟩ := vigila_avanza advances
    have top := cima_of_here one.avanza.here
    refine ⟨a,resto,r,one,.nada ⟨?_,?_,?_,?_⟩ rfl⟩
    · rintro q rfl
      exact pide q top
    · rintro rfl
      exact confirma top
    · rintro q rfl
      exact recibe q top
    · rintro rfl
      exact oye top

/-- A turn of atender_ks. -/
inductive Atiende (orden : Sorter) (x : Anexo) (s t : Sistema) : Prop where
  | sirve (q : Pedido) (idle : s.por_compactar = none) (taken : s.pedidos = .pedido q :: t.pedidos)
      (memoria : t.memoria = (servir x q s.memoria).2) (answer : t.respuestas = s.respuestas ++ [(servir x q s.memoria).1])
      (avisos : t.avisos = s.avisos ++ notifica q (servir x q s.memoria).1)
      (waits : t.por_compactar = if (servir x q s.memoria).1 = .COMPACTAR then some q else none)
  | ignora (idle : s.por_compactar = none) (taken : s.pedidos = .confirmacion :: t.pedidos)
      (same : (t.memoria,t.respuestas,t.avisos,t.por_compactar) = (s.memoria,s.respuestas,s.avisos,s.por_compactar))
  | compacta (q : Pedido) (waits : s.por_compactar = some q) (taken : s.pedidos = .confirmacion :: t.pedidos)
      (memoria : t.memoria = compactar orden q s.memoria) (avisos : t.avisos = s.avisos ++ [.fin_compactacion,.memoria_disponible])
      (same : t.respuestas = s.respuestas) (done : t.por_compactar = none)

theorem atender_ks_cases {x : Anexo} (moved : atender_ks orden x s = some t) :
    t.scheduler = s.scheduler ∧ Atiende orden x s t := by
  unfold atender_ks at moved
  split at moved
  case h_1 q rest idle taken =>
    cases moved
    exact ⟨rfl,.sirve q idle taken rfl rfl rfl rfl⟩
  case h_2 rest idle taken =>
    cases moved
    exact ⟨rfl,.ignora idle taken rfl⟩
  case h_3 q rest waits taken =>
    cases moved
    exact ⟨rfl,.compacta q waits taken rfl rfl rfl rfl⟩
  case h_4 => cases moved

/-! ## What a move asks for -/

/-- The actions that ask Kernel Memory for something, wait for it, or act on what it answered. -/
def trata : Accion → Bool
  | .pedir _ | .recibir _ | .sacar_de_susp_ready _ _ | .esperar_planificacion _ | .anotar_espera _ | .bloquear_por_compactacion _
  | .desalojar_todas_las_cpus | .enviar_confirmacion | .fin_compactacion => true
  | _ => false

/-- What the thread of a request that needs a compaction does before it confirms it. -/
def prepara : Accion → Bool
  | .esperar_planificacion _ | .anotar_espera _ | .bloquear_por_compactacion _ | .desalojar_todas_las_cpus => true
  | _ => false

/-- The moves after which a thread has something to ask Kernel Memory for, or to do about its answer. -/
def trae : Accion → Bool
  | .pedir _ | .recibir _ | .crear_proceso_inicial | .manejar_init_proc _ | .manejar_proceso_exit _ | .manejar_seg_fault _
  | .hilo_suspension _ _ | .manejar_mem_alloc _ _ | .manejar_mem_free _ _ | .ejecutar_io_stdin _ _ | .tomar_pedido_io _ _
  | .leer_susp_ready _ | .esperar_planificacion _ | .anotar_espera _ | .bloquear_por_compactacion _ | .desalojar_todas_las_cpus
  | .hilo_escuchar_memoria => true
  | _ => false

theorem trata_de_bucle : ∀ b, de_bucle b = true → (!trata b) = true := by
  intro b loop
  cases b <;> first | rfl | cases loop

theorem callada_desalojo {pila : Pila} (one : Desalojo pila) : pila.all (fun b => !trata b) = true :=
  all_de_bucle trata_de_bucle (desalojo_de_bucle one)

theorem callada_anuncio (v : Int) : (anuncio cfg v).all (fun b => !trata b) = true :=
  all_de_bucle trata_de_bucle (anuncio_de_bucle cfg v)

variable {hora : Nat} {k : Ks}

theorem mueve_callada {a : Accion} {r : Efecto} (move : Mueve cfg hora k a r) (quiet : trae a = false) :
    r.sigue.all (fun b => !trata b) = true ∧ r.lanza.all (fun pila => pila.all (fun b => !trata b)) = true := by
  cases move with
  | mover_proceso_a_ready p desaloja one | mover_proceso_de_block_a_ready p desaloja one =>
    exact ⟨by simp only [List.all_append,callada_desalojo one,callada_anuncio,Bool.and_self],rfl⟩
  | sacar_de_susp_ready p i desaloja one =>
    exact ⟨by simp only [List.all_append,callada_desalojo one,callada_anuncio,Bool.and_self,List.all_cons,List.all_nil]; rfl,rfl⟩
  | desconectar_ocupada k p busy desaloja one =>
    exact ⟨by simp only [List.all_append,callada_desalojo one,callada_anuncio,Bool.and_self],rfl⟩
  | manejar_fin_quantum k p running normal desaloja one =>
    exact ⟨by simp only [List.all_append,callada_desalojo one,List.all_cons,List.all_nil,Bool.true_and]; rfl,rfl⟩
  | liberar_cpu_de_quantum c planificable => cases planificable <;> exact ⟨rfl,rfl⟩
  | liberar_mutex_del_proceso pid i => exact ⟨all_de_bucle trata_de_bucle (liberar_pila cfg hora pid i k),rfl⟩
  | ceder_mutex pid i p r what silent => exact ⟨all_de_bucle trata_de_bucle (liberar_pila cfg hora pid (i + 1) r.1),rfl⟩
  | ceder_mutex_pausa pid i p r what pausa =>
    refine ⟨?_,rfl⟩
    simp only [List.all_append,all_de_bucle trata_de_bucle (despierta_pila what),List.all_cons,List.all_nil,Bool.true_and]
    rfl
  | lock_espera p k j pid nombre m r found taken what =>
    rcases what with rfl | ⟨cmn,owner,inherits⟩
    · exact ⟨rfl,rfl⟩
    · refine ⟨?_,rfl⟩
      simp only [List.all_append,callada_desalojo (herencia_pila inherits),List.all_cons,List.all_nil,Bool.true_and]
      rfl
  | unlock_cede p k j siguiente espera nombre m t r found queue what d inherits silent wakes => cases wakes <;> exact ⟨rfl,rfl⟩
  | unlock_pausa p k j siguiente espera nombre m t r found queue what inherits pausa =>
    refine ⟨?_,rfl⟩
    simp only [List.all_append,callada_desalojo (herencia_pila inherits),List.all_cons,List.all_nil,Bool.true_and]
    rfl
  | despertar_siguiente p d wakes => cases wakes <;> exact ⟨rfl,rfl⟩
  | manejar_bsod busy =>
    refine ⟨?_,rfl⟩
    simp only [List.all_append,all_de_bucle trata_de_bucle (interrupciones_de_bucle k),List.all_cons,List.all_nil,Bool.true_and]
    rfl
  | pedir | recibir | crear_proceso_inicial | manejar_init_proc | manejar_proceso_exit | exit_desconocido | manejar_seg_fault
  | seg_fault_desconocido | vence_suspension | vence_en_vano | suspension_vieja | manejar_mem_alloc | manejar_mem_free
  | ejecutar_io_stdin | tomar_nada | tomar_pedido_io | leer_susp_ready | esperar_planificacion | anotar_espera | bloquear_por_compactacion
  | desalojar_todas_las_cpus | memoria_disponible | aviso_fin_compactacion | memoria_corrupta | aviso_desconocido
  | memoria_cerrada => cases quiet
  | _ => exact ⟨rfl,rfl⟩

/-- The request that a move leads to. -/
inductive Origen (s : Ks) : Accion → Pedido → Prop where
  | inicial : Origen s .crear_proceso_inicial (.crear_proceso s.proximo_pid none)
  | init_proc (k : Nat) : Origen s (.manejar_init_proc k) (.crear_proceso s.proximo_pid (some k))
  | exit (k p : Nat) (running : p ∈ s.listas .lista_exec) : Origen s (.manejar_proceso_exit k) (.finalizar_proceso p (s.procesos p).cpu)
  | seg_fault (k p : Nat) (running : p ∈ s.listas .lista_exec) : Origen s (.manejar_seg_fault k) (.finalizar_proceso p (s.procesos p).cpu)
  | suspension (t p : Nat) (blocked : (s.procesos p).estado = .BLOCK) : Origen s (.hilo_suspension t p) (.suspender_proceso p)
  | susp_ready (i p : Nat) (here : (s.listas .lista_susp_ready)[i]? = some p) : Origen s (.leer_susp_ready i) (.dessuspender_proceso p i)
  | mem_alloc (p k : Nat) (id_segmento tamanio : Int) : Origen s (.manejar_mem_alloc p k) (.crear_segmento p k id_segmento tamanio)
  | mem_free (p k : Nat) (id_segmento : Int) : Origen s (.manejar_mem_free p k) (.eliminar_segmento p k id_segmento)
  | stdin (d p : Nat) : Origen s (.ejecutar_io_stdin d p) (.escribir_datos p d)
  | stdout (t : TipoIo) (d p : Nat) : Origen s (.tomar_pedido_io t d) (.leer_datos p d)

/-- What a move leaves to be asked of Kernel Memory, waited for, or done about its answer. -/
inductive Encargo (s : Ks) : Accion → Efecto → Prop where
  | nada {a : Accion} {r : Efecto} (other : (∀ q, a ≠ .pedir q) ∧ (∀ q, a ≠ .recibir q)) (plain : prepara a = false)
      (sigue : r.sigue.all (fun b => !trata b) = true) (lanza : r.lanza.all (fun pila => pila.all (fun b => !trata b)) = true) : Encargo s a r
  | pide (q : Pedido) (free : s.mutex_pedidos_memoria = false) :
      Encargo s (.pedir q) ⟨{ s with mutex_pedidos_memoria := true },[.recibir q],[]⟩
  | contesta (q : Pedido) (v : Respuesta) :
      Encargo s (.recibir q) ⟨{ s with mutex_pedidos_memoria := false },tras_respuesta q v,[]⟩
  | encarga {a : Accion} {q : Pedido} {t : Ks} (origin : Origen s a q) : Encargo s a ⟨t,[.pedir q],[]⟩
  | espera {p : Nat} {t : Ks} : Encargo s (.esperar_planificacion p) ⟨t,[.anotar_espera p],[]⟩
  | anota {p : Nat} {t : Ks} : Encargo s (.anotar_espera p) ⟨t,[.bloquear_por_compactacion p],[]⟩
  | bloquea {p : Nat} {t : Ks} : Encargo s (.bloquear_por_compactacion p) ⟨t,[.desalojar_todas_las_cpus],[]⟩
  | desaloja {sent : Pila} (silent : sent.all (fun b => !trata b) = true) :
      Encargo s .desalojar_todas_las_cpus ⟨s,sent ++ [.enviar_confirmacion],[]⟩
  | termina : Encargo s .hilo_escuchar_memoria ⟨s,[.fin_compactacion,.hilo_escuchar_memoria],[]⟩

theorem mueve_encargo {a : Accion} {r : Efecto} (move : Mueve cfg hora k a r) : Encargo k a r := by
  by_cases quiet : trae a = false
  · obtain ⟨sigue,lanza⟩ := mueve_callada move quiet
    refine .nada ⟨?_,?_⟩ ?_ sigue lanza
    · rintro q rfl
      cases quiet
    · rintro q rfl
      cases quiet
    · cases a <;> first | rfl | cases quiet
  cases move with
  | pedir q free => exact .pide q free
  | recibir q v => exact .contesta q v
  | crear_proceso_inicial => exact .encarga .inicial
  | manejar_init_proc k prioridad => exact .encarga (.init_proc k)
  | manejar_proceso_exit j p running => exact .encarga (.exit j p running)
  | manejar_seg_fault j p running => exact .encarga (.seg_fault j p running)
  | vence_suspension t p found valid blocked => exact .encarga (.suspension t p blocked)
  | manejar_mem_alloc p j id_segmento tamanio => exact .encarga (.mem_alloc p j id_segmento tamanio)
  | manejar_mem_free p j id_segmento => exact .encarga (.mem_free p j id_segmento)
  | ejecutar_io_stdin d p => exact .encarga (.stdin d p)
  | leer_susp_ready i p here => exact .encarga (.susp_ready i p here)
  | tomar_pedido_io t d p cola queue =>
    cases t with
    | STDOUT => exact .encarga (.stdout _ d p)
    | _ => exact .nada ⟨by simp,by simp⟩ rfl rfl rfl
  | esperar_planificacion p n token => exact .espera
  | anotar_espera p => exact .anota
  | bloquear_por_compactacion p => exact .bloquea
  | desalojar_todas_las_cpus busy => exact .desaloja (all_de_bucle trata_de_bucle (interrupciones_de_bucle k))
  | aviso_fin_compactacion => exact .termina
  | exit_desconocido | seg_fault_desconocido | vence_en_vano | suspension_vieja | tomar_nada | memoria_disponible | memoria_corrupta
  | aviso_desconocido | memoria_cerrada => exact .nada ⟨by simp,by simp⟩ rfl rfl rfl
  | _ => exact absurd rfl quiet

/-! ## Requests under way -/

/-- A thread is about to make such a request. -/
def en_pedir (f : Pedido → Nat) : Accion → Nat
  | .pedir q => f q
  | _ => 0

def recibe : Accion → Nat
  | .recibir _ => 1
  | _ => 0

def Mensaje.peso (f : Pedido → Nat) : Mensaje → Nat
  | .pedido q => f q
  | .confirmacion => 0

/-- The requests that Kernel Memory has still to serve. -/
def por_servir (f : Pedido → Nat) (s : Sistema) : Nat :=
  total (en_pedir f) s.scheduler.sistema.hilos + weight (Mensaje.peso f) s.pedidos

theorem callada_weight {g : Accion → Nat} (none : ∀ b, trata b = false → g b = 0) {pila : Pila}
    (silent : pila.all (fun b => !trata b) = true) : weight g pila = 0 := by
  refine weight_zero (fun b member => none b ?_)
  simpa using List.all_eq_true.mp silent b member

theorem callada_total {g : Accion → Nat} (none : ∀ b, trata b = false → g b = 0) {hilos : List Pila}
    (silent : hilos.all (fun pila => pila.all (fun b => !trata b)) = true) : total g hilos = 0 := by
  refine total_zero (fun pila member b listed => none b ?_)
  simpa using List.all_eq_true.mp (List.all_eq_true.mp silent pila member) b listed

theorem en_pedir_callada {f : Pedido → Nat} {b : Accion} (silent : trata b = false) : en_pedir f b = 0 := by
  cases b <;> first | rfl | cases silent

theorem recibe_callada {b : Accion} (silent : trata b = false) : recibe b = 0 := by
  cases b <;> first | rfl | cases silent

theorem en_pedir_tras_respuesta (f : Pedido → Nat) (q : Pedido) (v : Respuesta) : weight (en_pedir f) (tras_respuesta q v) = 0 := by
  cases q with
  | crear_proceso p k => cases k <;> cases v <;> rfl
  | _ => cases v <;> rfl

theorem recibe_tras_respuesta (q : Pedido) (v : Respuesta) : weight recibe (tras_respuesta q v) = 0 := by
  cases q with
  | crear_proceso p k => cases k <;> cases v <;> rfl
  | _ => cases v <;> rfl

/-- What a move adds to the requests that are to be made. -/
def nuevos (f : Pedido → Nat) (r : Efecto) : Nat := weight (en_pedir f) r.sigue + total (en_pedir f) r.lanza

theorem nuevos_cases {a : Accion} {r : Efecto} (gives : Encargo k a r) (f : Pedido → Nat) :
    nuevos f r = 0 ∨ ∃ q, Origen k a q ∧ nuevos f r = f q := by
  cases gives with
  | nada other plain sigue lanza =>
    left
    rw [nuevos,callada_weight (fun _ => en_pedir_callada) sigue,callada_total (fun _ => en_pedir_callada) lanza]
  | pide q free => exact .inl rfl
  | contesta q v =>
    left
    rw [nuevos,en_pedir_tras_respuesta]
    rfl
  | encarga origin => exact .inr ⟨_,origin,by simp [nuevos,en_pedir]⟩
  | espera | anota | bloquea => exact .inl rfl
  | desaloja silent =>
    left
    rw [nuevos,weight_append,callada_weight (fun _ => en_pedir_callada) silent]
    rfl
  | termina => exact .inl rfl

/-- The threads and the socket after a move of the scheduler. -/
theorem por_servir_mueve {l : Paso} {a : Accion} {resto : Pila} {r : Efecto} (one : Avanza cfg l s.scheduler t.scheduler a resto r)
    (crosses : Cruza s t l a) (f : Pedido → Nat) : por_servir f t = por_servir f s + nuevos f r := by
  have sum := total_advance (en_pedir f) one.avanza.here r.sigue r.lanza
  have hilos : t.scheduler.sistema.hilos = advance s.scheduler.sistema.hilos l.hilo r.sigue resto r.lanza := by
    rw [one.avanza.result]
  rw [por_servir,por_servir,nuevos,hilos]
  cases crosses with
  | pide q sent same =>
    have mine : en_pedir f (.pedir q) = f q := rfl
    simp only [sent,weight_append,weight_cons,weight_nil,Mensaje.peso]
    omega
  | confirma sent same =>
    have none : en_pedir f .enviar_confirmacion = 0 := rfl
    simp only [sent,weight_append,weight_cons,weight_nil,Mensaje.peso]
    omega
  | recibe q v read value same =>
    have none : en_pedir f (.recibir q) = 0 := rfl
    simp only [Prod.mk.injEq] at same
    rw [same.2.1]
    omega
  | oye x read value same =>
    have none : en_pedir f .hilo_escuchar_memoria = 0 := rfl
    simp only [Prod.mk.injEq] at same
    rw [same.2.1]
    omega
  | nada other same =>
    simp only [Prod.mk.injEq] at same
    have none : en_pedir f a = 0 := by
      cases a with
      | pedir q => exact absurd rfl (other.1 q)
      | _ => rfl
    rw [same.2.1]
    omega

/-! ## One request at a time -/

theorem mueve_cerrojo {a : Accion} {r : Efecto} (move : Mueve cfg hora k a r) (other : (∀ q, a ≠ .pedir q) ∧ ∀ q, a ≠ .recibir q) :
    r.ks.mutex_pedidos_memoria = k.mutex_pedidos_memoria := by
  have far : Ajena Ks.mutex_pedidos_memoria := fun _ _ _ _ _ => rfl
  cases move with
  | pedir q => exact absurd rfl (other.1 q)
  | recibir q => exact absurd rfl (other.2 q)
  | desconectar_ociosa j idle | desconectar_ocupada j p busy desaloja one =>
    show (quitar_cpu_libre j k).mutex_pedidos_memoria = k.mutex_pedidos_memoria
    unfold quitar_cpu_libre
    split_ifs <;> rfl
  | liberar_mutex_del_proceso pid i => exact liberar_ajena far cfg hora pid i k
  | ceder_mutex pid i p r what silent => exact (liberar_ajena far cfg hora pid (i + 1) r.1).trans (despierta_ajena far what)
  | ceder_mutex_pausa pid i p r what pausa => exact despierta_ajena far what
  | lock_espera p j i pid nombre m r found taken what =>
    rcases what with rfl | ⟨cmn,owner,inherits⟩
    · rfl
    · exact (herencia_ajena far inherits).trans rfl
  | unlock_sin_espera p j i nombre m t found empty what => exact (devolucion_ajena far what).trans rfl
  | unlock_cede p j i siguiente espera nombre m t r found queue what d inherits silent wakes =>
    have same := (herencia_ajena far inherits).trans ((devolucion_ajena far what).trans rfl)
    cases wakes <;> exact same
  | unlock_pausa p j i siguiente espera nombre m t r found queue what inherits pausa =>
    exact (herencia_ajena far inherits).trans ((devolucion_ajena far what).trans rfl)
  | despertar_siguiente p d wakes => cases wakes <;> rfl
  | _ => rfl

def espera (q : Pedido) (b : Accion) : Nat := if b = .recibir q then 1 else 0

/-- The lock is taken for one request, which is on its way, or its answer is, and whose thread waits for it. -/
structure Canal (s : Sistema) : Prop where
  uno : weight (Mensaje.peso (fun _ => 1)) s.pedidos + s.respuestas.length = total recibe s.scheduler.sistema.hilos
  cerrojo : total recibe s.scheduler.sistema.hilos = if s.scheduler.sistema.ks.mutex_pedidos_memoria then 1 else 0
  mio : ∀ q, .pedido q ∈ s.pedidos → 0 < total (espera q) s.scheduler.sistema.hilos

theorem espera_le (q : Pedido) (b : Accion) : espera q b ≤ recibe b := by
  cases b with
  | recibir q' => by_cases same : q' = q <;> simp [espera,recibe,same]
  | _ => simp [espera]

/-- One thread waits for an answer at a time. -/
theorem espera_sola (held : Canal s) {q q' : Pedido} (first : 0 < total (espera q) s.scheduler.sistema.hilos)
    (second : 0 < total (espera q') s.scheduler.sistema.hilos) : q' = q := by
  by_contra apart
  have both : ∀ b, espera q b + espera q' b ≤ recibe b := by
    intro b
    by_cases mine : b = .recibir q
    · subst mine
      simp [espera,recibe,Ne.symm apart]
    · have less := espera_le q' b
      simpa [espera,mine] using less
  have bound := total_mono both s.scheduler.sistema.hilos
  rw [total_add,held.cerrojo] at bound
  split_ifs at bound <;> omega

theorem inicial_canal (segment_max_size : Int) (allocation_best_fit : Bool) (respuestas : Nat → Sticks.Respuesta) :
    Canal (Kernels.inicial segment_max_size allocation_best_fit respuestas) where
  uno := rfl
  cerrojo := rfl
  mio q sent := by cases sent

/-- How many threads wait for an answer. -/
theorem recibe_mueve {a : Accion} {r : Efecto} (gives : Encargo k a r) :
    weight recibe r.sigue + total recibe r.lanza = match a with | .pedir _ => 1 | _ => 0 := by
  cases gives with
  | nada other plain sigue lanza =>
    rw [callada_weight (fun _ => recibe_callada) sigue,callada_total (fun _ => recibe_callada) lanza]
    cases a with
    | pedir q => exact absurd rfl (other.1 q)
    | _ => rfl
  | pide q free => rfl
  | contesta q v =>
    rw [recibe_tras_respuesta]
    rfl
  | encarga origin => cases origin <;> rfl
  | espera | anota | bloquea => rfl
  | desaloja silent =>
    rw [weight_append,callada_weight (fun _ => recibe_callada) silent]
    rfl
  | termina => rfl

theorem pedido_pesa {q : Pedido} {pedidos : List Mensaje} (sent : .pedido q ∈ pedidos) :
    0 < weight (Mensaje.peso (fun _ => 1)) pedidos := by
  obtain ⟨pre,post,rfl⟩ := List.append_of_mem sent
  simp [Mensaje.peso]

theorem mueve_canal {l : Paso} {a : Accion} {resto : Pila} {r : Efecto} (held : Canal s)
    (one : Avanza cfg l s.scheduler t.scheduler a resto r) (crosses : Cruza s t l a) : Canal t := by
  obtain ⟨uno,cerrojo,mio⟩ := held
  have counts := recibe_mueve (mueve_encargo one.avanza.move)
  have sum := fun f : Accion → Nat => total_advance f one.avanza.here r.sigue r.lanza
  have waits := sum recibe
  have mine := fun q => sum (espera q)
  have kept : (∀ q, a ≠ .pedir q) ∧ (∀ q, a ≠ .recibir q) → total recibe t.scheduler.sistema.hilos = total recibe s.scheduler.sistema.hilos ∧
      t.scheduler.sistema.ks.mutex_pedidos_memoria = s.scheduler.sistema.ks.mutex_pedidos_memoria ∧
      ∀ q, total (espera q) s.scheduler.sistema.hilos ≤ total (espera q) t.scheduler.sistema.hilos := by
    intro other
    have none : recibe a = 0 := by
      cases a with
      | recibir q => exact absurd rfl (other.2 q)
      | _ => rfl
    have zero : weight recibe r.sigue + total recibe r.lanza = 0 := by
      rw [counts]
      cases a with
      | pedir q => exact absurd rfl (other.1 q)
      | _ => rfl
    rw [one.avanza.result]
    refine ⟨by dsimp only; omega,mueve_cerrojo one.avanza.move other,fun q => ?_⟩
    have less := espera_le q a
    have same := mine q
    dsimp only
    omega
  cases crosses with
  | pide q sent same =>
    simp only [Prod.mk.injEq] at same
    have move := one.avanza.move
    have result := one.avanza.result
    cases move with
    | pedir q free =>
      rw [free] at cerrojo
      simp only [recibe,espera,weight_cons,weight_nil,total_nil,reduceCtorEq,if_false,Accion.recibir.injEq,Bool.false_eq_true] at waits mine cerrojo
      refine ⟨?_,?_,fun q' waiting => ?_⟩
      · rw [sent,same.2.1,result]
        simp only [weight_append,weight_cons,weight_nil,Mensaje.peso]
        omega
      · rw [result]
        simp only [if_true]
        omega
      · rw [sent] at waiting
        rcases List.mem_append.mp waiting with old | new
        · have some := pedido_pesa old
          omega
        · obtain rfl := Mensaje.pedido.inj (List.mem_singleton.mp new)
          have here := mine q'
          rw [if_pos rfl] at here
          rw [result]
          dsimp only
          omega
  | recibe q v read value same =>
    simp only [Prod.mk.injEq] at same
    have move := one.avanza.move
    have result := one.avanza.result
    rw [read,List.length_cons] at uno
    cases move with
    | recibir q v =>
      have here := item_le_total recibe one.avanza.here
      have zero := recibe_tras_respuesta q v
      simp only [recibe,total_nil] at waits here
      have full : total recibe s.scheduler.sistema.hilos ≤ 1 := by
        rw [cerrojo]
        split_ifs <;> omega
      refine ⟨?_,?_,fun q' waiting => ?_⟩
      · rw [same.2.1,result]
        dsimp only
        omega
      · rw [result]
        simp only [Bool.false_eq_true,if_false]
        omega
      · rw [same.2.1] at waiting
        have some := pedido_pesa waiting
        omega
  | confirma sent same =>
    simp only [Prod.mk.injEq] at same
    obtain ⟨count,lock,grows⟩ := kept ⟨by simp,by simp⟩
    refine ⟨?_,?_,fun q waiting => ?_⟩
    · rw [sent,same.2.1,count]
      simpa [Mensaje.peso] using uno
    · rw [count,lock]
      exact cerrojo
    · have old : .pedido q ∈ s.pedidos := by simpa [sent] using waiting
      exact (mio q old).trans_le (grows q)
  | oye x read value same =>
    simp only [Prod.mk.injEq] at same
    obtain ⟨count,lock,grows⟩ := kept ⟨by simp,by simp⟩
    refine ⟨?_,?_,fun q waiting => ?_⟩
    · rw [same.2.1,same.2.2.1,count]
      exact uno
    · rw [count,lock]
      exact cerrojo
    · exact (mio q (same.2.1 ▸ waiting)).trans_le (grows q)
  | nada other same =>
    simp only [Prod.mk.injEq] at same
    obtain ⟨count,lock,grows⟩ := kept ⟨other.1,other.2.2.1⟩
    refine ⟨?_,?_,fun q waiting => ?_⟩
    · rw [same.2.1,same.2.2.1,count]
      exact uno
    · rw [count,lock]
      exact cerrojo
    · exact (mio q (same.2.1 ▸ waiting)).trans_le (grows q)

theorem atiende_canal {x : Anexo} (held : Canal s) (same : t.scheduler = s.scheduler) (serves : Atiende orden x s t) : Canal t := by
  obtain ⟨uno,cerrojo,mio⟩ := held
  cases serves with
  | sirve q idle taken memoria answer avisos waits =>
    refine ⟨?_,by rw [same]; exact cerrojo,fun q' sent => ?_⟩
    · rw [taken] at uno
      simp only [weight_cons,Mensaje.peso] at uno
      rw [same,answer,List.length_append]
      simp only [List.length_cons,List.length_nil]
      omega
    · rw [same]
      exact mio q' (by rw [taken]; exact List.mem_cons_of_mem _ sent)
  | ignora idle taken kept =>
    simp only [Prod.mk.injEq] at kept
    refine ⟨?_,by rw [same]; exact cerrojo,fun q' sent => ?_⟩
    · rw [taken] at uno
      simp only [weight_cons,Mensaje.peso] at uno
      rw [same,kept.2.1]
      omega
    · rw [same]
      exact mio q' (by rw [taken]; exact List.mem_cons_of_mem _ sent)
  | compacta q waits taken memoria avisos kept done =>
    refine ⟨?_,by rw [same]; exact cerrojo,fun q' sent => ?_⟩
    · rw [taken] at uno
      simp only [weight_cons,Mensaje.peso] at uno
      rw [same,kept]
      omega
    · rw [same]
      exact mio q' (by rw [taken]; exact List.mem_cons_of_mem _ sent)

/-! ## The processes that Kernel Memory knows -/

def pids (m : Memoria) : List Int := m.lista_contextos.map KernelMemory.Contexto.pid
def suspendidos (m : Memoria) : List Int := m.procesos_en_swap.map KernelMemory.ProcesoSwap.pid

variable {m : Memoria} {x : Anexo} {p : Nat} {pid : Int}

theorem suspendidos_of_registro {m' : Memoria} (same : Operations.Estado.registro m' = Operations.Estado.registro m) :
    suspendidos m' = suspendidos m :=
  congrArg (fun r : Operations.Registro => r.procesos_en_swap.map KernelMemory.ProcesoSwap.pid) same

theorem suspendidos_finalizar : suspendidos (KernelMemory.finalizar pid m) = (suspendidos m).erase pid := by
  have context : ∀ n : Memoria, suspendidos (KernelMemory.contexto_eliminar pid n) = suspendidos n := by
    intro n
    unfold KernelMemory.contexto_eliminar
    cases KernelMemory.contexto_buscar n pid <;> rfl
  have ram : suspendidos (KernelMemory.liberar_ram pid m) = suspendidos m := by
    unfold KernelMemory.liberar_ram
    cases KernelMemory.contexto_buscar m pid <;> rfl
  rw [KernelMemory.finalizar,context,KernelMemory.proceso_liberar_memoria,← ram]
  generalize KernelMemory.liberar_ram pid m = n
  unfold KernelMemory.liberar_swap
  cases saved : KernelMemory.buscar_proceso_swap n pid with
  | none =>
    refine (List.erase_of_not_mem ?_).symm
    simpa [KernelMemory.buscar_proceso_swap,Places.first_none,suspendidos] using saved
  | some kps =>
    obtain ⟨k,ps⟩ := kps
    obtain ⟨pre,post,split,rfl,mine,others⟩ := Operations.split_of_proceso_swap saved
    exact Places.map_eraseIdx split mine others

theorem segmento_crear_conserva {id_segmento : Int} {tamanio : Nat} :
    pids (KernelMemory.segmento_crear pid id_segmento tamanio m).2 = pids m ∧
      suspendidos (KernelMemory.segmento_crear pid id_segmento tamanio m).2 = suspendidos m := by
  unfold KernelMemory.segmento_crear
  by_cases large : m.segment_max_size > 0 ∧ tamanio > a_u32 m.segment_max_size
  · rw [if_pos large]
    exact ⟨rfl,rfl⟩
  · rw [if_neg large]
    cases KernelMemory.contexto_buscar m pid with
    | none => exact ⟨rfl,rfl⟩
    | some ic =>
      dsimp only
      cases KernelMemory.buscar_hueco m tamanio with
      | none => exact ⟨rfl,rfl⟩
      | some kh => exact ⟨Operations.pids_con_tabla _ _ _,rfl⟩

theorem segmento_eliminar_conserva {id_segmento : Int} :
    pids (KernelMemory.segmento_eliminar pid id_segmento m).2 = pids m ∧
      suspendidos (KernelMemory.segmento_eliminar pid id_segmento m).2 = suspendidos m := by
  unfold KernelMemory.segmento_eliminar
  cases KernelMemory.contexto_buscar m pid with
  | none => exact ⟨rfl,rfl⟩
  | some ic =>
    dsimp only
    cases KernelMemory.buscar_segmento ic.2 id_segmento with
    | none => exact ⟨rfl,rfl⟩
    | some js => exact ⟨Operations.pids_con_tabla _ _ _,rfl⟩

/-- A suspension keeps the contexts, and puts its process in the swap at most. -/
theorem suspender_conserva : pids (KernelMemory.proceso_suspender pid m).2 = pids m ∧
    (suspendidos (KernelMemory.proceso_suspender pid m).2 = suspendidos m ∨
      pid ∉ suspendidos m ∧ suspendidos (KernelMemory.proceso_suspender pid m).2 = suspendidos m ++ [pid]) := by
  rcases Suspensions.suspender_frame pid m with ⟨respuestas,usados,archivo,same⟩ |
    ⟨i,c,nuevos,respuestas,usados,archivo,found,absent,names,same⟩
  · rw [same]
    exact ⟨rfl,.inl rfl⟩
  · rw [same]
    refine ⟨Operations.pids_con_tabla _ _ _,.inr ⟨?_,?_⟩⟩
    · intro listed
      obtain ⟨ps,member,mine⟩ := List.mem_map.mp listed
      exact absent ps member mine
    · simp [suspendidos,Suspensions.suspendido,KernelMemory.Estado.con_tabla]

/-- A de-suspension keeps the contexts; one that goes well takes its process off the swap. -/
theorem dessuspender_conserva : pids (KernelMemory.proceso_dessuspender pid m).2 = pids m ∧
    suspendidos (KernelMemory.proceso_dessuspender pid m).2 =
      if (KernelMemory.proceso_dessuspender pid m).1 then (suspendidos m).erase pid else suspendidos m := by
  have ends := Suspensions.dessuspender_spec pid m
  generalize KernelMemory.proceso_dessuspender pid m = r at ends ⊢
  obtain ⟨ok,m'⟩ := r
  cases ends with
  | nunca absent =>
    refine ⟨rfl,(List.erase_of_not_mem ?_).symm⟩
    simpa [KernelMemory.buscar_proceso_swap,Places.first_none,suspendidos] using absent
  | huerfano => exact ⟨rfl,rfl⟩
  | no_entra huecos => exact ⟨rfl,rfl⟩
  | @vuelve k i ps c puestos huecos f saved found placed names fichas =>
    obtain ⟨pre,post,split,rfl,mine,others⟩ := Operations.split_of_proceso_swap saved
    refine ⟨?_,Places.map_eraseIdx split mine others⟩
    have tables := Operations.pids_con_tabla (Operations.Estado.con_datos m f
      (m.desmarcar (SwapCopies.ocupados ps.segmentos)).swap_bloques_usados m.archivo_swap) i
      (fun tabla => tabla ++ puestos.map Operations.a_segmento)
    exact tables

theorem compactar_conserva {q : Pedido} : pids (compactar orden q m) = pids m ∧ suspendidos (compactar orden q m) = suspendidos m := by
  have contexts : pids (KernelMemory.compactar orden (fun _ => []) m).2 = pids m := by
    have owners := congrArg (List.map Prod.fst) (Compaction.fichas_compactar orden (fun _ => []) m)
    simpa only [Compaction.fichas,List.map_map,Function.comp_def,pids] using owners
  have swap : suspendidos (KernelMemory.compactar orden (fun _ => []) m).2 = suspendidos m := by
    have apart : SwapOwners.de_swap (.compactar (fun _ => [])) = false := rfl
    exact suspendidos_of_registro (SwapOwners.registro_aplicar orden apart m)
  unfold compactar
  cases q with
  | crear_segmento p k id_segmento tamanio =>
    exact ⟨segmento_crear_conserva.1.trans contexts,segmento_crear_conserva.2.trans swap⟩
  | _ => exact ⟨contexts,swap⟩

theorem modulo_conserva (e : Modulo) : pids (e.aplicar m) = pids m ∧ suspendidos (e.aplicar m) = suspendidos m := by
  cases e <;> exact ⟨rfl,rfl⟩

theorem servir_pids (x : Anexo) (q : Pedido) (m : Memoria) : pids (servir x q m).2 =
    match q with
    | .crear_proceso p _ => pids m ++ [(p : Int)]
    | .finalizar_proceso p _ => (pids m).erase (p : Int)
    | _ => pids m := by
  cases q with
  | crear_proceso p k => simp [servir,KernelMemory.contexto_crear,pids]
  | finalizar_proceso p k => exact Operations.pids_finalizar p m
  | suspender_proceso p => exact suspender_conserva.1
  | dessuspender_proceso p i => exact dessuspender_conserva.1
  | crear_segmento p k id_segmento tamanio => exact segmento_crear_conserva.1
  | eliminar_segmento p k id_segmento => exact segmento_eliminar_conserva.1
  | escribir_datos p d => rfl
  | leer_datos p d => rfl

theorem Atiende.toma (serves : Atiende orden x s t) : ∃ b, s.pedidos = b :: t.pedidos := by
  cases serves with
  | sirve q idle taken => exact ⟨_,taken⟩
  | ignora idle taken => exact ⟨_,taken⟩
  | compacta q waits taken => exact ⟨_,taken⟩

/-- A message that is taken is served. -/
theorem por_servir_toma (same : t.scheduler = s.scheduler) {b : Mensaje} (taken : s.pedidos = b :: t.pedidos) (f : Pedido → Nat) :
    por_servir f s = por_servir f t + b.peso f := by
  rw [por_servir,por_servir,same,taken,weight_cons]
  omega

end PlugNPray.Kernels
