import PlugNPray.CompactionLock
import PlugNPray.Conversations

/-!
Both kernels and the CPUs, message by message: what each of them has sent and the other has not read.
-/
namespace PlugNPray.KernelsAndCpus
open PlugNPray.Scheduler PlugNPray.Handlers PlugNPray.ReadyQueues PlugNPray.Moves PlugNPray.Stacks PlugNPray.Runs
open PlugNPray.ProcessLists PlugNPray.Sorting PlugNPray.Kernels PlugNPray.Census PlugNPray.CpuPlaces PlugNPray.CpuDuties
open PlugNPray.CpuAccounts PlugNPray.CpuSessions PlugNPray.SessionMoves PlugNPray.Conversations
open PlugNPray.CpuTurns (Cpu Modo Instruccion leer instruir revisar irse)

/-! ## The kernels and the CPUs -/

structure Conjunto where
  kernels : Kernels.Sistema
  cpus : Nat → Cpu
  /-- What each CPU has sent and its thread has not read. -/
  a_ks : Nat → List Entrada
  /-- The process whose registers the CPU has changed since it last sent them to Kernel Memory. -/
  sin_guardar : Nat → Option Nat
  /-- Kernel Memory is inside compactar; the OP_OK that it has taken is still the first of its messages here. -/
  en_compactar : Bool

inductive Turno where
  | scheduler (l : Paso)
  | memoria (x : Anexo)
  | modulo (e : Modulo)
  /-- The main loop or the wait for an answer reads. -/
  | lee (k : Nat) (contexto : Bool)
  | instruccion (k : Nat) (i : Instruccion)
  | revisa (k : Nat)
  | se_va (k : Nat)

/-- What a thread receives comes from Kernel Memory or from its CPU. -/
def planifica (cfg : Config) (l : Paso) (v : Conjunto) : Option Conjunto :=
  (cima v.kernels.scheduler.sistema l.hilo).bind (fun a =>
    (CpuTurns.toma a l.entrada v.a_ks).bind (fun a_ks =>
      (mueve_scheduler cfg l v.kernels).map (fun t =>
        let n := v.kernels.scheduler.sistema.ks.proximo_cliente
        { v with
          kernels := t
          cpus := conecta a l.entrada n (CpuTurns.entrega a v.cpus)
          a_ks := estrena a l.entrada n a_ks })))

/-- The OP_OK that Kernel Memory waits for has come. -/
def confirmada (s : Kernels.Sistema) : Bool := s.por_compactar.isSome && decide (s.pedidos.head? = some .confirmacion)

/-- atender_ks enters compactar, and the turn after that it has left it. -/
def atiende_ks (orden : Sorter) (x : Anexo) (v : Conjunto) : Option Conjunto :=
  if confirmada v.kernels && !v.en_compactar then some { v with en_compactar := true }
  else (atender_ks orden x v.kernels).map (fun t => { v with kernels := t, en_compactar := false })

/-- The CPU has taken its turn. It sends its registers to Kernel Memory before it tells the scheduler anything. -/
def Conjunto.turno (v : Conjunto) (k : Nat) (usa : Option Nat) (r : CpuTurns.Turno) : Conjunto :=
  { v with
    cpus := Function.update v.cpus k r.1
    a_ks := Function.update v.a_ks k (v.a_ks k ++ r.2)
    sin_guardar := Function.update v.sin_guardar k (if r.2 = [] then usa else none) }

def paso (cfg : Config) (orden : Sorter) (u : Turno) (v : Conjunto) : Option Conjunto :=
  match u with
  | .scheduler l => planifica cfg l v
  | .memoria x => atiende_ks orden x v
  | .modulo e => (Kernels.paso cfg orden (.modulo e) v.kernels).map (fun t => { v with kernels := t })
  | .lee k contexto => (leer contexto (v.cpus k)).map (v.turno k (v.sin_guardar k))
  | .instruccion k i => if propia i then (instruir i (v.cpus k)).map (v.turno k (v.cpus k).modo.pid) else none
  | .revisa k => (revisar (v.cpus k)).map (v.turno k (v.sin_guardar k))
  | .se_va k => (irse (v.cpus k)).map (v.turno k none)

def al_arrancar (segment_max_size : Int) (allocation_best_fit : Bool) (respuestas : Nat → Sticks.Respuesta) : Conjunto where
  kernels := Kernels.inicial segment_max_size allocation_best_fit respuestas
  cpus := fun _ => ⟨.ida,none,[]⟩
  a_ks := fun _ => []
  sin_guardar := fun _ => none
  en_compactar := false

/-! ## What the CPUs and their threads say to each other -/

/-- The accounts of both kernels, and outside a BSOD every conversation with a CPU. -/
structure Charla (cfg : Config) (v : Conjunto) : Prop where
  cerrado : ∃ interrumpidos, CompactionLock.Cerrado cfg ⟨v.kernels,interrumpidos⟩
  sesiones : v.kernels.scheduler.sistema.ks.bsod_activo = false → Sesiones v.kernels.scheduler.sistema v.cpus v.a_ks

variable {cfg : Config} {orden : Sorter} {segment_max_size : Int} {allocation_best_fit : Bool} {respuestas : Nat → Sticks.Respuesta}
  {v w : Conjunto} {k : Nat} {l : Paso} {a : Accion} {resto : Pila} {r : Efecto} {c : CpuTurns.Turno} {usa : Option Nat}

theorem inicial_charla : Charla cfg (al_arrancar segment_max_size allocation_best_fit respuestas) where
  cerrado := ⟨[],inicial_censo segment_max_size allocation_best_fit respuestas,
    fun _ => CompactionLock.inicial_cierre segment_max_size allocation_best_fit respuestas⟩
  sesiones _ := inicial_sesiones _

theorem Charla.cuentas (held : Charla cfg v) (outside : v.kernels.scheduler.sistema.ks.bsod_activo = false) :
    Cuentas v.kernels.scheduler.sistema := by
  obtain ⟨interrumpidos,closed⟩ := held.cerrado
  exact (closed.cierre outside).cuentas

/-- A move of a thread, with the sockets that it reads from and writes to. -/
structure Planifica (cfg : Config) (l : Paso) (v w : Conjunto) (a : Accion) (resto : Pila) (r : Efecto) : Prop where
  one : Kernels.Avanza cfg l v.kernels.scheduler w.kernels.scheduler a resto r
  moved : mueve_scheduler cfg l v.kernels = some w.kernels
  crosses : Cruza v.kernels w.kernels l a
  a_ks : ∃ a_ks, CpuTurns.toma a l.entrada v.a_ks = some a_ks ∧
    w.a_ks = estrena a l.entrada v.kernels.scheduler.sistema.ks.proximo_cliente a_ks
  cpus : w.cpus = conecta a l.entrada v.kernels.scheduler.sistema.ks.proximo_cliente (CpuTurns.entrega a v.cpus)
  otros : (w.sin_guardar,w.en_compactar) = (v.sin_guardar,v.en_compactar)

theorem planifica_cases (moved : planifica cfg l v = some w) : ∃ a resto r, Planifica cfg l v w a resto r := by
  obtain ⟨a,top,moved⟩ := Option.bind_eq_some_iff.mp moved
  obtain ⟨a_ks,taken,moved⟩ := Option.bind_eq_some_iff.mp moved
  obtain ⟨t,advances,rfl⟩ := Option.map_eq_some_iff.mp moved
  obtain ⟨a',resto,r,one,crosses⟩ := mueve_scheduler_cases advances
  obtain rfl := Option.some.inj ((cima_of_here one.avanza.here).symm.trans top)
  exact ⟨a',resto,r,one,advances,crosses,⟨a_ks,taken,rfl⟩,rfl,rfl⟩

theorem Planifica.sistema (moves : Planifica cfg l v w a resto r) : w.kernels.scheduler.sistema =
    ⟨r.ks,advance v.kernels.scheduler.sistema.hilos l.hilo r.sigue resto r.lanza⟩ := moves.one.avanza.result

theorem Planifica.calm (moves : Planifica cfg l v w a resto r) (outside : w.kernels.scheduler.sistema.ks.bsod_activo = false) :
    v.kernels.scheduler.sistema.ks.bsod_activo = false := by
  rw [moves.sistema] at outside
  exact (mueve_bsod moves.one.avanza.move outside).1

/-- What a move of a thread is, and what it leaves of the conversations. -/
theorem Planifica.trato (moves : Planifica cfg l v w a resto r) (held : Charla cfg v)
    (good : al_mover (en_su_lista cfg) l v.kernels.scheduler.sistema = true) (outside : w.kernels.scheduler.sistema.ks.bsod_activo = false) :
    Trato v.kernels.scheduler.sistema.ks l.entrada a r ∧ Cambio v.kernels.scheduler.sistema.ks a r ∧
      Sesiones w.kernels.scheduler.sistema w.cpus w.a_ks := by
  have calm := moves.calm outside
  have here := moves.one.avanza.here
  obtain ⟨interrumpidos,closed⟩ := held.cerrado
  obtain ⟨a_ks,taken,heard⟩ := moves.a_ks
  have talks := held.sesiones calm
  have accounts := (closed.cierre calm).cuentas
  have known := closed.censo.custodia.known calm
  have unborn := closed.censo.custodia.unborn calm
  have due := (CompactionLock.marca_mueve (closed.cierre calm) here moves.one.avanza.move unborn).2
  have listed : en_su_lista cfg a l.entrada v.kernels.scheduler.sistema.ks = true := by
    simpa [al_mover,cima_of_here here] using good
  rw [moves.sistema] at outside
  obtain ⟨trato,-,change⟩ := trato_de_sesiones talks accounts here moves.one.avanza.effect taken outside listed due known unborn
  refine ⟨trato,change,?_⟩
  rw [moves.sistema,moves.cpus,heard]
  exact sesiones_avanza talks accounts here moves.one.avanza.effect taken outside listed due known unborn

theorem Planifica.cerrado (moves : Planifica cfg l v w a resto r) {interrumpidos : List Nat}
    (closed : CompactionLock.Cerrado cfg ⟨v.kernels,interrumpidos⟩)
    (good : al_mover (en_su_lista cfg) l v.kernels.scheduler.sistema = true) :
    CompactionLock.Cerrado cfg ⟨w.kernels,CompactionLock.anota (some a) interrumpidos⟩ := by
  refine @CompactionLock.observa_cerrado cfg Sorting.insertion_sorter (.scheduler l) _ _ closed good ?_
  simp [CompactionLock.observa,Kernels.paso,moves.moved,CompactionLock.movida,cima_of_here moves.one.avanza.here]

theorem planifica_charla (held : Charla cfg v) (good : al_mover (en_su_lista cfg) l v.kernels.scheduler.sistema = true)
    (moves : Planifica cfg l v w a resto r) : Charla cfg w := by
  obtain ⟨interrumpidos,closed⟩ := held.cerrado
  exact ⟨⟨_,moves.cerrado closed good⟩,fun outside => (moves.trato held good outside).2.2⟩

theorem atiende_charla {x : Anexo} (held : Charla cfg v) (moved : atiende_ks orden x v = some w) : Charla cfg w := by
  unfold atiende_ks at moved
  split_ifs at moved with enters
  · cases moved
    exact ⟨held.cerrado,held.sesiones⟩
  · obtain ⟨t,advances,rfl⟩ := Option.map_eq_some_iff.mp moved
    obtain ⟨same,-⟩ := atender_ks_cases advances
    obtain ⟨interrumpidos,closed⟩ := held.cerrado
    refine ⟨⟨_,CompactionLock.observa_cerrado (.memoria x) _ _ closed trivial (Option.map_eq_some_iff.mpr ⟨t,advances,rfl⟩)⟩,?_⟩
    dsimp only
    rw [same]
    exact held.sesiones

theorem modulo_charla {e : Modulo} (held : Charla cfg v) (moved : paso cfg orden (.modulo e) v = some w) : Charla cfg w := by
  cases moved
  obtain ⟨interrumpidos,closed⟩ := held.cerrado
  exact ⟨⟨_,@CompactionLock.observa_cerrado cfg orden (.modulo e) _ _ closed trivial rfl⟩,held.sesiones⟩

/-! ## Turns of the CPUs -/

/-- What a CPU says in its turn fits with what its thread expects. -/
def Habla (v : Conjunto) (k : Nat) (c : CpuTurns.Turno) : Prop :=
  v.kernels.scheduler.sistema.ks.bsod_activo = false → ∀ pila ∈ v.kernels.scheduler.sistema.hilos, .atender_cpu k ∈ pila →
    Sesion v.kernels.scheduler.sistema.ks (total (despacho v.kernels.scheduler.sistema.ks k) v.kernels.scheduler.sistema.hilos) k pila
      c.1 (v.a_ks k ++ c.2)

theorem turno_charla (held : Charla cfg v) (alive : (v.cpus k).modo ≠ .ida) (talks : Habla v k c) : Charla cfg (v.turno k usa c) :=
  ⟨held.cerrado,fun outside => sesiones_turno (held.sesiones outside) alive (talks outside)⟩

theorem leer_viva {contexto : Bool} (turn : leer contexto (v.cpus k) = some c) : (v.cpus k).modo ≠ .ida := by
  intro gone
  simp [leer,gone] at turn

theorem habla_leer {contexto : Bool} (held : Charla cfg v) (turn : leer contexto (v.cpus k) = some c) : Habla v k c := by
  intro outside pila member reads
  have talks := held.sesiones outside
  have talk := talks.sesion pila member k reads
  have once := (held.cuentas outside).una_vez k
  simp only [lugares,sitios] at once
  cases mode : (v.cpus k).modo with
  | principal =>
    simp only [leer,mode] at turn
    exact sesion_principal talk mode turn
  | recibir_respuesta q tipo =>
    simp only [leer,mode] at turn
    exact sesion_contesta talk (talks.seguidas pila member) (by omega) mode turn
  | ejecuta q | check_interrupt q | ida => simp [leer,mode] at turn

theorem instruir_modo {i : Instruccion} (turn : instruir i (v.cpus k) = some c) : ∃ p, (v.cpus k).modo = .ejecuta p := by
  cases mode : (v.cpus k).modo with
  | ejecuta p => exact ⟨p,rfl⟩
  | _ => simp [instruir,mode] at turn

theorem habla_instruir {i : Instruccion} (held : Charla cfg v) (fine : propia i = true) (turn : instruir i (v.cpus k) = some c) :
    Habla v k c :=
  fun outside pila member reads => sesion_instruye ((held.sesiones outside).sesion pila member k reads) fine turn

theorem revisar_modo (turn : revisar (v.cpus k) = some c) : ∃ p, (v.cpus k).modo = .check_interrupt p := by
  cases mode : (v.cpus k).modo with
  | check_interrupt p => exact ⟨p,rfl⟩
  | _ => simp [revisar,mode] at turn

theorem habla_revisar (held : Charla cfg v) (turn : revisar (v.cpus k) = some c) : Habla v k c :=
  fun outside pila member reads => sesion_revisa ((held.sesiones outside).sesion pila member k reads) turn

theorem irse_viva (turn : irse (v.cpus k) = some c) : (v.cpus k).modo ≠ .ida := by
  intro gone
  simp [irse,gone] at turn

theorem habla_irse (held : Charla cfg v) (turn : irse (v.cpus k) = some c) : Habla v k c :=
  fun outside pila member reads => sesion_se_va ((held.sesiones outside).sesion pila member k reads) turn

end PlugNPray.KernelsAndCpus
