import PlugNPray.CpuCycle
import PlugNPray.Intervals
import PlugNPray.Runs

/-!
Several CPUs that share the sticks and the contexts of Kernel Memory: a process that is
evicted and dispatched again, on any CPU, goes on as if it had run alone on one CPU, unless
the limit check of some access wraps around. The
processes only compute: a call to Kernel Scheduler, whose answer may depend on what the
others do, is no step here, and neither are new sticks, compactions and suspensions.
-/
namespace PlugNPray.Preemption
open PlugNPray.Runs PlugNPray.Places PlugNPray.Intervals PlugNPray.Mmu PlugNPray.FlatMemory PlugNPray.Sticks PlugNPray.CpuMemory
open PlugNPray.Instructions PlugNPray.CpuCycle

structure Contexto where
  pid : UInt32
  registros : Registros
  instrucciones : List String
  tabla_segmentos : List Segmento
  deriving DecidableEq

/-- `pid` is the process of the inner loop of main. -/
structure Cpu where
  pid : Option UInt32
  registros : Registros
  tabla_segmentos : List Segmento
  sticks_cpu : List StickCpu

/-- Kernel Memory's contexts and sticks, the CPUs, and what the Kernel Scheduler knows: the CPU
    that a process is on, and what it ended for. The history has the registers after each instruction. -/
structure Maquina where
  lista_contextos : List Contexto
  fisica : Fisica
  listas : Nat → Lista
  cpus : Nat → Cpu
  asignada : UInt32 → Option Nat
  motivo : UInt32 → Option Motivo
  historia : UInt32 → List Registros

def Maquina.sticks (m : Maquina) : List MemoryStick := m.fisica.lista_memory_sticks
def Maquina.vista (m : Maquina) (cpu : Nat) : MemoriaCpu := ⟨m.fisica,(m.cpus cpu).sticks_cpu,m.listas⟩

/-! ## Kernel Memory -/

def contexto_buscar (lista_contextos : List Contexto) (pid : UInt32) : Option Contexto :=
  record Contexto.pid pid lista_contextos

def contexto_guardar (pid : UInt32) (registros : Registros) (lista_contextos : List Contexto) : List Contexto :=
  lista_contextos.modify (lista_contextos.findIdx (fun c => c.pid = pid)) (fun c => { c with registros := registros })

/-- What OP_FETCH answers; the CPU takes an empty line, or one beyond its buffer, for an error. -/
def fetch (lista_contextos : List Contexto) (pid pc : UInt32) : Option String :=
  match contexto_buscar lista_contextos pid with
  | none => none
  | some ctx =>
    if pc.toInt32 < 0 then none
    else
      match ctx.instrucciones[pc.toNat]? with
      | none => none
      | some instruccion =>
        if instruccion.utf8ByteSize = 0 ∨ 10000 < instruccion.utf8ByteSize then none else some instruccion

/-! ## A CPU -/

/-- `interrumpe` is what check_interrupt answers. Undefined for a call to the Kernel Scheduler. -/
def ejecutar_ciclo_instruccion (tam_max_segmento : UInt32) (lista_contextos : List Contexto) (interrumpe : Bool) (pid : UInt32)
    (c : Cpu) (vista : MemoriaCpu) : Option ((Registros × Motivo) × MemoriaCpu) :=
  match fetch lista_contextos pid c.registros.PC with
  | none => some ((c.registros,.ERROR),vista)
  | some instruccion =>
    let palabras := decode instruccion
    (execute tam_max_segmento c.tabla_segmentos pid palabras.1 palabras.2.1 palabras.2.2 c.registros vista).map (fun r =>
      if r.1.2 ≠ .CONTINUAR then r else if interrumpe then ((r.1.1,.FIN_QUANTUM),r.2) else r)

/-- The CPU has the context that it asked Kernel Memory for. -/
def Maquina.obtener_contexto (m : Maquina) (cpu : Nat) (pid : UInt32) (ctx : Contexto) : Maquina :=
  { m with
    cpus := Function.update m.cpus cpu
      { m.cpus cpu with pid := some pid, registros := ctx.registros, tabla_segmentos := ctx.tabla_segmentos }
    asignada := Function.update m.asignada pid (some cpu) }

/-- The cycle is over: the registers and the CPU's view of memory, and the history. -/
def Maquina.tras_ciclo (m : Maquina) (cpu : Nat) (pid : UInt32) (registros : Registros) (vista : MemoriaCpu) : Maquina :=
  { m with
    fisica := vista.toFisica
    listas := vista.listas
    cpus := Function.update m.cpus cpu { m.cpus cpu with registros := registros, sticks_cpu := vista.sticks_cpu }
    historia := Function.update m.historia pid (m.historia pid ++ [registros]) }

/-- The context is saved and the scheduler told: only after the end of its quantum the process goes on. -/
def avisar_fin_a_scheduler (cpu : Nat) (pid : UInt32) (motivo : Motivo) (m : Maquina) : Maquina :=
  { m with
    lista_contextos := contexto_guardar pid (m.cpus cpu).registros m.lista_contextos
    cpus := Function.update m.cpus cpu { m.cpus cpu with pid := none }
    asignada := Function.update m.asignada pid none
    motivo := if motivo = .FIN_QUANTUM then m.motivo else Function.update m.motivo pid (some motivo) }

inductive Paso where
  | ejecutar_proceso (cpu : Nat) (pid : UInt32)
  | ciclo (cpu : Nat) (interrumpe : Bool)
  deriving DecidableEq

/-- A process that has a context and has not ended is given to a CPU that is free, and to no
    second one; a CPU goes through one cycle. -/
def paso (tam_max_segmento : UInt32) : Paso → Maquina → Option Maquina
  | .ejecutar_proceso cpu pid, m =>
    if (m.cpus cpu).pid.isSome || (m.asignada pid).isSome || (m.motivo pid).isSome then none
    else
      match contexto_buscar m.lista_contextos pid with
      | none => none
      | some ctx => some (m.obtener_contexto cpu pid ctx)
  | .ciclo cpu interrumpe, m =>
    match (m.cpus cpu).pid with
    | none => none
    | some pid =>
      match ejecutar_ciclo_instruccion tam_max_segmento m.lista_contextos interrumpe pid (m.cpus cpu) (m.vista cpu) with
      | none => none
      | some r =>
        let m := m.tras_ciclo cpu pid r.1.1 r.2
        if r.1.2 = .CONTINUAR then some m else some (avisar_fin_a_scheduler cpu pid r.1.2 m)

/-- The process alone on the first CPU, for `n` instructions without evictions. -/
def sola (pid : UInt32) (n : Nat) : List Paso := .ejecutar_proceso 0 pid :: List.replicate n (.ciclo 0 false)

/-- The registers of a process: the CPU's while it is on one, else those of its context. -/
def Maquina.actual (m : Maquina) (pid : UInt32) : Option Registros :=
  match m.asignada pid with
  | some cpu => some (m.cpus cpu).registros
  | none => (contexto_buscar m.lista_contextos pid).map Contexto.registros

def rango (s : Segmento) : Range := ⟨s.base.toNat,s.limite.toNat⟩

/-- Different processes have disjoint segments, and all segments lie in memory. -/
structure Separados (lista_contextos : List Contexto) (total : Nat) : Prop where
  residente : ∀ c ∈ lista_contextos, Residente c.tabla_segmentos total
  aparte : ∀ c ∈ lista_contextos, ∀ d ∈ lista_contextos, c.pid ≠ d.pid →
    ∀ s ∈ c.tabla_segmentos, ∀ t ∈ d.tabla_segmentos, (rango s).Apart (rango t)

/-- No process has run yet, and whatever is asked of the sticks and of Kernel Memory is answered. -/
structure Inicial (m : Maquina) : Prop where
  separados : Separados m.lista_contextos (tamanios m.sticks)
  vista : ∀ cpu, Dispuesta (m.vista cpu)
  libres : ∀ cpu, (m.cpus cpu).pid = none
  sin_asignar : ∀ pid, m.asignada pid = none
  sin_terminar : ∀ pid, m.motivo pid = none
  sin_historia : ∀ pid, m.historia pid = []

/-- No access of the cycle's instruction goes outside the segments of its process by a wrap. -/
def SinVueltas (tam_max_segmento : UInt32) (l : Paso) (m : Maquina) : Prop :=
  match l with
  | .ejecutar_proceso _ _ => True
  | .ciclo cpu _ =>
    ∀ pid ∈ (m.cpus cpu).pid, ∀ instruccion ∈ fetch m.lista_contextos pid (m.cpus cpu).registros.PC,
      Acotada tam_max_segmento (m.cpus cpu).tabla_segmentos (tamanios m.sticks) (decode instruccion).1 (decode instruccion).2.1
        (m.cpus cpu).registros

/-- Every process has gone through the same registers as alone on one CPU for as many
    instructions, ended for the same motive, and has the same bytes in its segments. -/
def Transparente (tam_max_segmento : UInt32) (inicio m : Maquina) : Prop :=
  ∀ pid c, contexto_buscar inicio.lista_contextos pid = some c →
    ∃ s, run (paso tam_max_segmento) (sola pid (m.historia pid).length) inicio = some s ∧ s.historia pid = m.historia pid ∧
      s.motivo pid = m.motivo pid ∧ s.actual pid = m.actual pid ∧
      ∀ d, Propio c.tabla_segmentos d → plano s.sticks d = plano m.sticks d

instance (tam_max_segmento : UInt32) : ∀ l m, Decidable (SinVueltas tam_max_segmento l m)
  | .ejecutar_proceso _ _, _ => isTrue trivial
  | .ciclo cpu _, m =>
    inferInstanceAs (Decidable (∀ pid ∈ (m.cpus cpu).pid, ∀ instruccion ∈ fetch m.lista_contextos pid (m.cpus cpu).registros.PC,
      Acotada tam_max_segmento (m.cpus cpu).tabla_segmentos (tamanios m.sticks) (decode instruccion).1 (decode instruccion).2.1
        (m.cpus cpu).registros))

variable {tam_max_segmento : UInt32}

/-! ## The contexts -/

theorem buscar_guardar (pid q : UInt32) (registros : Registros) (l : List Contexto) :
    contexto_buscar (contexto_guardar pid registros l) q =
      if q = pid then (contexto_buscar l pid).map (fun c => { c with registros := registros }) else contexto_buscar l q := by
  have keeps : ∀ c : Contexto, ({ c with registros := registros } : Contexto).pid = c.pid := fun _ => rfl
  exact record_modify keeps pid q l

/-- Saving changes no program and no table. -/
theorem buscar_guardar_tabla (pid : UInt32) (registros : Registros) {q : UInt32} {l : List Contexto} {c : Contexto}
    (found : contexto_buscar l q = some c) : ∃ d, contexto_buscar (contexto_guardar pid registros l) q = some d ∧
      d.instrucciones = c.instrucciones ∧ d.tabla_segmentos = c.tabla_segmentos := by
  rw [buscar_guardar]
  split_ifs with mine
  · subst mine
    rw [found]
    exact ⟨_,rfl,rfl,rfl⟩
  · exact ⟨c,found,rfl,rfl⟩

theorem mem_guardar {pid : UInt32} {registros : Registros} {l : List Contexto} {c : Contexto}
    (listed : c ∈ contexto_guardar pid registros l) : ∃ d ∈ l, d.pid = c.pid ∧ d.tabla_segmentos = c.tabla_segmentos := by
  obtain ⟨i,here⟩ := List.getElem?_of_mem listed
  rw [contexto_guardar,List.getElem?_modify] at here
  obtain ⟨d,old,same⟩ := Option.map_eq_some_iff.mp here
  refine ⟨d,List.mem_of_getElem? old,?_⟩
  subst same
  split_ifs
  · exact ⟨rfl,rfl⟩
  · exact ⟨rfl,rfl⟩

theorem separados_guardar {l : List Contexto} {total : Nat} (apart : Separados l total) (pid : UInt32)
    (registros : Registros) : Separados (contexto_guardar pid registros l) total where
  residente c listed := by
    obtain ⟨d,old,-,table⟩ := mem_guardar listed
    exact table ▸ apart.residente d old
  aparte c listedC e listedE other := by
    obtain ⟨d,oldD,pidD,tableD⟩ := mem_guardar listedC
    obtain ⟨f,oldF,pidF,tableF⟩ := mem_guardar listedE
    rw [← tableD,← tableF]
    exact apart.aparte d oldD f oldF (by rw [pidD,pidF]; exact other)

/-- No byte is in segments of two processes. -/
theorem propio_uno {l : List Contexto} {total : Nat} (apart : Separados l total) {pid q : UInt32} {c d : Contexto}
    (foundC : contexto_buscar l pid = some c) (foundD : contexto_buscar l q = some d) (other : pid ≠ q) {a : Nat}
    (own : Propio c.tabla_segmentos a) : ¬ Propio d.tabla_segmentos a := by
  obtain ⟨listedC,rfl⟩ := record_mem foundC
  obtain ⟨listedD,rfl⟩ := record_mem foundD
  rintro ⟨t,listedT,lowT,highT⟩
  obtain ⟨s,listedS,lowS,highS⟩ := own
  have ranges := apart.aparte c listedC d listedD other s listedS t listedT
  simp only [Range.Apart,rango] at ranges
  omega

/-! ## What a move does -/

theorem paso_cases {l : Paso} {m n : Maquina} (moved : paso tam_max_segmento l m = some n) :
    (∃ cpu pid ctx, l = .ejecutar_proceso cpu pid ∧ (m.cpus cpu).pid = none ∧ m.asignada pid = none ∧ m.motivo pid = none ∧
      contexto_buscar m.lista_contextos pid = some ctx ∧ n = m.obtener_contexto cpu pid ctx) ∨
    (∃ cpu interrumpe pid r, l = .ciclo cpu interrumpe ∧ (m.cpus cpu).pid = some pid ∧
      ejecutar_ciclo_instruccion tam_max_segmento m.lista_contextos interrumpe pid (m.cpus cpu) (m.vista cpu) = some r ∧
      (r.1.2 = .CONTINUAR ∧ n = m.tras_ciclo cpu pid r.1.1 r.2 ∨
        r.1.2 ≠ .CONTINUAR ∧ n = avisar_fin_a_scheduler cpu pid r.1.2 (m.tras_ciclo cpu pid r.1.1 r.2))) := by
  cases l with
  | ejecutar_proceso cpu pid =>
    simp only [paso] at moved
    split_ifs at moved with busy
    simp only [Bool.or_eq_true,not_or,Bool.not_eq_true,Option.isSome_eq_false_iff,Option.isNone_iff_eq_none] at busy
    cases found : contexto_buscar m.lista_contextos pid with
    | none =>
      rw [found] at moved
      cases moved
    | some ctx =>
      rw [found] at moved
      cases moved
      exact .inl ⟨cpu,pid,ctx,rfl,busy.1.1,busy.1.2,busy.2,found,rfl⟩
  | ciclo cpu interrumpe =>
    simp only [paso] at moved
    cases here : (m.cpus cpu).pid with
    | none =>
      rw [here] at moved
      cases moved
    | some pid =>
      rw [here] at moved
      simp only at moved
      cases cycle : ejecutar_ciclo_instruccion tam_max_segmento m.lista_contextos interrumpe pid (m.cpus cpu) (m.vista cpu) with
      | none =>
        rw [cycle] at moved
        cases moved
      | some r =>
        rw [cycle] at moved
        simp only at moved
        refine .inr ⟨cpu,interrumpe,pid,r,rfl,here,cycle,?_⟩
        split_ifs at moved with goes_on
        · cases moved
          exact .inl ⟨goes_on,rfl⟩
        · cases moved
          exact .inr ⟨goes_on,rfl⟩

/-! ## The invariant -/

structure Sana (m : Maquina) : Prop where
  separados : Separados m.lista_contextos (tamanios m.sticks)
  vista : ∀ cpu, Dispuesta (m.vista cpu)
  corre : ∀ cpu pid, (m.cpus cpu).pid = some pid → m.asignada pid = some cpu ∧ m.motivo pid = none ∧
    ∃ c, contexto_buscar m.lista_contextos pid = some c ∧ (m.cpus cpu).tabla_segmentos = c.tabla_segmentos
  asignada : ∀ pid cpu, m.asignada pid = some cpu → (m.cpus cpu).pid = some pid

theorem sana_inicial {m : Maquina} (start : Inicial m) : Sana m where
  separados := start.separados
  vista := start.vista
  corre cpu pid here := by
    rw [start.libres cpu] at here
    cases here
  asignada pid cpu here := by
    rw [start.sin_asignar pid] at here
    cases here

theorem obtener_sana {m : Maquina} (sound : Sana m) {cpu : Nat} {pid : UInt32} {ctx : Contexto}
    (idle : (m.cpus cpu).pid = none) (unassigned : m.asignada pid = none) (live : m.motivo pid = none)
    (found : contexto_buscar m.lista_contextos pid = some ctx) : Sana (m.obtener_contexto cpu pid ctx) where
  separados := sound.separados
  vista k := by
    have same : (m.obtener_contexto cpu pid ctx).vista k = m.vista k := by
      by_cases mine : k = cpu
      · subst mine
        simp [Maquina.obtener_contexto,Maquina.vista]
      · simp [Maquina.obtener_contexto,Maquina.vista,mine]
    rw [same]
    exact sound.vista k
  corre k q here := by
    by_cases mine : k = cpu
    · subst mine
      obtain rfl : pid = q := by simpa [Maquina.obtener_contexto] using here
      exact ⟨by simp [Maquina.obtener_contexto],live,ctx,found,by simp [Maquina.obtener_contexto]⟩
    · have old : (m.cpus k).pid = some q := by simpa [Maquina.obtener_contexto,mine] using here
      obtain ⟨place,ends,c,context,table⟩ := sound.corre k q old
      have other : q ≠ pid := by
        rintro rfl
        cases unassigned.symm.trans place
      exact ⟨by simpa [Maquina.obtener_contexto,other] using place,ends,c,context,
        by simpa [Maquina.obtener_contexto,mine] using table⟩
  asignada q k here := by
    by_cases mine : q = pid
    · subst mine
      obtain rfl : cpu = k := by simpa [Maquina.obtener_contexto] using here
      simp [Maquina.obtener_contexto]
    · have old : m.asignada q = some k := by simpa [Maquina.obtener_contexto,mine] using here
      have place := sound.asignada q k old
      have other : k ≠ cpu := by
        rintro rfl
        cases idle.symm.trans place
      simpa [Maquina.obtener_contexto,other] using place

/-- A cycle changes the bytes of its process only, and no stick. -/
structure Deja (tabla_segmentos : List Segmento) (vista vista' : MemoriaCpu) : Prop where
  dispuesta : Dispuesta vista'
  fichas : vista'.lista_memory_sticks.map MemoryStick.ficha = vista.lista_memory_sticks.map MemoryStick.ficha
  resto : ∀ d, ¬ Propio tabla_segmentos d → plano vista'.lista_memory_sticks d = plano vista.lista_memory_sticks d

theorem tras_ciclo_sana {m : Maquina} (sound : Sana m) {cpu : Nat} (pid : UInt32) (registros : Registros)
    {tabla_segmentos : List Segmento} {vista : MemoriaCpu} (leaves : Deja tabla_segmentos (m.vista cpu) vista) :
    Sana (m.tras_ciclo cpu pid registros vista) where
  separados := by
    have same : tamanios (m.tras_ciclo cpu pid registros vista).sticks = tamanios m.sticks := tamanios_of_ficha leaves.fichas
    rw [same]
    exact sound.separados
  vista k := by
    by_cases mine : k = cpu
    · subst mine
      have same : (m.tras_ciclo k pid registros vista).vista k = vista := by simp [Maquina.tras_ciclo,Maquina.vista]
      rw [same]
      exact leaves.dispuesta
    · have same : (m.tras_ciclo cpu pid registros vista).vista k = { vista with sticks_cpu := (m.cpus k).sticks_cpu } := by
        simp [Maquina.tras_ciclo,Maquina.vista,mine]
      rw [same]
      exact ⟨leaves.dispuesta.pequenia,conoce_fichas (sound.vista k).conoce leaves.fichas,
        leaves.dispuesta.atiende.responde,leaves.dispuesta.atiende.acepta⟩
  corre k q here := by
    by_cases mine : k = cpu
    · subst mine
      have old : (m.cpus k).pid = some q := by simpa [Maquina.tras_ciclo] using here
      simpa [Maquina.tras_ciclo] using sound.corre k q old
    · have old : (m.cpus k).pid = some q := by simpa [Maquina.tras_ciclo,mine] using here
      simpa [Maquina.tras_ciclo,mine] using sound.corre k q old
  asignada q k here := by
    have place := sound.asignada q k here
    by_cases mine : k = cpu
    · subst mine
      simpa [Maquina.tras_ciclo] using place
    · simpa [Maquina.tras_ciclo,mine] using place

theorem avisar_sana {m : Maquina} (sound : Sana m) {cpu : Nat} {pid : UInt32} (motivo : Motivo)
    (here : (m.cpus cpu).pid = some pid) : Sana (avisar_fin_a_scheduler cpu pid motivo m) where
  separados := separados_guardar sound.separados pid _
  vista k := by
    have same : (avisar_fin_a_scheduler cpu pid motivo m).vista k = m.vista k := by
      by_cases mine : k = cpu
      · subst mine
        simp [avisar_fin_a_scheduler,Maquina.vista]
      · simp [avisar_fin_a_scheduler,Maquina.vista,mine]
    rw [same]
    exact sound.vista k
  corre k q there := by
    have mine : k ≠ cpu := by
      rintro rfl
      simp [avisar_fin_a_scheduler] at there
    have old : (m.cpus k).pid = some q := by simpa [avisar_fin_a_scheduler,mine] using there
    obtain ⟨place,ends,c,context,table⟩ := sound.corre k q old
    have other : q ≠ pid := by
      rintro rfl
      obtain ⟨place',-⟩ := sound.corre cpu q here
      exact mine (Option.some.inj (place.symm.trans place'))
    obtain ⟨d,found,-,same⟩ := buscar_guardar_tabla pid (m.cpus cpu).registros context
    refine ⟨by simpa [avisar_fin_a_scheduler,other] using place,?_,d,found,?_⟩
    · simp only [avisar_fin_a_scheduler]
      split_ifs
      · exact ends
      · rw [Function.update_of_ne other]
        exact ends
    · rw [same]
      simpa [avisar_fin_a_scheduler,mine] using table
  asignada q k there := by
    have other : q ≠ pid := by
      rintro rfl
      simp [avisar_fin_a_scheduler] at there
    have old : m.asignada q = some k := by simpa [avisar_fin_a_scheduler,other] using there
    have place := sound.asignada q k old
    have mine : k ≠ cpu := by
      rintro rfl
      exact other (Option.some.inj (place.symm.trans here))
    simpa [avisar_fin_a_scheduler,mine] using place

/-! ## One cycle in two machines -/

theorem semejante_refl {tabla_segmentos : List Segmento} {vista : MemoriaCpu} (ready : Dispuesta vista) :
    Semejante tabla_segmentos vista vista := ⟨ready,ready,rfl,fun _ _ => rfl⟩

/-- A cycle of a process in two machines, in the second one without interruption: the same
    registers and the same motive, but for the interruption. -/
theorem ciclo_concuerda {l l' : List Contexto} {interrumpe : Bool} {pid : UInt32} {c c' : Cpu} {vista vista' : MemoriaCpu}
    {r : (Registros × Motivo) × MemoriaCpu}
    (resident : Residente c.tabla_segmentos (tamanios vista.lista_memory_sticks))
    (bounded : ∀ instruccion ∈ fetch l pid c.registros.PC, Acotada tam_max_segmento c.tabla_segmentos
      (tamanios vista.lista_memory_sticks) (decode instruccion).1 (decode instruccion).2.1 c.registros)
    (alike : Semejante c.tabla_segmentos vista vista') (program : fetch l' pid c.registros.PC = fetch l pid c.registros.PC)
    (registers : c'.registros = c.registros) (table : c'.tabla_segmentos = c.tabla_segmentos)
    (done : ejecutar_ciclo_instruccion tam_max_segmento l interrumpe pid c vista = some r) :
    ∃ r', ejecutar_ciclo_instruccion tam_max_segmento l' false pid c' vista' = some r' ∧
      Concuerda c.tabla_segmentos vista vista' (r.1.1,r.2) (r'.1.1,r'.2) ∧ r'.1.2 ≠ .FIN_QUANTUM ∧
      (r'.1.2 = r.1.2 ∨ r'.1.2 = .CONTINUAR ∧ r.1.2 = .FIN_QUANTUM) := by
  unfold ejecutar_ciclo_instruccion at done ⊢
  rw [registers,table,program]
  cases line : fetch l pid c.registros.PC with
  | none =>
    rw [line] at done
    cases done
    exact ⟨_,rfl,concuerda_pura alike _,by simp,.inl rfl⟩
  | some instruccion =>
    rw [line] at done
    obtain ⟨t,executed,rfl⟩ := Option.map_eq_some_iff.mp done
    obtain ⟨t',executed',calls⟩ := concuerda_execute resident alike c.registros (bounded instruccion line) executed
    have ends := execute_sin_fin c.registros executed'
    have registers : t'.1.1 = t.1.1 := congrArg Prod.fst calls.mismo
    have motive : t'.1.2 = t.1.2 := congrArg Prod.snd calls.mismo
    have same : Concuerda c.tabla_segmentos vista vista' (t.1.1,t.2) (t'.1.1,t'.2) :=
      ⟨registers,calls.semejante,calls.deja,calls.fichas,calls.fichas'⟩
    refine ⟨t',?_,?_,ends,?_⟩
    · simp only [executed',Option.map_some,Bool.false_eq_true,if_false,ite_self]
    · split_ifs
      · exact same
      · exact same
      · exact same
    · split_ifs with stops evicted
      · exact .inl motive
      · exact .inr ⟨motive.trans (not_not.mp stops),rfl⟩
      · exact .inl motive

/-- A cycle of a machine whose invariant holds. -/
theorem ciclo_deja {m : Maquina} (sound : Sana m) {cpu : Nat} {interrumpe : Bool} {pid : UInt32}
    {r : (Registros × Motivo) × MemoriaCpu} (here : (m.cpus cpu).pid = some pid)
    (straight : SinVueltas tam_max_segmento (.ciclo cpu interrumpe) m)
    (done : ejecutar_ciclo_instruccion tam_max_segmento m.lista_contextos interrumpe pid (m.cpus cpu) (m.vista cpu) = some r) :
    Deja (m.cpus cpu).tabla_segmentos (m.vista cpu) r.2 := by
  obtain ⟨-,-,c,context,table⟩ := sound.corre cpu pid here
  have resident := table ▸ sound.separados.residente c (record_mem context).1
  obtain ⟨r',-,calls,-⟩ := ciclo_concuerda resident (straight pid here) (semejante_refl (sound.vista cpu)) rfl rfl rfl done
  exact ⟨calls.semejante.primera,calls.fichas,calls.deja⟩

theorem paso_sana {l : Paso} {m n : Maquina} (sound : Sana m) (straight : SinVueltas tam_max_segmento l m)
    (moved : paso tam_max_segmento l m = some n) : Sana n := by
  rcases paso_cases moved with ⟨cpu,pid,ctx,-,idle,unassigned,live,found,rfl⟩ | ⟨cpu,interrumpe,pid,r,rfl,here,cycle,outcome⟩
  · exact obtener_sana sound idle unassigned live found
  · have after := tras_ciclo_sana sound pid r.1.1 (ciclo_deja sound here straight cycle)
    rcases outcome with ⟨-,rfl⟩ | ⟨-,rfl⟩
    · exact after
    · exact avisar_sana after r.1.2 (by simpa [Maquina.tras_ciclo] using here)

/-! ## The process in two machines -/

/-- The process has gone as far in the second machine, where it is still on the first CPU
    unless it ended, as in the first. -/
structure Paralela (pid : UInt32) (c : Contexto) (m m' : Maquina) : Prop where
  historia : m'.historia pid = m.historia pid
  motivo : m'.motivo pid = m.motivo pid
  actual : m'.actual pid = m.actual pid
  sigue : m.motivo pid = none → m'.asignada pid = some 0
  programa : ∃ d, contexto_buscar m.lista_contextos pid = some d ∧ d.instrucciones = c.instrucciones ∧
    d.tabla_segmentos = c.tabla_segmentos
  programa' : ∃ d, contexto_buscar m'.lista_contextos pid = some d ∧ d.instrucciones = c.instrucciones ∧
    d.tabla_segmentos = c.tabla_segmentos
  total : tamanios m'.sticks = tamanios m.sticks
  iguales : ∀ d, Propio c.tabla_segmentos d → plano m'.sticks d = plano m.sticks d

section Paso
variable {pid : UInt32} {c : Contexto} {m m' : Maquina}

theorem fetch_igual (same : Paralela pid c m m') (pc : UInt32) : fetch m'.lista_contextos pid pc = fetch m.lista_contextos pid pc := by
  obtain ⟨d,found,lines,-⟩ := same.programa
  obtain ⟨d',found',lines',-⟩ := same.programa'
  simp only [fetch,found,found',lines,lines']

theorem tabla_de_programa (sound : Sana m) {cpu : Nat} (here : (m.cpus cpu).pid = some pid)
    (program : ∃ d, contexto_buscar m.lista_contextos pid = some d ∧ d.instrucciones = c.instrucciones ∧
      d.tabla_segmentos = c.tabla_segmentos) : (m.cpus cpu).tabla_segmentos = c.tabla_segmentos := by
  obtain ⟨-,-,d,context,table⟩ := sound.corre cpu pid here
  obtain ⟨e,found,-,same⟩ := program
  cases context.symm.trans found
  exact table.trans same

/-- The process is dispatched in the first machine. -/
theorem paralela_obtener (same : Paralela pid c m m') {cpu : Nat} {q : UInt32} {ctx : Contexto} (idle : (m.cpus cpu).pid = none)
    (sound : Sana m) (unassigned : m.asignada q = none)
    (found : contexto_buscar m.lista_contextos q = some ctx) : Paralela pid c (m.obtener_contexto cpu q ctx) m' where
  historia := same.historia
  motivo := same.motivo
  actual := by
    refine same.actual.trans ?_
    unfold Maquina.actual
    by_cases mine : q = pid
    · subst mine
      simp [Maquina.obtener_contexto,unassigned,found]
    · have other : pid ≠ q := Ne.symm mine
      simp only [Maquina.obtener_contexto,Function.update_of_ne other]
      cases place : m.asignada pid with
      | none => rfl
      | some k =>
        have running := sound.asignada pid k place
        have apart : k ≠ cpu := by
          rintro rfl
          cases idle.symm.trans running
        simp only [Function.update_of_ne apart]
  sigue := same.sigue
  programa := same.programa
  programa' := same.programa'
  total := same.total
  iguales := same.iguales

/-- Another process makes a cycle in the first machine. -/
theorem paralela_ajeno (same : Paralela pid c m m') (sound : Sana m) {cpu : Nat} {q : UInt32} (other : q ≠ pid)
    (here : (m.cpus cpu).pid = some q) (registros : Registros) {vista : MemoriaCpu}
    (leaves : Deja (m.cpus cpu).tabla_segmentos (m.vista cpu) vista) : Paralela pid c (m.tras_ciclo cpu q registros vista) m' where
  historia := by
    simp only [Maquina.tras_ciclo,Function.update_of_ne (Ne.symm other)]
    exact same.historia
  motivo := same.motivo
  actual := by
    refine same.actual.trans ?_
    unfold Maquina.actual
    simp only [Maquina.tras_ciclo]
    cases place : m.asignada pid with
    | none => rfl
    | some k =>
      have running := sound.asignada pid k place
      have apart : k ≠ cpu := by
        rintro rfl
        exact other (Option.some.inj (here.symm.trans running))
      simp only [Function.update_of_ne apart]
  sigue := same.sigue
  programa := same.programa
  programa' := same.programa'
  total := same.total.trans (tamanios_of_ficha leaves.fichas).symm
  iguales d own := by
    refine (same.iguales d own).trans (leaves.resto d ?_).symm
    obtain ⟨e,found,-,table⟩ := same.programa
    obtain ⟨-,-,f,context,mine⟩ := sound.corre cpu q here
    rw [mine]
    exact propio_uno sound.separados found context (Ne.symm other) (table ▸ own)

/-- Another process leaves its CPU in the first machine. -/
theorem paralela_avisar (same : Paralela pid c m m') (sound : Sana m) {cpu : Nat} {q : UInt32} (other : q ≠ pid)
    (here : (m.cpus cpu).pid = some q) (motivo : Motivo) : Paralela pid c (avisar_fin_a_scheduler cpu q motivo m) m' where
  historia := same.historia
  motivo := by
    refine same.motivo.trans ?_
    simp only [avisar_fin_a_scheduler]
    split_ifs
    · rfl
    · rw [Function.update_of_ne (Ne.symm other)]
  actual := by
    refine same.actual.trans ?_
    unfold Maquina.actual
    simp only [avisar_fin_a_scheduler,Function.update_of_ne (Ne.symm other),buscar_guardar,if_neg (Ne.symm other)]
    cases place : m.asignada pid with
    | none => rfl
    | some k =>
      have running := sound.asignada pid k place
      have apart : k ≠ cpu := by
        rintro rfl
        exact other (Option.some.inj (here.symm.trans running))
      simp only [Function.update_of_ne apart]
  sigue live := by
    apply same.sigue
    simp only [avisar_fin_a_scheduler] at live
    split_ifs at live
    · exact live
    · rwa [Function.update_of_ne (Ne.symm other)] at live
  programa := by
    obtain ⟨d,found,lines,table⟩ := same.programa
    obtain ⟨e,found',lines',table'⟩ := buscar_guardar_tabla q (m.cpus cpu).registros found
    exact ⟨e,found',lines'.trans lines,table'.trans table⟩
  programa' := same.programa'
  total := same.total
  iguales := same.iguales

/-- Its registers go to its context when it leaves its CPU. -/
theorem actual_avisar (sound : Sana m) {cpu : Nat} (here : (m.cpus cpu).pid = some pid) (motivo : Motivo) :
    (avisar_fin_a_scheduler cpu pid motivo m).actual pid = m.actual pid := by
  obtain ⟨place,-,d,context,-⟩ := sound.corre cpu pid here
  unfold Maquina.actual
  simp only [avisar_fin_a_scheduler,Function.update_self,buscar_guardar,if_true,context,place,Option.map_some]

theorem programa_avisar (program : ∃ d, contexto_buscar m.lista_contextos pid = some d ∧ d.instrucciones = c.instrucciones ∧
      d.tabla_segmentos = c.tabla_segmentos) (cpu : Nat) (motivo : Motivo) :
    ∃ d, contexto_buscar (avisar_fin_a_scheduler cpu pid motivo m).lista_contextos pid = some d ∧
      d.instrucciones = c.instrucciones ∧ d.tabla_segmentos = c.tabla_segmentos := by
  obtain ⟨d,found,lines,table⟩ := program
  obtain ⟨e,found',lines',table'⟩ := buscar_guardar_tabla pid (m.cpus cpu).registros found
  exact ⟨e,found',lines'.trans lines,table'.trans table⟩

/-- The process is evicted in the first machine alone. -/
theorem paralela_desalojo (same : Paralela pid c m m') (sound : Sana m) {cpu : Nat}
    (here : (m.cpus cpu).pid = some pid) : Paralela pid c (avisar_fin_a_scheduler cpu pid .FIN_QUANTUM m) m' where
  historia := same.historia
  motivo := same.motivo
  actual := same.actual.trans (actual_avisar sound here .FIN_QUANTUM).symm
  sigue := same.sigue
  programa := programa_avisar same.programa cpu .FIN_QUANTUM
  programa' := same.programa'
  total := same.total
  iguales := same.iguales

/-- The process ends in both machines. -/
theorem paralela_fin (same : Paralela pid c m m') (sound : Sana m) (sound' : Sana m') {cpu : Nat}
    (here : (m.cpus cpu).pid = some pid) (here' : (m'.cpus 0).pid = some pid) {motivo : Motivo} (ends : motivo ≠ .FIN_QUANTUM) :
    Paralela pid c (avisar_fin_a_scheduler cpu pid motivo m) (avisar_fin_a_scheduler 0 pid motivo m') where
  historia := same.historia
  motivo := by simp only [avisar_fin_a_scheduler,if_neg ends,Function.update_self]
  actual := ((actual_avisar sound' here' motivo).trans same.actual).trans (actual_avisar sound here motivo).symm
  sigue live := by
    simp only [avisar_fin_a_scheduler,if_neg ends,Function.update_self] at live
    cases live
  programa := programa_avisar same.programa cpu motivo
  programa' := programa_avisar same.programa' 0 motivo
  total := same.total
  iguales := same.iguales

/-- The process makes a cycle in the first machine, and so it does in the second. -/
theorem paralela_propio (same : Paralela pid c m m') (sound : Sana m) (sound' : Sana m')
    {cpu : Nat} {interrumpe : Bool} {r : (Registros × Motivo) × MemoriaCpu} {n : Maquina} (here : (m.cpus cpu).pid = some pid)
    (straight : SinVueltas tam_max_segmento (.ciclo cpu interrumpe) m)
    (cycle : ejecutar_ciclo_instruccion tam_max_segmento m.lista_contextos interrumpe pid (m.cpus cpu) (m.vista cpu) = some r)
    (outcome : r.1.2 = .CONTINUAR ∧ n = m.tras_ciclo cpu pid r.1.1 r.2 ∨
      r.1.2 ≠ .CONTINUAR ∧ n = avisar_fin_a_scheduler cpu pid r.1.2 (m.tras_ciclo cpu pid r.1.1 r.2)) :
    ∃ n', paso tam_max_segmento (.ciclo 0 false) m' = some n' ∧ Sana n' ∧ Paralela pid c n n' ∧
      (n.historia pid).length = (m.historia pid).length + 1 := by
  obtain ⟨place,live,d,context,table⟩ := sound.corre cpu pid here
  have place' := same.sigue live
  have here' := sound'.asignada pid 0 place'
  have own := tabla_de_programa sound here same.programa
  have own' := tabla_de_programa sound' here' same.programa'
  have registers : (m'.cpus 0).registros = (m.cpus cpu).registros := by
    have both := same.actual
    simp only [Maquina.actual,place,place'] at both
    exact Option.some.inj both
  have resident := table ▸ sound.separados.residente d (record_mem context).1
  have alike : Semejante (m.cpus cpu).tabla_segmentos (m.vista cpu) (m'.vista 0) :=
    ⟨sound.vista cpu,sound'.vista 0,same.total,by rw [own]; exact same.iguales⟩
  obtain ⟨r',cycle',calls,ends,motive⟩ := ciclo_concuerda resident (straight pid here) alike (fetch_igual same _) registers
    (own'.trans own.symm) cycle
  have step' : paso tam_max_segmento (.ciclo 0 false) m' = some (if r'.1.2 = .CONTINUAR then m'.tras_ciclo 0 pid r'.1.1 r'.2
      else avisar_fin_a_scheduler 0 pid r'.1.2 (m'.tras_ciclo 0 pid r'.1.1 r'.2)) := by
    simp only [paso,here',cycle']
    split_ifs
    · rfl
    · rfl
  -- The second machine executes the same instruction on the same registers and table.
  have straight' : SinVueltas tam_max_segmento (.ciclo 0 false) m' := by
    intro q running
    obtain rfl : pid = q := Option.some.inj (here'.symm.trans running)
    rw [registers,own',fetch_igual same,same.total,← own]
    exact straight pid here
  have after := tras_ciclo_sana sound pid r.1.1 (ciclo_deja sound here straight cycle)
  have after' := tras_ciclo_sana sound' pid r'.1.1 (ciclo_deja sound' here' straight' cycle')
  have at_ : ((m.tras_ciclo cpu pid r.1.1 r.2).cpus cpu).pid = some pid := by simpa [Maquina.tras_ciclo] using here
  have at' : ((m'.tras_ciclo 0 pid r'.1.1 r'.2).cpus 0).pid = some pid := by simpa [Maquina.tras_ciclo] using here'
  have both : Paralela pid c (m.tras_ciclo cpu pid r.1.1 r.2) (m'.tras_ciclo 0 pid r'.1.1 r'.2) := by
    refine ⟨?_,same.motivo,?_,same.sigue,same.programa,same.programa',calls.semejante.total,?_⟩
    · simp only [Maquina.tras_ciclo,Function.update_self]
      rw [same.historia]
      exact congrArg _ (congrArg (fun x => [x]) calls.mismo)
    · simp only [Maquina.actual,Maquina.tras_ciclo,place,place',Function.update_self]
      exact congrArg some calls.mismo
    · rw [← own]
      exact calls.semejante.iguales
  have longer : ((m.tras_ciclo cpu pid r.1.1 r.2).historia pid).length = (m.historia pid).length + 1 := by
    simp [Maquina.tras_ciclo]
  refine ⟨_,step',paso_sana sound' straight' step',?_⟩
  rcases outcome with ⟨goes_on,rfl⟩ | ⟨stops,rfl⟩
  · have goes_on' : r'.1.2 = .CONTINUAR := by
      rcases motive with equal | ⟨-,evicted⟩
      · exact equal.trans goes_on
      · cases goes_on.symm.trans evicted
    rw [if_pos goes_on']
    exact ⟨both,longer⟩
  · rcases motive with equal | ⟨goes_on',evicted⟩
    · rw [if_neg (by rw [equal]; exact stops),equal]
      exact ⟨paralela_fin both after after' at_ at' (equal ▸ ends),longer⟩
    · rw [if_pos goes_on',evicted]
      exact ⟨paralela_desalojo both after at_,longer⟩

end Paso

/-! ## The process alone -/

theorem paralela_inicial {m : Maquina} (start : Inicial m) {pid : UInt32} {c : Contexto}
    (context : contexto_buscar m.lista_contextos pid = some c) : Paralela pid c m (m.obtener_contexto 0 pid c) where
  historia := rfl
  motivo := rfl
  actual := by simp [Maquina.actual,Maquina.obtener_contexto,start.sin_asignar,context]
  sigue _ := by simp [Maquina.obtener_contexto]
  programa := ⟨c,context,rfl,rfl⟩
  programa' := ⟨c,context,rfl,rfl⟩
  total := rfl
  iguales _ _ := rfl

/-- As far as the first machine has come, the process alone has come in some second one. -/
structure Acompaniada (tam_max_segmento : UInt32) (inicio : Maquina) (pid : UInt32) (c : Contexto) (m : Maquina) : Prop where
  sana : Sana m
  sola : ∃ s, run (paso tam_max_segmento) (sola pid (m.historia pid).length) inicio = some s ∧ Sana s ∧ Paralela pid c m s

/-- The step lemma. -/
theorem paso_acompaniada (inicio : Maquina) (pid : UInt32) (c : Contexto) :
    Preserved (paso tam_max_segmento) (SinVueltas tam_max_segmento) (Acompaniada tam_max_segmento inicio pid c) := by
  rintro l m n ⟨sound,s,alone,sound',same⟩ straight moved
  refine ⟨paso_sana sound straight moved,?_⟩
  rcases paso_cases moved with ⟨cpu,q,ctx,-,idle,unassigned,-,found,rfl⟩ | ⟨cpu,interrumpe,q,r,rfl,here,cycle,outcome⟩
  · exact ⟨s,alone,sound',paralela_obtener same idle sound unassigned found⟩
  · by_cases mine : q = pid
    · subst mine
      obtain ⟨s',moved',sound2,both,longer⟩ := paralela_propio same sound sound' here straight cycle outcome
      refine ⟨s',?_,sound2,both⟩
      have split : sola q ((m.historia q).length + 1) = sola q (m.historia q).length ++ [.ciclo 0 false] := by
        simp [sola,List.replicate_succ']
      rw [longer,split,run_append,alone]
      simp [moved']
    · have leaves := ciclo_deja sound here straight cycle
      have after := paralela_ajeno same sound mine here r.1.1 leaves
      have short : (m.tras_ciclo cpu q r.1.1 r.2).historia pid = m.historia pid := by
        simp [Maquina.tras_ciclo,Ne.symm mine]
      rcases outcome with ⟨-,rfl⟩ | ⟨-,rfl⟩
      · exact ⟨s,by rw [short]; exact alone,sound',after⟩
      · have at_ : ((m.tras_ciclo cpu q r.1.1 r.2).cpus cpu).pid = some q := by simpa [Maquina.tras_ciclo] using here
        have ended := paralela_avisar after (tras_ciclo_sana sound q r.1.1 leaves) mine at_ r.1.2
        exact ⟨s,(congrArg (fun h => run _ (sola pid (List.length h)) inicio) short).trans alone,sound',ended⟩

theorem inicial_acompaniada {inicio : Maquina} (start : Inicial inicio) {pid : UInt32} {c : Contexto}
    (context : contexto_buscar inicio.lista_contextos pid = some c) : Acompaniada tam_max_segmento inicio pid c inicio := by
  have begins : run (paso tam_max_segmento) (sola pid 0) inicio = some (inicio.obtener_contexto 0 pid c) := by
    simp [sola,paso,start.libres,start.sin_asignar,start.sin_terminar,context]
  have sound := sana_inicial start
  refine ⟨sound,_,?_,obtener_sana sound (start.libres 0) (start.sin_asignar pid) (start.sin_terminar pid) context,
    paralela_inicial start context⟩
  rw [start.sin_historia pid]
  exact begins

/-! ## Memories too small for a wrap -/

theorem sin_vueltas_de_ajuste {m : Maquina} (sound : Sana m) (room : tam_max_segmento.toNat + tamanios m.sticks ≤ 2^32) (l : Paso) :
    SinVueltas tam_max_segmento l m := by
  cases l with
  | ejecutar_proceso cpu pid => trivial
  | ciclo cpu interrumpe =>
    intro pid running instruccion _
    obtain ⟨-,-,c,context,table⟩ := sound.corre cpu pid running
    have resident := sound.separados.residente c (record_mem context).1
    rw [table]
    exact acotada_de_ajuste resident room _ _ _

/-- No step changes the size of memory. -/
theorem paso_total {l : Paso} {m n : Maquina} (sound : Sana m) (straight : SinVueltas tam_max_segmento l m)
    (moved : paso tam_max_segmento l m = some n) : tamanios n.sticks = tamanios m.sticks := by
  rcases paso_cases moved with ⟨cpu,q,ctx,-,-,-,-,-,rfl⟩ | ⟨cpu,interrumpe,q,r,rfl,here,cycle,outcome⟩
  · rfl
  · have leaves := ciclo_deja sound here straight cycle
    rcases outcome with ⟨-,rfl⟩ | ⟨-,rfl⟩
    · exact tamanios_of_ficha leaves.fichas
    · exact tamanios_of_ficha leaves.fichas

/-- No run from such a start has an access that goes outside by a wrap. -/
theorem rectos_de_ajuste {inicio : Maquina} (start : Inicial inicio) (room : tam_max_segmento.toNat + tamanios inicio.sticks ≤ 2^32)
    (pasos : List Paso) : Guarded (paso tam_max_segmento) (SinVueltas tam_max_segmento) pasos inicio := by
  have keeps : Preserved (paso tam_max_segmento) (fun _ _ => True) (fun m => Sana m ∧ tamanios m.sticks = tamanios inicio.sticks) := by
    rintro l m n ⟨sound,total⟩ - moved
    have straight := sin_vueltas_de_ajuste sound (total ▸ room) l
    exact ⟨paso_sana sound straight moved,(paso_total sound straight moved).trans total⟩
  apply guarded_of_invariant keeps
  · rintro l m ⟨sound,total⟩ -
    exact sin_vueltas_de_ajuste sound (total ▸ room) l
  · exact ⟨sana_inicial start,rfl⟩
  · exact guarded_of_labels (fun _ _ => trivial) inicio

/-! ## Any schedule -/

/-- Two processes in the two halves of a stick of 16 bytes. -/
def inicio_prueba : Maquina where
  lista_contextos :=
    [⟨1,⟨0,0,0,0,0,0,0,0,0,0,0⟩,["SET AX 5","MOV_OUT AX","EXIT"],[⟨0,0,8⟩]⟩,
      ⟨2,⟨0,0,0,0,0,0,0,0,0,0,0⟩,["SET AX 7","MOV_OUT AX","MOV_IN BX","EXIT"],[⟨0,8,8⟩]⟩]
  fisica := ⟨[⟨3,16,0,"10.0.0.1",8002,fun _ => 0⟩],fun _ => .responde⟩
  listas _ := .llega (fun _ => true)
  cpus _ := ⟨none,⟨0,0,0,0,0,0,0,0,0,0,0⟩,[],[]⟩
  asignada _ := none
  motivo _ := none
  historia _ := []

/-- The first process is evicted after its first instruction and ends on a third CPU. -/
def pasos_prueba : List Paso :=
  [.ejecutar_proceso 0 1,.ejecutar_proceso 1 2,.ciclo 0 true,.ciclo 1 false,.ciclo 1 false,.ejecutar_proceso 2 1,.ciclo 2 false,
    .ciclo 1 false,.ciclo 2 false]

theorem inicial_prueba : Inicial inicio_prueba where
  separados := by
    constructor
    · intro c listed
      revert c
      unfold Residente
      decide +kernel
    · decide +kernel
  vista _ := ⟨show tamanios inicio_prueba.sticks < 2^32 by decide +kernel,fun _ listed => absurd listed List.not_mem_nil,
    fun _ => rfl,fun _ => ⟨_,rfl,fun _ => rfl⟩⟩
  libres _ := rfl
  sin_asignar _ := rfl
  sin_terminar _ := rfl
  sin_historia _ := rfl

theorem pasos_prueba_posibles : (run (paso 8) pasos_prueba inicio_prueba).isSome := by decide +kernel

/-- Three sticks of 2^30 bytes. Process 1 has the last eight bytes, process 2 the first eight. -/
def inicio_lejano : Maquina where
  lista_contextos :=
    [⟨1,⟨0,0,0,0,0,0,0,3221225464,0,1073741832,1073741833⟩,["COPY_MEM ECX"],[⟨0,3221225464,8⟩]⟩,
      ⟨2,⟨0,0,0,0,0,0,0,0,0,0,0⟩,["MOV_IN AX","EXIT"],[⟨0,0,8⟩]⟩]
  fisica :=
    ⟨[⟨3,1073741824,0,"10.0.0.1",8002,fun a => if a = 0 then 9 else 0⟩,⟨4,1073741824,1073741824,"10.0.0.2",8002,fun _ => 0⟩,
      ⟨5,1073741824,2147483648,"10.0.0.3",8002,fun _ => 0⟩],fun _ => .responde⟩
  listas _ := .llega (fun _ => true)
  cpus _ := ⟨none,⟨0,0,0,0,0,0,0,0,0,0,0⟩,[],[]⟩
  asignada _ := none
  motivo _ := none
  historia _ := []

theorem inicial_lejano : Inicial inicio_lejano where
  separados := by
    constructor
    · intro c listed
      revert c
      unfold Residente
      decide +kernel
    · decide +kernel
  vista _ := ⟨show tamanios inicio_lejano.sticks < 2^32 by decide +kernel,fun _ listed => absurd listed List.not_mem_nil,
    fun _ => rfl,fun _ => ⟨_,rfl,fun _ => rfl⟩⟩
  libres _ := rfl
  sin_asignar _ := rfl
  sin_terminar _ := rfl
  sin_historia _ := rfl

example : ¬ SinVueltas 1073741888 (.ciclo 0 false) (inicio_lejano.obtener_contexto 0 1
    ⟨1,⟨0,0,0,0,0,0,0,3221225464,0,1073741832,1073741833⟩,["COPY_MEM ECX"],[⟨0,3221225464,8⟩]⟩) := by decide +kernel

/-- Of processes that make no call to Kernel Scheduler, where the maximum size of a segment and
    memory together have at most 2^32 bytes: no process notices the evictions. -/
theorem preemption_transparent (tam_max_segmento : UInt32) (inicio : Maquina) (start : Inicial inicio)
    (room : tam_max_segmento.toNat + tamanios inicio.sticks ≤ 2^32) (pasos : List Paso) (m : Maquina)
    (reached : run (paso tam_max_segmento) pasos inicio = some m) (pid : UInt32) (c : Contexto)
    (context : contexto_buscar inicio.lista_contextos pid = some c) :
    ∃ s, run (paso tam_max_segmento) (sola pid (m.historia pid).length) inicio = some s ∧ s.historia pid = m.historia pid ∧
      s.motivo pid = m.motivo pid ∧ s.actual pid = m.actual pid ∧
      ∀ d, Propio c.tabla_segmentos d → plano s.sticks d = plano m.sticks d := by
  obtain ⟨-,s,alone,-,same⟩ := invariant_of_guarded (paso_acompaniada inicio pid c) (inicial_acompaniada start context)
    (rectos_de_ajuste start room pasos) reached
  exact ⟨s,alone,same.historia,same.motivo,same.actual,same.iguales⟩

theorem preemption_transparent_dos : ∃ s, run (paso 8) (sola 1 3) inicio_prueba = some s ∧
    s.historia 1 = (((run (paso 8) pasos_prueba inicio_prueba).get pasos_prueba_posibles).historia 1) := by
  have length : (((run (paso 8) pasos_prueba inicio_prueba).get pasos_prueba_posibles).historia 1).length = 3 := by decide +kernel
  obtain ⟨s,alone,same,-⟩ := preemption_transparent 8 inicio_prueba inicial_prueba (by decide +kernel) pasos_prueba
    ((run (paso 8) pasos_prueba inicio_prueba).get pasos_prueba_posibles) (Option.some_get _).symm 1
    ⟨1,⟨0,0,0,0,0,0,0,0,0,0,0⟩,["SET AX 5","MOV_OUT AX","EXIT"],[⟨0,0,8⟩]⟩ (by decide +kernel)
  exact ⟨s,by rw [← length]; exact alone,same⟩

end PlugNPray.Preemption
