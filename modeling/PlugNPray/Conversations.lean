import PlugNPray.SessionMoves

/-!
The conversations of the scheduler with all its CPUs, move by move: the thread of a CPU carries its own on, and the others
only send the CPU interrupts and dispatches of what runs on it.
-/
namespace PlugNPray.Conversations
open PlugNPray.Scheduler PlugNPray.Handlers PlugNPray.ReadyQueues PlugNPray.Moves PlugNPray.Stacks PlugNPray.Runs
open PlugNPray.ProcessLists PlugNPray.CpuPlaces PlugNPray.CpuDuties PlugNPray.CpuAccounts PlugNPray.CpuSessions PlugNPray.SessionMoves
open PlugNPray.CpuTurns (Cpu lee_de)

variable {cfg : Config} {hora : Nat} {s t : Ks} {e : Entrada} {a b : Accion} {r : Efecto} {p q k : Nat}
variable {v : Planificador} {i : Nat} {later : Pila}

/-! ## The connections -/

theorem acaba_sigue (ends : acaba a = true) : atiende k a = 0 := by
  cases a <;> first | rfl | cases ends

theorem relevo_atiende (next : Relevo e a b) : atiende k a = 0 ∧ atiende k b = 0 := by
  cases next with
  | consulta j c b next => rcases next with rfl | rfl | rfl <;> exact ⟨rfl,rfl⟩
  | llama j p tipo b given next => cases tipo <;> cases next <;> exact ⟨rfl,rfl⟩
  | contesta a p j u source plain => rcases source with rfl | rfl | rfl <;> exact ⟨rfl,rfl⟩
  | _ => exact ⟨rfl,rfl⟩

theorem muda_atiende : ∀ c, muda c = true → atiende k c = 0 := fun _ silent => (muda_pesos (s := inicial.ks) silent).2.2.2.2.2

theorem muda_despacho : ∀ c, muda c = true → despacho s k c = 0 := fun _ silent => (muda_pesos silent).2.2.2.2.1

/-- A connection begins where it is accepted, and ends where it is cut. -/
theorem atiende_avanza (trato : Trato v.ks e a r) (here : v.hilos[i]? = some (a :: later)) (k : Nat) :
    (¬ (a = .atender_cpu k ∧ e = .corte) →
      total (atiende k) v.hilos ≤ total (atiende k) (advance v.hilos i r.sigue later r.lanza)) ∧
      (k ≠ v.ks.proximo_cliente → total (atiende k) (advance v.hilos i r.sigue later r.lanza) ≤ total (atiende k) v.hilos) := by
  have sum := total_advance (atiende k) here r.sigue r.lanza
  have even : weight (atiende k) r.sigue + total (atiende k) r.lanza = atiende k a →
      (¬ (a = .atender_cpu k ∧ e = .corte) →
        total (atiende k) v.hilos ≤ total (atiende k) (advance v.hilos i r.sigue later r.lanza)) ∧
        (k ≠ v.ks.proximo_cliente → total (atiende k) (advance v.hilos i r.sigue later r.lanza) ≤ total (atiende k) v.hilos) :=
    fun balance => ⟨fun _ => by omega,fun _ => by omega⟩
  cases trato with
  | nada ends quiet lanza => exact even (by rw [muda_weight muda_atiende quiet,muda_total muda_atiende lanza,acaba_sigue ends])
  | sigue antes despues b next shape before after lanza same =>
    obtain ⟨mine,other⟩ := @relevo_atiende _ _ _ k next
    refine even ?_
    rw [shape,lanza,(pesos_de_una before after b).1 _ muda_atiende,mine,other]
    rfl
  | io j p t reads given result =>
    subst reads result
    exact even rfl
  | bloquea j p antes b source shape before lanza same =>
    refine even ?_
    rw [shape,lanza,weight_append,muda_weight muda_atiende before]
    rcases source with ⟨rfl,m,rfl⟩ | ⟨⟨i,z,rfl⟩,rfl⟩ <;> rfl
  | despacha j p despues decides shape after lanza free puts cpu =>
    subst decides
    refine even ?_
    rw [shape,lanza,weight_cons,muda_weight muda_atiende after]
    rfl
  | reanuda j p ends waits kept shape lanza puts cpu =>
    subst ends
    refine even ?_
    rw [shape,lanza]
    rfl
  | redespacha j p ends waits kept result =>
    subst ends result
    exact even rfl
  | lee j c reads given result =>
    subst reads given
    refine even ?_
    rcases result with ⟨rfl,-⟩ | ⟨rfl,-⟩ | ⟨rfl,-⟩ <;> simp [atiende]
  | corta j reads given result =>
    subst reads given result
    simp only [weight_cons,weight_nil,total_nil,atiende,reduceCtorEq,if_false,Accion.atender_cpu.injEq] at sum ⊢
    constructor
    · intro other
      have apart : j ≠ k := fun same => other ⟨same,trivial⟩
      rw [if_neg apart] at sum
      omega
    · intro _
      omega
  | llega accepts given result =>
    subst accepts given result
    simp only [weight_cons,weight_nil,total_cons,total_nil,atiende,reduceCtorEq,if_false,Accion.atender_cpu.injEq] at sum ⊢
    constructor
    · intro _
      omega
    · intro other
      rw [if_neg (Ne.symm other)] at sum
      omega

/-! ## The dispatches -/

def vuelve (b : Accion) : Nat := if b = .redespachar then 1 else 0

def anotado : Accion → Nat
  | .anotar_espera _ => 1
  | _ => 0

theorem vuelve_permiso (b : Accion) : vuelve b + anotado b ≤ permiso b := by
  cases b <;> simp [vuelve,anotado,permiso]

/-- The wait for memory changes where no dispatch is to follow from it. -/
theorem despachos_quietos (accounts : Cuentas v) (here : v.hilos[i]? = some (a :: later)) (move : Mueve cfg hora v.ks a r)
    (unborn : v.ks.proximo_pid ∉ v.ks.listas .lista_exec) (k : Nat) :
    total (despacho r.ks k) v.hilos ≤ total (despacho v.ks k) v.hilos := by
  rcases mueve_espera move unborn with same | ⟨-,none⟩ | ⟨p,rfl,noted⟩
  · obtain ⟨process,cpu⟩ := Prod.mk.inj same
    refine total_mono (fun b => ?_) v.hilos
    cases b with
    | redespachar => simp only [despacho,process,cpu,le_refl]
    | _ => exact le_rfl
  · refine total_mono (fun b => ?_) v.hilos
    cases b with
    | redespachar => simp [despacho,(Prod.mk.inj none).1]
    | _ => exact le_rfl
  · -- Whoever notes the wait has leave to plan, so nobody is about to resume a process.
    have quiet : total vuelve v.hilos = 0 := by
      have one := accounts.permiso
      have both := total_mono vuelve_permiso v.hilos
      have mine := item_le_total anotado here
      rw [total_add] at both
      simp only [anotado] at mine
      omega
    have more : total (despacho r.ks k) v.hilos ≤ total (fun b => despacho v.ks k b + vuelve b) v.hilos := by
      refine total_mono (fun b => ?_) v.hilos
      cases b with
      | redespachar =>
        simp only [despacho,vuelve,if_true]
        split_ifs <;> omega
      | _ => exact Nat.le_add_right _ _
    rw [total_add] at more
    omega

theorem mismas_ejecuciones (same : Mismas s t) (k : Nat) : ejecuciones k t = ejecuciones k s := by
  unfold CpuPlaces.ejecuciones
  rw [same.1]
  refine List.countP_congr (fun p runs => ?_)
  rw [same.2 p runs]

theorem mismas_suyo (same : Mismas s t) (mine : Suyo s k p) : Suyo t k p := ⟨by rw [same.1]; exact mine.1,(same.2 p mine.1).trans mine.2⟩

theorem mete_suyo (puts : Mete s t q) (mine : Suyo s k p) : Suyo t k p := by
  have other : p ≠ q := by
    rintro rfl
    exact puts.ausente mine.1
  exact ⟨by rw [puts.exec]; exact List.mem_append_left _ mine.1,(puts.otros p other).trans mine.2⟩

/-- The process leaves its CPU by a move of the thread that handles the message about it. -/
structure Sale (s t : Ks) (k : Nat) (a : Accion) (p : Nat) : Prop where
  suyo : Suyo s k p
  quien : maneja a = some k ∨ a = .desconectar_cpu k ∨ ocupa a = some p
  acaba : acaba a = true
  ejecuciones : ejecuciones k s = ejecuciones k t + 1

/-- Unless a process leaves the CPU, a move sends it no dispatch that was not due, and adds one where it gives it a process. -/
theorem despachos_avanza (accounts : Cuentas v) (here : v.hilos[i]? = some (a :: later)) (move : Mueve cfg hora v.ks a r)
    (unborn : v.ks.proximo_pid ∉ v.ks.listas .lista_exec) (trato : Trato v.ks e a r) (what : Ejecucion v.ks a r.ks) (k : Nat) :
    (total (despacho r.ks k) (advance v.hilos i r.sigue later r.lanza) + despachada k a + ejecuciones k v.ks ≤
        total (despacho v.ks k) v.hilos + ejecuciones k r.ks ∧ ∀ p, Suyo v.ks k p → Suyo r.ks k p) ∨
      total (despacho r.ks k) (advance v.hilos i r.sigue later r.lanza) + despachada k a ≤ total (despacho v.ks k) v.hilos ∧
        ∃ p, Sale v.ks r.ks k a p := by
  have sum := total_advance (despacho r.ks k) here r.sigue r.lanza
  have calm := despachos_quietos accounts here move unborn k
  have sends : despachada k a ≤ despacho r.ks k a := by
    cases a with
    | enviar_ejecutar j p => exact le_rfl
    | _ => exact Nat.zero_le _
  have still : Mismas v.ks r.ks → weight (despacho r.ks k) r.sigue + total (despacho r.ks k) r.lanza ≤ 0 →
      total (despacho r.ks k) (advance v.hilos i r.sigue later r.lanza) + despachada k a + ejecuciones k v.ks ≤
        total (despacho v.ks k) v.hilos + ejecuciones k r.ks ∧ ∀ p, Suyo v.ks k p → Suyo r.ks k p := by
    intro same none
    have runs := mismas_ejecuciones same k
    exact ⟨by omega,fun p => mismas_suyo same⟩
  have gives : ∀ p j, Mete v.ks r.ks p → (r.ks.procesos p).cpu = some j →
      weight (despacho r.ks k) r.sigue + total (despacho r.ks k) r.lanza ≤ (if j = k then 1 else 0) →
      total (despacho r.ks k) (advance v.hilos i r.sigue later r.lanza) + despachada k a + ejecuciones k v.ks ≤
        total (despacho v.ks k) v.hilos + ejecuciones k r.ks ∧ ∀ p, Suyo v.ks k p → Suyo r.ks k p := by
    intro p j puts cpu few
    have runs := puts.ejecuciones k
    rw [cpu] at runs
    simp only [Option.some.injEq] at runs
    exact ⟨by omega,fun p => mete_suyo puts⟩
  cases trato with
  | nada ends quiet lanza =>
    rw [muda_weight muda_despacho quiet,muda_total muda_despacho lanza] at sum
    cases what with
    | igual exec cpus =>
      refine .inl (still ⟨exec,fun p runs => (cpus p).resolve_right (fun none => none.1 runs)⟩ ?_)
      rw [muda_weight muda_despacho quiet,muda_total muda_despacho lanza]
    | mete p j puts cpu source =>
      refine .inl (gives p j puts cpu ?_)
      rw [muda_weight muda_despacho quiet,muda_total muda_despacho lanza]
      exact Nat.zero_le _
    | saca p takes running who after =>
      have runs := takes.ejecuciones k
      by_cases mine : (v.ks.procesos p).cpu = some k
      · rw [if_pos mine] at runs
        refine .inr ⟨by omega,p,⟨running,mine⟩,?_,ends,runs⟩
        rcases who with ⟨j,cpu,handles | leaves⟩ | takes
        · obtain rfl := Option.some.inj (cpu.symm.trans mine)
          exact .inl handles
        · obtain rfl := Option.some.inj (cpu.symm.trans mine)
          exact .inr (.inl leaves)
        · exact .inr (.inr takes)
      · rw [if_neg mine] at runs
        refine .inl ⟨by omega,fun q theirs => ?_⟩
        have other : q ≠ p := by
          rintro rfl
          exact mine theirs.2
        exact ⟨by rw [takes.exec]; exact (List.mem_erase_of_ne other).mpr theirs.1,(takes.otros q other).trans theirs.2⟩
  | sigue antes despues b next shape before after lanza same =>
    refine .inl (still same ?_)
    rw [shape,lanza,(pesos_de_una before after b).1 _ muda_despacho]
    cases next with
    | consulta j c b next => rcases next with rfl | rfl | rfl <;> exact le_rfl
    | llama j p tipo b given next => cases tipo <;> cases next <;> exact le_rfl
    | _ => exact le_rfl
  | io j p u reads given result =>
    subst result
    exact .inl (still mismas_refl le_rfl)
  | bloquea j p antes b source shape before lanza same =>
    refine .inl (still same ?_)
    rw [shape,lanza,weight_append,muda_weight muda_despacho before]
    rcases source with ⟨rfl,m,rfl⟩ | ⟨⟨i,z,rfl⟩,rfl⟩ <;> exact le_rfl
  | despacha j p despues decides shape after lanza free puts cpu =>
    refine .inl (gives p j puts cpu ?_)
    rw [shape,lanza,weight_cons,muda_weight muda_despacho after]
    exact le_rfl
  | reanuda j p ends waits kept shape lanza puts cpu =>
    refine .inl (gives p j puts cpu ?_)
    rw [shape,lanza]
    have same : r.ks.cpu_esperando_memoria = some j := by
      rcases mueve_espera move unborn with same | ⟨clears,-⟩ | ⟨q,notes,-⟩
      · exact (Prod.mk.inj same).2.trans kept
      · cases ends.symm.trans clears
      · cases ends.symm.trans notes
    simp only [weight_cons,weight_nil,total_nil,despacho,same,Option.some.injEq]
    split_ifs <;> omega
  | redespacha j p ends waits kept result =>
    subst ends result
    refine .inl ⟨?_,fun p mine => mine⟩
    simp only [weight_cons,weight_nil,total_nil,despacho,despachada,waits,kept,Option.some.injEq,ne_eq,reduceCtorEq,not_false_eq_true,
      true_and] at sum ⊢
    omega
  | lee j c reads given result =>
    rcases result with ⟨rfl,-⟩ | ⟨rfl,-⟩ | ⟨rfl,-⟩ <;> exact .inl (still mismas_refl le_rfl)
  | corta j reads given result =>
    subst result
    exact .inl (still mismas_refl le_rfl)
  | llega accepts given result =>
    subst result
    exact .inl (still ⟨rfl,fun _ _ => rfl⟩ le_rfl)

/-! ## All the conversations -/

/-- The CPU at the other end of a new connection. -/
def conecta (a : Accion) (e : Entrada) (n : Nat) (cpus : Nat → Cpu) : Nat → Cpu :=
  match a, e with
  | .atender_conexiones_entrantes, .cliente_cpu => Function.update cpus n ⟨.principal,none,[]⟩
  | _, _ => cpus

/-- It has sent nothing yet. -/
def estrena (a : Accion) (e : Entrada) (n : Nat) (a_ks : Nat → List Entrada) : Nat → List Entrada :=
  match a, e with
  | .atender_conexiones_entrantes, .cliente_cpu => Function.update a_ks n []
  | _, _ => a_ks

theorem conecta_vieja {n : Nat} (cpus : Nat → Cpu) (a_ks : Nat → List Entrada)
    (old : ¬ (a = .atender_conexiones_entrantes ∧ e = .cliente_cpu ∧ k = n)) :
    conecta a e n cpus k = cpus k ∧ estrena a e n a_ks k = a_ks k := by
  unfold conecta estrena
  constructor
  · split
    · exact Function.update_of_ne (fun same => old ⟨rfl,rfl,same⟩) _ _
    · rfl
  · split
    · exact Function.update_of_ne (fun same => old ⟨rfl,rfl,same⟩) _ _
    · rfl

/-- Everything said between the scheduler and its CPUs. -/
structure Sesiones (v : Planificador) (cpus : Nat → Cpu) (a_ks : Nat → List Entrada) : Prop extends Atendido v where
  suyas : ∀ pila ∈ v.hilos, ∀ b ∈ pila, ∀ k, atendida b = some k → .atender_cpu k ∈ pila
  seguidas : ∀ pila ∈ v.hilos, Seguida pila
  unidas : ∀ k, (cpus k).modo ≠ .ida → 0 < total (atiende k) v.hilos
  sesion : ∀ pila ∈ v.hilos, ∀ k, .atender_cpu k ∈ pila → Sesion v.ks (total (despacho v.ks k) v.hilos) k pila (cpus k) (a_ks k)
  enviados : Every (fun b => ∀ k p, b = .enviar_ejecutar k p →
    k < v.ks.proximo_cliente ∧ (0 < total (atiende k) v.hilos → Suyo v.ks k p)) v.hilos
  apartada : ∀ k, v.ks.cpu_esperando_memoria = some k → k < v.ks.proximo_cliente
  reanudado : Pending (· = .redespachar) v.hilos →
    ∃ p k, CpuAccounts.espera v.ks = (some p,some k) ∧ (0 < total (atiende k) v.hilos → Suyo v.ks k p)

theorem inicial_sesiones (a_ks : Nat → List Entrada) : Sesiones inicial (fun _ => ⟨.ida,none,[]⟩) a_ks where
  toAtendido := inicial_atendido
  suyas pila member b listed k serves := by
    obtain rfl := List.mem_singleton.mp member
    rw [List.mem_singleton.mp listed] at serves
    cases serves
  seguidas pila member := by
    obtain rfl := List.mem_singleton.mp member
    exact ⟨by simp [anuncia],trivial⟩
  unidas k here := absurd rfl here
  sesion pila member k reads := by
    obtain rfl := List.mem_singleton.mp member
    cases List.mem_singleton.mp reads
  enviados pila member b listed k p sends := by
    obtain rfl := List.mem_singleton.mp member
    rw [List.mem_singleton.mp listed] at sends
    cases sends
  apartada k kept := by cases kept
  reanudado some := by
    obtain ⟨pila,member,b,listed,same⟩ := some
    obtain rfl := List.mem_singleton.mp member
    cases (List.mem_singleton.mp listed).symm.trans same

/-- A thread reads from one CPU. -/
theorem lee_una {pila : Pila} {j : Nat} (fine : Turnado pila) (reads : .atender_cpu k ∈ pila) (reads' : .atender_cpu j ∈ pila) : j = k := by
  induction pila with
  | nil => cases reads
  | cons b rest ih =>
    obtain ⟨-,last,fine⟩ := fine
    rcases List.mem_cons.mp reads with rfl | later
    · rw [last rfl] at reads'
      cases List.mem_singleton.mp reads'
      rfl
    · rcases List.mem_cons.mp reads' with rfl | later'
      · rw [last rfl] at later
        cases later
      · exact ih fine later later'

theorem lee_atendida (reads : lee_de a = some k) : atendida a = some k ∨ a = .atender_cpu k := by
  cases a <;> first | exact .inl reads | (cases reads; done) | (cases reads; exact .inr rfl)

theorem relevo_atendida (next : Relevo e a b) (serves : atendida b = some k) : atendida a = some k := by
  cases next with
  | consulta j c b next => rcases next with rfl | rfl | rfl <;> exact serves
  | llama j p tipo b given next => cases tipo <;> cases next <;> exact serves
  | contesta a p j u source plain => rcases source with rfl | rfl | rfl <;> exact serves
  | responde q j u asks plain =>
    obtain rfl := Option.some.inj serves
    exact asks
  | anota | bloquea => cases serves
  | _ => exact serves

theorem muda_ajena (silent : muda b = true) : atendida b = none ∧ b ≠ .atender_cpu k := by
  cases b with
  | pedir q | recibir q => exact ⟨by simpa [muda] using silent,by simp⟩
  | atender_cpu j => cases silent
  | _ => first | exact ⟨rfl,by simp⟩ | cases silent

theorem muda_anuncia (silent : muda b = true) : anuncia b = false := by
  cases b with
  | enviar_respuesta j u => cases silent
  | _ => rfl

theorem relevo_anuncia (next : Relevo e a b) : anuncia b = false := by
  cases next with
  | consulta j c b next => rcases next with rfl | rfl | rfl <;> rfl
  | llama j p tipo b given next => cases tipo <;> cases next <;> rfl
  | contesta a p j u source plain | responde q j u asks plain => cases u <;> first | rfl | exact absurd rfl plain
  | _ => rfl

theorem seguida_callada {pila : Pila} (silent : pila.all muda = true) (rest : Seguida later) : Seguida (pila ++ later) :=
  followed_append (fun b member => muda_anuncia (List.all_eq_true.mp silent b member)) rest

theorem seguida_una {antes despues : Pila} (before : antes.all muda = true) (after : despues.all muda = true) (calm : anuncia b = false)
    (rest : Seguida later) : Seguida ((antes ++ b :: despues) ++ later) := by
  rw [List.append_assoc]
  exact seguida_callada before ⟨fun leads => by simp [calm] at leads,seguida_callada after rest⟩

/-- What a move leaves to the thread to do. -/
theorem trato_seguida (trato : Trato s e a r) (rest : Seguida later) :
    Seguida (r.sigue ++ later) ∧ ∀ pila ∈ r.lanza, Seguida pila := by
  cases trato with
  | nada ends quiet lanza =>
    refine ⟨seguida_callada quiet rest,fun pila member => ?_⟩
    have silent := List.all_eq_true.mp lanza pila member
    have ends : Seguida (pila ++ []) := seguida_callada silent trivial
    rwa [List.append_nil] at ends
  | sigue antes despues b next shape before after lanza same =>
    rw [shape,lanza]
    exact ⟨seguida_una before after (relevo_anuncia next) rest,by simp⟩
  | io j p t reads given result =>
    subst result
    exact ⟨⟨by simp [anuncia],by simp [anuncia],rest⟩,by simp⟩
  | bloquea j p antes b source shape before lanza same =>
    rw [shape,lanza,List.append_assoc]
    refine ⟨seguida_callada before ⟨fun _ => ⟨b,later,rfl,?_⟩,?_,rest⟩,by simp⟩
    · rcases source with ⟨-,m,rfl⟩ | ⟨-,rfl⟩
      · exact .inl ⟨p,m,rfl⟩
      · exact .inr ⟨p,rfl⟩
    · rcases source with ⟨-,m,rfl⟩ | ⟨-,rfl⟩ <;> simp [anuncia]
  | despacha j p despues decides shape after lanza free puts cpu =>
    rw [shape,lanza]
    have next : Seguida (([] ++ .enviar_ejecutar j p :: despues) ++ later) := seguida_una rfl after rfl rest
    exact ⟨next,by simp⟩
  | reanuda j p ends waits kept shape lanza puts cpu =>
    rw [shape,lanza]
    exact ⟨⟨by simp [anuncia],rest⟩,by simp⟩
  | redespacha j p ends waits kept result =>
    subst result
    exact ⟨⟨by simp [anuncia],by simp [anuncia],by simp [anuncia],rest⟩,by simp⟩
  | lee j c reads given result =>
    rcases result with ⟨rfl,-⟩ | ⟨rfl,-⟩ | ⟨rfl,-⟩
    · exact ⟨⟨by simp [anuncia],by simp [anuncia],rest⟩,by simp⟩
    · exact ⟨⟨by simp [anuncia],by simp [anuncia],rest⟩,by simp⟩
    · exact ⟨⟨by simp [anuncia],rest⟩,by simp⟩
  | corta j reads given result =>
    subst result
    exact ⟨⟨by simp [anuncia],rest⟩,by simp⟩
  | llega accepts given result =>
    subst result
    refine ⟨⟨by simp [anuncia],rest⟩,fun pila member => ?_⟩
    obtain rfl := List.mem_singleton.mp member
    exact ⟨by simp [anuncia],by simp [anuncia],trivial⟩

/-- Whoever is served after a move was before it, or the thread goes on reading from it. -/
theorem trato_atendida (trato : Trato s e a r) : (∀ b ∈ r.sigue, ∀ k, atendida b = some k → atendida a = some k ∨ .atender_cpu k ∈ r.sigue) ∧
    ∀ pila ∈ r.lanza, ∀ b ∈ pila, atendida b = none := by
  have silent : ∀ {pila : Pila}, pila.all muda = true → ∀ b ∈ pila, atendida b = none := fun quiet b member =>
    (@muda_ajena b 0 (List.all_eq_true.mp quiet b member)).1
  cases trato with
  | nada ends quiet lanza =>
    refine ⟨fun b member k serves => ?_,fun pila member => silent (List.all_eq_true.mp lanza pila member)⟩
    simp [silent quiet b member] at serves
  | sigue antes despues x next shape before after lanza same =>
    rw [shape,lanza]
    refine ⟨fun b member k serves => .inl ?_,by simp⟩
    rcases List.mem_append.mp member with first | last
    · simp [silent before b first] at serves
    · rcases List.mem_cons.mp last with rfl | last
      · exact relevo_atendida next serves
      · simp [silent after b last] at serves
  | io j p t reads given result =>
    subst reads result
    exact ⟨by simp [atendida],by simp⟩
  | bloquea j p antes x source shape before lanza same =>
    rw [shape,lanza]
    refine ⟨fun b member k serves => .inl ?_,by simp⟩
    rcases List.mem_append.mp member with first | last
    · simp [silent before b first] at serves
    · rcases List.mem_pair.mp last with rfl | rfl
      · rcases source with ⟨rfl,-⟩ | ⟨⟨i,z,rfl⟩,-⟩ <;> exact serves
      · rcases source with ⟨-,m,rfl⟩ | ⟨-,rfl⟩ <;> cases serves
  | despacha j p despues decides shape after lanza free puts cpu =>
    rw [shape,lanza]
    refine ⟨fun b member k serves => ?_,by simp⟩
    rcases List.mem_cons.mp member with rfl | last
    · cases serves
    · simp [silent after b last] at serves
  | reanuda j p ends waits kept shape lanza puts cpu =>
    rw [shape,lanza]
    exact ⟨by simp [atendida],by simp⟩
  | redespacha j p ends waits kept result =>
    subst result
    exact ⟨by simp [atendida],by simp⟩
  | lee j c reads given result =>
    rcases result with ⟨rfl,-⟩ | ⟨rfl,-⟩ | ⟨rfl,-⟩
    · exact ⟨by simp [atendida],by simp⟩
    · exact ⟨by simp [atendida],by simp⟩
    · exact ⟨by simp [atendida],by simp⟩
  | corta j reads given result =>
    subst result
    exact ⟨by simp [atendida],by simp⟩
  | llega accepts given result =>
    subst result
    exact ⟨by simp [atendida],by simp [atendida]⟩

section piles
variable {hilos : List Pila}

theorem suyas_avanza (turnos : ∀ pila ∈ hilos, Turnado pila) (suyas : ∀ pila ∈ hilos, ∀ b ∈ pila, ∀ k, atendida b = some k → .atender_cpu k ∈ pila)
    (here : hilos[i]? = some (a :: later)) (trato : Trato s e a r) :
    ∀ pila ∈ advance hilos i r.sigue later r.lanza, ∀ b ∈ pila, ∀ k, atendida b = some k → .atender_cpu k ∈ pila := by
  intro pila member b listed k serves
  have mine := List.mem_of_getElem? here
  obtain ⟨next,started⟩ := trato_atendida trato
  rcases mem_advance member with old | rfl | new
  · exact suyas pila old b listed k serves
  · rcases List.mem_append.mp listed with first | rest
    · rcases next b first k serves with own | reads
      · rcases List.mem_cons.mp (suyas _ mine a List.mem_cons_self k own) with rfl | reads
        · cases own
        · exact List.mem_append_right _ reads
      · exact List.mem_append_left _ reads
    · have reads := suyas _ mine b (List.mem_cons_of_mem a rest) k serves
      exact List.mem_append_right _ (lee_despues turnos here rest reads)
  · simp [started pila new b listed] at serves

theorem seguidas_avanza (seguidas : ∀ pila ∈ hilos, Seguida pila) (here : hilos[i]? = some (a :: later)) (trato : Trato s e a r) :
    ∀ pila ∈ advance hilos i r.sigue later r.lanza, Seguida pila := by
  intro pila member
  obtain ⟨own,started⟩ := trato_seguida trato (seguidas _ (List.mem_of_getElem? here)).2
  rcases mem_advance member with old | rfl | new
  · exact seguidas pila old
  · exact own
  · exact started pila new

end piles

/-! ## Dispatches on their way -/

theorem muda_envia (silent : muda b = true) : b ≠ .enviar_ejecutar k p ∧ b ≠ .redespachar := by
  constructor
  · rintro rfl
    cases silent
  · rintro rfl
    cases silent

theorem relevo_envia (next : Relevo e a b) : b ≠ .enviar_ejecutar k p ∧ b ≠ .redespachar := by
  cases next with
  | consulta j c b next => rcases next with rfl | rfl | rfl <;> exact ⟨by simp,by simp⟩
  | llama j p tipo b given next => cases tipo <;> cases next <;> exact ⟨by simp,by simp⟩
  | _ => exact ⟨by simp,by simp⟩

/-- A dispatch is to be sent where the planner gives a CPU a process, or a compaction ends. -/
theorem trato_envia (trato : Trato s e a r) :
    (∀ k p, .enviar_ejecutar k p ∈ r.sigue → some k ∈ s.lista_cpus_libres ∧ Suyo r.ks k p ∨
      a = .redespachar ∧ CpuAccounts.espera s = (some p,some k) ∧ r.ks = s) ∧
      (.redespachar ∈ r.sigue → a = .fin_compactacion ∧ ∃ p k, CpuAccounts.espera s = (some p,some k) ∧ Suyo r.ks k p) ∧
      ∀ pila ∈ r.lanza, ∀ b ∈ pila, (∀ k p, b ≠ .enviar_ejecutar k p) ∧ b ≠ .redespachar := by
  have silent : ∀ {pila : Pila}, pila.all muda = true → ∀ b ∈ pila, (∀ k p, b ≠ .enviar_ejecutar k p) ∧ b ≠ .redespachar :=
    fun quiet b member => ⟨fun k p => (muda_envia (List.all_eq_true.mp quiet b member)).1,
      (@muda_envia b 0 0 (List.all_eq_true.mp quiet b member)).2⟩
  have quieto : (∀ b ∈ r.sigue, (∀ k p, b ≠ .enviar_ejecutar k p) ∧ b ≠ .redespachar) → _ := fun none =>
    show (∀ k p, .enviar_ejecutar k p ∈ r.sigue → some k ∈ s.lista_cpus_libres ∧ Suyo r.ks k p ∨
      a = .redespachar ∧ CpuAccounts.espera s = (some p,some k) ∧ r.ks = s) ∧
      (.redespachar ∈ r.sigue → a = .fin_compactacion ∧ ∃ p k, CpuAccounts.espera s = (some p,some k) ∧ Suyo r.ks k p) from
    ⟨fun k p member => absurd rfl ((none _ member).1 k p),fun member => absurd rfl (none _ member).2⟩
  rw [← and_assoc]
  cases trato with
  | nada ends quiet lanza =>
    exact ⟨quieto (silent quiet),fun pila member => silent (List.all_eq_true.mp lanza pila member)⟩
  | sigue antes despues x next shape before after lanza same =>
    refine ⟨quieto (fun b member => ?_),by simp [lanza]⟩
    rw [shape] at member
    rcases List.mem_append.mp member with first | last
    · exact silent before b first
    · rcases List.mem_cons.mp last with rfl | last
      · exact ⟨fun k p => (relevo_envia next).1,(@relevo_envia _ _ _ 0 0 next).2⟩
      · exact silent after b last
  | io j p t reads given result =>
    subst reads result
    exact ⟨quieto (by simp),by simp⟩
  | bloquea j p antes x source shape before lanza same =>
    refine ⟨quieto (fun b member => ?_),by simp [lanza]⟩
    rw [shape] at member
    rcases List.mem_append.mp member with first | last
    · exact silent before b first
    · rcases List.mem_pair.mp last with rfl | rfl
      · simp
      · rcases source with ⟨-,m,rfl⟩ | ⟨-,rfl⟩ <;> simp
  | despacha j p despues decides shape after lanza free puts cpu =>
    refine ⟨⟨fun k q member => ?_,fun member => ?_⟩,by simp [lanza]⟩
    · rw [shape] at member
      rcases List.mem_cons.mp member with same | last
      · cases same
        exact .inl ⟨free,by rw [puts.exec]; simp,cpu⟩
      · exact absurd rfl ((silent after _ last).1 k q)
    · rw [shape] at member
      rcases List.mem_cons.mp member with same | last
      · cases same
      · exact absurd rfl (silent after _ last).2
  | reanuda j p ends waits kept shape lanza puts cpu =>
    refine ⟨⟨fun k q member => ?_,fun _ => ?_⟩,by simp [lanza]⟩
    · rw [shape] at member
      cases List.mem_singleton.mp member
    · exact ⟨ends,p,j,by rw [CpuAccounts.espera,waits,kept],by rw [puts.exec]; simp,cpu⟩
  | redespacha j p ends waits kept result =>
    subst result
    refine ⟨⟨fun k q member => ?_,by simp⟩,by simp⟩
    have same : k = j ∧ q = p := by simpa using member
    obtain ⟨rfl,rfl⟩ := same
    exact .inr ⟨ends,by rw [CpuAccounts.espera,waits,kept],rfl⟩
  | lee j c reads given result =>
    rcases result with ⟨rfl,-⟩ | ⟨rfl,-⟩ | ⟨rfl,-⟩ <;> exact ⟨quieto (by simp),by simp⟩
  | corta j reads given result =>
    subst result
    exact ⟨quieto (by simp),by simp⟩
  | llega accepts given result =>
    subst result
    exact ⟨quieto (by simp),by simp⟩

theorem acaba_pendiente (ends : acaba a = true) (busy : maneja a = some k ∨ ocupa a = some p) : pendiente a = 1 ∧ suelta a = 1 := by
  cases a with
  | pedir q | recibir q =>
    cases q with
    | crear_segmento => cases ends
    | _ => rcases busy with busy | busy <;> cases busy
  | _ => first | exact ⟨rfl,rfl⟩ | (rcases busy with busy | busy <;> cases busy; done) | cases ends

section held
variable {cpus : Nat → Cpu} {a_ks : Nat → List Entrada}

/-- A process leaves a CPU by the thread of that CPU, when no dispatch is due to it. -/
theorem sale_sola (held : Sesiones v cpus a_ks) (accounts : Cuentas v) (here : v.hilos[i]? = some (a :: later))
    (leaves : Sale v.ks t k a p) : a = .desconectar_cpu k ∨
      .atender_cpu k ∈ later ∧ pendiente a = 1 ∧ suelta a = 1 ∧ total (despacho v.ks k) v.hilos = 0 := by
  have mine := List.mem_of_getElem? here
  obtain ⟨suyo,quien,ends,-⟩ := leaves
  by_cases gives : a = .desconectar_cpu k
  · exact .inl gives
  have busy : maneja a = some k ∨ ocupa a = some p := quien.imp_right (fun other => other.resolve_left gives)
  have reads : .atender_cpu k ∈ a :: later := by
    rcases busy with handles | takes
    · exact held.sirven _ mine a List.mem_cons_self k (.inr handles)
    · obtain ⟨-,j,cpu,reads⟩ := held.ocupados _ mine a List.mem_cons_self p takes
      obtain rfl := Option.some.inj (cpu.symm.trans suyo.2)
      exact reads
  obtain ⟨works,lets⟩ := acaba_pendiente ends busy
  have few := (held.sesion _ mine k reads).cuenta
  have once := accounts.una_vez k
  simp only [lugares,sitios] at once
  rw [weight_cons,works] at few
  refine .inr ⟨?_,works,lets,by omega⟩
  rcases List.mem_cons.mp reads with rfl | later
  · cases works
  · exact later

/-- What is dispatched to a connected CPU still runs on it after the move. -/
theorem suyo_avanza (held : Sesiones v cpus a_ks) (accounts : Cuentas v) (here : v.hilos[i]? = some (a :: later))
    (move : Mueve cfg hora v.ks a r) (unborn : v.ks.proximo_pid ∉ v.ks.listas .lista_exec) (trato : Trato v.ks e a r)
    (what : Ejecucion v.ks a r.ks) (due : 0 < total (despacho v.ks k) v.hilos) (old : k < v.ks.proximo_cliente)
    (reads : 0 < total (atiende k) (advance v.hilos i r.sigue later r.lanza)) (suyo : Suyo v.ks k p) : Suyo r.ks k p := by
  rcases despachos_avanza accounts here move unborn trato what k with ⟨-,kept⟩ | ⟨-,q,leaves⟩
  · exact kept p suyo
  · exfalso
    rcases sale_sola held accounts here leaves with rfl | ⟨-,-,-,none⟩
    · have before := (atiende_avanza trato here k).2 (by omega)
      have ends := item_le_total (desconecta k) here
      have most := accounts.conexion k
      simp only [desconecta,if_true] at ends
      omega
    · omega

theorem despacho_total {pila : Pila} (member : pila ∈ v.hilos) (listed : .enviar_ejecutar k p ∈ pila) :
    0 < total (despacho s k) v.hilos := by
  obtain ⟨first,last,rfl⟩ := List.append_of_mem listed
  have part := weight_le_total (despacho s k) member
  simp only [weight_append,weight_cons,despacho,if_true] at part
  omega

theorem cliente_avanza (change : Cambio s a r) : s.proximo_cliente ≤ r.ks.proximo_cliente := by
  cases change with
  | cuadra balance => exact balance.cliente
  | llega accepts result =>
    subst result
    exact Nat.le_succ _
  | corta j reads result =>
    subst result
    exact le_rfl
  | desconecta j leaves otros mia light none encoge same =>
    simp only [Prod.mk.injEq] at same
    exact same.2.2.2.2.ge

/-! ## The conversation with one CPU -/

theorem mensajes_ajenos (other : atendida a ≠ some k) : contestada k a = 0 ∧ ∀ m ∈ mensajes k a, es_respuesta m = false := by
  cases a with
  | enviar_respuesta j u =>
    have apart : j ≠ k := fun same => other (by rw [← same]; rfl)
    simp [contestada,mensajes,apart]
  | enviar_ejecutar j p | enviar_interrumpir j p =>
    refine ⟨rfl,fun m member => ?_⟩
    simp only [mensajes] at member
    split_ifs at member
    · rw [List.mem_singleton.mp member]
      rfl
    · cases member
  | _ => exact ⟨rfl,by simp [mensajes]⟩

theorem mensajes_mudos {m : List CpuTurns.Mensaje} (silent : ∀ x ∈ m, es_respuesta x = false) :
    m.countP es_respuesta = 0 ∧ m.count (.respuesta .BLOQUEADO) = 0 := by
  refine ⟨List.countP_eq_zero.mpr (fun x member => by simp [silent x member]),List.count_eq_zero.mpr (fun member => ?_)⟩
  cases silent _ member

theorem ejecutar_mensajes (sent : .ejecutar p ∈ mensajes k a) : a = .enviar_ejecutar k p := by
  cases a with
  | enviar_ejecutar j q | enviar_interrumpir j q | enviar_respuesta j q =>
    simp only [mensajes] at sent
    split_ifs at sent with mine
    · cases List.mem_singleton.mp sent
      all_goals rw [mine]
    · cases sent
  | _ => cases sent

theorem conectada (accounts : Cuentas v) (reads : 0 < total (atiende k) v.hilos) : k < v.ks.proximo_cliente := by
  by_contra late
  have none := (accounts.nuevas k (by omega)).2
  omega

/-- Another thread sends the CPU what it was due, and interrupts. -/
theorem sesion_otra (held : Sesiones v cpus a_ks) (accounts : Cuentas v) (here : v.hilos[i]? = some (a :: later))
    (move : Mueve cfg hora v.ks a r) (unborn : v.ks.proximo_pid ∉ v.ks.listas .lista_exec) (trato : Trato v.ks e a r)
    (what : Ejecucion v.ks a r.ks) {a_ks' : Nat → List Entrada} (taken : CpuTurns.toma a e a_ks = some a_ks') {j : Nat} {pila : Pila}
    (other : j ≠ i) (there : v.hilos[j]? = some pila) (reads : .atender_cpu k ∈ pila) :
    Sesion r.ks (total (despacho r.ks k) (advance v.hilos i r.sigue later r.lanza)) k pila
      { cpus k with socket_ks := (cpus k).socket_ks ++ mensajes k a } (a_ks' k) := by
  have mine := List.mem_of_getElem? here
  have member := List.mem_of_getElem? there
  have away : .atender_cpu k ∉ a :: later := fun reads' => other (lee_uno accounts here there reads' reads)
  have apart : atendida a ≠ some k := fun serves => away (held.suyas _ mine a List.mem_cons_self k serves)
  have same : a_ks' k = a_ks k := by
    have reading := lectura_de_toma taken k
    generalize a_ks k = l at reading ⊢
    generalize a_ks' k = l' at reading ⊢
    cases reading with
    | nada => rfl
    | lee own =>
      rcases lee_atendida own with serves | rfl
      · exact absurd serves apart
      · exact absurd List.mem_cons_self away
  obtain ⟨answers,silent⟩ := mensajes_ajenos apart
  obtain ⟨quiet,quiet'⟩ := mensajes_mudos silent
  have goes := mensajes_vale k a
  have talk := held.sesion pila member k reads
  rcases despachos_avanza accounts here move unborn trato what k with ⟨few,kept⟩ | ⟨-,q,leaves⟩
  · rw [same]
    refine sesion_sigue talk (held.seguidas pila member) talk.oye (.inl kept) (by omega) (by omega) (by omega) (fun p sent => ?_)
      (fun _ => .inl silent)
    obtain rfl := ejecutar_mensajes sent
    exact kept p ((held.enviados _ mine _ List.mem_cons_self k p rfl).2 (lee_total member reads))
  · exfalso
    rcases sale_sola held accounts here leaves with rfl | ⟨own,-⟩
    · have one := lee_total member reads
      have ends := item_le_total (desconecta k) here
      have most := accounts.conexion k
      simp only [desconecta,if_true] at ends
      omega
    · exact away (List.mem_cons_of_mem a own)

theorem trato_lee (trato : Trato s e a r) (reads : .atender_cpu k ∈ r.sigue) : a = .atender_cpu k := by
  have silent : ∀ {pila : Pila}, pila.all muda = true → .atender_cpu k ∉ pila := fun quiet member =>
    (@muda_ajena _ k (List.all_eq_true.mp quiet _ member)).2 rfl
  cases trato with
  | nada ends quiet lanza => exact absurd reads (silent quiet)
  | sigue antes despues x next shape before after lanza same =>
    rw [shape] at reads
    rcases List.mem_append.mp reads with first | last
    · exact absurd first (silent before)
    · rcases List.mem_cons.mp last with rfl | last
      · have none := (@relevo_atiende _ _ _ k next).2
        simp [atiende] at none
      · exact absurd last (silent after)
  | io j p t own given result =>
    subst result
    simp at reads
  | bloquea j p antes x source shape before lanza same =>
    rw [shape] at reads
    rcases List.mem_append.mp reads with first | last
    · exact absurd first (silent before)
    · rcases List.mem_pair.mp last with same | same
      · cases same
      · rcases source with ⟨-,m,rfl⟩ | ⟨-,rfl⟩ <;> cases same
  | despacha j p despues decides shape after lanza free puts cpu =>
    rw [shape] at reads
    rcases List.mem_cons.mp reads with same | last
    · cases same
    · exact absurd last (silent after)
  | reanuda j p ends waits kept shape lanza puts cpu =>
    rw [shape] at reads
    cases List.mem_singleton.mp reads
  | redespacha j p ends waits kept result =>
    subst result
    simp at reads
  | lee j c own given result =>
    subst own
    have same : k = j := by rcases result with ⟨rfl,-⟩ | ⟨rfl,-⟩ | ⟨rfl,-⟩ <;> simpa using reads
    rw [same]
  | corta j own given result =>
    subst result
    simp at reads
  | llega accepts given result =>
    subst result
    simp at reads

theorem lee_antes (trato : Trato s e a r) (reads : .atender_cpu k ∈ r.sigue ++ later) : .atender_cpu k ∈ a :: later := by
  rcases List.mem_append.mp reads with now | rest
  · rw [trato_lee trato now]
    exact List.mem_cons_self
  · exact List.mem_cons_of_mem a rest

/-- A new thread reads from the CPU whose connection is accepted. -/
theorem lee_nueva (trato : Trato s e a r) {pila : Pila} (new : pila ∈ r.lanza) (reads : .atender_cpu k ∈ pila) :
    a = .atender_conexiones_entrantes ∧ e = .cliente_cpu ∧ k = s.proximo_cliente := by
  cases trato with
  | nada ends quiet lanza => exact absurd rfl (@muda_ajena _ k (List.all_eq_true.mp (List.all_eq_true.mp lanza pila new) _ reads)).2
  | llega accepts given result =>
    subst result
    obtain rfl := List.mem_singleton.mp new
    exact ⟨accepts,given,by simpa using reads⟩
  | sigue antes despues x next shape before after lanza same | bloquea j p antes x source shape before lanza same
  | despacha j p despues decides shape after lanza free puts cpu | reanuda j p ends waits kept shape lanza puts cpu =>
    rw [lanza] at new
    cases new
  | lee j c own given result => rcases result with ⟨rfl,-⟩ | ⟨rfl,-⟩ | ⟨rfl,-⟩ <;> cases new
  | io j p t own given result | redespacha j p ends waits kept result | corta j own given result =>
    subst result
    cases new

/-- The thread of the CPU goes on with the conversation. -/
theorem sesion_propia (held : Sesiones v cpus a_ks) (accounts : Cuentas v) (here : v.hilos[i]? = some (a :: later))
    (move : Mueve cfg hora v.ks a r) (unborn : v.ks.proximo_pid ∉ v.ks.listas .lista_exec) (trato : Trato v.ks e a r)
    (what : Ejecucion v.ks a r.ks) {a_ks' : Nat → List Entrada} (taken : CpuTurns.toma a e a_ks = some a_ks')
    (reads : .atender_cpu k ∈ r.sigue ++ later) :
    Sesion r.ks (total (despacho r.ks k) (advance v.hilos i r.sigue later r.lanza)) k (r.sigue ++ later)
      { cpus k with socket_ks := (cpus k).socket_ks ++ mensajes k a } (a_ks' k) := by
  have mine := List.mem_of_getElem? here
  have before := lee_antes trato reads
  have talk := held.sesion _ mine k before
  have once := accounts.una_vez k
  simp only [lugares,sitios] at once
  have only : ∀ j, atendida a = some j ∨ a = .atender_cpu j → j = k := by
    intro j serves
    refine lee_una (held.turnos _ mine) before ?_
    rcases serves with serves | rfl
    · exact held.suyas _ mine a List.mem_cons_self j serves
    · exact List.mem_cons_self
  have goes := mensajes_vale k a
  rcases anda_de_trato trato talk.oye (lectura_de_toma taken k) only (turno_libre held.turnos here).2.1 with anda | ⟨-,cut⟩
  case inr =>
    rw [cut] at reads
    cases List.mem_singleton.mp reads
  have spent := anda.cuenta
  have owed := anda.deuda
  have feared := anda.temor
  have follows := seguidas_avanza held.seguidas here trato _ (List.mem_of_getElem? (show
    (advance v.hilos i r.sigue later r.lanza)[i]? = some (r.sigue ++ later) by
      obtain ⟨pre,post,same,rfl⟩ := Places.split_of_getElem? here
      rw [same,advance_split]
      simp))
  have orden : (cpus k).modo ≠ .ida → (∀ m ∈ mensajes k a, es_respuesta m = false) ∨
      (∃ u, mensajes k a = [.respuesta u]) ∧ ∀ p, .ejecutar p ∉ (cpus k).socket_ks := by
    intro alive
    by_cases answers : ∃ u, a = .enviar_respuesta k u
    · obtain ⟨u,rfl⟩ := answers
      refine .inr ⟨⟨u,by simp [mensajes]⟩,fun p member => ?_⟩
      have due : 1 ≤ weight pendiente (.enviar_respuesta k u :: later) := by
        by_cases blocked : u = .BLOQUEADO
        · subst blocked
          obtain ⟨b,rest,rfl,next⟩ := (held.seguidas _ mine).1 rfl
          rw [weight_cons,weight_cons]
          rcases next with ⟨p,m,rfl⟩ | ⟨p,rfl⟩ <;> simp only [pendiente] <;> omega
        · rw [weight_cons]
          cases u <;> first | exact absurd rfl blocked | (simp only [pendiente,atendida,Option.isSome_some,if_true]; omega)
      have few := talk.una (by omega) alive
      have none := List.countP_eq_zero.mp (show (cpus k).socket_ks.countP vale = 0 by omega) _ member
      simp at none
    · refine .inl (fun m member => ?_)
      cases a with
      | enviar_respuesta j u =>
        have apart : j ≠ k := fun same => answers ⟨u,by rw [same]⟩
        simp [mensajes,apart] at member
      | enviar_ejecutar j p | enviar_interrumpir j p =>
        simp only [mensajes] at member
        split_ifs at member
        · rw [List.mem_singleton.mp member]
          rfl
        · cases member
      | _ => cases member
  rcases despachos_avanza accounts here move unborn trato what k with ⟨few,kept⟩ | ⟨few,q,leaves⟩
  · refine sesion_sigue talk follows anda.oye (.inl kept) ?_ ?_ ?_ (fun p sent => ?_) orden
    · rw [weight_append,weight_cons]
      omega
    · rw [weight_append,weight_cons]
      omega
    · rw [weight_append,weight_cons]
      omega
    · obtain rfl := ejecutar_mensajes sent
      exact kept p ((held.enviados _ mine _ List.mem_cons_self k p rfl).2 (lee_total mine before))
  · have runs := leaves.ejecuciones
    rcases sale_sola held accounts here leaves with rfl | ⟨-,-,lets,-⟩
    · have last := (turno_libre held.turnos here).2.1 rfl
      rw [last] at before
      cases List.mem_singleton.mp before
    · refine sesion_sigue talk follows anda.oye (.inr (by omega)) ?_ ?_ ?_ (fun p sent => ?_) orden
      · rw [weight_append,weight_cons]
        omega
      · rw [weight_append,weight_cons]
        omega
      · rw [weight_append,weight_cons]
        omega
      · obtain rfl := ejecutar_mensajes sent
        cases lets

/-- A CPU that has just connected has nothing to say, and nothing to read. -/
theorem sesion_nueva (held : Sesiones v cpus a_ks) (here : v.hilos[i]? = some (.atender_conexiones_entrantes :: later)) :
    Sesion { v.ks with proximo_cliente := v.ks.proximo_cliente + 1 }
      (total (despacho { v.ks with proximo_cliente := v.ks.proximo_cliente + 1 } v.ks.proximo_cliente)
        (advance v.hilos i [.atender_conexiones_entrantes] later
          [[.agregar_cpu (some v.ks.proximo_cliente),.atender_cpu v.ks.proximo_cliente]])) v.ks.proximo_cliente
      [.agregar_cpu (some v.ks.proximo_cliente),.atender_cpu v.ks.proximo_cliente] ⟨.principal,none,[]⟩ [] := by
  have none : total (despacho { v.ks with proximo_cliente := v.ks.proximo_cliente + 1 } v.ks.proximo_cliente) v.hilos = 0 := by
    refine total_zero (fun pila member b listed => ?_)
    cases b with
    | enviar_ejecutar j p =>
      have old := (held.enviados pila member _ listed j p rfl).1
      exact if_neg (by omega)
    | redespachar =>
      refine if_neg (fun due => ?_)
      have old := held.apartada _ due.2
      omega
    | _ => rfl
  have sum := total_advance (despacho { v.ks with proximo_cliente := v.ks.proximo_cliente + 1 } v.ks.proximo_cliente) here
    [.atender_conexiones_entrantes] [[.agregar_cpu (some v.ks.proximo_cliente),.atender_cpu v.ks.proximo_cliente]]
  simp only [weight_cons,weight_nil,total_cons,total_nil,despacho,none] at sum
  refine ⟨.mensajes .nada,?_,by simp,by simp,by simp,fun _ => rfl,fun _ => le_rfl,fun _ => .nil⟩
  rw [show total (despacho { v.ks with proximo_cliente := v.ks.proximo_cliente + 1 } v.ks.proximo_cliente) _ = 0 by omega]
  exact Nat.zero_le _

/-! ## One move -/

theorem entrega_modo (a : Accion) (cpus : Nat → Cpu) (k : Nat) : (CpuTurns.entrega a cpus k).modo = (cpus k).modo := by
  rw [entrega_apply]

/-- What a thread receives is about what it serves. -/
theorem propia_de_sesiones {a_ks' : Nat → List Entrada} (held : Sesiones v cpus a_ks) (here : v.hilos[i]? = some (a :: later))
    (taken : CpuTurns.toma a e a_ks = some a_ks') : Propia v.ks a e := by
  cases quiet : lee_de a with
  | none => exact propia_callada quiet
  | some k =>
    have mine := List.mem_of_getElem? here
    have reads : .atender_cpu k ∈ a :: later := by
      rcases lee_atendida quiet with serves | rfl
      · exact held.suyas _ mine a List.mem_cons_self k serves
      · exact List.mem_cons_self
    exact propia_de_oye (lectura_de_toma taken k) quiet (held.sesion _ mine k reads).oye

theorem habla_de_propia (own : Propia s a e) : habla a e s = true := by
  unfold habla
  cases names : nombrado a e with
  | none => rfl
  | some p => simp [(own.1 p names).2]

/-- Where a connection is cut the CPU has gone. -/
theorem corte_ida {ida : Prop} {l l' : List Entrada} (reading : Lectura k (.atender_cpu k) .corte l l')
    (hears : Oye (Suyo s k) ida [] l) : ida := by
  cases reading with
  | nada other => exact absurd rfl other
  | lee _ value =>
    cases hears with
    | mensajes whole =>
      cases whole with
      | corte gone => exact gone
      | fin | llamada => rcases value with same | ⟨-,code⟩ <;> first | cases same | cases code

theorem enviados_avanza (held : Sesiones v cpus a_ks) (accounts : Cuentas v) (here : v.hilos[i]? = some (a :: later))
    (move : Mueve cfg hora v.ks a r) (unborn : v.ks.proximo_pid ∉ v.ks.listas .lista_exec) (trato : Trato v.ks e a r)
    (what : Ejecucion v.ks a r.ks) (change : Cambio v.ks a r) :
    Every (fun b => ∀ k p, b = .enviar_ejecutar k p → k < r.ks.proximo_cliente ∧
      (0 < total (atiende k) (advance v.hilos i r.sigue later r.lanza) → Suyo r.ks k p)) (advance v.hilos i r.sigue later r.lanza) := by
  have grows := cliente_avanza change
  have mine := List.mem_of_getElem? here
  have stays : ∀ pila ∈ v.hilos, ∀ k p, .enviar_ejecutar k p ∈ pila → k < r.ks.proximo_cliente ∧
      (0 < total (atiende k) (advance v.hilos i r.sigue later r.lanza) → Suyo r.ks k p) := by
    intro pila member k p listed
    obtain ⟨old,runs⟩ := held.enviados pila member _ listed k p rfl
    refine ⟨by omega,fun reads => ?_⟩
    have before := (atiende_avanza trato here k).2 (by omega)
    exact suyo_avanza held accounts here move unborn trato what (despacho_total member listed) old reads (runs (by omega))
  obtain ⟨sends,-,started⟩ := trato_envia trato
  rintro pila member b listed k p rfl
  rcases mem_advance member with old | rfl | new
  · exact stays pila old k p listed
  · rcases List.mem_append.mp listed with first | rest
    · rcases sends k p first with ⟨free,suyo⟩ | ⟨ends,waits,same⟩
      · refine ⟨?_,fun _ => suyo⟩
        by_contra late
        have none := (accounts.nuevas k (by omega)).1
        have listed := List.count_pos_iff.mpr free
        simp only [lugares,sitios] at none
        omega
      · obtain ⟨q,j,waits',runs⟩ := held.reanudado ⟨_,mine,_,List.mem_cons_self,ends⟩
        obtain ⟨rfl,rfl⟩ : q = p ∧ j = k := by simpa using waits'.symm.trans waits
        have old := held.apartada j (Prod.mk.inj waits).2
        refine ⟨by omega,fun reads => ?_⟩
        have before := (atiende_avanza trato here j).2 (by omega)
        rw [same]
        exact runs (by omega)
    · exact stays _ mine k p (List.mem_cons_of_mem a rest)
  · exact absurd rfl ((started pila new _ listed).1 k p)

theorem apartada_avanza (held : Sesiones v cpus a_ks) (accounts : Cuentas v) (here : v.hilos[i]? = some (a :: later))
    (move : Mueve cfg hora v.ks a r) (unborn : v.ks.proximo_pid ∉ v.ks.listas .lista_exec) (change : Cambio v.ks a r) :
    ∀ k, r.ks.cpu_esperando_memoria = some k → k < r.ks.proximo_cliente := by
  intro k kept
  have grows := cliente_avanza change
  rcases mueve_espera move unborn with same | ⟨-,none⟩ | ⟨p,rfl,noted⟩
  · rw [(Prod.mk.inj same).2] at kept
    have old := held.apartada k kept
    omega
  · rw [(Prod.mk.inj none).2] at kept
    cases kept
  · have mine := List.mem_of_getElem? here
    obtain ⟨-,j,cpu,reads⟩ := held.ocupados _ mine _ List.mem_cons_self p rfl
    rw [(Prod.mk.inj noted).2,cpu] at kept
    obtain rfl := Option.some.inj kept
    have old := conectada accounts ((Nat.lt_of_lt_of_le Nat.one_pos (lee_total mine reads)))
    omega

/-- The leave to plan in other hands than of whoever is about to resume a process. -/
def otro_permiso (b : Accion) : Nat := permiso b - vuelve b

theorem vuelve_sola (accounts : Cuentas v) (returns : 0 < total vuelve v.hilos) : total otro_permiso v.hilos = 0 := by
  have one := accounts.permiso
  have split : total permiso v.hilos = total vuelve v.hilos + total otro_permiso v.hilos := by
    rw [← total_add]
    refine congrArg (fun f => total f v.hilos) (funext (fun b => ?_))
    have less := vuelve_permiso b
    unfold otro_permiso
    omega
  omega

theorem reanudado_avanza (held : Sesiones v cpus a_ks) (accounts : Cuentas v) (here : v.hilos[i]? = some (a :: later))
    (move : Mueve cfg hora v.ks a r) (unborn : v.ks.proximo_pid ∉ v.ks.listas .lista_exec) (trato : Trato v.ks e a r)
    (what : Ejecucion v.ks a r.ks) : Pending (· = .redespachar) (advance v.hilos i r.sigue later r.lanza) →
      ∃ p k, CpuAccounts.espera r.ks = (some p,some k) ∧
        (0 < total (atiende k) (advance v.hilos i r.sigue later r.lanza) → Suyo r.ks k p) := by
  rintro ⟨pila,member,b,listed,rfl⟩
  have mine := List.mem_of_getElem? here
  obtain ⟨-,resumes,started⟩ := trato_envia trato
  have stays : ∀ pila ∈ v.hilos, .redespachar ∈ pila → ∃ p k, CpuAccounts.espera r.ks = (some p,some k) ∧
      (0 < total (atiende k) (advance v.hilos i r.sigue later r.lanza) → Suyo r.ks k p) := by
    intro pila member listed
    obtain ⟨p,k,waits,runs⟩ := held.reanudado ⟨pila,member,_,listed,rfl⟩
    obtain ⟨process,cpu⟩ := Prod.mk.inj waits
    have counted : ∀ f : Accion → Nat, f .redespachar ≤ total f v.hilos := by
      intro f
      obtain ⟨first,last,rfl⟩ := List.append_of_mem listed
      have part := weight_le_total f member
      simp only [weight_append,weight_cons] at part
      omega
    have alone := vuelve_sola accounts (counted vuelve)
    have same : CpuAccounts.espera r.ks = CpuAccounts.espera v.ks := by
      rcases mueve_espera move unborn with same | ⟨rfl,-⟩ | ⟨q,rfl,-⟩
      · exact same
      · obtain ⟨x,rest,rfl,rfl⟩ := (accounts.limpia _ mine).1 rfl
        have part := weight_le_total otro_permiso mine
        have holds : otro_permiso .post_puede_planificar = 1 := rfl
        rw [weight_cons,weight_cons,holds] at part
        omega
      · have part := item_le_total otro_permiso here
        have holds : otro_permiso (.anotar_espera q) = 1 := rfl
        omega
    refine ⟨p,k,same.trans waits,fun reads => ?_⟩
    have old := held.apartada k cpu
    have before := (atiende_avanza trato here k).2 (by omega)
    have due := counted (despacho v.ks k)
    simp only [despacho,process,cpu,ne_eq,reduceCtorEq,not_false_eq_true,and_self,if_true] at due
    exact suyo_avanza held accounts here move unborn trato what (by omega) old reads (runs (by omega))
  rcases mem_advance member with old | rfl | new
  · exact stays pila old listed
  · rcases List.mem_append.mp listed with first | rest
    · obtain ⟨ends,p,k,waits,suyo⟩ := resumes first
      refine ⟨p,k,?_,fun _ => suyo⟩
      rcases mueve_espera move unborn with same | ⟨clears,-⟩ | ⟨q,notes,-⟩
      · exact same.trans waits
      · cases ends.symm.trans clears
      · cases ends.symm.trans notes
    · exact stays _ mine (List.mem_cons_of_mem a rest)
  · exact absurd rfl (started pila new _ listed).2

/-- What a move of a thread is, when the CPUs say what they say. -/
theorem trato_de_sesiones {l : Paso} {a_ks' : Nat → List Entrada} (held : Sesiones v cpus a_ks) (accounts : Cuentas v)
    (here : v.hilos[l.hilo]? = some (a :: later)) (effect : efecto cfg l.hora l.entrada a v.ks = some r)
    (taken : CpuTurns.toma a l.entrada a_ks = some a_ks') (outside : r.ks.bsod_activo = false)
    (good : en_su_lista cfg a l.entrada v.ks = true) (due : a = .fin_compactacion → v.ks.compactando = true)
    (known : ∀ p, Sitio cfg v.ks p ∨ Fuera v.ks p) (unborn : v.ks.proximo_pid ∉ v.ks.listas .lista_exec) :
    Trato v.ks l.entrada a r ∧ Ejecucion v.ks a r.ks ∧ Cambio v.ks a r := by
  have move := efecto_mueve effect
  obtain ⟨calm,other⟩ := mueve_bsod move outside
  have own := propia_de_sesiones held here taken
  have waits : a = .fin_compactacion ∨ a = .redespachar → v.ks.proceso_esperando_memoria ≠ none := by
    rintro (ends | rfl)
    · exact accounts.espera (due ends)
    · obtain ⟨p,k,waits,-⟩ := held.reanudado ⟨_,List.mem_of_getElem? here,_,List.mem_cons_self,rfl⟩
      simp [(Prod.mk.inj waits).1]
  have marked : fin_debido a l.entrada v.ks = true := by simpa [fin_debido,or_iff_not_imp_left] using due
  exact ⟨efecto_trato effect own calm known good unborn waits held.espera,
    efecto_ejecucion effect (habla_de_propia own) good known unborn held.espera other,
    cambio_of_cuentas accounts here move outside good marked known unborn⟩

/-- A move of a thread keeps every conversation going. -/
theorem sesiones_avanza {l : Paso} {a_ks' : Nat → List Entrada} (held : Sesiones v cpus a_ks) (accounts : Cuentas v)
    (here : v.hilos[l.hilo]? = some (a :: later)) (effect : efecto cfg l.hora l.entrada a v.ks = some r)
    (taken : CpuTurns.toma a l.entrada a_ks = some a_ks') (outside : r.ks.bsod_activo = false)
    (good : en_su_lista cfg a l.entrada v.ks = true) (due : a = .fin_compactacion → v.ks.compactando = true)
    (known : ∀ p, Sitio cfg v.ks p ∨ Fuera v.ks p) (unborn : v.ks.proximo_pid ∉ v.ks.listas .lista_exec) :
    Sesiones ⟨r.ks,advance v.hilos l.hilo r.sigue later r.lanza⟩ (conecta a l.entrada v.ks.proximo_cliente (CpuTurns.entrega a cpus))
      (estrena a l.entrada v.ks.proximo_cliente a_ks') := by
  have move := efecto_mueve effect
  have mine := List.mem_of_getElem? here
  have speaks := habla_de_propia (propia_de_sesiones held here taken)
  obtain ⟨trato,what,change⟩ := trato_de_sesiones held accounts here effect taken outside good due known unborn
  have old : ∀ k, 0 < total (atiende k) v.hilos → k ≠ v.ks.proximo_cliente := fun k reads same => by
    have before := conectada accounts reads
    omega
  refine {
    toAtendido := atendido_avanza held.toAtendido accounts here move (efecto_continua effect speaks) what unborn
    suyas := suyas_avanza held.turnos held.suyas here trato
    seguidas := seguidas_avanza held.seguidas here trato
    unidas := fun k alive => ?_
    sesion := fun pila member k reads => ?_
    enviados := enviados_avanza held accounts here move unborn trato what change
    apartada := apartada_avanza held accounts here move unborn change
    reanudado := reanudado_avanza held accounts here move unborn trato what }
  case refine_1 =>
    by_cases new : a = .atender_conexiones_entrantes ∧ l.entrada = .cliente_cpu ∧ k = v.ks.proximo_cliente
    · obtain ⟨rfl,given,rfl⟩ := new
      rw [given] at effect
      obtain rfl := Option.some.inj effect
      exact Nat.lt_of_lt_of_le Nat.one_pos (@lee_total _ ⟨_,_⟩ [.agregar_cpu (some v.ks.proximo_cliente),.atender_cpu v.ks.proximo_cliente]
        (List.mem_append_right _ (by simp)) (by simp))
    · have before : (cpus k).modo ≠ .ida := by
        rw [(conecta_vieja _ a_ks new).1,entrega_modo] at alive
        exact alive
      refine Nat.lt_of_lt_of_le (held.unidas k before) ((atiende_avanza trato here k).1 ?_)
      rintro ⟨rfl,cut⟩
      rw [cut] at taken
      have talk := held.sesion _ mine k List.mem_cons_self
      have last := (turno_libre held.turnos here).2.1 rfl
      subst last
      exact before (corte_ida (lectura_de_toma taken k) talk.oye)
  case refine_2 =>
    have stays : ∀ {pila}, pila ∈ v.hilos → .atender_cpu k ∈ pila →
        conecta a l.entrada v.ks.proximo_cliente (CpuTurns.entrega a cpus) k =
          { cpus k with socket_ks := (cpus k).socket_ks ++ mensajes k a } ∧
        estrena a l.entrada v.ks.proximo_cliente a_ks' k = a_ks' k := by
      intro pila member reads
      have apart := old k (lee_total member reads)
      obtain ⟨same,same'⟩ := conecta_vieja (CpuTurns.entrega a cpus) a_ks' (fun new => apart new.2.2)
      exact ⟨same.trans (entrega_apply a cpus k),same'⟩
    rcases mem_advance_other member with ⟨j,apart,there⟩ | rfl | new
    · obtain ⟨same,same'⟩ := stays (List.mem_of_getElem? there) reads
      rw [same,same']
      exact sesion_otra held accounts here move unborn trato what taken apart there reads
    · obtain ⟨same,same'⟩ := stays mine (lee_antes trato reads)
      rw [same,same']
      exact sesion_propia held accounts here move unborn trato what taken reads
    · obtain ⟨rfl,given,rfl⟩ := lee_nueva trato new reads
      rw [given] at effect ⊢
      obtain rfl := Option.some.inj effect
      obtain rfl := List.mem_singleton.mp new
      simp only [conecta,estrena,Function.update_self]
      exact sesion_nueva held here

/-- A turn of a CPU keeps every conversation going. -/
theorem sesiones_turno {c : CpuTurns.Turno} (held : Sesiones v cpus a_ks) (alive : (cpus k).modo ≠ .ida)
    (talks : ∀ pila ∈ v.hilos, .atender_cpu k ∈ pila → Sesion v.ks (total (despacho v.ks k) v.hilos) k pila c.1 (a_ks k ++ c.2)) :
    Sesiones v (Function.update cpus k c.1) (Function.update a_ks k (a_ks k ++ c.2)) := by
  refine { held with unidas := fun j here => ?_, sesion := fun pila member j reads => ?_ }
  · by_cases mine : j = k
    · subst mine
      exact held.unidas j alive
    · rw [Function.update_of_ne mine] at here
      exact held.unidas j here
  · by_cases mine : j = k
    · subst mine
      rw [Function.update_self,Function.update_self]
      exact talks pila member reads
    · rw [Function.update_of_ne mine,Function.update_of_ne mine]
      exact held.sesion pila member j reads

end held

end PlugNPray.Conversations
