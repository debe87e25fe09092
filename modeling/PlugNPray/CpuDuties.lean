import PlugNPray.CpuPlaces

/-!
What the thread of a CPU does for it. Each message is about one process, the one that the CPU
runs, and what follows from it takes that process off the CPU and gives the CPU back; the
last thing that the thread does is to give the connection up.
-/
namespace PlugNPray.CpuDuties
open PlugNPray.Scheduler PlugNPray.Handlers PlugNPray.ReadyQueues PlugNPray.Moves PlugNPray.Stacks PlugNPray.Runs
open PlugNPray.ProcessLists PlugNPray.CpuPlaces

/-! ## What a thread does for a CPU -/

/-- The CPU whose message the action handles. -/
def maneja : Accion → Option Nat
  | .consultar_bsod k _ | .manejar_proceso_exit k | .manejar_seg_fault k | .manejar_fin_quantum k | .manejar_syscall k => some k
  | _ => none

/-- The running process that the action takes off its CPU, or leads to an action that does. -/
def ocupa : Accion → Option Nat
  | .bloquear_proceso p _ | .manejar_mutex_lock p _ | .manejar_mem_alloc p _ | .pedir (.crear_segmento p _ _ _)
  | .recibir (.crear_segmento p _ _ _) | .esperar_planificacion p | .anotar_espera p | .bloquear_por_compactacion p => some p
  | _ => none

/-- The CPU that the action gives back, or leads to an action that does. -/
def devuelve : Accion → Option (Option Nat)
  | .agregar_cpu c | .liberar_cpu_de_quantum c _ | .pedir (.finalizar_proceso _ c) | .recibir (.finalizar_proceso _ c) => some c
  | _ => none

def atareada (a : Accion) : Bool := (maneja a).isSome || (ocupa a).isSome

/-- The thread of the CPU ends with the action. -/
def cierra : Accion → Bool
  | .atender_cpu _ | .desconectar_cpu _ => true
  | _ => false

def Sirve (k : Nat) (a : Accion) : Prop := devuelve a = some (some k) ∨ maneja a = some k

/-- A thread does one thing at a time for its CPU, and last of all it reads from it or gives it up. -/
def Turnado : Pila → Prop
  | [] => True
  | a :: rest => (atareada a = true → ∀ b ∈ rest, atareada b = false) ∧ (cierra a = true → rest = []) ∧ Turnado rest

/-- The action has nothing to do with the CPUs. -/
def inerte (a : Accion) : Bool := !atareada a && !cierra a && (devuelve a).isNone

variable {cfg : Config} {hora : Nat} {s t : Ks} {a b : Accion} {r : Efecto} {p q k : Nat}

theorem inerte_def : inerte a = true ↔ maneja a = none ∧ ocupa a = none ∧ cierra a = false ∧ devuelve a = none := by
  cases quiet : maneja a <;> cases free : ocupa a <;> simp [inerte,atareada,quiet,free]

theorem inerte_de_bucle : ∀ b, de_bucle b = true → inerte b = true := by
  intro b loop
  cases b <;> first | rfl | cases loop

theorem turnado_inertes {pila : Pila} (quiet : pila.all inerte = true) : Turnado pila := by
  induction pila with
  | nil => trivial
  | cons b rest ih =>
    rw [List.all_cons,Bool.and_eq_true] at quiet
    obtain ⟨handles,holds,open_,-⟩ := inerte_def.mp quiet.1
    exact ⟨fun busy => by simp [atareada,handles,holds] at busy,fun last => by simp [open_] at last,ih quiet.2⟩

theorem turnado_append {first second : Pila} (fine : Turnado first) (open_ : ∀ b ∈ first, cierra b = false)
    (one : (∀ b ∈ first, atareada b = false) ∨ ∀ b ∈ second, atareada b = false) (rest : Turnado second) : Turnado (first ++ second) := by
  induction first with
  | nil => exact rest
  | cons b later ih =>
    obtain ⟨alone,-,fine⟩ := fine
    refine ⟨fun busy => ?_,fun last => ?_,ih fine (fun c member => open_ c (List.mem_cons_of_mem b member)) ?_⟩
    · rcases one with none | none
      · rw [none b List.mem_cons_self] at busy
        cases busy
      · intro c member
        rcases List.mem_append.mp member with here | there
        · exact alone busy c here
        · exact none c there
    · rw [open_ b List.mem_cons_self] at last
      cases last
    · exact one.imp_left (fun none c member => none c (List.mem_cons_of_mem b member))

/-- How what a thread does next goes on from what it did. -/
structure Continua (s : Ks) (a : Accion) (r : Efecto) : Prop where
  turnado : Turnado r.sigue
  abierta : cierra a = false → ∀ b ∈ r.sigue, cierra b = false
  libre : atareada a = false → cierra a = false → ∀ b ∈ r.sigue, atareada b = false
  sirve : ∀ b ∈ r.sigue, ∀ k, Sirve k b → Sirve k a ∨ a = .atender_cpu k ∨ ∃ p, ocupa a = some p ∧ (s.procesos p).cpu = some k
  llena : ∀ b ∈ r.sigue, devuelve b = some none → devuelve a = some none ∨
    ∃ p, (s.procesos p).cpu = none ∧ (p ∈ s.listas .lista_exec ∨ ocupa a = some p)
  ocupa : ∀ b ∈ r.sigue, ∀ p, ocupa b = some p → r.ks.listas .lista_exec = s.listas .lista_exec ∧
    (p ∈ s.listas .lista_exec → (r.ks.procesos p).cpu = (s.procesos p).cpu) ∧
      (CpuDuties.ocupa a = some p ∨ ∃ k, maneja a = some k ∧ p ∈ s.listas .lista_exec ∧ (s.procesos p).cpu = some k)
  lee : ∀ k, a = .atender_cpu k → .atender_cpu k ∈ r.sigue ∨ r.sigue = [.desconectar_cpu k]
  lanza : ∀ pila ∈ r.lanza, Turnado pila ∧ (∀ b ∈ pila, ∀ k, Sirve k b → .atender_cpu k ∈ pila) ∧
    ∀ b ∈ pila, CpuDuties.ocupa b = none ∧ devuelve b ≠ some none

/-- What is left to do has nothing to do with the CPUs. -/
theorem continua_inertes (reads : ∀ k, a ≠ .atender_cpu k) (quiet : r.sigue.all inerte = true)
    (started : r.lanza.all (fun pila => pila.all inerte) = true) : Continua s a r := by
  have each : ∀ b ∈ r.sigue, _ := fun b member => inerte_def.mp (List.all_eq_true.mp quiet b member)
  refine ⟨turnado_inertes quiet,fun _ b member => (each b member).2.2.1,fun _ _ b member => ?_,fun b member k serves => ?_,
    fun b member holds => ?_,fun b member p holds => ?_,fun k mine => absurd mine (reads k),fun pila member => ?_⟩
  · simp [atareada,(each b member).1,(each b member).2.1]
  · rcases serves with holds | handles
    · simp [(each b member).2.2.2] at holds
    · simp [(each b member).1] at handles
  · simp [(each b member).2.2.2] at holds
  · simp [(each b member).2.1] at holds
  · have quiet := List.all_eq_true.mp started pila member
    have each : ∀ b ∈ pila, _ := fun b member => inerte_def.mp (List.all_eq_true.mp quiet b member)
    refine ⟨turnado_inertes quiet,fun b member k serves => ?_,fun b member => ⟨(each b member).2.1,by simp [(each b member).2.2.2]⟩⟩
    rcases serves with holds | handles
    · simp [(each b member).2.2.2] at holds
    · simp [(each b member).1] at handles

/-! ## The messages of a CPU -/

/-- The process that the message names. -/
def nombrado : Accion → Entrada → Option Nat
  | .manejar_proceso_exit _, e | .manejar_seg_fault _, e | .manejar_fin_quantum _, e => e.pid?
  | .manejar_syscall _, e => e.llamada?.map Prod.fst
  | _, _ => none

/-- The message is about the process that the CPU runs, unless that process runs nowhere. -/
def habla (a : Accion) (e : Entrada) (s : Ks) : Bool :=
  (nombrado a e).all (fun p => p ∉ s.listas .lista_exec || (s.procesos p).cpu = maneja a)

/-- What a message about process `p` leads to. -/
inductive Mensaje (s : Ks) (p : Nat) : Efecto → Prop where
  | nadie (unknown : p ∉ s.listas .lista_exec) : Mensaje s p ⟨s,[],[]⟩
  | termina (running : p ∈ s.listas .lista_exec) :
      Mensaje s p ⟨((s.cancelar_timer p).quitar .lista_exec p).con_estado p .EXIT_STATE,
        [.pedir (.finalizar_proceso p (s.procesos p).cpu)],[]⟩
  | fin_quantum (running : p ∈ s.listas .lista_exec) (t : Ks) (desaloja : Pila) (planificable : Bool) (one : Desalojo desaloja)
      (exec : t.listas .lista_exec = (s.listas .lista_exec).erase p) (cpu : (t.procesos p).cpu = none)
      (otros : ∀ q, q ≠ p → (t.procesos q).cpu = (s.procesos q).cpu) (resto : resto t = resto s) :
      Mensaje s p ⟨t,desaloja ++ [.liberar_cpu_de_quantum (s.procesos p).cpu planificable],[]⟩
  | syscall (running : p ∈ s.listas .lista_exec) (b : Accion) (pila : Pila) (first : maneja b = none ∧ cierra b = false ∧ devuelve b = none)
      (mine : ∀ q, ocupa b = some q → q = p) (quiet : pila.all inerte = true) : Mensaje s p ⟨s,b :: pila,[]⟩

theorem mensaje_fin (pid : Nat) (s : Ks) : Mensaje s pid (terminar_proceso pid s) := by
  unfold terminar_proceso
  split
  case h_1 p found =>
    obtain rfl := find_self found
    exact .termina (List.mem_of_find?_eq_some found)
  case h_2 missing => exact .nadie (missing_of_find missing)

theorem mensaje_fin_quantum (cfg : Config) (pid : Nat) (s : Ks) : Mensaje s pid (manejar_fin_quantum cfg pid s) := by
  simp only [manejar_fin_quantum]
  split
  case h_1 p found =>
    obtain rfl := find_self found
    have running := List.mem_of_find?_eq_some found
    have apart := ne_destino (c := .lista_exec) rfl cfg (s.procesos p).prioridad
    by_cases moving : s.compactando
    · simp only [Ks.con_cpu_compactando,Ks.con_estado_compactando,Ks.quitar_compactando,moving,if_true]
      rw [encolar_al_frente_de_ready_ks,encolar_al_frente_de_ready_desaloja]
      simp only [Ks.con_cpu_procesos,Ks.con_estado_procesos,Ks.quitar_procesos,Function.update_self]
      by_cases invalid : destino cfg (s.procesos p).prioridad = .lista_ready_invalida
      · rw [if_pos invalid]
        exact .fin_quantum running _ _ _ desalojo_nil (by simp) (by simp) (fun q other => by simp [other]) rfl
      · rw [if_neg invalid]
        exact .fin_quantum running _ _ _ desalojo_nil (by simp [apart]) (by simp) (fun q other => by simp [other]) rfl
    · simp only [Ks.con_cpu_compactando,Ks.con_estado_compactando,Ks.quitar_compactando,moving,Bool.false_eq_true,if_false]
      rw [encolar_en_ready_ks]
      simp only [Ks.con_cpu_procesos,Ks.con_estado_procesos,Ks.quitar_procesos,Function.update_self]
      exact .fin_quantum running _ _ _ (encolar_en_ready_desaloja ..) (by simp [apart]) (by simp) (fun q other => by simp [other]) rfl
  case h_2 missing => exact .nadie (missing_of_find missing)

theorem mensaje_syscall (k pid : Nat) (tipo : Syscall) (s : Ks) : Mensaje s pid (manejar_syscall k pid tipo s) := by
  unfold manejar_syscall
  split
  case h_1 p found =>
    obtain rfl := find_self found
    have running := List.mem_of_find?_eq_some found
    cases tipo <;> exact .syscall running _ _ ⟨rfl,rfl,rfl⟩ (by simp [ocupa]) rfl
  case h_2 missing => exact .nadie (missing_of_find missing)

/-- A message of CPU `k`, once its code is read. -/
theorem mensaje_de_efecto {e : Entrada} (handles : maneja a = some k) (code : ∀ c, a ≠ .consultar_bsod k c)
    (effect : efecto cfg hora e a s = some r) (own : habla a e s = true) :
    ∃ p, Mensaje s p r ∧ (p ∈ s.listas .lista_exec → (s.procesos p).cpu = some k) := by
  have speaks : ∀ p, nombrado a e = some p → p ∈ s.listas .lista_exec → (s.procesos p).cpu = some k := by
    intro p names running
    simpa [habla,names,running,handles] using own
  cases a with
  | manejar_proceso_exit j | manejar_seg_fault j =>
    obtain ⟨p,names,rfl⟩ := Option.map_eq_some_iff.mp effect
    exact ⟨p,mensaje_fin p s,speaks p names⟩
  | manejar_fin_quantum j =>
    obtain ⟨p,names,rfl⟩ := Option.map_eq_some_iff.mp effect
    exact ⟨p,mensaje_fin_quantum cfg p s,speaks p names⟩
  | manejar_syscall j =>
    obtain ⟨⟨p,tipo⟩,names,rfl⟩ := Option.map_eq_some_iff.mp effect
    exact ⟨p,mensaje_syscall j p tipo s,speaks p (by simp [nombrado,names])⟩
  | consultar_bsod j c =>
    obtain rfl := Option.some.inj handles
    exact absurd rfl (code c)
  | _ => cases handles

theorem sirve_inerte (quiet : inerte b = true) : ¬ Sirve k b := by
  obtain ⟨handles,-,-,holds⟩ := inerte_def.mp quiet
  rintro (gives | serves)
  · simp [holds] at gives
  · simp [handles] at serves

theorem inerte_mem {pila : Pila} (quiet : pila.all inerte = true) (member : b ∈ pila) :
    maneja b = none ∧ ocupa b = none ∧ cierra b = false ∧ devuelve b = none :=
  inerte_def.mp (List.all_eq_true.mp quiet b member)

theorem inerte_libre {pila : Pila} (quiet : pila.all inerte = true) (member : b ∈ pila) : atareada b = false := by
  simp [atareada,(inerte_mem quiet member).1,(inerte_mem quiet member).2.1]

/-- One action that counts, among others that do not. -/
theorem continua_una (antes despues : Pila) {x : Accion} {ks : Ks} {lanza : List Pila} (before : antes.all inerte = true)
    (after : despues.all inerte = true) (open_ : cierra x = false)
    (reads : ∀ k, a ≠ .atender_cpu k) (busy : atareada x = true → atareada a = true)
    (sirve : ∀ k, Sirve k x → Sirve k a ∨ ∃ p, ocupa a = some p ∧ (s.procesos p).cpu = some k)
    (llena : devuelve x = some none → devuelve a = some none ∨
      ∃ p, (s.procesos p).cpu = none ∧ (p ∈ s.listas .lista_exec ∨ ocupa a = some p))
    (takes : ∀ p, ocupa x = some p → ks.listas .lista_exec = s.listas .lista_exec ∧ (p ∈ s.listas .lista_exec → (ks.procesos p).cpu = (s.procesos p).cpu) ∧
      (ocupa a = some p ∨ ∃ k, maneja a = some k ∧ p ∈ s.listas .lista_exec ∧ (s.procesos p).cpu = some k))
    (started : lanza.all (fun pila => pila.all inerte) = true) : Continua s a ⟨ks,antes ++ x :: despues,lanza⟩ := by
  have split : ∀ b ∈ antes ++ x :: despues, b = x ∨ inerte b = true := by
    intro b member
    rcases List.mem_append.mp member with first | last
    · exact .inr (List.all_eq_true.mp before b first)
    · exact (List.mem_cons.mp last).imp_right (List.all_eq_true.mp after b)
  refine ⟨?_,fun _ b member => ?_,fun calm _ b member => ?_,fun b member k serves => ?_,fun b member none => ?_,
    fun b member p holds => ?_,fun k mine => absurd mine (reads k),?_⟩
  · refine turnado_append (turnado_inertes before) (fun b member => (inerte_mem before member).2.2.1)
      (.inl (fun b member => inerte_libre before member)) ⟨fun _ b member => inerte_libre after member,?_,turnado_inertes after⟩
    simp [open_]
  · rcases split b member with rfl | quiet
    · exact open_
    · exact (inerte_def.mp quiet).2.2.1
  · rcases split b member with rfl | quiet
    · by_contra some
      rw [busy (by simpa using some)] at calm
      cases calm
    · simp [atareada,(inerte_def.mp quiet).1,(inerte_def.mp quiet).2.1]
  · rcases split b member with rfl | quiet
    · exact (sirve k serves).imp_right .inr
    · exact absurd serves (sirve_inerte quiet)
  · rcases split b member with rfl | quiet
    · exact llena none
    · simp [(inerte_def.mp quiet).2.2.2] at none
  · rcases split b member with rfl | quiet
    · exact takes p holds
    · simp [(inerte_def.mp quiet).2.1] at holds
  · exact (continua_inertes (a := .enviar_confirmacion) (s := s) (r := ⟨ks,[],lanza⟩) (by simp) rfl started).lanza

theorem mensaje_continua (handles : maneja a = some k) (message : Mensaje s p r)
    (mine : p ∈ s.listas .lista_exec → (s.procesos p).cpu = some k) : Continua s a r := by
  have reads : ∀ j, a ≠ .atender_cpu j := by
    rintro j rfl
    cases handles
  have busy : atareada a = true := by simp [atareada,handles]
  cases message with
  | nadie unknown => exact continua_inertes reads rfl rfl
  | termina running =>
    refine continua_una [] [] rfl rfl rfl reads (fun _ => busy) (fun j serves => ?_) ?_ (by simp [ocupa]) rfl
    · rw [mine running] at serves
      have same : k = j := by simpa [Sirve,devuelve,maneja] using serves
      exact .inl (.inr (same ▸ handles))
    · simp [devuelve,mine running]
  | fin_quantum running t desaloja planificable one exec cpu otros resto =>
    refine continua_una desaloja [] (all_de_bucle inerte_de_bucle (desalojo_de_bucle one)) rfl rfl reads (fun _ => busy) (fun j serves => ?_) ?_
      (by simp [ocupa]) rfl
    · rw [mine running] at serves
      have same : k = j := by simpa [Sirve,devuelve,maneja] using serves
      exact .inl (.inr (same ▸ handles))
    · simp [devuelve,mine running]
  | syscall running b pila first own quiet =>
    obtain ⟨handled,open_,gives⟩ := first
    refine continua_una [] pila rfl quiet open_ reads (fun _ => busy) (fun j serves => ?_) (by simp [gives])
      (fun q takes => ?_) rfl
    · rcases serves with returns | serves
      · simp [gives] at returns
      · simp [handled] at serves
    · obtain rfl := own q takes
      exact ⟨rfl,fun _ => rfl,.inr ⟨k,handles,running,mine running⟩⟩

/-- The thread of a CPU between two messages. -/
theorem continua_lee {x : Accion} (handles : maneja x = some k) (closed : cierra x = false) :
    Continua s (.atender_cpu k) ⟨s,[x,.atender_cpu k],[]⟩ := by
  have gives : devuelve x = none ∧ ocupa x = none := by cases x <;> first | exact ⟨rfl,rfl⟩ | cases handles
  have reads : devuelve (.atender_cpu k) = none ∧ ocupa (.atender_cpu k) = none := ⟨rfl,rfl⟩
  constructor
  case turnado => exact ⟨fun _ => by simp [atareada,maneja,ocupa],by simp [closed],by simp [Turnado,atareada,maneja,ocupa]⟩
  case abierta => simp [cierra]
  case libre => simp [cierra]
  case sirve =>
    intro b member j serves
    rcases List.mem_pair.mp member with rfl | rfl
    · rcases serves with returns | serves
      · simp [gives.1] at returns
      · exact .inr (.inl (by rw [Option.some.inj (handles.symm.trans serves)]))
    · simp [Sirve,devuelve,maneja] at serves
  case llena => simp [gives.1,reads.1]
  case ocupa => simp [gives.2,reads.2]
  case lee =>
    rintro j mine
    cases mine
    exact .inl (by simp)
  case lanza => simp

/-- The thread of a CPU reads on, or has nothing left to read. -/
theorem continua_ultima {x : Accion} (last : x = .atender_cpu k ∨ x = .desconectar_cpu k) :
    Continua s (.atender_cpu k) ⟨s,[x],[]⟩ := by
  have gives : devuelve x = none ∧ ocupa x = none ∧ maneja x = none := by rcases last with rfl | rfl <;> exact ⟨rfl,rfl,rfl⟩
  constructor
  case turnado => exact ⟨by simp,by simp,trivial⟩
  case abierta => simp [cierra]
  case libre => simp [cierra]
  case sirve => simp [Sirve,gives]
  case llena => simp [gives.1]
  case ocupa => simp [gives.2.1]
  case lee =>
    rintro j mine
    cases mine
    exact last.imp (fun same => by simp [same]) (fun same => by simp [same])
  case lanza => simp

theorem efecto_continua {e : Entrada} (effect : efecto cfg hora e a s = some r) (own : habla a e s = true) :
    Continua s a r := by
  have move := efecto_mueve effect
  by_cases message : ∃ k, maneja a = some k ∧ ∀ c, a ≠ .consultar_bsod k c
  · obtain ⟨k,handles,code⟩ := message
    obtain ⟨p,message,mine⟩ := mensaje_de_efecto handles code effect own
    exact mensaje_continua handles message mine
  cases move with
  | manejar_proceso_exit k | exit_desconocido k | manejar_seg_fault k | seg_fault_desconocido k | manejar_fin_quantum k
  | fin_quantum_invalido k | fin_quantum_al_frente k | fin_quantum_desconocido k | syscall_io k | syscall_mutex_create k
  | syscall_mutex_lock k | syscall_mutex_unlock k | syscall_init_proc k | syscall_mem_alloc k | syscall_mem_free k
  | syscall_desconocida k | syscall_de_nadie k => exact absurd ⟨k,rfl,by simp⟩ message
  | consultar_bsod k c bsod => exact continua_inertes (by simp) rfl rfl
  | consultar_exit k c | consultar_seg_fault k c | consultar_fin_quantum k c =>
    refine continua_una [] [] rfl rfl rfl (by simp) (fun _ => rfl) (fun j serves => ?_) (by simp [devuelve]) (by simp [ocupa]) rfl
    exact .inl (by simpa [Sirve,devuelve,maneja] using serves)
  | atender_syscall k | atender_fin k c => exact continua_lee rfl rfl
  | atender_desconocido k => exact continua_ultima (.inl rfl)
  | atender_corte k => exact continua_ultima (.inr rfl)
  | cliente_cpu =>
    have quiet := @continua_inertes s .atender_conexiones_entrantes ⟨s,[.atender_conexiones_entrantes],[]⟩ (by simp) rfl rfl
    refine ⟨quiet.turnado,quiet.abierta,quiet.libre,quiet.sirve,quiet.llena,quiet.ocupa,quiet.lee,fun pila member => ?_⟩
    obtain rfl := List.mem_singleton.mp member
    refine ⟨by simp [Turnado,atareada,maneja,ocupa,cierra],?_,by simp [ocupa,devuelve]⟩
    simp [Sirve,devuelve,maneja]
  | pedir q free =>
    cases q with
    | crear_segmento p k id_segmento tamanio =>
      exact continua_una [] [] rfl rfl rfl (by simp) (fun _ => rfl) (by simp [Sirve,devuelve,maneja]) (by simp [devuelve])
        (fun q holds => ⟨rfl,fun _ => rfl,.inl holds⟩) rfl
    | finalizar_proceso p c =>
      exact continua_una [] [] rfl rfl rfl (by simp) (fun busy => by cases busy) (fun j serves => .inl serves) (fun none => .inl none)
        (by simp [ocupa]) rfl
    | _ => exact continua_inertes (by simp) rfl rfl
  | recibir q v =>
    cases q with
    | crear_segmento p k id_segmento tamanio =>
      cases v with
      | COMPACTAR =>
        exact continua_una [.enviar_respuesta k .BLOQUEADO] [] rfl rfl rfl (by simp) (fun _ => rfl) (by simp [Sirve,devuelve,maneja])
          (by simp [devuelve]) (fun q holds => ⟨rfl,fun _ => rfl,.inl holds⟩) rfl
      | _ => exact continua_inertes (by simp) rfl rfl
    | finalizar_proceso p c =>
      exact continua_una [.liberar_mutex_del_proceso p 0] [] rfl rfl rfl (by simp) (fun busy => by cases busy)
        (fun j serves => .inl serves) (fun none => .inl none) (by simp [ocupa]) rfl
    | crear_proceso p k => cases k <;> cases v <;> exact continua_inertes (by simp) rfl rfl
    | _ => cases v <;> exact continua_inertes (by simp) rfl rfl
  | mover_proceso_a_ready p desaloja one | mover_proceso_de_block_a_ready p desaloja one | desconectar_ocupada k p busy desaloja one =>
    refine continua_inertes (by simp) ?_ rfl
    simp only [List.all_append,all_de_bucle inerte_de_bucle (desalojo_de_bucle one),all_de_bucle inerte_de_bucle (anuncio_de_bucle cfg _),
      Bool.and_self]
  | sacar_de_susp_ready p i desaloja one =>
    refine continua_inertes (by simp) ?_ rfl
    simp only [List.all_append,all_de_bucle inerte_de_bucle (desalojo_de_bucle one),all_de_bucle inerte_de_bucle (anuncio_de_bucle cfg _),
      Bool.and_self,List.all_cons,List.all_nil]
    rfl
  | liberar_mutex_del_proceso pid i =>
    exact continua_inertes (by simp) (all_de_bucle inerte_de_bucle (liberar_pila cfg hora pid i s)) rfl
  | ceder_mutex pid i p r what silent =>
    exact continua_inertes (by simp) (all_de_bucle inerte_de_bucle (liberar_pila cfg hora pid (i + 1) r.1)) rfl
  | ceder_mutex_pausa pid i p r what pausa =>
    refine continua_inertes (by simp) ?_ rfl
    simp only [List.all_append,all_de_bucle inerte_de_bucle (despierta_pila what),List.all_cons,List.all_nil,Bool.true_and]
    rfl
  | liberar_cpu_de_quantum c planificable => exact continua_inertes (by simp) (by cases planificable <;> rfl) rfl
  | bloquear_proceso p por =>
    refine continua_una [] [] rfl rfl rfl (by simp) (fun _ => rfl) (fun j serves => .inr ⟨p,rfl,?_⟩)
      (fun none => .inr ⟨p,?_,.inr rfl⟩) (by simp [ocupa]) rfl
    · simpa [Sirve,devuelve,maneja] using serves
    · simpa [devuelve] using none
  | lock_espera p k j pid nombre m r found taken what =>
    have same : Igual s r.1 := by
      rcases what with rfl | ⟨-,-,inherits⟩
      · exact igual_con_mutex j _
      · exact (igual_con_mutex j _).trans (igual_herencia inherits)
    have quiet : r.2.all inerte = true := by
      rcases what with rfl | ⟨-,-,inherits⟩
      · rfl
      · exact all_de_bucle inerte_de_bucle (desalojo_de_bucle (herencia_pila inherits))
    rw [List.append_cons]
    exact continua_una _ [] (by simp only [List.all_append,quiet,List.all_cons,List.all_nil,Bool.true_and]; rfl) rfl rfl (by simp)
      (fun _ => rfl) (by simp [Sirve,devuelve,maneja]) (by simp [devuelve]) (fun q holds => ⟨same.exec,same.cpu,.inl holds⟩) rfl
  | unlock_cede p k j siguiente espera nombre m t r found queue what d inherits silent wakes =>
    cases wakes <;> exact continua_inertes (by simp) rfl rfl
  | unlock_pausa p k j siguiente espera nombre m t r found queue what inherits pausa =>
    refine continua_inertes (by simp) ?_ rfl
    simp only [List.all_append,all_de_bucle inerte_de_bucle (desalojo_de_bucle (herencia_pila inherits)),List.all_cons,List.all_nil,
      Bool.true_and]
    rfl
  | despertar_siguiente p d wakes => cases wakes <;> exact continua_inertes (by simp) rfl rfl
  | manejar_mem_alloc p k id_segmento tamanio =>
    exact continua_una [] [] rfl rfl rfl (by simp) (fun _ => rfl) (by simp [Sirve,devuelve,maneja]) (by simp [devuelve])
      (fun q holds => ⟨rfl,fun _ => rfl,.inl holds⟩) rfl
  | esperar_planificacion p n token | anotar_espera p =>
    exact continua_una [] [] rfl rfl rfl (by simp) (fun _ => rfl) (by simp [Sirve,devuelve,maneja]) (by simp [devuelve])
      (fun q holds => ⟨rfl,fun _ => rfl,.inl holds⟩) rfl
  | desalojar_todas_las_cpus busy =>
    refine continua_inertes (by simp) ?_ rfl
    simp only [List.all_append,all_de_bucle inerte_de_bucle (interrupciones_de_bucle s),List.all_cons,List.all_nil,Bool.true_and]
    rfl
  | manejar_bsod busy =>
    refine continua_inertes (by simp) ?_ rfl
    simp only [List.all_append,all_de_bucle inerte_de_bucle (interrupciones_de_bucle s),List.all_cons,List.all_nil,Bool.true_and]
    rfl
  | tomar_pedido_io t d p cola queue => exact continua_inertes (by simp) (by cases t <;> rfl) rfl
  | _ => exact continua_inertes (by simp) rfl rfl

end PlugNPray.CpuDuties
