import PlugNPray.CpuSessions

/-!
What a move of a thread does to the conversations with the CPUs.
-/
namespace PlugNPray.SessionMoves
open PlugNPray.Scheduler PlugNPray.Handlers PlugNPray.ReadyQueues PlugNPray.Moves PlugNPray.Stacks PlugNPray.Runs
open PlugNPray.ProcessLists PlugNPray.CpuPlaces PlugNPray.CpuDuties PlugNPray.CpuAccounts PlugNPray.CpuSessions
open PlugNPray.CpuTurns (Cpu Modo lee_de es_codigo bloquea)

/-- The action says nothing to a CPU, and is not about one. -/
def muda : Accion → Bool
  | .bloquear_proceso _ _ | .esperar_planificacion _ | .anotar_espera _ | .bloquear_por_compactacion _ | .enviar_ejecutar _ _
  | .redespachar | .atender_cpu _ => false
  | a => (atendida a).isNone

/-- Nothing about a CPU has to follow from the action. -/
def acaba : Accion → Bool
  | .consultar_bsod _ _ | .manejar_syscall _ | .manejar_mutex_create _ _ | .manejar_mutex_lock _ _ | .manejar_mutex_unlock _ _
  | .manejar_init_proc _ | .manejar_mem_alloc _ _ | .manejar_mem_free _ _ | .esperar_planificacion _ | .anotar_espera _
  | .atender_cpu _ => false
  | .pedir q | .recibir q => (contesta_a q).isNone
  | _ => true

/-- The handlers of the calls that are answered. -/
def tarea (p k : Nat) : Syscall → Option Accion
  | .mutex_create => some (.manejar_mutex_create p k)
  | .mutex_lock => some (.manejar_mutex_lock p k)
  | .mutex_unlock => some (.manejar_mutex_unlock p k)
  | .init_proc => some (.manejar_init_proc k)
  | .mem_alloc => some (.manejar_mem_alloc p k)
  | .mem_free => some (.manejar_mem_free p k)
  | .io _ | .desconocida => none

/-- One action about a CPU leads to another. -/
inductive Relevo (e : Entrada) : Accion → Accion → Prop where
  | consulta (k : Nat) (c : CodigoCpu) (b : Accion)
      (next : b = .manejar_proceso_exit k ∨ b = .manejar_seg_fault k ∨ b = .manejar_fin_quantum k) : Relevo e (.consultar_bsod k c) b
  | llama (k p : Nat) (tipo : Syscall) (b : Accion) (given : e = .llamada p tipo) (next : tarea p k tipo = some b) :
      Relevo e (.manejar_syscall k) b
  | contesta (a : Accion) (p k : Nat) (v : RespuestaCpu)
      (source : a = .manejar_mutex_create p k ∨ a = .manejar_mutex_lock p k ∨ a = .manejar_mutex_unlock p k) (plain : v ≠ .BLOQUEADO) :
      Relevo e a (.enviar_respuesta k v)
  | pide_proceso (p k : Nat) : Relevo e (.manejar_init_proc k) (.pedir (.crear_proceso p (some k)))
  | pide_segmento (p k : Nat) (i z : Int) : Relevo e (.manejar_mem_alloc p k) (.pedir (.crear_segmento p k i z))
  | pide_borrado (p k : Nat) (i : Int) : Relevo e (.manejar_mem_free p k) (.pedir (.eliminar_segmento p k i))
  | espera (q : Pedido) (k : Nat) (mine : contesta_a q = some k) : Relevo e (.pedir q) (.recibir q)
  | responde (q : Pedido) (k : Nat) (v : RespuestaCpu) (mine : contesta_a q = some k) (plain : v ≠ .BLOQUEADO) :
      Relevo e (.recibir q) (.enviar_respuesta k v)
  | anota (p : Nat) : Relevo e (.esperar_planificacion p) (.anotar_espera p)
  | bloquea (p : Nat) : Relevo e (.anotar_espera p) (.bloquear_por_compactacion p)

/-- The running processes and their CPUs are the same. -/
def Mismas (s t : Ks) : Prop :=
  t.listas .lista_exec = s.listas .lista_exec ∧ ∀ p ∈ s.listas .lista_exec, (t.procesos p).cpu = (s.procesos p).cpu

inductive Trato (s : Ks) (e : Entrada) (a : Accion) (r : Efecto) : Prop where
  | nada (ends : acaba a = true) (sigue : r.sigue.all muda = true) (lanza : r.lanza.all (fun pila => pila.all muda) = true)
  | sigue (antes despues : Pila) (b : Accion) (next : Relevo e a b) (shape : r.sigue = antes ++ b :: despues)
      (before : antes.all muda = true) (after : despues.all muda = true) (lanza : r.lanza = []) (same : Mismas s r.ks)
  | io (k p : Nat) (t : TipoIo) (reads : a = .manejar_syscall k) (given : e = .llamada p (.io t))
      (result : r = ⟨s,[.bloquear_proceso p (.io t),.manejar_io t p k],[]⟩)
  | bloquea (k p : Nat) (antes : Pila) (b : Accion)
      (source : a = .manejar_mutex_lock p k ∧ (∃ m, b = .bloquear_proceso p m) ∨
        (∃ i z, a = .recibir (.crear_segmento p k i z)) ∧ b = .esperar_planificacion p)
      (shape : r.sigue = antes ++ [.enviar_respuesta k .BLOQUEADO,b]) (before : antes.all muda = true) (lanza : r.lanza = [])
      (same : Mismas s r.ks)
  | despacha (k p : Nat) (despues : Pila) (decides : a = .planificar) (shape : r.sigue = .enviar_ejecutar k p :: despues)
      (after : despues.all muda = true) (lanza : r.lanza = []) (free : some k ∈ s.lista_cpus_libres) (puts : Mete s r.ks p)
      (cpu : (r.ks.procesos p).cpu = some k)
  | reanuda (k p : Nat) (ends : a = .fin_compactacion) (waits : s.proceso_esperando_memoria = some p)
      (kept : s.cpu_esperando_memoria = some k) (shape : r.sigue = [.redespachar]) (lanza : r.lanza = []) (puts : Mete s r.ks p)
      (cpu : (r.ks.procesos p).cpu = some k)
  | redespacha (k p : Nat) (ends : a = .redespachar) (waits : s.proceso_esperando_memoria = some p)
      (kept : s.cpu_esperando_memoria = some k)
      (result : r = ⟨s,[.enviar_ejecutar k p,.limpiar_espera,.post_puede_planificar],[]⟩)
  | lee (k : Nat) (c : CodigoCpu) (reads : a = .atender_cpu k) (given : e = .codigo c)
      (result : r = ⟨s,[.manejar_syscall k,.atender_cpu k],[]⟩ ∧ c = .proceso_syscall ∨
        r = ⟨s,[.consultar_bsod k c,.atender_cpu k],[]⟩ ∧ c ≠ .proceso_syscall ∨ r = ⟨s,[.atender_cpu k],[]⟩ ∧ c = .desconocido)
  | corta (k : Nat) (reads : a = .atender_cpu k) (given : e = .corte) (result : r = ⟨s,[.desconectar_cpu k],[]⟩)
  | llega (accepts : a = .atender_conexiones_entrantes) (given : e = .cliente_cpu)
      (result : r = ⟨{ s with proximo_cliente := s.proximo_cliente + 1 },[.atender_conexiones_entrantes],
        [[.agregar_cpu (some s.proximo_cliente),.atender_cpu s.proximo_cliente]]⟩)

variable {cfg : Config} {hora : Nat} {s t : Ks} {e : Entrada} {a b : Accion} {r : Efecto} {p q k : Nat}

theorem muda_de_bucle : ∀ b, de_bucle b = true → muda b = true := by
  intro b loop
  cases b <;> first | rfl | cases loop

theorem muda_desalojo {pila : Pila} (one : Desalojo pila) : pila.all muda = true := all_de_bucle muda_de_bucle (desalojo_de_bucle one)

theorem muda_anuncio (v : Int) : (anuncio cfg v).all muda = true := all_de_bucle muda_de_bucle (anuncio_de_bucle cfg v)

theorem mismas_refl : Mismas s s := ⟨rfl,fun _ _ => rfl⟩

theorem mismas_of_igual (same : Igual s t) : Mismas s t := ⟨same.exec,fun _ runs => same.cpu runs⟩

/-- What a thread receives is about the process of its CPU: the process that it names runs there, and it makes a call that there is. -/
def Propia (s : Ks) (a : Accion) (e : Entrada) : Prop :=
  (∀ p, nombrado a e = some p → p ∈ s.listas .lista_exec ∧ (s.procesos p).cpu = maneja a) ∧
    ∀ k p, a = .manejar_syscall k → e ≠ .llamada p .desconocida

/-- The call that the thread has read is about a process that runs on its CPU. -/
theorem syscall_trato (effect : efecto cfg hora e (.manejar_syscall k) s = some r) (own : Propia s (.manejar_syscall k) e) :
    Trato s e (.manejar_syscall k) r := by
  obtain ⟨⟨p,tipo⟩,names,rfl⟩ := Option.map_eq_some_iff.mp effect
  obtain rfl : e = .llamada p tipo := by
    cases e with
    | llamada q t =>
      obtain ⟨rfl,rfl⟩ := Prod.mk.inj (Option.some.inj names)
      rfl
    | _ => cases names
  have running := (own.1 p rfl).1
  have found : buscar_proceso_en_exec s p = some p := by
    cases found : buscar_proceso_en_exec s p with
    | none => exact absurd running (missing_of_find found)
    | some q => rw [find_self found]
  simp only [manejar_syscall,found]
  cases tipo with
  | io t => exact .io k p t rfl rfl rfl
  | desconocida => exact absurd rfl (own.2 k p rfl)
  | _ => exact .sigue [] [] _ (.llama k p _ _ rfl rfl) rfl rfl rfl rfl mismas_refl

theorem efecto_trato (effect : efecto cfg hora e a s = some r) (own : Propia s a e) (outside : s.bsod_activo = false)
    (known : ∀ p, Sitio cfg s p ∨ Fuera s p) (good : en_su_lista cfg a e s = true) (unborn : s.proximo_pid ∉ s.listas .lista_exec)
    (waits : a = .fin_compactacion ∨ a = .redespachar → s.proceso_esperando_memoria ≠ none)
    (kept : s.proceso_esperando_memoria ≠ none → s.cpu_esperando_memoria ≠ none) : Trato s e a r := by
  have move := efecto_mueve effect
  have born : ∀ k prioridad, Mismas s (crear_proceso k prioridad s).ks := fun k prioridad =>
    ⟨rfl,fun p runs => by
      have other : p ≠ s.proximo_pid := by
        rintro rfl
        exact unborn runs
      simp [crear_proceso,other]⟩
  cases move with
  | atender_syscall k | atender_desconocido k | atender_fin k | atender_corte k =>
    cases e with
    | codigo c =>
      refine .lee k c rfl rfl ?_
      cases c with
      | proceso_syscall => exact .inl ⟨(Option.some.inj effect).symm,rfl⟩
      | desconocido => exact .inr (.inr ⟨(Option.some.inj effect).symm,rfl⟩)
      | _ => exact .inr (.inl ⟨(Option.some.inj effect).symm,by simp⟩)
    | corte => exact .corta k rfl rfl (Option.some.inj effect).symm
    | _ => cases effect
  | cliente_cpu =>
    refine .llega rfl ?_ rfl
    cases e with
    | cliente_cpu => rfl
    | cliente_io t => cases effect
    | _ => cases effect
  | consultar_bsod k c bsod =>
    rw [outside] at bsod
    cases bsod
  | consultar_exit k c normal => exact .sigue [] [] _ (.consulta k c _ (.inl rfl)) rfl rfl rfl rfl mismas_refl
  | consultar_seg_fault k c normal => exact .sigue [] [] _ (.consulta k c _ (.inr (.inl rfl))) rfl rfl rfl rfl mismas_refl
  | consultar_fin_quantum k c normal => exact .sigue [] [] _ (.consulta k c _ (.inr (.inr rfl))) rfl rfl rfl rfl mismas_refl
  | syscall_io k p | syscall_mutex_create k p | syscall_mutex_lock k p | syscall_mutex_unlock k p | syscall_init_proc k p
  | syscall_mem_alloc k p | syscall_mem_free k p | syscall_desconocida k p | syscall_de_nadie k p => exact syscall_trato effect own
  | manejar_mutex_create p k nombre new =>
    exact .sigue [.agregar_mutex nombre] [] _ (.contesta _ p k .OK (.inl rfl) (by simp)) rfl rfl rfl rfl mismas_refl
  | mutex_existente p k => exact .sigue [] [] _ (.contesta _ p k .OK (.inl rfl) (by simp)) rfl rfl rfl rfl mismas_refl
  | lock_desconocido p k => exact .sigue [] [] _ (.contesta _ p k .ERROR (.inr (.inl rfl)) (by simp)) rfl rfl rfl rfl mismas_refl
  | lock_libre p k j nombre m found free =>
    exact .sigue [] [] _ (.contesta _ p k .OK (.inr (.inl rfl)) (by simp)) rfl rfl rfl rfl (mismas_of_igual (igual_con_mutex j _))
  | lock_espera p k j pid nombre m r found taken what =>
    have same : Igual s r.1 := by
      rcases what with rfl | ⟨-,-,inherits⟩
      · exact igual_con_mutex j _
      · exact (igual_con_mutex j _).trans (igual_herencia inherits)
    have quiet : r.2.all muda = true := by
      rcases what with rfl | ⟨-,-,inherits⟩
      · rfl
      · exact muda_desalojo (herencia_pila inherits)
    exact .bloquea k p r.2 _ (.inl ⟨rfl,_,rfl⟩) rfl quiet rfl (mismas_of_igual same)
  | unlock_desconocido p k => exact .sigue [] [] _ (.contesta _ p k .ERROR (.inr (.inr rfl)) (by simp)) rfl rfl rfl rfl mismas_refl
  | unlock_sin_espera p k j nombre m t found empty what =>
    exact .sigue [] [] _ (.contesta _ p k .OK (.inr (.inr rfl)) (by simp)) rfl rfl rfl rfl
      (mismas_of_igual ((igual_con_mutex j _).trans (igual_devolucion what)))
  | unlock_cede p k j siguiente espera nombre m t r found queue what d inherits silent wakes =>
    have same := (((igual_con_mutex j _).trans (igual_devolucion what)).trans (igual_herencia inherits)).trans (igual_siguiente wakes)
    refine .sigue d.sigue [] _ (.contesta _ p k .OK (.inr (.inr rfl)) (by simp)) rfl ?_ rfl rfl (mismas_of_igual same)
    cases wakes <;> rfl
  | unlock_pausa p k j siguiente espera nombre m t r found queue what inherits pausa =>
    have same := ((igual_con_mutex j _).trans (igual_devolucion what)).trans (igual_herencia inherits)
    refine .sigue (r.2 ++ [.despertar_siguiente siguiente]) [] _ (.contesta _ p k .OK (.inr (.inr rfl)) (by simp)) ?_ ?_ rfl rfl
      (mismas_of_igual same)
    · simp
    · rw [List.all_append,muda_desalojo (herencia_pila inherits)]
      rfl
  | manejar_init_proc k prioridad =>
    exact .sigue [] [] _ (.pide_proceso s.proximo_pid k) rfl rfl rfl rfl (born (some k) prioridad)
  | manejar_mem_alloc p k i z => exact .sigue [] [] _ (.pide_segmento p k i z) rfl rfl rfl rfl mismas_refl
  | manejar_mem_free p k i => exact .sigue [] [] _ (.pide_borrado p k i) rfl rfl rfl rfl mismas_refl
  | pedir q free =>
    cases asks : contesta_a q with
    | some k => exact .sigue [] [] _ (.espera q k asks) rfl rfl rfl rfl ⟨rfl,fun _ _ => rfl⟩
    | none => exact .nada (by simp [acaba,asks]) (by simp [muda,atendida,asks]) rfl
  | recibir q v =>
    have same : Mismas s { s with mutex_pedidos_memoria := false } := ⟨rfl,fun _ _ => rfl⟩
    cases q with
    | crear_proceso p c =>
      cases c with
      | none => exact .nada rfl rfl rfl
      | some k =>
        cases v with
        | OK =>
          exact .sigue [.agregar_a_new p,.mover_proceso_a_ready p] [] _ (.responde _ k .OK rfl (by simp)) rfl rfl rfl rfl same
        | _ => exact .sigue [] [] _ (.responde _ k .ERROR rfl (by simp)) rfl rfl rfl rfl same
    | crear_segmento p k i z =>
      cases v with
      | COMPACTAR => exact .bloquea k p [] _ (.inr ⟨⟨i,z,rfl⟩,rfl⟩) rfl rfl rfl same
      | OK => exact .sigue [] [] _ (.responde _ k .OK rfl (by simp)) rfl rfl rfl rfl same
      | ERROR => exact .sigue [] [] _ (.responde _ k .ERROR rfl (by simp)) rfl rfl rfl rfl same
    | eliminar_segmento p k i =>
      cases v with
      | OK => exact .sigue [] [] _ (.responde _ k .OK rfl (by simp)) rfl rfl rfl rfl same
      | _ => exact .sigue [] [] _ (.responde _ k .ERROR rfl (by simp)) rfl rfl rfl rfl same
    | _ => cases v <;> exact .nada rfl rfl rfl
  | esperar_planificacion p n token => exact .sigue [] [] _ (.anota p) rfl rfl rfl rfl ⟨rfl,fun _ _ => rfl⟩
  | anotar_espera p => exact .sigue [] [] _ (.bloquea p) rfl rfl rfl rfl ⟨rfl,fun _ _ => rfl⟩
  | planificar c p n cola libres served first free timer | planificar_timer c p n cola libres served first free timer =>
    have apart := ready_ne_exec served
    have absent : p ∉ s.listas .lista_exec := by
      intro runs
      have here := Sitio.of_mem (known p) (show p ∈ s.listas c by rw [first]; exact List.mem_cons_self)
      exact apart (here.lista runs)
    refine .despacha n p _ rfl rfl rfl rfl (by rw [free]; exact List.mem_cons_self) ⟨absent,?_,?_⟩ ?_
    · simp [apart]
    · intro q other
      simp [other]
    · simp
  | fin_compactacion p waiting =>
    have blocked : p ∈ s.listas .lista_block := by
      have takes : origen .fin_compactacion s = some (.lista_block,p) := by simp [origen,waiting]
      simp only [en_su_lista,takes,Option.all_some,Bool.and_eq_true,decide_eq_true_eq] at good
      exact good.1
    have absent : p ∉ s.listas .lista_exec := by
      intro runs
      have place := (Sitio.of_mem (known p) blocked).lista runs
      cases place
    obtain ⟨k,reserved⟩ := Option.ne_none_iff_exists'.mp (kept (by simp [waiting]))
    exact .reanuda k p rfl waiting reserved rfl rfl ⟨absent,by simp,fun q other => by simp [other]⟩ (by simp [reserved])
  | fin_compactacion_nadie none => exact absurd none (waits (.inl rfl))
  | redespachar_nadie none => exact absurd none (waits (.inr rfl))
  | redespachar p k waiting reserved => exact .redespacha k p rfl waiting reserved rfl
  | mover_proceso_a_ready p desaloja one | mover_proceso_de_block_a_ready p desaloja one | desconectar_ocupada k p busy desaloja one =>
    refine .nada rfl ?_ rfl
    rw [List.all_append,muda_desalojo one,muda_anuncio]
    rfl
  | sacar_de_susp_ready p i desaloja one =>
    refine .nada rfl ?_ rfl
    rw [List.all_append,List.all_append,muda_desalojo one,muda_anuncio]
    rfl
  | manejar_fin_quantum k p running normal desaloja one =>
    refine .nada rfl ?_ rfl
    rw [List.all_append,muda_desalojo one]
    rfl
  | liberar_mutex_del_proceso pid i => exact .nada rfl (all_de_bucle muda_de_bucle (liberar_pila cfg hora pid i s)) rfl
  | ceder_mutex pid i p r what silent => exact .nada rfl (all_de_bucle muda_de_bucle (liberar_pila cfg hora pid (i + 1) r.1)) rfl
  | ceder_mutex_pausa pid i p r what pausa =>
    refine .nada rfl ?_ rfl
    rw [List.all_append,all_de_bucle muda_de_bucle (despierta_pila what)]
    rfl
  | liberar_cpu_de_quantum c planificable => exact .nada rfl (by cases planificable <;> rfl) rfl
  | despertar_siguiente p d wakes => cases wakes <;> exact .nada rfl rfl rfl
  | desalojar_todas_las_cpus busy | manejar_bsod busy =>
    refine .nada rfl ?_ rfl
    rw [List.all_append,all_de_bucle muda_de_bucle (interrupciones_de_bucle s)]
    rfl
  | tomar_pedido_io t d p cola queue => exact .nada rfl (by cases t <;> rfl) rfl
  | _ => exact .nada rfl rfl rfl

/-! ## What a move sends -/

/-- The messages of the move to the CPU. -/
def mensajes (k : Nat) : Accion → List CpuTurns.Mensaje
  | .enviar_ejecutar j p => if j = k then [.ejecutar p] else []
  | .enviar_interrumpir c p => if c = some k then [.interrumpir p] else []
  | .enviar_respuesta j v => if j = k then [.respuesta v] else []
  | _ => []

theorem entrega_apply (a : Accion) (cpus : Nat → Cpu) (k : Nat) :
    CpuTurns.entrega a cpus k = { cpus k with socket_ks := (cpus k).socket_ks ++ mensajes k a } := by
  have same : ∀ j m, Function.update cpus j ((cpus j).recibe m) k =
      { cpus k with socket_ks := (cpus k).socket_ks ++ if j = k then [m] else [] } := by
    intro j m
    by_cases mine : j = k
    · subst mine
      simp [Cpu.recibe]
    · simp [Ne.symm mine,mine]
  cases a with
  | enviar_ejecutar j p => simpa [CpuTurns.entrega,mensajes] using same j (.ejecutar p)
  | enviar_respuesta j v => simpa [CpuTurns.entrega,mensajes] using same j (.respuesta v)
  | enviar_interrumpir c p =>
    cases c with
    | none => simp [CpuTurns.entrega,mensajes]
    | some j => simpa [CpuTurns.entrega,mensajes] using same j (.interrumpir p)
  | _ => simp [CpuTurns.entrega,mensajes]

/-- The dispatches that the action is to send to the CPU. -/
def despacho (s : Ks) (k : Nat) : Accion → Nat
  | .enviar_ejecutar j _ => if j = k then 1 else 0
  | .redespachar => if s.proceso_esperando_memoria ≠ none ∧ s.cpu_esperando_memoria = some k then 1 else 0
  | _ => 0

/-- The dispatches that the move sends to the CPU. -/
def despachada (k : Nat) : Accion → Nat
  | .enviar_ejecutar j _ => if j = k then 1 else 0
  | _ => 0

/-- The answers of the move that let the CPU go on. -/
def contestada (k : Nat) : Accion → Nat
  | .enviar_respuesta j v => if j = k ∧ v ≠ .BLOQUEADO then 1 else 0
  | _ => 0

theorem mensajes_vale (k : Nat) (a : Accion) : (mensajes k a).countP vale = despachada k a + contestada k a := by
  cases a with
  | enviar_ejecutar j p => by_cases mine : j = k <;> simp [mensajes,despachada,contestada,mine]
  | enviar_interrumpir c p => by_cases mine : c = some k <;> simp [mensajes,despachada,contestada,mine]
  | enviar_respuesta j v => by_cases mine : j = k <;> simp [mensajes,despachada,contestada,mine,List.countP_cons]
  | _ => simp [mensajes,despachada,contestada]

theorem muda_pesos (silent : muda b = true) :
    pendiente b = 0 ∧ debe b = 0 ∧ peligra b = 0 ∧ por_leer b = [] ∧ despacho s k b = 0 ∧ atiende k b = 0 := by
  cases b with
  | pedir q | recibir q =>
    cases q <;> first | exact ⟨rfl,rfl,rfl,rfl,rfl,rfl⟩ | cases silent |
      (rename_i c; cases c <;> first | exact ⟨rfl,rfl,rfl,rfl,rfl,rfl⟩ | cases silent)
  | _ => first | exact ⟨rfl,rfl,rfl,rfl,rfl,rfl⟩ | cases silent

theorem muda_weight {f : Accion → Nat} (none : ∀ b, muda b = true → f b = 0) {pila : Pila} (silent : pila.all muda = true) :
    weight f pila = 0 :=
  weight_zero (fun b member => none b (List.all_eq_true.mp silent b member))

theorem muda_total {f : Accion → Nat} (none : ∀ b, muda b = true → f b = 0) {hilos : List Pila}
    (silent : hilos.all (fun pila => pila.all muda) = true) : total f hilos = 0 :=
  total_zero (fun pila member b listed => none b (List.all_eq_true.mp (List.all_eq_true.mp silent pila member) b listed))

theorem muda_por_leer {pila : Pila} (silent : pila.all muda = true) : pila.flatMap por_leer = [] := by
  refine List.flatMap_eq_nil_iff.mpr (fun b member => ?_)
  exact (muda_pesos (s := inicial.ks) (k := 0) (List.all_eq_true.mp silent b member)).2.2.2.1

/-! ## What a move reads -/

/-- What a CPU has sent, before and after a move. -/
inductive Lectura (k : Nat) (a : Accion) (e : Entrada) : List Entrada → List Entrada → Prop where
  | nada {l : List Entrada} (other : lee_de a ≠ some k) : Lectura k a e l l
  | lee {x : Entrada} {l : List Entrada} (reads : lee_de a = some k) (value : x = e ∨ a = .atender_cpu k ∧ es_codigo x = false) :
      Lectura k a e (x :: l) l

theorem lectura_de_toma {a_ks a_ks' : Nat → List Entrada} (taken : CpuTurns.toma a e a_ks = some a_ks') (k : Nat) :
    Lectura k a e (a_ks k) (a_ks' k) := by
  unfold CpuTurns.toma at taken
  split at taken
  case h_1 quiet =>
    obtain rfl := Option.some.inj taken
    exact .nada (by simp [quiet])
  case h_2 j reads =>
    split at taken
    case h_1 => cases taken
    case h_2 x resto here =>
      split_ifs at taken with value
      obtain rfl := Option.some.inj taken
      by_cases mine : k = j
      · subst mine
        rw [Function.update_self,here]
        refine .lee reads (value.imp_right ?_)
        rintro ⟨same,code,-⟩
        exact ⟨same,by simpa using code⟩
      · rw [Function.update_of_ne mine]
        refine .nada (fun same => mine ?_)
        exact Option.some.inj (same.symm.trans reads)

section reading
variable {later : Pila} {ida : Prop} {l l' : List Entrada}

/-- The thread reads the next part of the message that it handles. -/
theorem lectura_parte {x : Parte} {ps : List Parte} (reading : Lectura k a e l l') (reads : lee_de a = some k) (inside : a ≠ .atender_cpu k)
    (parts : por_leer a = x :: ps) (hears : Oye (Suyo s k) ida ((a :: later).flatMap por_leer) l) :
    l = e :: l' ∧ Oye (Suyo s k) ida (ps ++ later.flatMap por_leer) l' ∧ match x with
      | .pid => ∃ p, e = .pid p ∧ Suyo s k p
      | .llamada => ∃ p tipo, e = .llamada p tipo ∧ tipo ≠ .desconocida ∧ Suyo s k p
      | .argumentos => argumento e = true := by
  rw [List.flatMap_cons,parts,List.cons_append] at hears
  cases reading with
  | nada other => exact absurd reads other
  | lee _ value =>
    obtain rfl := value.resolve_right (fun between => inside between.1)
    cases hears with
    | pid mine rest => exact ⟨rfl,rest,_,rfl,mine⟩
    | llamada known mine rest => exact ⟨rfl,rest,_,_,rfl,known,mine⟩
    | argumentos plain rest => exact ⟨rfl,rest,plain⟩

/-- What a thread reads of its CPU is about a process that runs there. -/
theorem propia_de_oye (reading : Lectura k a e l l') (reads : lee_de a = some k)
    (hears : Oye (Suyo s k) ida ((a :: later).flatMap por_leer) l) : Propia s a e := by
  refine ⟨fun p names => ?_,?_⟩
  · cases a with
    | manejar_proceso_exit j | manejar_seg_fault j | manejar_fin_quantum j =>
      obtain rfl := Option.some.inj reads
      obtain ⟨-,-,q,rfl,mine⟩ := lectura_parte reading rfl (by simp) rfl hears
      obtain rfl := Option.some.inj names
      exact mine
    | manejar_syscall j =>
      obtain rfl := Option.some.inj reads
      obtain ⟨-,-,q,tipo,rfl,-,mine⟩ := lectura_parte reading rfl (by simp) rfl hears
      obtain rfl := Option.some.inj names
      exact mine
    | _ => cases names
  · rintro j p rfl same
    obtain rfl := Option.some.inj reads
    obtain ⟨-,-,q,tipo,rfl,known,-⟩ := lectura_parte reading rfl (by simp) rfl hears
    cases same
    exact known rfl

/-- A thread whose action reads from no CPU reads of nobody. -/
theorem propia_callada (quiet : lee_de a = none) : Propia s a e := by
  refine ⟨fun p names => ?_,?_⟩
  · cases a <;> first | (cases quiet; done) | cases names
  · rintro j p rfl
    cases quiet

/-- What the action takes a process off its CPU for. -/
def suelta (a : Accion) : Nat := if acaba a && atareada a then 1 else 0

/-- What a move makes of the conversation with the CPU of the thread. -/
structure Anda (s : Ks) (k : Nat) (ida : Prop) (a : Accion) (sigue later : Pila) (l l' : List Entrada) : Prop where
  oye : Oye (Suyo s k) ida ((sigue ++ later).flatMap por_leer) l'
  cuenta : weight pendiente sigue + l'.countP es_op + contestada k a + suelta a ≤ pendiente a + l.countP es_op
  deuda : weight debe sigue + (mensajes k a).countP es_respuesta + l'.countP pregunta = debe a + l.countP pregunta
  temor : weight peligra sigue + (mensajes k a).count (.respuesta .BLOQUEADO) + l'.countP arriesga ≤ peligra a + l.countP arriesga

/-- What the thread does next is silent, but for one action. -/
theorem pesos_de_una {antes despues : Pila} (before : antes.all muda = true) (after : despues.all muda = true) (b : Accion) :
    (∀ f : Accion → Nat, (∀ c, muda c = true → f c = 0) → weight f (antes ++ b :: despues) = f b) ∧
      (antes ++ b :: despues).flatMap por_leer = por_leer b := by
  refine ⟨fun f none => ?_,?_⟩
  · rw [weight_append,weight_cons,muda_weight none before,muda_weight none after]
    omega
  · rw [List.flatMap_append,List.flatMap_cons,muda_por_leer before,muda_por_leer after,List.nil_append,List.append_nil]

theorem muda_pendiente : ∀ c, muda c = true → pendiente c = 0 := fun _ silent => (muda_pesos (s := inicial.ks) (k := 0) silent).1
theorem muda_debe : ∀ c, muda c = true → debe c = 0 := fun _ silent => (muda_pesos (s := inicial.ks) (k := 0) silent).2.1
theorem muda_peligra : ∀ c, muda c = true → peligra c = 0 := fun _ silent => (muda_pesos (s := inicial.ks) (k := 0) silent).2.2.1

/-- The thread goes on with one action, after what it has read. -/
theorem anda_una {sigue antes despues : Pila} {b : Accion} (shape : sigue = antes ++ b :: despues) (before : antes.all muda = true)
    (after : despues.all muda = true) (hears : Oye (Suyo s k) ida (por_leer b ++ later.flatMap por_leer) l') (silent : mensajes k a = [])
    (cuenta : pendiente b + l'.countP es_op + suelta a ≤ pendiente a + l.countP es_op)
    (deuda : debe b + l'.countP pregunta = debe a + l.countP pregunta)
    (temor : peligra b + l'.countP arriesga ≤ peligra a + l.countP arriesga) : Anda s k ida a sigue later l l' := by
  obtain ⟨sums,parts⟩ := pesos_de_una before after b
  subst shape
  have quiet := mensajes_vale k a
  rw [silent] at quiet
  simp only [List.countP_nil] at quiet
  refine ⟨?_,?_,?_,?_⟩
  · rw [List.flatMap_append,parts]
    exact hears
  · rw [sums _ muda_pendiente]
    omega
  · rw [sums _ muda_debe,silent]
    simpa using deuda
  · rw [sums _ muda_peligra,silent]
    simpa using temor

/-- The thread has no more to do about its CPU. -/
theorem anda_muda {sigue : Pila} (quiet : sigue.all muda = true) (hears : Oye (Suyo s k) ida (later.flatMap por_leer) l')
    (cuenta : l'.countP es_op + contestada k a + suelta a ≤ pendiente a + l.countP es_op)
    (deuda : (mensajes k a).countP es_respuesta + l'.countP pregunta = debe a + l.countP pregunta)
    (temor : (mensajes k a).count (.respuesta .BLOQUEADO) + l'.countP arriesga ≤ peligra a + l.countP arriesga) :
    Anda s k ida a sigue later l l' := by
  refine ⟨?_,?_,?_,?_⟩
  · rw [List.flatMap_append,muda_por_leer quiet]
    exact hears
  · rw [muda_weight muda_pendiente quiet]
    omega
  · rw [muda_weight muda_debe quiet]
    omega
  · rw [muda_weight muda_peligra quiet]
    omega
end reading

section conversation
variable {later : Pila} {ida : Prop} {l l' : List Entrada}

/-- A move after which the thread has no more to do about its CPU. -/
theorem anda_nada (ends : acaba a = true) (quiet : r.sigue.all muda = true) (hears : Oye (Suyo s k) ida ((a :: later).flatMap por_leer) l)
    (reading : Lectura k a e l l') (mine : ∀ j, atendida a = some j → j = k) : Anda s k ida a r.sigue later l l' := by
  have same : lee_de a = none → l' = l := by
    intro calm
    cases reading with
    | nada => rfl
    | lee reads => simp [calm] at reads
  cases a with
  | manejar_proceso_exit j | manejar_seg_fault j | manejar_fin_quantum j =>
    obtain rfl := mine j rfl
    obtain ⟨rfl,rest,p,rfl,-⟩ := lectura_parte reading rfl (by simp) rfl hears
    refine anda_muda quiet rest ?_ ?_ ?_
    · simp [contestada,suelta,acaba,atareada,maneja,pendiente,atendida,es_op,Nat.add_comm]
    · simp [mensajes,debe,pregunta]
    · simp [mensajes,peligra,arriesga]
  | manejar_io t p j =>
    obtain rfl := mine j rfl
    obtain ⟨rfl,rest,plain⟩ := lectura_parte reading rfl (by simp) rfl hears
    obtain ⟨code,asks,risks⟩ := argumento_plano plain
    refine anda_muda quiet rest ?_ ?_ ?_
    · simp [contestada,suelta,atareada,maneja,ocupa,pendiente,code]
    · simp [mensajes,debe,asks]
    · simp [mensajes,peligra,risks]
  | enviar_respuesta j v =>
    obtain rfl := mine j rfl
    obtain rfl := same rfl
    refine anda_muda quiet hears ?_ ?_ ?_
    · cases v <;> simp [contestada,suelta,acaba,atareada,maneja,ocupa,pendiente,atendida,Nat.add_comm]
    · cases v <;> simp [mensajes,debe,atendida]
    · cases v <;> simp [mensajes,peligra]
  | pedir q | recibir q =>
    obtain rfl := same rfl
    have nobody : contesta_a q = none := by simpa [acaba] using ends
    refine anda_muda quiet hears ?_ ?_ ?_
    · cases q with
      | crear_segmento => cases nobody
      | _ => simp [contestada,suelta,atareada,maneja,ocupa]
    · simp [mensajes,debe,atendida,nobody]
    · simp [mensajes]
  | bloquear_proceso p por | bloquear_por_compactacion p =>
    obtain rfl := same rfl
    exact anda_muda quiet hears (by simp [contestada,suelta,acaba,atareada,maneja,ocupa,pendiente,Nat.add_comm]) (by simp [mensajes,debe,atendida])
      (by simp [mensajes])
  | enviar_ejecutar j p =>
    obtain rfl := same rfl
    refine anda_muda quiet hears (by simp [contestada,suelta,acaba,atareada,maneja,ocupa]) ?_ ?_
    · by_cases here : j = k <;> simp [mensajes,debe,atendida,here]
    · by_cases here : j = k <;> simp [mensajes,here]
  | enviar_interrumpir c p =>
    obtain rfl := same rfl
    refine anda_muda quiet hears (by simp [contestada,suelta,acaba,atareada,maneja,ocupa]) ?_ ?_
    · by_cases here : c = some k <;> simp [mensajes,debe,atendida,here]
    · by_cases here : c = some k <;> simp [mensajes,here]
  | consultar_bsod | manejar_syscall | manejar_mutex_create | manejar_mutex_lock | manejar_mutex_unlock | manejar_init_proc
  | manejar_mem_alloc | manejar_mem_free | esperar_planificacion | anotar_espera | atender_cpu => cases ends
  | _ =>
    obtain rfl := same rfl
    exact anda_muda quiet hears (by simp [contestada,suelta,atareada,maneja,ocupa]) (by simp [mensajes,debe,atendida]) (by simp [mensajes])

/-- A move after which the thread goes on about its CPU. -/
theorem anda_relevo {antes despues sigue : Pila} (next : Relevo e a b) (shape : sigue = antes ++ b :: despues) (before : antes.all muda = true)
    (after : despues.all muda = true) (hears : Oye (Suyo s k) ida ((a :: later).flatMap por_leer) l)
    (reading : Lectura k a e l l') (mine : ∀ j, atendida a = some j → j = k) : Anda s k ida a sigue later l l' := by
  have same : lee_de a = none → l' = l := by
    intro calm
    cases reading with
    | nada => rfl
    | lee reads => simp [calm] at reads
  have argument : lee_de a = some k → a ≠ .atender_cpu k → por_leer a = [.argumentos] → por_leer b = [] → mensajes k a = [] →
      pendiente b + suelta a ≤ pendiente a → debe b = debe a → peligra b ≤ peligra a → Anda s k ida a sigue later l l' := by
    intro reads inside parts done silent less owes risk
    obtain ⟨rfl,rest,plain⟩ := lectura_parte reading reads inside parts hears
    obtain ⟨code,asks,risks⟩ := argumento_plano plain
    refine anda_una shape before after (by rw [done]; exact rest) silent ?_ ?_ ?_
    · rw [List.countP_cons_of_neg (by simp [code])]
      omega
    · rw [List.countP_cons_of_neg (by simp [asks])]
      omega
    · rw [List.countP_cons_of_neg (by simp [risks])]
      omega
  cases next with
  | consulta j c b next =>
    obtain rfl := mine j rfl
    obtain rfl := same rfl
    rcases next with rfl | rfl | rfl <;> exact anda_una shape before after hears rfl le_rfl rfl le_rfl
  | llama j p tipo b given next =>
    obtain rfl := mine j rfl
    obtain ⟨rfl,rest,p',tipo',same,known,-⟩ := lectura_parte reading rfl (by simp) rfl hears
    obtain rfl := given
    obtain ⟨rfl,rfl⟩ := Entrada.llamada.inj same
    cases tipo with
    | io t => cases next
    | desconocida => cases next
    | _ =>
      obtain rfl := Option.some.inj next
      refine anda_una shape before after rest rfl ?_ ?_ ?_
      · simp [pendiente,atendida,suelta,acaba,es_op]
      · simp [debe,atendida,pregunta,List.countP_cons,Nat.add_comm]
      · simp [peligra,arriesga,bloquea,List.countP_cons,Nat.add_comm]
  | contesta a p j v source plain =>
    rcases source with rfl | rfl | rfl <;>
    · obtain rfl := mine j rfl
      exact argument rfl (by simp) rfl rfl rfl (by cases v <;> simp [pendiente,atendida,suelta,acaba]) (by simp [debe,atendida])
        (by cases v <;> first | exact absurd rfl plain | simp [peligra])
  | pide_proceso p j | pide_borrado p j i =>
    obtain rfl := mine j rfl
    exact argument rfl (by simp) rfl rfl rfl le_rfl rfl le_rfl
  | pide_segmento p j i z =>
    obtain rfl := mine j rfl
    exact argument rfl (by simp) rfl rfl rfl le_rfl rfl le_rfl
  | espera q j asks =>
    obtain rfl := same rfl
    refine anda_una shape before after hears rfl ?_ ?_ ?_
    · simp [pendiente,atendida,suelta,acaba,asks]
    · simp [debe,atendida,asks]
    · cases q <;> simp [peligra]
  | responde q j v asks plain =>
    obtain rfl := same rfl
    refine anda_una shape before after hears rfl ?_ ?_ ?_
    · cases v <;> simp [pendiente,atendida,suelta,acaba,asks]
    · simp [debe,atendida,asks]
    · cases v <;> first | exact absurd rfl plain | simp [peligra]
  | anota p | bloquea p =>
    obtain rfl := same rfl
    exact anda_una shape before after hears rfl le_rfl rfl le_rfl
end conversation

section conversation
variable {later : Pila} {ida : Prop} {l l' : List Entrada}

/-- The thread of the CPU moves: the conversation goes on, or the connection is cut and the CPU has gone. -/
theorem anda_de_trato (trato : Trato s e a r) (hears : Oye (Suyo t k) ida ((a :: later).flatMap por_leer) l) (reading : Lectura k a e l l')
    (mine : ∀ j, atendida a = some j ∨ a = .atender_cpu j → j = k) (last : cierra a = true → later = []) :
    Anda t k ida a r.sigue later l l' ∨ ida ∧ r.sigue ++ later = [.desconectar_cpu k] := by
  have own : ∀ j, atendida a = some j → j = k := fun j serves => mine j (.inl serves)
  cases trato with
  | nada ends quiet lanza => exact .inl (anda_nada ends quiet hears reading own)
  | sigue antes despues b next shape before after lanza same => exact .inl (anda_relevo next shape before after hears reading own)
  | io j p t reads given result =>
    subst reads given result
    obtain rfl := own j rfl
    obtain ⟨rfl,rest,p',tipo,same,known,-⟩ := lectura_parte reading rfl (by simp) rfl hears
    left
    refine ⟨rest,?_,?_,?_⟩
    · simp [pendiente,atendida,contestada,suelta,acaba,es_op]
    · simp [debe,atendida,mensajes,pregunta]
    · simp [peligra,mensajes,arriesga,bloquea]
  | bloquea j p antes b source shape before lanza same =>
    left
    rw [shape]
    have sums : ∀ f : Accion → Nat, (∀ c, muda c = true → f c = 0) →
        weight f (antes ++ [.enviar_respuesta j .BLOQUEADO,b]) = f (.enviar_respuesta j .BLOQUEADO) + f b := by
      intro f none
      rw [weight_append,muda_weight none before,weight_cons,weight_cons,weight_nil]
      omega
    have parts : (antes ++ [.enviar_respuesta j .BLOQUEADO,b]).flatMap por_leer = por_leer b := by
      rw [List.flatMap_append,muda_por_leer before]
      simp [por_leer]
    rcases source with ⟨rfl,m,rfl⟩ | ⟨⟨i,z,rfl⟩,rfl⟩
    · obtain rfl := own j rfl
      obtain ⟨rfl,rest,plain⟩ := lectura_parte reading rfl (by simp) rfl hears
      obtain ⟨code,asks,risks⟩ := argumento_plano plain
      refine ⟨by rw [List.flatMap_append,parts]; exact rest,?_,?_,?_⟩
      · rw [sums _ muda_pendiente]
        simp [pendiente,atendida,contestada,suelta,acaba,code,Nat.add_comm]
      · rw [sums _ muda_debe]
        simp [debe,atendida,mensajes,asks]
      · rw [sums _ muda_peligra]
        simp [peligra,mensajes,risks]
    · obtain rfl := own j rfl
      cases reading with
      | lee reads => cases reads
      | nada =>
        refine ⟨by rw [List.flatMap_append,parts]; exact hears,?_,?_,?_⟩
        · rw [sums _ muda_pendiente]
          simp [pendiente,atendida,contestada,suelta,acaba,contesta_a,Nat.add_comm]
        · rw [sums _ muda_debe]
          simp [debe,atendida,mensajes,contesta_a]
        · rw [sums _ muda_peligra]
          simp [peligra,mensajes]
  | despacha j p despues decides shape after lanza free puts cpu =>
    subst decides
    cases reading with
    | lee reads => cases reads
    | nada => exact .inl (anda_una (show _ = [] ++ _ :: despues from shape) rfl after hears rfl le_rfl rfl le_rfl)
  | reanuda j p ends waits kept shape lanza puts cpu =>
    subst ends
    cases reading with
    | lee reads => cases reads
    | nada => exact .inl (anda_una (show _ = [] ++ _ :: [] from shape) rfl rfl hears rfl le_rfl rfl le_rfl)
  | redespacha j p ends waits kept result =>
    subst ends result
    cases reading with
    | lee reads => cases reads
    | nada =>
      exact .inl (anda_una (show _ = [] ++ .enviar_ejecutar j p :: [.limpiar_espera,.post_puede_planificar] from rfl) rfl rfl hears rfl
        le_rfl rfl le_rfl)
  | llega accepts given result =>
    subst accepts given result
    cases reading with
    | lee reads => cases reads
    | nada =>
      refine .inl (anda_muda rfl hears ?_ ?_ ?_)
      · simp [contestada,suelta,atareada,maneja,ocupa]
      · simp [mensajes,debe,atendida]
      · simp [mensajes]
  | corta j reads given result =>
    subst reads given result
    obtain rfl := mine j (.inr rfl)
    obtain rfl := last rfl
    cases reading with
    | nada other => exact absurd rfl other
    | lee _ value =>
      cases hears with
      | mensajes whole =>
        cases whole with
        | corte gone => exact .inr ⟨gone,rfl⟩
        | fin | llamada => rcases value with same | ⟨-,code⟩ <;> first | cases same | cases code
  | lee j c reads given result =>
    subst reads given
    obtain rfl := mine j (.inr rfl)
    obtain rfl := last rfl
    left
    cases reading with
    | nada other => exact absurd rfl other
    | lee _ value =>
      cases hears with
      | mensajes whole =>
        cases whole with
        | corte gone => rcases value with same | ⟨-,code⟩ <;> first | cases same | cases code
        | fin ends mine rest =>
          obtain same : _ = Entrada.codigo c := value.resolve_right (fun between => by cases between.2)
          cases same
          rcases result with ⟨rfl,call⟩ | ⟨rfl,other⟩ | ⟨rfl,unknown⟩
          · exact absurd call ends.1
          · refine ⟨.pid mine (.mensajes rest),?_,?_,?_⟩
            · simp [pendiente,atendida,contestada,suelta,acaba,es_op,List.countP_cons,Nat.add_comm]
            · simp [debe,atendida,mensajes,pregunta]
            · simp [peligra,mensajes,arriesga]
          · exact absurd unknown ends.2
        | llamada known mine plain rest =>
          obtain same : _ = Entrada.codigo c := value.resolve_right (fun between => by cases between.2)
          cases same
          rcases result with ⟨rfl,call⟩ | ⟨rfl,other⟩ | ⟨rfl,unknown⟩
          · refine ⟨.llamada known mine (.argumentos plain (.mensajes rest)),?_,?_,?_⟩
            · simp [pendiente,atendida,contestada,suelta,acaba,es_op,List.countP_cons,Nat.add_comm]
            · simp [debe,atendida,mensajes,pregunta]
            · simp [peligra,mensajes,arriesga]
          · exact absurd rfl other
          · cases unknown
end conversation

end PlugNPray.SessionMoves
