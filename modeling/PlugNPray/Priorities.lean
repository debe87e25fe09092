import PlugNPray.References

/-!
With multilevel queues every process that has been admitted keeps a priority that is
the number of a queue: inheritance and its end only ever give it the priority of a
process that waits for one of its mutexes, or its own first one.
-/
namespace PlugNPray.Priorities
open PlugNPray.Scheduler PlugNPray.Handlers PlugNPray.ReadyQueues PlugNPray.Moves PlugNPray.Stacks PlugNPray.References PlugNPray.Runs

/-- The priorities that processes were created with, the number of processes created so far, and that no process has
    got a priority of a queue without one to start from, or lost it. -/
structure Fijo (cfg : Config) (desde : Nat → Int) (n : Nat) (s : Ks) : Prop where
  original : ∀ p, (s.procesos p).prioridad_original = desde p
  igual : ∀ p, en_rango cfg (s.procesos p).prioridad = en_rango cfg (desde p)
  pids : s.proximo_pid = n

/-- Created with a priority that is the number of a queue. -/
def Apto (cfg : Config) (desde : Nat → Int) (n p : Nat) : Prop := p < n ∧ en_rango cfg (desde p) = true

variable {cfg : Config} {desde : Nat → Int} {n : Nat} {s : Ks} {p : Nat}

namespace Fijo

theorem mismas (fijo : Fijo cfg desde n s) {t : Ks} (pids : t.proximo_pid = s.proximo_pid)
    (same : ∀ q, (t.procesos q).prioridad = (s.procesos q).prioridad ∧
      (t.procesos q).prioridad_original = (s.procesos q).prioridad_original) : Fijo cfg desde n t :=
  ⟨fun q => (same q).2.trans (fijo.original q),fun q => (same q).1 ▸ fijo.igual q,pids.trans fijo.pids⟩

theorem con_prioridad (fijo : Fijo cfg desde n s) {v : Int} (range : en_rango cfg v = en_rango cfg (desde p)) :
    Fijo cfg desde n (s.con_prioridad p v) := by
  refine ⟨fun q => ?_,fun q => ?_,fijo.pids⟩
  · by_cases same : q = p
    · subst same
      simpa using fijo.original q
    · simpa [Function.update_of_ne same] using fijo.original q
  · by_cases same : q = p
    · subst same
      simpa using range
    · simpa [Function.update_of_ne same] using fijo.igual q

/-- The priority of a waiter is the number of a queue. -/
theorem candidata (fijo : Fijo cfg desde n s) {espera : List Nat} {v : Int} (what : Candidata s espera v)
    (waiters : ∀ q ∈ espera, Apto cfg desde n q) : en_rango cfg v = true := by
  obtain ⟨q,member,rfl⟩ := what
  rw [fijo.igual q]
  exact (waiters q member).2

theorem herencia (fijo : Fijo cfg desde n s) {espera : List Nat} {r : Ks × Pila} (what : Herencia cfg p espera s r)
    (own : Apto cfg desde n p) (waiters : ∀ q ∈ espera, Apto cfg desde n q) : Fijo cfg desde n r.1 := by
  cases what with
  | nada => exact fijo
  | cambia v cmn low waiter other => exact fijo.con_prioridad ((fijo.candidata waiter waiters).trans own.2.symm)
  | muda v cmn low waiter ready desaloja one =>
    have done : Fijo cfg desde n ((if en_rango cfg (s.procesos p).prioridad then
        s.quitar (.colas_ready (s.procesos p).prioridad.toNat) p else s).con_prioridad p v) := by
      refine con_prioridad ?_ ((fijo.candidata waiter waiters).trans own.2.symm)
      split_ifs
      · exact fijo.mismas rfl (fun q => ⟨rfl,rfl⟩)
      · exact fijo
    exact done.mismas rfl (fun q => ⟨rfl,rfl⟩)

theorem devolucion (fijo : Fijo cfg desde n s) {t : Ks} (what : Devolucion p s t) (own : Apto cfg desde n p)
    (juego : EnJuego (Apto cfg desde n) s) : Fijo cfg desde n t := by
  cases what with
  | nada => exact fijo
  | cambia v source =>
    refine fijo.con_prioridad ?_
    rcases source with rfl | ⟨m,listed,_,waiter⟩
    · rw [fijo.original p]
    · exact (fijo.candidata waiter (juego.espera m listed)).trans own.2.symm

theorem despierta (fijo : Fijo cfg desde n s) {hora : Nat} {r : Ks × Pila} (what : Despierta cfg hora p s r) :
    Fijo cfg desde n r.1 := by
  cases what with
  | susp_block suspended => exact fijo.mismas rfl (fun q => by by_cases same : q = p <;> simp [same,mover_a_susp_ready])
  | _ => exact fijo.mismas rfl (fun q => by by_cases same : q = p <;> simp [same])

theorem bucle (hora pid : Nat) :
    Bucle cfg hora pid (fun s => Fijo cfg desde n s ∧ EnJuego (Apto cfg desde n) s) (fun s _ => Fijo cfg desde n s) where
  acaba s held := held.1
  suelta s i m held here owned empty :=
    ⟨held.1.mismas rfl (fun q => ⟨rfl,rfl⟩),(@bucle_juego _ cfg hora pid).suelta s i m held.2 here owned empty⟩
  pausa s i m siguiente espera held here owned queue quiet := by
    have waits := held.2.espera m (List.mem_of_getElem? here)
    rw [queue] at waits
    have taken : Fijo cfg desde n (s.con_mutex i (fun m => { m with pid_dueno := some siguiente, cola_espera := espera })) :=
      held.1.mismas rfl (fun q => ⟨rfl,rfl⟩)
    exact taken.herencia (heredar_mutex_cases cfg i siguiente espera s) (waits siguiente List.mem_cons_self)
      (fun q member => waits q (List.mem_cons_of_mem siguiente member))
  sigue s i m siguiente espera r held here owned queue quiet what := by
    have waits := held.2.espera m (List.mem_of_getElem? here)
    rw [queue] at waits
    have taken : Fijo cfg desde n (s.con_mutex i (fun m => { m with pid_dueno := some siguiente, cola_espera := espera })) :=
      held.1.mismas rfl (fun q => ⟨rfl,rfl⟩)
    have given := taken.herencia (heredar_mutex_cases cfg i siguiente espera s) (waits siguiente List.mem_cons_self)
      (fun q member => waits q (List.mem_cons_of_mem siguiente member))
    have juego := ((@bucle_juego _ cfg hora pid).sigue s i m siguiente espera r held.2 here owned queue quiet what)
    exact ⟨fun silent => ⟨given.despierta what,juego.1 silent⟩,fun _ => given.despierta what⟩

/-- An unlock that hands the mutex over. -/
theorem cede (fijo : Fijo cfg desde n s) {j siguiente : Nat} {espera : List Nat} {nombre : String} {m : Mutex} {t : Ks} {r : Ks × Pila}
    (found : buscar_mutex s nombre = some (j,m)) (queue : m.cola_espera = siguiente :: espera)
    (what : Devolucion p (s.con_mutex j (fun m => { m with pid_dueno := some siguiente, cola_espera := espera })) t)
    (inherits : Herencia cfg siguiente espera t r) (juego : EnJuego (Apto cfg desde n) s) (own : Apto cfg desde n p) :
    Fijo cfg desde n r.1 := by
  have waits := juego.espera m (mem_of_buscar found)
  rw [queue] at waits
  have rest : ∀ q ∈ espera, Apto cfg desde n q := fun q member => waits q (List.mem_cons_of_mem siguiente member)
  have taken := fijo.mismas (t := s.con_mutex j (fun m => { m with pid_dueno := some siguiente, cola_espera := espera })) rfl
    (fun q => ⟨rfl,rfl⟩)
  exact (taken.devolucion what own (juego.con_mutex (fun _ _ => rest))).herencia inherits (waits siguiente List.mem_cons_self) rest

end Fijo

/-- The process that an action creates or admits. -/
def naciente : Accion → Option Nat
  | .pedir (.crear_proceso p _) | .recibir (.crear_proceso p _) | .agregar_a_new p | .mover_proceso_a_ready p => some p
  | _ => none

theorem mueve_fijo {hora : Nat} {a : Accion} {r : Efecto} (move : Mueve cfg hora s a r) (fijo : Fijo cfg desde n s)
    (juego : EnJuego (Apto cfg desde n) s) (named : Tiene (Apto cfg desde n) a)
    (created : a ≠ .crear_proceso_inicial ∧ ∀ k, a ≠ .manejar_init_proc k) : Fijo cfg desde n r.ks := by
  have own : ∀ {p}, en_mano a = [p] → Apto cfg desde n p := fun {p} hand => named p (hand ▸ List.mem_singleton_self p)
  cases move with
  | crear_proceso_inicial => exact absurd rfl created.1
  | manejar_init_proc k prioridad => exact absurd rfl (created.2 k)
  | mover_proceso_a_ready p | mover_proceso_de_block_a_ready p | sacar_de_susp_ready p | bloquear_por_compactacion p
  | bloquear_proceso p | mover_a_susp_ready p | planificar _ p | planificar_timer _ p | vence_quantum _ _ p | vence_suspension _ p
  | vence_en_vano _ p | manejar_proceso_exit _ p | manejar_seg_fault _ p | manejar_fin_quantum _ p | fin_quantum_invalido _ p
  | fin_quantum_al_frente _ p | fin_io_block p | fin_io_susp_block p | fin_io_inesperado p | fin_compactacion p =>
    refine fijo.mismas rfl (fun q => ?_)
    by_cases same : q = p <;>
      simp [same,pasa_a_ready,bloquear_por_compactacion,bloquear_proceso,mover_a_susp_ready]
  | desconectar_ociosa k idle =>
    refine fijo.mismas ?_ (fun q => ?_) <;> (unfold quitar_cpu_libre; split_ifs <;> simp)
  | desconectar_ocupada k p busy desaloja one =>
    have procesos : (quitar_cpu_libre k s).procesos = s.procesos := by unfold quitar_cpu_libre; split_ifs <;> rfl
    have pids : (quitar_cpu_libre k s).proximo_pid = s.proximo_pid := by unfold quitar_cpu_libre; split_ifs <;> rfl
    exact fijo.mismas (by simpa using pids) (fun q => by by_cases same : q = p <;> simp [same,procesos])
  | liberar_mutex_del_proceso pid i => exact liberar_mutex_del_proceso_rule (Fijo.bucle hora pid) i ⟨fijo,juego⟩
  | ceder_mutex pid i p r what silent =>
    exact liberar_mutex_del_proceso_rule (Fijo.bucle hora pid) (i + 1) ⟨fijo.despierta what,(despertar_juego what juego (own rfl)).1⟩
  | ceder_mutex_pausa pid i p r what pausa => exact fijo.despierta what
  | manejar_io t p k v x kept =>
    refine fijo.mismas rfl (fun q => ?_)
    by_cases same : q = p
    · subst same
      obtain ⟨_,_,_,rfl⟩ := manejar_io_some kept
      simp
    · simp [same]
  | lock_espera p k j pid nombre m r found taken what =>
    have queued : Fijo cfg desde n (s.con_mutex j (fun m => { m with cola_espera := m.cola_espera ++ [p] })) :=
      fijo.mismas rfl (fun q => ⟨rfl,rfl⟩)
    rcases what with rfl | ⟨cmn,owner,inherits⟩
    · exact queued
    · have juego' : EnJuego (Apto cfg desde n) (s.con_mutex j (fun m => { m with cola_espera := m.cola_espera ++ [p] })) :=
        mueve_en_juego (@Mueve.lock_espera cfg hora _ p k j pid nombre m _ found taken (.inl rfl)) juego named (by simp)
      refine queued.herencia inherits (juego'.encontrado owner) (fun q member => ?_)
      rcases List.mem_append.mp member with old | new
      · exact juego.espera m (mem_of_buscar found) q old
      · exact List.mem_singleton.mp new ▸ own rfl
  | unlock_sin_espera p k j nombre m t found empty what =>
    have left := fijo.mismas (t := s.con_mutex j (fun m => { m with pid_dueno := none })) rfl (fun q => ⟨rfl,rfl⟩)
    exact left.devolucion what (own rfl) (juego.con_mutex (fun m' here => juego.espera m' (List.mem_of_getElem? here)))
  | unlock_cede p k j siguiente espera nombre m t r found queue what d inherits silent wakes =>
    have given := fijo.cede found queue what inherits juego (own rfl)
    cases wakes <;> exact given.mismas rfl (fun q => by by_cases same : q = siguiente <;> simp [same])
  | unlock_pausa p k j siguiente espera nombre m t r found queue what inherits pausa =>
    exact fijo.cede found queue what inherits juego (own rfl)
  | despertar_siguiente p d wakes =>
    cases wakes <;> exact fijo.mismas rfl (fun q => by by_cases same : q = p <;> simp [same])
  | _ => exact fijo.mismas rfl (fun q => ⟨rfl,rfl⟩)

/-! ## Runs -/

/-- Every process that can be reached was created with the number of a queue, and so were the priorities that went round. -/
structure Prioridades (cfg : Config) (desde : Nat → Int) (s : Planificador) : Prop where
  fijo : Fijo cfg desde s.ks.proximo_pid s.ks
  juego : EnJuego (Apto cfg desde s.ks.proximo_pid) s.ks
  pendiente : Every (Tiene (Apto cfg desde s.ks.proximo_pid)) s.hilos
  nacientes : Every (fun a => ∀ p, naciente a = some p → p < s.ks.proximo_pid) s.hilos

theorem inicial_prioridades (cfg : Config) : Prioridades cfg (fun _ => 0) inicial where
  fijo := ⟨fun _ => rfl,fun _ => rfl,rfl⟩
  juego := ⟨by simp [inicial],by simp [inicial],by simp [inicial],by simp [inicial]⟩
  pendiente := by simp [inicial,Every,Tiene,en_mano]
  nacientes := by simp [inicial,Every,naciente]

theorem naciente_de_bucle {b : Accion} (loop : de_bucle b = true) : naciente b = none := by
  cases b <;> simp_all [de_bucle,naciente]

theorem naciente_de_desalojo {pila : Pila} (one : Desalojo pila) : ∀ b ∈ pila, naciente b = none :=
  fun b member => naciente_de_bucle (desalojo_de_bucle one b member)

theorem naciente_de_si {x : Bool} {a : Accion} (free : naciente a = none) : ∀ b ∈ si x a, naciente b = none := by
  cases x <;> simp_all [si]

/-- A process is created once, and then only passed on. -/
theorem mueve_naciente {hora : Nat} {a : Accion} {r : Efecto} (move : Mueve cfg hora s a r)
    (created : a ≠ .crear_proceso_inicial ∧ ∀ k, a ≠ .manejar_init_proc k) :
    ∀ b ∈ r.sigue, naciente b = none ∨ naciente b = naciente a := by
  have quiet : ∀ {pila : Pila}, (∀ b ∈ pila, naciente b = none) → ∀ b ∈ pila, naciente b = none ∨ naciente b = naciente a :=
    fun none b member => .inl (none b member)
  have both : ∀ {pila pila' : Pila}, (∀ b ∈ pila, naciente b = none) → (∀ b ∈ pila', naciente b = none) →
      ∀ b ∈ pila ++ pila', naciente b = none :=
    fun first second b member => (List.mem_append.mp member).elim (first b) (second b)
  cases move with
  | crear_proceso_inicial => exact absurd rfl created.1
  | manejar_init_proc k prioridad => exact absurd rfl (created.2 k)
  | recibir q v =>
    cases q with
    | crear_proceso p k => cases k <;> cases v <;> simp [tras_respuesta,naciente]
    | _ => cases v <;> simp [tras_respuesta,naciente]
  | mover_proceso_a_ready p desaloja one | mover_proceso_de_block_a_ready p desaloja one =>
    exact quiet (both (naciente_de_desalojo one) (naciente_de_si rfl))
  | desconectar_ocupada k p busy desaloja one => exact quiet (both (naciente_de_desalojo one) (naciente_de_si rfl))
  | sacar_de_susp_ready p i desaloja one =>
    exact quiet (both (both (naciente_de_desalojo one) (naciente_de_si rfl)) (by simp [naciente]))
  | liberar_mutex_del_proceso pid i =>
    exact quiet (fun b member => naciente_de_bucle (liberar_pila cfg hora pid i s b member))
  | ceder_mutex pid i p r what silent =>
    exact quiet (fun b member => naciente_de_bucle (liberar_pila cfg hora pid (i + 1) r.1 b member))
  | ceder_mutex_pausa pid i p r what pausa =>
    exact quiet (both (fun b member => naciente_de_bucle (despierta_pila what b member)) (by simp [naciente]))
  | manejar_fin_quantum k p running normal desaloja one =>
    exact quiet (both (naciente_de_desalojo one) (by simp [naciente]))
  | liberar_cpu_de_quantum k planificable => exact quiet (both (naciente_de_si rfl) (by simp [naciente]))
  | lock_espera p k j pid nombre m r found taken what =>
    refine quiet (both ?_ (by simp [naciente]))
    rcases what with rfl | ⟨cmn,owner,inherits⟩
    · simp
    · exact naciente_de_desalojo (herencia_pila inherits)
  | unlock_cede p k j siguiente espera nombre m t r found queue what d inherits silent wakes =>
    exact quiet (both (by cases wakes <;> simp [naciente]) (by simp [naciente]))
  | unlock_pausa p k j siguiente espera nombre m t r found queue what inherits pausa =>
    exact quiet (both (naciente_de_desalojo (herencia_pila inherits)) (by simp [naciente]))
  | despertar_siguiente p d wakes => cases wakes <;> simp [naciente]
  | pedir q => cases q <;> simp [naciente]
  | desalojar_todas_las_cpus busy | manejar_bsod busy =>
    refine quiet (both (fun b member => ?_) (by simp [naciente]))
    obtain ⟨q,_,rfl⟩ := List.mem_map.mp member
    rfl
  | tomar_pedido_io t d p cola queue => cases t <;> simp [ejecutar_io,naciente]
  | _ => simp [naciente,bloquear_proceso,verificar_fin_bsod]

theorem lanza_naciente {hora : Nat} {a : Accion} {r : Efecto} (move : Mueve cfg hora s a r) :
    Every (fun b => naciente b = none) r.lanza := by
  cases move with
  | despertar_siguiente p d wakes => cases wakes <;> simp [Every]
  | _ => simp [Every,naciente,crear_proceso,bloquear_proceso,verificar_fin_bsod]

/-- A new process changes nothing for those before it. -/
theorem crear_prioridades {s : Planificador} {a : Accion} {resto : Pila} {i : Nat} (held : Prioridades cfg desde s)
    (here : s.hilos[i]? = some (a :: resto)) (k : Option Nat) (prioridad : Int) :
    Prioridades cfg (Function.update desde s.ks.proximo_pid prioridad)
      ⟨(crear_proceso k prioridad s.ks).ks,
        advance s.hilos i (crear_proceso k prioridad s.ks).sigue resto (crear_proceso k prioridad s.ks).lanza⟩ := by
  have older : ∀ p, Apto cfg desde s.ks.proximo_pid p →
      Apto cfg (Function.update desde s.ks.proximo_pid prioridad) (s.ks.proximo_pid + 1) p := by
    rintro p ⟨bound,range⟩
    refine ⟨by omega,?_⟩
    rwa [Function.update_of_ne (by omega)]
  refine ⟨⟨fun p => ?_,fun p => ?_,rfl⟩,?_,?_,?_⟩
  · by_cases same : p = s.ks.proximo_pid
    · simp [crear_proceso,proceso_nuevo,same]
    · simpa [crear_proceso,same] using held.fijo.original p
  · by_cases same : p = s.ks.proximo_pid
    · simp [crear_proceso,proceso_nuevo,same]
    · simpa [crear_proceso,same] using held.fijo.igual p
  · have kept := held.juego.mono older
    exact ⟨kept.listas,kept.espera,kept.io,kept.esperando⟩
  · exact every_advance (held.pendiente.mono (fun b named p member => older p (named p member))) here
      (by simp [crear_proceso,Tiene,en_mano,de_pedido]) (by simp [crear_proceso,Every])
  · refine every_advance (held.nacientes.mono (fun b born p new => ?_)) here
      (by simp [crear_proceso,naciente]) (by simp [crear_proceso,Every])
    exact (born p new).trans (Nat.lt_succ_self _)

theorem paso_prioridades (cmn : cfg.cmn = true) {l : Paso} {s t : Planificador} (held : Prioridades cfg desde s)
    (moved : paso cfg l s = some t) : ∃ desde', Prioridades cfg desde' t := by
  obtain ⟨a,resto,r,here,alive,effect,move,rfl⟩ := paso_avanza moved
  by_cases created : a ≠ .crear_proceso_inicial ∧ ∀ k, a ≠ .manejar_init_proc k
  · have named := every_here held.pendiente here
    have born := every_here held.nacientes here
    have fresh : ∀ p, a = .mover_proceso_a_ready p → destino cfg (s.ks.procesos p).prioridad ≠ .lista_ready_invalida →
        Apto cfg desde s.ks.proximo_pid p := by
      rintro p rfl planned
      refine ⟨born p rfl,?_⟩
      rw [← held.fijo.igual p]
      by_contra out
      exact planned (by simp [destino,cmn,out])
    have fijo := mueve_fijo move held.fijo held.juego named created
    refine ⟨desde,?_,?_,?_,?_⟩
    · exact ⟨fijo.original,fijo.igual,rfl⟩
    · exact fijo.pids.symm ▸ mueve_en_juego move held.juego named fresh
    · exact fijo.pids.symm ▸ every_advance held.pendiente here (mueve_tiene move held.juego named) (mueve_lanza_tiene move)
    · refine fijo.pids.symm ▸ every_advance held.nacientes here (fun b next p new => ?_)
        ((lanza_naciente move).mono (fun b none p new => by rw [none] at new; cases new))
      rcases mueve_naciente move created b next with none | same
      · rw [none] at new; cases new
      · exact born p (same ▸ new)
  · simp only [not_and_or,not_not,not_forall] at created
    rcases created with rfl | ⟨k,rfl⟩
    · cases move
      exact ⟨_,crear_prioridades held here none 0⟩
    · cases move with
      | manejar_init_proc k prioridad => exact ⟨_,crear_prioridades held here (some k) prioridad⟩

end PlugNPray.Priorities
