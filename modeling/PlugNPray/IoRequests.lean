import PlugNPray.Shutdown

/-!
IO requests from the syscall to the end of the service, with the connections of the
devices and the reason for which each process last blocked.
-/
namespace PlugNPray.IoRequests
open PlugNPray.Scheduler PlugNPray.Handlers PlugNPray.ReadyQueues PlugNPray.Moves PlugNPray.Stacks PlugNPray.Runs
open PlugNPray.Shutdown (siesta)

/-! ## Devices that come and go -/

structure Vigilado where
  sistema : Planificador
  /-- The devices whose connection has dropped. -/
  cerrados : List Nat
  /-- The IO type for which a process was blocked last, if it was for IO. -/
  motivo : Nat → Option TipoIo

inductive Suceso where
  | hilo (l : Paso)
  | se_va (io : Nat)
  deriving DecidableEq

/-- A device that is gone does not answer. -/
def posible (l : Paso) (s : Vigilado) : Bool :=
  match cima s.sistema l.hilo with
  | some (.esperar_io _ d _) => l.entrada ≠ .respuesta_io true || d ∉ s.cerrados
  | _ => true

def anotar (a : Option Accion) (motivo : Nat → Option TipoIo) : Nat → Option TipoIo :=
  match a with
  | some (.bloquear_proceso p (.io t)) => Function.update motivo p (some t)
  | some (.bloquear_proceso p (.mutex _)) | some (.bloquear_por_compactacion p) => Function.update motivo p none
  | _ => motivo

def paso_io (cfg : Config) : Suceso → Vigilado → Option Vigilado
  | .se_va d, s => some { s with cerrados := d :: s.cerrados }
  | .hilo l, s =>
    if posible l s then
      (paso cfg l s.sistema).map (fun t => { s with sistema := t, motivo := anotar (cima s.sistema l.hilo) s.motivo })
    else none

def inicio : Vigilado where
  sistema := inicial
  cerrados := []
  motivo := fun _ => none

/-! ## Who has a request in hand -/

/-- The actions that go on with a request of `p` of the type. -/
def atiende (t : TipoIo) (p : Nat) : Accion → Bool
  | .manejar_io t' p' _ | .encolar_pedido_io t' p' | .esperar_io t' _ p' => t' = t && p' = p
  | .ejecutar_io_stdin _ p' | .pedir (.escribir_datos p' _) | .recibir (.escribir_datos p' _) => t = .STDIN && p' = p
  | .pedir (.leer_datos p' _) | .recibir (.leer_datos p' _) => t = .STDOUT && p' = p
  | .manejar_fin_io p' | .mover_proceso_de_block_a_ready p' | .mover_a_susp_ready p' => p' = p
  | _ => false

/-- The device that an action of a service belongs to. -/
def aparato : Accion → Option (TipoIo × Nat)
  | .atender_io t d | .tomar_pedido_io t d | .esperar_io t d _ => some (t,d)
  | .ejecutar_io_stdin d _ | .pedir (.escribir_datos _ d) | .recibir (.escribir_datos _ d) => some (.STDIN,d)
  | .pedir (.leer_datos _ d) | .recibir (.leer_datos _ d) => some (.STDOUT,d)
  | _ => none

def bloqueado (e : Estado) : Bool := e = .BLOCK || e = .SUSP_BLOCK

variable {cfg : Config} {s : Ks} {p : Nat} {t : TipoIo}

/-! ### States -/

section blocked
variable {hora : Nat}

theorem despierta_bloqueado {q : Nat} {r : Ks × Pila} (what : Despierta cfg hora q s r)
    (now : bloqueado (r.1.procesos p).estado = true) : bloqueado (s.procesos p).estado = true := by
  cases what with
  | susp_block => by_cases same : p = q <;> simp_all [mover_a_susp_ready,bloqueado]
  | _ => by_cases same : p = q <;> simp_all [bloqueado]

theorem liberar_bloqueado {pid i : Nat} (now : bloqueado ((liberar_mutex_del_proceso cfg hora pid i s).1.procesos p).estado = true) :
    bloqueado (s.procesos p).estado = true := by
  have body : Bucle cfg hora pid
      (fun s' => bloqueado (s'.procesos p).estado = true → bloqueado (s.procesos p).estado = true)
      (fun s' _ => bloqueado (s'.procesos p).estado = true → bloqueado (s.procesos p).estado = true) :=
    { acaba := fun _ kept => kept
      suelta := fun _ _ _ kept _ _ _ => kept
      pausa := fun s' i m siguiente espera kept _ _ _ _ now => by
        rw [heredar_mutex_estado] at now
        exact kept now
      sigue := fun s' i m siguiente espera r kept _ _ _ _ what => by
        have done : bloqueado (r.1.procesos p).estado = true → bloqueado (s.procesos p).estado = true := fun now => by
          have before := despierta_bloqueado what now
          rw [heredar_mutex_estado] at before
          exact kept before
        exact ⟨fun _ => done,fun _ => done⟩ }
  exact liberar_mutex_del_proceso_rule body i id now

/-- Only two functions block a process. -/
theorem mueve_bloqueado {a : Accion} {r : Efecto} (move : Mueve cfg hora s a r) (now : bloqueado (r.ks.procesos p).estado = true) :
    bloqueado (s.procesos p).estado = true ∨ (∃ m, a = .bloquear_proceso p m) ∨ a = .bloquear_por_compactacion p := by
  cases move with
  | bloquear_proceso q m =>
    by_cases same : p = q
    · exact .inr (.inl ⟨m,by rw [same]⟩)
    · exact .inl (by simpa [bloquear_proceso,same] using now)
  | bloquear_por_compactacion q =>
    by_cases same : p = q
    · exact .inr (.inr (by rw [same]))
    · exact .inl (by simpa [bloquear_por_compactacion,same] using now)
  | liberar_mutex_del_proceso pid i => exact .inl (liberar_bloqueado now)
  | ceder_mutex pid i q r what silent => exact .inl (despierta_bloqueado what (liberar_bloqueado now))
  | ceder_mutex_pausa pid i q r what pausa => exact .inl (despierta_bloqueado what now)
  | desconectar_ociosa k idle =>
    have procesos : (quitar_cpu_libre k s).procesos = s.procesos := by unfold quitar_cpu_libre; split_ifs <;> rfl
    exact .inl (by simpa [procesos] using now)
  | desconectar_ocupada k q busy desaloja one =>
    have procesos : (quitar_cpu_libre k s).procesos = s.procesos := by unfold quitar_cpu_libre; split_ifs <;> rfl
    by_cases same : p = q
    · simp [same,bloqueado] at now
    · exact .inl (by simpa [procesos,same] using now)
  | lock_espera q k j pid nombre m r found taken what =>
    rcases what with rfl | ⟨cmn,owner,inherits⟩
    · exact .inl now
    · rw [herencia_estado inherits] at now
      exact .inl now
  | unlock_sin_espera q k j nombre m s' found empty what =>
    rw [devolucion_estado what] at now
    exact .inl now
  | unlock_cede q k j siguiente espera nombre m s' r found queue what d inherits silent wakes =>
    have before : (d.ks.procesos p).estado = (s.procesos p).estado := by
      have given := (herencia_estado (p := p) inherits).trans (devolucion_estado what)
      cases wakes <;> by_cases same : p = siguiente <;> simp_all
    rw [before] at now
    exact .inl now
  | unlock_pausa q k j siguiente espera nombre m s' r found queue what inherits pausa =>
    rw [herencia_estado inherits,devolucion_estado what] at now
    exact .inl now
  | despertar_siguiente q d wakes => cases wakes <;> by_cases same : p = q <;> simp_all
  | manejar_io t q k v x kept =>
    by_cases same : p = q
    · subst same
      obtain ⟨_,_,_,rfl⟩ := manejar_io_some kept
      exact .inl (by simpa using now)
    · exact .inl (by simpa [same] using now)
  | vence_suspension t q found valid blocked =>
    by_cases same : p = q
    · exact .inl (by rw [same,blocked]; rfl)
    · exact .inl (by simpa [same] using now)
  | crear_proceso_inicial | manejar_init_proc k prioridad =>
    by_cases same : p = s.proximo_pid
    · simp [crear_proceso,proceso_nuevo,same,bloqueado] at now
    · exact .inl (by simpa [crear_proceso,same] using now)
  | mover_proceso_a_ready q | mover_proceso_de_block_a_ready q | sacar_de_susp_ready q | mover_a_susp_ready q | planificar _ q
  | planificar_timer _ q | vence_quantum _ _ q | vence_en_vano _ q | manejar_proceso_exit _ q | manejar_seg_fault _ q
  | manejar_fin_quantum _ q | fin_quantum_invalido _ q | fin_quantum_al_frente _ q | fin_io_block q | fin_io_susp_block q
  | fin_io_inesperado q | fin_compactacion q =>
    by_cases same : p = q
    · simp_all [pasa_a_ready,mover_a_susp_ready,bloqueado]
    · exact .inl (by simpa [pasa_a_ready,mover_a_susp_ready,same] using now)
  | _ => exact .inl now
end blocked

/-! ### What follows what in a thread -/

def bloquea_por_io : Accion → Bool
  | .bloquear_proceso _ (.io _) => true
  | _ => false

/-- A process that blocks for IO goes on to its request. -/
def Encadenada : Pila → Prop :=
  Followed bloquea_por_io (fun a b => ∀ p t, a = .bloquear_proceso p (.io t) → ∃ k, b = .manejar_io t p k)

/-- A service is made inside the loop of its device. -/
def Atendida (pila : Pila) : Prop := ∀ a ∈ pila, ∀ t d, aparato a = some (t,d) → .atender_io t d ∈ pila

/-- What a move leaves to do: nothing of the kind, a process to block and its request, or the rest of a service. -/
inductive Deja (a : Accion) (sigue : Pila) : Prop where
  | nada (plain : ∀ b ∈ sigue, bloquea_por_io b = false ∧ aparato b = none)
  | bloquea (k p : Nat) (t : TipoIo) (same : sigue = [.bloquear_proceso p (.io t),.manejar_io t p k])
  | servicio (t : TipoIo) (d : Nat) (here : aparato a = some (t,d)) (plain : ∀ b ∈ sigue, bloquea_por_io b = false)
      (goes : ∀ b ∈ sigue, aparato b = none ∨ aparato b = some (t,d))

def ajena_a_io (b : Accion) : Bool := !bloquea_por_io b && aparato b = none

theorem deja_nada {a : Accion} {sigue : Pila} (plain : sigue.all ajena_a_io = true) : Deja a sigue :=
  .nada (fun b member => by simpa [ajena_a_io] using List.all_eq_true.mp plain b member)

theorem de_bucle_ajena_a_io : ∀ b, de_bucle b = true → ajena_a_io b = true := by
  intro b loop
  cases b <;> first | rfl | cases loop

theorem bucle_ajena_a_io {pila : Pila} (loop : ∀ b ∈ pila, de_bucle b = true) : pila.all ajena_a_io = true :=
  all_de_bucle de_bucle_ajena_a_io loop

theorem tras_respuesta_deja (q : Pedido) (v : Respuesta) : Deja (.recibir q) (tras_respuesta q v) := by
  cases q with
  | crear_proceso p k => cases k <;> cases v <;> exact deja_nada rfl
  | crear_segmento p k id_segmento tamanio => cases v <;> exact deja_nada rfl
  | finalizar_proceso p k | suspender_proceso p => exact deja_nada rfl
  | dessuspender_proceso p i | eliminar_segmento p k id_segmento | escribir_datos p d => cases v <;> exact deja_nada rfl
  | leer_datos p d => exact .servicio .STDOUT d rfl (by simp [tras_respuesta,bloquea_por_io]) (by simp [tras_respuesta,aparato])

theorem mueve_deja {hora : Nat} {a : Accion} {r : Efecto} (move : Mueve cfg hora s a r) : Deja a r.sigue := by
  cases move with
  | recibir q v => exact tras_respuesta_deja q v
  | pedir q free =>
    by_cases device : aparato (.recibir q) = none
    · exact .nada (by simp [bloquea_por_io,device])
    · obtain ⟨⟨t,d⟩,device⟩ := Option.ne_none_iff_exists'.mp device
      exact .servicio t d (by cases q <;> simp_all [aparato]) (by simp [bloquea_por_io]) (by simp [device])
  | mover_proceso_a_ready p desaloja one | mover_proceso_de_block_a_ready p desaloja one | desconectar_ocupada k p busy desaloja one =>
    exact deja_nada (by
      simp only [List.all_append,bucle_ajena_a_io (desalojo_de_bucle one),bucle_ajena_a_io (anuncio_de_bucle cfg _),Bool.true_and])
  | sacar_de_susp_ready p i desaloja one =>
    exact deja_nada (by
      simp only [List.all_append,bucle_ajena_a_io (desalojo_de_bucle one),bucle_ajena_a_io (anuncio_de_bucle cfg _),Bool.true_and]
      rfl)
  | manejar_fin_quantum k p running still desaloja one =>
    exact deja_nada (by simp only [List.all_append,bucle_ajena_a_io (desalojo_de_bucle one),Bool.true_and]; rfl)
  | liberar_mutex_del_proceso pid i => exact deja_nada (bucle_ajena_a_io (liberar_pila cfg hora pid i s))
  | ceder_mutex pid i p r what silent => exact deja_nada (bucle_ajena_a_io (liberar_pila cfg hora pid (i + 1) r.1))
  | ceder_mutex_pausa pid i p r what pausa =>
    exact deja_nada (by simp only [List.all_append,bucle_ajena_a_io (despierta_pila what),Bool.true_and]; rfl)
  | liberar_cpu_de_quantum k planificable => cases planificable <;> exact deja_nada rfl
  | syscall_io k p t running => exact .bloquea k p t rfl
  | lock_espera p k j pid nombre m r found taken what =>
    have sends : Desalojo r.2 := by
      rcases what with rfl | ⟨cmn,owner,inherits⟩
      · exact desalojo_nil
      · exact herencia_pila inherits
    exact deja_nada (by simp only [List.all_append,bucle_ajena_a_io (desalojo_de_bucle sends),Bool.true_and]; rfl)
  | unlock_cede p k j siguiente espera nombre m t r found queue what d inherits silent wakes =>
    cases wakes <;> exact deja_nada rfl
  | unlock_pausa p k j siguiente espera nombre m t r found queue what inherits pausa =>
    exact deja_nada (by simp only [List.all_append,bucle_ajena_a_io (desalojo_de_bucle (herencia_pila inherits)),Bool.true_and]; rfl)
  | despertar_siguiente p d wakes => cases wakes <;> exact deja_nada rfl
  | desalojar_todas_las_cpus busy => exact deja_nada (by simp only [List.all_append,bucle_ajena_a_io (interrupciones_de_bucle s),Bool.true_and]; rfl)
  | manejar_bsod busy => exact deja_nada (by simp only [List.all_append,bucle_ajena_a_io (interrupciones_de_bucle s),Bool.true_and]; rfl)
  | atender_io t d n token => exact .servicio t d rfl (by simp [bloquea_por_io]) (by simp [aparato])
  | tomar_pedido_io t d p cola queue =>
    refine .servicio t d rfl ?_ ?_
    · cases t <;> simp [ejecutar_io,bloquea_por_io]
    · cases t <;> simp [ejecutar_io,aparato]
  | ejecutar_io_stdin d p => exact .servicio .STDIN d rfl (by simp [bloquea_por_io]) (by simp [aparato])
  | cliente_io t => exact deja_nada rfl
  | _ => exact deja_nada rfl

theorem mueve_lanza_io {hora : Nat} {a : Accion} {r : Efecto} (move : Mueve cfg hora s a r) :
    ∀ pila ∈ r.lanza, Encadenada pila ∧ Atendida pila := by
  cases move with
  | iniciar_hilos | cliente_cpu | cliente_io t | lanzar_quantum t k p | bloquear_proceso p por =>
    simp [bloquear_proceso,Encadenada,Followed,bloquea_por_io,Atendida,aparato]
  | unlock_cede p k j siguiente espera nombre m t r found queue what d inherits silent wakes => exact fun _ member => by cases member
  | despertar_siguiente p d wakes => cases wakes <;> exact fun _ member => by cases member
  | _ => exact fun _ member => by cases member

/-! ### The queues of the devices -/

/-- Only two functions touch the queues. -/
theorem mueve_cola_io {hora : Nat} {a : Accion} {r : Efecto} (move : Mueve cfg hora s a r) :
    r.ks.cola_espera_io = s.cola_espera_io ∨ (∃ t p, a = .encolar_pedido_io t p ∧ r.ks = encolar_pedido_io t p s) ∨
      ∃ t d p cola, a = .tomar_pedido_io t d ∧ s.cola_espera_io t = p :: cola ∧ r.sigue = ejecutar_io t d p ∧
        r.ks.cola_espera_io = Function.update s.cola_espera_io t cola := by
  have far : Ajena Ks.cola_espera_io := fun _ _ _ _ _ => rfl
  cases move with
  | encolar_pedido_io t p => exact .inr (.inl ⟨t,p,rfl,rfl⟩)
  | tomar_pedido_io t d p cola queue => exact .inr (.inr ⟨t,d,p,cola,rfl,queue,rfl,rfl⟩)
  | desconectar_ociosa k idle | desconectar_ocupada k p busy desaloja one =>
    refine .inl ?_
    change (quitar_cpu_libre k s).cola_espera_io = s.cola_espera_io
    unfold quitar_cpu_libre
    split_ifs <;> rfl
  | liberar_mutex_del_proceso pid i => exact .inl (liberar_ajena far cfg hora pid i s)
  | ceder_mutex pid i p r what silent => exact .inl ((liberar_ajena far cfg hora pid (i + 1) r.1).trans (despierta_ajena far what))
  | ceder_mutex_pausa pid i p r what pausa => exact .inl (despierta_ajena far what)
  | lock_espera p k j pid nombre m r found taken what =>
    rcases what with rfl | ⟨cmn,owner,inherits⟩
    · exact .inl rfl
    · exact .inl ((herencia_ajena far inherits).trans rfl)
  | unlock_sin_espera p k j nombre m t found empty what => exact .inl ((devolucion_ajena far what).trans rfl)
  | unlock_cede p k j siguiente espera nombre m t r found queue what d inherits silent wakes =>
    have same := (herencia_ajena far inherits).trans ((devolucion_ajena far what).trans rfl)
    cases wakes <;> exact .inl same
  | unlock_pausa p k j siguiente espera nombre m t r found queue what inherits pausa =>
    exact .inl ((herencia_ajena far inherits).trans ((devolucion_ajena far what).trans rfl))
  | despertar_siguiente p d wakes => cases wakes <;> exact .inl rfl
  | _ => exact .inl rfl

/-- A request leaves a queue in the hands of a device. -/
theorem mueve_en_cola {hora : Nat} {a : Accion} {r : Efecto} (move : Mueve cfg hora s a r) (queued : p ∈ s.cola_espera_io t) :
    p ∈ r.ks.cola_espera_io t ∨ ∃ b ∈ r.sigue, atiende t p b = true := by
  rcases mueve_cola_io move with same | ⟨t',q,_,added⟩ | ⟨t',d,q,cola,_,queue,serves,taken⟩
  · exact .inl (same ▸ queued)
  · rw [added]
    by_cases kind : t = t'
    · subst kind
      exact .inl (by simp [encolar_pedido_io,queued])
    · exact .inl (by simpa [encolar_pedido_io,kind] using queued)
  · rw [taken,serves]
    by_cases kind : t = t'
    · subst kind
      rw [queue] at queued
      rcases List.mem_cons.mp queued with rfl | later
      · exact .inr (by cases t <;> simp [ejecutar_io,atiende])
      · exact .inl (by simpa using later)
    · exact .inl (by simpa [kind] using queued)

/-! ### Requests in hand -/

/-- Every device that is asked, and Kernel Memory for what STDIN writes, answer OP_OK. -/
def contesta (l : Paso) (s : Planificador) : Bool :=
  match cima s l.hilo with
  | some (.esperar_io _ _ _) => l.entrada = .respuesta_io true
  | some (.recibir (.escribir_datos _ _)) => l.entrada = .respuesta .OK
  | _ => true

/-- A thread with a request in hand goes on with it, puts it on the queue, or wakes the process. -/
theorem efecto_atiende {hora : Nat} {e : Entrada} {a : Accion} {r : Efecto} (effect : efecto cfg hora e a s = some r)
    (device : ∀ t d p, a = .esperar_io t d p → e = .respuesta_io true)
    (memory : ∀ p d, a = .recibir (.escribir_datos p d) → e = .respuesta .OK) (holds : atiende t p a = true)
    (now : bloqueado (r.ks.procesos p).estado = true) : p ∈ r.ks.cola_espera_io t ∨ ∃ b ∈ r.sigue, atiende t p b = true := by
  cases a with
  | manejar_io t' q k =>
    obtain ⟨x,_,rfl⟩ := Option.map_eq_some_iff.mp effect
    exact .inr ⟨_,List.mem_singleton_self _,holds⟩
  | encolar_pedido_io t' q =>
    cases effect
    obtain ⟨rfl,rfl⟩ : t' = t ∧ q = p := by simpa [atiende] using holds
    exact .inl (by simp [encolar_pedido_io])
  | esperar_io t' d q =>
    rw [device t' d q rfl] at effect
    cases effect
    obtain ⟨rfl,rfl⟩ : t' = t ∧ q = p := by simpa [atiende] using holds
    exact .inr ⟨.manejar_fin_io q,by simp [si],by simp [atiende]⟩
  | ejecutar_io_stdin d q =>
    cases effect
    exact .inr ⟨_,List.mem_singleton_self _,holds⟩
  | pedir q =>
    have move := efecto_mueve effect
    cases move with
    | pedir q free =>
      refine .inr ⟨.recibir q,List.mem_singleton_self _,?_⟩
      cases q with
      | escribir_datos | leer_datos => exact holds
      | _ => cases holds
  | recibir q =>
    cases q with
    | escribir_datos q d =>
      rw [memory q d rfl] at effect
      cases effect
      obtain ⟨rfl,rfl⟩ : t = .STDIN ∧ q = p := by simpa [atiende] using holds
      exact .inr ⟨.manejar_fin_io q,by simp [tras_respuesta],by simp [atiende]⟩
    | leer_datos q d =>
      obtain ⟨v,_,rfl⟩ := Option.map_eq_some_iff.mp effect
      obtain ⟨rfl,rfl⟩ : t = .STDOUT ∧ q = p := by simpa [atiende] using holds
      exact .inr ⟨.esperar_io .STDOUT d q,by simp [tras_respuesta],by simp [atiende]⟩
    | _ => cases holds
  | manejar_fin_io q =>
    obtain rfl : q = p := by simpa [atiende] using holds
    have move := efecto_mueve effect
    cases move with
    | fin_io_block => exact .inr ⟨.mover_proceso_de_block_a_ready q,by simp,by simp [atiende]⟩
    | fin_io_susp_block => exact .inr ⟨.mover_a_susp_ready q,by simp,by simp [atiende]⟩
    | fin_io_inesperado q other other' => simp [bloqueado,other,other'] at now
  | mover_proceso_de_block_a_ready q =>
    obtain rfl : q = p := by simpa [atiende] using holds
    have move := efecto_mueve effect
    cases move
    simp [pasa_a_ready,bloqueado] at now
  | mover_a_susp_ready q =>
    obtain rfl : q = p := by simpa [atiende] using holds
    cases effect
    simp [mover_a_susp_ready,bloqueado] at now
  | _ => cases holds

/-! ## Runs -/

structure EnServicio (s : Vigilado) : Prop where
  pedido : ∀ p t, s.motivo p = some t → bloqueado (s.sistema.ks.procesos p).estado = true →
    p ∈ s.sistema.ks.cola_espera_io t ∨ Pending (fun a => atiende t p a = true) s.sistema.hilos
  hilos : ∀ pila ∈ s.sistema.hilos, Encadenada pila ∧ Atendida pila

theorem inicio_en_servicio : EnServicio inicio where
  pedido p t why := by cases why
  hilos pila member := by
    obtain rfl := List.mem_singleton.mp member
    simp [Encadenada,Followed,bloquea_por_io,Atendida,aparato]

theorem encadenada_sigue {a : Accion} {sigue resto : Pila} (leaves : Deja a sigue) (chained : Encadenada resto) :
    Encadenada (sigue ++ resto) := by
  cases leaves with
  | nada plain => exact followed_append (fun b member => (plain b member).1) chained
  | bloquea k p t same =>
    subst same
    exact ⟨fun _ => ⟨_,resto,rfl,fun q t' eq => by cases eq; exact ⟨k,rfl⟩⟩,nofun,chained⟩
  | servicio t d here plain goes => exact followed_append plain chained

theorem atendida_sigue {a : Accion} {sigue resto : Pila} (leaves : Deja a sigue)
    (back : ∀ t d, a = .atender_io t d → .atender_io t d ∈ sigue) (served : Atendida (a :: resto)) : Atendida (sigue ++ resto) := by
  have kept : ∀ t d, .atender_io t d ∈ a :: resto → .atender_io t d ∈ sigue ++ resto := by
    intro t d member
    rcases List.mem_cons.mp member with loop | later
    · exact List.mem_append_left resto (back t d loop.symm)
    · exact List.mem_append_right sigue later
  intro b member t d device
  rcases List.mem_append.mp member with first | later
  · cases leaves with
    | nada plain =>
      rw [(plain b first).2] at device
      cases device
    | bloquea k p t' same =>
      subst same
      rcases List.mem_pair.mp first with rfl | rfl <;> cases device
    | servicio t' d' here plain goes =>
      rcases goes b first with quiet | same
      · rw [quiet] at device
        cases device
      · rw [same] at device
        cases device
        exact kept t d (served a List.mem_cons_self t d here)
  · exact kept t d (served b (List.mem_cons_of_mem a later) t d device)

theorem anotar_other {a : Accion} {motivo : Nat → Option TipoIo} (other : ∀ m, a ≠ .bloquear_proceso p m)
    (other' : a ≠ .bloquear_por_compactacion p) : anotar (some a) motivo p = motivo p := by
  cases a with
  | bloquear_proceso q m =>
    have far : p ≠ q := fun same => other m (by rw [same])
    cases m <;> exact Function.update_of_ne far _ _
  | bloquear_por_compactacion q => exact Function.update_of_ne (fun same => other' (by rw [same])) _ _
  | _ => rfl

theorem avanza_en_servicio {l : Paso} {s : Vigilado} {u : Planificador} {a : Accion} {resto : Pila} {r : Efecto}
    (held : EnServicio s) (answers : contesta l s.sistema = true) (move : Avanza cfg l s.sistema u a resto r) :
    EnServicio { s with sistema := u, motivo := anotar (cima s.sistema l.hilo) s.motivo } := by
  have top : cima s.sistema l.hilo = some a := by simp [cima,move.here]
  obtain ⟨chained,served⟩ := held.hilos _ (List.mem_of_getElem? move.here)
  rw [top,move.result]
  refine ⟨fun p t why now => ?_,fun pila member => ?_⟩
  · -- The request is where it was, or this move takes it on.
    have goes : p ∈ s.sistema.ks.cola_espera_io t ∨ Pending (fun b => atiende t p b = true) s.sistema.hilos →
        p ∈ r.ks.cola_espera_io t ∨
          Pending (fun b => atiende t p b = true) (advance s.sistema.hilos l.hilo r.sigue resto r.lanza) := by
      have next : (∃ b ∈ r.sigue, atiende t p b = true) →
          Pending (fun b => atiende t p b = true) (advance s.sistema.hilos l.hilo r.sigue resto r.lanza) := by
        rintro ⟨b,listed,holds⟩
        exact pending_next move.here ⟨b,List.mem_append_left resto listed,holds⟩
      rintro (queued | pending)
      · exact (mueve_en_cola move.move queued).imp_right next
      · rcases @pending_advance _ _ _ _ _ _ r.sigue r.lanza pending move.here with holds | still
        · refine (efecto_atiende move.effect ?_ ?_ holds now).imp_right next
          · rintro t' d q rfl
            simpa [contesta,top] using answers
          · rintro q d rfl
            simpa [contesta,top] using answers
        · exact .inr still
    by_cases blocks : ∃ m, a = .bloquear_proceso p m
    · obtain ⟨m,rfl⟩ := blocks
      cases m with
      | io t' =>
        obtain rfl : t' = t := by simpa [anotar] using why
        obtain ⟨b,despues,rfl,next⟩ := chained.1 rfl
        obtain ⟨k,rfl⟩ := next p t' rfl
        exact .inr (pending_next move.here ⟨.manejar_io t' p k,by simp,by simp [atiende]⟩)
      | mutex j => simp [anotar] at why
    · by_cases moving : a = .bloquear_por_compactacion p
      · subst moving
        simp [anotar] at why
      · replace why := (anotar_other (fun m same => blocks ⟨m,same⟩) moving).symm.trans why
        rcases mueve_bloqueado move.move now with before | blocked | compacting
        · exact goes (held.pedido p t why before)
        · exact absurd blocked blocks
        · exact absurd compacting moving
  · rcases mem_advance member with old | rfl | new
    · exact held.hilos pila old
    · refine ⟨encadenada_sigue (mueve_deja move.move) chained.2,
        atendida_sigue (mueve_deja move.move) (fun t d loop => ?_) served⟩
      have what := move.move
      rw [loop] at what
      cases what
      simp
    · exact mueve_lanza_io move.move pila new

def pedidos_contestados : Suceso → Vigilado → Bool
  | .hilo l, s => contesta l s.sistema
  | .se_va _, _ => true

theorem paso_io_en_servicio {cfg : Config} {l : Suceso} {s u : Vigilado} (held : EnServicio s)
    (answers : pedidos_contestados l s = true) (moved : paso_io cfg l s = some u) : EnServicio u := by
  cases l with
  | hilo l =>
    simp only [paso_io] at moved
    split_ifs at moved with answered
    obtain ⟨t,advances,rfl⟩ := Option.map_eq_some_iff.mp moved
    obtain ⟨a,resto,r,move⟩ := paso_avanza advances
    exact avanza_en_servicio held answers move
  | se_va d =>
    cases moved
    exact ⟨held.pedido,held.hilos⟩

/-- Nobody is between two steps of its work: what is pending is the start of a loop, a timer that may expire, or a device
    that is asked and has not dropped. -/
def reposa (cerrados : List Nat) : Accion → Bool
  | .atender_conexiones_entrantes | .planificador_corto_plazo | .esperar_cpu_libre | .esperar_permiso | .hilo_quantum _ _ _
  | .hilo_suspension _ _ | .atender_cpu _ | .atender_io _ _ | .hilo_escuchar_memoria => true
  | .esperar_io _ d _ | .ejecutar_io_stdin d _ => d ∉ cerrados
  | _ => false

/-- A device of the type, whose connection is open, is serving the process. -/
def Servido (s : Vigilado) (t : TipoIo) (p : Nat) : Prop :=
  ∃ d, d ∉ s.cerrados ∧ ∃ pila ∈ s.sistema.hilos, .atender_io t d ∈ pila ∧ ∃ a ∈ pila, aparato a = some (t,d) ∧ atiende t p a = true

theorem reposa_servido {s : Vigilado} (held : EnServicio s) (rest : Every (fun a => reposa s.cerrados a = true) s.sistema.hilos)
    (pending : Pending (fun a => atiende t p a = true) s.sistema.hilos) : Servido s t p := by
  obtain ⟨pila,member,a,listed,holds⟩ := pending
  have quiet := rest pila member a listed
  have served := (held.hilos pila member).2 a listed
  cases a with
  | esperar_io t' d q =>
    obtain ⟨rfl,rfl⟩ : t' = t ∧ q = p := by simpa [atiende] using holds
    exact ⟨d,by simpa [reposa] using quiet,pila,member,served t' d rfl,_,listed,rfl,holds⟩
  | ejecutar_io_stdin d q =>
    obtain ⟨rfl,rfl⟩ : t = .STDIN ∧ q = p := by simpa [atiende] using holds
    exact ⟨d,by simpa [reposa] using quiet,pila,member,served .STDIN d rfl,_,listed,rfl,holds⟩
  | manejar_io | encolar_pedido_io | pedir | recibir | manejar_fin_io | mover_proceso_de_block_a_ready | mover_a_susp_ready =>
    cases quiet
  | _ => cases holds

/-- A process that is blocked for IO is in the queue of its type or in the hands of a thread that goes on with its request;
    and where no thread is between steps it is in the queue, or a device of the type that has not dropped serves it. -/
theorem io_not_lost {cfg : Config} {labels : List Suceso} {s : Vigilado} {p : Nat} {t : TipoIo}
    (guarded : Guarded (paso_io cfg) (fun l s => pedidos_contestados l s = true) labels inicio)
    (reached : run (paso_io cfg) labels inicio = some s) (why : s.motivo p = some t)
    (blocked : bloqueado (s.sistema.ks.procesos p).estado = true) :
    (p ∈ s.sistema.ks.cola_espera_io t ∨ Pending (fun a => atiende t p a = true) s.sistema.hilos) ∧
      (Every (fun a => reposa s.cerrados a = true) s.sistema.hilos → p ∈ s.sistema.ks.cola_espera_io t ∨ Servido s t p) := by
  have held : EnServicio s :=
    invariant_of_guarded (fun _ _ _ held answers moved => paso_io_en_servicio held answers moved) inicio_en_servicio guarded reached
  have kept := held.pedido p t why blocked
  exact ⟨kept,fun rest => kept.imp_right (reposa_servido held rest)⟩

theorem io_not_lost_siesta : ∃ s, run (paso_io fifo) (siesta.map .hilo) inicio = some s ∧ s.motivo 0 = some .SLEEP ∧
    bloqueado (s.sistema.ks.procesos 0).estado = true ∧
    (0 ∈ s.sistema.ks.cola_espera_io .SLEEP ∨ Pending (fun a => atiende .SLEEP 0 a = true) s.sistema.hilos) ∧
      (Every (fun a => reposa s.cerrados a = true) s.sistema.hilos → 0 ∈ s.sistema.ks.cola_espera_io .SLEEP ∨ Servido s .SLEEP 0) := by
  have ends : (run (paso_io fifo) (siesta.map .hilo) inicio).map
      (fun s => (s.motivo 0,bloqueado (s.sistema.ks.procesos 0).estado)) = some (some .SLEEP,true) := by decide
  obtain ⟨s,reached,ends⟩ := Option.map_eq_some_iff.mp ends
  obtain ⟨why,blocked⟩ := Prod.mk.inj ends
  exact ⟨s,reached,why,blocked,io_not_lost (by decide) reached why blocked⟩

/-- The device drops while it serves the request. -/
def corte_de_io : List Suceso := siesta.map .hilo ++ [.se_va 1,.hilo { hilo := 5, entrada := .respuesta_io false }]

/-- The process stays blocked, no thread is between steps, and its request is nowhere. -/
theorem io_lost : ∃ s, run (paso_io fifo) corte_de_io inicio = some s ∧ s.motivo 0 = some .SLEEP ∧
    bloqueado (s.sistema.ks.procesos 0).estado = true ∧ Every (fun a => reposa s.cerrados a = true) s.sistema.hilos ∧
      0 ∉ s.sistema.ks.cola_espera_io .SLEEP ∧ ¬ Servido s .SLEEP 0 := by
  have ends : (run (paso_io fifo) corte_de_io inicio).map (fun s => (s.motivo 0,bloqueado (s.sistema.ks.procesos 0).estado,
      s.sistema.hilos.all (fun pila => pila.all (reposa s.cerrados)),s.sistema.ks.cola_espera_io .SLEEP,
      s.sistema.hilos.all (fun pila => pila.all (fun a => !atiende .SLEEP 0 a)))) = some (some .SLEEP,true,true,[],true) := by decide
  obtain ⟨s,reached,ends⟩ := Option.map_eq_some_iff.mp ends
  obtain ⟨why,ends⟩ := Prod.mk.inj ends
  obtain ⟨blocked,ends⟩ := Prod.mk.inj ends
  obtain ⟨rest,ends⟩ := Prod.mk.inj ends
  obtain ⟨empty,none⟩ := Prod.mk.inj ends
  refine ⟨s,reached,why,blocked,every_of_all rest,by simp [empty],?_⟩
  rintro ⟨d,_,pila,member,_,a,listed,_,holds⟩
  have idle := every_of_all none pila member a listed
  simp [holds] at idle

end PlugNPray.IoRequests
