import PlugNPray.MutexPriorities

/-!
The queues of the user mutexes over whole runs: who waits where, who owns what he
waits for, and in which order a mutex goes round.
-/
namespace PlugNPray.Waiting
open PlugNPray.Scheduler PlugNPray.Handlers PlugNPray.ReadyQueues PlugNPray.Moves PlugNPray.Stacks PlugNPray.Runs PlugNPray.Places
open PlugNPray.MutexOwners hiding espera
open PlugNPray.References PlugNPray.Priorities
open PlugNPray.MutexPriorities (Ordenada espera here_con_mutex)

/-! ## What is seen of a run -/

def cola (s : Ks) (j : Nat) : List Nat := ((s.lista_mutex[j]?).map Mutex.cola_espera).getD []

def no_espera (s : Ks) (p : Nat) : Bool := s.lista_mutex.all (fun m => p ∉ m.cola_espera)

/-- The process that terminates with the move. -/
def mata (a : Accion) (e : Entrada) (s : Ks) : Option Nat :=
  match a with
  | .manejar_proceso_exit _ | .manejar_seg_fault _ => e.pid?.bind (buscar_proceso_en_exec s)
  | _ => none

/-- The LOCK that the move puts on the queue of mutex `j`. -/
def encola (a : Accion) (e : Entrada) (s : Ks) (j : Nat) : List Nat :=
  match a, e.cadena?.bind (buscar_mutex s) with
  | .manejar_mutex_lock p _, some (i,m) => if i = j ∧ m.pid_dueno ≠ none then [p] else []
  | _, _ => []

/-- The waiter that the move from `s` to `t` grants mutex `j` to: the queue got shorter, and he is the owner. -/
def concede (s t : Ks) (j : Nat) : List Nat := if (cola t j).length < (cola s j).length then (dueno t j).toList else []

structure Vigilado where
  sistema : Planificador
  /-- The processes that have terminated. -/
  muertos : List Nat
  /-- The LOCKs that were queued for each mutex, in order. -/
  pedidos : Nat → List Nat
  /-- The waiters that were granted each mutex, in order. -/
  concedidos : Nat → List Nat

def vigila (cfg : Config) (l : Paso) (v : Vigilado) : Option Vigilado :=
  (paso cfg l v.sistema).map (fun t => {
    sistema := t
    muertos := ((cima v.sistema l.hilo).bind (fun a => mata a l.entrada v.sistema.ks)).toList ++ v.muertos
    pedidos := fun j => v.pedidos j ++ ((cima v.sistema l.hilo).map (fun a => encola a l.entrada v.sistema.ks j)).getD []
    concedidos := fun j => v.concedidos j ++ concede v.sistema.ks t.ks j })

def inicio : Vigilado where
  sistema := inicial
  muertos := []
  pedidos := fun _ => []
  concedidos := fun _ => []

/-- A process locks a mutex, or dies, only while it waits for none, and the dead lock nothing. MUTEX_CREATE and
    MUTEX_UNLOCK need no condition. -/
def en_regla (muertos : List Nat) (a : Accion) (e : Entrada) (s : Ks) : Bool :=
  match a with
  | .manejar_mutex_lock p _ => no_espera s p && p ∉ muertos
  | _ => (mata a e s).all (no_espera s)

def Regla (l : Paso) (v : Vigilado) : Prop := al_mover (en_regla v.muertos) l v.sistema = true

instance (l : Paso) (v : Vigilado) : Decidable (Regla l v) := inferInstanceAs (Decidable (_ = true))

variable {cfg : Config} {hora : Nat} {s t : Ks} {p q j : Nat} {a : Accion} {e : Entrada}

theorem no_espera_iff : no_espera s p = true ↔ ∀ i, ¬ espera s i p := by
  simp only [no_espera,List.all_eq_true,decide_eq_true_eq]
  constructor
  · rintro none i ⟨m,here,waits⟩
    exact none m (List.mem_of_getElem? here) waits
  · intro none m member waits
    obtain ⟨i,here⟩ := List.getElem?_of_mem member
    exact none i ⟨m,here,waits⟩

theorem cola_of_here {m : Mutex} (here : s.lista_mutex[j]? = some m) : cola s j = m.cola_espera := by
  simp [cola,here]

/-! ## What a move does to one mutex -/

inductive Cambio (a : Accion) (e : Entrada) (s t : Ks) (j : Nat) : Prop where
  | igual (same : t.lista_mutex[j]? = s.lista_mutex[j]?) (quiet : encola a e s j = [])
  | crea (nombre : String) (past : s.lista_mutex[j]? = none) (now : t.lista_mutex[j]? = some ⟨nombre,none,[]⟩)
  | toma (p k : Nat) (nombre : String) (m : Mutex) (top : a = .manejar_mutex_lock p k) (arrives : e.cadena? = some nombre)
      (found : buscar_mutex s nombre = some (j,m)) (free : m.pid_dueno = none)
      (now : t.lista_mutex[j]? = some { m with pid_dueno := some p })
  | encola (p k : Nat) (nombre : String) (m : Mutex) (top : a = .manejar_mutex_lock p k) (arrives : e.cadena? = some nombre)
      (found : buscar_mutex s nombre = some (j,m)) (taken : m.pid_dueno ≠ none)
      (now : t.lista_mutex[j]? = some { m with cola_espera := m.cola_espera ++ [p] })
  | suelta (m : Mutex) (other : ∀ p k, a ≠ .manejar_mutex_lock p k) (here : s.lista_mutex[j]? = some m) (empty : m.cola_espera = [])
      (now : t.lista_mutex[j]? = some { m with pid_dueno := none })
  | cede (m : Mutex) (q : Nat) (rest : List Nat) (other : ∀ p k, a ≠ .manejar_mutex_lock p k) (here : s.lista_mutex[j]? = some m)
      (queue : m.cola_espera = q :: rest) (now : t.lista_mutex[j]? = some { m with pid_dueno := some q, cola_espera := rest })

theorem encola_otra (other : ∀ p k, a ≠ .manejar_mutex_lock p k) (j : Nat) : encola a e s j = [] := by
  unfold encola
  split
  case h_1 p k i m _ => exact absurd rfl (other p k)
  case h_2 => rfl

theorem encola_lejos {k i : Nat} {nombre : String} {m : Mutex} (arrives : e.cadena? = some nombre)
    (found : buscar_mutex s nombre = some (i,m)) (far : i ≠ j) : encola (.manejar_mutex_lock p k) e s j = [] := by
  simp [encola,arrives,found,far]

theorem Cambio.of_mutexes (other : ∀ p k, a ≠ .manejar_mutex_lock p k) (same : t.lista_mutex = s.lista_mutex) (j : Nat) :
    Cambio a e s t j :=
  .igual (by rw [same]) (encola_otra other j)

/-- One mutex gets another record. -/
theorem cambio_modify {i : Nat} {f : Mutex → Mutex} (same : t.lista_mutex = s.lista_mutex.modify i f) (here : Cambio a e s t i)
    (quiet : ∀ j, i ≠ j → encola a e s j = []) (j : Nat) : Cambio a e s t j := by
  by_cases eq : i = j
  · exact eq ▸ here
  · exact .igual (by rw [same,List.getElem?_modify_ne _ _ eq]) (quiet j eq)

theorem modify_here {i : Nat} {f : Mutex → Mutex} {m : Mutex} (same : t.lista_mutex = s.lista_mutex.modify i f)
    (here : s.lista_mutex[i]? = some m) : t.lista_mutex[i]? = some (f m) := by
  rw [same]
  simp [here]

/-- The loop over the mutexes of a dead process, up to mutex `i`. -/
theorem recorrido_cambio (pid : Nat) (s : Ks) (other : ∀ p k, a ≠ .manejar_mutex_lock p k) :
    Recorrido cfg hora pid (fun i t => (∀ j, j < i → Cambio a e s t j) ∧ ∀ j, i ≤ j → t.lista_mutex[j]? = s.lista_mutex[j]?)
      (fun t _ => ∀ j, Cambio a e s t j) := by
  have all : ∀ {i : Nat} {t : Ks}, (∀ j, j < i → Cambio a e s t j) → (∀ j, i ≤ j → t.lista_mutex[j]? = s.lista_mutex[j]?) →
      ∀ j, Cambio a e s t j :=
    fun past ahead j => (lt_or_ge j _).elim (past j) (fun later => .igual (ahead j later) (encola_otra other j))
  -- Mutex `i` gets another record.
  have next : ∀ {i : Nat} {t u : Ks} {f : Mutex → Mutex} {m : Mutex}, (∀ j, j < i → Cambio a e s t j) →
      (∀ j, i ≤ j → t.lista_mutex[j]? = s.lista_mutex[j]?) → t.lista_mutex[i]? = some m → u.lista_mutex = t.lista_mutex.modify i f →
      (s.lista_mutex[i]? = some m → u.lista_mutex[i]? = some (f m) → Cambio a e s u i) →
      (∀ j, j < i + 1 → Cambio a e s u j) ∧ ∀ j, i + 1 ≤ j → u.lista_mutex[j]? = s.lista_mutex[j]? := by
    intro i t u f m past ahead here same mine
    have far : ∀ j, j ≠ i → u.lista_mutex[j]? = t.lista_mutex[j]? := fun j far => by rw [same,List.getElem?_modify_ne _ _ far.symm]
    refine ⟨fun j before => ?_,fun j later => (far j (by omega)).trans (ahead j (by omega))⟩
    rcases Nat.lt_succ_iff_lt_or_eq.mp before with less | rfl
    · have old := far j (by omega)
      cases past j less with
      | igual kept quiet => exact .igual (old.trans kept) quiet
      | crea nombre none now => exact .crea nombre none (old.trans now)
      | toma p k nombre m top => exact absurd top (other p k)
      | encola p k nombre m top => exact absurd top (other p k)
      | suelta m _ here empty now => exact .suelta m other here empty (old.trans now)
      | cede m q rest _ here queue now => exact .cede m q rest other here queue (old.trans now)
    · exact mine ((ahead j (le_refl j)).symm.trans here) (modify_here same here)
  refine {
    acaba := fun i t start _ => all start.1 start.2
    pasa := fun t i m start here owned => ?_
    suelta := fun t i m start here owned empty =>
      next start.1 start.2 here rfl (fun here' now => .suelta m other here' empty now)
    pausa := fun t i m siguiente espera start here owned queue _ => ?_
    sigue := fun t i m siguiente espera r start here owned queue _ what => ?_ }
  · refine ⟨fun j before => ?_,fun j later => start.2 j (by omega)⟩
    rcases Nat.lt_succ_iff_lt_or_eq.mp before with less | rfl
    · exact start.1 j less
    · exact .igual (start.2 j (le_refl j)) (encola_otra other j)
  · have same : (heredar_mutex cfg i siguiente espera t).1.lista_mutex = _ := heredar_mutex_mutex
    have done := next start.1 start.2 here same (fun here' now => .cede m siguiente espera other here' queue now)
    exact all done.1 done.2
  · have same : r.1.lista_mutex = _ := (despierta_mutex what).trans heredar_mutex_mutex
    have done := next start.1 start.2 here same
      (fun here' now => .cede m siguiente espera other here' queue now)
    exact ⟨fun _ => done,fun _ => all done.1 done.2⟩

theorem efecto_cambio {r : Efecto} (effect : efecto cfg hora e a s = some r) (j : Nat) : Cambio a e s r.ks j := by
  by_cases locks : ∃ p k, a = .manejar_mutex_lock p k
  · obtain ⟨p,k,rfl⟩ := locks
    obtain ⟨nombre,arrives,rfl⟩ := Option.map_eq_some_iff.mp effect
    have what := manejar_mutex_lock_cases cfg p k nombre s
    generalize manejar_mutex_lock cfg p k nombre s = d at what ⊢
    cases what with
    | desconocido missing => exact .igual rfl (by simp [encola,arrives,missing])
    | libre i m found free =>
      have same : (s.con_mutex i (fun m => { m with pid_dueno := some p })).lista_mutex = _ := rfl
      exact cambio_modify same (.toma p k nombre m rfl arrives found free (modify_here same (here_of_buscar found)))
        (fun _ => encola_lejos arrives found) j
    | espera i pid m r found taken what =>
      have same : r.1.lista_mutex = s.lista_mutex.modify i (fun m => { m with cola_espera := m.cola_espera ++ [p] }) := by
        rcases what with rfl | ⟨_,_,inherits⟩
        · rfl
        · exact herencia_mutex inherits
      exact cambio_modify same
        (.encola p k nombre m rfl arrives found (by simp [taken]) (modify_here same (here_of_buscar found)))
        (fun _ => encola_lejos arrives found) j
  have other : ∀ p k, a ≠ .manejar_mutex_lock p k := fun p k eq => locks ⟨p,k,eq⟩
  by_cases touches : MutexPriorities.toca_mutex a = false
  · exact .of_mutexes other (MutexPriorities.mueve_quieta (efecto_mueve effect) touches).mutexes j
  have cedes : ∀ {i siguiente : Nat} {espera : List Nat} {nombre : String} {m : Mutex} {t : Ks},
      buscar_mutex s nombre = some (i,m) → m.cola_espera = siguiente :: espera →
      t.lista_mutex = s.lista_mutex.modify i (fun m => { m with pid_dueno := some siguiente, cola_espera := espera }) →
      Cambio a e s t j :=
    fun found queue same => cambio_modify same
      (.cede _ _ _ other (here_of_buscar found) queue (modify_here same (here_of_buscar found))) (fun j _ => encola_otra other j) j
  have move := efecto_mueve effect
  cases move with
  | lock_desconocido | lock_libre | lock_espera => exact absurd ⟨_,_,rfl⟩ locks
  | crear_proceso_inicial | manejar_init_proc => exact .igual rfl (encola_otra other j)
  | unlock_desconocido => exact .igual rfl (encola_otra other j)
  | agregar_mutex nombre =>
    rcases lt_trichotomy j s.lista_mutex.length with inside | rfl | past
    · exact .igual (List.getElem?_append_left inside) (encola_otra other j)
    · exact .crea nombre (List.getElem?_eq_none (le_refl _)) (by simp)
    · exact .igual (by rw [List.getElem?_eq_none past.le,List.getElem?_eq_none]; simpa using past) (encola_otra other j)
  | unlock_sin_espera q k i nombre m t found empty what =>
    have same := devolucion_mutex what
    exact cambio_modify same (.suelta m other (here_of_buscar found) empty (modify_here same (here_of_buscar found)))
      (fun j _ => encola_otra other j) j
  | unlock_cede q k i siguiente espera nombre m t r found queue what d inherits silent wakes =>
    have mutexes : d.ks.lista_mutex = r.1.lista_mutex := by cases wakes <;> rfl
    exact cedes found queue (mutexes.trans ((herencia_mutex inherits).trans (devolucion_mutex what)))
  | unlock_pausa q k i siguiente espera nombre m t r found queue what inherits pausa =>
    exact cedes found queue ((herencia_mutex inherits).trans (devolucion_mutex what))
  | liberar_mutex_del_proceso pid i =>
    exact liberar_rule (recorrido_cambio pid s other) i ⟨fun j _ => .of_mutexes other rfl j,fun _ _ => rfl⟩ j
  | ceder_mutex pid i q r what silent =>
    have same := despierta_mutex what
    exact liberar_rule (recorrido_cambio pid s other) (i + 1) ⟨fun j _ => .of_mutexes other same j,fun _ _ => by rw [same]⟩ j
  | ceder_mutex_pausa pid i q r what pausa => exact .of_mutexes other (despierta_mutex what) j
  | _ => exact absurd rfl touches

namespace Cambio

/-- Conservation: what was queued, with the LOCK of this move, is what is granted and what is left. -/
theorem fila (change : Cambio a e s t j) : cola s j ++ Waiting.encola a e s j = concede s t j ++ cola t j := by
  cases change with
  | igual same quiet =>
    have queue : cola t j = cola s j := by rw [cola,same,cola]
    simp [quiet,concede,queue]
  | crea nombre past now =>
    have missing : Waiting.encola a e s j = [] := by
      unfold Waiting.encola
      split
      case h_1 p k i m found =>
        obtain ⟨nombre,_,found⟩ := Option.bind_eq_some_iff.mp found
        rw [if_neg]
        rintro ⟨rfl,_⟩
        rw [here_of_buscar found] at past
        cases past
      case h_2 => rfl
    simp [missing,concede,cola,past,now]
  | toma p k nombre m top arrives found free now =>
    have here := here_of_buscar found
    simp [top,Waiting.encola,arrives,found,free,concede,cola,here,now]
  | encola p k nombre m top arrives found taken now =>
    have here := here_of_buscar found
    simp [top,Waiting.encola,arrives,found,taken,concede,cola,here,now]
  | suelta m other here empty now => simp [encola_otra other,concede,cola,here,empty,now]
  | cede m q rest other here queue now => simp [encola_otra other,concede,cola,here,queue,now,dueno]

/-- Who waits after the move waited before, or his is the LOCK that was queued. -/
theorem waits_of (change : Cambio a e s t j) (waits : espera t j q) :
    espera s j q ∨ ∃ k nombre m, a = .manejar_mutex_lock q k ∧ e.cadena? = some nombre ∧ buscar_mutex s nombre = some (j,m) := by
  obtain ⟨m',now',queued⟩ := waits
  cases change with
  | igual same => exact .inl ⟨m',same ▸ now',queued⟩
  | crea nombre past now =>
    cases now.symm.trans now'
    cases queued
  | toma p k nombre m top arrives found free now =>
    cases now.symm.trans now'
    exact .inl ⟨m,here_of_buscar found,queued⟩
  | encola p k nombre m top arrives found taken now =>
    cases now.symm.trans now'
    rcases List.mem_append.mp queued with old | new
    · exact .inl ⟨m,here_of_buscar found,old⟩
    · exact .inr ⟨k,nombre,m,List.mem_singleton.mp new ▸ top,arrives,found⟩
  | suelta m other here empty now =>
    cases now.symm.trans now'
    exact .inl ⟨m,here,queued⟩
  | cede m q' rest other here queue now =>
    cases now.symm.trans now'
    exact .inl ⟨m,here,by rw [queue]; exact List.mem_cons_of_mem q' queued⟩

/-- Who owns the mutex after the move owned it before, waited for it, or locks it. -/
theorem owner_of (change : Cambio a e s t j) (owned : dueno t j = some p) :
    dueno s j = some p ∨ espera s j p ∨ ∃ k, a = .manejar_mutex_lock p k := by
  cases change with
  | igual same => exact .inl (by rwa [dueno,← same])
  | crea nombre past now =>
    rw [dueno_of_here now] at owned
    cases owned
  | toma p' k nombre m top arrives found free now =>
    rw [dueno_of_here now] at owned
    cases owned
    exact .inr (.inr ⟨k,top⟩)
  | encola p' k nombre m top arrives found taken now =>
    rw [dueno_of_here now] at owned
    exact .inl ((dueno_of_here (here_of_buscar found)).trans owned)
  | suelta m other here empty now =>
    rw [dueno_of_here now] at owned
    cases owned
  | cede m q rest other here queue now =>
    rw [dueno_of_here now] at owned
    cases owned
    exact .inr (.inl ⟨m,here,by simp [queue]⟩)

end Cambio

/-- A process that locks waits for nothing: then the queues stay in order. -/
theorem ordenada_of_cambio (changes : ∀ j, Cambio a e s t j) (ordered : Ordenada s)
    (fresh : ∀ p k, a = .manejar_mutex_lock p k → ∀ i, ¬ espera s i p) : Ordenada t := by
  refine ⟨fun i i' q first second => ?_,fun m' member => ?_,fun m' member => ?_⟩
  · rcases (changes i).waits_of first with old | ⟨k,nombre,m,top,arrives,found⟩
    · rcases (changes i').waits_of second with old' | ⟨k,nombre,m,top,_,_⟩
      · exact ordered.una i i' q old old'
      · exact absurd old (fresh q k top i)
    · rcases (changes i').waits_of second with old' | ⟨k',nombre',m',_,arrives',found'⟩
      · exact absurd old' (fresh q k top i')
      · cases arrives.symm.trans arrives'
        cases found.symm.trans found'
        rfl
  · obtain ⟨j,now'⟩ := List.getElem?_of_mem member
    cases changes j with
    | igual same => exact ordered.sin_repetir m' (List.mem_of_getElem? (same ▸ now'))
    | crea nombre past now =>
      cases now.symm.trans now'
      exact List.nodup_nil
    | toma p k nombre m top arrives found free now =>
      cases now.symm.trans now'
      exact ordered.sin_repetir m (List.mem_of_getElem? (here_of_buscar found))
    | encola p k nombre m top arrives found taken now =>
      cases now.symm.trans now'
      have here := here_of_buscar found
      refine List.Nodup.append (ordered.sin_repetir m (List.mem_of_getElem? here)) (List.nodup_singleton p) ?_
      simpa using fun waits => fresh p k top j ⟨m,here,waits⟩
    | suelta m other here empty now =>
      cases now.symm.trans now'
      exact ordered.sin_repetir m (List.mem_of_getElem? here)
    | cede m q rest other here queue now =>
      cases now.symm.trans now'
      have once := ordered.sin_repetir m (List.mem_of_getElem? here)
      rw [queue] at once
      exact once.of_cons
  · obtain ⟨j,now'⟩ := List.getElem?_of_mem member
    intro unowned
    cases changes j with
    | igual same => exact ordered.libre m' (List.mem_of_getElem? (same ▸ now')) unowned
    | crea nombre past now =>
      cases now.symm.trans now'
      rfl
    | toma p k nombre m top arrives found free now =>
      cases now.symm.trans now'
      cases unowned
    | encola p k nombre m top arrives found taken now =>
      cases now.symm.trans now'
      exact absurd unowned taken
    | suelta m other here empty now =>
      cases now.symm.trans now'
      exact empty
    | cede m q rest other here queue now =>
      cases now.symm.trans now'
      cases unowned

/-! ## The mutexes of the dead -/

/-- The action leads to the release of mutex `j`, if the dead process `p` has it. -/
def limpia (p j : Nat) : Accion → Bool
  | .pedir (.finalizar_proceso q _) | .recibir (.finalizar_proceso q _) => q = p
  | .liberar_mutex_del_proceso q i => q = p && i ≤ j
  | .ceder_mutex q i _ => q = p && i < j
  | _ => false

theorem muerte_of_limpia {b : Accion} (cleans : limpia p j b = true) : de_muerte p b = true := by
  cases b <;> simp_all [limpia,de_muerte]
  case pedir q => cases q <;> simp_all
  case recibir q => cases q <;> simp_all

/-- A mutex that the loop has left to the dead process is still before it. -/
def Debe (p i : Nat) (t : Ks) (pila : Pila) : Prop := ∀ j, i ≤ j → dueno t j = some p → ∃ b ∈ pila, limpia p j b = true

theorem recorrido_debe (p i₀ : Nat) :
    Recorrido cfg hora p (fun i t => (∀ j, i₀ ≤ j → j < i → dueno t j ≠ some p) ∧ ∀ j, ¬ espera t j p) (Debe p i₀) := by
  -- Mutex `i` changes hands, and `p` does not get it.
  have next : ∀ {i : Nat} {t u : Ks} {f : Mutex → Mutex} {m : Mutex}, (∀ j, i₀ ≤ j → j < i → dueno t j ≠ some p) →
      (∀ j, ¬ espera t j p) → t.lista_mutex[i]? = some m → u.lista_mutex = t.lista_mutex.modify i f → (f m).pid_dueno ≠ some p →
      (∀ q ∈ (f m).cola_espera, q ∈ m.cola_espera) → (∀ j, i₀ ≤ j → j < i + 1 → dueno u j ≠ some p) ∧ ∀ j, ¬ espera u j p := by
    intro i t u f m done waits here same owner queue
    have far : ∀ j, j ≠ i → u.lista_mutex[j]? = t.lista_mutex[j]? := fun j far => by rw [same,List.getElem?_modify_ne _ _ far.symm]
    have now := modify_here same here
    refine ⟨fun j from_start before => ?_,fun j => ?_⟩
    · rcases Nat.lt_succ_iff_lt_or_eq.mp before with less | rfl
      · have kept : dueno u j = dueno t j := by rw [dueno,far j (by omega),dueno]
        exact kept ▸ done j from_start less
      · rwa [dueno_of_here now]
    · rintro ⟨m',there,queued⟩
      by_cases eq : j = i
      · subst eq
        cases now.symm.trans there
        exact waits j ⟨m,here,queue p queued⟩
      · exact waits j ⟨m',(far j eq).symm.trans there,queued⟩
  have gives : ∀ {i siguiente : Nat} {espera : List Nat} {t u : Ks} {m : Mutex}, (∀ j, i₀ ≤ j → j < i → dueno t j ≠ some p) →
      (∀ j, ¬ MutexPriorities.espera t j p) → t.lista_mutex[i]? = some m → m.cola_espera = siguiente :: espera →
      u.lista_mutex = t.lista_mutex.modify i (fun m => { m with pid_dueno := some siguiente, cola_espera := espera }) →
      (∀ j, i₀ ≤ j → j < i + 1 → dueno u j ≠ some p) ∧ ∀ j, ¬ MutexPriorities.espera u j p := by
    intro i siguiente espera t u m done waits here queue same
    refine next done waits here same ?_ (fun q member => by rw [queue]; exact List.mem_cons_of_mem siguiente member)
    rintro eq
    cases eq
    exact waits i ⟨m,here,by simp [queue]⟩
  refine {
    acaba := fun i t start past j from_start owned => ?_
    pasa := fun t i m start here other => ⟨fun j from_start before => ?_,start.2⟩
    suelta := fun t i m start here owned empty => next start.1 start.2 here rfl (by simp) (fun q => id)
    pausa := fun t i m siguiente espera start here owned queue _ j from_start held => ?_
    sigue := fun t i m siguiente espera r start here owned queue _ what => ?_ }
  · rcases lt_or_ge j i with before | later
    · exact absurd owned (start.1 j from_start before)
    · rw [dueno,List.getElem?_eq_none ((List.getElem?_eq_none_iff.mp past).trans later)] at owned
      cases owned
  · rcases Nat.lt_succ_iff_lt_or_eq.mp before with less | rfl
    · exact start.1 j from_start less
    · rwa [dueno_of_here here]
  · have same : (heredar_mutex cfg i siguiente espera t).1.lista_mutex = _ := heredar_mutex_mutex
    have done := gives start.1 start.2 here queue same
    have later : i < j := by
      by_contra before
      exact done.1 j from_start (by omega) held
    exact ⟨.ceder_mutex p i siguiente,by simp,by simp [limpia,later]⟩
  · have same : r.1.lista_mutex = _ := (despierta_mutex what).trans heredar_mutex_mutex
    have done := gives start.1 start.2 here queue same
    refine ⟨fun _ => done,fun _ j from_start held => ?_⟩
    have later : i + 1 ≤ j := by
      by_contra before
      exact done.1 j from_start (by omega) held
    exact ⟨.liberar_mutex_del_proceso p (i + 1),by simp,by simpa [limpia] using later⟩

/-- The release goes on until the dead process has no mutex. -/
theorem efecto_debe {r : Efecto} (effect : efecto cfg hora e a s = some r) (free : ∀ i, ¬ espera s i p) (cleans : limpia p j a = true)
    (owned : dueno r.ks j = some p) : ∃ b ∈ r.sigue, limpia p j b = true := by
  have move := efecto_mueve effect
  cases move with
  | pedir q quiet => exact ⟨.recibir q,by simp,by cases q <;> simp_all [limpia]⟩
  | recibir q v =>
    cases q with
    | finalizar_proceso q k =>
      exact ⟨.liberar_mutex_del_proceso q 0,by simp [tras_respuesta],by simpa [limpia] using cleans⟩
    | _ => cases cleans
  | liberar_mutex_del_proceso pid i =>
    simp only [limpia,Bool.and_eq_true,decide_eq_true_eq] at cleans
    obtain ⟨rfl,start⟩ := cleans
    exact liberar_rule (recorrido_debe pid i) i ⟨fun j from_start before => absurd before (by omega),free⟩ j start owned
  | ceder_mutex pid i q r what silent =>
    simp only [limpia,Bool.and_eq_true,decide_eq_true_eq] at cleans
    obtain ⟨rfl,start⟩ := cleans
    have free' : ∀ j, ¬ espera r.1 j pid := by
      have same : espera r.1 = espera s := by
        unfold espera
        rw [despierta_mutex what]
      exact same ▸ free
    exact liberar_rule (recorrido_debe pid (i + 1)) (i + 1) ⟨fun j from_start before => absurd before (by omega),free'⟩ j start owned
  | ceder_mutex_pausa pid i q r what pausa =>
    simp only [limpia,Bool.and_eq_true,decide_eq_true_eq] at cleans
    obtain ⟨rfl,start⟩ := cleans
    exact ⟨.liberar_mutex_del_proceso pid (i + 1),by simp,by simpa [limpia] using start⟩
  | _ => cases cleans

/-! ## The processes there are -/

theorem proximo_pid_ajena : Ajena Ks.proximo_pid := fun _ _ _ _ _ => rfl

theorem mueve_pids {r : Efecto} (move : Mueve cfg hora s a r) (created : a ≠ .crear_proceso_inicial ∧ ∀ k, a ≠ .manejar_init_proc k) :
    r.ks.proximo_pid = s.proximo_pid := by
  have far := proximo_pid_ajena
  cases move with
  | crear_proceso_inicial => exact absurd rfl created.1
  | manejar_init_proc k prioridad => exact absurd rfl (created.2 k)
  | desconectar_ociosa k idle => unfold quitar_cpu_libre; split_ifs <;> rfl
  | desconectar_ocupada k p busy desaloja one =>
    have pids : (quitar_cpu_libre k s).proximo_pid = s.proximo_pid := by unfold quitar_cpu_libre; split_ifs <;> rfl
    simpa using pids
  | liberar_mutex_del_proceso pid i => exact liberar_ajena far cfg hora pid i s
  | ceder_mutex pid i p r what silent => exact (liberar_ajena far cfg hora pid (i + 1) r.1).trans (despierta_ajena far what)
  | ceder_mutex_pausa pid i p r what pausa => exact despierta_ajena far what
  | lock_espera p k j pid nombre m r found taken what =>
    rcases what with rfl | ⟨cmn,owner,inherits⟩
    · rfl
    · exact (herencia_ajena far inherits).trans rfl
  | unlock_sin_espera p k j nombre m t found empty what => exact (devolucion_ajena far what).trans rfl
  | unlock_cede p k j siguiente espera nombre m t r found queue what d inherits silent wakes =>
    have same : d.ks.proximo_pid = r.1.proximo_pid := by cases wakes <;> rfl
    exact same.trans ((herencia_ajena far inherits).trans ((devolucion_ajena far what).trans rfl))
  | unlock_pausa p k j siguiente espera nombre m t r found queue what inherits pausa =>
    exact (herencia_ajena far inherits).trans ((devolucion_ajena far what).trans rfl)
  | despertar_siguiente p d wakes => cases wakes <;> rfl
  | _ => rfl

/-- Every pid that can be reached, or owns a mutex, was given to a process. -/
structure Nacidos (s : Planificador) : Prop where
  juego : EnJuego (fun p => p < s.ks.proximo_pid) s.ks
  pendiente : Every (Tiene (fun p => p < s.ks.proximo_pid)) s.hilos
  nacientes : Every (fun a => ∀ p, naciente a = some p → p < s.ks.proximo_pid) s.hilos
  duenos : ∀ j p, dueno s.ks j = some p → p < s.ks.proximo_pid

theorem inicial_nacidos : Nacidos inicial where
  juego := ⟨by simp [inicial],by simp [inicial],by simp [inicial],by simp [inicial]⟩
  pendiente := by simp [inicial,Every,Tiene,en_mano]
  nacientes := by simp [inicial,Every,naciente]
  duenos := by simp [inicial,dueno]

theorem crear_nacidos {s : Planificador} {resto : Pila} {i : Nat} (held : Nacidos s) (here : s.hilos[i]? = some (a :: resto))
    (k : Option Nat) (prioridad : Int) :
    Nacidos ⟨(crear_proceso k prioridad s.ks).ks,
      advance s.hilos i (crear_proceso k prioridad s.ks).sigue resto (crear_proceso k prioridad s.ks).lanza⟩ := by
  have older : ∀ p, p < s.ks.proximo_pid → p < s.ks.proximo_pid + 1 := fun p bound => by omega
  have kept := held.juego.mono older
  constructor
  · exact ⟨kept.listas,kept.espera,kept.io,kept.esperando⟩
  · exact every_advance (held.pendiente.mono (fun b named p member => older p (named p member))) here
      (by simp [crear_proceso,Tiene,en_mano,de_pedido]) (by simp [crear_proceso,Every])
  · exact every_advance (held.nacientes.mono (fun b born p new => older p (born p new))) here
      (by simp [crear_proceso,naciente]) (by simp [crear_proceso,Every])
  · exact fun j p owned => older p (held.duenos j p owned)

theorem paso_nacidos (l : Paso) (s t : Planificador) (held : Nacidos s) (moved : paso cfg l s = some t) : Nacidos t := by
  obtain ⟨a,resto,r,here,_,effect,move,rfl⟩ := paso_avanza moved
  by_cases created : a ≠ .crear_proceso_inicial ∧ ∀ k, a ≠ .manejar_init_proc k
  · have named := every_here held.pendiente here
    have born := every_here held.nacientes here
    have pids := mueve_pids move created
    constructor
    · exact pids.symm ▸ mueve_en_juego move held.juego named (fun p top _ => born p (by rw [top]; rfl))
    · exact pids.symm ▸ every_advance held.pendiente here (mueve_tiene move held.juego named) (mueve_lanza_tiene move)
    · refine pids.symm ▸ every_advance held.nacientes here (fun b next p new => ?_)
        ((lanza_naciente move).mono (fun b none p new => by rw [none] at new; cases new))
      rcases mueve_naciente move created b next with none | same
      · rw [none] at new
        cases new
      · exact born p (same ▸ new)
    · intro j p owned
      rw [pids]
      rcases (efecto_cambio effect j).owner_of owned with before | ⟨m,there,waits⟩ | ⟨k,rfl⟩
      · exact held.duenos j p before
      · exact held.juego.espera m (List.mem_of_getElem? there) p waits
      · exact named p (by simp [en_mano])
  · simp only [not_and_or,not_not,not_forall] at created
    rcases created with rfl | ⟨k,rfl⟩
    · cases move
      exact crear_nacidos held here none 0
    · cases move with
      | manejar_init_proc k prioridad => exact crear_nacidos held here (some k) prioridad

/-! ## Runs -/

structure Orden (v : Vigilado) : Prop where
  nacidos : Nacidos v.sistema
  ordenada : Ordenada v.sistema.ks
  fila : ∀ j, v.pedidos j = v.concedidos j ++ cola v.sistema.ks j
  vivos : ∀ i q, espera v.sistema.ks i q → q ∉ v.muertos
  limpian : ∀ p ∈ v.muertos, ∀ j, dueno v.sistema.ks j = some p → Pending (fun b => limpia p j b = true) v.sistema.hilos

theorem inicio_orden : Orden inicio where
  nacidos := inicial_nacidos
  ordenada := ⟨by simp [inicio,inicial,espera],by simp [inicio,inicial],by simp [inicio,inicial]⟩
  fila _ := rfl
  vivos := by simp [inicio]
  limpian := by simp [inicio]

/-- A termination starts with the request whose answer starts the release. -/
theorem mata_limpia {r : Efecto} (effect : efecto cfg hora e a s = some r) (dies : mata a e s = some p) (j : Nat) :
    ∃ b ∈ r.sigue, limpia p j b = true := by
  have starts : ∀ pid, buscar_proceso_en_exec s pid = some p → ∃ b ∈ (terminar_proceso pid s).sigue, limpia p j b = true := by
    intro pid found
    exact ⟨.pedir (.finalizar_proceso p (s.procesos p).cpu),by simp [terminar_proceso,found],by simp [limpia]⟩
  cases a with
  | manejar_proceso_exit k | manejar_seg_fault k =>
    obtain ⟨pid,arrives,rfl⟩ := Option.map_eq_some_iff.mp effect
    exact starts pid (by simpa [mata,arrives] using dies)
  | _ => cases dies

theorem vigila_orden (l : Paso) (v w : Vigilado) (held : Orden v) (rule : Regla l v) (moved : vigila cfg l v = some w) : Orden w := by
  obtain ⟨t,made,rfl⟩ := Option.map_eq_some_iff.mp moved
  obtain ⟨a,resto,r,here,_,effect,_,rfl⟩ := paso_avanza made
  have changes := efecto_cambio effect
  simp only [Regla,al_mover,cima_of_here here,Option.all_some] at rule
  have fresh : ∀ p k, a = .manejar_mutex_lock p k → (∀ i, ¬ espera v.sistema.ks i p) ∧ p ∉ v.muertos := by
    rintro p k rfl
    simpa [en_regla,no_espera_iff] using rule
  have dead : ∀ p, mata a l.entrada v.sistema.ks = some p → (∀ i, ¬ espera v.sistema.ks i p) ∧ ∀ q k, a ≠ .manejar_mutex_lock q k := by
    intro p dies
    cases a with
    | manejar_proceso_exit k | manejar_seg_fault k =>
      simp only [en_regla,dies,Option.all_some] at rule
      exact ⟨no_espera_iff.mp rule,by simp⟩
    | _ => cases dies
  constructor
  · exact paso_nacidos l _ _ held.nacidos made
  · exact ordenada_of_cambio changes held.ordenada (fun p k top => (fresh p k top).1)
  · intro j
    simp only [cima_of_here here,Option.map_some,Option.getD_some]
    calc v.pedidos j ++ encola a l.entrada v.sistema.ks j
        = v.concedidos j ++ (cola v.sistema.ks j ++ encola a l.entrada v.sistema.ks j) := by rw [held.fila j,List.append_assoc]
      _ = v.concedidos j ++ concede v.sistema.ks r.ks j ++ cola r.ks j := by rw [(changes j).fila,List.append_assoc]
  · intro i q waits
    simp only [cima_of_here here,Option.bind_some,List.mem_append,Option.mem_toList,not_or]
    rcases (changes i).waits_of waits with old | ⟨k,_,_,top,_⟩
    · exact ⟨fun dies => (dead q dies).1 i old,held.vivos i q old⟩
    · exact ⟨fun dies => (dead q dies).2 q k top,(fresh q k top).2⟩
  · intro p member j owned
    simp only [cima_of_here here,Option.bind_some,List.mem_append,Option.mem_toList] at member
    rcases member with dies | old
    · obtain ⟨b,listed,cleans⟩ := mata_limpia effect dies j
      exact pending_next here ⟨b,List.mem_append_left resto listed,cleans⟩
    · have waits : ∀ i, ¬ espera v.sistema.ks i p := fun i waits => held.vivos i p waits old
      rcases (changes j).owner_of owned with before | waiting | ⟨k,top⟩
      · rcases pending_advance (held.limpian p old j before) here with cleans | still
        · obtain ⟨b,listed,cleans⟩ := efecto_debe effect waits cleans owned
          exact pending_next here ⟨b,List.mem_append_left resto listed,cleans⟩
        · exact still
      · exact absurd waiting (waits j)
      · exact absurd old (fresh p k top).2

theorem colas_nodup (ordered : Ordenada s) : (s.lista_mutex.flatMap Mutex.cola_espera).Nodup := by
  refine List.nodup_flatMap.mpr ⟨ordered.sin_repetir,?_⟩
  refine List.pairwise_iff_getElem.mpr (fun i j inside inside' before => ?_)
  intro q first second
  have same := ordered.una i j q ⟨_,List.getElem?_eq_getElem inside,first⟩ ⟨_,List.getElem?_eq_getElem inside',second⟩
  omega

/-- In a run in which a process locks a mutex, or dies, only while it waits for none: a free mutex has no queue, the owner of
    a mutex has not terminated, unless a thread is still in the middle of that, no process waits twice, and the waiters of a
    mutex are granted it in the order of their LOCKs. -/
theorem mutex_waiting {moves : List Paso} {v : Vigilado} (guarded : Guarded (vigila cfg) Regla moves inicio)
    (reached : run (vigila cfg) moves inicio = some v) :
    (∀ m ∈ v.sistema.ks.lista_mutex, m.pid_dueno = none → m.cola_espera = []) ∧
      (∀ m ∈ v.sistema.ks.lista_mutex, ∀ p, m.pid_dueno = some p → p < v.sistema.ks.proximo_pid ∧ (Vivo p v.sistema → p ∉ v.muertos)) ∧
      (v.sistema.ks.lista_mutex.flatMap Mutex.cola_espera).Nodup ∧
      ∀ j, v.pedidos j = v.concedidos j ++ cola v.sistema.ks j := by
  have held := invariant_of_guarded vigila_orden inicio_orden guarded reached
  refine ⟨held.ordenada.libre,fun m member p owned => ?_,colas_nodup held.ordenada,held.fila⟩
  obtain ⟨j,here⟩ := List.getElem?_of_mem member
  have has : dueno v.sistema.ks j = some p := (dueno_of_here here).trans owned
  refine ⟨held.nacidos.duenos j p has,fun rest dead => ?_⟩
  obtain ⟨pila,listed,b,inside,cleans⟩ := held.limpian p dead j has
  have alive : de_muerte p b = false := rest pila listed b inside
  rw [muerte_of_limpia cleans] at alive
  cases alive

/-- Process 0 dies with the mutex, and process 1, which waits for it, gets it. -/
def muerte_con_espera : List Paso := candado ++ [{ hilo := 3, entrada := .codigo .proceso_exit },{ hilo := 3 },
  { hilo := 3, entrada := .pid 0 },{ hilo := 3 },{ hilo := 3, entrada := .respuesta .OK },{ hilo := 3 }]

theorem mutex_waiting_muerte : ∃ v, run (vigila fifo) muerte_con_espera inicio = some v ∧ v.muertos = [0] ∧ v.concedidos 0 = [1] ∧
    (∀ m ∈ v.sistema.ks.lista_mutex, m.pid_dueno = none → m.cola_espera = []) ∧
    (∀ m ∈ v.sistema.ks.lista_mutex, ∀ p, m.pid_dueno = some p → p < v.sistema.ks.proximo_pid ∧ (Vivo p v.sistema → p ∉ v.muertos)) ∧
    (v.sistema.ks.lista_mutex.flatMap Mutex.cola_espera).Nodup ∧
    ∀ j, v.pedidos j = v.concedidos j ++ cola v.sistema.ks j := by
  have ends : (run (vigila fifo) muerte_con_espera inicio).map (fun v => (v.muertos,v.concedidos 0)) = some ([0],[1]) := by decide +kernel
  obtain ⟨v,reached,ends⟩ := Option.map_eq_some_iff.mp ends
  obtain ⟨dead,granted⟩ := Prod.mk.inj ends
  have guarded : Guarded (vigila fifo) Regla muerte_con_espera inicio := by decide +kernel
  exact ⟨v,reached,dead,granted,mutex_waiting guarded reached⟩

end PlugNPray.Waiting
