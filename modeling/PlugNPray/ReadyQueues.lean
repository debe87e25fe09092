import PlugNPray.Handlers

/-!
What the functions on the ready queues, on inherited priorities and on the mutexes of
a dead process can do, said once: the proofs about runs go by these cases.
-/
namespace PlugNPray.ReadyQueues
open PlugNPray.Scheduler PlugNPray.Handlers PlugNPray.Places

/-! ## Ready queues -/

/-- The list that a priority is put on. -/
def destino (cfg : Config) (prioridad : Int) : Cola :=
  if cfg.cmn then if en_rango cfg prioridad then .colas_ready prioridad.toNat else .lista_ready_invalida
  else .lista_ready

def de_ready : Cola → Bool
  | .lista_ready | .colas_ready _ | .lista_ready_invalida => true
  | _ => false

theorem destino_de_ready (cfg : Config) (v : Int) : de_ready (destino cfg v) = true := by
  unfold destino
  split_ifs <;> rfl

theorem ne_destino {c : Cola} (other : de_ready c = false) (cfg : Config) (v : Int) : c ≠ destino cfg v := by
  rintro rfl
  rw [destino_de_ready] at other
  cases other

theorem de_ready_of_served {cfg : Config} {c : Cola} (served : c ∈ colas_de_ready cfg) : de_ready c = true := by
  unfold colas_de_ready at served
  split_ifs at served
  · obtain ⟨n,_,rfl⟩ := List.mem_map.mp served
    rfl
  · rw [List.mem_singleton.mp served]
    rfl

theorem ne_of_served {cfg : Config} {c c' : Cola} (other : de_ready c = false) (served : c' ∈ colas_de_ready cfg) : c ≠ c' := by
  rintro rfl
  rw [de_ready_of_served served] at other
  cases other

@[simp] theorem new_ne_destino (cfg : Config) (v : Int) : (.lista_new = destino cfg v) ↔ False :=
  iff_of_false (ne_destino rfl cfg v) id
@[simp] theorem exec_ne_destino (cfg : Config) (v : Int) : (.lista_exec = destino cfg v) ↔ False :=
  iff_of_false (ne_destino rfl cfg v) id
@[simp] theorem block_ne_destino (cfg : Config) (v : Int) : (.lista_block = destino cfg v) ↔ False :=
  iff_of_false (ne_destino rfl cfg v) id
@[simp] theorem susp_ready_ne_destino (cfg : Config) (v : Int) : (.lista_susp_ready = destino cfg v) ↔ False :=
  iff_of_false (ne_destino rfl cfg v) id
@[simp] theorem susp_block_ne_destino (cfg : Config) (v : Int) : (.lista_susp_block = destino cfg v) ↔ False :=
  iff_of_false (ne_destino rfl cfg v) id

/-- Nothing, or one interrupt. -/
def Desalojo (pila : Pila) : Prop := pila = [] ∨ ∃ k q, pila = [.enviar_interrumpir k q]

theorem desalojo_nil : Desalojo [] := .inl rfl

theorem encolar_en_ready_ks (cfg : Config) (p : Nat) (s : Ks) :
    (encolar_en_ready cfg p s).ks = s.agregar (destino cfg (s.procesos p).prioridad) p := by
  unfold encolar_en_ready destino
  dsimp only
  split_ifs
  · split
    · rfl
    · split_ifs <;> rfl
  · rfl
  · rfl
  · rfl

theorem encolar_en_ready_planificable (cfg : Config) (p : Nat) (s : Ks) :
    (encolar_en_ready cfg p s).planificable = decide (destino cfg (s.procesos p).prioridad ≠ .lista_ready_invalida) := by
  unfold encolar_en_ready destino
  dsimp only
  split_ifs
  · split
    · rfl
    · split_ifs <;> rfl
  · rfl
  · rfl
  · rfl

theorem encolar_en_ready_desaloja (cfg : Config) (p : Nat) (s : Ks) : Desalojo (encolar_en_ready cfg p s).desaloja := by
  unfold encolar_en_ready
  dsimp only
  split_ifs
  · split
    · exact desalojo_nil
    · split_ifs
      · exact .inr ⟨_,_,rfl⟩
      · exact desalojo_nil
  · exact desalojo_nil
  · exact desalojo_nil
  · exact desalojo_nil

/-- The lock is given up only for a process that can be planned. -/
theorem encolar_en_ready_desaloja_nil {cfg : Config} {p : Nat} {s : Ks} (no : (encolar_en_ready cfg p s).planificable = false) :
    (encolar_en_ready cfg p s).desaloja = [] := by
  unfold encolar_en_ready at no ⊢
  dsimp only at no ⊢
  split_ifs at no ⊢
  · split at no
    · cases no
    · split_ifs at no
  · rfl

theorem encolar_al_frente_de_ready_ks (cfg : Config) (p : Nat) (s : Ks) :
    (encolar_al_frente_de_ready cfg p s).ks =
      if destino cfg (s.procesos p).prioridad = .lista_ready_invalida then s.agregar .lista_ready_invalida p
      else s.agregar_al_frente (destino cfg (s.procesos p).prioridad) p := by
  unfold encolar_al_frente_de_ready destino
  dsimp only
  split_ifs <;> simp_all

theorem encolar_al_frente_de_ready_planificable (cfg : Config) (p : Nat) (s : Ks) :
    (encolar_al_frente_de_ready cfg p s).planificable =
      decide (destino cfg (s.procesos p).prioridad ≠ .lista_ready_invalida) := by
  unfold encolar_al_frente_de_ready destino
  dsimp only
  split_ifs <;> rfl

theorem encolar_al_frente_de_ready_desaloja (cfg : Config) (p : Nat) (s : Ks) :
    (encolar_al_frente_de_ready cfg p s).desaloja = [] := by
  unfold encolar_al_frente_de_ready
  dsimp only
  split_ifs <;> rfl

/-! ## Priorities -/

theorem mayor_prioridad_cases (s : Ks) (espera : List Nat) :
    mayor_prioridad_del_mutex s espera = -1 ∨ ∃ q ∈ espera, mayor_prioridad_del_mutex s espera = (s.procesos q).prioridad := by
  unfold mayor_prioridad_del_mutex
  suffices walk : ∀ (l : List Nat) (mejor : Int),
      l.foldl (fun mejor p => if mejor = -1 ∨ (s.procesos p).prioridad < mejor then (s.procesos p).prioridad else mejor) mejor = mejor ∨
      ∃ q ∈ l, l.foldl (fun mejor p => if mejor = -1 ∨ (s.procesos p).prioridad < mejor then (s.procesos p).prioridad else mejor)
        mejor = (s.procesos q).prioridad from walk espera (-1)
  intro l
  induction l with
  | nil => intro mejor; exact .inl rfl
  | cons p rest ih =>
    intro mejor
    simp only [List.foldl_cons]
    split_ifs
    · rcases ih (s.procesos p).prioridad with kept | ⟨q,member,best⟩
      · exact .inr ⟨p,List.mem_cons_self,kept⟩
      · exact .inr ⟨q,List.mem_cons_of_mem p member,best⟩
    · rcases ih mejor with kept | ⟨q,member,best⟩
      · exact .inl kept
      · exact .inr ⟨q,List.mem_cons_of_mem p member,best⟩

/-- A priority that a waiter of the queue has. -/
def Candidata (s : Ks) (espera : List Nat) (v : Int) : Prop := ∃ q ∈ espera, v = (s.procesos q).prioridad

/-- aplicar_herencia does nothing, changes a priority, or moves a ready process to another queue. -/
inductive Herencia (cfg : Config) (p : Nat) (espera : List Nat) (s : Ks) : Ks × Pila → Prop where
  | nada : Herencia cfg p espera s (s,[])
  | cambia (v : Int) (cmn : cfg.cmn = true) (low : v < (s.procesos p).prioridad) (waiter : Candidata s espera v)
      (other : (s.procesos p).estado ≠ .READY) : Herencia cfg p espera s (s.con_prioridad p v,[])
  | muda (v : Int) (cmn : cfg.cmn = true) (low : v < (s.procesos p).prioridad) (waiter : Candidata s espera v)
      (ready : (s.procesos p).estado = .READY) (desaloja : Pila) (one : Desalojo desaloja) :
      Herencia cfg p espera s
        (((if en_rango cfg (s.procesos p).prioridad then s.quitar (.colas_ready (s.procesos p).prioridad.toNat) p else s).con_prioridad
          p v).agregar (destino cfg v) p,desaloja)

theorem aplicar_herencia_cases {cfg : Config} (cmn : cfg.cmn = true) (p : Nat) (espera : List Nat) (s : Ks) :
    Herencia cfg p espera s (aplicar_herencia cfg p espera s) := by
  unfold aplicar_herencia
  dsimp only
  split_ifs with none ready range
  · exact .nada
  · push Not at none
    obtain waiter := (mayor_prioridad_cases s espera).resolve_left none.1
    rw [encolar_en_ready_ks]
    have moved := @Herencia.muda cfg _ _ _ _ cmn none.2 waiter ready _ (encolar_en_ready_desaloja cfg p
      ((s.quitar (.colas_ready (s.procesos p).prioridad.toNat) p).con_prioridad p (mayor_prioridad_del_mutex s espera)))
    simpa [range] using moved
  · push Not at none
    obtain waiter := (mayor_prioridad_cases s espera).resolve_left none.1
    rw [encolar_en_ready_ks]
    have moved := @Herencia.muda cfg _ _ _ _ cmn none.2 waiter ready _ (encolar_en_ready_desaloja cfg p
      (s.con_prioridad p (mayor_prioridad_del_mutex s espera)))
    simpa [range] using moved
  · push Not at none
    exact .cambia _ cmn none.2 ((mayor_prioridad_cases s espera).resolve_left none.1) ready

/-- devolver_prioridad leaves the original priority, or that of a process that waits for a mutex of `p`. -/
inductive Devolucion (p : Nat) (s : Ks) : Ks → Prop where
  | nada : Devolucion p s s
  | cambia (v : Int)
      (source : v = (s.procesos p).prioridad_original ∨ ∃ m ∈ s.lista_mutex, m.pid_dueno = some p ∧ Candidata s m.cola_espera v) :
      Devolucion p s (s.con_prioridad p v)

theorem devolver_prioridad_cases (p : Nat) (s : Ks) : Devolucion p s (devolver_prioridad p s) := by
  unfold devolver_prioridad
  dsimp only
  split_ifs
  · exact .nada
  · refine .cambia _ ?_
    have walk : ∀ (l : List Mutex) (mejor : Int), (∀ m ∈ l, m ∈ s.lista_mutex) →
        (mejor = (s.procesos p).prioridad_original ∨ ∃ m ∈ s.lista_mutex, m.pid_dueno = some p ∧ Candidata s m.cola_espera mejor) →
        (l.foldl (fun mejor m =>
            if m.pid_dueno = some p then
              let candidato := mayor_prioridad_del_mutex s m.cola_espera
              if candidato ≠ -1 ∧ candidato < mejor then candidato else mejor
            else mejor) mejor = (s.procesos p).prioridad_original ∨
          ∃ m ∈ s.lista_mutex, m.pid_dueno = some p ∧ Candidata s m.cola_espera (l.foldl (fun mejor m =>
            if m.pid_dueno = some p then
              let candidato := mayor_prioridad_del_mutex s m.cola_espera
              if candidato ≠ -1 ∧ candidato < mejor then candidato else mejor
            else mejor) mejor)) := by
      intro l
      induction l with
      | nil => intro mejor _ start; exact start
      | cons m rest ih =>
        intro mejor listed start
        simp only [List.foldl_cons]
        refine ih _ (fun m' member => listed m' (List.mem_cons_of_mem m member)) ?_
        split_ifs with owned better
        · exact .inr ⟨m,listed m List.mem_cons_self,owned,(mayor_prioridad_cases s m.cola_espera).resolve_left better.1⟩
        · exact start
        · exact start
    exact walk s.lista_mutex _ (fun m member => member) (.inl rfl)

/-! ## The mutexes of a dead process -/

/-- despertar_heredero by the state of the process that inherits. -/
inductive Despierta (cfg : Config) (hora p : Nat) (s : Ks) : Ks × Pila → Prop where
  /-- Back to ready, and announced at once. -/
  | block (blocked : (s.procesos p).estado = .BLOCK) (n : Nat)
      (posts : n = if destino cfg (s.procesos p).prioridad = .lista_ready_invalida then 0 else 1) :
      Despierta cfg hora p s
        ({ (((s.cancelar_timer p).quitar .lista_block p).con_estado p .READY).agregar (destino cfg (s.procesos p).prioridad) p with
            sem_hay_procesos_ready := s.sem_hay_procesos_ready + n },[])
  /-- Back to ready, announced after an interrupt. -/
  | desaloja (blocked : (s.procesos p).estado = .BLOCK) (k : Option Nat) (q : Nat)
      (planned : destino cfg (s.procesos p).prioridad ≠ .lista_ready_invalida) :
      Despierta cfg hora p s
        ((((s.cancelar_timer p).quitar .lista_block p).con_estado p .READY).agregar (destino cfg (s.procesos p).prioridad) p,
          [.enviar_interrumpir k q,.post_hay_procesos_ready])
  | susp_block (suspended : (s.procesos p).estado = .SUSP_BLOCK) :
      Despierta cfg hora p s (mover_a_susp_ready hora p (s.cancelar_timer p),[])
  | inesperado (other : (s.procesos p).estado ≠ .BLOCK) (other' : (s.procesos p).estado ≠ .SUSP_BLOCK) :
      Despierta cfg hora p s (s.cancelar_timer p,[])

theorem despertar_heredero_cases (cfg : Config) (hora p : Nat) (s : Ks) :
    Despierta cfg hora p s (despertar_heredero cfg hora p s) := by
  unfold despertar_heredero
  have same : ((s.cancelar_timer p).procesos p).estado = (s.procesos p).estado := by simp
  dsimp only
  rw [same]
  split
  case h_1 blocked =>
    have ks := encolar_en_ready_ks cfg p (((s.cancelar_timer p).quitar .lista_block p).con_estado p .READY)
    have planned := encolar_en_ready_planificable cfg p (((s.cancelar_timer p).quitar .lista_block p).con_estado p .READY)
    simp only [Ks.con_estado_procesos,Ks.quitar_procesos,Ks.cancelar_timer_procesos,Function.update_self] at ks planned
    rcases encolar_en_ready_desaloja cfg p (((s.cancelar_timer p).quitar .lista_block p).con_estado p .READY) with
      none | ⟨k,q,one⟩
    · rw [if_pos none,ks,planned]
      refine .block blocked _ ?_
      split_ifs <;> simp_all
    · rw [if_neg (by simp [one]),ks,one]
      have yes : (encolar_en_ready cfg p (((s.cancelar_timer p).quitar .lista_block p).con_estado p .READY)).planificable = true := by
        by_contra no
        rw [encolar_en_ready_desaloja_nil (by simpa using no)] at one
        cases one
      rw [if_pos yes]
      exact .desaloja blocked k q (by simpa [planned] using yes)
  case h_2 suspended => exact .susp_block suspended
  case h_3 other other' => exact .inesperado other other'

theorem herencia_mutex {cfg : Config} {q : Nat} {espera : List Nat} {s : Ks} {r : Ks × Pila} (what : Herencia cfg q espera s r) :
    r.1.lista_mutex = s.lista_mutex := by
  cases what with
  | nada | cambia => rfl
  | muda => split_ifs <;> rfl

theorem despierta_mutex {cfg : Config} {hora q : Nat} {s : Ks} {r : Ks × Pila} (what : Despierta cfg hora q s r) :
    r.1.lista_mutex = s.lista_mutex := by
  cases what <;> rfl

theorem heredar_mutex_cases (cfg : Config) (i siguiente : Nat) (espera : List Nat) (s : Ks) :
    Herencia cfg siguiente espera (s.con_mutex i (fun m => { m with pid_dueno := some siguiente, cola_espera := espera }))
      (heredar_mutex cfg i siguiente espera s) := by
  unfold heredar_mutex
  dsimp only
  split_ifs with cmn
  · exact aplicar_herencia_cases cmn siguiente espera _
  · exact .nada

theorem heredar_mutex_mutex {cfg : Config} {i q : Nat} {espera : List Nat} {s : Ks} : (heredar_mutex cfg i q espera s).1.lista_mutex =
    s.lista_mutex.modify i (fun m => { m with pid_dueno := some q, cola_espera := espera }) :=
  (herencia_mutex (heredar_mutex_cases cfg i q espera s)).trans rfl

section loop
variable {cfg : Config} {hora pid : Nat} {I : Ks → Prop} {R : Ks → Pila → Prop}

/-- What the loop over the mutexes has to be checked for: a mutex of another process, one that is left free, and one that
    is handed over, with the two places where the lock may be given up. -/
structure Recorrido (cfg : Config) (hora pid : Nat) (I : Nat → Ks → Prop) (R : Ks → Pila → Prop) : Prop where
  acaba : ∀ i s, I i s → s.lista_mutex[i]? = none → R s []
  pasa : ∀ (s : Ks) (i : Nat) (m : Mutex), I i s → s.lista_mutex[i]? = some m → m.pid_dueno ≠ some pid → I (i + 1) s
  suelta : ∀ (s : Ks) (i : Nat) (m : Mutex), I i s → s.lista_mutex[i]? = some m → m.pid_dueno = some pid → m.cola_espera = [] →
    I (i + 1) (s.con_mutex i (fun m => { m with pid_dueno := none }))
  pausa : ∀ (s : Ks) (i : Nat) (m : Mutex) (siguiente : Nat) (espera : List Nat), I i s → s.lista_mutex[i]? = some m →
    m.pid_dueno = some pid → m.cola_espera = siguiente :: espera → (heredar_mutex cfg i siguiente espera s).2 ≠ [] →
    R (heredar_mutex cfg i siguiente espera s).1 ((heredar_mutex cfg i siguiente espera s).2 ++ [.ceder_mutex pid i siguiente])
  sigue : ∀ (s : Ks) (i : Nat) (m : Mutex) (siguiente : Nat) (espera : List Nat) (r : Ks × Pila), I i s →
    s.lista_mutex[i]? = some m → m.pid_dueno = some pid → m.cola_espera = siguiente :: espera →
    (heredar_mutex cfg i siguiente espera s).2 = [] → Despierta cfg hora siguiente (heredar_mutex cfg i siguiente espera s).1 r →
    (r.2 = [] → I (i + 1) r.1) ∧ (r.2 ≠ [] → R r.1 (r.2 ++ [.liberar_mutex_del_proceso pid (i + 1)]))

theorem liberar_desde_rule {I : Nat → Ks → Prop} (body : Recorrido cfg hora pid I R) (n i : Nat) {s : Ks}
    (enough : s.lista_mutex.length ≤ i + n) (start : I i s) :
    R (liberar_desde cfg hora pid n i s).1 (liberar_desde cfg hora pid n i s).2 := by
  induction n generalizing i s with
  | zero => exact body.acaba i s start (List.getElem?_eq_none enough)
  | succ n ih =>
    rw [liberar_desde]
    split
    case h_1 past => exact body.acaba i s start past
    case h_2 m here =>
      by_cases owned : m.pid_dueno = some pid
      · rw [if_pos owned]
        split
        case h_1 empty => exact ih (i + 1) (by simp; omega) (body.suelta s i m start here owned empty)
        case h_2 siguiente espera queue =>
          dsimp only
          have what := despertar_heredero_cases cfg hora siguiente (heredar_mutex cfg i siguiente espera s).1
          have next := fun quiet => body.sigue s i m siguiente espera _ start here owned queue quiet what
          have same := congrArg List.length (despierta_mutex what)
          rw [heredar_mutex_mutex,List.length_modify] at same
          split_ifs with quiet silent
          · exact ih (i + 1) (by omega) ((next quiet).1 silent)
          · exact (next quiet).2 silent
          · exact body.pausa s i m siguiente espera start here owned queue quiet
      · rw [if_neg owned]
        exact ih (i + 1) (by omega) (body.pasa s i m start here owned)

theorem liberar_rule {I : Nat → Ks → Prop} (body : Recorrido cfg hora pid I R) (i : Nat) {s : Ks} (start : I i s) :
    R (liberar_mutex_del_proceso cfg hora pid i s).1 (liberar_mutex_del_proceso cfg hora pid i s).2 :=
  liberar_desde_rule body _ i (by omega) start

/-- The same where the invariant does not speak of the place the loop has reached. -/
structure Bucle (cfg : Config) (hora pid : Nat) (I : Ks → Prop) (R : Ks → Pila → Prop) : Prop where
  acaba : ∀ s, I s → R s []
  suelta : ∀ (s : Ks) (i : Nat) (m : Mutex), I s → s.lista_mutex[i]? = some m → m.pid_dueno = some pid → m.cola_espera = [] →
    I (s.con_mutex i (fun m => { m with pid_dueno := none }))
  pausa : ∀ (s : Ks) (i : Nat) (m : Mutex) (siguiente : Nat) (espera : List Nat), I s → s.lista_mutex[i]? = some m →
    m.pid_dueno = some pid → m.cola_espera = siguiente :: espera → (heredar_mutex cfg i siguiente espera s).2 ≠ [] →
    R (heredar_mutex cfg i siguiente espera s).1 ((heredar_mutex cfg i siguiente espera s).2 ++ [.ceder_mutex pid i siguiente])
  sigue : ∀ (s : Ks) (i : Nat) (m : Mutex) (siguiente : Nat) (espera : List Nat) (r : Ks × Pila), I s →
    s.lista_mutex[i]? = some m → m.pid_dueno = some pid → m.cola_espera = siguiente :: espera →
    (heredar_mutex cfg i siguiente espera s).2 = [] → Despierta cfg hora siguiente (heredar_mutex cfg i siguiente espera s).1 r →
    (r.2 = [] → I r.1) ∧ (r.2 ≠ [] → R r.1 (r.2 ++ [.liberar_mutex_del_proceso pid (i + 1)]))

theorem Bucle.recorrido (body : Bucle cfg hora pid I R) : Recorrido cfg hora pid (fun _ => I) R where
  acaba _ s start _ := body.acaba s start
  pasa _ _ _ start _ _ := start
  suelta := body.suelta
  pausa := body.pausa
  sigue := body.sigue

theorem liberar_mutex_del_proceso_rule (body : Bucle cfg hora pid I R) (i : Nat) {s : Ks} (start : I s) :
    R (liberar_mutex_del_proceso cfg hora pid i s).1 (liberar_mutex_del_proceso cfg hora pid i s).2 :=
  liberar_rule body.recorrido i start
end loop

/-! ### States -/

section states
variable {cfg : Config} {s : Ks} {p q : Nat}

theorem herencia_estado {espera : List Nat} {r : Ks × Pila} (what : Herencia cfg q espera s r) :
    (r.1.procesos p).estado = (s.procesos p).estado := by
  cases what with
  | nada => rfl
  | cambia => by_cases same : p = q <;> simp [same]
  | muda => split_ifs <;> by_cases same : p = q <;> simp [same]

theorem heredar_mutex_estado {i : Nat} {espera : List Nat} :
    ((heredar_mutex cfg i q espera s).1.procesos p).estado = (s.procesos p).estado :=
  (herencia_estado (heredar_mutex_cases cfg i q espera s)).trans rfl

theorem devolucion_estado {s' : Ks} (what : Devolucion q s s') : (s'.procesos p).estado = (s.procesos p).estado := by
  cases what with
  | nada => rfl
  | cambia => by_cases same : p = q <;> simp [same]

/-- Inheritance moves processes between ready queues only. -/
theorem herencia_lista {c : Cola} (other : de_ready c = false) {espera : List Nat} {r : Ks × Pila}
    (what : Herencia cfg q espera s r) : r.1.listas c = s.listas c := by
  cases what with
  | nada => rfl
  | cambia => rfl
  | muda v cmn low waiter ready desaloja one =>
    have queue : c ≠ .colas_ready (s.procesos q).prioridad.toNat := by rintro rfl; cases other
    have goal := ne_destino other cfg v
    split_ifs <;> simp [goal,queue]

theorem heredar_mutex_lista {c : Cola} (other : de_ready c = false) {i : Nat} {espera : List Nat} :
    (heredar_mutex cfg i q espera s).1.listas c = s.listas c :=
  (herencia_lista other (heredar_mutex_cases cfg i q espera s)).trans rfl

theorem devolucion_lista {c : Cola} {s' : Ks} (what : Devolucion q s s') : s'.listas c = s.listas c := by
  cases what <;> rfl

theorem devolucion_mutex {s' : Ks} (what : Devolucion q s s') : s'.lista_mutex = s.lista_mutex := by
  cases what <;> rfl
end states

/-! ### What these functions leave to do -/

/-- What a thread may have to do before it goes on with the loop. -/
def de_bucle : Accion → Bool
  | .enviar_interrumpir _ _ | .post_hay_procesos_ready | .liberar_mutex_del_proceso _ _ | .ceder_mutex _ _ _ => true
  | _ => false

theorem herencia_pila {cfg : Config} {p : Nat} {espera : List Nat} {s : Ks} {r : Ks × Pila} (what : Herencia cfg p espera s r) :
    Desalojo r.2 := by
  cases what with
  | nada | cambia => exact desalojo_nil
  | muda v cmn low waiter ready desaloja one => exact one

theorem desalojo_de_bucle {pila : Pila} (one : Desalojo pila) : ∀ b ∈ pila, de_bucle b = true := by
  rcases one with rfl | ⟨k,q,rfl⟩ <;> simp [de_bucle]

/-- What is true of these actions is true of what these functions leave. -/
theorem all_de_bucle {g : Accion → Bool} (loop : ∀ b, de_bucle b = true → g b = true) {pila : Pila}
    (mine : ∀ b ∈ pila, de_bucle b = true) : pila.all g = true :=
  List.all_eq_true.mpr (fun b member => loop b (mine b member))

theorem despierta_pila {cfg : Config} {hora p : Nat} {s : Ks} {r : Ks × Pila} (what : Despierta cfg hora p s r) :
    ∀ b ∈ r.2, de_bucle b = true := by
  cases what <;> simp [de_bucle]

theorem bucle_pila (cfg : Config) (hora pid : Nat) :
    Bucle cfg hora pid (fun _ => True) (fun _ pila => ∀ b ∈ pila, de_bucle b = true) where
  acaba := by simp
  suelta := by simp
  pausa s i m siguiente espera _ _ _ _ _ b member := by
    rcases List.mem_append.mp member with first | last
    · exact desalojo_de_bucle (herencia_pila (heredar_mutex_cases cfg i siguiente espera s)) b first
    · obtain rfl := List.mem_singleton.mp last
      rfl
  sigue s i m siguiente espera r _ _ _ _ _ what := by
    refine ⟨fun _ => trivial,fun _ b member => ?_⟩
    rcases List.mem_append.mp member with first | last
    · exact despierta_pila what b first
    · obtain rfl := List.mem_singleton.mp last
      rfl

theorem liberar_pila (cfg : Config) (hora pid i : Nat) (s : Ks) :
    ∀ b ∈ (liberar_mutex_del_proceso cfg hora pid i s).2, de_bucle b = true :=
  liberar_mutex_del_proceso_rule (bucle_pila cfg hora pid) i trivial

/-! ### What these functions leave alone -/

/-- Something that depends neither on the processes and their lists, nor on the mutexes, nor on sem_hay_procesos_ready. -/
def Ajena {β : Type} (g : Ks → β) : Prop :=
  ∀ (s : Ks) procesos listas mutexes n,
    g { s with procesos := procesos, listas := listas, lista_mutex := mutexes, sem_hay_procesos_ready := n } = g s

section frame
variable {cfg : Config} {β : Type} {g : Ks → β} {s : Ks} {p : Nat}

theorem herencia_ajena (far : Ajena g) {espera : List Nat} {r : Ks × Pila} (what : Herencia cfg p espera s r) : g r.1 = g s := by
  cases what with
  | nada => rfl
  | cambia v => exact far s _ s.listas s.lista_mutex s.sem_hay_procesos_ready
  | muda v cmn low waiter ready desaloja one =>
    split_ifs <;> exact far s _ _ s.lista_mutex s.sem_hay_procesos_ready

theorem despierta_ajena (far : Ajena g) {hora : Nat} {r : Ks × Pila} (what : Despierta cfg hora p s r) : g r.1 = g s := by
  cases what with
  | block blocked n posts => exact far s _ _ s.lista_mutex _
  | desaloja blocked k q planned => exact far s _ _ s.lista_mutex s.sem_hay_procesos_ready
  | susp_block suspended => exact far s _ _ s.lista_mutex s.sem_hay_procesos_ready
  | inesperado other other' => exact far s _ s.listas s.lista_mutex s.sem_hay_procesos_ready

theorem heredar_mutex_ajena (far : Ajena g) (cfg : Config) (i siguiente : Nat) (espera : List Nat) (s : Ks) :
    g (heredar_mutex cfg i siguiente espera s).1 = g s :=
  (herencia_ajena far (heredar_mutex_cases cfg i siguiente espera s)).trans
    (far s s.procesos s.listas _ s.sem_hay_procesos_ready)

theorem liberar_ajena (far : Ajena g) (cfg : Config) (hora pid i : Nat) (s : Ks) :
    g (liberar_mutex_del_proceso cfg hora pid i s).1 = g s := by
  have body : Bucle cfg hora pid (fun t => g t = g s) (fun t _ => g t = g s) :=
    { acaba := fun t same => same
      suelta := fun t i m same _ _ _ => (far t t.procesos t.listas _ t.sem_hay_procesos_ready).trans same
      pausa := fun t i m siguiente espera same _ _ _ _ => (heredar_mutex_ajena far cfg i siguiente espera t).trans same
      sigue := fun t i m siguiente espera r same _ _ _ _ what =>
        have done := ((despierta_ajena far what).trans (heredar_mutex_ajena far cfg i siguiente espera t)).trans same
        ⟨fun _ => done,fun _ => done⟩ }
  exact liberar_mutex_del_proceso_rule body i rfl

theorem devolucion_ajena (far : Ajena g) {t : Ks} (what : Devolucion p s t) : g t = g s := by
  cases what with
  | nada => rfl
  | cambia v => exact far s _ s.listas s.lista_mutex s.sem_hay_procesos_ready
end frame

end PlugNPray.ReadyQueues
