import PlugNPray.Operations
import PlugNPray.Intervals

/-!
The stick of an address while sticks come and go: the base that a stick was given
against the sizes that the search adds up.
-/
namespace PlugNPray.StickRoutes
open PlugNPray.Runs PlugNPray.FlatMemory PlugNPray.Intervals PlugNPray.Huecos PlugNPray.Sticks PlugNPray.KernelMemory

/-- The global addresses that a stick was given. -/
def direcciones (s : MemoryStick) : Range := ⟨s.base_global,s.tamanio⟩

/-- Kernel Memory and the addresses of the sticks that left. -/
structure Conectado where
  estado : Estado
  quitados : List Range

def Conectado.sticks (v : Conectado) : List MemoryStick := v.estado.lista_memory_sticks

inductive Cambio where
  | memory_stick_agregar (a : Alta)
  | memory_stick_eliminar (fd : Int)

def cambiar : Cambio → Conectado → Conectado
  | .memory_stick_agregar a, v => { v with estado := memory_stick_agregar a v.estado }
  | .memory_stick_eliminar fd, v => ⟨memory_stick_eliminar fd v.estado,
      v.quitados ++ ((v.sticks.find? (fun stick => stick.fd = fd)).map direcciones).toList⟩

def cambia (c : Cambio) (v : Conectado) : Option Conectado := some (cambiar c v)

/-- No address reaches another stick than its own. -/
structure Fiel (v : Conectado) : Prop where
  propia : ∀ d i s offset, memory_stick_localizar v.sticks d = some (i,s,offset) →
    s ∈ v.sticks ∧ (direcciones s).Contains d ∧ offset = d - s.base_global
  perdida : ∀ r ∈ v.quitados, ∀ d, r.Contains d → memory_stick_localizar v.sticks d = none
  aparte : (v.sticks.map direcciones).Pairwise Range.Apart

/-- The size is a `uint32_t`. -/
def Tipado : Cambio → Conectado → Prop
  | .memory_stick_agregar a, _ => a.tamanio < 2^32
  | .memory_stick_eliminar _, _ => True

/-- A stick with bytes joins only while no other with bytes left and the total did not go
    round, and one leaves only if no stick with bytes comes after it. Sticks without bytes may
    come and go. -/
def EnOrden : Cambio → Conectado → Prop
  | .memory_stick_agregar a, v =>
    a.tamanio = 0 ∨ (∀ r ∈ v.quitados, r.size = 0) ∧ tamanios v.sticks = v.estado.memoria_total
  | .memory_stick_eliminar fd, v =>
    match v.sticks.dropWhile (fun stick => stick.fd ≠ fd) with
    | [] => True
    | s :: resto => s.tamanio = 0 ∨ ∀ t ∈ resto, t.tamanio = 0

instance : ∀ c v, Decidable (Tipado c v)
  | .memory_stick_agregar _, _ => inferInstanceAs (Decidable (_ < _))
  | .memory_stick_eliminar _, _ => isTrue trivial

instance : ∀ c v, Decidable (EnOrden c v)
  | .memory_stick_agregar _, _ => inferInstanceAs (Decidable (_ ∨ _))
  | .memory_stick_eliminar fd, v =>
    match found : v.sticks.dropWhile (fun stick => stick.fd ≠ fd) with
    | [] => isTrue (by simp only [EnOrden,found])
    | s :: resto => decidable_of_iff (s.tamanio = 0 ∨ ∀ t ∈ resto, t.tamanio = 0) (by simp only [EnOrden,found])

/-! ## Bases that are the sizes before -/

/-- From an address on, each stick with bytes has the base that the sizes before it add up to. -/
def Alineados : Nat → List MemoryStick → Prop
  | _, [] => True
  | n, s :: resto => s.tamanio < 2^32 ∧ (0 < s.tamanio → s.base_global = n ∧ n < 2^32) ∧ Alineados (n + s.tamanio) resto

theorem alineados_append {n : Nat} {pre post : List MemoryStick} :
    Alineados n (pre ++ post) ↔ Alineados n pre ∧ Alineados (n + tamanios pre) post := by
  induction pre generalizing n with
  | nil => simp [Alineados]
  | cons s resto ih =>
    simp only [List.cons_append,Alineados,tamanios_cons]
    rw [ih,← Nat.add_assoc]
    tauto

theorem alineados_vacios {sticks : List MemoryStick} (empty : ∀ t ∈ sticks, t.tamanio = 0) (n : Nat) : Alineados n sticks := by
  induction sticks generalizing n with
  | nil => trivial
  | cons s resto ih =>
    have none := empty s (by simp)
    exact ⟨by omega,fun some => by omega,ih (fun t member => empty t (by simp [member])) _⟩

/-- Past 2^32 there are only sticks without bytes. -/
theorem vacios_of_alineados {sticks : List MemoryStick} {n : Nat} (aligned : Alineados n sticks) (high : 2^32 ≤ n) :
    ∀ t ∈ sticks, t.tamanio = 0 := by
  induction sticks generalizing n with
  | nil => simp
  | cons s resto ih =>
    obtain ⟨_,based,later⟩ := aligned
    refine List.forall_mem_cons.mpr ⟨?_,ih later (by omega)⟩
    by_contra some
    have low := (based (Nat.pos_of_ne_zero some)).2
    omega

/-- A stick leaves the others aligned if it has no bytes or nothing with bytes follows it. -/
theorem alineados_erase {n : Nat} {pre post : List MemoryStick} {s : MemoryStick} (aligned : Alineados n (pre ++ s :: post))
    (last : s.tamanio = 0 ∨ ∀ t ∈ post, t.tamanio = 0) : Alineados n (pre ++ post) := by
  obtain ⟨before,_,_,after⟩ := alineados_append.mp aligned
  refine alineados_append.mpr ⟨before,?_⟩
  rcases last with none | empty
  · rw [none] at after
    exact after
  · exact alineados_vacios empty _

theorem localizar_vacios {sticks : List MemoryStick} {d acumulado : Nat} (empty : ∀ t ∈ sticks, t.tamanio = 0)
    (above : acumulado ≤ d) (low : acumulado < 2^32) (i : Nat) : localizar_desde d sticks i acumulado = none := by
  induction sticks generalizing i with
  | nil => rfl
  | cons s resto ih =>
    have same : u32 (acumulado + s.tamanio) = acumulado := by
      rw [empty s (by simp)]
      exact u32_of_lt low
    rw [localizar_desde,same,if_neg (by omega)]
    exact ih (fun t member => empty t (by simp [member])) (i + 1)

/-- On aligned sticks the search answers a stick that was given the address. -/
theorem localizar_alineados {sticks : List MemoryStick} {d acumulado i k offset : Nat} {s : MemoryStick}
    (aligned : Alineados acumulado sticks) (above : acumulado ≤ d) (low : acumulado < 2^32)
    (found : localizar_desde d sticks i acumulado = some (k,s,offset)) :
    s ∈ sticks ∧ (direcciones s).Contains d ∧ offset = d - s.base_global ∧ d < acumulado + tamanios sticks := by
  induction sticks generalizing acumulado i with
  | nil => cases found
  | cons t resto ih =>
    obtain ⟨typed,based,later⟩ := aligned
    rw [localizar_desde] at found
    rw [tamanios_cons]
    by_cases small : acumulado + t.tamanio < 2^32
    · rw [u32_of_lt small] at found
      split_ifs at found with here
      · cases found
        have base := (based (by omega)).1
        have exact32 : u32 (d + 2^32 - acumulado) = d - acumulado := by
          unfold u32
          omega
        refine ⟨by simp,⟨?_,?_⟩,?_,by omega⟩
        · exact base.trans_le above
        · show d < s.base_global + s.tamanio
          omega
        · rw [exact32,base]
      · obtain ⟨member,inside,exact,below⟩ := ih later (by omega) small found
        exact ⟨by simp [member],inside,exact,by omega⟩
    · have wraps : u32 (acumulado + t.tamanio) = acumulado + t.tamanio - 2^32 := by
        unfold u32
        omega
      rw [wraps,if_neg (by omega)] at found
      rw [localizar_vacios (vacios_of_alineados later (by omega)) (by omega) (by omega)] at found
      cases found

theorem alineados_apart {sticks : List MemoryStick} {n : Nat} (aligned : Alineados n sticks) :
    (sticks.map direcciones).Pairwise Range.Apart ∧ ∀ t ∈ sticks, 0 < t.tamanio → n ≤ t.base_global := by
  induction sticks generalizing n with
  | nil => exact ⟨List.Pairwise.nil,by simp⟩
  | cons s resto ih =>
    obtain ⟨_,based,later⟩ := aligned
    obtain ⟨apart,above⟩ := ih later
    constructor
    · refine List.pairwise_cons.mpr ⟨?_,apart⟩
      intro r listed
      obtain ⟨t,member,rfl⟩ := List.mem_map.mp listed
      rcases Nat.eq_zero_or_pos s.tamanio with none | some
      · exact .inl none
      rcases Nat.eq_zero_or_pos t.tamanio with none | filled
      · exact .inr (.inl none)
      have base := (based some).1
      have beyond := above t member filled
      refine .inr (.inr (.inl ?_))
      simp only [direcciones]
      omega
    · refine List.forall_mem_cons.mpr ⟨fun some => (based some).1.ge,?_⟩
      intro t member filled
      have := above t member filled
      omega

/-! ## Runs -/

structure Guardado (v : Conectado) : Prop where
  bases : Alineados 0 v.sticks
  lejos : ∀ r ∈ v.quitados, 0 < r.size → tamanios v.sticks ≤ r.base
  total : v.estado.memoria_total < 2^32

theorem fiel_of_guardado {v : Conectado} (held : Guardado v) : Fiel v := by
  refine ⟨?_,?_,(alineados_apart held.bases).1⟩
  · intro d i s offset found
    obtain ⟨member,inside,exact,_⟩ := localizar_alineados held.bases (Nat.zero_le d) (by decide) found
    exact ⟨member,inside,exact⟩
  · intro r gone d inside
    cases found : memory_stick_localizar v.sticks d with
    | none => rfl
    | some hit =>
      obtain ⟨_,_,_,below⟩ := localizar_alineados held.bases (Nat.zero_le d) (by decide) found
      have beyond := held.lejos r gone (by unfold Range.Contains at inside; omega)
      unfold Range.Contains at inside
      omega

theorem agregar_guardado {v : Conectado} (held : Guardado v) {a : Alta} (typed : a.tamanio < 2^32)
    (ordered : EnOrden (.memory_stick_agregar a) v) : Guardado (cambiar (.memory_stick_agregar a) v) := by
  refine ⟨?_,?_,Nat.mod_lt _ (by decide)⟩
  · refine alineados_append.mpr ⟨held.bases,typed,?_,trivial⟩
    intro some
    rcases ordered with none | ⟨_,exact⟩
    · exact absurd none (Nat.ne_of_gt some)
    · rw [Nat.zero_add]
      exact ⟨exact.symm,exact ▸ held.total⟩
  · intro r gone some
    rcases ordered with none | ⟨nothing,_⟩
    · have same : tamanios (cambiar (.memory_stick_agregar a) v).sticks = tamanios v.sticks := by
        change tamanios (v.sticks ++ [_]) = _
        rw [tamanios_append,tamanios_cons,tamanios_nil]
        simp only [none,Nat.add_zero]
      rw [same]
      exact held.lejos r gone some
    · exact absurd (nothing r gone) (Nat.ne_of_gt some)

theorem eliminar_guardado {v : Conectado} (held : Guardado v) {fd : Int} (ordered : EnOrden (.memory_stick_eliminar fd) v) :
    Guardado (cambiar (.memory_stick_eliminar fd) v) := by
  have erased : (cambiar (.memory_stick_eliminar fd) v).sticks = v.sticks.eraseP (fun stick => stick.fd = fd) := rfl
  have gone : (cambiar (.memory_stick_eliminar fd) v).quitados =
      v.quitados ++ ((v.sticks.find? (fun stick => stick.fd = fd)).map direcciones).toList := rfl
  have smaller : tamanios (cambiar (.memory_stick_eliminar fd) v).sticks ≤ tamanios v.sticks :=
    List.Sublist.sum_le_sum (List.eraseP_sublist.map MemoryStick.tamanio) (fun _ _ => Nat.zero_le _)
  cases removed : v.sticks.find? (fun stick => stick.fd = fd) with
  | none =>
    rw [removed,Option.map_none,Option.toList_none,List.append_nil] at gone
    rw [List.eraseP_of_forall_not (fun t member => List.find?_eq_none.mp removed t member)] at erased
    exact ⟨erased ▸ held.bases,fun r listed => by rw [erased]; exact held.lejos r (gone ▸ listed),held.total⟩
  | some s =>
    obtain ⟨hit,pre,post,split,misses⟩ := List.find?_eq_some_iff_append.mp removed
    have missed : ∀ t ∈ pre, ¬ decide (t.fd = fd) = true := by simpa using misses
    rw [removed,Option.map_some,Option.toList_some] at gone
    rw [split,List.eraseP_append_right _ missed,List.eraseP_cons,hit,cond_true] at erased
    have last : s.tamanio = 0 ∨ ∀ t ∈ post, t.tamanio = 0 := by
      have drop : v.sticks.dropWhile (fun stick => stick.fd ≠ fd) = s :: post := by
        rw [split,List.dropWhile_append_of_pos (by simpa using misses),List.dropWhile_cons_of_neg (by simpa using hit)]
      simpa only [EnOrden,drop] using ordered
    have aligned := held.bases
    rw [split] at aligned
    refine ⟨erased ▸ alineados_erase aligned last,?_,held.total⟩
    intro r listed some
    rw [gone] at listed
    rcases List.mem_append.mp listed with before | now
    · exact smaller.trans (held.lejos r before some)
    · rw [List.mem_singleton.mp now] at some ⊢
      have base := ((alineados_append.mp aligned).2.2.1 some).1
      have empty : ∀ t ∈ post, t.tamanio = 0 := last.resolve_left (Nat.ne_of_gt some)
      have none : tamanios post = 0 := List.sum_eq_zero (by simpa using empty)
      rw [erased,tamanios_append,none]
      exact (base.trans (Nat.zero_add _)).ge

theorem inicial_guardado (segment_max_size : Int) (allocation_best_fit : Bool) (respuestas : Nat → Respuesta) :
    Guardado ⟨inicial segment_max_size allocation_best_fit respuestas,[]⟩ :=
  ⟨trivial,by simp,Nat.two_pow_pos 32⟩

/-- In every run of connections and disconnections in order, an address is served by the
    stick that was given it, the addresses of a stick that left by none, and no two sticks
    were given an address in common. -/
theorem addresses_routed (segment_max_size : Int) (allocation_best_fit : Bool) (respuestas : Nat → Respuesta)
    (cambios : List Cambio) (v : Conectado)
    (typed : Guarded cambia Tipado cambios ⟨inicial segment_max_size allocation_best_fit respuestas,[]⟩)
    (ordered : Guarded cambia EnOrden cambios ⟨inicial segment_max_size allocation_best_fit respuestas,[]⟩)
    (reached : run cambia cambios ⟨inicial segment_max_size allocation_best_fit respuestas,[]⟩ = some v) : Fiel v := by
  have keeps : Preserved cambia (fun c v => Tipado c v ∧ EnOrden c v) Guardado := by
    intro c v w held guards moved
    cases moved
    cases c with
    | memory_stick_agregar a => exact agregar_guardado held guards.1 guards.2
    | memory_stick_eliminar fd => exact eliminar_guardado held guards.2
  have start := inicial_guardado segment_max_size allocation_best_fit respuestas
  exact fiel_of_guardado (invariant_of_guarded keeps start (typed.and ordered) reached)

/-- Two sticks, of ten and of twenty bytes. -/
def dos_sticks : List Cambio :=
  [.memory_stick_agregar ⟨3,10,"10.0.0.1",8002,fun _ => 0⟩,.memory_stick_agregar ⟨4,20,"10.0.0.2",8002,fun _ => 0⟩]
def tras (cambios : List Cambio) : Conectado := cambios.foldl (fun v c => cambiar c v) ⟨inicial 0 true (fun _ => .responde),[]⟩

theorem addresses_routed_dos : Fiel (tras (dos_sticks ++ [.memory_stick_eliminar 4])) :=
  addresses_routed 0 true (fun _ => .responde) (dos_sticks ++ [Cambio.memory_stick_eliminar 4]) _
    (by decide +kernel) (by decide +kernel) (run_total cambiar (dos_sticks ++ [Cambio.memory_stick_eliminar 4]) _)

/-- The first stick leaves: its address 0 is mapped onto the second, that has the addresses from 10 on. -/
theorem first_address_rerouted : ¬ Fiel (tras (dos_sticks ++ [.memory_stick_eliminar 3])) ∧
    ((memory_stick_localizar (tras (dos_sticks ++ [.memory_stick_eliminar 3])).sticks 0).map
      (fun hit => (hit.2.1.fd,hit.2.1.base_global,hit.2.2))) = some (4,10,0) := by
  have mapped : ((memory_stick_localizar (tras (dos_sticks ++ [.memory_stick_eliminar 3])).sticks 0).map
      (fun hit => (hit.2.1.fd,hit.2.1.base_global,hit.2.2))) = some (4,10,0) := by decide +kernel
  refine ⟨?_,mapped⟩
  intro faithful
  have gone : (⟨0,10⟩ : Range) ∈ (tras (dos_sticks ++ [.memory_stick_eliminar 3])).quitados := by decide +kernel
  rw [faithful.perdida ⟨0,10⟩ gone 0 (by decide)] at mapped
  cases mapped

end PlugNPray.StickRoutes
