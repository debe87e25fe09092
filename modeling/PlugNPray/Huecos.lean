import PlugNPray.FlatMemory

/-! The free list of Kernel Memory and what each of its operations does to the free addresses. -/
namespace PlugNPray.Huecos
open PlugNPray.Intervals

/-- A result of `uint32_t` arithmetic. -/
def u32 (n : Nat) : Nat := n % 2^32
theorem u32_of_lt {n : Nat} (small : n < 2^32) : u32 n = n := Nat.mod_eq_of_lt small

structure Hueco where
  base : Nat
  tamanio : Nat
  deriving DecidableEq, Repr

def Hueco.rango (h : Hueco) : Range := ⟨h.base,h.tamanio⟩
/-- The addresses that the free list offers. -/
def rangos (huecos : List Hueco) : List Range := huecos.map Hueco.rango

@[simp] theorem rangos_nil : rangos [] = [] := rfl
@[simp] theorem rangos_cons (h : Hueco) (huecos : List Hueco) : rangos (h :: huecos) = h.rango :: rangos huecos := rfl
@[simp] theorem rangos_append (huecos resto : List Hueco) : rangos (huecos ++ resto) = rangos huecos ++ rangos resto := by
  simp [rangos]

/-! ## The operations -/

def huecos_extender (huecos : List Hueco) (base_nueva bytes_nuevos : Nat) : List Hueco :=
  match huecos.getLast? with
  | some ultimo =>
    if u32 (ultimo.base + ultimo.tamanio) = base_nueva then
      huecos.dropLast ++ [{ ultimo with tamanio := u32 (ultimo.tamanio + bytes_nuevos) }]
    else huecos ++ [⟨base_nueva,bytes_nuevos⟩]
  | none => huecos ++ [⟨base_nueva,bytes_nuevos⟩]

/-- The scan shared by both searches: `gana nuevo elegido` says that a hole of size
    `nuevo` replaces the one chosen so far. A hole is named by its place in the list. -/
def buscar_hueco_desde (gana : Nat → Nat → Bool) (tamanio_requerido : Nat) :
    List Hueco → Nat → Option (Nat × Hueco) → Option (Nat × Hueco)
  | [], _, elegido => elegido
  | h :: resto, i, elegido =>
    buscar_hueco_desde gana tamanio_requerido resto (i + 1)
      (if tamanio_requerido ≤ h.tamanio then
        match elegido with
        | none => some (i,h)
        | some (_,e) => if gana h.tamanio e.tamanio then some (i,h) else elegido
      else elegido)

def buscar_hueco_best_fit (huecos : List Hueco) (tamanio_requerido : Nat) : Option (Nat × Hueco) :=
  buscar_hueco_desde (fun nuevo mejor => nuevo < mejor) tamanio_requerido huecos 0 none
def buscar_hueco_worst_fit (huecos : List Hueco) (tamanio_requerido : Nat) : Option (Nat × Hueco) :=
  buscar_hueco_desde (fun nuevo peor => nuevo > peor) tamanio_requerido huecos 0 none

/-- `i` is the place of the hole that the search returned. -/
def hueco_ocupar (huecos : List Hueco) (i tamanio_usado : Nat) : List Hueco :=
  match huecos[i]? with
  | none => huecos
  | some hueco =>
    if hueco.tamanio = tamanio_usado then huecos.eraseIdx i
    else huecos.set i ⟨u32 (hueco.base + tamanio_usado),u32 (hueco.tamanio + 2^32 - tamanio_usado)⟩

def hueco_liberar (huecos : List Hueco) (base tamanio : Nat) : List Hueco := huecos ++ [⟨base,tamanio⟩]

def huecos_total_libre (huecos : List Hueco) : Nat := huecos.foldl (fun total h => u32 (total + h.tamanio)) 0

def huecos_reconstruir (base_libre memoria_total : Nat) : List Hueco :=
  if base_libre < memoria_total then [⟨base_libre,u32 (memoria_total + 2^32 - base_libre)⟩] else []

/-! ## Searches -/

private theorem buscar_desde_sound (gana : Nat → Nat → Bool) (req : Nat) (todos : List Hueco) :
    ∀ (resto : List Hueco) (i : Nat) (elegido : Option (Nat × Hueco)) (k : Nat) (h : Hueco),
      (∀ j, resto[j]? = todos[i + j]?) →
      (∀ k h, elegido = some (k,h) → todos[k]? = some h ∧ req ≤ h.tamanio) →
      buscar_hueco_desde gana req resto i elegido = some (k,h) → todos[k]? = some h ∧ req ≤ h.tamanio := by
  intro resto
  induction resto with
  | nil => intro i elegido k h _ good found; exact good k h found
  | cons g resto ih =>
    intro i elegido k h aligned good found
    have here : todos[i]? = some g := by simpa using (aligned 0).symm
    refine ih (i + 1) _ k h (fun j => ?_) (fun k h chosen => ?_) found
    · have := aligned (j + 1)
      simpa [Nat.add_assoc,Nat.add_comm 1 j] using this
    · split_ifs at chosen with fits
      · cases elegido with
        | none => cases chosen; exact ⟨here,fits⟩
        | some e =>
          dsimp only at chosen
          split_ifs at chosen with wins
          · cases chosen; exact ⟨here,fits⟩
          · exact good k h chosen
      · exact good k h chosen

theorem best_fit_sound {huecos : List Hueco} {req k : Nat} {h : Hueco}
    (found : buscar_hueco_best_fit huecos req = some (k,h)) : huecos[k]? = some h ∧ req ≤ h.tamanio :=
  buscar_desde_sound _ req huecos huecos 0 none k h (by simp) (by simp) found
theorem worst_fit_sound {huecos : List Hueco} {req k : Nat} {h : Hueco}
    (found : buscar_hueco_worst_fit huecos req = some (k,h)) : huecos[k]? = some h ∧ req ≤ h.tamanio :=
  buscar_desde_sound _ req huecos huecos 0 none k h (by simp) (by simp) found

/-- A search for the least key passes over no hole that fits and has a smaller key, and
    comes back empty only when no hole fits. -/
private theorem buscar_desde_least (clave : Nat → Int) (req : Nat) : ∀ (resto : List Hueco) (i : Nat) (elegido : Option (Nat × Hueco)),
    (∀ k h, buscar_hueco_desde (fun nuevo e => decide (clave nuevo < clave e)) req resto i elegido = some (k,h) →
      (∀ g ∈ resto, req ≤ g.tamanio → clave h.tamanio ≤ clave g.tamanio) ∧
      ∀ j e, elegido = some (j,e) → clave h.tamanio ≤ clave e.tamanio) ∧
    (buscar_hueco_desde (fun nuevo e => decide (clave nuevo < clave e)) req resto i elegido = none →
      elegido = none ∧ ∀ g ∈ resto, g.tamanio < req) := by
  intro resto
  induction resto with
  | nil =>
    intro i elegido
    refine ⟨fun k h found => ⟨fun g absent => absurd absent List.not_mem_nil,fun j e chosen => ?_⟩,
      fun missing => ⟨missing,fun g absent => absurd absent List.not_mem_nil⟩⟩
    cases chosen.symm.trans found
    exact le_refl _
  | cons g resto ih =>
    intro i elegido
    obtain ⟨least,missing⟩ := ih (i + 1) (if req ≤ g.tamanio then
      match elegido with
      | none => some (i,g)
      | some (_,e) => if decide (clave g.tamanio < clave e.tamanio) then some (i,g) else elegido
      else elegido)
    refine ⟨fun k h found => ?_,fun none => ?_⟩
    · obtain ⟨rest,chosen⟩ := least k h found
      by_cases fits : req ≤ g.tamanio
      · simp only [if_pos fits] at chosen
        cases elegido with
        | none =>
          have here := chosen i g rfl
          exact ⟨List.forall_mem_cons.mpr ⟨fun _ => here,rest⟩,fun j e bad => by cases bad⟩
        | some e =>
          obtain ⟨j,e⟩ := e
          by_cases wins : clave g.tamanio < clave e.tamanio
          · simp only [decide_eq_true wins,if_true] at chosen
            have here := chosen i g rfl
            exact ⟨List.forall_mem_cons.mpr ⟨fun _ => here,rest⟩,fun _ _ same => by cases same; exact here.trans wins.le⟩
          · simp only [decide_eq_false wins,Bool.false_eq_true,if_false] at chosen
            have here := chosen j e rfl
            exact ⟨List.forall_mem_cons.mpr ⟨fun _ => here.trans (not_lt.mp wins),rest⟩,fun _ _ same => by cases same; exact here⟩
      · simp only [if_neg fits] at chosen
        exact ⟨List.forall_mem_cons.mpr ⟨fun fit => absurd fit fits,rest⟩,chosen⟩
    · obtain ⟨empty,rest⟩ := missing none
      by_cases fits : req ≤ g.tamanio
      · simp only [if_pos fits] at empty
        cases elegido with
        | none => cases empty
        | some e =>
          simp only at empty
          split_ifs at empty
      · simp only [if_neg fits] at empty
        exact ⟨empty,List.forall_mem_cons.mpr ⟨not_le.mp fits,rest⟩⟩

private theorem best_fit_key : (fun nuevo mejor : Nat => decide (nuevo < mejor)) =
    (fun nuevo e : Nat => decide ((nuevo : Int) < (e : Int))) := by
  funext nuevo mejor
  simp
private theorem worst_fit_key : (fun nuevo peor : Nat => decide (nuevo > peor)) =
    (fun nuevo e : Nat => decide (-(nuevo : Int) < -(e : Int))) := by
  funext nuevo peor
  simp

/-- Best fit finds a smallest hole that is large enough, or there is none. -/
theorem best_fit_least (huecos : List Hueco) (req : Nat) :
    (∀ k h, buscar_hueco_best_fit huecos req = some (k,h) → ∀ g ∈ huecos, req ≤ g.tamanio → h.tamanio ≤ g.tamanio) ∧
    (buscar_hueco_best_fit huecos req = none → ∀ g ∈ huecos, g.tamanio < req) := by
  obtain ⟨least,missing⟩ := buscar_desde_least (fun n => (n : Int)) req huecos 0 none
  rw [buscar_hueco_best_fit,best_fit_key]
  exact ⟨fun k h found g member fits => by exact_mod_cast (least k h found).1 g member fits,fun none => (missing none).2⟩
/-- Worst fit finds a largest hole, when one is large enough. -/
theorem worst_fit_greatest (huecos : List Hueco) (req : Nat) :
    (∀ k h, buscar_hueco_worst_fit huecos req = some (k,h) → ∀ g ∈ huecos, req ≤ g.tamanio → g.tamanio ≤ h.tamanio) ∧
    (buscar_hueco_worst_fit huecos req = none → ∀ g ∈ huecos, g.tamanio < req) := by
  obtain ⟨least,missing⟩ := buscar_desde_least (fun n => -(n : Int)) req huecos 0 none
  rw [buscar_hueco_worst_fit,worst_fit_key]
  refine ⟨fun k h found g member fits => ?_,fun none => (missing none).2⟩
  have below := (least k h found).1 g member fits
  omega

/-- The hole that is occupied is taken off the list, or what is left of it stays. -/
theorem ocupar_perm {huecos : List Hueco} {i : Nat} {h : Hueco} (here : huecos[i]? = some h) (usado : Nat) :
    huecos.Perm (h :: huecos.eraseIdx i) ∧
    (hueco_ocupar huecos i usado).Perm (if h.tamanio = usado then huecos.eraseIdx i
      else ⟨u32 (h.base + usado),u32 (h.tamanio + 2^32 - usado)⟩ :: huecos.eraseIdx i) := by
  obtain ⟨inside,rfl⟩ := List.getElem?_eq_some_iff.mp here
  refine ⟨(List.getElem_cons_eraseIdx_perm inside).symm,?_⟩
  simp only [hueco_ocupar,here]
  split_ifs with whole
  · exact .refl _
  · set g : Hueco := ⟨u32 (huecos[i].base + usado),u32 (huecos[i].tamanio + 2^32 - usado)⟩
    have inside' : i < (huecos.set i g).length := by simpa using inside
    have moved := (List.getElem_cons_eraseIdx_perm inside').symm
    rwa [List.eraseIdx_set_eq,List.getElem_set_self] at moved

/-! ## Effect on the free addresses -/

theorem mem_rangos {huecos : List Hueco} {i : Nat} {h : Hueco} (here : huecos[i]? = some h) :
    h.rango ∈ rangos huecos := List.mem_map_of_mem (List.mem_of_getElem? here)

private theorem hits_erase {huecos : List Hueco} {i : Nat} {h : Hueco} (here : huecos[i]? = some h) (a : Nat) :
    hits (rangos (huecos.eraseIdx i)) a + one h.base h.tamanio a = hits (rangos huecos) a := by
  obtain ⟨inside,rfl⟩ := List.getElem?_eq_some_iff.mp here
  have split := hits_perm ((List.getElem_cons_eraseIdx_perm inside).map Hueco.rango) a
  simp only [List.map_cons,hits_cons,Hueco.rango] at split
  simp only [rangos]
  omega

private theorem hits_set {huecos : List Hueco} {i : Nat} {h : Hueco} (here : huecos[i]? = some h) (g : Hueco) (a : Nat) :
    hits (rangos (huecos.set i g)) a + one h.base h.tamanio a = hits (rangos huecos) a + one g.base g.tamanio a := by
  obtain ⟨inside,rfl⟩ := List.getElem?_eq_some_iff.mp here
  have before := hits_erase here a
  have after : hits (rangos ((huecos.set i g).eraseIdx i)) a + one g.base g.tamanio a = hits (rangos (huecos.set i g)) a :=
    hits_erase (by simp [inside]) a
  rw [List.eraseIdx_set_eq] at after
  omega

/-- Occupying the start of a hole takes exactly the occupied addresses off the free list. -/
theorem hits_ocupar {huecos : List Hueco} {i usado n : Nat} {h : Hueco} (here : huecos[i]? = some h)
    (fits : usado ≤ h.tamanio) (inside : h.base + h.tamanio ≤ n) (small : n < 2^32) (a : Nat) :
    hits (rangos (hueco_ocupar huecos i usado)) a + one h.base usado a = hits (rangos huecos) a := by
  unfold hueco_ocupar
  simp only [here]
  split_ifs with whole
  · subst whole
    exact hits_erase here a
  · have changed := hits_set here ⟨u32 (h.base + usado),u32 (h.tamanio + 2^32 - usado)⟩ a
    have base : u32 (h.base + usado) = h.base + usado := u32_of_lt (by omega)
    have size : u32 (h.tamanio + 2^32 - usado) = h.tamanio - usado := by unfold u32; omega
    have parts := one_split h.base usado (h.tamanio - usado) a
    rw [show usado + (h.tamanio - usado) = h.tamanio by omega] at parts
    simp only [base,size] at changed ⊢
    omega

theorem ocupar_inside {huecos : List Hueco} {i usado n : Nat} {h : Hueco} (here : huecos[i]? = some h)
    (fits : usado ≤ h.tamanio) (small : n < 2^32) (inside : ∀ r ∈ rangos huecos, r.base + r.size ≤ n) :
    ∀ r ∈ rangos (hueco_ocupar huecos i usado), r.base + r.size ≤ n := by
  intro r member
  have bound : h.base + h.tamanio ≤ n := inside h.rango (mem_rangos here)
  unfold hueco_ocupar at member
  simp only [here] at member
  obtain ⟨g,listed,rfl⟩ := List.mem_map.mp member
  split_ifs at listed with whole
  · exact inside g.rango (List.mem_map_of_mem (List.mem_of_mem_eraseIdx listed))
  · rcases List.mem_or_eq_of_mem_set listed with old | rfl
    · exact inside g.rango (List.mem_map_of_mem old)
    · simp only [Hueco.rango,u32]
      omega

/-- New memory appears on the free list once, merged with the last hole or not. -/
theorem hits_extender {huecos : List Hueco} {n nuevos : Nat} (inside : ∀ r ∈ rangos huecos, r.base + r.size ≤ n)
    (small : n + nuevos < 2^32) (a : Nat) :
    hits (rangos (huecos_extender huecos n nuevos)) a = hits (rangos huecos) a + one n nuevos a := by
  unfold huecos_extender
  rcases List.eq_nil_or_concat huecos with rfl | ⟨pre,ultimo,rfl⟩
  · simp [Hueco.rango]
  · have bound : ultimo.base + ultimo.tamanio ≤ n := inside ultimo.rango (by simp)
    simp only [List.concat_eq_append,List.getLast?_append_of_ne_nil _ (List.cons_ne_nil ultimo []),List.getLast?_singleton]
    split_ifs with touches
    · rw [u32_of_lt (by omega)] at touches
      have grown : u32 (ultimo.tamanio + nuevos) = ultimo.tamanio + nuevos := u32_of_lt (by omega)
      have parts := one_split ultimo.base ultimo.tamanio nuevos a
      rw [touches] at parts
      simp [Hueco.rango,grown,parts]
      omega
    · simp [Hueco.rango,Nat.add_assoc]

theorem extender_inside {huecos : List Hueco} {n nuevos : Nat} (inside : ∀ r ∈ rangos huecos, r.base + r.size ≤ n)
    (small : n + nuevos < 2^32) :
    ∀ r ∈ rangos (huecos_extender huecos n nuevos), r.base + r.size ≤ n + nuevos := by
  intro r member
  unfold huecos_extender at member
  rcases List.eq_nil_or_concat huecos with rfl | ⟨pre,ultimo,rfl⟩
  · simp [Hueco.rango] at member
    subst member
    exact le_refl _
  · have bound : ultimo.base + ultimo.tamanio ≤ n := inside ultimo.rango (by simp)
    have old : ∀ r ∈ rangos pre, r.base + r.size ≤ n := fun r listed => inside r (by simp [listed])
    simp only [List.concat_eq_append,List.getLast?_append_of_ne_nil _ (List.cons_ne_nil ultimo []),
      List.getLast?_singleton,List.dropLast_concat] at member
    split_ifs at member with touches
    · rw [u32_of_lt (by omega)] at touches
      have grown : u32 (ultimo.tamanio + nuevos) = ultimo.tamanio + nuevos := u32_of_lt (by omega)
      simp only [rangos_append,rangos_cons,rangos_nil,List.mem_append,List.mem_singleton] at member
      rcases member with listed | rfl
      · exact (old r listed).trans (by omega)
      · simp only [Hueco.rango,grown]
        omega
    · simp only [rangos_append,rangos_cons,rangos_nil,List.mem_append,List.mem_singleton] at member
      rcases member with (listed | rfl) | rfl
      · exact (old r listed).trans (by omega)
      · exact (show ultimo.base + ultimo.tamanio ≤ n + nuevos by omega)
      · exact le_refl _

/-! ## Tilings of memory -/

/-- The occupied start of a hole changes hands, whatever else covers the memory. -/
theorem ocupar_covers {huecos : List Hueco} {rs : List Range} {i usado n : Nat} {h : Hueco} (here : huecos[i]? = some h)
    (fits : usado ≤ h.tamanio) (small : n < 2^32) (covers : Covers (rangos huecos ++ rs) n) :
    Covers (rangos (hueco_ocupar huecos i usado) ++ ⟨h.base,usado⟩ :: rs) n where
  once a := by
    have bound : h.base + h.tamanio ≤ n := covers.inside h.rango (List.mem_append_left _ (mem_rangos here))
    have before := covers.once a
    have moved := hits_ocupar here fits bound small a
    simp only [hits_append,hits_cons] at before ⊢
    omega
  inside r member := by
    have bound : h.base + h.tamanio ≤ n := covers.inside h.rango (List.mem_append_left _ (mem_rangos here))
    rcases List.mem_append.mp member with free | taken
    · exact ocupar_inside here fits small (fun r listed => covers.inside r (List.mem_append_left _ listed)) r free
    · rcases List.mem_cons.mp taken with rfl | old
      · exact (show h.base + usado ≤ n by omega)
      · exact covers.inside r (List.mem_append_right _ old)

theorem extender_covers {huecos : List Hueco} {rs : List Range} {n nuevos : Nat} (small : n + nuevos < 2^32)
    (covers : Covers (rangos huecos ++ rs) n) : Covers (rangos (huecos_extender huecos n nuevos) ++ rs) (n + nuevos) where
  once a := by
    have before := covers.once a
    have grown := hits_extender (fun r listed => covers.inside r (List.mem_append_left _ listed)) small a
    have parts := one_split 0 n nuevos a
    simp only [hits_append] at before ⊢
    rw [Nat.zero_add] at parts
    omega
  inside r member := by
    rcases List.mem_append.mp member with free | taken
    · exact extender_inside (fun r listed => covers.inside r (List.mem_append_left _ listed)) small r free
    · exact (covers.inside r (List.mem_append_right _ taken)).trans (by omega)

@[simp] theorem rangos_liberar (huecos : List Hueco) (base tamanio : Nat) :
    rangos (hueco_liberar huecos base tamanio) = rangos huecos ++ [⟨base,tamanio⟩] := by
  simp [hueco_liberar,Hueco.rango]

/-- The holes left after a compaction cover what is above the segments. -/
theorem reconstruir_covers {rs : List Range} {base_libre n : Nat} (small : n < 2^32) (fits : base_libre ≤ n)
    (covers : Covers rs base_libre) : Covers (rangos (huecos_reconstruir base_libre n) ++ rs) n := by
  have size : u32 (n + 2^32 - base_libre) = n - base_libre := by unfold u32; omega
  unfold huecos_reconstruir
  rw [size]
  split_ifs with room
  · refine ⟨fun a => ?_,fun r member => ?_⟩
    · have parts := one_split 0 base_libre (n - base_libre) a
      rw [Nat.zero_add,show base_libre + (n - base_libre) = n by omega] at parts
      simp [Hueco.rango,covers.once a,parts,Nat.add_comm]
    · rcases List.mem_cons.mp member with rfl | listed
      · exact (show base_libre + (n - base_libre) ≤ n by omega)
      · exact (covers.inside r listed).trans fits
  · obtain rfl : base_libre = n := by omega
    exact covers

/-- The free total is the exact sum while the free memory fits in 32 bits. -/
theorem total_libre_eq {huecos : List Hueco} (small : sizes (rangos huecos) < 2^32) :
    huecos_total_libre huecos = sizes (rangos huecos) := by
  have scan : ∀ (huecos : List Hueco) (total : Nat), total + sizes (rangos huecos) < 2^32 →
      huecos.foldl (fun total h => u32 (total + h.tamanio)) total = total + sizes (rangos huecos) := by
    intro huecos
    induction huecos with
    | nil => intro total _; simp
    | cons h resto ih =>
      intro total small
      simp only [rangos_cons,sizes_cons,Hueco.rango] at small ⊢
      rw [List.foldl_cons,u32_of_lt (by omega),ih _ (by omega)]
      omega
  simpa [huecos_total_libre] using scan huecos 0 (by simpa using small)

end PlugNPray.Huecos
