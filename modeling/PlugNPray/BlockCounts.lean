import PlugNPray.Capacities

/-!
The block counts of a suspension for any block size that a swap may tell: when the
division has a divisor, and when its quotient is the number of blocks that hold the segment.
-/
namespace PlugNPray.BlockCounts
open PlugNPray.Runs PlugNPray.FlatMemory PlugNPray.Huecos PlugNPray.Sorting PlugNPray.KernelMemory PlugNPray.Operations
open PlugNPray.SwapCopies PlugNPray.Capacities

/-- One division of the first loop of `proceso_suspender`, with the `int` that the second loop keeps of it. -/
structure Cuenta where
  limite : Nat
  divisor : Nat
  blocks : Int
  deriving DecidableEq, Repr

/-- The divisions that a suspension starts with, when none of the early exits is taken. -/
def cuentas (pid : Int) (m : Estado) : List Cuenta :=
  if m.fd_swap = -1 then []
  else
    match contexto_buscar m pid with
    | none => []
    | some (_,ctx) =>
      if (buscar_proceso_swap m pid).isSome then []
      else ctx.tabla_segmentos.map (fun seg => ⟨seg.limite,a_u32 m.swap_block_size,int32 (bloques_de m seg.limite)⟩)

/-- There is a divisor, and the blocks are the fewest that hold the segment. -/
def Cuenta.Exacta (block_size : Int) (c : Cuenta) : Prop :=
  c.divisor ≠ 0 ∧ (1 ≤ c.limite → (c.blocks - 1) * block_size < c.limite ∧ c.limite ≤ c.blocks * block_size)

instance (block_size : Int) (c : Cuenta) : Decidable (c.Exacta block_size) := inferInstanceAs (Decidable (_ ∧ _))

/-- Nothing of this registers a swap. -/
def SinRegistro : Suceso → Prop
  | .pide op => registra op = 0
  | .memory_stick_eliminar _ => True

/-- No table has a segment larger than the memory. -/
def Limitada (m : Estado) : Prop := ∀ c ∈ m.lista_contextos, ∀ seg ∈ c.tabla_segmentos, seg.limite ≤ m.memoria_total

/-- Whatever happens after the registration, and whatever is in the tables, the counts are exact. -/
def Segura (orden : Sorter) (fd block_size swap_size : Int) (memoria_total : Nat) : Prop :=
  ∀ (m m' : Estado) (sucesos : List Suceso) (pid : Int), (∀ e ∈ sucesos, SinRegistro e) →
    run (sucede orden) sucesos (swap_registrar fd block_size swap_size m) = some m' →
    m'.memoria_total = memoria_total → Limitada m' → ∀ c ∈ cuentas pid m', c.Exacta block_size

/-- A block size other than zero. It is positive unless there is no memory at all, and no
    sum of the count goes over `uint32_t`, nor the count itself over `int`. -/
def Contada (block_size : Int) (memoria_total : Nat) : Prop :=
  block_size ≠ 0 ∧ (memoria_total = 0 ∨
    0 < block_size ∧ memoria_total + block_size ≤ 2^32 ∧ (block_size = 1 → memoria_total < 2^31))

/-! ## The quotient -/

theorem cuantos_lt {bloque : Nat} {limite : Nat} (some : 0 < bloque) (positive : 1 ≤ limite) :
    (cuantos bloque limite - 1) * bloque < limite := by
  have division := Nat.div_mul_le_self (limite + bloque - 1) bloque
  rw [Nat.sub_mul,Nat.one_mul]
  change cuantos bloque limite * bloque ≤ _ at division
  omega

section Cociente
variable {m : Estado} {limite : Nat}

/-- Where the sums stay inside, the count is the smallest that holds the segment. -/
theorem exacta_of_small (some : 0 < m.swap_block_size) (typed : m.swap_block_size < 2^31)
    (small : limite + m.swap_block_size ≤ 2^32) (single : m.swap_block_size = 1 → limite < 2^31) :
    Cuenta.Exacta m.swap_block_size ⟨limite,a_u32 m.swap_block_size,int32 (bloques_de m limite)⟩ := by
  have size : (m.bloque : Int) = m.swap_block_size := Int.toNat_of_nonneg some.le
  have positive : 0 < m.bloque := by omega
  have divisor : a_u32 m.swap_block_size = m.bloque := by
    simp only [a_u32]
    omega
  have nonzero : a_u32 m.swap_block_size ≠ 0 := by omega
  refine ⟨nonzero,?_⟩
  intro filled
  have count : bloques_de m limite = cuantos m.bloque limite :=
    bloques_de_exact some (typed.trans (by decide)) (by omega)
  have few : cuantos m.bloque limite < 2^31 := by
    by_cases one : m.bloque = 1
    · have low := cuantos_le limite positive
      have := single (by omega)
      omega
    · rw [cuantos,Nat.div_lt_iff_lt_mul positive]
      have two : 2 ≤ m.bloque := by omega
      have : 2^31 * 2 ≤ 2^31 * m.bloque := Nat.mul_le_mul_left _ two
      omega
  have below := cuantos_lt positive filled
  have above := le_cuantos limite positive
  have least : 1 ≤ cuantos m.bloque limite := by
    rcases Nat.eq_zero_or_pos (cuantos m.bloque limite) with zero | more
    · rw [zero,Nat.zero_mul] at above
      simp only at filled
      omega
    · exact more
  simp only [count,int32_exact few,← size]
  constructor
  · have : ((cuantos m.bloque limite - 1 : Nat) : Int) = cuantos m.bloque limite - 1 := by omega
    rw [← this]
    exact_mod_cast below
  · exact_mod_cast above

/-- Blocks with no bytes altogether hold no segment. -/
theorem not_exacta_of_few {block_size : Int} {c : Cuenta} (filled : 1 ≤ c.limite) (few : c.blocks * block_size ≤ 0) :
    ¬ c.Exacta block_size := by
  rintro ⟨_,holds⟩
  have above := (holds filled).2
  omega

/-- With a size below zero the quotient is zero or one. -/
theorem count_of_negative (negative : m.swap_block_size < 0) (typed : -2^31 ≤ m.swap_block_size) : 0 ≤ int32 (bloques_de m limite) := by
  have size : 2^31 ≤ a_u32 m.swap_block_size := by
    simp only [a_u32]
    omega
  have small : bloques_de m limite < 2^31 := by
    rw [bloques_de,Nat.div_lt_iff_lt_mul (by omega)]
    have : 2^31 * 2^31 ≤ 2^31 * a_u32 m.swap_block_size := Nat.mul_le_mul_left _ size
    have : u32 (u32 (limite + a_u32 m.swap_block_size) + (2^32 - 1)) < 2^32 := Nat.mod_lt _ (by decide)
    omega
  rw [int32_exact small]
  exact Int.natCast_nonneg _

/-- Past 2^32 the sum comes back below the block size. -/
theorem count_of_wrap (some : 0 < m.swap_block_size) (typed : m.swap_block_size < 2^31) (low : limite < 2^32)
    (large : 2^32 < limite + m.swap_block_size) : int32 (bloques_de m limite) = 0 := by
  have size : (a_u32 m.swap_block_size : Int) = m.swap_block_size := by
    simp only [a_u32]
    omega
  have rest : u32 (u32 (limite + a_u32 m.swap_block_size) + (2^32 - 1)) = limite + a_u32 m.swap_block_size - 1 - 2^32 := by
    unfold u32
    omega
  rw [bloques_de,rest,Nat.div_eq_of_lt (by omega)]
  rfl

/-- With blocks of one byte there are as many as bytes, too many for an `int` from 2^31 on. -/
theorem count_of_bytes (single : m.swap_block_size = 1) (low : limite < 2^32) (large : 2^31 ≤ limite) :
    int32 (bloques_de m limite) ≤ 0 := by
  have count : bloques_de m limite = limite := by
    have one : a_u32 1 = 1 := by decide
    rw [bloques_de,single,one,Nat.div_one]
    unfold u32
    omega
  have same : u32 limite = limite := u32_of_lt low
  rw [count,int32,same,if_neg (by omega)]
  omega

end Cociente

/-! ## Every registration -/

theorem block_size_suceder (orden : Sorter) {e : Suceso} (other : SinRegistro e) (m : Estado) :
    (suceder orden e m).swap_block_size = m.swap_block_size := by
  cases e with
  | pide op => exact block_size_aplicar orden other m
  | memory_stick_eliminar fd => rfl

theorem block_size_run (orden : Sorter) {sucesos : List Suceso} (other : ∀ e ∈ sucesos, SinRegistro e) {m m' : Estado}
    (reached : run (sucede orden) sucesos m = some m') : m'.swap_block_size = m.swap_block_size := by
  have keeps : Preserved (sucede orden) (fun e _ => SinRegistro e) (fun s => s.swap_block_size = m.swap_block_size) := by
    intro e s s' held other moved
    cases moved
    exact (block_size_suceder orden other s).trans held
  exact invariant_of_guarded keeps rfl (guarded_of_labels other m) reached

theorem cuentas_cases {pid : Int} {m : Estado} {c : Cuenta} (counted : c ∈ cuentas pid m) : ∃ i ctx seg,
    contexto_buscar m pid = some (i,ctx) ∧ seg ∈ ctx.tabla_segmentos ∧
    c = ⟨seg.limite,a_u32 m.swap_block_size,int32 (bloques_de m seg.limite)⟩ := by
  by_cases closed : m.fd_swap = -1
  · rw [cuentas,if_pos closed] at counted
    cases counted
  · rw [cuentas,if_neg closed] at counted
    cases found : contexto_buscar m pid with
    | none => simp [found] at counted
    | some ic =>
      simp only [found] at counted
      split_ifs at counted
      · cases counted
      · obtain ⟨seg,member,rfl⟩ := List.mem_map.mp counted
        exact ⟨ic.1,ic.2,seg,rfl,member,rfl⟩

/-- A state whose only process has one segment, as large as the memory. -/
def con_un_segmento (memoria_total : Nat) : Estado :=
  { inicial 0 true (fun _ => .responde) with
    lista_contextos := [⟨0,"a",[],[⟨0,0,memoria_total⟩]⟩]
    memoria_total := memoria_total }

/-- What a safe registration says of a segment as large as the memory. -/
theorem exacta_of_segura {orden : Sorter} {fd block_size swap_size : Int} {memoria_total : Nat} (connected : fd ≠ -1)
    (safe : Segura orden fd block_size swap_size memoria_total) :
    Cuenta.Exacta block_size ⟨memoria_total,a_u32 block_size,
      int32 (bloques_de (swap_registrar fd block_size swap_size (con_un_segmento memoria_total)) memoria_total)⟩ := by
  refine safe (con_un_segmento memoria_total) _ [] 0 (by simp) rfl rfl ?_ _ ?_
  · intro c listed seg member
    rw [List.mem_singleton.mp listed] at member
    rw [List.mem_singleton.mp member]
    exact Nat.le_refl _
  · have found : contexto_buscar (swap_registrar fd block_size swap_size (con_un_segmento memoria_total)) 0 =
        some (0,⟨0,"a",[],[⟨0,0,memoria_total⟩]⟩) := rfl
    have fresh : buscar_proceso_swap (swap_registrar fd block_size swap_size (con_un_segmento memoria_total)) 0 = none := rfl
    have open_fd : (swap_registrar fd block_size swap_size (con_un_segmento memoria_total)).fd_swap ≠ -1 := connected
    rw [cuentas,if_neg open_fd,found]
    simp only [fresh]
    exact List.mem_singleton.mpr rfl

/-- The block arithmetic of every suspension after a registration is safe exactly for the
    block sizes that are not zero and with which no sum and no count overflows. -/
theorem block_counts_safe_iff (orden : Sorter) (fd block_size swap_size : Int) (memoria_total : Nat) (connected : fd ≠ -1)
    (typed : -2^31 ≤ block_size ∧ block_size < 2^31) (small : memoria_total < 2^32) :
    Segura orden fd block_size swap_size memoria_total ↔ Contada block_size memoria_total := by
  constructor
  · intro safe
    have exact := exacta_of_segura connected safe
    have nonzero : block_size ≠ 0 := by
      rintro rfl
      exact exact.1 rfl
    refine ⟨nonzero,?_⟩
    rcases Nat.eq_zero_or_pos memoria_total with none | filled
    · exact .inl none
    have stored : (swap_registrar fd block_size swap_size (con_un_segmento memoria_total)).swap_block_size = block_size := rfl
    have positive : 0 < block_size := by
      rcases lt_trichotomy block_size 0 with negative | zero | positive
      · rw [← stored] at negative typed
        have some : 0 ≤ int32 (bloques_de (swap_registrar fd block_size swap_size (con_un_segmento memoria_total)) memoria_total) :=
          count_of_negative negative typed.1
        exact absurd exact (not_exacta_of_few filled (Int.mul_nonpos_of_nonneg_of_nonpos some negative.le))
      · exact absurd zero nonzero
      · exact positive
    refine .inr ⟨positive,?_,?_⟩
    · by_contra large
      have count := count_of_wrap (m := swap_registrar fd block_size swap_size (con_un_segmento memoria_total)) positive typed.2 small
        (by rw [stored]; omega)
      exact absurd exact (not_exacta_of_few filled (by rw [count,zero_mul]))
    · intro single
      by_contra large
      have count := count_of_bytes (m := swap_registrar fd block_size swap_size (con_un_segmento memoria_total)) (stored.trans single)
        small (by omega)
      exact absurd exact (not_exacta_of_few filled (Int.mul_nonpos_of_nonpos_of_nonneg count positive.le))
  · rintro ⟨nonzero,inside⟩ m m' sucesos pid other reached total limited c counted
    obtain ⟨i,ctx,seg,found,member,rfl⟩ := cuentas_cases counted
    have stored : m'.swap_block_size = block_size := block_size_run orden other reached
    have limit := limited ctx (contexto_mem found) seg member
    rw [total] at limit
    subst stored
    rcases inside with none | ⟨positive,fits,single⟩
    · have divisor : a_u32 m'.swap_block_size ≠ 0 := by
        simp only [a_u32]
        omega
      exact ⟨divisor,fun filled => absurd filled (by simp only; omega)⟩
    · exact exacta_of_small positive typed.2 (by omega) (by omega)

theorem block_counts_safe_iff_dos : Segura insertion_sorter 4 2 16 8 ↔ Contada 2 8 :=
  block_counts_safe_iff insertion_sorter 4 2 16 8 (by decide) (by decide) (by decide)

/-- A process of eight bytes, before any swap. -/
def con_segmento : Estado :=
  [Operacion.memory_stick_agregar ⟨3,8,"10.0.0.1",8002,fun _ => 0⟩,.contexto_crear 0 "a" [],.segmento_crear 0 0 8].foldl
    (fun m op => aplicar insertion_sorter op m) (inicial 0 true (fun _ => .responde))

/-- A swap that closed the connection after the handshake is registered with zeros, and the
    process is suspended before the disconnection is noticed. -/
theorem zero_block_divides : cuentas 0 (swap_registrar 4 0 0 con_segmento) = [⟨8,0,0⟩] ∧ ¬ Segura insertion_sorter 4 0 0 8 := by
  have counts : cuentas 0 (swap_registrar 4 0 0 con_segmento) = [⟨8,0,0⟩] := by decide +kernel
  refine ⟨counts,?_⟩
  intro safe
  have total : (swap_registrar 4 0 0 con_segmento).memoria_total = 8 := by decide +kernel
  have limited : ∀ c ∈ (swap_registrar 4 0 0 con_segmento).lista_contextos, ∀ seg ∈ c.tabla_segmentos,
      seg.limite ≤ (swap_registrar 4 0 0 con_segmento).memoria_total := by decide +kernel
  have exact := safe con_segmento _ [] 0 (by simp) rfl total limited ⟨8,0,0⟩ (counts ▸ List.mem_singleton.mpr rfl)
  exact exact.1 rfl

end PlugNPray.BlockCounts
