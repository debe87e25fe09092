import Mathlib

/-!
The MMU of a CPU: a logical address is a segment number and an offset, and the
access is checked against the limit of the segment in `uint32_t` arithmetic.
-/
namespace PlugNPray.Mmu

/-- An entry of the segment table that the CPU got with the context. -/
structure Segmento where
  id : Int32
  base : UInt32
  limite : UInt32
  deriving DecidableEq, Repr

def buscar_segmento_por_id (tabla_segmentos : List Segmento) (id_segmento : Int32) : Option Segmento :=
  tabla_segmentos.find? (fun segmento => segmento.id = id_segmento)

/-- The physical address, when the MMU admits the access. -/
def traducir_direccion (tam_max_segmento : UInt32) (tabla_segmentos : List Segmento)
    (direccion_logica tamanio_acceso : UInt32) : Option UInt32 :=
  if tam_max_segmento = 0 then none
  else
    let num_segmento := (direccion_logica / tam_max_segmento).toInt32
    let desplazamiento := direccion_logica % tam_max_segmento
    match buscar_segmento_por_id tabla_segmentos num_segmento with
    | none => none
    | some segmento =>
      if desplazamiento + tamanio_acceso > segmento.limite then none else some (segmento.base + desplazamiento)

/-! ## Accesses in exact arithmetic -/

/-- The number of the segment that the address is in. -/
def numero (tam_max_segmento direccion_logica : UInt32) : Nat := direccion_logica.toNat / tam_max_segmento.toNat
/-- The distance of the address from the start of its segment. -/
def offset (tam_max_segmento direccion_logica : UInt32) : Nat := direccion_logica.toNat % tam_max_segmento.toNat
/-- The first segment with the number as its id. -/
def segmento_numero (tabla_segmentos : List Segmento) (n : Int) : Option Segmento :=
  tabla_segmentos.find? (fun segmento => segmento.id.toInt = n)

section Accesos
variable (tam_max_segmento : UInt32) (tabla_segmentos : List Segmento) (direccion_logica tamanio_acceso : UInt32)

def segmento_de : Option Segmento := segmento_numero tabla_segmentos (numero tam_max_segmento direccion_logica)

/-- The access lies in its segment. -/
def Dentro : Prop := ∃ s, segmento_de tam_max_segmento tabla_segmentos direccion_logica = some s ∧
  offset tam_max_segmento direccion_logica + tamanio_acceso.toNat ≤ s.limite.toNat

/-- The MMU admits exactly the accesses that lie in their segment, and sends them into it. -/
def Protege : Prop :=
  ((traducir_direccion tam_max_segmento tabla_segmentos direccion_logica tamanio_acceso).isSome ↔
    Dentro tam_max_segmento tabla_segmentos direccion_logica tamanio_acceso) ∧
  ∀ df, traducir_direccion tam_max_segmento tabla_segmentos direccion_logica tamanio_acceso = some df →
    ∃ s, segmento_de tam_max_segmento tabla_segmentos direccion_logica = some s ∧
      s.base.toNat ≤ df.toNat ∧ df.toNat + tamanio_acceso.toNat ≤ s.base.toNat + s.limite.toNat

/-- The end of an access does not come back into the segment modulo 2^32, and an access
    inside the segment has an address below 2^32. -/
def SinVuelta (s : Segmento) : Prop :=
  let fin := offset tam_max_segmento direccion_logica + tamanio_acceso.toNat
  if fin < 2^32 then fin ≤ s.limite.toNat → s.base.toNat + offset tam_max_segmento direccion_logica < 2^32
  else s.limite.toNat < fin - 2^32

/-- No sum of the translation goes over 2^32 to any effect, nor the segment number over
    the largest `int`. -/
def SinDesborde : Prop :=
  if numero tam_max_segmento direccion_logica < 2^31 then
    ∀ s, segmento_de tam_max_segmento tabla_segmentos direccion_logica = some s →
      SinVuelta tam_max_segmento direccion_logica tamanio_acceso s
  else ∀ s, segmento_numero tabla_segmentos (numero tam_max_segmento direccion_logica - 2^32 : Int) = some s →
      s.limite.toNat < tamanio_acceso.toNat

end Accesos

variable {tam_max_segmento : UInt32} {tabla_segmentos : List Segmento} {direccion_logica tamanio_acceso : UInt32}

/-! ## The arithmetic of the translation -/

theorem toInt_toInt32 (n : UInt32) : n.toInt32.toInt = if n.toNat < 2^31 then (n.toNat : Int) else n.toNat - 2^32 := by
  have same : n.toInt32.toInt = n.toBitVec.toInt := rfl
  have value : n.toBitVec.toNat = n.toNat := rfl
  rw [same,BitVec.toInt_eq_toNat_cond,value]
  split_ifs <;> omega

theorem buscar_numero (tabla_segmentos : List Segmento) (id_segmento : Int32) :
    buscar_segmento_por_id tabla_segmentos id_segmento = segmento_numero tabla_segmentos id_segmento.toInt := by
  have same : ∀ s : Segmento, decide (s.id = id_segmento) = decide (s.id.toInt = id_segmento.toInt) := by
    intro s
    rw [decide_eq_decide]
    exact Int32.toInt_inj.symm
  simp only [buscar_segmento_por_id,segmento_numero,same]

/-- The segment that the code looks at. -/
def segmento_mirado (tam_max_segmento : UInt32) (tabla_segmentos : List Segmento) (direccion_logica : UInt32) : Option Segmento :=
  segmento_numero tabla_segmentos (if numero tam_max_segmento direccion_logica < 2^31 then
    (numero tam_max_segmento direccion_logica : Int) else numero tam_max_segmento direccion_logica - 2^32)

/-- The translation with its sums written out. -/
theorem traducir_eq (some_size : tam_max_segmento ≠ 0) :
    traducir_direccion tam_max_segmento tabla_segmentos direccion_logica tamanio_acceso =
      (segmento_mirado tam_max_segmento tabla_segmentos direccion_logica).bind (fun s =>
        if (offset tam_max_segmento direccion_logica + tamanio_acceso.toNat) % 2^32 > s.limite.toNat then none
        else some (s.base + direccion_logica % tam_max_segmento)) := by
  have quotient : (direccion_logica / tam_max_segmento).toNat = numero tam_max_segmento direccion_logica := UInt32.toNat_div _ _
  have rest : (direccion_logica % tam_max_segmento).toNat = offset tam_max_segmento direccion_logica := UInt32.toNat_mod _ _
  simp only [traducir_direccion,if_neg some_size,buscar_numero,toInt_toInt32,quotient]
  rw [← segmento_mirado]
  cases segmento_mirado tam_max_segmento tabla_segmentos direccion_logica with
  | none => rfl
  | some s =>
    have test : direccion_logica % tam_max_segmento + tamanio_acceso > s.limite ↔
        (offset tam_max_segmento direccion_logica + tamanio_acceso.toNat) % 2^32 > s.limite.toNat := by
      rw [gt_iff_lt,UInt32.lt_iff_toNat_lt,UInt32.toNat_add,rest]
    simp only [test,Option.bind_some]

theorem base_mas_offset (s : Segmento) (direccion_logica tam_max_segmento : UInt32) :
    (s.base + direccion_logica % tam_max_segmento).toNat = (s.base.toNat + offset tam_max_segmento direccion_logica) % 2^32 := by
  rw [UInt32.toNat_add,UInt32.toNat_mod]
  rfl

/-! ## When the check is exact -/

private theorem protege_of_none (some_size : tam_max_segmento ≠ 0)
    (unseen : segmento_mirado tam_max_segmento tabla_segmentos direccion_logica = none)
    (absent : segmento_de tam_max_segmento tabla_segmentos direccion_logica = none) :
    Protege tam_max_segmento tabla_segmentos direccion_logica tamanio_acceso := by
  have refused : traducir_direccion tam_max_segmento tabla_segmentos direccion_logica tamanio_acceso = none := by
    rw [traducir_eq some_size,unseen]
    rfl
  constructor
  · rw [refused]
    simp [Dentro,absent]
  · intro df admitted
    rw [refused] at admitted
    cases admitted

/-- Inside the range of `int` everything turns on the two sums. -/
private theorem protege_iff_sin_vuelta {s : Segmento} (some_size : tam_max_segmento ≠ 0)
    (seen : segmento_mirado tam_max_segmento tabla_segmentos direccion_logica = some s)
    (here : segmento_de tam_max_segmento tabla_segmentos direccion_logica = some s) :
    Protege tam_max_segmento tabla_segmentos direccion_logica tamanio_acceso ↔
      SinVuelta tam_max_segmento direccion_logica tamanio_acceso s := by
  have size := tamanio_acceso.toNat_lt
  have low : offset tam_max_segmento direccion_logica < 2^32 :=
    (Nat.mod_le _ _).trans_lt direccion_logica.toNat_lt
  have base := s.base.toNat_lt
  have limite := s.limite.toNat_lt
  have address := base_mas_offset s direccion_logica tam_max_segmento
  have dentro : Dentro tam_max_segmento tabla_segmentos direccion_logica tamanio_acceso ↔
      offset tam_max_segmento direccion_logica + tamanio_acceso.toNat ≤ s.limite.toNat := by
    simp [Dentro,here]
  simp only [Protege,dentro,traducir_eq some_size,seen,here,Option.bind_some,SinVuelta,Option.some.injEq,exists_eq_left']
  generalize offset tam_max_segmento direccion_logica = d at *
  by_cases refused : (d + tamanio_acceso.toNat) % 2^32 > s.limite.toNat
  · simp only [if_pos refused,Option.isSome_none,Bool.false_eq_true,false_iff,reduceCtorEq,false_imp_iff,implies_true,and_true]
    split_ifs <;> omega
  · simp only [if_neg refused,Option.isSome_some,true_iff,Option.some.injEq,forall_eq',address]
    split_ifs <;> omega

/-- Beyond the range of `int` there is no such segment, and the code looks at another one. -/
private theorem protege_iff_refused (some_size : tam_max_segmento ≠ 0) (high : ¬ numero tam_max_segmento direccion_logica < 2^31) :
    Protege tam_max_segmento tabla_segmentos direccion_logica tamanio_acceso ↔
      ∀ s, segmento_numero tabla_segmentos (numero tam_max_segmento direccion_logica - 2^32 : Int) = some s →
        s.limite.toNat < tamanio_acceso.toNat := by
  have absent : segmento_de tam_max_segmento tabla_segmentos direccion_logica = none := by
    refine List.find?_eq_none.mpr (fun s _ => ?_)
    have bound := s.id.toInt_lt
    simp only [decide_eq_true_eq]
    omega
  -- Only a maximum size of one byte leaves so large a quotient.
  have byte : offset tam_max_segmento direccion_logica = 0 := by
    have bound := direccion_logica.toNat_lt
    have positive : 0 < tam_max_segmento.toNat := Nat.pos_of_ne_zero (fun zero => some_size (UInt32.toNat_inj.mp zero))
    have unit : tam_max_segmento.toNat = 1 := by
      by_contra larger
      have half : direccion_logica.toNat / tam_max_segmento.toNat ≤ direccion_logica.toNat / 2 :=
        Nat.div_le_div_left (by omega) (by omega)
      simp only [numero] at high
      omega
    rw [offset,unit,Nat.mod_one]
  have size := tamanio_acceso.toNat_lt
  have dentro : ¬ Dentro tam_max_segmento tabla_segmentos direccion_logica tamanio_acceso := by
    simp [Dentro,absent]
  simp only [Protege,traducir_eq some_size,segmento_mirado,if_neg high,dentro,absent,byte,Nat.zero_add,Nat.mod_eq_of_lt size]
  cases segmento_numero tabla_segmentos (numero tam_max_segmento direccion_logica - 2^32 : Int) with
  | none => simp
  | some s =>
    by_cases refused : tamanio_acceso.toNat > s.limite.toNat
    · simp [refused]
    · simp [refused]

/-- The MMU protects the segments on exactly the accesses whose sums stay in range. -/
theorem traducir_protects_iff (tam_max_segmento : UInt32) (tabla_segmentos : List Segmento)
    (direccion_logica tamanio_acceso : UInt32) (some_size : tam_max_segmento ≠ 0) :
    Protege tam_max_segmento tabla_segmentos direccion_logica tamanio_acceso ↔
      SinDesborde tam_max_segmento tabla_segmentos direccion_logica tamanio_acceso := by
  by_cases low : numero tam_max_segmento direccion_logica < 2^31
  · have seen : segmento_mirado tam_max_segmento tabla_segmentos direccion_logica =
        segmento_de tam_max_segmento tabla_segmentos direccion_logica := by
      rw [segmento_mirado,if_pos low,segmento_de]
    simp only [SinDesborde,if_pos low]
    cases here : segmento_de tam_max_segmento tabla_segmentos direccion_logica with
    | none =>
      rw [here] at seen
      simpa using protege_of_none some_size seen here
    | some s =>
      rw [here] at seen
      simpa using protege_iff_sin_vuelta some_size seen here
  · simp only [SinDesborde,if_neg low]
    exact protege_iff_refused some_size low

/-- Four bytes at the end of a segment of ten, and the check refuses them. -/
theorem traducir_protects_fin : Protege 64 [⟨0,20,10⟩] 8 4 :=
  (traducir_protects_iff 64 [⟨0,20,10⟩] 8 4 (by decide)).mpr (by
    intro s here
    cases here
    exact fun _ => by decide)

/-- A size near 2^32 brings the end of the access back into the segment. -/
theorem traducir_lets_wrapped_through : traducir_direccion 64 [⟨0,20,10⟩] 4 (2^32 - 1 : Nat).toUInt32 = some 24 ∧
    ¬ Protege 64 [⟨0,20,10⟩] 4 (2^32 - 1 : Nat).toUInt32 := by
  have admitted : traducir_direccion 64 [⟨0,20,10⟩] 4 (2^32 - 1 : Nat).toUInt32 = some 24 := by decide
  refine ⟨admitted,fun protects => ?_⟩
  obtain ⟨s,here,fits⟩ := protects.1.mp (by rw [admitted]; rfl)
  cases here
  revert fits
  decide

end PlugNPray.Mmu
