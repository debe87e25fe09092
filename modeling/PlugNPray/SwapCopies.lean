import PlugNPray.Partition

/-!
Copies to the swap and back, whatever sticks and swap answer: which blocks are taken,
what is written to them, what is given back when a request fails, and what the
sticks hold after the way back.
-/
namespace PlugNPray.SwapCopies
open PlugNPray.Intervals PlugNPray.Places PlugNPray.FlatMemory PlugNPray.Huecos PlugNPray.Sticks
open PlugNPray.KernelMemory PlugNPray.Operations PlugNPray.Compaction PlugNPray.Partition

/-- The bytes of some blocks of the swap, one block after the other. -/
def en_bloques (bloque : Nat) (archivo : Nat → UInt8) (bloques : List Nat) : List UInt8 :=
  bloques.flatMap (fun b => load archivo (b * bloque) bloque)
/-- The blocks among the candidates that the bitmap has as free. -/
def libres (usados : List Bool) (candidatos : List Nat) : List Nat := candidatos.filter (fun b => !usados.getD b true)

/-! ## The bitmap -/

theorem marcar_getD (usados : List Bool) (b c : Nat) :
    (usados.set b true).getD c true = (usados.getD c true || decide (c = b)) := by
  by_cases same : b = c
  · subst same
    by_cases inside : b < usados.length
    · simp [List.getElem?_set_self inside]
    · have outside : (usados.set b true).length ≤ b := by simpa using Nat.le_of_not_lt inside
      simp [List.getElem?_eq_none outside]
  · simp [List.getElem?_set_ne same,show ¬ c = b from fun h => same h.symm]

theorem desmarcar_getD {usados : List Bool} {bloques : List Nat} {c : Nat} (other : c ∉ bloques) :
    (bloques.foldl (fun usados b => usados.set b false) usados).getD c true = usados.getD c true := by
  induction bloques generalizing usados with
  | nil => rfl
  | cons b resto ih =>
    simp only [List.mem_cons,not_or] at other
    rw [List.foldl_cons,ih other.2]
    simp [List.getElem?_set_ne (Ne.symm other.1)]

theorem desmarcar_length (bloques : List Nat) (usados : List Bool) :
    (bloques.foldl (fun usados b => usados.set b false) usados).length = usados.length := by
  induction bloques generalizing usados with
  | nil => rfl
  | cons b resto ih => rw [List.foldl_cons,ih,List.length_set]

theorem desmarcar_mem {usados : List Bool} {bloques : List Nat} {c : Nat} (member : c ∈ bloques) (inside : c < usados.length) :
    (bloques.foldl (fun usados b => usados.set b false) usados).getD c true = false := by
  induction bloques generalizing usados with
  | nil => cases member
  | cons b resto ih =>
    rw [List.foldl_cons]
    by_cases later : c ∈ resto
    · exact ih later (by simpa using inside)
    · rw [desmarcar_getD later,(List.mem_cons.mp member).resolve_right later]
      have here : b < usados.length := (List.mem_cons.mp member).resolve_right later ▸ inside
      simp [List.getElem?_set_self here]

theorem libres_length (usados : List Bool) :
    (libres usados (List.range usados.length)).length = usados.countP (fun u => !u) := by
  have entries : (List.range usados.length).map (fun b => usados.getD b true) = usados := by
    refine List.ext_getElem (by simp) (fun k inside inside' => ?_)
    simp [List.getElem?_eq_getElem inside']
  conv_rhs => rw [← entries,List.countP_map]
  rw [libres,← List.countP_eq_length_filter]
  rfl

theorem swap_bloques_libres_eq {m : Estado} (size : m.swap_bloques_usados.length = m.swap_total_bloques.toNat) :
    swap_bloques_libres m = (libres m.swap_bloques_usados (List.range m.swap_total_bloques.toNat)).length := by
  rw [swap_bloques_libres,← size,List.take_length,libres_length]

/-! ## Requests that are answered -/

theorem respuestas_next {f : Fisica} (answers : TodoResponde f) : (fun k => f.respuestas (k + 1)) = f.respuestas := by
  funext k
  rw [answers k,answers (k + 1)]

theorem leer_ok {m : Estado} {dir tam : Nat} (answers : TodoResponde m.toFisica) (small : tamanios m.lista_memory_sticks < 2^32)
    (inside : dir + tam ≤ tamanios m.lista_memory_sticks) :
    m.leer dir tam = (some (load (plano m.lista_memory_sticks) dir tam),m) := by
  obtain ⟨later,sound,total⟩ := leer_spec (f := m.toFisica) dir tam small (by omega)
  have sticks := leer_sticks m.toFisica dir tam
  have same : (memoria_fisica_leer m.toFisica dir tam).2 = m.toFisica := by
    have answers' := responde_of_avanza later answers
    have equal : (memoria_fisica_leer m.toFisica dir tam).2.respuestas = m.respuestas := by
      funext k
      rw [answers' k,answers k]
    generalize (memoria_fisica_leer m.toFisica dir tam).2 = f at sticks equal
    obtain ⟨g,r⟩ := f
    cases sticks
    cases equal
    rfl
  obtain ⟨bytes,read⟩ := Option.isSome_iff_exists.mp (total answers inside)
  simp only [Estado.leer,same,read,sound bytes read]

theorem escribir_ok {m : Estado} (dir : Nat) (bytes : List UInt8) (answers : TodoResponde m.toFisica)
    (small : tamanios m.lista_memory_sticks < 2^32) (inside : dir + bytes.length ≤ tamanios m.lista_memory_sticks) :
    ∃ f : Fisica, m.escribir dir bytes = (true,Estado.con_datos m f m.swap_bloques_usados m.archivo_swap) ∧
      plano f.lista_memory_sticks = store (plano m.lista_memory_sticks) dir bytes ∧
      tamanios f.lista_memory_sticks = tamanios m.lista_memory_sticks ∧ TodoResponde f := by
  obtain ⟨later,_,written,total⟩ := escribir_spec (f := m.toFisica) dir bytes small (by omega)
  have ok := total answers inside
  refine ⟨(memoria_fisica_escribir m.toFisica dir bytes).2,?_,written ok,
    tamanios_of_ficha (escribir_fichas m.toFisica dir bytes),responde_of_avanza later answers⟩
  simp only [Estado.escribir,ok]
  rfl

private theorem blocks_apart {b c : Nat} (bloque : Nat) (other : c ≠ b) : c * bloque + bloque ≤ b * bloque ∨ b * bloque + bloque ≤ c * bloque := by
  rcases Nat.lt_or_gt_of_ne other with below | above
  · exact .inl (by rw [← Nat.succ_mul]; exact Nat.mul_le_mul_right _ below)
  · exact .inr (by rw [← Nat.succ_mul]; exact Nat.mul_le_mul_right _ above)

/-- Only the answers still to come, the bitmap and the file of the swap differ. -/
def Estado.con_swap (m : Estado) (respuestas : Nat → Respuesta) (usados : List Bool) (archivo : Nat → UInt8) : Estado :=
  Estado.con_datos m ⟨m.lista_memory_sticks,respuestas⟩ usados archivo

@[simp] theorem con_swap_self (m : Estado) : Estado.con_swap m m.respuestas m.swap_bloques_usados m.archivo_swap = m := rfl

/-- A physical read takes answers and nothing else. -/
theorem leer_frame (m : Estado) (dir tam : Nat) : ∃ leidos respuestas,
    m.leer dir tam = (leidos,Estado.con_swap m respuestas m.swap_bloques_usados m.archivo_swap) := by
  have sticks := leer_sticks m.toFisica dir tam
  refine ⟨(m.leer dir tam).1,(m.leer dir tam).2.respuestas,?_⟩
  simp [Estado.leer,Estado.con_swap,Estado.con_datos,← sticks]

/-- A block request changes at most the bytes of the block, and writes what it was given when
    it is answered. -/
private theorem escribir_bloque_spec (b : Nat) (contenido : List UInt8) (m : Estado) (fits : contenido.length ≤ m.bloque) :
    ∃ ok respuestas archivo,
      swap_escribir_bloque b contenido m = (ok,Estado.con_swap m respuestas m.swap_bloques_usados archivo) ∧
      (∀ c, c ≠ b → load archivo (c * m.bloque) m.bloque = load m.archivo_swap (c * m.bloque) m.bloque) ∧
      (ok = true → archivo = store m.archivo_swap (b * m.bloque) contenido) ∧
      (TodoResponde m.toFisica → ok = true ∧ respuestas = m.respuestas) := by
  have apart : ∀ bytes : List UInt8, bytes.length ≤ m.bloque → ∀ c, c ≠ b →
      load (store m.archivo_swap (b * m.bloque) bytes) (c * m.bloque) m.bloque = load m.archivo_swap (c * m.bloque) m.bloque := by
    intro bytes small c other
    have places := blocks_apart m.bloque other
    exact load_store_apart m.archivo_swap (by omega)
  unfold swap_escribir_bloque
  cases answer : m.respuestas 0 with
  | falla basura =>
    refine ⟨false,_,_,rfl,apart _ (by simp),fun bad => by simp at bad,fun answers => ?_⟩
    rw [answers 0] at answer
    cases answer
  | responde =>
    refine ⟨true,_,_,rfl,apart contenido fits,fun _ => rfl,fun answers => ⟨rfl,respuestas_next answers⟩⟩

/-! ## Taking blocks -/

/-- The scan has taken the first `k` free candidates, and no other block has changed. -/
structure Marcado (k : Nat) (candidatos : List Nat) (m : Estado) (nuevos : List Nat) (usados : List Bool)
    (archivo : Nat → UInt8) : Prop where
  first : nuevos = (libres m.swap_bloques_usados candidatos).take k
  rest : libres usados candidatos = (libres m.swap_bloques_usados candidatos).drop k
  size : usados.length = m.swap_bloques_usados.length
  marks : ∀ c, usados.getD c true = (m.swap_bloques_usados.getD c true || decide (c ∈ nuevos))
  others : ∀ b ∉ nuevos, load archivo (b * m.bloque) m.bloque = load m.archivo_swap (b * m.bloque) m.bloque

private theorem marcado_none (candidatos : List Nat) (m : Estado) :
    Marcado 0 candidatos m [] m.swap_bloques_usados m.archivo_swap :=
  ⟨rfl,rfl,rfl,by simp,fun _ _ => rfl⟩

/-- A candidate that is in use is passed over. -/
private theorem marcado_skip {k b : Nat} {resto nuevos : List Nat} {m : Estado} {usados : List Bool} {archivo : Nat → UInt8}
    (used : m.swap_bloques_usados.getD b true = true) (spec : Marcado k resto m nuevos usados archivo) :
    Marcado k (b :: resto) m nuevos usados archivo := by
  have skip : libres m.swap_bloques_usados (b :: resto) = libres m.swap_bloques_usados resto := by
    simp [libres,-List.getD_eq_getElem?_getD,used]
  have skip' : libres usados (b :: resto) = libres usados resto := by
    have marked := spec.marks b
    rw [used,Bool.true_or] at marked
    simp [libres,-List.getD_eq_getElem?_getD,marked]
  exact ⟨by rw [skip]; exact spec.first,by rw [skip,skip']; exact spec.rest,spec.size,spec.marks,spec.others⟩

/-- A free candidate is taken and its block written; the scan goes on behind it. -/
private theorem marcado_take {k b : Nat} {resto nuevos : List Nat} {m : Estado} {usados : List Bool} {archivo escrito : Nat → UInt8}
    {respuestas : Nat → Respuesta} (fresh : b ∉ resto) (used : m.swap_bloques_usados.getD b true = false)
    (written : ∀ c, c ≠ b → load escrito (c * m.bloque) m.bloque = load m.archivo_swap (c * m.bloque) m.bloque)
    (spec : Marcado k resto (Estado.con_swap m respuestas (m.swap_bloques_usados.set b true) escrito) nuevos usados archivo) :
    Marcado (k + 1) (b :: resto) m (b :: nuevos) usados archivo := by
  obtain ⟨first,rest,size,kept,others⟩ := spec
  have free : libres m.swap_bloques_usados (b :: resto) = b :: libres m.swap_bloques_usados resto := by
    simp only [libres,List.filter_cons,used,Bool.not_false,if_true]
  have unchanged : libres (m.swap_bloques_usados.set b true) resto = libres m.swap_bloques_usados resto := by
    refine List.filter_congr (fun c member => ?_)
    have other : c ≠ b := fun same => fresh (same ▸ member)
    simp only [marcar_getD,other,decide_false,Bool.or_false]
  have first : nuevos = (libres m.swap_bloques_usados resto).take k := by rw [← unchanged]; exact first
  have rest : libres usados resto = (libres m.swap_bloques_usados resto).drop k := by rw [← unchanged]; exact rest
  have marks : ∀ c, usados.getD c true = (m.swap_bloques_usados.getD c true || decide (c ∈ b :: nuevos)) := by
    intro c
    refine (kept c).trans ?_
    change ((m.swap_bloques_usados.set b true).getD c true || _) = _
    simp only [marcar_getD,List.mem_cons,Bool.decide_or,Bool.or_assoc]
  refine ⟨?_,?_,size.trans (List.length_set ..),marks,fun c other => ?_⟩
  · rw [free,List.take_succ_cons,first]
  · have taken : libres usados (b :: resto) = libres usados resto := by
      have marked := marks b
      simp only [List.mem_cons,true_or,decide_true,Bool.or_true] at marked
      simp only [libres,List.filter_cons,marked,Bool.not_true]
      rfl
    rw [taken,free,List.drop_succ_cons,rest]
  · simp only [List.mem_cons,not_or] at other
    exact (others c other.2).trans (written c other.1)

/-- The scan for one segment, whatever the swap answers: the blocks that it marks were free,
    no other block changes, and if all goes well as many as there are, up to the number
    asked for, hold the buffer. -/
theorem tomar_spec (buffer : List UInt8) (n : Nat) : ∀ (candidatos tomados : List Nat) (m : Estado), candidatos.Nodup →
    n * m.bloque ≤ buffer.length → ∃ ok k nuevos respuestas usados archivo,
      tomar_bloques buffer (n : Int) candidatos tomados m = (ok,tomados ++ nuevos,Estado.con_swap m respuestas usados archivo) ∧
      Marcado k candidatos m nuevos usados archivo ∧
      (ok = true → k = n - tomados.length ∧
        en_bloques m.bloque archivo nuevos = (buffer.drop (tomados.length * m.bloque)).take (nuevos.length * m.bloque)) ∧
      (TodoResponde m.toFisica → ok = true ∧ respuestas = m.respuestas) := by
  intro candidatos
  induction candidatos with
  | nil =>
    intro tomados m _ _
    refine ⟨true,n - tomados.length,[],m.respuestas,m.swap_bloques_usados,m.archivo_swap,by simp [tomar_bloques],?_,
      fun _ => ⟨rfl,by simp [en_bloques]⟩,fun _ => ⟨rfl,rfl⟩⟩
    exact ⟨by simp [libres],by simp [libres],rfl,by simp,fun _ _ => rfl⟩
  | cons b resto ih =>
    intro tomados m nodup room
    obtain ⟨fresh,nodup⟩ := List.nodup_cons.mp nodup
    unfold tomar_bloques
    by_cases more : (tomados.length : Int) < n
    · simp only [more,if_true]
      cases used : m.swap_bloques_usados.getD b true with
      | true =>
        simp only [if_true]
        obtain ⟨ok,k,nuevos,respuestas,usados,archivo,done,spec,data,answered⟩ := ih tomados m nodup room
        exact ⟨ok,k,nuevos,respuestas,usados,archivo,done,marcado_skip used spec,data,answered⟩
      | false =>
        simp only [Bool.false_eq_true,if_false]
        set marcado : Estado := { m with swap_bloques_usados := m.swap_bloques_usados.set b true } with marcadoIs
        set pieza := (buffer.drop (tomados.length * m.bloque)).take m.bloque with piezaIs
        have enough : (tomados.length + 1) * m.bloque ≤ n * m.bloque := Nat.mul_le_mul_right _ (by omega)
        rw [Nat.succ_mul] at enough
        have len : pieza.length = m.bloque := by
          simp only [piezaIs,List.length_take,List.length_drop]
          omega
        obtain ⟨ok,respuestas,escrito,wrote,others,stored,answered⟩ := escribir_bloque_spec b pieza marcado len.le
        have wrote : swap_escribir_bloque b ((buffer.drop (tomados.length * marcado.bloque)).take marcado.bloque) marcado =
            (ok,Estado.con_swap m respuestas (m.swap_bloques_usados.set b true) escrito) := wrote
        rw [wrote]
        cases ok with
        | false =>
          refine ⟨false,1,[b],respuestas,m.swap_bloques_usados.set b true,escrito,rfl,?_,fun bad => (by cases bad),fun answers => ?_⟩
          · exact marcado_take fresh used others
              (marcado_none resto (Estado.con_swap m respuestas (m.swap_bloques_usados.set b true) escrito))
          · cases (answered answers).1
        | true =>
          obtain ⟨ok,k,nuevos,respuestas',usados,archivo,done,spec,data,answered'⟩ :=
            ih (tomados ++ [b]) (Estado.con_swap m respuestas (m.swap_bloques_usados.set b true) escrito) nodup room
          refine ⟨ok,k + 1,b :: nuevos,respuestas',usados,archivo,?_,marcado_take fresh used others spec,fun good => ?_,
            fun answers => ?_⟩
          · rw [List.append_assoc] at done
            exact done
          · obtain ⟨count,data⟩ := data good
            rw [List.length_append,List.length_singleton] at count data
            have later : b ∉ nuevos := by
              rw [spec.first]
              exact fun member => fresh (List.mem_of_mem_filter (List.mem_of_mem_take member))
            have here : load archivo (b * m.bloque) m.bloque = pieza := by
              refine (spec.others b later).trans ?_
              have same := load_store_same m.archivo_swap (b * m.bloque) pieza
              rw [len] at same
              exact (congrArg (fun mem => load mem (b * m.bloque) m.bloque) (stored rfl)).trans same
            refine ⟨by omega,?_⟩
            have data : en_bloques m.bloque archivo nuevos =
                (buffer.drop ((tomados.length + 1) * m.bloque)).take (nuevos.length * m.bloque) := data
            rw [en_bloques,List.flatMap_cons,here,← en_bloques,data,piezaIs,List.length_cons,Nat.succ_mul,Nat.succ_mul,
              Nat.add_comm (nuevos.length * m.bloque),List.take_add,List.drop_drop]
          · obtain ⟨_,first⟩ := answered answers
            subst first
            exact answered' answers
    · simp only [more,if_false]
      have none : n - tomados.length = 0 := by omega
      exact ⟨true,0,[],m.respuestas,m.swap_bloques_usados,m.archivo_swap,by simp,marcado_none _ m,
        fun _ => ⟨none.symm,by simp [en_bloques]⟩,fun _ => ⟨rfl,rfl⟩⟩

/-! ## Block counts -/

/-- The blocks that a segment needs. -/
def cuantos (bloque limite : Nat) : Nat := (limite + bloque - 1) / bloque

theorem cuantos_le {bloque : Nat} (limite : Nat) (some : 0 < bloque) : cuantos bloque limite ≤ limite := by
  rw [cuantos,Nat.div_le_iff_le_mul_add_pred some]
  have grow : limite ≤ bloque * limite := Nat.le_mul_of_pos_left limite some
  omega
theorem le_cuantos {bloque : Nat} (limite : Nat) (some : 0 < bloque) : limite ≤ cuantos bloque limite * bloque := by
  have division := Nat.div_add_mod (limite + bloque - 1) bloque
  have rest := Nat.mod_lt (limite + bloque - 1) some
  rw [Nat.mul_comm] at division
  rw [cuantos]
  omega

/-- The machine arithmetic of the block count is exact up to a sum of 2^32. -/
theorem bloques_de_exact {m : Estado} {limite : Nat} (some : 0 < m.swap_block_size) (bound : m.swap_block_size < 2^32)
    (small : limite + m.bloque ≤ 2^32) : bloques_de m limite = cuantos m.bloque limite := by
  have size : a_u32 m.swap_block_size = m.bloque := by
    simp only [a_u32,Estado.bloque] at *
    omega
  have positive : 0 < m.bloque := by simp only [Estado.bloque]; omega
  have less : u32 (u32 (limite + m.bloque) + (2^32 - 1)) = limite + m.bloque - 1 := by
    unfold u32
    omega
  rw [bloques_de,size,cuantos,less]

theorem int32_exact {n : Nat} (small : n < 2^31) : int32 n = n := by
  have low : u32 n = n := u32_of_lt (by omega)
  simp only [int32,low,small,if_true]

/-- No sum goes over when the blocks of a table are counted. -/
def Contable (m : Estado) (tabla : List Segmento) : Prop :=
  (∀ seg ∈ tabla, seg.limite + m.bloque ≤ 2^32) ∧ (tabla.map (fun seg => cuantos m.bloque seg.limite)).sum < 2^31

instance (m : Estado) (tabla : List Segmento) : Decidable (Contable m tabla) := by unfold Contable; infer_instance

theorem contable_of_small {m : Estado} {tabla : List Segmento} (positive : 0 < m.bloque)
    (small : sizes (tabla.map rango) + m.bloque < 2^31) : Contable m tabla := by
  induction tabla with
  | nil => exact ⟨by simp,by simp⟩
  | cons seg resto ih =>
    simp only [List.map_cons,sizes_cons,rango] at small
    obtain ⟨fits,sum⟩ := ih (by omega)
    have few := cuantos_le seg.limite positive
    have rest : (resto.map (fun seg => cuantos m.bloque seg.limite)).sum ≤ sizes (resto.map rango) := by
      rw [sizes,List.map_map]
      exact List.sum_le_sum (fun s _ => cuantos_le s.limite positive)
    refine ⟨List.forall_mem_cons.mpr ⟨by omega,fits⟩,?_⟩
    simp only [List.map_cons,List.sum_cons]
    omega

theorem contable_counts {m : Estado} {tabla : List Segmento} (some : 0 < m.swap_block_size) (bound : m.swap_block_size < 2^32)
    (contable : Contable m tabla) : ∀ seg ∈ tabla, int32 (bloques_de m seg.limite) = cuantos m.bloque seg.limite := by
  intro seg member
  have below := List.le_sum_of_mem (List.mem_map_of_mem (f := fun seg : Segmento => cuantos m.bloque seg.limite) member)
  rw [bloques_de_exact some bound (contable.1 seg member),int32_exact (below.trans_lt contable.2)]

theorem bloques_necesarios_exact {m : Estado} {tabla : List Segmento} (some : 0 < m.swap_block_size)
    (bound : m.swap_block_size < 2^32) (contable : Contable m tabla) :
    bloques_necesarios m tabla = ((tabla.map (fun seg => cuantos m.bloque seg.limite)).sum : Nat) := by
  obtain ⟨fits,small⟩ := contable
  have scan : ∀ (tabla : List Segmento) (n : Nat), (∀ seg ∈ tabla, seg.limite + m.bloque ≤ 2^32) →
      n + (tabla.map (fun seg => cuantos m.bloque seg.limite)).sum < 2^31 →
      tabla.foldl (fun n seg => u32 (n + bloques_de m seg.limite)) n =
        n + (tabla.map (fun seg => cuantos m.bloque seg.limite)).sum := by
    intro tabla
    induction tabla with
    | nil => intro n _ _; simp
    | cons seg resto ih =>
      intro n fits small
      obtain ⟨here,fits⟩ := List.forall_mem_cons.mp fits
      simp only [List.map_cons,List.sum_cons,List.foldl_cons] at small ⊢
      rw [bloques_de_exact some bound here,u32_of_lt (by omega),ih _ fits (by omega),Nat.add_assoc]
  have total := scan tabla 0 fits (by omega)
  rw [Nat.zero_add] at total
  rw [bloques_necesarios,total,int32_exact small]

/-- A table whose machine counts do not exceed the free blocks really has blocks for all of it. -/
def Bastan (m : Estado) (tabla : List Segmento) : Prop :=
  bloques_necesarios m tabla ≤ swap_bloques_libres m →
    (∀ seg ∈ tabla, int32 (bloques_de m seg.limite) = cuantos m.bloque seg.limite) ∧
    ((tabla.map (fun seg => cuantos m.bloque seg.limite)).sum : Nat) ≤ swap_bloques_libres m

instance (m : Estado) (tabla : List Segmento) : Decidable (Bastan m tabla) := by unfold Bastan; infer_instance

theorem bastan_of_contable {m : Estado} {tabla : List Segmento} (some : 0 < m.swap_block_size) (bound : m.swap_block_size < 2^32)
    (contable : Contable m tabla) : Bastan m tabla := by
  intro enough
  rw [bloques_necesarios_exact some bound contable] at enough
  exact ⟨contable_counts some bound contable,enough⟩

/-! ## Copying a table -/

/-- A segment as the process sees it: its id and its bytes. -/
def contenido (mem : Nat → UInt8) (s : Segmento) : Int × List UInt8 := (s.id,load mem s.base s.limite)
/-- The same for a segment in the swap, without the padding. -/
def contenido_swap (bloque : Nat) (archivo : Nat → UInt8) (ss : SegmentoSwap) : Int × List UInt8 :=
  (ss.id,(en_bloques bloque archivo ss.bloques).take ss.limite)
/-- The blocks that some segments have in the swap. -/
def ocupados (segmentos : List SegmentoSwap) : List Nat := segmentos.flatMap SegmentoSwap.bloques

/-- The blocks that the suspended processes list, one after the other. -/
def listados (procesos : List ProcesoSwap) : List Nat := procesos.flatMap (fun ps => ocupados ps.segmentos)

@[simp] theorem listados_nil : listados [] = [] := rfl
@[simp] theorem listados_cons (ps : ProcesoSwap) (resto : List ProcesoSwap) :
    listados (ps :: resto) = ocupados ps.segmentos ++ listados resto := rfl
@[simp] theorem listados_append (pre post : List ProcesoSwap) : listados (pre ++ post) = listados pre ++ listados post :=
  List.flatMap_append

theorem contenido_congr {mem mem' : Nat → UInt8} {s : Segmento}
    (same : load mem' s.base s.limite = load mem s.base s.limite) : contenido mem' s = contenido mem s :=
  congrArg (Prod.mk s.id) same

theorem contenido_swap_congr {bloque : Nat} {archivo archivo' : Nat → UInt8} {ss : SegmentoSwap}
    (same : ∀ b ∈ ss.bloques, load archivo' (b * bloque) bloque = load archivo (b * bloque) bloque) :
    contenido_swap bloque archivo' ss = contenido_swap bloque archivo ss := by
  have blocks : en_bloques bloque archivo' ss.bloques = en_bloques bloque archivo ss.bloques :=
    List.flatMap_congr same
  rw [contenido_swap,contenido_swap,blocks]

/-- Which blocks some segments got in the swap: blocks that were free, and no other is marked.
    The blocks that were in use before keep their bytes. -/
structure Reservado (m : Estado) (nuevos : List SegmentoSwap) (usados : List Bool) (archivo : Nat → UInt8) : Prop where
  free : ∀ b ∈ ocupados nuevos, m.swap_bloques_usados.getD b true = false
  nodup : (ocupados nuevos).Nodup
  size : usados.length = m.swap_bloques_usados.length
  marks : ∀ c, usados.getD c true = (m.swap_bloques_usados.getD c true || decide (c ∈ ocupados nuevos))
  others : ∀ b, m.swap_bloques_usados.getD b true = true →
    load archivo (b * m.bloque) m.bloque = load m.archivo_swap (b * m.bloque) m.bloque

/-- What the copy of a table leaves in the swap. -/
structure Copiado (tabla : List Segmento) (m : Estado) (nuevos : List SegmentoSwap) (usados : List Bool)
    (archivo : Nat → UInt8) : Prop extends Reservado m nuevos usados archivo where
  names : nuevos.map (fun ss => (ss.id,ss.limite)) = tabla.map (fun seg => (seg.id,seg.limite))
  count : ∀ ss ∈ nuevos, ss.cantidad_bloques = cuantos m.bloque ss.limite ∧ ss.bloques.length = cuantos m.bloque ss.limite
  data : tamanios m.lista_memory_sticks < 2^32 → (∀ seg ∈ tabla, seg.base < 2^32) →
    nuevos.map (contenido_swap m.bloque archivo) = tabla.map (contenido (plano m.lista_memory_sticks))

theorem reservado_none (m : Estado) : Reservado m [] m.swap_bloques_usados m.archivo_swap :=
  ⟨by simp [ocupados],by simp [ocupados],rfl,by simp [ocupados],fun _ _ => rfl⟩

/-- The bitmap is what it was once the blocks are given back. -/
theorem reservado_undone {m : Estado} {nuevos : List SegmentoSwap} {usados : List Bool} {archivo : Nat → UInt8}
    (spec : Reservado m nuevos usados archivo) :
    (ocupados nuevos).foldl (fun usados b => usados.set b false) usados = m.swap_bloques_usados := by
  have entry : ∀ c, ((ocupados nuevos).foldl (fun usados b => usados.set b false) usados).getD c true =
      m.swap_bloques_usados.getD c true := by
    intro c
    by_cases mine : c ∈ ocupados nuevos
    · have free := spec.free c mine
      rw [free]
      refine desmarcar_mem mine ?_
      rw [spec.size]
      by_contra outside
      rw [List.getD_eq_getElem?_getD,List.getElem?_eq_none (not_lt.mp outside)] at free
      cases free
    · rw [desmarcar_getD mine,spec.marks c]
      simp [mine]
  refine List.ext_getElem ((desmarcar_length _ _).trans spec.size) (fun k inside inside' => ?_)
  have same := entry k
  rwa [List.getD_eq_getElem _ _ inside,List.getD_eq_getElem _ _ inside'] at same

/-- The blocks of one segment and then those of the others, which are other blocks. -/
private theorem reservado_cons {m : Estado} {ss : SegmentoSwap} {copias : List SegmentoSwap} {respuestas : Nat → Respuesta}
    {usados usados' : List Bool} {archivo archivo' : Nat → UInt8} (here : Reservado m [ss] usados archivo)
    (later : Reservado (Estado.con_swap m respuestas usados archivo) copias usados' archivo') :
    Reservado m (ss :: copias) usados' archivo' := by
  have one : ocupados [ss] = ss.bloques := by simp [ocupados]
  have all : ocupados (ss :: copias) = ss.bloques ++ ocupados copias := by simp [ocupados]
  obtain ⟨free,nodup,size,marks,others⟩ := here
  obtain ⟨free',nodup',size',marks',others'⟩ := later
  simp only [one] at free nodup marks
  have unmarked : ∀ b ∈ ocupados copias, usados.getD b true = false := free'
  have apart : ∀ b ∈ ss.bloques, b ∉ ocupados copias := by
    intro b mine theirs
    have marked := marks b
    rw [unmarked b theirs] at marked
    simp [mine] at marked
  refine ⟨fun b member => ?_,?_,size'.trans size,fun c => ?_,fun b used => ?_⟩
  · rw [all] at member
    rcases List.mem_append.mp member with mine | theirs
    · exact free b mine
    · have before := unmarked b theirs
      rw [marks b] at before
      exact (Bool.or_eq_false_iff.mp before).1
  · rw [all]
    exact nodup.append nodup' apart
  · have second : usados'.getD c true = (usados.getD c true || decide (c ∈ ocupados copias)) := marks' c
    rw [second,marks c,all]
    simp only [List.mem_append,Bool.decide_or,Bool.or_assoc]
  · refine (others' b ?_).trans (others b used)
    change usados.getD b true = true
    rw [marks b,used,Bool.true_or]

/-- The copy of one segment followed by the copies of the others. -/
private theorem copiado_cons {seg : Segmento} {resto : List Segmento} {m : Estado} {ss : SegmentoSwap} {copias : List SegmentoSwap}
    {respuestas : Nat → Respuesta} {usados usados' : List Bool} {archivo archivo' : Nat → UInt8}
    (here : Copiado [seg] m [ss] usados archivo)
    (later : Copiado resto (Estado.con_swap m respuestas usados archivo) copias usados' archivo') :
    Copiado (seg :: resto) m (ss :: copias) usados' archivo' := by
  refine ⟨reservado_cons here.toReservado later.toReservado,?_,?_,fun small low => ?_⟩
  · rw [List.map_cons,List.map_cons,later.names]
    exact congrArg (· :: _) (List.cons.inj here.names).1
  · exact List.forall_mem_cons.mpr ⟨here.count ss (by simp),later.count⟩
  · obtain ⟨first,rest⟩ := List.forall_mem_cons.mp low
    have head : contenido_swap m.bloque archivo' ss = contenido_swap m.bloque archivo ss := by
      refine contenido_swap_congr (fun b mine => later.others b ?_)
      refine (here.marks b).trans ?_
      simp [ocupados,mine]
    rw [List.map_cons,head]
    refine congrArg₂ (· :: ·) (List.cons.inj (here.data small ?_)).1 (later.data small rest)
    simpa using first

/-- The copy of a table with exact block counts and enough free blocks: when a request fails
    the blocks of the failed segment are free again, and otherwise every segment is copied. -/
theorem copiar_spec : ∀ (tabla : List Segmento) (copiados : List SegmentoSwap) (m : Estado), 0 < m.bloque →
    (∀ seg ∈ tabla, int32 (bloques_de m seg.limite) = cuantos m.bloque seg.limite) →
    (tabla.map (fun seg => cuantos m.bloque seg.limite)).sum ≤
      (libres m.swap_bloques_usados (List.range m.swap_total_bloques.toNat)).length →
    ∃ ok nuevos respuestas usados archivo, copiar_segmentos tabla copiados m =
        (ok,copiados ++ nuevos,Estado.con_swap m respuestas usados archivo) ∧ Reservado m nuevos usados archivo ∧
      (ok = true → Copiado tabla m nuevos usados archivo) ∧
      (TodoResponde m.toFisica → tamanios m.lista_memory_sticks < 2^32 →
        (∀ seg ∈ tabla, seg.base + seg.limite ≤ tamanios m.lista_memory_sticks) → ok = true ∧ respuestas = m.respuestas) := by
  intro tabla
  induction tabla with
  | nil =>
    intro copiados m _ _ _
    exact ⟨true,[],m.respuestas,m.swap_bloques_usados,m.archivo_swap,by simp [copiar_segmentos],reservado_none m,
      fun _ => ⟨reservado_none m,rfl,by simp,fun _ _ => rfl⟩,fun _ _ _ => ⟨rfl,rfl⟩⟩
  | cons seg resto ih =>
    intro copiados m positive counts enough
    obtain ⟨count,counts⟩ := List.forall_mem_cons.mp counts
    have fits := le_cuantos seg.limite positive
    simp only [List.map_cons,List.sum_cons] at enough
    have nonneg : ¬ ((cuantos m.bloque seg.limite : Nat) : Int) < 0 := by omega
    obtain ⟨leidos,respuestas,read⟩ := leer_frame m seg.base seg.limite
    unfold copiar_segmentos
    simp only [count,nonneg,if_false,Int.toNat_natCast,read]
    cases leidos with
    | none =>
      refine ⟨false,[],respuestas,m.swap_bloques_usados,m.archivo_swap,by simp,⟨by simp [ocupados],by simp [ocupados],rfl,
        by simp [ocupados],fun _ _ => rfl⟩,fun bad => (by cases bad),fun answers small inside => ?_⟩
      rw [leer_ok answers small (inside seg (by simp))] at read
      cases read
    | some leidos =>
      simp only
      set n := cuantos m.bloque seg.limite with nIs
      set leido := Estado.con_swap m respuestas m.swap_bloques_usados m.archivo_swap with leidoIs
      set buffer := leidos ++ List.replicate (n * leido.bloque - leidos.length) 0 with bufferIs
      have len : n * m.bloque ≤ buffer.length := by
        have same : leido.bloque = m.bloque := rfl
        simp only [bufferIs,same,List.length_append,List.length_replicate]
        omega
      obtain ⟨ok,k,tomados,respuestas',usados,archivo,taken,spec,good,answered⟩ :=
        tomar_spec buffer n (List.range m.swap_total_bloques.toNat) [] leido List.nodup_range len
      have taken : tomar_bloques buffer (n : Int) (List.range leido.swap_total_bloques.toNat) [] leido =
          (ok,tomados,Estado.con_swap m respuestas' usados archivo) := taken
      obtain ⟨first,rest,size,marks,others⟩ := spec
      have first : tomados = (libres m.swap_bloques_usados (List.range m.swap_total_bloques.toNat)).take k := first
      have free : ∀ b ∈ tomados, m.swap_bloques_usados.getD b true = false := by
        intro b member
        rw [first] at member
        simpa using (List.mem_filter.mp (List.mem_of_mem_take member)).2
      have nodup : tomados.Nodup := by
        rw [first]
        exact (List.nodup_range.filter _).sublist (List.take_sublist _ _)
      have kept : ∀ b, m.swap_bloques_usados.getD b true = true →
          load archivo (b * m.bloque) m.bloque = load m.archivo_swap (b * m.bloque) m.bloque := by
        intro b used
        refine others b (fun member => ?_)
        rw [free b member] at used
        cases used
      have one : ocupados [(⟨seg.id,seg.limite,n,tomados⟩ : SegmentoSwap)] = tomados := by simp [ocupados]
      have mine : Reservado m [⟨seg.id,seg.limite,n,tomados⟩] usados archivo :=
        ⟨by rw [one]; exact free,by rw [one]; exact nodup,size,by rw [one]; exact marks,kept⟩
      rw [taken]
      cases ok with
      | false =>
        have undone := reservado_undone mine
        rw [one] at undone
        refine ⟨false,[],respuestas',m.swap_bloques_usados,archivo,?_,⟨by simp [ocupados],by simp [ocupados],rfl,
          by simp [ocupados],kept⟩,fun bad => (by cases bad),fun answers small inside => ?_⟩
        · simp only [List.append_nil]
          rw [← undone]
          rfl
        · have same := leer_ok answers small (inside seg (by simp))
          rw [read] at same
          obtain ⟨_,same⟩ := Prod.mk.inj same
          have answers' : TodoResponde leido.toFisica := by rw [same]; exact answers
          cases (answered answers').1
      | true =>
        obtain ⟨kIs,stored⟩ := good rfl
        simp only [List.length_nil,Nat.sub_zero] at kIs
        subst kIs
        have size' : tomados.length = n := by rw [first,List.length_take]; omega
        have left : (libres usados (List.range m.swap_total_bloques.toNat)).length + n =
            (libres m.swap_bloques_usados (List.range m.swap_total_bloques.toNat)).length := by
          have rest : libres usados (List.range m.swap_total_bloques.toNat) =
            (libres m.swap_bloques_usados (List.range m.swap_total_bloques.toNat)).drop n := rest
          rw [rest,List.length_drop]
          omega
        have single : Copiado [seg] m [⟨seg.id,seg.limite,n,tomados⟩] usados archivo := by
          refine ⟨mine,rfl,by simpa using ⟨nIs,size'.trans nIs⟩,fun small low => ?_⟩
          obtain ⟨_,sound,_⟩ := leer_spec (f := m.toFisica) seg.base seg.limite small (low seg (by simp))
          have bytes : leidos = load (plano m.lista_memory_sticks) seg.base seg.limite :=
            sound leidos (congrArg Prod.fst read)
          have exact_len : buffer.length = n * m.bloque := by
            have same : leido.bloque = m.bloque := rfl
            simp only [bufferIs,same,List.length_append,List.length_replicate,bytes,load_length]
            omega
          have stored : en_bloques m.bloque archivo tomados = (buffer.drop (0 * m.bloque)).take (tomados.length * m.bloque) := stored
          have written : (en_bloques m.bloque archivo tomados).take seg.limite = leidos := by
            rw [stored,size',Nat.zero_mul,List.drop_zero,List.take_of_length_le exact_len.le,bufferIs,
              List.take_left' (by rw [bytes,load_length])]
          simp [contenido_swap,contenido,written,bytes]
        have enough' : (resto.map (fun seg => cuantos m.bloque seg.limite)).sum ≤
            (libres usados (List.range m.swap_total_bloques.toNat)).length := by omega
        obtain ⟨ok,copias,respuestas'',usados',archivo',done,reserved,copied,answered'⟩ :=
          ih (copiados ++ [⟨seg.id,seg.limite,n,tomados⟩]) (Estado.con_swap m respuestas' usados archivo) positive counts enough'
        refine ⟨ok,⟨seg.id,seg.limite,n,tomados⟩ :: copias,respuestas'',usados',archivo',?_,reservado_cons mine reserved,
          fun good => copiado_cons single (copied good),fun answers small inside => ?_⟩
        · rw [List.append_assoc] at done
          exact done
        · have same := leer_ok answers small (inside seg (by simp))
          rw [read] at same
          obtain ⟨_,same⟩ := Prod.mk.inj same
          have again : respuestas' = m.respuestas := by
            have answers' : TodoResponde leido.toFisica := by rw [same]; exact answers
            exact (answered answers').2.trans (congrArg (fun e : Estado => e.respuestas) same)
          subst again
          exact answered' answers small (fun s member => inside s (List.mem_cons_of_mem _ member))

/-! ## The way back -/

theorem en_bloques_length (bloque : Nat) (archivo : Nat → UInt8) (bloques : List Nat) :
    (en_bloques bloque archivo bloques).length = bloques.length * bloque := by
  simp [en_bloques,List.length_flatMap]

/-- The swap is connected and will answer a request for each of the blocks. -/
def Legibles (bloques : List Nat) (m : Estado) : Prop :=
  (bloques ≠ [] → m.fd_swap ≠ -1) ∧ ∀ j < bloques.length, m.respuestas j = .responde

/-- Every block of the placed segments can be read and every segment be written. -/
def Restaurable (i : Nat) : List (SegmentoSwap × Nat) → Estado → Prop
  | [], _ => True
  | (ss,base) :: resto, m =>
    Legibles ss.bloques m ∧
    let leidos := leer_bloques ss.bloques [] m
    let escrito := leidos.2.escribir base (leidos.1.take ss.limite)
    escrito.1 = true ∧ Restaurable i resto (escrito.2.con_tabla i (fun tabla => tabla ++ [⟨ss.id,base,ss.limite⟩]))

theorem leer_bloques_ok : ∀ (bloques : List Nat) (buffer : List UInt8) (m : Estado), Legibles bloques m →
    leer_bloques bloques buffer m = (buffer ++ en_bloques m.bloque m.archivo_swap bloques,
      Estado.con_swap m (fun k => m.respuestas (k + bloques.length)) (m.desmarcar bloques).swap_bloques_usados m.archivo_swap) := by
  intro bloques
  induction bloques with
  | nil => intro buffer m _; simp [leer_bloques,en_bloques,Estado.desmarcar]
  | cons b resto ih =>
    intro buffer m legible
    obtain ⟨connected,answers⟩ := legible
    have connected := connected (List.cons_ne_nil b resto)
    have read : swap_leer_bloque b m = (load m.archivo_swap (b * m.bloque) m.bloque,
        { m with respuestas := fun k => m.respuestas (k + 1) }) := by
      unfold swap_leer_bloque
      rw [if_neg connected,answers 0 (by simp)]
    have rest : Legibles resto ({ m with respuestas := fun k => m.respuestas (k + 1) }.desmarcar [b]) :=
      ⟨fun _ => connected,fun j inside => answers (j + 1) (by simpa using inside)⟩
    simp only [leer_bloques,read]
    refine (ih _ _ rest).trans ?_
    rw [List.append_assoc]
    have shift : (fun k => m.respuestas (k + resto.length + 1)) = fun k => m.respuestas (k + (b :: resto).length) := by
      funext k
      rw [List.length_cons,Nat.add_assoc]
    refine congrArg₂ Prod.mk rfl ?_
    rw [← shift]
    rfl

/-- A write that succeeds has written the array. -/
theorem escribir_written {m : Estado} {dir : Nat} {bytes : List UInt8} (ok : (m.escribir dir bytes).1 = true)
    (small : tamanios m.lista_memory_sticks < 2^32) (low : dir < 2^32) :
    ∃ f : Fisica, (m.escribir dir bytes).2 = Estado.con_datos m f m.swap_bloques_usados m.archivo_swap ∧
      plano f.lista_memory_sticks = store (plano m.lista_memory_sticks) dir bytes ∧
      tamanios f.lista_memory_sticks = tamanios m.lista_memory_sticks ∧ Avanza m.respuestas f.respuestas := by
  obtain ⟨later,_,written,_⟩ := escribir_spec (f := m.toFisica) dir bytes small low
  exact ⟨(memoria_fisica_escribir m.toFisica dir bytes).2,rfl,written ok,
    tamanios_of_ficha (escribir_fichas m.toFisica dir bytes),later⟩

/-- What the restored segments find in memory, and what everybody else does, when no request fails. -/
theorem restaurar_spec (i : Nat) : ∀ (ubicados : List (SegmentoSwap × Nat)) (otros : List Range) (m : Estado),
    Restaurable i ubicados m → tamanios m.lista_memory_sticks < 2^32 →
    (∀ u ∈ ubicados, u.1.limite ≤ u.1.bloques.length * m.bloque) → (∀ u ∈ ubicados, u.2 < 2^32) →
    (∀ a, hits (ubicados.map rango_ubicado ++ otros) a ≤ 1) →
    ∃ f : Fisica, restaurar i ubicados m = Estado.con_tabla (Estado.con_datos m f
        (m.desmarcar (ocupados (ubicados.map Prod.fst))).swap_bloques_usados m.archivo_swap) i
          (fun tabla => tabla ++ ubicados.map a_segmento) ∧
      Avanza m.respuestas f.respuestas ∧ tamanios f.lista_memory_sticks = tamanios m.lista_memory_sticks ∧
      (∀ r ∈ otros, load (plano f.lista_memory_sticks) r.base r.size = load (plano m.lista_memory_sticks) r.base r.size) ∧
      (ubicados.map a_segmento).map (contenido (plano f.lista_memory_sticks)) =
        ubicados.map (fun u => contenido_swap m.bloque m.archivo_swap u.1) := by
  intro ubicados
  induction ubicados with
  | nil =>
    intro otros m _ _ _ _ _
    refine ⟨m.toFisica,?_,avanza_refl _,rfl,fun _ _ => rfl,rfl⟩
    simp only [restaurar,List.map_nil,List.append_nil,con_tabla_id]
    rfl
  | cons u resto ih =>
    intro otros m possible small full low apart
    obtain ⟨ss,base⟩ := u
    obtain ⟨legible,wrote,possible⟩ := possible
    have reads := leer_bloques_ok ss.bloques [] m legible
    simp only [reads,List.nil_append] at wrote possible
    set bytes := (en_bloques m.bloque m.archivo_swap ss.bloques).take ss.limite with bytesIs
    set leido := Estado.con_swap m (fun k => m.respuestas (k + ss.bloques.length)) (m.desmarcar ss.bloques).swap_bloques_usados
      m.archivo_swap with leidoIs
    have len : bytes.length = ss.limite := by
      have enough := full (ss,base) (by simp)
      rw [bytesIs,List.length_take,en_bloques_length]
      exact Nat.min_eq_left enough
    obtain ⟨f,frame,flat,same,later⟩ := escribir_written wrote small (low (ss,base) (by simp))
    have frame : (leido.escribir base bytes).2 =
        Estado.con_datos m f (m.desmarcar ss.bloques).swap_bloques_usados m.archivo_swap := frame
    rw [frame] at possible
    have flat : plano f.lista_memory_sticks = store (plano m.lista_memory_sticks) base bytes := flat
    have same : tamanios f.lista_memory_sticks = tamanios m.lista_memory_sticks := same
    simp only [List.map_cons,List.cons_append] at apart
    have apart' : ∀ a, hits (resto.map rango_ubicado ++ ⟨base,ss.limite⟩ :: otros) a ≤ 1 := by
      intro a
      rw [hits_perm List.perm_middle a]
      exact apart a
    obtain ⟨g,done,later',same',kept,data⟩ := ih (⟨base,ss.limite⟩ :: otros)
      (Estado.con_tabla (Estado.con_datos m f (m.desmarcar ss.bloques).swap_bloques_usados m.archivo_swap) i
        (fun tabla => tabla ++ [⟨ss.id,base,ss.limite⟩]))
      possible (by rw [← same] at small; exact small) (fun u member => full u (List.mem_cons_of_mem _ member))
      (fun u member => low u (List.mem_cons_of_mem _ member)) apart'
    have same' : tamanios g.lista_memory_sticks = tamanios f.lista_memory_sticks := same'
    refine ⟨g,?_,?_,same'.trans same,fun r member => ?_,?_⟩
    · simp only [restaurar,reads,List.nil_append]
      rw [← bytesIs,frame]
      refine done.trans ?_
      have marks : (m.desmarcar (ocupados (((ss,base) :: resto).map Prod.fst))).swap_bloques_usados =
          ((m.desmarcar ss.bloques).desmarcar (ocupados (resto.map Prod.fst))).swap_bloques_usados := by
        simp [Estado.desmarcar,ocupados,List.foldl_append]
      rw [marks]
      exact con_tabla_entries (Estado.con_datos m g _ m.archivo_swap) i (ss,base) resto
    · have first : Avanza m.respuestas leido.respuestas := ⟨ss.bloques.length,fun _ => rfl⟩
      exact avanza_trans (avanza_trans first later) later'
    · refine (kept r (List.mem_cons_of_mem _ member)).trans ?_
      refine (congrArg (fun mem => load mem r.base r.size) flat).trans ?_
      exact load_store_other (r := ⟨base,ss.limite⟩) _ apart (List.mem_append_right _ member) len
    · have mine : load (plano g.lista_memory_sticks) base ss.limite = bytes := by
        refine (kept ⟨base,ss.limite⟩ (by simp)).trans ?_
        refine (congrArg (fun mem => load mem base ss.limite) flat).trans ?_
        rw [← len]
        exact load_store_same _ base bytes
      rw [List.map_cons,List.map_cons,List.map_cons,data]
      simp only [contenido,a_segmento,mine]
      rfl

/-- While everything answers every segment placed inside memory can be restored. -/
theorem restaurable_of_responde (i : Nat) : ∀ (ubicados : List (SegmentoSwap × Nat)) (m : Estado), TodoResponde m.toFisica →
    m.fd_swap ≠ -1 → tamanios m.lista_memory_sticks < 2^32 →
    (∀ r ∈ ubicados.map rango_ubicado, r.base + r.size ≤ tamanios m.lista_memory_sticks) → Restaurable i ubicados m := by
  intro ubicados
  induction ubicados with
  | nil => intro m _ _ _ _; trivial
  | cons u resto ih =>
    intro m answers connected small inside
    obtain ⟨ss,base⟩ := u
    have here : base + ss.limite ≤ tamanios m.lista_memory_sticks := inside ⟨base,ss.limite⟩ (by simp [rango_ubicado])
    have legible : Legibles ss.bloques m := ⟨fun _ => connected,fun j _ => answers j⟩
    have reads := leer_bloques_ok ss.bloques [] m legible
    set leido := Estado.con_swap m (fun k => m.respuestas (k + ss.bloques.length)) (m.desmarcar ss.bloques).swap_bloques_usados
      m.archivo_swap with leidoIs
    have answers' : TodoResponde leido.toFisica := fun k => answers _
    obtain ⟨f,wrote,_,same,answers''⟩ := escribir_ok base
      ((en_bloques m.bloque m.archivo_swap ss.bloques).take ss.limite) answers' small
      (le_trans (Nat.add_le_add_left (List.length_take_le _ _) base) here)
    have same : tamanios f.lista_memory_sticks = tamanios m.lista_memory_sticks := same
    refine ⟨legible,?_⟩
    simp only [reads,List.nil_append,wrote,true_and]
    exact ih _ answers'' connected (by rw [← same] at small; exact small)
      (fun r member => (inside r (List.mem_cons_of_mem _ member)).trans same.ge)

end PlugNPray.SwapCopies
