import PlugNPray.Protocol
import PlugNPray.Sticks

/-!
The Memory Stick module as a server on a byte stream: the range checks of its two
operations, and how a sequence of requests leaves the stream and the buffer.
-/
namespace PlugNPray.StickRequests
open PlugNPray.Wire PlugNPray.Protocol PlugNPray.Huecos PlugNPray.Sticks

/-- The buffer of a stick is as long as the size that it was started with. -/
structure Stick where
  tamanio_memoria : Entero
  memoria : List Byte
  reservada : memoria.length = tamanio_memoria.toNat

namespace Stick
def leer (s : Stick) (offset tam : Nat) : List Byte := (s.memoria.drop offset).take tam

def escribir (s : Stick) (offset : Nat) (b : List Byte) : Stick where
  tamanio_memoria := s.tamanio_memoria
  memoria := s.memoria.mapIdx (fun i x => if offset ≤ i then b.getD (i - offset) x else x)
  reservada := by rw [List.length_mapIdx,s.reservada]
end Stick

/-- One turn of the loop: the answer, the stick and the rest of the stream; or a stream that ends, or gives nothing more, before
    the turn does; or an access beyond the buffer, with what was answered until then. -/
inductive Turno where
  | sigue (respuesta : List Campo) (s : Stick) (resto : List Byte)
  | corta (s : Stick)
  | desborda (respuesta : List Campo)

/-- The bytes that one recv with MSG_WAITALL takes. One that asks for none waits for the next byte all the same. -/
def recibir_datos (n : Nat) (l : List Byte) : Option (List Byte × List Byte) :=
  if max 1 (min n tope) ≤ l.length then some (l.take (min n tope),l.drop (min n tope)) else none

/-- The two ints that follow either code. -/
def recibir_rango (l : List Byte) : Option (Entero × Entero × List Byte) :=
  match recibir .entero l with
  | some (.entero offset,l) =>
    match recibir .entero l with
    | some (.entero tam,l) => some (offset,tam,l)
    | _ => none
  | _ => none

def atender_lectura (offset tam : Entero) (s : Stick) (l : List Byte) : Turno :=
  if lectura_fuera_de_rango offset.toNat tam.toNat s.tamanio_memoria.toNat then .sigue [.entero OP_ERROR] s l
  else if offset.toNat + tam.toNat ≤ s.tamanio_memoria.toNat then
    .sigue [.entero OP_OK,.bytes (s.leer offset.toNat (min tam.toNat tope))] s l
  else .desborda [.entero OP_OK]

/-- A rejected write is read all the same, into a buffer that is thrown away. -/
def atender_escritura (offset tam : Entero) (s : Stick) (l : List Byte) : Turno :=
  if escritura_fuera_de_rango offset.toNat tam.toNat s.tamanio_memoria.toNat then
    match recibir_datos tam.toNat l with
    | some (_,l) => .sigue [.entero OP_ERROR] s l
    | none => .corta s
  else if offset.toNat + tam.toNat ≤ s.tamanio_memoria.toNat then
    match recibir_datos tam.toNat l with
    | some (b,l) =>
      if b.length = tam.toNat then .sigue [.entero OP_OK] (s.escribir offset.toNat b) l else .corta (s.escribir offset.toNat b)
    | none => .corta (s.escribir offset.toNat l)
  else .desborda []

def atender_operacion (s : Stick) (l : List Byte) : Turno :=
  match recibir .entero l with
  | some (.entero op,l) =>
    if op = OP_LEER_MEMORIA then
      match recibir_rango l with
      | some (offset,tam,l) => atender_lectura offset tam s l
      | none => .corta s
    else if op = OP_ESCRIBIR_MEMORIA then
      match recibir_rango l with
      | some (offset,tam,l) => atender_escritura offset tam s l
      | none => .corta s
    else .sigue [] s l
  | _ => .corta s

/-- The first turns: what was answered in each, and what they leave. -/
def atender_operaciones : Nat → Stick → List Byte → Option (List (List Campo) × Stick × List Byte)
  | 0, s, l => some ([],s,l)
  | n+1, s, l =>
    match atender_operacion s l with
    | .sigue respuesta s l => (atender_operaciones n s l).map (fun r => (respuesta :: r.1,r.2))
    | .corta _ | .desborda _ => none

/-! ## Requests -/

/-- A request with any offset and size; a write brings as many bytes as it says. -/
inductive Pedido where
  | leer (offset tam : Entero)
  | escribir (offset tam : Entero) (contenido : { b : List Byte // b.length = tam.toNat })

namespace Pedido
def offset : Pedido → Entero
  | leer offset _ | escribir offset _ _ => offset
def tam : Pedido → Entero
  | leer _ tam | escribir _ tam _ => tam

def campos : Pedido → List Campo
  | leer offset tam => [.entero OP_LEER_MEMORIA,.entero offset,.entero tam]
  | escribir offset tam contenido => [.entero OP_ESCRIBIR_MEMORIA,.entero offset,.entero tam,.bytes contenido.1]

/-- In exact arithmetic the bytes of the request lie in the buffer. -/
def Dentro (r : Pedido) (s : Stick) : Prop := r.offset.toNat + r.tam.toNat ≤ s.tamanio_memoria.toNat

instance (r : Pedido) (s : Stick) : Decidable (r.Dentro s) := inferInstanceAs (Decidable (_ ≤ _))

/-- The end of the range is past 2^32, and what is left of it after the wrap lies in the buffer. -/
def Vuelve (r : Pedido) (s : Stick) : Prop :=
  2^32 ≤ r.offset.toNat + r.tam.toNat ∧ r.offset.toNat + r.tam.toNat ≤ 2^32 + s.tamanio_memoria.toNat

instance (r : Pedido) (s : Stick) : Decidable (r.Vuelve s) := inferInstanceAs (Decidable (_ ∧ _))

/-- One call moves the bytes: a write has some, and no transfer has more than fit in one. -/
def DeUnaVez (r : Pedido) (s : Stick) : Prop :=
  match r with
  | leer _ tam => r.Dentro s → tam.toNat ≤ tope
  | escribir _ tam _ => 0 < tam.toNat ∧ tam.toNat ≤ tope

/-- What a request is answered, and what it leaves in the buffer: executed if it lies there, rejected otherwise. -/
def debido (s : Stick) : Pedido → List Campo × Stick
  | leer offset tam =>
    if offset.toNat + tam.toNat ≤ s.tamanio_memoria.toNat then ([.entero OP_OK,.bytes (s.leer offset.toNat tam.toNat)],s)
    else ([.entero OP_ERROR],s)
  | escribir offset tam contenido =>
    if offset.toNat + tam.toNat ≤ s.tamanio_memoria.toNat then ([.entero OP_OK],s.escribir offset.toNat contenido.1)
    else ([.entero OP_ERROR],s)

/-- The turn once the code, the offset and the size have been read. -/
def atendido (s : Stick) (resto : List Byte) : Pedido → Turno
  | leer offset tam => atender_lectura offset tam s resto
  | escribir offset tam contenido => atender_escritura offset tam s (contenido.1 ++ resto)
end Pedido

/-- The answers that a sequence of requests is due, and the stick that it leaves. -/
def debidos : List Pedido → Stick → List (List Campo) × Stick
  | [], s => ([],s)
  | r :: rs, s => ((r.debido s).1 :: (debidos rs (r.debido s).2).1,(debidos rs (r.debido s).2).2)

/-- Both checks take the offset and size of the request alike. -/
def MismaRegla (r : Pedido) (s : Stick) : Prop :=
  lectura_fuera_de_rango r.offset.toNat r.tam.toNat s.tamanio_memoria.toNat =
    escritura_fuera_de_rango r.offset.toNat r.tam.toNat s.tamanio_memoria.toNat

/-! ## One request -/

theorem recibir_entero (v : Entero) (rest : List Byte) : recibir .entero (bytes_de v ++ rest) = some (.entero v,rest) :=
  recibir_octetos (.entero v) rest

theorem atender_pedido (s : Stick) (r : Pedido) (rest : List Byte) :
    atender_operacion s (octetos r.campos ++ rest) = r.atendido s rest := by
  cases r with
  | leer offset tam =>
    simp only [Pedido.campos,octetos_cons,octetos_nil,Campo.octetos,List.append_assoc,List.append_nil]
    simp only [atender_operacion,recibir_rango,recibir_entero,if_true]
    rfl
  | escribir offset tam contenido =>
    have other : OP_ESCRIBIR_MEMORIA ≠ OP_LEER_MEMORIA := by decide
    simp only [Pedido.campos,octetos_cons,octetos_nil,Campo.octetos,List.append_assoc,List.append_nil]
    simp only [atender_operacion,recibir_rango,recibir_entero,if_neg other,if_true]
    rfl

theorem entero_lt (v : Entero) : v.toNat < 2^32 := v.isLt

/-- The checks in exact arithmetic. -/
theorem escritura_fuera_iff {offset tam total : Nat} (low : offset < 2^32) (small : tam < 2^32) (bound : total < 2^32) :
    escritura_fuera_de_rango offset tam total = false ↔
      offset + tam ≤ total ∨ (2^32 ≤ offset + tam ∧ offset + tam ≤ 2^32 + total) := by
  simp only [escritura_fuera_de_rango,u32,decide_eq_false_iff_not,not_lt,gt_iff_lt]
  omega

theorem lectura_fuera_iff {offset tam total : Nat} (low : offset < 2^32) (small : tam < 2^32) (bound : total < 2^32) :
    lectura_fuera_de_rango offset tam total = false ↔
      offset + tam ≤ total ∨ (total < offset ∧ 2^32 ≤ offset + tam ∧ offset + tam ≤ 2^32 + total) := by
  simp only [lectura_fuera_de_rango,u32,Bool.or_eq_false_iff,decide_eq_false_iff_not,not_lt,gt_iff_lt]
  omega

/-- The checks of a range that does not wrap are exact. -/
theorem fuera_of_straight {r : Pedido} {s : Stick} (straight : ¬ r.Vuelve s) :
    (lectura_fuera_de_rango r.offset.toNat r.tam.toNat s.tamanio_memoria.toNat = false ↔ r.Dentro s) ∧
      (escritura_fuera_de_rango r.offset.toNat r.tam.toNat s.tamanio_memoria.toNat = false ↔ r.Dentro s) := by
  have low := entero_lt r.offset
  have small := entero_lt r.tam
  have bound := entero_lt s.tamanio_memoria
  unfold Pedido.Vuelve at straight
  unfold Pedido.Dentro
  constructor
  · refine (lectura_fuera_iff low small bound).trans ?_
    omega
  · refine (escritura_fuera_iff low small bound).trans ?_
    omega

theorem recibir_datos_whole {n : Nat} {b : List Byte} (positive : 0 < n) (few : n ≤ tope) (size : b.length = n) (rest : List Byte) :
    recibir_datos n (b ++ rest) = some (b,rest) := by
  have all : min n tope = n := Nat.min_eq_left few
  unfold recibir_datos
  rw [all,if_pos (by simp only [List.length_append]; omega),List.take_left' size,List.drop_left' size]

/-- A request that does not wrap, and that one call moves, gets what it is due. -/
theorem atendido_debido {r : Pedido} {s : Stick} (straight : ¬ r.Vuelve s) (once : r.DeUnaVez s) (rest : List Byte) :
    r.atendido s rest = .sigue (r.debido s).1 (r.debido s).2 rest := by
  have checks := fuera_of_straight straight
  cases r with
  | leer offset tam =>
    dsimp only [Pedido.offset,Pedido.tam,Pedido.Dentro] at checks
    dsimp only [Pedido.atendido,Pedido.debido,atender_lectura]
    by_cases inside : offset.toNat + tam.toNat ≤ s.tamanio_memoria.toNat
    · have all : min tam.toNat tope = tam.toNat := Nat.min_eq_left (once inside)
      rw [checks.1.mpr inside,if_neg Bool.false_ne_true,if_pos inside,if_pos inside,all]
    · rw [Bool.eq_true_of_not_eq_false (mt checks.1.mp inside),if_pos rfl,if_neg inside]
  | escribir offset tam contenido =>
    dsimp only [Pedido.offset,Pedido.tam,Pedido.Dentro] at checks
    dsimp only [Pedido.atendido,Pedido.debido,atender_escritura]
    rw [recibir_datos_whole once.1 once.2 contenido.2 rest]
    by_cases inside : offset.toNat + tam.toNat ≤ s.tamanio_memoria.toNat
    · rw [checks.2.mpr inside,if_neg Bool.false_ne_true,if_pos inside,if_pos inside]
      dsimp only
      rw [if_pos contenido.2]
    · rw [Bool.eq_true_of_not_eq_false (mt checks.2.mp inside),if_pos rfl,if_neg inside]

/-- One that wraps is executed beyond the buffer, if the two checks agree on it. -/
theorem atendido_vuelve {r : Pedido} {s : Stick} (wraps : r.Vuelve s) (alike : MismaRegla r s) (rest : List Byte) :
    ∃ respuesta, r.atendido s rest = .desborda respuesta := by
  have low := entero_lt r.offset
  have small := entero_lt r.tam
  have bound := entero_lt s.tamanio_memoria
  have passes : escritura_fuera_de_rango r.offset.toNat r.tam.toNat s.tamanio_memoria.toNat = false :=
    (escritura_fuera_iff low small bound).mpr (.inr wraps)
  have outside : ¬ r.offset.toNat + r.tam.toNat ≤ s.tamanio_memoria.toNat := by
    have far := wraps.1
    omega
  cases r with
  | leer offset tam =>
    have passes' : lectura_fuera_de_rango offset.toNat tam.toNat s.tamanio_memoria.toNat = false := alike.trans passes
    refine ⟨[.entero OP_OK],?_⟩
    dsimp only [Pedido.offset,Pedido.tam,Pedido.atendido,atender_lectura] at outside ⊢
    rw [passes',if_neg Bool.false_ne_true,if_neg outside]
  | escribir offset tam contenido =>
    refine ⟨[],?_⟩
    dsimp only [Pedido.offset,Pedido.tam,Pedido.atendido,atender_escritura] at passes outside ⊢
    rw [passes,if_neg Bool.false_ne_true,if_neg outside]

/-- One that no single call moves is not served as it is due, while nothing else comes. -/
theorem atendido_partido {r : Pedido} {s : Stick} (parts : ¬ r.DeUnaVez s) : r.atendido s [] ≠ .sigue (r.debido s).1 (r.debido s).2 [] := by
  cases r with
  | leer offset tam =>
    obtain ⟨inside,long⟩ := Classical.not_imp.mp parts
    have inside : offset.toNat + tam.toNat ≤ s.tamanio_memoria.toNat := inside
    have straight : ¬ (Pedido.leer offset tam).Vuelve s := by
      have bound := entero_lt s.tamanio_memoria
      rintro ⟨far,_⟩
      dsimp only [Pedido.offset,Pedido.tam] at far
      omega
    have passes : lectura_fuera_de_rango offset.toNat tam.toNat s.tamanio_memoria.toNat = false := (fuera_of_straight straight).1.mpr inside
    dsimp only [Pedido.atendido,Pedido.debido,atender_lectura]
    rw [passes,if_neg Bool.false_ne_true,if_pos inside,if_pos inside]
    intro same
    obtain ⟨answers,_,_⟩ := Turno.sigue.inj same
    obtain ⟨bytes,_⟩ := List.cons.inj (List.cons.inj answers).2
    have sent := congrArg List.length (Campo.bytes.inj bytes)
    simp only [Stick.leer,List.length_take,List.length_drop,s.reservada] at sent
    omega
  | escribir offset tam contenido =>
    have size := contenido.2
    dsimp only [Pedido.atendido,atender_escritura]
    rw [List.append_nil]
    intro same
    -- Either nothing is read, or what is left of the bytes is read as the next request.
    by_cases zero : tam.toNat = 0
    · have empty : recibir_datos tam.toNat contenido.1 = none := by
        simp [recibir_datos,zero,List.length_eq_zero_iff.mp (size.trans zero)]
      rw [empty] at same
      split_ifs at same
    · have long : tope < tam.toNat := by
        by_contra short
        exact parts ⟨Nat.pos_of_ne_zero zero,not_lt.mp short⟩
      have short : min tam.toNat tope = tope := Nat.min_eq_right long.le
      have read : recibir_datos tam.toNat contenido.1 = some (contenido.1.take tope,contenido.1.drop tope) := by
        unfold recibir_datos
        rw [short,if_pos]
        rw [size]
        exact max_le (by omega) long.le
      rw [read] at same
      dsimp only at same
      split_ifs at same with fuera inside whole
      · have rest := congrArg List.length (Turno.sigue.inj same).2.2
        simp only [List.length_drop,List.length_nil] at rest
        omega
      · simp only [List.length_take] at whole
        omega

/-! ## Sequences of requests -/

theorem debido_tamanio (r : Pedido) (s : Stick) : (r.debido s).2.tamanio_memoria = s.tamanio_memoria := by
  cases r <;> (dsimp only [Pedido.debido]; split_ifs <;> rfl)

/-- Served as it is due whatever the requests before it were: the size of the stick does not change. -/
def Bueno (total : Entero) (r : Pedido) : Prop := ∀ s : Stick, s.tamanio_memoria = total → ¬ r.Vuelve s ∧ r.DeUnaVez s

theorem bueno_iff (r : Pedido) (s : Stick) : Bueno s.tamanio_memoria r ↔ ¬ r.Vuelve s ∧ r.DeUnaVez s := by
  constructor
  · exact fun good => good s rfl
  · intro here t same
    cases r <;> simpa only [Pedido.Vuelve,Pedido.DeUnaVez,Pedido.Dentro,same] using here

/-- As many turns as requests read them all and nothing else. -/
theorem atender_pedidos {rs : List Pedido} {s : Stick} (good : ∀ r ∈ rs, Bueno s.tamanio_memoria r) (rest : List Byte) :
    atender_operaciones rs.length s (octetos (rs.flatMap Pedido.campos) ++ rest) = some ((debidos rs s).1,(debidos rs s).2,rest) := by
  induction rs generalizing s with
  | nil => rfl
  | cons r rs ih =>
    obtain ⟨first,later⟩ := List.forall_mem_cons.mp good
    obtain ⟨straight,once⟩ := first s rfl
    rw [List.flatMap_cons,octetos_append,List.append_assoc,List.length_cons,atender_operaciones,atender_pedido,
      atendido_debido straight once]
    rw [← debido_tamanio r s] at later
    simp only [ih later]
    rfl

/-- The first of the turns, when they all go on. -/
theorem first_turn {n : Nat} {r : Pedido} {s t : Stick} {rest resto : List Byte} {respuestas : List (List Campo)}
    (turns : atender_operaciones (n + 1) s (octetos r.campos ++ rest) = some (respuestas,t,resto)) :
    ∃ respuesta s' l mas, r.atendido s rest = .sigue respuesta s' l ∧ respuestas = respuesta :: mas ∧
      atender_operaciones n s' l = some (mas,t,resto) := by
  rw [atender_operaciones,atender_pedido] at turns
  cases turn : r.atendido s rest with
  | sigue respuesta s' l =>
    rw [turn] at turns
    obtain ⟨⟨mas,t',resto'⟩,later,same⟩ := Option.map_eq_some_iff.mp turns
    cases same
    exact ⟨respuesta,s',l,mas,rfl,rfl,later⟩
  | corta s' =>
    rw [turn] at turns
    cases turns
  | desborda respuesta =>
    rw [turn] at turns
    cases turns

/-- Reads and writes have one rule, and the requests that have come are served as they are due and read whole, whatever comes
    after them. -/
def Sirve (s : Stick) (rs : List Pedido) : Prop :=
  (∀ r ∈ rs, MismaRegla r s) ∧ ∀ (llegados : List Pedido) (resto : List Byte), llegados <+: rs →
    atender_operaciones llegados.length s (octetos (llegados.flatMap Pedido.campos) ++ resto) =
      some ((debidos llegados s).1,(debidos llegados s).2,resto)

theorem good_of_due {r : Pedido} {s : Stick} (alike : MismaRegla r s)
    (due : atender_operaciones 1 s (octetos r.campos ++ []) = some ([(r.debido s).1],(r.debido s).2,[])) : Bueno s.tamanio_memoria r := by
  obtain ⟨respuesta,s',l,mas,turn,same,later⟩ := first_turn due
  obtain ⟨rfl,rfl⟩ := List.cons.inj same
  obtain ⟨_,same⟩ := Prod.mk.inj (Option.some.inj later)
  obtain ⟨rfl,rfl⟩ := Prod.mk.inj same
  refine (bueno_iff r s).mpr ⟨fun wraps => ?_,?_⟩
  · obtain ⟨respuesta,beyond⟩ := atendido_vuelve wraps alike []
    rw [turn] at beyond
    cases beyond
  · by_contra parts
    exact atendido_partido parts turn

theorem regla_congr (r : Pedido) {s t : Stick} (same : t.tamanio_memoria = s.tamanio_memoria) : MismaRegla r t ↔ MismaRegla r s := by
  unfold MismaRegla
  rw [same]

theorem regla_of_straight {r : Pedido} {s : Stick} (straight : ¬ r.Vuelve s) : MismaRegla r s := by
  obtain ⟨reads,writes⟩ := fuera_of_straight straight
  exact Bool.eq_iff_iff.mpr (not_iff_not.mp (by rw [Bool.not_eq_true,Bool.not_eq_true,reads,writes]))

theorem good_of_sirve {rs : List Pedido} {s : Stick} (serves : Sirve s rs) : ∀ r ∈ rs, Bueno s.tamanio_memoria r := by
  induction rs generalizing s with
  | nil => simp
  | cons r rs ih =>
    obtain ⟨alike,due⟩ := serves
    obtain ⟨first,others⟩ := List.forall_mem_cons.mp alike
    have good : Bueno s.tamanio_memoria r := by
      refine good_of_due first ?_
      have one := due [r] [] (by simp)
      rw [List.flatMap_singleton] at one
      exact one
    obtain ⟨straight,once⟩ := good s rfl
    have size := debido_tamanio r s
    refine List.forall_mem_cons.mpr ⟨good,size ▸ ih ⟨fun r' member => (regla_congr r' size).mpr (others r' member),?_⟩⟩
    intro llegados resto arrived
    have all := due (r :: llegados) resto (List.cons_prefix_cons.mpr ⟨rfl,arrived⟩)
    rw [List.flatMap_cons,octetos_append,List.append_assoc,List.length_cons] at all
    obtain ⟨respuesta,s',l,mas,turn,same,later⟩ := first_turn all
    rw [atendido_debido straight once] at turn
    obtain ⟨_,rfl,rfl⟩ := turn
    obtain ⟨_,rfl⟩ := List.cons.inj same
    exact later

/-- A stick serves a sequence of requests as it is due (each executed if it lies in the buffer, answered OP_ERROR otherwise, and
    read whole in either case), exactly when no request wraps into the buffer and one call moves the bytes of each. -/
theorem requests_served_iff (s : Stick) (rs : List Pedido) : Sirve s rs ↔ ∀ r ∈ rs, ¬ r.Vuelve s ∧ r.DeUnaVez s := by
  constructor
  · exact fun serves r member => (bueno_iff r s).mp (good_of_sirve serves r member)
  · intro good
    refine ⟨fun r member => regla_of_straight (good r member).1,fun llegados resto arrived => ?_⟩
    exact atender_pedidos (fun r member => (bueno_iff r s).mpr (good r (arrived.subset member))) resto

/-- A read of one byte at the last offset there is, from a stick of 16 bytes. -/
def lectura_lejana : Pedido := .leer (BitVec.allOnes 32) 1

def stick_de_16 : Stick := ⟨16,List.replicate 16 0,rfl⟩

/-- It is answered OP_OK. -/
theorem far_read_served : ¬ Sirve stick_de_16 [lectura_lejana] ∧
    atender_operacion stick_de_16 (octetos lectura_lejana.campos) = .desborda [.entero OP_OK] := by
  constructor
  · intro serves
    exact (good_of_sirve serves lectura_lejana (List.mem_singleton_self _) stick_de_16 rfl).1 (by decide)
  · have turn := atender_pedido stick_de_16 lectura_lejana []
    rw [List.append_nil] at turn
    rw [turn]
    rfl

end PlugNPray.StickRequests
