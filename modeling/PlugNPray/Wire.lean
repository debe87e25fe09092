import Mathlib

/-!
Integers and raw bytes on a byte stream: four bytes an integer, least significant
byte first, and a reader that takes what is asked for or waits.
-/
namespace PlugNPray.Wire

abbrev Byte := BitVec 8
abbrev Entero := BitVec 32

/-- What one call to send puts on the stream. -/
inductive Campo where
  | entero (v : Entero)
  | bytes (b : List Byte)
  deriving DecidableEq, Repr

/-- What one call to recv asks for. -/
inductive Lectura where
  | entero
  | bytes (n : Nat)
  deriving DecidableEq, Repr

def bytes_de (v : Entero) : List Byte :=
  [v.extractLsb' 0 8,v.extractLsb' 8 8,v.extractLsb' 16 8,v.extractLsb' 24 8]

def Campo.octetos : Campo → List Byte
  | .entero v => bytes_de v
  | .bytes b => b

/-- The shape of a read that takes this piece whole. -/
def Campo.lectura : Campo → Lectura
  | .entero _ => .entero
  | .bytes b => .bytes b.length

/-- A read with MSG_WAITALL: nothing until the stream holds all that it asks for. -/
def recibir : Lectura → List Byte → Option (Campo × List Byte)
  | .entero, a :: b :: c :: d :: rest => some (.entero (d ++ c ++ b ++ a),rest)
  | .entero, _ => none
  | .bytes n, l => if n ≤ l.length then some (.bytes (l.take n),l.drop n) else none

/-- The most bytes that one call to send or recv moves. -/
def tope : Nat := 0x7ffff000

/-- The bytes that a list of sends leaves on an empty stream. -/
def octetos (campos : List Campo) : List Byte := campos.flatMap Campo.octetos

@[simp] theorem octetos_nil : octetos [] = [] := rfl
@[simp] theorem octetos_cons (c : Campo) (rest : List Campo) : octetos (c :: rest) = c.octetos ++ octetos rest := rfl
@[simp] theorem octetos_append (first second : List Campo) :
    octetos (first ++ second) = octetos first ++ octetos second := List.flatMap_append

theorem join_bytes (v : Entero) :
    v.extractLsb' 24 8 ++ v.extractLsb' 16 8 ++ v.extractLsb' 8 8 ++ v.extractLsb' 0 8 = v := by
  ext i inside
  simp only [BitVec.getElem_append,BitVec.getElem_extractLsb']
  split_ifs with low mid high
  · simp [inside]
  · rw [show 8 + (i - 8) = i by omega]; simp [inside]
  · rw [show 16 + (i - 8 - 8) = i by omega]; simp [inside]
  · rw [show 24 + (i - 8 - 8 - 8) = i by omega]; simp [inside]

/-- A piece sent is the piece read, when the reader asks for its shape. -/
@[simp] theorem recibir_octetos (c : Campo) (rest : List Byte) :
    recibir c.lectura (c.octetos ++ rest) = some (c,rest) := by
  cases c with
  | entero v =>
    show some (Campo.entero _,rest) = _
    rw [join_bytes]
  | bytes b => simp [Campo.lectura,Campo.octetos,recibir]

/-- Nothing is read from an empty stream but an empty piece. -/
theorem recibir_vacio {l : Lectura} {c : Campo} {rest : List Byte} (read : recibir l [] = some (c,rest)) :
    l = .bytes 0 := by
  cases l with
  | entero => cases read
  | bytes n =>
    simp only [recibir,List.length_nil,Nat.le_zero_eq] at read
    split_ifs at read with zero
    rw [zero]

end PlugNPray.Wire
