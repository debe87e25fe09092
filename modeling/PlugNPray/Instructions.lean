import PlugNPray.Mmu
import PlugNPray.Wire

/-!
The instructions of a CPU that compute: register files, the register names of a
program, and what `execute` does to the destination, to the program counter and to the rest.
-/
namespace PlugNPray.Instructions
open PlugNPray.Wire PlugNPray.Mmu

structure Registros where
  PC : UInt32
  AX : UInt8
  BX : UInt8
  CX : UInt8
  DX : UInt8
  EAX : UInt32
  EBX : UInt32
  ECX : UInt32
  EDX : UInt32
  SI : UInt32
  DI : UInt32
  deriving DecidableEq, Repr

def obtener_valor_registro (nombre_registro : String) (registros : Registros) : UInt32 :=
  match nombre_registro with
  | "PC" => registros.PC
  | "AX" => registros.AX.toUInt32
  | "BX" => registros.BX.toUInt32
  | "CX" => registros.CX.toUInt32
  | "DX" => registros.DX.toUInt32
  | "EAX" => registros.EAX
  | "EBX" => registros.EBX
  | "ECX" => registros.ECX
  | "EDX" => registros.EDX
  | "SI" => registros.SI
  | "DI" => registros.DI
  | _ => 0

def setear_valor_registro (nombre_registro : String) (valor : UInt32) (registros : Registros) : Registros :=
  match nombre_registro with
  | "PC" => { registros with PC := valor }
  | "AX" => { registros with AX := valor.toUInt8 }
  | "BX" => { registros with BX := valor.toUInt8 }
  | "CX" => { registros with CX := valor.toUInt8 }
  | "DX" => { registros with DX := valor.toUInt8 }
  | "EAX" => { registros with EAX := valor }
  | "EBX" => { registros with EBX := valor }
  | "ECX" => { registros with ECX := valor }
  | "EDX" => { registros with EDX := valor }
  | "SI" => { registros with SI := valor }
  | "DI" => { registros with DI := valor }
  | _ => registros

/-- The bytes of a register; none under any other name. -/
def tamanio_registro (nombre_registro : String) : UInt32 :=
  if nombre_registro ∈ ["AX","BX","CX","DX"] then 1
  else if nombre_registro ∈ ["EAX","EBX","ECX","EDX","SI","DI","PC"] then 4
  else 0

/-- The number that a text begins with, after blanks and a sign, held inside a `long`. -/
def strtol (texto : List Char) : Int :=
  let texto := texto.dropWhile (· ∈ [' ','\t','\n','\x0b','\x0c','\r'])
  let cifras (l : List Char) : Int := (l.takeWhile Char.isDigit).foldl (fun n c => 10 * n + (c.toNat - 48 : Nat)) 0
  let leido := match texto with
    | '-' :: l => -cifras l
    | '+' :: l => cifras l
    | l => cifras l
  max (-2^63) (min leido (2^63 - 1))

def atoi (texto : String) : Int32 := Int32.ofInt (strtol texto.toList)

inductive Motivo where
  | CONTINUAR
  | EXIT
  | SYSCALL_BLOQUEANTE
  | FIN_QUANTUM
  | SEG_FAULT
  | ERROR
  deriving DecidableEq, Repr

/-- What `execute` works on besides the registers: the segment table of the context, the
    memory sticks, and the instructions that are not of this module. -/
structure Entorno where
  tam_max_segmento : UInt32
  tabla_segmentos : List Segmento
  leer_memoria : UInt32 → (tamanio : UInt32) → Option { b : List Byte // b.length = tamanio.toNat }
  otra : UInt32 → String → Option String → Option String → Registros → Registros × Motivo

def siguiente (registros : Registros) : Registros := { registros with PC := registros.PC + 1 }

def ejecutar_SET (registro : String) (valor : UInt32) (registros : Registros) : Registros :=
  setear_valor_registro registro valor registros

def ejecutar_SUM (registro_destino registroASumar : String) (registros : Registros) : Registros :=
  let valorDestino := obtener_valor_registro registro_destino registros
  let valorASumar := obtener_valor_registro registroASumar registros
  setear_valor_registro registro_destino (valorDestino + valorASumar) registros

def ejecutar_SUB (registro_destino registroARestar : String) (registros : Registros) : Registros :=
  let valorDestino := obtener_valor_registro registro_destino registros
  let valorARestar := obtener_valor_registro registroARestar registros
  setear_valor_registro registro_destino (valorDestino - valorARestar) registros

/-- Whether it jumped, besides the registers. -/
def ejecutar_JNZ (registro : String) (numero_instruccion : UInt32) (registros : Registros) : Registros × Bool :=
  if obtener_valor_registro registro registros ≠ 0 then ({ registros with PC := numero_instruccion },true)
  else (registros,false)

/-- Bytes as a number, the least significant first. -/
def numero_de (b : List Byte) : Nat := b.foldr (fun byte n => byte.toNat + 256 * n) 0

/-- The read over a `uint32_t` that was zero. -/
def Entorno.leer_valor (e : Entorno) (direccion_fisica tamanio : UInt32) : Option UInt32 :=
  (e.leer_memoria direccion_fisica tamanio).map (fun b => .ofNat (numero_de b.1))

def ejecutar_mov_in (e : Entorno) (registro_destino : Option String) (registros : Registros) : Registros × Motivo :=
  match registro_destino with
  | none => (registros,.ERROR)
  | some registro_destino =>
    let tamanio := tamanio_registro registro_destino
    if tamanio = 0 then (registros,.ERROR)
    else match traducir_direccion e.tam_max_segmento e.tabla_segmentos registros.SI tamanio with
      | none => (registros,.SEG_FAULT)
      | some direccion_fisica =>
        match e.leer_valor direccion_fisica tamanio with
        | none => (registros,.ERROR)
        | some valor => (siguiente (setear_valor_registro registro_destino valor registros),.CONTINUAR)

/-- The operations that `execute` hands to other code. -/
def otras : List String :=
  ["SLEEP","INIT_PROC","MUTEX_CREATE","MUTEX_LOCK","MUTEX_UNLOCK","MEM_ALLOC","MEM_FREE","MOV_OUT","COPY_MEM","STDIN","STDOUT"]

def execute (e : Entorno) (pid : UInt32) (op p1 p2 : Option String) (registros : Registros) : Registros × Motivo :=
  match op,p1,p2 with
  | none,_,_ => (registros,.ERROR)
  | some "NOOP",_,_ => (siguiente registros,.CONTINUAR)
  | some "SET",some p1,some p2 =>
    let registros := ejecutar_SET p1 (atoi p2).toUInt32 registros
    (if p1 ≠ "PC" then siguiente registros else registros,.CONTINUAR)
  | some "SUM",some p1,some p2 => (siguiente (ejecutar_SUM p1 p2 registros),.CONTINUAR)
  | some "SUB",some p1,some p2 => (siguiente (ejecutar_SUB p1 p2 registros),.CONTINUAR)
  | some "JNZ",some p1,some p2 =>
    let (registros,salto) := ejecutar_JNZ p1 (atoi p2).toUInt32 registros
    (if salto then registros else siguiente registros,.CONTINUAR)
  | some "SET",_,_ | some "SUM",_,_ | some "SUB",_,_ | some "JNZ",_,_ => (registros,.ERROR)
  | some "MOV_IN",p1,_ => ejecutar_mov_in e p1 registros
  | some "EXIT",_,_ => (registros,.EXIT)
  | some op,p1,p2 => if op ∈ otras then e.otra pid op p1 p2 registros else (registros,.ERROR)

/-! ## Registers -/

inductive Registro where
  | PC | AX | BX | CX | DX | EAX | EBX | ECX | EDX | SI | DI
  deriving DecidableEq, Repr

namespace Registro
def nombre : Registro → String
  | PC => "PC" | AX => "AX" | BX => "BX" | CX => "CX" | DX => "DX"
  | EAX => "EAX" | EBX => "EBX" | ECX => "ECX" | EDX => "EDX" | SI => "SI" | DI => "DI"

/-- Its width in bytes. -/
def ancho : Registro → Nat
  | AX | BX | CX | DX => 1
  | PC | EAX | EBX | ECX | EDX | SI | DI => 4
end Registro

/-- The number in a register. -/
def Registros.valor (registros : Registros) : Registro → Nat
  | .PC => registros.PC.toNat
  | .AX => registros.AX.toNat
  | .BX => registros.BX.toNat
  | .CX => registros.CX.toNat
  | .DX => registros.DX.toNat
  | .EAX => registros.EAX.toNat
  | .EBX => registros.EBX.toNat
  | .ECX => registros.ECX.toNat
  | .EDX => registros.EDX.toNat
  | .SI => registros.SI.toNat
  | .DI => registros.DI.toNat

@[simp] theorem nombre_inj {r q : Registro} : r.nombre = q.nombre ↔ r = q := by
  constructor
  · cases r <;> cases q <;> decide
  · rintro rfl; rfl

theorem obtener_nombre (r : Registro) (registros : Registros) :
    (obtener_valor_registro r.nombre registros).toNat = registros.valor r := by
  cases r <;> simp [obtener_valor_registro,Registro.nombre,Registros.valor]

/-- A write keeps what fits in the register. -/
theorem setear_nombre (r : Registro) (valor : UInt32) (registros : Registros) :
    (setear_valor_registro r.nombre valor registros).valor r = valor.toNat % 2^(8 * r.ancho) := by
  cases r <;> simp [setear_valor_registro,Registro.nombre,Registros.valor,Registro.ancho]

theorem setear_otro {r q : Registro} (other : q ≠ r) (valor : UInt32) (registros : Registros) :
    (setear_valor_registro r.nombre valor registros).valor q = registros.valor q := by
  cases r <;> cases q <;> first | exact absurd rfl other | rfl

@[simp] theorem siguiente_pc (registros : Registros) : (siguiente registros).valor .PC = (registros.valor .PC + 1) % 2^32 :=
  UInt32.toNat_add _ _

@[simp] theorem siguiente_otro {r : Registro} (other : r ≠ .PC) (registros : Registros) :
    (siguiente registros).valor r = registros.valor r := by
  cases r <;> first | exact absurd rfl other | rfl

/-! ## What an instruction computes -/

/-- An instruction that computes, with register names of any register and any operand text. -/
inductive Instruccion where
  | SET (destino : Registro) (valor : String)
  | SUM (destino origen : Registro)
  | SUB (destino origen : Registro)
  | JNZ (registro : Registro) (instruccion : String)
  | MOV_IN (destino : Registro) (resto : Option String)

namespace Instruccion

/-- `execute` on the words of the instruction. -/
def ejecutada (e : Entorno) (pid : UInt32) (antes : Registros) : Instruccion → Registros × Motivo
  | SET d valor => execute e pid (some "SET") (some d.nombre) (some valor) antes
  | SUM d o => execute e pid (some "SUM") (some d.nombre) (some o.nombre) antes
  | SUB d o => execute e pid (some "SUB") (some d.nombre) (some o.nombre) antes
  | JNZ r instruccion => execute e pid (some "JNZ") (some r.nombre) (some instruccion) antes
  | MOV_IN d resto => execute e pid (some "MOV_IN") (some d.nombre) resto antes

/-- The register that it writes, the program counter if it jumps. -/
def escribe (antes : Registros) : Instruccion → Option Registro
  | SET d _ | SUM d _ | SUB d _ | MOV_IN d _ => some d
  | JNZ r _ => if antes.valor r ≠ 0 then some .PC else none

/-- The bytes at the logical address in SI, as many as the register has. -/
def leido (e : Entorno) (antes : Registros) (d : Registro) : Option Nat :=
  (traducir_direccion e.tam_max_segmento e.tabla_segmentos antes.SI (.ofNat d.ancho)).bind
    (fun df => (e.leer_memoria df (.ofNat d.ancho)).map (fun b => numero_de b.1))

/-- The number due in what it writes, before the reduction to the width of the register. -/
def referencia (e : Entorno) (antes : Registros) : Instruccion → Option Int
  | SET _ valor => some (atoi valor).toInt
  | SUM d o => some (antes.valor d + antes.valor o : Int)
  | SUB d o => some (antes.valor d - antes.valor o : Int)
  | JNZ _ instruccion => some (atoi instruccion).toInt
  | MOV_IN d _ => (leido e antes d).map Nat.cast

/-- The registers after the instruction: its result in what it writes, the next program
    counter unless it writes that, and no other change. -/
structure Exacta (e : Entorno) (antes despues : Registros) (i : Instruccion) : Prop where
  escrito : ∀ r, i.escribe antes = some r →
    ∃ v, i.referencia e antes = some v ∧ (despues.valor r : Int) = v % 2^(8 * r.ancho)
  igual : ∀ r, r ≠ .PC → i.escribe antes ≠ some r → despues.valor r = antes.valor r
  sigue : i.escribe antes ≠ some .PC → despues.valor .PC = (antes.valor .PC + 1) % 2^32

/-- It does not compute into the program counter, but for a plain SET. -/
def SinPC : Instruccion → Prop
  | SET _ _ | JNZ _ _ => True
  | SUM d _ | SUB d _ | MOV_IN d _ => d ≠ .PC

instance : (i : Instruccion) → Decidable i.SinPC
  | SET _ _ | JNZ _ _ => .isTrue trivial
  | SUM _ _ | SUB _ _ | MOV_IN _ _ => inferInstanceAs (Decidable (_ ≠ _))

end Instruccion

/-! ## One write -/

section Escritura
variable {e : Entorno} {pid : UInt32} {antes : Registros} {i : Instruccion} {d : Registro} {valor : UInt32} {v : Int}

theorem setear_exacto (same : (valor.toNat : Int) = v % 2^32) (registros : Registros) :
    ((setear_valor_registro d.nombre valor registros).valor d : Int) = v % 2^(8 * d.ancho) := by
  have divides : (2^(8 * d.ancho) : Int) ∣ 2^32 := pow_dvd_pow 2 (by cases d <;> decide)
  rw [setear_nombre]
  push_cast
  rw [same,Int.emod_emod_of_dvd _ divides]

/-- A write to a register and then the next program counter, as SUM, SUB and MOV_IN do. -/
theorem exacta_siguiente_iff (writes : i.escribe antes = some d) (due : i.referencia e antes = some v)
    (same : (valor.toNat : Int) = v % 2^32) :
    i.Exacta e antes (siguiente (setear_valor_registro d.nombre valor antes)) ↔ d ≠ .PC := by
  have written := setear_exacto (d := d) same antes
  constructor
  · rintro exact rfl
    obtain ⟨v',due',there⟩ := exact.escrito .PC writes
    rw [due] at due'
    cases due'
    rw [siguiente_pc] at there
    push_cast at there
    rw [written] at there
    simp only [Registro.ancho] at there
    omega
  · intro other
    refine ⟨?_,?_,?_⟩
    · intro r here
      rw [writes] at here
      cases here
      exact ⟨v,due,by rw [siguiente_otro other]; exact written⟩
    · intro r notPC apart
      rw [writes] at apart
      have other : r ≠ d := fun same => apart (congrArg some same.symm)
      rw [siguiente_otro notPC,setear_otro other]
    · intro _
      rw [siguiente_pc,setear_otro other.symm]

/-- A write that leaves the program counter to itself. -/
theorem exacta_salto (writes : i.escribe antes = some .PC) (due : i.referencia e antes = some v)
    (same : (valor.toNat : Int) = v % 2^32) :
    i.Exacta e antes (setear_valor_registro Registro.PC.nombre valor antes) := by
  refine ⟨?_,?_,?_⟩
  · intro r here
    rw [writes] at here
    cases here
    exact ⟨v,due,setear_exacto same antes⟩
  · intro r notPC _
    exact setear_otro notPC valor antes
  · intro apart
    exact absurd writes apart

end Escritura

theorem toNat_toUInt32 (n : Int32) : (n.toUInt32.toNat : Int) = n.toInt % 2^32 := by
  have same : n.toInt = n.toBitVec.toInt := rfl
  have value : n.toUInt32.toNat = n.toBitVec.toNat := rfl
  have small := n.toBitVec.isLt
  rw [same,value,BitVec.toInt_eq_toNat_cond]
  split_ifs <;> omega

theorem toNat_sum (first second : UInt32) : ((first + second).toNat : Int) = (first.toNat + second.toNat : Int) % 2^32 := by
  rw [UInt32.toNat_add]
  norm_cast

theorem toNat_resta (first second : UInt32) : ((first - second).toNat : Int) = (first.toNat - second.toNat : Int) % 2^32 := by
  have small := second.toNat_lt
  rw [UInt32.toNat_sub]
  omega

/-! ## Numbers in decimal -/

open Instruccion

variable {e : Entorno} {pid : UInt32} {antes : Registros}

theorem cifras_toDigits (n : Nat) :
    ((Nat.toDigits 10 n).takeWhile Char.isDigit).foldl (fun (m : Int) c => 10 * m + (c.toNat - 48 : Nat)) 0 = n := by
  have all : ∀ c ∈ Nat.toDigits 10 n, c.isDigit = true := fun c member => Nat.isDigit_of_mem_toDigits (by decide) (by decide) member
  have same := Nat.ofDigitChars_ten_toDigits (n := n)
  rw [Nat.ofDigitChars_eq_foldl] at same
  rw [List.takeWhile_eq_self_iff.mpr all]
  calc (Nat.toDigits 10 n).foldl (fun (m : Int) c => 10 * m + (c.toNat - 48 : Nat)) ((0 : Nat) : Int)
      = (((Nat.toDigits 10 n).foldl (fun m c => 10 * m + (c.toNat - '0'.toNat)) 0 : Nat) : Int) :=
        List.foldl_hom Nat.cast (fun m c => by push_cast; rfl)
    _ = n := by rw [same]

theorem strtol_decimal (v : Int) : strtol (toString v).toList = max (-2^63) (min v (2^63 - 1)) := by
  have plain : ∀ n : Nat, strtol (Nat.toDigits 10 n) = max (-2^63) (min (n : Int) (2^63 - 1)) := by
    intro n
    have value := cifras_toDigits n
    cases digits : Nat.toDigits 10 n with
    | nil => exact absurd digits Nat.toDigits_ne_nil
    | cons c l =>
      have first : c.isDigit = true := Nat.isDigit_of_mem_toDigits (b := 10) (n := n) (by decide) (by decide) (by simp [digits])
      have seen : c ∉ [' ','\t','\n','\x0b','\x0c','\r'] := by
        intro blank
        simp only [List.mem_cons,List.not_mem_nil,or_false] at blank
        rcases blank with rfl | rfl | rfl | rfl | rfl | rfl <;> cases first
      have minus : c ≠ '-' := by
        rintro rfl
        cases first
      have plus : c ≠ '+' := by
        rintro rfl
        cases first
      rw [digits] at value
      unfold strtol
      rw [List.dropWhile_cons_of_neg (by simpa using seen)]
      dsimp only
      split
      case h_1 heq => exact absurd (List.cons.inj heq).1 minus
      case h_2 heq => exact absurd (List.cons.inj heq).1 plus
      case h_3 => rw [value]
  cases v with
  | ofNat n =>
    have text : (toString (Int.ofNat n)).toList = Nat.toDigits 10 n := Nat.toList_repr
    rw [text]
    exact plain n
  | negSucc n =>
    have text : (toString (Int.negSucc n)).toList = '-' :: Nat.toDigits 10 (n + 1) := by
      show ("-" ++ Nat.repr (n + 1)).toList = _
      rw [String.toList_append,Nat.toList_repr]
      rfl
    rw [text]
    have value := cifras_toDigits (n + 1)
    unfold strtol
    rw [List.dropWhile_cons_of_neg (by decide)]
    simp only [value]
    rfl

/-- The number of a decimal text in the range of a `long`, in 32 bits. -/
theorem atoi_decimal {v : Int} (low : -2^63 ≤ v) (high : v < 2^63) : ((atoi (toString v)).toUInt32.toNat : Int) = v % 2^32 := by
  have inside : max (-2^63) (min v (2^63 - 1)) = v := by omega
  rw [toNat_toUInt32,atoi,strtol_decimal,inside,Int32.toInt_ofInt]
  exact Int.bmod_emod

/-- What SET or JNZ of a number in decimal is to write. -/
theorem referencia_decimal {v : Int} (low : -2^63 ≤ v) (high : v < 2^63) (d : Registro) :
    (∃ w, (SET d (toString v)).referencia e antes = some w ∧ w % 2^32 = v % 2^32) ∧
      ∃ w, (JNZ d (toString v)).referencia e antes = some w ∧ w % 2^32 = v % 2^32 := by
  have same := (toNat_toUInt32 (atoi (toString v))).symm.trans (atoi_decimal low high)
  exact ⟨⟨_,rfl,same⟩,⟨_,rfl,same⟩⟩

/-! ## The instructions -/

theorem set_exacta (d : Registro) (valor : String) :
    (SET d valor).Exacta e antes ((SET d valor).ejecutada e pid antes).1 := by
  have same := toNat_toUInt32 (atoi valor)
  by_cases jump : d = .PC
  · subst jump
    exact exacta_salto rfl rfl same
  · have step : ((SET d valor).ejecutada e pid antes).1 =
        siguiente (setear_valor_registro d.nombre (atoi valor).toUInt32 antes) := by
      have named : d.nombre ≠ "PC" := fun named => jump (nombre_inj.mp (named : d.nombre = Registro.PC.nombre))
      show (if d.nombre ≠ "PC" then _ else _) = _
      rw [if_pos named]
      rfl
    rw [step]
    exact (exacta_siguiente_iff rfl rfl same).mpr jump

theorem sum_exacta_iff (d o : Registro) :
    (SUM d o).Exacta e antes ((SUM d o).ejecutada e pid antes).1 ↔ d ≠ .PC := by
  apply exacta_siguiente_iff (i := SUM d o) rfl rfl
  rw [toNat_sum,obtener_nombre,obtener_nombre]

theorem sub_exacta_iff (d o : Registro) :
    (SUB d o).Exacta e antes ((SUB d o).ejecutada e pid antes).1 ↔ d ≠ .PC := by
  apply exacta_siguiente_iff (i := SUB d o) rfl rfl
  rw [toNat_resta,obtener_nombre,obtener_nombre]

theorem jnz_exacta (r : Registro) (instruccion : String) :
    (JNZ r instruccion).Exacta e antes ((JNZ r instruccion).ejecutada e pid antes).1 := by
  have same := toNat_toUInt32 (atoi instruccion)
  have value := obtener_nombre r antes
  by_cases zero : antes.valor r = 0
  · have still : obtener_valor_registro r.nombre antes = 0 := UInt32.toNat_inj.mp (value.trans zero)
    have step : ((JNZ r instruccion).ejecutada e pid antes).1 = siguiente antes := by
      simp [ejecutada,execute,ejecutar_JNZ,still]
    have none : (JNZ r instruccion).escribe antes = none := by simp [escribe,zero]
    rw [step]
    refine ⟨?_,?_,?_⟩
    · intro q here
      rw [none] at here
      cases here
    · intro q notPC _
      exact siguiente_otro notPC antes
    · intro _
      exact siguiente_pc antes
  · have moves : obtener_valor_registro r.nombre antes ≠ 0 := by
      intro still
      exact zero (value.symm.trans (congrArg UInt32.toNat still))
    have jumps : ejecutar_JNZ r.nombre (atoi instruccion).toUInt32 antes =
        (setear_valor_registro Registro.PC.nombre (atoi instruccion).toUInt32 antes,true) := if_pos moves
    have step : ((JNZ r instruccion).ejecutada e pid antes).1 =
        setear_valor_registro Registro.PC.nombre (atoi instruccion).toUInt32 antes := by
      simp only [ejecutada,execute,jumps,if_true]
    rw [step]
    exact exacta_salto (by simp [escribe,zero]) rfl same

/-- MOV_IN went on, so it read its bytes and wrote them. -/
theorem mov_in_leido {d : Registro} {resto : Option String}
    (done : ((MOV_IN d resto).ejecutada e pid antes).2 = .CONTINUAR) :
    ∃ n, leido e antes d = some n ∧ ((MOV_IN d resto).ejecutada e pid antes).1 =
      siguiente (setear_valor_registro d.nombre (.ofNat n) antes) := by
  have size : tamanio_registro d.nombre = .ofNat d.ancho := by cases d <;> decide
  have some_size : UInt32.ofNat d.ancho ≠ 0 := by cases d <;> decide
  have step : (MOV_IN d resto).ejecutada e pid antes = ejecutar_mov_in e (some d.nombre) antes := rfl
  rw [step] at done ⊢
  simp only [ejecutar_mov_in,size,if_neg some_size] at done ⊢
  cases address : traducir_direccion e.tam_max_segmento e.tabla_segmentos antes.SI (.ofNat d.ancho) with
  | none => simp [address] at done
  | some df =>
    cases bytes : e.leer_valor df (.ofNat d.ancho) with
    | none => simp [address,bytes] at done
    | some valor =>
      obtain ⟨b,there,rfl⟩ := Option.map_eq_some_iff.mp bytes
      refine ⟨numero_de b.1,?_,?_⟩
      · simp [leido,address,there]
      · simp only [bytes]

theorem mov_in_exacta_iff {d : Registro} {resto : Option String}
    (done : ((MOV_IN d resto).ejecutada e pid antes).2 = .CONTINUAR) :
    (MOV_IN d resto).Exacta e antes ((MOV_IN d resto).ejecutada e pid antes).1 ↔ d ≠ .PC := by
  obtain ⟨n,read,step⟩ := mov_in_leido done
  rw [step]
  refine exacta_siguiente_iff (i := MOV_IN d resto) (v := n) rfl ?_ ?_
  · simp [referencia,read]
  · rw [UInt32.toNat_ofNat']
    norm_cast

/-- The instructions compute what they are to, unless SUM, SUB or MOV_IN has the program
    counter as its destination: the step to the next instruction then goes over the result. -/
theorem instructions_exact_iff (e : Entorno) (pid : UInt32) (antes : Registros) (i : Instruccion)
    (done : ∀ d resto, i = MOV_IN d resto → (i.ejecutada e pid antes).2 = .CONTINUAR) :
    i.Exacta e antes (i.ejecutada e pid antes).1 ∧ (i.ejecutada e pid antes).2 = .CONTINUAR ↔ i.SinPC := by
  cases i with
  | SET d valor => exact iff_of_true ⟨set_exacta d valor,rfl⟩ trivial
  | SUM d o => exact (and_iff_left rfl).trans (sum_exacta_iff d o)
  | SUB d o => exact (and_iff_left rfl).trans (sub_exacta_iff d o)
  | JNZ r instruccion => exact iff_of_true ⟨jnz_exacta r instruccion,rfl⟩ trivial
  | MOV_IN d resto => exact (and_iff_left (done d resto rfl)).trans (mov_in_exacta_iff (done d resto rfl))

/-- A process with one segment, over a memory that holds the low byte of each address. -/
def entorno_prueba : Entorno where
  tam_max_segmento := 64
  tabla_segmentos := [⟨0,100,16⟩]
  leer_memoria df tamanio := some ⟨(List.range tamanio.toNat).map (fun k => .ofNat 8 (df.toNat + k)),by simp⟩
  otra _ _ _ _ registros := (registros,.SYSCALL_BLOQUEANTE)

def registros_prueba : Registros := ⟨10,5,0,0,0,0,0,0,0,4,0⟩

theorem instructions_exact_iff_mov_in :
    (MOV_IN .EAX none).Exacta entorno_prueba registros_prueba
      ((MOV_IN .EAX none).ejecutada entorno_prueba 1 registros_prueba).1 ∧
    ((MOV_IN .EAX none).ejecutada entorno_prueba 1 registros_prueba).2 = .CONTINUAR ↔ (MOV_IN .EAX none).SinPC :=
  instructions_exact_iff entorno_prueba 1 registros_prueba (MOV_IN .EAX none) (by rintro d resto ⟨rfl,rfl⟩; decide +kernel)

/-- With 10 in PC and 5 in AX, SUM PC AX leaves 16. -/
theorem sum_to_pc_skips : ((SUM .PC .AX).ejecutada entorno_prueba 1 registros_prueba).1.PC = 16 ∧
    ¬ (SUM .PC .AX).Exacta entorno_prueba registros_prueba ((SUM .PC .AX).ejecutada entorno_prueba 1 registros_prueba).1 := by
  refine ⟨by decide +kernel,?_⟩
  intro exact
  obtain ⟨v,due,there⟩ := exact.escrito .PC rfl
  cases due
  revert there
  decide +kernel

end PlugNPray.Instructions
