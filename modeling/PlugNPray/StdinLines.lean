import PlugNPray.Lines
import PlugNPray.Wire

/-!
The loop of the STDIN device: what each request gets of the text on its input, and
when consecutive requests get consecutive lines.
-/
namespace PlugNPray.StdinLines
open PlugNPray.Lines
open PlugNPray.Wire (tope)

abbrev Byte := UInt8

/-- A buffer of `tamanio + 1` zeros after fgets has put its string in it. -/
def llenar (tamanio : Nat) (leido : List Byte) : List Byte := leido ++ List.replicate (tamanio + 1 - leido.length) nul

def strlen (buffer : List Byte) : Nat := (buffer.takeWhile (· ≠ nul)).length

def quitar_newline (buffer : List Byte) : List Byte :=
  let longitud := strlen buffer
  if 0 < longitud ∧ buffer[longitud - 1]? = some nl then buffer.set (longitud - 1) nul else buffer

/-- One turn of bucle_stdin: what is sent, and what is left of the input. Where fgets reads nothing the buffer keeps its zeros;
    `tamanio` is an int, and there is no turn where `tamanio + 1` overflows. -/
def atender_pedido (tamanio : Nat) (entrada : List Byte) : Option (List Byte × List Byte) :=
  let r := fgets nl tamanio entrada
  if tamanio + 1 < 2^31 then some ((quitar_newline (llenar tamanio r.1)).take (min tamanio tope),r.2) else none

/-- What is sent for each request of a sequence. -/
def bucle_stdin : List Nat → List Byte → List (List Byte)
  | [], _ => []
  | tamanio :: resto, entrada =>
    match atender_pedido tamanio entrada with
    | some r => r.1 :: bucle_stdin resto r.2
    | none => []

/-! ## What is due -/

/-- A line padded with zeros. -/
def rellena (tamanio : Nat) (x : List Byte) : List Byte := x ++ List.replicate (tamanio - x.length) nul

/-- There is a line for every request, without a NUL and no longer than what is asked for, which is an int. -/
def Admisible (tamanios : List Nat) (entrada : List Byte) : Prop :=
  ∀ (i n : Nat), tamanios[i]? = some n → n < 2^31 ∧ ∃ x : List Byte, (lines nl entrada)[i]? = some x ∧ x.length ≤ n ∧ nul ∉ x

/-- Each request gets the line of its number. -/
def LineasSeguidas (tamanios : List Nat) (entrada : List Byte) : Prop :=
  bucle_stdin tamanios entrada = (tamanios.zip (lines nl entrada)).map (fun p => rellena p.1 p.2)

/-- A line that fills its request is followed by empty lines only. -/
def Holgadas (tamanios : List Nat) (entrada : List Byte) : Prop :=
  (tamanios.zip (lines nl entrada)).Pairwise (fun p q => q.2 ≠ [] → p.2.length < p.1)

instance (tamanios : List Nat) (entrada : List Byte) : Decidable (LineasSeguidas tamanios entrada) := inferInstanceAs (Decidable (_ = _))
instance (tamanios : List Nat) (entrada : List Byte) : Decidable (Holgadas tamanios entrada) :=
  inferInstanceAs (Decidable (List.Pairwise _ _))

theorem admisible_cons {n : Nat} {resto : List Nat} {entrada : List Byte} :
    Admisible (n :: resto) entrada ↔ n < 2^31 ∧ ∃ (x : List Byte) (ls : List (List Byte)), lines nl entrada = x :: ls ∧ x.length ≤ n ∧
      nul ∉ x ∧ ∀ (i m : Nat), resto[i]? = some m → m < 2^31 ∧ ∃ y : List Byte, ls[i]? = some y ∧ y.length ≤ m ∧ nul ∉ y := by
  constructor
  · intro fits
    obtain ⟨int,x,here,short,clean⟩ := fits 0 n rfl
    cases split : lines nl entrada with
    | nil =>
      rw [split] at here
      cases here
    | cons y ls =>
      rw [split] at here
      obtain rfl : y = x := Option.some.inj here
      refine ⟨int,y,ls,rfl,short,clean,fun i m later => ?_⟩
      obtain ⟨int',z,there,rest⟩ := fits (i + 1) m (by simpa using later)
      rw [split] at there
      exact ⟨int',z,by simpa using there,rest⟩
  · rintro ⟨int,x,ls,split,short,clean,later⟩ i m here
    rw [split]
    cases i with
    | zero =>
      cases here
      exact ⟨int,x,rfl,short,clean⟩
    | succ i => exact later i m (by simpa using here)

/-! ## One request -/

theorem strlen_clean {x : List Byte} (clean : nul ∉ x) (n : Nat) : strlen (x ++ List.replicate (n + 1) nul) = x.length := by
  unfold strlen
  rw [List.takeWhile_append_of_pos (fun c member => by simpa using fun same : c = nul => clean (same ▸ member))]
  simp [List.replicate_succ]

theorem take_relleno (x : List Byte) {k m : Nat} (enough : k ≤ m) :
    (x ++ List.replicate m nul).take (x.length + k) = rellena (x.length + k) x := by
  rw [List.take_append,List.take_of_length_le (by omega),rellena]
  simp [enough]

/-- A line read with its newline is sent without it. -/
theorem quitar_linea {x : List Byte} (clean : nul ∉ x) {tamanio : Nat} (room : x.length < tamanio) :
    (quitar_newline (llenar tamanio (x ++ [nl]))).take tamanio = rellena tamanio x := by
  have clean' : nul ∉ x ++ [nl] := by simpa [nul,nl] using clean
  obtain ⟨k,rfl⟩ := Nat.exists_eq_add_of_lt room
  have shape : llenar (x.length + k + 1) (x ++ [nl]) = x ++ [nl] ++ List.replicate (k + 1) nul := by
    unfold llenar
    congr 2
    simp
    omega
  rw [shape,quitar_newline,strlen_clean clean' k]
  have last : (x ++ [nl] ++ List.replicate (k + 1) nul)[(x ++ [nl]).length - 1]? = some nl := by simp
  rw [if_pos ⟨by simp,last⟩]
  have cleared : (x ++ [nl] ++ List.replicate (k + 1) nul).set ((x ++ [nl]).length - 1) nul = x ++ List.replicate (k + 2) nul := by
    simp [List.replicate_succ]
  rw [cleared]
  exact take_relleno x (by omega : k + 1 ≤ k + 2)

/-- A string without a newline is sent as it is. -/
theorem quitar_plano {x : List Byte} (clean : nul ∉ x) (plain : nl ∉ x) {tamanio : Nat} (room : x.length ≤ tamanio) :
    (quitar_newline (llenar tamanio x)).take tamanio = rellena tamanio x := by
  obtain ⟨k,rfl⟩ := Nat.exists_eq_add_of_le room
  have shape : llenar (x.length + k) x = x ++ List.replicate (k + 1) nul := by
    unfold llenar
    congr 2
    omega
  rw [shape,quitar_newline,strlen_clean clean k]
  have other : ¬ (0 < x.length ∧ (x ++ List.replicate (k + 1) nul)[x.length - 1]? = some nl) := by
    rintro ⟨filled,last⟩
    rw [List.getElem?_append_left (by omega)] at last
    exact plain (List.mem_of_getElem? last)
  rw [if_neg other]
  exact take_relleno x (by omega)

theorem atender_de_una_vez {tamanio : Nat} (few : tamanio ≤ tope) (entrada : List Byte) : atender_pedido tamanio entrada =
    some ((quitar_newline (llenar tamanio (fgets nl tamanio entrada).1)).take tamanio,(fgets nl tamanio entrada).2) := by
  have small : tamanio + 1 < 2^31 := by
    unfold tope at few
    omega
  rw [atender_pedido,if_pos small,Nat.min_eq_left few]

theorem bucle_cons {n : Nat} {entrada : List Byte} {r : List Byte × List Byte} (turn : atender_pedido n entrada = some r) (resto : List Nat) :
    bucle_stdin (n :: resto) entrada = r.1 :: bucle_stdin resto r.2 := by
  simp [bucle_stdin,turn]

theorem rellena_inj {n : Nat} {x y : List Byte} (clean : nul ∉ x) (clean' : nul ∉ y)
    (same : rellena n x = rellena n y) : x = y := by
  have shape : ∀ {z : List Byte}, nul ∉ z → (rellena n z).takeWhile (· ≠ nul) = z := by
    intro z none
    unfold rellena
    rw [List.takeWhile_append_of_pos (fun c member => by simpa using fun eq : c = nul => none (eq ▸ member))]
    cases n - z.length <;> simp [List.replicate_succ]
  rw [← shape clean,same,shape clean']

/-- A line shorter than its request is sent, and left behind. -/
theorem atender_holgada {x l : List Byte} (clean : nul ∉ x) (plain : nl ∉ x) {tamanio : Nat} (room : x.length < tamanio)
    (few : tamanio ≤ tope) : atender_pedido tamanio (x ++ nl :: l) = some (rellena tamanio x,l) := by
  rw [atender_de_una_vez few,fgets_line plain room,quitar_linea clean room]

theorem atender_ultima {x : List Byte} (clean : nul ∉ x) (plain : nl ∉ x) {tamanio : Nat} (room : x.length ≤ tamanio)
    (few : tamanio ≤ tope) : atender_pedido tamanio x = some (rellena tamanio x,[]) := by
  rw [atender_de_una_vez few,fgets_last plain room,quitar_plano clean plain room]

/-- A line that fills its request is sent, and its newline stays. -/
theorem atender_justa {x l : List Byte} (clean : nul ∉ x) (plain : nl ∉ x) (few : x.length ≤ tope) :
    atender_pedido x.length (x ++ nl :: l) = some (rellena x.length x,nl :: l) := by
  rw [atender_de_una_vez few,fgets_long plain (le_refl _),List.take_length,List.drop_length,List.nil_append,quitar_plano clean plain (le_refl _)]

theorem enviado_length {tamanios : List Nat} {entrada b : List Byte} (sent : b ∈ bucle_stdin tamanios entrada) : b.length ≤ tope := by
  induction tamanios generalizing entrada with
  | nil => cases sent
  | cons n resto ih =>
    rw [bucle_stdin] at sent
    cases turn : atender_pedido n entrada with
    | none =>
      rw [turn] at sent
      cases sent
    | some r =>
      rw [turn] at sent
      rcases List.mem_cons.mp sent with rfl | later
      · unfold atender_pedido at turn
        dsimp only at turn
        split_ifs at turn
        rw [← Option.some.inj turn,List.length_take]
        exact (min_le_left _ _).trans (min_le_right _ _)
      · exact ih later

/-! ## Sequences of requests -/

theorem newlines_cons (k : Nat) (l : List Byte) : List.replicate k nl ++ nl :: l = List.replicate (k + 1) nl ++ l := by
  rw [List.replicate_succ',List.append_assoc]
  rfl

/-- With newlines left over, requests get zeros: right for empty lines only. -/
theorem atrasado_iff {tamanios : List Nat} {k : Nat} {entrada : List Byte} (fits : Admisible tamanios entrada)
    (few : ∀ n ∈ tamanios, n ≤ tope) :
    bucle_stdin tamanios (List.replicate (k + 1) nl ++ entrada) =
        (tamanios.zip (lines nl entrada)).map (fun p => rellena p.1 p.2) ↔
      ∀ p ∈ tamanios.zip (lines nl entrada), p.2 = [] := by
  induction tamanios generalizing k entrada with
  | nil => simp [bucle_stdin]
  | cons n resto ih =>
    obtain ⟨_,x,ls,split,short,clean,later⟩ := admisible_cons.mp fits
    obtain ⟨first,others⟩ := List.forall_mem_cons.mp few
    -- A newline is read, unless nothing is asked for.
    have zeros : ∀ l : List Byte, atender_pedido n (nl :: l) = some (rellena n [],if n = 0 then nl :: l else l) := by
      intro l
      rcases Nat.eq_zero_or_pos n with rfl | some
      · exact atender_justa (x := []) (by simp) (by simp) first
      · have read := atender_holgada (x := []) (l := l) (by simp) (by simp) some first
        rwa [if_neg (by omega)]
    rw [split,List.zip_cons_cons,List.map_cons,List.forall_mem_cons,List.replicate_succ,List.cons_append,bucle_cons (zeros _),List.cons.injEq]
    by_cases empty : x = []
    · subst empty
      obtain ⟨l',rfl,rfl⟩ := lines_empty split
      have next : Admisible resto l' := later
      -- The newline of the empty line takes the place of the one that was read, or comes on top of them.
      have left : ∃ k', (if n = 0 then nl :: (List.replicate k nl ++ nl :: l') else List.replicate k nl ++ nl :: l') =
          List.replicate (k' + 1) nl ++ l' := by
        rw [newlines_cons]
        by_cases zero : n = 0
        · exact ⟨k + 1,by rw [if_pos zero]; rfl⟩
        · exact ⟨k,by rw [if_neg zero]⟩
      obtain ⟨k',left⟩ := left
      rw [left]
      simpa using ih next others
    · refine iff_of_false (fun same => ?_) (fun all => empty all.1)
      exact empty (rellena_inj (by simp) clean same.1).symm

/-- Where every request is within what one send moves. -/
theorem lineas_iff {tamanios : List Nat} {entrada : List Byte} (fits : Admisible tamanios entrada) (few : ∀ n ∈ tamanios, n ≤ tope) :
    LineasSeguidas tamanios entrada ↔ Holgadas tamanios entrada := by
  unfold LineasSeguidas Holgadas
  induction tamanios generalizing entrada with
  | nil => simp [bucle_stdin]
  | cons n resto ih =>
    obtain ⟨_,x,ls,split,short,clean,later⟩ := admisible_cons.mp fits
    obtain ⟨one,others⟩ := List.forall_mem_cons.mp few
    obtain ⟨plain,⟨l',rfl,rfl⟩ | ⟨rfl,_,rfl⟩⟩ := lines_cons split
    · have next : Admisible resto l' := later
      rw [split,List.zip_cons_cons,List.map_cons,List.pairwise_cons]
      rcases Nat.lt_or_ge x.length n with room | full
      · rw [bucle_cons (atender_holgada clean plain room one),List.cons.injEq]
        have first : ∀ q ∈ resto.zip (lines nl l'), q.2 ≠ [] → x.length < n := fun _ _ _ => room
        exact (and_iff_right rfl).trans ((ih next others).trans (and_iff_right first).symm)
      · obtain rfl : n = x.length := by omega
        rw [bucle_cons (atender_justa clean plain one),List.cons.injEq]
        have behind := atrasado_iff (k := 0) next others
        simp only [List.replicate_one,List.singleton_append,zero_add] at behind
        simp only [true_and,behind,lt_self_iff_false,imp_false,not_not]
        refine (and_iff_left_of_imp (fun empties => ?_)).symm
        exact List.pairwise_of_forall_mem_list (fun p _ q member some => absurd (empties q member) some)
    · -- Nothing follows the last line, and nothing is asked for.
      have none : resto = [] := by
        cases resto with
        | nil => rfl
        | cons m resto =>
          obtain ⟨_,y,there,_⟩ := later 0 m rfl
          cases there
      rw [split,none,bucle_cons (atender_ultima clean plain short one)]
      simp [bucle_stdin]

/-- What is sent for a request that gets its line is as long as the request. -/
theorem few_of_lineas {tamanios : List Nat} {entrada : List Byte} (fits : Admisible tamanios entrada)
    (right : LineasSeguidas tamanios entrada) : ∀ n ∈ tamanios, n ≤ tope := by
  intro n member
  obtain ⟨i,here⟩ := List.getElem?_of_mem member
  obtain ⟨_,x,line,short,_⟩ := fits i n here
  have sent : rellena n x ∈ bucle_stdin tamanios entrada := by
    rw [right]
    refine List.mem_map.mpr ⟨(n,x),List.mem_of_getElem? (i := i) ?_,rfl⟩
    exact List.getElem?_zip_eq_some.mpr ⟨here,line⟩
  have size := enviado_length sent
  rw [rellena,List.length_append,List.length_replicate] at size
  omega

/-- Consecutive requests that their lines fit in get consecutive lines, each padded to its request, exactly when no line but those
    before empty lines fills its request, and no request is for more than one send moves. -/
theorem stdin_lines_iff {tamanios : List Nat} {entrada : List Byte} (fits : Admisible tamanios entrada) :
    LineasSeguidas tamanios entrada ↔ Holgadas tamanios entrada ∧ ∀ n ∈ tamanios, n ≤ tope := by
  constructor
  · intro right
    have few := few_of_lineas fits right
    exact ⟨(lineas_iff fits few).mp right,few⟩
  · rintro ⟨loose,few⟩
    exact (lineas_iff fits few).mpr loose

/-- HELLO and WORLD. -/
def dos_lineas : List Byte := [72,69,76,76,79,nl,87,79,82,76,68,nl]

theorem dos_admisible {n m : Nat} (first : 5 ≤ n ∧ n < 2^31) (second : 5 ≤ m ∧ m < 2^31) : Admisible [n,m] dos_lineas := by
  refine admisible_cons.mpr ⟨first.2,[72,69,76,76,79],[[87,79,82,76,68]],by decide,first.1,by decide,fun i k here => ?_⟩
  cases i with
  | zero =>
    cases here
    exact ⟨second.2,[87,79,82,76,68],rfl,second.1,by decide⟩
  | succ i => cases here

theorem stdin_lines_seis : Admisible [6,5] dos_lineas ∧ LineasSeguidas [6,5] dos_lineas :=
  ⟨dos_admisible (by decide) (by decide),(stdin_lines_iff (dos_admisible (by decide) (by decide))).mpr (by decide)⟩

/-- With requests of five the second gets the newline of the first line. -/
theorem stdin_second_empty : Admisible [5,5] dos_lineas ∧ bucle_stdin [5,5] dos_lineas = [[72,69,76,76,79],[0,0,0,0,0]] ∧
    ¬ LineasSeguidas [5,5] dos_lineas :=
  ⟨dos_admisible (by decide) (by decide),by decide,by decide⟩

end PlugNPray.StdinLines
