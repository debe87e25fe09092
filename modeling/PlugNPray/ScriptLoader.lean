import PlugNPray.KernelMemory
import PlugNPray.Lines

/-!
The instructions of a process: the lines of its script, as far as they fit in the
buffer of the loader.
-/
namespace PlugNPray.ScriptLoader
open PlugNPray.Lines PlugNPray.Places PlugNPray.KernelMemory

/-- The text of an instruction: a byte is the character of its number. -/
def texto (linea : List UInt8) : String := String.ofList (linea.map (fun b => Char.ofNat b.toNat))

/-- The C string in the buffer after a read, cut at its newline. -/
def entrada (linea : List UInt8) : List UInt8 := linea.takeWhile (fun c => c ≠ nul && c ≠ nl)

/-- The loop of contexto_crear, at most `turnos` times: fgets gets a buffer of 256 bytes, and leaves room for the NUL. -/
def leer_lineas : Nat → List UInt8 → List (List UInt8)
  | 0, _ => []
  | turnos+1, archivo =>
    if (fgets nl 255 archivo).1 = [] then []
    else entrada (fgets nl 255 archivo).1 :: leer_lineas turnos (fgets nl 255 archivo).2

/-- Every turn takes something of the file. -/
def cargar (archivo : List UInt8) : List String := (leer_lineas archivo.length archivo).map texto

/-- contexto_crear with the file that fopen found, if any. -/
def crear_contexto (pid : Int) (path : String) (archivo : Option (List UInt8)) (m : Estado) : Estado :=
  contexto_crear pid path ((archivo.map cargar).getD []) m

/-- OP_FETCH -/
def op_fetch (pid pc : Int) (m : Estado) : Option String :=
  (contexto_buscar m pid).bind (fun c => if pc < 0 then none else c.2.instrucciones[pc.toNat]?)

/-- The lines of the file and nothing else are the entries, each at its place. -/
def PorLinea (archivo : List UInt8) (instrucciones : List String) : Prop :=
  instrucciones.length = (lines nl archivo).length ∧
    ∀ i : Nat, instrucciones[i]? = ((lines nl archivo)[i]?).map texto

/-- Every line has at most 254 bytes, or 255 if it is the last and no newline follows it. -/
def Caben (archivo : List UInt8) : Prop :=
  (∀ x ∈ (lines nl archivo).dropLast, x.length < 255) ∧
    ∀ x, (lines nl archivo).getLast? = some x → x.length < 255 ∨ (x.length = 255 ∧ archivo.getLast? ≠ some nl)

/-! ## Which files fit -/

theorem caben_ultima {x : List UInt8} (plain : nl ∉ x) (some : x ≠ []) : Caben x ↔ x.length ≤ 255 := by
  have ends : x.getLast? ≠ .some nl := fun last => plain (List.mem_of_getLast? last)
  simp only [Caben,lines_last plain some,List.dropLast_singleton,List.not_mem_nil,false_implies,implies_true,true_and,
    List.getLast?_singleton,Option.some.injEq,forall_eq',ends,ne_eq,not_false_eq_true,and_true]
  omega

theorem caben_linea {x l : List UInt8} (plain : nl ∉ x) : Caben (x ++ nl :: l) ↔ x.length < 255 ∧ Caben l := by
  unfold Caben
  rw [lines_append plain]
  cases split : lines nl l with
  | nil =>
    have empty : l = [] := by
      cases texto_cases nl l with
      | vacio => rfl
      | ultima _ plain some =>
        rw [lines_last plain some] at split
        cases split
      | linea y l plain =>
        rw [lines_append plain] at split
        cases split
    simp [empty]
  | cons y ys =>
    have more : l ≠ [] := by
      rintro rfl
      cases split
    have last : (x ++ nl :: l).getLast? = l.getLast? := by
      rw [List.getLast?_append_of_ne_nil _ (by simp),List.getLast?_cons_of_ne_nil more]
    simp [last,and_assoc]

/-! ## What the loop reads -/

theorem entrada_linea {x : List UInt8} (whole : nul ∉ x) (plain : nl ∉ x) : entrada (x ++ [nl]) = x := by
  unfold entrada
  rw [List.takeWhile_append_of_pos]
  · simp
  · intro c member
    have other : c ≠ nul := fun same => whole (same ▸ member)
    have other' : c ≠ nl := fun same => plain (same ▸ member)
    simp [other,other']

theorem entrada_ultima {x : List UInt8} (whole : nul ∉ x) (plain : nl ∉ x) : entrada x = x := by
  unfold entrada
  rw [List.takeWhile_eq_self_iff]
  intro c member
  have other : c ≠ nul := fun same => whole (same ▸ member)
  have other' : c ≠ nl := fun same => plain (same ▸ member)
  simp [other,other']

theorem leer_nil (turnos : Nat) : leer_lineas turnos [] = [] := by
  cases turnos with
  | zero => rfl
  | succ turnos => simp [leer_lineas,fgets_nil]

/-- No line is left out. -/
theorem lines_le_leer {turnos : Nat} {archivo : List UInt8} (enough : archivo.length ≤ turnos) :
    (lines nl archivo).length ≤ (leer_lineas turnos archivo).length := by
  induction turnos generalizing archivo with
  | zero =>
    obtain rfl := List.eq_nil_of_length_eq_zero (Nat.le_zero.mp enough)
    simp
  | succ turnos ih =>
    rcases eq_or_ne archivo [] with rfl | some
    · simp
    · have shorter := fgets_shorter nl (by decide : 0 < 255) some
      have taken : (fgets nl 255 archivo).1 ≠ [] := by
        obtain ⟨c,l,rfl⟩ := List.exists_cons_of_ne_nil some
        rw [fgets]
        split_ifs <;> simp
      rw [leer_lineas,if_neg taken,List.length_cons]
      have rest : (lines nl (fgets nl 255 archivo).2).length ≤ (leer_lineas turnos (fgets nl 255 archivo).2).length := ih (by omega)
      have once := fgets_lines nl 255 archivo
      omega

theorem leer_iff {turnos : Nat} {archivo : List UInt8} (enough : archivo.length ≤ turnos) (whole : nul ∉ archivo) :
    leer_lineas turnos archivo = lines nl archivo ↔ Caben archivo := by
  induction turnos generalizing archivo with
  | zero =>
    obtain rfl := List.eq_nil_of_length_eq_zero (Nat.le_zero.mp enough)
    simp [leer_lineas,Caben]
  | succ turnos ih =>
    cases texto_cases nl archivo with
    | vacio => simp [leer_nil,Caben]
    | ultima _ plain some =>
      rw [caben_ultima plain some,lines_last plain some,leer_lineas]
      rcases le_or_gt archivo.length 255 with fits | long
      · simp [fgets_last plain fits,some,entrada_ultima whole plain,leer_nil,fits]
      · have read := fgets_long plain long.le []
        simp only [List.append_nil] at read
        have piece : archivo.take 255 ≠ [] := by simp [some]
        rw [read,if_neg piece]
        refine iff_of_false (fun same => ?_) (by omega)
        have cut := congrArg List.length (List.cons.inj same).1
        rw [entrada_ultima (fun member => whole (List.mem_of_mem_take member)) (fun member => plain (List.mem_of_mem_take member)),
          List.length_take] at cut
        omega
    | linea x l plain =>
      have clean : nul ∉ x := fun member => whole (List.mem_append_left _ member)
      have later : nul ∉ l := fun member => whole (List.mem_append_right _ (List.mem_cons_of_mem _ member))
      have size : x.length + l.length ≤ turnos := by
        simp only [List.length_append,List.length_cons] at enough
        omega
      rw [caben_linea plain,lines_append plain,leer_lineas]
      rcases lt_or_ge x.length 255 with fits | long
      · simp [fgets_line plain fits,entrada_linea clean plain,fits,ih (by omega) later]
      · rw [fgets_long plain long]
        have piece : x.take 255 ≠ [] := by
          intro empty
          have none := congrArg List.length empty
          rw [List.length_take,List.length_nil] at none
          omega
        rw [if_neg piece]
        refine iff_of_false (fun same => ?_) (by omega)
        obtain ⟨head,tail⟩ := List.cons.inj same
        rw [entrada_ultima (fun member => clean (List.mem_of_mem_take member)) (fun member => plain (List.mem_of_mem_take member))] at head
        -- The first piece is the line, and the newline that is left makes an entry of its own.
        have exactly : x.length = 255 := by
          have cut := congrArg List.length head
          rw [List.length_take] at cut
          omega
        have none : x.drop 255 = [] := List.drop_eq_nil_of_le exactly.le
        have left : (lines nl (nl :: l)).length ≤ (leer_lineas turnos (nl :: l)).length :=
          lines_le_leer (by rw [List.length_cons]; omega)
        rw [none,List.nil_append] at tail
        rw [lines_newline,List.length_cons] at left
        have count := congrArg List.length tail
        simp only at count
        omega

/-! ## Contexts -/

theorem texto_inj {x y : List UInt8} : texto x = texto y ↔ x = y := by
  have chars : Function.Injective (fun b : UInt8 => Char.ofNat b.toNat) := by
    intro b c same
    have valid : ∀ b : UInt8, b.toNat.isValidChar := fun b => .inl (b.toNat_lt.trans (by decide))
    have numbers := congrArg Char.toNat same
    simp only [Char.toNat_ofNat,if_pos (valid b),if_pos (valid c)] at numbers
    exact UInt8.toNat_inj.mp numbers
  rw [texto,texto,String.ofList_inj,chars.list_map.eq_iff]

theorem por_linea_iff (archivo : List UInt8) : PorLinea archivo (cargar archivo) ↔ leer_lineas archivo.length archivo = lines nl archivo := by
  have texts : ∀ l l' : List (List UInt8), l.map texto = l'.map texto ↔ l = l' :=
    fun l l' => List.map_inj_right (fun x y => texto_inj.mp)
  rw [← texts]
  unfold PorLinea cargar
  constructor
  · rintro ⟨_,each⟩
    exact List.ext_getElem? (fun i => (each i).trans List.getElem?_map.symm)
  · intro same
    rw [same]
    exact ⟨List.length_map _,fun i => List.getElem?_map⟩

/-- A script gives its process one instruction a line, and OP_FETCH finds line `pc` there, if the process is new. -/
def Numera (pid : Int) (path : String) (archivo : List UInt8) (m : Estado) : Prop :=
  ∃ ctx, (crear_contexto pid path (some archivo) m).lista_contextos = m.lista_contextos ++ [ctx] ∧ ctx.pid = pid ∧
    PorLinea archivo ctx.instrucciones ∧
    (contexto_buscar m pid = none → ∀ pc : Nat,
      op_fetch pid pc (crear_contexto pid path (some archivo) m) = ((lines nl archivo)[pc]?).map texto)

theorem numera_iff (pid : Int) (path : String) (archivo : List UInt8) (m : Estado) :
    Numera pid path archivo m ↔ PorLinea archivo (cargar archivo) := by
  constructor
  · rintro ⟨ctx,created,_,numbered,_⟩
    obtain rfl := List.singleton_inj.mp (List.append_cancel_left created)
    exact numbered
  · intro numbered
    refine ⟨_,rfl,rfl,numbered,fun new pc => ?_⟩
    have found : contexto_buscar (crear_contexto pid path (some archivo) m) pid =
        some (m.lista_contextos.length,⟨pid,path,cargar archivo,[]⟩) := by
      have missing := first_none.mp new
      exact first_split (by simp) missing
    rw [op_fetch,found,Option.bind_some,if_neg (by omega)]
    exact numbered.2 pc

/-- A script is numbered by line exactly when every line of the file fits. -/
theorem instructions_by_line_iff (pid : Int) (path : String) (m : Estado) {archivo : List UInt8} (whole : nul ∉ archivo) :
    Numera pid path archivo m ↔ Caben archivo := by
  rw [numera_iff,por_linea_iff,leer_iff (le_refl _) whole]

def ascii (letras : String) : List UInt8 := letras.toList.map (fun c => .ofNat c.toNat)

/-- A script of two lines. -/
def dos_lineas : List UInt8 := ascii "SET AX 1\nEXIT"

theorem instructions_by_line_dos : Numera 0 "a" dos_lineas (inicial 16 true (fun _ => .responde)) := by
  refine (instructions_by_line_iff 0 "a" _ (by decide)).mpr ?_
  exact (caben_linea (x := ascii "SET AX 1") (l := ascii "EXIT") (by decide)).mpr
    ⟨by decide,(caben_ultima (by decide) (by decide)).mpr (by decide)⟩

/-- A comment of 255 bytes and a newline: the newline makes an entry of its own. -/
def linea_larga : List UInt8 := List.replicate 255 35 ++ ascii "\nEXIT\n"

theorem long_line_split : ¬ Numera 0 "a" linea_larga (inicial 16 true (fun _ => .responde)) := by
  have whole : nul ∉ linea_larga := by decide
  rw [numera_iff,por_linea_iff,leer_iff (le_refl _) whole]
  intro fits
  have plain : nl ∉ List.replicate 255 35 := fun member => absurd (List.eq_of_mem_replicate member) (by decide)
  have long := ((caben_linea (l := ascii "EXIT\n") plain).mp fits).1
  rw [List.length_replicate] at long
  omega

end PlugNPray.ScriptLoader
