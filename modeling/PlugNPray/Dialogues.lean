import PlugNPray.Wire
import PlugNPray.Runs

/-!
Requests and replies over two byte streams: a client that asks and reads, a server that
reads and answers, piece by piece and in any order of their turns, and others that
change the state of the server meanwhile.
-/
namespace PlugNPray.Dialogues
open PlugNPray.Wire PlugNPray.Runs

/-! ## Readers -/

/-- A reader asks for a piece and goes on with what it got. -/
inductive Lector (α : Type) where
  | fin (a : α)
  | lee (l : Lectura) (sigue : Campo → Lector α)

variable {α β : Type}

namespace Lector

/-- What it reads from a stream, and what is left; nothing if it has to wait for more. -/
def corre : Lector α → List Byte → Option (α × List Byte)
  | .fin a, l => some (a,l)
  | .lee r sigue, l => (recibir r l).bind (fun x => (sigue x.1).corre x.2)

def luego : Lector α → (α → Lector β) → Lector β
  | .fin a, f => f a
  | .lee l sigue, f => .lee l (fun c => (sigue c).luego f)

instance : Monad Lector where
  pure := .fin
  bind := luego

def entero : Lector Entero := .lee .entero (fun c => match c with | .entero v => .fin v | .bytes _ => .fin 0)
def bytes (n : Nat) : Lector (List Byte) := .lee (.bytes n) (fun c => match c with | .bytes b => .fin b | .entero _ => .fin [])

@[simp] theorem corre_pure (a : α) (l : List Byte) : (pure a : Lector α).corre l = some (a,l) := rfl

@[simp] theorem corre_bind (m : Lector α) (f : α → Lector β) (l : List Byte) :
    (m >>= f).corre l = (m.corre l).bind (fun x => (f x.1).corre x.2) := by
  show (m.luego f).corre l = _
  induction m generalizing l with
  | fin a => rfl
  | lee r sigue ih =>
    simp only [luego,corre,Option.bind_assoc]
    refine Option.bind_congr ?_
    intro x _
    exact ih x.1 x.2

/-- The reader takes the message, no more and no less, whatever follows it. -/
def Toma (m : Lector α) (w : List Campo) (a : α) : Prop := ∀ rest, m.corre (octetos w ++ rest) = some (a,rest)

theorem toma_pure (a : α) : (pure a : Lector α).Toma [] a := by
  intro rest
  rfl

theorem Toma.bind {m : Lector α} {f : α → Lector β} {w w' : List Campo} {a : α} {b : β} (first : m.Toma w a)
    (second : (f a).Toma w' b) : (m >>= f).Toma (w ++ w') b := by
  intro rest
  rw [corre_bind,octetos_append,List.append_assoc,first]
  exact second rest

theorem toma_entero (v : Entero) : entero.Toma [.entero v] v := by
  intro rest
  have read := recibir_octetos (.entero v) rest
  simp only [Campo.lectura] at read
  simp [entero,corre,read]

theorem toma_bytes {n : Nat} {b : List Byte} (whole : b.length = n) : (bytes n).Toma [.bytes b] b := by
  intro rest
  have read := recibir_octetos (.bytes b) rest
  simp only [Campo.lectura,whole] at read
  simp [bytes,corre,read]

theorem Toma.entero {f : Entero → Lector α} {v : Entero} {w : List Campo} {a : α} (later : (f v).Toma w a) :
    (Lector.entero >>= f).Toma (.entero v :: w) a := (toma_entero v).bind later

theorem Toma.bytes {f : List Byte → Lector α} {n : Nat} {b : List Byte} {w : List Campo} {a : α} (whole : b.length = n)
    (later : (f b).Toma w a) : (Lector.bytes n >>= f).Toma (.bytes b :: w) a := (toma_bytes whole).bind later

/-- The same reader, over and over. -/
def repetir (m : Lector α) : Nat → Lector (List α)
  | 0 => pure []
  | n+1 => do
    let a ← m
    let l ← repetir m n
    pure (a :: l)

theorem toma_repetir {m : Lector α} {escribe : α → List Campo} (one : ∀ a, m.Toma (escribe a) a) (l : List α) :
    (repetir m l.length).Toma (l.flatMap escribe) l := by
  induction l with
  | nil => exact toma_pure []
  | cons a l ih =>
    rw [List.flatMap_cons,← List.append_nil (l.flatMap escribe)]
    exact (one a).bind (ih.bind (toma_pure _))

end Lector

/-! ## Sessions -/

/-- The two sides: what the client sends and reads for each request, what the server reads, does and sends, and
    what the others do to its state. -/
structure Servicio (Pedido Orden Estado Resultado Otro : Type) where
  pide : Pedido → List Campo
  lector : Pedido → Lector Resultado
  recibe : Lector Orden
  atiende : Orden → Estado → Estado × List Campo
  cambia : Otro → Estado → Estado

/-- The call that the client is in, what it still sends and what it still reads. -/
structure Llamada (Pedido Resultado : Type) where
  pedido : Pedido
  envia : List Campo
  lee : Lector Resultado

structure Sesion (Pedido Orden Estado Resultado : Type) where
  estado : Estado
  llamada : Option (Llamada Pedido Resultado)
  /-- What the server still sends. -/
  envia : List Campo
  lee : Lector Orden
  subida : List Byte
  bajada : List Byte
  /-- The state in which the server took its last order. -/
  visto : Estado
  /-- The calls that returned, each with the state in which the server took its order. -/
  hechas : List (Pedido × Estado × Resultado)

inductive Turno (Pedido Otro : Type) where
  | llama (p : Pedido)
  | cliente
  | servidor
  | otro (o : Otro)

variable {Pedido Orden Estado Resultado Otro : Type}

namespace Servicio
variable (S : Servicio Pedido Orden Estado Resultado Otro)

def inicio (m : Estado) : Sesion Pedido Orden Estado Resultado :=
  { estado := m, llamada := none, envia := [], lee := S.recibe, subida := [], bajada := [], visto := m, hechas := [] }

/-- The client sends what it has to, then reads, then returns. -/
def cliente (v : Sesion Pedido Orden Estado Resultado) : Option (Sesion Pedido Orden Estado Resultado) :=
  match v.llamada with
  | none => none
  | some ⟨p,c :: w,n⟩ => some { v with llamada := some ⟨p,w,n⟩, subida := v.subida ++ c.octetos }
  | some ⟨p,[],.lee l sigue⟩ =>
    (recibir l v.bajada).map (fun x => { v with llamada := some ⟨p,[],sigue x.1⟩, bajada := x.2 })
  | some ⟨p,[],.fin r⟩ => some { v with llamada := none, hechas := v.hechas ++ [(p,v.visto,r)] }

/-- The server sends what it has to, then reads, then takes the order. -/
def servidor (v : Sesion Pedido Orden Estado Resultado) : Option (Sesion Pedido Orden Estado Resultado) :=
  match v.envia,v.lee with
  | c :: w, _ => some { v with envia := w, bajada := v.bajada ++ c.octetos }
  | [], .lee l sigue => (recibir l v.subida).map (fun x => { v with lee := sigue x.1, subida := x.2 })
  | [], .fin o =>
    some { v with
      estado := (S.atiende o v.estado).1
      envia := (S.atiende o v.estado).2
      lee := S.recibe
      visto := v.estado }

def paso : Turno Pedido Otro → Sesion Pedido Orden Estado Resultado → Option (Sesion Pedido Orden Estado Resultado)
  | .llama p, v =>
    match v.llamada with
    | none => some { v with llamada := some ⟨p,S.pide p,S.lector p⟩ }
    | some _ => none
  | .cliente, v => cliente v
  | .servidor, v => S.servidor v
  | .otro o, v => some { v with estado := S.cambia o v.estado }

/-- The two sides understand each other: the server reads the request, and the client the reply to it, whole
    in every state with the invariant, which the orders keep. -/
structure Acorde (inv : Estado → Prop) (orden : Pedido → Orden) (resultado : Pedido → Estado → Resultado) : Prop where
  abre : ∃ sigue, S.recibe = .lee .entero sigue
  espera : ∀ p, ∃ sigue, S.lector p = .lee .entero sigue
  pedido : ∀ p, S.recibe.Toma (S.pide p) (orden p)
  respuesta : ∀ p m, inv m → (S.lector p).Toma (S.atiende (orden p) m).2 (resultado p m)
  conserva : ∀ p m, inv m → inv (S.atiende (orden p) m).1

variable {S} {inv : Estado → Prop} {orden : Pedido → Orden} {resultado : Pedido → Estado → Resultado}
variable {v w : Sesion Pedido Orden Estado Resultado} {p : Pedido} {n : Lector Resultado} {o : Orden} {r : Resultado}

/-! ### Alignment -/

/-- Between two calls there is nothing on the streams and nothing to send. -/
structure Reposo (S : Servicio Pedido Orden Estado Resultado Otro) (v : Sesion Pedido Orden Estado Resultado) : Prop where
  envia : octetos v.envia = []
  lee : v.lee = S.recibe
  subida : v.subida = []
  bajada : v.bajada = []

/-- Where the two sides are: between two calls, in the middle of a request, or of its reply. -/
inductive Fase (S : Servicio Pedido Orden Estado Resultado Otro) (orden : Pedido → Orden) (resultado : Pedido → Estado → Resultado)
    (v : Sesion Pedido Orden Estado Resultado) : Prop where
  | reposo (idle : v.llamada = none) (rests : Reposo S v)
  | pidiendo (p : Pedido) (w : List Campo) (calls : v.llamada = some ⟨p,w,S.lector p⟩) (sent : octetos v.envia = [])
      (down : v.bajada = []) (asks : v.lee.corre (v.subida ++ octetos w) = some (orden p,[]))
  | respondiendo (p : Pedido) (w : List Campo) (n : Lector Resultado) (calls : v.llamada = some ⟨p,w,n⟩) (asked : octetos w = [])
      (waits : v.lee = S.recibe) (up : v.subida = [])
      (answers : n.corre (v.bajada ++ octetos v.envia) = some (resultado p v.visto,[]))

structure Alineada (S : Servicio Pedido Orden Estado Resultado Otro) (inv : Estado → Prop) (orden : Pedido → Orden)
    (resultado : Pedido → Estado → Resultado) (v : Sesion Pedido Orden Estado Resultado) : Prop where
  estado : inv v.estado
  visto : inv v.visto
  fase : Fase S orden resultado v
  hechas : ∀ x ∈ v.hechas, inv x.2.1 ∧ x.2.2 = resultado x.1 x.2.1

theorem inicio_alineada {m : Estado} (start : inv m) : Alineada S inv orden resultado (S.inicio m) where
  estado := start
  visto := start
  fase := .reposo rfl ⟨rfl,rfl,rfl,rfl⟩
  hechas := by simp [inicio]

theorem recibir_frame {l : Lectura} {b rest more : List Byte} {c : Campo} (read : recibir l b = some (c,rest)) :
    recibir l (b ++ more) = some (c,rest ++ more) := by
  cases l with
  | entero =>
    match b, read with
    | _ :: _ :: _ :: _ :: _, read =>
      cases read
      rfl
  | bytes n =>
    simp only [recibir] at read
    split_ifs at read with whole
    cases read
    rw [recibir,if_pos (by rw [List.length_append]; omega),List.take_append_of_le_length whole,List.drop_append_of_le_length whole]

theorem llama_alineada (agree : S.Acorde inv orden resultado) (held : Alineada S inv orden resultado v)
    (moved : S.paso (.llama p) v = some w) : Alineada S inv orden resultado w := by
  simp only [paso] at moved
  split at moved
  case h_2 => cases moved
  case h_1 idle =>
    cases moved
    refine { held with fase := ?_ }
    rcases held.fase with ⟨_,rests⟩ | ⟨q,_,calls⟩ | ⟨q,_,_,calls⟩
    · refine .pidiendo p (S.pide p) rfl rests.envia rests.bajada ?_
      have whole := agree.pedido p []
      rw [List.append_nil] at whole
      rw [rests.subida,rests.lee]
      exact whole
    · rw [idle] at calls
      cases calls
    · rw [idle] at calls
      cases calls

theorem cliente_alineada (agree : S.Acorde inv orden resultado) (held : Alineada S inv orden resultado v)
    (moved : cliente v = some w) : Alineada S inv orden resultado w := by
  unfold cliente at moved
  split at moved
  case h_1 => cases moved
  case h_2 p c w n here =>
    cases moved
    refine { held with fase := ?_ }
    rcases held.fase with ⟨idle,_⟩ | ⟨q,u,calls,sent,down,asks⟩ | ⟨q,u,m,calls,asked,waits,up,answers⟩
    · rw [idle] at here
      cases here
    · cases calls.symm.trans here
      refine .pidiendo p w rfl sent down ?_
      rw [octetos_cons] at asks
      rw [List.append_assoc]
      exact asks
    · cases calls.symm.trans here
      obtain ⟨none,later⟩ := List.append_eq_nil_iff.mp asked
      refine .respondiendo p w n rfl later waits ?_ answers
      show v.subida ++ c.octetos = []
      rw [up,none]
      rfl
  case h_3 p l sigue here =>
    obtain ⟨⟨c,rest⟩,read,rfl⟩ := Option.map_eq_some_iff.mp moved
    refine { held with fase := ?_ }
    rcases held.fase with ⟨idle,_⟩ | ⟨q,u,calls,sent,down,asks⟩ | ⟨q,u,m,calls,asked,waits,up,answers⟩
    · rw [idle] at here
      cases here
    · -- The reply is still to come, and it begins with an int.
      obtain ⟨k,first⟩ := agree.espera q
      have same := calls.symm.trans here
      rw [first] at same
      cases same
      rw [down] at read
      cases read
    · cases calls.symm.trans here
      refine .respondiendo p [] (sigue c) rfl asked waits up ?_
      simp only [Lector.corre,recibir_frame read,Option.bind_some] at answers
      exact answers
  case h_4 p r here =>
    cases moved
    rcases held.fase with ⟨idle,_⟩ | ⟨q,u,calls,sent,down,asks⟩ | ⟨q,u,m,calls,asked,waits,up,answers⟩
    · rw [idle] at here
      cases here
    · obtain ⟨k,first⟩ := agree.espera q
      have same := calls.symm.trans here
      rw [first] at same
      cases same
    · cases calls.symm.trans here
      obtain ⟨same,whole⟩ := Prod.mk.inj (Option.some.inj answers)
      obtain ⟨none,sent⟩ := List.append_eq_nil_iff.mp whole
      refine ⟨held.estado,held.visto,.reposo rfl ⟨sent,waits,up,none⟩,?_⟩
      intro x member
      rcases List.mem_append.mp member with old | new
      · exact held.hechas x old
      · rw [List.mem_singleton.mp new]
        exact ⟨held.visto,same⟩

theorem servidor_alineada (agree : S.Acorde inv orden resultado) (held : Alineada S inv orden resultado v)
    (moved : S.servidor v = some w) : Alineada S inv orden resultado w := by
  obtain ⟨k,opens⟩ := agree.abre
  unfold servidor at moved
  split at moved
  case h_1 c w first =>
    cases moved
    refine { held with fase := ?_ }
    rcases held.fase with ⟨idle,rests⟩ | ⟨q,u,calls,sent,down,asks⟩ | ⟨q,u,m,calls,asked,waits,up,answers⟩
    · have sent := rests.envia
      rw [first,octetos_cons] at sent
      obtain ⟨none,later⟩ := List.append_eq_nil_iff.mp sent
      refine .reposo idle ⟨later,rests.lee,rests.subida,?_⟩
      show v.bajada ++ c.octetos = []
      rw [rests.bajada,none]
      rfl
    · rw [first,octetos_cons] at sent
      obtain ⟨none,later⟩ := List.append_eq_nil_iff.mp sent
      refine .pidiendo q u calls later ?_ asks
      show v.bajada ++ c.octetos = []
      rw [down,none]
      rfl
    · refine .respondiendo q u m calls asked waits up ?_
      rw [first,octetos_cons,← List.append_assoc] at answers
      exact answers
  case h_2 l sigue none here =>
    obtain ⟨⟨c,rest⟩,read,rfl⟩ := Option.map_eq_some_iff.mp moved
    refine { held with fase := ?_ }
    have idle : v.lee = S.recibe → v.subida = [] → False := by
      -- There is no order on the stream, and an order begins with an int.
      intro waits empty
      have same := here.symm.trans (waits.trans opens)
      cases same
      rw [empty] at read
      cases read
    rcases held.fase with ⟨_,rests⟩ | ⟨q,u,calls,sent,down,asks⟩ | ⟨q,u,m,calls,asked,waits,up,answers⟩
    · exact (idle rests.lee rests.subida).elim
    · refine .pidiendo q u calls sent down ?_
      rw [here] at asks
      simp only [Lector.corre,recibir_frame read,Option.bind_some] at asks
      exact asks
    · exact (idle waits up).elim
  case h_3 o none here =>
    cases moved
    rcases held.fase with ⟨_,rests⟩ | ⟨q,u,calls,sent,down,asks⟩ | ⟨q,u,m,calls,asked,waits,up,answers⟩
    · cases here.symm.trans (rests.lee.trans opens)
    · rw [here] at asks
      obtain ⟨rfl,taken⟩ := Prod.mk.inj (Option.some.inj asks)
      obtain ⟨up,asked⟩ := List.append_eq_nil_iff.mp taken
      refine ⟨agree.conserva q v.estado held.estado,held.estado,?_,held.hechas⟩
      refine .respondiendo q u (S.lector q) calls asked rfl up ?_
      have whole := agree.respuesta q v.estado held.estado []
      rw [List.append_nil] at whole
      show (S.lector q).corre (v.bajada ++ _) = _
      rw [down]
      exact whole
    · cases here.symm.trans (waits.trans opens)

/-- The others keep the invariant of the state. -/
def Respeta (S : Servicio Pedido Orden Estado Resultado Otro) (inv : Estado → Prop) (t : Turno Pedido Otro)
    (v : Sesion Pedido Orden Estado Resultado) : Prop :=
  match t with
  | .otro o => inv v.estado → inv (S.cambia o v.estado)
  | _ => True

theorem paso_alineada (agree : S.Acorde inv orden resultado) (t : Turno Pedido Otro) (v w : Sesion Pedido Orden Estado Resultado)
    (held : Alineada S inv orden resultado v) (kept : Respeta S inv t v) (moved : S.paso t v = some w) :
    Alineada S inv orden resultado w := by
  cases t with
  | llama p => exact llama_alineada agree held moved
  | cliente => exact cliente_alineada agree held moved
  | servidor => exact servidor_alineada agree held moved
  | otro o =>
    cases moved
    refine ⟨kept held.estado,held.visto,?_,held.hechas⟩
    rcases held.fase with ⟨idle,rests⟩ | ⟨q,u,calls,sent,down,asks⟩ | ⟨q,u,m,calls,asked,waits,up,answers⟩
    · exact .reposo idle ⟨rests.envia,rests.lee,rests.subida,rests.bajada⟩
    · exact .pidiendo q u calls sent down asks
    · exact .respondiendo q u m calls asked waits up answers

/-- Between two calls of a session both sides are at the start of a message. -/
theorem Alineada.reposo (held : Alineada S inv orden resultado v) (idle : v.llamada = none) : Reposo S v := by
  rcases held.fase with ⟨_,rests⟩ | ⟨q,u,calls⟩ | ⟨q,u,m,calls⟩
  · exact rests
  · rw [idle] at calls
    cases calls
  · rw [idle] at calls
    cases calls

/-! ### Calls that return -/

theorem run_cliente (p : Pedido) (w : List Campo) (n : Lector Resultado) (v : Sesion Pedido Orden Estado Resultado)
    (here : v.llamada = some ⟨p,w,n⟩) :
    run S.paso (List.replicate w.length .cliente) v = some { v with llamada := some ⟨p,[],n⟩, subida := v.subida ++ octetos w } := by
  induction w generalizing v with
  | nil =>
    rw [List.length_nil,List.replicate_zero,run_nil,octetos_nil,List.append_nil,← here]
  | cons c w ih =>
    have one : S.paso .cliente v = some { v with llamada := some ⟨p,w,n⟩, subida := v.subida ++ c.octetos } := by
      simp only [paso,cliente,here]
    rw [List.length_cons,List.replicate_succ,run_cons,one,Option.bind_some,ih _ rfl]
    simp only [octetos_cons,List.append_assoc]

theorem run_servidor (w : List Campo) (v : Sesion Pedido Orden Estado Resultado) (here : v.envia = w) :
    run S.paso (List.replicate w.length .servidor) v = some { v with envia := [], bajada := v.bajada ++ octetos w } := by
  induction w generalizing v with
  | nil =>
    rw [List.length_nil,List.replicate_zero,run_nil,octetos_nil,List.append_nil,← here]
  | cons c w ih =>
    have one : S.paso .servidor v = some { v with envia := w, bajada := v.bajada ++ c.octetos } := by
      simp only [paso,servidor,here]
    rw [List.length_cons,List.replicate_succ,run_cons,one,Option.bind_some,ih _ rfl]
    simp only [octetos_cons,List.append_assoc]

/-- A client whose reply is on the stream reads it to the end. -/
theorem run_lee (p : Pedido) (n : Lector Resultado) (v : Sesion Pedido Orden Estado Resultado) {rest : List Byte}
    (here : v.llamada = some ⟨p,[],n⟩) (whole : n.corre v.bajada = some (r,rest)) :
    ∃ k, run S.paso (List.replicate k .cliente) v = some { v with llamada := some ⟨p,[],.fin r⟩, bajada := rest } := by
  induction n generalizing v with
  | fin a =>
    cases whole
    exact ⟨0,by rw [List.replicate_zero,run_nil,← here]⟩
  | lee l sigue ih =>
    obtain ⟨⟨c,more⟩,read,later⟩ := Option.bind_eq_some_iff.mp whole
    obtain ⟨k,runs⟩ := ih c { v with llamada := some ⟨p,[],sigue c⟩, bajada := more } rfl later
    refine ⟨k + 1,?_⟩
    have one : S.paso .cliente v = some { v with llamada := some ⟨p,[],sigue c⟩, bajada := more } := by
      simp only [paso,cliente,here,read,Option.map_some]
    rw [List.replicate_succ,run_cons,one]
    exact runs

/-- A server whose request is on the stream reads it to the end. -/
theorem run_recibe (m : Lector Orden) (v : Sesion Pedido Orden Estado Resultado) {rest : List Byte} (sent : v.envia = [])
    (here : v.lee = m) (whole : m.corre v.subida = some (o,rest)) :
    ∃ k, run S.paso (List.replicate k .servidor) v = some { v with lee := .fin o, subida := rest } := by
  induction m generalizing v with
  | fin a =>
    cases whole
    exact ⟨0,by rw [List.replicate_zero,run_nil,← here]⟩
  | lee l sigue ih =>
    obtain ⟨⟨c,more⟩,read,later⟩ := Option.bind_eq_some_iff.mp whole
    obtain ⟨k,runs⟩ := ih c { v with lee := sigue c, subida := more } sent rfl later
    refine ⟨k + 1,?_⟩
    have one : S.paso .servidor v = some { v with lee := sigue c, subida := more } := by
      simp only [paso,servidor,sent,here,read,Option.map_some]
    rw [List.replicate_succ,run_cons,one]
    exact runs

theorem responde_vuelve {q : List Campo} (here : v.llamada = some ⟨p,q,n⟩)
    (answers : n.corre (v.bajada ++ octetos v.envia) = some (r,[])) :
    ∃ (turns : List (Turno Pedido Otro)) (w : Sesion Pedido Orden Estado Resultado), (∀ t ∈ turns, t = .cliente ∨ t = .servidor) ∧
      run S.paso turns v = some w ∧ w.llamada = none := by
  obtain ⟨k,reads⟩ := run_lee (S := S) p n { v with
    llamada := some ⟨p,[],n⟩, subida := v.subida ++ octetos q, envia := [], bajada := v.bajada ++ octetos v.envia } rfl answers
  refine ⟨List.replicate q.length .cliente ++ (List.replicate v.envia.length .servidor ++ (List.replicate k .cliente ++ [.cliente])),
    { v with
      llamada := none, subida := v.subida ++ octetos q, envia := [], bajada := [], hechas := v.hechas ++ [(p,v.visto,r)] },?_,?_,rfl⟩
  · intro t member
    simp only [List.mem_append,List.mem_replicate,List.mem_singleton] at member
    tauto
  · have asks := run_cliente (S := S) p q n v here
    have drains := run_servidor (S := S) v.envia { v with llamada := some ⟨p,[],n⟩, subida := v.subida ++ octetos q } rfl
    rw [run_append,asks,Option.bind_some,run_append,drains,Option.bind_some,run_append,reads,Option.bind_some,run_cons,paso,cliente,
      Option.bind_some,run_nil]

/-- A call in an aligned session is not stuck: turns of the two sides alone make it return. -/
theorem Alineada.vuelve (agree : S.Acorde inv orden resultado) (held : Alineada S inv orden resultado v) :
    ∃ (turns : List (Turno Pedido Otro)) (w : Sesion Pedido Orden Estado Resultado), (∀ t ∈ turns, t = .cliente ∨ t = .servidor) ∧
      run S.paso turns v = some w ∧ w.llamada = none := by
  rcases held.fase with ⟨idle,_⟩ | ⟨p,q,calls,sent,down,asks⟩ | ⟨p,q,n,calls,asked,waits,up,answers⟩
  · exact ⟨[],v,by simp,rfl,idle⟩
  · obtain ⟨k,reads⟩ := run_recibe (S := S) v.lee { v with
      llamada := some ⟨p,[],S.lector p⟩, subida := v.subida ++ octetos q, envia := [],
      bajada := v.bajada ++ octetos v.envia } rfl rfl asks
    have whole := agree.respuesta p v.estado held.estado []
    rw [List.append_nil] at whole
    have down : v.bajada ++ octetos v.envia = [] := by rw [down,sent]; rfl
    obtain ⟨turns,w,own,runs,idle⟩ := responde_vuelve (S := S) (v := { v with
      llamada := some ⟨p,[],S.lector p⟩, subida := [], estado := (S.atiende (orden p) v.estado).1,
      envia := (S.atiende (orden p) v.estado).2, bajada := v.bajada ++ octetos v.envia, lee := S.recibe, visto := v.estado }) rfl
      (by rw [down]; exact whole)
    refine ⟨List.replicate q.length .cliente ++ (List.replicate v.envia.length .servidor ++ (List.replicate k .servidor ++
      .servidor :: turns)),w,?_,?_,idle⟩
    · intro t member
      simp only [List.mem_append,List.mem_replicate,List.mem_cons] at member
      have := own t
      tauto
    · have asks := run_cliente (S := S) p q (S.lector p) v calls
      have drains := run_servidor (S := S) v.envia { v with llamada := some ⟨p,[],S.lector p⟩, subida := v.subida ++ octetos q } rfl
      rw [run_append,asks,Option.bind_some,run_append,drains,Option.bind_some,run_append,reads,Option.bind_some,run_cons,paso,servidor,
        Option.bind_some]
      exact runs
  · exact responde_vuelve calls answers

end Servicio
end PlugNPray.Dialogues
