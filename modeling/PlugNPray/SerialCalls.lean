import PlugNPray.Dialogues

/-!
A session in which nobody else changes the server is a serial machine: whatever the turns
of the two sides, the calls that returned have the results that they have one after the other.
-/
namespace PlugNPray.SerialCalls
open PlugNPray.Wire PlugNPray.Runs PlugNPray.Dialogues PlugNPray.Dialogues.Servicio
universe u v
variable {Request : Type u} {Answer : Type v} {Machine : Type*}

/-! ## Machines that answer at once -/

/-- The machine after requests made one after the other. -/
def after (serve : Request → Machine → Answer × Machine) (requests : List Request) (m : Machine) : Machine :=
  requests.foldl (fun m r => (serve r m).2) m

variable {serve : Request → Machine → Answer × Machine}

@[simp] theorem after_nil (m : Machine) : after serve [] m = m := rfl
@[simp] theorem after_append (first second : List Request) (m : Machine) :
    after serve (first ++ second) m = after serve second (after serve first m) := by
  simp [after]
@[simp] theorem after_one (r : Request) (m : Machine) : after serve [r] m = (serve r m).2 := rfl

theorem answers_append (first second : List Request) (m : Machine) :
    answers serve (first ++ second) m = answers serve first m ++ answers serve second (after serve first m) := by
  induction first generalizing m with
  | nil => rfl
  | cons r rest ih =>
    rw [List.cons_append,answers,answers,ih]
    rfl

/-- Machines that answer alike stay related. -/
theorem after_related {Other : Type*} {other : Request → Other → Answer × Other} {related : Machine → Other → Prop}
    (requests : List Request)
    (alike : ∀ r ∈ requests, ∀ m o, related m o → (other r o).1 = (serve r m).1 ∧ related (serve r m).2 (other r o).2)
    {m : Machine} {o : Other} (start : related m o) :
    answers other requests o = answers serve requests m ∧ related (after serve requests m) (after other requests o) := by
  induction requests generalizing m o with
  | nil => exact ⟨rfl,start⟩
  | cons r rest ih =>
    obtain ⟨here,later⟩ := List.forall_mem_cons.mp alike
    obtain ⟨same,next⟩ := here m o start
    obtain ⟨rest,held⟩ := ih later next
    exact ⟨by rw [answers,answers,same,rest],held⟩

/-! ## Sessions -/

variable {Pedido Orden Estado Resultado Otro : Type} (S : Servicio Pedido Orden Estado Resultado Otro)
variable (orden : Pedido → Orden) (resultado : Pedido → Estado → Resultado)

/-- The server as a machine that answers at once. -/
def sirve (p : Pedido) (m : Estado) : Resultado × Estado := (resultado p m,(S.atiende (orden p) m).1)

abbrev pedidos (v : Sesion Pedido Orden Estado Resultado) : List Pedido := v.hechas.map (fun x => x.1)
abbrev resultados (v : Sesion Pedido Orden Estado Resultado) : List Resultado := v.hechas.map (fun x => x.2.2)

/-- The state of the server: that of the calls that returned, or one order ahead of it. -/
inductive Turnada (m : Estado) (v : Sesion Pedido Orden Estado Resultado) : Prop where
  | quieto (asks : ∀ p w n, v.llamada = some ⟨p,w,n⟩ → (v.lee.corre (v.subida ++ octetos w)).isSome)
      (estado : v.estado = after (sirve S orden resultado) (pedidos v) m)
  | atendido (p : Pedido) (w : List Campo) (n : Lector Resultado) (calls : v.llamada = some ⟨p,w,n⟩) (asked : octetos w = [])
      (waits : v.lee = S.recibe) (up : v.subida = []) (visto : v.visto = after (sirve S orden resultado) (pedidos v) m)
      (estado : v.estado = (S.atiende (orden p) v.visto).1)

structure EnSerie (inv : Estado → Prop) (m : Estado) (v : Sesion Pedido Orden Estado Resultado) : Prop where
  alineada : Alineada S inv orden resultado v
  turnada : Turnada S orden resultado m v
  resultados : resultados v = answers (sirve S orden resultado) (pedidos v) m

variable {S} {orden} {resultado} {inv : Estado → Prop} {m : Estado} {v w : Sesion Pedido Orden Estado Resultado}

theorem inicio_en_serie (start : inv m) : EnSerie S orden resultado inv m (S.inicio m) where
  alineada := inicio_alineada start
  turnada := .quieto (by intro p w n calls; cases calls) rfl
  resultados := rfl

/-- There is no order in nothing. -/
theorem recibe_vacio (agree : S.Acorde inv orden resultado) : S.recibe.corre [] = none := by
  obtain ⟨sigue,opens⟩ := agree.abre
  rw [opens]
  rfl

theorem llama_turnada (agree : S.Acorde inv orden resultado) (held : EnSerie S orden resultado inv m v) {p : Pedido}
    (moved : S.paso (.llama p) v = some w) : Turnada S orden resultado m w := by
  simp only [paso] at moved
  split at moved
  case h_2 => cases moved
  case h_1 idle =>
    cases moved
    have rests := held.alineada.reposo idle
    cases held.turnada with
    | quieto asks estado =>
      refine .quieto ?_ estado
      rintro q u n calls
      cases calls
      have whole := agree.pedido p []
      rw [List.append_nil] at whole
      show (v.lee.corre (v.subida ++ _)).isSome
      rw [rests.lee,rests.subida,List.nil_append,whole]
      rfl
    | atendido q u n calls => cases idle.symm.trans calls

theorem cliente_turnada (agree : S.Acorde inv orden resultado) (held : EnSerie S orden resultado inv m v)
    (aligned : Alineada S inv orden resultado w) (moved : cliente v = some w) :
    Turnada S orden resultado m w ∧ resultados w = answers (sirve S orden resultado) (pedidos w) m := by
  unfold cliente at moved
  split at moved
  case h_1 => cases moved
  case h_2 p c u n here =>
    cases moved
    refine ⟨?_,held.resultados⟩
    cases held.turnada with
    | quieto asks estado =>
      refine .quieto ?_ estado
      rintro q u' n' calls
      cases calls
      have some := asks p (c :: u) n here
      rwa [octetos_cons,← List.append_assoc] at some
    | atendido q u' n' calls asked waits up visto estado =>
      cases here.symm.trans calls
      obtain ⟨none,later⟩ := List.append_eq_nil_iff.mp asked
      refine .atendido p u n rfl later waits ?_ visto estado
      show v.subida ++ c.octetos = []
      rw [up,none]
      rfl
  case h_3 p l sigue here =>
    obtain ⟨⟨c,rest⟩,read,rfl⟩ := Option.map_eq_some_iff.mp moved
    refine ⟨?_,held.resultados⟩
    cases held.turnada with
    | quieto asks estado =>
      refine .quieto ?_ estado
      rintro q u n calls
      cases calls
      exact asks p [] _ here
    | atendido q u n calls asked waits up visto estado =>
      cases here.symm.trans calls
      exact .atendido p [] (sigue c) rfl asked waits up visto estado
  case h_4 p r here =>
    cases moved
    have answered : v.lee = S.recibe ∧ v.subida = [] := by
      rcases held.alineada.fase with ⟨idle,_⟩ | ⟨q,u,calls,sent,down,asks⟩ | ⟨q,u,n,calls,asked,waits,up,answers⟩
      · cases idle.symm.trans here
      · obtain ⟨k,first⟩ := agree.espera q
        have same := calls.symm.trans here
        rw [first] at same
        cases same
      · exact ⟨waits,up⟩
    cases held.turnada with
    | quieto asks estado =>
      have some := asks p [] _ here
      rw [answered.1,answered.2,octetos_nil,List.append_nil,recibe_vacio agree] at some
      cases some
    | atendido q u n calls asked waits up visto estado =>
      cases here.symm.trans calls
      have same := (aligned.hechas (p,v.visto,r) (by simp)).2
      refine ⟨.quieto (by rintro q u n calls; cases calls) ?_,?_⟩
      · show v.estado = after _ ((v.hechas ++ [(p,v.visto,r)]).map _) m
        rw [List.map_append,after_append,← visto,estado]
        rfl
      · show (v.hechas ++ [(p,v.visto,r)]).map _ = answers _ ((v.hechas ++ [(p,v.visto,r)]).map _) m
        rw [List.map_append,List.map_append,answers_append,← visto]
        exact congrArg₂ _ held.resultados (congrArg (fun x => [x]) same)

theorem servidor_turnada (agree : S.Acorde inv orden resultado) (held : EnSerie S orden resultado inv m v)
    (moved : S.servidor v = some w) :
    Turnada S orden resultado m w ∧ resultados w = answers (sirve S orden resultado) (pedidos w) m := by
  obtain ⟨k,opens⟩ := agree.abre
  unfold servidor at moved
  split at moved
  case h_1 c u first =>
    cases moved
    refine ⟨?_,held.resultados⟩
    cases held.turnada with
    | quieto asks estado => exact .quieto asks estado
    | atendido p u n calls asked waits up visto estado => exact .atendido p u n calls asked waits up visto estado
  case h_2 l sigue none here =>
    obtain ⟨⟨c,rest⟩,read,rfl⟩ := Option.map_eq_some_iff.mp moved
    refine ⟨?_,held.resultados⟩
    cases held.turnada with
    | quieto asks estado =>
      refine .quieto ?_ estado
      rintro p u n calls
      have some := asks p u n calls
      rw [here] at some
      simpa only [Lector.corre,recibir_frame read,Option.bind_some] using some
    | atendido p u n calls asked waits up visto estado =>
      cases here.symm.trans (waits.trans opens)
      rw [up] at read
      cases read
  case h_3 o none here =>
    cases moved
    refine ⟨?_,held.resultados⟩
    cases held.turnada with
    | quieto asks estado =>
      rcases held.alineada.fase with ⟨_,rests⟩ | ⟨p,u,calls,sent,down,asked⟩ | ⟨p,u,n,calls,asked,waits,up,answers⟩
      · cases here.symm.trans (rests.lee.trans opens)
      · rw [here] at asked
        obtain ⟨rfl,taken⟩ := Prod.mk.inj (Option.some.inj asked)
        obtain ⟨up,asked⟩ := List.append_eq_nil_iff.mp taken
        exact .atendido p u (S.lector p) calls asked rfl up estado rfl
      · cases here.symm.trans (waits.trans opens)
    | atendido p u n calls asked waits => cases here.symm.trans (waits.trans opens)

/-- A turn of one of the two sides. -/
def propio : Turno Pedido Otro → Prop
  | .otro _ => False
  | _ => True

/-- Where there is nobody else. -/
theorem propio_de_solo {turns : List (Turno Pedido Empty)} : ∀ t ∈ turns, propio t := by
  intro t _
  cases t with
  | otro o => exact o.elim
  | _ => trivial

theorem paso_en_serie (agree : S.Acorde inv orden resultado) (t : Turno Pedido Otro) (v w : Sesion Pedido Orden Estado Resultado)
    (held : EnSerie S orden resultado inv m v) (own : propio t) (moved : S.paso t v = some w) :
    EnSerie S orden resultado inv m w := by
  cases t with
  | llama p =>
    refine ⟨llama_alineada agree held.alineada moved,llama_turnada agree held moved,?_⟩
    simp only [paso] at moved
    split at moved
    · cases moved
      exact held.resultados
    · cases moved
  | cliente =>
    have aligned := cliente_alineada agree held.alineada moved
    obtain ⟨turn,results⟩ := cliente_turnada agree held aligned moved
    exact ⟨aligned,turn,results⟩
  | servidor =>
    obtain ⟨turn,results⟩ := servidor_turnada agree held moved
    exact ⟨servidor_alineada agree held.alineada moved,turn,results⟩
  | otro o => exact own.elim

/-- The calls of a session of two that returned were made one after the other. -/
theorem en_serie_of_run (agree : S.Acorde inv orden resultado) {turns : List (Turno Pedido Otro)} (own : ∀ t ∈ turns, propio t)
    (start : inv m) (reached : run S.paso turns (S.inicio m) = some v) : EnSerie S orden resultado inv m v :=
  invariant_of_guarded (paso_en_serie agree) (inicio_en_serie start) (guarded_of_labels own (S.inicio m)) reached

/-! ## What is called -/

/-- The calls that returned and the one that did not have the property. -/
structure Llamadas (fine : Pedido → Prop) (v : Sesion Pedido Orden Estado Resultado) : Prop where
  hechas : ∀ p ∈ pedidos v, fine p
  llamada : ∀ p u n, v.llamada = some ⟨p,u,n⟩ → fine p

def Llama (fine : Pedido → Prop) (t : Turno Pedido Otro) : Prop := ∀ p, t = .llama p → fine p

theorem paso_llamadas {fine : Pedido → Prop} (t : Turno Pedido Otro) (v w : Sesion Pedido Orden Estado Resultado)
    (held : Llamadas fine v) (admitted : Llama fine t) (moved : S.paso t v = some w) : Llamadas fine w := by
  obtain ⟨done,calling⟩ := held
  cases t with
  | llama p =>
    simp only [paso] at moved
    split at moved
    · cases moved
      refine ⟨done,?_⟩
      rintro q u n calls
      cases calls
      exact admitted p rfl
    · cases moved
  | cliente =>
    simp only [paso,cliente] at moved
    split at moved
    case h_1 => cases moved
    case h_2 p c u n here =>
      cases moved
      refine ⟨done,?_⟩
      rintro q u' n' calls
      cases calls
      exact calling p _ _ here
    case h_3 p l sigue here =>
      obtain ⟨x,_,rfl⟩ := Option.map_eq_some_iff.mp moved
      refine ⟨done,?_⟩
      rintro q u n calls
      cases calls
      exact calling p _ _ here
    case h_4 p r here =>
      cases moved
      refine ⟨?_,by rintro q u n calls; cases calls⟩
      intro q member
      simp only [pedidos,List.map_append,List.map_cons,List.map_nil,List.mem_append,List.mem_singleton] at member
      rcases member with old | rfl
      · exact done q old
      · exact calling q _ _ here
  | servidor =>
    simp only [paso,servidor] at moved
    split at moved
    · cases moved
      exact ⟨done,calling⟩
    · obtain ⟨x,_,rfl⟩ := Option.map_eq_some_iff.mp moved
      exact ⟨done,calling⟩
    · cases moved
      exact ⟨done,calling⟩
  | otro o =>
    cases moved
    exact ⟨done,calling⟩

theorem pedidos_of_run {fine : Pedido → Prop} {turns : List (Turno Pedido Otro)} (all : ∀ t ∈ turns, Llama fine t)
    (reached : run S.paso turns (S.inicio m) = some v) : ∀ p ∈ pedidos v, fine p := by
  have start : Llamadas fine (S.inicio m) := by
    constructor
    · intro p member
      cases member
    · intro p u n calls
      cases calls
  exact (invariant_of_guarded paso_llamadas start (guarded_of_labels all (S.inicio m)) reached).hechas

/-- Between two calls the server is where those that returned left it. -/
theorem EnSerie.estado (held : EnSerie S orden resultado inv m v) (idle : v.llamada = none) :
    v.estado = after (sirve S orden resultado) (pedidos v) m := by
  cases held.turnada with
  | quieto asks estado => exact estado
  | atendido p u n calls => cases idle.symm.trans calls

end PlugNPray.SerialCalls
