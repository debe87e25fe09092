import PlugNPray.RequestSocket

/-!
Requests and answers pair up as long as no thread starts a request while another is
between OP_COMPACTAR and its OP_OK: one exchange at a time is on the socket, and what
the handler has read, what is on its way and what is still to be sent make it up.
-/
namespace PlugNPray.Pairing
open PlugNPray.Wire PlugNPray.Protocol PlugNPray.Runs PlugNPray.RequestSocket

/-! ## Reading a request back -/

theorem tamanio_de_small {v : Entero} (small : v.toNat < 2 ^ 31) : tamanio_de v = v.toNat := by
  have msb : v.msb = false := by
    rw [BitVec.msb_eq_decide]
    simp only [decide_eq_false_iff_not,Nat.reduceSub]
    omega
  rw [tamanio_de,BitVec.signExtend_eq_setWidth_of_msb_false msb,BitVec.toNat_setWidth]
  exact Nat.mod_eq_of_lt (by omega)

theorem tamanio_de_length {b : List Byte} (small : b.length < 2 ^ 31) : tamanio_de (BitVec.ofNat 32 b.length) = b.length := by
  have value : (BitVec.ofNat 32 b.length).toNat = b.length := Nat.mod_eq_of_lt (by omega)
  rw [tamanio_de_small (by omega),value]

@[simp] theorem envio_empty : envio [] = [] := rfl
theorem envio_full {b : List Byte} (full : b ≠ []) : envio b = [.bytes b] := if_neg full
@[simp] theorem recepcion_zero : recepcion 0 = none := rfl
theorem recepcion_length {b : List Byte} (full : b ≠ []) : recepcion b.length = some (.bytes b.length) :=
  if_neg (fun zero => full (List.length_eq_zero_iff.mp zero))

theorem codigo_of_valor (c : Codigo) : Codigo.de c.valor = some c := by cases c <;> decide
theorem valor_ne_closed (c : Codigo) : c.valor ≠ -1 := by cases c <;> decide

theorem path_short {pid : Entero} {path : List Byte} (sound : (Pedido.crear_proceso pid path).bien) : path.length < 2 ^ 31 :=
  of_decide_eq_true sound

theorem contenido_short {pid direccion_fisica tamanio : Entero} {contenido : List Byte}
    (sound : (Pedido.escribir_datos pid direccion_fisica tamanio contenido).bien) :
    tamanio.toNat < 2 ^ 31 ∧ contenido.length = tamanio.toNat := by
  have both := (Bool.and_eq_true _ _).mp sound
  exact ⟨of_decide_eq_true both.1,of_decide_eq_true both.2⟩

theorem recepcion_path {pid : Entero} {path : List Byte} (sound : (Pedido.crear_proceso pid path).bien) :
    recepcion (tamanio_de (BitVec.ofNat 32 path.length)) = recepcion path.length := by
  rw [tamanio_de_length (path_short sound)]

theorem recepcion_contenido {pid direccion_fisica tamanio : Entero} {contenido : List Byte}
    (sound : (Pedido.escribir_datos pid direccion_fisica tamanio contenido).bien) :
    recepcion (tamanio_de tamanio) = recepcion contenido.length := by
  rw [tamanio_de_small (contenido_short sound).1,(contenido_short sound).2]

theorem entra_atiende {op : Codigo} {leidos : List Campo} {r : Pedido} (full : siguiente op leidos = none)
    (meant : interpreta op leidos = some r) : entra op leidos = .atiende r := by
  simp only [entra,full,meant]

theorem entra_recibe {op : Codigo} {leidos : List Campo} {l : Lectura} (next : siguiente op leidos = some l) :
    entra op leidos = .recibe op leidos := by
  rw [entra,next]

/-- The handler is through with a request when it has read what was sent for it. -/
theorem entra_whole {r : Pedido} (sound : r.bien) : entra r.codigo r.parametros = .atiende r := by
  cases r with
  | crear_proceso pid path =>
    by_cases empty : path = []
    · subst empty
      exact entra_atiende (recepcion_path sound) rfl
    · rw [Pedido.parametros,envio_full empty]
      exact entra_atiende rfl rfl
  | escribir_datos pid direccion_fisica tamanio contenido =>
    by_cases empty : contenido = []
    · subst empty
      exact entra_atiende (recepcion_contenido sound) rfl
    · rw [Pedido.parametros,envio_full empty]
      exact entra_atiende rfl rfl
  | memoria_lista => cases sound
  | _ => exact entra_atiende rfl rfl

/-- Until then it asks for the next piece that was sent. -/
theorem siguiente_part {r : Pedido} (sound : r.bien) {n : Nat} {c : Campo} (next : r.parametros[n]? = some c) :
    siguiente r.codigo (r.parametros.take n) = some c.lectura := by
  cases r with
  | crear_proceso pid path =>
    by_cases empty : path = []
    · subst empty
      rcases n with _ | _ | n <;> cases next <;> rfl
    · rw [Pedido.parametros,envio_full empty] at next ⊢
      rcases n with _ | _ | _ | n <;> cases next
      · rfl
      · rfl
      · exact (recepcion_path sound).trans (recepcion_length empty)
  | escribir_datos pid direccion_fisica tamanio contenido =>
    by_cases empty : contenido = []
    · subst empty
      rcases n with _ | _ | _ | n <;> cases next <;> rfl
    · rw [Pedido.parametros,envio_full empty] at next ⊢
      rcases n with _ | _ | _ | _ | n <;> cases next
      · rfl
      · rfl
      · rfl
      · exact (recepcion_contenido sound).trans (recepcion_length empty)
  | memoria_lista => cases sound
  | _ => rcases n with _ | _ | _ | n <;> cases next <;> rfl

theorem lectura_envio {b : List Byte} {c : Campo} (sent : c ∈ envio b) : c.lectura ≠ .bytes 0 := by
  by_cases empty : b = []
  · subst empty; cases sent
  · rw [envio_full empty,List.mem_singleton] at sent
    subst sent
    exact fun zero => empty (List.length_eq_zero_iff.mp (Lectura.bytes.inj zero))

/-- No piece of a request or of an answer is empty. -/
theorem lectura_campos {r : Pedido} {c : Campo} (sent : c ∈ r.campos) : c.lectura ≠ .bytes 0 := by
  have entero : ∀ v, (Campo.entero v).lectura ≠ .bytes 0 := fun _ same => by cases same
  cases r <;> simp only [Pedido.campos,Pedido.parametros,List.cons_append,List.nil_append,List.mem_cons,List.not_mem_nil,
    or_false] at sent
  case crear_proceso => rcases sent with rfl | rfl | rfl | sent; iterate 3 exact entero _
                        exact lectura_envio sent
  case escribir_datos => rcases sent with rfl | rfl | rfl | rfl | sent; iterate 4 exact entero _
                         exact lectura_envio sent
  case memoria_lista => subst sent; exact entero _
  case crear_segmento => rcases sent with rfl | rfl | rfl | rfl <;> exact entero _
  case leer_datos => rcases sent with rfl | rfl | rfl | rfl <;> exact entero _
  case eliminar_segmento => rcases sent with rfl | rfl | rfl <;> exact entero _
  all_goals rcases sent with rfl | rfl <;> exact entero _

/-! ## One exchange at a time -/

/-- Requests and answers paired up: the handler decodes what was issued, in order; every answer
    reached the thread that had asked; after each OP_COMPACTAR came the OP_OK of that same request. -/
def EnOrden (s : Sistema) : Prop :=
  (s.decodificados <+: s.emitidos.map Prod.snd ∧ s.emitidos.length ≤ s.decodificados.length + 1) ∧
  (s.recibidos.map (fun x => (x.1,x.2.1)) <+: s.emitidos ∧ s.recibidos.map Prod.snd <+: s.contestados) ∧
  (s.leidas.map Prod.fst <+: s.confirmados.map Prod.snd ∧ (∀ x ∈ s.confirmados, x ∈ s.emitidos) ∧
    ∀ x ∈ s.leidas, x.2 = OP_OK)

def en_ventana : Hilo → Bool
  | .ventana _ => true
  | _ => false

/-- No thread takes the lock for a request while another is between OP_COMPACTAR and its OP_OK. -/
def FueraDeVentana (e : Eleccion) (s : Sistema) : Prop :=
  match e with
  | .toma _ _ => ∀ h ∈ s.hilos, ¬ en_ventana h
  | _ => True

instance : ∀ e s, Decidable (FueraDeVentana e s)
  | .toma _ _, s => inferInstanceAs (Decidable (∀ h ∈ s.hilos, ¬ en_ventana h))
  | .envia _, _ | .recibe _, _ | .retoma _, _ | .confirma _, _ | .km_recibe, _ | .km_atiende _, _ | .km_envia, _
  | .km_compacta, _ => isTrue trivial

/-- Every thread is between requests. -/
def Quietos (hilos : List Hilo) : Prop := ∀ (j : Nat) (h : Hilo), hilos[j]? = some h → h = .fuera

/-- Every thread but this one is. -/
def Solo (hilos : List Hilo) (i : Nat) (h : Hilo) : Prop :=
  hilos[i]? = some h ∧ ∀ (j : Nat) (h' : Hilo), hilos[j]? = some h' → j ≠ i → h' = .fuera

theorem solo_unique {hilos : List Hilo} {i j : Nat} {h h' : Hilo} (alone : Solo hilos i h) (here : hilos[j]? = some h')
    (busy : h' ≠ .fuera) : j = i ∧ h' = h := by
  by_cases same : j = i
  · subst same
    exact ⟨rfl,Option.some.inj (here.symm.trans alone.1)⟩
  · exact absurd (alone.2 j h' here same) busy

theorem solo_set {hilos : List Hilo} {i : Nat} {h : Hilo} (alone : Solo hilos i h) (h' : Hilo) : Solo (hilos.set i h') i h' := by
  obtain ⟨inside,_⟩ := List.getElem?_eq_some_iff.mp alone.1
  refine ⟨List.getElem?_set_self inside,fun j h'' here apart => alone.2 j h'' ?_ apart⟩
  rwa [List.getElem?_set_ne (Ne.symm apart)] at here

theorem solo_of_quietos {hilos : List Hilo} {i : Nat} {h : Hilo} (quiet : Quietos hilos) (here : hilos[i]? = some h)
    (h' : Hilo) : Solo (hilos.set i h') i h' :=
  solo_set ⟨here,fun j h'' there _ => quiet j h'' there⟩ h'

theorem quietos_set {hilos : List Hilo} {i : Nat} {h : Hilo} (alone : Solo hilos i h) : Quietos (hilos.set i .fuera) := by
  intro j h' here
  obtain ⟨self,others⟩ := solo_set alone .fuera
  by_cases same : j = i
  · subst same
    exact Option.some.inj (here.symm.trans self)
  · exact others j h' here same

/-- What the handler still has before it of a compaction: the confirmation on the stream, or the
    compaction itself. -/
inductive Atraso (km : Km) (confirmados : List (Nat × Pedido)) (leidas : List (Pedido × Entero)) (antes : List Byte) : Prop
  | nada : km = .recibe_op → antes = [] → confirmados.map Prod.snd = leidas.map Prod.fst → Atraso km confirmados leidas antes
  | confirmacion (r : Pedido) : km = .espera_confirmacion r → antes = bytes_de OP_OK →
      confirmados.map Prod.snd = leidas.map Prod.fst ++ [r] → Atraso km confirmados leidas antes
  | compacta (r : Pedido) : km = .compacta r → antes = [] → confirmados.map Prod.snd = leidas.map Prod.fst →
      Atraso km confirmados leidas antes

/-- How far the handler is with a request, of which it has read the first pieces. -/
inductive Lee (s : Sistema) (r : Pedido) (leidos mid : List Campo) : Prop
  | aun_no (antes : List Byte) : Atraso s.km s.confirmados s.leidas antes → s.ida = antes ++ octetos mid → leidos = [] →
      Lee s r leidos mid
  | desde (parametros : List Campo) : s.km = entra r.codigo parametros → s.ida = octetos mid →
      s.confirmados.map Prod.snd = s.leidas.map Prod.fst → leidos = .entero r.codigo.valor :: parametros → Lee s r leidos mid

/-- The thread that waits for an answer, of which it has the first pieces. -/
def esperando (r : Pedido) (a : Respuesta) : List Campo → Hilo
  | [] => .pide r []
  | _ :: _ => .recibe_datos r a.codigo

/-- The requests that are over, by thread. -/
def cerrados (s : Sistema) : List (Nat × Pedido) := s.recibidos.map (fun x => (x.1,x.2.1))

/-- Where an exchange is: what has been read, what is on the stream and what is still to be sent
    are the request, and then the answer. -/
inductive Fase (s : Sistema) : Prop
  | libre : Quietos s.hilos → s.mutex_pedidos_memoria = none → Atraso s.km s.confirmados s.leidas s.ida → s.vuelta = [] →
      s.emitidos = cerrados s → s.decodificados = s.emitidos.map Prod.snd →
      s.contestados = s.recibidos.map Prod.snd → Fase s
  | pide (i : Nat) (r : Pedido) (leidos mid faltan : List Campo) : Solo s.hilos i (.pide r faltan) →
      s.mutex_pedidos_memoria = some i → r.bien → r.campos = leidos ++ mid ++ faltan → Lee s r leidos mid →
      s.vuelta = [] → s.emitidos = cerrados s ++ [(i,r)] →
      s.decodificados = (cerrados s).map Prod.snd ++ (if leidos = r.campos then [r] else []) →
      s.contestados = s.recibidos.map Prod.snd → Fase s
  | contesta (i : Nat) (r : Pedido) (a : Respuesta) (visto aire faltan : List Campo) :
      Solo s.hilos i (esperando r a visto) → s.mutex_pedidos_memoria = some i → r.bien →
      (a.datos.length = if r.codigo = .leer_datos ∧ a.codigo = OP_OK then r.tamanio_datos else 0) →
      a.campos r = visto ++ aire ++ faltan → aire ++ faltan ≠ [] → s.vuelta = octetos aire →
      s.km = (if faltan = [] then tras_responder r a else .responde r a faltan) → s.ida = [] →
      s.confirmados.map Prod.snd = s.leidas.map Prod.fst → s.emitidos = cerrados s ++ [(i,r)] →
      s.decodificados = s.emitidos.map Prod.snd → s.contestados = s.recibidos.map Prod.snd ++ [(r,a)] → Fase s
  | ventana (i : Nat) (r : Pedido) (h : Hilo) : Solo s.hilos i h →
      (h = .ventana r ∧ s.mutex_pedidos_memoria = none ∨ h = .confirma r ∧ s.mutex_pedidos_memoria = some i) →
      s.km = .espera_confirmacion r → s.ida = [] → s.vuelta = [] →
      s.confirmados.map Prod.snd = s.leidas.map Prod.fst → (i,r) ∈ s.emitidos → s.emitidos = cerrados s →
      s.decodificados = s.emitidos.map Prod.snd → s.contestados = s.recibidos.map Prod.snd → Fase s

/-- The invariant of the socket. -/
structure EnFase (s : Sistema) : Prop where
  phase : Fase s
  confirmed : ∀ x ∈ s.confirmados, x ∈ s.emitidos
  read_ok : ∀ x ∈ s.leidas, x.2 = OP_OK

theorem confirmed_prefix {s : Sistema} {antes : List Byte} (behind : Atraso s.km s.confirmados s.leidas antes) :
    s.leidas.map Prod.fst <+: s.confirmados.map Prod.snd := by
  cases behind with
  | nada _ _ closed => rw [closed]
  | confirmacion r _ _ ahead => rw [ahead]; exact List.prefix_append _ _
  | compacta r _ _ closed => rw [closed]

theorem en_orden {s : Sistema} (held : EnFase s) : EnOrden s := by
  obtain ⟨phase,confirmed,read_ok⟩ := held
  cases phase with
  | libre quiet free behind back issued decoded answered =>
    refine ⟨⟨by rw [decoded],by simp [decoded]⟩,⟨by rw [issued]; exact List.prefix_rfl,by rw [answered]⟩,
      confirmed_prefix behind,confirmed,read_ok⟩
  | pide i r leidos mid faltan alone lock sound split reads back issued decoded answered =>
    have behind : s.leidas.map Prod.fst <+: s.confirmados.map Prod.snd := by
      cases reads with
      | aun_no antes behind => exact confirmed_prefix behind
      | desde parametros _ _ closed => rw [closed]
    refine ⟨⟨?_,?_⟩,⟨by rw [issued]; exact List.prefix_append _ _,by rw [answered]⟩,behind,confirmed,read_ok⟩
    · rw [decoded,issued,List.map_append]
      split_ifs
      · exact List.prefix_rfl
      · rw [List.append_nil]; exact List.prefix_append _ _
    · rw [decoded,issued]
      simp only [List.length_append,List.length_map,List.length_singleton]
      omega
  | contesta i r a visto aire faltan alone lock sound sized split unread back km ida closed issued decoded answered =>
    exact ⟨⟨by rw [decoded],by simp [decoded]⟩,⟨by rw [issued]; exact List.prefix_append _ _,
      by rw [answered]; exact List.prefix_append _ _⟩,by rw [closed],confirmed,read_ok⟩
  | ventana i r h alone lock km ida back closed mine issued decoded answered =>
    exact ⟨⟨by rw [decoded],by simp [decoded]⟩,⟨by rw [issued]; exact List.prefix_rfl,by rw [answered]⟩,
      by rw [closed],confirmed,read_ok⟩

/-! ## The moves of the threads -/

theorem toma_en_fase {s t : Sistema} {i : Nat} {r : Pedido} (held : EnFase s) (outside : FueraDeVentana (.toma i r) s)
    (moved : paso (.toma i r) s = some t) : EnFase t := by
  simp only [paso,Option.ite_none_right_eq_some,Option.some.injEq] at moved
  obtain ⟨⟨here,free,sound⟩,rfl⟩ := moved
  obtain ⟨phase,confirmed,read_ok⟩ := held
  refine ⟨?_,fun x sent => List.mem_append_left _ (confirmed x sent),read_ok⟩
  cases phase with
  | libre quiet _ behind back issued decoded answered =>
    refine .pide i r [] [] r.campos (solo_of_quietos quiet here _) rfl sound rfl ?_ back ?_ ?_ answered
    · exact .aun_no s.ida behind (List.append_nil _).symm rfl
    · show s.emitidos ++ [(i,r)] = _
      rw [issued]; rfl
    · show s.decodificados = _
      rw [decoded,issued,if_neg (fun same => by cases same),List.append_nil]; rfl
  | pide _ _ _ _ _ _ lock => rw [lock] at free; cases free
  | contesta _ _ _ _ _ _ _ lock => rw [lock] at free; cases free
  | ventana j r' h alone lock =>
    rcases lock with ⟨rfl,_⟩ | ⟨_,lock⟩
    · exact absurd rfl (outside _ (List.mem_of_getElem? alone.1))
    · rw [lock] at free; cases free

theorem envia_en_fase {s t : Sistema} {i : Nat} (held : EnFase s) (moved : paso (.envia i) s = some t) : EnFase t := by
  obtain ⟨phase,confirmed,read_ok⟩ := held
  simp only [paso] at moved
  split at moved
  case h_2 => cases moved
  case h_1 r c faltan here =>
    cases moved
    refine ⟨?_,confirmed,read_ok⟩
    cases phase with
    | libre quiet => cases quiet i _ here
    | pide j r' leidos mid faltan' alone lock sound split reads back issued decoded answered =>
      obtain ⟨rfl,same⟩ := solo_unique alone here (fun same => by cases same)
      cases same
      refine .pide i r leidos (mid ++ [c]) faltan (solo_set alone _) lock sound ?_ ?_ back issued decoded answered
      · rw [split]; simp
      · cases reads with
        | aun_no antes behind stream none_read =>
          refine .aun_no antes behind ?_ none_read
          show s.ida ++ c.octetos = _
          rw [stream,octetos_append,octetos_cons,octetos_nil,List.append_nil,List.append_assoc]
        | desde parametros km stream closed some_read =>
          refine .desde parametros km ?_ closed some_read
          show s.ida ++ c.octetos = _
          rw [stream,octetos_append,octetos_cons,octetos_nil,List.append_nil]
    | contesta j r' a visto aire faltan' alone =>
      obtain ⟨rfl,same⟩ := solo_unique alone here (fun same => by cases same)
      cases visto <;> cases same
    | ventana j r' h alone lock =>
      obtain ⟨rfl,same⟩ := solo_unique alone here (fun same => by cases same)
      rcases lock with ⟨rfl,_⟩ | ⟨rfl,_⟩ <;> cases same

theorem retoma_en_fase {s t : Sistema} {i : Nat} (held : EnFase s) (moved : paso (.retoma i) s = some t) : EnFase t := by
  obtain ⟨phase,confirmed,read_ok⟩ := held
  simp only [paso] at moved
  split at moved
  case h_2 => cases moved
  case h_1 r here free =>
    cases moved
    refine ⟨?_,confirmed,read_ok⟩
    cases phase with
    | libre quiet => cases quiet i _ here
    | pide _ _ _ _ _ _ lock => rw [lock] at free; cases free
    | contesta _ _ _ _ _ _ _ lock => rw [lock] at free; cases free
    | ventana j r' h alone lock km ida back closed mine issued decoded answered =>
      obtain ⟨rfl,same⟩ := solo_unique alone here (fun same => by cases same)
      rcases lock with ⟨rfl,_⟩ | ⟨rfl,_⟩ <;> cases same
      exact .ventana i r (.confirma r) (solo_set alone _) (.inr ⟨rfl,rfl⟩) km ida back closed mine issued decoded answered

theorem confirma_en_fase {s t : Sistema} {i : Nat} (held : EnFase s) (moved : paso (.confirma i) s = some t) : EnFase t := by
  obtain ⟨phase,confirmed,read_ok⟩ := held
  simp only [paso] at moved
  split at moved
  case h_2 => cases moved
  case h_1 r here =>
    cases moved
    cases phase with
    | libre quiet => cases quiet i _ here
    | pide j r' leidos mid faltan alone =>
      obtain ⟨rfl,same⟩ := solo_unique alone here (fun same => by cases same)
      cases same
    | contesta j r' a visto aire faltan' alone =>
      obtain ⟨rfl,same⟩ := solo_unique alone here (fun same => by cases same)
      cases visto <;> cases same
    | ventana j r' h alone lock km ida back closed mine issued decoded answered =>
      obtain ⟨rfl,same⟩ := solo_unique alone here (fun same => by cases same)
      rcases lock with ⟨rfl,_⟩ | ⟨rfl,_⟩ <;> cases same
      refine ⟨.libre (quietos_set alone) rfl ?_ back issued decoded answered,?_,read_ok⟩
      · refine .confirmacion r km (by rw [ida]; rfl) ?_
        show (s.confirmados ++ [(i,r)]).map Prod.snd = _
        rw [List.map_append,closed]; rfl
      · intro x sent
        rcases List.mem_append.mp sent with sent | sent
        · exact confirmed x sent
        · rw [List.mem_singleton] at sent
          subst sent
          exact mine

/-- An answer is its code, and the bytes after it when there are bytes to wait for. -/
theorem campos_respuesta {r : Pedido} {a : Respuesta}
    (sized : a.datos.length = if r.codigo = .leer_datos ∧ a.codigo = OP_OK then r.tamanio_datos else 0) :
    a.campos r = .entero a.codigo :: if r.codigo = .leer_datos ∧ a.codigo = OP_OK ∧ r.tamanio_datos ≠ 0 then
      [.bytes a.datos] else [] := by
  rw [Respuesta.campos]
  congr 1
  by_cases read : r.codigo = .leer_datos ∧ a.codigo = OP_OK
  · rw [if_pos read] at sized
    rw [if_pos read,envio]
    by_cases empty : a.datos = []
    · rw [empty,List.length_nil] at sized
      rw [if_pos empty,if_neg (fun more => more.2.2 sized.symm)]
    · rw [if_neg empty,if_pos ⟨read.1,read.2,fun zero => empty (List.length_eq_zero_iff.mp (sized.trans zero))⟩]
  · rw [if_neg read,if_neg (fun more => read ⟨more.1,more.2.1⟩)]

/-- The exchange is over: the thread has the whole answer and lets go of the lock. -/
theorem suelta_en_fase {s : Sistema} {i : Nat} {r : Pedido} {a : Respuesta} {h : Hilo} (held : EnFase s)
    (alone : Solo s.hilos i h) (km : s.km = tras_responder r a) (ida : s.ida = [])
    (closed : s.confirmados.map Prod.snd = s.leidas.map Prod.fst) (issued : s.emitidos = cerrados s ++ [(i,r)])
    (decoded : s.decodificados = s.emitidos.map Prod.snd) (answered : s.contestados = s.recibidos.map Prod.snd ++ [(r,a)]) :
    EnFase ({ s with vuelta := [], recibidos := s.recibidos ++ [(i,r,a)] }.suelta i
      (if r.codigo = Codigo.crear_segmento ∧ a.codigo = OP_COMPACTAR then .ventana r else .fuera)) := by
  have past : cerrados { s with vuelta := [], recibidos := s.recibidos ++ [(i,r,a)] } = cerrados s ++ [(i,r)] :=
    List.map_append
  have given : (s.recibidos ++ [(i,r,a)]).map Prod.snd = s.recibidos.map Prod.snd ++ [(r,a)] := List.map_append
  refine ⟨?_,held.confirmed,held.read_ok⟩
  unfold tras_responder at km
  split_ifs at km ⊢ with wait
  · exact .ventana i r _ (solo_set alone _) (.inl ⟨rfl,rfl⟩) km ida rfl closed
      (by show (i,r) ∈ s.emitidos; rw [issued]; exact List.mem_append_right _ (List.mem_singleton_self _))
      (issued.trans past.symm) decoded (answered.trans given.symm)
  · exact .libre (quietos_set alone) rfl (.nada km ida closed) rfl (issued.trans past.symm) decoded
      (answered.trans given.symm)

theorem recibe_codigo_en_fase {s t : Sistema} {i : Nat} {r : Pedido} (held : EnFase s) (here : s.hilos[i]? = some (.pide r []))
    (moved : paso (.recibe i) s = some t) : EnFase t := by
  simp only [paso,here] at moved
  have held' := held
  obtain ⟨phase,confirmed,read_ok⟩ := held
  cases phase with
  | libre quiet => cases quiet i _ here
  | pide j r' leidos mid faltan alone lock sound split reads back =>
    simp only [back,recibir] at moved
    cases moved
  | ventana j r' h alone lock =>
    obtain ⟨rfl,same⟩ := solo_unique alone here (fun same => by cases same)
    rcases lock with ⟨rfl,_⟩ | ⟨rfl,_⟩ <;> cases same
  | contesta j r' a visto aire faltan alone lock sound sized split unread back km ida closed issued decoded answered =>
    obtain ⟨rfl,same⟩ := solo_unique alone here (fun same => by cases same)
    cases visto with
    | cons _ _ => cases same
    | nil =>
      cases same
      rw [campos_respuesta sized] at split
      cases aire with
      | nil =>
        simp only [back,octetos_nil,recibir] at moved
        cases moved
      | cons c aire =>
        simp only [List.nil_append,List.cons_append,List.cons.injEq] at split
        obtain ⟨rfl,split⟩ := split
        have read : recibir .entero s.vuelta = some (.entero a.codigo,octetos aire) := by
          rw [back,octetos_cons]
          exact recibir_octetos (.entero a.codigo) (octetos aire)
        simp only [read,Option.some.injEq] at moved
        subst moved
        unfold tras_respuesta
        by_cases more : r.codigo = .leer_datos ∧ a.codigo = OP_OK ∧ r.tamanio_datos ≠ 0
        · rw [if_pos more] at split ⊢
          refine ⟨.contesta i r a [.entero a.codigo] aire faltan (solo_set alone _) lock sound sized ?_ ?_ rfl km ida closed
            issued decoded answered,confirmed,read_ok⟩
          · rw [campos_respuesta sized,if_pos more,split]; rfl
          · rw [← split]; exact List.cons_ne_nil _ _
        · rw [if_neg more] at split ⊢
          obtain ⟨rfl,rfl⟩ := List.append_eq_nil_iff.mp split.symm
          have none_left : a.datos = [] := by
            refine List.length_eq_zero_iff.mp ?_
            rw [sized]
            split_ifs with read
            · exact not_not.mp (fun some_left => more ⟨read.1,read.2,some_left⟩)
            · rfl
          obtain ⟨codigo,datos⟩ := a
          cases none_left
          have done := suelta_en_fase held' alone km ida closed issued decoded answered
          exact done

theorem recibe_datos_en_fase {s t : Sistema} {i : Nat} {r : Pedido} {codigo : Entero} (held : EnFase s)
    (here : s.hilos[i]? = some (.recibe_datos r codigo)) (moved : paso (.recibe i) s = some t) : EnFase t := by
  simp only [paso,here] at moved
  have held' := held
  obtain ⟨phase,confirmed,read_ok⟩ := held
  cases phase with
  | libre quiet => cases quiet i _ here
  | pide j r' leidos mid faltan alone =>
    obtain ⟨rfl,same⟩ := solo_unique alone here (fun same => by cases same)
    cases same
  | ventana j r' h alone lock =>
    obtain ⟨rfl,same⟩ := solo_unique alone here (fun same => by cases same)
    rcases lock with ⟨rfl,_⟩ | ⟨rfl,_⟩ <;> cases same
  | contesta j r' a visto aire faltan alone lock sound sized split unread back km ida closed issued decoded answered =>
    obtain ⟨rfl,same⟩ := solo_unique alone here (fun same => by cases same)
    cases visto with
    | nil => cases same
    | cons c visto =>
      cases same
      rw [campos_respuesta sized,List.append_assoc,List.cons_append,List.cons.injEq] at split
      obtain ⟨-,split⟩ := split
      by_cases more : r.codigo = .leer_datos ∧ a.codigo = OP_OK ∧ r.tamanio_datos ≠ 0
      · rw [if_pos more] at split
        rw [if_pos ⟨more.1,more.2.1⟩] at sized
        obtain rfl : visto = [] := by
          rcases visto with _ | ⟨c',visto⟩
          · rfl
          · rw [List.cons_append,List.cons.injEq] at split
            exact absurd (List.append_eq_nil_iff.mp split.2.symm).2 unread
        cases aire with
        | nil =>
          rw [back,octetos_nil] at moved
          split at moved
          · rename_i datos vuelta read
            exact absurd (Lectura.bytes.inj (recibir_vacio read)) more.2.2
          · cases moved
        | cons c' aire =>
          simp only [List.nil_append,List.cons_append,List.cons.injEq] at split
          obtain ⟨rfl,split⟩ := split
          obtain ⟨rfl,rfl⟩ := List.append_eq_nil_iff.mp split.symm
          have read : recibir (.bytes r.tamanio_datos) s.vuelta = some (.bytes a.datos,[]) := by
            rw [back,← sized]
            exact recibir_octetos (.bytes a.datos) (octetos [])
          simp only [read,Option.some.injEq] at moved
          subst moved
          have done := suelta_en_fase held' alone km ida closed issued decoded answered
          rwa [if_neg (fun wait => by rw [more.1] at wait; cases wait.1)] at done
      · rw [if_neg more] at split
        exact absurd (List.append_eq_nil_iff.mp split.symm).2 unread

/-! ## The moves of the handler -/

/-- The pieces that the handler has of the parameters, when it has read them in order. -/
theorem parametros_split {r : Pedido} {leidos mid faltan : List Campo}
    (split : r.campos = .entero r.codigo.valor :: leidos ++ mid ++ faltan) : r.parametros = leidos ++ (mid ++ faltan) := by
  rw [Pedido.campos,List.append_assoc,List.cons_append,List.cons.injEq] at split
  exact split.2

theorem siguiente_of_split {r : Pedido} (sound : r.bien) {leidos rest : List Campo} {c : Campo}
    (split : r.parametros = leidos ++ c :: rest) : siguiente r.codigo leidos = some c.lectura := by
  have next : r.parametros[leidos.length]? = some c := by rw [split]; simp
  have taken : r.parametros.take leidos.length = leidos := by rw [split]; simp
  have asked := siguiente_part sound next
  rwa [taken] at asked

/-- The handler has read one more piece: it asks for the next one, or it has the request. -/
theorem lee_en_fase {s : Sistema} {i : Nat} {r : Pedido} {leidos mid faltan : List Campo}
    (confirmed : ∀ x ∈ s.confirmados, x ∈ s.emitidos) (read_ok : ∀ x ∈ s.leidas, x.2 = OP_OK)
    (alone : Solo s.hilos i (.pide r faltan)) (lock : s.mutex_pedidos_memoria = some i) (sound : r.bien)
    (split : r.parametros = leidos ++ (mid ++ faltan)) (stream : s.ida = octetos mid)
    (closed : s.confirmados.map Prod.snd = s.leidas.map Prod.fst) (back : s.vuelta = [])
    (issued : s.emitidos = cerrados s ++ [(i,r)]) (decoded : s.decodificados = (cerrados s).map Prod.snd)
    (answered : s.contestados = s.recibidos.map Prod.snd) : EnFase (s.lee r.codigo leidos) := by
  have whole : r.campos = .entero r.codigo.valor :: leidos ++ mid ++ faltan := by
    rw [Pedido.campos,split,List.append_assoc,List.cons_append]
  unfold Sistema.lee
  cases rest : mid ++ faltan with
  | nil =>
    rw [rest,List.append_nil] at split
    have reached : entra r.codigo leidos = .atiende r := by rw [← split]; exact entra_whole sound
    rw [reached]
    refine ⟨.pide i r _ mid faltan alone lock sound whole (.desde leidos reached.symm stream closed rfl) back issued ?_
      answered,confirmed,read_ok⟩
    show s.decodificados ++ [r] = _
    rw [if_pos (by rw [Pedido.campos,split]),decoded]; rfl
  | cons c rest' =>
    have reached := entra_recibe (siguiente_of_split sound (rest ▸ split))
    rw [reached]
    refine ⟨.pide i r _ mid faltan alone lock sound whole (.desde leidos reached.symm stream closed rfl) back issued ?_
      answered,confirmed,read_ok⟩
    have short : Campo.entero r.codigo.valor :: leidos ≠ r.campos := by
      rw [Pedido.campos,split,rest]
      intro same
      have lengths := congrArg List.length same
      simp at lengths
    show s.decodificados = _
    rw [if_neg short,List.append_nil,decoded]; rfl

theorem km_recibe_en_fase {s t : Sistema} (held : EnFase s) (moved : paso .km_recibe s = some t) : EnFase t := by
  have held' := held
  obtain ⟨phase,confirmed,read_ok⟩ := held
  simp only [paso,km_recibe] at moved
  cases phase with
  | libre quiet free behind back issued decoded answered =>
    cases behind with
    | nada km ida closed =>
      simp only [km,ida,recibir] at moved
      cases moved
    | compacta r km => simp only [km] at moved; cases moved
    | confirmacion r km ida ahead =>
      have read : recibir .entero s.ida = some (.entero OP_OK,[]) := by
        rw [ida]
        exact recibir_octetos (.entero OP_OK) []
      simp only [km,read,if_true,Option.some.injEq] at moved
      subst moved
      refine ⟨.libre quiet free (.compacta r rfl rfl ?_) back issued decoded answered,confirmed,?_⟩
      · rw [ahead]; simp
      · intro x taken
        rcases List.mem_append.mp taken with taken | taken
        · exact read_ok x taken
        · rw [List.mem_singleton.mp taken]
  | ventana i r h alone lock km ida =>
    simp only [km,ida,recibir] at moved
    cases moved
  | contesta i r a visto aire faltan alone lock sound sized split unread back km ida =>
    rw [ida] at moved
    unfold tras_responder at km
    split_ifs at km <;> simp only [km,recibir] at moved <;> cases moved
  | pide i r leidos mid faltan alone lock sound split reads back issued decoded answered =>
    cases reads with
    | aun_no antes behind stream none_read =>
      subst none_read
      rw [if_neg (fun same => by cases same),List.append_nil] at decoded
      cases behind with
      | compacta r' km => simp only [km] at moved; cases moved
      | confirmacion r' km before ahead =>
        have read : recibir .entero s.ida = some (.entero OP_OK,octetos mid) := by
          rw [stream,before]
          exact recibir_octetos (.entero OP_OK) (octetos mid)
        simp only [km,read,if_true,Option.some.injEq] at moved
        subst moved
        refine ⟨.pide i r [] mid faltan alone lock sound split ?_ back issued ?_ answered,confirmed,?_⟩
        · refine .aun_no [] (.compacta r' rfl rfl ?_) rfl rfl
          rw [ahead]; simp
        · rw [if_neg (fun same => by cases same),List.append_nil]; exact decoded
        · intro x taken
          rcases List.mem_append.mp taken with taken | taken
          · exact read_ok x taken
          · rw [List.mem_singleton.mp taken]
      | nada km before closed =>
        subst before
        rw [List.nil_append] at stream
        cases mid with
        | nil =>
          simp only [km,stream,octetos_nil,recibir] at moved
          cases moved
        | cons c mid =>
          simp only [Pedido.campos,List.nil_append,List.cons_append,List.cons.injEq] at split
          obtain ⟨rfl,split⟩ := split
          have read : recibir .entero s.ida = some (.entero r.codigo.valor,octetos mid) := by
            rw [stream,octetos_cons]
            exact recibir_octetos (.entero _) (octetos mid)
          simp only [km,read,if_neg (valor_ne_closed r.codigo),codigo_of_valor,Option.some.injEq] at moved
          subst moved
          exact lee_en_fase confirmed read_ok alone lock sound split rfl closed back issued decoded answered
    | desde leidos km stream closed some_read =>
      subst some_read
      have parts := parametros_split split
      cases rest : mid ++ faltan with
      | nil =>
        rw [rest,List.append_nil] at parts
        rw [km,← parts,entra_whole sound] at moved
        cases moved
      | cons c rest' =>
        rw [rest] at parts
        have asked := siguiente_of_split sound parts
        rw [km,entra_recibe asked] at moved
        simp only [asked] at moved
        cases mid with
        | nil =>
          split at moved
          · rename_i c' ida read
            rw [stream,octetos_nil] at read
            have sent : c ∈ r.campos := by rw [Pedido.campos,parts]; simp
            exact absurd (recibir_vacio read) (lectura_campos sent)
          · cases moved
        | cons c' mid =>
          obtain ⟨rfl,rfl⟩ := List.cons.inj rest
          simp only [stream,octetos_cons,recibir_octetos,Option.some.injEq] at moved
          subst moved
          have short : Campo.entero r.codigo.valor :: leidos ≠ r.campos := by
            rw [Pedido.campos,parts]
            intro same
            have lengths := congrArg List.length same
            simp at lengths
          rw [if_neg short,List.append_nil] at decoded
          refine lee_en_fase confirmed read_ok alone lock sound ?_ rfl closed back issued decoded answered
          rw [parts,List.append_assoc]; rfl

theorem km_atiende_en_fase {s t : Sistema} {a : Respuesta} (held : EnFase s) (moved : paso (.km_atiende a) s = some t) :
    EnFase t := by
  obtain ⟨phase,confirmed,read_ok⟩ := held
  simp only [paso] at moved
  split at moved
  case h_2 => cases moved
  case h_1 r km =>
    simp only [Option.ite_none_right_eq_some,Option.some.injEq] at moved
    obtain ⟨⟨admitted,sized⟩,rfl⟩ := moved
    refine ⟨?_,confirmed,read_ok⟩
    have idle {antes : List Byte} (behind : Atraso s.km s.confirmados s.leidas antes) : False := by
      cases behind with
      | nada km' => rw [km'] at km; cases km
      | confirmacion r' km' => rw [km'] at km; cases km
      | compacta r' km' => rw [km'] at km; cases km
    cases phase with
    | libre _ _ behind => exact (idle behind).elim
    | ventana i r' h alone lock km' => rw [km'] at km; cases km
    | contesta i r' a' visto aire faltan alone lock sound sized' split unread back km' =>
      rw [km'] at km
      unfold tras_responder at km
      split_ifs at km
    | pide i r' leidos mid faltan alone lock sound split reads back issued decoded answered =>
      cases reads with
      | aun_no antes behind => exact (idle behind).elim
      | desde leidos km' stream closed some_read =>
        subst some_read
        have parts := parametros_split split
        cases rest : mid ++ faltan with
        | cons c rest' =>
          rw [rest] at parts
          rw [km',entra_recibe (siguiente_of_split sound parts)] at km
          cases km
        | nil =>
          obtain ⟨rfl,rfl⟩ := List.append_eq_nil_iff.mp rest
          rw [List.append_nil,List.append_nil] at parts
          rw [← parts] at km' decoded
          rw [km',entra_whole sound] at km
          cases km
          have answer : a.campos r = [] ++ [] ++ a.campos r := rfl
          refine .contesta i r a [] [] (a.campos r) alone lock sound sized answer ?_ back ?_ stream closed issued ?_ ?_
          · exact List.cons_ne_nil _ _
          · exact (if_neg (List.cons_ne_nil _ _)).symm
          · show s.decodificados = s.emitidos.map Prod.snd
            rw [decoded,issued,List.map_append]
            exact congrArg _ (if_pos rfl)
          · show s.contestados ++ [(r,a)] = _
            rw [answered]

theorem km_envia_en_fase {s t : Sistema} (held : EnFase s) (moved : paso .km_envia s = some t) : EnFase t := by
  obtain ⟨phase,confirmed,read_ok⟩ := held
  have answering : ∃ r a c faltan, s.km = .responde r a (c :: faltan) ∧
      t = { s with km := if faltan = [] then tras_responder r a else .responde r a faltan, vuelta := s.vuelta ++ c.octetos } := by
    simp only [paso] at moved
    split at moved
    · cases moved; exact ⟨_,_,_,[],‹_›,rfl⟩
    · rename_i r a c faltan more km
      cases moved
      exact ⟨r,a,c,faltan,km,by rw [if_neg (fun last => more (by rw [last]))]⟩
    · cases moved
  obtain ⟨r,a,c,rest,km,rfl⟩ := answering
  refine ⟨?_,confirmed,read_ok⟩
  have idle {antes : List Byte} (behind : Atraso s.km s.confirmados s.leidas antes) : False := by
    cases behind with
    | nada km' => rw [km'] at km; cases km
    | confirmacion r' km' => rw [km'] at km; cases km
    | compacta r' km' => rw [km'] at km; cases km
  cases phase with
  | libre _ _ behind => exact (idle behind).elim
  | ventana i r' h alone lock km' => rw [km'] at km; cases km
  | pide i r' leidos mid faltan alone lock sound split reads =>
    cases reads with
    | aun_no antes behind => exact (idle behind).elim
    | desde leidos km' =>
      rw [km'] at km
      unfold entra at km
      repeat' split at km
      all_goals cases km
  | contesta i r' a' visto aire faltan alone lock sound sized split unread back km' ida closed issued decoded answered =>
    rw [km'] at km
    by_cases last : faltan = []
    · rw [if_pos last] at km
      unfold tras_responder at km
      split_ifs at km
    · rw [if_neg last] at km
      cases km
      refine .contesta i r a visto (aire ++ [c]) rest alone lock sound sized (by rw [split]; simp) (by simp) ?_ rfl ida closed
        issued decoded answered
      show s.vuelta ++ c.octetos = _
      rw [back,octetos_append,octetos_cons,octetos_nil,List.append_nil]

theorem km_compacta_en_fase {s t : Sistema} (held : EnFase s) (moved : paso .km_compacta s = some t) : EnFase t := by
  obtain ⟨phase,confirmed,read_ok⟩ := held
  simp only [paso] at moved
  split at moved
  case h_2 => cases moved
  case h_1 r km =>
    cases moved
    refine ⟨?_,confirmed,read_ok⟩
    have done {antes : List Byte} (behind : Atraso s.km s.confirmados s.leidas antes) :
        Atraso .recibe_op s.confirmados s.leidas antes := by
      cases behind with
      | nada km' => rw [km'] at km; cases km
      | confirmacion r' km' => rw [km'] at km; cases km
      | compacta r' _ before closed => exact .nada rfl before closed
    cases phase with
    | libre quiet free behind back issued decoded answered => exact .libre quiet free (done behind) back issued decoded answered
    | ventana i r' h alone lock km' => rw [km'] at km; cases km
    | contesta i r' a' visto aire faltan alone lock sound sized split unread back km' =>
      rw [km'] at km
      unfold tras_responder at km
      split_ifs at km
    | pide i r' leidos mid faltan alone lock sound split reads back issued decoded answered =>
      cases reads with
      | aun_no antes behind stream none_read =>
        exact .pide i r' leidos mid faltan alone lock sound split (.aun_no antes (done behind) stream none_read) back issued
          decoded answered
      | desde leidos km' =>
        rw [km'] at km
        unfold entra at km
        repeat' split at km
        all_goals cases km

/-! ## Runs -/

theorem paso_en_fase : Preserved paso FueraDeVentana EnFase := by
  intro e s t held outside moved
  cases e with
  | toma i r => exact toma_en_fase held outside moved
  | envia i => exact envia_en_fase held moved
  | recibe i =>
    have moved' := moved
    simp only [paso] at moved'
    split at moved'
    · exact recibe_codigo_en_fase held ‹_› moved
    · exact recibe_datos_en_fase held ‹_› moved
    · cases moved'
  | retoma i => exact retoma_en_fase held moved
  | confirma i => exact confirma_en_fase held moved
  | km_recibe => exact km_recibe_en_fase held moved
  | km_atiende a => exact km_atiende_en_fase held moved
  | km_envia => exact km_envia_en_fase held moved
  | km_compacta => exact km_compacta_en_fase held moved

theorem inicio_en_fase (n : Nat) : EnFase (inicio n) := by
  refine ⟨.libre ?_ rfl (.nada rfl rfl rfl) rfl rfl rfl rfl,(fun _ sent => by cases sent),(fun _ taken => by cases taken)⟩
  intro j h here
  exact (List.mem_replicate.mp (List.mem_of_getElem? here)).2

/-- In every run of any number of threads in which none starts a request while another is between
    OP_COMPACTAR and its OP_OK, requests and answers are paired up in every state reached. -/
theorem requests_paired (n : Nat) (turnos : List Eleccion) (s : Sistema)
    (outside : Guarded paso FueraDeVentana turnos (inicio n)) (reached : run paso turnos (inicio n) = some s) :
    EnOrden s :=
  en_orden (invariant_of_guarded paso_en_fase (inicio_en_fase n) outside reached)

/-- One thread asks for a segment, is told to compact, confirms it, and then another suspends a process. -/
def jornada : List Eleccion :=
  [.toma 0 (.crear_segmento 1 0 64),.envia 0,.km_recibe,.envia 0,.envia 0,.km_recibe,.envia 0,.km_recibe,.km_recibe,
    .km_atiende ⟨OP_COMPACTAR,[]⟩,.km_envia,.recibe 0,.retoma 0,.confirma 0,.toma 1 (.suspender_proceso 2),.envia 1,
    .km_recibe,.km_compacta,.envia 1,.km_recibe,.km_recibe,.km_atiende ⟨OP_OK,[]⟩,.km_envia,.recibe 1]

set_option maxRecDepth 4000 in
theorem requests_paired_jornada :
    ∃ s, run paso jornada (inicio 2) = some s ∧ s.recibidos.length = 2 ∧ EnOrden s := by
  have answered : (run paso jornada (inicio 2)).map (fun s => s.recibidos.length) = some 2 := by decide
  obtain ⟨s,reached,count⟩ := Option.map_eq_some_iff.mp answered
  exact ⟨s,reached,count,requests_paired 2 jornada s (by decide) reached⟩

/-- The suspension timer of another process expires while the thread that was told to compact is
    evicting the CPUs: the code of its request is read as the confirmation. -/
def intromision : List Eleccion :=
  [.toma 0 (.crear_segmento 1 0 64),.envia 0,.envia 0,.envia 0,.envia 0,.km_recibe,.km_recibe,.km_recibe,.km_recibe,
    .km_atiende ⟨OP_COMPACTAR,[]⟩,.km_envia,.recibe 0,.toma 1 (.suspender_proceso 2),.envia 1,.km_recibe]

set_option maxRecDepth 4000 in
theorem requests_mispaired : ∃ s, run paso intromision (inicio 2) = some s ∧ ¬ EnOrden s := by
  have taken : (run paso intromision (inicio 2)).map (·.leidas) = some [(.crear_segmento 1 0 64,OP_SUSPENDER_PROCESO)] := by
    decide
  obtain ⟨s,reached,taken⟩ := Option.map_eq_some_iff.mp taken
  refine ⟨s,reached,fun ordered => ?_⟩
  have confirmed := ordered.2.2.2.2 (.crear_segmento 1 0 64,OP_SUSPENDER_PROCESO) (by rw [taken]; exact List.mem_singleton_self _)
  exact absurd confirmed (by decide)

end PlugNPray.Pairing
