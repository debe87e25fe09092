import PlugNPray.CpuSocket

/-!
Messages to a CPU arrive whole as long as nobody writes between the two ints of
another's message: what the CPU has read of a message, what is on the stream and what
its writer has still to send are the messages on their way, and after the last of them
exactly one of the parties is to move the conversation on.
-/
namespace PlugNPray.WholeMessages
open PlugNPray.Wire PlugNPray.Protocol PlugNPray.Runs PlugNPray.CpuSocket

/-- The CPU has made whole messages of what it read, those that were sent, in their order. -/
def Enteros (s : Sistema) : Prop := s.leidos <+: s.enviados

/-- A thread is between the two ints of a message. -/
def a_medias (l : List Entero) : Bool := l.length = 1

/-- Nobody else is between the two ints of a message. -/
def SinCortar (e : Eleccion) (s : Sistema) : Prop :=
  match e with
  | .envia i => ∀ j < s.escritores.length, j ≠ i → ¬ a_medias (s.escritores[j]?.getD [])
  | .responde _ => ∀ l ∈ s.escritores, ¬ a_medias l
  | _ => True

instance : ∀ e s, Decidable (SinCortar e s)
  | .envia i, s => inferInstanceAs (Decidable (∀ j < s.escritores.length, j ≠ i → ¬ a_medias (s.escritores[j]?.getD [])))
  | .responde _, s => inferInstanceAs (Decidable (∀ l ∈ s.escritores, ¬ a_medias l))
  | .despacha _, _ | .fin_compactacion _, _ | .interrumpe _ _, _ | .recibe, _ | .libera, _ | .ignora, _ | .cpu_recibe, _
  | .cpu_revisa _, _ | .cpu_instruccion _, _ => isTrue trivial

/-! ## What the messages on their way will do -/

/-- The CPU as the conversation sees it. -/
inductive Modo where
  | principal
  | corre
  | espera (n : Nat) (tipo : Tipo)
  | roto
  deriving DecidableEq

def modo : Cpu → Modo
  | .principal | .principal_interrumpir | .principal_ejecutar => .principal
  | .ejecuta _ | .check_interrupt _ | .check_interrupt_pid _ => .corre
  | .recibir_respuesta _ n tipo | .recibir_respuesta_pid _ n tipo => .espera n tipo

/-- The ints that the CPU has of the message that it is reading. -/
def empezado : Cpu → List Entero
  | .principal_interrumpir | .check_interrupt_pid _ | .recibir_respuesta_pid _ _ _ => [OP_INTERRUMPIR_PROCESO]
  | .principal_ejecutar => [OP_EJECUTAR_PROCESO]
  | _ => []

def asentar : Modo → Mensaje → Modo
  | m, .interrumpir _ => m
  | .principal, .ejecutar _ => .corre
  | .espera n tipo, .respuesta n' v =>
    if n' = n ∧ admite tipo v then (if v = OP_BLOQUEADO then .principal else .corre) else .roto
  | _, _ => .roto

/-- The CPU once it has read all that is on its way. -/
def asentado (m : Modo) (cola : List Mensaje) : Modo := cola.foldl asentar m

@[simp] theorem asentado_nil (m : Modo) : asentado m [] = m := rfl
@[simp] theorem asentado_cons (m : Modo) (x : Mensaje) (cola : List Mensaje) :
    asentado m (x :: cola) = asentado (asentar m x) cola := rfl
@[simp] theorem asentado_append (m : Modo) (cola : List Mensaje) (x : Mensaje) :
    asentado m (cola ++ [x]) = asentar (asentado m cola) x := by simp [asentado]

@[simp] theorem asentar_roto (x : Mensaje) : asentar .roto x = .roto := by cases x <;> rfl

theorem asentado_roto (cola : List Mensaje) : asentado .roto cola = .roto := by
  induction cola with
  | nil => rfl
  | cons x cola ih => rw [asentado_cons,asentar_roto,ih]

theorem head_sound {m : Modo} {x : Mensaje} {cola : List Mensaje} (sound : asentado m (x :: cola) ≠ .roto) :
    asentar m x ≠ .roto := by
  intro broken
  rw [asentado_cons,broken,asentado_roto] at sound
  exact sound rfl

/-! ## Whose turn it is -/

/-- No thread is about to send a process to the CPU. -/
def SinDespacho (escritores : List (List Entero)) : Prop :=
  ∀ (i : Nat) (pid : Entero), escritores[i]? ≠ some [OP_EJECUTAR_PROCESO,pid]

/-- Exactly one thread is. -/
def Despacha (escritores : List (List Entero)) (i : Nat) : Prop :=
  (∃ pid, escritores[i]? = some [OP_EJECUTAR_PROCESO,pid]) ∧
    ∀ (j : Nat) (pid : Entero), escritores[j]? = some [OP_EJECUTAR_PROCESO,pid] → j = i

/-- Which party is to move the conversation on, the CPU having read all that is on its way. -/
inductive Turno (s : Sistema) (m : Modo) : Prop
  | libre : m = .principal → s.manejador = .escucha → s.a_ks = [] → s.libre = true → s.reservada = false →
      SinDespacho s.escritores → Turno s m
  | reservada : m = .principal → s.manejador = .escucha → s.a_ks = [] → s.libre = false → s.reservada = true →
      SinDespacho s.escritores → Turno s m
  | despacha (i : Nat) : m = .principal → s.manejador = .escucha → s.a_ks = [] → s.libre = false → s.reservada = false →
      Despacha s.escritores i → Turno s m
  | corre : m = .corre → s.manejador = .escucha → s.a_ks = [] → s.libre = false → s.reservada = false →
      SinDespacho s.escritores → Turno s m
  | termina (a : Aviso) : m = .principal → s.manejador = .escucha → s.a_ks = [a] → (a = .fin ∨ a = .io) →
      s.libre = false → s.reservada = false → SinDespacho s.escritores → Turno s m
  | libera : m = .principal → s.manejador = .libera → s.a_ks = [] → s.libre = false → s.reservada = false →
      SinDespacho s.escritores → Turno s m
  | llama (n : Nat) (tipo : Tipo) : m = .espera n tipo → s.manejador = .escucha → s.a_ks = [.llamada n tipo] →
      s.libre = false → s.reservada = false → SinDespacho s.escritores → Turno s m
  | atiende (n : Nat) (tipo : Tipo) : m = .espera n tipo → s.manejador = .atiende n tipo → s.a_ks = [] →
      s.libre = false → s.reservada = false → SinDespacho s.escritores → Turno s m
  /-- After a BSOD the CPU is left as it is. -/
  | callado : m ≠ .corre → m ≠ .roto → s.manejador = .escucha → s.a_ks = [] → s.libre = false → s.reservada = false →
      SinDespacho s.escritores → Turno s m

theorem turno_sound {s : Sistema} {m : Modo} (turn : Turno s m) : m ≠ .roto := by
  cases turn with
  | callado _ sound => exact sound
  | libre mode | reservada mode | despacha _ mode | corre mode | termina _ mode | libera mode | llama _ _ mode
  | atiende _ _ mode => rw [mode]; exact fun same => by cases same

/-- The int that the thread between the two ints of its message has still to send. -/
def Resto (escritores : List (List Entero)) (resto : List Entero) : Prop :=
  (resto = [] ∧ ∀ (i : Nat) (v : Entero), escritores[i]? ≠ some [v]) ∨
    ∃ i v, resto = [v] ∧ escritores[i]? = some [v] ∧ ∀ (j : Nat) (w : Entero), escritores[j]? = some [w] → j = i

/-- A thread has at most two ints to send, and two are a message. -/
def Formado (l : List Entero) : Prop := l.length ≤ 2 ∧ (l.length = 2 → (mensaje_de l).isSome)

/-- The invariant of the socket. -/
def EnTurno (s : Sistema) : Prop :=
  ∃ cola resto, Resto s.escritores resto ∧ empezado s.cpu ++ s.canal ++ resto = cola.flatMap Mensaje.enteros ∧
    s.enviados = s.leidos ++ cola ∧ Turno s (asentado (modo s.cpu) cola) ∧
    ∀ (i : Nat) (l : List Entero), s.escritores[i]? = some l → Formado l

theorem enteros_of_en_turno {s : Sistema} (held : EnTurno s) : Enteros s := by
  obtain ⟨cola,_,_,_,sent,_⟩ := held
  exact ⟨cola,sent.symm⟩

/-! ## The threads that write -/

theorem turno_frame {s t : Sistema} {m : Modo} (turn : Turno s m) (manejador : t.manejador = s.manejador)
    (a_ks : t.a_ks = s.a_ks) (libre : t.libre = s.libre) (reservada : t.reservada = s.reservada)
    (none_sends : SinDespacho s.escritores → SinDespacho t.escritores)
    (one_sends : ∀ i, Despacha s.escritores i → Despacha t.escritores i) : Turno t m := by
  have same {x : Manejador} {y : List Aviso} {v w : Bool} (idle : s.manejador = x) (heard : s.a_ks = y) (free : s.libre = v)
      (kept : s.reservada = w) : t.manejador = x ∧ t.a_ks = y ∧ t.libre = v ∧ t.reservada = w :=
    ⟨manejador.trans idle,a_ks.trans heard,libre.trans free,reservada.trans kept⟩
  cases turn with
  | libre mode idle heard free kept sends =>
    obtain ⟨idle,heard,free,kept⟩ := same idle heard free kept
    exact .libre mode idle heard free kept (none_sends sends)
  | reservada mode idle heard free kept sends =>
    obtain ⟨idle,heard,free,kept⟩ := same idle heard free kept
    exact .reservada mode idle heard free kept (none_sends sends)
  | despacha i mode idle heard free kept sends =>
    obtain ⟨idle,heard,free,kept⟩ := same idle heard free kept
    exact .despacha i mode idle heard free kept (one_sends i sends)
  | corre mode idle heard free kept sends =>
    obtain ⟨idle,heard,free,kept⟩ := same idle heard free kept
    exact .corre mode idle heard free kept (none_sends sends)
  | termina a mode idle heard kind free kept sends =>
    obtain ⟨idle,heard,free,kept⟩ := same idle heard free kept
    exact .termina a mode idle heard kind free kept (none_sends sends)
  | libera mode idle heard free kept sends =>
    obtain ⟨idle,heard,free,kept⟩ := same idle heard free kept
    exact .libera mode idle heard free kept (none_sends sends)
  | llama n tipo mode idle heard free kept sends =>
    obtain ⟨idle,heard,free,kept⟩ := same idle heard free kept
    exact .llama n tipo mode idle heard free kept (none_sends sends)
  | atiende n tipo mode idle heard free kept sends =>
    obtain ⟨idle,heard,free,kept⟩ := same idle heard free kept
    exact .atiende n tipo mode idle heard free kept (none_sends sends)
  | callado still sound idle heard free kept sends =>
    obtain ⟨idle,heard,free,kept⟩ := same idle heard free kept
    exact .callado still sound idle heard free kept (none_sends sends)

section Escritores
variable {escritores : List (List Entero)} {i : Nat} {l l' : List Entero}

theorem set_other {j : Nat} (apart : j ≠ i) : (escritores.set i l')[j]? = escritores[j]? :=
  List.getElem?_set_ne (Ne.symm apart)

theorem set_self (here : escritores[i]? = some l) : (escritores.set i l')[i]? = some l' :=
  List.getElem?_set_self (List.getElem?_eq_some_iff.mp here).1

/-- What holds of every thread still does when the one that moves keeps it. -/
theorem set_cases {P : Nat → List Entero → Prop} (here : escritores[i]? = some l) (mine : P i l')
    (others : ∀ j k, escritores[j]? = some k → j ≠ i → P j k) {j : Nat} {k : List Entero}
    (there : (escritores.set i l')[j]? = some k) : P j k := by
  by_cases same : j = i
  · subst same
    rw [set_self here] at there
    cases there
    exact mine
  · rw [set_other same] at there
    exact others j k there same

theorem resto_set {resto : List Entero} (rest : Resto escritores resto) (here : escritores[i]? = some l)
    (before : l.length ≠ 1) (after : l'.length ≠ 1) : Resto (escritores.set i l') resto := by
  rcases rest with ⟨none_left,quiet⟩ | ⟨k,v,left,half,only⟩
  · refine .inl ⟨none_left,fun j w there => ?_⟩
    exact set_cases (P := fun _ k => k ≠ [w]) here (fun same => after (by rw [same]; rfl))
      (fun j k there _ same => quiet j w (by rw [there,same])) there rfl
  · have apart : k ≠ i := by
      rintro rfl
      rw [half] at here
      cases here
      exact before rfl
    refine .inr ⟨k,v,left,by rw [set_other apart]; exact half,fun j w there => ?_⟩
    exact set_cases (P := fun j k' => k' = [w] → j = k) here (fun same => absurd (by rw [same]; rfl) after)
      (fun j k' there _ same => only j w (by rw [there,same])) there rfl

theorem sin_despacho_set (none_sends : SinDespacho escritores) (here : escritores[i]? = some l)
    (other : ∀ pid, l' ≠ [OP_EJECUTAR_PROCESO,pid]) : SinDespacho (escritores.set i l') := by
  intro j pid there
  exact set_cases (P := fun _ k => k ≠ [OP_EJECUTAR_PROCESO,pid]) here (other pid)
    (fun j k there _ same => none_sends j pid (by rw [there,same])) there rfl

theorem despacha_start {pid : Entero} (none_sends : SinDespacho escritores) (here : escritores[i]? = some l) :
    Despacha (escritores.set i [OP_EJECUTAR_PROCESO,pid]) i := by
  refine ⟨⟨pid,set_self here⟩,fun j pid' there => ?_⟩
  exact set_cases (P := fun j k => k = [OP_EJECUTAR_PROCESO,pid'] → j = i) here (fun _ => rfl)
    (fun j k there _ same => absurd (by rw [there,same]) (none_sends j pid')) there rfl

theorem despacha_set {k : Nat} (one_sends : Despacha escritores k) (here : escritores[i]? = some l)
    (before : ∀ pid, l ≠ [OP_EJECUTAR_PROCESO,pid]) (other : ∀ pid, l' ≠ [OP_EJECUTAR_PROCESO,pid]) :
    Despacha (escritores.set i l') k := by
  obtain ⟨⟨pid,sends⟩,only⟩ := one_sends
  have apart : k ≠ i := by
    rintro rfl
    rw [sends] at here
    cases here
    exact before pid rfl
  refine ⟨⟨pid,by rw [set_other apart]; exact sends⟩,fun j pid' there => ?_⟩
  exact set_cases (P := fun j k' => k' = [OP_EJECUTAR_PROCESO,pid'] → j = k) here (fun same => absurd same (other pid'))
    (fun j k' there _ same => only j pid' (by rw [there,same])) there rfl

/-- The thread that sends has sent: nobody is about to. -/
theorem despacha_done {k : Nat} (one_sends : Despacha escritores k) (here : escritores[k]? = some l)
    (other : ∀ pid, l' ≠ [OP_EJECUTAR_PROCESO,pid]) : SinDespacho (escritores.set k l') := by
  intro j pid there
  exact set_cases (P := fun _ k' => k' ≠ [OP_EJECUTAR_PROCESO,pid]) here (other pid)
    (fun j k' there apart same => apart (one_sends.2 j pid (by rw [there,same]))) there rfl

end Escritores

theorem interrumpir_ne_ejecutar : OP_INTERRUMPIR_PROCESO ≠ OP_EJECUTAR_PROCESO := by decide

theorem empieza_en_turno {s : Sistema} {i : Nat} {op pid : Entero} {libre reservada : Bool} (held : EnTurno s)
    (here : s.escritores[i]? = some []) (known : (mensaje_de [op,pid]).isSome)
    (turn : ∀ m, Turno s m → Turno { s with libre := libre, reservada := reservada, escritores := s.escritores.set i [op,pid] } m) :
    EnTurno { s with libre := libre, reservada := reservada, escritores := s.escritores.set i [op,pid] } := by
  obtain ⟨cola,resto,rest,stream,sent,now,shape⟩ := held
  refine ⟨cola,resto,resto_set rest here (by simp) (by simp),stream,sent,turn _ now,fun j l there => ?_⟩
  exact set_cases (P := fun _ k => Formado k) here ⟨by simp,fun _ => known⟩ (fun j k there _ => shape j k there) there

theorem despacha_en_turno {s t : Sistema} {pid : Entero} (held : EnTurno s) (moved : paso (.despacha pid) s = some t) :
    EnTurno t := by
  simp only [paso,Option.ite_none_right_eq_some,Option.some.injEq] at moved
  obtain ⟨⟨free,here⟩,rfl⟩ := moved
  refine empieza_en_turno held here rfl (fun m turn => ?_)
  cases turn with
  | libre mode idle heard _ kept sends => exact .despacha 0 mode idle heard rfl kept (despacha_start sends here)
  | reservada _ _ _ taken | despacha _ _ _ _ taken | corre _ _ _ taken | termina _ _ _ _ _ taken | libera _ _ _ taken
  | llama _ _ _ _ _ taken | atiende _ _ _ _ _ taken | callado _ _ _ _ taken => rw [taken] at free; cases free

theorem fin_compactacion_en_turno {s t : Sistema} {pid : Entero} (held : EnTurno s)
    (moved : paso (.fin_compactacion pid) s = some t) : EnTurno t := by
  simp only [paso,Option.ite_none_right_eq_some,Option.some.injEq] at moved
  obtain ⟨⟨kept,here⟩,rfl⟩ := moved
  refine empieza_en_turno held here rfl (fun m turn => ?_)
  cases turn with
  | reservada mode idle heard free _ sends => exact .despacha 1 mode idle heard free rfl (despacha_start sends here)
  | libre _ _ _ _ taken | despacha _ _ _ _ _ taken | corre _ _ _ _ taken | termina _ _ _ _ _ _ taken | libera _ _ _ _ taken
  | llama _ _ _ _ _ _ taken | atiende _ _ _ _ _ _ taken | callado _ _ _ _ _ taken => rw [taken] at kept; cases kept

theorem interrumpe_en_turno {s t : Sistema} {i : Nat} {pid : Entero} (held : EnTurno s)
    (moved : paso (.interrumpe i pid) s = some t) : EnTurno t := by
  simp only [paso,Option.ite_none_right_eq_some,Option.some.injEq] at moved
  obtain ⟨⟨_,here⟩,rfl⟩ := moved
  have other (pid' : Entero) : [OP_INTERRUMPIR_PROCESO,pid] ≠ [OP_EJECUTAR_PROCESO,pid'] :=
    fun same => interrumpir_ne_ejecutar (List.cons.inj same).1
  exact empieza_en_turno held here rfl (fun m turn => turno_frame turn rfl rfl rfl rfl
    (fun sends => sin_despacho_set sends here other)
    (fun k sends => despacha_set sends here (fun _ same => by cases same) other))

/-- The rest of the message that a thread has begun is the only thing still to be sent of it. -/
theorem resto_finish {escritores : List (List Entero)} {i : Nat} {v : Entero} {resto : List Entero}
    (rest : Resto escritores resto) (here : escritores[i]? = some [v]) : resto = [v] ∧ Resto (escritores.set i []) [] := by
  rcases rest with ⟨_,quiet⟩ | ⟨k,w,left,half,only⟩
  · exact absurd here (quiet i v)
  · obtain rfl := only i v here
    rw [half] at here
    cases here
    refine ⟨left,.inl ⟨rfl,fun j w there => ?_⟩⟩
    exact set_cases (P := fun _ k => k ≠ [w]) half (fun same => by cases same)
      (fun j k there apart same => apart (only j w (by rw [there,same]))) there rfl

theorem resto_quiet {escritores : List (List Entero)} {resto : List Entero} (rest : Resto escritores resto)
    (whole : ∀ l ∈ escritores, ¬ a_medias l) : resto = [] := by
  rcases rest with ⟨none_left,_⟩ | ⟨k,w,_,half,_⟩
  · exact none_left
  · exact absurd (by rfl) (whole [w] (List.mem_of_getElem? half))

theorem resto_start {escritores : List (List Entero)} {i : Nat} {op pid : Entero} {resto : List Entero}
    (rest : Resto escritores resto) (here : escritores[i]? = some [op,pid])
    (others : ∀ j < escritores.length, j ≠ i → ¬ a_medias (escritores[j]?.getD [])) :
    resto = [] ∧ Resto (escritores.set i [pid]) [pid] := by
  have quiet (j : Nat) (w : Entero) : escritores[j]? ≠ some [w] := by
    intro there
    by_cases same : j = i
    · subst same
      rw [there] at here
      cases here
    · refine others j (List.getElem?_eq_some_iff.mp there).1 same ?_
      rw [there]; rfl
  refine ⟨?_,.inr ⟨i,pid,rfl,set_self here,fun j w there => ?_⟩⟩
  · rcases rest with ⟨none_left,_⟩ | ⟨k,w,_,half,_⟩
    · exact none_left
    · exact absurd half (quiet k w)
  · exact set_cases (P := fun j k => k = [w] → j = i) here (fun _ => rfl)
      (fun j k there _ same => absurd (by rw [there,same]) (quiet j w)) there rfl

theorem mensaje_enteros {op pid : Entero} {x : Mensaje} (meant : mensaje_de [op,pid] = some x) : x.enteros = [op,pid] := by
  simp only [mensaje_de] at meant
  split_ifs at meant with run stop
  · cases meant; rw [run]; rfl
  · cases meant; rw [stop]; rfl

/-- The message that a thread begins to send puts the conversation where the turn says. -/
theorem turno_envia {s t : Sistema} {i : Nat} {op pid : Entero} {x : Mensaje} {m : Modo} (turn : Turno s m)
    (here : s.escritores[i]? = some [op,pid]) (meant : mensaje_de [op,pid] = some x)
    (same : t.manejador = s.manejador ∧ t.a_ks = s.a_ks ∧ t.libre = s.libre ∧ t.reservada = s.reservada)
    (sent : t.escritores = s.escritores.set i [pid]) : Turno t (asentar m x) := by
  have short (pid' : Entero) : [pid] ≠ [OP_EJECUTAR_PROCESO,pid'] := fun same => by cases same
  simp only [mensaje_de] at meant
  split_ifs at meant with run stop
  · cases meant
    subst run
    cases turn with
    | despacha k mode idle heard free kept sends =>
      obtain rfl := sends.2 i pid here
      subst mode
      refine .corre rfl (same.1.trans idle) (same.2.1.trans heard) (same.2.2.1.trans free) (same.2.2.2.trans kept) ?_
      rw [sent]
      exact despacha_done sends here short
    | libre _ _ _ _ _ sends | reservada _ _ _ _ _ sends | corre _ _ _ _ _ sends | termina _ _ _ _ _ _ _ sends
    | libera _ _ _ _ _ sends | llama _ _ _ _ _ _ _ sends | atiende _ _ _ _ _ _ _ sends
    | callado _ _ _ _ _ _ sends => exact absurd here (sends i pid)
  · cases meant
    have other (pid' : Entero) : [op,pid] ≠ [OP_EJECUTAR_PROCESO,pid'] := fun same => run (List.cons.inj same).1
    have unmoved : asentar m (.interrumpir pid) = m := by cases m <;> rfl
    rw [unmoved]
    refine turno_frame turn same.1 same.2.1 same.2.2.1 same.2.2.2 ?_ ?_ <;> rw [sent]
    · exact fun sends => sin_despacho_set sends here short
    · exact fun k sends => despacha_set sends here other short

theorem envia_en_turno {s t : Sistema} {i : Nat} (held : EnTurno s) (uncut : SinCortar (.envia i) s)
    (moved : paso (.envia i) s = some t) : EnTurno t := by
  obtain ⟨cola,resto,rest,stream,sent,turn,shape⟩ := held
  simp only [paso,enviar_entero] at moved
  split at moved
  case h_2 => cases moved
  case h_1 v faltan here =>
    cases moved
    have shape' (l' : List Entero) (short : l'.length < 2) (j : Nat) (l : List Entero)
        (there : (s.escritores.set i l')[j]? = some l) : Formado l :=
      set_cases (P := fun _ k => Formado k) here ⟨by omega,fun two => by omega⟩ (fun j k there _ => shape j k there) there
    cases faltan with
    | nil =>
      obtain ⟨rfl,rest'⟩ := resto_finish rest here
      refine ⟨cola,[],rest',by rw [← stream]; simp,by simpa [mensaje_de] using sent,?_,shape' [] (by simp)⟩
      refine turno_frame turn rfl rfl rfl rfl (fun sends => sin_despacho_set sends here (fun _ same => by cases same)) ?_
      exact fun k sends => despacha_set sends here (fun _ same => by cases same) (fun _ same => by cases same)
    | cons pid more =>
      obtain rfl : more = [] := by
        refine List.length_eq_zero_iff.mp ?_
        have two := (shape i _ here).1
        simp only [List.length_cons] at two
        omega
      obtain ⟨x,meant⟩ := Option.isSome_iff_exists.mp ((shape i _ here).2 rfl)
      obtain ⟨rfl,rest'⟩ := resto_start rest here uncut
      refine ⟨cola ++ [x],[pid],rest',?_,?_,?_,shape' [pid] (by simp)⟩
      · rw [List.append_nil] at stream
        rw [List.flatMap_append,← stream,List.flatMap_singleton,mensaje_enteros meant]
        simp
      · show s.enviados ++ (mensaje_de [v,pid]).toList = _
        rw [meant,sent,List.append_assoc]; rfl
      · rw [asentado_append]
        exact turno_envia turn here meant ⟨rfl,rfl,rfl,rfl⟩ rfl

/-! ## The thread that serves the CPU -/

theorem responde_en_turno {s t : Sistema} {v : Entero} (held : EnTurno s) (uncut : SinCortar (.responde v) s)
    (moved : paso (.responde v) s = some t) : EnTurno t := by
  obtain ⟨cola,resto,rest,stream,sent,turn,shape⟩ := held
  simp only [paso,responder] at moved
  split at moved
  case h_2 => cases moved
  case h_1 n tipo serving =>
    simp only [Option.ite_none_right_eq_some,Option.some.injEq] at moved
    obtain ⟨admitted,rfl⟩ := moved
    obtain rfl := resto_quiet rest uncut
    refine ⟨cola ++ [.respuesta n v],[],rest,?_,?_,?_,shape⟩
    · rw [List.flatMap_append,← stream]; simp [Mensaje.enteros]
    · show s.enviados ++ [_] = _
      rw [sent,List.append_assoc]
    · rw [asentado_append]
      cases turn with
      | libre _ idle | reservada _ idle | despacha _ _ idle | corre _ idle | termina _ _ idle | libera _ idle
      | llama _ _ _ idle | callado _ _ idle => rw [idle] at serving; cases serving
      | atiende n' tipo' mode here heard free kept sends =>
        rw [here] at serving
        cases serving
        rw [mode]
        have next : asentar (.espera n tipo) (.respuesta n v) = if v = OP_BLOQUEADO then .principal else .corre :=
          if_pos ⟨rfl,admitted⟩
        rw [next]
        by_cases blocked : v = OP_BLOQUEADO
        · subst blocked
          by_cases waits : tipo = .mem_alloc
          · exact .reservada (if_pos rfl) (if_neg (fun both => both.2 waits)) heard free (by simp [waits]) sends
          · exact .libera (if_pos rfl) (if_pos ⟨rfl,waits⟩) heard free (by simp [waits,kept]) sends
        · exact .corre (if_neg blocked) (if_neg (fun both => blocked both.1)) heard free (by simp [blocked,kept]) sends

theorem recibe_en_turno {s t : Sistema} (held : EnTurno s) (moved : paso .recibe s = some t) : EnTurno t := by
  obtain ⟨cola,resto,rest,stream,sent,turn,shape⟩ := held
  simp only [paso] at moved
  have heard_some (heard : s.a_ks = []) : False := by
    cases at_work : s.manejador <;> simp [at_work,heard] at moved
  cases turn with
  | libre _ _ heard | reservada _ _ heard | despacha _ _ _ heard | corre _ _ heard | callado _ _ _ heard | libera _ _ heard
  | atiende _ _ _ _ heard => exact (heard_some heard).elim
  | termina a mode idle heard kind free kept sends =>
    simp only [idle,heard] at moved
    rcases kind with rfl | rfl <;> cases moved <;>
      exact ⟨cola,resto,rest,stream,sent,.libera mode rfl rfl free kept sends,shape⟩
  | llama n tipo mode idle heard free kept sends =>
    simp only [idle,heard] at moved
    cases moved
    exact ⟨cola,resto,rest,stream,sent,.atiende n tipo mode rfl rfl free kept sends,shape⟩

theorem libera_en_turno {s t : Sistema} (held : EnTurno s) (moved : paso .libera s = some t) : EnTurno t := by
  obtain ⟨cola,resto,rest,stream,sent,turn,shape⟩ := held
  simp only [paso] at moved
  split at moved
  case h_2 => cases moved
  case h_1 leaving =>
    cases moved
    cases turn with
    | libera mode _ heard free kept sends => exact ⟨cola,resto,rest,stream,sent,.libre mode rfl heard rfl kept sends,shape⟩
    | libre _ idle | reservada _ idle | despacha _ _ idle | corre _ idle | termina _ _ idle | atiende _ _ _ idle
    | llama _ _ _ idle | callado _ _ idle => rw [idle] at leaving; cases leaving

theorem ignora_en_turno {s t : Sistema} (held : EnTurno s) (moved : paso .ignora s = some t) : EnTurno t := by
  obtain ⟨cola,resto,rest,stream,sent,turn,shape⟩ := held
  simp only [paso] at moved
  split at moved
  case h_1 => cases moved
  case h_2 busy =>
    cases moved
    cases turn with
    | libera mode _ heard free kept sends =>
      exact ⟨cola,resto,rest,stream,sent,.callado (by rw [mode]; exact fun same => by cases same)
        (by rw [mode]; exact fun same => by cases same) rfl heard free kept sends,shape⟩
    | atiende n tipo mode _ heard free kept sends =>
      exact ⟨cola,resto,rest,stream,sent,.callado (by rw [mode]; exact fun same => by cases same)
        (by rw [mode]; exact fun same => by cases same) rfl heard free kept sends,shape⟩
    | libre _ idle | reservada _ idle | despacha _ _ idle | corre _ idle | termina _ _ idle
    | llama _ _ _ idle | callado _ _ idle => exact absurd idle busy

/-! ## The CPU -/

/-- While a process runs, only interrupts are on their way: they move nobody. -/
theorem asentado_corre {cola : List Mensaje} (sound : asentado .corre cola ≠ .roto) (m : Modo) : asentado m cola = m := by
  induction cola generalizing m with
  | nil => rfl
  | cons x cola ih =>
    cases x with
    | interrumpir pid =>
      have unmoved (m : Modo) : asentar m (.interrumpir pid) = m := by cases m <;> rfl
      rw [asentado_cons,unmoved] at sound ⊢
      exact ih sound m
    | _ => exact absurd (asentado_roto cola) sound

/-- Something is on its way when the stream holds an int. -/
theorem cola_cons {cola : List Mensaje} {v : Entero} {rest : List Entero} (stream : v :: rest = cola.flatMap Mensaje.enteros) :
    ∃ x cola', cola = x :: cola' ∧ v :: rest = x.enteros ++ cola'.flatMap Mensaje.enteros := by
  cases cola with
  | nil => cases stream
  | cons x cola' => exact ⟨x,cola',rfl,stream⟩

/-- The process leaves the CPU by an error, an eviction or its end: the CPU says so. -/
theorem turno_fin {s t : Sistema} {cola : List Mensaje} {a : Aviso} (turn : Turno s (asentado .corre cola))
    (kind : a = .fin ∨ a = .io)
    (same : t.manejador = s.manejador ∧ t.libre = s.libre ∧ t.reservada = s.reservada ∧ t.escritores = s.escritores)
    (said : t.a_ks = s.a_ks ++ [a]) : Turno t (asentado .principal cola) := by
  have sound := turno_sound turn
  rw [asentado_corre sound] at turn
  rw [asentado_corre sound]
  obtain ⟨manejador,libre,reservada,escritores⟩ := same
  cases turn with
  | corre _ idle heard free kept sends =>
    refine .termina a rfl (manejador.trans idle) (by rw [said,heard]; rfl) kind (libre.trans free) (reservada.trans kept) ?_
    rwa [escritores]
  | libre mode | reservada mode | despacha _ mode | termina _ mode | libera mode | llama _ _ mode | atiende _ _ mode =>
    cases mode
  | callado still => exact absurd rfl still

/-- What the reading of a message whole does to the rest of the invariant. -/
theorem leido_en_turno {s t : Sistema} {x : Mensaje} {cola : List Mensaje} {resto : List Entero}
    (rest : Resto s.escritores resto) (stream : empezado t.cpu ++ t.canal ++ resto = cola.flatMap Mensaje.enteros)
    (sent : s.enviados = s.leidos ++ x :: cola) (shape : ∀ (i : Nat) (l : List Entero), s.escritores[i]? = some l → Formado l)
    (same : t.escritores = s.escritores ∧ t.enviados = s.enviados) (read : t.leidos = s.leidos ++ [x])
    (turn : Turno t (asentado (modo t.cpu) cola)) : EnTurno t := by
  refine ⟨cola,resto,by rwa [same.1],stream,?_,turn,by rwa [same.1]⟩
  rw [same.2,sent,read,List.append_assoc]; rfl

theorem main_loop_en_turno {s t : Sistema} (held : EnTurno s) (here : s.cpu = .principal)
    (moved : main_loop s = some t) : EnTurno t := by
  obtain ⟨cola,resto,rest,stream,sent,turn,shape⟩ := held
  rw [here] at stream turn
  have sound := turno_sound turn
  simp only [main_loop] at moved
  cases arrived : s.canal with
  | nil => simp only [arrived] at moved; cases moved
  | cons v canal =>
    simp only [arrived,Option.some.injEq] at moved
    rw [arrived] at stream
    obtain ⟨x,cola',rfl,front⟩ := cola_cons stream
    cases x with
    | interrumpir pid =>
      obtain ⟨rfl,-⟩ := List.cons.inj front
      rw [if_pos rfl] at moved
      subst moved
      exact ⟨_,resto,rest,stream,sent,turno_frame turn rfl rfl rfl rfl id (fun _ => id),shape⟩
    | ejecutar pid =>
      obtain ⟨rfl,-⟩ := List.cons.inj front
      rw [if_neg interrumpir_ne_ejecutar.symm,if_pos rfl] at moved
      subst moved
      exact ⟨_,resto,rest,stream,sent,turno_frame turn rfl rfl rfl rfl id (fun _ => id),shape⟩
    | respuesta n v => exact absurd rfl (head_sound sound)
    | suelto v => exact absurd rfl (head_sound sound)

theorem recibir_respuesta_en_turno {s t : Sistema} {pid : Entero} {n : Nat} {tipo : Tipo} (held : EnTurno s)
    (here : s.cpu = .recibir_respuesta pid n tipo) (moved : recibir_respuesta_scheduler pid n tipo s = some t) : EnTurno t := by
  obtain ⟨cola,resto,rest,stream,sent,turn,shape⟩ := held
  rw [here] at stream turn
  have sound := turno_sound turn
  simp only [recibir_respuesta_scheduler] at moved
  cases arrived : s.canal with
  | nil => simp only [arrived] at moved; cases moved
  | cons v canal =>
    simp only [arrived] at moved
    rw [arrived] at stream
    obtain ⟨x,cola',rfl,front⟩ := cola_cons stream
    cases x with
    | interrumpir pid' =>
      obtain ⟨rfl,-⟩ := List.cons.inj front
      rw [if_pos rfl] at moved
      cases moved
      exact ⟨_,resto,rest,stream,sent,turno_frame turn rfl rfl rfl rfl id (fun _ => id),shape⟩
    | ejecutar pid => exact absurd rfl (head_sound sound)
    | suelto v => exact absurd rfl (head_sound sound)
    | respuesta n' v' =>
      obtain ⟨rfl,tail⟩ := List.cons.inj front
      have expected : n' = n ∧ admite tipo v := by
        by_contra unexpected
        exact head_sound sound (if_neg unexpected)
      have next : asentar (.espera n tipo) (.respuesta n' v) = if v = OP_BLOQUEADO then .principal else .corre := if_pos expected
      obtain ⟨rfl,admitted⟩ := expected
      have answer : v = OP_OK ∨ v = OP_ERROR ∨ (tipo.bloquea ∧ v = OP_BLOQUEADO) := by simpa [admite] using admitted
      change Turno s (asentado (asentar (.espera n' tipo) _) cola') at turn
      rw [next] at turn
      rcases answer with rfl | rfl | ⟨blocks,rfl⟩
      · cases moved
        exact leido_en_turno rest tail sent shape ⟨rfl,rfl⟩ rfl (turno_frame turn rfl rfl rfl rfl id (fun _ => id))
      · rw [if_neg (show ¬ OP_ERROR = OP_INTERRUMPIR_PROCESO by decide),if_neg (show ¬ OP_ERROR = OP_OK by decide),
          if_neg (fun both => absurd both.2 (show ¬ OP_ERROR = OP_BLOQUEADO by decide))] at moved
        cases moved
        exact leido_en_turno rest tail sent shape ⟨rfl,rfl⟩ rfl (turno_fin turn (.inl rfl) ⟨rfl,rfl,rfl,rfl⟩ rfl)
      · rw [if_neg (show ¬ OP_BLOQUEADO = OP_INTERRUMPIR_PROCESO by decide),if_neg (show ¬ OP_BLOQUEADO = OP_OK by decide),
          if_pos ⟨blocks,rfl⟩] at moved
        cases moved
        exact leido_en_turno rest tail sent shape ⟨rfl,rfl⟩ rfl (turno_frame turn rfl rfl rfl rfl id (fun _ => id))

/-- The message whose code the CPU has is an interrupt, but in the main loop it may be a process. -/
theorem empezado_interrumpir {m : Modo} {cola : List Mensaje} {v : Entero} {rest : List Entero}
    (sound : asentado m cola ≠ .roto) (stream : OP_INTERRUMPIR_PROCESO :: v :: rest = cola.flatMap Mensaje.enteros) :
    ∃ cola', cola = .interrumpir v :: cola' ∧ rest = cola'.flatMap Mensaje.enteros ∧ asentado m cola = asentado m cola' := by
  obtain ⟨x,cola',rfl,front⟩ := cola_cons stream
  cases x with
  | interrumpir pid =>
    obtain ⟨-,front⟩ := List.cons.inj front
    obtain ⟨rfl,tail⟩ := List.cons.inj front
    have unmoved : asentar m (.interrumpir v) = m := by cases m <;> rfl
    exact ⟨cola',rfl,tail,by rw [asentado_cons,unmoved]⟩
  | ejecutar pid => exact absurd (List.cons.inj front).1 interrumpir_ne_ejecutar
  | suelto w => cases m <;> exact absurd rfl (head_sound sound)
  | respuesta n w =>
    obtain ⟨rfl,-⟩ := List.cons.inj front
    cases m with
    | espera n' tipo =>
      refine absurd (if_neg ?_) (head_sound sound)
      rintro ⟨-,admitted⟩
      simp [admite] at admitted
      rcases admitted with same | same | ⟨-,same⟩ <;> exact absurd same (by decide)
    | _ => exact absurd rfl (head_sound sound)

theorem recibir_pid_en_turno {s t : Sistema} (held : EnTurno s) (moved : recibir_pid s = some t) : EnTurno t := by
  obtain ⟨cola,resto,rest,stream,sent,turn,shape⟩ := held
  have sound := turno_sound turn
  simp only [recibir_pid] at moved
  cases arrived : s.canal with
  | nil => simp only [arrived] at moved; cases moved
  | cons v canal =>
    simp only [arrived] at moved
    rw [arrived] at stream
    cases here : s.cpu with
    | principal | ejecuta _ | check_interrupt _ | recibir_respuesta _ _ _ => simp only [here] at moved; cases moved
    | principal_interrumpir =>
      simp only [here,Option.some.injEq] at moved stream turn sound
      subst moved
      obtain ⟨cola',rfl,tail,same⟩ := empezado_interrumpir sound stream
      rw [same] at turn
      exact leido_en_turno rest tail sent shape ⟨rfl,rfl⟩ rfl (turno_frame turn rfl rfl rfl rfl id (fun _ => id))
    | recibir_respuesta_pid pid n tipo =>
      simp only [here,Option.some.injEq] at moved stream turn sound
      subst moved
      obtain ⟨cola',rfl,tail,same⟩ := empezado_interrumpir sound stream
      rw [same] at turn
      exact leido_en_turno rest tail sent shape ⟨rfl,rfl⟩ rfl (turno_frame turn rfl rfl rfl rfl id (fun _ => id))
    | check_interrupt_pid pid =>
      simp only [here,Option.some.injEq] at moved stream turn sound
      obtain ⟨cola',rfl,tail,same⟩ := empezado_interrumpir sound stream
      rw [same] at turn
      split_ifs at moved <;> subst moved
      · exact leido_en_turno rest tail sent shape ⟨rfl,rfl⟩ rfl (turno_fin turn (.inl rfl) ⟨rfl,rfl,rfl,rfl⟩ rfl)
      · exact leido_en_turno rest tail sent shape ⟨rfl,rfl⟩ rfl (turno_frame turn rfl rfl rfl rfl id (fun _ => id))
    | principal_ejecutar =>
      simp only [here,Option.some.injEq] at moved stream turn sound
      subst moved
      obtain ⟨x,cola',rfl,front⟩ := cola_cons stream
      cases x with
      | ejecutar pid =>
        obtain ⟨-,front⟩ := List.cons.inj front
        obtain ⟨rfl,tail⟩ := List.cons.inj front
        exact leido_en_turno rest tail sent shape ⟨rfl,rfl⟩ rfl (turno_frame turn rfl rfl rfl rfl id (fun _ => id))
      | interrumpir pid => exact absurd (List.cons.inj front).1.symm interrumpir_ne_ejecutar
      | suelto w => exact absurd rfl (head_sound sound)
      | respuesta n w => exact absurd rfl (head_sound sound)

theorem check_interrupt_en_turno {s : Sistema} {pid : Entero} {llego : Bool} (held : EnTurno s)
    (here : s.cpu = .check_interrupt pid) : EnTurno (CpuSocket.check_interrupt pid llego s) := by
  obtain ⟨cola,resto,rest,stream,sent,turn,shape⟩ := held
  rw [here] at stream turn
  have sound := turno_sound turn
  unfold CpuSocket.check_interrupt
  dsimp only
  split_ifs
  · exact ⟨cola,resto,rest,stream,sent,turno_fin turn (.inl rfl) ⟨rfl,rfl,rfl,rfl⟩ rfl,shape⟩
  · exact ⟨cola,resto,rest,stream,sent,turno_frame turn rfl rfl rfl rfl id (fun _ => id),shape⟩
  · split
    · rename_i v canal arrived
      rw [arrived] at stream
      obtain ⟨x,cola',rfl,front⟩ := cola_cons stream
      cases x with
      | interrumpir pid' =>
        obtain ⟨rfl,-⟩ := List.cons.inj front
        rw [if_pos rfl]
        exact ⟨_,resto,rest,stream,sent,turno_frame turn rfl rfl rfl rfl id (fun _ => id),shape⟩
      | _ => exact absurd rfl (head_sound sound)
    · exact ⟨cola,resto,rest,stream,sent,turno_frame turn rfl rfl rfl rfl id (fun _ => id),shape⟩

theorem instruccion_en_turno {s : Sistema} {pid : Entero} (instruccion : Instruccion) (held : EnTurno s)
    (here : s.cpu = .ejecuta pid) : EnTurno (ejecutar_instruccion pid instruccion s) := by
  obtain ⟨cola,resto,rest,stream,sent,turn,shape⟩ := held
  rw [here] at stream turn
  have sound := turno_sound turn
  cases instruccion with
  | comun => exact ⟨cola,resto,rest,stream,sent,turno_frame turn rfl rfl rfl rfl id (fun _ => id),shape⟩
  | fin => exact ⟨cola,resto,rest,stream,sent,turno_fin turn (.inl rfl) ⟨rfl,rfl,rfl,rfl⟩ rfl,shape⟩
  | io => exact ⟨cola,resto,rest,stream,sent,turno_fin turn (.inr rfl) ⟨rfl,rfl,rfl,rfl⟩ rfl,shape⟩
  | llamada tipo =>
    refine ⟨cola,resto,rest,stream,sent,?_,shape⟩
    rw [asentado_corre sound] at turn
    cases turn with
    | corre _ idle heard free kept sends =>
      refine .llama s.llamadas tipo (asentado_corre sound _) idle ?_ free kept sends
      show s.a_ks ++ [_] = _
      rw [heard]; rfl
    | libre mode | reservada mode | despacha _ mode | termina _ mode | libera mode | llama _ _ mode | atiende _ _ mode =>
      cases mode
    | callado still => exact absurd rfl still

/-! ## Runs -/

theorem paso_en_turno : Preserved paso SinCortar EnTurno := by
  intro e s t held uncut moved
  cases e with
  | despacha pid => exact despacha_en_turno held moved
  | fin_compactacion pid => exact fin_compactacion_en_turno held moved
  | interrumpe i pid => exact interrumpe_en_turno held moved
  | envia i => exact envia_en_turno held uncut moved
  | recibe => exact recibe_en_turno held moved
  | responde v => exact responde_en_turno held uncut moved
  | libera => exact libera_en_turno held moved
  | ignora => exact ignora_en_turno held moved
  | cpu_recibe =>
    simp only [paso] at moved
    split at moved
    · exact main_loop_en_turno held ‹_› moved
    · exact recibir_respuesta_en_turno held ‹_› moved
    · cases moved
    · cases moved
    · exact recibir_pid_en_turno held moved
  | cpu_revisa llego =>
    simp only [paso] at moved
    split at moved
    · cases moved; exact check_interrupt_en_turno held ‹_›
    · cases moved
  | cpu_instruccion instruccion =>
    simp only [paso] at moved
    split at moved
    · cases moved; exact instruccion_en_turno instruccion held ‹_›
    · cases moved

theorem inicio_en_turno (otros : Nat) : EnTurno (inicio otros) := by
  have quiet {i : Nat} {l : List Entero} (here : (inicio otros).escritores[i]? = some l) : l = [] :=
    (List.mem_replicate.mp (List.mem_of_getElem? here)).2
  refine ⟨[],[],.inl ⟨rfl,fun i v here => by cases quiet here⟩,rfl,rfl,.libre rfl rfl rfl rfl rfl
    (fun i pid here => by cases quiet here),fun i l here => ?_⟩
  rw [quiet here]
  exact ⟨by simp,(fun two => by cases two)⟩

/-- A process is sent to the CPU, locks a mutex, and is interrupted before it reads the answer. -/
def jornada : List Eleccion :=
  [.despacha 7,.envia 0,.cpu_recibe,.envia 0,.cpu_recibe,.cpu_instruccion (.llamada .mutex_lock),.recibe,.interrumpe 2 7,
    .envia 2,.envia 2,.responde OP_OK,.cpu_recibe,.cpu_recibe,.cpu_recibe,.cpu_revisa true]

/-- The quantum ends while the mutex is being given: the answer goes between the two ints of the
    interrupt, and is read as its pid. -/
def cortada : List Eleccion :=
  [.despacha 7,.envia 0,.envia 0,.cpu_recibe,.cpu_recibe,.cpu_instruccion (.llamada .mutex_lock),.recibe,.interrumpe 2 7,
    .envia 2,.responde OP_OK,.envia 2,.cpu_recibe,.cpu_recibe]

end PlugNPray.WholeMessages
