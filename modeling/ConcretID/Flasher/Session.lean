import ConcretID.Flasher.Serving

namespace concretid.flasher

open duplex memory

def Event.sent? : Event → Option (List UInt8)
  | .sent frame => some frame
  | _ => none

def Event.received? : Event → Option (List UInt8)
  | .received bytes => some bytes
  | _ => none

def Event.programmed? : Event → Option (Nat × List UInt8)
  | .programmed addr bytes => some (addr, bytes)
  | _ => none

def Event.shown : Event → Bool
  | .printf _ _ => true
  | .progress _ _ => true
  | _ => false

/-- The frames one side has sent. -/
def framesSent (log : List Event) : List (List UInt8) := log.filterMap Event.sent?

/-- The bytes each receive of one side has taken. -/
def framesReceived (log : List Event) : List (List UInt8) := log.filterMap Event.received?

/-- The calls of `write_flash_memory_block`: the address and the bytes. -/
def programmed (log : List Event) : List (Nat × List UInt8) := log.filterMap Event.programmed?

/-- What the host has printed. -/
def shown (log : List Event) : List Event := log.filter Event.shown

@[simp] theorem framesSent_append (a b : List Event) :
    framesSent (a ++ b) = framesSent a ++ framesSent b := List.filterMap_append

@[simp] theorem framesReceived_append (a b : List Event) :
    framesReceived (a ++ b) = framesReceived a ++ framesReceived b := List.filterMap_append

@[simp] theorem programmed_append (a b : List Event) :
    programmed (a ++ b) = programmed a ++ programmed b := List.filterMap_append

@[simp] theorem shown_append (a b : List Event) : shown (a ++ b) = shown a ++ shown b :=
  List.filter_append _ _

/-- Every receive of either side has taken exactly the frame the other side sent for
it. -/
structure Matched (hostLog deviceLog : List Event) : Prop where
  host : framesReceived hostLog = framesSent deviceLog
  device : framesReceived deviceLog = framesSent hostLog

theorem Matched.append {a b a' b' : List Event} (h : Matched a b) (h' : Matched a' b') :
    Matched (a ++ a') (b ++ b') := by
  constructor
  · rw [framesReceived_append, framesSent_append, h.host, h'.host]
  · rw [framesReceived_append, framesSent_append, h.device, h'.device]

/-- Host and device get from one point between two commands to another, every frame
taken whole; on the way the device programs `writes` and the host prints `prints`. -/
def Communicates {κ α : Type} (chip : Chip κ) (p : Proc UInt8 Event α) (d : Device κ)
    (q : Proc UInt8 Event α) (d' : Device κ) (writes : List (Nat × List UInt8))
    (prints : List Event) : Prop :=
  ∃ sending serving, Reaches (loop chip) p d q d' sending serving ∧ Matched sending serving ∧
    programmed serving = writes ∧ shown sending = prints

theorem Communicates.trans {κ α : Type} {chip : Chip κ} {p q r : Proc UInt8 Event α}
    {d e f : Device κ} {writes writes' : List (Nat × List UInt8)} {prints prints' : List Event}
    (hpq : Communicates chip p d q e writes prints)
    (hqr : Communicates chip q e r f writes' prints') :
    Communicates chip p d r f (writes ++ writes') (prints ++ prints') := by
  obtain ⟨sending, serving, hreach, hmatched, rfl, rfl⟩ := hpq
  obtain ⟨sending', serving', hreach', hmatched', rfl, rfl⟩ := hqr
  exact ⟨sending ++ sending', serving ++ serving', hreach.trans hreach',
    hmatched.append hmatched', programmed_append _ _, shown_append _ _⟩

/-- A session goes on in front of what the host does next. -/
theorem Communicates.before {κ α γ : Type} {chip : Chip κ} {p q : Proc UInt8 Event α}
    {d e : Device κ} {writes : List (Nat × List UInt8)} {prints : List Event}
    (h : Communicates chip p d q e writes prints) (f : α → Proc UInt8 Event γ) :
    Communicates chip (p >>= f) d (q >>= f) e writes prints := by
  obtain ⟨sending, serving, hreach, hlogs⟩ := h
  exact ⟨sending, serving, hreach.before f, hlogs⟩

theorem Communicates.bind {κ α γ : Type} {chip : Chip κ} {p : Proc UInt8 Event α} {a : α}
    {f : α → Proc UInt8 Event γ} {q : Proc UInt8 Event γ} {d e g : Device κ}
    {writes writes' : List (Nat × List UInt8)} {prints prints' : List Event}
    (hp : Communicates chip p d (.pure a) e writes prints)
    (hf : Communicates chip (f a) e q g writes' prints') :
    Communicates chip (p >>= f) d q g (writes ++ writes') (prints ++ prints') :=
  (hp.before f).trans hf

/-- What the host prints between two commands. -/
theorem Communicates.show {κ α : Type} {p q : Proc UInt8 Event α} {log : List Event}
    (h : Executes p [] q [] [] log) (hshown : shown log = log) (chip : Chip κ) (d : Device κ) :
    Communicates chip p d q d [] log := by
  have hsilent : ∀ e ∈ log, e.shown = true := List.filter_eq_self.mp hshown
  have hsent : framesSent log = [] := List.filterMap_eq_nil_iff.mpr fun e he => by
    have := hsilent e he
    cases e <;> trivial
  have hreceived : framesReceived log = [] := List.filterMap_eq_nil_iff.mpr fun e he => by
    have := hsilent e he
    cases e <;> trivial
  exact ⟨log, [], h.reaches (loop chip) d, ⟨hreceived, hsent.symm⟩, rfl, hshown⟩

theorem Communicates.refl {κ α : Type} (chip : Chip κ) (p : Proc UInt8 Event α) (d : Device κ) :
    Communicates chip p d p d [] [] :=
  .show (.refl _ _) rfl chip d

/-- The host's program against the Arduino, with nothing on the lines. -/
def session {κ : Type} (chip : Chip κ) (host : Proc UInt8 Event Unit) (d : Device κ) :
    Session UInt8 Event Unit (Device κ) :=
  resting (loop chip) host d [] []

theorem loop_waits {κ : Type} (chip : Chip κ) (d : Device κ) :
    ∃ next, loop chip d = .recv next :=
  ⟨_, rfl⟩

/-- A session that ends: in every order of steps it comes to the same end, with nothing
left on the lines. -/
theorem Communicates.leads {κ : Type} {chip : Chip κ} {host q : Proc UInt8 Event Unit}
    {d d' : Device κ} {writes : List (Nat × List UInt8)} {prints : List Event}
    (h : Communicates chip host d q d' writes prints) (hq : q.move [] = none) :
    ∃ clientLog serverLog,
      Leads (Step (loop chip)) (session chip host d)
        (resting (loop chip) q d' clientLog serverLog) ∧
      Matched clientLog serverLog ∧ programmed serverLog = writes ∧ shown clientLog = prints := by
  obtain ⟨sending, serving, hreach, hmatched, hwrites, hprints⟩ := h
  exact ⟨sending, serving, hreach.leads hq (loop_waits chip d') [] [], hmatched, hwrites, hprints⟩

theorem receberAck_executes (message : String) (x : List UInt8) :
    Executes (receberAck message) (comandoFrame CMD_SERIAL_ACK ++ x) (.pure ()) x []
      [.received (comandoFrame CMD_SERIAL_ACK)] := by
  apply (receberComando_executes .host CMD_SERIAL_ACK x).bind
  rw [if_neg (by decide)]
  exact .refl _ _

/-- A request answered in one pass of the device's loop. -/
theorem exchange {κ α : Type} {chip : Chip κ} {p q r : Proc UInt8 Event α} {d d' : Device κ}
    {request reply : List UInt8} {sending serving receiving : List Event}
    (hanswer : Answers (loop chip) d request d' reply serving)
    (hsend : Executes p [] q [] request sending)
    (hreceive : Executes q reply r [] [] receiving)
    (hmatched : Matched (sending ++ receiving) serving) :
    Communicates chip p d r d' (programmed serving) (shown (sending ++ receiving)) :=
  ⟨_, _, hanswer.reaches hsend hreceive, hmatched, rfl, rfl⟩

/-- A command sent and acknowledged. -/
theorem command_exchange {κ α : Type} {chip : Chip κ} {d d' : Device κ} {comando : UInt8}
    {serving : List Event}
    (hanswer : Answers (loop chip) d (comandoFrame comando) d' (comandoFrame CMD_SERIAL_ACK) serving)
    (hmatched : Matched [.sent (comandoFrame comando), .received (comandoFrame CMD_SERIAL_ACK)]
      serving)
    (message : String) (next : Proc UInt8 Event α) :
    Communicates chip
      (do
        enviarComando comando
        receberAck message
        next)
      d next d' (programmed serving) [] :=
  exchange hanswer ((enviarComando_executes comando []).before _)
    ((receberAck_executes message []).before fun _ => next) hmatched

/-- A command sent with its data, and whatever comes back. -/
theorem reply_exchange {κ α : Type} {chip : Chip κ} {d d' : Device κ} {comando : UInt8}
    {buffer : Nat → UInt8} {len : UInt16} {reply : List UInt8} {serving receiving : List Event}
    {next r : Proc UInt8 Event α}
    (hanswer : Answers (loop chip) d (comandoFrame comando ++ dadosFrame buffer len) d' reply
      serving)
    (hreceive : Executes next reply r [] [] receiving)
    (hmatched : Matched
      ([.sent (comandoFrame comando), .sent (dadosFrame buffer len)] ++ receiving) serving) :
    Communicates chip
      (do
        enviarComando comando
        enviarDados buffer len
        next)
      d r d' (programmed serving) (shown receiving) := by
  have hsend : Executes
      (do
        enviarComando comando
        enviarDados buffer len
        next)
      [] next [] (comandoFrame comando ++ dadosFrame buffer len)
      [.sent (comandoFrame comando), .sent (dadosFrame buffer len)] :=
    (enviarComando_executes comando []).bind
      ((enviarDados_executes buffer len []).before fun _ => next)
  exact exchange hanswer hsend hreceive hmatched

/-- A command sent with its data, and acknowledged. -/
theorem data_exchange {κ α : Type} {chip : Chip κ} {d d' : Device κ} {comando : UInt8}
    {buffer : Nat → UInt8} {len : UInt16} {serving : List Event}
    (hanswer : Answers (loop chip) d (comandoFrame comando ++ dadosFrame buffer len) d'
      (comandoFrame CMD_SERIAL_ACK) serving)
    (hmatched : Matched [.sent (comandoFrame comando), .sent (dadosFrame buffer len),
      .received (comandoFrame CMD_SERIAL_ACK)] serving)
    (message : String) (next : Proc UInt8 Event α) :
    Communicates chip
      (do
        enviarComando comando
        enviarDados buffer len
        receberAck message
        next)
      d next d' (programmed serving) [] :=
  reply_exchange hanswer ((receberAck_executes message []).before fun _ => next) hmatched

end concretid.flasher
