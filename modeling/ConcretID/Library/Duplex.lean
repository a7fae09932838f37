import Mathlib.Logic.Relation

namespace concretid.duplex

/-- A sequential program at one end of a line: it sends and receives single
symbols, records what it does, and ends with a value or leaves for good. -/
inductive Proc (β ε α : Type) where
  | pure (a : α)
  | send (b : β) (next : Proc β ε α)
  | recv (next : β → Proc β ε α)
  | emit (e : ε) (next : Proc β ε α)
  | exit

def Proc.bind {β ε α γ : Type} (p : Proc β ε α) (f : α → Proc β ε γ) : Proc β ε γ :=
  match p with
  | .pure a => f a
  | .send b next => .send b (next.bind f)
  | .recv next => .recv fun b => (next b).bind f
  | .emit e next => .emit e (next.bind f)
  | .exit => .exit

instance {β ε : Type} : Monad (Proc β ε) where
  pure := .pure
  bind := .bind

/-- Sends one symbol. -/
def write {β ε : Type} (b : β) : Proc β ε Unit := .send b (.pure ())

/-- Waits for one symbol. -/
def read {β ε : Type} : Proc β ε β := .recv .pure

/-- Records an event. -/
def record {β ε : Type} (e : ε) : Proc β ε Unit := .emit e (.pure ())

def writeAll {β ε : Type} : List β → Proc β ε Unit
  | [] => .pure ()
  | b :: rest => .send b (writeAll rest)

def recordAll {β ε : Type} : List ε → Proc β ε Unit
  | [] => .pure ()
  | e :: rest => .emit e (recordAll rest)

def readMany {β ε : Type} : Nat → Proc β ε (List β)
  | 0 => .pure []
  | n + 1 => do
    let b ← read
    let rest ← readMany n
    return b :: rest

/-- One step of one end: what is left of its program and of what has arrived for
it, what it sends and what it records. -/
def Proc.move {β ε α : Type} :
    Proc β ε α → List β → Option (Proc β ε α × List β × List β × List ε)
  | .pure _, _ => none
  | .send b next, arrived => some (next, arrived, [b], [])
  | .recv _, [] => none
  | .recv next, b :: arrived => some (next b, arrived, [], [])
  | .emit e next, arrived => some (next, arrived, [], [e])
  | .exit, _ => none

/-- What arrives later does not change a step. -/
theorem Proc.move_append {β ε α : Type} {p p' : Proc β ε α} {x x' out : List β} {log : List ε}
    (h : p.move x = some (p', x', out, log)) (later : List β) :
    p.move (x ++ later) = some (p', x' ++ later, out, log) := by
  cases p with
  | pure a => cases h
  | exit => cases h
  | send b next => cases h; rfl
  | emit e next => cases h; rfl
  | recv next =>
    cases x with
    | nil => cases h
    | cons b x => cases h; rfl

/-- A run of one end alone: it starts with what has arrived and leaves some of it,
sends `out` and records `log`. -/
inductive Executes {β ε α : Type} :
    Proc β ε α → List β → Proc β ε α → List β → List β → List ε → Prop where
  | refl (p : Proc β ε α) (x : List β) : Executes p x p x [] []
  | send {b : β} {next p : Proc β ε α} {x y out : List β} {log : List ε}
      (h : Executes next x p y out log) : Executes (.send b next) x p y (b :: out) log
  | recv {b : β} {next : β → Proc β ε α} {p : Proc β ε α} {x y out : List β} {log : List ε}
      (h : Executes (next b) x p y out log) : Executes (.recv next) (b :: x) p y out log
  | emit {e : ε} {next p : Proc β ε α} {x y out : List β} {log : List ε}
      (h : Executes next x p y out log) : Executes (.emit e next) x p y out (e :: log)

theorem Executes.trans {β ε α : Type} {p q r : Proc β ε α} {x y z out out' : List β}
    {log log' : List ε} (hpq : Executes p x q y out log) (hqr : Executes q y r z out' log') :
    Executes p x r z (out ++ out') (log ++ log') := by
  induction hpq with
  | refl p x => exact hqr
  | send _ ih => exact .send (ih hqr)
  | recv _ ih => exact .recv (ih hqr)
  | emit _ ih => exact .emit (ih hqr)

/-- A program runs in front of another one as it runs alone. -/
theorem Executes.before {β ε α γ : Type} {p q : Proc β ε α} {x y out : List β} {log : List ε}
    (h : Executes p x q y out log) (f : α → Proc β ε γ) :
    Executes (p >>= f) x (q >>= f) y out log := by
  induction h with
  | refl p x => exact .refl _ _
  | send _ ih => exact .send ih
  | recv _ ih => exact .recv ih
  | emit _ ih => exact .emit ih

/-- When a program has ended, the next one goes on with its value. -/
theorem Executes.bind {β ε α γ : Type} {p : Proc β ε α} {a : α} {f : α → Proc β ε γ}
    {q : Proc β ε γ} {x y z out out' : List β} {log log' : List ε}
    (hp : Executes p x (.pure a) y out log) (hf : Executes (f a) y q z out' log') :
    Executes (p >>= f) x q z (out ++ out') (log ++ log') :=
  (hp.before f).trans hf

theorem write_executes {β ε : Type} (b : β) (x : List β) :
    Executes (write b : Proc β ε Unit) x (.pure ()) x [b] [] :=
  .send (.refl _ _)

theorem read_executes {β ε : Type} (b : β) (x : List β) :
    Executes (read : Proc β ε β) (b :: x) (.pure b) x [] [] :=
  .recv (.refl _ _)

theorem record_executes {β ε : Type} (e : ε) (x : List β) :
    Executes (record e : Proc β ε Unit) x (.pure ()) x [] [e] :=
  .emit (.refl _ _)

theorem writeAll_executes {β ε : Type} (bs x : List β) :
    Executes (writeAll bs : Proc β ε Unit) x (.pure ()) x bs [] := by
  induction bs with
  | nil => exact .refl _ _
  | cons b bs ih => exact .send ih

theorem recordAll_executes {β ε : Type} (log : List ε) (x : List β) :
    Executes (recordAll log : Proc β ε Unit) x (.pure ()) x [] log := by
  induction log with
  | nil => exact .refl _ _
  | cons e log ih => exact .emit ih

theorem readMany_executes {β ε : Type} (bs x : List β) :
    Executes (readMany bs.length : Proc β ε (List β)) (bs ++ x) (.pure bs) x [] [] := by
  induction bs with
  | nil => exact .refl _ _
  | cons b bs ih => exact (read_executes b _).bind (ih.bind (.refl _ _))

/-- A client and a server at the two ends of a line, the symbols on their way in
each direction and what each end has recorded. -/
structure Session (β ε σ τ : Type) where
  client : Proc β ε σ
  server : Proc β ε τ
  request : List β
  reply : List β
  clientLog : List ε
  serverLog : List ε

/-- The two ends take their steps in any order. A server that has ended starts
over with what it ended with. -/
inductive Step {β ε σ τ : Type} (serve : τ → Proc β ε τ) :
    Session β ε σ τ → Session β ε σ τ → Prop where
  | client {s : Session β ε σ τ} {p : Proc β ε σ} {x out : List β} {log : List ε}
      (h : s.client.move s.reply = some (p, x, out, log)) :
      Step serve s
        { s with
          client := p
          reply := x
          request := s.request ++ out
          clientLog := s.clientLog ++ log }
  | server {s : Session β ε σ τ} {p : Proc β ε τ} {x out : List β} {log : List ε}
      (h : s.server.move s.request = some (p, x, out, log)) :
      Step serve s
        { s with
          server := p
          request := x
          reply := s.reply ++ out
          serverLog := s.serverLog ++ log }
  | again {s : Session β ε σ τ} {t : τ} (h : s.server = .pure t) :
      Step serve s { s with server := serve t }

/-- Two steps from one state are the same step, or each can be taken after the
other. -/
theorem Step.diamond {β ε σ τ : Type} {serve : τ → Proc β ε τ} {s t u : Session β ε σ τ}
    (ht : Step serve s t) (hu : Step serve s u) :
    t = u ∨ ∃ v, Step serve t v ∧ Step serve u v := by
  cases ht with
  | client ht =>
    cases hu with
    | client hu =>
      obtain ⟨rfl, rfl, rfl, rfl⟩ := by simpa using ht.symm.trans hu
      exact .inl rfl
    | server hu => exact .inr ⟨_, .server (Proc.move_append hu _), .client (Proc.move_append ht _)⟩
    | again hu => exact .inr ⟨_, .again hu, .client ht⟩
  | server ht =>
    cases hu with
    | client hu => exact .inr ⟨_, .client (Proc.move_append hu _), .server (Proc.move_append ht _)⟩
    | server hu =>
      obtain ⟨rfl, rfl, rfl, rfl⟩ := by simpa using ht.symm.trans hu
      exact .inl rfl
    | again hu =>
      rw [hu] at ht
      cases ht
  | again ht =>
    cases hu with
    | client hu => exact .inr ⟨_, .client hu, .again ht⟩
    | server hu =>
      rw [ht] at hu
      cases hu
    | again hu =>
      obtain rfl := by simpa using ht.symm.trans hu
      exact .inl rfl

/-- Runs with their number of steps. -/
inductive Steps {σ : Type} (r : σ → σ → Prop) : Nat → σ → σ → Prop where
  | refl (s : σ) : Steps r 0 s s
  | head {n : Nat} {s t u : σ} (hst : r s t) (htu : Steps r n t u) : Steps r (n + 1) s u

theorem exists_steps {σ : Type} {r : σ → σ → Prop} {s t : σ} (h : Relation.ReflTransGen r s t) :
    ∃ n, Steps r n s t := by
  induction h using Relation.ReflTransGen.head_induction_on with
  | refl => exact ⟨0, .refl _⟩
  | head hst _ ih =>
    obtain ⟨n, hn⟩ := ih
    exact ⟨n + 1, .head hst hn⟩

/-- Every run from `s` is of bounded length and can be continued to `z`, where
nothing more happens: whatever the order of the steps, this is where it ends. -/
def Leads {σ : Type} (r : σ → σ → Prop) (s z : σ) : Prop :=
  (∀ y, ¬ r z y) ∧ ∃ n, ∀ m t, Steps r m s t → m ≤ n ∧ Steps r (n - m) t z

/-- Where two steps can always be swapped, no first step leads away from where
one run ends, and none takes longer. -/
theorem Steps.after {σ : Type} {r : σ → σ → Prop}
    (hdiamond : ∀ s t u, r s t → r s u → t = u ∨ ∃ v, r t v ∧ r u v)
    {n : Nat} {s t z : σ} (hz : ∀ y, ¬ r z y) (hrun : Steps r n s z) (hst : r s t) :
    ∃ m, n = m + 1 ∧ Steps r m t z := by
  induction hrun generalizing t with
  | refl s => exact absurd hst (hz t)
  | head hsu huz ih =>
    obtain rfl | ⟨v, huv, htv⟩ := hdiamond _ _ _ hsu hst
    · exact ⟨_, rfl, huz⟩
    · obtain ⟨m, rfl, hvz⟩ := ih hz huv
      exact ⟨m + 1, rfl, .head htv hvz⟩

theorem leads_of_run {σ : Type} {r : σ → σ → Prop}
    (hdiamond : ∀ s t u, r s t → r s u → t = u ∨ ∃ v, r t v ∧ r u v)
    {s z : σ} (hz : ∀ y, ¬ r z y) (hrun : Relation.ReflTransGen r s z) : Leads r s z := by
  obtain ⟨n, hn⟩ := exists_steps hrun
  refine ⟨hz, n, fun m t hm => ?_⟩
  clear hrun
  induction hm generalizing n with
  | refl s => exact ⟨Nat.zero_le _, hn⟩
  | head hst _ ih =>
    obtain ⟨k, rfl, hk⟩ := Steps.after hdiamond hz hn hst
    obtain ⟨hle, hrest⟩ := ih k hk
    exact ⟨by omega, by simpa using hrest⟩

theorem Executes.client {β ε σ τ : Type} {p q : Proc β ε σ} {x y out : List β} {log : List ε}
    (h : Executes p x q y out log) (serve : τ → Proc β ε τ) (server : Proc β ε τ)
    (request : List β) (clientLog serverLog : List ε) :
    Relation.ReflTransGen (Step serve) ⟨p, server, request, x, clientLog, serverLog⟩
      ⟨q, server, request ++ out, y, clientLog ++ log, serverLog⟩ := by
  induction h generalizing request clientLog with
  | refl p x => simpa using Relation.ReflTransGen.refl
  | @send b _ _ _ _ _ _ _ ih => exact .head (.client rfl) (by simpa using ih (request ++ [b]) clientLog)
  | recv _ ih => exact .head (.client rfl) (by simpa using ih request clientLog)
  | @emit e _ _ _ _ _ _ _ ih => exact .head (.client rfl) (by simpa using ih request (clientLog ++ [e]))

theorem Executes.server {β ε σ τ : Type} {p q : Proc β ε τ} {x y out : List β} {log : List ε}
    (h : Executes p x q y out log) (serve : τ → Proc β ε τ) (client : Proc β ε σ)
    (reply : List β) (clientLog serverLog : List ε) :
    Relation.ReflTransGen (Step serve) ⟨client, p, x, reply, clientLog, serverLog⟩
      ⟨client, q, y, reply ++ out, clientLog, serverLog ++ log⟩ := by
  induction h generalizing reply serverLog with
  | refl p x => simpa using Relation.ReflTransGen.refl
  | @send b _ _ _ _ _ _ _ ih => exact .head (.server rfl) (by simpa using ih (reply ++ [b]) serverLog)
  | recv _ ih => exact .head (.server rfl) (by simpa using ih reply serverLog)
  | @emit e _ _ _ _ _ _ _ ih => exact .head (.server rfl) (by simpa using ih reply (serverLog ++ [e]))

/-- A session between two requests: the server waits and nothing is on its way. -/
def resting {β ε σ τ : Type} (serve : τ → Proc β ε τ) (client : Proc β ε σ) (t : τ)
    (clientLog serverLog : List ε) : Session β ε σ τ :=
  ⟨client, serve t, [], [], clientLog, serverLog⟩

/-- One pass of the server takes a whole request and answers it. -/
def Answers {β ε τ : Type} (serve : τ → Proc β ε τ) (t : τ) (request : List β) (t' : τ)
    (reply : List β) (log : List ε) : Prop :=
  Executes (serve t) request (.pure t') [] reply log

/-- Between two requests the session gets from one client and server to others, the
ends recording `sending` and `serving` on the way. -/
def Reaches {β ε σ τ : Type} (serve : τ → Proc β ε τ) (p : Proc β ε σ) (t : τ)
    (q : Proc β ε σ) (t' : τ) (sending serving : List ε) : Prop :=
  ∀ clientLog serverLog, Relation.ReflTransGen (Step serve)
    (resting serve p t clientLog serverLog)
    (resting serve q t' (clientLog ++ sending) (serverLog ++ serving))

theorem Reaches.trans {β ε σ τ : Type} {serve : τ → Proc β ε τ} {p q r : Proc β ε σ} {t u v : τ}
    {sending sending' serving serving' : List ε} (hpq : Reaches serve p t q u sending serving)
    (hqr : Reaches serve q u r v sending' serving') :
    Reaches serve p t r v (sending ++ sending') (serving ++ serving') := by
  intro clientLog serverLog
  have h := (hpq clientLog serverLog).trans (hqr (clientLog ++ sending) (serverLog ++ serving))
  rwa [List.append_assoc, List.append_assoc] at h

/-- What the client does without the line. -/
theorem Executes.reaches {β ε σ τ : Type} {p q : Proc β ε σ} {log : List ε}
    (h : Executes p [] q [] [] log) (serve : τ → Proc β ε τ) (t : τ) :
    Reaches serve p t q t log [] := by
  intro clientLog serverLog
  simpa [resting] using h.client serve (serve t) [] clientLog serverLog

/-- A request sent, answered and its reply taken. -/
theorem Answers.reaches {β ε σ τ : Type} {serve : τ → Proc β ε τ} {p q r : Proc β ε σ} {t t' : τ}
    {request reply : List β} {sending serving receiving : List ε}
    (hanswer : Answers serve t request t' reply serving)
    (hsend : Executes p [] q [] request sending)
    (hreceive : Executes q reply r [] [] receiving) :
    Reaches serve p t r t' (sending ++ receiving) serving := by
  intro clientLog serverLog
  have hrequested := hsend.client serve (serve t) [] clientLog serverLog
  have hanswered := Executes.server hanswer serve q [] (clientLog ++ sending) serverLog
  have hrestarted : Step serve
      ⟨q, .pure t', [], [] ++ reply, clientLog ++ sending, serverLog ++ serving⟩
      ⟨q, serve t', [], reply, clientLog ++ sending, serverLog ++ serving⟩ := .again rfl
  have hreceived := hreceive.client serve (serve t') [] (clientLog ++ sending)
    (serverLog ++ serving)
  rw [List.append_assoc] at hreceived
  exact hrequested.trans (hanswered.trans (.head hrestarted hreceived))

theorem Proc.move_bind {β ε α γ : Type} {p p' : Proc β ε α} {x x' out : List β} {log : List ε}
    (h : p.move x = some (p', x', out, log)) (f : α → Proc β ε γ) :
    (p >>= f).move x = some (p' >>= f, x', out, log) := by
  cases p with
  | pure a => cases h
  | exit => cases h
  | send b next => cases h; rfl
  | emit e next => cases h; rfl
  | recv next =>
    cases x with
    | nil => cases h
    | cons b x => cases h; rfl

/-- A session goes on in front of what the client does next. -/
theorem Reaches.before {β ε σ τ γ : Type} {serve : τ → Proc β ε τ} {p q : Proc β ε σ} {t t' : τ}
    {sending serving : List ε} (h : Reaches serve p t q t' sending serving)
    (f : σ → Proc β ε γ) : Reaches serve (p >>= f) t (q >>= f) t' sending serving := by
  intro clientLog serverLog
  refine (h clientLog serverLog).lift
    (fun s => (⟨s.client >>= f, s.server, s.request, s.reply, s.clientLog, s.serverLog⟩ :
      Session β ε γ τ)) ?_
  intro s u hstep
  cases hstep with
  | client h => exact .client (Proc.move_bind h f)
  | server h => exact .server h
  | again h => exact .again h

/-- A session whose client is done and whose server waits for a request is over. -/
theorem resting_over {β ε σ τ : Type} {serve : τ → Proc β ε τ} {client : Proc β ε σ} {t : τ}
    {clientLog serverLog : List ε} (hclient : client.move [] = none)
    (hserver : ∃ next, serve t = .recv next) (s : Session β ε σ τ) :
    ¬ Step serve (resting serve client t clientLog serverLog) s := by
  obtain ⟨next, hnext⟩ := hserver
  intro h
  cases h with
  | client h => rw [resting, hclient] at h; cases h
  | server h => rw [resting, hnext] at h; cases h
  | again h => rw [resting, hnext] at h; cases h

/-- A session that reaches the end of its client ends there in every order of steps. -/
theorem Reaches.leads {β ε σ τ : Type} {serve : τ → Proc β ε τ} {p q : Proc β ε σ} {t t' : τ}
    {sending serving : List ε} (h : Reaches serve p t q t' sending serving)
    (hclient : q.move [] = none) (hserver : ∃ next, serve t' = .recv next)
    (clientLog serverLog : List ε) :
    Leads (Step serve) (resting serve p t clientLog serverLog)
      (resting serve q t' (clientLog ++ sending) (serverLog ++ serving)) :=
  leads_of_run (fun _ _ _ => Step.diamond) (resting_over hclient hserver) (h clientLog serverLog)

end concretid.duplex
