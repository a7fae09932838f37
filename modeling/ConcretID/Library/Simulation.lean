import ConcretID.Library.Duplex

namespace concretid.duplex

theorem Proc.bind_assoc {β ε α γ δ : Type} (p : Proc β ε α) (f : α → Proc β ε γ)
    (g : γ → Proc β ε δ) : (p >>= f) >>= g = p >>= fun a => f a >>= g := by
  induction p with
  | pure a => rfl
  | send b next ih => exact congrArg (Proc.send b) ih
  | recv next ih => exact congrArg Proc.recv (funext ih)
  | emit e next ih => exact congrArg (Proc.emit e) ih
  | exit => rfl

/-- Two programs that send, receive and record the same and end with related values. A
recorded event that is not allowed frees the second program from the first. -/
inductive Related {β ε σ τ : Type} (R : σ → τ → Prop) (allowed : ε → Prop) :
    Proc β ε σ → Proc β ε τ → Prop where
  | pure {a : σ} {b : τ} (h : R a b) : Related R allowed (.pure a) (.pure b)
  | send {b : β} {next : Proc β ε σ} {next' : Proc β ε τ} (h : Related R allowed next next') :
      Related R allowed (.send b next) (.send b next')
  | recv {next : β → Proc β ε σ} {next' : β → Proc β ε τ}
      (h : ∀ b, Related R allowed (next b) (next' b)) :
      Related R allowed (.recv next) (.recv next')
  | emit {e : ε} {next : Proc β ε σ} {next' : Proc β ε τ}
      (h : allowed e → Related R allowed next next') :
      Related R allowed (.emit e next) (.emit e next')
  | exit : Related R allowed .exit .exit

theorem Related.refl {β ε σ : Type} (allowed : ε → Prop) (p : Proc β ε σ) :
    Related (fun a b => a = b) allowed p p := by
  induction p with
  | pure a => exact .pure rfl
  | send b next ih => exact .send ih
  | recv next ih => exact .recv ih
  | emit e next ih => exact .emit fun _ => ih
  | exit => exact .exit

theorem Related.bind {β ε σ τ α γ : Type} {R : σ → τ → Prop} {S : α → γ → Prop}
    {allowed : ε → Prop} {p : Proc β ε σ} {q : Proc β ε τ} {f : σ → Proc β ε α}
    {g : τ → Proc β ε γ} (h : Related R allowed p q)
    (hf : ∀ a b, R a b → Related S allowed (f a) (g b)) :
    Related S allowed (p >>= f) (q >>= g) := by
  induction h with
  | pure hab => exact hf _ _ hab
  | send _ ih => exact .send ih
  | recv _ ih => exact .recv ih
  | emit _ ih => exact .emit ih
  | exit => exact .exit

/-- The same program in front of related ones. -/
theorem Related.after {β ε σ τ α : Type} {R : σ → τ → Prop} {allowed : ε → Prop}
    (p : Proc β ε α) {f : α → Proc β ε σ} {g : α → Proc β ε τ}
    (h : ∀ a, Related R allowed (f a) (g a)) : Related R allowed (p >>= f) (p >>= g) :=
  (Related.refl allowed p).bind fun a _ hab => hab ▸ h a

theorem Related.ite {β ε σ τ : Type} {R : σ → τ → Prop} {allowed : ε → Prop} {c : Prop}
    [Decidable c] {p p' : Proc β ε σ} {q q' : Proc β ε τ} (h : Related R allowed p q)
    (h' : Related R allowed p' q') :
    Related R allowed (if c then p else p') (if c then q else q') := by
  split
  · exact h
  · exact h'

/-- A step of one is a step of the other. -/
theorem Related.move {β ε σ τ : Type} {R : σ → τ → Prop} {allowed : ε → Prop}
    {p p' : Proc β ε σ} {q : Proc β ε τ} (h : Related R allowed p q) {x x' out : List β}
    {log : List ε} (hmove : p.move x = some (p', x', out, log)) (hlog : ∀ e ∈ log, allowed e) :
    ∃ q', q.move x = some (q', x', out, log) ∧ Related R allowed p' q' := by
  cases h with
  | pure hab => cases hmove
  | exit => cases hmove
  | send hnext => cases hmove; exact ⟨_, rfl, hnext⟩
  | emit hnext => cases hmove; exact ⟨_, rfl, hnext (hlog _ List.mem_cons_self)⟩
  | recv hnext =>
    cases x with
    | nil => cases hmove
    | cons b x => cases hmove; exact ⟨_, rfl, hnext b⟩

/-- Two servers that do the same on related states. The programs within a pass, as far as
the first server runs them, are told apart from a pass that has not begun. -/
structure Simulates {β ε σ τ : Type} (serve : σ → Proc β ε σ) (serve' : τ → Proc β ε τ)
    (R : σ → τ → Prop) (allowed : ε → Prop) (begun : Proc β ε σ → Prop) : Prop where
  related : ∀ a b, R a b → Related R allowed (serve a) (serve' b)
  starts : ∀ a x p x' out log, (serve a).move x = some (p, x', out, log) → begun p
  goes_on : ∀ p x p' x' out log, begun p → p.move x = some (p', x', out, log) → begun p'
  fresh : ∀ a, ¬ begun (serve a)
  injective : ∀ a b, serve a = serve b → a = b

/-- The state of one session as that of the other: all is the same but the servers, and
these are at the start of a pass with related states or do the same within a pass. -/
structure Corresponds {β ε γ σ τ : Type} (serve : σ → Proc β ε σ) (serve' : τ → Proc β ε τ)
    (R : σ → τ → Prop) (allowed : ε → Prop) (begun : Proc β ε σ → Prop)
    (s : Session β ε γ σ) (t : Session β ε γ τ) : Prop where
  client : t.client = s.client
  request : t.request = s.request
  reply : t.reply = s.reply
  clientLog : t.clientLog = s.clientLog
  serverLog : t.serverLog = s.serverLog
  server : (∃ a b, R a b ∧ s.server = serve a ∧ t.server = serve' b) ∨
    (begun s.server ∧ Related R allowed s.server t.server)

section simulates

variable {β ε γ σ τ : Type} {serve : σ → Proc β ε σ} {serve' : τ → Proc β ε τ}
  {R : σ → τ → Prop} {allowed : ε → Prop} {begun : Proc β ε σ → Prop}

theorem Corresponds.step (hsim : Simulates serve serve' R allowed begun)
    {s s' : Session β ε γ σ} {t : Session β ε γ τ}
    (h : Corresponds serve serve' R allowed begun s t) (hstep : Step serve s s')
    (hlog : ∀ e ∈ s'.serverLog, allowed e) :
    ∃ t', Step serve' t t' ∧ Corresponds serve serve' R allowed begun s' t' := by
  obtain ⟨hclient, hrequest, hreply, hclientLog, hserverLog, hserver⟩ := h
  cases hstep with
  | client hmove =>
    rw [← hclient, ← hreply] at hmove
    exact ⟨_, .client hmove, rfl, congrArg (· ++ _) hrequest, rfl, congrArg (· ++ _) hclientLog,
      hserverLog, hserver⟩
  | @server p x out log hmove =>
    have hallowed : ∀ e ∈ log, allowed e := fun e he => hlog e (List.mem_append_right _ he)
    obtain ⟨hbegun, q, hmove', hrelated⟩ : begun p ∧ ∃ q,
        t.server.move s.request = some (q, x, out, log) ∧ Related R allowed p q := by
      obtain ⟨a, b, hab, hs, ht⟩ | ⟨hbegun, hrelated⟩ := hserver
      · rw [hs] at hmove
        rw [ht]
        exact ⟨hsim.starts a _ _ _ _ _ hmove, (hsim.related a b hab).move hmove hallowed⟩
      · exact ⟨hsim.goes_on _ _ _ _ _ _ hbegun hmove, hrelated.move hmove hallowed⟩
    rw [← hrequest] at hmove'
    exact ⟨_, .server hmove', hclient, rfl, congrArg (· ++ _) hreply, hclientLog,
      congrArg (· ++ _) hserverLog, .inr ⟨hbegun, hrelated⟩⟩
  | @again a hpure =>
    obtain ⟨a', b', hab, hs, ht⟩ | ⟨-, hrelated⟩ := hserver
    · have hrelated := hsim.related a' b' hab
      rw [← hs, ← ht, hpure] at hrelated
      generalize hq : t.server = q at hrelated
      cases hrelated with
      | pure hab' =>
        exact ⟨_, .again hq, hclient, hrequest, hreply, hclientLog, hserverLog,
          .inl ⟨_, _, hab', rfl, rfl⟩⟩
    · rw [hpure] at hrelated
      generalize hq : t.server = q at hrelated
      cases hrelated with
      | pure hab' =>
        exact ⟨_, .again hq, hclient, hrequest, hreply, hclientLog, hserverLog,
          .inl ⟨_, _, hab', rfl, rfl⟩⟩

/-- What has been recorded stays recorded. -/
theorem Step.serverLog_prefix {s s' : Session β ε γ σ} (h : Step serve s s') :
    s.serverLog <+: s'.serverLog := by
  cases h with
  | client _ => exact List.prefix_rfl
  | server _ => exact List.prefix_append _ _
  | again _ => exact List.prefix_rfl

theorem Corresponds.run (hsim : Simulates serve serve' R allowed begun)
    {s s' : Session β ε γ σ} {t : Session β ε γ τ}
    (h : Corresponds serve serve' R allowed begun s t)
    (hrun : Relation.ReflTransGen (Step serve) s s') (hlog : ∀ e ∈ s'.serverLog, allowed e) :
    ∃ t', Relation.ReflTransGen (Step serve') t t' ∧
      Corresponds serve serve' R allowed begun s' t' := by
  induction hrun with
  | refl => exact ⟨t, .refl, h⟩
  | tail _ hstep ih =>
    obtain ⟨u, hrun', hu⟩ := ih fun e he => hlog e (hstep.serverLog_prefix.subset he)
    obtain ⟨u', hstep', hu'⟩ := hu.step hsim hstep hlog
    exact ⟨u', hrun'.tail hstep', hu'⟩

/-- From one point between two requests to another, the second server takes the session
where the first one does. -/
theorem Simulates.reaches (hsim : Simulates serve serve' R allowed begun) {p q : Proc β ε γ}
    {a a' : σ} {b : τ} {sending serving : List ε} (hab : R a b)
    (hreach : Reaches serve p a q a' sending serving) (hlog : ∀ e ∈ serving, allowed e) :
    ∃ b', R a' b' ∧ Relation.ReflTransGen (Step serve') (resting serve' p b [] [])
      (resting serve' q b' sending serving) := by
  have hstart : Corresponds serve serve' R allowed begun (resting serve p a [] [])
      (resting serve' p b [] []) :=
    ⟨rfl, rfl, rfl, rfl, rfl, .inl ⟨a, b, hab, rfl, rfl⟩⟩
  obtain ⟨t, hrun, hclient, hrequest, hreply, hclientLog, hserverLog, hserver⟩ :=
    hstart.run hsim (hreach [] []) hlog
  obtain ⟨c, b', hcb, hs, ht⟩ | ⟨hbegun, -⟩ := hserver
  · have hc := hsim.injective a' c hs
    subst hc
    cases t
    simp only [resting] at hclient hrequest hreply hclientLog hserverLog ht
    subst hclient hrequest hreply hclientLog hserverLog ht
    exact ⟨b', hcb, hrun⟩
  · exact absurd hbegun (hsim.fresh a')

end simulates

end concretid.duplex
