import Mathlib.Data.Nat.Basic

namespace concretid.demoday

/-- What `digitalRead` returns. -/
inductive Level where
  | LOW | HIGH
  deriving DecidableEq

/-- The variables of `loop` for the button. The two `long`s are compared as
unsigned words of 32 bits. -/
structure Button where
  buttonState : Level
  buttonStateBuffer : Level
  lastButtonState : Level
  lastDebounceTime : UInt32

def debounceDelay : UInt32 := 50

/-- What one call of `loop` finds: the state of the button, and the milliseconds
since the start at its two calls of `millis()`. -/
structure Iteration where
  reading : Level
  toggled : Nat
  checked : Nat

/-- The clock goes round after 2³² milliseconds. -/
def millis (time : Nat) : UInt32 := UInt32.ofNat time

namespace Button

def boot : Button := ⟨.HIGH, .HIGH, .HIGH, 0⟩

/-- One call of `loop`, and whether it reports the position. -/
def loop (s : Button) (now : Iteration) : Button × Bool :=
  let s := { s with buttonStateBuffer := s.buttonState }
  let s :=
    if now.reading ≠ s.lastButtonState then { s with lastDebounceTime := millis now.toggled } else s
  let s :=
    if millis now.checked - s.lastDebounceTime > debounceDelay then
      { s with buttonState := now.reading }
    else s
  let s := { s with lastButtonState := now.reading }
  (s, s.buttonState = .LOW && s.buttonStateBuffer = .HIGH)

/-- The state before call `n`. -/
def run (calls : Nat → Iteration) : Nat → Button
  | 0 => boot
  | n + 1 => ((run calls n).loop (calls n)).1

def Reports (calls : Nat → Iteration) (n : Nat) : Prop := ((run calls n).loop (calls n)).2 = true

instance (calls : Nat → Iteration) (n : Nat) : Decidable (Reports calls n) :=
  inferInstanceAs (Decidable (_ = true))

end Button

/-- Time does not go back, within a call or from one call to the next. -/
def Nondecreasing (calls : Nat → Iteration) : Prop :=
  ∀ n, (calls n).toggled ≤ (calls n).checked ∧ (calls n).checked ≤ (calls (n + 1)).toggled

/-- All samples from call `m` to call `n` are the same, over more than the delay. -/
structure Held (calls : Nat → Iteration) (level : Level) (m n : Nat) : Prop where
  le : m ≤ n
  reading : ∀ k, m ≤ k → k ≤ n → (calls k).reading = level
  long : debounceDelay.toNat < (calls n).checked - (calls m).toggled

/-! ## The clock -/

theorem Nondecreasing.le {calls : Nat → Iteration} (h : Nondecreasing calls) {m n : Nat} (hle : m ≤ n) :
    (calls m).toggled ≤ (calls n).checked := by
  induction n, hle using Nat.le_induction with
  | base => exact (h m).1
  | succ n _ ih => exact Nat.le_trans ih (Nat.le_trans (h n).2 (h (n + 1)).1)

/-- The clock tells no more time than has passed. -/
theorem elapsed_le {earlier later : Nat} (hle : earlier ≤ later) :
    (millis later - millis earlier).toNat ≤ later - earlier := by
  have hlater : (millis later).toNat = later % 2 ^ 32 := UInt32.toNat_ofNat'
  have hearlier : (millis earlier).toNat = earlier % 2 ^ 32 := UInt32.toNat_ofNat'
  rw [UInt32.toNat_sub, hlater, hearlier]
  omega

namespace Button

variable {calls : Nat → Iteration}

/-! ## One call -/

theorem loop_lastButtonState (s : Button) (now : Iteration) :
    (s.loop now).1.lastButtonState = now.reading := rfl

/-- The timer starts again with a sample that is not the one before. -/
theorem loop_lastDebounceTime (s : Button) (now : Iteration) :
    (s.loop now).1.lastDebounceTime =
      if now.reading ≠ s.lastButtonState then millis now.toggled else s.lastDebounceTime := by
  simp only [loop]
  split <;> split <;> rfl

/-- The state of the button is the sample once the timer has run over the delay. -/
theorem loop_buttonState (s : Button) (now : Iteration) :
    (s.loop now).1.buttonState =
      if millis now.checked - (s.loop now).1.lastDebounceTime > debounceDelay then now.reading
      else s.buttonState := by
  simp only [loop]
  split <;> split <;> rfl

/-- A call reports where it takes the state of the button from HIGH to LOW. -/
theorem reports_iff (n : Nat) :
    Reports calls n ↔ (run calls (n + 1)).buttonState = .LOW ∧ (run calls n).buttonState = .HIGH := by
  have hbuffer : ((run calls n).loop (calls n)).1.buttonStateBuffer = (run calls n).buttonState := by
    simp only [loop]
    split <;> split <;> rfl
  rw [← hbuffer]
  simp only [Reports, run, loop, Bool.and_eq_true, decide_eq_true_eq]

/-! ## The history of the samples

Behind `lastDebounceTime` is the last call whose sample was not the one before;
until there is one, all samples are HIGH as at the start. -/

/-- The sample changed last at call `m`, and the timer was started there. -/
structure Changed (calls : Nat → Iteration) (m n : Nat) : Prop where
  le : m ≤ n
  time : (run calls (n + 1)).lastDebounceTime = millis (calls m).toggled
  reading : ∀ k, m ≤ k → k ≤ n → (calls k).reading = (calls n).reading

/-- No sample has changed yet. -/
def Quiet (calls : Nat → Iteration) (n : Nat) : Prop := ∀ k, k ≤ n → (calls k).reading = .HIGH

theorem Changed.here {n : Nat} (h : (calls n).reading ≠ (run calls n).lastButtonState) :
    Changed calls n n := by
  refine ⟨Nat.le_refl n, ?_, ?_⟩
  · rw [run, loop_lastDebounceTime, if_pos h]
  · intro k hmk hkn
    rw [Nat.le_antisymm hkn hmk]

theorem Changed.next {m n : Nat} (h : Changed calls m n)
    (hsame : (calls (n + 1)).reading = (calls n).reading) : Changed calls m (n + 1) := by
  have hlast : (run calls (n + 1)).lastButtonState = (calls n).reading := loop_lastButtonState _ _
  refine ⟨Nat.le_succ_of_le h.le, ?_, ?_⟩
  · rw [run, loop_lastDebounceTime, hlast, if_neg (not_not.mpr hsame)]
    exact h.time
  · intro k hmk hkn
    rw [hsame]
    obtain hlt | rfl := Nat.lt_or_eq_of_le hkn
    · exact h.reading k hmk (Nat.le_of_lt_succ hlt)
    · exact hsame

theorem quiet_or_changed (calls : Nat → Iteration) (n : Nat) : Quiet calls n ∨ ∃ m, Changed calls m n := by
  induction n with
  | zero =>
    by_cases h : (calls 0).reading = .HIGH
    · left
      intro k hk
      rw [Nat.le_zero.mp hk, h]
    · exact .inr ⟨0, Changed.here h⟩
  | succ n ih =>
    by_cases h : (calls (n + 1)).reading = (calls n).reading
    · cases ih with
      | inl hquiet =>
        left
        intro k hk
        obtain hlt | rfl := Nat.lt_or_eq_of_le hk
        · exact hquiet k (Nat.le_of_lt_succ hlt)
        · rw [h, hquiet n (Nat.le_refl n)]
      | inr hchanged =>
        obtain ⟨m, hm⟩ := hchanged
        exact .inr ⟨m, hm.next h⟩
    · exact .inr ⟨n + 1, Changed.here h⟩

/-- Where the timer has run over the delay, the sample has been held for that long. -/
theorem Changed.held {m n : Nat} (hclock : Nondecreasing calls) (h : Changed calls m n)
    (hover : millis (calls n).checked - (run calls (n + 1)).lastDebounceTime > debounceDelay) :
    Held calls (calls n).reading m n := by
  refine ⟨h.le, h.reading, ?_⟩
  rw [h.time] at hover
  exact Nat.lt_of_lt_of_le (UInt32.lt_iff_toNat_lt.mp hover) (elapsed_le (hclock.le h.le))

/-! ## The state of the button -/

/-- The state of the button changes only to a sample that has been held; the
button was never released before. -/
theorem buttonState_step (hclock : Nondecreasing calls) (n : Nat) :
    (run calls (n + 1)).buttonState = (run calls n).buttonState ∨
      Quiet calls n ∧ (run calls (n + 1)).buttonState = .HIGH ∨
        ∃ m, Held calls (run calls (n + 1)).buttonState m n := by
  have hstate := loop_buttonState (run calls n) (calls n)
  change (run calls (n + 1)).buttonState = _ at hstate
  split at hstate
  · next hover =>
    right
    cases quiet_or_changed calls n with
    | inl hquiet => exact .inl ⟨hquiet, hstate.trans (hquiet n (Nat.le_refl n))⟩
    | inr hchanged =>
      obtain ⟨m, hm⟩ := hchanged
      rw [hstate]
      exact .inr ⟨m, hm.held hclock hover⟩
  · exact .inl hstate

/-- A report follows a stretch of LOW samples over more than the delay. -/
theorem Reports.held {n : Nat} (hclock : Nondecreasing calls) (h : Reports calls n) :
    ∃ m, Held calls .LOW m n := by
  obtain ⟨hlow, hhigh⟩ := (reports_iff n).mp h
  obtain hsame | ⟨-, hup⟩ | hheld := buttonState_step hclock n
  · rw [hlow, hhigh] at hsame
    cases hsame
  · rw [hlow] at hup
    cases hup
  · rwa [hlow] at hheld

/-- Between a LOW and a later HIGH state of the button there is the call that
let it up. -/
theorem exists_rise {i j : Nat} (hij : i ≤ j) (hlow : (run calls i).buttonState = .LOW)
    (hhigh : (run calls j).buttonState = .HIGH) :
    ∃ h, i ≤ h ∧ h < j ∧ (run calls h).buttonState = .LOW ∧ (run calls (h + 1)).buttonState = .HIGH := by
  induction j, hij using Nat.le_induction with
  | base =>
    rw [hlow] at hhigh
    cases hhigh
  | succ j hij ih =>
    cases hstate : (run calls j).buttonState with
    | LOW => exact ⟨j, hij, Nat.lt_succ_self j, hstate, hhigh⟩
    | HIGH =>
      obtain ⟨h, hih, hhj, hrise⟩ := ih hstate
      exact ⟨h, hih, Nat.lt_succ_of_lt hhj, hrise⟩

/-- Between two reports the button is held up for more than the delay. -/
theorem Reports.released_between {i j : Nat} (hclock : Nondecreasing calls) (hij : i < j)
    (hi : Reports calls i) (hj : Reports calls j) : ∃ m n, i < m ∧ n < j ∧ Held calls .HIGH m n := by
  obtain ⟨first, hfirst⟩ := hi.held hclock
  have hreading : (calls i).reading = .LOW := hfirst.reading i hfirst.le (Nat.le_refl i)
  obtain ⟨n, hin, hnj, hbefore, hafter⟩ :=
    exists_rise hij ((reports_iff i).mp hi).1 ((reports_iff j).mp hj).2
  obtain hsame | ⟨hquiet, -⟩ | ⟨m, hheld⟩ := buttonState_step hclock n
  · rw [hbefore, hafter] at hsame
    cases hsame
  · rw [hquiet i (Nat.le_of_succ_le hin)] at hreading
    cases hreading
  · rw [hafter] at hheld
    refine ⟨m, n, ?_, hnj, hheld⟩
    -- the sample of the report was LOW, so the stretch begins behind it
    by_contra hmi
    rw [hheld.reading i (Nat.le_of_not_lt hmi) (Nat.le_of_succ_le hin)] at hreading
    cases hreading

/-- Every report follows a stretch of LOW samples over more than the delay, and
between two reports there is such a stretch of HIGH samples. -/
theorem debounced (calls : Nat → Iteration) (hclock : Nondecreasing calls) :
    (∀ n, Reports calls n → ∃ m, Held calls .LOW m n) ∧
      ∀ i j, i < j → Reports calls i → Reports calls j →
        ∃ m n, i < m ∧ n < j ∧ Held calls .HIGH m n :=
  ⟨fun _ hn => hn.held hclock, fun _ _ hij hi hj => hi.released_between hclock hij hj⟩

/-- A button that bounces, is held down and let up again, over and over, with a
call each 30 milliseconds. -/
def pressed (n : Nat) : Iteration :=
  ⟨if n % 8 = 1 ∨ 3 ≤ n % 8 ∧ n % 8 ≤ 5 then .LOW else .HIGH, 30 * n, 30 * n + 1⟩

theorem pressed_debounced :
    Nondecreasing pressed ∧ Reports pressed 5 ∧ Reports pressed 13 ∧
      (∃ m, Held pressed .LOW m 5) ∧ ∃ m n, 5 < m ∧ n < 13 ∧ Held pressed .HIGH m n := by
  have hclock : Nondecreasing pressed := by
    intro n
    simp only [pressed]
    omega
  have hfirst : Reports pressed 5 := by decide +kernel
  have hsecond : Reports pressed 13 := by decide +kernel
  exact ⟨hclock, hfirst, hsecond, (debounced pressed hclock).1 5 hfirst,
    (debounced pressed hclock).2 5 13 (by omega) hfirst hsecond⟩

end Button

end concretid.demoday
