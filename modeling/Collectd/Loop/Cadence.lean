import Collectd.Loop.Step

/-!
# `do_loop`: the cadence

The deadline `wait_until` of `do_loop` moves by exactly `interval` per on-time tick and is reset
to `now + interval` by an overrun, so on a clock that only moves forward:

* `Paced` : the invariant; at the loop test, the read and the overrun test the deadline is at
  most one interval ahead of the clock, and during the sleep it is at most one interval ahead of
  the moment the sleep ends, with a request of at most one interval (`step_paced`, `run_paced`);
* `run_waitUntil` : over a stretch of the run with no reset, the deadline grows by exactly
  `interval` per on-time tick;
* `do_loop_cadence` : the deadline law of a tick, the drift-free deadlines after a reset, no
  read before its tick's deadline however often `nanosleep` is interrupted, and the read starting
  at that deadline plus the overshoot of the last `nanosleep` and the time passed between
  statements (`readStart`, through the invariants `Asleep` and `Awake`);
* `sleep_le_interval` : every sleep is at most one interval while the clock is not set back;
  `sleep_exceeds_interval_after_clock_step` : one step back of the clock makes it longer.
-/

namespace Collectd.Loop

/-- How far `wait_until` can be ahead of the clock at each statement. -/
def Paced (interval : Nat) (s : State) : Prop :=
  match s.pc with
  | .loopTest => s.loop = 0 → s.waitUntil ≤ s.clock + interval
  | .read | .now => s.waitUntil ≤ s.clock + interval
  | .sleepTest | .nanosleep => s.tsWait ≤ interval ∧ s.waitUntil ≤ s.clock + s.tsWait + interval
  | .entry | .ret _ => True

section Paced
variable {interval : Nat} {s s' : State} {a : Act}

theorem paced_init (t0 : Nat) : Paced interval (init t0) := trivial

/-- `Paced` survives any change that keeps the statement, the deadline and the request, moves
the clock forward and does not bring `loop` back to `0`. -/
theorem Paced.frame (hP : Paced interval s) (hpc : s'.pc = s.pc) (hw : s'.waitUntil = s.waitUntil)
    (ht : s'.tsWait = s.tsWait) (hc : s.clock ≤ s'.clock) (hl : s'.loop = 0 → s.loop = 0) :
    Paced interval s' := by
  unfold Paced at hP ⊢
  rw [hpc, hw, ht]
  cases hq : s.pc <;> simp only [hq] at hP ⊢
  case loopTest => exact fun h0 => (hP (hl h0)).trans (by omega)
  all_goals omega

/-- One step keeps `Paced`, unless it sets the clock or wraps `loop` back to `0`. -/
theorem step_paced (hP : Paced interval s) (h : step interval s a = some s')
    (hset : a.isSetClock = false) (hwrap : a.isStop → s.loop + 1 ≠ 0) : Paced interval s' := by
  obtain ⟨he, rfl⟩ := step_eq_some.mp h
  have h₁ := addU64_le s.clock interval
  have h₂ := addU64_le s.waitUntil interval
  cases a
  case signal sig =>
    refine hP.frame rfl rfl rfl le_rfl fun h0 => ?_
    simp only [effect, do_loop, between, State.deliver, Sig.onLoop_eq] at h0
    split at h0
    · exact absurd h0 (hwrap (by simpa [Act.isStop]))
    · exact h0
  case elapse d => exact hP.frame rfl rfl rfl (Nat.le_add_right _ _) id
  case setClock => cases hset
  all_goals simp only [enabled, decide_eq_true_eq] at he
  case entry => exact fun _ => h₁
  case loopTest =>
    simp only [Paced, he] at hP
    by_cases hl : s.loop = 0 <;> simp only [Paced, effect, do_loop, between, hl, ↓reduceIte]
    exact hP hl
  case readAll => simpa only [Paced, he] using hP
  case overrun => exact fun _ => h₁
  case onTime =>
    simp only [Paced, he.1] at hP
    simp only [Paced, effect, do_loop, between, toTimespec]
    omega
  case sleepTest =>
    simp only [Paced, he] at hP
    by_cases hl : s.loop = 0 <;> simp only [Paced, effect, do_loop, between, hl, ↓reduceIte]
    exacts [hP, False.elim]
  case sleepDone d =>
    simp only [Paced, he.1] at hP
    exact fun _ => by simp only [effect, do_loop, between]; omega
  case sleepEintr d sig =>
    simp only [Paced, he.1] at hP
    simp only [Paced, effect, do_loop, between, State.deliver]
    omega
  case sleepFail => trivial

/-- `Paced` holds along a run that never sets the clock and delivers fewer terminate signals than
would bring `loop` back to `0`. -/
theorem run_paced {acts : List Act} (hP : Paced interval s) (h : run interval s acts = some s')
    (hset : ∀ a ∈ acts, a.isSetClock = false)
    (hwrap : s.loop.toNat + acts.countP Act.isStop < 2 ^ 32) : Paced interval s' := by
  induction acts generalizing s with
  | nil => cases h; exact hP
  | cons a acts ih =>
    obtain ⟨s₁, h₁, h₂⟩ := runSteps_cons_eq_some h
    have hrest : ∀ b ∈ acts, b.isSetClock = false := fun b hb => hset b (by simp [hb])
    rw [List.countP_cons] at hwrap
    by_cases hs : a.isStop
    · simp only [hs, ↓reduceIte] at hwrap
      have hl : s₁.loop.toNat = s.loop.toNat + 1 := by
        rw [step_loop h₁, if_pos hs]
        exact toNat_add_one (by omega)
      exact ih (step_paced hP h₁ (hset a (by simp)) fun _ => add_one_ne_zero (by omega)) h₂ hrest
        (by omega)
    · simp only [hs, ↓reduceIte] at hwrap
      have hl : s₁.loop = s.loop := by rw [step_loop h₁, if_neg hs]
      exact ih (step_paced hP h₁ (hset a (by simp)) fun h => absurd h hs) h₂ hrest (by rw [hl]; omega)

theorem step_paced_steady (hP : Paced interval s) (h : step interval s a = some s')
    (ha : a.isSteady) : Paced interval s' :=
  step_paced hP h (Act.isSteady_iff.mp ha).1 fun hs => absurd hs (by simp [(Act.isSteady_iff.mp ha).2])

theorem run_paced_steady {acts : List Act} (hP : Paced interval s) (h : run interval s acts = some s')
    (hsteady : ∀ a ∈ acts, a.isSteady) : Paced interval s' :=
  runSteps_invariant (Paced interval) (fun a => a.isSteady) (fun _ _ _ ha hs h => step_paced_steady hs h ha)
    hsteady hP h

end Paced

/-! ## The deadlines of a steady run -/

section Steady
variable {interval : Nat} {s s' : State} {acts : List Act}

theorem clock_le_of_steady (h : run interval s acts = some s') (hsteady : ∀ a ∈ acts, a.isSteady) :
    s.clock ≤ s'.clock :=
  run_clock_mono h fun a ha => (Act.isSteady_iff.mp (hsteady a ha)).1

/-- At the overrun test the next statement is one of its two branches. -/
theorem statement_at_now {a : Act} (hnow : s.pc = .now) (he : enabled s a) (hs : a.isStatement) :
    a = .overrun ∨ a = .onTime := by
  cases a <;> simp_all [enabled, Act.isStatement]

/-- Over a steady stretch with no reset, `wait_until` grows by exactly `interval` per on-time
tick, while the clock stays `2 * interval` below `2^64`. -/
theorem run_waitUntil (hP : Paced interval s) (h : run interval s acts = some s')
    (hsteady : ∀ a ∈ acts, a.isSteady) (hreset : ∀ a ∈ acts, a.isReset = false)
    (hbound : s'.clock + 2 * interval < 2 ^ 64) :
    s'.waitUntil = s.waitUntil + acts.count .onTime * interval := by
  induction acts generalizing s with
  | nil => cases h; simp
  | cons a acts ih =>
    obtain ⟨s₁, h₁, h₂⟩ := runSteps_cons_eq_some h
    have hc := (step_clock_mono h₁ (Act.isSteady_iff.mp (hsteady a (by simp))).1).trans
      (clock_le_of_steady h₂ fun b hb => hsteady b (by simp [hb]))
    rw [ih (step_paced_steady hP h₁ (hsteady a (by simp))) h₂ (fun b hb => hsteady b (by simp [hb]))
      (fun b hb => hreset b (by simp [hb])), step_waitUntil h₁, List.count_cons]
    by_cases ha : a = .onTime
    · subst ha
      have hnow : s.pc = .now := by
        have := (step_eq_some.mp h₁).1
        simp only [enabled, decide_eq_true_eq] at this
        exact this.1
      simp only [Paced, hnow] at hP
      rw [if_pos rfl, addU64_of_lt (by omega)]
      simp only [beq_self_eq_true, ↓reduceIte, Nat.add_mul, Nat.one_mul]
      omega
    · rw [if_neg ha, if_neg (by simp [hreset a (by simp)])]
      simp [ha]

end Steady

/-! ## The cadence law -/

/-- (a) A tick whose read ends at reading `n` with deadline `w`: when `n < w` the deadline moves
to `w + interval` and the next sleep asked for is exactly `w - n > 0`; otherwise the deadline
becomes `n + interval` and there is no sleep. -/
def DeadlineLaw (interval t0 : Nat) : Prop :=
  ∀ pre a s s', run interval (init t0) pre = some s → step interval s a = some s' →
    (∀ b ∈ pre ++ [a], b.isSteady) → s'.clock + 2 * interval < 2 ^ 64 → s.pc = .now →
    a.isStatement →
    (s.clock < s.waitUntil → s'.waitUntil = s.waitUntil + interval ∧ s'.pc = .sleepTest ∧
        s'.tsWait = s.waitUntil - s.clock ∧ 0 < s'.tsWait) ∧
    (s.waitUntil ≤ s.clock → s'.waitUntil = s.clock + interval ∧ s'.pc = .loopTest)

/-- (b) After a reset at reading `r` (the entry, or an overrun), the deadline after `k` on-time
ticks is exactly `r + (k + 1) * interval`, and the read that follows them starts no earlier than
`r + k * interval`: the error of a read is its own sleep's overshoot, never a sum of them. -/
def NoDrift (interval t0 : Nat) : Prop :=
  ∀ pre r mid s₁ s, run interval (init t0) pre = some s₁ → run interval s₁ (r :: mid) = some s →
    (∀ b ∈ pre ++ r :: mid, b.isSteady) → r.isReset → (∀ b ∈ mid, b.isReset = false) →
    s.clock + 2 * interval < 2 ^ 64 →
    s.waitUntil = s₁.clock + (mid.count .onTime + 1) * interval ∧
    (s.pc = .read → s₁.clock + mid.count .onTime * interval ≤ s.clock)

/-- (c) The read after an on-time tick with deadline `w` starts no earlier than `w`, however
many times the sleep was interrupted and resumed with the time left. -/
def NoEarlyRead (interval t0 : Nat) : Prop :=
  ∀ pre mid s₁ s, run interval (init t0) pre = some s₁ → run interval s₁ (.onTime :: mid) = some s →
    (∀ b ∈ pre ++ .onTime :: mid, b.isSteady) → (∀ b ∈ mid, b ≠ .onTime ∧ b.isReset = false) →
    s.clock + 2 * interval < 2 ^ 64 → s.pc = .read → s₁.waitUntil ≤ s.clock

theorem deadlineLaw (interval t0 : Nat) : DeadlineLaw interval t0 := by
  intro pre a s s' hpre hstep hsteady hbound hnow hstmt
  have hP := run_paced_steady (paced_init t0) hpre fun b hb => hsteady b (by simp [hb])
  simp only [Paced, hnow] at hP
  obtain ⟨he, rfl⟩ := step_eq_some.mp hstep
  rcases statement_at_now hnow he hstmt with rfl | rfl <;>
    simp only [enabled, decide_eq_true_eq] at he <;> simp only [effect, do_loop, between] at hbound
  · exact ⟨fun hlt => absurd he.2 (by omega), fun _ => ⟨addU64_of_lt (by omega), rfl⟩⟩
  · exact ⟨fun _ => ⟨addU64_of_lt (by omega), rfl, rfl, show 0 < s.waitUntil - s.clock by omega⟩,
      fun hle => absurd he.2 (by omega)⟩

theorem noDrift (interval t0 : Nat) : NoDrift interval t0 := by
  intro pre r mid s₁ s hpre hrun hsteady hr hmid hbound
  obtain ⟨s₂, h₂, hrest⟩ := runSteps_cons_eq_some hrun
  have hsteadyMid : ∀ b ∈ mid, b.isSteady := fun b hb => hsteady b (by simp [hb])
  have hP₂ := step_paced_steady (run_paced_steady (paced_init t0) hpre fun b hb =>
    hsteady b (by simp [hb])) h₂ (hsteady r (by simp))
  have hc : s₁.clock ≤ s.clock := (step_clock_mono h₂ (Act.isSteady_iff.mp
    (hsteady r (by simp))).1).trans (clock_le_of_steady hrest hsteadyMid)
  have hw₂ : s₂.waitUntil = s₁.clock + interval := by
    rw [step_waitUntil h₂, if_neg (by rintro rfl; simp [Act.isReset] at hr), if_pos hr,
      addU64_of_lt (by omega)]
  have hw := run_waitUntil hP₂ hrest hsteadyMid hmid hbound
  refine ⟨by rw [hw, hw₂, Nat.succ_mul]; omega, fun hread => ?_⟩
  have hPs := run_paced_steady hP₂ hrest hsteadyMid
  simp only [Paced, hread] at hPs
  omega

theorem noEarlyRead (interval t0 : Nat) : NoEarlyRead interval t0 := by
  intro pre mid s₁ s hpre hrun hsteady hmid hbound hread
  obtain ⟨s₂, h₂, hrest⟩ := runSteps_cons_eq_some hrun
  have hsteadyMid : ∀ b ∈ mid, b.isSteady := fun b hb => hsteady b (by simp [hb])
  have hP₁ := run_paced_steady (paced_init t0) hpre fun b hb => hsteady b (by simp [hb])
  have hnow := (step_eq_some.mp h₂).1
  simp only [enabled, decide_eq_true_eq] at hnow
  have hP₂ := step_paced_steady hP₁ h₂ (hsteady .onTime (by simp))
  simp only [Paced, hnow.1] at hP₁
  have hc : s₁.clock ≤ s.clock := (step_clock_mono h₂ rfl).trans (clock_le_of_steady hrest hsteadyMid)
  have hw₂ : s₂.waitUntil = s₁.waitUntil + interval := by
    rw [step_waitUntil h₂, if_pos rfl, addU64_of_lt (by omega)]
  have hw := run_waitUntil hP₂ hrest hsteadyMid (fun b hb => (hmid b hb).2) hbound
  rw [List.count_eq_zero.mpr fun hb => (hmid _ hb).1 rfl, Nat.zero_mul, Nat.add_zero] at hw
  have hPs := run_paced_steady hP₂ hrest hsteadyMid
  simp only [Paced, hread] at hPs
  omega

/-! ## When the read after a tick starts -/

/-- The time that passes between statements (`elapse`). -/
def Act.pause : Act → Nat
  | .elapse d => d
  | _ => 0

def elapsed : List Act → Nat
  | [] => 0
  | a :: acts => a.pause + elapsed acts

@[simp] theorem elapsed_nil : elapsed [] = 0 := rfl

@[simp] theorem elapsed_cons (a : Act) (acts : List Act) :
    elapsed (a :: acts) = a.pause + elapsed acts := rfl

theorem elapsed_append (acts acts' : List Act) : elapsed (acts ++ acts') = elapsed acts + elapsed acts' := by
  induction acts with
  | nil => simp
  | cons a acts ih => simp [ih, Nat.add_assoc]

/-- While `do_loop` sleeps towards the deadline `w`, the clock and what is left of the request add
up to `w` and the time `e` that passed between statements: an interrupted `nanosleep` is resumed
with exactly what it did not sleep. -/
def Asleep (w e : Nat) (s : State) : Prop :=
  s.pc = .sleepTest ∨ s.pc = .nanosleep → s.clock + s.tsWait = w + e

/-- Away from the sleep, where no statement sleeps. -/
def Awake (s : State) : Prop := s.pc ≠ .sleepTest ∧ s.pc ≠ .nanosleep

section ReadStart
variable {interval w e : Nat} {s s' : State} {a : Act} {acts : List Act}

theorem step_asleep (hA : Asleep w e s) (h : step interval s a = some s') (hset : a.isSetClock = false)
    (hne : a ≠ .onTime) : Asleep w (e + a.pause) s' := by
  obtain ⟨he, rfl⟩ := step_eq_some.mp h
  intro hpc
  cases a <;> simp only [enabled, decide_eq_true_eq] at he
  case sleepTest =>
    have := hA (.inl he)
    simp only [effect, do_loop] at hpc ⊢
    split at hpc <;> simp_all [Act.pause]
  case sleepEintr d sig =>
    have := hA (.inr he.1)
    simp only [effect, do_loop, State.deliver, Act.pause]
    omega
  case signal => simpa [effect, between, State.deliver, Act.pause] using hA (by simpa [effect,
    between, State.deliver] using hpc)
  case elapse d =>
    have := hA (by simpa [effect, between] using hpc)
    simp only [effect, between, Act.pause]
    omega
  case onTime => exact absurd rfl hne
  case setClock => cases hset
  case loopTest => simp only [effect, do_loop] at hpc; split at hpc <;> simp at hpc
  all_goals simp [effect, do_loop] at hpc

theorem run_asleep (hA : Asleep w e s) (h : run interval s acts = some s')
    (hacts : ∀ b ∈ acts, b.isSetClock = false ∧ b ≠ .onTime) : Asleep w (e + elapsed acts) s' := by
  induction acts generalizing s e with
  | nil => cases h; simpa using hA
  | cons a acts ih =>
    obtain ⟨s₁, h₁, h₂⟩ := runSteps_cons_eq_some h
    have ha := hacts a (by simp)
    have := ih (step_asleep hA h₁ ha.1 ha.2) h₂ fun b hb => hacts b (by simp [hb])
    rwa [elapsed_cons, ← Nat.add_assoc]

/-- Away from the sleep the clock moves only between statements, and no statement but the
overrun test's on-time branch brings `do_loop` back to it. -/
theorem step_awake (hA : Awake s) (h : step interval s a = some s') (hset : a.isSetClock = false)
    (hne : a ≠ .onTime) : Awake s' ∧ s'.clock = s.clock + a.pause := by
  obtain ⟨hpc₁, hpc₂⟩ := hA
  obtain ⟨he, rfl⟩ := step_eq_some.mp h
  cases a <;> simp only [enabled, decide_eq_true_eq] at he
  case loopTest =>
    simp only [effect, do_loop, Awake, Act.pause]
    split <;> simp
  case onTime => exact absurd rfl hne
  case setClock => cases hset
  case sleepTest => exact absurd he hpc₁
  case sleepDone | sleepEintr => exact absurd he.1 hpc₂
  case sleepFail => exact absurd he hpc₂
  all_goals simp_all [Awake, effect, do_loop, between, State.deliver, Act.pause]

theorem run_awake (hA : Awake s) (h : run interval s acts = some s')
    (hacts : ∀ b ∈ acts, b.isSetClock = false ∧ b ≠ .onTime) :
    Awake s' ∧ s'.clock = s.clock + elapsed acts := by
  induction acts generalizing s with
  | nil => cases h; exact ⟨hA, rfl⟩
  | cons a acts ih =>
    obtain ⟨s₁, h₁, h₂⟩ := runSteps_cons_eq_some h
    have ha := hacts a (by simp)
    obtain ⟨hA₁, hc₁⟩ := step_awake hA h₁ ha.1 ha.2
    obtain ⟨hA', hc⟩ := ih hA₁ h₂ fun b hb => hacts b (by simp [hb])
    exact ⟨hA', by rw [hc, hc₁, elapsed_cons]; omega⟩

end ReadStart

/-- (b), its upper side: the read after an on-time tick with deadline `w` starts at `w`, plus the
overshoot of the `nanosleep` that ends the sleep (what it slept beyond the request `ts_wait` it
was given), plus the time that passed between statements since the tick. -/
def ReadStart (interval : Nat) : Prop :=
  ∀ mid₁ d mid₂ s₁ s₂ s, run interval s₁ (.onTime :: mid₁) = some s₂ →
    run interval s₂ (.sleepDone d :: mid₂) = some s →
    (∀ b ∈ mid₁ ++ mid₂, b.isSetClock = false ∧ b ≠ .onTime ∧ b.isReset = false) → s.pc = .read →
    s.clock = s₁.waitUntil + (d - s₂.tsWait) + elapsed (mid₁ ++ mid₂)

theorem readStart (interval : Nat) : ReadStart interval := by
  intro mid₁ d mid₂ s₁ s₂ s h₁ h₂ hacts _
  obtain ⟨s₃, hon, hmid₁⟩ := runSteps_cons_eq_some h₁
  obtain ⟨hen, rfl⟩ := step_eq_some.mp hon
  simp only [enabled, decide_eq_true_eq] at hen
  have hA : Asleep s₁.waitUntil 0 (effect interval s₁ .onTime) := fun _ => by
    simp only [effect, do_loop, toTimespec]
    omega
  have hs₂ := run_asleep hA hmid₁ fun b hb => ⟨(hacts b (by simp [hb])).1, (hacts b (by simp [hb])).2.1⟩
  obtain ⟨s₄, hdone, hmid₂⟩ := runSteps_cons_eq_some h₂
  obtain ⟨hd, rfl⟩ := step_eq_some.mp hdone
  simp only [enabled, decide_eq_true_eq] at hd
  have hc := (run_awake (by simp [Awake, effect, do_loop]) hmid₂ fun b hb =>
    ⟨(hacts b (by simp [hb])).1, (hacts b (by simp [hb])).2.1⟩).2
  have hsum := hs₂ (.inr hd.1)
  simp only [effect, do_loop] at hc
  rw [elapsed_append]
  omega

/-- On a clock that is never set, with no terminate signal and with interruptions by SIGUSR1 at
any point, `do_loop` keeps its cadence: the deadline law of a tick, no drift after a reset, no
read before its tick's deadline, and each read starting at the deadline plus its own sleep's
overshoot and the time passed between statements. -/
theorem do_loop_cadence (interval t0 : Nat) :
    DeadlineLaw interval t0 ∧ NoDrift interval t0 ∧ NoEarlyRead interval t0 ∧ ReadStart interval :=
  ⟨deadlineLaw interval t0, noDrift interval t0, noEarlyRead interval t0, readStart interval⟩

/-- From the entry at `100` with `interval = 10`: a read of `4`, an on-time tick with deadline
`110`, a sleep of `6` interrupted by SIGUSR1 after `2` and resumed for the `4` left, which it
overshoots by `1`; the next read starts at `111`. -/
theorem do_loop_cadence_run :
    ∃ s₁ s₂ s₃ s, run 10 (init 100) [.entry, .loopTest, .readAll, .elapse 4] = some s₁ ∧
      step 10 s₁ .onTime = some s₂ ∧
      run 10 s₂ [.sleepTest, .sleepEintr 2 (.usr1 true), .sleepTest] = some s₃ ∧
      run 10 s₃ [.sleepDone 5, .loopTest] = some s ∧ s.pc = .read ∧ s.clock = 111 ∧
      (s₂.waitUntil = s₁.waitUntil + 10 ∧ s₂.pc = .sleepTest ∧ s₂.tsWait = s₁.waitUntil - s₁.clock ∧
        0 < s₂.tsWait) ∧
      (s.waitUntil = (init 100).clock + (1 + 1) * 10 ∧
        (s.pc = .read → (init 100).clock + 1 * 10 ≤ s.clock)) ∧
      s₁.waitUntil ≤ s.clock ∧
      s.clock = s₁.waitUntil + (5 - s₃.tsWait) +
        elapsed ([.sleepTest, .sleepEintr 2 (.usr1 true), .sleepTest] ++ [.loopTest]) :=
  have h := do_loop_cadence 10 100
  ⟨_, _, _, _, rfl, rfl, rfl, rfl, rfl, rfl,
    (h.1 [.entry, .loopTest, .readAll, .elapse 4] .onTime _ _ rfl rfl (by decide) (by decide) rfl
      rfl).1 (by decide),
    h.2.1 [] .entry [.loopTest, .readAll, .elapse 4, .onTime, .sleepTest, .sleepEintr 2 (.usr1 true),
      .sleepTest, .sleepDone 5, .loopTest] _ _ rfl rfl (by decide) rfl (by decide) (by decide),
    h.2.2.1 [.entry, .loopTest, .readAll, .elapse 4] [.sleepTest, .sleepEintr 2 (.usr1 true),
      .sleepTest, .sleepDone 5, .loopTest] _ _ rfl rfl (by decide) (by decide) (by decide) rfl,
    h.2.2.2 [.sleepTest, .sleepEintr 2 (.usr1 true), .sleepTest] 5 [.loopTest] _ _ _ rfl rfl
      (by decide) rfl⟩

/-! ## How long a sleep can be -/

/-- While the clock is not set, every sleep `do_loop` asks `nanosleep` for is at most one
interval, whatever the reads, interruptions and overruns, as long as fewer than `2^32` terminate
signals arrive (more bring `loop` back to `0` during a sleep). -/
theorem sleep_le_interval {interval : Nat} (t0 : Nat) {acts : List Act} {s : State}
    (h : run interval (init t0) acts = some s) (hset : ∀ a ∈ acts, a.isSetClock = false)
    (hstops : acts.countP Act.isStop < 2 ^ 32) (hs : s.pc = .nanosleep) : s.tsWait ≤ interval := by
  have hP := run_paced (paced_init t0) h hset (by simpa [init] using hstops)
  simp only [Paced, hs] at hP
  exact hP.1

theorem sleep_le_interval_run :
    run 10 (init 100) [.entry, .loopTest, .readAll, .elapse 4, .onTime, .sleepTest] =
      some { pc := .nanosleep, loop := 0, flushes := [], waitUntil := 120, tsWait := 6, clock := 104 } ∧
    ({ pc := .nanosleep, loop := 0, flushes := [], waitUntil := 120, tsWait := 6, clock := 104 } :
      State).tsWait ≤ 10 :=
  ⟨rfl, @sleep_le_interval 10 100 [.entry, .loopTest, .readAll, .elapse 4, .onTime, .sleepTest] _ rfl
    (by decide) (by decide) rfl⟩

/-- The clock set back from `100` to `50` during the first read: with `interval = 10` the
first sleep `do_loop` asks for is `60`. -/
theorem sleep_exceeds_interval_after_clock_step :
    run 10 (init 100) [.entry, .loopTest, .readAll, .setClock 50, .onTime, .sleepTest] =
      some { pc := .nanosleep, loop := 0, flushes := [], waitUntil := 120, tsWait := 60, clock := 50 } :=
  rfl

end Collectd.Loop
