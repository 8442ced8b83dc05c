import Collectd.Loop.Step

/-!
# `do_loop`: a stop is honoured at the next loop test

`loop` counts the terminate deliveries (`run_loop_toNat`), so after the first one and before
`INT_MAX` of them it is nonzero and both loop conditions fail. From then on every step lowers two
measures of the program point: `callsLeft`, the calls of `plugin_read_all` or `nanosleep` it may
still begin, and `exitRank`, the statements it may still run (`step_after_stop`).

* `stop_honoured` : after the first SIGINT or SIGTERM, at most one more call and four more
  statements, and `do_loop` is never stuck before its `return`;
* `progress` : every program point but `return` has a statement that can run.
-/

namespace Collectd.Loop

/-- Calls a program point may still begin once `loop != 0`: the read it is about to start, or
the `nanosleep` the inner loop test has already let through. -/
def callsLeft : Pc → Nat
  | .read | .nanosleep => 1
  | _ => 0

/-- Statements a program point may still run once `loop != 0`. -/
def exitRank : Pc → Nat
  | .entry => 2
  | .loopTest => 1
  | .read => 4
  | .now => 3
  | .sleepTest => 2
  | .nanosleep => 3
  | .ret _ => 0

def Pc.returned : Pc → Bool
  | .ret _ => true
  | _ => false

theorem callsLeft_le_one (pc : Pc) : callsLeft pc ≤ 1 := by cases pc <;> simp [callsLeft]

theorem exitRank_le_four (pc : Pc) : exitRank pc ≤ 4 := by cases pc <;> simp [exitRank]

section Stop
variable {interval : Nat} {s s' : State} {a : Act} {acts : List Act}

/-- Every program point but `return` has a statement that can run. -/
theorem progress (hs : s.pc.returned = false) : ∃ b, b.isStatement ∧ enabled s b := by
  cases hpc : s.pc
  case now =>
    by_cases hlt : s.clock < s.waitUntil
    · exact ⟨.onTime, rfl, by simp [enabled, hpc, hlt]⟩
    · exact ⟨.overrun, rfl, by simp [enabled, hpc]; omega⟩
  case entry => exact ⟨.entry, rfl, by simp [enabled, hpc]⟩
  case loopTest => exact ⟨.loopTest, rfl, by simp [enabled, hpc]⟩
  case read => exact ⟨.readAll, rfl, by simp [enabled, hpc]⟩
  case sleepTest => exact ⟨.sleepTest, rfl, by simp [enabled, hpc]⟩
  case nanosleep => exact ⟨.sleepFail, rfl, by simp [enabled, hpc]⟩
  case ret => simp [hpc, Pc.returned] at hs

theorem step_loop_toNat (h : step interval s a = some s')
    (hw : a.isStop → s.loop.toNat + 1 < 2 ^ 32) :
    s'.loop.toNat = s.loop.toNat + if a.isStop then 1 else 0 := by
  rw [step_loop h]
  by_cases hs : a.isStop
  · rw [if_pos hs, if_pos hs]
    exact toNat_add_one (hw hs)
  · rw [if_neg hs, if_neg hs]
    rfl

/-- Before `loop` wraps, it is its start plus the terminate deliveries of the run. -/
theorem run_loop_toNat (h : run interval s acts = some s')
    (hw : s.loop.toNat + acts.countP Act.isStop < 2 ^ 32) :
    s'.loop.toNat = s.loop.toNat + acts.countP Act.isStop := by
  induction acts generalizing s with
  | nil => cases h; rfl
  | cons a acts ih =>
    obtain ⟨s₁, h₁, h₂⟩ := runSteps_cons_eq_some h
    rw [List.countP_cons] at hw ⊢
    have hl := step_loop_toNat h₁ fun hs => by simp only [hs, ↓reduceIte] at hw; omega
    rw [ih h₂ (by omega), hl]
    omega

/-- Once `loop != 0`, a step begins a call only where `callsLeft` drops by one, and runs a
statement only where `exitRank` drops. -/
theorem step_after_stop (hl : s.loop ≠ 0) (h : step interval s a = some s') :
    (if a.isCall then 1 else 0) + callsLeft s'.pc ≤ callsLeft s.pc ∧
      (if a.isStatement then 1 else 0) + exitRank s'.pc ≤ exitRank s.pc := by
  obtain ⟨he, rfl⟩ := step_eq_some.mp h
  cases a <;> simp only [enabled, decide_eq_true_eq] at he <;> simp only [effect, do_loop, between, if_neg hl] <;>
    simp [State.deliver, he, callsLeft, exitRank, Act.isCall, Act.isStatement]

theorem run_after_stop (hl : 0 < s.loop.toNat) (h : run interval s acts = some s')
    (hw : s.loop.toNat + acts.countP Act.isStop < 2 ^ 32) :
    acts.countP Act.isCall + callsLeft s'.pc ≤ callsLeft s.pc ∧
      acts.countP Act.isStatement + exitRank s'.pc ≤ exitRank s.pc := by
  induction acts generalizing s with
  | nil => cases h; simp
  | cons a acts ih =>
    obtain ⟨s₁, h₁, h₂⟩ := runSteps_cons_eq_some h
    rw [List.countP_cons] at hw
    have hl₁ := step_loop_toNat h₁ fun hs => by simp only [hs, ↓reduceIte] at hw; omega
    have hstep := step_after_stop (fun h0 => by simp [h0] at hl) h₁
    have ih' := ih (by omega) h₂ (by omega)
    simp only [List.countP_cons]
    omega

/-- After the first SIGINT or SIGTERM (fewer than `INT_MAX` of them in all), `do_loop` begins at
most one more call of `plugin_read_all` or `nanosleep` and runs at most four more statements, and
until it returns it always has a statement to run: it returns at its next loop test. -/
theorem stop_honoured (t0 : Nat) {pre post : List Act} {a : Act}
    (h : run interval (init t0) (pre ++ a :: post) = some s) (hfirst : pre.countP Act.isStop = 0)
    (ha : a.isStop) (hcount : (pre ++ a :: post).countP Act.isStop < intMax) :
    post.countP Act.isCall ≤ 1 ∧ post.countP Act.isStatement ≤ 4 ∧
      (s.pc.returned = false → ∃ b, b.isStatement ∧ enabled s b) := by
  rw [List.append_cons] at h hcount
  obtain ⟨s₁, h₁, hpost⟩ := runSteps_append_eq_some h
  have hstops : (pre ++ [a]).countP Act.isStop = 1 := by simp [hfirst, ha]
  rw [List.countP_append, hstops, intMax] at hcount
  have hl := run_loop_toNat h₁ (by simp [init, hstops])
  simp only [init, hstops] at hl
  simp at hl
  obtain ⟨hcalls, hstmts⟩ := run_after_stop (by omega) hpost (by omega)
  exact ⟨by have := callsLeft_le_one s₁.pc; omega, by have := exitRank_le_four s₁.pc; omega,
    progress⟩

/-- A SIGTERM after the first loop test: the read, the overrun test, and the inner loop test
that sends `do_loop` back to its `return`. -/
theorem stop_honoured_run :
    run 10 (init 100) ([.entry, .loopTest] ++ .signal .term :: [.readAll, .onTime, .sleepTest, .loopTest]) =
        some { pc := .ret 0, loop := 1, flushes := [], waitUntil := 120, tsWait := 10, clock := 100 } ∧
      ([.readAll, .onTime, .sleepTest, .loopTest] : List Act).countP Act.isCall ≤ 1 ∧
      ([.readAll, .onTime, .sleepTest, .loopTest] : List Act).countP Act.isStatement ≤ 4 := by
  have h : run 10 (init 100) ([.entry, .loopTest] ++ .signal .term :: [.readAll, .onTime, .sleepTest, .loopTest]) =
      some { pc := .ret 0, loop := 1, flushes := [], waitUntil := 120, tsWait := 10, clock := 100 } := rfl
  exact ⟨h, (stop_honoured 100 h (by decide) rfl (by decide)).1, (stop_honoured 100 h (by decide) rfl (by decide)).2.1⟩

end Stop

/-! ## How `do_loop` returns -/

section Returns
variable {interval : Nat} {s s' : State} {a : Act} {acts : List Act}

/-- A step ends at a `return` only from one, at the loop test with `loop != 0` (status `0`), or
at a failed `nanosleep` (status `-1`). -/
theorem step_returned (h : step interval s a = some s') (hr : s'.pc.returned) :
    s'.pc = s.pc ∨ (s.loop ≠ 0 ∧ s'.pc = .ret 0) ∨ (a = .sleepFail ∧ s'.pc = .ret (-1)) := by
  obtain ⟨-, rfl⟩ := step_eq_some.mp h
  cases a
  case loopTest =>
    by_cases hl : s.loop = 0
    · simp [effect, do_loop, between, hl, Pc.returned] at hr
    · exact .inr (.inl ⟨hl, by simp only [effect, do_loop, between, if_neg hl]⟩)
  case sleepFail => exact .inr (.inr ⟨rfl, rfl⟩)
  case sleepTest => simp only [effect, do_loop, between] at hr ⊢; split at hr <;> simp [Pc.returned] at hr
  case signal => exact .inl (by simp [effect, do_loop, between, State.deliver])
  case elapse | setClock => exact .inl rfl
  all_goals simp [effect, do_loop, between, State.deliver, Pc.returned] at hr

/-- Over a run that ends at a `return`: the run started there, or it returned `0` with `loop`
already nonzero or a terminate delivery in the run, or `-1` after a failed `nanosleep`. -/
theorem run_returned (h : run interval s acts = some s') (hr : s'.pc.returned) :
    s'.pc = s.pc ∨ (s'.pc = .ret 0 ∧ (s.loop ≠ 0 ∨ ∃ a ∈ acts, a.isStop)) ∨
      (s'.pc = .ret (-1) ∧ .sleepFail ∈ acts) := by
  induction acts generalizing s with
  | nil => cases h; exact .inl rfl
  | cons a acts ih =>
    obtain ⟨s₁, h₁, h₂⟩ := runSteps_cons_eq_some h
    rcases ih h₂ with hpc | ⟨hpc, hl | ⟨b, hb, hstop⟩⟩ | ⟨hpc, hfail⟩
    · rw [hpc] at hr ⊢
      rcases step_returned h₁ hr with hpc₁ | ⟨hl, hpc₁⟩ | ⟨rfl, hpc₁⟩
      · exact .inl hpc₁
      · exact .inr (.inl ⟨hpc₁, .inl hl⟩)
      · exact .inr (.inr ⟨hpc₁, List.mem_cons_self _ _⟩)
    · rw [step_loop h₁] at hl
      by_cases ha : a.isStop
      · exact .inr (.inl ⟨hpc, .inr ⟨a, List.mem_cons_self _ _, ha⟩⟩)
      · exact .inr (.inl ⟨hpc, .inl (by simpa [ha] using hl)⟩)
    · exact .inr (.inl ⟨hpc, .inr ⟨b, List.mem_cons_of_mem _ hb, hstop⟩⟩)
    · exact .inr (.inr ⟨hpc, List.mem_cons_of_mem _ hfail⟩)

/-- `do_loop` returns `0` only after a SIGINT or SIGTERM, delivered in the run or before it was
entered (a stop during `do_init` leaves `loop != 0`), and `-1` only after `nanosleep` failed with
an `errno` other than `EINTR`; it has no other `return`. Entered after a stop, it returns at its
first loop test without a read or a sleep. (`main` discards the status.) -/
theorem do_loop_returns (loop : BitVec 32) (t0 : Nat) (h : run interval (enter loop t0) acts = some s)
    (hr : s.pc.returned) :
    ((s.pc = .ret 0 ∧ (loop ≠ 0 ∨ ∃ a ∈ acts, a.isStop)) ∨ (s.pc = .ret (-1) ∧ .sleepFail ∈ acts)) ∧
      (loop ≠ 0 → loop.toNat + acts.countP Act.isStop < 2 ^ 32 → acts.countP Act.isCall = 0) := by
  refine ⟨?_, fun hl hw => ?_⟩
  · rcases run_returned h hr with hpc | ⟨hpc, hl | hstop⟩ | hfail
    · simp [hpc, Pc.returned] at hr
    · exact .inl ⟨hpc, .inl hl⟩
    · exact .inl ⟨hpc, .inr hstop⟩
    · exact .inr hfail
  · have hpos : 0 < loop.toNat := Nat.pos_of_ne_zero fun h0 => hl (BitVec.eq_of_toNat_eq h0)
    have := (run_after_stop hpos h hw).1
    simp only [enter_pc, callsLeft] at this
    omega

/-- A stop delivered during `do_init`: `do_loop` is entered with `loop = 1` and returns `0` at its
first loop test, with no stop in its own run. -/
theorem do_loop_returns_run :
    run 10 (enter 1 100) [.entry, .loopTest] =
        some { pc := .ret 0, loop := 1, flushes := [], waitUntil := 110, tsWait := 0, clock := 100 } ∧
      (((Pc.ret 0 = .ret 0 ∧ ((1 : BitVec 32) ≠ 0 ∨ ∃ a ∈ [Act.entry, .loopTest], a.isStop)) ∨
        (Pc.ret 0 = .ret (-1) ∧ Act.sleepFail ∈ [Act.entry, .loopTest])) ∧
      ((1 : BitVec 32) ≠ 0 → (1 : BitVec 32).toNat + [Act.entry, .loopTest].countP Act.isStop < 2 ^ 32 →
        [Act.entry, .loopTest].countP Act.isCall = 0)) := by
  have h : run 10 (enter 1 100) [.entry, .loopTest] =
      some { pc := .ret 0, loop := 1, flushes := [], waitUntil := 110, tsWait := 0, clock := 100 } := rfl
  exact ⟨h, do_loop_returns 1 100 h rfl⟩

end Returns

end Collectd.Loop
