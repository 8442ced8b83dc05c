import Collectd.Signal

/-!
# `do_loop` as a transition system

`do_loop` (lines 358–404) is a machine whose steps are its statements, interleaved with what the
rest of the world does between them: a signal is delivered, time passes (inside
`plugin_read_all` or anywhere else), or the real-time clock is set. A run is a list of `Act`s and
that list is its trace: each statement is named by what it did, the overrun test by the branch it
took (`overrun`, `onTime`), `nanosleep` by how it came back (`sleepDone`, `sleepEintr`,
`sleepFail`).

* `State` : the program point, `loop`, the flush threads, `wait_until`, `ts_wait`, and the value
  `cdtime ()` returns now;
* `do_loop interval s a` : what the statement `a` does; `between` : what a delivery, time passing
  or a setting of the clock does between two statements;
* `step interval s a` : the state after `a`, or `none` when `a` cannot happen in `s`;
* `run` : the state after a list of actions, from `enter loop t0`: `loop` is what the handlers
  left during `do_init` (`init t0` when no stop came before);
* `Act.isCall` marks the calls of `plugin_read_all` and `nanosleep`, `Act.isStop` a SIGINT or
  SIGTERM delivery, `Act.isStatement` the steps `do_loop` takes itself;
* `usr1_only_flushes` : each SIGUSR1 whose `pthread_create` succeeds starts one flush thread and
  nothing else starts one, and the deliveries between statements leave the rest of the run as it
  would be without them.

`nanosleep` is modelled as the spec has it: it comes back with `0` only once at least the request
has elapsed, and with `EINTR` only when a handled signal was delivered, after storing the unslept
part of the request.
-/

namespace Collectd.Loop

/-- The statement `do_loop` runs next. -/
inductive Pc where
  /-- `wait_until = cdtime () + interval;` -/
  | entry
  /-- `while (loop == 0)` -/
  | loopTest
  | read
  /-- `now = cdtime (); if (now >= wait_until)` -/
  | now
  /-- `while ((loop == 0) && ...` -/
  | sleepTest
  /-- `... (nanosleep (&ts_wait, &ts_wait) != 0))` -/
  | nanosleep
  | ret (status : Int)
  deriving DecidableEq, Repr

/-- The variables `do_loop` reads and writes, and the clock. -/
structure State where
  pc : Pc
  loop : BitVec 32
  flushes : List FlushCall
  waitUntil : Nat
  tsWait : Nat
  /-- What `cdtime ()` returns at this point. -/
  clock : Nat
  deriving DecidableEq, Repr

/-- A step of `do_loop`, or of the world around it. -/
inductive Act where
  | entry
  | loopTest
  | readAll
  /-- `now >= wait_until`: warn, `wait_until = now + interval`, no sleep. -/
  | overrun
  /-- `now < wait_until`: `ts_wait = wait_until - now`, `wait_until += interval`. -/
  | onTime
  | sleepTest
  /-- `nanosleep` returns `0` after `d` has elapsed. -/
  | sleepDone (d : Nat)
  /-- `nanosleep` fails with `EINTR` after `d` has elapsed: `sig` was delivered. -/
  | sleepEintr (d : Nat) (sig : Sig)
  /-- `nanosleep` fails with another `errno`. -/
  | sleepFail
  /-- `sig` is delivered between two statements. -/
  | signal (sig : Sig)
  | elapse (d : Nat)
  | setClock (t : Nat)
  deriving DecidableEq, Repr

/-- Modelled from the spec: `CDTIME_T_TO_TIMESPEC` (utils_time.h, not among the sources). The spec
has `do_loop` sleep for `wait_until - now` (§4.1, step 4), so the request is that duration. -/
def toTimespec (d : Nat) : Nat := d

def State.deliver (s : State) (sig : Sig) : State :=
  { s with loop := sig.onLoop s.loop, flushes := sig.onFlush s.flushes }

/-- Whether `a` can happen in `s`: a statement runs at its own program point, the overrun test
takes the branch its comparison gives, and `nanosleep` comes back as the spec has it (`0` once
the request has elapsed, `EINTR` with the unslept part left). -/
def enabled (s : State) : Act → Bool
  | .entry => s.pc = .entry
  | .loopTest => s.pc = .loopTest
  | .readAll => s.pc = .read
  | .overrun => s.pc = .now ∧ s.waitUntil ≤ s.clock
  | .onTime => s.pc = .now ∧ s.clock < s.waitUntil
  | .sleepTest => s.pc = .sleepTest
  | .sleepDone d => s.pc = .nanosleep ∧ s.tsWait ≤ d
  | .sleepEintr d _ => s.pc = .nanosleep ∧ d ≤ s.tsWait
  | .sleepFail => s.pc = .nanosleep
  | .signal _ | .elapse _ | .setClock _ => true

/-- `do_loop` (lines 358–404), one statement: what the statement `a` names does, with
`interval = cf_get_default_interval ()`. -/
def do_loop (interval : Nat) (s : State) : Act → State
  | .entry => { s with pc := .loopTest, waitUntil := addU64 s.clock interval }
  | .loopTest => { s with pc := if s.loop = 0 then .read else .ret 0 }
  | .readAll => { s with pc := .now }
  | .overrun => { s with pc := .loopTest, waitUntil := addU64 s.clock interval }
  | .onTime =>
    { s with pc := .sleepTest, tsWait := toTimespec (s.waitUntil - s.clock),
             waitUntil := addU64 s.waitUntil interval }
  | .sleepTest => { s with pc := if s.loop = 0 then .nanosleep else .loopTest }
  | .sleepDone d => { s with pc := .loopTest, clock := s.clock + d }
  | .sleepEintr d sig =>
    { s with pc := .sleepTest, clock := s.clock + d, tsWait := s.tsWait - d }.deliver sig
  | .sleepFail => { s with pc := .ret (-1) }
  | .signal _ | .elapse _ | .setClock _ => s

/-- What happens between two statements: a delivery, time passing, the clock being set. -/
def between (s : State) : Act → State
  | .signal sig => s.deliver sig
  | .elapse d => { s with clock := s.clock + d }
  | .setClock t => { s with clock := t }
  | _ => s

/-- What `a` does: a statement of `do_loop`, or what happens between two. -/
def effect (interval : Nat) (s : State) (a : Act) : State :=
  match a with
  | .signal _ | .elapse _ | .setClock _ => between s a
  | .entry | .loopTest | .readAll | .overrun | .onTime | .sleepTest | .sleepDone _
  | .sleepEintr _ _ | .sleepFail => do_loop interval s a

def step (interval : Nat) (s : State) (a : Act) : Option State :=
  if enabled s a then some (effect interval s a) else none

/-- The state `do_loop` is entered in: `loop` as the handlers left it, installed before `do_init`
(lines 800–830), and `cdtime ()` at `t0`. -/
def enter (loop : BitVec 32) (t0 : Nat) : State :=
  { pc := .entry, loop := loop, flushes := [], waitUntil := 0, tsWait := 0, clock := t0 }

/-- Entered with no stop delivered before. -/
def init (t0 : Nat) : State := enter 0 t0

@[simp] theorem enter_pc (loop : BitVec 32) (t0 : Nat) : (enter loop t0).pc = .entry := rfl
@[simp] theorem enter_loop (loop : BitVec 32) (t0 : Nat) : (enter loop t0).loop = loop := rfl
@[simp] theorem enter_flushes (loop : BitVec 32) (t0 : Nat) : (enter loop t0).flushes = [] := rfl
@[simp] theorem enter_clock (loop : BitVec 32) (t0 : Nat) : (enter loop t0).clock = t0 := rfl

def run (interval : Nat) : State → List Act → Option State := runSteps (step interval)

/-! ## Kinds of actions -/

/-- A call of `plugin_read_all` or of `nanosleep`. -/
def Act.isCall : Act → Bool
  | .readAll | .sleepDone _ | .sleepEintr _ _ | .sleepFail => true
  | _ => false

/-- A SIGINT or SIGTERM delivery, between statements or interrupting `nanosleep`. -/
def Act.isStop : Act → Bool
  | .signal sig | .sleepEintr _ sig => sig.terminates
  | _ => false

/-- A step `do_loop` takes itself. -/
def Act.isStatement : Act → Bool
  | .signal _ | .elapse _ | .setClock _ => false
  | _ => true

/-- The real-time clock is set (forward settings are `elapse`). -/
def Act.isSetClock : Act → Bool
  | .setClock _ => true
  | _ => false

/-- Neither a setting of the clock nor a terminate delivery. -/
def Act.isSteady (a : Act) : Bool := !a.isSetClock && !a.isStop

theorem Act.isSteady_iff {a : Act} : a.isSteady ↔ a.isSetClock = false ∧ a.isStop = false := by
  simp [Act.isSteady]

/-- A statement that sets `wait_until` from the clock: the entry and an overrun. -/
def Act.isReset : Act → Bool
  | .entry | .overrun => true
  | _ => false

/-! ## What one step changes -/

section Effects
variable {interval : Nat} {s s' : State} {a : Act}

theorem step_eq_some : step interval s a = some s' ↔ enabled s a ∧ effect interval s a = s' := by
  simp [step]

/-- `loop` changes only by a terminate delivery, by one. -/
theorem step_loop (h : step interval s a = some s') :
    s'.loop = if a.isStop then s.loop + 1 else s.loop := by
  obtain ⟨-, rfl⟩ := step_eq_some.mp h
  cases a <;> simp [effect, do_loop, between, State.deliver, Sig.onLoop_eq, Act.isStop]

/-- The clock goes back only when it is set. -/
theorem step_clock_mono (h : step interval s a = some s') (ha : a.isSetClock = false) :
    s.clock ≤ s'.clock := by
  obtain ⟨-, rfl⟩ := step_eq_some.mp h
  cases a <;> simp only [effect, do_loop, between, State.deliver] <;> first | omega | cases ha

/-- `wait_until` changes only at the entry and at the overrun test. -/
theorem step_waitUntil (h : step interval s a = some s') :
    s'.waitUntil = if a = .onTime then addU64 s.waitUntil interval
      else if a.isReset then addU64 s.clock interval else s.waitUntil := by
  obtain ⟨-, rfl⟩ := step_eq_some.mp h
  cases a <;> simp [effect, do_loop, between, State.deliver, Act.isReset]

theorem run_clock_mono {acts : List Act} (h : run interval s acts = some s')
    (ha : ∀ a ∈ acts, a.isSetClock = false) : s.clock ≤ s'.clock := by
  induction acts generalizing s with
  | nil => cases h; rfl
  | cons a acts ih =>
    obtain ⟨s₁, h₁, h₂⟩ := runSteps_cons_eq_some h
    exact (step_clock_mono h₁ (ha a (by simp))).trans (ih h₂ fun b hb => ha b (by simp [hb]))

end Effects

/-! ## SIGUSR1 -/

/-- A SIGUSR1 whose handler starts its thread, between statements or interrupting `nanosleep`. -/
def Act.startsFlush : Act → Bool
  | .signal sig | .sleepEintr _ sig => sig.startsFlush
  | _ => false

/-- A SIGUSR1 delivered between two statements. -/
def Act.isUsr1 : Act → Bool
  | .signal (.usr1 _) => true
  | _ => false

theorem enabled_flushes (s : State) (flushes : List FlushCall) (a : Act) :
    enabled { s with flushes := flushes } a = enabled s a := by
  cases a <;> rfl

/-- A step does the same with other flush threads, and adds one thread exactly for a SIGUSR1
whose `pthread_create` succeeds. -/
theorem effect_flushes (interval : Nat) (s : State) (flushes : List FlushCall) (a : Act) :
    effect interval { s with flushes := flushes } a =
      { effect interval s a with flushes := if a.startsFlush then flushes ++ [do_flush] else flushes } := by
  cases a
  case signal sig | sleepEintr d sig => cases sig <;> rfl
  all_goals rfl

section Usr1
variable {interval : Nat} {s s' : State} {acts : List Act}

theorem run_flushes (h : run interval s acts = some s') :
    s'.flushes = s.flushes ++ List.replicate (acts.countP Act.startsFlush) do_flush := by
  induction acts generalizing s with
  | nil => cases h; simp
  | cons a acts ih =>
    obtain ⟨s₁, h₁, h₂⟩ := runSteps_cons_eq_some h
    obtain ⟨-, rfl⟩ := step_eq_some.mp h₁
    have hf : (effect interval s a).flushes =
        if a.startsFlush then s.flushes ++ [do_flush] else s.flushes := by
      simpa using congrArg State.flushes (effect_flushes interval s s.flushes a)
    rw [ih h₂, hf, List.countP_cons]
    split <;> simp [List.replicate_succ]

/-- Leaving out the SIGUSR1s between statements, a run reaches the same state but for the flush
threads, from any flush threads. -/
theorem run_without_usr1 (h : run interval s acts = some s') (flushes : List FlushCall) :
    ∃ flushes', run interval { s with flushes := flushes } (acts.filter fun a => !a.isUsr1) =
      some { s' with flushes := flushes' } := by
  induction acts generalizing s flushes with
  | nil => cases h; exact ⟨flushes, rfl⟩
  | cons a acts ih =>
    obtain ⟨s₁, h₁, h₂⟩ := runSteps_cons_eq_some h
    obtain ⟨he, rfl⟩ := step_eq_some.mp h₁
    by_cases ha : a.isUsr1
    · obtain ⟨ok, rfl⟩ : ∃ ok, a = .signal (.usr1 ok) := by
        cases a with
        | signal sig => cases sig <;> first | exact ⟨_, rfl⟩ | cases ha
        | _ => cases ha
      rw [List.filter_cons_of_neg (by simp [Act.isUsr1])]
      exact ih h₂ flushes
    · rw [List.filter_cons_of_pos (by simpa using ha)]
      obtain ⟨flushes', hrun⟩ := ih h₂ (if a.startsFlush then flushes ++ [do_flush] else flushes)
      refine ⟨flushes', ?_⟩
      show (step interval _ a).bind _ = _
      rw [step, enabled_flushes, if_pos he, Option.some_bind, effect_flushes]
      exact hrun

/-- A SIGUSR1 starts a flush thread when its `pthread_create` succeeds, between statements or
interrupting `nanosleep`, and nothing else starts one; and the deliveries between statements
change nothing else: without them the run reaches the same state but for the flush threads. -/
theorem usr1_only_flushes (h : run interval s acts = some s') :
    s'.flushes = s.flushes ++ List.replicate (acts.countP Act.startsFlush) do_flush ∧
      ∃ flushes, run interval s (acts.filter fun a => !a.isUsr1) = some { s' with flushes := flushes } :=
  ⟨run_flushes h, run_without_usr1 h s.flushes⟩

/-- A cycle in which SIGUSR1 arrives between two statements, and twice during `nanosleep`, the
second time with `pthread_create` failing. -/
def usr1Run : List Act :=
  [.entry, .loopTest, .signal (.usr1 true), .readAll, .onTime, .sleepTest, .sleepEintr 3 (.usr1 true),
    .sleepTest, .sleepEintr 1 (.usr1 false), .sleepTest, .sleepDone 6]

theorem usr1_only_flushes_run :
    ∃ s, run 10 (init 0) usr1Run = some s ∧ s.pc = .loopTest ∧ s.flushes = [do_flush, do_flush] ∧
      (s.flushes = (init 0).flushes ++ List.replicate (usr1Run.countP Act.startsFlush) do_flush ∧
        ∃ flushes, run 10 (init 0) (usr1Run.filter fun a => !a.isUsr1) =
          some { s with flushes := flushes }) :=
  ⟨_, rfl, rfl, rfl, usr1_only_flushes rfl⟩

end Usr1

end Collectd.Loop
