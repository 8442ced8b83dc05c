import Collectd.Basic
import Mathlib.Data.BitVec

/-!
# Signal handlers

What the handlers `main` installs (lines 800–825) write when a signal is delivered, in the
nanosleep build, where they share the counter `loop` with `do_loop`:

* `Signal` : the three handled signals; SIGPIPE is ignored and never interrupts a call;
* `Sig` : a delivery of one, with whether the SIGUSR1 handler's `pthread_create` succeeds;
* `sig_int_handler`, `sig_term_handler` : `loop++` on the 32-bit signed `int` counter, which
  wraps as two's complement (the `2^31`-th increment is a signed overflow);
* `sig_usr1_handler` : a detached thread running `do_flush`, when `pthread_create` succeeds: its
  result is not checked;
* `loopAfter` : the counter after a sequence of deliveries is its start plus the number of
  terminate signals among them, mod `2^32` (`loopAfter_eq`); it is nonzero after one to
  `2^32 - 1` of them (`loopAfter_ne_zero`) and back at `0` after `2^32`.
-/

namespace Collectd

/-- The signals `main` installs handlers for. -/
inductive Signal where
  | SIGINT
  | SIGTERM
  | SIGUSR1
  deriving DecidableEq, Repr

/-- A delivery of a handled signal; the handler of SIGUSR1 calls `pthread_create`, which succeeds
or not. -/
inductive Sig where
  | int
  | term
  | usr1 (pthread_create : Bool)
  deriving DecidableEq, Repr

/-- SIGINT and SIGTERM ask the daemon to stop. -/
def Sig.terminates : Sig → Bool
  | .int | .term => true
  | .usr1 _ => false

/-- A SIGUSR1 whose handler starts its thread. -/
def Sig.startsFlush : Sig → Bool
  | .usr1 pthread_create => pthread_create
  | _ => false

/-- `loop++` (lines 93–101): both terminate handlers run it. -/
def bumpLoop (loop : BitVec 32) : BitVec 32 := loop + 1

/-- `sig_int_handler` (lines 93–96). -/
def sig_int_handler (loop : BitVec 32) : BitVec 32 := bumpLoop loop

/-- `sig_term_handler` (lines 98–101). -/
def sig_term_handler (loop : BitVec 32) : BitVec 32 := bumpLoop loop

/-- The arguments of one `plugin_flush` call. -/
structure FlushCall where
  plugin : Option String
  timeout : Int
  ident : Option String
  deriving DecidableEq, Repr

/-- `do_flush` (lines 81–90): `plugin_flush (NULL, 0, NULL)`, every plugin, every identifier. -/
def do_flush : FlushCall := ⟨none, 0, none⟩

/-- `sig_usr1_handler` (lines 104–115): one more detached thread running `do_flush`, when
`pthread_create` succeeds. -/
def sig_usr1_handler (pthread_create : Bool) (threads : List FlushCall) : List FlushCall :=
  if pthread_create then threads ++ [do_flush] else threads

def Sig.onLoop : Sig → BitVec 32 → BitVec 32
  | .int => sig_int_handler
  | .term => sig_term_handler
  | .usr1 _ => id

def Sig.onFlush : Sig → List FlushCall → List FlushCall
  | .usr1 pthread_create => sig_usr1_handler pthread_create
  | _ => id

theorem Sig.onLoop_eq (sig : Sig) (loop : BitVec 32) :
    sig.onLoop loop = if sig.terminates then loop + 1 else loop := by
  cases sig <;> rfl

/-! ## The stop counter over a sequence of deliveries -/

def loopAfter (sigs : List Sig) (loop : BitVec 32) : BitVec 32 := sigs.foldl (fun l s => s.onLoop l) loop

theorem add_one_add_ofNat (l : BitVec 32) (n : Nat) :
    l + 1 + BitVec.ofNat 32 n = l + BitVec.ofNat 32 (n + 1) := by
  apply BitVec.eq_of_toNat_eq
  simp [BitVec.toNat_add]
  omega

theorem loopAfter_eq (sigs : List Sig) (loop : BitVec 32) :
    loopAfter sigs loop = loop + BitVec.ofNat 32 (sigs.countP Sig.terminates) := by
  induction sigs generalizing loop with
  | nil => simp [loopAfter]
  | cons s sigs ih =>
    rw [loopAfter, List.foldl_cons, ← loopAfter, ih, Sig.onLoop_eq, List.countP_cons]
    split
    · exact add_one_add_ofNat _ _
    · rfl

theorem toNat_add_one {l : BitVec 32} (h : l.toNat + 1 < 2 ^ 32) : (l + 1).toNat = l.toNat + 1 := by
  simp [BitVec.toNat_add]
  omega

theorem add_one_ne_zero {l : BitVec 32} (h : l.toNat + 1 < 2 ^ 32) : l + 1 ≠ 0 := by
  intro h0
  have := toNat_add_one h
  rw [h0] at this
  simp at this

theorem ofNat_ne_zero {n : Nat} (h1 : 0 < n) (h2 : n < 2 ^ 32) : BitVec.ofNat 32 n ≠ 0 := by
  intro h
  have := congrArg BitVec.toNat h
  simp at this
  omega

/-- Between one and `2^32 - 1` terminate deliveries from `loop = 0` leave `loop != 0`. -/
theorem loopAfter_ne_zero (sigs : List Sig) (h1 : 0 < sigs.countP Sig.terminates)
    (h2 : sigs.countP Sig.terminates < 2 ^ 32) : loopAfter sigs 0 ≠ 0 := by
  simpa [loopAfter_eq] using ofNat_ne_zero h1 h2

theorem loopAfter_ne_zero_run :
    0 < [Sig.int, .usr1 true, .term].countP Sig.terminates ∧
      [Sig.int, .usr1 true, .term].countP Sig.terminates < 2 ^ 32 ∧
      loopAfter [.int, .usr1 true, .term] 0 ≠ 0 :=
  ⟨by decide, by decide, loopAfter_ne_zero _ (by decide) (by decide)⟩

/-- `2^32` SIGINT deliveries bring `loop` back to `0` (the `2^31`-th is already a signed
overflow), after which `while (loop == 0)` goes on. -/
theorem loop_zero_after_two_pow_32_stops : loopAfter (List.replicate (2 ^ 32) Sig.int) 0 = 0 := by
  rw [loopAfter_eq, List.countP_replicate]
  decide

end Collectd
