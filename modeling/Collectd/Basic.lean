import Mathlib.Data.List.Basic
import Mathlib.Algebra.Group.Nat.Basic

/-!
# Machine values of `collectd.c`

* `CStr` : a C string, the bytes before its terminating NUL, one `Char` each, so it holds no NUL;
* `cString` : a NUL-padded buffer read as a C string;
* `strncpy`, `sstrncpy` : the copies into a fixed buffer of `n` bytes, with their two shapes
  (`sstrncpy_of_lt` for a source that fits, `sstrncpy_of_le` for one that is cut) and
  `cString_sstrncpy`: the copy reads back as the source cut to `n - 1` characters;
* `addU64` : `cdtime_t` addition, a `uint64_t` sum that wraps at `2^64`;
* `intMax` : `INT_MAX` of the 32-bit `int` that holds the stop counter;
* `runSteps` : the runs of a transition function that may refuse a step, with the lemmas that
  split a run and carry an invariant along it.
-/

namespace Collectd

/-! ## C strings -/

def nul : Char := Char.ofNat 0

/-- A C string: the characters before its terminating NUL, each standing for one byte. -/
structure CStr where
  chars : List Char
  nul_not_mem : nul ∉ chars
  bytes : ∀ c ∈ chars, c.toNat < 256
  deriving DecidableEq

/-- A buffer read as a C string: its characters up to the first NUL. -/
def cString (buf : List Char) : List Char := buf.takeWhile (· ≠ nul)

/-- `strncpy (dest, src, n)`: the first `n` characters of `src`, padded with NULs to `n`. -/
def strncpy (src : List Char) (n : Nat) : List Char :=
  src.take n ++ List.replicate (n - src.length) nul

/-- Modelled from the spec: `sstrncpy` of `common.c`, which is not among the sources, copies at
most `n - 1` characters and NUL-terminates: `strncpy (dest, src, n); dest[n - 1] = '\0';`. -/
def sstrncpy (src : List Char) (n : Nat) : List Char := (strncpy src n).set (n - 1) nul

/-- A source shorter than the buffer is copied whole and padded with NULs. -/
theorem sstrncpy_of_lt (src : List Char) {n : Nat} (h : src.length < n) :
    sstrncpy src n = src ++ List.replicate (n - src.length) nul := by
  rw [sstrncpy, strncpy, List.take_of_length_le h.le, List.set_append_right _ _ (by omega),
    List.set_replicate_self]

/-- A source as long as the buffer or longer loses its `n`-th character and the rest. -/
theorem sstrncpy_of_le (src : List Char) {n : Nat} (hn : 0 < n) (h : n ≤ src.length) :
    sstrncpy src n = src.take (n - 1) ++ [nul] := by
  obtain ⟨k, rfl⟩ : ∃ k, n = k + 1 := ⟨n - 1, by omega⟩
  rw [sstrncpy, strncpy, Nat.sub_eq_zero_of_le h, List.replicate_zero, List.append_nil,
    List.take_succ, List.getElem?_eq_getElem (by omega), Option.toList_some,
    List.set_append_right _ _ (by simp only [List.length_take]; omega), List.length_take, Nat.min_eq_left (by omega),
    Nat.add_sub_cancel, Nat.sub_self]
  rfl

theorem cString_sstrncpy (src : CStr) {n : Nat} (hn : 0 < n) :
    cString (sstrncpy src.chars n) = src.chars.take (n - 1) := by
  have hpos : ∀ c ∈ src.chars, decide (c ≠ nul) = true := fun c hc => by
    simp only [decide_eq_true_eq]
    rintro rfl
    exact src.nul_not_mem hc
  rcases Nat.lt_or_ge src.chars.length n with h | h
  · obtain ⟨k, hk⟩ : ∃ k, n - src.chars.length = k + 1 := ⟨n - src.chars.length - 1, by omega⟩
    rw [sstrncpy_of_lt _ h, cString, hk, List.takeWhile_append_of_pos hpos, List.replicate_succ,
      List.takeWhile_cons_of_neg (by simp), List.append_nil, List.take_of_length_le (by omega)]
  · rw [sstrncpy_of_le _ hn h, cString,
      List.takeWhile_append_of_pos fun c hc => hpos c (List.mem_of_mem_take hc)]
    simp

/-! ## Machine integers -/

/-- `cdtime_t` addition: `cdtime_t` is a `uint64_t`, so the sum wraps at `2^64`. -/
def addU64 (a b : Nat) : Nat := (a + b) % 2 ^ 64

theorem addU64_le (a b : Nat) : addU64 a b ≤ a + b := Nat.mod_le _ _

theorem addU64_of_lt {a b : Nat} (h : a + b < 2 ^ 64) : addU64 a b = a + b := Nat.mod_eq_of_lt h

/-- `INT_MAX` of a 32-bit `int`. -/
def intMax : Nat := 2 ^ 31 - 1

/-! ## Runs of a transition system -/

section Runs
variable {σ α : Type} (step : σ → α → Option σ)

/-- The state after the steps `acts`, if each can happen in turn. -/
def runSteps : σ → List α → Option σ
  | s, [] => some s
  | s, a :: acts => (step s a).bind fun s' => runSteps s' acts

variable {step} {s s' : σ} {a : α} {acts : List α}

theorem runSteps_cons_eq_some (h : runSteps step s (a :: acts) = some s') :
    ∃ s₁, step s a = some s₁ ∧ runSteps step s₁ acts = some s' :=
  Option.bind_eq_some.mp h

theorem runSteps_append (xs ys : List α) :
    runSteps step s (xs ++ ys) = (runSteps step s xs).bind fun s' => runSteps step s' ys := by
  induction xs generalizing s with
  | nil => rfl
  | cons a xs ih =>
    show (step s a).bind _ = ((step s a).bind _).bind _
    cases step s a <;> simp [ih]

theorem runSteps_append_eq_some {xs ys : List α} (h : runSteps step s (xs ++ ys) = some s') :
    ∃ s₁, runSteps step s xs = some s₁ ∧ runSteps step s₁ ys = some s' :=
  Option.bind_eq_some.mp (runSteps_append xs ys ▸ h)

/-- An invariant of every step of a kind is one of every run made of such steps. -/
theorem runSteps_invariant (P : σ → Prop) (p : α → Prop)
    (hP : ∀ s a s', p a → P s → step s a = some s' → P s')
    (hacts : ∀ a ∈ acts, p a) (hs : P s) (h : runSteps step s acts = some s') : P s' := by
  induction acts generalizing s with
  | nil => cases h; exact hs
  | cons a acts ih =>
    obtain ⟨s₁, h₁, h₂⟩ := runSteps_cons_eq_some h
    exact ih (fun b hb => hacts b (by simp [hb])) (hP s a s₁ (hacts a (by simp)) hs h₁) h₂

end Runs

end Collectd
