import Collectd.Basic
import Mathlib.Data.List.DropRight
import Mathlib.Logic.Function.Basic

/-!
# The files `main` touches: the base directory and the PID file

`change_basedir` (lines 198–259) strips the trailing `/`s of `BaseDir` in place and moves into
the directory, creating it when `chdir` reports `ENOENT`. `pidfile_create` and `pidfile_remove`
(lines 414–440) write and unlink the file `PIDFile` names.

* `trimSlashes` : the loop of lines 214–215; the buffer reads back as the name without its
  trailing `/`s (`trimSlashes_eq`);
* `change_basedir_paths` : a name with a character other than `/` is tried with `chdir` first,
  and every path passed to `chdir` and `mkdir` is the name without its trailing `/`s;
* `change_basedir_root` : a name made only of `/`s, the root among them, is refused without a
  call;
* `pidfile_create`, `pidfile_remove` : with the outcomes the code does not check: how much of the
  pid `fprintf` and `fclose` get into the file, and whether `unlink` is refused.
-/

namespace Collectd.Files

/-! ## `change_basedir` -/

/-- How a call of `chdir` or `mkdir` returns: `0`, or `-1` with `errno` at `ENOENT` or another
value. -/
inductive Status where
  | ok
  | enoent
  | error
  deriving DecidableEq, Repr

/-- The outcomes of the calls `change_basedir` makes, in turn. -/
structure BasedirCalls where
  strdup : Bool
  chdir : Status
  mkdir : Status
  /-- The `chdir` after `mkdir`. -/
  chdirAgain : Status
  deriving DecidableEq, Repr

/-- A call `change_basedir` makes, with the path it passes. -/
inductive Call where
  | chdir (path : List Char)
  | mkdir (path : List Char)
  deriving DecidableEq, Repr

def Call.path : Call → List Char
  | .chdir path | .mkdir path => path

/-- `while ((dirlen > 0) && (dir[dirlen - 1] == '/')) dir[--dirlen] = '\0';` (lines 214–215):
the buffer and `dirlen` after the loop. -/
def trimSlashes (dir : List Char) : Nat → List Char × Nat
  | 0 => (dir, 0)
  | dirlen + 1 =>
    if dir[dirlen]? = some '/' then trimSlashes (dir.set dirlen nul) dirlen else (dir, dirlen + 1)

/-- `change_basedir` (lines 198–259): the status and the calls it makes on the file system. The
copy `dir` is the name and its NUL. -/
def change_basedir (calls : BasedirCalls) (orig_dir : CStr) : Int × List Call :=
  if !calls.strdup then (-1, [])
  else
    let trimmed := trimSlashes (orig_dir.chars ++ [nul]) orig_dir.chars.length
    if trimmed.2 = 0 then (-1, [])
    else
      let dir := cString trimmed.1
      match calls.chdir with
      | .ok => (0, [.chdir dir])
      | .error => (-1, [.chdir dir])
      | .enoent =>
        if calls.mkdir ≠ .ok then (-1, [.chdir dir, .mkdir dir])
        else if calls.chdirAgain ≠ .ok then (-1, [.chdir dir, .mkdir dir, .chdir dir])
        else (0, [.chdir dir, .mkdir dir, .chdir dir])

/-- The loop clears the trailing `/`s of a NUL-terminated name and leaves `dirlen` at the length
of what is left. -/
theorem trimSlashes_eq (l rest : List Char) :
    ∃ rest', trimSlashes (l ++ nul :: rest) l.length =
      (l.rdropWhile (· == '/') ++ nul :: rest', (l.rdropWhile (· == '/')).length) := by
  induction l using List.reverseRecOn generalizing rest with
  | nil => exact ⟨rest, rfl⟩
  | append_singleton l c ih =>
    have hget : (l ++ [c] ++ nul :: rest)[l.length]? = some c := by
      rw [List.append_assoc, List.getElem?_append_right le_rfl, Nat.sub_self]
      rfl
    rw [List.length_append, List.length_singleton, trimSlashes, hget, List.rdropWhile_concat]
    by_cases hc : c = '/'
    · subst hc
      have hset : (l ++ ['/'] ++ nul :: rest).set l.length nul = l ++ nul :: nul :: rest := by
        rw [List.append_assoc, List.set_append_right _ _ le_rfl, Nat.sub_self]
        rfl
      simpa [hset] using ih (nul :: rest)
    · simp only [Option.some.injEq, hc, ↓reduceIte, beq_iff_eq]
      exact ⟨rest, by simp⟩

/-- A NUL-padded buffer whose head holds no NUL reads back as that head. -/
theorem cString_append_nul {l : List Char} (h : nul ∉ l) (rest : List Char) :
    cString (l ++ nul :: rest) = l := by
  rw [cString, List.takeWhile_append_of_pos fun c hc => by
    simp only [ne_eq, decide_eq_true_eq]
    rintro rfl
    exact h hc]
  simp

/-- The name `change_basedir` passes on: `orig_dir` without its trailing `/`s. -/
theorem change_basedir_dir (orig_dir : CStr) :
    (trimSlashes (orig_dir.chars ++ [nul]) orig_dir.chars.length).2 =
        (orig_dir.chars.rdropWhile (· == '/')).length ∧
      cString (trimSlashes (orig_dir.chars ++ [nul]) orig_dir.chars.length).1 =
        orig_dir.chars.rdropWhile (· == '/') := by
  obtain ⟨rest', h⟩ := trimSlashes_eq orig_dir.chars []
  rw [h]
  exact ⟨rfl, cString_append_nul (fun hm => orig_dir.nul_not_mem
    ((List.rdropWhile_prefix _ _).subset hm)) rest'⟩

/-- For a name with a character other than `/`, once the copy is made `change_basedir` calls
`chdir` first, and every path it passes to `chdir` and `mkdir` is the name without its trailing
`/`s. -/
theorem change_basedir_paths (calls : BasedirCalls) (orig_dir : CStr) (hstrdup : calls.strdup)
    (hdir : ∃ c ∈ orig_dir.chars, c ≠ '/') :
    (change_basedir calls orig_dir).2.head? = some (.chdir (orig_dir.chars.rdropWhile (· == '/'))) ∧
      ∀ call ∈ (change_basedir calls orig_dir).2,
        call.path = orig_dir.chars.rdropWhile (· == '/') := by
  obtain ⟨hlen, hdir'⟩ := change_basedir_dir orig_dir
  have hne : (orig_dir.chars.rdropWhile (· == '/')).length ≠ 0 := by
    obtain ⟨c, hc, hslash⟩ := hdir
    simpa [List.rdropWhile_eq_nil_iff] using ⟨c, hc, hslash⟩
  simp only [change_basedir, hstrdup, Bool.not_true, Bool.false_eq_true, ↓reduceIte, hlen, hne,
    hdir']
  cases calls.chdir
  case enoent => split_ifs <;> simp [Call.path]
  all_goals simp [Call.path]

/-- A name made only of `/`s is refused before any call. -/
theorem change_basedir_slashes (calls : BasedirCalls) (orig_dir : CStr)
    (hdir : ∀ c ∈ orig_dir.chars, c = '/') : change_basedir calls orig_dir = (-1, []) := by
  have hnil : orig_dir.chars.rdropWhile (· == '/') = [] :=
    List.rdropWhile_eq_nil_iff.mpr fun c hc => by simp [hdir c hc]
  simp [change_basedir, (change_basedir_dir orig_dir).1, hnil]

theorem change_basedir_slashes_run :
    (∀ c ∈ "///".toList, c = '/') ∧
      change_basedir ⟨true, .ok, .ok, .ok⟩ ⟨"///".toList, by decide, by decide⟩ = (-1, []) :=
  ⟨by decide, change_basedir_slashes _ _ (by decide)⟩

def rootDir : CStr := ⟨['/'], by decide, by decide⟩

/-- `BaseDir "/"` is refused: `change_basedir` returns `-1` without calling `chdir`, whatever the
calls would return. -/
theorem change_basedir_root :
    change_basedir ⟨true, .ok, .ok, .ok⟩ rootDir = (-1, []) := by
  decide

def varLibDir : CStr := ⟨"/var/lib/collectd/".toList, by decide, by decide⟩

theorem change_basedir_paths_run :
    (change_basedir ⟨true, .enoent, .ok, .ok⟩ varLibDir).2 =
        [.chdir "/var/lib/collectd".toList, .mkdir "/var/lib/collectd".toList,
          .chdir "/var/lib/collectd".toList] ∧
      (change_basedir ⟨true, .enoent, .ok, .ok⟩ varLibDir).2.head? =
        some (.chdir (varLibDir.chars.rdropWhile (· == '/'))) := by
  refine ⟨by decide, (change_basedir_paths ⟨true, .enoent, .ok, .ok⟩ varLibDir rfl
    ⟨'v', by decide, by decide⟩).1⟩

/-! ## The PID file -/

/-- The regular files that exist, by the name `main` passes, and what they hold; directories, the
one `change_basedir` may create among them, are not files here. -/
def FS : Type := String → Option (List Char)

/-- What `fprintf (fh, "%i\n", (int) getpid ())` writes. -/
def pidText (pid : Int) : List Char := (toString pid).toList ++ ['\n']

/-- `pidfile_create` (lines 414–431): `fopen (file, "w")` creates the file empty, or fails;
`written` of the text `fprintf` and `fclose` get into it, which the code does not check: the
status is `0` once `fopen` succeeds. -/
def pidfile_create (fopen : Bool) (written : Nat) (file : String) (pid : Int) (fs : FS) : Int × FS :=
  if !fopen then (1, fs) else (0, Function.update fs file (some ((pidText pid).take written)))

/-- Status `0` means the file exists, whatever `fprintf` and `fclose` got into it. -/
theorem pidfile_create_exists {fopen : Bool} {written : Nat} {file : String} {pid : Int} {fs : FS}
    (h : (pidfile_create fopen written file pid fs).1 = 0) :
    (pidfile_create fopen written file pid fs).2 file ≠ none := by
  cases fopen <;> simp_all [pidfile_create]

/-- `pidfile_remove` (lines 433–440): `0` without a configured path, else `unlink (file)`, which
fails with `ENOENT` when the file does not exist, and leaves an existing file when `unlink` is
refused (`EACCES`, `EPERM`, `EROFS`, `EBUSY`). -/
def pidfile_remove (unlink : Bool) (file : Option String) (fs : FS) : Int × FS :=
  match file with
  | none => (0, fs)
  | some file =>
    if fs file = none then (-1, fs)
    else if unlink then (0, Function.update fs file none) else (-1, fs)

/-- `unlink` of an existing file removes it exactly when it is not refused. -/
theorem pidfile_remove_some {unlink : Bool} {file : String} {fs : FS} (h : fs file ≠ none) :
    ((pidfile_remove unlink (some file) fs).2 file = none ↔ unlink) := by
  cases unlink <;> simp [pidfile_remove, h]

end Collectd.Files
