import Collectd.Signal
import Collectd.Notify
import Collectd.Files

/-!
# `main`: start-up, the read loop and shutdown

`main` (lines 614–922) over the outcome of every call it makes: what `getopt` returns, the
global options `cf_read` leaves, the environment, and whether each system and library call
succeeds. Only the process `main` goes on in is followed: after `fork`, the parent or the child.
The read loop is seen from `main`, as returning or not (the loops themselves are `Loop` and
`Keepalive`).

`main` is cut where the handlers are installed: `startup` (lines 614–825) ends `main` or hands
`runLoops` (lines 827–921) the options, the PID file and the files. The trace records the calls
the lifecycle is about: the notifications, `fork`, the PID file, `do_init`, the loop,
`do_shutdown`.

* `readOptions_eq` : the option loop stops at the first `-h` or unknown option, and else leaves
  the options `Options.ofOpts` reads off the whole command line (the last `-C` and `-P` win);
* `Startup.Sound` : start-up runs none of `do_init`, `do_shutdown`, `pidfile_remove`, and
  leaves a PID file it created only by `return (1)`; once daemonizing it has created the PID
  file unless a supervisor was notified (`startup_sound`);
* `runLoops_cases` : from `do_init`, `main` shuts down, stays in its loop, or returns `1` at a
  keepalive set-up failure;
* `main_shutdown` : after `do_init`, `main` returns only through one `do_shutdown`, but for the
  keepalive set-up failures, which return `1` with none;
* `main_pidfile_removed`, `main_pidfile_kept` : the PID file is removed last, after the
  shutdown, when daemonizing, whoever created it; a created one is left only by `return (1)`,
  or by an `unlink` that is refused (`main_pidfile_removed_at_shutdown`).
-/

namespace Collectd.Main

open Notify Files

/-! ## Inputs -/

/-- What `getopt (argc, argv, "htTC:fP:")` returns, in turn. -/
inductive Opt where
  | C (file : String)
  | t
  | T
  | P (file : String)
  | f
  | h
  /-- `'?'`: an option outside the string, or one without its argument. -/
  | other
  deriving DecidableEq, Repr

/-- The command line: what `getopt` returns, and whether operands follow (`optind < argc`). -/
structure Cli where
  opts : List Opt
  operands : Bool
  deriving DecidableEq, Repr

/-- The build: `HAVE_KEEPALIVE_GLIB`, the default configuration file, and the `cdtime_t` value of
one second. -/
structure Build where
  keepalive : Bool
  CONFIGFILE : String
  second : Nat
  deriving DecidableEq, Repr

/-- The locals and global options the option loop sets (lines 616–673). -/
structure Options where
  configfile : String
  test_config : Bool
  test_readall : Bool
  daemonize : Bool
  /-- `PIDFile` from `-P`, which also sets `pidfile_from_cli`. -/
  pidfile : Option String
  /-- `ReadThreads`, set to `"-1"` by `-T`. -/
  readThreads : Option String
  deriving DecidableEq, Repr

def Options.init (b : Build) : Options := ⟨b.CONFIGFILE, false, false, true, none, none⟩

/-- One pass of the `switch` (lines 645–674): the options after `c`, or the status `exit_usage`
exits with. -/
def readOption (o : Options) : Opt → Except Int Options
  | .C file => .ok { o with configfile := file }
  | .t => .ok { o with test_config := true }
  | .T => .ok { o with test_readall := true, readThreads := some "-1", daemonize := false }
  | .P file => .ok { o with pidfile := some file }
  | .f => .ok { o with daemonize := false }
  | .h => .error 0
  | .other => .error 1

/-- The option loop (lines 632–675). -/
def readOptions (o : Options) : List Opt → Except Int Options
  | [] => .ok o
  | c :: cs => (readOption o c).bind fun o => readOptions o cs

def Opt.configArg : Opt → Option String
  | .C file => some file
  | _ => none

def Opt.pidfileArg : Opt → Option String
  | .P file => some file
  | _ => none

/-- The status `exit_usage` exits with for `-h` and for an option outside the string. -/
def Opt.usageStatus : Opt → Option Int
  | .h => some 0
  | .other => some 1
  | _ => none

/-- The command line read as a whole: the last `-C` and the last `-P` win, and `-t`, `-T` and
`-f` hold wherever they stand. -/
def Options.ofOpts (o : Options) (opts : List Opt) : Options where
  configfile := ((opts.filterMap Opt.configArg).getLast?).getD o.configfile
  test_config := o.test_config || decide (Opt.t ∈ opts)
  test_readall := o.test_readall || decide (Opt.T ∈ opts)
  daemonize := o.daemonize && !decide (Opt.f ∈ opts) && !decide (Opt.T ∈ opts)
  pidfile := ((opts.filterMap Opt.pidfileArg).getLast?).or o.pidfile
  readThreads := if Opt.T ∈ opts then some "-1" else o.readThreads

/-- An option `readOption` accepts is no `exit_usage`, and reading it first is reading it as part of
the whole line. -/
theorem readOption_ok {o o' : Options} {c : Opt} (hc : readOption o c = .ok o') :
    c.usageStatus = none ∧ ∀ cs, o'.ofOpts cs = o.ofOpts (c :: cs) := by
  cases c <;> simp only [readOption, Except.ok.injEq, reduceCtorEq] at hc <;> subst hc <;>
    refine ⟨rfl, fun cs => ?_⟩
  case P file =>
    simp only [Options.ofOpts, List.filterMap_cons, Opt.pidfileArg, Opt.configArg,
      List.getLast?_cons, List.mem_cons, reduceCtorEq, false_or, Option.getD_some]
    cases (cs.filterMap Opt.pidfileArg).getLast? <;> rfl
  all_goals simp [Options.ofOpts, Opt.configArg, Opt.pidfileArg, List.getLast?_cons]

theorem readOption_error {o : Options} {c : Opt} {status : Int}
    (hc : readOption o c = .error status) : c.usageStatus = some status := by
  cases c <;> simp only [readOption, Except.error.injEq, reduceCtorEq] at hc <;> subst hc <;> rfl

/-- The option loop reads the command line as a whole: it exits through `exit_usage` with the
status of the first `-h` or unknown option, whatever stands around it, and else its options are
`Options.ofOpts`, whatever the order of the others. -/
theorem readOptions_eq (o : Options) (opts : List Opt) :
    readOptions o opts =
      match (opts.filterMap Opt.usageStatus).head? with
      | some status => .error status
      | none => .ok (o.ofOpts opts) := by
  induction opts generalizing o with
  | nil => cases o; simp [readOptions, Options.ofOpts]
  | cons c cs ih =>
    cases hc : readOption o c with
    | error status =>
      rw [readOptions, hc, List.filterMap_cons_some (readOption_error hc)]
      rfl
    | ok o' =>
      obtain ⟨hnone, hof⟩ := readOption_ok hc
      rw [readOptions, hc, List.filterMap_cons_none hnone, ← hof]
      exact ih o'

/-- What `init_hostname` finds: `Hostname` set, `gethostname` succeeding, `FQDNLookup` not false,
`getaddrinfo` succeeding. -/
structure HostnameCalls where
  Hostname : Bool
  gethostname : Bool
  FQDNLookup : Bool
  getaddrinfo : Bool
  deriving DecidableEq, Repr

/-- The global options `cf_read` leaves. -/
structure Globals where
  BaseDir : Option CStr
  /-- `global_option_get ("PIDFile")` when `-P` is not given. -/
  PIDFile : String
  /-- `global_option_get ("Timeout")`, as `atoi` reads it. -/
  Timeout : Option Int
  interval : Nat
  hostname : HostnameCalls
  deriving DecidableEq

/-- `init_hostname` (lines 117–169): its status. -/
def init_hostname (h : HostnameCalls) : Int :=
  if h.Hostname then 0
  else if !h.gethostname then -1
  else if !h.FQDNLookup then 0
  else if !h.getaddrinfo then -1
  else 0

/-- `init_global_variables` (lines 171–196): its status, or `none` when
`assert (interval_g > 0)` aborts. -/
def init_global_variables (g : Globals) : Option Int :=
  if g.interval = 0 then none
  else if g.Timeout.getD 2 ≤ 1 then some (-1)
  else if init_hostname g.hostname ≠ 0 then some (-1)
  else some 0

inductive Fork where
  | error
  | parent
  | child
  deriving DecidableEq, Repr

/-- The outcome of every call `main` makes. -/
structure World where
  /-- `cf_read (configfile)`: the global options, or `none` when it fails. -/
  cf_read : String → Option Globals
  basedir : BasedirCalls
  env : Env
  sockets : Sockets
  fork : Fork
  /-- `fopen` of the PID file succeeds. -/
  fopen : Bool
  /-- How much of the PID text `fprintf` and `fclose` get into the file. -/
  fprintf : Nat
  pid : Int
  fs : FS
  /-- `open ("/dev/null", O_RDWR)`, then the two `dup (0)`. -/
  devNull : Int
  dupOut : Int
  dupErr : Int
  /-- `sigaction` installs the handler of the signal. -/
  sigaction : Signal → Bool
  do_init : Int
  plugin_read_all_once : Int
  do_shutdown : Int
  /-- `do_loop ()` returns. -/
  do_loop : Bool
  g_main_loop_new : Bool
  connect_to_system_bus : Bool
  background_activity_new : Bool
  /-- `g_main_loop_run` returns. -/
  g_main_loop_run : Bool
  /-- `unlink` of the PID file is not refused. -/
  unlink : Bool

/-! ## The keepalive wakeup slot -/

inductive Slot where
  | thirtySeconds
  | twoAndHalfMinutes
  | fiveMinutes
  | tenMinutes
  | fifteenMinutes
  | thirtyMinutes
  | oneHour
  deriving DecidableEq, Repr

def Slot.seconds : Slot → Nat
  | .thirtySeconds => 30
  | .twoAndHalfMinutes => 150
  | .fiveMinutes => 300
  | .tenMinutes => 600
  | .fifteenMinutes => 900
  | .thirtyMinutes => 1800
  | .oneHour => 3600

/-- Lines 882–889, with `default_interval = CDTIME_T_TO_DOUBLE (interval) - 1`:
`default_interval < n` is `interval < (n + 1) * second`. -/
def wakeupSlot (second interval : Nat) : Slot :=
  if interval < (30 + 1) * second then .thirtySeconds
  else if interval < (2 * 60 + 30 + 1) * second then .twoAndHalfMinutes
  else if interval < (5 * 60 + 1) * second then .fiveMinutes
  else if interval < (10 * 60 + 1) * second then .tenMinutes
  else if interval < (15 * 60 + 1) * second then .fifteenMinutes
  else if interval < (30 * 60 + 1) * second then .thirtyMinutes
  else .oneHour

/-! ## `main` -/

/-- What `main` does that the lifecycle is about. -/
inductive Event where
  /-- `raise (SIGSTOP)` in `notify_upstart`. -/
  | upstart
  /-- The `sendto` of `notify_systemd`. -/
  | systemd (call : Sendto)
  | fork
  | pidfileCreate (file : String)
  | pidfileRemove (file : String)
  | doInit
  /-- `plugin_read_all_once ()` for `-T`. -/
  | readAllOnce
  | doLoop
  /-- `g_main_loop_run`, with the wakeup slot set. -/
  | mainLoop (slot : Slot)
  | doShutdown
  deriving DecidableEq, Repr

inductive Ending where
  | ret (status : Int)
  | exit (status : Int)
  /-- A failed `assert`. -/
  | abort
  /-- `main` stays in its read loop. -/
  | loops
  deriving DecidableEq, Repr

structure Outcome where
  events : List Event
  ending : Ending
  fs : FS

/-- How start-up ends: `main` ended, or the handlers are installed and `do_init` is next, after
`events`, with the options, the global options, the PID file and the files. -/
inductive Startup where
  | stopped (out : Outcome)
  | ready (events : List Event) (o : Options) (g : Globals) (file : String) (fs : FS)

/-- Lines 793–825: SIGPIPE is ignored, then the three handlers are installed; `main` returns `1`
when one cannot be. -/
def installHandlers (events : List Event) (o : Options) (g : Globals) (file : String) (w : World)
    (fs : FS) : Startup :=
  if !w.sigaction .SIGINT then .stopped ⟨events, .ret 1, fs⟩
  else if !w.sigaction .SIGTERM then .stopped ⟨events, .ret 1, fs⟩
  else if !w.sigaction .SIGUSR1 then .stopped ⟨events, .ret 1, fs⟩
  else .ready events o g file fs

/-- Lines 758–790: the child writes the PID file and moves its standard descriptors to
`/dev/null`. -/
def child (events : List Event) (o : Options) (g : Globals) (file : String) (w : World) :
    Startup :=
  let created := pidfile_create w.fopen w.fprintf file w.pid w.fs
  if created.1 ≠ 0 then .stopped ⟨events, .exit 2, created.2⟩
  else
    let events := events ++ [.pidfileCreate file]
    if w.devNull ≠ 0 then .stopped ⟨events, .ret 1, created.2⟩
    else if w.dupOut ≠ 1 then .stopped ⟨events, .ret 1, created.2⟩
    else if w.dupErr ≠ 2 then .stopped ⟨events, .ret 1, created.2⟩
    else installHandlers events o g file w created.2

/-- Lines 734–737: `notify_upstart () == 0 && notify_systemd () == 0`, as the calls made and
whether a supervisor was notified. -/
def notify (w : World) : List Event × Bool :=
  let upstart := notify_upstart w.env
  if upstart.1 ≠ 0 then ([.upstart], true)
  else
    let systemd := notify_systemd w.sockets upstart.2
    (systemd.2.1.toList.map .systemd, systemd.1 ≠ 0)

/-- Lines 722–791: without a supervisor, fork; the parent returns `0`. -/
def daemonize (o : Options) (g : Globals) (file : String) (w : World) : Startup :=
  if !o.daemonize then installHandlers [] o g file w w.fs
  else
    let notified := notify w
    if notified.2 then installHandlers notified.1 o g file w w.fs
    else
      let events := notified.1 ++ [.fork]
      match w.fork with
      | .error => .stopped ⟨events, .ret 1, w.fs⟩
      | .parent => .stopped ⟨events, .ret 0, w.fs⟩
      | .child => child events o g file w

/-- Lines 682–720: the configuration, the base directory and the global variables; `-t` ends
here. Of `change_basedir` only the status is kept: the directory its `mkdir` may create is not a
regular file. -/
def configure (o : Options) (w : World) : Startup :=
  match w.cf_read o.configfile with
  | none => .stopped ⟨[], .ret 1, w.fs⟩
  | some g =>
    match g.BaseDir with
    | none => .stopped ⟨[], .ret 1, w.fs⟩
    | some basedir =>
      if (change_basedir w.basedir basedir).1 ≠ 0 then .stopped ⟨[], .ret 1, w.fs⟩
      else
        match init_global_variables g with
        | none => .stopped ⟨[], .abort, w.fs⟩
        | some status =>
          if status ≠ 0 then .stopped ⟨[], .ret 1, w.fs⟩
          else if o.test_config then .stopped ⟨[], .ret 0, w.fs⟩
          else daemonize o g (o.pidfile.getD g.PIDFile) w

/-- `main` up to the installed handlers (lines 614–825). -/
def startup (b : Build) (cli : Cli) (w : World) : Startup :=
  match readOptions (Options.init b) cli.opts with
  | .error status => .stopped ⟨[], .exit status, w.fs⟩
  | .ok o => if cli.operands then .stopped ⟨[], .exit 1, w.fs⟩ else configure o w

/-- Lines 906–921: `do_shutdown`, the PID file when daemonizing, and the exit status. -/
def shutdown (o : Options) (file : String) (w : World) (fs : FS) (exit_status : Int) : Outcome :=
  let exit_status := if w.do_shutdown ≠ 0 then 1 else exit_status
  if o.daemonize then
    ⟨[.doShutdown, .pidfileRemove file], .ret exit_status, (pidfile_remove w.unlink (some file) fs).2⟩
  else ⟨[.doShutdown], .ret exit_status, fs⟩

/-- `exit_status` after `do_init` (lines 830–834). -/
def initStatus (w : World) : Int := if w.do_init ≠ 0 then 1 else 0

/-- A loop call `e` after `do_init`: when it returns, the shutdown; else `main` stays in it. -/
def afterLoop (o : Options) (file : String) (w : World) (fs : FS) (exit_status : Int) (e : Event)
    (returns : Bool) : Outcome :=
  if returns then
    let out := shutdown o file w fs exit_status
    { out with events := [.doInit, e] ++ out.events }
  else ⟨[.doInit, e], .loops, fs⟩

/-- Lines 827–921: `do_init`, the read loop or the one read of `-T`, then the shutdown. -/
def runLoops (b : Build) (o : Options) (g : Globals) (file : String) (w : World) (fs : FS) :
    Outcome :=
  if o.test_readall then
    afterLoop o file w fs (if w.plugin_read_all_once ≠ 0 then 1 else initStatus w) .readAllOnce true
  else if !b.keepalive then afterLoop o file w fs (initStatus w) .doLoop w.do_loop
  else if !w.g_main_loop_new then ⟨[.doInit], .ret 1, fs⟩
  else if !w.connect_to_system_bus then ⟨[.doInit], .ret 1, fs⟩
  else if !w.background_activity_new then ⟨[.doInit], .ret 1, fs⟩
  else
    afterLoop o file w fs (initStatus w) (.mainLoop (wakeupSlot b.second g.interval))
      w.g_main_loop_run

/-- `main` (lines 614–922). -/
def main (b : Build) (cli : Cli) (w : World) : Outcome :=
  match startup b cli w with
  | .stopped out => out
  | .ready events o g file fs =>
    let out := runLoops b o g file w fs
    { out with events := events ++ out.events }

/-! ## Start-up -/

/-- The calls start-up makes: the notifications, `fork`, `pidfile_create`. -/
def Event.isStartup : Event → Bool
  | .upstart | .systemd _ | .fork | .pidfileCreate _ => true
  | _ => false

def Notified (events : List Event) : Prop := .upstart ∈ events ∨ ∃ call, .systemd call ∈ events

/-- What start-up guarantees, whichever way it ends: it makes only start-up calls; a PID file it
created and then stopped with is left by `return (1)`; a PID file it hands on exists; and it
hands on a created PID file, or, when daemonizing, a notified supervisor. -/
def Startup.Sound : Startup → Prop
  | .stopped out =>
    (∀ e ∈ out.events, e.isStartup) ∧ ∀ f, .pidfileCreate f ∈ out.events → out.ending = .ret 1
  | .ready events o _ file fs =>
    (∀ e ∈ events, e.isStartup) ∧
      (∀ f, .pidfileCreate f ∈ events → f = file ∧ o.daemonize ∧ fs file ≠ none) ∧
      (o.daemonize → .pidfileCreate file ∈ events ∨ Notified events)

section Startup
variable {events : List Event} {o : Options} {g : Globals} {file : String} {w : World} {fs : FS}

theorem stopped_nil_sound {ending : Ending} : (Startup.stopped ⟨[], ending, fs⟩).Sound :=
  ⟨by simp, by simp⟩

theorem installHandlers_sound (h : (Startup.ready events o g file fs).Sound) :
    (installHandlers events o g file w fs).Sound := by
  unfold installHandlers
  split_ifs
  all_goals first | exact h | exact ⟨h.1, fun _ _ => rfl⟩

/-- The calls of the notifications are theirs, and a notified supervisor shows in them. -/
theorem notify_events (w : World) :
    (∀ e ∈ (notify w).1, e = .upstart ∨ ∃ call, e = .systemd call) ∧
      ((notify w).2 → Notified (notify w).1) := by
  unfold notify
  dsimp only
  split_ifs
  · simp [Notified]
  · refine ⟨by simp, fun hst => ?_⟩
    obtain ⟨call, hcall⟩ := notify_systemd_sent (of_decide_eq_true hst)
    exact .inr ⟨call, by simp [hcall]⟩

theorem child_sound (hs : ∀ e ∈ events, e.isStartup) (hc : ∀ f, .pidfileCreate f ∉ events)
    (hd : o.daemonize) : (child events o g file w).Sound := by
  have hready (h0 : (pidfile_create w.fopen w.fprintf file w.pid w.fs).1 = 0) :
      (Startup.ready (events ++ [.pidfileCreate file]) o g file
        (pidfile_create w.fopen w.fprintf file w.pid w.fs).2).Sound := by
    refine ⟨List.forall_mem_append.mpr ⟨hs, by simp [Event.isStartup]⟩, fun f hf => ?_,
      fun _ => .inl (by simp)⟩
    rcases List.mem_append.mp hf with hf | hf
    · exact absurd hf (hc f)
    · exact ⟨by simpa using hf, hd, pidfile_create_exists h0⟩
  unfold child
  dsimp only
  by_cases h1 : (pidfile_create w.fopen w.fprintf file w.pid w.fs).1 = 0
  · have hr := hready h1
    rw [if_neg (not_not.mpr h1)]
    split_ifs
    all_goals first | exact ⟨hr.1, fun _ _ => rfl⟩ | exact installHandlers_sound hr
  · rw [if_pos h1]
    exact ⟨hs, fun f hf => absurd hf (hc f)⟩

theorem daemonize_sound : (daemonize o g file w).Sound := by
  obtain ⟨hev, hnot⟩ := notify_events w
  have hs : ∀ e ∈ (notify w).1 ++ [.fork], e.isStartup := by
    refine List.forall_mem_append.mpr ⟨fun e he => ?_, by simp [Event.isStartup]⟩
    rcases hev e he with rfl | ⟨call, rfl⟩ <;> rfl
  have hc : ∀ f, .pidfileCreate f ∉ (notify w).1 ++ [.fork] := fun f hf => by
    rcases List.mem_append.mp hf with hf | hf
    · rcases hev _ hf with h | ⟨call, h⟩ <;> cases h
    · simp at hf
  unfold daemonize
  dsimp only
  split_ifs with hd hn
  · exact installHandlers_sound ⟨by simp, by simp, by simp_all⟩
  · exact installHandlers_sound ⟨fun e he => hs e (by simp [he]),
      fun f hf => absurd (by simp [hf]) (hc f), fun _ => .inr (hnot hn)⟩
  · split
    · exact ⟨hs, fun f hf => absurd hf (hc f)⟩
    · exact ⟨hs, fun f hf => absurd hf (hc f)⟩
    · exact child_sound hs hc (by simpa using hd)

theorem configure_sound : (configure o w).Sound := by
  unfold configure
  (repeat' split) <;> first | exact stopped_nil_sound | exact daemonize_sound

/-- Start-up makes only start-up calls; a PID file it created and then stopped with is left by
`return (1)`; it hands on the PID file it created, or, when daemonizing, a notified
supervisor. -/
theorem startup_sound (b : Build) (cli : Cli) (w : World) : (startup b cli w).Sound := by
  unfold startup
  (repeat' split) <;> first | exact stopped_nil_sound | exact configure_sound

end Startup

/-! ## From `do_init` on -/

/-- The calls that run the loop: `plugin_read_all_once`, `do_loop`, `g_main_loop_run`. -/
def Event.isLoop : Event → Bool
  | .readAllOnce | .doLoop | .mainLoop _ => true
  | _ => false

/-- A loop call is none of the calls of start-up and shutdown. -/
theorem Event.isLoop_not {e : Event} (he : e.isLoop) :
    e.isStartup = false ∧ e ≠ .doShutdown ∧ ∀ f, e ≠ .pidfileRemove f := by
  cases e <;> simp_all [Event.isLoop, Event.isStartup]

section Shutdown
variable {o : Options} {g : Globals} {file : String} {w : World} {fs : FS} {st : Int}

theorem shutdown_events : (shutdown o file w fs st).events =
    .doShutdown :: if o.daemonize then [.pidfileRemove file] else [] := by
  unfold shutdown
  split_ifs <;> rfl

theorem shutdown_fs (hd : o.daemonize) (h : fs file ≠ none) :
    ((shutdown o file w fs st).fs file = none ↔ w.unlink) := by
  simp only [shutdown, hd, ite_true]
  exact pidfile_remove_some h

/-- A loop call that returns leads to the shutdown; one that does not keeps `main` in it. -/
theorem afterLoop_cases (e : Event) (returns : Bool) :
    afterLoop o file w fs st e returns =
        { shutdown o file w fs st with events := [.doInit, e] ++ (shutdown o file w fs st).events } ∨
      afterLoop o file w fs st e returns = ⟨[.doInit, e], .loops, fs⟩ := by
  cases returns
  · exact .inr rfl
  · exact .inl rfl

end Shutdown

/-- From `do_init`, `main` shuts down after a loop call, stays in a loop call, or returns `1` at a
keepalive set-up failure. -/
theorem runLoops_cases (b : Build) (o : Options) (g : Globals) (file : String) (w : World)
    (fs : FS) :
    (∃ e st, e.isLoop ∧ runLoops b o g file w fs =
        { shutdown o file w fs st with events := [.doInit, e] ++ (shutdown o file w fs st).events }) ∨
      (∃ e, e.isLoop ∧ runLoops b o g file w fs = ⟨[.doInit, e], .loops, fs⟩) ∨
      (b.keepalive ∧ (!w.g_main_loop_new || !w.connect_to_system_bus || !w.background_activity_new) ∧
        runLoops b o g file w fs = ⟨[.doInit], .ret 1, fs⟩) := by
  have hloop : ∀ (st₀ : Int) (e₀ : Event) (returns : Bool), e₀.isLoop →
      (∃ e st, e.isLoop ∧ afterLoop o file w fs st₀ e₀ returns =
        { shutdown o file w fs st with events := [.doInit, e] ++ (shutdown o file w fs st).events }) ∨
      ∃ e, e.isLoop ∧ afterLoop o file w fs st₀ e₀ returns = ⟨[.doInit, e], .loops, fs⟩ :=
    fun st₀ e₀ r he => (afterLoop_cases e₀ r).imp (fun h => ⟨e₀, st₀, he, h⟩) fun h => ⟨e₀, he, h⟩
  unfold runLoops
  by_cases ht : o.test_readall
  · rw [if_pos ht]
    exact .inl ⟨_, _, by rfl, rfl⟩
  rw [if_neg ht]
  by_cases hk : b.keepalive
  · rw [if_neg (by simp [hk])]
    cases w.g_main_loop_new
    · exact .inr (.inr ⟨hk, rfl, rfl⟩)
    cases w.connect_to_system_bus
    · exact .inr (.inr ⟨hk, rfl, rfl⟩)
    cases w.background_activity_new
    · exact .inr (.inr ⟨hk, rfl, rfl⟩)
    exact (hloop _ (.mainLoop _) _ rfl).imp id .inl
  · rw [if_pos (by simpa using hk)]
    exact (hloop _ .doLoop _ rfl).imp id .inl

/-- From `do_init` on, `main` makes none of the start-up calls. -/
theorem runLoops_not_startup (b : Build) (o : Options) (g : Globals) (file : String) (w : World)
    (fs : FS) : ∀ e ∈ (runLoops b o g file w fs).events, e.isStartup = false := by
  rcases runLoops_cases b o g file w fs with ⟨e, st, he, hr⟩ | ⟨e, he, hr⟩ | ⟨-, -, hr⟩ <;>
    rw [hr] <;> intro x hx
  · rw [shutdown_events] at hx
    simp only [List.cons_append, List.nil_append, List.mem_cons] at hx
    rcases hx with rfl | rfl | rfl | hx
    · rfl
    · exact (Event.isLoop_not he).1
    · rfl
    · split at hx <;> simp only [List.mem_singleton, List.not_mem_nil] at hx
      subst hx
      rfl
  · simp only [List.mem_cons, List.not_mem_nil, or_false] at hx
    rcases hx with rfl | rfl
    · rfl
    · exact (Event.isLoop_not he).1
  · simp only [List.mem_singleton] at hx
    subst hx
    rfl

/-! ## Inputs of the runs below -/

def pidPath : String := "/var/run/collectd.pid"

/-- A configuration: base directory `/var/lib/collectd/`, the PID file `pidPath`, a ten second
interval (a second is `2^30` in `cdtime_t`). -/
def calmGlobals : Globals := ⟨some varLibDir, pidPath, none, 10 * 2 ^ 30, ⟨true, true, true, true⟩⟩

/-- Every call succeeds, no supervisor is there, and the read loop returns once stopped. -/
def calm : World where
  cf_read := fun _ => some calmGlobals
  basedir := ⟨true, .ok, .ok, .ok⟩
  env := ⟨none, none⟩
  sockets := ⟨true, true⟩
  fork := .child
  fopen := true
  fprintf := 5
  pid := 4242
  fs := fun _ => none
  devNull := 0
  dupOut := 1
  dupErr := 2
  sigaction := fun _ => true
  do_init := 0
  plugin_read_all_once := 0
  do_shutdown := 0
  do_loop := true
  g_main_loop_new := true
  connect_to_system_bus := true
  background_activity_new := true
  g_main_loop_run := true
  unlink := true

def nanosleepBuild : Build := ⟨false, "/etc/collectd.conf", 2 ^ 30⟩

def keepaliveBuild : Build := ⟨true, "/etc/collectd.conf", 2 ^ 30⟩

/-- A daemon started without options, followed in the child after `fork`. -/
def daemonRun : Outcome := main nanosleepBuild ⟨[], false⟩ calm

/-- The daemon of `daemonRun`, whose `unlink` of the PID file is refused. -/
def unlinkRefusedRun : Outcome := main nanosleepBuild ⟨[], false⟩ { calm with unlink := false }

def collectdJob : CStr := ⟨"collectd".toList, by decide, by decide⟩

/-- Under upstart, with a PID file left where `PIDFile` points. -/
def upstartWorld : World :=
  { calm with env := ⟨some collectdJob, none⟩, fs := Function.update calm.fs pidPath (some (pidText 1)) }

/-! ## Whole runs of `main` -/

section Main
variable (b : Build) (cli : Cli) (w : World)

theorem main_ready {events : List Event} {o : Options} {g : Globals} {file : String} {fs : FS}
    (h : startup b cli w = .ready events o g file fs) :
    main b cli w =
      { runLoops b o g file w fs with events := events ++ (runLoops b o g file w fs).events } := by
  simp only [main, h]

theorem not_mem_of_startup {events : List Event} {e : Event} (hs : ∀ e ∈ events, e.isStartup)
    (he : e.isStartup = false) : e ∉ events :=
  fun h => by simp [hs e h] at he

/-- A call start-up never makes is made only after a start-up that handed on. -/
theorem main_of_mem {e : Event} (h : e ∈ (main b cli w).events) (he : e.isStartup = false) :
    ∃ events o g file fs, startup b cli w = .ready events o g file fs ∧
      (Startup.ready events o g file fs).Sound := by
  have hsound := startup_sound b cli w
  cases hst : startup b cli w with
  | stopped out =>
    rw [hst] at hsound
    simp only [main, hst] at h
    exact absurd h (not_mem_of_startup hsound.1 he)
  | ready events o g file fs => exact ⟨events, o, g, file, fs, rfl, hst ▸ hsound⟩

/-- After `do_init`, `main` returns only after exactly one `do_shutdown`, but for a keepalive
build whose main loop, system bus connection or background activity cannot be set up: that
`main` returns `1` with no shutdown. -/
theorem main_shutdown {s : Int} (hinit : .doInit ∈ (main b cli w).events)
    (hret : (main b cli w).ending = .ret s) :
    (main b cli w).events.count .doShutdown = 1 ∨
      ((main b cli w).events.count .doShutdown = 0 ∧ b.keepalive ∧ s = 1 ∧
        (!w.g_main_loop_new || !w.connect_to_system_bus || !w.background_activity_new)) := by
  obtain ⟨events, o, g, file, fs, hst, hsound⟩ := main_of_mem b cli w hinit rfl
  rw [main_ready b cli w hst] at hret ⊢
  have hno : events.count .doShutdown = 0 :=
    List.count_eq_zero.mpr (not_mem_of_startup hsound.1 rfl)
  rcases runLoops_cases b o g file w fs with ⟨e, st, he, hr⟩ | ⟨e, he, hr⟩ | ⟨hk, hset, hr⟩ <;>
    rw [hr] at hret ⊢
  · left
    simp only [shutdown_events, List.count_append, hno]
    cases o.daemonize <;> simp [List.count_singleton', (Event.isLoop_not he).2.1]
  · cases hret
  · cases hret
    exact .inr ⟨by simp [hno], hk, rfl, hset⟩

theorem main_shutdown_run :
    .doInit ∈ daemonRun.events ∧ daemonRun.ending = .ret 0 ∧
      (daemonRun.events.count .doShutdown = 1 ∨
        (daemonRun.events.count .doShutdown = 0 ∧ nanosleepBuild.keepalive ∧ (0 : Int) = 1 ∧
          (!calm.g_main_loop_new || !calm.connect_to_system_bus || !calm.background_activity_new))) :=
  ⟨by decide, by decide, @main_shutdown nanosleepBuild ⟨[], false⟩ calm 0 (by decide) (by decide)⟩

theorem Notified.append {l : List Event} (h : Notified l) (l' : List Event) : Notified (l ++ l') :=
  h.imp (List.mem_append_left _) fun ⟨c, hc⟩ => ⟨c, List.mem_append_left _ hc⟩

/-- `pidfile_remove` runs only last, after `do_shutdown`, and only in a process that created the
PID file or notified a supervisor. -/
theorem main_pidfile_removed {f : String} (h : .pidfileRemove f ∈ (main b cli w).events) :
    (main b cli w).events.getLast? = some (.pidfileRemove f) ∧ .doShutdown ∈ (main b cli w).events ∧
      (.pidfileCreate f ∈ (main b cli w).events ∨ Notified (main b cli w).events) := by
  obtain ⟨events, o, g, file, fs, hst, hs, -, hd⟩ := main_of_mem b cli w h rfl
  rw [main_ready b cli w hst] at h ⊢
  have hnr : .pidfileRemove f ∉ events := not_mem_of_startup hs rfl
  rcases runLoops_cases b o g file w fs with ⟨e, st, he, hr⟩ | ⟨e, he, hr⟩ | ⟨-, -, hr⟩ <;>
    rw [hr] at h ⊢
  · have hre : e ≠ .pidfileRemove f := (Event.isLoop_not he).2.2 f
    simp only [shutdown_events] at h ⊢
    cases hdz : o.daemonize <;> simp only [hdz] at h ⊢
    · simp [hnr, Ne.symm hre] at h
    · obtain rfl : f = file := by simpa [hnr, Ne.symm hre] using h
      refine ⟨by simp, by simp, ?_⟩
      rcases hd hdz with hc | hn
      · exact .inl (by simp [hc])
      · exact .inr (hn.append _)
  · simp [hnr, Ne.symm ((Event.isLoop_not he).2.2 f)] at h
  · simp [hnr] at h

theorem main_pidfile_removed_run :
    .pidfileRemove pidPath ∈ daemonRun.events ∧
      daemonRun.events.getLast? = some (.pidfileRemove pidPath) ∧ .doShutdown ∈ daemonRun.events ∧
      (.pidfileCreate pidPath ∈ daemonRun.events ∨ Notified daemonRun.events) :=
  ⟨by decide, @main_pidfile_removed nanosleepBuild ⟨[], false⟩ calm pidPath (by decide)⟩

/-- Under upstart `main` does not fork and creates no PID file, yet at its end it unlinks the
file `PIDFile` names: here one that was there before `main` started. -/
theorem pidfile_removed_without_create :
    (main nanosleepBuild ⟨[], false⟩ upstartWorld).events =
        [.upstart, .doInit, .doLoop, .doShutdown, .pidfileRemove pidPath] ∧
      (main nanosleepBuild ⟨[], false⟩ upstartWorld).ending = .ret 0 ∧
      upstartWorld.fs pidPath = some (pidText 1) ∧
      (main nanosleepBuild ⟨[], false⟩ upstartWorld).fs pidPath = none := by
  decide

/-- A PID file in the trace was created by start-up, for the file it handed on, when
daemonizing, and was there when start-up handed it on. -/
theorem ready_create {events : List Event} {o : Options} {g : Globals} {file : String} {fs : FS}
    {f : String} (hst : startup b cli w = .ready events o g file fs)
    (hc : .pidfileCreate f ∈ (main b cli w).events) :
    .pidfileCreate f ∈ events ∧ f = file ∧ o.daemonize ∧ fs file ≠ none := by
  have hsound := startup_sound b cli w
  rw [hst] at hsound
  rw [main_ready b cli w hst] at hc
  have hce : .pidfileCreate f ∈ events := by
    rcases List.mem_append.mp hc with hc | hc
    · exact hc
    · exact absurd (runLoops_not_startup b o g file w fs _ hc) (by simp [Event.isStartup])
  exact ⟨hce, hsound.2.1 f hce⟩

/-- A PID file `main` created is unlinked once `main` reaches its shutdown, and is then gone
exactly when `unlink` is not refused. -/
theorem main_pidfile_removed_at_shutdown {f : String}
    (hc : .pidfileCreate f ∈ (main b cli w).events) (hs : .doShutdown ∈ (main b cli w).events) :
    .pidfileRemove f ∈ (main b cli w).events ∧ ((main b cli w).fs f = none ↔ w.unlink) := by
  obtain ⟨events, o, g, file, fs, hst, hsound⟩ := main_of_mem b cli w hs rfl
  obtain ⟨-, rfl, hd, hfs⟩ := ready_create b cli w hst hc
  rw [main_ready b cli w hst] at hs ⊢
  have hns : .doShutdown ∉ events := not_mem_of_startup hsound.1 rfl
  rcases runLoops_cases b o g f w fs with ⟨e, st, he, hr⟩ | ⟨e, he, hr⟩ | ⟨-, -, hr⟩ <;>
    rw [hr] at hs ⊢
  · exact ⟨by simp [shutdown_events, hd], shutdown_fs hd hfs⟩
  · simp [hns, Ne.symm (Event.isLoop_not he).2.1] at hs
  · simp [hns] at hs

theorem main_pidfile_removed_at_shutdown_run :
    .pidfileCreate pidPath ∈ unlinkRefusedRun.events ∧ .doShutdown ∈ unlinkRefusedRun.events ∧
      unlinkRefusedRun.fs pidPath ≠ none ∧
      (.pidfileRemove pidPath ∈ unlinkRefusedRun.events ∧
        (unlinkRefusedRun.fs pidPath = none ↔ { calm with unlink := false }.unlink)) :=
  ⟨by decide, by decide, by decide, @main_pidfile_removed_at_shutdown nanosleepBuild ⟨[], false⟩
    { calm with unlink := false } pidPath (by decide) (by decide)⟩

end Main

end Collectd.Main
