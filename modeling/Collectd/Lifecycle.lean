import Collectd.Main

/-!
# The lifecycle of every run of `main`

What holds of `main` over every command line and every outcome of the calls it makes:

* `main_in_order` : the calls of the lifecycle come in its order, each phase at most once: a
  notification, `fork`, `pidfile_create`, `do_init`, the loop, `do_shutdown`, `pidfile_remove`;
* `main_usage` : a `-h` or an unknown option anywhere on the command line ends `main` in
  `exit_usage` with the status of the first of them, before any call;
* `main_test_config`, `main_foreground` : with `-t` none of them is made, and with `-f` or `-T`
  `main` neither notifies a supervisor, forks, nor touches the PID file; either way the regular
  files are left as they were (`change_basedir` may still create the base directory);
* `main_test_readall` : with `-T`, once `do_init` is called `main` reads once and shuts down;
* `main_exit_status` : once `main` shuts down, it returns `1` exactly when `do_init`, the read of
  `-T` or `do_shutdown` failed, and `0` else.

Each is proved phase by phase, as `Startup.Sound` is: one lemma per phase of start-up, one for
`runLoops`, joined at `main`.
-/

namespace Collectd.Main

open Notify Files

/-! ## The phases of start-up -/

/-- `installHandlers` returns `1` or hands on what it was given. -/
theorem installHandlers_cases (events : List Event) (o : Options) (g : Globals) (file : String)
    (w : World) (fs : FS) :
    installHandlers events o g file w fs = .stopped ⟨events, .ret 1, fs⟩ ∨
      installHandlers events o g file w fs = .ready events o g file fs := by
  unfold installHandlers
  split_ifs
  all_goals first | exact .inl rfl | exact .inr rfl

/-- `configure` ends `main` before any call of the lifecycle, with the files as they were, or,
without `-t`, hands on to `daemonize`. -/
theorem configure_cases (o : Options) (w : World) :
    (∃ ending, configure o w = .stopped ⟨[], ending, w.fs⟩) ∨
      ∃ g, o.test_config = false ∧ configure o w = daemonize o g (o.pidfile.getD g.PIDFile) w := by
  unfold configure
  rcases w.cf_read o.configfile with _ | g
  · exact .inl ⟨_, rfl⟩
  dsimp only
  rcases g.BaseDir with _ | basedir
  · exact .inl ⟨_, rfl⟩
  dsimp only
  by_cases h₁ : (change_basedir w.basedir basedir).1 ≠ 0
  · exact .inl ⟨_, if_pos h₁⟩
  rw [if_neg h₁]
  rcases init_global_variables g with _ | status
  · exact .inl ⟨_, rfl⟩
  dsimp only
  by_cases h₂ : status ≠ 0
  · exact .inl ⟨_, if_pos h₂⟩
  rw [if_neg h₂]
  cases o.test_config
  · exact .inr ⟨g, rfl, rfl⟩
  · exact .inl ⟨_, rfl⟩

/-- The notifications make at most one call. -/
theorem notify_length (w : World) : (notify w).1.length ≤ 1 := by
  unfold notify
  dsimp only
  split
  · simp
  · rw [List.length_map]
    cases (notify_systemd w.sockets (notify_upstart w.env).2).2.1 <;> simp

/-! ## The order of the lifecycle -/

/-- The place of a call in the lifecycle. -/
def Event.phase : Event → Nat
  | .upstart | .systemd _ => 0
  | .fork => 1
  | .pidfileCreate _ => 2
  | .doInit => 3
  | .readAllOnce | .doLoop | .mainLoop _ => 4
  | .doShutdown => 5
  | .pidfileRemove _ => 6

theorem Event.phase_of_isLoop {e : Event} (he : e.isLoop) : e.phase = 4 := by
  cases e <;> first | rfl | simp [Event.isLoop] at he

/-- Calls in the lifecycle's order, each phase at most once. -/
def InOrder (events : List Event) : Prop := events.Pairwise fun e e' => e.phase < e'.phase

theorem InOrder.append {l l' : List Event} (h : InOrder l) (h' : InOrder l') (n : Nat)
    (hl : ∀ e ∈ l, e.phase < n) (hl' : ∀ e ∈ l', n ≤ e.phase) : InOrder (l ++ l') :=
  List.pairwise_append.mpr ⟨h, h', fun a ha b hb => (hl a ha).trans_le (hl' b hb)⟩

theorem inOrder_of_length_le_one {l : List Event} (h : l.length ≤ 1) : InOrder l := by
  rcases l with _ | ⟨_, _ | ⟨_, _⟩⟩
  · exact .nil
  · exact List.pairwise_singleton _ _
  · simp at h

/-- Start-up keeps the order, and hands on only calls before `do_init`. -/
def Startup.Ordered : Startup → Prop
  | .stopped out => InOrder out.events
  | .ready events .. => InOrder events ∧ ∀ e ∈ events, e.phase < Event.doInit.phase

/-- A test of start-up keeps the order when both its branches do. -/
theorem Startup.Ordered.ite {c : Prop} [Decidable c] {x y : Startup} (hx : x.Ordered)
    (hy : y.Ordered) : (if c then x else y).Ordered := by
  split <;> assumption

section Order
variable {events : List Event} {o : Options} {g : Globals} {file : String} {w : World} {fs : FS}

theorem installHandlers_ordered (h : InOrder events)
    (hlt : ∀ e ∈ events, e.phase < Event.doInit.phase) :
    (installHandlers events o g file w fs).Ordered := by
  rcases installHandlers_cases events o g file w fs with hi | hi <;> rw [hi]
  exacts [h, ⟨h, hlt⟩]

theorem child_ordered (h : InOrder events)
    (hlt : ∀ e ∈ events, e.phase < (Event.pidfileCreate file).phase) :
    (child events o g file w).Ordered := by
  have happ : InOrder (events ++ [.pidfileCreate file]) :=
    h.append (List.pairwise_singleton _ _) _ hlt (by simp)
  have hlt' : ∀ e ∈ events ++ [.pidfileCreate file], e.phase < Event.doInit.phase := by
    intro e he
    rcases List.mem_append.mp he with he | he
    · exact (hlt e he).trans (by simp [Event.phase])
    · simp [List.mem_singleton.mp he, Event.phase]
  unfold child
  dsimp only
  exact .ite h (.ite happ (.ite happ (.ite happ (installHandlers_ordered happ hlt'))))

theorem daemonize_ordered : (daemonize o g file w).Ordered := by
  have hphase : ∀ e ∈ (notify w).1, e.phase = 0 := fun e he => by
    rcases (notify_events w).1 e he with rfl | ⟨call, rfl⟩ <;> rfl
  have hn : InOrder (notify w).1 := inOrder_of_length_le_one (notify_length w)
  have hf : InOrder ((notify w).1 ++ [.fork]) :=
    hn.append (List.pairwise_singleton _ _) 1 (fun e he => by rw [hphase e he]; simp) (by simp [Event.phase])
  have hlt : ∀ e ∈ (notify w).1 ++ [.fork], e.phase < (Event.pidfileCreate file).phase := by
    intro e he
    rcases List.mem_append.mp he with he | he
    · rw [hphase e he]
      simp [Event.phase]
    · simp [List.mem_singleton.mp he, Event.phase]
  unfold daemonize
  dsimp only
  refine .ite (installHandlers_ordered List.Pairwise.nil (by simp))
    (.ite (installHandlers_ordered hn fun e he => by rw [hphase e he]; simp [Event.phase]) ?_)
  split
  all_goals first | exact hf | exact child_ordered hf hlt

theorem configure_ordered : (configure o w).Ordered := by
  rcases configure_cases o w with ⟨_, h⟩ | ⟨g, -, h⟩ <;> rw [h]
  exacts [List.Pairwise.nil, daemonize_ordered]

theorem startup_ordered (b : Build) (cli : Cli) (w : World) : (startup b cli w).Ordered := by
  unfold startup
  (repeat' split) <;> first | exact List.Pairwise.nil | exact configure_ordered

end Order

/-- From `do_init` on, the phases of the calls are one of four sequences. -/
theorem runLoops_phases (b : Build) (o : Options) (g : Globals) (file : String) (w : World)
    (fs : FS) :
    (runLoops b o g file w fs).events.map Event.phase ∈ [[3], [3, 4], [3, 4, 5], [3, 4, 5, 6]] := by
  rcases runLoops_cases b o g file w fs with ⟨e, st, he, hr⟩ | ⟨e, he, hr⟩ | ⟨-, -, hr⟩ <;>
    rw [hr]
  · rw [shutdown_events]
    split <;> simp only [List.cons_append, List.nil_append, List.map_cons, List.map_nil,
      Event.phase_of_isLoop he] <;> simp [Event.phase]
  · simp only [List.map_cons, List.map_nil, Event.phase_of_isLoop he]
    simp [Event.phase]
  · simp [Event.phase]

/-- From `do_init` on, the calls come in order, none before `do_init`. -/
theorem runLoops_ordered (b : Build) (o : Options) (g : Globals) (file : String) (w : World)
    (fs : FS) :
    InOrder (runLoops b o g file w fs).events ∧
      ∀ e ∈ (runLoops b o g file w fs).events, Event.doInit.phase ≤ e.phase := by
  have hshapes : ∀ ps ∈ [[3], [3, 4], [3, 4, 5], [3, 4, 5, 6]],
      ps.Pairwise (· < ·) ∧ ∀ p ∈ ps, 3 ≤ p := by decide
  obtain ⟨hpw, hge⟩ := hshapes _ (runLoops_phases b o g file w fs)
  exact ⟨List.pairwise_map.mp hpw, fun e he => hge _ (List.mem_map_of_mem _ he)⟩

/-- In every run, `main`'s calls come in the lifecycle's order, each phase at most once: at most
one notification, then `fork`, `pidfile_create`, `do_init`, one loop call, `do_shutdown` and
`pidfile_remove`, each at most once and none out of turn. -/
theorem main_in_order (b : Build) (cli : Cli) (w : World) :
    (main b cli w).events.Pairwise fun e e' => e.phase < e'.phase := by
  have hs := startup_ordered b cli w
  cases hst : startup b cli w with
  | stopped out =>
    rw [hst] at hs
    simpa only [main, hst] using hs
  | ready events o g file fs =>
    rw [hst] at hs
    rw [main_ready b cli w hst]
    obtain ⟨hr, hge⟩ := runLoops_ordered b o g file w fs
    exact hs.1.append hr _ hs.2 hge

/-! ## `-t`, `-f` and `-T` -/

theorem readOptions_ok {o o' : Options} {opts : List Opt} (h : readOptions o opts = .ok o') :
    o' = o.ofOpts opts := by
  rw [readOptions_eq] at h
  split at h
  · cases h
  · exact (Except.ok.inj h).symm

/-- A `-h` or an unknown option anywhere on the command line ends `main` in `exit_usage`, before
any call and whatever else the command line holds: with the status of the first of them. -/
theorem main_usage (b : Build) (cli : Cli) (w : World) {status : Int}
    (h : (cli.opts.filterMap Opt.usageStatus).head? = some status) :
    main b cli w = ⟨[], .exit status, w.fs⟩ := by
  rw [main, startup, readOptions_eq, h]

theorem main_usage_run :
    ([Opt.t, .f, .other, .h].filterMap Opt.usageStatus).head? = some 1 ∧
      main nanosleepBuild ⟨[.t, .f, .other, .h], false⟩ calm = ⟨[], .exit 1, calm.fs⟩ :=
  ⟨rfl, main_usage _ _ _ rfl⟩

/-- With `-t`, `main` makes none of the lifecycle's calls and leaves the regular files as they
were, whatever else the command line holds and whatever the calls return. -/
theorem main_test_config (b : Build) (cli : Cli) (w : World) (ht : Opt.t ∈ cli.opts) :
    (main b cli w).events = [] ∧ (main b cli w).fs = w.fs := by
  suffices h : ∃ ending, startup b cli w = .stopped ⟨[], ending, w.fs⟩ by
    obtain ⟨_, h⟩ := h
    simp [main, h]
  unfold startup
  cases hr : readOptions (Options.init b) cli.opts with
  | error => exact ⟨_, rfl⟩
  | ok o =>
    have hto : o.test_config = true := by simp [readOptions_ok hr, Options.ofOpts, ht]
    dsimp only
    split
    · exact ⟨_, rfl⟩
    rcases configure_cases o w with h | ⟨g, hf, -⟩
    · exact h
    · simp [hto] at hf

theorem main_test_config_run :
    Opt.t ∈ [Opt.f, .t, .C "/etc/collectd.d/test.conf"] ∧
      (main nanosleepBuild ⟨[.f, .t, .C "/etc/collectd.d/test.conf"], false⟩ calm).events = [] ∧
      (main nanosleepBuild ⟨[.f, .t, .C "/etc/collectd.d/test.conf"], false⟩ calm).fs = calm.fs :=
  ⟨by decide, main_test_config _ _ _ (by decide)⟩

/-- Without daemonizing, `runLoops` makes only `do_init`, a loop call and `do_shutdown`, and leaves
the files as it found them. -/
theorem runLoops_foreground (b : Build) (o : Options) (g : Globals) (file : String) (w : World)
    (fs : FS) (hd : o.daemonize = false) :
    (∀ e ∈ (runLoops b o g file w fs).events, e = .doInit ∨ e.isLoop ∨ e = .doShutdown) ∧
      (runLoops b o g file w fs).fs = fs := by
  rcases runLoops_cases b o g file w fs with ⟨e, st, he, hr⟩ | ⟨e, he, hr⟩ | ⟨-, -, hr⟩ <;>
    rw [hr]
  · refine ⟨fun x hx => ?_, by simp [shutdown, hd]⟩
    simp only [shutdown_events, hd, Bool.false_eq_true, ↓reduceIte, List.cons_append,
      List.nil_append, List.mem_cons, List.mem_singleton, List.not_mem_nil, or_false] at hx
    rcases hx with rfl | rfl | rfl <;> simp [he]
  · refine ⟨fun x hx => ?_, rfl⟩
    simp only [List.mem_cons, List.mem_singleton, List.not_mem_nil, or_false] at hx
    rcases hx with rfl | rfl <;> simp [he]
  · exact ⟨by simp, rfl⟩

/-- Start-up in the foreground ends with no call of the lifecycle and the files as they were, or
hands `runLoops` options that do not daemonize, with no call made. -/
theorem startup_foreground (b : Build) (cli : Cli) (w : World)
    (hf : Opt.f ∈ cli.opts ∨ Opt.T ∈ cli.opts) :
    (∃ ending, startup b cli w = .stopped ⟨[], ending, w.fs⟩) ∨
      ∃ o g file, o.daemonize = false ∧ startup b cli w = .ready [] o g file w.fs := by
  unfold startup
  cases hr : readOptions (Options.init b) cli.opts with
  | error => exact .inl ⟨_, rfl⟩
  | ok o =>
    have hd : o.daemonize = false := by
      rw [readOptions_ok hr]
      rcases hf with h | h <;> simp [Options.ofOpts, h]
    dsimp only
    split
    · exact .inl ⟨_, rfl⟩
    rcases configure_cases o w with h | ⟨g, -, h⟩
    · exact .inl h
    rw [h, daemonize, if_pos (by simp [hd])]
    rcases installHandlers_cases [] o g (o.pidfile.getD g.PIDFile) w w.fs with hi | hi <;> rw [hi]
    exacts [.inl ⟨_, rfl⟩, .inr ⟨o, g, _, hd, rfl⟩]

/-- In the foreground (`-f` or `-T`), `main` never notifies a supervisor, never forks and never
touches the PID file: it makes only `do_init`, its loop call and `do_shutdown`, and leaves the
regular files as they were, whatever the environment says of a supervisor. -/
theorem main_foreground (b : Build) (cli : Cli) (w : World)
    (hf : Opt.f ∈ cli.opts ∨ Opt.T ∈ cli.opts) :
    (∀ e ∈ (main b cli w).events, e = .doInit ∨ e.isLoop ∨ e = .doShutdown) ∧
      (main b cli w).fs = w.fs := by
  rcases startup_foreground b cli w hf with ⟨_, h⟩ | ⟨o, g, file, hd, h⟩
  · simp [main, h]
  · rw [main_ready b cli w h]
    obtain ⟨hev, hfs⟩ := runLoops_foreground b o g file w w.fs hd
    exact ⟨by simpa using hev, hfs⟩

theorem main_foreground_run :
    (Opt.f ∈ [Opt.f] ∨ Opt.T ∈ [Opt.f]) ∧
      (∀ e ∈ (main nanosleepBuild ⟨[.f], false⟩ upstartWorld).events,
        e = .doInit ∨ e.isLoop ∨ e = .doShutdown) ∧
      (main nanosleepBuild ⟨[.f], false⟩ upstartWorld).fs = upstartWorld.fs :=
  ⟨.inl (by decide), main_foreground _ _ _ (.inl (by decide))⟩

/-- With `-T`, once `do_init` runs, `main` makes the one read and shuts down, in either build: no
read loop, no keepalive set-up, no PID file. -/
theorem main_test_readall (b : Build) (cli : Cli) (w : World) (hT : Opt.T ∈ cli.opts)
    (hinit : .doInit ∈ (main b cli w).events) :
    (main b cli w).events = [.doInit, .readAllOnce, .doShutdown] := by
  obtain ⟨events, o, g, file, fs, hst, -⟩ := main_of_mem b cli w hinit rfl
  have ho : o = (Options.init b).ofOpts cli.opts ∧ events = [] := by
    unfold startup at hst
    cases hr : readOptions (Options.init b) cli.opts with
    | error => simp [hr] at hst
    | ok o' =>
      simp only [hr] at hst
      split at hst
      · cases hst
      rcases configure_cases o' w with ⟨_, h⟩ | ⟨g', -, h⟩ <;> rw [h] at hst
      · cases hst
      have hd : o'.daemonize = false := by simp [readOptions_ok hr, Options.ofOpts, hT]
      rw [daemonize, if_pos (by simp [hd])] at hst
      rcases installHandlers_cases [] o' g' (o'.pidfile.getD g'.PIDFile) w w.fs with hi | hi <;>
        rw [hi] at hst <;> cases hst
      exact ⟨readOptions_ok hr, rfl⟩
  obtain ⟨rfl, rfl⟩ := ho
  rw [main_ready b cli w hst, List.nil_append, runLoops, if_pos (by simp [Options.ofOpts, hT])]
  simp [afterLoop, shutdown_events, Options.ofOpts, hT]

theorem main_test_readall_run :
    Opt.T ∈ [Opt.T] ∧
      .doInit ∈ (main keepaliveBuild ⟨[.T], false⟩ { calm with g_main_loop_new := false }).events ∧
      (main keepaliveBuild ⟨[.T], false⟩ { calm with g_main_loop_new := false }).events =
        [.doInit, .readAllOnce, .doShutdown] :=
  ⟨by decide, by decide, main_test_readall _ _ _ (by decide) (by decide)⟩

/-! ## The exit status -/

section Status
variable {b : Build} {o : Options} {g : Globals} {file : String} {w : World} {fs : FS}

/-- After a loop call that returns, `main` returns the status so far, or `1` when `do_shutdown`
fails. -/
theorem afterLoop_ending {st : Int} {e : Event} {r : Bool}
    (hs : .doShutdown ∈ (afterLoop o file w fs st e r).events) (he : e ≠ .doShutdown) :
    (afterLoop o file w fs st e r).ending = .ret (if w.do_shutdown ≠ 0 then 1 else st) := by
  cases r
  · simp [afterLoop, Ne.symm he] at hs
  · simp only [afterLoop, shutdown, if_true]
    split <;> rfl

/-- A call made in neither branch of a test is not made. -/
theorem not_mem_events_ite {c : Prop} [Decidable c] {x y : Outcome} {e : Event}
    (hx : e ∉ x.events) (hy : e ∉ y.events) : e ∉ (if c then x else y).events := by
  split <;> assumption

/-- `-T`'s read is made exactly when `-T` was given. -/
theorem runLoops_readAllOnce : .readAllOnce ∈ (runLoops b o g file w fs).events ↔ o.test_readall := by
  unfold runLoops
  by_cases ht : o.test_readall
  · simp [ht, afterLoop]
  · simp only [ht, Bool.false_eq_true, ↓reduceIte, iff_false]
    have hloop : ∀ st e r, e ≠ .readAllOnce → .readAllOnce ∉ (afterLoop o file w fs st e r).events :=
      fun st e r he => by
        cases r
        · simp [afterLoop, Ne.symm he]
        · show Event.readAllOnce ∉ [Event.doInit, e] ++ (shutdown o file w fs st).events
          rw [shutdown_events]
          split <;> simp [Ne.symm he]
    have hret : Event.readAllOnce ∉ (⟨[.doInit], .ret 1, fs⟩ : Outcome).events := by simp
    exact not_mem_events_ite (hloop _ _ _ (by simp)) <| not_mem_events_ite hret <|
      not_mem_events_ite hret <| not_mem_events_ite hret (hloop _ _ _ (by simp))

/-- Once `runLoops` shuts down, its status is `1` exactly when `do_init`, the read of `-T` or
`do_shutdown` failed. -/
theorem runLoops_ending (hs : .doShutdown ∈ (runLoops b o g file w fs).events) :
    (runLoops b o g file w fs).ending = .ret (if w.do_init ≠ 0 ∨ w.do_shutdown ≠ 0 ∨
      (o.test_readall ∧ w.plugin_read_all_once ≠ 0) then 1 else 0) := by
  unfold runLoops at hs ⊢
  by_cases ht : o.test_readall
  · rw [if_pos ht] at hs ⊢
    rw [afterLoop_ending hs (by simp), initStatus]
    by_cases h₁ : w.do_init = 0 <;> by_cases h₂ : w.do_shutdown = 0 <;>
      by_cases h₃ : w.plugin_read_all_once = 0 <;> simp [ht, h₁, h₂, h₃]
  · rw [if_neg ht] at hs ⊢
    simp only [ht, Bool.false_eq_true, false_and, or_false]
    have hst : ∀ e r, e ≠ .doShutdown → .doShutdown ∈ (afterLoop o file w fs (initStatus w) e r).events →
        (afterLoop o file w fs (initStatus w) e r).ending =
          .ret (if w.do_init ≠ 0 ∨ w.do_shutdown ≠ 0 then 1 else 0) := fun e r he hs => by
      rw [afterLoop_ending hs he, initStatus]
      by_cases h₁ : w.do_init = 0 <;> by_cases h₂ : w.do_shutdown = 0 <;> simp [h₁, h₂]
    by_cases hk : b.keepalive
    · rw [if_neg (by simp [hk])] at hs ⊢
      revert hs
      cases w.g_main_loop_new
      · simp
      cases w.connect_to_system_bus
      · simp
      cases w.background_activity_new
      · simp
      exact hst _ _ (by simp)
    · rw [if_pos (by simpa using hk)] at hs ⊢
      exact hst _ _ (by simp) hs

end Status

/-- Once `main` shuts down, it returns `1` exactly when `do_init`, the read of `-T` or
`do_shutdown` failed, and `0` else: none of these failures is lost, and nothing else changes
the status, how the read loop ended included. -/
theorem main_exit_status (b : Build) (cli : Cli) (w : World)
    (hs : .doShutdown ∈ (main b cli w).events) :
    (main b cli w).ending = .ret (if w.do_init ≠ 0 ∨ w.do_shutdown ≠ 0 ∨
      (.readAllOnce ∈ (main b cli w).events ∧ w.plugin_read_all_once ≠ 0) then 1 else 0) := by
  obtain ⟨events, o, g, file, fs, hst, hsound⟩ := main_of_mem b cli w hs rfl
  rw [main_ready b cli w hst] at hs ⊢
  have hno : .readAllOnce ∉ events := not_mem_of_startup hsound.1 rfl
  have hns : .doShutdown ∉ events := not_mem_of_startup hsound.1 rfl
  simp only [List.mem_append, hno, hns, false_or] at hs ⊢
  rw [runLoops_ending hs]
  simp only [runLoops_readAllOnce]

/-- `do_init` fails in an otherwise calm run. -/
def initFails : World := { calm with do_init := 1 }

theorem main_exit_status_run :
    .doShutdown ∈ (main nanosleepBuild ⟨[], false⟩ initFails).events ∧
      (main nanosleepBuild ⟨[], false⟩ initFails).ending = .ret 1 ∧
      (main nanosleepBuild ⟨[], false⟩ initFails).ending =
        .ret (if initFails.do_init ≠ 0 ∨ initFails.do_shutdown ≠ 0 ∨
          (.readAllOnce ∈ (main nanosleepBuild ⟨[], false⟩ initFails).events ∧
            initFails.plugin_read_all_once ≠ 0) then 1 else 0) :=
  ⟨by decide, by decide, main_exit_status _ _ _ (by decide)⟩

end Collectd.Main
