import Collectd.Basic

/-!
# Readiness notification: `notify_upstart` and `notify_systemd`

Under a supervisor `main` does not fork: it tells the supervisor it is ready (lines 443–532).
Under upstart (`UPSTART_JOB=collectd`) it stops itself with SIGSTOP; under systemd it sends the
datagram `READY=1\n` to the socket `NOTIFY_SOCKET` names, a path (`/...`) or a name in Linux's
abstract namespace (`@...`, sent as a NUL byte and the rest of the name). Each clears its
variable once it has acted.

* `sockaddr` : `su.sun_path` and `su_size` for a socket name: `sstrncpy` into the 108 bytes of
  `sun_path`, the first byte cleared and the length cut to the name for an abstract one;
* `notify_systemd_addresses` : a name shorter than `sun_path` is sent to exactly, as a path or
  as an abstract name;
* `notify_systemd_truncates_long_path` : a path of 108 characters is sent to its first 107.
-/

namespace Collectd.Notify

/-- The environment variables the notifications read and clear. -/
structure Env where
  upstartJob : Option CStr
  notifySocket : Option CStr
  deriving DecidableEq

/-- `notify_upstart` (lines 444–462): `1` after raising SIGSTOP for the job `collectd`, else `0`;
and the environment after. -/
def notify_upstart (env : Env) : Int × Env :=
  match env.upstartJob with
  | none => (0, env)
  | some upstart_job =>
    if upstart_job.chars ≠ "collectd".toList then (0, env)
    else (1, { env with upstartJob := none })

/-! ## `notify_systemd` -/

/-- `sizeof (su.sun_path)` on Linux. -/
def sunPathSize : Nat := 108

/-- `sizeof (su)`: the family and `sun_path`. -/
def sockaddrUnSize : Nat := 110

def saFamilySize : Nat := 2

/-- The outcomes of the calls `notify_systemd` makes. -/
structure Sockets where
  /-- `socket (AF_UNIX, SOCK_DGRAM|SOCK_CLOEXEC, 0)` returns a descriptor. -/
  socket : Bool
  sendto : Bool
  deriving DecidableEq, Repr

/-- The `sendto` call of `notify_systemd`: the bytes sent, `su.sun_path` and `su_size`. -/
structure Sendto where
  payload : List Char
  sun_path : List Char
  su_size : Nat
  deriving DecidableEq, Repr

/-- The bytes of `sun_path` the kernel takes as the address: `su_size` less the family. -/
def Sendto.address (call : Sendto) : List Char := call.sun_path.take (call.su_size - saFamilySize)

/-- Lines 498–516: `su.sun_path` and `su_size` for the socket named `notifysocket`. -/
def sockaddr (notifysocket : List Char) : List Char × Nat :=
  if notifysocket.head? ≠ some '@' then (sstrncpy notifysocket sunPathSize, sockaddrUnSize)
  else
    let su_size := saFamilySize + notifysocket.length
    ((sstrncpy notifysocket sunPathSize).set 0 nul,
      if su_size > sockaddrUnSize then sockaddrUnSize else su_size)

/-- `notify_systemd` (lines 464–531): `1` once `READY=1\n` was sent, else `0`; the `sendto` call
it made, if any; and the environment after. -/
def notify_systemd (sys : Sockets) (env : Env) : Int × Option Sendto × Env :=
  match env.notifySocket with
  | none => (0, none, env)
  | some notifysocket =>
    let s := notifysocket.chars
    if s.length < 2 ∨ (s.head? ≠ some '@' ∧ s.head? ≠ some '/') then (0, none, env)
    else
      let env := { env with notifySocket := none }
      if !sys.socket then (0, none, env)
      else
        let call : Sendto := ⟨"READY=1\n".toList, (sockaddr s).1, (sockaddr s).2⟩
        if sys.sendto then (1, some call, env) else (0, some call, env)

section Systemd
variable {sys : Sockets} {env : Env} {s : CStr} {call : Sendto}

/-- A call is made only for the variable's socket, once it was accepted, and it sends
`READY=1\n` to `sockaddr` of the name. -/
theorem notify_systemd_call (hs : env.notifySocket = some s)
    (hcall : (notify_systemd sys env).2.1 = some call) :
    call = ⟨"READY=1\n".toList, (sockaddr s.chars).1, (sockaddr s.chars).2⟩ := by
  simp only [notify_systemd, hs] at hcall
  split_ifs at hcall <;> cases hcall <;> rfl

/-- `notify_systemd` reports success only after a `sendto`. -/
theorem notify_systemd_sent (h : (notify_systemd sys env).1 ≠ 0) :
    ∃ call, (notify_systemd sys env).2.1 = some call := by
  cases hs : env.notifySocket <;> simp only [notify_systemd, hs] at h ⊢
  · exact absurd rfl h
  · split_ifs at h ⊢ <;> first | exact absurd rfl h | exact ⟨_, rfl⟩

/-- `sun_path` of a name shorter than it: the name, then NULs. -/
theorem sstrncpy_sunPath (h : s.chars.length < sunPathSize) :
    cString (sstrncpy s.chars sunPathSize) = s.chars := by
  rw [cString_sstrncpy s (by decide), List.take_of_length_le (by simp only [sunPathSize] at h ⊢; omega)]

/-- A path (`/...`) fills `sun_path`, and the whole `sockaddr_un` is passed. -/
theorem sockaddr_path (h : s.chars.head? = some '/') :
    sockaddr s.chars = (sstrncpy s.chars sunPathSize, sockaddrUnSize) := by
  simp [sockaddr, h]

/-- An abstract name (`@...`) shorter than `sun_path` is passed as a NUL and the rest of the
name, and the length covers exactly those bytes. -/
theorem sockaddr_abstract (h : s.chars.head? = some '@') (hlen : s.chars.length < sunPathSize) :
    (sockaddr s.chars).2 = saFamilySize + s.chars.length ∧
      ((sockaddr s.chars).1).take s.chars.length = nul :: s.chars.tail := by
  obtain ⟨t, ht⟩ := List.head?_eq_some_iff.mp h
  rw [ht, List.length_cons] at hlen
  simp only [sockaddr, ht, List.head?_cons, ne_eq, not_true_eq_false, ↓reduceIte,
    List.length_cons, List.tail_cons]
  refine ⟨if_neg (by simp only [saFamilySize, sockaddrUnSize, sunPathSize] at hlen ⊢; omega), ?_⟩
  rw [sstrncpy_of_lt _ (by simpa using hlen)]
  simp

/-- Every datagram `notify_systemd` sends for a name shorter than `sun_path` is `READY=1\n`, and
it goes to exactly the socket the name gives: a path reads back as the name, an abstract name is
its NUL byte and the rest of the name, with the family's two bytes before them. -/
theorem notify_systemd_addresses (sys : Sockets) (env : Env) {s : CStr} {call : Sendto}
    (hs : env.notifySocket = some s) (hlen : s.chars.length < sunPathSize)
    (hcall : (notify_systemd sys env).2.1 = some call) :
    call.payload = "READY=1\n".toList ∧
      (s.chars.head? = some '/' → cString call.sun_path = s.chars ∧ call.su_size = sockaddrUnSize) ∧
      (s.chars.head? = some '@' →
        call.su_size = saFamilySize + s.chars.length ∧ call.address = nul :: s.chars.tail) := by
  obtain rfl := notify_systemd_call hs hcall
  refine ⟨rfl, fun h => ?_, fun h => ?_⟩
  · rw [sockaddr_path h]
    exact ⟨sstrncpy_sunPath hlen, rfl⟩
  · obtain ⟨hsize, hpath⟩ := sockaddr_abstract h hlen
    refine ⟨hsize, ?_⟩
    show ((sockaddr s.chars).1).take ((sockaddr s.chars).2 - saFamilySize) = _
    rw [hsize, Nat.add_sub_cancel_left, hpath]

end Systemd

def systemdSocket : CStr := ⟨"/run/systemd/notify".toList, by decide, by decide⟩

theorem notify_systemd_addresses_run :
    (notify_systemd ⟨true, true⟩ ⟨none, some systemdSocket⟩).2.1 =
        some ⟨"READY=1\n".toList, sstrncpy systemdSocket.chars sunPathSize, sockaddrUnSize⟩ ∧
      cString (sstrncpy systemdSocket.chars sunPathSize) = systemdSocket.chars := by
  have h : (notify_systemd ⟨true, true⟩ ⟨none, some systemdSocket⟩).2.1 =
      some ⟨"READY=1\n".toList, sstrncpy systemdSocket.chars sunPathSize, sockaddrUnSize⟩ := rfl
  exact ⟨h, ((@notify_systemd_addresses _ _ systemdSocket _ rfl (by decide) h).2.1 rfl).1⟩

/-- A path of `sunPathSize` characters: `/` and 107 more. -/
def longPath : CStr := ⟨'/' :: List.replicate 107 'a', by decide, by decide⟩

/-- A path as long as `sun_path` is cut to its first 107 characters: the datagram goes to
another socket than the one named. -/
theorem notify_systemd_truncates_long_path :
    (notify_systemd ⟨true, true⟩ ⟨none, some longPath⟩).2.1.map (fun call => cString call.sun_path) =
        some ('/' :: List.replicate 106 'a') ∧
      '/' :: List.replicate 106 'a' ≠ longPath.chars := by
  have h : (notify_systemd ⟨true, true⟩ ⟨none, some longPath⟩).2.1 =
      some ⟨"READY=1\n".toList, (sockaddr longPath.chars).1, (sockaddr longPath.chars).2⟩ := rfl
  rw [h, @sockaddr_path longPath rfl, Option.map_some', cString_sstrncpy longPath (by decide)]
  exact ⟨rfl, by decide⟩

end Collectd.Notify
