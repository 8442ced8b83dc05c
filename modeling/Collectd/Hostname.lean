import Collectd.Main

/-!
# `init_hostname` with the name it leaves

`Main.init_hostname` keeps only the status `init_global_variables` tests. Here `init_hostname`
(lines 117–169) also computes `hostname_g`, the buffer of `len` bytes (`DATA_MAX_NAME_LEN` of
plugin.h, not among the sources) that plugins read as the host name:

* `canonLoop_eq` : the loop over the list `getaddrinfo` returns copies the first canonical name
  it finds, and leaves the buffer as `gethostname` filled it when no entry has one;
* `init_hostname_name` : the status is the one `Main.init_hostname` computes, and the buffer reads
  back as the configured `Hostname`, else (with `FQDNLookup` on) the first canonical name, else
  `gethostname`'s name, a copied name cut to `len - 1` characters.
-/

namespace Collectd.Hostname

structure HostnameEnv where
  Hostname : Option CStr
  /-- The bytes `gethostname` leaves in `hostname_g`, or `none` when it fails. -/
  gethostname : Option (List Char)
  /-- `FQDNLookup` is not false (`IS_FALSE` of common.h, not among the sources). -/
  FQDNLookup : Bool
  /-- `ai_canonname` of each entry `getaddrinfo` returns, `none` for `NULL`; or `none` when it
  fails. -/
  getaddrinfo : Option (List (Option CStr))
  deriving DecidableEq

/-- What the status of `init_hostname` depends on, as `Main.init_hostname` reads it. -/
def HostnameEnv.calls (env : HostnameEnv) : Main.HostnameCalls :=
  ⟨env.Hostname.isSome, env.gethostname.isSome, env.FQDNLookup, env.getaddrinfo.isSome⟩

/-- The loop of lines 159–166: an entry without a canonical name is skipped (`continue`), the
first with one is copied into `hostname_g` (`break`). -/
def canonLoop (len : Nat) (hostname_g : List Char) : List (Option CStr) → List Char
  | [] => hostname_g
  | none :: ai_list => canonLoop len hostname_g ai_list
  | some ai_canonname :: _ => sstrncpy ai_canonname.chars len

/-- `init_hostname` (lines 117–169): the status and `hostname_g` after. -/
def init_hostname (len : Nat) (env : HostnameEnv) (hostname_g : List Char) : Int × List Char :=
  match env.Hostname with
  | some str => (0, sstrncpy str.chars len)
  | none =>
    match env.gethostname with
    | none => (-1, hostname_g)
    | some hostname_g =>
      if !env.FQDNLookup then (0, hostname_g)
      else
        match env.getaddrinfo with
        | none => (-1, hostname_g)
        | some ai_list => (0, canonLoop len hostname_g ai_list)

/-- The loop copies the first canonical name of the list, and else leaves the buffer. -/
theorem canonLoop_eq (len : Nat) (hostname_g : List Char) (ai_list : List (Option CStr)) :
    canonLoop len hostname_g ai_list =
      match ai_list.findSome? id with
      | some ai_canonname => sstrncpy ai_canonname.chars len
      | none => hostname_g := by
  induction ai_list with
  | nil => rfl
  | cons entry ai_list ih =>
    cases entry
    · rw [canonLoop, ih]
      rfl
    · rfl

/-- The name `hostname_g` reads as once `init_hostname` returns: the configured `Hostname`, else,
with `FQDNLookup` on, the first canonical name the lookup gives, else `gethostname`'s name; a
copied name is cut to `len - 1` characters. -/
def HostnameEnv.name (len : Nat) (env : HostnameEnv) (hostname_g : List Char) : List Char :=
  match env.Hostname, env.gethostname with
  | some str, _ => str.chars.take (len - 1)
  | none, none => cString hostname_g
  | none, some name =>
    match (if env.FQDNLookup then env.getaddrinfo else none).bind (List.findSome? id) with
    | some canonname => canonname.chars.take (len - 1)
    | none => cString name

/-- `init_hostname` returns the status `Main.init_hostname` computes from the outcomes of its calls,
and leaves `hostname_g` reading as `HostnameEnv.name`: the configured name, the first canonical
name of the lookup, or `gethostname`'s, in that order. -/
theorem init_hostname_name {len : Nat} (hlen : 0 < len) (env : HostnameEnv)
    (hostname_g : List Char) :
    (init_hostname len env hostname_g).1 = Main.init_hostname env.calls ∧
      cString (init_hostname len env hostname_g).2 = env.name len hostname_g := by
  obtain ⟨Hostname, gethostname, FQDNLookup, getaddrinfo⟩ := env
  cases Hostname with
  | some str => exact ⟨rfl, cString_sstrncpy str hlen⟩
  | none =>
    cases gethostname with
    | none => exact ⟨rfl, rfl⟩
    | some name =>
      cases FQDNLookup
      · exact ⟨rfl, rfl⟩
      cases getaddrinfo with
      | none => exact ⟨rfl, rfl⟩
      | some ai_list =>
        refine ⟨rfl, ?_⟩
        simp only [init_hostname, HostnameEnv.name, canonLoop_eq, Bool.not_true,
          Bool.false_eq_true, if_true, if_false, Option.some_bind]
        split
        · exact cString_sstrncpy _ hlen
        · rfl

/-- A lookup whose first entry carries no canonical name. -/
def lookupEnv : HostnameEnv :=
  ⟨none, some ("db1".toList ++ List.replicate 61 nul), true,
    some [none, some ⟨"db1.example.org".toList, by decide, by decide⟩]⟩

theorem init_hostname_name_run :
    0 < 64 ∧ cString (init_hostname 64 lookupEnv (List.replicate 64 nul)).2 = "db1.example.org".toList ∧
      ((init_hostname 64 lookupEnv (List.replicate 64 nul)).1 = Main.init_hostname lookupEnv.calls ∧
        cString (init_hostname 64 lookupEnv (List.replicate 64 nul)).2 =
          lookupEnv.name 64 (List.replicate 64 nul)) :=
  ⟨by decide, by decide, init_hostname_name (by decide) _ _⟩

end Collectd.Hostname
