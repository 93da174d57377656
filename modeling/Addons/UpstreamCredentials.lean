import Mathlib.Data.List.Basic

/-!
# Upstream credentials along redirects

The requests of one upstream fetch, with those that carry the credentials of the repository.
-/

namespace Addons.UpstreamCredentials

structure Url where
  scheme : String
  host : Option String
  port : Option Nat
deriving DecidableEq

def knownDefaultPort : String → Option Nat
  | "http" | "ws" => some 80
  | "https" | "wss" => some 443
  | "ftp" => some 21
  | _ => none

def Url.portOrKnownDefault (url : Url) : Option Nat :=
  url.port.or (knownDefaultPort url.scheme)

def Url.origin (url : Url) : String × Option String × Option Nat :=
  (url.scheme, url.host, url.portOrKnownDefault)

/-- The comparison of redirects and of crate downloads. -/
def sameHostAndPort (next prev : Url) : Bool :=
  next.host = prev.host && next.portOrKnownDefault = prev.portOrKnownDefault

/-- The comparison of PyPI file references. -/
def sameHost (url : Url) (upstream : Option Url) : Bool :=
  upstream.any fun up =>
    (url.host.getD "").toList.map Char.toLower = (up.host.getD "").toList.map Char.toLower

structure Hop where
  url : Url
  authorized : Bool
deriving DecidableEq

/-- The requests from `url` on, after `via` earlier ones, when the redirects lead to the given
targets. -/
def followUpstream (via : Nat) (url : Url) (authorized : Bool) : List Url → List Hop
  | [] => [⟨url, authorized⟩]
  | target :: rest =>
    ⟨url, authorized⟩ ::
      if via + 1 ≥ 10 then []
      else followUpstream (via + 1) target (authorized && sameHostAndPort target url) rest

/-- A URL that is asked for and where its redirects lead. -/
structure Chain where
  url : Url
  trusted : Bool
  targets : List Url

/-- What an OCI registry answers to the first request. -/
inductive Challenge where
  | none
  /-- A 401 without a bearer challenge. -/
  | plain
  /-- A bearer challenge, and whether the realm gives a token that is not empty. -/
  | bearer (realm : Url) (token : Bool)

inductive Request where
  /-- A path below the configured upstream. -/
  | path (targets : List Url)
  /-- The file that a PyPI reference names. -/
  | file (reference : Url) (targets : List Url)
  /-- The crate at the URL to which the `dl` template of the registry expands. -/
  | download (target : Url) (targets : List Url)
  /-- A request to an OCI registry, whether the credentials are basic ones and whether a token is
  cached; `again` are the redirects of the retry. -/
  | image (basic cached : Bool) (targets : List Url) (challenge : Challenge) (again : List Url)

/-- The requests of one fetch, with the URLs that are trusted with the credentials. The token
exchange follows no redirect. -/
def Request.chains (upstream : Option Url) : Request → List Chain
  | .path targets => upstream.toList.map fun url => ⟨url, true, targets⟩
  | .file reference targets =>
    if (reference.scheme = "http" ∨ reference.scheme = "https") ∧ reference.host.getD "" ≠ "" then
      [⟨reference, sameHost reference upstream, targets⟩]
    else []
  | .download target targets => [⟨target, upstream.any (sameHostAndPort target), targets⟩]
  | .image basic cached targets challenge again =>
    upstream.toList.flatMap fun url =>
      ⟨url, !cached, targets⟩ ::
        if targets.length ≥ 10 then []
        else
          match challenge with
          | .none => []
          | .plain => [⟨url, !cached, again⟩]
          | .bearer realm token => [⟨realm, basic, []⟩, ⟨url, !token, again⟩]

def requests (upstream : Option Url) (request : Request) : List Hop :=
  (request.chains upstream).flatMap fun chain =>
    followUpstream 0 chain.url chain.trusted chain.targets

/-- The targets up to the first one on another host or port. -/
def sameHostRun (url : Url) : List Url → List Url
  | [] => []
  | target :: rest =>
    if sameHostAndPort target url then target :: sameHostRun target rest else []

/-! ## Where the credentials go -/

theorem followUpstream_unauthorized (targets : List Url) (via : Nat) (url : Url) :
    ∀ hop ∈ followUpstream via url false targets, hop.authorized = false := by
  induction targets generalizing via url with
  | nil => simp [followUpstream]
  | cons target _ ih =>
    simp only [followUpstream, Bool.false_and, List.forall_mem_cons, true_and]
    split
    · simp
    · exact ih (via + 1) target

theorem forall_authorized_iff {Allowed : Url → Prop} (targets : List Url) (via : Nat) (url : Url)
    (few : via ≤ 9) :
    (∀ hop ∈ followUpstream via url true targets, hop.authorized → Allowed hop.url) ↔
      Allowed url ∧ ∀ target ∈ sameHostRun url (targets.take (9 - via)), Allowed target := by
  induction targets generalizing via url with
  | nil => simp [followUpstream, sameHostRun]
  | cons target rest ih =>
    simp only [followUpstream, List.forall_mem_cons, Bool.true_and, true_implies]
    refine and_congr_right fun _ => ?_
    by_cases last : via + 1 ≥ 10
    · have none : 9 - via = 0 := by omega
      simp [last, none, sameHostRun]
    · have more : 9 - via = 9 - (via + 1) + 1 := by omega
      rw [if_neg last, more, List.take_succ_cons, sameHostRun]
      cases same : sameHostAndPort target url with
      | false =>
        simp only [Bool.false_eq_true, if_false, List.not_mem_nil, false_implies, implies_true,
          iff_true]
        intro hop member authorized
        rw [followUpstream_unauthorized rest (via + 1) target hop member] at authorized
        cases authorized
      | true => rw [ih (via + 1) target (by omega), if_pos rfl, List.forall_mem_cons]

theorem origin_iff_scheme {configured url : Url} (atOrigin : url.origin = configured.origin)
    {targets : List Url} :
    (∀ target ∈ sameHostRun url targets, target.origin = configured.origin) ↔
      ∀ target ∈ sameHostRun url targets, target.scheme = configured.scheme := by
  induction targets generalizing url with
  | nil => simp [sameHostRun]
  | cons target _ ih =>
    rw [sameHostRun]
    split
    · rename_i same
      simp only [sameHostAndPort, Bool.and_eq_true, decide_eq_true_eq] at same
      have first : target.origin = configured.origin ↔ target.scheme = configured.scheme := by
        simp only [Url.origin, Prod.mk.injEq] at atOrigin ⊢
        simp [same, atOrigin]
      simp only [List.forall_mem_cons, first]
      exact and_congr_right fun scheme => ih (first.mpr scheme)
    · simp

theorem chain_at_origin_iff (configured : Url) (chain : Chain) :
    (∀ hop ∈ followUpstream 0 chain.url chain.trusted chain.targets, hop.authorized = true →
      hop.url.origin = configured.origin) ↔
    (chain.trusted = true → chain.url.origin = configured.origin ∧
      ∀ target ∈ sameHostRun chain.url (chain.targets.take 9),
        target.scheme = configured.scheme) := by
  obtain ⟨url, trusted, targets⟩ := chain
  cases trusted with
  | false =>
    simp only [Bool.false_eq_true, false_implies, iff_true]
    intro hop member authorized
    rw [followUpstream_unauthorized targets 0 url hop member] at authorized
    cases authorized
  | true =>
    rw [@forall_authorized_iff (·.origin = configured.origin) targets 0 url (Nat.zero_le 9)]
    simp only [true_implies]
    exact and_congr_right fun atOrigin => origin_iff_scheme atOrigin

/-- The credentials stay at the configured origin exactly when every URL that is trusted is there,
and no redirect that keeps host and port changes the scheme. -/
theorem credentials_at_origin_iff (configured : Url) (request : Request) :
    (∀ hop ∈ requests (some configured) request, hop.authorized = true →
      hop.url.origin = configured.origin) ↔
    ∀ chain ∈ request.chains (some configured), chain.trusted = true →
      chain.url.origin = configured.origin ∧
        ∀ target ∈ sameHostRun chain.url (chain.targets.take 9),
          target.scheme = configured.scheme := by
  simp only [requests, List.mem_flatMap, forall_exists_index, and_imp, ← chain_at_origin_iff]
  exact ⟨fun kept chain member hop => kept hop chain member,
    fun kept hop chain member => kept chain member hop⟩

/-- A PyPI reference to another port of the host, a crate at its TLS port without TLS and the realm
of a token all get the credentials. -/
theorem credentials_leave_origin :
    let configured : Url := ⟨"https", some "index.corp", none⟩
    let port : Url := ⟨"http", some "index.corp", some 8080⟩
    let plain : Url := ⟨"http", some "index.corp", some 443⟩
    let realm : Url := ⟨"https", some "auth.other", none⟩
    ∀ sent ∈ [(port, Request.file port []), (plain, .download plain []),
        (realm, .image true false [] (.bearer realm true) [])],
      ⟨sent.1, true⟩ ∈ requests (some configured) sent.2 ∧ sent.1.origin ≠ configured.origin := by
  decide +kernel

end Addons.UpstreamCredentials
