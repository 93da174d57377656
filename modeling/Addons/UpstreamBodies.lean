import Mathlib.Data.List.Basic

/-!
# What is cached of an upstream body

A body streams into the blob store through a reader that ends at the size limit as at the end of
the body.
-/

namespace Addons.UpstreamBodies

open Option

structure Response where
  status : Nat
  body : List UInt8
  /-- How many bytes come before the connection ends. -/
  arrived : Nat
  /-- A Content-Length or the chunks tell where the body ends. -/
  framed : Bool
  etag : String
  lastModified : String

def Response.isSuccess (response : Response) : Bool :=
  200 ≤ response.status ∧ response.status < 300

/-- `response_body`, read to its end; `none` is an error of the stream. -/
def responseBody (response : Response) (max : Int) : Option (List UInt8) :=
  if 0 < max ∧ max.toNat ≤ response.arrived ∧ max.toNat ≤ response.body.length then
    some (response.body.take max.toNat)
  else if response.framed ∧ response.arrived < response.body.length then none
  else some (response.body.take response.arrived)

structure FetchSpec where
  metadata : Bool
  maxStoreBytes : Int

/-- What happens around one upstream request. -/
structure Surroundings where
  /-- Another caller has stored a fresh copy. -/
  fresh : Bool
  conditional : Bool
  response : Option Response
  ageBlocked : Bool
  storeSucceeds : Bool

inductive FetchKind where
  | stored
  | notFound
  | ageBlocked
  | retry
  | error
deriving DecidableEq

structure Recorded where
  bytes : List UInt8
  validators : Option (String × String)
deriving DecidableEq

def fetchAndStore (spec : FetchSpec) (given : Surroundings) : FetchKind × Option Recorded :=
  if given.fresh then (.stored, none)
  else
    match given.response with
    | none => (.error, none)
    | some response =>
      if response.status = 304 then (if given.conditional then .stored else .error, none)
      else if response.status = 404 then (.notFound, none)
      else if response.status = 429 ∨ response.status = 503 then (.retry, none)
      else if response.isSuccess = false then (.error, none)
      else if given.ageBlocked then (.ageBlocked, none)
      else
        match responseBody response spec.maxStoreBytes with
        | none => (.error, none)
        | some bytes =>
          if given.storeSucceeds then
            (.stored, some ⟨bytes,
              if spec.metadata then some (response.etag, response.lastModified) else none⟩)
          else (.error, none)

def maxMetadataBytes : Int := 64 * 1024 * 1024

/-- The fetch of a PyPI index, which is recorded once it parses. -/
def pypiSimple (parses : List UInt8 → Bool) (given : Surroundings) : Option Recorded := do
  let response ← given.response
  if response.isSuccess = false then none
  else
    let bytes ← responseBody response maxMetadataBytes
    if parses bytes ∧ given.storeSucceeds then some ⟨bytes, none⟩ else none

/-! ## When the whole body is recorded -/

/-- The limit does not cut the body, and the end of the connection is not taken for its end. -/
def Response.Whole (response : Response) (max : Int) : Prop :=
  ¬(0 < max ∧ max.toNat ≤ response.arrived ∧ max.toNat < response.body.length) ∧
    (response.framed = true ∨ response.body.length ≤ response.arrived)

variable {response : Response} {max : Int} {bytes : List UInt8}

theorem take_eq_body_iff {count : Nat} :
    response.body.take count = response.body ↔ response.body.length ≤ count := by
  refine ⟨fun same => ?_, List.take_of_length_le⟩
  have length := congrArg List.length same
  rw [List.length_take] at length
  omega

theorem eq_body_iff (read : responseBody response max = some bytes) :
    bytes = response.body ↔ response.Whole max := by
  unfold responseBody at read
  split at read
  · cases read
    rw [take_eq_body_iff]
    constructor
    · intro fits
      exact ⟨by omega, .inr (by omega)⟩
    · rintro ⟨_, -⟩
      omega
  · rename_i unlimited
    split at read
    · cases read
    · rename_i ended
      cases read
      rw [take_eq_body_iff]
      constructor
      · exact fun fits => ⟨by omega, .inr fits⟩
      · rintro ⟨-, framed | fits⟩
        · exact Nat.not_lt.mp fun short => ended ⟨framed, short⟩
        · exact fits

/-- What arrives of the body within the limit. -/
def Response.within (response : Response) (max : Int) : List UInt8 :=
  response.body.take (if 0 < max then min max.toNat response.arrived else response.arrived)

theorem responseBody_of_not_whole (cut : ¬response.Whole max) :
    responseBody response max = some (response.within max) := by
  unfold Response.Whole at cut
  unfold responseBody Response.within
  split
  · rename_i limited
    rw [if_pos limited.1, Nat.min_eq_left limited.2.1]
  · rename_i unlimited
    rw [if_neg fun ended => cut ⟨by omega, .inl ended.1⟩]
    split
    · rw [Nat.min_eq_right (by omega)]
    · rfl

/-- A body that is read from an accepted answer and then kept is whole. -/
theorem forall_kept_iff (answer : Option Response) (accepts : Response → Bool)
    (keeps : List UInt8 → Bool) :
    (∀ bytes ∈ (answer.filter accepts).bind fun response =>
        (responseBody response max).filter keeps, bytes ∈ answer.map Response.body) ↔
      ∀ response ∈ answer, accepts response → keeps (response.within max) →
        response.Whole max := by
  constructor
  · intro complete response answered accepted kept
    by_contra cut
    have read := responseBody_of_not_whole cut
    have same := complete _ (bind_eq_some_iff.mpr ⟨response,
      filter_eq_some_iff.mpr ⟨answered, accepted⟩,
      filter_eq_some_iff.mpr ⟨read, kept⟩⟩)
    rw [answered] at same
    exact cut ((eq_body_iff read).mp (some.inj same).symm)
  · intro whole _ member
    obtain ⟨response, recorded, found⟩ := bind_eq_some_iff.mp member
    obtain ⟨answered, accepted⟩ := filter_eq_some_iff.mp recorded
    obtain ⟨read, kept⟩ := filter_eq_some_iff.mp found
    have complete : response.Whole max := by
      by_contra cut
      have same := some.inj (read.symm.trans (responseBody_of_not_whole cut))
      exact cut (whole response answered accepted (same ▸ kept))
    rw [answered, (eq_body_iff read).mpr complete]
    rfl

/-- The responses that `fetch_and_store` records. -/
def Surroundings.records (given : Surroundings) (response : Response) : Bool :=
  !given.fresh && response.isSuccess && !given.ageBlocked && given.storeSucceeds

theorem fetchAndStore_bytes (spec : FetchSpec) (given : Surroundings) :
    (fetchAndStore spec given).2.map Recorded.bytes =
      (given.response.filter given.records).bind fun response =>
        (responseBody response spec.maxStoreBytes).filter fun _ => true := by
  obtain ⟨fresh, _, answer, ageBlocked, storeSucceeds⟩ := given
  unfold fetchAndStore Surroundings.records
  cases answer with
  | none => cases fresh <;> rfl
  | some response =>
    by_cases success : response.isSuccess
    · have bounds := of_decide_eq_true success
      have plain : response.status ≠ 304 ∧ response.status ≠ 404 ∧ response.status ≠ 429 ∧
          response.status ≠ 503 := by omega
      cases read : responseBody response spec.maxStoreBytes <;> cases fresh <;> cases ageBlocked <;>
        cases storeSucceeds <;> simp [plain, success, read, Option.filter]
    · simp only [success]
      split_ifs <;> simp_all [Option.filter]

theorem pypiSimple_bytes (parses : List UInt8 → Bool) (given : Surroundings) :
    (pypiSimple parses given).map Recorded.bytes =
      (given.response.filter fun response => response.isSuccess && given.storeSucceeds).bind
        fun response => (responseBody response maxMetadataBytes).filter parses := by
  unfold pypiSimple
  cases given.response with
  | none => rfl
  | some response =>
    cases success : response.isSuccess <;> cases given.storeSucceeds <;>
      cases read : responseBody response maxMetadataBytes <;>
      simp [success, read, Option.filter]

/-- Everything recorded is a whole body, exactly when no response that is recorded is cut. -/
theorem recorded_whole_iff (spec : FetchSpec) (parses : List UInt8 → Bool) (given : Surroundings) :
    ((∀ bytes ∈ (fetchAndStore spec given).2.map Recorded.bytes,
        bytes ∈ given.response.map Response.body) ↔
      ∀ response ∈ given.response, given.records response = true →
        response.Whole spec.maxStoreBytes) ∧
    ((∀ bytes ∈ (pypiSimple parses given).map Recorded.bytes,
        bytes ∈ given.response.map Response.body) ↔
      ∀ response ∈ given.response, (response.isSuccess && given.storeSucceeds) = true →
        parses (response.within maxMetadataBytes) = true → response.Whole maxMetadataBytes) := by
  rw [fetchAndStore_bytes, pypiSimple_bytes]
  refine ⟨(forall_kept_iff _ _ _).trans ?_, forall_kept_iff _ _ _⟩
  simp only [true_implies]

/-- An npm packument of one byte more than the limit is recorded without that byte. -/
theorem cut_body_recorded :
    ∃ response recorded, response.body.length = maxMetadataBytes.toNat + 1 ∧
      (fetchAndStore ⟨true, maxMetadataBytes⟩ ⟨false, false, some response, false, true⟩).2 =
        some recorded ∧
      recorded.bytes.length = maxMetadataBytes.toNat ∧ recorded.validators = some ("tag", "") := by
  have limited : 0 < maxMetadataBytes := by decide
  obtain ⟨body, length⟩ : ∃ body : List UInt8, body.length = maxMetadataBytes.toNat + 1 :=
    ⟨List.replicate _ 0, List.length_replicate⟩
  refine ⟨⟨200, body, maxMetadataBytes.toNat + 1, true, "tag", ""⟩,
    ⟨body.take maxMetadataBytes.toNat, some ("tag", "")⟩, length, ?_, ?_, rfl⟩
  · simp [fetchAndStore, Response.isSuccess, responseBody, limited, length]
  · simp [length]

end Addons.UpstreamBodies
