import Addons.ClaimCooldown

/-!
# Waiting for the filesystem to grow

What a pass saw and brought about, and runs of the controller over one autoscaler, with the
report of every pass beside the resource.
-/

namespace Addons.VolumeAutoscaler

open DecimalText Outcome List

/-! ## Sizes as text -/

/-- The bytes that are left of a size in its text. -/
def wholeBytes (bytes : ℚ) : Nat := (min (max bytes 0).floor 18446744073709551615).toNat

theorem bytesQuantity_eq (bytes : ℚ) : bytesQuantity bytes = toString (wholeBytes bytes) := by
  have nonneg : 0 ≤ min (max bytes 0).floor 18446744073709551615 := by
    apply le_min
    · exact Rat.le_floor_iff.mpr (by simp)
    · decide
  obtain ⟨_, cut⟩ := Int.eq_ofNat_of_zero_le nonneg
  unfold bytesQuantity wholeBytes
  rw [cut]
  rfl

theorem wholeBytes_wholeBytes (bytes : ℚ) : wholeBytes (wholeBytes bytes) = wholeBytes bytes := by
  have bound : wholeBytes bytes ≤ 18446744073709551615 := by
    unfold wholeBytes
    omega
  have nonneg : (0 : ℚ) ≤ wholeBytes bytes := Nat.cast_nonneg _
  have floored : (max (wholeBytes bytes : ℚ) 0).floor = wholeBytes bytes := by
    rw [max_eq_left nonneg]
    exact Rat.floor_intCast (wholeBytes bytes)
  rw [wholeBytes, floored]
  omega

theorem parseDecimal_digits (number : Nat) :
    parseDecimal (Nat.toDigits 10 number) = some (number : ℚ) := by
  have pointless : (Nat.toDigits 10 number).dropWhile (· != '.') = [] := by
    rw [dropWhile_eq_nil_iff]
    intro _ member
    have digit := isDigit_of_mem_decimal member
    rw [bne_iff_ne]
    rintro rfl
    simp at digit
  unfold parseDecimal
  rw [pointless]
  simp [parseDigits_decimal]

theorem dropWhile_eq_self {characters : List Char} {test : Char → Bool}
    (fails : ∀ character ∈ characters, test character = false) :
    characters.dropWhile test = characters := by
  cases characters with
  | nil => rfl
  | cons first => simp [fails first]

theorem quantityBytes_digits (number : Nat) :
    quantityBytes (toString number) = .ok (number : ℚ) := by
  have text : (toString number).toList = Nat.toDigits 10 number := by
    simp [toString, Nat.repr]
  have digits : ∀ character ∈ Nat.toDigits 10 number, character.isDigit :=
    fun _ => isDigit_of_mem_decimal
  have visible : ∀ character ∈ Nat.toDigits 10 number,
      TextParsing.isWhitespace character = false := by
    intro character member
    obtain ⟨least, most⟩ := digit_bounds (digits character member)
    simp only [Char.reduceToNat] at least most
    simp only [TextParsing.isWhitespace, decide_eq_false_iff_not]
    omega
  have trimmed : TextParsing.trimChars (Nat.toDigits 10 number) = Nat.toDigits 10 number := by
    rw [TextParsing.trimChars, dropWhile_eq_self visible, dropWhile_eq_self, reverse_reverse]
    intro character member
    exact visible character (mem_reverse.mp member)
  have numerals : ∀ character ∈ Nat.toDigits 10 number,
      (character.isDigit || character == '.') := by
    intro character member
    simp [digits character member]
  unfold quantityBytes quantityParts
  dsimp only
  rw [text, trimmed, takeWhile_eq_self_iff.mpr numerals, parseDecimal_digits,
    dropWhile_eq_nil_iff.mpr numerals]
  simp [quantityMultiplier]
  exact congrArg Except.ok (mul_one (number : ℚ))

theorem storageOf_bytesQuantity (bytes : ℚ) :
    storageOf (some (bytesQuantity bytes)) = some (wholeBytes bytes : ℚ) := by
  rw [bytesQuantity_eq, storageOf, Option.bind_some, quantityBytes_digits]
  rfl

/-! ## What a decision records -/

/-- The decision for the claim gets as far as the size of its filesystem. -/
def Claim.measurable (claim : Claim) : Bool :=
  claim.bound && claim.capacityBytes.isSome && claim.expandable == some true &&
    claim.resizing.isNone

section Decision

variable {rfc3339 : Instant → String} {effective : Effective} {claim : Claim} {usage : Usage}
  {lastScale : LastScale} {dryRun : Bool} {now : Instant} {out outcome : Outcome}
  {current : Int} {crossed : String}

theorem reason_decideCrossed
    (decided : decideCrossed rfc3339 effective usage lastScale dryRun now out current crossed =
      some outcome) : outcome.reason ≠ .awaitingFilesystemResize := by
  unfold decideCrossed at decided
  split at decided
  · cases decided
    simp [finish]
  · obtain ⟨_, -, rfl⟩ := Option.map_eq_some_iff.mp decided
    split
    · simp [finish]
    · split
      · simp [finish]
      · split <;> simp [finish]

theorem reason_decideMeasured (fresh : staleFilesystem usage lastScale = none)
    (decided : decideMeasured rfc3339 effective usage lastScale dryRun now out current =
      some outcome) : outcome.reason ≠ .awaitingFilesystemResize := by
  unfold decideMeasured at decided
  rw [fresh] at decided
  dsimp only at decided
  split at decided
  · split at decided
    · cases decided
      simp [finish]
    · exact reason_decideCrossed decided
  · cases decided
    simp [finish]

theorem decideClaim_of_measurable (measured : claim.measurable) :
    ∃ out current, out.capacityAtLastScale = lastScale.capacityBytes ∧
      decideClaim rfc3339 effective claim usage lastScale dryRun now =
        decideMeasured rfc3339 effective usage lastScale dryRun now out current := by
  simp only [Claim.measurable, Bool.and_eq_true, beq_iff_eq] at measured
  obtain ⟨⟨⟨bound, sized⟩, expandable⟩, idle⟩ := measured
  obtain ⟨_, sized⟩ := Option.isSome_iff_exists.mp sized
  have idle := Option.isNone_iff_eq_none.mp idle
  unfold decideClaim
  simp only [bound, sized, expandable, idle, Option.map_some, if_true]
  exact ⟨_, _, rfl, rfl⟩

theorem decideClaim_of_not_measurable (unmeasured : claim.measurable = false)
    (decided : decideClaim rfc3339 effective claim usage lastScale dryRun now = some outcome) :
    Stays lastScale.capacityBytes outcome ∧ outcome.reason ≠ .awaitingFilesystemResize := by
  unfold decideClaim at decided
  dsimp only at decided
  split at decided
  next bound =>
    split at decided
    · cases decided
      exact ⟨stays_finish _ _ (by simp), by simp [finish]⟩
    next _ sized =>
      split at decided
      next expandable =>
        split at decided
        · cases decided
          exact ⟨stays_finish _ _ (by simp), by simp [finish]⟩
        next idle =>
          have counted : claim.capacityBytes.isSome := by
            obtain ⟨_, found, -⟩ := Option.map_eq_some_iff.mp sized
            simp [found]
          simp [Claim.measurable, bound, counted, expandable, idle] at unmeasured
      · cases decided
        exact ⟨stays_finish _ _ (by simp), by simp [finish]⟩
  · cases decided
    exact ⟨stays_finish _ _ (by simp), by simp [finish]⟩

/-- The size that the kubelet reports for the filesystem, when the decision looks at it. -/
def reading (claim : Claim) (usage : Usage) : Option ℚ :=
  if claim.measurable then usage.capacityBytes else none

/-- What a decision makes of the record: a claim that is not grown keeps it unless a larger
filesystem is reported, and awaits the filesystem only with a record; one that is grown gets
the reported size as its record. -/
theorem decideClaim_record
    (decided : decideClaim rfc3339 effective claim usage lastScale dryRun now = some outcome) :
    (outcome.resize = false ∧
      (∀ value, outcome.capacityAtLastScale = some value → lastScale.capacityBytes = some value ∧
        ∀ size, reading claim usage = some size → size ≤ value + growthToleranceBytes) ∧
      (outcome.reason = .awaitingFilesystemResize → outcome.capacityAtLastScale.isSome)) ∨
    outcome.resize ∧ outcome.capacityAtLastScale = reading claim usage := by
  cases measured : claim.measurable with
  | false =>
    obtain ⟨⟨kept, same⟩, other⟩ := decideClaim_of_not_measurable measured decided
    refine .inl ⟨kept, ?_, fun awaits => absurd awaits other⟩
    intro value recorded
    refine ⟨same.symm.trans recorded, ?_⟩
    simp [reading, measured]
  | true =>
    obtain ⟨_, _, carried, decides⟩ := decideClaim_of_measurable measured
    have looked : reading claim usage = usage.capacityBytes := by simp [reading, measured]
    rw [decides] at decided
    rw [looked]
    rcases decideMeasured_cases decided with ⟨_, stale, kept, same⟩ |
      ⟨fresh, ⟨kept, same⟩ | grows⟩
    · -- the filesystem has not grown
      rw [carried] at same
      unfold staleFilesystem at stale
      split at stale
      next _ size recordedSize reported =>
        have within := (Option.ite_none_right_eq_some.mp stale).1
        refine .inl ⟨kept, ?_, fun _ => by simp [same, recordedSize]⟩
        intro value recorded
        rw [same, recordedSize] at recorded
        cases recorded
        refine ⟨recordedSize, ?_⟩
        rw [reported]
        rintro _ ⟨rfl⟩
        exact within
      · cases stale
    · -- the record is dropped when a size is reported
      have other := reason_decideMeasured fresh decided
      refine .inl ⟨kept, ?_, fun awaits => absurd awaits other⟩
      intro value recorded
      rw [same] at recorded
      unfold grownCapacity at recorded
      split at recorded
      · cases recorded
      next unpaired =>
        refine ⟨recorded, ?_⟩
        intro size reported
        exact absurd reported (unpaired value size recorded)
    · exact .inr ⟨grows.resized, grows.recorded⟩

end Decision

open TransitionSystem Option

/-! ## Reports -/

/-- The filesystem sizes that the kubelet reports for the claims which a pass evaluates. -/
def readings (context : Context) (autoscaler : ClaimAutoscaler) : List (String × ℚ) :=
  match compile autoscaler.spec, context.listing with
  | .ok effective, .ok listing =>
    match targetClaims autoscaler listing, usage context.query effective with
    | .ok claims, .ok usage =>
      if overlaps autoscaler (claims.map (·.name)) listing = [] then
        claims.filterMap fun claim =>
          (reading claim (usage claim.name)).map fun size => (claim.name, size)
      else []
    | _, _ => []
  | _, _ => []

/-- What a pass saw and what it brought about. -/
structure PassReport where
  readings : List (String × ℚ)
  accepted : List String
deriving DecidableEq

def passReport (context : Context) (autoscaler : ClaimAutoscaler) : PassReport :=
  { readings := readings context autoscaler
    accepted := (evaluate context autoscaler).resized.map (·.name) }

/-- A resize of the claim was accepted after the value was read from the kubelet, and no pass
since then has read a size above it by more than the tolerance. The newest report is first. -/
def Awaited (name : String) (value : ℚ) : List PassReport → Prop
  | [] => False
  | report :: earlier =>
    (name ∈ report.accepted ∧
      ∃ reading ∈ report.readings, reading.1 = name ∧ value = wholeBytes reading.2) ∨
    (Awaited name value earlier ∧
      ∀ reading ∈ report.readings, reading.1 = name →
        reading.2 ≤ value + growthToleranceBytes)

instance Awaited.decidable (name : String) (value : ℚ) :
    (reports : List PassReport) → Decidable (Awaited name value reports)
  | [] => inferInstanceAs (Decidable False)
  | _ :: earlier =>
    have := Awaited.decidable name value earlier
    inferInstanceAs (Decidable ((_ ∧ _) ∨ (_ ∧ _)))

theorem Awaited.whole {name : String} {value : ℚ} {reports : List PassReport}
    (awaited : Awaited name value reports) : (wholeBytes value : ℚ) = value := by
  induction reports with
  | nil => cases awaited
  | cons _ _ ih =>
    rcases awaited with ⟨-, _, -, -, rfl⟩ | ⟨before, -⟩
    · rw [wholeBytes_wholeBytes]
    · exact ih before

/-- The entry waits only for a resize that happened. -/
structure Guarded (reports : List PassReport) (listed : ClaimStatus) : Prop where
  awaited : ∀ text, listed.capacityAtLastScale = some text →
    ∃ value, storageOf (some text) = some value ∧ Awaited listed.name value reports
  awaiting : listed.reason = .awaitingFilesystemResize → listed.capacityAtLastScale.isSome

/-! ## What a pass does to the entries -/

section Pass

variable {text : TimeText} {context : Context} {autoscaler : ClaimAutoscaler}
  {effective : Effective} {listing : Listing} {claims : List Claim} {usage : String → Usage}
  {reports : List PassReport}

/-- The pass evaluates the claims with the given utilization. -/
structure Evaluates (context : Context) (autoscaler : ClaimAutoscaler) (effective : Effective)
    (claims : List Claim) (usage : String → Usage) : Prop where
  compiled : compile autoscaler.spec = .ok effective
  distinct : (claims.map (·.name)).Nodup
  reads : readings context autoscaler = claims.filterMap fun claim =>
    (reading claim (usage claim.name)).map fun size => (claim.name, size)
  resized : (evaluate context autoscaler).resized =
    (decideClaims context autoscaler effective usage claims).resized
  ended : ∃ blockers, (evaluate context autoscaler).verdict =
    match (decideClaims context autoscaler effective usage claims).entries with
    | none => .panicked
    | some entries => .status (decidedStatus context autoscaler effective blockers entries)

theorem claims_decidedStatus (context : Context) (autoscaler : ClaimAutoscaler)
    (effective : Effective) (blockers : List String) (entries : List ClaimStatus) :
    (decidedStatus context autoscaler effective blockers entries).claims =
      carriedEntries autoscaler.claims entries := by
  unfold decidedStatus
  dsimp only
  split <;> rfl

theorem evaluate_readings (context : Context) (autoscaler : ClaimAutoscaler) :
    (readings context autoscaler = [] ∧
      ∀ next, (evaluate context autoscaler).verdict = .status next →
        ∃ claims reason message, reason ≠ .awaitingFilesystemResize ∧
          next.claims = carriedEntries autoscaler.claims
            (uniform autoscaler claims reason message)) ∨
    ∃ effective claims usage, Evaluates context autoscaler effective claims usage := by
  cases compiled : compile autoscaler.spec with
  | error =>
    refine .inl ⟨by simp [readings, compiled], ?_⟩
    intro next ended
    simp only [evaluate, compiled, Verdict.status.injEq] at ended
    subst ended
    exact ⟨[], .invalidSpec, "", by simp, rfl⟩
  | ok effective =>
    cases listed : context.listing with
    | error =>
      refine .inl ⟨by simp [readings, compiled, listed], ?_⟩
      intro next ended
      simp [evaluate, compiled, listed] at ended
    | ok listing =>
      cases resolved : targetClaims autoscaler listing with
      | error =>
        refine .inl ⟨by simp [readings, compiled, listed, resolved], ?_⟩
        intro next ended
        simp only [evaluate, compiled, listed, resolved, Verdict.status.injEq] at ended
        subst ended
        exact ⟨[], .invalidSpec, "", by simp, rfl⟩
      | ok claims =>
        have started : evaluate context autoscaler =
            evaluateClaims context autoscaler effective listing claims := by
          simp only [evaluate, compiled, listed, resolved]
        cases answered : VolumeAutoscaler.usage context.query effective with
        | error =>
          refine .inl ⟨by simp [readings, compiled, listed, resolved, answered], ?_⟩
          intro next ended
          rw [started] at ended
          unfold evaluateClaims at ended
          dsimp only at ended
          rw [answered] at ended
          split at ended
          · cases ended
            exact ⟨claims, .ambiguous, _, by simp, rfl⟩
          · cases ended
            exact ⟨claims, .failedMetric, _, by simp, rfl⟩
        | ok usage =>
          by_cases apart : overlaps autoscaler (claims.map (·.name)) listing = []
          · refine .inr ⟨effective, claims, usage, ?_⟩
            have evaluated := started
            unfold evaluateClaims at evaluated
            rw [answered, if_neg (not_not.mpr apart)] at evaluated
            exact
              { compiled
                distinct := nodup_targetClaims resolved
                reads := by simp [readings, compiled, listed, resolved, answered, apart]
                resized := by rw [evaluated]
                ended := ⟨_, congrArg Evaluated.verdict evaluated⟩ }
          · refine .inl ⟨by simp [readings, compiled, listed, resolved, answered, apart], ?_⟩
            intro _ ended
            rw [started] at ended
            unfold evaluateClaims at ended
            rw [if_pos apart] at ended
            cases ended
            exact ⟨claims, .ambiguous, _, by simp, rfl⟩

/-- Where an entry of the loop comes from, by induction on the claims. -/
theorem exists_of_mem_entries {entries : List ClaimStatus} {listed : ClaimStatus}
    (decided : (decideClaims context autoscaler effective usage claims).entries = some entries)
    (member : listed ∈ entries) :
    ∃ claim ∈ claims, ∃ outcome,
      decideClaim context.rfc3339 effective claim (usage claim.name)
        (recorded autoscaler claim.name) context.dryRun context.now = some outcome ∧
      listed = entry claim (apply context claim outcome).1 (apply context claim outcome).2 ∧
      ((apply context claim outcome).2.isSome →
        claim ∈ (decideClaims context autoscaler effective usage claims).resized) := by
  induction claims generalizing entries with
  | nil =>
    cases some.inj decided
    cases member
  | cons claim _ ih =>
    unfold decideClaims at decided ⊢
    split at decided
    · cases decided
    next outcome chosen =>
      obtain ⟨_, later, rfl⟩ := map_eq_some_iff.mp decided
      rcases mem_cons.mp member with rfl | among
      · refine ⟨claim, mem_cons_self, outcome, chosen, rfl, ?_⟩
        intro sent
        obtain ⟨_, sent⟩ := isSome_iff_exists.mp sent
        simp [sent]
      · obtain ⟨other, found, its, chose, built, resizes⟩ := ih later among
        refine ⟨other, mem_cons_of_mem _ found, its, chose, built, ?_⟩
        intro sent
        simp [resizes sent]

theorem Evaluates.mem_readings (evaluates : Evaluates context autoscaler effective claims usage)
    {claim : Claim} (member : claim ∈ claims) {size : ℚ} :
    (claim.name, size) ∈ readings context autoscaler ↔
      reading claim (usage claim.name) = some size := by
  rw [evaluates.reads, mem_filterMap]
  constructor
  · rintro ⟨other, among, found⟩
    obtain ⟨_, read, same⟩ := map_eq_some_iff.mp found
    cases (Prod.mk.inj same).2
    have equal : other = claim :=
      inj_on_of_nodup_map evaluates.distinct among member (Prod.mk.inj same).1
    rwa [← equal]
  · intro read
    exact ⟨claim, member, by rw [read]; rfl⟩

theorem apply_of_resize {claim : Claim} {outcome : Outcome} (wanted : outcome.resize) :
    (apply context claim outcome).1.capacityAtLastScale = outcome.capacityAtLastScale ∧
      (apply context claim outcome).1.reason ≠ .awaitingFilesystemResize ∧
      ((∀ quantity, context.resizeClaim claim.name quantity = .ok ()) →
        (apply context claim outcome).2 = some context.now) := by
  have succeeded : outcome.reason = .succeededRescale := of_decide_eq_true wanted
  unfold apply
  rw [if_pos wanted]
  dsimp only
  split
  · exact ⟨rfl, by simp [succeeded], fun _ => rfl⟩
  next refused =>
    refine ⟨rfl, by simp [Outcome.finish], ?_⟩
    intro accepts
    rw [accepts] at refused
    cases refused

section

variable (guarded : ∀ listed ∈ autoscaler.claims, Guarded reports listed)
include guarded

theorem awaited_of_recorded {name : String} {value : ℚ}
    (read : (recorded autoscaler name).capacityBytes = some value) :
    Awaited name value reports := by
  unfold recorded at read
  split at read
  · cases read
  next listed found =>
    have member := mem_reverse.mp (mem_of_find?_eq_some found)
    have named : listed.name = name := by simpa using find?_some found
    obtain ⟨text, written, -⟩ := bind_eq_some_iff.mp read
    obtain ⟨_, parsed, awaited⟩ := (guarded listed member).awaited text written
    rw [← written] at parsed
    cases parsed.symm.trans read
    exact named ▸ awaited

theorem guarded_of_recorded {report : PassReport} {listed : ClaimStatus} {record : Option ℚ}
    (written : listed.capacityAtLastScale = record.map bytesQuantity)
    (carried : ∀ value, record = some value →
      (recorded autoscaler listed.name).capacityBytes = some value ∧
        ∀ reading ∈ report.readings, reading.1 = listed.name →
          reading.2 ≤ value + growthToleranceBytes)
    (awaiting : listed.reason = .awaitingFilesystemResize → record.isSome) :
    Guarded (report :: reports) listed where
  awaited text found := by
    rw [written] at found
    obtain ⟨value, kept, rfl⟩ := map_eq_some_iff.mp found
    obtain ⟨read, within⟩ := carried value kept
    have before := awaited_of_recorded guarded read
    refine ⟨value, ?_, .inr ⟨before, within⟩⟩
    rw [storageOf_bytesQuantity, before.whole]
  awaiting waits := by
    rw [written, isSome_map]
    exact awaiting waits

theorem guarded_decided (evaluates : Evaluates context autoscaler effective claims usage)
    (accepts : ∀ reading ∈ readings context autoscaler,
      ∀ quantity, context.resizeClaim reading.1 quantity = .ok ())
    {entries : List ClaimStatus} {listed : ClaimStatus}
    (decided : (decideClaims context autoscaler effective usage claims).entries = some entries)
    (member : listed ∈ entries) : Guarded (passReport context autoscaler :: reports) listed := by
  obtain ⟨claim, among, outcome, chosen, rfl, resizes⟩ := exists_of_mem_entries decided member
  rcases decideClaim_record chosen with ⟨kept, carried, awaiting⟩ | ⟨wanted, read⟩
  · have unsent : apply context claim outcome = (outcome, none) := by simp [apply, kept]
    rw [unsent]
    apply guarded_of_recorded guarded rfl
    · intro value written
      obtain ⟨recordedValue, within⟩ := carried value written
      refine ⟨recordedValue, ?_⟩
      rintro ⟨_, size⟩ found rfl
      exact within size ((evaluates.mem_readings among).mp found)
    · exact awaiting
  · obtain ⟨same, other, sent⟩ := @apply_of_resize context claim outcome wanted
    constructor
    · intro text found
      change Option.map bytesQuantity (apply context claim outcome).1.capacityAtLastScale =
        some text at found
      rw [same, read] at found
      obtain ⟨size, seen, rfl⟩ := map_eq_some_iff.mp found
      have reported := (evaluates.mem_readings among).mpr seen
      have resized := resizes (by simp [sent (accepts _ reported)])
      rw [← evaluates.resized] at resized
      refine ⟨wholeBytes size, storageOf_bytesQuantity size, .inl ⟨?_, _, reported, rfl, rfl⟩⟩
      exact mem_map_of_mem resized
    · intro waits
      exact absurd waits other

theorem guarded_next (accepts : ∀ reading ∈ readings context autoscaler,
      ∀ quantity, context.resizeClaim reading.1 quantity = .ok ()) {next : ClaimAutoscalerStatus}
    (ended : (evaluate context autoscaler).verdict = .status next) :
    ∀ listed ∈ next.claims, Guarded (passReport context autoscaler :: reports) listed := by
  intro _ member
  rcases evaluate_readings context autoscaler with ⟨unread, halts⟩ |
    ⟨effective, claims, usage, evaluates⟩
  · obtain ⟨claims, _, _, other, built⟩ := halts next ended
    rw [built] at member
    obtain ⟨fresh, among, rfl⟩ := mem_carriedEntries.mp member
    have kept : Guarded (passReport context autoscaler :: reports) fresh := by
      obtain ⟨_, -, rfl⟩ := mem_map.mp among
      apply guarded_of_recorded guarded rfl
      · intro _ read
        refine ⟨read, ?_⟩
        simp [passReport, unread]
      · intro waits
        exact absurd waits other
    exact ⟨kept.awaited, kept.awaiting⟩
  · obtain ⟨_, verdict⟩ := evaluates.ended
    rw [ended] at verdict
    cases decided : (decideClaims context autoscaler effective usage claims).entries with
    | none =>
      rw [decided] at verdict
      cases verdict
    | some =>
      rw [decided] at verdict
      cases verdict
      rw [claims_decidedStatus] at member
      obtain ⟨_, among, rfl⟩ := mem_carriedEntries.mp member
      have kept := guarded_decided guarded evaluates accepts decided among
      exact ⟨kept.awaited, kept.awaiting⟩

end

theorem Guarded.unchanged {report : PassReport} {listed : ClaimStatus}
    (guarded : Guarded reports listed)
    (within : ∀ value, storageOf listed.capacityAtLastScale = some value →
      ∀ reading ∈ report.readings, reading.1 = listed.name →
        reading.2 ≤ value + growthToleranceBytes) : Guarded (report :: reports) listed where
  awaited text found := by
    obtain ⟨value, read, before⟩ := guarded.awaited text found
    exact ⟨value, read, .inr ⟨before, within value (by rw [found, read])⟩⟩
  awaiting := guarded.awaiting

theorem exists_status_of_reading (fits : CooldownsInRange autoscaler)
    (nonempty : readings context autoscaler ≠ []) :
    ∃ next, (evaluate context autoscaler).verdict = .status next ∧ next.claims ≠ [] := by
  rcases evaluate_readings context autoscaler with ⟨unread, -⟩ |
    ⟨effective, claims, usage, evaluates⟩
  · exact absurd unread nonempty
  · obtain ⟨_, verdict⟩ := evaluates.ended
    obtain ⟨_, decided⟩ := isSome_iff_exists.mp
      (@isSome_decideClaims context autoscaler effective claims usage
        (fits.isSome_cooldownEnd evaluates.compiled))
    rw [decided] at verdict
    refine ⟨_, verdict, ?_⟩
    rw [claims_decidedStatus, Ne, carriedEntries_eq_nil]
    rintro rfl
    have names := (surveyed_decideClaims decided).names
    have bare : claims = [] := map_eq_nil_iff.mp names.symm
    apply nonempty
    rw [evaluates.reads, bare]
    rfl

theorem claims_reconcile_of_refused (text : TimeText) (refused : context.patchStatus ≠ .ok ()) :
    (reconcile text context autoscaler).claims = autoscaler.claims := by
  unfold reconcile ClaimAutoscaler.claims
  cases (evaluate context autoscaler).verdict with
  | status next =>
    unfold storedStatus
    dsimp only
    split
    · rfl
    · split
      next accepted => exact absurd accepted refused
      · rfl
  | failed => rfl
  | panicked => rfl

end Pass

/-! ## Runs -/

/-- The autoscaler and the reports of its passes, the newest first. -/
structure GuardRun where
  autoscaler : ClaimAutoscaler
  reports : List PassReport := []
deriving DecidableEq

def GuardRun.act (text : TimeText) (run : GuardRun) : ScalingEvent → Option GuardRun
  | .pass context =>
    some
      { autoscaler := reconcile text context run.autoscaler
        reports := passReport context run.autoscaler :: run.reports }
  | .edit spec generation =>
    some { run with autoscaler := { run.autoscaler with spec, generation } }

def GuardRun.Step (text : TimeText) (run : GuardRun) (event : ScalingEvent) (after : GuardRun) :
    Prop :=
  run.act text event = some after

/-- A run starts with a resource that has no record yet. -/
def GuardRun.Initial (run : GuardRun) : Prop :=
  run.reports = [] ∧ ∀ listed ∈ run.autoscaler.claims,
    listed.capacityAtLastScale = none ∧ listed.reason ≠ .awaitingFilesystemResize

/-- Every entry that is stored waits only for a resize that happened. -/
def GuardRun.Holds (run : GuardRun) : Prop :=
  ∀ listed ∈ run.autoscaler.claims, Guarded run.reports listed

/-- What a pass needs so that the records stay right. -/
structure KeepsGuard (autoscaler : ClaimAutoscaler) (context : Context) : Prop where
  accepts : context.patchStatus = .ok () → ∀ reading ∈ readings context autoscaler,
    ∀ quantity, context.resizeClaim reading.1 quantity = .ok ()
  /-- When a filesystem is seen grown, the status is written. -/
  writes : ∀ listed ∈ autoscaler.claims, ∀ value,
    storageOf listed.capacityAtLastScale = some value →
    ∀ reading ∈ readings context autoscaler, reading.1 = listed.name →
      value + growthToleranceBytes < reading.2 →
        context.patchStatus = .ok () ∧ CooldownsInRange autoscaler

/-- The condition of a run: every pass keeps the records right. -/
def GuardRun.Keeps (run : GuardRun) : ScalingEvent → Prop
  | .pass context => KeepsGuard run.autoscaler context
  | .edit _ _ => True

section Pass

variable {context : Context} {autoscaler : ClaimAutoscaler} {reports : List PassReport}

theorem guarded_unwritten (keeps : KeepsGuard autoscaler context)
    (guarded : ∀ listed ∈ autoscaler.claims, Guarded reports listed)
    (unwritten : context.patchStatus ≠ .ok () ∨
      ∀ next, (evaluate context autoscaler).verdict = .status next → next.claims = []) :
    ∀ listed ∈ autoscaler.claims,
      Guarded (passReport context autoscaler :: reports) listed := by
  intro listed member
  apply (guarded listed member).unchanged
  intro value recordedValue reading found named
  by_contra larger
  obtain ⟨patched, fits⟩ := keeps.writes listed member value recordedValue reading found named
    (lt_of_not_ge larger)
  rcases unwritten with refused | bare
  · exact refused patched
  · obtain ⟨next, ended, filled⟩ := exists_status_of_reading fits (ne_nil_of_mem found)
    exact filled (bare next ended)

/-- A pass that keeps the records right leaves every entry guarded. -/
theorem guarded_reconcile (text : TimeText) (keeps : KeepsGuard autoscaler context)
    (guarded : ∀ listed ∈ autoscaler.claims, Guarded reports listed) :
    ∀ listed ∈ (reconcile text context autoscaler).claims,
      Guarded (passReport context autoscaler :: reports) listed := by
  by_cases patched : context.patchStatus = .ok ()
  · cases ended : (evaluate context autoscaler).verdict with
    | status =>
      have fresh := guarded_next guarded (keeps.accepts patched) ended
      rcases claims_reconcile text ended with ⟨unchanged, refused | bare | same⟩ | ⟨written, -⟩
      · exact absurd patched refused
      · rw [unchanged]
        apply guarded_unwritten keeps guarded
        refine .inr fun _ its => ?_
        cases ended.symm.trans its
        exact bare
      · rwa [unchanged, ← same]
      · rw [written]
        intro _ member
        obtain ⟨before, among, rfl⟩ := mem_map.mp member
        exact ⟨(fresh before among).awaited, (fresh before among).awaiting⟩
    | failed | panicked =>
      rw [claims_reconcile_of_ne text ended (by simp)]
      exact guarded_unwritten keeps guarded (.inr (by simp [ended]))
  · rw [claims_reconcile_of_refused text patched]
    exact guarded_unwritten keeps guarded (.inl patched)

end Pass

theorem GuardRun.Holds.initial {run : GuardRun} (begins : run.Initial) : run.Holds := by
  intro listed member
  obtain ⟨unrecorded, idle⟩ := begins.2 listed member
  refine ⟨?_, fun waits => absurd waits idle⟩
  simp [unrecorded]

theorem GuardRun.Holds.step {text : TimeText} {run after : GuardRun} {event : ScalingEvent}
    (holds : run.Holds) (keeps : run.Keeps event) (taken : run.Step text event after) :
    after.Holds := by
  cases event with
  | pass =>
    cases taken
    exact guarded_reconcile text keeps holds
  | edit =>
    cases taken
    exact holds

/-- In a run whose passes keep the records right, a claim with a record, and so one that awaits
its filesystem, had a resize accepted after the record was read, and no pass since then has
seen its filesystem grown. -/
theorem waits_only_for_resizes (text : TimeText) {run : GuardRun}
    (reached : Reachable GuardRun.Initial (GuardRun.Step text) GuardRun.Keeps run) : run.Holds :=
  reached.invariant (fun _ begins => .initial begins)
    fun _ _ _ holds keeps taken => holds.step keeps taken

/-! ## A resize that is refused -/

/-- A pass at which a filesystem of the given size is 85 percent full. -/
def guardPass (now : Instant) (size : ℚ) (answer : Except String Unit) : Context :=
  { webPass now ["data"] "50Gi" (.ok ()) with
    query := fun series =>
      match series with
      | .storage => .ok [("data-web-0", 85)]
      | .capacity => .ok [("data-web-0", size)]
      | .inodes => .ok []
    resizeClaim := fun _ _ => answer }

instance (reports : List PassReport) (listed : ClaimStatus) : Decidable (Guarded reports listed) :=
  decidable_of_iff
    ((listed.capacityAtLastScale.all fun text =>
        (storageOf (some text)).any fun value => Awaited listed.name value reports) = true ∧
      (listed.reason = .awaitingFilesystemResize → listed.capacityAtLastScale.isSome)) <| by
    constructor
    · rintro ⟨awaited, awaiting⟩
      refine ⟨?_, awaiting⟩
      intro text found
      simpa [found, Option.any_eq_true] using awaited
    · rintro ⟨awaited, awaiting⟩
      refine ⟨?_, awaiting⟩
      cases found : listed.capacityAtLastScale with
      | none => rfl
      | some text => simpa [Option.any_eq_true] using awaited text found

instance (run : GuardRun) : Decidable run.Holds :=
  inferInstanceAs (Decidable (∀ listed ∈ _, _))

theorem waits_for_refused_resize :
    ∃ run, Reachable GuardRun.Initial (GuardRun.Step wholeSeconds) (fun _ _ => True) run ∧
      ¬ run.Holds ∧ (∀ report ∈ run.reports, report.accepted = []) ∧
        run.autoscaler.claims.map (·.reason) = [.awaitingFilesystemResize] := by
  apply Reachable.exists_of_follow (GuardRun.act wholeSeconds)
    [.pass (guardPass 1000000000000000000 52000000000 (.error "exceeded quota")),
      .pass (guardPass 1000000600000000000 52000000000 (.error "exceeded quota"))]
    (show GuardRun.Initial { autoscaler := webAutoscaler none } from ⟨rfl, by decide⟩)
  · intro _ _ _ taken
    exact taken
  · decide +kernel

theorem keepsGuard_guardPass {autoscaler : ClaimAutoscaler} (now : Instant) (size : ℚ)
    (fits : CooldownsInRange autoscaler) : KeepsGuard autoscaler (guardPass now size (.ok ())) where
  accepts _ _ _ _ := rfl
  writes _ _ _ _ _ _ _ _ := ⟨rfl, fits⟩

theorem waits_only_for_resizes_web :
    ∃ run : GuardRun, run.Holds ∧
      run.autoscaler.claims.map (·.reason) = [.awaitingFilesystemResize] := by
  have started : Reachable GuardRun.Initial (GuardRun.Step wholeSeconds) GuardRun.Keeps
      { autoscaler := webAutoscaler none } := .start ⟨rfl, by decide⟩
  have resized := started.next
    (show GuardRun.Keeps _ (.pass (guardPass 1000000000000000000 52000000000 (.ok ()))) from
      keepsGuard_guardPass _ _ (by decide +kernel)) rfl
  have awaits := resized.next
    (show GuardRun.Keeps _ (.pass (guardPass 1000000600000000000 52000000000 (.ok ()))) from
      keepsGuard_guardPass _ _ (by decide +kernel)) rfl
  exact ⟨_, waits_only_for_resizes wholeSeconds awaits, by decide +kernel⟩

end Addons.VolumeAutoscaler
