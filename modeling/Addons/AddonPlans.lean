import Addons.KarpenterReplacement
import Mathlib.Data.Prod.Lex
import Mathlib.Data.String.Basic

/-!
# Plans for the add-ons of a cluster

An add-on that is listed and described is upgraded or skipped, in an upgrade and in a rollback.
-/

namespace Addons.EksUpgrade

open DecimalText List

def splitOnce (mark : List Char) : List Char → Option (List Char × List Char)
  | [] => none
  | first :: rest =>
    if mark <+: first :: rest then some ([], (first :: rest).drop mark.length)
    else (splitOnce mark rest).map fun (before, after) => (first :: before, after)

def dropMark : List Char → List Char
  | 'v' :: rest => rest
  | text => text

def parseAddonVersion (version : String) : Option (Nat ×ₗ Nat ×ₗ Nat ×ₗ Nat) := do
  let text := dropMark version.toList
  let (semver, build) ← match splitOnce "-eksbuild.".toList text with
    | some (semver, build) => (parseUsize build).map fun build => (semver, build)
    | none => some (text, 0)
  match semver.splitOn '.' with
  | [major, minor, patch] => do
    let major ← parseUsize major
    let minor ← parseUsize minor
    let patch ← parseUsize patch
    some (toLex (major, toLex (minor, toLex (patch, build))))
  | _ => none

def compareAddonVersions (a b : String) : Ordering :=
  match parseAddonVersion a, parseAddonVersion b with
  | some a, some b => cmp a b
  | _, _ => cmp a b

/-- The order in which compatible versions are listed. -/
def sortVersions (versions : List String) : List String :=
  versions.mergeSort fun a b => compareAddonVersions b a ≠ .gt

/-- No text that is not read as a version stands between two versions, unless their numbers
ascend as their texts do. -/
def Consistent (versions : List String) : Prop :=
  ∀ low ∈ versions, ∀ middle ∈ versions, ∀ high ∈ versions, ∀ first second,
    parseAddonVersion low = some first → parseAddonVersion middle = none →
      parseAddonVersion high = some second → low < middle → middle < high → first < second

/-- A version as EKS writes one. -/
structure WrittenVersion where
  marked : Bool
  major : List Char
  minor : List Char
  patch : List Char
  build : Option (List Char)
  digits : ∀ part ∈ major :: minor :: patch :: build.toList,
    part ≠ [] ∧ ∀ character ∈ part, character.isDigit

namespace WrittenVersion

def text (version : WrittenVersion) : String :=
  String.ofList ((if version.marked then ['v'] else []) ++
    (version.major ++ '.' :: (version.minor ++ '.' :: version.patch)) ++
      version.build.elim [] ("-eksbuild.".toList ++ ·))

def numbers (version : WrittenVersion) : Nat ×ₗ Nat ×ₗ Nat ×ₗ Nat :=
  toLex (Nat.ofDigitChars 10 version.major 0, toLex (Nat.ofDigitChars 10 version.minor 0,
    toLex (Nat.ofDigitChars 10 version.patch 0, version.build.elim 0 (Nat.ofDigitChars 10 · 0))))

/-- The numbers of the version are read into 64 bits. -/
def Fits (version : WrittenVersion) : Prop :=
  ∀ part ∈ version.major :: version.minor :: version.patch :: version.build.toList,
    Nat.ofDigitChars 10 part 0 < UInt64.size

instance (version : WrittenVersion) : Decidable version.Fits :=
  inferInstanceAs (Decidable (∀ part ∈ _, _))

end WrittenVersion

variable {a b c : String} {versions : List String}

theorem swap_compareAddonVersions (a b : String) :
    (compareAddonVersions a b).swap = compareAddonVersions b a := by
  unfold compareAddonVersions
  cases parseAddonVersion a <;> cases parseAddonVersion b <;> exact cmp_swap _ _

theorem le_numbers_iff {first second : Nat ×ₗ Nat ×ₗ Nat ×ₗ Nat}
    (left : parseAddonVersion a = some first) (right : parseAddonVersion b = some second) :
    compareAddonVersions a b ≠ .gt ↔ first ≤ second := by
  rw [compareAddonVersions, left, right]
  exact (cmp_compares first second).ne_gt

theorem le_texts_iff (unread : parseAddonVersion a = none ∨ parseAddonVersion b = none) :
    compareAddonVersions a b ≠ .gt ↔ a ≤ b := by
  have textual : compareAddonVersions a b = cmp a b := by
    unfold compareAddonVersions
    rcases unread with unread | unread
    · rw [unread]
    · rw [unread]
      cases parseAddonVersion a <;> rfl
  rw [textual]
  exact (cmp_compares a b).ne_gt

theorem ne_of_parse {first : Nat ×ₗ Nat ×ₗ Nat ×ₗ Nat} (left : parseAddonVersion a = some first)
    (right : parseAddonVersion b = none) : a ≠ b := by
  rintro rfl
  simp [left] at right

/-- The comparison orders the versions of a list exactly when the texts between them are no
obstacle. -/
theorem transitive_iff :
    (∀ a ∈ versions, ∀ b ∈ versions, ∀ c ∈ versions, compareAddonVersions a b ≠ .gt →
      compareAddonVersions b c ≠ .gt → compareAddonVersions a c ≠ .gt) ↔ Consistent versions := by
  constructor
  · intro transitive low isLow middle isMiddle high isHigh first second lowEq middleEq highEq
      below above
    by_contra descends
    have back := transitive high isHigh low isLow middle isMiddle
      ((le_numbers_iff highEq lowEq).mpr (not_lt.mp descends))
      ((le_texts_iff (.inr middleEq)).mpr below.le)
    exact absurd ((le_texts_iff (.inr middleEq)).mp back) (not_le.mpr above)
  · intro consistent a isA b isB c isC
    rcases aEq : parseAddonVersion a with _ | first <;>
      rcases bEq : parseAddonVersion b with _ | second <;>
        rcases cEq : parseAddonVersion c with _ | third
    -- With at most one version among them the texts decide.
    · simpa [le_texts_iff, aEq, bEq] using le_trans
    · simpa [le_texts_iff, aEq, bEq] using le_trans
    · simpa [le_texts_iff, aEq, cEq] using le_trans
    · rw [le_texts_iff (.inl aEq), le_texts_iff (.inl aEq), le_numbers_iff bEq cEq]
      intro below ascends
      by_contra above
      exact (consistent c isC a isA b isB _ _ cEq aEq bEq (not_le.mp above)
        (below.lt_of_ne (ne_of_parse bEq aEq).symm)).not_ge ascends
    · simpa [le_texts_iff, bEq, cEq] using le_trans
    · rw [le_texts_iff (.inr bEq), le_texts_iff (.inl bEq), le_numbers_iff aEq cEq]
      intro below above
      exact (consistent a isA b isB c isC _ _ aEq bEq cEq (below.lt_of_ne (ne_of_parse aEq bEq))
        (above.lt_of_ne (ne_of_parse cEq bEq).symm)).le
    · rw [le_numbers_iff aEq bEq, le_texts_iff (.inr cEq), le_texts_iff (.inr cEq)]
      intro ascends below
      by_contra above
      exact (consistent b isB c isC a isA _ _ bEq cEq aEq
        (below.lt_of_ne (ne_of_parse bEq cEq)) (not_le.mp above)).not_ge ascends
    · rw [le_numbers_iff aEq bEq, le_numbers_iff bEq cEq, le_numbers_iff aEq cEq]
      exact le_trans

theorem le_total_addonVersions (a b : String) :
    compareAddonVersions a b ≠ .gt ∨ compareAddonVersions b a ≠ .gt := by
  rw [← swap_compareAddonVersions a b]
  cases compareAddonVersions a b <;> simp

theorem sortVersions_head (consistent : Consistent versions) {first : String} {rest : List String}
    (sorted : sortVersions versions = first :: rest) :
    ∀ version ∈ versions, compareAddonVersions version first ≠ .gt := by
  let le (a b : String) : Bool := compareAddonVersions b a ≠ .gt
  let leIn (a b : { version // version ∈ versions }) : Bool := le a.1 b.1
  have ordered : (versions.attach.mergeSort leIn).Pairwise (leIn · ·) := by
    apply pairwise_mergeSort
    · intro a b c above below
      simp only [leIn, le, decide_eq_true_eq] at above below ⊢
      exact transitive_iff.mpr consistent c c.2 b b.2 a a.2 below above
    · intro a b
      simpa [leIn, le] using le_total_addonVersions b.1 a.1
  have listed : (versions.attach.mergeSort leIn).map Subtype.val = first :: rest := by
    have mapped : (versions.attach.mergeSort leIn).map Subtype.val = _ :=
      map_mergeSort (s := le) fun _ _ _ _ => rfl
    rw [mapped, attach_map_subtype_val]
    exact sorted
  have below : (first :: rest).Pairwise (le · ·) := by
    rw [← listed, pairwise_map]
    exact ordered
  intro version member
  have present : version ∈ sortVersions versions := mem_mergeSort.mpr member
  rcases mem_cons.mp (sorted ▸ present) with rfl | later
  · simpa using le_total_addonVersions version version
  · simpa [le] using rel_of_pairwise_cons below later

theorem splitOnce_append {text : List Char} (unmarked : '-' ∉ text) (rest : List Char) :
    splitOnce "-eksbuild.".toList (text ++ rest) =
      (splitOnce "-eksbuild.".toList rest).map fun (before, after) => (text ++ before, after) := by
  induction text with
  | nil => simp
  | cons first later ih =>
    obtain ⟨other, unmarkedLater⟩ := not_or.mp (mem_cons.not.mp unmarked)
    have differs : ¬ "-eksbuild.".toList <+: first :: (later ++ rest) := by simp [other]
    rw [cons_append, splitOnce, if_neg differs, ih unmarkedLater, Option.map_map]
    rfl

namespace WrittenVersion

variable (version : WrittenVersion)

theorem notMem_part {part : List Char} {character : Char}
    (member : part ∈ version.major :: version.minor :: version.patch :: version.build.toList)
    (other : character.isDigit = false) : character ∉ part := by
  intro inPart
  simp [(version.digits part member).2 character inPart] at other

theorem parseUsize_part {part : List Char}
    (member : part ∈ version.major :: version.minor :: version.patch :: version.build.toList) :
    parseUsize part = if Nat.ofDigitChars 10 part 0 < UInt64.size then
      some (Nat.ofDigitChars 10 part 0) else none := by
  obtain ⟨nonempty, digits⟩ := version.digits part member
  have unsigned : dropPlus part = part := by
    obtain ⟨first, later, rfl⟩ := exists_cons_of_ne_nil nonempty
    have other : first ≠ '+' := by
      rintro rfl
      exact version.notMem_part member rfl mem_cons_self
    simp [dropPlus, other]
  have allDigits : part.all Char.isDigit := all_eq_true.mpr digits
  rw [parseUsize, unsigned, parseDigits, if_neg nonempty, if_pos allDigits, Option.filter_some]
  simp only [decide_eq_true_eq]

theorem parseAddonVersion_text :
    parseAddonVersion version.text = if version.Fits then some version.numbers else none := by
  let semver := version.major ++ '.' :: (version.minor ++ '.' :: version.patch)
  have stripped : dropMark version.text.toList =
      semver ++ version.build.elim [] ("-eksbuild.".toList ++ ·) := by
    have unmarked : 'v' ∉ version.major := version.notMem_part (by simp) rfl
    cases majorEq : version.major with
    | nil => exact absurd majorEq (version.digits _ (by simp)).1
    | cons first later =>
      have plain : first ≠ 'v' := by
        rintro rfl
        simp [majorEq] at unmarked
      cases marked : version.marked <;> simp [text, semver, majorEq, dropMark, plain, marked]
  have parts : semver.splitOn '.' = [version.major, version.minor, version.patch] := by
    rw [splitOn_append_cons_self_of_not_mem (version.notMem_part (by simp) rfl),
      splitOn_append_cons_self_of_not_mem (version.notMem_part (by simp) rfl),
      splitOn_eq_singleton (version.notMem_part (by simp) rfl)]
  have undashed : '-' ∉ semver := by
    simp [semver, version.notMem_part]
  rw [parseAddonVersion, stripped, splitOnce_append undashed]
  have read (part : List Char) (member : part ∈ _) := version.parseUsize_part member
  cases built : version.build with
  | none =>
    simp [splitOnce, parts, read, built, Fits, numbers]
    split_ifs <;> simp_all
  | some build =>
    have found : splitOnce "-eksbuild.".toList ("-eksbuild.".toList ++ build) =
      some ([], build) := rfl
    simp only [Option.elim_some, found]
    simp [read, built, Fits, numbers]
    split_ifs <;> simp_all

theorem compareAddonVersions_text_iff (first second : WrittenVersion) :
    compareAddonVersions first.text second.text = cmp first.numbers second.numbers ↔
      first.Fits ∧ second.Fits ∨
        cmp first.text second.text = cmp first.numbers second.numbers := by
  rw [compareAddonVersions, parseAddonVersion_text, parseAddonVersion_text]
  by_cases firstFits : first.Fits
  · rw [if_pos firstFits]
    by_cases secondFits : second.Fits
    · rw [if_pos secondFits]
      exact iff_of_true rfl (.inl ⟨firstFits, secondFits⟩)
    · rw [if_neg secondFits]
      exact (or_iff_right fun fits => secondFits fits.2).symm
  · rw [if_neg firstFits]
    exact (or_iff_right fun fits => firstFits fits.1).symm

end WrittenVersion

/-- The comparison orders the versions of a list, and sorting puts a highest one first, as long
as no text between two versions contradicts their numbers; versions written as EKS writes them
compare as their numbers when these fit into 64 bits. -/
theorem addonVersions_ordered (versions : List String) (first second : WrittenVersion) :
    (∀ a b, (compareAddonVersions a b).swap = compareAddonVersions b a) ∧
    ((∀ a ∈ versions, ∀ b ∈ versions, ∀ c ∈ versions, compareAddonVersions a b ≠ .gt →
      compareAddonVersions b c ≠ .gt → compareAddonVersions a c ≠ .gt) ↔ Consistent versions) ∧
    (Consistent versions → ∀ latest rest, sortVersions versions = latest :: rest →
      ∀ version ∈ versions, compareAddonVersions version latest ≠ .gt) ∧
    (compareAddonVersions first.text second.text = cmp first.numbers second.numbers ↔
      first.Fits ∧ second.Fits ∨
        cmp first.text second.text = cmp first.numbers second.numbers) :=
  ⟨swap_compareAddonVersions, transitive_iff,
    fun consistent _ _ sorted => sortVersions_head consistent sorted,
    WrittenVersion.compareAddonVersions_text_iff first second⟩

/-- A release candidate between two releases closes a cycle. -/
theorem releaseCandidate_cycle :
    compareAddonVersions "v1.9.0-eksbuild.1" "v1.10.0-eksbuild.1" = .lt ∧
    compareAddonVersions "v1.10.0-eksbuild.1" "v1.5.0-rc1-eksbuild.1" = .lt ∧
    compareAddonVersions "v1.5.0-rc1-eksbuild.1" "v1.9.0-eksbuild.1" = .lt := by
  decide +kernel

open Transaction (bind_eq_ok)
open List

structure AddonVersionInfo where
  version : String
  defaultVersion : Bool

/-- The names of the installed add-ons in the pages of their listing, and what EKS answers: to
the listing, about an add-on, and which versions of it go with the Kubernetes version. -/
structure AddonAnswers where
  pages : List (List String)
  listed : Except HandlerError Unit := pure ()
  describe : String → Except HandlerError (Option AddonInfo)
  versions : String → Except HandlerError (List AddonVersionInfo)
  named : ∀ name, ∀ addon ∈ (describe name).toOption.join, addon.name = name

structure AddonPlanResult where
  upgrades : List (AddonInfo × String) := []
  skipped : Nat := 0
deriving DecidableEq

section

variable (answers : AddonAnswers) (specified : String → Option String)

def AddonAnswers.described (name : String) : Option AddonInfo :=
  (answers.describe name).toOption.join

/-- Only the first page is asked for, and an add-on that is not described is left out. -/
def listAddons : Except HandlerError (List AddonInfo) := do
  answers.listed
  pure ((answers.pages.headD []).filterMap answers.described)

def getCompatibleVersions (name : String) : Except HandlerError (List AddonVersionInfo) := do
  let versions ← answers.versions name
  pure (versions.mergeSort fun a b => compareAddonVersions b.version a.version ≠ .gt)

def pickLatestCompatible (versions : List AddonVersionInfo) : Option String :=
  ((versions.find? (·.defaultVersion)).or versions.head?).map (·.version)

def getLatestCompatibleVersion (name : String) : Except HandlerError (Option String) := do
  let versions ← getCompatibleVersions answers name
  pure (pickLatestCompatible versions)

def AddonPlanResult.add (result : AddonPlanResult) (addon : AddonInfo) :
    Option String → AddonPlanResult
  | some target => { result with upgrades := result.upgrades ++ [(addon, target)] }
  | none => { result with skipped := result.skipped + 1 }

/-- The loop of both plans, with the target of an add-on, if it is not skipped. -/
def planAddons (resolve : AddonInfo → Except HandlerError (Option String))
    (result : AddonPlanResult) : List AddonInfo → Except HandlerError AddonPlanResult
  | [] => pure result
  | addon :: rest => do
    let target ← resolve addon
    planAddons resolve (result.add addon target) rest

def planAddonUpgrades : Except HandlerError AddonPlanResult := do
  let addons ← listAddons answers
  planAddons (fun addon => do
    let target ← match specified addon.name with
      | some version => pure (some version)
      | none => getLatestCompatibleVersion answers addon.name
    pure (target.filter (· ≠ addon.currentVersion))) {} addons

def resolveRollbackTarget (currentVersion : String) (specified autoResolved : Option String) :
    Option String :=
  match specified with
  | some pinned => if pinned ≠ currentVersion then some pinned else none
  | none => autoResolved.filter fun resolved => compareAddonVersions resolved currentVersion = .lt

def planAddonRollbacks : Except HandlerError AddonPlanResult := do
  let addons ← listAddons answers
  planAddons (fun addon => do
    let autoResolved ← (if (specified addon.name).isSome then pure none
      else getLatestCompatibleVersion answers addon.name)
    pure (resolveRollbackTarget addon.currentVersion (specified addon.name) autoResolved)) {} addons

end

/-- Every installed add-on is either upgraded or skipped. -/
def AddonPlanResult.Accounts (result : AddonPlanResult) (installed : List String) : Prop :=
  ∃ skipped : List String, skipped.length = result.skipped ∧
    result.upgrades.map (·.1.name) ++ skipped ~ installed

variable {answers : AddonAnswers} {addons : List AddonInfo} {result : AddonPlanResult}
  {resolve : AddonInfo → Except HandlerError (Option String)}

theorem planAddons_eq_ok {start : AddonPlanResult}
    (planned : planAddons resolve start addons = .ok result) :
    ∃ upgrades skipped, result = ⟨start.upgrades ++ upgrades, start.skipped + skipped.length⟩ ∧
      upgrades.map Prod.fst ++ skipped ~ addons ∧
        ∀ entry ∈ upgrades, resolve entry.1 = .ok (some entry.2) := by
  induction addons generalizing start with
  | nil =>
    cases planned
    exact ⟨[], [], by simp, .nil, by simp⟩
  | cons addon rest ih =>
    obtain ⟨target, resolved, planned⟩ := bind_eq_ok planned
    obtain ⟨upgrades, skipped, rfl, placed, targets⟩ := ih planned
    cases target with
    | none =>
      refine ⟨upgrades, addon :: skipped, ?_, perm_middle.trans (placed.cons addon), targets⟩
      simp [AddonPlanResult.add, Nat.add_assoc, Nat.add_comm 1]
    | some target =>
      refine ⟨(addon, target) :: upgrades, skipped, ?_, placed.cons addon, ?_⟩
      · simp [AddonPlanResult.add]
      · exact forall_mem_cons.mpr ⟨resolved, targets⟩

theorem accounts_iff (planned : (listAddons answers >>= planAddons resolve {}) = .ok result) :
    result.Accounts answers.pages.flatten ↔ answers.pages.tail.flatten = [] ∧
      ∀ name ∈ answers.pages.headD [], (answers.described name).isSome := by
  obtain ⟨_, listed, planned⟩ := bind_eq_ok planned
  obtain ⟨-, -, ⟨⟩⟩ := bind_eq_ok listed
  obtain ⟨upgrades, skipped, rfl, placed, -⟩ := planAddons_eq_ok planned
  have pages : answers.pages.flatten = answers.pages.headD [] ++ answers.pages.tail.flatten := by
    cases answers.pages <;> rfl
  rw [pages]
  constructor
  · rintro ⟨others, count, all⟩
    have installed := all.length_eq
    have planned := placed.length_eq
    have fewer := length_filterMap_le answers.described (answers.pages.headD [])
    simp only [length_append, length_map, nil_append, zero_add] at installed planned count
    exact ⟨length_eq_zero_iff.mp (by omega), filterMap_length_eq_length.mp (by omega)⟩
  · rintro ⟨last, described⟩
    have names : ((answers.pages.headD []).filterMap answers.described).map (·.name) =
        answers.pages.headD [] := by
      rw [map_filterMap]
      refine (filterMap_congr fun name listed => ?_).trans filterMap_some
      obtain ⟨addon, found⟩ := Option.isSome_iff_exists.mp (described name listed)
      rw [found, Option.map_some, answers.named name addon found]
    refine ⟨skipped.map (·.name), by simp, ?_⟩
    have named := placed.map (·.name)
    rw [map_append, map_map, names] at named
    rwa [last, append_nil]

/-- A plan accounts for every installed add-on exactly when the listing has one page and every
add-on in it is described; an add-on that is not pinned is rolled back to lower numbers when both
versions are read. -/
theorem addonPlans_account_iff (answers : AddonAnswers) (specified : String → Option String) :
    (∀ plan ∈ [planAddonUpgrades answers specified, planAddonRollbacks answers specified],
      ∀ result, plan = .ok result →
        (result.Accounts answers.pages.flatten ↔ answers.pages.tail.flatten = [] ∧
          ∀ name ∈ answers.pages.headD [], (answers.described name).isSome)) ∧
    ∀ result, planAddonRollbacks answers specified = .ok result →
      ∀ entry ∈ result.upgrades, specified entry.1.name = none →
        ∀ target installed : WrittenVersion, entry.2 = target.text →
          entry.1.currentVersion = installed.text →
          (target.numbers < installed.numbers ↔ target.Fits ∧ installed.Fits ∨
            cmp target.text installed.text = cmp target.numbers installed.numbers) := by
  constructor
  · intro plan among result planned
    simp only [mem_cons, not_mem_nil, or_false] at among
    rcases among with rfl | rfl
    · exact accounts_iff planned
    · exact accounts_iff planned
  · intro result planned entry placed unpinned target installed targetText installedText
    obtain ⟨_, -, planned⟩ := bind_eq_ok planned
    obtain ⟨_, _, rfl, -, targets⟩ := planAddons_eq_ok planned
    obtain ⟨_, -, taken⟩ := bind_eq_ok (targets entry placed)
    rw [unpinned] at taken
    have lower : compareAddonVersions target.text installed.text = .lt := by
      simpa [targetText, installedText] using (Option.filter_eq_some_iff.mp (Except.ok.inj taken)).2
    rw [← WrittenVersion.compareAddonVersions_text_iff, lower, eq_comm, cmp_eq_lt_iff]

/-- Two add-ons are listed, and the second is not described. -/
def throttledAnswers (installed offered : String) : AddonAnswers where
  pages := [["coredns", "kube-proxy"]]
  describe name :=
    if name = "coredns" then pure (some ⟨name, installed⟩) else .error (.other "throttled")
  versions _ := pure [⟨offered, true⟩]
  named name addon found := by
    split at found
    · cases found
      rfl
    · cases found

/-- The plan upgrades the first add-on and says nothing of the second; a rollback from a release
candidate that is not read upgrades as well. -/
theorem addon_unaccounted :
    (∃ result, planAddonUpgrades (throttledAnswers "v1.10.1" "v1.11.1") (fun _ => none) =
        .ok result ∧ result.upgrades = [(⟨"coredns", "v1.10.1"⟩, "v1.11.1")] ∧
        result.skipped = 0 ∧ ¬ result.Accounts ["coredns", "kube-proxy"]) ∧
      planAddonRollbacks (throttledAnswers "v1.9.0-rc1-eksbuild.1" "v1.10.0-eksbuild.1")
        (fun _ => none) =
          .ok ⟨[(⟨"coredns", "v1.9.0-rc1-eksbuild.1"⟩, "v1.10.0-eksbuild.1")], 0⟩ := by
  refine ⟨⟨⟨[(⟨"coredns", "v1.10.1"⟩, "v1.11.1")], 0⟩, by decide +kernel, rfl, rfl, ?_⟩,
    by decide +kernel⟩
  rintro ⟨others, count, all⟩
  have counted := all.length_eq
  simp [length_eq_zero_iff.mp count] at counted

end Addons.EksUpgrade
