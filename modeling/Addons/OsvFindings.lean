import Addons.TextParsing
import Mathlib.Data.List.Induction
import Mathlib.Data.Rat.Defs
import Mathlib.Order.Lattice

/-!
# Findings about one package version

The scanner reads the first page of an OSV answer into a finding, whose highest severity decides
whether the version counts as clean.
-/

namespace Addons.Osv

open List

open TextParsing (startsWith)

inductive Severity where
  | none
  | low
  | medium
  | high
  | critical
  deriving DecidableEq

namespace Severity

instance : LinearOrder Severity :=
  LinearOrder.lift' Severity.ctorIdx fun first second same => by
    cases first <;> cases second <;> first | rfl | cases same

def asStr : Severity → String
  | .critical => "critical"
  | .high => "high"
  | .medium => "medium"
  | .low => "low"
  | .none => "none"

end Severity

def parseSeverity : String → Severity
  | "critical" => .critical
  | "high" => .high
  | "medium" => .medium
  | "low" => .low
  | _ => .none

/-- An advisory: `scores` are those of its severity list, `label` the severity of its database. -/
structure OsvVuln where
  id : String
  aliases : List String := []
  withdrawn : String := ""
  scores : List String := []
  label : String := ""

/-- How texts are read as numbers, and their upper case. -/
structure Texts where
  number : String → Option ℚ
  toUppercase : String → String

def bucketCvss (score : ℚ) : Severity :=
  if 9 ≤ score then .critical
  else if 7 ≤ score then .high
  else if 4 ≤ score then .medium
  else if 0 < score then .low
  else .none

def severityOf (texts : Texts) (vuln : OsvVuln) : Severity :=
  match texts.toUppercase vuln.label with
  | "CRITICAL" => .critical
  | "HIGH" => .high
  | "MODERATE" | "MEDIUM" => .medium
  | "LOW" => .low
  | _ =>
    match vuln.scores.findSome? texts.number with
    | some score => bucketCvss score
    | .none => if startsWith "MAL-" vuln.id then .critical else .high

structure Finding where
  ids : List String := []
  advisories : List (String × String) := []
  max : Severity := .none
  counts : Severity → Int := fun _ => 0

/-- The id that a finding shows: a CVE alias if there is one. -/
def OsvVuln.shownId (vuln : OsvVuln) : String :=
  (vuln.aliases.find? (startsWith "CVE-")).getD vuln.id

/-- One turn of the loop over a page, with the ids that were shown. -/
def addVuln (texts : Texts) (state : Finding × List String) (vuln : OsvVuln) :
    Finding × List String :=
  let (found, seen) := state
  if vuln.withdrawn ≠ "" ∨ vuln.shownId = "" ∨ vuln.shownId ∈ seen then state
  else
    let severity := severityOf texts vuln
    ({ ids := found.ids ++ [vuln.shownId]
       advisories := found.advisories ++ [(vuln.shownId, severity.asStr)]
       max := if found.max < severity then severity else found.max
       counts := if .none < severity then
          Function.update found.counts severity (found.counts severity + 1) else found.counts },
      vuln.shownId :: seen)

/-- The pages are those OSV would give; only the first one is asked for. -/
def query (texts : Texts) (package : String) (pages : List (List OsvVuln)) : Finding :=
  if package = "" then {} else ((pages.headD []).foldl (addVuln texts) ({}, [])).1

/-- The check of `auto_approve_if_clean` on the scan that is stored for a finding. -/
def approvable (finding : Finding) : Bool := parseSeverity finding.max.asStr = .none

/-! ## What a finding counts -/

/-- The loop counts the advisory: it is not withdrawn, shows an id, and is the first of the page
to show it. -/
def Counted (page : List OsvVuln) (vuln : OsvVuln) : Prop :=
  ∃ before after, page = before ++ vuln :: after ∧ vuln.withdrawn = "" ∧ vuln.shownId ≠ "" ∧
    ∀ other ∈ before, other.withdrawn = "" → other.shownId ≠ vuln.shownId

structure Summed (texts : Texts) (page : List OsvVuln) (state : Finding × List String) : Prop where
  seen : ∀ id, id ∈ state.2 ↔ id ≠ "" ∧ ∃ vuln ∈ page, vuln.withdrawn = "" ∧ vuln.shownId = id
  bound : ∀ vuln, Counted page vuln → severityOf texts vuln ≤ state.1.max
  reached : state.1.max = .none ∨ ∃ vuln, Counted page vuln ∧ severityOf texts vuln = state.1.max

theorem counted_append {page : List OsvVuln} {last vuln : OsvVuln} :
    Counted (page ++ [last]) vuln ↔ Counted page vuln ∨ vuln = last ∧ last.withdrawn = "" ∧
      last.shownId ≠ "" ∧ ∀ other ∈ page, other.withdrawn = "" → other.shownId ≠ last.shownId := by
  constructor
  · rintro ⟨before, after, split, counts⟩
    rcases eq_nil_or_concat after with rfl | ⟨rest, _, rfl⟩
    · obtain ⟨rfl, same⟩ := append_inj' split rfl
      cases same
      exact .inr ⟨rfl, counts⟩
    · rw [concat_eq_append, ← cons_append, ← append_assoc] at split
      obtain ⟨rfl, -⟩ := append_inj' split rfl
      exact .inl ⟨before, rest, rfl, counts⟩
  · rintro (⟨before, after, rfl, counts⟩ | ⟨rfl, counts⟩)
    · exact ⟨before, after ++ [last], by simp, counts⟩
    · exact ⟨page, [], rfl, counts⟩

theorem shows_append {page : List OsvVuln} {last : OsvVuln} {id : String} :
    (∃ vuln ∈ page ++ [last], vuln.withdrawn = "" ∧ vuln.shownId = id) ↔
      (∃ vuln ∈ page, vuln.withdrawn = "" ∧ vuln.shownId = id) ∨
        last.withdrawn = "" ∧ last.shownId = id := by
  simp [or_and_right, exists_or]

section Loop

variable {texts : Texts} {page : List OsvVuln} {state : Finding × List String} {vuln : OsvVuln}

theorem Summed.skip (summed : Summed texts page state)
    (skipped : vuln.withdrawn ≠ "" ∨ vuln.shownId = "" ∨ vuln.shownId ∈ state.2) :
    Summed texts (page ++ [vuln]) state := by
  have same (other) : Counted (page ++ [vuln]) other ↔ Counted page other := by
    rw [counted_append, or_iff_left]
    rintro ⟨rfl, active, shown, first⟩
    rcases skipped with withdrawn | hidden | repeated
    · exact withdrawn active
    · exact shown hidden
    · obtain ⟨-, earlier, member, active, same⟩ := (summed.seen _).mp repeated
      exact first earlier member active same
  refine ⟨fun id => ?_, by simpa only [same] using summed.bound,
    by simpa only [same] using summed.reached⟩
  rw [summed.seen]
  refine and_congr_right fun shown => ?_
  rw [shows_append, or_iff_left_of_imp]
  rintro ⟨active, rfl⟩
  rcases skipped with withdrawn | hidden | repeated
  · exact absurd active withdrawn
  · exact absurd hidden shown
  · exact ((summed.seen _).mp repeated).2

theorem Summed.count (summed : Summed texts page state) (active : vuln.withdrawn = "")
    (shown : vuln.shownId ≠ "") (fresh : vuln.shownId ∉ state.2) :
    Summed texts (page ++ [vuln]) (addVuln texts state vuln) := by
  have first : ∀ other ∈ page, other.withdrawn = "" → other.shownId ≠ vuln.shownId :=
    fun other member active same =>
      fresh ((summed.seen _).mpr ⟨shown, other, member, active, same⟩)
  have counted (other) : Counted (page ++ [vuln]) other ↔ Counted page other ∨ other = vuln := by
    rw [counted_append]
    exact or_congr_right (and_iff_left ⟨active, shown, first⟩)
  obtain ⟨_, seen⟩ := state
  simp only [addVuln, active, shown, fresh, ne_eq, not_true_eq_false, or_self, if_false]
  constructor
  · intro id
    rw [mem_cons, summed.seen, shows_append]
    constructor
    · rintro (rfl | ⟨shown, earlier⟩)
      · exact ⟨shown, .inr ⟨active, rfl⟩⟩
      · exact ⟨shown, .inl earlier⟩
    · rintro ⟨shown, earlier | ⟨-, rfl⟩⟩
      · exact .inr ⟨shown, earlier⟩
      · exact .inl rfl
  · intro other isCounted
    rcases (counted other).mp isCounted with earlier | rfl
    · have bound := summed.bound other earlier
      dsimp only at bound ⊢
      split_ifs with higher
      · exact bound.trans higher.le
      · exact bound
    · dsimp only
      split_ifs with higher
      · exact le_rfl
      · exact not_lt.mp higher
  · dsimp only
    split_ifs with higher
    · exact .inr ⟨vuln, (counted vuln).mpr (.inr rfl), rfl⟩
    · refine summed.reached.imp_right ?_
      rintro ⟨other, isCounted, same⟩
      exact ⟨other, (counted other).mpr (.inl isCounted), same⟩

theorem Summed.addVuln (summed : Summed texts page state) (vuln : OsvVuln) :
    Summed texts (page ++ [vuln]) (addVuln texts state vuln) := by
  by_cases skipped : vuln.withdrawn ≠ "" ∨ vuln.shownId = "" ∨ vuln.shownId ∈ state.2
  · rw [Osv.addVuln, if_pos skipped]
    exact summed.skip skipped
  · simp only [not_or, not_not] at skipped
    exact summed.count skipped.1 skipped.2.1 skipped.2.2

end Loop

theorem summed_foldl (texts : Texts) (page : List OsvVuln) :
    Summed texts page (page.foldl (addVuln texts) ({}, [])) := by
  induction page using List.reverseRecOn with
  | nil =>
    refine ⟨by simp, ?_, .inl rfl⟩
    rintro vuln ⟨_, _, split, -⟩
    simp at split
  | append_singleton _ vuln induction =>
    rw [foldl_append]
    exact induction.addVuln vuln

def active (pages : List (List OsvVuln)) : List OsvVuln :=
  pages.flatten.filter fun vuln => vuln.withdrawn = ""

/-- The finding has the severity of the advisories, malware is critical, and the version counts
as clean only without an advisory. -/
structure Dominates (texts : Texts) (pages : List (List OsvVuln)) (finding : Finding) : Prop where
  bound : ∀ vuln ∈ active pages, severityOf texts vuln ≤ finding.max
  reached : finding.max = .none ∨ ∃ vuln ∈ active pages, severityOf texts vuln = finding.max
  malware : ∀ vuln ∈ active pages, startsWith "MAL-" vuln.id → severityOf texts vuln = .critical
  clean : approvable finding = true → active pages = []

/-- What makes a malware advisory critical: its label, or no lower label and no first numeric score
below 9. -/
def RatedCritical (texts : Texts) (vuln : OsvVuln) : Prop :=
  texts.toUppercase vuln.label = "CRITICAL" ∨
    texts.toUppercase vuln.label ∉ ["HIGH", "MODERATE", "MEDIUM", "LOW"] ∧
      ∀ score, vuln.scores.findSome? texts.number = some score → 9 ≤ score

theorem bucketCvss_eq_critical_iff (score : ℚ) : bucketCvss score = .critical ↔ 9 ≤ score := by
  unfold bucketCvss
  split_ifs with critical <;> simp [critical]

theorem severityOf_eq_critical_iff (texts : Texts) {vuln : OsvVuln}
    (malware : startsWith "MAL-" vuln.id) :
    severityOf texts vuln = .critical ↔ RatedCritical texts vuln := by
  unfold severityOf RatedCritical
  split
  case h_6 critical high moderate medium low =>
    have unlisted : texts.toUppercase vuln.label ∉ ["HIGH", "MODERATE", "MEDIUM", "LOW"] := by
      simpa using ⟨high, moderate, medium, low⟩
    rw [or_iff_right critical, and_iff_right unlisted]
    cases vuln.scores.findSome? texts.number with
    | none => simp [malware]
    | some score => simp [bucketCvss_eq_critical_iff]
  all_goals simp_all

/-- The finding dominates the advisories exactly when those that are skipped are no more severe
than a counted one, the malware is rated critical, and not every advisory scores zero. -/
theorem query_dominates_iff {texts : Texts} {package : String} {pages : List (List OsvVuln)}
    (named : package ≠ "") :
    Dominates texts pages (query texts package pages) ↔
      (∀ vuln ∈ active pages, severityOf texts vuln = .none ∨
        ∃ counted, Counted (pages.headD []) counted ∧
          severityOf texts vuln ≤ severityOf texts counted) ∧
      (∀ vuln ∈ active pages, startsWith "MAL-" vuln.id → RatedCritical texts vuln) ∧
      (active pages ≠ [] → ∃ vuln ∈ active pages, severityOf texts vuln ≠ .none) := by
  have summed := summed_foldl texts (pages.headD [])
  simp only [query, if_neg named]
  generalize (pages.headD []).foldl (addVuln texts) ({}, []) = state at summed ⊢
  have lowest {severity : Severity} (le : severity ≤ .none) : severity = .none := by
    cases severity <;> first | rfl | cases le
  constructor
  · intro dominates
    refine ⟨fun vuln member => ?_, fun vuln member malware =>
      (severityOf_eq_critical_iff texts malware).mp (dominates.malware vuln member malware),
      fun filled => ?_⟩
    · have le := dominates.bound vuln member
      rcases summed.reached with clean | ⟨counted, isCounted, same⟩
      · exact .inl (lowest (clean ▸ le))
      · exact .inr ⟨counted, isCounted, same ▸ le⟩
    · by_contra none
      push Not at none
      refine filled (dominates.clean ?_)
      rcases dominates.reached with clean | ⟨vuln, member, same⟩
      · simp [approvable, clean, Severity.asStr, parseSeverity]
      · simp [approvable, ← same, none vuln member, Severity.asStr, parseSeverity]
  · rintro ⟨skips, malware, severe⟩
    have bound : ∀ vuln ∈ active pages, severityOf texts vuln ≤ state.1.max := by
      intro vuln member
      rcases skips vuln member with least | ⟨counted, isCounted, le⟩
      · rw [least]
        exact Nat.zero_le _
      · exact le.trans (summed.bound counted isCounted)
    refine ⟨bound, summed.reached.imp_right ?_, fun vuln member rated =>
      (severityOf_eq_critical_iff texts rated).mpr (malware vuln member rated),
      fun approved => ?_⟩
    · rintro ⟨vuln, ⟨_, _, split, unwithdrawn, -⟩, same⟩
      refine ⟨vuln, ?_, same⟩
      cases pages with
      | nil => simp at split
      | cons =>
        rw [headD_cons] at split
        simp [active, split, unwithdrawn]
    · by_contra filled
      obtain ⟨vuln, member, apart⟩ := severe filled
      have clean : state.1.max = .none := by
        cases max : state.1.max <;>
          simp [approvable, max, Severity.asStr, parseSeverity] at approved ⊢
      exact apart (lowest (clean ▸ bound vuln member))

/-- The one score that the samples have, and labels that are in upper case. -/
def plainTexts : Texts where
  number text := if text = "0.0" then some 0 else none
  toUppercase text := text

/-- Malware with two advisories of one CVE, a withdrawn one and a second page. -/
def malwarePages : List (List OsvVuln) :=
  [[{ id := "GHSA-1", aliases := ["CVE-1"], label := "LOW" },
      { id := "MAL-1", label := "CRITICAL" },
      { id := "GHSA-2", aliases := ["CVE-1"], label := "HIGH" },
      { id := "GHSA-3", withdrawn := "2026-01-01" }],
    [{ id := "MAL-2" }, { id := "GHSA-4", scores := ["0.0"] }]]

theorem query_dominates_iff_malware :
    Dominates plainTexts malwarePages (query plainTexts "left-pad" malwarePages) := by
  refine (query_dominates_iff (by decide)).mpr ⟨?_, ?_, by decide +kernel⟩
  · have counted : Counted (malwarePages.headD []) { id := "MAL-1", label := "CRITICAL" } :=
      ⟨[_], [_, _], rfl, rfl, by decide +kernel, by decide +kernel⟩
    intro vuln _
    refine .inr ⟨_, counted, ?_⟩
    cases severityOf plainTexts vuln <;> decide
  · intro vuln member malware
    have critical : ∀ vuln ∈ active malwarePages, startsWith "MAL-" vuln.id →
        severityOf plainTexts vuln = .critical := by decide +kernel
    exact (severityOf_eq_critical_iff plainTexts malware).mp (critical vuln member malware)

/-- Skipped advisories, malware with a label, a score of zero and later pages are overlooked. -/
theorem overlooked_advisories :
    (query plainTexts "left-pad" [[{ id := "GHSA-1", aliases := ["CVE-1"], label := "LOW" },
        { id := "GHSA-2", aliases := ["CVE-1"], label := "CRITICAL" }]]).max = .low ∧
      severityOf plainTexts { id := "MAL-1", label := "LOW" } = .low ∧
      approvable (query plainTexts "left-pad" [[], [{ id := "MAL-1" }]]) = true ∧
      approvable
        (query plainTexts "left-pad" [[{ id := "GHSA-1", scores := ["0.0"] }]]) = true := by
  decide +kernel

end Addons.Osv
