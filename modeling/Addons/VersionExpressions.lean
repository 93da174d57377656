import Addons.TextParsing
import Mathlib.Data.Nat.Find
import Mathlib.Data.String.Basic
import Mathlib.Data.Sum.Order
import Mathlib.Order.PiLex

/-!
# Version expressions of alert rules

An expression is a list of bounds that a version has to meet. Versions are compared segment by
segment, and a missing segment counts as `0`.
-/

namespace Addons.VersionExpressions

open DecimalText TextParsing

inductive Op where
  | lt | le | gt | ge | eq | ne

structure Constraint where
  op : Op
  version : String

structure VersionExpr where
  constraints : List Constraint

def parseOp : List Char → Op × List Char
  | '<' :: '=' :: rest => (.le, rest)
  | '>' :: '=' :: rest => (.ge, rest)
  | '!' :: '=' :: rest => (.ne, rest)
  | '<' :: rest => (.lt, rest)
  | '>' :: rest => (.gt, rest)
  | '=' :: rest => (.eq, rest)
  | text => (.eq, text)

def parseClauses : List (List Char) → Except String (List Constraint)
  | [] => .ok []
  | text :: rest =>
    let clause := trim (String.ofList text)
    if clause = "" then parseClauses rest else
    let (op, bound) := parseOp clause.toList
    let version := trim (String.ofList bound)
    if version = "" then .error s!"missing version after operator in '{clause}'"
    else (parseClauses rest).map (⟨op, version⟩ :: ·)

def VersionExpr.parse (input : String) : Except String VersionExpr :=
  match parseClauses (input.toList.splitOn ',') with
  | .ok [] => .error "empty version expression"
  | .ok constraints => .ok ⟨constraints⟩
  | .error message => .error message

def split (version : String) : List (List Char) :=
  (version.toList.splitOnP (· ∈ ['.', '-', '+'])).filter (· ≠ [])

/-- A segment holds no sign, since `+` separates segments. -/
def parseU64 (segment : List Char) : Option Nat :=
  (parseDigits segment).filter (· < UInt64.size)

def compareSegments (a b : List Char) : Ordering :=
  match parseU64 a, parseU64 b with
  | some a, some b => cmp a b
  | some _, none => .gt
  | none, some _ => .lt
  | none, none => cmp a b

def segment (version : String) (i : Nat) : List Char := (split version).getD i ['0']

def compareVersions (a b : String) : Ordering :=
  let ord i := compareSegments (segment a i) (segment b i)
  match (List.range (max (split a).length (split b).length)).find? fun i => ord i ≠ .eq with
  | some i => ord i
  | none => .eq

/-- The source's `compare`. -/
def compareBy (actual expected : String) (op : Op) : Bool :=
  let ord := compareVersions actual expected
  match op with
  | .lt => ord = .lt
  | .le => ord ≠ .gt
  | .gt => ord = .gt
  | .ge => ord ≠ .lt
  | .eq => ord = .eq
  | .ne => ord ≠ .eq

def VersionExpr.matches (expr : VersionExpr) (version : String) : Bool :=
  expr.constraints.all fun bound => compareBy version bound.version bound.op

/-- A segment's place in the order, when its number is read by `read`: texts stand before
numbers. -/
def key (read : List Char → Option Nat) (segment : List Char) : List Char ⊕ₗ Nat :=
  match read segment with
  | some number => Sum.inrₗ number
  | none => Sum.inlₗ segment

def rank (read : List Char → Option Nat) (version : String) : Lex (Nat → List Char ⊕ₗ Nat) :=
  toLex fun i => key read (segment version i)

/-- Every number of the version fits the machine's integer. -/
def Bounded (version : String) : Prop :=
  ∀ i number, parseDigits (segment version i) = some number → number < UInt64.size

theorem compareSegments_compares (a b : List Char) :
    (compareSegments a b).Compares (key parseU64 a) (key parseU64 b) := by
  unfold compareSegments key
  cases parseU64 a with
  | none =>
    cases parseU64 b with
    | none => exact Sum.Lex.inl_strictMono.compares.mpr (by convert cmp_compares a b; rfl)
    | some => exact Sum.Lex.inl_lt_inr _ _
  | some first =>
    cases parseU64 b with
    | none => exact Sum.Lex.inl_lt_inr _ _
    | some second => exact Sum.Lex.inr_strictMono.compares.mpr (cmp_compares first second)

theorem segment_of_le {version : String} {i : Nat} (beyond : (split version).length ≤ i) :
    segment version i = ['0'] := by
  simp [segment, beyond]

theorem rank_lt {read : List Char → Option Nat} {a b : String} {i : Nat}
    (same : ∀ j < i, key read (segment a j) = key read (segment b j))
    (less : key read (segment a i) < key read (segment b i)) : rank read a < rank read b :=
  ⟨i, same, less⟩

theorem compareVersions_compares (a b : String) :
    (compareVersions a b).Compares (rank parseU64 a) (rank parseU64 b) := by
  have compared (i : Nat) := compareSegments_compares (segment a i) (segment b i)
  unfold compareVersions
  dsimp only
  split
  case h_1 i found =>
    obtain ⟨differs, -, earlier⟩ := List.find?_range_eq_some.mp found
    have equal : ∀ j < i, key parseU64 (segment a j) = key parseU64 (segment b j) := by
      intro j below
      exact (compared j).eq_eq.mp (by simpa using earlier j below)
    cases ord : compareSegments (segment a i) (segment b i) with
    | eq => simp [ord] at differs
    | lt => exact rank_lt equal ((compared i).eq_lt.mp ord)
    | gt => exact rank_lt (fun j below => (equal j below).symm) ((compared i).eq_gt.mp ord)
  case h_2 alike =>
    funext i
    rcases lt_or_ge i (max (split a).length (split b).length) with inside | beyond
    · apply (compared i).eq_eq.mp
      simpa using List.find?_eq_none.mp alike i (List.mem_range.mpr inside)
    · obtain ⟨beyondA, beyondB⟩ := max_le_iff.mp beyond
      change key _ _ = key _ _
      rw [segment_of_le beyondA, segment_of_le beyondB]

theorem rank_eq_of_bounded {version : String} (bounded : Bounded version) :
    rank parseU64 version = rank parseDigits version := by
  funext i
  have fits : parseU64 (segment version i) = parseDigits (segment version i) := by
    cases read : parseDigits (segment version i) with
    | none => simp [parseU64, read]
    | some number => simp [parseU64, read, bounded i number read]
  change key _ _ = key _ _
  rw [key, fits, key]

theorem parseClauses_append {back : List Constraint} {second : List (List Char)}
    (parsed : parseClauses second = .ok back) (first : List (List Char)) :
    parseClauses (first ++ second) = (parseClauses first).map (· ++ back) := by
  induction first with
  | nil => simp [parseClauses, parsed, Except.map]
  | cons text rest ih =>
    simp only [List.cons_append, parseClauses]
    split
    · exact ih
    · split
      · rfl
      · rw [ih]
        cases parseClauses rest <;> rfl

theorem parse_eq_ok_iff {input : String} {expr : VersionExpr} :
    VersionExpr.parse input = .ok expr ↔
      parseClauses (input.toList.splitOn ',') = .ok expr.constraints ∧ expr.constraints ≠ [] := by
  unfold VersionExpr.parse
  generalize parseClauses (input.toList.splitOn ',') = parsed
  rcases parsed with _ | _ | ⟨bound, others⟩
  · simp
  · simp +contextual [eq_comm]
  · obtain ⟨constraints⟩ := expr
    simp +contextual [eq_comm]

theorem parse_append {first second : String} {left right : VersionExpr}
    (parsedLeft : VersionExpr.parse first = .ok left)
    (parsedRight : VersionExpr.parse second = .ok right) :
    VersionExpr.parse (first ++ "," ++ second) = .ok ⟨left.constraints ++ right.constraints⟩ := by
  rw [parse_eq_ok_iff] at *
  have text : (first ++ "," ++ second).toList = first.toList ++ ',' :: second.toList := by simp
  constructor
  · rw [text, List.splitOn_append_cons_self, parseClauses_append parsedRight.1, parsedLeft.1]
    rfl
  · simp [parsedLeft.2]

theorem rank_append_zero (version : String) :
    rank parseU64 (version ++ ".0") = rank parseU64 version := by
  have split_append : split (version ++ ".0") = split version ++ [['0']] := by
    have text : (version ++ ".0").toList = version.toList ++ '.' :: ['0'] := by simp
    rw [split, text, List.splitOnP_append_cons _ _ (by decide), List.filter_append]
    rfl
  have padded (i : Nat) : segment (version ++ ".0") i = segment version i := by
    simp only [segment, split_append, List.getD_eq_getElem?_getD, List.getElem?_append]
    split
    · rfl
    next beyond =>
      rw [List.getElem?_eq_none (Nat.not_lt.mp beyond)]
      cases i - (split version).length <;> rfl
  funext i
  exact congrArg (key parseU64) (padded i)

theorem unmarked_of_mem_splitOnP {isMark : Char → Bool} {text part : List Char}
    (member : part ∈ text.splitOnP isMark) : ∀ character ∈ part, isMark character = false := by
  induction text generalizing part with
  | nil => simp_all
  | cons first text ih =>
    rw [List.splitOnP_cons_eq_if_modifyHead] at member
    split at member
    · rcases List.mem_cons.mp member with rfl | later
      · simp
      · exact ih later
    next unmarked =>
      cases parts : text.splitOnP isMark with
      | nil => exact absurd parts (List.splitOnP_ne_nil _ _)
      | cons head rest =>
        rw [parts, List.modifyHead_cons] at member
        rcases List.mem_cons.mp member with rfl | later
        · exact List.forall_mem_cons.mpr
            ⟨Bool.eq_false_of_not_eq_true unmarked, ih (parts ▸ List.mem_cons_self)⟩
        · exact ih (parts ▸ List.mem_cons_of_mem _ later)

/-- The first segments of a version, each with a point after it. -/
def firstSegments (version : String) (count : Nat) : String :=
  String.ofList (((split version).take count).flatMap (· ++ ['.']))

theorem split_firstSegments (version : String) (count : Nat) :
    split (firstSegments version count) = (split version).take count := by
  have parts : ∀ part ∈ (split version).take count, part ≠ [] ∧
      ∀ character ∈ part, decide (character ∈ ['.', '-', '+']) = false := by
    intro part member
    obtain ⟨among, filled⟩ := List.mem_filter.mp (List.mem_of_mem_take member)
    exact ⟨of_decide_eq_true filled, unmarked_of_mem_splitOnP among⟩
  rw [firstSegments]
  generalize (split version).take count = kept at parts ⊢
  induction kept with
  | nil => rfl
  | cons part rest ih =>
    obtain ⟨⟨filled, unmarked⟩, others⟩ := List.forall_mem_cons.mp parts
    have ih := ih others
    rw [split, String.toList_ofList] at ih ⊢
    rw [List.flatMap_cons, List.append_assoc, List.singleton_append,
      List.splitOnP_append_cons _ _ (by decide), List.splitOnP_eq_singleton unmarked,
      List.filter_append, ih]
    simp [filled]

theorem segment_firstSegments {version : String} {count i : Nat} (below : i < count) :
    segment (firstSegments version count) i = segment version i := by
  simp [segment, split_firstSegments, List.getD_eq_getElem?_getD, below]

theorem segment_firstSegments_of_le {version : String} {count i : Nat} (beyond : count ≤ i) :
    segment (firstSegments version count) i = ['0'] := by
  apply segment_of_le
  rw [split_firstSegments, List.length_take]
  omega

theorem bounded_firstSegments {version : String} {count : Nat}
    (below : ∀ i < count, ∀ number, parseDigits (segment version i) = some number →
      number < UInt64.size) : Bounded (firstSegments version count) := by
  intro i number read
  rcases lt_or_ge i count with before | after
  · rw [segment_firstSegments before] at read
    exact below i before number read
  · rw [segment_firstSegments_of_le after] at read
    cases Option.some.inj (read.symm.trans (by decide : parseDigits ['0'] = some 0))
    decide

/-- A number that does not fit is put below the zero of the version that ends before it. -/
theorem not_compares_firstSegments {version : String} {i number : Nat}
    (read : parseDigits (segment version i) = some number) (large : UInt64.size ≤ number) :
    ¬(compareVersions version (firstSegments version i)).Compares (rank parseDigits version)
      (rank parseDigits (firstSegments version i)) := by
  intro right
  have below : rank parseU64 version < rank parseU64 (firstSegments version i) := by
    refine rank_lt
      (fun j before => congrArg (key parseU64) (segment_firstSegments before).symm) ?_
    have text : key parseU64 (segment version i) = Sum.inlₗ (segment version i) := by
      simp [key, parseU64, read, Option.filter_some, not_lt.mpr large]
    rw [text, segment_firstSegments_of_le le_rfl]
    exact Sum.Lex.inl_lt_inr _ _
  have above : rank parseDigits (firstSegments version i) < rank parseDigits version := by
    refine rank_lt (fun j before => congrArg (key parseDigits) (segment_firstSegments before)) ?_
    have value : key parseDigits (segment version i) = Sum.inrₗ number := by simp [key, read]
    rw [value, segment_firstSegments_of_le le_rfl]
    exact Sum.Lex.inr_strictMono (lt_of_lt_of_le (by decide : 0 < UInt64.size) large)
  have found := (compareVersions_compares version (firstSegments version i)).eq_lt.mpr below
  exact lt_asymm above (right.eq_lt.mp found)

theorem numbers_iff_bounded (a : String) :
    (∀ b, Bounded b → (compareVersions a b).Compares (rank parseDigits a) (rank parseDigits b)) ↔
      Bounded a := by
  constructor
  · intro right i
    -- Before segment `i` all numbers fit, so the version that ends there is compared rightly.
    induction i using Nat.strong_induction_on with
    | _ i ih =>
      intro number read
      by_contra large
      exact not_compares_firstSegments read (not_lt.mp large)
        (right _ (bounded_firstSegments ih))
  · intro boundedA b boundedB
    rw [← rank_eq_of_bounded boundedA, ← rank_eq_of_bounded boundedB]
    exact compareVersions_compares a b

/-- Versions are ordered by their segments, numbers as numbers exactly while they fit the machine's
integer, and the operators follow that order. -/
theorem versionExpr_consistent (a b c bound version : String) :
    (compareVersions a b).swap = compareVersions b a ∧
    (compareVersions a b ≠ .gt → compareVersions b c ≠ .gt → compareVersions a c ≠ .gt) ∧
    compareVersions (a ++ ".0") a = .eq ∧
    ((∀ b, Bounded b → (compareVersions a b).Compares (rank parseDigits a) (rank parseDigits b)) ↔
      Bounded a) ∧
    (let holds op := VersionExpr.matches ⟨[⟨op, bound⟩]⟩ version
     [Op.lt, .eq, .gt].countP holds = 1 ∧ holds .le = (holds .lt || holds .eq) ∧
       holds .ge = (holds .gt || holds .eq)) ∧
    ∀ first second left right, VersionExpr.parse first = .ok left →
      VersionExpr.parse second = .ok right →
        ∃ both, VersionExpr.parse (first ++ "," ++ second) = .ok both ∧
          ∀ version, both.matches version = (left.matches version && right.matches version) := by
  refine ⟨?_, ?_, ?_, numbers_iff_bounded a, ?_, ?_⟩
  · exact (compareVersions_compares a b).swap.inj (compareVersions_compares b a)
  · simp only [(compareVersions_compares _ _).ne_gt]
    exact le_trans
  · exact (compareVersions_compares _ _).eq_eq.mpr (rank_append_zero a)
  · cases ord : compareVersions version bound <;> simp [VersionExpr.matches, compareBy, ord]
  · intro first second left right parsedLeft parsedRight
    exact ⟨_, parse_append parsedLeft parsedRight, fun _ => List.all_append⟩

/-- The first number that does not fit is below nine. -/
theorem large_number_below_nine :
    (VersionExpr.parse "<9").map (·.matches "18446744073709551616") = .ok true := by
  decide +kernel

end Addons.VersionExpressions
