import Mathlib.Data.List.Count
import Mathlib.Data.List.Nodup

/-!
# Alarms of the insights scheduler

The loop of the scheduler ticks once a minute, or later when a turn takes long, and sends the
alarm if the schedule matches the minute of the tick.
-/

namespace Addons.InsightsAlarms

open List

/-- What the clock of a timezone shows during one minute. -/
structure Clock where
  minute : Nat
  hour : Nat
  day : Nat
  month : Nat
  weekday : Nat

/-- A cron expression, with the values of each field as the bits of a number. -/
structure Schedule where
  minute : Nat
  hour : Nat
  dom : Nat
  month : Nat
  dow : Nat
  domRestricted : Bool
  dowRestricted : Bool

def Schedule.matchesDay (schedule : Schedule) (clock : Clock) : Bool :=
  let domHit := schedule.dom.testBit clock.day
  let dowHit := schedule.dow.testBit clock.weekday
  if schedule.domRestricted && schedule.dowRestricted then domHit || dowHit
  else domHit && dowHit

def Schedule.matchesMinute (schedule : Schedule) (clock : Clock) : Bool :=
  schedule.minute.testBit clock.minute && schedule.hour.testBit clock.hour &&
    schedule.month.testBit clock.month && schedule.matchesDay clock

structure Settings where
  reportEnabled : Bool
  receiver : String
  /-- There is none if the expression or the timezone cannot be parsed. -/
  schedule : Option Schedule

/-- The minutes for which `send_scheduled_report` was called, and the last of them. -/
structure Loop where
  lastFired : Option Int := none
  sent : List Int := []
deriving DecidableEq

/-- The minute of an instant in nanoseconds. -/
def minuteOf (now : Int) : Int := now / 1000000000 / 60

variable (zone : Int → Clock) (settings : Settings)

/-- One turn of the loop. An analysis that runs in it only delays the next tick. -/
def Loop.turn (loop : Loop) (now : Int) : Loop :=
  if !settings.reportEnabled || settings.receiver.isEmpty then loop
  else
    match settings.schedule with
    | none => loop
    | some schedule =>
      let minute := minuteOf now
      if !schedule.matchesMinute (zone minute) || loop.lastFired == some minute then loop
      else { lastFired := some minute, sent := loop.sent ++ [minute] }

def run (ticks : List Int) : Loop := ticks.foldl (Loop.turn zone settings) {}

/-- Times of ticks, at least a minute apart. -/
structure Ticks where
  times : List Int
  apart : times.Pairwise fun earlier later => earlier + 60000000000 ≤ later

/-- The minute starts after the first tick and before the last one. -/
def Ticks.Spans (ticks : Ticks) (minute : Int) : Prop :=
  (∃ first ∈ ticks.times.head?, first < minute * 60000000000) ∧
    ∃ last ∈ ticks.times.getLast?, minute * 60000000000 < last

def Settings.due (minute : Int) : Bool :=
  settings.reportEnabled && !settings.receiver.isEmpty &&
    settings.schedule.any fun schedule => schedule.matchesMinute (zone minute)

theorem turn_eq (loop : Loop) (now : Int) :
    loop.turn zone settings now =
      if settings.due zone (minuteOf now) = true ∧ loop.lastFired ≠ some (minuteOf now) then
        { lastFired := some (minuteOf now), sent := loop.sent ++ [minuteOf now] }
      else loop := by
  unfold Loop.turn Settings.due
  cases settings.schedule with
  | none => simp
  | some schedule =>
    cases settings.reportEnabled <;> cases settings.receiver.isEmpty <;>
      cases hits : schedule.matchesMinute (zone (minuteOf now)) <;> simp [hits]

theorem minuteOf_lt {earlier later : Int} (apart : earlier + 60000000000 ≤ later) :
    minuteOf earlier < minuteOf later := by
  unfold minuteOf
  omega

/-- The remembered minute is never the one of a later tick, so every tick in a due minute sends. -/
theorem sent_foldl {ticks : List Int}
    (apart : ticks.Pairwise fun earlier later => earlier + 60000000000 ≤ later) {loop : Loop}
    (later : ∀ minute ∈ loop.lastFired, ∀ now ∈ ticks, minute < minuteOf now) :
    (ticks.foldl (Loop.turn zone settings) loop).sent =
      loop.sent ++ (ticks.map minuteOf).filter (settings.due zone) := by
  induction ticks generalizing loop with
  | nil => simp
  | cons now ticks ih =>
    obtain ⟨gaps, apart⟩ := pairwise_cons.mp apart
    have unsent : loop.lastFired ≠ some (minuteOf now) := by
      intro same
      exact Int.lt_irrefl _ (later _ same now mem_cons_self)
    rw [foldl_cons, turn_eq, map_cons]
    split
    next fires =>
      rw [ih apart, filter_cons_of_pos fires.1, append_assoc]
      · rfl
      · rintro _ ⟨⟩ other member
        exact minuteOf_lt (gaps other member)
    next idle =>
      rw [ih apart, filter_cons_of_neg fun due => idle ⟨due, unsent⟩]
      exact fun minute fired other member => later minute fired other (mem_cons_of_mem _ member)

/-- No minute is sent twice; and every due minute between the first and the last tick is sent
exactly when each of them holds a tick. -/
theorem sent_once_iff (ticks : Ticks) :
    (∀ minute, (run zone settings ticks.times).sent.count minute ≤ 1) ∧
    ((∀ minute, ticks.Spans minute → settings.due zone minute = true →
        (run zone settings ticks.times).sent.count minute = 1) ↔
      ∀ minute, ticks.Spans minute → settings.due zone minute = true →
        ∃ now ∈ ticks.times, minuteOf now = minute) := by
  have sent : (run zone settings ticks.times).sent =
      (ticks.times.map minuteOf).filter (settings.due zone) :=
    sent_foldl zone settings ticks.apart nofun
  have distinct : (run zone settings ticks.times).sent.Nodup := by
    rw [sent]
    apply Nodup.filter
    apply pairwise_map.mpr (ticks.apart.imp _)
    exact fun apart => Int.ne_of_lt (minuteOf_lt apart)
  refine ⟨nodup_iff_count_le_one.mp distinct, forall_congr' fun minute => ?_⟩
  refine imp_congr_right fun _ => imp_congr_right fun due => ?_
  rw [distinct.count, sent]
  simp [due]

def everyMinute : Settings where
  reportEnabled := true
  receiver := "ops"
  schedule := some
    { minute := 1152921504606846975, hour := 16777215, dom := 4294967294, month := 8190
      dow := 127, domRestricted := false, dowRestricted := false }

/-- The second tick is a tenth of a second late, and the minute between the two is skipped. -/
theorem late_tick_skips :
    let zone : Int → Clock := fun _ => ⟨0, 0, 1, 1, 4⟩
    let ticks : Ticks := ⟨[59900000000, 120000000000], by decide⟩
    ticks.Spans 1 ∧ everyMinute.due zone 1 = true ∧
      (run zone everyMinute ticks.times).sent.count 1 = 0 := by
  exact ⟨⟨⟨_, rfl, by decide⟩, _, rfl, by decide⟩, by decide, by decide⟩

end Addons.InsightsAlarms
