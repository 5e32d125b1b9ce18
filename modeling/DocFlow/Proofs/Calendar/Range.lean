import DocFlow.Calendar.Instant

/-!
# The range of the calendar

The calendar ends with the first day of its least year and the last day of its greatest.  A count of milliseconds is that
of an instant if and only if it lies between two bounds (`Instant.exists_ofMillis?_iff`).
-/

namespace DocFlow.Calendar

namespace Date

theorem daysBefore_mono {y z : Int} (h : y ≤ z) : daysBefore y ≤ daysBefore z := by
  unfold daysBefore
  omega

/-- The days of a year are not before its first day, and those of the years before it are. -/
theorem le_year_ofDays_iff {y n : Int} : y ≤ (ofDays n).year ↔ daysBefore y - epoch ≤ n := by
  have hdays := days_ofDays n
  have hone := (ofDays n).one_le
  have hlength := (ofDays n).le_length
  unfold days at hdays
  rcases Int.lt_or_le (ofDays n).year y with hlt | hge
  · have := daysBefore_lt hlt
    omega
  · have := daysBefore_mono hge
    omega

end Date

namespace Instant

def firstMillis : Int := (Date.daysBefore minYear - Date.epoch) * 86400000

def lastMillis : Int := (Date.daysBefore (maxYear + 1) - Date.epoch) * 86400000 - 1

theorem firstMillis_eq : firstMillis = -8334601228800000 := by decide

theorem lastMillis_eq : lastMillis = 8210266876799999 := by decide

theorem inRange_iff {t : Instant} : t.inRange = true ↔
    Date.daysBefore minYear - Date.epoch ≤ t.seconds / 86400 ∧
      t.seconds / 86400 < Date.daysBefore (maxYear + 1) - Date.epoch := by
  have hlast : (Date.ofDays (t.seconds / 86400)).year ≤ maxYear ↔
      t.seconds / 86400 < Date.daysBefore (maxYear + 1) - Date.epoch := by
    rw [← Int.not_le, ← Date.le_year_ofDays_iff]
    omega
  rw [← Date.le_year_ofDays_iff, ← hlast]
  exact decide_eq_true_iff

theorem ofMillis?_eq_some_iff {n : Int} {t : Instant} :
    ofMillis? n = some t ↔ t = ⟨n / 1000, (n % 1000).toNat * 1000000⟩ ∧ t.inRange = true := by
  show (if inRange ⟨n / 1000, (n % 1000).toNat * 1000000⟩ = true then some _ else none) = some t ↔ _
  rw [Option.ite_none_right_eq_some, Option.some_inj, and_comm, eq_comm]
  exact and_congr_right fun h => h ▸ Iff.rfl

theorem exists_ofMillis?_iff {n : Int} : (∃ t, ofMillis? n = some t) ↔ firstMillis ≤ n ∧ n ≤ lastMillis := by
  simp only [ofMillis?_eq_some_iff, exists_eq_left, inRange_iff]
  rw [firstMillis, lastMillis]
  omega

end Instant

end DocFlow.Calendar
