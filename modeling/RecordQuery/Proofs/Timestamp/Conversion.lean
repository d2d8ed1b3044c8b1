import Mathlib
import RecordQuery.Timestamp

/-!
# Conversions to timestamps and back

A conversion gives the exact number of milliseconds, without what is less than one, clamped to an
end of the range where no word holds it. Seconds are clamped to the least word and instants to the
opposite of the greatest one, so the two differ before the epoch. No operation on words leaves their
range.
-/

namespace RecordQuery

/-- The word that holds an integer, if there is one. -/
def wordOf? (n : Int) : Option Int64 :=
  if Int64.minValue.toInt ≤ n ∧ n ≤ Int64.maxValue.toInt then some (Int64.ofInt n) else none

theorem wordOf?_toInt (w : Int64) : wordOf? w.toInt = some w := by
  rw [wordOf?, if_pos ⟨w.minValue_le_toInt, w.toInt_le⟩, Int64.ofInt_toInt]

theorem clampInt64_of_nonneg {n : Int} (h : 0 ≤ n) :
    clampInt64 n = (wordOf? n).getD Int64.maxValue := by
  have hmin := Int64.toInt_minValue
  have hmax := Int64.toInt_maxValue
  rw [← Int64.toInt_inj, toInt_clampInt64]
  by_cases hn : n ≤ Int64.maxValue.toInt
  · have hword : (Int64.ofInt n).toInt = n :=
      Int64.toInt_ofInt_of_le (by omega) (by omega)
    rw [wordOf?, if_pos ⟨by omega, hn⟩, Option.getD_some, hword]
    omega
  · rw [wordOf?, if_neg (fun hrange => hn hrange.2), Option.getD_none]
    omega

theorem toInt_neg_of_nonneg {w : Int64} (h : 0 ≤ w.toInt) : (-w).toInt = -w.toInt := by
  have hlt := w.toInt_lt
  rw [Int64.toInt_neg, Int.bmod_eq_of_le (by omega) (by omega)]

theorem toInt_clampInt64_of_nonneg {n : Int} (h : 0 ≤ n) :
    (clampInt64 n).toInt = min n Int64.maxValue.toInt := by
  have hmin := Int64.toInt_minValue
  have hmax := Int64.toInt_maxValue
  rw [toInt_clampInt64]
  omega

namespace Timestamp

/-! ## Milliseconds -/

theorem toInt_ofSeconds (s : Int64) : (ofSeconds s).millis.toInt =
    max Int64.minValue.toInt (min (s.toInt * 1000) Int64.maxValue.toInt) :=
  toInt_clampInt64 (s.toInt * 1000)

theorem ofNanos_of_nonneg {n : Int} (h : 0 ≤ n) : ofNanos n = ⟨clampInt64 (n / 1000000)⟩ :=
  if_pos h

theorem ofNanos_of_neg {n : Int} (h : n < 0) : ofNanos n = ⟨-clampInt64 (-n / 1000000)⟩ :=
  if_neg (by omega)

theorem toInt_ofNanos (n : Int) : (ofNanos n).millis.toInt =
    max (-Int64.maxValue.toInt) (min (n.tdiv 1000000) Int64.maxValue.toInt) := by
  have hmax := Int64.toInt_maxValue
  by_cases h : 0 ≤ n
  · have hquotient : 0 ≤ n / 1000000 := by omega
    rw [ofNanos_of_nonneg h, toInt_clampInt64_of_nonneg hquotient, Int.tdiv_eq_ediv_of_nonneg h]
    omega
  · rw [Int.not_le] at h
    have hquotient : 0 ≤ -n / 1000000 := by omega
    have hdistance := toInt_clampInt64_of_nonneg hquotient
    have htoward : n.tdiv 1000000 = -(-n / 1000000) := by
      rw [← Int.tdiv_eq_ediv_of_nonneg (by omega : 0 ≤ -n), Int.neg_tdiv, Int.neg_neg]
    rw [ofNanos_of_neg h, toInt_neg_of_nonneg (by omega), hdistance, htoward]
    omega

theorem toInt_seconds (t : Timestamp) : t.seconds.toInt = t.millis.toInt.tdiv 1000 := by
  have hlow : -9223372036854775 ≤ t.millis.toInt.tdiv 1000 :=
    Int.tdiv_le_tdiv (by decide) t.millis.le_toInt
  have hhigh : t.millis.toInt.tdiv 1000 ≤ 9223372036854775 :=
    Int.tdiv_le_tdiv (by decide) (Int.le_sub_one_of_lt t.millis.toInt_lt)
  have hthousand : (1000 : Int64).toInt = 1000 := rfl
  rw [seconds, Int64.toInt_div, hthousand]
  exact Int.bmod_eq_of_le (by omega) (by omega)

/-! ## Operations on words -/

/-- The timestamp of an instant, if taking the opposite of a word gives one. -/
def ofNanos? (n : Int) : Option Timestamp :=
  if 0 ≤ n then some ⟨(wordOf? (n / 1000000)).getD Int64.maxValue⟩
  else (wordOf? (-((wordOf? (-n / 1000000)).getD Int64.maxValue).toInt)).map mk

/-- The whole seconds of a timestamp, if a word holds them. -/
def seconds? (t : Timestamp) : Option Int64 := wordOf? (t.millis.toInt.tdiv 1000)

theorem ofNanos?_eq (n : Int) : ofNanos? n = some (ofNanos n) := by
  unfold ofNanos?
  by_cases h : 0 ≤ n
  · rw [if_pos h, ofNanos_of_nonneg h, clampInt64_of_nonneg (by omega)]
  · rw [if_neg h]
    rw [Int.not_le] at h
    have hquotient : 0 ≤ -n / 1000000 := by omega
    have hdistance := toInt_clampInt64_of_nonneg hquotient
    have hmax := Int64.toInt_maxValue
    rw [ofNanos_of_neg h, ← clampInt64_of_nonneg hquotient, ← toInt_neg_of_nonneg (by omega),
      wordOf?_toInt, Option.map_some]

theorem seconds?_eq (t : Timestamp) : t.seconds? = some t.seconds := by
  rw [seconds?, ← toInt_seconds, wordOf?_toInt]

/-! ## Seconds as instants -/

/-- An instant of whole seconds. -/
def nanosOfSeconds (s : Int64) : Int := s.toInt * 1000000000

theorem toInt_ofNanos_nanosOfSeconds (s : Int64) : (ofNanos (nanosOfSeconds s)).millis.toInt =
    max (-Int64.maxValue.toInt) (min (s.toInt * 1000) Int64.maxValue.toInt) := by
  have hmillis : (nanosOfSeconds s).tdiv 1000000 = s.toInt * 1000 := by
    rw [nanosOfSeconds, show s.toInt * 1000000000 = s.toInt * 1000 * 1000000 by omega]
    exact Int.mul_tdiv_cancel _ (by decide)
  rw [toInt_ofNanos, hmillis]

theorem ext_toInt {a b : Timestamp} (h : a.millis.toInt = b.millis.toInt) : a = b := by
  obtain ⟨a⟩ := a
  obtain ⟨b⟩ := b
  exact congrArg mk (Int64.toInt_inj.mp h)

/-- A number of seconds and the instant at that distance from the epoch give the same timestamp
exactly if the milliseconds are not below the range of words. -/
theorem ofSeconds_eq_ofNanos_iff (s : Int64) :
    (ofSeconds s = ofNanos (nanosOfSeconds s) ↔ Int64.minValue.toInt ≤ s.toInt * 1000) ∧
    (Int64.minValue.toInt ≤ s.toInt * 1000 → s.toInt * 1000 ≤ Int64.maxValue.toInt →
      (ofSeconds s).millis.toInt = s.toInt * 1000) ∧
    (Int64.maxValue.toInt < s.toInt * 1000 → ofSeconds s = ⟨Int64.maxValue⟩) ∧
    (s.toInt * 1000 < Int64.minValue.toInt →
      ofSeconds s = ⟨Int64.minValue⟩ ∧ ofNanos (nanosOfSeconds s) = ⟨Int64.minValue + 1⟩) := by
  have hmin := Int64.toInt_minValue
  have hmax := Int64.toInt_maxValue
  have hnext : (Int64.minValue + 1).toInt = -Int64.maxValue.toInt := by decide
  have hseconds := toInt_ofSeconds s
  have hinstant := toInt_ofNanos_nanosOfSeconds s
  refine ⟨⟨fun h => ?_, fun h => ?_⟩, fun hlow hhigh => ?_, fun h => ?_, fun h => ⟨?_, ?_⟩⟩
  · rw [h] at hseconds
    omega
  · -- a thousand does not divide the least word
    exact ext_toInt (by omega)
  · omega
  · exact ext_toInt (by dsimp only; omega)
  · exact ext_toInt (by dsimp only; omega)
  · exact ext_toInt (by dsimp only; omega)

/-- The first second before the range of words. -/
theorem ofSeconds_ne_ofNanos :
    let s : Int64 := -9223372036854776
    ofSeconds s = ⟨-9223372036854775808⟩ ∧ ofNanos (nanosOfSeconds s) = ⟨-9223372036854775807⟩ ∧
      ofSeconds s ≠ ofNanos (nanosOfSeconds s) := by
  decide +kernel

end Timestamp

end RecordQuery
