import OrbitBhyve.Python.Errors

/-!
# Aware UTC datetimes

Microseconds since the epoch, within the years 1 to 9999 which `datetime`
represents. Arithmetic out of that range raises `OverflowError`; a `timedelta`
out of its own range does too, and is always out of this one.
-/

namespace OrbitBhyve.Python

/-- `datetime.min` and `datetime.max` in UTC, in microseconds since the epoch. -/
def minMicros : ℤ := -62135596800000000
def maxMicros : ℤ := 253402300799999999

/-- `tzinfo.utcoffset()` in seconds, strictly within a day. -/
structure UtcOffset where
  seconds : ℤ
  lo : -86400 < seconds
  hi : seconds < 86400

def UtcOffset.utc : UtcOffset := ⟨0, by decide, by decide⟩

structure DateTime where
  micros : ℤ
  lo : minMicros ≤ micros
  hi : micros ≤ maxMicros
  deriving DecidableEq

namespace DateTime

@[ext] theorem ext {t u : DateTime} (h : t.micros = u.micros) : t = u := by
  cases t
  cases u
  simpa using h

def ofMicros (m : ℤ) : Except PyErr DateTime :=
  if h : minMicros ≤ m ∧ m ≤ maxMicros then .ok ⟨m, h.1, h.2⟩ else .error .overflowError

/-- `t + timedelta(seconds=n)`. -/
def addSeconds (t : DateTime) (n : ℤ) : Except PyErr DateTime := ofMicros (t.micros + n * 1000000)

/-- `datetime.fromtimestamp(n, tz=timezone.utc)` on a non-negative integer. Past
the year 9999 it is a `ValueError`, past the platform's years an `OSError`, and
past `time_t` an `OverflowError`. -/
def fromTimestamp (n : ℕ) : Except PyErr DateTime :=
  if h : (n : ℤ) ≤ 253402300799 then
    .ok ⟨n * 1000000, by simp only [minMicros]; omega, by simp only [maxMicros]; omega⟩
  else if n < 67768036191676800 then .error .valueError
  else if n < 2 ^ 63 then .error .osError
  else .error .overflowError

/-- The same on any integer: before the year 1 the errors are those past the year 9999. -/
def ofTimestamp (n : ℤ) : Except PyErr DateTime :=
  if hn : 0 ≤ n then fromTimestamp n.toNat
  else if h : -62135596800 ≤ n then
    .ok ⟨n * 1000000, by simp only [minMicros]; omega, by simp only [maxMicros]; omega⟩
  else if -67768040609740800 ≤ n then .error .valueError
  else if -2 ^ 63 ≤ n then .error .osError
  else .error .overflowError

/-- `int(t.timestamp())`: truncation towards zero. -/
def intTimestamp (t : DateTime) : ℤ := t.micros.tdiv 1000000

instance : LE DateTime := ⟨fun t u => t.micros ≤ u.micros⟩
instance : LT DateTime := ⟨fun t u => t.micros < u.micros⟩
instance (t u : DateTime) : Decidable (t ≤ u) := inferInstanceAs (Decidable (_ ≤ _))
instance (t u : DateTime) : Decidable (t < u) := inferInstanceAs (Decidable (_ < _))

theorem le_def {t u : DateTime} : t ≤ u ↔ t.micros ≤ u.micros := Iff.rfl
theorem lt_def {t u : DateTime} : t < u ↔ t.micros < u.micros := Iff.rfl

/-- `1970-01-01T00:00:00Z`. -/
def epoch : DateTime := ⟨0, by decide, by decide⟩

instance : Inhabited DateTime := ⟨epoch⟩

theorem ofMicros_eq_ok {m : ℤ} {t : DateTime} : ofMicros m = .ok t ↔ t.micros = m := by
  unfold ofMicros
  split_ifs with h
  · simp only [Except.ok.injEq, DateTime.ext_iff]
    exact eq_comm
  · simp only [false_iff]
    rintro rfl
    exact h ⟨t.lo, t.hi⟩

theorem addSeconds_eq_ok {t u : DateTime} {n : ℤ} :
    t.addSeconds n = .ok u ↔ u.micros = t.micros + n * 1000000 :=
  ofMicros_eq_ok

end DateTime
end OrbitBhyve.Python
