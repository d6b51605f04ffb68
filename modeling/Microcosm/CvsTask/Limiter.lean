import Mathlib.Data.List.Basic

/-!
# The status limiter

`NewCvsTask` gives the task `rate.NewLimiter(rate.Every(time.Second), 1)`, and `Tick` reports the
status only when the limiter's `Allow` grants a token. golang.org/x/time/rate is not under src:
the limiter is modelled from the spec, a token bucket of rate 1 per second and burst 1. Times are
nanoseconds counted from the zero `time.Time`, and tokens are counted exactly, in nanoseconds of
refill, so that one token is `second`.

This departs from the package in its arithmetic. The package keeps the tokens as a `float64`,
and grants when the wait it computes for a missing fraction of a token, truncated to whole
nanoseconds, is zero. After the float rounding of a refill, it can grant a tick that comes a
nanosecond short of a second after the last grant (999999999 ns), where the model, counting
exactly, refuses. Grants a whole second or more apart, and refusals well short of a second, are
the same in both: `tick_error_no_exit` ticks at one second and at two, and the other results on
`Tick` hold whatever `Allow` returns.

* `allow_granted_iff`: `Allow` grants when the tokens held and those refilled since `last` make a
  token; `allow_of_granted`: a grant empties the bucket and stamps `last`; `allow_of_refused`: a
  refusal changes nothing.
-/

namespace Microcosm

/-- `time.Second`, in nanoseconds. -/
def second : ℕ := 1000000000

/-- `rate.Limiter` with the rate `rate.Every(time.Second)` and the burst 1: the time of its last
update and the tokens it held then. -/
structure Limiter where
  last : ℕ
  tokens : ℕ
  deriving DecidableEq, Repr

namespace Limiter

/-- `rate.NewLimiter(rate.Every(time.Second), 1)`: no tokens, last updated at the zero time. -/
def newLimiter : Limiter := ⟨0, 0⟩

/-- `advance`: the tokens at `now`, those held and those refilled since `last`, capped at the
burst; a `now` before `last` refills nothing. -/
def advance (lim : Limiter) (now : ℕ) : ℕ := min second (lim.tokens + (now - lim.last))

/-- `Allow` at `now`: a grant takes a token and stamps `now`; a refusal changes nothing. -/
def allow (lim : Limiter) (now : ℕ) : Limiter × Bool :=
  if second ≤ lim.advance now then (⟨now, lim.advance now - second⟩, true) else (lim, false)

variable {lim : Limiter} {now : ℕ}

theorem allow_granted_iff (lim : Limiter) (now : ℕ) :
    (lim.allow now).2 = true ↔ second ≤ lim.tokens + (now - lim.last) := by
  unfold allow advance
  split <;> simp_all [Nat.le_min]

/-- A grant empties the bucket and stamps `now`. -/
theorem allow_of_granted (h : (lim.allow now).2 = true) : lim.allow now = (⟨now, 0⟩, true) := by
  have h' := (allow_granted_iff lim now).1 h
  simp only [allow, advance, Nat.le_min, le_refl, true_and, if_pos h']
  rw [Nat.min_eq_left h', Nat.sub_self]

/-- A refusal changes nothing. -/
theorem allow_of_refused (h : (lim.allow now).2 = false) : lim.allow now = (lim, false) := by
  unfold allow at h ⊢
  split <;> simp_all

end Limiter

end Microcosm
