/-!
# Tickers

A ticker fires once when it starts and once after each further period.
-/

set_option autoImplicit false

namespace ChatOps

/-- A running ticker and the time at which it fires next. -/
structure Ticker where
  period : Nat
  due : Nat
  positive : 0 < period

namespace Ticker

/-- The shortest period. -/
def leastPeriod : Nat := 10

/-- A ticker that starts now; periods that are too short are lengthened. -/
def start (period now : Nat) : Ticker where
  period := max period leastPeriod
  due := now
  positive := by
    simp only [leastPeriod]
    omega

/-- How often the ticker fires up to a time. -/
def firings (ticker : Ticker) (now : Nat) : Nat :=
  if ticker.due ≤ now then (now - ticker.due) / ticker.period + 1 else 0

/-- The ticker after it has fired up to a time. -/
def after (ticker : Ticker) (now : Nat) : Ticker :=
  { ticker with due := ticker.due + ticker.firings now * ticker.period }

/-- Nothing is left to fire. -/
theorem lt_due_after (ticker : Ticker) (now : Nat) : now < (ticker.after now).due := by
  simp only [after, firings]
  split
  · next reached =>
      have divided := Nat.lt_mul_div_succ (now - ticker.due) ticker.positive
      rw [Nat.mul_comm] at divided
      omega
  · next early => simpa using early

end Ticker

end ChatOps
