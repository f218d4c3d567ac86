/-
TopologyExporter/GoTime.lean

Go's `time.Duration`: nanoseconds in an `int64`.  Differences of two times and
rounding saturate at the bounds; `format` is the text of `Duration.String`, the
units from hours down with the fraction of the last one.
-/
import Mathlib.Algebra.Ring.Int.Defs
import Mathlib.Data.Int.Basic

namespace GoTime

/-- `time.Second`. -/
def second : Int := 1000000000

def minDuration : Int := -2 ^ 63

def maxDuration : Int := 2 ^ 63 - 1

/-- `t.Sub(u)`, for times in nanoseconds since some epoch. -/
def sub (t u : Int) : Int := max minDuration (min maxDuration (t - u))

/-- `d.Round(m)`: to the nearest multiple, half away from zero. -/
def round (d m : Int) : Int :=
  if m ≤ 0 then d
  else
    let r : Int := (d.tmod m).natAbs
    if d < 0 then
      if r + r < m then d + r else max minDuration (d - m + r)
    else
      if r + r < m then d - r else min maxDuration (d + m - r)

/-- `fmtFrac`: the fraction of `v / 10 ^ prec` without trailing zeros, in front
of `acc`, and the integer part. -/
def fmtFrac : Nat → Nat → List Char → List Char × Nat
  | 0, v, acc => (if acc = [] then [] else '.' :: acc, v)
  | prec + 1, v, acc =>
      let digit := v % 10
      fmtFrac prec (v / 10) (if acc ≠ [] ∨ digit ≠ 0 then Nat.digitChar digit :: acc else acc)

/-- A number of units with a fraction. -/
def fmtUnit (v prec : Nat) (unit : String) : String :=
  let (frac, v) := fmtFrac prec v []
  Nat.repr v ++ String.ofList frac ++ unit

/-- The text of a duration without its sign. -/
def formatAbs (u : Nat) : String :=
  if u = 0 then "0s"
  else if u < 1000 then fmtUnit u 0 "ns"
  else if u < 1000000 then fmtUnit u 3 "µs"
  else if u < 1000000000 then fmtUnit u 6 "ms"
  else
    let seconds := u / 1000000000
    let minutes := seconds / 60
    let hours := minutes / 60
    (if hours = 0 then "" else Nat.repr hours ++ "h")
      ++ (if minutes = 0 then "" else Nat.repr (minutes % 60) ++ "m")
      ++ fmtUnit (u % 60000000000) 9 "s"

/-- `d.String()`. -/
def format (d : Int) : String :=
  (if d < 0 then "-" else "") ++ formatAbs d.natAbs

example : format (3600 * second) = "1h0m0s" ∧ format (3 * second / 2) = "1.5s"
    ∧ format 2000000 = "2ms" := by decide

end GoTime
