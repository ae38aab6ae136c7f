import SeriesGateway.Instant

namespace SeriesGateway

/-- The points `start`, `start + step` and so on before `stop`, in milliseconds. -/
structure Window where
  start : Int64
  stop : Int64
  step : Int64
  step_pos : 0 < step.toInt
  deriving DecidableEq, Repr

namespace Window

/-- The greatest number of points that a window may have. -/
def pointLimit : Nat := 100000

/-- The number of points, `(stop - start) / step` rounded up. -/
def pointCount (start stop step : Int64) : Nat :=
  if stop.toInt ≤ start.toInt then 0
  else ((stop.toInt - start.toInt + step.toInt - 1) / step.toInt).toNat

/-- Why three numbers make no window. -/
inductive Fault where
  | stepNotPositive (given : Int64)
  | tooManyPoints (count : Nat)
  deriving DecidableEq, Repr

def Fault.message : Fault → String
  | .stepNotPositive given => s!"step must be > 0, was {given.toInt}"
  | .tooManyPoints count => s!"{count} points requested, at most {pointLimit} allowed"

def make (start stop step : Int64) : Except Fault Window :=
  if h : 0 < step.toInt then
    if pointCount start stop step ≤ pointLimit then .ok ⟨start, stop, step, h⟩
    else .error (.tooManyPoints (pointCount start stop step))
  else .error (.stepNotPositive step)

/-- The window between two instants. -/
def between (start stop : Instant) (step : Duration) : Except Fault Window :=
  make (.ofInt start.milliseconds) (.ofInt stop.milliseconds) (.ofInt step.milliseconds)

def length (w : Window) : Nat :=
  pointCount w.start w.stop w.step

def isEmpty (w : Window) : Bool :=
  w.length == 0

/-- The points from `t` on. The last one may be so late that no other fits 64 bits. -/
def climb (stop step t : Int64) (step_pos : 0 < step.toInt) : List Int64 :=
  if t.toInt < stop.toInt then
    if t.toInt + step.toInt < 0x8000000000000000 then
      t :: climb stop step (.ofInt (t.toInt + step.toInt)) step_pos
    else [t]
  else []
termination_by (stop.toInt - t.toInt).toNat
decreasing_by
  have := t.le_toInt
  rw [Int64.toInt_ofInt_of_le (by omega) (by omega)]
  omega

def timestamps (w : Window) : List Int64 :=
  climb w.stop w.step w.start w.step_pos

end Window

end SeriesGateway
