import Mathlib.Algebra.Group.Nat.Basic
import Mathlib.Data.List.Sort
import Mathlib.Order.MinMax

/-! # `RollupManager`

Values have `0`, `+` and a decidable `<`, as `double` with NaN has; the theorems take a linear
order, that is doubles without NaN. -/

namespace TickTock

/-- What the manager reads of a `Tsdb`: its range `[fromSec, toSec)` and its rollup interval. -/
structure Tsdb where
  fromSec : ℕ
  toSec : ℕ
  rollupInterval : ℕ
  deriving DecidableEq, Repr

/-- Modelled from the spec: the aggregates `query` materialises (rollup.h is not under
src/). -/
inductive RollupType
  | avg
  | cnt
  | max
  | min
  | sum
  deriving DecidableEq, Repr

/-- One call of `Tsdb::add_rollup_point`, with the bucket `m_tstamp` it stands for. -/
structure RollupPoint (V : Type) where
  tsdb : Tsdb
  tstamp : ℕ
  cnt : ℕ
  min : V
  max : V
  sum : V
  deriving DecidableEq, Repr

/-- Modelled from the spec: the state of a `RollupManager` (rollup.h is not under src/);
`tstamp = none` is `TT_INVALID_TIMESTAMP`, `emitted` logs the calls of `add_rollup_point`. -/
structure RollupManager (V : Type) where
  cnt : ℕ
  min : V
  max : V
  sum : V
  tsdb : Option Tsdb
  tstamp : Option ℕ
  emitted : List (RollupPoint V)
  deriving DecidableEq, Repr

namespace RollupManager

section StdMinMax

variable {V : Type} [LT V] [DecidableRel (· < · : V → V → Prop)]

/-- `std::min(a, b)`, that is `(b < a) ? b : a`: for an unordered pair (a NaN) it is `a`. -/
def stdMin (a b : V) : V := if b < a then b else a

def stdMax (a b : V) : V := if a < b then b else a

end StdMinMax

@[simp] theorem stdMin_eq_min {V : Type} [LinearOrder V] (a b : V) : stdMin a b = Min.min a b := by
  unfold stdMin
  split_ifs with h
  · exact (min_eq_right h.le).symm
  · exact (min_eq_left (not_lt.1 h)).symm

@[simp] theorem stdMax_eq_max {V : Type} [LinearOrder V] (a b : V) : stdMax a b = Max.max a b := by
  unfold stdMax
  split_ifs with h
  · exact (max_eq_right h.le).symm
  · exact (max_eq_left (not_lt.1 h)).symm

variable {V : Type} [LT V] [DecidableRel (· < · : V → V → Prop)] [Zero V] [Add V]

def init : RollupManager V := ⟨0, 0, 0, 0, none, none, []⟩

/-- `RollupManager::flush`: it keeps `m_tstamp`. -/
def flush (m : RollupManager V) : RollupManager V :=
  match m.tstamp, m.tsdb with
  | some t, some d =>
    { m with emitted := m.emitted ++ [⟨d, t, m.cnt, m.min, m.max, m.sum⟩],
             cnt := 0, min := 0, max := 0, sum := 0 }
  | _, _ => m

/-- A gap-filling loop of `add_data_point`, for at most `fuel` rounds. -/
def fill (interval bound : ℕ) : ℕ → RollupManager V → RollupManager V
  | 0, m => m
  | fuel + 1, m =>
    match m.tstamp with
    | some t =>
      if t < bound then fill interval bound fuel { m.flush with tstamp := some (t + interval) }
      else m
    | none => m

/-- The `tstamp != m_tstamp` branch of `add_data_point`; `bound` rounds suffice for the loops. -/
def passTo (m : RollupManager V) (bound tsdb : Tsdb) (cur tstamp : ℕ) : RollupManager V :=
  let stop := bound.toSec
  let lim := Min.min stop tstamp
  let m := fill bound.rollupInterval lim lim
    { m.flush with tstamp := some (cur + bound.rollupInterval) }
  if stop ≤ m.tstamp.getD cur then
    fill tsdb.rollupInterval tstamp tstamp
      { m with tsdb := some tsdb, tstamp := some tsdb.fromSec }
  else m

/-- The end of `add_data_point`; `max` is taken against the updated `m_min`, as in the source. -/
def accumulate (m : RollupManager V) (value : V) : RollupManager V :=
  let mn := stdMin m.min value
  { m with cnt := (m.cnt + 1) % 2 ^ 32, min := mn, max := stdMax mn value,
           sum := m.sum + value }

def addDataPoint (m : RollupManager V) (tsdb : Tsdb) (tstamp : ℕ) (value : V) :
    RollupManager V :=
  let bound := m.tsdb.getD tsdb
  let tstamp := tstamp - tstamp % bound.rollupInterval
  let cur := m.tstamp.getD tstamp
  let m := { m with tsdb := some bound, tstamp := some cur }
  let m := if cur ≠ tstamp then m.passTo bound tsdb cur tstamp else m
  m.accumulate value

def query [Div V] [NatCast V] (m : RollupManager V) (type : RollupType) : Option (ℕ × V) :=
  if m.cnt = 0 then none
  else
    let v : V := match type with
      | .avg => m.sum / (m.cnt : V)
      | .cnt => (m.cnt : V)
      | .max => m.max
      | .min => m.min
      | .sum => m.sum
    m.tstamp.map (·, v)

def stepDown (m : RollupManager V) (tstamp : ℕ) : Option ℕ :=
  m.tsdb.map fun d => tstamp - tstamp % d.rollupInterval

inductive Op (V : Type)
  | add (tsdb : Tsdb) (tstamp : ℕ) (value : V)
  | flush

def step (m : RollupManager V) : Op V → RollupManager V
  | .add tsdb tstamp value => m.addDataPoint tsdb tstamp value
  | .flush => m.flush

def run (m : RollupManager V) (ops : List (Op V)) : RollupManager V := ops.foldl step m

end RollupManager

end TickTock
