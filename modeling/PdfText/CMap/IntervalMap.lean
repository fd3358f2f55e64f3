/-!
# Interval maps

A map from numbers to values that is constant on intervals. It is kept as a list of intervals that
ascend and do not overlap. A new interval cuts away what it covers of the others, and intervals of
one value that overlap or touch become one interval. So an interval may begin before the one that
was put in, and what is left of one that was cut begins after it.

## Main definitions

* `Interval`, `IntervalMap` — a value on an interval, and a list of those
* `IntervalMap.insert` — puts a value on an interval
* `IntervalMap.find?` — the interval that holds a number
-/

namespace PdfText

/-- A value on the numbers from `first` to `last`. -/
structure Interval (α : Type) where
  first : Nat
  last : Nat
  value : α
  deriving Repr, DecidableEq

/-- Intervals in ascending order that do not overlap. -/
abbrev IntervalMap (α : Type) := List (Interval α)

/-- The part of an interval below a bound, if there is any. -/
def Interval.below {α : Type} (interval : Interval α) (bound : Nat) : List (Interval α) :=
  if interval.first < bound then [{ interval with last := min interval.last (bound - 1) }] else []

/-- The part of an interval above a bound, if there is any. -/
def Interval.above {α : Type} (interval : Interval α) (bound : Nat) : List (Interval α) :=
  if bound < interval.last then [{ interval with first := max interval.first (bound + 1) }] else []

/-- Whether an interval ends so far before another that they do not even touch. -/
def Interval.isFarBefore {α : Type} (interval other : Interval α) : Bool :=
  interval.last + 1 < other.first

namespace IntervalMap

variable {α : Type} [DecidableEq α]

/-- Puts a value on an interval. -/
def insert (new : Interval α) : IntervalMap α → IntervalMap α
  | [] => [new]
  | old :: rest =>
    if old.isFarBefore new then old :: insert new rest
    else if new.isFarBefore old then new :: old :: rest
    else if old.value = new.value then
      insert ⟨min old.first new.first, max old.last new.last, new.value⟩ rest
    else
      match old.above new.last with
      | [] => old.below new.first ++ insert new rest
      | remains => old.below new.first ++ new :: remains ++ rest

/-- The interval that holds a number. -/
def find? (number : Nat) (map : IntervalMap α) : Option (Interval α) :=
  List.find? (fun interval => interval.first ≤ number && number ≤ interval.last) map

end IntervalMap

end PdfText
