/-
This file holds spans of time and their text.
-/

namespace QueryTree

structure Duration where
  nanoseconds : Nat
deriving DecidableEq, Repr

namespace Duration

def ofMicroseconds (microseconds : Nat) : Duration := ⟨microseconds * 1000⟩

/-- A whole number of units and the digits of the rest, whose last zeros are dropped. -/
def inUnit (nanoseconds places : Nat) (unit : String) : String :=
  let rest := nanoseconds % Nat.pow 10 places
  let digits := Nat.toDigits 10 rest
  let padded := List.replicate (places - digits.length) '0' ++ digits
  let fraction := (padded.reverse.dropWhile (· = '0')).reverse
  toString (nanoseconds / Nat.pow 10 places)
    ++ (if rest = 0 then "" else String.ofList ('.' :: fraction)) ++ unit

/-- The span in the largest unit of which it holds at least one. -/
def text (duration : Duration) : String :=
  let count := duration.nanoseconds
  if count ≥ 1000000000 then inUnit count 9 "s"
  else if count ≥ 1000000 then inUnit count 6 "ms"
  else if count ≥ 1000 then inUnit count 3 "µs"
  else toString count ++ "ns"

end Duration

end QueryTree
