/-!
# Rounding a quotient

Integer rounding of an exact quotient `num / den`, used wherever a number has to fit a coarser
grid: the mantissa of a binary number, the places of a decimal text.

## Main Definitions

* `Tie` — which neighbour takes a value that lies half way
* `roundQuotient` — the integer nearest to `num / den`
-/

namespace StrategyDesk

/-- Which of its two neighbours a value half way between them goes to. -/
inductive Tie where
  /-- The even neighbour. -/
  | toEven
  /-- The larger neighbour. -/
  | up
deriving DecidableEq, Repr

/-- The integer nearest to `num / den`; `tie` decides when two are equally near. -/
def roundQuotient (tie : Tie) (num den : Nat) : Nat :=
  let quotient := num / den
  let twice := 2 * (num % den)
  if twice < den then quotient
  else if den < twice then quotient + 1
  else match tie with
    | .toEven => quotient + quotient % 2
    | .up => quotient + 1

end StrategyDesk
