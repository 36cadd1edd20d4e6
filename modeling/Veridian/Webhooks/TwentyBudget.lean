/-
The minute budget of the Twenty connector.

`take` opens a window at the first token it is asked for after a minute, and gives out
`limit` tokens in it.  A budget knows nothing of the tokens another one gave out.
-/
import Mathlib.Data.Int.Order.Basic

namespace Veridian

structure TwentyBudget where
  limit : Nat
  windowStart : Int
  used : Nat
deriving DecidableEq

namespace TwentyBudget

/-- `new TwentyBudget(limitPerMin)` -/
def new (limitPerMin : Nat) : TwentyBudget := ⟨limitPerMin, 0, 0⟩

/-- The window that is open at `t`. -/
def roll (budget : TwentyBudget) (t : Int) : TwentyBudget :=
  if 60_000 ≤ t - budget.windowStart then { budget with windowStart := t, used := 0 } else budget

/-- Whether there is a token at `t`, and the budget after. -/
def take (budget : TwentyBudget) (t : Int) : Bool × TwentyBudget :=
  let budget := budget.roll t
  if budget.limit ≤ budget.used then (false, budget)
  else (true, { budget with used := budget.used + 1 })

end TwentyBudget

/-- A budget with every call of `take` so far: when it was made, and whether it got a token. -/
structure Meter where
  budget : TwentyBudget
  asks : List (Int × Bool)

namespace Meter

def take (meter : Meter) (t : Int) : Bool × Meter :=
  let taken := meter.budget.take t
  (taken.1, { budget := taken.2, asks := meter.asks ++ [(t, taken.1)] })

/-- The instants at which a token was taken. -/
def tokens (asks : List (Int × Bool)) : List Int :=
  (asks.filter Prod.snd).map Prod.fst

end Meter

end Veridian
