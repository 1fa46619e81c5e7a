/-!
# Following links

A chain is what a partial function `next` makes of a starting point: its successor, the
successor of that, and so on. The chain may run into itself, so a walk is given a bound; a walk
as long as there are points meets every point of the chain.

`ends` decides whether a chain comes to an end, by remembering the points it has passed.
`Ends` says the same without a walk.
-/

namespace ClassLink.Chain

/-- The points after `a`, at most `bound` of them. -/
def after {α : Type} (next : α → Option α) : Nat → α → List α
  | 0, _ => []
  | bound + 1, a =>
    match next a with
    | none => []
    | some b => b :: after next bound b

/-- The walk that starts with a link comes to an end without meeting a point of `seen`, and
without meeting a point twice. -/
def endsFrom {α : Type} [DecidableEq α] (next : α → Option α) :
    Nat → List α → Option α → Bool
  | _, _, none => true
  | 0, _, some _ => false
  | bound + 1, seen, some a =>
    if a ∈ seen then false else endsFrom next bound (a :: seen) (next a)

/-- The chain of `a` comes to an end; `bound` is at least the number of points after `a`. -/
def ends {α : Type} [DecidableEq α] (next : α → Option α) (bound : Nat) (a : α) : Bool :=
  endsFrom next bound [a] (next a)

/-- A point without successor is reached. -/
inductive Ends {α : Type} (next : α → Option α) : α → Prop where
  /-- The point has no successor. -/
  | last {a : α} : next a = none → Ends next a
  /-- The chain of the successor comes to an end. -/
  | step {a b : α} : next a = some b → Ends next b → Ends next a

/-- `b` is reached from `a` by one or more steps. -/
inductive Above {α : Type} (next : α → Option α) : α → α → Prop where
  /-- The successor is above. -/
  | next {a b : α} : next a = some b → Above next a b
  /-- What is above the successor is above. -/
  | step {a b c : α} : next a = some b → Above next b c → Above next a c

end ClassLink.Chain
