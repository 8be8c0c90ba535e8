/-! Focus targets: the parts of an application that take keyboard input. -/

namespace Keyboards

/-- A handle on a target, which only serves to tell targets apart. -/
structure FocusTarget where
  number : Nat
deriving DecidableEq, Repr

/-- What an application attaches to a target for adaptors to use. -/
structure Handler where
  value : Nat
deriving DecidableEq, Repr

/-- News about a target. -/
inductive FocusEvent where
  /-- The target was registered, perhaps again and with another handler. -/
  | added (target : FocusTarget) (handler : Option Handler)
  /-- The target is about to be removed. -/
  | removing (target : FocusTarget)
deriving DecidableEq, Repr

namespace FocusEvent

def target : FocusEvent → FocusTarget
  | added t _ => t
  | removing t => t

/-- The event in words, with the target once more at its end. -/
def describe (e : FocusEvent) : String :=
  let t := toString e.target.number
  (match e with
    | added _ handler =>
      "Added \x7b target: FocusTarget(" ++ t ++ "), has_handler: " ++
        (if handler.isSome then "true" else "false") ++ " \x7d"
    | removing _ => "Removing \x7b target: FocusTarget(" ++ t ++ ") \x7d") ++ " target#" ++ t

end FocusEvent

/-- The registered targets, in increasing order, with their handlers. -/
abbrev FocusTargets := List (FocusTarget × Option Handler)

namespace FocusTargets

/-- Registers a target; a target that is there gets the new handler. -/
def insert (t : FocusTarget) (h : Option Handler) : FocusTargets → FocusTargets
  | [] => [(t, h)]
  | (u, g) :: rest =>
    if t.number < u.number then (t, h) :: (u, g) :: rest
    else if t = u then (t, h) :: rest
    else (u, g) :: insert t h rest

def erase (t : FocusTarget) (ts : FocusTargets) : FocusTargets := ts.filter (·.1 ≠ t)

def contains (t : FocusTarget) (ts : FocusTargets) : Bool := ts.any (·.1 = t)

/-- The handler of a target, if it is registered with one. -/
def handler? (t : FocusTarget) (ts : FocusTargets) : Option Handler := (ts.lookup t).join

/-- What a follower of the events knows after one more of them. -/
def apply (ts : FocusTargets) : FocusEvent → FocusTargets
  | .added t h => insert t h ts
  | .removing t => erase t ts

end FocusTargets

end Keyboards
