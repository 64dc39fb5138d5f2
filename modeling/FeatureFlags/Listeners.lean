/-!
# Listeners

A list of registrations, each with a number that no later registration gets. A registration is
cancelled by its number, which is harmless when it is gone already.
-/

set_option autoImplicit false

namespace FeatureFlags

/-- The number of a registration. -/
abbrev ListenerId := Nat

/-- Registrations of `α`, in order. -/
structure Listeners (α : Type) where
  /-- The number of the next registration. -/
  nextId : ListenerId
  /-- The registrations. -/
  registered : List (ListenerId × α)
deriving Repr

namespace Listeners

variable {α : Type}

/-- No registrations. -/
def empty : Listeners α := ⟨0, []⟩

instance : Inhabited (Listeners α) := ⟨empty⟩

/-- Registers `x` under the number `nextId`. -/
def add (l : Listeners α) (x : α) : Listeners α :=
  ⟨l.nextId + 1, l.registered ++ [(l.nextId, x)]⟩

/-- Cancels a registration. -/
def cancel (l : Listeners α) (id : ListenerId) : Listeners α :=
  { l with registered := l.registered.filter fun r => r.1 ≠ id }

/-- Removes all registrations. Numbers are not used again. -/
def clear (l : Listeners α) : Listeners α := { l with registered := [] }

end Listeners

end FeatureFlags
