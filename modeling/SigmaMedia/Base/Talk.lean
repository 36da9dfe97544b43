import SigmaMedia.Base.Exec

/-!
# Talking to a Server

A computation that asks a server on its way. It ends with a value, or it asks
something and goes on with the reply; there is no other way for it to learn
anything. So a function that sends a message and blocks until the answer comes
back is one definition, read from top to bottom as its source is.

## Main definitions

* `Talk`: A computation that asks.
* `Talk.say`: Asking, and nothing else.
-/

namespace SigmaMedia

/-- A computation that asks on its way. -/
inductive Talk (ι ρ α : Type) where
  | done (a : α)
  | ask (m : ι) (next : ρ → Talk ι ρ α)

namespace Talk

variable {ι ρ α β : Type}

protected def bind : Talk ι ρ α → (α → Talk ι ρ β) → Talk ι ρ β
  | .done a, f => f a
  | .ask m next, f => .ask m fun r => (next r).bind f

instance : Monad (Talk ι ρ) where
  pure := .done
  bind := Talk.bind

/-- Ask, and take the reply as it is. -/
def say (m : ι) : Talk ι ρ ρ := .ask m .done

end Talk

end SigmaMedia
