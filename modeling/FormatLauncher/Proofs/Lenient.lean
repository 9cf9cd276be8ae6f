/-
# What a lenient request never complains of

A file that is formatted leniently may fail in many ways, but none of them is about the
configuration: a token that is left over is a warning, and nothing else of a request for a file
looks at what is configured and refuses it.
-/

import FormatLauncher.Proofs.Failing
import FormatLauncher.Proofs.Turns

namespace FormatLauncher

open Action

/-- The failure is about the configuration. -/
def Failure.IsConfiguration : Failure → Prop
  | .configuration _ => True
  | _ => False

/-- A request that is not strict does not fail for the configuration. -/
theorem Failure.IsOfRequest.not_isConfiguration {hint : String} {schedule : Schedule}
    {failure : Failure} (h : failure.IsOfRequest hint false schedule) :
    ¬failure.IsConfiguration := by
  cases failure <;> simp_all [IsOfRequest, IsIncidental, IsStray, IsConfiguration]

/-- The action never complains of the configuration. -/
abbrev Action.Accepts {α : Type} (action : Action α) : Prop := action.FailsOnly fun failure =>
  ¬failure.IsConfiguration

/-- Locating leniently does not complain of the configuration. -/
theorem Locator.accepts_locate {q : Query} (hlenient : q.strict = false) {limit : Option Seconds}
    (hlimit : ∀ s ∈ limit, s.toBinary?.isSome = true) (schedule : Schedule) :
    (locate q limit schedule).Accepts := by
  have hfails : (locate q limit schedule).FailsOnly (·.IsOfRequest "" q.strict schedule) :=
    failsOnly_locate hlimit q schedule
  rw [hlenient] at hfails
  exact hfails.mono fun _ h => h.not_isConfiguration

namespace Formatter

/-- Running the formatter for a file whose query was located does not complain of the
configuration. -/
theorem accepts_print (f : Formatter) (draft : Draft) {located : Locator.Outcome}
    (hlocated : ∀ failure, located = .error failure → ¬failure.IsConfiguration)
    (schedule : Schedule) : (f.print draft located schedule).Accepts :=
  f.failsOnly_print draft (fun _ h => h.not_isConfiguration) hlocated

theorem accepts_writeBack (file : Path) (before after : String) (write : Bool) :
    (writeBack file before after write).Accepts :=
  (failsOnly_writeBack file before after write).mono fun failure h =>
    (h.isOfRequest : failure.IsOfRequest "" false .quiet).not_isConfiguration

/-- Reading and planning a file leniently does not complain of the configuration. -/
theorem accepts_draft {f : Formatter} (hlenient : f.settings.strict = false) (file : Path) :
    (f.draft file).Accepts := by
  have hfails : (f.draft file).FailsOnly (·.IsOfRequest "" f.settings.strict .quiet) :=
    f.failsOnly_draft file
  rw [hlenient] at hfails
  exact hfails.mono fun _ h => h.not_isConfiguration

end Formatter

end FormatLauncher
