/-
# Hooks with faults

A server has to keep its side of the contract whatever the hooks answer. These
hooks depart from given ones at one point each.
-/

import Rendezvous.Hooks

namespace Rendezvous.Hooks

variable {σ : Type}

/-- Hooks that let everybody want in. -/
def withOpenDoor (hooks : Hooks σ) : Hooks σ :=
  { hooks with handshake := fun _ world => ⟨.ok (), world, []⟩ }

/-- Hooks that accept no connection to the given sessions. -/
def failingToOpen (hooks : Hooks σ) (sessions : List SessionId) : Hooks σ :=
  { hooks with
    opened := fun connection world =>
      if sessions.contains connection.session then
        ⟨.error (.internal "open refused"), world, []⟩
      else hooks.opened connection world }

/-- Hooks that fail on one text. -/
def failingOnText (hooks : Hooks σ) (text : Octets) : Hooks σ :=
  { hooks with
    message := fun connection content world =>
      if content = text then ⟨.error (.internal "text refused"), world, []⟩
      else hooks.message connection content world }

end Rendezvous.Hooks
