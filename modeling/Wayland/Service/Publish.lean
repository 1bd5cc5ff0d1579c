import Wayland.Command.Run
import Wayland.Service.Serve

/-!
Contract: publishing a catalog.

Owns: the state of a service before anything is published, and what a new run changes in it.

Does not own: compiling.
-/

namespace Wayland.Service

/-- The state before anything is published. -/
def State.initial
    (now : String) :
    State where
  registry := Catalog.initialMetrics
  now

/-- Compiles the catalog and publishes the result, with the failures of single collections.  If the
run does not come to a result, what was published before stays. -/
def State.refresh
    {m : Type → Type}
    [Monad m]
    (disk : File.Disk m)
    (settings : Settings)
    (run : String)
    (state : State) :
    m (State × Option Command.Failure) := do
  let (registry, compiled) ← Command.compile disk settings state.registry [] [] none
  let counted := { state with registry }
  match compiled with
  | .error failure => return (counted, some failure)
  | .ok result => return ({ counted with published? := some ⟨result, run, state.now⟩ }, none)

end Wayland.Service
