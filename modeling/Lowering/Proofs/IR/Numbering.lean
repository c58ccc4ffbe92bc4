import Lowering.Proofs.IR.WellFormed

/-
This file reads the identifiers of a module in the 32 bits that store them. They are numbered there as
they are handed out, in order and without repeats, until the counter runs out of its bits.
-/

namespace Lowering

namespace IR

namespace Function.WellFormed

variable {function : Function} (formed : function.WellFormed)

include formed

end Function.WellFormed

end IR

end Lowering
