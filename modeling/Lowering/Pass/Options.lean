/-
This file holds the options of a lowering pass.
-/

namespace Lowering

/-- The options name the module and silence one warning; they never change the code. -/
structure Options where
  moduleName : String
  /-- Statements after a return are skipped either way. -/
  warnsUnreachable : Bool
deriving DecidableEq, Repr

def Options.standard : Options := ⟨"main", true⟩

instance : Inhabited Options := ⟨Options.standard⟩

end Lowering
