import Lowering.Diagnostic
import Lowering.IR.Builder
import Lowering.Program.Basic

/-
This file holds what can go wrong in a lowering pass.
An expression that cannot be lowered becomes a finding, and so do other faults of the source.
A broken invariant of the checked program aborts the pass.
-/

namespace Lowering

/-- Why an expression cannot be lowered. -/
inductive Unlowerable where
  | notAddressable (ty : Ty)
  | existentialDispatch (member : String) (ty : Ty)
  | notCallable (ty : Ty)
  | unbound (name : String)
  | unsupported (construct : String)
deriving DecidableEq, Inhabited, Repr

def Unlowerable.message : Unlowerable → String
  | .notAddressable ty => s!"expression of type {ty.text} does not denote a location"
  | .existentialDispatch member ty =>
    s!"member '{member}' of existential type {ty.text} cannot be dispatched"
  | .notCallable ty => s!"value of type {ty.text} is not callable"
  | .unbound name => s!"no value is bound to '{name}'"
  | .unsupported construct => s!"{construct} is not supported"

/-- A finding is a fault of the source that the pass reports. -/
inductive Finding where
  /-- This is found right after the body. -/
  | missingReturn (span : Span)
  /-- This is found at the first statement that is never executed. -/
  | unreachable (span : Span)
  | unlowered (failure : Unlowerable) (span : Span)
deriving DecidableEq, Inhabited, Repr

def Finding.diagnostic : Finding → Diagnostic
  | .missingReturn span => ⟨.error, "missing return value in non-unit function", span⟩
  | .unreachable span => ⟨.warning, "code after return is never executed", span⟩
  | .unlowered failure span => ⟨.error, s!"cannot lower expression: {failure.message}", span⟩

/-- An invariant that every checked program keeps, found broken. -/
inductive Violation where
  | notAFunction (name : String)
  | notAModule (name kind : String)
  | importedDeclaration (name : String)
  | topLevelBinding (name : String)
  | conformingAlias (name : String)
  | misplaced (kind name : String)
  | misplacedInBody (kind name : String)
  | localBindingAsMember (name : String)
  | computedProperty (name : String)
  | initializedMember (name : String)
  | loweredTwice (name : String)
  | undeclared (name : String)
  | noReceiverArgument (name : String)
  | unexpectedReceiver (name : String)
  | missingArgument (bound function : String)
  | constructorWithoutReceiver
  | unboundReceiver
  | unexpectedSynthesis (kind name : String)
  | memberwiseOutsideProduct (name : String)
  | unboundParameter (name : String)
  | requirementNotAFunction (name : String)
  | implementationNotAFunction (requirement kind name : String)
  | requirementWithoutReceiver (thunk : String)
  | implementationWithoutReceiver (thunk : String)
  | mutatingImplementation (thunk : String)
  | destructuringBinding
  | computedLocal (name : String)
  | notAVariable (name kind : String)
  | argumentCount (given expected : Nat)
  /-- The builder was misused. -/
  | misuse (error : IR.BuildError)
deriving DecidableEq, Inhabited, Repr

def Violation.message : Violation → String
  | .notAFunction name => s!"'{name}' is not a function"
  | .notAModule name kind => s!"'{name}' is a {kind}, not a module"
  | .importedDeclaration name => s!"cannot lower import declaration '{name}'"
  | .topLevelBinding name => s!"cannot lower top-level pattern binding '{name}'"
  | .conformingAlias name => s!"cannot emit witness tables for type alias '{name}'"
  | .misplaced kind name => s!"unexpected {kind} '{name}' in declaration space"
  | .misplacedInBody kind name => s!"unexpected {kind} '{name}' in function body"
  | .localBindingAsMember name => s!"pattern binding '{name}' is not a member"
  | .computedProperty name => s!"cannot lower computed property '{name}'"
  | .initializedMember name => s!"cannot lower initializer of member '{name}'"
  | .loweredTwice name => s!"function '{name}' is lowered twice"
  | .undeclared name => s!"function '{name}' was not declared"
  | .noReceiverArgument name => s!"member '{name}' has no receiver argument"
  | .unexpectedReceiver name =>
    s!"'{name}' has a receiver but is neither a member nor a constructor"
  | .missingArgument bound function => s!"missing argument for '{bound}' in '{function}'"
  | .constructorWithoutReceiver => "constructor without receiver"
  | .unboundReceiver => "constructor receiver is not bound"
  | .unexpectedSynthesis kind name => s!"unexpected synthesized {kind} '{name}'"
  | .memberwiseOutsideProduct name =>
    s!"memberwise constructor '{name}' outside of a product type"
  | .unboundParameter name => s!"parameter '{name}' is not bound"
  | .requirementNotAFunction name => s!"requirement '{name}' is not a function"
  | .implementationNotAFunction requirement kind name =>
    s!"requirement '{requirement}' is satisfied by {kind} '{name}'"
  | .requirementWithoutReceiver thunk => s!"requirement '{thunk}' has no receiver"
  | .implementationWithoutReceiver thunk => s!"implementation of '{thunk}' has no receiver"
  | .mutatingImplementation thunk =>
    s!"non-mutating requirement '{thunk}' is implemented by a mutating method"
  | .destructuringBinding => "cannot lower destructuring pattern binding"
  | .computedLocal name => s!"cannot lower computed local variable '{name}'"
  | .notAVariable name kind => s!"'{name}' is a {kind}, not a variable"
  | .argumentCount given expected =>
    s!"call with {given} argument(s) to a function taking {expected}"
  | .misuse error => error.message

/-- Why a pass stops before its end. -/
inductive Abort where
  /-- A question about the program has no answer. -/
  | query (error : QueryError)
  | violation (broken : Violation)
deriving DecidableEq, Inhabited, Repr

/-- The message of an abort, if it has one of its own. -/
def Abort.message? : Abort → Option String
  | .query _ => none
  | .violation broken => some ("internal compiler error: " ++ broken.message)

end Lowering
