import Lowering.Proofs.IR.Extension
import Lowering.Proofs.IR.Numbering

/-
This file follows any use of a builder: operations that succeed and operations that fail, with any
operands, at any insertion point. The module stays well-formed and nothing of it is taken back.
-/

namespace Lowering

namespace IR

/-- What a client may ask of a builder. -/
inductive Request where
  | getOrCreateFunction (name : String) (signature : Signature)
  | functionRef (name : String)
  | createBlock (name : String) (params : List OperandType)
  | setCursor (cursor : Option Cursor)
  | positionAtEnd (function : String) (block : LabelId)
  | addWitnessTable (table : WitnessTable)
  | allocStack (ty : Ty)
  | allocExistential (container : Value) (witness : Ty)
  | load (location : Value)
  | store (value location : Value)
  | copyAddr (source dest : Value)
  | unsafeCastAddr (source : Value) (target : Ty)
  | recordMemberAddr (record : Value) (member : DeclId) (name : String) (ty : Ty)
  | apply (function : Value) (args : List Value) (type : OperandType)
  | partialApply (function : Value) (args : List Value) (ty : Ty)
  | openExistential (container : Value) (ty : Ty)
  | openExistentialAddr (container : Value) (ty : Ty)
  | ret (value : Value)
  | halt
  | assignValue (value : Value) (ty : Ty) (location : Value)
deriving Repr

/-- The building step that a request asks for. -/
def Request.step : Request → BuildM Unit
  | .getOrCreateFunction name signature => discard (BuildM.getOrCreateFunction name signature)
  | .functionRef name => discard (BuildM.functionRef name)
  | .createBlock name params => discard (BuildM.createBlock name params)
  | .setCursor cursor => BuildM.setCursor cursor
  | .positionAtEnd function block => BuildM.positionAtEnd function block
  | .addWitnessTable table => BuildM.addWitnessTable table
  | .allocStack ty => discard (BuildM.allocStack ty)
  | .allocExistential container witness => discard (BuildM.allocExistential container witness)
  | .load location => discard (BuildM.load location)
  | .store value location => BuildM.store value location
  | .copyAddr source dest => BuildM.copyAddr source dest
  | .unsafeCastAddr source target => discard (BuildM.unsafeCastAddr source target)
  | .recordMemberAddr record member name ty =>
    discard (BuildM.recordMemberAddr record member name ty)
  | .apply function args type => discard (BuildM.apply function args type)
  | .partialApply function args ty => discard (BuildM.partialApply function args ty)
  | .openExistential container ty => discard (BuildM.openExistential container ty)
  | .openExistentialAddr container ty => discard (BuildM.openExistentialAddr container ty)
  | .ret value => BuildM.ret value
  | .halt => BuildM.halt
  | .assignValue value ty location => BuildM.assignValue value ty location

/-- A request by itself, or operations under a guard. -/
inductive Operation where
  | one (request : Request)
  | guarded (operations : List Operation)
deriving Repr

mutual

/--
The builder after an operation, also where that fails. A guard puts the insertion point back in the
end.
-/
def Operation.perform : Operation → Builder → Builder
  | .one request, builder => request.step.leaves builder
  | .guarded operations, builder =>
    { performAll operations builder with cursor := builder.cursor }

/-- The builder after a sequence of operations, which goes on where one of them fails. -/
def Operation.performAll : List Operation → Builder → Builder
  | [], builder => builder
  | operation :: rest, builder => performAll rest (operation.perform builder)

end

/-- No request takes anything back, and none leaves a well-formed module in disorder. -/
theorem Request.advances (request : Request) : request.step.Advances := by
  cases request with
  | getOrCreateFunction name signature => exact .discard (.getOrCreateFunction name signature)
  | functionRef name => exact .discard (.functionRef name)
  | createBlock name params => exact .discard (.createBlock name params)
  | setCursor cursor => exact .setCursor cursor
  | positionAtEnd function block => exact .setCursor (some ⟨function, block⟩)
  | addWitnessTable table => exact .addWitnessTable table
  | store value location => exact .store value location
  | copyAddr source dest => exact .copyAddr source dest
  | ret => exact .append rfl
  | halt => exact .append rfl
  | assignValue value ty location => exact .assignValue value ty location
  | allocStack | apply | partialApply | openExistential => exact .discard (.define fun _ => rfl)
  | allocExistential | load | unsafeCastAddr | recordMemberAddr | openExistentialAddr =>
    exact .discard (.requireAddress_bind (.define fun _ => rfl))

namespace Operation

mutual

theorem advances (operation : Operation) (builder : Builder) :
    builder.Advances (operation.perform builder) := by
  cases operation with
  | one request => exact request.advances builder
  | guarded operations => exact (advancesAll operations builder).withCursor builder.cursor

theorem advancesAll (operations : List Operation) (builder : Builder) :
    builder.Advances (performAll operations builder) := by
  cases operations with
  | nil => exact .refl builder
  | cons operation rest =>
    exact (advances operation builder).trans (advancesAll rest (operation.perform builder))

end

/-- A block that is terminated takes no instruction, but the temporary for it is gone. -/
example :
    (performAll
      [.one (.getOrCreateFunction "f" ⟨[], .object .int⟩), .one (.createBlock "f" []),
        .guarded [.one (.positionAtEnd "f" 0), .one .halt, .one (.allocStack .int)]]
      (Builder.empty "m")).module.functions.map
        (fun function => (function.temps.word, function.instructions)) =
      [(1, [.halt])] := by
  decide +kernel

end Operation

end IR

end Lowering
