import Lowering.Proofs.CallOrder

/-
This file says what an attempt to lower an expression to a location leaves behind. An attempt that fails
leaves nothing, and one that comes to an address leaves the selection of each member on the way there.
-/

namespace Lowering

open IR

/--
The members that the location of an expression goes through, the innermost first. A reference is where
the way ends, and so is an expression that failed to check.
-/
def Expr.selections (expr : Expr) : List DeclId :=
  if expr.ty.isError then []
  else match expr with
    | .member _ base id => selections base ++ [id]
    | .addressOf _ operand => selections operand
    | _ => []

/-- The function after instructions in one of its blocks that have each taken a temporary. -/
def IR.Function.defining (function : Function) (label : LabelId) (written : List Instruction) :
    Function :=
  { function.modifyBlock label (Block.addAll · written) with
    temps := ⟨function.temps.issued + written.length⟩ }

/--
These instructions select the members one after another. They start at an address and with the given
temporary, and the address that they end at is their value.
-/
inductive Frame.Selects (frame : Frame) (next : TempId) (root : Value) :
    List DeclId → List Instruction → Value → Prop
  | root : Selects frame next root [] [] root
  | member {path : List DeclId} {written : List Instruction} {record : Value} {id : DeclId}
      {decl : Decl} {ty : Ty} (inner : Selects frame next root path written record)
      (declared : frame.program.decl id = .ok decl) (stored : decl.kind.isStored = true)
      (seen : frame.contextualize decl.ty = .ok ty) :
      Selects frame next root (path ++ [id])
        (written ++
          [.recordMemberAddr (next + written.length) record id decl.name (.address ty)])
        (Value.temp (next + written.length) (.address ty))

namespace IR

namespace Function

@[simp] theorem name_defining (function : Function) (label : LabelId)
    (written : List Instruction) : (function.defining label written).name = function.name := rfl

theorem defining_nil (function : Function) (label : LabelId) :
    function.defining label [] = function := by
  have same (blocks : List Block) : modifyFirst (·.label == label) (fun block => block) blocks = blocks := by
    induction blocks with
    | nil => rfl
    | cons block rest rest_ih =>
      rw [modifyFirst, rest_ih]
      split <;> rfl
  simp [defining, modifyBlock, same]

theorem defining_snoc (function : Function) (label : LabelId) (written : List Instruction)
    (instruction : Instruction) :
    (function.defining label written).takeTemp.2.extendBlock label instruction =
      function.defining label (written ++ [instruction]) := by
  simp only [defining, takeTemp, extendBlock, modifyBlock, Counter.next, List.length_append,
    List.length_singleton, Nat.add_assoc]
  rw [modifyFirst_modifyFirst (·.label == label) (Block.addAll · written) (Block.add · instruction) _
    fun _ found => found]
  congr 2
  funext block
  simp [Block.add_eq_addAll]

end Function

theorem Builder.put_of_present {builder : Builder} {function : Function}
    (present : builder.module.function? function.name = some function) :
    builder.put function = builder := by
  have same (functions : List Function)
      (found : functions.find? (·.name == function.name) = some function) :
      modifyFirst (·.name == function.name) (fun _ => function) functions = functions := by
    induction functions with
    | nil => rfl
    | cons other rest rest_ih =>
      rw [modifyFirst]
      rw [List.find?_cons] at found
      split at found
      next named =>
        rw [if_pos named, Option.some.inj found]
      next other =>
        rw [if_neg (by simpa using other), rest_ih found]
  simp [Builder.put, modifyModule, Module.modifyFunction, same _ present]

end IR

namespace Frame

variable {frame : Frame} {before after : Activation} {function : Function} {block : Block}
  {expr : Expr} {value : Value}

/-- Only the start of a selection can be the error value. -/
theorem Selects.eq_nil {next : TempId} {root value : Value} {path : List DeclId}
    {written : List Instruction} (selects : frame.Selects next root path written value)
    (flawed : value.isError = true) : written = [] := by
  cases selects with
  | root => rfl
  | member => cases flawed

/-- What is written is that selection, in the state that the attempt began with. -/
theorem Locates.selects (located : frame.Locates before expr (.ok value) after)
    (place : before.pass.builder.At function block) :
    (value.isAddress || value.isError) = true ∧ ∃ root written,
      frame.Selects function.temps.issued root expr.selections written value ∧
      after = before.withBuilder
        (before.pass.builder.put (function.defining block.label written)) := by
  have unchanged : before = before.withBuilder
      (before.pass.builder.put (function.defining block.label [])) := by
    rw [Function.defining_nil, Builder.put_of_present place.present]
    rfl
  generalize answer : Except.ok value = result at located
  induction located generalizing value with
  | flawed flawed =>
    obtain rfl := Except.ok.inj answer
    rw [Expr.selections.eq_def, if_pos flawed]
    exact ⟨rfl, _, [], .root, unchanged⟩
  | bound checked found addressed =>
    obtain rfl := Except.ok.inj answer
    rw [Expr.selections.eq_def, if_neg (ne_true_of_eq_false checked)]
    exact ⟨addressed, value, [], .root, unchanged⟩
  | @member _ base id decl _ _ ty _ _ checked declared stored _ _ seen selected base_ih =>
    obtain rfl := Except.ok.inj answer
    obtain ⟨_, root, written, inner, rfl⟩ := base_ih rfl
    rw [Expr.selections.eq_def, if_neg (ne_true_of_eq_false checked)]
    obtain ⟨last, ran, rfl⟩ := (lift_body _ _ _ _).mp selected
    obtain ⟨later, other, there, rfl, rfl⟩ := BuildM.run_define (BuildM.run_requireAddress_bind ran)
    -- The attempt at the base has left the insertion point where it was.
    have cursors := place.cursor.symm.trans there.cursor
    simp only [Option.some.injEq, Cursor.mk.injEq] at cursors
    obtain ⟨named, labelled⟩ := cursors
    have grown : later = function.defining block.label written := by
      have present := there.present
      rw [← named] at present
      exact Option.some.inj (present.symm.trans
        (Builder.function?_put_self (function.defining block.label written) _ _ place.present))
    subst grown
    refine ⟨rfl, root, _, .member inner declared stored seen, ?_⟩
    rw [← labelled, Function.defining_snoc]
    exact congrArg before.withBuilder (Builder.put_put _ _ _ rfl)
  | addressOf checked _ operand_ih =>
    rw [Expr.selections.eq_def, if_neg (ne_true_of_eq_false checked)]
    exact operand_ih answer
  | object | missing | placeless | dispatched | computed | other => cases answer

theorem Locates.eq_of_flawed (located : frame.Locates before expr (.ok value) after)
    (place : before.pass.builder.At function block) (flawed : value.isError = true) :
    after = before := by
  obtain ⟨_, root, written, selects, rfl⟩ := located.selects place
  rw [selects.eq_nil flawed, Function.defining_nil, Builder.put_of_present place.present]
  rfl

/--
An attempt at a location that fails or comes to the error value leaves everything as it was. One that
comes to any other value has found an address, and all it leaves is one selection for each stored member
on the way there.
-/
theorem location_traceless (expr : Expr) {result : Except Unlowerable Value}
    (place : before.pass.builder.At function block)
    (done : (frame.location expr).run before = .ok result after) :
    (∀ failure, result = .error failure → after = before) ∧
    (∀ value, result = .ok value → value.isError = true → after = before) ∧
    (∀ value, result = .ok value → value.isError = false → value.isAddress = true ∧
      ∃ root written,
        frame.Selects function.temps.issued root expr.selections written value ∧
        after = before.withBuilder
          (before.pass.builder.put (function.defining block.label written))) := by
  refine ⟨?_, ?_, ?_⟩
  · rintro failure rfl
    exact (run_location.mp done).eq_of_error
  · rintro value rfl flawed
    exact (run_location.mp done).eq_of_flawed place flawed
  · rintro value rfl right
    obtain ⟨addressed, found⟩ := (run_location.mp done).selects place
    exact ⟨by simpa [right] using addressed, found⟩

end Frame

/-- The start of a line has a coordinate. -/
def coordinate : Assembly Unit := do
  let main ← Assembly.addModule "main"
  let point ← Assembly.addProduct main "Point"
  let x ← Assembly.addStoredProperty point "x" .int
  let line ← Assembly.addProduct main "Line"
  let start ← Assembly.addStoredProperty line "start" (← Assembly.ask (·.declaredType point))
  let f ← Assembly.addFunction main "f" [] .unit
  let whole ← Assembly.addVariable f "whole" (← Assembly.ask (·.declaredType line))
  let var ← Assembly.ask (·.refExpr whole Span.unknown)
  let first ← Assembly.ask (·.memberExpr var start Span.unknown)
  let member ← Assembly.ask (·.memberExpr first x Span.unknown)
  Assembly.setBody f ⟨[.expr (Expr.ofAddress member Span.unknown)], Span.unknown⟩

theorem location_traceless_coordinate :
    ∃ expr value after, ∃ function : Function, ∃ block : Block,
      ((coordinate.built.find? ⟨7⟩).bind (·.exprs.head?)) = some expr ∧
      expr.selections = [⟨5⟩, ⟨2⟩] ∧
      let before := { Activation.fresh with
        locals := Table.empty.insert ⟨8⟩ (Value.temp 0 (.address (.product ⟨⟨4⟩, "Line"⟩))) }
      (Frame.location ⟨⟨coordinate.built, Options.standard⟩, ⟨7⟩⟩ expr).run before =
        .ok (.ok value) after ∧ value.isAddress = true ∧ ∃ root written,
        Frame.Selects ⟨⟨coordinate.built, Options.standard⟩, ⟨7⟩⟩ function.temps.issued root
          expr.selections written value ∧
        after = before.withBuilder
          (before.pass.builder.put (function.defining block.label written)) := by
  let before := { Activation.fresh with
    locals := Table.empty.insert ⟨8⟩ (Value.temp 0 (.address (.product ⟨⟨4⟩, "Line"⟩))) }
  let attempt (expr : Expr) :=
    (Frame.location ⟨⟨coordinate.built, Options.standard⟩, ⟨7⟩⟩ expr).run
  have seen : ((coordinate.built.find? ⟨7⟩).bind (·.exprs.head?)).map (fun expr =>
      (expr.selections, ((attempt expr).run' before).map fun result =>
        result.toOption.map (·.isError))) = some ([⟨5⟩, ⟨2⟩], some (some false)) := by
    decide +kernel
  obtain ⟨expr, held, seen⟩ := Option.map_eq_some_iff.mp seen
  obtain ⟨path, seen⟩ := Prod.mk.inj seen
  have place : before.pass.builder.At ((Function.declared "outer" ⟨[], .object .int⟩).addBlock []).2
      ((Function.declared "outer" ⟨[], .object .int⟩).addBlock []).1 :=
    ⟨rfl, rfl, rfl, rfl⟩
  obtain ⟨result, after, done⟩ : ∃ result after, attempt expr before = .ok result after :=
    ok_of_run' (by simpa using congrArg Option.isSome seen)
  have answered := run'_of_ok done
  cases result with
  | error => simp [answered, Except.toOption] at seen
  | ok value =>
    have right : value.isError = false := by simpa [answered, Except.toOption] using seen
    exact ⟨expr, value, after, _, _, held, path, done,
      (Frame.location_traceless expr place done).2.2 value rfl right⟩

namespace Frame

variable {frame : Frame} {before after : Activation} {function : Function} {block : Block}

/-- A copy that was not made has left nothing behind, so the expression can be lowered again. -/
theorem copyFrom?_declined {expr : Expr} {location : Value} {ty : Ty}
    (place : before.pass.builder.At function block)
    (done : frame.copyFrom? expr location ty before = .ok false after) : after = before := by
  unfold copyFrom? at done
  split at done
  · exact ((run_pure _ _ _ _).mp done).2.symm
  obtain ⟨result, between, located, rest⟩ := (run_bind _ _ _ _ _).mp done
  clear done
  cases result with
  | error failure =>
    obtain rfl := (run_location.mp located).eq_of_error
    exact ((run_pure _ _ _ _).mp rest).2.symm
  | ok source =>
    dsimp only at rest
    split at rest
    next flawed =>
      obtain rfl := (run_location.mp located).eq_of_flawed place flawed
      exact ((run_pure _ _ _ _).mp rest).2.symm
    next =>
      split at rest
      all_goals
        obtain ⟨cast, _, _, rest⟩ := (run_bind _ _ _ _ _).mp rest
        obtain ⟨_, _, _, rest⟩ := (run_bind _ _ _ _ _).mp rest
        cases ((run_pure _ _ _ _).mp rest).1

end Frame

end Lowering
