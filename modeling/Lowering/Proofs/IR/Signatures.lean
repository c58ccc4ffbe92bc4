import Lowering.Proofs.IR.Steps

/-
This file reads a module as a table of signatures. No step but the declaration of a function changes
the table, and none but that is refused for a signature.
-/

namespace Lowering

namespace IR

namespace Module

/-- The signature of the function of the given name. -/
def signature? (module : Module) (name : String) : Option Signature :=
  (module.function? name).map Function.signature

theorem signature?_put {builder : Builder} (function : Function) {old : Function}
    (found : builder.module.function? function.name = some old)
    (same : function.signature = old.signature) (name : String) :
    (builder.put function).module.signature? name = builder.module.signature? name := by
  by_cases here : name = function.name
  · subst here
    rw [signature?, signature?, Builder.function?_put_self function old builder found, found]
    exact congrArg some same
  · rw [signature?, signature?, Builder.function?_put_of_ne function builder name here]

/-- A function that is added is found, unless another one of its name stands before it. -/
theorem signature?_addFunction {module : Module} {name other : String}
    {signature found : Signature} (given :
      (module.addFunction (Function.declared name signature)).signature? other = some found) :
    module.signature? other = some found ∨ other = name ∧ found = signature := by
  unfold signature? function? addFunction at given
  rw [List.find?_append] at given
  cases present : module.functions.find? (·.name == other) with
  | some function => exact Or.inl (by simpa [signature?, function?, present] using given)
  | none =>
    by_cases same : name = other
    · exact Or.inr ⟨same.symm, by simpa [present, Function.declared, same] using given.symm⟩
    · simp [present, Function.declared, same] at given

end Module

namespace BuildM

variable {before after : Builder}

theorem signature?_define {type : OperandType} {instruction : TempId → Instruction} {value : Value}
    (done : define type instruction before = .ok value after) (name : String) :
    after.module.signature? name = before.module.signature? name := by
  obtain ⟨function, block, place, _, rfl⟩ := run_define done
  exact Module.signature?_put (function.takeTemp.2.extendBlock block.label _) place.present rfl name

theorem signature?_append {instruction : Instruction} {value : Unit}
    (done : append instruction before = .ok value after) (name : String) :
    after.module.signature? name = before.module.signature? name := by
  obtain ⟨function, block, place, rfl⟩ := run_append done
  exact Module.signature?_put (function.extendBlock block.label instruction) place.present rfl name

theorem signature?_createBlock {function : String} {params : List OperandType} {label : LabelId}
    {args : List Value} (done : createBlock function params before = .ok (label, args) after)
    (name : String) : after.module.signature? name = before.module.signature? name := by
  obtain ⟨own, found, _, _, rfl⟩ := run_createBlock done
  have same := Module.name_of_function? found
  have found : before.module.function? own.name = some own := same.symm ▸ found
  exact Module.signature?_put (own.addBlock params).2 found rfl name

/-- A step is never refused for the signature of a function. -/
def Undisputed {A : Type} (step : BuildM A) : Prop :=
  ∀ before error after, step before = .error error after →
    ∀ name existing requested, error ≠ .signatureMismatch name existing requested

namespace Undisputed

variable {A B : Type}

theorem pure (value : A) : Undisputed (Pure.pure value) :=
  fun _ _ _ stops => ((run_pure_error _ _ _ _).mp stops).elim

theorem throw {error : BuildError}
    (other : ∀ name existing requested, error ≠ .signatureMismatch name existing requested) :
    Undisputed (throw error : BuildM A) :=
  fun _ _ _ stops => ((run_throw_error _ _ _ _).mp stops).1 ▸ other

theorem modify (change : Builder → Builder) : Undisputed (modify change) :=
  fun _ _ _ stops => ((run_modify_error _ _ _ _).mp stops).elim

theorem bind {step : BuildM A} {next : A → BuildM B} (first : Undisputed step)
    (rest : ∀ value, Undisputed (next value)) : Undisputed (step >>= next) := by
  intro before error after stops
  obtain stops | ⟨value, between, _, stops⟩ := (run_bind_error _ _ _ _ _).mp stops
  · exact first before error after stops
  · exact rest value between error after stops

theorem get_bind {next : Builder → BuildM B} (rest : ∀ builder, Undisputed (next builder)) :
    Undisputed (get >>= next) :=
  bind (fun _ _ _ stops => nomatch stops) rest

theorem requireFunction (name : String) : Undisputed (requireFunction name) := by
  refine .get_bind fun builder => ?_
  split
  · exact .pure _
  · exact .throw fun _ _ _ impossible => nomatch impossible

theorem requireCursor : Undisputed requireCursor := by
  refine .get_bind fun builder => ?_
  split
  · exact .pure _
  · exact .throw fun _ _ _ impossible => nomatch impossible

theorem createBlock (name : String) (params : List OperandType) :
    Undisputed (createBlock name params) :=
  .bind (requireFunction name) fun _ => .bind (.modify _) fun _ => .pure _

theorem append (instruction : Instruction) : Undisputed (append instruction) := by
  refine .bind requireCursor fun cursor => .bind (requireFunction _) fun function => ?_
  split
  · exact .throw fun _ _ _ impossible => nomatch impossible
  · split
    · exact .bind (.throw fun _ _ _ impossible => nomatch impossible) fun _ => .modify _
    · exact .modify _

theorem define (type : OperandType) (instruction : TempId → Instruction) :
    Undisputed (define type instruction) := by
  have takeTemp : Undisputed takeTemp :=
    .bind requireCursor fun _ => .bind (requireFunction _) fun _ =>
      .bind (.modify _) fun _ => .pure _
  exact .bind takeTemp fun _ => .bind (append _) fun _ => .pure _

theorem requireAddress (opcode : String) (operand : Value) :
    Undisputed (requireAddress opcode operand) := by
  unfold BuildM.requireAddress
  split
  · exact .pure _
  · exact .throw fun _ _ _ impossible => nomatch impossible

end Undisputed

end BuildM

end IR

end Lowering
