import Lowering.Proofs.Stored.Ty
import Lowering.Stored.Module

/-
This file shows that an IR module and the options of a pass are given back from their stored forms.
-/

namespace Lowering

namespace IR

def OperandType.Storable (type : OperandType) : Prop := type.ty.Storable

def ValueKind.Storable : ValueKind → Prop
  | .temp id => id < UInt32.size
  | .float value => value.Storable
  | .unit | .error | .bool _ | .int _ | .string _ | .function _ | .builtin _ => True

def Value.Storable (value : Value) : Prop := value.kind.Storable ∧ value.type.Storable

def Instruction.Storable : Instruction → Prop
  | .allocStack result ty => result < UInt32.size ∧ ty.Storable
  | .allocExistential result container witness =>
    result < UInt32.size ∧ container.Storable ∧ witness.Storable
  | .load result operand type | .unsafeCastAddr result operand type
  | .openExistential result operand type | .openExistentialAddr result operand type =>
    result < UInt32.size ∧ operand.Storable ∧ type.Storable
  | .store value location => value.Storable ∧ location.Storable
  | .copyAddr source dest => source.Storable ∧ dest.Storable
  | .recordMemberAddr result record member _ type =>
    result < UInt32.size ∧ record.Storable ∧ member.Storable ∧ type.Storable
  | .apply result function args type | .partialApply result function args type =>
    result < UInt32.size ∧ function.Storable ∧ (∀ arg ∈ args, arg.Storable) ∧ type.Storable
  | .ret value => value.Storable
  | .halt => True

def Block.Storable (block : Block) : Prop :=
  block.label < UInt32.size ∧
    (∀ param ∈ block.params, param.1 < UInt32.size ∧ param.2.Storable) ∧
      ∀ instruction ∈ block.instructions, instruction.Storable

def Signature.Storable (signature : Signature) : Prop :=
  (∀ param ∈ signature.params, param.Storable) ∧ signature.result.Storable

def Function.Storable (function : Function) : Prop :=
  function.signature.Storable ∧ (∀ block ∈ function.blocks, block.Storable) ∧
    function.temps.Storable ∧ function.labels.Storable

def WitnessEntry.Storable (entry : WitnessEntry) : Prop := entry.requirement.Storable

def WitnessTable.Storable (table : WitnessTable) : Prop :=
  table.ty.Storable ∧ table.view.Storable ∧ ∀ entry ∈ table.entries, entry.Storable

def Module.Storable (module : Module) : Prop :=
  (∀ function ∈ module.functions, function.Storable) ∧
    ∀ table ∈ module.witnessTables, table.Storable

end IR

open Decoder

theorem Counter.recovers {counter : Counter} (storable : counter.Storable) :
    Counter.decoder.Recovers counter.toJson counter := by
  have issued := recovers_natural32 storable
  refine recovers_record rfl (by decide) (by simp [issued.legible]) fun fields holds => ?_
  simp only [List.forall_mem_cons] at holds
  simp [holds.1.required issued]

theorem Options.recovers (options : Options) :
    Options.decoder.Recovers options.toJson options where
  legible := Json.legible_record (by simp [(recovers_string _).legible, (recovers_bool _).legible])
  decodes allowance room := by
    obtain ⟨fields, decoded, holds⟩ := namedFields_record rfl (by simp) room
    have same : leadingFields ["module_name", "diagnose_unreachable_code"] allowance
      options.toJson = some fields := decoded
    simp only [List.forall_mem_cons] at holds
    simp [Options.decoder, same, holds.1.withDefault (recovers_string options.moduleName),
      holds.2.1.withDefault (recovers_bool options.warnsUnreachable)]

namespace IR

theorem OperandType.recovers {type : OperandType} (storable : type.Storable) :
    OperandType.decoder.Recovers type.toJson type := by
  have ty := Ty.recovers storable
  have isAddress := recovers_bool type.isAddress
  refine recovers_record rfl (by decide) (by simp [ty.legible, isAddress.legible])
    fun fields holds => ?_
  simp only [List.forall_mem_cons] at holds
  simp [holds.1.required ty, holds.2.1.required isAddress]

theorem ValueKind.recovers {kind : ValueKind} (storable : kind.Storable) :
    ValueKind.decoder.Recovers kind.toJson kind := by
  cases kind with
  | temp => exact recovers_holding ((recovers_natural32 storable).map ValueKind.temp) fun _ => rfl
  | unit => exact recovers_constant fun _ => rfl
  | error => exact recovers_constant fun _ => rfl
  | bool value => exact recovers_holding ((recovers_bool value).map ValueKind.bool) fun _ => rfl
  | int value => exact recovers_holding ((recovers_signed64 value).map ValueKind.int) fun _ => rfl
  | float =>
    exact recovers_holding ((recovers_binary64 storable.1 storable.2).map ValueKind.float)
      fun _ => rfl
  | string value =>
    exact recovers_holding ((recovers_string value).map ValueKind.string) fun _ => rfl
  | function name =>
    exact recovers_holding ((recovers_string name).map ValueKind.function) fun _ => rfl
  | builtin name =>
    exact recovers_holding ((recovers_string name).map ValueKind.builtin) fun _ => rfl

theorem Value.recovers {value : Value} (storable : value.Storable) :
    Value.decoder.Recovers value.toJson value := by
  have kind := ValueKind.recovers storable.1
  have type := OperandType.recovers storable.2
  refine recovers_record rfl (by decide) (by simp [kind.legible, type.legible])
    fun fields holds => ?_
  simp only [List.forall_mem_cons] at holds
  simp [holds.1.required kind, holds.2.1.required type]

theorem args_recover {args : List Value} (storable : ∀ arg ∈ args, arg.Storable) :
    (Decoder.list Value.decoder).Recovers (.list Value.toJson args) args :=
  Recovers.list fun arg within => Value.recovers (storable arg within)

namespace Instruction

section Fields

variable {fields : Fields} {result : TempId} {type : OperandType} {args : List Value}

theorem resultField_eq (fits : result < UInt32.size)
    (holds : fields.Holds (resultJson result).1 (resultJson result).2) :
    resultField fields = some result :=
  holds.required (recovers_natural32 fits)

theorem valueField_eq {name : String} {value : Value} (storable : value.Storable)
    (holds : fields.Holds name value.toJson) : valueField fields name = some value :=
  holds.required (Value.recovers storable)

theorem typeField_eq (storable : type.Storable)
    (holds : fields.Holds (typeJson type).1 (typeJson type).2) : typeField fields = some type :=
  holds.required (OperandType.recovers storable)

theorem argsField_eq (storable : ∀ arg ∈ args, arg.Storable)
    (holds : fields.Holds (argsJson args).1 (argsJson args).2) : argsField fields = some args :=
  holds.required (args_recover storable)

end Fields

section Families

variable {select : Variant → Option Instruction} {name : String} {result : TempId}
  {type : OperandType}

/-- This is the form of an instruction that takes one operand and has a typed result. -/
theorem access_recovers {field : String} {operand : Value}
    (make : TempId → Value → OperandType → Instruction)
    (distinct : ["result", field, "result_type"].Nodup) (fits : result < UInt32.size)
    (operand_storable : operand.Storable) (type_storable : type.Storable)
    (selects : ∀ inner content, select ⟨name, some content, inner⟩ =
      Variant.fields ⟨name, some content, inner⟩ ["result", field, "result_type"] >>=
        fun fields => do
          return make (← resultField fields) (← valueField fields field) (← typeField fields)) :
    Recovers (fun allowance json => variant allowance json >>= select)
      (.variant name (.record [resultJson result, (field, operand.toJson), typeJson type]))
      (make result operand type) := by
  refine recovers_fields _ rfl distinct ?_ (fun inner => selects inner _) fun fields holds => ?_
  · simp [resultJson, typeJson, (recovers_natural32 fits).legible,
      (Value.recovers operand_storable).legible, (OperandType.recovers type_storable).legible]
  · simp only [List.forall_mem_cons] at holds
    simp [resultField_eq fits holds.1, valueField_eq operand_storable holds.2.1,
      typeField_eq type_storable holds.2.2.1]

/-- This is the form of an instruction that takes a function and arguments. -/
theorem call_recovers {function : Value} {args : List Value}
    (make : TempId → Value → List Value → OperandType → Instruction)
    (fits : result < UInt32.size) (function_storable : function.Storable)
    (args_storable : ∀ arg ∈ args, arg.Storable) (type_storable : type.Storable)
    (selects : ∀ inner content, select ⟨name, some content, inner⟩ =
      Variant.fields ⟨name, some content, inner⟩ ["result", "function", "args", "result_type"] >>=
        fun fields => do
          return make (← resultField fields) (← valueField fields "function") (← argsField fields)
            (← typeField fields)) :
    Recovers (fun allowance json => variant allowance json >>= select)
      (.variant name (.record
        [resultJson result, ("function", function.toJson), argsJson args, typeJson type]))
      (make result function args type) := by
  refine recovers_fields ["result", "function", "args", "result_type"] rfl (by decide) ?_
    (fun inner => selects inner _) fun fields holds => ?_
  · simp [resultJson, argsJson, typeJson, (recovers_natural32 fits).legible,
      (Value.recovers function_storable).legible, (args_recover args_storable).legible,
      (OperandType.recovers type_storable).legible]
  · simp only [List.forall_mem_cons] at holds
    obtain ⟨result_holds, function_holds, args_hold, type_holds, -⟩ := holds
    simp [resultField_eq fits result_holds, valueField_eq function_storable function_holds,
      argsField_eq args_storable args_hold, typeField_eq type_storable type_holds]

/-- This is the form of an instruction that moves from one operand to another. -/
theorem move_recovers {first second : String} {left right : Value}
    (make : Value → Value → Instruction) (distinct : [first, second].Nodup)
    (left_storable : left.Storable) (right_storable : right.Storable)
    (selects : ∀ inner content, select ⟨name, some content, inner⟩ =
      Variant.fields ⟨name, some content, inner⟩ [first, second] >>= fun fields => do
        return make (← valueField fields first) (← valueField fields second)) :
    Recovers (fun allowance json => variant allowance json >>= select)
      (.variant name (.record [(first, left.toJson), (second, right.toJson)]))
      (make left right) := by
  refine recovers_fields _ rfl distinct ?_ (fun inner => selects inner _) fun fields holds => ?_
  · simp [(Value.recovers left_storable).legible, (Value.recovers right_storable).legible]
  · simp only [List.forall_mem_cons] at holds
    simp [valueField_eq left_storable holds.1, valueField_eq right_storable holds.2.1]

end Families

theorem recovers {instruction : Instruction} (storable : instruction.Storable) :
    decoder.Recovers instruction.toJson instruction := by
  cases instruction with
  | allocStack result type =>
    have ty := Ty.recovers storable.2
    refine recovers_fields ["result", "alloc_type"] rfl (by decide)
      (by simp [resultJson, (recovers_natural32 storable.1).legible, ty.legible]) (fun _ => rfl)
      fun fields holds => ?_
    simp only [List.forall_mem_cons] at holds
    simp [resultField_eq storable.1 holds.1, holds.2.1.required ty]
  | allocExistential result container witness =>
    obtain ⟨fits, container_storable, witness_storable⟩ := storable
    have ty := Ty.recovers witness_storable
    refine recovers_fields ["result", "container", "witness_type"] rfl (by decide)
      (by simp [resultJson, (recovers_natural32 fits).legible,
        (Value.recovers container_storable).legible, ty.legible]) (fun _ => rfl)
      fun fields holds => ?_
    simp only [List.forall_mem_cons] at holds
    simp [resultField_eq fits holds.1, valueField_eq container_storable holds.2.1,
      holds.2.2.1.required ty]
  | load =>
    exact access_recovers load (by decide) storable.1 storable.2.1 storable.2.2 fun _ _ => rfl
  | unsafeCastAddr =>
    exact access_recovers unsafeCastAddr (by decide) storable.1 storable.2.1 storable.2.2
      fun _ _ => rfl
  | openExistential =>
    exact access_recovers openExistential (by decide) storable.1 storable.2.1 storable.2.2
      fun _ _ => rfl
  | openExistentialAddr =>
    exact access_recovers openExistentialAddr (by decide) storable.1 storable.2.1 storable.2.2
      fun _ _ => rfl
  | store => exact move_recovers store (by decide) storable.1 storable.2 fun _ _ => rfl
  | copyAddr => exact move_recovers copyAddr (by decide) storable.1 storable.2 fun _ _ => rfl
  | recordMemberAddr result record member name type =>
    obtain ⟨fits, record_storable, member_storable, type_storable⟩ := storable
    have member_recovers := DeclId.recovers member_storable
    have name_recovers := recovers_string name
    refine recovers_fields ["result", "record", "member", "member_name", "result_type"] rfl
      (by decide) ?_ (fun _ => rfl) fun fields holds => ?_
    · simp [resultJson, typeJson, (recovers_natural32 fits).legible,
        (Value.recovers record_storable).legible, member_recovers.legible, name_recovers.legible,
        (OperandType.recovers type_storable).legible]
    · simp only [List.forall_mem_cons] at holds
      obtain ⟨result_holds, record_holds, member_holds, name_holds, type_holds, -⟩ := holds
      simp [resultField_eq fits result_holds, valueField_eq record_storable record_holds,
        member_holds.required member_recovers, name_holds.required name_recovers,
        typeField_eq type_storable type_holds]
  | apply =>
    exact call_recovers apply storable.1 storable.2.1 storable.2.2.1 storable.2.2.2 fun _ _ => rfl
  | partialApply =>
    exact call_recovers partialApply storable.1 storable.2.1 storable.2.2.1 storable.2.2.2
      fun _ _ => rfl
  | ret => exact recovers_holding ((Value.recovers storable).map ret) fun _ => rfl
  | halt => exact recovers_constant fun _ => rfl

end Instruction

theorem Block.recovers {block : Block} (storable : block.Storable) :
    Block.decoder.Recovers block.toJson block := by
  have label := recovers_natural32 storable.1
  have params : (Decoder.list Block.paramDecoder).Recovers
      (.list (fun param => .array [.natural param.1, param.2.toJson]) block.params)
      block.params :=
    Recovers.list fun param within =>
      (recovers_natural32 (storable.2.1 param within).1).pair
        (OperandType.recovers (storable.2.1 param within).2)
  have instructions := Recovers.list fun instruction within =>
    Instruction.recovers (storable.2.2 instruction within)
  refine recovers_record rfl (by decide)
    (by simp [label.legible, params.legible, instructions.legible]) fun fields holds => ?_
  simp only [List.forall_mem_cons] at holds
  simp [holds.1.required label, holds.2.1.required params, holds.2.2.1.required instructions]

theorem Signature.recovers {signature : Signature} (storable : signature.Storable) :
    Signature.decoder.Recovers signature.toJson signature := by
  have params := Recovers.list fun param within => OperandType.recovers (storable.1 param within)
  have result := OperandType.recovers storable.2
  refine recovers_record rfl (by decide) (by simp [params.legible, result.legible])
    fun fields holds => ?_
  simp only [List.forall_mem_cons] at holds
  simp [holds.1.required params, holds.2.1.required result]

theorem Function.recovers {function : Function} (storable : function.Storable) :
    Function.decoder.Recovers function.toJson function := by
  obtain ⟨signature_storable, blocks_storable, temps_storable, labels_storable⟩ := storable
  have name := recovers_string function.name
  have signature := Signature.recovers signature_storable
  have blocks := Recovers.list fun block within => Block.recovers (blocks_storable block within)
  have temps := Counter.recovers temps_storable
  have labels := Counter.recovers labels_storable
  refine recovers_record rfl (by decide)
    (by simp [name.legible, signature.legible, blocks.legible, temps.legible, labels.legible])
    fun fields holds => ?_
  simp only [List.forall_mem_cons] at holds
  obtain ⟨name_holds, signature_holds, blocks_hold, temps_hold, labels_hold, -⟩ := holds
  simp [name_holds.required name, signature_holds.required signature, blocks_hold.required blocks,
    temps_hold.required temps, labels_hold.required labels]

theorem WitnessEntry.recovers {entry : WitnessEntry} (storable : entry.Storable) :
    WitnessEntry.decoder.Recovers entry.toJson entry := by
  have requirement := DeclId.recovers storable
  have name := recovers_string entry.name
  have function := recovers_string entry.function
  refine recovers_record rfl (by decide)
    (by simp [requirement.legible, name.legible, function.legible]) fun fields holds => ?_
  simp only [List.forall_mem_cons] at holds
  simp [holds.1.required requirement, holds.2.1.required name, holds.2.2.1.required function]

theorem WitnessTable.recovers {table : WitnessTable} (storable : table.Storable) :
    WitnessTable.decoder.Recovers table.toJson table := by
  have ty := Ty.recovers storable.1
  have view := Nominal.recovers storable.2.1
  have entries := Recovers.list fun entry within =>
    WitnessEntry.recovers (storable.2.2 entry within)
  refine recovers_record rfl (by decide) (by simp [ty.legible, view.legible, entries.legible])
    fun fields holds => ?_
  simp only [List.forall_mem_cons] at holds
  simp [holds.1.required ty, holds.2.1.required view, holds.2.2.1.required entries]

theorem Module.recovers {module : Module} (storable : module.Storable) :
    Module.decoder.Recovers module.toJson module := by
  have name := recovers_string module.name
  have functions := Recovers.list fun function within =>
    Function.recovers (storable.1 function within)
  have tables := Recovers.list fun table within => WitnessTable.recovers (storable.2 table within)
  refine recovers_record rfl (by decide)
    (by simp [name.legible, functions.legible, tables.legible]) fun fields holds => ?_
  simp only [List.forall_mem_cons] at holds
  simp [holds.1.required name, holds.2.1.required functions, holds.2.2.1.required tables]

end IR

end Lowering
