import Lowering.IR.Module
import Lowering.Stored.Report

/-
This file holds the stored form of an IR module.
-/

namespace Lowering

namespace IR

def OperandType.toJson (type : OperandType) : Json :=
  .record [("val", type.ty.toJson), ("is_address", .bool type.isAddress)]

def OperandType.decoder : Decoder OperandType := fun allowance json => do
  let fields ← Decoder.fields ["val", "is_address"] allowance json
  return ⟨← fields.required "val" Ty.decoder, ← fields.required "is_address" Decoder.bool⟩

def ValueKind.toJson : ValueKind → Json
  | .temp id => .variant "Temp" (.natural id)
  | .unit => .constant "Unit"
  | .error => .constant "Error"
  | .bool value => .variant "Bool" (.bool value)
  | .int value => .variant "Int" (.integer value.toInt)
  | .float value => .variant "Float" (.number value)
  | .string value => .variant "String" (.text value)
  | .function name => .variant "Function" (.text name)
  | .builtin name => .variant "Builtin" (.text name)

def ValueKind.decoder : Decoder ValueKind := fun allowance json => do
  let variant ← Decoder.variant allowance json
  match variant.name with
  | "Temp" => variant.holding (Decoder.map .temp Decoder.natural32)
  | "Unit" => variant.constant .unit
  | "Error" => variant.constant .error
  | "Bool" => variant.holding (Decoder.map .bool Decoder.bool)
  | "Int" => variant.holding (Decoder.map .int Decoder.signed64)
  | "Float" => variant.holding (Decoder.map .float Decoder.binary64)
  | "String" => variant.holding (Decoder.map .string Decoder.string)
  | "Function" => variant.holding (Decoder.map .function Decoder.string)
  | "Builtin" => variant.holding (Decoder.map .builtin Decoder.string)
  | _ => none

def Value.toJson (value : Value) : Json :=
  .record [("kind", value.kind.toJson), ("ty", value.type.toJson)]

def Value.decoder : Decoder Value := fun allowance json => do
  let fields ← Decoder.fields ["kind", "ty"] allowance json
  return ⟨← fields.required "kind" ValueKind.decoder, ← fields.required "ty" OperandType.decoder⟩

namespace Instruction

def resultJson (result : TempId) : String × Json := ("result", .natural result)

def typeJson (type : OperandType) : String × Json := ("result_type", type.toJson)

def argsJson (args : List Value) : String × Json := ("args", .list Value.toJson args)

def toJson : Instruction → Json
  | allocStack result ty =>
    .variant "AllocStack" (.record [resultJson result, ("alloc_type", ty.toJson)])
  | allocExistential result container witness =>
    .variant "AllocExistential" (.record
      [resultJson result, ("container", container.toJson), ("witness_type", witness.toJson)])
  | load result location type =>
    .variant "Load" (.record [resultJson result, ("location", location.toJson), typeJson type])
  | store value location =>
    .variant "Store" (.record [("value", value.toJson), ("location", location.toJson)])
  | copyAddr source dest =>
    .variant "CopyAddr" (.record [("source", source.toJson), ("dest", dest.toJson)])
  | unsafeCastAddr result source type =>
    .variant "UnsafeCastAddr"
      (.record [resultJson result, ("source", source.toJson), typeJson type])
  | recordMemberAddr result record member name type =>
    .variant "RecordMemberAddr" (.record
      [resultJson result, ("record", record.toJson), ("member", member.toJson),
        ("member_name", .text name), typeJson type])
  | apply result function args type =>
    .variant "Apply" (.record
      [resultJson result, ("function", function.toJson), argsJson args, typeJson type])
  | partialApply result function args type =>
    .variant "PartialApply" (.record
      [resultJson result, ("function", function.toJson), argsJson args, typeJson type])
  | openExistential result container type =>
    .variant "OpenExistential"
      (.record [resultJson result, ("container", container.toJson), typeJson type])
  | openExistentialAddr result container type =>
    .variant "OpenExistentialAddr"
      (.record [resultJson result, ("container", container.toJson), typeJson type])
  | ret value => .variant "Ret" value.toJson
  | halt => .constant "Halt"

def resultField (fields : Decoder.Fields) : Option TempId :=
  fields.required "result" Decoder.natural32

def valueField (fields : Decoder.Fields) (name : String) : Option Value :=
  fields.required name Value.decoder

def typeField (fields : Decoder.Fields) : Option OperandType :=
  fields.required "result_type" OperandType.decoder

def argsField (fields : Decoder.Fields) : Option (List Value) :=
  fields.required "args" (Decoder.list Value.decoder)

def decoder : Decoder Instruction := fun allowance json => do
  let variant ← Decoder.variant allowance json
  match variant.name with
  | "AllocStack" => do
    let fields ← variant.fields ["result", "alloc_type"]
    return allocStack (← resultField fields) (← fields.required "alloc_type" Ty.decoder)
  | "AllocExistential" => do
    let fields ← variant.fields ["result", "container", "witness_type"]
    let container ← valueField fields "container"
    return allocExistential (← resultField fields) container
      (← fields.required "witness_type" Ty.decoder)
  | "Load" => do
    let fields ← variant.fields ["result", "location", "result_type"]
    return load (← resultField fields) (← valueField fields "location") (← typeField fields)
  | "Store" => do
    let fields ← variant.fields ["value", "location"]
    return store (← valueField fields "value") (← valueField fields "location")
  | "CopyAddr" => do
    let fields ← variant.fields ["source", "dest"]
    return copyAddr (← valueField fields "source") (← valueField fields "dest")
  | "UnsafeCastAddr" => do
    let fields ← variant.fields ["result", "source", "result_type"]
    return unsafeCastAddr (← resultField fields) (← valueField fields "source")
      (← typeField fields)
  | "RecordMemberAddr" => do
    let fields ← variant.fields ["result", "record", "member", "member_name", "result_type"]
    let member ← fields.required "member" DeclId.decoder
    let name ← fields.required "member_name" Decoder.string
    return recordMemberAddr (← resultField fields) (← valueField fields "record") member name
      (← typeField fields)
  | "Apply" => do
    let fields ← variant.fields ["result", "function", "args", "result_type"]
    return apply (← resultField fields) (← valueField fields "function") (← argsField fields)
      (← typeField fields)
  | "PartialApply" => do
    let fields ← variant.fields ["result", "function", "args", "result_type"]
    return partialApply (← resultField fields) (← valueField fields "function")
      (← argsField fields) (← typeField fields)
  | "OpenExistential" => do
    let fields ← variant.fields ["result", "container", "result_type"]
    return openExistential (← resultField fields) (← valueField fields "container")
      (← typeField fields)
  | "OpenExistentialAddr" => do
    let fields ← variant.fields ["result", "container", "result_type"]
    return openExistentialAddr (← resultField fields) (← valueField fields "container")
      (← typeField fields)
  | "Ret" => variant.holding (Decoder.map ret Value.decoder)
  | "Halt" => variant.constant halt
  | _ => none

end Instruction

def Block.toJson (block : Block) : Json :=
  .record [
    ("id", .natural block.label),
    ("params", .list (fun (id, type) => .array [.natural id, type.toJson]) block.params),
    ("instructions", .list Instruction.toJson block.instructions)]

def Block.paramDecoder : Decoder (TempId × OperandType) :=
  Decoder.pair Decoder.natural32 OperandType.decoder

def Block.decoder : Decoder Block := fun allowance json => do
  let fields ← Decoder.fields ["id", "params", "instructions"] allowance json
  return {
    label := ← fields.required "id" Decoder.natural32
    params := ← fields.required "params" (Decoder.list Block.paramDecoder)
    instructions := ← fields.required "instructions" (Decoder.list Instruction.decoder) }

def Signature.toJson (signature : Signature) : Json :=
  .record [
    ("params", .list OperandType.toJson signature.params),
    ("ret", signature.result.toJson)]

def Signature.decoder : Decoder Signature := fun allowance json => do
  let fields ← Decoder.fields ["params", "ret"] allowance json
  let params ← fields.required "params" (Decoder.list OperandType.decoder)
  return ⟨params, ← fields.required "ret" OperandType.decoder⟩

def Function.toJson (function : Function) : Json :=
  .record [
    ("name", .text function.name),
    ("signature", function.signature.toJson),
    ("blocks", .list Block.toJson function.blocks),
    ("temps", function.temps.toJson),
    ("labels", function.labels.toJson)]

def Function.decoder : Decoder Function := fun allowance json => do
  let fields ← Decoder.fields ["name", "signature", "blocks", "temps", "labels"] allowance json
  return {
    name := ← fields.required "name" Decoder.string
    signature := ← fields.required "signature" Signature.decoder
    blocks := ← fields.required "blocks" (Decoder.list Block.decoder)
    temps := ← fields.required "temps" Counter.decoder
    labels := ← fields.required "labels" Counter.decoder }

def WitnessEntry.toJson (entry : WitnessEntry) : Json :=
  .record [
    ("requirement", entry.requirement.toJson),
    ("requirement_name", .text entry.name),
    ("function", .text entry.function)]

def WitnessEntry.decoder : Decoder WitnessEntry := fun allowance json => do
  let fields ← Decoder.fields ["requirement", "requirement_name", "function"] allowance json
  return {
    requirement := ← fields.required "requirement" DeclId.decoder
    name := ← fields.required "requirement_name" Decoder.string
    function := ← fields.required "function" Decoder.string }

def WitnessTable.toJson (table : WitnessTable) : Json :=
  .record [
    ("ty", table.ty.toJson),
    ("view", table.view.toJson),
    ("entries", .list WitnessEntry.toJson table.entries)]

def WitnessTable.decoder : Decoder WitnessTable := fun allowance json => do
  let fields ← Decoder.fields ["ty", "view", "entries"] allowance json
  return {
    ty := ← fields.required "ty" Ty.decoder
    view := ← fields.required "view" Nominal.decoder
    entries := ← fields.required "entries" (Decoder.list WitnessEntry.decoder) }

def Module.toJson (module : Module) : Json :=
  .record [
    ("name", .text module.name),
    ("functions", .list Function.toJson module.functions),
    ("witness_tables", .list WitnessTable.toJson module.witnessTables)]

def Module.decoder : Decoder Module := fun allowance json => do
  let fields ← Decoder.fields ["name", "functions", "witness_tables"] allowance json
  return {
    name := ← fields.required "name" Decoder.string
    functions := ← fields.required "functions" (Decoder.list Function.decoder)
    witnessTables := ← fields.required "witness_tables" (Decoder.list WitnessTable.decoder) }

/-- The stored text of a module, with one item on each line. -/
def Module.storedText (module : Module) : String := module.toJson.pretty 0

end IR

end Lowering
