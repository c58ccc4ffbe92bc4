import Lowering.Json.Decoder
import Lowering.Program.GenericEnv
import Lowering.Span

/-
This file holds the stored forms of types and spans: a writer and a decoder for each.
-/

namespace Lowering

def DeclId.toJson (id : DeclId) : Json := .natural id.index

def DeclId.decoder : Decoder DeclId := Decoder.map DeclId.mk Decoder.natural32

def Nominal.toJson (nominal : Nominal) : Json :=
  .record [("decl", nominal.decl.toJson), ("name", .text nominal.name)]

def Nominal.decoder : Decoder Nominal := fun allowance json => do
  let fields ← Decoder.fields ["decl", "name"] allowance json
  return ⟨← fields.required "decl" DeclId.decoder, ← fields.required "name" Decoder.string⟩

def Primitive.toJson : Primitive → Json
  | .int => .constant "Int"
  | .double => .constant "Double"
  | .bool => .constant "Bool"
  | .string => .constant "String"

def Primitive.decoder : Decoder Primitive := fun allowance json => do
  let variant ← Decoder.variant allowance json
  match variant.name with
  | "Int" => variant.constant .int
  | "Double" => variant.constant .double
  | "Bool" => variant.constant .bool
  | "String" => variant.constant .string
  | _ => none

namespace Ty

mutual

def toJson : Ty → Json
  | .unit => .constant "Unit"
  | .nothing => .constant "Nothing"
  | .error => .constant "Error"
  | .primitive kind => .variant "Builtin" kind.toJson
  | .product nominal => .variant "Product" nominal.toJson
  | .existential views => .variant "Existential" (.list Nominal.toJson views)
  | .genericParam nominal => .variant "GenericParam" nominal.toJson
  | .union members => .variant "Union" (.array (toJsonAll members))
  | .function params result =>
    .variant "Function" (.record [("params", .array (toJsonAll params)), ("ret", toJson result)])
  | .inout base => .variant "Inout" (toJson base)

def toJsonAll : List Ty → List Json
  | [] => []
  | ty :: rest => toJson ty :: toJsonAll rest

end

/-- The parameters and the result of a function type, given a decoder for types. -/
def functionDecoder (ty : Decoder Ty) : Decoder Ty := fun allowance json => do
  let fields ← Decoder.fields ["params", "ret"] allowance json
  return .function (← fields.required "params" (Decoder.list ty)) (← fields.required "ret" ty)

def decoderStep (ty : Decoder Ty) : Decoder Ty := fun allowance json => do
  let variant ← Decoder.variant allowance json
  match variant.name with
  | "Unit" => variant.constant .unit
  | "Nothing" => variant.constant .nothing
  | "Error" => variant.constant .error
  | "Builtin" => variant.holding (Decoder.map .primitive Primitive.decoder)
  | "Product" => variant.holding (Decoder.map .product Nominal.decoder)
  | "Existential" => variant.holding (Decoder.map .existential (Decoder.list Nominal.decoder))
  | "GenericParam" => variant.holding (Decoder.map .genericParam Nominal.decoder)
  | "Union" => variant.holding (Decoder.map .union (Decoder.list ty))
  | "Function" => variant.holding (functionDecoder ty)
  | "Inout" => variant.holding (Decoder.map .inout ty)
  | _ => none

def decoder : Decoder Ty := Decoder.recursive decoderStep

end Ty

def GenericEnv.toJson (env : GenericEnv) : Json :=
  .record [
    ("params", .list DeclId.toJson env.params),
    ("substitutions",
      .list (fun (param, ty) => .array [param.toJson, ty.toJson]) env.substitutions)]

def GenericEnv.decoder : Decoder GenericEnv := fun allowance json => do
  let fields ← Decoder.fields ["params", "substitutions"] allowance json
  let params ← fields.required "params" (Decoder.list DeclId.decoder)
  let substitutions ←
    fields.required "substitutions" (Decoder.list (Decoder.pair DeclId.decoder Ty.decoder))
  return ⟨params, substitutions⟩

def Position.toJson (position : Position) : Json :=
  .record [
    ("filename", .text position.file),
    ("line", .natural position.line.toNat),
    ("column", .natural position.column.toNat)]

def Position.decoder : Decoder Position := fun allowance json => do
  let fields ← Decoder.fields ["filename", "line", "column"] allowance json
  let file ← fields.required "filename" Decoder.string
  let line ← fields.required "line" Decoder.unsigned32
  return ⟨file, line, ← fields.required "column" Decoder.unsigned32⟩

def Span.toJson (span : Span) : Json :=
  .record [("start", span.start.toJson), ("end", span.stop.toJson)]

def Span.decoder : Decoder Span := fun allowance json => do
  let fields ← Decoder.fields ["start", "end"] allowance json
  return ⟨← fields.required "start" Position.decoder, ← fields.required "end" Position.decoder⟩

end Lowering
