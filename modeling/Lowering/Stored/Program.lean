import Lowering.Program.Basic
import Lowering.Stored.Ty

/-
This file holds the stored form of a program.
-/

namespace Lowering

namespace Expr

mutual

def toJson : Expr → Json
  | .bool note value => noted note (.variant "BoolLiteral" (.bool value))
  | .int note value => noted note (.variant "IntLiteral" (.integer value.toInt))
  | .float note value => noted note (.variant "FloatLiteral" (.number value))
  | .string note value => noted note (.variant "StringLiteral" (.text value))
  | .ref note decl => noted note (.variant "DeclRef" decl.toJson)
  | .member note base id =>
    noted note (.variant "MemberRef" (.record [("base", toJson base), ("member", id.toJson)]))
  | .call note callee args =>
    noted note
      (.variant "Call" (.record [("callee", toJson callee), ("args", .array (toJsonAll args))]))
  | .assign note target value =>
    noted note
      (.variant "Assign" (.record [("target", toJson target), ("value", toJson value)]))
  | .addressOf note operand => noted note (.variant "AddrOf" (toJson operand))
  | .error note => noted note (.constant "Error")
where
  noted (note : Note) (kind : Json) : Json :=
    .record [("kind", kind), ("ty", note.ty.toJson), ("span", note.span.toJson)]

def toJsonAll : List Expr → List Json
  | [] => []
  | expr :: rest => toJson expr :: toJsonAll rest

end

/-- An expression of some kind that lacks its note, given a decoder for expressions. -/
def kindDecoder (expr : Decoder Expr) : Decoder (Note → Expr) := fun allowance json => do
  let variant ← Decoder.variant allowance json
  match variant.name with
  | "BoolLiteral" => variant.holding (Decoder.map (fun value note => .bool note value) Decoder.bool)
  | "IntLiteral" =>
    variant.holding (Decoder.map (fun value note => .int note value) Decoder.signed64)
  | "FloatLiteral" =>
    variant.holding (Decoder.map (fun value note => .float note value) Decoder.binary64)
  | "StringLiteral" =>
    variant.holding (Decoder.map (fun value note => .string note value) Decoder.string)
  | "DeclRef" => variant.holding (Decoder.map (fun id note => .ref note id) DeclId.decoder)
  | "MemberRef" => do
    let fields ← variant.fields ["base", "member"]
    let base ← fields.required "base" expr
    let member ← fields.required "member" DeclId.decoder
    return fun note => .member note base member
  | "Call" => do
    let fields ← variant.fields ["callee", "args"]
    let callee ← fields.required "callee" expr
    let args ← fields.required "args" (Decoder.list expr)
    return fun note => .call note callee args
  | "Assign" => do
    let fields ← variant.fields ["target", "value"]
    let target ← fields.required "target" expr
    let value ← fields.required "value" expr
    return fun note => .assign note target value
  | "AddrOf" => variant.holding (Decoder.map (fun operand note => .addressOf note operand) expr)
  | "Error" => variant.constant fun note => .error note
  | _ => none

def decoderStep (expr : Decoder Expr) : Decoder Expr := fun allowance json => do
  let fields ← Decoder.fields ["kind", "ty", "span"] allowance json
  let kind ← fields.required "kind" (kindDecoder expr)
  let ty ← fields.required "ty" Ty.decoder
  let span ← fields.required "span" Span.decoder
  return kind ⟨ty, span⟩

def decoder : Decoder Expr := Decoder.recursive decoderStep

end Expr

namespace Stmt

mutual

def toJson : Stmt → Json
  | .decl id => .variant "Decl" id.toJson
  | .block stmts span =>
    .variant "Brace" (.record [("stmts", .array (toJsonAll stmts)), ("span", span.toJson)])
  | .returned value span =>
    .variant "Return"
      (.record [("value", .optional Expr.toJson value), ("span", span.toJson)])
  | .expr value => .variant "Expr" value.toJson

def toJsonAll : List Stmt → List Json
  | [] => []
  | stmt :: rest => toJson stmt :: toJsonAll rest

end

/-- The statements of a block with its place, given a decoder for statements. -/
def blockDecoder (stmt : Decoder Stmt) : Decoder Body := fun allowance json => do
  let fields ← Decoder.fields ["stmts", "span"] allowance json
  return ⟨← fields.required "stmts" (Decoder.list stmt), ← fields.required "span" Span.decoder⟩

def returnDecoder : Decoder Stmt := fun allowance json => do
  let fields ← Decoder.fields ["value", "span"] allowance json
  return .returned (← fields.optional "value" Expr.decoder) (← fields.required "span" Span.decoder)

def decoderStep (stmt : Decoder Stmt) : Decoder Stmt := fun allowance json => do
  let variant ← Decoder.variant allowance json
  match variant.name with
  | "Decl" => variant.holding (Decoder.map .decl DeclId.decoder)
  | "Brace" =>
    variant.holding (Decoder.map (fun body => .block body.stmts body.span) (blockDecoder stmt))
  | "Return" => variant.holding returnDecoder
  | "Expr" => variant.holding (Decoder.map .expr Expr.decoder)
  | _ => none

def decoder : Decoder Stmt := Decoder.recursive decoderStep

end Stmt

def Body.toJson (body : Body) : Json :=
  .record [("stmts", .array (Stmt.toJsonAll body.stmts)), ("span", body.span.toJson)]

def Body.decoder : Decoder Body := Stmt.blockDecoder Stmt.decoder

namespace Pattern

mutual

def toJson : Pattern → Json
  | .named decl => .variant "Named" decl.toJson
  | .tuple elements => .variant "Tuple" (.array (toJsonAll elements))
  | .wildcard => .constant "Wildcard"

def toJsonAll : List Pattern → List Json
  | [] => []
  | pattern :: rest => toJson pattern :: toJsonAll rest

end

def decoderStep (pattern : Decoder Pattern) : Decoder Pattern := fun allowance json => do
  let variant ← Decoder.variant allowance json
  match variant.name with
  | "Named" => variant.holding (Decoder.map .named DeclId.decoder)
  | "Tuple" => variant.holding (Decoder.map .tuple (Decoder.list pattern))
  | "Wildcard" => variant.constant .wildcard
  | _ => none

def decoder : Decoder Pattern := Decoder.recursive decoderStep

end Pattern

def Binding.toJson (binding : Binding) : Json :=
  .record [
    ("is_member", .bool binding.isMember),
    ("is_mutable", .bool binding.isMutable),
    ("pattern", binding.pattern.toJson),
    ("initializer", .optional Expr.toJson binding.initializer)]

def Binding.decoder : Decoder Binding := fun allowance json => do
  let fields ←
    Decoder.fields ["is_member", "is_mutable", "pattern", "initializer"] allowance json
  return {
    isMember := ← fields.required "is_member" Decoder.bool
    isMutable := ← fields.required "is_mutable" Decoder.bool
    pattern := ← fields.required "pattern" Pattern.decoder
    initializer := ← fields.optional "initializer" Expr.decoder }

def RoutineKind.toJson : RoutineKind → Json
  | .regular => .constant "Regular"
  | .constructor => .constant "Ctor"
  | .builtin => .constant "Builtin"

def RoutineKind.decoder : Decoder RoutineKind := fun allowance json => do
  let variant ← Decoder.variant allowance json
  match variant.name with
  | "Regular" => variant.constant .regular
  | "Ctor" => variant.constant .constructor
  | "Builtin" => variant.constant .builtin
  | _ => none

def Routine.toJson (routine : Routine) : Json :=
  .record [
    ("kind", routine.kind.toJson),
    ("params", .list DeclId.toJson routine.params),
    ("body", .optional Body.toJson routine.body),
    ("self_decl", .optional DeclId.toJson routine.self),
    ("is_member", .bool routine.isMember),
    ("is_mutating", .bool routine.isMutating),
    ("is_synthesized", .bool routine.isSynthesized),
    ("generic_env", routine.env.toJson)]

def Routine.decoder : Decoder Routine := fun allowance json => do
  let fields ← Decoder.fields ["kind", "params", "body", "self_decl", "is_member", "is_mutating",
    "is_synthesized", "generic_env"] allowance json
  return {
    kind := ← fields.required "kind" RoutineKind.decoder
    params := ← fields.required "params" (Decoder.list DeclId.decoder)
    body := ← fields.optional "body" Body.decoder
    self := ← fields.optional "self_decl" DeclId.decoder
    isMember := ← fields.required "is_member" Decoder.bool
    isMutating := ← fields.required "is_mutating" Decoder.bool
    isSynthesized := ← fields.required "is_synthesized" Decoder.bool
    env := ← fields.required "generic_env" GenericEnv.decoder }

def ConformanceEntry.toJson (entry : ConformanceEntry) : Json :=
  .record [
    ("requirement", entry.requirement.toJson),
    ("implementation", entry.implementation.toJson)]

def ConformanceEntry.decoder : Decoder ConformanceEntry := fun allowance json => do
  let fields ← Decoder.fields ["requirement", "implementation"] allowance json
  let requirement ← fields.required "requirement" DeclId.decoder
  return ⟨requirement, ← fields.required "implementation" DeclId.decoder⟩

def Conformance.toJson (conformance : Conformance) : Json :=
  .record [
    ("view", conformance.view.toJson),
    ("entries", .list ConformanceEntry.toJson conformance.entries),
    ("span", conformance.span.toJson)]

def Conformance.decoder : Decoder Conformance := fun allowance json => do
  let fields ← Decoder.fields ["view", "entries", "span"] allowance json
  return {
    view := ← fields.required "view" DeclId.decoder
    entries := ← fields.required "entries" (Decoder.list ConformanceEntry.decoder)
    span := ← fields.required "span" Span.decoder }

namespace DeclKind

def membersJson (members : List DeclId) : String × Json :=
  ("members", .list DeclId.toJson members)

def conformancesJson (conformances : List Conformance) : String × Json :=
  ("conformances", .list Conformance.toJson conformances)

def toJson : DeclKind → Json
  | .module members => .variant "Module" (.record [membersJson members])
  | .imported => .constant "Import"
  | .binding bound => .variant "PatternBinding" bound.toJson
  | .variable hasStorage => .variant "Var" (.record [("has_storage", .bool hasStorage)])
  | .function routine => .variant "Fun" routine.toJson
  | .parameter label => .variant "FunParam" (.record [("label", .optional .text label)])
  | .product members conformances env =>
    .variant "ProductType"
      (.record [membersJson members, conformancesJson conformances, ("generic_env", env.toJson)])
  | .view members => .variant "ViewType" (.record [membersJson members])
  | .abstractType => .constant "AbstractType"
  | .alias aliased conformances =>
    .variant "AliasType"
      (.record [("aliased", aliased.toJson), conformancesJson conformances])
  | .typeExtension extended members =>
    .variant "TypeExtension" (.record [("extended", extended.toJson), membersJson members])
  | .genericParam => .constant "GenericParam"

/-- A record with one field. -/
def single {A B : Type} (name : String) (make : A → B) (decoder : Decoder A) : Decoder B :=
  fun allowance json => do
    let fields ← Decoder.fields [name] allowance json
    return make (← fields.required name decoder)

def idsDecoder : Decoder (List DeclId) := Decoder.list DeclId.decoder

def conformancesDecoder : Decoder (List Conformance) := Decoder.list Conformance.decoder

def parameterDecoder : Decoder DeclKind := fun allowance json => do
  let fields ← Decoder.fields ["label"] allowance json
  return .parameter (← fields.optional "label" Decoder.string)

def productDecoder : Decoder DeclKind := fun allowance json => do
  let fields ← Decoder.fields ["members", "conformances", "generic_env"] allowance json
  let members ← fields.required "members" idsDecoder
  let conformances ← fields.required "conformances" conformancesDecoder
  return .product members conformances (← fields.required "generic_env" GenericEnv.decoder)

def aliasDecoder : Decoder DeclKind := fun allowance json => do
  let fields ← Decoder.fields ["aliased", "conformances"] allowance json
  let aliased ← fields.required "aliased" Ty.decoder
  return .alias aliased (← fields.required "conformances" conformancesDecoder)

def extensionDecoder : Decoder DeclKind := fun allowance json => do
  let fields ← Decoder.fields ["extended", "members"] allowance json
  let extended ← fields.required "extended" DeclId.decoder
  return .typeExtension extended (← fields.required "members" idsDecoder)

def decoder : Decoder DeclKind := fun allowance json => do
  let variant ← Decoder.variant allowance json
  match variant.name with
  | "Module" => variant.holding (single "members" .module idsDecoder)
  | "Import" => variant.constant .imported
  | "PatternBinding" => variant.holding (Decoder.map .binding Binding.decoder)
  | "Var" => variant.holding (single "has_storage" .variable Decoder.bool)
  | "Fun" => variant.holding (Decoder.map .function Routine.decoder)
  | "FunParam" => variant.holding parameterDecoder
  | "ProductType" => variant.holding productDecoder
  | "ViewType" => variant.holding (single "members" .view idsDecoder)
  | "AbstractType" => variant.constant .abstractType
  | "AliasType" => variant.holding aliasDecoder
  | "TypeExtension" => variant.holding extensionDecoder
  | "GenericParam" => variant.constant .genericParam
  | _ => none

end DeclKind

def Decl.toJson (decl : Decl) : Json :=
  .record [
    ("name", .text decl.name),
    ("kind", decl.kind.toJson),
    ("ty", decl.ty.toJson),
    ("parent", .optional DeclId.toJson decl.parent),
    ("span", decl.span.toJson)]

def Decl.decoder : Decoder Decl := fun allowance json => do
  let fields ← Decoder.fields ["name", "kind", "ty", "parent", "span"] allowance json
  return {
    name := ← fields.required "name" Decoder.string
    kind := ← fields.required "kind" DeclKind.decoder
    ty := ← fields.required "ty" Ty.decoder
    parent := ← fields.optional "parent" DeclId.decoder
    span := ← fields.required "span" Span.decoder }

def Program.toJson (program : Program) : Json :=
  .record [("decls", .list Decl.toJson program.decls.toList)]

def Program.decoder : Decoder Program := fun allowance json => do
  let fields ← Decoder.fields ["decls"] allowance json
  return ⟨(← fields.required "decls" (Decoder.list Decl.decoder)).toArray⟩

end Lowering
