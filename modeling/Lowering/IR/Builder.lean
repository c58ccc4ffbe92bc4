import Lowering.IR.Module

/-
This file builds IR modules, instruction by instruction, at an insertion point.
A step that fails keeps what it did before: a temporary that was taken stays taken.
-/

namespace Lowering

namespace IR

/-- An insertion point names the function and the block that receive instructions. -/
structure Cursor where
  function : String
  block : LabelId
deriving DecidableEq, Inhabited, Repr

/-- A builder owns the module under construction. -/
structure Builder where
  module : Module
  cursor : Option Cursor
deriving DecidableEq, Inhabited, Repr

/-- The ways to misuse a builder. -/
inductive BuildError where
  | noInsertionPoint
  | unknownFunction (name : String)
  | unknownBlock (function : String) (block : LabelId)
  | blockTerminated (function : String) (block : LabelId)
  | notAnAddress (opcode : String) (operand : Value)
  | signatureMismatch (name : String) (existing requested : Signature)
deriving DecidableEq, Inhabited, Repr

def BuildError.message : BuildError → String
  | .noInsertionPoint => "No insertion point"
  | .unknownFunction name => s!"Unknown function '{name}'"
  | .unknownBlock function block => s!"Unknown block bb{block} in function '{function}'"
  | .blockTerminated function block =>
    s!"Block bb{block} of function '{function}' is already terminated"
  | .notAnAddress opcode operand => s!"Operand {operand.text} of {opcode} must be an address"
  | .signatureMismatch name existing requested =>
    s!"Function '{name}' redeclared with signature {requested.text}, previously {existing.text}"

/-- A building step keeps the builder when it fails. -/
abbrev BuildM := EStateM BuildError Builder

namespace Builder

def empty (name : String) : Builder := ⟨Module.empty name, none⟩

def modifyModule (change : Module → Module) (builder : Builder) : Builder :=
  { builder with module := change builder.module }

/-- The block at the insertion point. -/
def currentBlock (builder : Builder) : Except BuildError Block :=
  match builder.cursor with
  | none => .error .noInsertionPoint
  | some cursor =>
    match builder.module.function? cursor.function with
    | none => .error (.unknownFunction cursor.function)
    | some function =>
      match function.block? cursor.block with
      | none => .error (.unknownBlock cursor.function cursor.block)
      | some block => .ok block

/-- Without a block at the insertion point there is nothing that could be terminated. -/
def isTerminated (builder : Builder) : Bool :=
  match builder.currentBlock with
  | .ok block => block.isTerminated
  | .error _ => false

end Builder

namespace BuildM

/-- The function of the given name must be in the module. -/
def requireFunction (name : String) : BuildM Function := do
  match (← get).module.function? name with
  | some function => return function
  | none => throw (.unknownFunction name)

def requireCursor : BuildM Cursor := do
  match (← get).cursor with
  | some cursor => return cursor
  | none => throw .noInsertionPoint

/-- Changes the function of the given name. -/
def modifyFunction (name : String) (change : Function → Function) : BuildM Unit :=
  modify (Builder.modifyModule (Module.modifyFunction · name change))

/--
A function is created when it is first asked for. Asking for it again with another signature is a
mistake.
-/
def getOrCreateFunction (name : String) (signature : Signature) : BuildM Value := do
  match (← get).module.function? name with
  | some existing =>
    if existing.signature ≠ signature then
      throw (.signatureMismatch name existing.signature signature)
  | none =>
    modify (Builder.modifyModule (Module.addFunction · (Function.declared name signature)))
  return Value.function name signature.funType

def functionRef (name : String) : BuildM Value := do
  return Value.function name (← requireFunction name).signature.funType

/-- Appends a block to a function and returns its label and its parameters. -/
def createBlock (name : String) (params : List OperandType) : BuildM (LabelId × List Value) := do
  let (block, function) := (← requireFunction name).addBlock params
  modifyFunction name fun _ => function
  return (block.label, block.paramValues)

def setCursor (cursor : Option Cursor) : BuildM Unit :=
  modify fun builder => { builder with cursor := cursor }

def positionAtEnd (function : String) (block : LabelId) : BuildM Unit :=
  setCursor (some ⟨function, block⟩)

def addWitnessTable (table : WitnessTable) : BuildM Unit :=
  modify (Builder.modifyModule (Module.addWitnessTable · table))

/-- Takes a fresh temporary of the function at the insertion point. -/
def takeTemp : BuildM TempId := do
  let cursor ← requireCursor
  let (id, function) := (← requireFunction cursor.function).takeTemp
  modifyFunction cursor.function fun _ => function
  return id

/-- Appends an instruction at the insertion point, unless the block there is terminated. -/
def append (instruction : Instruction) : BuildM Unit := do
  let cursor ← requireCursor
  let function ← requireFunction cursor.function
  match function.block? cursor.block with
  | none => throw (.unknownBlock cursor.function cursor.block)
  | some block =>
    if block.isTerminated then throw (.blockTerminated cursor.function cursor.block)
    modifyFunction cursor.function (Function.modifyBlock · cursor.block (Block.add · instruction))

/-- The error value is accepted wherever an address is expected. -/
def requireAddress (opcode : String) (value : Value) : BuildM Unit :=
  if value.isAddress || value.isError then pure () else throw (.notAnAddress opcode value)

/-- Appends an instruction that defines a fresh temporary, and returns its result. -/
def define (type : OperandType) (instruction : TempId → Instruction) : BuildM Value := do
  let result ← takeTemp
  append (instruction result)
  return Value.temp result type

def allocStack (ty : Ty) : BuildM Value := define (.address ty) fun result => .allocStack result ty

def allocExistential (container : Value) (witness : Ty) : BuildM Value := do
  requireAddress "alloc_existential" container
  define (.address witness) fun result => .allocExistential result container witness

def load (location : Value) : BuildM Value := do
  requireAddress "load" location
  define location.type.asObject fun result => .load result location location.type.asObject

def store (value location : Value) : BuildM Unit := do
  requireAddress "store" location
  append (.store value location)

def copyAddr (source dest : Value) : BuildM Unit := do
  requireAddress "copy_addr" source
  requireAddress "copy_addr" dest
  append (.copyAddr source dest)

def unsafeCastAddr (source : Value) (target : Ty) : BuildM Value := do
  requireAddress "unsafe_cast_addr" source
  define (.address target) fun result => .unsafeCastAddr result source (.address target)

def recordMemberAddr (record : Value) (member : DeclId) (name : String) (ty : Ty) :
    BuildM Value := do
  requireAddress "record_member_addr" record
  define (.address ty) fun result => .recordMemberAddr result record member name (.address ty)

def apply (function : Value) (args : List Value) (type : OperandType) : BuildM Value :=
  define type fun result => .apply result function args type

def partialApply (function : Value) (args : List Value) (ty : Ty) : BuildM Value :=
  define (.object ty) fun result => .partialApply result function args (.object ty)

def openExistential (container : Value) (ty : Ty) : BuildM Value :=
  define (.object ty) fun result => .openExistential result container (.object ty)

def openExistentialAddr (container : Value) (ty : Ty) : BuildM Value := do
  requireAddress "open_existential_addr" container
  define (.address ty) fun result => .openExistentialAddr result container (.address ty)

def ret (value : Value) : BuildM Unit := append (.ret value)

def halt : BuildM Unit := append .halt

/--
Stores a value of the given type at a location. A concrete value is packed into an existential
location, and an existential value of another type is copied into it through a cast address.
-/
def assignValue (value : Value) (ty : Ty) (location : Value) : BuildM Unit := do
  let target := location.type.ty
  if location.isError then pure ()
  else if value.isError || ty = target || (ty.isUnion && target.isUnion) then store value location
  else if target.isExistential && ty.isExistential then
    let temporary ← allocStack ty
    store value temporary
    let source ← unsafeCastAddr temporary target
    copyAddr source location
  else if target.isExistential then
    let slot ← allocExistential location ty
    store value slot
  else store value location

end BuildM

end IR

end Lowering
