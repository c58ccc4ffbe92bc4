import Lowering.Proofs.Stored.Module
import Lowering.Proofs.Stored.Program

/-
This file shows that storing a module, a program or the options of a pass loses nothing.
-/

namespace Lowering

/--
A text that nests no deeper than a reader goes gives back the value that it was written for.
Modules are stored over several lines, and programs and options in either form.
-/
theorem stored_recovered :
    (∀ module : IR.Module, module.Storable → module.toJson.depth ≤ 127 →
      IR.Module.decoder.readText module.storedText = some module) ∧
    (∀ program : Program, program.Storable → program.toJson.depth ≤ 127 →
      Program.decoder.readText program.toJson.compact = some program ∧
        Program.decoder.readText (program.toJson.pretty 0) = some program) ∧
    ∀ options : Options, Options.decoder.readText options.toJson.compact = some options ∧
      Options.decoder.readText (options.toJson.pretty 0) = some options := by
  refine ⟨fun module storable shallow => ?_, fun program storable shallow => ?_, fun options => ?_⟩
  · exact ((IR.Module.recovers storable).readText shallow).2 0
  · have recovered := (Program.recovers storable).readText shallow
    exact ⟨recovered.1, recovered.2 0⟩
  · have shallow : options.toJson.depth ≤ Allowance.text.levels := by
      simp [Options.toJson, Json.record, Json.depth, Json.depthOfMembers, Json.text,
        Allowance.text]
    have recovered := options.recovers.readText shallow
    exact ⟨recovered.1, recovered.2 0⟩

namespace keeping

open IR

/-- Quotes, a backslash, a tab, a control character and characters beyond ASCII. -/
def name : String := "a \"b\\\t\x01 ß 😀"

/-- A number that is not whole and one below zero with an exponent. -/
def numbers : List Binary64 := [⟨0x3FF8000000000000⟩, ⟨0xBEB0C6F7A0B5ED8D⟩]

def ty : Ty := .function [.existential [⟨⟨1⟩, name⟩], .inout (.union [.int, .error])] .nothing

def module : Module where
  name := name
  functions := [⟨"main", ⟨[.address ty], .unit⟩,
    [⟨0, [(0, .address ty)], [.allocStack 1 ty,
      .recordMemberAddr 2 (.temp 1 (.address ty)) ⟨3⟩ name (.address .double),
      .store (.float ⟨0x3FF8000000000000⟩) (.temp 2 (.address .double)),
      .partialApply 3 (.function "main" ty) [.int (-5), .string name, .error .error] (.object ty),
      .halt]⟩], ⟨4⟩, ⟨1⟩⟩, ⟨"put", ⟨[], .unit⟩, [], ⟨0⟩, ⟨0⟩⟩]
  witnessTables := [⟨ty, ⟨⟨1⟩, "View"⟩, [⟨⟨2⟩, "get", "main"⟩]⟩]

def program : Program where
  decls := #[⟨"main", .function ⟨.regular, [⟨1⟩], some ⟨[.decl ⟨2⟩, .block [.returned
      (some (.call ⟨.int, Span.unknown⟩ (.ref ⟨ty, Span.unknown⟩ ⟨0⟩)
        [.float ⟨.double, Span.unknown⟩ ⟨0xBEB0C6F7A0B5ED8D⟩,
          .string ⟨.string, Span.unknown⟩ name]))
      Span.unknown] Span.unknown], Span.unknown⟩, none, false, true, false,
      ⟨[⟨3⟩], [(⟨3⟩, ty)]⟩⟩, ty, none, Span.unknown⟩,
    ⟨"x", .parameter none, .int, some ⟨0⟩, Span.unknown⟩,
    ⟨"y", .binding ⟨false, true, .tuple [.named ⟨2⟩, .wildcard], none⟩, .int, some ⟨0⟩,
      Span.unknown⟩]

theorem number_storable {number : Binary64} (within : number ∈ numbers) : number.Storable := by
  have each : ∀ number ∈ numbers, number.isFinite = true ∧
      Decoder.binary64.readText (Json.number number).compact = some number := by
    decide +kernel
  exact each number within

theorem ty_storable : ty.Storable := by
  simp [ty, Ty.Storable, Ty.StorableAll, Nominal.Storable, DeclId.Storable, UInt32.size, Ty.int]

theorem module_storable : module.Storable := by
  have first := number_storable List.mem_cons_self
  simp [module, Module.Storable, Function.Storable, Signature.Storable, OperandType.Storable,
    OperandType.address, OperandType.object, OperandType.error, OperandType.unit,
    Block.Storable, Instruction.Storable, Value.Storable, ValueKind.Storable, Value.temp,
    Value.float, Value.function, Value.int, Value.string, Value.error, Counter.Storable,
    WitnessTable.Storable, WitnessEntry.Storable, Nominal.Storable, DeclId.Storable, UInt32.size,
    Ty.Storable, Ty.double, Ty.int, Ty.string, ty_storable, first]

theorem program_storable : program.Storable := by
  have second := number_storable (List.mem_cons_of_mem _ List.mem_cons_self)
  simp [program, Program.Storable, Decl.Storable, DeclKind.Storable, Routine.Storable,
    Body.Storable, Stmt.Storable, Stmt.StorableAll, Expr.Storable, Expr.StorableAll, Note.Storable,
    Binding.Storable, Pattern.Storable, Pattern.StorableAll, GenericEnv.Storable, DeclId.Storable,
    UInt32.size, Ty.Storable, Ty.double, Ty.int, Ty.string, ty_storable, second]

end keeping

open keeping in
theorem stored_recovered_keeping :
    (module.Storable ∧ module.toJson.depth ≤ 127 ∧
      IR.Module.decoder.readText module.storedText = some module) ∧
    (program.Storable ∧ program.toJson.depth ≤ 127 ∧
      Program.decoder.readText program.toJson.compact = some program ∧
        Program.decoder.readText (program.toJson.pretty 0) = some program) ∧
    Options.decoder.readText (Options.toJson ⟨name, false⟩).compact = some ⟨name, false⟩ := by
  have module_shallow : module.toJson.depth ≤ 127 := by decide +kernel
  have program_shallow : program.toJson.depth ≤ 127 := by decide +kernel
  exact ⟨⟨module_storable, module_shallow,
      stored_recovered.1 module module_storable module_shallow⟩,
    ⟨program_storable, program_shallow,
      stored_recovered.2.1 program program_storable program_shallow⟩,
    (stored_recovered.2.2 ⟨name, false⟩).1⟩

end Lowering
