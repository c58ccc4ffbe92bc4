import Lowering.IR.Function

/-
This file holds IR modules and their witness tables.
-/

namespace Lowering

namespace IR

/-- An entry names the thunk through which a requirement is called. -/
structure WitnessEntry where
  requirement : DeclId
  name : String
  function : String
deriving DecidableEq, Inhabited, Repr

/-- A witness table says how a type satisfies the requirements of a view. -/
structure WitnessTable where
  ty : Ty
  view : Nominal
  entries : List WitnessEntry
deriving DecidableEq, Inhabited, Repr

namespace WitnessTable

/-- The first entry of a requirement counts. -/
def entry? (table : WitnessTable) (requirement : DeclId) : Option WitnessEntry :=
  table.entries.find? (·.requirement = requirement)

def text (table : WitnessTable) : String :=
  s!"witness_table {table.ty.text}: {table.view.name} " ++ "\x7b\n" ++
    String.join (table.entries.map fun entry =>
      s!"  {table.view.name}.{entry.name}: @{entry.function}\n") ++ "\x7d\n"

end WitnessTable

/-- A module holds functions and witness tables, in the order of their creation. -/
structure Module where
  name : String
  functions : List Function
  witnessTables : List WitnessTable
deriving DecidableEq, Inhabited, Repr

namespace Module

def empty (name : String) : Module := ⟨name, [], []⟩

def function? (module : Module) (name : String) : Option Function :=
  module.functions.find? (·.name == name)

def addFunction (module : Module) (function : Function) : Module :=
  { module with functions := module.functions ++ [function] }

def addWitnessTable (module : Module) (table : WitnessTable) : Module :=
  { module with witnessTables := module.witnessTables ++ [table] }

/-- Changes the first function of the given name. -/
def modifyFunction (module : Module) (name : String) (change : Function → Function) : Module :=
  { module with functions := modifyFirst (·.name == name) change module.functions }

/-- A blank line stands before every function and every witness table. -/
def text (module : Module) : String :=
  s!"// module {module.name}\n" ++
    String.join (module.functions.map fun function => "\n" ++ function.text) ++
    String.join (module.witnessTables.map fun table => "\n" ++ table.text)

end Module

end IR

end Lowering
