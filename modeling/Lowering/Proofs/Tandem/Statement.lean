import Lowering.Proofs.Pass.Kinship
import Lowering.Proofs.Pass.Opening
import Lowering.Proofs.Program.Nesting
import Lowering.Proofs.Tandem.Expression

/-
This file lowers function bodies of two programs side by side, and thunks, and what is around them.
-/

namespace Lowering

open IR

namespace Tandem

variable {left right : Job} (tandem : Tandem left right)

section Body

variable {owner : DeclId}

theorem emitLocalVar (id : DeclId) :
    Accompanies tandem.toCoupling (Frame.emitLocalVar ⟨left, owner⟩ id)
      (Frame.emitLocalVar ⟨right, owner⟩ id) := by
  refine .decl_bind tandem.programs id fun decl peer _ _ same => ?_
  rw [tandem.contextualize, same.akin.ty]
  split
  · exact .bind (.bindLocal id _) fun _ => .pure _
  · cases same with
    | module => exact .abort_bind _ _ _
    | same =>
      cases decl.kind with
      | «variable» hasStorage =>
        cases hasStorage with
        | false => exact .abort_bind _ _ _
        | true =>
          refine .check_bind _ fun ty _ => ?_
          refine .bind (tandem.lift (tandem.allocStack ty)) fun location => ?_
          exact .bind (.bindLocal id location) fun _ => .pure _
      | _ => exact .abort_bind _ _ _

theorem emitBinding (binding : Binding) :
    Accompanies tandem.toCoupling (Frame.emitBinding ⟨left, owner⟩ binding)
      (Frame.emitBinding ⟨right, owner⟩ binding) := by
  refine .bind (.mapM _ fun id _ => tandem.emitLocalVar id) fun locations => ?_
  cases binding.initializer with
  | none => exact .pure _
  | some initializer =>
    dsimp only
    split
    · exact tandem.emitAssign initializer _
    · exact .discard (tandem.emitValue initializer)
    · exact .abort _

theorem emitReturn (value : Option Expr) :
    Accompanies tandem.toCoupling (Frame.emitReturn ⟨left, owner⟩ value)
      (Frame.emitReturn ⟨right, owner⟩ value) := by
  unfold Frame.emitReturn
  rw [tandem.routine, tandem.returnType, tandem.needsCoercion]
  refine .check_bind _ fun routine _ => ?_
  split
  · cases value with
    | some expr => exact .discard (tandem.emitValue expr)
    | none => exact .pure _
  · refine .check_bind _ fun result _ => ?_
    have returned (value : Value) := tandem.lift (tandem.ret value)
    cases value with
    | none => exact returned Value.unit
    | some expr =>
      refine .check_bind _ fun needed _ => ?_
      split
      · exact .bind (tandem.emitCoerced expr result) returned
      · exact .bind (tandem.emitValue expr) returned

theorem bindClosure (id : DeclId) :
    Accompanies tandem.toCoupling (Frame.bindClosure ⟨left, owner⟩ id)
      (Frame.bindClosure ⟨right, owner⟩ id) := by
  unfold Frame.bindClosure
  rw [tandem.programs.kindred.captures, tandem.contextualize]
  refine .ask_bind _ fun captures _ => ?_
  split
  · refine .decl_bind tandem.programs id fun decl peer _ _ same => ?_
    rw [same.akin.span, same.akin.ty]
    refine .bind (.mapM _ fun capture _ => tandem.emitReference capture decl.span) fun args => ?_
    refine .bind (.lift (tandem.declare id)) fun function => .check_bind _ fun ty _ => ?_
    refine .bind (tandem.lift (tandem.allocStack ty)) fun location => ?_
    refine .bind (tandem.lift (tandem.partialApply function args ty)) fun closure => ?_
    exact .bind (tandem.lift (tandem.store closure location)) fun _ => .bindLocal id location
  · exact .pure _

section Nested

variable {nested other : DeclId → PassM Unit}
  (below : ∀ id, Couples tandem.toCoupling (nested id) (other id))

include below

theorem emitLocalDecl (id : DeclId) :
    Accompanies tandem.toCoupling (Frame.emitLocalDecl ⟨left, owner⟩ nested id)
      (Frame.emitLocalDecl ⟨right, owner⟩ other id) := by
  refine .decl_bind tandem.programs id fun decl peer _ _ same => ?_
  cases same with
  | module => exact .abort _
  | same =>
    cases decl.kind with
    | binding binding => exact tandem.emitBinding binding
    | function routine =>
      dsimp only
      split
      · exact .bind (.lift (below id)) fun _ => tandem.bindClosure id
      · exact .pure _
    | product | view | abstractType | «alias» | typeExtension => exact .lift (below id)
    | module | imported | «variable» | parameter | genericParam => exact .abort _

omit below

mutual

theorem emitStmt (below : ∀ id, Couples tandem.toCoupling (nested id) (other id)) (stmt : Stmt)
    (sited : ∀ id ∈ stmt.locals, tandem.Sited id) :
    Accompanies tandem.toCoupling (Frame.emitStmt ⟨left, owner⟩ nested stmt)
      (Frame.emitStmt ⟨right, owner⟩ other stmt) := by
  cases stmt with
  | decl id => exact .bind (tandem.emitLocalDecl below id) fun _ => .pure _
  | block stmts span => exact emitStmts below stmts sited
  | returned value span => exact .bind (tandem.emitReturn value) fun _ => .pure _
  | expr expr => exact .bind (.discard (tandem.emitValue expr)) fun _ => .pure _

theorem emitStmts (below : ∀ id, Couples tandem.toCoupling (nested id) (other id))
    (stmts : List Stmt) (sited : ∀ id ∈ Stmt.localsAll stmts, tandem.Sited id) :
    Accompanies tandem.toCoupling (Frame.emitStmts ⟨left, owner⟩ nested stmts)
      (Frame.emitStmts ⟨right, owner⟩ other stmts) := by
  cases stmts with
  | nil => exact .pure _
  | cons stmt rest =>
    have first (id : DeclId) (inside : id ∈ stmt.locals) : tandem.Sited id :=
      sited id (List.mem_append_left _ inside)
    have later (id : DeclId) (inside : id ∈ Stmt.localsAll rest) : tandem.Sited id :=
      sited id (List.mem_append_right _ inside)
    refine .bind (emitStmt below stmt first) fun flow => ?_
    cases flow with
    | fallthrough => exact emitStmts below rest later
    | unreachable => exact .pure _
    | returned =>
      cases rest with
      | nil => exact .pure _
      | cons next others =>
        refine .bind (tandem.warn owner next fun id same => later id ?_) fun _ => .pure _
        simp [Stmt.localsAll, Stmt.locals, same]

end

end Nested

theorem emitConstructorEnd (routine : Routine) :
    Accompanies tandem.toCoupling (Frame.emitConstructorEnd routine)
      (Frame.emitConstructorEnd routine) := by
  unfold Frame.emitConstructorEnd
  cases routine.self with
  | none => exact .abort _
  | some self =>
    refine .local_bind self fun found => ?_
    cases found with
    | none => exact .abort _
    | some location =>
      exact .bind (tandem.lift (tandem.load location)) fun loaded =>
        tandem.lift (tandem.ret loaded)

theorem isTerminated : Accompanies tandem.toCoupling BodyM.isTerminated BodyM.isTerminated where
  excused before value after free done := by
    cases done
    exact free
  answers before peer related :=
    Or.inr ⟨_, peer, rfl, (tandem.terminated related.1).symm, related⟩

theorem emitEnd (body : Body) :
    Accompanies tandem.toCoupling (Frame.emitEnd ⟨left, owner⟩ body)
      (Frame.emitEnd ⟨right, owner⟩ body) := by
  unfold Frame.emitEnd
  rw [tandem.routine, tandem.returnType]
  refine .check_bind _ fun routine _ => ?_
  split
  · exact tandem.emitConstructorEnd routine
  · refine .bind tandem.isTerminated fun terminated => ?_
    split
    · exact .pure _
    · refine .check_bind _ fun result _ => ?_
      split
      · exact tandem.lift tandem.halt
      · exact tandem.lift (tandem.ret _)
      · exact .lift (tandem.report _ rfl)

theorem emitMemberStores (receiver : Value) (pairs : List (DeclId × DeclId)) :
    Accompanies tandem.toCoupling (Frame.emitMemberStores ⟨left, owner⟩ receiver pairs)
      (Frame.emitMemberStores ⟨right, owner⟩ receiver pairs) := by
  induction pairs with
  | nil => exact .pure _
  | cons pair rest rest_ih =>
    obtain ⟨var, param⟩ := pair
    refine .decl_bind tandem.programs var fun member peer _ _ same => ?_
    rw [same.akin.name, same.akin.ty, tandem.contextualize]
    refine .check_bind _ fun ty _ => ?_
    refine .bind (tandem.lift (tandem.recordMemberAddr receiver var member.name ty))
      fun address => .local_bind param fun found => ?_
    cases found with
    | none =>
      refine .decl_bind tandem.programs param fun decl peer _ _ same => ?_
      rw [same.akin.name]
      exact .abort_bind _ _ _
    | some value => exact .bind (tandem.lift (tandem.store value address)) fun _ => rest_ih

theorem emitSynthesized :
    Accompanies tandem.toCoupling (Frame.emitSynthesized ⟨left, owner⟩)
      (Frame.emitSynthesized ⟨right, owner⟩) := by
  refine .decl_bind tandem.programs owner fun decl peer _ _ same => ?_
  rw [tandem.routine, same.akin.kindText, same.akin.name, same.akin.parent]
  refine .check_bind _ fun routine _ => ?_
  dsimp only
  split
  · exact .abort_bind _ _ _
  · cases decl.parent with
    | none => exact .abort _
    | some parent =>
      refine .decl_bind tandem.programs parent fun outer peer found again same => ?_
      cases same with
      | module => exact .abort _
      | same =>
        have finished (receiver : Value) : Accompanies tandem.toCoupling
            (do
              let vars ← left.program.storedVars parent
              Frame.emitMemberStores ⟨left, owner⟩ receiver (vars.zip routine.params)
              BuildM.ret (← BuildM.load receiver))
            (do
              let vars ← right.program.storedVars parent
              Frame.emitMemberStores ⟨right, owner⟩ receiver (vars.zip routine.params)
              BuildM.ret (← BuildM.load receiver)) := by
          rw [tandem.programs.akin.storedVars found again]
          refine .ask_bind _ fun vars _ => ?_
          refine .bind (tandem.emitMemberStores receiver _) fun _ => ?_
          exact .bind (tandem.lift (tandem.load receiver)) fun loaded =>
            tandem.lift (tandem.ret loaded)
        cases outer.kind with
        | product =>
          dsimp only
          cases routine.self with
          | none => exact .abort_bind _ _ _
          | some self =>
            refine .local_bind self fun found => ?_
            cases found with
            | none => exact .abort_bind _ _ _
            | some receiver => exact finished receiver
        | _ => exact .abort _

theorem emitBody {nested other : DeclId → PassM Unit}
    (below : ∀ id, Couples tandem.toCoupling (nested id) (other id)) (routine : Routine)
    (sited : ∀ body, routine.body = some body →
      ∀ id ∈ Stmt.localsAll body.stmts, tandem.Sited id) :
    Accompanies tandem.toCoupling (Frame.emitBody ⟨left, owner⟩ nested routine)
      (Frame.emitBody ⟨right, owner⟩ other routine) := by
  unfold Frame.emitBody
  cases given : routine.body with
  | none => exact tandem.emitSynthesized
  | some body =>
    refine .bind (.discard (tandem.emitStmts below body.stmts (sited body given))) fun _ => ?_
    exact tandem.emitEnd body

end Body

theorem bindReceiver (name : String) (routine : Routine) (args : List Value) :
    Couples tandem.toCoupling (left.bindReceiver name routine args)
      (right.bindReceiver name routine args) := by
  unfold Job.bindReceiver
  cases routine.self with
  | none => exact .pure _
  | some self =>
    dsimp only
    split
    · cases args with
      | nil => exact .abort _
      | cons receiver rest => exact .pure _
    · split
      · refine .decl_bind tandem.programs self fun decl peer _ _ same => ?_
        rw [same.akin.ty]
        exact .bind (tandem.allocStack _) fun location => .pure _
      · exact .abort _

theorem bindEntry (id : DeclId) (routine : Routine) (name : String) (args : List Value) :
    Couples tandem.toCoupling (left.bindEntry id routine name args)
      (right.bindEntry id routine name args) := by
  unfold Job.bindEntry
  rw [tandem.programs.kindred.captures]
  refine .bind (tandem.bindReceiver name routine args) fun bound => .ask_bind _ fun captures _ => ?_
  rw [Job.bindArguments_of_kindred tandem.programs.kindred]
  exact .check _

section Thunk

theorem openReceiver (name : String) (requirement implementation : Routine) (container : Value) :
    Couples tandem.toCoupling (left.openReceiver name requirement implementation container)
      (right.openReceiver name requirement implementation container) := by
  unfold Job.openReceiver
  cases implementation.self with
  | none => exact .abort_bind _ _ _
  | some self =>
    refine .decl_bind tandem.programs self fun decl peer _ _ same => ?_
    simp only [pure_bind, same.akin.ty]
    split
    · refine .bind (tandem.openExistentialAddr container _) fun opened => ?_
      split
      · exact .pure _
      · exact tandem.load opened
    · split
      · exact .abort_bind _ _ _
      · exact tandem.openExistential container _

theorem packResult (result : Value) (resultType required : OperandType) :
    Couples tandem.toCoupling (Job.packResult result resultType required)
      (Job.packResult result resultType required) := by
  unfold Job.packResult
  split
  · refine .bind (tandem.allocStack _) fun slot => ?_
    refine .bind (tandem.assignValue result _ slot) fun _ => ?_
    exact tandem.load slot
  · exact .pure _

theorem relay (id : DeclId) (args : List Value) (required : OperandType) :
    Couples tandem.toCoupling (left.relay id args required) (right.relay id args required) := by
  unfold Job.relay
  rw [Job.signature_of_kindred tandem.programs.kindred]
  refine .bind (tandem.declare id) fun function => .check_bind _ fun own _ => ?_
  refine .bind (tandem.apply function args own.result) fun result => ?_
  exact .bind (tandem.packResult result own.result required) tandem.ret

theorem forward (name : String) (signature : Signature) (requirement implementation : Routine)
    (id : DeclId) (args : List Value) :
    Couples tandem.toCoupling (left.forward name signature requirement implementation id args)
      (right.forward name signature requirement implementation id args) := by
  unfold Job.forward
  split
  · exact tandem.relay id args signature.result
  · cases args with
    | nil => exact .abort_bind _ _ _
    | cons container rest =>
      refine .bind (tandem.openReceiver name requirement implementation container)
        fun receiver => ?_
      exact tandem.relay id (receiver :: rest) signature.result

end Thunk

end Tandem

end Lowering
