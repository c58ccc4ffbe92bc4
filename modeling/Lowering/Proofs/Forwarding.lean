import Lowering.Proofs.IR.Drafting
import Lowering.Proofs.Pass.Continuing
import Lowering.Proofs.Pass.Opening

/-
This file follows the block of a thunk: the receiver is opened, the implementation is called with
the other arguments as they are, and the result is returned, from a container if the requirement asks
for one.
-/

namespace Lowering

open IR

/-- The type that the receiver of a function has once it is out of a container. -/
def Program.ReceiverType (program : Program) (routine : Routine) (ty : Ty) : Prop :=
  ∃ self decl, routine.self = some self ∧ program.decl self = .ok decl ∧ ty = decl.ty.base

/--
How the arguments of a requirement become those of its implementation. A constructor has no receiver
to open, and the receiver of a mutating requirement is opened in place.
-/
inductive Program.Opens (program : Program) (required implementing : Routine) :
    List Value → List Instruction → List Value → Prop
  | constructor (made : required.isConstructor = true) (args : List Value) :
    Opens program required implementing args [] args
  | value {ty : Ty} (member : required.isConstructor = false)
      (reading : required.isMutating = false) (pure : implementing.isMutating = false)
      (receives : program.ReceiverType implementing ty) (container : Value) (rest : List Value)
      (opened : TempId) :
    Opens program required implementing (container :: rest)
      [.openExistential opened container (.object ty)] (.temp opened (.object ty) :: rest)
  | address {ty : Ty} (member : required.isConstructor = false)
      (mutating : required.isMutating = true) (writing : implementing.isMutating = true)
      (receives : program.ReceiverType implementing ty) (container : Value) (rest : List Value)
      (opened : TempId) :
    Opens program required implementing (container :: rest)
      [.openExistentialAddr opened container (.address ty)] (.temp opened (.address ty) :: rest)
  | loaded {ty : Ty} (member : required.isConstructor = false)
      (mutating : required.isMutating = true) (pure : implementing.isMutating = false)
      (receives : program.ReceiverType implementing ty) (container : Value) (rest : List Value)
      (opened object : TempId) :
    Opens program required implementing (container :: rest)
      [.openExistentialAddr opened container (.address ty),
        .load object (.temp opened (.address ty)) (.object ty)]
      (.temp object (.object ty) :: rest)

/-- How a value gets into a container of the given type. -/
inductive IR.Stores (value : Value) (ty container : Ty) (slot : Value) : List Instruction → Prop
  | packed (concrete : ty.isExistential = false) (inner : TempId) :
    Stores value ty container slot
      [.allocExistential inner slot ty, .store value (.temp inner (.address ty))]
  | copied (contained : ty.isExistential = true) (temporary source : TempId) :
    Stores value ty container slot
      [.allocStack temporary ty, .store value (.temp temporary (.address ty)),
        .unsafeCastAddr source (.temp temporary (.address ty)) (.address container),
        .copyAddr (.temp source (.address container)) slot]

/-- How the result of an implementation becomes that of its requirement. -/
inductive IR.Packs (value : Value) (ty : Ty) (required : OperandType) :
    List Instruction → Value → Prop
  | same (suits : ty = required.ty ∨ required.isExistential = false) :
    Packs value ty required [] value
  | stored {stores : List Instruction} (differs : ty ≠ required.ty)
      (contained : required.isExistential = true) (slot result : TempId)
      (into : Stores value ty required.ty (.temp slot (.address required.ty)) stores) :
    Packs value ty required
      (.allocStack slot required.ty :: stores ++
        [.load result (.temp slot (.address required.ty)) (.object required.ty)])
      (.temp result (.object required.ty))

/--
The block calls the function of the implementation once: before the call it opens the receiver, and
after it, it returns the result.
-/
def Job.Forwards (job : Job) (pass : Pass) (required implementing : Routine)
    (implementation : DeclId) (result : OperandType) (block : Block) : Prop :=
  ∃ function signature opening args applied packing returned,
    job.Declared pass implementation function ∧ job.signature implementation = .ok signature ∧
    job.program.Opens required implementing block.paramValues opening args ∧
    Packs (.temp applied signature.result) signature.result.ty result packing returned ∧
    block.instructions = opening ++
      .apply applied function args signature.result :: (packing ++ [.ret returned])

namespace Job.Forwards

variable {job : Job} {before after : Pass} {required implementing : Routine} {id : DeclId}
  {result : OperandType} {block : Block}

/-- The block of a thunk ends in its return. -/
theorem isTerminated (forwards : job.Forwards before required implementing id result block) :
    block.isTerminated = true := by
  obtain ⟨_, _, _, _, _, _, returned, _, _, _, _, listing⟩ := forwards
  rw [← List.cons_append, ← List.append_assoc] at listing
  rw [Block.isTerminated, listing, List.getLast?_concat]
  rfl

theorem of_carries (forwards : job.Forwards before required implementing id result block)
    (carries : before.Carries after) :
    job.Forwards after required implementing id result block := by
  obtain ⟨function, signature, opening, args, applied, packing, returned, declared, rest⟩ := forwards
  exact ⟨function, signature, opening, args, applied, packing, returned,
    declared.of_carries carries, rest⟩

end Job.Forwards

section Steps

variable {job : Job} {before after : Pass} {name : String} {signature : Signature}
  {params : List (TempId × OperandType)} {instructions : List Instruction}

/-- The receiver of a requirement is opened. -/
theorem Job.run_openReceiver {required implementing : Routine} {container receiver : Value}
    (rest : List Value) (member : required.isConstructor = false)
    (drafts : before.builder.Drafts name signature params instructions)
    (done : job.openReceiver name required implementing container before = .ok receiver after) :
    ∃ opening, job.program.Opens required implementing (container :: rest) opening
        (receiver :: rest) ∧
      after.builder.Drafts name signature params (instructions ++ opening) := by
  unfold openReceiver at done
  cases given : implementing.self with
  | none =>
    rw [given] at done
    obtain ⟨_, _, aborted, _⟩ := (run_bind _ _ _ _ _).mp done
    exact ((run_check_abort _ _ _ _).mp aborted).elim
  | some self =>
    simp only [given, pure_bind] at done
    obtain ⟨decl, asked, done⟩ := (run_check_bind _ _ _ _ _).mp done
    have receives : job.program.ReceiverType implementing decl.ty.base :=
      ⟨self, decl, given, (lift_answer _ _).mp asked, rfl⟩
    split at done
    next mutating =>
      obtain ⟨_, _, ran, done⟩ := (run_bind _ _ _ _ _).mp done
      obtain ⟨builder, opened, rfl⟩ := (lift_build _ _ _ _).mp ran
      obtain ⟨id, rfl, drafts⟩ :=
        drafts.define (fun _ => rfl) (BuildM.run_requireAddress_bind opened)
      split at done
      next writing =>
        obtain ⟨rfl, rfl⟩ := (run_pure _ _ _ _).mp done
        exact ⟨_, .address member mutating writing receives container rest id, drafts⟩
      next reading =>
        obtain ⟨last, loaded, rfl⟩ := (lift_build _ _ _ _).mp done
        obtain ⟨object, rfl, drafts⟩ :=
          drafts.define (fun _ => rfl) (BuildM.run_requireAddress_bind loaded)
        rw [List.append_assoc] at drafts
        exact ⟨_, .loaded member mutating (by simpa using reading) receives container rest id object,
          drafts⟩
    next reading =>
      split at done
      next =>
        obtain ⟨_, _, aborted, _⟩ := (run_bind _ _ _ _ _).mp done
        exact ((run_check_abort _ _ _ _).mp aborted).elim
      next pure =>
        obtain ⟨builder, opened, rfl⟩ := (lift_build _ _ _ _).mp done
        obtain ⟨id, rfl, drafts⟩ := drafts.define (fun _ => rfl) opened
        exact ⟨_, .value member (by simpa using reading) (by simpa using pure) receives container
          rest id, drafts⟩

/-- A value that is not of the container's type is stored into the container. -/
theorem IR.Builder.Drafts.assignValue {builder last : Builder} {id slot : TempId}
    {own : OperandType} {ty container : Ty} (differs : ty ≠ container)
    (contained : container.isExistential = true)
    (drafts : builder.Drafts name signature params instructions)
    (done : BuildM.assignValue (.temp id own) ty (.temp slot (.address container)) builder =
      .ok () last) :
    ∃ stores, Stores (.temp id own) ty container (.temp slot (.address container)) stores ∧
      last.Drafts name signature params (instructions ++ stores) := by
  have single : container.isUnion = false := by
    cases container <;> simp_all [Ty.isExistential, Ty.isUnion]
  have target : (Value.temp slot (.address container)).type.ty = container := rfl
  have sound (id : TempId) (type : OperandType) : (Value.temp id type).isError = false := rfl
  unfold BuildM.assignValue at done
  simp only [target, sound, single, differs, contained, Bool.and_false, Bool.or_false,
    Bool.false_eq_true, decide_false, if_false, Bool.true_and, if_true] at done
  split at done
  next both =>
    obtain ⟨_, _, allocated, done⟩ := (run_bind _ _ _ _ _).mp done
    obtain ⟨temporary, rfl, drafts⟩ := drafts.define (fun _ => rfl) allocated
    obtain ⟨_, _, stored, done⟩ := (run_bind _ _ _ _ _).mp done
    have drafts := drafts.append rfl (BuildM.run_requireAddress_bind stored)
    obtain ⟨_, _, cast, done⟩ := (run_bind _ _ _ _ _).mp done
    obtain ⟨source, rfl, drafts⟩ :=
      drafts.define (fun _ => rfl) (BuildM.run_requireAddress_bind cast)
    have copied := BuildM.run_requireAddress_bind (BuildM.run_requireAddress_bind done)
    have drafts := drafts.append rfl copied
    simp only [List.append_assoc, List.cons_append, List.nil_append] at drafts
    exact ⟨_, .copied both temporary source, drafts⟩
  next concrete =>
    obtain ⟨_, _, allocated, done⟩ := (run_bind _ _ _ _ _).mp done
    obtain ⟨inner, rfl, drafts⟩ :=
      drafts.define (fun _ => rfl) (BuildM.run_requireAddress_bind allocated)
    have drafts := drafts.append rfl (BuildM.run_requireAddress_bind done)
    rw [List.append_assoc] at drafts
    exact ⟨_, .packed (by simpa using concrete) inner, drafts⟩

/-- The result is packed into a container if the requirement asks for one. -/
theorem Job.run_packResult {id : TempId} {own resultType required : OperandType} {value : Value}
    (drafts : before.builder.Drafts name signature params instructions)
    (done : Job.packResult (.temp id own) resultType required before = .ok value after) :
    ∃ packing, Packs (.temp id own) resultType.ty required packing value ∧
      after.builder.Drafts name signature params (instructions ++ packing) := by
  unfold Job.packResult at done
  split at done
  next asked =>
    obtain ⟨differs, contained⟩ : resultType.ty ≠ required.ty ∧ required.isExistential = true := by
      simpa using asked
    obtain ⟨_, _, ran, done⟩ := (run_bind _ _ _ _ _).mp done
    obtain ⟨builder, allocated, rfl⟩ := (lift_build _ _ _ _).mp ran
    obtain ⟨slot, rfl, drafts⟩ := drafts.define (fun _ => rfl) allocated
    obtain ⟨_, _, ran, done⟩ := (run_bind _ _ _ _ _).mp done
    obtain ⟨builder, assigned, rfl⟩ := (lift_build _ _ _ _).mp ran
    obtain ⟨stores, into, drafts⟩ := drafts.assignValue differs contained assigned
    obtain ⟨builder, loaded, rfl⟩ := (lift_build _ _ _ _).mp done
    obtain ⟨result, rfl, drafts⟩ :=
      drafts.define (fun _ => rfl) (BuildM.run_requireAddress_bind loaded)
    have object : (Value.temp slot (.address required.ty)).type.asObject = .object required.ty := rfl
    refine ⟨_, .stored differs contained slot result into, ?_⟩
    simpa only [object, List.append_assoc, List.cons_append, List.nil_append] using drafts
  next plain =>
    obtain ⟨rfl, rfl⟩ := (run_pure _ _ _ _).mp done
    refine ⟨[], .same ?_, by simpa using drafts⟩
    by_cases same : resultType.ty = required.ty
    · exact Or.inl same
    · exact Or.inr (by simpa [same] using plain)

/-- The call, and what follows it, when the receiver is there. -/
theorem Job.run_relay {id : DeclId} {args : List Value} {expected : OperandType}
    (plain : job.program.PlainNames) (distinct : before.names.Distinct job.program)
    (drafts : before.builder.Drafts name signature params instructions)
    (done : job.relay id args expected before = .ok () after) :
    ∃ function own applied packing returned filled block,
      job.Declared after id function ∧ job.signature id = .ok own ∧
      Packs (.temp applied own.result) own.result.ty expected packing returned ∧
      after.builder.module.function? name = some filled ∧ filled.signature = signature ∧
      filled.entry? = some block ∧ block.params = params ∧
      block.instructions = instructions ++
        .apply applied function args own.result :: (packing ++ [.ret returned]) := by
  obtain ⟨function, middle, declares, done⟩ := (run_bind _ _ _ _ _).mp done
  have declared := Job.run_declare declares
  have drafts : middle.builder.Drafts name signature params instructions := by
    obtain ⟨_, _, lifted, declares⟩ := (run_bind _ _ _ _ _).mp declares
    obtain ⟨_, _, rfl⟩ := (lift_names _ _ _ _).mp lifted
    obtain ⟨_, _, declares⟩ := (run_check_bind _ _ _ _ _).mp declares
    obtain ⟨_, created, rfl⟩ := (lift_build _ _ _ _).mp declares
    exact drafts.getOrCreate created
  -- What was declared is still there when the block is done.
  let going := continuing job plain
  have start : (going before).Holds middle :=
    (((going before).keeps_declare id).ok before function middle (.refl distinct) declares).1
  obtain ⟨own, signed, done⟩ := (run_check_bind _ _ _ _ _).mp done
  obtain ⟨result, called, applied, done⟩ := (run_bind _ _ _ _ _).mp done
  obtain ⟨returned, packed, packing, ends⟩ := (run_bind _ _ _ _ _).mp done
  have goes := ((going middle).keeps_apply function args own.result).ok middle result called
    (.refl start.distinct) applied
  have goes := ((going middle).keeps_packResult result own.result expected).ok called returned
    packed goes.1 packing
  have goes := ((going middle).keeps_ret returned).ok packed () after goes.1 ends
  obtain ⟨builder, ran, rfl⟩ := (lift_build _ _ _ _).mp applied
  obtain ⟨id, rfl, drafts⟩ := drafts.define (fun _ => rfl) ran
  obtain ⟨instructions, packs, drafts⟩ := Job.run_packResult drafts packing
  obtain ⟨builder, ended, rfl⟩ := (lift_build _ _ _ _).mp ends
  obtain ⟨filled, block, present, typed, entry, same, listing⟩ := drafts.terminate ended
  refine ⟨function, own, id, instructions, returned, filled, block,
    declared.of_carries goes.1.carries, signed, packs, present, typed, entry, same, ?_⟩
  simpa only [List.append_assoc, List.cons_append, List.nil_append] using listing

/-- A thunk without a block forwards to its implementation once it is filled. -/
theorem Job.run_forward {required implementing : Routine} {id : DeclId}
    (plain : job.program.PlainNames) (distinct : before.names.Distinct job.program)
    (drafts : before.builder.Drafts name signature params [])
    (done : job.forward name signature required implementing id
      (params.map fun (id, type) => Value.temp id type) before = .ok () after) :
    ∃ filled block, after.builder.module.function? name = some filled ∧
      filled.signature = signature ∧ filled.entry? = some block ∧ block.params = params ∧
      job.Forwards after required implementing id signature.result block := by
  unfold forward at done
  split at done
  next made =>
    rw [pure_bind] at done
    obtain ⟨function, own, applied, packing, returned, filled, block, declared, signed, packs,
      present, typed, entry, rfl, listing⟩ := run_relay plain distinct drafts done
    exact ⟨filled, block, present, typed, entry, rfl, function, own, [], _, applied, packing,
      returned, declared, signed, .constructor made _, packs, listing⟩
  next member =>
    cases params with
    | nil =>
      obtain ⟨_, _, aborted, _⟩ := (run_bind _ _ _ _ _).mp done
      exact ((run_check_abort _ _ _ _).mp aborted).elim
    | cons first rest =>
      obtain ⟨receiver, _, opened, done⟩ := (run_bind _ _ _ _ _).mp done
      have goes := (((continuing job plain before).keeps_openReceiver name required implementing
        _).ok before receiver _ (.refl distinct) opened).1
      obtain ⟨opening, opens, drafts⟩ := run_openReceiver _ (by simpa using member) drafts opened
      obtain ⟨function, own, applied, packing, returned, filled, block, declared, signed, packs,
        present, typed, entry, same, listing⟩ := run_relay plain goes.distinct drafts done
      refine ⟨filled, block, present, typed, entry, same, function, own, opening, _, applied, packing,
        returned, declared, signed, ?_, packs, listing⟩
      rw [Block.paramValues, same]
      exact opens

end Steps

end Lowering
