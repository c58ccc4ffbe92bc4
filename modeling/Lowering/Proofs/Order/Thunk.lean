import Lowering.Proofs.IR.Carrying
import Lowering.Proofs.IR.Growth
import Lowering.Proofs.Order.Canonical
import Lowering.Proofs.Order.Repetition
import Lowering.Proofs.Tandem.Coupling

/-
This file fills a thunk in two passes. It may have been filled more often in one of them: its
temporaries are different ones then, but they have the same types. Where it has been filled alike,
it is filled alike again.
-/

namespace Lowering

open IR

/-- The values have one type, and they are the same if the functions are. -/
structure IR.Value.Alike (same : Prop) (value other : Value) : Prop where
  type : other.type = value.type
  isError : other.isError = value.isError
  equal : same → other = value

namespace IR.Value.Alike

variable {same : Prop}

theorem isAddress {value other : Value} (alike : value.Alike same other) :
    other.isAddress = value.isAddress := by
  rw [Value.isAddress, Value.isAddress, alike.type]

theorem eq {values others : List Value} (alike : List.Forall₂ (Value.Alike same) values others)
    (equal : same) : others = values := by
  induction alike with
  | nil => rfl
  | cons first _ rest => rw [first.equal equal, rest]

end IR.Value.Alike

/-- A pass has declared functions since the start, and written none but this one. -/
def Pass.WritesOnly (name : String) (start pass : Pass) : Prop :=
  ∀ other, other ≠ name →
    pass.builder.module.function? other = start.builder.module.function? other ∨
      start.builder.module.function? other = none ∧ IsRegular other

namespace Pass.WritesOnly

variable {name : String} {start : Pass}

theorem refl (name : String) (start : Pass) : start.WritesOnly name start :=
  fun _ _ => Or.inl rfl

/-- The function that is written is the only one that changes. -/
theorem put {pass : Pass} (only : start.WritesOnly name pass) (function : Function)
    (named : function.name = name) :
    start.WritesOnly name { pass with builder := pass.builder.put function } := by
  intro other differs
  refine (only other differs).imp (fun same => ?_) id
  exact (Builder.function?_put_of_ne function _ other (named ▸ differs)).trans same

/-- A function that is no thunk may be declared. -/
theorem getOrCreate {pass : Pass} (only : start.WritesOnly name pass) {own : String}
    {signature : Signature} {value : Value} {builder : Builder} (regular : IsRegular own)
    (done : BuildM.getOrCreateFunction own signature pass.builder = .ok value builder)
    (names : Names) :
    start.WritesOnly name { pass with names := names, builder := builder } := by
  obtain ⟨others, asked, _, _⟩ := BuildM.function?_getOrCreate done
  intro other differs
  by_cases here : other = own
  · subst here
    obtain ⟨same, _⟩ | ⟨absent, _⟩ := asked
    · exact (only other differs).imp same.trans id
    · refine Or.inr ⟨?_, regular⟩
      obtain same | ⟨missing, _⟩ := only other differs
      · exact same.symm.trans absent
      · exact missing
  · exact (only other differs).imp (others other here).trans id

end Pass.WritesOnly

/-- A function that was only declared has no insertion point in it. -/
theorem IR.Builder.At.getOrCreate_iff {name : String} {signature : Signature} {value : Value}
    {before after : Builder}
    (done : BuildM.getOrCreateFunction name signature before = .ok value after)
    {function : Function} {block : Block} :
    after.At function block ↔ before.At function block := by
  obtain ⟨others, asked, _, cursor⟩ := BuildM.function?_getOrCreate done
  constructor
  · rintro ⟨point, present, inside, pending⟩
    refine ⟨cursor ▸ point, ?_, inside, pending⟩
    by_cases here : function.name = name
    · rw [here] at present ⊢
      obtain ⟨same, _⟩ | ⟨_, bare⟩ := asked
      · exact same ▸ present
      · rw [bare] at present
        obtain rfl := Option.some.inj present
        cases inside
    · exact others _ here ▸ present
  · rintro ⟨point, present, inside, pending⟩
    refine ⟨cursor.trans point, ?_, inside, pending⟩
    by_cases here : function.name = name
    · rw [here] at present ⊢
      obtain ⟨same, _⟩ | ⟨absent, _⟩ := asked
      · exact same.trans present
      · rw [absent] at present
        cases present
    · exact (others _ here).trans present

/-- Two passes write a thunk, each at an insertion point of its own. -/
structure Job.Forges (job : Job) (start last : Pass) (name : String) (same : Prop)
    (pass other : Pass) : Prop where
  orderly : job.Orderly pass.names pass.builder.module
  again : job.Orderly other.names other.builder.module
  repeats : start.Repeats last pass other
  aside : start.WritesOnly name pass
  apart : last.WritesOnly name other
  ready : ∀ function block, pass.builder.At function block → function.name = name ∧
    ∃ peer place, other.builder.At peer place ∧ peer.name = name
  equal : same → other.builder.cursor = pass.builder.cursor ∧
    other.builder.module.function? name = pass.builder.module.function? name

/-- The pass is at the start of a new block of the function. -/
def Pass.opening (pass : Pass) (function : Function) (params : List OperandType) : Pass :=
  { pass with builder := pass.builder.put (function.addBlock params).2 }.withCursor
    (some ⟨function.name, (function.addBlock params).1.label⟩)

theorem Pass.at_opening {pass : Pass} {function : Function}
    (found : pass.builder.module.function? function.name = some function)
    (labelled : function.Labelled) (params : List OperandType) :
    (pass.opening function params).builder.At (function.addBlock params).2
      (function.addBlock params).1 := by
  refine ⟨rfl, Builder.function?_put_self (function.addBlock params).2 function _ found, ?_, rfl⟩
  have missing : function.blocks.find? (·.label == function.labels.issued) = none :=
    labelled.block?_next
  simp [Function.block?, Function.addBlock, List.find?_append, missing, Counter.next]

theorem Pass.height_opening {pass : Pass} {function : Function}
    (found : pass.builder.module.function? function.name = some function)
    (params : List OperandType) (name : String) :
    (pass.opening function params).builder.module.height name =
      pass.builder.module.height name + if name = function.name then 1 else 0 :=
  Module.height_addBlock found params name

/-- What follows the start of a block starts there. -/
theorem Pass.run_opening {A : Type} {pass : Pass} {name : String} {function : Function}
    (found : pass.builder.module.function? name = some function) (params : List OperandType)
    (rest : LabelId × List Value → PassM A) :
    (do
      let entry ← BuildM.createBlock name params
      BuildM.positionAtEnd name entry.1
      rest entry : PassM A) pass =
      rest ((function.addBlock params).1.label, (function.addBlock params).1.paramValues)
        (pass.opening function params) := by
  have created : (liftM (BuildM.createBlock name params) : PassM _) pass = .ok _ _ :=
    (lift_build _ _ _ _).mpr ⟨_, BuildM.createBlock_eq found params, rfl⟩
  obtain rfl := Module.name_of_function? found
  change EStateM.bind _ _ pass = _
  unfold EStateM.bind
  rw [created]
  rfl

/-- The passes are coupled while a thunk is filled. -/
def forging (job : Job) (start last : Pass) (name : String) (same : Prop) : Coupling Pass where
  Relates := job.Forges start last name same
  Excused _ := False
  Strict := False
  firm impossible := impossible.elim

namespace forging

variable {job : Job} {start last : Pass} {name : String} {same : Prop}

theorem bind {A B C D : Type} {rel : A → B → Prop} {end_ : C → D → Prop} {step : PassM A}
    {other : PassM B} {next : A → PassM C} {again : B → PassM D}
    (first : Pairs (forging job start last name same) rel step other)
    (rest : ∀ value peer, rel value peer →
      Pairs (forging job start last name same) end_ (next value) (again peer)) :
    Pairs (forging job start last name same) end_ (step >>= next) (other >>= again) :=
  Pairs.bind first rest fun _ _ _ _ impossible => impossible.elim

theorem build {A B C D : Type} {rel : A → B → Prop} {end_ : C → D → Prop} {step : BuildM A}
    {other : BuildM B} {next : A → BuildM C} {again : B → BuildM D}
    (first : Pairs (forging job start last name same) rel (liftM step : PassM A) (liftM other))
    (rest : ∀ value peer, rel value peer →
      Pairs (forging job start last name same) end_ (liftM (next value) : PassM C)
        (liftM (again peer))) :
    Pairs (forging job start last name same) end_ (liftM (step >>= next) : PassM C)
      (liftM (other >>= again)) := by
  rw [lift_build_bind step next, lift_build_bind other again]
  exact bind first rest

/-- Operands of one type are addresses on both sides. -/
theorem requireAddress {A B : Type} {rel : A → B → Prop} {opcode : String} {value other : Value}
    (alike : value.Alike same other) {next : BuildM A} {again : BuildM B}
    (rest : Pairs (forging job start last name same) rel (liftM next : PassM A) (liftM again)) :
    Pairs (forging job start last name same) rel
      (liftM (BuildM.requireAddress opcode value >>= fun _ => next) : PassM A)
      (liftM (BuildM.requireAddress opcode other >>= fun _ => again)) := by
  rw [lift_build_bind, lift_build_bind]
  unfold BuildM.requireAddress
  rw [alike.isAddress, alike.isError]
  split
  · exact rest
  · exact ⟨fun _ _ _ impossible => impossible.elim, fun _ _ _ impossible => impossible.elim⟩

section Building

variable (marked : ¬IsRegular name)

include marked

/-- Instructions that are alike are added on both sides. -/
theorem put {pass other : Pass} (forges : job.Forges start last name same pass other)
    {function peer base again : Function} {block place : Block} {instruction mirror : Instruction}
    (here : pass.builder.At function block) (there : other.builder.At peer place)
    (writes : function.Copies base) (mirrors : peer.Copies again)
    (ends : mirror.isTerminator = instruction.isTerminator)
    (equal : same → peer = function → again = base ∧ mirror = instruction) :
    job.Forges start last name same
      { pass with builder := pass.builder.put (base.extendBlock block.label instruction) }
      { other with builder := other.builder.put (again.extendBlock place.label mirror) } := by
  obtain ⟨named, site, spot, atSite, called⟩ := forges.ready function block here
  obtain ⟨rfl, rfl⟩ := atSite.unique there
  have found : pass.builder.module.function? name = some function := named ▸ here.present
  have present : other.builder.module.function? name = some peer := called ▸ there.present
  have thunk : (base.extendBlock block.label instruction).name = name := writes.name.trans named
  have copy : (again.extendBlock place.label mirror).name = name := mirrors.name.trans called
  constructor
  · refine forges.orderly.put (base.extendBlock block.label instruction) (thunk.symm ▸ found) ?_
    exact thunk.symm ▸ (forges.orderly.functions name _ found).extendBlock writes here.inside _
  · refine forges.again.put (again.extendBlock place.label mirror) (copy.symm ▸ present) ?_
    exact copy.symm ▸ (forges.again.functions name _ present).extendBlock mirrors there.inside _
  · exact forges.repeats.putThunk (copy.trans thunk.symm) (thunk.symm ▸ marked)
      (thunk.symm ▸ found) (thunk.symm ▸ present)
  · exact forges.aside.put _ thunk
  · exact forges.apart.put _ copy
  · intro later longer after
    obtain ⟨rfl, continues⟩ := here.of_put writes.name (writes.inside here.inside) after
    refine ⟨thunk, _, place.add mirror, there.put mirrors.name rfl
      (Function.block?_extendBlock (mirrors.inside there.inside) mirror) ?_, copy⟩
    exact (Block.isTerminated_add place mirror).trans (ends.trans continues)
  · intro alike
    obtain ⟨cursor, function?⟩ := forges.equal alike
    have copied : other.builder.At function block :=
      ⟨cursor.trans here.cursor, by rw [named, function?, found], here.inside, here.pending⟩
    obtain ⟨rfl, rfl⟩ := there.unique copied
    obtain ⟨rfl, rfl⟩ := equal alike rfl
    have written {builder : Builder} {old : Function}
        (found : builder.module.function? name = some old) :
        (builder.put (again.extendBlock block.label mirror)).module.function? name =
          some (again.extendBlock block.label mirror) := by
      rw [← copy] at found ⊢
      exact Builder.function?_put_self _ old _ found
    exact ⟨cursor, (written present).trans (written found).symm⟩

theorem define {type : OperandType} {instruction mirror : TempId → Instruction}
    (continues : ∀ result other, (mirror other).isTerminator = (instruction result).isTerminator)
    (equal : same → mirror = instruction) :
    Pairs (forging job start last name same) (Value.Alike same)
      (liftM (BuildM.define type instruction) : PassM Value)
      (liftM (BuildM.define type mirror)) where
  excused _ _ _ impossible := impossible.elim
  answers pass other forges := by
    cases ran : (liftM (BuildM.define type instruction) : PassM Value) pass with
    | error => exact fun impossible => impossible.elim
    | ok value after =>
      obtain ⟨builder, defined, rfl⟩ := (lift_build _ _ _ _).mp ran
      obtain ⟨function, block, here, rfl, rfl⟩ := BuildM.run_define defined
      obtain ⟨named, peer, place, there, called⟩ := forges.ready function block here
      refine Or.inr ⟨_, _, (lift_build _ _ _ _).mpr ⟨_, there.define_eq type mirror, rfl⟩, ?_, ?_⟩
      · refine ⟨rfl, rfl, fun alike => ?_⟩
        have copied := here.present
        rw [named, ← (forges.equal alike).2, ← called, there.present] at copied
        rw [Option.some.inj copied]
      · refine put marked forges here there (.takeTemp _) (.takeTemp _) (continues _ _) ?_
        rintro alike rfl
        rw [equal alike]
        exact ⟨rfl, rfl⟩

theorem append {instruction mirror : Instruction}
    (ends : mirror.isTerminator = instruction.isTerminator)
    (equal : same → mirror = instruction) :
    Couples (forging job start last name same)
      (liftM (BuildM.append instruction) : PassM Unit) (liftM (BuildM.append mirror)) where
  excused _ _ _ impossible := impossible.elim
  answers pass other forges := by
    cases ran : (liftM (BuildM.append instruction) : PassM Unit) pass with
    | error => exact fun impossible => impossible.elim
    | ok value after =>
      obtain ⟨builder, appended, rfl⟩ := (lift_build _ _ _ _).mp ran
      obtain ⟨function, block, here, rfl⟩ := BuildM.run_append appended
      obtain ⟨named, peer, place, there, called⟩ := forges.ready function block here
      refine Or.inr ⟨(), _, (lift_build _ _ _ _).mpr ⟨_, there.append_eq mirror, rfl⟩, rfl, ?_⟩
      exact put marked forges here there (.refl _) (.refl _) ends
        fun alike same => ⟨same, equal alike⟩

theorem allocStack (ty : Ty) : Pairs (forging job start last name same) (Value.Alike same)
    (liftM (BuildM.allocStack ty) : PassM Value) (liftM (BuildM.allocStack ty)) :=
  define marked (fun _ _ => rfl) fun _ => rfl

theorem load {location other : Value} (alike : location.Alike same other) :
    Pairs (forging job start last name same) (Value.Alike same)
      (liftM (BuildM.load location) : PassM Value) (liftM (BuildM.load other)) := by
  refine requireAddress alike ?_
  rw [alike.type]
  exact define marked (fun _ _ => rfl) fun equal => by rw [alike.equal equal]

theorem store {value location other place : Value} (stored : value.Alike same other)
    (alike : location.Alike same place) :
    Couples (forging job start last name same)
      (liftM (BuildM.store value location) : PassM Unit) (liftM (BuildM.store other place)) :=
  requireAddress alike <| append marked rfl fun equal => by
    rw [stored.equal equal, alike.equal equal]

theorem copyAddr {source dest other place : Value} (copied : source.Alike same other)
    (alike : dest.Alike same place) :
    Couples (forging job start last name same)
      (liftM (BuildM.copyAddr source dest) : PassM Unit) (liftM (BuildM.copyAddr other place)) :=
  requireAddress copied <| requireAddress alike <| append marked rfl fun equal => by
    rw [copied.equal equal, alike.equal equal]

theorem unsafeCastAddr {source other : Value} (alike : source.Alike same other) (target : Ty) :
    Pairs (forging job start last name same) (Value.Alike same)
      (liftM (BuildM.unsafeCastAddr source target) : PassM Value)
      (liftM (BuildM.unsafeCastAddr other target)) :=
  requireAddress alike <| define marked (fun _ _ => rfl) fun equal => by rw [alike.equal equal]

theorem allocExistential {container other : Value} (alike : container.Alike same other)
    (witness : Ty) : Pairs (forging job start last name same) (Value.Alike same)
      (liftM (BuildM.allocExistential container witness) : PassM Value)
      (liftM (BuildM.allocExistential other witness)) :=
  requireAddress alike <| define marked (fun _ _ => rfl) fun equal => by rw [alike.equal equal]

theorem apply (function : Value) {args others : List Value}
    (alike : List.Forall₂ (Value.Alike same) args others) (type : OperandType) :
    Pairs (forging job start last name same) (Value.Alike same)
      (liftM (BuildM.apply function args type) : PassM Value)
      (liftM (BuildM.apply function others type)) :=
  define marked (fun _ _ => rfl) fun equal => by rw [Value.Alike.eq alike equal]

theorem openExistential {container other : Value} (alike : container.Alike same other) (ty : Ty) :
    Pairs (forging job start last name same) (Value.Alike same)
      (liftM (BuildM.openExistential container ty) : PassM Value)
      (liftM (BuildM.openExistential other ty)) :=
  define marked (fun _ _ => rfl) fun equal => by rw [alike.equal equal]

theorem openExistentialAddr {container other : Value} (alike : container.Alike same other)
    (ty : Ty) : Pairs (forging job start last name same) (Value.Alike same)
      (liftM (BuildM.openExistentialAddr container ty) : PassM Value)
      (liftM (BuildM.openExistentialAddr other ty)) :=
  requireAddress alike <| define marked (fun _ _ => rfl) fun equal => by rw [alike.equal equal]

theorem assignValue {value location other place : Value} (assigned : value.Alike same other)
    (alike : location.Alike same place) (ty : Ty) :
    Couples (forging job start last name same)
      (liftM (BuildM.assignValue value ty location) : PassM Unit)
      (liftM (BuildM.assignValue other ty place)) := by
  unfold BuildM.assignValue
  dsimp only
  rw [alike.type, alike.isError, assigned.isError]
  split
  · exact .pure ()
  · split
    · exact store marked assigned alike
    · split
      · refine build (allocStack marked ty) fun temporary slot placed => ?_
        refine build (store marked assigned placed) fun _ _ _ => ?_
        exact build (unsafeCastAddr marked placed _) fun source origin cast =>
          copyAddr marked cast alike
      · split
        · exact build (allocExistential marked alike ty) fun slot room placed =>
            store marked assigned placed
        · exact store marked assigned alike

theorem openReceiver (requirement implementation : Routine) {container other : Value}
    (alike : container.Alike same other) :
    Pairs (forging job start last name same) (Value.Alike same)
      (job.openReceiver name requirement implementation container)
      (job.openReceiver name requirement implementation other) := by
  unfold Job.openReceiver
  cases implementation.self with
  | none => exact .abort_bind _ _ _
  | some self =>
    refine .ask_bind _ fun decl _ => ?_
    simp only [pure_bind]
    split
    · refine bind (openExistentialAddr marked alike _) fun opened peer located => ?_
      split
      · exact .pure located
      · exact load marked located
    · split
      · exact .abort_bind _ _ _
      · exact openExistential marked alike _

theorem packResult {result other : Value} (alike : result.Alike same other)
    (resultType required : OperandType) :
    Pairs (forging job start last name same) (Value.Alike same)
      (Job.packResult result resultType required) (Job.packResult other resultType required) := by
  unfold Job.packResult
  split
  · refine bind (allocStack marked _) fun slot room placed => ?_
    refine bind (assignValue marked alike placed _) fun _ _ _ => ?_
    exact load marked placed
  · exact .pure alike

end Building

/-- The parameters of a block have their types whatever their numbers are. -/
theorem alike_params (params : List OperandType) {issued other : Nat}
    (equal : same → other = issued) :
    List.Forall₂ (Value.Alike same)
      (((List.range' issued params.length).zip params).map fun (id, type) => Value.temp id type)
      (((List.range' other params.length).zip params).map fun (id, type) => Value.temp id type) := by
  induction params generalizing issued other with
  | nil => exact .nil
  | cons type rest rest_ih =>
    refine .cons ⟨rfl, rfl, fun alike => by rw [equal alike]⟩ (rest_ih fun alike => ?_)
    rw [equal alike]

/-- Each pass opens the next block of its own function. -/
theorem open_ {function peer : Function} (marked : ¬IsRegular function.name)
    (orderly : job.Orderly start.names start.builder.module)
    (again : job.Orderly last.names last.builder.module)
    (found : start.builder.module.function? function.name = some function)
    (present : last.builder.module.function? function.name = some peer)
    (equal : same → peer = function) (params : List OperandType) :
    job.Forges start last function.name same (start.opening function params)
      (last.opening peer params) := by
  have called := Module.name_of_function? present
  have listed : last.builder.module.function? peer.name = some peer := called.symm ▸ present
  have there := Pass.at_opening listed (again.functions _ _ present).labelled params
  constructor
  · exact orderly.put (function.addBlock params).2 found
      ((orderly.functions _ _ found).addBlock params)
  · refine again.put (peer.addBlock params).2 listed ?_
    exact called.symm ▸ (again.functions _ _ present).addBlock params
  · have written : start.Repeats last
        { start with builder := start.builder.put (function.addBlock params).2 }
        { last with builder := last.builder.put (peer.addBlock params).2 } :=
      (Pass.Repeats.refl start last).putThunk called marked found present
    exact written.withCursor _ _
  · exact (Pass.WritesOnly.refl _ start).put (function.addBlock params).2 rfl
  · exact (Pass.WritesOnly.refl _ last).put (peer.addBlock params).2 called
  · intro later block here
    obtain ⟨rfl, rfl⟩ :=
      (Pass.at_opening found (orderly.functions _ _ found).labelled params).unique here
    exact ⟨rfl, _, _, there, called⟩
  · intro alike
    obtain rfl := equal alike
    exact ⟨rfl, (Builder.function?_put_self (peer.addBlock params).2 _ _ present).trans
      (Builder.function?_put_self (peer.addBlock params).2 _ _ found).symm⟩

section Functions

variable (plain : job.program.PlainNames) (unambiguous : job.program.Unambiguous)

include plain unambiguous

/-- A function is declared in both passes, which changes neither the thunk nor where it is written. -/
theorem declare (marked : ¬IsRegular name) (id : DeclId) :
    Couples (forging job start last name same) (job.declare id) (job.declare id) where
  excused _ _ _ impossible := impossible.elim
  answers pass other forges := by
    cases ran : job.declare id pass with
    | error => exact fun impossible => impossible.elim
    | ok value after =>
      obtain ⟨own, signature, names, builder, function, named, signed, rfl, rfl, created, _, kept⟩ :=
        forges.orderly.run_declare plain unambiguous ran
      obtain ⟨peers, built, declares, answered, _, orderly⟩ :=
        forges.again.declare plain unambiguous function named signed
      have regular : IsRegular own := (plain.qualifiedName named).unmarked
      have apart : name ≠ own := fun here => marked (here ▸ regular)
      refine Or.inr ⟨_, _, declares, rfl, kept, orderly, ?_, ?_, ?_, ?_, ?_⟩
      · exact forges.repeats.getOrCreate created answered names peers
      · exact forges.aside.getOrCreate regular created names
      · exact forges.apart.getOrCreate regular answered peers
      · intro function block here
        obtain ⟨thunk, peer, place, there, called⟩ :=
          forges.ready function block ((Builder.At.getOrCreate_iff created).mp here)
        exact ⟨thunk, peer, place, (Builder.At.getOrCreate_iff answered).mpr there, called⟩
      · intro alike
        obtain ⟨cursor, function?⟩ := forges.equal alike
        obtain ⟨others, _, _, moved⟩ := BuildM.function?_getOrCreate created
        obtain ⟨rest, _, _, again⟩ := BuildM.function?_getOrCreate answered
        exact ⟨again.trans (cursor.trans moved.symm),
          (rest name apart).trans (function?.trans (others name apart).symm)⟩

theorem relay (marked : ¬IsRegular name) (id : DeclId) {args others : List Value}
    (alike : List.Forall₂ (Value.Alike same) args others) (required : OperandType) :
    Couples (forging job start last name same) (job.relay id args required)
      (job.relay id others required) := by
  refine .bind (declare plain unambiguous marked id) fun function => .check_bind _ fun own _ => ?_
  refine bind (apply marked function alike own.result) fun result peer yielded => ?_
  refine bind (packResult marked yielded own.result required) fun packed again same => ?_
  exact append marked rfl fun equal => by rw [same.equal equal]

/-- What a thunk does with its arguments, it does in both passes. -/
theorem forward (marked : ¬IsRegular name) (signature : Signature)
    (requirement implementation : Routine) (id : DeclId) {args others : List Value}
    (alike : List.Forall₂ (Value.Alike same) args others) :
    Couples (forging job start last name same)
      (job.forward name signature requirement implementation id args)
      (job.forward name signature requirement implementation id others) := by
  unfold Job.forward
  split
  · exact relay plain unambiguous marked id alike signature.result
  · cases alike with
    | nil => exact .abort_bind _ _ _
    | cons container rest =>
      refine bind (openReceiver marked requirement implementation container)
        fun receiver peer received => ?_
      exact relay plain unambiguous marked id (.cons received rest) signature.result

/-- A thunk that is there in both passes is filled in both. -/
theorem fillThunk {function peer : Function} (marked : ¬IsRegular function.name)
    (orderly : job.Orderly start.names start.builder.module)
    (again : job.Orderly last.names last.builder.module)
    (found : start.builder.module.function? function.name = some function)
    (present : last.builder.module.function? function.name = some peer)
    (equal : same → peer = function) {signature : Signature}
    {requirement implementation : Routine} {id : DeclId} {after : Pass}
    (done : job.fillThunk function.name signature requirement implementation id start =
      .ok () after) :
    ∃ other, job.fillThunk function.name signature requirement implementation id last =
        .ok () other ∧ job.Forges start last function.name same after other := by
  have opened := open_ marked orderly again found present equal signature.params
  have args : List.Forall₂ (Value.Alike same) (function.addBlock signature.params).1.paramValues
      (peer.addBlock signature.params).1.paramValues :=
    alike_params signature.params fun alike => by rw [equal alike]
  have forwards : Couples (forging job start last function.name same) _ _ :=
    forward plain unambiguous marked signature requirement implementation id args
  have filled {pass : Pass} {own : Function}
      (found : pass.builder.module.function? function.name = some own) :
      job.fillThunk function.name signature requirement implementation id pass =
        job.forward function.name signature requirement implementation id
          (own.addBlock signature.params).1.paramValues (pass.opening own signature.params) := by
    unfold Job.fillThunk
    exact Pass.run_opening found signature.params fun entry => _
  rw [filled found] at done
  obtain free | ⟨_, other, ran, _, forges⟩ := by
    simpa only [done] using forwards.answers _ _ opened
  · exact free.elim
  · exact ⟨other, (filled present).trans ran, forges⟩

end Functions

end forging

/-- A function has this many blocks. -/
def tallying (job : Job) (name : String) (height : Nat) : Invariant job where
  Holds pass := pass.builder.module.height name = height
  define holds _ done := ((Module.Continues.define done).height name).trans holds
  append holds _ done := ((Module.Continues.append done).height name).trans holds
  report _ holds := holds
  names holds _ := holds
  function added signature holds _ _ :=
    (Module.height_addFunction _ added signature name).trans holds

/-- Each time it is filled, a thunk gets one block, and no other function gets any. -/
theorem Job.height_fillThunk {job : Job} {name : String} {signature : Signature}
    {requirement implementation : Routine} {id : DeclId} {before after : Pass}
    (done : job.fillThunk name signature requirement implementation id before = .ok () after)
    (other : String) : after.builder.module.height other =
      before.builder.module.height other + if other = name then 1 else 0 := by
  obtain ⟨label, args, builder, created, ran⟩ := run_fillThunk done
  obtain ⟨function, found, _, _, rfl⟩ := BuildM.run_createBlock created
  obtain rfl := Module.name_of_function? found
  let tally := tallying job other
    (before.builder.module.height other + if other = function.name then 1 else 0)
  have forwarded := tally.keeps_forward function.name signature requirement implementation id args
  refine (forwarded.ok _ () after ?_ ran).1
  exact Module.height_addBlock found signature.params other

/-- What it takes to fill a thunk: what it forwards, and the functions at both ends. -/
structure Job.Fills (job : Job) (name : String) (entry : ConformanceEntry)
    (signature : Signature) (requirement implementation : Routine) : Prop where
  forwards : job.program.Forwards entry name
  required : job.program.routine? entry.requirement = .ok (some requirement)
  implemented : job.program.routine? entry.implementation = .ok (some implementation)
  typed : ∃ unapplied, job.program.unappliedType entry.requirement = .ok unapplied ∧
    signature = .lower unapplied

/-- A thunk as it is declared, or as it is after it is filled once more. -/
inductive Job.Forged (job : Job) (name : String) : Function → Prop where
  | declared {signature : Signature} (signs : job.Signs name signature) :
    Forged job name (Function.declared name signature)
  | filled {function later : Function} {entry : ConformanceEntry} {signature : Signature}
      {requirement implementation : Routine} {before after : Pass}
      (forged : Forged job name function)
      (fills : job.Fills name entry signature requirement implementation)
      (orderly : job.Orderly before.names before.builder.module)
      (found : before.builder.module.function? name = some function)
      (done : job.fillThunk name signature requirement implementation entry.implementation before =
        .ok () after)
      (written : after.builder.module.function? name = some later) : Forged job name later

namespace Job.Forged

variable {job : Job} {name : String} {function other : Function}
  (plain : job.program.PlainNames) (unambiguous : job.program.Unambiguous)

include plain unambiguous

/-- A thunk is known from how often it was filled. -/
theorem unique (forged : job.Forged name function) (again : job.Forged name other)
    (blocks : other.blocks.length = function.blocks.length) : other = function := by
  -- A thunk that is filled has one more block.
  have longer {entry : ConformanceEntry} {signature : Signature}
      {requirement implementation : Routine} {before after : Pass} {function later : Function}
      (found : before.builder.module.function? name = some function)
      (done : job.fillThunk name signature requirement implementation entry.implementation before =
        .ok () after)
      (written : after.builder.module.function? name = some later) :
      later.blocks.length = function.blocks.length + 1 := by
    have height := Job.height_fillThunk done name
    rwa [Module.height_of_function? written, Module.height_of_function? found, if_pos rfl] at height
  induction forged generalizing other with
  | declared signs =>
    cases again with
    | declared signed => rw [signs.unique plain unambiguous signed]
    | filled _ _ _ found done written =>
      rw [longer found done written] at blocks
      cases blocks
  | filled forged fills orderly found done written forged_ih =>
    cases again with
    | declared =>
      rw [longer found done written] at blocks
      cases blocks
    | filled again refills clear present ran rewritten =>
      rw [longer found done written, longer present ran rewritten] at blocks
      obtain rfl := forged_ih again (Nat.succ.inj blocks)
      obtain rfl := fills.forwards.unique plain unambiguous refills.forwards
      obtain rfl := Option.some.inj (Except.ok.inj (fills.required.symm.trans refills.required))
      obtain rfl :=
        Option.some.inj (Except.ok.inj (fills.implemented.symm.trans refills.implemented))
      obtain ⟨unapplied, typed, rfl⟩ := fills.typed
      obtain ⟨_, typed_again, rfl⟩ := refills.typed
      obtain rfl := Except.ok.inj (typed.symm.trans typed_again)
      obtain rfl := Module.name_of_function? found
      obtain ⟨_, finished, forges⟩ := forging.fillThunk plain unambiguous
        (fun regular => regular fills.forwards.marked) orderly clear found present (fun _ => rfl)
        done
      obtain rfl := (EStateM.Result.ok.inj (ran.symm.trans finished)).2
      have same := (forges.equal trivial).2
      rw [written, rewritten] at same
      exact Option.some.inj same

end Job.Forged

/-- Every thunk in the module is known. -/
def Job.AllForged (job : Job) (module : Module) : Prop :=
  ∀ name function, ¬IsRegular name → module.function? name = some function →
    job.Forged name function

end Lowering
