import Lowering.Proofs.Stored.Ty
import Lowering.Stored.Program

/-
This file shows that a program is given back from its stored form.
-/

namespace Lowering

/-- A value is storable when all that it holds is: identifiers are words, and numbers read back. -/
def Note.Storable (note : Note) : Prop := note.ty.Storable

namespace Expr

mutual

def Storable : Expr → Prop
  | .bool note _ | .int note _ | .string note _ | .error note => note.Storable
  | .float note value => note.Storable ∧ value.Storable
  | .ref note decl => note.Storable ∧ decl.Storable
  | .member note base id => note.Storable ∧ Storable base ∧ id.Storable
  | .call note callee args => note.Storable ∧ Storable callee ∧ StorableAll args
  | .assign note target value => note.Storable ∧ Storable target ∧ Storable value
  | .addressOf note operand => note.Storable ∧ Storable operand

def StorableAll : List Expr → Prop
  | [] => True
  | expr :: rest => Storable expr ∧ StorableAll rest

end

end Expr

namespace Stmt

mutual

def Storable : Stmt → Prop
  | .decl id => id.Storable
  | .block stmts _ => StorableAll stmts
  | .returned value _ => ∀ expr ∈ value, expr.Storable
  | .expr value => value.Storable

def StorableAll : List Stmt → Prop
  | [] => True
  | stmt :: rest => Storable stmt ∧ StorableAll rest

end

end Stmt

def Body.Storable (body : Body) : Prop := Stmt.StorableAll body.stmts

namespace Pattern

mutual

def Storable : Pattern → Prop
  | .named decl => decl.Storable
  | .tuple elements => StorableAll elements
  | .wildcard => True

def StorableAll : List Pattern → Prop
  | [] => True
  | element :: rest => Storable element ∧ StorableAll rest

end

end Pattern

def Binding.Storable (binding : Binding) : Prop :=
  binding.pattern.Storable ∧ ∀ expr ∈ binding.initializer, expr.Storable

def Routine.Storable (routine : Routine) : Prop :=
  (∀ param ∈ routine.params, param.Storable) ∧ (∀ body ∈ routine.body, body.Storable) ∧
    (∀ self ∈ routine.self, self.Storable) ∧ routine.env.Storable

def ConformanceEntry.Storable (entry : ConformanceEntry) : Prop :=
  entry.requirement.Storable ∧ entry.implementation.Storable

def Conformance.Storable (conformance : Conformance) : Prop :=
  conformance.view.Storable ∧ ∀ entry ∈ conformance.entries, entry.Storable

def DeclKind.Storable : DeclKind → Prop
  | .module members | .view members => ∀ member ∈ members, member.Storable
  | .imported | .variable _ | .parameter _ | .abstractType | .genericParam => True
  | .binding bound => bound.Storable
  | .function routine => routine.Storable
  | .product members conformances env =>
    (∀ member ∈ members, member.Storable) ∧
      (∀ conformance ∈ conformances, conformance.Storable) ∧ env.Storable
  | .alias aliased conformances =>
    aliased.Storable ∧ ∀ conformance ∈ conformances, conformance.Storable
  | .typeExtension extended members => extended.Storable ∧ ∀ member ∈ members, member.Storable

def Decl.Storable (decl : Decl) : Prop :=
  decl.kind.Storable ∧ decl.ty.Storable ∧ ∀ parent ∈ decl.parent, parent.Storable

def Program.Storable (program : Program) : Prop := ∀ decl ∈ program.decls, decl.Storable

open Decoder

namespace Expr

theorem array_toJsonAll (exprs : List Expr) : Json.array (toJsonAll exprs) = .list toJson exprs :=
  Json.array_eq_list rfl (fun _ _ => rfl) exprs

theorem toJson_ne_null (expr : Expr) : expr.toJson ≠ .null := by
  cases expr <;> rintro ⟨⟩

/-- The type and the place stand next to the kind, whatever the kind is. -/
theorem noted_recovers {decoder : Decoder Expr} {kind : Json} {make : Note → Expr} {note : Note}
    (kind_recovers : (kindDecoder decoder).Recovers kind make) (storable : note.Storable) :
    (decoderStep decoder).Recovers (toJson.noted note kind) (make note) := by
  have ty := Ty.recovers storable
  have span := note.span.recovers
  refine recovers_record rfl (by decide) (by simp [kind_recovers.legible, ty.legible, span.legible])
    fun fields holds => ?_
  simp only [List.forall_mem_cons] at holds
  simp [holds.1.required kind_recovers, holds.2.1.required ty, holds.2.2.1.required span]

section Kinds

variable {decoder : Decoder Expr}

theorem member_recovers {base : Expr} {id : DeclId}
    (base_recovers : decoder.Recovers base.toJson base) (storable : id.Storable) :
    (kindDecoder decoder).Recovers
      (.variant "MemberRef" (.record [("base", base.toJson), ("member", id.toJson)]))
      fun note => .member note base id := by
  have id_recovers := DeclId.recovers storable
  refine recovers_fields ["base", "member"] rfl (by decide)
    (by simp [base_recovers.legible, id_recovers.legible]) (fun _ => rfl) fun fields holds => ?_
  simp only [List.forall_mem_cons] at holds
  simp [holds.1.required base_recovers, holds.2.1.required id_recovers]

theorem call_recovers {callee : Expr} {args : List Expr}
    (callee_recovers : decoder.Recovers callee.toJson callee)
    (args_recover : ∀ arg ∈ args, decoder.Recovers arg.toJson arg) :
    (kindDecoder decoder).Recovers
      (.variant "Call" (.record [("callee", callee.toJson), ("args", .list toJson args)]))
      fun note => .call note callee args := by
  have list := Recovers.list args_recover
  refine recovers_fields ["callee", "args"] rfl (by decide)
    (by simp [callee_recovers.legible, list.legible]) (fun _ => rfl) fun fields holds => ?_
  simp only [List.forall_mem_cons] at holds
  simp [holds.1.required callee_recovers, holds.2.1.required list]

theorem assign_recovers {target value : Expr}
    (target_recovers : decoder.Recovers target.toJson target)
    (value_recovers : decoder.Recovers value.toJson value) :
    (kindDecoder decoder).Recovers
      (.variant "Assign" (.record [("target", target.toJson), ("value", value.toJson)]))
      fun note => .assign note target value := by
  refine recovers_fields ["target", "value"] rfl (by decide)
    (by simp [target_recovers.legible, value_recovers.legible]) (fun _ => rfl) fun fields holds => ?_
  simp only [List.forall_mem_cons] at holds
  simp [holds.1.required target_recovers, holds.2.1.required value_recovers]

theorem ref_recovers {id : DeclId} (storable : id.Storable) :
    (kindDecoder decoder).Recovers (.variant "DeclRef" id.toJson) fun note => .ref note id :=
  recovers_holding ((DeclId.recovers storable).map fun id note => Expr.ref note id) fun _ => rfl

end Kinds

mutual

theorem recovers_iterate : (expr : Expr) → expr.Storable → (count : Nat) →
    expr.toJson.depth < count → (iterate decoderStep count).Recovers expr.toJson expr
  | .bool _ value, storable, count + 1, _ =>
    noted_recovers (recovers_holding
      ((recovers_bool value).map fun value note => Expr.bool note value) fun _ => rfl) storable
  | .int _ value, storable, count + 1, _ =>
    noted_recovers (recovers_holding
      ((recovers_signed64 value).map fun value note => Expr.int note value) fun _ => rfl) storable
  | .float _ value, storable, count + 1, _ =>
    noted_recovers (recovers_holding
      ((recovers_binary64 storable.2.1 storable.2.2).map fun value note => Expr.float note value)
      fun _ => rfl) storable.1
  | .string _ value, storable, count + 1, _ =>
    noted_recovers (recovers_holding
      ((recovers_string value).map fun value note => Expr.string note value) fun _ => rfl) storable
  | .ref _ id, storable, count + 1, _ =>
    noted_recovers (ref_recovers storable.2) storable.1
  | .error _, storable, count + 1, _ =>
    noted_recovers (recovers_constant fun _ => rfl) storable
  | .member _ base id, storable, count + 1, deep => by
    simp only [toJson, toJson.noted, Json.depth_variant, Json.depth_record_cons] at deep
    have base_recovers := recovers_iterate base storable.2.1 count (by omega)
    exact noted_recovers (member_recovers base_recovers storable.2.2) storable.1
  | .call _ callee args, storable, count + 1, deep => by
    simp only [toJson, toJson.noted, Json.depth_variant, Json.depth_record_cons,
      Json.depth_array] at deep
    have callee_recovers := recovers_iterate callee storable.2.1 count (by omega)
    have args_recover := recovers_iterateAll args storable.2.2 count (by omega)
    rw [toJson, array_toJsonAll]
    exact noted_recovers (call_recovers callee_recovers args_recover) storable.1
  | .assign _ target value, storable, count + 1, deep => by
    simp only [toJson, toJson.noted, Json.depth_variant, Json.depth_record_cons] at deep
    have target_recovers := recovers_iterate target storable.2.1 count (by omega)
    have value_recovers := recovers_iterate value storable.2.2 count (by omega)
    exact noted_recovers (assign_recovers target_recovers value_recovers) storable.1
  | .addressOf _ operand, storable, count + 1, deep => by
    simp only [toJson, toJson.noted, Json.depth_variant, Json.depth_record_cons] at deep
    have operand_recovers := recovers_iterate operand storable.2 count (by omega)
    exact noted_recovers (recovers_holding
      (operand_recovers.map fun operand note => Expr.addressOf note operand) fun _ => rfl)
      storable.1

theorem recovers_iterateAll : (exprs : List Expr) → StorableAll exprs → (count : Nat) →
    Json.depthOfItems (toJsonAll exprs) < count →
      ∀ expr ∈ exprs, (iterate decoderStep count).Recovers expr.toJson expr
  | [], _, _, _ => by simp
  | expr :: rest, storable, count, deep => by
    simp only [toJsonAll, Json.depthOfItems] at deep
    exact List.forall_mem_cons.mpr ⟨recovers_iterate expr storable.1 count (by omega),
      recovers_iterateAll rest storable.2 count (by omega)⟩

end

theorem recovers {expr : Expr} (storable : expr.Storable) : decoder.Recovers expr.toJson expr :=
  recovers_recursive (recovers_iterate expr storable)

theorem optional_recovers {expr : Option Expr} (storable : ∀ present ∈ expr, present.Storable) :
    (Decoder.optional decoder).Recovers (.optional toJson expr) expr :=
  Recovers.optional fun present within =>
    ⟨recovers (storable present within), toJson_ne_null present⟩

end Expr

namespace Stmt

theorem array_toJsonAll (stmts : List Stmt) : Json.array (toJsonAll stmts) = .list toJson stmts :=
  Json.array_eq_list rfl (fun _ _ => rfl) stmts

section Kinds

variable {decoder : Decoder Stmt}

theorem decl_recovers {id : DeclId} (storable : id.Storable) :
    (decoderStep decoder).Recovers (.variant "Decl" id.toJson) (.decl id) :=
  recovers_holding ((DeclId.recovers storable).map Stmt.decl) fun _ => rfl

theorem blockDecoder_recovers {stmts : List Stmt} (span : Span)
    (stmts_recover : ∀ stmt ∈ stmts, decoder.Recovers stmt.toJson stmt) :
    (blockDecoder decoder).Recovers
      (.record [("stmts", .list toJson stmts), ("span", span.toJson)]) ⟨stmts, span⟩ := by
  have list := Recovers.list stmts_recover
  have place := span.recovers
  refine recovers_record rfl (by decide) (by simp [list.legible, place.legible])
    fun fields holds => ?_
  simp only [List.forall_mem_cons] at holds
  simp [holds.1.required list, holds.2.1.required place]

theorem returnDecoder_recovers {value : Option Expr} (span : Span)
    (storable : ∀ expr ∈ value, expr.Storable) :
    returnDecoder.Recovers
      (.record [("value", .optional Expr.toJson value), ("span", span.toJson)])
      (.returned value span) := by
  have value_recovers := Expr.optional_recovers storable
  have place := span.recovers
  refine recovers_record rfl (by decide) (by simp [value_recovers.legible, place.legible])
    fun fields holds => ?_
  simp only [List.forall_mem_cons] at holds
  simp [holds.1.optional value_recovers, holds.2.1.required place]

end Kinds

mutual

theorem recovers_iterate : (stmt : Stmt) → stmt.Storable → (count : Nat) →
    stmt.toJson.depth < count → (iterate decoderStep count).Recovers stmt.toJson stmt
  | .decl id, storable, count + 1, _ => decl_recovers storable
  | .block stmts span, storable, count + 1, deep => by
    simp only [toJson, Json.depth_variant, Json.depth_record_cons, Json.depth_array] at deep
    have stmts_recover := recovers_iterateAll stmts storable count (by omega)
    rw [toJson, array_toJsonAll]
    exact recovers_holding ((blockDecoder_recovers span stmts_recover).map fun body =>
      Stmt.block body.stmts body.span) fun _ => rfl
  | .returned value span, storable, count + 1, _ =>
    recovers_holding (returnDecoder_recovers span storable) fun _ => rfl
  | .expr value, storable, count + 1, _ =>
    recovers_holding ((Expr.recovers storable).map Stmt.expr) fun _ => rfl

theorem recovers_iterateAll : (stmts : List Stmt) → StorableAll stmts → (count : Nat) →
    Json.depthOfItems (toJsonAll stmts) < count →
      ∀ stmt ∈ stmts, (iterate decoderStep count).Recovers stmt.toJson stmt
  | [], _, _, _ => by simp
  | stmt :: rest, storable, count, deep => by
    simp only [toJsonAll, Json.depthOfItems] at deep
    exact List.forall_mem_cons.mpr ⟨recovers_iterate stmt storable.1 count (by omega),
      recovers_iterateAll rest storable.2 count (by omega)⟩

end

theorem recovers {stmt : Stmt} (storable : stmt.Storable) : decoder.Recovers stmt.toJson stmt :=
  recovers_recursive (recovers_iterate stmt storable)

theorem storable_of_mem {stmts : List Stmt} (storable : StorableAll stmts) :
    ∀ stmt ∈ stmts, stmt.Storable := by
  induction stmts with
  | nil => simp
  | cons stmt rest rest_ih => exact List.forall_mem_cons.mpr ⟨storable.1, rest_ih storable.2⟩

end Stmt

theorem Body.recovers {body : Body} (storable : body.Storable) :
    Body.decoder.Recovers body.toJson body := by
  rw [Body.toJson, Stmt.array_toJsonAll]
  exact Stmt.blockDecoder_recovers body.span fun stmt within =>
    Stmt.recovers (Stmt.storable_of_mem storable stmt within)

namespace Pattern

theorem array_toJsonAll (elements : List Pattern) :
    Json.array (toJsonAll elements) = .list toJson elements :=
  Json.array_eq_list rfl (fun _ _ => rfl) elements

theorem named_recovers {decoder : Decoder Pattern} {id : DeclId} (storable : id.Storable) :
    (decoderStep decoder).Recovers (.variant "Named" id.toJson) (.named id) :=
  recovers_holding ((DeclId.recovers storable).map Pattern.named) fun _ => rfl

mutual

theorem recovers_iterate : (pattern : Pattern) → pattern.Storable → (count : Nat) →
    pattern.toJson.depth < count → (iterate decoderStep count).Recovers pattern.toJson pattern
  | .named decl, storable, count + 1, _ => named_recovers storable
  | .tuple elements, storable, count + 1, deep => by
    simp only [toJson, Json.depth_variant, Json.depth_array] at deep
    have elements_recover := recovers_iterateAll elements storable count (by omega)
    rw [toJson, array_toJsonAll]
    exact recovers_holding ((Recovers.list elements_recover).map Pattern.tuple) fun _ => rfl
  | .wildcard, _, count + 1, _ => recovers_constant fun _ => rfl

theorem recovers_iterateAll : (elements : List Pattern) → StorableAll elements → (count : Nat) →
    Json.depthOfItems (toJsonAll elements) < count →
      ∀ element ∈ elements, (iterate decoderStep count).Recovers element.toJson element
  | [], _, _, _ => by simp
  | element :: rest, storable, count, deep => by
    simp only [toJsonAll, Json.depthOfItems] at deep
    exact List.forall_mem_cons.mpr ⟨recovers_iterate element storable.1 count (by omega),
      recovers_iterateAll rest storable.2 count (by omega)⟩

end

theorem recovers {pattern : Pattern} (storable : pattern.Storable) :
    decoder.Recovers pattern.toJson pattern :=
  recovers_recursive (recovers_iterate pattern storable)

end Pattern

theorem Binding.recovers {binding : Binding} (storable : binding.Storable) :
    Binding.decoder.Recovers binding.toJson binding := by
  have isMember := recovers_bool binding.isMember
  have isMutable := recovers_bool binding.isMutable
  have pattern := Pattern.recovers storable.1
  have initializer := Expr.optional_recovers storable.2
  refine recovers_record rfl (by decide)
    (by simp [isMember.legible, isMutable.legible, pattern.legible, initializer.legible])
    fun fields holds => ?_
  simp only [List.forall_mem_cons] at holds
  simp [holds.1.required isMember, holds.2.1.required isMutable, holds.2.2.1.required pattern,
    holds.2.2.2.1.optional initializer]

theorem RoutineKind.recovers (kind : RoutineKind) :
    RoutineKind.decoder.Recovers kind.toJson kind := by
  cases kind <;> exact recovers_constant fun _ => rfl

theorem idsDecoder_recovers {ids : List DeclId} (storable : ∀ id ∈ ids, id.Storable) :
    (Decoder.list DeclId.decoder).Recovers (.list DeclId.toJson ids) ids :=
  Recovers.list fun id within => DeclId.recovers (storable id within)

theorem DeclId.optional_recovers {id : Option DeclId}
    (storable : ∀ present ∈ id, present.Storable) :
    (Decoder.optional DeclId.decoder).Recovers (.optional DeclId.toJson id) id :=
  Recovers.optional fun present within =>
    ⟨DeclId.recovers (storable present within), present.toJson_ne_null⟩

theorem Routine.recovers {routine : Routine} (storable : routine.Storable) :
    Routine.decoder.Recovers routine.toJson routine := by
  obtain ⟨params_storable, body_storable, self_storable, env_storable⟩ := storable
  have kind := routine.kind.recovers
  have params := idsDecoder_recovers params_storable
  have body : (Decoder.optional Body.decoder).Recovers (.optional Body.toJson routine.body)
      routine.body :=
    Recovers.optional fun present within =>
      ⟨Body.recovers (body_storable present within), by rintro ⟨⟩⟩
  have self := DeclId.optional_recovers self_storable
  have isMember := recovers_bool routine.isMember
  have isMutating := recovers_bool routine.isMutating
  have isSynthesized := recovers_bool routine.isSynthesized
  have env := GenericEnv.recovers env_storable
  refine recovers_record rfl (by decide)
    (by simp [kind.legible, params.legible, body.legible, self.legible, isMember.legible,
      isMutating.legible, isSynthesized.legible, env.legible]) fun fields holds => ?_
  simp only [List.forall_mem_cons] at holds
  obtain ⟨kind_holds, params_hold, body_holds, self_holds, isMember_holds, isMutating_holds,
    isSynthesized_holds, env_holds, -⟩ := holds
  simp [kind_holds.required kind, params_hold.required params, body_holds.optional body,
    self_holds.optional self, isMember_holds.required isMember,
    isMutating_holds.required isMutating, isSynthesized_holds.required isSynthesized,
    env_holds.required env]

theorem ConformanceEntry.recovers {entry : ConformanceEntry} (storable : entry.Storable) :
    ConformanceEntry.decoder.Recovers entry.toJson entry := by
  have requirement := DeclId.recovers storable.1
  have implementation := DeclId.recovers storable.2
  refine recovers_record rfl (by decide) (by simp [requirement.legible, implementation.legible])
    fun fields holds => ?_
  simp only [List.forall_mem_cons] at holds
  simp [holds.1.required requirement, holds.2.1.required implementation]

theorem Conformance.recovers {conformance : Conformance} (storable : conformance.Storable) :
    Conformance.decoder.Recovers conformance.toJson conformance := by
  have view := DeclId.recovers storable.1
  have entries := Recovers.list fun entry within =>
    ConformanceEntry.recovers (storable.2 entry within)
  have span := conformance.span.recovers
  refine recovers_record rfl (by decide) (by simp [view.legible, entries.legible, span.legible])
    fun fields holds => ?_
  simp only [List.forall_mem_cons] at holds
  simp [holds.1.required view, holds.2.1.required entries, holds.2.2.1.required span]

namespace DeclKind

theorem conformancesDecoder_recovers {conformances : List Conformance}
    (storable : ∀ conformance ∈ conformances, conformance.Storable) :
    conformancesDecoder.Recovers (.list Conformance.toJson conformances) conformances :=
  Recovers.list fun conformance within => Conformance.recovers (storable conformance within)

theorem single_recovers {A B : Type} {decoder : Decoder A} {json : Json} {value : A} (name : String)
    (make : A → B) (value_recovers : decoder.Recovers json value) :
    (single name make decoder).Recovers (.record [(name, json)]) (make value) := by
  refine recovers_record rfl (by simp) (by simp [value_recovers.legible])
    fun fields holds => ?_
  simp only [List.forall_mem_cons] at holds
  simp [holds.1.required value_recovers]

theorem parameterDecoder_recovers (label : Option String) :
    parameterDecoder.Recovers (.record [("label", .optional .text label)]) (.parameter label) := by
  have label_recovers : (Decoder.optional Decoder.string).Recovers (.optional .text label) label :=
    Recovers.optional fun present _ => ⟨recovers_string present, by rintro ⟨⟩⟩
  refine recovers_record rfl (by decide) (by simp [label_recovers.legible]) fun fields holds => ?_
  simp only [List.forall_mem_cons] at holds
  simp [holds.1.optional label_recovers]

theorem productDecoder_recovers {members : List DeclId} {conformances : List Conformance}
    {env : GenericEnv} (storable : (DeclKind.product members conformances env).Storable) :
    productDecoder.Recovers
      (.record [membersJson members, conformancesJson conformances, ("generic_env", env.toJson)])
      (.product members conformances env) := by
  have members_recover := idsDecoder_recovers storable.1
  have conformances_recover := conformancesDecoder_recovers storable.2.1
  have env_recovers := GenericEnv.recovers storable.2.2
  refine recovers_record rfl (by decide)
    (by simp [membersJson, conformancesJson, members_recover.legible,
      conformances_recover.legible, env_recovers.legible]) fun fields holds => ?_
  simp only [List.forall_mem_cons] at holds
  obtain ⟨members_hold, conformances_hold, env_holds, -⟩ := holds
  have members_read : fields.required "members" idsDecoder = some members :=
    members_hold.required members_recover
  have conformances_read : fields.required "conformances" conformancesDecoder = some conformances :=
    conformances_hold.required conformances_recover
  simp [members_read, conformances_read, env_holds.required env_recovers]

theorem aliasDecoder_recovers {aliased : Ty} {conformances : List Conformance}
    (storable : (DeclKind.alias aliased conformances).Storable) :
    aliasDecoder.Recovers (.record [("aliased", aliased.toJson), conformancesJson conformances])
      (.alias aliased conformances) := by
  have aliased_recovers := Ty.recovers storable.1
  have conformances_recover := conformancesDecoder_recovers storable.2
  refine recovers_record rfl (by decide)
    (by simp [conformancesJson, aliased_recovers.legible, conformances_recover.legible])
    fun fields holds => ?_
  simp only [List.forall_mem_cons] at holds
  have conformances_read : fields.required "conformances" conformancesDecoder = some conformances :=
    holds.2.1.required conformances_recover
  simp [holds.1.required aliased_recovers, conformances_read]

theorem extensionDecoder_recovers {extended : DeclId} {members : List DeclId}
    (storable : (DeclKind.typeExtension extended members).Storable) :
    extensionDecoder.Recovers (.record [("extended", extended.toJson), membersJson members])
      (.typeExtension extended members) := by
  have extended_recovers := DeclId.recovers storable.1
  have members_recover := idsDecoder_recovers storable.2
  refine recovers_record rfl (by decide)
    (by simp [membersJson, extended_recovers.legible, members_recover.legible])
    fun fields holds => ?_
  simp only [List.forall_mem_cons] at holds
  have members_read : fields.required "members" idsDecoder = some members :=
    holds.2.1.required members_recover
  simp [holds.1.required extended_recovers, members_read]

theorem recovers {kind : DeclKind} (storable : kind.Storable) :
    decoder.Recovers kind.toJson kind := by
  cases kind with
  | module members =>
    exact recovers_holding
      (single_recovers "members" DeclKind.module (idsDecoder_recovers storable)) fun _ => rfl
  | imported => exact recovers_constant fun _ => rfl
  | binding bound =>
    exact recovers_holding ((Binding.recovers storable).map DeclKind.binding) fun _ => rfl
  | «variable» hasStorage =>
    exact recovers_holding
      (single_recovers "has_storage" DeclKind.variable (recovers_bool hasStorage)) fun _ => rfl
  | function routine =>
    exact recovers_holding ((Routine.recovers storable).map DeclKind.function) fun _ => rfl
  | parameter label => exact recovers_holding (parameterDecoder_recovers label) fun _ => rfl
  | product => exact recovers_holding (productDecoder_recovers storable) fun _ => rfl
  | view members =>
    exact recovers_holding
      (single_recovers "members" DeclKind.view (idsDecoder_recovers storable)) fun _ => rfl
  | abstractType => exact recovers_constant fun _ => rfl
  | «alias» => exact recovers_holding (aliasDecoder_recovers storable) fun _ => rfl
  | typeExtension => exact recovers_holding (extensionDecoder_recovers storable) fun _ => rfl
  | genericParam => exact recovers_constant fun _ => rfl

end DeclKind

theorem Decl.recovers {decl : Decl} (storable : decl.Storable) :
    Decl.decoder.Recovers decl.toJson decl := by
  obtain ⟨kind_storable, ty_storable, parent_storable⟩ := storable
  have name := recovers_string decl.name
  have kind := DeclKind.recovers kind_storable
  have ty := Ty.recovers ty_storable
  have parent := DeclId.optional_recovers parent_storable
  have span := decl.span.recovers
  refine recovers_record rfl (by decide)
    (by simp [name.legible, kind.legible, ty.legible, parent.legible, span.legible])
    fun fields holds => ?_
  simp only [List.forall_mem_cons] at holds
  obtain ⟨name_holds, kind_holds, ty_holds, parent_holds, span_holds, -⟩ := holds
  simp [name_holds.required name, kind_holds.required kind, ty_holds.required ty,
    parent_holds.optional parent, span_holds.required span]

/-- A program is given back declaration by declaration. -/
theorem Program.recovers {program : Program} (storable : program.Storable) :
    Program.decoder.Recovers program.toJson program := by
  have decls := Recovers.list fun decl within =>
    Decl.recovers (storable decl (Array.mem_toList_iff.mp within))
  refine recovers_record rfl (by decide) (by simp [decls.legible]) fun fields holds => ?_
  simp only [List.forall_mem_cons] at holds
  simp [holds.1.required decls]

end Lowering
