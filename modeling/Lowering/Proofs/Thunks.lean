import Lowering.Proofs.IR.Signatures
import Lowering.Proofs.Pass.Lasting

/-
This file tells thunks apart. Two of them share a name just if they call one implementation for
requirements of one path, and no function of a declaration has the name of a thunk. Where paths
discern requirements, no function is declared with another signature than it has.
-/

namespace Lowering

open IR

section Names

variable {program : Program} {names : Names} {implementation requirement : DeclId} {name : String}

/-- The answer to a request for a thunk names it. -/
theorem NameRequest.reply_names
    (given : ((NameRequest.thunk implementation requirement).reply program names).1 = .ok name) :
    program.NamesThunk ((NameRequest.thunk implementation requirement).reply program names).2
      ⟨requirement, implementation⟩ name := by
  cases done : NamesM.thunkName program implementation requirement names with
  | error => simp [reply, step, done] at given
  | ok thunk after =>
    obtain rfl : thunk = name := by simpa [reply, step, done] using given
    obtain ⟨own, path, named, qualifies, same⟩ := NamesM.run_thunkName done
    simp only [reply, step, done]
    exact ⟨own, path, (NamesM.run_functionName named).2.1, qualifies, same⟩

/-- A thunk is named if its implementation and its requirement have qualified names. -/
theorem NameRequest.reply_thunk_ok {own path : String}
    (implementing : program.qualifiedName implementation = .ok own)
    (required : program.qualifiedName requirement = .ok path) (names : Names) :
    ∃ name, ((NameRequest.thunk implementation requirement).reply program names).1 = .ok name := by
  have named : ∃ function last,
      NamesM.functionName program implementation names = .ok function last := by
    rw [NamesM.functionName_eq]
    cases names.assigned.get? implementation with
    | some given => exact ⟨given, names, rfl⟩
    | none =>
      simp only [implementing]
      exact ⟨_, _, rfl⟩
  obtain ⟨function, last, named⟩ := named
  have thunk : NamesM.thunkName program implementation requirement names =
      .ok s!"{function}$witness${path}" last := by
    refine (run_bind _ _ _ _ _).mpr ⟨function, last, named, (run_bind _ _ _ _ _).mpr ?_⟩
    exact ⟨path, last, by simp [NamesM.qualified, required], (run_pure _ _ _ _).mpr ⟨rfl, rfl⟩⟩
  refine ⟨s!"{function}$witness${path}", ?_⟩
  simp only [reply, step, thunk]

variable (plain : program.PlainNames) (distinct : names.Distinct program)
  {requests : List NameRequest} {place : Nat}
  (asked : requests[place]? = some (.thunk implementation requirement))

include plain distinct asked

theorem session_answers {own path : String}
    (implementing : program.qualifiedName implementation = .ok own)
    (required : program.qualifiedName requirement = .ok path) :
    ∃ name, (session program requests names).1[place]? = some (.ok name) := by
  obtain ⟨before, _, given, _⟩ := session_reply plain distinct asked
  obtain ⟨name, same⟩ := NameRequest.reply_thunk_ok implementing required before
  exact ⟨name, given.trans (congrArg some same)⟩

section Given

variable (given : (session program requests names).1[place]? = some (.ok name))

include given

/-- What is answered for a thunk names it at the end. -/
theorem session_namesThunk :
    program.NamesThunk (session program requests names).2 ⟨requirement, implementation⟩ name := by
  obtain ⟨before, _, answered, later⟩ := session_reply plain distinct asked
  have given := Option.some.inj (answered.symm.trans given)
  exact (NameRequest.reply_names given).of_extends later

/-- Another thunk has the name just if it calls the same for a requirement of the same path. -/
theorem session_shares {second : Nat} {other again : DeclId}
    (also : requests[second]? = some (.thunk other again)) :
    (session program requests names).1[second]? = some (.ok name) ↔
      implementation = other ∧ program.SharesPath requirement again := by
  have final := (session_names plain requests distinct).1
  have thunk := session_namesThunk plain distinct asked given
  constructor
  · exact fun same => thunk.shares plain final (session_namesThunk plain distinct also same)
  · rintro ⟨rfl, path, required, walked⟩
    obtain ⟨function, own, assigned, qualifies, rfl⟩ := thunk
    obtain ⟨_, _, implementing, _⟩ := final.counted _ _ assigned
    obtain ⟨name, found⟩ := session_answers plain distinct also implementing walked
    obtain ⟨_, _, assigned_again, walked_again, rfl⟩ := session_namesThunk plain distinct also found
    obtain rfl := Option.some.inj (assigned.symm.trans assigned_again)
    obtain rfl := Except.ok.inj (walked.symm.trans walked_again)
    obtain rfl := Except.ok.inj (required.symm.trans qualifies)
    exact found

/-- No declaration has the name of a thunk. -/
theorem session_apart {second : Nat} {id : DeclId}
    (also : requests[second]? = some (.function id)) :
    (session program requests names).1[second]? ≠ some (.ok name) := by
  intro same
  obtain ⟨answer, found, settles⟩ := session_settles plain distinct also
  obtain rfl : answer = .ok name := Option.some.inj (found.symm.trans same)
  exact (session_namesThunk plain distinct asked given).not_assigned plain
    (session_names plain requests distinct).1 id settles

end Given

end Names

/-- Names are distinct, and every function of the module is allotted its name and its signature. -/
structure Job.Allotted (job : Job) (pass : Pass) : Prop where
  distinct : pass.names.Distinct job.program
  functions : ∀ name signature, pass.builder.module.signature? name = some signature →
    job.Allots pass.names name signature

namespace Job.Allotted

variable {job : Job} {pass : Pass} {builder : Builder}

/-- A pass declares no function at its start. -/
theorem start (job : Job) : job.Allotted (Pass.start job.options) :=
  ⟨Names.distinct_empty job.program, fun _ _ present => nomatch present⟩

theorem of_signatures (allotted : job.Allotted pass)
    (same : ∀ name, builder.module.signature? name = pass.builder.module.signature? name) :
    job.Allotted { pass with builder := builder } :=
  ⟨allotted.distinct, fun name signature present =>
    allotted.functions name signature (same name ▸ present)⟩

theorem createBlock (allotted : job.Allotted pass) {name : String} {params : List OperandType}
    {entry : LabelId × List Value}
    (created : BuildM.createBlock name params pass.builder = .ok entry builder) :
    job.Allotted { pass with builder := builder } :=
  allotted.of_signatures (BuildM.signature?_createBlock created)

theorem functionName (allotted : job.Allotted pass) (plain : job.program.PlainNames)
    {id : DeclId} {name : String} {names : Names}
    (given : NamesM.functionName job.program id pass.names = .ok name names) :
    job.Allotted { pass with names := names } := by
  obtain ⟨distinct, grown, _⟩ := allotted.distinct.functionName plain given
  exact ⟨distinct, fun name signature present =>
    (allotted.functions name signature present).of_extends grown⟩

theorem addFunction (allotted : job.Allotted pass) {name : String} {signature : Signature}
    (allots : job.Allots pass.names name signature) :
    job.Allotted { pass with
      builder := pass.builder.modifyModule
        (Module.addFunction · (Function.declared name signature)) } := by
  refine ⟨allotted.distinct, fun other found present => ?_⟩
  rcases Module.signature?_addFunction present with old | ⟨rfl, rfl⟩
  · exact allotted.functions other found old
  · exact allots

end Job.Allotted

/-- Whatever a body does, every function stays allotted. -/
def allottedInside (job : Job) (plain : job.program.PlainNames) : Invariant job where
  Holds := job.Allotted
  define holds _ done := holds.of_signatures (BuildM.signature?_define done)
  append holds _ done := holds.of_signatures (BuildM.signature?_append done)
  report _ holds := ⟨holds.distinct, holds.functions⟩
  names holds given := holds.functionName plain given
  function _ _ holds allots _ := holds.addFunction allots

/-- Every function stays allotted from one declaration to the next. -/
def allottedThroughout (job : Job) (plain : job.program.PlainNames) : Lasting job where
  toInvariant := allottedInside job plain
  cursor _ holds := ⟨holds.distinct, holds.functions⟩
  body _ _ _ _ _ _ created holds := Job.Allotted.createBlock holds created
  conformance found kind _ stated :=
    (allottedInside job plain).keeps_conformance (fun _ holds => ⟨holds.distinct, holds.functions⟩)
      (fun _ _ => trivial)
      (fun _ _ => .build (fun holds created => ⟨Job.Allotted.createBlock holds created, trivial⟩)
        fun _ _ => trivial)
      (fun _ _ holds => ⟨holds.distinct, holds.functions⟩) found kind stated _

/-- Where paths discern requirements, no function is declared with another signature. -/
def allotting (job : Job) (plain : job.program.PlainNames) (discerns : job.program.Discerns) :
    Invariant job :=
  { allottedInside job plain with
    Stops := fun abort _ => ∀ name existing requested,
      abort ≠ .violation (.misuse (.signatureMismatch name existing requested))
    refused := by
      rintro abort pass mild _ name existing requested rfl
      cases mild
    defineStops := fun _ stops name existing requested same =>
      BuildM.Undisputed.define _ _ _ _ _ stops name existing requested (by simpa using same)
    appendStops := fun _ stops name existing requested same =>
      BuildM.Undisputed.append _ _ _ _ stops name existing requested (by simpa using same)
    addressStops := fun _ stops name existing requested same =>
      BuildM.Undisputed.requireAddress _ _ _ _ _ stops name existing requested (by simpa using same)
    functionStops := by
      rintro pass name existing signature holds allots found differs
      have declared := Job.Allotted.functions holds name existing.signature
        (by simp [Module.signature?, found])
      exact (differs (declared.unique plain discerns holds.distinct allots)).elim }

namespace allotting

variable {job : Job} {plain : job.program.PlainNames} {discerns : job.program.Discerns}

theorem keeps_createBlock (name : String) (params : List OperandType) :
    (allotting job plain discerns).Keeps (liftM (BuildM.createBlock name params))
      fun _ => True :=
  .build (fun holds created => ⟨Job.Allotted.createBlock holds created, trivial⟩)
    fun _ stops name existing requested same =>
      BuildM.Undisputed.createBlock _ _ _ _ _ stops name existing requested (by simpa using same)

end allotting

/-- The same from one declaration to the next. -/
def allotments (job : Job) (plain : job.program.PlainNames) (discerns : job.program.Discerns) :
    Lasting job where
  toInvariant := allotting job plain discerns
  cursor _ holds := ⟨holds.distinct, holds.functions⟩
  body _ _ _ _ _ _ created holds := Job.Allotted.createBlock holds created
  conformance found kind _ stated :=
    (allotting job plain discerns).keeps_conformance
      (fun _ holds => ⟨holds.distinct, holds.functions⟩) (fun _ stops => stops)
      allotting.keeps_createBlock (fun _ _ holds => ⟨holds.distinct, holds.functions⟩) found kind
      stated _
  cursorStops _ stops := stops
  blockStops stops _ name existing requested same :=
    BuildM.Undisputed.createBlock _ _ _ _ _ stops name existing requested (by simpa using same)

/-- Where paths discern requirements, no function is declared again with another signature. -/
theorem lower_undisputed {program : Program} (plain : program.PlainNames)
    (discerns : program.Discerns) (id : DeclId) (options : Options) (name : String)
    (existing requested : Signature) :
    lower program id options ≠
      .error (.violation (.misuse (.signatureMismatch name existing requested))) := by
  intro stops
  have kept := (allotments ⟨program, options⟩ plain discerns).keeps_emitModule id
  have begins : (allotments ⟨program, options⟩ plain discerns).Holds (Pass.start options) :=
    Job.Allotted.start ⟨program, options⟩
  unfold lower at stops
  cases ran : Job.emitModule ⟨program, options⟩ id (Pass.start options) with
  | ok => simp [ran] at stops
  | error abort last =>
    simp only [ran] at stops
    exact kept.error _ abort last begins ran name existing requested (Except.error.inj stops)

/--
In any sequence of requests, a thunk is answered with the name of its implementation and the path of
its requirement. Two thunks have the same name just if they have one implementation and requirements
of one path, and no thunk has the name of a declaration. Where paths discern requirements, no lowering
stops because a function is declared with another signature.
-/
theorem session_thunks {program : Program} (plain : program.PlainNames)
    (requests : List NameRequest) :
    (∀ (place : Nat) implementation requirement own path,
      requests[place]? = some (.thunk implementation requirement) →
        program.qualifiedName implementation = .ok own →
          program.qualifiedName requirement = .ok path → ∃ uses,
            (session program requests Names.empty).1[place]? =
              some (.ok s!"{NamesM.numbered own uses}$witness${path}")) ∧
    (∀ (first second : Nat) implementation requirement other again name,
      requests[first]? = some (.thunk implementation requirement) →
        requests[second]? = some (.thunk other again) →
          (session program requests Names.empty).1[first]? = some (.ok name) →
            ((session program requests Names.empty).1[second]? = some (.ok name) ↔
              implementation = other ∧ program.SharesPath requirement again)) ∧
    (∀ (first second : Nat) implementation requirement id name,
      requests[first]? = some (.thunk implementation requirement) →
        requests[second]? = some (.function id) →
          (session program requests Names.empty).1[first]? = some (.ok name) →
            (session program requests Names.empty).1[second]? ≠ some (.ok name)) ∧
    (program.Discerns → ∀ id options name existing requested,
      lower program id options ≠
        .error (.violation (.misuse (.signatureMismatch name existing requested)))) := by
  have start := Names.distinct_empty program
  refine ⟨?_, ?_, ?_, ?_⟩
  · intro place implementation requirement own path asked implementing required
    obtain ⟨name, given⟩ := session_answers plain start asked implementing required
    obtain ⟨function, again, assigned, walked, rfl⟩ := session_namesThunk plain start asked given
    obtain ⟨other, uses, qualifies, rfl, _⟩ :=
      (session_names plain requests start).1.counted _ _ assigned
    obtain rfl := Except.ok.inj (implementing.symm.trans qualifies)
    obtain rfl := Except.ok.inj (required.symm.trans walked)
    exact ⟨uses, given⟩
  · intro first second implementation requirement other again name asked also given
    exact session_shares plain start asked given also
  · intro first second implementation requirement id name asked also given
    exact session_apart plain start asked given also
  · exact lower_undisputed plain

open Assembly in
/-- Overloaded methods satisfy requirements that have names of their own. -/
def discerning : Assembly Unit := do
  let main ← addModule "main"
  let view ← addView main "V"
  let reading ← addMethod view "get" [] .int false
  let writing ← addMethod view "set" [] .int true
  let product ← addProduct main "A"
  let first ← addMethod product "get" [] .int false
  let second ← addMethod product "get" [] .int true
  addConformance product view [⟨reading, first⟩, ⟨writing, second⟩]

/-- Thunks for both methods, and one of the methods itself. -/
def discerningRequests : List NameRequest :=
  [.thunk ⟨7⟩ ⟨2⟩, .thunk ⟨9⟩ ⟨2⟩, .function ⟨9⟩, .thunk ⟨9⟩ ⟨4⟩, .thunk ⟨7⟩ ⟨2⟩]

theorem session_thunks_discerning :
    discerning.built.PlainNames ∧ discerning.built.Discerns ∧
    (session discerning.built discerningRequests Names.empty).1.map Except.toOption =
      [some "A.get$witness$V.get", some "A.get.1$witness$V.get", some "A.get.1",
        some "A.get.1$witness$V.set", some "A.get$witness$V.get"] ∧
    (session discerning.built discerningRequests Names.empty).1[4]? =
      some (.ok "A.get$witness$V.get") ∧
    (session discerning.built discerningRequests Names.empty).1[1]? ≠
      some (.ok "A.get$witness$V.get") ∧
    (session discerning.built discerningRequests Names.empty).1[2]? ≠
      some (.ok "A.get$witness$V.get") ∧
    ∀ name existing requested, lower discerning.built ⟨0⟩ Options.standard ≠
      .error (.violation (.misuse (.signatureMismatch name existing requested))) := by
  have plain : discerning.built.PlainNames := by decide +kernel
  have discerns : discerning.built.Discerns := by decide +kernel
  have first : (session discerning.built discerningRequests Names.empty).1[0]? =
      some (.ok "A.get$witness$V.get") := by decide +kernel
  obtain ⟨_, shared, apart, declared⟩ := session_thunks plain discerningRequests
  refine ⟨plain, discerns, by decide +kernel, ?_, ?_, ?_, declared discerns _ _⟩
  · exact (shared 0 4 ⟨7⟩ ⟨2⟩ ⟨7⟩ ⟨2⟩ _ rfl rfl first).mpr ⟨rfl, by decide +kernel⟩
  · intro same
    exact absurd ((shared 0 1 ⟨7⟩ ⟨2⟩ ⟨9⟩ ⟨2⟩ _ rfl rfl first).mp same).1 (by decide)
  · exact apart 0 2 ⟨7⟩ ⟨2⟩ ⟨9⟩ _ rfl rfl first

open Assembly in
/-- A view requires two functions of one name, and one method satisfies both. -/
def overloading : Assembly Unit := do
  let main ← addModule "main"
  let view ← addView main "V"
  let reading ← addMethod view "get" [] .int false
  let writing ← addMethod view "get" [] .int true
  let product ← addProduct main "A"
  let method ← addMethod product "get" [] .int false
  addConformance product view [⟨reading, method⟩, ⟨writing, method⟩]

open Assembly in
theorem overloading_assembled : overloading.built.Assembled := by
  refine Preserves.built ?_
  refine .bind (Offered.addModule _).assembles fun main => ?_
  refine .bind (Offered.addView _ _).assembles fun view => ?_
  refine .bind (Offered.addMethod _ _ _ _ _).assembles fun reading => ?_
  refine .bind (Offered.addMethod _ _ _ _ _).assembles fun writing => ?_
  refine .bind (Offered.addProduct _ _).assembles fun product => ?_
  refine .bind (Offered.addMethod _ _ _ _ _).assembles fun method => ?_
  exact (Offered.addConformance _ _ _).assembles

/--
Thunks for requirements of one path have one name, although the requirements differ. The second
thunk is refused, because it takes the address of its receiver.
-/
theorem overloading_collides :
    overloading.built.PlainNames ∧ overloading.built.Assembled ∧
    (session overloading.built [.thunk ⟨7⟩ ⟨2⟩, .thunk ⟨7⟩ ⟨4⟩] Names.empty).1 =
      [.ok "A.get$witness$V.get", .ok "A.get$witness$V.get"] ∧
    lower overloading.built ⟨0⟩ Options.standard =
      .error (.violation (.misuse (.signatureMismatch "A.get$witness$V.get"
        ⟨[.object (.existential [⟨⟨1⟩, "V"⟩])], .object .int⟩
        ⟨[.address (.existential [⟨⟨1⟩, "V"⟩])], .object .int⟩))) := by
  refine ⟨by decide +kernel, overloading_assembled, by decide +kernel, by decide +kernel⟩

end Lowering
