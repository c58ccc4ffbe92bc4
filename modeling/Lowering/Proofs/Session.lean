import Lowering.Proofs.Pass.Origin
import Lowering.Proofs.Program.Assembled
import Lowering.Proofs.Program.Path

/-
This file follows any sequence of requests for names. Different declarations get different names,
and a declaration keeps its own.
-/

namespace Lowering

/-- What may be asked of the names of a module. -/
inductive NameRequest where
  | function (id : DeclId)
  | thunk (implementation requirement : DeclId)
deriving DecidableEq, Inhabited, Repr

namespace NameRequest

/-- The naming step that a request asks for. -/
def step (program : Program) : NameRequest → NamesM String
  | .function id => NamesM.functionName program id
  | .thunk implementation requirement => NamesM.thunkName program implementation requirement

/-- The answer to a request, and the names after it, also where there is no answer. -/
def reply (program : Program) (request : NameRequest) (names : Names) : Answer String × Names :=
  match request.step program names with
  | .ok name after => (.ok name, after)
  | .error error after => (.error error, after)

end NameRequest

/-- The answers to a sequence of requests, and the names after them. -/
def session (program : Program) : List NameRequest → Names → List (Answer String) × Names
  | [], names => ([], names)
  | request :: rest, names =>
    let (answer, between) := request.reply program names
    let (answers, after) := session program rest between
    (answer :: answers, after)

namespace Names

/-- A declaration that has no name yet gets the next use of a path. -/
def give (names : Names) (id : DeclId) (path : String) : Names where
  assigned := names.assigned.insert id (NamesM.numbered path ((names.uses.get? path).getD 0))
  uses := names.uses.insert path ((names.uses.get? path).getD 0 + 1)

/-- The names given are counted uses of qualified names, and no two of them are the same. -/
structure Distinct (program : Program) (names : Names) : Prop where
  counted : ∀ id name, names.assigned.get? id = some name → ∃ path uses,
    program.qualifiedName id = .ok path ∧ name = NamesM.numbered path uses ∧
      uses < (names.uses.get? path).getD 0
  injective : ∀ id other name, names.assigned.get? id = some name →
    names.assigned.get? other = some name → id = other

/-- Names that were given stay as they are. -/
def Extends (before after : Names) : Prop :=
  ∀ id name, before.assigned.get? id = some name → after.assigned.get? id = some name

/-- The answer to a request for the name of a declaration, now and from now on. -/
def Settles (program : Program) (names : Names) (id : DeclId) : Answer String → Prop
  | .ok name => names.assigned.get? id = some name
  | .error error => program.qualifiedName id = .error error

variable {program : Program} {names : Names}

theorem distinct_empty (program : Program) : Names.empty.Distinct program where
  counted _ _ assigned := by simp [Names.empty, Table.get?_empty] at assigned
  injective _ _ _ assigned := by simp [Names.empty, Table.get?_empty] at assigned

theorem assigned_give {id other : DeclId} {path name : String}
    (assigned : (names.give id path).assigned.get? other = some name) :
    names.assigned.get? other = some name ∨
      other = id ∧ name = NamesM.numbered path ((names.uses.get? path).getD 0) := by
  by_cases here : other = id
  · subst here
    exact Or.inr ⟨rfl, by simpa [give] using assigned.symm⟩
  · rw [give, Table.get?_insert_of_ne _ _ _ _ here] at assigned
    exact Or.inl assigned

theorem uses_le_give (id : DeclId) (path other : String) :
    (names.uses.get? other).getD 0 ≤ ((names.give id path).uses.get? other).getD 0 := by
  by_cases here : other = path
  · subst here
    simp [give]
  · simp [give, Table.get?_insert_of_ne _ _ _ _ here]

theorem extends_give {id : DeclId} (free : names.assigned.get? id = none) (path : String) :
    names.Extends (names.give id path) := by
  intro other name assigned
  have apart : other ≠ id := by
    rintro rfl
    rw [free] at assigned
    cases assigned
  rw [give, Table.get?_insert_of_ne _ _ _ _ apart]
  exact assigned

theorem Distinct.hasName (distinct : names.Distinct program) {id : DeclId} {name : String}
    (assigned : names.assigned.get? id = some name) : program.HasName id name := by
  obtain ⟨path, uses, qualifies, same, _⟩ := distinct.counted id name assigned
  exact ⟨path, uses, qualifies, same⟩

/-- A name that is given is a use that nothing else has. -/
theorem Distinct.give (plain : program.PlainNames) (distinct : names.Distinct program)
    {id : DeclId} {path : String} (qualifies : program.qualifiedName id = .ok path) :
    (names.give id path).Distinct program := by
  have fresh {other : DeclId} :
      names.assigned.get? other ≠
        some (NamesM.numbered path ((names.uses.get? path).getD 0)) := by
    intro assigned
    obtain ⟨old, uses, qualifies_old, same, earlier⟩ := distinct.counted other _ assigned
    obtain ⟨rfl, _⟩ := NamesM.numbered_inj (plain.qualifiedName qualifies)
      (plain.qualifiedName qualifies_old) same
    omega
  constructor
  · intro other name assigned
    rcases assigned_give assigned with old | ⟨rfl, rfl⟩
    · obtain ⟨own, uses, qualifies_own, same, earlier⟩ := distinct.counted other name old
      exact ⟨own, uses, qualifies_own, same,
        Nat.lt_of_lt_of_le earlier (uses_le_give id path own)⟩
    · exact ⟨path, _, qualifies, rfl, by simp [Names.give]⟩
  · intro first second name left right
    rcases assigned_give left with old | ⟨rfl, rfl⟩ <;>
      rcases assigned_give right with older | ⟨rfl, same⟩
    · exact distinct.injective first second name old older
    · exact (fresh (same ▸ old)).elim
    · exact (fresh older).elim
    · rfl

theorem Settles.of_extends {after : Names} {id : DeclId} {answer : Answer String}
    (grown : names.Extends after) (settles : names.Settles program id answer) :
    after.Settles program id answer := by
  cases answer with
  | ok name => exact grown id name settles
  | error => exact settles

/-- There is one answer for a declaration. -/
theorem Settles.unique (distinct : names.Distinct program) {id : DeclId}
    {answer other : Answer String} (first : names.Settles program id answer)
    (second : names.Settles program id other) : answer = other := by
  have named {name : String} {error : QueryError}
      (assigned : names.assigned.get? id = some name)
      (unqualified : program.qualifiedName id = .error error) : False := by
    obtain ⟨path, _, qualifies, _⟩ := distinct.counted id name assigned
    rw [unqualified] at qualifies
    cases qualifies
  cases answer <;> cases other
  · rw [Settles] at first second
    rw [first] at second
    exact congrArg Except.error (Except.error.inj second)
  · exact (named second first).elim
  · exact (named first second).elim
  · rw [Settles] at first second
    rw [first] at second
    exact congrArg Except.ok (Option.some.inj second)

end Names

section Steps

open Names

variable {program : Program} {names : Names}

/-- A name is looked up, or else given out. -/
theorem NamesM.functionName_eq (program : Program) (id : DeclId) (names : Names) :
    functionName program id names =
      match names.assigned.get? id with
      | some name => .ok name names
      | none =>
        match program.qualifiedName id with
        | .ok path => .ok (numbered path ((names.uses.get? path).getD 0)) (names.give id path)
        | .error error => .error error names := by
  unfold functionName
  change (match names.assigned.get? id with
    | some name => (pure name : NamesM String)
    | none => _) names = _
  cases names.assigned.get? id with
  | some name => rfl
  | none =>
    simp only [qualified]
    cases program.qualifiedName id <;> rfl

/-- A request for the name of a declaration is settled, and keeps the names distinct. -/
theorem NameRequest.reply_function (plain : program.PlainNames)
    (distinct : names.Distinct program) (id : DeclId) :
    ((NameRequest.function id).reply program names).2.Distinct program ∧
      names.Extends ((NameRequest.function id).reply program names).2 ∧
      ((NameRequest.function id).reply program names).2.Settles program id
        ((NameRequest.function id).reply program names).1 := by
  unfold reply step
  simp only [NamesM.functionName_eq]
  cases found : names.assigned.get? id with
  | some name => exact ⟨distinct, fun _ _ kept => kept, found⟩
  | none =>
    cases qualifies : program.qualifiedName id with
    | ok path =>
      exact ⟨distinct.give plain qualifies, extends_give found path, by simp [Settles, give]⟩
    | error error => exact ⟨distinct, fun _ _ kept => kept, qualifies⟩

/-- A name that is looked up or given out keeps the names distinct, and is no other's. -/
theorem Names.Distinct.functionName (plain : program.PlainNames)
    (distinct : names.Distinct program) {id : DeclId} {name : String} {after : Names}
    (given : NamesM.functionName program id names = .ok name after) :
    after.Distinct program ∧ names.Extends after ∧ after.assigned.get? id = some name := by
  obtain ⟨kept, grown, settles⟩ := NameRequest.reply_function plain distinct id
  simp only [NameRequest.reply, NameRequest.step, given] at kept grown settles
  exact ⟨kept, grown, settles⟩

/-- The names after a request for a thunk are those after the request for its implementation. -/
theorem NameRequest.reply_thunk (program : Program) (names : Names)
    (implementation requirement : DeclId) :
    ((NameRequest.thunk implementation requirement).reply program names).2 =
      ((NameRequest.function implementation).reply program names).2 := by
  unfold reply step NamesM.thunkName
  simp only [bind, EStateM.bind]
  cases NamesM.functionName program implementation names with
  | error => rfl
  | ok name between =>
    simp only [NamesM.qualified]
    cases program.qualifiedName requirement <;> rfl

theorem NameRequest.reply_distinct (plain : program.PlainNames)
    (distinct : names.Distinct program) (request : NameRequest) :
    (request.reply program names).2.Distinct program ∧
      names.Extends (request.reply program names).2 := by
  cases request with
  | function id =>
    obtain ⟨kept, grown, _⟩ := reply_function plain distinct id
    exact ⟨kept, grown⟩
  | thunk implementation requirement =>
    obtain ⟨kept, grown, _⟩ := reply_function plain distinct implementation
    rw [reply_thunk]
    exact ⟨kept, grown⟩

/-- After any requests the names are distinct, and those from before are still there. -/
theorem session_names (plain : program.PlainNames) (requests : List NameRequest)
    (distinct : names.Distinct program) :
    (session program requests names).2.Distinct program ∧
      names.Extends (session program requests names).2 := by
  induction requests generalizing names with
  | nil => exact ⟨distinct, fun _ _ kept => kept⟩
  | cons request rest rest_ih =>
    obtain ⟨kept, grown⟩ := request.reply_distinct plain distinct
    obtain ⟨last, later⟩ := rest_ih kept
    exact ⟨last, fun id name assigned => later id name (grown id name assigned)⟩

/-- A request is answered from names that are distinct, and what it adds to them stays. -/
theorem session_reply (plain : program.PlainNames) {requests : List NameRequest}
    (distinct : names.Distinct program) {place : Nat} {request : NameRequest}
    (asked : requests[place]? = some request) :
    ∃ before : Names, before.Distinct program ∧
      (session program requests names).1[place]? = some (request.reply program before).1 ∧
      (request.reply program before).2.Extends (session program requests names).2 := by
  induction requests generalizing names place with
  | nil => cases asked
  | cons first rest rest_ih =>
    obtain ⟨kept, _⟩ := first.reply_distinct plain distinct
    cases place with
    | zero =>
      obtain rfl : first = request := by simpa using asked
      exact ⟨names, distinct, rfl, (session_names plain rest kept).2⟩
    | succ place => exact rest_ih kept (by simpa using asked)

/-- What is answered for a declaration is settled at the end. -/
theorem session_settles (plain : program.PlainNames) {requests : List NameRequest}
    (distinct : names.Distinct program) {place : Nat} {id : DeclId}
    (asked : requests[place]? = some (.function id)) :
    ∃ answer, (session program requests names).1[place]? = some answer ∧
      (session program requests names).2.Settles program id answer := by
  obtain ⟨before, clear, given, later⟩ := session_reply plain distinct asked
  obtain ⟨_, _, settles⟩ := NameRequest.reply_function plain clear id
  exact ⟨_, given, settles.of_extends later⟩

end Steps

/--
In any sequence of requests, a declaration with a qualified name is answered with a use of it, all
requests for a declaration have the same answer, and no two declarations get the same name.
-/
theorem session_distinct {program : Program} (plain : program.PlainNames)
    (requests : List NameRequest) :
    (∀ (place : Nat) id path, requests[place]? = some (.function id) →
      program.qualifiedName id = .ok path → ∃ uses,
        (session program requests Names.empty).1[place]? =
          some (.ok (NamesM.numbered path uses))) ∧
    (∀ (first second : Nat) id, requests[first]? = some (.function id) →
      requests[second]? = some (.function id) →
        (session program requests Names.empty).1[first]? =
          (session program requests Names.empty).1[second]?) ∧
    ∀ (first second : Nat) id other name, requests[first]? = some (.function id) →
      requests[second]? = some (.function other) → id ≠ other →
        (session program requests Names.empty).1[first]? = some (.ok name) →
          (session program requests Names.empty).1[second]? ≠ some (.ok name) := by
  have start := Names.distinct_empty program
  obtain ⟨distinct, _⟩ := session_names plain requests start
  refine ⟨?_, ?_, ?_⟩
  · intro place id path asked qualifies
    obtain ⟨answer, given, settles⟩ := session_settles plain start asked
    cases answer with
    | error error =>
      rw [Names.Settles, qualifies] at settles
      cases settles
    | ok name =>
      obtain ⟨own, uses, qualifies_own, rfl, _⟩ := distinct.counted id name settles
      rw [qualifies] at qualifies_own
      obtain rfl := Except.ok.inj qualifies_own
      exact ⟨uses, given⟩
  · intro first second id left right
    obtain ⟨answer, given, settles⟩ := session_settles plain start left
    obtain ⟨other, found, settles_other⟩ := session_settles plain start right
    rw [given, found, settles.unique distinct settles_other]
  · intro first second id other name left right apart given same
    obtain ⟨answer, found, settles⟩ := session_settles plain start left
    obtain ⟨again, found_again, settles_again⟩ := session_settles plain start right
    obtain rfl : answer = .ok name := Option.some.inj (found.symm.trans given)
    obtain rfl : again = .ok name := Option.some.inj (found_again.symm.trans same)
    exact apart (distinct.injective id other name settles settles_again)

open Assembly in
/-- Overloads, constructors, an extension and local functions that share their paths. -/
def sharing : Assembly Unit := do
  let main ← addModule "main"
  let first ← addFunction main "f" [] .int
  let second ← addFunction main "f" [] .bool
  discard <| addFunction first "g" [] .int
  discard <| addFunction second "g" [] .int
  let product ← addProduct main "A"
  discard <| addConstructor product []
  discard <| addConstructor product []
  discard <| addMethod product "m" [] .int false
  let extended ← addExtension main product
  discard <| addMethod extended "m" [] .int false
  let other ← addModule "other"
  discard <| addFunction other "f" [] .int

/-- Every function of the program, out of order, and some of them again. -/
def sharingRequests : List NameRequest :=
  [.function ⟨2⟩, .function ⟨1⟩, .thunk ⟨13⟩ ⟨10⟩, .function ⟨16⟩, .function ⟨4⟩, .function ⟨3⟩,
    .function ⟨6⟩, .function ⟨8⟩, .function ⟨10⟩, .function ⟨13⟩, .function ⟨1⟩, .function ⟨99⟩]

theorem session_distinct_sharing :
    sharing.built.PlainNames ∧
    (session sharing.built sharingRequests Names.empty).1.map Except.toOption =
      [some "f", some "f.1", some "A.m$witness$A.m", some "f.2", some "f.g", some "f.g.1",
        some "A.init", some "A.init.1", some "A.m.1", some "A.m", some "f.1", none] ∧
    (session sharing.built sharingRequests Names.empty).1[1]? =
      (session sharing.built sharingRequests Names.empty).1[10]? ∧
    (session sharing.built sharingRequests Names.empty).1[8]? ≠ some (.ok "A.m") := by
  have plain : sharing.built.PlainNames := by decide +kernel
  have answers : (session sharing.built sharingRequests Names.empty).1.map Except.toOption =
      [some "f", some "f.1", some "A.m$witness$A.m", some "f.2", some "f.g", some "f.g.1",
        some "A.init", some "A.init.1", some "A.m.1", some "A.m", some "f.1", none] := by
    decide +kernel
  obtain ⟨_, same, apart⟩ := session_distinct plain sharingRequests
  refine ⟨plain, answers, same 1 10 ⟨1⟩ rfl rfl, ?_⟩
  refine apart 9 8 ⟨13⟩ ⟨10⟩ "A.m" rfl rfl (by decide) ?_
  have here := congrArg (·[9]?) answers
  rw [List.getElem?_map] at here
  obtain ⟨answer, found, seen⟩ := Option.map_eq_some_iff.mp here
  rw [found]
  cases answer with
  | ok name => rw [Option.some.inj seen]
  | error => cases seen

end Lowering
