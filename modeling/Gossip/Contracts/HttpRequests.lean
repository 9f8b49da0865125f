import Gossip.Semantics.ApiServer

/-! # Answering HTTP requests

For which targets a request is answered at all, and for which the handler that runs is the
one that is registered under the endpoint's name. Both hang on how the target is cut: the
prefix is looked for from the end of the target, without its last slash, and it is cut off
with the slash. -/

namespace Gossip.Api

open Foundation

/-! ## Cutting the target -/

def apiPrefix : Text := "/api/v1".toList

def apiPrefixSlash : Text := "/api/v1/".toList

def Versioned (target : Text) : Prop :=
  apiPrefix <+: target ∧ ¬ apiPrefix <:+: target.tail

instance (target : Text) : Decidable (Versioned target) := by
  unfold Versioned
  infer_instance

def endpoint (target : Text) : Text :=
  if Versioned target then target.drop 8 else target.drop 1

theorem lastOccurrence_apiPrefix_iff (target : Text) :
    lastOccurrence "/api/v1".toList target = some 0 ↔ Versioned target :=
  lastOccurrence_eq_zero_iff (by simp)

def TooShort (target : Text) : Prop := target = [] ∨ target = apiPrefix

instance (target : Text) : Decidable (TooShort target) := by
  unfold TooShort
  infer_instance

theorem versioned_apiPrefix : Versioned apiPrefix := by decide

theorem not_versioned_nil : ¬ Versioned [] := by decide

theorem tooShort_iff (target : Text) :
    TooShort target ↔ target.length < if Versioned target then 8 else 1 := by
  constructor
  · rintro (rfl | rfl)
    · rw [if_neg not_versioned_nil]
      decide
    · rw [if_pos versioned_apiPrefix]
      decide
  · intro short
    split at short
    next versioned =>
      -- the prefix itself has seven characters
      rcases versioned.1 with ⟨rest, rfl⟩
      have length : apiPrefix.length = 7 := rfl
      rw [List.length_append] at short
      obtain rfl := List.length_eq_zero_iff.mp (show rest.length = 0 by omega)
      exact .inr (List.append_nil _)
    next => exact .inl (List.length_eq_zero_iff.mp (Nat.lt_one_iff.mp short))

theorem substr_target (target : Text) :
    target.substr
        (if decide (lastOccurrence "/api/v1".toList target = some 0) then
          "/api/v1/".toList.length else 1) =
      if TooShort target then .error .outOfRange else .ok (endpoint target) := by
  have slash : "/api/v1/".toList.length = 8 := rfl
  simp only [decide_eq_true_eq, lastOccurrence_apiPrefix_iff, Text.substr, tooShort_iff, slash,
    endpoint]
  split <;> rfl

/-! ## What becomes of a request -/

def ApiServer.handlers (server : ApiServer) : Verb → Text → Option ApiFunctionType
  | .post => server.posts
  | .get => server.gets
  | .other _ => fun _ => none

theorem dispatch_eq (server : ApiServer) (target : Text) (req : Request) (res : Response) :
    dispatch server target req res =
      match server.handlers req.method target with
      | some value => (some (req.method, target), value req)
      | none => (none, res) := by
  unfold dispatch invoke ApiServer.handlers
  cases req.method <;> rfl

section Handling

variable (payload : Payload) (server : ApiServer) (req : Request)

theorem handleRequest_of_tooShort (ec : Option ErrorCode) (short : TooShort req.target) :
    handleRequest payload server req ec = ⟨none, .error .outOfRange⟩ := by
  simp only [handleRequest, substr_target, if_pos short]

theorem Payload.prepare_own (response : Response)
    (own : response.result = badRequest ∨ response.result = notFound) :
    ∃ prepared, payload.prepare response = .ok prepared ∧
      prepared.result = response.result := by
  rcases payload.acceptsOwn response own with ⟨prepared, accepted⟩
  exact ⟨prepared, accepted, payload.keepsResult response prepared accepted⟩

theorem handleRequest_of_failed (ec : ErrorCode) (long : ¬ TooShort req.target) :
    ∃ response, handleRequest payload server req (some ec) = ⟨none, .ok response⟩ ∧
      response.result = badRequest := by
  rcases payload.prepare_own ⟨req.version, badRequest, ec.what, some "apierver".toList⟩
    (.inl rfl) with ⟨response, prepared, result⟩
  refine ⟨response, ?_, result⟩
  simp only [handleRequest, substr_target, if_neg long, Response.setServer, prepared]

theorem handleRequest_of_missing (long : ¬ TooShort req.target)
    (missing : server.handlers req.method (endpoint req.target) = none) :
    ∃ response, handleRequest payload server req none = ⟨none, .ok response⟩ ∧
      response.result = notFound := by
  rcases payload.prepare_own ⟨req.version, notFound, "Unknown API endpoint".toList,
    some "apierver".toList⟩ (.inr rfl) with ⟨response, prepared, result⟩
  refine ⟨response, ?_, result⟩
  simp only [handleRequest, substr_target, if_neg long, dispatch_eq, missing,
    Response.setServer, prepared]

theorem handleRequest_of_found {value : ApiFunctionType} (long : ¬ TooShort req.target)
    (found : server.handlers req.method (endpoint req.target) = some value) :
    handleRequest payload server req none =
      ⟨some (req.method, endpoint req.target),
        payload.prepare ((value req).setServer "apierver".toList)⟩ := by
  simp only [handleRequest, substr_target, if_neg long, dispatch_eq, found]

/-! ## Every request is answered -/

/-- A response is built, with the status that the read and the lookup call for. -/
def Answers (ec : Option ErrorCode) : Prop :=
  ∃ response, (handleRequest payload server req ec).outcome = .ok response ∧
    (ec ≠ none → response.result = badRequest) ∧
    (ec = none → (handleRequest payload server req ec).invoked = none →
      response.result = notFound)

/-- `prepare_payload` does not throw on what the handler has answered. -/
def Payload.Accepts (answer : Response) : Prop :=
  ∃ prepared, payload.prepare (answer.setServer "apierver".toList) = .ok prepared

/-- A request is answered unless its target is too short for what is cut off, or
`prepare_payload` throws on the answer of the handler it reaches. -/
theorem answers_iff (ec : Option ErrorCode) :
    Answers payload server req ec ↔
      req.target ≠ [] ∧ req.target ≠ apiPrefix ∧
        (ec = none → ∀ value,
          server.handlers req.method (endpoint req.target) = some value →
            payload.Accepts (value req)) := by
  rw [← and_assoc, ← not_or, ← TooShort]
  by_cases short : TooShort req.target
  · simp [Answers, handleRequest_of_tooShort payload server req ec short, short]
  cases ec with
  | some ec =>
      rcases handleRequest_of_failed payload server req ec short with
        ⟨response, handled, result⟩
      simp [Answers, handled, short, result]
  | none =>
      cases found : server.handlers req.method (endpoint req.target) with
      | none =>
          rcases handleRequest_of_missing payload server req short found with
            ⟨response, handled, result⟩
          simp [Answers, handled, short, result]
      | some value =>
          rw [Answers, handleRequest_of_found payload server req short found]
          simp [Payload.Accepts, short]

/-! ## The handler that runs -/

def Names (target name : Text) : Prop :=
  target = apiPrefixSlash ++ name ∨ target = '/' :: name ∧ ¬ apiPrefixSlash <+: target

instance (target name : Text) : Decidable (Names target name) := by
  unfold Names
  infer_instance

/-- The handler of the named endpoint runs, and no other one. -/
structure RoutesExactly : Prop where
  invokes : ∀ verb name, (server.handlers verb name).isSome = true →
    ((handleRequest payload server req none).invoked = some (verb, name) ↔
      req.method = verb ∧ Names req.target name)
  otherwise : (∀ name, (server.handlers req.method name).isSome = true →
      ¬ Names req.target name) →
    (handleRequest payload server req none).invoked = none ∧
      ∃ response, (handleRequest payload server req none).outcome = .ok response ∧
        response.result = notFound

/-- The prefix is found exactly when the target begins with the prefix and its slash. -/
def Regular (target : Text) : Prop :=
  "/".toList <+: target ∧ (apiPrefixSlash <+: target ↔ Versioned target)

theorem names_unique {target first second : Text} (names : Names target first)
    (alsoNames : Names target second) : first = second := by
  rcases names with rfl | ⟨rfl, unversioned⟩
  · rcases alsoNames with equal | ⟨_, unversioned⟩
    · exact List.append_cancel_left equal
    · exact absurd (List.prefix_append _ _) unversioned
  · rcases alsoNames with equal | ⟨equal, _⟩
    · exact absurd (equal ▸ List.prefix_append _ _) unversioned
    · exact (List.cons.inj equal).2

theorem names_endpoint_of_regular {target : Text} (regular : Regular target) :
    Names target (endpoint target) := by
  rcases regular with ⟨⟨rest, rfl⟩, same⟩
  unfold endpoint
  split
  next versioned =>
    rcases same.mpr versioned with ⟨name, equal⟩
    rw [← equal]
    exact .inl rfl
  next unversioned => exact .inr ⟨rfl, mt same.mp unversioned⟩

theorem regular_of_names_endpoint {target : Text} (names : Names target (endpoint target)) :
    Regular target := by
  rcases names with equal | ⟨equal, unversioned⟩
  · have begins : apiPrefixSlash <+: target := ⟨_, equal.symm⟩
    refine ⟨(by decide : "/".toList <+: apiPrefixSlash).trans begins, fun _ => ?_, fun _ => begins⟩
    by_contra unversioned
    have lengths := congrArg List.length equal
    rw [endpoint, if_neg unversioned, List.length_append, List.length_drop] at lengths
    have eight : apiPrefixSlash.length = 8 := rfl
    omega
  · refine ⟨⟨_, equal.symm⟩, fun begins => absurd begins unversioned, fun versioned => ?_⟩
    have lengths := congrArg List.length equal
    rw [endpoint, if_pos versioned, List.length_cons, List.length_drop] at lengths
    have seven := versioned.1.length_le
    have length : apiPrefix.length = 7 := rfl
    omega

theorem routesExactly_of_regular (long : ¬ TooShort req.target)
    (regular : Regular req.target) : RoutesExactly payload server req := by
  have names := names_endpoint_of_regular regular
  constructor
  case invokes =>
    intro verb name registered
    cases found : server.handlers req.method (endpoint req.target) with
    | none =>
        rcases handleRequest_of_missing payload server req long found with ⟨_, handled, -⟩
        rw [handled]
        refine ⟨by simp, ?_⟩
        rintro ⟨rfl, namesToo⟩
        rw [names_unique namesToo names, found] at registered
        cases registered
    | some value =>
        rw [handleRequest_of_found payload server req long found, Option.some.injEq, Prod.mk.injEq]
        constructor
        · rintro ⟨rfl, rfl⟩
          exact ⟨rfl, names⟩
        · rintro ⟨rfl, namesToo⟩
          exact ⟨rfl, names_unique names namesToo⟩
  case otherwise =>
    intro unnamed
    cases found : server.handlers req.method (endpoint req.target) with
    | none =>
        rcases handleRequest_of_missing payload server req long found with
          ⟨response, handled, result⟩
        rw [handled]
        exact ⟨rfl, response, rfl, result⟩
    | some value => exact absurd names (unnamed _ (by simp [found]))

/-- Neither the named endpoint nor what the target is cut to has a handler. -/
def Unregistered : Prop :=
  server.handlers req.method (endpoint req.target) = none ∧
    ∀ name, Names req.target name → server.handlers req.method name = none

theorem routesExactly_of_unregistered (long : ¬ TooShort req.target)
    (unregistered : Unregistered server req) : RoutesExactly payload server req := by
  rcases handleRequest_of_missing payload server req long unregistered.1 with
    ⟨response, missing, result⟩
  constructor
  case invokes =>
    intro verb name registered
    rw [missing]
    refine ⟨by simp, ?_⟩
    rintro ⟨rfl, names⟩
    rw [unregistered.2 name names] at registered
    cases registered
  case otherwise =>
    intro _
    rw [missing]
    exact ⟨rfl, response, rfl, result⟩

variable {payload server req}

theorem RoutesExactly.not_tooShort (routes : RoutesExactly payload server req) :
    ¬ TooShort req.target := by
  intro short
  have thrown := handleRequest_of_tooShort payload server req none short
  by_cases named : ∃ name, (server.handlers req.method name).isSome = true ∧
      Names req.target name
  · rcases named with ⟨name, registered, names⟩
    have invoked := (routes.invokes _ name registered).mpr ⟨rfl, names⟩
    rw [thrown] at invoked
    cases invoked
  · rcases (routes.otherwise fun name registered names =>
      named ⟨name, registered, names⟩).2 with ⟨response, answered, -⟩
    rw [thrown] at answered
    cases answered

theorem RoutesExactly.unregistered (routes : RoutesExactly payload server req)
    (irregular : ¬ Regular req.target) : Unregistered server req := by
  have long := routes.not_tooShort
  cases found : server.handlers req.method (endpoint req.target) with
  | some value =>
      have invoked := handleRequest_of_found payload server req long found
      have names := ((routes.invokes req.method (endpoint req.target)
        (by simp [found])).mp (by rw [invoked])).2
      exact absurd (regular_of_names_endpoint names) irregular
  | none =>
      refine ⟨found, fun name names => ?_⟩
      by_contra registered
      have invoked := (routes.invokes req.method name
        (Option.isSome_iff_ne_none.mpr registered)).mpr ⟨rfl, names⟩
      rcases handleRequest_of_missing payload server req long found with ⟨_, handled, -⟩
      rw [handled] at invoked
      cases invoked

variable (payload server req)

theorem routesExactly_iff :
    RoutesExactly payload server req ↔
      req.target ≠ [] ∧ req.target ≠ apiPrefix ∧
        (Regular req.target ∨ Unregistered server req) := by
  rw [← and_assoc, ← not_or, ← TooShort]
  constructor
  · intro routes
    refine ⟨routes.not_tooShort, ?_⟩
    by_cases regular : Regular req.target
    · exact .inl regular
    · exact .inr (routes.unregistered regular)
  · rintro ⟨long, regular | unregistered⟩
    · exact routesExactly_of_regular payload server req long regular
    · exact routesExactly_of_unregistered payload server req long unregistered

end Handling

/-- A `prepare_payload` that accepts everything. -/
def plainPayload : Payload where
  prepare := .ok
  keepsResult := by
    intro response prepared accepted
    injection accepted with equal
    rw [equal]
  acceptsOwn response _ := ⟨response, rfl⟩

/-- A request whose read failed before there was a target. -/
theorem failed_read_throws :
    (handleRequest plainPayload .create ⟨11, .get, [], []⟩
        (some ⟨"end of stream".toList⟩)).outcome = .error .outOfRange ∧
      ¬ Answers plainPayload .create ⟨11, .get, [], []⟩ (some ⟨"end of stream".toList⟩) := by
  have thrown := handleRequest_of_tooShort plainPayload .create ⟨11, .get, [], []⟩
    (some ⟨"end of stream".toList⟩) (.inl rfl)
  refine ⟨by rw [thrown], ?_⟩
  rintro ⟨response, answered, _⟩
  rw [thrown] at answered
  cases answered

def acknowledge : ApiFunctionType := fun req => ⟨req.version, 200, [], none⟩

/-- Any character is cut off as if it were the slash. -/
theorem wrong_prefix_invokes :
    let server := ApiServer.create.addGet "report".toList acknowledge
    let req : Request := ⟨11, .get, "/api/v1?report".toList, []⟩
    (handleRequest plainPayload server req none).invoked = some (.get, "report".toList) ∧
      ¬ Names req.target "report".toList ∧ ¬ RoutesExactly plainPayload server req := by
  intro server req
  have invoked : (handleRequest plainPayload server req none).invoked =
      some (.get, "report".toList) := by
    decide
  have unnamed : ¬ Names req.target "report".toList := by
    decide
  refine ⟨invoked, unnamed, fun routes => ?_⟩
  exact unnamed ((routes.invokes .get "report".toList (by decide)).mp invoked).2

end Gossip.Api
