import Gossip.Contracts.ClosedCircle
import Gossip.Contracts.HttpRequests
import Gossip.Semantics.Process

/-! # Circles of processes

Processes that serve HTTP requests gossip as a circle of detectors does. A request or a seed
adds at most one neighbour, and a request whose target kills a process changes nothing but
that. -/

namespace Gossip

open Foundation

/-! ## One request -/

namespace Api

def Given (status : Nat) : Prop :=
  status = statusOk ∨ status = created ∨ status = badRequest ∨ status = notFound

theorem EndpointPayload.accepts_of_given (payload : EndpointPayload) {answer : Response}
    (given : Given answer.result) : payload.Accepts answer := by
  rcases given with given | given | given | given
  · exact payload.acceptsAnswers _ (.inl given)
  · exact payload.acceptsAnswers _ (.inr given)
  · exact payload.acceptsOwn _ (.inl given)
  · exact payload.acceptsOwn _ (.inr given)

section Endpoints

variable {Cost : Type} (costs : CostArithmetic Cost) (json : JsonConversion)
  (detector : GossipFailureDetector) (cors : Option Text) (sort : LamportSort)
  (aliveNow suspectedNow : UInt64) (contact : Contact)

def Adds (request : Request) (ec : Option ErrorCode) : Prop :=
  ec = none ∧ request.method = .post ∧ endpoint request.target = "server".toList

instance (request : Request) (ec : Option ErrorCode) : Decidable (Adds request ec) :=
  inferInstanceAs (Decidable (_ ∧ _))

theorem endpoints_posts (target : Text) :
    (endpoints costs json detector cors sort aliveNow suspectedNow contact).posts target =
      if target = "server".toList then
        some fun request => (postServer json detector contact request).2.response
      else none :=
  Function.update_apply _ _ _ _

theorem endpoints_gets (target : Text) :
    (endpoints costs json detector cors sort aliveNow suspectedNow contact).gets target =
      if target = "report".toList then
        some fun request =>
          (getReport costs json detector cors sort aliveNow suspectedNow request).response
      else none :=
  Function.update_apply _ _ _ _

theorem endpoints_given {verb : Verb} {target : Text} {handler : ApiFunctionType}
    (found : (endpoints costs json detector cors sort aliveNow suspectedNow contact).handlers
      verb target = some handler) (request : Request) : Given (handler request).result := by
  cases verb with
  | post =>
      rw [ApiServer.handlers, endpoints_posts] at found
      split at found
      · cases found
        simp only [postServer]
        split
        · exact .inr (.inl rfl)
        · exact .inr (.inr (.inl rfl))
      · cases found
  | get =>
      rw [ApiServer.handlers, endpoints_gets] at found
      split at found
      · cases found
        exact .inl rfl
      · cases found
  | other => cases found

end Endpoints

end Api

section Serving

variable {Cost : Type} (costs : CostArithmetic Cost) (environment : Environment)
  (participant : Participant) (request : Api.Request) (ec : Option Api.ErrorCode)
  (sort : LamportSort) (aliveNow suspectedNow : UInt64) (contact : Contact)

def Environment.added : Option Server :=
  if Api.Adds request ec then environment.json.jsonStringToMessage request.body else none

theorem Participant.serve_of_tooShort (short : Api.TooShort request.target) :
    participant.serve costs environment request ec sort aliveNow suspectedNow contact =
      (participant, .error .outOfRange) := by
  simp only [serve, Api.handleRequest_of_tooShort _ _ _ _ short]

theorem Participant.serve_of_long (long : ¬ Api.TooShort request.target) :
    ∃ response, participant.serve costs environment request ec sort aliveNow suspectedNow
      contact =
        ((environment.added request ec).elim participant fun host =>
          { participant with detector := participant.detector.addNeighbor host contact },
          .ok response) := by
  unfold serve
  cases ec with
  | some ec =>
      rcases Api.handleRequest_of_failed environment.payload.toPayload
        (Api.endpoints costs environment.json participant.detector environment.cors sort aliveNow
          suspectedNow contact) request ec long with ⟨response, handled, -⟩
      rw [handled]
      exact ⟨response, rfl⟩
  | none =>
      cases found : (Api.endpoints costs environment.json participant.detector environment.cors
        sort aliveNow suspectedNow contact).handlers request.method
          (Api.endpoint request.target) with
      | none =>
          have unrouted : ¬ Api.Adds request none := by
            rintro ⟨-, method, target⟩
            rw [method, target, Api.ApiServer.handlers, Api.endpoints_posts, if_pos rfl] at found
            cases found
          rcases Api.handleRequest_of_missing environment.payload.toPayload _ _ long found with
            ⟨response, handled, -⟩
          rw [handled, Environment.added, if_neg unrouted]
          exact ⟨response, rfl⟩
      | some handler =>
          have given := Api.endpoints_given costs environment.json participant.detector
            environment.cors sort aliveNow suspectedNow contact found request
          rcases environment.payload.accepts_of_given given with ⟨response, prepared⟩
          rw [Api.handleRequest_of_found _ _ _ long found, prepared, Environment.added]
          cases method : request.method with
          | get =>
              rw [if_neg fun adds => by simp [Api.Adds, method] at adds]
              exact ⟨_, rfl⟩
          | post =>
              rw [method, Api.ApiServer.handlers, Api.endpoints_posts] at found
              split at found
              next target =>
                rw [if_pos ⟨rfl, method, target⟩]
                simp only [Api.postServer]
                cases environment.json.jsonStringToMessage request.body with
                | none => exact ⟨_, rfl⟩
                | some host => exact ⟨_, rfl⟩
              next => cases found
          | other name =>
              rw [method] at found
              cases found

end Serving

/-! ## What an event amounts to -/

namespace CommunityEvent

variable {Node : Type} (environment : Node → Environment)

/-- The neighbour that the event adds, if it adds one. -/
def introduces : CommunityEvent Node → Option (Server × Contact)
  | .seed node name contact =>
      (seedServer (environment node).conversion (environment node).host
        name).toOption.map fun host => (host, contact)
  | .request node message ec _ _ _ contact =>
      ((environment node).added message ec).map fun host => (host, contact)
  | .threads _ => none

def circleEvents (event : CommunityEvent Node) : List (CircleEvent Node) :=
  match event with
  | .threads inner => [inner.val]
  | .seed .. | .request .. =>
      (event.introduces environment).toList.map fun introduced =>
        .addNeighbor event.node introduced.1 introduced.2

def Fatal : CommunityEvent Node → Prop
  | .request _ message .. => Api.TooShort message.target
  | .seed .. | .threads _ => False

instance : DecidablePred (Fatal : CommunityEvent Node → Prop)
  | .request _ message .. => inferInstanceAs (Decidable (Api.TooShort message.target))
  | .seed .. | .threads _ => isFalse id

def asks [DecidableEq Node] (node : Node) : CommunityEvent Node → Bool
  | .request asked .. => asked = node
  | .seed .. | .threads _ => false

variable [DecidableEq Node]

/-- The events at a process before the first request that kills it. -/
def handled : (dead : Node → Bool) → List (CommunityEvent Node) → List (CommunityEvent Node)
  | _, [] => []
  | dead, event :: events =>
      if event.Fatal then handled (Function.update dead event.node true) events
      else if dead event.node then handled dead events
      else event :: handled dead events

end CommunityEvent

section Runs

variable {Node Cost : Type} [DecidableEq Node] (transport : Transport)
  (costs : CostArithmetic Cost) {environment : Node → Environment}

theorem Circle.advance_congr {circle : Circle Node} {node : Node} {before : Participant}
    (alive : circle.processes node = .ok before)
    {react other : Participant → Participant × Option Fault}
    (same : react before = other before) :
    circle.advance transport node react = circle.advance transport node other := by
  simp only [advance, alive, same]

theorem Circle.advance_self {circle : Circle Node} {node : Node} {participant : Participant}
    (alive : circle.processes node = .ok participant) :
    (circle.advance transport node fun _ => (participant, none)) = circle := by
  simp only [advance, alive, Participant.survives, Participant.packets, Participant.posted,
    List.drop_length, List.all_nil, if_true, List.takeWhile_nil, List.map_nil, List.append_nil]
  rw [← alive, Function.update_eq_self]

theorem Circle.run_of_dead {circle : Circle Node} {node : Node} {fault : Fault}
    (dead : circle.processes node = .error fault) (events : List (CircleEvent Node)) :
    ((circleMachine transport costs).run circle events).processes node = .error fault := by
  induction events generalizing circle with
  | nil => exact dead
  | cons event events induction =>
      have still : (circle.act transport costs event).processes node = .error fault := by
        by_cases here : node = event.node
        · subst here
          rw [act_of_dead costs dead]
          exact dead
        · rw [act, advance_elsewhere here]
          exact dead
      exact induction still

namespace Community

variable {community : Community Node} {event : CommunityEvent Node}

theorem act_of_terminated (dead : community.terminated event.node = true) :
    community.act transport costs environment event = community := by
  unfold act
  rw [if_pos dead]

theorem act_of_dead {fault : Fault}
    (dead : community.circle.processes event.node = .error fault) :
    community.act transport costs environment event = community ∧
      (circleMachine transport costs).run community.circle (event.circleEvents environment) =
        community.circle := by
  have alone (inner : CircleEvent Node) (here : inner.node = event.node) :
      community.circle.act transport costs inner = community.circle :=
    Circle.act_of_dead costs (here ▸ dead)
  unfold act
  cases event with
  | seed node name contact =>
      simp only [CommunityEvent.circleEvents, CommunityEvent.introduces]
      cases seedServer (environment node).conversion (environment node).host name with
      | error => exact ⟨ite_self _, rfl⟩
      | ok server =>
          have same := alone (.addNeighbor node server contact) rfl
          simp only [same, ite_self, true_and]
          exact same
  | request node request ec sort aliveNow suspectedNow contact =>
      have dead : community.circle.processes node = .error fault := dead
      simp only [dead, ite_self, true_and, CommunityEvent.circleEvents,
        CommunityEvent.introduces]
      cases (environment node).added request ec with
      | none => rfl
      | some host => exact alone (.addNeighbor node host contact) rfl
  | threads inner =>
      have same := alone inner.val rfl
      simp only [same, ite_self, true_and]
      exact same

theorem act_of_fatal {participant : Participant}
    (alive : community.circle.processes event.node = .ok participant)
    (lives : community.terminated event.node = false) (fatal : event.Fatal) :
    community.act transport costs environment event =
      { community with
        terminated := Function.update community.terminated event.node true } := by
  cases event with
  | request node request ec sort aliveNow suspectedNow contact =>
      have alive : community.circle.processes node = .ok participant := alive
      have threw := participant.serve_of_tooShort costs (environment node) request ec sort
        aliveNow suspectedNow contact fatal
      unfold act
      rw [if_neg (by simp [lives])]
      simp only [alive, threw, serve, Circle.advance_self transport alive]
      rfl
  | seed | threads => cases fatal

structure Follows (environment : Node → Environment) (before after : Community Node)
    (event : CommunityEvent Node) : Prop where
  circle : after.circle =
    (circleMachine transport costs).run before.circle (event.circleEvents environment)
  terminated : after.terminated = before.terminated
  responses : ∀ node, (after.responses node).length ≤
    (before.responses node).length + if event.asks node then 1 else 0
  answered : ∀ node participant, after.circle.processes node = .ok participant →
    (after.responses node).length =
      (before.responses node).length + if event.asks node then 1 else 0

section Responses

variable (community : Community Node) (node : Node) (response : Api.Response)

theorem respond_of_ne (process : Except Fault Participant) {other : Node}
    (elsewhere : other ≠ node) :
    community.respond node response process other = community.responses other := by
  cases process with
  | ok participant => exact Function.update_of_ne elsewhere _ _
  | error fault => rfl

theorem length_respond_of_ok {process : Except Fault Participant} {participant : Participant}
    (alive : process = .ok participant) :
    (community.respond node response process node).length =
      (community.responses node).length + 1 := by
  subst alive
  simp [respond]

theorem length_respond_le (process : Except Fault Participant) (other : Node) :
    (community.respond node response process other).length ≤
      (community.responses other).length + if node = other then 1 else 0 := by
  by_cases same : node = other
  · subst same
    cases process with
    | ok participant => simp [respond]
    | error fault => exact Nat.le_add_right _ _
  · rw [community.respond_of_ne node response process (Ne.symm same)]
    exact Nat.le_add_right _ _

end Responses

theorem serve_follows {node : Node} {participant : Participant}
    (alive : community.circle.processes node = .ok participant) {request : Api.Request}
    {ec : Option Api.ErrorCode} {sort : LamportSort} {aliveNow suspectedNow : UInt64}
    {contact : Contact} {response : Api.Response}
    (served : participant.serve costs (environment node) request ec sort aliveNow suspectedNow
      contact =
        (((environment node).added request ec).elim participant fun host =>
          { participant with detector := participant.detector.addNeighbor host contact },
          .ok response)) :
    Follows transport costs environment community
      (community.serve transport node (participant.serve costs (environment node) request ec sort
        aliveNow suspectedNow contact))
      (.request node request ec sort aliveNow suspectedNow contact) := by
  have circle : (community.circle.advance transport node fun _ =>
      (((environment node).added request ec).elim participant fun host =>
        { participant with detector := participant.detector.addNeighbor host contact }, none)) =
      (circleMachine transport costs).run community.circle
        (CommunityEvent.circleEvents environment
          (.request node request ec sort aliveNow suspectedNow contact)) := by
    simp only [CommunityEvent.circleEvents, CommunityEvent.introduces]
    cases (environment node).added request ec with
    | none => exact Circle.advance_self transport alive
    | some host => exact Circle.advance_congr transport alive rfl
  rw [served]
  refine ⟨circle, rfl, ?_, ?_⟩
  · intro other
    simp only [CommunityEvent.asks, decide_eq_true_eq]
    exact community.length_respond_le node response _ other
  · intro other survivor survived
    simp only [CommunityEvent.asks, decide_eq_true_eq]
    by_cases same : node = other
    · subst same
      rw [if_pos rfl]
      exact community.length_respond_of_ok node response survived
    · rw [if_neg same]
      exact congrArg List.length (community.respond_of_ne node response _ (Ne.symm same))

theorem act_follows (environment : Node → Environment) {participant : Participant}
    (alive : community.circle.processes event.node = .ok participant)
    (lives : community.terminated event.node = false) (harmless : ¬ event.Fatal) :
    Follows transport costs environment community
      (community.act transport costs environment event) event := by
  unfold act
  rw [if_neg (by simp [lives])]
  cases event with
  | seed node name contact =>
      cases seeded : seedServer (environment node).conversion (environment node).host name with
      | error wrong =>
          simp only [seeded]
          refine ⟨?_, rfl, fun _ => le_rfl, fun _ _ _ => rfl⟩
          simp only [CommunityEvent.circleEvents, CommunityEvent.introduces, seeded]
          rfl
      | ok server =>
          simp only [seeded]
          refine ⟨?_, rfl, fun _ => le_rfl, fun _ _ _ => rfl⟩
          simp only [CommunityEvent.circleEvents, CommunityEvent.introduces, seeded]
          rfl
  | request node request ec sort aliveNow suspectedNow contact =>
      have alive : community.circle.processes node = .ok participant := alive
      rcases participant.serve_of_long costs (environment node) request ec sort aliveNow
        suspectedNow contact harmless with ⟨response, served⟩
      simp only [alive]
      exact serve_follows transport costs alive served
  | threads inner => exact ⟨rfl, rfl, fun _ => le_rfl, fun _ _ _ => rfl⟩

def Tracks (dead : Node → Bool) (community : Community Node) : Prop :=
  ∀ node participant, community.circle.processes node = .ok participant →
    community.terminated node = dead node

structure Refines (environment : Node → Environment) (dead : Node → Bool)
    (before final : Community Node) (events : List (CommunityEvent Node)) : Prop where
  circle : final.circle = (circleMachine transport costs).run before.circle
    ((CommunityEvent.handled dead events).flatMap (CommunityEvent.circleEvents environment))
  responses : ∀ node, (final.responses node).length ≤ (before.responses node).length +
    (CommunityEvent.handled dead events).countP (CommunityEvent.asks node)
  answered : ∀ node participant, final.circle.processes node = .ok participant →
    (final.responses node).length = (before.responses node).length +
      (CommunityEvent.handled dead events).countP (CommunityEvent.asks node)
  terminated : ∀ node participant, final.circle.processes node = .ok participant →
    (final.terminated node = true ↔
      dead node = true ∨ ∃ event ∈ events, event.node = node ∧ event.Fatal)

variable {dead : Node → Bool} {before middle final : Community Node}
  {events : List (CommunityEvent Node)}

theorem Refines.of_fatal (fatal : event.Fatal)
    (circle : middle.circle = before.circle) (responses : middle.responses = before.responses)
    (rest : Refines transport costs environment (Function.update dead event.node true) middle
      final events) :
    Refines transport costs environment dead before final (event :: events) := by
  have same : CommunityEvent.handled dead (event :: events) =
      CommunityEvent.handled (Function.update dead event.node true) events := by
    rw [CommunityEvent.handled, if_pos fatal]
  refine ⟨?_, ?_, ?_, ?_⟩
  · rw [same, ← circle]
    exact rest.circle
  · rw [same, ← responses]
    exact rest.responses
  · rw [same, ← responses]
    exact rest.answered
  · intro node participant alive
    rw [rest.terminated node participant alive]
    by_cases here : node = event.node
    · subst here
      simp [fatal]
    · simp [here, Ne.symm here]

theorem Refines.of_dead (harmless : ¬ event.Fatal) (isDead : dead event.node = true)
    (rest : Refines transport costs environment dead before final events) :
    Refines transport costs environment dead before final (event :: events) := by
  have same : CommunityEvent.handled dead (event :: events) =
      CommunityEvent.handled dead events := by
    rw [CommunityEvent.handled, if_neg harmless, if_pos isDead]
  refine ⟨by rw [same]; exact rest.circle, by rw [same]; exact rest.responses,
    by rw [same]; exact rest.answered, ?_⟩
  intro node participant alive
  rw [rest.terminated node participant alive]
  simp [harmless]

theorem Refines.of_follows (harmless : ¬ event.Fatal) (lives : dead event.node = false)
    (follows : Follows transport costs environment before middle event)
    (rest : Refines transport costs environment dead middle final events) :
    Refines transport costs environment dead before final (event :: events) := by
  have split : CommunityEvent.handled dead (event :: events) =
      event :: CommunityEvent.handled dead events := by
    rw [CommunityEvent.handled, if_neg harmless, if_neg (by simp [lives])]
  constructor
  · rw [split, List.flatMap_cons, Machine.run_append, ← follows.circle]
    exact rest.circle
  · intro node
    have earlier := follows.responses node
    have later := rest.responses node
    rw [split, List.countP_cons]
    omega
  · intro node participant alive
    -- whoever lives in the end has lived in between
    cases between : middle.circle.processes node with
    | error fault =>
        rw [rest.circle, Circle.run_of_dead transport costs between] at alive
        cases alive
    | ok survivor =>
        rw [split, List.countP_cons, rest.answered node participant alive,
          follows.answered node survivor between]
        omega
  · intro node participant alive
    rw [rest.terminated node participant alive]
    simp [harmless]

theorem Follows.of_dead {fault : Fault}
    (process : community.circle.processes event.node = .error fault) :
    Follows transport costs environment community community event := by
  refine ⟨(act_of_dead transport costs process).2.symm, rfl,
    fun _ => Nat.le_add_right _ _, ?_⟩
  intro node participant alive
  cases event with
  | request asked =>
      have elsewhere : asked ≠ node := by
        rintro rfl
        cases process.symm.trans alive
      simp [CommunityEvent.asks, elsewhere]
  | seed | threads => rfl

theorem Tracks.of_dead (tracks : community.Tracks dead)
    {gone : Node} {fault : Fault} (process : community.circle.processes gone = .error fault) :
    community.Tracks (Function.update dead gone true) := by
  intro node participant alive
  have elsewhere : node ≠ gone := by
    rintro rfl
    cases process.symm.trans alive
  rw [Function.update_of_ne elsewhere]
  exact tracks node participant alive

theorem Tracks.terminate (tracks : community.Tracks dead) (gone : Node) :
    Tracks (Function.update dead gone true)
      { community with terminated := Function.update community.terminated gone true } := by
  intro node participant alive
  change Function.update community.terminated gone true node = _
  by_cases here : node = gone
  · subst here
    rw [Function.update_self, Function.update_self]
  · rw [Function.update_of_ne here, Function.update_of_ne here]
    exact tracks node participant alive

theorem Tracks.of_follows (tracks : before.Tracks dead)
    (follows : Follows transport costs environment before middle event) :
    middle.Tracks dead := by
  intro node participant alive
  rw [follows.terminated]
  cases process : before.circle.processes node with
  | ok earlier => exact tracks node earlier process
  | error fault =>
      rw [follows.circle, Circle.run_of_dead transport costs process] at alive
      cases alive

end Community

theorem Community.run_refines (environment : Node → Environment) {community : Community Node}
    {dead : Node → Bool} (tracks : community.Tracks dead) (events : List (CommunityEvent Node)) :
    Refines transport costs environment dead community
      ((communityMachine transport costs environment).run community events) events := by
  induction events generalizing community dead with
  | nil =>
      refine ⟨rfl, fun _ => le_rfl, fun _ _ _ => rfl, ?_⟩
      intro node participant alive
      have same : community.terminated node = dead node := tracks node participant alive
      simp [Machine.run, same]
  | cons event events induction =>
      rw [Machine.run_cons]
      change Refines transport costs environment dead community
        ((communityMachine transport costs environment).run
          (community.act transport costs environment event) events) (event :: events)
      cases process : community.circle.processes event.node with
      | error fault =>
          rw [(act_of_dead transport costs process).1]
          by_cases fatal : event.Fatal
          · exact .of_fatal transport costs fatal rfl rfl (induction (tracks.of_dead process))
          · cases isDead : dead event.node with
            | true => exact .of_dead transport costs fatal isDead (induction tracks)
            | false =>
                exact .of_follows transport costs fatal isDead
                  (.of_dead transport costs process) (induction tracks)
      | ok participant =>
          have same := tracks event.node participant process
          cases lives : dead event.node with
          | true =>
              rw [act_of_terminated transport costs (same.trans lives)]
              by_cases fatal : event.Fatal
              · refine .of_fatal transport costs fatal rfl rfl (induction ?_)
                rw [← lives, Function.update_eq_self]
                exact tracks
              · exact .of_dead transport costs fatal lives (induction tracks)
          | false =>
              by_cases fatal : event.Fatal
              · rw [act_of_fatal transport costs process (same.trans lives) fatal]
                refine .of_fatal transport costs fatal ?_ ?_
                  (induction (tracks.terminate event.node))
                · rfl
                · rfl
              · have follows := act_follows transport costs environment process
                  (same.trans lives) fatal
                exact .of_follows transport costs fatal lives follows
                  (induction (tracks.of_follows transport costs follows))

omit [DecidableEq Node] in
theorem CommunityEvent.introduces_of_host? {event : CommunityEvent Node}
    {inner : CircleEvent Node} (member : inner ∈ event.circleEvents environment)
    {host : Server} (found : inner.host? = some host) :
    ∃ introduced, event.introduces environment = some introduced ∧ introduced.1 = host := by
  cases event with
  | seed | request =>
      rcases List.mem_map.mp member with ⟨introduced, present, rfl⟩
      exact ⟨introduced, Option.mem_toList.mp present, Option.some.inj found⟩
  | threads event =>
      rw [List.mem_singleton.mp member, event.property] at found
      cases found

theorem CommunityEvent.mem_of_mem_handled {dead : Node → Bool}
    {events : List (CommunityEvent Node)} {event : CommunityEvent Node}
    (member : event ∈ handled dead events) : event ∈ events := by
  induction events generalizing dead with
  | nil => cases member
  | cons first events induction =>
      unfold handled at member
      split at member
      · exact List.mem_cons_of_mem _ (induction member)
      · split at member
        · exact List.mem_cons_of_mem _ (induction member)
        · rcases List.mem_cons.mp member with rfl | later
          · exact List.mem_cons_self
          · exact List.mem_cons_of_mem _ (induction later)

omit [DecidableEq Node] in
theorem Community.create_tracks (configurations : Node → Configuration) :
    (Community.create configurations).Tracks fun _ => false :=
  fun _ _ _ => rfl

/-- Whoever a process of the circle knows, alive or suspected, is a process of the circle under
the name that it advertises, or stands in a seed or in the body of a request for the endpoint
that adds neighbours. -/
theorem processes_know_the_introduced (environment : Node → Environment)
    (configurations : Node → Configuration) (events : List (CommunityEvent Node)) (node : Node) :
    { key | ((communityMachine transport costs environment).run (.create configurations)
        events).circle.Knows node key } ⊆
      { key | (∃ member, key = (configurations member).identity) ∨
        ∃ event ∈ events, ∃ added, event.introduces environment = some added ∧
          added.1.key = key } := by
  rintro key ⟨participant, alive, knows⟩
  have refines := Community.run_refines transport costs environment
    (Community.create_tracks configurations) events
  have circle := refines.circle
  rw [circle] at alive
  have situated := Circle.run_situated_spokenOf transport costs configurations
    ((CommunityEvent.handled (fun _ => false) events).flatMap
      (CommunityEvent.circleEvents environment))
  rcases (situated.exposed node participant alive).detector.within.mem_of_knows knows with
    ⟨member, named⟩ | ⟨inner, innerMember, host, found, named⟩
  · exact .inl ⟨member, named⟩
  · rcases List.mem_flatMap.mp innerMember with ⟨event, handled, within⟩
    rcases CommunityEvent.introduces_of_host? within found with ⟨added, present, rfl⟩
    exact .inr ⟨event, CommunityEvent.mem_of_mem_handled handled, added, present, named⟩

end Runs

end Gossip
