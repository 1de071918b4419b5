import SparkPlug.ClientCalls
import SparkPlug.Launch
import SparkPlug.Provenance

/-!
A cluster behind its HTTP services. Every call of a server begins with a request that the
service has let in; what the store and the upstreams get goes back to such requests.
-/
namespace SparkPlug
open KeyedTable Runs Shared Text

/-- What a handler draws, and what it is answered and told, at its first step. -/
structure Draw where
  token : String
  createdAt : DateTimeUtc
  sender : String
  stored : Bool

namespace ApiCall

/-- The first action of a handler; the other handlers only read. -/
def begin (draw : Draw) : ApiCall → Option Action
  | .dispatchRequest req => some (.proxy (.arrive req))
  | .createApp username params => some
    (.routes (.createInsert username params.name draw.token draw.createdAt draw.stored))
  | .deleteApp username appId => some (.routes (.deleteRead appId username draw.stored))
  | .appCallback token params => some
    (.routes (.appCallback token params.address params.applicationId draw.stored))
  | .appCallbackDelete token => some (.routes (.appCallbackDelete token draw.sender draw.stored))
  | .listApps .. | .getApp .. | .listVersions => none

/-- What the handler keeps of the body of its request. -/
def body : ApiCall → List CreateApplicationRequest
  | .createApp _ params => [params]
  | _ => []

/-- The headers have the credential that the call needs. -/
def Authenticated (self : ProxyService) (headers : HeaderMap) : ApiCall → Prop
  | .listApps username _ | .createApp username _ | .getApp username _ | .deleteApp username _ =>
    UserAuth.authorize self.authMethods headers = .ok username
  | .listVersions => ∃ username, UserAuth.authorize self.authMethods headers = .ok username
  | .appCallback token _ | .appCallbackDelete token => TokenAuth.authorize headers = .ok token
  | .dispatchRequest req => req.headers = headers

end ApiCall

/-- The actions that only a request begins. -/
def Action.begins : Action → Bool
  | .routes (.createInsert ..) | .routes (.deleteRead ..) | .routes (.appCallback ..)
  | .routes (.appCallbackDelete ..) | .proxy (.arrive _) => true
  | _ => false

/- What a server process is next to do. -/
inductive Arrival where
  | request (req : HttpRequest) (draw : Draw)
  | inside (a : Action)

def Arrival.allowed : Arrival → Bool
  | .request .. => true
  | .inside a => !a.begins

/-- A server process, with the bodies of its createApp calls. -/
structure Serving where
  process : Process := {}
  bodies : List CreateApplicationRequest := []

namespace Serving

def bodiesAfter (serving : Serving) : Action → List CreateApplicationRequest
  | .restart => []
  | _ => serving.bodies

/-- What createApp launches. -/
def launchRequest (serving : Serving) (n : Nat) : Option LaunchRequest :=
  match serving.process.routes.creates[n]?, serving.bodies[n]? with
  | some (.launching app), some params => some
    { versionName := params.version, sessionId := app.id, appName := params.name
      username := app.username, token := app.token, userConfig := params.config.getD ∅
      pythonPackages := params.pythonPackages }
  | _, _ => none

end Serving

abbrev HttpCluster := Composite Store Serving

def HttpCluster.start : HttpCluster := { shared := { db := .new }, locals := [] }

namespace ProxyService

/-- The action that an arrival is for the process, if it is one. -/
def actionOf (self : ProxyService) : Arrival → Option Action
  | .request req draw => (self.call req).toOption.bind (·.begin draw)
  | .inside a => some a

def bodyOf (self : ProxyService) : Arrival → List CreateApplicationRequest
  | .request req _ => (self.call req).toOption.elim [] (·.body)
  | .inside _ => []

def serve (self : ProxyService) (store : Store) (serving : Serving) (arrival : Arrival) :
    Option (Store × Serving) :=
  if arrival.allowed then
    match self.actionOf arrival with
    | some a => (processStep store serving.process a).map fun next =>
      (next.1, { process := next.2, bodies := serving.bodiesAfter a ++ self.bodyOf arrival })
    | none => some (store, serving)
  else none

def step (self : ProxyService) : HttpCluster → Move Arrival → Option HttpCluster :=
  Shared.step self.serve {}

end ProxyService

/- Steps and runs of the cluster behind the services. -/

section
variable {self : ProxyService}

theorem serve_cases {g g' : Store} {l l' : Serving} {arrival : Arrival}
    (h : self.serve g l arrival = some (g', l')) : arrival.allowed = true ∧
      ((self.actionOf arrival = none ∧ g' = g ∧ l' = l) ∨
        ∃ a, self.actionOf arrival = some a ∧ processStep g l.process a = some (g', l'.process) ∧
          l'.bodies = l.bodiesAfter a ++ self.bodyOf arrival) := by
  unfold ProxyService.serve at h
  split at h
  · rename_i allowed
    refine ⟨allowed, ?_⟩
    split at h
    · rename_i a acting
      obtain ⟨next, moved, same⟩ := Option.map_eq_some_iff.mp h
      cases same
      exact Or.inr ⟨a, acting, moved, rfl⟩
    · rename_i silent
      cases h
      exact Or.inl ⟨silent, rfl, rfl⟩
  · cases h

/-- Without the bodies it is a run of the cluster. -/
theorem http_run {s t : HttpCluster} {ms : List (Move Arrival)}
    (run : exec self.step s ms = some t) :
    exec Cluster.step (s.map Serving.process) (ms.filterMap (Move.lower self.actionOf)) =
      some (t.map Serving.process) := by
  refine refined_run Serving.process self.actionOf rfl ?_ run
  intro g l arrival g' l' h
  rcases (serve_cases h).2 with ⟨silent, same, rfl⟩ | ⟨a, acting, moved, _⟩
  · exact Or.inl ⟨silent, same, rfl⟩
  · exact Or.inr ⟨a, acting, moved⟩

theorem call_authenticated {req : HttpRequest} {call : ApiCall} (h : self.call req = .ok call) :
    call.Authenticated self req.headers := by
  cases call_admits h with
  | dispatched => exact rfl
  | listed _ _ _ authorized => exact authorized
  | created _ _ _ authorized => exact authorized
  | got _ _ _ _ authorized => exact authorized
  | deleted _ _ _ _ authorized => exact authorized
  | versions username authorized => exact ⟨username, authorized⟩
  | registered _ _ _ authorized => exact authorized
  | deregistered _ _ authorized => exact authorized

/-- The beginning of a call has come with a request. -/
theorem begins_request {arrival : Arrival} {a : Action} (allowed : arrival.allowed = true)
    (acting : self.actionOf arrival = some a) (begins : a.begins = true) :
    ∃ req draw call, arrival = .request req draw ∧ self.call req = .ok call ∧
      call.begin draw = some a ∧ self.bodyOf arrival = call.body := by
  cases arrival with
  | request req draw =>
    obtain ⟨call, admitted, first⟩ := Option.bind_eq_some_iff.mp acting
    cases answer : self.call req with
    | error refusal => simp [answer, Except.toOption] at admitted
    | ok other =>
      rw [answer] at admitted
      cases admitted
      exact ⟨req, draw, call, rfl, answer, first, by simp [ProxyService.bodyOf, answer,
        Except.toOption]⟩
  | inside b =>
    cases acting
    simp [Arrival.allowed, begins] at allowed

/-- A request for the call is among the moves of a server, with this draw and with the
credential that the call needs. -/
def RequestedAt (self : ProxyService) (ms : List (Move Arrival)) (i : Nat) (draw : Draw)
    (call : ApiCall) : Prop :=
  ∃ req, .act i (.request req draw) ∈ ms ∧ self.call req = .ok call ∧
    call.Authenticated self req.headers

def Requested (self : ProxyService) (ms : List (Move Arrival)) (call : ApiCall) : Prop :=
  ∃ i draw, RequestedAt self ms i draw call

theorem requested_later {ms : List (Move Arrival)} {i : Nat} {draw : Draw} {call : ApiCall}
    (m : Move Arrival) (asked : RequestedAt self ms i draw call) :
    RequestedAt self (ms ++ [m]) i draw call := by
  obtain ⟨req, member, admitted⟩ := asked
  exact ⟨req, List.mem_append_left _ member, admitted⟩

/-- An action of the cluster that begins a call was asked for. -/
theorem taken_requested {s t : HttpCluster} {ms : List (Move Arrival)}
    (run : exec self.step s ms = some t) {i : Nat} {a : Action}
    (taken : .act i a ∈ ms.filterMap (Move.lower self.actionOf)) (begins : a.begins = true) :
    ∃ draw call, RequestedAt self ms i draw call ∧ call.begin draw = some a := by
  obtain ⟨m, member, lowered⟩ := List.mem_filterMap.mp taken
  cases m with
  | join => simp [Move.lower] at lowered
  | act j arrival =>
    obtain ⟨b, acting, same⟩ := Option.map_eq_some_iff.mp lowered
    cases same
    obtain ⟨before, after, rfl⟩ := List.append_of_mem member
    obtain ⟨u, v, _, step, _⟩ := exec_at run
    rcases step_cases step with ⟨_, _, l, g', l', same, _, moved, _⟩ | ⟨same, _⟩
    · cases same
      obtain ⟨req, draw, call, rfl, admitted, first, _⟩ :=
        begins_request (serve_cases moved).1 acting begins
      exact ⟨draw, call, ⟨req, member, admitted, call_authenticated admitted⟩, first⟩
    · cases same

end

/- The calls that an action can begin. -/

section
variable {draw : Draw} {call : ApiCall}

theorem begun_create {username token : String} {name : Option String} {createdAt : DateTimeUtc}
    {stored : Bool}
    (h : call.begin draw = some (.routes (.createInsert username name token createdAt stored))) :
    ∃ params, call = .createApp username params ∧ params.name = name ∧ draw.token = token ∧
      draw.createdAt = createdAt := by
  cases call with
  | createApp user params =>
    cases h
    exact ⟨params, rfl, rfl, rfl, rfl⟩
  | _ => simp [ApiCall.begin] at h

theorem begun_registration {token address applicationId : String} {stored : Bool}
    (h : call.begin draw = some (.routes (.appCallback token address applicationId stored))) :
    call = .appCallback token { address, applicationId } := by
  cases call with
  | appCallback token params =>
    cases h
    rfl
  | _ => simp [ApiCall.begin] at h

theorem begun_deregistration {token sender : String} {stored : Bool}
    (h : call.begin draw = some (.routes (.appCallbackDelete token sender stored))) :
    call = .appCallbackDelete token := by
  cases call with
  | appCallbackDelete token =>
    cases h
    rfl
  | _ => simp [ApiCall.begin] at h

theorem begun_delete {appId : Int} {username : String} {stored : Bool}
    (h : call.begin draw = some (.routes (.deleteRead appId username stored))) :
    call = .deleteApp username appId := by
  cases call with
  | deleteApp user id =>
    cases h
    rfl
  | _ => simp [ApiCall.begin] at h

theorem begun_dispatch {req : Request} (h : call.begin draw = some (.proxy (.arrive req))) :
    call = .dispatchRequest req := by
  cases call with
  | dispatchRequest other =>
    cases h
    rfl
  | _ => simp [ApiCall.begin] at h

end

/- The store. -/

/-- The requests that a row goes back to. -/
structure RowRequested (service : ProxyService) (ms : List (Move Arrival)) (r : Model) : Prop where
  created : ∃ i draw params, RequestedAt service ms i draw (.createApp r.username params) ∧
    params.name = r.name ∧ draw.token = r.token ∧ draw.createdAt = r.createdAt
  address : ∀ address, r.address = some address → ∃ applicationId,
    Requested service ms (.appCallback r.token { address, applicationId })
  applicationId : ∀ applicationId, r.applicationId = some applicationId → ∃ address,
    Requested service ms (.appCallback r.token { address, applicationId })
  running : r.state = .running → ∃ params, Requested service ms (.appCallback r.token params)
  finished : r.state = .finished → Requested service ms (.deleteApp r.username r.id) ∨
    Requested service ms (.appCallbackDelete r.token)

section
variable {self : ProxyService} {ms : List (Move Arrival)}

theorem grounded_requested {s t : HttpCluster} (run : exec self.step s ms = some t) {r : Model}
    (grounded : Grounded (ms.filterMap (Move.lower self.actionOf)) r) :
    RowRequested self ms r := by
  have registered : ∀ {address applicationId : String},
      Taken (ms.filterMap (Move.lower self.actionOf))
        (.routes (.appCallback r.token address applicationId true)) →
      Requested self ms (.appCallback r.token { address, applicationId }) := by
    rintro address applicationId ⟨i, taken⟩
    obtain ⟨draw, call, asked, first⟩ := taken_requested run taken rfl
    obtain rfl := begun_registration first
    exact ⟨i, draw, asked⟩
  constructor
  · obtain ⟨i, taken⟩ := grounded.created
    obtain ⟨draw, call, asked, first⟩ := taken_requested run taken rfl
    obtain ⟨params, rfl, name, token, createdAt⟩ := begun_create first
    exact ⟨i, draw, params, asked, name, token, createdAt⟩
  · intro address has
    obtain ⟨applicationId, taken⟩ := grounded.address address has
    exact ⟨applicationId, registered taken⟩
  · intro applicationId has
    obtain ⟨address, taken⟩ := grounded.applicationId applicationId has
    exact ⟨address, registered taken⟩
  · intro running
    obtain ⟨address, applicationId, taken⟩ := grounded.running running
    exact ⟨_, registered taken⟩
  · intro finished
    rcases grounded.finished finished with ⟨stored, i, taken⟩ | ⟨sender, i, taken⟩
    · obtain ⟨draw, call, asked, first⟩ := taken_requested run taken rfl
      obtain rfl := begun_delete first
      exact Or.inl ⟨i, draw, asked⟩
    · obtain ⟨draw, call, asked, first⟩ := taken_requested run taken rfl
      obtain rfl := begun_deregistration first
      exact Or.inr ⟨i, draw, asked⟩

/- The createApp calls and their bodies. -/

/-- The bodies of a server are those of its createApp calls, and an application that a call
holds was asked for by the request with its body. -/
structure BodiesRequested (service : ProxyService) (ms : List (Move Arrival)) (i : Nat)
    (serving : Serving) : Prop where
  length : serving.bodies.length = serving.process.routes.creates.length
  calls : ∀ (n : Nat) (call : CreateApp) app, serving.process.routes.creates[n]? = some call →
    call.app = some app → ∃ draw params, serving.bodies[n]? = some params ∧
      RequestedAt service ms i draw (.createApp app.username params) ∧ params.name = app.name ∧
        draw.token = app.token

theorem bodies_later {i : Nat} {serving : Serving} (m : Move Arrival)
    (before : BodiesRequested self ms i serving) : BodiesRequested self (ms ++ [m]) i serving := by
  refine ⟨before.length, fun n call app there holds => ?_⟩
  obtain ⟨draw, params, body, asked, same⟩ := before.calls n call app there holds
  exact ⟨draw, params, body, requested_later m asked, same⟩

/-- An arrival has a body exactly if it begins a createApp call. -/
theorem body_of_action {arrival : Arrival} {a : Action} (allowed : arrival.allowed = true)
    (acting : self.actionOf arrival = some a) :
    (self.bodyOf arrival = [] ∧ ∀ act, a = .routes act → act.creator = none) ∨
      ∃ req draw username params, arrival = .request req draw ∧
        self.call req = .ok (.createApp username params) ∧
        a = .routes (.createInsert username params.name draw.token draw.createdAt draw.stored) ∧
        self.bodyOf arrival = [params] := by
  by_cases begins : a.begins = true
  · obtain ⟨req, draw, call, rfl, admitted, first, body⟩ := begins_request allowed acting begins
    cases call with
    | createApp username params =>
      cases first
      exact Or.inr ⟨req, draw, username, params, rfl, admitted, rfl, body⟩
    | _ =>
      refine Or.inl ⟨body, ?_⟩
      rintro act rfl
      cases first <;> rfl
  · cases arrival with
    | inside b =>
      cases acting
      refine Or.inl ⟨rfl, ?_⟩
      rintro act rfl
      cases act <;> simp_all [Action.begins, RoutesAction.creator]
    | request req draw =>
      obtain ⟨call, _, first⟩ := Option.bind_eq_some_iff.mp acting
      cases call <;> cases first <;> simp [Action.begins] at begins

theorem bodies_step {i : Nat} {g g' : Store} {l l' : Serving} {arrival : Arrival}
    (before : BodiesRequested self ms i l) (h : self.serve g l arrival = some (g', l')) :
    BodiesRequested self (ms ++ [.act i arrival]) i l' := by
  have later := bodies_later (.act i arrival) before
  obtain ⟨allowed, cases⟩ := serve_cases h
  rcases cases with ⟨_, _, rfl⟩ | ⟨a, acting, moved, bodies⟩
  · exact later
  · rcases process_routes moved with ⟨act, outcome, rfl, step, same⟩ | ⟨rfl, fresh⟩ |
      ⟨other, running, kept⟩
    · have length := creates_length step
      rcases body_of_action allowed acting with ⟨nothing, silent⟩ |
        ⟨req, draw, username, params, rfl, admitted, action, body⟩
      · rw [nothing, List.append_nil] at bodies
        have old : l'.bodies = l.bodies := bodies
        rw [silent act rfl] at length
        constructor
        · rw [old, same, length, before.length]
          rfl
        · intro n call app there holds
          rw [same] at there
          rcases create_app_step step there holds with ⟨older, was, held⟩ |
            ⟨_, username, name, token, createdAt, rfl, _⟩
          · rw [old]
            exact later.calls n older app was held
          · simp [RoutesAction.creator] at silent
      · cases action
        have new : l'.bodies = l.bodies ++ [params] := by
          rw [bodies, body]
          rfl
        constructor
        · rw [new, same, length, List.length_append, before.length]
          rfl
        · intro n call app there holds
          rw [same] at there
          rcases create_app_step step there holds with ⟨older, was, held⟩ |
            ⟨last, user, name, token, createdAt, inserted, row⟩
          · obtain ⟨drawn, found, at_n, asked⟩ := later.calls n older app was held
            have bound := (List.getElem?_eq_some_iff.mp at_n).1
            exact ⟨drawn, found, by rw [new, List.getElem?_append_left bound, at_n], asked⟩
          · simp only [RoutesAction.createInsert.injEq] at inserted
            obtain ⟨rfl, rfl, rfl, rfl, _⟩ := inserted
            have at_n : l'.bodies[n]? = some params := by
              rw [new, last, ← before.length]
              simp
            have asked : RequestedAt self (ms ++ [.act i (.request req draw)]) i draw
                (.createApp username params) :=
              ⟨req, List.mem_append_right _ List.mem_cons_self, admitted,
                call_authenticated admitted⟩
            subst row
            exact ⟨draw, params, at_n, asked, rfl, rfl⟩
    · have none : self.bodyOf arrival = [] := by
        rcases body_of_action allowed acting with ⟨nothing, _⟩ | ⟨_, _, _, _, _, _, action, _⟩
        · exact nothing
        · cases action
      have empty : l'.bodies = [] := by
        rw [bodies, none]
        rfl
      constructor <;> simp [empty, fresh]
    · have none : self.bodyOf arrival = [] := by
        rcases body_of_action allowed acting with ⟨nothing, _⟩ | ⟨_, _, _, _, _, _, action, _⟩
        · exact nothing
        · exact absurd action (other _)
      have old : l'.bodies = l.bodies := by
        rw [bodies, none, List.append_nil]
        cases a <;> simp_all [Serving.bodiesAfter]
      constructor
      · rw [old, kept, before.length]
      · rw [old, kept]
        exact later.calls

theorem bodies_run {s : HttpCluster} (run : exec self.step .start ms = some s) :
    ∀ (i : Nat) serving, s.locals[i]? = some serving → BodiesRequested self ms i serving := by
  let holds : List (Move Arrival) → HttpCluster → Prop := fun ms s =>
    ∀ (i : Nat) serving, s.locals[i]? = some serving → BodiesRequested self ms i serving
  have first : holds [] .start := by
    intro i serving there
    simp [HttpCluster.start] at there
  have one : ∀ ms s m t, exec self.step .start ms = some s → holds ms s → True →
      self.step s m = some t → holds (ms ++ [m]) t := by
    intro ms s m t _ before _ h i serving' there
    rcases process_cases h there with ⟨arrival, serving, rfl, at_i, moved⟩ | ⟨at_i, _⟩ |
      ⟨_, rfl, _⟩
    · exact bodies_step (before i serving at_i) moved
    · exact bodies_later m (before i serving' at_i)
    · constructor <;> simp
  have last : holds ms s := past_induction first one along_true run
  exact last

/-- In every run of a cluster behind its HTTP services, whatever a row says was asked for
with the right credential: a user has created the application of that owner and name, a
driver with its token has registered its address and id, and the owner or the driver has
ended it. What is launched for it is what its owner has asked for. -/
theorem rows_requested {s : HttpCluster} (run : exec self.step .start ms = some s) :
    (∀ r ∈ s.shared.db.rows, RowRequested self ms r) ∧
    ∀ (i n : Nat) serving app, s.locals[i]? = some serving →
      serving.process.routes.creates[n]? = some (.launching app) → ∃ draw params,
        RequestedAt self ms i draw (.createApp app.username params) ∧ draw.token = app.token ∧
        serving.launchRequest n = some
          { versionName := params.version, sessionId := app.id, appName := app.name
            username := app.username, token := app.token, userConfig := params.config.getD ∅
            pythonPackages := params.pythonPackages } := by
  constructor
  · intro r stored
    exact grounded_requested run ((grounded_run (http_run run)).1 r stored)
  · intro i n serving app there launching
    obtain ⟨draw, params, body, asked, name, token⟩ :=
      (bodies_run run i serving there).calls n _ app launching rfl
    refine ⟨draw, params, asked, token, ?_⟩
    simp only [Serving.launchRequest, launching, body, name]

/-- Alice creates an application on the first server, its driver registers it on the second,
and a request for it comes in at the first. -/
def requestedRun : List (Move Arrival) :=
  let draw : Draw := { token := "token-a", createdAt := 0, sender := "10.0.0.1", stored := true }
  [.join, .join,
   .act 0 (.request
     (PythonClient.createApplication localUrl aliceHeaders (headerValue "\x7b\x7d")) draw),
   .act 1 (.request (SparkPlugListener.callback localUrl "token-a" "10.0.0.1:15002" "app-1") draw),
   .act 0 (.request
     { method := .post, path := "/spark.connect.SparkConnectService/ExecutePlan"
       headers := (bearer "token-a").headers } draw),
   .act 0 (.inside (.proxy (.lookup 0))), .act 0 (.inside (.proxy (.storeLookup 0 true))),
   .act 0 (.inside (.proxy (.lookupOrInsert 0))), .act 0 (.inside (.proxy (.enqueue 0))),
   .act 0 (.inside (.proxy (.receive 0))), .act 0 (.inside (.proxy (.resolve 0 true))),
   .act 0 (.inside (.proxy (.connect 0 fun _ => .connected))),
   .act 0 (.inside (.proxy (.send 0 .ready)))]

theorem requested_run_computed : ∃ s r serving f,
    exec trustingService.step .start requestedRun = some s ∧ r ∈ s.shared.db.rows ∧
    r.username = "alice" ∧ r.token = "token-a" ∧ r.state = .running ∧
    s.locals[0]? = some serving ∧ f ∈ serving.process.proxy.sent ∧
    f.address = "10.0.0.1:15002" := by
  have computed : (exec trustingService.step .start requestedRun).any (fun s =>
      (s.shared.db.rows[0]?.any fun r =>
        r.username = "alice" && r.token = "token-a" && r.state = .running) &&
      s.locals[0]?.any fun serving =>
        serving.process.proxy.sent[0]?.any fun f => f.address = "10.0.0.1:15002") = true := by
    decide +kernel
  obtain ⟨s, run, facts⟩ := computed_run computed
  rw [Bool.and_eq_true] at facts
  obtain ⟨r, at_r, row⟩ := (Option.any_eq_true _ _).mp facts.1
  obtain ⟨serving, there, sent⟩ := (Option.any_eq_true _ _).mp facts.2
  obtain ⟨f, at_f, address⟩ := (Option.any_eq_true _ _).mp sent
  simp only [Bool.and_eq_true, decide_eq_true_eq] at row address
  exact ⟨s, r, serving, f, run, List.mem_of_getElem? at_r, row.1.1, row.1.2, row.2, there,
    List.mem_of_getElem? at_f, address⟩

theorem alice_row_requested :
    (∃ i draw params, RequestedAt trustingService requestedRun i draw (.createApp "alice" params)) ∧
    ∃ params, Requested trustingService requestedRun (.appCallback "token-a" params) := by
  obtain ⟨s, r, _, _, run, stored, owner, token, running, _⟩ := requested_run_computed
  have row := (rows_requested run).1 r stored
  obtain ⟨i, draw, params, asked, _⟩ := row.created
  rw [owner] at asked
  have registered := row.running running
  rw [token] at registered
  exact ⟨⟨i, draw, params, asked⟩, registered⟩

/-- In every run of a cluster behind its HTTP services, whatever a server forwards came in as
a request for Spark Connect, and goes to an address that a driver with the token of the
request has registered. -/
theorem traffic_requested {s : HttpCluster} (run : exec self.step .start ms = some s) {i : Nat}
    {serving : Serving} (there : s.locals[i]? = some serving) {f : Forwarded}
    (sent : f ∈ serving.process.proxy.sent) :
    ∃ req draw token applicationId, .act i (.request req draw) ∈ ms ∧
      startsWith req.path "/spark.connect.SparkConnectService" = true ∧ f.req = req.forProxy ∧
      extractBearerToken req.headers = .ok token ∧
      Requested self ms (.appCallback token { address := f.address, applicationId }) := by
  have lower := http_run run
  have there' : (s.map Serving.process).locals[i]? = some serving.process := by
    simp [Composite.map, there]
  have grounded := (grounded_run lower).2 i _ there'
  obtain ⟨draw, call, ⟨req, member, admitted, _⟩, first⟩ :=
    taken_requested run (grounded.sent f sent) rfl
  obtain rfl := begun_dispatch first
  obtain ⟨token, carries, before, later, u, split, _, _, _, known⟩ :=
    (cluster_carried lower there').sent f sent
  have registered : ∃ j applicationId,
      .act j (.routes (.appCallback token f.address applicationId true)) ∈ before := by
    rcases known with ⟨r, none, _⟩ | known
    · simp [Db.new, Table.empty] at none
    · exact known
  obtain ⟨j, applicationId, taken⟩ := registered
  have taken' : .act j (.routes (.appCallback token f.address applicationId true)) ∈
      ms.filterMap (Move.lower self.actionOf) := by
    rw [split]
    exact List.mem_append_left _ taken
  obtain ⟨drawn, other, asked, begun⟩ := taken_requested run taken' rfl
  obtain rfl := begun_registration begun
  generalize same : ApiCall.dispatchRequest f.req = call at admitted
  cases call_admits admitted with
  | dispatched connect =>
    have forwarded : f.req = req.forProxy := ApiCall.dispatchRequest.inj same
    have headers : f.req.headers = req.headers := congrArg Request.headers forwarded
    rw [headers] at carries
    exact ⟨req, draw, token, applicationId, member, connect, forwarded, carries, j, drawn, asked⟩
  | _ => cases same

theorem alice_traffic_requested : ∃ token applicationId,
    Requested trustingService requestedRun
      (.appCallback token { address := "10.0.0.1:15002", applicationId }) := by
  obtain ⟨s, _, serving, f, run, _, _, _, _, there, sent, address⟩ := requested_run_computed
  obtain ⟨_, _, token, applicationId, _, _, _, _, registered⟩ := traffic_requested run there sent
  rw [address] at registered
  exact ⟨token, applicationId, registered⟩

end

end SparkPlug
