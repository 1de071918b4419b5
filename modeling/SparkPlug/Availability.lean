import SparkPlug.ClusterRouting
import SparkPlug.UpstreamCache

/-!
A session needs no particular server: wherever it is created and registered, any other
server of the cluster finds its address in the store and forwards to it.
-/
namespace SparkPlug
open KeyedTable Runs Shared Tasks

/- The tokens that a server knows were drawn for an application. -/

/-- The tokens of dispatchers, and of requests that are about to get one. -/
def Proxy.Knows (p : Proxy) (token : String) : Prop :=
  (∃ disp ∈ p.dispatchers, disp.token = token) ∨ ∃ task ∈ p.requests, task.phase = .found token

theorem knows_step {db : Db} {p : Proxy} {act : ProxyAction} {outcome : ProxyOutcome}
    (h : p.step db act = some outcome) {token : String} (knows : outcome.proxy.Knows token) :
    p.Knows token ∨ ∃ r ∈ db.rows, r.token = token := by
  rcases knows with ⟨disp', member, same⟩ | ⟨task', member, phase⟩
  · obtain ⟨d, there⟩ := List.mem_iff_getElem?.mp member
    rcases dispatcher_origin h there with old | ⟨_, r, req, created, _, found, _, rfl⟩ |
      ⟨disp, old, move⟩
    · exact Or.inl (Or.inl ⟨disp', List.mem_of_getElem? old, same⟩)
    · exact Or.inl (Or.inr ⟨_, List.mem_of_getElem? found, congrArg _ same⟩)
    · exact Or.inl (Or.inl ⟨disp, List.mem_of_getElem? old, (move_token move).symm.trans same⟩)
  · obtain ⟨r, there⟩ := List.mem_iff_getElem?.mp member
    rcases step_request h there with old | ⟨_, _, ⟨_, _, new⟩ | ⟨_, _, new⟩⟩ | ⟨task, old, _, move⟩
    · exact Or.inl (Or.inr ⟨task', List.mem_of_getElem? old, phase⟩)
    · simp [new] at phase
    · simp [new] at phase
    · rw [phase] at move
      cases move with
      | found token stored was =>
        have at_r : p.requests[r]? = some { req := task.req, phase := .missed token } := by
          rw [← was]
          exact old
        rcases store_lookup_result h at_r with ⟨_, row, _⟩ | ⟨_, error, failed⟩
        · exact Or.inr row
        · have other := there.symm.trans failed
          simp only [Option.some.injEq] at other
          rw [other] at phase
          simp at phase

/-- The tokens that a server knows were drawn. -/
def KnowsIssued (g : Store) (process : Process) : Prop :=
  ∀ token, process.proxy.Knows token → token ∈ g.issued

theorem rows_issued_step {w w' : World} {a : Action} (h : w.step a = some w')
    (issued : ∀ r ∈ w.db.rows, r.token ∈ w.issued) : ∀ r ∈ w'.db.rows, r.token ∈ w'.issued := by
  intro r' member
  rcases step_row_origin h member with ⟨r, stored, _, _, same⟩ | ⟨drawn, _, _⟩
  · rw [← same]
    exact issued_kept h r.token (issued r stored)
  · rw [issued_grows h, drawn]
    exact List.mem_cons_self

theorem processes_know :
    Cooperates processStep {} (fun _ _ _ => True)
      (fun g g' => ∀ token ∈ g.issued, token ∈ g'.issued)
      (fun g => ∀ r ∈ g.db.rows, r.token ∈ g.issued) (fun _ => KnowsIssued) := by
  constructor
  · intro i g l a g' l' issued _ _ h
    exact rows_issued_step (process_step.mp h) issued
  · intro i g l a g' l' issued before _ h token knows
    have step := process_step.mp h
    have kept : l'.proxy.Knows token → l.proxy.Knows token ∨ ∃ r ∈ g.db.rows, r.token = token := by
      intro knows
      by_cases running : a = .restart
      · subst running
        have fresh : {} = l'.proxy := congrArg World.proxy (Option.some.inj step)
        simp [← fresh, Proxy.Knows] at knows
      · rcases step_proxy step running with same | ⟨gone, same⟩ | ⟨act, outcome, moved, same⟩
        · have same : l'.proxy = l.proxy := same
          rw [same] at knows
          exact Or.inl knows
        · have same : l'.proxy = l.proxy.invalidate gone := same
          rw [same] at knows
          exact Or.inl knows
        · have same : l'.proxy = outcome.proxy := same
          rw [same] at knows
          exact knows_step moved knows
    rcases kept knows with old | ⟨r, stored, rfl⟩
    · exact issued_kept step token (before token old)
    · exact issued_kept step r.token (issued r stored)
  · intro i g l a g' l' _ _ _ h
    exact issued_kept (process_step.mp h)
  · intro i g l g' _ before moved token knows
    exact moved token (before token knows)
  · intro i g _ token knows
    simp [Proxy.Knows] at knows

/-- A server has no sender in its cache for a token that was never drawn. -/
theorem fresh_not_cached {ms : List (Move Action)} {s : Cluster}
    (run : exec Cluster.step (.start .new) ms = some s) {token : String}
    (fresh : token ∉ s.shared.issued) :
    (∀ r ∈ s.shared.db.rows, r.token ≠ token) ∧ ∀ (k : Nat) process, s.locals[k]? = some process →
      process.proxy.connections.lookup token = none := by
  have first : Holds (fun g : Store => ∀ r ∈ g.db.rows, r.token ∈ g.issued)
      (fun _ => KnowsIssued) (Cluster.start .new) := by
    constructor <;> simp [Cluster.start, Db.new, Table.empty]
  have any : ∀ (s : Cluster) m, True →
      Meets (fun (_ : Store) (_ : Process) (_ : Action) => True) s m := by
    intro s m _
    cases m with
    | act i a => exact fun _ _ => trivial
    | join => trivial
  have issued := cooperates_run processes_know first (along_imp any along_true) run
  refine ⟨fun r stored same => fresh (same ▸ issued.1 r stored), fun k process there => ?_⟩
  cases cached : process.proxy.connections.lookup token with
  | none => rfl
  | some d =>
    have owner := (cluster_carried run there).cache token d cached
    obtain ⟨disp, at_d, same⟩ := Option.map_eq_some_iff.mp owner
    have knows : process.proxy.Knows token := Or.inl ⟨disp, List.mem_of_getElem? at_d, same⟩
    exact absurd (issued.2 k process there token knows) fresh

/- The proxy, from a request for such a token to its sending. -/

theorem modify_last {T : Type} (tasks : List T) (task : T) (f : T → T) :
    (tasks ++ [task]).modify tasks.length f = tasks ++ [f task] := by
  induction tasks with
  | nil => rfl
  | cons first rest ih => simp [ih]

/-- The actions of a proxy that execute no statement. -/
def quietStep (db : Db) (p : Proxy) (a : ProxyAction) : Option Proxy :=
  match p.step db a with
  | some { proxy, statement := none } => some proxy
  | _ => none

namespace Proxy

def withRequest (p : Proxy) (req : Request) (phase : RequestPhase) : Proxy :=
  { p with requests := p.requests ++ [{ req, phase }] }

/-- The request and the dispatcher that was spawned for it. -/
def withSession (p : Proxy) (req : Request) (token : String) (phase : RequestPhase)
    (disp : Dispatcher) : Proxy :=
  { p with
    connections := p.connections.insert token p.dispatchers.length
    dispatchers := p.dispatchers ++ [disp]
    requests := p.requests ++ [{ req, phase }] }

/-- What the last request and the last dispatcher do until the request is sent. -/
def sessionActions (p : Proxy) (req : Request) : List ProxyAction :=
  [.arrive req, .lookup p.requests.length, .storeLookup p.requests.length true,
   .lookupOrInsert p.requests.length, .enqueue p.requests.length,
   .receive p.dispatchers.length, .resolve p.dispatchers.length true,
   .connect p.dispatchers.length fun _ => .connected, .send p.dispatchers.length .ready]

end Proxy

section
variable {db : Db} {p : Proxy} {req : Request} {token address : String} {app : Model}

theorem request_looked_up (uncached : p.connections.lookup token = none)
    (carries : extractBearerToken req.headers = .ok token)
    (found : db.first (fun r => r.token = token) = some app) :
    exec (quietStep db) p [.arrive req, .lookup p.requests.length,
      .storeLookup p.requests.length true, .lookupOrInsert p.requests.length] =
    some (p.withSession req token (.holding token p.dispatchers.length) { token }) := by
  have arrived : quietStep db p (.arrive req) = some (p.withRequest req (.parsed token)) := by
    simp [quietStep, Proxy.step, carries, Proxy.withRequest]
  have absent : ∀ phase, (p.withRequest req phase).openSender token = none := by
    intro phase
    simp [Proxy.openSender, Proxy.withRequest, uncached]
  have there : ∀ phase, (p.withRequest req phase).requests[p.requests.length]? =
      some { req, phase } := by
    intro phase
    simp [Proxy.withRequest]
  have missed : quietStep db (p.withRequest req (.parsed token)) (.lookup p.requests.length) =
      some (p.withRequest req (.missed token)) := by
    simp only [quietStep, Proxy.step, there, absent]
    simp [Proxy.withRequest, Proxy.setPhase, modify_last]
  have known : quietStep db (p.withRequest req (.missed token))
      (.storeLookup p.requests.length true) = some (p.withRequest req (.found token)) := by
    simp [quietStep, Proxy.step, found, Proxy.withRequest, Proxy.setPhase, modify_last]
  have spawned : quietStep db (p.withRequest req (.found token))
      (.lookupOrInsert p.requests.length) =
      some (p.withSession req token (.holding token p.dispatchers.length) { token }) := by
    simp only [quietStep, Proxy.step, there, absent]
    simp [Proxy.withRequest, Proxy.withSession, Proxy.setPhase, Proxy.insertDispatcher, modify_last]
  simp only [exec, arrived, missed, known, spawned, Option.bind_some]

/-- The message of the request. -/
def sessionMessage (p : Proxy) (req : Request) : UpstreamMessage :=
  { request := p.requests.length, req }

theorem request_handled (carries : extractBearerToken req.headers = .ok token)
    (found : db.first (fun r => r.token = token) = some app) (running : app.state = .running)
    (registered : app.address = some address) :
    ∃ q, exec (quietStep db)
        (p.withSession req token (.holding token p.dispatchers.length) { token })
        [.enqueue p.requests.length, .receive p.dispatchers.length,
          .resolve p.dispatchers.length true, .connect p.dispatchers.length fun _ => .connected,
          .send p.dispatchers.length .ready] = some q ∧
      q.sent = p.sent ++
        [{ request := p.requests.length, req, dispatcher := p.dispatchers.length, address }] := by
  let waiting : RequestPhase := .queued token p.dispatchers.length
  let msg := sessionMessage p req
  have enqueued : quietStep db (p.withSession req token (.holding token p.dispatchers.length)
      { token }) (.enqueue p.requests.length) =
      some (p.withSession req token waiting { token, queue := [msg] }) := by
    simp [quietStep, Proxy.step, Proxy.withSession, Proxy.setPhase, Proxy.setDispatcher,
      modify_last, waiting, msg, sessionMessage]
  have received : quietStep db (p.withSession req token waiting { token, queue := [msg] })
      (.receive p.dispatchers.length) =
      some (p.withSession req token waiting { token, phase := .resolving msg }) := by
    simp [quietStep, Proxy.step, Proxy.withSession, Proxy.receiveMessage, carries,
      Proxy.setDispatcher, msg, sessionMessage]
  have alive : ∀ disp, (p.withSession req token waiting disp).sendersGone p.dispatchers.length =
      false := by
    intro disp
    simp [Proxy.sendersGone, Proxy.withSession, waiting, RequestPhase.sender]
  have round : resolveRound db token false true = .resolved address := by
    simp [resolveRound, found, running, registered]
  have resolved : quietStep db (p.withSession req token waiting { token, phase := .resolving msg })
      (.resolve p.dispatchers.length true) =
      some (p.withSession req token waiting { token, phase := .connecting msg address }) := by
    simp only [quietStep, Proxy.step, Proxy.resolveUpstreamAddress, alive]
    simp [Proxy.withSession, Proxy.setDispatcher, round]
  have reached : connectWithRetries (fun _ => .connected) = .connected := by decide
  have connected : quietStep db (p.withSession req token waiting
      { token, phase := .connecting msg address })
      (.connect p.dispatchers.length fun _ => .connected) =
      some (p.withSession req token waiting
        { token, upstream := some address, phase := .sending msg }) := by
    simp [quietStep, Proxy.step, Proxy.withSession, Proxy.connected, reached, Proxy.setDispatcher]
  have sent : ∃ q, quietStep db (p.withSession req token waiting
      { token, upstream := some address, phase := .sending msg })
      (.send p.dispatchers.length .ready) = some q ∧
      q.sent = p.sent ++
        [{ request := p.requests.length, req, dispatcher := p.dispatchers.length, address }] := by
    refine ⟨(p.withSession req token waiting
      { token, upstream := some address, phase := .sending msg }).sendMessage p.dispatchers.length
      { token, upstream := some address, phase := .sending msg } msg address .ready, ?_, rfl⟩
    simp [quietStep, Proxy.step, Proxy.withSession]
  obtain ⟨q, last, forwarded⟩ := sent
  refine ⟨q, ?_, forwarded⟩
  simp only [exec, enqueued, received, resolved, connected, last, Option.bind_some]

end

/- The same in a cluster. -/

theorem quiet_move {s : Cluster} {k : Nat} {process : Process} {q : Proxy} {act : ProxyAction}
    (there : s.locals[k]? = some process) (h : quietStep s.shared.db process.proxy act = some q) :
    Cluster.step s (.act k (.proxy act)) =
      some { s with locals := s.locals.set k { process with proxy := q } } := by
  unfold quietStep at h
  split at h
  · rename_i proxy step
    cases h
    simp [Cluster.step, Shared.step, there, processStep, World.step, World.view, step, World.store,
      World.process]
  · simp at h

theorem quiet_moves {s : Cluster} {k : Nat} {process : Process} {q : Proxy}
    {acts : List ProxyAction} (there : s.locals[k]? = some process)
    (run : exec (quietStep s.shared.db) process.proxy acts = some q) :
    exec Cluster.step s (acts.map fun a => .act k (.proxy a)) =
      some { s with locals := s.locals.set k { process with proxy := q } } := by
  induction acts generalizing s process with
  | nil =>
    cases run
    obtain ⟨bound, same⟩ := List.getElem?_eq_some_iff.mp there
    have kept : s.locals.set k process = s.locals := by
      rw [← same]
      exact List.set_getElem_self bound
    simp [exec, kept]
  | cons act acts ih =>
    obtain ⟨p', first, rest⟩ := exec_cons.mp run
    have bound := (List.getElem?_eq_some_iff.mp there).1
    rw [List.map_cons, exec_cons]
    refine ⟨_, quiet_move there first, ?_⟩
    let moved : Cluster := { s with locals := s.locals.set k { process with proxy := p' } }
    have at_k : moved.locals[k]? = some { process with proxy := p' } := List.getElem?_set_self bound
    have later := ih (s := moved) at_k rest
    rw [later]
    simp [moved, List.set_set]

theorem routes_move {s : Cluster} {i : Nat} {process : Process} {act : RoutesAction}
    {outcome : RoutesOutcome} (there : s.locals[i]? = some process)
    (h : process.routes.step s.shared.db act = some outcome) (kept : outcome.invalidate = none) :
    Cluster.step s (.act i (.routes act)) = some
      { shared := { db := s.shared.db.execOption outcome.statement
                    issued := (Action.newToken (.routes act)).toList ++ s.shared.issued }
        locals := s.locals.set i { process with routes := outcome.routes } } := by
  simp [Cluster.step, Shared.step, there, processStep, World.step, World.view, h, kept,
    World.invalidate, World.store, World.process]

/-- A created and registered application is the one that its token finds. -/
theorem registered_first {db : Db} {username token address applicationId : String}
    {name : Option String} {createdAt : DateTimeUtc} (fresh : ∀ r ∈ db.rows, r.token ≠ token) :
    ((db.exec (.createInsert username name token createdAt)).exec
        (.appCallback token address applicationId)).first (fun r => r.token = token) =
      some { Statement.newRow username name token createdAt db.next with
        address := some address, state := .running, applicationId := some applicationId } := by
  let registration := Statement.appCallback token address applicationId
  have kept : db.rows.map (Table.change registration.set registration.filter) = db.rows := by
    refine (List.map_congr_left fun r member => ?_).trans (List.map_id _)
    simp [registration, Table.change, Statement.filter, fresh r member]
  have rows : ((db.exec (.createInsert username name token createdAt)).exec registration).rows =
      db.rows ++ [{ Statement.newRow username name token createdAt db.next with
        address := some address, state := .running, applicationId := some applicationId }] := by
    simp only [Db.exec, Table.update, Table.insert, List.map_append, List.map_cons, List.map_nil]
    refine congr (congrArg _ kept) ?_
    simp [registration, Table.change, Statement.filter, Statement.newRow, Statement.set]
  have absent : db.rows.find? (fun r => r.token = token) = none :=
    List.find?_eq_none.mpr (by simpa using fresh)
  unfold Table.first
  rw [rows, List.find?_append, absent]
  simp [Statement.newRow]

/-- A server after a createApp call that has succeeded. -/
def Process.withCreated (process : Process) (app : Model) : Process :=
  { process with routes := { process.routes with
      creates := process.routes.creates ++ [.answered (.ok app)]
      watchers := app.id :: process.routes.watchers } }

theorem created_moves {s : Cluster} {i : Nat} {process : Process}
    (there : s.locals[i]? = some process) (username token : String) (name : Option String)
    (createdAt : DateTimeUtc) :
    exec Cluster.step s [.act i (.routes (.createInsert username name token createdAt true)),
      .act i (.routes (.createLaunched process.routes.creates.length true))] = some
      { shared := { db := s.shared.db.exec (.createInsert username name token createdAt)
                    issued := token :: s.shared.issued }
        locals := s.locals.set i (process.withCreated
          (Statement.newRow username name token createdAt s.shared.db.next)) } := by
  have bound := (List.getElem?_eq_some_iff.mp there).1
  let app := Statement.newRow username name token createdAt s.shared.db.next
  let launching : Process := { process with routes := { process.routes with
    creates := process.routes.creates ++ [.launching app] } }
  have inserted : Cluster.step s
      (.act i (.routes (.createInsert username name token createdAt true))) = some
      { shared := { db := s.shared.db.exec (.createInsert username name token createdAt)
                    issued := token :: s.shared.issued }
        locals := s.locals.set i launching } := by
    have moved : process.routes.step s.shared.db
        (.createInsert username name token createdAt true) =
        some { routes := launching.routes
               statement := some (.createInsert username name token createdAt) } := rfl
    exact routes_move there moved rfl
  have accepted : launching.routes.step
      (s.shared.db.exec (.createInsert username name token createdAt))
      (.createLaunched process.routes.creates.length true) =
      some { routes := (process.withCreated app).routes } := by
    simp [Routes.step, launching, Process.withCreated]
  rw [exec_cons]
  refine ⟨_, inserted, ?_⟩
  rw [exec_cons]
  refine ⟨_, routes_move (List.getElem?_set_self bound) accepted rfl, ?_⟩
  simp [exec, Action.newToken, List.set_set, launching, app, Process.withCreated]

theorem registered_move {s : Cluster} {j : Nat} {process : Process}
    (there : s.locals[j]? = some process) (token address applicationId : String) :
    Cluster.step s (.act j (.routes (.appCallback token address applicationId true))) =
      some { s with shared := { s.shared with
        db := s.shared.db.exec (.appCallback token address applicationId) } } := by
  obtain ⟨bound, same⟩ := List.getElem?_eq_some_iff.mp there
  have kept : s.locals.set j process = s.locals := by
    rw [← same]
    exact List.set_getElem_self bound
  rw [routes_move there rfl rfl]
  simp [Action.newToken, kept]

/-- A step of one process leaves alone what it does not change in it, in all of them. -/
theorem field_kept {T : Type} (field : Process → T) {locals : List Process} {i k : Nat}
    {old process : Process} (at_i : locals[i]? = some old) (new : Process)
    (same : field new = field old) (at_k : locals[k]? = some process) :
    ∃ now, (locals.set i new)[k]? = some now ∧ field now = field process := by
  by_cases mine : i = k
  · subst mine
    obtain rfl := Option.some.inj (at_i.symm.trans at_k)
    exact ⟨new, List.getElem?_set_self (List.getElem?_eq_some_iff.mp at_i).1, same⟩
  · exact ⟨process, by rw [List.getElem?_set_ne mine, at_k], rfl⟩

section
variable (username token address applicationId : String) (name : Option String)
  (createdAt : DateTimeUtc) (req : Request)

/-- One server creates an application, one processes its registration, and one forwards a
request for it. -/
def sessionMoves (i j k n : Nat) (serving : Proxy) : List (Move Action) :=
  [.act i (.routes (.createInsert username name token createdAt true)),
   .act i (.routes (.createLaunched n true)),
   .act j (.routes (.appCallback token address applicationId true))] ++
    (serving.sessionActions req).map fun a => .act k (.proxy a)

end

/-- In every state that a cluster reaches, whatever else its servers are doing: a session can
be created on any server, registered through any other and used through any third. The
request of its user is forwarded to the address of its driver. -/
theorem any_server_serves {ms : List (Move Action)} {s : Cluster}
    (run : exec Cluster.step (.start .new) ms = some s) {i j k : Nat}
    {creating registering serving : Process} (at_i : s.locals[i]? = some creating)
    (at_j : s.locals[j]? = some registering) (at_k : s.locals[k]? = some serving)
    (username address applicationId : String) {token : String} (name : Option String)
    (createdAt : DateTimeUtc) (fresh : token ∉ s.shared.issued) {req : Request}
    (carries : extractBearerToken req.headers = .ok token) :
    ∃ t after creator app,
      exec Cluster.step s (sessionMoves username token address applicationId name createdAt req
        i j k creating.routes.creates.length serving.proxy) = some t ∧
      t.locals[k]? = some after ∧ after.proxy.sent = serving.proxy.sent ++
        [{ request := serving.proxy.requests.length, req,
           dispatcher := serving.proxy.dispatchers.length, address }] ∧
      t.locals[i]? = some creator ∧
      creator.routes.creates[creating.routes.creates.length]? = some (.answered (.ok app)) ∧
      app.username = username ∧ app.token = token ∧
      t.shared.db.first (fun r => r.token = token) =
        some { app with
          address := some address, state := .running, applicationId := some applicationId } := by
  obtain ⟨rows, uncached⟩ := fresh_not_cached run fresh
  let app := Statement.newRow username name token createdAt s.shared.db.next
  let created := creating.withCreated app
  have creation := created_moves at_i username token name createdAt
  obtain ⟨registering', at_j', _⟩ := field_kept Process.proxy at_i created rfl at_j
  obtain ⟨serving', at_k', same⟩ := field_kept Process.proxy at_i created rfl at_k
  let launched : Cluster := {
    shared := { db := s.shared.db.exec (.createInsert username name token createdAt)
                issued := token :: s.shared.issued }
    locals := s.locals.set i created }
  have registration := registered_move (s := launched) at_j' token address applicationId
  let ready : Cluster := { launched with
    shared := { launched.shared with
      db := launched.shared.db.exec (.appCallback token address applicationId) } }
  have stored : ready.shared.db.first (fun r => r.token = token) = some { app with
      address := some address, state := .running, applicationId := some applicationId } :=
    registered_first rows
  have looked := request_looked_up (uncached k serving at_k) carries stored
  obtain ⟨q, handled, sent⟩ := request_handled (p := serving.proxy) carries stored rfl rfl
  have acts : exec (quietStep ready.shared.db) serving'.proxy
      (serving.proxy.sessionActions req) = some q := by
    rw [same]
    exact exec_append.mpr ⟨_, looked, handled⟩
  have forwarded := quiet_moves (s := ready) at_k' acts
  let served : Process := { serving' with proxy := q }
  obtain ⟨creator, at_i', routes⟩ := field_kept Process.routes at_k' served rfl
    (List.getElem?_set_self (List.getElem?_eq_some_iff.mp at_i).1)
  have answered : creator.routes.creates[creating.routes.creates.length]? =
      some (.answered (.ok app)) := by
    rw [routes]
    simp [created, Process.withCreated]
  have registered : exec Cluster.step s ([.act i (.routes (.createInsert username name token
      createdAt true)), .act i (.routes (.createLaunched creating.routes.creates.length true))] ++
      [.act j (.routes (.appCallback token address applicationId true))]) = some ready := by
    refine exec_append.mpr ⟨launched, creation, ?_⟩
    simp [exec, registration, ready]
  refine ⟨{ ready with locals := ready.locals.set k served }, served, creator, app,
    exec_append.mpr ⟨ready, registered, forwarded⟩, ?_, sent, at_i', answered, rfl, rfl, stored⟩
  exact List.getElem?_set_self (List.getElem?_eq_some_iff.mp at_k').1

/-- Three servers: the first waits for the launch of bob's application, the second deletes it
and the third looks up a request for it. -/
def busyServers : List (Move Action) :=
  [.join, .join, .join,
   .act 0 (.routes (.createInsert "bob" none "token-b" 0 true)),
   .act 1 (.routes (.appCallback "token-b" "10.0.0.2:15002" "app-2" true)),
   .act 1 (.routes (.deleteRead 1 "bob" true)),
   .act 1 (.routes (.deleteUpdate 0 true)),
   .act 2 (.proxy (.arrive (bearer "token-b")))]

/-- The first creates alice's application, the second registers it and the third serves her. -/
theorem three_servers_serve : ∃ s serving t process,
    exec Cluster.step (.start .new) busyServers = some s ∧ s.locals[2]? = some serving ∧
    serving.proxy.requests = [⟨bearer "token-b", .parsed "token-b"⟩] ∧
    exec Cluster.step s (sessionMoves "alice" "token-a" "10.0.0.1:15002" "app-1" none 0
      (bearer "token-a") 0 1 2 1 serving.proxy) = some t ∧
    t.locals[2]? = some process ∧
    process.proxy.sent = [⟨1, bearer "token-a", 0, "10.0.0.1:15002"⟩] := by
  have computed : (exec Cluster.step (.start .new) busyServers).any (fun s =>
      "token-a" ∉ s.shared.issued &&
      (s.locals[0]?.any fun creating => creating.routes.creates.length = 1) &&
      s.locals[1]?.isSome &&
      s.locals[2]?.any fun serving => serving.proxy.sent = [] ∧ serving.proxy.dispatchers = [] ∧
        serving.proxy.requests = [⟨bearer "token-b", .parsed "token-b"⟩]) = true := by decide
  obtain ⟨s, run, facts⟩ := computed_run computed
  simp only [Bool.and_eq_true, decide_eq_true_eq, Option.any_eq_true,
    Option.isSome_iff_exists] at facts
  obtain ⟨⟨⟨fresh, creating, at_0, pending⟩, registering, at_1⟩, serving, at_2, facts⟩ := facts
  obtain ⟨sent, idle, waiting⟩ := facts
  have carries : extractBearerToken (bearer "token-a").headers = .ok "token-a" := by decide
  obtain ⟨t, process, _, _, served, there, all, _⟩ := any_server_serves run at_0 at_1 at_2 "alice"
    "10.0.0.1:15002" "app-1" none 0 fresh carries
  rw [pending] at served
  refine ⟨s, serving, t, process, run, at_2, waiting, served, there, ?_⟩
  rw [all, sent, idle, waiting]
  rfl

end SparkPlug
