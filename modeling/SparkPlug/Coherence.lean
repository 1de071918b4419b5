import SparkPlug.Sessions

/-!
The upstream connection of a dispatcher and the store. A dispatcher reads the address
once for each connection it opens and reuses the connection; registrations and
checks do not touch it.
-/
namespace SparkPlug
open KeyedTable Runs

/-- A write after which the row of a token does not hold an address: the registration
of another one, or the verdict of a check. -/
inductive Leaves (token address : String) (w : World) : Action → Prop where
  | registered (other applicationId : String) (differs : other ≠ address) :
      Leaves token address w (.routes (.appCallback token other applicationId true))
  | checked (n : Nat) (app r : Model) (rest : List Model)
      (failing : w.checks[n]? = some (.failing app rest))
      (row : w.db.find app.id = some r) (owner : r.token = token) :
      Leaves token address w (.check (.checkUpdate n true))

def NotAt (token address : String) (db : Db) : Prop :=
  ∀ r ∈ db.rows, r.token = token → r.address ≠ some address

/-- The dispatcher has a connection to the address or is opening one. -/
def HeldAt (p : Proxy) (d : Nat) (token address : String) : Prop :=
  ∃ disp, p.dispatchers[d]? = some disp ∧ disp.token = token ∧ disp.Holds address

theorem row_not_at {st : Statement} {r r' : Model} {address : String} (h : st.row r = some r')
    (elsewhere : r.address ≠ some address)
    (silent : ∀ applicationId, st ≠ .appCallback r.token address applicationId) :
    r'.address ≠ some address := by
  cases st <;> grind [Statement.row, Statement.filter, Statement.set]

theorem not_at_step {token address : String} {w w' : World} {a : Action}
    (elsewhere : NotAt token address w.db) (silent : a.callback ≠ some (token, address))
    (h : w.step a = some w') : NotAt token address w'.db := by
  intro r' member same
  rcases step_rows h member with ⟨_, old⟩ | ⟨st, issued, ⟨r, stored, kept⟩ | new⟩
  · exact elsewhere r' old same
  · have owner := (Statement.row_owner kept).2.symm.trans same
    refine row_not_at kept (elsewhere r stored owner) ?_
    intro applicationId registers
    rw [registers, owner] at issued
    exact silent (statement_callback issued)
  · obtain ⟨_, _, _, _, rfl, rfl⟩ := new
    simp [Statement.newRow]

theorem leaves_write {token address : String} {w w' : World} {a : Action} (named : Named w)
    (leaves : Leaves token address w a) (h : w.step a = some w') : NotAt token address w'.db := by
  intro r' member same
  cases leaves with
  | registered other applicationId differs =>
    have issued : w.statement (.routes (.appCallback token other applicationId true)) =
        some (.appCallback token other applicationId) := by simp [World.statement, Routes.step]
    rcases step_rows h member with ⟨none, _⟩ | ⟨st, issued', ⟨r, stored, kept⟩ | new⟩
    · simp [none] at issued
    · obtain rfl := Option.some.inj (issued.symm.trans issued')
      have owner := (Statement.row_owner kept).2.symm.trans same
      simp only [Statement.row, Statement.filter, owner, decide_true, ↓reduceIte,
        Option.some.injEq] at kept
      subst r'
      simpa [Statement.set] using differs
    · obtain ⟨_, _, _, _, rfl, rfl⟩ := new
      simp [Statement.newRow]
  | checked n app row rest failing found owner =>
    have issued : w.statement (.check (.checkUpdate n true)) = some (.checkFailed app.id) := by
      simp [World.statement, Check.step, failing]
    obtain ⟨there, key⟩ := Table.find_some found
    rcases step_rows h member with ⟨none, _⟩ | ⟨st, issued', ⟨r, stored, kept⟩ | new⟩
    · simp [none] at issued
    · obtain rfl := Option.some.inj (issued.symm.trans issued')
      have mine := (Statement.row_owner kept).2.symm.trans same
      have one := named.distinct r stored row there (mine.trans owner.symm)
      simp only [Statement.row, Statement.filter, one.trans key, decide_true, ↓reduceIte,
        Option.some.injEq] at kept
      subst r'
      simp [Statement.set]
    · obtain ⟨_, _, _, _, rfl, rfl⟩ := new
      simp [Statement.newRow]

/-- What holds after the write; `p` is the proxy at that time. -/
structure Coherent (token address : String) (p : Proxy) (w : World) : Prop where
  elsewhere : NotAt token address w.db
  held : ∀ d, HeldAt w.proxy d token address → HeldAt p d token address
  sent : ∀ f ∈ w.proxy.sent, p.requests.length ≤ f.request →
    extractBearerToken f.req.headers = .ok token → f.address = address →
    HeldAt p f.dispatcher token address

section
variable {token address : String} {p : Proxy} {as : List Action} {w : World} {act : ProxyAction}
  {outcome : ProxyOutcome}

theorem coherent_held (coherent : Coherent token address p w)
    (h : w.proxy.step w.db act = some outcome) :
    ∀ d, HeldAt outcome.proxy d token address → HeldAt p d token address := by
  intro d holds
  obtain ⟨disp', there, owner, held⟩ := holds
  rcases dispatcher_origin h there with old | ⟨_, _, _, _, _, _, _, rfl⟩ | ⟨disp, old, move⟩
  · exact coherent.held d ⟨disp', old, owner, held⟩
  · simp [Dispatcher.Holds, DispatcherPhase.address] at held
  · rw [move_token move] at owner
    rcases holds_move move held with was | ⟨_, r, member, same, _, there⟩
    · exact coherent.held d ⟨disp, old, owner, was⟩
    · exact absurd there (coherent.elsewhere r member (same.trans owner))

theorem coherent_sent (routed : Routed (.start .new) as w.proxy)
    (coherent : Coherent token address p w) (h : w.proxy.step w.db act = some outcome) :
    ∀ f ∈ outcome.proxy.sent, p.requests.length ≤ f.request →
      extractBearerToken f.req.headers = .ok token → f.address = address →
      HeldAt p f.dispatcher token address := by
  intro f member late carries at_address
  rcases step_sent h with ⟨same, _⟩ | ⟨d, disp, msg, target, _, at_d, phase, connection, sent, _⟩
  · rw [same] at member
    exact coherent.sent f member late carries at_address
  · rw [sent] at member
    rcases List.mem_append.mp member with old | new
    · exact coherent.sent f old late carries at_address
    · obtain rfl := List.mem_singleton.mp new
      have handled : msg ∈ disp.messages := by
        simp [Dispatcher.messages, DispatcherPhase.message, phase]
      have mine := routed.messages disp (List.mem_of_getElem? at_d) msg handled
      have owner : disp.token = token := Except.ok.inj (mine.symm.trans carries)
      apply coherent.held
      exact ⟨disp, at_d, owner, Or.inr (connection.trans (congrArg some at_address))⟩

theorem coherent_step {w' : World} {a : Action} (sound : Sound as w)
    (coherent : Coherent token address p w) (alive : a ≠ .restart)
    (silent : a.callback ≠ some (token, address)) (h : w.step a = some w') :
    Coherent token address p w' := by
  have elsewhere := not_at_step coherent.elsewhere silent h
  cases a with
  | proxy act =>
    obtain ⟨outcome, run, rfl⟩ := Option.map_eq_some_iff.mp h
    exact ⟨elsewhere, coherent_held coherent run, coherent_sent (routed_run sound.run) coherent run⟩
  | routes act =>
    obtain ⟨outcome, run, rfl⟩ := Option.map_eq_some_iff.mp h
    cases removed : outcome.invalidate with
    | none => exact { coherent with elsewhere }
    | some other => exact ⟨elsewhere, coherent.held, coherent.sent⟩
  | check act =>
    obtain ⟨outcome, run, rfl⟩ := Option.map_eq_some_iff.mp h
    exact { coherent with elsewhere }
  | restart => exact absurd rfl alive

theorem coherent_run {before : List Action} {w' : World} (sound : Sound before w)
    (coherent : Coherent token address p w) (alive : .restart ∉ as)
    (fresh : Along World.step DrawsFresh w as)
    (silent : ∀ a ∈ as, a.callback ≠ some (token, address)) (run : exec World.step w as = some w') :
    Coherent token address p w' := by
  induction as generalizing before w with
  | nil =>
    cases run
    exact coherent
  | cons a as ih =>
    obtain ⟨w₁, first, rest⟩ := exec_cons.mp run
    simp only [List.mem_cons, not_or] at alive
    have sound₁ := sound_step sound fresh.1 first
    have coherent₁ := coherent_step sound coherent (Ne.symm alive.1) (silent a (by simp)) first
    exact ih sound₁ coherent₁ alive.2 (fresh.2 w₁ first) (fun b hb => silent b (by simp [hb])) rest

/-- After a write that leaves an address, and with no later registration of it, a request
that arrives later is sent to that address only by a dispatcher that had a
connection to it, or was opening one, at the time of the write. -/
theorem stale_connection_only {pre post : List Action} {a : Action} {w₀ w₁ w' : World}
    (before : exec World.step (.start .new) pre = some w₀)
    (leaves : Leaves token address w₀ a) (written : w₀.step a = some w₁)
    (after : exec World.step w₁ post = some w')
    (fresh : Along World.step DrawsFresh (.start .new) (pre ++ a :: post))
    (alive : .restart ∉ post) (silent : ∀ b ∈ post, b.callback ≠ some (token, address)) :
    ∀ f ∈ w'.proxy.sent, w₁.proxy.requests.length ≤ f.request →
      extractBearerToken f.req.headers = .ok token → f.address = address →
      HeldAt w₁.proxy f.dispatcher token address := by
  obtain ⟨fresh₀, rest⟩ := along_append.mp fresh
  obtain ⟨freshWrite, later⟩ := rest w₀ before
  have sound₀ := sound_run fresh₀ before
  have sound₁ := sound_step sound₀ freshWrite written
  have start : Coherent token address w₁.proxy w₁ := by
    refine ⟨leaves_write sound₀.named leaves written, fun d held => held, ?_⟩
    intro f member late
    obtain ⟨task, known, _⟩ := sound₁.accounted.sent f member
    have := (List.getElem?_eq_some_iff.mp known).1
    omega
  exact (coherent_run sound₁ start alive (later w₁ written) silent after).sent

end

/-- The steps of one request until it is handed upstream, with an empty cache. -/
def firstRequest : List Action :=
  [.proxy (.arrive (bearer "token-a")), .proxy (.lookup 0), .proxy (.storeLookup 0 true),
   .proxy (.lookupOrInsert 0), .proxy (.enqueue 0), .proxy (.receive 0), .proxy (.resolve 0 true),
   .proxy (.connect 0 fun _ => .connected), .proxy (.send 0 .ready)]

def register (address : String) : Action := .routes (.appCallback "token-a" address "app-1" true)

def registeredRun : List Action :=
  [.routes (.createInsert "alice" none "token-a" 0 true), register "10.0.0.1:15002"]

/-- With no connection at the time of the write the new address is used. -/
theorem moved_request_sent : ∃ w₁ w, exec World.step (.start .new)
      (registeredRun ++ [register "10.0.0.2:15002"]) = some w₁ ∧
    exec World.step w₁ firstRequest = some w ∧ w.proxy.sent.length = 1 ∧
    ∀ f ∈ w.proxy.sent, extractBearerToken f.req.headers = .ok "token-a" →
      f.address ≠ "10.0.0.1:15002" := by
  have computed : (exec World.step (.start .new) registeredRun).any (fun w₀ =>
      (w₀.step (register "10.0.0.2:15002")).any fun w₁ =>
      w₁.proxy.requests = [] && w₁.proxy.dispatchers = [] &&
      (exec World.step w₁ firstRequest).any fun w => w.proxy.sent.length = 1) = true := by decide
  obtain ⟨w₀, before, facts⟩ := computed_run computed
  simp only [Bool.and_eq_true, decide_eq_true_eq, Option.any_eq_true] at facts
  obtain ⟨w₁, written, ⟨none, empty⟩, w, after, sent⟩ := facts
  refine ⟨w₁, w, exec_snoc.mpr ⟨w₀, before, written⟩, after, sent, ?_⟩
  intro f member carries stale
  have leaves : Leaves "token-a" "10.0.0.1:15002" w₀ (register "10.0.0.2:15002") :=
    .registered "10.0.0.2:15002" "app-1" (by decide)
  obtain ⟨disp, there, _⟩ := stale_connection_only before leaves written after (by decide)
    (by simp [firstRequest]) (by decide) f member (by simp [none]) carries stale
  simp [empty] at there

def secondRequest : List Action :=
  [.proxy (.arrive (bearer "token-a")), .proxy (.lookup 1), .proxy (.enqueue 1),
   .proxy (.receive 0), .proxy (.send 0 .ready)]

/-- A check reads the application and gives it up after its failed probes. -/
def missedCheck : List Action :=
  [.check (.checkRead true), .check (.checkProbe 0 fun _ => false), .check (.checkUpdate 0 true)]

/-- The driver has registered at a second address, or a check has set the application to
FAILED, and a later request still goes over the connection to the first address. -/
theorem stale_connection_used : (∃ w₁ w, exec World.step (.start .new)
      (registeredRun ++ firstRequest ++ [register "10.0.0.2:15002"]) = some w₁ ∧
    (∀ r ∈ w₁.db.rows, r.state = .running ∧ r.address = some "10.0.0.2:15002") ∧
    exec World.step w₁ secondRequest = some w ∧ w.db.rows = w₁.db.rows ∧
    ∃ f ∈ w.proxy.sent, w₁.proxy.requests.length ≤ f.request ∧
      extractBearerToken f.req.headers = .ok "token-a" ∧ f.address = "10.0.0.1:15002") ∧
    ∃ w₁ w, exec World.step (.start .new) (registeredRun ++ firstRequest ++ missedCheck) =
      some w₁ ∧ (∀ r ∈ w₁.db.rows, r.state = .failed ∧ r.address = none) ∧
    exec World.step w₁ secondRequest = some w ∧ w.db.rows = w₁.db.rows ∧
    ∃ f ∈ w.proxy.sent, w₁.proxy.requests.length ≤ f.request ∧
      extractBearerToken f.req.headers = .ok "token-a" ∧ f.address = "10.0.0.1:15002" := by
  have moved : (exec World.step (.start .new)
      (registeredRun ++ firstRequest ++ [register "10.0.0.2:15002"])).any (fun w₁ =>
      decide (∀ r ∈ w₁.db.rows, r.state = .running ∧ r.address = some "10.0.0.2:15002") &&
      (exec World.step w₁ secondRequest).any fun w => w.db.rows = w₁.db.rows &&
      decide (∃ f ∈ w.proxy.sent, w₁.proxy.requests.length ≤ f.request ∧
        extractBearerToken f.req.headers = .ok "token-a" ∧ f.address = "10.0.0.1:15002")) =
      true := by decide
  have failed : (exec World.step (.start .new)
      (registeredRun ++ firstRequest ++ missedCheck)).any (fun w₁ =>
      decide (∀ r ∈ w₁.db.rows, r.state = .failed ∧ r.address = none) &&
      (exec World.step w₁ secondRequest).any fun w => w.db.rows = w₁.db.rows &&
      decide (∃ f ∈ w.proxy.sent, w₁.proxy.requests.length ≤ f.request ∧
        extractBearerToken f.req.headers = .ok "token-a" ∧ f.address = "10.0.0.1:15002")) =
      true := by decide
  constructor
  · obtain ⟨w₁, run, facts⟩ := computed_run moved
    simp only [Bool.and_eq_true, decide_eq_true_eq, Option.any_eq_true] at facts
    obtain ⟨rows, w, after, same, stale⟩ := facts
    exact ⟨w₁, w, run, rows, after, same, stale⟩
  · obtain ⟨w₁, run, facts⟩ := computed_run failed
    simp only [Bool.and_eq_true, decide_eq_true_eq, Option.any_eq_true] at facts
    obtain ⟨rows, w, after, same, stale⟩ := facts
    exact ⟨w₁, w, run, rows, after, same, stale⟩

end SparkPlug
