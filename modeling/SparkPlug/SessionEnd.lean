import SparkPlug.Sessions

/-!
Requests that arrive after a session was ended. Between the update of the store and
the invalidation of the cache, and after it, old channels are still in use and new
dispatchers may be spawned; none of them forwards such a request.
-/
namespace SparkPlug
open KeyedTable Runs

/-- No application with the token runs or is going to. -/
def Ended (token : String) (db : Db) : Prop :=
  ∀ r ∈ db.rows, r.token = token → r.state ≠ .running ∧ r.state ≠ .launching

/-- One call that ends the session of a token: the action that updates the store in
state `w₀`, and the one that invalidates the connection in state `w₂`. -/
inductive SessionEnd (token : String) (w₀ w₂ : World) : Action → Action → Prop where
  | deleteApp (n : Nat) (i : Int) (username : String) (address : Option String)
      (result : Except StatusCode Unit)
      (read : w₀.routes.deletes[n]? = some (.read i username address token))
      (stopped : w₂.routes.deletes[n]? = some (.stopped token result)) :
      SessionEnd token w₀ w₂ (.routes (.deleteUpdate n true)) (.routes (.deleteInvalidate n))
  | appCallbackDelete (sender : String) (found : ∃ r ∈ w₀.db.rows, r.token = token)
      (updated : w₂.routes.callbackDeletes[w₀.routes.callbackDeletes.length]? =
        some (.updated token)) :
      SessionEnd token w₀ w₂ (.routes (.appCallbackDelete token sender true))
        (.routes (.appCallbackDeleteInvalidate w₀.routes.callbackDeletes.length))

theorem end_issued {token : String} {w₀ w₂ : World} {update invalidate : Action}
    (named : Named w₀) (ends : SessionEnd token w₀ w₂ update invalidate) : token ∈ w₀.issued := by
  cases ends with
  | deleteApp n i username address result read stopped =>
    exact (named.reads i username address token (List.mem_of_getElem? read)).1
  | appCallbackDelete sender found updated =>
    obtain ⟨r, stored, rfl⟩ := found
    exact named.issued r stored

theorem end_update {token : String} {w₀ w₁ w₂ : World} {update invalidate : Action}
    (named : Named w₀) (ends : SessionEnd token w₀ w₂ update invalidate)
    (h : w₀.step update = some w₁) : Ended token w₁.db := by
  have finished : ∀ r ∈ w₁.db.rows, r.token = token → r.state = .finished := by
    cases ends with
    | deleteApp n i username address result read stopped => exact delete_finishes named read h
    | appCallbackDelete sender found updated => exact callback_delete_finishes h
  intro r member same
  simp [finished r member same]

theorem end_invalidate {token : String} {w₀ w₂ w₃ : World} {update invalidate : Action}
    (ends : SessionEnd token w₀ w₂ update invalidate) (h : w₂.step invalidate = some w₃) :
    w₃.proxy = w₂.proxy.invalidate token ∧ w₃.db = w₂.db := by
  cases ends with
  | deleteApp n i username address result read stopped =>
    simp only [World.step, Routes.step, stopped, Option.map_some, Option.some.injEq] at h
    subst w₃
    exact ⟨rfl, rfl⟩
  | appCallbackDelete sender found updated =>
    simp only [World.step, Routes.step, updated, Option.map_some, Option.some.injEq] at h
    subst w₃
    exact ⟨rfl, rfl⟩

theorem row_ended {st : Statement} {r r' : Model} (h : st.row r = some r')
    (ended : r.state ≠ .running ∧ r.state ≠ .launching)
    (silent : ∀ address applicationId, st ≠ .appCallback r.token address applicationId) :
    r'.state ≠ .running ∧ r'.state ≠ .launching := by
  cases st <;> grind [Statement.row, Statement.filter, Statement.set]

theorem ended_step {token : String} {w w' : World} {a : Action} (ended : Ended token w.db)
    (used : token ∈ w.issued) (fresh : DrawsFresh w a)
    (silent : ∀ c ∈ a.callback, c.1 ≠ token) (h : w.step a = some w') : Ended token w'.db := by
  intro r' member same
  rcases step_rows h member with ⟨_, old⟩ | ⟨st, issued, ⟨r, stored, kept⟩ | new⟩
  · exact ended r' old same
  · have owner := (Statement.row_owner kept).2.symm.trans same
    refine row_ended kept (ended r stored owner) ?_
    rintro address applicationId rfl
    exact silent _ (statement_callback issued) owner
  · obtain ⟨_, _, _, _, rfl, rfl⟩ := new
    obtain rfl := statement_insert issued
    have new := (fresh _ rfl).1
    simp only [Statement.newRow] at same
    rw [same] at new
    exact absurd used new

/-- A dispatcher without a connection, and not about to have one. -/
def Dispatcher.Idle (disp : Dispatcher) : Prop :=
  disp.upstream = none ∧ disp.phase.address = none ∧ ∀ msg, disp.phase ≠ .sending msg

/-- What holds after the invalidation; `requests` and `dispatchers` are the numbers of
requests and dispatchers there were at that time. -/
structure Closed (token : String) (requests dispatchers : Nat) (w : World) : Prop where
  used : token ∈ w.issued
  ended : Ended token w.db
  moreRequests : requests ≤ w.proxy.requests.length
  moreDispatchers : dispatchers ≤ w.proxy.dispatchers.length
  cache : ∀ d, w.proxy.connections.lookup token = some d → dispatchers ≤ d
  senders : ∀ (r : Nat) task, requests ≤ r → w.proxy.requests[r]? = some task →
    task.phase.token = some token → ∀ d, task.phase.sender = some d → dispatchers ≤ d
  messages : ∀ (d : Nat) disp, w.proxy.dispatchers[d]? = some disp → disp.token = token →
    ∀ msg ∈ disp.messages, requests ≤ msg.request → dispatchers ≤ d
  idle : ∀ (d : Nat) disp, dispatchers ≤ d → w.proxy.dispatchers[d]? = some disp →
    disp.token = token → disp.Idle
  sent : ∀ f ∈ w.proxy.sent, requests ≤ f.request →
    extractBearerToken f.req.headers ≠ .ok token
  answers : ∀ (r : Nat) task, requests ≤ r → w.proxy.requests[r]? = some task →
    extractBearerToken task.req.headers = .ok token →
    ∀ response, task.phase ≠ .answered (.ok response)

theorem closed_start {token : String} {w₂ w₃ : World} (accounted : Accounted w₃.proxy)
    (used : token ∈ w₃.issued) (ended : Ended token w₃.db)
    (cache : w₃.proxy = w₂.proxy.invalidate token) :
    Closed token w₃.proxy.requests.length w₃.proxy.dispatchers.length w₃ := by
  have arrived : ∀ (r : Nat) (task : RequestTask), w₃.proxy.requests[r]? = some task →
      r < w₃.proxy.requests.length :=
    fun r task there => (List.getElem?_eq_some_iff.mp there).1
  constructor
  · exact used
  · exact ended
  · exact Nat.le_refl _
  · exact Nat.le_refl _
  · intro d cached
    simp [cache, Proxy.invalidate, AList.lookup_erase] at cached
  · intro r task late there
    have := arrived r task there
    omega
  · intro d disp there _ msg queued late
    obtain ⟨task, known, _⟩ := accounted.messages disp (List.mem_of_getElem? there) msg queued
    have := arrived msg.request task known
    omega
  · intro d disp late there
    have := (List.getElem?_eq_some_iff.mp there).1
    omega
  · intro f member late
    obtain ⟨task, known, _⟩ := accounted.sent f member
    have := arrived f.request task known
    omega
  · intro r task late there
    have := arrived r task there
    omega

section
variable {token : String} {requests dispatchers : Nat} {as : List Action} {w : World}
  {act : ProxyAction} {outcome : ProxyOutcome}

theorem closed_cache (closed : Closed token requests dispatchers w)
    (h : w.proxy.step w.db act = some outcome) :
    ∀ d, outcome.proxy.connections.lookup token = some d → dispatchers ≤ d := by
  intro d cached
  rcases step_connections h with same | ⟨r, req, created, _, _, _, inserted⟩ | ⟨erased, removed⟩
  · rw [same] at cached
    exact closed.cache d cached
  · rw [inserted] at cached
    by_cases same : token = created
    · subst created
      rw [AList.lookup_insert] at cached
      cases cached
      exact closed.moreDispatchers
    · rw [AList.lookup_insert_ne same] at cached
      exact closed.cache d cached
  · rw [removed] at cached
    exact closed.cache d (lookup_erase cached)

theorem closed_senders (closed : Closed token requests dispatchers w)
    (h : w.proxy.step w.db act = some outcome) :
    ∀ (r : Nat) task, requests ≤ r → outcome.proxy.requests[r]? = some task →
      task.phase.token = some token → ∀ d, task.phase.sender = some d → dispatchers ≤ d := by
  intro r task' late there carries d sender
  rcases step_request h there with old | ⟨_, _, arrived⟩ | ⟨task, old, _, move⟩
  · exact closed.senders r task' late old carries d sender
  · rcases arrived with ⟨_, _, phase⟩ | ⟨_, _, phase⟩
    · simp [phase, RequestPhase.sender] at sender
    · simp [phase, RequestPhase.sender] at sender
  · rcases request_sender move carries sender with cached | ⟨_, _, _, rfl⟩ | held
    · exact closed.cache d (open_sender_cached cached)
    · exact closed.moreDispatchers
    · exact closed.senders r task late old (request_token move carries) d held

theorem closed_messages (routed : Routed (.start .new) as w.proxy)
    (closed : Closed token requests dispatchers w) (h : w.proxy.step w.db act = some outcome) :
    ∀ (d : Nat) disp, outcome.proxy.dispatchers[d]? = some disp → disp.token = token →
      ∀ msg ∈ disp.messages, requests ≤ msg.request → dispatchers ≤ d := by
  intro d disp' there owner msg queued late
  rcases dispatcher_origin h there with old | ⟨_, _, _, _, _, _, _, rfl⟩ | ⟨disp, old, move⟩
  · exact closed.messages d disp' old owner msg queued late
  · simp [Dispatcher.messages, DispatcherPhase.message] at queued
  · rw [move_token move] at owner
    rcases message_move move queued with held | ⟨r, req, carried, rfl, holding, rfl⟩
    · exact closed.messages d disp old owner msg held late
    · have mine : w.proxy.tokenOf d = some token := by simp [Proxy.tokenOf, old, owner]
      have theirs := routed.senders _ (List.mem_of_getElem? holding) carried d rfl rfl
      obtain rfl := Option.some.inj (theirs.symm.trans mine)
      exact closed.senders r _ late holding rfl d rfl

/-- A new dispatcher never gets an address, since no row of its token runs. -/
theorem closed_idle (closed : Closed token requests dispatchers w)
    (h : w.proxy.step w.db act = some outcome) :
    ∀ (d : Nat) disp, dispatchers ≤ d → outcome.proxy.dispatchers[d]? = some disp →
      disp.token = token → disp.Idle := by
  intro d disp' late there owner
  rcases dispatcher_origin h there with old | ⟨_, _, _, _, _, _, _, rfl⟩ | ⟨disp, old, move⟩
  · exact closed.idle d disp' late old owner
  · exact ⟨rfl, rfl, by simp⟩
  · rw [move_token move] at owner
    obtain ⟨upstream, address, sending⟩ := closed.idle d disp late old owner
    cases move with
    | enqueued r req carried holding => exact ⟨upstream, address, sending⟩
    | received msg rest phase queue carried =>
      refine ⟨upstream, ?_, ?_⟩
      · simp [upstream, DispatcherPhase.address]
      · simp [upstream]
    | resolved msg read stored phase round =>
      obtain ⟨app, member, same, running, _⟩ := resolve_round_resolved round
      exact absurd running (closed.ended app member (same.trans owner)).1
    | connected msg read attempt phase => simp [phase, DispatcherPhase.address] at address
    | exhausted msg read attempt error phase mismatch =>
      simp [phase, DispatcherPhase.address] at address
    | sent msg read outcome' kept phase connection same => exact absurd phase (sending msg)
    | finished phase queue => exact ⟨rfl, rfl, by simp⟩
    | _ => exact ⟨upstream, rfl, by simp⟩

theorem closed_sent (routed : Routed (.start .new) as w.proxy)
    (closed : Closed token requests dispatchers w) (h : w.proxy.step w.db act = some outcome) :
    ∀ f ∈ outcome.proxy.sent, requests ≤ f.request →
      extractBearerToken f.req.headers ≠ .ok token := by
  intro f member late
  rcases step_sent h with ⟨same, _⟩ | ⟨d, disp, msg, address, _, at_d, phase, _, sent, _⟩
  · rw [same] at member
    exact closed.sent f member late
  · rw [sent] at member
    rcases List.mem_append.mp member with old | new
    · exact closed.sent f old late
    · obtain rfl := List.mem_singleton.mp new
      intro carries
      have handled : msg ∈ disp.messages := by
        simp [Dispatcher.messages, DispatcherPhase.message, phase]
      have mine := routed.messages disp (List.mem_of_getElem? at_d) msg handled
      have owner : disp.token = token := Except.ok.inj (mine.symm.trans carries)
      have recent := closed.messages d disp at_d owner msg handled late
      exact (closed.idle d disp recent at_d owner).2.2 msg phase

theorem closed_answers (accounted : Accounted w.proxy)
    (closed : Closed token requests dispatchers w) (h : w.proxy.step w.db act = some outcome) :
    ∀ (r : Nat) task, requests ≤ r → outcome.proxy.requests[r]? = some task →
      extractBearerToken task.req.headers = .ok token →
      ∀ response, task.phase ≠ .answered (.ok response) := by
  intro r task' late there carries response answered
  rcases step_request h there with old | ⟨_, _, arrived⟩ | ⟨task, old, same, move⟩
  · exact closed.answers r task' late old carries response answered
  · rcases arrived with ⟨_, _, phase⟩ | ⟨_, _, phase⟩
    · simp [phase] at answered
    · simp [phase] at answered
  · rw [answered] at move
    obtain ⟨f, member, belongs⟩ := accounted.responses r (response_awaited move)
    obtain ⟨owner, known, req⟩ := accounted.sent f member
    rw [belongs] at known
    obtain rfl := Option.some.inj (old.symm.trans known)
    rw [same, req] at carries
    exact closed.sent f member (by omega) carries

theorem closed_proxy (sound : Sound as w) (closed : Closed token requests dispatchers w)
    (ended : Ended token (w.db.execOption outcome.statement))
    (h : w.proxy.step w.db act = some outcome) :
    Closed token requests dispatchers
      { w with db := w.db.execOption outcome.statement, proxy := outcome.proxy } := by
  have routed := routed_run sound.run
  constructor
  · exact closed.used
  · exact ended
  · exact Nat.le_trans closed.moreRequests (requests_length h)
  · exact Nat.le_trans closed.moreDispatchers (dispatchers_length h)
  · exact closed_cache closed h
  · exact closed_senders closed h
  · exact closed_messages routed closed h
  · exact closed_idle closed h
  · exact closed_sent routed closed h
  · exact closed_answers sound.accounted closed h

theorem closed_step {w' : World} {a : Action} (sound : Sound as w)
    (closed : Closed token requests dispatchers w) (alive : a ≠ .restart)
    (fresh : DrawsFresh w a) (silent : ∀ c ∈ a.callback, c.1 ≠ token)
    (h : w.step a = some w') : Closed token requests dispatchers w' := by
  have ended := ended_step closed.ended closed.used fresh silent h
  have used := issued_kept h token closed.used
  cases a with
  | proxy act =>
    obtain ⟨outcome, run, rfl⟩ := Option.map_eq_some_iff.mp h
    exact closed_proxy sound closed ended run
  | routes act =>
    obtain ⟨outcome, run, rfl⟩ := Option.map_eq_some_iff.mp h
    cases removed : outcome.invalidate with
    | none => exact { closed with used, ended }
    | some other =>
      exact { closed with
        used, ended, cache := fun d cached => closed.cache d (lookup_erase cached) }
  | check act =>
    obtain ⟨outcome, run, rfl⟩ := Option.map_eq_some_iff.mp h
    exact { closed with used, ended }
  | restart => exact absurd rfl alive

end

/-- No restart, a fresh draw, and no registration with the token. -/
def Continues (token : String) (w : World) (a : Action) : Prop :=
  a ≠ .restart ∧ DrawsFresh w a ∧ ∀ c ∈ a.callback, c.1 ≠ token

theorem ended_run {token : String} {w w' : World} {as : List Action} (ended : Ended token w.db)
    (used : token ∈ w.issued) (fresh : Along World.step DrawsFresh w as)
    (silent : ∀ a ∈ as, ∀ c ∈ a.callback, c.1 ≠ token) (run : exec World.step w as = some w') :
    Ended token w'.db ∧ token ∈ w'.issued := by
  have pres : Preserves World.step
      (fun w a => DrawsFresh w a ∧ ∀ c ∈ a.callback, c.1 ≠ token)
      (fun w => Ended token w.db ∧ token ∈ w.issued) := by
    intro s a s' before ok h
    exact ⟨ended_step before.1 before.2 ok.1 ok.2 h, issued_kept h token before.2⟩
  exact invariant_run pres ⟨ended, used⟩ (along_and fresh (along_of_mem silent)) run

theorem closed_kept (token : String) (requests dispatchers : Nat) :
    Preserves World.step (Continues token)
      fun w => (∃ as, Sound as w) ∧ Closed token requests dispatchers w := by
  rintro w a w' ⟨⟨as, sound⟩, closed⟩ ⟨alive, fresh, silent⟩ h
  exact ⟨⟨_, sound_step sound fresh h⟩, closed_step sound closed alive fresh silent h⟩

theorem ended_round {token : String} {db : Db} (ended : Ended token db) (closed stored : Bool) :
    ∃ error, resolveRound db token closed stored = .error error := by
  cases round : resolveRound db token closed stored with
  | resolved address =>
    obtain ⟨app, member, same, running, _⟩ := resolve_round_resolved round
    exact absurd running (ended app member same).1
  | wait =>
    obtain ⟨app, member, same, launching⟩ := resolve_round_wait round
    exact absurd launching (ended app member same).2
  | error error => exact ⟨error, rfl⟩

/-- A call ends the session of a token: it updates the store after `pre` and has invalidated
the connection after `mid`. From then on the server is closed to the token. -/
theorem session_closed {token : String} {pre mid post : List Action} {update invalidate : Action}
    {w₀ w₁ w₂ w₃ w : World} (before : exec World.step (.start .new) pre = some w₀)
    (updated : w₀.step update = some w₁) (between : exec World.step w₁ mid = some w₂)
    (returned : w₂.step invalidate = some w₃) (after : exec World.step w₃ post = some w)
    (ends : SessionEnd token w₀ w₂ update invalidate)
    (fresh : Along World.step DrawsFresh (.start .new)
      (pre ++ update :: (mid ++ invalidate :: post)))
    (alive : .restart ∉ post) (silent : ∀ a ∈ mid ++ post, ∀ c ∈ a.callback, c.1 ≠ token) :
    (∃ as, Sound as w) ∧ Closed token w₃.proxy.requests.length w₃.proxy.dispatchers.length w := by
  obtain ⟨fresh₀, rest₀⟩ := along_append.mp fresh
  obtain ⟨freshUpdate, rest₁⟩ := rest₀ w₀ before
  obtain ⟨fresh₁, rest₂⟩ := along_append.mp (rest₁ w₁ updated)
  obtain ⟨freshInvalidate, rest₃⟩ := rest₂ w₂ between
  have fresh₃ := rest₃ w₃ returned
  have quiet : ∀ a ∈ mid, ∀ c ∈ a.callback, c.1 ≠ token :=
    fun a member => silent a (List.mem_append_left _ member)
  have quiet' : ∀ a ∈ post, a ≠ .restart ∧ ∀ c ∈ a.callback, c.1 ≠ token :=
    fun a member => ⟨fun same => alive (same ▸ member), silent a (List.mem_append_right _ member)⟩
  -- the store says that the session has ended, from the update on
  have sound₀ := sound_run fresh₀ before
  have issued := issued_kept updated token (end_issued sound₀.named ends)
  have ended := ended_run (end_update sound₀.named ends updated) issued fresh₁ quiet between
  obtain ⟨cache, same⟩ := end_invalidate ends returned
  have ended₃ : Ended token w₃.db := by
    rw [same]
    exact ended.1
  -- the proxy is closed to the token, from the invalidation on
  have whole : exec World.step (.start .new) (pre ++ update :: (mid ++ [invalidate])) =
      some w₃ := by
    refine exec_append.mpr ⟨w₀, before, exec_cons.mpr ⟨w₁, updated, ?_⟩⟩
    exact exec_snoc.mpr ⟨w₂, between, returned⟩
  have freshWhole : Along World.step DrawsFresh (.start .new)
      (pre ++ update :: (mid ++ [invalidate])) := by
    have split : pre ++ update :: (mid ++ invalidate :: post) =
        (pre ++ update :: (mid ++ [invalidate])) ++ post := by simp
    rw [split] at fresh
    exact (along_append.mp fresh).1
  have sound₃ := sound_run freshWhole whole
  have start := closed_start sound₃.accounted (issued_kept returned token ended.2) ended₃ cache
  have meets := along_and fresh₃ (along_of_mem quiet')
  exact invariant_run (closed_kept _ _ _) ⟨⟨_, sound₃⟩, start⟩
    (along_imp (fun _ _ ok => ⟨ok.2.1, ok.1, ok.2.2⟩) meets) after

end SparkPlug
