import SparkPlug.DriverSession

/-!
The agreement of driver and store on the end of a session. It rests on two things
that the code does not enforce: only the servers' own stop message sets
externalShutdown, and no registration is processed after the deregistration.
-/
namespace SparkPlug
open KeyedTable Runs

/-- The actions that keep the agreement. -/
def KeepsAgreement (grpc : Grpc) (s : Session × Bool) : SessionAction → Prop
  /- A registration that is processed after the deregistration finds no row. -/
  | .processCallback true =>
    s.1.driver.delete.isProcessed = true → ∀ r ∈ s.1.world.db.rows, r.token ≠ s.1.driver.token
  /- A deregistration that the store refuses finds the row not RUNNING. -/
  | .processCallbackDelete false => NotRunning s.1.driver.token s.1.world.db
  /- The stop message in a user's request comes after a delete has marked the row. -/
  | .receive k _ =>
    match s.1.inbox[k]? with
    | some (.user headers) => grpc.authenticated s.1.driver.token headers = true →
        grpc.metadataGet headers X_SPARK_PLUG = some "stop" → s.2 = true
    | _ => True
  | _ => True

instance (grpc : Grpc) (s : Session × Bool) (a : SessionAction) :
    Decidable (KeepsAgreement grpc s a) := by
  unfold KeepsAgreement
  split
  · infer_instance
  · infer_instance
  · split <;> infer_instance
  · infer_instance

/-- No token is drawn twice. -/
def SessionDrawsFresh (s : Session × Bool) : SessionAction → Prop
  | .server a => DrawsFresh s.1.world a
  | _ => True

instance (s : Session × Bool) (a : SessionAction) : Decidable (SessionDrawsFresh s a) := by
  unfold SessionDrawsFresh
  split <;> infer_instance

/-- What ties driver, calls and store together; `marked` is the history. -/
structure Agreed (s : Session) (marked : Bool) : Prop where
  named : Named s.world
  registered : ∀ r ∈ s.world.db.rows, r.token = s.driver.token →
    r.state = .running ∨ r.address ≠ none → s.driver.post.isProcessed = true
  reads : ∀ i username address,
    .read i username (some address) s.driver.token ∈ s.world.routes.deletes →
      s.driver.post.isProcessed = true
  stops : .session s.driver.token .stop ∈ s.inbox → marked = true
  ended : marked = true →
    s.driver.post.isProcessed = true ∧ NotRunning s.driver.token s.world.db
  deregistered : s.driver.delete.isProcessed = true → NotRunning s.driver.token s.world.db
  shutdown : s.driver.externalShutdown = true → marked = true
  waiting : s.driver.listener = .waiting → s.driver.post = .unsent
  deregistering : s.driver.listener = .deregistering → s.driver.delete ≠ .unsent
  done : s.driver.listener = .done → s.driver.delete ≠ .unsent ∨ s.driver.externalShutdown = true

/- The store under actions that do not process a callback of the token. -/

theorem row_live {st : Statement} {r r' : Model} (h : st.row r = some r')
    (silent : ∀ address applicationId, st ≠ .appCallback r.token address applicationId) :
    (r'.state = .running → r.state = .running) ∧ (r'.address ≠ none → r.address ≠ none) := by
  cases st <;> grind [Statement.row, Statement.filter, Statement.set]

/-- A row that runs or has an address did so before. -/
theorem live_origin {w w' : World} {a : Action} {token : String}
    (silent : ∀ c ∈ a.callback, c.1 ≠ token) (h : w.step a = some w') {r' : Model}
    (member : r' ∈ w'.db.rows) (same : r'.token = token)
    (live : r'.state = .running ∨ r'.address ≠ none) :
    ∃ r ∈ w.db.rows, r.token = token ∧ (r'.state = .running → r.state = .running) ∧
      (r'.address ≠ none → r.address ≠ none) := by
  rcases step_rows h member with ⟨_, old⟩ | ⟨st, issued, ⟨r, stored, kept⟩ | new⟩
  · exact ⟨r', old, same, id, id⟩
  · have owner := (Statement.row_owner kept).2.symm.trans same
    refine ⟨r, stored, owner, row_live kept ?_⟩
    intro address applicationId registers
    rw [registers, owner] at issued
    exact silent _ (statement_callback issued) rfl
  · obtain ⟨_, _, _, _, rfl, rfl⟩ := new
    simp [Statement.newRow] at live

theorem not_running_step {w w' : World} {a : Action} {token : String}
    (silent : ∀ c ∈ a.callback, c.1 ≠ token) (h : w.step a = some w')
    (before : NotRunning token w.db) : NotRunning token w'.db := by
  intro r' member same running
  obtain ⟨r, stored, owner, was, _⟩ := live_origin silent h member same (Or.inl running)
  exact before r stored owner (was running)

theorem caller_silent {a : Action} {token : String} (other : a.caller ≠ some token) :
    ∀ c ∈ a.callback, c.1 ≠ token := by
  intro c registers same
  apply other
  cases a with
  | routes a =>
    cases a with
    | appCallback token' address applicationId stored =>
      cases stored with
      | true =>
        cases registers
        simpa [Action.caller] using same
      | false => simp [Action.callback] at registers
    | _ => simp [Action.callback] at registers
  | _ => simp [Action.callback] at registers

/-- A stop message goes out with the update of a delete that has read an address. -/
theorem stop_marks {w : World} {a : Action} {token address : String}
    (sent : (address, Call.session token .stop) ∈ w.calls a) : w.marks token a = true := by
  unfold World.calls at sent
  split at sent
  · split at sent
    · rename_i n _ _ _ _ _ there
      simp only [List.mem_singleton, Prod.mk.injEq, Call.session.injEq, and_true] at sent
      simp [World.marks, there, sent]
    · simp at sent
  · split at sent
    · simp only [List.mem_flatMap, List.mem_replicate] at sent
      obtain ⟨_, _, _, call⟩ := sent
      simp at call
    · simp at sent
  · split at sent <;> simp at sent
  · simp at sent

/-- The delete that an update belongs to. -/
theorem marks_read {w : World} {a : Action} {token : String} (marks : w.marks token a = true) :
    ∃ n i username address, a = .routes (.deleteUpdate n true) ∧
      w.routes.deletes[n]? = some (.read i username (some address) token) := by
  unfold World.marks at marks
  split at marks
  · split at marks
    · rename_i n _ i username address other there
      obtain rfl := of_decide_eq_true marks
      exact ⟨n, i, username, address, rfl, there⟩
    · simp at marks
  · simp at marks

/-- Such an update leaves the row FINISHED. -/
theorem marks_finish {w w' : World} {a : Action} {token : String} (named : Named w)
    (marks : w.marks token a = true) (h : w.step a = some w') :
    ∀ r' ∈ w'.db.rows, r'.token = token → r'.state = .finished := by
  obtain ⟨n, i, username, address, rfl, there⟩ := marks_read marks
  exact delete_finishes named there h

theorem agreed_server {s : Session} {marked : Bool} {a : Action} {w' : World}
    (before : Agreed s marked) (other : a.caller ≠ some s.driver.token)
    (fresh : DrawsFresh s.world a) (h : s.world.step a = some w') :
    Agreed { s with world := w', inbox := s.inbox ++ s.arriving a }
      (marked || s.world.marks s.driver.token a) := by
  have silent := caller_silent other
  constructor
  · exact named_step before.named fresh h
  · intro r' member same live
    obtain ⟨r, stored, owner, state, address⟩ := live_origin silent h member same live
    exact before.registered r stored owner (live.imp state address)
  · intro i username address there
    rcases read_step h there with pending | ⟨r, stored, _, _, held, owner⟩
    · exact before.reads i username address pending
    · exact before.registered r stored owner (Or.inr (by simp [held]))
  · intro queued
    rw [Bool.or_eq_true]
    rcases List.mem_append.mp queued with old | new
    · exact Or.inl (before.stops old)
    · obtain ⟨⟨address, call⟩, sent, rfl⟩ := List.mem_map.mp new
      exact Or.inr (stop_marks (List.mem_filter.mp sent).1)
  · intro either
    rcases Bool.or_eq_true_iff.mp either with old | now
    · have was := before.ended old
      exact ⟨was.1, not_running_step silent h was.2⟩
    · obtain ⟨n, i, username, address, _, there⟩ := marks_read now
      refine ⟨before.reads i username address (List.mem_of_getElem? there), ?_⟩
      intro r member same
      simp [marks_finish before.named now h r member same]
  · intro processed
    exact not_running_step silent h (before.deregistered processed)
  · intro shutdown
    simp [before.shutdown shutdown]
  · exact before.waiting
  · exact before.deregistering
  · exact before.done

/-- Processing a callback of the driver starts and ends no delete. -/
theorem callback_deletes {w w' : World} {a : Action} {token : String} (h : w.step a = some w')
    (calls : a.caller = some token) : w'.routes.deletes = w.routes.deletes := by
  cases a with
  | routes a =>
    obtain ⟨outcome, run, rfl⟩ := Option.map_eq_some_iff.mp h
    cases routes_step run with
    | registered token' address applicationId stored => rfl
    | deregistered token' sender phase => rfl
    | deregisterRefused token' sender => rfl
    | _ => simp [Action.caller] at calls
  | _ => simp [Action.caller] at calls

theorem agreed_callback {grpc : Grpc} {s : Session} {marked stored : Bool} {w' : World}
    {answer : Except StatusCode Unit} (before : Agreed s marked)
    (keeps : KeepsAgreement grpc (s, marked) (.processCallback stored))
    (sent : s.driver.post = .inFlight) (h : s.world.step (s.callback stored) = some w') :
    Agreed { s with world := w', driver := { s.driver with post := .processed answer } }
      marked := by
  have fresh : DrawsFresh s.world (s.callback stored) := by
    intro token drawn
    simp [Session.callback, Action.newToken] at drawn
  have unmarked : marked ≠ true := by
    intro was
    have processed := (before.ended was).1
    simp [sent, CallbackPhase.isProcessed] at processed
  constructor
  · exact named_step before.named fresh h
  · intro _ _ _ _
    rfl
  · intro _ _ _ _
    rfl
  · exact before.stops
  · intro was
    exact absurd was unmarked
  · intro processed
    cases stored with
    | true =>
      -- the registration meets no row, and it inserts none
      intro r' member same
      rcases step_row_origin h member with ⟨r, there, _, _, owner⟩ | ⟨drawn, _, _⟩
      · exact absurd (owner.trans same) (keeps processed r there)
      · simp [Session.callback, Action.newToken] at drawn
    | false =>
      have silent : ∀ c ∈ (s.callback false).callback, c.1 ≠ s.driver.token := by
        intro c registers
        simp [Session.callback, Action.callback] at registers
      exact not_running_step silent h (before.deregistered processed)
  · exact before.shutdown
  · intro first
    have unsent := before.waiting first
    simp [sent] at unsent
  · exact before.deregistering
  · exact before.done

theorem agreed_callback_delete {grpc : Grpc} {s : Session} {marked stored : Bool} {w' : World}
    {answer : Except StatusCode Unit} (before : Agreed s marked)
    (keeps : KeepsAgreement grpc (s, marked) (.processCallbackDelete stored))
    (h : s.world.step (s.callbackDelete stored) = some w') :
    Agreed { s with world := w', driver := { s.driver with delete := .processed answer } }
      marked := by
  have fresh : DrawsFresh s.world (s.callbackDelete stored) := by
    intro token drawn
    simp [Session.callbackDelete, Action.newToken] at drawn
  have silent : ∀ c ∈ (s.callbackDelete stored).callback, c.1 ≠ s.driver.token := by
    intro c registers
    simp [Session.callbackDelete, Action.callback] at registers
  constructor
  · exact named_step before.named fresh h
  · intro r' member same live
    obtain ⟨r, there, owner, state, address⟩ := live_origin silent h member same live
    exact before.registered r there owner (live.imp state address)
  · intro i username address there
    rw [callback_deletes h rfl] at there
    exact before.reads i username address there
  · exact before.stops
  · intro was
    have ended := before.ended was
    exact ⟨ended.1, not_running_step silent h ended.2⟩
  · intro _
    cases stored with
    | true =>
      intro r' member same
      simp [callback_delete_finishes h r' member same]
    | false => exact not_running_step silent h keeps
  · exact before.shutdown
  · exact before.waiting
  · intro _ unsent
    simp at unsent
  · intro _
    exact Or.inl (by simp)

theorem agreed_receive {grpc : Grpc} {s s' : Session} {marked : Bool} {k : Nat} {now : Int}
    (before : Agreed s marked) (keeps : KeepsAgreement grpc (s, marked) (.receive k now))
    (h : s.step grpc (.receive k now) = some s') : Agreed s' marked := by
  have fewer : ∀ call ∈ s.inbox.eraseIdx k, call ∈ s.inbox := fun _ => List.mem_of_mem_eraseIdx
  have stops : .session s.driver.token .stop ∈ s.inbox.eraseIdx k → marked = true := by
    intro queued
    exact before.stops (fewer _ queued)
  simp only [Session.step] at h
  split at h
  · rename_i call there
    split at h
    · simp at h
    · split at h
      · rename_i authenticated
        cases h
        obtain ⟨active, shutdown, service, eq, source⟩ :=
          intercepted grpc s.driver now call.metadata
        have onlyMarked : shutdown = true → marked = true := by
          intro on
          rcases source with same | ⟨_, read⟩
          · exact before.shutdown (same.symm.trans on)
          · cases call with
            | session token message =>
              have owner := grpc.rejects _ _ _ authenticated
              have text := grpc.delivers token message
              rw [Call.metadata, text] at read
              cases message with
              | health => simp [SessionMessage.text] at read
              | stop =>
                rw [owner] at there
                exact before.stops (List.mem_of_getElem? there)
            | user headers =>
              simp only [KeepsAgreement, there] at keeps
              exact keeps authenticated read
        rw [eq]
        constructor
        · exact before.named
        · exact before.registered
        · exact before.reads
        · exact stops
        · exact before.ended
        · exact before.deregistered
        · exact onlyMarked
        · exact before.waiting
        · exact before.deregistering
        · intro last
          rcases before.done last with sent | on
          · exact Or.inl sent
          · rcases source with same | ⟨now, _⟩
            · exact Or.inr (same.trans on)
            · exact Or.inr now
      · cases h
        exact { before with stops := stops }
  · simp at h

theorem agreed_driver {s : Session} {marked : Bool} {a : DriverAction} {d' : Driver}
    (before : Agreed s marked) (h : s.driver.step a = some d') :
    Agreed { s with driver := d' } marked := by
  cases driver_move h with
  | kept lastActive service polling =>
    exact ⟨before.named, before.registered, before.reads, before.stops, before.ended,
      before.deregistered, before.shutdown, before.waiting, before.deregistering, before.done⟩
  | registering lastActive first =>
    -- nothing is registered yet, so nothing has been marked or read with an address
    have unsent := before.waiting first
    have unprocessed : s.driver.post.isProcessed ≠ true := by
      simp [unsent, CallbackPhase.isProcessed]
    constructor
    · exact before.named
    · intro r member same live
      exact absurd (before.registered r member same live) unprocessed
    · intro i username address there
      exact absurd (before.reads i username address there) unprocessed
    · exact before.stops
    · intro was
      exact absurd (before.ended was).1 unprocessed
    · exact before.deregistered
    · exact before.shutdown
    · intro waiting
      simp at waiting
    · intro deregistering
      simp at deregistering
    · intro done
      simp at done
  | registered service post first sent =>
    have processed : s.driver.post.isProcessed = true → post.isProcessed = true := by
      intro was
      rcases sent with same | ⟨inFlight, _⟩
      · rw [same]
        exact was
      · simp [inFlight, CallbackPhase.isProcessed] at was
    constructor
    · exact before.named
    · intro r member same live
      exact processed (before.registered r member same live)
    · intro i username address there
      exact processed (before.reads i username address there)
    · exact before.stops
    · intro was
      exact ⟨processed (before.ended was).1, (before.ended was).2⟩
    · exact before.deregistered
    · exact before.shutdown
    · intro waiting
      simp at waiting
    · intro deregistering
      simp at deregistering
    · intro done
      simp at done
  | suppressed lastActive first shutdown =>
    exact ⟨before.named, before.registered, before.reads, before.stops, before.ended,
      before.deregistered, before.shutdown, by simp, by simp, fun _ => Or.inr shutdown⟩
  | deregistering lastActive first =>
    exact ⟨before.named, before.registered, before.reads, before.stops, before.ended,
      by simp [CallbackPhase.isProcessed], before.shutdown, by simp, by simp, by simp⟩
  | deregistered first =>
    exact ⟨before.named, before.registered, before.reads, before.stops, before.ended,
      before.deregistered, before.shutdown, by simp, by simp,
      fun _ => Or.inl (before.deregistering first)⟩

theorem agreed_step {grpc : Grpc} {s s' : Session × Bool} {a : SessionAction}
    (before : Agreed s.1 s.2) (fresh : SessionDrawsFresh s a) (keeps : KeepsAgreement grpc s a)
    (h : markedStep grpc s a = some s') : Agreed s'.1 s'.2 := by
  obtain ⟨s, marked⟩ := s
  obtain ⟨s', marked'⟩ := s'
  obtain ⟨step, rfl⟩ := with_history_step.mp h
  cases a with
  | server a =>
    simp only [Session.step] at step
    split at step
    · simp at step
    · rename_i other
      obtain ⟨w', next, rfl⟩ := Option.map_eq_some_iff.mp step
      exact agreed_server before other fresh next
  | processCallback stored =>
    obtain ⟨sent, handled⟩ := Option.ite_none_right_eq_some.mp step
    obtain ⟨w', next, rfl⟩ := Option.map_eq_some_iff.mp handled
    exact agreed_callback before keeps sent next
  | processCallbackDelete stored =>
    obtain ⟨_, handled⟩ := Option.ite_none_right_eq_some.mp step
    obtain ⟨w', next, rfl⟩ := Option.map_eq_some_iff.mp handled
    exact agreed_callback_delete before keeps next
  | receive k now => exact agreed_receive before keeps step
  | driver a =>
    obtain ⟨d', next, rfl⟩ := Option.map_eq_some_iff.mp step
    exact agreed_driver before next

theorem settled_not_running {s : Session} {marked : Bool} (agreed : Agreed s marked)
    (settled : s.driver.Settled) : NotRunning s.driver.token s.world.db := by
  obtain ⟨done, _, handled⟩ := settled
  rcases agreed.done done with sent | shutdown
  · apply agreed.deregistered
    cases phase : s.driver.delete with
    | unsent => exact absurd phase sent
    | inFlight => exact absurd phase handled
    | processed answer => rfl
  · exact (agreed.ended (agreed.shutdown shutdown)).2

/-- A driver before its Connect service is started. -/
structure Driver.Fresh (d : Driver) : Prop where
  service : d.service = .down
  listener : d.listener = .waiting
  shutdown : d.externalShutdown = false
  post : d.post = .unsent
  delete : d.delete = .unsent

theorem agreed_start {d : Driver} (fresh : d.Fresh) : Agreed (.start d) false := by
  constructor
  · constructor <;> simp [Session.start, World.start, Db.new, Table.empty, TokensDistinct]
  · simp [Session.start, World.start, Db.new, Table.empty]
  · simp [Session.start, World.start]
  · simp [Session.start]
  · simp
  · simp [Session.start, fresh.delete, CallbackPhase.isProcessed]
  · simp [Session.start, fresh.shutdown]
  · simp [Session.start, fresh.post]
  · simp [Session.start, fresh.listener]
  · simp [Session.start, fresh.listener]

/-- In every run whose actions keep the agreement, a session that has ended for the
driver is not RUNNING in the store, and externalShutdown is set only after a delete
that had read the driver's address has marked the row. -/
theorem ended_sessions_agree {grpc : Grpc} {d : Driver} {as : List SessionAction} {s : Session}
    {marked : Bool} (launched : d.Fresh)
    (fresh : Along (markedStep grpc) SessionDrawsFresh (.start d, false) as)
    (keeps : Along (markedStep grpc) (KeepsAgreement grpc) (.start d, false) as)
    (run : exec (markedStep grpc) (.start d, false) as = some (s, marked)) :
    (s.driver.Settled → NotRunning s.driver.token s.world.db) ∧
    (s.driver.externalShutdown = true →
      marked = true ∧ NotRunning s.driver.token s.world.db) := by
  have pres : Preserves (markedStep grpc)
      (fun s a => SessionDrawsFresh s a ∧ KeepsAgreement grpc s a)
      (fun s => Agreed s.1 s.2) := by
    intro s a s' before ok step
    exact agreed_step before ok.1 ok.2 step
  have agreed := invariant_run pres (agreed_start launched) (along_and fresh keeps) run
  constructor
  · intro settled
    exact settled_not_running agreed settled
  · intro shutdown
    have marked := agreed.shutdown shutdown
    exact ⟨marked, (agreed.ended marked).2⟩

def driverA : Driver :=
  { token := "token-a", address := "10.0.0.1:15002", applicationId := "app-1", timeout := some 3600
    lastActive := 0 }

theorem driver_fresh : driverA.Fresh := ⟨rfl, rfl, rfl, rfl, rfl⟩

/-- The driver registers, and a request of its user is forwarded to it. -/
def forwardedTo (req : Request) : List SessionAction :=
  [.server (.routes (.createInsert "alice" none "token-a" 0 true)),
   .server (.routes (.createLaunched 0 true)),
   .driver .start, .driver (.connectServiceStarted 1000), .processCallback true,
   .driver .callbackAnswered,
   .server (.proxy (.arrive req)), .server (.proxy (.lookup 0)),
   .server (.proxy (.storeLookup 0 true)), .server (.proxy (.lookupOrInsert 0)),
   .server (.proxy (.enqueue 0)), .server (.proxy (.receive 0)),
   .server (.proxy (.resolve 0 true)), .server (.proxy (.connect 0 fun _ => .connected)),
   .server (.proxy (.send 0 .ready)), .receive 0 2000]

/-- The user deletes the application and the stop message reaches the driver. -/
def deletedSession : List SessionAction :=
  forwardedTo (bearer "token-a") ++
    [.server (.routes (.deleteRead 1 "alice" true)), .server (.routes (.deleteUpdate 0 true)),
     .receive 0 3000, .driver (.connectServiceEnd 4000)]

theorem deleted_session_agrees : ∃ s marked,
    exec (markedStep sparkGrpc) (.start driverA, false) deletedSession = some (s, marked) ∧
    s.driver.Settled ∧ s.driver.externalShutdown = true ∧ marked = true ∧
    NotRunning s.driver.token s.world.db := by
  have computed : (exec (markedStep sparkGrpc) (.start driverA, false) deletedSession).any (fun s =>
      decide s.1.driver.Settled && s.1.driver.externalShutdown) = true := by decide
  obtain ⟨⟨s, marked⟩, run, facts⟩ := computed_run computed
  simp only [Bool.and_eq_true, decide_eq_true_eq] at facts
  have agrees := ended_sessions_agree driver_fresh (by decide) (by decide) run
  exact ⟨s, marked, run, facts.1, facts.2, agrees.2 facts.2⟩

def stopRequest : Request :=
  { bearer "token-a" with
    headers := (bearer "token-a").headers ++ [(X_SPARK_PLUG, headerValue "stop")] }

/-- The header of a user's request ends the service and suppresses the DELETE. -/
theorem forged_stop_leaves_running : ∃ s,
    exec (markedStep sparkGrpc) (.start driverA, false)
      (forwardedTo stopRequest ++ [.driver (.connectServiceEnd 4000)]) = some (s, false) ∧
    s.driver.Settled ∧ s.driver.externalShutdown = true ∧
    ∃ r ∈ s.world.db.rows, r.token = s.driver.token ∧ r.state = .running := by
  have computed : (exec (markedStep sparkGrpc) (.start driverA, false)
      (forwardedTo stopRequest ++ [.driver (.connectServiceEnd 4000)])).any (fun s =>
        decide s.1.driver.Settled && s.1.driver.externalShutdown && !s.2 &&
        decide (∃ r ∈ s.1.world.db.rows, r.token = s.1.driver.token ∧ r.state = .running)) =
      true := by decide
  obtain ⟨⟨s, marked⟩, run, facts⟩ := computed_run computed
  simp only [Bool.and_eq_true, decide_eq_true_eq, Bool.not_eq_true'] at facts
  obtain ⟨⟨⟨settled, shutdown⟩, rfl⟩, row⟩ := facts
  exact ⟨s, run, settled, shutdown, row⟩

/-- The registration times out and is processed after the deregistration. -/
theorem late_registration_leaves_running : ∃ s marked,
    exec (markedStep sparkGrpc) (.start driverA, false)
      [.server (.routes (.createInsert "alice" none "token-a" 0 true)), .driver .start,
       .driver (.connectServiceStarted 1000), .driver .callbackTimedOut,
       .driver (.connectServiceEnd 12000), .processCallbackDelete true,
       .driver .callbackDeleteDone, .processCallback true] = some (s, marked) ∧
    s.driver.Settled ∧ s.driver.externalShutdown = false ∧
    ¬ NotRunning s.driver.token s.world.db := by
  have computed : (exec (markedStep sparkGrpc) (.start driverA, false)
      [.server (.routes (.createInsert "alice" none "token-a" 0 true)), .driver .start,
       .driver (.connectServiceStarted 1000), .driver .callbackTimedOut,
       .driver (.connectServiceEnd 12000), .processCallbackDelete true,
       .driver .callbackDeleteDone, .processCallback true]).any (fun s =>
        decide s.1.driver.Settled && !s.1.driver.externalShutdown &&
        !decide (NotRunning s.1.driver.token s.1.world.db)) = true := by decide
  obtain ⟨⟨s, marked⟩, run, facts⟩ := computed_run computed
  simp only [Bool.and_eq_true, decide_eq_true_eq, Bool.not_eq_true', decide_eq_false_iff_not]
    at facts
  exact ⟨s, marked, run, facts.1.1, facts.1.2, facts.2⟩

end SparkPlug
