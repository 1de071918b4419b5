import Mathlib.Data.Prod.Lex
import SparkPlug.Library.Traces
import SparkPlug.SessionEnd
import SparkPlug.UpstreamLoop

/-!
The answers to requests that arrive after a session was ended. Each step of such a request,
and once it is queued each step of its dispatcher, brings its error closer.
-/
namespace SparkPlug
open KeyedTable Queues Runs

/- A queued request waits at its dispatcher, or its response is awaited. -/

def Waiting (p : Proxy) : Prop :=
  ∀ (r : Nat) task token d, p.requests[r]? = some task → task.phase = .queued token d →
    r ∈ p.responses ∨ ∃ msg ∈ p.queues.getD d [], msg.request = r

section
variable {db : Db} {p p' : Proxy} {outcome : ProxyOutcome}

/-- Only `enqueue` queues a request. -/
theorem queued_before {a : ProxyAction} (h : p.step db a = some outcome)
    (other : ∀ k, a ≠ .enqueue k) {r : Nat} {task : RequestTask} {token : String} {d : Nat}
    (there : outcome.proxy.requests[r]? = some task) (queued : task.phase = .queued token d) :
    p.requests[r]? = some task := by
  rcases step_request h there with old | ⟨_, _, arrived⟩ | ⟨_, _, _, move⟩
  · exact old
  · rcases arrived with ⟨_, _, phase⟩ | ⟨_, _, phase⟩
    · simp [phase] at queued
    · simp [phase] at queued
  · rw [queued] at move
    cases move with
    | enqueued => exact absurd rfl (other r)

theorem replied_not_queued {r : Nat} {result : Except ProxyError Response} {task : RequestTask}
    {token : String} {d : Nat} (there : (p.reply r result).requests[r]? = some task) :
    task.phase ≠ .queued token d := by
  intro queued
  unfold Proxy.reply at there
  simp only at there
  rcases Tasks.at_modified there with ⟨_, old, _, rfl⟩ | ⟨other, _⟩
  · cases phase : old.phase <;> simp [phase] at queued
  · exact other rfl

/-- The messages of a queue stay in it, but for the one that is taken. -/
theorem move_keeps {qs qs' : List (List UpstreamMessage)} {event : Event UpstreamMessage}
    (move : Move qs qs' event) {d : Nat} {msg : UpstreamMessage} (member : msg ∈ qs.getD d []) :
    msg ∈ qs'.getD d [] ∨ event = .taken d msg := by
  cases move with
  | kept => exact Or.inl member
  | opened =>
    rw [waiting_opened]
    exact Or.inl member
  | arrived e q m there =>
    rw [waiting_set there]
    by_cases same : e = d
    · subst same
      rw [List.getD_eq_getElem?_getD, there] at member
      simp only [↓reduceIte]
      exact Or.inl (List.mem_append_left _ member)
    · simp only [same, ↓reduceIte]
      exact Or.inl member
  | taken e q m there =>
    rw [waiting_set there]
    by_cases same : e = d
    · subst same
      rw [List.getD_eq_getElem?_getD, there] at member
      simp only [↓reduceIte]
      rcases List.mem_cons.mp member with rfl | later
      · exact Or.inr rfl
      · exact Or.inl later
    · simp only [same, ↓reduceIte]
      exact Or.inl member

theorem waiting_enqueue {k : Nat} (h : p.step db (.enqueue k) = some outcome)
    (before : Waiting p) : Waiting outcome.proxy := by
  obtain ⟨req, token, d, disp, at_k, at_d, ⟨_, after⟩ | ⟨_, after⟩⟩ := enqueue_cases h
  · intro r task token' d' there queued
    rw [after] at there ⊢
    by_cases self : r = k
    · subst self
      have removed : (p.removeClosed token).requests[r]? =
          some { req, phase := .holding token d } := by
        rw [remove_closed_requests, at_k]
      rw [set_phase_self _ removed] at there
      cases there
      cases queued
    · rw [set_phase_other _ self, remove_closed_requests] at there
      rcases before r task token' d' there queued with awaited | waits
      · refine Or.inl ?_
        have same := (remove_closed_sent p token).2
        simpa [Proxy.setPhase, same] using awaited
      · refine Or.inr ?_
        simpa [Proxy.queues, Proxy.setPhase] using waits
  · intro r task token' d' there queued
    rw [after] at there ⊢
    have queues : ((p.setDispatcher d { disp with
        queue := disp.queue ++ [{ request := k, req }] }).setPhase k (.queued token d)).queues =
        p.queues.set d (disp.messages ++ [{ request := k, req }]) := by
      simp [Proxy.queues, Proxy.setDispatcher, Proxy.setPhase, List.map_set, Dispatcher.messages]
    rw [queues]
    have move := Move.arrived d disp.messages { request := k, req } (queue_at at_d)
    by_cases self : r = k
    · subst self
      have kept : (p.setDispatcher d { disp with
          queue := disp.queue ++ [{ request := r, req }] }).requests[r]? =
          some { req, phase := .holding token d } := at_k
      rw [set_phase_self _ kept] at there
      cases there
      cases queued
      refine Or.inr ⟨{ request := r, req }, ?_, rfl⟩
      rw [waiting_set (queue_at at_d)]
      simp
    · rw [set_phase_other _ self] at there
      rcases before r task token' d' there queued with awaited | ⟨msg, member, same⟩
      · exact Or.inl awaited
      · exact Or.inr ⟨msg, (move_keeps move member).resolve_right (by simp), same⟩

theorem waiting_step {a : ProxyAction} (h : p.step db a = some outcome) (before : Waiting p) :
    Waiting outcome.proxy := by
  by_cases enqueues : ∃ k, a = .enqueue k
  · obtain ⟨k, rfl⟩ := enqueues
    exact waiting_enqueue h before
  · have other : ∀ k, a ≠ .enqueue k := fun k same => enqueues ⟨k, same⟩
    intro r task token d there queued
    have old := before r task token d (queued_before h other there queued) queued
    have passed := step_passed h
    generalize traffic p outcome.proxy a = t at passed
    generalize outcome.proxy = p' at passed there
    have move := passed_move passed
    cases passed with
    | quiet _ _ responses _ =>
      rw [responses]
      refine old.imp_right ?_
      rintro ⟨msg, member, same⟩
      exact ⟨msg, (move_keeps move member).resolve_right (by simp [Traffic.event]), same⟩
    | arrived =>
      refine old.imp_right ?_
      rintro ⟨msg, member, same⟩
      exact ⟨msg, (move_keeps move member).resolve_right (by simp [Traffic.event]), same⟩
    | rejected e disp disp' taken error at_e first =>
      refine old.imp_right ?_
      rintro ⟨msg, member, rfl⟩
      refine ⟨msg, (move_keeps move member).resolve_right ?_, rfl⟩
      intro same
      cases same
      exact replied_not_queued there queued
    | forwarded e disp taken address at_e phase connection =>
      rcases old with awaited | ⟨msg, member, rfl⟩
      · exact Or.inl (List.mem_append_left _ awaited)
      · rcases move_keeps move member with kept | same
        · exact Or.inr ⟨msg, kept, rfl⟩
        · cases same
          exact Or.inl (List.mem_append_right _ (List.mem_singleton.mpr rfl))
    | answered k response awaited =>
      by_cases self : r = k
      · subst self
        exact absurd queued (replied_not_queued there)
      · refine old.imp ?_ ?_
        · intro mine
          exact (List.mem_erase_of_ne self).mpr mine
        · rintro ⟨msg, member, same⟩
          exact ⟨msg, (move_keeps move member).resolve_right (by simp [Traffic.event]), same⟩

end

/- What the servers of a run keep. -/

theorem waiting_world {w w' : World} {a : Action} (h : w.step a = some w')
    (before : Waiting w.proxy ∧ w.proxy.Sound) : Waiting w'.proxy ∧ w'.proxy.Sound := by
  cases a with
  | proxy act =>
    obtain ⟨outcome, run, rfl⟩ := Option.map_eq_some_iff.mp h
    exact ⟨waiting_step run before.1, loop_sound_step run before.2⟩
  | routes act =>
    obtain ⟨outcome, run, rfl⟩ := Option.map_eq_some_iff.mp h
    cases outcome.invalidate with
    | none => exact before
    | some token => exact before
  | check act =>
    obtain ⟨outcome, run, rfl⟩ := Option.map_eq_some_iff.mp h
    exact before
  | restart =>
    cases h
    refine ⟨?_, ?_⟩
    · intro r task token d there
      simp at there
    · intro disp member
      cases member

theorem waiting_run {db : Db} {as : List Action} {w : World}
    (run : exec World.step (.start db) as = some w) : Waiting w.proxy ∧ w.proxy.Sound := by
  refine invariant_run (fun _ _ _ before _ h => waiting_world h before) ?_ along_true run
  refine ⟨?_, ?_⟩
  · intro r task token d there
    simp [World.start] at there
  · intro disp member
    cases member

/- How far a request is from its answer. -/

/-- The request is answered, or its client has left. -/
def Settled (p : Proxy) (r : Nat) : Prop :=
  ∃ task, p.requests[r]? = some task ∧
    (task.phase = .dropped ∨ ∃ result, task.phase = .answered result)

/-- The steps of the task of a request, and once it is queued those of its dispatcher. -/
def Advances (p : Proxy) (r : Nat) (a : ProxyAction) : Prop :=
  (a = .lookup r ∨ (∃ stored, a = .storeLookup r stored) ∨ a = .lookupOrInsert r ∨
      a = .enqueue r) ∨
    ∃ req token d, p.requests[r]? = some { req, phase := .queued token d } ∧ worker a = some d

/-- The steps that a dispatcher has to take for the messages up to this one. -/
def Dispatcher.ahead (disp : Dispatcher) (r : Nat) : Nat :=
  if disp.phase.message.any (·.request = r) then disp.phase.toDo
  else disp.phase.toDo + 6 * (disp.queue.findIdx (·.request = r) + 1)

def Proxy.rankOf (p : Proxy) (r : Nat) : RequestPhase → ℕ ×ₗ ℕ
  | .parsed _ => toLex (4, 0)
  | .missed _ => toLex (3, 0)
  | .found _ => toLex (2, 0)
  | .holding .. => toLex (1, 0)
  | .queued _ d => toLex (0, (p.dispatchers[d]?).elim 0 (·.ahead r))
  | .answered _ | .dropped => toLex (0, 0)

def Proxy.rank (p : Proxy) (r : Nat) : ℕ ×ₗ ℕ :=
  (p.requests[r]?).elim (toLex (0, 0)) fun task => p.rankOf r task.phase

theorem rank_at {p : Proxy} {r : Nat} {task : RequestTask} (there : p.requests[r]? = some task) :
    p.rank r = p.rankOf r task.phase := by
  simp [Proxy.rank, there]

section
variable {db : Db} {p : Proxy} {outcome : ProxyOutcome} {r d : Nat} {disp : Dispatcher}

theorem settled_reply {q : Proxy} {req : Request} {token : String}
    {result : Except ProxyError Response}
    (at_r : q.requests[r]? = some { req, phase := .queued token d }) :
    Settled (q.reply r result) r := by
  refine ⟨{ req, phase := .answered result }, ?_, Or.inr ⟨result, rfl⟩⟩
  simp [Proxy.reply, at_r]

/-- The dispatcher has rejected its message. -/
theorem reject_ahead {req : Request} {token : String} {disp' : Dispatcher} {msg : UpstreamMessage}
    (error : ProxyError) (at_r : p.requests[r]? = some { req, phase := .queued token d })
    (at_d : p.dispatchers[d]? = some disp)
    (lower : msg.request ≠ r → 1 + 6 * (disp'.queue.findIdx (·.request = r) + 1) < disp.ahead r) :
    Settled (p.reject d disp' msg error) r ∨
      ∃ new, (p.reject d disp' msg error).dispatchers[d]? = some new ∧
        new.ahead r < disp.ahead r := by
  by_cases mine : msg.request = r
  · subst mine
    exact Or.inl (settled_reply at_r)
  · refine Or.inr ⟨{ disp' with phase := .receiving }, ?_, ?_⟩
    · exact List.getElem?_set_self (List.getElem?_eq_some_iff.mp at_d).1
    · have behind := lower mine
      simpa [Dispatcher.ahead, DispatcherPhase.message, DispatcherPhase.toDo] using behind

/-- The dispatcher goes on with the message that it handles. -/
theorem handled_ahead {disp' : Dispatcher} (queue : disp'.queue = disp.queue)
    (message : disp'.phase.message = disp.phase.message)
    (lower : disp'.phase.toDo < disp.phase.toDo) : disp'.ahead r < disp.ahead r := by
  unfold Dispatcher.ahead
  rw [queue, message]
  split <;> omega

theorem worker_ahead {a : ProxyAction} {req : Request} {token : String}
    (h : p.step db a = some outcome) (acts : worker a = some d)
    (at_r : p.requests[r]? = some { req, phase := .queued token d })
    (at_d : p.dispatchers[d]? = some disp) (waits : ∃ msg ∈ disp.messages, msg.request = r)
    (awake : ¬ Waits db p a) (unsent : r ∉ outcome.proxy.responses) :
    Settled outcome.proxy r ∨ ∃ disp', outcome.proxy.dispatchers[d]? = some disp' ∧
      disp'.ahead r < disp.ahead r := by
  have set : ∀ disp' : Dispatcher, (p.setDispatcher d disp').dispatchers[d]? = some disp' :=
    fun disp' => List.getElem?_set_self (List.getElem?_eq_some_iff.mp at_d).1
  cases proxy_step h with
  | received e before msg rest at_e phase queue owner =>
    cases acts
    cases at_d.symm.trans at_e
    refine Or.inr ⟨_, set _, ?_⟩
    by_cases mine : msg.request = r
    · by_cases idle : disp.upstream.isNone = true
      · simp [Dispatcher.ahead, phase, queue, idle, mine, DispatcherPhase.message,
          DispatcherPhase.toDo, List.findIdx_cons]
      · simp [Dispatcher.ahead, phase, queue, idle, mine, DispatcherPhase.message,
          DispatcherPhase.toDo, List.findIdx_cons]
    · by_cases idle : disp.upstream.isNone = true
      · simp [Dispatcher.ahead, phase, queue, idle, mine, DispatcherPhase.message,
          DispatcherPhase.toDo, List.findIdx_cons]
        omega
      · simp [Dispatcher.ahead, phase, queue, idle, mine, DispatcherPhase.message,
          DispatcherPhase.toDo, List.findIdx_cons]
        omega
  | refused e before msg rest error at_e phase queue owner =>
    cases acts
    cases at_d.symm.trans at_e
    refine reject_ahead error at_r at_d fun other => ?_
    simp [Dispatcher.ahead, phase, queue, other, DispatcherPhase.message, DispatcherPhase.toDo,
      List.findIdx_cons]
  | resolved e stored before msg address at_e phase round =>
    cases acts
    cases at_d.symm.trans at_e
    refine Or.inr ⟨_, set _, handled_ahead rfl ?_ ?_⟩
    · simp [phase, DispatcherPhase.message]
    · simp [phase, DispatcherPhase.toDo]
  | waited e stored before msg at_e phase =>
    rcases handling_progress h (Or.inl rfl) with lower | ⟨waiting, _⟩
    · exact absurd lower (Nat.lt_irrefl _)
    · exact absurd waiting awake
  | unresolved e stored before msg error at_e phase round =>
    cases acts
    cases at_d.symm.trans at_e
    refine reject_ahead error at_r at_d fun other => ?_
    simp [Dispatcher.ahead, phase, other, DispatcherPhase.message, DispatcherPhase.toDo]
  | connected e attempt before msg address at_e phase =>
    cases acts
    cases at_d.symm.trans at_e
    refine Or.inr ⟨_, set _, handled_ahead rfl ?_ ?_⟩
    · simp [phase, DispatcherPhase.message]
    · simp [phase, DispatcherPhase.toDo]
  | exhausted e attempt before msg address error at_e phase mismatch =>
    cases acts
    cases at_d.symm.trans at_e
    refine Or.inr ⟨_, set _, handled_ahead rfl ?_ ?_⟩
    · simp [phase, DispatcherPhase.message]
    · simp [phase, DispatcherPhase.toDo]
  | failed e stored before msg address lastError error statement at_e phase source =>
    cases acts
    cases at_d.symm.trans at_e
    refine reject_ahead error at_r at_d fun other => ?_
    simp [Dispatcher.ahead, phase, other, DispatcherPhase.message, DispatcherPhase.toDo]
  | unsent e sending before msg address upstream error at_e phase connection same mismatch =>
    cases acts
    cases at_d.symm.trans at_e
    refine reject_ahead error at_r at_d fun other => ?_
    simp [Dispatcher.ahead, phase, other, DispatcherPhase.message, DispatcherPhase.toDo]
  | sent e before msg address at_e phase connection =>
    cases acts
    cases at_d.symm.trans at_e
    have other : msg.request ≠ r := by
      rintro rfl
      exact unsent (List.mem_append_right _ (List.mem_singleton.mpr rfl))
    refine Or.inr ⟨_, set _, ?_⟩
    simp [Dispatcher.ahead, phase, other, DispatcherPhase.message, DispatcherPhase.toDo]
  | finished e before at_e phase queue =>
    cases acts
    cases at_d.symm.trans at_e
    obtain ⟨msg, member, _⟩ := waits
    simp [Dispatcher.messages, phase, queue, DispatcherPhase.message] at member
  | _ => simp [worker] at acts

/-- The other steps only append to the queue. -/
theorem other_ahead {a : ProxyAction} (h : p.step db a = some outcome)
    (at_d : p.dispatchers[d]? = some disp) (waits : ∃ msg ∈ disp.messages, msg.request = r)
    (other : worker a ≠ some d) :
    ∃ disp', outcome.proxy.dispatchers[d]? = some disp' ∧ disp'.ahead r = disp.ahead r := by
  have bound := (List.getElem?_eq_some_iff.mp at_d).1
  have more := dispatchers_length h
  obtain ⟨disp', after⟩ : ∃ disp', outcome.proxy.dispatchers[d]? = some disp' :=
    ⟨_, List.getElem?_eq_getElem (Nat.lt_of_lt_of_le bound more)⟩
  refine ⟨disp', after, ?_⟩
  rcases dispatcher_origin h after with old | ⟨last, _⟩ | ⟨before, old, move⟩
  · cases at_d.symm.trans old
    rfl
  · omega
  · cases at_d.symm.trans old
    cases move with
    | enqueued k req token holding =>
      unfold Dispatcher.ahead
      split
      · rfl
      · rename_i behind
        obtain ⟨msg, member, same⟩ := waits
        have queued : ∃ msg ∈ disp.queue, msg.request = r := by
          refine ⟨msg, (List.mem_append.mp member).resolve_left fun handled => behind ?_, same⟩
          simp [Option.mem_toList.mp handled, same]
        simp [List.findIdx_append, queued]
    | _ => exact absurd rfl other

end

/- One step of the proxy and the rank of a request. -/

section
variable {db : Db} {p : Proxy} {outcome : ProxyOutcome} {r : Nat} {task task' : RequestTask}

theorem request_after {a : ProxyAction} (h : p.step db a = some outcome)
    (there : p.requests[r]? = some task) :
    ∃ task', outcome.proxy.requests[r]? = some task' ∧
      (task' = task ∨ RequestMove db p r task a task'.phase) := by
  obtain ⟨task', after, _⟩ := request_kept h there
  refine ⟨task', after, ?_⟩
  rcases step_request h after with old | ⟨last, _, _⟩ | ⟨before, old, _, move⟩
  · exact Or.inl (Option.some.inj (old.symm.trans there))
  · have bound := (List.getElem?_eq_some_iff.mp there).1
    omega
  · obtain rfl := Option.some.inj (there.symm.trans old)
    exact Or.inr move

/-- A step that moves the request answers it or brings it nearer to its queue. -/
theorem move_lowers {a : ProxyAction} (there : p.requests[r]? = some task)
    (after : outcome.proxy.requests[r]? = some task')
    (move : RequestMove db p r task a task'.phase) :
    Settled outcome.proxy r ∨ outcome.proxy.rank r < p.rank r := by
  rw [rank_at there, rank_at after]
  obtain ⟨req, phase⟩ := task'
  cases move with
  | hit token d before cached =>
    exact Or.inr (by simp [Proxy.rankOf, before, Prod.Lex.toLex_lt_toLex])
  | missed token before =>
    exact Or.inr (by simp [Proxy.rankOf, before, Prod.Lex.toLex_lt_toLex])
  | found token stored before =>
    exact Or.inr (by simp [Proxy.rankOf, before, Prod.Lex.toLex_lt_toLex])
  | joined token d before cached =>
    exact Or.inr (by simp [Proxy.rankOf, before, Prod.Lex.toLex_lt_toLex])
  | spawned token before absent =>
    exact Or.inr (by simp [Proxy.rankOf, before, Prod.Lex.toLex_lt_toLex])
  | enqueued token d before =>
    exact Or.inr (by simp [Proxy.rankOf, before, Prod.Lex.toLex_lt_toLex])
  | failed error source => exact Or.inl ⟨_, after, Or.inr ⟨_, rfl⟩⟩
  | responded response awaited => exact Or.inl ⟨_, after, Or.inr ⟨_, rfl⟩⟩
  | dropped => exact Or.inl ⟨_, after, Or.inl rfl⟩

/-- The steps of the task of a request do move it. -/
theorem own_moves {a : ProxyAction} (h : p.step db a = some outcome)
    (own : a = .lookup r ∨ (∃ stored, a = .storeLookup r stored) ∨ a = .lookupOrInsert r ∨
      a = .enqueue r)
    (there : p.requests[r]? = some task) (after : outcome.proxy.requests[r]? = some task) :
    False := by
  have moved : ∀ {q : Proxy} {phase : RequestPhase}, q.requests = p.requests →
      outcome.proxy = q.setPhase r phase → task.phase = phase := by
    intro q phase same set
    rw [set, set_phase_self phase (same ▸ there)] at after
    exact (congrArg RequestTask.phase (Option.some.inj after)).symm
  rcases own with rfl | ⟨stored, rfl⟩ | rfl | rfl
  · cases proxy_step h with
    | hit _ req token d at_r cached =>
      cases there.symm.trans at_r
      exact absurd (moved rfl rfl) (by simp)
    | missed _ req token at_r =>
      cases there.symm.trans at_r
      exact absurd (moved rfl rfl) (by simp)
  · obtain ⟨req, token, missed⟩ := store_lookup_enabled h
    cases there.symm.trans missed
    cases proxy_step h with
    | found _ _ req token at_r => exact absurd (moved rfl rfl) (by simp)
    | unknown _ _ error mismatch => exact absurd (moved rfl rfl) (by simp)
  · cases proxy_step h with
    | joined _ req token d at_r cached =>
      cases there.symm.trans at_r
      exact absurd (moved rfl rfl) (by simp)
    | spawned _ req token at_r absent =>
      cases there.symm.trans at_r
      exact absurd (moved (q := p.insertDispatcher token) rfl rfl) (by simp)
  · obtain ⟨req, token, d, disp, at_r, at_d, ⟨_, set⟩ | ⟨_, set⟩⟩ := enqueue_cases h
    · cases there.symm.trans at_r
      exact absurd (moved (remove_closed_requests p token) set) (by simp)
    · cases there.symm.trans at_r
      exact absurd (moved (by rfl) set) (by simp)

/-- Each step answers the request, lowers its rank or leaves it; and those that advance the
request do not leave it. -/
theorem rank_step {a : ProxyAction} (h : p.step db a = some outcome) (waiting : Waiting p)
    (there : p.requests[r]? = some task) (unsettled : ¬ Settled p r)
    (unsent : r ∉ p.responses ∧ r ∉ outcome.proxy.responses)
    (awake : ∀ token d, task.phase = .queued token d → worker a = some d → ¬ Waits db p a)
    (known : ∀ token d, task.phase = .queued token d → ∃ disp, p.dispatchers[d]? = some disp) :
    Settled outcome.proxy r ∨ outcome.proxy.rank r < p.rank r ∨
      ¬ Advances p r a ∧ outcome.proxy.rank r = p.rank r := by
  obtain ⟨task', after, same | move⟩ := request_after h there
  · subst task'
    rw [rank_at there, rank_at after]
    by_cases own : a = .lookup r ∨ (∃ stored, a = .storeLookup r stored) ∨
        a = .lookupOrInsert r ∨ a = .enqueue r
    · exact (own_moves h own there after).elim
    · obtain ⟨req, phase⟩ := task
      cases phase with
      | queued token d =>
        obtain ⟨disp, at_d⟩ := known token d rfl
        have waits : ∃ msg ∈ disp.messages, msg.request = r := by
          have queued := (waiting r _ token d there rfl).resolve_left unsent.1
          simpa [List.getD_eq_getElem?_getD, queue_at at_d] using queued
        by_cases acts : worker a = some d
        · rcases worker_ahead h acts there at_d waits (awake token d rfl acts) unsent.2 with
            settled | ⟨disp', new, lower⟩
          · exact Or.inl settled
          · refine Or.inr (Or.inl ?_)
            simpa [Proxy.rankOf, at_d, new, Prod.Lex.toLex_lt_toLex] using lower
        · obtain ⟨disp', new, same⟩ := other_ahead h at_d waits acts
          refine Or.inr (Or.inr ⟨?_, ?_⟩)
          · rintro (mine | ⟨req', token', d', queued, acts'⟩)
            · exact own mine
            · cases there.symm.trans queued
              exact acts acts'
          · simp [Proxy.rankOf, at_d, new, same]
      | answered result => exact absurd ⟨_, there, Or.inr ⟨result, rfl⟩⟩ unsettled
      | dropped => exact absurd ⟨_, there, Or.inl rfl⟩ unsettled
      | _ =>
        refine Or.inr (Or.inr ⟨?_, rfl⟩)
        rintro (mine | ⟨req', token', d', queued, _⟩)
        · exact own mine
        · cases there.symm.trans queued
  · exact (move_lowers there after move).imp_right Or.inl

end

/- A late request in a server that is closed to its token. -/

section
variable {token : String} {requests dispatchers r : Nat} {as : List Action} {w : World}
  {task : RequestTask}

theorem late_unsent (sound : Sound as w) (closed : Closed token requests dispatchers w)
    (late : requests ≤ r) (there : w.proxy.requests[r]? = some task)
    (carries : extractBearerToken task.req.headers = .ok token) : r ∉ w.proxy.responses := by
  intro awaited
  obtain ⟨f, member, rfl⟩ := sound.accounted.responses r awaited
  obtain ⟨owner, known, req⟩ := sound.accounted.sent f member
  obtain rfl := Option.some.inj (there.symm.trans known)
  rw [req] at carries
  exact closed.sent f member late carries

/-- The dispatcher of a queued request is there, and was created for its token. -/
theorem queued_dispatcher (sound : Sound as w) (there : w.proxy.requests[r]? = some task)
    (carries : extractBearerToken task.req.headers = .ok token) {token' : String} {d : Nat}
    (carried : task.phase.token = some token') (sender : task.phase.sender = some d) :
    ∃ disp, w.proxy.dispatchers[d]? = some disp ∧ disp.token = token := by
  have routed := routed_run sound.run
  have member := List.mem_of_getElem? there
  have parsed := routed.parsed task member token' carried
  obtain rfl := Except.ok.inj (parsed.symm.trans carries)
  have owner := routed.senders task member token' d carried sender
  exact Option.map_eq_some_iff.mp owner

theorem late_awake (sound : Sound as w) (ended : Ended token w.db)
    (there : w.proxy.requests[r]? = some task)
    (carries : extractBearerToken task.req.headers = .ok token) {token' : String} {d : Nat}
    (queued : task.phase = .queued token' d) {act : ProxyAction} (acts : worker act = some d) :
    ¬ Waits w.db w.proxy act := by
  rintro ⟨e, stored, disp, msg, rfl, at_e, phase, round⟩
  cases acts
  have carried : task.phase.token = some token' := by simp [queued, RequestPhase.token]
  have sender : task.phase.sender = some d := by simp [queued, RequestPhase.sender]
  obtain ⟨owner, at_d, same⟩ := queued_dispatcher sound there carries carried sender
  cases at_e.symm.trans at_d
  obtain ⟨error, refused⟩ := ended_round ended (w.proxy.sendersGone d) stored
  rw [same, refused] at round
  cases round

/-- A message in the queue gives its dispatcher something to do. -/
theorem queue_goes_on {db : Db} {p : Proxy} {d : Nat} {disp : Dispatcher} (sound : p.Sound)
    (at_d : p.dispatchers[d]? = some disp) (busy : disp.messages ≠ []) :
    ∃ act, worker act = some d ∧ (p.step db act).isSome := by
  have next : GoesOn db p d disp := goes_on sound at_d
  unfold GoesOn at next
  cases phase : disp.phase with
  | receiving =>
    simp only [phase] at next
    have queue : disp.queue ≠ [] := by
      simpa [Dispatcher.messages, phase, DispatcherPhase.message] using busy
    exact ⟨.receive d, rfl, next.1 queue⟩
  | resolving msg =>
    simp only [phase] at next
    exact ⟨.resolve d true, rfl, next true⟩
  | connecting msg address =>
    simp only [phase] at next
    exact ⟨.connect d fun _ => .connected, rfl, next _⟩
  | failing msg address error =>
    simp only [phase] at next
    exact ⟨.markFailed d true, rfl, next true⟩
  | sending msg =>
    simp only [phase] at next
    exact ⟨.send d .ready, rfl, next .ready⟩
  | ended =>
    have drained := (sound disp (List.mem_of_getElem? at_d)).drained phase
    simp [Dispatcher.messages, phase, DispatcherPhase.message, drained] at busy

/-- A late request is settled, or one of its steps is enabled. -/
theorem late_goes_on (sound : Sound as w) (closed : Closed token requests dispatchers w)
    (late : requests ≤ r) (there : w.proxy.requests[r]? = some task)
    (carries : extractBearerToken task.req.headers = .ok token) :
    Settled w.proxy r ∨
      ∃ act, Advances w.proxy r act ∧ (w.proxy.step w.db act).isSome := by
  have ready := waiting_run sound.run
  obtain ⟨req, phase⟩ := task
  cases phase with
  | parsed token' =>
    refine Or.inr ⟨.lookup r, Or.inl (Or.inl rfl), ?_⟩
    cases cached : w.proxy.openSender token' <;> simp [Proxy.step, there, cached]
  | missed token' =>
    refine Or.inr ⟨.storeLookup r false, Or.inl (Or.inr (Or.inl ⟨false, rfl⟩)), ?_⟩
    simp [Proxy.step, there]
  | found token' =>
    refine Or.inr ⟨.lookupOrInsert r, Or.inl (Or.inr (Or.inr (Or.inl rfl))), ?_⟩
    cases cached : w.proxy.openSender token' <;> simp [Proxy.step, there, cached]
  | holding token' d =>
    refine Or.inr ⟨.enqueue r, Or.inl (Or.inr (Or.inr (Or.inr rfl))), ?_⟩
    obtain ⟨disp, at_d, _⟩ := queued_dispatcher (d := d) sound there carries rfl rfl
    by_cases ended : disp.phase = .ended
    · simp [Proxy.step, there, at_d, ended]
    · simp [Proxy.step, there, at_d, ended]
  | queued token' d =>
    obtain ⟨disp, at_d, _⟩ := queued_dispatcher (d := d) sound there carries rfl rfl
    have queued := (ready.1 r _ token' d there rfl).resolve_left
      (late_unsent sound closed late there carries)
    obtain ⟨msg, member, _⟩ := queued
    have busy : disp.messages ≠ [] := by
      rintro idle
      simp [List.getD_eq_getElem?_getD, queue_at at_d, idle] at member
    obtain ⟨act, acts, enabled⟩ := queue_goes_on ready.2 at_d busy
    exact Or.inr ⟨act, Or.inr ⟨req, token', d, there, acts⟩, enabled⟩
  | answered result => exact Or.inl ⟨_, there, Or.inr ⟨result, rfl⟩⟩
  | dropped => exact Or.inl ⟨_, there, Or.inl rfl⟩

end

/-- What holds of a late request in every state after the end. -/
structure Late (token : String) (requests dispatchers r : Nat) (w : World) : Prop where
  sound : ∃ as, Sound as w
  closed : Closed token requests dispatchers w
  carries : ∃ task, w.proxy.requests[r]? = some task ∧
    extractBearerToken task.req.headers = .ok token

theorem request_stays {w w' : World} {a : Action} (h : w.step a = some w') (alive : a ≠ .restart)
    {r : Nat} {task : RequestTask} (there : w.proxy.requests[r]? = some task) :
    ∃ task', w'.proxy.requests[r]? = some task' ∧ task'.req = task.req := by
  rcases step_proxy h alive with same | ⟨token, same⟩ | ⟨act, outcome, run, same⟩
  · exact ⟨task, by rw [same]; exact there, rfl⟩
  · exact ⟨task, by rw [same]; exact there, rfl⟩
  · rw [same]
    exact request_kept run there

theorem late_kept (token : String) (requests dispatchers r : Nat) :
    Preserves World.step (Continues token) (Late token requests dispatchers r) := by
  intro w a w' before ok h
  obtain ⟨sound, closed⟩ := closed_kept _ _ _ _ _ _ ⟨before.sound, before.closed⟩ ok h
  obtain ⟨task, there, carries⟩ := before.carries
  obtain ⟨task', after, same⟩ := request_stays h ok.1 there
  exact ⟨sound, closed, task', after, by rw [same]; exact carries⟩

/-- The step is one of those that advance the request. -/
def Serves (r : Nat) (w : World) (a : Action) : Prop :=
  ∃ act, a = .proxy act ∧ Advances w.proxy r act

/-- Until a late request is settled its steps bring the answer nearer, and no other step
takes it farther away. -/
theorem late_ranks {token : String} {requests dispatchers r : Nat} (late : requests ≤ r) :
    Ranks World.step (Continues token) (Late token requests dispatchers r)
      (fun w => Settled w.proxy r) (Serves r) (fun w => w.proxy.rank r) := by
  have each : ∀ w a w', Late token requests dispatchers r w → Continues token w a →
      ¬ Settled w.proxy r → w.step a = some w' →
      Settled w'.proxy r ∨ w'.proxy.rank r < w.proxy.rank r ∨
        ¬ Serves r w a ∧ w'.proxy.rank r = w.proxy.rank r := by
    intro w a w' before ok unsettled h
    have after := late_kept token requests dispatchers r w a w' before ok h
    obtain ⟨as, sound⟩ := before.sound
    obtain ⟨as', sound'⟩ := after.sound
    obtain ⟨task, there, carries⟩ := before.carries
    obtain ⟨task', there', carries'⟩ := after.carries
    cases a with
    | proxy act =>
      obtain ⟨outcome, run, rfl⟩ := Option.map_eq_some_iff.mp h
      have unsent : r ∉ w.proxy.responses ∧ r ∉ outcome.proxy.responses :=
        ⟨late_unsent sound before.closed late there carries,
          late_unsent sound' after.closed late there' carries'⟩
      have known : ∀ token' d, task.phase = .queued token' d →
          ∃ disp, w.proxy.dispatchers[d]? = some disp := by
        intro token' d queued
        have carried : task.phase.token = some token' := by simp [queued, RequestPhase.token]
        have sender : task.phase.sender = some d := by simp [queued, RequestPhase.sender]
        obtain ⟨disp, at_d, _⟩ := queued_dispatcher sound there carries carried sender
        exact ⟨disp, at_d⟩
      have awake : ∀ token' d, task.phase = .queued token' d → worker act = some d →
          ¬ Waits w.db w.proxy act := fun _ _ queued acts =>
        late_awake sound before.closed.ended there carries queued acts
      have ready := (waiting_run sound.run).1
      rcases rank_step run ready there unsettled unsent awake known with
        settled | lower | ⟨other, same⟩
      · exact Or.inl settled
      · exact Or.inr (Or.inl lower)
      · refine Or.inr (Or.inr ⟨?_, same⟩)
        rintro ⟨act', acts, advances⟩
        cases acts
        exact other advances
    | routes act =>
      obtain ⟨outcome, run, rfl⟩ := Option.map_eq_some_iff.mp h
      refine Or.inr (Or.inr ⟨?_, ?_⟩)
      · rintro ⟨act', acts, _⟩
        cases acts
      · cases removed : outcome.invalidate <;> rfl
    | check act =>
      obtain ⟨outcome, run, rfl⟩ := Option.map_eq_some_iff.mp h
      refine Or.inr (Or.inr ⟨?_, rfl⟩)
      rintro ⟨act', acts, _⟩
      cases acts
    | restart => exact absurd rfl ok.1
  constructor
  · intro w a w' before ok unsettled serves h
    rcases each w a w' before ok unsettled h with settled | lower | ⟨other, _⟩
    · exact Or.inl settled
    · exact Or.inr lower
    · exact absurd serves other
  · intro w a w' before ok unsettled _ h
    rcases each w a w' before ok unsettled h with settled | lower | ⟨_, same⟩
    · exact Or.inl settled
    · exact Or.inr (le_of_lt lower)
    · exact Or.inr (le_of_eq same)

/-- The steps that advance a request keep being taken until it is settled. -/
def Fair (t : Trace World.step) (r : Nat) : Prop :=
  ∀ n, ¬ Settled (t.state n).proxy r →
    ∃ m, n ≤ m ∧ (Settled (t.state m).proxy r ∨ Serves r (t.state m) (t.action m))

theorem proxy_continues (token : String) (w : World) (act : ProxyAction) :
    Continues token w (.proxy act) := by
  refine ⟨by simp, ?_, ?_⟩
  · intro drawn draws
    cases draws
  · intro c calls
    cases calls

/-- Such a continuation is there: the enabled steps of the request, and then any arrivals. -/
theorem late_fairly {token : String} {requests dispatchers r : Nat} (late : requests ≤ r)
    {w : World} (start : Late token requests dispatchers r w) :
    ∃ t : Trace World.step, t.state 0 = w ∧
      (∀ n, Continues token (t.state n) (t.action n)) ∧ Fair t r := by
  have goes : ∀ u, Late token requests dispatchers r u → ∃ a u',
      (Continues token u a ∧ (¬ Settled u.proxy r → Serves r u a)) ∧
        u.step a = some u' ∧ Late token requests dispatchers r u' := by
    intro u before
    have next : ∃ act, (¬ Settled u.proxy r → Serves r u (.proxy act)) ∧
        (u.proxy.step u.db act).isSome := by
      obtain ⟨as, sound⟩ := before.sound
      obtain ⟨task, there, carries⟩ := before.carries
      rcases late_goes_on sound before.closed late there carries with
        settled | ⟨act, advances, enabled⟩
      · exact ⟨.arrive task.req, fun unsettled => absurd settled unsettled, rfl⟩
      · exact ⟨act, fun _ => ⟨act, rfl, advances⟩, enabled⟩
    obtain ⟨act, serves, enabled⟩ := next
    obtain ⟨outcome, run⟩ := Option.isSome_iff_exists.mp enabled
    have step : u.step (.proxy act) = some _ := congrArg (Option.map _) run
    have continues := proxy_continues token u act
    exact ⟨.proxy act, _, ⟨continues, serves⟩, step,
      late_kept token requests dispatchers r u _ _ before continues step⟩
  obtain ⟨t, begins, good⟩ := trace_exists start goes
  exact ⟨t, begins, fun n => (good n).1, fun n unsettled =>
    ⟨n, le_refl n, Or.inr ((good n).2 unsettled)⟩⟩

theorem late_settles {token : String} {requests dispatchers r : Nat} (late : requests ≤ r)
    (t : Trace World.step) (start : Late token requests dispatchers r (t.state 0))
    (continues : ∀ n, Continues token (t.state n) (t.action n)) (fair : Fair t r) :
    ∃ n task, (t.state n).proxy.requests[r]? = some task ∧
      (task.phase = .dropped ∨ ∃ error, task.phase = .answered (.error error)) := by
  have holds := trace_invariant (late_kept token requests dispatchers r) t start continues
  obtain ⟨n, task, there, phase⟩ := trace_reaches (late_ranks late) t holds continues fair
  refine ⟨n, task, there, phase.imp_right ?_⟩
  rintro ⟨result, answered⟩
  obtain ⟨owner, known, carries⟩ := (holds n).carries
  obtain rfl := Option.some.inj (there.symm.trans known)
  cases result with
  | ok response =>
    exact absurd answered ((holds n).closed.answers r task late there carries response)
  | error error => exact ⟨error, answered⟩

/-- A call ends the session of a token: it updates the store after `pre` and has
invalidated the connection after `mid`. No request that arrives later is forwarded;
its answer, if it has one, is an error, and so is every resolution of the token. A step
towards that answer is enabled until the request is settled; there are continuations that
keep taking such steps, and on every one the request gets its error, unless its client
leaves. -/
theorem no_forwarding_after_end {token : String} {pre mid post : List Action}
    {update invalidate : Action} {w₀ w₁ w₂ w₃ w : World}
    (before : exec World.step (.start .new) pre = some w₀) (updated : w₀.step update = some w₁)
    (between : exec World.step w₁ mid = some w₂) (returned : w₂.step invalidate = some w₃)
    (after : exec World.step w₃ post = some w)
    (ends : SessionEnd token w₀ w₂ update invalidate)
    (fresh : Along World.step DrawsFresh (.start .new)
      (pre ++ update :: (mid ++ invalidate :: post)))
    (alive : .restart ∉ post) (silent : ∀ a ∈ mid ++ post, ∀ c ∈ a.callback, c.1 ≠ token) :
    (∀ f ∈ w.proxy.sent, w₃.proxy.requests.length ≤ f.request →
      extractBearerToken f.req.headers ≠ .ok token) ∧
    (∀ (r : Nat) task, w₃.proxy.requests.length ≤ r → w.proxy.requests[r]? = some task →
      extractBearerToken task.req.headers = .ok token →
      (∀ result, task.phase = .answered result → ∃ error, result = .error error) ∧
      (Settled w.proxy r ∨ ∃ act, Advances w.proxy r act ∧ (w.proxy.step w.db act).isSome) ∧
      (∃ t : Trace World.step, t.state 0 = w ∧
        (∀ n, Continues token (t.state n) (t.action n)) ∧ Fair t r) ∧
      ∀ t : Trace World.step, t.state 0 = w →
        (∀ n, Continues token (t.state n) (t.action n)) → Fair t r →
        ∃ n task', (t.state n).proxy.requests[r]? = some task' ∧
          (task'.phase = .dropped ∨ ∃ error, task'.phase = .answered (.error error))) ∧
    ∀ closed stored, ∃ error, resolveRound w.db token closed stored = .error error := by
  obtain ⟨⟨as, sound⟩, closed⟩ :=
    session_closed before updated between returned after ends fresh alive silent
  refine ⟨closed.sent, ?_, ended_round closed.ended⟩
  intro r task late there carries
  have start : Late token w₃.proxy.requests.length w₃.proxy.dispatchers.length r w :=
    ⟨⟨as, sound⟩, closed, task, there, carries⟩
  refine ⟨?_, late_goes_on sound closed late there carries, late_fairly late start, ?_⟩
  · intro result answered
    cases result with
    | ok response => exact absurd answered (closed.answers r task late there carries response)
    | error error => exact ⟨error, rfl⟩
  · rintro t rfl continues fair
    exact late_settles late t start continues fair

/-- A request is forwarded over the connection that it opened, and a delete is under way. -/
def openedRun : List Action :=
  [.routes (.createInsert "alice" none "token-a" 0 true),
   .routes (.appCallback "token-a" "10.0.0.1:15002" "app-1" true),
   .proxy (.arrive (bearer "token-a")), .proxy (.lookup 0), .proxy (.storeLookup 0 true),
   .proxy (.lookupOrInsert 0), .proxy (.enqueue 0), .proxy (.receive 0), .proxy (.resolve 0 true),
   .proxy (.connect 0 fun _ => .connected), .proxy (.send 0 .ready),
   .routes (.deleteRead 1 "alice" true)]

/-- The stop message is sent while another request takes the old channel. -/
def stoppedRun : List Action :=
  [.routes (.deleteStop 0 true), .proxy (.arrive (bearer "token-a")), .proxy (.lookup 1)]

/-- The old request goes on, and a late one gets a new dispatcher. -/
def lateRun : List Action :=
  [.proxy (.enqueue 1), .proxy (.receive 0), .proxy (.send 0 .ready),
   .proxy (.arrive (bearer "token-a")), .proxy (.lookup 2), .proxy (.storeLookup 2 true),
   .proxy (.lookupOrInsert 2), .proxy (.enqueue 2), .proxy (.receive 1), .proxy (.resolve 1 true)]

theorem late_request_refused : ∃ w, exec World.step (.start .new)
      (openedRun ++ .routes (.deleteUpdate 0 true) ::
        (stoppedRun ++ .routes (.deleteInvalidate 0) :: lateRun)) = some w ∧
    w.proxy.sent.length = 2 ∧
    w.proxy.requests[2]? =
      some ⟨bearer "token-a", .answered (.error (.invalidApplicationState .finished))⟩ ∧
    ∀ f ∈ w.proxy.sent, 2 ≤ f.request → extractBearerToken f.req.headers ≠ .ok "token-a" := by
  have computed : (exec World.step (.start .new) openedRun).any (fun w₀ =>
      w₀.routes.deletes[0]? = some (.read 1 "alice" (some "10.0.0.1:15002") "token-a") &&
      (w₀.step (.routes (.deleteUpdate 0 true))).any fun w₁ =>
      (exec World.step w₁ stoppedRun).any fun w₂ =>
      w₂.routes.deletes[0]? = some (.stopped "token-a" (.ok ())) &&
      (w₂.step (.routes (.deleteInvalidate 0))).any fun w₃ =>
      w₃.proxy.requests.length = 2 &&
      (exec World.step w₃ lateRun).any fun w =>
      w.proxy.sent.length = 2 && w.proxy.requests[2]? =
        some ⟨bearer "token-a", .answered (.error (.invalidApplicationState .finished))⟩) =
      true := by decide
  obtain ⟨w₀, before, facts⟩ := computed_run computed
  simp only [Bool.and_eq_true, decide_eq_true_eq, Option.any_eq_true] at facts
  obtain ⟨read, w₁, updated, w₂, between, stopped, w₃, returned, two, w, after, sent, refused⟩ :=
    facts
  have ends : SessionEnd "token-a" w₀ w₂ _ _ :=
    .deleteApp 0 1 "alice" (some "10.0.0.1:15002") (.ok ()) read stopped
  have closed := no_forwarding_after_end before updated between returned after ends (by decide)
    (by simp [lateRun]) (by decide)
  refine ⟨w, ?_, sent, refused, ?_⟩
  · refine exec_append.mpr ⟨w₀, before, exec_cons.mpr ⟨w₁, updated, ?_⟩⟩
    refine exec_append.mpr ⟨w₂, between, ?_⟩
    exact exec_cons.mpr ⟨w₃, returned, after⟩
  · rw [two] at closed
    exact closed.1

end SparkPlug
