import SparkPlug.Isolation

/-!
Which applications the cache of dispatchers holds on to. An application that ends by
a delete is taken out of the cache by the handler that ended it; one that ends by a
FAILED update is not, and a request for an ended application brings it back.
-/
namespace SparkPlug
open KeyedTable Runs Tasks

def State.live : State → Bool
  | .launching | .running => true
  | .failed | .finished => false

def LiveRow (db : Db) (token : String) : Prop :=
  ∃ r ∈ db.rows, r.token = token ∧ r.state.live = true

instance (db : Db) (token : String) : Decidable (LiveRow db token) :=
  inferInstanceAs (Decidable (∃ r ∈ db.rows, r.token = token ∧ r.state.live = true))

/-- The token whose entry the call has still to remove. -/
def DeleteApp.ending : DeleteApp → Option String
  | .marked _ token | .stopped token _ => some token
  | _ => none

def AppCallbackDelete.ending : AppCallbackDelete → Option String
  | .updated token => some token
  | _ => none

/-- A call is about to invalidate the token. -/
def Pending (s : Routes) (token : String) : Prop :=
  (∃ call ∈ s.deletes, call.ending = some token) ∨
    ∃ call ∈ s.callbackDeletes, call.ending = some token

instance (s : Routes) (token : String) : Decidable (Pending s token) :=
  inferInstanceAs (Decidable ((∃ call ∈ s.deletes, call.ending = some token) ∨
    ∃ call ∈ s.callbackDeletes, call.ending = some token))

def Covered (w : World) (token : String) : Prop := LiveRow w.db token ∨ Pending w.routes token

instance (w : World) (token : String) : Decidable (Covered w token) :=
  inferInstanceAs (Decidable (LiveRow w.db token ∨ Pending w.routes token))

/-- The updates to FAILED. -/
def Statement.fails : Statement → Bool
  | .createFailed _ | .watcherFailed _ | .markApplicationFailed _ | .checkFailed _ => true
  | _ => false

/-- The token for which an action is going to spawn a dispatcher. -/
def spawnedToken (w : World) : Action → Option String
  | .proxy (.lookupOrInsert r) => (w.proxy.requests[r]?).bind fun task =>
    match task.phase with
    | .found token => if w.proxy.openSender token = none then some token else none
    | _ => none
  | _ => none

/-- The token that a dropped handler had still to invalidate, and the calls without it. -/
def abandoned (s : Routes) : Action → Option (String × Routes)
  | .routes (.deleteDropped n) => (s.deletes[n]?).bind fun call =>
    call.ending.map fun token => (token, { s with deletes := s.deletes.set n .dropped })
  | .routes (.appCallbackDeleteDropped n) => (s.callbackDeletes[n]?).bind fun call =>
    call.ending.map fun token =>
      (token, { s with callbackDeletes := s.callbackDeletes.set n .dropped })
  | _ => none

/-- No FAILED update hits a cached application, no dispatcher is spawned for an ended one
and no handler is dropped before its invalidation, unless another invalidation is to come. -/
def KeepsLive (w : World) (a : Action) : Prop :=
  (∀ st ∈ w.statement a, st.fails = true → ∀ r ∈ w.db.rows, st.filter r = true →
    r.token ∈ w.proxy.connections → Pending w.routes r.token) ∧
  (∀ token ∈ spawnedToken w a, Covered w token) ∧
  ∀ dropped ∈ abandoned w.routes a, dropped.1 ∈ w.proxy.connections →
    LiveRow w.db dropped.1 ∨ Pending dropped.2 dropped.1

instance (w : World) (a : Action) : Decidable (KeepsLive w a) :=
  inferInstanceAs (Decidable (
    (∀ st ∈ w.statement a, st.fails = true → ∀ r ∈ w.db.rows, st.filter r = true →
      r.token ∈ w.proxy.connections → Pending w.routes r.token) ∧
    (∀ token ∈ spawnedToken w a, Covered w token) ∧
    ∀ dropped ∈ abandoned w.routes a, dropped.1 ∈ w.proxy.connections →
      LiveRow w.db dropped.1 ∨ Pending dropped.2 dropped.1))

def CreateApp.over : CreateApp → Bool
  | .answered _ | .dropped => true
  | _ => false

def DeleteApp.over : DeleteApp → Bool
  | .answered _ | .dropped => true
  | _ => false

def AppCallbackDelete.over : AppCallbackDelete → Bool
  | .answered _ | .dropped => true
  | _ => false

def RequestPhase.over : RequestPhase → Bool
  | .answered _ | .dropped => true
  | _ => false

/-- No handler is executing and no proxied request is pending. -/
def Quiescent (w : World) : Prop :=
  (∀ call ∈ w.routes.creates, call.over = true) ∧ (∀ call ∈ w.routes.deletes, call.over = true) ∧
    (∀ call ∈ w.routes.callbackDeletes, call.over = true) ∧
    ∀ task ∈ w.proxy.requests, task.phase.over = true

instance (w : World) : Decidable (Quiescent w) :=
  inferInstanceAs (Decidable ((∀ call ∈ w.routes.creates, call.over = true) ∧
    (∀ call ∈ w.routes.deletes, call.over = true) ∧
    (∀ call ∈ w.routes.callbackDeletes, call.over = true) ∧
    ∀ task ∈ w.proxy.requests, task.phase.over = true))

def liveApplications (db : Db) : List Model := db.select fun r => r.state.live

/-- The dispatcher tasks that some sender keeps alive. -/
def Proxy.servingDispatchers (p : Proxy) : List Nat :=
  (List.range p.dispatchers.length).filter fun d => !p.isClosed d && !p.sendersGone d

/- Pending invalidations. -/

section
variable {db : Db} {s : Routes} {a : RoutesAction} {outcome : RoutesOutcome}

theorem refused_update {n : Nat} (h : s.step db (.deleteUpdate n false) = some outcome) :
    ∃ call, s.deletes[n]? = some call ∧ call.ending = none := by
  simp only [Routes.step] at h
  split at h
  · rename_i at_n
    exact ⟨_, at_n, rfl⟩
  · simp at h

/-- A pending delete stays pending, carries its invalidation out or is dropped. -/
theorem pending_delete_step (h : s.step db a = some outcome) {call : DeleteApp} {token : String}
    (member : call ∈ s.deletes) (ends : call.ending = some token) :
    (∃ call ∈ outcome.routes.deletes, call.ending = some token) ∨
      outcome.invalidate = some token ∨ (token, outcome.routes) ∈ abandoned s (.routes a) := by
  cases routes_step h with
  | read appId username stored => exact Or.inl ⟨call, List.mem_append_left _ member, ends⟩
  | marked n appId username address token' at_n =>
    rcases kept_or_changed member with kept | changed
    · exact Or.inl ⟨call, kept, ends⟩
    · cases changed.symm.trans at_n
      simp [DeleteApp.ending] at ends
  | updateRefused n =>
    rcases kept_or_changed member with kept | changed
    · exact Or.inl ⟨call, kept, ends⟩
    · obtain ⟨refused, at_n, idle⟩ := refused_update h
      cases changed.symm.trans at_n
      simp [idle] at ends
  | stopped n delivered address token' at_n =>
    rcases kept_or_changed member with kept | changed
    · exact Or.inl ⟨call, kept, ends⟩
    · cases changed.symm.trans at_n
      obtain ⟨bound, _⟩ := List.getElem?_eq_some_iff.mp at_n
      exact Or.inl ⟨_, List.mem_set bound _, ends⟩
  | invalidated n token' result at_n =>
    rcases kept_or_changed member with kept | changed
    · exact Or.inl ⟨call, kept, ends⟩
    · cases changed.symm.trans at_n
      exact Or.inr (Or.inl ends)
  | dropped n =>
    rcases kept_or_changed member with kept | changed
    · exact Or.inl ⟨call, kept, ends⟩
    · exact Or.inr (Or.inr (by simp [abandoned, changed, ends]))
  | _ => exact Or.inl ⟨call, member, ends⟩

theorem pending_callback_step (h : s.step db a = some outcome) {call : AppCallbackDelete}
    {token : String} (member : call ∈ s.callbackDeletes) (ends : call.ending = some token) :
    (∃ call ∈ outcome.routes.callbackDeletes, call.ending = some token) ∨
      outcome.invalidate = some token ∨ (token, outcome.routes) ∈ abandoned s (.routes a) := by
  cases routes_step h with
  | deregistered token' sender phase => exact Or.inl ⟨call, List.mem_append_left _ member, ends⟩
  | deregisterRefused token' sender => exact Or.inl ⟨call, List.mem_append_left _ member, ends⟩
  | callbackInvalidated n token' at_n =>
    rcases kept_or_changed member with kept | changed
    · exact Or.inl ⟨call, kept, ends⟩
    · cases changed.symm.trans at_n
      exact Or.inr (Or.inl ends)
  | callbackDropped n =>
    rcases kept_or_changed member with kept | changed
    · exact Or.inl ⟨call, kept, ends⟩
    · exact Or.inr (Or.inr (by simp [abandoned, changed, ends]))
  | _ => exact Or.inl ⟨call, member, ends⟩

theorem pending_step (h : s.step db a = some outcome) {token : String} (pending : Pending s token) :
    Pending outcome.routes token ∨ outcome.invalidate = some token ∨
      (token, outcome.routes) ∈ abandoned s (.routes a) := by
  rcases pending with ⟨call, member, ends⟩ | ⟨call, member, ends⟩
  · rcases pending_delete_step h member ends with kept | gone
    · exact Or.inl (Or.inl kept)
    · exact Or.inr gone
  · rcases pending_callback_step h member ends with kept | gone
    · exact Or.inl (Or.inr kept)
    · exact Or.inr gone

theorem callback_delete_pending {token sender : String}
    (h : s.step db (.appCallbackDelete token sender true) = some outcome)
    (stored : ∃ r ∈ db.rows, r.token = token) : Pending outcome.routes token := by
  have affected : 0 < db.rowsAffected (.appCallbackDelete token) := by
    obtain ⟨r, member, same⟩ := stored
    exact Table.affected_pos.mpr ⟨r, member, by simp [Statement.filter, same]⟩
  have some : db.rowsAffected (.appCallbackDelete token) ≠ 0 := by omega
  simp only [Routes.step, some, ↓reduceIte, Option.some.injEq] at h
  subst h
  exact Or.inr ⟨.updated token, by simp, rfl⟩

theorem delete_pending {n : Nat} {appId : Int} {username token : String} {address : Option String}
    (h : s.step db (.deleteUpdate n true) = some outcome)
    (at_n : s.deletes[n]? = some (.read appId username address token)) :
    Pending outcome.routes token := by
  have bound := (List.getElem?_eq_some_iff.mp at_n).1
  simp only [Routes.step, at_n, ↓reduceIte, Option.some.injEq] at h
  subst h
  refine Or.inl ⟨.afterUpdate address token, List.mem_set bound _, ?_⟩
  cases address <;> rfl

end

/- One row and one statement. -/

/-- A live row stays live, or the statement is one of those that end it. -/
theorem live_row_cases (st : Statement) {r : Model} (live : r.state.live = true) :
    (∃ r', st.row r = some r' ∧ r'.token = r.token ∧ r'.state.live = true) ∨
      (st.fails = true ∧ st.filter r = true) ∨ st = .appCallbackDelete r.token ∨
      st = .deleteApp r.id r.username := by
  cases st <;> grind [Statement.row, Statement.filter, Statement.set, Statement.fails, State.live]

/-- A delete has read the token of the row that it is going to update. -/
def ReadsOwn (w : World) : Prop :=
  ∀ i username address token, DeleteApp.read i username address token ∈ w.routes.deletes →
    i < w.db.next ∧ ∀ r ∈ w.db.rows, r.id = i → r.token = token

section
variable {w w' : World} {a : Action}

theorem reads_own_step (before : ReadsOwn w) (h : w.step a = some w') : ReadsOwn w' := by
  intro i username address token there
  have known : i < w.db.next ∧ ∀ r ∈ w.db.rows, r.id = i → r.token = token := by
    rcases read_step h there with pending | ⟨r, stored, rfl, _, _, same⟩
    · exact before i username address token pending
    · refine ⟨w.db.below r stored, fun s member eq => ?_⟩
      rw [Table.same_key member stored eq]
      exact same
  refine ⟨Int.lt_of_lt_of_le known.1 (step_next h), fun r' member eq => ?_⟩
  obtain ⟨r, stored, same⟩ := used_id_step h member (eq ▸ known.1)
  rw [(identity_step h stored member same.symm).token]
  exact known.2 r stored (same.trans eq)

/-- An entry after a step was there before, or its dispatcher has just been spawned. -/
theorem cached_before (h : w.step a = some w') {token : String}
    (cached : token ∈ w'.proxy.connections) :
    token ∈ w.proxy.connections ∨ spawnedToken w a = some token := by
  cases a with
  | routes act =>
    obtain ⟨outcome, _, rfl⟩ := Option.map_eq_some_iff.mp h
    cases removed : outcome.invalidate with
    | none =>
      simp only [removed] at cached
      exact Or.inl cached
    | some other =>
      simp only [removed] at cached
      exact Or.inl (AList.mem_erase.mp cached).2
  | check act =>
    obtain ⟨outcome, _, rfl⟩ := Option.map_eq_some_iff.mp h
    exact Or.inl cached
  | proxy act =>
    obtain ⟨outcome, step, rfl⟩ := Option.map_eq_some_iff.mp h
    rcases step_connections step with same | ⟨r, req, other, rfl, at_r, absent, inserted⟩ |
      ⟨other, erased⟩
    · simp only [same] at cached
      exact Or.inl cached
    · simp only [inserted] at cached
      rcases (AList.mem_insert _).mp cached with rfl | old
      · exact Or.inr (by simp [spawnedToken, at_r, absent])
      · exact Or.inl old
    · simp only [erased] at cached
      exact Or.inl (AList.mem_erase.mp cached).2
  | restart =>
    cases h
    simp at cached

theorem live_row_unwritten (h : w.step a = some w') (silent : w.statement a = none)
    {token : String} (live : LiveRow w.db token) : LiveRow w'.db token := by
  rw [step_db h, silent]
  exact live

/-- A dropped handler executes no statement. -/
theorem abandoned_silent {dropped : String × Routes} (there : dropped ∈ abandoned w.routes a) :
    w.statement a = none := by
  cases a with
  | routes act =>
    cases step : w.routes.step w.db act with
    | none => simp [World.statement, step]
    | some outcome =>
      cases act with
      | deleteDropped n =>
        cases routes_step step with
        | dropped n => simp [World.statement, step]
      | appCallbackDeleteDropped n =>
        cases routes_step step with
        | callbackDropped n => simp [World.statement, step]
      | _ => simp [abandoned] at there
  | _ => simp [abandoned] at there

theorem spawned_silent {token : String} (spawned : spawnedToken w a = some token) :
    w.statement a = none := by
  cases a with
  | proxy act =>
    cases act with
    | lookupOrInsert r =>
      cases step : w.proxy.step w.db (.lookupOrInsert r) with
      | none => simp [World.statement, step]
      | some outcome => cases proxy_step step <;> simp [World.statement, step]
    | _ => simp [spawnedToken] at spawned
  | _ => simp [spawnedToken] at spawned

/-- A pending invalidation covers a token that is still cached after the step. -/
theorem pending_covered (keeps : KeepsLive w a) (h : w.step a = some w') {token : String}
    (pending : Pending w.routes token) (cached : token ∈ w'.proxy.connections) :
    Covered w' token := by
  cases a with
  | routes act =>
    have run := h
    obtain ⟨outcome, step, rfl⟩ := Option.map_eq_some_iff.mp h
    rcases pending_step step pending with kept | gone | dropped
    · exact Or.inr kept
    · simp only [gone] at cached
      exact absurd rfl (AList.mem_erase.mp cached).1
    · have before : token ∈ w.proxy.connections := by
        rcases cached_before run cached with old | spawned
        · exact old
        · simp [spawnedToken] at spawned
      rcases keeps.2.2 _ dropped before with live | pending
      · exact Or.inl (live_row_unwritten run (abandoned_silent dropped) live)
      · exact Or.inr pending
  | check act =>
    obtain ⟨outcome, _, rfl⟩ := Option.map_eq_some_iff.mp h
    exact Or.inr pending
  | proxy act =>
    obtain ⟨outcome, _, rfl⟩ := Option.map_eq_some_iff.mp h
    exact Or.inr pending
  | restart =>
    cases h
    simp at cached

/-- A delete of a row leaves the invalidation of its token pending. -/
theorem ended_pending (reads : ReadsOwn w) (h : w.step a = some w') {r : Model}
    (stored : r ∈ w.db.rows) {st : Statement} (issued : w.statement a = some st)
    (ends : st = .appCallbackDelete r.token ∨ st = .deleteApp r.id r.username) :
    Pending w'.routes r.token := by
  cases issued_by issued with
  | appCallbackDelete token sender =>
    simp only [World.step, Option.map_eq_some_iff] at h
    obtain ⟨outcome, step, rfl⟩ := h
    simp only [Statement.appCallbackDelete.injEq, reduceCtorEq, or_false] at ends
    subst ends
    exact callback_delete_pending step ⟨r, stored, rfl⟩
  | deleteApp n appId username address token at_n =>
    simp only [World.step, Option.map_eq_some_iff] at h
    obtain ⟨outcome, step, rfl⟩ := h
    simp only [Statement.deleteApp.injEq, reduceCtorEq, false_or] at ends
    obtain ⟨rfl, rfl⟩ := ends
    have own := (reads _ _ _ _ (List.mem_of_getElem? at_n)).2 r stored rfl
    rw [own]
    exact delete_pending step at_n
  | _ => simp at ends

theorem covered_step (reads : ReadsOwn w) (keeps : KeepsLive w a) (h : w.step a = some w')
    {token : String} (before : token ∈ w.proxy.connections → Covered w token)
    (cached : token ∈ w'.proxy.connections) : Covered w' token := by
  have source := cached_before h cached
  have covered : Covered w token := by
    rcases source with old | spawned
    · exact before old
    · exact keeps.2.1 token spawned
  rcases covered with ⟨r, stored, rfl, live⟩ | pending
  · cases issued : w.statement a with
    | none => exact Or.inl (live_row_unwritten h issued ⟨r, stored, rfl, live⟩)
    | some st =>
      have after : (w.db.exec st).find r.id = st.row r := find_exec (Table.find_mem stored)
      rcases live_row_cases st live with ⟨r', row, same, live'⟩ | ⟨fails, selected⟩ | ends
      · rw [row] at after
        refine Or.inl ⟨r', ?_, same, live'⟩
        rw [step_db h, issued]
        exact (Table.find_some after).1
      · rcases source with old | spawned
        · exact pending_covered keeps h (keeps.1 st issued fails r stored selected old) cached
        · simp [spawned_silent spawned] at issued
      · exact Or.inr (ended_pending reads h stored issued ends)
  · exact pending_covered keeps h pending cached

theorem covered_run {as : List Action} (meets : Along World.step KeepsLive (.start .new) as)
    (run : exec World.step (.start .new) as = some w) :
    ∀ token ∈ w.proxy.connections, Covered w token := by
  have pres : Preserves World.step KeepsLive
      (fun w => ReadsOwn w ∧ ∀ token ∈ w.proxy.connections, Covered w token) := by
    intro s a s' inv keeps h
    refine ⟨reads_own_step inv.1 h, fun token cached => ?_⟩
    exact covered_step inv.1 keeps h (inv.2 token) cached
  have start : ReadsOwn (.start .new) ∧
      ∀ token ∈ (World.start .new).proxy.connections, Covered (.start .new) token := by
    constructor
    · intro i username address token there
      simp [World.start] at there
    · intro token there
      simp [World.start] at there
  exact (invariant_run pres start meets run).2

/- Quiescent states. -/

theorem quiet_not_pending (quiet : Quiescent w) (token : String) : ¬ Pending w.routes token := by
  rintro (⟨call, member, ends⟩ | ⟨call, member, ends⟩)
  · have settled := quiet.2.1 call member
    cases call <;> simp_all [DeleteApp.over, DeleteApp.ending]
  · have settled := quiet.2.2.1 call member
    cases call <;> simp_all [AppCallbackDelete.over, AppCallbackDelete.ending]

theorem entries_le_live (live : ∀ token ∈ w.proxy.connections, LiveRow w.db token) :
    w.proxy.connections.entries.length ≤ (liveApplications w.db).length := by
  have subset : w.proxy.connections.keys ⊆ (liveApplications w.db).map (·.token) := by
    intro token member
    obtain ⟨r, stored, same, alive⟩ := live token (AList.mem_keys.mpr member)
    exact List.mem_map.mpr ⟨r, List.mem_filter.mpr ⟨stored, alive⟩, same⟩
  have bound := w.proxy.connections.keys_nodup.length_le_of_subset subset
  simpa [AList.keys, List.keys] using bound

/-- Without a pending request only the cache keeps dispatchers alive. -/
theorem serving_le_entries (quiet : Quiescent w) :
    w.proxy.servingDispatchers.length ≤ w.proxy.connections.entries.length := by
  have idle : ∀ d, (w.proxy.requests.any fun task => task.phase.sender = some d) = false := by
    intro d
    rw [List.any_eq_false]
    intro task member
    have settled := quiet.2.2.2 task member
    obtain ⟨req, phase⟩ := task
    cases phase <;> simp_all [RequestPhase.over, RequestPhase.sender]
  have subset : w.proxy.servingDispatchers ⊆ w.proxy.connections.entries.map (·.2) := by
    intro d member
    have kept := (List.mem_filter.mp member).2
    simp only [Proxy.sendersGone, idle, Bool.not_false, Bool.and_true, Bool.not_not,
      Bool.and_eq_true, List.any_eq_true, decide_eq_true_eq] at kept
    obtain ⟨_, e, there, same⟩ := kept
    exact List.mem_map.mpr ⟨e, there, same⟩
  have distinct : w.proxy.servingDispatchers.Nodup := List.nodup_range.filter _
  simpa using distinct.length_le_of_subset subset

theorem senderless_finishes {d : Nat} {disp : Dispatcher}
    (at_d : w.proxy.dispatchers[d]? = some disp)
    (idle : disp.phase = .receiving) (drained : disp.queue = [])
    (gone : w.proxy.sendersGone d = true) : (w.step (.proxy (.finish d))).isSome := by
  simp [World.step, Proxy.step, at_d, idle, drained, gone]

/-- In every run whose steps meet the condition: whenever no handler executes and no request
is pending, the cache holds live applications only, as many as serve dispatchers at most. -/
theorem cache_holds_live {as : List Action} (meets : Along World.step KeepsLive (.start .new) as)
    (run : exec World.step (.start .new) as = some w) (quiet : Quiescent w) :
    (∀ token ∈ w.proxy.connections, LiveRow w.db token) ∧
    w.proxy.connections.entries.length ≤ (liveApplications w.db).length ∧
    w.proxy.servingDispatchers.length ≤ (liveApplications w.db).length ∧
    ∀ (d : Nat) disp, w.proxy.dispatchers[d]? = some disp → disp.phase = .receiving →
      disp.queue = [] → w.proxy.sendersGone d = true → (w.step (.proxy (.finish d))).isSome := by
  have live : ∀ token ∈ w.proxy.connections, LiveRow w.db token := by
    intro token cached
    rcases covered_run meets run token cached with live | pending
    · exact live
    · exact absurd pending (quiet_not_pending quiet token)
  have entries := entries_le_live live
  have serving := serving_le_entries quiet
  refine ⟨live, entries, by omega, ?_⟩
  intro d disp at_d idle drained gone
  exact senderless_finishes at_d idle drained gone

end

/-- An application that serves one request and is deleted. -/
def servedRun : List Action :=
  [.routes (.createInsert "alice" none "token-a" 0 true), .routes (.createLaunched 0 true),
   .routes (.appCallback "token-a" "10.0.0.1:15002" "app-1" true),
   .proxy (.arrive (bearer "token-a")), .proxy (.lookup 0), .proxy (.storeLookup 0 true),
   .proxy (.lookupOrInsert 0), .proxy (.enqueue 0), .proxy (.receive 0), .proxy (.resolve 0 true),
   .proxy (.connect 0 fun _ => .connected), .proxy (.send 0 .ready), .proxy (.respond 0 (.ok 7))]

theorem served_run_live : ∃ w, exec World.step (.start .new) servedRun = some w ∧ Quiescent w ∧
    "token-a" ∈ w.proxy.connections ∧ LiveRow w.db "token-a" := by
  have computed : (exec World.step (.start .new) servedRun).any (fun w =>
      Quiescent w && "token-a" ∈ w.proxy.connections) = true := by decide
  obtain ⟨w, run, facts⟩ := computed_run computed
  simp only [Bool.and_eq_true, decide_eq_true_eq] at facts
  exact ⟨w, run, facts.1, facts.2,
    (cache_holds_live (by decide) run facts.1).1 "token-a" facts.2⟩

/-- The driver of the application cannot be reached, and the dispatcher gives up. -/
def unreachableRun : List Action :=
  [.routes (.createInsert "alice" none "token-a" 0 true), .routes (.createLaunched 0 true),
   .routes (.appCallback "token-a" "10.0.0.1:15002" "app-1" true),
   .proxy (.arrive (bearer "token-a")), .proxy (.lookup 0), .proxy (.storeLookup 0 true),
   .proxy (.lookupOrInsert 0), .proxy (.enqueue 0), .proxy (.receive 0), .proxy (.resolve 0 true),
   .proxy (.connect 0 fun _ => .refused "connection refused"), .proxy (.markFailed 0 true)]

/-- The failed application stays in the cache. -/
theorem failed_application_cached : ∃ w,
    exec World.step (.start .new) unreachableRun = some w ∧ Quiescent w ∧
    "token-a" ∈ w.proxy.connections ∧ w.db.rows.map (·.state) = [.failed] ∧
    w.proxy.servingDispatchers = [0] ∧ ¬ LiveRow w.db "token-a" := by
  have computed : (exec World.step (.start .new) unreachableRun).any (fun w =>
      Quiescent w && "token-a" ∈ w.proxy.connections && w.db.rows.map (·.state) = [.failed] &&
      w.proxy.servingDispatchers = [0] && !decide (LiveRow w.db "token-a")) = true := by decide
  obtain ⟨w, run, facts⟩ := computed_run computed
  simp only [Bool.and_eq_true, decide_eq_true_eq, Bool.not_eq_true', decide_eq_false_iff_not]
    at facts
  exact ⟨w, run, facts.1.1.1.1, facts.1.1.1.2, facts.1.1.2, facts.1.2, facts.2⟩

end SparkPlug
