import SparkPlug.World
import SparkPlug.ProxySteps

/-!
The cache of dispatchers under any interleaving. The store may be another one at
every lookup, entries may be removed and receivers may go away at any time.
-/
namespace SparkPlug
open KeyedTable Runs

inductive CacheAction where
  /- senderFor is called. -/
  | call (req : Request) (token : String)
  /- A step of the proxy on the store as it is now. -/
  | proxy (a : ProxyAction) (db : Db)
  | removeClosed (token : String)
  | invalidate (token : String)
  /- The receiver of a channel goes away. -/
  | close (d : Nat)

def cacheStep (p : Proxy) : CacheAction → Option Proxy
  | .call req token => some { p with requests := p.requests ++ [{ req, phase := .parsed token }] }
  | .proxy a db => (p.step db a).map (·.proxy)
  | .removeClosed token => some (p.removeClosed token)
  | .invalidate token => some (p.invalidate token)
  | .close d => (p.dispatchers[d]?).map fun disp => p.setDispatcher d { disp with phase := .ended }

def Proxy.requestToken (p : Proxy) (r : Nat) : Option String :=
  (p.requests[r]?).bind (·.phase.token)

/-- The token that the operation of an action is on. -/
def CacheAction.token (p : Proxy) : CacheAction → Option String
  | .proxy (.lookup r) _ | .proxy (.storeLookup r _) _ | .proxy (.lookupOrInsert r) _
  | .proxy (.enqueue r) _ | .proxy (.requestDropped r) _ => p.requestToken r
  | .removeClosed token | .invalidate token => some token
  | _ => none

/-- A call of senderFor for a token returns a sender of a channel in this step. -/
def Returns (p p' : Proxy) (token : String) (d : Nat) : Prop :=
  ∃ (r : Nat) (req : Request), p'.requests[r]? = some { req, phase := .holding token d } ∧
    (p.requests[r]? = some { req, phase := .parsed token } ∨
      p.requests[r]? = some { req, phase := .found token })

/-- The step neither removes the entry of the token nor closes the channel. -/
def Keeps (token : String) (d : Nat) (p : Proxy) (a : CacheAction) : Prop :=
  ∀ p', cacheStep p a = some p' →
    ((p.connections.lookup token).isSome → (p'.connections.lookup token).isSome) ∧
      (p.isClosed d = false → p'.isClosed d = false)

/-- The dispatchers ever spawned for a token. -/
def Proxy.spawned (p : Proxy) (token : String) : Nat := (p.dispatchers.map (·.token)).count token

/-- The step removes the entry of the token. -/
def removesEntry (token : String) (p : Proxy) (a : CacheAction) : Bool :=
  (p.connections.lookup token).isSome &&
    (cacheStep p a).any fun p' => (p'.connections.lookup token).isNone

/-- The step looks the token up and finds its entry closed. -/
def findsClosed (token : String) (p : Proxy) : CacheAction → Bool
  | .proxy (.lookup r) _ | .proxy (.lookupOrInsert r) _ =>
    p.requestToken r = some token && (p.connections.lookup token).any p.isClosed
  | _ => false

def lost (token : String) (p : Proxy) (a : CacheAction) : Nat :=
  if removesEntry token p a || findsClosed token p a then 1 else 0

/-- How often along a run the entry was removed or found closed. -/
def losses (token : String) : Proxy → List CacheAction → Nat
  | _, [] => 0
  | p, a :: as => lost token p a + (cacheStep p a).elim 0 fun p' => losses token p' as

/-- The call has found a row with the token. -/
def FoundRow (as : List CacheAction) (r : Nat) (token : String) : Prop :=
  ∃ before db after, as = before ++ .proxy (.storeLookup r true) db :: after ∧
    ∃ row ∈ db.rows, row.token = token

/-- What one step does to the entries and the channels. -/
inductive CacheMove (p : Proxy) (a : CacheAction) (p' : Proxy) : Prop where
  | kept (connections : p'.connections = p.connections)
      (tokens : p'.dispatchers.map (·.token) = p.dispatchers.map (·.token))
  | inserted (r : Nat) (req : Request) (token : String) (db : Db)
      (act : a = .proxy (.lookupOrInsert r) db)
      (at_r : p.requests[r]? = some { req, phase := .found token })
      (absent : p.openSender token = none)
      (connections : p'.connections = p.connections.insert token p.dispatchers.length)
      (tokens : p'.dispatchers.map (·.token) = p.dispatchers.map (·.token) ++ [token])
  | erased (token : String) (owner : a.token p = some token)
      (connections : p'.connections = p.connections.erase token)
      (tokens : p'.dispatchers.map (·.token) = p.dispatchers.map (·.token))

section
variable {db : Db} {p p' : Proxy} {a : CacheAction}

theorem enqueue_connections {r : Nat} {outcome : ProxyOutcome}
    (h : p.step db (.enqueue r) = some outcome) :
    outcome.proxy.connections = p.connections ∨ ∃ req token d,
      p.requests[r]? = some { req, phase := .holding token d } ∧
        outcome.proxy.connections = p.connections.erase token := by
  simp only [Proxy.step] at h
  split at h
  · rename_i req token d at_r
    split at h
    · split at h
      · cases h
        rcases remove_closed_connections p token with same | erased
        · exact Or.inl same
        · exact Or.inr ⟨req, token, d, at_r, erased⟩
      · cases h
        exact Or.inl rfl
    · simp at h
  · simp at h

theorem proxy_tokens {act : ProxyAction} {outcome : ProxyOutcome}
    (h : p.step db act = some outcome) (spawns : ∀ r, act ≠ .lookupOrInsert r) :
    outcome.proxy.dispatchers.map (·.token) = p.dispatchers.map (·.token) := by
  rcases step_dispatchers h with same | ⟨r, _, _, rfl, _⟩ | ⟨d, disp, disp', at_d, set, move⟩
  · rw [same]
  · exact absurd rfl (spawns r)
  · rw [set]
    exact Tasks.map_changed (·.token) at_d (move_token move)

theorem cache_move (h : cacheStep p a = some p') : CacheMove p a p' := by
  cases a with
  | call req token =>
    cases h
    exact .kept rfl rfl
  | removeClosed token =>
    cases h
    rcases remove_closed_connections p token with same | erased
    · exact .kept same (by simp)
    · exact .erased token rfl erased (by simp)
  | invalidate token =>
    cases h
    exact .erased token rfl rfl rfl
  | close d =>
    obtain ⟨disp, at_d, rfl⟩ := Option.map_eq_some_iff.mp h
    have same : ({ disp with phase := .ended } : Dispatcher).token = disp.token := rfl
    exact .kept rfl (Tasks.map_changed (·.token) at_d same)
  | proxy act db =>
    obtain ⟨outcome, step, rfl⟩ := Option.map_eq_some_iff.mp h
    cases act with
    | lookupOrInsert r =>
      cases proxy_step step with
      | joined r req token d at_r cached => exact .kept rfl rfl
      | spawned r req token at_r absent =>
        exact .inserted r req token db rfl at_r absent rfl
          (by simp [Proxy.setPhase, Proxy.insertDispatcher])
    | enqueue r =>
      have tokens := proxy_tokens step (by simp)
      rcases enqueue_connections step with same | ⟨req, token, d, at_r, erased⟩
      · exact .kept same tokens
      · exact .erased token (by simp [CacheAction.token, Proxy.requestToken, at_r,
          RequestPhase.token]) erased tokens
    | _ =>
      have tokens := proxy_tokens step (by simp)
      refine .kept ?_ tokens
      cases proxy_step step <;> rfl

/-- An entry whose channel is open is never overwritten. -/
theorem open_entry_kept (h : cacheStep p a = some p') {token : String} {d e : Nat}
    (cached : p.connections.lookup token = some d) (isOpen : p.isClosed d = false)
    (after : p'.connections.lookup token = some e) : e = d := by
  have sender : p.openSender token = some d := by simp [Proxy.openSender, cached, isOpen]
  cases cache_move h with
  | kept connections tokens =>
    rw [connections, cached] at after
    exact (Option.some.inj after).symm
  | inserted r req other db act at_r absent connections tokens =>
    by_cases same : token = other
    · subst same
      rw [sender] at absent
      simp at absent
    · rw [connections, AList.lookup_insert_ne same, cached] at after
      exact (Option.some.inj after).symm
  | erased other owner connections tokens =>
    by_cases same : token = other
    · subst same
      simp [connections, AList.lookup_erase] at after
    · rw [connections, AList.lookup_erase_ne same, cached] at after
      exact (Option.some.inj after).symm

/-- An operation leaves the entries of all other tokens alone. -/
theorem other_entries_kept (h : cacheStep p a = some p') {token : String}
    (other : a.token p ≠ some token) :
    p'.connections.lookup token = p.connections.lookup token := by
  cases cache_move h with
  | kept connections tokens => rw [connections]
  | inserted r req own db act at_r absent connections tokens =>
    have foreign : token ≠ own := by
      intro same
      subst same
      exact other (by simp [act, CacheAction.token, Proxy.requestToken, at_r, RequestPhase.token])
    rw [connections, AList.lookup_insert_ne foreign]
  | erased own owner connections tokens =>
    have foreign : token ≠ own := by
      intro same
      subst same
      exact other owner
    rw [connections, AList.lookup_erase_ne foreign]

/-- A new entry belongs to the call that inserts it. -/
theorem new_entry (h : cacheStep p a = some p') {token : String} {d : Nat}
    (new : p.connections.lookup token ≠ some d) (after : p'.connections.lookup token = some d) :
    ∃ r req db, a = .proxy (.lookupOrInsert r) db ∧
      p.requests[r]? = some { req, phase := .found token } := by
  cases cache_move h with
  | kept connections tokens =>
    rw [connections] at after
    exact absurd after new
  | inserted r req own db act at_r absent connections tokens =>
    by_cases same : token = own
    · subst same
      exact ⟨r, req, db, act, at_r⟩
    · rw [connections, AList.lookup_insert_ne same] at after
      exact absurd after new
  | erased own owner connections tokens =>
    by_cases same : token = own
    · subst same
      simp [connections, AList.lookup_erase] at after
    · rw [connections, AList.lookup_erase_ne same] at after
      exact absurd after new

/- Returned channels. -/

theorem open_sender_open {token : String} {d : Nat} (h : p.openSender token = some d) :
    p.isClosed d = false := by
  simpa using (Option.filter_eq_some_iff.mp h).2

/-- A look changes neither the entries nor the channels. -/
theorem look_keeps {r d : Nat} {token : String} {req : Request} {act : ProxyAction}
    {outcome : ProxyOutcome} (h : p.step db act = some outcome)
    (look : act = .lookup r ∨ act = .lookupOrInsert r ∧
      p.requests[r]? = some { req, phase := .found token })
    (cached : p.openSender token = some d) :
    outcome.proxy.connections = p.connections ∧ outcome.proxy.dispatchers = p.dispatchers := by
  rcases look with rfl | ⟨rfl, at_r⟩
  · cases proxy_step h <;> exact ⟨rfl, rfl⟩
  · cases proxy_step h with
    | joined _ req' token' d' at_r' cached' => exact ⟨rfl, rfl⟩
    | spawned _ req' token' at_r' absent =>
      cases at_r.symm.trans at_r'
      rw [cached] at absent
      simp at absent

theorem looked_up {outcome : ProxyOutcome} {token : String} {d : Nat}
    (same : outcome.proxy.connections = p.connections ∧ outcome.proxy.dispatchers = p.dispatchers)
    (cached : p.openSender token = some d) :
    outcome.proxy.connections.lookup token = some d ∧ outcome.proxy.isClosed d = false := by
  constructor
  · rw [same.1]
    exact open_sender_cached cached
  · unfold Proxy.isClosed
    rw [same.2]
    exact open_sender_open cached

/-- A returned sender is the one of the entry, and its channel is open. -/
theorem returned_entry {token : String} {d : Nat} (h : cacheStep p a = some p')
    (returned : Returns p p' token d) :
    p'.connections.lookup token = some d ∧ p'.isClosed d = false := by
  obtain ⟨r, req, after, before⟩ := returned
  have unchanged : p'.requests[r]? ≠ p.requests[r]? := by
    intro same
    rw [same] at after
    rcases before with parsed | found
    · simp [parsed] at after
    · simp [found] at after
  cases a with
  | call _ _ =>
    cases h
    have bound : r < p.requests.length := by
      rcases before with parsed | found
      · exact (List.getElem?_eq_some_iff.mp parsed).1
      · exact (List.getElem?_eq_some_iff.mp found).1
    exact absurd (List.getElem?_append_left bound) unchanged
  | removeClosed other =>
    cases h
    simp at unchanged
  | invalidate other =>
    cases h
    exact absurd rfl unchanged
  | close e =>
    obtain ⟨disp, at_e, rfl⟩ := Option.map_eq_some_iff.mp h
    exact absurd rfl unchanged
  | proxy act db =>
    obtain ⟨outcome, step, rfl⟩ := Option.map_eq_some_iff.mp h
    rcases step_request step after with old | ⟨_, _, arrived⟩ | ⟨task, old, same, move⟩
    · exact absurd (after.trans old.symm) unchanged
    · rcases arrived with ⟨_, _, phase⟩ | ⟨_, _, phase⟩
      · simp at phase
      · simp at phase
    · cases move with
      | hit _ _ phase cached =>
        exact looked_up (@look_keeps _ _ _ _ _ req _ _ step (Or.inl rfl) cached) cached
      | joined _ _ phase cached =>
        have at_r : p.requests[r]? = some { req := task.req, phase := .found token } := by
          rw [old, ← phase]
        exact looked_up (look_keeps step (Or.inr ⟨rfl, at_r⟩) cached) cached
      | spawned _ phase absent =>
        cases proxy_step step with
        | joined _ req' token' d' at_r' cached' =>
          cases old.symm.trans at_r'
          cases phase
          rw [cached'] at absent
          simp at absent
        | spawned _ req' token' at_r' absent' =>
          cases old.symm.trans at_r'
          cases phase
          simp [Proxy.setPhase, Proxy.insertDispatcher, Proxy.isClosed]

theorem entry_run {token : String} {d : Nat} {as : List CacheAction}
    (cached : p.connections.lookup token = some d ∧ p.isClosed d = false)
    (keeps : Along cacheStep (Keeps token d) p as) (run : exec cacheStep p as = some p') :
    p'.connections.lookup token = some d ∧ p'.isClosed d = false := by
  let inv : Proxy → Prop := fun q => q.connections.lookup token = some d ∧ q.isClosed d = false
  have pres : Preserves cacheStep (Keeps token d) inv := by
    intro q b q' before keep step
    have kept := keep q' step
    obtain ⟨e, after⟩ := Option.isSome_iff_exists.mp (kept.1 (by simp [before.1]))
    have same := open_entry_kept step before.1 before.2 after
    exact ⟨same ▸ after, kept.2 before.2⟩
  exact invariant_run pres cached keeps run

/-- Two calls that return with the entry kept and its channel open in between return the
same channel. -/
theorem same_channel {token : String} {d e : Nat} {b : CacheAction} {p₁ p₂ p₃ : Proxy}
    {bs : List CacheAction} (first : cacheStep p a = some p₁) (returned : Returns p p₁ token d)
    (keeps : Along cacheStep (Keeps token d) p₁ bs) (run : exec cacheStep p₁ bs = some p₂)
    (second : cacheStep p₂ b = some p₃) (again : Returns p₂ p₃ token e) : e = d := by
  have between := entry_run (returned_entry first returned) keeps run
  exact open_entry_kept second between.1 between.2 (returned_entry second again).1

/- Counting the dispatchers of a token. -/

def Proxy.present (p : Proxy) (token : String) : Nat :=
  if (p.connections.lookup token).isSome then 1 else 0

theorem spawned_step (h : cacheStep p a = some p') (token : String) :
    p'.spawned token + p.present token ≤
      p.spawned token + lost token p a + p'.present token := by
  cases cache_move h with
  | kept connections tokens =>
    unfold Proxy.spawned Proxy.present
    rw [connections, tokens]
    omega
  | inserted r req own db act at_r absent connections tokens =>
    unfold Proxy.spawned
    rw [tokens, List.count_append]
    by_cases same : own = token
    · subst same
      have present : p'.present own = 1 := by simp [Proxy.present, connections]
      cases cached : p.connections.lookup own with
      | none =>
        have before : p.present own = 0 := by simp [Proxy.present, cached]
        simp only [List.count_singleton_self]
        omega
      | some e =>
        have shut : p.isClosed e = true := by
          by_contra isOpen
          rw [Bool.not_eq_true] at isOpen
          simp [Proxy.openSender, cached, isOpen] at absent
        have before : p.present own = 1 := by simp [Proxy.present, cached]
        have found : lost own p a = 1 := by
          simp [lost, findsClosed, act, Proxy.requestToken, at_r, RequestPhase.token, cached, shut]
        simp only [List.count_singleton_self]
        omega
    · have kept : p'.present token = p.present token := by
        unfold Proxy.present
        rw [connections, AList.lookup_insert_ne (Ne.symm same)]
      have none : [own].count token = 0 := by simp [same]
      omega
  | erased own owner connections tokens =>
    unfold Proxy.spawned
    rw [tokens]
    by_cases same : own = token
    · subst same
      cases cached : p.connections.lookup own with
      | none =>
        have before : p.present own = 0 := by simp [Proxy.present, cached]
        omega
      | some e =>
        have before : p.present own = 1 := by simp [Proxy.present, cached]
        have removed : lost own p a = 1 := by
          simp [lost, removesEntry, cached, h, connections, AList.lookup_erase]
        omega
    · have kept : p'.present token = p.present token := by
        unfold Proxy.present
        rw [connections, AList.lookup_erase_ne (Ne.symm same)]
      omega

theorem spawned_run (token : String) {as : List CacheAction} (run : exec cacheStep p as = some p') :
    p'.spawned token + p.present token ≤
      p.spawned token + losses token p as + p'.present token := by
  induction as generalizing p with
  | nil =>
    cases run
    simp [losses]
  | cons b as ih =>
    obtain ⟨q, step, rest⟩ := exec_cons.mp run
    have first := spawned_step step token
    have later := ih rest
    simp only [losses, step, Option.elim_some]
    omega

/- Rows behind insertions. -/

/-- The store lookup of a call passes exactly with a row of the token. -/
theorem store_lookup_result {r : Nat} {req : Request} {token : String} {stored : Bool}
    {outcome : ProxyOutcome} (h : p.step db (.storeLookup r stored) = some outcome)
    (at_r : p.requests[r]? = some { req, phase := .missed token }) :
    (stored = true ∧ (∃ row ∈ db.rows, row.token = token) ∧
        outcome.proxy.requests[r]? = some { req, phase := .found token }) ∨
      ((stored = true → ∀ row ∈ db.rows, row.token ≠ token) ∧
        ∃ error, outcome.proxy.requests[r]? = some { req, phase := .answered (.error error) }) := by
  simp only [Proxy.step, at_r] at h
  split at h
  · rename_i answered
    cases first : db.first (fun row => row.token = token) with
    | some row =>
      obtain ⟨member, owner⟩ := Table.first_some first
      rw [first] at h
      cases h
      exact Or.inl ⟨answered, ⟨row, member, by simpa using owner⟩, by simp [Proxy.setPhase, at_r]⟩
    | none =>
      rw [first] at h
      cases h
      refine Or.inr ⟨fun _ row member => ?_, .applicationNotFound, by simp [Proxy.setPhase, at_r]⟩
      simpa using List.find?_eq_none.mp first row member
  · rename_i failed
    cases h
    exact Or.inr ⟨fun answered => absurd answered failed, _, by simp [Proxy.setPhase, at_r]; rfl⟩

/-- A call is past its lookup only because that found a row. -/
theorem found_step (h : cacheStep p a = some p') {r : Nat} {task' : RequestTask} {token : String}
    (there : p'.requests[r]? = some task') (found : task'.phase = .found token) :
    (∃ task, p.requests[r]? = some task ∧ task.phase = .found token) ∨
      ∃ db, a = .proxy (.storeLookup r true) db ∧ ∃ row ∈ db.rows, row.token = token := by
  cases a with
  | call req other =>
    cases h
    rcases Tasks.at_spawned there with ⟨_, rfl⟩ | old
    · simp at found
    · exact Or.inl ⟨task', old, found⟩
  | removeClosed other =>
    cases h
    exact Or.inl ⟨task', by simpa using there, found⟩
  | invalidate other =>
    cases h
    exact Or.inl ⟨task', there, found⟩
  | close d =>
    obtain ⟨disp, _, rfl⟩ := Option.map_eq_some_iff.mp h
    exact Or.inl ⟨task', there, found⟩
  | proxy act db =>
    obtain ⟨outcome, step, rfl⟩ := Option.map_eq_some_iff.mp h
    rcases step_request step there with old | ⟨_, _, arrived⟩ | ⟨task, old, _, move⟩
    · exact Or.inl ⟨task', old, found⟩
    · rcases arrived with ⟨_, _, phase⟩ | ⟨_, _, phase⟩
      · simp [phase] at found
      · simp [phase] at found
    · rw [found] at move
      cases move with
      | found _ stored missed =>
        have at_r : p.requests[r]? = some { req := task.req, phase := .missed token } := by
          rw [old, ← missed]
        rcases store_lookup_result step at_r with ⟨rfl, row, _⟩ | ⟨_, error, answered⟩
        · exact Or.inr ⟨db, rfl, row⟩
        · cases there.symm.trans answered
          simp at found

theorem found_run {as : List CacheAction} (run : exec cacheStep {} as = some p) {r : Nat}
    {task : RequestTask} {token : String} (there : p.requests[r]? = some task)
    (found : task.phase = .found token) : FoundRow as r token := by
  let holds : List CacheAction → Proxy → Prop := fun as p => ∀ (r : Nat) task token,
    p.requests[r]? = some task → task.phase = .found token → FoundRow as r token
  have first : holds [] {} := by
    intro r task token there
    simp at there
  have one : ∀ as q b q', exec cacheStep {} as = some q → holds as q → True →
      cacheStep q b = some q' → holds (as ++ [b]) q' := by
    intro as q b q' _ before _ step r task token there found
    rcases found_step step there found with ⟨old, at_r, phase⟩ | ⟨db, rfl, row⟩
    · obtain ⟨front, db, back, rfl, row⟩ := before r old token at_r phase
      exact ⟨front, db, back ++ [b], by simp, row⟩
    · exact ⟨as, db, [], rfl, row⟩
  exact past_induction first one along_true run r task token there found

/-- What every step obeys. -/
structure CacheLaws (as : List CacheAction) (p p' : Proxy) (a : CacheAction) : Prop where
  open_kept : ∀ token d e, p.connections.lookup token = some d → p.isClosed d = false →
    p'.connections.lookup token = some e → e = d
  others_kept : ∀ token, a.token p ≠ some token →
    p'.connections.lookup token = p.connections.lookup token
  inserted : ∀ token d, p.connections.lookup token ≠ some d →
    p'.connections.lookup token = some d →
      ∃ r db, a = .proxy (.lookupOrInsert r) db ∧ p.requestToken r = some token ∧
        FoundRow as r token
  unknown : ∀ (r : Nat) req token stored db, a = .proxy (.storeLookup r stored) db →
    p.requests[r]? = some { req, phase := .missed token } → (∀ row ∈ db.rows, row.token ≠ token) →
      ∃ error, p'.requests[r]? = some { req, phase := .answered (.error error) }

theorem cache_laws {as : List CacheAction} (run : exec cacheStep {} as = some p)
    (h : cacheStep p a = some p') : CacheLaws as p p' a := by
  constructor
  · intro token d e cached isOpen after
    exact open_entry_kept h cached isOpen after
  · intro token other
    exact other_entries_kept h other
  · intro token d new after
    obtain ⟨r, req, db, act, at_r⟩ := new_entry h new after
    exact ⟨r, db, act, by simp [Proxy.requestToken, at_r, RequestPhase.token],
      found_run run at_r rfl⟩
  · intro r req token stored db act at_r absent
    subst act
    obtain ⟨outcome, step, rfl⟩ := Option.map_eq_some_iff.mp h
    rcases store_lookup_result step at_r with ⟨_, ⟨row, member, owner⟩, _⟩ | ⟨_, error, answered⟩
    · exact absurd owner (absent row member)
    · exact ⟨error, answered⟩

/-- In every interleaving: an open entry is not overwritten, an operation leaves other
tokens alone and inserts only after it has found a row; between a removal or a closing
and the next, all calls return one channel and one dispatcher is spawned. -/
theorem one_dispatcher_per_token {as : List CacheAction} (run : exec cacheStep {} as = some p) :
    (∀ a p', cacheStep p a = some p' → CacheLaws as p p' a) ∧
    (∀ token, p.spawned token ≤ 1 + losses token {} as) ∧
    ∀ token d e a p₁ bs p₂ b p₃, cacheStep p a = some p₁ → Returns p p₁ token d →
      exec cacheStep p₁ bs = some p₂ → Along cacheStep (Keeps token d) p₁ bs →
        cacheStep p₂ b = some p₃ → Returns p₂ p₃ token e → e = d := by
  refine ⟨fun a p' h => cache_laws run h, fun token => ?_, ?_⟩
  · have counted := spawned_run token run
    have bound : p.present token ≤ 1 := by
      unfold Proxy.present
      split <;> omega
    have none : ({} : Proxy).spawned token = 0 := rfl
    omega
  · intro token d e a p₁ bs p₂ b p₃ first returned between keeps second again
    exact same_channel first returned keeps between second again

end

def cachedRequest : Request := { headers := [], pathAndQuery := none }

def cachedDb : Db := Db.new.exec (.createInsert "alice" none "token-a" 0)

/-- Two calls are between their looks at once; a third one comes after an invalidation. -/
def racingCalls : List CacheAction :=
  [.call cachedRequest "token-a", .call cachedRequest "token-a", .call cachedRequest "token-a",
   .proxy (.lookup 0) cachedDb, .proxy (.lookup 1) cachedDb,
   .proxy (.storeLookup 0 true) cachedDb, .proxy (.storeLookup 1 true) cachedDb,
   .proxy (.lookupOrInsert 0) cachedDb, .proxy (.lookupOrInsert 1) cachedDb,
   .invalidate "token-a", .proxy (.lookup 2) cachedDb, .proxy (.storeLookup 2 true) cachedDb,
   .proxy (.lookupOrInsert 2) cachedDb]

theorem racing_calls_share : ∃ p, exec cacheStep {} racingCalls = some p ∧
    p.requests.map (·.phase) =
      [.holding "token-a" 0, .holding "token-a" 0, .holding "token-a" 1] ∧
    p.spawned "token-a" = 2 ∧ losses "token-a" {} racingCalls = 1 ∧
    p.spawned "token-a" ≤ 1 + losses "token-a" {} racingCalls := by
  have computed : (exec cacheStep {} racingCalls).any (fun p =>
      p.requests.map (·.phase) =
        [.holding "token-a" 0, .holding "token-a" 0, .holding "token-a" 1] &&
      p.spawned "token-a" = 2) = true := by decide
  obtain ⟨p, run, facts⟩ := computed_run computed
  simp only [Bool.and_eq_true, decide_eq_true_eq] at facts
  exact ⟨p, run, facts.1, facts.2, by decide, (one_dispatcher_per_token run).2.1 "token-a"⟩

/- The steps of the server on the cache are such steps. -/

/-- Every run of one server process drives its cache along a run of cache steps. -/
theorem world_run_cache {db : Db} {as : List Action} {w : World}
    (run : exec World.step (.start db) as = some w) (running : Action.restart ∉ as) :
    ∃ bs, exec cacheStep {} bs = some w.proxy := by
  refine world_run_proxy ?_ ?_ run running
  · intro p token
    exact ⟨.invalidate token, rfl⟩
  · intro db p act outcome step
    exact ⟨.proxy act db, by simp [cacheStep, step]⟩

end SparkPlug
