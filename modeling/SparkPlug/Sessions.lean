import SparkPlug.Routing

/-!
Facts that tie tokens, rows, calls and requests together in every run in which no
token is drawn twice. The results on the end of a session rest on them.
-/
namespace SparkPlug
open KeyedTable Runs

/-- Rows and pending deletes are named by their tokens. -/
structure Named (w : World) : Prop where
  issued : ∀ r ∈ w.db.rows, r.token ∈ w.issued
  distinct : TokensDistinct w.db
  reads : ∀ i username address token,
    DeleteApp.read i username address token ∈ w.routes.deletes →
      token ∈ w.issued ∧ ∀ r ∈ w.db.rows, r.token = token → r.id = i ∧ r.username = username

/-- Every message, every forwarded request and every awaited response belongs to a
request that has arrived. -/
structure Accounted (p : Proxy) : Prop where
  messages : ∀ disp ∈ p.dispatchers, ∀ msg ∈ disp.messages,
    ∃ task, p.requests[msg.request]? = some task ∧ task.req = msg.req
  sent : ∀ f ∈ p.sent, ∃ task, p.requests[f.request]? = some task ∧ task.req = f.req
  responses : ∀ r ∈ p.responses, ∃ f ∈ p.sent, f.request = r

theorem issued_grows {w w' : World} {a : Action} (h : w.step a = some w') :
    w'.issued = a.newToken.toList ++ w.issued := by
  cases a with
  | restart =>
    cases h
    rfl
  | _ =>
    obtain ⟨outcome, run, rfl⟩ := Option.map_eq_some_iff.mp h
    rfl

theorem issued_kept {w w' : World} {a : Action} (h : w.step a = some w') :
    ∀ token ∈ w.issued, token ∈ w'.issued := by
  intro token member
  rw [issued_grows h]
  exact List.mem_append_right _ member

/-- A delete is about to update only what it has read from a row. -/
theorem read_origin {db : Db} {s : Routes} {a : RoutesAction} {outcome : RoutesOutcome}
    (h : s.step db a = some outcome) {i : Int} {username token : String} {address : Option String}
    (there : .read i username address token ∈ outcome.routes.deletes) :
    .read i username address token ∈ s.deletes ∨
      ∃ r ∈ db.rows, r.id = i ∧ r.username = username ∧ r.address = address ∧ r.token = token := by
  have changed : ∀ n new, outcome.routes.deletes = s.deletes.set n new →
      .read i username address token ≠ new → .read i username address token ∈ s.deletes := by
    intro n new set other
    rw [set] at there
    rcases List.mem_or_eq_of_mem_set there with old | same
    · exact old
    · exact absurd same other
  cases routes_step h with
  | read appId user stored =>
    rcases List.mem_append.mp there with old | new
    · exact Or.inl old
    · have read := List.mem_singleton.mp new
      unfold DeleteApp.afterRead at read
      split at read
      · split at read
        · rename_i app found
          obtain ⟨member, owner⟩ := Table.first_some found
          simp only [Bool.and_eq_true, decide_eq_true_eq] at owner
          simp only [DeleteApp.read.injEq] at read
          refine Or.inr ⟨app, member, ?_, ?_, read.2.2.1.symm, read.2.2.2.symm⟩
          · rw [owner.2, read.1]
          · rw [owner.1, read.2.1]
        · simp at read
      · simp at read
  | marked n appId user found token' at_n =>
    refine Or.inl (changed n _ rfl ?_)
    cases found <;> simp [DeleteApp.afterUpdate]
  | updateRefused n => exact Or.inl (changed n _ rfl (by simp))
  | stopped n delivered found token' at_n => exact Or.inl (changed n _ rfl (by simp))
  | invalidated n token' result at_n => exact Or.inl (changed n _ rfl (by simp))
  | dropped n => exact Or.inl (changed n _ rfl (by simp))
  | _ => exact Or.inl there

theorem read_step {w w' : World} {a : Action} (h : w.step a = some w') {i : Int}
    {username token : String} {address : Option String}
    (there : .read i username address token ∈ w'.routes.deletes) :
    .read i username address token ∈ w.routes.deletes ∨
      ∃ r ∈ w.db.rows, r.id = i ∧ r.username = username ∧ r.address = address ∧
        r.token = token := by
  cases a with
  | routes act =>
    obtain ⟨outcome, run, rfl⟩ := Option.map_eq_some_iff.mp h
    exact read_origin run there
  | check act =>
    obtain ⟨outcome, run, rfl⟩ := Option.map_eq_some_iff.mp h
    exact Or.inl there
  | proxy act =>
    obtain ⟨outcome, run, rfl⟩ := Option.map_eq_some_iff.mp h
    exact Or.inl there
  | restart =>
    cases h
    simp at there

theorem named_step {w w' : World} {a : Action} (before : Named w) (fresh : DrawsFresh w a)
    (h : w.step a = some w') : Named w' := by
  constructor
  · intro r' member
    rw [issued_grows h]
    rcases step_row_origin h member with ⟨r, stored, _, _, same⟩ | ⟨drawn, _, _⟩
    · rw [← same]
      exact List.mem_append_right _ (before.issued r stored)
    · simp [drawn]
  · exact tokens_distinct_step before.distinct fresh h
  · intro i username address token there
    have named : token ∈ w.issued ∧
        ∀ r ∈ w.db.rows, r.token = token → r.id = i ∧ r.username = username := by
      rcases read_step h there with pending | ⟨r, stored, rid, user, _, tok⟩
      · exact before.reads i username address token pending
      · constructor
        · rw [← tok]
          exact before.issued r stored
        · intro s there' same
          have one := before.distinct s there' r stored (same.trans tok.symm)
          rw [Table.same_key there' stored one]
          exact ⟨rid, user⟩
    refine ⟨issued_kept h token named.1, ?_⟩
    intro r' member same
    rcases step_row_origin h member with ⟨r, stored, rid, user, tok⟩ | ⟨drawn, _, _⟩
    · have owner := named.2 r stored (tok.trans same)
      rw [← rid, ← user]
      exact owner
    · have new := (fresh _ drawn).1
      rw [same] at new
      exact absurd named.1 new

/-- An update that finishes each row of a token leaves the token with finished rows. -/
theorem finished_step {w w' : World} {a : Action} {st : Statement} {token : String}
    (issued : w.statement a = some st)
    (row : ∀ r ∈ w.db.rows, r.token = token →
      st.row r = some { r with address := none, state := .finished })
    (update : a.newToken = none) (h : w.step a = some w') :
    ∀ r' ∈ w'.db.rows, r'.token = token → r'.state = .finished := by
  intro r' member same
  rcases step_rows h member with ⟨none, _⟩ | ⟨st', issued', ⟨r, stored, kept⟩ | new⟩
  · simp [none] at issued
  · obtain rfl := Option.some.inj (issued.symm.trans issued')
    have owner := (Statement.row_owner kept).2
    rw [row r stored (owner.symm.trans same)] at kept
    cases kept
    rfl
  · obtain ⟨_, _, _, _, rfl, rfl⟩ := new
    obtain rfl := statement_insert issued'
    simp [Action.newToken] at update

theorem delete_finishes {w w' : World} {n : Nat} {i : Int} {username token : String}
    {address : Option String} (named : Named w)
    (read : w.routes.deletes[n]? = some (.read i username address token))
    (h : w.step (.routes (.deleteUpdate n true)) = some w') :
    ∀ r' ∈ w'.db.rows, r'.token = token → r'.state = .finished := by
  have issued : w.statement (.routes (.deleteUpdate n true)) = some (.deleteApp i username) := by
    simp [World.statement, Routes.step, read]
  refine finished_step issued ?_ rfl h
  intro r stored same
  have owner := (named.reads i username address token (List.mem_of_getElem? read)).2 r stored same
  simp [Statement.row, Statement.filter, Statement.set, owner]

theorem callback_delete_finishes {w w' : World} {token sender : String}
    (h : w.step (.routes (.appCallbackDelete token sender true)) = some w') :
    ∀ r' ∈ w'.db.rows, r'.token = token → r'.state = .finished := by
  have issued : w.statement (.routes (.appCallbackDelete token sender true)) =
      some (.appCallbackDelete token) := by
    simp [World.statement, Routes.step]
  refine finished_step issued ?_ rfl h
  intro r stored same
  simp [Statement.row, Statement.filter, Statement.set, same]

section
variable {db : Db} {p : Proxy} {a : ProxyAction} {outcome : ProxyOutcome}

/-- A request never goes away, and its headers do not change. -/
theorem request_kept (h : p.step db a = some outcome) {r : Nat} {task : RequestTask}
    (there : p.requests[r]? = some task) :
    ∃ task', outcome.proxy.requests[r]? = some task' ∧ task'.req = task.req := by
  have bound := (List.getElem?_eq_some_iff.mp there).1
  have more := requests_length h
  have after : outcome.proxy.requests[r]? = some outcome.proxy.requests[r] := by
    simp
  rcases step_request h after with old | ⟨last, _, _⟩ | ⟨before, old, same, _⟩
  · obtain rfl := Option.some.inj (there.symm.trans old)
    exact ⟨_, after, rfl⟩
  · omega
  · obtain rfl := Option.some.inj (there.symm.trans old)
    exact ⟨_, after, same⟩

theorem accounted_step (before : Accounted p) (h : p.step db a = some outcome) :
    Accounted outcome.proxy := by
  have later : ∀ (r : Nat) (req : Request), (∃ task, p.requests[r]? = some task ∧ task.req = req) →
      ∃ task, outcome.proxy.requests[r]? = some task ∧ task.req = req := by
    intro r req known
    obtain ⟨task, there, rfl⟩ := known
    exact request_kept h there
  constructor
  · intro disp' member msg queued
    apply later
    obtain ⟨d, there⟩ := List.mem_iff_getElem?.mp member
    rcases dispatcher_origin h there with old | ⟨_, _, _, _, _, _, _, rfl⟩ | ⟨disp, old, move⟩
    · exact before.messages disp' (List.mem_of_getElem? old) msg queued
    · simp [Dispatcher.messages, DispatcherPhase.message] at queued
    · rcases message_move move queued with held | ⟨r, req, token, rfl, holding, rfl⟩
      · exact before.messages disp (List.mem_of_getElem? old) msg held
      · exact ⟨_, holding, rfl⟩
  · intro f member
    apply later
    rcases step_sent h with ⟨same, _⟩ | ⟨d, disp, msg, address, _, at_d, phase, _, sent, _⟩
    · rw [same] at member
      exact before.sent f member
    · rw [sent] at member
      rcases List.mem_append.mp member with old | new
      · exact before.sent f old
      · obtain rfl := List.mem_singleton.mp new
        have handled : msg ∈ disp.messages := by
          simp [Dispatcher.messages, DispatcherPhase.message, phase]
        exact before.messages disp (List.mem_of_getElem? at_d) msg handled
  · intro r member
    rcases step_sent h with ⟨same, fewer⟩ | ⟨d, disp, msg, address, _, _, _, _, sent, responses⟩
    · rw [same]
      exact before.responses r (fewer r member)
    · rw [responses] at member
      rw [sent]
      rcases List.mem_append.mp member with old | new
      · obtain ⟨f, there, same⟩ := before.responses r old
        exact ⟨f, List.mem_append_left _ there, same⟩
      · exact ⟨_, List.mem_append_right _ (List.mem_singleton.mpr rfl),
          (List.mem_singleton.mp new).symm⟩

end

/-- The facts about a state of a run, `as` being the actions taken so far. -/
structure Sound (as : List Action) (w : World) : Prop where
  run : exec World.step (.start .new) as = some w
  named : Named w
  accounted : Accounted w.proxy

theorem sound_step {as : List Action} {w w' : World} {a : Action} (before : Sound as w)
    (fresh : DrawsFresh w a) (h : w.step a = some w') : Sound (as ++ [a]) w' := by
  constructor
  · exact exec_snoc.mpr ⟨w, before.run, h⟩
  · exact named_step before.named fresh h
  · cases a with
    | proxy act =>
      obtain ⟨outcome, run, rfl⟩ := Option.map_eq_some_iff.mp h
      exact accounted_step before.accounted run
    | routes act =>
      obtain ⟨outcome, run, rfl⟩ := Option.map_eq_some_iff.mp h
      cases outcome.invalidate with
      | none => exact before.accounted
      | some token =>
        exact ⟨before.accounted.messages, before.accounted.sent, before.accounted.responses⟩
    | check act =>
      obtain ⟨outcome, run, rfl⟩ := Option.map_eq_some_iff.mp h
      exact before.accounted
    | restart =>
      cases h
      constructor <;> simp

theorem sound_run {as : List Action} {w : World}
    (fresh : Along World.step DrawsFresh (.start .new) as)
    (run : exec World.step (.start .new) as = some w) : Sound as w := by
  have first : Sound [] (.start .new) := by
    constructor
    · rfl
    · constructor <;> simp [World.start, Db.new, Table.empty, TokensDistinct]
    · constructor <;> simp [World.start]
  exact past_induction first (fun _ _ _ _ _ before fresh h => sound_step before fresh h) fresh run

end SparkPlug
