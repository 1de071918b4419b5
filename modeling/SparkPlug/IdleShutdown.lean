import SparkPlug.DriverSession
import SparkPlug.Library.IdleTimer

/-!
The timeout thread over whole schedules: what it counts as activity, when it stops the
service, and that the servers' health messages do not move it.
-/
namespace SparkPlug
open Runs IdleTimers

/-- What reaches the plugin: the actions of its driver, the calls that get as far as its
interceptor, and the servers' processing of its callbacks. -/
inductive PluginAction where
  | driver (a : DriverAction)
  | call (now : Int) (metadata : HeaderMap)
  | callbackProcessed (answer : Except StatusCode Unit)
  | callbackDeleteProcessed (answer : Except StatusCode Unit)

namespace Plugin

def step (grpc : Grpc) (d : Driver) : PluginAction → Option Driver
  | .driver a => d.step a
  | .call now metadata => some (d.interceptCall grpc now metadata).1
  | .callbackProcessed answer =>
    if d.post = .inFlight then some { d with post := .processed answer } else none
  | .callbackDeleteProcessed answer =>
    if d.delete = .inFlight then some { d with delete := .processed answer } else none

/-- When an action happens, where the plugin could read the clock. -/
def time : PluginAction → Option Int
  | .call now _ | .driver (.idlePoll now _) | .driver (.connectServiceStarted now)
  | .driver (.connectServiceEnd now) | .driver (.otherEvent now) => some now
  | _ => none

/-- A call without a session message goes on to Spark. -/
def userCall (grpc : Grpc) : PluginAction → Option Int
  | .call now metadata =>
    if (grpc.metadataGet metadata X_SPARK_PLUG).isNone then some now else none
  | _ => none

/-- The events that are handed to onOtherEvent. -/
def listenerEvent : PluginAction → Option Int
  | .driver (.connectServiceStarted now) | .driver (.connectServiceEnd now)
  | .driver (.otherEvent now) => some now
  | _ => none

def activePoll : PluginAction → Option Int
  | .driver (.idlePoll now true) => some now
  | _ => none

def inactivePoll : PluginAction → Option Int
  | .driver (.idlePoll now false) => some now
  | _ => none

/-- A health message or an unknown one. -/
def ignored (grpc : Grpc) : PluginAction → Bool
  | .call _ metadata => (grpc.metadataGet metadata X_SPARK_PLUG).any fun message => message ≠ "stop"
  | _ => false

/-- History: the times at which the timeout thread has stopped the service and returned. -/
def observeReturn (d : Driver) (a : PluginAction) (stops : List Int) : List Int :=
  match a with
  | .driver (.idlePoll now active) =>
    match d.step (.idlePoll now active) with
    | some d' => if d'.polling then stops else stops ++ [now]
    | none => stops
  | _ => stops

def timedStep (grpc : Grpc) : Driver × List Int → PluginAction → Option (Driver × List Int) :=
  withHistory (step grpc) observeReturn

/-- A driver whose plugin starts at a time. -/
def launched (token address applicationId : String) (timeout : UInt32) (start : Int) : Driver :=
  { token, address, applicationId, timeout := some timeout.toNat, lastActive := start }

variable {grpc : Grpc} {a : PluginAction} {now : Int}

theorem inactive_poll (h : inactivePoll a = some now) : a = .driver (.idlePoll now false) := by
  unfold inactivePoll at h
  split at h
  · cases h
    rfl
  · simp at h

theorem active_poll (h : activePoll a = some now) : a = .driver (.idlePoll now true) := by
  unfold activePoll at h
  split at h
  · cases h
    rfl
  · simp at h

theorem user_call (h : userCall grpc a = some now) :
    ∃ metadata, a = .call now metadata ∧ grpc.metadataGet metadata X_SPARK_PLUG = none := by
  unfold userCall at h
  split at h
  · rename_i metadata
    obtain ⟨read, eq⟩ := Option.ite_none_right_eq_some.mp h
    cases eq
    exact ⟨metadata, rfl, Option.isNone_iff_eq_none.mp read⟩
  · simp at h

theorem listener_event (h : listenerEvent a = some now) :
    a = .driver (.connectServiceStarted now) ∨ a = .driver (.connectServiceEnd now) ∨
      a = .driver (.otherEvent now) := by
  unfold listenerEvent at h
  split at h <;> simp_all

/-- The idle timer that the plugin is meant to be, in milliseconds. -/
def idleTimer (grpc : Grpc) (timeout : UInt32) : IdleTimer PluginAction where
  time := time
  activity := [userCall grpc, listenerEvent]
  busy := activePoll
  idle := inactivePoll
  limit := timeout.toNat * 1000
  waits := by omega
  clocked := by
    intro kind member a now seen
    simp only [List.mem_cons, List.not_mem_nil, or_false] at member
    rcases member with rfl | rfl | rfl
    · rw [active_poll seen, time]
    · obtain ⟨metadata, rfl, _⟩ := user_call seen
      rfl
    · rcases listener_event seen with rfl | rfl | rfl <;> rfl
  polled := by
    intro a now idle
    rw [inactive_poll idle, time]
  quiet := by
    intro a now idle kind member
    simp only [List.mem_cons, List.not_mem_nil, or_false] at member
    rw [inactive_poll idle]
    rcases member with rfl | rfl | rfl <;> rfl

/-- The plugin as the idle timer sees it. -/
def view (s : Driver × List Int) : Timer :=
  { lastActive := s.1.lastActive, armed := s.1.polling, fired := s.2 }

/-- The readings of a clock that does not go back, in milliseconds of a Long. -/
structure Schedule (start : Int) (as : List PluginAction) : Prop where
  begins : 0 ≤ start
  ordered : Ordered time start as
  readings : ∀ now ∈ as.filterMap time, now < 2 ^ 63

/- One step of the plugin is one of the timer. -/

theorem overdue_iff {timeout : UInt32} (lastActive : Int) (least : 0 ≤ now) (most : now < 2 ^ 63) :
    lastActive < toLong (now - toLong (timeout.toNat * 1000)) ↔
      timeout.toNat * 1000 < now - lastActive := by
  have bound := timeout.toNat_lt
  have wait : toLong (timeout.toNat * 1000) = timeout.toNat * 1000 := by
    apply to_long_eq <;> omega
  rw [wait, to_long_eq (by omega) (by omega)]
  omega

theorem call_activity (grpc : Grpc) (d : Driver) (now : Int) (metadata : HeaderMap) :
    (d.interceptCall grpc now metadata).1.timeout = d.timeout ∧
    (d.interceptCall grpc now metadata).1.polling = d.polling ∧
    (d.interceptCall grpc now metadata).1.lastActive =
      (userCall grpc (.call now metadata)).getD d.lastActive := by
  unfold Driver.interceptCall
  cases read : grpc.metadataGet metadata X_SPARK_PLUG with
  | none => simp [userCall, read, Driver.updateLastActive]
  | some message =>
    simp only [userCall, read, Option.isNone_some]
    split
    · simp
    · split <;> simp [Driver.stop]

theorem driver_activity {d d' : Driver} {a : DriverAction} (h : d.step a = some d')
    (other : inactivePoll (.driver a) = none) :
    d'.timeout = d.timeout ∧ d'.polling = d.polling ∧ d'.lastActive =
      ((activePoll (.driver a)).or (listenerEvent (.driver a))).getD d.lastActive := by
  cases a with
  | start | callbackRefused | callbackTimedOut | callbackDeleteDone | connectServiceStarted =>
    obtain ⟨_, eq⟩ := Option.ite_none_right_eq_some.mp h
    cases eq
    exact ⟨rfl, rfl, rfl⟩
  | callbackAnswered =>
    simp only [Driver.step] at h
    split at h
    · rename_i answer _ _
      cases h
      cases answer <;> exact ⟨rfl, rfl, rfl⟩
    · simp at h
  | connectServiceEnd now =>
    obtain ⟨_, eq⟩ := Option.ite_none_right_eq_some.mp h
    cases eq
    unfold Driver.onServiceEnd
    split <;> exact ⟨rfl, rfl, rfl⟩
  | otherEvent now =>
    obtain ⟨_, eq⟩ := Option.ite_none_left_eq_some.mp h
    cases eq
    exact ⟨rfl, rfl, rfl⟩
  | idlePoll now active =>
    cases active with
    | true =>
      simp only [Driver.step] at h
      split at h
      · obtain ⟨_, eq⟩ := Option.ite_none_right_eq_some.mp h
        cases eq
        exact ⟨rfl, rfl, rfl⟩
      · simp at h
    | false => simp [inactivePoll] at other

theorem step_activity {d d' : Driver} (h : step grpc d a = some d')
    (other : inactivePoll a = none) :
    d'.timeout = d.timeout ∧ d'.polling = d.polling ∧ d'.lastActive =
      ((activePoll a).or ((userCall grpc a).or (listenerEvent a))).getD d.lastActive := by
  cases a with
  | driver a => exact driver_activity h other
  | call now metadata =>
    cases h
    simpa [activePoll, listenerEvent] using call_activity grpc d now metadata
  | callbackProcessed answer | callbackDeleteProcessed answer =>
    obtain ⟨_, eq⟩ := Option.ite_none_right_eq_some.mp h
    cases eq
    exact ⟨rfl, rfl, rfl⟩

/-- A poll that sees nothing active; the thread returns exactly when it stops the service. -/
theorem inactive_step {timeout : UInt32} {d d' : Driver}
    (set : d.timeout = some (timeout.toNat : Int)) (least : 0 ≤ now) (most : now < 2 ^ 63)
    (h : d.step (.idlePoll now false) = some d') : d.polling = true ∧
      (timeout.toNat * 1000 < now - d.lastActive ∧ d' = { d.stop with polling := false } ∨
        ¬ timeout.toNat * 1000 < now - d.lastActive ∧ d' = d) := by
  simp only [Driver.step, set] at h
  obtain ⟨polling, eq⟩ := Option.ite_none_right_eq_some.mp h
  cases eq
  refine ⟨polling, ?_⟩
  unfold Driver.idlePoll
  simp only [Bool.false_eq_true, if_false, overdue_iff d.lastActive least most]
  by_cases late : timeout.toNat * 1000 < now - d.lastActive
  · simp [late]
  · simp [late]

theorem timer_seen (grpc : Grpc) (timeout : UInt32) (a : PluginAction) :
    (idleTimer grpc timeout).seen a =
      (activePoll a).or ((userCall grpc a).or (listenerEvent a)) := by
  unfold IdleTimer.seen IdleTimer.kinds
  simp only [idleTimer, List.findSome?_cons, List.findSome?_nil]
  cases activePoll a <;> cases userCall grpc a <;> cases listenerEvent a <;> rfl

theorem poll_polling {d d' : Driver} {active : Bool}
    (h : d.step (.idlePoll now active) = some d') : d.polling = true := by
  simp only [Driver.step] at h
  split at h
  · exact (Option.ite_none_right_eq_some.mp h).1
  · simp at h

/-- Nothing but a poll that sees nothing active makes the thread return. -/
theorem observe_kept {d d' : Driver} (stops : List Int) (h : step grpc d a = some d')
    (other : inactivePoll a = none) : observeReturn d a stops = stops := by
  unfold observeReturn
  split
  · rename_i now active
    have next : d.step (.idlePoll now active) = some d' := h
    have polling := (step_activity h other).2.1.trans (poll_polling next)
    simp [next, polling]
  · rfl

theorem timer_step {timeout : UInt32} {s s' : Driver × List Int}
    (set : s.1.timeout = some (timeout.toNat : Int))
    (clock : ∀ now, time a = some now → 0 ≤ now ∧ now < 2 ^ 63)
    (h : timedStep grpc s a = some s') : s'.1.timeout = some (timeout.toNat : Int) ∧
      (idleTimer grpc timeout).step (view s) a = some (view s') := by
  obtain ⟨d, stops⟩ := s
  obtain ⟨d', stops'⟩ := s'
  obtain ⟨next, rfl⟩ := with_history_step.mp h
  cases idle : inactivePoll a with
  | some now =>
    obtain rfl := inactive_poll idle
    obtain ⟨least, most⟩ := clock now rfl
    have next : d.step (.idlePoll now false) = some d' := next
    obtain ⟨polling, ⟨late, rfl⟩ | ⟨early, rfl⟩⟩ := inactive_step (d := d) set least most next
    · refine ⟨set, ?_⟩
      simp [IdleTimer.step, IdleTimer.poll, idleTimer, inactivePoll, view, observeReturn, next,
        polling, late, Driver.stop]
    · refine ⟨set, ?_⟩
      simp [IdleTimer.step, IdleTimer.poll, idleTimer, inactivePoll, view, observeReturn, next,
        polling, early]
  | none =>
    obtain ⟨timeouts, polling, lastActive⟩ := step_activity next idle
    refine ⟨timeouts.trans set, ?_⟩
    have quiet : (idleTimer grpc timeout).idle a = none := idle
    rw [observe_kept stops next idle, IdleTimer.step, quiet, timer_seen]
    simp only [view, polling, lastActive]

/- Whole schedules. -/

variable {timeout : UInt32} {token address applicationId : String} {start : Int}
  {as : List PluginAction} {s : Driver × List Int}

theorem schedule_front {front back : List PluginAction}
    (schedule : Schedule start (front ++ back)) : Schedule start front := by
  constructor
  · exact schedule.begins
  · exact ordered_front schedule.ordered
  · intro now there
    apply schedule.readings
    rw [List.filterMap_append]
    exact List.mem_append_left _ there

theorem schedule_clock (schedule : Schedule start as) (member : a ∈ as) (read : time a = some now) :
    0 ≤ now ∧ now < 2 ^ 63 := by
  have there : now ∈ as.filterMap time := List.mem_filterMap.mpr ⟨a, member, read⟩
  have begins := schedule.begins
  have later : start ≤ now := (List.pairwise_cons.mp schedule.ordered).1 now there
  constructor
  · omega
  · exact schedule.readings now there

/-- After any schedule the plugin has done what its idle timer does. -/
theorem plugin_timed (schedule : Schedule start as)
    (run : exec (timedStep grpc) (launched token address applicationId timeout start, []) as =
      some s) : s.1.timeout = some (timeout.toNat : Int) ∧
      (idleTimer grpc timeout).Timed start as (view s) := by
  have clocked : Along (timedStep grpc)
      (fun _ a => ∀ now, time a = some now → 0 ≤ now ∧ now < 2 ^ 63)
      (launched token address applicationId timeout start, []) as := by
    apply along_of_mem
    intro a member now read
    exact schedule_clock schedule member read
  have one : ∀ s a s', s.1.timeout = some (timeout.toNat : Int) →
      (∀ now, time a = some now → 0 ≤ now ∧ now < 2 ^ 63) → timedStep grpc s a = some s' →
      s'.1.timeout = some (timeout.toNat : Int) ∧
        (idleTimer grpc timeout).step (view s) a = some (view s') := by
    intro s a s' set clock next
    exact timer_step set clock next
  obtain ⟨set, follows⟩ := exec_projected view one rfl clocked run
  exact ⟨set, IdleTimer.timed_run schedule.ordered follows⟩

/-- The thread sleeps so long between two polls. -/
def POLL_SLEEP : Int := 60000

/-- The timeout thread over a schedule that leads the driver `d` to `t`. -/
structure StopsWhenIdle (grpc : Grpc) (timeout : UInt32) (start : Int) (d : Driver)
    (as : List PluginAction) (t : Driver) (stops : List Int) : Prop where
  stopped : ∀ now, now ∈ stops ↔ ∃ front, (idleTimer grpc timeout).FirstDue start as front now
  once : stops.length ≤ 1
  /- What each poll of the schedule does, the one that stops the service and the others. -/
  polls : ∀ front now active back, as = front ++ .driver (.idlePoll now active) :: back →
    ∃ u v before after, exec (timedStep grpc) (d, []) front = some (u, before) ∧
      timedStep grpc (u, before) (.driver (.idlePoll now active)) = some (v, after) ∧
      ((idleTimer grpc timeout).FirstDue start as front now →
        v.service = u.service.stop ∧ v.polling = false) ∧
      (¬ (idleTimer grpc timeout).FirstDue start as front now →
        v.service = u.service ∧ v.polling = true)
  /- The thread goes on polling until it has stopped the service. -/
  goesOn : stops = [] → ∀ now active,
    (timedStep grpc (t, stops) (.driver (.idlePoll now active))).isSome = true
  prompt : ∀ front now, (idleTimer grpc timeout).FirstDue start as front now →
    now - (idleTimer grpc timeout).lastPoll start front ≤ POLL_SLEEP →
      now - (idleTimer grpc timeout).latestActivity start front ≤
        timeout.toNat * 1000 + POLL_SLEEP
  overdue : stops = [] → ∀ now, now - (idleTimer grpc timeout).lastPoll start as ≤ POLL_SLEEP →
    now - (idleTimer grpc timeout).latestActivity start as ≤ timeout.toNat * 1000 + POLL_SLEEP

/-- What a poll does to the service, at the first due poll and at any other. -/
theorem poll_effect {front back : List PluginAction} {active : Bool} {u v : Driver × List Int}
    (schedule : Schedule start as) (split : as = front ++ .driver (.idlePoll now active) :: back)
    (run : exec (timedStep grpc) (launched token address applicationId timeout start, []) front =
      some u) (h : timedStep grpc u (.driver (.idlePoll now active)) = some v) :
    ((idleTimer grpc timeout).FirstDue start as front now →
      v.1.service = u.1.service.stop ∧ v.1.polling = false) ∧
    (¬ (idleTimer grpc timeout).FirstDue start as front now →
      v.1.service = u.1.service ∧ v.1.polling = true) := by
  obtain ⟨set, timed⟩ := plugin_timed (schedule_front (split ▸ schedule)) run
  obtain ⟨next, _⟩ := with_history_step.mp h
  have next : u.1.step (.idlePoll now active) = some v.1 := next
  have polling := poll_polling next
  cases active with
  | true =>
    simp only [Driver.step, set, polling, if_true, Option.some.injEq] at next
    constructor
    · rintro ⟨⟨⟨b, rest, other, idle⟩, _⟩, _⟩
      have same := (List.cons.inj (List.append_cancel_left (split.symm.trans other))).1
      rw [← same] at idle
      simp [idleTimer, inactivePoll] at idle
    · intro _
      rw [← next]
      exact ⟨rfl, polling⟩
  | false =>
    have member : .driver (.idlePoll now false) ∈ as := by simp [split]
    obtain ⟨least, most⟩ := schedule_clock schedule member rfl
    have first : (idleTimer grpc timeout).FirstDue start as front now ↔
        timeout.toNat * 1000 < now - u.1.lastActive :=
      IdleTimer.first_due_iff timed polling split rfl
    obtain ⟨_, ⟨late, eq⟩ | ⟨early, eq⟩⟩ := inactive_step set least most next
    · rw [first, eq]
      exact ⟨fun _ => ⟨rfl, rfl⟩, fun kept => absurd late kept⟩
    · rw [first, eq]
      exact ⟨fun late => absurd late early, fun _ => ⟨rfl, polling⟩⟩

theorem stops_when_idle {t : Driver} {stops : List Int} (schedule : Schedule start as)
    (run : exec (timedStep grpc) (launched token address applicationId timeout start, []) as =
      some (t, stops)) :
    StopsWhenIdle grpc timeout start (launched token address applicationId timeout start) as t
      stops := by
  obtain ⟨set, timed⟩ := plugin_timed schedule run
  constructor
  · exact timed.fired
  · exact timed.once
  · intro front now active back split
    obtain ⟨u, v, before, next, _⟩ := exec_at (split ▸ run)
    exact ⟨u.1, v.1, u.2, v.2, before, next, poll_effect schedule split before next⟩
  · intro never now active
    have polling : t.polling = true := timed.armed.mpr never
    have set : t.timeout = some (timeout.toNat : Int) := set
    simp [timedStep, withHistory, step, Driver.step, set, polling]
  · intro front now first close
    obtain ⟨a, back, split, idle⟩ := first.1.1
    obtain ⟨u, v, before, next, _⟩ := exec_at (split ▸ run)
    obtain ⟨_, earlier⟩ := plugin_timed (schedule_front (split ▸ schedule)) before
    rw [inactive_poll idle] at next
    exact IdleTimer.armed_recent earlier (poll_polling (with_history_step.mp next).1) close
  · intro never now close
    exact IdleTimer.armed_recent timed (timed.armed.mpr never) close

/- Messages of the servers. -/

theorem ignored_silent (grpc : Grpc) (s : Driver × List Int) (a : PluginAction)
    (h : ignored grpc a = true) : timedStep grpc s a = some s := by
  cases a with
  | call now metadata =>
    obtain ⟨message, read, other⟩ := (Option.any_eq_true _ _).mp h
    have kept : (s.1.interceptCall grpc now metadata).1 = s.1 := by
      unfold Driver.interceptCall
      by_cases health : message = "health"
      · simp [read, health]
      · simp [read, health, of_decide_eq_true other]
    exact with_history_step.mpr ⟨congrArg some kept, rfl⟩
  | _ => simp [ignored] at h

/-- Schedules that differ in health and unknown messages only have the same outcome. -/
theorem ignored_messages {bs : List PluginAction}
    (same : (bs.filter fun a => !ignored grpc a) = as.filter fun a => !ignored grpc a) :
    exec (timedStep grpc) s bs = exec (timedStep grpc) s as := by
  have silent : ∀ s a, (!ignored grpc a) = false → timedStep grpc s a = some s := by
    intro s a dropped
    exact ignored_silent grpc s a (by simpa using dropped)
  rw [← exec_filter silent s bs, same, exec_filter silent s as]

/-- In every schedule the service is stopped at the first due poll and at no other time,
whatever health and unknown messages are added or left out. -/
theorem idle_shutdown {t : Driver} {stops : List Int} (schedule : Schedule start as)
    (run : exec (timedStep grpc) (launched token address applicationId timeout start, []) as =
      some (t, stops)) :
    StopsWhenIdle grpc timeout start (launched token address applicationId timeout start) as t
      stops ∧
    ∀ bs : List PluginAction,
      (bs.filter fun a => !ignored grpc a) = (as.filter fun a => !ignored grpc a) →
        exec (timedStep grpc) (launched token address applicationId timeout start, []) bs =
          some (t, stops) := by
  constructor
  · exact stops_when_idle schedule run
  · intro bs same
    rw [ignored_messages same, run]

/-- An execution is the last activity; a minute later is not too long ago, two minutes are. -/
def idleSchedule : List PluginAction :=
  [.driver (.idlePoll 1000 false), .driver .start, .driver (.connectServiceStarted 5000),
   .call 9000 (sessionHeaders "token-a" .health), .callbackProcessed (.ok ()),
   .driver .callbackAnswered, .call 20000 (bearer "token-a").headers,
   .driver (.idlePoll 61000 true), .driver (.idlePoll 121000 false),
   .call 121500 (sessionHeaders "token-a" .health), .driver (.idlePoll 181000 false)]

theorem idle_schedule : Schedule 1000 idleSchedule := by
  constructor
  · decide
  · decide
  · decide

theorem idle_session_stops : ∃ t,
    exec (timedStep sparkGrpc) (launched "token-a" "10.0.0.1:15002" "app-1" 60 1000, [])
      idleSchedule = some (t, [181000]) ∧ t.service = .ended ∧
    StopsWhenIdle sparkGrpc 60 1000 (launched "token-a" "10.0.0.1:15002" "app-1" 60 1000)
      idleSchedule t [181000] ∧
    exec (timedStep sparkGrpc) (launched "token-a" "10.0.0.1:15002" "app-1" 60 1000, [])
      (idleSchedule.filter fun a => !ignored sparkGrpc a) = some (t, [181000]) := by
  have computed : (exec (timedStep sparkGrpc)
      (launched "token-a" "10.0.0.1:15002" "app-1" 60 1000, []) idleSchedule).any (fun s =>
        decide (s.1.service = .ended) && decide (s.2 = [181000])) = true := by decide
  obtain ⟨⟨t, stops⟩, run, facts⟩ := computed_run computed
  simp only [Bool.and_eq_true, decide_eq_true_eq] at facts
  obtain ⟨ended, rfl⟩ := facts
  have law := idle_shutdown idle_schedule run
  exact ⟨t, run, ended, law.1, law.2 _ (by simp)⟩

end Plugin

/-- A step of a session leaves its driver alone or is a step of its plugin. -/
theorem session_step_plugin {grpc : Grpc} {s s' : Session} {a : SessionAction}
    (h : s.step grpc a = some s') :
    s'.driver = s.driver ∨ ∃ b, Plugin.step grpc s.driver b = some s'.driver := by
  cases a with
  | server a =>
    obtain ⟨_, next⟩ := Option.ite_none_left_eq_some.mp h
    obtain ⟨world, _, rfl⟩ := Option.map_eq_some_iff.mp next
    exact Or.inl rfl
  | processCallback stored =>
    obtain ⟨sent, next⟩ := Option.ite_none_right_eq_some.mp h
    obtain ⟨world, _, rfl⟩ := Option.map_eq_some_iff.mp next
    exact Or.inr ⟨.callbackProcessed _, if_pos sent⟩
  | processCallbackDelete stored =>
    obtain ⟨sent, next⟩ := Option.ite_none_right_eq_some.mp h
    obtain ⟨world, _, rfl⟩ := Option.map_eq_some_iff.mp next
    exact Or.inr ⟨.callbackDeleteProcessed _, if_pos sent⟩
  | receive k now =>
    simp only [Session.step] at h
    split at h
    · rename_i call _
      obtain ⟨_, received⟩ := Option.ite_none_left_eq_some.mp h
      split at received
      · cases received
        exact Or.inr ⟨.call now call.metadata, rfl⟩
      · cases received
        exact Or.inl rfl
    · simp at h
  | driver a =>
    obtain ⟨driver, next, rfl⟩ := Option.map_eq_some_iff.mp h
    exact Or.inr ⟨.driver a, next⟩

/-- Every run of a session drives its plugin along a run of its own. -/
theorem session_drives_plugin {grpc : Grpc} {s t : Session} {as : List SessionAction}
    (run : exec (Session.step grpc) s as = some t) :
    ∃ bs, exec (Plugin.step grpc) s.driver bs = some t.driver := by
  have one : ∀ s a s', True → Session.step grpc s a = some s' →
      s'.driver = s.driver ∨ ∃ b, Plugin.step grpc s.driver b = some s'.driver := by
    intro s a s' _ h
    exact session_step_plugin h
  exact exec_simulated Session.driver one along_true run

end SparkPlug
