import Mathlib.Data.List.Basic

/- Scripts of external commands that stop at the first step that fails. A script is known
   by the commands that it has run and by what came of it. -/
namespace Scripts

universe u
variable {C E : Type u} {A B : Type u}

structure Script (C E A : Type u) where
  commands : List C
  result : Except E A

/-- A step that runs no command. -/
def lift (result : Except E A) : Script C E A := { commands := [], result }

def fail (error : E) : Script C E A := lift (.error error)

/-- One command; `result` is what the caller makes of its outcome. -/
def exec (command : C) (result : Except E A) : Script C E A := { commands := [command], result }

instance : Monad (Script C E) where
  pure a := lift (.ok a)
  bind x f :=
    match x.result with
    | .error e => { commands := x.commands, result := .error e }
    | .ok a => { commands := x.commands ++ (f a).commands, result := (f a).result }

theorem bind_of_ok {x : Script C E A} {a : A} (h : x.result = .ok a) (f : A → Script C E B) :
    x >>= f = { commands := x.commands ++ (f a).commands, result := (f a).result } := by
  cases x with
  | mk commands result =>
    cases h
    rfl

theorem bind_of_error {x : Script C E A} {e : E} (h : x.result = .error e)
    (f : A → Script C E B) : x >>= f = { commands := x.commands, result := .error e } := by
  cases x with
  | mk commands result =>
    cases h
    rfl

theorem lift_bind (a : A) (f : A → Script C E B) : lift (.ok a) >>= f = f a := by
  rw [bind_of_ok (a := a) rfl]
  rfl

theorem fail_bind (e : E) (f : A → Script C E B) : (fail e : Script C E A) >>= f = fail e :=
  bind_of_error rfl f

section
variable (succeeds : C → Bool)

/-- A plan up to the first command that does not succeed, and that one. -/
def upTo : List C → List C
  | [] => []
  | c :: cs => if succeeds c then c :: upTo cs else [c]

variable {succeeds}

theorem up_to_append_ok {plan later : List C} (ok : ∀ c ∈ plan, succeeds c = true) :
    upTo succeeds (plan ++ later) = plan ++ upTo succeeds later := by
  induction plan with
  | nil => rfl
  | cons c cs ih =>
    have first : succeeds c = true := ok c (by simp)
    have rest := ih fun d member => ok d (List.mem_cons_of_mem c member)
    simp [upTo, first, rest]

theorem up_to_append_failed {plan later : List C} (failed : ∃ c ∈ plan, succeeds c = false) :
    upTo succeeds (plan ++ later) = upTo succeeds plan := by
  induction plan with
  | nil => simp at failed
  | cons c cs ih =>
    cases first : succeeds c with
    | false => simp [upTo, first]
    | true =>
      have rest : ∃ d ∈ cs, succeeds d = false := by simpa [first] using failed
      simp [upTo, first, ih rest]

theorem mem_of_up_to {plan : List C} {c : C} (member : c ∈ upTo succeeds plan) : c ∈ plan := by
  induction plan with
  | nil => simp [upTo] at member
  | cons d ds ih =>
    unfold upTo at member
    split at member
    · rcases List.mem_cons.mp member with same | later
      · exact List.mem_cons.mpr (Or.inl same)
      · exact List.mem_cons_of_mem d (ih later)
    · exact List.mem_cons.mpr (Or.inl (List.mem_singleton.mp member))

variable (succeeds)

/-- The script runs its plan up to the first command that does not succeed; where all of
them do, `finishes` tells whether it gives a result. -/
structure Obeys (plan : List C) (finishes : Bool) (x : Script C E A) : Prop where
  commands : x.commands = upTo succeeds plan
  result : (∃ a, x.result = .ok a) ↔ finishes = true ∧ ∀ c ∈ plan, succeeds c = true

variable {succeeds}

theorem obeys_lift (a : A) : Obeys succeeds [] true (lift (.ok a) : Script C E A) :=
  ⟨rfl, by simp [lift]⟩

theorem obeys_fail (error : E) : Obeys succeeds [] false (fail error : Script C E A) :=
  ⟨rfl, by simp [fail, lift]⟩

theorem obeys_exec {command : C} {result : Except E A}
    (checked : (∃ a, result = .ok a) ↔ succeeds command = true) :
    Obeys succeeds [command] true (exec command result) :=
  ⟨by simp [exec, upTo], by simpa [exec] using checked⟩

theorem obeys_bind {plan later : List C} {finishes : Bool} {x : Script C E A}
    {f : A → Script C E B} (first : Obeys succeeds plan true x)
    (rest : ∀ a, x.result = .ok a → Obeys succeeds later finishes (f a)) :
    Obeys succeeds (plan ++ later) finishes (x >>= f) := by
  cases result : x.result with
  | error e =>
    have failed : ∃ c ∈ plan, succeeds c = false := by
      by_contra none
      have all : ∀ c ∈ plan, succeeds c = true := by simpa using none
      obtain ⟨a, ok⟩ := first.result.mpr ⟨rfl, all⟩
      simp [result] at ok
    obtain ⟨c, member, not⟩ := failed
    rw [bind_of_error result]
    refine ⟨?_, ?_⟩
    · rw [up_to_append_failed ⟨c, member, not⟩]
      exact first.commands
    · simp only [reduceCtorEq, exists_false, false_iff]
      intro ⟨_, all⟩
      simp [all c (List.mem_append_left later member)] at not
  | ok a =>
    have all := (first.result.mp ⟨a, result⟩).2
    have before : x.commands = plan := by
      have run : upTo succeeds (plan ++ []) = plan ++ upTo succeeds [] := up_to_append_ok all
      rw [List.append_nil, upTo, List.append_nil] at run
      rw [first.commands, run]
    rw [bind_of_ok result]
    refine ⟨?_, ?_⟩
    · rw [up_to_append_ok all, before, (rest a result).commands]
    · rw [(rest a result).result]
      constructor
      · intro ⟨ends, later⟩
        exact ⟨ends, fun c member => (List.mem_append.mp member).elim (all c) (later c)⟩
      · intro ⟨ends, whole⟩
        exact ⟨ends, fun c member => whole c (List.mem_append_right plan member)⟩

/-- A last step that runs nothing. -/
theorem obeys_lift_bind {plan : List C} {x : Script C E A} {g : A → B}
    (first : Obeys succeeds plan true x) :
    Obeys succeeds plan true (x >>= fun a => lift (.ok (g a))) := by
  have whole := obeys_bind first fun a _ => obeys_lift (E := E) (g a)
  rwa [List.append_nil] at whole

end

theorem result_bind {x : Script C E A} {f : A → Script C E B} {b : B} :
    (x >>= f).result = .ok b ↔ ∃ a, x.result = .ok a ∧ (f a).result = .ok b := by
  cases result : x.result with
  | error e =>
    rw [bind_of_error result]
    simp
  | ok a =>
    rw [bind_of_ok result]
    simp

end Scripts
