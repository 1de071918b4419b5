import SparkPlug.Library.Runs

/- Any number of processes on one shared store. A process reads and writes the store and
   its own state only, and processes may join at any time. What a process may assume of
   the steps of the others (`rely`) is what every process guarantees of its own. -/
namespace Shared
open Runs

universe u v w
variable {G : Type u} {L : Type v} {A : Type w}

structure Composite (G : Type u) (L : Type v) where
  shared : G
  locals : List L

inductive Move (A : Type w) where
  | act (i : Nat) (a : A)
  | join

section
variable (one : G → L → A → Option (G × L)) (fresh : L)

def step (s : Composite G L) : Move A → Option (Composite G L)
  | .act i a =>
    match s.locals[i]? with
    | some l => (one s.shared l a).map fun next =>
      { shared := next.1, locals := s.locals.set i next.2 }
    | none => none
  | .join => some { s with locals := s.locals ++ [fresh] }

/-- A condition on a step of a process, at the moves of the whole. -/
def Meets (ok : G → L → A → Prop) (s : Composite G L) : Move A → Prop
  | .act i a => ∀ l ∈ s.locals[i]?, ok s.shared l a
  | .join => True

instance decidableMeets (ok : G → L → A → Prop) [each : ∀ g l a, Decidable (ok g l a)] :
    ∀ s m, Decidable (Meets ok s m)
  | s, .act i a => inferInstanceAs (Decidable (∀ l ∈ s.locals[i]?, ok s.shared l a))
  | _, .join => isTrue trivial

/-- Every process keeps its invariant by its own steps and under those of the others. -/
structure Cooperates (ok : G → L → A → Prop) (rely : G → G → Prop) (everywhere : G → Prop)
    (inv : Nat → G → L → Prop) : Prop where
  shared : ∀ i g l a g' l', everywhere g → inv i g l → ok g l a → one g l a = some (g', l') →
    everywhere g'
  own : ∀ i g l a g' l', everywhere g → inv i g l → ok g l a → one g l a = some (g', l') →
    inv i g' l'
  guarantee : ∀ i g l a g' l', everywhere g → inv i g l → ok g l a →
    one g l a = some (g', l') → rely g g'
  stable : ∀ i g l g', everywhere g → inv i g l → rely g g' → inv i g' l
  joins : ∀ i g, everywhere g → inv i g fresh

end

def Holds (everywhere : G → Prop) (inv : Nat → G → L → Prop) (s : Composite G L) : Prop :=
  everywhere s.shared ∧ ∀ i l, s.locals[i]? = some l → inv i s.shared l

section
variable {one : G → L → A → Option (G × L)} {fresh : L}

/-- What one move does: a process steps, or a fresh one joins. -/
theorem step_cases {s t : Composite G L} {m : Move A} (h : step one fresh s m = some t) :
    (∃ i a l g' l', m = .act i a ∧ s.locals[i]? = some l ∧ one s.shared l a = some (g', l') ∧
      t = { shared := g', locals := s.locals.set i l' }) ∨
    (m = .join ∧ t = { s with locals := s.locals ++ [fresh] }) := by
  cases m with
  | act i a =>
    simp only [step] at h
    split at h
    · rename_i l there
      obtain ⟨⟨g', l'⟩, moved, rfl⟩ := Option.map_eq_some_iff.mp h
      exact Or.inl ⟨i, a, l, g', l', rfl, there, moved, rfl⟩
    · simp at h
  | join =>
    cases h
    exact Or.inr ⟨rfl, rfl⟩

/-- A process after a move: the one that stepped, one that did not, or a fresh one. -/
theorem process_cases {s t : Composite G L} {m : Move A} (h : step one fresh s m = some t)
    {k : Nat} {l' : L} (there : t.locals[k]? = some l') :
    (∃ a l, m = .act k a ∧ s.locals[k]? = some l ∧ one s.shared l a = some (t.shared, l')) ∨
    (s.locals[k]? = some l' ∧ ∀ a, m ≠ .act k a) ∨
    (m = .join ∧ l' = fresh ∧ t.shared = s.shared ∧ k = s.locals.length) := by
  rcases step_cases h with ⟨i, a, l, g', new, rfl, at_i, moved, rfl⟩ | ⟨rfl, rfl⟩
  · by_cases same : i = k
    · subst same
      have bound := (List.getElem?_eq_some_iff.mp at_i).1
      rw [List.getElem?_set_self bound] at there
      obtain rfl := Option.some.inj there
      exact Or.inl ⟨a, l, rfl, at_i, moved⟩
    · rw [List.getElem?_set_ne same] at there
      refine Or.inr (Or.inl ⟨there, fun b eq => ?_⟩)
      cases eq
      exact same rfl
  · by_cases old : k < s.locals.length
    · rw [List.getElem?_append_left old] at there
      exact Or.inr (Or.inl ⟨there, by simp⟩)
    · have last := (List.getElem?_eq_some_iff.mp there).1
      simp only [List.length_append, List.length_singleton] at last
      have at_k : k = s.locals.length := by omega
      subst at_k
      rw [List.getElem?_append_right (Nat.le_refl _)] at there
      simp only [Nat.sub_self, List.getElem?_cons_zero, Option.some.injEq] at there
      exact Or.inr (Or.inr ⟨rfl, there.symm, rfl, rfl⟩)

variable {ok : G → L → A → Prop} {rely : G → G → Prop} {everywhere : G → Prop}
  {inv : Nat → G → L → Prop}

theorem cooperates_preserves (law : Cooperates one fresh ok rely everywhere inv) :
    Preserves (step one fresh) (Meets ok) (Holds everywhere inv) := by
  intro s m t before meets h
  rcases step_cases h with ⟨i, a, l, g', l', rfl, at_i, moved, rfl⟩ | ⟨rfl, rfl⟩
  · have mine := before.2 i l at_i
    have may := meets l at_i
    refine ⟨law.shared i _ l a g' l' before.1 mine may moved, fun k other there => ?_⟩
    rcases process_cases h there with ⟨b, old, same, at_k, stepped⟩ | ⟨kept, _⟩ | ⟨joined, _⟩
    · exact law.own k _ old b g' other before.1 (before.2 k old at_k)
        (by cases same; exact meets old at_k) stepped
    · exact law.stable k _ other g' before.1 (before.2 k other kept)
        (law.guarantee i _ l a g' l' before.1 mine may moved)
    · simp at joined
  · refine ⟨before.1, fun k other there => ?_⟩
    rcases process_cases h there with ⟨b, old, same, _⟩ | ⟨kept, _⟩ | ⟨_, rfl, _⟩
    · simp at same
    · exact before.2 k other kept
    · exact law.joins k _ before.1

/-- Processes that cooperate keep all their invariants along every run. -/
theorem cooperates_run (law : Cooperates one fresh ok rely everywhere inv) {s t : Composite G L}
    {ms : List (Move A)} (start : Holds everywhere inv s)
    (meets : Along (step one fresh) (Meets ok) s ms) (run : exec (step one fresh) s ms = some t) :
    Holds everywhere inv t :=
  invariant_run (cooperates_preserves law) start meets run

/-- A relation of the stores that is reflexive, transitive and guaranteed by every step
relates the stores of a run. -/
theorem shared_run {moved : G → G → Prop} (same : ∀ g, moved g g)
    (further : ∀ g h k, moved g h → moved h k → moved g k)
    (steps : ∀ g l a g' l', one g l a = some (g', l') → moved g g') {s t : Composite G L}
    {ms : List (Move A)} (run : exec (step one fresh) s ms = some t) : moved s.shared t.shared := by
  induction ms generalizing s with
  | nil =>
    cases run
    exact same _
  | cons m ms ih =>
    obtain ⟨s', first, rest⟩ := exec_cons.mp run
    rcases step_cases first with ⟨i, a, l, g', l', _, _, stepped, rfl⟩ | ⟨_, rfl⟩
    · exact further _ _ _ (steps _ _ _ _ _ stepped) (ih rest)
    · have later := ih rest
      exact later

/- Processes that carry more state than the ones they refine. -/

def Composite.map {L' : Type*} (proj : L' → L) (s : Composite G L') : Composite G L :=
  { shared := s.shared, locals := s.locals.map proj }

/-- The move that a move is for the refined processes, if it is one. -/
def Move.lower {A' : Type*} (acts : A' → Option A) : Move A' → Option (Move A)
  | .act i a => (acts a).map (.act i)
  | .join => some .join

/-- If each step of a process is a step of the process it refines, or nothing to it, then so
are the runs of all of them. -/
theorem refined_run {L' A' : Type*} {fine : G → L' → A' → Option (G × L')} {new : L'}
    (proj : L' → L) (acts : A' → Option A) (begins : proj new = fresh)
    (refines : ∀ g l a g' l', fine g l a = some (g', l') →
      (acts a = none ∧ g' = g ∧ proj l' = proj l) ∨
        ∃ b, acts a = some b ∧ one g (proj l) b = some (g', proj l'))
    {s t : Composite G L'} {ms : List (Move A')} (run : exec (step fine new) s ms = some t) :
    exec (step one fresh) (s.map proj) (ms.filterMap (Move.lower acts)) = some (t.map proj) := by
  induction ms generalizing s with
  | nil =>
    cases run
    rfl
  | cons m ms ih =>
    obtain ⟨s', first, rest⟩ := exec_cons.mp run
    have later := ih rest
    rcases step_cases first with ⟨i, a, l, g', l', rfl, at_i, moved, rfl⟩ | ⟨rfl, rfl⟩
    · rcases refines s.shared l a g' l' moved with ⟨silent, rfl, same⟩ | ⟨b, acting, stepped⟩
      · have kept : (s.locals.set i l').map proj = s.locals.map proj := by
          obtain ⟨bound, there⟩ := List.getElem?_eq_some_iff.mp at_i
          rw [List.map_set, same, ← there, ← List.getElem_map proj]
          exact List.set_getElem_self (by simpa using bound)
        have nothing : Move.lower acts (.act i a) = none := by simp [Move.lower, silent]
        rw [List.filterMap_cons_none nothing]
        simpa [Composite.map, kept] using later
      · have something : Move.lower acts (.act i a) = some (.act i b) := by
          simp [Move.lower, acting]
        have next : step one fresh (s.map proj) (.act i b) =
            some (Composite.map proj { shared := g', locals := s.locals.set i l' }) := by
          simp [step, Composite.map, at_i, stepped, List.map_set]
        rw [List.filterMap_cons_some something]
        exact exec_cons.mpr ⟨_, next, later⟩
    · have joined : Move.lower acts .join = some .join := rfl
      have next : step one fresh (s.map proj) .join =
          some (Composite.map proj { s with locals := s.locals ++ [new] }) := by
        simp [step, Composite.map, begins]
      rw [List.filterMap_cons_some joined]
      exact exec_cons.mpr ⟨_, next, later⟩

end

end Shared
