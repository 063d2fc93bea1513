import LwipPy.Library.Interleaving

/-! Routines that follow a protocol. A protocol says, for each operation, in which stages a thread
can be and how it may take the shared state from one to another on its way from stage to stage.
Once every routine is shown to follow it, what any interleaving keeps is shown of the protocol
alone, one move of one thread at a time. -/
namespace Interleaving

open Program

variable {ε σ τ α β γ δ ο ι : Type}

/-- Every step of the routine is a move of the protocol, and `Q` says how it ends and where. -/
inductive Follows (moves : γ → σ → γ → σ → Prop) (Q : Except ε α → γ → Prop) :
    γ → Routine ε σ τ α → Prop
  | done {g : γ} {r : Except ε α} : Q r g → Follows moves Q g (.done r)
  | step {g : γ} {act : σ × τ → σ × τ} {next : σ × τ → Routine ε σ τ α} (stage : σ × τ → γ) :
    (∀ c, moves g c.1 (stage c) (act c).1) → (∀ c, Follows moves Q (stage c) (next c)) →
    Follows moves Q g (.step act next)

section Follows

variable {moves : γ → σ → γ → σ → Prop} {Q : Except ε α → γ → Prop} {Q' : Except ε β → γ → Prop}
  {g : γ}

theorem Follows.mono {Q' : Except ε α → γ → Prop} {t : Routine ε σ τ α} (ht : Follows moves Q g t)
    (h : ∀ r g, Q r g → Q' r g) : Follows moves Q' g t := by
  induction ht with
  | done hr => exact .done (h _ _ hr)
  | step stage hmoves _ ih => exact .step stage hmoves ih

theorem Follows.bind {t : Routine ε σ τ α} {f : α → Routine ε σ τ β} (ht : Follows moves Q g t)
    (hok : ∀ a g, Q (.ok a) g → Follows moves Q' g (f a))
    (herror : ∀ e g, Q (.error e) g → Q' (.error e) g) : Follows moves Q' g (t >>= f) := by
  change Follows moves Q' g (t.bind f)
  induction ht with
  | @done g r hr =>
    cases r with
    | ok a => exact hok a g hr
    | error e => exact .done (herror e g hr)
  | step stage hmoves _ ih => exact .step stage hmoves ih

theorem Follows.andFinally {t : Routine ε σ τ α} {f : Routine ε σ τ β} {R : Except ε α → γ → Prop}
    (ht : Follows moves R g t) (hf : ∀ r g, R r g → Follows moves
      (fun r' g' => Q (match r' with | .ok _ => r | .error e => .error e) g') g f) :
    Follows moves Q g (t.andFinally f) := by
  induction ht with
  | @done g r hr =>
    exact (hf r g hr).bind (fun a g' h => .done h) fun e g' h => h
  | step stage hmoves _ ih => exact .step stage hmoves ih

/-- Code that returns, in a known stage, and what follows it. -/
theorem Follows.then {t : Routine ε σ τ α} {f : α → Routine ε σ τ β} {k : γ}
    (ht : Follows moves (fun r g => g = k ∧ ∃ a, r = .ok a) g t)
    (hf : ∀ a, Follows moves Q' k (f a)) : Follows moves Q' g (t >>= f) := by
  refine ht.bind (fun a g h => ?_) fun e g h => ?_
  · rw [h.1]
    exact hf a
  · obtain ⟨_,_,h⟩ := h
    cases h

theorem follows_atomic {p : Part (σ × τ) δ} {m : EStateM ε δ α} (stage : σ × τ → γ)
    (hmoves : ∀ c, moves g c.1 (stage c) (p.write c (final m (p.read c))).1)
    (hend : ∀ c, Q (result m (p.read c)) (stage c)) : Follows moves Q g (.atomic p m) :=
  .step stage hmoves fun c => .done (hend c)

end Follows

/-- What the operations may do: when one may begin, beside which others, the stages on its way, and
those it ends in. -/
structure Protocol (ο γ σ : Type) where
  admits : σ → ο → Prop
  beside : ο → ο → Prop
  start : γ
  moves : ο → γ → σ → γ → σ → Prop
  ends : ο → γ → Prop

namespace Protocol

variable [DecidableEq ι] (P : Protocol ο γ σ) (code : ο → Routine ε σ τ α)

def Followed : Prop := ∀ o, Follows (P.moves o) (fun _ g => P.ends o g) P.start (code o)

omit [DecidableEq ι] in
/-- If thread `i` begins an operation now, the protocol admits it beside those of the others. -/
def Admits (p : Pool ι ο ε σ τ α β) (i : ι) : Prop :=
  ∀ o next, p.place i = .between (.call o next) → P.admits p.shared o ∧
    ∀ j o' t next', p.place j = .inside o' t next' → P.beside o o'

/-- The interleavings in which operations begin only where the protocol admits it. -/
inductive Reaches (p : Pool ι ο ε σ τ α β) : Pool ι ο ε σ τ α β → Prop
  | start : Reaches p p
  | step {q : Pool ι ο ε σ τ α β} {i : ι} : Reaches p q → P.Admits q i → Reaches p (q.step code i)

/-- Every thread of the schedule is inside an operation when it comes to its step. -/
def goesOn : Pool ι ο ε σ τ α β → List ι → Bool
  | _, [] => true
  | p, i::schedule =>
    (match p.place i with
      | .inside .. => true
      | .between _ => false) && goesOn (p.step code i) schedule

theorem Reaches.goesOn {P : Protocol ο γ σ} {code : ο → Routine ε σ τ α}
    {p q : Pool ι ο ε σ τ α β} (h : P.Reaches code p q) {schedule : List ι}
    (hin : Protocol.goesOn code q schedule = true) : P.Reaches code p (q.steps code schedule) := by
  induction schedule generalizing q with
  | nil => exact h
  | cons i schedule ih =>
    rw [Protocol.goesOn,Bool.and_eq_true] at hin
    refine ih (h.step fun o next hi => ?_) hin.2
    rw [hi] at hin
    cases hin.1

abbrev Jobs (ι ο γ : Type) := ι → Option (ο × γ)

/-- Moves of one thread, from which every interleaving is made. -/
inductive Move (s : σ) (job : Jobs ι ο γ) : σ → Jobs ι ο γ → Prop
  | begin {i : ι} {o : ο} : job i = none → P.admits s o →
    (∀ j o' g, job j = some (o',g) → P.beside o o') →
    Move s job s (Function.update job i (some (o,P.start)))
  | move {i : ι} {o : ο} {g g' : γ} {s' : σ} : job i = some (o,g) → P.moves o g s g' s' →
    Move s job s' (Function.update job i (some (o,g')))
  | «end» {i : ι} {o : ο} {g : γ} : job i = some (o,g) → P.ends o g →
    Move s job s (Function.update job i none)

omit [DecidableEq ι] in
inductive Tracks : Progress ο ε σ τ α β → Option (ο × γ) → Prop
  | between (script : Script ο ε α β) : Tracks (.between script) none
  | inside {o : ο} {g : γ} {t : Routine ε σ τ α} (next : Except ε α → Script ο ε α β) :
    Follows (P.moves o) (fun _ g => P.ends o g) g t → Tracks (.inside o t next) (some (o,g))

section Runs

variable {P code} {p q : Pool ι ο ε σ τ α β} {job : Jobs ι ο γ}

theorem tracks_put (h : ∀ j, P.Tracks (p.place j) (job j)) {i : ι} {s : σ} {l : τ}
    {place : Progress ο ε σ τ α β} {g : Option (ο × γ)} (hi : P.Tracks place g) (j : ι) :
    P.Tracks ((p.put i s l place).place j) (Function.update job i g j) := by
  by_cases hj : j = i
  · subst hj
    simp only [Pool.put,Function.update_self]
    exact hi
  · simp only [Pool.put,Function.update_of_ne hj]
    exact h j

/-- One step of a thread is a move of the protocol, or nothing. -/
theorem move_of_step (hcode : P.Followed code) (h : ∀ j, P.Tracks (p.place j) (job j)) {i : ι}
    (hi : P.Admits p i) : p.step code i = p ∨ ∃ job',
      P.Move p.shared job (p.step code i).shared job' ∧
      ∀ j, P.Tracks ((p.step code i).place j) (job' j) := by
  have hti := h i
  generalize hplace : p.place i = place at hti
  generalize hjob : job i = doing at hti
  cases hti with
  | between script =>
    cases script with
    | done b =>
      left
      rw [Pool.step,hplace]
    | call o next =>
      right
      obtain ⟨hadmits,hbeside⟩ := hi o next hplace
      rw [Pool.step,hplace]
      refine ⟨_,.begin hjob hadmits fun j o' g hj => ?_,tracks_put h (.inside next (hcode o))⟩
      have htj := h j
      rw [hj] at htj
      generalize hplacej : p.place j = placej at htj
      cases htj with
      | inside next' => exact hbeside j o' _ next' hplacej
  | inside next hfollows =>
    right
    cases hfollows with
    | done hends =>
      rw [Pool.step,hplace]
      exact ⟨_,.end hjob hends,tracks_put h (.between _)⟩
    | step stage hmoves hrest =>
      rw [Pool.step,hplace]
      dsimp only
      exact ⟨_,.move hjob (hmoves (p.shared,p.own i)),tracks_put h (.inside next (hrest _))⟩

/-- What every move keeps holds after any interleaving. -/
theorem reaches_kept (hcode : P.Followed code) {I : σ → Jobs ι ο γ → Prop}
    (hkept : ∀ s job s' job', I s job → P.Move s job s' job' → I s' job')
    (hp : p.AtRest) (hstart : I p.shared fun _ => none) (h : P.Reaches code p q) :
    ∃ job, (∀ i, P.Tracks (q.place i) (job i)) ∧ I q.shared job := by
  induction h with
  | start =>
    refine ⟨fun _ => none,fun i => ?_,hstart⟩
    obtain ⟨script,hi⟩ := hp i
    rw [hi]
    exact .between script
  | step _ hadmits ih =>
    obtain ⟨job,htracks,hI⟩ := ih
    rcases move_of_step hcode htracks hadmits with hsame | ⟨job',hmove,htracks'⟩
    · rw [hsame]
      exact ⟨job,htracks,hI⟩
    · exact ⟨job',htracks',hkept _ _ _ _ hI hmove⟩

end Runs

end Protocol

end Interleaving
