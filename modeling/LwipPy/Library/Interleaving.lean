import LwipPy.Library.Program
import Mathlib.Logic.Function.Basic

/-! Threads over a shared state. A routine is a program in atomic steps, and other threads may run
between any two of them. Where a routine has at most one step that the others can see, and reads
besides only what no thread changes, any interleaving comes to the same as the routines run whole,
one after the other, in the order of those steps. -/
namespace Interleaving

open Program

variable {ε σ τ α β γ κ ο ι : Type}

/-- A program in atomic steps on the shared state and a state of the thread's own. -/
inductive Routine (ε σ τ α : Type)
  | done (r : Except ε α)
  | step (act : σ × τ → σ × τ) (next : σ × τ → Routine ε σ τ α)

namespace Routine

/-- The routine without interruption. -/
def run : Routine ε σ τ α → EStateM ε (σ × τ) α
  | done r => lift r
  | step act next => fun c => (next c).run (act c)

def bind : Routine ε σ τ α → (α → Routine ε σ τ β) → Routine ε σ τ β
  | done (.ok a), f => f a
  | done (.error e), _ => done (.error e)
  | step act next, f => step act fun c => (next c).bind f

instance : Monad (Routine ε σ τ) where
  pure a := done (.ok a)
  bind := bind

/-- `f` follows however the routine ends; it does not raise unless `f` or the routine does. -/
def andFinally : Routine ε σ τ α → Routine ε σ τ β → Routine ε σ τ α
  | done r, f => f.bind fun _ => done r
  | step act next, f => step act fun c => (next c).andFinally f

theorem run_done (r : Except ε α) : (done r : Routine ε σ τ α).run = lift r := rfl

theorem run_step (act : σ × τ → σ × τ) (next : σ × τ → Routine ε σ τ α) (c : σ × τ) :
    (step act next).run c = (next c).run (act c) := rfl

theorem run_bind (t : Routine ε σ τ α) (f : α → Routine ε σ τ β) :
    (t >>= f).run = t.run >>= fun a => (f a).run := by
  funext c
  change (t.bind f).run c = _
  induction t generalizing c with
  | done r => cases r <;> rfl
  | step act next ih => exact ih c (act c)

theorem run_andFinally (t : Routine ε σ τ α) (f : Routine ε σ τ β) :
    (t.andFinally f).run = tryFinally t.run f.run := by
  funext c
  induction t generalizing c with
  | done r =>
    have hrun := congrFun (run_bind f fun _ => (done r : Routine ε σ τ α)) c
    refine hrun.trans ?_
    rw [bind_apply,tryFinally_apply,run_done]
    cases r with
    | ok a =>
      rw [lift_ok]
      dsimp only
      cases f.run c <;> rfl
    | error e =>
      rw [lift_error]
      dsimp only
      cases f.run c <;> rfl
  | step act next ih =>
    rw [tryFinally_apply,run_step,← tryFinally_apply]
    exact ih c (act c)

/-- A program that nobody interrupts, as a routine of one step. -/
def atomic (p : Part (σ × τ) γ) (m : EStateM ε γ α) : Routine ε σ τ α :=
  step (fun c => p.write c (final m (p.read c))) fun c => done (result m (p.read c))

theorem run_atomic (p : Part (σ × τ) γ) (m : EStateM ε γ α) :
    (atomic p m : Routine ε σ τ α).run = zoom p m := by
  funext c
  rw [atomic,run_step,run_done,result,final,zoom]
  cases m (p.read c) <;> rfl

/-- The step leaves the shared state alone, and of it reads no more than `φ`. -/
structure Own (φ : σ → κ) (act : σ × τ → σ × τ) (next : σ × τ → Routine ε σ τ α) : Prop where
  keeps : ∀ c, (act c).1 = c.1
  own : ∀ s s' l, φ s = φ s' → (act (s,l)).2 = (act (s',l)).2
  reads : ∀ s s' l, φ s = φ s' → next (s,l) = next (s',l)

/-- No step can be seen. -/
inductive Silent (φ : σ → κ) : Routine ε σ τ α → Prop
  | done (r : Except ε α) : Silent φ (.done r)
  | step {act next} : Own φ act next → (∀ c, Silent φ (next c)) → Silent φ (.step act next)

/-- At most one step can be seen, and it leaves `φ` alone. -/
inductive OneShot (φ : σ → κ) : Routine ε σ τ α → Prop
  | done (r : Except ε α) : OneShot φ (.done r)
  | step {act next} : Own φ act next → (∀ c, OneShot φ (next c)) → OneShot φ (.step act next)
  | shot {act next} : (∀ c, φ (act c).1 = φ c.1) → (∀ c, Silent φ (next c)) →
    OneShot φ (.step act next)

section Rules

variable {φ : σ → κ}

theorem Own.bind {act : σ × τ → σ × τ} {next : σ × τ → Routine ε σ τ α} (h : Own φ act next)
    (f : α → Routine ε σ τ β) : Own φ act fun c => (next c).bind f :=
  ⟨h.keeps,h.own,fun s s' l hs => by rw [h.reads s s' l hs]⟩

theorem Silent.bind {t : Routine ε σ τ α} {f : α → Routine ε σ τ β} (ht : Silent φ t)
    (hf : ∀ a, Silent φ (f a)) : Silent φ (t >>= f) := by
  change Silent φ (t.bind f)
  induction ht with
  | done r =>
    cases r with
    | ok a => exact hf a
    | error e => exact .done _
  | step h _ ih => exact .step (h.bind f) ih

theorem Silent.oneShot {t : Routine ε σ τ α} (ht : Silent φ t) : OneShot φ t := by
  induction ht with
  | done r => exact .done r
  | step h _ ih => exact .step h ih

theorem Silent.then {t : Routine ε σ τ α} {f : α → Routine ε σ τ β} (ht : Silent φ t)
    (hf : ∀ a, OneShot φ (f a)) : OneShot φ (t >>= f) := by
  change OneShot φ (t.bind f)
  induction ht with
  | done r =>
    cases r with
    | ok a => exact hf a
    | error e => exact .done _
  | step h _ ih => exact .step (h.bind f) ih

theorem OneShot.bind {t : Routine ε σ τ α} {f : α → Routine ε σ τ β} (ht : OneShot φ t)
    (hf : ∀ a, Silent φ (f a)) : OneShot φ (t >>= f) := by
  change OneShot φ (t.bind f)
  induction ht with
  | done r =>
    cases r with
    | ok a => exact (hf a).oneShot
    | error e => exact .done _
  | step h _ ih => exact .step (h.bind f) ih
  | shot h hnext => exact .shot h fun c => (hnext c).bind hf

/-- Past a step that cannot be seen, whatever happens to the rest of the shared state. -/
theorem Own.run {act : σ × τ → σ × τ} {next : σ × τ → Routine ε σ τ α} (h : Own φ act next)
    {s s' : σ} (hs : φ s' = φ s) (l : τ) :
    (step act next).run (s',l) = (next (s,l)).run (s',(act (s,l)).2) := by
  have hact : act (s',l) = (s',(act (s,l)).2) := Prod.ext (h.keeps _) (h.own s' s l hs)
  rw [run_step,hact,h.reads s' s l hs]

/-- A silent routine ends the same way whatever happens to the rest of the shared state. -/
theorem Silent.run_eq {t : Routine ε σ τ α} (ht : Silent φ t) (s : σ) (l : τ) :
    ∃ r m, ∀ s', φ s' = φ s → t.run (s',l) = lift r (s',m) := by
  induction ht generalizing l with
  | done r => exact ⟨r,l,fun _ _ => rfl⟩
  | step h _ ih =>
    rename_i act next _
    obtain ⟨r,m,hrun⟩ := ih (s,l) (act (s,l)).2
    exact ⟨r,m,fun s' hs => (h.run hs l).trans (hrun s' hs)⟩

end Rules

end Routine

/-- What a thread does: operations, and after each whatever its outcome decides. -/
inductive Script (ο ε α β : Type)
  | done (b : β)
  | call (o : ο) (next : Except ε α → Script ο ε α β)

/-- Where a thread stands: between two operations, or inside one, with what is to follow it. -/
inductive Progress (ο ε σ τ α β : Type)
  | between (script : Script ο ε α β)
  | inside (o : ο) (t : Routine ε σ τ α) (next : Except ε α → Script ο ε α β)

/-- The shared state, and for each thread its own state and where it stands. -/
@[ext]
structure Pool (ι ο ε σ τ α β : Type) where
  shared : σ
  own : ι → τ
  place : ι → Progress ο ε σ τ α β

namespace Pool

variable [DecidableEq ι] (code : ο → Routine ε σ τ α)

/-- Thread `i` goes on to `place`, and its own state becomes `l`. -/
def put (p : Pool ι ο ε σ τ α β) (i : ι) (s : σ) (l : τ) (place : Progress ο ε σ τ α β) :
    Pool ι ο ε σ τ α β :=
  ⟨s,Function.update p.own i l,Function.update p.place i place⟩

def step (p : Pool ι ο ε σ τ α β) (i : ι) : Pool ι ο ε σ τ α β :=
  match p.place i with
  | .between (.done _) => p
  | .between (.call o next) => p.put i p.shared (p.own i) (.inside o (code o) next)
  | .inside _ (.done r) next => p.put i p.shared (p.own i) (.between (next r))
  | .inside o (.step act rest) next =>
    p.put i (act (p.shared,p.own i)).1 (act (p.shared,p.own i)).2
      (.inside o (rest (p.shared,p.own i)) next)

/-- Thread `i` does its next operation without interruption. -/
def whole (p : Pool ι ο ε σ τ α β) (i : ι) : Pool ι ο ε σ τ α β :=
  match p.place i with
  | .between (.call o next) =>
    match (code o).run (p.shared,p.own i) with
    | .ok a c => p.put i c.1 c.2 (.between (next (.ok a)))
    | .error e c => p.put i c.1 c.2 (.between (next (.error e)))
  | _ => p

def steps (p : Pool ι ο ε σ τ α β) (schedule : List ι) : Pool ι ο ε σ τ α β :=
  schedule.foldl (step code) p

/-- Whole operations, one at a time. -/
def wholes (p : Pool ι ο ε σ τ α β) (order : List ι) : Pool ι ο ε σ τ α β :=
  order.foldl (whole code) p

/-- Every thread is between two operations. -/
def AtRest (p : Pool ι ο ε σ τ α β) : Prop := ∀ i, ∃ script, p.place i = .between script

omit [DecidableEq ι] in
/-- How a thread in the middle of an operation compares with one that does operations whole: it has
yet to do the step that the others can see, or it has done it. `v` is what no thread changes. -/
inductive Stands (φ : σ → κ) (v : κ) : τ → Progress ο ε σ τ α β → τ → Progress ο ε σ τ α β → Prop
  | between (l : τ) (script : Script ο ε α β) : Stands φ v l (.between script) l (.between script)
  | before {l l₀ : τ} {t : Routine ε σ τ α} {o : ο} {next : Except ε α → Script ο ε α β} :
    t.OneShot φ → (∀ s, φ s = v → t.run (s,l) = (code o).run (s,l₀)) →
    Stands φ v l (.inside o t next) l₀ (.between (.call o next))
  | after {l m : τ} {o : ο} {t : Routine ε σ τ α} {r : Except ε α}
      {next : Except ε α → Script ο ε α β} :
    t.Silent φ → (∀ s, φ s = v → t.run (s,l) = lift r (s,m)) →
    Stands φ v l (.inside o t next) m (.between (next r))

/-- The interleaving `p` compares with the run `q` of whole operations. -/
structure Matches (φ : σ → κ) (p q : Pool ι ο ε σ τ α β) : Prop where
  shared : p.shared = q.shared
  stands : ∀ i, Stands code φ (φ p.shared) (p.own i) (p.place i) (q.own i) (q.place i)

section Reduction

variable {code} {φ : σ → κ} {p q : Pool ι ο ε σ τ α β}

theorem put_same (i : ι) : p.put i p.shared (p.own i) (p.place i) = p := by
  rw [put,Function.update_eq_self,Function.update_eq_self]

theorem Matches.put (h : Matches code φ p q) {i : ι} {s : σ} {l m : τ}
    {place place' : Progress ο ε σ τ α β} (hs : φ s = φ p.shared)
    (hi : Stands code φ (φ p.shared) l place m place') :
    Matches code φ (p.put i s l place) (q.put i s m place') := by
  refine ⟨rfl,fun j => ?_⟩
  change Stands code φ (φ s) _ _ _ _
  rw [hs]
  by_cases hj : j = i
  · subst hj
    simp only [Pool.put,Function.update_self]
    exact hi
  · simp only [Pool.put,Function.update_of_ne hj]
    exact h.stands j

theorem Matches.unseen (h : Matches code φ p q) {i : ι} {l : τ} {place : Progress ο ε σ τ α β}
    (hi : Stands code φ (φ p.shared) l place (q.own i) (q.place i)) :
    Matches code φ (p.put i p.shared l place) q := by
  have hput := h.put (i := i) (s := p.shared) rfl hi
  rwa [h.shared,put_same,← h.shared] at hput

/-- Thread `i` moved, and the whole operation is done at this moment. -/
theorem Matches.seen (h : Matches code φ p q) {i : ι} {s : σ} {l m : τ} {o : ο}
    {next : Except ε α → Script ο ε α β} {place : Progress ο ε σ τ α β} {r : Except ε α}
    (hplace : q.place i = .between (.call o next))
    (hrun : (code o).run (q.shared,q.own i) = lift r (s,m)) (hs : φ s = φ p.shared)
    (hi : Stands code φ (φ p.shared) l place m (.between (next r))) :
    Matches code φ (p.put i s l place) (q.whole code i) := by
  have hwhole : q.whole code i = q.put i s m (.between (next r)) := by
    rw [whole,hplace]
    dsimp only
    rw [hrun]
    cases r <;> rfl
  rw [hwhole]
  exact h.put hs hi

variable (hcode : ∀ o, (code o).OneShot φ)
include hcode

/-- A step of the interleaving is one of whole operations, or none. -/
theorem Matches.step (h : Matches code φ p q) (i : ι) :
    Matches code φ (p.step code i) q ∨ Matches code φ (p.step code i) (q.whole code i) := by
  have hi := h.stands i
  generalize hl : p.own i = l at hi
  generalize hplace : p.place i = place at hi
  generalize hl₀ : q.own i = l₀ at hi
  generalize hplace₀ : q.place i = place₀ at hi
  cases hi with
  | between script =>
    left
    cases script with
    | done b => rwa [Pool.step,hplace]
    | call o next =>
      rw [Pool.step,hplace]
      refine h.unseen ?_
      rw [hplace₀,hl,hl₀]
      exact .before (hcode o) fun s _ => rfl
  | after hsilent hrun =>
    left
    cases hsilent with
    | done r =>
      rw [Pool.step,hplace]
      refine h.unseen ?_
      rw [hplace₀,hl,hl₀]
      obtain ⟨rfl,hlm⟩ := lift_inj (hrun p.shared rfl)
      rw [(Prod.mk.inj hlm).2]
      exact .between _ _
    | step hown hrest =>
      rw [Pool.step,hplace]
      dsimp only
      rw [hown.keeps]
      refine h.unseen ?_
      rw [hplace₀,hl,hl₀]
      exact .after (hrest _) fun s hs => (hown.run hs l).symm.trans (hrun s hs)
  | before hshot hrun =>
    cases hshot with
    | done r =>
      right
      rw [Pool.step,hplace]
      refine h.seen hplace₀ ?_ rfl (.between _ _)
      rw [← h.shared,hl₀,hl,← hrun p.shared rfl]
      rfl
    | step hown hrest =>
      left
      rw [Pool.step,hplace]
      dsimp only
      rw [hown.keeps]
      refine h.unseen ?_
      rw [hplace₀,hl,hl₀]
      exact .before (hrest _) fun s hs => (hown.run hs l).symm.trans (hrun s hs)
    | shot hkeeps hrest =>
      -- the step that the others see: at this moment the operation is done whole
      right
      rename_i act rest
      obtain ⟨r,m,hend⟩ := (hrest (p.shared,l)).run_eq (act (p.shared,l)).1 (act (p.shared,l)).2
      rw [Pool.step,hplace]
      dsimp only
      rw [hl]
      refine h.seen hplace₀ ?_ (hkeeps _) (.after (hrest _) fun s hs => hend s ?_)
      · rw [← h.shared,hl₀,← hrun p.shared rfl,Routine.run_step]
        exact hend _ rfl
      · rw [hs,hkeeps]

omit [DecidableEq ι] hcode in
theorem matches_start (hp : p.AtRest) : Matches code φ p p := by
  refine ⟨rfl,fun i => ?_⟩
  obtain ⟨script,hi⟩ := hp i
  rw [hi]
  exact .between _ _

/-- Any interleaving compares with whole operations in some order. -/
theorem matches_steps (schedule : List ι) (h : Matches code φ p q) :
    ∃ order, Matches code φ (p.steps code schedule) (q.wholes code order) := by
  induction schedule generalizing p q with
  | nil => exact ⟨[],h⟩
  | cons i schedule ih =>
    rcases h.step hcode i with hstep | hstep
    · exact ih hstep
    · obtain ⟨order,horder⟩ := ih hstep
      exact ⟨i::order,horder⟩

/-- When every thread is between two operations again, nothing tells the interleaving from whole
operations one at a time. -/
theorem steps_eq_wholes (hp : p.AtRest) (schedule : List ι) (hend : (p.steps code schedule).AtRest) :
    ∃ order, p.steps code schedule = p.wholes code order := by
  obtain ⟨order,hmatch⟩ := matches_steps hcode schedule (matches_start hp)
  refine ⟨order,?_⟩
  have hthread : ∀ i, (p.steps code schedule).own i = (p.wholes code order).own i ∧
      (p.steps code schedule).place i = (p.wholes code order).place i := by
    intro i
    obtain ⟨script,hi⟩ := hend i
    have hstands := hmatch.stands i
    rw [hi] at hstands
    generalize (p.steps code schedule).own i = l at hstands
    generalize (p.wholes code order).own i = m at hstands
    generalize (p.wholes code order).place i = place at hstands
    cases hstands
    exact ⟨rfl,hi⟩
  exact Pool.ext hmatch.shared (funext fun i => (hthread i).1) (funext fun i => (hthread i).2)

end Reduction

end Pool

end Interleaving
