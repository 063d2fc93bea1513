import LwipPy.Library.Handles
import LwipPy.Library.Runs
import LwipPy.World

/-! `tcpip_init`: the thread that constructs a `LwIP` waits for an event, and the thread lwIP
started for it sets the event through a handle. Several instances may be constructed at a time, by
threads in any order, and the address of a handle is used again once the handle is gone. -/
namespace LwipPy

open Handles

/-- Where the constructing thread is, with its local variable `pinit_done`. -/
inductive InitFrame (κ : Type)
  | idle
  | made
  | handled (pinitDone : κ)
  | waiting (pinitDone : κ)
  | returned
  deriving DecidableEq, Repr

def InitFrame.handle {κ : Type} : InitFrame κ → Option κ
  | .handled a => some a
  | .waiting a => some a
  | _ => none

/-- Where the thread of lwIP is. In `_tcpip_init_done` it has looked up the handle; `none` is a
handle that is gone. -/
inductive TcpipThread (κ : Type)
  | none
  | starting (arg : κ)
  | initDone (found : Option Instance)
  | running
  deriving DecidableEq, Repr

/-- All constructions of a process. The event of a construction goes by its instance. -/
structure InitState (κ : Type) where
  handles : Table κ Instance
  isSet : Instance → Bool
  frame : Instance → InitFrame κ
  thread : Instance → TcpipThread κ

/-- The steps of `tcpip_init` and, from `fromHandle` on, of `_tcpip_init_done`. -/
inductive InitStep (κ : Type)
  | makeEvent (lwip : Instance)
  | newHandle (lwip : Instance) (a : κ)
  | callTcpipInit (lwip : Instance)
  | fromHandle (lwip : Instance)
  | setEvent (lwip : Instance)
  | wake (lwip : Instance)
  deriving DecidableEq, Repr

variable {κ : Type} [DecidableEq κ]

namespace InitState

def init : InitState κ := ⟨fun _ => none,fun _ => false,fun _ => .idle,fun _ => .none⟩

def setFrame (s : InitState κ) (lwip : Instance) (f : InitFrame κ) : InitState κ :=
  { s with frame := Function.update s.frame lwip f }

def setThread (s : InitState κ) (lwip : Instance) (t : TcpipThread κ) : InitState κ :=
  { s with thread := Function.update s.thread lwip t }

/-- One step; `none` where the thread is somewhere else, the address is in use, or the event is
not set yet. -/
def step (s : InitState κ) : InitStep κ → Option (InitState κ)
  | .makeEvent lwip => match s.frame lwip with
    | .idle => some (s.setFrame lwip .made)
    | _ => none
  | .newHandle lwip a => match s.frame lwip with
    | .made => if s.handles a = none then
        some { s.setFrame lwip (.handled a) with handles := s.handles.put a lwip }
      else none
    | _ => none
  | .callTcpipInit lwip => match s.frame lwip with
    | .handled a => some ((s.setFrame lwip (.waiting a)).setThread lwip (.starting a))
    | _ => none
  | .fromHandle lwip => match s.thread lwip with
    | .starting a => some (s.setThread lwip (.initDone (s.handles a)))
    | _ => none
  | .setEvent lwip => match s.thread lwip with
    | .initDone (some found) => some
        { s.setThread lwip .running with isSet := Function.update s.isSet found true }
    | _ => none
  | .wake lwip => match s.frame lwip with
    | .waiting a => if s.isSet lwip then
        some { s.setFrame lwip .returned with handles := s.handles.drop a }
      else none
    | _ => none

def run (s : InitState κ) (steps : List (InitStep κ)) : Option (InitState κ) :=
  steps.foldlM step s

end InitState

/-- How far a construction has come, on both sides. -/
inductive Phase (lwip : Instance) : InitFrame κ → TcpipThread κ → Bool → Prop
  | idle : Phase lwip .idle .none false
  | made : Phase lwip .made .none false
  | handled (a : κ) : Phase lwip (.handled a) .none false
  | starting (a : κ) : Phase lwip (.waiting a) (.starting a) false
  | found (a : κ) : Phase lwip (.waiting a) (.initDone (some lwip)) false
  | set (a : κ) : Phase lwip (.waiting a) .running true
  | returned : Phase lwip .returned .running true

/-- What a step does, in the words of the two threads. -/
inductive InitMove (s : InitState κ) : InitStep κ → InitState κ → Prop
  | makeEvent (i : Instance) (hf : s.frame i = .idle) :
      InitMove s (.makeEvent i) (s.setFrame i .made)
  | newHandle (i : Instance) (a : κ) (hf : s.frame i = .made) (hfree : s.handles a = none) :
      InitMove s (.newHandle i a) { s.setFrame i (.handled a) with handles := s.handles.put a i }
  | callTcpipInit (i : Instance) (a : κ) (hf : s.frame i = .handled a) :
      InitMove s (.callTcpipInit i) ((s.setFrame i (.waiting a)).setThread i (.starting a))
  | fromHandle (i : Instance) (a : κ) (ht : s.thread i = .starting a) :
      InitMove s (.fromHandle i) (s.setThread i (.initDone (s.handles a)))
  | setEvent (i found : Instance) (ht : s.thread i = .initDone (some found)) :
      InitMove s (.setEvent i)
        { s.setThread i .running with isSet := Function.update s.isSet found true }
  | wake (i : Instance) (a : κ) (hf : s.frame i = .waiting a) (hset : s.isSet i = true) :
      InitMove s (.wake i) { s.setFrame i .returned with handles := s.handles.drop a }

theorem initMove_of_step {s t : InitState κ} {x : InitStep κ} (h : s.step x = some t) :
    InitMove s x t := by
  cases x with
  | makeEvent i =>
    cases hf : s.frame i <;> simp only [InitState.step,hf,Option.some.injEq,reduceCtorEq] at h
    subst h
    exact .makeEvent i hf
  | newHandle i a =>
    cases hf : s.frame i <;> simp only [InitState.step,hf,reduceCtorEq] at h
    split_ifs at h with hfree
    cases h
    exact .newHandle i a hf hfree
  | callTcpipInit i =>
    cases hf : s.frame i <;> simp only [InitState.step,hf,Option.some.injEq,reduceCtorEq] at h
    subst h
    exact .callTcpipInit i _ hf
  | fromHandle i =>
    cases ht : s.thread i <;> simp only [InitState.step,ht,Option.some.injEq,reduceCtorEq] at h
    subst h
    exact .fromHandle i _ ht
  | setEvent i =>
    cases ht : s.thread i with
    | initDone found =>
      cases found <;> simp only [InitState.step,ht,Option.some.injEq,reduceCtorEq] at h
      subst h
      exact .setEvent i _ ht
    | _ => simp only [InitState.step,ht,reduceCtorEq] at h
  | wake i =>
    cases hf : s.frame i <;> simp only [InitState.step,hf,reduceCtorEq] at h
    split_ifs at h with hset
    cases h
    exact .wake i _ hf hset

/-- Each construction is in some phase, the handles in use are alive and stand for their own
construction, and the callback has set the event once or not yet. -/
structure Handshake (steps : List (InitStep κ)) (s : InitState κ) : Prop where
  phase : ∀ i, Phase i (s.frame i) (s.thread i) (s.isSet i)
  backed : Backed s.handles fun i => (s.frame i).handle
  signals : ∀ i, steps.count (.setEvent i) = if s.isSet i then 1 else 0

theorem handshake_init : Handshake [] (InitState.init : InitState κ) where
  phase _ := .idle
  backed _ _ h := nomatch h
  signals _ := rfl

section Handshake

variable {steps : List (InitStep κ)} {s t : InitState κ} {i : Instance} {a : κ} {b : Bool}
  {f : InitFrame κ} {u : TcpipThread κ} {r : Option Instance}

omit [DecidableEq κ] in
theorem Phase.of_idle (h : Phase i (.idle : InitFrame κ) u b) : u = .none ∧ b = false := by
  cases h
  exact ⟨rfl,rfl⟩

omit [DecidableEq κ] in
theorem Phase.of_made (h : Phase i (.made : InitFrame κ) u b) : u = .none ∧ b = false := by
  cases h
  exact ⟨rfl,rfl⟩

omit [DecidableEq κ] in
theorem Phase.of_handled (h : Phase i (.handled a) u b) : u = .none ∧ b = false := by
  cases h
  exact ⟨rfl,rfl⟩

omit [DecidableEq κ] in
theorem Phase.of_starting (h : Phase i f (.starting a) b) : f = .waiting a ∧ b = false := by
  cases h
  exact ⟨rfl,rfl⟩

omit [DecidableEq κ] in
/-- The callback found the event of its own construction. -/
theorem Phase.of_initDone (h : Phase i f (.initDone r : TcpipThread κ) b) :
    r = some i ∧ b = false ∧ ∃ a, f = .waiting a := by
  cases h with
  | found a => exact ⟨rfl,rfl,a,rfl⟩

omit [DecidableEq κ] in
theorem Phase.of_set (h : Phase i f u true) : u = .running := by
  cases h <;> rfl

theorem Handshake.phases (h : Handshake steps s)
    (hothers : ∀ j, j ≠ i → t.frame j = s.frame j ∧ t.thread j = s.thread j ∧ t.isSet j = s.isSet j)
    (hi : Phase i (t.frame i) (t.thread i) (t.isSet i)) (j : Instance) :
    Phase j (t.frame j) (t.thread j) (t.isSet j) := by
  by_cases hij : j = i
  · subst hij
    exact hi
  · obtain ⟨hf,ht,hb⟩ := hothers j hij
    rw [hf,ht,hb]
    exact h.phase j

omit [DecidableEq κ] in
theorem handle_update {j : Instance} (h : (Function.update s.frame i f j).handle = some a) :
    (j ≠ i ∧ (s.frame j).handle = some a) ∨ (j = i ∧ f.handle = some a) := by
  by_cases hij : j = i
  · subst hij
    rw [Function.update_self] at h
    exact .inr ⟨rfl,h⟩
  · rw [Function.update_of_ne hij] at h
    exact .inl ⟨hij,h⟩

/-- Only `setEvent` counts. -/
theorem Handshake.quiet (h : Handshake steps s) {x : InitStep κ} (hx : ∀ j, x ≠ .setEvent j)
    (ht : t.isSet = s.isSet) (j : Instance) :
    (steps ++ [x]).count (.setEvent j) = if t.isSet j then 1 else 0 := by
  rw [List.count_append,List.count_singleton,h.signals,ht]
  simp [hx j]

theorem Handshake.step (h : Handshake steps s) {x : InitStep κ} (hx : InitMove s x t) :
    Handshake (steps ++ [x]) t := by
  cases hx with
  | makeEvent i hf =>
    have hi := h.phase i
    rw [hf] at hi
    obtain ⟨ht,hb⟩ := hi.of_idle
    refine ⟨h.phases (i := i) ?_ ?_,h.backed.fewer ?_,h.quiet (fun _ => nofun) rfl⟩
    · intro j hj
      simp [InitState.setFrame,hj]
    · simp only [InitState.setFrame,Function.update_self,ht,hb]
      exact .made
    · intro j a hj
      rcases handle_update hj with ⟨_,hold⟩ | ⟨_,hnew⟩
      · exact hold
      · cases hnew
  | newHandle i a hf hfree =>
    have hi := h.phase i
    rw [hf] at hi
    obtain ⟨ht,hb⟩ := hi.of_made
    refine ⟨h.phases (i := i) ?_ ?_,h.backed.put hfree ?_,h.quiet (fun _ => nofun) rfl⟩
    · intro j hj
      simp [InitState.setFrame,hj]
    · simp only [InitState.setFrame,Function.update_self,ht,hb]
      exact .handled a
    · intro j c hj
      rcases handle_update hj with ⟨_,hold⟩ | ⟨rfl,hnew⟩
      · exact .inl hold
      · exact .inr ⟨rfl,(Option.some.inj hnew).symm⟩
  | callTcpipInit i a hf =>
    have hi := h.phase i
    rw [hf] at hi
    obtain ⟨ht,hb⟩ := hi.of_handled
    refine ⟨h.phases (i := i) ?_ ?_,h.backed.fewer ?_,h.quiet (fun _ => nofun) rfl⟩
    · intro j hj
      simp [InitState.setFrame,InitState.setThread,hj]
    · simp only [InitState.setFrame,InitState.setThread,Function.update_self,hb]
      exact .starting a
    · intro j c hj
      rcases handle_update hj with ⟨_,hold⟩ | ⟨rfl,hnew⟩
      · exact hold
      · rw [hf]
        exact hnew
  | fromHandle i a ht =>
    have hi := h.phase i
    rw [ht] at hi
    obtain ⟨hf,hb⟩ := hi.of_starting
    -- the handle is alive while the constructing thread waits
    have hheld : (s.frame i).handle = some a := by
      rw [hf]
      rfl
    have hfound : s.handles a = some i := h.backed i a hheld
    refine ⟨h.phases (i := i) ?_ ?_,h.backed,h.quiet (fun _ => nofun) rfl⟩
    · intro j hj
      simp [InitState.setThread,hj]
    · simp only [InitState.setThread,Function.update_self,hf,hb,hfound]
      exact .found a
  | setEvent i found ht =>
    have hi := h.phase i
    rw [ht] at hi
    obtain ⟨hown,hb,a,hf⟩ := hi.of_initDone
    obtain rfl := Option.some.inj hown
    refine ⟨h.phases (i := found) ?_ ?_,h.backed,fun j => ?_⟩
    · intro j hj
      simp [InitState.setThread,hj]
    · simp only [InitState.setThread,Function.update_self,hf]
      exact .set a
    · rw [List.count_append,List.count_singleton,h.signals]
      by_cases hj : j = found
      · subst hj
        simp [hb]
      · have hne : InitStep.setEvent (κ := κ) found ≠ .setEvent j := by
          intro heq
          exact hj (InitStep.setEvent.inj heq).symm
        simp [hj,hne]
  | wake i a hf hset =>
    have hi := h.phase i
    rw [hset] at hi
    have ht := hi.of_set
    have hheld : (s.frame i).handle = some a := by
      rw [hf]
      rfl
    refine ⟨h.phases (i := i) ?_ ?_,h.backed.drop hheld ?_,h.quiet (fun _ => nofun) rfl⟩
    · intro j hj
      simp [InitState.setFrame,hj]
    · simp only [InitState.setFrame,Function.update_self,ht,hset]
      exact .returned
    · intro j c hj
      rcases handle_update hj with ⟨hne,hold⟩ | ⟨_,hnew⟩
      · exact ⟨hold,hne⟩
      · cases hnew

end Handshake

namespace InitState

theorem handshake_run {steps : List (InitStep κ)} {s : InitState κ}
    (h : init.run steps = some s) : Handshake steps s :=
  Runs.invariant handshake_init (fun ht hx => ht.step (initMove_of_step hx)) h

end InitState

/-- The construction can come to its end, whatever the other threads do. -/
def CanReturn (s : InitState κ) (i : Instance) : Prop :=
  ∃ rest t, s.run rest = some t ∧ t.frame i = .returned

section CanReturn

variable {s t : InitState κ} {i : Instance} {a : κ}

theorem canReturn_step {x : InitStep κ} (hx : s.step x = some t) (h : CanReturn t i) :
    CanReturn s i := by
  obtain ⟨rest,v,hrest,hv⟩ := h
  exact ⟨x::rest,v,Runs.run_cons.mpr ⟨t,hx,hrest⟩,hv⟩

theorem canReturn_set (hf : s.frame i = .waiting a) (hset : s.isSet i = true) :
    CanReturn s i := by
  apply canReturn_step (x := .wake i)
    (t := { s.setFrame i .returned with handles := s.handles.drop a })
  · simp only [InitState.step,hf,hset,if_true]
  · exact ⟨[],_,rfl,Function.update_self _ _ _⟩

theorem canReturn_found (hf : s.frame i = .waiting a) (ht : s.thread i = .initDone (some i)) :
    CanReturn s i := by
  apply canReturn_step (x := .setEvent i)
    (t := { s.setThread i .running with isSet := Function.update s.isSet i true })
  · simp only [InitState.step,ht]
  · exact canReturn_set (a := a) hf (Function.update_self _ _ _)

theorem canReturn_starting (hf : s.frame i = .waiting a) (ht : s.thread i = .starting a)
    (halive : s.handles a = some i) : CanReturn s i := by
  apply canReturn_step (x := .fromHandle i) (t := s.setThread i (.initDone (some i)))
  · simp only [InitState.step,ht,halive]
  · exact canReturn_found (a := a) hf (Function.update_self _ _ _)

theorem canReturn_handled (hf : s.frame i = .handled a) (halive : s.handles a = some i) :
    CanReturn s i := by
  apply canReturn_step (x := .callTcpipInit i)
    (t := (s.setFrame i (.waiting a)).setThread i (.starting a))
  · simp only [InitState.step,hf]
  · exact canReturn_starting (Function.update_self _ _ _) (Function.update_self _ _ _) halive

theorem canReturn_made (hf : s.frame i = .made) (hfree : s.handles a = none) :
    CanReturn s i := by
  apply canReturn_step (x := .newHandle i a)
    (t := { s.setFrame i (.handled a) with handles := s.handles.put a i })
  · simp only [InitState.step,hf,hfree,if_true]
  · exact canReturn_handled (Function.update_self _ _ _) (s.handles.put_self a i)

theorem Handshake.alive {steps : List (InitStep κ)} (h : Handshake steps s)
    (hheld : (s.frame i).handle = some a) : s.handles a = some i :=
  h.backed i a hheld

/-- As long as there is an address for its handle, no construction hangs. -/
theorem Handshake.canReturn {steps : List (InitStep κ)} (h : Handshake steps s)
    (hfree : s.handles a = none) (i : Instance) : CanReturn s i := by
  have hi := h.phase i
  have hback := fun c => h.alive (i := i) (a := c)
  generalize hf : s.frame i = f at hi hback
  generalize ht : s.thread i = u at hi
  generalize hb : s.isSet i = b at hi
  cases hi with
  | idle =>
    apply canReturn_step (x := .makeEvent i) (t := s.setFrame i .made)
    · simp only [InitState.step,hf]
    · exact canReturn_made (Function.update_self _ _ _) hfree
  | made => exact canReturn_made hf hfree
  | handled c => exact canReturn_handled hf (hback c rfl)
  | starting c => exact canReturn_starting hf ht (hback c rfl)
  | found c => exact canReturn_found hf ht
  | set c => exact canReturn_set hf hb
  | returned => exact ⟨[],s,rfl,hf⟩

end CanReturn

/-- However the threads of any number of constructions interleave, and though addresses of handles
are used again: the callback of a stack always finds the event of its own construction and sets
it once; `tcpip_init` returns only after that, so that its own stack is running; the handles that
C still knows are alive and distinct; and no construction can hang. -/
theorem init_returns_after_own_callback {steps : List (InitStep κ)} {s : InitState κ}
    (h : InitState.init.run steps = some s) :
    (∀ i found, s.thread i = .initDone found → found = some i) ∧
    (∀ i, s.frame i = .returned → s.thread i = .running ∧ steps.count (.setEvent i) = 1) ∧
    (∀ i, steps.count (.setEvent i) ≤ 1) ∧
    (∀ i a, s.thread i = .starting a → s.handles a = some i) ∧
    (∀ i j a, s.thread i = .starting a → s.thread j = .starting a → i = j) ∧
    (∀ a, s.handles a = none → ∀ i, CanReturn s i) := by
  have hs := InitState.handshake_run h
  have halive : ∀ i a, s.thread i = .starting a → s.handles a = some i := by
    intro i a ht
    have hi := hs.phase i
    rw [ht] at hi
    apply hs.alive
    rw [hi.of_starting.1]
    rfl
  refine ⟨?_,?_,?_,halive,?_,fun a hfree => hs.canReturn hfree⟩
  · intro i found ht
    have hi := hs.phase i
    rw [ht] at hi
    exact hi.of_initDone.1
  · intro i hf
    have hi := hs.phase i
    have hcount := hs.signals i
    rw [hf] at hi
    generalize hset : s.isSet i = b at hi hcount
    generalize s.thread i = u at hi
    cases hi
    exact ⟨rfl,hcount⟩
  · intro i
    rw [hs.signals]
    split_ifs <;> decide
  · intro i j a hi hj
    have hsame := (halive i a hi).symm.trans (halive j a hj)
    exact Option.some.inj hsame

/-- Two constructions at a time. The second one ends first and gives up its handle, and a third one
gets the same address. -/
def twoHosts : List (InitStep ℕ) :=
  [.makeEvent 0,.newHandle 0 7,.makeEvent 1,.newHandle 1 8,.callTcpipInit 1,.callTcpipInit 0,
    .fromHandle 1,.setEvent 1,.wake 1,.makeEvent 2,.newHandle 2 8,.callTcpipInit 2,.fromHandle 2,
    .fromHandle 0,.setEvent 0]

def InitState.after (steps : List (InitStep ℕ)) : InitState ℕ := Runs.last step init steps

theorem init_returns_after_own_callback_hosts :
    (InitState.after twoHosts).thread 1 = .running ∧
    (∀ found, (InitState.after twoHosts).thread 2 = .initDone found → found = some 2) ∧
    CanReturn (InitState.after twoHosts) 2 := by
  have hrun : InitState.init.run twoHosts = some (.after twoHosts) :=
    Runs.run_last (by decide)
  have h := init_returns_after_own_callback hrun
  have hfirst : (InitState.after twoHosts).frame 1 = .returned := by decide
  have hfree : (InitState.after twoHosts).handles 9 = none := by decide
  exact ⟨(h.2.1 1 hfirst).1,h.1 2,h.2.2.2.2.2 9 hfree 2⟩

end LwipPy
