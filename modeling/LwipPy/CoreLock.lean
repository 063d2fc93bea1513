import LwipPy.Netif
import LwipPy.Inet
import LwipPy.Library.NestedSections
import LwipPy.Library.Runs

/-! The core lock of each instance: which threads hold it while methods of `Netif`, socket calls
and the callbacks nest, for any number of threads and instances, any drivers and any routing
functions. A callback is what it does next; any step a thread can take there, it may take. -/
namespace LwipPy

open NestedSections (Frame)

abbrev Thread := ℕ

/-- The callbacks that run code of the program, which lwIP calls with the core lock held.
`_tcpip_init_done` runs none. -/
inductive CoreCallback
  | netifInit (netif : NetifRef)
  | netifOutput (netif : NetifRef)
  | netifOutputIp6 (netif : NetifRef)
  /-- the hook of `set_routing_function` -/
  | ip4Route
  deriving DecidableEq, Repr

/-- What lwIP does under the core lock. -/
inductive CoreCall
  /-- an argument raised before lwIP was called -/
  | raised
  | netif (call : NetifCall)
  | socket
  | timeouts
  deriving DecidableEq

/-- What a thread is in the middle of. -/
inductive CoreFrame
  | locked (lwip : Instance) (call : CoreCall)
  | callback (lwip : Instance) (callback : CoreCallback)
  deriving DecidableEq

/-- `input` is the instance whose `tcpip_input` is stored in a struct, and `routed` are the
instances that have a routing function. -/
structure CoreState where
  owner : Instance → Option Thread
  stack : Thread → List CoreFrame
  input : NetifRef → Option Instance
  routed : Instance → Bool

def CoreState.init : CoreState := ⟨fun _ => none,fun _ => [],fun _ => none,fun _ => false⟩

inductive CoreAct
  | method (t : Thread) (self : Netif) (m : NetifMethod)
  /-- a socket call; lwIP takes the lock -/
  | socket (t : Thread) (lwip : Instance)
  /-- the thread of lwIP itself -/
  | timeouts (t : Thread) (lwip : Instance)
  | setRoutingFunction (t : Thread) (lwip : Instance)
  | callback (t : Thread) (callback : CoreCallback)
  | endCallback (t : Thread)
  | endSection (t : Thread)

def CoreAct.thread : CoreAct → Thread
  | .method t _ _ | .socket t _ | .timeouts t _ | .setRoutingFunction t _ => t
  | .callback t _ | .endCallback t | .endSection t => t

namespace CoreState

variable (inet : Inet)

/-- The thread runs Python code, or nothing at all. -/
def outside (s : CoreState) (t : Thread) : Bool :=
  match s.stack t with
  | .locked _ _ :: _ => false
  | _ => true

/-- The core lock that an action begins by taking, and what is done under it. -/
def acquires (s : CoreState) : CoreAct → Option (Instance × CoreCall)
  | .method _ self m =>
    match self.section inet (s.input self.netif) m with
    | .ok sec => some (sec.lock,match sec.call with
      | .ok call => .netif call
      | .error _ => .raised)
    | .error _ => none
  | .socket _ lwip => some (lwip,.socket)
  | .timeouts _ lwip => some (lwip,.timeouts)
  | _ => none

/-- `netif_add` stores the input function before it calls `_netif_init`. -/
def storeInput (input : NetifRef → Option Instance) (lwip : Instance) :
    CoreCall → NetifRef → Option Instance
  | .netif (.netifAdd netif _) => Function.update input netif (some lwip)
  | _ => input

def enter (s : CoreState) (t : Thread) (lwip : Instance) (call : CoreCall) : CoreState := { s with
  owner := Function.update s.owner lwip (some t)
  stack := Function.update s.stack t (.locked lwip call :: s.stack t)
  input := storeInput s.input lwip call }

/-- Take a lock, or none where a method raised before it came to that; a lock that is taken is
waited for. -/
def tryEnter (s : CoreState) (t : Thread) : Option (Instance × CoreCall) → Option CoreState
  | some (lwip,call) =>
    if s.outside t ∧ s.owner lwip = none then some (s.enter t lwip call) else none
  | none => if s.outside t then some s else none

def setStack (s : CoreState) (t : Thread) (fs : List CoreFrame) : CoreState :=
  { s with stack := Function.update s.stack t fs }

def release (s : CoreState) (lwip : Instance) : CoreState :=
  { s with owner := Function.update s.owner lwip none }

/-- `netif_add` calls `_netif_init` on its interface; everything that runs under the lock may look
up routes, and produce output on the interfaces that were added to the instance. -/
def calls (s : CoreState) (lwip : Instance) (call : CoreCall) : CoreCallback → Bool
  | .netifInit netif =>
    match call with
    | .netif (.netifAdd n _) => n == netif
    | _ => false
  | .netifOutput netif | .netifOutputIp6 netif => call != .raised && s.input netif == some lwip
  | .ip4Route => call != .raised && s.routed lwip

/-- `none` when the action is not possible, or waits for a lock. -/
def step (s : CoreState) (act : CoreAct) : Option CoreState :=
  match act with
  -- the pointer is stored without the lock
  | .setRoutingFunction t lwip =>
    if s.outside t then some { s with routed := Function.update s.routed lwip true } else none
  | .callback t callback =>
    match s.stack t with
    | .locked lwip call :: _ =>
      if s.calls lwip call callback then
        some (s.setStack t (.callback lwip callback :: s.stack t))
      else none
    | _ => none
  | .endCallback t =>
    match s.stack t with
    | .callback _ _ :: rest => some (s.setStack t rest)
    | _ => none
  | .endSection t =>
    match s.stack t with
    | .locked lwip _ :: rest => some ((s.setStack t rest).release lwip)
    | _ => none
  | .method t _ _ | .socket t _ | .timeouts t _ => s.tryEnter t (s.acquires inet act)

def run (s : CoreState) (acts : List CoreAct) : Option CoreState := acts.foldlM (step inet) s

/-- A frame without what it is about. -/
def skeleton : CoreFrame → Frame Instance
  | .locked lwip _ => .held lwip
  | .callback lwip _ => .calledBack lwip

/-- Who holds which lock and in what order, and nothing else. -/
def locks (s : CoreState) : NestedSections.State Thread Instance where
  owner := s.owner
  stack t := (s.stack t).map skeleton

theorem map_update (stack : Thread → List CoreFrame) (t : Thread) (fs : List CoreFrame) :
    (fun t' => (Function.update stack t fs t').map skeleton) =
      Function.update (fun t' => (stack t').map skeleton) t (fs.map skeleton) := by
  funext t'
  by_cases ht : t' = t
  · subst ht
    rw [Function.update_self,Function.update_self]
  · rw [Function.update_of_ne ht,Function.update_of_ne ht]

theorem outside_locks {s : CoreState} {t : Thread} (h : s.outside t = true) :
    NestedSections.Outside (s.locks.stack t) := by
  show NestedSections.Outside ((s.stack t).map skeleton)
  unfold outside at h
  cases hst : s.stack t with
  | nil => trivial
  | cons f fs =>
    rw [hst] at h
    cases f with
    | locked lwip call => cases h
    | callback lwip callback => trivial

inductive Moves (s : CoreState) (act : CoreAct) : CoreState → Prop
  | enter (lwip : Instance) (call : CoreCall) (hacq : s.acquires inet act = some (lwip,call))
      (hout : s.outside act.thread = true) (hfree : s.owner lwip = none) :
      Moves s act (s.enter act.thread lwip call)
  | raised : Moves s act s
  | routed (lwip : Instance) :
      Moves s act { s with routed := Function.update s.routed lwip true }
  | called (lwip : Instance) (call : CoreCall) (rest : List CoreFrame) (callback : CoreCallback)
      (htop : s.stack act.thread = .locked lwip call :: rest) :
      Moves s act (s.setStack act.thread (.callback lwip callback :: s.stack act.thread))
  | returned (lwip : Instance) (callback : CoreCallback) (rest : List CoreFrame)
      (htop : s.stack act.thread = .callback lwip callback :: rest) :
      Moves s act (s.setStack act.thread rest)
  | left (lwip : Instance) (call : CoreCall) (rest : List CoreFrame)
      (htop : s.stack act.thread = .locked lwip call :: rest) :
      Moves s act ((s.setStack act.thread rest).release lwip)

variable {inet}

theorem moves_of_tryEnter {s s' : CoreState} {act : CoreAct}
    (h : s.tryEnter act.thread (s.acquires inet act) = some s') : s.Moves inet act s' := by
  cases hacq : s.acquires inet act with
  | none =>
    rw [hacq] at h
    simp only [tryEnter] at h
    split at h
    · cases h
      exact .raised
    · cases h
  | some a =>
    rw [hacq] at h
    simp only [tryEnter] at h
    split at h
    · next hfree =>
      cases h
      exact .enter a.1 a.2 hacq hfree.1 hfree.2
    · cases h

theorem moves_of_step {s s' : CoreState} {act : CoreAct} (h : s.step inet act = some s') :
    s.Moves inet act s' := by
  cases act with
  | method t self m => exact moves_of_tryEnter h
  | socket t lwip => exact moves_of_tryEnter h
  | timeouts t lwip => exact moves_of_tryEnter h
  | setRoutingFunction t lwip =>
    simp only [step] at h
    split at h
    · cases h
      exact .routed lwip
    · cases h
  | callback t callback =>
    simp only [step] at h
    split at h
    · next lwip call rest hstack =>
      split at h
      · cases h
        exact .called lwip call rest callback hstack
      · cases h
    · cases h
  | endCallback t =>
    simp only [step] at h
    split at h
    · next lwip callback rest hstack =>
      cases h
      exact .returned lwip callback rest hstack
    · cases h
  | endSection t =>
    simp only [step] at h
    split at h
    · next lwip call rest hstack =>
      cases h
      exact .left lwip call rest hstack
    · cases h

theorem locks_setStack (s : CoreState) (t : Thread) (fs : List CoreFrame) :
    (s.setStack t fs).locks =
      { s.locks with stack := Function.update s.locks.stack t (fs.map skeleton) } := by
  simp only [locks,setStack,map_update]

theorem locks_stack {s : CoreState} {t : Thread} {f : CoreFrame} {rest : List CoreFrame}
    (h : s.stack t = f::rest) : s.locks.stack t = skeleton f :: rest.map skeleton := by
  show (s.stack t).map skeleton = _
  rw [h]
  rfl

/-- A step either changes nobody's sections, or is a step of nested sections, which enters one
only by taking the lock. -/
theorem locks_step {s s' : CoreState} {act : CoreAct} (h : s.Moves inet act s') :
    s'.locks = s.locks ∨ ∃ a, NestedSections.Step s.locks a s'.locks ∧
      ∀ t lwip, a = .enter t lwip →
        t = act.thread ∧ ∃ call, s.acquires inet act = some (lwip,call) := by
  cases h with
  | enter lwip call hacq hout hfree =>
    have hlocks : (s.enter act.thread lwip call).locks =
        ⟨Function.update s.locks.owner lwip (some act.thread),
          Function.update s.locks.stack act.thread (.held lwip :: s.locks.stack act.thread)⟩ := by
      simp only [locks,enter,map_update]
      rfl
    rw [hlocks]
    refine .inr ⟨_,.enter act.thread lwip (outside_locks hout) hfree,?_⟩
    rintro t lwip' ⟨⟩
    exact ⟨rfl,call,hacq⟩
  | raised => exact .inl rfl
  | routed lwip => exact .inl rfl
  | called lwip call rest callback htop =>
    rw [locks_setStack]
    exact .inr ⟨_,.callBack act.thread lwip _ (locks_stack htop),fun _ _ h => nomatch h⟩
  | returned lwip callback rest htop =>
    rw [locks_setStack]
    exact .inr ⟨_,.comeBack act.thread lwip _ (locks_stack htop),fun _ _ h => nomatch h⟩
  | left lwip call rest htop =>
    have hlocks : ((s.setStack act.thread rest).release lwip).locks =
        ⟨Function.update s.locks.owner lwip none,
          Function.update s.locks.stack act.thread (rest.map skeleton)⟩ := by
      show (⟨Function.update s.owner lwip none,(s.setStack act.thread rest).locks.stack⟩ :
        NestedSections.State Thread Instance) = _
      rw [locks_setStack]
      rfl
    rw [hlocks]
    exact .inr ⟨_,.leave act.thread lwip _ (locks_stack htop),fun _ _ h => nomatch h⟩

/-- A run of the binding is a run of nested sections. -/
theorem steps_run {acts : List CoreAct} {s s' : CoreState} (h : s.run inet acts = some s') :
    NestedSections.Steps s.locks s'.locks := by
  induction acts generalizing s with
  | nil =>
    cases h
    exact .refl
  | cons act acts ih =>
    obtain ⟨t,hstep,hrun⟩ := Runs.run_cons.mp h
    have hrest := ih hrun
    rcases locks_step (moves_of_step hstep) with heq | ⟨a,hlocks,_⟩
    · exact heq ▸ hrest
    · exact .head ⟨a,hlocks⟩ hrest

variable (inet) (rank : Instance → ℕ)

/-- Where a callback of one instance starts the action, it takes the lock of an instance of a
lower rank. -/
def Descends (s : CoreState) (act : CoreAct) : Prop :=
  match s.acquires inet act, s.stack act.thread with
  | some (lwip,_), .callback lwip' _ :: _ => rank lwip < rank lwip'
  | _, _ => True

/-- Every action of a run descends. -/
def Ordered : CoreState → List CoreAct → Prop
  | _, [] => True
  | s, act::acts => s.Descends inet rank act ∧
      match s.step inet act with
      | some t => t.Ordered acts
      | none => True

instance (s : CoreState) (act : CoreAct) : Decidable (s.Descends inet rank act) := by
  unfold Descends
  split <;> infer_instance

instance (s : CoreState) (acts : List CoreAct) : Decidable (s.Ordered inet rank acts) :=
  match acts with
  | [] => .isTrue trivial
  | act::acts =>
    have : Decidable (match s.step inet act with
        | some t => t.Ordered inet rank acts
        | none => True) :=
      match s.step inet act with
      | some t => instDecidableOrdered t acts
      | none => .isTrue trivial
    inferInstanceAs (Decidable (_ ∧ _))

variable {inet rank}

theorem below_of_descends {s : CoreState} {act : CoreAct} (hd : s.Descends inet rank act)
    {lwip : Instance} {call : CoreCall} (hacq : s.acquires inet act = some (lwip,call)) :
    NestedSections.Below rank lwip (s.locks.stack act.thread) := by
  cases hstack : s.stack act.thread with
  | nil =>
    have hnil : s.locks.stack act.thread = [] := by
      show (s.stack act.thread).map skeleton = _
      rw [hstack]
      rfl
    rw [hnil]
    trivial
  | cons f rest =>
    rw [locks_stack hstack]
    cases f with
    | locked lwip' call' => trivial
    | callback lwip' callback =>
      simp only [Descends,hacq,hstack] at hd
      exact hd

theorem orderedSteps_run {acts : List CoreAct} {s s' : CoreState}
    (h : s.run inet acts = some s') (hord : s.Ordered inet rank acts) :
    Relation.ReflTransGen (NestedSections.OrderedStep rank) s.locks s'.locks := by
  induction acts generalizing s with
  | nil =>
    cases h
    exact .refl
  | cons act acts ih =>
    obtain ⟨t,hstep,hrun⟩ := Runs.run_cons.mp h
    have htail := hord.2
    simp only [hstep] at htail
    have hrest := ih hrun htail
    rcases locks_step (moves_of_step hstep) with heq | ⟨a,hlocks,henter⟩
    · exact heq ▸ hrest
    · refine .head ⟨a,hlocks,fun u lwip ha => ?_⟩ hrest
      obtain ⟨rfl,call,hacq⟩ := henter u lwip ha
      exact below_of_descends hord.1 hacq

theorem mem_locks {s : CoreState} {t : Thread} {lwip : Instance} :
    .calledBack lwip ∈ s.locks.stack t ↔
      ∃ callback, .callback lwip callback ∈ s.stack t := by
  show .calledBack lwip ∈ (s.stack t).map skeleton ↔ _
  rw [List.mem_map]
  constructor
  · rintro ⟨f,hf,heq⟩
    cases f with
    | locked lwip' call => cases heq
    | callback lwip' callback =>
      cases heq
      exact ⟨callback,hf⟩
  · rintro ⟨callback,hf⟩
    exact ⟨_,hf,rfl⟩

end CoreState

/-- Add the interface `n` of instance `n` to its stack, on thread 0. -/
def addActs (n : ℕ) (ip : String) : List CoreAct :=
  [.method 0 ⟨n,n⟩ (.add ip "255.0.0.0" ip),.callback 0 (.netifInit n),.endCallback 0,
    .endSection 0]

/-- Thread 0 sends a datagram, and lwIP asks the routing function for an interface. -/
def routeActs : List CoreAct :=
  .setRoutingFunction 0 0 :: addActs 0 "10.0.0.1" ++ [.socket 0 0,.callback 0 .ip4Route]

/-- Two hosts; thread 0 hands the first one a packet and its answer is being output. -/
def forwardActs : List CoreAct :=
  addActs 0 "10.0.0.1" ++ addActs 1 "10.0.0.2" ++
    [.method 0 ⟨0,0⟩ (.input [69]),.callback 0 (.netifOutput 0)]

def CoreState.after (acts : List CoreAct) : CoreState := Runs.last (step textInet) init acts

-- a routing function that takes its interface up takes the lock again
example : (CoreState.after routeActs).acquires textInet (.method 0 ⟨0,0⟩ .setUp) =
    some (0,.netif (.netifSetUp 0)) ∧ (CoreState.after routeActs).owner 0 = some 0 := by
  decide +kernel

/-- The second host answers the packet it was handed. -/
def answerActs : List CoreAct :=
  forwardActs ++ [.method 0 ⟨1,1⟩ (.input [69]),.callback 0 (.netifOutput 1)]

end LwipPy
