import LwipPy.Library.Runs
import LwipPy.Routing

/-! `set_routing_function` step by step: the callback is created, stored in `routing_hook`, which
keeps it alive, and installed in `ip4_route_override`, which does not. lwIP may look up a
route between any two of these steps. -/
namespace LwipPy

variable {N : Type}

/-- The callbacks of an instance, in the order of their creation. -/
abbrev CallbackRef := ℕ

/-- Where `set_routing_function` is, with its local variable `hook`. -/
inductive HookFrame
  | idle
  | created (hook : CallbackRef)
  | stored (hook : CallbackRef)
  | installed (hook : CallbackRef)
  deriving DecidableEq, Repr

def HookFrame.hook : HookFrame → Option CallbackRef
  | .idle => none
  | .created hook => some hook
  | .stored hook => some hook
  | .installed hook => some hook

/-- The routing of an instance. `callbacks` holds the function behind each callback ever made. -/
structure HookState (N : Type) where
  callbacks : List (RoutingFn N)
  frame : HookFrame
  routingHook : Option CallbackRef
  ip4RouteOverride : Option CallbackRef

def HookState.init : HookState N := ⟨[],.idle,none,none⟩

/-- The steps of `set_routing_function`, and the lookups of lwIP. -/
inductive HookStep (N : Type)
  | create (routingFn : RoutingFn N)
  | store
  | install
  | leave
  | lookup (src dest : Option Ip4Addr)

namespace HookState

/-- One step; `none` where the program is somewhere else. -/
def step (s : HookState N) : HookStep N → Option (HookState N)
  | .create routingFn => match s.frame with
    | .idle => some { s with
        callbacks := s.callbacks ++ [routingFn]
        frame := .created s.callbacks.length }
    | _ => none
  | .store => match s.frame with
    | .created hook => some { s with frame := .stored hook, routingHook := some hook }
    | _ => none
  | .install => match s.frame with
    | .stored hook => some { s with frame := .installed hook, ip4RouteOverride := some hook }
    | _ => none
  | .leave => match s.frame with
    | .installed _ => some { s with frame := .idle }
    | _ => none
  | .lookup _ _ => some s

def run (s : HookState N) (steps : List (HookStep N)) : Option (HookState N) :=
  steps.foldlM step s

/-- Some Python reference to the callback exists. -/
def Alive (s : HookState N) (c : CallbackRef) : Prop :=
  s.frame.hook = some c ∨ s.routingHook = some c

instance (s : HookState N) (c : CallbackRef) : Decidable (s.Alive c) :=
  inferInstanceAs (Decidable (_ ∨ _))

/-- `ip4_route_override` is null or refers to a callback that is alive. -/
def PointerAlive (s : HookState N) : Prop := ∀ c, s.ip4RouteOverride = some c → s.Alive c

/-- What `custom_ip4_route_src_hook` does. -/
inductive Invocation (N : Type)
  | nothing
  | calls (routingFn : RoutingFn N)
  | dead

/-- A lookup in good order, with the function in charge, if there is one. -/
def Invocation.of : Option (RoutingFn N) → Invocation N
  | none => .nothing
  | some f => .calls f

def invocation (s : HookState N) : Invocation N :=
  match s.ip4RouteOverride with
  | none => .nothing
  | some c =>
    if s.Alive c then
      match s.callbacks[c]? with
      | some f => .calls f
      | none => .dead
    else .dead

end HookState

def HookStep.created : HookStep N → Option (RoutingFn N)
  | .create routingFn => some routingFn
  | _ => none

def HookStep.isStore : HookStep N → Bool
  | .store => true
  | _ => false

def HookStep.isInstall : HookStep N → Bool
  | .install => true
  | _ => false

def routingFns (steps : List (HookStep N)) : List (RoutingFn N) := steps.filterMap HookStep.created

def stores (steps : List (HookStep N)) : ℕ := steps.countP HookStep.isStore

def installs (steps : List (HookStep N)) : ℕ := steps.countP HookStep.isInstall

/-- The run stands between the store and the install of a call that replaces an override. -/
def Replacing (steps : List (HookStep N)) : Prop :=
  installs steps ≠ 0 ∧ stores steps ≠ installs steps

instance (steps : List (HookStep N)) : Decidable (Replacing steps) :=
  inferInstanceAs (Decidable (_ ∧ _))

/-- The function of the last call that got as far as its install. -/
def lastInstalled (steps : List (HookStep N)) : Option (RoutingFn N) :=
  ((routingFns steps).take (installs steps)).getLast?

section Counts

variable (steps : List (HookStep N)) (a : HookStep N)

@[simp] theorem routingFns_snoc :
    routingFns (steps ++ [a]) = routingFns steps ++ a.created.toList := by
  cases a <;> simp [routingFns,HookStep.created]

@[simp] theorem stores_snoc :
    stores (steps ++ [a]) = stores steps + if a.isStore then 1 else 0 := by
  simp [stores,List.countP_cons]

@[simp] theorem installs_snoc :
    installs (steps ++ [a]) = installs steps + if a.isInstall then 1 else 0 := by
  simp [installs,List.countP_cons]

end Counts

def newest : ℕ → Option CallbackRef
  | 0 => none
  | n+1 => some n

namespace HookState

/-- The state of a run, from what the run did. -/
structure Follows (steps : List (HookStep N)) (s : HookState N) : Prop where
  callbacks : s.callbacks = routingFns steps
  routingHook : s.routingHook = newest (stores steps)
  override : s.ip4RouteOverride = newest (installs steps)
  frame : match s.frame with
    | .idle => stores steps = (routingFns steps).length ∧ installs steps = stores steps
    | .created c => (routingFns steps).length = c+1 ∧ stores steps = c ∧ installs steps = c
    | .stored c => (routingFns steps).length = c+1 ∧ stores steps = c+1 ∧ installs steps = c
    | .installed c => (routingFns steps).length = c+1 ∧ stores steps = c+1 ∧ installs steps = c+1

theorem follows_init : Follows [] (init : HookState N) :=
  ⟨rfl,rfl,rfl,by simp [init,routingFns,stores,installs]⟩

theorem Follows.snoc {steps : List (HookStep N)} {s t : HookState N} (h : Follows steps s)
    {a : HookStep N} (ha : s.step a = some t) : Follows (steps ++ [a]) t := by
  obtain ⟨callbacks,frame,routingHook,override⟩ := s
  obtain ⟨hcallbacks,hhook,hoverride,hframe⟩ := h
  simp only at hcallbacks hhook hoverride hframe
  subst hcallbacks hhook hoverride
  cases a with
  | create f =>
    cases frame <;> simp only [step,Option.some.injEq,reduceCtorEq] at ha
    subst ha
    constructor <;> simp [HookStep.created,HookStep.isStore,HookStep.isInstall]
    omega
  | store =>
    cases frame <;> simp only [step,Option.some.injEq,reduceCtorEq] at ha
    subst ha
    constructor <;> simp_all [HookStep.created,HookStep.isStore,HookStep.isInstall,newest]
  | install =>
    cases frame <;> simp only [step,Option.some.injEq,reduceCtorEq] at ha
    subst ha
    constructor <;> simp_all [HookStep.created,HookStep.isStore,HookStep.isInstall,newest]
  | leave =>
    cases frame <;> simp only [step,Option.some.injEq,reduceCtorEq] at ha
    subst ha
    constructor <;> simp_all [HookStep.created,HookStep.isStore,HookStep.isInstall]
  | lookup src dest =>
    cases ha
    constructor <;> simp_all [HookStep.created,HookStep.isStore,HookStep.isInstall]

theorem follows_run {steps : List (HookStep N)} {s : HookState N} (h : init.run steps = some s) :
    Follows steps s :=
  Runs.invariant follows_init (fun ht ha => ht.snoc ha) h

section Window

variable {steps : List (HookStep N)} {s : HookState N}

theorem Follows.installs_le (h : Follows steps s) : installs steps ≤ s.callbacks.length := by
  have hframe := h.frame
  rw [h.callbacks]
  cases hf : s.frame <;> simp only [hf] at hframe <;> omega

/-- While an override is replaced, the pointer refers to the callback before. -/
theorem Follows.dead (h : Follows steps s) (hr : Replacing steps) :
    ∃ c, s.ip4RouteOverride = some c ∧ ¬ s.Alive c := by
  obtain ⟨hinstalls,hstores⟩ := hr
  have hframe := h.frame
  cases hf : s.frame with
  | stored c =>
    simp only [hf] at hframe
    obtain ⟨_,hstored,hinstalled⟩ := hframe
    obtain ⟨k,hk⟩ := Nat.exists_eq_succ_of_ne_zero hinstalls
    have hpointer : s.ip4RouteOverride = some k := by rw [h.override,hk,newest]
    have hhook : s.routingHook = some c := by rw [h.routingHook,hstored,newest]
    have hne : c ≠ k := by
      rw [← hinstalled,hk]
      exact Nat.succ_ne_self k
    exact ⟨k,hpointer,by simp [Alive,hf,HookFrame.hook,hhook,hne]⟩
  | _ =>
    simp only [hf] at hframe
    omega

/-- At any other time it refers to the callback in `routing_hook`. -/
theorem Follows.alive (h : Follows steps s) (hr : ¬ Replacing steps) : s.PointerAlive := by
  intro c hc
  by_cases hzero : installs steps = 0
  · rw [h.override,hzero] at hc
    cases hc
  · have hequal : stores steps = installs steps := by
      by_contra hne
      exact hr ⟨hzero,hne⟩
    rw [h.override,← hequal,← h.routingHook] at hc
    exact .inr hc

theorem Follows.pointerAlive_iff (h : Follows steps s) : s.PointerAlive ↔ ¬ Replacing steps := by
  refine ⟨fun hp hr => ?_,h.alive⟩
  obtain ⟨c,hc,hdead⟩ := h.dead hr
  exact hdead (hp c hc)

/-- A lookup calls the function installed last, or finds the pointer dangling. -/
theorem Follows.invocation (h : Follows steps s) :
    (Replacing steps → s.invocation = .dead) ∧
    (¬ Replacing steps → s.invocation = .of (lastInstalled steps)) := by
  constructor
  · intro hr
    obtain ⟨c,hc,hdead⟩ := h.dead hr
    simp [HookState.invocation,hc,hdead]
  · intro hr
    have halive := h.alive hr
    cases hinstalls : installs steps with
    | zero =>
      have hpointer : s.ip4RouteOverride = none := by rw [h.override,hinstalls,newest]
      simp [HookState.invocation,hpointer,lastInstalled,hinstalls,Invocation.of]
    | succ k =>
      have hpointer : s.ip4RouteOverride = some k := by rw [h.override,hinstalls,newest]
      have hlt : k < s.callbacks.length := by
        have hle := h.installs_le
        rwa [hinstalls] at hle
      have hlast : lastInstalled steps = s.callbacks[k]? := by
        rw [lastInstalled,← h.callbacks,hinstalls,List.getLast?_take]
        simp [hlt]
      have hcall := halive k hpointer
      simp [HookState.invocation,hpointer,hcall,hlast,hlt,Invocation.of]

end Window

end HookState

def callSteps (f : RoutingFn N) : List (HookStep N) := [.create f,.store,.install,.leave]

/-- The state as the pointers stand for functions. -/
def HookState.toOverride (s : HookState N) : Override N where
  routingHook := (s.routingHook.bind fun c => s.callbacks[c]?).map hook
  ip4RouteOverride := (s.ip4RouteOverride.bind fun c => s.callbacks[c]?).map hook

namespace HookState

theorem run_append (s : HookState N) (steps rest : List (HookStep N)) :
    s.run (steps ++ rest) = (s.run steps).bind fun t => t.run rest := by
  simp [run]

/-- Complete calls one after the other can run, and do what the calls do as a whole. -/
theorem run_calls (fs : List (RoutingFn N)) :
    ∃ s, init.run (fs.flatMap callSteps) = some s ∧ s.frame = .idle ∧
      s.toOverride = Override.sets fs := by
  induction fs using List.reverseRecOn with
  | nil => exact ⟨init,rfl,rfl,rfl⟩
  | append_singleton fs f ih =>
    obtain ⟨s,hs,hidle,hoverride⟩ := ih
    refine ⟨{ s with
      callbacks := s.callbacks ++ [f]
      routingHook := some s.callbacks.length
      ip4RouteOverride := some s.callbacks.length },?_,hidle,?_⟩
    · rw [List.flatMap_append,run_append,hs]
      obtain ⟨callbacks,frame,routingHook,override⟩ := s
      cases hidle
      rfl
    · rw [Override.sets,List.foldl_append]
      simp [toOverride,Override.setRoutingFunction,Override.setIp4RouteFnOverride]

end HookState

/-- In every run of calls of `set_routing_function` with lookups anywhere between their steps: the
pointer in C is null or refers to a live callback in every state, and no lookup calls a dead
one, exactly as long as no state, or no lookup, lies between the store and the install of a
call that replaces an override. At any other time a lookup calls the function installed last. -/
theorem routing_hook_alive_iff {steps : List (HookStep N)} {s : HookState N}
    (h : HookState.init.run steps = some s) :
    ((∀ done t, done <+: steps → HookState.init.run done = some t → t.PointerAlive) ↔
      ∀ done, done <+: steps → ¬ Replacing done) ∧
    ((∀ done src dest t, done ++ [.lookup src dest] <+: steps → HookState.init.run done = some t →
        t.invocation ≠ .dead) ↔
      ∀ done src dest, done ++ [.lookup src dest] <+: steps → ¬ Replacing done) ∧
    ∀ done t, done <+: steps → HookState.init.run done = some t → ¬ Replacing done →
      t.invocation = .of (lastInstalled done) := by
  have hreach : ∀ done, done <+: steps → ∃ t, HookState.init.run done = some t := by
    rintro done ⟨rest,rfl⟩
    rw [HookState.run_append] at h
    obtain ⟨t,ht,_⟩ := Option.bind_eq_some_iff.mp h
    exact ⟨t,ht⟩
  refine ⟨⟨fun hp done hdone => ?_,fun hr done t hdone ht => ?_⟩,
    ⟨fun hp done src dest hdone hr => ?_,fun hr done src dest t hdone ht => ?_⟩,
    fun done t _ ht => (HookState.follows_run ht).invocation.2⟩
  · obtain ⟨t,ht⟩ := hreach done hdone
    exact (HookState.follows_run ht).pointerAlive_iff.mp (hp done t hdone ht)
  · exact (HookState.follows_run ht).alive (hr done hdone)
  · obtain ⟨t,ht⟩ := hreach done ((List.prefix_append _ _).trans hdone)
    exact hp done src dest t hdone ht ((HookState.follows_run ht).invocation.1 hr)
  · rw [(HookState.follows_run ht).invocation.2 (hr done src dest hdone)]
    cases lastInstalled done <;> simp [HookState.Invocation.of]

def declining : RoutingFn ℕ := fun _ _ => .ok none

/-- Lookups before, while and after the only call. -/
def firstCall : List (HookStep ℕ) :=
  [.lookup none none,.create declining,.store,.lookup none none,.install,.lookup none none]

/-- The pointer is live between the store and the install of the first call, and afterwards the
function installed is called. -/
theorem routing_hook_alive_first :
    (∃ t, HookState.init.run (firstCall.take 4) = some t ∧ t.PointerAlive) ∧
    ∃ t, HookState.init.run firstCall = some t ∧ t.PointerAlive ∧
      t.invocation = .of (some declining) := by
  have hrun : HookState.init.run firstCall =
      some ⟨[declining],.installed 0,some 0,some 0⟩ := rfl
  obtain ⟨halive,_,hlast⟩ := routing_hook_alive_iff hrun
  have hstored : HookState.init.run (firstCall.take 4) =
      some ⟨[declining],.stored 0,some 0,none⟩ := rfl
  have hinits : ∀ done ∈ firstCall.inits, ¬ Replacing done := by
    decide
  have hno : ∀ done, done <+: firstCall → ¬ Replacing done := fun done hdone =>
    hinits done (by simpa using hdone)
  have hall := halive.mpr hno
  have hprefix := List.prefix_refl firstCall
  exact ⟨⟨_,hstored,hall _ _ (List.take_prefix 4 firstCall) hstored⟩,_,hrun,hall _ _ hprefix hrun,
    hlast _ _ hprefix hrun (hno _ hprefix)⟩

/-- A lookup after the second callback was stored and before it is installed. -/
def secondCall : List (HookStep ℕ) :=
  callSteps declining ++ [.create declining,.store]

theorem routing_hook_dangles :
    (∃ s : HookState ℕ, HookState.init.run secondCall = some s ∧ s.ip4RouteOverride = some 0 ∧
      s.routingHook = some 1 ∧ s.invocation = .dead) ∧
    ¬ ∀ (steps : List (HookStep ℕ)) (s : HookState ℕ),
      HookState.init.run steps = some s → s.PointerAlive := by
  have hrun : HookState.init.run secondCall =
      some ⟨[declining,declining],.stored 1,some 1,some 0⟩ := rfl
  refine ⟨⟨_,hrun,rfl,rfl,rfl⟩,fun h => ?_⟩
  have halive := h _ _ hrun 0 rfl
  revert halive
  decide

end LwipPy
