import LwipPy.PairRule
import LwipPy.SocketPair

/-! The end of the process. `weakref.finalize` calls what is still armed when the interpreter
exits, the newest object first; the objects themselves stay. Together with `close`, `with` blocks
and the collector, no descriptor that lwIP handed out is left open, and none is closed twice. -/
namespace LwipPy

open Program Relation

def Socket.exitCall (i : Ref) (k : Socket) : Option (Instance × Option Ref × Call) :=
  k.finalizer.map fun fd => (k.lwip,some i,.on fd .close)

/-- What was asked of lwIP, without the answer. -/
def Event.asked (e : Event) : Instance × Option Ref × Call := (e.inst,e.owner,e.call)

/-- The descriptor that the finalizer of `i` would close. -/
def World.armed (w : World) (i : Ref) : Option (Instance × ℤ) :=
  (w.sockets i).finalizer.map fun fd => ((w.sockets i).lwip,fd)

/-- Every outstanding descriptor has an object whose finalizer would close it. -/
def Covered (w : World) : Prop :=
  ∀ h, outstanding w.log h = true → ∃ i < w.count, w.armed i = some h

section

variable (env : Env)

/-- The finalizer of `i`, called at exit. -/
def Socket.atExit (i : Ref) : PyM Unit := do
  let k ← getSocket i
  match k.finalizer with
  | none => pure ()
  | some fd =>
    let _ ← enter env k.lwip (some i) (.on fd .close)
    Socket.modifySocket i fun k => { k with finalizer := none }

/-- The finalizers of the first `n` objects, the newest first. -/
def exitFrom : ℕ → PyM Unit
  | 0 => pure ()
  | n+1 => do
    Socket.atExit env n
    exitFrom n

def interpreterExit : PyM Unit := do
  let w ← get
  exitFrom env w.count

end

variable {env : Env}

theorem steps_apiRun (hq : env.Quiet) (ops : List ApiOp) :
    Steps env World.init (apiRun env ops World.init) := by
  refine runAll_respects (fun m hm => ?_) World.init
  obtain ⟨op,_,rfl⟩ := List.mem_map.mp hm
  cases op with
  | sockets op => exact steps_exec hq op
  | socketpair lwip family type proto blocking =>
    exact respects_discard (LwIP.steps_socketpair hq lwip family type proto blocking)
  | poll o timeout => exact respects_withLocal (respects_discard (steps_poll timeout))

section Covered

variable {w w' : World}

theorem covered_init : Covered World.init := fun _ hout => nomatch hout

theorem Covered.congr (h : Covered w) (hlog : w'.log = w.log) (hs : w'.sockets = w.sockets)
    (hc : w'.count = w.count) : Covered w' := by
  intro x hout
  rw [hlog] at hout
  obtain ⟨i,hi,harm⟩ := h x hout
  exact ⟨i,hc ▸ hi,by rw [World.armed,hs]; exact harm⟩

/-- After `lwip_close` of what the finalizer of `self` was armed for, the others remain. -/
theorem Covered.released (h : Covered w) {self : Ref} {k : Socket} {e : Event}
    (hclosing : e.closing = w.armed self) (hobt : e.obtained = none) (hlog : w'.log = e :: w.log)
    (hs : w'.sockets = Function.update w.sockets self k) (hc : w'.count = w.count) :
    Covered w' := by
  intro x hout
  rw [hlog,outstanding,hobt,if_neg (Option.some_ne_none x).symm] at hout
  split at hout
  · cases hout
  · next hne =>
    obtain ⟨i,hi,harm⟩ := h x hout
    have hdiff : i ≠ self := by
      rintro rfl
      exact hne (hclosing.trans harm)
    exact ⟨i,hc ▸ hi,by rw [World.armed,hs,Function.update_of_ne hdiff]; exact harm⟩

theorem Covered.step (ho : Owned w) (h : Covered w) (hst : Step env w w') : Covered w' := by
  cases hst with
  | quiet hlog hs hc => exact h.congr hlog hs hc
  | call e ha hobt hcl hlog hs hc =>
    intro x hout
    rw [hlog,outstanding_cons_other (by simp [hobt]) (by simp [hcl])] at hout
    obtain ⟨i,hi,harm⟩ := h x hout
    exact ⟨i,hc ▸ hi,by rw [World.armed,hs]; exact harm⟩
  | create e k ha hr hobt hd hk hf hcol hlog hs hc =>
    intro x hout
    rw [hc]
    by_cases hx : e.obtained = some x
    · refine ⟨w.count,Nat.lt_succ_self _,?_⟩
      rw [World.armed,hs,Function.update_self,hf]
      exact hobt.symm.trans hx
    · have hcl := closing_none_of_obtained hobt
      rw [hlog,outstanding_cons_other hx (by simp [hcl])] at hout
      obtain ⟨i,hi,harm⟩ := h x hout
      refine ⟨i,Nat.lt_succ_of_lt hi,?_⟩
      rw [World.armed,hs,Function.update_of_ne (Nat.ne_of_lt hi)]
      exact harm
  | close self r hl hs₀ hlog hs hc =>
    obtain ⟨⟨hnum,hfin,_⟩,_⟩ := ho.armed hl hs₀
    refine h.released ?_ rfl hlog hs hc
    rw [World.armed,hfin,hnum]
    rfl
  | finalize self fd r hl hfin hlog hs hc =>
    refine h.released ?_ rfl hlog hs hc
    rw [World.armed,hfin]
    rfl
  | forget self hl hfin hlog hs hc =>
    intro x hout
    rw [hlog] at hout
    obtain ⟨i,hi,harm⟩ := h x hout
    have hdiff : i ≠ self := by
      rintro rfl
      rw [World.armed,hfin] at harm
      cases harm
    exact ⟨i,hc ▸ hi,by rw [World.armed,hs,Function.update_of_ne hdiff]; exact harm⟩

theorem Covered.steps (ho : Owned w) (h : Covered w) (hst : Steps env w w') : Covered w' := by
  induction hst with
  | refl => exact h
  | tail hst hstep ih => exact ih.step (ho.steps hst) hstep

end Covered

variable (env) in
def exitEvent (i : Ref) (fd : ℤ) (w : World) : Event :=
  ⟨(w.sockets i).lwip,some i,.on fd .close,env.reply w.log (w.sockets i).lwip (.on fd .close)⟩

theorem final_atExit (i : Ref) (w : World) : final (Socket.atExit env i) w =
    match (w.sockets i).finalizer with
    | none => w
    | some fd => (w.record (exitEvent env i fd w)).put i { w.sockets i with finalizer := none } := by
  cases hf : (w.sockets i).finalizer <;>
    simp [final,Socket.atExit,bind_apply,hf,Socket.modifySocket,World.put,exitEvent]

theorem final_exitFrom_succ (n : ℕ) (w : World) : final (exitFrom env (n+1)) w =
    final (exitFrom env n) (final (Socket.atExit env n) w) := by
  have hok : ∃ t, Socket.atExit env n w = .ok ⟨⟩ t := by
    cases hf : (w.sockets n).finalizer <;>
      simp [Socket.atExit,bind_apply,hf,Socket.modifySocket]
  obtain ⟨t,ht⟩ := hok
  rw [final_of_ok ht,exitFrom,final,bind_of_ok ht]
  rfl

/-- A finalizer says nothing about the objects that are older. -/
theorem atExit_armed {i j : Ref} (hij : i ≠ j) (w : World) :
    (final (Socket.atExit env j) w).sockets i = w.sockets i := by
  rw [final_atExit]
  cases (w.sockets j).finalizer with
  | none => rfl
  | some fd => exact Function.update_of_ne hij _ _

/-- At exit lwIP is asked to close what is armed, the newest object first. -/
theorem exitFrom_calls (n : ℕ) (w : World) :
    ∃ new, (final (exitFrom env n) w).log = new ++ w.log ∧
      new.map Event.asked = (List.range n).filterMap fun i => (w.sockets i).exitCall i := by
  induction n generalizing w with
  | zero => exact ⟨[],rfl,rfl⟩
  | succ n ih =>
    rw [final_exitFrom_succ]
    obtain ⟨new,hlog,hnew⟩ := ih (final (Socket.atExit env n) w)
    have hold : ((List.range n).filterMap fun i =>
        ((final (Socket.atExit env n) w).sockets i).exitCall i) =
        (List.range n).filterMap fun i => (w.sockets i).exitCall i := by
      refine List.filterMap_congr fun i hi => ?_
      rw [atExit_armed (Nat.ne_of_lt (List.mem_range.mp hi))]
    rw [hold] at hnew
    rw [List.range_succ,List.filterMap_append,hlog,← hnew,final_atExit]
    cases hf : (w.sockets n).finalizer with
    | none => exact ⟨new,rfl,by simp [Socket.exitCall,hf]⟩
    | some fd =>
      exact ⟨new ++ [exitEvent env n fd w],by simp,
        by simp [Socket.exitCall,Event.asked,exitEvent,hf]⟩

theorem exitFrom_closes (n : ℕ) (w : World) (i : Ref) :
    closes i (final (exitFrom env n) w).log =
      if i < n then (w.armed i).toList ++ closes i w.log else closes i w.log := by
  induction n generalizing w with
  | zero => rfl
  | succ n ih =>
    rw [final_exitFrom_succ,ih,World.armed]
    by_cases hin : i = n
    · subst hin
      rw [if_neg (Nat.lt_irrefl i),if_pos (Nat.lt_succ_self i),final_atExit,World.armed]
      cases hf : (w.sockets i).finalizer with
      | none => rfl
      | some fd => exact closes_cons_own rfl rfl
    · rw [atExit_armed hin]
      have hlog : closes i (final (Socket.atExit env n) w).log = closes i w.log := by
        rw [final_atExit]
        cases (w.sockets n).finalizer with
        | none => rfl
        | some fd => exact closes_cons_other fun heq => hin (Option.some.inj heq).symm
      have hlt : i < n+1 ↔ i < n :=
        ⟨fun hi => lt_of_le_of_ne (Nat.lt_succ_iff.mp hi) hin,Nat.lt_succ_of_lt⟩
      simp only [hlog,hlt,World.armed]

/-- What is outstanding after the finalizers was so before, and none of them was armed for it. -/
theorem exitFrom_outstanding (n : ℕ) {w : World} {h : Instance × ℤ}
    (hout : outstanding (final (exitFrom env n) w).log h = true) :
    outstanding w.log h = true ∧ ∀ i < n, w.armed i ≠ some h := by
  induction n generalizing w with
  | zero => exact ⟨hout,fun i hi => absurd hi (Nat.not_lt_zero i)⟩
  | succ n ih =>
    rw [final_exitFrom_succ] at hout
    obtain ⟨hbefore,hfree⟩ := ih hout
    have hnew : outstanding w.log h = true ∧ w.armed n ≠ some h := by
      rw [final_atExit] at hbefore
      rw [World.armed]
      cases hf : (w.sockets n).finalizer with
      | none =>
        rw [hf] at hbefore
        exact ⟨hbefore,(Option.some_ne_none h).symm⟩
      | some fd =>
        rw [hf] at hbefore
        have hcons : outstanding (exitEvent env n fd w :: w.log) h = true := hbefore
        have hobt : (exitEvent env n fd w).obtained ≠ some h := (Option.some_ne_none h).symm
        by_cases hx : (exitEvent env n fd w).closing = some h
        · rw [outstanding,if_neg hobt,if_pos hx] at hcons
          cases hcons
        · rw [outstanding_cons_other hobt hx] at hcons
          exact ⟨hcons,hx⟩
    refine ⟨hnew.1,fun i hi => ?_⟩
    rcases Nat.lt_succ_iff_lt_or_eq.mp hi with hlt | rfl
    · have := hfree i hlt
      rwa [World.armed,atExit_armed (Nat.ne_of_lt hlt)] at this
    · exact hnew.2

theorem Owned.armed_or_closed {w : World} (h : Owned w) {i : Ref} (hi : i < w.count) :
    (w.armed i).toList ++ closes i w.log = [(w.sockets i).origin] := by
  rw [World.armed]
  rcases h.state i hi with ⟨harm,hcl⟩ | ⟨hrel,hcl⟩
  · rw [harm.2.1,hcl]
    rfl
  · rw [hrel.1,hcl]
    rfl

/-- After any run of the interface and the exit of the interpreter, every object has passed its
descriptor to `lwip_close` exactly once, no descriptor that lwIP handed out is outstanding, and
what was asked of lwIP at exit is to close the descriptors of the objects whose finalizers were
still armed, the newest object first. -/
theorem nothing_left_open (hq : env.Quiet) (ops : List ApiOp) :
    let w := apiRun env ops World.init
    let t := final (interpreterExit env) w
    (∀ i < w.count, closes i t.log = [(w.sockets i).origin]) ∧
    (∀ h, outstanding t.log h = false) ∧
    ∃ new, t.log = new ++ w.log ∧
      new.map Event.asked = (List.range w.count).filterMap fun i => (w.sockets i).exitCall i := by
  intro w t
  have ho : Owned w := owned_apiRun hq ops
  have hcov : Covered w := covered_init.steps owned_init (steps_apiRun hq ops)
  refine ⟨fun i hi => ?_,fun h => ?_,exitFrom_calls w.count w⟩
  · have hcloses : closes i t.log = _ := exitFrom_closes w.count w i
    rw [if_pos hi,ho.armed_or_closed hi] at hcloses
    exact hcloses
  · cases hout : outstanding t.log h with
    | false => rfl
    | true =>
      obtain ⟨hbefore,hfree⟩ := exitFrom_outstanding w.count hout
      obtain ⟨i,hi,harm⟩ := hcov h hbefore
      exact absurd harm (hfree i hi)

/-- One of three sockets is closed, another one is collected; the rest is left to the exit, with
the two ends of a pair that was not made. -/
def leftOpenOps : List ApiOp :=
  [.sockets (.socket 0 AF_INET SOCK_STREAM 0),.sockets (.socket 0 AF_INET SOCK_STREAM 0),
    .sockets (.close 0),.socketpair 0 AF_INET SOCK_DGRAM 0 true,
    .sockets (.socket 0 AF_INET SOCK_DGRAM 0),.sockets (.collect 1)]

theorem nothing_left_open_sockets :
    let w := apiRun (quietEnv tableReply) leftOpenOps World.init
    (∀ i < w.count, closes i (final (interpreterExit (quietEnv tableReply)) w).log =
      [(w.sockets i).origin]) ∧
    ∀ h, outstanding (final (interpreterExit (quietEnv tableReply)) w).log h = false := by
  have h := nothing_left_open (quietEnv_quiet tableReply) leftOpenOps
  exact ⟨h.1,h.2.1⟩

end LwipPy
