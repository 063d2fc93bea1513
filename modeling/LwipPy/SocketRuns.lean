import LwipPy.Ownership

/-! Runs of operations on `Socket` objects, in any order and with any answers of lwIP: each
operation is a sequence of ownership steps, and what these keep holds after every run. -/
namespace LwipPy

open Program Relation

def World.add (w : World) (k : Socket) : World :=
  { w with sockets := Function.update w.sockets w.count k, count := w.count+1 }

def World.put (w : World) (self : Ref) (k : Socket) : World :=
  { w with sockets := Function.update w.sockets self k }

@[simp] theorem World.add_log (w : World) (k : Socket) : (w.add k).log = w.log := rfl
@[simp] theorem World.add_count (w : World) (k : Socket) : (w.add k).count = w.count+1 := rfl
@[simp] theorem World.add_sockets (w : World) (k : Socket) :
    (w.add k).sockets = Function.update w.sockets w.count k := rfl
@[simp] theorem World.put_log (w : World) (self : Ref) (k : Socket) : (w.put self k).log = w.log :=
  rfl
@[simp] theorem World.put_count (w : World) (self : Ref) (k : Socket) :
    (w.put self k).count = w.count := rfl
@[simp] theorem World.put_sockets (w : World) (self : Ref) (k : Socket) :
    (w.put self k).sockets = Function.update w.sockets self k := rfl

def Socket.fresh (lwip : Instance) (family type proto fd : ℤ) : Socket :=
  ⟨lwip,family,type,proto,fd,some fd,fd,false⟩

def Socket.shut (k : Socket) : Socket := { k with s := -1, finalizer := none }

def Socket.gone (k : Socket) : Socket := { k with finalizer := none, collected := true }

namespace Socket

theorem init_run (lwip : Instance) (family type proto fd : ℤ) (w : World) :
    init lwip family type proto fd w =
      if fd < 0 then .error (.valueError "Invalid FD") w
      else .ok w.count (w.add (fresh lwip family type proto fd)) := by
  by_cases h : fd < 0 <;> simp [init,bind_apply,map_run,h,fresh,World.add]

/-- `Socket.__init__` adds the object or, with an invalid descriptor, changes nothing. -/
theorem respects_init {R : World → World → Prop} [IsPreorder World R] {lwip : Instance}
    {family type proto fd : ℤ} (h : ∀ w, R w (w.add (fresh lwip family type proto fd))) :
    Respects R (init lwip family type proto fd) := by
  intro w
  by_cases hfd : fd < 0
  · rw [final_of_error ((init_run lwip family type proto fd w).trans (if_pos hfd))]
    exact refl_of R w
  · rw [final_of_ok ((init_run lwip family type proto fd w).trans (if_neg hfd))]
    exact h w

variable (env : Env)

/-- The event of a call on the descriptor of `self`. -/
def event (self : Ref) (c : SockCall) (w : World) : Event :=
  let k := w.sockets self
  ⟨k.lwip,some self,.on k.s c,env.reply w.log k.lwip (.on k.s c)⟩

/-- The world in which `check_ret_errno` leaves a call on the descriptor of `self`. -/
def called (self : Ref) (name : String) (c : SockCall) (w : World) : World :=
  checkedOut name (event env self c w).reply ((entered name w).record (event env self c w))

/-- The exception for a failed call on the descriptor of `self`. -/
def callError (self : Ref) (name : String) (c : SockCall) (w : World) : PyErr :=
  failure env name (event env self c w).reply ((event env self c w).reply.errno.getD 0)

section Called

variable (self : Ref) (name : String) (c : SockCall) (w : World)

@[simp] theorem called_log : (called env self name c w).log = event env self c w :: w.log := rfl
@[simp] theorem called_sockets : (called env self name c w).sockets = w.sockets := rfl
@[simp] theorem called_count : (called env self name c w).count = w.count := rfl
@[simp] theorem called_errno : (called env self name c w).errno = 0 := rfl

end Called

variable {env}

/-- A call through `check_ret_errno`, with any filter of the warnings. -/
theorem checked_enters {name : String} {w : World} (h : Enters env name w) (self : Ref)
    (c : SockCall) :
    checked env self name (.ok c) w =
      lift (outcome env name (event env self c w).reply ((event env self c w).reply.errno.getD 0))
        (called env self name c w) := by
  rw [checked,checkRetErrno_enters env h]
  rfl

theorem checked_args {name : String} {w : World} (h : Enters env name w) (self : Ref)
    (e : PyErr) : checked env self name (.error e) w = .error e (entered name w) := by
  rw [checked,checkRetErrno_enters env h]
  rfl

theorem checked_raises {name : String} {w : World} (h : ¬ Enters env name w) (self : Ref)
    (c : Except PyErr SockCall) :
    checked env self name c w = .error (.runtimeWarning (.errnoBefore w.errno name))
      { w with warnings := .errnoBefore w.errno name :: w.warnings } :=
  checkRetErrno_raises env h (call env self c)

/-- The program makes one call, this one, on the descriptor of `self`. -/
def Calls {α : Type} (env : Env) (self : Ref) (m : PyM α) (c : SockCall) (w : World) : Prop :=
  (final m w).log = event env self c w :: w.log

theorem event_inj {self : Ref} {c c' : SockCall} {w : World}
    (h : event env self c w = event env self c' w) : c = c' := by
  have hcall : Call.on (w.sockets self).s c = Call.on (w.sockets self).s c' :=
    congrArg Event.call h
  exact (Call.on.inj hcall).2

theorem not_calls_of_same {α : Type} {self : Ref} {m : PyM α} {c : SockCall} {w : World}
    (h : (final m w).log = w.log) : ¬ Calls env self m c w := by
  rw [Calls,h]
  exact fun hlog => List.cons_ne_self _ _ hlog.symm

theorem calls_lift_iff {α β : Type} {self : Ref} {x : Except PyErr α} {g : α → PyM β}
    {c : SockCall} {w : World} :
    Calls env self (lift x >>= g) c w ↔ ∃ a, x = .ok a ∧ Calls env self (g a) c w := by
  cases x with
  | ok a =>
    have hrun : (lift (.ok a) >>= g) w = g a w := bind_of_ok rfl
    simp [Calls,final,hrun]
  | error e =>
    refine iff_of_false (not_calls_of_same ?_) (by simp)
    rw [final_of_error (bind_of_error (lift_error e w))]

/-- A method that makes its call through `check_ret_errno` and no other. -/
theorem calls_checked_iff {α : Type} {self : Ref} {name : String} {args : Except PyErr SockCall}
    {f : Reply → PyM α} (hf : ∀ r t, (final (f r) t).log = t.log) {c : SockCall} {w : World} :
    Calls env self (checked env self name args >>= f) c w ↔
      Enters env name w ∧ args = .ok c := by
  by_cases henter : Enters env name w
  · cases args with
    | error e =>
      refine iff_of_false (not_calls_of_same ?_) (by simp)
      rw [final_of_error (bind_of_error (checked_args henter self e)),entered_log]
    | ok c' =>
      have hlog : (final (checked env self name (.ok c') >>= f) w).log =
          event env self c' w :: w.log := by
        have hrun : checked env self name (.ok c') w = _ := checked_enters henter self c'
        cases ho : outcome env name (event env self c' w).reply
            ((event env self c' w).reply.errno.getD 0) with
        | ok r =>
          rw [ho] at hrun
          rw [final,bind_of_ok hrun]
          exact hf r _
        | error e =>
          rw [ho] at hrun
          rw [final_of_error (bind_of_error hrun),called_log]
      rw [Calls,hlog,List.cons.injEq]
      constructor
      · rintro ⟨hevent,_⟩
        exact ⟨henter,congrArg Except.ok (event_inj hevent)⟩
      · rintro ⟨_,hargs⟩
        cases hargs
        exact ⟨rfl,rfl⟩
  · refine iff_of_false (not_calls_of_same ?_) fun h => henter h.1
    rw [final_of_error (bind_of_error (checked_raises henter self args))]

variable (hq : env.Quiet)
include hq

theorem checked_ok_run (self : Ref) (name : String) (c : SockCall) (w : World) :
    checked env self name (.ok c) w =
      if 0 ≤ (event env self c w).reply.ret then
        .ok (event env self c w).reply (called env self name c w)
      else .error (callError env self name c w) (called env self name c w) :=
  checked_run hq self name (.ok c) w

theorem close_run (self : Ref) (w : World) :
    close env self w =
      if 0 ≤ (w.sockets self).s then
        if 0 ≤ (event env self .close w).reply.ret then
          .ok ⟨⟩ ((called env self "close" .close w).put self (w.sockets self).shut)
        else .error (callError env self "close" .close w)
          ((called env self "close" .close w).put self (w.sockets self).shut)
      else .ok ⟨⟩ w := by
  by_cases hs : 0 ≤ (w.sockets self).s
  · by_cases hr : 0 ≤ (event env self .close w).reply.ret <;>
      simp [close,bind_apply,map_run,tryFinally_apply,checked_ok_run hq,modifySocket,hs,hr,shut,
        World.put]
  · simp [close,bind_apply,hs]

/-- Whether lwIP closes the descriptor or not, the socket is closed. -/
theorem final_close {self : Ref} {w : World} (hs : 0 ≤ (w.sockets self).s) :
    final (close env self) w =
      (called env self "close" .close w).put self (w.sockets self).shut := by
  rw [final,close_run hq,if_pos hs]
  by_cases hr : 0 ≤ (event env self .close w).reply.ret
  · rw [if_pos hr]
  · rw [if_neg hr]

theorem accept_run (self : Ref) (w : World) :
    accept env self w =
      let c := SockCall.accept SockAddr.createEmptySockaddrPaddrlen.2
      let r := (event env self c w).reply
      let k := w.sockets self
      if 0 ≤ r.ret then
        let w' := (called env self "accept" c w).add (fresh k.lwip k.family k.type k.proto r.ret)
        match (r.name.getD SockAddr.createEmptySockaddrPaddrlen.1).unparseAddress env.host with
        | .ok address => .ok (w.count,address) w'
        | .error e => .error e w'
      else .error (callError env self "accept" c w) (called env self "accept" c w) := by
  rcases h : SockAddr.createEmptySockaddrPaddrlen with ⟨sa,addrLen⟩
  by_cases hr : 0 ≤ (event env self (.accept addrLen) w).reply.ret
  · have hn : ¬ (event env self (.accept addrLen) w).reply.ret < 0 := by omega
    cases hu : ((event env self (.accept addrLen) w).reply.name.getD sa).unparseAddress env.host <;>
      simp [accept,bind_apply,map_run,h,checked_ok_run hq,init_run,hr,hn,hu]
  · simp [accept,bind_apply,h,checked_ok_run hq,hr]

end Socket

namespace LwIP

variable (env : Env)

def socketEvent (self : Instance) (call : Call) (w : World) : Event :=
  ⟨self,none,call,env.reply w.log self call⟩

/-- The world in which `check_ret_errno` leaves a call of `lwip_socket`. -/
def socketCalled (self : Instance) (call : Call) (w : World) : World :=
  checkedOut "socket" (socketEvent env self call w).reply
    ((entered "socket" w).record (socketEvent env self call w))

variable {env}

theorem socketCall_ok {family socketType proto : ℤ} {call : Call}
    (h : socketCall family socketType proto = .ok call) :
    ∃ d t p, call = .socket d t p := by
  obtain ⟨d,_,h⟩ := except_bind_ok.mp h
  obtain ⟨t,_,h⟩ := except_bind_ok.mp h
  obtain ⟨p,_,h⟩ := except_bind_ok.mp h
  cases h
  exact ⟨d,t,p,rfl⟩

theorem socket_run (hq : env.Quiet) (self : Instance) (family socketType proto : ℤ) (w : World) :
    socket env self family socketType proto w = match socketCall family socketType proto with
      | .error e => .error e (entered "socket" w)
      | .ok call =>
        let r := (socketEvent env self call w).reply
        if 0 ≤ r.ret then
          .ok w.count ((socketCalled env self call w).add
            (Socket.fresh self family socketType proto r.ret))
        else .error (failure env "socket" r (r.errno.getD 0)) (socketCalled env self call w) := by
  rw [socket,bind_apply,checkRetErrno_run env hq]
  cases hc : socketCall family socketType proto with
  | error e => simp [bind_apply]
  | ok call =>
    have hbody : (lift (.ok call) >>= fun call => enter env self none call) (entered "socket" w) =
        .ok (socketEvent env self call w).reply
          ((entered "socket" w).record (socketEvent env self call w)) := rfl
    rw [hbody]
    by_cases hr : 0 ≤ (socketEvent env self call w).reply.ret
    · have hn : ¬ (socketEvent env self call w).reply.ret < 0 := by omega
      simp only [hr,if_true,Socket.init_run,hn,if_false]
      rfl
    · simp only [hr,if_false]
      rfl

end LwIP

/-- What a program does with its sockets. -/
inductive SocketOp
  | socket (lwip : Instance) (family socketType proto : ℤ)
  | accept (self : Ref)
  | close (self : Ref)
  | exit (self : Ref)
  | collect (self : Ref)
  | method (self : Ref) (m : Method)

variable (env : Env)

/-- Nobody can name an object that does not exist or that was collected. -/
def onLive (self : Ref) (m : PyM Unit) : PyM Unit := do
  let w ← get
  if w.Live self then m else pure ()

def SocketOp.exec : SocketOp → PyM Unit
  | .socket lwip family socketType proto => discard (LwIP.socket env lwip family socketType proto)
  | .accept self => onLive self (discard (Socket.accept env self))
  | .close self => onLive self (Socket.close env self)
  | .exit self => onLive self (Socket.exit env self)
  | .collect self => onLive self (Socket.collect env self)
  | .method self m => onLive self (m.exec env self)

/-- A run of operations from the start of the process on. -/
def socketRun (ops : List SocketOp) : World := runAll (ops.map (SocketOp.exec env)) World.init

theorem respects_onLive {R : World → World → Prop} [IsPreorder World R] {self : Ref}
    {m : PyM Unit} (hm : Respects R m) : Respects R (onLive self m) := by
  refine respects_bind respects_get fun w => ?_
  split
  · exact hm
  · exact respects_pure _

theorem final_onLive {self : Ref} {m : PyM Unit} (w : World) :
    final (onLive self m) w = if w.Live self then final m w else w := by
  by_cases h : w.Live self <;> simp [final,onLive,bind_apply,h]

section Steps

variable {env}

theorem uses_quiet {self : Ref} {w w' : World} (hlog : w'.log = w.log)
    (hs : w'.sockets = w.sockets) (hc : w'.count = w.count) : Uses env self w w' := by
  intro hl
  refine ⟨.single (.quiet hlog hs hc),?_⟩
  rw [World.Live,hs,hc]
  exact hl

variable (env) in
theorem attributed_event {self : Ref} {w : World} (hl : w.Live self) (c : SockCall) :
    Attributed w (Socket.event env self c w) :=
  .inr ⟨self,c,hl,rfl,rfl,rfl⟩

variable (env) in
theorem plain_event (self : Ref) (w : World) {c : SockCall} (hc : c.plain = true) :
    (Socket.event env self c w).obtained = none ∧ (Socket.event env self c w).closing = none := by
  cases c with
  | accept addrlen => cases hc
  | close => cases hc
  | _ => exact ⟨rfl,rfl⟩

theorem uses_call {self : Ref} {c : Except PyErr SockCall} (hc : PlainArgs c) :
    Respects (Uses env self) (Socket.call env self c) := by
  cases c with
  | error e => exact fun w => refl_of (Uses env self) w
  | ok c =>
    intro w hl
    obtain ⟨ho,hcl⟩ := plain_event env self w (hc c rfl)
    have hown := attributed_event env hl c
    exact ⟨.single (.call (Socket.event env self c w) hown ho hcl rfl rfl rfl),hl⟩

theorem uses_checked (self : Ref) : CheckedRespects env (Uses env self) self := by
  intro name c hc
  exact respects_checkRetErrno (fun _ _ => uses_quiet rfl rfl rfl)
    (fun _ _ => uses_quiet rfl rfl rfl) name (uses_call hc)

theorem uses_method (self : Ref) (m : Method) : Respects (Uses env self) (m.exec env self) :=
  respects_method (uses_checked self) m fun _ _ _ => uses_call (plainArgs_ok rfl)

theorem live_add {self : Ref} {w : World} (hl : w.Live self) (k : Socket) :
    (w.add k).Live self := by
  refine ⟨Nat.lt_succ_of_lt hl.1,?_⟩
  rw [World.add_sockets,Function.update_of_ne (Nat.ne_of_lt hl.1)]
  exact hl.2

theorem live_put {self : Ref} {w : World} (hl : w.Live self) {k : Socket}
    (hk : k.collected = false) : (w.put self k).Live self := by
  refine ⟨hl.1,?_⟩
  rw [World.put_sockets,Function.update_self]
  exact hk

theorem uses_close (hq : env.Quiet) (self : Ref) :
    Respects (Uses env self) (Socket.close env self) := by
  intro w hl
  by_cases hs : 0 ≤ (w.sockets self).s
  · rw [Socket.final_close hq hs]
    refine ⟨.single (.close self _ hl hs rfl rfl rfl),live_put ?_ hl.2⟩
    exact hl
  · rw [final_of_ok ((Socket.close_run hq self w).trans (if_neg hs))]
    exact refl_of (Uses env self) w hl

theorem uses_accept (hq : env.Quiet) (self : Ref) :
    Respects (Uses env self) (Socket.accept env self) := by
  intro w hl
  obtain ⟨c,hc⟩ : ∃ c, c = SockCall.accept SockAddr.createEmptySockaddrPaddrlen.2 := ⟨_,rfl⟩
  obtain ⟨k,hk⟩ : ∃ k, k = w.sockets self := ⟨_,rfl⟩
  have ha := attributed_event env hl c
  have hcall : (Socket.event env self c w).call = .on k.s c := by rw [hk]; rfl
  have hrun := Socket.accept_run hq self w
  simp only [← hc,← hk] at hrun
  by_cases hr : 0 ≤ (Socket.event env self c w).reply.ret
  · have hobt : (Socket.event env self c w).obtained =
        some (k.lwip,(Socket.event env self c w).reply.ret) := by
      rw [Event.obtained,hcall,hc]
      simp only [← hc,hr,if_true]
      rw [hk]
      rfl
    have hfinal : final (Socket.accept env self) w =
        (Socket.called env self "accept" c w).add (Socket.fresh k.lwip k.family k.type k.proto
          (Socket.event env self c w).reply.ret) := by
      rw [final,hrun,if_pos hr]
      cases SockAddr.unparseAddress env.host _ <;> rfl
    rw [hfinal]
    exact ⟨.single (.create _ _ ha rfl hobt hr rfl rfl rfl rfl rfl rfl),live_add hl _⟩
  · have hobt : (Socket.event env self c w).obtained = none := by
      rw [Event.obtained,hcall,hc]
      simp only [← hc,hr,if_false]
    have hcl : (Socket.event env self c w).closing = none := by
      rw [Event.closing,hcall,hc]
    rw [final_of_error (hrun.trans (if_neg hr))]
    exact ⟨.single (.call _ ha hobt hcl rfl rfl rfl),hl⟩

theorem steps_socket (hq : env.Quiet) (lwip : Instance) (family socketType proto : ℤ) :
    Respects (Steps env) (LwIP.socket env lwip family socketType proto) := by
  intro w
  have hrun := LwIP.socket_run hq lwip family socketType proto w
  cases hcall : LwIP.socketCall family socketType proto with
  | error e =>
    rw [hcall] at hrun
    rw [final_of_error hrun]
    exact .single (.quiet rfl rfl rfl)
  | ok call =>
    obtain ⟨d,t,p,rfl⟩ := LwIP.socketCall_ok hcall
    have ha : Attributed w (LwIP.socketEvent env lwip (.socket d t p) w) :=
      .inl ⟨rfl,fun _ _ h => nomatch h⟩
    rw [hcall] at hrun
    by_cases hr : 0 ≤ (LwIP.socketEvent env lwip (.socket d t p) w).reply.ret
    · rw [final_of_ok (hrun.trans (if_pos hr))]
      exact .single (.create _ (Socket.fresh lwip family socketType proto
        (LwIP.socketEvent env lwip (.socket d t p) w).reply.ret) ha rfl (if_pos hr) hr rfl rfl rfl
        rfl rfl rfl)
    · rw [final_of_error (hrun.trans (if_neg hr))]
      exact .single (.call _ ha (if_neg hr) rfl rfl rfl rfl)

variable (env) in
theorem steps_collect {self : Ref} {w : World} (hl : w.Live self) :
    Steps env w (final (Socket.collect env self) w) := by
  cases hf : (w.sockets self).finalizer with
  | none =>
    have hfinal : final (Socket.collect env self) w = w.put self (w.sockets self).gone := by
      simp [final,Socket.collect,bind_apply,hf,Socket.modifySocket,Socket.gone,World.put]
    rw [hfinal]
    exact .single (.forget self hl hf rfl rfl rfl)
  | some fd =>
    obtain ⟨e,he⟩ : ∃ e : Event, e = ⟨(w.sockets self).lwip,some self,.on fd .close,
      env.reply w.log (w.sockets self).lwip (.on fd .close)⟩ := ⟨_,rfl⟩
    have hfinal : final (Socket.collect env self) w =
        (w.record e).put self (w.sockets self).gone := by
      simp [final,Socket.collect,bind_apply,hf,Socket.modifySocket,Socket.gone,World.put,he]
    rw [hfinal]
    exact .single (.finalize self fd e.reply hl hf (by rw [he]; rfl) rfl rfl)

theorem steps_onLive {self : Ref} {m : PyM Unit} (hm : Respects (Uses env self) m) :
    Respects (Steps env) (onLive self m) := by
  intro w
  rw [final_onLive]
  split
  · next hl => exact (hm w hl).1
  · exact .refl

instance : IsPreorder World (Steps env) where
  refl _ := .refl
  trans _ _ _ := ReflTransGen.trans

/-- Every operation is a sequence of ownership steps. -/
theorem steps_exec (hq : env.Quiet) (op : SocketOp) : Respects (Steps env) (op.exec env) := by
  cases op with
  | socket lwip family socketType proto =>
    exact respects_discard (steps_socket hq lwip family socketType proto)
  | accept self => exact steps_onLive (respects_discard (uses_accept hq self))
  | close self => exact steps_onLive (uses_close hq self)
  | exit self => exact steps_onLive (uses_close hq self)
  | collect self =>
    intro w
    rw [SocketOp.exec,final_onLive]
    split
    · next hl => exact steps_collect env hl
    · exact .refl
  | method self m => exact steps_onLive (uses_method self m)

theorem steps_run (hq : env.Quiet) (ops : List SocketOp) :
    Steps env World.init (socketRun env ops) := by
  refine runAll_respects (fun m hm => ?_) World.init
  obtain ⟨op,_,rfl⟩ := List.mem_map.mp hm
  exact steps_exec hq op

/-- An object without a finalizer has closed its descriptor. -/
theorem Owned.closed_once {w : World} (h : Owned w) {self : Ref} (hs : self < w.count)
    (hf : (w.sockets self).finalizer = none) : closes self w.log = [(w.sockets self).origin] := by
  rcases h.state self hs with ⟨ha,_⟩ | ⟨_,hcl⟩
  · rw [ha.2.1] at hf
    cases hf
  · exact hcl

/-- An armed object has not closed its descriptor. -/
theorem Owned.open_of_armed {w : World} (h : Owned w) {self : Ref} (hs : self < w.count)
    (harm : (w.sockets self).Armed) : closes self w.log = [] := by
  rcases h.state self hs with ⟨_,hcl⟩ | ⟨hr,_⟩
  · exact hcl
  · have hf := hr.1
    rw [harm.2.1] at hf
    cases hf

/-- An object whose number is not real has closed its descriptor. -/
theorem Owned.closed_of_negative {w : World} (h : Owned w) {self : Ref} (hs : self < w.count)
    (hn : (w.sockets self).s < 0) : closes self w.log = [(w.sockets self).origin] := by
  rcases h.state self hs with ⟨ha,_⟩ | ⟨_,hcl⟩
  · have hv := h.valid self hs
    rw [← ha.1] at hv
    omega
  · exact hcl

theorem closed_after_close (hq : env.Quiet) {w : World} (h : Owned w) {self : Ref}
    (hl : w.Live self) :
    closes self (final (Socket.close env self) w).log = [(w.sockets self).origin] := by
  by_cases hs : 0 ≤ (w.sockets self).s
  · have ho := h.steps (uses_close hq self w hl).1
    rw [Socket.final_close hq hs] at ho ⊢
    rw [ho.closed_once hl.1 (by simp [Socket.shut])]
    simp [Socket.shut,Socket.origin]
  · rw [final_of_ok ((Socket.close_run hq self w).trans (if_neg hs))]
    exact h.closed_of_negative hl.1 (by omega)

theorem closed_after_collect {w : World} (h : Owned w) {self : Ref} (hl : w.Live self) :
    closes self (final (Socket.collect env self) w).log = [(w.sockets self).origin] := by
  have ho := h.steps (steps_collect env hl)
  have hk : (final (Socket.collect env self) w).sockets self = (w.sockets self).gone ∧
      (final (Socket.collect env self) w).count = w.count := by
    cases hf : (w.sockets self).finalizer <;>
      simp [final,Socket.collect,bind_apply,hf,Socket.modifySocket,Socket.gone]
  rw [ho.closed_once (by rw [hk.2]; exact hl.1) (by rw [hk.1]; rfl),hk.1]
  rfl

/-- Every descriptor has one owner and is closed once: after any run of operations, objects and
descriptors handed out correspond one to one; an object has passed its descriptor to
`lwip_close` at most once, and exactly once after `close`, a `with` block or the collector; and
a call on behalf of an object passes its own descriptor, not yet closed, or `-1`. If lwIP does
not hand out a descriptor twice at a time, the number is then nobody else's. -/
theorem descriptor_ownership (hq : env.Quiet) (ops : List SocketOp) :
    (obtained (socketRun env ops).log).reverse =
      ((List.range (socketRun env ops).count).map fun self =>
        ((socketRun env ops).sockets self).origin) ∧
    (∀ self < (socketRun env ops).count,
      closes self (socketRun env ops).log = [] ∨
      closes self (socketRun env ops).log = [((socketRun env ops).sockets self).origin]) ∧
    (∀ self < (socketRun env ops).count,
      ((socketRun env ops).sockets self).s < 0 ∨
        ((socketRun env ops).sockets self).collected = true →
      closes self (socketRun env ops).log = [((socketRun env ops).sockets self).origin]) ∧
    (∀ self, (socketRun env ops).Live self →
      ∀ op ∈ [SocketOp.close self,.exit self,.collect self],
        closes self (final (op.exec env) (socketRun env ops)).log =
          [((socketRun env ops).sockets self).origin]) ∧
    Disciplined (socketRun env ops).log ∧
    (FreshDescriptors env → Held (socketRun env ops).log) := by
  have hrun := steps_run hq ops
  have ho : Owned (socketRun env ops) := owned_init.steps hrun
  refine ⟨ho.origin,?_,?_,?_,ho.calls,?_⟩
  · intro self hself
    rcases ho.state self hself with ⟨_,hcl⟩ | ⟨_,hcl⟩
    · exact .inl hcl
    · exact .inr hcl
  · intro self hself hgone
    rcases hgone with hn | hcol
    · exact ho.closed_of_negative hself hn
    · rcases ho.state self hself with ⟨ha,_⟩ | ⟨_,hcl⟩
      · rw [ha.2.2] at hcol
        cases hcol
      · exact hcl
  · intro self hl op hop
    have hlive : ∀ m, final (onLive self m) (socketRun env ops) = final m (socketRun env ops) :=
      fun m => (final_onLive _).trans (if_pos hl)
    simp only [List.mem_cons,List.not_mem_nil,or_false] at hop
    rcases hop with rfl | rfl | rfl
    · rw [SocketOp.exec,hlive]
      exact closed_after_close hq ho hl
    · rw [SocketOp.exec,hlive]
      exact closed_after_close hq ho hl
    · rw [SocketOp.exec,hlive]
      exact closed_after_collect ho hl
  · exact fun hf => (holding_init.steps hf hrun).held

end Steps

/-- The lowest number of the first four that is not outstanding. -/
def lowestFree (log : List Event) (inst : Instance) : ℤ :=
  match [0,1,2,3].find? fun n => !outstanding log (inst,n) with
  | some n => n
  | none => -1

/-- An lwIP with a table of four descriptors, in which every other call succeeds. -/
def tableReply (log : List Event) (inst : Instance) : Call → Reply
  | .socket _ _ _ => { ret := lowestFree log inst }
  | .on _ (.accept _) => { ret := lowestFree log inst }
  | _ => { ret := 0 }

theorem lowestFree_outstanding {log : List Event} {inst : Instance}
    (h : 0 ≤ lowestFree log inst) : outstanding log (inst,lowestFree log inst) = false := by
  unfold lowestFree at h ⊢
  split at h
  · next n hn => simpa using List.find?_some hn
  · omega

theorem tableReply_fresh : FreshDescriptors (quietEnv tableReply) := by
  intro log inst owner call h hobt
  have hlow : 0 ≤ lowestFree log inst ∧ (inst,lowestFree log inst) = h := by
    unfold Event.obtained at hobt
    split at hobt
    · next hcall =>
      dsimp only at hcall
      subst hcall
      split at hobt
      · next hr => exact ⟨hr,Option.some.inj hobt⟩
      · cases hobt
    · next hcall =>
      dsimp only at hcall
      subst hcall
      split at hobt
      · next hr => exact ⟨hr,Option.some.inj hobt⟩
      · cases hobt
    · cases hobt
  rw [← hlow.2]
  exact lowestFree_outstanding hlow.1

/-- Two sockets, the first closed and its number handed out again, the closed one used. -/
def reuseOps : List SocketOp :=
  [.socket 0 AF_INET SOCK_STREAM 0,.socket 0 AF_INET SOCK_STREAM 0,.close 0,
    .socket 0 AF_INET SOCK_STREAM 0,.method 0 (.recv 16 0),.close 0,.collect 1,.exit 2]

theorem descriptor_ownership_reuse :
    (obtained (socketRun (quietEnv tableReply) reuseOps).log).reverse = [(0,0),(0,1),(0,0)] ∧
    closes 0 (socketRun (quietEnv tableReply) reuseOps).log = [(0,0)] ∧
    closes 1 (socketRun (quietEnv tableReply) reuseOps).log = [(0,1)] ∧
    Held (socketRun (quietEnv tableReply) reuseOps).log := by
  have h := descriptor_ownership (quietEnv_quiet tableReply) reuseOps
  refine ⟨?_,?_,?_,h.2.2.2.2.2 tableReply_fresh⟩
  · rw [h.1]
    decide
  · rw [h.2.2.1 0 (by decide) (by decide)]
    decide
  · rw [h.2.2.1 1 (by decide) (by decide)]
    decide

end LwipPy
