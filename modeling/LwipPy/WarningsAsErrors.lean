import LwipPy.SocketPair

/-! Descriptors when the warnings of `check_ret_errno` are exceptions: one is raised before lwIP
is called, the other one after the call took effect. -/
namespace LwipPy

open Program

/-- lwIP handed something out and left an errno, and the warning about that raises. -/
def Spurious (env : Env) (name : String) (r : Reply) : Prop :=
  0 ≤ r.ret ∧ r.errno.getD 0 ≠ 0 ∧
  env.warningRaises (.errnoOnSuccess name r.ret (r.errno.getD 0)) = true

section Outcome

variable {env : Env} {name : String} {r : Reply}

theorem outcome_spurious (h : Spurious env name r) : outcome env name r (r.errno.getD 0) =
    .error (.runtimeWarning (.errnoOnSuccess name r.ret (r.errno.getD 0))) := by
  have hn : ¬ r.ret < 0 := Int.not_lt.mpr h.1
  simp [outcome,hn,h.2]

theorem outcome_accepted (hr : 0 ≤ r.ret) (h : ¬ Spurious env name r) :
    outcome env name r (r.errno.getD 0) = .ok r := by
  have hn : ¬ r.ret < 0 := Int.not_lt.mpr hr
  have hno : ¬ (r.errno.getD 0 ≠ 0 ∧
      env.warningRaises (.errnoOnSuccess name r.ret (r.errno.getD 0)) = true) := fun hh => h ⟨hr,hh⟩
  rw [outcome,if_neg hn,if_neg hno]

theorem outcome_failed (hr : r.ret < 0) : outcome env name r (r.errno.getD 0) =
    .error (failure env name r (r.errno.getD 0)) := by
  rw [outcome,if_pos hr]

end Outcome

/-- A new object holds the descriptor, or it was passed to `lwip_close`. -/
def Secured (w t : World) (inst : Instance) (fd : ℤ) : Prop :=
  (∃ k, w.count ≤ k ∧ k < t.count ∧ (t.sockets k).lwip = inst ∧ (t.sockets k).descriptor = fd ∧
    (t.sockets k).Armed) ∨
  ∃ e ∈ newEvents w t, e.inst = inst ∧ e.call = .on fd .close

variable (env : Env)

/-- A `close` that raises before `lwip_close` was called leaves the descriptor with the socket. -/
def CloseKeeps (self : Ref) (w : World) : Prop :=
  ∀ err t, Socket.close env self w = .error err t → t.log = w.log →
    (t.sockets self).s = (w.sockets self).s ∨ ∃ fd, (t.sockets self).finalizer = some fd

/-- Where the program raises, a descriptor it got from lwIP is secured. -/
def RaiseKeeps {α : Type} (m : PyM α) (inst : Instance) (w : World) : Prop :=
  ∀ err t, m w = .error err t → ∀ e ∈ newEvents w t, 0 ≤ e.reply.ret →
    Secured w t inst e.reply.ret

section Keeps

variable {env} {self : Ref} {w : World}

theorem newEvents_same {w t : World} (h : t.log = w.log) : newEvents w t = [] :=
  newEvents_append h

theorem newEvents_one {w t : World} {e : Event} (h : t.log = e :: w.log) : newEvents w t = [e] :=
  newEvents_append h

/-- Whatever `check_ret_errno` does, the socket is closed afterwards. -/
theorem close_eq (hs : 0 ≤ (w.sockets self).s) :
    Socket.close env self w = match Socket.checked env self "close" (.ok .close) w with
      | .ok _ t => .ok ⟨⟩ (t.put self (t.sockets self).shut)
      | .error e t => .error e (t.put self (t.sockets self).shut) := by
  cases h : Socket.checked env self "close" (.ok .close) w <;>
    simp [Socket.close,bind_apply,map_run,tryFinally_apply,hs,h,Socket.modifySocket,Socket.shut,
      World.put]

/-- Once `lwip_close` was called, the log shows it. -/
theorem close_enters (hs : 0 ≤ (w.sockets self).s) (henter : Enters env "close" w) :
    (final (Socket.close env self) w).log = Socket.event env self .close w :: w.log := by
  have hrun : Socket.close env self w = _ := close_eq hs
  rw [Socket.checked_enters henter] at hrun
  cases ho : outcome env "close" (Socket.event env self .close w).reply
      ((Socket.event env self .close w).reply.errno.getD 0) <;>
    simp [final,hrun,ho]

/-- A warning before that leaves a socket without a descriptor. -/
theorem close_raises (hs : 0 ≤ (w.sockets self).s) (henter : ¬ Enters env "close" w) :
    ∃ t, Socket.close env self w = .error (.runtimeWarning (.errnoBefore w.errno "close")) t ∧
      t.log = w.log ∧ (t.sockets self).s = -1 ∧ (t.sockets self).finalizer = none := by
  have hrun : Socket.close env self w = _ := close_eq hs
  rw [Socket.checked_raises henter] at hrun
  exact ⟨_,hrun,rfl,by simp [Socket.shut],by simp [Socket.shut]⟩

theorem closeKeeps_iff :
    CloseKeeps env self w ↔ ¬ (0 ≤ (w.sockets self).s ∧ ¬ Enters env "close" w) := by
  by_cases hs : 0 ≤ (w.sockets self).s
  · by_cases henter : Enters env "close" w
    · refine iff_of_true (fun err t h hlog => ?_) fun h => h.2 henter
      have hcalled : (final (Socket.close env self) w).log = _ := close_enters hs henter
      rw [final_of_error h,hlog] at hcalled
      exact absurd hcalled.symm (List.cons_ne_self _ _)
    · refine iff_of_false (fun h => ?_) fun h => h ⟨hs,henter⟩
      obtain ⟨t,hrun,hlog,hclosed,hnone⟩ : ∃ t, Socket.close env self w = _ ∧ _ :=
        close_raises hs henter
      rcases h _ t hrun hlog with hkept | ⟨fd,hfd⟩
      · rw [hclosed] at hkept
        omega
      · simp [hnone] at hfd
  · refine iff_of_true (fun err t h => ?_) fun h => hs h.1
    simp [Socket.close,bind_apply,hs] at h

theorem not_secured {t : World} {e : Event} (hlog : t.log = e :: w.log) (hcount : t.count = w.count)
    (hcall : e.call.isClose = false) (inst : Instance) (fd : ℤ) : ¬ Secured w t inst fd := by
  rintro (⟨k,hle,hlt,_⟩ | ⟨e',he',_,hclose⟩)
  · omega
  · rw [newEvents_one hlog,List.mem_singleton] at he'
    rw [he'] at hclose
    simp [hclose,Call.isClose] at hcall

theorem init_secured (lwip : Instance) (family type proto fd : ℤ) {t : World}
    (hcount : t.count = w.count) :
    Secured w (t.add (Socket.fresh lwip family type proto fd)) lwip fd := by
  refine .inl ⟨w.count,le_rfl,by simp [hcount],?_⟩
  simp [hcount,Socket.fresh,Socket.Armed]

theorem socket_enters {lwip : Instance} {family socketType proto : ℤ} {call : Call}
    (henter : Enters env "socket" w) (hcall : LwIP.socketCall family socketType proto = .ok call) :
    let r := (LwIP.socketEvent env lwip call w).reply
    LwIP.socket env lwip family socketType proto w =
      match outcome env "socket" r (r.errno.getD 0) with
      | .ok r => Socket.init lwip family socketType proto r.ret (LwIP.socketCalled env lwip call w)
      | .error e => .error e (LwIP.socketCalled env lwip call w) := by
  dsimp only
  have hbody : (lift (.ok call) >>= fun call => enter env lwip none call) (entered "socket" w) =
      .ok (LwIP.socketEvent env lwip call w).reply
        ((entered "socket" w).record (LwIP.socketEvent env lwip call w)) := rfl
  have hchecked : checkRetErrno env "socket"
      (lift (.ok call) >>= fun call => enter env lwip none call) w =
      lift (outcome env "socket" (LwIP.socketEvent env lwip call w).reply
        ((LwIP.socketEvent env lwip call w).reply.errno.getD 0))
        (LwIP.socketCalled env lwip call w) := by
    rw [checkRetErrno_enters env henter,hbody]
    rfl
  rw [LwIP.socket,bind_apply,hcall,hchecked]
  cases outcome env "socket" _ _ <;> rfl

theorem raiseKeeps_of_same {α : Type} {m : PyM α} {inst : Instance}
    (h : ∀ err t, m w = .error err t → t.log = w.log) : RaiseKeeps m inst w := by
  intro err t hrun e he
  simp [newEvents_same (h err t hrun)] at he

/-- A program that makes one call through `check_ret_errno`, and then an object for what it got. -/
theorem raiseKeeps_iff_of_call {α : Type} {m : PyM α} {rest : Reply → PyM α} {name : String}
    {inst : Instance} {t : World} {e : Event} (hlog : t.log = e :: w.log)
    (hcount : t.count = w.count) (hcall : e.call.isClose = false)
    (hrun : m w = match outcome env name e.reply (e.reply.errno.getD 0) with
      | .ok r => rest r t
      | .error err => .error err t)
    (hrest : 0 ≤ e.reply.ret → ∀ err u, rest e.reply t = .error err u →
      u.log = t.log ∧ Secured w u inst e.reply.ret) :
    RaiseKeeps m inst w ↔ ¬ Spurious env name e.reply := by
  by_cases hspurious : Spurious env name e.reply
  · rw [outcome_spurious hspurious] at hrun
    refine iff_of_false (fun h => ?_) fun h => h hspurious
    have hmem : e ∈ newEvents w t := by simp [newEvents_one hlog]
    exact not_secured hlog hcount hcall inst _ (h _ t hrun e hmem hspurious.1)
  · refine iff_of_true (fun err u h e' he' hr => ?_) hspurious
    by_cases hneg : e.reply.ret < 0
    · rw [outcome_failed hneg] at hrun
      cases hrun.symm.trans h
      rw [newEvents_one hlog,List.mem_singleton] at he'
      rw [he'] at hr
      omega
    · have hpos : 0 ≤ e.reply.ret := Int.not_lt.mp hneg
      rw [outcome_accepted hpos hspurious] at hrun
      obtain ⟨hsame,hsecured⟩ := hrest hpos err u (hrun.symm.trans h)
      rw [newEvents_one (hsame.trans hlog),List.mem_singleton] at he'
      rwa [he']

theorem socketKeeps_iff {lwip : Instance} {family socketType proto : ℤ} :
    RaiseKeeps (LwIP.socket env lwip family socketType proto) lwip w ↔ ¬ (Enters env "socket" w ∧
      ∃ call, LwIP.socketCall family socketType proto = .ok call ∧
        Spurious env "socket" (env.reply w.log lwip call)) := by
  by_cases henter : Enters env "socket" w
  · cases hcall : LwIP.socketCall family socketType proto with
    | error e =>
      have hrun : LwIP.socket env lwip family socketType proto w =
          .error e (entered "socket" w) := by
        rw [LwIP.socket,bind_apply,checkRetErrno_enters env henter,hcall]
        rfl
      refine iff_of_true (raiseKeeps_of_same fun err t h => ?_) (by simp)
      cases hrun.symm.trans h
      rfl
    | ok call =>
      obtain ⟨d,t,p,rfl⟩ := LwIP.socketCall_ok hcall
      have hcount : (LwIP.socketCalled env lwip (.socket d t p) w).count = w.count := rfl
      have hkeeps : RaiseKeeps (LwIP.socket env lwip family socketType proto) lwip w ↔ _ :=
        raiseKeeps_iff_of_call rfl hcount rfl (socket_enters henter hcall) fun hr err u h => by
          rw [Socket.init_run,if_neg (Int.not_lt.mpr hr)] at h
          cases h
      rw [hkeeps]
      simp [henter,LwIP.socketEvent]
  · refine iff_of_true (raiseKeeps_of_same fun err t h => ?_) fun h => henter h.1
    have hrun : LwIP.socket env lwip family socketType proto w = _ :=
      bind_of_error (checkRetErrno_raises env henter _)
    cases hrun.symm.trans h
    rfl

def acceptCall : SockCall := .accept SockAddr.createEmptySockaddrPaddrlen.2

/-- What `accept` does with the answer. -/
def acceptRest (env : Env) (k : Socket) (r : Reply) : PyM (Ref × Address) := do
  let s ← Socket.init k.lwip k.family k.type k.proto r.ret
  return (s,← lift ((r.name.getD SockAddr.createEmptySockaddr).unparseAddress env.host))

theorem accept_eq : Socket.accept env self w =
    (Socket.checked env self "accept" (.ok acceptCall) >>= acceptRest env (w.sockets self)) w := rfl

/-- The object is made before anything can raise. -/
theorem acceptRest_error {k : Socket} {r : Reply} (hr : 0 ≤ r.ret) {t u : World} {err : PyErr}
    (h : acceptRest env k r t = .error err u) :
    u = t.add (Socket.fresh k.lwip k.family k.type k.proto r.ret) := by
  rw [acceptRest,bind_apply,Socket.init_run,if_neg (Int.not_lt.mpr hr)] at h
  cases haddr : (r.name.getD SockAddr.createEmptySockaddr).unparseAddress env.host with
  | ok a => simp [bind_apply,haddr] at h
  | error e =>
    simp only [bind_apply,haddr,lift_error] at h
    cases h
    rfl

theorem accept_enters (henter : Enters env "accept" w) :
    let r := (Socket.event env self acceptCall w).reply
    Socket.accept env self w = match outcome env "accept" r (r.errno.getD 0) with
      | .ok r => acceptRest env (w.sockets self) r (Socket.called env self "accept" acceptCall w)
      | .error e => .error e (Socket.called env self "accept" acceptCall w) := by
  dsimp only
  have hrun : Socket.checked env self "accept" (.ok acceptCall) w = _ :=
    Socket.checked_enters henter self acceptCall
  rw [accept_eq,bind_apply,hrun]
  cases outcome env "accept" _ _ <;> rfl

theorem acceptKeeps_iff :
    RaiseKeeps (Socket.accept env self) (w.sockets self).lwip w ↔ ¬ (Enters env "accept" w ∧
      Spurious env "accept" (Socket.event env self acceptCall w).reply) := by
  by_cases henter : Enters env "accept" w
  · have hcount : (Socket.called env self "accept" acceptCall w).count = w.count := rfl
    have hkeeps : RaiseKeeps (Socket.accept env self) (w.sockets self).lwip w ↔ _ :=
      raiseKeeps_iff_of_call rfl hcount rfl (accept_enters henter) fun hr err u h => by
        rw [acceptRest_error hr h]
        exact ⟨rfl,init_secured _ _ _ _ _ hcount⟩
    rw [hkeeps]
    simp [henter]
  · refine iff_of_true (raiseKeeps_of_same fun err t h => ?_) fun h => henter h.1
    have hrun := Socket.checked_raises henter self (.ok acceptCall)
    rw [accept_eq,bind_of_error hrun] at h
    cases h
    rfl

end Keeps

/-- With any filter of the warnings, errno on entry and answer of lwIP: `close` keeps its descriptor
exactly if it is not kept from the call by the warning about an errno left behind, `LwIP.socket`
and `Socket.accept` exactly if lwIP does not hand them a descriptor together with an errno
whose warning raises. -/
theorem descriptor_kept_iff (env : Env) (self : Ref) (lwip : Instance)
    (family socketType proto : ℤ) (w : World) :
    (CloseKeeps env self w ↔ ¬ (0 ≤ (w.sockets self).s ∧ ¬ Enters env "close" w)) ∧
    (RaiseKeeps (LwIP.socket env lwip family socketType proto) lwip w ↔ ¬ (Enters env "socket" w ∧
      ∃ call, LwIP.socketCall family socketType proto = .ok call ∧
        Spurious env "socket" (env.reply w.log lwip call))) ∧
    (RaiseKeeps (Socket.accept env self) (w.sockets self).lwip w ↔ ¬ (Enters env "accept" w ∧
      Spurious env "accept" (Socket.event env self acceptCall w).reply)) :=
  ⟨closeKeeps_iff,socketKeeps_iff,acceptKeeps_iff⟩

/-- Warnings are exceptions, and every call succeeds with errno 11 left behind. -/
def strictEnv : Env :=
  { quietEnv fun _ _ _ => { ret := 3, errno := some 11 } with warningRaises := fun _ => true }

/-- An open socket, with the errno of a connect in progress. -/
def staleWorld : World := { World.init.add (Socket.fresh 0 AF_INET SOCK_STREAM 0 0) with errno := 115 }

/-- `close` forgets a descriptor that was not closed; `LwIP.socket` loses the one it got. -/
theorem warning_loses_descriptor :
    raised (Socket.close strictEnv 0) staleWorld =
      some (.runtimeWarning (.errnoBefore 115 "close")) ∧
    (final (Socket.close strictEnv 0) staleWorld).log = [] ∧
    (final (Socket.close strictEnv 0) staleWorld).sockets 0 =
      ⟨0,AF_INET,SOCK_STREAM,0,-1,none,0,false⟩ ∧
    raised (LwIP.socket strictEnv 0 AF_INET SOCK_STREAM 0) World.init =
      some (.runtimeWarning (.errnoOnSuccess "socket" 3 11)) ∧
    (final (LwIP.socket strictEnv 0 AF_INET SOCK_STREAM 0) World.init).count = 0 ∧
    ¬ ∀ (env : Env) (self : Ref) (w : World), CloseKeeps env self w := by
  have hclose : raised (Socket.close strictEnv 0) staleWorld =
      some (.runtimeWarning (.errnoBefore 115 "close")) := by decide
  have hlog : (final (Socket.close strictEnv 0) staleWorld).log = [] := by decide
  have hsocket : (final (Socket.close strictEnv 0) staleWorld).sockets 0 =
      ⟨0,AF_INET,SOCK_STREAM,0,-1,none,0,false⟩ := by decide
  refine ⟨hclose,hlog,hsocket,by decide,by decide,fun h => ?_⟩
  cases hrun : Socket.close strictEnv 0 staleWorld with
  | ok r t => simp [raised,hrun] at hclose
  | error err t =>
    rw [final_of_error hrun] at hlog hsocket
    rcases h strictEnv 0 staleWorld err t hrun hlog with hkept | ⟨fd,hfd⟩
    · rw [hsocket] at hkept
      cases hkept
    · rw [hsocket] at hfd
      cases hfd

end LwipPy
