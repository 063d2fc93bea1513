import LwipPy.PollHistory
import LwipPy.SocketRuns

/-! The saved errno between operations. `check_ret_errno` leaves it cleared whatever lwIP does;
the calls that go past it are `lwip_connect` in `connect_ex`, which `socketpair` uses too, and
`lwip_close` in a finalizer. -/
namespace LwipPy

open Program

/-- The saved errno is clear, and `check_ret_errno` has never found it otherwise on entry. -/
def Clean (w : World) : Prop :=
  w.errno = 0 ∧ ∀ errno name, Warning.errnoBefore errno name ∉ w.warnings

theorem clean_init : Clean World.init := ⟨rfl,fun _ _ => List.not_mem_nil⟩

/-- The log only grows; and a clean world stays clean if every new call among the `direct` ones
left errno alone or clear. -/
def ErrnoKept (direct : Event → Bool) (w w' : World) : Prop :=
  ∃ new, w'.log = new ++ w.log ∧
    ((∀ e ∈ new, direct e = true → e.reply.errno.getD 0 = 0) → Clean w → Clean w')

instance (direct : Event → Bool) : IsPreorder World (ErrnoKept direct) where
  refl _ := ⟨[],rfl,fun _ h => h⟩
  trans a b c h h' := by
    obtain ⟨new,hlog,hk⟩ := h
    obtain ⟨new',hlog',hk'⟩ := h'
    refine ⟨new' ++ new,?_,fun hd hc => ?_⟩
    · rw [hlog',hlog,List.append_assoc]
    · exact hk' (fun e he => hd e (List.mem_append_left _ he))
        (hk (fun e he => hd e (List.mem_append_right _ he)) hc)

/-- A program that at most asks lwIP, and raises only before that. -/
def Asks (m : PyM Reply) : Prop :=
  ∀ w, match m w with
    | .ok _ t => ∃ new, t.log = new ++ w.log ∧ t.warnings = w.warnings
    | .error _ t => t = w

section Kept

variable {env : Env} {direct : Event → Bool}

theorem errnoKept_same {w w' : World} (hlog : w'.log = w.log) (hc : Clean w → Clean w') :
    ErrnoKept direct w w' :=
  ⟨[],by rw [hlog]; rfl,fun _ => hc⟩

theorem clean_checkedOut (name : String) (r : Reply) {w : World}
    (hw : ∀ errno f, Warning.errnoBefore errno f ∉ w.warnings) : Clean (checkedOut name r w) := by
  refine ⟨rfl,fun errno f hmem => ?_⟩
  rw [checkedOut] at hmem
  dsimp only at hmem
  split_ifs at hmem
  · rcases List.mem_cons.mp hmem with h | h
    · cases h
    · exact hw errno f h
  · exact hw errno f hmem

def LogGrows (w w' : World) : Prop := ∃ new, w'.log = new ++ w.log

instance : IsPreorder World LogGrows where
  refl _ := ⟨[],rfl⟩
  trans _ _ _ h h' := by
    obtain ⟨new,hlog⟩ := h
    obtain ⟨new',hlog'⟩ := h'
    exact ⟨new' ++ new,by rw [hlog',hlog,List.append_assoc]⟩

/-- `check_ret_errno` cleans up after whatever it wraps. -/
theorem errnoKept_checkRetErrno (name : String) {function : PyM Reply} (hf : Asks function) :
    Respects (ErrnoKept direct) (checkRetErrno env name function) := by
  intro w
  have hgrows : Respects LogGrows function := by
    intro s
    have h := hf s
    cases hs : function s with
    | ok r t =>
      rw [hs] at h
      obtain ⟨new,hlog,_⟩ := h
      exact final_of_ok hs ▸ ⟨new,hlog⟩
    | error e t =>
      rw [hs] at h
      rw [final_of_error hs,h]
      exact refl_of LogGrows s
  obtain ⟨new,hlog⟩ : LogGrows w (final (checkRetErrno env name function) w) :=
    respects_checkRetErrno (fun _ _ => ⟨[],rfl⟩) (fun _ _ => ⟨[],rfl⟩) name hgrows w
  refine ⟨new,hlog,fun _ hc => ?_⟩
  have henter : Enters env name w := .inl hc.1
  have hbefore : ∀ errno f, Warning.errnoBefore errno f ∉ (entered name w).warnings := by
    simpa [entered,hc.1] using hc.2
  have h := hf (entered name w)
  have hrun := checkRetErrno_enters env henter function
  cases hs : function (entered name w) with
  | ok r t =>
    rw [hs] at h hrun
    obtain ⟨_,_,hwarn⟩ := h
    rw [final_of_lift hrun]
    exact clean_checkedOut name r (by rwa [hwarn])
  | error e t =>
    rw [hs] at h hrun
    rw [final_of_error hrun,h]
    exact ⟨rfl,hbefore⟩

theorem asks_enter (inst : Instance) (owner : Option Ref) {c : Except PyErr Call} :
    Asks (lift c >>= fun call => enter env inst owner call) := by
  intro w
  cases c with
  | ok call => exact ⟨[_],rfl,rfl⟩
  | error e => rfl

theorem asks_call (self : Ref) (c : Except PyErr SockCall) : Asks (Socket.call env self c) := by
  intro w
  cases c with
  | ok c => exact ⟨[_],rfl,rfl⟩
  | error e => rfl

theorem errnoKept_checked (self : Ref) (name : String) (c : Except PyErr SockCall) :
    Respects (ErrnoKept direct) (Socket.checked env self name c) :=
  errnoKept_checkRetErrno name (asks_call self c)

theorem errnoKept_enter {inst : Instance} {owner : Option Ref} {call : Call}
    (hd : ∀ e : Event, e.call = call → direct e = true) :
    Respects (ErrnoKept direct) (enter env inst owner call) := by
  intro w
  refine ⟨[⟨inst,owner,call,env.reply w.log inst call⟩],rfl,fun hclear hc => ⟨?_,hc.2⟩⟩
  have h₀ := hclear _ List.mem_cons_self (hd _ rfl)
  have herrno : (final (enter env inst owner call) w).errno =
      (env.reply w.log inst call).errno.getD w.errno := rfl
  rw [herrno,hc.1]
  exact h₀

theorem errnoKept_connect (self : Ref) (hd : ∀ e : Event, ∀ s sa n,
      e.call = .on s (.connect sa n) → direct e = true) (sa : SockAddr) (n : ℕ) :
    Respects (ErrnoKept direct) (Socket.call env self (.ok (.connect sa n))) := by
  intro w
  have h : Respects (ErrnoKept direct) (enter env (w.sockets self).lwip (some self)
      (.on (w.sockets self).s (.connect sa n))) := errnoKept_enter fun e he => hd e _ sa n he
  exact h w

theorem errnoKept_method (self : Ref) (m : Method) (hd : (∃ a, m = .connectEx a) →
      ∀ e : Event, ∀ s sa n, e.call = .on s (.connect sa n) → direct e = true) :
    Respects (ErrnoKept direct) (m.exec env self) :=
  respects_method (fun name c _ => errnoKept_checked self name c) m fun hm =>
    errnoKept_connect self (hd hm)

theorem errnoKept_init (lwip : Instance) (family type proto fd : ℤ) :
    Respects (ErrnoKept direct) (Socket.init lwip family type proto fd) :=
  Socket.respects_init fun _ => errnoKept_same rfl id

theorem errnoKept_modifySocket (self : Ref) (f : Socket → Socket) :
    Respects (ErrnoKept direct) (Socket.modifySocket self f) :=
  fun _ => errnoKept_same rfl id

theorem errnoKept_close (self : Ref) : Respects (ErrnoKept direct) (Socket.close env self) :=
  respects_close (errnoKept_checked self "close" _) (errnoKept_modifySocket self _)

theorem errnoKept_accept (self : Ref) : Respects (ErrnoKept direct) (Socket.accept env self) :=
  respects_accept (fun _ => errnoKept_checked self "accept" _) errnoKept_init

theorem errnoKept_socket (lwip : Instance) (family socketType proto : ℤ) :
    Respects (ErrnoKept direct) (LwIP.socket env lwip family socketType proto) :=
  respects_bind (errnoKept_checkRetErrno "socket" (asks_enter lwip none)) fun _ =>
    errnoKept_init _ _ _ _ _

theorem errnoKept_collect (self : Ref) (hd : ∀ e : Event, ∀ s, e.call = .on s .close →
      direct e = true) : Respects (ErrnoKept direct) (Socket.collect env self) :=
  respects_collect (fun _ fd => errnoKept_enter fun e he => hd e fd he)
    (errnoKept_modifySocket self _)

/-- Around a poll object, `check_ret_errno` does to the world what it always does. -/
theorem final_poll_checked (fds : List Pollfd) (timeout : Timeout) (w : World) (o : LwipPoll) :
    (final (LwipPoll.checkRetErrno env "poll" (LwipPoll.lwipPoll env fds timeout)) (w,o)).1 =
      final (checkRetErrno env "poll" do
        let n ← lift timeout.toInt
        enter env o.lwip none (.poll fds fds.length n)) w := by
  by_cases henter : Enters env "poll" w
  · have hpoll := LwipPoll.polled_enters henter fds timeout o
    have hcheck := checkRetErrno_enters env henter do
      let n ← lift timeout.toInt
      enter env o.lwip none (.poll fds fds.length n)
    cases ht : timeout.toInt with
    | error e =>
      rw [ht] at hpoll hcheck
      rw [final_of_error hpoll,final_of_error hcheck]
    | ok n =>
      rw [ht] at hpoll hcheck
      exact (congrArg Prod.fst (final_of_lift hpoll)).trans (final_of_lift hcheck).symm
  · rw [final_of_error (LwipPoll.polled_raises henter fds timeout o),
      final_of_error (checkRetErrno_raises env henter _)]

theorem respects_poll {R : World → World → Prop} [IsPreorder World R] {timeout : Timeout}
    (h : ∀ (o : LwipPoll) fds, Respects R (checkRetErrno env "poll" do
      let n ← lift timeout.toInt
      enter env o.lwip none (.poll fds fds.length n))) :
    Respects (OnFst R) (LwipPoll.poll env timeout) := by
  have hsame : ∀ f : LwipPoll → LwipPoll, Respects (OnFst R) (LwipPoll.modifySelf f) :=
    fun _ c => refl_of R c.1
  refine respects_bind ?_ fun fds => respects_bind ?_ fun r => ?_
  · refine respects_bind respects_get ?_
    rintro ⟨w,o⟩
    dsimp only
    split
    · split
      · exact respects_pure _
      · exact respects_throw _
    · exact respects_bind (respects_lift _) fun _ => respects_bind (hsame _) fun _ =>
        respects_pure _
  · rintro ⟨w,o⟩
    have hcall := h o fds w
    rw [← final_poll_checked] at hcall
    exact hcall
  · dsimp only
    split
    · exact respects_bind (respects_throw _) fun _ => respects_pure _
    · exact respects_pure _

theorem errnoKept_poll (timeout : Timeout) :
    Respects (OnFst (ErrnoKept direct)) (LwipPoll.poll env timeout) := by
  refine respects_poll fun o fds => errnoKept_checkRetErrno "poll" fun s => ?_
  cases timeout.toInt with
  | ok n => exact ⟨[_],rfl,rfl⟩
  | error e => rfl

/-- Where `lwip_connect` counts as a direct call, all calls of a pair keep errno. -/
theorem errnoKept_calls (hd : ∀ e : Event, ∀ s sa n, e.call = .on s (.connect sa n) →
      direct e = true) : LwIP.CallsRespect env (ErrnoKept direct) where
  socket := errnoKept_socket
  accept := errnoKept_accept
  close := errnoKept_close
  method s m := errnoKept_method s m fun _ => hd

end Kept

/-- The operations of a program, with a poll object in any state. -/
inductive ApiOp
  | sockets (op : SocketOp)
  | socketpair (lwip : Instance) (family type proto : ℤ) (blocking : Bool)
  | poll (o : LwipPoll) (timeout : Timeout)

variable (env : Env)

def ApiOp.exec : ApiOp → PyM Unit
  | .sockets op => op.exec env
  | .socketpair lwip family type proto blocking =>
    discard (LwIP.socketpair env lwip family type proto blocking)
  | .poll o timeout => withLocal o (discard (LwipPoll.poll env timeout))

def apiRun (ops : List ApiOp) (w : World) : World := runAll (ops.map (ApiOp.exec env)) w

def Event.connects (e : Event) : Bool :=
  match e.call with
  | .on _ (.connect _ _) => true
  | _ => false

/-- The calls that an operation makes past `check_ret_errno`. -/
def ApiOp.direct : ApiOp → Event → Bool
  | .sockets (.method _ (.connectEx _)), _ => true
  | .sockets (.collect _), _ => true
  | .socketpair _ _ _ _ _, e => e.connects
  | _, _ => false

/-- The calls made between two worlds of a run. -/
def newEvents (w w' : World) : List Event := w'.log.take (w'.log.length - w.log.length)

/-- In every step, the calls past `check_ret_errno` leave errno alone or clear. -/
def DirectCallsClear : List ApiOp → World → Prop
  | [], _ => True
  | op::ops, w =>
    (∀ e ∈ newEvents w (final (op.exec env) w), op.direct e = true → e.reply.errno.getD 0 = 0) ∧
    DirectCallsClear ops (final (op.exec env) w)

variable {env}

theorem newEvents_append {w w' : World} {new : List Event} (h : w'.log = new ++ w.log) :
    newEvents w w' = new := by
  rw [newEvents,h,List.length_append,Nat.add_sub_cancel,List.take_left]

theorem errnoKept_exec (op : ApiOp) : Respects (ErrnoKept op.direct) (op.exec env) := by
  cases op with
  | sockets op =>
    cases op with
    | socket lwip family socketType proto => exact respects_discard (errnoKept_socket _ _ _ _)
    | accept self => exact respects_onLive (respects_discard (errnoKept_accept self))
    | close self => exact respects_onLive (errnoKept_close self)
    | exit self => exact respects_onLive (errnoKept_close self)
    | collect self => exact respects_onLive (errnoKept_collect self fun _ _ _ => rfl)
    | method self m =>
      refine respects_onLive (errnoKept_method self m ?_)
      rintro ⟨a,rfl⟩ _ _ _ _ _
      rfl
  | socketpair lwip family type proto blocking =>
    refine respects_discard ((errnoKept_calls ?_).socketpair lwip family type proto blocking)
    intro e s sa n he
    rw [ApiOp.direct,Event.connects,he]
  | poll o timeout => exact respects_withLocal (respects_discard (errnoKept_poll timeout))

theorem clean_exec {op : ApiOp} {w : World} (hw : Clean w)
    (hd : ∀ e ∈ newEvents w (final (op.exec env) w), op.direct e = true →
      e.reply.errno.getD 0 = 0) : Clean (final (op.exec env) w) := by
  obtain ⟨new,hlog,hk⟩ := errnoKept_exec op w
  rw [newEvents_append hlog] at hd
  exact hk hd hw

/-- In a run whose calls past `check_ret_errno` leave errno alone or clear, errno is clear
whenever an operation has returned or raised, and `check_ret_errno` never warns of an errno it
found on entry. -/
theorem errno_never_leaks {ops : List ApiOp} {w : World} (hw : Clean w)
    (hd : DirectCallsClear env ops w) :
    ∀ done, done <+: ops → Clean (apiRun env done w) := by
  induction ops generalizing w with
  | nil =>
    intro done hdone
    rw [List.prefix_nil.mp hdone]
    exact hw
  | cons op ops ih =>
    intro done hdone
    cases done with
    | nil => exact hw
    | cons op' done =>
      obtain ⟨rfl,hdone'⟩ := List.cons_prefix_cons.mp hdone
      exact ih (clean_exec hw hd.1) hd.2 done hdone'

/-- An lwIP whose socket 0 connects in the background (`EINPROGRESS`), and which succeeds in
everything else. -/
def pendingReply (log : List Event) (_ : Instance) : Call → Reply
  | .socket _ _ _ => { ret := (obtained log).length }
  | .on 0 (.connect _ _) => { ret := -1, errno := some 115 }
  | _ => { ret := 0 }

/-- Socket 0 is connected with `connect`, which raises; socket 1 with `connect_ex`. -/
def checkedConnect : List ApiOp :=
  [.sockets (.socket 0 AF_INET SOCK_STREAM 0),.sockets (.socket 0 AF_INET SOCK_STREAM 0),
    .sockets (.method 0 (.setblocking false)),.sockets (.method 0 (.connect (.inet "127.0.0.1" 80))),
    .sockets (.method 1 (.connectEx (.inet "127.0.0.1" 80))),.poll (LwipPoll.init 0) .none]

theorem errno_never_leaks_connect :
    DirectCallsClear (quietEnv pendingReply) checkedConnect World.init ∧
    Clean (apiRun (quietEnv pendingReply) checkedConnect World.init) := by
  have hd : DirectCallsClear (quietEnv pendingReply) checkedConnect World.init := by
    refine ⟨?_,?_,?_,?_,?_,?_,trivial⟩ <;> decide +kernel
  exact ⟨hd,errno_never_leaks clean_init hd checkedConnect (List.prefix_refl _)⟩

/-- The same connect through `connect_ex`, and another operation. -/
def uncheckedConnect : List ApiOp :=
  [.sockets (.socket 0 AF_INET SOCK_STREAM 0),.sockets (.method 0 (.setblocking false)),
    .sockets (.method 0 (.connectEx (.inet "127.0.0.1" 80))),.sockets (.method 0 .getsockname)]

/-- A connect in progress leaks its errno out of `connect_ex`, and the next operation finds it. -/
theorem connect_ex_leaks_errno :
    (apiRun (quietEnv pendingReply) (uncheckedConnect.take 3) World.init).errno = 115 ∧
    Warning.errnoBefore 115 "getsockname" ∈
      (apiRun (quietEnv pendingReply) uncheckedConnect World.init).warnings ∧
    ¬ ∀ (env : Env) (ops : List ApiOp) (w : World), w.errno = 0 →
      (apiRun env ops w).errno = 0 := by
  have herrno :
      (apiRun (quietEnv pendingReply) (uncheckedConnect.take 3) World.init).errno = 115 := by
    decide +kernel
  refine ⟨herrno,by decide +kernel,fun h => ?_⟩
  have h₀ := h (quietEnv pendingReply) (uncheckedConnect.take 3) World.init rfl
  rw [herrno] at h₀
  cases h₀

end LwipPy
