import LwipPy.Socket

/-! The methods of a `Socket` other than `accept` and `close`, taken together. All of them
reach lwIP through calls on the descriptor of the object itself that neither create nor close
a descriptor, and all but `connect_ex` through `check_ret_errno`: whatever those calls respect,
every method respects. -/
namespace LwipPy

open Program

/-- A call that neither creates nor closes a descriptor. -/
def SockCall.plain : SockCall → Bool
  | .accept _ => false
  | .close => false
  | _ => true

/-- The call prepared by a method, if its arguments convert, is a plain one. -/
def PlainArgs (c : Except PyErr SockCall) : Prop := ∀ sc, c = .ok sc → sc.plain = true

theorem plainArgs_ok {sc : SockCall} (h : sc.plain = true) : PlainArgs (.ok sc) := by
  rintro _ ⟨⟩
  exact h

theorem plainArgs_bind {α : Type} (x : Except PyErr α) {f : α → Except PyErr SockCall}
    (hf : ∀ a, PlainArgs (f a)) : PlainArgs (x >>= f) := by
  intro sc h
  obtain ⟨a,_,ha⟩ := except_bind_ok.mp h
  exact hf a sc ha

/-- A method with its arguments. -/
inductive Method
  | fileno
  | bind (address : Address)
  | listen (backlog : ℤ)
  | connect (address : Address)
  | connectEx (address : Address)
  | recv (bufsize flags : ℤ)
  | recvInto (buffer : Buffer) (nbytes flags : ℤ)
  | recvfrom (bufsize flags : ℤ)
  | recvfromInto (buffer : Buffer) (nbytes flags : ℤ)
  | recvmsg (bufsize ancbufsize flags : ℤ)
  | recvmsgInto (buffers : List Buffer) (ancbufsize flags : ℤ)
  | send (payload : Buffer) (flags : ℤ)
  | sendall (payload : Buffer) (flags : ℤ) (fuel : ℕ)
  | sendto (payload : Buffer) (flags : ℤ) (address : Address)
  | sendmsg (buffers : List Buffer) (ancdata : Bool) (flags : ℤ) (address : Option Address)
  | shutdown (how : ℤ)
  | getpeername
  | getsockname
  | lwipSetsockopt (level optname : ℤ) (value : OptValue) (optlen : Option ℤ)
  | setsockopt (level optname : ℤ) (value : OptValue) (optlen : Option ℤ)
  | lwipGetsockopt (level optname : ℤ) (buflen : Option ℤ)
  | getsockopt (level optname : ℤ) (buflen : Option ℤ)
  | lwipIoctl (cmd arg : ℤ)
  | lwipFcntl (cmd val : ℤ)
  | getblocking
  | setblocking (blocking : Bool)
  | gettimeout
  | settimeout (value : Option ℚ)
  deriving DecidableEq

variable (env : Env)

/-- Call the method and drop its result. -/
def Method.exec (self : Ref) : Method → PyM Unit
  | .fileno => discard (Socket.fileno self)
  | .bind a => discard (Socket.bind env self a)
  | .listen n => discard (Socket.listen env self n)
  | .connect a => discard (Socket.connect env self a)
  | .connectEx a => discard (Socket.connectEx env self a)
  | .recv n flags => discard (Socket.recv env self n flags)
  | .recvInto b n flags => discard (Socket.recvInto env self b n flags)
  | .recvfrom n flags => discard (Socket.recvfrom env self n flags)
  | .recvfromInto b n flags => discard (Socket.recvfromInto env self b n flags)
  | .recvmsg n anc flags => discard (Socket.recvmsg env self n anc flags)
  | .recvmsgInto bs anc flags => discard (Socket.recvmsgInto env self bs anc flags)
  | .send b flags => discard (Socket.send env self b flags)
  | .sendall b flags fuel => Socket.sendall env self flags fuel b
  | .sendto b flags a => discard (Socket.sendto env self b flags a)
  | .sendmsg bs anc flags a => discard (Socket.sendmsg env self bs anc flags a)
  | .shutdown how => Socket.shutdown env self how
  | .getpeername => discard (Socket.getpeername env self)
  | .getsockname => discard (Socket.getsockname env self)
  | .lwipSetsockopt l o v n => Socket.lwipSetsockopt env self l o v n
  | .setsockopt l o v n => Socket.setsockopt env self l o v n
  | .lwipGetsockopt l o n => discard (Socket.lwipGetsockopt env self l o n)
  | .getsockopt l o n => discard (Socket.getsockopt env self l o n)
  | .lwipIoctl cmd arg => discard (Socket.lwipIoctl env self cmd arg)
  | .lwipFcntl cmd val => discard (Socket.lwipFcntl env self cmd val)
  | .getblocking => discard (Socket.getblocking env self)
  | .setblocking b => Socket.setblocking env self b
  | .gettimeout => discard (Socket.gettimeout env self)
  | .settimeout v => Socket.settimeout env self v

section Respects

variable {env} {R : World → World → Prop} [IsPreorder World R] {self : Ref}

/-- The plain calls of `self` through `check_ret_errno` respect `R`. -/
def CheckedRespects (env : Env) (R : World → World → Prop) (self : Ref) : Prop :=
  ∀ name c, PlainArgs c → Respects R (Socket.checked env self name c)

variable (h : CheckedRespects env R self)
include h

omit [IsPreorder World R] in
theorem respects_checked {α : Type} (name : String) (x : Except PyErr α)
    {f : α → Except PyErr SockCall} (hf : ∀ a, PlainArgs (f a)) :
    Respects R (Socket.checked env self name (x >>= f)) :=
  h name _ (plainArgs_bind x hf)

theorem respects_send (b : Buffer) (flags : ℤ) : Respects R (Socket.send env self b flags) :=
  respects_bind (respects_checked h _ _ fun _ => plainArgs_ok rfl) fun _ => respects_pure _

theorem respects_sendall (flags : ℤ) (fuel : ℕ) (b : Buffer) :
    Respects R (Socket.sendall env self flags fuel b) := by
  induction fuel generalizing b with
  | zero =>
    rw [Socket.sendall]
    split
    · exact respects_pure _
    · exact respects_throw _
  | succ fuel ih =>
    rw [Socket.sendall]
    split
    · exact respects_pure _
    · exact respects_bind (respects_send h b flags) fun _ => ih _

theorem respects_lwipSetsockopt (l o : ℤ) (v : OptValue) (n : Option ℤ) :
    Respects R (Socket.lwipSetsockopt env self l o v n) :=
  respects_bind (respects_lift _) fun _ => respects_bind
    (respects_checked h _ _ fun _ => plainArgs_bind _ fun _ => plainArgs_bind _ fun _ =>
      plainArgs_ok rfl) fun _ => respects_pure _

theorem respects_lwipGetsockopt (l o : ℤ) (n : Option ℤ) :
    Respects R (Socket.lwipGetsockopt env self l o n) := by
  have hargs : ∀ optlen, PlainArgs
      (return .getsockopt (← toSigned 32 l) (← toSigned 32 o) optlen) :=
    fun _ => plainArgs_bind _ fun _ => plainArgs_bind _ fun _ => plainArgs_ok rfl
  have hlen : ∀ size : ℤ, Respects R (lift (toUnsigned 32 size) : PyM ℕ) :=
    fun _ => respects_lift _
  cases n with
  | none =>
    exact respects_bind (respects_pure _) fun _ => respects_bind (hlen _) fun _ =>
      respects_bind (h _ _ (hargs _)) fun _ => respects_pure _
  | some n =>
    exact respects_bind (respects_lift _) fun _ => respects_bind (hlen _) fun _ =>
      respects_bind (h _ _ (hargs _)) fun _ => respects_pure _

theorem respects_lwipIoctl (cmd arg : ℤ) : Respects R (Socket.lwipIoctl env self cmd arg) :=
  respects_bind (respects_lift _) fun _ => respects_bind
    (respects_checked h _ _ fun _ => plainArgs_ok rfl) fun _ => respects_pure _

theorem respects_lwipFcntl (cmd val : ℤ) : Respects R (Socket.lwipFcntl env self cmd val) :=
  respects_bind (respects_checked h _ _ fun _ => plainArgs_bind _ fun _ => plainArgs_ok rfl)
    fun _ => respects_pure _

theorem respects_getblocking : Respects R (Socket.getblocking env self) :=
  respects_bind (respects_lwipFcntl h _ _) fun _ => respects_pure _

theorem respects_setblocking (b : Bool) : Respects R (Socket.setblocking env self b) :=
  respects_bind (respects_lwipIoctl h _ _) fun _ => respects_pure _

theorem respects_recvLike (name : String) {β : Type} (x : Except PyErr ℕ) (flags : ℤ)
    {f : ℕ → ℤ → SockCall} (hf : ∀ n k, (f n k).plain = true) {g : Reply → PyM β}
    (hg : ∀ r, Respects R (g r)) :
    Respects R (Socket.checked env self name (do return f (← x) (← toSigned 32 flags)) >>= g) :=
  respects_bind (respects_checked h _ _ fun _ => plainArgs_bind _ fun _ => plainArgs_ok (hf _ _)) hg

omit h in
theorem respects_getSocket : Respects R (getSocket self) :=
  respects_bind respects_get fun _ => respects_pure _

omit h in
theorem respects_guard {α β : Type} (c : Prop) [Decidable c] (e : PyErr) (rest : β → PyM α)
    {m : PyM α} (hm : Respects R m) : Respects R (if c then throw e >>= rest else m) := by
  split
  · exact respects_throw (α := α) e
  · exact hm

theorem respects_method (m : Method)
    (hcall : (∃ a, m = .connectEx a) →
      ∀ sa n, Respects R (Socket.call env self (.ok (.connect sa n)))) :
    Respects R (m.exec env self) := by
  cases m with
  | fileno => exact respects_discard (respects_bind respects_getSocket fun _ => respects_pure _)
  | bind a =>
    exact respects_discard (respects_bind (respects_lift _) fun _ => respects_bind
      (h _ _ (plainArgs_ok rfl)) fun _ => respects_pure _)
  | listen n =>
    exact respects_discard (respects_bind (respects_checked h _ _ fun _ => plainArgs_ok rfl)
      fun _ => respects_pure _)
  | connect a =>
    exact respects_discard (respects_bind (respects_lift _) fun _ => respects_bind
      (h _ _ (plainArgs_ok rfl)) fun _ => respects_pure _)
  | connectEx a =>
    exact respects_discard (respects_bind (respects_lift _) fun _ => respects_bind
      (hcall ⟨a,rfl⟩ _ _) fun _ => respects_pure _)
  | recv n flags =>
    exact respects_discard (respects_bind (respects_lift _) fun _ =>
      respects_recvLike h _ _ _ (fun _ _ => rfl) fun _ => respects_pure _)
  | recvInto b n flags =>
    exact respects_discard (respects_bind (respects_lift _) fun _ =>
      respects_recvLike h _ _ _ (fun _ _ => rfl) fun _ => respects_pure _)
  | recvfrom n flags =>
    exact respects_discard (respects_bind (respects_lift _) fun _ =>
      respects_recvLike h _ _ _ (fun _ _ => rfl) fun _ =>
        respects_bind (respects_lift _) fun _ => respects_pure _)
  | recvfromInto b n flags =>
    exact respects_discard (respects_bind (respects_lift _) fun _ =>
      respects_recvLike h _ _ _ (fun _ _ => rfl) fun _ =>
        respects_bind (respects_lift _) fun _ => respects_pure _)
  | recvmsg n anc flags =>
    exact respects_discard (respects_guard _ _ _ (respects_bind (respects_lift _) fun _ =>
      respects_bind (respects_checked h _ _ fun _ => plainArgs_ok rfl) fun _ =>
        respects_bind (respects_lift _) fun _ => respects_pure _))
  | recvmsgInto bs anc flags =>
    exact respects_discard (respects_guard _ _ _ (respects_guard _ _ _ (respects_bind
      (respects_checked h _ _ fun _ => plainArgs_ok rfl) fun _ =>
        respects_bind (respects_lift _) fun _ => respects_pure _)))
  | send b flags => exact respects_discard (respects_send h b flags)
  | sendall b flags fuel => exact respects_sendall h flags fuel b
  | sendto b flags a =>
    exact respects_discard (respects_bind (respects_lift _) fun _ => respects_bind
      (respects_checked h _ _ fun _ => plainArgs_ok rfl) fun _ => respects_pure _)
  | sendmsg bs anc flags a =>
    refine respects_discard (respects_guard _ _ _ (respects_guard _ _ _ ?_))
    cases a with
    | none =>
      exact respects_bind (respects_pure _) fun _ => respects_bind
        (respects_checked h _ _ fun _ => plainArgs_ok rfl) fun _ => respects_pure _
    | some a =>
      exact respects_bind (respects_map _ (respects_lift _)) fun _ => respects_bind
        (respects_checked h _ _ fun _ => plainArgs_ok rfl) fun _ => respects_pure _
  | shutdown how =>
    exact respects_bind (respects_checked h _ _ fun _ => plainArgs_ok rfl) fun _ => respects_pure _
  | getpeername =>
    exact respects_discard (respects_bind (h _ _ (plainArgs_ok rfl)) fun _ => respects_lift _)
  | getsockname =>
    exact respects_discard (respects_bind (h _ _ (plainArgs_ok rfl)) fun _ => respects_lift _)
  | lwipSetsockopt l o v n => exact respects_lwipSetsockopt h l o v n
  | setsockopt l o v n =>
    exact respects_bind (respects_lift _) fun _ => respects_lwipSetsockopt h _ _ v n
  | lwipGetsockopt l o n => exact respects_discard (respects_lwipGetsockopt h l o n)
  | getsockopt l o n =>
    exact respects_discard (respects_bind (respects_lift _) fun _ =>
      respects_lwipGetsockopt h _ _ n)
  | lwipIoctl cmd arg => exact respects_discard (respects_lwipIoctl h cmd arg)
  | lwipFcntl cmd val => exact respects_discard (respects_lwipFcntl h cmd val)
  | getblocking => exact respects_discard (respects_getblocking h)
  | setblocking b => exact respects_setblocking h b
  | gettimeout =>
    refine respects_discard (respects_bind (respects_getblocking h) fun b => ?_)
    cases b <;> exact respects_pure _
  | settimeout v =>
    cases v with
    | none => exact respects_setblocking h true
    | some v =>
      rw [Method.exec,Socket.settimeout]
      split
      · exact respects_setblocking h false
      · exact respects_throw _

omit h in
theorem respects_close (hclose : Respects R (Socket.checked env self "close" (.ok .close)))
    (hshut : Respects R (Socket.modifySocket self fun k => { k with s := -1, finalizer := none })) :
    Respects R (Socket.close env self) := by
  refine respects_bind respects_getSocket fun k => ?_
  split
  · exact respects_tryFinally (respects_bind hclose fun _ => respects_pure _) hshut
  · exact respects_pure _

omit h in
theorem respects_accept (haccept : ∀ n, Respects R (Socket.checked env self "accept"
      (.ok (.accept n))))
    (hinit : ∀ lwip family type proto fd, Respects R (Socket.init lwip family type proto fd)) :
    Respects R (Socket.accept env self) :=
  respects_bind respects_getSocket fun _ => respects_bind (haccept _) fun _ =>
    respects_bind (hinit _ _ _ _ _) fun _ => respects_bind (respects_lift _) fun _ =>
      respects_pure _

omit h in
theorem respects_collect
    (hclose : ∀ inst fd, Respects R (enter env inst (some self) (.on fd .close)))
    (hgone : Respects R (Socket.modifySocket self fun k =>
      { k with finalizer := none, collected := true })) :
    Respects R (Socket.collect env self) := by
  refine respects_bind respects_getSocket fun k => ?_
  cases k.finalizer with
  | none => exact hgone
  | some fd => exact respects_bind (hclose _ fd) fun _ => hgone

end Respects

end LwipPy
