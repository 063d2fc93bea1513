import LwipPy.SendAll

/-! What a method asks of lwIP: the calls it can make, with their arguments, on the descriptor
the object has when it is called. -/
namespace LwipPy

open Program

variable (env : Env)

/-- The calls a method can make. -/
def Method.Makes : Method → SockCall → Prop
  | .fileno, _ => False
  | .bind a, c => ∃ sa, SockAddr.parseAddress env.host a AF_UNSPEC = .ok sa ∧ c = .bind sa sa.len
  | .listen n, c => c = .listen (if n < 0 then 0 else n)
  | .connect a, c | .connectEx a, c =>
    ∃ sa, SockAddr.parseAddress env.host a AF_UNSPEC = .ok sa ∧ c = .connect sa sa.len
  | .recv n flags, c => c = .recv n flags
  | .recvInto b n flags, c => ∃ k, Socket.intoLength b n = .ok k ∧ c = .recv k flags
  | .recvfrom n flags, c => ∃ l, c = .recvfrom n flags l
  | .recvfromInto b n flags, c => ∃ k l, Socket.intoLength b n = .ok k ∧ c = .recvfrom k flags l
  | .recvmsg n _ flags, c => ∃ l size, newChars n = .ok size ∧ c = .recvmsg l [size] flags
  | .recvmsgInto bs _ flags, c => ∃ l, c = .recvmsg l (bs.map Buffer.len) flags
  | .send b flags, c => c = .send (b.offered env) flags
  | .sendall b flags _, c => ∃ n < b.len, c = .send ((b.drop n).offered env) flags
  | .sendto b flags a, c => ∃ sa, SockAddr.parseAddress env.host a AF_UNSPEC = .ok sa ∧
      c = .sendto (b.offered env) flags sa sa.len
  | .sendmsg bs _ flags _, c => ∃ name, c = .sendmsg name (bs.map (Buffer.offered env)) flags
  | .shutdown how, c => c = .shutdown how
  | .getpeername, c => ∃ l, c = .getpeername l
  | .getsockname, c => ∃ l, c = .getsockname l
  | .lwipSetsockopt .., c | .setsockopt .., c => ∃ l o v n, c = .setsockopt l o v n
  | .lwipGetsockopt .., c | .getsockopt .., c => ∃ l o n, c = .getsockopt l o n
  | .lwipIoctl cmd arg, c => c = .ioctl cmd arg
  | .lwipFcntl cmd val, c => c = .fcntl cmd val
  | .getblocking, c | .gettimeout, c => c = .fcntl F_GETFL 0
  | .setblocking b, c => c = .ioctl FIONBIO (if b then 0 else 1)
  | .settimeout v, c => (v = none ∧ c = .ioctl FIONBIO 0) ∨ (v = some 0 ∧ c = .ioctl FIONBIO 1)

/-- Calls of the kind `P`, made on the number of `self`, were added to the log. -/
def Calling (self : Ref) (P : SockCall → Prop) (w w' : World) : Prop :=
  w'.sockets = w.sockets ∧ w'.count = w.count ∧ ∃ new, w'.log = new ++ w.log ∧
    ∀ e ∈ new, e.owner = some self ∧ e.inst = (w.sockets self).lwip ∧
      ∃ c, P c ∧ e.call = .on (w.sockets self).s c

instance (self : Ref) (P : SockCall → Prop) : IsPreorder World (Calling self P) where
  refl _ := ⟨rfl,rfl,[],rfl,by simp⟩
  trans w t u h h' := by
    obtain ⟨hs,hc,new,hlog,hnew⟩ := h
    obtain ⟨hs',hc',new',hlog',hnew'⟩ := h'
    refine ⟨hs'.trans hs,hc'.trans hc,new' ++ new,by rw [hlog',hlog,List.append_assoc],?_⟩
    intro e he
    rcases List.mem_append.mp he with hmem | hmem
    · rw [← hs]
      exact hnew' e hmem
    · exact hnew e hmem

/-- The arguments, if they convert, make a call of the kind `P`. -/
def ArgsMake (P : SockCall → Prop) (args : Except PyErr SockCall) : Prop :=
  ∀ c, args = .ok c → P c

section Calling

variable {env} {self : Ref} {P Q : SockCall → Prop}

theorem calling_same {w w' : World} (hlog : w'.log = w.log) (hs : w'.sockets = w.sockets)
    (hc : w'.count = w.count) : Calling self P w w' :=
  ⟨hs,hc,[],hlog,by simp⟩

theorem argsMake_bind {α : Type} {x : Except PyErr α} {f : α → Except PyErr SockCall}
    (h : ∀ a, x = .ok a → ArgsMake P (f a)) : ArgsMake P (x >>= f) := by
  intro c hc
  obtain ⟨a,ha,hfa⟩ := except_bind_ok.mp hc
  exact h a ha c hfa

theorem argsMake_ok {c : SockCall} (h : P c) : ArgsMake P (.ok c) := by
  rintro _ ⟨⟩
  exact h

theorem argsMake_signed {bits : ℕ} {x : ℤ} {f : ℤ → Except PyErr SockCall}
    (h : ArgsMake P (f x)) : ArgsMake P (toSigned bits x >>= f) := by
  refine argsMake_bind fun y hy => ?_
  obtain rfl : y = x := (toSigned_ok.mp hy).1
  exact h

theorem argsMake_unsigned {bits : ℕ} {x : ℤ} {f : ℕ → Except PyErr SockCall}
    (h : ∀ n : ℕ, (n : ℤ) = x → ArgsMake P (f n)) : ArgsMake P (toUnsigned bits x >>= f) :=
  argsMake_bind fun n hn => h n (toUnsigned_ok.mp hn).1

theorem calling_call {args : Except PyErr SockCall} (h : ArgsMake P args) :
    Respects (Calling self P) (Socket.call env self args) := by
  cases args with
  | error e => exact fun w => refl_of (Calling self P) w
  | ok c =>
    refine fun w => ⟨rfl,rfl,[Socket.event env self c w],rfl,fun e he => ?_⟩
    rw [List.mem_singleton.mp he]
    exact ⟨rfl,rfl,c,h c rfl,rfl⟩

theorem calling_checked {name : String} {args : Except PyErr SockCall} (h : ArgsMake P args) :
    Respects (Calling self P) (Socket.checked env self name args) :=
  respects_checkRetErrno (fun _ _ => calling_same rfl rfl rfl)
    (fun _ _ => calling_same rfl rfl rfl) name (calling_call h)

theorem calling_returns {α : Type} {name : String} {args : Except PyErr SockCall}
    (h : ArgsMake P args) (f : Reply → α) :
    Respects (Calling self P) (Socket.checked env self name args >>= fun r => pure (f r)) :=
  respects_bind (calling_checked h) fun _ => respects_pure _

omit env in
theorem respects_converted {α β : Type} {R : World → World → Prop} [IsPreorder World R]
    {x : Except PyErr α} {f : α → PyM β} (h : ∀ a, x = .ok a → Respects R (f a)) :
    Respects R (lift x >>= f) := by
  cases x with
  | ok a => exact h a rfl
  | error e => exact respects_throw e

theorem calling_send (b : Buffer) (flags : ℤ) (h : P (.send (b.offered env) flags)) :
    Respects (Calling self P) (Socket.send env self b flags) :=
  calling_returns (argsMake_signed (argsMake_ok h)) _

theorem drop_drop (b : Buffer) (m n : ℕ) : (b.drop m).drop n = b.drop (m+n) := by
  simp [Buffer.drop,List.drop_drop,Nat.add_mul,Nat.sub_sub]

theorem drop_zero (b : Buffer) : b.drop 0 = b := by
  simp [Buffer.drop]

theorem calling_sendall (flags : ℤ) (fuel : ℕ) (b : Buffer)
    (h : ∀ n < b.len, P (.send ((b.drop n).offered env) flags)) :
    Respects (Calling self P) (Socket.sendall env self flags fuel b) := by
  induction fuel generalizing b with
  | zero =>
    rw [Socket.sendall]
    split
    · exact respects_pure _
    · exact respects_throw _
  | succ fuel ih =>
    rw [Socket.sendall]
    split
    · exact respects_pure _
    · next hlen =>
      have hfirst : P (.send (b.offered env) flags) := by
        simpa only [drop_zero] using h 0 (Nat.pos_of_ne_zero hlen)
      refine respects_bind (calling_send b flags hfirst) fun sent => ih _ fun n hn => ?_
      rw [Buffer.len_drop] at hn
      rw [drop_drop]
      exact h (sent.toNat+n) (by omega)

theorem argsMake_recv {x flags : ℤ} {f : ℕ → ℤ → SockCall}
    (h : ∀ n : ℕ, (n : ℤ) = x → P (f n flags)) :
    ArgsMake P (do return f (← toUnsigned 64 x) (← toSigned 32 flags)) :=
  argsMake_unsigned fun n hn => argsMake_signed (argsMake_ok (h n hn))

theorem calling_ioctl (cmd arg : ℤ) (h : P (.ioctl cmd arg)) :
    Respects (Calling self P) (Socket.lwipIoctl env self cmd arg) := by
  refine respects_converted fun argp hargp => ?_
  obtain rfl : argp = arg := (toSigned_ok.mp hargp).1
  exact calling_returns (argsMake_signed (argsMake_ok h)) _

theorem calling_setblocking (b : Bool) (h : P (.ioctl FIONBIO (if b then 0 else 1))) :
    Respects (Calling self P) (Socket.setblocking env self b) :=
  respects_bind (calling_ioctl _ _ h) fun _ => respects_pure _

theorem calling_fcntl (cmd val : ℤ) (h : P (.fcntl cmd val)) :
    Respects (Calling self P) (Socket.lwipFcntl env self cmd val) :=
  calling_returns (argsMake_signed (argsMake_signed (argsMake_ok h))) _

theorem calling_getblocking (h : P (.fcntl F_GETFL 0)) :
    Respects (Calling self P) (Socket.getblocking env self) :=
  respects_bind (calling_fcntl _ _ h) fun _ => respects_pure _

theorem calling_setsockopt (l o : ℤ) (v : OptValue) (n : Option ℤ)
    (h : ∀ l o v n, P (.setsockopt l o v n)) :
    Respects (Calling self P) (Socket.lwipSetsockopt env self l o v n) :=
  respects_bind (respects_lift _) fun _ => respects_bind
    (calling_checked (argsMake_signed (argsMake_signed
      (argsMake_unsigned fun _ _ => argsMake_ok (h _ _ _ _))))) fun _ => respects_pure _

theorem calling_getsockopt (l o : ℤ) (n : Option ℤ) (h : ∀ l o n, P (.getsockopt l o n)) :
    Respects (Calling self P) (Socket.lwipGetsockopt env self l o n) := by
  have hcall : ∀ optlen, Respects (Calling self P) (Socket.checked env self "getsockopt"
      (return .getsockopt (← toSigned 32 l) (← toSigned 32 o) optlen)) :=
    fun _ => calling_checked (argsMake_signed (argsMake_signed (argsMake_ok (h _ _ _))))
  cases n with
  | none =>
    exact respects_bind (respects_pure _) fun _ => respects_bind (respects_lift _) fun _ =>
      respects_bind (hcall _) fun _ => respects_pure _
  | some n =>
    exact respects_bind (respects_lift _) fun _ => respects_bind (respects_lift _) fun _ =>
      respects_bind (hcall _) fun _ => respects_pure _

end Calling

variable {env} in
/-- A call through `check_ret_errno` on the number of `self`: it returns what lwIP answered, or
it raises, before the call or because the answer is negative. -/
theorem spec_checked (hq : env.Quiet) (self : Ref) (name : String) (args : Except PyErr SockCall)
    (P : World → Prop) :
    Spec P (Socket.checked env self name args)
      (fun r t => ∃ c w, args = .ok c ∧ P w ∧ r = (Socket.event env self c w).reply ∧ 0 ≤ r.ret ∧
        t = Socket.called env self name c w)
      (fun e t => ∃ w, P w ∧ ((t = entered name w ∧ args = .error e) ∨
        ∃ c, args = .ok c ∧ (Socket.event env self c w).reply.ret < 0 ∧
          e = Socket.callError env self name c w ∧ t = Socket.called env self name c w)) := by
  intro w hw
  cases args with
  | error e =>
    rw [Socket.checked_args (enters_quiet env hq name w)]
    exact ⟨w,hw,.inl ⟨rfl,rfl⟩⟩
  | ok c =>
    rw [Socket.checked_ok_run hq]
    by_cases hr : 0 ≤ (Socket.event env self c w).reply.ret
    · rw [if_pos hr]
      exact ⟨c,w,rfl,hw,rfl,hr,rfl⟩
    · rw [if_neg hr]
      exact ⟨w,hw,.inr ⟨c,rfl,by omega,rfl,rfl⟩⟩

/-- A method makes only its own calls, on the number its object has, and changes no object. -/
theorem method_makes (self : Ref) (m : Method) :
    Respects (Calling self (m.Makes env)) (m.exec env self) := by
  cases m with
  | fileno => exact respects_discard (respects_bind respects_getSocket fun _ => respects_pure _)
  | bind a | connect a =>
    exact respects_discard (respects_converted fun sa hsa =>
      calling_returns (argsMake_ok ⟨sa,hsa,rfl⟩) _)
  | listen n =>
    have hmakes : (Method.listen n).Makes env (.listen (if n < 0 then 0 else n)) := rfl
    exact respects_discard (calling_returns (argsMake_signed (argsMake_ok hmakes)) _)
  | connectEx a =>
    exact respects_discard (respects_converted fun sa hsa =>
      respects_bind (calling_call (argsMake_ok ⟨sa,hsa,rfl⟩)) fun _ => respects_pure _)
  | recv n flags =>
    exact respects_discard (respects_bind (respects_lift _) fun _ =>
      calling_returns (argsMake_recv fun k hk => by rw [Method.Makes,hk]) _)
  | recvInto b n flags =>
    exact respects_discard (respects_converted fun k hk => calling_returns
      (argsMake_recv (f := fun l flags => .recv l flags) fun l hl => ⟨k,hk,by rw [hl]⟩) _)
  | recvfrom n flags =>
    exact respects_discard (respects_bind (respects_lift _) fun _ => respects_bind
      (calling_checked (argsMake_recv (f := fun l flags => .recvfrom l flags _)
        fun l hl => ⟨_,by rw [hl]⟩)) fun _ =>
      respects_bind (respects_lift _) fun _ => respects_pure _)
  | recvfromInto b n flags =>
    exact respects_discard (respects_converted fun k hk => respects_bind
      (calling_checked (argsMake_recv (f := fun l flags => .recvfrom l flags _)
        fun l hl => ⟨k,_,hk,by rw [hl]⟩)) fun _ =>
      respects_bind (respects_lift _) fun _ => respects_pure _)
  | recvmsg n anc flags =>
    exact respects_discard (respects_guard _ _ _ (respects_converted fun size hsize =>
      respects_bind (calling_checked (argsMake_signed (argsMake_ok ⟨_,size,hsize,rfl⟩))) fun _ =>
        respects_bind (respects_lift _) fun _ => respects_pure _))
  | recvmsgInto bs anc flags =>
    exact respects_discard (respects_guard _ _ _ (respects_guard _ _ _ (respects_bind
      (calling_checked (argsMake_signed (argsMake_ok ⟨_,rfl⟩))) fun _ =>
        respects_bind (respects_lift _) fun _ => respects_pure _)))
  | send b flags => exact respects_discard (calling_send b flags rfl)
  | sendall b flags fuel => exact calling_sendall flags fuel b fun n hn => ⟨n,hn,rfl⟩
  | sendto b flags a =>
    exact respects_discard (respects_converted fun sa hsa =>
      calling_returns (argsMake_signed (argsMake_ok ⟨sa,hsa,rfl⟩)) _)
  | sendmsg bs anc flags a =>
    refine respects_discard (respects_guard _ _ _ (respects_guard _ _ _ ?_))
    cases a with
    | none =>
      exact respects_bind (respects_pure _) fun _ =>
        calling_returns (argsMake_signed (argsMake_ok ⟨_,rfl⟩)) _
    | some a =>
      exact respects_bind (respects_map _ (respects_lift _)) fun _ =>
        calling_returns (argsMake_signed (argsMake_ok ⟨_,rfl⟩)) _
  | shutdown how =>
    have hmakes : (Method.shutdown how).Makes env (.shutdown how) := rfl
    exact calling_returns (argsMake_signed (argsMake_ok hmakes)) _
  | getpeername | getsockname =>
    exact respects_discard (respects_bind (calling_checked (argsMake_ok ⟨_,rfl⟩))
      fun _ => respects_lift _)
  | lwipSetsockopt l o v n => exact calling_setsockopt l o v n fun _ _ _ _ => ⟨_,_,_,_,rfl⟩
  | setsockopt l o v n =>
    exact respects_bind (respects_lift _) fun _ =>
      calling_setsockopt _ _ v n fun _ _ _ _ => ⟨_,_,_,_,rfl⟩
  | lwipGetsockopt l o n =>
    exact respects_discard (calling_getsockopt l o n fun _ _ _ => ⟨_,_,_,rfl⟩)
  | getsockopt l o n =>
    exact respects_discard (respects_bind (respects_lift _) fun _ =>
      calling_getsockopt _ _ n fun _ _ _ => ⟨_,_,_,rfl⟩)
  | lwipIoctl cmd arg => exact respects_discard (calling_ioctl cmd arg rfl)
  | lwipFcntl cmd val => exact respects_discard (calling_fcntl cmd val rfl)
  | getblocking => exact respects_discard (calling_getblocking rfl)
  | setblocking b => exact calling_setblocking b rfl
  | gettimeout =>
    refine respects_discard (respects_bind (calling_getblocking rfl) fun b => ?_)
    cases b <;> exact respects_pure _
  | settimeout v =>
    cases v with
    | none => exact calling_setblocking true (.inl ⟨rfl,rfl⟩)
    | some v =>
      rw [Method.exec,Socket.settimeout]
      split
      · next hv =>
        rw [hv]
        exact calling_setblocking false (.inr ⟨rfl,rfl⟩)
      · exact respects_throw _

/-- The socket that lwIP takes a call to be about. -/
def Event.addressee (log : List Event) (e : Event) : Option Ref :=
  match e.call with
  | .on n _ => holder log (e.inst,n)
  | _ => none

/-- A number that was handed out is not negative. -/
theorem holder_nonneg {log : List Event} {h : Instance × ℤ} {i : Ref}
    (hh : holder log h = some i) : 0 ≤ h.2 := by
  induction log with
  | nil => cases hh
  | cons e log ih =>
    rw [holder] at hh
    split at hh
    · next hobt =>
      unfold Event.obtained at hobt
      split at hobt
      all_goals first
        | (split at hobt <;> cases hobt; assumption)
        | cases hobt
    · exact ih hh

/-- A call on a live object passes -1, or lwIP takes it to be about that object. -/
theorem addressee_event {self : Ref} {w : World} (h : Holding w) (hl : w.Live self)
    (c : SockCall) : (w.sockets self).s = -1 ∨
      (Socket.event env self c w).addressee w.log = some self :=
  (h.attributed (attributed_event env hl c)).2 self _ c rfl rfl

def SocketOp.Makes : SocketOp → Call → Prop
  | .socket .., c => ∃ d t p, c = .socket d t p
  | .accept _, c => ∃ s l, c = .on s (.accept l)
  | .close _, c | .exit _, c | .collect _, c => ∃ s, c = .on s .close
  | .method _ m, c => ∃ s sc, m.Makes env sc ∧ c = .on s sc

/-- Calls of the kind `P` were added to the log. -/
def Adds (P : Call → Prop) (w w' : World) : Prop :=
  ∃ new, w'.log = new ++ w.log ∧ ∀ e ∈ new, P e.call

instance (P : Call → Prop) : IsPreorder World (Adds P) where
  refl _ := ⟨[],rfl,by simp⟩
  trans w t u h h' := by
    obtain ⟨new,hlog,hnew⟩ := h
    obtain ⟨new',hlog',hnew'⟩ := h'
    refine ⟨new' ++ new,by rw [hlog',hlog,List.append_assoc],fun e he => ?_⟩
    rcases List.mem_append.mp he with hmem | hmem
    · exact hnew' e hmem
    · exact hnew e hmem

section Adds

variable {env} {P : Call → Prop}

theorem adds_same {w w' : World} (h : w'.log = w.log) : Adds P w w' := ⟨[],h,by simp⟩

theorem Calling.adds {self : Ref} {Q : SockCall → Prop} {w w' : World} (h : Calling self Q w w') :
    Adds (fun c => ∃ s sc, Q sc ∧ c = .on s sc) w w' := by
  obtain ⟨_,_,new,hlog,hnew⟩ := h
  refine ⟨new,hlog,fun e he => ?_⟩
  obtain ⟨_,_,c,hc,hcall⟩ := hnew e he
  exact ⟨_,c,hc,hcall⟩

theorem adds_enter {inst : Instance} {owner : Option Ref} {c : Call} (h : P c) :
    Respects (Adds P) (enter env inst owner c) := by
  refine fun w => ⟨[⟨inst,owner,c,env.reply w.log inst c⟩],rfl,fun e he => ?_⟩
  rw [List.mem_singleton.mp he]
  exact h

theorem adds_checked {self : Ref} {name : String} {c : SockCall} (h : ∀ s, P (.on s c)) :
    Respects (Adds P) (Socket.checked env self name (.ok c)) :=
  respects_checkRetErrno (fun _ _ => adds_same rfl) (fun _ _ => adds_same rfl) name
    fun w => adds_enter (h (w.sockets self).s) w

theorem adds_init (lwip : Instance) (family type proto fd : ℤ) :
    Respects (Adds P) (Socket.init lwip family type proto fd) :=
  Socket.respects_init fun _ => adds_same rfl

theorem adds_modifySocket (self : Ref) (f : Socket → Socket) :
    Respects (Adds P) (Socket.modifySocket self f) :=
  fun _ => adds_same rfl

theorem adds_socket {lwip : Instance} {family socketType proto : ℤ}
    (h : ∀ d t p, P (.socket d t p)) :
    Respects (Adds P) (LwIP.socket env lwip family socketType proto) := by
  refine respects_bind (respects_checkRetErrno (fun _ _ => adds_same rfl)
    (fun _ _ => adds_same rfl) "socket" (respects_converted fun c hc => ?_)) fun _ =>
      adds_init _ _ _ _ _
  obtain ⟨d,t,p,rfl⟩ := LwIP.socketCall_ok hc
  exact adds_enter (h d t p)

end Adds

theorem op_makes (op : SocketOp) : Respects (Adds (op.Makes env)) (op.exec env) := by
  cases op with
  | socket lwip family socketType proto =>
    exact respects_discard (adds_socket fun d t p => ⟨d,t,p,rfl⟩)
  | accept self =>
    exact respects_onLive (respects_discard (respects_accept
      (fun l => adds_checked fun s => ⟨s,l,rfl⟩) adds_init))
  | close self | exit self =>
    exact respects_onLive (respects_close (adds_checked fun s => ⟨s,rfl⟩)
      (adds_modifySocket self _))
  | collect self =>
    exact respects_onLive (respects_collect (fun inst fd => adds_enter ⟨fd,rfl⟩)
      (adds_modifySocket self _))
  | method self m => exact respects_onLive fun w => (method_makes env self m w).adds

end LwipPy
