import LwipPy.ConnectOutcome
import LwipPy.WarningsAsErrors
import Mathlib.Data.List.Chain

/-! The connects that `socketpair` makes. It drops what `connect_ex` returns, so the call after a
connect is the same whatever lwIP answered, unless a warning about the answer raises. -/
namespace LwipPy

open Program

def Call.isGetsockname : Call → Bool
  | .on _ (.getsockname _) => true
  | _ => false

/-- The call with which `socketpair` goes on after a connect. -/
def Event.pursues (type : ℤ) (e : Event) : Bool :=
  if type = SOCK_STREAM then e.call.isAccept else e.call.isGetsockname

/-- The log grows by calls other than `lwip_connect`. -/
def Unconnected (w w' : World) : Prop :=
  ∃ new, w'.log = new ++ w.log ∧ ∀ e ∈ new, e.connects = false

instance : IsPreorder World Unconnected where
  refl _ := ⟨[],rfl,by simp⟩
  trans a b c h h' := by
    obtain ⟨new,hlog,hnew⟩ := h
    obtain ⟨new',hlog',hnew'⟩ := h'
    refine ⟨new' ++ new,by simp [hlog,hlog'],fun e he => ?_⟩
    rcases List.mem_append.mp he with h | h
    · exact hnew' e h
    · exact hnew e h

def NoConnect (c : Except PyErr SockCall) : Prop := ∀ sc, c = .ok sc → ∀ sa n, sc ≠ .connect sa n

theorem noConnect_bind {α : Type} (x : Except PyErr α) {f : α → Except PyErr SockCall}
    (hf : ∀ a, NoConnect (f a)) : NoConnect (x >>= f) := by
  intro sc h
  obtain ⟨a,_,ha⟩ := except_bind_ok.mp h
  exact hf a sc ha

section Unconnected

variable {env : Env} {self : Ref}

theorem unconnected_same {w w' : World} (h : w'.log = w.log) : Unconnected w w' :=
  ⟨[],by simp [h],by simp⟩

theorem connects_eq_false {e : Event} {s : ℤ} {c : SockCall} (hcall : e.call = .on s c)
    (hc : ∀ sa n, c ≠ .connect sa n) : e.connects = false := by
  rw [Event.connects,hcall]
  cases c with
  | connect sa n => exact absurd rfl (hc sa n)
  | _ => rfl

theorem unconnected_checked (name : String) {c : Except PyErr SockCall} (hc : NoConnect c) :
    Respects Unconnected (Socket.checked env self name c) := by
  refine respects_checkRetErrno (fun _ _ => unconnected_same rfl) (fun _ _ => unconnected_same rfl)
    name fun w => ?_
  cases c with
  | error e => exact refl_of Unconnected w
  | ok c =>
    refine ⟨[Socket.event env self c w],rfl,fun e he => ?_⟩
    rw [List.mem_singleton.mp he]
    exact connects_eq_false (c := c) rfl (hc c rfl)

theorem unconnected_bind (address : Address) :
    Respects Unconnected (Socket.bind env self address) := by
  refine respects_bind (respects_lift _) fun sa => respects_bind (unconnected_checked _ ?_)
    fun _ => respects_pure _
  rintro _ ⟨⟩
  nofun

theorem unconnected_listen (backlog : ℤ) :
    Respects Unconnected (Socket.listen env self backlog) := by
  refine respects_bind (unconnected_checked _ (noConnect_bind _ fun a => ?_))
    fun _ => respects_pure _
  rintro _ ⟨⟩
  nofun

theorem unconnected_setblocking (blocking : Bool) :
    Respects Unconnected (Socket.setblocking env self blocking) := by
  refine respects_bind ?_ fun _ => respects_pure _
  refine respects_bind (respects_lift _) fun argp =>
    respects_bind (unconnected_checked _ (noConnect_bind _ fun a => ?_)) fun _ => respects_pure _
  rintro _ ⟨⟩
  nofun

theorem unconnected_getsockname : Respects Unconnected (Socket.getsockname env self) := by
  refine respects_bind (unconnected_checked _ ?_) fun _ => respects_lift _
  rintro _ ⟨⟩
  nofun

theorem unconnected_getpeername : Respects Unconnected (Socket.getpeername env self) := by
  refine respects_bind (unconnected_checked _ ?_) fun _ => respects_lift _
  rintro _ ⟨⟩
  nofun

theorem unconnected_close : Respects Unconnected (Socket.close env self) := by
  refine respects_close (unconnected_checked _ ?_) fun _ => unconnected_same rfl
  rintro _ ⟨⟩
  nofun

theorem unconnected_init (lwip : Instance) (family socketType proto fd : ℤ) :
    Respects Unconnected (Socket.init lwip family socketType proto fd) :=
  Socket.respects_init fun _ => unconnected_same rfl

theorem unconnected_socket (lwip : Instance) (family socketType proto : ℤ) :
    Respects Unconnected (LwIP.socket env lwip family socketType proto) := by
  refine respects_bind ?_ fun _ => unconnected_init _ _ _ _ _
  refine respects_checkRetErrno (fun _ _ => unconnected_same rfl) (fun _ _ => unconnected_same rfl)
    _ fun w => ?_
  cases hcall : LwIP.socketCall family socketType proto with
  | error e => exact refl_of Unconnected w
  | ok call =>
    obtain ⟨d,t,p,rfl⟩ := LwIP.socketCall_ok hcall
    exact ⟨[LwIP.socketEvent env lwip (.socket d t p) w],rfl,
      by simp [LwIP.socketEvent,Event.connects]⟩

end Unconnected

/-- The name under which `check_ret_errno` makes the call after a connect. -/
def pursuer (type : ℤ) : String := if type = SOCK_STREAM then "accept" else "getsockname"

/-- The connect leaves an errno, and the warning about it raises before the call after it. -/
def Event.Warned (env : Env) (type : ℤ) (e : Event) : Prop :=
  e.reply.errno.getD 0 ≠ 0 ∧
  env.warningRaises (.errnoBefore (e.reply.errno.getD 0) (pursuer type)) = true

instance (env : Env) (type : ℤ) (e : Event) : Decidable (e.Warned env type) :=
  inferInstanceAs (Decidable (_ ∧ _))

/-- A `lwip_close` that fails with this errno. -/
def Event.FailsClosing (e : Event) (errno : ℤ) : Prop :=
  e.call.isClose = true ∧ e.reply.ret < 0 ∧ e.reply.errno.getD 0 = errno

instance (e : Event) (errno : ℤ) : Decidable (e.FailsClosing errno) :=
  inferInstanceAs (Decidable (_ ∧ _))

/-- An errno in the exception is that of a failed close among the calls. -/
def FromClosing (calls : List Event) (err : PyErr) : Prop :=
  ∀ errno msg, err = .osError (some errno) msg → ∃ c ∈ calls, c.FailsClosing errno

variable (env : Env) (type : ℤ) (w₀ : World)

/-- Of two calls one after the other, the newer first: after a connect comes the call that goes
on from it. -/
def GoesOn (next e : Event) : Prop :=
  e.connects = true → ¬ e.Warned env type ∧ next.pursues type = true

/-- Since `w₀` every connect was gone on from. -/
def Settled (w : World) : Prop :=
  ∃ new, w.log = new ++ w₀.log ∧ new.IsChain (GoesOn env type) ∧
    ∀ e ∈ new.head?, e.connects = false

/-- Settled, and errno is clear. -/
def Ready (w : World) : Prop := Settled env type w₀ w ∧ w.errno = 0

/-- The last call is a connect and left its errno, the connects before it were gone on from. -/
def Connecting (w : World) : Prop :=
  ∃ e new, w.log = e :: new ++ w₀.log ∧ (e::new).IsChain (GoesOn env type) ∧
    e.connects = true ∧ w.errno = e.reply.errno.getD 0

/-- The warning about what the connect `e` left was raised. Then come closes only, and an errno in
the exception is from one of them. -/
structure AbandonedAt (err : PyErr) (after : List Event) (e : Event) (before : List Event) :
    Prop where
  chain : (e::before).IsChain (GoesOn env type)
  connects : e.connects = true
  warned : e.Warned env type
  closes : ∀ c ∈ after, c.call.isClose = true
  cause : FromClosing after err

def Abandoned (err : PyErr) (w : World) : Prop :=
  ∃ after e before, w.log = after ++ e :: before ++ w₀.log ∧
    AbandonedAt env type err after e before

/-- The exceptions with which a pair may end. -/
def Ended (err : PyErr) (w : World) : Prop := Settled env type w₀ w ∨ Abandoned env type w₀ err w

section Steps

variable {env} {type} {w₀} {w w' : World}

theorem settled_start : Settled env type w₀ w₀ := ⟨[],rfl,by simp,by simp⟩

theorem enters_iff_not_warned {e : Event} (herrno : w.errno = e.reply.errno.getD 0) :
    Enters env (pursuer type) w ↔ ¬ e.Warned env type := by
  rw [Enters,Event.Warned,herrno,not_and_or,not_not,Bool.not_eq_true]

theorem Settled.unconnected (h : Settled env type w₀ w) (hw : Unconnected w w') :
    Settled env type w₀ w' := by
  obtain ⟨new,hlog,hnew⟩ := hw
  obtain ⟨old,hlog₀,hchain,hhead⟩ := h
  have hh : (new ++ old).IsChain (GoesOn env type) ∧
      ∀ e ∈ (new ++ old).head?, e.connects = false := by
    clear hlog
    induction new with
    | nil => exact ⟨hchain,hhead⟩
    | cons e new ih =>
      obtain ⟨hchain',hhead'⟩ := ih fun e he => hnew e (List.mem_cons_of_mem _ he)
      refine ⟨List.isChain_cons.mpr ⟨fun y hy hconn => ?_,hchain'⟩,?_⟩
      · simp [hhead' y hy] at hconn
      · simpa using hnew e List.mem_cons_self
  exact ⟨new ++ old,by simp [hlog,hlog₀],hh.1,hh.2⟩

/-- A connect when nothing is open before it. -/
theorem Settled.connect (h : Settled env type w₀ w) {e : Event} (hlog : w'.log = e :: w.log)
    (hconn : e.connects = true) (herrno : w'.errno = e.reply.errno.getD 0) :
    Connecting env type w₀ w' := by
  obtain ⟨new,hlog₀,hchain,hhead⟩ := h
  refine ⟨e,new,by simp [hlog,hlog₀],List.isChain_cons.mpr ⟨fun y hy hy' => ?_,hchain⟩,hconn,
    herrno⟩
  simp [hhead y hy] at hy'

/-- The call that goes on from a connect settles it. -/
theorem Connecting.goOn (h : Connecting env type w₀ w) (henter : Enters env (pursuer type) w)
    {e : Event} (hlog : w'.log = e :: w.log) (hpursues : e.pursues type = true)
    (hconn : e.connects = false) : Settled env type w₀ w' := by
  obtain ⟨last,new,hlog₀,hchain,_,herrno⟩ := h
  have hwarned : ¬ last.Warned env type := (enters_iff_not_warned herrno).mp henter
  refine ⟨e::last::new,by simp [hlog,hlog₀],
    List.isChain_cons_cons.mpr ⟨fun _ => ⟨hwarned,hpursues⟩,hchain⟩,?_⟩
  simpa using hconn

theorem fromClosing_of_plain {err : PyErr} (h : err.Plain) (calls : List Event) :
    FromClosing calls err :=
  fun errno msg herr => absurd herr (h errno msg)

/-- The warning raises where the next call was to be made. -/
theorem Connecting.abandon (h : Connecting env type w₀ w) (henter : ¬ Enters env (pursuer type) w)
    (hlog : w'.log = w.log) {err : PyErr} (herr : err.Plain) : Abandoned env type w₀ err w' := by
  obtain ⟨last,new,hlog₀,hchain,hconn,herrno⟩ := h
  have hwarned : last.Warned env type :=
    not_not.mp fun hno => henter ((enters_iff_not_warned herrno).mpr hno)
  exact ⟨[],last,new,by simp [hlog,hlog₀],hchain,hconn,hwarned,by simp,
    fromClosing_of_plain herr []⟩

/-- Further closes, which may raise an exception of their own. -/
theorem Abandoned.close {err err' : PyErr} (h : Abandoned env type w₀ err w) (new : List Event)
    (hlog : w'.log = new ++ w.log) (hnew : ∀ c ∈ new, c.call.isClose = true)
    (hcause : ∀ after, FromClosing after err → FromClosing (new ++ after) err') :
    Abandoned env type w₀ err' w' := by
  obtain ⟨after,e,before,hlog₀,hh⟩ := h
  refine ⟨new ++ after,e,before,by simp [hlog,hlog₀],hh.chain,hh.connects,hh.warned,?_,
    hcause after hh.cause⟩
  intro c hc
  rcases List.mem_append.mp hc with hc | hc
  · exact hnew c hc
  · exact hh.closes c hc

theorem FromClosing.append {err : PyErr} {calls : List Event} (h : FromClosing calls err)
    (new : List Event) : FromClosing (new ++ calls) err := by
  intro errno msg herr
  obtain ⟨c,hc,hfails⟩ := h errno msg herr
  exact ⟨c,List.mem_append_right new hc,hfails⟩

theorem outcome_fromClosing {name : String} {err : PyErr} {e : Event}
    (hclose : e.call.isClose = true) (calls : List Event)
    (h : outcome env name e.reply (e.reply.errno.getD 0) = .error err) :
    FromClosing (e::calls) err := by
  rintro errno msg rfl
  unfold outcome failure at h
  split_ifs at h with hneg
  · cases h
    exact ⟨e,List.mem_cons_self,hclose,hneg,rfl⟩
  · cases h
  · cases h

end Steps

section Rules

variable {env} {type} {w₀} {self : Ref}

theorem spec_unconnected {α : Type} {m : PyM α} (hm : Respects Unconnected m) :
    Spec (Settled env type w₀) m (fun _ => Settled env type w₀) (Ended env type w₀) := by
  intro w hw
  have hfinal := hw.unconnected (hm w)
  cases h : m w with
  | ok a t => rwa [final_of_ok h] at hfinal
  | error e t =>
    rw [final_of_error h] at hfinal
    exact .inl hfinal

theorem spec_checked_ready {P : World → Prop} {name : String} {c : SockCall}
    (hcalled : ∀ w, P w → Enters env name w → Settled env type w₀ (Socket.called env self name c w))
    (hraise : ∀ w t, P w → ¬ Enters env name w → t.log = w.log → ∀ v,
      Ended env type w₀ (.runtimeWarning v) t) :
    Spec P (Socket.checked env self name (.ok c)) (fun _ => Ready env type w₀)
      (Ended env type w₀) := by
  intro w hw
  by_cases henter : Enters env name w
  · rw [Socket.checked_enters henter]
    cases outcome env name _ _ with
    | ok r => exact ⟨hcalled w hw henter,rfl⟩
    | error e => exact .inl (hcalled w hw henter)
  · rw [Socket.checked_raises henter]
    exact hraise w _ hw henter rfl _

theorem spec_connectEx (address : Address) :
    Spec (Ready env type w₀) (Socket.connectEx env self address)
      (fun _ => Connecting env type w₀) (Ended env type w₀) := by
  rintro w ⟨hw,herrno⟩
  cases hsa : SockAddr.parseAddress env.host address AF_UNSPEC with
  | error e => simpa [Socket.connectEx,bind_apply,hsa] using .inl hw
  | ok sa =>
    have hrun : Socket.connectEx env self address w = .ok _ _ := Socket.connectEx_run hsa
    rw [hrun]
    exact hw.connect rfl rfl (by rw [World.record,herrno])

/-- The call that goes on from a connect, unless the warning before it raises. -/
theorem spec_pursuing {name : String} (hname : name = pursuer type) {c : SockCall}
    (hpursues : ∀ e : Event, ∀ s, e.call = .on s c → e.pursues type = true)
    (hc : ∀ sa n, c ≠ .connect sa n) :
    Spec (Connecting env type w₀) (Socket.checked env self name (.ok c))
      (fun _ => Ready env type w₀) (Ended env type w₀) := by
  subst hname
  refine spec_checked_ready (fun w hw henter => ?_) fun w t hw henter hlog v => ?_
  · exact hw.goOn henter rfl (hpursues _ _ rfl) (connects_eq_false rfl hc)
  · exact .inr (hw.abandon henter hlog fun _ _ => nofun)

theorem spec_accept_pursuing (htype : type = SOCK_STREAM) :
    Spec (Connecting env type w₀) (Socket.accept env self) (fun _ => Settled env type w₀)
      (Ended env type w₀) := by
  have hname : "accept" = pursuer type := by rw [pursuer,if_pos htype]
  refine spec_bind (Q := fun _ => Connecting env type w₀) (fun _ h => h) fun k =>
    spec_bind (spec_pursuing hname (fun e s he => ?_) nofun) fun r =>
      (spec_unconnected (respects_bind (unconnected_init _ _ _ _ _) fun _ =>
        respects_bind (respects_lift _) fun _ => respects_pure _)).consequence (fun _ h => h.1)
        (fun _ _ h => h) fun _ _ h => h
  rw [Event.pursues,if_pos htype,he]
  rfl

theorem spec_lift_ready {α : Type} (x : Except PyErr α) :
    Spec (Ready env type w₀) (lift x) (fun _ => Ready env type w₀) (Ended env type w₀) := by
  cases x with
  | ok a => exact spec_pure fun _ h => h
  | error e => exact spec_throw fun _ h => .inl h.1

theorem spec_getsockname_ready :
    Spec (Settled env type w₀) (Socket.getsockname env self) (fun _ => Ready env type w₀)
      (Ended env type w₀) := by
  refine spec_bind (spec_checked_ready (fun w hw _ => ?_) fun w t hw _ hlog v => ?_) fun r =>
    spec_lift_ready _
  · refine hw.unconnected ⟨[_],rfl,fun e he => ?_⟩
    rw [List.mem_singleton.mp he]
    exact connects_eq_false (c := .getsockname _) rfl nofun
  · exact .inl (hw.unconnected (unconnected_same hlog))

theorem spec_getsockname_pursuing (htype : type ≠ SOCK_STREAM) :
    Spec (Connecting env type w₀) (Socket.getsockname env self) (fun _ => Ready env type w₀)
      (Ended env type w₀) := by
  have hname : "getsockname" = pursuer type := by rw [pursuer,if_neg htype]
  refine spec_bind (spec_pursuing hname (fun e s he => ?_) nofun) fun r => spec_lift_ready _
  rw [Event.pursues,if_neg htype,he]
  rfl

/-- A close after the warning raised: its own exception replaces the one before. -/
theorem spec_close_abandoned (err : PyErr) :
    Spec (Abandoned env type w₀ err) (Socket.close env self)
      (fun _ => Abandoned env type w₀ err) (Abandoned env type w₀) := by
  intro w hw
  by_cases hs : 0 ≤ (w.sockets self).s
  · rw [close_eq hs]
    by_cases henter : Enters env "close" w
    · rw [Socket.checked_enters henter]
      have hclose : (Socket.event env self .close w).call.isClose = true := rfl
      cases ho : outcome env "close" (Socket.event env self .close w).reply
          ((Socket.event env self .close w).reply.errno.getD 0) with
      | ok r => exact hw.close [_] rfl (by simpa using hclose) fun _ h => h.append [_]
      | error e =>
        exact hw.close [_] rfl (by simpa using hclose) fun after _ =>
          outcome_fromClosing hclose after ho
    · have hplain : (PyErr.runtimeWarning (.errnoBefore w.errno "close")).Plain :=
        fun _ _ => nofun
      rw [Socket.checked_raises henter]
      exact hw.close [] rfl (by simp) fun after _ => fromClosing_of_plain hplain after
  · simpa [Socket.close,bind_apply,hs] using hw

theorem spec_close_ended (err : PyErr) :
    Spec (Ended env type w₀ err) (Socket.close env self) (fun _ => Ended env type w₀ err)
      (Ended env type w₀) := by
  rintro w (hw | hw)
  · have hspec : Spec _ (Socket.close env self) (fun _ => Settled env type w₀) _ :=
      spec_unconnected unconnected_close
    exact hspec.consequence (fun _ h => h) (fun _ _ h => .inl h) (fun _ _ h => h) w hw
  · exact (spec_close_abandoned err).consequence (fun _ h => h) (fun _ _ h => .inr h)
      (fun _ _ h => .inr h) w hw

end Rules

namespace LwIP

variable {env : Env} {type : ℤ} {w₀ : World}

theorem outer_unconnected {α : Type} {m : PyM α} (hm : Respects Unconnected m) :
    Spec (fun c : World × Locals => Settled env type w₀ c.1) (outer m)
      (fun _ c => Settled env type w₀ c.1) (fun err c => Ended env type w₀ err c.1) :=
  spec_onFst (spec_unconnected hm)

theorem unconnected_setBoth (blocking : Bool) (clientSock serverSock : Ref) (differ : Bool) :
    Respects Unconnected (do
      if differ then throw (PyErr.connectionError "socket pair not connected to each other")
      Socket.setblocking env clientSock blocking
      Socket.setblocking env serverSock blocking
      return (clientSock,serverSock)) := by
  have hset : Respects Unconnected (do
      Socket.setblocking env clientSock blocking
      Socket.setblocking env serverSock blocking
      return (clientSock,serverSock)) :=
    respects_bind (unconnected_setblocking blocking) fun _ =>
      respects_bind (unconnected_setblocking blocking) fun _ => respects_pure _
  split
  · exact respects_bind (respects_throw _) fun _ => hset
  · exact hset

theorem unconnected_compare (clientSock serverSock : Ref) (a : Address) :
    Respects Unconnected (do
      let b ← Socket.getpeername env clientSock
      if a ≠ b then return true
      let a ← Socket.getpeername env serverSock
      let b ← Socket.getsockname env clientSock
      return a ≠ b) := by
  refine respects_bind unconnected_getpeername fun b => ?_
  split
  · exact respects_pure _
  · exact respects_bind unconnected_getpeername fun _ =>
      respects_bind unconnected_getsockname fun _ => respects_pure _

theorem unconnected_finishPair (blocking : Bool) (clientSock serverSock : Ref) :
    Respects Unconnected (finishPair env blocking clientSock serverSock) :=
  respects_bind (respects_bind unconnected_getsockname fun _ => unconnected_compare _ _ _)
    fun _ => unconnected_setBoth _ _ _ _

theorem settled_connectThrough (htype : type = SOCK_STREAM) (lwip : Instance) (family proto : ℤ)
    (address : Address) (listenSock : Ref) :
    Spec (fun c => Settled env type w₀ c.1)
      (connectThrough env lwip family type proto address listenSock)
      (fun _ c => Settled env type w₀ c.1) (fun err c => Ended env type w₀ err c.1) := by
  refine spec_bind (outer_unconnected (unconnected_bind address)) fun _ => ?_
  refine spec_bind (outer_unconnected (unconnected_listen (-1))) fun _ => ?_
  refine spec_bind (outer_unconnected (unconnected_socket _ _ _ _)) fun clientSock => ?_
  refine spec_bind (Q := fun _ c => Settled env type w₀ c.1) (spec_modify fun _ h => h) fun _ => ?_
  refine spec_bind (outer_unconnected (unconnected_setblocking false)) fun _ => ?_
  refine spec_bind (spec_onFst spec_getsockname_ready) fun name => ?_
  refine spec_bind (spec_onFst (spec_connectEx name)) fun _ => ?_
  refine spec_bind (spec_onFst (spec_accept_pursuing htype)) fun accepted => ?_
  exact spec_bind (Q := fun _ c => Settled env type w₀ c.1) (spec_modify fun _ h => h) fun _ =>
    spec_pure fun _ h => h

/-- The listening socket is closed at either exit. -/
theorem settled_streamPair (htype : type = SOCK_STREAM) (lwip : Instance) (family proto : ℤ)
    (address : Address) :
    Spec (fun c => Settled env type w₀ c.1) (streamPair env lwip family type proto address)
      (fun _ c => Settled env type w₀ c.1) (fun err c => Ended env type w₀ err c.1) :=
  spec_bind (outer_unconnected (unconnected_socket _ _ _ _)) fun listenSock =>
    spec_tryFinally (settled_connectThrough htype lwip family proto address listenSock)
      (fun _ => outer_unconnected unconnected_close) fun err => spec_onFst (spec_close_ended err)

/-- The second connect of a datagram pair is the last call of the block. -/
theorem connecting_dgramPair (htype : type ≠ SOCK_STREAM) (lwip : Instance) (family proto : ℤ)
    (address : Address) :
    Spec (fun c => Settled env type w₀ c.1) (dgramPair env lwip family type proto address)
      (fun _ c => Connecting env type w₀ c.1) (fun err c => Ended env type w₀ err c.1) := by
  refine spec_bind (outer_unconnected (unconnected_socket _ _ _ _)) fun serverSock => ?_
  refine spec_bind (Q := fun _ c => Settled env type w₀ c.1) (spec_modify fun _ h => h) fun _ => ?_
  refine spec_bind (outer_unconnected (unconnected_socket _ _ _ _)) fun clientSock => ?_
  refine spec_bind (Q := fun _ c => Settled env type w₀ c.1) (spec_modify fun _ h => h) fun _ => ?_
  refine spec_bind (outer_unconnected (unconnected_bind address)) fun _ => ?_
  refine spec_bind (spec_onFst spec_getsockname_ready) fun name => ?_
  refine spec_bind (spec_onFst (spec_connectEx name)) fun _ => ?_
  refine spec_bind (spec_onFst (spec_getsockname_pursuing htype)) fun name => ?_
  exact spec_bind (spec_onFst (spec_connectEx name)) fun _ => spec_pure fun _ h => h

/-- The comparison of names goes on from the last connect of a datagram pair. -/
theorem settled_finishPair (htype : type ≠ SOCK_STREAM) (blocking : Bool)
    (clientSock serverSock : Ref) :
    Spec (Connecting env type w₀) (finishPair env blocking clientSock serverSock)
      (fun _ => Settled env type w₀) (Ended env type w₀) := by
  have hdiffer : Spec (Connecting env type w₀) (notConnected env clientSock serverSock)
      (fun _ => Settled env type w₀) (Ended env type w₀) :=
    spec_bind (spec_getsockname_pursuing htype) fun _ =>
      (spec_unconnected (unconnected_compare _ _ _)).consequence (fun _ h => h.1)
        (fun _ _ h => h) fun _ _ h => h
  exact spec_bind hdiffer fun _ => spec_unconnected (unconnected_setBoth _ _ _ _)

theorem settled_makePair (lwip : Instance) (family proto : ℤ) (blocking : Bool)
    (address : Address) :
    Spec (fun c => Settled env type w₀ c.1)
      (makePair env lwip family type proto blocking address)
      (fun _ c => Settled env type w₀ c.1) (fun err c => Ended env type w₀ err c.1) := by
  rw [makePair]
  by_cases htype : type = SOCK_STREAM
  · rw [if_pos htype]
    exact spec_bind (settled_streamPair htype lwip family proto address) fun r =>
      outer_unconnected (unconnected_finishPair blocking r.1 r.2)
  · rw [if_neg htype]
    split
    · exact spec_bind (connecting_dgramPair htype lwip family proto address) fun r =>
        spec_onFst (settled_finishPair htype blocking r.1 r.2)
    · exact spec_bind (Q := fun _ c => Settled env type w₀ c.1)
        (spec_throw fun _ h => .inl h) fun r =>
        outer_unconnected (unconnected_finishPair blocking r.1 r.2)

theorem spec_closeIfAny_ended (err : PyErr) (s : Option Ref) :
    Spec (Ended env type w₀ err) (closeIfAny env s) (fun _ => Ended env type w₀ err)
      (Ended env type w₀) := by
  cases s with
  | none => exact spec_pure fun _ h => h
  | some s => exact spec_close_ended err

theorem spec_closeAndRaise_ended (err : PyErr) :
    Spec (fun c => Ended env type w₀ err c.1) (closeAndRaise env err) (fun _ _ => False)
      (fun err c => Ended env type w₀ err c.1) := by
  rintro ⟨u,⟨s,c⟩⟩ hu
  exact spec_closeAndRaise (spec_closeIfAny_ended err s) (spec_closeIfAny_ended err c) (u,⟨s,c⟩)
    ⟨hu,rfl⟩

/-- Every connect of a pair that returns was gone on from; one that raises may be abandoned. -/
theorem settled_socketpair (lwip : Instance) (family proto : ℤ) (blocking : Bool) :
    Spec (Settled env type w₀) (socketpair env lwip family type proto blocking)
      (fun _ => Settled env type w₀) (Ended env type w₀) := by
  refine spec_bind (Q := fun _ => Settled env type w₀) ?_ fun address =>
    spec_withLocal (spec_tryCatch ((settled_makePair lwip family proto blocking
      address).consequence (fun _ h => h.1) (fun _ _ h => h) fun _ _ h => h) fun err =>
      (spec_closeAndRaise_ended err).consequence (fun _ h => h) (fun _ _ h => h.elim)
        fun _ _ h => h)
  cases loopback family with
  | ok address => exact spec_pure fun _ h => h
  | error e => exact spec_throw fun _ h => .inl h

end LwIP

/-- `errno.EINPROGRESS` -/
def EINPROGRESS : ℤ := 115

/-- The connect failed, and not because it is still in progress. -/
def Event.ConnectFailed (e : Event) : Prop :=
  e.connects = true ∧ e.reply.ret < 0 ∧ e.reply.errno.getD 0 ≠ EINPROGRESS

instance (e : Event) : Decidable e.ConnectFailed := inferInstanceAs (Decidable (_ ∧ _))

/-- How a run with the calls `new`, the newest first, takes the answers to its connects: a failed
one ends it with its errno, so that nothing but the clean-up follows; any other one does not. -/
structure NoticesConnect (result : EStateM.Result PyErr World (Ref × Ref)) (new : List Event) :
    Prop where
  failed : ∀ after e before, new = after ++ e :: before → e.ConnectFailed →
    (∃ msg t, result = .error (.osError (some (e.reply.errno.getD 0)) msg) t) ∧
    ∀ e' ∈ after, e'.call.isClose = true
  other : ∀ after e before, new = after ++ e :: before → e.connects = true → ¬ e.ConnectFailed →
    ∃ e' ∈ after, e'.call.isClose = false

/-- What follows each connect among the calls, whatever lwIP answered to it: the call that goes on
from it, or closes only where the warning about its errno raises. -/
def Followed (env : Env) (type : ℤ) (new : List Event) : Prop :=
  ∀ after e before, new = after ++ e :: before → e.connects = true →
    if e.Warned env type then ∀ c ∈ after, c.call.isClose = true
    else ∃ later next, after = later ++ [next] ∧ next.pursues type = true

theorem pursues_not_close {type : ℤ} {e : Event} (h : e.pursues type = true) :
    e.call.isClose = false := by
  cases hcall : e.call with
  | on s c => cases c <;> simp [Event.pursues,hcall,Call.isAccept,Call.isGetsockname] at h <;> rfl
  | _ => rfl

theorem connects_of_isClose {c : Event} (h : c.call.isClose = true) : c.connects = false := by
  cases hcall : c.call with
  | on s k => cases k <;> simp [Call.isClose,Event.connects,hcall] at h ⊢
  | _ => simp [Event.connects,hcall]

section Followed

variable {env : Env} {type : ℤ} {new after before : List Event} {e : Event} {err : PyErr}
  {result : EStateM.Result PyErr World (Ref × Ref)}

theorem goesOn_of_chain (hchain : (after ++ e :: before).IsChain (GoesOn env type))
    (hafter : after ≠ []) (he : e.connects = true) :
    ¬ e.Warned env type ∧ ∃ later next, after = later ++ [next] ∧ next.pursues type = true := by
  obtain ⟨later,next,rfl⟩ := (List.eq_nil_or_concat after).resolve_left hafter
  rw [List.concat_eq_append,List.append_assoc] at hchain
  obtain ⟨hwarned,hnext⟩ := (List.isChain_append_cons_cons.mp hchain).2.1 he
  exact ⟨hwarned,later,next,List.concat_eq_append,hnext⟩

theorem chain_next (hchain : new.IsChain (GoesOn env type))
    (hhead : ∀ e ∈ new.head?, e.connects = false) (hsplit : new = after ++ e :: before)
    (he : e.connects = true) :
    ¬ e.Warned env type ∧ ∃ later next, after = later ++ [next] ∧ next.pursues type = true := by
  subst hsplit
  refine goesOn_of_chain hchain ?_ he
  rintro rfl
  simp [hhead e rfl] at he

theorem followed_of_chain (hchain : new.IsChain (GoesOn env type))
    (hhead : ∀ e ∈ new.head?, e.connects = false) : Followed env type new := by
  intro after e before hsplit he
  obtain ⟨hwarned,hnext⟩ := chain_next hchain hhead hsplit he
  rwa [if_neg hwarned]

theorem notices_iff_of_chain (hchain : new.IsChain (GoesOn env type))
    (hhead : ∀ e ∈ new.head?, e.connects = false) :
    NoticesConnect result new ↔
      ∀ e ∈ new, e.connects = true → ¬ e.ConnectFailed ∧ ¬ e.Warned env type := by
  refine ⟨fun h e he hconn => ?_,fun h => ⟨?_,?_⟩⟩
  · obtain ⟨after,before,hsplit⟩ := List.mem_iff_append.mp he
    obtain ⟨hwarned,later,next,hafter,hnext⟩ := chain_next hchain hhead hsplit hconn
    refine ⟨fun hfailed => ?_,hwarned⟩
    have hclose := (h.failed _ e _ hsplit hfailed).2 next (by simp [hafter])
    simp [pursues_not_close hnext] at hclose
  · intro after e before hsplit hfailed
    exact absurd hfailed (h e (by simp [hsplit]) hfailed.1).1
  · intro after e before hsplit hconn _
    obtain ⟨_,later,next,rfl,hnext⟩ := chain_next hchain hhead hsplit hconn
    exact ⟨next,by simp,pursues_not_close hnext⟩

theorem AbandonedAt.followed (h : AbandonedAt env type err after e before) :
    Followed env type (after ++ e :: before) := by
  intro after' e' before' hsplit he'
  rcases List.append_eq_append_iff.mp hsplit with ⟨mid,rfl,hmid⟩ | ⟨mid,rfl,hmid⟩
  · cases mid with
    | nil =>
      cases hmid
      simpa [h.warned] using h.closes
    | cons x mid =>
      obtain ⟨rfl,rfl⟩ := List.cons.inj hmid
      obtain ⟨hwarned,later,next,hlater,hnext⟩ :=
        goesOn_of_chain h.chain (List.cons_ne_nil e mid) he'
      rw [if_neg hwarned]
      exact ⟨after ++ later,next,by rw [hlater,List.append_assoc],hnext⟩
  · cases mid with
    | nil =>
      cases hmid
      simpa [h.warned] using h.closes
    | cons x mid =>
      obtain ⟨rfl,rfl⟩ := List.cons.inj hmid
      have hno := connects_of_isClose (h.closes e' (by simp))
      simp [hno] at he'

/-- A pair abandoned at a connect does not notice it: the exception is the warning, or comes from a
close. -/
theorem AbandonedAt.not_notices {t : World} (h : AbandonedAt env type err after e before)
    (hclose : e.ConnectFailed → ∀ c ∈ after, ¬ c.FailsClosing (e.reply.errno.getD 0)) :
    ¬ NoticesConnect (.error err t) (after ++ e :: before) := by
  intro hnotices
  by_cases hfailed : e.ConnectFailed
  · obtain ⟨⟨msg,u,hresult⟩,_⟩ := hnotices.failed after e before rfl hfailed
    cases hresult
    obtain ⟨c,hc,hfails⟩ := h.cause _ msg rfl
    exact hclose hfailed c hc hfails
  · obtain ⟨c,hc,hopen⟩ := hnotices.other after e before rfl h.connects hfailed
    simp [h.closes c hc] at hopen

end Followed

/-- The call after each connect of a pair is `accept` or `getsockname`, whatever lwIP answered; only
the warning about the errno left can keep it from being made. So `socketpair` takes the answers
rightly exactly if no connect fails other than by being in progress, and no such warning raises.
The proviso: where it raises for a failed connect, a close in the clean-up may fail with the same
errno. -/
theorem socketpair_notices_connect_iff (env : Env) (lwip : Instance) (family type proto : ℤ)
    (blocking : Bool) (w : World) :
    let result := LwIP.socketpair env lwip family type proto blocking w
    let new := newEvents w (final (LwIP.socketpair env lwip family type proto blocking) w)
    Followed env type new ∧
    ((∀ e ∈ new, e.ConnectFailed → e.Warned env type →
        ∀ c ∈ new, ¬ c.FailsClosing (e.reply.errno.getD 0)) →
      (NoticesConnect result new ↔
        ∀ e ∈ new, e.connects = true → ¬ e.ConnectFailed ∧ ¬ e.Warned env type)) := by
  have hspec : Spec (Settled env type w) (LwIP.socketpair env lwip family type proto blocking)
      (fun _ => Settled env type w) (Ended env type w) :=
    LwIP.settled_socketpair lwip family proto blocking
  have hended : Settled env type w
        (final (LwIP.socketpair env lwip family type proto blocking) w) ∨
      ∃ err t, LwIP.socketpair env lwip family type proto blocking w = .error err t ∧
        Abandoned env type w err t := by
    cases h : LwIP.socketpair env lwip family type proto blocking w with
    | ok r t =>
      rw [final_of_ok h]
      exact .inl (hspec.of_ok settled_start h)
    | error err t =>
      rw [final_of_error h]
      rcases hspec.of_error settled_start h with hsettled | habandoned
      · exact .inl hsettled
      · exact .inr ⟨err,t,rfl,habandoned⟩
  rcases hended with ⟨new,hlog,hchain,hhead⟩ | ⟨err,t,hrun,after,e,before,hlog,hh⟩
  · rw [newEvents_append hlog]
    exact ⟨followed_of_chain hchain hhead,fun _ => notices_iff_of_chain hchain hhead⟩
  · rw [hrun,final_of_error hrun,newEvents_append hlog]
    refine ⟨hh.followed,fun hno => iff_of_false (hh.not_notices fun hfailed c hc => ?_) fun h => ?_⟩
    · exact hno e (by simp) hfailed hh.warned c (by simp [hc])
    · exact (h e (by simp) hh.connects).2 hh.warned

def backgroundReply (log : List Event) (inst : Instance) : Call → Reply
  | .on _ (.connect _ _) => { ret := -1, errno := some 115 }
  | call => connectedReply log inst call

theorem socketpair_notices_background :
    value (LwIP.socketpair (quietEnv backgroundReply) 0 AF_INET SOCK_STREAM 0 true) World.init =
      some (1,2) ∧
    NoticesConnect
      (LwIP.socketpair (quietEnv backgroundReply) 0 AF_INET SOCK_STREAM 0 true World.init)
      (newEvents World.init (final (LwIP.socketpair (quietEnv backgroundReply) 0 AF_INET
        SOCK_STREAM 0 true) World.init)) :=
  ⟨by decide +kernel,((socketpair_notices_connect_iff (quietEnv backgroundReply) 0 AF_INET
    SOCK_STREAM 0 true World.init).2 (by decide +kernel)).mpr (by decide +kernel)⟩

/-- An lwIP that refuses connections, and whose `accept` is aborted in the end. -/
def refusedReply (log : List Event) (inst : Instance) : Call → Reply
  | .on _ (.connect _ _) => { ret := -1, errno := some 111 }
  | .on _ (.accept _) => { ret := -1, errno := some 103 }
  | call => connectedReply log inst call

def refusedPair : PyM (Ref × Ref) :=
  LwIP.socketpair (quietEnv refusedReply) 0 AF_INET SOCK_STREAM 0 true

/-- The connect of a stream pair is refused; `accept` is called all the same, and the exception is
not the one of the connect. -/
theorem socketpair_accepts_refused :
    (newEvents World.init (final refusedPair World.init)).map
      (fun e => (e.connects,e.call.isAccept,e.call.isClose)) =
      [(false,false,true),(false,false,true),(false,true,false),(true,false,false),
        (false,false,false),(false,false,false),(false,false,false),(false,false,false),
        (false,false,false),(false,false,false)] ∧
    raised refusedPair World.init =
      some (.osError (some 103) "LwIP accept returned -1, errno 103: ") ∧
    ¬ ∀ (env : Env) (lwip : Instance) (family type proto : ℤ) (blocking : Bool) (w : World),
      env.Quiet → NoticesConnect (LwIP.socketpair env lwip family type proto blocking w)
        (newEvents w (final (LwIP.socketpair env lwip family type proto blocking) w)) := by
  have hraised : raised refusedPair World.init =
      some (.osError (some 103) "LwIP accept returned -1, errno 103: ") := by decide +kernel
  refine ⟨by decide +kernel,hraised,fun h => ?_⟩
  have hfailed : ∃ e ∈ newEvents World.init (final refusedPair World.init),
      e.ConnectFailed ∧ e.reply.errno = some 111 := by decide +kernel
  obtain ⟨e,he,hfail,herrno⟩ := hfailed
  obtain ⟨after,before,hsplit⟩ := List.mem_iff_append.mp he
  have hnotices := h (quietEnv refusedReply) 0 AF_INET SOCK_STREAM 0 true World.init
    (quietEnv_quiet refusedReply)
  obtain ⟨⟨msg,t,hrun⟩,_⟩ := hnotices.failed after e before hsplit hfail
  have hrun' : refusedPair World.init =
      .error (.osError (some (e.reply.errno.getD 0)) msg) t := hrun
  simp [raised,hrun',herrno] at hraised

end LwipPy
