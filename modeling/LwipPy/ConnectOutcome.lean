import LwipPy.Errno

/-! `connect` and `connect_ex`: one call of lwIP behind two error conventions, an exception that
carries errno and a returned errno. -/
namespace LwipPy

open Program

/-- The exception carries no errno. -/
def PyErr.Plain (e : PyErr) : Prop := ∀ errno msg, e ≠ .osError (some errno) msg

section Parse

variable {α β : Type} {x : Except PyErr α}

def RaisesPlain (x : Except PyErr α) : Prop := ∀ e, x = .error e → e.Plain

theorem raisesPlain_ok (a : α) : RaisesPlain (.ok a : Except PyErr α) := by
  rintro e ⟨⟩

theorem raisesPlain_error {e : PyErr} (h : e.Plain) : RaisesPlain (.error e : Except PyErr α) := by
  rintro _ ⟨⟩
  exact h

theorem raisesPlain_bind {f : α → Except PyErr β} (hx : RaisesPlain x)
    (hf : ∀ a, RaisesPlain (f a)) : RaisesPlain (x >>= f) := by
  intro e h
  rcases except_bind_error.mp h with he | ⟨a,_,he⟩
  · exact hx e he
  · exact hf a e he

theorem raisesPlain_toUnsigned (bits : ℕ) (n : ℤ) : RaisesPlain (toUnsigned bits n) := by
  unfold toUnsigned
  split
  · exact raisesPlain_ok _
  · exact raisesPlain_error fun _ _ => nofun

theorem raisesPlain_htons (host : Host) (n : ℤ) : RaisesPlain (host.htons n) := by
  intro e h
  cases hn : toUnsigned 16 n with
  | ok a => simp [Host.htons,hn,Except.map] at h
  | error e' =>
    simp only [Host.htons,hn,Except.map,Except.error.injEq] at h
    exact raisesPlain_toUnsigned 16 n e (h ▸ hn)

theorem plain_inetPtonError (text : String) : (inetPtonError text).Plain := by
  unfold inetPtonError
  split <;> exact fun _ _ => nofun

theorem raisesPlain_hostBytes4 (host : Host) (text : String) :
    RaisesPlain (SockAddr.hostBytes4 host text) := by
  unfold SockAddr.hostBytes4
  split
  · exact raisesPlain_ok _
  · split
    · exact raisesPlain_ok _
    · exact raisesPlain_error (plain_inetPtonError text)

theorem raisesPlain_hostBytes6 (host : Host) (text : String) :
    RaisesPlain (SockAddr.hostBytes6 host text) := by
  unfold SockAddr.hostBytes6
  split
  · exact raisesPlain_ok _
  · split
    · exact raisesPlain_ok _
    · exact raisesPlain_error (plain_inetPtonError text)

theorem raisesPlain_parseInet (host : Host) (a : Address) :
    RaisesPlain (SockAddr.parseInet host a) := by
  cases a with
  | inet text port =>
    exact raisesPlain_bind (raisesPlain_hostBytes4 host text) fun _ =>
      raisesPlain_bind (raisesPlain_htons host port) fun _ => raisesPlain_ok _
  | _ => exact raisesPlain_error fun _ _ => nofun

theorem raisesPlain_parseInet6 (host : Host) (a : Address) :
    RaisesPlain (SockAddr.parseInet6 host a) := by
  cases a with
  | inet6 text port flowinfo scopeId =>
    exact raisesPlain_bind (raisesPlain_hostBytes6 host text) fun _ =>
      raisesPlain_bind (raisesPlain_htons host port) fun _ =>
        raisesPlain_bind (raisesPlain_toUnsigned 32 flowinfo) fun _ =>
          raisesPlain_bind (raisesPlain_toUnsigned 32 scopeId) fun _ => raisesPlain_ok _
  | _ => exact raisesPlain_error fun _ _ => nofun

theorem raisesPlain_parseAddress (host : Host) (a : Address) (family : ℤ) :
    RaisesPlain (SockAddr.parseAddress host a family) := by
  have hfamily : ∀ family : ℤ, RaisesPlain (if family = AF_INET then SockAddr.parseInet host a
      else if family = AF_INET6 then SockAddr.parseInet6 host a
      else .error (.valueError "Invalid family")) := by
    intro family
    split
    · exact raisesPlain_parseInet host a
    · split
      · exact raisesPlain_parseInet6 host a
      · exact raisesPlain_error fun _ _ => nofun
  unfold SockAddr.parseAddress
  split
  · split
    · exact hfamily AF_INET
    · exact hfamily AF_INET6
    · exact raisesPlain_bind (raisesPlain_error fun _ _ => nofun) fun _ => hfamily _
  · exact hfamily family

end Parse

namespace Socket

/-- `connect_ex` reports what `connect` reports and leaves errno as `connect` does. -/
structure SameReport (env : Env) (s : Ref) (address : Address) (w : World) : Prop where
  success : (∃ t, connectEx env s address w = .ok 0 t) ↔ ∃ n t, connect env s address w = .ok n t
  failed : ∀ e, 0 < e → ((∃ t, connectEx env s address w = .ok e t) ↔
    ∃ msg t, connect env s address w = .error (.osError (some e) msg) t)
  errno : (final (connectEx env s address) w).errno = (final (connect env s address) w).errno
  rejected : ∀ err, SockAddr.parseAddress env.host address AF_UNSPEC = .error err →
    (∃ t, connectEx env s address w = .error err t) ∧ ∃ t, connect env s address w = .error err t

variable (env : Env) (self : Ref) (address : Address) (w : World)

def connectEvent (sa : SockAddr) : Event := event env self (.connect sa sa.len) w

/-- The errno that `lwip_connect` leaves when nothing was cleared before. -/
def connectErrno (sa : SockAddr) : ℤ := (connectEvent env self w sa).reply.errno.getD w.errno

/-- The answers of `lwip_connect` under which the two conventions agree. Without the check on
entry `connect` would come to the call with errno cleared; a warning raised there keeps it
from the call. -/
def ConnectAgrees (sa : SockAddr) : Prop :=
  if Enters env "connect" w then
    (connectEvent env self w sa).reply.ret ≤ 0 ∧ connectErrno env self w sa = 0
  else (connectEvent env self w sa).reply.ret < 0 ∧ connectErrno env self w sa = w.errno

variable {env self address w}

theorem connectEx_run {sa : SockAddr}
    (hsa : SockAddr.parseAddress env.host address AF_UNSPEC = .ok sa) :
    connectEx env self address w =
      .ok (connectEvent env self w sa).reply.ret (w.record (connectEvent env self w sa)) := by
  simp [connectEx,bind_apply,map_run,hsa,call,connectEvent,event]

theorem connect_enters {sa : SockAddr}
    (hsa : SockAddr.parseAddress env.host address AF_UNSPEC = .ok sa)
    (h : Enters env "connect" w) :
    connect env self address w = lift ((outcome env "connect" (connectEvent env self w sa).reply
      ((connectEvent env self w sa).reply.errno.getD 0)).map Reply.ret)
        (called env self "connect" (.connect sa sa.len) w) := by
  simp only [connect,bind_apply,hsa,lift_ok,checked_enters h,connectEvent]
  cases outcome env "connect" _ _ <;> rfl

theorem connect_raises {sa : SockAddr}
    (hsa : SockAddr.parseAddress env.host address AF_UNSPEC = .ok sa)
    (h : ¬ Enters env "connect" w) :
    connect env self address w = .error (.runtimeWarning (.errnoBefore w.errno "connect"))
      { w with warnings := .errnoBefore w.errno "connect" :: w.warnings } := by
  simp only [connect,bind_apply,hsa,lift_ok,checked_raises h]

theorem sameReport_rejected {err : PyErr}
    (h : SockAddr.parseAddress env.host address AF_UNSPEC = .error err) :
    SameReport env self address w := by
  have hx : connectEx env self address w = .error err w := by simp [connectEx,bind_apply,h]
  have hc : connect env self address w = .error err w := by simp [connect,bind_apply,h]
  refine ⟨by simp [hx,hc],fun e _ => ?_,by simp [final,hx,hc],fun err' herr => ?_⟩
  · have hplain := raisesPlain_parseAddress env.host address AF_UNSPEC err h e
    simpa [hx,hc] using hplain
  · rw [h] at herr
    cases herr
    exact ⟨⟨w,hx⟩,w,hc⟩

/-- Two runs, one of which returns a number that is not positive, report the same when the other
returns or raises without errno accordingly. -/
theorem sameReport_of_runs {n : ℤ} {t : World} (hx : connectEx env self address w = .ok n t)
    {sa : SockAddr} (hsa : SockAddr.parseAddress env.host address AF_UNSPEC = .ok sa)
    (hn : n ≤ 0) (hsuccess : n = 0 ↔ ∃ n' t', connect env self address w = .ok n' t')
    (hplain : ∀ e t', connect env self address w = .error e t' → e.Plain)
    (herrno : t.errno = (final (connect env self address) w).errno) :
    SameReport env self address w := by
  refine ⟨?_,fun e he => ?_,by rw [final_of_ok hx,herrno],fun err h => ?_⟩
  · rw [← hsuccess,hx]
    constructor
    · rintro ⟨_,h⟩
      cases h
      rfl
    · rintro rfl
      exact ⟨t,rfl⟩
  · constructor
    · rintro ⟨t',h⟩
      rw [hx] at h
      cases h
      omega
    · rintro ⟨msg,t',h⟩
      exact absurd rfl (hplain _ t' h e msg)
  · simp [hsa] at h

theorem failure_plain (r : Reply) {errno : ℤ} (h : errno = 0) (name : String) :
    (failure env name r errno).Plain := by
  intro e msg
  simp [failure,h]

/-- Where `connect` comes to the call. -/
theorem sameReport_enters {sa : SockAddr}
    (hsa : SockAddr.parseAddress env.host address AF_UNSPEC = .ok sa) (h : Enters env "connect" w) :
    SameReport env self address w ↔ (connectEvent env self w sa).reply.ret ≤ 0 ∧
      connectErrno env self w sa = 0 := by
  have hx : connectEx env self address w = _ := connectEx_run hsa
  have hc : connect env self address w = _ := connect_enters hsa h
  have herrno : (final (connect env self address) w).errno = 0 := by
    cases ho : outcome env "connect" (connectEvent env self w sa).reply
      ((connectEvent env self w sa).reply.errno.getD 0) <;>
      simp [final,hc,ho,Except.map]
  obtain ⟨r,hr⟩ : ∃ r, r = (connectEvent env self w sa).reply := ⟨_,rfl⟩
  rw [← hr] at hx hc ⊢
  constructor
  · intro hsame
    have hleft := hsame.errno
    rw [final_of_ok hx,herrno] at hleft
    refine ⟨?_,hleft⟩
    by_contra hpos
    have hfailed := (hsame.failed r.ret (by omega)).mp ⟨_,hx⟩
    obtain ⟨msg,t,hraise⟩ := hfailed
    rw [hc,outcome,if_neg (by omega)] at hraise
    split at hraise <;> simp [Except.map] at hraise
  · rintro ⟨hle,hclear⟩
    have hzero : r.errno.getD 0 = 0 := by
      rw [connectErrno,← hr] at hclear
      cases he : r.errno with
      | none => rfl
      | some e => simpa [he] using hclear
    rw [outcome,hzero] at hc
    refine sameReport_of_runs hx hsa hle ?_ ?_ (by rw [herrno]; exact hclear)
    · by_cases hneg : r.ret < 0
      · simp [hc,hneg,Except.map]
        omega
      · simp [hc,hneg,Except.map]
        omega
    · intro e t hraise
      by_cases hneg : r.ret < 0
      · simp only [hc,hneg,if_true,Except.map,lift_error] at hraise
        cases hraise
        exact failure_plain r rfl "connect"
      · simp [hc,hneg,Except.map] at hraise

/-- Where the warning about an errno left behind keeps `connect` from the call. -/
theorem sameReport_raises {sa : SockAddr}
    (hsa : SockAddr.parseAddress env.host address AF_UNSPEC = .ok sa)
    (h : ¬ Enters env "connect" w) :
    SameReport env self address w ↔ (connectEvent env self w sa).reply.ret < 0 ∧
      connectErrno env self w sa = w.errno := by
  have hx : connectEx env self address w = _ := connectEx_run hsa
  have hc : connect env self address w = _ := connect_raises hsa h
  obtain ⟨r,hr⟩ : ∃ r, r = (connectEvent env self w sa).reply := ⟨_,rfl⟩
  rw [← hr] at hx ⊢
  constructor
  · intro hsame
    have hleft := hsame.errno
    rw [final_of_ok hx,final_of_error hc] at hleft
    refine ⟨?_,hleft⟩
    by_contra hpos
    by_cases hzero : r.ret = 0
    · obtain ⟨n,t,hreturn⟩ := hsame.success.mp ⟨_,hzero ▸ hx⟩
      simp [hc] at hreturn
    · obtain ⟨msg,t,hraise⟩ := (hsame.failed r.ret (by omega)).mp ⟨_,hx⟩
      simp [hc] at hraise
  · rintro ⟨hneg,hleft⟩
    refine sameReport_of_runs hx hsa (by omega) ?_ ?_ (by rw [final_of_error hc]; exact hleft)
    · simp [hc]
      omega
    · intro e t hraise
      rw [hc] at hraise
      cases hraise
      exact fun _ _ => nofun

/-- `connect_ex` and `connect` report the same outcome exactly when the address is rejected or
lwIP's answer is one on which the two conventions agree. -/
theorem connect_sameReport_iff (env : Env) (self : Ref) (address : Address) (w : World) :
    SameReport env self address w ↔
      ∀ sa, SockAddr.parseAddress env.host address AF_UNSPEC = .ok sa →
        ConnectAgrees env self w sa := by
  cases hsa : SockAddr.parseAddress env.host address AF_UNSPEC with
  | error err => simpa using sameReport_rejected hsa
  | ok sa =>
    by_cases h : Enters env "connect" w
    · simpa [ConnectAgrees,h] using sameReport_enters hsa h
    · simpa [ConnectAgrees,h] using sameReport_raises hsa h

def streamWorld : World := World.init.add (fresh 0 AF_INET SOCK_STREAM 0 0)

/-- A connect in the background: `connect` raises `OSError` with `EINPROGRESS` and leaves errno
clear, `connect_ex` returns `-1` and leaves errno behind. -/
theorem connect_ex_returns_ret :
    let env := quietEnv pendingReply
    let address := Address.inet "127.0.0.1" 80
    raised (connect env 0 address) streamWorld =
      some (.osError (some 115) "LwIP connect returned -1, errno 115: ") ∧
    value (connectEx env 0 address) streamWorld = some (-1) ∧
    (final (connect env 0 address) streamWorld).errno = 0 ∧
    (final (connectEx env 0 address) streamWorld).errno = 115 ∧
    ¬ ∀ (env : Env) (self : Ref) (address : Address) (w : World),
      SameReport env self address w := by
  have hconnect : (final (connect (quietEnv pendingReply) 0 (.inet "127.0.0.1" 80))
      streamWorld).errno = 0 := by decide +kernel
  have hconnectEx : (final (connectEx (quietEnv pendingReply) 0 (.inet "127.0.0.1" 80))
      streamWorld).errno = 115 := by decide +kernel
  refine ⟨by decide +kernel,by decide +kernel,hconnect,hconnectEx,fun h => ?_⟩
  have hsame := (h (quietEnv pendingReply) 0 (.inet "127.0.0.1" 80) streamWorld).errno
  rw [hconnect,hconnectEx] at hsame
  cases hsame

end Socket
end LwipPy
