import LwipPy.Errno

/-! `sendall`, the loop over `send`: whatever part of the rest lwIP accepts in each call, the
accepted pieces are the payload, or the beginning of it when a call fails. -/
namespace LwipPy

open Program

namespace Buffer

variable {b : Buffer}

@[simp] theorem len_drop (b : Buffer) (n : ℕ) : (b.drop n).len = b.len-n := rfl

theorem Bytewise.entry (h : b.Bytewise) : b.bytes = [] ∨ b.entry = 1 := by
  have hwhole : b.len = b.len*b.entry := h.trans b.whole
  rcases Nat.eq_zero_or_pos b.len with hzero | hpos
  · rw [← List.length_eq_zero_iff,← h]
    exact .inl hzero
  · exact .inr (Nat.eq_of_mul_eq_mul_left hpos (by omega))

theorem Bytewise.drop_bytes (h : b.Bytewise) (n : ℕ) : (b.drop n).bytes = b.bytes.drop n := by
  rcases h.entry with hnil | hone
  · simp [Buffer.drop,hnil]
  · simp [Buffer.drop,hone]

theorem Bytewise.drop (h : b.Bytewise) (n : ℕ) : (b.drop n).Bytewise := by
  have hlen : b.len = b.bytes.length := h
  rw [Bytewise,h.drop_bytes,List.length_drop,len_drop,hlen]

end Buffer

/-- The bytes lwIP accepted in a call of `lwip_send`. -/
def Event.accepted (e : Event) : Bytes :=
  match e.call with
  | .on _ (.send data _) => data.take e.reply.ret.toNat
  | _ => []

/-- What lwIP accepted over some calls, the newest of which comes first. -/
def delivered (new : List Event) : Bytes := (new.reverse.map Event.accepted).flatten

@[simp] theorem delivered_nil : delivered [] = [] := rfl

theorem delivered_append (new old : List Event) :
    delivered (new ++ old) = delivered old ++ delivered new := by
  simp [delivered]

theorem delivered_singleton (e : Event) : delivered [e] = e.accepted := by
  simp [delivered]

/-- On a payload that is not empty `lwip_send` fails or accepts some of it. -/
def PartialSends (env : Env) : Prop := ∀ log inst s data flags, data ≠ [] →
  let r := env.reply log inst (.on s (.send data flags))
  r.ret < 0 ∨ 1 ≤ r.ret ∧ r.ret ≤ data.length

/-- A call of `lwip_send` that `sendall` makes for the socket `k`. -/
def Event.SendOf (k : Socket) (self : Ref) (flags : ℤ) (e : Event) : Prop :=
  e.inst = k.lwip ∧ e.owner = some self ∧ ∃ data, data ≠ [] ∧ e.call = .on k.s (.send data flags)

/-- Why `sendall` raised, with the calls it made, the newest first. -/
inductive Stopped (env : Env) (flags : ℤ) : PyErr → List Event → Prop
  | failed (e : Event) (rest : List Event) (hfail : e.reply.ret < 0)
      (hrest : ∀ e' ∈ rest, 0 ≤ e'.reply.ret) :
      Stopped env flags (failure env "send" e.reply (e.reply.errno.getD 0)) (e :: rest)
  | warned (v : Warning) (new : List Event) (hraise : env.warningRaises v = true)
      (hnew : ∀ e ∈ new, 0 ≤ e.reply.ret) : Stopped env flags (.runtimeWarning v) new
  | flags (err : PyErr) (h : toSigned 32 flags = .error err) : Stopped env flags err []

theorem Stopped.snoc {env : Env} {flags : ℤ} {err : PyErr} {new : List Event} {e : Event}
    (h : Stopped env flags err new) (he : 0 ≤ e.reply.ret) (hflags : toSigned 32 flags = .ok flags) :
    Stopped env flags err (new ++ [e]) := by
  have hsnoc : ∀ es : List Event, (∀ e' ∈ es, 0 ≤ e'.reply.ret) →
      ∀ e' ∈ es ++ [e], 0 ≤ e'.reply.ret := by
    intro es hes e' he'
    rcases List.mem_append.mp he' with hmem | hmem
    · exact hes e' hmem
    · simpa [List.mem_singleton.mp hmem] using he
  cases h with
  | failed e₀ rest hfail hrest => exact .failed e₀ (rest ++ [e]) hfail (hsnoc rest hrest)
  | warned v new hraise hnew => exact .warned v _ hraise (hsnoc new hnew)
  | flags err herr => simp [herr] at hflags

namespace Socket

variable {env : Env} {self : Ref} {flags : ℤ}

/-- A `send` that returns made one call, which lwIP accepted. -/
theorem send_ok {b : Buffer} {w t : World} {n : ℤ} (h : send env self b flags w = .ok n t) :
    let e := event env self (.send (b.offered env) flags) w
    toSigned 32 flags = .ok flags ∧ 0 ≤ e.reply.ret ∧ n = e.reply.ret ∧ t.log = e :: w.log ∧
      t.sockets = w.sockets := by
  obtain ⟨r,u,hchecked,hret⟩ := bind_eq_ok.mp h
  cases hret
  by_cases henter : Enters env "send" w
  · cases hflags : toSigned 32 flags with
    | error err =>
      rw [hflags] at hchecked
      have hargs := checked_args henter self err
      cases hargs.symm.trans hchecked
    | ok f =>
      obtain rfl : f = flags := (toSigned_ok.mp hflags).1
      rw [hflags] at hchecked
      have hrun := checked_enters henter self (.send (b.offered env) f)
      have hh := hrun.symm.trans hchecked
      unfold outcome at hh
      split_ifs at hh with hneg hwarn
      · cases hh
      · cases hh
      · cases hh
        exact ⟨rfl,by omega,rfl,rfl,rfl⟩
  · have hraise := checked_raises henter self (return .send (b.offered env) (← toSigned 32 flags))
    cases hraise.symm.trans hchecked

/-- A `send` that raises made no call, or one that failed or after which a warning raised. -/
theorem send_error {b : Buffer} {w t : World} {err : PyErr}
    (h : send env self b flags w = .error err t) :
    let e := event env self (.send (b.offered env) flags) w
    t.log = w.log ∧ Stopped env flags err [] ∨
      t.log = e :: w.log ∧ toSigned 32 flags = .ok flags ∧ Stopped env flags err [e] := by
  cases hchecked : checked env self "send" (return .send (b.offered env) (← toSigned 32 flags)) w with
  | ok r u =>
    cases (bind_of_ok hchecked).symm.trans h
  | error err' t' =>
    cases (bind_of_error hchecked).symm.trans h
    by_cases henter : Enters env "send" w
    · cases hflags : toSigned 32 flags with
      | error err' =>
        rw [hflags] at hchecked
        cases (checked_args henter self err').symm.trans hchecked
        exact .inl ⟨rfl,.flags _ hflags⟩
      | ok f =>
        obtain rfl : f = flags := (toSigned_ok.mp hflags).1
        rw [hflags] at hchecked
        have hh := (checked_enters henter self (.send (b.offered env) f)).symm.trans hchecked
        refine .inr ?_
        unfold outcome at hh
        split_ifs at hh with hneg hwarn
        · cases hh
          exact ⟨rfl,rfl,.failed _ [] hneg fun _ he => nomatch he⟩
        · cases hh
          refine ⟨rfl,rfl,.warned _ _ hwarn.2 fun e he => ?_⟩
          rw [List.mem_singleton.mp he]
          omega
        · cases hh
    · cases (checked_raises henter self _).symm.trans hchecked
      rw [Enters,not_or,Bool.not_eq_false] at henter
      exact .inl ⟨rfl,.warned _ [] henter.2 fun _ he => nomatch he⟩

theorem offered_ne_nil {b : Buffer} (hb : b.len ≠ 0) : b.offered env ≠ [] := by
  intro hnil
  have hlen := b.length_offered env
  rw [hnil] at hlen
  exact hb hlen.symm

/-- A call of `send` that does not fail takes some of the entries left, each for a byte. -/
theorem sent_count (hc : PartialSends env) {b : Buffer} (hb : b.len ≠ 0) {w : World}
    (hr : 0 ≤ (event env self (.send (b.offered env) flags) w).reply.ret) :
    let n := (event env self (.send (b.offered env) flags) w).reply.ret.toNat
    1 ≤ n ∧ n ≤ b.len := by
  have hh : (event env self (.send (b.offered env) flags) w).reply.ret < 0 ∨
      1 ≤ (event env self (.send (b.offered env) flags) w).reply.ret ∧
      (event env self (.send (b.offered env) flags) w).reply.ret ≤ (b.offered env).length :=
    hc w.log _ _ (b.offered env) flags (offered_ne_nil hb)
  rw [b.length_offered] at hh
  dsimp only
  omega

theorem accepted_event {b : Buffer} {w : World} :
    (event env self (.send (b.offered env) flags) w).accepted =
      (b.offered env).take (event env self (.send (b.offered env) flags) w).reply.ret.toNat := rfl

/-- The call that `sendall` makes while something is left. -/
theorem sendOf_event {b : Buffer} (hb : b.len ≠ 0) (w : World) :
    (event env self (.send (b.offered env) flags) w).SendOf (w.sockets self) self flags :=
  ⟨rfl,rfl,b.offered env,offered_ne_nil hb,rfl⟩

/-- How a run of `sendall` ends: the entries of the payload each cost one accepted byte, and where
an entry is a byte, the accepted bytes are the payload's. -/
def SentAll (env : Env) (self : Ref) (flags : ℤ) (payload : Buffer) (w : World) :
    EStateM.Result PyErr World PUnit → Prop
  | .ok _ t => ∃ new, t.log = new ++ w.log ∧
      (∀ e ∈ new, e.SendOf (w.sockets self) self flags ∧ 0 ≤ e.reply.ret) ∧
      (delivered new).length = payload.len ∧ (payload.Bytewise → delivered new = payload.bytes)
  | .error err t => ∃ new, t.log = new ++ w.log ∧
      (∀ e ∈ new, e.SendOf (w.sockets self) self flags) ∧ Stopped env flags err new ∧
      (delivered new).length ≤ payload.len ∧
      (payload.Bytewise → delivered new <+: payload.bytes)

theorem sentAll_empty {payload : Buffer} (hlen : payload.len = 0) (w : World) :
    SentAll env self flags payload w (.ok ⟨⟩ w) := by
  refine ⟨[],rfl,by simp,by simp [hlen],fun hbytes => ?_⟩
  have hnil : payload.bytes.length = 0 := hbytes.symm.trans hlen
  rw [List.length_eq_zero_iff.mp hnil,delivered_nil]

/-- The pieces of one accepted call and of the rest make up the payload. -/
theorem accepted_append {b : Buffer} {e : Event} {n : ℕ} (hn : n ≤ b.len)
    (he : e.accepted = (b.offered env).take n) (rest : Bytes) :
    ((e.accepted ++ rest).length = n+rest.length) ∧
    (b.Bytewise → (e.accepted ++ rest <+: b.bytes ↔ rest <+: (b.drop n).bytes) ∧
      (e.accepted ++ rest = b.bytes ↔ rest = (b.drop n).bytes)) := by
  refine ⟨by simp [he,hn],fun hbytes => ?_⟩
  rw [he,hbytes.offered,hbytes.drop_bytes]
  have hsplit := List.take_append_drop n b.bytes
  constructor
  · nth_rewrite 2 [← hsplit]
    exact List.prefix_append_right_inj _
  · nth_rewrite 2 [← hsplit]
    exact List.append_right_inj _

/-- One accepted call, and then a run on what is left. -/
theorem sentAll_step {payload : Buffer} {w t : World} {e : Event} {n : ℕ}
    (hevent : e.SendOf (w.sockets self) self flags) (hret : 0 ≤ e.reply.ret)
    (hflags : toSigned 32 flags = .ok flags) (hn : n ≤ payload.len)
    (hacc : e.accepted = (payload.offered env).take n) (hlog : t.log = e :: w.log)
    (hsockets : t.sockets = w.sockets) {result : EStateM.Result PyErr World PUnit}
    (h : SentAll env self flags (payload.drop n) t result) :
    SentAll env self flags payload w result := by
  cases result with
  | ok a u =>
    obtain ⟨new,hnew,hsends,hlen,hbytes⟩ := h
    rw [hsockets] at hsends
    obtain ⟨hcount,hpieces⟩ := accepted_append hn hacc (delivered new)
    refine ⟨new ++ [e],?_,?_,?_,?_⟩
    · simp [hnew,hlog]
    · intro e' he'
      rcases List.mem_append.mp he' with hmem | hmem
      · exact hsends e' hmem
      · rw [List.mem_singleton.mp hmem]
        exact ⟨hevent,hret⟩
    · rw [delivered_append,delivered_singleton,hcount,hlen,Buffer.len_drop]
      omega
    · intro hone
      rw [delivered_append,delivered_singleton]
      exact (hpieces hone).2.mpr (hbytes (hone.drop n))
  | error err u =>
    obtain ⟨new,hnew,hsends,hstop,hlen,hbytes⟩ := h
    rw [hsockets] at hsends
    obtain ⟨hcount,hpieces⟩ := accepted_append hn hacc (delivered new)
    refine ⟨new ++ [e],?_,?_,hstop.snoc hret hflags,?_,?_⟩
    · simp [hnew,hlog]
    · intro e' he'
      rcases List.mem_append.mp he' with hmem | hmem
      · exact hsends e' hmem
      · rw [List.mem_singleton.mp hmem]
        exact hevent
    · rw [Buffer.len_drop] at hlen
      rw [delivered_append,delivered_singleton,hcount]
      omega
    · intro hone
      rw [delivered_append,delivered_singleton]
      exact (hpieces hone).1.mpr (hbytes (hone.drop n))

theorem sentAll_error {payload : Buffer} (hlen : payload.len ≠ 0)
    {w t : World} {err : PyErr} (h : send env self payload flags w = .error err t) :
    SentAll env self flags payload w (.error err t) := by
  rcases send_error h with ⟨hlog,hstop⟩ | ⟨hlog,_,hstop⟩
  · exact ⟨[],hlog,by simp,hstop,by simp,fun _ => by simp⟩
  · have hacc : (event env self (.send (payload.offered env) flags) w).accepted =
        (payload.offered env).take _ := accepted_event
    refine ⟨[_],hlog,?_,hstop,?_,fun hone => ?_⟩
    · intro e he
      rw [List.mem_singleton.mp he]
      exact sendOf_event hlen w
    · rw [delivered_singleton,hacc]
      simp
    · rw [delivered_singleton,hacc,hone.offered]
      exact List.take_prefix _ _

theorem sendall_done {payload : Buffer} (hlen : payload.len = 0) (fuel : ℕ) (w : World) :
    sendall env self flags fuel payload w = .ok ⟨⟩ w := by
  cases fuel <;> rw [sendall,if_pos hlen] <;> rfl

/-- With at least as many rounds as entries `sendall` is done when they are used up. -/
theorem sendall_run (hc : PartialSends env) (payload : Buffer) (fuel : ℕ)
    (hfuel : payload.len ≤ fuel) (w : World) :
    SentAll env self flags payload w (sendall env self flags fuel payload w) := by
  induction fuel generalizing payload w with
  | zero =>
    have hlen : payload.len = 0 := by omega
    rw [sendall_done hlen]
    exact sentAll_empty hlen w
  | succ fuel ih =>
    by_cases hlen : payload.len = 0
    · rw [sendall_done hlen]
      exact sentAll_empty hlen w
    rw [sendall,if_neg hlen]
    cases hsend : send env self payload flags w with
    | error err t =>
      rw [bind_of_error hsend]
      exact sentAll_error hlen hsend
    | ok n t =>
      rw [bind_of_ok hsend]
      obtain ⟨hflags,hret,rfl,hlog,hsockets⟩ := send_ok hsend
      obtain ⟨hpos,hle⟩ := sent_count hc hlen hret
      refine sentAll_step (sendOf_event hlen w) hret hflags hle accepted_event hlog hsockets
        (ih _ ?_ t)
      rw [Buffer.len_drop]
      omega

/-- More rounds than entries change nothing. -/
theorem sendall_fuel (hc : PartialSends env) (payload : Buffer) (fuel : ℕ)
    (hfuel : payload.len ≤ fuel) (w : World) :
    sendall env self flags (fuel+1) payload w = sendall env self flags fuel payload w := by
  induction fuel generalizing payload w with
  | zero =>
    have hlen : payload.len = 0 := by omega
    rw [sendall_done hlen,sendall_done hlen]
  | succ fuel ih =>
    by_cases hlen : payload.len = 0
    · rw [sendall_done hlen,sendall_done hlen]
    rw [sendall,if_neg hlen,sendall,if_neg hlen]
    cases hsend : send env self payload flags w with
    | error err t => rw [bind_of_error hsend,bind_of_error hsend]
    | ok n t =>
      rw [bind_of_ok hsend,bind_of_ok hsend]
      obtain ⟨_,hret,rfl,_,_⟩ := send_ok hsend
      obtain ⟨hpos,hle⟩ := sent_count hc hlen hret
      refine ih _ ?_ t
      rw [Buffer.len_drop]
      omega

theorem sendall_enough (hc : PartialSends env) {payload : Buffer} {fuel : ℕ}
    (hfuel : payload.len ≤ fuel) (w : World) :
    sendall env self flags fuel payload w = sendall env self flags payload.len payload w := by
  induction fuel, hfuel using Nat.le_induction with
  | base => rfl
  | succ fuel hfuel ih => rw [sendall_fuel hc payload fuel hfuel w,ih]

end Socket

open Socket

/-- The end of a run of `sendall` that made the calls `new`, the newest first. -/
def EndsOnce (env : Env) (flags : ℤ) (payload : Buffer) (w : World) (new : List Event) :
    EStateM.Result PyErr World PUnit → Prop
  | .ok _ t => t.log = new ++ w.log ∧ (∀ e ∈ new, 0 ≤ e.reply.ret) ∧ delivered new = payload.bytes
  | .error err t => t.log = new ++ w.log ∧ Stopped env flags err new ∧
      delivered new <+: payload.bytes

/-- `sendall` ends; what lwIP accepted, in the order of the calls, is the payload when `sendall`
returns and a beginning of it when it raises, which is at once after a failed call. With the
default filter of warnings it returns if no call fails. -/
def SendsOnce (env : Env) (self : Ref) (flags : ℤ) (payload : Buffer) (w : World) : Prop :=
  ∃ (result : EStateM.Result PyErr World PUnit) (new : List Event),
    (∀ fuel, payload.len ≤ fuel → sendall env self flags fuel payload w = result) ∧
    (∀ e ∈ new, e.SendOf (w.sockets self) self flags) ∧ EndsOnce env flags payload w new result ∧
    (env.Quiet → toSigned 32 flags = .ok flags → (∀ e ∈ new, 0 ≤ e.reply.ret) →
      ∃ t, result = .ok ⟨⟩ t)

theorem sendsOnce {env : Env} (hc : PartialSends env) (self : Ref) (flags : ℤ) {payload : Buffer}
    (hone : payload.Bytewise) (w : World) : SendsOnce env self flags payload w := by
  have hrun : SentAll env self flags payload w (sendall env self flags payload.len payload w) :=
    sendall_run hc payload payload.len le_rfl w
  have hfuel : ∀ fuel, payload.len ≤ fuel →
      sendall env self flags fuel payload w = sendall env self flags payload.len payload w :=
    fun fuel h => sendall_enough hc h w
  cases hresult : sendall env self flags payload.len payload w with
  | ok a t =>
    rw [hresult] at hrun hfuel
    obtain ⟨new,hlog,hsends,_,hbytes⟩ := hrun
    exact ⟨_,new,hfuel,fun e he => (hsends e he).1,
      ⟨hlog,fun e he => (hsends e he).2,hbytes hone⟩,fun _ _ _ => ⟨t,rfl⟩⟩
  | error err t =>
    rw [hresult] at hrun hfuel
    obtain ⟨new,hlog,hsends,hstop,_,hbytes⟩ := hrun
    refine ⟨_,new,hfuel,hsends,⟨hlog,hstop,hbytes hone⟩,fun hq hflags hnew => ?_⟩
    cases hstop with
    | failed e rest hfail hrest =>
      have hh := hnew e List.mem_cons_self
      omega
    | warned v new hraise _ => simp [hq v] at hraise
    | flags err herr => simp [hflags] at herr

/-- A run of `sendall` that returns delivered the payload only if its length counts its bytes. -/
theorem sendall_delivers_iff {env : Env} (hc : PartialSends env) {self : Ref} {flags : ℤ}
    {payload : Buffer} {fuel : ℕ} (hfuel : payload.len ≤ fuel) {w t : World}
    (h : sendall env self flags fuel payload w = .ok ⟨⟩ t) :
    delivered (newEvents w t) = payload.bytes ↔ payload.Bytewise := by
  have hrun : SentAll env self flags payload w (sendall env self flags fuel payload w) :=
    sendall_run hc payload fuel hfuel w
  rw [h] at hrun
  obtain ⟨new,hlog,_,hlen,hbytes⟩ := hrun
  rw [newEvents_append hlog]
  refine ⟨fun hall => ?_,hbytes⟩
  rw [Buffer.Bytewise,← hlen,hall]

/-- An lwIP that takes everything at once. -/
def greedyReply (_ : List Event) (_ : Instance) : Call → Reply
  | .on _ (.send data _) => { ret := data.length }
  | _ => { ret := 0 }

theorem greedyReply_partial : PartialSends (quietEnv greedyReply) := by
  intro log inst s data flags hne
  have hpos := List.length_pos_iff.mpr hne
  refine .inr ⟨?_,le_refl _⟩
  simp only [quietEnv,greedyReply]
  omega

/-- Then one call of `send` is enough. -/
theorem sendall_greedy (payload : Buffer) :
    ∃ t, sendall (quietEnv greedyReply) 0 0 (payload.len+1) payload World.init = .ok ⟨⟩ t := by
  by_cases hlen : payload.len = 0
  · exact ⟨_,sendall_done hlen _ _⟩
  · have hret : (event (quietEnv greedyReply) 0 (.send (payload.offered (quietEnv greedyReply)) 0)
        World.init).reply.ret = payload.len :=
      congrArg Int.ofNat (payload.length_offered _)
    have hrun := checked_ok_run (quietEnv_quiet greedyReply) 0 "send"
      (.send (payload.offered (quietEnv greedyReply)) 0) World.init
    rw [if_pos (by omega)] at hrun
    have hsend := bind_of_ok (f := fun r : Reply => (pure r.ret : PyM ℤ)) hrun
    rw [hret] at hsend
    rw [sendall,if_neg hlen]
    refine ⟨_,(bind_of_ok hsend).trans (sendall_done ?_ _ _)⟩
    rw [Buffer.len_drop]
    omega

theorem bytewise_of_sendsOnce {payload : Buffer}
    (h : SendsOnce (quietEnv greedyReply) 0 0 payload World.init) : payload.Bytewise := by
  obtain ⟨t,hrun⟩ := sendall_greedy payload
  obtain ⟨result,new,hfuel,_,hend,_⟩ := h
  obtain rfl := hrun.symm.trans (hfuel (payload.len+1) (Nat.le_succ _))
  obtain ⟨hlog,_,hbytes⟩ := hend
  rw [← sendall_delivers_iff greedyReply_partial (Nat.le_succ _) hrun,newEvents_append hlog]
  exact hbytes

/-- `sendall` of a payload delivers every byte once and in order, whatever part of the rest lwIP
accepts in each call, exactly if the length of the payload counts its bytes. -/
theorem sendall_exactly_once_iff (payload : Buffer) :
    (∀ (env : Env) (self : Ref) (flags : ℤ) (w : World), PartialSends env →
      SendsOnce env self flags payload w) ↔ payload.Bytewise := by
  constructor
  · exact fun hall => bytewise_of_sendsOnce (hall _ 0 0 World.init greedyReply_partial)
  · exact fun hone env self flags w hc => sendsOnce hc self flags hone w

/-- An lwIP that takes two bytes at a time. -/
def pairwiseReply (_ : List Event) (_ : Instance) : Call → Reply
  | .on _ (.send data _) => { ret := (data.take 2).length }
  | _ => { ret := 0 }

theorem pairwiseReply_partial : PartialSends (quietEnv pairwiseReply) := by
  intro log inst s data flags hne
  have hpos := List.length_pos_iff.mpr hne
  refine .inr ⟨?_,?_⟩
  · simp only [quietEnv,pairwiseReply,List.length_take]
    omega
  · simp only [quietEnv,pairwiseReply,List.length_take]
    omega

def fiveBytes : Buffer := .ofBytes [1,2,3,4,5]

theorem sendall_exactly_once_pairwise :
    ∃ t, sendall (quietEnv pairwiseReply) 0 0 5 fiveBytes World.init = .ok ⟨⟩ t ∧
      delivered (newEvents World.init t) = [1,2,3,4,5] := by
  obtain ⟨result,new,hfuel,_,hend,_⟩ := (sendall_exactly_once_iff fiveBytes).mpr rfl
    (quietEnv pairwiseReply) 0 0 World.init pairwiseReply_partial
  have hvalue :
      (value (sendall (quietEnv pairwiseReply) 0 0 5 fiveBytes) World.init).isSome = true := by
    decide
  have hrun := hfuel 5 le_rfl
  cases result with
  | ok a t =>
    obtain ⟨hlog,_,hbytes⟩ := hend
    refine ⟨t,hrun,?_⟩
    rw [newEvents_append hlog]
    exact hbytes
  | error err t => simp [value,hrun] at hvalue

/-- `memoryview(bytearray([1,2,3,4,5,6])).cast('B',[2,3])`: two rows of three bytes. -/
def twoRows : Buffer := ⟨[1,2,3,4,5,6],2,3,by decide⟩

/-- Of two rows of three bytes, two bytes are offered and accepted, and `sendall` returns. -/
theorem sendall_drops_rows :
    (value (sendall (quietEnv greedyReply) 0 0 2 twoRows) World.init = some ⟨⟩ ∧
      (final (sendall (quietEnv greedyReply) 0 0 2 twoRows) World.init).log.map Event.call =
        [.on (-1) (.send [1,2] 0)]) ∧
    ¬ ∀ (payload : Buffer) (env : Env) (self : Ref) (flags : ℤ) (w : World), PartialSends env →
      SendsOnce env self flags payload w := by
  refine ⟨by decide,fun h => ?_⟩
  have hone := bytewise_of_sendsOnce (h twoRows _ 0 0 World.init greedyReply_partial)
  exact absurd hone (by decide)

end LwipPy
