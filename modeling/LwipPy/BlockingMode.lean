import LwipPy.MethodCalls
import LwipPy.PairRule
import LwipPy.Errno

/-! The blocking mode of a socket. The binding keeps no mode of its own and asks lwIP every time;
what it answers is nevertheless the mode that the program set last on that object, by whichever
of the methods, and a pair comes in the mode that was asked for. -/
namespace LwipPy

open Program

def SockCall.mode : SockCall → Option Bool
  | .ioctl cmd arg => if cmd = FIONBIO then some (decide (arg = 0)) else none
  | .fcntl cmd val => if cmd = F_SETFL then some (decide (Int.land val O_NONBLOCK = 0)) else none
  | _ => none

/-- The call is about the settings of a descriptor. -/
def SockCall.controls : SockCall → Bool
  | .ioctl _ _ => true
  | .fcntl _ _ => true
  | _ => false

def Event.mode (e : Event) : Option Bool :=
  match e.call with
  | .on _ c => if 0 ≤ e.reply.ret then c.mode else none
  | _ => none

/-- The mode of `self` as the record of calls tells it; a new descriptor blocks. -/
def modeOf (self : Ref) : List Event → Bool
  | [] => true
  | e::log => if e.addressee log = some self then e.mode.getD (modeOf self log) else modeOf self log

/-- lwIP keeps the mode of each descriptor and reports it in `O_NONBLOCK`. -/
structure KeepsMode (env : Env) : Prop where
  closed : ∀ log inst c, c.controls = true → (env.reply log inst (.on (-1) c)).ret < 0
  flags : ∀ log inst n self val, holder log (inst,n) = some self →
    0 ≤ (env.reply log inst (.on n (.fcntl F_GETFL val))).ret →
    (Int.land (env.reply log inst (.on n (.fcntl F_GETFL val))).ret O_NONBLOCK = 0 ↔
      modeOf self log = true)

/-- The mode of each object that was returned to the program. -/
abbrev Modes := Ref → Option Bool

def Method.mode : Method → Option Bool
  | .setblocking blocking => some blocking
  | .settimeout none => some true
  | .settimeout (some value) => if value = 0 then some false else none
  | .lwipIoctl cmd arg => (SockCall.ioctl cmd arg).mode
  | .lwipFcntl cmd val => (SockCall.fcntl cmd val).mode
  | _ => none

variable (env : Env)

/-- What the program knows after an operation. -/
def ApiOp.modes (op : ApiOp) (w : World) (f : Modes) : Modes :=
  match op with
  | .sockets (.socket lwip family socketType proto) =>
    match value (LwIP.socket env lwip family socketType proto) w with
    | some r => Function.update f r (some true)
    | none => f
  | .sockets (.accept self) =>
    if w.Live self then
      match value (Socket.accept env self) w with
      | some r => Function.update f r.1 (some true)
      | none => f
    else f
  | .sockets (.method self m) =>
    if w.Live self ∧ (value (m.exec env self) w).isSome then
      m.mode.elim f fun blocking => Function.update f self (some blocking)
    else f
  | .socketpair lwip family type proto blocking =>
    match value (LwIP.socketpair env lwip family type proto blocking) w with
    | some r => Function.update (Function.update f r.1 (some blocking)) r.2 (some blocking)
    | none => f
  | _ => f

def modesRun : List ApiOp → World → Modes → Modes
  | [], _, f => f
  | op::ops, w, f => modesRun ops (final (op.exec env) w) (op.modes env w f)

section Calls

variable {env} {self : Ref} {w : World} {f : Modes}

theorem modeOf_cons_none {e : Event} {log : List Event} (h : e.mode = none) (i : Ref) :
    modeOf i (e::log) = modeOf i log := by
  rw [modeOf,h]
  exact ite_self _

theorem modeOf_append {new log : List Event} (h : ∀ e ∈ new, e.mode = none) (i : Ref) :
    modeOf i (new ++ log) = modeOf i log := by
  induction new with
  | nil => rfl
  | cons e new ih =>
    rw [List.cons_append,modeOf_cons_none (h e List.mem_cons_self)]
    exact ih fun e' he' => h e' (List.mem_cons_of_mem _ he')

theorem obtained_length_le (e : Event) (log : List Event) :
    (obtained log).length ≤ (obtained (e::log)).length := by
  cases h : e.obtained with
  | none => rw [obtained_cons_none h]
  | some x =>
    rw [obtained_cons_some h]
    exact Nat.le_succ _

theorem holder_lt {log : List Event} {h : Instance × ℤ} {i : Ref} (hh : holder log h = some i) :
    i < (obtained log).length := by
  induction log with
  | nil => cases hh
  | cons e log ih =>
    rw [holder] at hh
    split at hh
    · next hobt =>
      rw [obtained_cons_some hobt,← Option.some.inj hh]
      exact Nat.lt_succ_self _
    · exact (ih hh).trans_le (obtained_length_le e log)

theorem addressee_lt {e : Event} {log : List Event} {i : Ref} (h : e.addressee log = some i) :
    i < (obtained log).length := by
  unfold Event.addressee at h
  split at h
  · exact holder_lt h
  · cases h

/-- A descriptor blocks until a call about it says otherwise. -/
theorem modeOf_new {log : List Event} {i : Ref} (hi : (obtained log).length ≤ i) :
    modeOf i log = true := by
  induction log with
  | nil => rfl
  | cons e log ih =>
    have hlog : (obtained log).length ≤ i := (obtained_length_le e log).trans hi
    rw [modeOf,if_neg fun h => absurd (addressee_lt h) (Nat.not_lt.mpr hlog)]
    exact ih hlog

/-- Nothing but a mode changed: that of `s` to `b`, if at all. -/
structure Moded (s : Ref) (b : Option Bool) (w t : World) : Prop where
  holding : Holding t
  sockets : t.sockets = w.sockets
  count : t.count = w.count
  mode : ∀ i, modeOf i t.log = if i = s then b.getD (modeOf i w.log) else modeOf i w.log

theorem Moded.live {s i : Ref} {b : Option Bool} {t : World} (h : Moded s b w t) (hl : w.Live i) :
    t.Live i := by
  rw [World.Live,h.sockets,h.count]
  exact hl

theorem moded_none {t : World} (ht : Holding t) (hs : t.sockets = w.sockets)
    (hc : t.count = w.count) (hmode : ∀ i, modeOf i t.log = modeOf i w.log) :
    Moded self none w t :=
  ⟨ht,hs,hc,fun i => by rw [hmode i,Option.getD_none,ite_self]⟩

theorem moded_entered (h : Holding w) (name : String) : Moded self none w (entered name w) :=
  moded_none (h.congr rfl (fun _ => rfl) rfl (h.owned.congr rfl rfl rfl)) rfl rfl fun _ => rfl

/-- The world after a call about the settings of `self`. -/
theorem moded_called (hf : FreshDescriptors env) (hk : KeepsMode env) (h : Holding w)
    (hl : w.Live self) {c : SockCall} (hc : c.controls = true) (name : String) :
    Moded self (if 0 ≤ (Socket.event env self c w).reply.ret then c.mode else none) w
      (Socket.called env self name c w) := by
  have hplain : c.plain = true := by
    cases c <;> first | rfl | cases hc
  obtain ⟨hobt,hcl⟩ := plain_event env self w hplain
  have hholding : Holding (Socket.called env self name c w) :=
    h.step hf (.call _ (attributed_event env hl c) hobt hcl rfl rfl rfl)
  have hmode : (Socket.event env self c w).mode =
      if 0 ≤ (Socket.event env self c w).reply.ret then c.mode else none := rfl
  rcases addressee_event env h hl c with hs | haddr
  · -- a closed socket: the call failed
    have hret := hk.closed w.log (w.sockets self).lwip c hc
    rw [← hs] at hret
    have hneg : ¬ 0 ≤ (Socket.event env self c w).reply.ret := not_le.mpr hret
    rw [if_neg hneg] at hmode ⊢
    exact moded_none hholding rfl rfl fun i => modeOf_cons_none hmode i
  · refine ⟨hholding,rfl,rfl,fun i => ?_⟩
    rw [Socket.called_log,modeOf,haddr,hmode]
    by_cases hi : i = self
    · subst hi
      rw [if_pos rfl,if_pos rfl]
    · rw [if_neg hi,if_neg fun h => hi (Option.some.inj h).symm]

end Calls

section Methods

variable {env} {self : Ref} {w : World} (hq : env.Quiet) (hf : FreshDescriptors env)
  (hk : KeepsMode env) (h : Holding w) (hl : w.Live self)
include hq hf hk h hl

theorem spec_control {name : String} {args : Except PyErr SockCall} {b : Option Bool}
    (hargs : ArgsMake (fun c => c.controls = true ∧ c.mode = b) args) :
    Spec (fun v => v = w) (Socket.checked env self name args) (fun _ => Moded self b w)
      (fun _ => Moded self none w) := by
  refine (spec_checked hq self name args _).consequence (fun _ h => h) ?_ ?_
  · rintro r t ⟨c,w,hc,rfl,rfl,hret,rfl⟩
    have hcalled := moded_called hf hk h hl (hargs c hc).1 name
    rw [if_pos hret,(hargs c hc).2] at hcalled
    exact hcalled
  · rintro e t ⟨w,rfl,⟨rfl,_⟩ | ⟨c,hc,hret,_,rfl⟩⟩
    · exact moded_entered h name
    · have hcalled := moded_called hf hk h hl (hargs c hc).1 name
      rw [if_neg (not_le.mpr hret)] at hcalled
      exact hcalled

theorem spec_ioctl (cmd arg : ℤ) :
    Spec (fun v => v = w) (Socket.lwipIoctl env self cmd arg)
      (fun _ => Moded self (SockCall.ioctl cmd arg).mode w) (fun _ => Moded self none w) := by
  refine spec_converted ?_ fun argp hargp => ?_
  · rintro _ _ _ rfl
    exact moded_none h rfl rfl fun _ => rfl
  · obtain rfl : argp = arg := (toSigned_ok.mp hargp).1
    exact spec_bind (spec_control hq hf hk h hl (argsMake_signed (argsMake_ok ⟨rfl,rfl⟩)))
      fun _ => spec_pure fun _ ht => ht

theorem spec_fcntl (cmd val : ℤ) :
    Spec (fun v => v = w) (Socket.lwipFcntl env self cmd val)
      (fun _ => Moded self (SockCall.fcntl cmd val).mode w) (fun _ => Moded self none w) :=
  spec_bind (spec_control hq hf hk h hl
    (argsMake_signed (argsMake_signed (argsMake_ok ⟨rfl,rfl⟩)))) fun _ => spec_pure fun _ ht => ht

theorem spec_setblocking (blocking : Bool) :
    Spec (fun v => v = w) (Socket.setblocking env self blocking)
      (fun _ => Moded self (some blocking) w) (fun _ => Moded self none w) := by
  have hmode : (SockCall.ioctl FIONBIO (if blocking then 0 else 1)).mode = some blocking := by
    cases blocking <;> rfl
  have hspec := spec_ioctl hq hf hk h hl FIONBIO (if blocking then 0 else 1)
  rw [hmode] at hspec
  exact spec_bind hspec fun _ => spec_pure fun _ ht => ht

omit hq hf hk h hl in
theorem makes_mode {m : Method} (hm : m.mode = none) {c : SockCall} (hc : m.Makes env c) :
    c.mode = none := by
  cases m with
  | fileno => exact hc.elim
  | bind | connect | connectEx | recvInto | sendall | sendto =>
    obtain ⟨_,_,rfl⟩ := hc
    rfl
  | listen | recv | send | shutdown | getblocking | gettimeout =>
    rw [show c = _ from hc]
    rfl
  | lwipIoctl | lwipFcntl =>
    rw [show c = _ from hc]
    exact hm
  | recvfrom | recvmsgInto | sendmsg | getpeername | getsockname =>
    obtain ⟨_,rfl⟩ := hc
    rfl
  | recvfromInto | recvmsg | lwipGetsockopt | getsockopt =>
    obtain ⟨_,_,_,rfl⟩ := hc
    rfl
  | lwipSetsockopt | setsockopt =>
    obtain ⟨_,_,_,_,rfl⟩ := hc
    rfl
  | setblocking => cases hm
  | settimeout value =>
    rcases hc with ⟨rfl,rfl⟩ | ⟨rfl,rfl⟩ <;> cases hm

/-- A method that returns set the mode it asks for, if any; one that raises set none. -/
theorem spec_method_mode (m : Method) :
    Spec (fun v => v = w) (m.exec env self) (fun _ => Moded self m.mode w)
      (fun _ => Moded self none w) := by
  have hother : m.mode = none → Spec (fun v => v = w) (m.exec env self)
      (fun _ => Moded self m.mode w) (fun _ => Moded self none w) := by
    intro hm v hv
    rw [hv]
    obtain ⟨hs,hc,new,hlog,hnew⟩ := method_makes env self m w
    have hholding : Holding (final (m.exec env self) w) :=
      h.steps hf (uses_method self m w hl).1
    have hmode : ∀ i, modeOf i (final (m.exec env self) w).log = modeOf i w.log := by
      intro i
      rw [hlog]
      refine modeOf_append (fun e he => ?_) i
      obtain ⟨_,_,c,hcall,hevent⟩ := hnew e he
      rw [Event.mode,hevent]
      dsimp only
      rw [makes_mode hm hcall,ite_self]
    have hend : Moded self none w (final (m.exec env self) w) :=
      moded_none hholding hs hc hmode
    rw [hm]
    cases hr : m.exec env self w with
    | ok a t => rwa [final_of_ok hr] at hend
    | error e t => rwa [final_of_error hr] at hend
  cases m with
  | setblocking blocking => exact spec_setblocking hq hf hk h hl blocking
  | lwipIoctl cmd arg =>
    exact spec_map (spec_ioctl hq hf hk h hl cmd arg)
  | lwipFcntl cmd val => exact spec_map (spec_fcntl hq hf hk h hl cmd val)
  | settimeout value =>
    cases value with
    | none => exact spec_setblocking hq hf hk h hl true
    | some value =>
      by_cases hv : value = 0
      · subst hv
        exact spec_setblocking hq hf hk h hl false
      · exact hother (if_neg hv)
  | _ => exact hother rfl

end Methods

def Call.Modeless (c : Call) : Prop := ∀ n sc, c = .on n sc → sc.mode = none

section Making

variable {env} {f : Modes} {base : ℕ} {l : List Ref} {w t : World}

theorem modeOf_adds (h : Adds Call.Modeless w t) (i : Ref) : modeOf i t.log = modeOf i w.log := by
  obtain ⟨new,hlog,hnew⟩ := h
  rw [hlog]
  refine modeOf_append (fun e he => ?_) i
  have hmode := hnew e he
  unfold Event.mode
  split
  · next n c hcall => rw [hmode n c hcall,ite_self]
  · rfl

/-- The modes that the program knows, while the objects from `base` on are being made; those in
`l` are around. -/
structure Making (f : Modes) (base : ℕ) (l : List Ref) (w : World) : Prop where
  holding : Holding w
  count : base ≤ w.count
  made : ∀ s ∈ l, base ≤ s ∧ w.Live s
  old : ∀ i b, f i = some b → i < base
  mode : ∀ i b, f i = some b → modeOf i w.log = b

theorem Making.step (hf : FreshDescriptors env) (h : Making f base l w) (hst : Steps env w t)
    (hg : Grown w t) (ha : Adds Call.Modeless w t) : Making f base l t where
  holding := h.holding.steps hf hst
  count := h.count.trans hg.1
  made s hs := ⟨(h.made s hs).1,hg.2 s (h.made s hs).2⟩
  old := h.old
  mode i b hi := by
    rw [modeOf_adds ha]
    exact h.mode i b hi

theorem Making.cons (h : Making f base l w) {r : Ref} (hr : base ≤ r) (hl : w.Live r) :
    Making f base (r::l) w := by
  refine ⟨h.holding,h.count,fun s hs => ?_,h.old,h.mode⟩
  rcases List.mem_cons.mp hs with rfl | hmem
  · exact ⟨hr,hl⟩
  · exact h.made s hmem

/-- The mode of an object that is being made is not known yet. -/
theorem Making.moded (h : Making f base l w) {s : Ref} (hs : s ∈ l) {b : Option Bool}
    (hm : Moded s b w t) : Making f base l t where
  holding := hm.holding
  count := hm.count ▸ h.count
  made i hi := ⟨(h.made i hi).1,hm.live (h.made i hi).2⟩
  old := h.old
  mode i b' hi := by
    have hne : i ≠ s := by
      rintro rfl
      exact absurd (h.old i b' hi) (Nat.not_lt.mpr (h.made i hs).1)
    rw [hm.mode i,if_neg hne]
    exact h.mode i b' hi

variable (hq : env.Quiet) (hf : FreshDescriptors env) (hk : KeepsMode env)
include hq hf hk

/-- What `socketpair` does leaves the modes alone that the program knows. -/
theorem making_pair : LwIP.PairKept env (Making f base) where
  fewer hl h := ⟨h.holding,h.count,fun s hs => h.made s (hl hs),h.old,h.mode⟩
  socket l lwip family socketType proto := by
    intro w hw
    obtain ⟨hgrown,hvalue⟩ := socket_grown hq lwip family socketType proto w
    have hend := hw.step hf (steps_socket hq lwip family socketType proto w) hgrown
      (adds_socket (fun _ _ _ _ _ h => nomatch h) w)
    cases hr : LwIP.socket env lwip family socketType proto w with
    | ok r t =>
      rw [final_of_ok hr] at hend hvalue
      obtain ⟨rfl,hlive⟩ := hvalue r (value_of_ok hr)
      exact hend.cons hw.count hlive
    | error e t => rwa [final_of_error hr] at hend
  accept l s hs := by
    intro w hw
    obtain ⟨hgrown,hvalue⟩ := accept_grown hq s w
    have hadds : Respects (Adds Call.Modeless) (Socket.accept env s) :=
      respects_accept (fun _ => adds_checked fun _ => by rintro _ _ ⟨⟩; rfl) adds_init
    have hend := hw.step hf (uses_accept hq s w (hw.made s hs).2).1 hgrown (hadds w)
    cases hr : Socket.accept env s w with
    | ok r t =>
      rw [final_of_ok hr] at hend hvalue
      obtain ⟨hnew,hlive⟩ := hvalue r (value_of_ok hr)
      exact hend.cons (hnew ▸ hw.count) hlive
    | error e t => rwa [final_of_error hr] at hend
  close l s hs := by
    intro w hw
    have hadds : Respects (Adds Call.Modeless) (Socket.close env s) :=
      respects_close (adds_checked fun _ => by rintro _ _ ⟨⟩; rfl) (adds_modifySocket s _)
    have hend := hw.step hf (uses_close hq s w (hw.made s hs).2).1 (close_grown hq s w) (hadds w)
    cases hr : Socket.close env s w with
    | ok r t => rwa [final_of_ok hr] at hend
    | error e t => rwa [final_of_error hr] at hend
  method l s hs m := by
    intro w hw
    have hend := spec_method_mode hq hf hk hw.holding (hw.made s hs).2 m w rfl
    cases hr : m.exec env s w with
    | ok r t =>
      rw [hr] at hend
      exact hw.moded hs hend
    | error e t =>
      rw [hr] at hend
      exact hw.moded hs hend

/-- Both sockets of a pair get the mode that was asked for. -/
theorem making_finish {client server : Ref} (hc : client ∈ l) (hs : server ∈ l) (blocking : Bool) :
    Spec (Making f base l) (LwIP.finishPair env blocking client server)
      (fun p w => Making f base [p.1,p.2] w ∧
        modeOf p.1 w.log = blocking ∧ modeOf p.2 w.log = blocking)
      (fun _ => Making f base l) := by
  refine spec_bind ((making_pair hq hf hk).notConnected hc hs) fun differ =>
    spec_guard (fun _ hw => hw) fun _ => ?_
  have hset : ∀ s ∈ l, ∀ P : World → Prop, (∀ w t, P w → Moded s (some blocking) w t → P t) →
      Spec (fun w => Making f base l w ∧ P w) (Socket.setblocking env s blocking)
        (fun _ w => Making f base l w ∧ P w ∧ modeOf s w.log = blocking)
        (fun _ => Making f base l) := by
    rintro s hs P hP w ⟨hw,hPw⟩
    have hend := spec_setblocking hq hf hk hw.holding (hw.made s hs).2 blocking w rfl
    cases hr : Socket.setblocking env s blocking w with
    | ok r t =>
      rw [hr] at hend
      exact ⟨hw.moded hs hend,hP w t hPw hend,(hend.mode s).trans (if_pos rfl)⟩
    | error e t =>
      rw [hr] at hend
      exact hw.moded hs hend
  have hclient : Spec (Making f base l) (Socket.setblocking env client blocking)
      (fun _ w => Making f base l w ∧ modeOf client w.log = blocking) (fun _ => Making f base l) :=
    (hset client hc (fun _ => True) fun _ _ _ _ => trivial).consequence (fun _ hw => ⟨hw,trivial⟩)
      (fun _ _ hw => ⟨hw.1,hw.2.2⟩) fun _ _ hw => hw
  have hserver := hset server hs (fun w => modeOf client w.log = blocking) fun w t hw hm => by
    rw [hm.mode client,hw]
    exact ite_self _
  refine spec_bind hclient fun _ => spec_bind hserver fun _ => spec_pure fun w hw => ⟨?_,hw.2⟩
  exact (making_pair hq hf hk).fewer (by simp [hc,hs]) hw.1

end Making

section Runs

variable {env} {f : Modes} {base : ℕ} {l : List Ref} {self : Ref} {w t : World}

/-- What the program knows of its objects is so. -/
abbrev Informed (f : Modes) (w : World) : Prop := Making f w.count [] w

theorem Making.informed (h : Making f base l w) : Informed f w :=
  ⟨h.holding,le_refl _,fun _ hs => (nomatch hs),fun i b hi => (h.old i b hi).trans_le h.count,h.mode⟩

/-- The program is told of an object, or it sets its mode. -/
theorem Making.learn (h : Making f base l w) {r : Ref} (hr : r < w.count) {b : Bool}
    (hmode : modeOf r w.log = b) : Informed (Function.update f r (some b)) w := by
  refine ⟨h.holding,le_refl _,fun _ hs => (nomatch hs),fun i b' hi => ?_,fun i b' hi => ?_⟩
  · by_cases hir : i = r
    · rwa [hir]
    · rw [Function.update_of_ne hir] at hi
      exact (h.old i b' hi).trans_le h.count
  · by_cases hir : i = r
    · subst hir
      rw [Function.update_self] at hi
      rw [hmode]
      exact Option.some.inj hi
    · rw [Function.update_of_ne hir] at hi
      exact h.mode i b' hi

theorem steps_count (h : Steps env w t) : w.count ≤ t.count := by
  induction h with
  | refl => exact le_refl _
  | tail _ hst ih =>
    refine ih.trans ?_
    cases hst with
    | create e k ha hr ho hd hk hf hcl hlog hs hc => omega
    | quiet hlog hs hc => exact hc.ge
    | call e ha ho hcl hlog hs hc => exact hc.ge
    | close i r hl hs₀ hlog hs hc => exact hc.ge
    | finalize i fd r hl hf hlog hs hc => exact hc.ge
    | forget i hl hf hlog hs hc => exact hc.ge

/-- Calls that set no mode, whatever objects come and go. -/
theorem Making.pass (hf : FreshDescriptors env) (h : Informed f w) (hst : Steps env w t)
    (ha : Adds Call.Modeless w t) : Informed f t where
  holding := h.holding.steps hf hst
  count := le_refl _
  made _ hs := nomatch hs
  old i b hi := (h.old i b hi).trans_le (steps_count hst)
  mode i b hi := by
    rw [modeOf_adds ha]
    exact h.mode i b hi

theorem Making.create (hf : FreshDescriptors env) (h : Informed f w) (hst : Steps env w t)
    (ha : Adds Call.Modeless w t) {r : Ref} (hr : r = w.count) (hl : t.Live r) :
    Informed (Function.update f r (some true)) t := by
  refine (h.pass hf hst ha).learn hl.1 ?_
  rw [modeOf_adds ha,hr]
  exact modeOf_new h.holding.owned.obtained_length.le

theorem Making.set (h : Informed f w) {s : Ref} (hs : s < w.count) {b : Option Bool}
    (hm : Moded s b w t) : Informed (b.elim f fun b => Function.update f s (some b)) t := by
  have hcount : s < t.count := hm.count.symm ▸ hs
  cases b with
  | none =>
    refine ⟨hm.holding,le_refl _,fun _ hs => (nomatch hs),fun i b hi => ?_,fun i b hi => ?_⟩
    · exact (h.old i b hi).trans_eq hm.count.symm
    · rw [hm.mode i,Option.getD_none,ite_self]
      exact h.mode i b hi
  | some b =>
    rw [Option.elim_some]
    refine ⟨hm.holding,le_refl _,fun _ hs => (nomatch hs),fun i b' hi => ?_,fun i b' hi => ?_⟩
    · by_cases his : i = s
      · rwa [his]
      · rw [Function.update_of_ne his] at hi
        exact (h.old i b' hi).trans_eq hm.count.symm
    · rw [hm.mode i]
      by_cases his : i = s
      · rw [his,Function.update_self] at hi
        rw [if_pos his]
        exact Option.some.inj hi
      · rw [Function.update_of_ne his] at hi
        rw [if_neg his]
        exact h.mode i b' hi

variable (hq : env.Quiet) (hf : FreshDescriptors env)
include hq hf

theorem informed_sockets (h : Informed f w) {op : SocketOp} (hop : ∀ c, op.Makes env c → c.Modeless) :
    Informed f (final (op.exec env) w) := by
  obtain ⟨new,hlog,hnew⟩ := op_makes env op w
  exact h.pass hf (steps_exec hq op w) ⟨new,hlog,fun e he => hop _ (hnew e he)⟩

omit hq hf in
theorem poll_passes (o : LwipPoll) (timeout : Timeout) :
    Respects (fun w t => Steps env w t ∧ Adds Call.Modeless w t)
      ((ApiOp.poll o timeout).exec env) := by
  have henter : ∀ inst fds n k w, Steps env w (final (enter env inst none (.poll fds n k)) w) := by
    intro inst fds n k w
    exact .single (.call ⟨inst,none,.poll fds n k,env.reply w.log inst (.poll fds n k)⟩
      (.inl ⟨rfl,fun _ _ h => nomatch h⟩) rfl rfl rfl rfl rfl)
  have hsteps : Respects (Steps env) ((ApiOp.poll o timeout).exec env) :=
    respects_withLocal (respects_discard (respects_poll fun _ _ => respects_checkRetErrno
      (fun _ _ => .single (.quiet rfl rfl rfl)) (fun _ _ => .single (.quiet rfl rfl rfl)) _
      (respects_bind (respects_lift _) fun _ => henter _ _ _ _)))
  have hadds : Respects (Adds Call.Modeless) ((ApiOp.poll o timeout).exec env) :=
    respects_withLocal (respects_discard (respects_poll fun _ _ => respects_checkRetErrno
      (fun _ _ => adds_same rfl) (fun _ _ => adds_same rfl) _
      (respects_bind (respects_lift _) fun _ => adds_enter (by rintro _ _ ⟨⟩))))
  exact fun w => ⟨hsteps w,hadds w⟩

variable (hk : KeepsMode env)
include hk

theorem informed_exec (h : Informed f w) (op : ApiOp) :
    Informed (op.modes env w f) (final (op.exec env) w) := by
  have hclose : ∀ op : SocketOp, (∀ c, op.Makes env c → ∃ n, c = .on n .close) →
      Informed f (final (op.exec env) w) := by
    intro op hop
    refine informed_sockets hq hf h fun c hc n sc hcall => ?_
    obtain ⟨_,rfl⟩ := hop c hc
    cases hcall
    rfl
  cases op with
  | sockets op =>
    cases op with
    | socket lwip family socketType proto =>
      obtain ⟨_,hvalue⟩ := socket_grown hq lwip family socketType proto w
      have hsteps := steps_socket hq lwip family socketType proto w
      have hadds : Adds Call.Modeless w (final (LwIP.socket env lwip family socketType proto) w) :=
        adds_socket (by rintro _ _ _ _ _ ⟨⟩) w
      rw [ApiOp.exec,SocketOp.exec,final_discard,ApiOp.modes]
      split
      · next r hr =>
        obtain ⟨hnew,hlive⟩ := hvalue r hr
        exact h.create hf hsteps hadds hnew hlive
      · exact h.pass hf hsteps hadds
    | accept s =>
      rw [ApiOp.exec,SocketOp.exec,final_onLive,ApiOp.modes]
      by_cases hl : w.Live s
      · obtain ⟨_,hvalue⟩ := accept_grown hq s w
        have hsteps := (uses_accept hq s w hl).1
        have hadds : Adds Call.Modeless w (final (Socket.accept env s) w) :=
          respects_accept (fun _ => adds_checked fun _ => by rintro _ _ ⟨⟩; rfl) adds_init w
        rw [if_pos hl,if_pos hl,final_discard]
        split
        · next r hr =>
          obtain ⟨hnew,hlive⟩ := hvalue r hr
          exact h.create hf hsteps hadds hnew hlive
        · exact h.pass hf hsteps hadds
      · rw [if_neg hl,if_neg hl]
        exact h
    | close s => exact hclose (.close s) fun _ hc => hc
    | exit s => exact hclose (.exit s) fun _ hc => hc
    | collect s => exact hclose (.collect s) fun _ hc => hc
    | method s m =>
      rw [ApiOp.exec,SocketOp.exec,final_onLive,ApiOp.modes]
      by_cases hl : w.Live s
      · have hend := spec_method_mode hq hf hk h.holding hl m w rfl
        rw [if_pos hl]
        cases hr : m.exec env s w with
        | ok a t =>
          rw [hr] at hend
          rw [final_of_ok hr,value_of_ok hr,if_pos ⟨hl,rfl⟩]
          exact h.set hl.1 hend
        | error e t =>
          rw [hr] at hend
          rw [final_of_error hr,value_of_error hr,if_neg (by simp)]
          exact h.set hl.1 hend
      · rw [if_neg hl,if_neg fun hh => hl hh.1]
        exact h
  | socketpair lwip family type proto blocking =>
    have hend := (making_pair hq hf hk).socketpair
      (fun l client hc server hs => making_finish hq hf hk hc hs blocking) lwip family type proto w h
    rw [ApiOp.exec,final_discard,ApiOp.modes]
    cases hr : LwIP.socketpair env lwip family type proto blocking w with
    | error e t =>
      rw [hr] at hend
      rw [final_of_error hr,value_of_error hr]
      exact hend.informed
    | ok r t =>
      rw [hr] at hend
      obtain ⟨hmade,hclient,hserver⟩ := hend
      rw [final_of_ok hr,value_of_ok hr]
      have hlt : ∀ s ∈ [r.1,r.2], s < t.count := fun s hs => (hmade.made s hs).2.1
      exact (hmade.learn (hlt r.1 (by simp)) hclient).learn (hlt r.2 (by simp)) hserver
  | poll o timeout =>
    obtain ⟨hsteps,hadds⟩ := poll_passes o timeout w
    exact h.pass hf hsteps hadds

theorem informed_run (h : Informed f w) (ops : List ApiOp) :
    Informed (modesRun env ops w f) (apiRun env ops w) := by
  induction ops generalizing w f with
  | nil => exact h
  | cons op ops ih => exact ih (informed_exec hq hf hk h op)

omit hf in
/-- What `getblocking` returns is what lwIP keeps. -/
theorem getblocking_mode (h : Holding w) (hl : w.Live self) {b : Bool}
    (hv : value (Socket.getblocking env self) w = some b) : b = modeOf self w.log := by
  obtain ⟨t,hrun⟩ : ∃ t, Socket.getblocking env self w = .ok b t := by
    cases hr : Socket.getblocking env self w with
    | ok a t =>
      rw [value_of_ok hr] at hv
      exact ⟨t,by rw [Option.some.inj hv]⟩
    | error e t =>
      rw [value_of_error hr] at hv
      cases hv
  obtain ⟨r,v,hcall,hb⟩ := bind_eq_ok.mp hrun
  obtain ⟨reply,u,hchecked,hr⟩ := bind_eq_ok.mp hcall
  cases hr
  cases hb
  obtain ⟨c,v,hc,hv,hreply,hret,_⟩ :=
    (spec_checked hq self "fcntl" _ (fun v => v = w)).of_ok rfl hchecked
  cases hc
  rw [hv] at hreply
  rw [hreply] at hret ⊢
  rcases addressee_event env h hl (.fcntl F_GETFL 0) with hs | haddr
  · have hclosed := hk.closed w.log (w.sockets self).lwip (.fcntl F_GETFL 0) rfl
    rw [← hs] at hclosed
    exact absurd hret (not_le.mpr hclosed)
  · have hflags := hk.flags w.log (w.sockets self).lwip (w.sockets self).s self 0 haddr hret
    have hland : (Int.land (Socket.event env self (.fcntl F_GETFL 0) w).reply.ret O_NONBLOCK == 0) =
        decide (modeOf self w.log = true) := decide_eq_decide.mpr hflags
    rw [hland,Bool.decide_eq_true]

omit hf in
theorem gettimeout_mode (h : Holding w) (hl : w.Live self) {timeout : Option ℚ}
    (hv : value (Socket.gettimeout env self) w = some timeout) :
    timeout = if modeOf self w.log = true then none else some 0 := by
  cases hr : Socket.getblocking env self w with
  | error e t =>
    have hrun : Socket.gettimeout env self w = .error e t := bind_of_error hr
    rw [value_of_error hrun] at hv
    cases hv
  | ok b t =>
    have hb := getblocking_mode hq hk h hl (value_of_ok hr)
    have hrun : Socket.gettimeout env self w = _ := bind_of_ok hr
    rw [← hb]
    cases b <;> (rw [value_of_ok hrun] at hv; exact (Option.some.inj hv).symm)

/-- The mode an object reports is the one the program set last. In every run of operations, with
pairs and polls among them, in any order and however lwIP answers: for each object that was
returned to the program, `getblocking` and `gettimeout`, when they return, report the mode of the
last `setblocking`, `settimeout`, `lwip_ioctl` or `lwip_fcntl` on this object that returned and
set one; before any, a socket made or accepted blocks, and those of a pair are as it was asked
for. -/
theorem reported_mode_is_last_set (ops : List ApiOp) {b : Bool}
    (hl : (apiRun env ops World.init).Live self)
    (hb : modesRun env ops World.init (fun _ => none) self = some b) :
    (∀ r, value (Socket.getblocking env self) (apiRun env ops World.init) = some r → r = b) ∧
    ∀ t, value (Socket.gettimeout env self) (apiRun env ops World.init) = some t →
      t = if b = true then none else some 0 := by
  have hinit : Informed (fun _ => none) World.init :=
    ⟨holding_init,le_refl _,fun _ hs => (nomatch hs),fun _ _ hi => (nomatch hi),
      fun _ _ hi => (nomatch hi)⟩
  have hend := informed_run hq hf hk hinit ops
  rw [← hend.mode self b hb]
  exact ⟨fun r => getblocking_mode hq hk hend.holding hl,
    fun t => gettimeout_mode hq hk hend.holding hl⟩

end Runs

/-- An lwIP that keeps the mode of each descriptor; all its sockets have one name. -/
def modeReply (log : List Event) (inst : Instance) (call : Call) : Reply :=
  match call with
  | .on n (.ioctl _ _) => { ret := if n < 0 then -1 else 0 }
  | .on n (.fcntl _ _) =>
    { ret := (holder log (inst,n)).elim (-1) fun self => if modeOf self log then 0 else O_NONBLOCK }
  | _ =>
    { tableReply log inst call with
      name := some (SockAddr.inetImage littleHost (Vector.replicate 4 1) 53) }

theorem modeReply_fresh : FreshDescriptors (quietEnv modeReply) := by
  intro log inst owner call h hobt
  refine tableReply_fresh log inst owner call h ?_
  cases call with
  | poll => cases hobt
  | socket d t p => exact hobt
  | on n c =>
    cases c with
    | accept l => exact hobt
    | _ => cases hobt

theorem modeReply_keeps : KeepsMode (quietEnv modeReply) where
  closed log inst c hc := by
    have hnone : holder log (inst,-1) = none := by
      cases h : holder log (inst,-1) with
      | none => rfl
      | some i => simpa using holder_nonneg h
    change (modeReply log inst _).ret < 0
    cases c with
    | ioctl => exact Int.negSucc_lt_zero 0
    | fcntl =>
      rw [modeReply,hnone]
      exact Int.negSucc_lt_zero 0
    | _ => cases hc
  flags log inst n self val hheld _ := by
    change Int.land (modeReply log inst _).ret O_NONBLOCK = 0 ↔ _
    rw [modeReply,hheld,Option.elim_some]
    cases modeOf self log with
    | true => exact iff_of_true (by decide) rfl
    | false => exact iff_of_false (by decide) Bool.false_ne_true

/-- A pair that does not block, one end of which is changed. -/
def modeOps : List ApiOp :=
  [.socketpair 0 AF_INET SOCK_DGRAM 0 false,.sockets (.method 1 (.settimeout none)),
    .sockets (.method 0 (.settimeout (some 5)))]

theorem reported_mode_is_last_set_pair :
    value (Socket.getblocking (quietEnv modeReply) 0)
      (apiRun (quietEnv modeReply) modeOps World.init) = some false ∧
    ∀ t, value (Socket.gettimeout (quietEnv modeReply) 1)
      (apiRun (quietEnv modeReply) modeOps World.init) = some t → t = none := by
  refine ⟨by decide +kernel,fun t ht => ?_⟩
  exact (reported_mode_is_last_set (quietEnv_quiet modeReply) modeReply_fresh modeReply_keeps
    modeOps (b := true) (by decide +kernel) (by decide +kernel)).2 t ht

end LwipPy
