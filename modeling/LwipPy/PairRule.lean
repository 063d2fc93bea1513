import LwipPy.MethodCalls

/-! A rule for `LwIP.socketpair`: what making, accepting and closing a socket and the methods keep,
as long as they are used on the sockets made here, holds when `socketpair` returns or raises. -/
namespace LwipPy

open Program

/-- Objects are added, and none is collected. -/
def Grown (w t : World) : Prop := w.count ≤ t.count ∧ ∀ i, w.Live i → t.Live i

section Grown

variable {env : Env} {w t : World}

theorem grown_same (hs : t.sockets = w.sockets) (hc : t.count = w.count) : Grown w t :=
  ⟨hc.ge,fun i hi => by rw [World.Live,hs,hc]; exact hi⟩

theorem grown_add (k : Socket) : Grown w (w.add k) :=
  ⟨Nat.le_succ _,fun _ hi => live_add hi k⟩

theorem live_new (w : World) {k : Socket} (hk : k.collected = false) : (w.add k).Live w.count := by
  refine ⟨Nat.lt_succ_self _,?_⟩
  rw [World.add_sockets,Function.update_self]
  exact hk

theorem grown_put {i : Ref} {k : Socket} (hk : k.collected = (w.sockets i).collected) :
    Grown w (w.put i k) := by
  refine ⟨le_refl _,fun j hj => ⟨hj.1,?_⟩⟩
  rw [World.put_sockets]
  by_cases hij : j = i
  · subst hij
    rw [Function.update_self,hk]
    exact hj.2
  · rw [Function.update_of_ne hij]
    exact hj.2

/-- A new object is the next one, and it can be referred to. -/
theorem socket_grown (hq : env.Quiet) (lwip : Instance) (family socketType proto : ℤ) (w : World) :
    Grown w (final (LwIP.socket env lwip family socketType proto) w) ∧
    ∀ r, value (LwIP.socket env lwip family socketType proto) w = some r →
      r = w.count ∧ (final (LwIP.socket env lwip family socketType proto) w).Live r := by
  have hrun := LwIP.socket_run hq lwip family socketType proto w
  cases hcall : LwIP.socketCall family socketType proto with
  | error e =>
    rw [hcall] at hrun
    rw [final_of_error hrun,value_of_error hrun]
    exact ⟨grown_same rfl rfl,fun r hr => nomatch hr⟩
  | ok call =>
    rw [hcall] at hrun
    by_cases hr : 0 ≤ (LwIP.socketEvent env lwip call w).reply.ret
    · have hok := hrun.trans (if_pos hr)
      rw [final_of_ok hok,value_of_ok hok]
      refine ⟨grown_add _,fun r hr => ?_⟩
      cases hr
      exact ⟨rfl,live_new (LwIP.socketCalled env lwip call w) rfl⟩
    · have herr := hrun.trans (if_neg hr)
      rw [final_of_error herr,value_of_error herr]
      exact ⟨grown_same rfl rfl,fun r hr => nomatch hr⟩

theorem accept_grown (hq : env.Quiet) (s : Ref) (w : World) :
    Grown w (final (Socket.accept env s) w) ∧
    ∀ r, value (Socket.accept env s) w = some r →
      r.1 = w.count ∧ (final (Socket.accept env s) w).Live r.1 := by
  obtain ⟨c,hc⟩ : ∃ c, c = SockCall.accept SockAddr.createEmptySockaddrPaddrlen.2 := ⟨_,rfl⟩
  have hrun := Socket.accept_run hq s w
  simp only [← hc] at hrun
  by_cases hr : 0 ≤ (Socket.event env s c w).reply.ret
  · rw [if_pos hr] at hrun
    cases haddr : ((Socket.event env s c w).reply.name.getD
        SockAddr.createEmptySockaddrPaddrlen.1).unparseAddress env.host with
    | error e =>
      rw [haddr] at hrun
      rw [final_of_error hrun,value_of_error hrun]
      exact ⟨grown_add (w := Socket.called env s "accept" c w) _,fun r hr => nomatch hr⟩
    | ok address =>
      rw [haddr] at hrun
      rw [final_of_ok hrun,value_of_ok hrun]
      refine ⟨grown_add (w := Socket.called env s "accept" c w) _,fun r hr => ?_⟩
      cases hr
      exact ⟨rfl,live_new (Socket.called env s "accept" c w) rfl⟩
  · have herr := hrun.trans (if_neg hr)
    rw [final_of_error herr,value_of_error herr]
    exact ⟨grown_same rfl rfl,fun r hr => nomatch hr⟩

theorem close_grown (hq : env.Quiet) (s : Ref) (w : World) :
    Grown w (final (Socket.close env s) w) := by
  by_cases hs : 0 ≤ (w.sockets s).s
  · rw [Socket.final_close hq hs]
    exact grown_put (w := Socket.called env s "close" .close w) rfl
  · rw [final_of_ok ((Socket.close_run hq s w).trans (if_neg hs))]
    exact grown_same rfl rfl

end Grown

namespace LwIP

variable (env : Env)

/-- `I l` is kept by whatever `socketpair` does with the sockets in `l`. -/
structure PairKept (I : List Ref → World → Prop) : Prop where
  fewer : ∀ {l l' : List Ref} {w : World}, l' ⊆ l → I l w → I l' w
  socket : ∀ l lwip family socketType proto, Spec (I l)
    (LwIP.socket env lwip family socketType proto) (fun r => I (r::l)) (fun _ => I l)
  accept : ∀ l, ∀ s ∈ l, Spec (I l) (Socket.accept env s) (fun r => I (r.1::l)) (fun _ => I l)
  close : ∀ l, ∀ s ∈ l, Spec (I l) (Socket.close env s) (fun _ => I l) (fun _ => I l)
  method : ∀ l, ∀ s ∈ l, ∀ m : Method, Spec (I l) (m.exec env s) (fun _ => I l) (fun _ => I l)

/-- The local variables name sockets in `l`. -/
def Locals.Within (l : List Ref) (x : Locals) : Prop :=
  (∀ s, x.serverSock = some s → s ∈ l) ∧ ∀ s, x.clientSock = some s → s ∈ l

def Having (I : List Ref → World → Prop) (l : List Ref) (x : Locals) (c : World × Locals) : Prop :=
  I l c.1 ∧ c.2 = x

/-- Wherever the outer `try` block is left by an exception. -/
def LeftOff (I : List Ref → World → Prop) (c : World × Locals) : Prop :=
  ∃ l, I l c.1 ∧ c.2.Within l

variable {env} {I : List Ref → World → Prop} {l : List Ref} {x : Locals}

theorem Having.leftOff {c : World × Locals} (h : Having I l x c) (hx : x.Within l) :
    LeftOff I c := ⟨l,h.1,h.2 ▸ hx⟩

theorem within_none (l : List Ref) : Locals.Within l ⟨none,none⟩ :=
  ⟨fun _ h => (nomatch h),fun _ h => (nomatch h)⟩

theorem within_client {k : Ref} (hk : k ∈ l) : Locals.Within l ⟨none,some k⟩ := by
  refine ⟨fun _ h => (nomatch h),fun s h => ?_⟩
  rw [← Option.some.inj h]
  exact hk

theorem within_server {k : Ref} (hk : k ∈ l) : Locals.Within l ⟨some k,none⟩ := by
  refine ⟨fun s h => ?_,fun _ h => (nomatch h)⟩
  rw [← Option.some.inj h]
  exact hk

theorem within_both {s k : Ref} (hs : s ∈ l) (hk : k ∈ l) : Locals.Within l ⟨some s,some k⟩ :=
  ⟨(within_server hs).1,(within_client hk).2⟩

namespace PairKept

variable (h : PairKept env I)
include h

theorem result {α : Type} {s : Ref} (hs : s ∈ l) (m : Method) {program : PyM α}
    (hm : m.exec env s = discard program) :
    Spec (I l) program (fun _ => I l) (fun _ => I l) := by
  intro w hw
  have hrun := h.method l s hs m w hw
  rw [hm,discard_run] at hrun
  cases hp : program w with
  | ok a t => simpa [hp] using hrun
  | error e t => simpa [hp] using hrun

theorem outerResult {α : Type} {s : Ref} (hs : s ∈ l) (m : Method) {program : PyM α}
    (hm : m.exec env s = discard program) :
    Spec (Having I l x) (outer program) (fun _ => Having I l x) (fun _ => Having I l x) :=
  spec_zoom_fst (h.result hs m hm) x

theorem outerSocket (lwip : Instance) (family socketType proto : ℤ) :
    Spec (Having I l x) (outer (LwIP.socket env lwip family socketType proto))
      (fun r => Having I (r::l) x) (fun _ => Having I l x) :=
  spec_zoom_fst (h.socket l lwip family socketType proto) x

theorem outerAccept {s : Ref} (hs : s ∈ l) :
    Spec (Having I l x) (outer (Socket.accept env s))
      (fun r => Having I (r.1::l) x) (fun _ => Having I l x) :=
  spec_zoom_fst (h.accept l s hs) x

omit h in
theorem setsClient (k : Ref) {E : PyErr → World × Locals → Prop} :
    Spec (Having I l x) (setClient k) (fun _ => Having I l { x with clientSock := some k }) E :=
  spec_modify fun _ hc => ⟨hc.1,by rw [← hc.2]⟩

omit h in
theorem setsServer (k : Ref) {E : PyErr → World × Locals → Prop} :
    Spec (Having I l x) (setServer k) (fun _ => Having I l { x with serverSock := some k }) E :=
  spec_modify fun _ hc => ⟨hc.1,by rw [← hc.2]⟩

/-- The block under the inner `try`: the listening socket is around wherever it is left. -/
theorem connectThrough (lwip : Instance) (family type proto : ℤ) (address : Address)
    (listenSock : Ref) :
    Spec (Having I [listenSock] ⟨none,none⟩)
      (LwIP.connectThrough env lwip family type proto address listenSock)
      (fun r => Having I [r.2,r.1,listenSock] ⟨some r.2,some r.1⟩)
      (fun _ c => ∃ l, I l c.1 ∧ listenSock ∈ l ∧ c.2.Within l) := by
  have hfirst : ∀ c, Having I [listenSock] ⟨none,none⟩ c →
      ∃ l, I l c.1 ∧ listenSock ∈ l ∧ c.2.Within l :=
    fun c hc => ⟨_,hc.1,List.mem_cons_self,hc.2 ▸ within_none _⟩
  refine spec_bind ((h.outerResult List.mem_cons_self (.bind address) rfl).onError
    fun _ => hfirst) fun _ => ?_
  refine spec_bind ((h.outerResult List.mem_cons_self (.listen (-1)) rfl).onError
    fun _ => hfirst) fun _ => ?_
  refine spec_bind ((h.outerSocket lwip family type proto).onError fun _ => hfirst) fun client => ?_
  have hsecond : ∀ c, Having I [client,listenSock] ⟨none,some client⟩ c →
      ∃ l, I l c.1 ∧ listenSock ∈ l ∧ c.2.Within l :=
    fun c hc => ⟨_,hc.1,by simp,hc.2 ▸ within_client List.mem_cons_self⟩
  refine spec_bind (setsClient client) fun _ => ?_
  refine spec_bind ((h.outerResult List.mem_cons_self (.setblocking false)
    (discard_unit _).symm).onError fun _ => hsecond) fun _ => ?_
  refine spec_bind ((h.outerResult (s := listenSock) (by simp) .getsockname rfl).onError
    fun _ => hsecond) fun name => ?_
  refine spec_bind ((h.outerResult List.mem_cons_self (.connectEx name) rfl).onError
    fun _ => hsecond) fun _ => ?_
  refine spec_bind ((h.outerAccept (s := listenSock) (by simp)).onError
    fun _ => hsecond) fun accepted => ?_
  exact spec_bind (setsServer accepted.1) fun _ => spec_pure fun _ hc => hc

theorem streamPair (lwip : Instance) (family type proto : ℤ) (address : Address) :
    Spec (Having I [] ⟨none,none⟩) (LwIP.streamPair env lwip family type proto address)
      (fun r c => ∃ l, I l c.1 ∧ r.1 ∈ l ∧ r.2 ∈ l ∧ c.2.Within l) (fun _ => LeftOff I) := by
  refine spec_bind ((h.outerSocket lwip family type proto).onError
    fun _ _ hc => hc.leftOff (within_none _)) fun listenSock => ?_
  refine spec_tryFinally (h.connectThrough lwip family type proto address listenSock) ?_ ?_
  · intro r
    refine (spec_zoom_fst (h.close _ listenSock (by simp)) _).consequence (fun _ hc => hc) ?_ ?_
    · exact fun _ c hc => ⟨_,hc.1,by simp,by simp,hc.2 ▸ within_both (by simp) (by simp)⟩
    · exact fun _ c hc => Having.leftOff hc (within_both (by simp) (by simp))
  · intro e c hc
    obtain ⟨l,hl,hmem,hwithin⟩ := hc
    exact (spec_zoom_fst (h.close l listenSock hmem) c.2).consequence (fun _ hc => hc)
      (fun _ _ hc => ⟨l,hc.1,hc.2 ▸ hwithin⟩) (fun _ _ hc => ⟨l,hc.1,hc.2 ▸ hwithin⟩) c ⟨hl,rfl⟩

theorem dgramPair (lwip : Instance) (family type proto : ℤ) (address : Address) :
    Spec (Having I [] ⟨none,none⟩) (LwIP.dgramPair env lwip family type proto address)
      (fun r c => ∃ l, I l c.1 ∧ r.1 ∈ l ∧ r.2 ∈ l ∧ c.2.Within l) (fun _ => LeftOff I) := by
  refine spec_bind ((h.outerSocket lwip family type proto).onError
    fun _ _ hc => hc.leftOff (within_none _)) fun server => ?_
  refine spec_bind (setsServer server) fun _ => ?_
  refine spec_bind ((h.outerSocket lwip family type proto).onError
    fun _ _ hc => hc.leftOff (within_server List.mem_cons_self)) fun client => ?_
  refine spec_bind (setsClient client) fun _ => ?_
  have hleft : ∀ c, Having I [client,server] ⟨some server,some client⟩ c → LeftOff I c :=
    fun _ hc => hc.leftOff (within_both (by simp) (by simp))
  have hserver : server ∈ [client,server] := by simp
  have hclient : client ∈ [client,server] := List.mem_cons_self
  refine spec_bind ((h.outerResult hserver (.bind address) rfl).onError fun _ => hleft) fun _ => ?_
  refine spec_bind ((h.outerResult hserver .getsockname rfl).onError fun _ => hleft) fun a => ?_
  refine spec_bind ((h.outerResult hclient (.connectEx a) rfl).onError fun _ => hleft) fun _ => ?_
  refine spec_bind ((h.outerResult hclient .getsockname rfl).onError fun _ => hleft) fun b => ?_
  refine spec_bind ((h.outerResult hserver (.connectEx b) rfl).onError fun _ => hleft) fun _ => ?_
  exact spec_pure fun c hc => ⟨_,hc.1,hclient,hserver,hc.2 ▸ within_both hserver hclient⟩

theorem notConnected {client server : Ref} (hc : client ∈ l) (hs : server ∈ l) :
    Spec (I l) (LwIP.notConnected env client server) (fun _ => I l) (fun _ => I l) := by
  have hname : ∀ {s}, s ∈ l → Spec (I l) (Socket.getsockname env s) (fun _ => I l) (fun _ => I l) :=
    fun hs => h.result hs .getsockname rfl
  have hpeer : ∀ {s}, s ∈ l → Spec (I l) (Socket.getpeername env s) (fun _ => I l) (fun _ => I l) :=
    fun hs => h.result hs .getpeername rfl
  refine spec_bind (hname hs) fun a => spec_bind (hpeer hc) fun b => ?_
  by_cases hab : a ≠ b
  · rw [if_pos hab]
    exact spec_pure fun _ hw => hw
  · rw [if_neg hab]
    exact spec_bind (hpeer hs) fun a => spec_bind (hname hc) fun b => spec_pure fun _ hw => hw

/-- The `except` clause closes what the variables hold and raises. -/
theorem closeAndRaise (e : PyErr) :
    Spec (LeftOff I) (LwIP.closeAndRaise env e) (fun _ _ => False) (fun _ c => ∃ l, I l c.1) := by
  rintro ⟨w,x⟩ ⟨l,hl,hwithin⟩
  have hclose : ∀ s : Option Ref, (∀ k, s = some k → k ∈ l) →
      Spec (fun c : World × Locals => I l c.1) (outer (closeIfAny env s)) (fun _ c => I l c.1)
        (fun _ c => ∃ l, I l c.1) := by
    intro s hs
    refine (spec_onFst (P := I l) (Q := fun _ => I l) (E := fun _ => I l) ?_).onError
      fun _ _ hc => ⟨l,hc⟩
    cases s with
    | none => exact spec_pure fun _ hw => hw
    | some k => exact h.close l k (hs k rfl)
  have hrest : Spec (fun c : World × Locals => I l c.1)
      (do outer (closeIfAny env x.serverSock); outer (closeIfAny env x.clientSock); throw e :
        PairM (Ref × Ref)) (fun _ _ => False) (fun _ c => ∃ l, I l c.1) :=
    spec_bind (hclose _ hwithin.1) fun _ => spec_bind (hclose _ hwithin.2) fun _ =>
      spec_throw fun _ hc => ⟨l,hc⟩
  exact hrest (w,x) hl

/-- What the sockets keep is kept by `socketpair`, and what the end of it does to two sockets is
done when it returns. -/
theorem socketpair {blocking : Bool} {Q : Ref × Ref → World → Prop}
    (hfinish : ∀ l, ∀ client ∈ l, ∀ server ∈ l, Spec (I l) (finishPair env blocking client server)
      Q (fun _ => I l))
    (lwip : Instance) (family type proto : ℤ) :
    Spec (I []) (LwIP.socketpair env lwip family type proto blocking) Q (fun _ => I []) := by
  refine spec_converted (fun _ _ _ hw => hw) fun address _ => ?_
  refine (spec_withLocal (P := I []) (Q := Q) (E := fun _ w => ∃ l, I l w) ?_).onError
    fun _ _ ⟨_,hw⟩ => h.fewer (List.nil_subset _) hw
  refine spec_tryCatch (?_ : Spec _ _ _ fun _ => LeftOff I) fun e =>
    (h.closeAndRaise e).consequence (fun _ hc => hc) (fun _ _ hc => hc.elim) fun _ _ hc => hc
  have hend : ∀ r : Ref × Ref, Spec
      (fun c : World × Locals => ∃ l, I l c.1 ∧ r.1 ∈ l ∧ r.2 ∈ l ∧ c.2.Within l)
      (outer (finishPair env blocking r.1 r.2)) (fun p c => Q p c.1) (fun _ => LeftOff I) := by
    rintro ⟨client,server⟩ c ⟨l,hl,hc,hs,hwithin⟩
    exact (spec_zoom_fst (hfinish l client hc server hs) c.2).consequence (fun _ h => h)
      (fun _ _ h => h.1) (fun _ _ h => ⟨l,h.1,h.2 ▸ hwithin⟩) c ⟨hl,rfl⟩
  rw [makePair]
  split
  · exact spec_bind (h.streamPair lwip family type proto address) hend
  · split
    · exact spec_bind (h.dgramPair lwip family type proto address) hend
    · exact spec_bind (spec_throw fun _ hc => Having.leftOff hc (within_none _)) hend

end PairKept

/-- Where the two ends come to nothing that has to be said. -/
theorem PairKept.pair {env : Env} {I : List Ref → World → Prop} (h : PairKept env I)
    (lwip : Instance) (family type proto : ℤ) (blocking : Bool) :
    Spec (I []) (LwIP.socketpair env lwip family type proto blocking) (fun _ => I [])
      (fun _ => I []) := by
  refine h.socketpair (fun l client hc server hs => ?_) lwip family type proto
  have hset : ∀ s ∈ l, Spec (I l) (Socket.setblocking env s blocking) (fun _ => I l) (fun _ => I l) :=
    fun s hs => h.method l s hs (.setblocking blocking)
  refine spec_bind (h.notConnected hc hs) fun differ => spec_guard (fun _ hw => hw) fun _ => ?_
  refine spec_bind (hset client hc) fun _ => spec_bind (hset server hs) fun _ => spec_pure fun w hw => ?_
  exact h.fewer (List.nil_subset _) hw

section Steps

variable {env : Env} (hq : env.Quiet)
include hq

theorem steps_pair (v : World) :
    PairKept env fun l w => Steps env v w ∧ ∀ s ∈ l, w.Live s where
  fewer hl h := ⟨h.1,fun s hs => h.2 s (hl hs)⟩
  socket l lwip family socketType proto := by
    refine spec_of_final fun w hw => ?_
    obtain ⟨hgrown,hvalue⟩ := socket_grown hq lwip family socketType proto w
    have hsteps := hw.1.trans (steps_socket hq lwip family socketType proto w)
    have hlive : ∀ s ∈ l, _ := fun s hs => hgrown.2 s (hw.2 s hs)
    exact ⟨⟨hsteps,hlive⟩,fun r hr => ⟨hsteps,List.forall_mem_cons.mpr ⟨(hvalue r hr).2,hlive⟩⟩⟩
  accept l s hs := by
    refine spec_of_final fun w hw => ?_
    obtain ⟨hgrown,hvalue⟩ := accept_grown hq s w
    have hsteps := hw.1.trans (uses_accept hq s w (hw.2 s hs)).1
    have hlive : ∀ s ∈ l, _ := fun s hs => hgrown.2 s (hw.2 s hs)
    exact ⟨⟨hsteps,hlive⟩,fun r hr => ⟨hsteps,List.forall_mem_cons.mpr ⟨(hvalue r hr).2,hlive⟩⟩⟩
  close l s hs := by
    refine spec_of_final fun w hw => ?_
    have hend : _ ∧ _ := ⟨hw.1.trans (uses_close hq s w (hw.2 s hs)).1,
      fun s' hs' => (close_grown hq s w).2 s' (hw.2 s' hs')⟩
    exact ⟨hend,fun _ _ => hend⟩
  method l s hs m := by
    refine spec_of_final fun w hw => ?_
    obtain ⟨hsame,hcount,_⟩ := method_makes env s m w
    have hend : _ ∧ _ := ⟨hw.1.trans (uses_method s m w (hw.2 s hs)).1,
      fun s' hs' => (grown_same hsame hcount).2 s' (hw.2 s' hs')⟩
    exact ⟨hend,fun _ _ => hend⟩

theorem steps_socketpair (lwip : Instance) (family type proto : ℤ) (blocking : Bool) :
    Respects (Steps env) (LwIP.socketpair env lwip family type proto blocking) := by
  intro w
  have hend := (steps_pair hq w).pair lwip family type proto blocking w
    ⟨.refl,fun _ hs => nomatch hs⟩
  cases hr : LwIP.socketpair env lwip family type proto blocking w with
  | ok r t =>
    rw [hr] at hend
    rw [final_of_ok hr]
    exact hend.1
  | error e t =>
    rw [hr] at hend
    rw [final_of_error hr]
    exact hend.1

end Steps

end LwIP

end LwipPy
