import LwipPy.SocketRuns
import LwipPy.Errno

/-! `LwIP.socketpair` on every path: which of the sockets it makes are open at each point, and
what its `except` clause leaves open when closing fails in it. -/
namespace LwipPy

open Program

/-- Nothing is handed out, closed or changed, and the log grows. -/
def Calm (w w' : World) : Prop :=
  w'.sockets = w.sockets ∧ w'.count = w.count ∧
  ∃ new, w'.log = new ++ w.log ∧ ∀ e ∈ new, e.obtained = none ∧ e.closing = none

instance : IsPreorder World Calm where
  refl _ := ⟨rfl,rfl,[],rfl,fun _ h => nomatch h⟩
  trans a b c h h' := by
    obtain ⟨hs,hc,new,hlog,hnew⟩ := h
    obtain ⟨hs',hc',new',hlog',hnew'⟩ := h'
    refine ⟨hs'.trans hs,hc'.trans hc,new' ++ new,?_,fun e he => ?_⟩
    · rw [hlog',hlog,List.append_assoc]
    · rcases List.mem_append.mp he with h | h
      · exact hnew' e h
      · exact hnew e h

section Calm

variable {env : Env}

theorem calm_same {w w' : World} (hlog : w'.log = w.log) (hs : w'.sockets = w.sockets)
    (hc : w'.count = w.count) : Calm w w' :=
  ⟨hs,hc,[],by rw [hlog]; rfl,fun _ h => nomatch h⟩

theorem calm_call (self : Ref) {c : Except PyErr SockCall} (hc : PlainArgs c) :
    Respects Calm (Socket.call env self c) := by
  intro w
  cases c with
  | error e => exact refl_of Calm w
  | ok c =>
    refine ⟨rfl,rfl,[Socket.event env self c w],rfl,fun e he => ?_⟩
    rw [List.mem_singleton.mp he]
    exact plain_event env self w (hc c rfl)

theorem calm_method (self : Ref) (m : Method) : Respects Calm (m.exec env self) :=
  respects_method (fun name _ hc => respects_checkRetErrno (fun _ _ => calm_same rfl rfl rfl)
    (fun _ _ => calm_same rfl rfl rfl) name (calm_call self hc)) m
    fun _ _ _ => calm_call self (plainArgs_ok rfl)

end Calm

def Call.isAccept : Call → Bool
  | .on _ (.accept _) => true
  | _ => false

def Call.isClose : Call → Bool
  | .on _ .close => true
  | _ => false

/-- A successful `lwip_accept` that wrote no address of a known family. -/
def BadPeer (env : Env) (e : Event) : Prop :=
  e.call.isAccept = true ∧ 0 ≤ e.reply.ret ∧
  ((e.reply.name.getD SockAddr.createEmptySockaddr).unparseAddress env.host).toOption = none

/-- A failed `lwip_close` of the server socket. -/
def FailedClose (server : Ref) (e : Event) : Prop :=
  e.owner = some server ∧ e.call.isClose = true ∧ e.reply.ret < 0

instance (env : Env) (e : Event) : Decidable (BadPeer env e) :=
  inferInstanceAs (Decidable (_ ∧ _))

instance (server : Ref) (e : Event) : Decidable (FailedClose server e) :=
  inferInstanceAs (Decidable (_ ∧ _))

variable (env : Env)

/-- Since `w₀`, `made` sockets were made; those in `opened` are open and the others closed. An
`lwip_accept` wrote a bad address or not, and closing `server` failed or not. -/
structure Pending (w₀ : World) (server : Ref) (bad failed : Bool) (opened : List Ref) (made : ℕ)
    (w : World) : Prop where
  owned : Owned w
  count : w.count = w₀.count + made
  inside : ∀ k ∈ opened, w₀.count ≤ k ∧ k < w.count ∧ (w.sockets k).Armed
  outside : ∀ k, w₀.count ≤ k → k < w.count → k ∉ opened → (w.sockets k).Released
  events : ∃ new, w.log = new ++ w₀.log ∧ (bad = true ↔ ∃ e ∈ new, BadPeer env e) ∧
    (failed = true ↔ ∃ e ∈ new, FailedClose server e)

section Pending

variable {env} {w₀ w w' : World} {server : Ref} {bad failed : Bool} {opened : List Ref} {made : ℕ}

theorem pending_start (h : Owned w₀) (server : Ref) :
    Pending env w₀ server false false [] 0 w₀ where
  owned := h
  count := rfl
  inside _ hk := nomatch hk
  outside k hk hk' _ := absurd hk (Nat.not_le.mpr hk')
  events := ⟨[],rfl,by simp,by simp⟩

theorem Pending.live (h : Pending env w₀ server bad failed opened made w) {k : Ref}
    (hk : k ∈ opened) : w.Live k :=
  ⟨(h.inside k hk).2.1,(h.inside k hk).2.2.2.2⟩

theorem Pending.congr (h : Pending env w₀ server bad failed opened made w) {opened' : List Ref}
    (hmem : ∀ k, k ∈ opened' ↔ k ∈ opened) : Pending env w₀ server bad failed opened' made w :=
  ⟨h.owned,h.count,fun k hk => h.inside k ((hmem k).mp hk),
    fun k hle hlt hno => h.outside k hle hlt fun hk => hno ((hmem k).mpr hk),h.events⟩

/-- One more call adds what it says itself. -/
theorem Pending.cons_events (h : Pending env w₀ server bad failed opened made w) {e : Event}
    (hlog : w'.log = e :: w.log) {bad' failed' : Bool}
    (hbad : bad' = true ↔ bad = true ∨ BadPeer env e)
    (hfailed : failed' = true ↔ failed = true ∨ FailedClose server e) :
    ∃ new, w'.log = new ++ w₀.log ∧ (bad' = true ↔ ∃ e ∈ new, BadPeer env e) ∧
      (failed' = true ↔ ∃ e ∈ new, FailedClose server e) := by
  obtain ⟨new,hlog₀,hb,hf⟩ := h.events
  refine ⟨e::new,by rw [hlog,hlog₀]; rfl,?_,?_⟩
  · rw [hbad,hb]
    simp only [List.mem_cons,exists_eq_or_imp]
    exact or_comm
  · rw [hfailed,hf]
    simp only [List.mem_cons,exists_eq_or_imp]
    exact or_comm

theorem not_badPeer {e : Event} (h : e.obtained = none) : ¬ BadPeer env e := by
  rintro ⟨hcall,hr,_⟩
  unfold Call.isAccept at hcall
  split at hcall
  · next heq =>
    rw [Event.obtained,heq] at h
    exact absurd ((if_pos hr).symm.trans h) (by simp)
  · cases hcall

theorem not_failedClose {e : Event} (h : e.closing = none) : ¬ FailedClose server e := by
  rintro ⟨_,hcall,_⟩
  unfold Call.isClose at hcall
  split at hcall
  · next heq =>
    rw [Event.closing,heq] at h
    cases h
  · cases hcall

/-- A call that leaves descriptors alone. -/
theorem Pending.calm (h : Pending env w₀ server bad failed opened made w) (hc : Calm w w')
    (ho : Owned w') : Pending env w₀ server bad failed opened made w' := by
  obtain ⟨hs,hcount,new',hlog',hnew'⟩ := hc
  obtain ⟨new,hlog,hbad,hfailed⟩ := h.events
  refine ⟨ho,hcount.trans h.count,?_,?_,new' ++ new,?_,?_,?_⟩
  · rw [hs,hcount]
    exact h.inside
  · rw [hs,hcount]
    exact h.outside
  · rw [hlog',hlog,List.append_assoc]
  · rw [hbad]
    constructor
    · rintro ⟨e,he,hb⟩
      exact ⟨e,List.mem_append_right _ he,hb⟩
    · rintro ⟨e,he,hb⟩
      rcases List.mem_append.mp he with he | he
      · exact absurd hb (not_badPeer (hnew' e he).1)
      · exact ⟨e,he,hb⟩
  · rw [hfailed]
    constructor
    · rintro ⟨e,he,hf⟩
      exact ⟨e,List.mem_append_right _ he,hf⟩
    · rintro ⟨e,he,hf⟩
      rcases List.mem_append.mp he with he | he
      · exact absurd hf (not_failedClose (hnew' e he).2)
      · exact ⟨e,he,hf⟩

theorem Pending.create (h : Pending env w₀ server bad failed opened made w) {e : Event}
    {k : Socket} (ho : Owned w') (hlog : w'.log = e :: w.log)
    (hs : w'.sockets = Function.update w.sockets w.count k) (hc : w'.count = w.count+1)
    (hk : k.Armed) (hcl : e.closing = none) {bad' : Bool}
    (hbad : bad' = true ↔ bad = true ∨ BadPeer env e) :
    Pending env w₀ server bad' failed (w.count :: opened) (made+1) w' := by
  have hle : w₀.count ≤ w.count := by
    rw [h.count]
    exact Nat.le_add_right _ _
  have hold : ∀ i < w.count, w'.sockets i = w.sockets i := fun i hi => by
    rw [hs,Function.update_of_ne (Nat.ne_of_lt hi)]
  refine ⟨ho,?_,?_,?_,h.cons_events hlog hbad (by simp [not_failedClose hcl])⟩
  · rw [hc,h.count,Nat.add_assoc]
  · intro i hi
    rcases List.mem_cons.mp hi with rfl | hi
    · refine ⟨hle,by rw [hc]; exact Nat.lt_succ_self _,?_⟩
      rw [hs,Function.update_self]
      exact hk
    · obtain ⟨h₁,h₂,h₃⟩ := h.inside i hi
      exact ⟨h₁,by rw [hc]; exact Nat.lt_succ_of_lt h₂,by rw [hold i h₂]; exact h₃⟩
  · intro i hle' hlt hno
    rw [List.mem_cons,not_or] at hno
    rw [hc] at hlt
    have hlt' : i < w.count := Nat.lt_of_le_of_ne (Nat.le_of_lt_succ hlt) hno.1
    rw [hold i hlt']
    exact h.outside i hle' hlt' hno.2

theorem Pending.close (h : Pending env w₀ server bad failed opened made w) {self : Ref}
    {e : Event} {k : Socket} (ho : Owned w') (hlog : w'.log = e :: w.log)
    (hs : w'.sockets = Function.update w.sockets self k) (hc : w'.count = w.count)
    (hk : k.Released) (hobt : e.obtained = none) {failed' : Bool}
    (hfailed : failed' = true ↔ failed = true ∨ FailedClose server e) :
    Pending env w₀ server bad failed' (opened.filter (· ≠ self)) made w' := by
  refine ⟨ho,hc.trans h.count,?_,?_,h.cons_events hlog (by simp [not_badPeer hobt]) hfailed⟩
  · intro i hi
    obtain ⟨hi,hneq⟩ := List.mem_filter.mp hi
    rw [hs,hc,Function.update_of_ne (by simpa using hneq)]
    exact h.inside i hi
  · intro i hle hlt hno
    rw [hs]
    by_cases his : i = self
    · subst his
      rw [Function.update_self]
      exact hk
    · rw [Function.update_of_ne his]
      refine h.outside i hle (hc ▸ hlt) fun hi => hno ?_
      exact List.mem_filter.mpr ⟨hi,by simpa using his⟩

theorem spec_method {α : Type} {program : PyM α} {self : Ref} (hself : self ∈ opened)
    (m : Method) (hm : m.exec env self = discard program) :
    Spec (Pending env w₀ server bad failed opened made) program
      (fun _ => Pending env w₀ server bad failed opened made)
      (fun _ => Pending env w₀ server bad failed opened made) := by
  have hcalm : Respects Calm program := respects_of_discard (hm ▸ calm_method self m)
  have huses : Respects (Uses env self) program := respects_of_discard (hm ▸ uses_method self m)
  intro w hw
  have hfinal : Pending env w₀ server bad failed opened made (final program w) :=
    hw.calm (hcalm w) (hw.owned.steps (huses w (hw.live hself)).1)
  cases hr : program w with
  | ok a t => rwa [final_of_ok hr] at hfinal
  | error e t => rwa [final_of_error hr] at hfinal

variable (hq : env.Quiet)
include hq

/-- `LwIP.socket` makes one open socket, or nothing. -/
theorem spec_socket (lwip : Instance) (family socketType proto : ℤ) :
    Spec (Pending env w₀ server bad failed opened made)
      (LwIP.socket env lwip family socketType proto)
      (fun r w => r = w₀.count + made ∧
        Pending env w₀ server bad failed (r::opened) (made+1) w)
      (fun _ => Pending env w₀ server bad failed opened made) := by
  intro w hw
  have hrun := LwIP.socket_run hq lwip family socketType proto w
  have howned := hw.owned.steps (steps_socket hq lwip family socketType proto w)
  cases hcall : LwIP.socketCall family socketType proto with
  | error e =>
    rw [hcall] at hrun
    rw [final_of_error hrun] at howned
    rw [hrun]
    exact hw.calm (calm_same rfl rfl rfl) howned
  | ok call =>
    rw [hcall] at hrun
    obtain ⟨d,t,p,rfl⟩ := LwIP.socketCall_ok hcall
    by_cases hr : 0 ≤ (LwIP.socketEvent env lwip (.socket d t p) w).reply.ret
    · rw [final_of_ok (hrun.trans (if_pos hr))] at howned
      rw [hrun.trans (if_pos hr)]
      refine ⟨hw.count,hw.create howned rfl rfl rfl ⟨rfl,rfl,rfl⟩ rfl ?_⟩
      have hno : ¬ BadPeer env (LwIP.socketEvent env lwip (.socket d t p) w) :=
        fun h => nomatch h.1
      simp [hno]
    · rw [final_of_error (hrun.trans (if_neg hr))] at howned
      rw [hrun.trans (if_neg hr)]
      refine hw.calm ⟨rfl,rfl,[LwIP.socketEvent env lwip (.socket d t p) w],rfl,?_⟩ howned
      intro e he
      rw [List.mem_singleton.mp he]
      exact ⟨if_neg hr,rfl⟩

/-- `Socket.accept` makes one open socket. When lwIP wrote no good address, it is made but not
returned. -/
theorem spec_accept {self : Ref} (hself : self ∈ opened) :
    Spec (Pending env w₀ server false failed opened made) (Socket.accept env self)
      (fun r w => r.1 = w₀.count + made ∧
        Pending env w₀ server false failed (r.1::opened) (made+1) w)
      (fun _ w => Pending env w₀ server false failed opened made w ∨
        Pending env w₀ server true failed ((w₀.count+made)::opened) (made+1) w) := by
  intro w hw
  obtain ⟨c,hc⟩ : ∃ c, c = SockCall.accept SockAddr.createEmptySockaddrPaddrlen.2 := ⟨_,rfl⟩
  obtain ⟨e,he⟩ : ∃ e, e = Socket.event env self c w := ⟨_,rfl⟩
  have hrun := Socket.accept_run hq self w
  have howned := hw.owned.steps (uses_accept hq self w (hw.live hself)).1
  have hcall : e.call = .on (w.sockets self).s c := by rw [he]; rfl
  have hclosing : e.closing = none := by
    rw [Event.closing,hcall,hc]
  simp only [← hc,← he] at hrun
  by_cases hr : 0 ≤ e.reply.ret
  · rw [if_pos hr] at hrun
    obtain ⟨k,hk⟩ : ∃ k, k = Socket.fresh (w.sockets self).lwip (w.sockets self).family
      (w.sockets self).type (w.sockets self).proto e.reply.ret := ⟨_,rfl⟩
    rw [← hk] at hrun
    have hcreate : ∀ {bad'}, Owned ((Socket.called env self "accept" c w).add k) →
        (bad' = true ↔ BadPeer env e) →
        Pending env w₀ server bad' failed (w.count::opened) (made+1)
          ((Socket.called env self "accept" c w).add k) := by
      intro bad' ho hb
      refine hw.create ho (by rw [he]; rfl) rfl rfl (by rw [hk]; exact ⟨rfl,rfl,rfl⟩) hclosing ?_
      rw [hb]
      exact ⟨.inr,fun h => h.resolve_left Bool.false_ne_true⟩
    cases haddr : (e.reply.name.getD SockAddr.createEmptySockaddr).unparseAddress env.host with
    | ok address =>
      have hok : Socket.accept env self w =
          .ok (w.count,address) ((Socket.called env self "accept" c w).add k) := by
        rw [hrun]
        exact haddr ▸ rfl
      rw [final_of_ok hok] at howned
      rw [hok]
      have hno : ¬ BadPeer env e := by
        rintro ⟨_,_,hbad⟩
        rw [haddr] at hbad
        cases hbad
      exact ⟨hw.count,hcreate howned (by simp [hno])⟩
    | error err =>
      have herr : Socket.accept env self w =
          .error err ((Socket.called env self "accept" c w).add k) := by
        rw [hrun]
        exact haddr ▸ rfl
      rw [final_of_error herr] at howned
      rw [herr]
      refine .inr (hw.count ▸ hcreate howned ⟨fun _ => ?_,fun _ => rfl⟩)
      exact ⟨by rw [hcall,hc]; rfl,hr,by rw [haddr]; rfl⟩
  · rw [final_of_error (hrun.trans (if_neg hr))] at howned
    rw [hrun.trans (if_neg hr)]
    refine .inl (hw.calm ⟨rfl,rfl,[e],by rw [he]; rfl,?_⟩ howned)
    intro e' he'
    rw [List.mem_singleton.mp he']
    refine ⟨?_,hclosing⟩
    rw [Event.obtained,hcall,hc]
    exact if_neg hr

theorem spec_close {self : Ref} (hself : self ∈ opened) :
    Spec (Pending env w₀ server bad failed opened made) (Socket.close env self)
      (fun _ => Pending env w₀ server bad failed (opened.filter (· ≠ self)) made)
      (fun _ => Pending env w₀ server bad (failed || self == server)
        (opened.filter (· ≠ self)) made) := by
  intro w hw
  obtain ⟨e,he⟩ : ∃ e, e = Socket.event env self .close w := ⟨_,rfl⟩
  obtain ⟨_,_,harm⟩ := hw.inside self hself
  have hs : 0 ≤ (w.sockets self).s := by
    rw [harm.1]
    exact hw.owned.valid self (hw.live hself).1
  have hrun := (Socket.close_run hq self w).trans (if_pos hs)
  have howned := hw.owned.steps (uses_close hq self w (hw.live hself)).1
  have hclose : ∀ {failed'}, Owned ((Socket.called env self "close" .close w).put self
        (w.sockets self).shut) → (failed' = true ↔ failed = true ∨ FailedClose server e) →
      Pending env w₀ server bad failed' (opened.filter (· ≠ self)) made
        ((Socket.called env self "close" .close w).put self (w.sockets self).shut) := by
    intro failed' ho hf
    exact hw.close ho (by rw [he]; rfl) rfl rfl ⟨rfl,.inl rfl⟩ (by rw [he]; rfl) hf
  simp only [← he] at hrun
  by_cases hr : 0 ≤ e.reply.ret
  · rw [final_of_ok (hrun.trans (if_pos hr))] at howned
    rw [hrun.trans (if_pos hr)]
    have hno : ¬ FailedClose server e := fun ⟨_,_,hneg⟩ => absurd hr (Int.not_le.mpr hneg)
    exact hclose howned (by simp [hno])
  · rw [final_of_error (hrun.trans (if_neg hr))] at howned
    rw [hrun.trans (if_neg hr)]
    refine hclose howned ?_
    have hiff : FailedClose server e ↔ self = server := by
      constructor
      · rintro ⟨hown,_⟩
        rw [he] at hown
        exact Option.some.inj hown
      · rintro rfl
        exact ⟨by rw [he]; rfl,by rw [he]; rfl,Int.not_le.mp hr⟩
    rw [hiff,Bool.or_eq_true,beq_iff_eq]

end Pending

/-- `Pending`, with the values of the local variables. -/
def At (w₀ : World) (server : Ref) (bad failed : Bool) (opened : List Ref) (made : ℕ)
    (l : LwIP.Locals) (c : World × LwIP.Locals) : Prop :=
  Pending env w₀ server bad failed opened made c.1 ∧ c.2 = l

/-- Where the `try` block of `socketpair` can be left by an exception. -/
inductive Unfinished (w₀ : World) (server client : Ref) (c : World × LwIP.Locals) : Prop
  | nothing (made : ℕ) (h : At env w₀ server false false [] made ⟨none,none⟩ c)
  | client (made : ℕ) (h : At env w₀ server false false [client] made ⟨none,some client⟩ c)
  | server (h : At env w₀ server false false [server] 1 ⟨some server,none⟩ c)
  | both (made : ℕ) (hmade : 2 ≤ made)
      (h : At env w₀ server false false [server,client] made ⟨some server,some client⟩ c)
  /-- the accepted socket is not in a local variable -/
  | lost (made : ℕ) (h : At env w₀ server true false [server,client] made ⟨none,some client⟩ c)

/-- A raise leaves a socket open if the peer was bad, or closing the server failed with a second
socket around. -/
def Cleaned (w₀ : World) (server : Ref) (w : World) : Prop :=
  ∃ bad failed opened made, Pending env w₀ server bad failed opened made w ∧
    (opened = [] ↔ bad = false ∧ (2 ≤ made → failed = false))

namespace LwIP

variable {env} {w₀ : World} {server client : Ref} {bad failed : Bool} {opened : List Ref} {made : ℕ}
  {l : Locals}

/-- The `except` clause closes what the variables hold, in order, and raises. -/
theorem spec_closeAndRaise {P M : World → Prop} {E : PyErr → World → Prop} {s c : Option Ref}
    {e : PyErr} (hs : Spec P (closeIfAny env s) (fun _ => M) E)
    (hc : Spec M (closeIfAny env c) (fun _ => E e) E) :
    Spec (fun x => P x.1 ∧ x.2 = ⟨s,c⟩) (closeAndRaise env e) (fun _ _ => False)
      (fun err x => E err x.1) := by
  rintro ⟨w,_⟩ ⟨hw,rfl⟩
  have hrest : Spec (fun y : World × Locals => P y.1)
      (do outer (closeIfAny env s); outer (closeIfAny env c); throw e : PairM (Ref × Ref))
      (fun _ _ => False) (fun err y => E err y.1) :=
    spec_bind (spec_onFst hs) fun _ => spec_bind (spec_onFst hc) fun _ => spec_throw fun _ h => h
  exact hrest (w,⟨s,c⟩) hw

variable (hq : env.Quiet)
include hq

/-- The `except` clause, wherever the exception came from. -/
theorem closeAndRaise_cleaned (hne : client ≠ server) (e : PyErr) :
    Spec (Unfinished env w₀ server client) (closeAndRaise env e) (fun _ _ => False)
      (fun _ c => Cleaned env w₀ server c.1) := by
  have hcs : (client == server) = false := beq_false_of_ne hne
  have hskip : ∀ {P M : World → Prop}, (∀ w, P w → M w) →
      Spec P (closeIfAny env none) (fun _ => M) (fun _ => Cleaned env w₀ server) :=
    fun h => spec_pure h
  have hlast : ∀ {bad : Bool} {opened : List Ref} {made : ℕ}, client ∈ opened →
      (opened.filter (· ≠ client) = [] ↔ bad = false) →
      Spec (Pending env w₀ server bad false opened made) (closeIfAny env (some client))
        (fun _ => Cleaned env w₀ server) (fun _ => Cleaned env w₀ server) :=
    fun hmem hiff => (spec_close hq hmem).consequence (fun _ h => h)
      (fun _ _ h => ⟨_,_,_,_,h,by simpa using hiff⟩)
      (fun _ _ h => ⟨_,_,_,_,h,by simpa [hcs] using hiff⟩)
  intro c hc
  cases hc with
  | nothing made h =>
    exact spec_closeAndRaise (P := Pending env w₀ server false false [] made) (hskip fun _ h => h)
      (hskip fun _ h => ⟨_,_,_,_,h,by simp⟩) c h
  | client made h =>
    exact spec_closeAndRaise (P := Pending env w₀ server false false [client] made)
      (hskip fun _ h => h) (hlast (by simp) (by simp)) c h
  | server h =>
    have hserver : Spec (Pending env w₀ server false false [server] 1)
        (closeIfAny env (some server)) (fun _ => Cleaned env w₀ server)
        (fun _ => Cleaned env w₀ server) :=
      (spec_close hq List.mem_cons_self).consequence (fun _ h => h)
        (fun _ _ h => ⟨_,_,_,_,h,by simp⟩) (fun _ _ h => ⟨_,_,_,_,h,by simp⟩)
    exact spec_closeAndRaise hserver (hskip fun _ h => h) c h
  | both made hmade h =>
    have hserver : Spec (Pending env w₀ server false false [server,client] made)
        (closeIfAny env (some server))
        (fun _ => Pending env w₀ server false false [client] made)
        (fun _ => Cleaned env w₀ server) := by
      have hfilter : [server,client].filter (· ≠ server) = [client] := by simp [hne]
      exact (spec_close hq List.mem_cons_self).consequence (fun _ h => h)
        (fun _ _ h => hfilter ▸ h) (fun _ _ h => ⟨_,_,_,_,h,by simp [hne,hmade]⟩)
    exact spec_closeAndRaise hserver (hlast (by simp) (by simp)) c h
  | lost made h =>
    exact spec_closeAndRaise (P := Pending env w₀ server true false [server,client] made)
      (hskip fun _ h => h) (hlast (by simp) (by simp [hne.symm])) c h

omit hq in
theorem outer_method {α : Type} {program : PyM α} {self : Ref} (hself : self ∈ opened)
    (m : Method) (hm : m.exec env self = discard program) :
    Spec (At env w₀ server bad failed opened made l) (outer program)
      (fun _ => At env w₀ server bad failed opened made l)
      (fun _ => At env w₀ server bad failed opened made l) :=
  spec_zoom_fst (spec_method hself m hm) l

theorem outer_socket (lwip : Instance) (family socketType proto : ℤ) :
    Spec (At env w₀ server bad failed opened made l) (outer (socket env lwip family socketType proto))
      (fun r c => r = w₀.count + made ∧ At env w₀ server bad failed (r::opened) (made+1) l c)
      (fun _ => At env w₀ server bad failed opened made l) :=
  (spec_zoom_fst (spec_socket hq lwip family socketType proto) l).consequence (fun _ h => h)
    (fun _ _ h => ⟨h.1.1,h.1.2,h.2⟩) (fun _ _ h => h)

theorem outer_accept {self : Ref} (hself : self ∈ opened) :
    Spec (At env w₀ server false failed opened made l) (outer (Socket.accept env self))
      (fun r c => r.1 = w₀.count + made ∧ At env w₀ server false failed (r.1::opened) (made+1) l c)
      (fun _ c => At env w₀ server false failed opened made l c ∨
        At env w₀ server true failed ((w₀.count+made)::opened) (made+1) l c) :=
  (spec_zoom_fst (spec_accept hq hself) l).consequence (fun _ h => h)
    (fun _ _ h => ⟨h.1.1,h.1.2,h.2⟩)
    fun _ _ h => h.1.elim (fun h' => .inl ⟨h',h.2⟩) fun h' => .inr ⟨h',h.2⟩

omit hq in
theorem spec_setClient (k : Ref) {E : PyErr → World × Locals → Prop} :
    Spec (At env w₀ server bad failed opened made l) (setClient k)
      (fun _ => At env w₀ server bad failed opened made { l with clientSock := some k }) E :=
  spec_modify fun _ h => ⟨h.1,by rw [← h.2]⟩

omit hq in
theorem spec_setServer (k : Ref) {E : PyErr → World × Locals → Prop} :
    Spec (At env w₀ server bad failed opened made l) (setServer k)
      (fun _ => At env w₀ server bad failed opened made { l with serverSock := some k }) E :=
  spec_modify fun _ h => ⟨h.1,by rw [← h.2]⟩

/-- The stream pair before its listening socket is closed. -/
theorem spec_connectThrough (lwip : Instance) (family type proto : ℤ) (address : Address) :
    Spec (At env w₀ (w₀.count+2) false false [w₀.count] 1 ⟨none,none⟩)
      (connectThrough env lwip family type proto address w₀.count)
      (fun r c => r = (w₀.count+1,w₀.count+2) ∧
        At env w₀ (w₀.count+2) false false [w₀.count+2,w₀.count+1,w₀.count] 3
          ⟨some (w₀.count+2),some (w₀.count+1)⟩ c)
      (fun _ c => At env w₀ (w₀.count+2) false false [w₀.count] 1 ⟨none,none⟩ c ∨
        At env w₀ (w₀.count+2) false false [w₀.count+1,w₀.count] 2 ⟨none,some (w₀.count+1)⟩ c ∨
        At env w₀ (w₀.count+2) true false [w₀.count+2,w₀.count+1,w₀.count] 3
          ⟨none,some (w₀.count+1)⟩ c) := by
  have hlisten : w₀.count ∈ [w₀.count] := List.mem_cons_self
  refine spec_bind ((outer_method hlisten (.bind address) rfl).onError fun _ _ h => .inl h)
    fun _ => ?_
  refine spec_bind ((outer_method hlisten (.listen (-1)) rfl).onError fun _ _ h => .inl h)
    fun _ => ?_
  refine spec_bind ((outer_socket hq lwip family type proto).onError fun _ _ h => .inl h)
    fun client c hc => ?_
  obtain ⟨rfl,hc⟩ := hc
  have hclient : w₀.count+1 ∈ [w₀.count+1,w₀.count] := List.mem_cons_self
  have hlisten' : w₀.count ∈ [w₀.count+1,w₀.count] := by simp
  refine spec_bind (spec_setClient (w₀.count+1)) (fun _ => ?_) c hc
  refine spec_bind ((outer_method hclient (.setblocking false) (discard_unit _).symm).onError
    fun _ _ h => .inr (.inl h)) fun _ => ?_
  refine spec_bind ((outer_method hlisten' .getsockname rfl).onError
    fun _ _ h => .inr (.inl h)) fun name => ?_
  refine spec_bind ((outer_method hclient (.connectEx name) rfl).onError
    fun _ _ h => .inr (.inl h)) fun _ => ?_
  refine spec_bind ((outer_accept hq hlisten').onError fun _ _ h => .inr h)
    fun accepted c hc => ?_
  obtain ⟨server,name⟩ := accepted
  obtain ⟨rfl,hc⟩ := hc
  exact ⟨rfl,hc.1,congrArg (fun l : Locals => (⟨some (w₀.count+2),l.clientSock⟩ : Locals)) hc.2⟩

theorem outer_close {self : Ref} (hself : self ∈ opened) (hne : self ≠ server) {rest : List Ref}
    (hrest : opened.filter (· ≠ self) = rest) :
    Spec (At env w₀ server bad failed opened made l) (outer (Socket.close env self))
      (fun _ => At env w₀ server bad failed rest made l)
      (fun _ => At env w₀ server bad failed rest made l) := by
  subst hrest
  have hsame : (failed || self == server) = failed := by
    rw [beq_false_of_ne hne,Bool.or_false]
  exact (spec_zoom_fst (spec_close hq hself) l).consequence (fun _ h => h) (fun _ _ h => h)
    fun _ _ h => hsame ▸ h

/-- The socket either pair begins with. -/
theorem spec_firstSocket (h₀ : Owned w₀) (lwip : Instance) (family type proto : ℤ)
    (client : Ref) :
    Spec (fun c => c = (w₀,⟨none,none⟩)) (outer (socket env lwip family type proto))
      (fun r c => r = w₀.count ∧ At env w₀ server false false [r] 1 ⟨none,none⟩ c)
      (fun _ => Unfinished env w₀ server client) := by
  have hstart : ∀ c, c = (w₀,(⟨none,none⟩ : Locals)) →
      At env w₀ server false false [] 0 ⟨none,none⟩ c := by
    rintro _ rfl
    exact ⟨pending_start h₀ _,rfl⟩
  exact (outer_socket hq lwip family type proto).consequence hstart (fun _ _ h => h)
    fun _ _ h => .nothing 0 h

theorem spec_streamPair (h₀ : Owned w₀) (lwip : Instance) (family type proto : ℤ)
    (address : Address) :
    Spec (fun c => c = (w₀,⟨none,none⟩)) (streamPair env lwip family type proto address)
      (fun r c => r = (w₀.count+1,w₀.count+2) ∧
        At env w₀ (w₀.count+2) false false [w₀.count+2,w₀.count+1] 3
          ⟨some (w₀.count+2),some (w₀.count+1)⟩ c)
      (fun _ => Unfinished env w₀ (w₀.count+2) (w₀.count+1)) := by
  refine spec_bind (spec_firstSocket hq h₀ lwip family type proto _) fun listen c hc => ?_
  obtain ⟨rfl,hc⟩ := hc
  have hne : w₀.count ≠ w₀.count+2 := by omega
  refine spec_tryFinally (spec_connectThrough hq lwip family type proto address) ?_ ?_ c hc
  · intro r c hc
    exact ((outer_close hq (by simp) hne (by simp)).consequence (fun _ h => h)
      (fun _ _ h => ⟨hc.1,h⟩) fun _ _ h => .both 3 (by omega) h) c hc.2
  · rintro e c (h | h | h)
    · have hrest : [w₀.count].filter (· ≠ w₀.count) = [] := by simp
      exact (outer_close hq (by simp) hne hrest).consequence (fun _ h => h)
        (fun _ _ h => .nothing 1 h) (fun _ _ h => .nothing 1 h) c h
    · have hrest : [w₀.count+1,w₀.count].filter (· ≠ w₀.count) = [w₀.count+1] := by simp
      exact (outer_close hq (by simp) hne hrest).consequence (fun _ h => h)
        (fun _ _ h => .client 2 h) (fun _ _ h => .client 2 h) c h
    · have hrest : [w₀.count+2,w₀.count+1,w₀.count].filter (· ≠ w₀.count) =
          [w₀.count+2,w₀.count+1] := by simp
      exact (outer_close hq (by simp) hne hrest).consequence (fun _ h => h)
        (fun _ _ h => .lost 3 h) (fun _ _ h => .lost 3 h) c h

theorem spec_dgramPair (h₀ : Owned w₀) (lwip : Instance) (family type proto : ℤ)
    (address : Address) :
    Spec (fun c => c = (w₀,⟨none,none⟩)) (dgramPair env lwip family type proto address)
      (fun r c => r = (w₀.count+1,w₀.count) ∧
        At env w₀ w₀.count false false [w₀.count,w₀.count+1] 2
          ⟨some w₀.count,some (w₀.count+1)⟩ c)
      (fun _ => Unfinished env w₀ w₀.count (w₀.count+1)) := by
  refine spec_bind (spec_firstSocket hq h₀ lwip family type proto _) fun server c hc => ?_
  obtain ⟨rfl,hc⟩ := hc
  refine spec_bind (spec_setServer w₀.count) (fun _ => ?_) c hc
  refine spec_bind ((outer_socket hq lwip family type proto).onError fun _ _ h => .server h)
    fun client c hc => ?_
  obtain ⟨rfl,hc⟩ := hc
  refine spec_bind (spec_setClient (w₀.count+1)) (fun _ => ?_) c
    ⟨hc.1.congr fun _ => List.Perm.mem_iff (.swap _ _ _),hc.2⟩
  have hserver : w₀.count ∈ [w₀.count,w₀.count+1] := List.mem_cons_self
  have hclient : w₀.count+1 ∈ [w₀.count,w₀.count+1] := by simp
  refine spec_bind ((outer_method hserver (.bind address) rfl).onError
    fun _ _ h => .both 2 (Nat.le_refl 2) h) fun _ => ?_
  refine spec_bind ((outer_method hserver .getsockname rfl).onError
    fun _ _ h => .both 2 (Nat.le_refl 2) h) fun name => ?_
  refine spec_bind ((outer_method hclient (.connectEx name) rfl).onError
    fun _ _ h => .both 2 (Nat.le_refl 2) h) fun _ => ?_
  refine spec_bind ((outer_method hclient .getsockname rfl).onError
    fun _ _ h => .both 2 (Nat.le_refl 2) h) fun name => ?_
  refine spec_bind ((outer_method hserver (.connectEx name) rfl).onError
    fun _ _ h => .both 2 (Nat.le_refl 2) h) fun _ => spec_pure fun _ h => ⟨rfl,h⟩

end LwIP

def Event.asks (self : Ref) (c : SockCall) (e : Event) : Bool :=
  decide (e.owner = some self) && match e.call with
    | .on _ c' => decide (c' = c)
    | _ => false

/-- The address lwIP wrote when `c` was last asked on behalf of `self`. -/
def lastName (self : Ref) (c : SockCall) (log : List Event) : Option Address :=
  (log.find? (Event.asks self c)).bind fun e =>
    ((e.reply.name.getD SockAddr.createEmptySockaddr).unparseAddress env.host).toOption

def localName (self : Ref) (log : List Event) : Option Address :=
  lastName env self (.getsockname SockAddr.createEmptySockaddr.len) log

def peerName (self : Ref) (log : List Event) : Option Address :=
  lastName env self (.getpeername SockAddr.createEmptySockaddr.len) log

/-- Each socket's local name is the other's peer name. -/
def Connected (client server : Ref) (log : List Event) : Prop :=
  ∃ a b, localName env server log = some a ∧ peerName env client log = some a ∧
    peerName env server log = some b ∧ localName env client log = some b

section Names

variable {env} {self : Ref} {c : SockCall} {e : Event} {log : List Event}

theorem lastName_cons_other (h : e.asks self c = false) :
    lastName env self c (e::log) = lastName env self c log := by
  rw [lastName,List.find?_cons_of_neg (by simp [h])]
  rfl

theorem lastName_cons_self (h : e.asks self c = true) {address : Address}
    (haddr : (e.reply.name.getD SockAddr.createEmptySockaddr).unparseAddress env.host =
      .ok address) : lastName env self c (e::log) = some address := by
  rw [lastName,List.find?_cons_of_pos h,Option.bind_some,haddr]
  rfl

variable (hq : env.Quiet)
include hq

theorem checked_ok {name : String} {w w' : World} {r : Reply}
    (h : Socket.checked env self name (.ok c) w = .ok r w') :
    r = (Socket.event env self c w).reply ∧ w'.log = Socket.event env self c w :: w.log := by
  rw [Socket.checked_ok_run hq] at h
  split at h
  · cases h
    exact ⟨rfl,rfl⟩
  · cases h

/-- A name that was asked for is the last one reported. -/
theorem name_reported {name : String} {w w' : World} {address : Address}
    (h : (Socket.checked env self name (.ok c) >>= fun r =>
      lift ((r.name.getD SockAddr.createEmptySockaddr).unparseAddress env.host)) w =
        .ok address w') :
    ∃ e, w'.log = e :: w.log ∧ e.owner = some self ∧ e.call = .on (w.sockets self).s c ∧
      (e.reply.name.getD SockAddr.createEmptySockaddr).unparseAddress env.host = .ok address := by
  obtain ⟨r,t,hr,ht⟩ := bind_eq_ok.mp h
  obtain ⟨rfl,hlog⟩ := checked_ok hq hr
  cases haddr : ((Socket.event env self c w).reply.name.getD
      SockAddr.createEmptySockaddr).unparseAddress env.host with
  | error e =>
    rw [haddr] at ht
    cases ht
  | ok a =>
    rw [haddr] at ht
    cases ht
    exact ⟨_,hlog,rfl,rfl,haddr⟩

omit hq in
theorem asks_of (ho : e.owner = some self) {n : ℤ} {c' : SockCall} (hc : e.call = .on n c')
    (k : Ref) : e.asks k c = (decide (self = k) && decide (c' = c)) := by
  rw [Event.asks,ho,hc]
  simp

/-- Both pairs of names were asked for and agree. -/
theorem connected_of_notConnected {client server : Ref} (hne : client ≠ server) {w w' : World}
    (h : LwIP.notConnected env client server w = .ok false w') :
    Connected env client server w'.log := by
  obtain ⟨a,w₁,h₁,h⟩ := bind_eq_ok.mp h
  obtain ⟨b,w₂,h₂,h⟩ := bind_eq_ok.mp h
  by_cases hab : a = b
  · rw [if_neg (not_not.mpr hab)] at h
    obtain ⟨a',w₃,h₃,h⟩ := bind_eq_ok.mp h
    obtain ⟨b',w₄,h₄,h⟩ := bind_eq_ok.mp h
    obtain ⟨hab',rfl⟩ : decide (a' ≠ b') = false ∧ w₄ = w' := by
      rw [pure_apply,EStateM.Result.ok.injEq] at h
      exact h
    obtain rfl : a' = b' := by simpa using hab'
    obtain ⟨e₁,hlog₁,ho₁,hc₁,hn₁⟩ := name_reported hq h₁
    obtain ⟨e₂,hlog₂,ho₂,hc₂,hn₂⟩ := name_reported hq h₂
    obtain ⟨e₃,hlog₃,ho₃,hc₃,hn₃⟩ := name_reported hq h₃
    obtain ⟨e₄,hlog₄,ho₄,hc₄,hn₄⟩ := name_reported hq h₄
    subst hab
    have hne' := hne.symm
    refine ⟨a,a',?_,?_,?_,?_⟩
    · rw [localName,hlog₄,lastName_cons_other (by simp [asks_of ho₄ hc₄,hne]),hlog₃,
        lastName_cons_other (by simp [asks_of ho₃ hc₃]),hlog₂,
        lastName_cons_other (by simp [asks_of ho₂ hc₂]),hlog₁]
      exact lastName_cons_self (by simp [asks_of ho₁ hc₁]) hn₁
    · rw [peerName,hlog₄,lastName_cons_other (by simp [asks_of ho₄ hc₄]),hlog₃,
        lastName_cons_other (by simp [asks_of ho₃ hc₃,hne']),hlog₂]
      exact lastName_cons_self (by simp [asks_of ho₂ hc₂]) hn₂
    · rw [peerName,hlog₄,lastName_cons_other (by simp [asks_of ho₄ hc₄,hne]),hlog₃]
      exact lastName_cons_self (by simp [asks_of ho₃ hc₃]) hn₃
    · rw [localName,hlog₄]
      exact lastName_cons_self (by simp [asks_of ho₄ hc₄]) hn₄
  · rw [if_pos hab] at h
    cases h

theorem setblocking_ok {blocking : Bool} {w w' : World} {u : Unit}
    (h : Socket.setblocking env self blocking w = .ok u w') :
    ∃ e n cmd arg, w'.log = e :: w.log ∧ e.call = .on n (.ioctl cmd arg) := by
  obtain ⟨r,w₁,h₁,h⟩ := bind_eq_ok.mp h
  cases h
  obtain ⟨argp,w₂,harg,h₁⟩ := bind_eq_ok.mp h₁
  obtain ⟨r,w₃,h₃,h₁⟩ := bind_eq_ok.mp h₁
  cases h₁
  have hw : w₂ = w := by
    cases hv : toSigned 32 (if blocking then 0 else 1) <;> rw [hv] at harg <;> cases harg
    rfl
  subst hw
  have hcmd : (toSigned 64 FIONBIO >>= fun cmd => pure (SockCall.ioctl cmd argp)) =
      Except.ok (.ioctl FIONBIO argp) := rfl
  rw [hcmd] at h₃
  exact ⟨_,_,_,_,(checked_ok hq h₃).2,rfl⟩

omit hq in
theorem Connected.cons_ioctl {client server : Ref} (h : Connected env client server log)
    {n cmd arg : ℤ} (hc : e.call = .on n (.ioctl cmd arg)) :
    Connected env client server (e::log) := by
  have hno : ∀ {k : Ref} {c : SockCall}, c ≠ .ioctl cmd arg → e.asks k c = false := by
    intro k c hne
    rw [Event.asks,hc]
    simp [hne.symm]
  obtain ⟨a,b,h₁,h₂,h₃,h₄⟩ := h
  exact ⟨a,b,(lastName_cons_other (hno (by simp))).trans h₁,
    (lastName_cons_other (hno (by simp))).trans h₂,(lastName_cons_other (hno (by simp))).trans h₃,
    (lastName_cons_other (hno (by simp))).trans h₄⟩

theorem finishPair_connected {client server : Ref} (hne : client ≠ server) {blocking : Bool}
    {w w' : World} {r : Ref × Ref}
    (h : LwIP.finishPair env blocking client server w = .ok r w') :
    r = (client,server) ∧ Connected env client server w'.log := by
  obtain ⟨differ,w₁,h₁,h⟩ := bind_eq_ok.mp h
  cases differ with
  | true => cases h
  | false =>
    obtain ⟨_,w₂,h₂,h⟩ := bind_eq_ok.mp h
    obtain ⟨_,w₃,h₃,h⟩ := bind_eq_ok.mp h
    cases h
    obtain ⟨e₂,n₂,cmd₂,arg₂,hlog₂,hc₂⟩ := setblocking_ok hq h₂
    obtain ⟨e₃,n₃,cmd₃,arg₃,hlog₃,hc₃⟩ := setblocking_ok hq h₃
    rw [hlog₃,hlog₂]
    exact ⟨rfl,((connected_of_notConnected hq hne h₁).cons_ioctl hc₂).cons_ioctl hc₃⟩

end Names

namespace LwIP

variable {env} {w₀ : World} {server client : Ref} {bad failed : Bool} {opened : List Ref} {made : ℕ}

theorem spec_notConnected (hclient : client ∈ opened) (hserver : server ∈ opened) {k : Ref} :
    Spec (Pending env w₀ k bad failed opened made) (notConnected env client server)
      (fun _ => Pending env w₀ k bad failed opened made)
      (fun _ => Pending env w₀ k bad failed opened made) := by
  refine spec_bind (spec_method hserver .getsockname rfl) fun a =>
    spec_bind (spec_method hclient .getpeername rfl) fun b => ?_
  split
  · exact spec_pure fun _ h => h
  · exact spec_bind (spec_method hserver .getpeername rfl) fun a =>
      spec_bind (spec_method hclient .getsockname rfl) fun b => spec_pure fun _ h => h

/-- The end of the `try` block, with both sockets open. -/
theorem spec_finishPair (hq : env.Quiet) (hne : client ≠ server) (hclient : client ∈ opened)
    (hserver : server ∈ opened) (blocking : Bool) {k : Ref} :
    Spec (Pending env w₀ k bad failed opened made) (finishPair env blocking client server)
      (fun r w => r = (client,server) ∧ Connected env client server w.log ∧
        Pending env w₀ k bad failed opened made w)
      (fun _ => Pending env w₀ k bad failed opened made) := by
  have hpending : Spec (Pending env w₀ k bad failed opened made)
      (finishPair env blocking client server) (fun _ => Pending env w₀ k bad failed opened made)
      (fun _ => Pending env w₀ k bad failed opened made) := by
    have hrest : Spec (Pending env w₀ k bad failed opened made) (do
        Socket.setblocking env client blocking
        Socket.setblocking env server blocking
        return (client,server)) (fun _ => Pending env w₀ k bad failed opened made)
        (fun _ => Pending env w₀ k bad failed opened made) :=
      spec_bind (spec_method hclient (.setblocking blocking) (discard_unit _).symm) fun _ =>
        spec_bind (spec_method hserver (.setblocking blocking) (discard_unit _).symm) fun _ =>
          spec_pure fun _ h => h
    refine spec_bind (spec_notConnected hclient hserver) fun differ => ?_
    split
    · exact spec_bind (spec_throw fun _ h => h) fun _ => hrest
    · exact hrest
  intro w hw
  have h := hpending w hw
  cases hr : finishPair env blocking client server w with
  | ok r t =>
    rw [hr] at h
    obtain ⟨hpair,hconn⟩ := finishPair_connected hq hne hr
    exact ⟨hpair,hconn,h⟩
  | error e t =>
    rw [hr] at h
    exact h

theorem outer_finishPair {l : Locals} (hq : env.Quiet) (hne : client ≠ server)
    (hclient : client ∈ opened) (hserver : server ∈ opened) (blocking : Bool) {k : Ref} :
    Spec (At env w₀ k bad failed opened made l) (outer (finishPair env blocking client server))
      (fun r c => r = (client,server) ∧ Connected env client server c.1.log ∧
        At env w₀ k bad failed opened made l c)
      (fun _ => At env w₀ k bad failed opened made l) :=
  (spec_zoom_fst (spec_finishPair hq hne hclient hserver blocking) l).consequence (fun _ h => h)
    (fun _ _ h => ⟨h.1.1,h.1.2.1,h.1.2.2,h.2⟩) (fun _ _ h => h)

end LwIP

/-- The place of the server socket of a pair made in `w`: behind the listening socket and the
client, or the first. -/
def pairServer (w : World) (type : ℤ) : Ref := if type = SOCK_STREAM then w.count+2 else w.count

/-- The `try` block returned: both sockets are open and connected. -/
def Finished (w₀ : World) (server client : Ref) (r : Ref × Ref) (w : World) : Prop :=
  r = (client,server) ∧ Connected env client server w.log ∧
  ∃ made, Pending env w₀ server false false [server,client] made w

namespace LwIP

variable {env} {w₀ : World} (hq : env.Quiet) (h₀ : Owned w₀)
include hq h₀

theorem spec_makePair (lwip : Instance) (family type proto : ℤ) (blocking : Bool)
    (address : Address) :
    Spec (fun c => c.1 = w₀ ∧ c.2 = ⟨none,none⟩)
      (makePair env lwip family type proto blocking address)
      (fun r c => Finished env w₀ (pairServer w₀ type) (w₀.count+1) r c.1)
      (fun _ => Unfinished env w₀ (pairServer w₀ type) (w₀.count+1)) := by
  have hstart : ∀ c : World × Locals, c.1 = w₀ ∧ c.2 = ⟨none,none⟩ → c = (w₀,⟨none,none⟩) :=
    fun c hc => Prod.ext hc.1 hc.2
  have hfinish : ∀ {server made}, w₀.count+1 ≠ server → 2 ≤ made → ∀ r : Ref × Ref,
      Spec (fun c => r = (w₀.count+1,server) ∧ At env w₀ server false false
          [server,w₀.count+1] made ⟨some server,some (w₀.count+1)⟩ c)
        (outer (finishPair env blocking r.1 r.2))
        (fun r c => Finished env w₀ server (w₀.count+1) r c.1)
        (fun _ => Unfinished env w₀ server (w₀.count+1)) := by
    rintro server made hne hmade r c ⟨rfl,hc⟩
    exact ((outer_finishPair hq hne (by simp) (by simp) blocking).consequence (fun _ h => h)
      (fun _ _ h => ⟨h.1,h.2.1,made,h.2.2.1⟩) fun _ _ h => .both made hmade h) c hc
  rw [makePair]
  by_cases hstream : type = SOCK_STREAM
  · have hserver : pairServer w₀ type = w₀.count+2 := if_pos hstream
    rw [if_pos hstream,hserver]
    exact spec_bind ((spec_streamPair hq h₀ lwip family type proto address).consequence hstart
      (fun _ _ h => h) fun _ _ h => h) (hfinish (by omega) (by omega))
  · have hserver : pairServer w₀ type = w₀.count := if_neg hstream
    rw [if_neg hstream,hserver]
    split
    · exact spec_bind ((spec_dgramPair hq h₀ lwip family type proto address).consequence hstart
        (fun _ _ h => h) fun _ _ h => h) (hfinish (by omega) (by omega))
    · refine spec_bind (Q := fun _ _ => False) (spec_throw fun c hc => ?_) fun _ _ h => h.elim
      rw [hstart c hc]
      exact .nothing 0 ⟨pending_start h₀ _,rfl⟩

/-- Either both sockets are open and connected, or the `except` clause has run. -/
theorem spec_socketpair (lwip : Instance) (family type proto : ℤ) (blocking : Bool) :
    Spec (fun w => w = w₀) (socketpair env lwip family type proto blocking)
      (Finished env w₀ (pairServer w₀ type) (w₀.count+1))
      (fun _ => Cleaned env w₀ (pairServer w₀ type)) := by
  have hne : w₀.count+1 ≠ pairServer w₀ type := by
    rw [pairServer]
    split <;> omega
  rw [socketpair]
  cases loopback family with
  | error e =>
    rintro _ rfl
    exact ⟨_,_,_,_,pending_start h₀ _,by simp⟩
  | ok address =>
    exact spec_withLocal (spec_tryCatch
      (spec_makePair hq h₀ lwip family type proto blocking address) fun e =>
      (closeAndRaise_cleaned hq hne e).consequence (fun _ h => h) (fun _ _ h => h.elim)
        fun _ _ h => h)

end LwIP

section Runs

variable {env} {w₀ w : World} {server : Ref} {bad failed : Bool} {opened : List Ref} {made : ℕ}

theorem Pending.obtained_new (h₀ : Owned w₀) (h : Pending env w₀ server bad failed opened made w) :
    (obtained (newEvents w₀ w)).reverse =
      (List.range made).map fun i => (w.sockets (w₀.count+i)).origin := by
  obtain ⟨new,hlog,_⟩ := h.events
  have horigin := h.owned.origin
  have hlen : (obtained w₀.log).reverse.length = w₀.count := by
    rw [h₀.origin,List.length_map,List.length_range]
  rw [newEvents_append hlog]
  rw [hlog,obtained,List.filterMap_append,List.reverse_append,h.count,List.range_add,
    List.map_append,List.map_map] at horigin
  exact (List.append_inj horigin (by rw [List.length_map,List.length_range]; exact hlen)).2

theorem Pending.closed_iff (h : Pending env w₀ server bad failed opened made w) :
    (∀ k, w₀.count ≤ k → k < w.count → closes k w.log = [(w.sockets k).origin]) ↔ opened = [] := by
  constructor
  · intro hall
    rw [List.eq_nil_iff_forall_not_mem]
    intro k hk
    obtain ⟨hle,hlt,harm⟩ := h.inside k hk
    have hno := h.owned.open_of_armed hlt harm
    rw [hall k hle hlt] at hno
    cases hno
  · rintro rfl k hle hlt
    exact h.owned.closed_once hlt (h.outside k hle hlt List.not_mem_nil).1

/-- What lwIP has to answer for a pair to leave nothing behind. -/
def CleanAnswers (env : Env) (server : Ref) (new : List Event) : Prop :=
  (∀ e ∈ new, ¬ BadPeer env e) ∧
  (2 ≤ (obtained new).length → ∀ e ∈ new, ¬ FailedClose server e)

theorem Pending.answers_iff (h₀ : Owned w₀) (h : Pending env w₀ server bad failed opened made w) :
    CleanAnswers env server (newEvents w₀ w) ↔ bad = false ∧ (2 ≤ made → failed = false) := by
  have hmade : (obtained (newEvents w₀ w)).length = made := by
    simpa using congrArg List.length (h.obtained_new h₀)
  obtain ⟨new,hlog,hbad,hfailed⟩ := h.events
  rw [CleanAnswers,hmade,newEvents_append hlog,← Bool.not_eq_true,← Bool.not_eq_true,hbad,hfailed]
  simp only [not_exists,not_and]

end Runs

variable (env : Env)

/-- The socket is open: it holds its descriptor, which it has not passed to `lwip_close`. -/
def Open (w : World) (k : Ref) : Prop := (w.sockets k).Armed ∧ closes k w.log = []

/-- Its descriptor has been passed to `lwip_close`, once. -/
def ClosedOnce (w : World) (k : Ref) : Prop := closes k w.log = [(w.sockets k).origin]

/-- No socket made since `w` leaks. -/
def NoLeak (w : World) : EStateM.Result PyErr World (Ref × Ref) → Prop
  | .ok (client,server) w' =>
    client ≠ server ∧ Connected env client server w'.log ∧
    (∀ k ∈ [client,server], w.count ≤ k ∧ k < w'.count ∧ Open w' k) ∧
    ∀ k, w.count ≤ k → k < w'.count → k ∉ [client,server] → ClosedOnce w' k
  | .error _ w' => ∀ k, w.count ≤ k → k < w'.count → ClosedOnce w' k

/-- `socketpair` leaks nothing exactly if lwIP's answers are clean. -/
theorem noLeak_iff_of_owned {env : Env} (hq : env.Quiet) {w : World} (h : Owned w)
    (lwip : Instance) (family type proto : ℤ) (blocking : Bool) :
    let w' := final (LwIP.socketpair env lwip family type proto blocking) w
    (obtained (newEvents w w')).reverse =
      ((List.range (w'.count - w.count)).map fun i => (w'.sockets (w.count+i)).origin) ∧
    (NoLeak env w (LwIP.socketpair env lwip family type proto blocking w) ↔
      CleanAnswers env (pairServer w type) (newEvents w w')) := by
  have hspec := LwIP.spec_socketpair hq h lwip family type proto blocking
  have hne : w.count+1 ≠ pairServer w type := by
    rw [pairServer]
    split <;> omega
  cases hr : LwIP.socketpair env lwip family type proto blocking w with
  | ok r w' =>
    obtain ⟨rfl,hconn,made,hp⟩ := hspec.of_ok rfl hr
    rw [final_of_ok hr]
    have hmade : w'.count - w.count = made := by
      rw [hp.count,Nat.add_sub_cancel_left]
    refine ⟨by rw [hmade]; exact hp.obtained_new h,iff_of_true ⟨hne,hconn,?_,?_⟩ ?_⟩
    · intro k hk
      obtain ⟨hle,hlt,harm⟩ := hp.inside k (List.Perm.mem_iff (.swap _ _ _) |>.mp hk)
      exact ⟨hle,hlt,harm,hp.owned.open_of_armed hlt harm⟩
    · intro k hle hlt hno
      have hout : k ∉ [pairServer w type,w.count+1] :=
        fun hk => hno (List.Perm.mem_iff (.swap _ _ _) |>.mp hk)
      exact hp.owned.closed_once hlt (hp.outside k hle hlt hout).1
    · rw [hp.answers_iff h]
      exact ⟨rfl,fun _ => rfl⟩
  | error e w' =>
    obtain ⟨bad,failed,opened,made,hp,hiff⟩ := hspec.of_error rfl hr
    rw [final_of_error hr]
    have hmade : w'.count - w.count = made := by
      rw [hp.count,Nat.add_sub_cancel_left]
    refine ⟨by rw [hmade]; exact hp.obtained_new h,?_⟩
    rw [hp.answers_iff h,← hiff]
    exact hp.closed_iff

theorem owned_socketpair {env : Env} (hq : env.Quiet) {w : World} (h : Owned w) (lwip : Instance)
    (family type proto : ℤ) (blocking : Bool) :
    Owned (final (LwIP.socketpair env lwip family type proto blocking) w) := by
  have hspec := LwIP.spec_socketpair hq h lwip family type proto blocking
  cases hr : LwIP.socketpair env lwip family type proto blocking w with
  | ok r w' =>
    obtain ⟨_,_,made,hp⟩ := hspec.of_ok rfl hr
    rw [final_of_ok hr]
    exact hp.owned
  | error e w' =>
    obtain ⟨bad,failed,opened,made,hp,_⟩ := hspec.of_error rfl hr
    rw [final_of_error hr]
    exact hp.owned

theorem steps_poll {env : Env} (timeout : Timeout) :
    Respects (OnFst (Steps env)) (LwipPoll.poll env timeout) := by
  refine respects_poll fun o fds => respects_checkRetErrno (fun _ _ => .single (.quiet rfl rfl rfl))
    (fun _ _ => .single (.quiet rfl rfl rfl)) "poll" fun w => ?_
  cases timeout.toInt with
  | ok n => exact .single (.call _ (.inl ⟨rfl,fun _ _ h => by cases h⟩) rfl rfl rfl rfl rfl)
  | error e => exact .refl

/-- Descriptors and objects correspond after every run of the interface. -/
theorem owned_apiRun {env : Env} (hq : env.Quiet) (ops : List ApiOp) :
    Owned (apiRun env ops World.init) := by
  refine runAll_kept (fun m hm w hw => ?_) owned_init
  obtain ⟨op,_,rfl⟩ := List.mem_map.mp hm
  cases op with
  | sockets op => exact hw.steps (steps_exec hq op w)
  | socketpair lwip family type proto blocking =>
    rw [ApiOp.exec,final_discard]
    exact owned_socketpair hq hw lwip family type proto blocking
  | poll o timeout => exact hw.steps (respects_withLocal (respects_discard (steps_poll timeout)) w)

/-- When `socketpair` leaks nothing, after any run of operations: exactly if no accepted peer had
a bad address and, once a second descriptor had been obtained, closing the server socket in the
`except` clause did not fail. -/
theorem socketpair_no_leak_iff {env : Env} (hq : env.Quiet) (ops : List ApiOp) (lwip : Instance)
    (family type proto : ℤ) (blocking : Bool) :
    let w := apiRun env ops World.init
    let w' := final (LwIP.socketpair env lwip family type proto blocking) w
    (obtained (newEvents w w')).reverse =
      ((List.range (w'.count - w.count)).map fun i => (w'.sockets (w.count+i)).origin) ∧
    (NoLeak env w (LwIP.socketpair env lwip family type proto blocking w) ↔
      CleanAnswers env (pairServer w type) (newEvents w w')) :=
  noLeak_iff_of_owned hq (owned_apiRun hq ops) lwip family type proto blocking

instance (env : Env) (server : Ref) (new : List Event) : Decidable (CleanAnswers env server new) :=
  inferInstanceAs (Decidable (_ ∧ _))

/-- A socket address of the loopback interface. -/
def loopbackName (port : ℤ) : Option SockAddr :=
  (SockAddr.parseAddress littleHost (.inet "127.0.0.1" port) AF_UNSPEC).toOption

/-- An lwIP that connects the second socket made to the one it accepts. -/
def connectedReply (log : List Event) (_ : Instance) : Call → Reply
  | .socket _ _ _ => { ret := (obtained log).length }
  | .on _ (.accept _) => { ret := (obtained log).length, name := loopbackName 81 }
  | .on n (.getsockname _) => { ret := 0, name := loopbackName (if n = 1 then 81 else 80) }
  | .on n (.getpeername _) => { ret := 0, name := loopbackName (if n = 1 then 80 else 81) }
  | _ => { ret := 0 }

theorem socketpair_no_leak_stream :
    value (LwIP.socketpair (quietEnv connectedReply) 0 AF_INET SOCK_STREAM 0 true) World.init =
      some (1,2) ∧
    NoLeak (quietEnv connectedReply) World.init
      (LwIP.socketpair (quietEnv connectedReply) 0 AF_INET SOCK_STREAM 0 true World.init) :=
  ⟨by decide +kernel,(socketpair_no_leak_iff (quietEnv_quiet connectedReply) [] 0 AF_INET
    SOCK_STREAM 0 true).2.mpr (by decide +kernel)⟩

def namelessReply (log : List Event) (_ : Instance) : Call → Reply
  | .socket _ _ _ => { ret := (obtained log).length }
  | .on _ (.getsockname _) => { ret := -1, errno := some 107 }
  | .on 0 .close => { ret := -1, errno := some 9 }
  | _ => { ret := 0 }

/-- The first of two datagram sockets fails to close in the `except` clause; the second one is
never closed. -/
theorem socketpair_leaks_client :
    (final (LwIP.socketpair (quietEnv namelessReply) 0 AF_INET SOCK_DGRAM 0 true)
      World.init).count = 2 ∧
    closes 1 (final (LwIP.socketpair (quietEnv namelessReply) 0 AF_INET SOCK_DGRAM 0 true)
      World.init).log = [] ∧
    ¬ ∀ (env : Env) (lwip : Instance) (family type proto : ℤ) (blocking : Bool), env.Quiet →
      NoLeak env World.init (LwIP.socketpair env lwip family type proto blocking World.init) := by
  have hcount : (final (LwIP.socketpair (quietEnv namelessReply) 0 AF_INET SOCK_DGRAM 0 true)
      World.init).count = 2 := by decide +kernel
  have hopen : closes 1 (final (LwIP.socketpair (quietEnv namelessReply) 0 AF_INET SOCK_DGRAM 0
      true) World.init).log = [] := by decide +kernel
  refine ⟨hcount,hopen,fun h => ?_⟩
  have hno := h (quietEnv namelessReply) 0 AF_INET SOCK_DGRAM 0 true (quietEnv_quiet _)
  cases hr : LwIP.socketpair (quietEnv namelessReply) 0 AF_INET SOCK_DGRAM 0 true World.init with
  | ok r w' =>
    have hraise : value (LwIP.socketpair (quietEnv namelessReply) 0 AF_INET SOCK_DGRAM 0 true)
        World.init = none := by decide +kernel
    rw [value_of_ok hr] at hraise
    cases hraise
  | error e w' =>
    rw [final_of_error hr] at hcount hopen
    rw [hr] at hno
    have hclosed := hno 1 (Nat.zero_le 1) (by rw [hcount]; decide)
    rw [ClosedOnce,hopen] at hclosed
    cases hclosed

end LwipPy
