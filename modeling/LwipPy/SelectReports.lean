import LwipPy.Library.Flags
import LwipPy.PollMarshalling
import LwipPy.SelectorRuns
import LwipPy.Errno

/-! What `select` returns in an event loop: registrations change, sockets are made and closed,
and `select` itself was called any number of times before. A key is reported with what it asked
for and lwIP saw, no key is forgotten, and none is reported twice. -/
namespace LwipPy

open Program

namespace Selector

variable {δ : Type} {env : Env}

theorem bit_pollerEvents_read (events : ℤ) :
    (pollerEvents events).testBit 0 = true ↔ events.testBit 0 = true := by
  rw [← Flags.has_bit (x := events) 0]
  apply (Flags.testBit_two 0 1 0).trans
  simp only [Nat.one_ne_zero,and_false,or_false,and_true]
  rfl

theorem bit_pollerEvents_write (events : ℤ) :
    (pollerEvents events).testBit 1 = true ↔ events.testBit 1 = true := by
  rw [← Flags.has_bit (x := events) 1]
  apply (Flags.testBit_two 0 1 1).trans
  simp only [Nat.zero_ne_one,and_false,false_or,and_true]
  rfl

theorem bit_readyEvents_read (event : PollEvent) :
    (readyEvents event).testBit 0 = true ↔ ∃ k, k ≠ 1 ∧ k < 10 ∧ event.value.testBit k = true := by
  rw [← Flags.has_others (by norm_num : 1 < 10)]
  apply (Flags.testBit_two 1 0 0).trans
  simp only [Nat.one_ne_zero,and_false,false_or,and_true]
  rfl

theorem bit_readyEvents_write (event : PollEvent) :
    (readyEvents event).testBit 1 = true ↔ ∃ k, k ≠ 0 ∧ k < 10 ∧ event.value.testBit k = true := by
  rw [← Flags.has_others (by norm_num : 0 < 10)]
  apply (Flags.testBit_two 1 0 1).trans
  simp only [Nat.zero_ne_one,and_false,or_false,and_true]
  rfl

/-- The events contain reading or writing. -/
def Wants (events : ℤ) : Prop := Flags.Has events EVENT_READ ∨ Flags.Has events EVENT_WRITE

theorem wants_iff {events : ℤ} :
    Wants events ↔ events.testBit 0 = true ∨ events.testBit 1 = true :=
  or_congr (Flags.has_bit (x := events) 0) (Flags.has_bit (x := events) 1)

/-- What lwIP may report of one entry: events with a name, and `POLLIN` and `POLLOUT` only where
they were asked for. -/
structure ReportAsked (p : Pollfd) : Prop where
  nonneg : 0 ≤ p.revents
  named : p.revents < 2^10
  input : Flags.Has p.revents POLLIN → Flags.Has p.events POLLIN
  output : Flags.Has p.revents POLLOUT → Flags.Has p.events POLLOUT

def ReportsAsked (env : Env) : Prop :=
  ∀ log inst fds n,
    ∀ p ∈ LwipPoll.answered fds (env.reply log inst (.poll fds fds.length n)).revents,
      ReportAsked p

/-- Whoever is reported and asked for something is reported with something it asked for. -/
theorem wants_reported {p : Pollfd} (h : ReportAsked p) {events : ℤ} (hne : p.revents ≠ 0)
    (hp : p.events = pollerEvents events) :
    Wants (Int.land (readyEvents (.ofInt p.revents)) events) ↔ Wants events := by
  have hin : p.revents.testBit 0 = true → events.testBit 0 = true := by
    intro hbit
    rw [← bit_pollerEvents_read,← hp]
    exact (Flags.has_bit 0).mp (h.input ((Flags.has_bit 0).mpr hbit))
  have hout : p.revents.testBit 1 = true → events.testBit 1 = true := by
    intro hbit
    rw [← bit_pollerEvents_write,← hp]
    exact (Flags.has_bit 1).mp (h.output ((Flags.has_bit 1).mpr hbit))
  rw [wants_iff,wants_iff]
  simp only [Int.testBit_land,Bool.and_eq_true,bit_readyEvents_read,bit_readyEvents_write,
    PollEvent.ofInt_value h.nonneg]
  obtain ⟨k,hk⟩ := Flags.ne_zero_iff.mp hne
  have hlt : k < 10 := Flags.lt_of_testBit h.nonneg h.named hk
  constructor
  · exact Or.imp And.right And.right
  · intro hwants
    by_cases h₀ : k = 0
    · subst h₀
      exact .inl ⟨⟨0,by decide,hlt,hk⟩,hin hk⟩
    · by_cases h₁ : k = 1
      · subst h₁
        exact .inr ⟨⟨1,by decide,hlt,hk⟩,hout hk⟩
      · exact hwants.imp (fun hw => ⟨⟨k,h₁,hlt,hk⟩,hw⟩) fun hw => ⟨⟨k,h₀,hlt,hk⟩,hw⟩

/-- The list returned for the answered array `fds`: every number reported stands as its key, once,
with the events it asked for among those reported. -/
structure Reported (o : Selector δ) (fds : List Pollfd) (ready : List (SelectorKey δ × ℤ)) :
    Prop where
  once : (ready.map fun x => x.1.fd).Nodup
  entry : ∀ key events, (key,events) ∈ ready ↔ o.fdToKey.get? key.fd = some key ∧
    ∃ p ∈ fds, p.fd = key.fd ∧ p.revents ≠ 0 ∧
      events = Int.land (readyEvents (.ofInt p.revents)) key.events
  complete : ∀ p ∈ fds, p.revents ≠ 0 → ∃ x ∈ ready, x.1.fd = p.fd
  wanted : ∀ key events, (key,events) ∈ ready → (Wants events ↔ Wants key.events)

/-- Why `select` cannot ask lwIP: a registered number, or the number of milliseconds, is no C
`int`. -/
def Unaskable (timeout : Timeout) (o : Selector δ) : Prop :=
  (∃ fd key, o.fdToKey.get? fd = some key ∧ ¬ CInt fd) ∨ ∃ n, timeout = .int n ∧ ¬ CInt n

/-- How `select` ends: it returned what lwIP reported, or an empty list when it was interrupted,
or it raised because it could not ask lwIP or lwIP failed. -/
def Selected (env : Env) (timeout : Timeout) (c : World × Selector δ) :
    EStateM.Result PyErr (World × Selector δ) (List (SelectorKey δ × ℤ)) → Prop
  | .ok ready c' => c'.2.fdToKey = c.2.fdToKey ∧
      ∃ fds r, LwipPoll.Called env c.2.masks timeout c.2.lwip c.1 c'.1.log fds r ∧
        (0 ≤ r.ret ∧ Reported c.2 (LwipPoll.answered fds r.revents) ready ∨
          r.ret < 0 ∧ r.errno = some EINTR ∧ ready = [])
  | .error e c' => c'.2.fdToKey = c.2.fdToKey ∧
      (c'.1.log = c.1.log ∧ e = .overflowError ∧ Unaskable timeout c.2 ∨
        ∃ fds r, LwipPoll.Called env c.2.masks timeout c.2.lwip c.1 c'.1.log fds r ∧
          r.ret < 0 ∧ r.errno ≠ some EINTR ∧ e = failure env "poll" r (r.errno.getD 0))

variable {product : ℚ → ℚ}

/-- `select` does to the world and the poll object what `poll` does. -/
theorem final_select (timeout : Option ℚ) (c : World × Selector δ) :
    final (select env product timeout) c = pollPart.write c
      (final (LwipPoll.poll env (selectTimeout product timeout)) (pollPart.read c)) := by
  rw [← final_zoom]
  cases h : zoom pollPart (LwipPoll.poll env (selectTimeout product timeout)) c with
  | ok res c' =>
    rw [final,select,bind_of_ok (tryCatch_of_ok h),final_of_ok h]
    rfl
  | error e c' =>
    rw [final,select,bind_apply,tryCatch_apply,h,final_of_error h]
    cases e <;> simp only [passInterrupted,throw_apply]
    split_ifs <;> rfl

theorem toSigned_int_error {n : ℤ} {e : PyErr} (h : toSigned 32 n = .error e) :
    e = .overflowError ∧ ¬ CInt n := by
  refine ⟨toSigned_error h,fun hn => ?_⟩
  cases h.symm.trans hn.toSigned

theorem selectTimeout_error {timeout : Option ℚ} {e : PyErr}
    (h : (selectTimeout product timeout).toInt = .error e) :
    e = .overflowError ∧ ∃ n, selectTimeout product timeout = .int n ∧ ¬ CInt n := by
  cases timeout with
  | none => cases h
  | some s =>
    rw [selectTimeout] at h ⊢
    split_ifs at h ⊢
    · exact ⟨(toSigned_int_error h).1,_,rfl,(toSigned_int_error h).2⟩
    · exact ⟨(toSigned_int_error h).1,_,rfl,(toSigned_int_error h).2⟩

/-- The mask of a key fits a `struct pollfd`, so it is the number that does not. -/
theorem fits_pollerEvents {fd events : ℤ} (h : CInt fd) :
    LwipPoll.Fits fd (pollerEvents events) := by
  refine ⟨h,?_⟩
  unfold pollerEvents
  split_ifs <;> decide

theorem unaskable_of_unprepared {o : Selector δ} {timeout : Option ℚ} {e : PyErr}
    (h : LwipPoll.Unprepared o.masks (selectTimeout product timeout) e) :
    e = .overflowError ∧ Unaskable (selectTimeout product timeout) o := by
  rcases h with ⟨rfl,fd,m,hm,hunfit⟩ | ht
  · obtain ⟨key,hget,rfl⟩ := Option.map_eq_some_iff.mp hm
    exact ⟨rfl,.inl ⟨fd,key,hget,fun hfd => hunfit (fits_pollerEvents hfd)⟩⟩
  · exact ⟨(selectTimeout_error ht).1,.inr (selectTimeout_error ht).2⟩

/-- The list made of what `poll` reports. -/
def returned (o : Selector δ) (ready : List (ℤ × PollEvent)) : List (SelectorKey δ × ℤ) :=
  ready.filterMap fun x => (o.fdToKey.get? x.1).map fun key =>
    (key,Int.land (readyEvents x.2) key.events)

section Answered

variable {w : World} {o : Selector δ} {fds : List Pollfd}

theorem mem_reported {ready : List (ℤ × PollEvent)} {key : SelectorKey δ} {events : ℤ}
    (h : Lockstep w o) :
    (key,events) ∈ o.returned ready ↔ o.fdToKey.get? key.fd = some key ∧
      ∃ event, (key.fd,event) ∈ ready ∧ events = Int.land (readyEvents event) key.events := by
  rw [returned,List.mem_filterMap]
  constructor
  · rintro ⟨⟨fd,v⟩,hmem,hkey⟩
    obtain ⟨k,hget,heq⟩ := Option.map_eq_some_iff.mp hkey
    obtain ⟨rfl,rfl⟩ := Prod.mk.inj heq
    have hnum : k.fd = fd := (h.keys fd k hget).number
    subst hnum
    exact ⟨hget,v,hmem,rfl⟩
  · rintro ⟨hget,v,hmem,rfl⟩
    exact ⟨(key.fd,v),hmem,by rw [hget]; rfl⟩

/-- The numbers of the keys returned are among the numbers reported, in their order. -/
theorem reported_numbers (h : Lockstep w o) (ready : List (ℤ × PollEvent)) :
    List.Sublist ((o.returned ready).map fun x => x.1.fd) (ready.map Prod.fst) := by
  induction ready with
  | nil => exact List.Sublist.refl _
  | cons x ready ih =>
    cases hget : o.fdToKey.get? x.1 with
    | none =>
      rw [returned,List.filterMap_cons_none (by rw [hget]; rfl)]
      exact ih.cons _
    | some key =>
      rw [returned,List.filterMap_cons_some (by rw [hget]; rfl),List.map_cons,List.map_cons,
        (h.keys x.1 key hget).number]
      exact ih.cons_cons _

theorem answered_fds (fds : List Pollfd) (revents : List ℤ) :
    (LwipPoll.answered fds revents).map (fun p => (p.fd,p.events)) =
      fds.map fun p => (p.fd,p.events) := by
  induction fds generalizing revents with
  | nil => rfl
  | cons p fds ih => rw [LwipPoll.answered,List.map_cons,List.map_cons,ih]

theorem registered_of_answered (hfaith : LwipPoll.Faithful (masks o) fds) {revents : List ℤ}
    {p : Pollfd} (hp : p ∈ LwipPoll.answered fds revents) :
    ∃ key, o.fdToKey.get? p.fd = some key ∧ p.events = pollerEvents key.events := by
  have hmem : (p.fd,p.events) ∈ fds.map fun p => (p.fd,p.events) := by
    rw [← answered_fds fds revents]
    exact List.mem_map_of_mem hp
  obtain ⟨q,hq,heq⟩ := List.mem_map.mp hmem
  have hmask := (hfaith.entry p.fd p.events).mp
    ⟨q,hq,congrArg Prod.fst heq,congrArg Prod.snd heq⟩
  obtain ⟨key,hget,hev⟩ := Option.map_eq_some_iff.mp hmask
  exact ⟨key,hget,hev.symm⟩

theorem reported (h : Lockstep w o) (hfaith : LwipPoll.Faithful (masks o) fds)
    {revents : List ℤ} (hask : ∀ p ∈ LwipPoll.answered fds revents, ReportAsked p) :
    Reported o (LwipPoll.answered fds revents)
      (o.returned (LwipPoll.ready (LwipPoll.answered fds revents))) := by
  have hnodup : ((LwipPoll.answered fds revents).map Pollfd.fd).Nodup :=
    (LwipPoll.answered_fd fds revents).symm ▸ hfaith.once
  have hentry : ∀ key events,
      (key,events) ∈ o.returned (LwipPoll.ready (LwipPoll.answered fds revents)) ↔
      o.fdToKey.get? key.fd = some key ∧ ∃ p ∈ LwipPoll.answered fds revents, p.fd = key.fd ∧
        p.revents ≠ 0 ∧ events = Int.land (readyEvents (.ofInt p.revents)) key.events := by
    intro key events
    rw [mem_reported h]
    apply and_congr_right
    intro _
    simp only [LwipPoll.mem_ready]
    constructor
    · rintro ⟨event,⟨p,hp,hfd,hne,rfl⟩,hev⟩
      exact ⟨p,hp,hfd,hne,hev⟩
    · rintro ⟨p,hp,hfd,hne,hev⟩
      exact ⟨_,⟨p,hp,hfd,hne,rfl⟩,hev⟩
  refine ⟨(reported_numbers h _).nodup (LwipPoll.ready_once hnodup),hentry,?_,?_⟩
  · intro p hp hne
    obtain ⟨key,hget,_⟩ := registered_of_answered hfaith hp
    have hnum := (h.keys p.fd key hget).number
    exact ⟨(key,_),(hentry key _).mpr ⟨hnum.symm ▸ hget,p,hp,hnum.symm,hne,rfl⟩,hnum⟩
  · intro key events hmem
    obtain ⟨hget,p,hp,hfd,hne,rfl⟩ := (hentry key events).mp hmem
    obtain ⟨key',hget',hev⟩ := registered_of_answered hfaith hp
    rw [hfd,hget] at hget'
    obtain rfl := Option.some.inj hget'
    exact wants_reported (hask p hp) hne hev

end Answered

/-- The tables agree, and so does the array of the poll object when it is marked fresh. -/
structure Attuned (c : World × Selector δ) : Prop where
  lockstep : Lockstep c.1 c.2
  coherent : ∃ h, c.2.selector.Coherent h

theorem Attuned.masks {c : World × Selector δ} {h : List LwipPoll.Effect} (hc : Attuned c)
    (hh : c.2.selector.Coherent h) : LwipPoll.lastMask h = c.2.masks := by
  funext fd
  rw [← hh.masks,hc.lockstep.masks,Selector.masks]

variable (env) in
/-- Only an `OSError` with `EINTR` is an `InterruptedError`. -/
theorem interrupted {r : Reply} (h : r.errno = some EINTR) :
    (passInterrupted (failure env "poll" r (r.errno.getD 0)) :
      SelectorM δ (List (ℤ × PollEvent))) = pure [] := by
  rw [h]
  rfl

variable (env) in
theorem not_interrupted {r : Reply} (h : r.errno ≠ some EINTR) :
    (passInterrupted (failure env "poll" r (r.errno.getD 0)) :
      SelectorM δ (List (ℤ × PollEvent))) = throw (failure env "poll" r (r.errno.getD 0)) := by
  have hno : r.errno.getD 0 ≠ EINTR := by
    cases he : r.errno with
    | none => decide
    | some x => exact fun hx => h (he.trans (congrArg some hx))
  rw [failure]
  split_ifs with hz
  · show (if some (r.errno.getD 0) = some EINTR then _ else _) = _
    rw [if_neg fun hx => hno (Option.some.inj hx)]
  · rfl

theorem select_selected (hq : env.Quiet) (hp : LwipPoll.PollContract env) (hr : ReportsAsked env)
    {c : World × Selector δ} (hc : Attuned c) (timeout : Option ℚ) :
    Selected env (selectTimeout product timeout) c (select env product timeout c) := by
  obtain ⟨w,o⟩ := c
  obtain ⟨h,hh⟩ := hc.coherent
  have hpoll := LwipPoll.poll_polled hp hh (selectTimeout product timeout) w
  rw [hc.masks hh] at hpoll
  have hsame : o.selector.lwip = o.lwip := hc.lockstep.same
  rw [hsame] at hpoll
  cases hrun : LwipPoll.poll env (selectTimeout product timeout) (w,o.selector) with
  | ok res c' =>
    rw [hrun] at hpoll
    obtain ⟨fds,r,hcall,hret,rfl⟩ := hpoll
    rw [select,bind_of_ok (tryCatch_of_ok (zoom_poll_ok hrun))]
    refine ⟨rfl,fds,r,hcall,.inl ⟨hret,?_⟩⟩
    obtain ⟨n,_,hfaith,rfl,_⟩ := hcall
    exact reported hc.lockstep hfaith (hr w.log o.lwip fds n)
  | error e c' =>
    rw [hrun] at hpoll
    have hzoom : zoom pollPart (LwipPoll.poll env (selectTimeout product timeout)) (w,o) =
        .error e (c'.1,{ o with selector := c'.2 }) := zoom_of_error hrun
    rcases hpoll with ⟨hlog,hun | ⟨hno,_⟩⟩ | ⟨fds,r,hcall,ho⟩
    · obtain ⟨rfl,hwhy⟩ := unaskable_of_unprepared hun
      rw [select,bind_of_error ((tryCatch_apply _ _ _).trans (by rw [hzoom]; rfl))]
      exact ⟨rfl,.inl ⟨hlog,rfl,hwhy⟩⟩
    · exact absurd (enters_quiet env hq "poll" w) hno
    · rw [outcome_quiet env hq] at ho
      split_ifs at ho with hret
      cases ho
      by_cases hintr : r.errno = some EINTR
      · have hpass := interrupted (δ := δ) env hintr
        have htry : tryCatch (zoom pollPart (LwipPoll.poll env (selectTimeout product timeout)))
            passInterrupted (w,o) = .ok [] (c'.1,{ o with selector := c'.2 }) := by
          rw [tryCatch_apply,hzoom]
          exact congrFun hpass _
        rw [select,bind_of_ok htry]
        exact ⟨rfl,fds,r,hcall,.inr ⟨hret,hintr,rfl⟩⟩
      · have hthrow := not_interrupted (δ := δ) env hintr
        have htry : tryCatch (zoom pollPart (LwipPoll.poll env (selectTimeout product timeout)))
            passInterrupted (w,o) = .error (failure env "poll" r (r.errno.getD 0))
              (c'.1,{ o with selector := c'.2 }) := by
          rw [tryCatch_apply,hzoom]
          exact congrFun hthrow _
        rw [select,bind_of_error htry]
        exact ⟨rfl,.inr ⟨fds,r,hcall,hret,hintr,rfl⟩⟩

/-- The poll object has a history. -/
def Told (c : World × Selector δ) : Prop := ∃ h, c.2.selector.Coherent h

section Told

theorem told_zoom {α : Type} {m : PollM α}
    (hm : ∀ w o, ∀ h, LwipPoll.Coherent o h → ∃ h', (final m (w,o)).2.Coherent h') :
    Respects (Kept Told) (zoom (pollPart (δ := δ)) m) := by
  rintro ⟨w,o⟩ ⟨h,hh⟩
  rw [final_zoom]
  exact hm w o.selector h hh

variable (env) in
theorem told_changes (op : LwipPoll.Op) (hop : op.changes = true) :
    Respects (Kept Told) (zoom (pollPart (δ := δ)) (op.exec env)) := by
  apply told_zoom
  intro w o h hh
  rcases LwipPoll.changes_coherent env hop hh w with ⟨o',hrun,ho',_⟩ | ⟨e,hrun⟩
  · rw [final_of_ok hrun]
    exact ⟨_,ho'⟩
  · rw [final_of_error hrun]
    exact ⟨h,hh⟩

theorem told_keys {f : Selector δ → Selector δ} (hf : ∀ o, (f o).selector = o.selector) :
    Respects (Kept Told) (modifySelf f) := by
  rintro ⟨w,o⟩ ⟨h,hh⟩
  show ∃ h, (f o).selector.Coherent h
  rw [hf]
  exact ⟨h,hh⟩

theorem told_baseRegister (fileobj : FileObj) (events : ℤ) (data : δ) :
    Respects (Kept Told) (baseRegister fileobj events data) := by
  rintro ⟨w,o⟩ ⟨h,hh⟩
  rw [final,baseRegister_run]
  by_cases hi : invalidEvents events = true
  · rw [if_pos hi]
    exact ⟨h,hh⟩
  · rw [if_neg hi]
    cases o.fileobjLookup w fileobj with
    | error e => exact ⟨h,hh⟩
    | ok fd =>
      by_cases hs : (o.fdToKey.get? fd).isSome = true
      · simp only [hs,if_true]
        exact ⟨h,hh⟩
      · simp only [hs]
        exact ⟨h,hh⟩

theorem told_baseUnregister (fileobj : FileObj) :
    Respects (Kept Told) (baseUnregister (δ := δ) fileobj) := by
  rintro ⟨w,o⟩ ⟨h,hh⟩
  rw [final,baseUnregister_run]
  cases o.fileobjLookup w fileobj with
  | error e => exact ⟨h,hh⟩
  | ok fd =>
    cases hg : o.fdToKey.get? fd with
    | none => simp only [hg]; exact ⟨h,hh⟩
    | some key => simp only [hg]; exact ⟨h,hh⟩

theorem told_undo {m : SelectorM δ Unit} (hm : Respects (Kept Told) m) (fileobj : FileObj) :
    Respects (Kept Told) (tryCatch m fun e => do
      let _ ← baseUnregister fileobj
      throw e) :=
  respects_tryCatch hm fun e => respects_bind (told_baseUnregister fileobj) fun _ =>
    respects_throw e

variable (differs : δ → δ → Except PyErr Bool)

variable (env) in
theorem told_own (op : Op δ) : Respects (Kept Told) (op.exec differs env) := by
  cases op with
  | register fileobj events data =>
    apply respects_discard
    apply respects_bind (told_baseRegister fileobj events data)
    intro key
    apply respects_bind (told_undo _ fileobj)
    · exact fun _ => respects_pure key
    · exact told_changes env (.register (.int key.fd) (pollerEvents events)) rfl
  | unregister fileobj =>
    apply respects_discard
    apply respects_bind (told_baseUnregister fileobj)
    intro key
    apply respects_bind
    · apply respects_tryCatch
      · exact told_changes env (.unregister (.int key.fd)) rfl
      · intro e
        cases e <;> first | exact respects_pure _ | exact respects_throw _
    · exact fun _ => respects_pure key
  | modify fileobj events data =>
    apply respects_discard
    rw [Selector.modify]
    refine respects_bind respects_get fun c => respects_bind (respects_lift _) fun fd => ?_
    cases c.2.fdToKey.get? fd with
    | none => exact respects_throw _
    | some key =>
      have hend : Respects (Kept Told) (do
          let different ← lift (differs data key.data)
          if events ≠ key.events ∨ different = true then
            modifySelf (setKey { key with events, data })
            return { key with events, data }
          else return key : SelectorM δ (SelectorKey δ)) := by
        refine respects_bind (respects_lift _) fun different => ?_
        split_ifs
        · exact respects_bind (told_keys fun _ => rfl) fun _ => respects_pure _
        · exact respects_pure key
      dsimp only
      by_cases hev : events ≠ key.events
      · rw [if_pos hev]
        exact respects_bind (told_undo (told_changes env
          (.modify (.int key.fd) (pollerEvents events)) rfl) fileobj) fun _ => hend
      · rw [if_neg hev]
        exact hend
  | sockets op =>
    rintro ⟨w,o⟩ ⟨h,hh⟩
    rw [Op.exec,final_zoom]
    exact ⟨h,hh⟩

end Told

/-- A program that calls `select` among operations on the selector and on anything else. -/
inductive LoopOp (δ : Type)
  | own (op : Op δ)
  | select (timeout : Option ℚ)
  | elsewhere (op : ApiOp)

section Loop

variable (differs : δ → δ → Except PyErr Bool) (product : ℚ → ℚ)

def LoopOp.exec (env : Env) : LoopOp δ → SelectorM δ Unit
  | .own op => op.exec differs env
  | .select timeout => discard (Selector.select env product timeout)
  | .elsewhere op => zoom .fst (op.exec env)

/-- A run from the start of the process on, with a new selector. -/
def loopRun (env : Env) (lwip : Instance) (ops : List (LoopOp δ)) : World × Selector δ :=
  runAll (ops.map (LoopOp.exec differs product env)) (World.init,init lwip)

/-- No `modify` of the loop raises by comparing data after the poll object got another mask. -/
def LoopOp.Settled : LoopOp δ → World × Selector δ → Prop
  | .own op, c => Selector.Settled differs op c
  | _, _ => True

end Loop

theorem kept_poll (timeout : Timeout) :
    Respects (OnFst ObjectsKept) (LwipPoll.poll env timeout) := by
  apply respects_poll
  intro o fds
  apply respects_checkRetErrno (fun _ _ => objectsKept_same rfl rfl)
    (fun _ _ => objectsKept_same rfl rfl)
  exact respects_bind (respects_lift _) fun _ => fun w => objectsKept_same rfl rfl

theorem kept_calls : LwIP.CallsRespect env ObjectsKept where
  socket := kept_socket
  accept := kept_accept
  close := kept_close
  method s m := respects_method (fun name c _ => kept_checked s name c) m
    fun _ _ _ _ => objectsKept_same rfl rfl

theorem kept_api (op : ApiOp) : Respects ObjectsKept (op.exec env) := by
  cases op with
  | sockets op => exact kept_exec op
  | socketpair lwip family type proto blocking =>
    exact respects_discard (kept_calls.socketpair lwip family type proto blocking)
  | poll o timeout => exact respects_withLocal (respects_discard (kept_poll timeout))

theorem attuned_init (lwip : Instance) : Attuned (World.init,(init lwip : Selector δ)) :=
  ⟨lockstep_init lwip,[],LwipPoll.coherent_init lwip⟩

/-- `select` changes nothing but the array of the poll object. -/
theorem attuned_select (timeout : Option ℚ) {c : World × Selector δ} (hc : Attuned c) :
    Attuned (final (select env product timeout) c) := by
  obtain ⟨w,o⟩ := c
  obtain ⟨h,hh⟩ := hc.coherent
  obtain ⟨hh',hl⟩ :
      (final (LwipPoll.poll env (selectTimeout product timeout)) (w,o.selector)).2.Coherent h ∧
        _ := LwipPoll.poll_keeps hh (selectTimeout product timeout) w
  have hkept : ObjectsKept w
      (final (LwipPoll.poll env (selectTimeout product timeout)) (w,o.selector)).1 :=
    kept_poll (selectTimeout product timeout) (w,o.selector)
  have hlock := hc.lockstep.kept hkept
  rw [final_select]
  refine ⟨⟨hlock.sane,hl.trans hlock.same,fun fd => ?_,hlock.keys⟩,h,hh'⟩
  exact (hh'.masks fd).trans ((hh.masks fd).symm.trans (hlock.masks fd))

variable {differs : δ → δ → Except PyErr Bool}

theorem attuned_exec (op : LoopOp δ) {c : World × Selector δ} (hc : Attuned c)
    (hset : op.Settled differs c) : Attuned (final (op.exec differs product env) c) := by
  cases op with
  | own op =>
    exact ⟨(exec_lockstep differs env op hc.lockstep).2 hset,told_own env differs op c hc.coherent⟩
  | select timeout =>
    rw [LoopOp.exec,final_discard]
    exact attuned_select timeout hc
  | elsewhere op =>
    rw [LoopOp.exec,final_zoom]
    exact ⟨hc.lockstep.kept (kept_api op c.1),hc.coherent⟩

theorem attuned_run (lwip : Instance) {ops : List (LoopOp δ)}
    (hset : ∀ done op, done ++ [op] <+: ops →
      op.Settled differs (loopRun differs product env lwip done)) :
    Attuned (loopRun differs product env lwip ops) :=
  runAll_kept_along (attuned_init lwip)
    (fun done op hdone h => attuned_exec op h (hset done op hdone)) ops (List.prefix_refl ops)

/-- After any run of an event loop, a call of `select` asks lwIP about exactly the registered keys,
each once and with its own events, and returns exactly the keys that lwIP reports something of,
each once, with the events among those reported that it asked for, of which there is one; it
returns an empty list when it was interrupted, and otherwise raises only if lwIP could not be asked
or failed. The registrations stay as they are. -/
theorem select_reports (hq : env.Quiet) (hp : LwipPoll.PollContract env) (hr : ReportsAsked env)
    (lwip : Instance) (ops : List (LoopOp δ))
    (hset : ∀ done op, done ++ [op] <+: ops →
      op.Settled differs (loopRun differs product env lwip done)) (timeout : Option ℚ) :
    Selected env (selectTimeout product timeout) (loopRun differs product env lwip ops)
      (select env product timeout (loopRun differs product env lwip ops)) :=
  select_selected hq hp hr (attuned_run lwip hset) timeout

def oneAsked (events : ℤ) : ℤ :=
  if Flags.Has events POLLOUT then POLLOUT else if Flags.Has events POLLIN then POLLIN else 0

/-- An lwIP that reports one event of those asked for. -/
def eagerReply (_ : List Event) (_ : Instance) : Call → Reply
  | .poll fds _ _ =>
    let revents := fds.map fun p => oneAsked p.events
    { ret := (LwipPoll.ready (LwipPoll.answered fds revents)).length, revents }
  | _ => { ret := 0 }

theorem eagerReply_contract : LwipPoll.PollContract (quietEnv eagerReply) := fun _ _ _ _ _ => rfl

theorem eagerReply_asked : ReportsAsked (quietEnv eagerReply) := by
  intro log inst fds n p hp
  have hown : ∀ fds : List Pollfd, ∀ p ∈ LwipPoll.answered fds (fds.map fun p => oneAsked p.events),
      p.revents = oneAsked p.events := by
    intro fds
    induction fds with
    | nil => exact fun _ h => nomatch h
    | cons q fds ih =>
      intro p hp
      rcases List.mem_cons.mp hp with rfl | hmem
      · rfl
      · exact ih p hmem
  have hrevents := hown fds p hp
  unfold oneAsked at hrevents
  refine ⟨?_,?_,?_,?_⟩ <;> rw [hrevents] <;> split_ifs with hout hin
  all_goals first | decide | assumption | exact fun h => absurd h (by decide) | exact fun _ => hin |
    exact fun _ => hout

/-- Two keys, the second modified, between calls of `select`; the socket of the first is closed. -/
def loopSample : List (LoopOp String) :=
  [.elsewhere (.sockets (.socket 0 AF_INET SOCK_STREAM 0)),.own (.register (.socket 0) EVENT_READ "a"),
    .select none,.own (.register (.int 7) EVENT_READ "b"),.select (some (1/2)),
    .own (.modify (.int 7) EVENT_WRITE "c"),.elsewhere (.sockets (.close 0))]

/-- Products with a thousand that are integers are exact. -/
def exactly (s : ℚ) : ℚ := s*1000

theorem select_reports_sample :
    Selected (quietEnv eagerReply) (.int 250)
      (loopRun stringsDiffer exactly (quietEnv eagerReply) 0 loopSample)
      (select (quietEnv eagerReply) exactly (some (1/4))
        (loopRun stringsDiffer exactly (quietEnv eagerReply) 0 loopSample)) := by
  have hset : ∀ (op : LoopOp String) c, op.Settled stringsDiffer c := by
    intro op c
    cases op
    case own op =>
      cases op
      case modify => exact fun _ _ _ _ => ⟨_,rfl⟩
      all_goals trivial
    all_goals trivial
  have h : Selected (quietEnv eagerReply) (selectTimeout exactly (some (1/4)))
      (loopRun stringsDiffer exactly (quietEnv eagerReply) 0 loopSample) _ :=
    select_reports (quietEnv_quiet eagerReply) eagerReply_contract eagerReply_asked 0 loopSample
      (fun _ op _ => hset op _) (some (1/4))
  have ht : selectTimeout exactly (some (1/4)) = .int 250 := by
    rw [selectTimeout,if_neg (by norm_num),exactly]
    norm_num
  rwa [ht] at h

/-- The first key is still reported under its number, the second with its new events. -/
example : (value (select (quietEnv eagerReply) exactly (some (1/4)))
    (loopRun stringsDiffer exactly (quietEnv eagerReply) 0 loopSample)) =
      some [(⟨.socket 0,0,EVENT_READ,"a"⟩,EVENT_READ),(⟨.int 7,7,EVENT_WRITE,"c"⟩,EVENT_WRITE)] := by
  decide +kernel

end Selector
end LwipPy
