import LwipPy.PollHistory
import LwipPy.Selector

/-! The arguments `lwip_poll` is called with: what `register` and `modify` let through, what the
timeout becomes, and the array of a poll object with no registrations. -/
namespace LwipPy

open Program

namespace Timeout

/-- The milliseconds asked for; a negative number is no limit. -/
def asked : Timeout → Option ℚ
  | .none => Option.none
  | .int ms => if ms < 0 then Option.none else some ms
  | .float ms => if ms < 0 then Option.none else some ms

/-- The number of milliseconds, rounded up, is a C `int`. -/
def InRange : Timeout → Prop
  | .none => True
  | .int ms => CInt ms
  | .float ms => CInt ⌈ms⌉

def Whole : Timeout → Prop
  | .float _ => False
  | _ => True

end Timeout

/-- A wait of `n` milliseconds, without a limit for a negative `n`, covers the wait asked for. -/
def NotShorter (wait : Option ℚ) (n : ℤ) : Prop := n < 0 ∨ ∃ ms, wait = some ms ∧ ms ≤ n

theorem Timeout.toInt_whole {t : Timeout} (ht : t.InRange) (hw : t.Whole) :
    ∃ n, t.toInt = .ok n ∧ CInt n ∧ NotShorter t.asked n := by
  cases t with
  | none => exact ⟨-1,rfl,⟨by norm_num,by norm_num⟩,.inl (by norm_num)⟩
  | int ms =>
    refine ⟨ms,CInt.toSigned ht,ht,?_⟩
    by_cases hneg : ms < 0
    · exact .inl hneg
    · exact .inr ⟨ms,by simp [asked,hneg],le_rfl⟩
  | float ms => exact hw.elim

theorem Timeout.toInt_float {t : Timeout} (hw : ¬ t.Whole) : t.toInt = .error .typeError := by
  cases t with
  | float ms => rfl
  | none => exact (hw trivial).elim
  | int ms => exact (hw trivial).elim

namespace LwipPoll

/-- Something is registered, and every registration fits. -/
def Encodable (masks : ℤ → Option ℤ) : Prop :=
  (∃ fd m, masks fd = some m) ∧ ∀ fd m, masks fd = some m → Fits fd m

/-- An array of the registrations: `ffi.new` gives no null pointer, so it must have an entry. -/
structure ArrayOk (masks : ℤ → Option ℤ) (fds : List Pollfd) : Prop where
  faithful : Faithful masks fds
  nonempty : 0 < fds.length
  fits : ∀ p ∈ fds, Fits p.fd p.events

theorem arrayOk_iff {masks : ℤ → Option ℤ} {fds : List Pollfd} (h : Faithful masks fds)
    (hfits : ∀ p ∈ fds, Fits p.fd p.events) : ArrayOk masks fds ↔ Encodable masks := by
  constructor
  · rintro ⟨_,hpos,_⟩
    obtain ⟨p,hp⟩ := List.exists_mem_of_length_pos hpos
    refine ⟨⟨p.fd,p.events,(h.entry _ _).mp ⟨p,hp,rfl,rfl⟩⟩,fun fd m hm => ?_⟩
    obtain ⟨p,hp,rfl,rfl⟩ := (h.entry fd m).mpr hm
    exact hfits p hp
  · rintro ⟨⟨fd,m,hm⟩,_⟩
    obtain ⟨p,hp,_⟩ := (h.entry fd m).mpr hm
    exact ⟨h,List.length_pos_of_mem hp,hfits⟩

/-- The array of a poll object, if it can be built; otherwise a registration does not fit. -/
theorem populateFds_fits {o : LwipPoll} {h : List Effect} (hc : o.Coherent h) (w : World) :
    (∃ fds o', populateFds (w,o) = .ok fds (w,o') ∧ o'.lwip = o.lwip ∧
      Faithful (lastMask h) fds ∧ ∀ p ∈ fds, Fits p.fd p.events) ∨
    populateFds (w,o) = .error .overflowError (w,o) ∧ ¬ Encodable (lastMask h) := by
  have hmasks : o.registeredFds.get? = lastMask h := funext hc.masks
  rcases populateFds_coherent hc w with ⟨fds,o',hpop,_,hl,_,hi⟩ | ⟨hpop,herror⟩
  · have hfaith : Faithful (lastMask h) fds := hmasks ▸ hi.faithful
    refine .inl ⟨fds,o',hpop,hl,hfaith,fun p hp => ?_⟩
    have hentry : (p.fd,p.events) ∈ o.registeredFds.entries := by
      rw [o.registeredFds.mem_entries_iff,hmasks]
      exact (hfaith.entry _ _).mp ⟨p,hp,rfl,rfl⟩
    exact (pollfds_ok_iff _).mp ⟨_,hi⟩ _ hentry
  · refine .inr ⟨hpop,fun hall => ?_⟩
    have hok : ∃ fds, pollfds o.registeredFds.entries = .ok fds := by
      refine (pollfds_ok_iff _).mpr fun e he => hall.2 e.1 e.2 ?_
      rw [← hmasks]
      exact (o.registeredFds.mem_entries_iff _ _).mp he
    obtain ⟨fds,hfds⟩ := hok
    cases herror.symm.trans hfds

/-- The only call was `lwip_poll`, inside its contract: an array that is neither null nor empty and
holds the registrations, its length, and a timeout that covers the wait. -/
def Polls (masks : ℤ → Option ℤ) (wait : Option ℚ) (lwip : Instance) (log log' : List Event) :
    Prop :=
  ∃ fds n r, log' = ⟨lwip,none,.poll fds fds.length n,r⟩ :: log ∧ ArrayOk masks fds ∧ CInt n ∧
    NotShorter wait n

variable {env : Env}

theorem polled_log (fds : List Pollfd) (timeout : Timeout) (w : World) (o : LwipPoll) :
    (final (LwipPoll.checkRetErrno env "poll" (lwipPoll env fds timeout)) (w,o)).1.log =
      if Enters env "poll" w then match timeout.toInt with
        | .ok n => pollEvent env fds n w.log o :: w.log
        | .error _ => w.log
      else w.log := by
  by_cases henter : Enters env "poll" w
  · have hrun := polled_enters henter fds timeout o
    rw [if_pos henter]
    cases ht : timeout.toInt with
    | error e =>
      rw [ht] at hrun
      rw [final_of_error hrun,entered_log]
    | ok n =>
      rw [ht] at hrun
      rw [final_of_lift hrun]
      rfl
  · rw [if_neg henter,final_of_error (polled_raises henter fds timeout o)]

theorem not_polls_of_same {masks : ℤ → Option ℤ} {wait : Option ℚ} {lwip : Instance}
    {log : List Event} : ¬ Polls masks wait lwip log log := by
  rintro ⟨fds,n,r,hlog,_⟩
  exact List.cons_ne_self _ _ hlog.symm

variable (env) in
/-- `poll` calls `lwip_poll` inside its contract exactly if there is something to poll and the
timeout it passes covers the wait. -/
theorem polls_iff {o : LwipPoll} {h : List Effect} (hc : o.Coherent h) {timeout : Timeout}
    (ht : timeout.InRange) {wait : Option ℚ} {covered : Prop}
    (hwait : ∀ n, timeout.toInt = .ok n → (NotShorter wait n ↔ covered)) (w : World) :
    Polls (lastMask h) wait o.lwip w.log (final (poll env timeout) (w,o)).1.log ↔
      Enters env "poll" w ∧ timeout.Whole ∧ Encodable (lastMask h) ∧ covered := by
  rcases populateFds_fits hc w with ⟨fds,o',hpop,hl,hfaith,hfits⟩ | ⟨hpop,hno⟩
  · rw [final_poll hpop,polled_log]
    by_cases henter : Enters env "poll" w
    · rw [if_pos henter]
      by_cases hw : timeout.Whole
      · obtain ⟨n,hn,hint,_⟩ := timeout.toInt_whole ht hw
        simp only [hn,pollEvent,hl]
        rw [← arrayOk_iff hfaith hfits,← hwait n hn]
        constructor
        · rintro ⟨fds',n',r,hlog,harray,_,hshort⟩
          have hcall : fds = fds' ∧ n = n' := by
            simp only [List.cons.injEq,Event.mk.injEq,Call.poll.injEq] at hlog
            exact ⟨hlog.1.2.2.1.1,hlog.1.2.2.1.2.2⟩
          obtain ⟨rfl,rfl⟩ := hcall
          exact ⟨henter,hw,harray,hshort⟩
        · rintro ⟨_,_,harray,hshort⟩
          exact ⟨fds,n,_,rfl,harray,hint,hshort⟩
      · rw [Timeout.toInt_float hw]
        exact iff_of_false not_polls_of_same fun h => hw h.2.1
    · rw [if_neg henter]
      exact iff_of_false not_polls_of_same fun h => henter h.1
  · rw [final_of_error (m := poll env timeout) (bind_of_error hpop)]
    exact iff_of_false not_polls_of_same fun h => hno h.2.2.1

/-- lwIP fails when it gets an array and no length. -/
def EmptyFails (env : Env) : Prop :=
  ∀ log inst n, (env.reply log inst (.poll [] 0 n)).ret < 0

/-- A poll object without registrations never returns a list from `poll`. -/
theorem poll_empty (hempty : EmptyFails env) {o : LwipPoll} {h : List Effect}
    (hc : o.Coherent h) (hnone : ∀ fd, lastMask h fd = none) (timeout : Timeout) (w : World) :
    value (poll env timeout) (w,o) = none := by
  rcases populateFds_fits hc w with ⟨fds,o',hpop,hl,hfaith,hfits⟩ | ⟨hpop,hno⟩
  · obtain rfl : fds = [] := by
      refine List.eq_nil_iff_forall_not_mem.mpr fun p hp => ?_
      have hmask := (hfaith.entry p.fd p.events).mp ⟨p,hp,rfl,rfl⟩
      simp [hnone] at hmask
    have hasked : Asked env [] timeout w o' (LwipPoll.checkRetErrno env "poll"
        (lwipPoll env [] timeout) (w,o')) := checkRetErrno_asked [] timeout w o'
    cases hck : LwipPoll.checkRetErrno env "poll" (lwipPoll env [] timeout) (w,o') with
    | error e c => simp [value,poll,bind_apply,hpop,hck]
    | ok r c =>
      simp only [hck,Asked] at hasked
      obtain ⟨_,hret,n,_,hr,_⟩ := hasked
      have hneg := hempty w.log o'.lwip n
      rw [hr] at hret
      exact absurd hret (not_le.mpr hneg)
  · exact value_of_error (bind_of_error hpop)

/-- What does not fit is rejected, with nothing changed. -/
def RejectsUnfit (m : PollM Unit) (fo : FileObj) (mask : ℤ) (c : World × LwipPoll) : Prop :=
  ¬ Fits (number c.1 fo) mask → ∃ e, m c = .error e c

theorem register_rejects_iff {o : LwipPoll} (fo : FileObj) (mask : ℤ) (w : World) :
    RejectsUnfit (register fo mask) fo mask (w,o) ↔
      Fits (number w fo) mask ∨ ∃ e, o.getFd w fo = .error e := by
  rw [RejectsUnfit,register_run]
  cases o.getFd w fo <;> simp

theorem modify_rejects_iff {o : LwipPoll} {h : List Effect} (hc : o.Coherent h) (fo : FileObj)
    (mask : ℤ) (w : World) :
    RejectsUnfit (modify fo mask) fo mask (w,o) ↔
      Fits (number w fo) mask ∨ (∃ e, o.getFd w fo = .error e) ∨
        lastMask h (number w fo) = none := by
  rw [RejectsUnfit,modify_run]
  cases hfd : o.getFd w fo with
  | error e => simp
  | ok fd =>
    obtain ⟨rfl,_⟩ := getFd_number hfd
    rw [← hc.masks]
    cases hg : o.registeredFds.get? (number w fo) with
    | none => simp [hg]
    | some m => simp [hg]

end LwipPoll

namespace Selector

variable {δ : Type} (product : ℚ → ℚ)

def SecondsInRange (timeout : Option ℚ) : Prop :=
  ∀ s, timeout = some s → 0 < s → CInt ⌈product s⌉

/-- The milliseconds passed on cover the seconds asked for: the product was not rounded down to an
integer below the exact one. -/
def Covered (timeout : Option ℚ) : Prop :=
  ∀ s, timeout = some s → 0 < s → NotShorter (some (s*1000)) ⌈product s⌉

variable {product}

theorem selectTimeout_inRange {timeout : Option ℚ} (h : SecondsInRange product timeout) :
    (selectTimeout product timeout).InRange ∧ (selectTimeout product timeout).Whole := by
  cases timeout with
  | none => exact ⟨trivial,trivial⟩
  | some s =>
    rw [selectTimeout]
    split_ifs with hs
    · exact ⟨⟨by norm_num,by norm_num⟩,trivial⟩
    · exact ⟨h s rfl (not_le.mp hs),trivial⟩

theorem selectTimeout_covers (timeout : Option ℚ) {n : ℤ}
    (h : (selectTimeout product timeout).toInt = .ok n) :
    NotShorter (timeout.map fun s => s*1000) n ↔ Covered product timeout := by
  cases timeout with
  | none =>
    cases h
    exact iff_of_true (.inl (by norm_num)) fun _ hs => nomatch hs
  | some s =>
    rw [selectTimeout] at h
    split_ifs at h with hs
    · obtain ⟨rfl,_⟩ := toSigned_ok.mp h
      refine iff_of_true (.inr ⟨s*1000,rfl,?_⟩) ?_
      · rw [Int.cast_zero]
        linarith
      · intro s' hs' hpos
        cases hs'
        exact absurd hs (not_le.mpr hpos)
    · obtain ⟨rfl,_⟩ := toSigned_ok.mp h
      constructor
      · rintro hshort _ ⟨⟩ _
        exact hshort
      · exact fun hcov => hcov s rfl (not_le.mp hs)

theorem select_log (env : Env) (timeout : Option ℚ) (w : World) (self : Selector δ) :
    (final (select env product timeout) (w,self)).1.log =
      (final (LwipPoll.poll env (selectTimeout product timeout)) (w,self.selector)).1.log := by
  cases h : LwipPoll.poll env (selectTimeout product timeout) (w,self.selector) with
  | ok res c =>
    have hzoom : zoom pollPart (LwipPoll.poll env (selectTimeout product timeout)) (w,self) =
        .ok res (c.1,{ self with selector := c.2 }) := zoom_poll_ok h
    rw [final,select,bind_of_ok (tryCatch_of_ok hzoom),final_of_ok h]
    rfl
  | error e c =>
    have hzoom : zoom pollPart (LwipPoll.poll env (selectTimeout product timeout)) (w,self) =
        .error e (c.1,{ self with selector := c.2 }) := zoom_of_error h
    rw [final,select,bind_apply,tryCatch_apply,hzoom,final_of_error h]
    cases e <;> simp only [passInterrupted,throw_apply]
    split_ifs <;> rfl

end Selector

namespace LwipPoll

/-- After any history, `poll` and `select` call `lwip_poll` inside its contract exactly if something
is registered, all of it fits a `struct pollfd`, the timeout of `poll` is no float, and the
milliseconds of `select` were not rounded down below the seconds; without registrations `poll`
never returns. `register` and `modify` reject what does not fit only where they reject the number
anyway. (`Enters` is about the warning on an errno left behind.) -/
theorem poll_marshalling_iff (env : Env) (product : ℚ → ℚ) (ops : List Op) (lwip : Instance)
    (w₀ : World) :
    let c := (history env ops lwip w₀).1
    let masks := lastMask (history env ops lwip w₀).2
    (∀ timeout : Timeout, timeout.InRange →
      (Polls masks timeout.asked lwip c.1.log (final (poll env timeout) c).1.log ↔
        Enters env "poll" c.1 ∧ timeout.Whole ∧ Encodable masks)) ∧
    (∀ (δ : Type) (self : Selector δ) timeout, self.selector = c.2 →
      Selector.SecondsInRange product timeout →
      (Polls masks (timeout.map fun s => s*1000) lwip c.1.log
          (final (Selector.select env product timeout) (c.1,self)).1.log ↔
        Enters env "poll" c.1 ∧ Encodable masks ∧ Selector.Covered product timeout)) ∧
    (EmptyFails env → (∀ fd, masks fd = none) → ∀ timeout, value (poll env timeout) c = none) ∧
    (∀ fo mask, RejectsUnfit (register fo mask) fo mask c ↔
      Fits (number c.1 fo) mask ∨ ∃ e, c.2.getFd c.1 fo = .error e) ∧
    (∀ fo mask, RejectsUnfit (modify fo mask) fo mask c ↔
      Fits (number c.1 fo) mask ∨ (∃ e, c.2.getFd c.1 fo = .error e) ∨
        masks (number c.1 fo) = none) := by
  obtain ⟨hc,hl⟩ : (history env ops lwip w₀).1.2.Coherent _ ∧ _ := history_coherent ops lwip w₀
  refine ⟨fun timeout ht => ?_,fun δ self timeout hself ht => ?_,fun hempty hnone timeout => ?_,
    fun fo mask => register_rejects_iff fo mask _,fun fo mask => modify_rejects_iff hc fo mask _⟩
  · have hcovers : ∀ n, timeout.toInt = .ok n → (NotShorter timeout.asked n ↔ True) := by
      intro n hn
      refine iff_of_true ?_ trivial
      by_cases hw : timeout.Whole
      · obtain ⟨n',hn',_,hshort⟩ := timeout.toInt_whole ht hw
        cases hn.symm.trans hn'
        exact hshort
      · cases hn.symm.trans (Timeout.toInt_float hw)
    have hpolls := polls_iff env hc ht hcovers (history env ops lwip w₀).1.1
    rwa [hl,and_true] at hpolls
  · obtain ⟨hrange,hwhole⟩ := Selector.selectTimeout_inRange ht
    have hpolls := polls_iff env hc hrange (fun _ h => Selector.selectTimeout_covers timeout h)
      (history env ops lwip w₀).1.1
    rw [hl] at hpolls
    rw [Selector.select_log,hself,hpolls]
    simp only [hwhole,true_and]
  · exact poll_empty hempty hc hnone timeout _

/-- One descriptor registered for reading, and a wait of ten milliseconds. -/
theorem poll_marshalling_one :
    ∃ fds n r, (final (poll (quietEnv readyReply) (.int 10))
        (history (quietEnv readyReply) [.register (.int 3) POLLIN] 0 World.init).1).1.log =
      [⟨0,none,.poll fds fds.length n,r⟩] ∧ 0 < fds.length ∧ NotShorter (some 10) n := by
  have heffects : (history (quietEnv readyReply) [.register (.int 3) POLLIN] 0 World.init).2 =
      [.assigned 3 POLLIN] := by decide
  have h := poll_marshalling_iff (quietEnv readyReply) id [.register (.int 3) POLLIN] 0 World.init
  have hencodable : Encodable (lastMask [.assigned 3 POLLIN]) := by
    refine ⟨⟨3,POLLIN,by decide⟩,fun fd m hm => ?_⟩
    simp only [lastMask] at hm
    split_ifs at hm with hfd
    obtain rfl := Option.some.inj hm
    rw [hfd]
    exact ⟨⟨by norm_num,by norm_num⟩,by norm_num [POLLIN],by norm_num [POLLIN]⟩
  have hten : (Timeout.int 10).InRange := ⟨by norm_num,by norm_num⟩
  obtain ⟨fds,n,r,hlog,harray,_,hshort⟩ := (h.1 (.int 10) hten).mpr
    ⟨.inr rfl,trivial,by rw [heffects]; exact hencodable⟩
  refine ⟨fds,n,r,hlog,harray.nonempty,?_⟩
  simpa [Timeout.asked] using hshort

/-- An lwIP that has nothing to report, and fails with `EINVAL` when it gets no length. -/
def einvalReply (_ : List Event) (_ : Instance) : Call → Reply
  | .poll _ nfds _ => if nfds = 0 then { ret := -1, errno := some 22 } else { ret := 0 }
  | _ => { ret := 0 }

/-- The float written `0.1`. -/
def tenth : ℚ := 3602879701896397/36028797018963968

/-- `poll` without registrations raises `OSError`; with one it raises `TypeError` for half a
millisecond, and `OverflowError` if the mask was let through by `register`; and a wait of `0.1`
seconds becomes one of 100 milliseconds, which is what the product is rounded to. -/
theorem poll_fails_marshalling :
    raised (poll (quietEnv einvalReply) (.int 100)) (World.init,init 0) =
      some (.osError (some 22) "LwIP poll returned -1, errno 22: ") ∧
    raised (poll (quietEnv einvalReply) (.float (1/2)))
      (history (quietEnv einvalReply) [.register (.int 3) POLLIN] 0 World.init).1 =
      some .typeError ∧
    raised (register (.int 3) 65536) (World.init,init 0) = none ∧
    raised (poll (quietEnv einvalReply) .none)
      (history (quietEnv einvalReply) [.register (.int 3) 65536] 0 World.init).1 =
      some .overflowError ∧
    Selector.selectTimeout (fun _ => 100) (some tenth) = .int 100 ∧
    ¬ NotShorter (some (tenth*1000)) 100 ∧
    ¬ ∀ (env : Env) (ops : List Op) (lwip : Instance) (w : World) (timeout : Timeout),
      env.Quiet → timeout.InRange →
        Polls (lastMask (history env ops lwip w).2) timeout.asked lwip
          (history env ops lwip w).1.1.log
          (final (poll env timeout) (history env ops lwip w).1).1.log := by
  refine ⟨by decide,by decide,by decide,by decide,?_,?_,fun h => ?_⟩
  · rw [Selector.selectTimeout,if_neg (by norm_num [tenth])]
    norm_num
  · rintro (hneg | ⟨ms,hms,hle⟩)
    · norm_num at hneg
    · cases hms
      norm_num [tenth] at hle
  have hpolls := h (quietEnv einvalReply) [] 0 World.init .none (quietEnv_quiet _) trivial
  obtain ⟨fds,n,r,hlog,harray,_⟩ := hpolls
  obtain ⟨p,hp⟩ := List.exists_mem_of_length_pos harray.nonempty
  have hmask := (harray.faithful.entry p.fd p.events).mp ⟨p,hp,rfl,rfl⟩
  cases hmask

end LwipPoll
end LwipPy
