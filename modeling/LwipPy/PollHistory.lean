import LwipPy.Poll

/-! Whole histories of one poll object. The registrations it has are told from the history
alone, and the array lwIP is given holds exactly these, whenever it was built. -/
namespace LwipPy
namespace LwipPoll

open Program

/-- The operations on a poll object, and whatever the rest of the program does in between. -/
inductive Op
  | register (fd : FileObj) (eventmask : ℤ)
  | modify (fd : FileObj) (eventmask : ℤ)
  | unregister (fd : FileObj)
  | poll (timeout : Timeout)
  | elsewhere (f : World → World)

/-- The operations that are meant to change the registrations. -/
def Op.changes : Op → Bool
  | .register _ _ | .modify _ _ | .unregister _ => true
  | _ => false

/-- What an operation that returned did to the registrations. -/
inductive Effect
  | assigned (fd eventmask : ℤ)
  | removed (fd : ℤ)
  | nothing
  deriving DecidableEq

/-- The number a file object stands for. -/
def number (w : World) : FileObj → ℤ
  | .int fd => fd
  | .socket k => (w.sockets k).s

def Op.effect (w : World) : Op → Effect
  | .register fd m => .assigned (number w fd) m
  | .modify fd m => .assigned (number w fd) m
  | .unregister fd => .removed (number w fd)
  | .poll _ | .elsewhere _ => .nothing

/-- The mask of the last successful `register` or `modify` of `fd` that no `unregister`
followed; the newest effect comes first. -/
def lastMask : List Effect → ℤ → Option ℤ
  | [], _ => none
  | .assigned fd m :: h, k => if k = fd then some m else lastMask h k
  | .removed fd :: h, k => if k = fd then none else lastMask h k
  | .nothing :: h, k => lastMask h k

variable (env : Env)

def Op.exec : Op → PollM Unit
  | .register fd m => LwipPoll.register fd m
  | .modify fd m => LwipPoll.modify fd m
  | .unregister fd => LwipPoll.unregister fd
  | .poll timeout => discard (LwipPoll.poll env timeout)
  | .elsewhere f => MonadState.modifyGet fun c => (⟨⟩,(f c.1,c.2))

/-- Carry out the operation, and note what it did if it returns. -/
def Op.noted (op : Op) : EStateM PyErr ((World × LwipPoll) × List Effect) Unit := do
  let (c,_) ← get
  zoom .fst (op.exec env)
  zoom .snd (MonadState.modifyGet fun h => (⟨⟩,op.effect c.1 :: h))

/-- A history of operations from a new poll object on. -/
def history (ops : List Op) (lwip : Instance) (w : World) : (World × LwipPoll) × List Effect :=
  runAll (ops.map (Op.noted env)) ((w,init lwip),[])

/-- The entry without the events lwIP reported in it. -/
def blank (p : Pollfd) : Pollfd := ⟨p.fd,p.events,0⟩

/-- `fds` is what a rebuild would give, up to what lwIP wrote to it. -/
def IsImage (d : OrderedDict ℤ ℤ) (fds : List Pollfd) : Prop :=
  pollfds d.entries = .ok (fds.map blank)

/-- One entry for each registration, with its mask, and no other entry. -/
structure Faithful (masks : ℤ → Option ℤ) (fds : List Pollfd) : Prop where
  once : (fds.map Pollfd.fd).Nodup
  entry : ∀ fd m, (∃ p ∈ fds, p.fd = fd ∧ p.events = m) ↔ masks fd = some m

theorem pollfds_ok {es : List (ℤ × ℤ)} {fds : List Pollfd} (h : pollfds es = .ok fds) :
    fds = es.map fun e => ⟨e.1,e.2,0⟩ := by
  induction es generalizing fds with
  | nil =>
    cases h
    rfl
  | cons e es ih =>
    obtain ⟨p,hp,h⟩ := except_bind_ok.mp h
    obtain ⟨ps,hps,h⟩ := except_bind_ok.mp h
    obtain ⟨fd,hfd,hp⟩ := except_bind_ok.mp hp
    obtain ⟨m,hm,hp⟩ := except_bind_ok.mp hp
    have hfd' := (toSigned_ok.mp hfd).1
    have hm' := (toSigned_ok.mp hm).1
    cases h
    cases hp
    rw [List.map_cons,ih hps,hfd',hm']

/-- The number and the mask fit a `struct pollfd`. -/
def Fits (fd m : ℤ) : Prop := CInt fd ∧ -2^15 ≤ m ∧ m < 2^15

theorem pollfd_ok_iff {e : ℤ × ℤ} {p : Pollfd} :
    pollfd e = .ok p ↔ Fits e.1 e.2 ∧ p = ⟨e.1,e.2,0⟩ := by
  rw [pollfd,except_bind_ok]
  constructor
  · rintro ⟨fd,hfd,h⟩
    obtain ⟨m,hm,hp⟩ := except_bind_ok.mp h
    obtain ⟨rfl,hint⟩ := toSigned_ok.mp hfd
    obtain ⟨rfl,hshort⟩ := toSigned_ok.mp hm
    cases hp
    exact ⟨⟨hint,hshort⟩,rfl⟩
  · rintro ⟨⟨hfd,hm⟩,rfl⟩
    exact ⟨_,hfd.toSigned,except_bind_ok.mpr ⟨_,toSigned_ok.mpr ⟨rfl,hm⟩,rfl⟩⟩

theorem pollfds_ok_iff (es : List (ℤ × ℤ)) :
    (∃ fds, pollfds es = .ok fds) ↔ ∀ e ∈ es, Fits e.1 e.2 := by
  induction es with
  | nil => simp [pollfds]
  | cons e es ih =>
    rw [List.forall_mem_cons,← ih]
    constructor
    · rintro ⟨fds,h⟩
      obtain ⟨p,hp,h⟩ := except_bind_ok.mp h
      obtain ⟨ps,hps,_⟩ := except_bind_ok.mp h
      exact ⟨(pollfd_ok_iff.mp hp).1,ps,hps⟩
    · rintro ⟨he,ps,hps⟩
      exact ⟨_,except_bind_ok.mpr ⟨_,pollfd_ok_iff.mpr ⟨he,rfl⟩,except_bind_ok.mpr ⟨ps,hps,rfl⟩⟩⟩

theorem answered_blank (fds : List Pollfd) (revents : List ℤ) :
    (answered fds revents).map blank = fds.map blank := by
  induction fds generalizing revents with
  | nil => rfl
  | cons p fds ih => rw [answered,List.map_cons,List.map_cons,ih,blank,blank]

theorem IsImage.answered {d : OrderedDict ℤ ℤ} {fds : List Pollfd} (h : IsImage d fds)
    (revents : List ℤ) : IsImage d (LwipPoll.answered fds revents) := by
  rw [IsImage,answered_blank]
  exact h

theorem isImage_of_pollfds {d : OrderedDict ℤ ℤ} {fds : List Pollfd}
    (h : pollfds d.entries = .ok fds) : IsImage d fds := by
  have hb : fds.map blank = fds := by
    rw [pollfds_ok h,List.map_map]
    rfl
  rw [IsImage,hb]
  exact h

theorem IsImage.numbers {d : OrderedDict ℤ ℤ} {fds : List Pollfd} (h : IsImage d fds) :
    fds.map Pollfd.fd = d.keys := by
  have hb := congrArg (List.map Pollfd.fd) (pollfds_ok h)
  rw [List.map_map,List.map_map] at hb
  exact hb

theorem IsImage.faithful {d : OrderedDict ℤ ℤ} {fds : List Pollfd} (h : IsImage d fds) :
    Faithful d.get? fds := by
  refine ⟨?_,fun fd m => ?_⟩
  · rw [h.numbers]
    exact d.nodup
  · rw [← d.mem_entries_iff]
    have hmem : (⟨fd,m,0⟩ : Pollfd) ∈ fds.map blank ↔ (fd,m) ∈ d.entries := by
      rw [pollfds_ok h,List.mem_map]
      constructor
      · rintro ⟨e,he,heq⟩
        cases heq
        exact he
      · intro he
        exact ⟨_,he,rfl⟩
    rw [← hmem,List.mem_map]
    constructor
    · rintro ⟨p,hp,rfl,rfl⟩
      exact ⟨p,hp,rfl⟩
    · rintro ⟨p,hp,heq⟩
      cases heq
      exact ⟨p,hp,rfl,rfl⟩

theorem ready_once {fds : List Pollfd} (h : (fds.map Pollfd.fd).Nodup) :
    ((ready fds).map Prod.fst).Nodup := by
  rw [ready,List.map_map]
  exact h.sublist (List.filter_sublist.map Pollfd.fd)

theorem mem_ready {fds : List Pollfd} {fd : ℤ} {event : PollEvent} :
    (fd,event) ∈ ready fds ↔ ∃ p ∈ fds, p.fd = fd ∧ p.revents ≠ 0 ∧ event = .ofInt p.revents := by
  simp only [ready,List.mem_map,List.mem_filter,decide_eq_true_eq]
  constructor
  · rintro ⟨p,⟨hp,hne⟩,heq⟩
    cases heq
    exact ⟨p,hp,rfl,hne,rfl⟩
  · rintro ⟨p,hp,rfl,hne,rfl⟩
    exact ⟨p,⟨hp,hne⟩,rfl⟩

/-- The registrations are the ones of the history, and an array marked fresh shows them. -/
structure Coherent (o : LwipPoll) (h : List Effect) : Prop where
  masks : ∀ k, o.registeredFds.get? k = lastMask h k
  cached : o.fdsFresh = true → ∃ fds, o.fds = some fds ∧ IsImage o.registeredFds fds

theorem coherent_init (lwip : Instance) : (init lwip).Coherent [] :=
  ⟨fun _ => rfl,fun h => nomatch h⟩

theorem Coherent.assign {self : LwipPoll} {h : List Effect} (hc : self.Coherent h) (fd m : ℤ) :
    (self.assign fd m).Coherent (.assigned fd m :: h) := by
  refine ⟨fun k => ?_,fun hf => nomatch hf⟩
  rw [LwipPoll.assign,OrderedDict.get?_set,hc.masks,lastMask]

theorem Coherent.remove {self : LwipPoll} {h : List Effect} (hc : self.Coherent h) (fd : ℤ) :
    (self.remove fd).Coherent (.removed fd :: h) := by
  refine ⟨fun k => ?_,fun hf => nomatch hf⟩
  rw [LwipPoll.remove,OrderedDict.get?_del,hc.masks,lastMask]

theorem Coherent.setFds {self : LwipPoll} {h : List Effect} (hc : self.Coherent h)
    {fds : List Pollfd} (hi : IsImage self.registeredFds fds) : (self.setFds fds).Coherent h :=
  ⟨hc.masks,fun _ => ⟨fds,rfl,hi⟩⟩

theorem validFd_ok {n fd : ℤ} (h : validFd n = .ok fd) : fd = n ∧ 0 ≤ n := by
  unfold validFd at h
  split at h
  · cases h
  · cases h
    exact ⟨rfl,by omega⟩

theorem getFd_int {self : LwipPoll} {w : World} {fd : ℤ} (h : 0 ≤ fd) :
    self.getFd w (.int fd) = .ok fd := by
  rw [getFd,validFd,if_neg (by omega)]

theorem getFd_number {self : LwipPoll} {w : World} {fo : FileObj} {fd : ℤ}
    (h : self.getFd w fo = .ok fd) : fd = number w fo ∧ 0 ≤ fd := by
  cases fo with
  | int n =>
    obtain ⟨rfl,hn⟩ := validFd_ok h
    exact ⟨rfl,hn⟩
  | socket k =>
    rw [getFd] at h
    split at h
    · cases h
    · obtain ⟨rfl,hn⟩ := validFd_ok h
      exact ⟨rfl,hn⟩

theorem register_run (fo : FileObj) (m : ℤ) (w : World) (self : LwipPoll) :
    register fo m (w,self) = match self.getFd w fo with
      | .ok fd => .ok ⟨⟩ (w,self.assign fd m)
      | .error e => .error e (w,self) := by
  cases h : self.getFd w fo <;>
    simp [register,bind_apply,h,modifySelf]

theorem modify_run (fo : FileObj) (m : ℤ) (w : World) (self : LwipPoll) :
    modify fo m (w,self) = match self.getFd w fo with
      | .ok fd =>
        if (self.registeredFds.get? fd).isSome then .ok ⟨⟩ (w,self.assign fd m)
        else .error (.osError (some ENOENT) s!"LwIP poll: fd {fd} not registered") (w,self)
      | .error e => .error e (w,self) := by
  cases h : self.getFd w fo with
  | ok fd =>
    cases hg : self.registeredFds.get? fd <;>
      simp [modify,bind_apply,h,hg,modifySelf]
  | error e => simp [modify,bind_apply,h]

theorem unregister_run (fo : FileObj) (w : World) (self : LwipPoll) :
    unregister fo (w,self) = match self.getFd w fo with
      | .ok fd =>
        if (self.registeredFds.get? fd).isSome then .ok ⟨⟩ (w,self.remove fd)
        else .error .keyError (w,self)
      | .error e => .error e (w,self) := by
  cases h : self.getFd w fo with
  | ok fd =>
    cases hg : self.registeredFds.get? fd <;>
      simp [unregister,bind_apply,h,hg,modifySelf]
  | error e => simp [unregister,bind_apply,h]

theorem pollfd_error {x : ℤ × ℤ} {e : PyErr} (h : pollfd x = .error e) : e = .overflowError := by
  rcases except_bind_error.mp h with h | ⟨fd,_,h⟩
  · exact toSigned_error h
  · rcases except_bind_error.mp h with h | ⟨m,_,h⟩
    · exact toSigned_error h
    · cases h

theorem pollfds_error {es : List (ℤ × ℤ)} {e : PyErr} (h : pollfds es = .error e) :
    e = .overflowError := by
  induction es with
  | nil => cases h
  | cons x es ih =>
    rcases except_bind_error.mp h with h | ⟨p,_,h⟩
    · exact pollfd_error h
    · rcases except_bind_error.mp h with h | ⟨ps,_,h⟩
      · exact ih h
      · cases h

/-- The array `poll` works with shows the registrations, whether it was at hand or not. -/
theorem populateFds_coherent {o : LwipPoll} {h : List Effect} (hc : o.Coherent h) (w : World) :
    (∃ fds o', populateFds (w,o) = .ok fds (w,o') ∧ o'.Coherent h ∧ o'.lwip = o.lwip ∧
      o'.registeredFds = o.registeredFds ∧ IsImage o.registeredFds fds) ∨
    populateFds (w,o) = .error .overflowError (w,o) ∧
      pollfds o.registeredFds.entries = .error .overflowError := by
  by_cases hf : o.fdsFresh = true
  · obtain ⟨fds,hfds,hi⟩ := hc.cached hf
    refine .inl ⟨fds,o,?_,hc,rfl,rfl,hi⟩
    simp [populateFds,bind_apply,hf,hfds]
  · cases hp : pollfds o.registeredFds.entries with
    | ok fds =>
      have hi := isImage_of_pollfds hp
      refine .inl ⟨fds,o.renew fds,?_,⟨hc.masks,fun _ => ⟨fds,rfl,hi⟩⟩,rfl,rfl,hi⟩
      simp [populateFds,bind_apply,map_run,hf,hp,modifySelf]
    | error e =>
      obtain rfl := pollfds_error hp
      refine .inr ⟨?_,rfl⟩
      simp [populateFds,bind_apply,hf,hp]

/-- On success `lwip_poll` returns the number of entries it reports an event in. -/
def PollContract : Prop :=
  ∀ log inst fds n, 0 ≤ (env.reply log inst (.poll fds fds.length n)).ret →
    (env.reply log inst (.poll fds fds.length n)).ret =
      (ready (answered fds (env.reply log inst (.poll fds fds.length n)).revents)).length

/-- `poll` cannot be prepared: a registration or the timeout does not convert. -/
def Unprepared (masks : ℤ → Option ℤ) (timeout : Timeout) (e : PyErr) : Prop :=
  (e = .overflowError ∧ ∃ fd m, masks fd = some m ∧ ¬ Fits fd m) ∨ timeout.toInt = .error e

/-- Why `poll` raises `e` without a call into lwIP: it cannot be prepared, or the warning about an
errno left behind is made an exception. -/
def Uncalled (masks : ℤ → Option ℤ) (timeout : Timeout) (w : World) (e : PyErr) : Prop :=
  Unprepared masks timeout e ∨
    ¬ Enters env "poll" w ∧ e = .runtimeWarning (.errnoBefore w.errno "poll")

/-- The only call into lwIP was `lwip_poll`, on an array that shows the registrations. -/
def Called (masks : ℤ → Option ℤ) (timeout : Timeout) (lwip : Instance) (w : World)
    (log' : List Event) (fds : List Pollfd) (r : Reply) : Prop :=
  ∃ n, timeout.toInt = .ok n ∧ Faithful masks fds ∧
    r = env.reply w.log lwip (.poll fds fds.length n) ∧
    log' = ⟨lwip,none,.poll fds fds.length n,r⟩ :: w.log

/-- How a call of `poll` ends with the registrations `masks`. -/
def Polled (masks : ℤ → Option ℤ) (timeout : Timeout) (lwip : Instance) (w : World) :
    EStateM.Result PyErr (World × LwipPoll) (List (ℤ × PollEvent)) → Prop
  | .ok res c => ∃ fds r, Called env masks timeout lwip w c.1.log fds r ∧ 0 ≤ r.ret ∧
      res = ready (answered fds r.revents)
  | .error e c => c.1.log = w.log ∧ Uncalled env masks timeout w e ∨
      ∃ fds r, Called env masks timeout lwip w c.1.log fds r ∧
        outcome env "poll" r (r.errno.getD 0) = .error e

/-- The list returned has every number once, and is what lwIP wrote to the array. If `poll` raises,
nothing was asked and there is a reason, or `lwip_poll` failed or a warning was made an exception;
the assertions hold. -/
def Sound (masks : ℤ → Option ℤ) (timeout : Timeout) (lwip : Instance) (w : World) :
    EStateM.Result PyErr (World × LwipPoll) (List (ℤ × PollEvent)) → Prop
  | .ok res c => ∃ fds r, Called env masks timeout lwip w c.1.log fds r ∧ 0 ≤ r.ret ∧
      (res.map Prod.fst).Nodup ∧ ∀ fd event, (fd,event) ∈ res ↔
        ∃ p ∈ answered fds r.revents, p.fd = fd ∧ p.revents ≠ 0 ∧ event = .ofInt p.revents
  | .error e c => (c.1.log = w.log ∧ Uncalled env masks timeout w e ∨
        ∃ fds r, Called env masks timeout lwip w c.1.log fds r ∧
          outcome env "poll" r (r.errno.getD 0) = .error e ∧ (env.Quiet → r.ret < 0)) ∧
      ∀ msg, e ≠ .assertionError msg

theorem checkError_ne_assertion {e : PyErr} (h : CheckError e) (msg : String) :
    e ≠ .assertionError msg := by
  rintro rfl
  exact h

theorem toInt_ne_assertion {t : Timeout} {e : PyErr} (h : t.toInt = .error e) (msg : String) :
    e ≠ .assertionError msg := by
  rintro rfl
  cases t with
  | none => cases h
  | int ms => cases toSigned_error h
  | float ms => cases h

variable {env}

theorem lwipPoll_run (fds : List Pollfd) (timeout : Timeout) (w : World) (o : LwipPoll) :
    lwipPoll env fds timeout (w,o) = match timeout.toInt with
      | .ok n =>
        let r := env.reply w.log o.lwip (.poll fds fds.length n)
        .ok r (w.record ⟨o.lwip,none,.poll fds fds.length n,r⟩,
          o.setFds (answered fds r.revents))
      | .error e => .error e (w,o) := by
  cases h : timeout.toInt <;> simp [lwipPoll,bind_apply,map_run,h,zoom_fst_apply,modifySelf]

variable (env) in
/-- `check_ret_errno` around `lwip_poll` on `fds`: the call was made and its answer is in the
array, or it raised before the call, or because of it. -/
def Asked (fds : List Pollfd) (timeout : Timeout) (w : World) (o : LwipPoll) :
    EStateM.Result PyErr (World × LwipPoll) Reply → Prop
  | .ok r c => c.2 = o.setFds (answered fds r.revents) ∧ 0 ≤ r.ret ∧ ∃ n, timeout.toInt = .ok n ∧
      r = env.reply w.log o.lwip (.poll fds fds.length n) ∧
      c.1.log = ⟨o.lwip,none,.poll fds fds.length n,r⟩ :: w.log
  | .error e c => c.2 = o ∧ c.1.log = w.log ∧ (timeout.toInt = .error e ∨
        ¬ Enters env "poll" w ∧ e = .runtimeWarning (.errnoBefore w.errno "poll")) ∨
      ∃ n r, timeout.toInt = .ok n ∧ r = env.reply w.log o.lwip (.poll fds fds.length n) ∧
        c.2 = o.setFds (answered fds r.revents) ∧
        c.1.log = ⟨o.lwip,none,.poll fds fds.length n,r⟩ :: w.log ∧
        outcome env "poll" r (r.errno.getD 0) = .error e

theorem zoom_checkOutcome (name : String) (r : Reply) (t : World) (o : LwipPoll) :
    zoom (.fst : Part (World × LwipPoll) World) (checkOutcome env name r) (t,o) =
      lift (outcome env name r t.errno) (checkedOut name r t,o) := by
  rw [zoom_fst_apply,checkOutcome_apply]
  cases outcome env name r t.errno <;> rfl

variable (env) in
/-- The call of `lwip_poll`. -/
def pollEvent (fds : List Pollfd) (n : ℤ) (log : List Event) (o : LwipPoll) : Event :=
  ⟨o.lwip,none,.poll fds fds.length n,env.reply log o.lwip (.poll fds fds.length n)⟩

/-- `check_ret_errno` around `lwip_poll`, with any filter of the warnings. -/
theorem polled_enters {w : World} (h : Enters env "poll" w) (fds : List Pollfd)
    (timeout : Timeout) (o : LwipPoll) :
    LwipPoll.checkRetErrno env "poll" (lwipPoll env fds timeout) (w,o) =
      match timeout.toInt with
      | .error e => .error e (entered "poll" w,o)
      | .ok n =>
        let e := pollEvent env fds n w.log o
        lift (outcome env "poll" e.reply (e.reply.errno.getD 0))
          (checkedOut "poll" e.reply ((entered "poll" w).record e),
            o.setFds (answered fds e.reply.revents)) := by
  have hclear : zoom (.fst : Part (World × LwipPoll) World) (clearErrno env "poll") (w,o) =
      .ok ⟨⟩ (entered "poll" w,o) := by
    rw [zoom_fst_apply,clearErrno_enters env h]
  rw [LwipPoll.checkRetErrno,bind_of_ok hclear,bind_apply,lwipPoll_run]
  cases timeout.toInt with
  | error e => rfl
  | ok n =>
    dsimp only
    rw [zoom_checkOutcome]
    rfl

theorem polled_raises {w : World} (h : ¬ Enters env "poll" w) (fds : List Pollfd)
    (timeout : Timeout) (o : LwipPoll) :
    LwipPoll.checkRetErrno env "poll" (lwipPoll env fds timeout) (w,o) =
      .error (.runtimeWarning (.errnoBefore w.errno "poll"))
        ({ w with warnings := .errnoBefore w.errno "poll" :: w.warnings },o) := by
  refine bind_of_error ?_
  rw [zoom_fst_apply,clearErrno_raises env h]

theorem checkRetErrno_asked (fds : List Pollfd) (timeout : Timeout) (w : World) (o : LwipPoll) :
    Asked env fds timeout w o
      (LwipPoll.checkRetErrno env "poll" (lwipPoll env fds timeout) (w,o)) := by
  by_cases henter : Enters env "poll" w
  · rw [polled_enters henter]
    cases ht : timeout.toInt with
    | error e => exact .inl ⟨rfl,rfl,.inl ht⟩
    | ok n =>
      dsimp only
      cases ho : outcome env "poll" (pollEvent env fds n w.log o).reply
          ((pollEvent env fds n w.log o).reply.errno.getD 0) with
      | ok r =>
        obtain ⟨rfl,hret⟩ := outcome_ok ho
        exact ⟨rfl,hret,n,ht,rfl,rfl⟩
      | error e => exact .inr ⟨n,_,ht,rfl,rfl,rfl,ho⟩
  · rw [polled_raises henter]
    exact .inl ⟨rfl,rfl,.inr ⟨henter,rfl⟩⟩

theorem final_poll {fds : List Pollfd} {o o' : LwipPoll} {w : World}
    (h : populateFds (w,o) = .ok fds (w,o')) (timeout : Timeout) :
    final (poll env timeout) (w,o) =
      final (LwipPoll.checkRetErrno env "poll" (lwipPoll env fds timeout)) (w,o') := by
  cases hck : LwipPoll.checkRetErrno env "poll" (lwipPoll env fds timeout) (w,o') with
  | error e c => simp [final,poll,bind_apply,h,hck]
  | ok r c =>
    by_cases hn : r.ret = (ready (answered fds r.revents)).length <;>
      simp [final,poll,bind_apply,map_run,h,hck,hn]

/-- `poll` leaves the registrations as they are, and an array that shows them. -/
theorem poll_keeps {o : LwipPoll} {h : List Effect} (hc : o.Coherent h) (timeout : Timeout)
    (w : World) :
    (final (poll env timeout) (w,o)).2.Coherent h ∧
    (final (poll env timeout) (w,o)).2.lwip = o.lwip := by
  rcases populateFds_coherent hc w with ⟨fds,o',hpop,hc',hl,hd,hi⟩ | ⟨hpop,_⟩
  · have hanswered : ∀ revents, (o'.setFds (answered fds revents)).Coherent h := fun revents =>
      hc'.setFds (hd ▸ hi.answered revents)
    have hasked : Asked env fds timeout w o' (LwipPoll.checkRetErrno env "poll"
        (lwipPoll env fds timeout) (w,o')) := checkRetErrno_asked fds timeout w o'
    rw [final_poll hpop,final]
    cases hck : LwipPoll.checkRetErrno env "poll" (lwipPoll env fds timeout) (w,o') with
    | error e c =>
      simp only [hck,Asked] at hasked
      obtain ⟨ho,_⟩ | ⟨n,r,_,_,ho,_⟩ := hasked
      · rw [ho]
        exact ⟨hc',hl⟩
      · rw [ho]
        exact ⟨hanswered _,hl⟩
    | ok r c =>
      simp only [hck,Asked] at hasked
      rw [hasked.1]
      exact ⟨hanswered _,hl⟩
  · rw [final_of_error (m := poll env timeout) (bind_of_error hpop)]
    exact ⟨hc,rfl⟩

/-- A table that cannot be written to an array has an entry that does not fit. -/
theorem unfit_of_error {es : List (ℤ × ℤ)} {e : PyErr} (h : pollfds es = .error e) :
    ∃ x ∈ es, ¬ Fits x.1 x.2 := by
  by_contra hno
  obtain ⟨fds,hfds⟩ := (pollfds_ok_iff es).mpr fun x hx => by_contra fun hx' => hno ⟨x,hx,hx'⟩
  cases h.symm.trans hfds

theorem poll_polled (hp : PollContract env) {o : LwipPoll} {h : List Effect}
    (hc : o.Coherent h) (timeout : Timeout) (w : World) :
    Polled env (lastMask h) timeout o.lwip w (poll env timeout (w,o)) := by
  have hmasks : o.registeredFds.get? = lastMask h := funext hc.masks
  rcases populateFds_coherent hc w with ⟨fds,o',hpop,_,hl,_,hi⟩ | ⟨hpop,herror⟩
  · have hfaith : Faithful (lastMask h) fds := hmasks ▸ hi.faithful
    have hasked : Asked env fds timeout w o' (LwipPoll.checkRetErrno env "poll"
        (lwipPoll env fds timeout) (w,o')) := checkRetErrno_asked fds timeout w o'
    cases hck : LwipPoll.checkRetErrno env "poll" (lwipPoll env fds timeout) (w,o') with
    | error e c =>
      have hrun : poll env timeout (w,o) = .error e c := by
        simp [poll,bind_apply,hpop,hck]
      rw [hrun]
      simp only [hck,Asked,hl] at hasked
      obtain ⟨_,hlog,ht | hw⟩ | ⟨n,r,ht,hr,_,hlog,ho⟩ := hasked
      · exact .inl ⟨hlog,.inl (.inr ht)⟩
      · exact .inl ⟨hlog,.inr hw⟩
      · exact .inr ⟨fds,r,⟨n,ht,hfaith,hr,hlog⟩,ho⟩
    | ok r c =>
      simp only [hck,Asked,hl] at hasked
      obtain ⟨_,hret,n,ht,hr,hlog⟩ := hasked
      have hnready : r.ret = (ready (answered fds r.revents)).length := by
        rw [hr] at hret ⊢
        exact hp _ _ _ _ hret
      have hrun : poll env timeout (w,o) = .ok (ready (answered fds r.revents)) c := by
        simp [poll,bind_apply,hpop,hck,← hnready]
      rw [hrun]
      exact ⟨fds,r,⟨n,ht,hfaith,hr,hlog⟩,hret,rfl⟩
  · rw [poll,bind_of_error hpop]
    obtain ⟨x,hx,hunfit⟩ := unfit_of_error herror
    have hmask : lastMask h x.1 = some x.2 := by
      rw [← hmasks]
      exact (o.registeredFds.mem_entries_iff _ _).mp hx
    exact .inl ⟨rfl,.inl (.inl ⟨rfl,x.1,x.2,hmask,hunfit⟩)⟩

theorem answered_fd (fds : List Pollfd) (revents : List ℤ) :
    (answered fds revents).map Pollfd.fd = fds.map Pollfd.fd := by
  have hb := congrArg (List.map Pollfd.fd) (answered_blank fds revents)
  rw [List.map_map,List.map_map] at hb
  exact hb

theorem uncalled_ne_assertion {masks : ℤ → Option ℤ} {timeout : Timeout} {w : World} {e : PyErr}
    (h : Uncalled env masks timeout w e) (msg : String) : e ≠ .assertionError msg := by
  obtain (⟨rfl,_⟩ | ht) | ⟨_,rfl⟩ := h
  · exact PyErr.noConfusion
  · exact toInt_ne_assertion ht msg
  · exact PyErr.noConfusion

theorem Polled.sound {masks : ℤ → Option ℤ} {timeout : Timeout} {lwip : Instance} {w : World}
    {x : EStateM.Result PyErr (World × LwipPoll) (List (ℤ × PollEvent))}
    (h : Polled env masks timeout lwip w x) : Sound env masks timeout lwip w x := by
  cases x with
  | ok res c =>
    obtain ⟨fds,r,hcall,hret,rfl⟩ := h
    have hfaith : Faithful masks fds := hcall.elim fun _ h => h.2.1
    refine ⟨fds,r,hcall,hret,ready_once ?_,fun fd event => mem_ready⟩
    exact (answered_fd fds r.revents).symm ▸ hfaith.once
  | error e c =>
    rcases h with ⟨hlog,hwhy⟩ | ⟨fds,r,hcall,ho⟩
    · exact ⟨.inl ⟨hlog,hwhy⟩,uncalled_ne_assertion hwhy⟩
    · refine ⟨.inr ⟨fds,r,hcall,ho,fun hq => ?_⟩,checkError_ne_assertion (outcome_error ho)⟩
      rw [outcome_quiet env hq] at ho
      split_ifs at ho with hneg
      exact hneg

variable (env) in
/-- `register`, `modify` and `unregister` either raise and change nothing, or do what the
effect says. -/
theorem changes_coherent {op : Op} (hop : op.changes = true) {o : LwipPoll} {h : List Effect}
    (hc : o.Coherent h) (w : World) :
    (∃ o', op.exec env (w,o) = .ok ⟨⟩ (w,o') ∧ o'.Coherent (op.effect w :: h) ∧
      o'.lwip = o.lwip) ∨
    ∃ e, op.exec env (w,o) = .error e (w,o) := by
  cases op with
  | register fo m =>
    cases hg : o.getFd w fo with
    | ok fd =>
      rw [Op.effect,← (getFd_number hg).1]
      exact .inl ⟨o.assign fd m,by simp [Op.exec,register_run,hg],hc.assign fd m,rfl⟩
    | error e => exact .inr ⟨e,by simp [Op.exec,register_run,hg]⟩
  | modify fo m =>
    cases hg : o.getFd w fo with
    | ok fd =>
      by_cases hs : (o.registeredFds.get? fd).isSome = true
      · rw [Op.effect,← (getFd_number hg).1]
        exact .inl ⟨o.assign fd m,by simp [Op.exec,modify_run,hg,hs],hc.assign fd m,rfl⟩
      · exact .inr ⟨_,by rw [Op.exec,modify_run,hg]; exact if_neg hs⟩
    | error e => exact .inr ⟨e,by simp [Op.exec,modify_run,hg]⟩
  | unregister fo =>
    cases hg : o.getFd w fo with
    | ok fd =>
      by_cases hs : (o.registeredFds.get? fd).isSome = true
      · rw [Op.effect,← (getFd_number hg).1]
        exact .inl ⟨o.remove fd,by simp [Op.exec,unregister_run,hg,hs],hc.remove fd,rfl⟩
      · exact .inr ⟨_,by rw [Op.exec,unregister_run,hg]; exact if_neg hs⟩
    | error e => exact .inr ⟨e,by simp [Op.exec,unregister_run,hg]⟩
  | poll timeout => cases hop
  | elsewhere f => cases hop

theorem noted_coherent (op : Op)
    {c : (World × LwipPoll) × List Effect} (hc : c.1.2.Coherent c.2) :
    (final (op.noted env) c).1.2.Coherent (final (op.noted env) c).2 ∧
    (final (op.noted env) c).1.2.lwip = c.1.2.lwip := by
  obtain ⟨⟨w,o⟩,h⟩ := c
  have hok : ∀ c', op.exec env (w,o) = .ok ⟨⟩ c' →
      final (op.noted env) ((w,o),h) = (c',op.effect w :: h) := by
    intro c' hx
    simp [final,Op.noted,bind_apply,zoom_fst_apply,hx]
    rfl
  have herror : ∀ e c', op.exec env (w,o) = .error e c' →
      final (op.noted env) ((w,o),h) = (c',h) := by
    intro e c' hx
    simp [final,Op.noted,bind_apply,zoom_fst_apply,hx]
  by_cases hop : op.changes = true
  · rcases changes_coherent env hop hc w with ⟨o',hx,hc',hl⟩ | ⟨e,hx⟩
    · rw [hok _ hx]
      exact ⟨hc',hl⟩
    · rw [herror _ _ hx]
      exact ⟨hc,rfl⟩
  · cases op with
    | register fo m | modify fo m | unregister fo => exact absurd rfl hop
    | poll timeout =>
      obtain ⟨hc',hl⟩ : (final (LwipPoll.poll env timeout) (w,o)).2.Coherent h ∧ _ :=
        poll_keeps hc timeout w
      cases hx : LwipPoll.poll env timeout (w,o) with
      | ok res c' =>
        rw [final_of_ok hx] at hc' hl
        rw [hok c' (by simp [Op.exec,discard_run,hx])]
        exact ⟨⟨hc'.masks,hc'.cached⟩,hl⟩
      | error e c' =>
        rw [final_of_error hx] at hc' hl
        rw [herror e c' (by simp [Op.exec,discard_run,hx])]
        exact ⟨hc',hl⟩
    | elsewhere f =>
      rw [hok (f w,o) rfl]
      exact ⟨⟨hc.masks,hc.cached⟩,rfl⟩

theorem history_coherent (ops : List Op) (lwip : Instance) (w : World) :
    (history env ops lwip w).1.2.Coherent (history env ops lwip w).2 ∧
    (history env ops lwip w).1.2.lwip = lwip := by
  refine runAll_kept (I := fun c : (World × LwipPoll) × List Effect =>
      c.1.2.Coherent c.2 ∧ c.1.2.lwip = lwip) ?_ ⟨coherent_init lwip,rfl⟩
  intro m hm c hc
  obtain ⟨op,_,rfl⟩ := List.mem_map.mp hm
  obtain ⟨hc',hl⟩ := noted_coherent op hc.1
  exact ⟨hc',hl.trans hc.2⟩

/-- After any history, the registrations are the ones the history tells; a call of `register`,
`modify` or `unregister` that raises changes nothing; and the array the next call of `poll`
hands to lwIP, cached or not, and the list it returns are the right ones. -/
theorem cache_faithful (hp : PollContract env) (ops : List Op) (lwip : Instance) (w : World) :
    let c := (history env ops lwip w).1
    let masks := lastMask (history env ops lwip w).2
    (∀ fd, c.2.registeredFds.get? fd = masks fd) ∧
    (∀ (op : Op) e c', op.changes = true → op.exec env c = .error e c' → c' = c) ∧
    ∀ timeout, Sound env masks timeout lwip c.1 (poll env timeout c) := by
  obtain ⟨hc,hl⟩ : (history env ops lwip w).1.2.Coherent _ ∧ _ := history_coherent ops lwip w
  refine ⟨hc.masks,?_,?_⟩
  · intro op e c hop hx
    rcases changes_coherent env hop hc (history env ops lwip w).1.1 with ⟨o',hx',_⟩ | ⟨e',hx'⟩
    · cases hx.symm.trans hx'
    · cases hx.symm.trans hx'
      rfl
  · intro timeout
    have hs := (poll_polled hp hc timeout (history env ops lwip w).1.1).sound
    rw [hl] at hs
    exact hs

def readyReply (_ : List Event) (_ : Instance) : Call → Reply
  | .poll fds _ _ =>
    { ret := (ready (answered fds (fds.map Pollfd.events))).length
      revents := fds.map Pollfd.events }
  | _ => { ret := 0 }

theorem readyReply_contract : PollContract (quietEnv readyReply) := fun _ _ _ _ _ => rfl

/-- Registered, polled, modified, and a second descriptor that is gone again. -/
def sampleOps : List Op :=
  [.register (.int 3) POLLIN,.poll .none,.register (.int 5) POLLOUT,.modify (.int 7) POLLIN,
    .poll (.int 10),.modify (.int 3) POLLOUT,.unregister (.int 5)]

theorem cache_faithful_sample :
    lastMask (history (quietEnv readyReply) sampleOps 0 World.init).2 3 = some POLLOUT ∧
    (history (quietEnv readyReply) sampleOps 0 World.init).1.2.registeredFds.get? 3 =
      some POLLOUT ∧
    Sound (quietEnv readyReply)
      (lastMask (history (quietEnv readyReply) sampleOps 0 World.init).2) .none 0
      (history (quietEnv readyReply) sampleOps 0 World.init).1.1
      (poll (quietEnv readyReply) .none
        (history (quietEnv readyReply) sampleOps 0 World.init).1) := by
  have h := cache_faithful readyReply_contract sampleOps 0 World.init
  have h₃ : lastMask (history (quietEnv readyReply) sampleOps 0 World.init).2 3 = some POLLOUT := by
    decide
  exact ⟨h₃,(h.1 3).trans h₃,h.2.2 .none⟩

end LwipPoll
end LwipPy
