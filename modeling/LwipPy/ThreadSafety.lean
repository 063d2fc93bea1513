import LwipPy.Library.Protocol
import LwipPy.Threads
import LwipPy.SocketRuns

/-! Threads that make, use and close sockets. "The `close()` method itself is not thread safe": two
that overlap can pass one number to `lwip_close` twice. This is all there is to watch. As long as
no two closings of one object overlap, every descriptor is closed once and while it is open, in any
interleaving with calls of any other methods. -/
namespace LwipPy

open Program Interleaving

/-- What a thread does with sockets. Every method but these is made of calls. -/
inductive ThreadOp
  | call (site : CallSite) (plain : PlainArgs site.args)
  | accept (self : Ref)
  | socket (lwip : Instance) (family type proto : ℤ)
  | close (self : Ref)
  | collect (self : Ref)

inductive ThreadValue
  | reply (r : Reply)
  | object (self : Ref)
  | accepted (self : Ref) (address : Address)
  | nothing

variable (env : Env)

/-- The operation when no other thread runs. -/
def ThreadOp.exec : ThreadOp → PyM ThreadValue
  | .call site _ => .reply <$> site.exec env
  | .accept self => (fun r => .accepted r.1 r.2) <$> Socket.accept env self
  | .socket lwip family type proto => .object <$> LwIP.socket env lwip family type proto
  | .close self => (fun _ => .nothing) <$> Socket.close env self
  | .collect self => (fun _ => .nothing) <$> Socket.collect env self

namespace ThreadM

def acceptSteps (self : Ref) : ThreadM (Ref × Address) := do
  let (sa,addrLen) := SockAddr.createEmptySockaddrPaddrlen
  let k ← atomic (getSocket self)
  let r ← (CallSite.mk self (some "accept") (.ok (.accept addrLen))).after env k
  let s ← atomic (Socket.init k.lwip k.family k.type k.proto r.ret)
  return (s,← Routine.done ((r.name.getD sa).unparseAddress env.host))

def socketSteps (lwip : Instance) (family type proto : ℤ) : ThreadM Ref := do
  let r ← checkRetErrno env "socket" do
    let call ← Routine.done (LwIP.socketCall family type proto)
    atomic (enter env lwip none call)
  atomic (Socket.init lwip family type proto r.ret)

/-- Between the test of `_s` and the end of `finally`, other threads can run four times and more. -/
def closeSteps (self : Ref) : ThreadM Unit := do
  let k ← atomic (getSocket self)
  if 0 ≤ k.s then
    Routine.andFinally
      (do let _ ← (CallSite.mk self (some "close") (.ok .close)).steps env)
      (do
        atomic (Socket.modifySocket self fun k => { k with s := -1 })
        atomic (Socket.modifySocket self fun k => { k with finalizer := none }))

def collectSteps (self : Ref) : ThreadM Unit := do
  let k ← atomic (getSocket self)
  match k.finalizer with
  | some fd => let _ ← atomic (enter env k.lwip (some self) (.on fd .close))
  | none => pure ()
  atomic (Socket.modifySocket self fun k => { k with finalizer := none, collected := true })

end ThreadM

/-- The operation in its steps. -/
def ThreadOp.steps : ThreadOp → ThreadM ThreadValue
  | .call site _ => do return .reply (← site.steps env)
  | .accept self => do
    let r ← ThreadM.acceptSteps env self
    return .accepted r.1 r.2
  | .socket lwip family type proto => do
    return .object (← ThreadM.socketSteps env lwip family type proto)
  | .close self => do
    ThreadM.closeSteps env self
    return .nothing
  | .collect self => do
    ThreadM.collectSteps env self
    return .nothing

theorem run_acceptSteps (self : Ref) :
    (ThreadM.acceptSteps env self).run = zoom view (Socket.accept env self) := by
  have hread : Socket.accept env self = (do
      let (sa,addrLen) := SockAddr.createEmptySockaddrPaddrlen
      let k ← getSocket self
      let r ← checkRetErrno env "accept" (do
        let c ← lift (.ok (.accept addrLen))
        enter env k.lwip (some self) (.on k.s c))
      let s ← Socket.init k.lwip k.family k.type k.proto r.ret
      return (s,← lift ((r.name.getD sa).unparseAddress env.host))) := by
    rw [Socket.accept]
    simp only [checked_reads_first]
    rfl
  rw [hread]
  simp only [ThreadM.acceptSteps,Routine.run_bind,Routine.run_atomic,run_after,zoom_bind,run_return,
    Routine.run_done,zoom_lift]

theorem run_socketSteps (lwip : Instance) (family type proto : ℤ) :
    (ThreadM.socketSteps env lwip family type proto).run =
      zoom view (LwIP.socket env lwip family type proto) := by
  have hfunction : (do
      let call ← Routine.done (LwIP.socketCall family type proto)
      atomic (enter env lwip none call) : ThreadM Reply).run = zoom view (do
        let call ← lift (LwIP.socketCall family type proto)
        enter env lwip none call) := by
    simp only [Routine.run_bind,Routine.run_atomic,Routine.run_done,zoom_bind,zoom_lift]
  simp only [ThreadM.socketSteps,LwIP.socket,Routine.run_bind,Routine.run_atomic,zoom_bind,
    run_checkRetErrno env "socket" hfunction]

theorem zoom_tryFinally {α β : Type} (m : PyM α) (f : PyM β) :
    zoom view (tryFinally m f) = tryFinally (zoom view m) (zoom view f) := by
  funext c
  rw [zoom,tryFinally_apply,tryFinally_apply,zoom]
  cases m (view.read c) with
  | ok a t =>
    dsimp only
    rw [zoom,view.read_write]
    cases f t <;> rfl
  | error e t =>
    dsimp only
    rw [zoom,view.read_write]
    cases f t <;> rfl

theorem run_closeSteps (self : Ref) :
    (ThreadM.closeSteps env self).run = zoom view (Socket.close env self) := by
  have hshut : Socket.modifySocket self (fun k => { k with s := -1, finalizer := none }) = (do
      Socket.modifySocket self fun k => { k with s := -1 }
      Socket.modifySocket self fun k => { k with finalizer := none }) := by
    funext w
    simp [Socket.modifySocket,bind_apply]
  simp only [ThreadM.closeSteps,Socket.close,hshut,Routine.run_bind,Routine.run_atomic,run_steps,
    CallSite.exec,zoom_bind,run_return,run_ite,zoom_ite,Routine.run_andFinally,zoom_tryFinally]

theorem run_collectSteps (self : Ref) :
    (ThreadM.collectSteps env self).run = zoom view (Socket.collect env self) := by
  simp only [ThreadM.collectSteps,Socket.collect,Routine.run_bind,Routine.run_atomic,zoom_bind]
  congr 1
  funext k
  cases k.finalizer with
  | none => simp only [Routine.run_atomic]
  | some fd => simp only [Routine.run_bind,Routine.run_atomic,zoom_bind]

/-- The steps of an operation, with no other thread between them, are the operation. -/
theorem run_threadOp (op : ThreadOp) : (op.steps env).run = zoom view (op.exec env) := by
  cases op with
  | call site plain =>
    simp only [ThreadOp.steps,ThreadOp.exec,Routine.run_bind,run_steps,map_eq_pure_bind,zoom_bind,
      run_return]
  | accept self =>
    simp only [ThreadOp.steps,ThreadOp.exec,Routine.run_bind,run_acceptSteps,map_eq_pure_bind,
      zoom_bind,run_return]
  | socket lwip family type proto =>
    simp only [ThreadOp.steps,ThreadOp.exec,Routine.run_bind,run_socketSteps,map_eq_pure_bind,
      zoom_bind,run_return]
  | close self =>
    simp only [ThreadOp.steps,ThreadOp.exec,Routine.run_bind,run_closeSteps,map_eq_pure_bind,
      zoom_bind,run_return]
  | collect self =>
    simp only [ThreadOp.steps,ThreadOp.exec,Routine.run_bind,run_collectSteps,map_eq_pure_bind,
      zoom_bind,run_return]

namespace Common

def record (s : Common) (e : Event) : Common := { s with log := e::s.log }

def add (s : Common) (k : Socket) : Common :=
  { s with sockets := Function.update s.sockets s.count k, count := s.count+1 }

def put (s : Common) (self : Ref) (k : Socket) : Common :=
  { s with sockets := Function.update s.sockets self k }

section Fields

variable (s : Common) (e : Event) (k : Socket) (self : Ref)

@[simp] theorem record_log : (s.record e).log = e::s.log := rfl
@[simp] theorem record_sockets : (s.record e).sockets = s.sockets := rfl
@[simp] theorem record_count : (s.record e).count = s.count := rfl
@[simp] theorem add_log : (s.add k).log = s.log := rfl
@[simp] theorem add_sockets : (s.add k).sockets = Function.update s.sockets s.count k := rfl
@[simp] theorem add_count : (s.add k).count = s.count+1 := rfl
@[simp] theorem put_log : (s.put self k).log = s.log := rfl
@[simp] theorem put_sockets : (s.put self k).sockets = Function.update s.sockets self k := rfl
@[simp] theorem put_count : (s.put self k).count = s.count := rfl

end Fields

end Common

/-- Where a thread is in its operation. -/
inductive Stage
  | start
  /-- a number to call lwIP with -/
  | read (h : Instance × ℤ)
  /-- a new descriptor that has no object yet -/
  | got (h : Instance × ℤ)
  /-- `close` found the object open -/
  | tested
  /-- `lwip_close` has returned -/
  | called
  /-- `_s` is -1, the finalizer is still armed -/
  | cleared
  | finished

def ThreadOp.on : ThreadOp → Option Ref
  | .call site _ => some site.self
  | .accept self | .close self | .collect self => some self
  | .socket .. => none

def ThreadOp.shuts : ThreadOp → Ref → Prop
  | .close self, i | .collect self, i => i = self
  | _, _ => False

theorem on_of_shuts {op : ThreadOp} {i : Ref} (h : op.shuts i) : op.on = some i := by
  cases op with
  | close self | collect self =>
    cases h
    rfl
  | _ => exact h.elim

/-- The calls other than `lwip_close`, with the number that was read. -/
inductive Inquires : ThreadOp → Stage → Event → Prop
  | call {site : CallSite} {plain : PlainArgs site.args} {h : Instance × ℤ} {c : SockCall}
    (hc : c.plain = true) (r : Reply) :
    Inquires (.call site plain) (.read h) ⟨h.1,some site.self,.on h.2 c,r⟩
  | accept {self : Ref} {h : Instance × ℤ} (l : ℕ) (r : Reply) :
    Inquires (.accept self) (.read h) ⟨h.1,some self,.on h.2 (.accept l),r⟩
  | socket {lwip : Instance} {family type proto d t p : ℤ} (r : Reply) :
    Inquires (.socket lwip family type proto) .start ⟨lwip,none,.socket d t p,r⟩

theorem plain_none {e : Event} {n : ℤ} {c : SockCall} (hcall : e.call = .on n c)
    (hc : c.plain = true) : e.obtained = none ∧ e.closing = none := by
  rw [Event.obtained,Event.closing,hcall]
  cases c with
  | accept => cases hc
  | close => cases hc
  | _ => exact ⟨rfl,rfl⟩

theorem Inquires.closing {op : ThreadOp} {g : Stage} {e : Event} (h : Inquires op g e) :
    e.closing = none := by
  cases h with
  | call hc r => exact (plain_none rfl hc).2
  | accept l r => rfl
  | socket r => rfl

theorem Inquires.not_shuts {op : ThreadOp} {g : Stage} {e : Event} (h : Inquires op g e) (i : Ref) :
    ¬ op.shuts i := by
  cases h <;> exact fun hi => hi

theorem Inquires.owner {op : ThreadOp} {g : Stage} {e : Event} (h : Inquires op g e) {i : Ref}
    (ho : e.owner = some i) : op.on = some i ∧ ∀ n c, e.call = .on n c → g = .read (e.inst,n) := by
  cases h with
  | call hc r =>
    refine ⟨ho,?_⟩
    rintro n c ⟨⟩
    rfl
  | accept l r =>
    refine ⟨ho,?_⟩
    rintro n c ⟨⟩
    rfl
  | socket r => cases ho

theorem obtained_nonneg {e : Event} {h : Instance × ℤ} (ho : e.obtained = some h) : 0 ≤ h.2 := by
  unfold Event.obtained at ho
  split at ho
  all_goals first
    | (split at ho <;> cases ho; assumption)
    | cases ho

/-- What a thread may do on its way through an operation. -/
inductive Moves : ThreadOp → Stage → Common → Stage → Common → Prop
  | silent {op : ThreadOp} {g : Stage} {s : Common} : Moves op g s g s
  | read {op : ThreadOp} {self : Ref} {s : Common} (ho : op.on = some self)
    (hshuts : ¬ op.shuts self) :
    Moves op .start s (.read ((s.sockets self).lwip,(s.sockets self).s)) s
  | ask {op : ThreadOp} {g : Stage} {s : Common} {e : Event} (he : Inquires op g e)
    (hr : e.reply = env.reply s.log e.inst e.call) :
    Moves op g s (e.obtained.elim .finished .got) (s.record e)
  | create {op : ThreadOp} {h : Instance × ℤ} {s : Common} {k : Socket} (hop : ∀ i, ¬ op.shuts i)
    (hk : k.origin = h) (ha : k.Armed) : Moves op (.got h) s .finished (s.add k)
  | test {self : Ref} {s : Common} (hs : 0 ≤ (s.sockets self).s) :
    Moves (.close self) .start s .tested s
  | reread {self : Ref} {s : Common} : Moves (.close self) .tested s
    (.read ((s.sockets self).lwip,(s.sockets self).s)) s
  | armed {self : Ref} {s : Common} {fd : ℤ} (hf : (s.sockets self).finalizer = some fd) :
    Moves (.collect self) .start s (.read ((s.sockets self).lwip,fd)) s
  | disarmed {self : Ref} {s : Common} (hf : (s.sockets self).finalizer = none) :
    Moves (.collect self) .start s .called s
  | close {op : ThreadOp} {self : Ref} {h : Instance × ℤ} {s : Common} (hop : op.shuts self)
    (r : Reply) : Moves op (.read h) s .called (s.record ⟨h.1,some self,.on h.2 .close,r⟩)
  | clear {self : Ref} {s : Common} : Moves (.close self) .called s .cleared
    (s.put self { s.sockets self with s := -1 })
  | detach {self : Ref} {s : Common} : Moves (.close self) .cleared s .finished
    (s.put self { s.sockets self with finalizer := none })
  | gone {self : Ref} {s : Common} : Moves (.collect self) .called s .finished
    (s.put self (s.sockets self).gone)

/-- An operation is on an object that exists; a closing begins when no other one of this object is
under way. -/
def closing : Protocol ThreadOp Stage Common where
  admits s op := ∀ i, op.on = some i → i < s.count ∧ (s.sockets i).collected = false
  beside op op' := ∀ i, op.shuts i → ¬ op'.shuts i
  start := .start
  moves := Moves env
  ends op g := ∀ i, op.shuts i → g = .start ∨ g = .finished

section Follows

variable {env} {op : ThreadOp} {Q : Except PyErr Reply → Stage → Prop} {g : Stage}

variable (env op g) in
/-- The code changes nothing the threads have in common, and returns. -/
abbrev Passes {α : Type} (t : ThreadM α) : Prop :=
  Follows (Moves env op) (fun r g' => g' = g ∧ ∃ a, r = .ok a) g t

theorem passes_atomic {α : Type} {m : PyM α}
    (hkeeps : ∀ c, (view.write c (final m (view.read c))).1 = c.1)
    (hok : ∀ w, ∃ a, result m w = .ok a) : Passes env op g (atomic m) :=
  follows_atomic (fun _ => g) (fun c => by rw [hkeeps c]; exact .silent) fun c => ⟨rfl,hok _⟩

theorem passes_getErrno : Passes env op g (atomic getErrno) :=
  passes_atomic (fun _ => rfl) fun w => ⟨w.errno,rfl⟩

theorem passes_setErrno (errno : ℤ) : Passes env op g (atomic (setErrno errno)) :=
  passes_atomic (fun _ => rfl) fun _ => ⟨⟨⟩,rfl⟩

theorem passes_warn (hq : env.Quiet) (w : Warning) : Passes env op g (atomic (warn env w)) := by
  have hrun : ∀ v, warn env w v = lift (.ok ⟨⟩) { v with warnings := w::v.warnings } := by
    intro v
    rw [warn_run,hq w]
    rfl
  refine passes_atomic (fun _ => by rw [final_of_lift (hrun _)]; rfl) fun v => ⟨⟨⟩,?_⟩
  rw [result,hrun]
  rfl

theorem passes_clearErrno (hq : env.Quiet) (name : String) :
    Passes env op g (ThreadM.clearErrno env name) := by
  refine passes_getErrno.then fun errno => ?_
  by_cases he : errno ≠ 0
  · rw [if_pos he]
    exact (passes_warn hq _).then fun _ => passes_setErrno 0
  · rw [if_neg he]
    exact passes_setErrno 0

theorem follows_checkOutcome (hq : env.Quiet) {name : String} {r : Reply}
    (hok : 0 ≤ r.ret → Q (.ok r) g) (herror : r.ret < 0 → ∀ e, Q (.error e) g) :
    Follows (Moves env op) Q g (ThreadM.checkOutcome env name r) := by
  have hend : Follows (Moves env op) Q g (do
      if r.ret < 0 then Routine.done (.error (.lwipError s!"{name} returnd {r.ret}"))
      return r : ThreadM Reply) := by
    by_cases hr : r.ret < 0
    · rw [if_pos hr]
      exact .done (herror hr _)
    · rw [if_neg hr]
      exact .done (hok (by omega))
  refine passes_getErrno.then fun errno => (passes_setErrno 0).then fun _ => ?_
  by_cases he : errno ≠ 0
  · rw [if_pos he]
    by_cases hr : r.ret < 0
    · rw [if_pos hr]
      exact .done (herror hr _)
    · rw [if_neg hr]
      exact (passes_warn hq _).then fun _ => hend
  · rw [if_neg he]
    exact hend

/-- `check_ret_errno` around a call: `Q` hears of the answer, at the stage that it led to. -/
theorem follows_checkRetErrno (hq : env.Quiet) {name : String} {function : ThreadM Reply}
    {R : Except PyErr Reply → Stage → Prop} (hf : Follows (Moves env op) R g function)
    (hok : ∀ r g, R (.ok r) g → 0 ≤ r.ret → Q (.ok r) g)
    (herror : ∀ r g, R (.ok r) g → r.ret < 0 → ∀ e, Q (.error e) g)
    (hraise : ∀ e g, R (.error e) g → Q (.error e) g) :
    Follows (Moves env op) Q g (ThreadM.checkRetErrno env name function) :=
  (passes_clearErrno hq name).then fun _ => hf.bind (fun r g' hr => follows_checkOutcome hq (hok r g' hr)
    (herror r g' hr)) hraise

theorem follows_enter {α : Type} {Q : Except PyErr Reply → Stage → Prop} {args : Except PyErr α}
    {inst : Instance} {owner : Option Ref} {f : α → Call} (stage : Reply → Stage)
    (hmoves : ∀ a, args = .ok a → ∀ s : Common, Moves env op g s
      (stage (env.reply s.log inst (f a)))
      (s.record ⟨inst,owner,f a,env.reply s.log inst (f a)⟩))
    (hok : ∀ r, Q (.ok r) (stage r)) (herror : ∀ e, args = .error e → Q (.error e) g) :
    Follows (Moves env op) Q g (do
      let c ← Routine.done args
      atomic (enter env inst owner (f c)) : ThreadM Reply) := by
  cases args with
  | error e => exact .done (herror e rfl)
  | ok a =>
    exact follows_atomic (fun c => stage (env.reply c.1.log inst (f a)))
      (fun c => hmoves a rfl c.1) fun c => hok _

theorem follows_after (hq : env.Quiet) {site : CallSite} {k : Socket} (stage : Reply → Stage)
    (hmoves : ∀ c, site.args = .ok c → ∀ s : Common, Moves env op g s
      (stage (env.reply s.log k.lwip (.on k.s c)))
      (s.record ⟨k.lwip,some site.self,.on k.s c,env.reply s.log k.lwip (.on k.s c)⟩))
    (hok : ∀ r, 0 ≤ r.ret ∨ site.name = none → Q (.ok r) (stage r))
    (herror : ∀ r, r.ret < 0 → ∀ e, Q (.error e) (stage r))
    (hargs : ∀ e, site.args = .error e → Q (.error e) g) :
    Follows (Moves env op) Q g (site.after env k) := by
  rw [CallSite.after]
  cases hname : site.name with
  | none => exact follows_enter stage hmoves (fun r => hok r (.inr hname)) hargs
  | some name =>
    refine follows_checkRetErrno hq (R := fun r' g' => (∀ r, r' = .ok r → g' = stage r) ∧
      ∀ e, r' = .error e → Q (.error e) g') (follows_enter stage hmoves ?_ ?_) ?_ ?_ ?_
    · refine fun r => ⟨?_,?_⟩
      · rintro _ ⟨⟩
        rfl
      · rintro _ ⟨⟩
    · refine fun e he => ⟨?_,?_⟩
      · rintro _ ⟨⟩
      · rintro _ ⟨⟩
        exact hargs e he
    · intro r g' hg hr
      rw [hg.1 r rfl]
      exact hok r (.inl hr)
    · intro r g' hg hr
      rw [hg.1 r rfl]
      exact herror r hr
    · exact fun e g' hg => hg.2 e rfl

/-- Reading an object is a move to the stage that what was read leads to. -/
theorem follows_getSocket {β : Type} {Q : Except PyErr β → Stage → Prop} {self : Ref}
    {f : Socket → ThreadM β} (stage : Socket → Stage)
    (hmoves : ∀ s : Common, Moves env op g s (stage (s.sockets self)) s)
    (hf : ∀ k, Follows (Moves env op) Q (stage k) (f k)) :
    Follows (Moves env op) Q g (atomic (getSocket self) >>= f) :=
  .step (fun c => stage (c.1.sockets self)) (fun c => hmoves c.1) fun c => hf (c.1.sockets self)

theorem follows_init {lwip : Instance} {family type proto fd : ℤ} (hop : ∀ i, ¬ op.shuts i)
    (hfd : 0 ≤ fd) : Follows (Moves env op) (fun r g => g = .finished ∧ ∃ a, r = .ok a) (.got (lwip,fd))
      (atomic (Socket.init lwip family type proto fd)) := by
  have hrun : ∀ w, Socket.init lwip family type proto fd w =
      .ok w.count (w.add (Socket.fresh lwip family type proto fd)) := fun w =>
    (Socket.init_run lwip family type proto fd w).trans (if_neg (Int.not_lt.mpr hfd))
  refine follows_atomic (fun _ => .finished) (fun c => ?_) fun c => ⟨rfl,?_⟩
  · rw [final_of_ok (hrun _)]
    exact .create hop rfl ⟨rfl,rfl,rfl⟩
  · rw [result,hrun]
    exact ⟨_,rfl⟩

theorem handed (inst : Instance) (owner : Option Ref) (call : Call) (r : Reply)
    (hcall : (∃ d t p, call = .socket d t p) ∨ ∃ n l, call = .on n (.accept l)) :
    (Event.mk inst owner call r).obtained.elim Stage.finished .got =
      if 0 ≤ r.ret then .got (inst,r.ret) else .finished := by
  rcases hcall with ⟨d,t,p,rfl⟩ | ⟨n,l,rfl⟩
  all_goals
    rw [Event.obtained]
    dsimp only
    split <;> rfl

theorem follows_accept (hq : env.Quiet) (self : Ref) :
    Follows (Moves env (.accept self)) (fun _ _ => True) .start (ThreadM.acceptSteps env self) := by
  refine follows_getSocket (fun k => .read (k.lwip,k.s)) (fun s => .read rfl id) fun k => ?_
  refine (follows_after hq (Q := fun r' g' => ∀ r, r' = .ok r → g' = .got (k.lwip,r.ret) ∧ 0 ≤ r.ret)
    (fun r => if 0 ≤ r.ret then .got (k.lwip,r.ret) else .finished) ?_ ?_ ?_ ?_).bind ?_ ?_
  · rintro c hc s
    cases hc
    rw [← handed k.lwip (some self) (.on k.s (.accept _)) _ (.inr ⟨_,_,rfl⟩)]
    exact .ask (.accept (h := (k.lwip,k.s)) _ _) rfl
  · rintro r hr r' hr'
    cases hr'
    have hret : 0 ≤ r.ret := hr.resolve_right fun h => nomatch h
    exact ⟨if_pos hret,hret⟩
  · rintro r hr e r' ⟨⟩
  · rintro e ⟨⟩
  · intro r g hr
    obtain ⟨rfl,hret⟩ := hr r rfl
    have hinit : Follows (Moves env (.accept self)) (fun r g => g = .finished ∧ ∃ a, r = .ok a)
        (.got (k.lwip,r.ret)) (atomic (Socket.init k.lwip k.family k.type k.proto r.ret)) :=
      follows_init (fun _ h => h) hret
    refine hinit.then fun s => ?_
    cases (r.name.getD _).unparseAddress env.host with
    | ok a => exact .done trivial
    | error e => exact .done trivial
  · exact fun _ _ _ => trivial

theorem follows_socket (hq : env.Quiet) (lwip : Instance) (family type proto : ℤ) :
    Follows (Moves env (.socket lwip family type proto)) (fun _ _ => True) .start
      (ThreadM.socketSteps env lwip family type proto) := by
  refine (follows_checkRetErrno hq (Q := fun r' g' => ∀ r, r' = .ok r →
    g' = .got (lwip,r.ret) ∧ 0 ≤ r.ret) (R := fun r' g' => ∀ r, r' = .ok r →
      g' = if 0 ≤ r.ret then .got (lwip,r.ret) else .finished)
    (follows_enter (f := fun c => c) (fun r => if 0 ≤ r.ret then .got (lwip,r.ret) else .finished)
      ?_ ?_ ?_) ?_ ?_ ?_).bind ?_ ?_
  · intro c hc s
    obtain ⟨d,t,p,rfl⟩ := LwIP.socketCall_ok hc
    rw [← handed lwip none (.socket d t p) _ (.inl ⟨d,t,p,rfl⟩)]
    exact .ask (.socket _) rfl
  · rintro r _ ⟨⟩
    rfl
  · rintro e _ _ ⟨⟩
  · rintro r g hg hr _ ⟨⟩
    exact ⟨(hg r rfl).trans (if_pos hr),hr⟩
  · rintro r g _ _ e _ ⟨⟩
  · rintro e g _ _ ⟨⟩
  · intro r g hr
    obtain ⟨rfl,hret⟩ := hr r rfl
    have hinit : Follows (Moves env (.socket lwip family type proto))
        (fun r g => g = .finished ∧ ∃ a, r = .ok a) (.got (lwip,r.ret))
        (atomic (Socket.init lwip family type proto r.ret)) := follows_init (fun _ h => h) hret
    exact hinit.mono fun _ _ _ => trivial
  · exact fun _ _ _ => trivial

theorem follows_modify {self : Ref} {f : Socket → Socket} {g' : Stage}
    (hmoves : ∀ s : Common, Moves env op g s g' (s.put self (f (s.sockets self)))) :
    Follows (Moves env op) (fun r g => g = g' ∧ ∃ a, r = .ok a) g
      (atomic (Socket.modifySocket self f)) :=
  follows_atomic (fun _ => g') (fun c => hmoves c.1) fun _ => ⟨rfl,⟨⟩,rfl⟩

theorem follows_close (hq : env.Quiet) (self : Ref) :
    Follows (Moves env (.close self)) (fun _ g => g = .start ∨ g = .finished) .start
      (ThreadM.closeSteps env self) := by
  refine follows_getSocket (fun k => if 0 ≤ k.s then .tested else .start) (fun s => ?_) fun k => ?_
  · split
    · next hs => exact .test hs
    · exact .silent
  · by_cases hs : 0 ≤ k.s
    · rw [if_pos hs,if_pos hs]
      refine Follows.andFinally (R := fun _ g => g = .called) ?_ ?_
      · refine Follows.bind (Q := fun _ g => g = .called) ?_ (fun _ _ h => .done h) fun _ _ h => h
        refine follows_getSocket (fun k => .read (k.lwip,k.s)) (fun s => .reread) fun k => ?_
        refine follows_after hq (fun _ => .called) ?_ (fun _ _ => rfl) (fun _ _ _ => rfl) ?_
        · rintro c hc s
          cases hc
          exact .close (h := (k.lwip,k.s)) (show ThreadOp.shuts (.close self) self from rfl) _
        · rintro e ⟨⟩
      · rintro r g rfl
        refine (follows_modify fun _ => .clear).then fun _ => ?_
        exact (follows_modify fun _ => .detach).mono fun _ _ h => .inr h.1
    · rw [if_neg hs,if_neg hs]
      exact .done (.inl rfl)

theorem follows_collect (self : Ref) :
    Follows (Moves env (.collect self)) (fun _ g => g = .start ∨ g = .finished) .start
      (ThreadM.collectSteps env self) := by
  refine follows_getSocket (fun k => k.finalizer.elim .called fun fd => .read (k.lwip,fd))
    (fun s => ?_) fun k => ?_
  · cases hf : (s.sockets self).finalizer with
    | none => exact .disarmed hf
    | some fd => exact .armed hf
  · have hgone : Follows (Moves env (.collect self)) (fun _ g => g = .start ∨ g = .finished) .called
        (atomic (Socket.modifySocket self fun k => { k with finalizer := none, collected := true })) :=
      (follows_modify fun _ => .gone).mono fun _ _ h => .inr h.1
    cases k.finalizer with
    | none => exact hgone
    | some fd =>
      refine Follows.then (k := .called) (follows_atomic (fun _ => .called) (fun c => ?_)
        fun c => ⟨rfl,_,rfl⟩) fun _ => hgone
      exact .close (h := (k.lwip,fd)) (show ThreadOp.shuts (.collect self) self from rfl) _

theorem closing_followed (hq : env.Quiet) : (closing env).Followed (ThreadOp.steps env) := by
  intro op
  cases op with
  | call site plain =>
    have hsite : Follows (Moves env (.call site plain)) (fun _ _ => True) .start (site.steps env) := by
      refine follows_getSocket (fun k => .read (k.lwip,k.s)) (fun s => .read rfl id) fun k => ?_
      refine follows_after hq (fun _ => .finished) ?_ (fun _ _ => trivial) (fun _ _ _ => trivial)
        fun _ _ => trivial
      intro c hc s
      have hask : Inquires (.call site plain) (.read (k.lwip,k.s)) ⟨k.lwip,some site.self,.on k.s c,
          env.reply s.log k.lwip (.on k.s c)⟩ := .call (plain c hc) _
      have hmove : Moves env (.call site plain) _ s _ _ := .ask hask rfl
      rwa [(plain_none rfl (plain c hc)).1] at hmove
    refine hsite.bind (fun _ _ _ => .done fun i h => h.elim) ?_
    exact fun _ _ _ i h => h.elim
  | accept self =>
    refine (follows_accept hq self).bind (fun _ _ _ => .done fun i h => h.elim) ?_
    exact fun _ _ _ i h => h.elim
  | socket lwip family type proto =>
    refine (follows_socket hq lwip family type proto).bind (fun _ _ _ => .done fun i h => h.elim) ?_
    exact fun _ _ _ i h => h.elim
  | close self =>
    refine (follows_close hq self).bind (fun _ _ h => .done fun i _ => h) ?_
    exact fun _ _ h i _ => h
  | collect self =>
    refine (follows_collect self).bind (fun _ _ h => .done fun i _ => h) ?_
    exact fun _ _ h i _ => h

end Follows

/-- The object holds its descriptor and has not passed it to `lwip_close`. -/
def Whole (s : Common) (i : Ref) : Prop := closes i s.log = [] ∧ (s.sockets i).Armed

/-- The object has passed its descriptor to `lwip_close`, once. -/
def PassedOnce (s : Common) (i : Ref) : Prop := closes i s.log = [(s.sockets i).origin]

/-- The object gave its descriptor up. -/
def GivenUp (s : Common) (i : Ref) : Prop := PassedOnce s i ∧ (s.sockets i).Released

/-- What a thread that closes object `i` can rely on, whatever the others do meanwhile. -/
def Relies : ThreadOp → Stage → Common → Ref → Prop
  | _, .start, s, i => (Whole s i ∨ GivenUp s i) ∧ (s.sockets i).collected = false
  | _, .tested, s, i => Whole s i
  | _, .read h, s, i => Whole s i ∧ h = (s.sockets i).origin
  | _, .called, s, i => PassedOnce s i
  | _, .cleared, s, i => PassedOnce s i ∧ (s.sockets i).s = -1
  | _, .finished, s, i => GivenUp s i
  | _, .got _, _, _ => False

/-- The number of the object is the one it was made with, or -1. -/
def Numbered (k : Socket) : Prop :=
  0 ≤ k.descriptor ∧ (k.s = k.descriptor ∨ k.s = -1)

/-- The record of a process in which no number is passed to `lwip_close` twice by its object, or
while it is not open; and any other call on behalf of an object finds its number open, unless the
object has called `lwip_close` already. -/
def Proper : List Event → Prop
  | [] => True
  | e::log => Proper log ∧ ∀ i n c, e.owner = some i → e.call = .on n c → n ≠ -1 →
      (c = .close → closes i log = []) ∧ (closes i log = [] → outstanding log (e.inst,n) = true)

variable {ι : Type} [DecidableEq ι]

/-- Who has an open descriptor: an object, or a thread that was just given it. -/
inductive Keeps (s : Common) (job : Protocol.Jobs ι ThreadOp Stage) : Ref ⊕ ι → Instance × ℤ → Prop
  | object {i : Ref} (hi : i < s.count) (hcl : closes i s.log = []) :
    Keeps s job (.inl i) (s.sockets i).origin
  | thread {j : ι} {op : ThreadOp} {h : Instance × ℤ} (hj : job j = some (op,.got h)) :
    Keeps s job (.inr j) h

/-- What holds between any two steps of any threads. -/
structure Orderly (s : Common) (job : Protocol.Jobs ι ThreadOp Stage) : Prop where
  numbered : ∀ i < s.count, Numbered (s.sockets i)
  ours : ∀ e ∈ s.log, ∀ i, e.owner = some i → i < s.count
  refers : ∀ j op g, job j = some (op,g) → ∀ i, op.on = some i → i < s.count
  apart : ∀ j j' op g op' g', j ≠ j' → job j = some (op,g) → job j' = some (op',g') →
    ∀ i, op.shuts i → ¬ op'.shuts i
  settled : ∀ i < s.count, (∀ j op g, job j = some (op,g) → ¬ op.shuts i) →
    Whole s i ∨ GivenUp s i
  relies : ∀ j op g, job j = some (op,g) → ∀ i, op.shuts i → Relies op g s i
  reading : ∀ j op h, job j = some (op,.read h) → ∀ i, op.on = some i →
    h.1 = (s.sockets i).lwip ∧ (h.2 = (s.sockets i).descriptor ∨ h.2 = -1)
  handed : ∀ j op h, job j = some (op,.got h) → 0 ≤ h.2
  opened : ∀ x h, Keeps s job x h → outstanding s.log h = true
  distinct : ∀ x y h, Keeps s job x h → Keeps s job y h → x = y
  record : ∀ e ∈ s.log, ∀ i n c, e.owner = some i → e.call = .on n c →
    n = -1 ∨ (e.inst,n) = (s.sockets i).origin
  proper : Proper s.log

section Moved

variable {env} {s s' : Common} {job : Protocol.Jobs ι ThreadOp Stage} {j : ι} {op : ThreadOp}
  {g g' : Stage}

theorem update_some {x : Option (ThreadOp × Stage)} {j' : ι} {y : ThreadOp × Stage}
    (h : Function.update job j x j' = some y) : (j' = j ∧ x = some y) ∨ (j' ≠ j ∧ job j' = some y) := by
  by_cases hj : j' = j
  · subst hj
    rw [Function.update_self] at h
    exact .inl ⟨rfl,h⟩
  · rw [Function.update_of_ne hj] at h
    exact .inr ⟨hj,h⟩

/-- The thread goes on to another stage of its operation. -/
abbrev onward (job : Protocol.Jobs ι ThreadOp Stage) (j : ι) (op : ThreadOp) (g' : Stage) :
    Protocol.Jobs ι ThreadOp Stage :=
  Function.update job j (some (op,g'))

theorem onward_op (hj : job j = some (op,g)) {j' : ι} {op' : ThreadOp} {g₁ : Stage}
    (h : onward job j op g' j' = some (op',g₁)) : ∃ g₀, job j' = some (op',g₀) := by
  rcases update_some h with ⟨rfl,heq⟩ | ⟨_,hj'⟩
  · cases heq
    exact ⟨g,hj⟩
  · exact ⟨g₁,hj'⟩

/-- What a move leaves as it is: the objects that the thread does not close, and of all objects
where they came from. -/
structure Frame (op : ThreadOp) (s s' : Common) : Prop where
  count : s.count ≤ s'.count
  others : ∀ i < s.count, ¬ op.shuts i →
    closes i s'.log = closes i s.log ∧ s'.sockets i = s.sockets i
  origins : ∀ i < s.count, (s'.sockets i).origin = (s.sockets i).origin

theorem frame_refl (op : ThreadOp) (s : Common) : Frame op s s :=
  ⟨le_refl _,fun _ _ _ => ⟨rfl,rfl⟩,fun _ _ => rfl⟩

theorem Relies.congr {i : Ref} (hcl : closes i s'.log = closes i s.log)
    (hk : s'.sockets i = s.sockets i) (h : Relies op g s i) : Relies op g s' i := by
  cases g <;> simp only [Relies,Whole,GivenUp,PassedOnce,hcl,hk] at h ⊢ <;> exact h

/-- One move of one thread, from what it does and what it leaves as it is. -/
theorem Orderly.moved (h : Orderly s job) (hj : job j = some (op,g)) (hframe : Frame op s s')
    (hnew : ∀ i, s.count ≤ i → i < s'.count → Whole s' i)
    (hnumbered : ∀ i < s'.count, Numbered (s'.sockets i))
    (hours : ∀ e ∈ s'.log, ∀ i, e.owner = some i → i < s'.count)
    (hrelies : ∀ i, op.shuts i → Relies op g' s' i)
    (hreading : ∀ h, g' = .read h → ∀ i, op.on = some i →
      h.1 = (s.sockets i).lwip ∧ (h.2 = (s.sockets i).descriptor ∨ h.2 = -1))
    (hhanded : ∀ h, g' = .got h → 0 ≤ h.2)
    (houtstanding : ∀ x h, Keeps s' (onward job j op g') x h → outstanding s'.log h = true)
    (hdistinct : ∀ x y h, Keeps s' (onward job j op g') x h → Keeps s' (onward job j op g') y h →
      x = y)
    (hrecord : ∀ e ∈ s'.log, ∀ i n c, e.owner = some i → e.call = .on n c →
      n = -1 ∨ (e.inst,n) = (s'.sockets i).origin)
    (hproper : Proper s'.log) : Orderly s' (onward job j op g') := by
  have hrefers : ∀ j' op' g₁, onward job j op g' j' = some (op',g₁) → ∀ i, op'.on = some i →
      i < s.count := by
    intro j' op' g₁ hj' i hi
    obtain ⟨g₀,hg₀⟩ := onward_op hj hj'
    exact h.refers j' op' g₀ hg₀ i hi
  refine ⟨hnumbered,hours,?_,?_,?_,?_,?_,?_,houtstanding,hdistinct,hrecord,hproper⟩
  · exact fun j' op' g₁ hj' i hi => (hrefers j' op' g₁ hj' i hi).trans_le hframe.count
  · intro j₁ j₂ op₁ g₁ op₂ g₂ hne h₁ h₂
    obtain ⟨_,h₁⟩ := onward_op hj h₁
    obtain ⟨_,h₂⟩ := onward_op hj h₂
    exact h.apart j₁ j₂ op₁ _ op₂ _ hne h₁ h₂
  · intro i hi hno
    rcases Nat.lt_or_ge i s.count with hlt | hge
    · have hshut : ¬ op.shuts i := hno j op g' (Function.update_self ..)
      obtain ⟨hcl,hk⟩ := hframe.others i hlt hshut
      have hsettled := h.settled i hlt fun j' op' g₁ hj' => by
        by_cases hjj : j' = j
        · subst hjj
          rw [hj] at hj'
          cases hj'
          exact hshut
        · exact hno j' op' g₁ (by rw [onward,Function.update_of_ne hjj,hj'])
      simp only [Whole,GivenUp,PassedOnce,hcl,hk] at hsettled ⊢
      exact hsettled
    · exact .inl (hnew i hge hi)
  · intro j' op' g₁ hj' i hi
    rcases update_some hj' with ⟨rfl,heq⟩ | ⟨hne,hj'⟩
    · cases heq
      exact hrelies i hi
    · have hshut : ¬ op.shuts i := fun hop => h.apart j' j op' g₁ op g hne hj' hj i hi hop
      have hlt : i < s.count := h.refers j' op' g₁ hj' i (on_of_shuts hi)
      obtain ⟨hcl,hk⟩ := hframe.others i hlt hshut
      exact (h.relies j' op' g₁ hj' i hi).congr hcl hk
  · intro j' op' x hj' i hi
    have hlt := hrefers j' op' _ hj' i hi
    have horig := hframe.origins i hlt
    rw [show (s'.sockets i).lwip = (s.sockets i).lwip from congrArg Prod.fst horig,
      show (s'.sockets i).descriptor = (s.sockets i).descriptor from congrArg Prod.snd horig]
    rcases update_some hj' with ⟨rfl,heq⟩ | ⟨_,hj'⟩
    · cases heq
      exact hreading x rfl i hi
    · exact h.reading j' op' x hj' i hi
  · intro j' op' x hj'
    rcases update_some hj' with ⟨rfl,heq⟩ | ⟨_,hj'⟩
    · cases heq
      exact hhanded x rfl
    · exact h.handed j' op' x hj'

/-- A move that leaves the record as it is, and gives or takes no descriptor. -/
theorem keeps_quiet (hlog : s'.log = s.log) (hcount : s'.count = s.count)
    (horig : ∀ i < s.count, (s'.sockets i).origin = (s.sockets i).origin)
    (hgot : ∀ h, g' ≠ .got h) {x : Ref ⊕ ι} {h : Instance × ℤ}
    (hx : Keeps s' (onward job j op g') x h) : Keeps s job x h := by
  cases hx with
  | object hi hcl =>
    rw [hcount] at hi
    rw [horig _ hi]
    exact .object hi (hlog ▸ hcl)
  | thread hj' =>
    rcases update_some hj' with ⟨rfl,heq⟩ | ⟨_,hj'⟩
    · cases heq
      exact absurd rfl (hgot _)
    · exact .thread hj'

theorem Orderly.quiet (h : Orderly s job) (hj : job j = some (op,g)) (hlog : s'.log = s.log)
    (hcount : s'.count = s.count) (hframe : Frame op s s')
    (hnumbered : ∀ i < s.count, Numbered (s'.sockets i))
    (hrelies : ∀ i, op.shuts i → Relies op g' s' i)
    (hreading : ∀ h, g' = .read h → ∀ i, op.on = some i →
      h.1 = (s.sockets i).lwip ∧ (h.2 = (s.sockets i).descriptor ∨ h.2 = -1))
    (hgot : ∀ h, g' ≠ .got h) : Orderly s' (onward job j op g') := by
  have hkeeps : ∀ x h, Keeps s' (onward job j op g') x h → Keeps s job x h :=
    fun x h => keeps_quiet hlog hcount hframe.origins hgot
  refine h.moved hj hframe ?_ ?_ ?_ hrelies hreading (fun x hx => absurd hx (hgot x)) ?_ ?_ ?_ ?_
  · intro i hge hi
    omega
  · rwa [hcount]
  · rw [hlog,hcount]
    exact h.ours
  · intro x h' hx
    rw [hlog]
    exact h.opened x h' (hkeeps x h' hx)
  · exact fun x y h' hx hy => h.distinct x y h' (hkeeps x h' hx) (hkeeps y h' hy)
  · intro e he i n c ho hcall
    rw [hlog] at he
    rw [hframe.origins i (h.ours e he i ho)]
    exact h.record e he i n c ho hcall
  · rw [hlog]
    exact h.proper

theorem Orderly.onward (h : Orderly s job) (hj : job j = some (op,g))
    (hrelies : ∀ i, op.shuts i → Relies op g' s i)
    (hreading : ∀ h, g' = .read h → ∀ i, op.on = some i →
      h.1 = (s.sockets i).lwip ∧ (h.2 = (s.sockets i).descriptor ∨ h.2 = -1))
    (hgot : ∀ h, g' ≠ .got h) : Orderly s (onward job j op g') :=
  h.quiet hj rfl rfl (frame_refl op s) h.numbered hrelies hreading hgot

/-- An object that the thread closes changes, but not where it came from. -/
theorem Orderly.put (h : Orderly s job) (hj : job j = some (op,g)) {self : Ref} {k : Socket}
    (hop : op.shuts self) (hk : k.origin = (s.sockets self).origin) (hn : Numbered k)
    (hrelies : Relies op g' (s.put self k) self) (hread : ∀ h, g' ≠ .read h)
    (hgot : ∀ h, g' ≠ .got h) : Orderly (s.put self k) (LwipPy.onward job j op g') := by
  have honly : ∀ i, op.shuts i → i = self := fun i hi =>
    Option.some.inj ((on_of_shuts hi).symm.trans (on_of_shuts hop))
  refine h.quiet hj rfl rfl ⟨le_refl _,?_,?_⟩ ?_ ?_ (fun x hx => absurd hx (hread x)) hgot
  · intro i _ hi
    refine ⟨rfl,?_⟩
    rw [Common.put_sockets,Function.update_of_ne]
    rintro rfl
    exact hi hop
  · intro i _
    by_cases hi : i = self
    · rw [hi,Common.put_sockets,Function.update_self,hk]
    · rw [Common.put_sockets,Function.update_of_ne hi]
  · intro i hi
    by_cases hself : i = self
    · rwa [hself,Common.put_sockets,Function.update_self]
    · rw [Common.put_sockets,Function.update_of_ne hself]
      exact h.numbered i hi
  · intro i hi
    rw [honly i hi]
    exact hrelies

theorem Orderly.asked (hf : FreshDescriptors env) (h : Orderly s job) (hj : job j = some (op,g))
    {e : Event} (he : Inquires op g e) (hr : e.reply = env.reply s.log e.inst e.call) :
    Orderly (s.record e) (LwipPy.onward job j op (e.obtained.elim .finished .got)) := by
  have hcl := he.closing
  have hnumber : ∀ i n c, e.owner = some i → e.call = .on n c →
      i < s.count ∧ (n = -1 ∨ (e.inst,n) = (s.sockets i).origin) := by
    intro i n c ho hcall
    obtain ⟨hon,hg⟩ := he.owner ho
    rw [hg n c hcall] at hj
    obtain ⟨hinst,hn⟩ := h.reading j op _ hj i hon
    exact ⟨h.refers j op _ hj i hon,hn.symm.imp id fun hn => Prod.ext hinst hn⟩
  have hfresh : ∀ x, e.obtained = some x → outstanding s.log x = false := by
    intro x hx
    refine hf s.log e.inst e.owner e.call x ?_
    rw [← hr]
    exact hx
  have hkeeps : ∀ x h', Keeps (s.record e) (LwipPy.onward job j op (e.obtained.elim .finished .got)) x h' →
      (x = .inr j ∧ e.obtained = some h') ∨ Keeps s job x h' := by
    intro x h' hx
    cases hx with
    | object hi hcls => exact .inr (.object hi ((closes_cons_none hcl).symm.trans hcls))
    | thread hj' =>
      rcases update_some hj' with ⟨rfl,heq⟩ | ⟨_,hj'⟩
      · refine .inl ⟨rfl,?_⟩
        cases hobt : e.obtained with
        | none =>
          rw [hobt] at heq
          cases heq
        | some y =>
          rw [hobt] at heq
          cases heq
          rfl
      · exact .inr (.thread hj')
  refine h.moved hj ⟨le_refl _,fun i _ _ => ⟨closes_cons_none hcl,rfl⟩,fun _ _ => rfl⟩ ?_ h.numbered
    ?_ (fun i hi => absurd hi (he.not_shuts i)) ?_ ?_ ?_ ?_ ?_ ?_
  · intro i hge hi
    exact absurd hi (Nat.not_lt.mpr hge)
  · intro e' he' i ho
    rcases List.mem_cons.mp he' with rfl | hmem
    · exact h.refers j op g hj i (he.owner ho).1
    · exact h.ours e' hmem i ho
  · intro x hx
    cases hobt : e.obtained <;> (rw [hobt] at hx; cases hx)
  · intro x hx
    cases hobt : e.obtained with
    | none =>
      rw [hobt] at hx
      cases hx
    | some y =>
      rw [hobt] at hx
      cases hx
      exact obtained_nonneg hobt
  · intro x h' hx
    rw [Common.record_log]
    rcases hkeeps x h' hx with ⟨_,hobt⟩ | hold
    · rw [outstanding,if_pos hobt]
    · have hopen := h.opened x h' hold
      rw [outstanding_cons_other _ (hcl ▸ (Option.some_ne_none h').symm),hopen]
      intro hobt
      rw [hfresh h' hobt] at hopen
      cases hopen
  · intro x y h' hx hy
    have hne : ∀ z, e.obtained = some h' → Keeps s job z h' → False := by
      intro z hobt hz
      have hopen := h.opened z h' hz
      rw [hfresh h' hobt] at hopen
      cases hopen
    rcases hkeeps x h' hx with ⟨rfl,hobt⟩ | hx'
    · rcases hkeeps y h' hy with ⟨rfl,_⟩ | hy'
      · rfl
      · exact (hne y hobt hy').elim
    · rcases hkeeps y h' hy with ⟨rfl,hobt⟩ | hy'
      · exact (hne x hobt hx').elim
      · exact h.distinct x y h' hx' hy'
  · intro e' he' i n c ho hcall
    rcases List.mem_cons.mp he' with rfl | hmem
    · exact (hnumber i n c ho hcall).2
    · exact h.record e' hmem i n c ho hcall
  · refine ⟨h.proper,fun i n c ho hcall hn => ⟨?_,fun hcls => ?_⟩⟩
    · rintro rfl
      rw [Event.closing,hcall] at hcl
      cases hcl
    · obtain ⟨hlt,hnum⟩ := hnumber i n c ho hcall
      rw [hnum.resolve_left hn]
      exact h.opened _ _ (.object hlt hcls)

theorem Orderly.closed (h : Orderly s job) {x : Instance × ℤ} (hj : job j = some (op,.read x))
    {self : Ref} (hop : op.shuts self) (r : Reply) :
    Orderly (s.record ⟨x.1,some self,.on x.2 .close,r⟩) (LwipPy.onward job j op .called) := by
  obtain ⟨hwhole,rfl⟩ := h.relies j op _ hj self hop
  have hlt : self < s.count := h.refers j op _ hj self (on_of_shuts hop)
  have hown : Keeps s job (.inl self) (s.sockets self).origin := .object hlt hwhole.1
  have hkeeps : ∀ y h', Keeps (s.record ⟨(s.sockets self).origin.1,some self,
      .on (s.sockets self).origin.2 .close,r⟩) (LwipPy.onward job j op .called) y h' →
      y ≠ .inl self ∧ Keeps s job y h' := by
    intro y h' hy
    cases hy with
    | object hi hcls =>
      rename_i i
      by_cases his : i = self
      · rw [his,Common.record_log,closes_cons_own rfl rfl] at hcls
        cases hcls
      · rw [Common.record_log,closes_cons_other fun heq => his (Option.some.inj heq).symm] at hcls
        exact ⟨fun heq => his (Sum.inl.inj heq),.object hi hcls⟩
    | thread hj' =>
      rcases update_some hj' with ⟨rfl,heq⟩ | ⟨_,hj'⟩
      · cases heq
      · exact ⟨Sum.inr_ne_inl,.thread hj'⟩
  refine h.moved hj ⟨le_refl _,fun i _ hi => ⟨?_,rfl⟩,fun _ _ => rfl⟩ ?_ h.numbered ?_ ?_
    (fun _ hx => nomatch hx) (fun _ hx => nomatch hx) ?_ ?_ ?_ ?_
  · rw [Common.record_log,closes_cons_other]
    rintro heq
    cases heq
    exact hi hop
  · intro i hge hi
    exact absurd hi (Nat.not_lt.mpr hge)
  · intro e' he' i ho
    rcases List.mem_cons.mp he' with rfl | hmem
    · cases ho
      exact hlt
    · exact h.ours e' hmem i ho
  · intro i hi
    obtain rfl : i = self := Option.some.inj ((on_of_shuts hi).symm.trans (on_of_shuts hop))
    change closes i (_::s.log) = _
    rw [closes_cons_own rfl rfl,hwhole.1]
    rfl
  · intro y h' hy
    obtain ⟨hne,hold⟩ := hkeeps y h' hy
    have hobt : (Event.mk (s.sockets self).origin.1 (some self)
      (.on (s.sockets self).origin.2 .close) r).obtained ≠ some h' := Option.some_ne_none h' |>.symm
    rw [Common.record_log,outstanding_cons_other hobt,h.opened y h' hold]
    rintro heq
    cases heq
    exact hne (h.distinct _ _ _ hold hown)
  · exact fun y z h' hy hz => h.distinct y z h' (hkeeps y h' hy).2 (hkeeps z h' hz).2
  · intro e' he' i n c ho hcall
    rcases List.mem_cons.mp he' with rfl | hmem
    · cases ho
      cases hcall
      exact .inr rfl
    · exact h.record e' hmem i n c ho hcall
  · refine ⟨h.proper,?_⟩
    rintro i n c ⟨⟩ ⟨⟩ _
    exact ⟨fun _ => hwhole.1,fun _ => h.opened _ _ hown⟩

/-- A descriptor that was handed out gets its object. -/
theorem Orderly.created (h : Orderly s job) {x : Instance × ℤ} (hj : job j = some (op,.got x))
    (hop : ∀ i, ¬ op.shuts i) {k : Socket} (hk : k.origin = x) (ha : k.Armed) :
    Orderly (s.add k) (LwipPy.onward job j op .finished) := by
  have hold : ∀ i < s.count, (s.add k).sockets i = s.sockets i := fun i hi =>
    Function.update_of_ne (Nat.ne_of_lt hi) ..
  have hnew : (s.add k).sockets s.count = k := Function.update_self ..
  have hdescriptor : 0 ≤ k.descriptor := by
    have hx := h.handed j op x hj
    rwa [← hk] at hx
  have hfresh : closes s.count s.log = [] := closes_of_not_owner fun e he ho =>
    Nat.lt_irrefl _ (h.ours e he _ ho)
  have hkeeps : ∀ y h', Keeps (s.add k) (LwipPy.onward job j op .finished) y h' →
      (y = .inl s.count ∧ h' = x) ∨ (y ≠ .inr j ∧ Keeps s job y h') := by
    intro y h' hy
    cases hy with
    | object hi hcls =>
      rcases Nat.lt_succ_iff_lt_or_eq.mp hi with hlt | rfl
      · rw [hold _ hlt]
        exact .inr ⟨Sum.inl_ne_inr,.object hlt hcls⟩
      · rw [hnew,hk]
        exact .inl ⟨rfl,rfl⟩
    | thread hj' =>
      rcases update_some hj' with ⟨rfl,heq⟩ | ⟨hne,hj'⟩
      · cases heq
      · exact .inr ⟨fun heq => hne (Sum.inr.inj heq),.thread hj'⟩
  have hgiven : Keeps s job (.inr j) x := .thread hj
  refine h.moved hj ⟨Nat.le_succ _,fun i hi _ => ⟨rfl,hold i hi⟩,fun i hi => by rw [hold i hi]⟩ ?_ ?_
    ?_ (fun i hi => absurd hi (hop i)) (fun _ hx => nomatch hx) (fun _ hx => nomatch hx) ?_ ?_ ?_
    h.proper
  · intro i hge hi
    obtain rfl : i = s.count := Nat.le_antisymm (Nat.lt_succ_iff.mp hi) hge
    exact ⟨hfresh,hnew.symm ▸ ha⟩
  · intro i hi
    rcases Nat.lt_succ_iff_lt_or_eq.mp hi with hlt | rfl
    · rw [hold i hlt]
      exact h.numbered i hlt
    · rw [hnew]
      exact ⟨hdescriptor,.inl ha.1⟩
  · exact fun e he i ho => Nat.lt_succ_of_lt (h.ours e he i ho)
  · intro y h' hy
    rcases hkeeps y h' hy with ⟨_,rfl⟩ | ⟨_,hy'⟩
    · exact h.opened _ _ hgiven
    · exact h.opened y h' hy'
  · intro y z h' hy hz
    rcases hkeeps y h' hy with ⟨rfl,rfl⟩ | ⟨hyj,hy'⟩
    · rcases hkeeps z _ hz with ⟨rfl,_⟩ | ⟨hzj,hz'⟩
      · rfl
      · exact absurd (h.distinct _ _ _ hz' hgiven) hzj
    · rcases hkeeps z h' hz with ⟨rfl,rfl⟩ | ⟨_,hz'⟩
      · exact absurd (h.distinct _ _ _ hy' hgiven) hyj
      · exact h.distinct y z h' hy' hz'
  · intro e he i n c ho hcall
    rw [hold i (h.ours e he i ho)]
    exact h.record e he i n c ho hcall

/-- Whatever a thread does next on its way. -/
theorem orderly_moves (hf : FreshDescriptors env) (h : Orderly s job) (hj : job j = some (op,g))
    (hm : Moves env op g s g' s') : Orderly s' (onward job j op g') := by
  cases hm with
  | silent =>
    rw [onward,← hj,Function.update_eq_self]
    exact h
  | @read op self s ho hshuts =>
    have hnone : ∀ i, op.shuts i → i = self := fun i hi =>
      Option.some.inj ((on_of_shuts hi).symm.trans ho)
    refine h.onward hj (fun i hi => absurd (hnone i hi ▸ hi) hshuts) ?_ fun _ hx => nomatch hx
    rintro _ ⟨⟩ i hi
    obtain rfl : i = self := Option.some.inj (hi.symm.trans ho)
    exact ⟨rfl,(h.numbered i (h.refers j op .start hj i ho)).2⟩
  | ask he hr => exact h.asked hf hj he hr
  | create hop hk ha => exact h.created hj hop hk ha
  | @test self s hs =>
    refine h.onward hj ?_ (fun _ hx => nomatch hx) fun _ hx => nomatch hx
    rintro _ rfl
    obtain ⟨hwhole | hgiven,hlive⟩ := h.relies j _ _ hj _ rfl
    · exact hwhole
    · rcases hgiven.2.2 with hneg | hcol
      · omega
      · rw [hcol] at hlive
        cases hlive
  | @reread self s =>
    have hwhole : Whole s self := h.relies j _ _ hj self rfl
    have horig : ((s.sockets self).lwip,(s.sockets self).s) = (s.sockets self).origin := by
      rw [hwhole.2.1]
      rfl
    refine h.onward hj ?_ ?_ fun _ hx => nomatch hx
    · rintro _ rfl
      exact ⟨hwhole,horig⟩
    · rintro _ ⟨⟩ i ⟨⟩
      exact ⟨rfl,.inl hwhole.2.1⟩
  | @armed self s fd hfin =>
    have hwhole : Whole s self := by
      obtain ⟨hwhole | hgiven,_⟩ := h.relies j _ _ hj self rfl
      · exact hwhole
      · rw [hgiven.2.1] at hfin
        cases hfin
    obtain rfl : (s.sockets self).descriptor = fd := Option.some.inj (hwhole.2.2.1.symm.trans hfin)
    refine h.onward hj ?_ ?_ fun _ hx => nomatch hx
    · rintro _ rfl
      exact ⟨hwhole,rfl⟩
    · rintro _ ⟨⟩ i ⟨⟩
      exact ⟨rfl,.inl rfl⟩
  | @disarmed self s hfin =>
    refine h.onward hj ?_ (fun _ hx => nomatch hx) fun _ hx => nomatch hx
    rintro _ rfl
    obtain ⟨hwhole | hgiven,_⟩ := h.relies j _ _ hj _ rfl
    · rw [hwhole.2.2.1] at hfin
      cases hfin
    · exact hgiven.1
  | close hop r => exact h.closed hj hop r
  | @clear self s =>
    have hclosed : PassedOnce s self := h.relies j _ _ hj self rfl
    have hlt := h.refers j _ _ hj self rfl
    refine h.put hj rfl rfl ⟨(h.numbered self hlt).1,.inr rfl⟩ ?_ (fun _ hx => nomatch hx)
      fun _ hx => nomatch hx
    simp only [Relies,PassedOnce,Common.put_log,Common.put_sockets,Function.update_self]
    exact ⟨hclosed,trivial⟩
  | @detach self s =>
    have hclosed : PassedOnce s self ∧ _ := h.relies j _ _ hj self rfl
    have hlt := h.refers j _ _ hj self rfl
    refine h.put hj rfl rfl (h.numbered self hlt) ?_ (fun _ hx => nomatch hx)
      fun _ hx => nomatch hx
    simp only [Relies,GivenUp,PassedOnce,Common.put_log,Common.put_sockets,Function.update_self]
    exact ⟨hclosed.1,rfl,.inl hclosed.2⟩
  | @gone self s =>
    have hclosed : PassedOnce s self := h.relies j _ _ hj self rfl
    have hlt := h.refers j _ _ hj self rfl
    refine h.put hj rfl rfl (h.numbered self hlt) ?_ (fun _ hx => nomatch hx)
      fun _ hx => nomatch hx
    simp only [Relies,GivenUp,PassedOnce,Common.put_log,Common.put_sockets,Function.update_self]
    exact ⟨hclosed,rfl,.inr rfl⟩

theorem Orderly.begun (h : Orderly s job) (hj : job j = none) (hadmits : (closing env).admits s op)
    (hbeside : ∀ j' op' g, job j' = some (op',g) → (closing env).beside op op') :
    Orderly s (LwipPy.onward job j op .start) := by
  have hkeeps : ∀ x h', Keeps s (LwipPy.onward job j op .start) x h' → Keeps s job x h' := by
    intro x h' hx
    exact keeps_quiet rfl rfl (fun _ _ => rfl) (fun _ hx => by cases hx) hx
  refine ⟨h.numbered,h.ours,?_,?_,?_,?_,?_,?_,fun x h' hx => h.opened x h' (hkeeps x h' hx),
    fun x y h' hx hy => h.distinct x y h' (hkeeps x h' hx) (hkeeps y h' hy),h.record,h.proper⟩
  · intro j' op' g' hj' i hi
    rcases update_some hj' with ⟨_,heq⟩ | ⟨_,hj'⟩
    · cases heq
      exact (hadmits i hi).1
    · exact h.refers j' op' g' hj' i hi
  · intro j₁ j₂ op₁ g₁ op₂ g₂ hne h₁ h₂ i hi₁ hi₂
    rcases update_some h₁ with ⟨hj₁,heq₁⟩ | ⟨_,hold₁⟩
    · cases heq₁
      rcases update_some h₂ with ⟨hj₂,_⟩ | ⟨_,hold₂⟩
      · exact hne (hj₁.trans hj₂.symm)
      · exact hbeside j₂ op₂ g₂ hold₂ i hi₁ hi₂
    · rcases update_some h₂ with ⟨_,heq₂⟩ | ⟨_,hold₂⟩
      · cases heq₂
        exact hbeside j₁ op₁ g₁ hold₁ i hi₂ hi₁
      · exact h.apart j₁ j₂ op₁ g₁ op₂ g₂ hne hold₁ hold₂ i hi₁ hi₂
  · intro i hi hno
    refine h.settled i hi fun j' op' g' hj' => hno j' op' g' ?_
    rw [LwipPy.onward,Function.update_of_ne,hj']
    rintro rfl
    rw [hj] at hj'
    cases hj'
  · intro j' op' g' hj' i hi
    rcases update_some hj' with ⟨_,heq⟩ | ⟨_,hj'⟩
    · cases heq
      obtain ⟨hlt,hlive⟩ := hadmits i (on_of_shuts hi)
      exact ⟨h.settled i hlt fun j₁ op₁ g₁ h₁ => hbeside j₁ op₁ g₁ h₁ i hi,hlive⟩
    · exact h.relies j' op' g' hj' i hi
  · intro j' op' x hj'
    rcases update_some hj' with ⟨_,heq⟩ | ⟨_,hj'⟩
    · cases heq
    · exact h.reading j' op' x hj'
  · intro j' op' x hj'
    rcases update_some hj' with ⟨_,heq⟩ | ⟨_,hj'⟩
    · cases heq
    · exact h.handed j' op' x hj'

theorem Orderly.ended (h : Orderly s job) (hj : job j = some (op,g))
    (hends : (closing env).ends op g) : Orderly s (Function.update job j none) := by
  have hold : ∀ {j' y}, Function.update job j none j' = some y → job j' = some y := by
    intro j' y hj'
    rcases update_some hj' with ⟨_,heq⟩ | ⟨_,hj'⟩
    · cases heq
    · exact hj'
  have hkeeps : ∀ x h', Keeps s (Function.update job j none) x h' → Keeps s job x h' := by
    intro x h' hx
    cases hx with
    | object hi hcl => exact .object hi hcl
    | thread hj' => exact .thread (hold hj')
  refine ⟨h.numbered,h.ours,fun j' op' g' hj' => h.refers j' op' g' (hold hj'),
    fun j₁ j₂ op₁ g₁ op₂ g₂ hne h₁ h₂ => h.apart j₁ j₂ op₁ g₁ op₂ g₂ hne (hold h₁) (hold h₂),?_,
    fun j' op' g' hj' => h.relies j' op' g' (hold hj'),
    fun j' op' x hj' => h.reading j' op' x (hold hj'),
    fun j' op' x hj' => h.handed j' op' x (hold hj'),fun x h' hx => h.opened x h' (hkeeps x h' hx),
    fun x y h' hx hy => h.distinct x y h' (hkeeps x h' hx) (hkeeps y h' hy),h.record,h.proper⟩
  intro i hi hno
  by_cases hshut : op.shuts i
  · have hrelies := h.relies j op g hj i hshut
    rcases hends i hshut with rfl | rfl
    · exact hrelies.1
    · exact .inr hrelies
  · refine h.settled i hi fun j' op' g' hj' => ?_
    by_cases hjj : j' = j
    · subst hjj
      rw [hj] at hj'
      cases hj'
      exact hshut
    · exact hno j' op' g' (by rw [Function.update_of_ne hjj,hj'])

theorem orderly_move (hf : FreshDescriptors env) {job' : Protocol.Jobs ι ThreadOp Stage}
    (h : Orderly s job) (hm : (closing env).Move s job s' job') : Orderly s' job' := by
  cases hm with
  | begin hj hadmits hbeside => exact h.begun hj hadmits hbeside
  | move hj hmoves => exact orderly_moves hf h hj hmoves
  | «end» hj hends => exact h.ended hj hends

end Moved

/-- Threads of a process that has no sockets yet, before any of them has begun. -/
structure Fresh {β : Type} (p : Pool ι ThreadOp PyErr Common Local ThreadValue β) : Prop where
  rest : p.AtRest
  log : p.shared.log = []
  count : p.shared.count = 0

omit [DecidableEq ι] in
theorem orderly_start {s : Common} (hlog : s.log = []) (hcount : s.count = 0) :
    Orderly s (fun _ : ι => none) := by
  have hno : ∀ i, ¬ i < s.count := by
    rw [hcount]
    exact Nat.not_lt_zero
  have hempty : ∀ e, e ∉ s.log := by
    rw [hlog]
    exact fun _ => List.not_mem_nil
  refine ⟨fun i hi => absurd hi (hno i),fun e he => absurd he (hempty e),?_,?_,
    fun i hi => absurd hi (hno i),?_,?_,?_,?_,?_,fun e he => absurd he (hempty e),by rw [hlog]; trivial⟩
  · rintro _ _ _ ⟨⟩
  · rintro _ _ _ _ _ _ _ ⟨⟩
  · rintro _ _ _ ⟨⟩
  · rintro _ _ _ ⟨⟩
  · rintro _ _ _ ⟨⟩
  · rintro x h' hx
    cases hx with
    | object hi => exact absurd hi (hno _)
    | thread hj => cases hj
  · rintro x y h' hx
    cases hx with
    | object hi => exact absurd hi (hno _)
    | thread hj => cases hj

omit [DecidableEq ι] in
/-- Every object is either open, or has passed its number to `lwip_close` once. -/
theorem Orderly.closes_le {s : Common} {job : Protocol.Jobs ι ThreadOp Stage} (h : Orderly s job)
    {i : Ref} (hi : i < s.count) : closes i s.log = [] ∨ PassedOnce s i := by
  by_cases hno : ∀ j op g, job j = some (op,g) → ¬ op.shuts i
  · exact (h.settled i hi hno).imp And.left And.left
  · obtain ⟨j,op,g,hj,hshut⟩ : ∃ j op g, job j = some (op,g) ∧ op.shuts i := by
      by_contra hnone
      exact hno fun j op g hj hshut => hnone ⟨j,op,g,hj,hshut⟩
    have hrelies := h.relies j op g hj i hshut
    cases g with
    | start => exact hrelies.1.imp And.left And.left
    | tested => exact .inl hrelies.1
    | read x => exact .inl hrelies.1.1
    | called => exact .inr hrelies
    | cleared => exact .inr hrelies.1
    | finished => exact .inr hrelies.1
    | got x => exact hrelies.elim

/-- Closing is all that threads must not do at the same time. Let any number of threads make
sockets, accept them, call any methods of any objects and close objects, each going on as its own
code decides, with the collector among them, and let the scheduler change threads at any step; only
let no closing of an object begin while another one of that object is under way. Then every object
passes its descriptor to `lwip_close` at most once, and exactly once when no closing of it is under
way any more and its number is -1 or it is collected; every call on behalf of an object passes the
number it was made with, or -1; this number is open in lwIP when it is passed to `lwip_close`, and at
any other call unless the object has called `lwip_close` already. -/
theorem closed_once_by_threads {β : Type} (hq : env.Quiet) (hf : FreshDescriptors env)
    {p q : Pool ι ThreadOp PyErr Common Local ThreadValue β} (hp : Fresh p)
    (h : (closing env).Reaches (ThreadOp.steps env) p q) :
    (∀ i < q.shared.count, closes i q.shared.log = [] ∨
      closes i q.shared.log = [(q.shared.sockets i).origin]) ∧
    (∀ i < q.shared.count, (∀ j op t next, q.place j = .inside op t next → ¬ op.shuts i) →
      (q.shared.sockets i).s = -1 ∨ (q.shared.sockets i).collected = true →
      closes i q.shared.log = [(q.shared.sockets i).origin]) ∧
    (∀ e ∈ q.shared.log, ∀ i n c, e.owner = some i → e.call = .on n c →
      n = -1 ∨ (e.inst,n) = (q.shared.sockets i).origin) ∧
    Proper q.shared.log := by
  obtain ⟨job,htracks,horderly⟩ := Protocol.reaches_kept (closing_followed hq)
    (fun s job s' job' h hm => orderly_move hf h hm) hp.rest (orderly_start hp.log hp.count) h
  refine ⟨fun i hi => horderly.closes_le hi,fun i hi hno hneg => ?_,horderly.record,horderly.proper⟩
  have hsettled := horderly.settled i hi fun j op g hj => by
    have htrack := htracks j
    rw [hj] at htrack
    generalize hplace : q.place j = place at htrack
    cases htrack with
    | inside next _ => exact hno j op _ next hplace
  rcases hsettled with hwhole | hgiven
  · rcases hneg with hneg | hcol
    · have hnum := (horderly.numbered i hi).1
      rw [← hwhole.2.1] at hnum
      omega
    · rw [hwhole.2.2.2] at hcol
      cases hcol
  · exact hgiven.1

/-- One thread makes a socket and closes it, another one sends on it. -/
def closers : Pool Bool ThreadOp PyErr Common Local ThreadValue Unit where
  shared := ⟨[],fun _ => Socket.absent,0⟩
  own _ := ⟨0,[]⟩
  place
    | true => .between (.call (.socket 0 AF_INET SOCK_STREAM 0) fun _ =>
      .call (.close 0) fun _ => .done ⟨⟩)
    | false => .between (.call (.call ⟨0,some "send",.ok (.send [1] 0)⟩ (plainArgs_ok rfl)) fun _ =>
      .done ⟨⟩)

abbrev closersCode : ThreadOp → ThreadM ThreadValue := ThreadOp.steps (quietEnv tableReply)

def closersMade : Pool Bool ThreadOp PyErr Common Local ThreadValue Unit :=
  (closers.step closersCode true).steps closersCode (List.replicate 7 true)

def closersMet : Pool Bool ThreadOp PyErr Common Local ThreadValue Unit :=
  (((closersMade.step closersCode false).steps closersCode [false]).step closersCode true)

def closersEnd : Pool Bool ThreadOp PyErr Common Local ThreadValue Unit :=
  closersMet.steps closersCode (List.replicate 10 true ++ List.replicate 6 false)

theorem closers_fresh : Fresh closers where
  rest b := by cases b <;> exact ⟨_,rfl⟩
  log := rfl
  count := rfl

theorem closers_reach : (closing (quietEnv tableReply)).Reaches closersCode closers closersEnd := by
  have hmade : (closing (quietEnv tableReply)).Reaches closersCode closers closersMade := by
    refine .goesOn (.step .start ?_) rfl
    intro op next hop
    cases hop
    refine ⟨?_,fun b op' t next' hb => ?_⟩
    · rintro i ⟨⟩
    · cases b <;> cases hb
  have hmet : (closing (quietEnv tableReply)).Reaches closersCode closers closersMet := by
    refine .step (.goesOn (.step hmade ?_) rfl) ?_
    · intro op next hop
      cases hop
      refine ⟨?_,fun b op' t next' hb => ?_⟩
      · rintro i ⟨⟩
        exact ⟨Nat.zero_lt_one,rfl⟩
      · cases b <;> cases hb
    · intro op next hop
      cases hop
      refine ⟨?_,fun b op' t next' hb => ?_⟩
      · rintro i ⟨⟩
        exact ⟨Nat.zero_lt_one,rfl⟩
      · cases b <;> cases hb
        exact fun _ _ h => h
  exact hmet.goesOn rfl

theorem closed_once_by_threads_closers :
    closes 0 closersEnd.shared.log = [(0,0)] ∧ Proper closersEnd.shared.log := by
  obtain ⟨_,honce,_,hproper⟩ := closed_once_by_threads _ (quietEnv_quiet tableReply)
    tableReply_fresh closers_fresh closers_reach
  refine ⟨honce 0 Nat.zero_lt_one (fun b op t next hb => ?_) (.inl rfl),hproper⟩
  cases b <;> cases hb

end LwipPy
