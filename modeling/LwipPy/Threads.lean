import LwipPy.Library.Interleaving
import LwipPy.Methods
import LwipPy.Inet

/-! Threads that call methods at the same time. A method works on what the thread has of its own,
`errno` among it, and meets the other threads only in lwIP, which is compiled thread safe: whatever
the scheduler does, all comes to the same as the calls one at a time, each through the whole of
`check_ret_errno`. -/
namespace LwipPy

open Program Interleaving

/-- What the threads of a process have in common. -/
structure Common where
  log : List Event
  sockets : Ref → Socket
  count : ℕ

/-- What a thread has of its own: cffi keeps an `errno` for each. -/
structure Local where
  errno : ℤ
  warnings : List Warning

/-- The world as one thread sees it. -/
def view : Part (Common × Local) World where
  read c := ⟨c.2.errno,c.2.warnings,c.1.log,c.1.sockets,c.1.count⟩
  write _ w := (⟨w.log,w.sockets,w.count⟩,⟨w.errno,w.warnings⟩)
  read_write _ _ := rfl
  write_read _ := rfl
  write_write _ _ _ := rfl

/-- Code of a thread, in the steps that other threads can come between. -/
abbrev ThreadM := Routine PyErr Common Local

abbrev atomic {α : Type} (m : PyM α) : ThreadM α := .atomic view m

variable (env : Env)

namespace ThreadM

/-- `check_ret_errno` up to the call. -/
def clearErrno (functionName : String) : ThreadM Unit := do
  let errno ← atomic getErrno
  if errno ≠ 0 then atomic (warn env (.errnoBefore errno functionName))
  atomic (setErrno 0)

/-- `check_ret_errno` from the return of the function on. -/
def checkOutcome (functionName : String) (r : Reply) : ThreadM Reply := do
  let errno ← atomic getErrno
  atomic (setErrno 0)
  if errno ≠ 0 then
    if r.ret < 0 then
      Routine.done (.error (.osError (some errno)
        s!"LwIP {functionName} returned {r.ret}, errno {errno}: {env.errorText errno}"))
    atomic (warn env (.errnoOnSuccess functionName r.ret errno))
  if r.ret < 0 then Routine.done (.error (.lwipError s!"{functionName} returnd {r.ret}"))
  return r

def checkRetErrno (functionName : String) (function : ThreadM Reply) : ThreadM Reply := do
  clearErrno env functionName
  let r ← function
  checkOutcome env functionName r

end ThreadM

/-- A place where a method calls lwIP: with the name for `check_ret_errno`, or past it. -/
structure CallSite where
  self : Ref
  name : Option String
  args : Except PyErr SockCall

def CallSite.exec (site : CallSite) : PyM Reply :=
  match site.name with
  | some name => Socket.checked env site.self name site.args
  | none => Socket.call env site.self site.args

def CallSite.after (site : CallSite) (k : Socket) : ThreadM Reply :=
  let function : ThreadM Reply := do
    let c ← Routine.done site.args
    atomic (enter env k.lwip (some site.self) (.on k.s c))
  match site.name with
  | some name => ThreadM.checkRetErrno env name function
  | none => function

/-- The call in its steps. Python evaluates `self._s` before it enters `check_ret_errno`. -/
def CallSite.steps (site : CallSite) : ThreadM Reply := do
  let k ← atomic (getSocket site.self)
  site.after env k

theorem run_ite {α : Type} (c : Prop) [Decidable c] (t u : ThreadM α) :
    (if c then t else u : ThreadM α).run = if c then t.run else u.run := by
  split <;> rfl

theorem zoom_ite {α : Type} (c : Prop) [Decidable c] (m n : PyM α) :
    zoom view (if c then m else n) = if c then zoom view m else zoom view n := by
  split <;> rfl

theorem run_raise {α : Type} (e : PyErr) :
    (Routine.done (.error e) : ThreadM α).run = zoom view (throw e) := by
  rw [Routine.run_done]
  exact (zoom_lift view (.error e)).symm

theorem run_return {α : Type} (a : α) : (pure a : ThreadM α).run = zoom view (pure a) :=
  (zoom_pure view a).symm

theorem run_clearErrno (name : String) :
    (ThreadM.clearErrno env name).run = zoom view (clearErrno env name) := by
  simp only [ThreadM.clearErrno,clearErrno,Routine.run_bind,Routine.run_atomic,run_ite,zoom_bind,
    zoom_ite]

theorem run_checkOutcome (name : String) (r : Reply) :
    (ThreadM.checkOutcome env name r).run = zoom view (checkOutcome env name r) := by
  simp only [ThreadM.checkOutcome,checkOutcome,Routine.run_bind,Routine.run_atomic,run_ite,zoom_bind,
    zoom_ite,run_raise,run_return]

theorem run_checkRetErrno (name : String) {function : ThreadM Reply} {m : PyM Reply}
    (h : function.run = zoom view m) :
    (ThreadM.checkRetErrno env name function).run = zoom view (checkRetErrno env name m) := by
  simp only [ThreadM.checkRetErrno,checkRetErrno,Routine.run_bind,zoom_bind,h,run_clearErrno,
    run_checkOutcome]

/-- Nothing comes between the reading of the descriptor and the call when no other thread runs. -/
theorem checked_reads_first (self : Ref) (name : String) (args : Except PyErr SockCall) :
    Socket.checked env self name args = (do
      let k ← getSocket self
      checkRetErrno env name (do
        let c ← lift args
        enter env k.lwip (some self) (.on k.s c))) := by
  funext w
  rw [bind_of_ok (getSocket_apply self w),Socket.checked]
  by_cases h : Enters env name w
  · rw [checkRetErrno_enters env h,checkRetErrno_enters env h]
    rfl
  · rw [checkRetErrno_raises env h,checkRetErrno_raises env h]

theorem run_after (site : CallSite) (k : Socket) : (site.after env k).run = zoom view (do
    let function : PyM Reply := do
      let c ← lift site.args
      enter env k.lwip (some site.self) (.on k.s c)
    match site.name with
    | some name => checkRetErrno env name function
    | none => function) := by
  have hfunction : (do
      let c ← Routine.done site.args
      atomic (enter env k.lwip (some site.self) (.on k.s c)) : ThreadM Reply).run =
        zoom view (do
          let c ← lift site.args
          enter env k.lwip (some site.self) (.on k.s c)) := by
    simp only [Routine.run_bind,Routine.run_atomic,Routine.run_done,zoom_bind,zoom_lift]
  rw [CallSite.after]
  cases site.name with
  | some name => exact run_checkRetErrno env name hfunction
  | none => exact hfunction

/-- The steps of a call, with no other thread between them, are the call. -/
theorem run_steps (site : CallSite) : (site.steps env).run = zoom view (site.exec env) := by
  rw [CallSite.steps,CallSite.exec,Routine.run_bind,Routine.run_atomic]
  simp only [run_after]
  cases site.name with
  | some name =>
    dsimp only
    rw [checked_reads_first,zoom_bind]
  | none =>
    dsimp only
    rw [Socket.call,zoom_bind]

/-- No method that the threads call makes or closes a socket: the objects stay as they are. -/
abbrev objects (c : Common) : Ref → Socket := c.sockets

theorem silent_atomic {α : Type} {m : PyM α}
    (hkeeps : ∀ c, (view.write c (final m (view.read c))).1 = c.1)
    (hown : ∀ s s' l, objects s = objects s' →
      (view.write (s,l) (final m (view.read (s,l)))).2 =
        (view.write (s',l) (final m (view.read (s',l)))).2)
    (hreads : ∀ s s' l, objects s = objects s' →
      result m (view.read (s,l)) = result m (view.read (s',l))) :
    (atomic m).Silent objects :=
  .step ⟨hkeeps,hown,fun s s' l h => by rw [hreads s s' l h]⟩ fun _ => .done _

theorem silent_getErrno : (atomic getErrno).Silent objects :=
  silent_atomic (fun _ => rfl) (fun _ _ _ _ => rfl) fun _ _ _ _ => rfl

theorem silent_setErrno (errno : ℤ) : (atomic (setErrno errno)).Silent objects :=
  silent_atomic (fun _ => rfl) (fun _ _ _ _ => rfl) fun _ _ _ _ => rfl

theorem warn_run (w : Warning) (v : World) :
    warn env w v = lift (if env.warningRaises w then .error (.runtimeWarning w) else .ok ⟨⟩)
      { v with warnings := w::v.warnings } := by
  rw [warn]
  cases h : env.warningRaises w <;> simp [bind_apply]

theorem silent_warn (w : Warning) : (atomic (warn env w)).Silent objects := by
  have hfinal : ∀ v, final (warn env w) v = { v with warnings := w::v.warnings } :=
    fun v => final_of_lift (warn_run env w v)
  refine silent_atomic (fun _ => by rw [hfinal]; rfl) (fun _ _ _ _ => by rw [hfinal,hfinal]; rfl) ?_
  intro s s' l _
  rw [result,result,warn_run,warn_run]
  cases env.warningRaises w <;> rfl

theorem silent_getSocket (self : Ref) : (atomic (getSocket self)).Silent objects :=
  silent_atomic (fun _ => rfl) (fun _ _ _ _ => rfl) fun _ _ _ h =>
    congrArg Except.ok (congrFun h self)

theorem silent_clearErrno (name : String) : (ThreadM.clearErrno env name).Silent objects := by
  refine silent_getErrno.bind fun errno => ?_
  by_cases he : errno ≠ 0
  · rw [if_pos he]
    exact (silent_warn env _).bind fun _ => silent_setErrno 0
  · rw [if_neg he]
    exact silent_setErrno 0

theorem silent_checkOutcome (name : String) (r : Reply) :
    (ThreadM.checkOutcome env name r).Silent objects := by
  refine silent_getErrno.bind fun errno => (silent_setErrno 0).bind fun _ => ?_
  have hend : (do
      if r.ret < 0 then Routine.done (.error (.lwipError s!"{name} returnd {r.ret}"))
      return r : ThreadM Reply).Silent objects := by
    by_cases hr : r.ret < 0
    · rw [if_pos hr]
      exact .done _
    · rw [if_neg hr]
      exact .done _
  by_cases he : errno ≠ 0
  · rw [if_pos he]
    by_cases hr : r.ret < 0
    · rw [if_pos hr]
      exact .done _
    · rw [if_neg hr]
      exact (silent_warn env _).bind fun _ => hend
  · rw [if_neg he]
    exact hend

/-- A call is one step that the others see. -/
theorem oneShot_steps (site : CallSite) : (site.steps env).OneShot objects := by
  refine (silent_getSocket site.self).then fun k => ?_
  have hfunction : (do
      let c ← Routine.done site.args
      atomic (enter env k.lwip (some site.self) (.on k.s c)) : ThreadM Reply).OneShot objects :=
    (Routine.Silent.done _).then fun c => .shot (fun _ => rfl) fun _ => .done _
  rw [CallSite.after]
  cases site.name with
  | some name =>
    exact (silent_clearErrno env name).then fun _ =>
      hfunction.bind fun r => silent_checkOutcome env name r
  | none => exact hfunction

/-- What one thread does: calls, and in the end a return or a raise. -/
abbrev CallScript (α : Type) := Script CallSite PyErr Reply (Except PyErr α)

def CallScript.exec {α : Type} : CallScript α → PyM α
  | .done r => lift r
  | .call site next => fun w =>
    CallScript.exec (next (result (site.exec env) w)) (final (site.exec env) w)

/-- The program reaches lwIP through calls of this kind only. -/
def Scripted {α : Type} (m : PyM α) : Prop := ∃ script : CallScript α, script.exec env = m

section Scripted

variable {env} {α β : Type}

theorem scripted_lift (x : Except PyErr α) : Scripted env (lift x : PyM α) := ⟨.done x,rfl⟩

theorem scripted_pure (a : α) : Scripted env (pure a : PyM α) := scripted_lift (.ok a)

theorem scripted_throw (e : PyErr) : Scripted env (throw e : PyM α) := scripted_lift (.error e)

theorem scripted_site (site : CallSite) : Scripted env (site.exec env) := by
  refine ⟨.call site .done,funext fun w => ?_⟩
  rw [CallScript.exec]
  exact lift_result (site.exec env) w

theorem scripted_checked (self : Ref) (name : String) (args : Except PyErr SockCall) :
    Scripted env (Socket.checked env self name args) :=
  scripted_site ⟨self,some name,args⟩

theorem scripted_call (self : Ref) (args : Except PyErr SockCall) :
    Scripted env (Socket.call env self args) :=
  scripted_site ⟨self,none,args⟩

/-- One script, and what follows when it returns. -/
def CallScript.bind : CallScript α → (α → CallScript β) → CallScript β
  | .done (.ok a), f => f a
  | .done (.error e), _ => .done (.error e)
  | .call site next, f => .call site fun r => CallScript.bind (next r) f

theorem exec_bind (script : CallScript α) (f : α → CallScript β) :
    (script.bind f).exec env = script.exec env >>= fun a => (f a).exec env := by
  funext w
  induction script generalizing w with
  | done r => cases r <;> rfl
  | call site next ih => exact ih _ _

theorem scripted_bind {m : PyM α} {f : α → PyM β} (hm : Scripted env m)
    (hf : ∀ a, Scripted env (f a)) : Scripted env (m >>= f) := by
  obtain ⟨script,rfl⟩ := hm
  choose scripts hscripts using hf
  exact ⟨script.bind scripts,by simp only [exec_bind,hscripts]⟩

theorem scripted_map {m : PyM α} (f : α → β) (hm : Scripted env m) : Scripted env (f <$> m) := by
  rw [map_eq_pure_bind]
  exact scripted_bind hm fun a => scripted_pure (f a)

theorem scripted_guard {c : Prop} [Decidable c] {e : PyErr} {rest : β → PyM α} {m : PyM α}
    (hm : Scripted env m) : Scripted env (if c then throw e >>= rest else m) := by
  split
  · exact scripted_throw (α := α) e
  · exact hm

theorem scripted_discard {m : PyM α} (hm : Scripted env m) : Scripted env (discard m) :=
  scripted_map _ hm

theorem scripted_returns (self : Ref) (name : String) (args : Except PyErr SockCall)
    (f : Reply → α) : Scripted env (Socket.checked env self name args >>= fun r => pure (f r)) :=
  scripted_bind (scripted_checked self name args) fun r => scripted_pure (f r)

theorem scripted_reads (self : Ref) (name : String) (args : Except PyErr SockCall)
    (f : Reply → Except PyErr β) (g : Reply → β → α) : Scripted env
      (Socket.checked env self name args >>= fun r => lift (f r) >>= fun b => pure (g r b)) :=
  scripted_bind (scripted_checked self name args) fun r =>
    scripted_bind (scripted_lift (f r)) fun b => scripted_pure (g r b)

variable (self : Ref)

theorem scripted_sendall (flags : ℤ) (fuel : ℕ) (b : Buffer) :
    Scripted env (Socket.sendall env self flags fuel b) := by
  induction fuel generalizing b with
  | zero =>
    rw [Socket.sendall]
    split
    · exact scripted_pure _
    · exact scripted_throw _
  | succ fuel ih =>
    rw [Socket.sendall]
    split
    · exact scripted_pure _
    · exact scripted_bind (scripted_returns self _ _ _) fun _ => ih _

theorem scripted_lwipSetsockopt (l o : ℤ) (v : OptValue) (n : Option ℤ) :
    Scripted env (Socket.lwipSetsockopt env self l o v n) :=
  scripted_bind (scripted_lift _) fun _ => scripted_returns self _ _ _

theorem scripted_lwipGetsockopt (l o : ℤ) (n : Option ℤ) :
    Scripted env (Socket.lwipGetsockopt env self l o n) := by
  cases n with
  | none =>
    exact scripted_bind (scripted_pure _) fun _ => scripted_bind (scripted_lift _) fun _ =>
      scripted_returns self _ _ _
  | some n =>
    exact scripted_bind (scripted_lift _) fun _ => scripted_bind (scripted_lift _) fun _ =>
      scripted_returns self _ _ _

theorem scripted_lwipIoctl (cmd arg : ℤ) : Scripted env (Socket.lwipIoctl env self cmd arg) :=
  scripted_bind (scripted_lift _) fun _ => scripted_returns self _ _ _

theorem scripted_setblocking (b : Bool) : Scripted env (Socket.setblocking env self b) :=
  scripted_bind (scripted_lwipIoctl self _ _) fun _ => scripted_pure _

theorem scripted_getblocking : Scripted env (Socket.getblocking env self) :=
  scripted_bind (scripted_returns self _ _ _) fun _ => scripted_pure _

/-- Every method is such code. -/
theorem method_scripted (m : Method) : Scripted env (m.exec env self) := by
  cases m with
  | fileno => exact ⟨.done (.ok ⟨⟩),rfl⟩
  | bind a | connect a =>
    exact scripted_discard (scripted_bind (scripted_lift _) fun _ => scripted_returns self _ _ _)
  | listen n => exact scripted_discard (scripted_returns self _ _ _)
  | connectEx a =>
    exact scripted_discard (scripted_bind (scripted_lift _) fun _ =>
      scripted_bind (scripted_call self _) fun _ => scripted_pure _)
  | recv n flags | recvInto b n flags =>
    exact scripted_discard (scripted_bind (scripted_lift _) fun _ => scripted_returns self _ _ _)
  | recvfrom n flags | recvfromInto b n flags =>
    exact scripted_discard (scripted_bind (scripted_lift _) fun _ => scripted_reads self _ _ _ _)
  | recvmsg n anc flags =>
    exact scripted_discard (scripted_guard (scripted_bind (scripted_lift _) fun _ =>
      scripted_reads self _ _ _ _))
  | recvmsgInto bs anc flags =>
    exact scripted_discard (scripted_guard (scripted_guard (scripted_reads self _ _ _ _)))
  | send b flags => exact scripted_discard (scripted_returns self _ _ _)
  | sendall b flags fuel => exact scripted_sendall self flags fuel b
  | sendto b flags a =>
    exact scripted_discard (scripted_bind (scripted_lift _) fun _ => scripted_returns self _ _ _)
  | sendmsg bs anc flags a =>
    refine scripted_discard (scripted_guard (scripted_guard ?_))
    cases a with
    | none => exact scripted_bind (scripted_pure _) fun _ => scripted_returns self _ _ _
    | some a =>
      exact scripted_bind (scripted_map _ (scripted_lift _)) fun _ => scripted_returns self _ _ _
  | shutdown how => exact scripted_returns self _ _ _
  | getpeername | getsockname =>
    exact scripted_discard (scripted_bind (scripted_checked self _ _) fun _ => scripted_lift _)
  | lwipSetsockopt l o v n => exact scripted_lwipSetsockopt self l o v n
  | setsockopt l o v n =>
    exact scripted_bind (scripted_lift _) fun _ => scripted_lwipSetsockopt self _ _ v n
  | lwipGetsockopt l o n => exact scripted_discard (scripted_lwipGetsockopt self l o n)
  | getsockopt l o n =>
    exact scripted_discard (scripted_bind (scripted_lift _) fun _ =>
      scripted_lwipGetsockopt self _ _ n)
  | lwipIoctl cmd arg => exact scripted_discard (scripted_lwipIoctl self cmd arg)
  | lwipFcntl cmd val => exact scripted_discard (scripted_returns self _ _ _)
  | getblocking => exact scripted_discard (scripted_getblocking self)
  | setblocking b => exact scripted_setblocking self b
  | gettimeout =>
    refine scripted_discard (scripted_bind (scripted_getblocking self) fun b => ?_)
    cases b <;> exact scripted_pure _
  | settimeout v =>
    cases v with
    | none => exact scripted_setblocking self true
    | some v =>
      rw [Method.exec,Socket.settimeout]
      split
      · exact scripted_setblocking self false
      · exact scripted_throw _

end Scripted

variable {ι β : Type} [DecidableEq ι]

/-- Threads that make calls, each as its own code decides from what the calls before came to. -/
abbrev Threads (ι β : Type) := Pool ι CallSite PyErr Common Local Reply β

/-- Thread `i` makes its next call while the others wait. -/
def Threads.turn (p : Threads ι β) (i : ι) : Threads ι β :=
  match p.place i with
  | .between (.call site next) =>
    let w := view.read (p.shared,p.own i)
    let c := view.write (p.shared,p.own i) (final (site.exec env) w)
    p.put i c.1 c.2 (.between (next (result (site.exec env) w)))
  | _ => p

theorem whole_eq_turn (p : Threads ι β) (i : ι) :
    p.whole (CallSite.steps env) i = p.turn env i := by
  rw [Pool.whole,Threads.turn]
  cases p.place i with
  | inside => rfl
  | between script =>
    cases script with
    | done => rfl
    | call site next =>
      dsimp only
      rw [run_steps,zoom,final,result]
      cases site.exec env (view.read (p.shared,p.own i)) <;> rfl

/-- Threads need not wait for each other. Let any number of threads call the methods of any
objects, each thread going on as its own code decides, and let the scheduler change threads at any
step. When all of them are between two calls, everything is as if the calls had been made one at a
time, each through the whole of `check_ret_errno`, in some order: the record of calls into lwIP,
and for each thread what its calls returned or raised, its `errno` and its warnings. -/
theorem calls_one_at_a_time (p : Threads ι β) (hp : p.AtRest) (schedule : List ι)
    (hend : (p.steps (CallSite.steps env) schedule).AtRest) :
    ∃ order : List ι, p.steps (CallSite.steps env) schedule = order.foldl (Threads.turn env) p := by
  obtain ⟨order,horder⟩ := Pool.steps_eq_wholes (oneShot_steps env) hp schedule hend
  have hwhole : Pool.whole (CallSite.steps env) = Threads.turn (ι := ι) (β := β) env :=
    funext fun p => funext fun i => whole_eq_turn env p i
  exact ⟨order,by rw [horder,Pool.wholes,hwhole]⟩

def fullReply (log : List Event) (_ : Instance) (_ : Call) : Reply :=
  if log = [] then { ret := 5 } else { ret := -1, errno := some 11 }

/-- Two threads that send on one socket. -/
def senders : Threads Bool (Except PyErr Reply) where
  shared := ⟨[],fun _ => ⟨0,AF_INET,SOCK_STREAM,0,3,some 3,3,false⟩,1⟩
  own _ := ⟨0,[]⟩
  place b := .between (.call ⟨0,some "send",.ok (.send [if b then 1 else 2] 0)⟩ .done)

theorem calls_one_at_a_time_senders : ∃ order : List Bool,
    senders.steps (CallSite.steps (quietEnv fullReply)) (List.replicate 8 [true,false]).flatten =
      order.foldl (Threads.turn (quietEnv fullReply)) senders := by
  refine calls_one_at_a_time (quietEnv fullReply) senders (fun b => ⟨_,rfl⟩) _ fun b => ?_
  cases b <;> exact ⟨_,rfl⟩

end LwipPy
