import LwipPy.World

/-! The error conventions of lwIP: `err_t` codes and a return value with `errno`. -/
namespace LwipPy

open Program

def errorCodes : List (ℤ × String) :=
  [(0,"ERR_OK"),(-1,"ERR_MEM"),(-2,"ERR_BUF"),(-3,"ERR_TIMEOUT"),(-4,"ERR_RTE"),
    (-5,"ERR_INPROGRESS"),(-6,"ERR_VAL"),(-7,"ERR_WOULDBLOCK"),(-8,"ERR_USE"),
    (-9,"ERR_ALREADY"),(-10,"ERR_ISCONN"),(-11,"ERR_CONN"),(-12,"ERR_IF"),(-13,"ERR_ABRT"),
    (-14,"ERR_RST"),(-15,"ERR_CLSD"),(-16,"ERR_ARG")]

/-- `check_ret`. `ErrorCode(ret)` raises `ValueError` for a number that names no member, and
only `KeyError` is suppressed around it. The `repr` of a member is that of a global enumeration. -/
def checkRet (func : String) (ret : ℤ) : Except PyErr ℤ :=
  if ret ≠ ERR_OK then
    match errorCodes.lookup ret with
    | some name => .error (.lwipError s!"{func} failed with return value err.{name}")
    | none => .error (.valueError s!"{ret} is not a valid ErrorCode")
  else .ok ret

variable (env : Env)

/-- The part of `check_ret_errno` after the wrapped function has returned. -/
def checkOutcome (functionName : String) (r : Reply) : PyM Reply := do
  let errno ← getErrno
  setErrno 0
  if errno ≠ 0 then
    if r.ret < 0 then
      throw (.osError (some errno)
        s!"LwIP {functionName} returned {r.ret}, errno {errno}: {env.errorText errno}")
    warn env (.errnoOnSuccess functionName r.ret errno)
  if r.ret < 0 then throw (.lwipError s!"{functionName} returnd {r.ret}")
  return r

/-- The part of `check_ret_errno` before the wrapped function is called. -/
def clearErrno (functionName : String) : PyM Unit := do
  let errno ← getErrno
  if errno ≠ 0 then warn env (.errnoBefore errno functionName)
  setErrno 0

/-- `check_ret_errno`; the out parameters of the call travel with its return value. -/
def checkRetErrno (functionName : String) (function : PyM Reply) : PyM Reply := do
  clearErrno env functionName
  let r ← function
  checkOutcome env functionName r

/-- The world the wrapped function is entered in. -/
def entered (functionName : String) (w : World) : World :=
  { w with
    errno := 0
    warnings := if w.errno ≠ 0 then .errnoBefore w.errno functionName :: w.warnings else w.warnings }

/-- The world after the wrapped function returned `r` in `w`. -/
def checkedOut (functionName : String) (r : Reply) (w : World) : World :=
  { w with
    errno := 0
    warnings := if w.errno ≠ 0 ∧ 0 ≤ r.ret then
      .errnoOnSuccess functionName r.ret w.errno :: w.warnings else w.warnings }

/-- The exception for a negative return value. -/
def failure (functionName : String) (r : Reply) (errno : ℤ) : PyErr :=
  if errno ≠ 0 then
    .osError (some errno)
      s!"LwIP {functionName} returned {r.ret}, errno {errno}: {env.errorText errno}"
  else .lwipError s!"{functionName} returnd {r.ret}"

section Fields

variable (name : String) (r : Reply) (w : World)

@[simp] theorem entered_log : (entered name w).log = w.log := rfl
@[simp] theorem entered_sockets : (entered name w).sockets = w.sockets := rfl
@[simp] theorem entered_count : (entered name w).count = w.count := rfl
@[simp] theorem entered_errno : (entered name w).errno = 0 := rfl
@[simp] theorem checkedOut_log : (checkedOut name r w).log = w.log := rfl
@[simp] theorem checkedOut_sockets : (checkedOut name r w).sockets = w.sockets := rfl
@[simp] theorem checkedOut_count : (checkedOut name r w).count = w.count := rfl
@[simp] theorem checkedOut_errno : (checkedOut name r w).errno = 0 := rfl

end Fields

/-- `check_ret_errno` comes to call the function: errno is clear, or the warning about it stays
a warning. -/
def Enters (functionName : String) (w : World) : Prop :=
  w.errno = 0 ∨ env.warningRaises (.errnoBefore w.errno functionName) = false

instance (functionName : String) (w : World) : Decidable (Enters env functionName w) :=
  inferInstanceAs (Decidable (_ ∨ _))

/-- How `check_ret_errno` ends when its function left `errno` behind. -/
def outcome (functionName : String) (r : Reply) (errno : ℤ) : Except PyErr Reply :=
  if r.ret < 0 then .error (failure env functionName r errno)
  else if errno ≠ 0 ∧ env.warningRaises (.errnoOnSuccess functionName r.ret errno) = true then
    .error (.runtimeWarning (.errnoOnSuccess functionName r.ret errno))
  else .ok r

theorem enters_quiet (hq : env.Quiet) (name : String) (w : World) : Enters env name w :=
  .inr (hq _)

theorem outcome_quiet (hq : env.Quiet) (name : String) (r : Reply) (errno : ℤ) :
    outcome env name r errno =
      if r.ret < 0 then .error (failure env name r errno) else .ok r := by
  simp [outcome,hq _]

theorem checkOutcome_apply (name : String) (r : Reply) (t : World) :
    checkOutcome env name r t = lift (outcome env name r t.errno) (checkedOut name r t) := by
  by_cases hr : r.ret < 0
  · have hn : ¬ 0 ≤ r.ret := by omega
    by_cases he : t.errno = 0 <;>
      simp [checkOutcome,bind_apply,map_run,checkedOut,outcome,failure,hr,hn,he]
  · have hn : 0 ≤ r.ret := by omega
    by_cases he : t.errno = 0
    · simp [checkOutcome,bind_apply,checkedOut,outcome,hr,he]
    · cases hw : env.warningRaises (.errnoOnSuccess name r.ret t.errno) <;>
        simp [checkOutcome,bind_apply,map_run,warn,checkedOut,outcome,hr,hn,he,hw]

theorem clearErrno_enters {name : String} {w : World} (h : Enters env name w) :
    clearErrno env name w = .ok ⟨⟩ (entered name w) := by
  by_cases he : w.errno = 0
  · simp [clearErrno,bind_apply,entered,he]
  · have hw := h.resolve_left he
    simp [clearErrno,bind_apply,warn,entered,he,hw]

theorem clearErrno_raises {name : String} {w : World} (h : ¬ Enters env name w) :
    clearErrno env name w = .error (.runtimeWarning (.errnoBefore w.errno name))
      { w with warnings := .errnoBefore w.errno name :: w.warnings } := by
  rw [Enters,not_or] at h
  simp [clearErrno,bind_apply,warn,h.1,h.2]

/-- What `check_ret_errno` does to any wrapped function, with any filter of the warnings. -/
theorem checkRetErrno_enters {name : String} {w : World} (h : Enters env name w)
    (function : PyM Reply) :
    checkRetErrno env name function w = match function (entered name w) with
      | .ok r t => lift (outcome env name r t.errno) (checkedOut name r t)
      | .error e t => .error e t := by
  rw [checkRetErrno,bind_of_ok (clearErrno_enters env h),bind_apply]
  cases function (entered name w) with
  | ok r t => exact checkOutcome_apply env name r t
  | error e t => rfl

theorem checkRetErrno_raises {name : String} {w : World} (h : ¬ Enters env name w)
    (function : PyM Reply) :
    checkRetErrno env name function w = .error (.runtimeWarning (.errnoBefore w.errno name))
      { w with warnings := .errnoBefore w.errno name :: w.warnings } :=
  bind_of_error (clearErrno_raises env h)

theorem checkOutcome_run (hq : env.Quiet) (name : String) (r : Reply) (t : World) :
    checkOutcome env name r t =
      if 0 ≤ r.ret then .ok r (checkedOut name r t)
      else .error (failure env name r t.errno) (checkedOut name r t) := by
  rw [checkOutcome_apply,outcome_quiet env hq]
  by_cases hr : 0 ≤ r.ret
  · rw [if_neg (Int.not_lt.mpr hr),if_pos hr,lift_ok]
  · rw [if_pos (Int.not_le.mp hr),if_neg hr,lift_error]

/-- What `check_ret_errno` does to any wrapped function when warnings stay warnings. -/
theorem checkRetErrno_run (hq : env.Quiet) (name : String) (function : PyM Reply) (w : World) :
    checkRetErrno env name function w = match function (entered name w) with
      | .ok r t =>
        if 0 ≤ r.ret then .ok r (checkedOut name r t)
        else .error (failure env name r t.errno) (checkedOut name r t)
      | .error e t => .error e t := by
  have hclear := clearErrno_enters env (enters_quiet env hq name w)
  rw [checkRetErrno,bind_of_ok hclear,bind_apply]
  cases function (entered name w) with
  | ok r t => exact checkOutcome_run env hq name r t
  | error e t => rfl

def CheckError : PyErr → Prop
  | .osError _ _ | .lwipError _ | .runtimeWarning _ => True
  | _ => False

section Outcome

variable {env} {name : String} {r : Reply} {errno : ℤ}

theorem outcome_ok {r' : Reply} (h : outcome env name r errno = .ok r') : r = r' ∧ 0 ≤ r.ret := by
  unfold outcome at h
  split_ifs at h with hneg hwarn
  · cases h
    exact ⟨rfl,Int.not_lt.mp hneg⟩

theorem outcome_error {e : PyErr} (h : outcome env name r errno = .error e) : CheckError e := by
  unfold outcome failure at h
  split_ifs at h <;> cases h <;> trivial

end Outcome

section Respects

variable {env} {R : World → World → Prop} [IsPreorder World R]
  (hwarn : ∀ w v, R w { w with warnings := v :: w.warnings })
  (herrno : ∀ w e, R w { w with errno := e })

include hwarn in
theorem respects_warn (v : Warning) : Respects R (warn env v) := by
  refine respects_bind (respects_modify fun w => hwarn w v) fun _ => ?_
  split
  · exact respects_throw _
  · exact respects_pure _

omit [IsPreorder World R] in
include herrno in
theorem respects_setErrno (e : ℤ) : Respects R (setErrno e) :=
  respects_modify fun w => herrno w e

theorem respects_getErrno : Respects R getErrno :=
  respects_bind respects_get fun _ => respects_pure _

include hwarn herrno

theorem respects_clearErrno (name : String) : Respects R (clearErrno env name) := by
  refine respects_bind respects_getErrno fun e => ?_
  split
  · exact respects_bind (respects_warn hwarn _) fun _ => respects_setErrno herrno 0
  · exact respects_setErrno herrno 0

theorem respects_checkOutcome (name : String) (r : Reply) :
    Respects R (checkOutcome env name r) := by
  refine respects_bind respects_getErrno fun e =>
    respects_bind (respects_setErrno herrno 0) fun _ => ?_
  have hthrow : ∀ x : PyErr, Respects R (do let __r ← (throw x : PyM PUnit); pure r) := fun x =>
    respects_bind (respects_throw x) fun _ => respects_pure r
  by_cases hr : r.ret < 0
  · simp only [hr,if_true]
    by_cases he : e ≠ 0
    · rw [if_pos he]
      exact respects_bind (respects_throw _) fun _ => respects_bind (respects_warn hwarn _)
        fun _ => hthrow _
    · rw [if_neg he]
      exact hthrow _
  · simp only [hr,if_false]
    by_cases he : e ≠ 0
    · rw [if_pos he]
      exact respects_bind (respects_warn hwarn _) fun _ => respects_pure r
    · rw [if_neg he]
      exact respects_pure r

theorem respects_checkRetErrno (name : String) {function : PyM Reply}
    (hf : Respects R function) : Respects R (checkRetErrno env name function) :=
  respects_bind (respects_clearErrno hwarn herrno name) fun _ => respects_bind hf fun r =>
    respects_checkOutcome hwarn herrno name r

end Respects

end LwipPy
