import LwipPy.Inet
import LwipPy.Socket

/-! What the two error conventions make of a return value and an errno: `check_ret` of an `err_t`,
`check_ret_errno` of any function it wraps. -/
namespace LwipPy

open Program

/-- `check_ret` returns `ERR_OK` and raises `LwipError` for everything else. -/
def ChecksRet (func : String) (ret : ℤ) : Prop :=
  (ret = ERR_OK → checkRet func ret = .ok ret) ∧
  (ret ≠ ERR_OK → ∃ msg, checkRet func ret = .error (.lwipError msg))

/-- `ErrorCode` names the numbers from `ERR_ARG` to `ERR_OK`. -/
theorem errorCode_named_iff (ret : ℤ) :
    (∃ name, errorCodes.lookup ret = some name) ↔ -16 ≤ ret ∧ ret ≤ 0 := by
  constructor
  · rintro ⟨name,h⟩
    have hrange : ∀ e ∈ errorCodes, -16 ≤ e.1 ∧ e.1 ≤ 0 := by decide
    obtain ⟨l,l',hsplit,_⟩ := List.lookup_eq_some_iff.mp h
    exact hrange (ret,name) (by simp [hsplit])
  · rintro ⟨hlow,hhigh⟩
    rw [← Option.isSome_iff_exists]
    interval_cases ret <;> rfl

theorem checksRet_iff (func : String) (ret : ℤ) :
    ChecksRet func ret ↔ -16 ≤ ret ∧ ret ≤ 0 := by
  rw [← errorCode_named_iff,ChecksRet,checkRet]
  by_cases hok : ret = ERR_OK
  · subst hok
    exact iff_of_true (by simp) ⟨"ERR_OK",rfl⟩
  · cases hname : errorCodes.lookup ret <;> simp [hok]

/-- Worlds alike but for the warnings recorded. -/
def World.Like (w w' : World) : Prop := { w with warnings := [] } = { w' with warnings := [] }

def SameEnd {α : Type} : EStateM.Result PyErr World α → EStateM.Result PyErr World α → Prop
  | .ok a t, .ok a' t' => a = a' ∧ t.Like t'
  | .error e t, .error e' t' => e = e' ∧ t.Like t'
  | _, _ => False

/-- The record of warnings makes no difference to the program. -/
def Heedless {α : Type} (m : PyM α) : Prop := ∀ w w', w.Like w' → SameEnd (m w) (m w')

/-- The program runs its argument once, in the state `before`. What comes after makes no call. -/
def RunsOnce (m : PyM Reply → PyM Reply) (w before : World) : Prop :=
  ∃ after : Reply → PyM Reply, (∀ r t, (final (after r) t).log = t.log) ∧
    ∀ function, m function w = (function >>= after) before

/-- What a run is to make of a function that returned `r` and left `errno`. -/
structure Translates (m : PyM Reply) (w : World) (r : Reply) (errno : ℤ) : Prop where
  returns : (∃ t, m w = .ok r t) ↔ 0 ≤ r.ret
  osError : (∃ msg t, m w = .error (.osError (some errno) msg) t) ↔ r.ret < 0 ∧ errno ≠ 0
  lwipError : (∃ msg t, m w = .error (.lwipError msg) t) ↔ r.ret < 0 ∧ errno = 0
  clears : (final m w).errno = 0

section Heedless

variable {α β : Type} {env : Env}

theorem like_iff {w w' : World} : w.Like w' ↔
    w.errno = w'.errno ∧ w.log = w'.log ∧ w.sockets = w'.sockets ∧ w.count = w'.count := by
  cases w
  cases w'
  simp [World.Like]

theorem heedless_bind {m : PyM α} {f : α → PyM β} (hm : Heedless m) (hf : ∀ a, Heedless (f a)) :
    Heedless (m >>= f) := by
  intro w w' h
  have hend := hm w w' h
  rw [bind_apply,bind_apply]
  cases hw : m w with
  | ok a t =>
    cases hw' : m w' with
    | ok a' t' =>
      rw [hw,hw'] at hend
      obtain ⟨rfl,hlike⟩ := hend
      exact hf a t t' hlike
    | error e' t' => simp [hw,hw',SameEnd] at hend
  | error e t =>
    cases hw' : m w' with
    | ok a' t' => simp [hw,hw',SameEnd] at hend
    | error e' t' => rwa [hw,hw'] at hend

theorem sameEnd_lift (x : Except PyErr α) {t t' : World} (h : t.Like t') :
    SameEnd (lift x t) (lift x t') := by
  cases x with
  | ok a => exact ⟨rfl,h⟩
  | error e => exact ⟨rfl,h⟩

theorem heedless_enter (inst : Instance) (owner : Option Ref) (call : Call) :
    Heedless (enter env inst owner call) := by
  intro w w' h
  obtain ⟨herrno,hlog,hsockets,hcount⟩ := like_iff.mp h
  simp only [enter_apply,SameEnd,like_iff,World.record,hlog,herrno,hsockets,hcount,and_self]

/-- The functions that the methods of a socket wrap: lwIP's, on its descriptor. -/
theorem heedless_call (self : Ref) (c : Except PyErr SockCall) :
    Heedless (Socket.call env self c) := by
  intro w w' h
  have hsockets := (like_iff.mp h).2.2.1
  have hrun : ∀ u, Socket.call env self c u =
      (lift c >>= fun c => enter env (u.sockets self).lwip (some self) (.on (u.sockets self).s c))
        u := fun _ => rfl
  rw [hrun,hrun,← hsockets]
  exact heedless_bind (fun _ _ => sameEnd_lift c) (fun _ => heedless_enter _ _ _) w w' h

theorem heedless_checkOutcome (name : String) (r : Reply) :
    Heedless (checkOutcome env name r) := by
  intro w w' h
  obtain ⟨herrno,hlog,hsockets,hcount⟩ := like_iff.mp h
  rw [checkOutcome_apply,checkOutcome_apply,herrno]
  exact sameEnd_lift _ (like_iff.mpr ⟨rfl,hlog,hsockets,hcount⟩)

end Heedless

section Quiet

variable {env : Env} (hq : env.Quiet) (name : String)
include hq

/-- When warnings stay warnings, the function is called with errno cleared and then judged. -/
theorem checkRetErrno_quiet (function : PyM Reply) (w : World) :
    checkRetErrno env name function w = (function >>= checkOutcome env name) (entered name w) :=
  bind_of_ok (clearErrno_enters env (enters_quiet env hq name w))

omit hq in
theorem log_checkOutcome (r : Reply) (t : World) :
    (final (checkOutcome env name r) t).log = t.log := by
  rw [final_of_lift (checkOutcome_apply env name r t),checkedOut_log]

theorem translates {function : PyM Reply} {w t : World} {r : Reply}
    (hrun : function (entered name w) = .ok r t) :
    Translates (checkRetErrno env name function) w r t.errno := by
  have hend : checkRetErrno env name function w =
      if 0 ≤ r.ret then .ok r (checkedOut name r t)
      else .error (failure env name r t.errno) (checkedOut name r t) := by
    rw [checkRetErrno_run env hq,hrun]
  by_cases hr : 0 ≤ r.ret
  · rw [if_pos hr] at hend
    refine ⟨?_,?_,?_,?_⟩
    · simp [hend,hr]
    · simp [hend,hr]
    · simp [hend,hr]
    · rw [final_of_ok hend,checkedOut_errno]
  · rw [if_neg hr] at hend
    have hneg : r.ret < 0 := Int.not_le.mp hr
    by_cases herrno : t.errno = 0
    · rw [failure,if_neg (not_not.mpr herrno)] at hend
      exact ⟨by simp [hend,hr],by simp [hend,herrno],by simp [hend,hneg,herrno],
        by rw [final_of_error hend,checkedOut_errno]⟩
    · rw [failure,if_pos herrno] at hend
      exact ⟨by simp [hend,hr],by simp [hend,hneg,herrno],by simp [hend,herrno],
        by rw [final_of_error hend,checkedOut_errno]⟩

/-- The errno of an earlier call makes no difference. -/
theorem sameEnd_checkRetErrno {function : PyM Reply} (h : Heedless function) (w : World)
    (errno : ℤ) : SameEnd (checkRetErrno env name function w)
      (checkRetErrno env name function { w with errno := errno }) := by
  rw [checkRetErrno_quiet hq,checkRetErrno_quiet hq]
  have hlike : (entered name w).Like (entered name { w with errno := errno }) :=
    like_iff.mpr ⟨rfl,rfl,rfl,rfl⟩
  exact heedless_bind h (heedless_checkOutcome name) _ _ hlike

end Quiet

/-- `check_ret` keeps to its convention exactly for the numbers `ErrorCode` names. `check_ret_errno`
always does: it runs the function once, with errno cleared, tells its outcome from the return value
and the errno left, clears errno, and does not depend on the errno it found. -/
theorem error_translation_iff {env : Env} (hq : env.Quiet) :
    (∀ func ret, ChecksRet func ret ↔ -16 ≤ ret ∧ ret ≤ 0) ∧
    ∀ name w,
      (∃ before, before.errno = 0 ∧ before.log = w.log ∧
        RunsOnce (checkRetErrno env name) w before ∧
        ∀ function r t, function before = .ok r t →
          Translates (checkRetErrno env name function) w r t.errno) ∧
      ∀ function, Heedless function → ∀ errno, SameEnd (checkRetErrno env name function w)
        (checkRetErrno env name function { w with errno := errno }) := by
  refine ⟨checksRet_iff,fun name w => ⟨⟨entered name w,rfl,rfl,?_,?_⟩,?_⟩⟩
  · exact ⟨checkOutcome env name,log_checkOutcome name,
      fun function => checkRetErrno_quiet hq name function w⟩
  · intro function r t hrun
    exact translates hq name hrun
  · intro function h errno
    exact sameEnd_checkRetErrno hq name h w errno

/-- An lwIP in which every call fails with `EAGAIN`. -/
def againEnv : Env := quietEnv fun _ _ _ => { ret := -1, errno := some 11 }

/-- A failed call raises its own errno, also when another one was left before. -/
theorem error_translation_again :
    (∃ msg t, checkRetErrno againEnv "recv" (enter againEnv 0 none (.on 3 (.recv 10 0)))
      { World.init with errno := 115 } = .error (.osError (some 11) msg) t) ∧
    ChecksRet "netif_add_ip6_address" (-16) := by
  have hquiet : againEnv.Quiet := quietEnv_quiet _
  obtain ⟨hret,hrun⟩ := error_translation_iff hquiet
  obtain ⟨⟨before,_,_,_,htranslates⟩,_⟩ := hrun "recv" { World.init with errno := 115 }
  have hcall := htranslates (enter againEnv 0 none (.on 3 (.recv 10 0))) _ _ (enter_apply _ _ _ _ _)
  have hfailed : (-1 : ℤ) < 0 ∧ (11 : ℤ) ≠ 0 := by decide
  exact ⟨hcall.osError.mpr hfailed,(hret _ _).mpr (by decide)⟩

/-- A number that names no member: the `ValueError` of the enumeration escapes. -/
theorem check_ret_raises_valueError :
    checkRet "netif_add_ip6_address" (-17) =
      .error (.valueError "-17 is not a valid ErrorCode") ∧
    ¬ ∀ func ret, ChecksRet func ret := by
  refine ⟨rfl,fun h => ?_⟩
  obtain ⟨msg,hmsg⟩ := (h "netif_add_ip6_address" (-17)).2 (by decide)
  cases hmsg

end LwipPy
