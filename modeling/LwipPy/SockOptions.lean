import LwipPy.Receive
import LwipPy.WarningsAsErrors

/-! Socket options: the forms in which a value is passed to lwIP, and what is read back. -/
namespace LwipPy

open Program ByteImage

theorem ofFn_getD_toList {n : ℕ} (v : Vector UInt8 n) :
    (Vector.ofFn fun i : Fin n => v.toList.getD i.val 0) = v := by
  ext i hi
  simp

variable (env : Env)

/-- Four bytes are those of the C `int` they are read as. -/
theorem intBytes_intOf {data : Bytes} (h : data.length = 4) :
    CInt (Socket.intOf env data) ∧ Socket.intBytes env (Socket.intOf env data) = data := by
  obtain ⟨v,rfl⟩ : ∃ v : Vector UInt8 4, data = v.toList := ⟨⟨data.toArray,by simpa using h⟩,rfl⟩
  have hlt : env.host.endian.decode v < 256^4 := env.host.endian.decode_lt v
  have hmod : (Socket.intOf env v.toList % 2^32).toNat = env.host.endian.decode v := by
    simp only [Socket.intOf,ofFn_getD_toList]
    split_ifs with hx <;> omega
  constructor
  · simp only [CInt,Socket.intOf,ofFn_getD_toList]
    split_ifs with hx <;> omega
  · rw [Socket.intBytes,hmod,Endian.encode_decode]

/-- The admitted forms of a value: an int, a bytes-like object, or `None` with an `optlen`. -/
inductive OptForm
  | int (v : ℤ)
  | bytes (b : Buffer)
  | null (optlen : ℤ)

namespace OptForm

def value : OptForm → OptValue
  | .int v => .int v
  | .bytes b => .bytes b
  | .null _ => .none

def optlen : OptForm → Option ℤ
  | .null n => some n
  | _ => none

/-- The bytes the value stands for. -/
def pointer : OptForm → Option Bytes
  | .int v => some (Socket.intBytes env v)
  | .bytes b => some b.bytes
  | .null _ => none

def length : OptForm → ℤ
  | .int _ => 4
  | .bytes b => b.bytes.length
  | .null n => n

/-- An int or an `optlen` that fits its C type, and not a bytes-like object. -/
def Converts : OptForm → Prop
  | .int v => CInt v
  | .bytes _ => False
  | .null n => 0 ≤ n ∧ n < 2^32

end OptForm

/-- The methods for options come twice: with the numbers of lwIP, and with those of `socket`. -/
inductive Numbering
  | lwip
  | socket

namespace Numbering

def numbers : Numbering → ℤ → ℤ → Except PyErr (ℤ × ℤ)
  | .lwip, level, optname => .ok (level,optname)
  | .socket, level, optname => Socket.translated env level optname

def setsockopt (self : Ref) : Numbering → ℤ → ℤ → OptForm → PyM Unit
  | .lwip, level, optname, form =>
    Socket.lwipSetsockopt env self level optname form.value form.optlen
  | .socket, level, optname, form =>
    Socket.setsockopt env self level optname form.value form.optlen

def getsockopt (self : Ref) : Numbering → ℤ → ℤ → Option ℤ → PyM OptResult
  | .lwip, level, optname, buflen => Socket.lwipGetsockopt env self level optname buflen
  | .socket, level, optname, buflen => Socket.getsockopt env self level optname buflen

end Numbering

section Set

variable {env} {self : Ref} {w : World} {level optname : ℤ}

/-- With lwIP's numbers at hand, both methods do the same. -/
theorem Numbering.setsockopt_eq {via : Numbering} {l o : ℤ}
    (h : via.numbers env level optname = .ok (l,o)) (form : OptForm) :
    via.setsockopt env self level optname form =
      Socket.lwipSetsockopt env self l o form.value form.optlen := by
  cases via with
  | lwip =>
    cases h
    rfl
  | socket =>
    rw [numbers] at h
    rw [setsockopt,Socket.setsockopt,h]
    rfl

theorem Numbering.getsockopt_eq {via : Numbering} {l o : ℤ}
    (h : via.numbers env level optname = .ok (l,o)) (buflen : Option ℤ) :
    via.getsockopt env self level optname buflen =
      Socket.lwipGetsockopt env self l o buflen := by
  cases via with
  | lwip =>
    cases h
    rfl
  | socket =>
    rw [numbers] at h
    rw [getsockopt,Socket.getsockopt,h]
    rfl

/-- The arguments of `lwip_setsockopt`, converted one after the other. -/
def setArgs (level optname : ℤ) (pointer : Option Bytes) (optlen : ℤ) : Except PyErr SockCall :=
  return .setsockopt (← toSigned 32 level) (← toSigned 32 optname) pointer
    (← toUnsigned 32 optlen)

theorem lwipSetsockopt_eq (value : OptValue) (optlen : Option ℤ) :
    Socket.lwipSetsockopt env self level optname value optlen =
      (do
        let (pointer,n) ← lift (Socket.optionArgs env value optlen)
        let _ ← Socket.checked env self "setsockopt" (setArgs level optname pointer n)) := rfl

variable (hl : CInt level) (ho : CInt optname)
include hl ho

theorem setArgs_ok_iff {pointer pointer' : Option Bytes} {optlen n : ℤ} :
    setArgs level optname pointer optlen = .ok (.setsockopt level optname pointer' n) ↔
      pointer = pointer' ∧ optlen = n ∧ 0 ≤ n ∧ n < 2^32 := by
  have hargs : setArgs level optname pointer optlen =
      (toUnsigned 32 optlen).map fun k => .setsockopt level optname pointer k := by
    rw [setArgs,hl.toSigned,ho.toSigned]
    rfl
  rw [hargs,toUnsigned]
  by_cases hn : 0 ≤ optlen ∧ optlen < 2^32
  · rw [if_pos hn,Except.map,Except.ok.injEq,SockCall.setsockopt.injEq,Int.toNat_of_nonneg hn.1]
    constructor
    · rintro ⟨_,_,rfl,rfl⟩
      exact ⟨rfl,rfl,hn⟩
    · rintro ⟨rfl,rfl,_⟩
      exact ⟨rfl,rfl,rfl,rfl⟩
  · rw [if_neg hn]
    refine iff_of_false (by simp [Except.map]) ?_
    rintro ⟨_,rfl,hh⟩
    exact hn hh

/-- What `lwip_setsockopt` gets. -/
theorem calls_setsockopt_iff {value : OptValue} {optlen : Option ℤ} {pointer : Option Bytes}
    {n : ℤ} :
    Socket.Calls env self (Socket.lwipSetsockopt env self level optname value optlen)
        (.setsockopt level optname pointer n) w ↔
      Enters env "setsockopt" w ∧ Socket.optionArgs env value optlen = .ok (pointer,n) ∧
        0 ≤ n ∧ n < 2^32 := by
  rw [lwipSetsockopt_eq,Socket.calls_lift_iff]
  constructor
  · rintro ⟨⟨p,k⟩,hargs,hcalls⟩
    obtain ⟨henter,hset⟩ := (Socket.calls_checked_iff fun _ _ => rfl).mp hcalls
    obtain ⟨rfl,rfl,hn⟩ := (setArgs_ok_iff hl ho).mp hset
    exact ⟨henter,hargs,hn⟩
  · rintro ⟨henter,hargs,hn⟩
    exact ⟨_,hargs,(Socket.calls_checked_iff fun _ _ => rfl).mpr
      ⟨henter,(setArgs_ok_iff hl ho).mpr ⟨rfl,rfl,hn⟩⟩⟩

theorem sees_iff (form : OptForm) :
    Socket.Calls env self (Socket.lwipSetsockopt env self level optname form.value form.optlen)
        (.setsockopt level optname (form.pointer env) form.length) w ↔
      Enters env "setsockopt" w ∧ form.Converts := by
  rw [calls_setsockopt_iff hl ho]
  refine and_congr_right fun _ => ?_
  cases form with
  | int v =>
    by_cases hv : CInt v
    · have hargs : Socket.optionArgs env (.int v) none = .ok (some (Socket.intBytes env v),4) := by
        rw [Socket.optionArgs,hv.toSigned]
        rfl
      exact iff_of_true ⟨hargs,by norm_num [OptForm.length]⟩ hv
    · have hargs : Socket.optionArgs env (.int v) none = .error .overflowError := by
        rw [Socket.optionArgs,toSigned_not_cInt hv]
        rfl
      refine iff_of_false (fun h => ?_) hv
      cases hargs.symm.trans h.1
  | bytes b =>
    -- `ffi.buffer` does not take a bytes-like object
    refine iff_of_false (fun h => ?_) id
    cases h.1
  | null n => exact and_iff_right rfl

end Set
section Get

variable {env} {self : Ref} {w : World} {level optname : ℤ}

theorem checked_value {α : Type} (name : String) {args : Except PyErr SockCall} {c : SockCall}
    (hargs : args = .ok c) (hr : 0 ≤ (Socket.event env self c w).reply.ret) (f : Reply → α)
    (a : α) :
    value (do let r ← Socket.checked env self name args; return f r) w = some a ↔
      (Enters env name w ∧ ¬ Spurious env name (Socket.event env self c w).reply) ∧
        f (Socket.event env self c w).reply = a := by
  subst hargs
  by_cases henter : Enters env name w
  · have hrun : Socket.checked env self name (.ok c) w = _ := Socket.checked_enters henter self c
    by_cases hspurious : Spurious env name (Socket.event env self c w).reply
    · rw [outcome_spurious hspurious,lift_error] at hrun
      rw [value_of_error (bind_of_error hrun)]
      exact iff_of_false (by simp) fun h => h.1.2 hspurious
    · rw [outcome_accepted hr hspurious,lift_ok] at hrun
      have hvalue : value (do
          let r ← Socket.checked env self name (.ok c)
          return f r) w = some _ := value_of_ok (bind_of_ok hrun)
      rw [hvalue,Option.some.injEq]
      exact (and_iff_right ⟨henter,hspurious⟩).symm
  · rw [value_of_error (bind_of_error (Socket.checked_raises henter self _))]
    exact iff_of_false (by simp) fun h => henter h.1.1

/-- Asked for the option with room enough, lwIP succeeds and writes this content. -/
def Reports (env : Env) (self : Ref) (level optname : ℤ) (content : Bytes) (w : World) : Prop :=
  ∀ optlen, content.length ≤ optlen →
    let r := (Socket.event env self (.getsockopt level optname optlen) w).reply
    0 ≤ r.ret ∧ r.data = content

/-- No warning keeps `getsockopt` from returning what lwIP answers to a request of this length. -/
def Answered (env : Env) (self : Ref) (level optname : ℤ) (optlen : ℕ) (w : World) : Prop :=
  Enters env "getsockopt" w ∧
  ¬ Spurious env "getsockopt"
    (Socket.event env self (.getsockopt level optname optlen) w).reply

def getArgs (level optname : ℤ) (optlen : ℕ) : Except PyErr SockCall :=
  return .getsockopt (← toSigned 32 level) (← toSigned 32 optname) optlen

theorem lwipGetsockopt_bytes_run {buflen : ℤ} {size : ℕ} (hsize : newChars buflen = .ok size) :
    Socket.lwipGetsockopt env self level optname (some buflen) w =
      (do
        let optlen ← lift (toUnsigned 32 size)
        let r ← Socket.checked env self "getsockopt" (getArgs level optname optlen)
        return OptResult.bytes (readBack env size r.data size) : PyM OptResult) w := by
  rw [Socket.lwipGetsockopt]
  exact bind_of_ok (congrArg (fun x => lift x w) hsize)

theorem getsockopt_too_long {size : ℕ} (h : 2^32 ≤ size) :
    value (Socket.lwipGetsockopt env self level optname (some (size : ℤ))) w = none := by
  by_cases hsize : (size : ℤ) < 2^63
  · have hu : toUnsigned 32 (size : ℤ) = .error .overflowError := if_neg (by omega)
    rw [value_congr (lwipGetsockopt_bytes_run (newChars_nat hsize))]
    exact value_of_error (bind_of_error (congrArg (fun x => lift x w) hu))
  · have hn : newChars (size : ℤ) = .error .overflowError := by
      rw [newChars,toSigned,if_neg (by omega)]
      rfl
    exact value_of_error (bind_of_error (congrArg (fun x => lift x w) hn))

/-- Reading a buffer to its end gives what was written if that filled it. -/
theorem readBack_all_iff {size : ℕ} {written : Bytes} (h : written.length ≤ size) :
    readBack env size written size = written ↔ size = written.length := by
  constructor
  · intro heq
    simpa [readBack_length] using congrArg List.length heq
  · rintro rfl
    rw [readBack_written env (le_refl _) (le_refl _),List.take_length]

variable (hl : CInt level) (ho : CInt optname) {content : Bytes}
  (h : Reports env self level optname content w)
include hl ho

theorem getArgs_eq (optlen : ℕ) : getArgs level optname optlen =
    .ok (.getsockopt level optname optlen) := by
  rw [getArgs,hl.toSigned,ho.toSigned]
  rfl

include h

/-- As many bytes as the buffer has are returned, not as many as lwIP wrote. -/
theorem getsockopt_bytes_iff {buflen : ℤ} (hlen : content.length ≤ buflen) :
    value (Socket.lwipGetsockopt env self level optname (some buflen)) w =
        some (.bytes content) ↔
      Answered env self level optname content.length w ∧ content.length < 2^32 ∧
        buflen = content.length := by
  obtain ⟨size,rfl⟩ := Int.eq_ofNat_of_zero_le (a:=buflen) (by omega)
  have hwrote : content.length ≤ size := by omega
  by_cases hsize : size < 2^32
  · have hu : toUnsigned 32 (size : ℤ) = .ok size := toUnsigned_ok.mpr ⟨rfl,hsize⟩
    obtain ⟨hret,hdata⟩ := h size hwrote
    rw [value_congr (lwipGetsockopt_bytes_run (newChars_nat (by omega))),
      value_congr (bind_of_ok (congrArg (fun x => lift x w) hu)),
      checked_value "getsockopt" (getArgs_eq hl ho size) hret,hdata,OptResult.bytes.injEq,
      readBack_all_iff hwrote]
    constructor
    · rintro ⟨ha,rfl⟩
      exact ⟨ha,hsize,rfl⟩
    · rintro ⟨ha,_,heq⟩
      obtain rfl : size = content.length := by omega
      exact ⟨ha,rfl⟩
  · refine iff_of_false ?_ ?_
    · rw [getsockopt_too_long (not_lt.mp hsize)]
      simp
    · rintro ⟨_,hlt,heq⟩
      omega

theorem getsockopt_int_iff (hlen : content.length = 4) :
    value (Socket.lwipGetsockopt env self level optname none) w =
        some (.int (Socket.intOf env content)) ↔
      Answered env self level optname 4 w := by
  obtain ⟨hret,hdata⟩ := h 4 hlen.le
  have hrun : Socket.lwipGetsockopt env self level optname none w =
      (do
        let r ← Socket.checked env self "getsockopt" (getArgs level optname 4)
        return OptResult.int (Socket.intOf env r.data) : PyM OptResult) w := rfl
  rw [value_congr hrun,checked_value "getsockopt" (getArgs_eq hl ho 4) hret,hdata]
  exact and_iff_left rfl

end Get

/-- Options are passed on and read back as their bytes exactly in these cases, by both pairs of
methods: a value is seen by lwIP if it is an int or an `optlen` that fits, never if it is a
bytes-like object, so that none of these is ever read back; a content is returned by `getsockopt`
with a `buflen` if that is its very length, and always without one, as the int it encodes. (The
other conditions are about the warnings of `check_ret_errno`.) -/
theorem sockopt_marshalled_iff (env : Env) (self : Ref) (w : World) (via : Numbering)
    {level optname l o : ℤ} (hnumbers : via.numbers env level optname = .ok (l,o))
    (hl : CInt l) (ho : CInt o) :
    (∀ form : OptForm, Socket.Calls env self (via.setsockopt env self level optname form)
        (.setsockopt l o (form.pointer env) form.length) w ↔
      Enters env "setsockopt" w ∧ form.Converts) ∧
    (∀ content, Reports env self l o content w → ∀ buflen : ℤ, content.length ≤ buflen →
      (value (via.getsockopt env self level optname (some buflen)) w = some (.bytes content) ↔
        Answered env self l o content.length w ∧ content.length < 2^32 ∧
          buflen = content.length)) ∧
    (∀ content, Reports env self l o content w → content.length = 4 →
      ∃ v, CInt v ∧ Socket.intBytes env v = content ∧
        (value (via.getsockopt env self level optname none) w = some (.int v) ↔
          Answered env self l o 4 w)) ∧
    (∀ b buflen, value (do
        via.setsockopt env self level optname (.bytes b)
        via.getsockopt env self level optname (some buflen)) w ≠ some (.bytes b.bytes)) := by
  refine ⟨fun form => ?_,fun content h buflen hlen => ?_,fun content h hlen => ?_,
    fun b buflen => ?_⟩
  · rw [via.setsockopt_eq hnumbers]
    exact sees_iff hl ho form
  · rw [via.getsockopt_eq hnumbers]
    exact getsockopt_bytes_iff hl ho h hlen
  · obtain ⟨hint,hbytes⟩ := intBytes_intOf env hlen
    refine ⟨_,hint,hbytes,?_⟩
    rw [via.getsockopt_eq hnumbers]
    exact getsockopt_int_iff hl ho h hlen
  · have hraise : via.setsockopt env self level optname (.bytes b) w = .error .typeError w := by
      rw [via.setsockopt_eq hnumbers]
      rfl
    rw [value_of_error (bind_of_error hraise)]
    simp

/-- An lwIP that keeps one option of four bytes, the int 1 of a little-endian machine. -/
def optionReply (_ : List Event) (_ : Instance) : Call → Reply
  | .on _ (.getsockopt _ _ optlen) => { ret := 0, data := ([1,0,0,0] : Bytes).take optlen }
  | _ => { ret := 0 }

theorem optionReply_reports (self : Ref) (level optname : ℤ) (w : World) :
    Reports (quietEnv optionReply) self level optname [1,0,0,0] w := by
  intro optlen hlen
  exact ⟨le_rfl,List.take_of_length_le hlen⟩

/-- The option is read as the int 1, and as its four bytes with a `buflen` of four. -/
theorem sockopt_marshalled_one :
    (∃ v, CInt v ∧ Socket.intBytes (quietEnv optionReply) v = [1,0,0,0] ∧
      value (Socket.lwipGetsockopt (quietEnv optionReply) 0 1 2 none) World.init =
        some (.int v)) ∧
    value (Socket.lwipGetsockopt (quietEnv optionReply) 0 1 2 (some 4)) World.init =
      some (.bytes [1,0,0,0]) := by
  have hone : CInt 1 := ⟨by norm_num,by norm_num⟩
  have htwo : CInt 2 := ⟨by norm_num,by norm_num⟩
  have h := sockopt_marshalled_iff (quietEnv optionReply) 0 World.init .lwip rfl hone htwo
  have hreports := optionReply_reports 0 1 2 World.init
  have ha : Answered (quietEnv optionReply) 0 1 2 4 World.init :=
    ⟨.inl rfl,by simp [Spurious,quietEnv]⟩
  obtain ⟨v,hv,hbytes,hint⟩ := h.2.2.1 _ hreports rfl
  exact ⟨⟨v,hv,hbytes,hint.mpr ha⟩,(h.2.1 _ hreports 4 le_rfl).mpr ⟨ha,by norm_num,rfl⟩⟩

/-- The bytes of an int raise `TypeError` where the int is passed on, and four bytes read with
a `buflen` of six come back as six. -/
theorem sockopt_drops_bytes :
    raised (Socket.lwipSetsockopt (quietEnv optionReply) 0 1 2
      (.bytes (.ofBytes [1,0,0,0])) none) World.init = some .typeError ∧
    (final (Socket.lwipSetsockopt (quietEnv optionReply) 0 1 2 (.int 1) none)
      World.init).log.map Event.call = [.on (-1) (.setsockopt 1 2 (some [1,0,0,0]) 4)] ∧
    value (Socket.lwipGetsockopt (quietEnv optionReply) 0 1 2 (some 6)) World.init =
      some (.bytes [1,0,0,0,0,0]) ∧
    ¬ ∀ (env : Env) (self : Ref) (w : World) (level optname : ℤ) (b : Buffer), env.Quiet →
      CInt level → CInt optname →
        Socket.Calls env self (Socket.lwipSetsockopt env self level optname (.bytes b) none)
          (.setsockopt level optname (some b.bytes) b.bytes.length) w := by
  refine ⟨by decide,by decide,by decide,fun h => ?_⟩
  have hcalls := h (quietEnv optionReply) 0 World.init 1 2 (.ofBytes [1,0,0,0])
    (quietEnv_quiet _) ⟨by norm_num,by norm_num⟩ ⟨by norm_num,by norm_num⟩
  exact Socket.not_calls_of_same rfl hcalls

end LwipPy
