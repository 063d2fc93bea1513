import LwipPy.LwipError
import LwipPy.CompatTranslate
import Mathlib.Data.Int.Bitwise
import Mathlib.Data.Rat.Defs

/-! `Socket`: every method of the class, as a program over the world. Descriptors are read
from the object at the moment of the call, so a closed socket passes `-1`. -/
namespace LwipPy

open Program ByteImage

/-- A contiguous bytes-like object: its bytes, the entries that `len(b)` counts, and the bytes of an
entry. Of `bytes` and `bytearray` an entry is a byte; of a `memoryview` it is an item or, if there
are more dimensions, all items under one index of the first; it may have no bytes. -/
structure Buffer where
  bytes : Bytes
  len : ℕ
  entry : ℕ
  whole : bytes.length = len*entry
  deriving DecidableEq

namespace Buffer

/-- The entries are bytes, or there are none. -/
def Bytewise (b : Buffer) : Prop := b.len = b.bytes.length

instance (b : Buffer) : Decidable b.Bytewise := inferInstanceAs (Decidable (_ = _))

def ofBytes (bytes : Bytes) : Buffer := ⟨bytes,bytes.length,1,(mul_one _).symm⟩

/-- The bytes a call is offered that gets the pointer of `b` and `len(b)`, including those that lie
behind the buffer. -/
def offered (env : Env) (b : Buffer) : Bytes :=
  b.bytes.take b.len ++ (List.range (b.len - b.bytes.length)).map env.beyond

@[simp] theorem length_offered (env : Env) (b : Buffer) : (b.offered env).length = b.len := by
  simp only [offered,List.length_append,List.length_take,List.length_map,List.length_range]
  omega

theorem Bytewise.offered {b : Buffer} (h : b.Bytewise) (env : Env) : b.offered env = b.bytes := by
  have hlen : b.len = b.bytes.length := h
  rw [Buffer.offered,hlen,List.take_length,Nat.sub_self]
  exact List.append_nil _

/-- `memoryview(b)[n:]` -/
def drop (b : Buffer) (n : ℕ) : Buffer where
  bytes := b.bytes.drop (n*b.entry)
  len := b.len-n
  entry := b.entry
  whole := by rw [List.length_drop,b.whole,Nat.sub_mul]

/-- The object after `data` was written at its beginning. -/
def fill (b : Buffer) (data : Bytes) : Buffer where
  bytes := data.take b.bytes.length ++ b.bytes.drop data.length
  len := b.len
  entry := b.entry
  whole := by
    rw [← b.whole]
    simp only [List.length_append,List.length_take,List.length_drop]
    omega

end Buffer

/-- The scatter of `lwip_recvmsg`: `data` goes into the buffers in order, each taking at most
the `iov_len` it was announced with. -/
def scatter : List Buffer → Bytes → List Buffer
  | [], _ => []
  | b::bs, data => b.fill (data.take b.len) :: scatter bs (data.drop b.len)

/-- The value argument of `setsockopt`. -/
inductive OptValue
  | none
  | int (v : ℤ)
  | bytes (b : Buffer)
  deriving DecidableEq

inductive OptResult
  | int (v : ℤ)
  | bytes (b : Bytes)
  deriving DecidableEq

/-- The result of `recvmsg`: data, ancillary data, flags and address. -/
structure Message where
  data : Bytes
  ancdata : List Bytes
  flags : ℤ
  address : Option Address
  deriving DecidableEq

structure MessageInto where
  nbytes : ℤ
  ancdata : List Bytes
  flags : ℤ
  address : Option Address
  buffers : List Buffer
  deriving DecidableEq

/-- `errno.ENOPROTOOPT` -/
def ENOPROTOOPT : ℤ := 92

/-- `ffi.new("char[]", n)`; the length is a `Py_ssize_t`. -/
def newChars (n : ℤ) : Except PyErr ℕ := do
  let n ← toSigned 64 n
  if n < 0 then .error (.valueError "negative array length") else .ok n.toNat

variable (env : Env)

/-- `ffi.buffer(p, n)[:]` on an allocation of `size` bytes at whose beginning lwIP wrote
`written`. If `n` is more than `size`, cffi issues a `UserWarning`, which is not modelled, and reads
what lies behind the allocation. -/
def readBack (size : ℕ) (written : Bytes) (n : ℕ) : Bytes :=
  (List.range n).map fun i => if i < size then written.getD i 0 else env.beyond (i-size)

namespace Socket

/-- `Socket.__init__`; the object gets the next free place. -/
def init (lwip : Instance) (family type proto fd : ℤ) : PyM Ref := do
  if fd < 0 then throw (.valueError "Invalid FD")
  let w ← get
  let k : Socket := ⟨lwip,family,type,proto,fd,some fd,fd,false⟩
  set { w with sockets := Function.update w.sockets w.count k, count := w.count+1 }
  return w.count

def modifySocket (self : Ref) (f : Socket → Socket) : PyM Unit :=
  modify fun w => { w with sockets := Function.update w.sockets self (f (w.sockets self)) }

/-- A lwIP function on the descriptor of `self`; cffi converts the arguments first. -/
def call (self : Ref) (c : Except PyErr SockCall) : PyM Reply := do
  let k ← getSocket self
  let c ← lift c
  enter env k.lwip (some self) (.on k.s c)

/-- `check_ret_errno(name, self._lwip.lwip.lwip_..., self._s, ...)` -/
def checked (self : Ref) (name : String) (c : Except PyErr SockCall) : PyM Reply :=
  checkRetErrno env name (call env self c)

/-- What a call through `check_ret_errno` does when warnings stay warnings. -/
theorem checked_run {env : Env} (hq : env.Quiet) (self : Ref) (name : String)
    (c : Except PyErr SockCall) (w : World) :
    checked env self name c w = match c with
      | .error e => .error e (entered name w)
      | .ok sc =>
        let k := w.sockets self
        let r := env.reply w.log k.lwip (.on k.s sc)
        let w₁ := (entered name w).record ⟨k.lwip,some self,.on k.s sc,r⟩
        if 0 ≤ r.ret then .ok r (checkedOut name r w₁)
        else .error (failure env name r w₁.errno) (checkedOut name r w₁) := by
  rw [checked,checkRetErrno_run env hq]
  cases c <;> simp [call,bind_apply]

def fileno (self : Ref) : PyM ℤ := do return (← getSocket self).s

def bind (self : Ref) (address : Address) : PyM ℤ := do
  let sa ← lift (SockAddr.parseAddress env.host address AF_UNSPEC)
  return (← checked env self "bind" (.ok (.bind sa sa.len))).ret

def listen (self : Ref) (backlog : ℤ) : PyM ℤ := do
  let backlog := if backlog < 0 then 0 else backlog
  return (← checked env self "listen" (return .listen (← toSigned 32 backlog))).ret

def accept (self : Ref) : PyM (Ref × Address) := do
  let (sa,addrLen) := SockAddr.createEmptySockaddrPaddrlen
  let k ← getSocket self
  let r ← checked env self "accept" (.ok (.accept addrLen))
  let s ← init k.lwip k.family k.type k.proto r.ret
  return (s,← lift ((r.name.getD sa).unparseAddress env.host))

def connect (self : Ref) (address : Address) : PyM ℤ := do
  let sa ← lift (SockAddr.parseAddress env.host address AF_UNSPEC)
  return (← checked env self "connect" (.ok (.connect sa sa.len))).ret

-- Not wrapped in `check_ret_errno`: the return value is lwIP's, and errno stays.
def connectEx (self : Ref) (address : Address) : PyM ℤ := do
  let sa ← lift (SockAddr.parseAddress env.host address AF_UNSPEC)
  return (← call env self (.ok (.connect sa sa.len))).ret

def recv (self : Ref) (bufsize flags : ℤ) : PyM Bytes := do
  let size ← lift (newChars bufsize)
  let r ← checked env self "recv"
    (return .recv (← toUnsigned 64 bufsize) (← toSigned 32 flags))
  return readBack env size r.data r.ret.toNat

/-- The `nbytes` argument of `recv_into` and `recvfrom_into`. -/
def intoLength (buffer : Buffer) (nbytes : ℤ) : Except PyErr ℤ := do
  if nbytes < 0 then .error (.valueError "negative buffersize in recv_into")
  let nbytes := if nbytes = 0 then (buffer.len : ℤ) else nbytes
  if buffer.len < nbytes then .error (.valueError "buffer too small for requested bytes")
  return nbytes

def recvInto (self : Ref) (buffer : Buffer) (nbytes flags : ℤ) : PyM (ℤ × Buffer) := do
  let nbytes ← lift (intoLength buffer nbytes)
  let r ← checked env self "recv"
    (return .recv (← toUnsigned 64 nbytes) (← toSigned 32 flags))
  return (r.ret,buffer.fill r.data)

def recvfrom (self : Ref) (bufsize flags : ℤ) : PyM (Bytes × Address) := do
  let size ← lift (newChars bufsize)
  let (sa,addrLen) := SockAddr.createEmptySockaddrPaddrlen
  let r ← checked env self "recvfrom"
    (return .recvfrom (← toUnsigned 64 bufsize) (← toSigned 32 flags) addrLen)
  return (readBack env size r.data r.ret.toNat,
    ← lift ((r.name.getD sa).unparseAddress env.host))

def recvfromInto (self : Ref) (buffer : Buffer) (nbytes flags : ℤ) :
    PyM ((ℤ × Address) × Buffer) := do
  let nbytes ← lift (intoLength buffer nbytes)
  let (sa,addrLen) := SockAddr.createEmptySockaddrPaddrlen
  let r ← checked env self "recvfrom"
    (return .recvfrom (← toUnsigned 64 nbytes) (← toSigned 32 flags) addrLen)
  return ((r.ret,← lift ((r.name.getD sa).unparseAddress env.host)),buffer.fill r.data)

/-- `None` when lwIP wrote no address. -/
def messageAddress (sa : SockAddr) : Except PyErr (Option Address) :=
  if sa.family = AF_UNSPEC then .ok none else (sa.unparseAddress env.host).map some

def recvmsg (self : Ref) (bufsize ancbufsize flags : ℤ) : PyM Message := do
  if ancbufsize ≠ 0 then throw (.lwipError "receiving ancillary data is not supported")
  let sa := SockAddr.createEmptySockaddr
  let size ← lift (newChars bufsize)
  let r ← checked env self "recvmsg" (return .recvmsg sa.len [size] (← toSigned 32 flags))
  let address ← lift (messageAddress env (r.name.getD sa))
  return ⟨readBack env size r.data r.ret.toNat,[],r.flags,address⟩

def recvmsgInto (self : Ref) (buffers : List Buffer) (ancbufsize flags : ℤ) :
    PyM MessageInto := do
  if ancbufsize ≠ 0 then throw (.lwipError "receiving ancillary data is not supported")
  if IOV_MAX < buffers.length then
    throw (.osError none "length of buffers exceeded IOV_MAX")
  let sa := SockAddr.createEmptySockaddr
  let r ← checked env self "recvmsg"
    (return .recvmsg sa.len (buffers.map Buffer.len) (← toSigned 32 flags))
  let address ← lift (messageAddress env (r.name.getD sa))
  return ⟨r.ret,[],r.flags,address,scatter buffers r.data⟩

def send (self : Ref) (payload : Buffer) (flags : ℤ) : PyM ℤ := do
  return (← checked env self "send" (return .send (payload.offered env) (← toSigned 32 flags))).ret

/-- `sendall`, for at most `fuel` calls of `send`. -/
def sendall (self : Ref) (flags : ℤ) : ℕ → Buffer → PyM Unit
  | 0, payload => if payload.len = 0 then pure () else throw .stillRunning
  | fuel+1, payload =>
    if payload.len = 0 then pure ()
    else do
      let bytesSent ← send env self payload flags
      sendall self flags fuel (payload.drop bytesSent.toNat)

def sendto (self : Ref) (payload : Buffer) (flags : ℤ) (address : Address) : PyM ℤ := do
  let sa ← lift (SockAddr.parseAddress env.host address AF_UNSPEC)
  return (← checked env self "sendto"
    (return .sendto (payload.offered env) (← toSigned 32 flags) sa sa.len)).ret

/-- `ancdata` says whether ancillary data was passed. -/
def sendmsg (self : Ref) (buffers : List Buffer) (ancdata : Bool) (flags : ℤ)
    (address : Option Address) : PyM ℤ := do
  if ancdata then throw (.lwipError "sending ancillary data is not supported")
  if IOV_MAX < buffers.length then
    throw (.osError none "length of buffers exceeded IOV_MAX")
  let name ← match address with
    | some address => some <$> lift (SockAddr.parseAddress env.host address AF_UNSPEC)
    | none => pure none
  return (← checked env self "sendmsg"
    (return .sendmsg name (buffers.map (Buffer.offered env)) (← toSigned 32 flags))).ret

def shutdown (self : Ref) (how : ℤ) : PyM Unit := do
  let _ ← checked env self "shutdown" (return .shutdown (← toSigned 32 how))

def close (self : Ref) : PyM Unit := do
  let k ← getSocket self
  if 0 ≤ k.s then
    try
      let _ ← checked env self "close" (.ok .close)
    finally
      modifySocket self fun k => { k with s := -1, finalizer := none }

/-- `__exit__`: the end of a `with` block. -/
def exit (self : Ref) : PyM Unit := close env self

/-- The collector takes the object: an armed `weakref.finalize` calls `lwip_close` with the
number it was created with, past `check_ret_errno`. -/
def collect (self : Ref) : PyM Unit := do
  let k ← getSocket self
  match k.finalizer with
  | some fd => let _ ← enter env k.lwip (some self) (.on fd .close)
  | none => pure ()
  modifySocket self fun k => { k with finalizer := none, collected := true }

def getpeername (self : Ref) : PyM Address := do
  let (sa,addrLen) := SockAddr.createEmptySockaddrPaddrlen
  let r ← checked env self "getpeername" (.ok (.getpeername addrLen))
  lift ((r.name.getD sa).unparseAddress env.host)

def getsockname (self : Ref) : PyM Address := do
  let (sa,addrLen) := SockAddr.createEmptySockaddrPaddrlen
  let r ← checked env self "getsockname" (.ok (.getsockname addrLen))
  lift ((r.name.getD sa).unparseAddress env.host)

def intBytes (v : ℤ) : Bytes := (env.host.endian.encode 4 (v % 2^32).toNat).toList

/-- The pointer and the length `lwip_setsockopt` passes on. `ffi.buffer` takes cdata only. -/
def optionArgs (value : OptValue) (optlen : Option ℤ) : Except PyErr (Option Bytes × ℤ) :=
  match optlen, value with
  | none, .none => .error (.valueError "value and optlen must not be None at the same time")
  | none, .int v => do
    let v ← toSigned 32 v
    return (some (intBytes env v),4)
  | none, .bytes _ => .error .typeError
  | some optlen, .none => .ok (none,optlen)
  | some _, _ => .error (.valueError "value and optlen cannot be not-None at the same time")

def lwipSetsockopt (self : Ref) (level optname : ℤ) (value : OptValue) (optlen : Option ℤ) :
    PyM Unit := do
  let (optval,optlen) ← lift (optionArgs env value optlen)
  let _ ← checked env self "setsockopt"
    (return .setsockopt (← toSigned 32 level) (← toSigned 32 optname) optval
      (← toUnsigned 32 optlen))

/-- `ValueError` of the translation becomes `OSError(ENOPROTOOPT)`. -/
def translated (level optname : ℤ) : Except PyErr (ℤ × ℤ) :=
  match CompatTranslate.translateSockopt env level optname with
  | .error (.valueError msg) => .error (.osError (some ENOPROTOOPT) s!"LwIP: {msg}")
  | r => r

def setsockopt (self : Ref) (level optname : ℤ) (value : OptValue) (optlen : Option ℤ) :
    PyM Unit := do
  let (lwipLevel,lwipOptname) ← lift (translated env level optname)
  lwipSetsockopt env self lwipLevel lwipOptname value optlen

/-- The C `int` at the beginning of what lwIP wrote. -/
def intOf (data : Bytes) : ℤ :=
  let x := env.host.endian.decode (Vector.ofFn fun i : Fin 4 => data.getD i.val 0)
  if x < 2^31 then x else (x : ℤ) - 2^32

def lwipGetsockopt (self : Ref) (level optname : ℤ) (buflen : Option ℤ) : PyM OptResult := do
  let size ← match buflen with
    | some n => lift (newChars n)
    | none => pure 4
  let optlen ← lift (toUnsigned 32 size)
  let r ← checked env self "getsockopt"
    (return .getsockopt (← toSigned 32 level) (← toSigned 32 optname) optlen)
  match buflen with
  | some _ => return .bytes (readBack env size r.data size)
  | none => return .int (intOf env r.data)

def getsockopt (self : Ref) (level optname : ℤ) (buflen : Option ℤ) : PyM OptResult := do
  let (lwipLevel,lwipOptname) ← lift (translated env level optname)
  lwipGetsockopt env self lwipLevel lwipOptname buflen

def lwipIoctl (self : Ref) (cmd arg : ℤ) : PyM ℤ := do
  let argp ← lift (toSigned 32 arg)
  return (← checked env self "ioctl" (return .ioctl (← toSigned 64 cmd) argp)).arg

def lwipFcntl (self : Ref) (cmd val : ℤ) : PyM ℤ := do
  return (← checked env self "fcntl"
    (return .fcntl (← toSigned 32 cmd) (← toSigned 32 val))).ret

def getblocking (self : Ref) : PyM Bool := do
  let flags ← lwipFcntl env self F_GETFL 0
  return Int.land flags O_NONBLOCK == 0

def setblocking (self : Ref) (blocking : Bool) : PyM Unit := do
  let _ ← lwipIoctl env self FIONBIO (if blocking then 0 else 1)

def gettimeout (self : Ref) : PyM (Option ℚ) := do
  if ← getblocking env self then return none
  return some 0

def settimeout (self : Ref) (value : Option ℚ) : PyM Unit :=
  match value with
  | none => setblocking env self true
  | some value =>
    if value = 0 then setblocking env self false
    else throw (.valueError "Only infinite or 0 timeout supported")

end Socket
end LwipPy
