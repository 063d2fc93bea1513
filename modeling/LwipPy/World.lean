import LwipPy.Library.OrderedDict
import LwipPy.SockAddr

/-! The world a program on top of the binding runs in: `ffi.errno`, the warnings issued, the
`Socket` objects, and the record of every call made into lwIP with the answer it gave. lwIP
itself is not part of the repository; an `Env` answers its calls in any way it likes. -/
namespace LwipPy

open Program

abbrev Bytes := List UInt8

/-- The `LwIP` objects of a process, each a loaded copy of the library. -/
abbrev Instance := ℕ

/-- The `Socket` objects of a process, in the order of their creation. -/
abbrev Ref := ℕ

/-- `struct pollfd` -/
structure Pollfd where
  fd : ℤ
  events : ℤ
  revents : ℤ
  deriving DecidableEq, Repr

/-- The lwIP functions that take a descriptor, with their other arguments. A buffer lwIP
reads from stands as the bytes it is offered, one it writes to as its length. -/
inductive SockCall
  | accept (addrlen : ℕ)
  | bind (name : SockAddr) (namelen : ℕ)
  | close
  | connect (name : SockAddr) (namelen : ℕ)
  | fcntl (cmd val : ℤ)
  | getpeername (namelen : ℕ)
  | getsockname (namelen : ℕ)
  | getsockopt (level optname : ℤ) (optlen : ℕ)
  | ioctl (cmd argp : ℤ)
  | listen (backlog : ℤ)
  | recv (len : ℤ) (flags : ℤ)
  | recvfrom (len : ℤ) (flags : ℤ) (fromlen : ℕ)
  | recvmsg (namelen : ℕ) (iov : List ℕ) (flags : ℤ)
  | send (data : Bytes) (flags : ℤ)
  | sendmsg (name : Option SockAddr) (iov : List Bytes) (flags : ℤ)
  | sendto (data : Bytes) (flags : ℤ) (name : SockAddr) (namelen : ℕ)
  | setsockopt (level optname : ℤ) (optval : Option Bytes) (optlen : ℤ)
  | shutdown (how : ℤ)
  deriving DecidableEq

inductive Call
  | socket (domain type protocol : ℤ)
  | poll (fds : List Pollfd) (nfds : ℕ) (timeout : ℤ)
  | on (s : ℤ) (call : SockCall)
  deriving DecidableEq

/-- What lwIP answers: the return value, the errno it leaves (`none` when it does not touch
it), and what it writes to the out parameters. -/
structure Reply where
  ret : ℤ
  errno : Option ℤ := none
  /-- the socket address written, if any -/
  name : Option SockAddr := none
  /-- the bytes received, or the option's content -/
  data : Bytes := []
  /-- `msg_flags` -/
  flags : ℤ := 0
  /-- the integer behind `argp` -/
  arg : ℤ := 0
  /-- `revents` of each `struct pollfd` -/
  revents : List ℤ := []
  deriving DecidableEq

/-- A call into lwIP: the library it went to, the `Socket` on whose behalf it was made, the
call and the answer. -/
structure Event where
  inst : Instance
  owner : Option Ref
  call : Call
  reply : Reply
  deriving DecidableEq

/-- A `Socket` object. `finalizer` is the descriptor its `weakref.finalize` will close while
it is armed; `descriptor` is the number it was created with. -/
structure Socket where
  lwip : Instance
  family : ℤ
  type : ℤ
  proto : ℤ
  s : ℤ
  finalizer : Option ℤ
  descriptor : ℤ
  collected : Bool
  deriving DecidableEq, Repr

/-- A number no object has been created under. -/
def Socket.absent : Socket := ⟨0,0,0,0,-1,none,-1,true⟩

/-- The newest event comes first in `log`. -/
structure World where
  errno : ℤ
  warnings : List Warning
  log : List Event
  sockets : Ref → Socket
  count : ℕ

def World.init : World := ⟨0,[],[],fun _ => Socket.absent,0⟩

abbrev PyM := EStateM PyErr World

/-- Constant modules: names and their integer values. -/
abbrev Constants := OrderedDict String ℤ

/-- Everything outside the repository: lwIP, the interpreter's warning filter, the host, the
constant modules, and the bytes that happen to lie behind an allocation. -/
structure Env where
  reply : List Event → Instance → Call → Reply
  warningRaises : Warning → Bool
  host : Host
  lwipDefs : Constants
  socketDefs : Constants
  beyond : ℕ → UInt8
  /-- `errno.errorcode.get(errno)` and `os.strerror(errno)` -/
  errorText : ℤ → String

variable (env : Env)

/-- `warnings.warn`: recorded, and raised when the filter turns it into an exception. -/
def warn (w : Warning) : PyM Unit := do
  modify fun world => { world with warnings := w :: world.warnings }
  if env.warningRaises w then throw (.runtimeWarning w)

def setErrno (errno : ℤ) : PyM Unit :=
  modify fun w => { w with errno := errno }

def getErrno : PyM ℤ := do return (← get).errno

/-- Enter lwIP: the answer is recorded, and cffi saves the errno the call leaves. -/
def enter (inst : Instance) (owner : Option Ref) (call : Call) : PyM Reply := do
  let w ← get
  let r := env.reply w.log inst call
  set { w with errno := r.errno.getD w.errno, log := ⟨inst,owner,call,r⟩ :: w.log }
  return r

def getSocket (self : Ref) : PyM Socket := do return (← get).sockets self

/-- The world after lwIP answered a call. -/
def World.record (w : World) (e : Event) : World :=
  { w with errno := e.reply.errno.getD w.errno, log := e :: w.log }

@[simp] theorem World.record_log (w : World) (e : Event) : (w.record e).log = e :: w.log := rfl
@[simp] theorem World.record_warnings (w : World) (e : Event) :
    (w.record e).warnings = w.warnings := rfl
@[simp] theorem World.record_sockets (w : World) (e : Event) :
    (w.record e).sockets = w.sockets := rfl
@[simp] theorem World.record_count (w : World) (e : Event) : (w.record e).count = w.count := rfl

@[simp] theorem enter_apply (inst : Instance) (owner : Option Ref) (call : Call) (w : World) :
    enter env inst owner call w = .ok (env.reply w.log inst call)
      (w.record ⟨inst,owner,call,env.reply w.log inst call⟩) := rfl
@[simp] theorem getErrno_apply (w : World) : getErrno w = .ok w.errno w := rfl
@[simp] theorem setErrno_apply (e : ℤ) (w : World) :
    setErrno e w = .ok ⟨⟩ { w with errno := e } := rfl
@[simp] theorem getSocket_apply (self : Ref) (w : World) :
    getSocket self w = .ok (w.sockets self) w := rfl

/-- The warnings filter of a default interpreter: no warning becomes an exception. -/
def Env.Quiet : Prop := ∀ w, env.warningRaises w = false

end LwipPy
