import LwipPy.Inet
import LwipPy.Socket

/-! `LwipPoll`: registrations in a dictionary, mirrored in a C array that is rebuilt only when
the flag `_fds_fresh` is down. -/
namespace LwipPy

open Program

inductive FileObj
  | int (fd : ℤ)
  | socket (self : Ref)
  deriving DecidableEq, Repr

/-- A flag object of `PollEvent`. -/
structure PollEvent where
  value : ℤ
  deriving DecidableEq, Repr

/-- `PollEvent(value)`. Bits without a name are kept; the ten named ones are `0x3FF`, and a
negative number counts back from the next power of two. -/
def PollEvent.ofInt (value : ℤ) : PollEvent :=
  if value < -1024 then ⟨max 1024 (2^(value.natAbs.log2 + 1)) + value⟩
  else if value < 0 then ⟨1024 + value⟩
  else ⟨value⟩

theorem PollEvent.ofInt_value {value : ℤ} (h : 0 ≤ value) : (ofInt value).value = value := by
  rw [ofInt,if_neg (by omega),if_neg (by omega)]

example : PollEvent.ofInt (-1) = ⟨1023⟩ := by decide

/-- `~event`: the named bits that `event` lacks. -/
def PollEvent.invert (event : PollEvent) : PollEvent := .ofInt (Int.lnot event.value)

inductive Timeout
  | none
  | int (ms : ℤ)
  | float (ms : ℚ)
  deriving DecidableEq

/-- `None` is `-1`; cffi takes no float for a C `int`. -/
def Timeout.toInt : Timeout → Except PyErr ℤ
  | .none => toSigned 32 (-1)
  | .int ms => toSigned 32 ms
  | .float _ => .error .typeError

structure LwipPoll where
  lwip : Instance
  registeredFds : OrderedDict ℤ ℤ
  fds : Option (List Pollfd)
  fdsFresh : Bool

/-- `errno.ENOENT` -/
def ENOENT : ℤ := 2

abbrev PollM := EStateM PyErr (World × LwipPoll)

namespace LwipPoll

def init (lwip : Instance) : LwipPoll := ⟨lwip,∅,none,false⟩

/-- The second half of `_get_fd`. -/
def validFd (fd : ℤ) : Except PyErr ℤ :=
  if fd < 0 then .error (.valueError s!"Invalid fd {fd}") else .ok fd

/-- `_get_fd` -/
def getFd (self : LwipPoll) (w : World) : FileObj → Except PyErr ℤ
  | .int fd => validFd fd
  | .socket k =>
    if (w.sockets k).lwip ≠ self.lwip then
      .error (.valueError "Socket is not on same LwIP instance")
    else validFd (w.sockets k).s

/-- `self._registered_fds[fd] = eventmask`, and the array is out of date. -/
def assign (fd eventmask : ℤ) (self : LwipPoll) : LwipPoll :=
  { self with registeredFds := self.registeredFds.set fd eventmask, fdsFresh := false }

/-- `del self._registered_fds[fd]`, and the array is out of date. -/
def remove (fd : ℤ) (self : LwipPoll) : LwipPoll :=
  { self with registeredFds := self.registeredFds.del fd, fdsFresh := false }

/-- The array `_populate_fds` has just built. -/
def renew (fds : List Pollfd) (self : LwipPoll) : LwipPoll :=
  { self with fds := some fds, fdsFresh := true }

/-- The array after lwIP wrote to it. -/
def setFds (fds : List Pollfd) (self : LwipPoll) : LwipPoll := { self with fds := some fds }

def modifySelf (f : LwipPoll → LwipPoll) : PollM Unit := modify fun c => (c.1,f c.2)

/-- The default of the `eventmask` argument of `register`. -/
def defaultMask : ℤ := POLLIN + POLLOUT + POLLPRI

def register (fd : FileObj) (eventmask : ℤ) : PollM Unit := do
  let (w,self) ← get
  let fd ← lift (self.getFd w fd)
  modifySelf (assign fd eventmask)

def modify (fd : FileObj) (eventmask : ℤ) : PollM Unit := do
  let (w,self) ← get
  let fd ← lift (self.getFd w fd)
  if (self.registeredFds.get? fd).isNone then
    throw (.osError (some ENOENT) s!"LwIP poll: fd {fd} not registered")
  modifySelf (assign fd eventmask)

def unregister (fd : FileObj) : PollM Unit := do
  let (w,self) ← get
  let fd ← lift (self.getFd w fd)
  if (self.registeredFds.get? fd).isNone then throw .keyError
  modifySelf (remove fd)

/-- `{'fd': k, 'events': v}`, converted to a `struct pollfd`. -/
def pollfd (e : ℤ × ℤ) : Except PyErr Pollfd := do
  return ⟨← toSigned 32 e.1,← toSigned 16 e.2,0⟩

/-- `ffi.new('struct pollfd []', [...])` -/
def pollfds : List (ℤ × ℤ) → Except PyErr (List Pollfd)
  | [] => .ok []
  | e::es => do return (← pollfd e) :: (← pollfds es)

def populateFds : PollM (List Pollfd) := do
  let (_,self) ← get
  if self.fdsFresh then
    match self.fds with
    | some fds => return fds
    | none => throw (.assertionError "")
  else
    let fds ← lift (pollfds self.registeredFds.entries)
    modifySelf (renew fds)
    return fds

/-- The array after `lwip_poll` wrote `revents` to its entries. -/
def answered : List Pollfd → List ℤ → List Pollfd
  | [], _ => []
  | p::fds, revents => { p with revents := revents.headD 0 } :: answered fds revents.tail

/-- The entries reported. -/
def ready (fds : List Pollfd) : List (ℤ × PollEvent) :=
  (fds.filter fun p => p.revents ≠ 0).map fun p => (p.fd,.ofInt p.revents)

variable (env : Env)

/-- `lwip_poll` on the array of the object. -/
def lwipPoll (fds : List Pollfd) (timeout : Timeout) : PollM Reply := do
  let (_,self) ← get
  let timeout ← lift timeout.toInt
  let r ← zoom .fst (enter env self.lwip none (.poll fds fds.length timeout))
  modifySelf (setFds (answered fds r.revents))
  return r

/-- `check_ret_errno` around a function that also writes to the object's array. -/
def checkRetErrno (functionName : String) (function : PollM Reply) : PollM Reply := do
  zoom .fst (clearErrno env functionName)
  let r ← function
  zoom .fst (checkOutcome env functionName r)

def poll (timeout : Timeout) : PollM (List (ℤ × PollEvent)) := do
  let fds ← populateFds
  let r ← checkRetErrno env "poll" (lwipPoll env fds timeout)
  let readyFds := ready (answered fds r.revents)
  if r.ret ≠ readyFds.length then throw (.assertionError "Incorrect nready")
  return readyFds

end LwipPoll
end LwipPy
