import LwipPy.Poll

/-! `LwipPollSelector` on top of the `register`, `unregister`, `modify` and `select` of the classes
`_BaseSelectorImpl` and `_PollLikeSelector` of CPython's `selectors`. The selector keeps a
dictionary of keys, its `LwipPoll` a dictionary of masks. -/
namespace LwipPy

open Program

def EVENT_READ : ℤ := 1
def EVENT_WRITE : ℤ := 2

/-- `selectors.SelectorKey` -/
structure SelectorKey (δ : Type) where
  fileobj : FileObj
  fd : ℤ
  events : ℤ
  data : δ
  deriving DecidableEq, Repr

/-- `_selector` is the `LwipPoll`. -/
structure Selector (δ : Type) where
  lwip : Instance
  fdToKey : OrderedDict ℤ (SelectorKey δ)
  selector : LwipPoll

variable {δ : Type}

/-- A program that works on one selector. -/
abbrev SelectorM (δ : Type) := EStateM PyErr (World × Selector δ)

namespace Selector

def init (lwip : Instance) : Selector δ := ⟨lwip,∅,LwipPoll.init lwip⟩

/-- The selector's poll object in its world. -/
def pollPart : Part (World × Selector δ) (World × LwipPoll) where
  read c := (c.1,c.2.selector)
  write c t := (t.1,{ c.2 with selector := t.2 })
  read_write _ _ := rfl
  write_read _ := rfl
  write_write _ _ _ := rfl

theorem zoom_poll_ok {α : Type} {m : PollM α} {w w' : World} {self : Selector δ} {t : LwipPoll}
    {a : α} (h : m (w,self.selector) = .ok a (w',t)) :
    zoom pollPart m (w,self) = .ok a (w',{ self with selector := t }) := by
  have h' : m ((pollPart (δ := δ)).read (w,self)) = .ok a (w',t) := h
  exact zoom_of_ok h'

def validFd (fd : ℤ) : Except PyErr ℤ :=
  if fd < 0 then .error (.valueError s!"Invalid file descriptor: {fd}") else .ok fd

/-- `_fileobj_to_fd` -/
def fileobjToFd (fileobj : FileObj) (lwipInst : Instance) (w : World) : Except PyErr ℤ :=
  match fileobj with
  | .int fd => validFd fd
  | .socket k =>
    if (w.sockets k).lwip ≠ lwipInst then
      .error (.valueError "Socket is not on same lwIP instance")
    else validFd (w.sockets k).s

/-- `_fileobj_lookup`: when there is no number, the object itself is searched for. -/
def fileobjLookup (self : Selector δ) (w : World) (fileobj : FileObj) : Except PyErr ℤ :=
  match fileobjToFd fileobj self.lwip w with
  | .ok fd => .ok fd
  | .error e =>
    match self.fdToKey.entries.find? fun entry => entry.2.fileobj = fileobj with
    | some entry => .ok entry.2.fd
    | none => .error e

def setKey (key : SelectorKey δ) (self : Selector δ) : Selector δ :=
  { self with fdToKey := self.fdToKey.set key.fd key }

def delKey (fd : ℤ) (self : Selector δ) : Selector δ :=
  { self with fdToKey := self.fdToKey.del fd }

def modifySelf (f : Selector δ → Selector δ) : SelectorM δ Unit :=
  MonadState.modifyGet fun c => (⟨⟩,(c.1,f c.2))

/-- The mask of the events asked for, `_EVENT_READ` and `_EVENT_WRITE` put together. -/
def pollerEvents (events : ℤ) : ℤ :=
  Int.lor (if Int.land events EVENT_READ ≠ 0 then POLLIN else 0)
    (if Int.land events EVENT_WRITE ≠ 0 then POLLOUT else 0)

/-- `(not events) or (events & ~(EVENT_READ | EVENT_WRITE))` -/
def invalidEvents (events : ℤ) : Bool :=
  events = 0 ∨ Int.land events (Int.lnot (Int.lor EVENT_READ EVENT_WRITE)) ≠ 0

/-- `_BaseSelectorImpl.register` -/
def baseRegister (fileobj : FileObj) (events : ℤ) (data : δ) : SelectorM δ (SelectorKey δ) := do
  if invalidEvents events then throw (.valueError s!"Invalid events: {events}")
  let (w,self) ← get
  let fd ← lift (self.fileobjLookup w fileobj)
  let key : SelectorKey δ := ⟨fileobj,fd,events,data⟩
  if (self.fdToKey.get? key.fd).isSome then throw .keyError
  modifySelf (setKey key)
  return key

/-- `_BaseSelectorImpl.unregister` -/
def baseUnregister (fileobj : FileObj) : SelectorM δ (SelectorKey δ) := do
  let (w,self) ← get
  let fd ← lift (self.fileobjLookup w fileobj)
  match self.fdToKey.get? fd with
  | none => throw .keyError
  | some key =>
    modifySelf (delKey fd)
    return key

def register (fileobj : FileObj) (events : ℤ) (data : δ) : SelectorM δ (SelectorKey δ) := do
  let key ← baseRegister fileobj events data
  tryCatch (zoom pollPart (LwipPoll.register (.int key.fd) (pollerEvents events))) fun e => do
    let _ ← baseUnregister fileobj
    throw e
  return key

/-- `except OSError: pass` -/
def passOsError (e : PyErr) : SelectorM δ Unit :=
  match e with
  | .osError _ _ => pure ()
  | e => throw e

def unregister (fileobj : FileObj) : SelectorM δ (SelectorKey δ) := do
  let key ← baseUnregister fileobj
  tryCatch (zoom pollPart (LwipPoll.unregister (.int key.fd))) passOsError
  return key

/-- The milliseconds `select` passes on, where `product` is the product `timeout*1e3`, rounded to
a float. -/
def selectTimeout (product : ℚ → ℚ) : Option ℚ → Timeout
  | none => .none
  | some timeout => if timeout ≤ 0 then .int 0 else .int ⌈product timeout⌉

/-- `errno.EINTR` -/
def EINTR : ℤ := 4

/-- `except InterruptedError: return ready` -/
def passInterrupted (e : PyErr) : SelectorM δ (List (ℤ × PollEvent)) :=
  match e with
  | .osError errno _ => if errno = some EINTR then pure [] else throw e
  | e => throw e

/-- The events of a key that the poll object reports with `event`. -/
def readyEvents (event : PollEvent) : ℤ :=
  Int.lor (if Int.land event.value (PollEvent.invert ⟨POLLIN⟩).value ≠ 0 then EVENT_WRITE else 0)
    (if Int.land event.value (PollEvent.invert ⟨POLLOUT⟩).value ≠ 0 then EVENT_READ else 0)

def select (env : Env) (product : ℚ → ℚ) (timeout : Option ℚ) :
    SelectorM δ (List (SelectorKey δ × ℤ)) := do
  let fdEventList ← tryCatch (zoom pollPart (LwipPoll.poll env (selectTimeout product timeout)))
    passInterrupted
  let (_,self) ← get
  return fdEventList.filterMap fun (fd,event) =>
    (self.fdToKey.get? fd).map fun key => (key,Int.land (readyEvents event) key.events)

/-- `modify`, where `differs` is the comparison `data != key.data`. It comes last, and it is a
method of the user's object, so that it may raise. -/
def modify (differs : δ → δ → Except PyErr Bool) (fileobj : FileObj) (events : ℤ) (data : δ) :
    SelectorM δ (SelectorKey δ) := do
  let (w,self) ← get
  let fd ← lift (self.fileobjLookup w fileobj)
  match self.fdToKey.get? fd with
  | none => throw .keyError
  | some key =>
    if events ≠ key.events then
      tryCatch (zoom pollPart (LwipPoll.modify (.int key.fd) (pollerEvents events))) fun e => do
        let _ ← baseUnregister fileobj
        throw e
    let different ← lift (differs data key.data)
    if events ≠ key.events ∨ different = true then
      let key := { key with events, data }
      modifySelf (setKey key)
      return key
    else return key

end Selector
end LwipPy
