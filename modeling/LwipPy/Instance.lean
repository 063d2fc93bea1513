import LwipPy.Methods

/-! The socket functions of the class `LwIP`. -/
namespace LwipPy

open Program

variable (env : Env)

namespace LwIP

def socketCall (family socketType proto : ℤ) : Except PyErr Call :=
  return .socket (← toSigned 32 family) (← toSigned 32 socketType) (← toSigned 32 proto)

def socket (self : Instance) (family socketType proto : ℤ) : PyM Ref := do
  let r ← checkRetErrno env "socket" do
    let call ← lift (socketCall family socketType proto)
    enter env self none call
  Socket.init self family socketType proto r.ret

/-- The local variables of `socketpair` that its `except` clause looks at. -/
structure Locals where
  serverSock : Option Ref
  clientSock : Option Ref
  deriving DecidableEq, Repr

abbrev PairM := EStateM PyErr (World × Locals)

def setServer (s : Ref) : PairM Unit := modify fun c => (c.1,{ c.2 with serverSock := some s })
def setClient (s : Ref) : PairM Unit := modify fun c => (c.1,{ c.2 with clientSock := some s })

/-- A program of the world, at a place where local variables are around. -/
abbrev outer {α : Type} (m : PyM α) : PairM α := zoom .fst m

/-- The block under the inner `try` of a stream pair, once `listen_sock` exists. -/
def connectThrough (self : Instance) (family type proto : ℤ) (localBindAddress : Address)
    (listenSock : Ref) : PairM (Ref × Ref) := do
  let _ ← outer (Socket.bind env listenSock localBindAddress)
  let _ ← outer (Socket.listen env listenSock (-1))
  let clientSock ← outer (socket env self family type proto)
  setClient clientSock
  outer (Socket.setblocking env clientSock false)
  let address ← outer (Socket.getsockname env listenSock)
  let _ ← outer (Socket.connectEx env clientSock address)
  let (serverSock,_) ← outer (Socket.accept env listenSock)
  setServer serverSock
  return (clientSock,serverSock)

def streamPair (self : Instance) (family type proto : ℤ) (localBindAddress : Address) :
    PairM (Ref × Ref) := do
  let listenSock ← outer (socket env self family type proto)
  try connectThrough env self family type proto localBindAddress listenSock
  finally outer (Socket.close env listenSock)

def dgramPair (self : Instance) (family type proto : ℤ) (localBindAddress : Address) :
    PairM (Ref × Ref) := do
  let serverSock ← outer (socket env self family type proto)
  setServer serverSock
  let clientSock ← outer (socket env self family type proto)
  setClient clientSock
  let _ ← outer (Socket.bind env serverSock localBindAddress)
  let address ← outer (Socket.getsockname env serverSock)
  let _ ← outer (Socket.connectEx env clientSock address)
  let address ← outer (Socket.getsockname env clientSock)
  let _ ← outer (Socket.connectEx env serverSock address)
  return (clientSock,serverSock)

/-- `server_sock.getsockname() != client_sock.getpeername() or
server_sock.getpeername() != client_sock.getsockname()` -/
def notConnected (clientSock serverSock : Ref) : PyM Bool := do
  let a ← Socket.getsockname env serverSock
  let b ← Socket.getpeername env clientSock
  if a ≠ b then return true
  let a ← Socket.getpeername env serverSock
  let b ← Socket.getsockname env clientSock
  return a ≠ b

/-- The rest of the outer `try` block. -/
def finishPair (blocking : Bool) (clientSock serverSock : Ref) : PyM (Ref × Ref) := do
  if ← notConnected env clientSock serverSock then
    throw (.connectionError "socket pair not connected to each other")
  Socket.setblocking env clientSock blocking
  Socket.setblocking env serverSock blocking
  return (clientSock,serverSock)

def closeIfAny : Option Ref → PyM Unit
  | some s => Socket.close env s
  | none => pure ()

/-- The `except` clause. -/
def closeAndRaise (e : PyErr) : PairM (Ref × Ref) := do
  let (_,locals) ← get
  outer (closeIfAny env locals.serverSock)
  outer (closeIfAny env locals.clientSock)
  throw e

def loopback (family : ℤ) : Except PyErr Address :=
  if family = AF_INET then .ok (.inet "127.0.0.1" 0)
  else if family = AF_INET6 then .ok (.inet6 "::1" 0 0 0)
  else .error (.valueError "Invalid family")

/-- The outer `try` block. -/
def makePair (self : Instance) (family type proto : ℤ) (blocking : Bool)
    (localBindAddress : Address) : PairM (Ref × Ref) := do
  let (clientSock,serverSock) ←
    if type = SOCK_STREAM then streamPair env self family type proto localBindAddress
    else if type = SOCK_DGRAM then dgramPair env self family type proto localBindAddress
    else throw (.valueError "Invalid type")
  outer (finishPair env blocking clientSock serverSock)

def socketpair (self : Instance) (family type proto : ℤ) (blocking : Bool) : PyM (Ref × Ref) := do
  let localBindAddress ← lift (loopback family)
  withLocal ⟨none,none⟩
    (tryCatch (makePair env self family type proto blocking localBindAddress) (closeAndRaise env))

/-- Making, accepting and closing a socket and every method of one respect `R`. -/
structure CallsRespect (R : World → World → Prop) : Prop where
  socket : ∀ self family socketType proto,
    Respects R (LwIP.socket env self family socketType proto)
  accept : ∀ s, Respects R (Socket.accept env s)
  close : ∀ s, Respects R (Socket.close env s)
  method : ∀ s (m : Method), Respects R (m.exec env s)

section Locals

variable {R : World → World → Prop} [IsPreorder World R]

theorem respects_setServer (s : Ref) : Respects (OnFst R) (setServer s) :=
  fun c => refl_of R c.1

theorem respects_setClient (s : Ref) : Respects (OnFst R) (setClient s) :=
  fun c => refl_of R c.1

end Locals

namespace CallsRespect

variable {env} {R : World → World → Prop} [IsPreorder World R] (h : CallsRespect env R)
include h

omit [IsPreorder World R] in
theorem result {α : Type} (s : Ref) (m : Method) {program : PyM α}
    (hm : m.exec env s = discard program) : Respects R program := by
  refine respects_of_discard ?_
  rw [← hm]
  exact h.method s m

omit [IsPreorder World R] in
theorem outerResult {α : Type} (s : Ref) (m : Method) {program : PyM α}
    (hm : m.exec env s = discard program) : Respects (OnFst R) (outer program) :=
  respects_zoom_fst (h.result s m hm)

theorem streamPair (self : Instance) (family type proto : ℤ) (address : Address) :
    Respects (OnFst R) (LwIP.streamPair env self family type proto address) := by
  refine respects_bind (respects_zoom_fst (h.socket _ _ _ _)) fun listenSock =>
    respects_tryFinally ?_ (respects_zoom_fst (h.close listenSock))
  refine respects_bind (h.outerResult listenSock (.bind address) rfl) fun _ => ?_
  refine respects_bind (h.outerResult listenSock (.listen (-1)) rfl) fun _ => ?_
  refine respects_bind (respects_zoom_fst (h.socket _ _ _ _)) fun clientSock => ?_
  refine respects_bind (respects_setClient _) fun _ => ?_
  refine respects_bind (respects_zoom_fst (h.method clientSock (.setblocking false))) fun _ => ?_
  refine respects_bind (h.outerResult listenSock .getsockname rfl) fun address => ?_
  refine respects_bind (h.outerResult clientSock (.connectEx address) rfl) fun _ => ?_
  refine respects_bind (respects_zoom_fst (h.accept listenSock)) fun accepted => ?_
  exact respects_bind (respects_setServer _) fun _ => respects_pure _

theorem dgramPair (self : Instance) (family type proto : ℤ) (address : Address) :
    Respects (OnFst R) (LwIP.dgramPair env self family type proto address) := by
  refine respects_bind (respects_zoom_fst (h.socket _ _ _ _)) fun serverSock => ?_
  refine respects_bind (respects_setServer _) fun _ => ?_
  refine respects_bind (respects_zoom_fst (h.socket _ _ _ _)) fun clientSock => ?_
  refine respects_bind (respects_setClient _) fun _ => ?_
  refine respects_bind (h.outerResult serverSock (.bind address) rfl) fun _ => ?_
  refine respects_bind (h.outerResult serverSock .getsockname rfl) fun address => ?_
  refine respects_bind (h.outerResult clientSock (.connectEx address) rfl) fun _ => ?_
  refine respects_bind (h.outerResult clientSock .getsockname rfl) fun address => ?_
  refine respects_bind (h.outerResult serverSock (.connectEx address) rfl) fun _ => ?_
  exact respects_pure _

theorem finishPair (blocking : Bool) (clientSock serverSock : Ref) :
    Respects R (LwIP.finishPair env blocking clientSock serverSock) := by
  have hname : ∀ s : Ref, Respects R (Socket.getsockname env s) := fun s =>
    h.result s .getsockname rfl
  have hpeer : ∀ s : Ref, Respects R (Socket.getpeername env s) := fun s =>
    h.result s .getpeername rfl
  refine respects_bind ?_ fun differ => ?_
  · refine respects_bind (hname _) fun a => respects_bind (hpeer _) fun b => ?_
    split
    · exact respects_pure _
    · exact respects_bind (hpeer _) fun a => respects_bind (hname _) fun b => respects_pure _
  · have hset : ∀ s : Ref, Respects R (Socket.setblocking env s blocking) := fun s =>
      h.method s (.setblocking blocking)
    have hrest : Respects R (do
        Socket.setblocking env clientSock blocking
        Socket.setblocking env serverSock blocking
        return (clientSock,serverSock)) :=
      respects_bind (hset _) fun _ => respects_bind (hset _) fun _ => respects_pure _
    split
    · exact respects_bind (respects_throw _) fun _ => hrest
    · exact hrest

theorem socketpair (self : Instance) (family type proto : ℤ) (blocking : Bool) :
    Respects R (LwIP.socketpair env self family type proto blocking) := by
  refine respects_bind (respects_lift _) fun address => respects_withLocal
    (respects_tryCatch ?_ fun e => ?_)
  · rw [makePair]
    have hfinish : ∀ p : Ref × Ref, Respects (OnFst R)
        (outer (LwIP.finishPair env blocking p.1 p.2)) :=
      fun p => respects_zoom_fst (h.finishPair blocking p.1 p.2)
    split
    · exact respects_bind (h.streamPair self family type proto address) hfinish
    · split
      · exact respects_bind (h.dgramPair self family type proto address) hfinish
      · exact respects_bind (respects_throw _) hfinish
  · have hclose : ∀ s, Respects (OnFst R) (outer (closeIfAny env s)) := by
      intro s
      cases s with
      | none => exact respects_zoom_fst (respects_pure _)
      | some s => exact respects_zoom_fst (h.close s)
    rw [closeAndRaise]
    exact respects_bind respects_get fun c => respects_bind (hclose _) fun _ =>
      respects_bind (hclose _) fun _ => respects_throw _

end CallsRespect

end LwIP
end LwipPy
