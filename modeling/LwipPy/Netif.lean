import LwipPy.World

/-! `Netif` and its driver: the methods as calls into lwIP under the core lock, and the three
callbacks through which lwIP reaches the driver. -/
namespace LwipPy

open Program

/-- A Python object, as far as the callbacks look at it: `len` of it, and what cffi makes of it
where C wants an integer. -/
inductive PyValue
  | int (n : ℤ)
  | bytes (b : Bytes)
  | other (len : Except PyErr ℕ) (int : Except PyErr ℤ)

namespace PyValue

def len : PyValue → Except PyErr ℕ
  | .int _ => .error .typeError
  | .bytes b => .ok b.length
  | .other length _ => length

def asInt : PyValue → Except PyErr ℤ
  | .int n => .ok n
  | .bytes _ => .error .typeError
  | .other _ value => value

/-- `isinstance(v, bytes)`, with the bytes. -/
def bytes? : PyValue → Option Bytes
  | .bytes b => some b
  | _ => none

end PyValue

/-- What a driver sets through the properties of `Netif`. -/
structure Link where
  /-- the first `hwaddr_len` bytes of the field -/
  hwaddr : Bytes
  flags : ℕ
  deriving DecidableEq, Repr

inductive OutputFn
  | netifOutput
  | netifOutputIp6
  deriving DecidableEq, Repr

/-- `struct netif` -/
structure NetifStruct where
  link : Link
  mtu : ℕ
  name : Bytes
  output : Option OutputFn
  outputIp6 : Option OutputFn
  deriving DecidableEq, Repr

def NetifStruct.linkPart : Part NetifStruct Link where
  read := NetifStruct.link
  write n l := { n with link := l }
  read_write _ _ := rfl
  write_read _ := rfl
  write_write _ _ _ := rfl

/-- A driver, with what each of its methods does when it is called. -/
structure NetifDriver where
  getPrefix : Except PyErr PyValue
  getMtu : Except PyErr PyValue
  lwipOnInit : EStateM PyErr Link PyValue
  lwipOnOutput : Bytes → Bytes → Except PyErr PyValue
  lwipOnOutputIp6 : Bytes → Bytes → ℕ → Except PyErr PyValue

/-- The base class. -/
def NetifDriver.base : NetifDriver where
  getPrefix := .ok (.bytes [112,121])
  getMtu := .ok (.int 1500)
  lwipOnInit := throw .notImplementedError
  lwipOnOutput _ _ := .error .notImplementedError
  lwipOnOutputIp6 _ _ _ := .error .notImplementedError

/-- A result of the C type `err_t`, a signed byte. -/
def asErrT (v : PyValue) : Except PyErr ℤ := do toSigned 8 (← v.asInt)

/-- A cffi callback that returns `err_t`: when the body raises, or its result does not convert,
the exception is printed and C gets 0. -/
def callback {σ : Type} (body : EStateM PyErr σ PyValue) (s : σ) : ℤ × σ :=
  match body s with
  | .ok v t =>
    match asErrT v with
    | .ok ret => (ret,t)
    | .error _ => (0,t)
  | .error _ t => (0,t)

/-- The body of `_netif_init`. -/
def netifInitBody (driver : NetifDriver) : EStateM PyErr NetifStruct PyValue := do
  let prefix' ← lift driver.getPrefix
  if (← lift prefix'.len) ≠ 2 then
    throw (.assertionError "Prefix must be no longer than 2 bytes")
  match prefix'.bytes? with
  | none => throw (.assertionError "Prefix must be a `bytes` object")
  | some name => do
    modify fun netif => { netif with link := { netif.link with hwaddr := [] } }
    let mtu ← lift (do toUnsigned 16 (← (← driver.getMtu).asInt))
    modify fun netif => { netif with mtu := mtu }
    modify fun netif => { netif with name := name.take 2 }
    modify fun netif => { netif with output := some .netifOutput }
    modify fun netif => { netif with outputIp6 := some .netifOutputIp6 }
    zoom NetifStruct.linkPart driver.lwipOnInit

def netifInit (driver : NetifDriver) : NetifStruct → ℤ × NetifStruct :=
  callback (netifInitBody driver)

abbrev PbufRef := ℕ

/-- `struct pbuf`; `payload` has the `len` bytes of the node. -/
structure Pbuf where
  payload : Bytes
  totLen : ℕ
  next : Option PbufRef
  deriving DecidableEq, Repr

def MAX_PBUF_FRAGMENTS : ℕ := 1000

/-- The loop of `_pbuf_to_bytes`, for at most `fragments` nodes. -/
def pbufFragments (heap : PbufRef → Pbuf) : ℕ → PbufRef → Bytes
  | 0, _ => []
  | fragments+1, p =>
    let pbuf := heap p
    pbuf.payload ++
      if pbuf.payload.length = pbuf.totLen then []
      else match pbuf.next with
        | some next => pbufFragments heap fragments next
        | none => []

def pbufToBytes (heap : PbufRef → Pbuf) (p : PbufRef) : Bytes :=
  pbufFragments heap MAX_PBUF_FRAGMENTS p

/-- `_netif_output`, on the four bytes of the address. -/
def netifOutput (driver : NetifDriver) (heap : PbufRef → Pbuf) (p : PbufRef) (addr : Bytes) : ℤ :=
  (callback (lift (driver.lwipOnOutput (pbufToBytes heap p) addr)) PUnit.unit).1

/-- `_netif_output_ip6`, on the sixteen bytes of the address and its zone. -/
def netifOutputIp6 (driver : NetifDriver) (heap : PbufRef → Pbuf) (p : PbufRef) (addr : Bytes)
    (zone : ℕ) : ℤ :=
  (callback (lift (driver.lwipOnOutputIp6 (pbufToBytes heap p) addr zone)) PUnit.unit).1

/-- The `struct netif` of a process. -/
abbrev NetifRef := ℕ

/-- A `Netif` object: its library and its struct. -/
structure Netif where
  lwip : Instance
  netif : NetifRef
  deriving DecidableEq, Repr

abbrev Ip4Config := Vector UInt8 4 × Vector UInt8 4 × Vector UInt8 4

/-- The functions of lwIP that take a `struct netif`, and the input function stored in it. -/
inductive NetifCall
  | netifAdd (netif : NetifRef) (config : Ip4Config)
  | netifRemove (netif : NetifRef)
  | netifSetUp (netif : NetifRef)
  | netifSetDown (netif : NetifRef)
  | netifSetLinkUp (netif : NetifRef)
  | netifSetLinkDown (netif : NetifRef)
  | netifSetDefault (netif : NetifRef)
  | tcpipInput (netif : NetifRef) (payload : Bytes)
  | netifCreateIp6LinklocalAddress (netif : NetifRef) (fromMac48bit : ℤ)
  | netifAddIp6Address (netif : NetifRef) (addr : Vector UInt8 16) (zone : ℕ)
  deriving DecidableEq

inductive NetifMethod
  | add (ip netmask gateway : String)
  | remove
  | setUp
  | setDown
  | setLinkUp
  | setLinkDown
  | setDefault
  | input (payload : Bytes)
  | createIp6LinklocalAddress (fromMac48bit : Bool)
  | addIpv6Address (address : String) (zone : ℤ)
  deriving DecidableEq, Repr

variable (inet : Inet)

/-- `ip4_addr` -/
def ip4Addr (ip : String) : Except PyErr (Vector UInt8 4) :=
  match inet.pton4 ip with
  | some addr => .ok addr
  | none => .error (inetPtonError ip)

/-- The arguments of `add`, in the order they are converted. -/
def ip4Config (ip netmask gateway : String) : Except PyErr Ip4Config := do
  return (← ip4Addr inet ip,← ip4Addr inet netmask,← ip4Addr inet gateway)

theorem ip4Addr_ok {inet : Inet} {s : String} {memory : Vector UInt8 4} :
    ip4Addr inet s = .ok memory ↔ inet.pton4 s = some memory := by
  cases h : inet.pton4 s <;> simp [ip4Addr,h]

theorem ip4Config_ok {inet : Inet} {ip netmask gateway : String} {config : Ip4Config} :
    ip4Config inet ip netmask gateway = .ok config ↔ ip4Addr inet ip = .ok config.1 ∧
      ip4Addr inet netmask = .ok config.2.1 ∧ ip4Addr inet gateway = .ok config.2.2 := by
  simp only [ip4Config,except_bind_ok]
  constructor
  · rintro ⟨a,ha,b,hb,c,hc,h⟩
    cases h
    exact ⟨ha,hb,hc⟩
  · rintro ⟨ha,hb,hc⟩
    exact ⟨_,ha,_,hb,_,hc,rfl⟩

/-- `ip6_addr`; the field `zone` is a byte. -/
def ip6Addr (ip : String) (zone : ℤ) : Except PyErr (Vector UInt8 16 × ℕ) :=
  match inet.pton6 ip with
  | some addr => do return (addr,← toUnsigned 8 zone)
  | none => .error (inetPtonError ip)

/-- A section under the core lock of an instance. It may raise before it calls lwIP. -/
structure Section where
  lock : Instance
  call : Except PyErr NetifCall

/-- `with TcpIpCoreLock(self.lwip):` -/
def Netif.withCoreLock (self : Netif) (call : Except PyErr NetifCall) : Except PyErr Section :=
  .ok ⟨self.lwip,call⟩

/-- The section of each method. `input` is the function lwIP stored in the struct: `tcpip_input`
of the instance `add` was called on takes the lock itself, and before that there is none. -/
def Netif.section (self : Netif) (input : Option Instance) :
    NetifMethod → Except PyErr Section
  | .add ip netmask gateway => self.withCoreLock do
      return .netifAdd self.netif (← ip4Config inet ip netmask gateway)
  | .remove => self.withCoreLock (.ok (.netifRemove self.netif))
  | .setUp => self.withCoreLock (.ok (.netifSetUp self.netif))
  | .setDown => self.withCoreLock (.ok (.netifSetDown self.netif))
  | .setLinkUp => self.withCoreLock (.ok (.netifSetLinkUp self.netif))
  | .setLinkDown => self.withCoreLock (.ok (.netifSetLinkDown self.netif))
  | .setDefault => self.withCoreLock (.ok (.netifSetDefault self.netif))
  | .input payload => do
      -- the length of a pbuf is 16 bits wide
      let _ ← toUnsigned 16 payload.length
      match input with
      | some lwip => .ok ⟨lwip,.ok (.tcpipInput self.netif payload)⟩
      | none => .error (.runtimeError "cannot call null function pointer")
  | .createIp6LinklocalAddress fromMac48bit => self.withCoreLock
      (.ok (.netifCreateIp6LinklocalAddress self.netif (if fromMac48bit then 1 else 0)))
  | .addIpv6Address address zone => do
      let (newAddr,zone) ← ip6Addr inet address zone
      self.withCoreLock (.ok (.netifAddIp6Address self.netif newAddr zone))

end LwipPy
