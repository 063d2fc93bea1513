import LwipPy.Library.Program
import LwipPy.Python
import LwipPy.Defs

/-! `SockAddr`: the overlay of `struct sockaddr_in` and `struct sockaddr_in6` on one
`struct sockaddr_storage`, and the conversion from and to Python address tuples. -/
namespace LwipPy

open ByteImage Program

/-- `sizeof(struct sockaddr_storage)` in lwIP with IPv6. -/
def sizeofStorage : ℕ := 28
def sizeofSockaddrIn : ℕ := 16
def sizeofSockaddrIn6 : ℕ := 28

abbrev Storage := Vector UInt8 28

namespace Storage

def saLen : Field 28 1 := ⟨0,by decide⟩
def saFamily : Field 28 1 := ⟨1,by decide⟩
def sinPort : Field 28 2 := ⟨2,by decide⟩
def sinAddr : Field 28 4 := ⟨4,by decide⟩
def sin6Flowinfo : Field 28 4 := ⟨4,by decide⟩
def sin6Addr : Field 28 16 := ⟨8,by decide⟩
def sin6ScopeId : Field 28 4 := ⟨24,by decide⟩

end Storage

open Storage

/-- A Python address tuple: `(host, port)`, `(host, port, flowinfo, scope_id)`, or a
tuple of another length. -/
inductive Address
  | inet (host : String) (port : ℤ)
  | inet6 (host : String) (port flowinfo scopeId : ℤ)
  | other (len : ℕ) (h : len ≠ 2 ∧ len ≠ 4)
  deriving DecidableEq

def Address.length : Address → ℕ
  | .inet _ _ => 2
  | .inet6 _ _ _ _ => 4
  | .other n _ => n

structure SockAddr where
  sa : Storage
  deriving DecidableEq

namespace SockAddr

/-- `SockAddr()`: `ffi.new` clears the storage. -/
def new : SockAddr := ⟨Vector.replicate 28 0⟩

/-- `self._sa.s2_len` -/
def len (a : SockAddr) : ℕ := Endian.little.decode (saLen.read a.sa)

/-- `self._sa.ss_family` -/
def family (a : SockAddr) : ℤ := Endian.little.decode (saFamily.read a.sa)

-- `s2_len` and `ss_family` are single bytes, so the byte order does not matter here.
def setLen (a : SockAddr) (x : ℕ) : SockAddr := ⟨saLen.write a.sa (Endian.little.encode 1 x)⟩
def setFamily (a : SockAddr) (x : ℕ) : SockAddr :=
  ⟨saFamily.write a.sa (Endian.little.encode 1 x)⟩

/-- Store an unsigned C integer into a field, in the order of the machine. -/
def store {l : ℕ} (host : Host) (f : Field 28 l) (x : ℕ) (a : SockAddr) : SockAddr :=
  ⟨f.write a.sa (host.endian.encode l x)⟩

/-- `ffi.memmove` into a field. -/
def move {l : ℕ} (f : Field 28 l) (bs : Vector UInt8 l) (a : SockAddr) : SockAddr :=
  ⟨f.write a.sa bs⟩

def createEmptySockaddr : SockAddr := new.setLen sizeofStorage

/-- The out parameters of a socket function: an empty address and its length. -/
def createEmptySockaddrPaddrlen : SockAddr × ℕ :=
  let sa := createEmptySockaddr
  (sa,sa.len)

/-- `bytes(4)` for an empty host, `inet_pton` otherwise. -/
def hostBytes4 (host : Host) (text : String) : Except PyErr (Vector UInt8 4) :=
  if text = "" then .ok (Vector.replicate 4 0)
  else match host.inet.pton4 text with
    | some bs => .ok bs
    | none => .error (inetPtonError text)

def hostBytes6 (host : Host) (text : String) : Except PyErr (Vector UInt8 16) :=
  if text = "" then .ok (Vector.replicate 16 0)
  else match host.inet.pton6 text with
    | some bs => .ok bs
    | none => .error (inetPtonError text)

/-- The branch of `parse_address` for `AF_INET`. -/
def parseInet (host : Host) : Address → Except PyErr SockAddr
  | .inet text port => do
    let bs ← hostBytes4 host text
    let sa := (new.setLen sizeofSockaddrIn).setFamily AF_INET.toNat
    let port ← host.htons port
    return (sa.store host sinPort port).move sinAddr bs
  | _ => .error (.valueError "Invalid address tuple length for AF_INET")

def parseInet6 (host : Host) : Address → Except PyErr SockAddr
  | .inet6 text port flowinfo scopeId => do
    let bs ← hostBytes6 host text
    let sa := (new.setLen sizeofSockaddrIn6).setFamily AF_INET6.toNat
    let port ← host.htons port
    let sa := sa.store host sinPort port
    let flowinfo ← toUnsigned 32 flowinfo
    let sa := (sa.store host sin6Flowinfo flowinfo).move sin6Addr bs
    let scopeId ← toUnsigned 32 scopeId
    return sa.store host sin6ScopeId scopeId
  | _ => .error (.valueError "Invalid address tuple length for AF_INET6")

def parseAddress (host : Host) (address : Address) (family : ℤ) : Except PyErr SockAddr := do
  let family ←
    if family = AF_UNSPEC then
      match address.length with
      | 2 => pure AF_INET
      | 4 => pure AF_INET6
      | _ => .error (.valueError "Invalid address tuple length")
    else pure family
  if family = AF_INET then parseInet host address
  else if family = AF_INET6 then parseInet6 host address
  else .error (.valueError "Invalid family")

def unparseAddress (host : Host) (a : SockAddr) : Except PyErr Address :=
  if a.family = AF_INET then
    let text := host.inet.ntop4 (sinAddr.read a.sa)
    let port := host.ntohs (host.endian.decode (sinPort.read a.sa))
    .ok (.inet text port)
  else if a.family = AF_INET6 then
    let text := host.inet.ntop6 (sin6Addr.read a.sa)
    let port := host.ntohs (host.endian.decode (sinPort.read a.sa))
    let flowinfo := host.endian.decode (sin6Flowinfo.read a.sa)
    let scopeId := host.endian.decode (sin6ScopeId.read a.sa)
    .ok (.inet6 text port flowinfo scopeId)
  else .error (.valueError "Invalid family")

def inetImage (host : Host) (bs : Vector UInt8 4) (port : ℕ) : SockAddr :=
  (((new.setLen sizeofSockaddrIn).setFamily AF_INET.toNat).store host sinPort
    (host.endian.toNetwork 2 port)).move sinAddr bs

def inet6Image (host : Host) (bs : Vector UInt8 16) (port flowinfo scopeId : ℕ) : SockAddr :=
  (((((new.setLen sizeofSockaddrIn6).setFamily AF_INET6.toNat).store host sinPort
    (host.endian.toNetwork 2 port)).store host sin6Flowinfo flowinfo).move sin6Addr bs).store
      host sin6ScopeId scopeId

section Images

variable (host : Host) (b4 : Vector UInt8 4) (b6 : Vector UInt8 16) (port flowinfo scopeId : ℕ)

@[simp] theorem inetImage_family : (inetImage host b4 port).family = AF_INET := by
  simp (disch := decide) only [inetImage,family,move,store,setFamily,Field.read_write_of_apart,
    Field.read_write]
  rfl

@[simp] theorem inetImage_len : (inetImage host b4 port).len = sizeofSockaddrIn := by
  simp (disch := decide) only [inetImage,len,move,store,setFamily,setLen,
    Field.read_write_of_apart,Field.read_write]
  rfl

@[simp] theorem inetImage_port :
    sinPort.read (inetImage host b4 port).sa = Endian.big.encode 2 port := by
  simp (disch := decide) only [inetImage,move,store,Field.read_write_of_apart,Field.read_write]
  exact Endian.encode_toNetwork host.endian 2 port

@[simp] theorem inetImage_addr : sinAddr.read (inetImage host b4 port).sa = b4 :=
  Field.read_write _ _ _

@[simp] theorem inet6Image_family :
    (inet6Image host b6 port flowinfo scopeId).family = AF_INET6 := by
  simp (disch := decide) only [inet6Image,family,move,store,setFamily,Field.read_write_of_apart,
    Field.read_write]
  rfl

@[simp] theorem inet6Image_len :
    (inet6Image host b6 port flowinfo scopeId).len = sizeofSockaddrIn6 := by
  simp (disch := decide) only [inet6Image,len,move,store,setFamily,setLen,
    Field.read_write_of_apart,Field.read_write]
  rfl

@[simp] theorem inet6Image_port :
    sinPort.read (inet6Image host b6 port flowinfo scopeId).sa = Endian.big.encode 2 port := by
  simp (disch := decide) only [inet6Image,move,store,Field.read_write_of_apart,Field.read_write]
  exact Endian.encode_toNetwork host.endian 2 port

@[simp] theorem inet6Image_flowinfo :
    sin6Flowinfo.read (inet6Image host b6 port flowinfo scopeId).sa =
      host.endian.encode 4 flowinfo := by
  simp (disch := decide) only [inet6Image,move,store,Field.read_write_of_apart,Field.read_write]

@[simp] theorem inet6Image_addr :
    sin6Addr.read (inet6Image host b6 port flowinfo scopeId).sa = b6 := by
  simp (disch := decide) only [inet6Image,move,store,Field.read_write_of_apart,Field.read_write]

@[simp] theorem inet6Image_scopeId :
    sin6ScopeId.read (inet6Image host b6 port flowinfo scopeId).sa =
      host.endian.encode 4 scopeId :=
  Field.read_write _ _ _

end Images

/-- `text` is empty or a literal of the family. -/
def IsHost4 (host : Host) (text : String) : Prop := text = "" ∨ ∃ bs, host.inet.pton4 text = some bs
def IsHost6 (host : Host) (text : String) : Prop := text = "" ∨ ∃ bs, host.inet.pton6 text = some bs

theorem hostBytes4_ok_iff (host : Host) (text : String) :
    (∃ bs, hostBytes4 host text = .ok bs) ↔ IsHost4 host text := by
  unfold hostBytes4 IsHost4
  by_cases h : text = ""
  · simp [h]
  · cases hp : host.inet.pton4 text <;> simp [h]

theorem hostBytes6_ok_iff (host : Host) (text : String) :
    (∃ bs, hostBytes6 host text = .ok bs) ↔ IsHost6 host text := by
  unfold hostBytes6 IsHost6
  by_cases h : text = ""
  · simp [h]
  · cases hp : host.inet.pton6 text <;> simp [h]

theorem hostBytes4_ntop4 (host : Host) (bs : Vector UInt8 4) :
    hostBytes4 host (host.inet.ntop4 bs) = .ok bs := by
  simp [hostBytes4,host.inet.ntop4_ne_empty,host.inet.pton4_ntop4]

theorem hostBytes6_ntop6 (host : Host) (bs : Vector UInt8 16) :
    hostBytes6 host (host.inet.ntop6 bs) = .ok bs := by
  simp [hostBytes6,host.inet.ntop6_ne_empty,host.inet.pton6_ntop6]

theorem htons_ok {host : Host} {x : ℤ} {n : ℕ} :
    host.htons x = .ok n ↔ ∃ p : ℕ, (p : ℤ) = x ∧ p < 2^16 ∧ host.endian.toNetwork 2 p = n := by
  simp only [Host.htons,except_map_ok,toUnsigned_ok,and_assoc]

theorem parseInet_ok {host : Host} {t : Address} {a : SockAddr} :
    parseInet host t = .ok a ↔ ∃ text bs, ∃ p : ℕ, t = .inet text p ∧
      hostBytes4 host text = .ok bs ∧ p < 2^16 ∧ a = inetImage host bs p := by
  cases t with
  | inet text port =>
    simp only [parseInet,except_bind_ok,htons_ok,Pure.pure,Except.pure,Except.ok.injEq]
    constructor
    · rintro ⟨bs,hb,_,⟨p,rfl,hp,rfl⟩,rfl⟩
      exact ⟨text,bs,p,rfl,hb,hp,rfl⟩
    · rintro ⟨_,bs,p,ht,hb,hp,rfl⟩
      cases ht
      exact ⟨bs,hb,_,⟨p,rfl,hp,rfl⟩,rfl⟩
  | inet6 | other => simp [parseInet]

theorem parseInet6_ok {host : Host} {t : Address} {a : SockAddr} :
    parseInet6 host t = .ok a ↔ ∃ text bs, ∃ p flow scope : ℕ, t = .inet6 text p flow scope ∧
      hostBytes6 host text = .ok bs ∧ p < 2^16 ∧ flow < 2^32 ∧ scope < 2^32 ∧
      a = inet6Image host bs p flow scope := by
  cases t with
  | inet6 text port flowinfo scopeId =>
    simp only [parseInet6,except_bind_ok,htons_ok,toUnsigned_ok,Pure.pure,Except.pure,
      Except.ok.injEq]
    constructor
    · rintro ⟨bs,hb,_,⟨p,rfl,hp,rfl⟩,flow,⟨rfl,hf⟩,scope,⟨rfl,hs⟩,rfl⟩
      exact ⟨text,bs,p,flow,scope,rfl,hb,hp,hf,hs,rfl⟩
    · rintro ⟨_,bs,p,flow,scope,ht,hb,hp,hf,hs,rfl⟩
      cases ht
      exact ⟨bs,hb,_,⟨p,rfl,hp,rfl⟩,flow,⟨rfl,hf⟩,scope,⟨rfl,hs⟩,rfl⟩
  | inet | other => simp [parseInet6]

/-- The family `parse_address` works with, from the argument and the tuple's length. -/
theorem parseAddress_ok {host : Host} {t : Address} {family : ℤ} {a : SockAddr} :
    parseAddress host t family = .ok a ↔
      ((family = AF_UNSPEC ∨ family = AF_INET) ∧ parseInet host t = .ok a) ∨
      ((family = AF_UNSPEC ∨ family = AF_INET6) ∧ parseInet6 host t = .ok a) := by
  by_cases hu : family = AF_UNSPEC
  · subst hu
    cases t with
    | inet text port => simp [parseAddress,Address.length,parseInet6,AF_INET,AF_UNSPEC,AF_INET6]
    | inet6 text port flowinfo scopeId =>
      simp [parseAddress,Address.length,parseInet,AF_INET,AF_UNSPEC,AF_INET6]
    | other n h =>
      obtain ⟨h₂,h₄⟩ := h
      simp [parseAddress,Address.length,parseInet,parseInet6,Bind.bind,Except.bind]
  · by_cases h₄ : family = AF_INET
    · subst h₄
      simp [parseAddress,AF_INET,AF_UNSPEC,AF_INET6]
    · by_cases h₆ : family = AF_INET6
      · subst h₆
        simp [parseAddress,AF_INET,AF_UNSPEC,AF_INET6]
      · simp [parseAddress,hu,h₄,h₆]

theorem unparse_inet {host : Host} {a : SockAddr} (h : a.family = AF_INET) :
    unparseAddress host a = .ok (.inet (host.inet.ntop4 (sinAddr.read a.sa))
      (Endian.big.decode (sinPort.read a.sa))) := by
  simp [unparseAddress,h,Host.ntohs,Endian.toNetwork_decode]

theorem unparse_inet6 {host : Host} {a : SockAddr} (h : a.family = AF_INET6) :
    unparseAddress host a = .ok (.inet6 (host.inet.ntop6 (sin6Addr.read a.sa))
      (Endian.big.decode (sinPort.read a.sa)) (host.endian.decode (sin6Flowinfo.read a.sa))
      (host.endian.decode (sin6ScopeId.read a.sa))) := by
  have h₄ : a.family ≠ AF_INET := by
    rw [h]
    decide
  rw [unparseAddress,if_neg h₄,if_pos h]
  simp only [Host.ntohs,Endian.toNetwork_decode]

theorem unparse_inetImage (host : Host) (bs : Vector UInt8 4) {p : ℕ} (hp : p < 2^16) :
    unparseAddress host (inetImage host bs p) = .ok (.inet (host.inet.ntop4 bs) p) := by
  rw [unparse_inet (inetImage_family host bs p)]
  simp only [inetImage_addr,inetImage_port,Endian.big.decode_encode_of_lt 2 hp]

theorem unparse_inet6Image (host : Host) (bs : Vector UInt8 16) {p flow scope : ℕ}
    (hp : p < 2^16) (hf : flow < 2^32) (hs : scope < 2^32) :
    unparseAddress host (inet6Image host bs p flow scope) =
      .ok (.inet6 (host.inet.ntop6 bs) p flow scope) := by
  rw [unparse_inet6 (inet6Image_family host bs p flow scope)]
  simp only [inet6Image_addr,inet6Image_port,inet6Image_flowinfo,inet6Image_scopeId,
    Endian.big.decode_encode_of_lt 2 hp,host.endian.decode_encode_of_lt 4 hf,
    host.endian.decode_encode_of_lt 4 hs]

/-- `(host, port, ...)` with the host in its canonical text. -/
def canonical (host : Host) : Address → Address
  | .inet text port => match hostBytes4 host text with
    | .ok bs => .inet (host.inet.ntop4 bs) port
    | .error _ => .inet text port
  | .inet6 text port flowinfo scopeId => match hostBytes6 host text with
    | .ok bs => .inet6 (host.inet.ntop6 bs) port flowinfo scopeId
    | .error _ => .inet6 text port flowinfo scopeId
  | .other n h => .other n h

/-- The tuples the encoder takes: the family left open or matching the length, a literal
or empty host, and integers that fit their fields. -/
def Accepts (host : Host) (family : ℤ) : Address → Prop
  | .inet text port => (family = AF_UNSPEC ∨ family = AF_INET) ∧ IsHost4 host text ∧
      0 ≤ port ∧ port < 2^16
  | .inet6 text port flowinfo scopeId => (family = AF_UNSPEC ∨ family = AF_INET6) ∧
      IsHost6 host text ∧ (0 ≤ port ∧ port < 2^16) ∧ (0 ≤ flowinfo ∧ flowinfo < 2^32) ∧
      0 ≤ scopeId ∧ scopeId < 2^32
  | .other _ _ => False

/-- The length of the tuple does not go with the family asked for. -/
def Mismatched (family : ℤ) (t : Address) : Prop :=
  ¬ ((family = AF_UNSPEC ∨ family = AF_INET) ∧ t.length = 2) ∧
  ¬ ((family = AF_UNSPEC ∨ family = AF_INET6) ∧ t.length = 4)

/-- The two images hold the same address: family, port bytes, address bytes and, for IPv6,
flow information and scope. -/
def SameAddress (a b : SockAddr) : Prop :=
  a.family = b.family ∧ sinPort.read a.sa = sinPort.read b.sa ∧
  (a.family = AF_INET → sinAddr.read a.sa = sinAddr.read b.sa) ∧
  (a.family = AF_INET6 → sin6Addr.read a.sa = sin6Addr.read b.sa ∧
    sin6Flowinfo.read a.sa = sin6Flowinfo.read b.sa ∧
    sin6ScopeId.read a.sa = sin6ScopeId.read b.sa)

theorem parseAddress_accepts_iff (host : Host) (family : ℤ) (t : Address) :
    (∃ a, parseAddress host t family = .ok a) ↔ Accepts host family t := by
  simp only [parseAddress_ok,parseInet_ok,parseInet6_ok]
  cases t with
  | inet text port =>
    rw [Accepts,← hostBytes4_ok_iff]
    constructor
    · rintro ⟨a,⟨hf,_,bs,p,ht,hb,hp,_⟩ | ⟨_,_,_,_,_,_,ht,_⟩⟩ <;> cases ht
      exact ⟨hf,⟨bs,hb⟩,by omega,by exact_mod_cast hp⟩
    · rintro ⟨hf,⟨bs,hb⟩,h₀,hp⟩
      obtain ⟨p,rfl⟩ := Int.eq_ofNat_of_zero_le h₀
      exact ⟨_,.inl ⟨hf,text,bs,p,rfl,hb,by exact_mod_cast hp,rfl⟩⟩
  | inet6 text port flowinfo scopeId =>
    rw [Accepts,← hostBytes6_ok_iff]
    constructor
    · rintro ⟨a,⟨_,_,_,_,ht,_⟩ | ⟨hf,_,bs,p,flow,scope,ht,hb,hp,hfl,hs,_⟩⟩ <;> cases ht
      exact ⟨hf,⟨bs,hb⟩,⟨by omega,by exact_mod_cast hp⟩,⟨by omega,by exact_mod_cast hfl⟩,
        by omega,by exact_mod_cast hs⟩
    · rintro ⟨hf,⟨bs,hb⟩,⟨hp₀,hp⟩,⟨hf₀,hfl⟩,hs₀,hs⟩
      obtain ⟨p,rfl⟩ := Int.eq_ofNat_of_zero_le hp₀
      obtain ⟨flow,rfl⟩ := Int.eq_ofNat_of_zero_le hf₀
      obtain ⟨scope,rfl⟩ := Int.eq_ofNat_of_zero_le hs₀
      exact ⟨_,.inr ⟨hf,text,bs,p,flow,scope,rfl,hb,by exact_mod_cast hp,
        by exact_mod_cast hfl,by exact_mod_cast hs,rfl⟩⟩
  | other n h => simp [Accepts]

/-- Decoding what was encoded gives the tuple back, up to the spelling of the host. -/
theorem unparse_parse {host : Host} {t : Address} {family : ℤ} {a : SockAddr}
    (h : parseAddress host t family = .ok a) :
    unparseAddress host a = .ok (canonical host t) := by
  rcases parseAddress_ok.mp h with ⟨_,h⟩ | ⟨_,h⟩
  · obtain ⟨text,bs,p,rfl,hb,hp,rfl⟩ := parseInet_ok.mp h
    simp only [unparse_inetImage host bs hp,canonical,hb]
  · obtain ⟨text,bs,p,flow,scope,rfl,hb,hp,hf,hs,rfl⟩ := parseInet6_ok.mp h
    simp only [unparse_inet6Image host bs hp hf hs,canonical,hb]

/-- Encoding what was decoded from an image gives an image of the same address. -/
theorem parse_unparse (host : Host) {a : SockAddr}
    (h : a.family = AF_INET ∨ a.family = AF_INET6) :
    ∃ t b, unparseAddress host a = .ok t ∧ parseAddress host t AF_UNSPEC = .ok b ∧
      SameAddress a b ∧ b.len ≤ sizeofStorage := by
  have hport : Endian.big.decode (sinPort.read a.sa) < 2^16 := Endian.decode_lt _ _
  rcases h with h | h
  · refine ⟨_,_,unparse_inet h,parseAddress_ok.mpr (.inl ⟨.inl rfl,parseInet_ok.mpr
      ⟨_,_,_,rfl,hostBytes4_ntop4 host _,hport,rfl⟩⟩),?_,?_⟩
    · refine ⟨by simp [h],by simp,fun _ => by simp,fun h₆ => ?_⟩
      rw [h] at h₆
      cases h₆
    · rw [inetImage_len]
      decide
  · have hflow : host.endian.decode (sin6Flowinfo.read a.sa) < 2^32 := Endian.decode_lt _ _
    have hscope : host.endian.decode (sin6ScopeId.read a.sa) < 2^32 := Endian.decode_lt _ _
    refine ⟨_,_,unparse_inet6 h,parseAddress_ok.mpr (.inr ⟨.inl rfl,parseInet6_ok.mpr
      ⟨_,_,_,_,_,rfl,hostBytes6_ntop6 host _,hport,hflow,hscope,rfl⟩⟩),?_,?_⟩
    · refine ⟨by simp [h],by simp,fun h₄ => ?_,fun _ => by simp⟩
      rw [h] at h₄
      cases h₄
    · rw [inet6Image_len]
      decide

theorem parse_mismatched (host : Host) {family : ℤ} {t : Address} (h : Mismatched family t) :
    ∃ msg, parseAddress host t family = .error (.valueError msg) := by
  obtain ⟨h₂,h₄⟩ := h
  by_cases hu : family = AF_UNSPEC
  · subst hu
    cases t with
    | inet text port => simp [Address.length] at h₂
    | inet6 text port flowinfo scopeId => simp [Address.length] at h₄
    | other n h =>
      refine ⟨"Invalid address tuple length",?_⟩
      simp only [parseAddress,Address.length,if_true]
      split <;> first | rfl | exact absurd rfl h.1 | exact absurd rfl h.2
  · by_cases hi : family = AF_INET
    · subst hi
      cases t with
      | inet text port => simp [Address.length] at h₂
      | inet6 | other => exact ⟨_,rfl⟩
    · by_cases hi₆ : family = AF_INET6
      · subst hi₆
        cases t with
        | inet6 text port flowinfo scopeId => simp [Address.length] at h₄
        | inet | other => exact ⟨_,rfl⟩
      · refine ⟨"Invalid family",?_⟩
        simp [parseAddress,hu,hi,hi₆,Bind.bind,Except.bind,Pure.pure,Except.pure]

theorem unparse_unknown (host : Host) {a : SockAddr}
    (h : ¬ (a.family = AF_INET ∨ a.family = AF_INET6)) :
    unparseAddress host a = .error (.valueError "Invalid family") := by
  rw [not_or] at h
  simp [unparseAddress,h.1,h.2]

end SockAddr
end LwipPy
