import LwipPy.Inet
import LwipPy.Library.IntText
import LwipPy.Netif
import LwipPy.Routing
import LwipPy.SocketRuns

/-! `inet`: IPv4 addresses as text, as numbers and as the four bytes lwIP sees. The numbers are
those of the bytes on a little-endian machine. -/
namespace LwipPy

open IntText ByteImage Program

/-- What `int` read in a base, or its `ValueError`; the rest of the message quotes the text. -/
def readInt (base : ℕ) : Option ℤ → Except PyErr ℤ
  | some n => .ok n
  | none => .error (.valueError s!"invalid literal for int() with base {base}")

/-- `int(o)` -/
def pyInt (py : Interpreter) (o : List Char) : Except PyErr ℤ := readInt 10 (py.int o)

/-- `int(s, 16)` -/
def pyIntHex (py : Interpreter) (s : List Char) : Except PyErr ℤ := readInt 16 (py.intHex s)

/-- What Python raises where four names are assigned a list of another length. -/
def unpackError (length : ℕ) : PyErr :=
  if length < 4 then .valueError s!"not enough values to unpack (expected 4, got {length})"
  else .valueError "too many values to unpack (expected 4)"

def str2ip (py : Interpreter) (addr : String) : Except PyErr ℤ := do
  match ← (addr.toList.splitOn '.').mapM (pyInt py) with
  | [a,b,c,d] => pyIntHex py (formatHex 2 d ++ (formatHex 2 c ++ (formatHex 2 b ++ formatHex 2 a)))
  | octets => .error (unpackError octets.length)

def ip2str (ipnum : ℤ) : String :=
  let a := Int.land ipnum 0xFF
  let b := Int.land (ipnum >>> (8 : ℕ)) 0xFF
  let c := Int.land (ipnum >>> (16 : ℕ)) 0xFF
  let d := Int.land (ipnum >>> (24 : ℕ)) 0xFF
  s!"{a}.{b}.{c}.{d}"

/-- The field `addr` of a `struct ip4_addr` with these four bytes. -/
def addr (host : Host) (memory : Vector UInt8 4) : Ip4Addr :=
  UInt32.ofNat (host.endian.decode memory)

section Canonical

variable {py : Interpreter}

theorem int_land_255 (n : ℕ) : Int.land n 0xFF = ((n % 256 : ℕ) : ℤ) := by
  have h : Int.land n 0xFF = ((n &&& 0xFF : ℕ) : ℤ) := rfl
  rw [h]
  exact congrArg _ (Nat.and_two_pow_sub_one_eq_mod n 8)

theorem toString_land (n : ℕ) :
    (toString (Int.land n 0xFF)).toList = octetText (UInt8.ofNat n) := by
  have hbyte : (UInt8.ofNat n).toNat = n % 256 := UInt8.toNat_ofNat'
  have htext : toString ((n % 256 : ℕ) : ℤ) = Nat.repr (n % 256) := rfl
  rw [int_land_255,htext,Nat.repr,String.toList_ofList,octetText,hbyte]

/-- `ip2str` prints the four bytes of a number, the lowest first. -/
theorem ip2str_eq (n : ℕ) : ip2str n = inetNtop4 (Endian.little.encode 4 n) := by
  have hshift : ∀ k : ℕ, (n : ℤ) >>> k = ((n >>> k : ℕ) : ℤ) := fun k => rfl
  have hdot : (toString ".").toList = ['.'] := rfl
  have hbytes : (Endian.little.encode 4 n).toList =
      [UInt8.ofNat n,UInt8.ofNat (n >>> 8),UInt8.ofNat (n >>> 16),UInt8.ofNat (n >>> 24)] := by
    simp [Endian.encode,bytesLE,Nat.shiftRight_eq_div_pow,Nat.div_div_eq_div_mul]
  apply String.toList_inj.mp
  rw [ip2str,inetNtop4,GroupCodec.join,hbytes]
  simp only [hshift,String.toList_append,toString_land,hdot,String.toList_ofList,List.map_cons,
    List.map_nil]
  simp [List.intercalate,dottedQuad]

theorem readInt_ok {base : ℕ} {x : Option ℤ} {n : ℤ} : readInt base x = .ok n ↔ x = some n := by
  cases x <;> simp [readInt]

/-- `str2ip` reads four pieces as integers and their hexadecimal texts together as one. -/
theorem str2ip_ok {s : String} {n : ℤ} : str2ip py s = .ok n ↔
    ∃ a b c d, List.Forall₂ (fun o x => py.int o = some x) (s.toList.splitOn '.') [a,b,c,d] ∧
      py.intHex (formatHex 2 d ++ (formatHex 2 c ++ (formatHex 2 b ++ formatHex 2 a))) =
        some n := by
  rw [str2ip,except_bind_ok]
  simp only [except_mapM_ok,pyInt,readInt_ok]
  constructor
  · rintro ⟨octets,hoctets,h⟩
    split at h
    · exact ⟨_,_,_,_,hoctets,readInt_ok.mp h⟩
    · cases h
  · rintro ⟨a,b,c,d,hoctets,h⟩
    exact ⟨[a,b,c,d],hoctets,readInt_ok.mpr h⟩

theorem int_octetText (b : UInt8) : py.int (octetText b) = some (b.toNat : ℤ) := by
  have hlength : (octetText b).length ≤ 3 :=
    (Nat.length_toDigits_le_iff (by decide) (by decide)).mpr (b.toNat_lt.trans (by decide))
  exact py.int_toDigits (hlength.trans (by decide))

/-- The text of four bytes is read as the number of those bytes. -/
theorem str2ip_inetNtop4 (v : Vector UInt8 4) :
    str2ip py (inetNtop4 v) = .ok (Endian.little.decode v : ℤ) := by
  obtain ⟨a,b,c,d,hv⟩ := List.length_eq_four.mp v.length_toList
  have hsplit : (inetNtop4 v).toList.splitOn '.' = [a,b,c,d].map octetText :=
    hv ▸ dottedQuad.splitOn_join (by decide) v
  refine str2ip_ok.mpr ⟨a.toNat,b.toNat,c.toNat,d.toNat,?_,?_⟩
  · rw [hsplit]
    exact .cons (int_octetText a) (.cons (int_octetText b)
      (.cons (int_octetText c) (.cons (int_octetText d) .nil)))
  · have hlt : ∀ b : UInt8, b.toNat < 16^2 := fun b => b.toNat_lt
    -- each byte takes two digits, so the ones before it count for two places more
    have hvalue : Endian.little.decode v =
        16^2*(16^2*(16^2*(16^2*0 + d.toNat) + c.toNat) + b.toNat) + a.toNat := by
      rw [Endian.decode,hv]
      simp only [valueLE]
      ring
    have hdigits : ∀ e ∈ formatHex 2 d.toNat ++ (formatHex 2 c.toNat ++
        (formatHex 2 b.toNat ++ formatHex 2 a.toNat)), (digit 16 e).isSome = true := by
      simp only [List.mem_append]
      rintro e (he | he | he | he) <;> exact digit_of_mem_formatHex he
    rw [py.intHex_of_digits (List.append_ne_nil_of_left_ne_nil formatHex_ne_nil _) hdigits]
    simp only [valueFrom_append,valueFrom_formatHex_append (by decide) (hlt _),Option.bind_some,
      hvalue]
    rfl

theorem inetNtop4_inetPton4 {s : String} {v : Vector UInt8 4} (h : inetPton4 s = some v) :
    inetNtop4 v = s :=
  dottedQuad.join_of_split (fun _ _ => octetText_octet) h

theorem str2ip_of_inetPton4 {s : String} {memory : Vector UInt8 4}
    (h : inetPton4 s = some memory) : str2ip py s = .ok (Endian.little.decode memory : ℤ) := by
  rw [← str2ip_inetNtop4,inetNtop4_inetPton4 h]

end Canonical

/-- The address a host stands for; the empty one is any. -/
def hostAddress (text : String) : String := if text = "" then "0.0.0.0" else text

/-- The text was passed to `sendto` or `Netif.add`, and this is the address in the call of lwIP
that came of it. -/
inductive Passed (env : Env) : String → Ip4Addr → Prop
  | sendto {self : Ref} {b : Buffer} {flags flags' : ℤ} {text : String} {port : ℤ} {data : Bytes}
      {sa : SockAddr} {n : ℕ} {w : World}
      (h : Socket.Calls env self (Socket.sendto env self b flags (.inet text port))
        (.sendto data flags' sa n) w) :
      Passed env (hostAddress text) (addr env.host (Storage.sinAddr.read sa.sa))
  | add {self : Netif} {input : Option Instance} {ip netmask gateway : String} {sec : Section}
      {netif : NetifRef} {config : Ip4Config}
      (h : self.section env.host.inet input (.add ip netmask gateway) = .ok sec)
      (hcall : sec.call = .ok (.netifAdd netif config)) {text : String} {memory : Vector UInt8 4}
      (hmem : (text,memory) ∈ [(ip,config.1),(netmask,config.2.1),(gateway,config.2.2)]) :
      Passed env text (addr env.host memory)

/-- A routing function that decides on the texts of the addresses, as `custom_ip4_route` does. -/
def routeByText {N : Type} (route : String → String → Except PyErr (Option N)) : RoutingFn N :=
  fun srcip dstip => route (ip2str srcip.toNat) (ip2str dstip.toNat)

section Agree

variable {env : Env}

theorem hostBytes4_of_sendto {self : Ref} {b : Buffer} {flags flags' : ℤ} {text : String}
    {port : ℤ} {data : Bytes} {sa : SockAddr} {n : ℕ} {w : World}
    (h : Socket.Calls env self (Socket.sendto env self b flags (.inet text port))
      (.sendto data flags' sa n) w) :
    SockAddr.hostBytes4 env.host text = .ok (Storage.sinAddr.read sa.sa) := by
  obtain ⟨sa',hparse,hcalls⟩ := Socket.calls_lift_iff.mp h
  obtain ⟨_,hargs⟩ := (Socket.calls_checked_iff fun _ _ => rfl).mp hcalls
  obtain ⟨_,_,hargs⟩ := except_bind_ok.mp hargs
  cases hargs
  rcases SockAddr.parseAddress_ok.mp hparse with ⟨_,hinet⟩ | ⟨_,hinet6⟩
  · obtain ⟨text',bs,p,haddress,hbytes,_,rfl⟩ := SockAddr.parseInet_ok.mp hinet
    cases haddress
    rw [SockAddr.inetImage_addr]
    exact hbytes
  · obtain ⟨_,_,_,_,_,haddress,_⟩ := SockAddr.parseInet6_ok.mp hinet6
    cases haddress

theorem ip4Config_of_add {inet : Inet} {self : Netif} {input : Option Instance}
    {ip netmask gateway : String} {sec : Section} {netif : NetifRef} {config : Ip4Config}
    (h : self.section inet input (.add ip netmask gateway) = .ok sec)
    (hcall : sec.call = .ok (.netifAdd netif config)) :
    ip4Config inet ip netmask gateway = .ok config := by
  cases h
  obtain ⟨_,hconfig,hcall⟩ := except_bind_ok.mp hcall
  cases hcall
  exact hconfig

variable (hinet : env.host.inet.pton4 = inetPton4)
include hinet

theorem section_add (self : Netif) (input : Option Instance) {ip netmask gateway : String}
    {a m g : Vector UInt8 4} (hip : inetPton4 ip = some a) (hnetmask : inetPton4 netmask = some m)
    (hgateway : inetPton4 gateway = some g) :
    self.section env.host.inet input (.add ip netmask gateway) =
      .ok ⟨self.lwip,.ok (.netifAdd self.netif (a,m,g))⟩ := by
  rw [← hinet,← ip4Addr_ok] at hip hnetmask hgateway
  have hconfig : ip4Config env.host.inet ip netmask gateway = .ok (a,m,g) :=
    ip4Config_ok.mpr ⟨hip,hnetmask,hgateway⟩
  rw [Netif.section,hconfig]
  rfl

theorem calls_sendto_inet {self : Ref} {b : Buffer} {flags : ℤ} {text : String} {port : ℕ}
    {w : World} (henter : Enters env "sendto" w) (hflags : CInt flags) (hport : port < 2^16)
    {memory : Vector UInt8 4} (h : inetPton4 text = some memory) :
    Socket.Calls env self (Socket.sendto env self b flags (.inet text port))
      (.sendto (b.offered env) flags (SockAddr.inetImage env.host memory port)
        (SockAddr.inetImage env.host memory port).len) w := by
  have hempty : text ≠ "" := by
    rintro rfl
    cases h
  have hbytes : SockAddr.hostBytes4 env.host text = .ok memory := by
    rw [SockAddr.hostBytes4,if_neg hempty,hinet,h]
  have hparse : SockAddr.parseAddress env.host (.inet text port) AF_UNSPEC =
      .ok (SockAddr.inetImage env.host memory port) :=
    SockAddr.parseAddress_ok.mpr (.inl ⟨.inl rfl,
      SockAddr.parseInet_ok.mpr ⟨text,memory,port,rfl,hbytes,hport,rfl⟩⟩)
  refine Socket.calls_lift_iff.mpr ⟨_,hparse,(Socket.calls_checked_iff fun _ _ => rfl).mpr ?_⟩
  rw [hflags.toSigned]
  exact ⟨henter,rfl⟩

theorem ip4Addr_hostAddress {text : String} {bs : Vector UInt8 4}
    (h : SockAddr.hostBytes4 env.host text = .ok bs) :
    ip4Addr env.host.inet (hostAddress text) = .ok bs := by
  unfold hostAddress
  split
  · next htext =>
    have hbs : Vector.replicate 4 0 = bs := Except.ok.inj ((if_pos htext).symm.trans h)
    rw [ip4Addr_ok,hinet,← hbs]
    decide
  · next htext => exact (if_neg htext).symm.trans h

/-- A passed address is what `ip4_addr` makes of its text. -/
theorem ip4Addr_passed {text : String} {a : Ip4Addr} (h : Passed env text a) :
    ∃ memory, ip4Addr env.host.inet text = .ok memory ∧ addr env.host memory = a := by
  cases h with
  | sendto h => exact ⟨_,ip4Addr_hostAddress hinet (hostBytes4_of_sendto h),rfl⟩
  | add h hcall hmem =>
    obtain ⟨hip,hnetmask,hgateway⟩ := ip4Config_ok.mp (ip4Config_of_add h hcall)
    simp only [List.mem_cons,Prod.mk.injEq,List.not_mem_nil,or_false] at hmem
    rcases hmem with ⟨rfl,rfl⟩ | ⟨rfl,rfl⟩ | ⟨rfl,rfl⟩
    · exact ⟨_,hip,rfl⟩
    · exact ⟨_,hnetmask,rfl⟩
    · exact ⟨_,hgateway,rfl⟩

variable (hlittle : env.host.endian = .little)
include hlittle

omit hinet in
theorem addr_toNat (memory : Vector UInt8 4) :
    (addr env.host memory).toNat = Endian.little.decode memory := by
  rw [addr,hlittle,UInt32.toNat_ofNat']
  exact Nat.mod_eq_of_lt (Endian.little.decode_lt memory)

omit hinet in
theorem ip2str_addr {s : String} {memory : Vector UInt8 4} (h : inetPton4 s = some memory) :
    ip2str (addr env.host memory).toNat = s := by
  rw [addr_toNat hlittle,ip2str_eq,Endian.encode_decode,inetNtop4_inetPton4 h]

theorem ip2str_passed {text : String} {a : Ip4Addr} (h : Passed env text a) :
    ip2str a.toNat = text := by
  obtain ⟨memory,hmemory,rfl⟩ := ip4Addr_passed hinet h
  rw [ip4Addr_ok,hinet] at hmemory
  exact ip2str_addr hlittle hmemory

end Agree

theorem str2ip_ip2str (py : Interpreter) {n : ℕ} (h : n < 2^32) :
    str2ip py (ip2str n) = .ok (n : ℤ) := by
  rw [ip2str_eq,str2ip_inetNtop4,Endian.little.decode_encode_of_lt 4 (by omega)]

/-- On a little-endian machine the texts, the numbers and the bytes of IPv4 addresses agree. What
`inet_pton` takes, `Netif.add` and `sendto` pass on, and a routing function that converts its
numbers decides on the texts that were passed. -/
theorem ip4_numbers_agree (py : Interpreter) (env : Env) (hlittle : env.host.endian = .little)
    (hinet : env.host.inet.pton4 = inetPton4) :
    (∀ n : ℕ, n < 2^32 → str2ip py (ip2str n) = .ok (n : ℤ)) ∧
    (∀ s memory, inetPton4 s = some memory → ip4Addr env.host.inet s = .ok memory ∧
      str2ip py s = .ok ((addr env.host memory).toNat : ℤ) ∧
      ip2str (addr env.host memory).toNat = s) ∧
    (∀ (self : Netif) input ip netmask gateway a m g, inetPton4 ip = some a →
      inetPton4 netmask = some m → inetPton4 gateway = some g →
      self.section env.host.inet input (.add ip netmask gateway) =
        .ok ⟨self.lwip,.ok (.netifAdd self.netif (a,m,g))⟩) ∧
    (∀ self b flags text (port : ℕ) w memory, inetPton4 text = some memory →
      Enters env "sendto" w → CInt flags → port < 2^16 → ∃ sa : SockAddr,
        Storage.sinAddr.read sa.sa = memory ∧
        Socket.Calls env self (Socket.sendto env self b flags (.inet text port))
          (.sendto (b.offered env) flags sa sa.len) w) ∧
    (∀ (N : Type) (o : Override N) route src dst srcText dstText,
      Passed env srcText src → Passed env dstText dst →
      (o.setRoutingFunction (routeByText route)).customIp4RouteSrcHook (some src) (some dst) =
        .ok (route srcText dstText).toOption.join) := by
  refine ⟨fun n => str2ip_ip2str py,fun s memory h => ⟨?_,?_,ip2str_addr hlittle h⟩,?_,?_,?_⟩
  · rw [ip4Addr_ok,hinet,h]
  · rw [addr_toNat hlittle,str2ip_of_inetPton4 h]
  · exact fun self input ip netmask gateway a m g => section_add hinet self input
  · intro self b flags text port w memory h henter hflags hport
    exact ⟨_,SockAddr.inetImage_addr _ _ _,calls_sendto_inet hinet henter hflags hport h⟩
  · intro N o route src dst srcText dstText hsrc hdst
    have hhook : (o.setRoutingFunction (routeByText route)).customIp4RouteSrcHook =
        hook (routeByText route) := rfl
    rw [hhook,hook_addresses,routeByText,ip2str_passed hinet hlittle hsrc,
      ip2str_passed hinet hlittle hdst]

/-- An interpreter with nothing beyond ASCII and the default limit. -/
def asciiPython : Interpreter := ⟨fun _ => false,fun _ => none,4300,.inr (by decide)⟩

def plainEnv : Env := quietEnv fun _ _ _ => { ret := 0 }

def oneByte : Buffer := .ofBytes [104]

theorem ip4_numbers_agree_asymmetric :
    str2ip asciiPython (ip2str 0x0403020a) = .ok 0x0403020a ∧
    ip4Addr textInet "10.2.3.4" = .ok #v[10,2,3,4] ∧
    str2ip asciiPython "10.2.3.4" = .ok ((addr littleHost #v[10,2,3,4]).toNat : ℤ) ∧
    ip2str (addr littleHost #v[10,2,3,4]).toNat = "10.2.3.4" ∧
    (Override.init.setRoutingFunction (routeByText fun src dst =>
        .ok (if src = "10.0.0.1" ∧ dst = "10.2.3.4" then some 7 else none))).customIp4RouteSrcHook
      (some (addr littleHost #v[10,0,0,1])) (some (addr littleHost #v[10,2,3,4])) =
        .ok (some 7) := by
  obtain ⟨hnumbers,htexts,hadds,hsends,hroutes⟩ :=
    ip4_numbers_agree asciiPython plainEnv rfl rfl
  have htext := htexts "10.2.3.4" #v[10,2,3,4] (by decide)
  have hadd : Passed plainEnv "10.0.0.1" (addr littleHost #v[10,0,0,1]) :=
    .add (hadds ⟨0,0⟩ none "10.0.0.1" "255.0.0.0" "10.0.0.1" #v[10,0,0,1] #v[255,0,0,0]
      #v[10,0,0,1] (by decide) (by decide) (by decide)) rfl (.head _)
  obtain ⟨sa,hsa,hcalls⟩ := hsends 0 oneByte 0 "10.2.3.4" 41041 World.init #v[10,2,3,4] (by decide)
    (.inl rfl) ⟨by norm_num,by norm_num⟩ (by norm_num)
  have hsend : Passed plainEnv "10.2.3.4" (addr littleHost #v[10,2,3,4]) := hsa ▸ .sendto hcalls
  exact ⟨hnumbers 0x0403020a (by decide),htext.1,htext.2.1,htext.2.2,
    hroutes ℕ .init _ _ _ "10.0.0.1" "10.2.3.4" hadd hsend⟩

/-- Four pieces that `int` reads, the first three of them not negative. -/
def ReadByInt (py : Interpreter) (s : String) : Prop :=
  ∃ a b c d : ℤ, List.Forall₂ (fun o x => py.int o = some x) (s.toList.splitOn '.') [a,b,c,d] ∧
    0 ≤ a ∧ 0 ≤ b ∧ 0 ≤ c

/-- Four such pieces, one of which is not the decimal text of a byte. -/
def Misread (py : Interpreter) (s : String) : Prop :=
  ReadByInt py s ∧ ∃ o ∈ s.toList.splitOn '.', ∀ b, o ≠ octetText b

/-- Both parsers take the text or neither does, and what `str2ip` returns is a number of 32 bits. -/
def SameLanguage (py : Interpreter) (inet : Inet) (s : String) : Prop :=
  ((∃ n, str2ip py s = .ok n) ↔ ∃ memory, ip4Addr inet s = .ok memory) ∧
  ∀ n, str2ip py s = .ok n → 0 ≤ n ∧ n < 2^32

section SameLanguage

variable {py : Interpreter} {s : String}

/-- Only the piece that is printed first may be negative. -/
theorem str2ip_returns_iff : (∃ n, str2ip py s = .ok n) ↔ ReadByInt py s := by
  have hlast : ∀ a b c d : ℤ, (∃ n, py.intHex (formatHex 2 d ++
      (formatHex 2 c ++ (formatHex 2 b ++ formatHex 2 a))) = some n) ↔ 0 ≤ a ∧ 0 ≤ b ∧ 0 ≤ c := by
    intro a b c d
    have hrest : ∀ e ∈ formatHex 2 c ++ (formatHex 2 b ++ formatHex 2 a),
        e = '-' ∨ (digit 16 e).isSome = true := by
      simp only [List.mem_append]
      rintro e (he | he | he) <;> exact formatHex_chars he
    rw [← Option.isSome_iff_exists,py.intHex_formatHex_isSome_iff hrest]
    simp only [List.mem_append,minus_mem_formatHex_iff]
    omega
  constructor
  · rintro ⟨n,h⟩
    obtain ⟨a,b,c,d,hread,hn⟩ := str2ip_ok.mp h
    exact ⟨a,b,c,d,hread,(hlast a b c d).mp ⟨n,hn⟩⟩
  · rintro ⟨a,b,c,d,hread,hsigns⟩
    obtain ⟨n,hn⟩ := (hlast a b c d).mpr hsigns
    exact ⟨n,str2ip_ok.mpr ⟨a,b,c,d,hread,hn⟩⟩

theorem octet_isSome_iff {o : List Char} : (octet o).isSome = true ↔ ∃ b, o = octetText b := by
  rw [Option.isSome_iff_exists]
  constructor
  · rintro ⟨b,h⟩
    exact ⟨b,(octetText_octet h).symm⟩
  · rintro ⟨b,rfl⟩
    exact ⟨b,octet_octetText b⟩

variable {inet : Inet} (hinet : inet.pton4 = inetPton4)
include hinet

theorem ip4Addr_returns_iff : (∃ memory, ip4Addr inet s = .ok memory) ↔
    (s.toList.splitOn '.').length = 4 ∧ ∀ o ∈ s.toList.splitOn '.', ∃ b, o = octetText b := by
  simp only [ip4Addr_ok,hinet,← octet_isSome_iff,← Option.isSome_iff_exists]
  exact dottedQuad.split_isSome_iff

end SameLanguage

/-- `str2ip` takes the texts `inet_pton` takes, except that it also takes whatever else `int`
reads. -/
theorem same_language_iff (py : Interpreter) {inet : Inet} (hinet : inet.pton4 = inetPton4)
    (s : String) : SameLanguage py inet s ↔ ¬ Misread py s := by
  constructor
  · rintro ⟨hsame,_⟩ ⟨hread,o,ho,hne⟩
    obtain ⟨_,hoctets⟩ := (ip4Addr_returns_iff hinet).mp (hsame.mp (str2ip_returns_iff.mpr hread))
    obtain ⟨b,hb⟩ := hoctets o ho
    exact hne b hb
  · intro hmis
    have hto : (∃ n, str2ip py s = .ok n) → ∃ memory, ip4Addr inet s = .ok memory := by
      intro h
      have hread := str2ip_returns_iff.mp h
      obtain ⟨a,b,c,d,hfour,_⟩ := id hread
      refine (ip4Addr_returns_iff hinet).mpr ⟨hfour.length_eq,fun o ho => ?_⟩
      by_contra hno
      exact hmis ⟨hread,o,ho,not_exists.mp hno⟩
    refine ⟨⟨hto,fun h => ?_⟩,fun n hn => ?_⟩
    · obtain ⟨memory,hmemory⟩ := h
      rw [ip4Addr_ok,hinet] at hmemory
      exact ⟨_,str2ip_of_inetPton4 hmemory⟩
    · obtain ⟨memory,hmemory⟩ := hto ⟨n,hn⟩
      rw [ip4Addr_ok,hinet] at hmemory
      have hlt : Endian.little.decode memory < 2^32 := Endian.little.decode_lt memory
      rw [str2ip_of_inetPton4 hmemory] at hn
      cases hn
      exact ⟨by omega,by exact_mod_cast hlt⟩

theorem same_language_loopback : SameLanguage asciiPython textInet "127.0.0.1" := by
  refine (same_language_iff asciiPython rfl "127.0.0.1").mpr ?_
  rintro ⟨_,o,ho,hne⟩
  have hpieces : "127.0.0.1".toList.splitOn '.' =
      [octetText 127,octetText 0,octetText 0,octetText 1] := by decide
  rw [hpieces] at ho
  simp only [List.mem_cons,List.not_mem_nil,or_false] at ho
  rcases ho with rfl | rfl | rfl | rfl <;> exact hne _ rfl

/-- An octet of 256 makes the number of another address. -/
theorem str2ip_misreads :
    str2ip asciiPython "256.0.0.1" = .ok 0x10000100 ∧
    str2ip asciiPython "0.1.0.16" = .ok 0x10000100 ∧
    (¬ ∃ memory, ip4Addr textInet "256.0.0.1" = .ok memory) ∧
    ¬ ∀ s, SameLanguage asciiPython textInet s := by
  have hread : str2ip asciiPython "256.0.0.1" = .ok 0x10000100 := by decide
  have hraise : ¬ ∃ memory, ip4Addr textInet "256.0.0.1" = .ok memory := by
    rintro ⟨memory,h⟩
    cases h
  refine ⟨hread,by decide,hraise,fun h => hraise ?_⟩
  exact (h "256.0.0.1").1.mp ⟨_,hread⟩

end LwipPy
