import LwipPy.Netif
import LwipPy.Inet

/-! What lwIP and the caller of `Netif.add` hear of a driver that fails. -/
namespace LwipPy

open Program

def ErrT (v : PyValue) (ret : ℤ) : Prop := v.asInt = .ok ret ∧ -128 ≤ ret ∧ ret < 128

theorem asErrT_ok {v : PyValue} {ret : ℤ} : asErrT v = .ok ret ↔ ErrT v ret := by
  rw [asErrT,except_bind_ok]
  constructor
  · rintro ⟨n,hn,hret⟩
    obtain ⟨rfl,hlo,hhi⟩ := toSigned_ok.mp hret
    exact ⟨hn,hlo,hhi⟩
  · rintro ⟨hn,hlo,hhi⟩
    exact ⟨ret,hn,toSigned_ok.mpr ⟨rfl,hlo,hhi⟩⟩

section Callback

variable {σ : Type} {m : EStateM PyErr σ PyValue} {s : σ}

def ReturnedOk (m : EStateM PyErr σ PyValue) (s : σ) : Prop :=
  ∃ v t, m s = .ok v t ∧ v.asInt = .ok ERR_OK

theorem callback_of_ok {v : PyValue} {t : σ} {ret : ℤ} (h : m s = .ok v t) (hv : ErrT v ret) :
    callback m s = (ret,t) := by
  simp only [callback,h,asErrT_ok.mpr hv]

/-- A callback reports 0 for a body that did not return an `err_t`. -/
theorem callback_of_not (h : ¬ ∃ v t ret, m s = .ok v t ∧ ErrT v ret) :
    (callback m s).1 = ERR_OK := by
  rw [callback]
  split
  · next v t hok =>
    split
    · next ret hret => exact absurd ⟨v,t,ret,hok,asErrT_ok.mp hret⟩ h
    · rfl
  · rfl

/-- Success is reported only for success exactly if the body returns an `err_t`. -/
theorem callback_reports_iff :
    ((callback m s).1 = ERR_OK → ReturnedOk m s) ↔
      ∃ v t ret, m s = .ok v t ∧ ErrT v ret := by
  constructor
  · intro hreports
    by_contra hno
    obtain ⟨v,t,hok,hv⟩ := hreports (callback_of_not hno)
    exact hno ⟨v,t,ERR_OK,hok,hv,by decide,by decide⟩
  · rintro ⟨v,t,ret,hok,hv⟩ hzero
    rw [callback_of_ok hok hv] at hzero
    exact ⟨v,t,hok,hzero ▸ hv.1⟩

end Callback

theorem output_reports_iff (x : Except PyErr PyValue) :
    ((callback (lift x) PUnit.unit).1 = ERR_OK → ∃ v, x = .ok v ∧ v.asInt = .ok ERR_OK) ↔
      ∃ v ret, x = .ok v ∧ ErrT v ret := by
  have hlift : ∀ v u, (lift x : EStateM PyErr PUnit PyValue) PUnit.unit = .ok v u ↔ x = .ok v := by
    intro v u
    cases x <;> simp
  have h := callback_reports_iff (s := PUnit.unit) (m := lift x)
  simp only [ReturnedOk,hlift,exists_const] at h
  exact h

/-- The driver has a good prefix and MTU, and its `lwip_on_init` returns an `err_t`. -/
def Initialises (driver : NetifDriver) (link : Link) (ret : ℤ) : Prop :=
  (∃ name, driver.getPrefix = .ok (.bytes name) ∧ name.length = 2) ∧
  (∃ m mtu, driver.getMtu = .ok m ∧ m.asInt = .ok mtu ∧ 0 ≤ mtu ∧ mtu < 2^16) ∧
  ∃ v link', driver.lwipOnInit { link with hwaddr := [] } = .ok v link' ∧ ErrT v ret

/-- The fields `_netif_init` fills in from the driver. -/
def Configured (driver : NetifDriver) (netif : NetifStruct) : Prop :=
  driver.getPrefix = .ok (.bytes netif.name) ∧ netif.name.length = 2 ∧
  (∃ m, driver.getMtu = .ok m ∧ m.asInt = .ok netif.mtu) ∧
  netif.output = some .netifOutput ∧ netif.outputIp6 = some .netifOutputIp6

structure Prepared (driver : NetifDriver) (name : Bytes) (mtu : ℕ) : Prop where
  getPrefix : driver.getPrefix = .ok (.bytes name)
  two : name.length = 2
  getMtu : (do toUnsigned 16 (← (← driver.getMtu).asInt)) = .ok mtu

/-- The struct `lwip_on_init` finds. -/
def prepare (name : Bytes) (mtu : ℕ) (netif : NetifStruct) : NetifStruct where
  link := { netif.link with hwaddr := [] }
  mtu := mtu
  name := name
  output := some .netifOutput
  outputIp6 := some .netifOutputIp6

theorem netifInitBody_run {driver : NetifDriver} {name : Bytes} {mtu : ℕ}
    (h : Prepared driver name mtu) (netif : NetifStruct) :
    netifInitBody driver netif =
      zoom NetifStruct.linkPart driver.lwipOnInit (prepare name mtu netif) := by
  have htake : name.take 2 = name := List.take_of_length_le (Nat.le_of_eq h.two)
  simp only [netifInitBody,h.getPrefix,lift_ok,bind_apply,PyValue.len,h.two,PyValue.bytes?,
    h.getMtu,htake]
  rfl

theorem netifInitBody_prepared {driver : NetifDriver} {netif netif' : NetifStruct} {v : PyValue}
    (h : netifInitBody driver netif = .ok v netif') : ∃ name mtu, Prepared driver name mtu := by
  cases hp : driver.getPrefix with
  | error e => simp [netifInitBody,bind_apply,hp] at h
  | ok p =>
    cases hlen : p.len with
    | error e => simp [netifInitBody,bind_apply,hp,hlen] at h
    | ok len =>
      by_cases htwo : len = 2
      · cases hb : p.bytes? with
        | none => simp [netifInitBody,bind_apply,hp,hlen,htwo,hb] at h
        | some name =>
          obtain rfl : p = .bytes name := by
            cases p <;> cases hb
            rfl
          cases hmtu : (do toUnsigned 16 (← (← driver.getMtu).asInt)) with
          | error e => simp [netifInitBody,bind_apply,hp,hlen,htwo,hb,hmtu] at h
          | ok mtu =>
            obtain rfl : name.length = len := Except.ok.inj hlen
            exact ⟨name,mtu,hp,htwo,hmtu⟩
      · simp [netifInitBody,bind_apply,hp,hlen,htwo] at h

/-- A body that returns has called `lwip_on_init` on the prepared struct. -/
theorem netifInitBody_ok {driver : NetifDriver} {netif netif' : NetifStruct} {v : PyValue}
    (h : netifInitBody driver netif = .ok v netif') :
    ∃ name m mtu link', driver.getPrefix = .ok (.bytes name) ∧ name.length = 2 ∧
      driver.getMtu = .ok m ∧ m.asInt = .ok (mtu : ℕ) ∧ mtu < 2^16 ∧
      driver.lwipOnInit { netif.link with hwaddr := [] } = .ok v link' ∧
      netif' = { prepare name mtu netif with link := link' } := by
  obtain ⟨name,mtu,hp⟩ := netifInitBody_prepared h
  rw [netifInitBody_run hp] at h
  obtain ⟨m,hm,h₁⟩ := except_bind_ok.mp hp.getMtu
  obtain ⟨n,hn,h₂⟩ := except_bind_ok.mp h₁
  obtain ⟨rfl,hlt⟩ := toUnsigned_ok.mp h₂
  cases hinit : driver.lwipOnInit { netif.link with hwaddr := [] } with
  | ok v' link' =>
    rw [zoom_of_ok (p := NetifStruct.linkPart) (t := link') (a := v') hinit] at h
    cases h
    exact ⟨name,m,mtu,link',hp.getPrefix,hp.two,hm,hn,hlt,rfl,rfl⟩
  | error e link' =>
    rw [zoom_of_error (p := NetifStruct.linkPart) (t := link') (e := e) hinit] at h
    cases h

theorem initialises_iff {driver : NetifDriver} {netif : NetifStruct} {ret : ℤ} :
    (∃ v netif', netifInitBody driver netif = .ok v netif' ∧ ErrT v ret) ↔
      Initialises driver netif.link ret := by
  constructor
  · rintro ⟨v,netif',h,hv⟩
    obtain ⟨name,m,mtu,link',hname,htwo,hm,hmtu,hlt,hinit,_⟩ := netifInitBody_ok h
    exact ⟨⟨name,hname,htwo⟩,⟨m,mtu,hm,hmtu,by omega,by omega⟩,v,link',hinit,hv⟩
  · rintro ⟨⟨name,hname,htwo⟩,⟨m,mtu,hm,hmtu,hlo,hhi⟩,v,link',hinit,hv⟩
    have hp : Prepared driver name mtu.toNat := by
      refine ⟨hname,htwo,?_⟩
      rw [hm]
      refine except_bind_ok.mpr ⟨m,rfl,except_bind_ok.mpr ⟨mtu,hmtu,?_⟩⟩
      exact toUnsigned_ok.mpr ⟨by omega,by omega⟩
    have hrun := netifInitBody_run hp netif
    exact ⟨v,_,hrun.trans (zoom_of_ok (p := NetifStruct.linkPart) hinit),hv⟩

/-- When the body returns, the struct holds the driver's values, whatever `lwip_on_init` did. -/
theorem configured_of_ok {driver : NetifDriver} {netif netif' : NetifStruct} {v : PyValue}
    (h : netifInitBody driver netif = .ok v netif') : Configured driver netif' := by
  obtain ⟨name,m,mtu,link',hname,htwo,hm,hmtu,_,_,rfl⟩ := netifInitBody_ok h
  exact ⟨hname,htwo,⟨m,hm,hmtu⟩,rfl,rfl⟩

/-- The structs of an instance and the list of the interfaces in its stack. -/
structure NetifTable where
  structs : NetifRef → NetifStruct
  list : List NetifRef

/-- `netif_add` of lwIP: fills in the struct, calls `init` on it, and registers the interface
when `init` returned `ERR_OK`. The first result says whether it returned the interface or
`NULL`. -/
structure NetifAdd where
  run : NetifTable → NetifRef → Ip4Config → (NetifStruct → ℤ × NetifStruct) → Bool × NetifTable
  fill : Ip4Config → NetifStruct → NetifStruct
  failed : ∀ t n c init, (init (fill c (t.structs n))).1 ≠ ERR_OK →
    run t n c init =
      (false,{ t with structs := Function.update t.structs n (init (fill c (t.structs n))).2 })
  added : ∀ t n c init, (init (fill c (t.structs n))).1 = ERR_OK →
    run t n c init =
      (true,⟨Function.update t.structs n (init (fill c (t.structs n))).2,n::t.list⟩)

variable (inet : Inet) (netifAdd : NetifAdd)

/-- `Netif.add`, inside its section. The result of `netif_add` is dropped. -/
def Netif.add (self : Netif) (driver : NetifDriver) (ip netmask gateway : String) :
    EStateM PyErr NetifTable Unit := do
  let config ← lift (ip4Config inet ip netmask gateway)
  modify fun t => (netifAdd.run t self.netif config (netifInit driver)).2

/-- The caller of `add` hears the truth: a return means that `_netif_init` ran to its end with
`ERR_OK` on the struct lwIP filled in, that the struct is configured and the interface is in the
list; a raise leaves it out. -/
def ReportsAdd (self : Netif) (driver : NetifDriver) (ip netmask gateway : String)
    (t : NetifTable) : Prop :=
  match self.add inet netifAdd driver ip netmask gateway t with
  | .ok _ t' =>
    (∃ config, ip4Config inet ip netmask gateway = .ok config ∧
      ReturnedOk (netifInitBody driver) (netifAdd.fill config (t.structs self.netif))) ∧
    Configured driver (t'.structs self.netif) ∧ self.netif ∈ t'.list
  | .error _ t' => t'.list = t.list

theorem returnedOk_iff {driver : NetifDriver} {netif : NetifStruct} :
    ReturnedOk (netifInitBody driver) netif ↔ Initialises driver netif.link ERR_OK := by
  rw [← initialises_iff]
  constructor
  · rintro ⟨v,netif',h,hv⟩
    exact ⟨v,netif',h,hv,by decide,by decide⟩
  · rintro ⟨v,netif',h,hv⟩
    exact ⟨v,netif',h,hv.1⟩

theorem reportsAdd_iff (self : Netif) (driver : NetifDriver) (ip netmask gateway : String)
    (t : NetifTable) :
    ReportsAdd inet netifAdd self driver ip netmask gateway t ↔
      ∀ config, ip4Config inet ip netmask gateway = .ok config →
        Initialises driver (netifAdd.fill config (t.structs self.netif)).link ERR_OK := by
  cases hconfig : ip4Config inet ip netmask gateway with
  | error e => simp [ReportsAdd,Netif.add,bind_apply,hconfig]
  | ok config =>
    obtain ⟨filled,hfilled⟩ : ∃ s, s = netifAdd.fill config (t.structs self.netif) := ⟨_,rfl⟩
    have hrun : self.add inet netifAdd driver ip netmask gateway t =
        .ok ⟨⟩ (netifAdd.run t self.netif config (netifInit driver)).2 := by
      simp [Netif.add,bind_apply,hconfig]
    rw [ReportsAdd,hrun]
    constructor
    · rintro ⟨⟨_,hc,hok⟩,_⟩ config' hc'
      rw [hconfig] at hc
      cases hc
      cases hc'
      exact returnedOk_iff.mp hok
    · intro h
      have hinit := h config rfl
      rw [← hfilled] at hinit
      obtain ⟨v,netif',hbody,hv⟩ := initialises_iff.mpr hinit
      have hcall : netifInit driver filled = (ERR_OK,netif') := callback_of_ok hbody hv
      have hadded := netifAdd.added t self.netif config (netifInit driver)
        (by rw [← hfilled,hcall])
      rw [hadded,← hfilled,hcall]
      refine ⟨⟨config,hconfig,?_⟩,?_,List.mem_cons_self⟩
      · rw [← hfilled]
        exact returnedOk_iff.mpr hinit
      · simp only [Function.update_self]
        exact configured_of_ok hbody

/-- Failures of a driver reach lwIP and the caller of `Netif.add`: exactly as far as its methods
return an `err_t`, and `add` as far as the driver initialises the interface with `ERR_OK` or the
addresses do not parse. -/
theorem driver_failure_reported_iff (driver : NetifDriver) (netif : NetifStruct)
    (heap : PbufRef → Pbuf) (p : PbufRef) (addr : Bytes) (zone : ℕ) (self : Netif)
    (ip netmask gateway : String) (t : NetifTable) :
    (((netifInit driver netif).1 = ERR_OK → ReturnedOk (netifInitBody driver) netif) ↔
      ∃ ret, Initialises driver netif.link ret) ∧
    ((netifOutput driver heap p addr = ERR_OK →
        ∃ v, driver.lwipOnOutput (pbufToBytes heap p) addr = .ok v ∧ v.asInt = .ok ERR_OK) ↔
      ∃ v ret, driver.lwipOnOutput (pbufToBytes heap p) addr = .ok v ∧ ErrT v ret) ∧
    ((netifOutputIp6 driver heap p addr zone = ERR_OK →
        ∃ v, driver.lwipOnOutputIp6 (pbufToBytes heap p) addr zone = .ok v ∧
          v.asInt = .ok ERR_OK) ↔
      ∃ v ret, driver.lwipOnOutputIp6 (pbufToBytes heap p) addr zone = .ok v ∧ ErrT v ret) ∧
    (ReportsAdd inet netifAdd self driver ip netmask gateway t ↔
      ∀ config, ip4Config inet ip netmask gateway = .ok config →
        Initialises driver (netifAdd.fill config (t.structs self.netif)).link ERR_OK) := by
  refine ⟨?_,?_,?_,reportsAdd_iff inet netifAdd self driver ip netmask gateway t⟩
  · rw [netifInit,callback_reports_iff]
    constructor
    · rintro ⟨v,netif',ret,h,hv⟩
      exact ⟨ret,initialises_iff.mp ⟨v,netif',h,hv⟩⟩
    · rintro ⟨ret,h⟩
      obtain ⟨v,netif',hbody,hv⟩ := initialises_iff.mpr h
      exact ⟨v,netif',ret,hbody,hv⟩
  · exact output_reports_iff _
  · exact output_reports_iff _

def NetifAdd.plain : NetifAdd where
  run t n _ init :=
    let r := init (t.structs n)
    if r.1 = ERR_OK then (true,⟨Function.update t.structs n r.2,n::t.list⟩)
    else (false,{ t with structs := Function.update t.structs n r.2 })
  fill _ netif := netif
  failed _ _ _ _ h := if_neg h
  added _ _ _ _ h := if_pos h

def blankNetif : NetifStruct := ⟨⟨[],0⟩,0,[],none,none⟩

/-- A driver that does not take the interface: `ERR_IF`. -/
def refusingDriver : NetifDriver := { NetifDriver.base with lwipOnInit := pure (.int (-12)) }

/-- The base class does not implement output, and lwIP hears `ERR_OK`; a driver refuses the
interface, and `add` returns. -/
theorem driver_failure_unreported :
    netifOutput NetifDriver.base (fun _ => ⟨[],0,none⟩) 0 [1,1,1,1] = ERR_OK ∧
    value (Netif.add textInet NetifAdd.plain ⟨0,0⟩ refusingDriver "10.0.0.1" "255.0.0.0" "10.0.0.1")
      ⟨fun _ => blankNetif,[]⟩ = some ⟨⟩ ∧
    (final (Netif.add textInet NetifAdd.plain ⟨0,0⟩ refusingDriver "10.0.0.1" "255.0.0.0"
      "10.0.0.1") ⟨fun _ => blankNetif,[]⟩).list = [] ∧
    ¬ ∀ (driver : NetifDriver) (heap : PbufRef → Pbuf) (p : PbufRef) (addr : Bytes),
      netifOutput driver heap p addr = ERR_OK →
        ∃ v, driver.lwipOnOutput (pbufToBytes heap p) addr = .ok v ∧ v.asInt = .ok ERR_OK := by
  refine ⟨rfl,by decide,by decide,fun h => ?_⟩
  obtain ⟨v,hv,_⟩ := h NetifDriver.base (fun _ => ⟨[],0,none⟩) 0 [1,1,1,1] rfl
  cases hv

end LwipPy
