import LwipPy.Library.Collector
import LwipPy.Library.Handles
import LwipPy.Library.Runs
import LwipPy.DriverReports

/-! How long a `Netif` lives. lwIP knows the struct of a `Netif` by its address and finds the object
through the handle in `state`; neither keeps anything alive. The list `allocs` of the `LwIP` does.
The collector may run between any two steps, and addresses are used again. -/
namespace LwipPy

open Handles Collector Program

/-- The Python objects that matter here. A driver is one of the others. -/
inductive PyObj
  | lwip (i : Instance)
  | netif (n : ℕ)
  | other (k : ℕ)
  deriving DecidableEq, Repr

/-- A `Netif` as `__init__` makes it: the library of its `LwIP`, the driver, and the addresses of
`ffi.new` and `ffi.new_handle`. -/
structure NetifObject (κ : Type) where
  lwip : Instance
  driver : ℕ
  netif : κ
  handle : κ
  deriving DecidableEq, Repr

/-- What cffi allocated for a `Netif`. It is freed with it. -/
inductive Cdata
  | struct (n : ℕ)
  | handle (n : ℕ)
  deriving DecidableEq, Repr

namespace Cdata

def owner : Cdata → ℕ
  | .struct n => n
  | .handle n => n

def struct? : Cdata → Option ℕ
  | .struct n => some n
  | .handle _ => none

def handle? : Cdata → Option ℕ
  | .struct _ => none
  | .handle n => some n

end Cdata

def NetifObject.address {κ : Type} (obj : NetifObject κ) : Cdata → κ
  | .struct _ => obj.netif
  | .handle _ => obj.handle

/-- What the driver is given: `lwip_on_output` without a zone, `lwip_on_output_ip6` with one. -/
structure Delivery where
  payload : Bytes
  dstIp : Bytes
  zone : Option ℕ
  deriving DecidableEq, Repr

/-- What lwIP outputs. -/
structure OutputPacket where
  heap : PbufRef → Pbuf
  pbuf : PbufRef
  addr : Bytes
  zone : Option ℕ

def OutputPacket.delivery (p : OutputPacket) : Delivery :=
  ⟨pbufToBytes p.heap p.pbuf,p.addr,p.zone⟩

/-- The function of a struct that lwIP calls to output a packet. -/
def NetifStruct.outputFn (netif : NetifStruct) (p : OutputPacket) : Option OutputFn :=
  match p.zone with
  | none => netif.output
  | some _ => netif.outputIp6

/-- The prefix and the MTU of the driver take `_netif_init` as far as the output functions. -/
def NetifDriver.fills (driver : NetifDriver) : Bool :=
  match driver.getPrefix, (do toUnsigned 16 (← (← driver.getMtu).asInt) : Except PyErr ℕ) with
  | .ok (.bytes name), .ok _ => name.length == 2
  | _, _ => false

theorem fills_iff {driver : NetifDriver} :
    driver.fills = true ↔ ∃ name mtu, Prepared driver name mtu := by
  constructor
  · intro h
    rw [NetifDriver.fills] at h
    split at h
    · next name mtu hp hmtu => exact ⟨name,mtu,hp,by simpa using h,hmtu⟩
    · cases h
  · rintro ⟨name,mtu,hp,htwo,hmtu⟩
    simp [NetifDriver.fills,hp,hmtu,htwo]

/-- Both output functions are filled in, or neither. -/
def Filled (netif : NetifStruct) (c : Bool) : Prop :=
  netif.output.isSome = c ∧ netif.outputIp6.isSome = c

theorem Filled.outputFn {netif : NetifStruct} {c : Bool} (h : Filled netif c)
    (packet : OutputPacket) : (netif.outputFn packet).isSome = c := by
  rw [NetifStruct.outputFn]
  split
  · exact h.1
  · exact h.2

theorem callback_snd {σ : Type} (body : EStateM PyErr σ PyValue) (s : σ) :
    (callback body s).2 = final body s := by
  rw [callback,final]
  cases body s with
  | ok v t => cases hret : asErrT v <;> simp only [hret]
  | error e t => rfl

/-- A body that does not come as far leaves the output functions as they are. -/
theorem outputs_of_not_fills {driver : NetifDriver} (h : driver.fills = false)
    (netif : NetifStruct) :
    (final (netifInitBody driver) netif).output = netif.output ∧
      (final (netifInitBody driver) netif).outputIp6 = netif.outputIp6 := by
  cases hp : driver.getPrefix with
  | error e => simp [final,netifInitBody,bind_apply,hp]
  | ok p =>
    cases hlen : p.len with
    | error e => simp [final,netifInitBody,bind_apply,hp,hlen]
    | ok len =>
      by_cases htwo : len = 2
      · cases hb : p.bytes? with
        | none => simp [final,netifInitBody,bind_apply,hp,hlen,htwo,hb]
        | some name =>
          obtain rfl : p = .bytes name := by
            cases p <;> cases hb
            rfl
          cases hmtu : (do toUnsigned 16 (← (← driver.getMtu).asInt)) with
          | error e => simp [final,netifInitBody,bind_apply,hp,hlen,htwo,hb,hmtu]
          | ok mtu =>
            obtain rfl : name.length = len := Except.ok.inj hlen
            rw [fills_iff.mpr ⟨name,mtu,hp,htwo,hmtu⟩] at h
            cases h
      · simp [final,netifInitBody,bind_apply,hp,hlen,htwo]

theorem filled_netifInit (driver : NetifDriver) {netif : NetifStruct} {c : Bool}
    (h : Filled netif c) : Filled (netifInit driver netif).2 (c || driver.fills) := by
  rw [netifInit,callback_snd]
  cases hfills : driver.fills with
  | true =>
    obtain ⟨name,mtu,hp⟩ := fills_iff.mp hfills
    rw [final,netifInitBody_run hp]
    cases hinit : driver.lwipOnInit (NetifStruct.linkPart.read (prepare name mtu netif)) with
    | ok v link =>
      rw [zoom_of_ok hinit,Bool.or_true]
      exact ⟨rfl,rfl⟩
    | error e link =>
      rw [zoom_of_error hinit,Bool.or_true]
      exact ⟨rfl,rfl⟩
  | false =>
    obtain ⟨houtput,houtput6⟩ := outputs_of_not_fills hfills netif
    rw [Bool.or_false,Filled,houtput,houtput6]
    exact h

/-- What lwIP does with the structs, and what the drivers are given. -/
inductive NetifEvent (κ : Type)
  | added (n : ℕ)
  | initialised (n : ℕ) (driver : NetifDriver)
  | output (netif : κ) (packet : OutputPacket)
  | delivered (n driver : ℕ) (delivery : Delivery)

/-- The objects, the memory, and what the stacks know. `state` is the field of that name. -/
structure NetifWorld (κ : Type) where
  heap : Heap PyObj
  netifs : List (NetifObject κ)
  memory : Table κ Cdata
  struct : ℕ → NetifStruct
  state : ℕ → Option κ
  adding : List (Instance × κ)
  netifList : Instance → List κ
  routed : Instance → List κ
  log : List (NetifEvent κ)

/-- What the program, the collector and the stacks do. `netifInit` has what the methods of the
driver do this time. -/
inductive NetifStep (κ : Type)
  | construct (lwip : Instance)
  | make (k : ℕ)
  | assign (o p : PyObj)
  | unassign (k : ℕ) (p : PyObj)
  | hold (o : PyObj)
  | release (o : PyObj)
  | collect (gone : List PyObj)
  | createNetif (lwip : Instance) (driver : ℕ) (netif handle : κ)
  | add (n : ℕ) (filled : NetifStruct)
  | netifInit (lwip : Instance) (netif : κ) (driver : NetifDriver)
  | remove (n : ℕ)
  | route (lwip : Instance) (n : ℕ)
  | output (lwip : Instance) (netif : κ) (packet : OutputPacket)

namespace NetifWorld

variable {κ : Type}

def init : NetifWorld κ where
  heap := .empty
  netifs := []
  memory _ := none
  struct _ := blankNetif
  state _ := none
  adding := []
  netifList _ := []
  routed _ := []
  log := []

/-- The struct at an address, by the number of its `Netif`. -/
def structAt (s : NetifWorld κ) (a : κ) : Option ℕ := (s.memory a).bind Cdata.struct?

def handleAt (s : NetifWorld κ) (a : κ) : Option ℕ := (s.memory a).bind Cdata.handle?

/-- `ffi.from_handle(netif.state)`; `none` where C or cffi touches memory that is gone. -/
def fromHandle (s : NetifWorld κ) (a : κ) : Option ℕ :=
  (s.structAt a).bind fun n => (s.state n).bind s.handleAt

def logged (s : NetifWorld κ) (e : NetifEvent κ) : NetifWorld κ := { s with log := s.log ++ [e] }

/-- The driver of the `Netif` that `from_handle` finds is given a packet. If it finds none, the
packet is lost. -/
def deliver (s : NetifWorld κ) (a : κ) (packet : OutputPacket) : NetifWorld κ :=
  match (s.fromHandle a).bind fun m => (s.netifs[m]?).map fun self => (m,self.driver) with
  | none => s
  | some (m,driver) => s.logged (.delivered m driver packet.delivery)

/-- lwIP outputs through a struct. Before `netif_add` there is no function to call, and one that
the callback did not fill in is lwIP's own. -/
def callOutput (s : NetifWorld κ) (a : κ) (packet : OutputPacket) : Option (NetifWorld κ) :=
  (s.structAt a).bind fun n =>
    if s.state n = none then none
    else match (s.struct n).outputFn packet with
      | none => some (s.logged (.output a packet))
      | some _ => some ((s.logged (.output a packet)).deliver a packet)

/-- `netif_add` clears the functions that are stored in the struct. -/
def cleared (filled : NetifStruct) : NetifStruct :=
  { filled with output := none, outputIp6 := none }

section Step

variable [DecidableEq κ]

/-- One step; `none` where it cannot be taken, or ends in memory that is gone. -/
def step (s : NetifWorld κ) : NetifStep κ → Option (NetifWorld κ)
  | .construct lwip => (s.heap.make (.lwip lwip) []).map fun heap => { s with heap := heap }
  | .make k => (s.heap.make (.other k) []).map fun heap => { s with heap := heap }
  | .assign o p => (s.heap.assign o p).map fun heap => { s with heap := heap }
  | .unassign k p => (s.heap.unassign (.other k) p).map fun heap => { s with heap := heap }
  | .hold o => (s.heap.hold o).map fun heap => { s with heap := heap }
  | .release o => some { s with heap := s.heap.release o }
  | .collect gone => (s.heap.collect gone).map fun heap =>
      { s with heap := heap, memory := s.memory.keep fun c => .netif c.owner ∉ gone }
  | .createNetif lwip driver netif handle =>
    let n := s.netifs.length
    if s.memory netif = none ∧ s.memory handle = none ∧ netif ≠ handle then
      (s.heap.make (.netif n) [.other driver]).bind fun heap =>
        (heap.assign (.lwip lwip) (.netif n)).map fun heap =>
          { s with
            heap := heap
            netifs := s.netifs ++ [⟨lwip,driver,netif,handle⟩]
            memory := (s.memory.put netif (.struct n)).put handle (.handle n) }
    else none
  | .add n filled => (s.netifs[n]?).bind fun self =>
    if s.heap.Alive (.netif n) then some
      { s with
        struct := Function.update s.struct n (cleared filled)
        state := Function.update s.state n (some self.handle)
        adding := (self.lwip,self.netif) :: s.adding
        log := s.log ++ [.added n] }
    else none
  | .netifInit lwip a driver =>
    if (lwip,a) ∈ s.adding then
      (s.structAt a).bind fun n => (s.fromHandle a).map fun _ =>
        let r := LwipPy.netifInit driver (s.struct n)
        { s with
          struct := Function.update s.struct n r.2
          adding := s.adding.erase (lwip,a)
          netifList := if r.1 = ERR_OK then
              Function.update s.netifList lwip (a :: s.netifList lwip)
            else s.netifList
          log := s.log ++ [.initialised n driver] }
    else none
  | .remove n => (s.netifs[n]?).bind fun self =>
    if s.heap.Alive (.netif n) then some
      { s with
        netifList := Function.update s.netifList self.lwip
          ((s.netifList self.lwip).erase self.netif) }
    else none
  | .route lwip n => (s.netifs[n]?).bind fun self =>
    if s.heap.Alive (.netif n) then some
      { s with routed := Function.update s.routed lwip (self.netif :: s.routed lwip) }
    else none
  | .output lwip a packet =>
    if a ∈ s.netifList lwip ∨ a ∈ s.routed lwip then s.callOutput a packet else none

def run (s : NetifWorld κ) (steps : List (NetifStep κ)) : Option (NetifWorld κ) :=
  steps.foldlM step s

end Step

/-- The address of what cffi allocated for a `Netif` that is alive. -/
def held (s : NetifWorld κ) (c : Cdata) : Option κ :=
  if s.heap.Alive (.netif c.owner) then (s.netifs[c.owner]?).map fun obj => obj.address c else none

/-- The `Netif` behind an address that lwIP knows. -/
def Knows (s : NetifWorld κ) (lwip : Instance) (a : κ) : Prop :=
  ∃ n obj, s.netifs[n]? = some obj ∧ obj.lwip = lwip ∧ obj.netif = a ∧
    s.state n = some obj.handle

/-- A `LwIP` refers to its `Netif`s and these to their drivers, the memory holds what belongs to
the living ones, and lwIP knows only structs it was given. -/
structure Sound (s : NetifWorld κ) : Prop where
  made : ∀ n, .netif n ∈ s.heap.made ↔ n < s.netifs.length
  kept : ∀ n obj, s.netifs[n]? = some obj → .lwip obj.lwip ∈ s.heap.made ∧
    .netif n ∈ s.heap.refs (.lwip obj.lwip) ∧ .other obj.driver ∈ s.heap.refs (.netif n)
  memory : Exact s.memory s.held
  state : ∀ n h, s.state n = some h → ∃ obj, s.netifs[n]? = some obj ∧ obj.handle = h
  adding : ∀ i a, (i,a) ∈ s.adding → s.Knows i a
  listed : ∀ i a, a ∈ s.netifList i → s.Knows i a
  routed : ∀ i a, a ∈ s.routed i → ∃ (n : ℕ) (obj : NetifObject κ),
    s.netifs[n]? = some obj ∧ obj.netif = a

theorem sound_init : Sound (init : NetifWorld κ) where
  made n := by simp [init,Heap.empty]
  kept n obj h := by simp [init] at h
  memory c a := by
    simp [init,held,Heap.empty,Graph.Alive]
  state n h hs := by simp [init] at hs
  adding i a h := by simp [init] at h
  listed i a h := by simp [init] at h
  routed i a h := by simp [init] at h

section Sound

variable {s s' : NetifWorld κ} {n m : ℕ} {obj : NetifObject κ} {a : κ}

/-- As long as a `LwIP` is alive, so are its `Netif`s. -/
theorem Sound.alive (hs : Sound s) (hobj : s.netifs[n]? = some obj)
    (halive : s.heap.Alive (.lwip obj.lwip)) : s.heap.Alive (.netif n) :=
  s.heap.refs_alive _ halive _ (hs.kept n obj hobj).2.1

theorem Sound.driver_alive (hs : Sound s) (hobj : s.netifs[n]? = some obj)
    (halive : s.heap.Alive (.netif n)) : s.heap.Alive (.other obj.driver) :=
  s.heap.refs_alive _ halive _ (hs.kept n obj hobj).2.2

theorem held_of (hobj : s.netifs[n]? = some obj) (halive : s.heap.Alive (.netif n)) {c : Cdata}
    (hc : c.owner = n) : s.held c = some (obj.address c) := by
  subst hc
  rw [held,if_pos halive,hobj]
  rfl

theorem Sound.structAt_eq (hs : Sound s) (hobj : s.netifs[n]? = some obj)
    (halive : s.heap.Alive (.netif n)) : s.structAt obj.netif = some n := by
  have hmem : s.memory obj.netif = some (.struct n) :=
    (hs.memory (.struct n) obj.netif).mpr (held_of hobj halive rfl)
  rw [structAt,hmem]
  rfl

theorem Sound.handleAt_eq (hs : Sound s) (hobj : s.netifs[n]? = some obj)
    (halive : s.heap.Alive (.netif n)) : s.handleAt obj.handle = some n := by
  have hmem : s.memory obj.handle = some (.handle n) :=
    (hs.memory (.handle n) obj.handle).mpr (held_of hobj halive rfl)
  rw [handleAt,hmem]
  rfl

/-- What is behind an address is alive, and the address is its own. -/
theorem Sound.of_structAt (hs : Sound s) (h : s.structAt a = some n) :
    s.heap.Alive (.netif n) ∧ ∃ obj, s.netifs[n]? = some obj ∧ obj.netif = a := by
  obtain ⟨c,hmem,hc⟩ := Option.bind_eq_some_iff.mp h
  cases c with
  | handle m => cases hc
  | struct m =>
    obtain rfl := Option.some.inj hc
    have hheld := (hs.memory (.struct m) a).mp hmem
    rw [held] at hheld
    split_ifs at hheld with halive
    obtain ⟨obj,hobj,haddr⟩ := Option.map_eq_some_iff.mp hheld
    exact ⟨halive,obj,hobj,haddr⟩

theorem Sound.fromHandle_eq (hs : Sound s) (hobj : s.netifs[n]? = some obj)
    (halive : s.heap.Alive (.netif n)) (hadded : s.state n ≠ none) :
    s.fromHandle obj.netif = some n := by
  obtain ⟨handle,hstate⟩ := Option.ne_none_iff_exists'.mp hadded
  obtain ⟨obj',hobj',rfl⟩ := hs.state n handle hstate
  obtain rfl := Option.some.inj (hobj.symm.trans hobj')
  rw [fromHandle,hs.structAt_eq hobj halive,Option.bind_some,hstate,Option.bind_some]
  exact hs.handleAt_eq hobj halive

/-- `state` never leads to the object of another struct. -/
theorem Sound.of_fromHandle (hs : Sound s) (h : s.fromHandle a = some m) :
    s.structAt a = some m := by
  obtain ⟨n,hstruct,hrest⟩ := Option.bind_eq_some_iff.mp h
  obtain ⟨h',hstate,hhandle⟩ := Option.bind_eq_some_iff.mp hrest
  obtain ⟨halive,_⟩ := hs.of_structAt hstruct
  obtain ⟨obj,hobj,rfl⟩ := hs.state n h' hstate
  rw [hs.handleAt_eq hobj halive] at hhandle
  obtain rfl := Option.some.inj hhandle
  exact hstruct

/-- No packet is lost that goes through a struct that was added. -/
theorem Sound.deliver_eq (hs : Sound s) (hstruct : s.structAt a = some n)
    (hadded : s.state n ≠ none) (packet : OutputPacket) :
    ∃ obj, s.netifs[n]? = some obj ∧ obj.netif = a ∧
      s.deliver a packet = s.logged (.delivered n obj.driver packet.delivery) := by
  obtain ⟨halive,obj,hobj,rfl⟩ := hs.of_structAt hstruct
  have hfound : s.fromHandle obj.netif = some n := hs.fromHandle_eq hobj halive hadded
  refine ⟨obj,hobj,rfl,?_⟩
  simp only [deliver,hfound,hobj,Option.bind_some,Option.map_some]

end Sound

/-- What the program does to its objects leaves the `Netif`s and their references alone. -/
structure Extends (h h' : Heap PyObj) : Prop where
  netifs : ∀ n, .netif n ∈ h'.made ↔ .netif n ∈ h.made
  made : ∀ o ∈ h.made, o ∈ h'.made
  alive : ∀ n, h'.Alive (.netif n) ↔ h.Alive (.netif n)
  refs : ∀ o ∈ h.made, (∀ k, o ≠ .other k) → h.refs o ⊆ h'.refs o

section Extends

variable {h h' : Heap PyObj} {o p : PyObj}

theorem extends_make {ps : List PyObj} (ho : ∀ n, o ≠ .netif n) (hmake : h.make o ps = some h') :
    Extends h h' := by
  obtain ⟨hnew,hmade,halive,hrefs⟩ := Heap.make_eq hmake
  constructor
  · intro n
    rw [hmade,List.mem_cons]
    exact or_iff_right (ho n).symm
  · intro q hq
    rw [hmade]
    exact List.mem_cons_of_mem _ hq
  · intro n
    rw [halive]
    exact or_iff_right (ho n).symm
  · intro q hq _
    have hne : q ≠ o := by
      rintro rfl
      exact hnew hq
    rw [hrefs,Function.update_of_ne hne]
    exact List.Subset.refl _

theorem extends_assign (hassign : h.assign o p = some h') : Extends h h' := by
  obtain ⟨hmade,halive,hrefs,_⟩ := Heap.assign_eq hassign
  constructor
  · intro n
    rw [hmade]
  · intro q hq
    rw [hmade]
    exact hq
  · exact fun n => halive _
  · exact fun q _ _ => hrefs q

theorem extends_unassign {k : ℕ} (hunassign : h.unassign (.other k) p = some h') :
    Extends h h' := by
  obtain ⟨hmade,halive,hrefs⟩ := Heap.unassign_eq hunassign
  constructor
  · intro n
    rw [hmade]
  · intro q hq
    rw [hmade]
    exact hq
  · exact fun n => halive _
  · intro q _ hq
    rw [hrefs q (hq k)]
    exact List.Subset.refl _

theorem extends_same (hsame : h'.made = h.made ∧ (∀ q, h'.Alive q ↔ h.Alive q) ∧ h'.refs = h.refs) :
    Extends h h' := by
  obtain ⟨hmade,halive,hrefs⟩ := hsame
  constructor
  · intro n
    rw [hmade]
  · intro q hq
    rw [hmade]
    exact hq
  · exact fun n => halive _
  · intro q _ _
    rw [hrefs]
    exact List.Subset.refl _

end Extends

section Step

variable {s s' : NetifWorld κ}

theorem Knows.mono {lwip : Instance} {a : κ} (h : s.Knows lwip a)
    (hobjs : ∀ (n : ℕ) obj, s.netifs[n]? = some obj → s'.netifs[n]? = some obj)
    (hstate : ∀ (n : ℕ) obj, s.netifs[n]? = some obj → s.state n = some obj.handle →
      s'.state n = some obj.handle) : s'.Knows lwip a := by
  obtain ⟨n,obj,hobj,hlwip,hnetif,hs⟩ := h
  exact ⟨n,obj,hobjs n obj hobj,hlwip,hnetif,hstate n obj hobj hs⟩

theorem Sound.program (hs : Sound s) {heap : Heap PyObj} (h : Extends s.heap heap) :
    Sound { s with heap := heap } where
  made n := by rw [h.netifs,hs.made]
  kept n obj hobj := by
    obtain ⟨hlwip,hnetif,hdriver⟩ := hs.kept n obj hobj
    have hmade : .netif n ∈ s.heap.made := by
      rw [hs.made]
      exact (List.getElem?_eq_some_iff.mp hobj).1
    exact ⟨h.made _ hlwip,h.refs _ hlwip (fun _ => nofun) hnetif,
      h.refs _ hmade (fun _ => nofun) hdriver⟩
  memory := by
    have hheld : NetifWorld.held { s with heap := heap } = s.held := by
      funext c
      simp only [held,h.alive]
    rw [hheld]
    exact hs.memory
  state := hs.state
  adding := hs.adding
  listed := hs.listed
  routed := hs.routed

theorem Sound.collect (hs : Sound s) {gone : List PyObj} {heap : Heap PyObj}
    (h : s.heap.collect gone = some heap) :
    Sound { s with heap := heap, memory := s.memory.keep fun c => .netif c.owner ∉ gone } := by
  obtain ⟨hmade,halive,hrefs⟩ := Heap.collect_eq h
  constructor
  · intro n
    rw [hmade]
    exact hs.made n
  · intro n obj hobj
    rw [hmade,hrefs]
    exact hs.kept n obj hobj
  · apply hs.memory.keep
    intro c
    simp only [held,halive]
    by_cases hgone : PyObj.netif c.owner ∈ gone <;> simp [hgone]
  · exact hs.state
  · exact hs.adding
  · exact hs.listed
  · exact hs.routed

theorem Sound.logged (hs : Sound s) (e : NetifEvent κ) : Sound (s.logged e) :=
  ⟨hs.made,hs.kept,hs.memory,hs.state,hs.adding,hs.listed,hs.routed⟩

theorem mem_update {f : Instance → List κ} {P : Instance → κ → Prop} {j : Instance} {l : List κ}
    (hl : ∀ a ∈ l, P j a) (h : ∀ i a, a ∈ f i → P i a) (i : Instance) (a : κ)
    (ha : a ∈ Function.update f j l i) : P i a := by
  by_cases hi : i = j
  · subst hi
    rw [Function.update_self] at ha
    exact hl a ha
  · rw [Function.update_of_ne hi] at ha
    exact h i a ha

theorem Sound.update (hs : Sound s) (hheap : s'.heap = s.heap) (hnetifs : s'.netifs = s.netifs)
    (hmemory : s'.memory = s.memory)
    (hstate : ∀ n, s'.state n = s.state n ∨ ∃ obj, s.netifs[n]? = some obj ∧
      s'.state n = some obj.handle)
    (hadding : ∀ i a, (i,a) ∈ s'.adding → s.Knows i a ∨ s'.Knows i a)
    (hlisted : ∀ i a, a ∈ s'.netifList i → s.Knows i a)
    (hrouted : ∀ i a, a ∈ s'.routed i → ∃ (n : ℕ) (obj : NetifObject κ),
      s.netifs[n]? = some obj ∧ obj.netif = a) : Sound s' := by
  have hmono : ∀ i a, s.Knows i a → s'.Knows i a := by
    intro i a hknows
    apply hknows.mono
    · intro n obj hobj
      rw [hnetifs]
      exact hobj
    · intro n obj hobj hold
      rcases hstate n with hsame | ⟨obj',hobj',hnew⟩
      · rw [hsame]
        exact hold
      · obtain rfl := Option.some.inj (hobj.symm.trans hobj')
        exact hnew
  constructor
  · intro n
    rw [hheap,hnetifs]
    exact hs.made n
  · intro n obj hobj
    rw [hnetifs] at hobj
    rw [hheap]
    exact hs.kept n obj hobj
  · have hheld : s'.held = s.held := by
      funext c
      simp only [held,hheap,hnetifs]
    rw [hmemory,hheld]
    exact hs.memory
  · intro n h hn
    rw [hnetifs]
    rcases hstate n with hsame | ⟨obj,hobj,hnew⟩
    · rw [hsame] at hn
      exact hs.state n h hn
    · rw [hnew] at hn
      exact ⟨obj,hobj,Option.some.inj hn⟩
  · intro i a h
    rcases hadding i a h with hold | hnew
    · exact hmono i a hold
    · exact hnew
  · exact fun i a h => hmono i a (hlisted i a h)
  · intro i a h
    rw [hnetifs]
    exact hrouted i a h

theorem Sound.add (hs : Sound s) {n : ℕ} {self : NetifObject κ} (filled : NetifStruct)
    (hself : s.netifs[n]? = some self) :
    Sound { s with
      struct := Function.update s.struct n filled
      state := Function.update s.state n (some self.handle)
      adding := (self.lwip,self.netif) :: s.adding
      log := s.log ++ [.added n] } := by
  refine hs.update rfl rfl rfl ?_ ?_ ?_ ?_
  · intro m
    by_cases hm : m = n
    · subst hm
      exact .inr ⟨self,hself,Function.update_self m _ _⟩
    · exact .inl (Function.update_of_ne hm _ _)
  · intro i a h
    rcases List.mem_cons.mp h with heq | h
    · cases heq
      exact .inr ⟨n,self,hself,rfl,rfl,Function.update_self n _ _⟩
    · exact .inl (hs.adding i a h)
  · exact hs.listed
  · exact hs.routed

theorem Sound.netifInit [DecidableEq κ] (hs : Sound s) {lwip : Instance} {a : κ} {listed : List κ}
    (hmem : (lwip,a) ∈ s.adding) (hlisted : listed ⊆ a :: s.netifList lwip) (n : ℕ)
    (netif : NetifStruct) (driver : NetifDriver) :
    Sound { s with
      struct := Function.update s.struct n netif
      adding := s.adding.erase (lwip,a)
      netifList := Function.update s.netifList lwip listed
      log := s.log ++ [.initialised n driver] } := by
  refine hs.update rfl rfl rfl ?_ ?_ ?_ ?_
  · exact fun _ => .inl rfl
  · intro i b h
    exact .inl (hs.adding i b (List.mem_of_mem_erase h))
  · apply mem_update _ hs.listed
    intro b hb
    rcases List.mem_cons.mp (hlisted hb) with rfl | hb
    · exact hs.adding lwip b hmem
    · exact hs.listed lwip b hb
  · exact hs.routed

theorem Sound.remove [DecidableEq κ] (hs : Sound s) (lwip : Instance) (a : κ) :
    Sound { s with
      netifList := Function.update s.netifList lwip ((s.netifList lwip).erase a) } := by
  refine hs.update rfl rfl rfl ?_ ?_ ?_ ?_
  · exact fun _ => .inl rfl
  · exact fun i b h => .inl (hs.adding i b h)
  · apply mem_update _ hs.listed
    exact fun b hb => hs.listed lwip b (List.mem_of_mem_erase hb)
  · exact hs.routed

theorem Sound.route (hs : Sound s) (lwip : Instance) {n : ℕ} {self : NetifObject κ}
    (hself : s.netifs[n]? = some self) :
    Sound { s with
      routed := Function.update s.routed lwip (self.netif :: s.routed lwip) } := by
  refine hs.update rfl rfl rfl ?_ ?_ ?_ ?_
  · exact fun _ => .inl rfl
  · exact fun i b h => .inl (hs.adding i b h)
  · exact hs.listed
  · apply mem_update _ hs.routed
    intro b hb
    rcases List.mem_cons.mp hb with rfl | hb
    · exact ⟨n,self,hself,rfl⟩
    · exact hs.routed lwip b hb

section Create

variable {obj : NetifObject κ} {heap heap' : Heap PyObj}

theorem alive_create
    (hmake : s.heap.make (.netif s.netifs.length) [.other obj.driver] = some heap)
    (hassign : heap.assign (.lwip obj.lwip) (.netif s.netifs.length) = some heap') (n : ℕ) :
    heap'.Alive (.netif n) ↔ n = s.netifs.length ∨ s.heap.Alive (.netif n) := by
  rw [(Heap.assign_eq hassign).2.1,(Heap.make_eq hmake).2.2.1]
  simp

theorem held_create (hs : Sound s)
    (hmake : s.heap.make (.netif s.netifs.length) [.other obj.driver] = some heap)
    (hassign : heap.assign (.lwip obj.lwip) (.netif s.netifs.length) = some heap') :
    NetifWorld.held { s with heap := heap', netifs := s.netifs ++ [obj] } =
      Function.update (Function.update s.held (.struct s.netifs.length) (some obj.netif))
        (.handle s.netifs.length) (some obj.handle) := by
  funext c
  by_cases hc : c.owner = s.netifs.length
  · simp only [held,alive_create hmake hassign,hc,true_or,if_true]
    cases c with
    | struct n =>
      obtain rfl : n = s.netifs.length := hc
      simp [NetifObject.address]
    | handle n =>
      obtain rfl : n = s.netifs.length := hc
      simp [NetifObject.address]
  · have hstruct : c ≠ .struct s.netifs.length := by
      rintro rfl
      exact hc rfl
    have hhandle : c ≠ .handle s.netifs.length := by
      rintro rfl
      exact hc rfl
    rw [Function.update_of_ne hhandle,Function.update_of_ne hstruct]
    simp only [held,alive_create hmake hassign,hc,false_or]
    by_cases halive : s.heap.Alive (.netif c.owner)
    · have hlt : c.owner < s.netifs.length := (hs.made _).mp halive.1
      rw [if_pos halive,if_pos halive,List.getElem?_append_left hlt]
    · rw [if_neg halive,if_neg halive]

theorem Sound.createNetif [DecidableEq κ] (hs : Sound s) (hnetif : s.memory obj.netif = none)
    (hhandle : s.memory obj.handle = none) (hne : obj.netif ≠ obj.handle)
    (hmake : s.heap.make (.netif s.netifs.length) [.other obj.driver] = some heap)
    (hassign : heap.assign (.lwip obj.lwip) (.netif s.netifs.length) = some heap') :
    Sound { s with
      heap := heap'
      netifs := s.netifs ++ [obj]
      memory := (s.memory.put obj.netif (.struct s.netifs.length)).put obj.handle
        (.handle s.netifs.length) } := by
  obtain ⟨hnew,hmade,_,hrefs⟩ := Heap.make_eq hmake
  obtain ⟨hmade',_,hrefs',hlwip,hself⟩ := Heap.assign_eq hassign
  have hold : ∀ (n : ℕ) o, s.netifs[n]? = some o → (s.netifs ++ [obj])[n]? = some o := by
    intro n o ho
    rw [List.getElem?_append_left (List.getElem?_eq_some_iff.mp ho).1]
    exact ho
  have hknows : ∀ i a, s.Knows i a → NetifWorld.Knows { s with netifs := s.netifs ++ [obj] } i a :=
    fun i a h => h.mono hold fun _ _ _ hstate => hstate
  have hdead : ¬ s.heap.Alive (.netif s.netifs.length) := fun h => hnew h.1
  have hnone : ∀ c : Cdata, c.owner = s.netifs.length → s.held c = none := by
    intro c hc
    rw [held,hc,if_neg hdead]
  constructor
  · intro n
    rw [hmade',hmade,List.mem_cons,hs.made,List.length_append,List.length_singleton]
    simp only [PyObj.netif.injEq]
    omega
  · intro n o ho
    rcases lt_or_ge n s.netifs.length with hn | hn
    · rw [List.getElem?_append_left hn] at ho
      obtain ⟨hmem,hnetif,hdriver⟩ := hs.kept n o ho
      refine ⟨?_,hrefs' _ ?_,hrefs' _ ?_⟩
      · rw [hmade',hmade]
        exact List.mem_cons_of_mem _ hmem
      · rw [hrefs,Function.update_of_ne (by simp)]
        exact hnetif
      · rw [hrefs,Function.update_of_ne (by simp [hn.ne])]
        exact hdriver
    · obtain ⟨rfl,rfl⟩ : n = s.netifs.length ∧ o = obj := by
        rw [List.getElem?_append_right hn,List.getElem?_singleton] at ho
        split_ifs at ho with hzero
        cases ho
        exact ⟨by omega,rfl⟩
      refine ⟨?_,hself,hrefs' _ ?_⟩
      · rw [hmade']
        exact hlwip.1
      · rw [hrefs,Function.update_self]
        exact List.mem_singleton_self _
  · have hput := (hs.memory.put hnetif (hnone (.struct s.netifs.length) rfl)).put
      (a := obj.handle) (o := .handle s.netifs.length) ?_ ?_
    · rw [← held_create hs hmake hassign] at hput
      exact hput
    · rw [Table.put,Function.update_of_ne hne.symm]
      exact hhandle
    · rw [Function.update_of_ne (by simp)]
      exact hnone _ rfl
  · intro n h hn
    obtain ⟨o,ho,hh⟩ := hs.state n h hn
    exact ⟨o,hold n o ho,hh⟩
  · exact fun i a h => hknows i a (hs.adding i a h)
  · exact fun i a h => hknows i a (hs.listed i a h)
  · intro i a h
    obtain ⟨n,o,ho,ha⟩ := hs.routed i a h
    exact ⟨n,o,hold n o ho,ha⟩

end Create

end Step

section Deliveries

variable {s s' : NetifWorld κ} {log : List (NetifEvent κ)} {n : ℕ} {a : κ}

def received (n : ℕ) : NetifEvent κ → Option Delivery
  | .delivered m _ delivery => if m = n then some delivery else none
  | _ => none

/-- Whether the output functions of a `Netif` are filled in, after an event. -/
def connects (n : ℕ) (c : Bool) : NetifEvent κ → Bool
  | .added m => if m = n then false else c
  | .initialised m driver => if m = n then c || driver.fills else c
  | _ => c

def connected (n : ℕ) (log : List (NetifEvent κ)) : Bool := log.foldl (connects n) false

theorem received_none (h : ∀ d x, .delivered n d x ∉ log) : log.filterMap (received n) = [] := by
  rw [List.filterMap_eq_nil_iff]
  intro e he
  cases e with
  | delivered m d x =>
    have hm : m ≠ n := by
      rintro rfl
      exact h d x he
    simp [received,hm]
  | _ => rfl

variable [DecidableEq κ]

/-- What lwIP output in an event through the struct at an address. -/
def through (a : κ) : NetifEvent κ → List Delivery
  | .output b packet => if b = a then [packet.delivery] else []
  | _ => []

/-- What lwIP output through the struct of a `Netif` while its output functions were filled in. -/
def owed (n : ℕ) (a : κ) (c : Bool) : List (NetifEvent κ) → List Delivery
  | [] => []
  | e::log => (if c then through a e else []) ++ owed n a (connects n c e) log

theorem owed_append (c : Bool) (log events : List (NetifEvent κ)) :
    owed n a c (log ++ events) = owed n a c log ++ owed n a (log.foldl (connects n) c) events := by
  induction log generalizing c with
  | nil => rfl
  | cons e log ih =>
    rw [List.cons_append,owed,owed,ih,List.append_assoc]
    rfl

theorem owed_nil (h : ∀ driver, .initialised n driver ∉ log) : owed n a false log = [] := by
  induction log with
  | nil => rfl
  | cons e log ih =>
    have hrest : ∀ driver, .initialised n driver ∉ log := fun driver hmem =>
      h driver (List.mem_cons_of_mem _ hmem)
    have hc : connects n false e = false := by
      cases e with
      | initialised m driver =>
        have hm : m ≠ n := by
          rintro rfl
          exact h driver List.mem_cons_self
        simp [connects,hm]
      | _ => simp [connects]
    rw [owed,hc,ih hrest]
    rfl

/-- The structs are as the log says, a `Netif` that is alive got what it was owed, and each delivery
went to the driver of the `Netif` it was for. -/
structure Accounted (s : NetifWorld κ) : Prop where
  filled : ∀ n, Filled (s.struct n) (connected n s.log)
  initialised : ∀ n driver, .initialised n driver ∈ s.log → n < s.netifs.length
  accounts : ∀ n obj, s.netifs[n]? = some obj → s.heap.Alive (.netif n) →
    s.log.filterMap (received n) = owed n obj.netif false s.log
  drivers : ∀ n d x, .delivered n d x ∈ s.log → ∃ obj, s.netifs[n]? = some obj ∧ obj.driver = d

theorem accounted_init : Accounted (init : NetifWorld κ) where
  filled n := ⟨rfl,rfl⟩
  initialised n driver h := by simp [init] at h
  accounts n obj h := by simp [init] at h
  drivers n d x h := by simp [init] at h

/-- Something happens to the structs, or through them. -/
theorem Accounted.extend (hs : Accounted s) (events : List (NetifEvent κ))
    (hnetifs : s'.netifs = s.netifs) (hlog : s'.log = s.log ++ events)
    (halive : ∀ n, s'.heap.Alive (.netif n) → s.heap.Alive (.netif n))
    (hfilled : ∀ n, Filled (s'.struct n) (events.foldl (connects n) (connected n s.log)))
    (hinit : ∀ n driver, .initialised n driver ∈ events → n < s.netifs.length)
    (haccounts : ∀ n obj, s.netifs[n]? = some obj → s.heap.Alive (.netif n) →
      events.filterMap (received n) = owed n obj.netif (connected n s.log) events)
    (hdrivers : ∀ n d x, .delivered n d x ∈ events →
      ∃ obj, s.netifs[n]? = some obj ∧ obj.driver = d) : Accounted s' := by
  constructor
  · intro n
    rw [hlog,connected,List.foldl_append]
    exact hfilled n
  · intro n driver h
    rw [hlog,List.mem_append] at h
    rw [hnetifs]
    exact h.elim (hs.initialised n driver) (hinit n driver)
  · intro n obj hobj hn
    rw [hnetifs] at hobj
    rw [hlog,List.filterMap_append,hs.accounts n obj hobj (halive n hn),
      haccounts n obj hobj (halive n hn),owed_append]
    rfl
  · intro n d x h
    rw [hlog,List.mem_append] at h
    rw [hnetifs]
    exact h.elim (hs.drivers n d x) (hdrivers n d x)

theorem Accounted.quiet (hs : Accounted s) (hnetifs : s'.netifs = s.netifs)
    (hlog : s'.log = s.log) (hstruct : s'.struct = s.struct)
    (halive : ∀ n, s'.heap.Alive (.netif n) → s.heap.Alive (.netif n)) : Accounted s' := by
  refine hs.extend [] hnetifs (by rw [hlog,List.append_nil]) halive ?_ (by simp) ?_ (by simp)
  · intro n
    rw [hstruct]
    exact hs.filled n
  · exact fun _ _ _ _ => rfl

theorem Accounted.createNetif (hs : Accounted s) {obj : NetifObject κ}
    (hnetifs : s'.netifs = s.netifs ++ [obj]) (hlog : s'.log = s.log)
    (hstruct : s'.struct = s.struct)
    (halive : ∀ n, s'.heap.Alive (.netif n) → n = s.netifs.length ∨ s.heap.Alive (.netif n)) :
    Accounted s' := by
  have hlen : s'.netifs.length = s.netifs.length+1 := by simp [hnetifs]
  constructor
  · intro n
    rw [hlog,hstruct]
    exact hs.filled n
  · intro n driver h
    rw [hlog] at h
    have hlt := hs.initialised n driver h
    omega
  · intro n o ho hn
    rw [hnetifs] at ho
    rw [hlog]
    by_cases hlt : n < s.netifs.length
    · rw [List.getElem?_append_left hlt] at ho
      exact hs.accounts n o ho ((halive n hn).resolve_left hlt.ne)
    · rw [received_none,owed_nil]
      · exact fun driver h => hlt (hs.initialised n driver h)
      · intro d x h
        obtain ⟨o',ho',_⟩ := hs.drivers n d x h
        exact hlt (List.getElem?_eq_some_iff.mp ho').1
  · intro n d x h
    rw [hlog] at h
    obtain ⟨o,ho,hd⟩ := hs.drivers n d x h
    rw [hnetifs,List.getElem?_append_left (List.getElem?_eq_some_iff.mp ho).1]
    exact ⟨o,ho,hd⟩

theorem Accounted.refill (hs : Accounted s) {e : NetifEvent κ} {netif : NetifStruct}
    (hnetifs : s'.netifs = s.netifs) (hlog : s'.log = s.log ++ [e])
    (hheap : s'.heap = s.heap) (hstruct : s'.struct = Function.update s.struct n netif)
    (hfilled : Filled netif (connects n (connected n s.log) e))
    (hother : ∀ m ≠ n, connects m (connected m s.log) e = connected m s.log)
    (hinit : ∀ m driver, .initialised m driver = e → m < s.netifs.length)
    (hreceived : ∀ m, received m e = none) (hthrough : ∀ a, through a e = []) :
    Accounted s' := by
  refine hs.extend [e] hnetifs hlog (fun m hm => hheap ▸ hm) ?_ ?_ ?_ ?_
  · intro m
    rw [hstruct]
    by_cases hm : m = n
    · subst hm
      rw [Function.update_self]
      exact hfilled
    · rw [Function.update_of_ne hm,List.foldl_cons,List.foldl_nil,hother m hm]
      exact hs.filled m
  · exact fun m driver h => hinit m driver (List.mem_singleton.mp h)
  · intro m obj _ _
    simp [hreceived,owed,hthrough]
  · intro m d x h
    have hm := hreceived m
    rw [← List.mem_singleton.mp h] at hm
    simp [received] at hm

/-- What lwIP drops is not owed. -/
theorem Accounted.dropped (hs : Accounted s) (hsound : Sound s) {packet : OutputPacket}
    (hstruct : s.structAt a = some n) (hfn : (s.struct n).outputFn packet = none) :
    Accounted (s.logged (.output a packet)) := by
  have hn : connected n s.log = false := by
    have hfilled := (hs.filled n).outputFn packet
    rw [hfn] at hfilled
    exact hfilled.symm
  refine hs.extend [.output a packet] rfl rfl (fun m hm => hm) hs.filled (by simp) ?_ (by simp)
  intro m obj hobj hm
  by_cases ha : a = obj.netif
  · subst ha
    rw [hsound.structAt_eq hobj hm] at hstruct
    obtain rfl := Option.some.inj hstruct
    simp [owed,hn,received]
  · simp [owed,through,ha,received]

/-- What goes through the functions of a struct is delivered. -/
theorem Accounted.output (hs : Accounted s) (hsound : Sound s) {packet : OutputPacket}
    (hstruct : s.structAt a = some n) (hadded : s.state n ≠ none)
    (hfn : (s.struct n).outputFn packet ≠ none) :
    Accounted ((s.logged (.output a packet)).deliver a packet) := by
  have hout : Sound (s.logged (.output a packet)) := hsound.logged _
  obtain ⟨self,hself,ha,hdeliver⟩ := hout.deliver_eq hstruct hadded packet
  rw [hdeliver]
  have hn : connected n s.log = true := by
    rw [← (hs.filled n).outputFn packet]
    exact Option.isSome_iff_ne_none.mpr hfn
  refine hs.extend [.output a packet,.delivered n self.driver packet.delivery] rfl
    (by simp [logged]) (fun m hm => hm) hs.filled (by simp) ?_ ?_
  · intro k obj hobj hk
    by_cases hkn : k = n
    · subst hkn
      obtain rfl := Option.some.inj (hobj.symm.trans hself)
      simp [owed,hn,connects,through,ha,received,List.filterMap_cons]
    · have hother : a ≠ obj.netif := by
        rintro rfl
        rw [hsound.structAt_eq hobj hk] at hstruct
        exact hkn (Option.some.inj hstruct)
      simp [owed,through,hother,received,List.filterMap_cons,Ne.symm hkn]
  · intro k d x h
    have heq : k = n ∧ d = self.driver := by
      simp only [List.mem_cons,reduceCtorEq,NetifEvent.delivered.injEq,List.not_mem_nil,or_false,
        false_or] at h
      exact ⟨h.1,h.2.1⟩
    rw [heq.1]
    exact ⟨self,hself,heq.2.symm⟩

end Deliveries

section Runs

variable [DecidableEq κ]

inductive Moves (s : NetifWorld κ) : NetifWorld κ → Prop
  | program {heap : Heap PyObj} (h : Extends s.heap heap) : Moves s { s with heap := heap }
  | collect (gone : List PyObj) {heap : Heap PyObj} (h : s.heap.collect gone = some heap) :
      Moves s { s with heap := heap, memory := s.memory.keep fun c => .netif c.owner ∉ gone }
  | createNetif (obj : NetifObject κ) {heap heap' : Heap PyObj} (hnetif : s.memory obj.netif = none)
      (hhandle : s.memory obj.handle = none) (hne : obj.netif ≠ obj.handle)
      (hmake : s.heap.make (.netif s.netifs.length) [.other obj.driver] = some heap)
      (hassign : heap.assign (.lwip obj.lwip) (.netif s.netifs.length) = some heap') :
      Moves s
        { s with
          heap := heap'
          netifs := s.netifs ++ [obj]
          memory := (s.memory.put obj.netif (.struct s.netifs.length)).put obj.handle
            (.handle s.netifs.length) }
  | add (n : ℕ) (filled : NetifStruct) (self : NetifObject κ) (hself : s.netifs[n]? = some self)
      (halive : s.heap.Alive (.netif n)) :
      Moves s
        { s with
          struct := Function.update s.struct n (cleared filled)
          state := Function.update s.state n (some self.handle)
          adding := (self.lwip,self.netif) :: s.adding
          log := s.log ++ [.added n] }
  | netifInit (lwip : Instance) (a : κ) (n : ℕ) (driver : NetifDriver) (listed : List κ)
      (hmem : (lwip,a) ∈ s.adding) (hstruct : s.structAt a = some n)
      (hlisted : listed ⊆ a :: s.netifList lwip) :
      Moves s
        { s with
          struct := Function.update s.struct n (LwipPy.netifInit driver (s.struct n)).2
          adding := s.adding.erase (lwip,a)
          netifList := Function.update s.netifList lwip listed
          log := s.log ++ [.initialised n driver] }
  | remove (n : ℕ) (self : NetifObject κ) (hself : s.netifs[n]? = some self) :
      Moves s
        { s with
          netifList := Function.update s.netifList self.lwip
            ((s.netifList self.lwip).erase self.netif) }
  | route (lwip : Instance) (n : ℕ) (self : NetifObject κ) (hself : s.netifs[n]? = some self) :
      Moves s
        { s with routed := Function.update s.routed lwip (self.netif :: s.routed lwip) }
  | dropped (a : κ) (packet : OutputPacket) (n : ℕ) (hstruct : s.structAt a = some n)
      (hfn : (s.struct n).outputFn packet = none) : Moves s (s.logged (.output a packet))
  | output (a : κ) (packet : OutputPacket) (n : ℕ) (hstruct : s.structAt a = some n)
      (hadded : s.state n ≠ none) (hfn : (s.struct n).outputFn packet ≠ none) :
      Moves s ((s.logged (.output a packet)).deliver a packet)

variable {s s' : NetifWorld κ}

theorem moves_of_callOutput {a : κ} {packet : OutputPacket}
    (h : s.callOutput a packet = some s') : Moves s s' := by
  obtain ⟨n,hstruct,h⟩ := Option.bind_eq_some_iff.mp h
  split_ifs at h with hadded
  split at h
  · next hfn =>
    cases h
    exact .dropped a packet n hstruct hfn
  · next fn hfn =>
    cases h
    exact .output a packet n hstruct hadded (by simp [hfn])

theorem moves_of_step {x : NetifStep κ} (h : s.step x = some s') : Moves s s' := by
  cases x with
  | construct lwip =>
    obtain ⟨heap,hheap,rfl⟩ := Option.map_eq_some_iff.mp h
    exact .program (extends_make (o := .lwip lwip) (fun _ => nofun) hheap)
  | make k =>
    obtain ⟨heap,hheap,rfl⟩ := Option.map_eq_some_iff.mp h
    exact .program (extends_make (o := .other k) (fun _ => nofun) hheap)
  | assign o p =>
    obtain ⟨heap,hheap,rfl⟩ := Option.map_eq_some_iff.mp h
    exact .program (extends_assign hheap)
  | unassign k p =>
    obtain ⟨heap,hheap,rfl⟩ := Option.map_eq_some_iff.mp h
    exact .program (extends_unassign hheap)
  | hold o =>
    obtain ⟨heap,hheap,rfl⟩ := Option.map_eq_some_iff.mp h
    exact .program (extends_same (Heap.hold_eq hheap))
  | release o =>
    cases h
    exact .program (extends_same (Heap.release_eq o))
  | collect gone =>
    obtain ⟨heap,hheap,rfl⟩ := Option.map_eq_some_iff.mp h
    exact .collect gone hheap
  | createNetif lwip driver netif handle =>
    simp only [step] at h
    split_ifs at h with hfree
    obtain ⟨heap,hmake,h⟩ := Option.bind_eq_some_iff.mp h
    obtain ⟨heap',hassign,rfl⟩ := Option.map_eq_some_iff.mp h
    exact .createNetif ⟨lwip,driver,netif,handle⟩ hfree.1 hfree.2.1 hfree.2.2 hmake hassign
  | add n filled =>
    obtain ⟨self,hself,h⟩ := Option.bind_eq_some_iff.mp h
    split_ifs at h with halive
    cases h
    exact .add n filled self hself halive
  | netifInit lwip a driver =>
    simp only [step] at h
    split_ifs at h with hmem
    obtain ⟨n,hstruct,h⟩ := Option.bind_eq_some_iff.mp h
    obtain ⟨m,_,rfl⟩ := Option.map_eq_some_iff.mp h
    by_cases hok : (LwipPy.netifInit driver (s.struct n)).1 = ERR_OK
    · rw [if_pos hok]
      exact .netifInit lwip a n driver _ hmem hstruct (List.Subset.refl _)
    · rw [if_neg hok,← Function.update_eq_self lwip s.netifList]
      exact .netifInit lwip a n driver _ hmem hstruct (List.subset_cons_self _ _)
  | remove n =>
    obtain ⟨self,hself,h⟩ := Option.bind_eq_some_iff.mp h
    split_ifs at h
    cases h
    exact .remove n self hself
  | route lwip n =>
    obtain ⟨self,hself,h⟩ := Option.bind_eq_some_iff.mp h
    split_ifs at h
    cases h
    exact .route lwip n self hself
  | output lwip a packet =>
    simp only [step] at h
    split_ifs at h
    exact moves_of_callOutput h

theorem sound_of_moves (hs : Sound s) (h : Moves s s') : Sound s' := by
  cases h with
  | program h => exact hs.program h
  | collect gone h => exact hs.collect h
  | createNetif obj hnetif hhandle hne hmake hassign =>
    exact hs.createNetif hnetif hhandle hne hmake hassign
  | add n filled self hself _ => exact hs.add (cleared filled) hself
  | netifInit lwip a n driver listed hmem _ hlisted => exact hs.netifInit hmem hlisted n _ driver
  | remove n self _ => exact hs.remove self.lwip self.netif
  | route lwip n self hself => exact hs.route lwip hself
  | dropped a packet n _ _ => exact hs.logged _
  | output a packet n hstruct hadded _ =>
    have hout : Sound (s.logged (.output a packet)) := hs.logged _
    obtain ⟨self,_,_,hdeliver⟩ := hout.deliver_eq hstruct hadded packet
    rw [hdeliver]
    exact hout.logged _

theorem accounted_of_moves (hs : Accounted s) (hsound : Sound s) (h : Moves s s') :
    Accounted s' := by
  cases h with
  | program h => exact hs.quiet rfl rfl rfl fun n hn => (h.alive n).mp hn
  | collect gone h => exact hs.quiet rfl rfl rfl fun n hn => (((Heap.collect_eq h).2.1 _).mp hn).1
  | createNetif obj hnetif hhandle hne hmake hassign =>
    exact hs.createNetif rfl rfl rfl fun n hn => (alive_create hmake hassign n).mp hn
  | add n filled self hself _ =>
    refine hs.refill rfl rfl rfl rfl ?_ ?_ ?_ (fun _ => rfl) (fun _ => rfl)
    · simp [connects,Filled,cleared]
    · exact fun m hm => by simp [connects,hm.symm]
    · rintro m driver ⟨⟩
  | netifInit lwip a n driver listed hmem hstruct hlisted =>
    refine hs.refill rfl rfl rfl rfl ?_ ?_ ?_ (fun _ => rfl) (fun _ => rfl)
    · rw [connects,if_pos rfl]
      exact filled_netifInit driver (hs.filled n)
    · exact fun m hm => by simp [connects,hm.symm]
    · rintro m driver' ⟨⟩
      exact (hsound.made _).mp (hsound.of_structAt hstruct).1.1
  | dropped a packet n hstruct hfn => exact hs.dropped hsound hstruct hfn
  | output a packet n hstruct hadded hfn => exact hs.output hsound hstruct hadded hfn
  | _ => exact hs.quiet rfl rfl rfl fun _ => id

theorem sound_run {steps : List (NetifStep κ)} (h : init.run steps = some s) :
    Sound s ∧ Accounted s := by
  refine Runs.invariant (I := fun _ s => Sound s ∧ Accounted s) ⟨sound_init,accounted_init⟩ ?_ h
  rintro _ t x u ⟨hsound,haccounted⟩ hx
  have hmoves := moves_of_step hx
  exact ⟨sound_of_moves hsound hmoves,accounted_of_moves haccounted hsound hmoves⟩

/-- As long as the program can reach a `LwIP`, its `Netif`s and their drivers are alive, whatever
else was dropped, collected or allocated at the same address. What lwIP was given through `add`, or
through a routing function once it was added, leads to the `Netif` it was given for, never to
another. The driver gets each packet that lwIP outputs through the struct after `_netif_init` filled
in the output functions, once and in order, and no others. -/
theorem netif_lives_with_lwip {steps : List (NetifStep κ)} (h : init.run steps = some s) :
    (∀ n self, s.netifs[n]? = some self → s.heap.Reachable (.lwip self.lwip) →
      s.heap.Alive (.netif n) ∧ s.heap.Alive (.other self.driver) ∧
      s.structAt self.netif = some n ∧
      s.log.filterMap (received n) = owed n self.netif false s.log) ∧
    (∀ lwip, s.heap.Reachable (.lwip lwip) →
      ∀ a, a ∈ s.netifList lwip ∨ (lwip,a) ∈ s.adding →
        ∃ n self, s.netifs[n]? = some self ∧ self.lwip = lwip ∧ s.fromHandle a = some n) ∧
    (∀ lwip a, a ∈ s.routed lwip → ∃ (n : ℕ) (self : NetifObject κ), s.netifs[n]? = some self ∧
      self.netif = a ∧ (s.heap.Reachable (.lwip self.lwip) → s.state n ≠ none →
        s.fromHandle a = some n)) ∧
    (∀ a n, s.fromHandle a = some n → ∃ self, s.netifs[n]? = some self ∧ self.netif = a) ∧
    (∀ n d x, .delivered n d x ∈ s.log → ∃ self, s.netifs[n]? = some self ∧ self.driver = d) := by
  obtain ⟨hs,hlog⟩ := sound_run h
  have halive : ∀ n self, s.netifs[n]? = some self → s.heap.Reachable (.lwip self.lwip) →
      s.heap.Alive (.netif n) := by
    intro n self hself hreach
    exact hs.alive hself (Heap.alive_of_reachable hreach)
  refine ⟨?_,?_,?_,?_,hlog.drivers⟩
  · intro n self hself hreach
    have hn := halive n self hself hreach
    exact ⟨hn,hs.driver_alive hself hn,hs.structAt_eq hself hn,hlog.accounts n self hself hn⟩
  · intro lwip hreach a ha
    have hknows : s.Knows lwip a := by
      rcases ha with ha | ha
      · exact hs.listed lwip a ha
      · exact hs.adding lwip a ha
    obtain ⟨n,self,hself,rfl,rfl,hstate⟩ := hknows
    have hadded : s.state n ≠ none := by simp [hstate]
    exact ⟨n,self,hself,rfl,hs.fromHandle_eq hself (halive n self hself hreach) hadded⟩
  · intro lwip a ha
    obtain ⟨n,self,hself,rfl⟩ := hs.routed lwip a ha
    refine ⟨n,self,hself,rfl,fun hreach hadded => ?_⟩
    exact hs.fromHandle_eq hself (halive n self hself hreach) hadded
  · intro a n hfound
    exact (hs.of_structAt (hs.of_fromHandle hfound)).2

end Runs

def willingDriver : NetifDriver := { NetifDriver.base with lwipOnInit := pure (.int ERR_OK) }

def onePacket (b : UInt8) : OutputPacket := ⟨fun _ => ⟨[b],1,none⟩,0,[10,0,0,1],none⟩

/-- Two instances. The program forgets the second one, the collector takes it with its `Netif`, and
the first one gets a `Netif` at the same addresses. Then the program forgets all of its `Netif`s and
lwIP outputs through both. -/
def forgottenNetifs : List (NetifStep ℕ) :=
  [.construct 0,.make 0,.createNetif 0 0 10 11,.assign (.other 0) (.netif 0),.add 0 blankNetif,
    .netifInit 0 10 willingDriver,.construct 1,.make 1,.createNetif 1 1 20 21,.release (.netif 1),
    .release (.other 1),.release (.lwip 1),.collect [.netif 1,.other 1,.lwip 1],
    .createNetif 0 0 21 20,.add 2 blankNetif,.netifInit 0 21 willingDriver,.release (.netif 0),
    .release (.netif 2),.release (.other 0),.output 0 21 (onePacket 7),.output 0 10 (onePacket 8)]

def after (steps : List (NetifStep ℕ)) : NetifWorld ℕ := Runs.last step init steps

theorem netif_lives_with_lwip_forgotten :
    (after forgottenNetifs).heap.Alive (.netif 2) ∧
    (after forgottenNetifs).log.filterMap (received 2) = [⟨[7],[10,0,0,1],none⟩] ∧
    ∃ n self, (after forgottenNetifs).netifs[n]? = some self ∧ self.lwip = 0 ∧
      (after forgottenNetifs).fromHandle 21 = some n := by
  have hrun : init.run forgottenNetifs = some (after forgottenNetifs) :=
    Runs.run_last (by decide)
  have h := netif_lives_with_lwip hrun
  have hreach : (after forgottenNetifs).heap.Reachable (.lwip 0) := ⟨.lwip 0,by decide,.refl⟩
  have hnetif := h.1 2 ⟨0,0,21,20⟩ (by decide) hreach
  refine ⟨hnetif.1,?_,h.2.1 0 hreach 21 (by decide)⟩
  rw [hnetif.2.2.2]
  decide

end NetifWorld

end LwipPy
