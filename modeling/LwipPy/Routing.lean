import LwipPy.Python

/-! IPv4 routing with an override: the hook `set_routing_function` installs, the C function lwIP
calls for `LWIP_HOOK_IP4_ROUTE_SRC`, and the two lookups of lwIP that call it. -/
namespace LwipPy

/-- An IPv4 address as the number its four bytes are in memory. -/
abbrev Ip4Addr := UInt32

/-- What ends a lookup, and the process with it. -/
inductive Fault
  | nullDereference
  deriving DecidableEq, Repr

/-- The argument of `set_routing_function`; `none` is Python's `None`. -/
abbrev RoutingFn (N : Type) := Ip4Addr → Ip4Addr → Except PyErr (Option N)

/-- `ip4_route_hook_fn`: pointers to two addresses, either of which may be `NULL`. -/
abbrev Hook (N : Type) := Option Ip4Addr → Option Ip4Addr → Except Fault (Option N)

variable {N : Type}

/-- The field `addr` behind a pointer cast to `const ip4_addr_t*`. -/
def readAddr : Option Ip4Addr → Except Fault Ip4Addr
  | some a => .ok a
  | none => .error .nullDereference

/-- The callback `hook`. A callback whose body raises returns `NULL`. -/
def hook (routingFn : RoutingFn N) : Hook N := fun src dst => do
  let srcip ← readAddr src
  let dstip ← readAddr dst
  match routingFn srcip dstip with
  | .ok output => return output
  | .error _ => return none

/-- Between two addresses the hook passes the function's answer on. -/
theorem hook_addresses (f : RoutingFn N) (src dst : Ip4Addr) :
    hook f (some src) (some dst) = .ok (f src dst).toOption.join := by
  have hrun : hook f (some src) (some dst) =
      match f src dst with
      | .ok output => .ok output
      | .error _ => .ok none := rfl
  rw [hrun]
  cases f src dst <;> rfl

/-- `LwIP.routing_hook` keeps the callback alive, `ip4_route_override` is the pointer in C. -/
structure Override (N : Type) where
  routingHook : Option (Hook N)
  ip4RouteOverride : Option (Hook N)

def Override.init : Override N := ⟨none,none⟩

/-- `set_ip4_route_fn_override` -/
def Override.setIp4RouteFnOverride (fn : Option (Hook N)) (o : Override N) : Override N :=
  { o with ip4RouteOverride := fn }

def Override.setRoutingFunction (routingFn : RoutingFn N) (o : Override N) : Override N :=
  let hook := hook routingFn
  { o with routingHook := some hook }.setIp4RouteFnOverride (some hook)

/-- `custom_ip4_route_src_hook` -/
def Override.customIp4RouteSrcHook (o : Override N) : Hook N := fun src dest =>
  match o.ip4RouteOverride with
  | some ip4RouteOverride => ip4RouteOverride src dest
  | none => .ok none

/-- lwIP's lookups over a table of interfaces, for any function under
`LWIP_HOOK_IP4_ROUTE_SRC`. -/
structure Ip4Lookup (N : Type) where
  netifs : List N
  /-- the interface is up and the address is in its subnet -/
  matching : N → Ip4Addr → Bool
  /-- the default interface, if there is one that can reach the address -/
  defaultFor : Ip4Addr → Option N
  ip4Route : Hook N → Ip4Addr → Except Fault (Option N)
  ip4RouteSrc : Hook N → Option Ip4Addr → Ip4Addr → Except Fault (Option N)
  /-- the first interface that matches wins -/
  route_matching : ∀ h dst n, netifs.find? (matching · dst) = some n →
    ip4Route h dst = .ok (some n)
  /-- when none matches, the hook is asked, with no source -/
  route_hook : ∀ h dst n, netifs.find? (matching · dst) = none →
    h none (some dst) = .ok (some n) → ip4Route h dst = .ok (some n)
  route_default : ∀ h dst, netifs.find? (matching · dst) = none →
    h none (some dst) = .ok none → ip4Route h dst = .ok (defaultFor dst)
  route_fault : ∀ h dst e, netifs.find? (matching · dst) = none →
    h none (some dst) = .error e → ip4Route h dst = .error e
  /-- with a source, the hook is asked first -/
  routeSrc_hook : ∀ h src dst n, h (some src) (some dst) = .ok (some n) →
    ip4RouteSrc h (some src) dst = .ok (some n)
  routeSrc_declined : ∀ h src dst, h (some src) (some dst) = .ok none →
    ip4RouteSrc h (some src) dst = ip4Route h dst
  routeSrc_fault : ∀ h src dst e, h (some src) (some dst) = .error e →
    ip4RouteSrc h (some src) dst = .error e
  routeSrc_null : ∀ h dst, ip4RouteSrc h none dst = ip4Route h dst

namespace Ip4Lookup

def defaultRoute (L : Ip4Lookup N) (dst : Ip4Addr) : Option N :=
  (L.netifs.find? (L.matching · dst)).or (L.defaultFor dst)

/-- What a routing function says about a lookup: nothing, where it declines, raises or there
is no source to tell it. -/
def answer (routingFn : Option (RoutingFn N)) (src : Option Ip4Addr) (dst : Ip4Addr) : Option N :=
  match routingFn, src with
  | some f, some src => (f src dst).toOption.join
  | _, _ => none

/-- "In case None is returned, the default lwIP routing function will be used." -/
def documentedRoute (L : Ip4Lookup N) (routingFn : Option (RoutingFn N)) (src : Option Ip4Addr)
    (dst : Ip4Addr) : Option N :=
  (answer routingFn src dst).or (L.defaultRoute dst)

end Ip4Lookup

section Lookup

variable (L : Ip4Lookup N)

/-- Nobody is asked where no override is set. -/
theorem ip4Route_unset (dst : Ip4Addr) {o : Override N} (ho : o.ip4RouteOverride = none) :
    L.ip4Route o.customIp4RouteSrcHook dst = .ok (L.defaultRoute dst) := by
  have hhook : ∀ src, o.customIp4RouteSrcHook src (some dst) = .ok none := by
    intro src
    rw [Override.customIp4RouteSrcHook,ho]
  cases hfind : L.netifs.find? (L.matching · dst) with
  | some n => rw [L.route_matching _ _ _ hfind,Ip4Lookup.defaultRoute,hfind,Option.some_or]
  | none =>
    rw [L.route_default _ _ hfind (hhook none),Ip4Lookup.defaultRoute,hfind,Option.none_or]

theorem ip4Route_set (dst : Ip4Addr) {o : Override N} {f : RoutingFn N}
    (ho : o.ip4RouteOverride = some (hook f)) :
    L.ip4Route o.customIp4RouteSrcHook dst =
      if ∃ n ∈ L.netifs, L.matching n dst = true then .ok (L.defaultRoute dst)
      else .error .nullDereference := by
  have hhook : o.customIp4RouteSrcHook none (some dst) = .error .nullDereference := by
    rw [Override.customIp4RouteSrcHook,ho]
    rfl
  cases hfind : L.netifs.find? (L.matching · dst) with
  | some n =>
    have hn : ∃ n ∈ L.netifs, L.matching n dst = true :=
      ⟨n,List.mem_of_find?_eq_some hfind,List.find?_some (p := (L.matching · dst)) hfind⟩
    rw [if_pos hn,L.route_matching _ _ _ hfind,Ip4Lookup.defaultRoute,hfind,Option.some_or]
  | none =>
    have hn : ¬ ∃ n ∈ L.netifs, L.matching n dst = true := by
      rintro ⟨n,hn,hm⟩
      exact List.find?_eq_none.mp hfind n hn hm
    rw [if_neg hn,L.route_fault _ _ _ hfind hhook]

theorem ip4RouteSrc_unset (src : Option Ip4Addr) (dst : Ip4Addr) {o : Override N}
    (ho : o.ip4RouteOverride = none) :
    L.ip4RouteSrc o.customIp4RouteSrcHook src dst = .ok (L.documentedRoute none src dst) := by
  have hroute := ip4Route_unset L dst ho
  cases src with
  | none => exact (L.routeSrc_null _ _).trans hroute
  | some src =>
    have hhook : o.customIp4RouteSrcHook (some src) (some dst) = .ok none := by
      rw [Override.customIp4RouteSrcHook,ho]
    exact (L.routeSrc_declined _ _ _ hhook).trans hroute

/-- With an override, a lookup that it does not answer and no subnet matches reads through the
null pointer lwIP passes for the source. -/
theorem ip4RouteSrc_set (src : Option Ip4Addr) (dst : Ip4Addr) {o : Override N}
    {f : RoutingFn N} (ho : o.ip4RouteOverride = some (hook f)) :
    L.ip4RouteSrc o.customIp4RouteSrcHook src dst =
      if (Ip4Lookup.answer (some f) src dst).isSome ∨ ∃ n ∈ L.netifs, L.matching n dst = true then
        .ok (L.documentedRoute (some f) src dst)
      else .error .nullDereference := by
  have hroute := ip4Route_set L dst ho
  cases src with
  | none =>
    rw [L.routeSrc_null,hroute]
    simp [Ip4Lookup.answer,Ip4Lookup.documentedRoute]
  | some src =>
    have hhook : o.customIp4RouteSrcHook (some src) (some dst) =
        .ok (f src dst).toOption.join := by
      rw [Override.customIp4RouteSrcHook,ho]
      exact hook_addresses f src dst
    cases hanswer : (f src dst).toOption.join with
    | some n =>
      rw [hanswer] at hhook
      rw [L.routeSrc_hook _ _ _ _ hhook]
      simp [Ip4Lookup.answer,Ip4Lookup.documentedRoute,hanswer]
    | none =>
      rw [hanswer] at hhook
      rw [L.routeSrc_declined _ _ _ hhook,hroute]
      simp [Ip4Lookup.answer,Ip4Lookup.documentedRoute,hanswer]

end Lookup

def Override.sets (fs : List (RoutingFn N)) : Override N :=
  fs.foldl (fun o f => o.setRoutingFunction f) .init

/-- "This will replace any previous override." -/
theorem Override.sets_last (fs : List (RoutingFn N)) :
    (Override.sets fs).ip4RouteOverride = fs.getLast?.map hook := by
  induction fs using List.reverseRecOn with
  | nil => rfl
  | append_singleton fs f ih =>
    rw [Override.sets,List.foldl_append,List.getLast?_append]
    rfl

/-- A lookup picks the documented interface exactly if no override is set, or the override
answers it, or some interface matches the destination. In every other case it reads through a
null pointer. -/
theorem routing_override_refines_iff (fs : List (RoutingFn N)) (L : Ip4Lookup N)
    (src : Option Ip4Addr) (dst : Ip4Addr) :
    L.ip4RouteSrc (Override.sets fs).customIp4RouteSrcHook src dst =
      .ok (L.documentedRoute fs.getLast? src dst) ↔
    fs = [] ∨ (Ip4Lookup.answer fs.getLast? src dst).isSome ∨
      ∃ n ∈ L.netifs, L.matching n dst = true := by
  have hlast := Override.sets_last fs
  cases hf : fs.getLast? with
  | none =>
    rw [hf,Option.map_none] at hlast
    have hroute := ip4RouteSrc_unset L src dst hlast
    exact iff_of_true hroute (.inl (List.getLast?_eq_none_iff.mp hf))
  | some f =>
    rw [hf,Option.map_some] at hlast
    have hne : fs ≠ [] := by
      rintro rfl
      cases hf
    rw [ip4RouteSrc_set L src dst hlast]
    by_cases h : (Ip4Lookup.answer (some f) src dst).isSome ∨
        ∃ n ∈ L.netifs, L.matching n dst = true
    · rw [if_pos h]
      simp only [h,or_true]
    · rw [if_neg h]
      simp [hne,h]

def Ip4Lookup.ofTable (netifs : List N) (matching : N → Ip4Addr → Bool)
    (defaultFor : Ip4Addr → Option N) : Ip4Lookup N :=
  let route : Hook N → Ip4Addr → Except Fault (Option N) := fun h dst =>
    match netifs.find? (matching · dst) with
    | some n => .ok (some n)
    | none => do
      match ← h none (some dst) with
      | some n => return some n
      | none => return defaultFor dst
  { netifs := netifs
    matching := matching
    defaultFor := defaultFor
    ip4Route := route
    ip4RouteSrc := fun h src dst =>
      match src with
      | none => route h dst
      | some src => do
        match ← h (some src) (some dst) with
        | some n => return some n
        | none => route h dst
    route_matching := fun h dst n hfind => by simp only [route,hfind]
    route_hook := fun h dst n hfind hh => by simp only [route,hfind,hh]; rfl
    route_default := fun h dst hfind hh => by simp only [route,hfind,hh]; rfl
    route_fault := fun h dst e hfind hh => by simp only [route,hfind,hh]; rfl
    routeSrc_hook := fun h src dst n hh => by simp only [hh]; rfl
    routeSrc_declined := fun h src dst hh => by simp only [hh]; rfl
    routeSrc_fault := fun h src dst e hh => by simp only [hh]; rfl
    routeSrc_null := fun h dst => rfl }

def tenNetwork : Ip4Lookup ℕ :=
  .ofTable [0] (fun _ a => a &&& 0xFF == 10) fun _ => some 0

/-- 1.1.1.1 is outside the subnet; an override that always declines takes its route away. -/
theorem declining_override_faults :
    tenNetwork.ip4RouteSrc (Override.sets []).customIp4RouteSrcHook (some 0x0100000A) 0x01010101 =
      .ok (some 0) ∧
    tenNetwork.ip4RouteSrc (Override.sets [fun _ _ => .ok none]).customIp4RouteSrcHook
      (some 0x0100000A) 0x01010101 = .error .nullDereference ∧
    ¬ ∀ (f : RoutingFn ℕ) (L : Ip4Lookup ℕ) (src dst : Ip4Addr),
      L.ip4RouteSrc (Override.sets [f]).customIp4RouteSrcHook (some src) dst =
        .ok (L.documentedRoute (some f) (some src) dst) := by
  refine ⟨rfl,rfl,fun h => ?_⟩
  have hroute := h (fun _ _ => .ok none) tenNetwork 0x0100000A 0x01010101
  cases hroute

end LwipPy
