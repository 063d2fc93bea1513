import LwipPy.Instance
import LwipPy.Inet
import Mathlib.Logic.Relation

/-! Who holds a descriptor. Descriptors are told from the record of calls alone: which ones
lwIP handed out, which numbers an object passed to `lwip_close`, who was given a number last.
Every operation of the binding is a sequence of a few kinds of steps. -/
namespace LwipPy

open Program Relation

/-- The descriptor a successful `lwip_socket` or `lwip_accept` hands out. -/
def Event.obtained (e : Event) : Option (Instance × ℤ) :=
  match e.call with
  | .socket _ _ _ => if 0 ≤ e.reply.ret then some (e.inst,e.reply.ret) else none
  | .on _ (.accept _) => if 0 ≤ e.reply.ret then some (e.inst,e.reply.ret) else none
  | _ => none

def Event.closing (e : Event) : Option (Instance × ℤ) :=
  match e.call with
  | .on n .close => some (e.inst,n)
  | _ => none

/-- The descriptors handed out, the newest first. The oldest one belongs to the first `Socket`. -/
def obtained (log : List Event) : List (Instance × ℤ) := log.filterMap Event.obtained

/-- The numbers `self` passed to `lwip_close`, the newest first. -/
def closes (self : Ref) (log : List Event) : List (Instance × ℤ) :=
  (log.filter fun e => e.owner = some self).filterMap Event.closing

/-- The `Socket` that was given the descriptor last. -/
def holder : List Event → Instance × ℤ → Option Ref
  | [], _ => none
  | e::log, h => if e.obtained = some h then some (obtained log).length else holder log h

/-- Handed out, and not passed to `lwip_close` since. -/
def outstanding : List Event → Instance × ℤ → Bool
  | [], _ => false
  | e::log, h =>
    if e.obtained = some h then true
    else if e.closing = some h then false
    else outstanding log h

/-- lwIP hands out no descriptor that is outstanding. -/
def FreshDescriptors (env : Env) : Prop :=
  ∀ log inst owner call h, (Event.mk inst owner call (env.reply log inst call)).obtained = some h →
    outstanding log h = false

/-- The descriptor obtained for `self`, as the record tells it. -/
def ownDescriptor (self : Ref) (log : List Event) : Option (Instance × ℤ) :=
  (obtained log).reverse[self]?

/-- A call on behalf of a `Socket` passes `-1`, or the descriptor that was obtained for this
object and that it has not closed yet. -/
def Disciplined : List Event → Prop
  | [] => True
  | e::log => Disciplined log ∧ ∀ self n c, e.owner = some self → e.call = .on n c →
      n = -1 ∨ (closes self log = [] ∧ ownDescriptor self log = some (e.inst,n))

/-- A call on behalf of a `Socket` that passes a real number finds that object the last one
that was given the number. -/
def Held : List Event → Prop
  | [] => True
  | e::log => Held log ∧ ∀ self n c, e.owner = some self → e.call = .on n c →
      n = -1 ∨ holder log (e.inst,n) = some self

/-- The object exists and can still be referred to. -/
def World.Live (w : World) (self : Ref) : Prop :=
  self < w.count ∧ (w.sockets self).collected = false

instance (w : World) (self : Ref) : Decidable (w.Live self) :=
  inferInstanceAs (Decidable (_ ∧ _))

/-- A call made by nobody, or on the current number of a live object. -/
def Attributed (w : World) (e : Event) : Prop :=
  (e.owner = none ∧ ∀ n c, e.call ≠ .on n c) ∨
  ∃ self c, w.Live self ∧ e.owner = some self ∧ e.inst = (w.sockets self).lwip ∧
    e.call = .on (w.sockets self).s c

variable (env : Env)

/-- What can happen to descriptors and their objects. -/
inductive Step (w w' : World) : Prop
  /-- nothing is asked of lwIP -/
  | quiet (hlog : w'.log = w.log) (hs : w'.sockets = w.sockets) (hc : w'.count = w.count)
  /-- a call that neither hands out nor closes a descriptor -/
  | call (e : Event) (ha : Attributed w e) (ho : e.obtained = none) (hcl : e.closing = none)
      (hlog : w'.log = e :: w.log) (hs : w'.sockets = w.sockets) (hc : w'.count = w.count)
  /-- a descriptor is handed out and gets its object -/
  | create (e : Event) (k : Socket) (ha : Attributed w e)
      (hr : e.reply = env.reply w.log e.inst e.call)
      (ho : e.obtained = some (k.lwip,k.descriptor)) (hd : 0 ≤ k.descriptor)
      (hk : k.s = k.descriptor) (hf : k.finalizer = some k.descriptor) (hcl : k.collected = false)
      (hlog : w'.log = e :: w.log) (hs : w'.sockets = Function.update w.sockets w.count k)
      (hc : w'.count = w.count+1)
  /-- an open object is closed -/
  | close (self : Ref) (r : Reply) (hl : w.Live self) (hs₀ : 0 ≤ (w.sockets self).s)
      (hlog : w'.log =
        ⟨(w.sockets self).lwip,some self,.on (w.sockets self).s .close,r⟩ :: w.log)
      (hs : w'.sockets = Function.update w.sockets self
        { w.sockets self with s := -1, finalizer := none })
      (hc : w'.count = w.count)
  /-- the collector takes an object whose finalizer is armed -/
  | finalize (self : Ref) (fd : ℤ) (r : Reply) (hl : w.Live self)
      (hf : (w.sockets self).finalizer = some fd)
      (hlog : w'.log = ⟨(w.sockets self).lwip,some self,.on fd .close,r⟩ :: w.log)
      (hs : w'.sockets = Function.update w.sockets self
        { w.sockets self with finalizer := none, collected := true })
      (hc : w'.count = w.count)
  /-- the collector takes a closed object -/
  | forget (self : Ref) (hl : w.Live self) (hf : (w.sockets self).finalizer = none)
      (hlog : w'.log = w.log)
      (hs : w'.sockets = Function.update w.sockets self
        { w.sockets self with finalizer := none, collected := true })
      (hc : w'.count = w.count)

abbrev Steps : World → World → Prop := ReflTransGen (Step env)

/-- What an operation on a live object does; the object stays. -/
def Uses (self : Ref) (w w' : World) : Prop := w.Live self → Steps env w w' ∧ w'.Live self

instance (self : Ref) : IsPreorder World (Uses env self) where
  refl _ hl := ⟨.refl,hl⟩
  trans _ _ _ h h' hl := ⟨(h hl).1.trans (h' (h hl).2).1,(h' (h hl).2).2⟩

def Socket.origin (k : Socket) : Instance × ℤ := (k.lwip,k.descriptor)

/-- The object holds its descriptor and its finalizer would close it. -/
def Socket.Armed (k : Socket) : Prop :=
  k.s = k.descriptor ∧ k.finalizer = some k.descriptor ∧ k.collected = false

/-- The object gave its descriptor up. -/
def Socket.Released (k : Socket) : Prop := k.finalizer = none ∧ (k.s = -1 ∨ k.collected = true)

/-- Descriptors handed out and `Socket` objects correspond one to one, and an object has passed
its descriptor to `lwip_close` exactly if it gave it up, and once. -/
structure Owned (w : World) : Prop where
  origin : (obtained w.log).reverse = (List.range w.count).map fun self => (w.sockets self).origin
  valid : ∀ self < w.count, 0 ≤ (w.sockets self).descriptor
  state : ∀ self < w.count,
    ((w.sockets self).Armed ∧ closes self w.log = []) ∨
    ((w.sockets self).Released ∧ closes self w.log = [(w.sockets self).origin])
  ours : ∀ e ∈ w.log, ∀ self, e.owner = some self → self < w.count
  calls : Disciplined w.log

theorem owned_init : Owned World.init where
  origin := rfl
  valid _ h := absurd h (Nat.not_lt_zero _)
  state _ h := absurd h (Nat.not_lt_zero _)
  ours _ h := nomatch h
  calls := trivial

section Log

variable {self : Ref} {e : Event} {log : List Event} {h : Instance × ℤ}

theorem obtained_cons_none (ho : e.obtained = none) : obtained (e::log) = obtained log :=
  List.filterMap_cons_none ho

theorem obtained_cons_some (ho : e.obtained = some h) : obtained (e::log) = h :: obtained log :=
  List.filterMap_cons_some ho

theorem closes_cons_none (hc : e.closing = none) : closes self (e::log) = closes self log := by
  by_cases ho : e.owner = some self <;> simp [closes,ho,hc]

theorem closes_cons_other (ho : e.owner ≠ some self) : closes self (e::log) = closes self log := by
  simp [closes,ho]

theorem closes_cons_own (ho : e.owner = some self) (hc : e.closing = some h) :
    closes self (e::log) = h :: closes self log := by
  simp [closes,ho,hc]

theorem closing_none_of_obtained (ho : e.obtained = some h) : e.closing = none := by
  unfold Event.obtained at ho
  unfold Event.closing
  split at ho <;> rename_i heq
  · rw [heq]
  · rw [heq]
  · cases ho

theorem closes_of_not_owner (hl : ∀ e ∈ log, e.owner ≠ some self) : closes self log = [] := by
  induction log with
  | nil => rfl
  | cons e log ih =>
    rw [closes_cons_other (hl e List.mem_cons_self)]
    exact ih fun e' he' => hl e' (List.mem_cons_of_mem _ he')

end Log

section Owned

variable {env} {w w' : World}

theorem Owned.congr (h : Owned w) (hlog : w'.log = w.log) (hs : w'.sockets = w.sockets)
    (hc : w'.count = w.count) : Owned w' := by
  obtain ⟨h₁,h₂,h₃,h₄,h₅⟩ := h
  refine ⟨?_,?_,?_,?_,?_⟩
  all_goals
    simp only [hlog,hs,hc]
    assumption

theorem Owned.ownDescriptor (h : Owned w) {self : Ref} (hs : self < w.count) :
    ownDescriptor self w.log = some (w.sockets self).origin := by
  rw [LwipPy.ownDescriptor,h.origin,List.getElem?_map,List.getElem?_range hs]
  rfl

theorem Owned.obtained_length (h : Owned w) : (obtained w.log).length = w.count := by
  have hl := congrArg List.length h.origin
  simpa using hl

theorem origin_update {self : Ref} {k : Socket}
    (hs : w'.sockets = Function.update w.sockets self k)
    (hk : k.origin = (w.sockets self).origin) (i : Ref) :
    (w'.sockets i).origin = (w.sockets i).origin := by
  rw [hs]
  by_cases hi : i = self
  · subst hi
    rw [Function.update_self,hk]
  · rw [Function.update_of_ne hi]

/-- A live object passes `-1`, or the descriptor it has not closed yet. -/
theorem Owned.number (h : Owned w) {self : Ref} (hl : w.Live self) :
    (w.sockets self).s = -1 ∨
    (closes self w.log = [] ∧ (w.sockets self).Armed) := by
  rcases h.state self hl.1 with ⟨ha,hc⟩ | ⟨hr,_⟩
  · exact .inr ⟨hc,ha⟩
  · rcases hr.2 with hs | hcol
    · exact .inl hs
    · rw [hl.2] at hcol
      cases hcol

/-- A live object whose number is real is armed. -/
theorem Owned.armed (h : Owned w) {self : Ref} (hl : w.Live self)
    (hs : 0 ≤ (w.sockets self).s) : (w.sockets self).Armed ∧ closes self w.log = [] := by
  rcases h.number hl with hn | ⟨hc,ha⟩
  · omega
  · exact ⟨ha,hc⟩

theorem Owned.armed_of_finalizer (h : Owned w) {self : Ref} (hl : w.Live self) {fd : ℤ}
    (hf : (w.sockets self).finalizer = some fd) :
    (w.sockets self).Armed ∧ closes self w.log = [] ∧ fd = (w.sockets self).descriptor := by
  rcases h.state self hl.1 with ⟨ha,hc⟩ | ⟨hr,_⟩
  · have heq := ha.2.1.symm.trans hf
    cases heq
    exact ⟨ha,hc,rfl⟩
  · rw [hr.1] at hf
    cases hf

/-- An attributed call is a disciplined one. -/
theorem Owned.disciplined (h : Owned w) {e : Event} (ha : Attributed w e) :
    Disciplined (e :: w.log) := by
  refine ⟨h.calls,fun self n c ho hcall => ?_⟩
  rcases ha with ⟨hn,_⟩ | ⟨self',c',hl,ho',hi,hcall'⟩
  · rw [hn] at ho
    cases ho
  · have hself : self' = self := by
      rw [ho'] at ho
      exact Option.some.inj ho
    subst hself
    rw [hcall'] at hcall
    cases hcall
    rcases h.number hl with hn | ⟨hcl,harm⟩
    · exact .inl hn
    · refine .inr ⟨hcl,?_⟩
      rw [h.ownDescriptor hl.1,hi,harm.1]
      rfl

theorem Owned.attributed_lt (h : Owned w) {e : Event} (ha : Attributed w e) :
    ∀ e' ∈ e :: w.log, ∀ self, e'.owner = some self → self < w.count := by
  intro e' he' self ho
  rcases List.mem_cons.mp he' with rfl | hmem
  · rcases ha with ⟨hn,_⟩ | ⟨self',c,hl,ho',_⟩
    · rw [hn] at ho
      cases ho
    · rw [ho'] at ho
      cases ho
      exact hl.1
  · exact h.ours e' hmem self ho

/-- The step that passes the descriptor of `self` to `lwip_close`, whoever makes the call. -/
theorem Owned.released (h : Owned w) {self : Ref} (hs : self < w.count)
    (harm : (w.sockets self).Armed) (hcl : closes self w.log = []) {k : Socket} {e : Event}
    (ho : e.owner = some self) (hcall : e.call = .on (w.sockets self).descriptor .close)
    (hi : e.inst = (w.sockets self).lwip) (hk : k.Released)
    (horig : k.origin = (w.sockets self).origin) (hlog : w'.log = e :: w.log)
    (hsock : w'.sockets = Function.update w.sockets self k) (hc : w'.count = w.count) :
    Owned w' := by
  have hclosing : e.closing = some (w.sockets self).origin := by
    rw [Event.closing,hcall,hi]
    rfl
  have hobt : e.obtained = none := by
    rw [Event.obtained,hcall]
  have horigin := origin_update hsock horig
  refine ⟨?_,?_,?_,?_,?_⟩
  · rw [hlog,obtained_cons_none hobt,h.origin,hc]
    exact List.map_congr_left fun i _ => (horigin i).symm
  · intro i hi'
    have hd : (w'.sockets i).descriptor = (w.sockets i).descriptor :=
      congrArg Prod.snd (horigin i)
    rw [hd]
    exact h.valid i (hc ▸ hi')
  · intro i hi'
    rw [hlog,horigin i,hsock]
    by_cases hik : i = self
    · subst hik
      rw [closes_cons_own ho hclosing,hcl,Function.update_self]
      exact .inr ⟨hk,rfl⟩
    · have hne : e.owner ≠ some i := by
        rw [ho]
        exact fun heq => hik (Option.some.inj heq).symm
      rw [closes_cons_other hne,Function.update_of_ne hik]
      exact h.state i (hc ▸ hi')
  · rw [hlog,hc]
    intro e' he' i hoi
    rcases List.mem_cons.mp he' with rfl | hmem
    · rw [ho] at hoi
      cases hoi
      exact hs
    · exact h.ours e' hmem i hoi
  · rw [hlog]
    refine ⟨h.calls,fun i n c hoi hcall' => .inr ?_⟩
    rw [ho] at hoi
    cases hoi
    rw [hcall] at hcall'
    cases hcall'
    refine ⟨hcl,?_⟩
    rw [h.ownDescriptor hs,hi]
    rfl

theorem Owned.called (h : Owned w) {e : Event} (ha : Attributed w e) (ho : e.obtained = none)
    (hcl : e.closing = none) (hlog : w'.log = e :: w.log) (hs : w'.sockets = w.sockets)
    (hc : w'.count = w.count) : Owned w' := by
  refine ⟨?_,?_,?_,?_,?_⟩
  · rw [hlog,obtained_cons_none ho,hs,hc]
    exact h.origin
  · rw [hs,hc]
    exact h.valid
  · intro self hself
    rw [hlog,closes_cons_none hcl,hs]
    exact h.state self (hc ▸ hself)
  · rw [hlog,hc]
    exact h.attributed_lt ha
  · rw [hlog]
    exact h.disciplined ha

theorem Owned.created (h : Owned w) {e : Event} {k : Socket} (ha : Attributed w e)
    (ho : e.obtained = some k.origin) (hd : 0 ≤ k.descriptor) (hk : k.Armed)
    (hlog : w'.log = e :: w.log) (hs : w'.sockets = Function.update w.sockets w.count k)
    (hc : w'.count = w.count+1) : Owned w' := by
  have hcl := closing_none_of_obtained ho
  have hold : ∀ self < w.count, w'.sockets self = w.sockets self := by
    intro self hself
    rw [hs,Function.update_of_ne (Nat.ne_of_lt hself)]
  have hnew : w'.sockets w.count = k := by
    rw [hs,Function.update_self]
  refine ⟨?_,?_,?_,?_,?_⟩
  · rw [hlog,obtained_cons_some ho,List.reverse_cons,h.origin,hc,List.range_succ,
      List.map_append,List.map_singleton,hnew]
    congr 1
    exact List.map_congr_left fun i hi => by rw [hold i (List.mem_range.mp hi)]
  · intro self hself
    rw [hc] at hself
    rcases Nat.lt_succ_iff_lt_or_eq.mp hself with hlt | rfl
    · rw [hold self hlt]
      exact h.valid self hlt
    · rw [hnew]
      exact hd
  · intro self hself
    rw [hc] at hself
    rw [hlog,closes_cons_none hcl]
    rcases Nat.lt_succ_iff_lt_or_eq.mp hself with hlt | rfl
    · rw [hold self hlt]
      exact h.state self hlt
    · rw [hnew]
      refine .inl ⟨hk,closes_of_not_owner fun e he hown => ?_⟩
      exact absurd (h.ours e he _ hown) (Nat.lt_irrefl _)
  · rw [hlog,hc]
    exact fun e' he' self hown => Nat.lt_succ_of_lt (h.attributed_lt ha e' he' self hown)
  · rw [hlog]
    exact h.disciplined ha

theorem Owned.forgotten (h : Owned w) {self : Ref} (hself : self < w.count)
    (hf : (w.sockets self).finalizer = none) (hlog : w'.log = w.log)
    (hs : w'.sockets = Function.update w.sockets self
      { w.sockets self with finalizer := none, collected := true })
    (hc : w'.count = w.count) : Owned w' := by
  have horigin := origin_update hs rfl
  refine ⟨?_,?_,?_,?_,?_⟩
  · rw [hlog,h.origin,hc]
    exact List.map_congr_left fun i _ => (horigin i).symm
  · intro i hi
    have hd : (w'.sockets i).descriptor = (w.sockets i).descriptor :=
      congrArg Prod.snd (horigin i)
    rw [hd]
    exact h.valid i (hc ▸ hi)
  · intro i hi
    rw [hlog,horigin i,hs]
    by_cases hik : i = self
    · subst hik
      rw [Function.update_self]
      rcases h.state i hself with ⟨ha,_⟩ | ⟨_,hcl⟩
      · rw [ha.2.1] at hf
        cases hf
      · exact .inr ⟨⟨rfl,.inr rfl⟩,hcl⟩
    · rw [Function.update_of_ne hik]
      exact h.state i (hc ▸ hi)
  · rw [hlog,hc]
    exact h.ours
  · rw [hlog]
    exact h.calls

theorem Owned.step (h : Owned w) (hst : Step env w w') : Owned w' := by
  cases hst with
  | quiet hlog hs hc => exact h.congr hlog hs hc
  | call e ha ho hcl hlog hs hc => exact h.called ha ho hcl hlog hs hc
  | create e k ha hr ho hd hk hf hcol hlog hs hc =>
    exact h.created ha ho hd ⟨hk,hf,hcol⟩ hlog hs hc
  | close self r hl hs₀ hlog hs hc =>
    obtain ⟨harm,hcl⟩ := h.armed hl hs₀
    rw [harm.1] at hlog
    exact h.released (k := { w.sockets self with s := -1, finalizer := none }) hl.1 harm hcl
      rfl rfl rfl ⟨rfl,.inl rfl⟩ rfl hlog hs hc
  | finalize self fd r hl hf hlog hs hc =>
    obtain ⟨harm,hcl,rfl⟩ := h.armed_of_finalizer hl hf
    exact h.released (k := { w.sockets self with finalizer := none, collected := true }) hl.1 harm
      hcl rfl rfl rfl ⟨rfl,.inr rfl⟩ rfl hlog hs hc
  | forget self hl hf hlog hs hc => exact h.forgotten hl.1 hf hlog hs hc

theorem Owned.steps (h : Owned w) (hst : Steps env w w') : Owned w' := by
  induction hst with
  | refl => exact h
  | tail _ hstep ih => exact ih.step hstep

/-- Every object that has not closed its descriptor is the last one that was given it. -/
structure Holding (w : World) : Prop where
  owned : Owned w
  held : Held w.log
  current : ∀ self < w.count, closes self w.log = [] →
    holder w.log (w.sockets self).origin = some self ∧
    outstanding w.log (w.sockets self).origin = true

theorem holding_init : Holding World.init :=
  ⟨owned_init,trivial,fun _ h => absurd h (Nat.not_lt_zero _)⟩

theorem holder_cons_other {e : Event} {log : List Event} {h : Instance × ℤ}
    (ho : e.obtained ≠ some h) : holder (e::log) h = holder log h := by
  rw [holder,if_neg ho]

theorem outstanding_cons_other {e : Event} {log : List Event} {h : Instance × ℤ}
    (ho : e.obtained ≠ some h) (hc : e.closing ≠ some h) :
    outstanding (e::log) h = outstanding log h := by
  rw [outstanding,if_neg ho,if_neg hc]

theorem Holding.congr (h : Holding w) (hlog : w'.log = w.log)
    (hs : ∀ i, (w'.sockets i).origin = (w.sockets i).origin) (hc : w'.count = w.count)
    (ho : Owned w') : Holding w' := by
  refine ⟨ho,?_,?_⟩
  · rw [hlog]
    exact h.held
  · intro self hself
    rw [hlog,hs self]
    exact h.current self (hc ▸ hself)

theorem Holding.attributed (h : Holding w) {e : Event} (ha : Attributed w e) :
    Held (e :: w.log) := by
  refine ⟨h.held,fun self n c ho hcall => ?_⟩
  rcases (h.owned.disciplined ha).2 self n c ho hcall with hn | ⟨hcl,hown⟩
  · exact .inl hn
  · have hself : self < w.count := h.owned.attributed_lt ha e List.mem_cons_self self ho
    rw [h.owned.ownDescriptor hself,Option.some.injEq] at hown
    rw [← hown]
    exact .inr (h.current self hself hcl).1

/-- Passing a descriptor to `lwip_close` takes it from its holder and from nobody else. -/
theorem Holding.released (h : Holding w) {self : Ref} (hself : self < w.count) {e : Event}
    (ho : e.owner = some self) (hcl : closes self w.log = [])
    (hcall : e.call = .on (w.sockets self).descriptor .close)
    (hi : e.inst = (w.sockets self).lwip) (hlog : w'.log = e :: w.log)
    (hs : ∀ i, (w'.sockets i).origin = (w.sockets i).origin) (hc : w'.count = w.count)
    (hw : Owned w') : Holding w' := by
  have hclosing : e.closing = some (w.sockets self).origin := by
    rw [Event.closing,hcall,hi]
    rfl
  have hobt : ∀ x, e.obtained ≠ some x := by
    intro x
    rw [Event.obtained,hcall]
    exact fun heq => nomatch heq
  have hown := (h.current self hself hcl).1
  refine ⟨hw,?_,?_⟩
  · rw [hlog]
    refine ⟨h.held,fun i n c hoi hcall' => .inr ?_⟩
    rw [ho] at hoi
    cases hoi
    rw [hcall] at hcall'
    cases hcall'
    rw [hi]
    exact hown
  · intro i hi'
    rw [hlog,hs i]
    intro hcli
    have hne : i ≠ self := by
      rintro rfl
      rw [closes_cons_own ho hclosing] at hcli
      cases hcli
    have hcli' : closes i w.log = [] := by
      rw [closes_cons_other] at hcli
      · exact hcli
      · rw [ho]
        exact fun heq => hne (Option.some.inj heq).symm
    obtain ⟨hh,hout⟩ := h.current i (hc ▸ hi') hcli'
    have hdiff : e.closing ≠ some (w.sockets i).origin := by
      rw [hclosing]
      intro heq
      rw [← Option.some.inj heq,hown] at hh
      exact hne (Option.some.inj hh).symm
    rw [holder_cons_other (hobt _),outstanding_cons_other (hobt _) hdiff]
    exact ⟨hh,hout⟩

theorem Holding.step (hf : FreshDescriptors env) (h : Holding w) (hst : Step env w w') :
    Holding w' := by
  have hw := h.owned.step hst
  cases hst with
  | quiet hlog hs hc => exact h.congr hlog (fun i => by rw [hs]) hc hw
  | call e ha ho hcl hlog hs hc =>
    refine ⟨hw,?_,?_⟩
    · rw [hlog]
      exact h.attributed ha
    · intro self hself
      have hno : ∀ x, e.obtained ≠ some x := fun x => by simp [ho]
      have hnc : ∀ x, e.closing ≠ some x := fun x => by simp [hcl]
      rw [hlog,hs,closes_cons_none hcl,holder_cons_other (hno _),
        outstanding_cons_other (hno _) (hnc _)]
      exact h.current self (hc ▸ hself)
  | create e k ha hr ho hd hk hfin hcol hlog hs hc =>
    have hcl := closing_none_of_obtained ho
    have hfresh : outstanding w.log k.origin = false := by
      refine hf w.log e.inst e.owner e.call k.origin ?_
      rw [← hr]
      exact ho
    refine ⟨hw,?_,?_⟩
    · rw [hlog]
      exact h.attributed ha
    · intro self hself
      rw [hc] at hself
      rw [hlog,closes_cons_none hcl,hs]
      rcases Nat.lt_succ_iff_lt_or_eq.mp hself with hlt | rfl
      · rw [Function.update_of_ne (Nat.ne_of_lt hlt)]
        intro hcls
        obtain ⟨hh,hout⟩ := h.current self hlt hcls
        have hdiff : e.obtained ≠ some (w.sockets self).origin := by
          rw [ho]
          intro heq
          rw [← Option.some.inj heq,show (k.lwip,k.descriptor) = k.origin from rfl,hfresh] at hout
          cases hout
        have hnc : e.closing ≠ some (w.sockets self).origin := by simp [hcl]
        rw [holder_cons_other hdiff,outstanding_cons_other hdiff hnc]
        exact ⟨hh,hout⟩
      · intro _
        rw [Function.update_self,holder,outstanding,
          if_pos (show e.obtained = some k.origin from ho),
          if_pos (show e.obtained = some k.origin from ho),h.owned.obtained_length]
        exact ⟨rfl,rfl⟩
  | close self r hl hs₀ hlog hs hc =>
    obtain ⟨harm,hcl⟩ := h.owned.armed hl hs₀
    rw [harm.1] at hlog
    exact h.released hl.1 rfl hcl rfl rfl hlog (origin_update hs rfl) hc hw
  | finalize self fd r hl hfin hlog hs hc =>
    obtain ⟨_,hcl,rfl⟩ := h.owned.armed_of_finalizer hl hfin
    exact h.released hl.1 rfl hcl rfl rfl hlog (origin_update hs rfl) hc hw
  | forget self hl hfin hlog hs hc =>
    exact h.congr hlog (origin_update hs rfl) hc hw

theorem Holding.steps (hf : FreshDescriptors env) (h : Holding w) (hst : Steps env w w') :
    Holding w' := by
  induction hst with
  | refl => exact h
  | tail _ hstep ih => exact ih.step hf hstep

end Owned

end LwipPy
