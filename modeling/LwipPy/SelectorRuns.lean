import LwipPy.PollHistory
import LwipPy.Selector
import LwipPy.SocketRuns

/-! Runs of a selector among operations on sockets: its keys and the registrations of its poll
object stay in lockstep, and a closed socket is still found under its own key. -/
namespace LwipPy

open Program

/-- An object has its descriptor or `-1` for a number, and one not made yet has `-1`. -/
def Sane (w : World) : Prop :=
  ∀ k, ((w.sockets k).s = (w.sockets k).descriptor ∨ (w.sockets k).s = -1) ∧
    (w.count ≤ k → (w.sockets k).s = -1)

/-- The same object as far as a selector can tell, possibly closed. -/
def SameObject (k k' : Socket) : Prop :=
  k'.lwip = k.lwip ∧ k'.descriptor = k.descriptor ∧ (k'.s = k.s ∨ k'.s = -1)

/-- Objects may be made and closed, and nothing else happens to them. -/
def ObjectsKept (w w' : World) : Prop :=
  Sane w → Sane w' ∧ w.count ≤ w'.count ∧ ∀ k < w.count, SameObject (w.sockets k) (w'.sockets k)

instance : IsPreorder World ObjectsKept where
  refl _ hs := ⟨hs,le_refl _,fun _ _ => ⟨rfl,rfl,.inl rfl⟩⟩
  trans a b c h h' hs := by
    obtain ⟨hb,hab,hk⟩ := h hs
    obtain ⟨hc,hbc,hk'⟩ := h' hb
    refine ⟨hc,hab.trans hbc,fun k hlt => ?_⟩
    obtain ⟨h₁,h₂,h₃⟩ := hk k hlt
    obtain ⟨h₄,h₅,h₆⟩ := hk' k (lt_of_lt_of_le hlt hab)
    refine ⟨h₄.trans h₁,h₅.trans h₂,?_⟩
    rcases h₆ with h₆ | h₆
    · rw [h₆]
      exact h₃
    · exact .inr h₆

theorem sane_init : Sane World.init := fun _ => ⟨.inr rfl,fun _ => rfl⟩

section Kept

variable {env : Env}

theorem objectsKept_same {w w' : World} (hs : w'.sockets = w.sockets) (hc : w'.count = w.count) :
    ObjectsKept w w' := by
  intro h
  rw [Sane,hs,hc]
  exact ⟨h,le_refl _,fun _ _ => ⟨rfl,rfl,.inl rfl⟩⟩

theorem kept_checked (self : Ref) (name : String) (c : Except PyErr SockCall) :
    Respects ObjectsKept (Socket.checked env self name c) := by
  refine respects_checkRetErrno (fun _ _ => objectsKept_same rfl rfl)
    (fun _ _ => objectsKept_same rfl rfl) name ?_
  refine respects_bind respects_getSocket fun k => respects_bind (respects_lift c) fun c => ?_
  exact fun w => objectsKept_same rfl rfl

theorem kept_init (lwip : Instance) (family type proto fd : ℤ) :
    Respects ObjectsKept (Socket.init lwip family type proto fd) := by
  refine Socket.respects_init fun w h => ?_
  refine ⟨fun k => ?_,Nat.le_succ _,fun k hk => ?_⟩
  · rw [World.add_sockets,World.add_count]
    by_cases hk : k = w.count
    · subst hk
      rw [Function.update_self]
      exact ⟨.inl rfl,fun hle => absurd hle (Nat.not_succ_le_self _)⟩
    · rw [Function.update_of_ne hk]
      exact ⟨(h k).1,fun hle => (h k).2 (by omega)⟩
  · rw [World.add_sockets,Function.update_of_ne (Nat.ne_of_lt hk)]
    exact ⟨rfl,rfl,.inl rfl⟩

theorem kept_modifySocket (self : Ref) {f : Socket → Socket} (hf : ∀ k, SameObject k (f k)) :
    Respects ObjectsKept (Socket.modifySocket self f) := by
  intro w h
  have hfinal : final (Socket.modifySocket self f) w = w.put self (f (w.sockets self)) := rfl
  obtain ⟨h₁,h₂,h₃⟩ := hf (w.sockets self)
  rw [hfinal]
  refine ⟨fun k => ?_,le_refl _,fun k _ => ?_⟩
  · rw [World.put_sockets,World.put_count]
    by_cases hk : k = self
    · subst hk
      rw [Function.update_self,h₂]
      obtain ⟨hk₁,hk₂⟩ := h k
      rcases h₃ with h₃ | h₃
      · rw [h₃]
        exact ⟨hk₁,hk₂⟩
      · exact ⟨.inr h₃,fun _ => h₃⟩
    · rw [Function.update_of_ne hk]
      exact h k
  · rw [World.put_sockets]
    by_cases hk : k = self
    · subst hk
      rw [Function.update_self]
      exact ⟨h₁,h₂,h₃⟩
    · rw [Function.update_of_ne hk]
      exact ⟨rfl,rfl,.inl rfl⟩

theorem kept_close (self : Ref) : Respects ObjectsKept (Socket.close env self) :=
  respects_close (kept_checked self "close" _)
    (kept_modifySocket self fun _ => ⟨rfl,rfl,.inr rfl⟩)

theorem kept_accept (self : Ref) : Respects ObjectsKept (Socket.accept env self) :=
  respects_accept (fun _ => kept_checked self "accept" _) kept_init

theorem kept_collect (self : Ref) : Respects ObjectsKept (Socket.collect env self) :=
  respects_collect (fun _ _ _ => objectsKept_same rfl rfl)
    (kept_modifySocket self fun _ => ⟨rfl,rfl,.inl rfl⟩)

theorem kept_socket (lwip : Instance) (family socketType proto : ℤ) :
    Respects ObjectsKept (LwIP.socket env lwip family socketType proto) := by
  refine respects_bind ?_ fun _ => kept_init _ _ _ _ _
  refine respects_checkRetErrno (fun _ _ => objectsKept_same rfl rfl)
    (fun _ _ => objectsKept_same rfl rfl) "socket" ?_
  exact respects_bind (respects_lift _) fun _ => fun w => objectsKept_same rfl rfl

theorem kept_exec (op : SocketOp) : Respects ObjectsKept (op.exec env) := by
  cases op with
  | socket lwip family socketType proto => exact respects_discard (kept_socket _ _ _ _)
  | accept self => exact respects_onLive (respects_discard (kept_accept self))
  | close self => exact respects_onLive (kept_close self)
  | exit self => exact respects_onLive (kept_close self)
  | collect self => exact respects_onLive (kept_collect self)
  | method self m =>
    refine respects_onLive (respects_method (fun name c _ => kept_checked self name c) m ?_)
    exact fun _ _ _ w => objectsKept_same rfl rfl

end Kept

namespace Selector

variable {δ : Type}

/-- The keys are stored under their numbers, and the key of an object under its descriptor. -/
structure KeyOk (lwip : Instance) (w : World) (fd : ℤ) (key : SelectorKey δ) : Prop where
  number : key.fd = fd
  nonneg : 0 ≤ fd
  object : ∀ k, key.fileobj = .socket k →
    k < w.count ∧ (w.sockets k).lwip = lwip ∧ (w.sockets k).descriptor = fd

/-- The two tables have the same descriptors, with corresponding events and masks. -/
structure Lockstep (w : World) (o : Selector δ) : Prop where
  sane : Sane w
  same : o.selector.lwip = o.lwip
  masks : ∀ fd, o.selector.registeredFds.get? fd =
    (o.fdToKey.get? fd).map fun key => pollerEvents key.events
  keys : ∀ fd key, o.fdToKey.get? fd = some key → KeyOk o.lwip w fd key

theorem lockstep_init (lwip : Instance) : Lockstep World.init (init lwip : Selector δ) :=
  ⟨sane_init,rfl,fun _ => rfl,fun _ _ h => nomatch h⟩

theorem KeyOk.kept {lwip : Instance} {w w' : World} {fd : ℤ} {key : SelectorKey δ}
    (h : KeyOk lwip w fd key) (hc : w.count ≤ w'.count)
    (hk : ∀ k < w.count, SameObject (w.sockets k) (w'.sockets k)) : KeyOk lwip w' fd key := by
  refine ⟨h.number,h.nonneg,fun k hobj => ?_⟩
  obtain ⟨hlt,hl,hd⟩ := h.object k hobj
  obtain ⟨hl',hd',_⟩ := hk k hlt
  exact ⟨lt_of_lt_of_le hlt hc,hl'.trans hl,hd'.trans hd⟩

/-- Socket operations do not disturb the selector. -/
theorem Lockstep.kept {w w' : World} {self : Selector δ} (h : Lockstep w self)
    (hk : ObjectsKept w w') : Lockstep w' self := by
  obtain ⟨hs,hc,hobj⟩ := hk h.sane
  exact ⟨hs,h.same,h.masks,fun fd key hget => (h.keys fd key hget).kept hc hobj⟩

theorem validFd_ok {n fd : ℤ} (h : validFd n = .ok fd) : fd = n ∧ 0 ≤ n := by
  unfold validFd at h
  split at h
  · cases h
  · cases h
    exact ⟨rfl,by omega⟩

theorem validFd_of_nonneg {n : ℤ} (h : 0 ≤ n) : validFd n = .ok n := by
  rw [validFd,if_neg (by omega)]

theorem validFd_error {n : ℤ} (h : n < 0) :
    validFd n = .error (.valueError s!"Invalid file descriptor: {n}") := by
  rw [validFd,if_pos h]

theorem fileobjToFd_number {fileobj : FileObj} {lwip : Instance} {w : World} {fd : ℤ}
    (h : fileobjToFd fileobj lwip w = .ok fd) : fd = LwipPoll.number w fileobj ∧ 0 ≤ fd := by
  cases fileobj with
  | int n =>
    obtain ⟨rfl,hn⟩ := validFd_ok h
    exact ⟨rfl,hn⟩
  | socket k =>
    rw [fileobjToFd] at h
    split at h
    · cases h
    · obtain ⟨rfl,hn⟩ := validFd_ok h
      exact ⟨rfl,hn⟩

/-- What the search for an object finds. -/
theorem find_key {self : Selector δ} {fileobj : FileObj} {entry : ℤ × SelectorKey δ}
    (h : self.fdToKey.entries.find? (fun entry => entry.2.fileobj = fileobj) = some entry) :
    self.fdToKey.get? entry.1 = some entry.2 ∧ entry.2.fileobj = fileobj :=
  ⟨(self.fdToKey.mem_entries_iff _ _).mp (List.mem_of_find?_eq_some h),
    by simpa using List.find?_some h⟩

/-- The number a file object is looked up as is real, and it belongs to the object if that is
open, or else to the key that holds the object. -/
theorem Lockstep.lookup_ok {w : World} {self : Selector δ} (h : Lockstep w self)
    {fileobj : FileObj} {fd : ℤ} (hl : self.fileobjLookup w fileobj = .ok fd) :
    0 ≤ fd ∧ (fileobjToFd fileobj self.lwip w = .ok fd ∨
      ∃ key, self.fdToKey.get? fd = some key ∧ key.fileobj = fileobj) := by
  unfold fileobjLookup at hl
  cases hto : fileobjToFd fileobj self.lwip w with
  | ok n =>
    rw [hto] at hl
    cases hl
    exact ⟨(fileobjToFd_number hto).2,.inl rfl⟩
  | error e =>
    rw [hto] at hl
    cases hf : self.fdToKey.entries.find? fun entry => entry.2.fileobj = fileobj with
    | none =>
      simp only [hf] at hl
      cases hl
    | some entry =>
      simp only [hf] at hl
      obtain ⟨hget,hobj⟩ := find_key hf
      have hok := h.keys entry.1 entry.2 hget
      cases hl
      rw [hok.number]
      exact ⟨hok.nonneg,.inr ⟨entry.2,hget,hobj⟩⟩

/-- A registered object, open or closed, is looked up as the number it was registered under. -/
theorem Lockstep.lookup_registered {w : World} {self : Selector δ} (h : Lockstep w self)
    {fd : ℤ} {key : SelectorKey δ} (hget : self.fdToKey.get? fd = some key) {k : Ref}
    (hobj : key.fileobj = .socket k) : self.fileobjLookup w (.socket k) = .ok fd := by
  have hok := h.keys fd key hget
  obtain ⟨_,hlw,hd⟩ := hok.object k hobj
  rcases (h.sane k).1 with hs | hs
  · have hto : fileobjToFd (.socket k) self.lwip w = .ok fd := by
      rw [fileobjToFd,if_neg (not_not.mpr hlw),hs,hd]
      exact validFd_of_nonneg hok.nonneg
    rw [fileobjLookup,hto]
  · have hto : fileobjToFd (.socket k) self.lwip w =
        .error (.valueError s!"Invalid file descriptor: {(w.sockets k).s}") := by
      rw [fileobjToFd,if_neg (not_not.mpr hlw)]
      exact validFd_error (by omega)
    -- the search ends at the key of this object, since no other key holds it
    cases hf : self.fdToKey.entries.find? fun entry => entry.2.fileobj = .socket k with
    | none =>
      have hmem := (self.fdToKey.mem_entries_iff fd key).mpr hget
      have hno := List.find?_eq_none.mp hf (fd,key) hmem
      simp [hobj] at hno
    | some entry =>
      obtain ⟨hget',hobj'⟩ := find_key hf
      have hok' := h.keys entry.1 entry.2 hget'
      obtain ⟨_,_,hd'⟩ := hok'.object k hobj'
      rw [fileobjLookup,hto]
      simp only [hf]
      rw [hok'.number,← hd',hd]

def assignBoth (key : SelectorKey δ) (self : Selector δ) : Selector δ :=
  { self.setKey key with selector := self.selector.assign key.fd (pollerEvents key.events) }

def removeBoth (fd : ℤ) (self : Selector δ) : Selector δ :=
  { self.delKey fd with selector := self.selector.remove fd }

theorem Lockstep.assignBoth {w : World} {o : Selector δ} (h : Lockstep w o)
    {key : SelectorKey δ} (hk : KeyOk o.lwip w key.fd key) : Lockstep w (o.assignBoth key) := by
  refine ⟨h.sane,h.same,fun fd => ?_,fun fd key' hget => ?_⟩
  · simp only [Selector.assignBoth,setKey,LwipPoll.assign,OrderedDict.get?_set]
    by_cases hfd : fd = key.fd
    · rw [if_pos hfd,if_pos hfd]
      rfl
    · rw [if_neg hfd,if_neg hfd]
      exact h.masks fd
  · simp only [Selector.assignBoth,setKey,OrderedDict.get?_set] at hget
    by_cases hfd : fd = key.fd
    · rw [if_pos hfd] at hget
      cases hget
      rw [hfd]
      exact hk
    · rw [if_neg hfd] at hget
      exact h.keys fd key' hget

theorem Lockstep.removeBoth {w : World} {o : Selector δ} (h : Lockstep w o) (n : ℤ) :
    Lockstep w (o.removeBoth n) := by
  refine ⟨h.sane,h.same,fun fd => ?_,fun fd key hget => ?_⟩
  · simp only [Selector.removeBoth,delKey,LwipPoll.remove,OrderedDict.get?_del]
    by_cases hfd : fd = n
    · rw [if_pos hfd,if_pos hfd]
      rfl
    · rw [if_neg hfd,if_neg hfd]
      exact h.masks fd
  · simp only [Selector.removeBoth,delKey,OrderedDict.get?_del] at hget
    by_cases hfd : fd = n
    · rw [if_pos hfd] at hget
      cases hget
    · rw [if_neg hfd] at hget
      exact h.keys fd key hget

theorem Lockstep.newKey {w : World} {o : Selector δ} (h : Lockstep w o) {fileobj : FileObj}
    {fd : ℤ} (hl : o.fileobjLookup w fileobj = .ok fd) (hnone : o.fdToKey.get? fd = none)
    (events : ℤ) (data : δ) : KeyOk o.lwip w fd ⟨fileobj,fd,events,data⟩ := by
  obtain ⟨hfd,hto | ⟨key,hget,_⟩⟩ := h.lookup_ok hl
  · refine ⟨rfl,hfd,fun k hobj => ?_⟩
    simp only at hobj
    subst hobj
    rw [fileobjToFd] at hto
    split at hto
    · cases hto
    · next hlw =>
      obtain ⟨rfl,hs₀⟩ := validFd_ok hto
      obtain ⟨hs,hborn⟩ := h.sane k
      refine ⟨?_,not_not.mp hlw,?_⟩
      · by_contra hlt
        have := hborn (Nat.le_of_not_lt hlt)
        omega
      · rcases hs with hs | hs
        · exact hs.symm
        · omega
  · rw [hnone] at hget
    cases hget

theorem baseRegister_run (fileobj : FileObj) (events : ℤ) (data : δ) (w : World)
    (self : Selector δ) :
    baseRegister fileobj events data (w,self) =
      if invalidEvents events then .error (.valueError s!"Invalid events: {events}") (w,self)
      else match self.fileobjLookup w fileobj with
        | .error e => .error e (w,self)
        | .ok fd =>
          if (self.fdToKey.get? fd).isSome then .error .keyError (w,self)
          else .ok ⟨fileobj,fd,events,data⟩ (w,self.setKey ⟨fileobj,fd,events,data⟩) := by
  by_cases hi : invalidEvents events = true
  · simp [baseRegister,bind_apply,hi]
  · cases hl : self.fileobjLookup w fileobj with
    | error e => simp [baseRegister,bind_apply,hi,hl]
    | ok fd =>
      by_cases hs : (self.fdToKey.get? fd).isSome = true
      · simp [baseRegister,bind_apply,hi,hl,hs]
      · simp [baseRegister,bind_apply,hi,hl,hs]
        rfl

theorem baseUnregister_run (fileobj : FileObj) (w : World) (self : Selector δ) :
    baseUnregister fileobj (w,self) = match self.fileobjLookup w fileobj with
      | .error e => .error e (w,self)
      | .ok fd => match self.fdToKey.get? fd with
        | none => .error .keyError (w,self)
        | some key => .ok key (w,self.delKey fd) := by
  cases hl : self.fileobjLookup w fileobj with
  | error e => simp [baseUnregister,bind_apply,hl]
  | ok fd =>
    cases hg : self.fdToKey.get? fd with
    | none => simp [baseUnregister,bind_apply,hl,hg]
    | some key =>
      simp [baseUnregister,bind_apply,hl,hg]
      rfl

/-- `register` raises and changes nothing, or enters the key in both tables. -/
theorem register_run {w : World} {o : Selector δ} (h : Lockstep w o) (fileobj : FileObj)
    (events : ℤ) (data : δ) :
    (invalidEvents events = false ∧ ∃ fd, o.fileobjLookup w fileobj = .ok fd ∧
      o.fdToKey.get? fd = none ∧ register fileobj events data (w,o) =
        .ok ⟨fileobj,fd,events,data⟩ (w,o.assignBoth ⟨fileobj,fd,events,data⟩)) ∨
    (¬ (invalidEvents events = false ∧ ∃ fd, o.fileobjLookup w fileobj = .ok fd ∧
      o.fdToKey.get? fd = none) ∧
      ∃ e, register fileobj events data (w,o) = .error e (w,o)) := by
  have hbase := baseRegister_run fileobj events data w o
  by_cases hi : invalidEvents events = true
  · rw [if_pos hi] at hbase
    exact .inr ⟨fun hvalid => Bool.noConfusion (hi.symm.trans hvalid.1),_,bind_of_error hbase⟩
  · rw [if_neg hi] at hbase
    cases hl : o.fileobjLookup w fileobj with
    | error e =>
      simp only [hl] at hbase
      refine .inr ⟨?_,_,bind_of_error hbase⟩
      rintro ⟨_,_,⟨⟩,_⟩
    | ok fd =>
      simp only [hl] at hbase
      by_cases hs : (o.fdToKey.get? fd).isSome = true
      · rw [if_pos hs] at hbase
        refine .inr ⟨?_,_,bind_of_error hbase⟩
        rintro ⟨_,_,⟨⟩,hnone⟩
        rw [hnone] at hs
        cases hs
      · rw [if_neg hs] at hbase
        have hnone : o.fdToKey.get? fd = none := by simpa using hs
        refine .inl ⟨by simpa using hi,fd,rfl,hnone,?_⟩
        obtain ⟨hfd,_⟩ := h.lookup_ok hl
        have hvalid : o.selector.getFd w (.int fd) = .ok fd := LwipPoll.getFd_int hfd
        have hpoll : LwipPoll.register (.int fd) (pollerEvents events) (w,o.selector) =
            .ok ⟨⟩ (w,o.selector.assign fd (pollerEvents events)) := by
          rw [LwipPoll.register_run,hvalid]
        have hboth : zoom pollPart (LwipPoll.register (.int fd) (pollerEvents events))
            (w,o.setKey ⟨fileobj,fd,events,data⟩) =
            .ok ⟨⟩ (w,o.assignBoth ⟨fileobj,fd,events,data⟩) := zoom_poll_ok hpoll
        rw [register,bind_of_ok hbase,bind_of_ok (tryCatch_of_ok hboth)]
        rfl

/-- `unregister` raises and changes nothing, or removes the number from both tables. -/
theorem unregister_run {w : World} {o : Selector δ} (h : Lockstep w o) (fileobj : FileObj) :
    (∃ fd key, o.fileobjLookup w fileobj = .ok fd ∧ o.fdToKey.get? fd = some key ∧
      unregister fileobj (w,o) = .ok key (w,o.removeBoth fd)) ∨
    ((∀ fd, o.fileobjLookup w fileobj = .ok fd → o.fdToKey.get? fd = none) ∧
      ∃ e, unregister fileobj (w,o) = .error e (w,o)) := by
  have hbase := baseUnregister_run fileobj w o
  cases hl : o.fileobjLookup w fileobj with
  | error e =>
    simp only [hl] at hbase
    exact .inr ⟨(fun _ hfd => nomatch hfd),_,bind_of_error hbase⟩
  | ok fd =>
    simp only [hl] at hbase
    cases hg : o.fdToKey.get? fd with
    | none =>
      simp only [hg] at hbase
      refine .inr ⟨fun n hn => ?_,_,bind_of_error hbase⟩
      cases hn
      exact hg
    | some key =>
      simp only [hg] at hbase
      refine .inl ⟨fd,key,rfl,hg,?_⟩
      have hok := h.keys fd key hg
      have hvalid : o.selector.getFd w (.int fd) = .ok fd := LwipPoll.getFd_int hok.nonneg
      have hreg : (o.selector.registeredFds.get? fd).isSome = true := by
        rw [h.masks,hg]
        rfl
      have hpoll : LwipPoll.unregister (.int fd) (w,o.selector) =
          .ok ⟨⟩ (w,o.selector.remove fd) := by
        rw [LwipPoll.unregister_run,hvalid]
        exact if_pos hreg
      have hboth : zoom pollPart (LwipPoll.unregister (.int fd)) (w,o.delKey fd) =
          .ok ⟨⟩ (w,o.removeBoth fd) := zoom_poll_ok hpoll
      rw [unregister,bind_of_ok hbase,hok.number,bind_of_ok (tryCatch_of_ok hboth)]
      rfl

variable (differs : δ → δ → Except PyErr Bool)

/-- The state of `modify` after the poll object was told, before the data are compared. -/
def told (key : SelectorKey δ) (events : ℤ) (self : Selector δ) : Selector δ :=
  if events ≠ key.events then
    { self with selector := self.selector.assign key.fd (pollerEvents events) }
  else self

/-- The key `modify` returns; its data are replaced if they differ or the events do. -/
def revised (key : SelectorKey δ) (events : ℤ) (data : δ) (different : Bool) : SelectorKey δ :=
  if events ≠ key.events ∨ different = true then { key with events, data } else key

/-- The state `modify` ends in when the data were compared. -/
def modified (key : SelectorKey δ) (events : ℤ) (data : δ) (different : Bool)
    (self : Selector δ) : Selector δ :=
  if events ≠ key.events ∨ different = true then
    (self.told key events).setKey { key with events, data }
  else self

theorem told_fdToKey (key : SelectorKey δ) (events : ℤ) (o : Selector δ) :
    (o.told key events).fdToKey = o.fdToKey := by
  unfold told
  split_ifs <;> rfl

theorem told_lwip (key : SelectorKey δ) (events : ℤ) (o : Selector δ) :
    (o.told key events).lwip = o.lwip := by
  unfold told
  split_ifs <;> rfl

/-- The masks that belong to the keys. -/
def masks (o : Selector δ) (fd : ℤ) : Option ℤ :=
  (o.fdToKey.get? fd).map fun key => pollerEvents key.events

/-- Telling the poll object is felt only where the mask changes. -/
theorem Lockstep.told_masks {w : World} {o : Selector δ} (h : Lockstep w o)
    {key : SelectorKey δ} (hget : o.fdToKey.get? key.fd = some key) (events n : ℤ) :
    (o.told key events).selector.registeredFds.get? n =
      if n = key.fd then some (pollerEvents events) else o.masks n := by
  have hown : o.masks key.fd = some (pollerEvents key.events) := by
    rw [Selector.masks,hget]
    rfl
  unfold told
  split_ifs with hev hn hn
  · rw [LwipPoll.assign,OrderedDict.get?_set,if_pos hn]
  · rw [LwipPoll.assign,OrderedDict.get?_set,if_neg hn]
    exact h.masks n
  · rw [not_not.mp hev,hn]
    exact (h.masks key.fd).trans hown
  · exact h.masks n

theorem modified_keys {o : Selector δ} {key : SelectorKey δ}
    (hget : o.fdToKey.get? key.fd = some key) (events : ℤ) (data : δ) (different : Bool) (n : ℤ) :
    (o.modified key events data different).fdToKey.get? n =
      if n = key.fd then some (revised key events data different) else o.fdToKey.get? n := by
  unfold modified revised
  by_cases hc : events ≠ key.events ∨ different = true
  · rw [if_pos hc,if_pos hc,setKey,OrderedDict.get?_set,told_fdToKey]
  · rw [if_neg hc,if_neg hc]
    split_ifs with hn
    · rw [hn,hget]
    · rfl

theorem revised_events (key : SelectorKey δ) (events : ℤ) (data : δ) (different : Bool) :
    (revised key events data different).events = events := by
  unfold revised
  split_ifs with h
  · rfl
  · exact (not_not.mp (not_or.mp h).1).symm

theorem Lockstep.modified_masks {w : World} {o : Selector δ} (h : Lockstep w o)
    {key : SelectorKey δ} (hget : o.fdToKey.get? key.fd = some key) (events : ℤ) (data : δ)
    (different : Bool) (n : ℤ) :
    (o.modified key events data different).selector.registeredFds.get? n =
      if n = key.fd then some (pollerEvents events) else o.masks n := by
  rw [← h.told_masks hget events n]
  unfold modified
  split_ifs with hc
  · rfl
  · rw [told,if_neg (not_or.mp hc).1]

/-- `modify` raises before it changes anything, or tells the poll object and compares the data; if
that returns, so does `modify`. -/
theorem modify_run {w : World} {o : Selector δ} (h : Lockstep w o) (fileobj : FileObj)
    (events : ℤ) (data : δ) :
    (∃ key, o.fileobjLookup w fileobj = .ok key.fd ∧ o.fdToKey.get? key.fd = some key ∧
      modify differs fileobj events data (w,o) = match differs data key.data with
        | .ok different => .ok (revised key events data different)
            (w,o.modified key events data different)
        | .error e => .error e (w,o.told key events)) ∨
    ((∀ fd, o.fileobjLookup w fileobj = .ok fd → o.fdToKey.get? fd = none) ∧
      ∃ e, modify differs fileobj events data (w,o) = .error e (w,o)) := by
  cases hl : o.fileobjLookup w fileobj with
  | error e =>
    refine .inr ⟨(fun _ hfd => nomatch hfd),e,?_⟩
    simp [modify,bind_apply,hl]
  | ok fd =>
    cases hg : o.fdToKey.get? fd with
    | none =>
      refine .inr ⟨fun n hn => ?_,.keyError,?_⟩
      · cases hn
        exact hg
      · simp [modify,bind_apply,hl,hg]
    | some key =>
      have hok := h.keys fd key hg
      obtain rfl := hok.number
      refine .inl ⟨key,rfl,hg,?_⟩
      by_cases hev : events = key.events
      · cases hd : differs data key.data with
        | error e => simp [modify,bind_apply,hl,hg,hev,hd,told]
        | ok different =>
          cases different
          · simp [modify,bind_apply,hl,hg,hev,hd,modified,revised]
          · simp [modify,bind_apply,map_run,hl,hg,hev,hd,modified,revised,told,modifySelf]
            rfl
      · have hvalid : o.selector.getFd w (.int key.fd) = .ok key.fd :=
          LwipPoll.getFd_int hok.nonneg
        have hreg : (o.selector.registeredFds.get? key.fd).isSome = true := by
          rw [h.masks,hg]
          rfl
        have hpoll : LwipPoll.modify (.int key.fd) (pollerEvents events) (w,o.selector) =
            .ok ⟨⟩ (w,o.selector.assign key.fd (pollerEvents events)) := by
          rw [LwipPoll.modify_run,hvalid]
          exact if_pos hreg
        have hzoom : zoom pollPart (LwipPoll.modify (.int key.fd) (pollerEvents events)) (w,o) =
            .ok ⟨⟩ (w,o.told key events) := by
          rw [told,if_pos hev]
          exact zoom_poll_ok hpoll
        cases hd : differs data key.data with
        | error e => simp [modify,bind_apply,hl,hg,hev,hd,tryCatch_of_ok hzoom]
        | ok different =>
          simp [modify,bind_apply,map_run,hl,hg,hev,hd,modified,revised,modifySelf,
            tryCatch_of_ok hzoom]
          rfl

/-- Calls of the selector among operations on sockets. -/
inductive Op (δ : Type)
  | register (fileobj : FileObj) (events : ℤ) (data : δ)
  | unregister (fileobj : FileObj)
  | modify (fileobj : FileObj) (events : ℤ) (data : δ)
  | sockets (op : SocketOp)

def Op.exec (env : Env) : Op δ → SelectorM δ Unit
  | .register fileobj events data => discard (Selector.register fileobj events data)
  | .unregister fileobj => discard (Selector.unregister fileobj)
  | .modify fileobj events data => discard (Selector.modify differs fileobj events data)
  | .sockets op => zoom .fst (op.exec env)

/-- A run from the start of the process on, with a new selector. -/
def selectorRun (env : Env) (lwip : Instance) (ops : List (Op δ)) : World × Selector δ :=
  runAll (ops.map (Op.exec differs env)) (World.init,init lwip)

/-- If data are compared after the poll object got another mask, the comparison returns. -/
def Settled : Op δ → World × Selector δ → Prop
  | .modify fileobj events data, c => ∀ key, c.2.fileobjLookup c.1 fileobj = .ok key.fd →
      c.2.fdToKey.get? key.fd = some key → pollerEvents events ≠ pollerEvents key.events →
      ∃ different, differs data key.data = .ok different
  | _, _ => True

/-- If the operation raises, both tables are as before. -/
def Unchanged (env : Env) (op : Op δ) (c : World × Selector δ) : Prop :=
  ∀ e c', op.exec differs env c = .error e c' → c'.2.fdToKey = c.2.fdToKey ∧
    ∀ fd, c'.2.selector.registeredFds.get? fd = c.2.selector.registeredFds.get? fd

theorem Lockstep.modified {w : World} {o : Selector δ} (h : Lockstep w o) {key : SelectorKey δ}
    (hget : o.fdToKey.get? key.fd = some key) (events : ℤ) (data : δ) (different : Bool) :
    Lockstep w (o.modified key events data different) := by
  have hlwip : (o.modified key events data different).lwip = o.lwip ∧
      (o.modified key events data different).selector.lwip = o.selector.lwip := by
    unfold Selector.modified Selector.told Selector.setKey
    split_ifs <;> exact ⟨rfl,rfl⟩
  have hkey := modified_keys hget events data different
  refine ⟨h.sane,hlwip.2.trans (h.same.trans hlwip.1.symm),fun n => ?_,fun n key' hn => ?_⟩
  · rw [h.modified_masks hget,hkey]
    split_ifs
    · rw [Option.map_some,revised_events]
    · rfl
  · rw [hkey] at hn
    rw [hlwip.1]
    split_ifs at hn with hfd
    · cases hn
      have hok := h.keys key.fd key hget
      unfold revised
      subst hfd
      split_ifs
      · exact ⟨rfl,hok.nonneg,hok.object⟩
      · exact hok
    · exact h.keys n key' hn

/-- Where the mask stays the same, telling the poll object leaves the tables in lockstep. -/
theorem Lockstep.told {w : World} {o : Selector δ} (h : Lockstep w o) {key : SelectorKey δ}
    (hget : o.fdToKey.get? key.fd = some key) {events : ℤ}
    (hmask : pollerEvents events = pollerEvents key.events) :
    (∀ n, (o.told key events).selector.registeredFds.get? n =
      o.selector.registeredFds.get? n) ∧ Lockstep w (o.told key events) := by
  have hsame : ∀ n, (o.told key events).selector.registeredFds.get? n = o.masks n := by
    intro n
    rw [h.told_masks hget]
    split_ifs with hn
    · rw [hmask,hn,Selector.masks,hget]
      rfl
    · rfl
  have hlwip : (o.told key events).selector.lwip = o.selector.lwip := by
    unfold Selector.told
    split_ifs <;> rfl
  refine ⟨fun n => (hsame n).trans (h.masks n).symm,h.sane,?_,fun n => ?_,?_⟩
  · rw [hlwip,told_lwip]
    exact h.same
  · rw [told_fdToKey]
    exact hsame n
  · rw [told_fdToKey,told_lwip]
    exact h.keys

theorem step_of_ok {env : Env} {op : Op δ} {c : World × Selector δ} {w' : World}
    {o' : Selector δ} (hx : op.exec differs env c = .ok ⟨⟩ (w',o')) (h : Lockstep w' o')
    (hset : Settled differs op c) : (Unchanged differs env op c ↔ Settled differs op c) ∧
      (Settled differs op c →
        Lockstep (final (op.exec differs env) c).1 (final (op.exec differs env) c).2) := by
  refine ⟨iff_of_true (fun e c'' hx' => ?_) hset,fun _ => ?_⟩
  · cases hx.symm.trans hx'
  · rw [final_of_ok hx]
    exact h

theorem step_of_same {env : Env} {op : Op δ} {c : World × Selector δ} {e : PyErr}
    (hx : op.exec differs env c = .error e c) (h : Lockstep c.1 c.2)
    (hset : Settled differs op c) : (Unchanged differs env op c ↔ Settled differs op c) ∧
      (Settled differs op c →
        Lockstep (final (op.exec differs env) c).1 (final (op.exec differs env) c).2) := by
  refine ⟨iff_of_true (fun e' c' hx' => ?_) hset,fun _ => ?_⟩
  · cases hx.symm.trans hx'
    exact ⟨rfl,fun _ => rfl⟩
  · rw [final_of_error hx]
    exact h

/-- `modify` of a key whose data cannot be compared. -/
theorem step_of_told {env : Env} {fileobj : FileObj} {events : ℤ} {data : δ} {w : World}
    {o : Selector δ} {e : PyErr} (h : Lockstep w o) {key : SelectorKey δ}
    (hget : o.fdToKey.get? key.fd = some key)
    (hx : (Op.modify fileobj events data).exec differs env (w,o) = .error e (w,o.told key events))
    (hset : Settled differs (.modify fileobj events data) (w,o) ↔
      pollerEvents events = pollerEvents key.events) :
    (Unchanged differs env (.modify fileobj events data) (w,o) ↔
      Settled differs (.modify fileobj events data) (w,o)) ∧
    (Settled differs (.modify fileobj events data) (w,o) →
      Lockstep (final ((Op.modify fileobj events data).exec differs env) (w,o)).1
        (final ((Op.modify fileobj events data).exec differs env) (w,o)).2) := by
  rw [hset,final_of_error hx]
  refine ⟨⟨fun hun => ?_,fun heq e' c' hx' => ?_⟩,fun heq => (h.told hget heq).2⟩
  · have hmask := (hun e _ hx).2 key.fd
    rw [h.told_masks hget,if_pos rfl,h.masks,hget] at hmask
    exact Option.some.inj hmask
  · cases hx.symm.trans hx'
    exact ⟨told_fdToKey key events o,(h.told hget heq).1⟩

theorem settled_modify {fileobj : FileObj} {events : ℤ} {data : δ} {w : World} {o : Selector δ}
    {key : SelectorKey δ} (hl : o.fileobjLookup w fileobj = .ok key.fd)
    (hget : o.fdToKey.get? key.fd = some key) :
    Settled differs (.modify fileobj events data) (w,o) ↔
      (pollerEvents events ≠ pollerEvents key.events →
        ∃ different, differs data key.data = .ok different) := by
  constructor
  · exact fun hset => hset key hl hget
  · intro hset key' hl' hget'
    rw [hl] at hl'
    rw [← Except.ok.inj hl',hget] at hget'
    cases hget'
    exact hset

/-- One operation: it raises without a change of the tables, if at all, exactly if it is settled,
and then it keeps them in lockstep. -/
theorem exec_lockstep (env : Env) (op : Op δ) {c : World × Selector δ} (h : Lockstep c.1 c.2) :
    (Unchanged differs env op c ↔ Settled differs op c) ∧ (Settled differs op c →
      Lockstep (final (op.exec differs env) c).1 (final (op.exec differs env) c).2) := by
  obtain ⟨w,o⟩ := c
  cases op with
  | register fileobj events data =>
    rcases register_run h fileobj events data with ⟨_,fd,hl,hnone,hrun⟩ | ⟨_,e,hrun⟩
    · have hboth : Lockstep w (o.assignBoth ⟨fileobj,fd,events,data⟩) :=
        h.assignBoth (h.newKey hl hnone events data)
      refine step_of_ok differs ?_ hboth trivial
      rw [Op.exec,discard_run,hrun]
    · refine step_of_same differs (e := e) ?_ h trivial
      rw [Op.exec,discard_run,hrun]
  | unregister fileobj =>
    rcases unregister_run h fileobj with ⟨fd,key,_,_,hrun⟩ | ⟨_,e,hrun⟩
    · refine step_of_ok differs ?_ (h.removeBoth fd) trivial
      rw [Op.exec,discard_run,hrun]
    · refine step_of_same differs (e := e) ?_ h trivial
      rw [Op.exec,discard_run,hrun]
  | modify fileobj events data =>
    rcases modify_run differs h fileobj events data with ⟨key,hl,hget,hrun⟩ | ⟨hno,e,hrun⟩
    · have hset : Settled differs (.modify fileobj events data) (w,o) ↔ _ :=
        settled_modify differs hl hget
      cases hd : differs data key.data with
      | ok different =>
        rw [hd] at hrun
        refine step_of_ok differs ?_ (h.modified hget events data different)
          (hset.mpr fun _ => ⟨different,hd⟩)
        rw [Op.exec,discard_run,hrun]
      | error e =>
        rw [hd] at hrun
        refine step_of_told differs (e := e) h hget ?_ (hset.trans ⟨fun hcmp => ?_,fun heq hne => ?_⟩)
        · rw [Op.exec,discard_run,hrun]
        · by_contra hne
          obtain ⟨_,hreturned⟩ := hcmp hne
          cases hd.symm.trans hreturned
        · exact absurd heq hne
    · refine step_of_same differs (e := e) ?_ h fun key hl hget => ?_
      · rw [Op.exec,discard_run,hrun]
      · rw [hno key.fd hl] at hget
        cases hget
  | sockets op =>
    refine ⟨iff_of_true (fun e c' hx => ?_) trivial,fun _ => ?_⟩
    · have hfinal : final (zoom .fst (op.exec env)) (w,o) = (final (op.exec env) w,o) :=
        final_zoom .fst (op.exec env) (w,o)
      have hx' : zoom .fst (op.exec env) (w,o) = .error e c' := hx
      rw [final_of_error hx'] at hfinal
      rw [hfinal]
      exact ⟨rfl,fun _ => rfl⟩
    · rw [Op.exec,final_zoom]
      exact h.kept (kept_exec op w)

theorem run_lockstep (env : Env) (lwip : Instance) {ops : List (Op δ)}
    (h : ∀ done op, done ++ [op] <+: ops →
      Lockstep (selectorRun differs env lwip done).1 (selectorRun differs env lwip done).2 →
      Settled differs op (selectorRun differs env lwip done)) :
    ∀ done, done <+: ops →
      Lockstep (selectorRun differs env lwip done).1 (selectorRun differs env lwip done).2 := by
  refine runAll_kept_along (I := fun c : World × Selector δ => Lockstep c.1 c.2)
    (lockstep_init lwip) ?_
  intro done op hdone hrun
  exact (exec_lockstep differs env op hrun).2 (h done op hdone hrun)

/-- One number has the entry `entry` in both tables, or none, and the others are as before. -/
structure Replaced (c c' : World × Selector δ) (fd : ℤ) (entry : Option (SelectorKey δ)) :
    Prop where
  keys : ∀ n, c'.2.fdToKey.get? n = if n = fd then entry else c.2.fdToKey.get? n
  masks : ∀ n, c'.2.selector.registeredFds.get? n =
    if n = fd then entry.map fun key => pollerEvents key.events
    else c.2.selector.registeredFds.get? n

/-- The tables have the same numbers, with corresponding events. `register`, `unregister` and
`modify` return exactly when they are meant to, and write the same entry to both. An object that
is registered, closed or not, is found under its number, and a closed one never under another. -/
structure InLockstep (c : World × Selector δ) : Prop where
  same : ∀ fd, c.2.selector.registeredFds.get? fd = c.2.masks fd
  registers : ∀ fileobj events data,
    ((∃ key c', register fileobj events data c = .ok key c') ↔ invalidEvents events = false ∧
      ∃ fd, c.2.fileobjLookup c.1 fileobj = .ok fd ∧ c.2.fdToKey.get? fd = none) ∧
    ∀ key c', register fileobj events data c = .ok key c' →
      key = ⟨fileobj,LwipPoll.number c.1 fileobj,events,data⟩ ∧
      c.2.fdToKey.get? key.fd = none ∧ Replaced c c' key.fd (some key)
  unregisters : ∀ fileobj,
    ((∃ key c', unregister fileobj c = .ok key c') ↔
      ∃ fd key, c.2.fileobjLookup c.1 fileobj = .ok fd ∧ c.2.fdToKey.get? fd = some key) ∧
    ∀ key c', unregister fileobj c = .ok key c' → c.2.fileobjLookup c.1 fileobj = .ok key.fd ∧
      c.2.fdToKey.get? key.fd = some key ∧ Replaced c c' key.fd none
  modifies : ∀ fileobj events data,
    ((∃ key c', modify differs fileobj events data c = .ok key c') ↔
      ∃ fd key different, c.2.fileobjLookup c.1 fileobj = .ok fd ∧
        c.2.fdToKey.get? fd = some key ∧ differs data key.data = .ok different) ∧
    ∀ key' c', modify differs fileobj events data c = .ok key' c' →
      ∃ key different, c.2.fileobjLookup c.1 fileobj = .ok key.fd ∧
        c.2.fdToKey.get? key.fd = some key ∧ differs data key.data = .ok different ∧
        key' = revised key events data different ∧ Replaced c c' key.fd (some key')
  found : ∀ fd key k, c.2.fdToKey.get? fd = some key → key.fileobj = .socket k →
    key.fd = fd ∧ c.2.fileobjLookup c.1 (.socket k) = .ok fd
  own : ∀ k fd, (c.1.sockets k).s = -1 → c.2.fileobjLookup c.1 (.socket k) = .ok fd →
    ∃ key, c.2.fdToKey.get? fd = some key ∧ key.fileobj = .socket k

section Fields

variable {w : World} {o : Selector δ}

theorem Lockstep.registers (h : Lockstep w o) (fileobj : FileObj) (events : ℤ) (data : δ) :
    ((∃ key c', register fileobj events data (w,o) = .ok key c') ↔ invalidEvents events = false ∧
      ∃ fd, o.fileobjLookup w fileobj = .ok fd ∧ o.fdToKey.get? fd = none) ∧
    ∀ key c', register fileobj events data (w,o) = .ok key c' →
      key = ⟨fileobj,LwipPoll.number w fileobj,events,data⟩ ∧
      o.fdToKey.get? key.fd = none ∧ Replaced (w,o) c' key.fd (some key) := by
  rcases register_run h fileobj events data with ⟨hi,fd,hl,hnone,hrun⟩ | ⟨hno,e,hrun⟩
  · refine ⟨iff_of_true ⟨_,_,hrun⟩ ⟨hi,fd,hl,hnone⟩,fun key c' hx => ?_⟩
    cases hrun.symm.trans hx
    have hnumber : fd = LwipPoll.number w fileobj := by
      rcases (h.lookup_ok hl).2 with hto | ⟨key,hget,_⟩
      · exact (fileobjToFd_number hto).1
      · cases hnone.symm.trans hget
    refine ⟨by rw [hnumber],hnone,fun n => ?_,fun n => ?_⟩
    · rw [Selector.assignBoth,setKey,OrderedDict.get?_set]
    · rw [Selector.assignBoth,LwipPoll.assign,OrderedDict.get?_set]
      rfl
  · refine ⟨iff_of_false ?_ hno,fun key c' hx => ?_⟩
    · rintro ⟨_,_,hx⟩
      cases hrun.symm.trans hx
    · cases hrun.symm.trans hx

theorem Lockstep.unregisters (h : Lockstep w o) (fileobj : FileObj) :
    ((∃ key c', unregister fileobj (w,o) = .ok key c') ↔
      ∃ fd key, o.fileobjLookup w fileobj = .ok fd ∧ o.fdToKey.get? fd = some key) ∧
    ∀ key c', unregister fileobj (w,o) = .ok key c' → o.fileobjLookup w fileobj = .ok key.fd ∧
      o.fdToKey.get? key.fd = some key ∧ Replaced (w,o) c' key.fd none := by
  rcases unregister_run h fileobj with ⟨fd,key,hl,hget,hrun⟩ | ⟨hno,e,hrun⟩
  · refine ⟨iff_of_true ⟨_,_,hrun⟩ ⟨fd,key,hl,hget⟩,fun key' c' hx => ?_⟩
    cases hrun.symm.trans hx
    obtain rfl := (h.keys fd key hget).number
    refine ⟨hl,hget,fun n => ?_,fun n => ?_⟩
    · rw [Selector.removeBoth,delKey,OrderedDict.get?_del]
    · rw [Selector.removeBoth,LwipPoll.remove,OrderedDict.get?_del]
      rfl
  · refine ⟨iff_of_false ?_ ?_,fun key c' hx => ?_⟩
    · rintro ⟨_,_,hx⟩
      cases hrun.symm.trans hx
    · rintro ⟨fd,key,hl,hget⟩
      cases (hno fd hl).symm.trans hget
    · cases hrun.symm.trans hx

theorem Lockstep.modifies (h : Lockstep w o) (fileobj : FileObj) (events : ℤ) (data : δ) :
    ((∃ key c', modify differs fileobj events data (w,o) = .ok key c') ↔
      ∃ fd key different, o.fileobjLookup w fileobj = .ok fd ∧
        o.fdToKey.get? fd = some key ∧ differs data key.data = .ok different) ∧
    ∀ key' c', modify differs fileobj events data (w,o) = .ok key' c' →
      ∃ key different, o.fileobjLookup w fileobj = .ok key.fd ∧
        o.fdToKey.get? key.fd = some key ∧ differs data key.data = .ok different ∧
        key' = revised key events data different ∧ Replaced (w,o) c' key.fd (some key') := by
  rcases modify_run differs h fileobj events data with ⟨key,hl,hget,hrun⟩ | ⟨hno,e,hrun⟩
  · cases hd : differs data key.data with
    | ok different =>
      rw [hd] at hrun
      refine ⟨iff_of_true ⟨_,_,hrun⟩ ⟨key.fd,key,different,hl,hget,hd⟩,fun key' c' hx => ?_⟩
      cases hrun.symm.trans hx
      refine ⟨key,different,hl,hget,hd,rfl,modified_keys hget events data different,fun n => ?_⟩
      rw [h.modified_masks hget,Option.map_some,revised_events]
      split_ifs
      · rfl
      · exact (h.masks n).symm
    | error e =>
      rw [hd] at hrun
      refine ⟨iff_of_false ?_ ?_,fun key' c' hx => ?_⟩
      · rintro ⟨_,_,hx⟩
        cases hrun.symm.trans hx
      · rintro ⟨fd,key',different,hl',hget',hd'⟩
        rw [hl] at hl'
        rw [← Except.ok.inj hl',hget] at hget'
        cases hget'
        cases hd.symm.trans hd'
      · cases hrun.symm.trans hx
  · refine ⟨iff_of_false ?_ ?_,fun key c' hx => ?_⟩
    · rintro ⟨_,_,hx⟩
      cases hrun.symm.trans hx
    · rintro ⟨fd,key,_,hl,hget,_⟩
      cases (hno fd hl).symm.trans hget
    · cases hrun.symm.trans hx

theorem Lockstep.inLockstep (h : Lockstep w o) : InLockstep differs (w,o) where
  same := h.masks
  registers := h.registers
  unregisters := h.unregisters
  modifies := h.modifies differs
  found fd key k hget hobj := ⟨(h.keys fd key hget).number,h.lookup_registered hget hobj⟩
  own k fd hs hl := by
    obtain ⟨hfd,hto | hkey⟩ := h.lookup_ok hl
    · have hnumber : fd = (w.sockets k).s := (fileobjToFd_number hto).1
      rw [hs] at hnumber
      omega
    · exact hkey

end Fields

/-- After any run the tables are in lockstep, and a call that raises changes neither, exactly if no
`modify` of the run raised by comparing data after it had given the poll object another mask. -/
theorem tables_in_lockstep_iff (env : Env) (lwip : Instance) (ops : List (Op δ)) :
    (∀ done, done <+: ops → InLockstep differs (selectorRun differs env lwip done) ∧
      ∀ op, done ++ [op] <+: ops →
        Unchanged differs env op (selectorRun differs env lwip done)) ↔
    ∀ done op, done ++ [op] <+: ops → Settled differs op (selectorRun differs env lwip done) := by
  constructor
  · intro hall
    have hrun : ∀ done, done <+: ops → Lockstep (selectorRun differs env lwip done).1
        (selectorRun differs env lwip done).2 :=
      run_lockstep differs env lwip fun done op hdone h => (exec_lockstep differs env op h).1.mp
        ((hall done ((List.prefix_append done [op]).trans hdone)).2 op hdone)
    intro done op hdone
    have hdone' := (List.prefix_append done [op]).trans hdone
    exact (exec_lockstep differs env op (hrun done hdone')).1.mp ((hall done hdone').2 op hdone)
  · intro hset done hdone
    have hrun := run_lockstep differs env lwip (fun done op hop _ => hset done op hop) done hdone
    refine ⟨hrun.inLockstep differs,fun op hop => ?_⟩
    exact (exec_lockstep differs env op hrun).1.mpr (hset done op hop)

def stringsDiffer (a b : String) : Except PyErr Bool := .ok (a ≠ b)

/-- Socket 0 is registered and closed, socket 1 gets its number. -/
def reusedNumber : List (Op String) :=
  [.sockets (.socket 0 AF_INET SOCK_STREAM 0),.register (.socket 0) EVENT_READ "a",
    .sockets (.close 0),.sockets (.socket 0 AF_INET SOCK_STREAM 0),
    .register (.socket 1) EVENT_WRITE "b",.modify (.socket 0) EVENT_WRITE "c"]

/-- The entry stays with socket 0, and the number cannot be registered again. -/
theorem tables_in_lockstep_reused :
    let c := selectorRun stringsDiffer (quietEnv tableReply) 0 reusedNumber
    InLockstep stringsDiffer c ∧ (c.1.sockets 1).s = 0 ∧
    c.2.fdToKey.entries = [(0,⟨.socket 0,0,EVENT_WRITE,"c"⟩)] ∧
    c.2.fileobjLookup c.1 (.socket 0) = .ok 0 := by
  have hset : ∀ (op : Op String) (c : World × Selector String), Settled stringsDiffer op c := by
    intro op c
    cases op
    case modify => exact fun _ _ _ _ => ⟨_,rfl⟩
    all_goals trivial
  have h := (tables_in_lockstep_iff stringsDiffer (quietEnv tableReply) 0 reusedNumber).mpr
    fun done op _ => hset op _
  exact ⟨(h reusedNumber (List.prefix_refl _)).1,by decide +kernel,by decide +kernel,
    by decide +kernel⟩

/-- Data that cannot be compared, such as arrays of several numbers. -/
def arraysDiffer (_ _ : String) : Except PyErr Bool :=
  .error (.valueError "The truth value of an array with more than one element is ambiguous.")

/-- `modify` asks the poll object to wait for writing, and raises; the key still says reading. -/
theorem modify_tears_tables :
    let ops := [.register (.int 3) EVENT_READ "a",.modify (.int 3) EVENT_WRITE "b"]
    let c := selectorRun arraysDiffer (quietEnv tableReply) 0 ops
    c.2.selector.registeredFds.get? 3 = some POLLOUT ∧
    (c.2.fdToKey.get? 3).map SelectorKey.events = some EVENT_READ ∧
    ¬ InLockstep arraysDiffer c ∧
    ¬ ∀ (differs : String → String → Except PyErr Bool) (env : Env) (ops : List (Op String)),
      InLockstep differs (selectorRun differs env 0 ops) := by
  have hmask : (selectorRun arraysDiffer (quietEnv tableReply) 0
      [.register (.int 3) EVENT_READ "a",.modify (.int 3) EVENT_WRITE "b"]).2.selector.registeredFds.get?
        3 = some POLLOUT := by decide +kernel
  have hkey : (selectorRun arraysDiffer (quietEnv tableReply) 0
      [.register (.int 3) EVENT_READ "a",.modify (.int 3) EVENT_WRITE "b"]).2.masks 3 =
        some POLLIN := by decide +kernel
  have hnot : ¬ InLockstep arraysDiffer (selectorRun arraysDiffer (quietEnv tableReply) 0
      [.register (.int 3) EVENT_READ "a",.modify (.int 3) EVENT_WRITE "b"]) := by
    intro h
    have hsame := h.same 3
    rw [hmask,hkey] at hsame
    exact absurd hsame (by decide)
  exact ⟨hmask,by decide +kernel,hnot,fun h => hnot (h _ _ _)⟩

end Selector
end LwipPy
