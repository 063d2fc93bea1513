import LwipPy.Netif
import LwipPy.Routing

/-! `Netif.input`: a pbuf is allocated, filled and handed to the input function of the interface,
which owns it from then on if it returns `ERR_OK`. -/
namespace LwipPy

open Program

/-- A call of lwIP that a pbuf passes through, with its answer. -/
inductive PbufEvent
  | alloc (length : ℕ) (p : Option PbufRef)
  | input (netif : NetifRef) (p : PbufRef) (content : Bytes) (ret : ℤ)
  | free (p : PbufRef)
  deriving DecidableEq

/-- What keeps `Netif.input` from returning: an exception, or the end of the process. -/
inductive Stop
  | raised (e : PyErr)
  | fault (f : Fault)
  deriving DecidableEq

/-- The pbufs allocated so far and the interfaces of a process. The newest event comes first. -/
structure PbufWorld where
  payload : PbufRef → Bytes
  count : ℕ
  /-- the field `input` of each `struct netif`: the `tcpip_input` of an instance, or `NULL` -/
  input : NetifRef → Option Instance
  fault : Option Fault
  log : List PbufEvent

def PbufWorld.init : PbufWorld := ⟨fun _ => [],0,fun _ => none,none,[]⟩

/-- lwIP: `pbuf_alloc` returns `NULL` or a pbuf with a payload of the length asked for, the input
function returns any number. -/
structure PbufEnv where
  alloc : List PbufEvent → (length : ℕ) → Option (Vector UInt8 length)
  input : List PbufEvent → Instance → NetifRef → PbufRef → ℤ

abbrev PbufM := EStateM Stop PbufWorld

variable (env : PbufEnv)

/-- `pbuf_alloc(PBUF_RAW, length, PBUF_RAM)` -/
def pbufAlloc (length : ℕ) : PbufM (Option PbufRef) := do
  let s ← get
  match env.alloc s.log length with
  | none =>
    set { s with log := .alloc length none :: s.log }
    return none
  | some fresh =>
    set { s with
      payload := Function.update s.payload s.count fresh.toList
      count := s.count+1
      log := .alloc length (some s.count) :: s.log }
    return some s.count

/-- `pbuf.payload`. cffi follows the pointer without a check. -/
def pbufPayload : Option PbufRef → PbufM PbufRef
  | some p => pure p
  | none => throw (.fault .nullDereference)

/-- `ffi.memmove(dest, src, n)` -/
def memmove (dest : PbufRef) (src : Bytes) (n : ℕ) : PbufM Unit :=
  modify fun s => { s with
    payload := Function.update s.payload dest (src.take n ++ (s.payload dest).drop n) }

/-- `self.netif.input(pbuf, self.netif)`. cffi checks a function pointer before it calls it. -/
def callInput (netif : NetifRef) (p : PbufRef) : PbufM ℤ := do
  let s ← get
  match s.input netif with
  | none => throw (.raised (.runtimeError "cannot call null function pointer"))
  | some lwip =>
    let ret := env.input s.log lwip netif p
    set { s with log := .input netif p (s.payload p) ret :: s.log }
    return ret

-- Nothing looks at what `pbuf_alloc` and the input function return.
def Netif.input (self : Netif) (payload : Bytes) : PbufM ℤ := do
  let length ← lift ((toUnsigned 16 payload.length).mapError Stop.raised)
  let pbuf ← pbufAlloc env length
  let dest ← pbufPayload pbuf
  memmove dest payload payload.length
  callInput env self.netif dest

/-- What happens in a process: interfaces are added and removed, packets are pushed in. -/
inductive InputStep
  | netifs (fields : NetifRef → Option Instance)
  | input (self : Netif) (payload : Bytes)

/-- An exception ends the call only, a fault ends the process. -/
def PbufWorld.after : EStateM.Result Stop PbufWorld ℤ → PbufWorld
  | .ok _ t => t
  | .error (.raised _) t => t
  | .error (.fault f) t => { t with fault := some f }

def InputStep.exec (step : InputStep) (s : PbufWorld) : PbufWorld :=
  if s.fault.isSome then s
  else match step with
    | .netifs fields => { s with input := fields }
    | .input self payload => .after (self.input env payload s)

def inputRun (steps : List InputStep) (s : PbufWorld) : PbufWorld :=
  steps.foldl (fun t step => step.exec env t) s

def allocated (log : List PbufEvent) : List PbufRef :=
  log.filterMap fun
    | .alloc _ p => p
    | _ => none

/-- How often the stack took the pbuf. -/
def taken (p : PbufRef) (log : List PbufEvent) : ℕ :=
  log.countP fun
    | .input _ q _ ret => q = p ∧ ret = ERR_OK
    | _ => false

def freed (p : PbufRef) (log : List PbufEvent) : ℕ := log.count (.free p)

/-- The process runs, and every pbuf allocated was either taken or freed, once. -/
structure Balanced (s : PbufWorld) : Prop where
  running : s.fault = none
  owned : ∀ p ∈ allocated s.log, taken p s.log + freed p s.log = 1

section Ledger

variable {p q : PbufRef} {log : List PbufEvent}

@[simp] theorem allocated_cons_alloc (length : ℕ) (p : PbufRef) (log : List PbufEvent) :
    allocated (.alloc length (some p) :: log) = p :: allocated log := rfl

@[simp] theorem allocated_cons_input (netif : NetifRef) (content : Bytes) (ret : ℤ) :
    allocated (.input netif p content ret :: log) = allocated log := rfl

@[simp] theorem taken_cons_alloc (length : ℕ) (r : Option PbufRef) :
    taken p (.alloc length r :: log) = taken p log := by
  simp [taken]

@[simp] theorem taken_cons_input (netif : NetifRef) (content : Bytes) (ret : ℤ) :
    taken p (.input netif q content ret :: log) =
      taken p log + if q = p ∧ ret = ERR_OK then 1 else 0 := by
  simp [taken,List.countP_cons]

@[simp] theorem freed_cons_alloc (length : ℕ) (r : Option PbufRef) :
    freed p (.alloc length r :: log) = freed p log := by
  simp [freed]

@[simp] theorem freed_cons_input (netif : NetifRef) (content : Bytes) (ret : ℤ) :
    freed p (.input netif q content ret :: log) = freed p log := by
  simp [freed]

end Ledger

/-- The log is about pbufs that were allocated. -/
structure Known (s : PbufWorld) : Prop where
  allocated : ∀ p ∈ allocated s.log, p < s.count
  taken : ∀ p, s.count ≤ p → taken p s.log = 0
  freed : ∀ p, s.count ≤ p → freed p s.log = 0

theorem known_init : Known PbufWorld.init := ⟨by simp [PbufWorld.init,LwipPy.allocated],
  fun _ _ => rfl,fun _ _ => rfl⟩

theorem balanced_init : Balanced PbufWorld.init := ⟨rfl,by simp [PbufWorld.init,allocated]⟩

/-- The world with one more pbuf, which holds the payload. -/
def PbufWorld.filled (s : PbufWorld) (payload : Bytes) : PbufWorld :=
  { s with
    payload := Function.update s.payload s.count payload
    count := s.count+1
    log := .alloc payload.length (some s.count) :: s.log }

/-- The world after the input function of an interface was called with the newest pbuf. -/
def PbufWorld.handed (s : PbufWorld) (netif : NetifRef) (payload : Bytes) (ret : ℤ) : PbufWorld :=
  { s.filled payload with log := .input netif s.count payload ret :: (s.filled payload).log }

theorem toUnsigned16_long {n : ℕ} (h : 65535 < n) : toUnsigned 16 n = .error .overflowError := by
  have hno : ¬ (0 ≤ (n : ℤ) ∧ (n : ℤ) < 2^16) := by
    norm_num
    omega
  simp only [toUnsigned,hno,if_false]

theorem toUnsigned16_short {n : ℕ} (h : ¬ 65535 < n) : toUnsigned 16 n = .ok n := by
  have hlt : n < 2^16 := by
    norm_num
    omega
  exact toUnsigned_ok.mpr ⟨rfl,hlt⟩

variable {env} in
/-- All that a call of `Netif.input` can do. -/
theorem input_run (self : Netif) (payload : Bytes) (s : PbufWorld) :
    self.input env payload s =
      if 65535 < payload.length then .error (.raised .overflowError) s
      else match env.alloc s.log payload.length with
        | none => .error (.fault .nullDereference)
          { s with log := .alloc payload.length none :: s.log }
        | some _ => match s.input self.netif with
          | none => .error (.raised (.runtimeError "cannot call null function pointer"))
            (s.filled payload)
          | some lwip =>
            let ret := env.input (s.filled payload).log lwip self.netif s.count
            .ok ret (s.handed self.netif payload ret) := by
  by_cases hlong : 65535 < payload.length
  · rw [if_pos hlong,Netif.input,toUnsigned16_long hlong]
    rfl
  · rw [if_neg hlong,Netif.input,toUnsigned16_short hlong]
    cases halloc : env.alloc s.log payload.length with
    | none => simp [bind_apply,map_run,Except.mapError,pbufAlloc,halloc,pbufPayload]
    | some fresh =>
      have hcopy : payload.take payload.length ++ fresh.toList.drop payload.length = payload := by
        simp
      cases hinput : s.input self.netif <;>
        simp only [bind_apply,Except.mapError,pbufAlloc,halloc,pbufPayload,memmove,callInput,hinput,
          PbufWorld.filled,PbufWorld.handed,lift_ok,get_apply,set_apply,modify_apply,pure_apply,
          throw_apply,Function.update_self,Function.update_idem,hcopy]

def errorOf {ε α : Type} : Except ε α → Option ε
  | .ok _ => none
  | .error e => some e

variable {env} in
/-- With memory for the pbuf, `input` raises where its section under the core lock does. -/
theorem input_section (inet : Inet) (self : Netif) (payload : Bytes) {s : PbufWorld}
    (halloc : (env.alloc s.log payload.length).isSome = true) :
    raised (self.input env payload) s =
      (errorOf (self.section inet (s.input self.netif) (.input payload))).map .raised := by
  obtain ⟨fresh,hfresh⟩ := Option.isSome_iff_exists.mp halloc
  have hsome : ∀ lwip, self.section inet (some lwip) (.input payload) =
      (toUnsigned 16 payload.length >>= fun _ =>
        .ok ⟨lwip,.ok (.tcpipInput self.netif payload)⟩) := fun _ => rfl
  have hnone : self.section inet none (.input payload) =
      (toUnsigned 16 payload.length >>= fun _ =>
        .error (.runtimeError "cannot call null function pointer")) := rfl
  rw [raised,input_run]
  by_cases hlong : 65535 < payload.length
  · rw [if_pos hlong]
    cases s.input self.netif with
    | none =>
      rw [hnone,toUnsigned16_long hlong]
      rfl
    | some lwip =>
      rw [hsome,toUnsigned16_long hlong]
      rfl
  · rw [if_neg hlong,hfresh]
    cases s.input self.netif with
    | none =>
      rw [hnone,toUnsigned16_short hlong]
      rfl
    | some lwip =>
      rw [hsome,toUnsigned16_short hlong]
      rfl

/-- lwIP takes what the step hands over: a payload that is not too long gets a pbuf, the interface
has an input function, and this returns `ERR_OK`. -/
def InputStep.Accepted (step : InputStep) (s : PbufWorld) : Prop :=
  match step with
  | .netifs _ => True
  | .input self payload => 65535 < payload.length ∨
      (env.alloc s.log payload.length).isSome = true ∧
      ∃ lwip, s.input self.netif = some lwip ∧
        env.input (s.filled payload).log lwip self.netif s.count = ERR_OK

section Steps

variable {env} {s : PbufWorld}

theorem balanced_filled (hk : Known s) {payload : Bytes} (h : Balanced (s.filled payload)) :
    False := by
  have hnew := h.owned s.count List.mem_cons_self
  simp [PbufWorld.filled,hk.taken s.count le_rfl,hk.freed s.count le_rfl] at hnew

theorem known_filled (hk : Known s) (payload : Bytes) : Known (s.filled payload) := by
  refine ⟨fun p hp => ?_,fun p hp => ?_,fun p hp => ?_⟩
  · rcases List.mem_cons.mp hp with rfl | hp
    · exact Nat.lt_succ_self _
    · exact Nat.lt_succ_of_lt (hk.allocated p hp)
  · simpa [PbufWorld.filled] using hk.taken p (Nat.le_of_succ_le hp)
  · simpa [PbufWorld.filled] using hk.freed p (Nat.le_of_succ_le hp)

theorem known_handed (hk : Known s) (netif : NetifRef) (payload : Bytes) (ret : ℤ) :
    Known (s.handed netif payload ret) := by
  have hfilled := known_filled hk payload
  refine ⟨hfilled.allocated,fun p hp => ?_,fun p hp => ?_⟩
  · have hne : s.count ≠ p := Nat.ne_of_lt hp
    simpa [PbufWorld.handed,hne] using hfilled.taken p hp
  · simpa [PbufWorld.handed] using hfilled.freed p hp

/-- The pbuf handed over is settled exactly if the stack took it. -/
theorem balanced_handed (hk : Known s) (hs : Balanced s) (netif : NetifRef) (payload : Bytes)
    (ret : ℤ) : Balanced (s.handed netif payload ret) ↔ ret = ERR_OK := by
  constructor
  · intro h
    by_contra hret
    have hnew := h.owned s.count List.mem_cons_self
    simp [PbufWorld.handed,PbufWorld.filled,hk.taken s.count le_rfl,hk.freed s.count le_rfl,hret]
      at hnew
  · rintro rfl
    refine ⟨hs.running,fun p hp => ?_⟩
    rcases List.mem_cons.mp hp with rfl | hp
    · simp [PbufWorld.handed,PbufWorld.filled,hk.taken s.count le_rfl,hk.freed s.count le_rfl]
    · have hne : s.count ≠ p := Nat.ne_of_gt (hk.allocated p hp)
      simpa [PbufWorld.handed,PbufWorld.filled,hne] using hs.owned p hp

theorem exec_input (halive : s.fault.isSome = false) (self : Netif) (payload : Bytes) :
    (InputStep.input self payload).exec env s = .after (self.input env payload s) := by
  rw [InputStep.exec,halive]
  rfl

/-- One step from a balanced world. -/
theorem exec_balanced (hk : Known s) (hs : Balanced s) (step : InputStep) :
    (Balanced (step.exec env s) ↔ step.Accepted env s) ∧
    (Balanced (step.exec env s) → Known (step.exec env s)) := by
  have halive : s.fault.isSome = false := by simp [hs.running]
  cases step with
  | netifs fields =>
    have hrun : (InputStep.netifs fields).exec env s = { s with input := fields } := by
      simp [InputStep.exec,halive]
    rw [hrun]
    exact ⟨iff_of_true ⟨hs.running,hs.owned⟩ trivial,fun _ => ⟨hk.allocated,hk.taken,hk.freed⟩⟩
  | input self payload =>
    rw [exec_input halive,input_run,InputStep.Accepted]
    by_cases hlong : 65535 < payload.length
    · simp [hlong,hs,hk,PbufWorld.after]
    · cases halloc : env.alloc s.log payload.length with
      | none =>
        have hdead : ∀ t, ¬ Balanced (.after (.error (.fault .nullDereference) t)) :=
          fun t h => nomatch h.running
        simp [hlong,hdead]
      | some fresh =>
        cases hinput : s.input self.netif with
        | none =>
          have hleak : ¬ Balanced (s.filled payload) := balanced_filled hk
          simp [hlong,hleak,PbufWorld.after]
        | some lwip => simp [hlong,balanced_handed hk hs,known_handed hk,PbufWorld.after]

/-- Only payloads reach an input function, and only the input function of the interface they
were pushed into. -/
theorem exec_content (env : PbufEnv) (self : Netif) (payload : Bytes) (s : PbufWorld) :
    ∃ new, ((InputStep.input self payload).exec env s).log = new ++ s.log ∧
      ∀ netif p content ret, .input netif p content ret ∈ new →
        netif = self.netif ∧ content = payload := by
  cases halive : s.fault.isSome with
  | true => exact ⟨[],by simp [InputStep.exec,halive],by simp⟩
  | false =>
    rw [exec_input halive,input_run]
    by_cases hlong : 65535 < payload.length
    · exact ⟨[],by simp [hlong,PbufWorld.after],by simp⟩
    · cases halloc : env.alloc s.log payload.length with
      | none =>
        exact ⟨[.alloc payload.length none],by simp [hlong,PbufWorld.after],by simp⟩
      | some fresh =>
        cases hinput : s.input self.netif with
        | none =>
          exact ⟨[.alloc payload.length (some s.count)],
            by simp [hlong,PbufWorld.after,PbufWorld.filled],by simp⟩
        | some lwip =>
          obtain ⟨ret,hret⟩ :
              ∃ ret, ret = env.input (s.filled payload).log lwip self.netif s.count := ⟨_,rfl⟩
          refine ⟨[.input self.netif s.count payload ret,.alloc payload.length (some s.count)],
            ?_,?_⟩
          · simp [hlong,PbufWorld.after,PbufWorld.handed,PbufWorld.filled,hret]
          · intro netif p content ret hmem
            simp only [List.mem_cons,List.not_mem_nil,or_false,PbufEvent.input.injEq,reduceCtorEq]
              at hmem
            exact ⟨hmem.1,hmem.2.2.1⟩

end Steps

def InputsAccepted : List InputStep → PbufWorld → Prop
  | [], _ => True
  | step::steps, s => step.Accepted env s ∧ InputsAccepted steps (step.exec env s)

/-- From a balanced world a run stays balanced exactly as long as everything is accepted. -/
theorem run_balanced_iff (steps : List InputStep) {s : PbufWorld} (hk : Known s)
    (hs : Balanced s) :
    (∀ done, done <+: steps → Balanced (inputRun env done s)) ↔ InputsAccepted env steps s := by
  induction steps generalizing s with
  | nil =>
    refine iff_of_true (fun done hdone => ?_) trivial
    rw [List.prefix_nil.mp hdone]
    exact hs
  | cons step steps ih =>
    obtain ⟨hiff,hknown⟩ : (Balanced (step.exec env s) ↔ step.Accepted env s) ∧
        (Balanced (step.exec env s) → Known (step.exec env s)) := exec_balanced hk hs step
    constructor
    · intro h
      have hstep : Balanced (step.exec env s) := h [step] (by simp)
      refine ⟨hiff.mp hstep,(ih (hknown hstep) hstep).mp fun done hdone => ?_⟩
      exact h (step::done) (by simpa using hdone)
    · rintro ⟨haccepted,hrest⟩ done hdone
      have hstep := hiff.mpr haccepted
      cases done with
      | nil => exact hs
      | cons step' done =>
        obtain ⟨rfl,hdone'⟩ := List.cons_prefix_cons.mp hdone
        exact (ih (hknown hstep) hstep).mpr hrest done hdone'

/-- In every run of `Netif.input` calls on interfaces in any state, what reaches an input function
is the payload; and no null pointer is followed and every pbuf allocated is taken or freed once, in
every state of the run, exactly if lwIP takes whatever is handed over. -/
theorem input_balanced_iff (steps : List InputStep) :
    (∀ (done : List InputStep) (self : Netif) (payload : Bytes),
      let s := inputRun env done PbufWorld.init
      ∃ new, (inputRun env (done ++ [.input self payload]) PbufWorld.init).log = new ++ s.log ∧
        ∀ netif p content ret, .input netif p content ret ∈ new →
          netif = self.netif ∧ content = payload) ∧
    ((∀ done, done <+: steps → Balanced (inputRun env done PbufWorld.init)) ↔
      InputsAccepted env steps PbufWorld.init) := by
  refine ⟨fun done self payload => ?_,run_balanced_iff env steps known_init balanced_init⟩
  obtain ⟨new,hlog,hnew⟩ := exec_content env self payload (inputRun env done .init)
  refine ⟨new,?_,hnew⟩
  rw [inputRun,List.foldl_append]
  exact hlog

/-- An lwIP with memory for one pbuf, whose input function returns `ERR_MEM`. -/
def fullEnv : PbufEnv where
  alloc log length := if log = [] then some (Vector.replicate length 0) else none
  input _ _ _ _ := -1

def fullSteps : List InputStep :=
  [.netifs fun _ => some 0,.input ⟨0,0⟩ [69,0],.input ⟨0,0⟩ [69,1]]

/-- The first packet is refused and its pbuf belongs to nobody, the second one gets none. -/
theorem input_leaks_and_faults :
    (inputRun fullEnv (fullSteps.take 2) PbufWorld.init).log =
      [.input 0 0 [69,0] (-1),.alloc 2 (some 0)] ∧
    (inputRun fullEnv fullSteps PbufWorld.init).fault = some .nullDereference ∧
    ¬ ∀ (env : PbufEnv) (steps : List InputStep), Balanced (inputRun env steps PbufWorld.init) := by
  have hfault : (inputRun fullEnv fullSteps PbufWorld.init).fault = some .nullDereference := by
    decide +kernel
  refine ⟨by decide +kernel,hfault,fun h => ?_⟩
  have halive := (h fullEnv fullSteps).running
  rw [hfault] at halive
  cases halive

end LwipPy
