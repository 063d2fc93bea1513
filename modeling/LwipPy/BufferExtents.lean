import LwipPy.MethodCalls
import LwipPy.Receive

/-! How many bytes of a buffer the methods of a `Socket` offer to lwIP. They pass on `len`, which
counts entries; lwIP counts bytes. -/
namespace LwipPy

open Program

namespace Buffer

theorem offered_eq_iff (env : Env) (b : Buffer) : b.offered env = b.bytes ↔ b.Bytewise := by
  constructor
  · intro h
    have hlen := congrArg List.length h
    rwa [b.length_offered] at hlen
  · exact fun h => h.offered env

/-- There are entries, but they have no bytes. -/
def Hollow (b : Buffer) : Prop := b.bytes = [] ∧ 0 < b.len

instance (b : Buffer) : Decidable b.Hollow := inferInstanceAs (Decidable (_ ∧ _))

theorem len_le {b : Buffer} (h : ¬ b.Hollow) : b.len ≤ b.bytes.length := by
  rw [b.whole]
  rcases Nat.eq_zero_or_pos b.entry with hentry | hentry
  · have hnil : b.bytes = [] := by
      rw [← List.length_eq_zero_iff,b.whole,hentry,Nat.mul_zero]
    have hlen : ¬ 0 < b.len := fun hpos => h ⟨hnil,hpos⟩
    omega
  · exact Nat.le_mul_of_pos_right _ hentry

end Buffer

theorem length_contents (buffers : List Buffer) :
    (contents buffers).length = capacity buffers := by
  simp [contents,capacity,List.length_flatMap]

/-- The lengths of the buffers a call offers to lwIP. -/
def Call.offers : Call → List ℕ
  | .on _ (.send data _) => [data.length]
  | .on _ (.sendto data _ _ _) => [data.length]
  | .on _ (.sendmsg _ iov _) => iov.map List.length
  | .on _ (.recv len _) => [len.toNat]
  | .on _ (.recvfrom len _ _) => [len.toNat]
  | .on _ (.recvmsg _ iov _) => iov
  | _ => []

/-- Each buffer is offered for no more bytes than it has. -/
def Call.Within (buffers : List Buffer) (c : Call) : Prop :=
  List.Forall₂ (fun k b => k ≤ b.bytes.length) c.offers buffers

/-- Each buffer is offered for no more bytes than it has entries, and for some if it has any. -/
def Call.Counts (buffers : List Buffer) (c : Call) : Prop :=
  List.Forall₂ (fun k b => k ≤ b.len ∧ (0 < b.len → 0 < k)) c.offers buffers

/-- An offer within the entries is within the bytes, unless an entry has none. -/
theorem Call.Counts.within_iff {buffers : List Buffer} {c : Call} (h : c.Counts buffers) :
    c.Within buffers ↔ ∀ b ∈ buffers, ¬ b.Hollow := by
  rw [Call.Counts] at h
  rw [Call.Within]
  generalize c.offers = offers at h ⊢
  induction h with
  | nil => simp
  | @cons k b ks buffers hk hrest ih =>
    have hhead : k ≤ b.bytes.length ↔ ¬ b.Hollow := by
      constructor
      · rintro hle ⟨hnil,hpos⟩
        have hk₀ := hk.2 hpos
        rw [hnil] at hle
        exact absurd hle (Nat.not_le_of_lt hk₀)
      · exact fun hb => hk.1.trans (Buffer.len_le hb)
    rw [List.forall₂_cons,List.forall_mem_cons,hhead,ih]

/-- Pieces within their buffers that make up the contents are the buffers' bytes. -/
theorem lengths_of_total {lengths : List ℕ} {buffers : List Buffer}
    (h : List.Forall₂ (fun k b => k ≤ b.bytes.length) lengths buffers)
    (htotal : lengths.sum = capacity buffers) :
    lengths = buffers.map fun b => b.bytes.length := by
  have hle : ∀ {lengths : List ℕ} {buffers : List Buffer},
      List.Forall₂ (fun k b => k ≤ b.bytes.length) lengths buffers →
        lengths.sum ≤ capacity buffers := by
    intro lengths buffers h
    rw [← List.forall₂_map_right_iff (f := fun b : Buffer => b.bytes.length)] at h
    exact h.sum_le_sum
  induction h with
  | nil => rfl
  | @cons k b ks buffers hk hrest ih =>
    have hsum := hle hrest
    rw [capacity,List.map_cons,List.sum_cons,List.sum_cons] at htotal
    rw [capacity] at hsum
    rw [List.map_cons,ih (by rw [capacity]; omega)]
    congr 1
    omega

/-- The pieces offered are within the buffers and make up their contents. -/
theorem flatten_offered_iff (env : Env) (buffers : List Buffer) :
    (buffers.map (Buffer.offered env)).flatten = contents buffers ∧
      List.Forall₂ (fun k b => k ≤ b.bytes.length) (buffers.map Buffer.len) buffers ↔
    ∀ b ∈ buffers, b.Bytewise := by
  constructor
  · rintro ⟨h,hwithin⟩
    have hlen := congrArg List.length h
    rw [length_contents,List.length_flatten,List.map_map] at hlen
    have hsum : (buffers.map Buffer.len).sum = capacity buffers := by
      rw [← hlen]
      exact congrArg List.sum (List.map_congr_left fun b _ => (b.length_offered env).symm)
    exact List.map_inj_left.mp (lengths_of_total hwithin hsum)
  · intro h
    refine ⟨?_,?_⟩
    · rw [contents,List.flatMap,List.map_congr_left fun b hb => (h b hb).offered env]
    · rw [List.forall₂_map_left_iff,List.forall₂_same]
      exact fun b hb => (h b hb).le

/-- The `nbytes` that `recv_into` passes on, and the two it rejects. -/
theorem intoLength_eq (b : Buffer) (nbytes : ℤ) : Socket.intoLength b nbytes =
    if nbytes < 0 then .error (.valueError "negative buffersize in recv_into")
    else if nbytes = 0 then .ok b.len
    else if b.len < nbytes then .error (.valueError "buffer too small for requested bytes")
    else .ok nbytes := by
  rw [Socket.intoLength]
  by_cases hneg : nbytes < 0
  · simp only [hneg,if_true]
    rfl
  · by_cases hzero : nbytes = 0
    · simp only [hzero,lt_irrefl,if_true,if_false]
      rfl
    · simp only [hneg,hzero,if_false]
      split_ifs <;> rfl

theorem intoLength_le {b : Buffer} {nbytes n : ℤ} (h : Socket.intoLength b nbytes = .ok n) :
    0 ≤ n ∧ n ≤ b.len ∧ (0 < b.len → 0 < n) := by
  rw [intoLength_eq] at h
  split_ifs at h with hneg hzero hsmall
  · cases h
    omega
  · cases h
    omega

def Method.buffers : Method → Option (List Buffer)
  | .recvInto b _ _ => some [b]
  | .recvfromInto b _ _ => some [b]
  | .recvmsgInto bs _ _ => some bs
  | .send b _ => some [b]
  | .sendall b _ _ => some [b]
  | .sendto b _ _ => some [b]
  | .sendmsg bs _ _ _ => some bs
  | _ => none

theorem counts_one {c : Call} {b : Buffer} {k : ℕ} (hc : c.offers = [k]) (hk : k ≤ b.len)
    (hpos : 0 < b.len → 0 < k) : c.Counts [b] := by
  rw [Call.Counts,hc]
  exact .cons ⟨hk,hpos⟩ .nil

theorem counts_all {c : Call} {buffers : List Buffer} (hc : c.offers = buffers.map Buffer.len) :
    c.Counts buffers := by
  rw [Call.Counts,hc,List.forall₂_map_left_iff,List.forall₂_same]
  exact fun b _ => ⟨le_refl _,id⟩

/-- The calls of a method count the entries of its buffers. -/
theorem counts_of_makes {env : Env} {m : Method} {buffers : List Buffer}
    (h : m.buffers = some buffers) {c : SockCall} (hc : m.Makes env c) (s : ℤ) :
    (Call.on s c).Counts buffers := by
  cases m with
  | recvInto b n flags =>
    cases h
    obtain ⟨k,hk,rfl⟩ := hc
    obtain ⟨h₀,hle,hpos⟩ := intoLength_le hk
    exact counts_one rfl (by omega) (by omega)
  | recvfromInto b n flags =>
    cases h
    obtain ⟨k,l,hk,rfl⟩ := hc
    obtain ⟨h₀,hle,hpos⟩ := intoLength_le hk
    exact counts_one rfl (by omega) (by omega)
  | recvmsgInto bs anc flags =>
    cases h
    obtain ⟨l,rfl⟩ := hc
    exact counts_all rfl
  | send b flags =>
    cases h
    cases hc
    exact counts_one rfl (b.length_offered env).le fun hb => (b.length_offered env).symm ▸ hb
  | sendall b flags fuel =>
    cases h
    obtain ⟨n,hn,rfl⟩ := hc
    have hlen : ((b.drop n).offered env).length = b.len-n := (b.drop n).length_offered env
    exact counts_one rfl (by omega) (by omega)
  | sendto b flags a =>
    cases h
    obtain ⟨sa,_,rfl⟩ := hc
    exact counts_one rfl (b.length_offered env).le fun hb => (b.length_offered env).symm ▸ hb
  | sendmsg bs anc flags a =>
    cases h
    obtain ⟨name,rfl⟩ := hc
    refine counts_all ?_
    simp [Call.offers]
  | _ => cases h

/-- A call of a method offers more bytes than a buffer has exactly if an entry has none. -/
theorem method_within_iff (env : Env) (self : Ref) {m : Method} {buffers : List Buffer}
    (h : m.buffers = some buffers) (w : World) :
    ∀ e ∈ newEvents w (final (m.exec env self) w),
      (e.call.Within buffers ↔ ∀ b ∈ buffers, ¬ b.Hollow) := by
  obtain ⟨_,_,new,hlog,hnew⟩ := method_makes env self m w
  rw [newEvents_append hlog]
  intro e he
  obtain ⟨_,_,c,hc,hcall⟩ := hnew e he
  rw [hcall]
  exact (counts_of_makes h hc _).within_iff

section Extents

variable {env : Env} {self : Ref} {w : World} {flags : ℤ} {b : Buffer} {buffers : List Buffer}

/-- The program raises `ValueError` and has done nothing else. -/
def Rejects {α : Type} (m : PyM α) (w : World) : Prop :=
  ∃ msg, m w = .error (.valueError msg) w

theorem not_rejects_of_calls {α : Type} {m : PyM α} {c : SockCall}
    (h : Socket.Calls env self m c w) : ¬ Rejects m w := by
  rintro ⟨msg,hrun⟩
  exact Socket.not_calls_of_same (by rw [final_of_error hrun]) h

def intoExtent (b : Buffer) (nbytes : ℤ) : ℤ :=
  if nbytes = 0 then b.bytes.length else nbytes

/-- A method that fills a buffer rejects the lengths that do not fit, and offers the others. -/
def FillsExtent {α : Type} (env : Env) (self : Ref) (m : PyM α) (call : ℤ → SockCall)
    (b : Buffer) (nbytes : ℤ) (w : World) : Prop :=
  (Rejects m w ↔ nbytes < 0 ∨ b.bytes.length < nbytes) ∧
  (0 ≤ nbytes → nbytes ≤ b.bytes.length → Socket.Calls env self m (call (intoExtent b nbytes)) w)

/-- The lengths for which it does no harm to count entries. -/
def IntoFits (b : Buffer) (nbytes : ℤ) : Prop :=
  nbytes < 0 ∨ nbytes = 0 ∧ b.Bytewise ∨
    0 < nbytes ∧ (nbytes ≤ b.len ↔ nbytes ≤ b.bytes.length)

theorem calls_args_iff {α : Type} {name : String} (henter : Enters env name w)
    {args : Except PyErr SockCall} {c c' : SockCall} (hargs : args = .ok c) {f : Reply → PyM α}
    (hf : ∀ r t, (final (f r) t).log = t.log) :
    Socket.Calls env self (Socket.checked env self name args >>= f) c' w ↔ c = c' := by
  rw [Socket.calls_checked_iff hf,hargs,Except.ok.injEq]
  exact and_iff_right henter

theorem log_lift_pure {α β : Type} (x : Except PyErr α) (g : α → β) (t : World) :
    (final (lift x >>= fun a => (pure (g a) : PyM β)) t).log = t.log := by
  cases x <;> rfl

theorem calls_lift_ok {α β : Type} {x : Except PyErr α} {a : α} (h : x = .ok a) {g : α → PyM β}
    {c : SockCall} :
    Socket.Calls env self (lift x >>= g) c w ↔ Socket.Calls env self (g a) c w := by
  rw [Socket.calls_lift_iff,h]
  simp

variable (henter : ∀ name, Enters env name w) (hflags : CInt flags)
include henter hflags

theorem calls_send_iff :
    Socket.Calls env self (Socket.send env self b flags) (.send b.bytes flags) w ↔
      b.Bytewise := by
  have hargs : (return SockCall.send (b.offered env) (← toSigned 32 flags)) =
      (.ok (.send (b.offered env) flags) : Except PyErr SockCall) := by
    rw [hflags.toSigned]
    rfl
  refine (calls_args_iff (henter "send") hargs fun _ _ => rfl).trans ?_
  rw [SockCall.send.injEq,b.offered_eq_iff env]
  exact and_iff_left rfl

theorem calls_sendto_iff {address : Address} {sa : SockAddr}
    (haddress : SockAddr.parseAddress env.host address AF_UNSPEC = .ok sa) :
    Socket.Calls env self (Socket.sendto env self b flags address)
      (.sendto b.bytes flags sa sa.len) w ↔ b.Bytewise := by
  have hargs : (return SockCall.sendto (b.offered env) (← toSigned 32 flags) sa sa.len) =
      (.ok (.sendto (b.offered env) flags sa sa.len) : Except PyErr SockCall) := by
    rw [hflags.toSigned]
    rfl
  refine (calls_lift_ok haddress).trans
    ((calls_args_iff (henter "sendto") hargs fun _ _ => rfl).trans ?_)
  rw [SockCall.sendto.injEq,b.offered_eq_iff env]
  simp

def messageName (env : Env) : Option Address → Except PyErr (Option SockAddr)
  | some address => (SockAddr.parseAddress env.host address AF_UNSPEC).map some
  | none => .ok none

omit henter hflags in
theorem sendmsg_run (hlen : buffers.length ≤ IOV_MAX) {address : Option Address}
    {name : Option SockAddr} (haddress : messageName env address = .ok name) :
    Socket.sendmsg env self buffers false flags address w =
      (do
        let r ← Socket.checked env self "sendmsg"
          (return .sendmsg name (buffers.map (Buffer.offered env)) (← toSigned 32 flags))
        return r.ret : PyM ℤ) w := by
  rw [Socket.sendmsg,if_neg (by decide),if_neg (by omega)]
  cases address with
  | none =>
    cases haddress
    rfl
  | some a =>
    rw [messageName] at haddress
    cases hparse : SockAddr.parseAddress env.host a AF_UNSPEC with
    | error e => simp [hparse,Except.map] at haddress
    | ok sa =>
      rw [hparse] at haddress
      cases haddress
      simp only [hparse]
      rfl

/-- `sendmsg` offers the contents of the buffers, a piece of each. -/
theorem calls_sendmsg_iff (hlen : buffers.length ≤ IOV_MAX) {address : Option Address}
    {name : Option SockAddr} (haddress : messageName env address = .ok name) :
    (∃ iov, iov.flatten = contents buffers ∧
      List.Forall₂ (fun piece b => piece.length ≤ b.bytes.length) iov buffers ∧
      Socket.Calls env self (Socket.sendmsg env self buffers false flags address)
        (.sendmsg name iov flags) w) ↔ ∀ b ∈ buffers, b.Bytewise := by
  have hargs : (return SockCall.sendmsg name (buffers.map (Buffer.offered env)) (← toSigned 32 flags)) =
      (.ok (.sendmsg name (buffers.map (Buffer.offered env)) flags) : Except PyErr SockCall) := by
    rw [hflags.toSigned]
    rfl
  have hcalls : ∀ iov, Socket.Calls env self (Socket.sendmsg env self buffers false flags address)
      (.sendmsg name iov flags) w ↔ buffers.map (Buffer.offered env) = iov := by
    intro iov
    rw [Socket.Calls,final,sendmsg_run hlen haddress]
    refine (calls_args_iff (henter "sendmsg") hargs fun _ _ => rfl).trans ?_
    simp
  rw [← flatten_offered_iff env]
  have hlengths : List.Forall₂ (fun (piece : Bytes) (b : Buffer) => piece.length ≤ b.bytes.length)
      (buffers.map (Buffer.offered env)) buffers ↔
      List.Forall₂ (fun k b => k ≤ b.bytes.length) (buffers.map Buffer.len) buffers := by
    simp only [List.forall₂_map_left_iff,Buffer.length_offered]
  rw [← hlengths]
  constructor
  · rintro ⟨iov,hflat,hwithin,hcall⟩
    obtain rfl := (hcalls iov).mp hcall
    exact ⟨hflat,hwithin⟩
  · rintro ⟨hflat,hwithin⟩
    exact ⟨_,hflat,hwithin,(hcalls _).mpr rfl⟩

omit henter hflags in
theorem fillsExtent_of_rejects {α : Type} {m : PyM α} {call : ℤ → SockCall} {nbytes : ℤ}
    (h : Rejects m w) :
    FillsExtent env self m call b nbytes w ↔ nbytes < 0 ∨ b.bytes.length < nbytes := by
  rw [FillsExtent,iff_true_left h]
  refine and_iff_left_of_imp fun hn h₀ h₁ => ?_
  omega

omit henter hflags in
/-- Where the method makes a call, the length is to fit and the extent to be right. -/
theorem fillsExtent_of_calls {α : Type} {m : PyM α} {call : ℤ → SockCall} {nbytes n : ℤ}
    (h : ∀ k, Socket.Calls env self m (call k) w ↔ n = k) :
    FillsExtent env self m call b nbytes w ↔
      0 ≤ nbytes ∧ nbytes ≤ b.bytes.length ∧ n = intoExtent b nbytes := by
  have hno : ¬ Rejects m w := not_rejects_of_calls ((h n).mpr rfl)
  rw [FillsExtent,iff_false_left hno,h]
  constructor
  · rintro ⟨hn,hh⟩
    have h₀ : 0 ≤ nbytes := by omega
    have h₁ : nbytes ≤ b.bytes.length := by omega
    exact ⟨h₀,h₁,hh h₀ h₁⟩
  · rintro ⟨h₀,h₁,hh⟩
    exact ⟨by omega,fun _ _ => hh⟩

/-- A method that checks `nbytes` and then makes one call. -/
theorem fillsExtent_iff {α : Type} {name : String} {call : ℤ → SockCall} {f : ℕ → ℤ → SockCall}
    (hcall : Function.Injective call) (hf : ∀ k : ℕ, f k flags = call k) {g : Reply → PyM α}
    (hg : ∀ r t, (final (g r) t).log = t.log) (hsize : b.len < 2^63) (nbytes : ℤ) :
    FillsExtent env self (do
      let n ← lift (Socket.intoLength b nbytes)
      let r ← Socket.checked env self name
        (return f (← toUnsigned 64 n) (← toSigned 32 flags))
      g r) call b nbytes w ↔ IntoFits b nbytes := by
  cases hlen : Socket.intoLength b nbytes with
  | error e =>
    have hmsg : ∃ msg, e = .valueError msg := by
      rw [intoLength_eq] at hlen
      split_ifs at hlen <;> cases hlen <;> exact ⟨_,rfl⟩
    obtain ⟨msg,rfl⟩ := hmsg
    refine (fillsExtent_of_rejects ⟨msg,bind_of_error rfl⟩).trans ?_
    rw [intoLength_eq] at hlen
    split_ifs at hlen with hneg hzero hsmall <;> rw [IntoFits] <;> omega
  | ok n =>
    have hn := intoLength_le hlen
    have hu : toUnsigned 64 n = .ok n.toNat := toUnsigned_ok.mpr ⟨by omega,by omega⟩
    have hargs : (return f (← toUnsigned 64 n) (← toSigned 32 flags)) =
        (.ok (call n) : Except PyErr SockCall) := by
      rw [hu,hflags.toSigned]
      exact congrArg Except.ok ((hf n.toNat).trans (by rw [Int.toNat_of_nonneg hn.1]))
    refine (fillsExtent_of_calls fun k => (calls_lift_ok rfl).trans
      ((calls_args_iff (henter name) hargs hg).trans hcall.eq_iff)).trans ?_
    rw [intoLength_eq] at hlen
    split_ifs at hlen with hneg hzero hsmall
    · cases hlen
      rw [intoExtent,if_pos hzero,IntoFits,Buffer.Bytewise]
      omega
    · cases hlen
      rw [intoExtent,if_neg hzero,IntoFits]
      omega

theorem fills_recvInto_iff (hsize : b.len < 2^63) (nbytes : ℤ) :
    FillsExtent env self (Socket.recvInto env self b nbytes flags) (fun n => .recv n flags) b
      nbytes w ↔ IntoFits b nbytes := by
  have hcall : Function.Injective fun n : ℤ => SockCall.recv n flags := fun n k h => by
    simpa using h
  exact fillsExtent_iff henter hflags hcall (f := fun k flags => .recv k flags) (fun _ => rfl)
    (fun _ _ => rfl) hsize nbytes

theorem fills_recvfromInto_iff (hsize : b.len < 2^63) (nbytes : ℤ) :
    FillsExtent env self (Socket.recvfromInto env self b nbytes flags)
      (fun n => .recvfrom n flags SockAddr.createEmptySockaddrPaddrlen.2) b nbytes w ↔
      IntoFits b nbytes := by
  obtain ⟨fromlen,hlen⟩ : ∃ n, n = SockAddr.createEmptySockaddrPaddrlen.2 := ⟨_,rfl⟩
  have hcall : Function.Injective fun n : ℤ => SockCall.recvfrom n flags fromlen := fun n k h => by
    simpa using h
  rw [hlen] at hcall
  exact fillsExtent_iff henter hflags hcall
    (f := fun k flags => .recvfrom k flags SockAddr.createEmptySockaddrPaddrlen.2) (fun _ => rfl)
    (fun r t => log_lift_pure _ _ t) hsize nbytes

theorem calls_recvmsgInto_iff (hlen : buffers.length ≤ IOV_MAX) :
    Socket.Calls env self (Socket.recvmsgInto env self buffers 0 flags)
      (.recvmsg SockAddr.createEmptySockaddr.len (buffers.map fun b => b.bytes.length) flags) w ↔
      ∀ b ∈ buffers, b.Bytewise := by
  obtain ⟨namelen,hname⟩ : ∃ n, n = SockAddr.createEmptySockaddr.len := ⟨_,rfl⟩
  have hargs : (return SockCall.recvmsg namelen (buffers.map Buffer.len) (← toSigned 32 flags)) =
      (.ok (.recvmsg namelen (buffers.map Buffer.len) flags) : Except PyErr SockCall) := by
    rw [hflags.toSigned]
    rfl
  rw [hname] at hargs
  rw [Socket.recvmsgInto,if_neg (by decide),if_neg (by omega)]
  refine (calls_args_iff (henter "recvmsg") hargs fun r t => log_lift_pure _ _ t).trans ?_
  simp only [SockCall.recvmsg.injEq,true_and,and_true,List.map_inj_left]
  exact Iff.rfl

/-- A run of `sendall` that returns delivers all bytes if `len` counts them; one that raises was
stopped by a failed call or a warning. -/
def DeliversAll (env : Env) (flags : ℤ) (b : Buffer) (w : World) :
    EStateM.Result PyErr World PUnit → Prop
  | .ok _ t => delivered (newEvents w t) = b.bytes ↔ b.Bytewise
  | .error err t => Stopped env flags err (newEvents w t)

omit henter hflags in
theorem sendall_deliversAll (hc : PartialSends env) {fuel : ℕ} (hfuel : b.len ≤ fuel) :
    DeliversAll env flags b w (Socket.sendall env self flags fuel b w) := by
  cases hresult : Socket.sendall env self flags fuel b w with
  | ok a t => exact sendall_delivers_iff hc hfuel hresult
  | error err t =>
    have hrun : Socket.SentAll env self flags b w (Socket.sendall env self flags fuel b w) :=
      Socket.sendall_run hc b fuel hfuel w
    rw [hresult] at hrun
    obtain ⟨new,hlog,_,hstop,_⟩ := hrun
    rw [DeliversAll,newEvents_append hlog]
    exact hstop

end Extents

/-- The methods that take buffers pass `len` on as the number of bytes. They offer the whole extent
exactly if the lengths of the buffers count their bytes, and `recv_into` and `recvfrom_into` also
for the `nbytes` that both or neither of the two numbers allow. They offer more than the buffers
have exactly if a buffer has entries without bytes. -/
theorem byte_extent_iff {env : Env} (self : Ref) {flags : ℤ} {w : World}
    (henter : ∀ name, Enters env name w) (hflags : CInt flags) :
    (∀ b, Socket.Calls env self (Socket.send env self b flags) (.send b.bytes flags) w ↔
      b.Bytewise) ∧
    (∀ b address sa, SockAddr.parseAddress env.host address AF_UNSPEC = .ok sa →
      (Socket.Calls env self (Socket.sendto env self b flags address)
        (.sendto b.bytes flags sa sa.len) w ↔ b.Bytewise)) ∧
    (∀ buffers address name, buffers.length ≤ IOV_MAX → messageName env address = .ok name →
      ((∃ iov, iov.flatten = contents buffers ∧
        List.Forall₂ (fun piece b => piece.length ≤ b.bytes.length) iov buffers ∧
        Socket.Calls env self (Socket.sendmsg env self buffers false flags address)
          (.sendmsg name iov flags) w) ↔ ∀ b ∈ buffers, b.Bytewise)) ∧
    (PartialSends env → ∀ (b : Buffer) fuel, b.len ≤ fuel →
      DeliversAll env flags b w (Socket.sendall env self flags fuel b w)) ∧
    (∀ (b : Buffer) nbytes, b.len < 2^63 →
      (FillsExtent env self (Socket.recvInto env self b nbytes flags) (fun n => .recv n flags) b
        nbytes w ↔ IntoFits b nbytes) ∧
      (FillsExtent env self (Socket.recvfromInto env self b nbytes flags)
        (fun n => .recvfrom n flags SockAddr.createEmptySockaddrPaddrlen.2) b nbytes w ↔
        IntoFits b nbytes)) ∧
    (∀ buffers, buffers.length ≤ IOV_MAX →
      (Socket.Calls env self (Socket.recvmsgInto env self buffers 0 flags)
        (.recvmsg SockAddr.createEmptySockaddr.len (buffers.map fun b => b.bytes.length) flags) w ↔
        ∀ b ∈ buffers, b.Bytewise)) ∧
    (∀ m buffers, Method.buffers m = some buffers →
      ∀ e ∈ newEvents w (final (m.exec env self) w),
        (e.call.Within buffers ↔ ∀ b ∈ buffers, ¬ b.Hollow)) := by
  refine ⟨fun b => calls_send_iff henter hflags,fun b address sa => calls_sendto_iff henter hflags,
    fun buffers address name hlen => calls_sendmsg_iff henter hflags hlen,
    fun hc b fuel => sendall_deliversAll hc,fun b nbytes hsize => ?_,
    fun buffers => calls_recvmsgInto_iff henter hflags,
    fun m buffers hm => method_within_iff env self hm w⟩
  exact ⟨fills_recvInto_iff henter hflags hsize nbytes,
    fills_recvfromInto_iff henter hflags hsize nbytes⟩

/-- Five bytes are sent whole, and one of five bytes is filled whole or for the three asked for. -/
theorem byte_extent_five :
    Socket.Calls (quietEnv pairwiseReply) 0 (Socket.send (quietEnv pairwiseReply) 0 fiveBytes 0)
      (.send [1,2,3,4,5] 0) World.init ∧
    Socket.Calls (quietEnv pairwiseReply) 0
      (Socket.recvInto (quietEnv pairwiseReply) 0 fiveBytes 0 0) (.recv 5 0) World.init ∧
    Socket.Calls (quietEnv pairwiseReply) 0
      (Socket.recvInto (quietEnv pairwiseReply) 0 fiveBytes 3 0) (.recv 3 0) World.init := by
  have henter : ∀ name, Enters (quietEnv pairwiseReply) name World.init := fun _ => .inl rfl
  have hflags : CInt 0 := ⟨by norm_num,by norm_num⟩
  obtain ⟨hsend,_,_,_,hinto,_⟩ := byte_extent_iff 0 henter hflags
  have hsize : fiveBytes.len < 2^63 := by norm_num [fiveBytes,Buffer.ofBytes]
  have hzero := (hinto fiveBytes 0 hsize).1.mpr (.inr (.inl ⟨rfl,rfl⟩))
  have hthree := (hinto fiveBytes 3 hsize).1.mpr (.inr (.inr (by decide)))
  exact ⟨(hsend fiveBytes).mpr rfl,hzero.2 le_rfl (by decide),hthree.2 (by decide) (by decide)⟩

def twoItems : Buffer := ⟨[1,2,3,4],2,2,by decide⟩

/-- A view of three rows that have no bytes. -/
def emptyRows : Buffer := ⟨[],3,0,by decide⟩

/-- Of two items of two bytes, two bytes are offered, and a request for all four is refused; of
three rows without bytes, three bytes are offered. -/
theorem items_offered_as_bytes :
    (final (Socket.send (quietEnv pairwiseReply) 0 twoItems 0) World.init).log.map Event.call =
      [.on (-1) (.send [1,2] 0)] ∧
    (final (Socket.recvInto (quietEnv pairwiseReply) 0 twoItems 0 0)
      World.init).log.map Event.call = [.on (-1) (.recv 2 0)] ∧
    raised (Socket.recvInto (quietEnv pairwiseReply) 0 twoItems 4 0) World.init =
      some (.valueError "buffer too small for requested bytes") ∧
    (final (Socket.recvInto (quietEnv pairwiseReply) 0 emptyRows 0 0)
      World.init).log.map Event.call = [.on (-1) (.recv 3 0)] ∧
    ¬ ∀ (env : Env) (self : Ref) (b : Buffer) (w : World), env.Quiet →
      Socket.Calls env self (Socket.send env self b 0) (.send b.bytes 0) w := by
  refine ⟨by decide,by decide,by decide,by decide,fun h => ?_⟩
  have hcalls := h (quietEnv pairwiseReply) 0 twoItems World.init (quietEnv_quiet _)
  have hlog : (final (Socket.send (quietEnv pairwiseReply) 0 twoItems 0)
      World.init).log.map Event.call = [.on (-1) (.send [1,2,3,4] 0)] := by
    rw [hcalls]
    rfl
  cases hlog

end LwipPy
