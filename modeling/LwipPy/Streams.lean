import LwipPy.MethodCalls
import LwipPy.BufferExtents

/-! A connection as its two programs see it. lwIP keeps the bytes of a connection in order; that
the bytes which the receiving methods return are those which the sending methods were given, none
lost, none twice, none from another connection, also depends on what the binding does around
each call: which descriptor it passes, how much it offers, and what it makes of the answer. -/
namespace LwipPy

open Program

/-- `MSG_PEEK` leaves the bytes in the queue. -/
def peeks (flags : ℤ) : Bool := Int.land flags MSG_PEEK ≠ 0

namespace SockCall

def space : SockCall → Option ℤ
  | .recv len _ => some len
  | .recvfrom len _ _ => some len
  | .recvmsg _ iov _ => some (iov.sum : ℕ)
  | _ => none

/-- A receiving function takes what it returns out of the queue. -/
def takes : SockCall → Bool
  | .recv _ flags => !peeks flags
  | .recvfrom _ flags _ => !peeks flags
  | .recvmsg _ _ flags => !peeks flags
  | _ => false

def offers : SockCall → Option Bytes
  | .send data _ => some data
  | .sendto data _ _ _ => some data
  | .sendmsg _ iov _ => some iov.flatten
  | _ => none

def transfers (c : SockCall) : Bool := c.space.isSome || c.offers.isSome

/-- The address that lwIP writes is one of the families it knows, or there is none. -/
def Named (r : Reply) : SockCall → Prop
  | .recvfrom _ _ _ => ∃ sa, r.name = some sa ∧ (sa.family = AF_INET ∨ sa.family = AF_INET6)
  | .recvmsg _ _ _ => ∀ sa, r.name = some sa →
      sa.family = AF_UNSPEC ∨ sa.family = AF_INET ∨ sa.family = AF_INET6
  | _ => True

end SockCall

/-- The bytes a call took out of the receive queue. -/
def Event.took (e : Event) : Bytes :=
  match e.call with
  | .on _ c => if c.takes = true ∧ 0 ≤ e.reply.ret then e.reply.data else []
  | _ => []

/-- The bytes a call put into the send queue. -/
def Event.put (e : Event) : Bytes :=
  match e.call with
  | .on _ c => (c.offers.getD []).take e.reply.ret.toNat
  | _ => []

/-- What the calls about `self` moved, the oldest bytes first. -/
def stream (f : Event → Bytes) (self : Ref) : List Event → Bytes
  | [] => []
  | e::log => stream f self log ++ if e.addressee log = some self then f e else []

/-- What lwIP promises for a connection on which `reader` receives what `writer` sends, as far
as this direction goes: no bytes move through the number -1; a receiving function returns the
number of bytes it delivers, which fit; and what it takes goes on where the last one stopped. -/
structure Carries (env : Env) (reader writer : Ref) : Prop where
  closed : ∀ log inst c, c.transfers = true → (env.reply log inst (.on (-1) c)).ret < 0
  delivered : ∀ log inst n c k, holder log (inst,n) = some reader → c.space = some k →
    0 ≤ (env.reply log inst (.on n c)).ret →
    (env.reply log inst (.on n c)).ret = (env.reply log inst (.on n c)).data.length ∧
      ((env.reply log inst (.on n c)).data.length : ℤ) ≤ k ∧ c.Named (env.reply log inst (.on n c))
  ordered : ∀ log inst n c, holder log (inst,n) = some reader → c.takes = true →
    0 ≤ (env.reply log inst (.on n c)).ret →
    stream Event.took reader log <+: stream Event.put writer log →
    stream Event.took reader log ++ (env.reply log inst (.on n c)).data <+:
      stream Event.put writer log

variable (env : Env)

/-- A receiving method, with the bytes that its caller gets and nobody else will get. -/
def Method.reads (self : Ref) : Method → PyM Bytes
  | .recv n flags => (fun data => if peeks flags then [] else data) <$>
      Socket.recv env self n flags
  | .recvInto b n flags => (fun r => if peeks flags then [] else r.2.bytes.take r.1.toNat) <$>
      Socket.recvInto env self b n flags
  | .recvfrom n flags => (fun r => if peeks flags then [] else r.1) <$>
      Socket.recvfrom env self n flags
  | .recvfromInto b n flags =>
      (fun r => if peeks flags then [] else r.2.bytes.take r.1.1.toNat) <$>
      Socket.recvfromInto env self b n flags
  | .recvmsg n anc flags => (fun m => if peeks flags then [] else m.data) <$>
      Socket.recvmsg env self n anc flags
  | .recvmsgInto bs anc flags =>
      (fun m => if peeks flags then [] else (contents m.buffers).take m.nbytes.toNat) <$>
      Socket.recvmsgInto env self bs anc flags
  | m => (fun _ => []) <$> m.exec env self

/-- A sending method, with the bytes that its caller knows to be on their way. -/
def Method.writes (self : Ref) : Method → PyM Bytes
  | .send b flags => (fun n => b.bytes.take n.toNat) <$> Socket.send env self b flags
  | .sendall b flags fuel => (fun _ => b.bytes) <$> Socket.sendall env self flags fuel b
  | .sendto b flags a => (fun n => b.bytes.take n.toNat) <$> Socket.sendto env self b flags a
  | .sendmsg bs anc flags a => (fun n => (contents bs).take n.toNat) <$>
      Socket.sendmsg env self bs anc flags a
  | m => (fun _ => []) <$> m.exec env self

def Method.transfers : Method → Bool
  | .recv .. | .recvInto .. | .recvfrom .. | .recvfromInto .. | .recvmsg .. | .recvmsgInto .. => true
  | .send .. | .sendall .. | .sendto .. | .sendmsg .. => true
  | _ => false

/-- What may be on its way when the method raised: `sendall` does not say how far it came. -/
def Method.unsure : Method → Bytes
  | .sendall b _ _ => b.bytes
  | _ => []

/-- The bytes the operation's caller got from `reader`. -/
def SocketOp.read (reader : Ref) (op : SocketOp) (w : World) : Bytes :=
  match op with
  | .method self m => if self = reader ∧ w.Live self then (value (m.reads env self) w).getD [] else []
  | _ => []

/-- `chunk` are bytes that the operation can have put into `writer`, as its caller knows. -/
def SocketOp.Wrote (writer : Ref) (op : SocketOp) (w : World) (chunk : Bytes) : Prop :=
  match op with
  | .method self m =>
    if self = writer ∧ w.Live self then
      match value (m.writes env self) w with
      | some bytes => chunk = bytes
      | none => chunk <+: m.unsure
    else chunk = []
  | _ => chunk = []

/-- Everything read from `reader` in a run. -/
def readBytes (reader : Ref) : List SocketOp → World → Bytes
  | [], _ => []
  | op::ops, w => op.read env reader w ++ readBytes reader ops (final (op.exec env) w)

/-- What was written to `writer` in a run, one chunk for each operation. -/
inductive WroteAll (writer : Ref) : List SocketOp → World → Bytes → Prop
  | nil (w : World) : WroteAll writer [] w []
  | cons {op : SocketOp} {ops : List SocketOp} {w : World} {chunk rest : Bytes}
      (hop : op.Wrote env writer w chunk) (hops : WroteAll writer ops (final (op.exec env) w) rest) :
      WroteAll writer (op::ops) w (chunk ++ rest)

/-- The lengths of the buffers of the operation count their bytes. -/
def SocketOp.ByteItems : SocketOp → Prop
  | .method _ m => ∀ bs, m.buffers = some bs → ∀ b ∈ bs, b.Bytewise
  | _ => True

/-- `T` was taken from the connection and `A` put into it. -/
structure Conveyed (reader writer : Ref) (T A : Bytes) (w : World) : Prop where
  holding : Holding w
  taken : stream Event.took reader w.log = T
  sent : stream Event.put writer w.log = A
  ordered : T <+: A

/-- The state of the connection at the start of a call of `s`. -/
structure Flow (reader writer s : Ref) (T A : Bytes) (w : World) : Prop
    extends Conveyed reader writer T A w where
  live : w.Live s

/-- A receiving call of `s` returned `r`. What it took goes on from `T`; and where `s` is the
reader, the caller is told the length of what was delivered. -/
structure Got (reader writer s : Ref) (T A : Bytes) (k flags : ℤ) (args : Except PyErr SockCall)
    (r : Reply) (w : World) : Prop where
  flow : Flow reader writer s
    (T ++ if s = reader then (if peeks flags then [] else r.data) else []) A w
  own : s = reader → r.ret = r.data.length ∧ (r.data.length : ℤ) ≤ k ∧
    ∃ c, args = .ok c ∧ c.Named r

section Flow

variable {env} {reader writer self : Ref} {T A : Bytes} {w : World}

theorem Flow.congr (h : Flow reader writer self T A w) {w' : World} (hlog : w'.log = w.log)
    (hs : w'.sockets = w.sockets) (hc : w'.count = w.count) : Flow reader writer self T A w' := by
  refine ⟨⟨?_,?_,?_,h.ordered⟩,?_⟩
  · exact h.holding.congr hlog (fun i => by rw [hs]) hc (h.holding.owned.congr hlog hs hc)
  · rw [hlog]
    exact h.taken
  · rw [hlog]
    exact h.sent
  · rw [World.Live,hs,hc]
    exact h.live

theorem plain_of_transfers {c : SockCall} (hc : c.transfers = true) : c.plain = true := by
  cases c <;> first | rfl | cases hc

theorem took_of_negative {e : Event} (h : e.reply.ret < 0) : e.took = [] := by
  unfold Event.took
  split
  · rw [if_neg (by omega)]
  · rfl

theorem put_of_negative {e : Event} (h : e.reply.ret < 0) : e.put = [] := by
  unfold Event.put
  split
  · rw [Int.toNat_of_nonpos h.le,List.take_zero]
  · rfl

/-- Bytes that a call of `self` moves are moved for `self`, whichever number it passes. -/
theorem stream_event (hcarry : Carries env reader writer)
    (h : Flow reader writer self T A w) {c : SockCall} (hc : c.transfers = true)
    {f : Event → Bytes} (hneg : ∀ e : Event, e.reply.ret < 0 → f e = []) (who : Ref) :
    stream f who (Socket.event env self c w :: w.log) =
      stream f who w.log ++ if self = who then f (Socket.event env self c w) else [] := by
  rw [stream]
  congr 1
  have hlt : (w.sockets self).s = -1 → f (Socket.event env self c w) = [] := by
    intro hs
    refine hneg _ ?_
    have hret := hcarry.closed w.log (w.sockets self).lwip c hc
    rw [← hs] at hret
    exact hret
  rcases addressee_event env h.holding h.live c with hs | haddr
  · rw [hlt hs]
    simp
  · rw [haddr]
    by_cases hw : self = who <;> simp [hw]

/-- The call of a receiving function finds what it takes behind what was taken before. -/
theorem Flow.ordered_event (hcarry : Carries env reader writer)
    (h : Flow reader writer self T A w) (c : SockCall) :
    (T ++ if self = reader then (Socket.event env self c w).took else []) <+:
      A ++ if self = writer then (Socket.event env self c w).put else [] := by
  have hkeep : T <+: A ++ if self = writer then (Socket.event env self c w).put else [] :=
    h.ordered.trans (List.prefix_append _ _)
  by_cases hself : self = reader
  · subst hself
    by_cases htakes : c.takes = true ∧ 0 ≤ (Socket.event env self c w).reply.ret
    · have htransfers : c.transfers = true := by
        cases c <;> first | rfl | cases htakes.1
      have hheld : holder w.log ((w.sockets self).lwip,(w.sockets self).s) = some self := by
        rcases addressee_event env h.holding h.live c with hs | hs
        · have hret := hcarry.closed w.log (w.sockets self).lwip c htransfers
          rw [← hs] at hret
          exact absurd htakes.2 (not_le.mpr hret)
        · exact hs
      have hnext := hcarry.ordered w.log _ _ c hheld htakes.1 htakes.2
      rw [h.taken,h.sent] at hnext
      have htook : (Socket.event env self c w).took = (Socket.event env self c w).reply.data :=
        if_pos htakes
      rw [if_pos rfl,htook]
      exact (hnext h.ordered).trans (List.prefix_append _ _)
    · have htook : (Socket.event env self c w).took = [] := if_neg htakes
      rw [htook,ite_self,List.append_nil]
      exact hkeep
  · rw [if_neg hself,List.append_nil]
    exact hkeep

theorem Flow.called (hcarry : Carries env reader writer) (hf : FreshDescriptors env)
    (h : Flow reader writer self T A w) {c : SockCall} (hc : c.transfers = true) (name : String) :
    Flow reader writer self
      (T ++ if self = reader then (Socket.event env self c w).took else [])
      (A ++ if self = writer then (Socket.event env self c w).put else [])
      (Socket.called env self name c w) := by
  obtain ⟨hobt,hcl⟩ := plain_event env self w (plain_of_transfers hc)
  refine ⟨⟨?_,?_,?_,h.ordered_event hcarry c⟩,h.live⟩
  · exact h.holding.step hf (.call _ (attributed_event env h.live c) hobt hcl rfl rfl rfl)
  · rw [Socket.called_log,stream_event hcarry h hc (fun _ => took_of_negative),h.taken]
  · rw [Socket.called_log,stream_event hcarry h hc (fun _ => put_of_negative),h.sent]

/-- A call that failed moved nothing. -/
theorem Flow.failed (hcarry : Carries env reader writer) (hf : FreshDescriptors env)
    (h : Flow reader writer self T A w) {c : SockCall} (hc : c.transfers = true) {name : String}
    (hret : (Socket.event env self c w).reply.ret < 0) :
    Flow reader writer self T A (Socket.called env self name c w) := by
  have hcalled := h.called hcarry hf hc name
  rw [took_of_negative hret,put_of_negative hret] at hcalled
  simpa using hcalled

variable (hq : env.Quiet) (hf : FreshDescriptors env) (hcarry : Carries env reader writer)
include hq hf hcarry

/-- A call that moves bytes returns what lwIP answered, or it raises and moved nothing. -/
theorem spec_transfer {name : String} {args : Except PyErr SockCall}
    (hargs : ArgsMake (fun c => c.transfers = true) args) :
    Spec (Flow reader writer self T A) (Socket.checked env self name args)
      (fun r t => ∃ c w, args = .ok c ∧ Flow reader writer self T A w ∧
        r = (Socket.event env self c w).reply ∧ 0 ≤ r.ret ∧ t = Socket.called env self name c w)
      (fun _ t => Flow reader writer self T A t) := by
  refine (spec_checked hq self name args _).onError ?_
  rintro e t ⟨w,hw,⟨rfl,_⟩ | ⟨c,hc,hret,_,rfl⟩⟩
  · exact hw.congr rfl rfl rfl
  · exact hw.failed hcarry hf (hargs c hc) hret

theorem spec_receive {name : String} {args : Except PyErr SockCall} {k flags : ℤ}
    (hargs : ArgsMake (fun c => c.space = some k ∧ c.takes = !peeks flags) args) :
    Spec (Flow reader writer self T A) (Socket.checked env self name args)
      (Got reader writer self T A k flags args)
      (fun _ t => Flow reader writer self T A t) := by
  have htransfers : ArgsMake (fun c => c.transfers = true) args := by
    intro c hc
    rw [SockCall.transfers,(hargs c hc).1]
    rfl
  refine (spec_transfer hq hf hcarry htransfers).consequence (fun _ h => h) ?_ fun _ _ h => h
  rintro r t ⟨c,w,hc,hw,rfl,hret,rfl⟩
  obtain ⟨hspace,htakes⟩ := hargs c hc
  have hcalled := hw.called hcarry hf (htransfers c hc) name
  have hput : (Socket.event env self c w).put = [] := by
    have hnone : c.offers = none := by
      cases c <;> first | rfl | cases hspace
    have hdata : (Socket.event env self c w).put = (c.offers.getD []).take _ := rfl
    rw [hdata,hnone]
    exact List.take_nil
  have htook : (Socket.event env self c w).took =
      if peeks flags then [] else (Socket.event env self c w).reply.data := by
    have hdef : (Socket.event env self c w).took =
        if c.takes = true ∧ 0 ≤ (Socket.event env self c w).reply.ret then
          (Socket.event env self c w).reply.data else [] := rfl
    rw [hdef,htakes]
    cases peeks flags <;> simp [hret]
  rw [hput,htook,ite_self,List.append_nil] at hcalled
  refine ⟨hcalled,?_⟩
  rintro rfl
  rcases addressee_event env hw.holding hw.live c with hs | hs
  · have hclosed := hcarry.closed w.log (w.sockets self).lwip c (htransfers c hc)
    rw [← hs] at hclosed
    exact absurd hret (not_le.mpr hclosed)
  · obtain ⟨hlen,hk,hnamed⟩ := hcarry.delivered w.log _ _ c k hs hspace hret
    exact ⟨hlen,hk,c,hc,hnamed⟩

omit hq hf hcarry in
theorem newChars_ok {n : ℤ} {size : ℕ} (h : newChars n = .ok size) : (size : ℤ) = n := by
  obtain ⟨m,hm,hsize⟩ := except_bind_ok.mp h
  obtain rfl := (toSigned_ok.mp hm).1
  split_ifs at hsize with hneg
  cases hsize
  omega

omit hq hf hcarry in
/-- The number of bytes lwIP delivered is the number read back. -/
theorem readBack_delivered {size : ℕ} {r : Reply} (hret : r.ret = r.data.length)
    (hsize : r.data.length ≤ size) : readBack env size r.data r.ret.toNat = r.data := by
  have hn : r.ret.toNat = r.data.length := by omega
  rw [hn,readBack_written env (le_refl _) hsize,List.take_length]

section Got

variable {k flags : ℤ} {args : Except PyErr SockCall} {r : Reply}

omit hq hf hcarry

theorem Got.handed (h : Got reader writer self T A k flags args r w) {bytes : Bytes}
    (hbytes : r.ret = r.data.length → (r.data.length : ℤ) ≤ k → bytes = r.data) :
    Flow reader writer self
      (T ++ if self = reader then (if peeks flags then [] else bytes) else []) A w := by
  have hflow := h.flow
  by_cases hself : self = reader
  · obtain ⟨hret,hk,_⟩ := h.own hself
    rw [hbytes hret hk]
    exact hflow
  · rw [if_neg hself] at hflow ⊢
    exact hflow

theorem Got.other (h : Got reader writer self T A k flags args r w) (hself : self ≠ reader) :
    Flow reader writer self T A w := by
  have hflow := h.flow
  rw [if_neg hself,List.append_nil] at hflow
  exact hflow

/-- After the call an address is decoded, which fails for a foreign socket at most. -/
theorem spec_decoded {α β : Type} {x : Except PyErr β} {g : β → α} (bytes : α → Bytes)
    (hx : ∀ c, args = .ok c → c.Named r → ∃ a, x = .ok a)
    (hbytes : ∀ a, r.ret = r.data.length → (r.data.length : ℤ) ≤ k → bytes (g a) = r.data) :
    Spec (Got reader writer self T A k flags args r) (lift x >>= fun a => (pure (g a) : PyM α))
      (fun a t => Flow reader writer self
        (T ++ if self = reader then (if peeks flags then [] else bytes a) else []) A t)
      (fun _ t => Flow reader writer self T A t) := by
  refine spec_converted (fun e he t ht => ht.other fun hself => ?_) fun a _ =>
    spec_pure fun t ht => ht.handed (hbytes a)
  obtain ⟨_,_,c,hc,hnamed⟩ := ht.own hself
  obtain ⟨a,ha⟩ := hx c hc hnamed
  rw [ha] at he
  cases he

end Got

omit hq hf hcarry in
theorem unparse_known (host : Host) {sa : SockAddr}
    (h : sa.family = AF_INET ∨ sa.family = AF_INET6) :
    ∃ address, sa.unparseAddress host = .ok address := by
  rcases h with h | h
  · exact ⟨_,SockAddr.unparse_inet h⟩
  · exact ⟨_,SockAddr.unparse_inet6 h⟩

omit hq hf hcarry in
theorem recvfrom_decoded {x y : ℤ} {l : ℕ} {c : SockCall} {r : Reply} {sa : SockAddr}
    (hc : (do return .recvfrom (← toUnsigned 64 x) (← toSigned 32 y) l) = Except.ok c)
    (hnamed : c.Named r) : ∃ address, (r.name.getD sa).unparseAddress env.host = .ok address := by
  obtain ⟨k,flags,rfl⟩ : ∃ k flags, c = .recvfrom k flags l := by
    obtain ⟨k,_,hc⟩ := except_bind_ok.mp hc
    obtain ⟨flags,_,hc⟩ := except_bind_ok.mp hc
    exact ⟨k,flags,(Except.ok.inj hc).symm⟩
  obtain ⟨sa',hname,hfam⟩ := hnamed
  rw [hname]
  exact unparse_known _ hfam

omit hq hf hcarry in
theorem recvmsg_decoded {y : ℤ} {l : ℕ} {iov : List ℕ} {c : SockCall} {r : Reply}
    (hc : (do return .recvmsg l iov (← toSigned 32 y)) = Except.ok c) (hnamed : c.Named r) :
    ∃ address, Socket.messageAddress env (r.name.getD SockAddr.createEmptySockaddr) =
      .ok address := by
  obtain ⟨flags,rfl⟩ : ∃ flags, c = .recvmsg l iov flags := by
    obtain ⟨flags,_,hc⟩ := except_bind_ok.mp hc
    exact ⟨flags,(Except.ok.inj hc).symm⟩
  have hfam : ∀ sa, sa = r.name.getD SockAddr.createEmptySockaddr →
      sa.family = AF_UNSPEC ∨ sa.family = AF_INET ∨ sa.family = AF_INET6 := by
    rintro sa rfl
    cases hname : r.name with
    | none => exact .inl (by decide)
    | some sa => exact hnamed sa hname
  rw [Socket.messageAddress]
  split
  · exact ⟨_,rfl⟩
  · next hne =>
    obtain ⟨address,ha⟩ := unparse_known env.host ((hfam _ rfl).resolve_left hne)
    exact ⟨some address,by rw [ha]; rfl⟩

theorem spec_recv (n flags : ℤ) :
    Spec (Flow reader writer self T A) ((Method.recv n flags).reads env self)
      (fun bytes t => Flow reader writer self (T ++ if self = reader then bytes else []) A t)
      (fun _ t => Flow reader writer self T A t) := by
  refine spec_map (spec_converted (fun _ _ _ h => h) fun size hsize => ?_)
  have hn := newChars_ok hsize
  have hargs : ArgsMake (fun c => c.space = some n ∧ c.takes = !peeks flags)
      (return .recv (← toUnsigned 64 n) (← toSigned 32 flags)) :=
    argsMake_recv (f := fun l flags => .recv l flags) fun l hl => ⟨by rw [← hl]; rfl,rfl⟩
  exact spec_bind (spec_receive hq hf hcarry hargs) fun r => spec_pure fun t ht =>
    ht.handed fun hret hk => readBack_delivered hret (by omega)

theorem spec_recvfrom (n flags : ℤ) :
    Spec (Flow reader writer self T A) ((Method.recvfrom n flags).reads env self)
      (fun bytes t => Flow reader writer self (T ++ if self = reader then bytes else []) A t)
      (fun _ t => Flow reader writer self T A t) := by
  refine spec_map (spec_converted (fun _ _ _ h => h) fun size hsize => ?_)
  have hn := newChars_ok hsize
  obtain ⟨sa,l⟩ := SockAddr.createEmptySockaddrPaddrlen
  have hargs : ArgsMake (fun c => c.space = some n ∧ c.takes = !peeks flags)
      (return .recvfrom (← toUnsigned 64 n) (← toSigned 32 flags) l) :=
    argsMake_recv (f := fun k flags => .recvfrom k flags l) fun k hk => ⟨by rw [← hk]; rfl,rfl⟩
  exact spec_bind (spec_receive hq hf hcarry hargs) fun r =>
    spec_decoded Prod.fst (fun c hc hnamed => recvfrom_decoded hc hnamed)
      fun a hret hk => readBack_delivered hret (by omega)

omit hq hf hcarry in
/-- What was delivered stands at the beginning of the buffer. -/
theorem fill_delivered {b : Buffer} (hb : b.Bytewise) {n k : ℤ} {r : Reply}
    (hk : Socket.intoLength b n = .ok k) (hret : r.ret = r.data.length) (hlen : (r.data.length : ℤ) ≤ k) :
    (b.fill r.data).bytes.take r.ret.toNat = r.data := by
  have hspace := (intoLength_le hk).2.1
  have hfit : r.data.length ≤ b.bytes.length := by
    have hle : b.len = b.bytes.length := hb
    omega
  have hn : r.ret.toNat = r.data.length := by omega
  rw [fill_bytes,List.take_of_length_le hfit,hn,List.take_left]

theorem spec_recvInto {b : Buffer} (hb : b.Bytewise) (n flags : ℤ) :
    Spec (Flow reader writer self T A) ((Method.recvInto b n flags).reads env self)
      (fun bytes t => Flow reader writer self (T ++ if self = reader then bytes else []) A t)
      (fun _ t => Flow reader writer self T A t) := by
  refine spec_map (spec_converted (fun _ _ _ h => h) fun k hk => ?_)
  have hargs : ArgsMake (fun c => c.space = some k ∧ c.takes = !peeks flags)
      (return .recv (← toUnsigned 64 k) (← toSigned 32 flags)) :=
    argsMake_recv (f := fun l flags => .recv l flags) fun l hl => ⟨by rw [← hl]; rfl,rfl⟩
  exact spec_bind (spec_receive hq hf hcarry hargs) fun r => spec_pure fun t ht =>
    ht.handed fun hret hlen => fill_delivered hb hk hret hlen

theorem spec_recvfromInto {b : Buffer} (hb : b.Bytewise) (n flags : ℤ) :
    Spec (Flow reader writer self T A) ((Method.recvfromInto b n flags).reads env self)
      (fun bytes t => Flow reader writer self (T ++ if self = reader then bytes else []) A t)
      (fun _ t => Flow reader writer self T A t) := by
  refine spec_map (spec_converted (fun _ _ _ h => h) fun k hk => ?_)
  obtain ⟨sa,l⟩ := SockAddr.createEmptySockaddrPaddrlen
  have hargs : ArgsMake (fun c => c.space = some k ∧ c.takes = !peeks flags)
      (return .recvfrom (← toUnsigned 64 k) (← toSigned 32 flags) l) :=
    argsMake_recv (f := fun k flags => .recvfrom k flags l) fun m hm => ⟨by rw [← hm]; rfl,rfl⟩
  refine spec_bind (spec_receive hq hf hcarry hargs) fun r => ?_
  exact spec_decoded (g := fun address => ((r.ret,address),b.fill r.data))
    (fun p => p.2.bytes.take p.1.1.toNat) (fun c hc hnamed => recvfrom_decoded hc hnamed)
    fun a hret hlen => fill_delivered hb hk hret hlen

theorem spec_recvmsg (n anc flags : ℤ) :
    Spec (Flow reader writer self T A) ((Method.recvmsg n anc flags).reads env self)
      (fun bytes t => Flow reader writer self (T ++ if self = reader then bytes else []) A t)
      (fun _ t => Flow reader writer self T A t) := by
  refine spec_map (spec_guard (fun _ h => h) fun _ => ?_)
  refine spec_converted (fun _ _ _ h => h) fun size hsize => ?_
  have hn := newChars_ok hsize
  have hargs : ArgsMake (fun c => c.space = some n ∧ c.takes = !peeks flags)
      (return .recvmsg SockAddr.createEmptySockaddr.len [size] (← toSigned 32 flags)) :=
    argsMake_signed (argsMake_ok ⟨by simp [SockCall.space,hn],rfl⟩)
  refine spec_bind (spec_receive hq hf hcarry hargs) fun r => ?_
  refine spec_decoded Message.data (fun c hc hnamed => recvmsg_decoded hc hnamed)
    fun a hret hlen => ?_
  have hfit : r.data.length ≤ size := by omega
  exact readBack_delivered hret hfit

theorem spec_recvmsgInto {bs : List Buffer} (hbs : ∀ b ∈ bs, b.Bytewise) (anc flags : ℤ) :
    Spec (Flow reader writer self T A) ((Method.recvmsgInto bs anc flags).reads env self)
      (fun bytes t => Flow reader writer self (T ++ if self = reader then bytes else []) A t)
      (fun _ t => Flow reader writer self T A t) := by
  refine spec_map (spec_guard (fun _ h => h) fun _ => spec_guard (fun _ h => h) fun _ => ?_)
  have hargs : ArgsMake (fun c => c.space = some ((bs.map Buffer.len).sum : ℕ) ∧
      c.takes = !peeks flags)
      (return .recvmsg SockAddr.createEmptySockaddr.len (bs.map Buffer.len)
        (← toSigned 32 flags)) :=
    argsMake_signed (argsMake_ok ⟨rfl,rfl⟩)
  refine spec_bind (spec_receive hq hf hcarry hargs) fun r => ?_
  refine spec_decoded (fun m : MessageInto => (contents m.buffers).take m.nbytes.toNat)
    (fun c hc hnamed => recvmsg_decoded hc hnamed) fun a hret hlen => ?_
  have hn : r.ret.toNat = r.data.length := by omega
  rw [map_len_sum hbs] at hlen
  have hscatter : (contents (scatter bs r.data)).take r.data.length = r.data :=
    take_contents_scatter hbs (by omega)
  rw [← hn] at hscatter
  exact hscatter

/-- What a sending call of `writer` was accepted for goes behind what was sent before. -/
theorem spec_offer {name : String} {args : Except PyErr SockCall} {data : Bytes}
    (hargs : ArgsMake (fun c => c.offers = some data ∧ c.takes = false) args) :
    Spec (Flow reader writer self T A) (Socket.checked env self name args)
      (fun r t => Flow reader writer self T
        (A ++ if self = writer then data.take r.ret.toNat else []) t)
      (fun _ t => Flow reader writer self T A t) := by
  have htransfers : ArgsMake (fun c => c.transfers = true) args := by
    intro c hc
    rw [SockCall.transfers,(hargs c hc).1,Bool.or_comm]
    rfl
  refine (spec_transfer hq hf hcarry htransfers).consequence (fun _ h => h) ?_ fun _ _ h => h
  rintro r t ⟨c,w,hc,hw,rfl,_,rfl⟩
  obtain ⟨hoffers,htakes⟩ := hargs c hc
  have hcalled := hw.called hcarry hf (htransfers c hc) name
  have htook : (Socket.event env self c w).took = [] := by
    have hdef : (Socket.event env self c w).took =
        if c.takes = true ∧ 0 ≤ (Socket.event env self c w).reply.ret then
          (Socket.event env self c w).reply.data else [] := rfl
    rw [hdef,htakes,if_neg (by simp)]
  have hput : (Socket.event env self c w).put =
      data.take (Socket.event env self c w).reply.ret.toNat := by
    have hdef : (Socket.event env self c w).put =
        (c.offers.getD []).take (Socket.event env self c w).reply.ret.toNat := rfl
    rw [hdef,hoffers,Option.getD_some]
  rw [hput,htook,ite_self,List.append_nil] at hcalled
  exact hcalled

theorem spec_send {b : Buffer} (hb : b.Bytewise) (flags : ℤ) :
    Spec (Flow reader writer self T A) (Socket.send env self b flags)
      (fun n t => Flow reader writer self T
        (A ++ if self = writer then b.bytes.take n.toNat else []) t)
      (fun _ t => Flow reader writer self T A t) := by
  have hargs : ArgsMake (fun c => c.offers = some b.bytes ∧ c.takes = false)
      (return .send (b.offered env) (← toSigned 32 flags)) :=
    argsMake_signed (argsMake_ok ⟨by rw [hb.offered]; rfl,rfl⟩)
  exact spec_bind (spec_offer hq hf hcarry hargs) fun r => spec_pure fun _ h => h

omit hq hf hcarry in
theorem Flow.unsent (h : Flow reader writer self T A w) (bytes : Bytes) :
    ∃ chunk, chunk <+: bytes ∧
      Flow reader writer self T (A ++ if self = writer then chunk else []) w :=
  ⟨[],List.nil_prefix,by simpa using h⟩

omit hq hf hcarry in
theorem Flow.sent_empty (h : Flow reader writer self T A w) {b : Buffer} (hb : b.Bytewise)
    (hlen : b.len = 0) :
    Flow reader writer self T (A ++ if self = writer then b.bytes else []) w := by
  rw [hb,List.length_eq_zero_iff] at hlen
  simpa [hlen] using h

omit hq hf hcarry in
theorem sent_append (A first rest : Bytes) :
    (A ++ if self = writer then first else []) ++ (if self = writer then rest else []) =
      A ++ if self = writer then first ++ rest else [] := by
  by_cases hself : self = writer <;> simp [hself]

theorem spec_sendto {b : Buffer} (hb : b.Bytewise) (flags : ℤ) (address : Address) :
    Spec (Flow reader writer self T A) (Socket.sendto env self b flags address)
      (fun n t => Flow reader writer self T
        (A ++ if self = writer then b.bytes.take n.toNat else []) t)
      (fun _ t => Flow reader writer self T A t) := by
  refine spec_converted (fun _ _ _ h => h) fun sa _ => ?_
  have hargs : ArgsMake (fun c => c.offers = some b.bytes ∧ c.takes = false)
      (return .sendto (b.offered env) (← toSigned 32 flags) sa sa.len) :=
    argsMake_signed (argsMake_ok ⟨by rw [hb.offered]; rfl,rfl⟩)
  exact spec_bind (spec_offer hq hf hcarry hargs) fun r => spec_pure fun _ h => h

/-- A loop over `send`: it returns when everything was accepted, and what was accepted when it
raises is the beginning of the payload. -/
theorem spec_sendall (flags : ℤ) (fuel : ℕ) {b : Buffer} (hb : b.Bytewise) (A : Bytes) :
    Spec (Flow reader writer self T A) (Socket.sendall env self flags fuel b)
      (fun _ t => Flow reader writer self T (A ++ if self = writer then b.bytes else []) t)
      (fun _ t => ∃ chunk, chunk <+: b.bytes ∧
        Flow reader writer self T (A ++ if self = writer then chunk else []) t) := by
  induction fuel generalizing b A with
  | zero =>
    rw [Socket.sendall]
    split
    · next hlen => exact spec_pure fun t ht => ht.sent_empty hb hlen
    · exact spec_throw fun t ht => ht.unsent b.bytes
  | succ fuel ih =>
    rw [Socket.sendall]
    split
    · next hlen => exact spec_pure fun t ht => ht.sent_empty hb hlen
    · refine spec_bind ((spec_send hq hf hcarry hb flags).onError
        fun _ t ht => ht.unsent b.bytes) fun n => ?_
      have hrest : (b.drop n.toNat).bytes = b.bytes.drop n.toNat := hb.drop_bytes _
      have hwhole : b.bytes.take n.toNat ++ b.bytes.drop n.toNat = b.bytes :=
        List.take_append_drop _ _
      refine (ih (hb.drop _) _).consequence (fun _ h => h) ?_ ?_
      · intro _ t ht
        rw [sent_append,hrest,hwhole] at ht
        exact ht
      · rintro _ t ⟨chunk,hchunk,ht⟩
        rw [hrest] at hchunk
        rw [sent_append] at ht
        refine ⟨_,?_,ht⟩
        rw [← List.prefix_append_right_inj (b.bytes.take n.toNat),hwhole] at hchunk
        exact hchunk

/-- The bytes of buffers whose lengths count them are what `lwip_sendmsg` is offered. -/
theorem spec_sendmsg {bs : List Buffer} (hbs : ∀ b ∈ bs, b.Bytewise) (ancdata : Bool)
    (flags : ℤ) (address : Option Address) :
    Spec (Flow reader writer self T A) (Socket.sendmsg env self bs ancdata flags address)
      (fun n t => Flow reader writer self T
        (A ++ if self = writer then (contents bs).take n.toNat else []) t)
      (fun _ t => Flow reader writer self T A t) := by
  have hflatten : (bs.map (Buffer.offered env)).flatten = contents bs := by
    rw [contents,List.flatMap_def,List.map_congr_left fun b hb => (hbs b hb).offered env]
  have hcall : ∀ name, Spec (Flow reader writer self T A) (do
        let r ← Socket.checked env self "sendmsg"
          (return .sendmsg name (bs.map (Buffer.offered env)) (← toSigned 32 flags))
        return r.ret)
      (fun n t => Flow reader writer self T
        (A ++ if self = writer then (contents bs).take n.toNat else []) t)
      (fun _ t => Flow reader writer self T A t) := by
    intro name
    have hargs : ArgsMake (fun c => c.offers = some (contents bs) ∧ c.takes = false)
        (return .sendmsg name (bs.map (Buffer.offered env)) (← toSigned 32 flags)) :=
      argsMake_signed (argsMake_ok ⟨congrArg some hflatten,rfl⟩)
    exact spec_bind (spec_offer hq hf hcarry hargs) fun r => spec_pure fun _ h => h
  refine spec_guard (fun _ h => h) fun _ => spec_guard (fun _ h => h) fun _ => ?_
  cases address with
  | none => exact spec_bind (spec_pure fun _ h => h) hcall
  | some a =>
    refine spec_bind (spec_map (Q := fun _ => Flow reader writer self T A) ?_) hcall
    intro t ht
    cases SockAddr.parseAddress env.host a AF_UNSPEC <;> exact ht

end Flow

section Operations

variable {env} {reader writer self : Ref} {T A : Bytes} {w : World}

def Call.Idle (c : Call) : Prop := ∀ s sc, c = .on s sc → sc.transfers = false

theorem stream_idle {f : Event → Bytes} (hf : ∀ e : Event, e.call.Idle → f e = []) (who : Ref)
    {new log : List Event} (hnew : ∀ e ∈ new, e.call.Idle) :
    stream f who (new ++ log) = stream f who log := by
  induction new with
  | nil => rfl
  | cons e new ih =>
    rw [List.cons_append,stream,hf e (hnew e List.mem_cons_self),ite_self,List.append_nil]
    exact ih fun e' he' => hnew e' (List.mem_cons_of_mem _ he')

theorem took_idle (e : Event) (h : e.call.Idle) : e.took = [] := by
  unfold Event.took
  split
  · next s c hcall =>
    have hc := h s c hcall
    rw [if_neg]
    rintro ⟨htakes,_⟩
    cases c <;> first | cases htakes | cases hc
  · rfl

theorem put_idle (e : Event) (h : e.call.Idle) : e.put = [] := by
  unfold Event.put
  split
  · next s c hcall =>
    have hc := h s c hcall
    have hoffers : c.offers = none := by
      cases c <;> first | rfl | cases hc
    rw [hoffers]
    exact List.take_nil
  · rfl

theorem Conveyed.idle (hq : env.Quiet) (hf : FreshDescriptors env) {op : SocketOp}
    (h : Conveyed reader writer T A w) (hop : ∀ c, op.Makes env c → c.Idle) :
    Conveyed reader writer T A (final (op.exec env) w) := by
  obtain ⟨new,hlog,hnew⟩ := op_makes env op w
  have hidle : ∀ e ∈ new, e.call.Idle := fun e he => hop _ (hnew e he)
  refine ⟨h.holding.steps hf (steps_exec hq op w),?_,?_,h.ordered⟩
  · rw [hlog,stream_idle took_idle reader hidle]
    exact h.taken
  · rw [hlog,stream_idle put_idle writer hidle]
    exact h.sent

/-- What one operation does to the connection, and what its caller learns of it. -/
def Advances (env : Env) (reader writer : Ref) (op : SocketOp) (T A : Bytes) (w : World) : Prop :=
  ∃ chunk, op.Wrote env writer w chunk ∧
    Conveyed reader writer (T ++ op.read env reader w) (A ++ chunk) (final (op.exec env) w)

theorem read_of_const {m : Method} (hm : m.reads env self = (fun _ => []) <$> m.exec env self) :
    (SocketOp.method self m).read env reader w = [] := by
  rw [SocketOp.read]
  split
  · rw [hm,value_map]
    cases value (m.exec env self) w <;> rfl
  · rfl

theorem wrote_of_const {m : Method} (hm : m.writes env self = (fun _ => []) <$> m.exec env self) :
    (SocketOp.method self m).Wrote env writer w [] := by
  rw [SocketOp.Wrote]
  split
  · rw [hm,value_map]
    cases value (m.exec env self) w
    · exact List.nil_prefix
    · rfl
  · rfl

theorem wrote_elsewhere {m : Method} (h : ¬ (self = writer ∧ w.Live self)) :
    (SocketOp.method self m).Wrote env writer w [] := by
  rw [SocketOp.Wrote,if_neg h]

theorem advances_idle (hq : env.Quiet) (hf : FreshDescriptors env) (h : Conveyed reader writer T A w) {op : SocketOp}
    (hop : ∀ c, op.Makes env c → c.Idle) (hread : op.read env reader w = [])
    (hwrote : op.Wrote env writer w []) : Advances env reader writer op T A w := by
  refine ⟨[],hwrote,?_⟩
  rw [hread,List.append_nil,List.append_nil]
  exact h.idle hq hf hop

theorem advances_reads (h : Conveyed reader writer T A w) {m : Method}
    (hspec : Spec (Flow reader writer self T A) (m.reads env self)
      (fun bytes t => Flow reader writer self (T ++ if self = reader then bytes else []) A t)
      (fun _ t => Flow reader writer self T A t))
    (hfinal : ∀ w, final (m.reads env self) w = final (m.exec env self) w)
    (hwrites : m.writes env self = (fun _ => []) <$> m.exec env self) :
    Advances env reader writer (.method self m) T A w := by
  refine ⟨[],wrote_of_const hwrites,?_⟩
  rw [SocketOp.exec,final_onLive,List.append_nil,SocketOp.read]
  by_cases hlive : w.Live self
  · have hrun := hspec w ⟨h,hlive⟩
    rw [if_pos hlive,← hfinal]
    cases hm : m.reads env self w with
    | ok bytes t =>
      rw [hm] at hrun
      rw [final_of_ok hm,value_of_ok hm]
      by_cases hself : self = reader
      · subst hself
        simpa [hlive] using hrun.toConveyed
      · simpa [hself] using hrun.toConveyed
    | error e t =>
      rw [hm] at hrun
      rw [final_of_error hm,value_of_error hm]
      simpa using hrun.toConveyed
  · simpa [hlive] using h

theorem advances_writes (h : Conveyed reader writer T A w) {m : Method}
    (hspec : Spec (Flow reader writer self T A) (m.writes env self)
      (fun bytes t => Flow reader writer self T (A ++ if self = writer then bytes else []) t)
      (fun _ t => ∃ chunk, chunk <+: m.unsure ∧
        Flow reader writer self T (A ++ if self = writer then chunk else []) t))
    (hfinal : ∀ w, final (m.writes env self) w = final (m.exec env self) w)
    (hreads : m.reads env self = (fun _ => []) <$> m.exec env self) :
    Advances env reader writer (.method self m) T A w := by
  rw [Advances,read_of_const hreads,List.append_nil,SocketOp.exec,final_onLive]
  by_cases hlive : w.Live self
  · have hrun := hspec w ⟨h,hlive⟩
    rw [if_pos hlive,← hfinal]
    cases hm : m.writes env self w with
    | ok bytes t =>
      rw [hm] at hrun
      rw [final_of_ok hm]
      refine ⟨_,?_,hrun.toConveyed⟩
      by_cases hself : self = writer
      · subst hself
        simp [SocketOp.Wrote,hlive,value_of_ok hm]
      · rw [if_neg hself]
        exact wrote_elsewhere fun hw => hself hw.1
    | error e t =>
      rw [hm] at hrun
      rw [final_of_error hm]
      obtain ⟨chunk,hchunk,hrun⟩ := hrun
      refine ⟨_,?_,hrun.toConveyed⟩
      by_cases hself : self = writer
      · subst hself
        simpa [SocketOp.Wrote,hlive,value_of_error hm] using hchunk
      · rw [if_neg hself]
        exact wrote_elsewhere fun hw => hself hw.1
  · refine ⟨[],wrote_elsewhere fun hw => hlive hw.2,?_⟩
    simpa [hlive] using h

/-- A method that neither receives nor sends makes no call that moves bytes. -/
theorem makes_idle {m : Method} (hm : m.transfers = false) {c : SockCall} (hc : m.Makes env c) :
    c.transfers = false := by
  cases m with
  | fileno => exact hc.elim
  | bind a | connect a | connectEx a =>
    obtain ⟨_,_,rfl⟩ := hc
    rfl
  | listen | shutdown | lwipIoctl | lwipFcntl | getblocking | setblocking | gettimeout =>
    rw [show c = _ from hc]
    rfl
  | getpeername | getsockname =>
    obtain ⟨_,rfl⟩ := hc
    rfl
  | lwipSetsockopt | setsockopt =>
    obtain ⟨_,_,_,_,rfl⟩ := hc
    rfl
  | lwipGetsockopt | getsockopt =>
    obtain ⟨_,_,_,rfl⟩ := hc
    rfl
  | settimeout =>
    rcases hc with ⟨_,rfl⟩ | ⟨_,rfl⟩ <;> rfl
  | _ => cases hm

theorem advances_method (hq : env.Quiet) (hf : FreshDescriptors env)
    (hcarry : Carries env reader writer) (h : Conveyed reader writer T A w)
    {m : Method} (hm : (SocketOp.method self m).ByteItems) :
    Advances env reader writer (.method self m) T A w := by
  have hdiscard : ∀ {α : Type} (f : α → Bytes) (x : PyM α) w,
      final (f <$> x) w = final (discard x) w :=
    fun f x w => (final_map f x w).trans (final_discard x w).symm
  have hidle : m.transfers = false → ∀ c, (SocketOp.method self m).Makes env c → c.Idle := by
    rintro hm _ ⟨s,c,hc,rfl⟩ _ _ ⟨⟩
    exact makes_idle hm hc
  cases m with
  | recv n flags =>
    exact advances_reads h (spec_recv hq hf hcarry n flags) (hdiscard _ _) rfl
  | recvInto b n flags =>
    have hb : b.Bytewise := hm [b] rfl b List.mem_cons_self
    exact advances_reads h (spec_recvInto hq hf hcarry hb n flags) (hdiscard _ _) rfl
  | recvfrom n flags =>
    exact advances_reads h (spec_recvfrom hq hf hcarry n flags) (hdiscard _ _) rfl
  | recvfromInto b n flags =>
    have hb : b.Bytewise := hm [b] rfl b List.mem_cons_self
    exact advances_reads h (spec_recvfromInto hq hf hcarry hb n flags) (hdiscard _ _) rfl
  | recvmsg n anc flags =>
    exact advances_reads h (spec_recvmsg hq hf hcarry n anc flags) (hdiscard _ _) rfl
  | recvmsgInto bs anc flags =>
    exact advances_reads h (spec_recvmsgInto hq hf hcarry (hm bs rfl) anc flags) (hdiscard _ _) rfl
  | send b flags =>
    have hb : b.Bytewise := hm [b] rfl b List.mem_cons_self
    exact advances_writes h (spec_map ((spec_send hq hf hcarry hb flags).onError
      fun _ _ ht => ht.unsent _)) (hdiscard _ _) rfl
  | sendall b flags fuel =>
    have hb : b.Bytewise := hm [b] rfl b List.mem_cons_self
    exact advances_writes h (spec_map (spec_sendall hq hf hcarry flags fuel hb A))
      (final_map _ _) rfl
  | sendto b flags a =>
    have hb : b.Bytewise := hm [b] rfl b List.mem_cons_self
    exact advances_writes h (spec_map ((spec_sendto hq hf hcarry hb flags a).onError
      fun _ _ ht => ht.unsent _)) (hdiscard _ _) rfl
  | sendmsg bs anc flags a =>
    exact advances_writes h (spec_map ((spec_sendmsg hq hf hcarry (hm bs rfl) anc flags a).onError
      fun _ _ ht => ht.unsent _)) (hdiscard _ _) rfl
  | _ => exact advances_idle hq hf h (hidle rfl) (read_of_const rfl) (wrote_of_const rfl)

theorem advances_op (hq : env.Quiet) (hf : FreshDescriptors env)
    (hcarry : Carries env reader writer) (h : Conveyed reader writer T A w) {op : SocketOp}
    (hop : op.ByteItems) : Advances env reader writer op T A w := by
  cases op with
  | socket lwip family socketType proto =>
    refine advances_idle hq hf h ?_ rfl rfl
    rintro _ ⟨_,_,_,rfl⟩ _ _ ⟨⟩
  | accept s =>
    refine advances_idle hq hf h ?_ rfl rfl
    rintro _ ⟨_,_,rfl⟩ _ _ ⟨⟩
    rfl
  | close s | exit s | collect s =>
    refine advances_idle hq hf h ?_ rfl rfl
    rintro _ ⟨_,rfl⟩ _ _ ⟨⟩
    rfl
  | method s m => exact advances_method hq hf hcarry h hop

theorem conveyed_run (hq : env.Quiet) (hf : FreshDescriptors env)
    (hcarry : Carries env reader writer) {ops : List SocketOp} (hops : ∀ op ∈ ops, op.ByteItems)
    (h : Conveyed reader writer T A w) :
    ∃ written, WroteAll env writer ops w written ∧
      Conveyed reader writer (T ++ readBytes env reader ops w) (A ++ written)
        (runAll (ops.map (SocketOp.exec env)) w) := by
  induction ops generalizing T A w with
  | nil =>
    refine ⟨[],.nil w,?_⟩
    rw [readBytes,List.append_nil,List.append_nil]
    exact h
  | cons op ops ih =>
    obtain ⟨chunk,hchunk,hnext⟩ := advances_op hq hf hcarry h (hops op List.mem_cons_self)
    obtain ⟨rest,hrest,hend⟩ := ih (fun op' h' => hops op' (List.mem_cons_of_mem _ h')) hnext
    refine ⟨chunk ++ rest,.cons hchunk hrest,?_⟩
    rw [readBytes,← List.append_assoc,← List.append_assoc]
    exact hend

/-- The bytes of a connection arrive once and in order. In every run, whatever sockets are made,
accepted, closed or collected meanwhile, however their numbers are used again, whichever methods
are called on them and whichever of these fail: what the receiving methods of `reader` returned
is the beginning of what the sending methods of `writer` were given, a whole payload for each
`sendall` that returned and the reported number of bytes for each `send`, `sendto` and
`sendmsg`. -/
theorem bytes_arrive_in_order (hq : env.Quiet) (hf : FreshDescriptors env)
    (hcarry : Carries env reader writer) {ops : List SocketOp} (hops : ∀ op ∈ ops, op.ByteItems) :
    ∃ written, WroteAll env writer ops World.init written ∧
      readBytes env reader ops World.init <+: written ∧
      stream Event.took reader (socketRun env ops).log = readBytes env reader ops World.init ∧
      stream Event.put writer (socketRun env ops).log = written := by
  have hinit : Conveyed reader writer [] [] World.init := ⟨holding_init,rfl,rfl,List.prefix_refl _⟩
  obtain ⟨written,hwrote,hend⟩ := conveyed_run hq hf hcarry hops hinit
  rw [List.nil_append,List.nil_append] at hend
  exact ⟨written,hwrote,hend.ordered,hend.taken,hend.sent⟩

end Operations

/-- What `lwip_recv` with room for `k` bytes answers at the end of a pipe from socket 1 to 0. -/
def pipeReceive (log : List Event) (inst : Instance) (n k : ℤ) : Reply :=
  if holder log (inst,n) = some 0 ∧ 0 ≤ k then
    let data := ((stream Event.put 1 log).drop (stream Event.took 0 log).length).take k.toNat
    { ret := data.length
      data := data
      name := some (SockAddr.inetImage littleHost (Vector.replicate 4 1) 53) }
  else { ret := -1 }

/-- An lwIP in which socket 0 receives what socket 1 sends, at most three bytes at a time. -/
def pipeReply (log : List Event) (inst : Instance) (call : Call) : Reply :=
  match call with
  | .on n c =>
    c.space.elim
      (c.offers.elim (tableReply log inst call) fun data =>
        if n < 0 then { ret := -1 } else { ret := min 3 data.length })
      fun k => pipeReceive log inst n k
  | _ => tableReply log inst call

theorem pipeReply_space {log : List Event} {inst : Instance} {n k : ℤ} {c : SockCall}
    (hc : c.space = some k) : pipeReply log inst (.on n c) = pipeReceive log inst n k := by
  rw [pipeReply,hc,Option.elim_some]

theorem pipeReply_fresh : FreshDescriptors (quietEnv pipeReply) := by
  intro log inst owner call h hobt
  refine tableReply_fresh log inst owner call h ?_
  cases call with
  | poll => cases hobt
  | socket d t p => exact hobt
  | on n c =>
    cases c with
    | accept l => exact hobt
    | _ => cases hobt

theorem pipeReply_carries : Carries (quietEnv pipeReply) 0 1 where
  closed log inst c hc := by
    change (pipeReply log inst _).ret < 0
    cases hspace : c.space with
    | some k =>
      have hnone : holder log (inst,-1) ≠ some 0 := fun h => by simpa using holder_nonneg h
      rw [pipeReply_space hspace,pipeReceive,if_neg fun h => hnone h.1]
      decide
    | none =>
      cases hoffers : c.offers with
      | some data =>
        simp [pipeReply,hspace,hoffers]
      | none => simp [SockCall.transfers,hspace,hoffers] at hc
  delivered log inst n c k hheld hspace hret := by
    change 0 ≤ (pipeReply log inst _).ret at hret
    change (pipeReply log inst _).ret = (pipeReply log inst _).data.length ∧
      ((pipeReply log inst _).data.length : ℤ) ≤ k ∧ c.Named (pipeReply log inst _)
    rw [pipeReply_space hspace,pipeReceive] at hret ⊢
    by_cases hk : 0 ≤ k
    · rw [if_pos ⟨hheld,hk⟩]
      refine ⟨rfl,?_,?_⟩
      · have hle := List.length_take_le k.toNat
          ((stream Event.put 1 log).drop (stream Event.took 0 log).length)
        exact (Int.ofNat_le.mpr hle).trans_eq (Int.toNat_of_nonneg hk)
      · have hfam := SockAddr.inetImage_family littleHost (Vector.replicate 4 1) 53
        cases c with
        | recvfrom => exact ⟨_,rfl,.inl hfam⟩
        | recvmsg =>
          rintro _ ⟨⟩
          exact .inr (.inl hfam)
        | _ => trivial
    · rw [if_neg fun h => hk h.2] at hret
      exact absurd hret (by decide)
  ordered log inst n c hheld htakes hret hordered := by
    obtain ⟨k,hspace⟩ : ∃ k, c.space = some k := by
      cases c <;> first | exact ⟨_,rfl⟩ | cases htakes
    change 0 ≤ (pipeReply log inst _).ret at hret
    change _ ++ (pipeReply log inst _).data <+: _
    rw [pipeReply_space hspace,pipeReceive] at hret ⊢
    split at hret
    · next hif =>
      rw [if_pos hif]
      obtain ⟨rest,hrest⟩ := hordered
      rw [← hrest,List.drop_left]
      exact (List.prefix_append_right_inj _).mpr (List.take_prefix _ _)
    · exact absurd hret (by decide)

/-- Five bytes sent by a loop, looked at and then received in two pieces. -/
def pipeOps : List SocketOp :=
  [.socket 0 AF_INET SOCK_STREAM 0,.socket 0 AF_INET SOCK_STREAM 0,
    .method 1 (.sendall fiveBytes 0 5),.close 1,.method 0 (.recv 3 MSG_PEEK),
    .method 0 (.recv 2 0),.method 0 (.recvInto (.ofBytes [0,0,0,0]) 0 0),.collect 0]

theorem bytes_arrive_in_order_pieces :
    readBytes (quietEnv pipeReply) 0 pipeOps World.init = [1,2,3,4,5] ∧
    ∃ written, WroteAll (quietEnv pipeReply) 1 pipeOps World.init written ∧
      [1,2,3,4,5] <+: written := by
  have hread : readBytes (quietEnv pipeReply) 0 pipeOps World.init = [1,2,3,4,5] := by
    decide +kernel
  have hitems : ∀ op ∈ pipeOps, op.ByteItems := by
    intro op hop
    simp only [pipeOps,List.mem_cons,List.not_mem_nil,or_false] at hop
    rcases hop with rfl | rfl | rfl | rfl | rfl | rfl | rfl | rfl
    all_goals first
      | trivial
      | (rintro bs ⟨⟩ b hb; rw [List.mem_singleton.mp hb]; rfl)
      | (rintro bs ⟨⟩)
  obtain ⟨written,hwrote,hordered,_⟩ := bytes_arrive_in_order (quietEnv_quiet pipeReply)
    pipeReply_fresh pipeReply_carries hitems
  rw [hread] at hordered
  exact ⟨hread,written,hwrote,hordered⟩

end LwipPy
