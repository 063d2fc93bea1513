import LwipPy.SocketRuns

/-! The three ways to receive a datagram. `recvfrom` is told how many bytes it got, while
`lwip_recvmsg` returns the length of the whole datagram, also when only a part was delivered. -/
namespace LwipPy

open Program

theorem readBack_length (env : Env) (size : ℕ) (written : Bytes) (n : ℕ) :
    (readBack env size written n).length = n := by
  rw [readBack,List.length_map,List.length_range]

theorem readBack_written (env : Env) {size n : ℕ} {written : Bytes} (hn : n ≤ written.length)
    (hs : n ≤ size) : readBack env size written n = written.take n := by
  apply List.ext_getElem
  · rw [readBack_length,List.length_take,Nat.min_eq_left hn]
  · intro i h₁ h₂
    have hi : i < n := by rwa [readBack_length] at h₁
    have hw : i < written.length := lt_of_lt_of_le hi hn
    simp [readBack,lt_of_lt_of_le hi hs,hw]

/-- The bytes all buffers hold together. -/
def capacity (buffers : List Buffer) : ℕ := (buffers.map fun b => b.bytes.length).sum

def contents (buffers : List Buffer) : Bytes := buffers.flatMap Buffer.bytes

theorem map_len_sum {buffers : List Buffer} (h : ∀ b ∈ buffers, b.Bytewise) :
    (buffers.map Buffer.len).sum = capacity buffers := by
  rw [capacity,List.map_congr_left h]

theorem fill_bytes (b : Buffer) (data : Bytes) :
    (b.fill data).bytes = data.take b.bytes.length ++ b.bytes.drop data.length := rfl

/-- Scattered over buffers whose lengths count their bytes, the data stands at the beginning of
their contents. -/
theorem prefix_contents_scatter {buffers : List Buffer} (h : ∀ b ∈ buffers, b.Bytewise)
    {data : Bytes} (hd : data.length ≤ capacity buffers) :
    data <+: contents (scatter buffers data) := by
  induction buffers generalizing data with
  | nil =>
    rw [List.length_eq_zero_iff.mp (Nat.le_zero.mp hd)]
    exact List.nil_prefix
  | cons b buffers ih =>
    have hb : b.len = b.bytes.length := h b List.mem_cons_self
    have hcap : capacity (b::buffers) = b.bytes.length + capacity buffers := rfl
    have hstep : contents (scatter (b::buffers) data) =
        (b.fill (data.take b.bytes.length)).bytes ++
          contents (scatter buffers (data.drop b.bytes.length)) := by
      rw [scatter,hb]
      rfl
    rw [hstep,fill_bytes,List.take_take,Nat.min_self,List.append_assoc]
    by_cases hle : data.length ≤ b.bytes.length
    · -- the first buffer takes everything
      rw [List.take_of_length_le hle]
      exact List.prefix_append _ _
    · have hfull : b.bytes.drop (data.take b.bytes.length).length = [] := by
        rw [List.length_take]
        exact List.drop_eq_nil_of_le (by omega)
      have hrest : (data.drop b.bytes.length).length ≤ capacity buffers := by
        rw [List.length_drop]
        omega
      have hih := ih (fun b' hb' => h b' (List.mem_cons_of_mem _ hb')) hrest
      rw [hfull,List.nil_append]
      nth_rewrite 1 [← List.take_append_drop b.bytes.length data]
      exact (List.prefix_append_right_inj _).mpr hih

theorem take_contents_scatter {buffers : List Buffer} (h : ∀ b ∈ buffers, b.Bytewise)
    {data : Bytes} (hd : data.length ≤ capacity buffers) :
    (contents (scatter buffers data)).take data.length = data :=
  (List.prefix_iff_eq_take.mp (prefix_contents_scatter h hd)).symm

def truncated (flags : ℤ) : Bool := Int.land flags MSG_TRUNC ≠ 0

variable (env : Env) (s : Ref) (w : World) (d : Bytes) (sender : SockAddr)

/-- A datagram `d` from `sender` is next on the descriptor of `s`: `lwip_recvfrom` returns what
it delivers, `lwip_recvmsg` the length of the whole datagram. -/
structure Delivers : Prop where
  known : sender.family = AF_INET ∨ sender.family = AF_INET6
  recvfrom : ∀ (len : ℕ) fromlen,
    let r := (Socket.event env s (.recvfrom len 0 fromlen) w).reply
    r.ret = min d.length len ∧ r.data = d.take len ∧ r.name = some sender
  recvmsg : ∀ namelen iov,
    let r := (Socket.event env s (.recvmsg namelen iov 0) w).reply
    r.ret = d.length ∧ r.data = d.take iov.sum ∧ r.name = some sender ∧
      truncated r.flags = decide (iov.sum < d.length)

/-- The three paths agree on the datagram `d`. -/
structure Agree (bufsize : ℤ) (buffers : List Buffer) : Prop where
  data : (value (Socket.recvmsg env s bufsize 0 0) w).map Message.data =
    some (d.take bufsize.toNat)
  same : (value (Socket.recvmsg env s bufsize 0 0) w).map (fun m => (m.data,m.address)) =
    (value (Socket.recvfrom env s bufsize 0) w).map fun r => (r.1,some r.2)
  nbytes : (value (Socket.recvmsgInto env s buffers 0 0) w).map MessageInto.nbytes =
    some ((min d.length (capacity buffers) : ℕ) : ℤ)
  into : (value (Socket.recvmsgInto env s buffers 0 0) w).map
      (fun m => (contents m.buffers).take (min d.length (capacity buffers))) =
    some (d.take (capacity buffers))
  flags : (value (Socket.recvmsg env s bufsize 0 0) w).map (fun m => truncated m.flags) =
    some (decide (bufsize < d.length))
  flagsInto : (value (Socket.recvmsgInto env s buffers 0 0) w).map
      (fun m => truncated m.flags) = some (decide (capacity buffers < d.length))

theorem toSigned_zero : toSigned 32 0 = .ok 0 :=
  toSigned_ok.mpr ⟨rfl,by norm_num,by norm_num⟩

theorem recvmsg_args (namelen : ℕ) (iov : List ℕ) :
    (return SockCall.recvmsg namelen iov (← toSigned 32 0)) =
      (.ok (.recvmsg namelen iov 0) : Except PyErr SockCall) := by
  rw [toSigned_zero]
  rfl

section Runs

variable {env s w d sender} (hq : env.Quiet) (h : Delivers env s w d sender)
include hq h

omit hq in
theorem unparse_sender : ∃ address, sender.unparseAddress env.host = .ok address := by
  rcases h.known with hf | hf
  · exact ⟨_,SockAddr.unparse_inet hf⟩
  · exact ⟨_,SockAddr.unparse_inet6 hf⟩

omit hq h in
theorem newChars_nat {n : ℕ} (hn : (n : ℤ) < 2^63) : newChars n = .ok n := by
  have hs : toSigned 64 (n : ℤ) = .ok n := toSigned_ok.mpr ⟨rfl,by omega,hn⟩
  have h₀ : ¬ (n : ℤ) < 0 := by omega
  have hrun : newChars (n : ℤ) = if (n : ℤ) < 0 then .error (.valueError "negative array length")
      else .ok (n : ℤ).toNat := by
    rw [newChars,hs]
    rfl
  rw [hrun,if_neg h₀,Int.toNat_natCast]

omit h in
theorem checked_returns (name : String) {args : Except PyErr SockCall} {c : SockCall}
    (hargs : args = .ok c) (hret : 0 ≤ (Socket.event env s c w).reply.ret) :
    Socket.checked env s name args w =
      .ok (Socket.event env s c w).reply (Socket.called env s name c w) := by
  rw [hargs,Socket.checked_ok_run hq,if_pos hret]

theorem recvfrom_value {n : ℕ} (hn : (n : ℤ) < 2^63) {address : Address}
    (ha : sender.unparseAddress env.host = .ok address) :
    value (Socket.recvfrom env s n 0) w = some (d.take n,address) := by
  have hu : toUnsigned 64 (n : ℤ) = .ok n := toUnsigned_ok.mpr ⟨rfl,by omega⟩
  obtain ⟨addrLen,hlen⟩ : ∃ addrLen, addrLen = SockAddr.createEmptySockaddr.len := ⟨_,rfl⟩
  obtain ⟨hret,hdata,hname⟩ := h.recvfrom n addrLen
  have hargs : (return SockCall.recvfrom (← toUnsigned 64 (n : ℤ)) (← toSigned 32 0) addrLen) =
      (.ok (.recvfrom n 0 addrLen) : Except PyErr SockCall) := by
    rw [hu,toSigned_zero]
    rfl
  have hchecked := checked_returns hq (s:=s) (w:=w) "recvfrom" hargs (by rw [hret]; omega)
  have hread : readBack env n (d.take n) (min d.length n) = d.take n := by
    rw [readBack_written env (by simp [Nat.min_comm]) (Nat.min_le_right _ _)]
    simp
  refine value_of_ok (t := Socket.called env s "recvfrom" (.recvfrom n 0 addrLen) w) ?_
  refine (bind_of_ok (congrArg (fun x => lift x w) (newChars_nat hn))).trans ?_
  subst hlen
  refine (bind_of_ok hchecked).trans ?_
  simp only [hname,Option.getD_some,ha,hdata,hret,Int.toNat_natCast,hread]
  rfl

omit hq in
theorem messageAddress_sender {address : Address}
    (ha : sender.unparseAddress env.host = .ok address) :
    Socket.messageAddress env sender = .ok (some address) := by
  have hf : sender.family ≠ AF_UNSPEC := by
    rcases h.known with hf | hf <;> rw [hf] <;> decide
  rw [Socket.messageAddress,if_neg hf,ha]
  rfl

/-- `recvmsg` reads back as many bytes as the datagram has. -/
theorem recvmsg_value {n : ℕ} (hn : (n : ℤ) < 2^63) {address : Address}
    (ha : sender.unparseAddress env.host = .ok address) :
    ∃ m : Message, value (Socket.recvmsg env s n 0 0) w = some m ∧
      m.data = readBack env n (d.take n) d.length ∧ m.address = some address ∧
      truncated m.flags = decide (n < d.length) := by
  obtain ⟨hret,hdata,hname,hflags⟩ := h.recvmsg SockAddr.createEmptySockaddr.len [n]
  rw [List.sum_singleton] at hdata hflags
  have hargs := recvmsg_args SockAddr.createEmptySockaddr.len [n]
  have hchecked := checked_returns hq (s:=s) (w:=w) "recvmsg" hargs (by rw [hret]; omega)
  obtain ⟨flags,hfl⟩ : ∃ flags, flags = (Socket.event env s
    (.recvmsg SockAddr.createEmptySockaddr.len [n] 0) w).reply.flags := ⟨_,rfl⟩
  rw [← hfl] at hflags
  refine ⟨⟨readBack env n (d.take n) d.length,[],flags,some address⟩,value_of_ok (t :=
    Socket.called env s "recvmsg" (.recvmsg SockAddr.createEmptySockaddr.len [n] 0) w) ?_,
    rfl,rfl,hflags⟩
  rw [Socket.recvmsg,if_neg (by decide)]
  refine (bind_of_ok (congrArg (fun x => lift x w) (newChars_nat hn))).trans ?_
  refine (bind_of_ok hchecked).trans ?_
  simp only [hname,Option.getD_some,messageAddress_sender h ha,hdata,hret,Int.toNat_natCast,← hfl]
  rfl

theorem recvmsgInto_value {buffers : List Buffer} (hlen : buffers.length ≤ IOV_MAX)
    {address : Address} (ha : sender.unparseAddress env.host = .ok address) :
    ∃ m : MessageInto, value (Socket.recvmsgInto env s buffers 0 0) w = some m ∧
      m.nbytes = d.length ∧ m.address = some address ∧
      m.buffers = scatter buffers (d.take (buffers.map Buffer.len).sum) ∧
      truncated m.flags = decide ((buffers.map Buffer.len).sum < d.length) := by
  obtain ⟨hret,hdata,hname,hflags⟩ :=
    h.recvmsg SockAddr.createEmptySockaddr.len (buffers.map Buffer.len)
  have hargs := recvmsg_args SockAddr.createEmptySockaddr.len (buffers.map Buffer.len)
  have hchecked := checked_returns hq (s:=s) (w:=w) "recvmsg" hargs (by rw [hret]; omega)
  obtain ⟨flags,hfl⟩ : ∃ flags, flags = (Socket.event env s
    (.recvmsg SockAddr.createEmptySockaddr.len (buffers.map Buffer.len) 0) w).reply.flags := ⟨_,rfl⟩
  rw [← hfl] at hflags
  refine ⟨⟨d.length,[],flags,some address,_⟩,value_of_ok (t := Socket.called env s "recvmsg"
    (.recvmsg SockAddr.createEmptySockaddr.len (buffers.map Buffer.len) 0) w) ?_,
    rfl,rfl,rfl,hflags⟩
  rw [Socket.recvmsgInto,if_neg (by decide),if_neg (by omega)]
  refine (bind_of_ok hchecked).trans ?_
  simp only [hname,Option.getD_some,messageAddress_sender h ha,hdata,hret,← hfl]
  rfl

omit hq h in
theorem recvmsg_rejects {bufsize : ℤ} (hb : 2^63 ≤ bufsize) :
    value (Socket.recvmsg env s bufsize 0 0) w = none := by
  have hn : newChars bufsize = .error .overflowError := by
    rw [newChars,toSigned,if_neg (by omega)]
    rfl
  refine value_of_error (e := .overflowError) (t := w) ?_
  rw [Socket.recvmsg,if_neg (by decide)]
  exact bind_of_error (congrArg (fun x => lift x w) hn)

omit hq h in
theorem recvmsgInto_rejects {buffers : List Buffer} (hlen : IOV_MAX < buffers.length) :
    value (Socket.recvmsgInto env s buffers 0 0) w = none := by
  refine value_of_error (e := .osError none "length of buffers exceeded IOV_MAX") (t := w) ?_
  rw [Socket.recvmsgInto,if_neg (by decide),if_pos hlen]
  rfl

/-- The receive paths agree on a datagram exactly if it fits, both the space offered to `recvmsg`
and the buffers offered to `recvmsg_into` (and the arguments are within the bounds that raise):
of a longer one `recvmsg` returns bytes from behind its buffer, and `recvmsg_into` counts bytes
that it did not deliver. -/
theorem receive_agree_iff {bufsize : ℤ} (hb : 0 < bufsize) {buffers : List Buffer}
    (hbytes : ∀ b ∈ buffers, b.Bytewise) :
    Agree env s w d bufsize buffers ↔
      (bufsize < 2^63 ∧ buffers.length ≤ IOV_MAX) ∧
      d.length ≤ bufsize ∧ d.length ≤ capacity buffers := by
  obtain ⟨address,ha⟩ := unparse_sender h
  obtain ⟨n,rfl⟩ := Int.eq_ofNat_of_zero_le hb.le
  have hsum := map_len_sum hbytes
  constructor
  · intro hag
    have hn : (n : ℤ) < 2^63 := by
      by_contra hbig
      have hdata := hag.data
      rw [recvmsg_rejects (not_lt.mp hbig)] at hdata
      cases hdata
    have hlen : buffers.length ≤ IOV_MAX := by
      by_contra hbig
      have hnb := hag.nbytes
      rw [recvmsgInto_rejects (not_le.mp hbig)] at hnb
      cases hnb
    obtain ⟨m,hm,hdata,_,_⟩ := recvmsg_value hq h hn ha
    obtain ⟨m',hm',hnb,_,_,_⟩ := recvmsgInto_value hq h hlen ha
    refine ⟨⟨hn,hlen⟩,?_,?_⟩
    · have hread := hag.data
      rw [hm,Option.map_some,hdata,Option.some.injEq] at hread
      have hl := congrArg List.length hread
      rw [readBack_length,List.length_take,Int.toNat_natCast] at hl
      omega
    · have hcount := hag.nbytes
      rw [hm',Option.map_some,hnb,Option.some.injEq] at hcount
      omega
  · rintro ⟨⟨hn,hlen⟩,hfit,hfitInto⟩
    obtain ⟨m,hm,hdata,haddr,hfl⟩ := recvmsg_value hq h hn ha
    obtain ⟨m',hm',hnb,_,hbufs,hfl'⟩ := recvmsgInto_value hq h hlen ha
    have hfit' : d.length ≤ n := by exact_mod_cast hfit
    have hread : readBack env n (d.take n) d.length = d.take n := by
      rw [List.take_of_length_le hfit',readBack_written env (le_refl _) hfit',List.take_length]
    have hmin : min d.length (capacity buffers) = d.length := Nat.min_eq_left hfitInto
    refine ⟨?_,?_,?_,?_,?_,?_⟩
    · rw [hm,Option.map_some,hdata,hread,Int.toNat_natCast]
    · rw [hm,recvfrom_value hq h hn ha,Option.map_some,Option.map_some,hdata,hread,haddr]
    · rw [hm',Option.map_some,hnb,hmin]
    · rw [hm',Option.map_some,hbufs,hsum,hmin,List.take_of_length_le hfitInto,
        take_contents_scatter hbytes hfitInto]
    · rw [hm,Option.map_some,hfl]
      simp
    · rw [hm',Option.map_some,hfl',hsum]

end Runs

/-- An lwIP with one socket, on which the datagram `[1,2]` from 127.0.0.1 has arrived. -/
def datagramReply (_ : List Event) (_ : Instance) : Call → Reply
  | .on _ (.recvfrom len _ _) =>
    { ret := min 2 len
      name := some (SockAddr.inetImage littleHost #v[127,0,0,1] 53)
      data := [1,2].take len.toNat }
  | .on _ (.recvmsg _ iov _) =>
    { ret := 2
      name := some (SockAddr.inetImage littleHost #v[127,0,0,1] 53)
      data := [1,2].take iov.sum
      flags := if iov.sum < 2 then MSG_TRUNC else 0 }
  | _ => { ret := 0 }

theorem datagramReply_delivers (s : Ref) (w : World) :
    Delivers (quietEnv datagramReply) s w [1,2]
      (SockAddr.inetImage littleHost #v[127,0,0,1] 53) := by
  refine ⟨.inl (SockAddr.inetImage_family _ _ _),fun len fromlen => ⟨?_,rfl,rfl⟩,
    fun namelen iov => ⟨rfl,rfl,rfl,?_⟩⟩
  · exact (Nat.cast_min 2 len).symm
  · have hflags : (Socket.event (quietEnv datagramReply) s (.recvmsg namelen iov 0) w).reply.flags =
        if iov.sum < 2 then MSG_TRUNC else 0 := rfl
    rw [hflags]
    by_cases hlt : iov.sum < 2
    · rw [if_pos hlt,show truncated MSG_TRUNC = true by decide]
      exact (decide_eq_true hlt).symm
    · rw [if_neg hlt,show truncated 0 = false by decide]
      exact (decide_eq_false hlt).symm

theorem receive_agree_two_bytes :
    Agree (quietEnv datagramReply) 0 World.init [1,2] 2 [.ofBytes [0],.ofBytes [0,0]] := by
  refine (receive_agree_iff (quietEnv_quiet _) (datagramReply_delivers 0 World.init) (by decide)
    ?_).mpr ⟨⟨by norm_num,by decide⟩,by decide,by decide⟩
  intro b hb
  simp only [List.mem_cons,List.not_mem_nil,or_false] at hb
  rcases hb with rfl | rfl <;> rfl

/-- With room for one byte, `recvmsg` returns two, the second from behind its buffer, and
`recvmsg_into` says it received two. -/
theorem receive_disagree_one_byte :
    (value (Socket.recvmsg (quietEnv datagramReply) 0 1 0 0) World.init).map Message.data =
      some [1,(quietEnv datagramReply).beyond 0] ∧
    (value (Socket.recvmsgInto (quietEnv datagramReply) 0 [.ofBytes [0]] 0 0) World.init).map
      MessageInto.nbytes = some 2 ∧
    ¬ Agree (quietEnv datagramReply) 0 World.init [1,2] 1 [.ofBytes [0]] := by
  have hdata : (value (Socket.recvmsg (quietEnv datagramReply) 0 1 0 0) World.init).map
      Message.data = some [1,(quietEnv datagramReply).beyond 0] := by
    decide +kernel
  refine ⟨hdata,by decide +kernel,fun hag => ?_⟩
  have hd := hag.data
  rw [hdata] at hd
  exact absurd hd (by decide)

end LwipPy
