import LwipPy.Netif
import Mathlib.Data.List.Chain

/-! `_pbuf_to_bytes`: what it collects from any chain of pbufs, and that this is one packet where
the chain is well formed. -/
namespace LwipPy

variable (heap : PbufRef → Pbuf)

def payloads (nodes : List PbufRef) : Bytes := nodes.flatMap fun p => (heap p).payload

/-- The packet with the head `p` has these nodes. Behind the last one another packet may queue. -/
inductive Packet : PbufRef → List PbufRef → Prop
  | last (p : PbufRef) (hlen : (heap p).payload.length = (heap p).totLen) : Packet p [p]
  | node (p q : PbufRef) (nodes : List PbufRef) (hnext : (heap p).next = some q)
      (htot : (heap p).totLen = (heap p).payload.length + (heap q).totLen)
      (rest : Packet q nodes) : Packet p (p :: nodes)

/-- Some nodes along the `next` fields, from `p` on. -/
def Along (p : PbufRef) (nodes : List PbufRef) : Prop :=
  (∀ q ∈ nodes.head?, q = p) ∧ nodes.IsChain fun q r => (heap q).next = some r

variable {heap}

@[simp] theorem payloads_nil : payloads heap [] = [] := rfl

@[simp] theorem payloads_cons (p : PbufRef) (nodes : List PbufRef) :
    payloads heap (p::nodes) = (heap p).payload ++ payloads heap nodes := by
  simp [payloads]

theorem payloads_take_drop (nodes : List PbufRef) (n : ℕ) :
    payloads heap (nodes.take n) ++ payloads heap (nodes.drop n) = payloads heap nodes := by
  rw [payloads,payloads,← List.flatMap_append,List.take_append_drop]
  rfl

/-- `tot_len` counts the bytes of the packet. -/
theorem Packet.totLen {p : PbufRef} {nodes : List PbufRef} (h : Packet heap p nodes) :
    (payloads heap nodes).length = (heap p).totLen := by
  induction h with
  | last p hlen => simp [hlen]
  | node p q nodes hnext htot rest ih => simp [htot,ih]

/-- On any chain the loop collects the payloads of at most `fragments` nodes along it. -/
theorem pbufFragments_along (fragments : ℕ) (p : PbufRef) :
    ∃ nodes, Along heap p nodes ∧ nodes.length ≤ fragments ∧
      pbufFragments heap fragments p = payloads heap nodes := by
  induction fragments generalizing p with
  | zero => exact ⟨[],by simp [Along],by simp,rfl⟩
  | succ fragments ih =>
    have hone : Along heap p [p] := by simp [Along]
    by_cases hlen : (heap p).payload.length = (heap p).totLen
    · exact ⟨[p],hone,by simp,by simp [pbufFragments,hlen]⟩
    · cases hnext : (heap p).next with
      | none => exact ⟨[p],hone,by simp,by simp [pbufFragments,hlen,hnext]⟩
      | some q =>
        obtain ⟨nodes,⟨hhead,hchain⟩,hcount,hbytes⟩ := ih q
        refine ⟨p::nodes,⟨by simp,List.isChain_cons.mpr ⟨fun r hr => ?_,hchain⟩⟩,
          by simpa using hcount,by simp [pbufFragments,hlen,hnext,hbytes]⟩
        rw [hhead r hr]
        exact hnext

/-- On a packet these are its first nodes. Where the length matches early only empty nodes are
left. -/
theorem pbufFragments_packet {p : PbufRef} {nodes : List PbufRef} (h : Packet heap p nodes)
    (fragments : ℕ) : pbufFragments heap fragments p = payloads heap (nodes.take fragments) := by
  induction h generalizing fragments with
  | last p hlen =>
    cases fragments with
    | zero => rfl
    | succ fragments => simp [pbufFragments,hlen]
  | node p q nodes hnext htot rest ih =>
    cases fragments with
    | zero => rfl
    | succ fragments =>
      rw [pbufFragments,List.take_succ_cons,payloads_cons,List.append_cancel_left_eq]
      split
      · next hlen =>
        have hempty : payloads heap nodes = [] := by
          rw [← List.length_eq_zero_iff,rest.totLen]
          omega
        have hsplit : _ ++ _ = payloads heap nodes := payloads_take_drop nodes fragments
        rw [hempty] at hsplit
        exact (List.append_eq_nil_iff.mp hsplit).1.symm
      · simpa [hnext] using ih fragments

/-- `_pbuf_to_bytes` ends on every chain, with the payloads of at most `MAX_PBUF_FRAGMENTS` nodes.
Of a packet it returns the first so many nodes and no byte of a following packet: all of the
packet exactly if the nodes beyond are empty, so whenever there are none. -/
theorem pbufToBytes_reassembles (heap : PbufRef → Pbuf) (p : PbufRef) :
    (∃ visited, Along heap p visited ∧ visited.length ≤ MAX_PBUF_FRAGMENTS ∧
      pbufToBytes heap p = payloads heap visited) ∧
    ∀ nodes, Packet heap p nodes →
      (payloads heap nodes).length = (heap p).totLen ∧
      pbufToBytes heap p = payloads heap (nodes.take MAX_PBUF_FRAGMENTS) ∧
      (pbufToBytes heap p = payloads heap nodes ↔
        payloads heap (nodes.drop MAX_PBUF_FRAGMENTS) = []) ∧
      (nodes.length ≤ MAX_PBUF_FRAGMENTS → pbufToBytes heap p = payloads heap nodes) := by
  refine ⟨pbufFragments_along MAX_PBUF_FRAGMENTS p,fun nodes h => ?_⟩
  have hbytes : pbufToBytes heap p = payloads heap (nodes.take MAX_PBUF_FRAGMENTS) :=
    pbufFragments_packet h MAX_PBUF_FRAGMENTS
  refine ⟨h.totLen,hbytes,?_,fun hcount => ?_⟩
  · rw [hbytes,← payloads_take_drop nodes MAX_PBUF_FRAGMENTS,List.self_eq_append_right]
  · rw [hbytes,List.take_of_length_le hcount]

/-- A packet of two nodes, with another packet queued behind it. -/
def queuedPackets : PbufRef → Pbuf
  | 0 => ⟨[1,2],3,some 1⟩
  | 1 => ⟨[3],1,some 2⟩
  | _ => ⟨[9],1,none⟩

theorem pbufToBytes_reassembles_queued : pbufToBytes queuedPackets 0 = [1,2,3] := by
  have hpacket : Packet queuedPackets 0 [0,1] := .node 0 1 [1] rfl rfl (.last 1 rfl)
  exact ((pbufToBytes_reassembles queuedPackets 0).2 [0,1] hpacket).2.2.2 (by decide)

def oneByteNodes (n : ℕ) (p : PbufRef) : Pbuf :=
  ⟨[0],n-p,if p+1 < n then some (p+1) else none⟩

theorem oneByteNodes_packet (n k : ℕ) :
    Packet (oneByteNodes (n+k+1)) n (List.range' n (k+1)) := by
  induction k generalizing n with
  | zero =>
    refine .last n ?_
    simp [oneByteNodes]
  | succ k ih =>
    have hrest : Packet (oneByteNodes (n+(k+1)+1)) (n+1) (List.range' (n+1) (k+1)) := by
      have hh := ih (n+1)
      rwa [Nat.add_right_comm n 1 k] at hh
    refine .node n (n+1) _ ?_ ?_ hrest
    · simp [oneByteNodes]
    · simp [oneByteNodes]
      omega

/-- A packet of 1001 bytes in as many nodes loses the last one. -/
theorem pbufToBytes_gives_up :
    Packet (oneByteNodes 1001) 0 (List.range' 0 1001) ∧ (oneByteNodes 1001 0).totLen = 1001 ∧
    (pbufToBytes (oneByteNodes 1001) 0).length = 1000 ∧
    ¬ ∀ (heap : PbufRef → Pbuf) (p : PbufRef) (nodes : List PbufRef), Packet heap p nodes →
      pbufToBytes heap p = payloads heap nodes := by
  have hpacket : Packet (oneByteNodes 1001) 0 (List.range' 0 1001) := oneByteNodes_packet 0 1000
  have hone : ∀ nodes, (payloads (oneByteNodes 1001) nodes).length = nodes.length := by
    intro nodes
    simp [payloads,oneByteNodes,List.length_flatMap]
  have hlength : (pbufToBytes (oneByteNodes 1001) 0).length = 1000 := by
    rw [pbufToBytes,pbufFragments_packet hpacket,hone]
    simp [MAX_PBUF_FRAGMENTS]
  refine ⟨hpacket,rfl,hlength,fun h => ?_⟩
  rw [h _ _ _ hpacket,hone] at hlength
  simp at hlength

end LwipPy
