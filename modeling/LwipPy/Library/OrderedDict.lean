import Mathlib.Tactic
import Mathlib.Data.List.Nodup

/-! Dictionaries that remember the order of insertion. Assigning to a key that is present
keeps its place, a new key goes to the end, and no key occurs twice. -/

/-- Entries in the order of insertion, one for each key. -/
structure OrderedDict (κ ν : Type) where
  entries : List (κ × ν)
  nodup : (entries.map Prod.fst).Nodup

namespace OrderedDict

variable {κ ν : Type}

def keys (d : OrderedDict κ ν) : List κ := d.entries.map Prod.fst

def empty : OrderedDict κ ν := ⟨[],List.nodup_nil⟩

instance : EmptyCollection (OrderedDict κ ν) := ⟨empty⟩

variable [DecidableEq κ]

def get? (d : OrderedDict κ ν) (k : κ) : Option ν := d.entries.lookup k

def replace (k : κ) (v : ν) (l : List (κ × ν)) : List (κ × ν) :=
  l.map fun e => if e.1 = k then (k,v) else e

theorem replace_keys (k : κ) (v : ν) (l : List (κ × ν)) :
    (replace k v l).map Prod.fst = l.map Prod.fst := by
  induction l with
  | nil => rfl
  | cons e l ih =>
    simp only [replace,List.map_cons] at ih ⊢
    rw [ih]
    by_cases h : e.1 = k <;> simp [h]

/-- `d[k] = v` -/
def set (d : OrderedDict κ ν) (k : κ) (v : ν) : OrderedDict κ ν :=
  if h : k ∈ d.keys then ⟨replace k v d.entries,by rw [replace_keys]; exact d.nodup⟩
  else ⟨d.entries ++ [(k,v)],by
    have hk : k ∉ d.entries.map Prod.fst := h
    rw [List.map_append]
    exact d.nodup.append (List.nodup_singleton k) (by simpa using hk)⟩

/-- `del d[k]`, for a key that is present. -/
def del (d : OrderedDict κ ν) (k : κ) : OrderedDict κ ν :=
  ⟨d.entries.filter fun e => e.1 ≠ k,d.nodup.sublist (List.filter_sublist.map Prod.fst)⟩

/-- `dict(pairs)`: a later pair overwrites an earlier one of the same key. -/
def ofPairs (l : List (κ × ν)) : OrderedDict κ ν := l.foldl (fun d e => d.set e.1 e.2) ∅

theorem mem_entries_iff (d : OrderedDict κ ν) (k : κ) (v : ν) :
    (k,v) ∈ d.entries ↔ d.get? k = some v := by
  rcases d with ⟨l,hl⟩
  induction l with
  | nil => simp [get?]
  | cons e l ih =>
    simp only [List.map_cons,List.nodup_cons] at hl
    have hi := ih hl.2
    simp only [get?] at hi ⊢
    rw [List.lookup_cons]
    by_cases hk : k = e.1
    · subst hk
      have hno : (e.1,v) ∉ l := fun h => hl.1 (List.mem_map.mpr ⟨_,h,rfl⟩)
      simp only [List.mem_cons,hno,or_false,beq_self_eq_true,Option.some.injEq]
      exact ⟨fun h => (congrArg Prod.snd h).symm,fun h => by rw [← h]⟩
    · have hne : (k,v) ≠ e := fun h => hk (congrArg Prod.fst h)
      have hb : (k == e.1) = false := by simpa using hk
      simp only [List.mem_cons,hne,false_or,hb,hi]

theorem get?_set_self (d : OrderedDict κ ν) (k : κ) (v : ν) : (d.set k v).get? k = some v := by
  rw [← mem_entries_iff]
  by_cases h : k ∈ d.keys
  · obtain ⟨e,he,hek⟩ := List.mem_map.mp h
    rw [set,dif_pos h]
    exact List.mem_map.mpr ⟨e,he,if_pos hek⟩
  · rw [set,dif_neg h]
    exact List.mem_append_right _ (List.mem_singleton_self _)

theorem get?_set_of_ne (d : OrderedDict κ ν) {k k' : κ} (hk : k' ≠ k) (v : ν) :
    (d.set k v).get? k' = d.get? k' := by
  apply Option.ext
  intro u
  rw [← mem_entries_iff,← mem_entries_iff]
  by_cases h : k ∈ d.keys
  · rw [set,dif_pos h]
    constructor
    · intro hm
      obtain ⟨a,ha,hau⟩ := List.mem_map.mp hm
      by_cases hak : a.1 = k
      · rw [if_pos hak] at hau
        exact absurd (congrArg Prod.fst hau).symm hk
      · rw [if_neg hak] at hau
        rwa [← hau]
    · intro hm
      exact List.mem_map.mpr ⟨_,hm,if_neg hk⟩
  · rw [set,dif_neg h]
    simp [hk]

theorem get?_set (d : OrderedDict κ ν) (k k' : κ) (v : ν) :
    (d.set k v).get? k' = if k' = k then some v else d.get? k' := by
  by_cases hk : k' = k
  · rw [if_pos hk,hk,get?_set_self]
  · rw [if_neg hk,get?_set_of_ne d hk]

theorem get?_del (d : OrderedDict κ ν) (k k' : κ) :
    (d.del k).get? k' = if k' = k then none else d.get? k' := by
  apply Option.ext
  intro u
  rw [← mem_entries_iff]
  simp only [del,List.mem_filter,mem_entries_iff]
  by_cases hk : k' = k <;> simp [hk]

theorem mem_keys_iff (d : OrderedDict κ ν) (k : κ) : k ∈ d.keys ↔ ∃ v, d.get? k = some v := by
  rw [keys,List.mem_map]
  constructor
  · rintro ⟨⟨k',v⟩,he,rfl⟩
    exact ⟨v,(mem_entries_iff d k' v).mp he⟩
  · rintro ⟨v,hv⟩
    exact ⟨(k,v),(mem_entries_iff d k v).mpr hv,rfl⟩

@[simp] theorem get?_empty (k : κ) : (∅ : OrderedDict κ ν).get? k = none := rfl

theorem ofPairs_append (l : List (κ × ν)) (e : κ × ν) :
    ofPairs (l ++ [e]) = (ofPairs l).set e.1 e.2 := by
  rw [ofPairs,List.foldl_append]
  rfl

theorem mem_of_get?_ofPairs {l : List (κ × ν)} {k : κ} {v : ν}
    (h : (ofPairs l).get? k = some v) : (k,v) ∈ l := by
  induction l using List.reverseRecOn with
  | nil => simp [ofPairs] at h
  | append_singleton l e ih =>
    rw [ofPairs_append,get?_set] at h
    split at h
    · next hk =>
      cases h
      simp [hk]
    · exact List.mem_append_left _ (ih h)

theorem exists_get?_ofPairs {l : List (κ × ν)} {k : κ} {v : ν} (h : (k,v) ∈ l) :
    ∃ u, (ofPairs l).get? k = some u := by
  induction l using List.reverseRecOn with
  | nil => cases h
  | append_singleton l e ih =>
    rw [ofPairs_append,get?_set]
    split
    · exact ⟨e.2,rfl⟩
    · next hk =>
      rcases List.mem_append.mp h with h | h
      · exact ih h
      · rw [List.mem_singleton] at h
        exact absurd (congrArg Prod.fst h) hk

/-- Where no two pairs of one key differ, none is overwritten. -/
theorem get?_ofPairs_iff {l : List (κ × ν)} {k : κ} {v : ν}
    (hone : ∀ v', (k,v') ∈ l → (k,v) ∈ l → v' = v) :
    (ofPairs l).get? k = some v ↔ (k,v) ∈ l := by
  refine ⟨mem_of_get?_ofPairs,fun h => ?_⟩
  obtain ⟨u,hu⟩ := exists_get?_ofPairs h
  rw [hu,hone u (mem_of_get?_ofPairs hu) h]

end OrderedDict
