import Mathlib.Data.List.Basic
import Mathlib.Logic.Function.Basic
import Mathlib.Logic.Relation

/-! Objects that hold references to each other, and a collector. It may take any objects that
neither the program nor an object it leaves refers to, in whatever portions, cycles included. -/
namespace Collector

variable {ω : Type} [DecidableEq ω]

/-- The objects ever made, those collected, and the references of the program and of objects. -/
structure Graph (ω : Type) where
  made : List ω
  collected : List ω
  roots : List ω
  refs : ω → List ω

def Graph.Alive (g : Graph ω) (o : ω) : Prop := o ∈ g.made ∧ o ∉ g.collected

instance (g : Graph ω) (o : ω) : Decidable (g.Alive o) := inferInstanceAs (Decidable (_ ∧ _))

/-- A graph without dangling references. -/
structure Heap (ω : Type) extends Graph ω where
  roots_alive : ∀ o ∈ roots, toGraph.Alive o
  refs_alive : ∀ o, toGraph.Alive o → ∀ p ∈ refs o, toGraph.Alive p

/-- The program has a way to the object. -/
def Graph.Reachable (g : Graph ω) (o : ω) : Prop :=
  ∃ r ∈ g.roots, Relation.ReflTransGen (fun a b => b ∈ g.refs a) r o

theorem refs_update {alive : ω → Prop} {refs : ω → List ω} {o : ω} {ps : List ω}
    (hps : ∀ p ∈ ps, alive p) (h : ∀ q, q ≠ o → alive q → ∀ p ∈ refs q, alive p) (q : ω)
    (hq : alive q) : ∀ p ∈ Function.update refs o ps q, alive p := by
  by_cases hqo : q = o
  · subst hqo
    rw [Function.update_self]
    exact hps
  · rw [Function.update_of_ne hqo]
    exact h q hqo hq

namespace Heap

variable {h h' : Heap ω} {o p : ω}

omit [DecidableEq ω] in
theorem alive_of_reachable (hreach : h.Reachable o) : h.Alive o := by
  obtain ⟨r,hr,hpath⟩ := hreach
  induction hpath with
  | refl => exact h.roots_alive r hr
  | tail _ hab ih => exact h.refs_alive _ ih _ hab

def empty : Heap ω where
  made := []
  collected := []
  roots := []
  refs _ := []
  roots_alive _ h := nomatch h
  refs_alive _ h := nomatch h.1

def make (h : Heap ω) (o : ω) (ps : List ω) : Option (Heap ω) :=
  if hok : o ∉ h.made ∧ o ∉ h.collected ∧ ∀ p ∈ ps, h.Alive p then some
    { made := o :: h.made
      collected := h.collected
      roots := o :: h.roots
      refs := Function.update h.refs o ps
      roots_alive := by
        intro r hr
        rcases List.mem_cons.mp hr with rfl | hr
        · exact ⟨List.mem_cons_self,hok.2.1⟩
        · exact ⟨List.mem_cons_of_mem _ (h.roots_alive r hr).1,(h.roots_alive r hr).2⟩
      refs_alive := by
        apply refs_update
        · intro p hp
          exact ⟨List.mem_cons_of_mem _ (hok.2.2 p hp).1,(hok.2.2 p hp).2⟩
        · intro q hqo hq p hp
          have halive : h.Alive q := ⟨(List.mem_cons.mp hq.1).resolve_left hqo,hq.2⟩
          have hp := h.refs_alive q halive p hp
          exact ⟨List.mem_cons_of_mem _ hp.1,hp.2⟩ }
  else none

/-- An object that is alive gets one more reference. -/
def assign (h : Heap ω) (o p : ω) : Option (Heap ω) :=
  if hok : h.Alive o ∧ h.Alive p then some
    { h with
      refs := Function.update h.refs o (p :: h.refs o)
      refs_alive := by
        apply refs_update
        · intro r hr
          rcases List.mem_cons.mp hr with rfl | hr
          · exact hok.2
          · exact h.refs_alive o hok.1 r hr
        · exact fun q _ => h.refs_alive q }
  else none

def unassign (h : Heap ω) (o p : ω) : Option (Heap ω) :=
  if hok : h.Alive o then some
    { h with
      refs := Function.update h.refs o ((h.refs o).erase p)
      refs_alive := by
        apply refs_update
        · intro r hr
          exact h.refs_alive o hok r (List.mem_of_mem_erase hr)
        · exact fun q _ => h.refs_alive q }
  else none

def hold (h : Heap ω) (o : ω) : Option (Heap ω) :=
  if hok : h.Alive o then some
    { h with
      roots := o :: h.roots
      roots_alive := by
        intro r hr
        rcases List.mem_cons.mp hr with rfl | hr
        · exact hok
        · exact h.roots_alive r hr }
  else none

def release (h : Heap ω) (o : ω) : Heap ω :=
  { h with
    roots := h.roots.erase o
    roots_alive := fun r hr => h.roots_alive r (List.mem_of_mem_erase hr) }

/-- The collector takes some objects. -/
def collect (h : Heap ω) (gone : List ω) : Option (Heap ω) :=
  if hok : (∀ r ∈ h.roots, r ∉ gone) ∧
      ∀ o ∈ h.made, o ∉ h.collected → o ∉ gone → ∀ p ∈ h.refs o, p ∉ gone then some
    { h with
      collected := gone ++ h.collected
      roots_alive := by
        intro r hr
        have halive := h.roots_alive r hr
        refine ⟨halive.1,fun hmem => ?_⟩
        rcases List.mem_append.mp hmem with hgone | hold
        · exact hok.1 r hr hgone
        · exact halive.2 hold
      refs_alive := by
        intro o ho p hp
        have hleft : o ∉ gone ∧ o ∉ h.collected := by
          simpa only [List.mem_append,not_or] using ho.2
        have halive := h.refs_alive o ⟨ho.1,hleft.2⟩ p hp
        refine ⟨halive.1,fun hmem => ?_⟩
        rcases List.mem_append.mp hmem with hgone | hold
        · exact hok.2 o ho.1 hleft.2 hleft.1 p hp hgone
        · exact halive.2 hold }
  else none

theorem make_eq {ps : List ω} (hmake : h.make o ps = some h') :
    o ∉ h.made ∧ h'.made = o :: h.made ∧ (∀ p, h'.Alive p ↔ p = o ∨ h.Alive p) ∧
      h'.refs = Function.update h.refs o ps := by
  rw [make] at hmake
  split_ifs at hmake with hok
  cases hmake
  refine ⟨hok.1,rfl,fun p => ?_,rfl⟩
  simp only [Graph.Alive,List.mem_cons]
  constructor
  · rintro ⟨rfl | hmade,hlive⟩
    · exact .inl rfl
    · exact .inr ⟨hmade,hlive⟩
  · rintro (rfl | ⟨hmade,hlive⟩)
    · exact ⟨.inl rfl,hok.2.1⟩
    · exact ⟨.inr hmade,hlive⟩

theorem collect_eq {gone : List ω} (hcollect : h.collect gone = some h') :
    h'.made = h.made ∧ (∀ p, h'.Alive p ↔ h.Alive p ∧ p ∉ gone) ∧ h'.refs = h.refs := by
  rw [collect] at hcollect
  split_ifs at hcollect
  cases hcollect
  refine ⟨rfl,fun p => ?_,rfl⟩
  simp only [Graph.Alive,List.mem_append,not_or]
  constructor
  · rintro ⟨hmade,hgone,hlive⟩
    exact ⟨⟨hmade,hlive⟩,hgone⟩
  · rintro ⟨⟨hmade,hlive⟩,hgone⟩
    exact ⟨hmade,hgone,hlive⟩

theorem assign_eq (hassign : h.assign o p = some h') :
    h'.made = h.made ∧ (∀ q, h'.Alive q ↔ h.Alive q) ∧ (∀ q, h.refs q ⊆ h'.refs q) ∧
      h.Alive o ∧ p ∈ h'.refs o := by
  rw [assign] at hassign
  split_ifs at hassign with hok
  cases hassign
  refine ⟨rfl,fun _ => Iff.rfl,fun q => ?_,hok.1,?_⟩
  · by_cases hq : q = o
    · subst hq
      simp only [Function.update_self]
      exact List.subset_cons_self _ _
    · simp only [Function.update_of_ne hq]
      exact List.Subset.refl _
  · simp only [Function.update_self]
    exact List.mem_cons_self

theorem unassign_eq (hunassign : h.unassign o p = some h') :
    h'.made = h.made ∧ (∀ q, h'.Alive q ↔ h.Alive q) ∧ ∀ q, q ≠ o → h'.refs q = h.refs q := by
  rw [unassign] at hunassign
  split_ifs at hunassign
  cases hunassign
  exact ⟨rfl,fun _ => Iff.rfl,fun q hq => Function.update_of_ne hq _ _⟩

theorem hold_eq (hhold : h.hold o = some h') :
    h'.made = h.made ∧ (∀ q, h'.Alive q ↔ h.Alive q) ∧ h'.refs = h.refs := by
  rw [hold] at hhold
  split_ifs at hhold
  cases hhold
  exact ⟨rfl,fun _ => Iff.rfl,rfl⟩

theorem release_eq (o : ω) :
    (h.release o).made = h.made ∧ (∀ q, (h.release o).Alive q ↔ h.Alive q) ∧
      (h.release o).refs = h.refs :=
  ⟨rfl,fun _ => Iff.rfl,rfl⟩

end Heap

end Collector
