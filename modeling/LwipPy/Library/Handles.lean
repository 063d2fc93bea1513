import Mathlib.Logic.Function.Basic

/-! Objects behind addresses. An address is free before an object is put there and after it was
dropped, and may then be used again for another object. Who holds an address while its object is
alive finds that object there, whatever happened to the other addresses. -/
namespace Handles

variable {κ ω : Type} [DecidableEq κ]

/-- The object alive at each address. -/
abbrev Table (κ ω : Type) := κ → Option ω

def Table.put (t : Table κ ω) (a : κ) (o : ω) : Table κ ω := Function.update t a (some o)

def Table.drop (t : Table κ ω) (a : κ) : Table κ ω := Function.update t a none

@[simp] theorem Table.put_self (t : Table κ ω) (a : κ) (o : ω) : t.put a o a = some o :=
  Function.update_self a _ t

@[simp] theorem Table.drop_self (t : Table κ ω) (a : κ) : t.drop a a = none :=
  Function.update_self a _ t

/-- Whoever holds an address is the object at it. -/
def Backed (t : Table κ ω) (held : ω → Option κ) : Prop := ∀ o a, held o = some a → t a = some o

section Backed

variable {t : Table κ ω} {held held' : ω → Option κ}

omit [DecidableEq κ] in
/-- No address is held twice. -/
theorem Backed.unique (h : Backed t held) {o o' : ω} {a : κ} (ho : held o = some a)
    (ho' : held o' = some a) : o = o' := by
  have hsame : some o = some o' := (h o a ho).symm.trans (h o' a ho')
  exact Option.some.inj hsame

omit [DecidableEq κ] in
theorem Backed.fewer (h : Backed t held) (hnew : ∀ o a, held' o = some a → held o = some a) :
    Backed t held' := by
  intro o a ho
  exact h o a (hnew o a ho)

/-- A free address is held by nobody else. -/
theorem Backed.put (h : Backed t held) {a : κ} (hfree : t a = none) {o : ω}
    (hnew : ∀ o' b, held' o' = some b → held o' = some b ∨ (o' = o ∧ b = a)) :
    Backed (t.put a o) held' := by
  intro o' b ho'
  rcases hnew o' b ho' with hold | ⟨rfl,rfl⟩
  · have hb : t b = some o' := h o' b hold
    have hne : b ≠ a := by
      rintro rfl
      rw [hfree] at hb
      cases hb
    rw [Table.put,Function.update_of_ne hne]
    exact hb
  · exact t.put_self b o'

/-- Dropping an object leaves the addresses of the others alone. -/
theorem Backed.drop (h : Backed t held) {o : ω} {a : κ} (ho : held o = some a)
    (hnew : ∀ o' b, held' o' = some b → held o' = some b ∧ o' ≠ o) : Backed (t.drop a) held' := by
  intro o' b ho'
  obtain ⟨hold,hother⟩ := hnew o' b ho'
  have hne : b ≠ a := by
    rintro rfl
    exact hother (h.unique hold ho)
  rw [Table.drop,Function.update_of_ne hne]
  exact h o' b hold

end Backed

/-- The object at an address is the one that holds it, and there is no other. -/
def Exact (t : Table κ ω) (held : ω → Option κ) : Prop := ∀ o a, t a = some o ↔ held o = some a

def Table.keep (t : Table κ ω) (stays : ω → Bool) : Table κ ω := fun a => (t a).filter stays

section Exact

variable {t : Table κ ω} {held held' : ω → Option κ}

theorem Exact.put [DecidableEq ω] (h : Exact t held) {a : κ} (hfree : t a = none) {o : ω}
    (hnone : held o = none) : Exact (t.put a o) (Function.update held o (some a)) := by
  intro o' b
  by_cases hb : b = a
  · subst hb
    rw [Table.put_self]
    by_cases hsame : o' = o
    · subst hsame
      simp
    · have hother : held o' ≠ some b := by
        rw [Ne,← h o' b,hfree]
        simp
      simp [hsame,hother,Ne.symm hsame]
  · rw [Table.put,Function.update_of_ne hb,h]
    by_cases hsame : o' = o
    · subst hsame
      simp [hnone,Ne.symm hb]
    · rw [Function.update_of_ne hsame]

omit [DecidableEq κ] in
theorem Exact.keep (h : Exact t held) {stays : ω → Bool}
    (hheld : ∀ o, held' o = if stays o then held o else none) : Exact (t.keep stays) held' := by
  intro o a
  rw [hheld,Table.keep,Option.filter_eq_some_iff,h]
  by_cases hstay : stays o <;> simp [hstay]

end Exact

end Handles
