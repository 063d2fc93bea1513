import Mathlib.Logic.Relation
import Mathlib.Logic.Function.Basic
import Mathlib.Order.Basic

/-! Sections under non-recursive locks that call back. A thread in a section may be called back
into foreign code with the lock still held, and that code may try to enter sections again. -/
namespace NestedSections

variable {T L : Type}

/-- What a thread is in the middle of: a section under a lock, or code such a section called. -/
inductive Frame (L : Type)
  | held (l : L)
  | calledBack (l : L)
  deriving DecidableEq, Repr

open NestedSections.Frame

structure State (T L : Type) where
  owner : L → Option T
  stack : T → List (Frame L)

def State.init : State T L := ⟨fun _ => none,fun _ => []⟩

/-- The innermost frame is not a section: the code running may try to enter one. -/
def Outside : List (Frame L) → Prop
  | held _ :: _ => False
  | _ => True

/-- The frames between a section that is entered and the ones below it. -/
def WellNested : List (Frame L) → Prop
  | [] => True
  | held l :: fs => Outside fs ∧ held l ∉ fs ∧ WellNested fs
  | calledBack l :: fs => (∃ rest, fs = held l :: rest) ∧ WellNested fs

/-- A section that is not the innermost frame has called back. -/
theorem WellNested.called {fs : List (Frame L)} (h : WellNested fs) {l : L} (hl : held l ∈ fs) :
    (∃ rest, fs = held l :: rest) ∨ calledBack l ∈ fs := by
  induction fs with
  | nil => cases hl
  | cons f fs ih =>
    cases f with
    | held l' =>
      rcases List.mem_cons.mp hl with heq | hmem
      · cases heq
        exact .inl ⟨fs,rfl⟩
      · rcases ih h.2.2 hmem with ⟨rest,rfl⟩ | hcall
        · exact h.1.elim
        · exact .inr (List.mem_cons_of_mem _ hcall)
    | calledBack l' =>
      obtain ⟨⟨rest',hrest'⟩,hfs⟩ := h
      rcases List.mem_cons.mp hl with heq | hmem
      · cases heq
      · rcases ih hfs hmem with ⟨rest,hrest⟩ | hcall
        · rw [hrest] at hrest'
          cases hrest'
          exact .inr List.mem_cons_self
        · exact .inr (List.mem_cons_of_mem _ hcall)

/-- Code that was called back runs above the section that called it. -/
theorem WellNested.section_of_called {fs : List (Frame L)} (h : WellNested fs) {l : L}
    (hl : calledBack l ∈ fs) : held l ∈ fs := by
  induction fs with
  | nil => cases hl
  | cons f fs ih =>
    cases f with
    | held l' =>
      rcases List.mem_cons.mp hl with heq | hmem
      · cases heq
      · exact List.mem_cons_of_mem _ (ih h.2.2 hmem)
    | calledBack l' =>
      obtain ⟨⟨rest,rfl⟩,hfs⟩ := h
      rcases List.mem_cons.mp hl with heq | hmem
      · cases heq
        exact List.mem_cons_of_mem _ List.mem_cons_self
      · exact List.mem_cons_of_mem _ (ih hfs hmem)

variable [DecidableEq T] [DecidableEq L]

/-- A thread enters a section under a free lock, a section calls back, the code called returns,
a section ends. -/
inductive Action (T L : Type)
  | enter (t : T) (l : L)
  | callBack (t : T) (l : L)
  | comeBack (t : T) (l : L)
  | leave (t : T) (l : L)

inductive Step (s : State T L) : Action T L → State T L → Prop
  | enter (t : T) (l : L) (hout : Outside (s.stack t)) (hfree : s.owner l = none) :
    Step s (.enter t l)
      ⟨Function.update s.owner l (some t),Function.update s.stack t (held l :: s.stack t)⟩
  | callBack (t : T) (l : L) (rest : List (Frame L)) (htop : s.stack t = held l :: rest) :
    Step s (.callBack t l) { s with stack := Function.update s.stack t (calledBack l :: s.stack t) }
  | comeBack (t : T) (l : L) (rest : List (Frame L)) (htop : s.stack t = calledBack l :: rest) :
    Step s (.comeBack t l) { s with stack := Function.update s.stack t rest }
  | leave (t : T) (l : L) (rest : List (Frame L)) (htop : s.stack t = held l :: rest) :
    Step s (.leave t l) ⟨Function.update s.owner l none,Function.update s.stack t rest⟩

/-- A lock is owned by the thread that is in a section under it. -/
structure Nested (s : State T L) : Prop where
  owns : ∀ t l, s.owner l = some t ↔ held l ∈ s.stack t
  nested : ∀ t, WellNested (s.stack t)

omit [DecidableEq T] [DecidableEq L] in
theorem nested_init : Nested (State.init : State T L) where
  owns _ _ := by simp [State.init]
  nested _ := trivial

omit [DecidableEq T] [DecidableEq L] in
/-- In foreign code, a thread owns exactly the locks whose sections have called it back. -/
theorem Nested.owner_iff {s : State T L} (h : Nested s) {t : T} (hout : Outside (s.stack t))
    (l : L) : s.owner l = some t ↔ calledBack l ∈ s.stack t := by
  rw [h.owns]
  constructor
  · intro hl
    rcases (h.nested t).called hl with ⟨rest,hrest⟩ | hcall
    · rw [hrest] at hout
      exact hout.elim
    · exact hcall
  · exact (h.nested t).section_of_called

omit [DecidableEq L] in
/-- A property of the frames of every thread, when one thread's frames are replaced. -/
theorem forall_update {P : List (Frame L) → Prop} {stack : T → List (Frame L)} {t : T}
    {fs : List (Frame L)} (hfs : P fs) (h : ∀ t', P (stack t')) :
    ∀ t', P (Function.update stack t fs t') :=
  (Function.forall_update_iff stack fun _ => P).mpr ⟨hfs,fun t' _ => h t'⟩

omit [DecidableEq L] in
theorem Nested.same_sections {s : State T L} (h : Nested s) {t : T} {fs : List (Frame L)}
    (hmem : ∀ l, held l ∈ fs ↔ held l ∈ s.stack t) (hfs : WellNested fs) :
    Nested { s with stack := Function.update s.stack t fs } where
  owns t' l := by
    show s.owner l = some t' ↔ held l ∈ Function.update s.stack t fs t'
    by_cases ht : t' = t
    · subst ht
      rw [Function.update_self,hmem]
      exact h.owns t' l
    · rw [Function.update_of_ne ht]
      exact h.owns t' l
  nested := forall_update hfs h.nested

theorem Nested.change_lock {s : State T L} (h : Nested s) {t : T} {l : L} {o : Option T}
    {fs : List (Frame L)} (ho : o = some t ↔ held l ∈ fs)
    (hothers : ∀ t' ≠ t, o ≠ some t' ∧ held l ∉ s.stack t')
    (hmem : ∀ l' ≠ l, held l' ∈ fs ↔ held l' ∈ s.stack t) (hfs : WellNested fs) :
    Nested ⟨Function.update s.owner l o,Function.update s.stack t fs⟩ where
  owns t' l' := by
    show Function.update s.owner l o l' = some t' ↔ held l' ∈ Function.update s.stack t fs t'
    by_cases ht : t' = t
    · subst ht
      rw [Function.update_self]
      by_cases hl : l' = l
      · subst hl
        rw [Function.update_self]
        exact ho
      · rw [Function.update_of_ne hl,hmem l' hl]
        exact h.owns t' l'
    · rw [Function.update_of_ne ht]
      by_cases hl : l' = l
      · subst hl
        have hother := hothers t' ht
        rw [Function.update_self]
        exact iff_of_false hother.1 hother.2
      · rw [Function.update_of_ne hl]
        exact h.owns t' l'
  nested := forall_update hfs h.nested

theorem Nested.step {s s' : State T L} {a : Action T L} (h : Nested s) (hst : Step s a s') :
    Nested s' := by
  cases hst with
  | enter t l hout hfree =>
    have hfresh : ∀ t', held l ∉ s.stack t' := by
      intro t' hl
      have howner := (h.owns t' l).mpr hl
      rw [hfree] at howner
      cases howner
    apply h.change_lock
    · simp
    · intro t' ht
      exact ⟨fun heq => ht (Option.some.inj heq).symm,hfresh t'⟩
    · intro l' hl
      simp [hl]
    · exact ⟨hout,hfresh t,h.nested t⟩
  | callBack t l rest htop =>
    apply h.same_sections
    · simp
    · exact ⟨⟨rest,htop⟩,h.nested t⟩
  | comeBack t l rest htop =>
    have hnested := h.nested t
    rw [htop] at hnested
    apply h.same_sections
    · simp [htop]
    · exact hnested.2
  | leave t l rest htop =>
    have hnested := h.nested t
    rw [htop] at hnested
    have howner : s.owner l = some t := by
      rw [h.owns,htop]
      exact List.mem_cons_self
    apply h.change_lock
    · simpa using hnested.2.1
    · intro t' ht
      refine ⟨by simp,fun hl => ?_⟩
      have howner' := (h.owns t' l).mpr hl
      rw [howner] at howner'
      exact ht (Option.some.inj howner').symm
    · intro l' hl
      simp [htop,hl]
    · exact hnested.2.2

abbrev Steps : State T L → State T L → Prop :=
  Relation.ReflTransGen fun s s' => ∃ a, Step s a s'

theorem Nested.steps {s s' : State T L} (h : Nested s) (hst : Steps s s') : Nested s' := by
  induction hst with
  | refl => exact h
  | tail _ hlast ih =>
    obtain ⟨a,hlast⟩ := hlast
    exact ih.step hlast

section Order

variable {R : Type} [Preorder R] (rank : L → R)

/-- The lock is below the one whose section called the code that is running. -/
def Below (l : L) : List (Frame L) → Prop
  | calledBack l' :: _ => rank l < rank l'
  | _ => True

/-- Ranks fall from each section to the ones entered inside it. -/
def Descending : List (Frame L) → Prop
  | [] => True
  | held l :: fs => Below rank l fs ∧ Descending fs
  | calledBack _ :: fs => Descending fs

variable {rank}

omit [DecidableEq T] [DecidableEq L] in
/-- A lock below the innermost caller is below every caller: the frames go by twos, the code
called and the section that called it. -/
theorem below_all : ∀ {fs : List (Frame L)}, WellNested fs → Descending rank fs → Outside fs →
    ∀ {l : L}, Below rank l fs → ∀ {l' : L}, calledBack l' ∈ fs → rank l < rank l'
  | [], _, _, _, _, _, _, hl' => nomatch hl'
  | [calledBack l₀], hn, _, _, _, _, _, _ => by
    obtain ⟨⟨rest,hrest⟩,_⟩ := hn
    cases hrest
  | calledBack l₀ :: calledBack l₁ :: rest, hn, _, _, _, _, _, _ => by
    obtain ⟨⟨rest',hrest⟩,_⟩ := hn
    cases hrest
  | calledBack l₀ :: held l₁ :: rest, hn, hd, _, l, hl, l', hl' => by
    obtain ⟨⟨rest',hrest⟩,hfs⟩ := hn
    cases hrest
    rcases List.mem_cons.mp hl' with heq | hmem
    · cases heq
      exact hl
    · have hrest' : calledBack l' ∈ rest := by simpa using hmem
      exact lt_trans hl (below_all hfs.2.2 hd.2 hfs.1 hd.1 hrest')

variable (rank) in
/-- A step that enters a section only where its lock is below the caller's. -/
def OrderedStep (s s' : State T L) : Prop :=
  ∃ a, Step s a s' ∧ ∀ t l, a = .enter t l → Below rank l (s.stack t)

theorem descending_step {s s' : State T L} (hst : OrderedStep rank s s')
    (hd : ∀ t, Descending rank (s.stack t)) : ∀ t, Descending rank (s'.stack t) := by
  obtain ⟨a,hstep,hbelow⟩ := hst
  cases hstep with
  | enter t l hout hfree => exact forall_update ⟨hbelow t l rfl,hd t⟩ hd
  | callBack t l rest htop => exact forall_update (hd t) hd
  | comeBack t l rest htop =>
    have ht := hd t
    rw [htop] at ht
    exact forall_update ht hd
  | leave t l rest htop =>
    have ht := hd t
    rw [htop] at ht
    exact forall_update ht.2 hd

/-- Where sections are entered in descending order, foreign code that enters another one does not
own its lock. -/
theorem not_owner_of_ordered {s : State T L}
    (hst : Relation.ReflTransGen (OrderedStep rank) State.init s) {t : T}
    (hout : Outside (s.stack t)) {l : L} (hl : Below rank l (s.stack t)) : s.owner l ≠ some t := by
  have hnested : Nested s :=
    nested_init.steps (Relation.ReflTransGen.mono (fun _ _ h => h.imp fun _ h => h.1) _ _ hst)
  have hdesc : ∀ t, Descending rank (s.stack t) := by
    clear hout hl hnested
    induction hst with
    | refl => exact fun _ => trivial
    | tail _ hlast ih => exact descending_step hlast ih
  rw [Ne,hnested.owner_iff hout]
  intro hcall
  exact lt_irrefl _ (below_all (hnested.nested t) (hdesc t) hout hl hcall)

end Order

end NestedSections
