import Mathlib.Data.List.Forall2
import Mathlib.Data.List.Induction
import Mathlib.Order.Defs.Unbundled

/-! Programs with a state that survives exceptions, and their rules.
A run ends either in a return or in a raise; both exits carry the state reached.
`Respects` relates the start of a run to its end whatever the exit is, `Spec` is a
triple with one postcondition for each exit. -/
namespace Program

variable {ε σ τ α β : Type}

/-- The state in which a run ends, whether it returns or raises. -/
def final (m : EStateM ε σ α) (s : σ) : σ :=
  match m s with
  | .ok _ t => t
  | .error _ t => t

def value (m : EStateM ε σ α) (s : σ) : Option α :=
  match m s with
  | .ok a _ => some a
  | .error _ _ => none

def raised (m : EStateM ε σ α) (s : σ) : Option ε :=
  match m s with
  | .ok _ _ => none
  | .error e _ => some e

def result (m : EStateM ε σ α) (s : σ) : Except ε α :=
  match m s with
  | .ok a _ => .ok a
  | .error e _ => .error e

/-- Run a pure fallible function without touching the state. -/
def lift (x : Except ε α) : EStateM ε σ α :=
  match x with
  | .ok a => pure a
  | .error e => throw e

@[simp] theorem pure_apply (a : α) (s : σ) : (pure a : EStateM ε σ α) s = .ok a s := rfl
@[simp] theorem throw_apply (e : ε) (s : σ) : (throw e : EStateM ε σ α) s = .error e s := rfl
@[simp] theorem get_apply (s : σ) : (get : EStateM ε σ σ) s = .ok s s := rfl
@[simp] theorem set_apply (s t : σ) : (set t : EStateM ε σ PUnit) s = .ok ⟨⟩ t := rfl
@[simp] theorem modify_apply (f : σ → σ) (s : σ) :
    (modify f : EStateM ε σ PUnit) s = .ok ⟨⟩ (f s) := rfl
@[simp] theorem lift_ok (a : α) (s : σ) : (lift (.ok a) : EStateM ε σ α) s = .ok a s := rfl
@[simp] theorem lift_error (e : ε) (s : σ) :
    (lift (.error e) : EStateM ε σ α) s = .error e s := rfl

theorem lift_inj {x y : Except ε α} {s t : σ}
    (h : (lift x : EStateM ε σ α) s = (lift y : EStateM ε σ α) t) : x = y ∧ s = t := by
  cases x <;> cases y <;> cases h <;> exact ⟨rfl,rfl⟩

theorem bind_apply (m : EStateM ε σ α) (f : α → EStateM ε σ β) (s : σ) :
    (m >>= f) s = match m s with
      | .ok a t => f a t
      | .error e t => .error e t := rfl

theorem map_run (f : α → β) (m : EStateM ε σ α) (s : σ) :
    (f <$> m) s = match m s with
      | .ok a t => .ok (f a) t
      | .error e t => .error e t := rfl

theorem discard_run (m : EStateM ε σ α) (s : σ) :
    (discard m : EStateM ε σ PUnit) s = match m s with
      | .ok _ t => .ok ⟨⟩ t
      | .error e t => .error e t := rfl

theorem discard_unit (m : EStateM ε σ PUnit) : discard m = m := by
  funext s
  rw [discard_run]
  cases m s <;> rfl

theorem bind_of_ok {m : EStateM ε σ α} {f : α → EStateM ε σ β} {s t : σ} {a : α}
    (h : m s = .ok a t) : (m >>= f) s = f a t := by
  rw [bind_apply,h]

theorem bind_of_error {m : EStateM ε σ α} {f : α → EStateM ε σ β} {s t : σ} {e : ε}
    (h : m s = .error e t) : (m >>= f) s = .error e t := by
  rw [bind_apply,h]

theorem bind_eq_ok {m : EStateM ε σ α} {f : α → EStateM ε σ β} {s u : σ} {b : β} :
    (m >>= f) s = .ok b u ↔ ∃ a t, m s = .ok a t ∧ f a t = .ok b u := by
  rw [bind_apply]
  cases m s with
  | ok a t =>
    constructor
    · intro h
      exact ⟨a,t,rfl,h⟩
    · rintro ⟨_,_,heq,h⟩
      cases heq
      exact h
  | error e t =>
    constructor
    · intro h
      cases h
    · rintro ⟨_,_,heq,_⟩
      cases heq

theorem tryCatch_apply (m : EStateM ε σ α) (h : ε → EStateM ε σ α) (s : σ) :
    (tryCatch m h) s = match m s with
      | .ok a t => .ok a t
      | .error e t => h e t := by
  change EStateM.tryCatch m h s = _
  unfold EStateM.tryCatch
  cases m s <;> rfl

theorem tryCatch_of_ok {m : EStateM ε σ α} {h : ε → EStateM ε σ α} {s t : σ} {a : α}
    (hm : m s = .ok a t) : (tryCatch m h) s = .ok a t := by
  rw [tryCatch_apply,hm]

theorem tryFinally_apply (m : EStateM ε σ α) (f : EStateM ε σ β) (s : σ) :
    (tryFinally m f) s = match m s with
      | .ok a t => match f t with
        | .ok _ u => .ok a u
        | .error e u => .error e u
      | .error e t => match f t with
        | .ok _ u => .error e u
        | .error e' u => .error e' u := by
  simp only [tryFinally,tryFinally',Functor.map,EStateM.map]
  cases m s with
  | ok a t => cases h : f t <;> simp [h]
  | error e t => cases h : f t <;> simp [h]

theorem final_of_ok {m : EStateM ε σ α} {s t : σ} {a : α} (h : m s = .ok a t) :
    final m s = t := by
  simp [final,h]

theorem lift_result (m : EStateM ε σ α) (s : σ) : lift (result m s) (final m s) = m s := by
  rw [result,final]
  cases m s <;> rfl

theorem final_of_error {m : EStateM ε σ α} {s t : σ} {e : ε} (h : m s = .error e t) :
    final m s = t := by
  simp [final,h]

/-- A run that comes down to a fallible function leaves the state it was called in. -/
theorem final_of_lift {m : EStateM ε σ α} {x : Except ε α} {s t : σ} (h : m s = lift x t) :
    final m s = t := by
  rw [final,h]
  cases x <;> rfl

theorem final_discard (m : EStateM ε σ α) (s : σ) : final (discard m) s = final m s := by
  rw [final,final,discard_run]
  cases m s <;> rfl

theorem final_map (f : α → β) (m : EStateM ε σ α) (s : σ) : final (f <$> m) s = final m s := by
  rw [final,final,map_run]
  cases m s <;> rfl

theorem value_map (f : α → β) (m : EStateM ε σ α) (s : σ) :
    value (f <$> m) s = (value m s).map f := by
  rw [value,value,map_run]
  cases m s <;> rfl

theorem value_of_ok {m : EStateM ε σ α} {s t : σ} {a : α} (h : m s = .ok a t) :
    value m s = some a := by
  simp [value,h]

theorem value_of_error {m : EStateM ε σ α} {s t : σ} {e : ε} (h : m s = .error e t) :
    value m s = none := by
  simp [value,h]

theorem value_congr {m m' : EStateM ε σ α} {s : σ} (h : m s = m' s) : value m s = value m' s := by
  simp [value,h]

theorem except_bind_ok {x : Except ε α} {f : α → Except ε β} {b : β} :
    (x >>= f) = .ok b ↔ ∃ a, x = .ok a ∧ f a = .ok b := by
  cases x with
  | ok a =>
    constructor
    · intro h
      exact ⟨a,rfl,h⟩
    · rintro ⟨_,ha,h⟩
      cases ha
      exact h
  | error e =>
    constructor
    · intro h
      cases h
    · rintro ⟨_,ha,_⟩
      cases ha

/-- A fallible function along a list succeeds where it does on every element. -/
theorem except_mapM_ok {f : α → Except ε β} {l : List α} {bs : List β} :
    l.mapM f = .ok bs ↔ List.Forall₂ (fun a b => f a = .ok b) l bs := by
  induction l generalizing bs with
  | nil =>
    rw [List.mapM_nil,List.forall₂_nil_left_iff]
    exact ⟨fun h => (Except.ok.inj h).symm,fun h => h ▸ rfl⟩
  | cons a l ih =>
    simp only [List.mapM_cons,except_bind_ok,ih,List.forall₂_cons_left_iff]
    constructor
    · rintro ⟨b,hb,bs',hbs,h⟩
      exact ⟨b,bs',hb,hbs,(Except.ok.inj h).symm⟩
    · rintro ⟨b,bs',hb,hbs,rfl⟩
      exact ⟨b,hb,bs',hbs,rfl⟩

theorem except_bind_error {x : Except ε α} {f : α → Except ε β} {e : ε} :
    x >>= f = .error e ↔ x = .error e ∨ ∃ a, x = .ok a ∧ f a = .error e := by
  cases x with
  | ok a =>
    constructor
    · intro h
      exact .inr ⟨a,rfl,h⟩
    · rintro (h | ⟨b,hb,h⟩)
      · cases h
      · cases hb
        exact h
  | error e' =>
    constructor
    · intro h
      cases h
      exact .inl rfl
    · rintro (h | ⟨b,hb,_⟩)
      · cases h
        rfl
      · cases hb

theorem except_map_ok {x : Except ε α} {f : α → β} {b : β} :
    x.map f = .ok b ↔ ∃ a, x = .ok a ∧ f a = b := by
  cases x <;> simp [Except.map]

/-- Every run of `m` ends in a state related to the one it started in. -/
def Respects (R : σ → σ → Prop) (m : EStateM ε σ α) : Prop :=
  ∀ s, R s (final m s)

/-- An invariant as a two-state property. -/
def Kept (I : σ → Prop) (s t : σ) : Prop := I s → I t

instance (I : σ → Prop) : IsPreorder σ (Kept I) where
  refl _ := id
  trans _ _ _ hst htu := fun hs => htu (hst hs)

section Respects

variable {R : σ → σ → Prop}

theorem Respects.of_ok {m : EStateM ε σ α} {s t : σ} {a : α}
    (hm : Respects R m) (h : m s = .ok a t) : R s t := by
  simpa [final,h] using hm s

theorem Respects.of_error {m : EStateM ε σ α} {s t : σ} {e : ε}
    (hm : Respects R m) (h : m s = .error e t) : R s t := by
  simpa [final,h] using hm s

theorem respects_modify {f : σ → σ} (hf : ∀ s, R s (f s)) :
    Respects R (modify f : EStateM ε σ PUnit) := hf

variable [IsPreorder σ R]

theorem respects_pure (a : α) : Respects R (pure a : EStateM ε σ α) :=
  fun s => refl_of R s

theorem respects_throw (e : ε) : Respects R (throw e : EStateM ε σ α) :=
  fun s => refl_of R s

theorem respects_get : Respects R (get : EStateM ε σ σ) :=
  fun s => refl_of R s

theorem respects_lift (x : Except ε α) : Respects R (lift x : EStateM ε σ α) := by
  cases x with
  | ok a => exact respects_pure a
  | error e => exact respects_throw e

theorem respects_bind {m : EStateM ε σ α} {f : α → EStateM ε σ β}
    (hm : Respects R m) (hf : ∀ a, Respects R (f a)) : Respects R (m >>= f) := by
  intro s
  cases h : m s with
  | ok a t =>
    have ht : R s t := hm.of_ok h
    have hu : R t (final (f a) t) := hf a t
    simpa [final,bind_apply,h] using trans_of R ht hu
  | error e t => simpa [final,bind_apply,h] using hm.of_error h

theorem respects_map {m : EStateM ε σ α} (f : α → β) (hm : Respects R m) :
    Respects R (f <$> m) := by
  rw [map_eq_pure_bind]
  exact respects_bind hm fun a => respects_pure (f a)

theorem respects_discard {m : EStateM ε σ α} (hm : Respects R m) : Respects R (discard m) :=
  respects_map _ hm

omit [IsPreorder σ R] in
theorem respects_of_discard {m : EStateM ε σ α} (hm : Respects R (discard m)) : Respects R m :=
  fun s => final_discard m s ▸ hm s

theorem respects_tryCatch {m : EStateM ε σ α} {h : ε → EStateM ε σ α}
    (hm : Respects R m) (hh : ∀ e, Respects R (h e)) : Respects R (tryCatch m h) := by
  intro s
  cases hs : m s with
  | ok a t => simpa [final,tryCatch_apply,hs] using hm.of_ok hs
  | error e t =>
    have ht : R s t := hm.of_error hs
    have hu : R t (final (h e) t) := hh e t
    simpa [final,tryCatch_apply,hs] using trans_of R ht hu

theorem respects_tryFinally {m : EStateM ε σ α} {f : EStateM ε σ β}
    (hm : Respects R m) (hf : Respects R f) : Respects R (tryFinally m f) := by
  intro s
  have ht : R s (final m s) := hm s
  have hu : R (final m s) (final f (final m s)) := hf _
  have h : final (tryFinally m f) s = final f (final m s) := by
    simp only [final,tryFinally_apply]
    cases m s with
    | ok a t => cases hft : f t <;> simp [hft]
    | error e t => cases hft : f t <;> simp [hft]
  rw [h]
  exact trans_of R ht hu

end Respects

/-- One program after the other; a raise ends its own program only. -/
def runAll (ms : List (EStateM ε σ α)) (s : σ) : σ := ms.foldl (fun t m => final m t) s

theorem runAll_respects {R : σ → σ → Prop} [IsPreorder σ R] {ms : List (EStateM ε σ α)}
    (h : ∀ m ∈ ms, Respects R m) (s : σ) : R s (runAll ms s) := by
  induction ms generalizing s with
  | nil => exact refl_of R s
  | cons m ms ih =>
    have hm : R s (final m s) := h m List.mem_cons_self s
    exact trans_of R hm (ih (fun m' hm' => h m' (List.mem_cons_of_mem _ hm')) _)

theorem runAll_kept {I : σ → Prop} {ms : List (EStateM ε σ α)}
    (h : ∀ m ∈ ms, ∀ s, I s → I (final m s)) {s : σ} (hs : I s) : I (runAll ms s) :=
  runAll_respects (R := Kept I) h s hs

/-- An invariant that each program of the run keeps where it is run. -/
theorem runAll_kept_along {ι : Type} {I : σ → Prop} {exec : ι → EStateM ε σ α} {ops : List ι}
    {s : σ} (hs : I s) (h : ∀ done op, done ++ [op] <+: ops → I (runAll (done.map exec) s) →
      I (final (exec op) (runAll (done.map exec) s))) :
    ∀ done, done <+: ops → I (runAll (done.map exec) s) := by
  intro done
  induction done using List.reverseRecOn with
  | nil => exact fun _ => hs
  | append_singleton done op ih =>
    intro hdone
    have hrun : runAll ((done ++ [op]).map exec) s =
        final (exec op) (runAll (done.map exec) s) := by
      rw [runAll,List.map_append,List.foldl_append]
      rfl
    rw [hrun]
    exact h done op hdone (ih ((List.prefix_append done [op]).trans hdone))

/-- From a state satisfying `P`, a return satisfies `Q` and a raise satisfies `E`. -/
def Spec (P : σ → Prop) (m : EStateM ε σ α) (Q : α → σ → Prop) (E : ε → σ → Prop) : Prop :=
  ∀ s, P s → match m s with
    | .ok a t => Q a t
    | .error e t => E e t

section Spec

variable {P P' : σ → Prop} {Q Q' : α → σ → Prop} {E E' : ε → σ → Prop}

theorem Spec.of_ok {m : EStateM ε σ α} {s t : σ} {a : α} (hm : Spec P m Q E) (hs : P s)
    (h : m s = .ok a t) : Q a t := by
  simpa [h] using hm s hs

theorem Spec.of_error {m : EStateM ε σ α} {s t : σ} {e : ε} (hm : Spec P m Q E) (hs : P s)
    (h : m s = .error e t) : E e t := by
  simpa [h] using hm s hs

theorem Spec.consequence {m : EStateM ε σ α} (hm : Spec P m Q E) (hP : ∀ s, P' s → P s)
    (hQ : ∀ a s, Q a s → Q' a s) (hE : ∀ e s, E e s → E' e s) : Spec P' m Q' E' := by
  intro s hs
  cases h : m s with
  | ok a t => exact hQ a t (hm.of_ok (hP s hs) h)
  | error e t => exact hE e t (hm.of_error (hP s hs) h)

theorem Spec.onError {m : EStateM ε σ α} (hm : Spec P m Q E) (hE : ∀ e s, E e s → E' e s) :
    Spec P m Q E' :=
  hm.consequence (fun _ h => h) (fun _ _ h => h) hE

/-- A triple from what is known of the end of a run, however it ends. -/
theorem spec_of_final {m : EStateM ε σ α} {R : σ → Prop} (h : ∀ s, P s → R (final m s) ∧
    ∀ a, value m s = some a → Q a (final m s)) : Spec P m Q (fun _ => R) := by
  intro s hs
  obtain ⟨hR,hQ⟩ := h s hs
  cases hm : m s with
  | ok a t =>
    rw [final_of_ok hm] at hQ
    exact hQ a (value_of_ok hm)
  | error e t => rwa [final_of_error hm] at hR

theorem spec_pure {a : α} (h : ∀ s, P s → Q a s) : Spec P (pure a) Q E := h

theorem spec_throw {e : ε} (h : ∀ s, P s → E e s) : Spec P (throw e) Q E := h

theorem spec_modify {f : σ → σ} {Q : PUnit → σ → Prop} (h : ∀ s, P s → Q ⟨⟩ (f s)) :
    Spec P (modify f) Q E := h

theorem spec_bind {m : EStateM ε σ α} {f : α → EStateM ε σ β} {Q : α → σ → Prop}
    {Q' : β → σ → Prop} (hm : Spec P m Q E) (hf : ∀ a, Spec (Q a) (f a) Q' E) :
    Spec P (m >>= f) Q' E := by
  intro s hs
  cases h : m s with
  | ok a t => simpa [bind_apply,h] using hf a t (hm.of_ok hs h)
  | error e t => simpa [bind_apply,h] using hm.of_error hs h

theorem spec_map {m : EStateM ε σ α} {f : α → β} {Q : β → σ → Prop}
    (hm : Spec P m (fun a => Q (f a)) E) : Spec P (f <$> m) Q E := by
  rw [map_eq_pure_bind]
  exact spec_bind hm fun a => spec_pure fun _ h => h

/-- What follows a conversion may use what it was converted to. -/
theorem spec_converted {x : Except ε α} {f : α → EStateM ε σ β} {Q : β → σ → Prop}
    (herror : ∀ e, x = .error e → ∀ s, P s → E e s) (hok : ∀ a, x = .ok a → Spec P (f a) Q E) :
    Spec P (lift x >>= f) Q E := by
  cases x with
  | ok a => exact hok a rfl
  | error e => exact herror e rfl

/-- A guard that raises, in front of the rest of a program. -/
theorem spec_guard {c : Prop} [Decidable c] {e : ε} {rest : β → EStateM ε σ α}
    {m : EStateM ε σ α} (hraise : ∀ s, P s → E e s) (hm : ¬ c → Spec P m Q E) :
    Spec P (if c then throw e >>= rest else m) Q E := by
  by_cases hc : c
  · rw [if_pos hc]
    exact spec_throw (α := α) hraise
  · rw [if_neg hc]
    exact hm hc

theorem spec_tryCatch {m : EStateM ε σ α} {h : ε → EStateM ε σ α} {E' : ε → σ → Prop}
    (hm : Spec P m Q E') (hh : ∀ e, Spec (E' e) (h e) Q E) : Spec P (tryCatch m h) Q E := by
  intro s hs
  cases hr : m s with
  | ok a t => simpa [tryCatch_apply,hr] using hm.of_ok hs hr
  | error e t => simpa [tryCatch_apply,hr] using hh e t (hm.of_error hs hr)

theorem spec_tryFinally {m : EStateM ε σ α} {f : EStateM ε σ β} {Q' : α → σ → Prop}
    {E' : ε → σ → Prop} (hm : Spec P m Q' E')
    (hQ : ∀ a, Spec (Q' a) f (fun _ => Q a) E)
    (hE : ∀ e, Spec (E' e) f (fun _ => E e) E) : Spec P (tryFinally m f) Q E := by
  intro s hs
  rw [tryFinally_apply]
  cases hr : m s with
  | ok a t =>
    have ht := hQ a t (hm.of_ok hs hr)
    cases hf : f t <;> simpa [hf] using ht
  | error e t =>
    have ht := hE e t (hm.of_error hs hr)
    cases hf : f t <;> simpa [hf] using ht

end Spec

/-- A part of a state: reading back what was written, and nothing else changes. -/
structure Part (σ τ : Type) where
  read : σ → τ
  write : σ → τ → σ
  read_write : ∀ s t, read (write s t) = t
  write_read : ∀ s, write s (read s) = s
  write_write : ∀ s t u, write (write s t) u = write s u

/-- Run a program of the part inside the whole. -/
def zoom (p : Part σ τ) (m : EStateM ε τ α) : EStateM ε σ α := fun s =>
  match m (p.read s) with
  | .ok a t => .ok a (p.write s t)
  | .error e t => .error e (p.write s t)

theorem zoom_of_ok {p : Part σ τ} {m : EStateM ε τ α} {s : σ} {t : τ} {a : α}
    (h : m (p.read s) = .ok a t) : zoom p m s = .ok a (p.write s t) := by
  simp [zoom,h]

theorem zoom_of_error {p : Part σ τ} {m : EStateM ε τ α} {s : σ} {t : τ} {e : ε}
    (h : m (p.read s) = .error e t) : zoom p m s = .error e (p.write s t) := by
  simp [zoom,h]

theorem zoom_pure (p : Part σ τ) (a : α) : zoom p (pure a : EStateM ε τ α) = pure a := by
  funext s
  rw [zoom_of_ok (pure_apply a _),p.write_read,pure_apply]

theorem zoom_lift (p : Part σ τ) (x : Except ε α) : zoom p (lift x) = lift x := by
  funext s
  cases x with
  | ok a => exact congrFun (zoom_pure p a) s
  | error e => rw [zoom_of_error (lift_error e _),p.write_read,lift_error]

theorem zoom_bind (p : Part σ τ) (m : EStateM ε τ α) (f : α → EStateM ε τ β) :
    zoom p (m >>= f) = zoom p m >>= fun a => zoom p (f a) := by
  funext s
  rw [bind_apply]
  cases h : m (p.read s) with
  | ok a t =>
    rw [zoom_of_ok h]
    dsimp only
    rw [zoom,zoom,bind_of_ok h,p.read_write]
    cases f a t <;> simp [p.write_write]
  | error e t =>
    rw [zoom_of_error h]
    exact zoom_of_error (bind_of_error h)

@[simp] theorem final_zoom (p : Part σ τ) (m : EStateM ε τ α) (s : σ) :
    final (zoom p m) s = p.write s (final m (p.read s)) := by
  simp only [final,zoom]
  cases m (p.read s) <;> rfl

def Part.fst : Part (σ × τ) σ where
  read := Prod.fst
  write s t := (t,s.2)
  read_write _ _ := rfl
  write_read _ := rfl
  write_write _ _ _ := rfl

theorem zoom_fst_apply (m : EStateM ε σ α) (s : σ) (t : τ) :
    zoom (.fst : Part (σ × τ) σ) m (s,t) = match m s with
      | .ok a s' => .ok a (s',t)
      | .error e s' => .error e (s',t) := rfl

def Part.snd : Part (σ × τ) τ where
  read := Prod.snd
  write s t := (s.1,t)
  read_write _ _ := rfl
  write_read _ := rfl
  write_write _ _ _ := rfl

/-- Run with a local variable that is gone afterwards. -/
def withLocal (t : τ) (m : EStateM ε (σ × τ) α) : EStateM ε σ α := fun s =>
  match m (s,t) with
  | .ok a c => .ok a c.1
  | .error e c => .error e c.1

@[simp] theorem final_withLocal (t : τ) (m : EStateM ε (σ × τ) α) (s : σ) :
    final (withLocal t m) s = (final m (s,t)).1 := by
  simp only [final,withLocal]
  cases m (s,t) <;> rfl

def OnFst (R : σ → σ → Prop) (c d : σ × τ) : Prop := R c.1 d.1

instance (R : σ → σ → Prop) [IsPreorder σ R] : IsPreorder (σ × τ) (OnFst R) where
  refl c := refl_of R c.1
  trans _ _ _ h h' := trans_of R h h'

theorem respects_zoom_fst {R : σ → σ → Prop} {m : EStateM ε σ α} (hm : Respects R m) :
    Respects (OnFst R) (zoom (.fst : Part (σ × τ) σ) m) := by
  intro c
  rw [final_zoom]
  exact hm c.1

/-- A triple of a program holds where the program runs on the first component. -/
theorem spec_zoom_fst {P : σ → Prop} {Q : α → σ → Prop} {E : ε → σ → Prop} {m : EStateM ε σ α}
    (hm : Spec P m Q E) (t : τ) :
    Spec (fun c : σ × τ => P c.1 ∧ c.2 = t) (zoom .fst m) (fun a c => Q a c.1 ∧ c.2 = t)
      (fun e c => E e c.1 ∧ c.2 = t) := by
  rintro ⟨s,t'⟩ ⟨hP,rfl⟩
  rw [zoom_fst_apply]
  cases h : m s with
  | ok a s' => exact ⟨hm.of_ok hP h,rfl⟩
  | error e s' => exact ⟨hm.of_error hP h,rfl⟩

theorem spec_onFst {P : σ → Prop} {Q : α → σ → Prop} {E : ε → σ → Prop} {m : EStateM ε σ α}
    (hm : Spec P m Q E) : Spec (fun c : σ × τ => P c.1) (zoom .fst m) (fun a c => Q a c.1)
      (fun e c => E e c.1) := by
  rintro ⟨s,t⟩ hP
  rw [zoom_fst_apply]
  cases h : m s with
  | ok a s' => exact hm.of_ok hP h
  | error e s' => exact hm.of_error hP h

theorem spec_withLocal {P : σ → Prop} {Q : α → σ → Prop} {E : ε → σ → Prop} {t : τ}
    {m : EStateM ε (σ × τ) α}
    (hm : Spec (fun c => P c.1 ∧ c.2 = t) m (fun a c => Q a c.1) (fun e c => E e c.1)) :
    Spec P (withLocal t m) Q E := by
  intro s hs
  rw [withLocal]
  cases h : m (s,t) with
  | ok a c => exact hm.of_ok ⟨hs,rfl⟩ h
  | error e c => exact hm.of_error ⟨hs,rfl⟩ h

theorem respects_withLocal {R : σ → σ → Prop} {t : τ} {m : EStateM ε (σ × τ) α}
    (hm : Respects (OnFst R) m) : Respects R (withLocal t m) := by
  intro s
  rw [final_withLocal]
  exact hm (s,t)

end Program
