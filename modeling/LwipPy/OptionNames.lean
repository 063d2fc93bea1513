import LwipPy.Inet
import LwipPy.Socket

/-! Option translation by name: a level and an option of Python's `socket` module go to lwIP's
constants of the same names, and an option only together with the level of its group. -/
namespace LwipPy

open Program

namespace CompatTranslate

variable (env : Env)

/-- Both modules know the name, with these values. -/
def InBoth (name : String) (socketValue lwipValue : ℤ) : Prop :=
  env.socketDefs.get? name = some socketValue ∧ env.lwipDefs.get? name = some lwipValue

/-- `(l, o)` are lwIP's values of a group level and of an option of that group, whose values in
`socket` are `(level, optname)`. -/
def SameNames (level optname l o : ℤ) : Prop :=
  ∃ g ∈ groups, ∃ name, g.2 name = true ∧ InBoth env g.1 level l ∧ InBoth env name optname o

/-- Names that both modules know have different values in `socket`, within each group and among
the levels of the groups. -/
structure Unambiguous : Prop where
  options : ∀ g ∈ groups, ∀ name name' v a b, g.2 name = true → g.2 name' = true →
    InBoth env name v a → InBoth env name' v b → name = name'
  levels : ∀ g ∈ groups, ∀ g' ∈ groups, ∀ v a b, InBoth env g.1 v a → InBoth env g'.1 v b →
    g.1 = g'.1

/-- Two names of lwIP that have one value in `socket`. -/
def Alike (name name' : String) : Prop :=
  name ∈ env.lwipDefs.keys ∧ name' ∈ env.lwipDefs.keys ∧
  env.socketDefs.get? name = env.socketDefs.get? name' ∧ (env.socketDefs.get? name).isSome = true

instance (name name' : String) : Decidable (Alike env name name') :=
  inferInstanceAs (Decidable (_ ∧ _))

theorem alike_iff {name name' : String} :
    Alike env name name' ↔ ∃ v a b, InBoth env name v a ∧ InBoth env name' v b := by
  simp only [Alike,InBoth,OrderedDict.mem_keys_iff,Option.isSome_iff_exists]
  constructor
  · rintro ⟨⟨a,ha⟩,⟨b,hb⟩,heq,v,hv⟩
    exact ⟨v,a,b,⟨hv,ha⟩,heq ▸ hv,hb⟩
  · rintro ⟨v,a,b,⟨hv,ha⟩,hv',hb⟩
    exact ⟨⟨a,ha⟩,⟨b,hb⟩,hv.trans hv'.symm,v,hv⟩

/-- Only the names of `lwip.defs` matter, and these are finitely many. -/
theorem unambiguous_iff :
    Unambiguous env ↔
      (∀ g ∈ groups, ∀ name ∈ env.lwipDefs.keys, ∀ name' ∈ env.lwipDefs.keys, g.2 name = true →
        g.2 name' = true → Alike env name name' → name = name') ∧
      ∀ g ∈ groups, ∀ g' ∈ groups, Alike env g.1 g'.1 → g.1 = g'.1 := by
  simp only [alike_iff]
  constructor
  · intro h
    refine ⟨fun g hg name _ name' _ hname hname' => ?_,fun g hg g' hg' => ?_⟩
    · rintro ⟨v,a,b,ha,hb⟩
      exact h.options g hg _ _ _ _ _ hname hname' ha hb
    · rintro ⟨v,a,b,ha,hb⟩
      exact h.levels g hg g' hg' _ _ _ ha hb
  · rintro ⟨hoptions,hlevels⟩
    refine ⟨fun g hg name name' v a b hname hname' ha hb => ?_,fun g hg g' hg' v a b ha hb => ?_⟩
    · exact hoptions g hg name ((OrderedDict.mem_keys_iff _ _).mpr ⟨a,ha.2⟩) name'
        ((OrderedDict.mem_keys_iff _ _).mpr ⟨b,hb.2⟩) hname hname' ⟨v,a,b,ha,hb⟩
    · exact hlevels g hg g' hg' ⟨v,a,b,ha,hb⟩

instance : Decidable (Unambiguous env) := decidable_of_iff _ (unambiguous_iff env).symm

section Entries

variable {env}

theorem mem_dir {m : Constants} {name : String} : name ∈ dir m ↔ ∃ v, m.get? name = some v := by
  rw [dir,List.mem_mergeSort,m.mem_keys_iff]

theorem InBoth.unique {name : String} {v w a b : ℤ} (h : InBoth env name v a)
    (h' : InBoth env name w b) : v = w ∧ a = b :=
  ⟨Option.some.inj (h.1.symm.trans h'.1),Option.some.inj (h.2.symm.trans h'.2)⟩

theorem mem_matchingEntries {predicate : String → Bool} {e : TranslateEntry} :
    e ∈ yieldSocketLwipMatchingEntries env predicate ↔
      predicate e.name = true ∧ InBoth env e.name e.socketValue e.lwipValue := by
  simp only [yieldSocketLwipMatchingEntries,List.mem_filterMap,List.mem_filter,mem_dir,InBoth]
  constructor
  · rintro ⟨name,⟨_,hname⟩,h⟩
    simp only [Option.bind_eq_bind,Option.bind_eq_some_iff,Option.pure_def,Option.some.injEq] at h
    obtain ⟨a,ha,v,hv,rfl⟩ := h
    exact ⟨hname,hv,ha⟩
  · rintro ⟨hname,hv,ha⟩
    exact ⟨e.name,⟨⟨_,ha⟩,hname⟩,by simp [hv,ha]⟩

theorem mem_translateEntry {levelName : String} {entries : List TranslateEntry}
    {x : ℤ × LevelEntry} :
    x ∈ yieldSockoptTranslateEntry env levelName entries ↔
      ∃ l, InBoth env levelName x.1 l ∧ x.2 = (⟨levelName,l,x.1⟩,
        OrderedDict.ofPairs (entries.map fun e => (e.socketValue,e))) := by
  rcases x with ⟨v,entry⟩
  simp only [yieldSockoptTranslateEntry,InBoth]
  cases hv : env.socketDefs.get? levelName with
  | none => simp
  | some v' =>
    cases hl : env.lwipDefs.get? levelName with
    | none => simp
    | some l =>
      simp only [List.mem_singleton,Prod.mk.injEq,Option.some.injEq]
      constructor
      · rintro ⟨rfl,rfl⟩
        exact ⟨l,⟨rfl,rfl⟩,rfl⟩
      · rintro ⟨_,⟨rfl,rfl⟩,rfl⟩
        exact ⟨rfl,rfl⟩

theorem group_eq {g g' : String × (String → Bool)} (hg : g ∈ groups) (hg' : g' ∈ groups)
    (h : g.1 = g'.1) : g = g' := by
  have hnodup : (groups.map Prod.fst).Nodup := by decide
  exact List.inj_on_of_nodup_map hnodup hg hg' h

end Entries

/-- The options of a group, by their values in `socket`. -/
def optionTable (predicate : String → Bool) : OrderedDict ℤ TranslateEntry :=
  OrderedDict.ofPairs ((yieldSocketLwipMatchingEntries env predicate).map
    fun e => (e.socketValue,e))

section Lookup

variable {env} (h : Unambiguous env)
include h

theorem optionTable_get? {g : String × (String → Bool)} (hg : g ∈ groups) {optname : ℤ}
    {e : TranslateEntry} :
    (optionTable env g.2).get? optname = some e ↔
      g.2 e.name = true ∧ InBoth env e.name optname e.lwipValue ∧ e.socketValue = optname := by
  have hmem : ∀ e' : TranslateEntry,
      (optname,e') ∈ (yieldSocketLwipMatchingEntries env g.2).map (fun e => (e.socketValue,e)) ↔
        g.2 e'.name = true ∧ InBoth env e'.name optname e'.lwipValue ∧
          e'.socketValue = optname := by
    intro e'
    simp only [List.mem_map,mem_matchingEntries,Prod.mk.injEq]
    constructor
    · rintro ⟨_,⟨hname,hboth⟩,rfl,rfl⟩
      exact ⟨hname,hboth,rfl⟩
    · rintro ⟨hname,hboth,rfl⟩
      exact ⟨e',⟨hname,hboth⟩,rfl,rfl⟩
  rw [optionTable,OrderedDict.get?_ofPairs_iff,hmem]
  intro e' he' he
  obtain ⟨hname',hboth',hvalue'⟩ := (hmem e').mp he'
  obtain ⟨hname,hboth,hvalue⟩ := (hmem e).mp he
  have heq : e'.name = e.name := h.options g hg _ _ _ _ _ hname' hname hboth' hboth
  have hlwip : e'.lwipValue = e.lwipValue := (hboth'.unique (heq ▸ hboth)).2
  cases e
  cases e'
  simp_all

theorem sockoptTranslateTable_get? {level : ℤ} {entry : LevelEntry} :
    (sockoptTranslateTable env).get? level = some entry ↔
      ∃ g ∈ groups, ∃ l, InBoth env g.1 level l ∧
        entry = (⟨g.1,l,level⟩,optionTable env g.2) := by
  have hmem : ∀ entry' : LevelEntry,
      (level,entry') ∈ (groups.flatMap fun g =>
        yieldSockoptTranslateEntry env g.1 (yieldSocketLwipMatchingEntries env g.2)) ↔
      ∃ g ∈ groups, ∃ l, InBoth env g.1 level l ∧
        entry' = (⟨g.1,l,level⟩,optionTable env g.2) := by
    intro entry'
    simp only [List.mem_flatMap,mem_translateEntry,optionTable]
  rw [sockoptTranslateTable,OrderedDict.get?_ofPairs_iff,hmem]
  intro entry' hentry' hentry
  obtain ⟨g',hg',l',hboth',rfl⟩ := (hmem entry').mp hentry'
  obtain ⟨g,hg,l,hboth,rfl⟩ := (hmem entry).mp hentry
  obtain rfl := group_eq hg' hg (h.levels g' hg' g hg _ _ _ hboth' hboth)
  rw [(hboth'.unique hboth).2]

/-- The translation finds lwIP's pair of the same names. -/
theorem translateSockopt_ok_iff {level optname l o : ℤ} :
    translateSockopt env level optname = .ok (l,o) ↔ SameNames env level optname l o := by
  constructor
  · intro hok
    unfold translateSockopt at hok
    split at hok
    · cases hok
    · next levelEntry table htable =>
      obtain ⟨g,hg,l',hlevel,hentry⟩ := (sockoptTranslateTable_get? h).mp htable
      cases hentry
      split at hok
      · cases hok
      · next e he =>
        obtain ⟨hname,hboth,_⟩ := (optionTable_get? h hg).mp he
        cases hok
        exact ⟨g,hg,e.name,hname,hlevel,hboth⟩
  · rintro ⟨g,hg,name,hname,hlevel,hboth⟩
    have htable := (sockoptTranslateTable_get? h).mpr ⟨g,hg,l,hlevel,rfl⟩
    have hoption : (optionTable env g.2).get? optname = some ⟨name,o,optname⟩ :=
      (optionTable_get? h hg).mpr ⟨hname,hboth,rfl⟩
    simp only [translateSockopt,htable,hoption]

end Lookup

/-- The translation raises nothing but `ValueError`. -/
theorem translateSockopt_error {env : Env} {level optname : ℤ} {err : PyErr}
    (h : translateSockopt env level optname = .error err) : ∃ msg, err = .valueError msg := by
  unfold translateSockopt at h
  split at h
  · cases h
    exact ⟨_,rfl⟩
  · split at h
    · cases h
      exact ⟨_,rfl⟩
    · cases h

end CompatTranslate

open CompatTranslate

/-- A pair that is not translated stops both methods before lwIP is called. -/
theorem sockopt_of_untranslated {env : Env} {level optname : ℤ} {msg : String}
    (h : translateSockopt env level optname = .error (.valueError msg)) (self : Ref) (w : World) :
    (∀ value optlen, Socket.setsockopt env self level optname value optlen w =
      .error (.osError (some ENOPROTOOPT) s!"LwIP: {msg}") w) ∧
    ∀ buflen, Socket.getsockopt env self level optname buflen w =
      .error (.osError (some ENOPROTOOPT) s!"LwIP: {msg}") w := by
  have htranslated : Socket.translated env level optname =
      .error (.osError (some ENOPROTOOPT) s!"LwIP: {msg}") := by
    simp only [Socket.translated,h]
  constructor
  · intro value optlen
    rw [Socket.setsockopt,htranslated,bind_of_error (lift_error _ _)]
  · intro buflen
    rw [Socket.getsockopt,htranslated,bind_of_error (lift_error _ _)]

/-- The translation goes by name. A pair is translated exactly if it has names in both modules,
and then it has no others; any other pair raises, and the two methods make no call. -/
theorem sockopt_translated_by_name {env : Env} (h : Unambiguous env) (level optname : ℤ) :
    (∀ l o, translateSockopt env level optname = .ok (l,o) ↔ SameNames env level optname l o) ∧
    ((¬ ∃ l o, SameNames env level optname l o) →
      (∃ msg, translateSockopt env level optname = .error (.valueError msg)) ∧
      ∀ self w,
        (∀ value optlen, ∃ msg, Socket.setsockopt env self level optname value optlen w =
          .error (.osError (some ENOPROTOOPT) msg) w) ∧
        ∀ buflen, ∃ msg, Socket.getsockopt env self level optname buflen w =
          .error (.osError (some ENOPROTOOPT) msg) w) ∧
    ∀ g ∈ groups, ∀ name, g.2 name = true → ∀ a b, InBoth env g.1 level a →
      InBoth env name optname b → ∀ g' ∈ groups, ∀ name', g'.2 name' = true → ∀ a' b',
      InBoth env g'.1 level a' → InBoth env name' optname b' → g'.1 = g.1 ∧ name' = name := by
  refine ⟨fun l o => translateSockopt_ok_iff h,fun hno => ?_,?_⟩
  · cases hrun : translateSockopt env level optname with
    | ok r => exact absurd ⟨r.1,r.2,(translateSockopt_ok_iff h).mp hrun⟩ hno
    | error err =>
      obtain ⟨msg,rfl⟩ := translateSockopt_error hrun
      refine ⟨⟨msg,rfl⟩,fun self w => ?_⟩
      obtain ⟨hset,hget⟩ := sockopt_of_untranslated hrun self w
      exact ⟨fun value optlen => ⟨_,hset value optlen⟩,fun buflen => ⟨_,hget buflen⟩⟩
  · intro g hg name hname a b hlevel hboth g' hg' name' hname' a' b' hlevel' hboth'
    have heq : g'.1 = g.1 := h.levels g' hg' g hg _ _ _ hlevel' hlevel
    refine ⟨heq,h.options g hg _ _ _ _ _ ?_ hname hboth' hboth⟩
    rwa [← group_eq hg' hg heq]

def linuxEnv : Env :=
  { quietEnv fun _ _ _ => { ret := 0 } with
    lwipDefs := .ofPairs [("SOL_SOCKET",0xfff),("IPPROTO_IP",0),("IPPROTO_TCP",6),
      ("SO_REUSEADDR",4),("SO_BROADCAST",0x20),("IP_TOS",1),("IP_TTL",2),("TCP_KEEPALIVE",2)]
    socketDefs := .ofPairs [("SOL_SOCKET",1),("IPPROTO_IP",0),("IPPROTO_TCP",6),
      ("SO_REUSEADDR",2),("SO_BROADCAST",6),("IP_TOS",1),("IP_TTL",2),("TCP_KEEPIDLE",4)] }

/-- `SO_REUSEADDR` is translated; the number it has in lwIP names no option of `socket`. -/
theorem sockopt_translated_linux :
    translateSockopt linuxEnv 1 2 = .ok (0xfff,4) ∧
    ∃ msg, translateSockopt linuxEnv 1 4 = .error (.valueError msg) := by
  have hclear : Unambiguous linuxEnv := by decide +kernel
  have hlevel : InBoth linuxEnv "SOL_SOCKET" 1 0xfff := ⟨by decide +kernel,by decide +kernel⟩
  have hreuse : InBoth linuxEnv "SO_REUSEADDR" 2 4 := ⟨by decide +kernel,by decide +kernel⟩
  refine ⟨((sockopt_translated_by_name hclear 1 2).1 _ _).mpr ?_,
    ((sockopt_translated_by_name hclear 1 4).2.1 ?_).1⟩
  · exact ⟨_,List.mem_cons_self,"SO_REUSEADDR",by decide +kernel,hlevel,hreuse⟩
  · rintro ⟨l,o,_,_,name,_,_,hoption,hlwip⟩
    have hno : ∀ name ∈ linuxEnv.lwipDefs.keys, linuxEnv.socketDefs.get? name ≠ some 4 := by
      decide +kernel
    exact hno name ((OrderedDict.mem_keys_iff _ _).mpr ⟨o,hlwip⟩) hoption

end LwipPy
