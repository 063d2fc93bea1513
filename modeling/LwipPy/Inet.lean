import LwipPy.World

/-! Text forms of addresses that can be evaluated: IPv4 as four decimal octets, the grammar
of `inet_pton`, and IPv6 as eight groups of four hexadecimal digits, without the abbreviations
`inet_pton` also knows. They make a `Host` on which runs of the model can be computed. -/
namespace LwipPy

open ByteImage

/-- Groups of characters that stand for values and do not contain the separator. -/
structure GroupCodec (α : Type) where
  sep : Char
  text : α → List Char
  value : List Char → Option α
  value_text : ∀ a, value (text a) = some a
  sep_notMem : ∀ a, sep ∉ text a

namespace GroupCodec

variable {α : Type} (c : GroupCodec α)

def join {n : ℕ} (v : Vector α n) : String :=
  String.ofList ([c.sep].intercalate (v.toList.map c.text))

def groups : List (List Char) → Option (List α)
  | [] => some []
  | l::ls => do return (← c.value l) :: (← groups ls)

def split (n : ℕ) (s : String) : Option (Vector α n) := do
  let l ← c.groups (s.toList.splitOn c.sep)
  if h : l.length = n then some ⟨l.toArray,by simpa using h⟩ else none

theorem groups_text (l : List α) : c.groups (l.map c.text) = some l := by
  induction l with
  | nil => rfl
  | cons a l ih => simp [groups,c.value_text,ih]

theorem splitOn_join {n : ℕ} (hn : n ≠ 0) (v : Vector α n) :
    (c.join v).toList.splitOn c.sep = v.toList.map c.text := by
  have hne : v.toList.map c.text ≠ [] := by
    intro h
    have hl := congrArg List.length h
    simp only [List.length_map,Vector.length_toList,List.length_nil] at hl
    exact hn hl
  have hsep : ∀ l ∈ v.toList.map c.text, c.sep ∉ l := by
    intro l hl
    obtain ⟨a,_,rfl⟩ := List.mem_map.mp hl
    exact c.sep_notMem a
  rw [join,String.toList_ofList,List.splitOn_intercalate c.sep hsep hne]

theorem split_join {n : ℕ} (hn : n ≠ 0) (v : Vector α n) : c.split n (c.join v) = some v := by
  simp only [split,c.splitOn_join hn,groups_text]
  simp [Vector.toArray_toList]

theorem groups_eq_some {ls : List (List Char)} {l : List α} (h : c.groups ls = some l) :
    List.Forall₂ (fun text a => c.value text = some a) ls l := by
  induction ls generalizing l with
  | nil =>
    cases h
    exact .nil
  | cons text ls ih =>
    cases hvalue : c.value text with
    | none => simp [groups,hvalue] at h
    | some a =>
      cases hrest : c.groups ls with
      | none => simp [groups,hvalue,hrest] at h
      | some rest =>
        simp only [groups,hvalue,hrest,Option.bind_eq_bind,Option.bind_some,Option.pure_def,
          Option.some.injEq] at h
        rw [← h]
        exact .cons hvalue (ih hrest)

theorem groups_isSome_iff {ls : List (List Char)} :
    (c.groups ls).isSome = true ↔ ∀ text ∈ ls, (c.value text).isSome = true := by
  induction ls with
  | nil => simp [groups]
  | cons text ls ih =>
    cases hvalue : c.value text with
    | none => simp [groups,hvalue]
    | some a => cases hrest : c.groups ls <;> simp_all [groups]

theorem texts_of_groups (hvalue : ∀ text a, c.value text = some a → c.text a = text)
    {ls : List (List Char)} {l : List α} (h : c.groups ls = some l) : l.map c.text = ls := by
  have hall := c.groups_eq_some h
  clear h
  induction hall with
  | nil => rfl
  | cons hhead _ ih => rw [List.map_cons,hvalue _ _ hhead,ih]

/-- What is read in pieces is the text of the values, where each piece is. -/
theorem join_of_split (hvalue : ∀ text a, c.value text = some a → c.text a = text) {n : ℕ}
    {s : String} {v : Vector α n} (h : c.split n s = some v) : c.join v = s := by
  simp only [split,Option.bind_eq_bind,Option.bind_eq_some_iff] at h
  obtain ⟨l,hl,h⟩ := h
  split at h
  · next hn =>
    cases h
    have hlist : (⟨l.toArray,by simpa using hn⟩ : Vector α n).toList = l := rfl
    rw [join,hlist,c.texts_of_groups hvalue hl,List.intercalate_splitOn,String.ofList_toList]
  · cases h

theorem split_isSome_iff {n : ℕ} {s : String} : (c.split n s).isSome = true ↔
    (s.toList.splitOn c.sep).length = n ∧
      ∀ text ∈ s.toList.splitOn c.sep, (c.value text).isSome = true := by
  rw [← c.groups_isSome_iff]
  cases hl : c.groups (s.toList.splitOn c.sep) with
  | none => simp [split,hl]
  | some l =>
    have hlength := (c.groups_eq_some hl).length_eq
    by_cases hn : l.length = n <;> simp [split,hl,hn,hlength]

end GroupCodec

/-- A decimal octet: one to three digits, no superfluous leading zero, at most 255. -/
def octet (s : List Char) : Option UInt8 :=
  if s ≠ [] ∧ s.length ≤ 3 ∧ s.all Char.isDigit ∧ (s.head? = some '0' → s.length = 1) ∧
      Nat.ofDigitChars 10 s 0 ≤ 255 then
    some (UInt8.ofNat (Nat.ofDigitChars 10 s 0))
  else none

def octetText (b : UInt8) : List Char := Nat.toDigits 10 b.toNat

theorem forall_byte {p : UInt8 → Prop} (h : ∀ n : Fin 256, p (UInt8.ofNat n.val)) (b : UInt8) :
    p b := by
  have hb : b.toNat < 256 := b.toNat_lt
  simpa using h ⟨b.toNat,hb⟩

theorem octet_octetText : ∀ b, octet (octetText b) = some b :=
  forall_byte (by decide +kernel)

theorem octetText_noDot : ∀ b, '.' ∉ octetText b :=
  forall_byte (by decide +kernel)

theorem exists_digitChar {c : Char} (h : c.isDigit = true) : ∃ d < 10, c = d.digitChar := by
  have hc : 48 ≤ c.toNat ∧ c.toNat ≤ 57 := Char.isDigit_iff_toNat.mp h
  have hchar : ∀ d : Fin 10, d.val.digitChar.toNat = 48 + d.val := by decide
  refine ⟨c.toNat-48,by omega,Char.toNat_inj.mp ?_⟩
  have hvalue := hchar ⟨c.toNat-48,by omega⟩
  simp only at hvalue
  omega

/-- Digits without a superfluous leading zero are the text of their value. -/
theorem toDigits_ofDigitChars {s : List Char} (hne : s ≠ []) (hdigits : ∀ c ∈ s, c.isDigit = true)
    (hzero : s.head? = some '0' → s.length = 1) :
    Nat.toDigits 10 (Nat.ofDigitChars 10 s 0) = s := by
  induction s using List.reverseRecOn with
  | nil => exact absurd rfl hne
  | append_singleton s c ih =>
    obtain ⟨d,hd,rfl⟩ := exists_digitChar (hdigits c (by simp))
    have hvalue : Nat.ofDigitChars 10 (s ++ [d.digitChar]) 0 = 10*Nat.ofDigitChars 10 s 0 + d := by
      rw [Nat.ofDigitChars_append,Nat.ofDigitChars_cons_digitChar_of_lt_ten hd,Nat.ofDigitChars_nil]
    rw [hvalue]
    by_cases hs : s = []
    · subst hs
      simpa using Nat.toDigits_of_lt_base hd
    · have hhead : (s ++ [d.digitChar]).head? = s.head? := List.head?_append_of_ne_nil _ hs
      have hlength := List.length_pos_iff.mpr hs
      have hlead : s.head? ≠ some '0' := fun h => by
        have hone := hzero (hhead.trans h)
        simp only [List.length_append,List.length_singleton] at hone
        omega
      have hdigits' := ih hs (fun c hc => hdigits c (List.mem_append_left _ hc))
        fun h => absurd h hlead
      have hpos : 0 < Nat.ofDigitChars 10 s 0 := by
        rw [Nat.pos_iff_ne_zero]
        intro h
        rw [h,Nat.toDigits_zero] at hdigits'
        exact hlead (hdigits' ▸ rfl)
      rw [← Nat.toDigits_append_toDigits (by decide) hpos hd,hdigits',Nat.toDigits_of_lt_base hd]

theorem octetText_octet {s : List Char} {b : UInt8} (h : octet s = some b) : octetText b = s := by
  unfold octet at h
  split at h
  · next hoctet =>
    obtain ⟨hne,_,hdigits,hzero,hle⟩ := hoctet
    cases h
    have hvalue : (UInt8.ofNat (Nat.ofDigitChars 10 s 0)).toNat = Nat.ofDigitChars 10 s 0 := by
      rw [UInt8.toNat_ofNat']
      exact Nat.mod_eq_of_lt (Nat.lt_succ_of_le hle)
    rw [octetText,hvalue]
    exact toDigits_ofDigitChars hne (List.all_eq_true.mp hdigits) hzero
  · cases h

def dottedQuad : GroupCodec UInt8 := ⟨'.',octetText,octet,octet_octetText,octetText_noDot⟩

def inetPton4 (s : String) : Option (Vector UInt8 4) := dottedQuad.split 4 s
def inetNtop4 (v : Vector UInt8 4) : String := dottedQuad.join v

def hexDigit (c : Char) : Option ℕ :=
  if '0' ≤ c ∧ c ≤ '9' then some (c.toNat-48)
  else if 'a' ≤ c ∧ c ≤ 'f' then some (c.toNat-87)
  else none

def hexByte (c d : Char) : Option UInt8 := do
  return UInt8.ofNat (16*(← hexDigit c) + (← hexDigit d))

def hexHigh (b : UInt8) : Char := Nat.digitChar (b.toNat/16)
def hexLow (b : UInt8) : Char := Nat.digitChar (b.toNat%16)

theorem hexByte_high_low : ∀ b, hexByte (hexHigh b) (hexLow b) = some b :=
  forall_byte (by decide +kernel)

theorem hex_noColon : ∀ b, ':' ≠ hexHigh b ∧ ':' ≠ hexLow b :=
  forall_byte (by decide +kernel)

def hexGroupText (g : UInt8 × UInt8) : List Char :=
  [hexHigh g.1,hexLow g.1,hexHigh g.2,hexLow g.2]

def hexGroup : List Char → Option (UInt8 × UInt8)
  | [a,b,c,d] => do return (← hexByte a b,← hexByte c d)
  | _ => none

def hexGroups : GroupCodec (UInt8 × UInt8) where
  sep := ':'
  text := hexGroupText
  value := hexGroup
  value_text g := by simp [hexGroupText,hexGroup,hexByte_high_low]
  sep_notMem g := by
    have h₁ := hex_noColon g.1
    have h₂ := hex_noColon g.2
    simp [hexGroupText,h₁,h₂]

def toPairs (v : Vector UInt8 16) : Vector (UInt8 × UInt8) 8 :=
  Vector.ofFn fun i => (v[(⟨2*i.val,by omega⟩ : Fin 16)],v[(⟨2*i.val+1,by omega⟩ : Fin 16)])

def ofPairs (v : Vector (UInt8 × UInt8) 8) : Vector UInt8 16 :=
  Vector.ofFn fun i =>
    let g := v[(⟨i.val/2,by omega⟩ : Fin 8)]
    if i.val % 2 = 0 then g.1 else g.2

theorem ofPairs_toPairs (v : Vector UInt8 16) : ofPairs (toPairs v) = v := by
  ext i hi
  have hlt : i/2 < 8 := by omega
  simp only [ofPairs,toPairs,Fin.getElem_fin,Vector.getElem_ofFn]
  split
  · have h : 2*(i/2) = i := by omega
    simp only [h]
  · have h : 2*(i/2)+1 = i := by omega
    simp only [h]

def inetPton6 (s : String) : Option (Vector UInt8 16) := (hexGroups.split 8 s).map ofPairs
def inetNtop6 (v : Vector UInt8 16) : String := hexGroups.join (toPairs v)

/-- The evaluable text forms. -/
def textInet : Inet where
  pton4 := inetPton4
  ntop4 := inetNtop4
  pton6 := inetPton6
  ntop6 := inetNtop6
  pton4_ntop4 := dottedQuad.split_join (by decide)
  pton6_ntop6 v := by
    simp only [inetPton6,inetNtop6,hexGroups.split_join (by decide) (toPairs v),Option.map_some,
      ofPairs_toPairs]
  pton4_empty := by decide
  pton6_empty := by decide

def littleHost : Host := ⟨.little,textInet⟩

/-- A quiet environment around a given lwIP, with empty constant modules. -/
def quietEnv (reply : List Event → Instance → Call → Reply) : Env where
  reply := reply
  warningRaises _ := false
  host := littleHost
  lwipDefs := ∅
  socketDefs := ∅
  beyond _ := 0
  errorText _ := ""

theorem quietEnv_quiet (reply : List Event → Instance → Call → Reply) : (quietEnv reply).Quiet :=
  fun _ => rfl

example : inetPton4 "10.0.0.1" = some #v[10,0,0,1] := by decide

end LwipPy
