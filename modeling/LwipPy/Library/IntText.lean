import Mathlib.Tactic
import Mathlib.Data.List.DropRight

/-! Integers as text: literals with a sign, white space around them and underscores between their
digits, as Python reads them, and numbers printed in hexadecimal with leading zeros. -/
namespace IntText

/-- White space in ASCII. -/
def space (c : Char) : Bool := c ∈ ['\t','\n','\x0b','\x0c','\r',' ']

def digitValue (c : Char) : Option ℕ :=
  if '0' ≤ c ∧ c ≤ '9' then some (c.toNat-48)
  else if 'a' ≤ c ∧ c ≤ 'z' then some (c.toNat-87)
  else if 'A' ≤ c ∧ c ≤ 'Z' then some (c.toNat-55)
  else none

def digit (base : ℕ) (c : Char) : Option ℕ := (digitValue c).filter (· < base)

/-- The number whose digits are those of `n` followed by the characters. -/
def valueFrom (base : ℕ) : ℕ → List Char → Option ℕ
  | n, [] => some n
  | n, c::cs => (digit base c).bind fun d => valueFrom base (base*n+d) cs

/-- Digits with single underscores between them, at most `limit` of them (0 is no limit). -/
def numeral (limit base : ℕ) (cs : List Char) : Option ℕ :=
  let digits := cs.filter (· ≠ '_')
  if [] ∈ cs.splitOn '_' ∨ (0 < limit ∧ limit < digits.length) then none
  else valueFrom base 0 digits

def signed (read : List Char → Option ℕ) : List Char → Option ℤ
  | '+'::cs => (read cs).map Int.ofNat
  | '-'::cs => (read cs).map fun n : ℕ => -(n : ℤ)
  | cs => (read cs).map Int.ofNat

def strip (cs : List Char) : List Char := (cs.dropWhile space).rdropWhile space

def dropUnderscore : List Char → List Char
  | '_'::cs => cs
  | cs => cs

/-- `0x` -/
def dropPrefix : List Char → List Char
  | '0' :: 'x' :: cs => dropUnderscore cs
  | '0' :: 'X' :: cs => dropUnderscore cs
  | cs => cs

def decimalLiteral (limit : ℕ) (cs : List Char) : Option ℤ := signed (numeral limit 10) (strip cs)

/-- The limit is for bases that are no power of two. -/
def hexLiteral (cs : List Char) : Option ℤ :=
  signed (fun cs => numeral 0 16 (dropPrefix cs)) (strip cs)

/-- An interpreter's `int`: the white space and the decimal digits beyond ASCII are those of its
Unicode tables, and it may limit the decimal digits it reads. -/
structure Interpreter where
  wideSpace : Char → Bool
  wideDecimal : Char → Option (Fin 10)
  /-- 0 is no limit -/
  maxStrDigits : ℕ
  maxStrDigits_floor : maxStrDigits = 0 ∨ 640 ≤ maxStrDigits

namespace Interpreter

/-- What stands for a character when numbers are read; `?` is in no number. -/
def ascii (py : Interpreter) (c : Char) : Char :=
  if c.toNat < 128 then c
  else if py.wideSpace c then ' '
  else match py.wideDecimal c with
    | some d => d.val.digitChar
    | none => '?'

/-- `int(s)` -/
def int (py : Interpreter) (cs : List Char) : Option ℤ :=
  decimalLiteral py.maxStrDigits (cs.map py.ascii)

/-- `int(s, 16)` -/
def intHex (py : Interpreter) (cs : List Char) : Option ℤ := hexLiteral (cs.map py.ascii)

end Interpreter

/-- `f"{x:0{w}x}"` -/
def formatHex (w : ℕ) (x : ℤ) : List Char :=
  if x < 0 then '-' :: (Nat.toDigits 16 x.natAbs).leftpad (w-1) '0'
  else (Nat.toDigits 16 x.natAbs).leftpad w '0'

section Digits

variable {base n : ℕ} {c : Char} {cs ds : List Char}

theorem digit_digitChar (hbase : base ≤ 16) (hn : n < base) : digit base n.digitChar = some n := by
  have hvalue : ∀ m : Fin 16, digitValue m.val.digitChar = some m.val := by decide
  rw [digit,hvalue ⟨n,by omega⟩]
  simpa using hn

theorem valueFrom_append : valueFrom base n (cs ++ ds) =
    (valueFrom base n cs).bind fun m => valueFrom base m ds := by
  induction cs generalizing n with
  | nil => rfl
  | cons c cs ih =>
    cases hc : digit base c <;> simp [valueFrom,hc,ih]

/-- What comes before counts for as many places as follow. -/
theorem valueFrom_eq_map :
    valueFrom base n cs = (valueFrom base 0 cs).map (base^cs.length*n + ·) := by
  induction cs generalizing n with
  | nil => simp [valueFrom]
  | cons c cs ih =>
    cases hc : digit base c with
    | none => simp [valueFrom,hc]
    | some d =>
      simp only [valueFrom,hc,Option.bind_some,Nat.mul_zero,Nat.zero_add]
      rw [ih,ih (n := d),Option.map_map]
      congr 1
      funext v
      simp only [Function.comp_apply,List.length_cons]
      ring

theorem valueFrom_isSome_iff :
    (valueFrom base n cs).isSome = true ↔ ∀ c ∈ cs, (digit base c).isSome = true := by
  induction cs generalizing n with
  | nil => simp [valueFrom]
  | cons c cs ih =>
    cases hc : digit base c with
    | none => simp [valueFrom,hc]
    | some d => simp [valueFrom,hc,ih]

theorem mem_toDigits (hbase : 1 < base) (h : c ∈ Nat.toDigits base n) :
    ∃ m < base, c = m.digitChar := by
  induction n using Nat.strong_induction_on with
  | _ n ih =>
    rw [Nat.toDigits_eq_if hbase] at h
    split at h
    · next hn => exact ⟨n,hn,List.mem_singleton.mp h⟩
    · next hn =>
      rcases List.mem_append.mp h with h | h
      · exact ih (n/base) (Nat.div_lt_self (by omega) hbase) h
      · exact ⟨n % base,Nat.mod_lt n (by omega),List.mem_singleton.mp h⟩

theorem digit_of_mem_toDigits (hlow : 1 < base) (hhigh : base ≤ 16)
    (h : c ∈ Nat.toDigits base n) : (digit base c).isSome = true := by
  obtain ⟨m,hm,rfl⟩ := mem_toDigits hlow h
  rw [digit_digitChar hhigh hm]
  rfl

theorem valueFrom_toDigits (hlow : 1 < base) (hhigh : base ≤ 16) :
    valueFrom base 0 (Nat.toDigits base n) = some n := by
  induction n using Nat.strong_induction_on with
  | _ n ih =>
    rw [Nat.toDigits_eq_if hlow]
    split
    · next hn => simp [valueFrom,digit_digitChar hhigh hn]
    · next hn =>
      have hmod : n % base < base := Nat.mod_lt n (by omega)
      rw [valueFrom_append,ih (n/base) (Nat.div_lt_self (by omega) hlow)]
      simp [valueFrom,digit_digitChar hhigh hmod,Nat.div_add_mod]

end Digits

section Literals

variable {base limit : ℕ} {c : Char} {cs : List Char} {read : List Char → Option ℕ}

theorem strip_of_noSpace (h : ∀ c ∈ cs, space c = false) : strip cs = cs := by
  have hleft : cs.dropWhile space = cs := by
    cases cs with
    | nil => rfl
    | cons c cs => exact List.dropWhile_cons_of_neg (by simp [h c List.mem_cons_self])
  rw [strip,hleft,List.rdropWhile_eq_self_iff]
  intro hne
  simp [h _ (List.getLast_mem hne)]

/-- Digits alone make a numeral. -/
theorem numeral_of_digits (hne : cs ≠ []) (h : ∀ c ∈ cs, (digit base c).isSome = true)
    (hlimit : limit = 0 ∨ cs.length ≤ limit) : numeral limit base cs = valueFrom base 0 cs := by
  have hno : '_' ∉ cs := fun hmem => by simpa [digit,digitValue] using h _ hmem
  have hsplit : cs.splitOn '_' = [cs] := List.splitOn_eq_singleton hno
  have hdigits : cs.filter (· ≠ '_') = cs := by
    refine List.filter_eq_self.mpr fun c hc => ?_
    have hne : c ≠ '_' := fun heq => hno (heq ▸ hc)
    simpa using hne
  have hshort : ¬ (0 < limit ∧ limit < cs.length) := by omega
  simp only [numeral,hsplit,hdigits,List.mem_singleton,hne.symm,hshort,or_self,if_false]

/-- A character that is neither digit nor underscore spoils a numeral. -/
theorem numeral_eq_none (hmem : c ∈ cs) (hc : c ≠ '_') (h : digit base c = none) :
    numeral limit base cs = none := by
  have hdigits : c ∈ cs.filter (· ≠ '_') := List.mem_filter.mpr ⟨hmem,by simpa using hc⟩
  have hvalue : valueFrom base 0 (cs.filter (· ≠ '_')) = none := by
    rw [← Option.not_isSome_iff_eq_none,valueFrom_isSome_iff]
    intro hall
    simpa [h] using hall c hdigits
  simp only [numeral,hvalue,ite_self]

theorem signed_of_digits (h : ∀ c ∈ cs, (digit base c).isSome = true) :
    signed read cs = (read cs).map Int.ofNat := by
  cases cs with
  | nil => rfl
  | cons c cs =>
    have hc := h c List.mem_cons_self
    unfold signed
    split
    · next heq =>
      cases heq
      simp [digit,digitValue] at hc
    · next heq =>
      cases heq
      simp [digit,digitValue] at hc
    · rfl

theorem dropPrefix_of_digits (h : ∀ c ∈ cs, (digit 16 c).isSome = true) : dropPrefix cs = cs := by
  unfold dropPrefix
  split
  · have hx := h 'x' (by simp)
    cases hx
  · have hx := h 'X' (by simp)
    cases hx
  · rfl

theorem mem_dropPrefix (hmem : c ∈ cs) (hc : c ∉ ['0','x','X','_']) : c ∈ dropPrefix cs := by
  have hunderscore : ∀ ds, c ∈ ds → c ∈ dropUnderscore ds := by
    intro ds hds
    unfold dropUnderscore
    split
    · rcases List.mem_cons.mp hds with rfl | hds
      · simp at hc
      · exact hds
    · exact hds
  simp only [List.mem_cons,List.not_mem_nil,or_false,not_or] at hc
  unfold dropPrefix
  split
  · simp only [List.mem_cons,hc,false_or] at hmem
    exact hunderscore _ hmem
  · simp only [List.mem_cons,hc,false_or] at hmem
    exact hunderscore _ hmem
  · exact hmem

theorem space_of_digit (h : (digit base c).isSome = true) : space c = false := by
  rw [← Bool.not_eq_true]
  intro hspace
  simp only [space,List.mem_cons,List.not_mem_nil,or_false,decide_eq_true_eq] at hspace
  rcases hspace with rfl | rfl | rfl | rfl | rfl | rfl <;> simp [digit,digitValue] at h

theorem decimalLiteral_of_digits (hne : cs ≠ []) (h : ∀ c ∈ cs, (digit 10 c).isSome = true)
    (hlimit : limit = 0 ∨ cs.length ≤ limit) :
    decimalLiteral limit cs = (valueFrom 10 0 cs).map Int.ofNat := by
  rw [decimalLiteral,strip_of_noSpace fun c hc => space_of_digit (h c hc),signed_of_digits h,
    numeral_of_digits hne h hlimit]

theorem hexLiteral_of_digits (hne : cs ≠ []) (h : ∀ c ∈ cs, (digit 16 c).isSome = true) :
    hexLiteral cs = (valueFrom 16 0 cs).map Int.ofNat := by
  rw [hexLiteral,strip_of_noSpace fun c hc => space_of_digit (h c hc),signed_of_digits h,
    dropPrefix_of_digits h,numeral_of_digits hne h (.inl rfl)]

theorem hexLiteral_minus (hne : cs ≠ []) (h : ∀ c ∈ cs, (digit 16 c).isSome = true) :
    hexLiteral ('-'::cs) = (valueFrom 16 0 cs).map fun n : ℕ => -(n : ℤ) := by
  have hspace : ∀ c ∈ '-'::cs, space c = false := by
    intro c hc
    rcases List.mem_cons.mp hc with rfl | hc
    · rfl
    · exact space_of_digit (h c hc)
  rw [hexLiteral,strip_of_noSpace hspace,signed,dropPrefix_of_digits h,
    numeral_of_digits hne h (.inl rfl)]

/-- A minus sign is allowed in the first place only. -/
theorem hexLiteral_eq_none (hspace : ∀ d ∈ c::cs, space d = false) (h : '-' ∈ cs) :
    hexLiteral (c::cs) = none := by
  have hnone : ∀ ds : List Char, '-' ∈ ds → numeral 0 16 (dropPrefix ds) = none := fun ds hds =>
    numeral_eq_none (mem_dropPrefix hds (by decide)) (by decide) (by decide)
  rw [hexLiteral,strip_of_noSpace hspace]
  unfold signed
  split
  · next heq =>
    cases heq
    simp [hnone _ h]
  · next heq =>
    cases heq
    simp [hnone _ h]
  · simp [hnone (c::cs) (List.mem_cons_of_mem c h)]

end Literals

section Format

variable {w n m : ℕ} {x : ℤ} {c : Char} {rest : List Char}

theorem formatHex_natCast : formatHex w n = (Nat.toDigits 16 n).leftpad w '0' := by
  simp [formatHex]

theorem digit_of_mem_leftpad (h : c ∈ (Nat.toDigits 16 n).leftpad w '0') :
    (digit 16 c).isSome = true := by
  rcases List.mem_append.mp h with h | h
  · rw [List.eq_of_mem_replicate h]
    decide
  · exact digit_of_mem_toDigits (by decide) le_rfl h

theorem digit_of_mem_formatHex (h : c ∈ formatHex w n) : (digit 16 c).isSome = true := by
  rw [formatHex_natCast] at h
  exact digit_of_mem_leftpad h

theorem leftpad_ne_nil : (Nat.toDigits 16 n).leftpad w '0' ≠ [] := by
  simp [List.leftpad]

theorem valueFrom_replicate_zero (k : ℕ) : valueFrom 16 0 (List.replicate k '0') = some 0 := by
  induction k with
  | zero => rfl
  | succ k ih => exact ih

theorem valueFrom_formatHex : valueFrom 16 0 (formatHex w n) = some n := by
  rw [formatHex_natCast,List.leftpad,valueFrom_append,valueFrom_replicate_zero,Option.bind_some,
    valueFrom_toDigits (by decide) le_rfl]

theorem length_formatHex (hw : 0 < w) (h : n < 16^w) : (formatHex w n).length = w := by
  have hle := (Nat.length_toDigits_le_iff (by decide : 1 < 16) hw).mpr h
  rw [formatHex_natCast,List.leftpad,List.length_append,List.length_replicate]
  omega

/-- What a number that fills its width adds to the number before it. -/
theorem valueFrom_formatHex_append (hw : 0 < w) (h : n < 16^w) :
    valueFrom 16 m (formatHex w n) = some (16^w*m + n) := by
  rw [valueFrom_eq_map,valueFrom_formatHex,Option.map_some,length_formatHex hw h]

theorem formatHex_chars (h : c ∈ formatHex w x) : c = '-' ∨ (digit 16 c).isSome = true := by
  unfold formatHex at h
  split at h
  · rcases List.mem_cons.mp h with h | h
    · exact .inl h
    · exact .inr (digit_of_mem_leftpad h)
  · exact .inr (digit_of_mem_leftpad h)

theorem formatHex_ne_nil : formatHex w x ≠ [] := by
  unfold formatHex
  split
  · exact List.cons_ne_nil _ _
  · exact leftpad_ne_nil

theorem minus_mem_formatHex_iff : '-' ∈ formatHex w x ↔ x < 0 := by
  unfold formatHex
  split
  · next hx => exact iff_of_true List.mem_cons_self hx
  · next hx => exact iff_of_false (fun hmem => by
      simpa [digit,digitValue] using digit_of_mem_leftpad hmem) hx

/-- A text that starts with a printed number is a literal exactly if no sign follows it. -/
theorem hexLiteral_formatHex_isSome_iff
    (hrest : ∀ c ∈ rest, c = '-' ∨ (digit 16 c).isSome = true) :
    (hexLiteral (formatHex w x ++ rest)).isSome = true ↔ '-' ∉ rest := by
  constructor
  · intro hsome hmem
    have hspace : ∀ c ∈ formatHex w x ++ rest, space c = false := by
      intro c hc
      rcases (List.mem_append.mp hc).elim formatHex_chars (hrest c) with rfl | hdigit
      · rfl
      · exact space_of_digit hdigit
    obtain ⟨c,cs,hcs⟩ := List.exists_cons_of_ne_nil (formatHex_ne_nil (w := w) (x := x))
    rw [hcs,List.cons_append] at hsome hspace
    rw [hexLiteral_eq_none hspace (List.mem_append_right cs hmem)] at hsome
    cases hsome
  · intro hno
    have hdigits : ∀ v, ∀ c ∈ (Nat.toDigits 16 x.natAbs).leftpad v '0' ++ rest,
        (digit 16 c).isSome = true := by
      intro v c hc
      rcases List.mem_append.mp hc with hc | hc
      · exact digit_of_mem_leftpad hc
      · exact (hrest c hc).resolve_left fun heq => hno (heq ▸ hc)
    have hne : ∀ v, (Nat.toDigits 16 x.natAbs).leftpad v '0' ++ rest ≠ [] := fun v =>
      List.append_ne_nil_of_left_ne_nil leftpad_ne_nil rest
    by_cases hx : x < 0
    · rw [formatHex,if_pos hx,List.cons_append,hexLiteral_minus (hne _) (hdigits _),
        Option.isSome_map]
      exact valueFrom_isSome_iff.mpr (hdigits _)
    · rw [formatHex,if_neg hx,hexLiteral_of_digits (hne _) (hdigits _),Option.isSome_map]
      exact valueFrom_isSome_iff.mpr (hdigits _)

end Format

namespace Interpreter

variable {base n w : ℕ} {x : ℤ} {c : Char} {cs rest : List Char} (py : Interpreter)

theorem toNat_lt_of_digit (h : (digit base c).isSome = true) : c.toNat < 128 := by
  have hle : ∀ {d : Char}, c ≤ d → c.toNat ≤ d.toNat := fun hd =>
    UInt32.le_iff_toNat_le.mp (Char.le_def.mp hd)
  unfold digit digitValue at h
  split_ifs at h with h₉ hz hZ
  · exact (hle h₉.2).trans_lt (by decide)
  · exact (hle hz.2).trans_lt (by decide)
  · exact (hle hZ.2).trans_lt (by decide)
  · cases h

theorem map_ascii (h : ∀ c ∈ cs, c.toNat < 128) : cs.map py.ascii = cs := by
  conv_rhs => rw [← List.map_id cs]
  exact List.map_congr_left fun c hc => if_pos (h c hc)

theorem intHex_of_digits (hne : cs ≠ []) (h : ∀ c ∈ cs, (digit 16 c).isSome = true) :
    py.intHex cs = (valueFrom 16 0 cs).map Int.ofNat := by
  rw [intHex,py.map_ascii fun c hc => toNat_lt_of_digit (h c hc),hexLiteral_of_digits hne h]

/-- No limit is as low as 640 digits. -/
theorem int_toDigits (h : (Nat.toDigits 10 n).length ≤ 640) :
    py.int (Nat.toDigits 10 n) = some (n : ℤ) := by
  have hdigits : ∀ c ∈ Nat.toDigits 10 n, (digit 10 c).isSome = true := fun c hc =>
    digit_of_mem_toDigits (by decide) (by decide) hc
  have hlimit : py.maxStrDigits = 0 ∨ (Nat.toDigits 10 n).length ≤ py.maxStrDigits :=
    py.maxStrDigits_floor.imp_right h.trans
  rw [int,py.map_ascii fun c hc => toNat_lt_of_digit (hdigits c hc),
    decimalLiteral_of_digits Nat.toDigits_ne_nil hdigits hlimit,
    valueFrom_toDigits (by decide) (by decide)]
  rfl

theorem intHex_formatHex_isSome_iff
    (hrest : ∀ c ∈ rest, c = '-' ∨ (digit 16 c).isSome = true) :
    (py.intHex (formatHex w x ++ rest)).isSome = true ↔ '-' ∉ rest := by
  have hascii : ∀ c ∈ formatHex w x ++ rest, c.toNat < 128 := by
    intro c hc
    rcases (List.mem_append.mp hc).elim formatHex_chars (hrest c) with rfl | hdigit
    · decide
    · exact toNat_lt_of_digit hdigit
  rw [intHex,py.map_ascii hascii,hexLiteral_formatHex_isSome_iff hrest]

end Interpreter

end IntText
