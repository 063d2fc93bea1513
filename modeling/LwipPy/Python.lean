import LwipPy.Library.ByteImage

/-! What the binding takes from Python, cffi and the host's C library: the exceptions it
raises, the conversion of Python integers to C integers, and the text form of addresses. -/
namespace LwipPy

open ByteImage

inductive Warning
  | errnoBefore (errno : ℤ) (functionName : String)
  | errnoOnSuccess (functionName : String) (ret errno : ℤ)
  deriving DecidableEq, Repr

/-- The exceptions the modelled code raises. Texts are kept where the source writes them. -/
inductive PyErr
  | valueError (msg : String)
  | typeError
  | overflowError
  | keyError
  | assertionError (msg : String)
  | runtimeError (msg : String)
  | notImplementedError
  | osError (errno : Option ℤ) (msg : String)
  | lwipError (msg : String)
  | connectionError (msg : String)
  | runtimeWarning (w : Warning)
  /-- Not an exception: the run has used up the steps it was given and is still going. -/
  | stillRunning
  deriving DecidableEq, Repr

/-- cffi's conversion to an unsigned C integer of `bits` bits. -/
def toUnsigned (bits : ℕ) (x : ℤ) : Except PyErr ℕ :=
  if 0 ≤ x ∧ x < 2^bits then .ok x.toNat else .error .overflowError

/-- cffi's conversion to a signed C integer of `bits` bits. -/
def toSigned (bits : ℕ) (x : ℤ) : Except PyErr ℤ :=
  if -2^(bits-1) ≤ x ∧ x < 2^(bits-1) then .ok x else .error .overflowError

theorem toUnsigned_ok {bits : ℕ} {x : ℤ} {n : ℕ} :
    toUnsigned bits x = .ok n ↔ (n : ℤ) = x ∧ n < 2^bits := by
  unfold toUnsigned
  split_ifs with h
  · rw [Except.ok.injEq]
    constructor
    · rintro rfl
      exact ⟨by omega,by zify; omega⟩
    · rintro ⟨rfl,_⟩
      rfl
  · simp only [false_iff]
    rintro ⟨rfl,hn⟩
    exact h ⟨by omega,by exact_mod_cast hn⟩

theorem toSigned_ok {bits : ℕ} {x y : ℤ} :
    toSigned bits x = .ok y ↔ y = x ∧ -2^(bits-1) ≤ x ∧ x < 2^(bits-1) := by
  unfold toSigned
  split_ifs with h
  · simp [h,eq_comm]
  · simp only [false_iff]
    exact fun hy => h hy.2

theorem toSigned_error {bits : ℕ} {x : ℤ} {e : PyErr} (h : toSigned bits x = .error e) :
    e = .overflowError := by
  unfold toSigned at h
  split at h <;> cases h
  rfl

/-- A value of the C type `int`. -/
def CInt (v : ℤ) : Prop := -2^31 ≤ v ∧ v < 2^31

theorem CInt.toSigned {v : ℤ} (h : CInt v) : toSigned 32 v = .ok v :=
  toSigned_ok.mpr ⟨rfl,h⟩

theorem toSigned_not_cInt {v : ℤ} (h : ¬ CInt v) : toSigned 32 v = .error .overflowError :=
  if_neg h

/-- `socket.inet_pton` and `socket.inet_ntop` for the two families. They are inverse on
addresses, and the empty text is no address. -/
structure Inet where
  pton4 : String → Option (Vector UInt8 4)
  ntop4 : Vector UInt8 4 → String
  pton6 : String → Option (Vector UInt8 16)
  ntop6 : Vector UInt8 16 → String
  pton4_ntop4 : ∀ b, pton4 (ntop4 b) = some b
  pton6_ntop6 : ∀ b, pton6 (ntop6 b) = some b
  pton4_empty : pton4 "" = none
  pton6_empty : pton6 "" = none

theorem Inet.ntop4_ne_empty (inet : Inet) (b : Vector UInt8 4) : inet.ntop4 b ≠ "" := by
  intro h
  have hb := inet.pton4_ntop4 b
  rw [h,inet.pton4_empty] at hb
  cases hb

theorem Inet.ntop6_ne_empty (inet : Inet) (b : Vector UInt8 16) : inet.ntop6 b ≠ "" := by
  intro h
  have hb := inet.pton6_ntop6 b
  rw [h,inet.pton6_empty] at hb
  cases hb

/-- What `socket.inet_pton` raises for a text that it does not take; C gets the text up to a NUL. -/
def inetPtonError (text : String) : PyErr :=
  if text.contains (Char.ofNat 0) then .valueError "embedded null character"
  else .osError none "illegal IP address string passed to inet_pton"

/-- The machine and C library the binding runs on. -/
structure Host where
  endian : Endian
  inet : Inet

/-- `socket.htons`: a 16-bit number from host to network order. -/
def Host.htons (host : Host) (x : ℤ) : Except PyErr ℕ :=
  (toUnsigned 16 x).map (host.endian.toNetwork 2)

def Host.ntohs (host : Host) (x : ℕ) : ℕ := host.endian.toNetwork 2 x

end LwipPy
