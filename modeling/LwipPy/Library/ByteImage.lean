import Mathlib.Tactic

/-! Byte images with fixed fields, and integers of a fixed width in either byte order.
A field is an offset and a length that lie inside the image, so a write to it cannot
leave the image; two fields that do not overlap do not see each other's writes. -/
namespace ByteImage

/-- A run of `len` bytes inside an image of `n` bytes. -/
structure Field (n len : ℕ) where
  off : ℕ
  within : off + len ≤ n

namespace Field

variable {n l m : ℕ}

def read (f : Field n l) (v : Vector UInt8 n) : Vector UInt8 l :=
  Vector.ofFn fun i => v[(⟨f.off+i.val,by have h := f.within; omega⟩ : Fin n)]

def write (f : Field n l) (v : Vector UInt8 n) (bs : Vector UInt8 l) : Vector UInt8 n :=
  Vector.ofFn fun i =>
    if h : f.off ≤ i.val ∧ i.val < f.off + l then
      bs[(⟨i.val-f.off,by omega⟩ : Fin l)]
    else v[i]

/-- The two fields share no byte. -/
def Apart (f : Field n l) (g : Field n m) : Prop := f.off + l ≤ g.off ∨ g.off + m ≤ f.off

instance (f : Field n l) (g : Field n m) : Decidable (Apart f g) :=
  inferInstanceAs (Decidable (_ ∨ _))

@[simp] theorem read_write (f : Field n l) (v : Vector UInt8 n) (bs : Vector UInt8 l) :
    f.read (f.write v bs) = bs := by
  ext i hi
  simp only [read,write,Fin.getElem_fin,Vector.getElem_ofFn]
  rw [dif_pos ⟨by omega,by omega⟩]
  simp only [Nat.add_sub_cancel_left]

theorem read_write_of_apart {f : Field n l} {g : Field n m} (h : Apart f g)
    (v : Vector UInt8 n) (bs : Vector UInt8 m) : f.read (g.write v bs) = f.read v := by
  ext i hi
  simp only [read,write,Fin.getElem_fin,Vector.getElem_ofFn]
  rw [dif_neg]
  rintro ⟨h₁,h₂⟩
  rcases h with h | h <;> omega

end Field

def bytesLE : ℕ → ℕ → List UInt8
  | 0, _ => []
  | w+1, x => UInt8.ofNat x :: bytesLE w (x/256)

def valueLE : List UInt8 → ℕ
  | [] => 0
  | b::bs => b.toNat + 256*valueLE bs

@[simp] theorem bytesLE_length (w x : ℕ) : (bytesLE w x).length = w := by
  induction w generalizing x with
  | zero => rfl
  | succ w ih => simp [bytesLE,ih]

theorem valueLE_bytesLE (w x : ℕ) : valueLE (bytesLE w x) = x % 256^w := by
  induction w generalizing x with
  | zero => simp [bytesLE,valueLE,Nat.mod_one]
  | succ w ih =>
    have hx : (UInt8.ofNat x).toNat = x % 256 := by simp
    simp only [bytesLE,valueLE,ih,hx]
    rw [Nat.pow_succ,Nat.mul_comm (256^w),Nat.mod_mul]

theorem bytesLE_valueLE (bs : List UInt8) : bytesLE bs.length (valueLE bs) = bs := by
  induction bs with
  | nil => rfl
  | cons b bs ih =>
    have hb : b.toNat < 256 := b.toNat_lt
    have hhead : UInt8.ofNat (b.toNat + 256*valueLE bs) = b := by
      apply UInt8.toNat_inj.mp
      simp only [UInt8.toNat_ofNat']
      omega
    have htail : (b.toNat + 256*valueLE bs) / 256 = valueLE bs := by omega
    simp only [List.length_cons,bytesLE,valueLE,hhead,htail,ih]

theorem valueLE_lt (bs : List UInt8) : valueLE bs < 256^bs.length := by
  induction bs with
  | nil => simp [valueLE]
  | cons b bs ih =>
    have hb : b.toNat < 256 := b.toNat_lt
    simp only [valueLE,List.length_cons,Nat.pow_succ]
    omega

inductive Endian
  | little | big
  deriving DecidableEq, Repr

namespace Endian

/-- The `w` bytes a machine of this order stores for `x`. -/
def encode (e : Endian) (w x : ℕ) : Vector UInt8 w :=
  match e with
  | .little => ⟨(bytesLE w x).toArray,by simp⟩
  | .big => ⟨(bytesLE w x).reverse.toArray,by simp⟩

def decode (e : Endian) {w : ℕ} (v : Vector UInt8 w) : ℕ :=
  match e with
  | .little => valueLE v.toList
  | .big => valueLE v.toList.reverse

@[simp] theorem decode_encode (e : Endian) (w x : ℕ) : e.decode (e.encode w x) = x % 256^w := by
  cases e <;> simp [encode,decode,valueLE_bytesLE]

theorem decode_encode_of_lt (e : Endian) (w : ℕ) {x : ℕ} (h : x < 256^w) :
    e.decode (e.encode w x) = x := by
  rw [decode_encode,Nat.mod_eq_of_lt h]

@[simp] theorem encode_decode (e : Endian) {w : ℕ} (v : Vector UInt8 w) :
    e.encode w (e.decode v) = v := by
  rcases v with ⟨⟨bs⟩,rfl⟩
  cases e
  · simp [encode,decode,bytesLE_valueLE]
  · have h : bytesLE bs.length (valueLE bs.reverse) = bs.reverse := by
      simpa using bytesLE_valueLE bs.reverse
    simp [encode,decode,h]

theorem decode_lt (e : Endian) {w : ℕ} (v : Vector UInt8 w) : e.decode v < 256^w := by
  cases e
  · simpa [decode] using valueLE_lt v.toList
  · simpa [decode] using valueLE_lt v.toList.reverse

/-- Exchange the bytes of a `w`-byte number when the host is not big endian. -/
def toNetwork (e : Endian) (w x : ℕ) : ℕ := e.decode (big.encode w x)

/-- Storing a converted number in host order leaves its network-order bytes. -/
@[simp] theorem encode_toNetwork (e : Endian) (w x : ℕ) :
    e.encode w (e.toNetwork w x) = big.encode w x := by
  simp [toNetwork]

theorem toNetwork_decode (e : Endian) {w : ℕ} (v : Vector UInt8 w) :
    e.toNetwork w (e.decode v) = big.decode v := by
  cases e
  · simp only [toNetwork,encode,decode]
    have h := bytesLE_valueLE v.toList
    rw [Vector.length_toList] at h
    simp [h]
  · simp [toNetwork]

end Endian

end ByteImage
