import Mathlib.Data.Fin.Tuple.Basic

/-!
# Memory images

A value in memory is a number of bytes that depends on its type only.  Padding makes several images
stand for one value, and not every image stands for a value.  A `Layout` reads a value off the front
of some bytes, and the combinators build the layout of a record or an array from those of its parts.
-/

/-- The memory images of the values of a type. -/
structure Layout (α : Type) where
  size : Nat
  read : List UInt8 → Option (α × List UInt8)
  /-- One image of a value. -/
  write : α → List UInt8
  read_write : ∀ v rest, read (write v ++ rest) = some (v, rest)
  length_read : ∀ bytes v rest, read bytes = some (v, rest) → bytes.length = size + rest.length

namespace Layout

variable {α β : Type}

/-- The bytes are an image of the value. -/
def Image (L : Layout α) (bytes : List UInt8) (v : α) : Prop := L.read bytes = some (v, [])

theorem Image.length {L : Layout α} {bytes : List UInt8} {v : α} (h : L.Image bytes v) :
    bytes.length = L.size := L.length_read bytes v [] h

theorem image_write (L : Layout α) (v : α) : L.Image (L.write v) v := by
  have h := L.read_write v []
  rw [List.append_nil] at h
  exact h

/-- An image stands for one value. -/
theorem Image.unique {L : Layout α} {bytes : List UInt8} {u v : α} (hu : L.Image bytes u)
    (hv : L.Image bytes v) : u = v := by
  have h : some (u, ([] : List UInt8)) = some (v, []) := hu.symm.trans hv
  cases h
  rfl

/-! ## Bytes -/

/-- One byte. -/
def byte : Layout UInt8 where
  size := 1
  read
    | [] => none
    | b :: rest => some (b, rest)
  write b := [b]
  read_write := fun _ _ => rfl
  length_read := by
    intro bytes v rest h
    cases bytes with
    | nil => cases h
    | cons b bytes =>
      cases h
      exact Nat.add_comm _ _

/-- Padding, which holds whatever was there. -/
def pad (n : Nat) : Layout Unit where
  size := n
  read bytes := if n ≤ bytes.length then some ((), bytes.drop n) else none
  write _ := List.replicate n 0
  read_write := by
    intro _ rest
    have hlen : (List.replicate n (0 : UInt8)).length = n := List.length_replicate
    rw [if_pos]
    · rw [List.drop_left' hlen]
    · rw [List.length_append]
      omega
  length_read := by
    intro bytes _ rest h
    split at h
    · cases h
      rw [List.length_drop]
      omega
    · cases h

/-! ## Records and arrays -/

/-- One part after the other. -/
def seq (a : Layout α) (b : Layout β) : Layout (α × β) where
  size := a.size + b.size
  read bytes := do
    let (v, rest) ← a.read bytes
    let (u, rest) ← b.read rest
    pure ((v, u), rest)
  write p := a.write p.1 ++ b.write p.2
  read_write := by
    intro p rest
    rw [List.append_assoc, a.read_write]
    show (do let (u, rest) ← b.read (b.write p.2 ++ rest); pure ((p.1, u), rest)) = _
    rw [b.read_write]
    rfl
  length_read := by
    intro bytes p rest h
    obtain ⟨⟨v, rest₁⟩, h₁, h⟩ := Option.bind_eq_some_iff.mp h
    obtain ⟨⟨u, rest₂⟩, h₂, h⟩ := Option.bind_eq_some_iff.mp h
    cases h
    have hlen₁ := a.length_read bytes v rest₁ h₁
    have hlen₂ := b.length_read rest₁ u rest h₂
    omega

/-- The images of another type whose values these stand for. -/
def via (a : Layout α) (ofRep : α → Option β) (toRep : β → α)
    (h : ∀ v, ofRep (toRep v) = some v) : Layout β where
  size := a.size
  read bytes := do
    let (v, rest) ← a.read bytes
    let u ← ofRep v
    pure (u, rest)
  write u := a.write (toRep u)
  read_write := by
    intro u rest
    rw [a.read_write]
    show (do let u ← ofRep (toRep u); pure (u, rest)) = _
    rw [h]
    rfl
  length_read := by
    intro bytes u rest hread
    obtain ⟨⟨v, rest₁⟩, h₁, hread⟩ := Option.bind_eq_some_iff.mp hread
    obtain ⟨_, _, hread⟩ := Option.bind_eq_some_iff.mp hread
    cases hread
    exact a.length_read bytes v rest h₁

/-- The values of an array, in order. -/
def readMany (a : Layout α) : (n : Nat) → List UInt8 → Option ((Fin n → α) × List UInt8)
  | 0, bytes => some (Fin.elim0, bytes)
  | n + 1, bytes => do
    let (v, rest) ← a.read bytes
    let (t, rest) ← readMany a n rest
    pure (Fin.cons v t, rest)

def writeMany (a : Layout α) : (n : Nat) → (Fin n → α) → List UInt8
  | 0, _ => []
  | n + 1, t => a.write (t 0) ++ writeMany a n (Fin.tail t)

theorem readMany_writeMany (a : Layout α) {n : Nat} (t : Fin n → α) (rest : List UInt8) :
    a.readMany n (a.writeMany n t ++ rest) = some (t, rest) := by
  induction n with
  | zero =>
    rw [Subsingleton.elim t Fin.elim0]
    rfl
  | succ n ih =>
    rw [writeMany, List.append_assoc, readMany, a.read_write]
    show (do
      let (t', rest) ← a.readMany n (a.writeMany n (Fin.tail t) ++ rest)
      pure (Fin.cons (t 0) t', rest)) = some (t, rest)
    rw [ih]
    exact congrArg (fun t => some (t, rest)) (Fin.cons_self_tail t)

theorem length_readMany (a : Layout α) {n : Nat} {bytes rest : List UInt8} {t : Fin n → α}
    (h : a.readMany n bytes = some (t, rest)) : bytes.length = n * a.size + rest.length := by
  induction n generalizing bytes with
  | zero =>
    cases h
    omega
  | succ n ih =>
    obtain ⟨⟨v, rest₁⟩, h₁, h⟩ := Option.bind_eq_some_iff.mp h
    obtain ⟨⟨t', rest₂⟩, h₂, h⟩ := Option.bind_eq_some_iff.mp h
    cases h
    have hlen₁ := a.length_read bytes v rest₁ h₁
    have hlen₂ := ih h₂
    rw [Nat.add_mul]
    omega

/-- An array. -/
def array (a : Layout α) (n : Nat) : Layout (Fin n → α) where
  size := n * a.size
  read := a.readMany n
  write := a.writeMany n
  read_write := a.readMany_writeMany
  length_read := fun _ _ _ h => a.length_readMany h

/-! ## Little-endian words -/

/-- 16 bits, the low byte first. -/
def word16 : Layout UInt16 :=
  (seq byte byte).via (fun p => some (UInt16.ofNat (p.1.toNat + 256 * p.2.toNat)))
    (fun v => (UInt8.ofNat (v.toNat % 256), UInt8.ofNat (v.toNat / 256))) <| by
      intro v
      have hv := v.toNat_lt
      have hlow : (UInt8.ofNat (v.toNat % 256)).toNat = v.toNat % 256 :=
        UInt8.toNat_ofNat_of_lt' (by show v.toNat % 256 < 256; omega)
      have hhigh : (UInt8.ofNat (v.toNat / 256)).toNat = v.toNat / 256 :=
        UInt8.toNat_ofNat_of_lt' (by show v.toNat / 256 < 256; omega)
      have hsum : v.toNat % 256 + 256 * (v.toNat / 256) = v.toNat := Nat.mod_add_div _ _
      show some (UInt16.ofNat _) = some v
      rw [hlow, hhigh, hsum, UInt16.ofNat_toNat]

/-- 32 bits, the low half first. -/
def word32 : Layout UInt32 :=
  (seq word16 word16).via (fun p => some (UInt32.ofNat (p.1.toNat + 65536 * p.2.toNat)))
    (fun v => (UInt16.ofNat (v.toNat % 65536), UInt16.ofNat (v.toNat / 65536))) <| by
      intro v
      have hv := v.toNat_lt
      have hlow : (UInt16.ofNat (v.toNat % 65536)).toNat = v.toNat % 65536 :=
        UInt16.toNat_ofNat_of_lt' (by show v.toNat % 65536 < 65536; omega)
      have hhigh : (UInt16.ofNat (v.toNat / 65536)).toNat = v.toNat / 65536 :=
        UInt16.toNat_ofNat_of_lt' (by show v.toNat / 65536 < 65536; omega)
      have hsum : v.toNat % 65536 + 65536 * (v.toNat / 65536) = v.toNat := Nat.mod_add_div _ _
      show some (UInt32.ofNat _) = some v
      rw [hlow, hhigh, hsum, UInt32.ofNat_toNat]

/-- A signed word. -/
def int32 : Layout Int32 :=
  word32.via (fun v => some v.toInt32) Int32.toUInt32 fun v => congrArg some v.toInt32_toUInt32

/-- A number below 256 in a word, with the values that `ofByte` knows. -/
def enum32 (toByte : α → UInt8) (ofByte : UInt8 → Option α)
    (h : ∀ v, ofByte (toByte v) = some v) : Layout α :=
  (seq byte (seq byte word16)).via (fun p => if p.2 = (0, 0) then ofByte p.1 else none)
    (fun v => (toByte v, 0, 0)) fun v => (if_pos rfl).trans (h v)

end Layout
