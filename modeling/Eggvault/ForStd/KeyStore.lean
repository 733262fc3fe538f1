import Mathlib.Logic.Function.Basic

/-!
# A store with typed keys that refuses some of them

Each key has a value type of its own.  A put under a key that the store does not
accept is dropped without notice, and a get under such a key finds nothing, so
that only accepted keys make a round trip.
-/

/-- The contents of a store: at most one value for each key. -/
structure KeyStore {κ : Type} (val : κ → Type) where
  entry : (k : κ) → Option (val k)

namespace KeyStore

variable {κ : Type} {val : κ → Type} {accepts : κ → Bool}

/-- The store with nothing in it. -/
def empty : KeyStore val := ⟨fun _ => none⟩

/-- The value under `k`, unless the key is refused. -/
def get (accepts : κ → Bool) (m : KeyStore val) (k : κ) : Option (val k) :=
  if accepts k then m.entry k else none

theorem get_of_refused (m : KeyStore val) {k : κ} (h : accepts k = false) :
    m.get accepts k = none := by
  rw [get, h]
  rfl

variable [DecidableEq κ]

/-- Store `v` under `k`, unless the key is refused. -/
def put (accepts : κ → Bool) (m : KeyStore val) (k : κ) (v : val k) : KeyStore val :=
  if accepts k then ⟨Function.update m.entry k (some v)⟩ else m

theorem put_of_refused (m : KeyStore val) {k : κ} (v : val k) (h : accepts k = false) :
    m.put accepts k v = m := by
  rw [put, h]
  rfl

theorem get_put_self (m : KeyStore val) {k : κ} (v : val k) (h : accepts k = true) :
    (m.put accepts k v).get accepts k = some v := by
  rw [get, if_pos h, put, if_pos h]
  exact Function.update_self k (some v) m.entry

theorem get_put_of_ne (m : KeyStore val) {k k' : κ} (v : val k) (h : k' ≠ k) :
    (m.put accepts k v).get accepts k' = m.get accepts k' := by
  by_cases hk : accepts k = true
  · rw [get, get, put, if_pos hk]
    dsimp only
    rw [Function.update_of_ne h]
  · rw [put, if_neg hk]

end KeyStore
