import Eggvault.ForStd.Simulation
import Eggvault.Native.Preferences
import Eggvault.Spec.MotorCorrect

/-!
# The flash behind the store

The firmware is modelled over `Nvs.put` and `Nvs.get`.  Below them `Preferences.cpp` hands memory
images to a driver that may lose what has not been committed when the device is reset.  Whatever calls
the firmware makes, and wherever it is reset in between, the two agree.

## Key results

- `getBytes_eq`: `getBytes` for every item that may be there
- `flash_refines`: every run of `Preferences` is one of the store
- `boot_refines`: `readValuesFromFlash`, over the memory of the device
-/

namespace Eggvault.Spec

open Eggvault.Native NvsDriver Prog

/-! ## The documentation of the driver -/

section Driver

variable {σ : Type} [NvsDriver σ]

/-- The call that stores an item. -/
def nvsSet (h : σ) (key : String) : NvsItem → Bool × σ
  | .i32 v => nvsSetI32 h key v
  | .blob bytes => nvsSetBlob h key bytes

/-- What `nvs.h` says.  A handle shows some contents, and a reset finds those that persist: after a
    `set` the old or the new item, after a `commit` what the handle shows. -/
class NvsLaws (σ : Type) [NvsDriver σ] where
  content : σ → String → Option NvsItem
  persisted : σ → String → Option NvsItem
  open_some : ∀ {h h' : σ} {readOnly}, nvsOpen h readOnly = some h' →
    content h' = persisted h ∧ persisted h' = persisted h
  set_true : ∀ {h h' : σ} {key item}, nvsSet h key item = (true, h') →
    content h' = Function.update (content h) key (some item) ∧
      (persisted h' = persisted h ∨ persisted h' = Function.update (persisted h) key (some item))
  /-- Keys of blobs have at most 15 characters, and a failed `set` stores nothing. -/
  set_long : ∀ (h : σ) {key} (bytes), 15 < key.length → (nvsSetBlob h key bytes).1 = false ∧
    content (nvsSetBlob h key bytes).2 = content h ∧
      persisted (nvsSetBlob h key bytes).2 = persisted h
  commit_true : ∀ {h h' : σ}, nvsCommit h = (true, h') →
    content h' = content h ∧ persisted h' = content h
  getI32_eq : ∀ (h : σ) key, nvsGetI32 h key =
    match content h key with
    | some (.i32 v) => some v
    | _ => none
  getBlobLength_eq : ∀ (h : σ) key, nvsGetBlobLength h key =
    match content h key with
    | some (.blob bytes) => some bytes.length
    | _ => none
  getBlob_eq : ∀ (h : σ) key n, nvsGetBlob h key n =
    match content h key with
    | some (.blob bytes) => if bytes.length ≤ n then some bytes else none
    | _ => none

end Driver

open NvsLaws

/-! ## Calls of the library -/

section Preferences

variable {σ : Type} [NvsDriver σ] [NvsLaws σ] {p : Preferences σ} {key : String}

theorem getBytesLength_eq (hs : p.started = true) : p.getBytesLength key =
    match content p.handle key with
    | some (.blob bytes) => bytes.length
    | _ => 0 := by
  simp only [Preferences.getBytesLength, hs, getBlobLength_eq]
  cases hc : content p.handle key with
  | none => rfl
  | some item => cases item <;> rfl

/-- `getBytes` copies a blob that fits into the buffer, and leaves the buffer alone otherwise. -/
theorem getBytes_eq (hs : p.started = true) (buf : List UInt8) : (p.getBytes key buf).2 =
    match content p.handle key with
    | some (.blob bytes) => if bytes.length ≤ buf.length then bytes ++ buf.drop bytes.length else buf
    | _ => buf := by
  rw [Preferences.getBytes, getBytesLength_eq hs]
  simp only [getBlob_eq]
  cases hc : content p.handle key with
  | none => simp
  | some item =>
    cases item with
    | i32 v => simp
    | blob bytes =>
      by_cases h0 : bytes.length = 0
      · -- an empty blob is not told from none
        simp [List.length_eq_zero_iff.mp h0]
      by_cases hle : bytes.length ≤ buf.length
      · have hbuf : buf.length ≠ 0 := by omega
        have hnot : ¬ (bytes.length > buf.length) := by omega
        simp only [h0, hbuf, or_self, if_false, hnot, hle, if_true, Nat.le_refl]
      · have hlt : bytes.length > buf.length := by omega
        simp only [h0, false_or, hlt, hle, if_true, if_false]
        split <;> rfl

theorem getInt_eq (hs : p.started = true) (d : Int32) : p.getInt key d =
    match content p.handle key with
    | some (.i32 v) => v
    | _ => d := by
  simp only [Preferences.getInt, hs, getI32_eq]
  cases hc : content p.handle key with
  | none => simp
  | some item => cases item <;> simp

end Preferences

/-! ## Values and items -/

/-- How the values of a key are stored: by `putInt`, or as the bytes of a variable. -/
inductive Slot : Type → Type 1 where
  | int : Slot Int32
  | blob {α : Type} (L : Layout α) (h : 0 < L.size) : Slot α

/-- The slots of the keys. -/
def slot : (k : NvsKey) → Slot k.Value
  | .initFlag | .initLastMove | .initNox | .initAlarm => .int
  | .openAlarms | .closeAlarms => .blob tableLayout (by decide)
  | .lastMove => .blob Layout.int32 (by decide)
  | .lastMovePosition => .blob positionLayout (by decide)
  | .errorFlag => .blob errorLayout (by decide)

namespace Slot

/-- The item stands for the value. -/
def Represents {α : Type} : Slot α → α → NvsItem → Prop
  | .int, v, item => item = .i32 v
  | .blob L _, v, item => ∃ bytes, item = .blob bytes ∧ L.Image bytes v

variable {σ : Type} [NvsDriver σ]

/-- The call that stores an item. -/
def put {α : Type} : Slot α → Preferences σ → String → NvsItem → Nat × Preferences σ
  | _, p, key, .i32 v => p.putInt key v
  | _, p, key, .blob bytes => p.putBytes key bytes

theorem put_blob {α : Type} (s : Slot α) {p : Preferences σ} {key : String} {bytes : List UInt8} :
    s.put p key (.blob bytes) = p.putBytes key bytes := by
  cases s <;> rfl

/-- The call that reads the key may leave the value `r` in a variable that holds `old`. -/
def Loads {α : Type} : Slot α → Preferences σ → String → α → α → Prop
  | .int, p, key, old, r => p.getInt key old = r
  | .blob L _, p, key, old, r => ∃ buf, L.Image buf old ∧ L.Image (p.getBytes key buf).2 r

end Slot

/-- An item stands for what the store holds under a key, or there is neither. -/
def Matches {α : Type} (s : Slot α) : Option NvsItem → Option α → Prop
  | none, none => True
  | some item, some v => s.Represents v item
  | _, _ => False

section Slots

variable {σ : Type} [NvsDriver σ] [NvsLaws σ] {p p' : Preferences σ} {key : String} {α : Type}
  {s : Slot α} {stored : Option α} {v old r : α} {item : NvsItem}

theorem getInt_matches (hs : p.started = true) {stored : Option Int32} (d : Int32)
    (hm : Matches .int (content p.handle key) stored) : p.getInt key d = stored.getD d := by
  rw [getInt_eq hs]
  cases hc : content p.handle key with
  | none =>
    rw [hc] at hm
    cases stored with
    | none => rfl
    | some _ => exact hm.elim
  | some item =>
    rw [hc] at hm
    cases stored with
    | none => exact hm.elim
    | some v =>
      have hitem : item = .i32 v := hm
      rw [hitem]
      rfl

theorem getBytes_matches (hs : p.started = true) {L : Layout α} {h : 0 < L.size} {buf : List UInt8}
    (hm : Matches (.blob L h) (content p.handle key) stored) (hbuf : L.Image buf old) :
    L.Image (p.getBytes key buf).2 (stored.getD old) := by
  rw [getBytes_eq hs]
  cases hc : content p.handle key with
  | none =>
    rw [hc] at hm
    cases stored with
    | none => exact hbuf
    | some _ => exact hm.elim
  | some item =>
    rw [hc] at hm
    cases stored with
    | none => exact hm.elim
    | some v =>
      obtain ⟨bytes, rfl, himage⟩ := hm
      -- the blob is as long as the variable
      have hlen : bytes.length = buf.length := himage.length.trans hbuf.length.symm
      simp only [hlen, Nat.le_refl, if_true, List.drop_length, List.append_nil]
      exact himage

/-- A read finds what is stored, and otherwise leaves the variable as it was. -/
theorem Slot.loads_iff (hs : p.started = true) (hm : Matches s (content p.handle key) stored) :
    s.Loads p key old r ↔ r = stored.getD old := by
  cases s with
  | int =>
    show p.getInt key old = r ↔ _
    rw [getInt_matches hs old hm]
    exact eq_comm
  | blob L h =>
    constructor
    · rintro ⟨buf, hbuf, hresult⟩
      exact hresult.unique (getBytes_matches hs hm hbuf)
    · rintro rfl
      exact ⟨L.write old, L.image_write old, getBytes_matches hs hm (L.image_write old)⟩

/-- A `put` that does not report a failure has stored its item and committed it. -/
theorem Preferences.put_stored {set : Bool × σ} {len : Nat} (h : (p.put set len).1 ≠ 0)
    (hset : ∀ h', set = (true, h') → content h' = Function.update (content p.handle) key (some item)) :
    ∃ handle, (p.put set len).2 = { p with handle } ∧
      content handle = Function.update (content p.handle) key (some item) ∧
      persisted handle = content handle := by
  unfold Preferences.put at h ⊢
  split at h
  · exact absurd rfl h
  · next hopen =>
    rw [if_neg hopen]
    split at h
    · exact absurd rfl h
    · next h₁ =>
      split at h
      · exact absurd rfl h
      · next h₂ hcommit =>
        obtain ⟨hcontent, hpersisted⟩ := commit_true hcommit
        exact ⟨h₂, rfl, hcontent.trans (hset h₁ rfl), hpersisted.trans hcontent.symm⟩

omit [NvsLaws σ] in
/-- The `put` that a represented value leads to. -/
theorem Slot.put_eq (p : Preferences σ) (key : String) (hv : s.Represents v item) :
    ∃ len, s.put p key item = p.put (nvsSet p.handle key item) len := by
  cases s with
  | int =>
    obtain rfl : item = .i32 v := hv
    exact ⟨4, rfl⟩
  | blob L hsize =>
    obtain ⟨bytes, rfl, himage⟩ := hv
    have hne : bytes.length ≠ 0 := by
      rw [himage.length]
      omega
    exact ⟨bytes.length, if_neg hne⟩

end Slots

/-! ## Calls of the firmware -/

/-- A call that uses the store, or a reset. -/
inductive StoreCall where
  | store (k : NvsKey) (v : k.Value)
  /-- A read into a variable that holds `old`, which leaves `r` in it. -/
  | load (k : NvsKey) (old r : k.Value)
  | reset
  /-- A store that is cut off by a reset before its `commit`. -/
  | cut (k : NvsKey) (v : k.Value)

/-- The calls, over the store of the model. -/
inductive StoreStep : Nvs → StoreCall → Nvs → Prop where
  | store (m : Nvs) (k : NvsKey) (v : k.Value) : StoreStep m (.store k v) (m.put k v)
  | load (m : Nvs) (k : NvsKey) (old : k.Value) : StoreStep m (.load k old ((m.get k).getD old)) m
  | reset (m : Nvs) : StoreStep m .reset m
  | lost (m : Nvs) (k : NvsKey) (v : k.Value) : StoreStep m (.cut k v) m
  | kept (m : Nvs) (k : NvsKey) (v : k.Value) : StoreStep m (.cut k v) (m.put k v)

section Calls

variable {σ : Type} [NvsDriver σ]

/-- After a reset the object is new, and `setup` opens the namespace again. -/
def Restarts (h : σ) (p : Preferences σ) : Prop :=
  Preferences.begin { handle := h } false = (true, p)

/-- The calls, over `Preferences`.  The driver has the space for what is stored. -/
inductive FlashStep : Preferences σ → StoreCall → Preferences σ → Prop where
  | store (p : Preferences σ) (k : NvsKey) (v : k.Value) (item : NvsItem)
      (hv : (slot k).Represents v item)
      (hok : k.fits = true → ((slot k).put p k.name item).1 ≠ 0) :
      FlashStep p (.store k v) ((slot k).put p k.name item).2
  | load (p : Preferences σ) (k : NvsKey) (old r : k.Value) (h : (slot k).Loads p k.name old r) :
      FlashStep p (.load k old r) p
  | reset (p p' : Preferences σ) (h : Restarts p.handle p') : FlashStep p .reset p'
  | cut (p p' : Preferences σ) (k : NvsKey) (v : k.Value) (item : NvsItem)
      (hv : (slot k).Represents v item)
      (hok : k.fits = true → (nvsSet p.handle k.name item).1 = true)
      (h : Restarts (nvsSet p.handle k.name item).2 p') : FlashStep p (.cut k v) p'

variable [NvsLaws σ]

/-- The flash holds what the store holds, and a reset would find it. -/
structure Holds (p : Preferences σ) (m : Nvs) : Prop where
  started : p.started = true
  writable : p.readOnly = false
  items : ∀ k, Matches (slot k) (content p.handle k.name) (m.get k)
  committed : persisted p.handle = content p.handle

variable {p p' : Preferences σ} {m : Nvs} {k : NvsKey} {v : k.Value} {item : NvsItem}

omit [NvsDriver σ] [NvsLaws σ] in
theorem name_injective : Function.Injective NvsKey.name := by
  intro k k' h
  cases k <;> cases k' <;> first | rfl | exact absurd h (by decide)

omit [NvsDriver σ] [NvsLaws σ] in
/-- Only a blob has a key that is too long. -/
theorem blob_of_not_fits (hk : k.fits = false) (hv : (slot k).Represents v item) :
    15 < k.name.length ∧ ∃ bytes, item = .blob bytes := by
  cases k with
  | lastMovePosition =>
    obtain ⟨bytes, hitem, -⟩ := hv
    exact ⟨by decide, bytes, hitem⟩
  | _ => exact absurd hk (by decide)

/-- The items after a store. -/
theorem matches_put (hitems : ∀ k, Matches (slot k) (content p.handle k.name) (m.get k))
    (hk : k.fits = true) (hv : (slot k).Represents v item) (k' : NvsKey) :
    Matches (slot k') (Function.update (content p.handle) k.name (some item) k'.name)
      ((m.put k v).get k') := by
  by_cases heq : k' = k
  · subst heq
    rw [Function.update_self, nvs_get_put_self _ _ hk]
    exact hv
  · rw [Function.update_of_ne (name_injective.ne heq), nvs_get_put_of_ne _ _ heq]
    exact hitems k'

/-- A `put` under a key that is too long stores nothing. -/
theorem put_long (h : Holds p m) (bytes : List UInt8) {key : String} (hkey : 15 < key.length)
    (len : Nat) : ∃ handle, (p.put (nvsSetBlob p.handle key bytes) len).2 = { p with handle } ∧
      content handle = content p.handle ∧ persisted handle = persisted p.handle := by
  obtain ⟨hfail, hcontent, hpersisted⟩ := set_long p.handle bytes hkey
  refine ⟨(nvsSetBlob p.handle key bytes).2, ?_, hcontent, hpersisted⟩
  cases hset : nvsSetBlob p.handle key bytes with
  | mk ok handle =>
    rw [hset] at hfail
    obtain rfl : ok = false := hfail
    simp [Preferences.put, h.started, h.writable]

/-- A store. -/
theorem Holds.store (h : Holds p m) (hv : (slot k).Represents v item)
    (hok : k.fits = true → ((slot k).put p k.name item).1 ≠ 0) :
    Holds ((slot k).put p k.name item).2 (m.put k v) := by
  obtain ⟨len, hput⟩ := Slot.put_eq p k.name hv
  rw [hput] at hok ⊢
  by_cases hk : k.fits = true
  · have hset : ∀ h', nvsSet p.handle k.name item = (true, h') →
        content h' = Function.update (content p.handle) k.name (some item) :=
      fun _ hset => (set_true hset).1
    obtain ⟨handle, heq, hcontent, hcommitted⟩ := Preferences.put_stored (hok hk) hset
    rw [heq]
    refine ⟨h.started, h.writable, fun k' => ?_, hcommitted⟩
    show Matches (slot k') (content handle k'.name) _
    rw [hcontent]
    exact matches_put h.items hk hv k'
  · have hrefused : k.fits = false := Bool.eq_false_iff.mpr hk
    obtain ⟨hlong, bytes, rfl⟩ := blob_of_not_fits hrefused hv
    obtain ⟨handle, heq, hcontent, hpersisted⟩ := put_long h bytes hlong len
    have hsame : m.put k v = m := KeyStore.put_of_refused m v hrefused
    have heq' : (p.put (nvsSet p.handle k.name (.blob bytes)) len).2 = { p with handle } := heq
    rw [heq', hsame]
    refine ⟨h.started, h.writable, fun k' => ?_, ?_⟩
    · show Matches (slot k') (content handle k'.name) _
      rw [hcontent]
      exact h.items k'
    · exact hpersisted.trans (h.committed.trans hcontent.symm)

/-- A store of bytes. -/
theorem Holds.putBytes (h : Holds p m) {L : Layout k.Value} {hL : 0 < L.size}
    (hslot : slot k = .blob L hL) {bytes : List UInt8} (himage : L.Image bytes v)
    (hok : (p.putBytes k.name bytes).1 ≠ 0) : Holds (p.putBytes k.name bytes).2 (m.put k v) := by
  have hput : (slot k).put p k.name (.blob bytes) = p.putBytes k.name bytes := Slot.put_blob _
  have hv : (slot k).Represents v (.blob bytes) := by
    rw [hslot]
    exact ⟨bytes, rfl, himage⟩
  rw [← hput] at hok ⊢
  exact h.store hv fun _ => hok

omit [NvsLaws σ] in
theorem Restarts.open {h : σ} (hr : Restarts h p) :
    ∃ handle, nvsOpen h false = some handle ∧ p = { started := true, handle } := by
  simp only [Restarts, Preferences.begin] at hr
  cases ho : nvsOpen h false with
  | none =>
    rw [ho] at hr
    cases hr
  | some handle =>
    rw [ho] at hr
    cases hr
    exact ⟨handle, rfl, rfl⟩

/-- A reset finds what persists. -/
theorem Holds.restart {h : σ} (hr : Restarts h p)
    (hitems : ∀ k, Matches (slot k) (persisted h k.name) (m.get k)) : Holds p m := by
  obtain ⟨handle, ho, rfl⟩ := hr.open
  obtain ⟨hcontent, hpersisted⟩ := open_some ho
  refine ⟨rfl, rfl, fun k => ?_, hpersisted.trans hcontent.symm⟩
  show Matches (slot k) (content handle k.name) _
  rw [hcontent]
  exact hitems k

/-- A store that a reset cuts off. -/
theorem Holds.cut (h : Holds p m) (hv : (slot k).Represents v item)
    (hok : k.fits = true → (nvsSet p.handle k.name item).1 = true)
    (hr : Restarts (nvsSet p.handle k.name item).2 p') : Holds p' m ∨ Holds p' (m.put k v) := by
  have hitems : ∀ k, Matches (slot k) (persisted p.handle k.name) (m.get k) := by
    intro k'
    rw [h.committed]
    exact h.items k'
  by_cases hk : k.fits = true
  · obtain ⟨-, hkept | hnew⟩ := set_true (Prod.ext (hok hk) rfl : nvsSet p.handle k.name item = (true, _))
    · left
      refine .restart hr fun k' => ?_
      rw [hkept]
      exact hitems k'
    · right
      refine .restart hr fun k' => ?_
      rw [hnew, h.committed]
      exact matches_put h.items hk hv k'
  · left
    have hrefused : k.fits = false := Bool.eq_false_iff.mpr hk
    obtain ⟨hlong, bytes, rfl⟩ := blob_of_not_fits hrefused hv
    obtain ⟨-, -, hpersisted⟩ := set_long p.handle bytes hlong
    refine .restart hr fun k' => ?_
    rw [show nvsSet p.handle k.name (.blob bytes) = nvsSetBlob p.handle k.name bytes from rfl,
      hpersisted]
    exact hitems k'

/-- Every call of `Preferences` is one of the store. -/
theorem FlashStep.refines {call : StoreCall} (h : Holds p m) (hstep : FlashStep p call p') :
    ∃ m', StoreStep m call m' ∧ Holds p' m' := by
  cases hstep with
  | store k v item hv hok => exact ⟨m.put k v, .store m k v, h.store hv hok⟩
  | load k old r hload =>
    obtain rfl := (Slot.loads_iff h.started (h.items k)).mp hload
    exact ⟨m, .load m k old, h⟩
  | reset _ hr =>
    refine ⟨m, .reset m, .restart hr fun k => ?_⟩
    rw [h.committed]
    exact h.items k
  | cut _ k v item hv hok hr =>
    rcases h.cut hv hok hr with hlost | hkept
    · exact ⟨m, .lost m k v, hlost⟩
    · exact ⟨m.put k v, .kept m k v, hkept⟩

/-- What the firmware sees of the flash, over any calls and resets, it could have seen of the store. -/
theorem flash_refines {calls : List StoreCall} (h : Holds p m)
    (hrun : LabelledRun FlashStep p calls p') :
    ∃ m', LabelledRun StoreStep m calls m' ∧ Holds p' m' :=
  hrun.simulate (fun _ _ _ _ hR hstep => hstep.refines hR) h

end Calls

/-! ## The boot -/

/-- The globals in memory are those of the model. -/
structure InMemory (g : FlashGlobals) (w : World) : Prop where
  fInitFlag : g.fInitFlag = w.sched.fInitFlag
  fInitLastMove : g.fInitLastMove = w.sched.fInitLastMove
  fInitNox : g.fInitNox = w.sched.fInitNox
  fInitAlarm : g.fInitAlarm = w.sched.fInitAlarm
  lastMove : Layout.int32.Image g.lastMove w.door.lastMove
  lastDoorPosition : positionLayout.Image g.lastDoorPosition w.door.lastDoorPosition
  errorFlag : errorLayout.Image g.errorFlag w.door.errorFlag
  openingAlarms : tableLayout.Image g.openingAlarms w.sched.openingAlarms
  closingAlarms : tableLayout.Image g.closingAlarms w.sched.closingAlarms

/-- The globals of a device that has just been reset. -/
def zeroGlobals : FlashGlobals where
  fInitFlag := 0
  fInitLastMove := 0
  fInitNox := 0
  fInitAlarm := 0
  lastMove := List.replicate 4 0
  lastDoorPosition := List.replicate 4 0
  errorFlag := List.replicate 4 0
  openingAlarms := List.replicate 84 0
  closingAlarms := List.replicate 84 0

/-- A reset clears the memory. -/
theorem inMemory_reset (w : World) (cause : WakeupCause) : InMemory zeroGlobals (w.reset cause) := by
  have htable : tableLayout.Image (List.replicate 84 0) fun _ => {} := by
    have hzero : List.replicate 84 0 = tableLayout.write fun _ => {} := by decide +kernel
    rw [hzero]
    exact tableLayout.image_write _
  constructor
  · rfl
  · rfl
  · rfl
  · rfl
  · rfl
  · rfl
  · rfl
  · exact htable
  · exact htable

section Boot

variable {σ : Type} [NvsDriver σ] [NvsLaws σ] {p : Preferences σ} {g : FlashGlobals}
  {ω : Env} {w : World}

theorem readFlags_fetches (hg : InMemory g w) (h : Holds p w.nvs) :
    wp readFlags (returns fun w' => InMemory (fetchFlags p g) w' ∧ w'.nvs = w.nvs) ω w := by
  have hflag : p.getInt "init_flag" 0 = (w.nvs.get .initFlag).getD 0 :=
    getInt_matches h.started 0 (h.items .initFlag)
  rw [readFlags, wp_modify]
  by_cases h0 : (w.nvs.get .initFlag).getD 0 = 0
  · simp only [if_pos h0]
    exact ⟨{ hg with fInitFlag := hflag }, rfl⟩
  · simp only [if_neg h0]
    exact ⟨{ hg with fInitFlag := hflag }, rfl⟩

theorem readLastMove_fetches (hg : InMemory g w) (h : Holds p w.nvs) :
    wp readLastMove (returns fun w' => InMemory (fetchLastMove p g) w' ∧ w'.nvs = w.nvs) ω w := by
  have hflag : p.getInt "init_last_move" 0 = (w.nvs.get .initLastMove).getD 0 :=
    getInt_matches h.started 0 (h.items .initLastMove)
  rw [readLastMove, wp_modify, fetchLastMove]
  by_cases h0 : (w.nvs.get .initLastMove).getD 0 = 0
  · simp only [hflag, if_pos h0]
    exact ⟨{ hg with
      fInitLastMove := rfl
      lastMove := Layout.int32.image_write 0
      lastDoorPosition := positionLayout.image_write .posBlocked }, rfl⟩
  · simp only [hflag, if_neg h0]
    exact ⟨{ hg with
      fInitLastMove := rfl
      lastMove := getBytes_matches h.started (h.items .lastMove) hg.lastMove
      lastDoorPosition :=
        getBytes_matches h.started (h.items .lastMovePosition) hg.lastDoorPosition }, rfl⟩

theorem readErrorFlag_fetches (hg : InMemory g w) (h : Holds p w.nvs) :
    wp readErrorFlag (returns fun w' => InMemory (fetchErrorFlag p g) w' ∧ w'.nvs = w.nvs) ω w := by
  have hflag : p.getInt "init_NOX" 0 = (w.nvs.get .initNox).getD 0 :=
    getInt_matches h.started 0 (h.items .initNox)
  rw [readErrorFlag, wp_modify, fetchErrorFlag]
  by_cases h0 : (w.nvs.get .initNox).getD 0 = 0
  · simp only [hflag, if_pos h0]
    exact ⟨{ hg with fInitNox := rfl, errorFlag := errorLayout.image_write .noError }, rfl⟩
  · simp only [hflag, if_neg h0]
    exact ⟨{ hg with
      fInitNox := rfl
      errorFlag := getBytes_matches h.started (h.items .errorFlag) hg.errorFlag }, rfl⟩

omit [NvsLaws σ] in
/-- The default tables find their place in flash. -/
def DefaultsStored (p : Preferences σ) : Prop :=
  p.getInt "init_alarm" 0 = 0 →
    (p.putBytes "open_alarm" (tableLayout.write fun _ => defaultOpening)).1 ≠ 0 ∧
      ((p.putBytes "open_alarm" (tableLayout.write fun _ => defaultOpening)).2.putBytes "close_alarm"
        (tableLayout.write fun _ => defaultClosing)).1 ≠ 0

theorem readAlarms_fetches (hg : InMemory g w) (h : Holds p w.nvs) (hstored : DefaultsStored p) :
    wp readAlarms (returns fun w' => InMemory (fetchAlarms p g).1 w' ∧
      Holds (fetchAlarms p g).2 w'.nvs) ω w := by
  have hflag : p.getInt "init_alarm" 0 = (w.nvs.get .initAlarm).getD 0 :=
    getInt_matches h.started 0 (h.items .initAlarm)
  simp only [readAlarms, wp_bind, wp_modify, wp_get, wp_ite, setAlarmsDefault, wp_memoryPut]
  rw [fetchAlarms, hflag]
  refine ⟨fun h0 => ?_, fun h0 => ?_⟩
  · -- before the first save the default tables are stored
    rw [if_pos h0]
    obtain ⟨hopen, hclose⟩ := hstored (hflag.trans h0)
    have himageO := tableLayout.image_write fun _ => defaultOpening
    have himageC := tableLayout.image_write fun _ => defaultClosing
    have h₁ := h.putBytes (k := .openAlarms) rfl himageO hopen
    have h₂ := h₁.putBytes (k := .closeAlarms) rfl himageC hclose
    exact ⟨{ hg with fInitAlarm := rfl, openingAlarms := himageO, closingAlarms := himageC }, h₂⟩
  · rw [if_neg h0]
    exact ⟨{ hg with
      fInitAlarm := rfl
      openingAlarms := getBytes_matches h.started (h.items .openAlarms) hg.openingAlarms
      closingAlarms := getBytes_matches h.started (h.items .closeAlarms) hg.closingAlarms }, h⟩

/-- A boot reads the bytes of the globals that it reads in the model. -/
theorem boot_refines (hg : InMemory g w) (h : Holds p w.nvs) (hstored : DefaultsStored p) :
    wp readValuesFromFlash (returns fun w' => InMemory (fetchValuesFromFlash p g).1 w' ∧
      Holds (fetchValuesFromFlash p g).2 w'.nvs) ω w := by
  rw [readValuesFromFlash, fetchValuesFromFlash]
  apply wp_then (readFlags_fetches hg h)
  rintro _ w₁ ⟨hg₁, hnvs₁⟩
  have h₁ : Holds p w₁.nvs := by rw [hnvs₁]; exact h
  apply wp_then (readLastMove_fetches hg₁ h₁)
  rintro _ w₂ ⟨hg₂, hnvs₂⟩
  have h₂ : Holds p w₂.nvs := by rw [hnvs₂]; exact h₁
  apply wp_then (readErrorFlag_fetches hg₂ h₂)
  rintro _ w₃ ⟨hg₃, hnvs₃⟩
  have h₃ : Holds p w₃.nvs := by rw [hnvs₃]; exact h₂
  exact readAlarms_fetches hg₃ h₃ hstored

end Boot

/-! The driver of the runs keeps what is set in RAM until the next commit. -/

/-- What is set, and what has been committed. -/
structure MapNvs where
  live : String → Option NvsItem
  saved : String → Option NvsItem

namespace MapNvs

def set (h : MapNvs) (key : String) (item : NvsItem) : Bool × MapNvs :=
  if key.length ≤ 15 then (true, { h with live := Function.update h.live key (some item) })
  else (false, h)

instance : NvsDriver MapNvs where
  nvsOpen h _ := some { h with live := h.saved }
  nvsSetI32 h key v := h.set key (.i32 v)
  nvsSetBlob h key bytes := h.set key (.blob bytes)
  nvsCommit h := (true, { h with saved := h.live })
  nvsGetI32 h key :=
    match h.live key with
    | some (.i32 v) => some v
    | _ => none
  nvsGetBlobLength h key :=
    match h.live key with
    | some (.blob bytes) => some bytes.length
    | _ => none
  nvsGetBlob h key n :=
    match h.live key with
    | some (.blob bytes) => if bytes.length ≤ n then some bytes else none
    | _ => none

theorem nvsSet_eq (h : MapNvs) (key : String) (item : NvsItem) : nvsSet h key item = h.set key item := by
  cases item <;> rfl

instance : NvsLaws MapNvs where
  content := live
  persisted := saved
  open_some := by
    rintro h h' readOnly hopen
    cases hopen
    exact ⟨rfl, rfl⟩
  set_true := by
    intro h h' key item hset
    rw [nvsSet_eq, set] at hset
    split at hset
    · cases hset
      exact ⟨rfl, .inl rfl⟩
    · cases hset
  set_long := by
    intro h key bytes hk
    have hnot : ¬ (key.length ≤ 15) := by omega
    have hset : nvsSetBlob h key bytes = (false, h) := if_neg hnot
    rw [hset]
    exact ⟨rfl, rfl, rfl⟩
  commit_true := by
    rintro h h' hcommit
    cases hcommit
    exact ⟨rfl, rfl⟩
  getI32_eq := fun _ _ => rfl
  getBlobLength_eq := fun _ _ => rfl
  getBlob_eq := fun _ _ _ => rfl

end MapNvs

/-- A flash with nothing in it. -/
def blankFlash : Preferences MapNvs :=
  { started := true, handle := ⟨fun _ => none, fun _ => none⟩ }

/-- An error is stored, its acknowledgement is cut off, and the last position has too long a key. -/
def cutOffCalls : List StoreCall :=
  [.store .errorFlag .timerOpenElapsed, .cut .errorFlag .noError,
    .load .errorFlag .noError .timerOpenElapsed, .store .lastMovePosition .posUp,
    .load .lastMovePosition .posBlocked .posBlocked]

theorem holds_blankFlash : Holds blankFlash KeyStore.empty where
  started := rfl
  writable := rfl
  items := fun k => by cases k <;> trivial
  committed := rfl

def errorItem (e : ErrorCode) : NvsItem := .blob (errorLayout.write e)

def positionItem (p : Klappenposition) : NvsItem := .blob (positionLayout.write p)

def errorStored : Preferences MapNvs :=
  ((slot .errorFlag).put blankFlash NvsKey.errorFlag.name (errorItem .timerOpenElapsed)).2

def acknowledgementCut : Preferences MapNvs :=
  (Preferences.begin
    { handle := (nvsSet errorStored.handle NvsKey.errorFlag.name (errorItem .noError)).2 } false).2

def positionRefused : Preferences MapNvs :=
  ((slot .lastMovePosition).put acknowledgementCut NvsKey.lastMovePosition.name
    (positionItem .posUp)).2

theorem flash_refines_cutOffCalls :
    ∃ m, LabelledRun StoreStep KeyStore.empty cutOffCalls m ∧ Holds positionRefused m := by
  have herror : ∀ e, (slot .errorFlag).Represents e (errorItem e) :=
    fun e => ⟨_, rfl, errorLayout.image_write e⟩
  have hposition : (slot .lastMovePosition).Represents .posUp (positionItem .posUp) :=
    ⟨_, rfl, positionLayout.image_write .posUp⟩
  have hstored : FlashStep blankFlash (.store .errorFlag .timerOpenElapsed) errorStored :=
    .store _ .errorFlag _ _ (herror _) fun _ => by decide
  have hcut : FlashStep errorStored (.cut .errorFlag .noError) acknowledgementCut :=
    .cut _ _ .errorFlag _ _ (herror _) (fun _ => rfl) rfl
  have hkept : FlashStep acknowledgementCut (.load .errorFlag .noError .timerOpenElapsed)
      acknowledgementCut :=
    .load _ .errorFlag _ _ ⟨_, errorLayout.image_write _, rfl⟩
  have hrefused : FlashStep acknowledgementCut (.store .lastMovePosition .posUp) positionRefused :=
    .store _ .lastMovePosition _ _ hposition fun hk => absurd hk (by decide)
  have hblank : FlashStep positionRefused (.load .lastMovePosition .posBlocked .posBlocked)
      positionRefused :=
    .load _ .lastMovePosition _ _ ⟨_, positionLayout.image_write _, rfl⟩
  exact flash_refines holds_blankFlash <|
    .cons hstored <| .cons hcut <| .cons hkept <| .cons hrefused <| .cons hblank (.nil _)

theorem boot_refines_blankFlash :
    wp readValuesFromFlash (returns fun w' =>
      InMemory (fetchValuesFromFlash blankFlash zeroGlobals).1 w' ∧
        Holds (fetchValuesFromFlash blankFlash zeroGlobals).2 w'.nvs) (fun _ => {})
      (World.reset {} .undefined) := by
  have hstored : DefaultsStored blankFlash := fun _ => ⟨by decide +kernel, by decide +kernel⟩
  exact boot_refines (inMemory_reset {} .undefined) holds_blankFlash hstored

end Eggvault.Spec
