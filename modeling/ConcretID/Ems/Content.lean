import ConcretID.Ems.Transmission

open concretid.memory

namespace concretid.ems

/-! ## Flags -/

/-- A property of the 256 byte values holds of every byte. -/
theorem forall_byte {P : UInt8 → Prop} (h : ∀ n : Fin 256, P (UInt8.ofNat n.val)) (f : UInt8) :
    P f := by
  have hbyte := h ⟨f.toNat, f.toNat_lt⟩
  rwa [UInt8.ofNat_toNat] at hbyte

@[simp] theorem hasFlag_clear : ∀ f : UInt8,
    hasFlag (f &&& ~~~PACKAGE_INTERMEDIATE) PACKAGE_INTERMEDIATE = false :=
  forall_byte (by decide +kernel)

@[simp] theorem hasFlag_set : ∀ f : UInt8,
    hasFlag (f ||| PACKAGE_INTERMEDIATE) PACKAGE_INTERMEDIATE = true :=
  forall_byte (by decide +kernel)

/-- Setting the flag and clearing it again is clearing it. -/
@[simp] theorem clear_set : ∀ f : UInt8,
    (f ||| PACKAGE_INTERMEDIATE) &&& ~~~PACKAGE_INTERMEDIATE = f &&& ~~~PACKAGE_INTERMEDIATE :=
  forall_byte (by decide +kernel)

@[simp] theorem clear_clear : ∀ f : UInt8,
    (f &&& ~~~PACKAGE_INTERMEDIATE) &&& ~~~PACKAGE_INTERMEDIATE =
      f &&& ~~~PACKAGE_INTERMEDIATE :=
  forall_byte (by decide +kernel)

theorem clear_eq_self {f : UInt8} :
    hasFlag f PACKAGE_INTERMEDIATE = false → f &&& ~~~PACKAGE_INTERMEDIATE = f := by
  have hbytes : ∀ f : UInt8, hasFlag f PACKAGE_INTERMEDIATE = false →
      f &&& ~~~PACKAGE_INTERMEDIATE = f := forall_byte (by decide +kernel)
  exact hbytes f

/-- The flag is not part of the type, nor of the other flags. -/
@[simp] theorem typeOf_clear : ∀ f : UInt8,
    typeOf (f &&& ~~~PACKAGE_INTERMEDIATE) = typeOf f :=
  forall_byte (by decide +kernel)

@[simp] theorem typeOf_set : ∀ f : UInt8,
    typeOf (f ||| PACKAGE_INTERMEDIATE) = typeOf f :=
  forall_byte (by decide +kernel)

@[simp] theorem typeOf_code (type : PackageType) : typeOf type.code = type := by
  cases type <;> decide

@[simp] theorem typeOf_identified_code (type : PackageType) :
    typeOf (PACKAGE_IDENTIFIED ||| type.code) = type := by
  cases type <;> decide

@[simp] theorem hasFlag_code (type : PackageType) :
    hasFlag type.code PACKAGE_INTERMEDIATE = false ∧ hasFlag type.code PACKAGE_IDENTIFIED = false := by
  cases type <;> decide

@[simp] theorem hasFlag_identified_code (type : PackageType) :
    hasFlag (PACKAGE_IDENTIFIED ||| type.code) PACKAGE_INTERMEDIATE = false ∧
      hasFlag (PACKAGE_IDENTIFIED ||| type.code) PACKAGE_IDENTIFIED = true := by
  cases type <;> decide

@[simp] theorem hasFlag_identified_clear : ∀ f : UInt8,
    hasFlag (f &&& ~~~PACKAGE_INTERMEDIATE) PACKAGE_IDENTIFIED = hasFlag f PACKAGE_IDENTIFIED :=
  forall_byte (by decide +kernel)

@[simp] theorem hasFlag_ackly_clear : ∀ f : UInt8,
    hasFlag (f &&& ~~~PACKAGE_INTERMEDIATE) PACKAGE_ACKLY = hasFlag f PACKAGE_ACKLY :=
  forall_byte (by decide +kernel)

/-! ## What a package carries -/

/-- Whether a package travels with an intermediate head. -/
def Package.intermediate (p : Package) : Bool := hasFlag p.flags PACKAGE_INTERMEDIATE

/-- A package without its intermediate head. -/
def Package.content (p : Package) : Package :=
  if p.intermediate then
    { p with
      flags := p.flags &&& ~~~PACKAGE_INTERMEDIATE
      data := p.data.drop sizeof_intermediate_head }
  else p

/-- The uid in the first bytes of a package's data. -/
def Package.head (p : Package) : Uid := uidAt (fun i => p.data.getD i 0) 0

/-- Who a package sent to `dest` is meant for: the `end` of its intermediate
head, or `dest` itself. -/
def Package.finalDest (p : Package) (dest : Uid) : Uid :=
  if p.intermediate then p.head else dest

@[simp] theorem Package.content_rid (p : Package) : p.content.rid = p.rid := by
  unfold content
  split <;> rfl

@[simp] theorem Package.content_flags (p : Package) :
    p.content.flags = p.flags &&& ~~~PACKAGE_INTERMEDIATE := by
  unfold content
  split
  · rfl
  · rename_i h
    exact (clear_eq_self (by simpa [intermediate] using h)).symm

theorem Package.content_of_direct {p : Package} (h : p.intermediate = false) : p.content = p := by
  simp [content, h]

theorem Package.content_of_intermediate {p : Package} (h : p.intermediate = true) :
    p.content.data = p.data.drop sizeof_intermediate_head := by
  simp [content, h]

/-- The size of a buffer's package leaves room for the heads its flags announce. -/
def PackageBuffer.Sized (b : PackageBuffer) (size : Nat) : Prop :=
  sizeof_package ≤ size ∧
    (hasFlag b.flags PACKAGE_INTERMEDIATE = true → sizeof_package + sizeof_intermediate_head ≤ size)

@[simp] theorem PackageBuffer.package_rid (b : PackageBuffer) (size : Nat) :
    (b.package size).rid = b.rid := rfl

@[simp] theorem PackageBuffer.package_flags (b : PackageBuffer) (size : Nat) :
    (b.package size).flags = b.flags := rfl

@[simp] theorem PackageBuffer.package_data (b : PackageBuffer) (size : Nat) :
    (b.package size).data = load b.data 0 (size - sizeof_package) := rfl

@[simp] theorem PackageBuffer.package_intermediate (b : PackageBuffer) (size : Nat) :
    (b.package size).intermediate = hasFlag b.flags PACKAGE_INTERMEDIATE := rfl

theorem uidAt_congr {d e : Nat → UInt8} {offset from' : Nat}
    (h : ∀ i < UID_SIZE, d (offset + i) = e (from' + i)) : uidAt d offset = uidAt e from' :=
  Subtype.ext (load_congr h)

@[simp] theorem uidAt_toList (d : Nat → UInt8) (offset : Nat) :
    (uidAt d offset).toList = load d offset UID_SIZE := rfl

/-- A uid at the front of a list of bytes. -/
@[simp] theorem uidAt_append (uid : Uid) (bytes : List UInt8) :
    uidAt (fun i => (uid.toList ++ bytes).getD i 0) 0 = uid := by
  apply List.Vector.eq
  rw [uidAt_toList]
  apply List.ext_getElem?
  intro i
  rw [load_getElem?]
  split
  · rename_i hi
    have hlength : i < uid.toList.length := by rwa [List.Vector.toList_length]
    simp [List.getD_eq_getElem?_getD, List.getElem?_append_left hlength,
      List.getElem?_eq_getElem hlength]
  · rename_i hi
    exact (List.getElem?_eq_none (by rw [List.Vector.toList_length]; omega)).symm

/-- A uid copied to memory is read back. -/
@[simp] theorem uidAt_store (d : Nat → UInt8) (offset : Nat) (uid : Uid) :
    uidAt (store d offset uid.toList) offset = uid := by
  apply Subtype.ext
  have hload := load_store d offset uid.toList
  rwa [List.Vector.toList_length] at hload

/-- What a buffer's package carries, read from the buffer. -/
theorem PackageBuffer.content_eq (b : PackageBuffer) (size : Nat) :
    (b.package size).content =
      { rid := b.rid
        flags := b.flags &&& ~~~PACKAGE_INTERMEDIATE
        data :=
          if hasFlag b.flags PACKAGE_INTERMEDIATE then
            load b.data sizeof_intermediate_head
              (size - (sizeof_package + sizeof_intermediate_head))
          else load b.data 0 (size - sizeof_package) } := by
  cases hflag : hasFlag b.flags PACKAGE_INTERMEDIATE with
  | true =>
    have hdrop := load_drop b.data 0 sizeof_intermediate_head (size - sizeof_package)
    rw [Nat.zero_add, Nat.sub_sub] at hdrop
    simp [Package.content, hflag, hdrop]
  | false =>
    have hdirect : (b.package size).intermediate = false := hflag
    rw [Package.content_of_direct hdirect, clear_eq_self hflag]
    simp [PackageBuffer.package]

/-- The first bytes of a package that has an intermediate head are in the
buffer it was sent from. -/
theorem PackageBuffer.head_eq {b : PackageBuffer} {size : Nat}
    (hsize : sizeof_package + sizeof_intermediate_head ≤ size) :
    (b.package size).head = uidAt b.data 0 := by
  apply uidAt_congr
  intro i hi
  have hin : i < size - sizeof_package := by
    have := hsize
    simp only [sizeof_package, sizeof_intermediate_head, UID_SIZE] at *
    omega
  rw [Nat.zero_add, List.getD_eq_getElem?_getD, PackageBuffer.package_data, load_getElem?, if_pos hin]
  simp

/-! ## Wrapping and unwrapping -/

/-- The package is left as it is, loses its intermediate head or gets one. -/
theorem wrapFor_cases {entry : UidTableEntry} {direct : Bool} {capacity size size' : Nat}
    {b b' : PackageBuffer} (h : Transmission.wrapFor entry direct capacity b size = .ok (b', size')) :
    (hasFlag b.flags PACKAGE_INTERMEDIATE = !direct ∧ b' = b ∧ size' = size) ∨
    (direct = true ∧ hasFlag b.flags PACKAGE_INTERMEDIATE = true ∧
      ∃ n, n = sub16 size (sizeof_intermediate_head + sizeof_package) ∧
        b' = { b with
          data := copyDown b.data sizeof_intermediate_head n
          flags := b.flags &&& ~~~PACKAGE_INTERMEDIATE } ∧
        size' = (n + sizeof_package) % 2 ^ 16) ∨
    (direct = false ∧ hasFlag b.flags PACKAGE_INTERMEDIATE = false ∧
      ∃ n, n = sub16 size sizeof_package ∧
        b' = { b with
          data := store (copyUp sizeof_intermediate_head n b.data) 0 entry.uid.toList
          flags := b.flags ||| PACKAGE_INTERMEDIATE } ∧
        size' = (n + (sizeof_package + sizeof_intermediate_head)) % 2 ^ 16) := by
  unfold Transmission.wrapFor at h
  cases direct with
  | true =>
    rw [if_pos rfl] at h
    cases hflag : hasFlag b.flags PACKAGE_INTERMEDIATE with
    | true =>
      rw [if_pos hflag] at h
      dsimp only at h
      split at h
      · cases h
      · obtain ⟨rfl, rfl⟩ := Prod.mk.inj (Except.ok.inj h)
        exact .inr (.inl ⟨rfl, rfl, _, rfl, rfl, rfl⟩)
    | false =>
      simp only [hflag, Bool.false_eq_true, if_false] at h
      obtain ⟨rfl, rfl⟩ := Prod.mk.inj (Except.ok.inj h)
      exact .inl ⟨rfl, rfl, rfl⟩
  | false =>
    simp only [Bool.false_eq_true, if_false] at h
    cases hflag : hasFlag b.flags PACKAGE_INTERMEDIATE with
    | true =>
      rw [if_pos hflag] at h
      obtain ⟨rfl, rfl⟩ := Prod.mk.inj (Except.ok.inj h)
      exact .inl ⟨rfl, rfl, rfl⟩
    | false =>
      simp only [hflag, Bool.false_eq_true, if_false] at h
      split at h
      · cases h
      · obtain ⟨rfl, rfl⟩ := Prod.mk.inj (Except.ok.inj h)
        exact .inr (.inr ⟨rfl, rfl, _, rfl, rfl, rfl⟩)

/-- Removing the intermediate head keeps what the package carries. -/
theorem PackageBuffer.unwrapped_content {b : PackageBuffer}
    (hflag : hasFlag b.flags PACKAGE_INTERMEDIATE = true) (n : Nat) :
    (({ b with
      data := copyDown b.data sizeof_intermediate_head n
      flags := b.flags &&& ~~~PACKAGE_INTERMEDIATE } : PackageBuffer).package
        (n + sizeof_package)).content =
      (b.package (n + (sizeof_package + sizeof_intermediate_head))).content := by
  rw [PackageBuffer.content_eq, PackageBuffer.content_eq]
  simp [hflag]

/-- Putting an intermediate head before it does as well. -/
theorem PackageBuffer.wrapped_content {b : PackageBuffer}
    (hflag : hasFlag b.flags PACKAGE_INTERMEDIATE = false) (uid : Uid) (n : Nat) :
    (({ b with
      data := store (copyUp sizeof_intermediate_head n b.data) 0 uid.toList
      flags := b.flags ||| PACKAGE_INTERMEDIATE } : PackageBuffer).package
        (n + (sizeof_package + sizeof_intermediate_head))).content =
      (b.package (n + sizeof_package)).content := by
  rw [PackageBuffer.content_eq, PackageBuffer.content_eq]
  have hbody : load (store (copyUp sizeof_intermediate_head n b.data) 0 uid.toList)
      sizeof_intermediate_head n = load b.data 0 n := by
    rw [load_store_of_disjoint, load_copyUp]
    simp
  simp [hflag, hbody]

/-- `send_package_by_table` keeps what the package carries. It removes the
intermediate head when the route leads to the destination itself; otherwise the
package has one, a new one naming the route's uid. -/
theorem wrapFor_content {entry : UidTableEntry} {direct : Bool} {capacity size size' : Nat}
    {b b' : PackageBuffer} (h : Transmission.wrapFor entry direct capacity b size = .ok (b', size'))
    (hsized : b.Sized size) (hbound : size + sizeof_intermediate_head < 2 ^ 16) :
    (b'.package size').content = (b.package size).content ∧ b'.Sized size' ∧
      hasFlag b'.flags PACKAGE_INTERMEDIATE = !direct ∧
      (direct = false → uidAt b'.data 0 =
        if hasFlag b.flags PACKAGE_INTERMEDIATE then uidAt b.data 0 else entry.uid) ∧
      size' ≤ size + (if hasFlag b.flags PACKAGE_INTERMEDIATE then 0 else sizeof_intermediate_head) := by
  obtain ⟨hmin, hhead⟩ := hsized
  obtain ⟨hflag, rfl, rfl⟩ | ⟨rfl, hflag, n, hn, rfl, rfl⟩ | ⟨rfl, hflag, n, hn, rfl, rfl⟩ :=
    wrapFor_cases h
  · refine ⟨rfl, ⟨hmin, hhead⟩, hflag, ?_, Nat.le_add_right _ _⟩
    rintro rfl
    rw [hflag]
    rfl
  · -- the head goes
    have hge := hhead hflag
    rw [sub16_of_le (by omega) (by omega)] at hn
    obtain rfl : size = n + (sizeof_package + sizeof_intermediate_head) := by omega
    rw [Nat.mod_eq_of_lt (by omega)]
    refine ⟨PackageBuffer.unwrapped_content hflag n, ⟨?_, ?_⟩, ?_, ?_, ?_⟩
    · omega
    · simp
    · simp
    · simp
    · omega
  · -- it gets one
    rw [sub16_of_le hmin (by omega)] at hn
    obtain rfl : size = n + sizeof_package := by omega
    rw [Nat.mod_eq_of_lt (by omega)]
    refine ⟨PackageBuffer.wrapped_content hflag entry.uid n, ⟨?_, ?_⟩, ?_, ?_, ?_⟩
    · omega
    · intro _
      omega
    · simp
    · simp [hflag]
    · rw [hflag]
      simp only [Bool.false_eq_true, if_false]
      omega

theorem wrapFor_rid {entry : UidTableEntry} {direct : Bool} {capacity size size' : Nat}
    {b b' : PackageBuffer} (h : Transmission.wrapFor entry direct capacity b size = .ok (b', size')) :
    b'.rid = b.rid := by
  obtain ⟨_, rfl, _⟩ | ⟨_, _, n, _, rfl, _⟩ | ⟨_, _, n, _, rfl, _⟩ := wrapFor_cases h
  · rfl
  · rfl
  · rfl

/-- Only the intermediate flag changes. -/
theorem wrapFor_type {entry : UidTableEntry} {direct : Bool} {capacity size size' : Nat}
    {b b' : PackageBuffer} (h : Transmission.wrapFor entry direct capacity b size = .ok (b', size')) :
    typeOf b'.flags = typeOf b.flags := by
  obtain ⟨_, rfl, _⟩ | ⟨_, _, n, _, rfl, _⟩ | ⟨_, _, n, _, rfl, _⟩ := wrapFor_cases h
  · rfl
  · exact typeOf_clear b.flags
  · exact typeOf_set b.flags

/-- A package that has an intermediate head is sent on from any buffer that
holds it. -/
theorem wrapFor_intermediate_ok (entry : UidTableEntry) (direct : Bool) {capacity size : Nat}
    {b : PackageBuffer} (hflag : hasFlag b.flags PACKAGE_INTERMEDIATE = true)
    (hmin : sizeof_package + sizeof_intermediate_head ≤ size)
    (hroom : size ≤ capacity + sizeof_package) (hbound : size < 2 ^ 16) :
    ∃ result, Transmission.wrapFor entry direct capacity b size = .ok result := by
  unfold Transmission.wrapFor
  cases direct with
  | false => exact ⟨(b, size), by simp [hflag]⟩
  | true =>
    have hsub : sub16 size (sizeof_intermediate_head + sizeof_package) = size - 21 :=
      sub16_of_le hmin hbound
    simp only [sizeof_package, sizeof_intermediate_head] at hmin hroom
    simp only [hflag, if_true, hsub]
    rw [if_neg]
    · exact ⟨_, rfl⟩
    · simp only [sizeof_intermediate_head]
      omega

/-- One without is sent from any buffer that has room for the head as well. -/
theorem wrapFor_bare_ok (entry : UidTableEntry) (direct : Bool) {capacity size : Nat}
    {b : PackageBuffer} (hflag : hasFlag b.flags PACKAGE_INTERMEDIATE = false)
    (hmin : sizeof_package ≤ size) (hroom : size + sizeof_intermediate_head ≤ capacity + sizeof_package)
    (hbound : size < 2 ^ 16) :
    ∃ result, Transmission.wrapFor entry direct capacity b size = .ok result := by
  cases direct with
  | true => exact ⟨(b, size), by simp [Transmission.wrapFor, hflag]⟩
  | false =>
    have hsub : sub16 size sizeof_package = size - sizeof_package := sub16_of_le hmin hbound
    simp only [Transmission.wrapFor, hflag, Bool.false_eq_true, if_false, hsub]
    rw [if_neg]
    · exact ⟨_, rfl⟩
    · simp only [sizeof_package, sizeof_intermediate_head] at hmin hroom ⊢
      omega

end concretid.ems
