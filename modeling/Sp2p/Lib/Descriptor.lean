import Sp2p.Lib.Message

/-!
# Message classes and the types of their fields

A `Descriptor` is the list of the fields of a class with what the generated functions rely on. A field
is of a scalar type (`Field.scalar`: text, 32-bit integers, enumerations), a message of another class,
or a repeated message; the laws of the latter two come from the class of the inner messages, so classes
are built from the inside.
-/

namespace Wire

open Framing

variable {W : WireFormat} {M : Type}

/-- A message class. -/
structure Descriptor (W : WireFormat) (M : Type) : Type 1 where
  fields : List (Field W M)
  empty : M
  /-- The integers of the message are of their type. -/
  InRange : M → Prop
  ascending : Ascending fields
  mergeFrom_empty : ∀ m, mergeFrom fields empty m = m
  inRange_empty : InRange empty
  inRange_values : ∀ {m}, InRange m → ∀ f ∈ fields, ∀ v ∈ f.values m, f.InRange v
  inRange_read : ∀ f ∈ fields, f.Keeps InRange

namespace Descriptor

def mergePartialFromCodedStream (d : Descriptor W M) (tape : List Bool) (m : M) (input : List Byte) :
    Option (M × Bool × List Bool) :=
  mergePartial d.fields tape m input

def serializeWithCachedSizes (d : Descriptor W M) (m : M) : List Byte := serialize d.fields m

def byteSize (d : Descriptor W M) (m : M) : Nat := Wire.byteSize d.fields m

def mergeFrom (d : Descriptor W M) (m fromMessage : M) : M := Wire.mergeFrom d.fields m fromMessage

variable {d : Descriptor W M}

theorem byteSize_eq_length (d : Descriptor W M) (m : M) :
    d.byteSize m = (d.serializeWithCachedSizes m).length :=
  byteSize_eq d.fields m

/-- The fields of a message in the order in which they are written. -/
def items (d : Descriptor W M) (m : M) : List (Item W M) :=
  d.fields.flatMap fun f => (f.values m).map (Item.field f)

theorem flatMap_items (d : Descriptor W M) (m : M) :
    (d.items m).flatMap Item.bytes = d.serializeWithCachedSizes m := by
  rw [items, serializeWithCachedSizes, serialize, List.flatMap_assoc]
  congr 1
  funext f
  rw [List.flatMap_map]
  rfl

theorem foldl_items (d : Descriptor W M) (m a : M) :
    (d.items m).foldl (fun a item => item.apply a) a = d.mergeFrom a m := by
  rw [items, mergeFrom, Wire.mergeFrom]
  generalize d.fields = fields
  induction fields generalizing a with
  | nil => rfl
  | cons f fields ih =>
    rw [List.flatMap_cons, List.foldl_append, ih, List.foldl_cons, List.foldl_map]
    rfl

theorem length_bytes_le {items : List (Item W M)} {item : Item W M} (h : item ∈ items) :
    item.bytes.length ≤ (items.flatMap Item.bytes).length := by
  obtain ⟨before, after, rfl⟩ := List.append_of_mem h
  rw [List.flatMap_append, List.flatMap_cons, List.length_append, List.length_append]
  omega

theorem wellFormed_items {m : M} (hrange : d.InRange m)
    (hsize : (d.serializeWithCachedSizes m).length < W.maxSize) :
    ∀ item ∈ d.items m, item.WellFormed d.fields := by
  intro item hitem
  have hle := length_bytes_le hitem
  rw [flatMap_items] at hle
  obtain ⟨f, hf, hmap⟩ := List.mem_flatMap.1 hitem
  obtain ⟨v, hv, rfl⟩ := List.mem_map.1 hmap
  refine ⟨hf, d.inRange_values hrange f hf v hv, ?_⟩
  have hwrite : (Item.field f v).bytes = W.writeTag f.tag ++ f.encode v := rfl
  rw [hwrite, List.length_append] at hle
  omega

/-- At the end of the input the loop returns the message. -/
theorem mergePartial_end (d : Descriptor W M) (m : M) :
    d.mergePartialFromCodedStream [] m [] = some (m, true, []) := by
  rw [mergePartialFromCodedStream, mergePartial, List.length_nil, mergeLoop, W.readTag_nil]

/-- **Reading what was written of a message merges it, in whatever follows.** -/
theorem mergePartial_serialize {m : M} (hrange : d.InRange m)
    (hsize : (d.serializeWithCachedSizes m).length < W.maxSize) (a : M) (rest : List Byte) :
    result (d.mergePartialFromCodedStream [] a (d.serializeWithCachedSizes m ++ rest)) =
      result (d.mergePartialFromCodedStream [] (d.mergeFrom a m) rest) := by
  have h := mergePartial_items d.ascending (d.items m) (wellFormed_items hrange hsize) a rest
  rw [flatMap_items, foldl_items] at h
  exact h

theorem mergePartial_tape (d : Descriptor W M) (tape : List Bool) (m : M) (input : List Byte) :
    result (d.mergePartialFromCodedStream tape m input) =
      result (d.mergePartialFromCodedStream [] m input) :=
  Wire.mergePartial_tape d.ascending tape m input

theorem mergePartial_nil {m : M} {input : List Byte} {r : M × Bool × List Bool}
    (h : d.mergePartialFromCodedStream [] m input = some r) : r.2.2 = [] :=
  mergeLoop_nil _ h

theorem mergePartial_written {m : M} (hrange : d.InRange m)
    (hsize : (d.serializeWithCachedSizes m).length < W.maxSize) (a : M) :
    d.mergePartialFromCodedStream [] a (d.serializeWithCachedSizes m) =
      some (d.mergeFrom a m, true, []) := by
  have h := mergePartial_serialize hrange hsize a []
  rw [List.append_nil, mergePartial_end] at h
  obtain ⟨⟨m', consumed, tape⟩, hr, heq⟩ := Option.map_eq_some_iff.1 h
  cases heq
  obtain rfl : tape = [] := mergePartial_nil hr
  exact hr

/-- What is read is in the range, for it was read with a type. -/
theorem inRange_merge {tape : List Bool} {m : M} {input : List Byte} {r : M × Bool × List Bool}
    (hm : d.InRange m) (h : d.mergePartialFromCodedStream tape m input = some r) : d.InRange r.1 :=
  mergeLoop_inv (P := d.InRange) d.inRange_read _ placed_none hm h

end Descriptor

/-! ### Types of fields -/

/-- The number of a field has a tag of this size: numbers from 16 on take two bytes. -/
def TagSize (number tagSize : Nat) : Prop :=
  0 < number ∧ number < 2048 ∧ tagSize = if number < 16 then 1 else 2

instance (number tagSize : Nat) : Decidable (TagSize number tagSize) :=
  inferInstanceAs (Decidable (_ ∧ _))

theorem length_writeTag {number tagSize wireType : Nat} (h : TagSize number tagSize)
    (hwire : wireType < 8) : (W.writeTag (makeTag number wireType)).length = tagSize := by
  obtain ⟨hpos, hlt, rfl⟩ := h
  split
  · exact W.length_writeTag_one (by unfold makeTag; omega)
  · exact W.length_writeTag_two (by unfold makeTag; omega) (by unfold makeTag; omega)

/-- How a value that is no message is read and written. Reading may give no value: a number that is
none of an enumeration is kept aside. -/
structure ScalarType (W : WireFormat) (V : Type) where
  wireType : Nat
  InRange : V → Prop
  write : V → List Byte
  size : V → Nat
  read : List Byte → Option (Option V × List Byte)
  wireType_lt : wireType < 8
  not_endGroup : wireType ≠ WIRETYPE_END_GROUP
  length_write : ∀ v, (write v).length = size v
  read_le : ∀ {input r}, read input = some r → r.2.length ≤ input.length
  read_write : ∀ {v}, InRange v → (write v).length < W.maxSize → ∀ rest,
    read (write v ++ rest) = some (some v, rest)
  read_inRange : ∀ {input v rest}, read input = some (some v, rest) → InRange v

namespace ScalarType

def string (W : WireFormat) : ScalarType W String where
  wireType := WIRETYPE_LENGTH_DELIMITED
  InRange _ := True
  write := W.writeString
  size := W.stringSize
  read input := (W.readString input).map fun r => (some r.1, r.2)
  wireType_lt := by decide
  not_endGroup := by decide
  length_write := W.length_writeString
  read_le h := by
    obtain ⟨r, hr, rfl⟩ := Option.map_eq_some_iff.1 h
    exact W.readString_le hr
  read_write _ hsize rest := by
    rw [W.readString_writeString hsize]
    rfl
  read_inRange _ := trivial

def int32 (W : WireFormat) : ScalarType W Int where
  wireType := WIRETYPE_VARINT
  InRange := IsInt32
  write := W.writeInt32
  size := W.int32Size
  read input := (W.readInt32 input).map fun r => (some r.1, r.2)
  wireType_lt := by decide
  not_endGroup := by decide
  length_write := W.length_writeInt32
  read_le h := by
    obtain ⟨r, hr, rfl⟩ := Option.map_eq_some_iff.1 h
    exact W.readInt32_le hr
  read_write hrange _ rest := by
    rw [W.readInt32_writeInt32 hrange]
    rfl
  read_inRange h := by
    obtain ⟨⟨v, rest⟩, hr, heq⟩ := Option.map_eq_some_iff.1 h
    cases heq
    exact W.readInt32_isInt32 hr

end ScalarType

/-- An enumeration with the numbers of its values; `ofInt` is `IsValid` and the cast. -/
structure EnumType (E : Type) where
  toInt : E → Int
  ofInt : Int → Option E
  ofInt_toInt : ∀ e, ofInt (toInt e) = some e
  isInt32_toInt : ∀ e, IsInt32 (toInt e)

def ScalarType.enum {E : Type} (W : WireFormat) (e : EnumType E) : ScalarType W E where
  wireType := WIRETYPE_VARINT
  InRange _ := True
  write v := W.writeInt32 (e.toInt v)
  size v := W.int32Size (e.toInt v)
  read input := (W.readInt32 input).map fun r => (e.ofInt r.1, r.2)
  wireType_lt := by decide
  not_endGroup := by decide
  length_write v := W.length_writeInt32 (e.toInt v)
  read_le h := by
    obtain ⟨r, hr, rfl⟩ := Option.map_eq_some_iff.1 h
    exact W.readInt32_le hr
  read_write _ _ rest := by
    rw [W.readInt32_writeInt32 (e.isInt32_toInt _), Option.map_some, e.ofInt_toInt]
  read_inRange _ := trivial

namespace Field

/-- A field of a scalar type. -/
def scalar {V : Type} (number tagSize : Nat) (t : ScalarType W V) (get : M → Option V)
    (put : Option V → M → M) (h : TagSize number tagSize := by decide) : Field W M where
  number := number
  wireType := t.wireType
  tagSize := tagSize
  repeated := false
  Value := V
  values m := (get m).toList
  add v := put (some v)
  encode := t.write
  byteSize := t.size
  InRange := t.InRange
  read tape m input := (t.read input).map fun r =>
    (match r.1 with
      | some v => put (some v) m
      | none => m, r.2, tape)
  number_pos := h.1
  number_lt := Nat.lt_trans h.2.1 (by decide)
  wireType_lt := t.wireType_lt
  not_endGroup := t.not_endGroup
  length_tag := length_writeTag h t.wireType_lt
  length_encode := t.length_write
  read_le hread := by
    obtain ⟨r, hr, rfl⟩ := Option.map_eq_some_iff.1 hread
    exact t.read_le hr
  read_tape tape m input := by
    rw [Option.map_map, Option.map_map]
    rfl
  read_nil hread := by
    obtain ⟨r, -, rfl⟩ := Option.map_eq_some_iff.1 hread
    rfl
  read_encode hrange hsize m rest := by
    rw [t.read_write hrange hsize]
    rfl

theorem keeps_scalar {V : Type} {number tagSize : Nat} {t : ScalarType W V} {get : M → Option V}
    {put : Option V → M → M} {h : TagSize number tagSize} {P : M → Prop}
    (hput : ∀ v m, t.InRange v → P m → P (put (some v) m)) :
    (scalar number tagSize t get put h).Keeps P := by
  intro tape m input r hm hread
  obtain ⟨⟨v, rest⟩, hr, rfl⟩ := Option.map_eq_some_iff.1 hread
  cases v with
  | none => exact hm
  | some v => exact hput v m (t.read_inRange hr) hm

/-- The number of bytes of a message with its length (`MessageSizeNoVirtual`). -/
def messageSize {N : Type} (d : Descriptor W N) (v : N) : Nat :=
  W.lengthSize (d.byteSize v) + d.byteSize v

/-- A message behind its length (`WriteMessage`); the length is the one that `ByteSize` counts. -/
def writeMessage {N : Type} (d : Descriptor W N) (v : N) : List Byte :=
  W.writeLength (d.byteSize v) ++ d.serializeWithCachedSizes v

/-- `ReadMessageNoVirtual` into a message. -/
def readMessage {N : Type} (d : Descriptor W N) (tape : List Bool) (v : N) (input : List Byte) :
    Option (N × List Byte × List Bool) :=
  (W.pushLimit input).bind fun limited =>
    (d.mergePartialFromCodedStream tape v limited.1).bind fun r =>
      if r.2.1 then some (r.1, limited.2, r.2.2) else none

section Message

variable {N : Type} {d : Descriptor W N}

theorem length_writeMessage (v : N) : (writeMessage d v).length = messageSize d v := by
  rw [writeMessage, messageSize, List.length_append, W.length_writeLength, d.byteSize_eq_length]

theorem readMessage_le {tape : List Bool} {v : N} {input : List Byte} {r : N × List Byte × List Bool}
    (h : readMessage d tape v input = some r) : r.2.1.length ≤ input.length := by
  obtain ⟨⟨body, rest⟩, hlimit, h⟩ := Option.bind_eq_some_iff.1 h
  obtain ⟨inner, -, h⟩ := Option.bind_eq_some_iff.1 h
  split at h
  · cases h
    exact W.pushLimit_le hlimit
  · cases h

theorem readMessage_tape (tape : List Bool) (v : N) (input : List Byte) :
    (readMessage d tape v input).map (fun r => (r.1, r.2.1)) =
      (readMessage d [] v input).map fun r => (r.1, r.2.1) := by
  unfold readMessage
  cases W.pushLimit input with
  | none => rfl
  | some limited =>
    have hsame := d.mergePartial_tape tape v limited.1
    -- The message and the end are known from the result.
    have hresult : ∀ x : Option (N × Bool × List Bool),
        (x.bind fun r => if r.2.1 then some (r.1, limited.2, r.2.2) else none).map
          (fun r => (r.1, r.2.1)) =
        (result x).bind fun r => if r.2 then some (r.1, limited.2) else none := by
      intro x
      cases x with
      | none => rfl
      | some r =>
        obtain ⟨v', consumed, tape'⟩ := r
        cases consumed <;> rfl
    rw [Option.bind_some, Option.bind_some, hresult, hresult, hsame]

theorem readMessage_nil {v : N} {input : List Byte} {r : N × List Byte × List Bool}
    (h : readMessage d [] v input = some r) : r.2.2 = [] := by
  obtain ⟨limited, -, h⟩ := Option.bind_eq_some_iff.1 h
  obtain ⟨inner, hinner, h⟩ := Option.bind_eq_some_iff.1 h
  have hnil := d.mergePartial_nil hinner
  split at h
  · cases h
    exact hnil
  · cases h

theorem readMessage_writeMessage {v : N} (hrange : d.InRange v)
    (hsize : (writeMessage d v).length < W.maxSize) (a : N) (rest : List Byte) :
    readMessage d [] a (writeMessage d v ++ rest) = some (d.mergeFrom a v, rest, []) := by
  have hbody : (d.serializeWithCachedSizes v).length < W.maxSize := by
    rw [writeMessage, List.length_append] at hsize
    omega
  have hlimit := W.pushLimit_writeLength hbody rest
  rw [readMessage, writeMessage, d.byteSize_eq_length, hlimit, Option.bind_some,
    Descriptor.mergePartial_written hrange hbody]
  rfl

theorem inRange_readMessage {tape : List Bool} {v : N} {input : List Byte}
    {r : N × List Byte × List Bool} (hv : d.InRange v) (h : readMessage d tape v input = some r) :
    d.InRange r.1 := by
  obtain ⟨limited, -, h⟩ := Option.bind_eq_some_iff.1 h
  obtain ⟨inner, hinner, h⟩ := Option.bind_eq_some_iff.1 h
  have hrange := Descriptor.inRange_merge hv hinner
  split at h
  · cases h
    exact hrange
  · cases h

end Message

/-- A field that is a message, merged into the one that is there. -/
def message {N : Type} (number tagSize : Nat) (d : Descriptor W N) (get : M → Option N)
    (put : Option N → M → M) (h : TagSize number tagSize := by decide) : Field W M where
  number := number
  wireType := WIRETYPE_LENGTH_DELIMITED
  tagSize := tagSize
  repeated := false
  Value := N
  values m := (get m).toList
  add v m := put (some (d.mergeFrom ((get m).getD d.empty) v)) m
  encode := writeMessage d
  byteSize := messageSize d
  InRange := d.InRange
  read tape m input := (readMessage d tape ((get m).getD d.empty) input).map fun r =>
    (put (some r.1) m, r.2)
  number_pos := h.1
  number_lt := Nat.lt_trans h.2.1 (by decide)
  wireType_lt := by decide
  not_endGroup := by decide
  length_tag := length_writeTag h (by decide)
  length_encode := length_writeMessage
  read_le hread := by
    obtain ⟨r, hr, rfl⟩ := Option.map_eq_some_iff.1 hread
    have hle := readMessage_le hr
    exact hle
  read_tape tape m input := by
    have hsame := congrArg (Option.map fun r : N × List Byte => (put (some r.1) m, r.2))
      (readMessage_tape (d := d) tape ((get m).getD d.empty) input)
    rw [Option.map_map, Option.map_map] at hsame ⊢
    exact hsame
  read_nil hread := by
    obtain ⟨r, hr, rfl⟩ := Option.map_eq_some_iff.1 hread
    have hnil := readMessage_nil hr
    exact hnil
  read_encode hrange hsize m rest := by
    rw [readMessage_writeMessage hrange hsize]
    rfl

theorem keeps_message {N : Type} {number tagSize : Nat} {d : Descriptor W N} {get : M → Option N}
    {put : Option N → M → M} {h : TagSize number tagSize} {P : M → Prop}
    (hget : ∀ m, P m → ∀ v ∈ get m, d.InRange v)
    (hput : ∀ v m, d.InRange v → P m → P (put (some v) m)) :
    (message number tagSize d get put h).Keeps P := by
  intro tape m input r hm hread
  obtain ⟨⟨v, rest⟩, hr, rfl⟩ := Option.map_eq_some_iff.1 hread
  refine hput v m (inRange_readMessage ?_ hr) hm
  cases hv : get m with
  | none => exact d.inRange_empty
  | some v' => exact hget m hm v' hv

/-- A repeated message: every one on the wire is a new element (`Add`). -/
def repeatedMessage {N : Type} (number tagSize : Nat) (d : Descriptor W N) (get : M → List N)
    (push : N → M → M) (h : TagSize number tagSize := by decide) : Field W M where
  number := number
  wireType := WIRETYPE_LENGTH_DELIMITED
  tagSize := tagSize
  repeated := true
  Value := N
  values := get
  add v m := push (d.mergeFrom d.empty v) m
  encode := writeMessage d
  byteSize := messageSize d
  InRange := d.InRange
  read tape m input := (readMessage d tape d.empty input).map fun r => (push r.1 m, r.2)
  number_pos := h.1
  number_lt := Nat.lt_trans h.2.1 (by decide)
  wireType_lt := by decide
  not_endGroup := by decide
  length_tag := length_writeTag h (by decide)
  length_encode := length_writeMessage
  read_le hread := by
    obtain ⟨r, hr, rfl⟩ := Option.map_eq_some_iff.1 hread
    have hle := readMessage_le hr
    exact hle
  read_tape tape m input := by
    have hsame := congrArg (Option.map fun r : N × List Byte => (push r.1 m, r.2))
      (readMessage_tape (d := d) tape d.empty input)
    rw [Option.map_map, Option.map_map] at hsame ⊢
    exact hsame
  read_nil hread := by
    obtain ⟨r, hr, rfl⟩ := Option.map_eq_some_iff.1 hread
    have hnil := readMessage_nil hr
    exact hnil
  read_encode hrange hsize m rest := by
    rw [readMessage_writeMessage hrange hsize]
    rfl

theorem keeps_repeatedMessage {N : Type} {number tagSize : Nat} {d : Descriptor W N}
    {get : M → List N} {push : N → M → M} {h : TagSize number tagSize} {P : M → Prop}
    (hpush : ∀ v m, d.InRange v → P m → P (push v m)) :
    (repeatedMessage number tagSize d get push h).Keeps P := by
  intro tape m input r hm hread
  obtain ⟨⟨v, rest⟩, hr, rfl⟩ := Option.map_eq_some_iff.1 hread
  exact hpush v m (inRange_readMessage d.inRange_empty hr) hm

end Field

/-! ### Merging into an empty message -/

section Merge

variable {fields : List (Field W M)} {a m : M} {number tagSize : Nat} {h : TagSize number tagSize}

theorem mergeFrom_scalar {V : Type} {t : ScalarType W V} {get : M → Option V}
    {put : Option V → M → M} (hnone : put none a = a) :
    mergeFrom (Field.scalar number tagSize t get put h :: fields) a m =
      mergeFrom fields (put (get m) a) m := by
  unfold mergeFrom
  rw [List.foldl_cons]
  congr 1
  cases hget : get m <;> simp [Field.scalar, hget, hnone]

theorem mergeFrom_message {N : Type} {d : Descriptor W N} {get : M → Option N}
    {put : Option N → M → M} (hempty : get a = none) (hnone : put none a = a) :
    mergeFrom (Field.message number tagSize d get put h :: fields) a m =
      mergeFrom fields (put (get m) a) m := by
  have hmerge : ∀ v, d.mergeFrom d.empty v = v := d.mergeFrom_empty
  unfold mergeFrom
  rw [List.foldl_cons]
  congr 1
  cases hget : get m <;> simp [Field.message, hget, hnone, hempty, hmerge]

theorem mergeFrom_repeatedMessage {N : Type} {d : Descriptor W N} {get : M → List N}
    {push : N → M → M} :
    mergeFrom (Field.repeatedMessage number tagSize d get push h :: fields) a m =
      mergeFrom fields ((get m).foldl (fun a v => push v a) a) m := by
  have hmerge : ∀ v, d.mergeFrom d.empty v = v := d.mergeFrom_empty
  unfold mergeFrom
  rw [List.foldl_cons]
  simp only [Field.repeatedMessage, hmerge]

theorem mergeFrom_nil : mergeFrom ([] : List (Field W M)) a m = a := rfl

end Merge

/-- A class without integers. -/
def Descriptor.ofTexts (fields : List (Field W M)) (empty : M) (ascending : Ascending fields)
    (mergeFrom_empty : ∀ m, Wire.mergeFrom fields empty m = m)
    (inRange : ∀ f ∈ fields, ∀ v, f.InRange v) : Descriptor W M where
  fields := fields
  empty := empty
  InRange _ := True
  ascending := ascending
  mergeFrom_empty := mergeFrom_empty
  inRange_empty := trivial
  inRange_values _ f hf v _ := inRange f hf v
  inRange_read _ _ _ _ _ _ _ _ := trivial

/-! ### Whole messages -/

namespace Descriptor

variable {d : Descriptor W M} {isInitialized : M → Bool}

/-- `ParseFromIstream`: the input is read to its end, and no required field is missing. -/
def parseFromIstream (d : Descriptor W M) (isInitialized : M → Bool) (tape : List Bool)
    (input : List Byte) : Option M :=
  (d.mergePartialFromCodedStream tape d.empty input).bind fun r =>
    if isInitialized r.1 ∧ r.2.1 then some r.1 else none

/-- It depends on the result of the loop only. -/
theorem parseFromIstream_eq (d : Descriptor W M) (isInitialized : M → Bool) (tape : List Bool)
    (input : List Byte) :
    d.parseFromIstream isInitialized tape input =
      (result (d.mergePartialFromCodedStream [] d.empty input)).bind fun r =>
        if isInitialized r.1 ∧ r.2 then some r.1 else none := by
  rw [parseFromIstream, ← d.mergePartial_tape tape]
  cases d.mergePartialFromCodedStream tape d.empty input <;> rfl

theorem parseFromIstream_tape (d : Descriptor W M) (isInitialized : M → Bool) (tape : List Bool)
    (input : List Byte) :
    d.parseFromIstream isInitialized tape input = d.parseFromIstream isInitialized [] input := by
  rw [parseFromIstream_eq, parseFromIstream_eq]

theorem parseFromIstream_items {items : List (Item W M)}
    (hitems : ∀ item ∈ items, item.WellFormed d.fields)
    (hinit : isInitialized (items.foldl (fun m item => item.apply m) d.empty) = true)
    (tape : List Bool) :
    d.parseFromIstream isInitialized tape (items.flatMap Item.bytes) =
      some (items.foldl (fun m item => item.apply m) d.empty) := by
  have h := mergePartial_items d.ascending items hitems d.empty []
  rw [List.append_nil] at h
  replace h := h.trans (congrArg result (d.mergePartial_end _))
  rw [parseFromIstream_eq, mergePartialFromCodedStream, h]
  simp [result, hinit]

/-- **A message is read as it was written.** -/
theorem parseFromIstream_serialize {m : M} (hrange : d.InRange m)
    (hsize : (d.serializeWithCachedSizes m).length < W.maxSize) (hinit : isInitialized m = true)
    (tape : List Bool) :
    d.parseFromIstream isInitialized tape (d.serializeWithCachedSizes m) = some m := by
  have hmerge : d.mergeFrom d.empty m = m := d.mergeFrom_empty m
  rw [parseFromIstream_eq, mergePartial_written hrange hsize, hmerge]
  simp [result, hinit]

/-- **Messages behind each other are read as all of them merged.** -/
theorem parseFromIstream_flatMap {ms : List M}
    (hms : ∀ m ∈ ms, d.InRange m ∧ (d.serializeWithCachedSizes m).length < W.maxSize)
    (hinit : isInitialized (ms.foldl d.mergeFrom d.empty) = true) (tape : List Bool) :
    d.parseFromIstream isInitialized tape (ms.flatMap d.serializeWithCachedSizes) =
      some (ms.foldl d.mergeFrom d.empty) := by
  have hitems : ∀ item ∈ ms.flatMap d.items, item.WellFormed d.fields := by
    intro item hitem
    obtain ⟨m, hm, hitem⟩ := List.mem_flatMap.1 hitem
    exact wellFormed_items (hms m hm).1 (hms m hm).2 item hitem
  have hbytes : (ms.flatMap d.items).flatMap Item.bytes = ms.flatMap d.serializeWithCachedSizes := by
    rw [List.flatMap_assoc]
    exact congrArg (ms.flatMap ·) (funext d.flatMap_items)
  have hmerge : (ms.flatMap d.items).foldl (fun m item => item.apply m) d.empty =
      ms.foldl d.mergeFrom d.empty := by
    rw [List.foldl_flatMap]
    congr 1
    funext a m
    exact d.foldl_items m a
  rw [← hbytes, parseFromIstream_items hitems (by rwa [hmerge]) tape, hmerge]

/-- Only the fields of the class change a message. -/
theorem foldl_filter_isField (items : List (Item W M)) (m : M) :
    (items.filter Item.isField).foldl (fun m item => item.apply m) m =
      items.foldl (fun m item => item.apply m) m := by
  induction items generalizing m with
  | nil => rfl
  | cons item items ih =>
    cases item with
    | field f v => exact ih _
    | unknown tag payload => exact ih _

/-- **Fields that the class does not have make no difference, wherever they stand.** -/
theorem parseFromIstream_unknown {m : M} {items : List (Item W M)}
    (hfields : items.filter Item.isField = d.items m)
    (hunknown : ∀ item ∈ items, item.isField = false → item.WellFormed d.fields)
    (hrange : d.InRange m) (hsize : (d.serializeWithCachedSizes m).length < W.maxSize)
    (hinit : isInitialized m = true) (tape : List Bool) :
    d.parseFromIstream isInitialized tape (items.flatMap Item.bytes) = some m := by
  have hmerge : d.mergeFrom d.empty m = m := d.mergeFrom_empty m
  have hitems : ∀ item ∈ items, item.WellFormed d.fields := by
    intro item hitem
    cases hfield : item.isField with
    | false => exact hunknown item hitem hfield
    | true =>
      refine wellFormed_items hrange hsize item ?_
      rw [← hfields]
      exact List.mem_filter.2 ⟨hitem, hfield⟩
  have hfold : items.foldl (fun m item => item.apply m) d.empty = m := by
    rw [← foldl_filter_isField, hfields, d.foldl_items, hmerge]
  rw [parseFromIstream_items hitems (by rwa [hfold]) tape, hfold]

/-- **What is accepted is well formed, and is read again as it is when it is written.** -/
theorem parseFromIstream_accepted {tape : List Bool} {input : List Byte} {m : M}
    (h : d.parseFromIstream isInitialized tape input = some m) :
    isInitialized m = true ∧ d.InRange m ∧
      ((d.serializeWithCachedSizes m).length < W.maxSize → ∀ tape',
        d.parseFromIstream isInitialized tape' (d.serializeWithCachedSizes m) = some m) := by
  obtain ⟨r, hr, h⟩ := Option.bind_eq_some_iff.1 h
  split at h
  · rename_i hok
    cases h
    have hrange := inRange_merge d.inRange_empty hr
    exact ⟨hok.1, hrange, fun hsize => parseFromIstream_serialize hrange hsize hok.1⟩
  · cases h

end Descriptor

end Wire
