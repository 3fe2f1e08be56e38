import Sp2p.Lib.Varint

/-!
# The wire format of messages

A message is a sequence of fields on the wire: a tag, which is a field number with a wire type, and
the value. `WireFormat` is what code that is generated for a message class calls to read and write
them, with what is documented of these functions. `WireFormat.protobuf` has all of it, so nothing that
is asked of a `WireFormat` is contradictory.

The reader's functions are given what is left of the input, up to the current limit, and give what is
left behind what they read.
-/

namespace Wire

open Framing

/-- What `ReadTag` finds: the end of the input, a zero (which is also what it makes of a malformed
tag), or a tag and what is behind it. -/
inductive NextTag
  | atEnd
  | zero
  | tag (tag : Nat) (rest : List Byte)
  deriving DecidableEq

def WIRETYPE_VARINT : Nat := 0
def WIRETYPE_LENGTH_DELIMITED : Nat := 2
def WIRETYPE_END_GROUP : Nat := 4

def makeTag (number wireType : Nat) : Nat := number * 8 + wireType

def getTagFieldNumber (tag : Nat) : Nat := tag / 8

def getTagWireType (tag : Nat) : Nat := tag % 8

theorem getTagFieldNumber_makeTag {number wireType : Nat} (h : wireType < 8) :
    getTagFieldNumber (makeTag number wireType) = number := by
  unfold getTagFieldNumber makeTag
  omega

theorem getTagWireType_makeTag {number wireType : Nat} (h : wireType < 8) :
    getTagWireType (makeTag number wireType) = wireType := by
  unfold getTagWireType makeTag
  omega

/-- An integer that fits into 32 bits. -/
def IsInt32 (v : Int) : Prop := -2 ^ 31 ≤ v ∧ v < 2 ^ 31

instance (v : Int) : Decidable (IsInt32 v) := inferInstanceAs (Decidable (_ ∧ _))

/-- The bytes that are read of an input unless the limit is raised: 64 MB. -/
def totalBytesLimit : Nat := 64 * 2 ^ 20

structure WireFormat where
  /-- A message has less bytes: the limit of all bytes that are read. -/
  maxSize : Nat
  readTag : List Byte → NextTag
  /-- It looks at the buffer only, so it may miss a tag that `readTag` would find. This is what it
  does when the buffer reaches far enough. -/
  expectTag : Nat → List Byte → Option (List Byte)
  readString : List Byte → Option (String × List Byte)
  /-- `ReadPrimitive` for a 32-bit integer and for an enumeration. -/
  readInt32 : List Byte → Option (Int × List Byte)
  /-- `ReadVarint32` and `PushLimit`: the bytes of a nested message, and what is behind them. -/
  pushLimit : List Byte → Option (List Byte × List Byte)
  skipField : Nat → List Byte → Option (List Byte)
  writeTag : Nat → List Byte
  writeString : String → List Byte
  writeInt32 : Int → List Byte
  /-- The length before a nested message. -/
  writeLength : Nat → List Byte
  stringSize : String → Nat
  int32Size : Int → Nat
  lengthSize : Nat → Nat
  le_maxSize : totalBytesLimit ≤ maxSize
  maxSize_le : maxSize ≤ 2 ^ 31
  readTag_nil : readTag [] = .atEnd
  readTag_writeTag : ∀ {tag : Nat}, 8 ≤ tag → tag < 2 ^ 32 → ∀ rest,
    readTag (writeTag tag ++ rest) = .tag tag rest
  readTag_lt : ∀ {input tag rest}, readTag input = .tag tag rest → rest.length < input.length
  expectTag_sound : ∀ {tag input rest}, expectTag tag input = some rest →
    readTag input = .tag tag rest
  readString_writeString : ∀ {s}, (writeString s).length < maxSize → ∀ rest,
    readString (writeString s ++ rest) = some (s, rest)
  readString_le : ∀ {input s rest}, readString input = some (s, rest) → rest.length ≤ input.length
  readInt32_writeInt32 : ∀ {v}, IsInt32 v → ∀ rest,
    readInt32 (writeInt32 v ++ rest) = some (v, rest)
  readInt32_le : ∀ {input v rest}, readInt32 input = some (v, rest) → rest.length ≤ input.length
  readInt32_isInt32 : ∀ {input v rest}, readInt32 input = some (v, rest) → IsInt32 v
  pushLimit_writeLength : ∀ {body : List Byte}, body.length < maxSize → ∀ rest,
    pushLimit (writeLength body.length ++ body ++ rest) = some (body, rest)
  pushLimit_le : ∀ {input body rest}, pushLimit input = some (body, rest) →
    rest.length ≤ input.length
  skipField_le : ∀ {tag input rest}, skipField tag input = some rest → rest.length ≤ input.length
  skipField_writeInt32 : ∀ {tag}, getTagWireType tag = WIRETYPE_VARINT → ∀ v rest,
    skipField tag (writeInt32 v ++ rest) = some rest
  skipField_writeString : ∀ {tag s}, getTagWireType tag = WIRETYPE_LENGTH_DELIMITED →
    (writeString s).length < maxSize → ∀ rest, skipField tag (writeString s ++ rest) = some rest
  length_writeTag_one : ∀ {tag}, tag < 128 → (writeTag tag).length = 1
  length_writeTag_two : ∀ {tag}, 128 ≤ tag → tag < 2 ^ 14 → (writeTag tag).length = 2
  length_writeString : ∀ s, (writeString s).length = stringSize s
  length_writeInt32 : ∀ v, (writeInt32 v).length = int32Size v
  length_writeLength : ∀ n, (writeLength n).length = lengthSize n

/-! ### The documented format -/

namespace Protobuf

/-- A tag is the low 32 bits of a number. -/
def readTag (input : List Byte) : NextTag :=
  if input = [] then .atEnd
  else
    match Varint.decode input with
    | some (n, rest) => if n % 2 ^ 32 = 0 then .zero else .tag (n % 2 ^ 32) rest
    | none => .zero

theorem lt_of_lt_totalBytesLimit {n : Nat} (h : n < totalBytesLimit) : n < 2 ^ 31 :=
  Nat.lt_trans h (by decide)

/-- The bytes of a length and as many more. -/
def pushLimit (input : List Byte) : Option (List Byte × List Byte) := do
  let (size, rest) ← Varint.decode input
  if size < 2 ^ 31 ∧ size ≤ rest.length then some (rest.take size, rest.drop size) else none

def utf8 (s : String) : List Byte := s.toByteArray.data.toList

/-- What is not UTF-8 is no `String`, and is not read here. -/
def readString (input : List Byte) : Option (String × List Byte) := do
  let (body, rest) ← pushLimit input
  let s ← String.fromUTF8? body.toByteArray
  some (s, rest)

def readInt32 (input : List Byte) : Option (Int × List Byte) :=
  (Varint.decode input).map fun r => (toInt32 r.1, r.2)

def writeLength (n : Nat) : List Byte := Varint.encode n

def writeString (s : String) : List Byte := writeLength (utf8 s).length ++ utf8 s

def writeInt32 (v : Int) : List Byte := Varint.encode (Varint.signExtend v)

/-- `expectTag` compares with the bytes that `writeTag` writes. -/
def expectTag (tag : Nat) (input : List Byte) : Option (List Byte) :=
  if 8 ≤ tag ∧ tag < 2 ^ 14 ∧ Varint.encode tag <+: input then
    some (input.drop (Varint.encode tag).length)
  else none

/-- As many bytes as a value of fixed size has. -/
def skipBytes (n : Nat) (input : List Byte) : Option (List Byte) :=
  if n ≤ input.length then some (input.drop n) else none

/-- A field that is no group. -/
def skipFlat (tag : Nat) (input : List Byte) : Option (List Byte) :=
  match getTagWireType tag with
  | 0 => (Varint.decode input).map (·.2)
  | 1 => skipBytes 8 input
  | 2 => (pushLimit input).map (·.2)
  | 5 => skipBytes 4 input
  | _ => none

/-- The fields of a group up to its end; a group can hold groups. -/
def skipGroup : Nat → Nat → List Byte → Option (List Byte)
  | 0, _, _ => none
  | k + 1, number, input =>
    match readTag input with
    | .tag tag rest =>
      if getTagWireType tag = WIRETYPE_END_GROUP then
        if getTagFieldNumber tag = number then some rest else none
      else if getTagWireType tag = 3 then do
        let rest ← skipGroup k (getTagFieldNumber tag) rest
        skipGroup k number rest
      else do
        let rest ← skipFlat tag rest
        skipGroup k number rest
    | _ => none

def skipField (tag : Nat) (input : List Byte) : Option (List Byte) :=
  if getTagWireType tag = 3 then skipGroup (input.length + 1) (getTagFieldNumber tag) input
  else skipFlat tag input

theorem readTag_encode {tag : Nat} (hlow : 8 ≤ tag) (hhigh : tag < 2 ^ 32) (rest : List Byte) :
    readTag (Varint.encode tag ++ rest) = .tag tag rest := by
  have hdecode := Varint.decode_encode (n := tag) (by omega) rest
  have hne : Varint.encode tag ++ rest ≠ [] := by
    intro hnil
    rw [hnil] at hdecode
    cases hdecode
  rw [readTag, if_neg hne, hdecode]
  simp only [Nat.mod_eq_of_lt hhigh]
  exact if_neg (by omega)

theorem readTag_lt {input rest : List Byte} {tag : Nat} (h : readTag input = .tag tag rest) :
    rest.length < input.length := by
  unfold readTag at h
  split at h
  · cases h
  · split at h
    · rename_i tag' rest' hdecode
      split at h
      · cases h
      · cases h
        exact Varint.length_decode hdecode
    · cases h

theorem expectTag_sound {tag : Nat} {input rest : List Byte} (h : expectTag tag input = some rest) :
    readTag input = .tag tag rest := by
  unfold expectTag at h
  split at h
  · rename_i hfits
    obtain ⟨hlow, hhigh, tail, rfl⟩ := hfits
    rw [List.drop_left] at h
    obtain rfl := Option.some_inj.1 h
    exact readTag_encode hlow (by omega) _
  · cases h

theorem pushLimit_append {body : List Byte} (h : body.length < 2 ^ 31) (rest : List Byte) :
    pushLimit (writeLength body.length ++ body ++ rest) = some (body, rest) := by
  have hlt : body.length < 2 ^ 64 := Nat.lt_trans h (by decide)
  have hfits : body.length < 2 ^ 31 ∧ body.length ≤ (body ++ rest).length := by
    rw [List.length_append]
    omega
  rw [pushLimit, writeLength, List.append_assoc, Varint.decode_encode hlt, Option.bind_eq_bind,
    Option.bind_some]
  dsimp only
  rw [if_pos hfits, List.take_left, List.drop_left]

theorem pushLimit_le {input body rest : List Byte} (h : pushLimit input = some (body, rest)) :
    rest.length ≤ input.length := by
  obtain ⟨⟨size, tail⟩, hdecode, h⟩ := Option.bind_eq_some_iff.1 h
  have hlt := Varint.length_decode hdecode
  dsimp only at h
  split at h
  · cases h
    rw [List.length_drop]
    omega
  · cases h

theorem toByteArray_utf8 (s : String) : (utf8 s).toByteArray = s.toByteArray := by
  apply ByteArray.ext
  rw [utf8, List.data_toByteArray, Array.toArray_toList]

theorem fromUTF8?_utf8 (s : String) : String.fromUTF8? (utf8 s).toByteArray = some s := by
  rw [toByteArray_utf8, String.fromUTF8?, dif_pos s.isValidUTF8]
  rfl

theorem length_utf8_le (s : String) : (utf8 s).length ≤ (writeString s).length := by
  rw [writeString, List.length_append]
  omega

theorem readString_append {s : String} (h : (writeString s).length < 2 ^ 31) (rest : List Byte) :
    readString (writeString s ++ rest) = some (s, rest) := by
  have hbody := Nat.lt_of_le_of_lt (length_utf8_le s) h
  have hpush := pushLimit_append hbody rest
  rw [readString, writeString, hpush]
  simp [fromUTF8?_utf8]

theorem readString_le {input rest : List Byte} {s : String} (h : readString input = some (s, rest)) :
    rest.length ≤ input.length := by
  obtain ⟨⟨body, tail⟩, hpush, h⟩ := Option.bind_eq_some_iff.1 h
  obtain ⟨s', -, h⟩ := Option.bind_eq_some_iff.1 h
  cases h
  exact pushLimit_le hpush

theorem readInt32_append {v : Int} (h : IsInt32 v) (rest : List Byte) :
    readInt32 (writeInt32 v ++ rest) = some (v, rest) := by
  rw [readInt32, writeInt32, Varint.decode_encode (Varint.signExtend_lt v), Option.map_some,
    Varint.toInt32_signExtend h.1 h.2]

theorem readInt32_le {input rest : List Byte} {v : Int} (h : readInt32 input = some (v, rest)) :
    rest.length ≤ input.length := by
  obtain ⟨⟨n, tail⟩, hdecode, heq⟩ := Option.map_eq_some_iff.1 h
  cases heq
  exact (Varint.length_decode hdecode).le

theorem isInt32_toInt32 (x : Int) : IsInt32 (toInt32 x) := by
  unfold toInt32 IsInt32
  have hlow := Int.le_bmod (x := x) (m := 2 ^ 32) (by decide)
  have hhigh := Int.bmod_lt (x := x) (m := 2 ^ 32) (by decide)
  omega

theorem readInt32_isInt32 {input rest : List Byte} {v : Int} (h : readInt32 input = some (v, rest)) :
    IsInt32 v := by
  obtain ⟨⟨n, tail⟩, -, heq⟩ := Option.map_eq_some_iff.1 h
  cases heq
  exact isInt32_toInt32 n

theorem skipBytes_le {n : Nat} {input rest : List Byte} (h : skipBytes n input = some rest) :
    rest.length ≤ input.length := by
  unfold skipBytes at h
  split at h
  · cases h
    rw [List.length_drop]
    omega
  · cases h

theorem skipFlat_le {tag : Nat} {input rest : List Byte} (h : skipFlat tag input = some rest) :
    rest.length ≤ input.length := by
  unfold skipFlat at h
  split at h
  · obtain ⟨⟨n, tail⟩, hdecode, rfl⟩ := Option.map_eq_some_iff.1 h
    exact (Varint.length_decode hdecode).le
  · exact skipBytes_le h
  · obtain ⟨⟨body, tail⟩, hpush, rfl⟩ := Option.map_eq_some_iff.1 h
    exact pushLimit_le hpush
  · exact skipBytes_le h
  · cases h

theorem skipGroup_le (k : Nat) : ∀ {number : Nat} {input rest : List Byte},
    skipGroup k number input = some rest → rest.length ≤ input.length := by
  induction k with
  | zero =>
    intro number input rest h
    cases h
  | succ k ih =>
    intro number input rest h
    rw [skipGroup] at h
    split at h
    · rename_i tag tail hread
      have hlt := readTag_lt hread
      split at h
      · split at h
        · cases h
          exact hlt.le
        · cases h
      · split at h
        · obtain ⟨rest', hinner, h⟩ := Option.bind_eq_some_iff.1 h
          have := ih hinner
          have := ih h
          omega
        · obtain ⟨rest', hflat, h⟩ := Option.bind_eq_some_iff.1 h
          have := skipFlat_le hflat
          have := ih h
          omega
    · cases h

theorem skipField_le {tag : Nat} {input rest : List Byte} (h : skipField tag input = some rest) :
    rest.length ≤ input.length := by
  unfold skipField at h
  split at h
  · exact skipGroup_le _ h
  · exact skipFlat_le h

theorem skipField_writeInt32 {tag : Nat} (h : getTagWireType tag = WIRETYPE_VARINT) (v : Int)
    (rest : List Byte) : skipField tag (writeInt32 v ++ rest) = some rest := by
  have hflat : skipField tag (writeInt32 v ++ rest) =
      (Varint.decode (writeInt32 v ++ rest)).map (·.2) := by
    simp [skipField, skipFlat, h, WIRETYPE_VARINT]
  rw [hflat, writeInt32, Varint.decode_encode (Varint.signExtend_lt v)]
  rfl

theorem skipField_writeString {tag : Nat} {s : String}
    (h : getTagWireType tag = WIRETYPE_LENGTH_DELIMITED) (hsize : (writeString s).length < 2 ^ 31)
    (rest : List Byte) : skipField tag (writeString s ++ rest) = some rest := by
  have hflat : skipField tag (writeString s ++ rest) =
      (pushLimit (writeString s ++ rest)).map (·.2) := by
    simp [skipField, skipFlat, h, WIRETYPE_LENGTH_DELIMITED]
  rw [hflat, writeString, pushLimit_append (Nat.lt_of_le_of_lt (length_utf8_le s) hsize)]
  rfl

end Protobuf

/-- The documented format, with strings that are UTF-8. -/
def WireFormat.protobuf : WireFormat where
  maxSize := totalBytesLimit
  readTag := Protobuf.readTag
  expectTag := Protobuf.expectTag
  readString := Protobuf.readString
  readInt32 := Protobuf.readInt32
  pushLimit := Protobuf.pushLimit
  skipField := Protobuf.skipField
  writeTag := Varint.encode
  writeString := Protobuf.writeString
  writeInt32 := Protobuf.writeInt32
  writeLength := Protobuf.writeLength
  stringSize s := (Protobuf.writeString s).length
  int32Size v := (Protobuf.writeInt32 v).length
  lengthSize n := (Protobuf.writeLength n).length
  le_maxSize := Nat.le_refl _
  maxSize_le := by decide
  readTag_nil := rfl
  readTag_writeTag := Protobuf.readTag_encode
  readTag_lt := Protobuf.readTag_lt
  expectTag_sound := Protobuf.expectTag_sound
  readString_writeString h := Protobuf.readString_append (Protobuf.lt_of_lt_totalBytesLimit h)
  readString_le := Protobuf.readString_le
  readInt32_writeInt32 := Protobuf.readInt32_append
  readInt32_le := Protobuf.readInt32_le
  readInt32_isInt32 := Protobuf.readInt32_isInt32
  pushLimit_writeLength h := Protobuf.pushLimit_append (Protobuf.lt_of_lt_totalBytesLimit h)
  pushLimit_le := Protobuf.pushLimit_le
  skipField_le := Protobuf.skipField_le
  skipField_writeInt32 := Protobuf.skipField_writeInt32
  skipField_writeString htag h :=
    Protobuf.skipField_writeString htag (Protobuf.lt_of_lt_totalBytesLimit h)
  length_writeTag_one := Varint.length_encode_one
  length_writeTag_two := Varint.length_encode_two
  length_writeString _ := rfl
  length_writeInt32 _ := rfl
  length_writeLength _ := rfl

end Wire
