import Sp2p.Lib.Wire

/-!
# Message classes

What is generated for a message class, from the list of its fields. `mergeLoop` is the loop of
`MergePartialFromCodedStream` with its jumps: behind a field the code asks whether the tag of the next
field follows (`ExpectTag`), and goes to the case of that field without reading a tag. Whether it does
depends on how much of the input is in the buffer, so the answers are an input of the loop, one `Bool`
for each question. `mergePartial_tape` says that they make no difference.

What the loop does with a sequence of fields in any order, with fields among them that the class does
not have, is `mergePartial_items`: each field is added to the message, and the others are skipped. The
other results follow from it.
-/

namespace Wire

open Framing

variable {W : WireFormat} {M : Type}

/-! ### Fields -/

/-- A field of a message class. `values` are the values that a message has for it, none or one where
the field is not repeated, and `add` is what one more value does to a message. -/
structure Field (W : WireFormat) (M : Type) : Type 1 where
  number : Nat
  wireType : Nat
  /-- The bytes of its tag, as `ByteSize` counts them. -/
  tagSize : Nat
  repeated : Bool
  Value : Type
  values : M → List Value
  add : Value → M → M
  encode : Value → List Byte
  byteSize : Value → Nat
  InRange : Value → Prop
  /-- The case of the field in `MergePartialFromCodedStream`, behind the tag. -/
  read : List Bool → M → List Byte → Option (M × List Byte × List Bool)
  number_pos : 0 < number
  number_lt : number < 2 ^ 29
  wireType_lt : wireType < 8
  not_endGroup : wireType ≠ WIRETYPE_END_GROUP
  length_tag : (W.writeTag (makeTag number wireType)).length = tagSize
  length_encode : ∀ v, (encode v).length = byteSize v
  read_le : ∀ {tape m input r}, read tape m input = some r → r.2.1.length ≤ input.length
  read_tape : ∀ tape m input,
    (read tape m input).map (fun r => (r.1, r.2.1)) = (read [] m input).map fun r => (r.1, r.2.1)
  read_nil : ∀ {m input r}, read [] m input = some r → r.2.2 = []
  read_encode : ∀ {v}, InRange v → (encode v).length < W.maxSize → ∀ m rest,
    read [] m (encode v ++ rest) = some (add v m, rest, [])

namespace Field

def tag (f : Field W M) : Nat := makeTag f.number f.wireType

/-- The field on the wire. -/
def write (f : Field W M) (v : f.Value) : List Byte := W.writeTag f.tag ++ f.encode v

theorem tag_low (f : Field W M) : 8 ≤ f.tag := by
  have := f.number_pos
  unfold tag makeTag
  omega

theorem tag_high (f : Field W M) : f.tag < 2 ^ 32 := by
  have := f.number_lt
  have := f.wireType_lt
  unfold tag makeTag
  omega

@[simp] theorem getTagFieldNumber_tag (f : Field W M) : getTagFieldNumber f.tag = f.number :=
  getTagFieldNumber_makeTag f.wireType_lt

@[simp] theorem getTagWireType_tag (f : Field W M) : getTagWireType f.tag = f.wireType :=
  getTagWireType_makeTag f.wireType_lt

/-- Reading the field keeps the property. -/
def Keeps (P : M → Prop) (f : Field W M) : Prop :=
  ∀ tape m input r, P m → f.read tape m input = some r → P r.1

end Field

/-! ### The generated functions -/

/-- The case of a field number, with the cases below it. -/
def caseOf : List (Field W M) → Nat → Option (Field W M × List (Field W M))
  | [], _ => none
  | f :: fs, number => if f.number = number then some (f, fs) else caseOf fs number

/-- The case for a tag; a known field of another wire type is not interpreted. -/
def caseOfTag (fields : List (Field W M)) (tag : Nat) : Option (Field W M × List (Field W M)) :=
  (caseOf fields (getTagFieldNumber tag)).filter fun c => getTagWireType tag = c.1.wireType

/-- `ExpectTag`, when the buffer reaches far enough. -/
def expectTag (W : WireFormat) (tape : List Bool) (tag : Nat) (input : List Byte) :
    Option (List Byte) :=
  if tape.headD false then W.expectTag tag input else none

/-- What comes after the case of a field: the case of another one behind its tag, the end of the
message, or the top of the loop. -/
inductive Jump (W : WireFormat) (M : Type) : Type 1
  | goto (f : Field W M) (next : List (Field W M)) (rest : List Byte) (tape : List Bool)
  | atEnd (tape : List Bool)
  | leave (tape : List Bool)

/-- The question for the next field, and behind the last one for the end (`ExpectAtEnd`). -/
def jumpNext (next : List (Field W M)) (tape : List Bool) (input : List Byte) : Jump W M :=
  match next with
  | g :: gs =>
    match expectTag W tape g.tag input with
    | some rest => .goto g gs rest tape.tail
    | none => .leave tape.tail
  | [] => if tape.headD false ∧ input = [] then .atEnd tape.tail else .leave tape.tail

/-- A repeated field asks for itself first. -/
def jump (f : Field W M) (next : List (Field W M)) (tape : List Bool) (input : List Byte) :
    Jump W M :=
  if f.repeated then
    match expectTag W tape f.tag input with
    | some rest => .goto f next rest tape.tail
    | none => jumpNext next tape.tail input
  else jumpNext next tape input

/-- `MergePartialFromCodedStream`, at the top of the loop or at the case of a field. The result says
as well whether the input was read to its end (`ConsumedEntireMessage`). -/
def mergeLoop (fields : List (Field W M)) : Nat → Option (Field W M × List (Field W M)) →
    List Bool → M → List Byte → Option (M × Bool × List Bool)
  | 0, _, _, _, _ => none
  | k + 1, none, tape, m, input =>
    match W.readTag input with
    | .atEnd => some (m, true, tape)
    | .zero => some (m, false, tape)
    | .tag tag rest =>
      match caseOfTag fields tag with
      | some c => mergeLoop fields k (some c) tape m rest
      | none =>
        if getTagWireType tag = WIRETYPE_END_GROUP then some (m, false, tape)
        else (W.skipField tag rest).bind fun rest => mergeLoop fields k none tape m rest
  | k + 1, some (f, next), tape, m, input =>
    (f.read tape m input).bind fun r =>
      match jump f next r.2.2 r.2.1 with
      | .goto g gs rest tape => mergeLoop fields k (some (g, gs)) tape r.1 rest
      | .atEnd tape => some (r.1, true, tape)
      | .leave tape => mergeLoop fields k none tape r.1 r.2.1

/-- Every step from the top of the loop reads a byte, and so does every jump. -/
def steps (label : Option (Field W M × List (Field W M))) (input : List Byte) : Nat :=
  match label with
  | none => 2 * input.length + 1
  | some _ => 2 * input.length + 2

def mergePartial (fields : List (Field W M)) (tape : List Bool) (m : M) (input : List Byte) :
    Option (M × Bool × List Bool) :=
  mergeLoop fields (2 * input.length + 1) none tape m input

/-- `SerializeWithCachedSizes` -/
def serialize (fields : List (Field W M)) (m : M) : List Byte :=
  fields.flatMap fun f => (f.values m).flatMap f.write

/-- `ByteSize` -/
def byteSize (fields : List (Field W M)) (m : M) : Nat :=
  (fields.map fun f => ((f.values m).map fun v => f.tagSize + f.byteSize v).sum).sum

/-- `MergeFrom` -/
def mergeFrom (fields : List (Field W M)) (m fromMessage : M) : M :=
  fields.foldl (fun m f => (f.values fromMessage).foldl (fun m v => f.add v m) m) m

/-- The result without the answers that are left. -/
def result (r : Option (M × Bool × List Bool)) : Option (M × Bool) := r.map fun r => (r.1, r.2.1)

/-! ### The size -/

/-- **What `ByteSize` counts is what is written.** -/
theorem byteSize_eq (fields : List (Field W M)) (m : M) :
    byteSize fields m = (serialize fields m).length := by
  unfold byteSize serialize
  rw [List.length_flatMap]
  congr 1
  refine List.map_congr_left fun f _ => ?_
  rw [List.length_flatMap]
  congr 1
  refine List.map_congr_left fun v _ => ?_
  rw [Field.write, List.length_append, ← f.length_encode, Field.tag, f.length_tag]

/-! ### Cases and jumps -/

variable {fields : List (Field W M)}

/-- The fields stand in the order of their numbers. -/
def Ascending (fields : List (Field W M)) : Prop := fields.Pairwise fun f g => f.number < g.number

theorem caseOf_of_suffix (hasc : Ascending fields) {f : Field W M} {next : List (Field W M)}
    (h : f :: next <:+ fields) : caseOf fields f.number = some (f, next) := by
  induction fields with
  | nil =>
    obtain ⟨l, hl⟩ := h
    simp at hl
  | cons g gs ih =>
    obtain ⟨hlt, hasc⟩ := List.pairwise_cons.1 hasc
    rcases List.suffix_cons_iff.1 h with heq | hsuf
    · cases heq
      rw [caseOf, if_pos rfl]
    · have hne : g.number ≠ f.number := (hlt f (hsuf.subset List.mem_cons_self)).ne
      rw [caseOf, if_neg hne, ih hasc hsuf]

theorem suffix_of_caseOf {f : Field W M} {next : List (Field W M)} {number : Nat}
    (h : caseOf fields number = some (f, next)) : f :: next <:+ fields := by
  induction fields with
  | nil => cases h
  | cons g gs ih =>
    rw [caseOf] at h
    split at h
    · cases h
      exact List.suffix_refl _
    · exact (ih h).trans (List.suffix_cons g gs)

theorem suffix_of_caseOfTag {f : Field W M} {next : List (Field W M)} {tag : Nat}
    (h : caseOfTag fields tag = some (f, next)) : f :: next <:+ fields :=
  suffix_of_caseOf (Option.filter_eq_some_iff.1 h).1

theorem caseOfTag_of_suffix (hasc : Ascending fields) {f : Field W M} {next : List (Field W M)}
    (h : f :: next <:+ fields) : caseOfTag fields f.tag = some (f, next) := by
  rw [caseOfTag, f.getTagFieldNumber_tag, caseOf_of_suffix hasc h, f.getTagWireType_tag]
  simp

theorem exists_caseOfTag (hasc : Ascending fields) {f : Field W M} (h : f ∈ fields) :
    ∃ next, caseOfTag fields f.tag = some (f, next) := by
  obtain ⟨before, next, rfl⟩ := List.append_of_mem h
  exact ⟨next, caseOfTag_of_suffix hasc (List.suffix_append before (f :: next))⟩

theorem expectTag_sound {tape : List Bool} {tag : Nat} {input rest : List Byte}
    (h : expectTag W tape tag input = some rest) : W.readTag input = .tag tag rest := by
  unfold expectTag at h
  split at h
  · exact W.expectTag_sound h
  · cases h

/-- What a jump can be: the code goes where it would have come anyway. -/
inductive Jumps (fields : List (Field W M)) (input : List Byte) : Jump W M → Prop
  | goto {f : Field W M} {next : List (Field W M)} {rest : List Byte} {tape : List Bool}
      (hcase : f :: next <:+ fields) (htag : W.readTag input = .tag f.tag rest) :
      Jumps fields input (.goto f next rest tape)
  | atEnd {tape : List Bool} (hnil : input = []) : Jumps fields input (.atEnd tape)
  | leave {tape : List Bool} : Jumps fields input (.leave tape)

theorem jumps_jumpNext {next : List (Field W M)} (h : next <:+ fields) (tape : List Bool)
    (input : List Byte) : Jumps fields input (jumpNext next tape input) := by
  unfold jumpNext
  split
  · split
    · rename_i rest hexpect
      exact .goto h (expectTag_sound hexpect)
    · exact .leave
  · split
    · rename_i hend
      exact .atEnd hend.2
    · exact .leave

theorem jumps_jump {f : Field W M} {next : List (Field W M)} (h : f :: next <:+ fields)
    (tape : List Bool) (input : List Byte) : Jumps fields input (jump f next tape input) := by
  have hnext : next <:+ fields := (List.suffix_cons f next).trans h
  unfold jump
  split
  · split
    · rename_i rest hexpect
      exact .goto h (expectTag_sound hexpect)
    · exact jumps_jumpNext hnext _ input
  · exact jumps_jumpNext hnext tape input

/-- Without answers the code never jumps. -/
theorem jump_nil (f : Field W M) (next : List (Field W M)) (input : List Byte) :
    jump f next [] input = .leave [] := by
  have hnone : ∀ tag, expectTag W [] tag input = none := fun _ => rfl
  have hnext : jumpNext next [] input = .leave [] := by
    unfold jumpNext
    split
    · rw [hnone]
      rfl
    · rfl
  unfold jump
  split
  · rw [hnone]
    exact hnext
  · exact hnext

/-! ### The answers make no difference -/

/-- The label is at a case of the class. -/
def Placed (fields : List (Field W M)) (label : Option (Field W M × List (Field W M))) : Prop :=
  ∀ f next, label = some (f, next) → f :: next <:+ fields

theorem placed_none : Placed fields none := nofun

theorem placed_some {f : Field W M} {next : List (Field W M)} (h : f :: next <:+ fields) :
    Placed fields (some (f, next)) := by
  rintro g gs heq
  cases heq
  exact h

/-- The rest of the loop without answers, from the case of a field that stands next. -/
theorem mergeLoop_goto (hasc : Ascending fields) {f : Field W M} {next : List (Field W M)}
    (hcase : f :: next <:+ fields) {input rest : List Byte} (htag : W.readTag input = .tag f.tag rest)
    (k : Nat) (tape : List Bool) (m : M) :
    mergeLoop fields (k + 1) none tape m input = mergeLoop fields k (some (f, next)) tape m rest := by
  rw [mergeLoop, htag]
  simp only [caseOfTag_of_suffix hasc hcase]

/-- With `k` steps, where they are enough, more of them make no difference, and neither do the answers. -/
def Settles (fields : List (Field W M)) (k : Nat) : Prop :=
  ∀ (k' : Nat) (label : Option (Field W M × List (Field W M))) (input : List Byte),
    Placed fields label → steps label input ≤ k → steps label input ≤ k' → ∀ tape m,
      result (mergeLoop fields k label tape m input) = result (mergeLoop fields k' label [] m input)

/-- A turn that reads a tag. -/
theorem Settles.tag {k : Nat} (ih : Settles fields k) {k' : Nat} {input : List Byte}
    (hk : 2 * input.length + 1 ≤ k + 1) (hk' : 2 * input.length + 1 ≤ k' + 1) (tape : List Bool) (m : M) :
    result (mergeLoop fields (k + 1) none tape m input) =
      result (mergeLoop fields (k' + 1) none [] m input) := by
  rw [mergeLoop, mergeLoop]
  split
  · rfl
  · rfl
  · rename_i tag rest hread
    have hlt := W.readTag_lt hread
    split
    · rename_i c hcase
      exact ih k' _ _ (placed_some (suffix_of_caseOfTag hcase)) (by simp only [steps]; omega)
        (by simp only [steps]; omega) _ _
    · split
      · rfl
      · cases hskip : W.skipField tag rest with
        | none => rfl
        | some rest' =>
          have hle := W.skipField_le hskip
          exact ih k' _ _ placed_none (by simp only [steps]; omega) (by simp only [steps]; omega) _ _

/-- A turn at the case of a field. -/
theorem Settles.field (hasc : Ascending fields) {k : Nat} (ih : Settles fields k) {k' : Nat}
    {f : Field W M} {next : List (Field W M)} (hcase : f :: next <:+ fields) {input : List Byte}
    (hk : 2 * input.length + 2 ≤ k + 1) (hk' : 2 * input.length + 2 ≤ k' + 1) (tape : List Bool) (m : M) :
    result (mergeLoop fields (k + 1) (some (f, next)) tape m input) =
      result (mergeLoop fields (k' + 1) (some (f, next)) [] m input) := by
  have hsame := f.read_tape tape m input
  rw [mergeLoop, mergeLoop]
  cases hread : f.read tape m input with
  | none =>
    rw [hread, Option.map_none, eq_comm, Option.map_eq_none_iff] at hsame
    rw [hsame]
    rfl
  | some r =>
    rw [hread, Option.map_some] at hsame
    obtain ⟨r', hread', heq⟩ := Option.map_eq_some_iff.1 hsame.symm
    obtain ⟨m', rest', tape'⟩ := r'
    obtain ⟨m'', rest'', tape''⟩ := r
    cases heq
    obtain rfl : tape' = [] := f.read_nil hread'
    have hle := f.read_le hread'
    simp only at hle
    have hjump := jumps_jump hcase tape'' rest'
    rw [hread']
    simp only [Option.bind_some, jump_nil]
    generalize jump f next tape'' rest' = j at hjump ⊢
    cases hjump with
    | @goto g gs rest tape hcase htag =>
      have hlt := W.readTag_lt htag
      -- Without answers the loop reads the tag that the jump has read.
      obtain ⟨k', rfl⟩ : ∃ j, k' = j + 1 := ⟨k' - 1, by omega⟩
      rw [mergeLoop_goto hasc hcase htag]
      exact ih k' _ _ (placed_some hcase) (by simp only [steps]; omega) (by simp only [steps]; omega) _ _
    | atEnd hnil =>
      subst hnil
      obtain ⟨k', rfl⟩ : ∃ j, k' = j + 1 := ⟨k' - 1, by omega⟩
      rw [mergeLoop, W.readTag_nil]
      rfl
    | leave =>
      exact ih k' _ _ placed_none (by simp only [steps]; omega) (by simp only [steps]; omega) _ _

theorem mergeLoop_tape (hasc : Ascending fields) (k : Nat) : Settles fields k := by
  induction k with
  | zero =>
    intro k' label input _ hk
    cases label <;> simp [steps] at hk
  | succ k ih =>
    intro k' label input hplaced hk hk' tape m
    obtain ⟨k', rfl⟩ : ∃ j, k' = j + 1 := by
      refine Nat.exists_eq_succ_of_ne_zero ?_
      rintro rfl
      cases label <;> simp [steps] at hk'
    cases label with
    | none => exact ih.tag hk hk' tape m
    | some c => exact ih.field hasc (hplaced c.1 c.2 rfl) hk hk' tape m

/-- **However much of the input is in the buffer, the outcome is that of the plain loop.** -/
theorem mergePartial_tape (hasc : Ascending fields) (tape : List Bool) (m : M) (input : List Byte) :
    result (mergePartial fields tape m input) = result (mergePartial fields [] m input) :=
  mergeLoop_tape hasc _ _ _ _ placed_none le_rfl le_rfl tape m

/-! ### What the loop does with fields -/

/-- A field on the wire: one of the class, or something else behind a tag. -/
inductive Item (W : WireFormat) (M : Type) : Type 1
  | field (f : Field W M) (v : f.Value)
  | unknown (tag : Nat) (payload : List Byte)

namespace Item

def bytes : Item W M → List Byte
  | field f v => f.write v
  | unknown tag payload => W.writeTag tag ++ payload

def apply : Item W M → M → M
  | field f v => f.add v
  | unknown _ _ => id

def isField : Item W M → Bool
  | field _ _ => true
  | unknown _ _ => false

/-- The field is one of the class, or it has no case in it and can be skipped. -/
def WellFormed (fields : List (Field W M)) : Item W M → Prop
  | field f v => f ∈ fields ∧ f.InRange v ∧ (f.encode v).length < W.maxSize
  | unknown tag payload => 8 ≤ tag ∧ tag < 2 ^ 32 ∧ caseOfTag fields tag = none ∧
    getTagWireType tag ≠ WIRETYPE_END_GROUP ∧
    ∀ rest, W.skipField tag (payload ++ rest) = some rest

/-- A number under a tag that the class does not have. -/
theorem wellFormed_int32 {fields : List (Field W M)} {tag : Nat} (hlow : 8 ≤ tag)
    (hhigh : tag < 2 ^ 32) (hcase : caseOfTag fields tag = none)
    (hwire : getTagWireType tag = WIRETYPE_VARINT) (v : Int) :
    (unknown tag (W.writeInt32 v) : Item W M).WellFormed fields := by
  refine ⟨hlow, hhigh, hcase, ?_, W.skipField_writeInt32 hwire v⟩
  rw [hwire]
  decide

/-- A text under a tag that the class does not have. -/
theorem wellFormed_string {fields : List (Field W M)} {tag : Nat} (hlow : 8 ≤ tag)
    (hhigh : tag < 2 ^ 32) (hcase : caseOfTag fields tag = none)
    (hwire : getTagWireType tag = WIRETYPE_LENGTH_DELIMITED) {s : String}
    (hsize : (W.writeString s).length < W.maxSize) :
    (unknown tag (W.writeString s) : Item W M).WellFormed fields := by
  refine ⟨hlow, hhigh, hcase, ?_, W.skipField_writeString hwire hsize⟩
  rw [hwire]
  decide

end Item

/-- The loop reads one field and is at its top again. -/
theorem mergePartial_item (hasc : Ascending fields) {item : Item W M} (h : item.WellFormed fields)
    (m : M) (rest : List Byte) :
    result (mergePartial fields [] m (item.bytes ++ rest)) =
      result (mergePartial fields [] (item.apply m) rest) := by
  cases item with
  | field f v =>
    obtain ⟨hmem, hrange, hsize⟩ := h
    obtain ⟨next, hcase⟩ := exists_caseOfTag hasc hmem
    have hread := W.readTag_writeTag f.tag_low f.tag_high (f.encode v ++ rest)
    have hlt := W.readTag_lt hread
    have hbytes : (Item.field f v).bytes ++ rest = W.writeTag f.tag ++ (f.encode v ++ rest) :=
      List.append_assoc _ _ _
    rw [mergePartial, hbytes, mergeLoop, hread]
    simp only [hcase]
    rw [List.length_append] at hlt
    obtain ⟨k, hk⟩ : ∃ k, 2 * (W.writeTag f.tag ++ (f.encode v ++ rest)).length = k + 1 :=
      ⟨2 * (W.writeTag f.tag ++ (f.encode v ++ rest)).length - 1, by omega⟩
    rw [hk, mergeLoop, f.read_encode hrange hsize]
    simp only [Option.bind_some, jump_nil]
    exact mergeLoop_tape hasc _ _ _ _ placed_none (by simp only [steps]; omega) le_rfl _ _
  | unknown tag payload =>
    obtain ⟨hlow, hhigh, hcase, hgroup, hskip⟩ := h
    have hread := W.readTag_writeTag hlow hhigh (payload ++ rest)
    have hlt := W.readTag_lt hread
    have hbytes : (Item.unknown (M := M) tag payload).bytes ++ rest =
        W.writeTag tag ++ (payload ++ rest) := List.append_assoc _ _ _
    rw [mergePartial, hbytes, mergeLoop, hread]
    simp only [hcase, if_neg hgroup, hskip, Option.bind_some]
    rw [List.length_append] at hlt
    exact mergeLoop_tape hasc _ _ _ _ placed_none (by simp only [steps]; omega) le_rfl _ _

/-- **The loop adds the fields to the message one after the other, and skips those it does not
know.** -/
theorem mergePartial_items (hasc : Ascending fields) (items : List (Item W M)) :
    (∀ item ∈ items, item.WellFormed fields) → ∀ (m : M) (rest : List Byte),
      result (mergePartial fields [] m (items.flatMap Item.bytes ++ rest)) =
        result (mergePartial fields [] (items.foldl (fun m item => item.apply m) m) rest) := by
  induction items with
  | nil => exact fun _ _ _ => rfl
  | cons item items ih =>
    intro h m rest
    obtain ⟨hitem, hitems⟩ := List.forall_mem_cons.1 h
    rw [List.flatMap_cons, List.append_assoc, mergePartial_item hasc hitem, ih hitems,
      List.foldl_cons]

/-! ### Without answers -/

theorem mergeLoop_nil (k : Nat) :
    ∀ {label : Option (Field W M × List (Field W M))} {m : M} {input : List Byte}
      {r : M × Bool × List Bool}, mergeLoop fields k label [] m input = some r → r.2.2 = [] := by
  induction k with
  | zero =>
    intro label m input r h
    cases h
  | succ k ih =>
    intro label m input r h
    cases label with
    | none =>
      rw [mergeLoop] at h
      split at h
      · cases h
        rfl
      · cases h
        rfl
      · split at h
        · exact ih h
        · split at h
          · cases h
            rfl
          · obtain ⟨rest, -, h⟩ := Option.bind_eq_some_iff.1 h
            exact ih h
    | some c =>
      obtain ⟨f, next⟩ := c
      rw [mergeLoop] at h
      obtain ⟨⟨m', rest, tape⟩, hread, h⟩ := Option.bind_eq_some_iff.1 h
      obtain rfl : tape = [] := f.read_nil hread
      simp only [jump_nil] at h
      exact ih h

/-- What every case keeps is kept by the loop. -/
theorem mergeLoop_inv {P : M → Prop} (hread : ∀ f ∈ fields, f.Keeps P) (k : Nat) :
    ∀ {label : Option (Field W M × List (Field W M))} {tape : List Bool} {m : M} {input : List Byte}
      {r : M × Bool × List Bool}, Placed fields label → P m →
        mergeLoop fields k label tape m input = some r → P r.1 := by
  induction k with
  | zero =>
    intro label tape m input r _ _ h
    cases h
  | succ k ih =>
    intro label tape m input r hplaced hm h
    cases label with
    | none =>
      rw [mergeLoop] at h
      split at h
      · cases h
        exact hm
      · cases h
        exact hm
      · split at h
        · rename_i c hcase
          exact ih (placed_some (suffix_of_caseOfTag hcase)) hm h
        · split at h
          · cases h
            exact hm
          · obtain ⟨rest, -, h⟩ := Option.bind_eq_some_iff.1 h
            exact ih placed_none hm h
    | some c =>
      obtain ⟨f, next⟩ := c
      have hcase := hplaced f next rfl
      rw [mergeLoop] at h
      obtain ⟨⟨m', rest, tape'⟩, hr, h⟩ := Option.bind_eq_some_iff.1 h
      have hm' := hread f (hcase.subset List.mem_cons_self) _ _ _ _ hm hr
      have hjump := jumps_jump hcase tape' rest
      simp only at h
      generalize jump f next tape' rest = j at hjump h
      cases hjump with
      | goto hcase' => exact ih (placed_some hcase') hm' h
      | atEnd =>
        cases h
        exact hm'
      | leave => exact ih placed_none hm' h

end Wire
