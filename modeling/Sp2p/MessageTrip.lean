import Sp2p.Delivery
import Sp2p.MessageClasses
import Sp2p.Tracker.RequestParser

/-!
# Messages as bytes

The codecs of the two messages, which the parsers of the tracker and of the client were given as
parameters so far: `SerializeToOstream`, `SerializePartialToOstream` and `ParseFromIstream` of the
generated classes. The list of answers is what `ExpectTag` and `ExpectAtEnd` find in the buffer.
-/

namespace Sp2p

open Framing Wire Protocol

namespace Protocol

def ClientMessage.codec (W : WireFormat) (tape : List Bool) : Codec ClientMessage where
  serialize := (ClientMessage.descriptor W).serializeWithCachedSizes
  parse := (ClientMessage.descriptor W).parseFromIstream ClientMessage.isInitialized tape

def NodeMessage.codec (W : WireFormat) (tape : List Bool) : Codec NodeMessage where
  serialize := (NodeMessage.descriptor W).serializeWithCachedSizes
  parse := (NodeMessage.descriptor W).parseFromIstream NodeMessage.isInitialized tape

/-- `ByteSize` -/
def ClientMessage.byteSize (W : WireFormat) (m : ClientMessage) : Nat :=
  (ClientMessage.descriptor W).byteSize m

/-- `ByteSize` -/
def NodeMessage.byteSize (W : WireFormat) (m : NodeMessage) : Nat :=
  (NodeMessage.descriptor W).byteSize m

/-- `MergeFrom` -/
def ClientMessage.mergeFrom (W : WireFormat) (m fromMessage : ClientMessage) : ClientMessage :=
  (ClientMessage.descriptor W).mergeFrom m fromMessage

/-- `MergeFrom` -/
def NodeMessage.mergeFrom (W : WireFormat) (m fromMessage : NodeMessage) : NodeMessage :=
  (NodeMessage.descriptor W).mergeFrom m fromMessage

/-- What `Connection::send` of the client writes: the number that `ByteSize` counts, and the message. -/
def ClientMessage.send (W : WireFormat) (o : ByteOrder) (m : ClientMessage) : List Byte :=
  o.encode (m.byteSize W) ++ (ClientMessage.descriptor W).serializeWithCachedSizes m

/-- What `Response::parseIntoOstream` of the tracker writes. -/
def NodeMessage.parseIntoOstream (W : WireFormat) (o : ByteOrder) (m : NodeMessage) : List Byte :=
  o.encode (m.byteSize W) ++ (NodeMessage.descriptor W).serializeWithCachedSizes m

variable (W : WireFormat)

/-! ### Complete messages -/

theorem ClientMessage.send_eq_frame (o : ByteOrder) (tape : List Bool) (m : ClientMessage) :
    m.send W o = (codec W tape).frame o m := by
  rw [send, byteSize, Descriptor.byteSize_eq_length]
  rfl

theorem NodeMessage.parseIntoOstream_eq_frame (o : ByteOrder) (tape : List Bool) (m : NodeMessage) :
    m.parseIntoOstream W o = (codec W tape).frame o m := by
  rw [parseIntoOstream, byteSize, Descriptor.byteSize_eq_length]
  rfl

/-- **The header that is sent before a message counts its bytes, whatever the message is.** -/
theorem header_counts_body (o : ByteOrder) (tape : List Bool) :
    (∀ m : ClientMessage, m.send W o = (ClientMessage.codec W tape).frame o m) ∧
      ∀ m : NodeMessage, m.parseIntoOstream W o = (NodeMessage.codec W tape).frame o m :=
  ⟨ClientMessage.send_eq_frame W o tape, NodeMessage.parseIntoOstream_eq_frame W o tape⟩

theorem ClientMessage.parse_serialize {m : ClientMessage} (hinit : m.isInitialized = true)
    (hrange : m.InRange) {tape : List Bool}
    (hsize : ((codec W tape).serialize m).length < W.maxSize) :
    (codec W tape).parse ((codec W tape).serialize m) = some m :=
  Descriptor.parseFromIstream_serialize (d := descriptor W) hrange hsize hinit tape

theorem NodeMessage.parse_serialize {m : NodeMessage} (hinit : m.isInitialized = true)
    (hrange : m.InRange) {tape : List Bool}
    (hsize : ((codec W tape).serialize m).length < W.maxSize) :
    (codec W tape).parse ((codec W tape).serialize m) = some m :=
  Descriptor.parseFromIstream_serialize (d := descriptor W) hrange hsize hinit tape

/-- **A complete request and a complete reply are parsed as they were serialized.** -/
theorem messages_roundTrip (tape : List Bool) :
    (∀ m : ClientMessage, m.isInitialized = true → m.InRange →
      ((ClientMessage.codec W tape).serialize m).length < W.maxSize →
      (ClientMessage.codec W tape).parse ((ClientMessage.codec W tape).serialize m) = some m) ∧
    ∀ m : NodeMessage, m.isInitialized = true → m.InRange →
      ((NodeMessage.codec W tape).serialize m).length < W.maxSize →
      (NodeMessage.codec W tape).parse ((NodeMessage.codec W tape).serialize m) = some m :=
  ⟨fun _ hinit hrange hsize => ClientMessage.parse_serialize W hinit hrange hsize,
    fun _ hinit hrange hsize => NodeMessage.parse_serialize W hinit hrange hsize⟩

/-- An UPDATE_SERVER with the port 8080. -/
def updateServer8080 : ClientMessage where
  request := some .updateServer
  updateServerMessage := some ⟨some "c", some "n", some 8080⟩

theorem messages_roundTrip_updateServer :
    (ClientMessage.codec .protobuf [true, false]).parse
      [0x08, 0x0C, 0x72, 0x09, 0x0A, 0x01, 0x63, 0x12, 0x01, 0x6E, 0x18, 0x90, 0x3F] =
        some updateServer8080 :=
  (messages_roundTrip .protobuf [true, false]).1 updateServer8080 rfl
    (by rintro u ⟨⟩ port ⟨⟩; decide) (by decide)

/-! ### Any bytes -/

/-- **Whether a field is read behind a jump or from the top of the loop, and so how much of the input
is in the buffer, makes no difference, whatever the bytes are.** -/
theorem parse_eq_plain (tape : List Bool) (bytes : List Byte) :
    (ClientMessage.codec W tape).parse bytes = (ClientMessage.codec W []).parse bytes ∧
      (NodeMessage.codec W tape).parse bytes = (NodeMessage.codec W []).parse bytes :=
  ⟨(ClientMessage.descriptor W).parseFromIstream_tape _ tape bytes,
    (NodeMessage.descriptor W).parseFromIstream_tape _ tape bytes⟩

/-- The message has all that is required, its integers are of their type, and if it can be serialized
at all it is parsed again as it is. -/
structure Accepted {μ : Type} (c : Codec μ) (isInitialized : μ → Bool) (InRange : μ → Prop) (m : μ) :
    Prop where
  initialized : isInitialized m = true
  inRange : InRange m
  again : (c.serialize m).length < W.maxSize → c.parse (c.serialize m) = some m

/-- **Whatever bytes are accepted, the message is well formed.** -/
theorem accepted_of_parse (tape : List Bool) (bytes : List Byte) :
    (∀ m ∈ (ClientMessage.codec W tape).parse bytes,
      Accepted W (ClientMessage.codec W tape) ClientMessage.isInitialized ClientMessage.InRange m) ∧
    ∀ m ∈ (NodeMessage.codec W tape).parse bytes,
      Accepted W (NodeMessage.codec W tape) NodeMessage.isInitialized NodeMessage.InRange m := by
  refine ⟨fun m hm => ?_, fun m hm => ?_⟩
  · obtain ⟨hinit, hrange, hagain⟩ :=
      Descriptor.parseFromIstream_accepted (d := ClientMessage.descriptor W) hm
    exact ⟨hinit, hrange, fun hsize => hagain hsize tape⟩
  · obtain ⟨hinit, hrange, hagain⟩ :=
      Descriptor.parseFromIstream_accepted (d := NodeMessage.descriptor W) hm
    exact ⟨hinit, hrange, fun hsize => hagain hsize tape⟩

theorem accepted_of_parse_updateServer :
    Accepted .protobuf (ClientMessage.codec .protobuf []) ClientMessage.isInitialized ClientMessage.InRange
      updateServer8080 :=
  (accepted_of_parse .protobuf []
    [0x08, 0x0C, 0x72, 0x09, 0x0A, 0x01, 0x63, 0x12, 0x01, 0x6E, 0x18, 0x90, 0x3F]).1 _
    (by decide +kernel)

/-! ### More than one message, and other fields -/

/-- **Bytes of messages behind each other are parsed as the messages merged in their order.** -/
theorem parse_behindEachOther (tape : List Bool) :
    (∀ ms : List ClientMessage,
      (∀ m ∈ ms, m.InRange ∧ ((ClientMessage.codec W tape).serialize m).length < W.maxSize) →
      (ms.foldl (ClientMessage.mergeFrom W) {}).isInitialized = true →
      (ClientMessage.codec W tape).parse (ms.flatMap (ClientMessage.codec W tape).serialize) =
        some (ms.foldl (ClientMessage.mergeFrom W) {})) ∧
    ∀ ms : List NodeMessage,
      (∀ m ∈ ms, m.InRange ∧ ((NodeMessage.codec W tape).serialize m).length < W.maxSize) →
      (ms.foldl (NodeMessage.mergeFrom W) {}).isInitialized = true →
      (NodeMessage.codec W tape).parse (ms.flatMap (NodeMessage.codec W tape).serialize) =
        some (ms.foldl (NodeMessage.mergeFrom W) {}) :=
  ⟨fun _ hms hinit => Descriptor.parseFromIstream_flatMap (d := ClientMessage.descriptor W) hms hinit tape,
    fun _ hms hinit => Descriptor.parseFromIstream_flatMap (d := NodeMessage.descriptor W) hms hinit tape⟩

/-- The port in a second message, behind the UPDATE_SERVER with another one. -/
theorem parse_behindEachOther_updateServer :
    (ClientMessage.codec .protobuf []).parse
      [0x08, 0x0C, 0x72, 0x08, 0x0A, 0x01, 0x63, 0x12, 0x01, 0x6E, 0x18, 0x07, 0x72, 0x03, 0x18, 0x90, 0x3F] =
        some updateServer8080 :=
  (parse_behindEachOther .protobuf []).1
    [{ request := some .updateServer, updateServerMessage := some ⟨some "c", some "n", some 7⟩ },
      { updateServerMessage := some ⟨none, none, some 8080⟩ }]
    (by
      intro m hm
      simp only [List.mem_cons, List.not_mem_nil, or_false] at hm
      rcases hm with rfl | rfl
      · exact ⟨by rintro u ⟨⟩ port ⟨⟩; decide, by decide⟩
      · exact ⟨by rintro u ⟨⟩ port ⟨⟩; decide, by decide⟩)
    (by decide)

/-- The bytes of a message with other fields among its own. -/
structure WithUnknown {M : Type} (d : Descriptor W M) (m : M) (items : List (Item W M)) : Prop where
  fields : items.filter Item.isField = d.items m
  unknown : ∀ item ∈ items, item.isField = false → item.WellFormed d.fields

/-- **The message of a peer that knows more fields is parsed as the message without them, wherever they
stand.** -/
theorem parse_withUnknown (tape : List Bool) :
    (∀ (m : ClientMessage) (items : List (Item W ClientMessage)),
      WithUnknown W (ClientMessage.descriptor W) m items → m.isInitialized = true → m.InRange →
      ((ClientMessage.codec W tape).serialize m).length < W.maxSize →
      (ClientMessage.codec W tape).parse (items.flatMap Item.bytes) = some m) ∧
    ∀ (m : NodeMessage) (items : List (Item W NodeMessage)),
      WithUnknown W (NodeMessage.descriptor W) m items → m.isInitialized = true → m.InRange →
      ((NodeMessage.codec W tape).serialize m).length < W.maxSize →
      (NodeMessage.codec W tape).parse (items.flatMap Item.bytes) = some m :=
  ⟨fun _ _ hitems hinit hrange hsize =>
      Descriptor.parseFromIstream_unknown (d := ClientMessage.descriptor W) hitems.fields hitems.unknown
        hrange hsize hinit tape,
    fun _ _ hitems hinit hrange hsize =>
      Descriptor.parseFromIstream_unknown (d := NodeMessage.descriptor W) hitems.fields hitems.unknown
        hrange hsize hinit tape⟩

/-- The UPDATE_SERVER with a number of a field 100 and a text of a field 101 in front. -/
theorem parse_withUnknown_updateServer :
    (ClientMessage.codec .protobuf [true]).parse
      [0xA0, 0x06, 0x05, 0xAA, 0x06, 0x02, 0x76, 0x32, 0x08, 0x0C, 0x72, 0x09, 0x0A, 0x01, 0x63, 0x12, 0x01,
        0x6E, 0x18, 0x90, 0x3F] = some updateServer8080 := by
  have hnumber : (Item.unknown 800 (WireFormat.protobuf.writeInt32 5)).WellFormed
      (ClientMessage.descriptor .protobuf).fields :=
    Item.wellFormed_int32 (by decide) (by decide) (by rfl) (by decide) 5
  have htext : (Item.unknown 810 (WireFormat.protobuf.writeString "v2")).WellFormed
      (ClientMessage.descriptor .protobuf).fields :=
    Item.wellFormed_string (by decide) (by decide) (by rfl) (by decide) (by decide)
  have hitems : WithUnknown .protobuf (ClientMessage.descriptor .protobuf) updateServer8080
      (.unknown 800 (WireFormat.protobuf.writeInt32 5) ::
        .unknown 810 (WireFormat.protobuf.writeString "v2") ::
          (ClientMessage.descriptor .protobuf).items updateServer8080) := by
    refine ⟨rfl, List.forall_mem_cons.2 ⟨fun _ => hnumber, List.forall_mem_cons.2 ⟨fun _ => htext, ?_⟩⟩⟩
    intro item hitem hfield
    obtain ⟨f, -, hitem⟩ := List.mem_flatMap.1 hitem
    obtain ⟨v, -, rfl⟩ := List.mem_map.1 hitem
    cases hfield
  have hparse := (parse_withUnknown .protobuf [true]).1 updateServer8080 _ hitems rfl
    (by rintro u ⟨⟩ port ⟨⟩; decide) (by decide)
  exact hparse

end Protocol

end Sp2p
