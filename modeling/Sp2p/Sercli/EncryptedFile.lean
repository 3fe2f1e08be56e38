import Sp2p.Lib.Base64
import Sp2p.Lib.Lines

/-!
# Encrypted state files

The file `EncryptedSink` writes when it is destroyed, and how `EncryptedSource` reads one: four lines
(a title, the algorithm, the salt, the MAC), and the body. What is used of Botan is a parameter, and
so is the header check of `boost::archive::text_iarchive`, which is what the constructor of the
source ends with. `new_destroy` is the round trip. The source computes the MAC of what it decrypted
and compares it with nothing, so it rejects a tampered file exactly when the body is no archive
(`rejectsTampered_iff`), and its outcome does not depend on the MAC line (`new_withMac`).
-/

namespace Sp2p.Sercli

open Lines

def ascii (s : String) : List UInt8 := s.toList.map fun c => UInt8.ofNat c.toNat

def newline : UInt8 := 10

/-- `<< text << std::endl`. -/
def endl (text : List UInt8) : List UInt8 := text ++ [newline]

/-- What is used of Botan. `none` stands for an exception. -/
structure Botan where
  /-- Of the block cipher. -/
  maximumKeylength : Nat
  blockSize : Nat
  /-- `PBKDF2(SHA-1)`: the length of the key, the passphrase, the salt, the iterations. -/
  deriveKey : Nat → List UInt8 → List UInt8 → Nat → List UInt8
  /-- `HMAC(SHA-1)`: the key, the message. -/
  hmac : List UInt8 → List UInt8 → List UInt8
  /-- The cipher in CBC mode: the key, the initialization vector, the message. -/
  encrypt : List UInt8 → List UInt8 → List UInt8 → List UInt8
  decrypt : List UInt8 → List UInt8 → List UInt8 → Option (List UInt8)
  /-- Whether to break lines, and the message. -/
  base64Encoder : Bool → List UInt8 → List UInt8
  base64Decoder : List UInt8 → Option (List UInt8)

/-- What Botan documents: a cipher that can be undone, a MAC of twenty bytes, and base64 in lines of
72 symbols, each line ended, with a decoder that passes over white space. -/
structure Botan.Documented (botan : Botan) : Prop where
  decrypt_encrypt : ∀ key iv message,
    botan.decrypt key iv (botan.encrypt key iv message) = some message
  length_hmac : ∀ key message, (botan.hmac key message).length = 20
  decode_encode : ∀ bytes, botan.base64Decoder (botan.base64Encoder false bytes) = some bytes
  decode_filter : ∀ text,
    botan.base64Decoder (text.filter (!Base64.isSpace ·)) = botan.base64Decoder text
  length_encode : ∀ bytes,
    (botan.base64Encoder false bytes).length = 4 * ((bytes.length + 2) / 3)
  isSpace_encode : ∀ bytes, ∀ c ∈ botan.base64Encoder false bytes, Base64.isSpace c = false
  breaks : ∀ bytes, botan.base64Encoder true bytes = wrap newline 72 (botan.base64Encoder false bytes)

/-! ### The sink and the source -/

def ALGORITHM : List UInt8 := ascii "AES-256"

def PBKDF2_ITERATIONS : Nat := 8192

structure Keys where
  symKey : List UInt8
  iv : List UInt8
  macKey : List UInt8

/-- The three keys both ends derive. -/
def Botan.keys (botan : Botan) (password salt : List UInt8) : Keys where
  symKey := botan.deriveKey botan.maximumKeylength (ascii "BLK" ++ password) salt PBKDF2_ITERATIONS
  iv := botan.deriveKey botan.blockSize (ascii "IVL" ++ password) salt PBKDF2_ITERATIONS
  macKey := botan.deriveKey 16 (ascii "MAC" ++ password) salt PBKDF2_ITERATIONS

/-- The line `res_mac` and the MAC of the file are made of. -/
def Botan.macText (botan : Botan) (password salt data : List UInt8) : List UInt8 :=
  botan.base64Encoder true (botan.hmac (botan.keys password salt).macKey data)

/-- `~EncryptedSink`: what it writes, for the text of the archive and the salt it draws. The member
`ofs` is shadowed and writes nothing. -/
def EncryptedSink.destroy (botan : Botan) (password salt data : List UInt8) : List UInt8 :=
  let keys := botan.keys password salt
  endl (ascii "-------- ENCRYPTED FILE --------") ++ endl ALGORITHM ++
    endl (botan.base64Encoder false salt) ++ endl (botan.macText password salt data) ++
    botan.base64Encoder true (botan.encrypt keys.symKey keys.iv data)

/-- The four lines and the rest of a file. -/
structure FileParts where
  header : List UInt8
  algo : List UInt8
  saltStr : List UInt8
  macStr : List UInt8
  body : List UInt8

/-- The four `getline`s. -/
def FileParts.read (file : List UInt8) : FileParts :=
  let (header, file) := getline newline file
  let (algo, file) := getline newline file
  let (saltStr, file) := getline newline file
  let (macStr, body) := getline newline file
  { header, algo, saltStr, macStr, body }

/-- The source, and the two MACs its constructor has at hand. -/
structure EncryptedSource where
  macStr : List UInt8
  resMac : List UInt8
  data : List UInt8

/-- The constructor, `none` when it throws. `header` and `algo` are not looked at. -/
def EncryptedSource.new (botan : Botan) (textIarchive : List UInt8 → Bool)
    (password file : List UInt8) : Option EncryptedSource := do
  let parts := FileParts.read file
  let salt ← botan.base64Decoder parts.saltStr
  let keys := botan.keys password salt
  let cipher ← botan.base64Decoder parts.body
  let data ← botan.decrypt keys.symKey keys.iv cipher
  let resMac := botan.macText password salt data
  -- here the source says `// ....`
  if textIarchive data then some ⟨parts.macStr, resMac, data⟩ else none

variable {botan : Botan} {textIarchive : List UInt8 → Bool} {password file : List UInt8}

/-- The body decrypts to these data, with the salt of the file. -/
def Decrypts (botan : Botan) (password file salt data : List UInt8) : Prop :=
  botan.base64Decoder (FileParts.read file).saltStr = some salt ∧
    ∃ cipher, botan.base64Decoder (FileParts.read file).body = some cipher ∧
      botan.decrypt (botan.keys password salt).symKey (botan.keys password salt).iv cipher = some data

theorem EncryptedSource.new_eq_some {src : EncryptedSource} :
    EncryptedSource.new botan textIarchive password file = some src ↔
      ∃ salt data, Decrypts botan password file salt data ∧ textIarchive data = true ∧
        src = ⟨(FileParts.read file).macStr, botan.macText password salt data, data⟩ := by
  unfold EncryptedSource.new Decrypts
  simp only [Option.bind_eq_bind, Option.bind_eq_some_iff, Option.ite_none_right_eq_some,
    Option.some.injEq]
  constructor
  · rintro ⟨salt, hsalt, cipher, hcipher, data, hdata, haccept, rfl⟩
    exact ⟨salt, data, ⟨hsalt, cipher, hcipher, hdata⟩, haccept, rfl⟩
  · rintro ⟨salt, data, ⟨hsalt, cipher, hcipher, hdata⟩, haccept, rfl⟩
    exact ⟨salt, hsalt, cipher, hcipher, data, hdata, haccept, rfl⟩

theorem Decrypts.unique {salt salt' data data' : List UInt8}
    (h : Decrypts botan password file salt data) (h' : Decrypts botan password file salt' data') :
    salt = salt' ∧ data = data' := by
  obtain ⟨hsalt, cipher, hcipher, hdata⟩ := h
  obtain ⟨hsalt', cipher', hcipher', hdata'⟩ := h'
  obtain rfl := Option.some_inj.1 (hsalt.symm.trans hsalt')
  obtain rfl := Option.some_inj.1 (hcipher.symm.trans hcipher')
  exact ⟨rfl, Option.some_inj.1 (hdata.symm.trans hdata')⟩

/-! ### What is written is read -/

/-- A line that was written is read back. -/
theorem getline_endl {line : List UInt8} (h : newline ∉ line) (rest : List UInt8) :
    getline newline (endl line ++ rest) = (line, rest) := by
  rw [endl, List.append_assoc]
  exact getline_append h rest

theorem FileParts.read_endl {header algo saltStr macStr body : List UInt8} (hh : newline ∉ header)
    (ha : newline ∉ algo) (hs : newline ∉ saltStr) (hm : newline ∉ macStr) :
    FileParts.read (endl header ++ endl algo ++ endl saltStr ++ endl macStr ++ body) =
      { header, algo, saltStr, macStr, body } := by
  unfold FileParts.read
  simp only [List.append_assoc, getline_endl hh, getline_endl ha, getline_endl hs, getline_endl hm]

theorem isSpace_newline : Base64.isSpace newline = true := rfl

namespace Botan.Documented

theorem newline_not_mem (h : botan.Documented) (bytes : List UInt8) :
    newline ∉ botan.base64Encoder false bytes := by
  intro hmem
  have := h.isSpace_encode bytes newline hmem
  rw [isSpace_newline] at this
  cases this

/-- The decoder undoes the encoder with line breaks, too. -/
theorem decode_breaks (h : botan.Documented) (bytes : List UInt8) :
    botan.base64Decoder (botan.base64Encoder true bytes) = some bytes := by
  have hkeep : ∀ c ∈ botan.base64Encoder false bytes, (!Base64.isSpace c) = true := by
    intro c hc
    rw [h.isSpace_encode bytes c hc]
    rfl
  rw [← h.decode_filter, h.breaks, filter_wrap (by rw [isSpace_newline]; rfl) hkeep]
  exact h.decode_encode bytes

theorem decode_newline (h : botan.Documented) (text : List UInt8) :
    botan.base64Decoder (newline :: text) = botan.base64Decoder text := by
  rw [← h.decode_filter (newline :: text), ← h.decode_filter text,
    List.filter_cons_of_neg (by rw [isSpace_newline]; simp)]

/-- A MAC is one line, and its end. -/
theorem macText_eq (h : botan.Documented) (password salt data : List UInt8) :
    botan.macText password salt data =
      endl (botan.base64Encoder false (botan.hmac (botan.keys password salt).macKey data)) := by
  have hlen := h.length_encode (botan.hmac (botan.keys password salt).macKey data)
  rw [h.length_hmac] at hlen
  unfold Botan.macText
  rw [h.breaks, wrap_of_length_lt _ (by omega)]
  · rfl
  · intro he
    rw [he] at hlen
    exact absurd hlen (by decide)

end Botan.Documented

/-- What the source finds in a file of the sink. The second line end of the MAC is left to the
body. -/
theorem FileParts.read_destroy (h : botan.Documented) (password salt data : List UInt8) :
    FileParts.read (EncryptedSink.destroy botan password salt data) =
      { header := ascii "-------- ENCRYPTED FILE --------"
        algo := ALGORITHM
        saltStr := botan.base64Encoder false salt
        macStr := botan.base64Encoder false (botan.hmac (botan.keys password salt).macKey data)
        body := newline :: botan.base64Encoder true
          (botan.encrypt (botan.keys password salt).symKey (botan.keys password salt).iv data) } := by
  have hsplit : ∀ line rest : List UInt8, endl (endl line) ++ rest = endl line ++ newline :: rest := by
    intro line rest
    simp [endl]
  unfold EncryptedSink.destroy
  rw [h.macText_eq, List.append_assoc _ (endl (endl _)), hsplit, ← List.append_assoc]
  exact FileParts.read_endl (by decide) (by decide) (h.newline_not_mem salt) (h.newline_not_mem _)

theorem decrypts_destroy (h : botan.Documented) (password salt data : List UInt8) :
    Decrypts botan password (EncryptedSink.destroy botan password salt data) salt data := by
  unfold Decrypts
  rw [FileParts.read_destroy h]
  refine ⟨h.decode_encode salt, _, ?_, h.decrypt_encrypt _ _ data⟩
  rw [h.decode_newline, h.decode_breaks]

/-- **What is written under a password is read under it.** -/
theorem EncryptedSource.new_destroy (h : botan.Documented) (password salt data : List UInt8)
    (haccept : textIarchive data = true) :
    (EncryptedSource.new botan textIarchive password
      (EncryptedSink.destroy botan password salt data)).map (·.data) = some data := by
  rw [EncryptedSource.new_eq_some.2
    ⟨salt, data, decrypts_destroy h password salt data, haccept, rfl⟩]
  rfl

/-! ### The MAC -/

/-- The MAC line of the file is that of the data its body decrypts to. -/
def Authentic (botan : Botan) (password file : List UInt8) : Prop :=
  ∃ salt data, Decrypts botan password file salt data ∧
    endl (FileParts.read file).macStr = botan.macText password salt data

/-- The constructor succeeds only on authentic files. -/
def RejectsTampered (botan : Botan) (textIarchive : List UInt8 → Bool) (password file : List UInt8) :
    Prop :=
  ∀ src, EncryptedSource.new botan textIarchive password file = some src →
    Authentic botan password file

/-- The body does not decrypt to an archive: the salt or the body is no base64, or the cipher refuses
it, or the archive. -/
def NoArchive (botan : Botan) (textIarchive : List UInt8 → Bool) (password file : List UInt8) : Prop :=
  ∀ salt data, Decrypts botan password file salt data → textIarchive data = false

/-- **A tampered file is rejected exactly when its MAC line is right after all, or its body does not
decrypt to an archive.** -/
theorem rejectsTampered_iff (botan : Botan) (textIarchive : List UInt8 → Bool)
    (password file : List UInt8) :
    RejectsTampered botan textIarchive password file ↔
      Authentic botan password file ∨ NoArchive botan textIarchive password file := by
  constructor
  · intro h
    by_cases hnone : NoArchive botan textIarchive password file
    · exact .inr hnone
    · unfold NoArchive at hnone
      push Not at hnone
      obtain ⟨salt, data, hdecrypts, haccept⟩ := hnone
      have haccept : textIarchive data = true := by simpa using haccept
      exact .inl (h _ (EncryptedSource.new_eq_some.2 ⟨salt, data, hdecrypts, haccept, rfl⟩))
  · rintro (hauth | hnone) src hsrc
    · exact hauth
    · obtain ⟨salt, data, hdecrypts, haccept, -⟩ := EncryptedSource.new_eq_some.1 hsrc
      rw [hnone salt data hdecrypts] at haccept
      cases haccept

/-- The MAC line of a file that was written is right. -/
theorem authentic_destroy (h : botan.Documented) (password salt data : List UInt8) :
    Authentic botan password (EncryptedSink.destroy botan password salt data) := by
  refine ⟨salt, data, decrypts_destroy h password salt data, ?_⟩
  rw [FileParts.read_destroy h, h.macText_eq]

/-- Files that differ in the MAC line are read alike: what was written opens whatever its MAC line
is changed to. -/
theorem EncryptedSource.new_withMac {header algo saltStr macStr macStr' body : List UInt8}
    (hh : newline ∉ header) (ha : newline ∉ algo) (hs : newline ∉ saltStr) (hm : newline ∉ macStr)
    (hm' : newline ∉ macStr') :
    (EncryptedSource.new botan textIarchive password
        (endl header ++ endl algo ++ endl saltStr ++ endl macStr' ++ body)).map (·.data) =
      (EncryptedSource.new botan textIarchive password
        (endl header ++ endl algo ++ endl saltStr ++ endl macStr ++ body)).map (·.data) := by
  unfold EncryptedSource.new
  rw [FileParts.read_endl hh ha hs hm, FileParts.read_endl hh ha hs hm']
  dsimp only
  cases botan.base64Decoder saltStr with
  | none => rfl
  | some salt =>
    cases botan.base64Decoder body with
    | none => rfl
    | some cipher =>
      cases hdata : botan.decrypt (botan.keys password salt).symKey (botan.keys password salt).iv
          cipher with
      | none => simp [hdata]
      | some data =>
        cases haccept : textIarchive data with
        | false => simp [hdata, haccept]
        | true => simp [hdata, haccept]

/-! ### A file -/

def samplePassword : List UInt8 := ascii "secret"

def sampleSalt : List UInt8 := [1, 2, 3, 4, 5, 6, 7, 8]

/-- An archive of one string. -/
def sampleData : List UInt8 := ascii "22 serialization::archive 10 2 hi"

def sampleKey : List UInt8 :=
  [214, 14, 170, 238, 44, 171, 228, 57, 99, 15, 133, 206, 198, 142, 126, 55, 27, 197, 33, 166,
    192, 160, 142, 158, 6, 33, 90, 238, 79, 204, 58, 226]

def sampleIv : List UInt8 := [144, 79, 121, 10, 6, 145, 118, 115, 202, 153, 170, 3, 46, 10, 41, 62]

def sampleMacKey : List UInt8 :=
  [99, 199, 195, 88, 158, 0, 222, 72, 221, 124, 81, 9, 208, 189, 26, 79]

def sampleMac : List UInt8 :=
  [101, 105, 167, 93, 142, 206, 131, 151, 34, 0, 151, 42, 51, 126, 92, 38, 151, 39, 183, 116]

def sampleCipher : List UInt8 :=
  [154, 144, 55, 158, 179, 70, 21, 83, 103, 152, 56, 167, 152, 225, 149, 48, 177, 42, 114, 23,
    35, 226, 140, 46, 96, 86, 219, 92, 48, 100, 50, 170, 168, 50, 187, 87, 14, 157, 16, 105,
    114, 111, 216, 135, 227, 71, 54, 61]

/-- What the library computes for the sample; elsewhere a key is blank, a MAC is blank, and a message
is marked and not encrypted. -/
def Botan.sample : Botan where
  maximumKeylength := 32
  blockSize := 16
  deriveKey length passphrase salt iterations :=
    if salt = sampleSalt ∧ iterations = PBKDF2_ITERATIONS then
      if passphrase = ascii "BLK" ++ samplePassword then sampleKey
      else if passphrase = ascii "IVL" ++ samplePassword then sampleIv
      else if passphrase = ascii "MAC" ++ samplePassword then sampleMacKey
      else List.replicate length 0
    else List.replicate length 0
  hmac key message :=
    if key = sampleMacKey ∧ message = sampleData then sampleMac else List.replicate 20 0
  encrypt key iv message :=
    if key = sampleKey ∧ iv = sampleIv ∧ message = sampleData then sampleCipher else 0 :: message
  decrypt key iv cipher :=
    if key = sampleKey ∧ iv = sampleIv ∧ cipher = sampleCipher then some sampleData
    else match cipher with
      | 0 :: message => some message
      | _ => none
  base64Encoder lines bytes :=
    if lines then wrap newline 72 (Base64.encode bytes) else Base64.encode bytes
  base64Decoder := Base64.decode

theorem Botan.documented_sample : Botan.sample.Documented where
  decrypt_encrypt key iv message := by
    have hhead : ∀ message : List UInt8, 0 :: message ≠ sampleCipher := by
      intro message he
      have hfirst : sampleCipher.head? = some 154 := by decide +kernel
      rw [← he] at hfirst
      exact absurd hfirst (by simp)
    by_cases h : key = sampleKey ∧ iv = sampleIv ∧ message = sampleData
    · obtain ⟨rfl, rfl, rfl⟩ := h
      simp [Botan.sample]
    · have henc : Botan.sample.encrypt key iv message = 0 :: message := if_neg h
      have hdec : ¬ (key = sampleKey ∧ iv = sampleIv ∧ 0 :: message = sampleCipher) :=
        fun he => hhead message he.2.2
      rw [henc]
      exact if_neg hdec
  length_hmac key message := by
    show (if key = sampleMacKey ∧ message = sampleData then sampleMac
      else List.replicate 20 0).length = 20
    split
    · decide +kernel
    · exact List.length_replicate
  decode_encode := Base64.decode_encode
  decode_filter := Base64.decode_filter
  length_encode := Base64.length_encode
  isSpace_encode := Base64.isSpace_encode
  breaks _ := rfl

/-- The header check, on the signature. -/
def sampleIarchive (text : List UInt8) : Bool :=
  (ascii "22 serialization::archive ").isPrefixOf text

theorem EncryptedSource.new_destroy_sample :
    (EncryptedSource.new Botan.sample sampleIarchive samplePassword
      (EncryptedSink.destroy Botan.sample samplePassword sampleSalt sampleData)).map (·.data) =
        some sampleData :=
  EncryptedSource.new_destroy Botan.documented_sample samplePassword sampleSalt sampleData
    (by decide +kernel)

/-- The sample file with another MAC line. -/
def tamperedFile : List UInt8 :=
  endl (ascii "-------- ENCRYPTED FILE --------") ++ endl ALGORITHM ++
    endl (Base64.encode sampleSalt) ++ endl (ascii "AAAAAAAAAAAAAAAAAAAAAAAAAAA=") ++
    (newline :: wrap newline 72 (Base64.encode sampleCipher))

theorem decrypts_tamperedFile :
    Decrypts Botan.sample samplePassword tamperedFile sampleSalt sampleData := by
  unfold Decrypts tamperedFile
  rw [FileParts.read_endl (by decide) (by decide) (by decide +kernel) (by decide)]
  refine ⟨Base64.decode_encode sampleSalt, sampleCipher, ?_, by decide +kernel⟩
  rw [Botan.documented_sample.decode_newline]
  exact Botan.documented_sample.decode_breaks sampleCipher

/-- It is opened all the same. -/
theorem not_rejectsTampered_sample :
    ¬ RejectsTampered Botan.sample sampleIarchive samplePassword tamperedFile := by
  intro h
  obtain ⟨salt, data, hdecrypts, hmac⟩ := h _ (EncryptedSource.new_eq_some.2
    ⟨sampleSalt, sampleData, decrypts_tamperedFile, by decide +kernel, rfl⟩)
  obtain ⟨rfl, rfl⟩ := hdecrypts.unique decrypts_tamperedFile
  have hline : (FileParts.read tamperedFile).macStr = ascii "AAAAAAAAAAAAAAAAAAAAAAAAAAA=" := by
    unfold tamperedFile
    rw [FileParts.read_endl (by decide) (by decide) (by decide +kernel) (by decide)]
  rw [hline, Botan.documented_sample.macText_eq] at hmac
  exact absurd hmac (by decide +kernel)

end Sp2p.Sercli
