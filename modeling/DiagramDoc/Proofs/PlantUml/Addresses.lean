import DiagramDoc.Proofs.PlantUml.Encoding
import DiagramDoc.Proofs.Text.Spans

/-! # Addresses of images

The address of an image says all that the image depends on. Neither a segment nor the name of a
format has a slash in it, so the two last slashes tell the server, the format and the segment apart.
The digits of base 64 do not include a tilde, so the start of a segment tells its encoder, and both
encoders lose nothing of the document.
-/

namespace DiagramDoc

namespace ImageFormat

theorem ofName?_eq_some_iff {s : String} {f : ImageFormat} : ofName? s = some f ↔ s = f.name := by
  constructor
  · intro h
    rw [ofName?] at h
    split_ifs at h with hsvg hpng
    · cases h
      exact hsvg
    · cases h
      exact hpng
  · rintro rfl
    exact ofName?_name f

theorem name_injective {f f' : ImageFormat} (h : f.name = f'.name) : f = f' := by
  have hread := (ofName?_name f).symm.trans (ofName?_eq_some_iff.2 h)
  exact Option.some.inj hread

end ImageFormat

namespace PlantUml

open Text Deflate Inflate

/-! ### Hexadecimal digits -/

def readHex : List Char → Option (List UInt8)
  | [] => some []
  | p :: q :: rest => do
    let a ← hexDigits.idxOf? p
    let b ← hexDigits.idxOf? q
    let bytes ← readHex rest
    some (UInt8.ofNat (a * 16 + b) :: bytes)
  | _ => none

theorem idxOf?_hexDigits : ∀ n < 16, hexDigits.idxOf? (hexDigits.getD n '0') = some n := by decide

theorem readHex_hexByte (b : UInt8) (digits : List Char) :
    readHex (hexByte b ++ digits) = (readHex digits).map (b :: ·) := by
  have hb : b.toNat < 256 := b.toNat_lt
  have hhigh := idxOf?_hexDigits (b.toNat / 16) (by omega)
  have hlow := idxOf?_hexDigits (b.toNat % 16) (by omega)
  have hbyte : UInt8.ofNat (b.toNat / 16 * 16 + b.toNat % 16) = b := by
    rw [Nat.div_add_mod', UInt8.ofNat_toNat]
  simp only [hexByte, List.cons_append, List.nil_append, readHex, hhigh, hlow,
    Option.bind_eq_bind, Option.bind_some, hbyte]
  cases readHex digits <;> rfl

theorem readHex_hex (bs : List UInt8) : readHex (hex bs) = some bs := by
  induction bs with
  | nil => rfl
  | cons b bs ih =>
    rw [hex, List.flatMap_cons, readHex_hexByte, ← hex, ih]
    rfl

/-! ### Segments -/

theorem toList_encode_deflate (text : String) :
    (Encoder.deflate.encode text).toList = base64 (compress (bytes text)) := by
  rw [Encoder.encode, String.toList_ofList]

theorem toList_encode_hex (text : String) :
    (Encoder.hex.encode text).toList = "~h".toList ++ hex (bytes text) := by
  simp only [Encoder.encode, String.toList_append, String.toList_ofList]

theorem of_mem_alphabet {c : Char} (h : c ∈ alphabet) :
    c.isAlphanum = true ∨ c ∈ ['-', '_', '~'] := by
  have hall : alphabet.all (fun c => c.isAlphanum || c ∈ ['-', '_', '~']) = true := by decide
  simpa using List.all_eq_true.1 hall c h

theorem of_mem_hex {bs : List UInt8} {c : Char} (h : c ∈ hex bs) : c.isAlphanum = true := by
  have hdigit : ∀ n < 16, (hexDigits.getD n '0').isAlphanum = true := by decide
  obtain ⟨b, -, hmem⟩ := List.mem_flatMap.1 h
  have hb : b.toNat < 256 := b.toNat_lt
  simp only [hexByte, List.mem_cons, List.not_mem_nil, or_false] at hmem
  rcases hmem with rfl | rfl
  · exact hdigit _ (by omega)
  · exact hdigit _ (by omega)

/-- The characters of a segment stand for themselves in a URL. -/
theorem of_mem_encode {encoder : Encoder} {text : String} {c : Char}
    (h : c ∈ (encoder.encode text).toList) : c.isAlphanum = true ∨ c ∈ ['-', '_', '~'] := by
  cases encoder with
  | deflate =>
    rw [toList_encode_deflate] at h
    exact of_mem_alphabet (mem_alphabet_of_mem_base64 h)
  | hex =>
    rw [toList_encode_hex, List.mem_append] at h
    rcases h with h | h
    · obtain rfl | rfl : c = '~' ∨ c = 'h' := by simpa using h
      · decide
      · decide
    · exact .inl (of_mem_hex h)

/-- The start of a segment tells its encoder. -/
theorem prefix_encode_iff {encoder : Encoder} {text : String} :
    "~h".toList <+: (encoder.encode text).toList ↔ encoder = .hex := by
  cases encoder with
  | deflate =>
    refine iff_of_false (fun hmark => ?_) (by decide)
    rw [toList_encode_deflate] at hmark
    have htilde := mem_alphabet_of_mem_base64 (hmark.subset (by decide : '~' ∈ "~h".toList))
    exact absurd htilde (by decide)
  | hex =>
    rw [toList_encode_hex]
    exact iff_of_true (List.prefix_append _ _) rfl

theorem bytes_injective {a b : String} (h : bytes a = bytes b) : a = b := by
  have hread := congrArg textOfBytes? h
  rw [textOfBytes?_bytes, textOfBytes?_bytes] at hread
  exact Option.some.inj hread

/-- **Neither encoder loses anything.** -/
theorem encode_injective {encoder : Encoder} {a b : String}
    (h : encoder.encode a = encoder.encode b) : a = b := by
  have hchars := congrArg String.toList h
  apply bytes_injective
  cases encoder with
  | deflate =>
    rw [toList_encode_deflate, toList_encode_deflate] at hchars
    obtain ⟨padding, -, hread⟩ := readBase64_base64 (compress (bytes a))
    obtain ⟨padding', -, hread'⟩ := readBase64_base64 (compress (bytes b))
    rw [hchars, hread'] at hread
    have hinflate := inflate_compress_append (bytes a) (List.replicate padding 0)
    rw [← Option.some.inj hread, inflate_compress_append] at hinflate
    exact (congrArg Prod.fst (Option.some.inj hinflate)).symm
  | hex =>
    rw [toList_encode_hex, toList_encode_hex] at hchars
    have hread := congrArg readHex (List.append_cancel_left hchars)
    rw [readHex_hex, readHex_hex] at hread
    exact Option.some.inj hread

theorem encodeSource_eq_iff {encoder encoder' : Encoder} {source source' : String} :
    encodeSource encoder source = encodeSource encoder' source' ↔
      encoder = encoder' ∧ document source = document source' := by
  constructor
  · intro h
    have hmark := @prefix_encode_iff encoder (document source)
    rw [← encodeSource, h, encodeSource, prefix_encode_iff] at hmark
    have hencoder : encoder = encoder' := by
      cases encoder <;> cases encoder' <;> simp_all
    subst hencoder
    exact ⟨rfl, encode_injective h⟩
  · rintro ⟨rfl, hdocument⟩
    rw [encodeSource, encodeSource, hdocument]

/-! ### Addresses -/

/-- The text in front of the last separator, and the text behind it. -/
def cutAtLast? (sep : Char) (cs : List Char) : Option (List Char × List Char) :=
  if sep ∈ cs then
    some ((dropEndWhile (· != sep) cs).dropLast, takeEndWhile (· != sep) cs)
  else none

theorem cutAtLast?_append {sep : Char} {back : List Char} (hback : sep ∉ back)
    (front : List Char) : cutAtLast? sep (front ++ sep :: back) = some (front, back) := by
  have hkept : ∀ d ∈ back, (d != sep) = true := fun d hd =>
    bne_iff_ne.2 fun heq => hback (heq ▸ hd)
  have hdrop : dropEndWhile (· != sep) (front ++ sep :: back) = front ++ [sep] :=
    dropEndWhile_append front (by simp) hkept
  have htake : takeEndWhile (· != sep) (front ++ sep :: back) = back := by
    have hglue := dropEndWhile_append_takeEndWhile (· != sep) (front ++ sep :: back)
    rw [hdrop, List.append_assoc] at hglue
    simpa using hglue
  rw [cutAtLast?, if_pos (by simp), hdrop, htake, List.dropLast_concat]

/-- The server, the format and the segment of an address. -/
def addressParts? (address : String) : Option (String × String × String) := do
  let (front, segment) ← cutAtLast? '/' address.toList
  let (server, format) ← cutAtLast? '/' front
  some (String.ofList server, String.ofList format, String.ofList segment)

/-- The server without the slashes at its end. -/
def withoutSlashes (server : String) : String :=
  String.ofList (dropEndWhile (· == '/') server.toList)

/-- The server is `base` with slashes at its end, and `base` has none there. -/
structure IsBaseOf (base server : String) : Prop where
  slashes : ∃ n, server.toList = base.toList ++ List.replicate n '/'
  bare : base.toList.getLast? ≠ some '/'

theorem isBaseOf_withoutSlashes (server : String) : IsBaseOf (withoutSlashes server) server := by
  constructor
  · have hslashes : takeEndWhile (· == '/') server.toList =
        List.replicate (takeEndWhile (· == '/') server.toList).length '/' := by
      apply List.eq_replicate_of_mem
      intro c hc
      simpa using of_mem_takeEndWhile hc
    refine ⟨(takeEndWhile (· == '/') server.toList).length, ?_⟩
    rw [withoutSlashes, String.toList_ofList, ← hslashes, dropEndWhile_append_takeEndWhile]
  · intro h
    rw [withoutSlashes, String.toList_ofList] at h
    exact absurd (of_getLast?_dropEndWhile h) (by decide)

theorem withoutSlashes_append (server : String) (n : Nat) :
    withoutSlashes (server ++ String.ofList (List.replicate n '/')) = withoutSlashes server := by
  rw [withoutSlashes, String.toList_append, String.toList_ofList, dropEndWhile_append_of_forall]
  · rfl
  · intro c hc
    rw [List.eq_of_mem_replicate hc]
    rfl

theorem imageUrl_eq (server : String) (format : ImageFormat) (segment : String) :
    imageUrl server format segment =
      withoutSlashes server ++ "/" ++ format.name ++ "/" ++ segment := rfl

theorem slash_notMem_name (format : ImageFormat) : '/' ∉ format.name.toList := by
  cases format <;> decide

theorem slash_notMem_encodeSource (encoder : Encoder) (source : String) :
    '/' ∉ (encodeSource encoder source).toList :=
  fun h => absurd (of_mem_encode h) (by decide)

theorem addressParts?_imageUrl {segment : String} (h : '/' ∉ segment.toList) (server : String)
    (format : ImageFormat) : addressParts? (imageUrl server format segment) =
      some (withoutSlashes server, format.name, segment) := by
  have haddress : (imageUrl server format segment).toList =
      ((withoutSlashes server).toList ++ '/' :: format.name.toList) ++ '/' :: segment.toList := by
    simp [imageUrl_eq]
  simp only [addressParts?, haddress, cutAtLast?_append h, Option.bind_eq_bind, Option.bind_some,
    cutAtLast?_append (slash_notMem_name format), String.ofList_toList]

theorem imageUrl_eq_iff {server server' : String} {format format' : ImageFormat}
    {encoder encoder' : Encoder} {source source' : String} :
    imageUrl server format (encodeSource encoder source) =
        imageUrl server' format' (encodeSource encoder' source') ↔
      withoutSlashes server = withoutSlashes server' ∧ format = format' ∧ encoder = encoder' ∧
        document source = document source' := by
  rw [← encodeSource_eq_iff]
  constructor
  · intro h
    have hparts := congrArg addressParts? h
    rw [addressParts?_imageUrl (slash_notMem_encodeSource _ _),
      addressParts?_imageUrl (slash_notMem_encodeSource _ _), Option.some.injEq, Prod.mk.injEq,
      Prod.mk.injEq] at hparts
    obtain ⟨hserver, hformat, hsegment⟩ := hparts
    exact ⟨hserver, ImageFormat.name_injective hformat, hsegment⟩
  · rintro ⟨hserver, rfl, hsegment⟩
    rw [imageUrl_eq, imageUrl_eq, hserver, hsegment]

/-- A segment is made of characters that stand for themselves in a URL, and it tells its encoder;
behind the mark of the hexadecimal one are the bytes of the document. -/
structure IsSegment (encoder : Encoder) (source segment : String) : Prop where
  plain : ∀ c ∈ segment.toList, c.isAlphanum = true ∨ c ∈ ['-', '_', '~']
  marked : "~h".toList <+: segment.toList ↔ encoder = .hex
  digits : encoder = .hex → ∃ digits, segment.toList = "~h".toList ++ digits ∧
    readHex digits = some (bytes (document source))

/-- The last two slashes of an address separate the server without the slashes at its end, the
format and the segment. Two addresses are the same only if all is the same that they are made of. -/
structure IsAddress (server : String) (format : ImageFormat) (encoder : Encoder)
    (source address : String) : Prop where
  base : IsBaseOf (withoutSlashes server) server
  parts : addressParts? address =
    some (withoutSlashes server, format.name, encodeSource encoder source)
  eq_iff : ∀ (server' : String) (format' : ImageFormat) (encoder' : Encoder) (source' : String),
    address = imageUrl server' format' (encodeSource encoder' source') ↔
      withoutSlashes server = withoutSlashes server' ∧ format = format' ∧ encoder = encoder' ∧
        document source = document source'

/-- **An address can be read back**: its server but for the slashes at the end, its format, its
encoder and its document. Servers that differ in the slashes at their ends have the same
addresses. -/
theorem imageUrl_reads_back (server : String) (format : ImageFormat) (encoder : Encoder)
    (source : String) :
    IsSegment encoder source (encodeSource encoder source) ∧
      IsAddress server format encoder source
        (imageUrl server format (encodeSource encoder source)) ∧
      ∀ (m n : Nat) (segment : String),
        imageUrl (server ++ String.ofList (List.replicate m '/')) format segment =
          imageUrl (server ++ String.ofList (List.replicate n '/')) format segment := by
  refine ⟨?_, ?_, fun m n segment => ?_⟩
  · constructor
    case plain => exact fun c hc => of_mem_encode hc
    case marked => exact prefix_encode_iff
    case digits =>
      rintro rfl
      exact ⟨_, toList_encode_hex _, readHex_hex _⟩
  · constructor
    case base => exact isBaseOf_withoutSlashes server
    case parts =>
      exact addressParts?_imageUrl (slash_notMem_encodeSource encoder source) server format
    case eq_iff => exact fun server' format' encoder' source' => imageUrl_eq_iff
  · rw [imageUrl_eq, imageUrl_eq, withoutSlashes_append, withoutSlashes_append]

end PlantUml

end DiagramDoc
