/-!
# UTF-8

Texts and the bytes that encode them. A byte sequence is a text or has a
first place where no further character can be read.
-/

namespace TableQuery

namespace Text

/-- The bytes that encode a list of characters. -/
def encode (cs : List Char) : List UInt8 :=
  cs.flatMap String.utf8EncodeChar

/-- The bytes that encode a text. -/
def bytes (s : String) : List UInt8 :=
  encode s.toList

/-- The text that the bytes encode, if they encode one. -/
def ofBytes? (bs : List UInt8) : Option String :=
  String.fromUTF8? ⟨bs.toArray⟩

/-- How many bytes from `i` on lie before the first that starts no
character. -/
def readableFrom (bs : ByteArray) (i : Nat) : Nat :=
  if i < bs.size then
    match bs.utf8DecodeChar? i with
    | some c => c.utf8Size + readableFrom bs (i + c.utf8Size)
    | none => 0
  else 0
termination_by bs.size - i
decreasing_by
  have := c.utf8Size_pos
  omega

/-- The length of the longest beginning that encodes a text. -/
def readableLength (bs : List UInt8) : Nat :=
  readableFrom ⟨bs.toArray⟩ 0

/-- The characters behind the first `n` bytes of a text. None if the text
has fewer bytes or the place lies inside a character. -/
def dropBytes? (n : Nat) : List Char → Option (List Char)
  | [] => if n = 0 then some [] else none
  | c :: cs =>
    if n = 0 then some (c :: cs)
    else if c.utf8Size ≤ n then dropBytes? (n - c.utf8Size) cs
    else none

/-- The characters of the first `n` bytes of a text. None if the text has
fewer bytes or the place lies inside a character. -/
def takeBytes? (n : Nat) : List Char → Option (List Char)
  | [] => if n = 0 then some [] else none
  | c :: cs =>
    if n = 0 then some []
    else if c.utf8Size ≤ n then (takeBytes? (n - c.utf8Size) cs).map (c :: ·)
    else none

theorem encode_append (xs ys : List Char) : encode (xs ++ ys) = encode xs ++ encode ys :=
  List.flatMap_append

theorem bytes_append (s t : String) : bytes (s ++ t) = bytes s ++ bytes t := by
  simp [bytes, encode_append]

theorem toByteArray_eq (s : String) : s.toByteArray = ⟨(bytes s).toArray⟩ := by
  have h : s.toByteArray = s.toList.utf8Encode := by
    rw [← String.toByteArray_ofList, String.ofList_toList]
  rw [h, List.utf8Encode]
  apply ByteArray.ext
  simp [bytes, encode]

/-- The bytes of a text encode that text. -/
@[simp] theorem ofBytes?_bytes (s : String) : ofBytes? (bytes s) = some s := by
  unfold ofBytes? String.fromUTF8?
  rw [← toByteArray_eq, dif_pos s.isValidUTF8]
  rfl

/-- Only the bytes of a text encode it. -/
theorem ofBytes?_eq_some_iff {bs : List UInt8} {s : String} :
    ofBytes? bs = some s ↔ bs = bytes s := by
  constructor
  · intro h
    unfold ofBytes? String.fromUTF8? at h
    split at h
    · rename_i valid
      cases h
      have h := toByteArray_eq (String.fromUTF8 ⟨bs.toArray⟩ valid)
      exact List.toArray_inj (congrArg ByteArray.data h)
    · cases h
  · rintro rfl
    exact ofBytes?_bytes s

/-! ## Single characters among bytes

A byte below 128 is a character of its own and never part of another one,
and a text that begins with the bytes of a character begins with that
character. -/

/-- **A small byte belongs to the character of its number only.** -/
theorem toNat_eq_of_mem_encode {b : UInt8} {c : Char} (h : b ∈ String.utf8EncodeChar c)
    (hb : b.toNat < 128) : c.toNat = b.toNat := by
  simp only [String.utf8EncodeChar, Char.toNat_val] at h
  split at h
  · obtain rfl := List.mem_singleton.1 h
    rw [UInt8.toNat_ofNat']
    omega
  · -- every byte of a longer encoding has its highest bit set
    exfalso
    split at h
    · simp only [List.mem_cons, List.not_mem_nil, or_false] at h
      rcases h with rfl | rfl <;> rw [UInt8.toNat_ofNat'] at hb <;> omega
    · split at h
      · simp only [List.mem_cons, List.not_mem_nil, or_false] at h
        rcases h with rfl | rfl | rfl <;> rw [UInt8.toNat_ofNat'] at hb <;> omega
      · simp only [List.mem_cons, List.not_mem_nil, or_false] at h
        rcases h with rfl | rfl | rfl | rfl <;> rw [UInt8.toNat_ofNat'] at hb <;> omega

theorem bytes_eq_nil_iff {s : String} : bytes s = [] ↔ s = "" := by
  rw [bytes, encode, List.flatMap_eq_nil_iff, ← String.toList_eq_nil_iff,
    List.eq_nil_iff_forall_not_mem]
  exact forall₂_congr fun c _ => iff_false_intro String.utf8EncodeChar_ne_nil

theorem bytes_join (ss : List String) : bytes (String.join ss) = ss.flatMap bytes := by
  induction ss with
  | nil => rfl
  | cons s ss ih => rw [String.join_cons, bytes_append, ih, List.flatMap_cons]

/-- Bytes tell the character that they begin with. -/
theorem eq_of_encode_append {c d : Char} {bs bs' : List UInt8}
    (h : String.utf8EncodeChar c ++ bs = String.utf8EncodeChar d ++ bs') : c = d := by
  have hc := ByteArray.utf8DecodeChar?_utf8EncodeChar_append (b := bs.toByteArray) (c := c)
  have hd := ByteArray.utf8DecodeChar?_utf8EncodeChar_append (b := bs'.toByteArray) (c := d)
  rw [← List.toByteArray_append, h, List.toByteArray_append, hd] at hc
  exact (Option.some.inj hc).symm

end Text

end TableQuery
