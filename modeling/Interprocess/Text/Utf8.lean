/-!
# Text as bytes

Payloads are lists of bytes; text inside a payload is UTF-8.  `Utf8.encode` writes a
string, `Utf8.decode?` reads one, and reading accepts exactly what writing produces
(`Utf8.decode?_eq_some_iff`).
-/

namespace Interprocess

/-- The contents of a payload. -/
abbrev Bytes := List UInt8

namespace Utf8

/-- The UTF-8 bytes of `s`. -/
def encode (s : String) : Bytes := s.toByteArray.data.toList

/-- The string that `bytes` spell, if they are valid UTF-8. -/
def decode? (bytes : Bytes) : Option String := String.fromUTF8? ⟨bytes.toArray⟩

theorem decode?_encode (s : String) : decode? (encode s) = some s := by
  unfold decode? encode String.fromUTF8?
  simp only [Array.toArray_toList, dif_pos s.isValidUTF8]
  rfl

theorem encode_of_decode? {bytes : Bytes} {s : String} (h : decode? bytes = some s) :
    encode s = bytes := by
  unfold decode? String.fromUTF8? at h
  split at h
  · cases h
    simp only [encode, String.fromUTF8]
  · simp at h

theorem decode?_eq_some_iff {bytes : Bytes} {s : String} :
    decode? bytes = some s ↔ encode s = bytes :=
  ⟨encode_of_decode?, fun h => h ▸ decode?_encode s⟩

@[simp] theorem length_encode (s : String) : (encode s).length = s.utf8ByteSize := rfl

@[simp] theorem encode_append (s t : String) : encode (s ++ t) = encode s ++ encode t := by
  simp [encode]

end Utf8

end Interprocess
