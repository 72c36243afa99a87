import Interprocess.Grant.Json
import Interprocess.Message.Json
import Interprocess.Naming.Message
import Interprocess.Power.Json
import Interprocess.Proofs.Json.Records

/-!
# Everything that is exchanged as JSON

Nine types of values are written as JSON and read from it: envelopes, reports, tokens, reasons, and
the five messages of the name directory.  Most of them are records, of which
`toFields?_ofFields` says what comes back; reports and reasons are cases with names.

Two kinds of numbers are bounded, because they have 64 bits where they are exchanged: sequences and
times of an envelope, and the id and the end of a token.

**Results.**
* `decode?_encode`, in the namespace of each type: the text written for a value means that value.
* `vocabulary_is_read_back`: all of them together.
-/

namespace Interprocess

/-! ## Envelopes and tokens -/

theorem Envelope.ofJson?_of_fields {e : Envelope} {j kind sender receiver payload sequence
    timestamp flags : Json}
    (hfields : j.toFields? fieldNames 0 = some [some kind, some sender, some receiver,
      some payload, some sequence, some timestamp, some flags])
    (hkind : kind.toWord? = some e.kind) (hsender : sender.toWord? = some e.sender)
    (hreceiver : receiver.toWord? = some e.receiver)
    (hpayload : payload.toBytes? = some e.payload)
    (hsequence : sequence.toLong? = some e.sequence)
    (htimestamp : timestamp.toLong? = some e.timestamp) (hflags : flags.toWord? = some e.flags) :
    ofJson? j = some e := by
  simp only [ofJson?, hfields, hkind, hsender, hreceiver, hpayload, hsequence, htimestamp, hflags,
    Option.bind_eq_bind, Option.bind_some]

theorem Envelope.decode?_encode {e : Envelope} (hsequence : e.sequence < 0x10000000000000000)
    (htimestamp : e.timestamp < 0x10000000000000000) :
    Json.decode? (Json.encode e) = some e := by
  refine Json.decode?_encode_of_ofJson? (Json.isPlain_ofFields ?_) ?_
  · simp [fieldNames]
  · have hnames : fieldNames.Nodup := by decide
    exact ofJson?_of_fields (Json.toFields?_zip hnames rfl 0) (Json.toWord?_ofWord _)
      (Json.toWord?_ofWord _) (Json.toWord?_ofWord _) (Json.toBytes?_ofBytes _)
      (Json.toLong?_ofNat hsequence) (Json.toLong?_ofNat htimestamp) (Json.toWord?_ofWord _)

theorem Token.ofJson?_of_fields {t : Token} {j id capabilities owner validUntil
    description : Json}
    (hfields : j.toFields? fieldNames 0 =
      some [some id, some capabilities, some owner, some validUntil, some description])
    (hid : id.toLong? = some t.id) (hcapabilities : capabilities.toWord? = some t.capabilities)
    (howner : owner.toWord? = some t.owner) (hvalidUntil : validUntil.toLong? = some t.validUntil)
    (hdescription : description.toText? = some t.description) :
    ofJson? j = some t := by
  simp only [ofJson?, hfields, hid, hcapabilities, howner, hvalidUntil, hdescription,
    Option.bind_eq_bind, Option.bind_some]

theorem Token.decode?_encode {t : Token} (hid : t.id < 0x10000000000000000)
    (hvalidUntil : t.validUntil < 0x10000000000000000) :
    Json.decode? (Json.encode t) = some t := by
  refine Json.decode?_encode_of_ofJson? (Json.isPlain_ofFields ?_) ?_
  · simp [fieldNames]
  · have hnames : fieldNames.Nodup := by decide
    exact ofJson?_of_fields (Json.toFields?_zip hnames rfl 0) (Json.toLong?_ofNat hid)
      (Json.toWord?_ofWord _) (Json.toWord?_ofWord _) (Json.toLong?_ofNat hvalidUntil)
      (Json.toText?_ofText _)

/-! ## Cases -/

namespace Json

theorem toVariant?_ofText (name : String) : (ofText name).toVariant? = some (name, none) := by
  simp [toVariant?, ofText, StringLiteral.text?_ofText]

theorem toVariant?_ofFields (name : String) (contents : Json) :
    (ofFields [(name, contents)]).toVariant? = some (name, some contents) := by
  simp [toVariant?, ofFields, StringLiteral.text?_ofText]

end Json

theorem Feedback.decode?_encode (report : Feedback) :
    Json.decode? (Json.encode report) = some report := by
  refine Json.decode?_encode_of_ofJson? ?_ ?_
  · cases report with
    | received response => exact Json.isPlain_ofFields (by simp)
    | _ => exact Json.isPlain_ofText _
  · change ofJson? report.toJson = some report
    cases report with
    | received response => simp [ofJson?, toJson, Json.toVariant?_ofFields]
    | _ => simp [ofJson?, toJson, Json.toVariant?_ofText, Json.isBareCase, caseName, bare]

theorem ShutdownReason.decode?_encode (reason : ShutdownReason) :
    Json.decode? (Json.encode reason) = some reason := by
  refine Json.decode?_encode_of_ofJson? (Json.isPlain_ofText _) ?_
  change ofJson? reason.toJson = some reason
  cases reason <;>
    simp [ofJson?, toJson, Json.toVariant?_ofText, Json.isBareCase, caseName, all]

/-! ## Messages of the directory -/

theorem Json.toStatus?_ofInt (status : Int32) :
    (ofInt status.toInt).toStatus? = some status := by
  have hlow := status.le_toInt
  have hhigh := status.toInt_lt
  rw [toStatus?, toInt?_ofInt, Option.bind_some, if_pos ⟨by omega, by omega⟩, Int32.ofInt_toInt]

theorem LookupRequest.decode?_encode (r : LookupRequest) :
    Json.decode? (Json.encode r) = some r := by
  refine Json.decode?_encode_of_ofJson? (Json.isPlain_ofFields (by simp)) ?_
  change ofJson? r.toJson = some r
  simp [ofJson?, toJson, Json.toFields?_one]

theorem LookupResponse.decode?_encode (r : LookupResponse) :
    Json.decode? (Json.encode r) = some r := by
  obtain ⟨status, pid⟩ := r
  refine Json.decode?_encode_of_ofJson? (Json.isPlain_ofFields ?_) ?_
  · cases pid <;> simp
  · change ofJson? (toJson ⟨status, pid⟩) = some _
    cases pid with
    | none => simp [ofJson?, toJson, Json.toFields?_two, Json.toStatus?_ofInt, toPid?]
    | some pid =>
        have hpid : toPid? (some (Json.ofWord pid)) = some (some pid) := by
          change (Json.ofWord pid).toWord?.map some = _
          rw [Json.toWord?_ofWord, Option.map_some]
        simp [ofJson?, toJson, Json.toFields?_two, Json.toStatus?_ofInt, hpid]

theorem RegisterRequest.decode?_encode (r : RegisterRequest) :
    Json.decode? (Json.encode r) = some r := by
  refine Json.decode?_encode_of_ofJson? (Json.isPlain_ofFields (by simp)) ?_
  change ofJson? r.toJson = some r
  simp [ofJson?, toJson, Json.toFields?_two]

theorem UnregisterRequest.decode?_encode (r : UnregisterRequest) :
    Json.decode? (Json.encode r) = some r := by
  refine Json.decode?_encode_of_ofJson? (Json.isPlain_ofFields (by simp)) ?_
  change ofJson? r.toJson = some r
  simp [ofJson?, toJson, Json.toFields?_one]

theorem StatusResponse.decode?_encode (r : StatusResponse) :
    Json.decode? (Json.encode r) = some r := by
  refine Json.decode?_encode_of_ofJson? (Json.isPlain_ofFields (by simp)) ?_
  change ofJson? r.toJson = some r
  simp [ofJson?, toJson, Json.toFields?_one, Json.toStatus?_ofInt]

/-! ## All together -/

/-- **Whatever is written is read back**, with all its numbers, bytes and characters. -/
theorem vocabulary_is_read_back :
    (∀ e : Envelope, e.sequence < 0x10000000000000000 → e.timestamp < 0x10000000000000000 →
        Json.decode? (Json.encode e) = some e) ∧
      (∀ report : Feedback, Json.decode? (Json.encode report) = some report) ∧
      (∀ t : Token, t.id < 0x10000000000000000 → t.validUntil < 0x10000000000000000 →
        Json.decode? (Json.encode t) = some t) ∧
      (∀ reason : ShutdownReason, Json.decode? (Json.encode reason) = some reason) ∧
      (∀ r : LookupRequest, Json.decode? (Json.encode r) = some r) ∧
      (∀ r : LookupResponse, Json.decode? (Json.encode r) = some r) ∧
      (∀ r : RegisterRequest, Json.decode? (Json.encode r) = some r) ∧
      (∀ r : UnregisterRequest, Json.decode? (Json.encode r) = some r) ∧
      ∀ r : StatusResponse, Json.decode? (Json.encode r) = some r :=
  ⟨fun _ => Envelope.decode?_encode, Feedback.decode?_encode, fun _ => Token.decode?_encode,
    ShutdownReason.decode?_encode, LookupRequest.decode?_encode, LookupResponse.decode?_encode,
    RegisterRequest.decode?_encode, UnregisterRequest.decode?_encode,
    StatusResponse.decode?_encode⟩

/-- The largest numbers, both ends of a byte, and characters that need escapes or four bytes. -/
theorem vocabulary_is_read_back_at_its_limits :
    let e : Envelope :=
      { kind := 0xFFFFFFFF, sender := 0, receiver := 0xFFFFFFFF, payload := [0, 255],
        sequence := 0xFFFFFFFFFFFFFFFF, timestamp := 0xFFFFFFFFFFFFFFFF, flags := 0 }
    let t : Token :=
      { id := 0xFFFFFFFFFFFFFFFF, capabilities := 0xFFFFFFFF, owner := 1,
        validUntil := 0xFFFFFFFFFFFFFFFF, description := "\"\\\n\x01😀" }
    Json.decode? (Json.encode e) = some e ∧ Json.decode? (Json.encode t) = some t := by
  intro e t
  obtain ⟨henvelope, -, htoken, -⟩ := vocabulary_is_read_back
  exact ⟨henvelope e (by decide) (by decide), htoken t (by decide) (by decide)⟩

end Interprocess
