import Mathlib
import TripWire.Lib.Search
import TripWire.Py.DecimalText

/-!
# The verification of webhook signatures

`verify_webhook` (`tripwire/webhook/verify.py`) and `verify_webhook_signature`
(`tripwire_sdk/verify.py`) read the header `X-TripWire-Signature`, whose value is
`t={timestamp},v1={signature}` with any number of signatures, and compare the signatures with the
HMAC of the timestamp and the body.

`HeaderReads` says what a header value means: its parts are those between the commas, without the
spaces around them, every `t=` part is an integer and the last one counts.  The loop of
`_parse_signature_header` computes that (`parseHeader_eq_ok_iff`).  With it the two verifiers are
compared with `Verifies`, which says what a signature has to be: `verify_agree` for headers in
ASCII, and `verify_never_raises_iff` for all headers, where `hmac.compare_digest` refuses text
outside ASCII and the SDK cannot write down the age of a timestamp that is too far away.
-/

namespace TripWire

open Py

/-! ### Text, bytes and times -/

/-- `s.encode("utf-8")`. -/
def utf8 (s : String) : List UInt8 := s.toList.flatMap String.utf8EncodeChar

/-- `str(n)`, which raises on an integer of more digits than `maxStrDigits`. -/
def strOfInt (n : ℤ) : Except PyError String :=
  if n.natAbs < 10 ^ maxStrDigits then .ok (toString n) else .error .valueError

/-- `s[n:]`. -/
def dropChars (n : ℕ) (s : String) : String := String.ofList (s.toList.drop n)

/-- `s.isascii()`. -/
def IsAscii (s : String) : Prop := ∀ c ∈ s.toList, c.toNat < 128

instance : DecidablePred IsAscii := fun s =>
  List.decidableBAll (fun c : Char => c.toNat < 128) s.toList

/-- `int(time.time())`. -/
def wholeSeconds (time : ℚ) : ℤ := Int.tdiv time.num time.den

/-- `abs(now - timestamp)`. -/
def ageOf (time : ℚ) (timestamp : ℤ) : ℕ := (wholeSeconds time - timestamp).natAbs

/-- A request body: a string that encodes, or bytes. -/
inductive Payload where
  | text (s : String)
  | bytes (bs : List UInt8)

/-- The body as bytes. -/
def Payload.encode : Payload → List UInt8
  | .text s => utf8 s
  | .bytes bs => bs

/-- A signing secret: text, or a string with a lone surrogate. -/
inductive Secret where
  | text (s : String)
  | surrogate

/-- `secret.encode("utf-8")`; a `UnicodeEncodeError` is a `ValueError`. -/
def Secret.encode : Secret → Except PyError (List UInt8)
  | .text s => .ok (utf8 s)
  | .surrogate => .error .valueError

/-- What SHA-256 computes. -/
structure Digest where
  bytes : List UInt8
  length_bytes : bytes.length = 32

/-! ### The header -/

/-- `_TOLERANCE_SECONDS`. -/
def toleranceSeconds : ℕ := 300

/-- `_SIG_HEADER`. -/
def sigHeader : String := "x-tripwire-signature"

/-- `_normalise_headers`. -/
def normaliseHeaders (headers : List (String × String)) : List (String × String) :=
  headers.map fun header => (lower header.1, header.2)

/-- `norm.get(name)`: of the headers of one name the dictionary has kept the last. -/
def getHeader (norm : List (String × String)) (name : String) : Option String :=
  norm.reverse.lookup name

/-- `[part.strip() for part in header_value.split(",")]`. -/
def headerParts (value : String) : List String :=
  (splitCommas value.toList).map fun part => String.ofList (stripChars part)

/-- Why a header value is not read. -/
inductive HeaderFault where
  | invalidTimestamp (part : String)
  | missingTimestamp
  | noSignatures
  deriving DecidableEq

/-- The loop of `_parse_signature_header`. -/
def readParts : List String → Option ℤ → List String → Except HeaderFault (Option ℤ × List String)
  | [], timestamp, signatures => .ok (timestamp, signatures)
  | part :: parts, timestamp, signatures =>
    if startsWith part "t=" then
      match int (dropChars 2 part) with
      | .error _ => .error (.invalidTimestamp part)
      | .ok n => readParts parts (some n) signatures
    else if startsWith part "v1=" then
      let sig := dropChars 3 part
      readParts parts timestamp (if sig = "" then signatures else signatures ++ [sig])
    else readParts parts timestamp signatures

/-- `_parse_signature_header`, which both sides have, up to the exceptions. -/
def parseHeader (value : String) : Except HeaderFault (ℤ × List String) :=
  match readParts (headerParts value) none [] with
  | .error fault => .error fault
  | .ok (none, _) => .error .missingTimestamp
  | .ok (some timestamp, signatures) =>
    if signatures = [] then .error .noSignatures else .ok (timestamp, signatures)

/-! ### The signature -/

section

variable (hmac : List UInt8 → List UInt8 → Digest)

/-- `hmac.new(key, content, hashlib.sha256).hexdigest()`. -/
def hexHmac (key content : List UInt8) : String := toHex (hmac key content).bytes

/-- `_compute_hmac`. -/
def computeHmac (secret : Secret) (content : List UInt8) : Except PyError String := do
  return hexHmac hmac (← secret.encode) content

/-- `f"{timestamp}.".encode("utf-8") + payload`. -/
def signedContent (timestamp : ℤ) (payload : Payload) : List UInt8 :=
  utf8 (toString timestamp ++ ".") ++ payload.encode

/-- `hmac.compare_digest`. -/
def compareDigest (a b : String) : Except PyError Bool :=
  if IsAscii a ∧ IsAscii b then .ok (a = b) else .error .typeError

/-- `any(hmac.compare_digest(expected, provided) for provided in signatures)`. -/
def anyDigest (expected : String) : List String → Except PyError Bool
  | [] => .ok false
  | provided :: signatures => do
    if ← compareDigest expected provided then return true else anyDigest expected signatures

/-! ### The server -/

/-- `_parse_signature_header` of the server. -/
def Server.parseSignatureHeader (value : String) : Except PyError (ℤ × List String) :=
  (parseHeader value).mapError fun _ => .valueError

/-- `verify_webhook`. -/
def verifyWebhook (payload : Payload) (headers : List (String × String)) (secret : Secret)
    (time : ℚ) : Except PyError Bool :=
  match getHeader (normaliseHeaders headers) sigHeader with
  | none => .ok false
  | some value =>
    if value = "" then .ok false
    else
      match Server.parseSignatureHeader value with
      | .error .valueError => .ok false
      | .error e => .error e
      | .ok (timestamp, signatures) =>
        if toleranceSeconds < ageOf time timestamp then .ok false
        else do
          let expected ← computeHmac hmac secret (signedContent timestamp payload)
          anyDigest expected signatures

/-! ### The SDK -/

/-- The messages of the `WebhookVerificationError`s. -/
inductive VerificationMessage where
  | missingHeader
  | malformed (fault : HeaderFault)
  /-- The message shows the age in seconds. -/
  | tooOld (age : String)
  | mismatch
  deriving DecidableEq

/-- `WebhookVerificationError`. -/
structure WebhookVerificationError where
  message : VerificationMessage
  reason : String
  deriving DecidableEq

/-- What the SDK raises: its own exception, or one of Python's. -/
inductive SdkError where
  | verification (e : WebhookVerificationError)
  | other (e : PyError)
  deriving DecidableEq

/-- A call that raises no exception of the SDK. -/
def SdkError.lift {α : Type} (x : Except PyError α) : Except SdkError α := x.mapError .other

/-- `_parse_signature_header` of the SDK. -/
def Sdk.parseSignatureHeader (value : String) : Except SdkError (ℤ × List String) :=
  (parseHeader value).mapError fun fault =>
    .verification ⟨.malformed fault, "malformed_signature_header"⟩

/-- `_verify_internal`. -/
def verifyInternal (payload : Payload) (norm : List (String × String)) (secret : Secret)
    (time : ℚ) : Except SdkError Unit :=
  let missing : SdkError := .verification ⟨.missingHeader, "missing_signature_header"⟩
  match getHeader norm sigHeader with
  | none => .error missing
  | some value =>
    if value = "" then .error missing
    else do
      let (timestamp, signatures) ← Sdk.parseSignatureHeader value
      let age := ageOf time timestamp
      if toleranceSeconds < age then
        -- the text of the age is part of the message
        let shown ← SdkError.lift (strOfInt age)
        .error (.verification ⟨.tooOld shown, "timestamp_too_old"⟩)
      else
        let expected ← SdkError.lift (computeHmac hmac secret (signedContent timestamp payload))
        let verified ← SdkError.lift (anyDigest expected signatures)
        if verified then return () else .error (.verification ⟨.mismatch, "signature_mismatch"⟩)

/-- `verify_webhook_signature`. -/
def verifyWebhookSignature (payload : Payload) (headers : List (String × String))
    (secret : Secret) (time : ℚ) : Except SdkError Bool := do
  verifyInternal hmac payload (normaliseHeaders headers) secret time
  return true

/-- `verify_webhook_signature_safe`. -/
def verifyWebhookSignatureSafe (payload : Payload) (headers : List (String × String))
    (secret : Secret) (time : ℚ) : Except PyError Bool :=
  match verifyWebhookSignature hmac payload headers secret time with
  | .ok verified => .ok verified
  | .error (.verification _) => .ok false
  | .error (.other e) => .error e

/-- `sign_payload`, where `uuid4` has returned `messageId`. -/
def signPayload (payload : Payload) (secret : Secret) (time : ℚ) (messageId : String) :
    Except PyError (List (String × String)) := do
  let ts ← strOfInt (wholeSeconds time)
  let sig ← computeHmac hmac secret (utf8 (ts ++ ".") ++ payload.encode)
  return [("X-TripWire-ID", messageId), ("X-TripWire-Timestamp", ts),
    ("X-TripWire-Signature", "t=" ++ ts ++ ",v1=" ++ sig)]

end

/-! ### What a header value says -/

/-- What follows the word in the parts that start with it. -/
def textsAfter (word : String) (parts : List String) : List String :=
  (parts.filter (startsWith · word)).map (dropChars word.length)

/-- The texts after `t=`. -/
def timestampTexts : List String → List String := textsAfter "t="

/-- The texts after `v1=` that are not empty. -/
def signatureTexts (parts : List String) : List String :=
  (textsAfter "v1=" parts).filter (· ≠ "")

/-- The value gives a timestamp, which is the last of them, and signatures. -/
structure HeaderReads (value : String) (timestamp : ℤ) (signatures : List String) : Prop where
  integers : ∀ text ∈ timestampTexts (headerParts value), ∃ n, int text = .ok n
  last : ∃ text, (timestampTexts (headerParts value)).getLast? = some text ∧
    int text = .ok timestamp
  texts : signatureTexts (headerParts value) = signatures
  signed : signatures ≠ []

/-- A part is not both. -/
theorem not_startsWith_v1 {part : String} (h : startsWith part "t=" = true) :
    startsWith part "v1=" = false := by
  rw [startsWith] at h ⊢
  cases hpart : part.toList with
  | nil => rfl
  | cons c cs =>
    rw [hpart] at h
    obtain ⟨rfl, -⟩ : 't' = c ∧ _ := by simpa using h
    rfl

theorem textsAfter_cons (word part : String) (parts : List String) :
    textsAfter word (part :: parts) =
      if startsWith part word = true then dropChars word.length part :: textsAfter word parts
      else textsAfter word parts := by
  rw [textsAfter, List.filter_cons]
  split_ifs with h
  · rfl
  · rfl

theorem timestampTexts_cons (part : String) (parts : List String) :
    timestampTexts (part :: parts) =
      if startsWith part "t=" = true then dropChars 2 part :: timestampTexts parts
      else timestampTexts parts :=
  textsAfter_cons "t=" part parts

theorem signatureTexts_cons (part : String) (parts : List String) :
    signatureTexts (part :: parts) =
      if startsWith part "v1=" = true then
        if dropChars 3 part = "" then signatureTexts parts
        else dropChars 3 part :: signatureTexts parts
      else signatureTexts parts := by
  rw [signatureTexts, textsAfter_cons, show "v1=".length = 3 from rfl]
  split_ifs with h hempty
  · exact List.filter_cons_of_neg (by simpa using hempty)
  · exact List.filter_cons_of_pos (by simpa using hempty)
  · rfl

/-- The timestamp after the loop: that of the last text, or the one from before. -/
def lastTimestamp (before : Option ℤ) (texts : List String) : Option ℤ :=
  texts.getLast?.elim before fun text => (int text).toOption

theorem lastTimestamp_cons {before : Option ℤ} {text : String} {n : ℤ} (h : int text = .ok n)
    (texts : List String) :
    lastTimestamp before (text :: texts) = lastTimestamp (some n) texts := by
  unfold lastTimestamp
  cases texts with
  | nil =>
    show (int text).toOption = some n
    rw [h]
    rfl
  | cons text' texts => rw [List.getLast?_cons_cons]; rfl

/-- **The loop**: it returns just if every timestamp is an integer, and then it has collected what
`HeaderReads` names. -/
theorem readParts_eq_ok_iff (parts : List String) (timestamp : Option ℤ)
    (signatures : List String) (timestamp' : Option ℤ) (signatures' : List String) :
    readParts parts timestamp signatures = .ok (timestamp', signatures') ↔
      (∀ text ∈ timestampTexts parts, ∃ n, int text = .ok n) ∧
        lastTimestamp timestamp (timestampTexts parts) = timestamp' ∧
        signatures ++ signatureTexts parts = signatures' := by
  induction parts generalizing timestamp signatures with
  | nil => simp [readParts, timestampTexts, signatureTexts, textsAfter, lastTimestamp]
  | cons part parts ih =>
    rw [readParts, timestampTexts_cons, signatureTexts_cons]
    by_cases ht : startsWith part "t=" = true
    · have hv : ¬startsWith part "v1=" = true := by simp [not_startsWith_v1 ht]
      rw [if_pos ht, if_pos ht, if_neg hv, List.forall_mem_cons]
      cases hint : int (dropChars 2 part) with
      | error e => simp
      | ok n =>
        rw [lastTimestamp_cons hint]
        simpa using ih (some n) signatures
    · rw [if_neg ht, if_neg ht]
      by_cases hv : startsWith part "v1=" = true
      · rw [if_pos hv, if_pos hv, ih]
        split_ifs with hempty
        · rfl
        · rw [List.append_assoc, List.singleton_append]
      · rw [if_neg hv, if_neg hv, ih]

theorem lastTimestamp_eq_some_iff {texts : List String} {timestamp : ℤ} :
    lastTimestamp none texts = some timestamp ↔
      ∃ text, texts.getLast? = some text ∧ int text = .ok timestamp := by
  have htoOption (text : String) :
      (int text).toOption = some timestamp ↔ int text = .ok timestamp := by
    cases int text with
    | error e => exact iff_of_false (by simp [Except.toOption]) (by simp)
    | ok n => simp [Except.toOption]
  rw [lastTimestamp]
  cases texts.getLast? with
  | none => simp
  | some text => simp [htoOption]

/-- **The parser**: what it returns is what the value says. -/
theorem parseHeader_eq_ok_iff {value : String} {timestamp : ℤ} {signatures : List String} :
    parseHeader value = .ok (timestamp, signatures) ↔ HeaderReads value timestamp signatures := by
  have hparse : parseHeader value = .ok (timestamp, signatures) ↔
      readParts (headerParts value) none [] = .ok (some timestamp, signatures) ∧
        signatures ≠ [] := by
    rw [parseHeader]
    cases readParts (headerParts value) none [] with
    | error fault => simp
    | ok read =>
      obtain ⟨last, texts⟩ := read
      cases last with
      | none => simp
      | some n =>
        dsimp only
        simp only [Except.ok.injEq, Prod.mk.injEq, Option.some.injEq]
        split_ifs with hempty
        · exact iff_of_false (by simp) fun h => h.2 (h.1.2 ▸ hempty)
        · rw [Except.ok.injEq, Prod.mk.injEq]
          exact ⟨fun h => ⟨h, h.2 ▸ hempty⟩, fun h => h.1⟩
  rw [hparse, readParts_eq_ok_iff, lastTimestamp_eq_some_iff, List.nil_append]
  constructor
  · rintro ⟨⟨hintegers, hlast, htexts⟩, hsigned⟩
    exact ⟨hintegers, hlast, htexts, hsigned⟩
  · rintro ⟨hintegers, hlast, htexts, hsigned⟩
    exact ⟨⟨hintegers, hlast, htexts⟩, hsigned⟩

/-- The value of the last header of the name, in any case. -/
def SignatureHeader (headers : List (String × String)) (value : String) : Prop :=
  ∃ before name after, headers = before ++ (name, value) :: after ∧ lower name = sigHeader ∧
    ∀ header ∈ after, lower header.1 ≠ sigHeader

theorem getHeader_eq_some_iff {headers : List (String × String)} {value : String} :
    getHeader (normaliseHeaders headers) sigHeader = some value ↔
      SignatureHeader headers value := by
  rw [getHeader, normaliseHeaders, ← List.map_reverse, List.lookup_eq_some_iff]
  constructor
  · rintro ⟨l₁, l₂, hsplit, hfirst⟩
    obtain ⟨after, rest, hheaders, rfl, hrest⟩ := List.map_eq_append_iff.mp hsplit
    obtain ⟨header, before, rfl, hheader, rfl⟩ := List.map_eq_cons_iff.mp hrest
    obtain ⟨hname, hvalue⟩ := Prod.mk.inj hheader
    refine ⟨before.reverse, header.1, after.reverse, ?_, hname, ?_⟩
    · rw [← List.reverse_reverse headers, hheaders, ← hvalue]
      simp
    · intro other hother hlower
      have hne := hfirst _ (List.mem_map_of_mem (List.mem_reverse.mp hother))
      exact absurd hlower.symm (by simpa using hne)
  · rintro ⟨before, name, after, rfl, hname, hafter⟩
    refine ⟨after.reverse.map fun header => (lower header.1, header.2),
      before.reverse.map fun header => (lower header.1, header.2), ?_, ?_⟩
    · simp [hname]
    · intro header hheader
      obtain ⟨other, hother, rfl⟩ := List.mem_map.mp hheader
      simpa using (hafter other (List.mem_reverse.mp hother)).symm

/-! ### The comparison -/

/-- A signature outside ASCII comes before the expected one, if that comes at all. -/
def ForeignFirst (expected : String) (signatures : List String) : Prop :=
  ∃ before foreign after, signatures = before ++ foreign :: after ∧ ¬IsAscii foreign ∧
    expected ∉ before

theorem foreignFirst_iff_reaches {expected : String} {signatures : List String} :
    ForeignFirst expected signatures ↔
      Search.Reaches (¬IsAscii ·) (expected = ·) signatures := by
  simp only [ForeignFirst, Search.Reaches, List.forall_mem_ne]

theorem foreignFirst_cons {expected provided : String} {signatures : List String} :
    ForeignFirst expected (provided :: signatures) ↔
      ¬IsAscii provided ∨ expected ≠ provided ∧ ForeignFirst expected signatures := by
  rw [foreignFirst_iff_reaches, foreignFirst_iff_reaches, Search.reaches_cons_iff]

/-- Signatures in ASCII are compared one by one. -/
theorem not_foreignFirst_of_forall {expected : String} {signatures : List String}
    (h : ∀ signature ∈ signatures, IsAscii signature) : ¬ForeignFirst expected signatures := by
  rintro ⟨before, foreign, after, rfl, hforeign, -⟩
  exact hforeign (h foreign (by simp))

/-- **The comparison** raises just if it comes to a signature outside ASCII, and finds the expected
one otherwise. -/
theorem anyDigest_spec {expected : String} (hexpected : IsAscii expected)
    (signatures : List String) :
    (ForeignFirst expected signatures → anyDigest expected signatures = .error .typeError) ∧
      (¬ForeignFirst expected signatures →
        anyDigest expected signatures = .ok (decide (expected ∈ signatures))) := by
  induction signatures with
  | nil =>
    rw [foreignFirst_iff_reaches]
    exact ⟨fun h => absurd h Search.not_reaches_nil, fun _ => rfl⟩
  | cons provided signatures ih =>
    rw [foreignFirst_cons, anyDigest, compareDigest]
    by_cases hprovided : IsAscii provided
    · rw [if_pos ⟨hexpected, hprovided⟩]
      by_cases heq : expected = provided
      · exact ⟨fun h => (h.elim (· hprovided) fun h => h.1 heq).elim, fun _ => by simp [heq]; rfl⟩
      · have hrun : (do
            if ← (Except.ok (decide (expected = provided)) : Except PyError Bool) then return true
            else anyDigest expected signatures) = anyDigest expected signatures := by
          rw [decide_eq_false heq]
          rfl
        rw [hrun]
        refine ⟨fun h => ih.1 ?_, fun h => ?_⟩
        · exact (h.resolve_left (not_not_intro hprovided)).2
        · rw [ih.2 fun hforeign => h (.inr ⟨heq, hforeign⟩)]
          simp [heq]
    · rw [if_neg fun h => hprovided h.2]
      exact ⟨fun _ => rfl, fun h => absurd (.inl hprovided) h⟩

/-- Hexadecimal digits are ASCII. -/
theorem isAscii_hexHmac (hmac : List UInt8 → List UInt8 → Digest) (key content : List UInt8) :
    IsAscii (hexHmac hmac key content) := by
  intro c hc
  obtain ⟨d, hd, rfl⟩ := hexDigit_of_mem hc
  have hascii := (isHexOutput_hexDigit hd).ascii
  rw [asciiHexValue] at hascii
  split_ifs at hascii with hrange
  exact hrange

section

variable (hmac : List UInt8 → List UInt8 → Digest) (payload : Payload) (secret : Secret)

/-- Steps four and five of both verifiers: the expected signature, and the comparison. -/
def compareSignatures (timestamp : ℤ) (signatures : List String) : Except PyError Bool := do
  anyDigest (← computeHmac hmac secret (signedContent timestamp payload)) signatures

variable {hmac payload secret}

/-- The comparison of a secret that encodes. -/
theorem compareSignatures_of_encode {key : List UInt8} (hkey : secret.encode = .ok key)
    (timestamp : ℤ) (signatures : List String) :
    compareSignatures hmac payload secret timestamp signatures =
      anyDigest (hexHmac hmac key (signedContent timestamp payload)) signatures := by
  rw [compareSignatures, computeHmac, hkey]
  rfl

/-- When the comparison returns. -/
theorem compareSignatures_returns_iff {timestamp : ℤ} {signatures : List String} :
    (∃ verified, compareSignatures hmac payload secret timestamp signatures = .ok verified) ↔
      ∃ key, secret.encode = .ok key ∧
        ¬ForeignFirst (hexHmac hmac key (signedContent timestamp payload)) signatures := by
  cases hkey : secret.encode with
  | error e =>
    have hraised : compareSignatures hmac payload secret timestamp signatures = .error e := by
      rw [compareSignatures, computeHmac, hkey]
      rfl
    simp [hraised]
  | ok key =>
    rw [compareSignatures_of_encode hkey]
    have hspec := anyDigest_spec (isAscii_hexHmac hmac key (signedContent timestamp payload))
      signatures
    by_cases hforeign : ForeignFirst (hexHmac hmac key (signedContent timestamp payload)) signatures
    · simp [hspec.1 hforeign, hforeign]
    · exact iff_of_true ⟨_, hspec.2 hforeign⟩ ⟨key, rfl, hforeign⟩

/-- What it returns. -/
theorem compareSignatures_true_iff {timestamp : ℤ} {signatures : List String} {verified : Bool}
    (h : compareSignatures hmac payload secret timestamp signatures = .ok verified) :
    verified = true ↔ ∃ key, secret.encode = .ok key ∧
      hexHmac hmac key (signedContent timestamp payload) ∈ signatures := by
  obtain ⟨key, hkey, hforeign⟩ := compareSignatures_returns_iff.mp ⟨verified, h⟩
  have hreturned := (anyDigest_spec
    (isAscii_hexHmac hmac key (signedContent timestamp payload)) signatures).2 hforeign
  rw [compareSignatures_of_encode hkey] at h
  have hverified : verified = decide _ := Except.ok.inj (h.symm.trans hreturned)
  rw [hverified, decide_eq_true_eq, hkey]
  exact ⟨fun hmem => ⟨key, rfl, hmem⟩, fun ⟨key', hkey', hmem⟩ => Except.ok.inj hkey' ▸ hmem⟩

/-! ### The two verifiers -/

/-- The headers name a timestamp and signatures. -/
def HeadersRead (headers : List (String × String)) (timestamp : ℤ) (signatures : List String) :
    Prop :=
  ∃ value, SignatureHeader headers value ∧ HeaderReads value timestamp signatures

/-- An empty value says nothing. -/
theorem not_headerReads_empty (timestamp : ℤ) (signatures : List String) :
    ¬HeaderReads "" timestamp signatures := by
  rintro ⟨-, ⟨text, htext, -⟩, -⟩
  have hnone : timestampTexts (headerParts "") = [] := by decide
  rw [hnone] at htext
  exact absurd htext (by simp)

theorem headersRead_iff {headers : List (String × String)} {timestamp : ℤ}
    {signatures : List String} :
    HeadersRead headers timestamp signatures ↔
      ∃ value, getHeader (normaliseHeaders headers) sigHeader = some value ∧ value ≠ "" ∧
        parseHeader value = .ok (timestamp, signatures) := by
  simp only [getHeader_eq_some_iff, parseHeader_eq_ok_iff]
  constructor
  · rintro ⟨value, hvalue, hreads⟩
    refine ⟨value, hvalue, ?_, hreads⟩
    rintro rfl
    exact not_headerReads_empty _ _ hreads
  · rintro ⟨value, hvalue, -, hreads⟩
    exact ⟨value, hvalue, hreads⟩

/-- Without them the server answers `False`. -/
theorem verifyWebhook_of_not_read {headers : List (String × String)}
    (h : ∀ timestamp signatures, ¬HeadersRead headers timestamp signatures) (time : ℚ) :
    verifyWebhook hmac payload headers secret time = .ok false := by
  rw [verifyWebhook]
  cases hvalue : getHeader (normaliseHeaders headers) sigHeader with
  | none => rfl
  | some value =>
    dsimp only
    split_ifs with hempty
    · rfl
    · rw [Server.parseSignatureHeader]
      cases hparse : parseHeader value with
      | error fault => rfl
      | ok read => exact absurd (headersRead_iff.mpr ⟨value, hvalue, hempty, hparse⟩) (h _ _)

/-- With them it compares the signatures, unless the timestamp is too old. -/
theorem verifyWebhook_of_read {headers : List (String × String)} {timestamp : ℤ}
    {signatures : List String} (h : HeadersRead headers timestamp signatures) (time : ℚ) :
    verifyWebhook hmac payload headers secret time =
      if toleranceSeconds < ageOf time timestamp then .ok false
      else compareSignatures hmac payload secret timestamp signatures := by
  obtain ⟨value, hvalue, hne, hparse⟩ := headersRead_iff.mp h
  rw [verifyWebhook, hvalue]
  dsimp only
  rw [if_neg hne, Server.parseSignatureHeader, hparse]
  rfl

/-- Without them the SDK raises its exception. -/
theorem verifyWebhookSignature_of_not_read {headers : List (String × String)}
    (h : ∀ timestamp signatures, ¬HeadersRead headers timestamp signatures) (time : ℚ) :
    ∃ e, verifyWebhookSignature hmac payload headers secret time = .error (.verification e) := by
  rw [verifyWebhookSignature, verifyInternal]
  cases hvalue : getHeader (normaliseHeaders headers) sigHeader with
  | none => exact ⟨_, rfl⟩
  | some value =>
    dsimp only
    split_ifs with hempty
    · exact ⟨_, rfl⟩
    · rw [Sdk.parseSignatureHeader]
      cases hparse : parseHeader value with
      | error fault => exact ⟨_, rfl⟩
      | ok read => exact absurd (headersRead_iff.mpr ⟨value, hvalue, hempty, hparse⟩) (h _ _)

/-- What the SDK does with the result of the comparison. -/
def Sdk.conclude : Except PyError Bool → Except SdkError Bool
  | .ok true => .ok true
  | .ok false => .error (.verification ⟨.mismatch, "signature_mismatch"⟩)
  | .error e => .error (.other e)

/-- With them it compares the signatures, unless the timestamp is too old; the age is shown then. -/
theorem verifyWebhookSignature_of_read {headers : List (String × String)} {timestamp : ℤ}
    {signatures : List String} (h : HeadersRead headers timestamp signatures) (time : ℚ) :
    verifyWebhookSignature hmac payload headers secret time =
      if toleranceSeconds < ageOf time timestamp then
        (SdkError.lift (strOfInt (ageOf time timestamp))).bind fun shown =>
          .error (.verification ⟨.tooOld shown, "timestamp_too_old"⟩)
      else Sdk.conclude (compareSignatures hmac payload secret timestamp signatures) := by
  obtain ⟨value, hvalue, hne, hparse⟩ := headersRead_iff.mp h
  rw [verifyWebhookSignature, verifyInternal, hvalue]
  dsimp only
  rw [if_neg hne, Sdk.parseSignatureHeader, hparse]
  simp only [Except.mapError, bind, Except.bind]
  by_cases hold : toleranceSeconds < ageOf time timestamp
  · rw [if_pos hold, if_pos hold]
    cases strOfInt (ageOf time timestamp) with
    | error e => rfl
    | ok shown => rfl
  · rw [if_neg hold, if_neg hold, compareSignatures]
    cases computeHmac hmac secret (signedContent timestamp payload) with
    | error e => rfl
    | ok expected =>
      show _ = Sdk.conclude (anyDigest expected signatures)
      simp only [SdkError.lift, Except.mapError]
      cases anyDigest expected signatures with
      | error e => rfl
      | ok verified =>
        cases verified with
        | false => rfl
        | true => rfl

theorem headersRead_unique {headers : List (String × String)} {timestamp timestamp' : ℤ}
    {signatures signatures' : List String} (h : HeadersRead headers timestamp signatures)
    (h' : HeadersRead headers timestamp' signatures') :
    timestamp = timestamp' ∧ signatures = signatures' := by
  obtain ⟨value, hvalue, -, hparse⟩ := headersRead_iff.mp h
  obtain ⟨value', hvalue', -, hparse'⟩ := headersRead_iff.mp h'
  obtain rfl : value = value' := Option.some_injective _ (hvalue.symm.trans hvalue')
  exact Prod.mk.inj (Except.ok.inj (hparse.symm.trans hparse'))

/-- The safe variant, for a timestamp that is not too old. -/
theorem verifyWebhookSignatureSafe_of_fresh {headers : List (String × String)} {timestamp : ℤ}
    {signatures : List String} (h : HeadersRead headers timestamp signatures) {time : ℚ}
    (hfresh : ¬toleranceSeconds < ageOf time timestamp) :
    verifyWebhookSignatureSafe hmac payload headers secret time =
      compareSignatures hmac payload secret timestamp signatures := by
  rw [verifyWebhookSignatureSafe, verifyWebhookSignature_of_read h, if_neg hfresh]
  cases compareSignatures hmac payload secret timestamp signatures with
  | error e => rfl
  | ok verified =>
    cases verified with
    | false => rfl
    | true => rfl

/-- The age of the timestamp has more digits than can be shown. -/
def FarTimestamp (headers : List (String × String)) (time : ℚ) : Prop :=
  ∃ timestamp signatures, HeadersRead headers timestamp signatures ∧
    10 ^ maxStrDigits ≤ ageOf time timestamp

/-- **Agreement**: the safe variant of the SDK does what the server does, exceptions included, as
long as the age can be shown. -/
theorem verifyWebhookSignatureSafe_eq {headers : List (String × String)} {time : ℚ}
    (hfar : ¬FarTimestamp headers time) :
    verifyWebhookSignatureSafe hmac payload headers secret time =
      verifyWebhook hmac payload headers secret time := by
  by_cases hread : ∃ timestamp signatures, HeadersRead headers timestamp signatures
  · obtain ⟨timestamp, signatures, hread⟩ := hread
    rw [verifyWebhook_of_read hread]
    split_ifs with hold
    · have hshown : strOfInt (ageOf time timestamp) =
          .ok (toString (ageOf time timestamp : ℤ)) := by
        refine if_pos ?_
        rw [Int.natAbs_natCast]
        exact not_le.mp fun hage => hfar ⟨timestamp, signatures, hread, hage⟩
      rw [verifyWebhookSignatureSafe, verifyWebhookSignature_of_read hread, if_pos hold, hshown]
      rfl
    · exact verifyWebhookSignatureSafe_of_fresh hread hold
  · simp only [not_exists] at hread
    have hraised : ∃ e, verifyWebhookSignature hmac payload headers secret time =
        .error (.verification e) := verifyWebhookSignature_of_not_read hread time
    obtain ⟨e, he⟩ := hraised
    rw [verifyWebhookSignatureSafe, he, verifyWebhook_of_not_read hread]

/-- Otherwise the server answers `False`, and the SDK raises a `ValueError`. -/
theorem verify_of_farTimestamp {headers : List (String × String)} {time : ℚ}
    (hfar : FarTimestamp headers time) :
    verifyWebhook hmac payload headers secret time = .ok false ∧
      verifyWebhookSignatureSafe hmac payload headers secret time = .error .valueError := by
  obtain ⟨timestamp, signatures, hread, hage⟩ := hfar
  have htolerance : toleranceSeconds < 10 ^ maxStrDigits :=
    (show toleranceSeconds < 10 ^ 3 by decide).trans_le
      (Nat.pow_le_pow_right (by decide) (by decide))
  have hold : toleranceSeconds < ageOf time timestamp := htolerance.trans_le hage
  have hshown : strOfInt (ageOf time timestamp) = .error .valueError := by
    refine if_neg ?_
    rw [Int.natAbs_natCast]
    exact not_lt.mpr hage
  constructor
  · rw [verifyWebhook_of_read hread, if_pos hold]
  · rw [verifyWebhookSignatureSafe, verifyWebhookSignature_of_read hread, if_pos hold, hshown]
    rfl

/-- The safe variant returns if the other raises nothing but the exception of the SDK. -/
theorem verifyWebhookSignatureSafe_returns_iff {headers : List (String × String)} {time : ℚ} :
    (∃ verified, verifyWebhookSignatureSafe hmac payload headers secret time = .ok verified) ↔
      ∀ e, verifyWebhookSignature hmac payload headers secret time = .error e →
        ∃ failure, e = .verification failure := by
  rw [verifyWebhookSignatureSafe]
  cases verifyWebhookSignature hmac payload headers secret time with
  | ok verified => simp
  | error e =>
    cases e with
    | verification failure => simp
    | other e => simp

/-! ### What a valid signature is -/

variable (hmac payload secret) in
/-- The headers are read, the timestamp is within the tolerance, and one of the signatures is the
HMAC of the timestamp and the body. -/
def Verifies (headers : List (String × String)) (time : ℚ) : Prop :=
  ∃ timestamp signatures, HeadersRead headers timestamp signatures ∧
    ageOf time timestamp ≤ toleranceSeconds ∧ ∃ key, secret.encode = .ok key ∧
      hexHmac hmac key (signedContent timestamp payload) ∈ signatures

theorem verifies_iff_of_read {headers : List (String × String)} {timestamp : ℤ}
    {signatures : List String} (h : HeadersRead headers timestamp signatures) (time : ℚ) :
    Verifies hmac payload secret headers time ↔
      ageOf time timestamp ≤ toleranceSeconds ∧ ∃ key, secret.encode = .ok key ∧
        hexHmac hmac key (signedContent timestamp payload) ∈ signatures := by
  constructor
  · rintro ⟨timestamp', signatures', h', hverifies⟩
    obtain ⟨rfl, rfl⟩ := headersRead_unique h h'
    exact hverifies
  · exact fun hverifies => ⟨timestamp, signatures, h, hverifies⟩

variable (hmac payload secret) in
/-- No step of a verification raises: the age can be shown and, for a timestamp within the
tolerance, the secret encodes and no signature outside ASCII comes before the expected one. -/
def NothingRaises (headers : List (String × String)) (time : ℚ) : Prop :=
  ∀ timestamp signatures, HeadersRead headers timestamp signatures →
    ageOf time timestamp < 10 ^ maxStrDigits ∧
      (ageOf time timestamp ≤ toleranceSeconds → ∃ key, secret.encode = .ok key ∧
        ¬ForeignFirst (hexHmac hmac key (signedContent timestamp payload)) signatures)

theorem not_farTimestamp {headers : List (String × String)} {time : ℚ}
    (h : NothingRaises hmac payload secret headers time) : ¬FarTimestamp headers time := by
  rintro ⟨timestamp, signatures, hread, hage⟩
  exact absurd (h timestamp signatures hread).1 (not_lt.mpr hage)

/-- Where nothing raises, the server's answer says whether the signature is valid. -/
theorem verifyWebhook_spec {headers : List (String × String)} {time : ℚ}
    (h : NothingRaises hmac payload secret headers time) :
    ∃ verified, verifyWebhook hmac payload headers secret time = .ok verified ∧
      (verified = true ↔ Verifies hmac payload secret headers time) := by
  by_cases hread : ∃ timestamp signatures, HeadersRead headers timestamp signatures
  · obtain ⟨timestamp, signatures, hread⟩ := hread
    rw [verifyWebhook_of_read hread, verifies_iff_of_read hread]
    split_ifs with hold
    · exact ⟨false, rfl, iff_of_false Bool.false_ne_true fun hfresh => absurd hfresh.1 (by omega)⟩
    · have hfresh : ageOf time timestamp ≤ toleranceSeconds := not_lt.mp hold
      obtain ⟨verified, hverified⟩ :=
        compareSignatures_returns_iff.mpr ((h timestamp signatures hread).2 hfresh)
      refine ⟨verified, hverified, ?_⟩
      rw [compareSignatures_true_iff hverified, and_iff_right hfresh]
  · simp only [not_exists] at hread
    refine ⟨false, verifyWebhook_of_not_read hread time, iff_of_false Bool.false_ne_true ?_⟩
    rintro ⟨timestamp, signatures, hreads, -⟩
    exact hread timestamp signatures hreads

/-- Where something raises, one of the two verifiers does. -/
theorem nothingRaises_of_returns {headers : List (String × String)} {time : ℚ}
    (hserver : ∃ verified, verifyWebhook hmac payload headers secret time = .ok verified)
    (hsafe : ∃ verified, verifyWebhookSignatureSafe hmac payload headers secret time =
      .ok verified) : NothingRaises hmac payload secret headers time := by
  intro timestamp signatures hread
  constructor
  · by_contra hfar
    obtain ⟨verified, hverified⟩ := hsafe
    have hraised : verifyWebhookSignatureSafe hmac payload headers secret time =
        .error .valueError :=
      (verify_of_farTimestamp ⟨timestamp, signatures, hread, not_lt.mp hfar⟩).2
    exact absurd (hraised.symm.trans hverified) (by simp)
  · intro hfresh
    rw [verifyWebhook_of_read hread, if_neg (not_lt.mpr hfresh)] at hserver
    exact compareSignatures_returns_iff.mp hserver

end

/-- **Exactly when verification does not raise.**  Both verifiers return a boolean, which says
whether the signature is valid, and `verify_webhook_signature` raises nothing but
`WebhookVerificationError`, just if the age of the timestamp has at most 4300 digits and, for a
timestamp within the tolerance, the secret encodes and no signature outside ASCII comes before the
expected one. -/
theorem verify_never_raises_iff (hmac : List UInt8 → List UInt8 → Digest) (payload : Payload)
    (headers : List (String × String)) (secret : Secret) (time : ℚ) :
    ((∃ verified, verifyWebhook hmac payload headers secret time = .ok verified ∧
        (verified = true ↔ Verifies hmac payload secret headers time)) ∧
      (∃ verified, verifyWebhookSignatureSafe hmac payload headers secret time = .ok verified ∧
        (verified = true ↔ Verifies hmac payload secret headers time)) ∧
      ∀ e, verifyWebhookSignature hmac payload headers secret time = .error e →
        ∃ failure, e = .verification failure) ↔
      NothingRaises hmac payload secret headers time := by
  constructor
  · rintro ⟨⟨served, hserved, -⟩, ⟨verified, hverified, -⟩, -⟩
    exact nothingRaises_of_returns ⟨served, hserved⟩ ⟨verified, hverified⟩
  · intro h
    have hserver := verifyWebhook_spec h
    have hsafe := hserver
    rw [← verifyWebhookSignatureSafe_eq (not_farTimestamp h)] at hsafe
    obtain ⟨verified, hverified, -⟩ := id hsafe
    exact ⟨hserver, hsafe, verifyWebhookSignatureSafe_returns_iff.mp ⟨verified, hverified⟩⟩

namespace Sample

/-- A digest for every content: that of `1700000000.{}` under the key `whsec`. -/
def hmac (_ _ : List UInt8) : Digest where
  bytes := [125, 68, 88, 125, 221, 186, 244, 199, 247, 15, 239, 32, 244, 140, 213, 148, 131, 79,
    254, 161, 100, 30, 58, 194, 39, 184, 68, 8, 41, 135, 56, 175]
  length_bytes := by decide

end Sample

/-- A signature outside ASCII makes both verifiers raise a `TypeError`. -/
theorem verify_raises_foreign :
    ¬∀ (hmac : List UInt8 → List UInt8 → Digest) (payload : Payload)
      (headers : List (String × String)) (secret : Secret) (time : ℚ),
      (∃ verified, verifyWebhook hmac payload headers secret time = .ok verified) ∧
        (∃ verified, verifyWebhookSignatureSafe hmac payload headers secret time =
          .ok verified) := by
  intro hreturns
  have hraised : verifyWebhook Sample.hmac (.text "\x7b\x7d")
      [("X-TripWire-Signature", "t=1700000000,v1=é")] (.text "whsec") 1700000000 =
        .error .typeError := by decide +kernel
  obtain ⟨verified, hverified⟩ := (hreturns Sample.hmac (.text "\x7b\x7d")
    [("X-TripWire-Signature", "t=1700000000,v1=é")] (.text "whsec") 1700000000).1
  exact absurd (hraised.symm.trans hverified) (by simp)

/-! ### Headers in ASCII -/

theorem isAscii_append {a b : String} (ha : IsAscii a) (hb : IsAscii b) : IsAscii (a ++ b) := by
  intro c hc
  rw [String.toList_append, List.mem_append] at hc
  exact hc.elim (ha c) (hb c)

theorem isAscii_stripChars {cs : List Char} (h : ∀ c ∈ cs, c.toNat < 128) :
    IsAscii (String.ofList (stripChars cs)) := by
  intro c hc
  rw [String.toList_ofList] at hc
  exact h c (mem_of_mem_stripChars hc)

theorem isAscii_of_mem_headerParts {value : String} (h : IsAscii value) :
    ∀ part ∈ headerParts value, IsAscii part := by
  intro part hpart
  obtain ⟨cs, hcs, rfl⟩ := List.mem_map.mp hpart
  exact isAscii_stripChars fun c hc => h c (mem_of_mem_splitCommas hcs hc)

theorem isAscii_of_mem_signatureTexts {parts : List String} (h : ∀ part ∈ parts, IsAscii part) :
    ∀ text ∈ signatureTexts parts, IsAscii text := by
  intro text htext c hc
  obtain ⟨part, hpart, rfl⟩ := List.mem_map.mp (List.mem_of_mem_filter htext)
  rw [dropChars, String.toList_ofList] at hc
  exact h part (List.mem_of_mem_filter hpart) c (List.mem_of_mem_drop hc)

/-- The server accepts a signature in ASCII just if it is valid. -/
theorem verifyWebhook_iff {hmac : List UInt8 → List UInt8 → Digest} {payload : Payload}
    {headers : List (String × String)} {secret : Secret} {time : ℚ}
    (h : ∀ timestamp signatures, HeadersRead headers timestamp signatures →
      ∀ signature ∈ signatures, IsAscii signature) :
    verifyWebhook hmac payload headers secret time = .ok true ↔
      Verifies hmac payload secret headers time := by
  by_cases hread : ∃ timestamp signatures, HeadersRead headers timestamp signatures
  · obtain ⟨timestamp, signatures, hread⟩ := hread
    have hascii := h timestamp signatures hread
    rw [verifyWebhook_of_read hread, verifies_iff_of_read hread]
    split_ifs with hold
    · exact iff_of_false (by simp) fun hfresh => absurd hfresh.1 (by omega)
    · rw [and_iff_right (not_lt.mp hold)]
      cases hkey : secret.encode with
      | error e =>
        refine iff_of_false ?_ (by simp)
        rw [compareSignatures, computeHmac, hkey]
        exact fun h => nomatch h
      | ok key =>
        rw [compareSignatures_of_encode hkey, (anyDigest_spec (isAscii_hexHmac _ _ _) _).2
          (not_foreignFirst_of_forall hascii)]
        simp
  · simp only [not_exists] at hread
    rw [verifyWebhook_of_not_read hread]
    refine iff_of_false (by simp) ?_
    rintro ⟨timestamp, signatures, hreads, -⟩
    exact hread timestamp signatures hreads

/-- The two verifiers accept the same signatures. -/
theorem verifyWebhook_iff_safe {hmac : List UInt8 → List UInt8 → Digest} {payload : Payload}
    {headers : List (String × String)} {secret : Secret} {time : ℚ} :
    verifyWebhook hmac payload headers secret time = .ok true ↔
      verifyWebhookSignatureSafe hmac payload headers secret time = .ok true := by
  by_cases hfar : FarTimestamp headers time
  · obtain ⟨hserver, hsafe⟩ : verifyWebhook hmac payload headers secret time = .ok false ∧
        verifyWebhookSignatureSafe hmac payload headers secret time = .error .valueError :=
      verify_of_farTimestamp hfar
    rw [hserver, hsafe]
    simp
  · rw [verifyWebhookSignatureSafe_eq hfar]

/-! ### The round trip -/

/-- The `v1=` part of a signature. -/
def signatureEntry (signature : String) : List Char := ("v1=" ++ signature).toList

/-- The header value with further signatures, before and after those it has. -/
def addSignatures (before after : List String) (value : String) : String :=
  match splitCommas value.toList with
  | [] => value
  | timestamp :: signatures =>
    String.ofList ([','].intercalate
      (timestamp :: (before.map signatureEntry ++ signatures ++ after.map signatureEntry)))

/-- The headers with further signatures. -/
def rotate (before after : List String) (headers : List (String × String)) :
    List (String × String) :=
  headers.map fun header =>
    if header.1 = "X-TripWire-Signature" then (header.1, addSignatures before after header.2)
    else header

/-- A time and one at most five minutes later. -/
theorem ageOf_le {signedAt time : ℚ} (hsigned : 0 ≤ signedAt) (hlater : signedAt ≤ time)
    (hfresh : time ≤ signedAt + toleranceSeconds) :
    ageOf time (wholeSeconds signedAt) ≤ toleranceSeconds := by
  have hfloor {q : ℚ} (hq : 0 ≤ q) : wholeSeconds q = ⌊q⌋ := by
    rw [wholeSeconds, Int.tdiv_eq_ediv_of_nonneg (Rat.num_nonneg.mpr hq), Rat.floor_def']
  have hlo : ⌊signedAt⌋ ≤ ⌊time⌋ := Int.floor_le_floor hlater
  have hhi : ⌊time⌋ ≤ ⌊signedAt⌋ + toleranceSeconds := by
    have hfloors := Int.floor_le_floor hfresh
    rwa [Int.floor_add_natCast] at hfloors
  rw [ageOf, hfloor hsigned, hfloor (hsigned.trans hlater)]
  omega

/-- The parts of a signed header value with further signatures. -/
theorem headerParts_addSignatures {ts sig : String} (hts : ',' ∉ ts.toList)
    {before after : List String} (h : ∀ s ∈ before ++ sig :: after, ',' ∉ s.toList) :
    headerParts (addSignatures before after ("t=" ++ ts ++ ",v1=" ++ sig)) =
      (("t=" ++ ts).toList :: (before ++ sig :: after).map signatureEntry).map
        fun part => String.ofList (stripChars part) := by
  have hentry : ∀ s ∈ before ++ sig :: after, ',' ∉ signatureEntry s := by
    intro s hs
    rw [signatureEntry, String.toList_append, List.mem_append, not_or]
    exact ⟨by decide, h s hs⟩
  have htimestamp : ',' ∉ ("t=" ++ ts).toList := by
    rw [String.toList_append, List.mem_append, not_or]
    exact ⟨by decide, hts⟩
  have hvalue : ("t=" ++ ts ++ ",v1=" ++ sig).toList =
      ("t=" ++ ts).toList ++ ',' :: signatureEntry sig := by
    simp [signatureEntry]
  have hsplit : splitCommas ("t=" ++ ts ++ ",v1=" ++ sig).toList =
      [("t=" ++ ts).toList, signatureEntry sig] := by
    rw [hvalue, splitCommas_append htimestamp,
      splitCommas_of_not_mem (hentry sig (by simp))]
  rw [addSignatures, hsplit, headerParts]
  dsimp only
  rw [String.toList_ofList, splitCommas_intercalate]
  · simp
  · intro part hpart
    rw [List.mem_cons] at hpart
    obtain rfl | hpart := hpart
    · exact htimestamp
    · have hmem : part ∈ (before ++ sig :: after).map signatureEntry := by simpa using hpart
      obtain ⟨s, hs, rfl⟩ := List.mem_map.mp hmem
      exact hentry s hs

/-- A signature is no timestamp. -/
theorem not_startsWith_signatureEntry (s : String) :
    startsWith (String.ofList (stripChars (signatureEntry s))) "t=" = false := by
  have hentry : signatureEntry s = 'v' :: ("1=" ++ s).toList := by simp [signatureEntry]
  have hword : "t=".toList = ['t', '='] := rfl
  rw [startsWith, hword, hentry, String.toList_ofList, Bool.eq_false_iff]
  intro hprefix
  have hstart := stripChars_prefix (c := 'v') (by decide) ("1=" ++ s).toList
  have ht := (List.isPrefixOf_iff_prefix.mp hprefix).trans hstart
  exact absurd (List.cons_prefix_cons.mp ht).1 (by decide)

theorem noSpace_of_all {cs : List Char} (h : cs.all (fun c => !isSpace c) = true) :
    ∀ c ∈ cs, isSpace c = false := by
  intro c hc
  simpa using List.all_eq_true.mp h c hc

/-- The timestamp of a signed header value with further signatures. -/
theorem timestampTexts_signed {ts : String} (hts : ∀ c ∈ ts.toList, isSpace c = false)
    (signatures : List String) :
    timestampTexts ((("t=" ++ ts).toList :: signatures.map signatureEntry).map
      fun part => String.ofList (stripChars part)) = [ts] := by
  have hword : ∀ c ∈ "t=".toList, isSpace c = false := noSpace_of_all (by decide)
  have htight : ∀ c ∈ ("t=" ++ ts).toList, isSpace c = false := by
    intro c hc
    rw [String.toList_append, List.mem_append] at hc
    exact hc.elim (hword c) (hts c)
  have hstart : startsWith ("t=" ++ ts) "t=" = true := by
    rw [startsWith, String.toList_append]
    exact List.isPrefixOf_iff_prefix.mpr (List.prefix_append _ _)
  have htext : dropChars 2 ("t=" ++ ts) = ts := by
    rw [dropChars, String.toList_append]
    exact String.ofList_toList
  have hrest : textsAfter "t=" ((signatures.map signatureEntry).map
      fun part => String.ofList (stripChars part)) = [] := by
    rw [textsAfter, List.map_eq_nil_iff, List.filter_eq_nil_iff]
    intro part hpart
    obtain ⟨entry, hentry, rfl⟩ := List.mem_map.mp hpart
    obtain ⟨s, -, rfl⟩ := List.mem_map.mp hentry
    rw [not_startsWith_signatureEntry]
    exact Bool.false_ne_true
  rw [List.map_cons, stripChars_of_forall htight, String.ofList_toList, timestampTexts_cons,
    if_pos hstart, htext, timestampTexts, hrest]

/-- A signature without spaces is read as it is. -/
theorem mem_signatureTexts {sig : String} (hne : sig ≠ "")
    (hsig : ∀ c ∈ sig.toList, isSpace c = false) {parts : List (List Char)}
    (hmem : signatureEntry sig ∈ parts) :
    sig ∈ signatureTexts (parts.map fun part => String.ofList (stripChars part)) := by
  have hword : ∀ c ∈ "v1=".toList, isSpace c = false := noSpace_of_all (by decide)
  have htight : ∀ c ∈ signatureEntry sig, isSpace c = false := by
    intro c hc
    rw [signatureEntry, String.toList_append, List.mem_append] at hc
    exact hc.elim (hword c) (hsig c)
  have hstart : startsWith ("v1=" ++ sig) "v1=" = true := by
    rw [startsWith, String.toList_append]
    exact List.isPrefixOf_iff_prefix.mpr (List.prefix_append _ _)
  have htext : dropChars 3 ("v1=" ++ sig) = sig := by
    rw [dropChars, String.toList_append]
    exact String.ofList_toList
  refine List.mem_filter.mpr ⟨List.mem_map.mpr ⟨"v1=" ++ sig, ?_, htext⟩, decide_eq_true hne⟩
  refine List.mem_filter.mpr ⟨List.mem_map.mpr ⟨signatureEntry sig, hmem, ?_⟩, hstart⟩
  rw [stripChars_of_forall htight, signatureEntry, String.ofList_toList]

section

variable {hmac : List UInt8 → List UInt8 → Digest} {payload : Payload} {secret : Secret}

/-- What `sign_payload` has computed when it returns. -/
theorem signPayload_eq_ok {signedAt : ℚ} {messageId : String} {signed : List (String × String)}
    (h : signPayload hmac payload secret signedAt messageId = .ok signed) :
    (wholeSeconds signedAt).natAbs < 10 ^ maxStrDigits ∧ ∃ key, secret.encode = .ok key ∧
      signed = [("X-TripWire-ID", messageId),
        ("X-TripWire-Timestamp", toString (wholeSeconds signedAt)),
        ("X-TripWire-Signature", "t=" ++ toString (wholeSeconds signedAt) ++ ",v1=" ++
          hexHmac hmac key (signedContent (wholeSeconds signedAt) payload))] := by
  rw [signPayload] at h
  obtain ⟨ts, hts, h⟩ := bind_eq_ok_iff.mp h
  obtain ⟨sig, hsig, h⟩ := bind_eq_ok_iff.mp h
  obtain ⟨key, hkey, hsig⟩ := bind_eq_ok_iff.mp hsig
  rw [strOfInt] at hts
  split_ifs at hts with hshort
  obtain rfl := Except.ok.inj hts
  obtain rfl := Except.ok.inj hsig
  exact ⟨hshort, key, hkey, (Except.ok.inj h).symm⟩

/-- A text that a header value carries as it is. -/
structure IsToken (s : String) : Prop where
  nonempty : s ≠ ""
  noSpace : ∀ c ∈ s.toList, isSpace c = false
  noComma : ',' ∉ s.toList
  ascii : IsAscii s

theorem isToken_hexHmac (key content : List UInt8) : IsToken (hexHmac hmac key content) := by
  have hdigit {c : Char} (hc : c ∈ (hexHmac hmac key content).toList) :
      isSpace c = false ∧ c ≠ ',' := by
    obtain ⟨d, hd, rfl⟩ := hexDigit_of_mem hc
    have hhex := isHexOutput_hexDigit hd
    exact ⟨hhex.noSpace, hhex.noComma⟩
  refine ⟨?_, fun c hc => (hdigit hc).1, fun hc => (hdigit hc).2 rfl, isAscii_hexHmac _ _ _⟩
  intro hempty
  have hlength := length_toList_toHex (hmac key content).bytes
  rw [(hmac key content).length_bytes, show toHex (hmac key content).bytes = "" from hempty]
    at hlength
  exact absurd hlength (by decide)

theorem isToken_toString (n : ℤ) : IsToken (toString n) := by
  have hrange {c : Char} (hc : c ∈ (toString n).toList) :
      isSpace c = false ∧ c ≠ ',' ∧ c.toNat < 128 := by
    obtain rfl | hdigit := toString_range hc
    · decide
    · have hcomma : c ≠ ',' := by
        rintro rfl
        exact absurd hdigit.1 (by decide)
      exact ⟨isSpace_eq_false (by omega), hcomma, by omega⟩
  refine ⟨?_, fun c hc => (hrange hc).1, fun hc => (hrange hc).2.1 rfl,
    fun c hc => (hrange hc).2.2⟩
  intro hempty
  have hchars := toList_toString n
  rw [hempty] at hchars
  split_ifs at hchars with hn
  · exact Nat.toDigits_ne_nil hchars.symm
  · exact absurd hchars (by simp)

/-- What the headers of `sign_payload` say, with further signatures. -/
theorem headersRead_rotate {n : ℤ} (hshort : n.natAbs < 10 ^ maxStrDigits) {sig : String}
    (hsig : IsToken sig) (messageId : String) {before after : List String}
    (hentries : ∀ s ∈ before ++ after, IsAscii s ∧ ',' ∉ s.toList) :
    ∃ signatures, HeadersRead (rotate before after [("X-TripWire-ID", messageId),
        ("X-TripWire-Timestamp", toString n),
        ("X-TripWire-Signature", "t=" ++ toString n ++ ",v1=" ++ sig)]) n signatures ∧
      sig ∈ signatures ∧ ∀ s ∈ signatures, IsAscii s := by
  have hts := isToken_toString n
  have hall : ∀ s ∈ before ++ sig :: after, IsAscii s ∧ ',' ∉ s.toList := by
    intro s hs
    rw [List.mem_append, List.mem_cons] at hs
    obtain hs | rfl | hs := hs
    · exact hentries s (List.mem_append_left _ hs)
    · exact ⟨hsig.ascii, hsig.noComma⟩
    · exact hentries s (List.mem_append_right _ hs)
  have hparts := headerParts_addSignatures hts.noComma fun s hs => (hall s hs).2
  have htexts := timestampTexts_signed hts.noSpace (before ++ sig :: after)
  have hmem : sig ∈ signatureTexts (headerParts (addSignatures before after
      ("t=" ++ toString n ++ ",v1=" ++ sig))) := by
    rw [hparts]
    refine mem_signatureTexts hsig.nonempty hsig.noSpace (List.mem_cons_of_mem _ ?_)
    exact List.mem_map_of_mem (by simp)
  have hascii : ∀ part ∈ headerParts (addSignatures before after
      ("t=" ++ toString n ++ ",v1=" ++ sig)), IsAscii part := by
    intro part hpart
    rw [hparts] at hpart
    obtain ⟨cs, hcs, rfl⟩ := List.mem_map.mp hpart
    refine isAscii_stripChars ?_
    obtain rfl | hcs := List.mem_cons.mp hcs
    · exact isAscii_append (by decide) hts.ascii
    · obtain ⟨s, hs, rfl⟩ := List.mem_map.mp hcs
      exact isAscii_append (by decide) (hall s hs).1
  refine ⟨_, ⟨_, ⟨[("X-TripWire-ID", messageId), ("X-TripWire-Timestamp", toString n)],
    "X-TripWire-Signature", [], rfl, by decide, by simp⟩, ?_⟩, hmem,
    isAscii_of_mem_signatureTexts hascii⟩
  refine ⟨?_, ?_, rfl, List.ne_nil_of_mem hmem⟩
  · rw [hparts, htexts]
    intro text htext
    rw [List.mem_singleton] at htext
    exact ⟨n, htext ▸ int_toString hshort⟩
  · rw [hparts, htexts]
    exact ⟨toString n, rfl, int_toString hshort⟩

/-- **The round trip**: what `sign_payload` signs is valid for the tolerance, with further
signatures or without. -/
theorem verifyWebhook_signPayload {signedAt time : ℚ} {messageId : String}
    {signed : List (String × String)}
    (h : signPayload hmac payload secret signedAt messageId = .ok signed)
    (hsigned : 0 ≤ signedAt) (hlater : signedAt ≤ time)
    (hfresh : time ≤ signedAt + toleranceSeconds) {before after : List String}
    (hentries : ∀ s ∈ before ++ after, IsAscii s ∧ ',' ∉ s.toList) :
    verifyWebhook hmac payload (rotate before after signed) secret time = .ok true := by
  obtain ⟨hshort, key, hkey, rfl⟩ := signPayload_eq_ok h
  have hsig : IsToken (hexHmac hmac key (signedContent (wholeSeconds signedAt) payload)) :=
    isToken_hexHmac key _
  obtain ⟨signatures, hread, hmem, hascii⟩ :=
    headersRead_rotate hshort hsig messageId hentries
  refine (verifyWebhook_iff ?_).mpr
    ⟨_, signatures, hread, ageOf_le hsigned hlater hfresh, key, hkey, hmem⟩
  intro timestamp signatures' hread'
  obtain ⟨-, rfl⟩ := headersRead_unique hread hread'
  exact hascii

end

/-- **The two verifiers and the round trip.**  For headers in ASCII the server accepts just if the
SDK does, and both just if the signature is valid; and what `sign_payload` signs is accepted for
five minutes, also with further signatures. -/
theorem verify_agree (hmac : List UInt8 → List UInt8 → Digest) (payload : Payload)
    (headers : List (String × String)) (secret : Secret) (time : ℚ)
    (hascii : ∀ header ∈ headers, IsAscii header.2) :
    (verifyWebhook hmac payload headers secret time = .ok true ↔
        verifyWebhookSignatureSafe hmac payload headers secret time = .ok true) ∧
      (verifyWebhook hmac payload headers secret time = .ok true ↔
        Verifies hmac payload secret headers time) ∧
      ∀ signedAt messageId signed before after,
        signPayload hmac payload secret signedAt messageId = .ok signed →
        0 ≤ signedAt → signedAt ≤ time → time ≤ signedAt + toleranceSeconds →
        (∀ s ∈ before ++ after, IsAscii s ∧ ',' ∉ s.toList) →
        verifyWebhook hmac payload (rotate before after signed) secret time = .ok true ∧
          verifyWebhookSignatureSafe hmac payload (rotate before after signed) secret time =
            .ok true := by
  refine ⟨verifyWebhook_iff_safe, verifyWebhook_iff ?_, ?_⟩
  · rintro timestamp signatures ⟨value, ⟨before, name, after, rfl, -⟩, hreads⟩
    rw [← hreads.texts]
    have hvalue : IsAscii value := hascii (name, value) (by simp)
    exact isAscii_of_mem_signatureTexts (isAscii_of_mem_headerParts hvalue)
  · intro signedAt messageId signed before after h hsigned hlater hfresh hentries
    have haccepted := verifyWebhook_signPayload h hsigned hlater hfresh hentries
    exact ⟨haccepted, verifyWebhook_iff_safe.mp haccepted⟩

/-- Headers as `sign_payload` makes them. -/
theorem verify_agree_signed :
    verifyWebhook Sample.hmac (.text "\x7b\x7d")
        (rotate ["old"] ["new"] [("X-TripWire-ID", "1"), ("X-TripWire-Timestamp", "1700000000"),
          ("X-TripWire-Signature", "t=1700000000,v1=7d44587dddbaf4c7f70fef20f48cd594834ffea16" ++
            "41e3ac227b84408298738af")]) (.text "whsec") 1700000300 = .ok true :=
  ((verify_agree Sample.hmac (.text "\x7b\x7d") [] (.text "whsec") 1700000300
    (by simp)).2.2 1700000000 "1" _ ["old"] ["new"] (by decide +kernel) (by norm_num) (by norm_num)
      (by norm_num [toleranceSeconds]) (by decide +kernel)).1

end TripWire
