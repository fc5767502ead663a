import Mathlib
import TripWire.Auth.Siwe
import TripWire.Lib.Separator

/-!
# What a SIWE message says

The message of a request is read from both ends.  Up to the first newline after the greeting it is
the address, and after the last three newlines it has the expiration, `issued_at` and the nonce,
none of which contains a newline; what is left is the statement, whatever it contains
(`buildSiweMessage_inj`).  The statement starts with the method, which has no space, and ends with
the body hash, whose length is known, so that the path between them may be any text
(`buildRequestStatement_inj`).

`_make_auth_headers` of the SDK (`tripwire_sdk/client.py`) has the template once more;
`signature_makeAuthHeaders` compares it with the text that the server reconstructs.
-/

namespace TripWire

open Py Separator

/-! ### The message -/

/-- The lines between the statement and the nonce. -/
def siweMiddle (domain : String) (chainId : ℤ) : List Char :=
  ("\n\nURI: https://" ++ domain ++ "\nVersion: 1\nChain ID: " ++ toString chainId).toList

/-- The message, cut at the newlines that are found from its ends. -/
theorem toList_buildSiweMessage (domain address statement nonce issuedAt expirationTime : String)
    (chainId : ℤ) :
    (buildSiweMessage domain address statement nonce issuedAt expirationTime chainId).toList =
      (domain ++ " wants you to sign in with your Ethereum account:\n").toList ++
        (address.toList ++ '\n' ::
          (('\n' :: statement.toList ++ siweMiddle domain chainId) ++
            '\n' :: ("Nonce: " ++ nonce).toList ++
            '\n' :: ("Issued At: " ++ issuedAt).toList ++
            '\n' :: ("Expiration Time: " ++ expirationTime).toList)) := by
  have htext (s : String) : toString s = s := rfl
  simp [buildSiweMessage, siweMiddle, htext]

section

variable {domain address address' statement statement' nonce nonce' issuedAt issuedAt'
  expirationTime expirationTime' : String} {chainId : ℤ}

/-- A field after its label has no newline. -/
theorem newline_not_mem_labelled {label field : String} (hlabel : '\n' ∉ label.toList)
    (hfield : '\n' ∉ field.toList) : '\n' ∉ (label ++ field).toList := by
  rw [String.toList_append, List.mem_append, not_or]
  exact ⟨hlabel, hfield⟩

theorem labelled_inj {label field field' : String}
    (h : (label ++ field).toList = (label ++ field').toList) : field = field' := by
  rw [String.toList_append, String.toList_append] at h
  exact String.toList_inj.mp (List.append_cancel_left h)

/-- **The message is read in one way**, whatever the statement is. -/
theorem buildSiweMessage_inj (haddress : '\n' ∉ address.toList) (haddress' : '\n' ∉ address'.toList)
    (hnonce : '\n' ∉ nonce.toList) (hnonce' : '\n' ∉ nonce'.toList)
    (hissued : '\n' ∉ issuedAt.toList) (hissued' : '\n' ∉ issuedAt'.toList)
    (hexpiration : '\n' ∉ expirationTime.toList) (hexpiration' : '\n' ∉ expirationTime'.toList)
    (h : buildSiweMessage domain address statement nonce issuedAt expirationTime chainId =
      buildSiweMessage domain address' statement' nonce' issuedAt' expirationTime' chainId) :
    address = address' ∧ statement = statement' ∧ nonce = nonce' ∧ issuedAt = issuedAt' ∧
      expirationTime = expirationTime' := by
  have hchars := congrArg String.toList h
  rw [toList_buildSiweMessage, toList_buildSiweMessage] at hchars
  -- from the front: the greeting, and the address up to the first newline
  have hafter := List.append_cancel_left hchars
  obtain ⟨heqAddress, hrest⟩ := append_cons_inj_of_first haddress haddress' hafter
  -- from the back: the last three lines
  obtain ⟨hrest, heqExpiration⟩ := append_cons_inj_of_last
    (newline_not_mem_labelled (by decide) hexpiration)
    (newline_not_mem_labelled (by decide) hexpiration') hrest
  obtain ⟨hrest, heqIssued⟩ := append_cons_inj_of_last
    (newline_not_mem_labelled (by decide) hissued)
    (newline_not_mem_labelled (by decide) hissued') hrest
  obtain ⟨hrest, heqNonce⟩ := append_cons_inj_of_last
    (newline_not_mem_labelled (by decide) hnonce)
    (newline_not_mem_labelled (by decide) hnonce') hrest
  -- between them: the statement, before lines that are the same
  have hstatement := (List.cons.inj (List.append_cancel_right hrest)).2
  exact ⟨String.toList_inj.mp heqAddress, String.toList_inj.mp hstatement, labelled_inj heqNonce,
    labelled_inj heqIssued, labelled_inj heqExpiration⟩

end

/-- **The statement is read in one way**, whatever the path is. -/
theorem buildRequestStatement_inj {env : SiweEnv} (hsha : ∀ body, (env.sha256 body).length = 64)
    {method method' path path' : String} {body body' : List UInt8} (hmethod : ' ' ∉ method.toList)
    (hmethod' : ' ' ∉ method'.toList)
    (h : buildRequestStatement env method path body =
      buildRequestStatement env method' path' body') :
    method = method' ∧ path = path' ∧ env.sha256 body = env.sha256 body' := by
  have htext (s : String) : toString s = s := rfl
  have hchars : method.toList ++ ' ' :: (path.toList ++ (' ' :: (env.sha256 body).toList)) =
      method'.toList ++ ' ' :: (path'.toList ++ (' ' :: (env.sha256 body').toList)) := by
    simpa [buildRequestStatement, htext] using congrArg String.toList h
  obtain ⟨heqMethod, hrest⟩ := append_cons_inj_of_first hmethod hmethod' hchars
  have hlength : (' ' :: (env.sha256 body).toList).length =
      (' ' :: (env.sha256 body').toList).length := by
    rw [List.length_cons, List.length_cons, String.length_toList, String.length_toList, hsha, hsha]
  obtain ⟨heqPath, hhash⟩ := List.append_inj' hrest hlength
  exact ⟨String.toList_inj.mp heqMethod, String.toList_inj.mp heqPath,
    String.toList_inj.mp (List.cons.inj hhash).2⟩

/-! ### The SDK -/

/-- `_SIWE_DOMAIN` of the SDK. -/
def Sdk.siweDomain : String := "tripwire.dev"

/-- `_EXPIRATION_MINUTES`. -/
def Sdk.expirationMinutes : ℚ := 5

/-- The `message_text` of `_make_auth_headers`. -/
def Sdk.messageText (env : SiweEnv) (domain address method path : String) (body : List UInt8)
    (nonce issuedAt expirationTime : String) : String :=
  let bodyHash := env.sha256 body
  let statement := s!"{method} {path} {bodyHash}"
  s!"{domain} wants you to sign in with your Ethereum account:\n" ++
    s!"{address}\n" ++
    "\n" ++
    s!"{statement}\n" ++
    "\n" ++
    s!"URI: https://{domain}\n" ++
    "Version: 1\n" ++
    "Chain ID: 8453\n" ++
    s!"Nonce: {nonce}\n" ++
    s!"Issued At: {issuedAt}\n" ++
    s!"Expiration Time: {expirationTime}"

/-- `_make_auth_headers`, at the time `now`.  `signMessage` is
`account.sign_message(encode_defunct(text=...)).signature.hex()`, and `isoformat` the text of a
time. -/
def Sdk.makeAuthHeaders (env : SiweEnv) (signMessage : String → String) (isoformat : ℚ → String)
    (now : ℚ) (address path nonce method : String) (body : List UInt8) (domain : String) :
    SiweHeaders :=
  let issuedAt := isoformat now
  let expirationTime := isoformat (now + Sdk.expirationMinutes * 60)
  { address
    signature := signMessage
      (Sdk.messageText env domain address method path body nonce issuedAt expirationTime)
    nonce
    issuedAt
    expirationTime }

/-- The two templates. -/
theorem messageText_eq (env : SiweEnv) (domain address method path : String) (body : List UInt8)
    (nonce issuedAt expirationTime : String) :
    Sdk.messageText env domain address method path body nonce issuedAt expirationTime =
      buildSiweMessage domain address (buildRequestStatement env method path body) nonce issuedAt
        expirationTime 8453 := by
  have htext (s : String) : toString s = s := rfl
  have hchain : toString (8453 : ℤ) = "8453" := rfl
  rw [← String.toList_inj]
  simp [Sdk.messageText, buildSiweMessage, buildRequestStatement, htext, hchain]

/-! ### The request -/

/-- The fields that the message is read back from: the path may be any text. -/
structure AuthRequest.Delimited (r : AuthRequest) : Prop where
  address : '\n' ∉ r.headers.address.toList
  nonce : '\n' ∉ r.headers.nonce.toList
  issuedAt : '\n' ∉ r.headers.issuedAt.toList
  expirationTime : '\n' ∉ r.headers.expirationTime.toList
  method : ' ' ∉ r.method.toList

/-- What the message binds. -/
structure AuthRequest.SameSigned (env : SiweEnv) (r r' : AuthRequest) : Prop where
  address : r.headers.address = r'.headers.address
  method : r.method = r'.method
  path : r.path = r'.path
  bodyHash : env.sha256 r.body = env.sha256 r'.body
  nonce : r.headers.nonce = r'.headers.nonce
  issuedAt : r.headers.issuedAt = r'.headers.issuedAt
  expirationTime : r.headers.expirationTime = r'.headers.expirationTime

theorem AuthRequest.sameSigned_of_message {env : SiweEnv}
    (hsha : ∀ body, (env.sha256 body).length = 64) {r r' : AuthRequest} (hr : r.Delimited)
    (hr' : r'.Delimited) (h : r.message env = r'.message env) : r.SameSigned env r' := by
  obtain ⟨haddress, hstatement, hnonce, hissued, hexpiration⟩ :=
    buildSiweMessage_inj hr.address hr'.address hr.nonce hr'.nonce hr.issuedAt hr'.issuedAt
      hr.expirationTime hr'.expirationTime h
  obtain ⟨hmethod, hpath, hhash⟩ :=
    buildRequestStatement_inj hsha hr.method hr'.method hstatement
  exact ⟨haddress, hmethod, hpath, hhash, hnonce, hissued, hexpiration⟩

/-- **A signature is for one request.**  Two requests with the same message agree in the address,
the method, the path, the body hash, the nonce and both times; and what the SDK signs for a request
is the message that the server reconstructs for it on chain 8453. -/
theorem siwe_message_binds (env : SiweEnv) (hsha : ∀ body, (env.sha256 body).length = 64) :
    (∀ r r' : AuthRequest, r.Delimited → r'.Delimited → r.message env = r'.message env →
        r.SameSigned env r') ∧
      ∀ (surface : AuthSurface) (signMessage : String → String) (isoformat : ℚ → String) (now : ℚ)
        (address path nonce method : String) (body : List UInt8) (domain : String),
        let headers := Sdk.makeAuthHeaders env signMessage isoformat now address path nonce method
          body domain
        headers.signature = signMessage
          (AuthRequest.message { env with siweDomain := domain, siweChainId := 8453 }
            { surface, headers, method, path, body }) := by
  refine ⟨fun r r' hr hr' h => AuthRequest.sameSigned_of_message hsha hr hr' h, ?_⟩
  intro surface signMessage isoformat now address path nonce method body domain
  exact congrArg signMessage (messageText_eq env domain address method path body nonce _ _)

namespace Sample

/-- The digest of an empty body. -/
def emptyBodyHash : String := "e3b0c44298fc1c149afbf4c8996fb92427ae41e4649b934ca495991b7852b855"

/-- A client and a server that know one digest and no account. -/
def hashEnv : SiweEnv where
  sha256 _ := emptyBodyHash
  recoverMessage _ _ := .error .valueError
  fromisoformat _ := none

/-- A request of the path. -/
def requestOf (path : String) : AuthRequest where
  surface := .rest
  headers :=
    { address := "0x1234", signature := "0x", nonce := "n", issuedAt := "i", expirationTime := "e" }
  method := "GET"
  path := path
  body := []

theorem delimited_requestOf (path : String) : (requestOf path).Delimited where
  address := show '\n' ∉ "0x1234".toList by decide
  nonce := show '\n' ∉ "n".toList by decide
  issuedAt := show '\n' ∉ "i".toList by decide
  expirationTime := show '\n' ∉ "e".toList by decide
  method := show ' ' ∉ "GET".toList by decide

theorem length_sha256 (body : List UInt8) : (hashEnv.sha256 body).length = 64 := by
  show emptyBodyHash.length = 64
  decide +kernel

end Sample

/-- A path that looks like the end of the message does not pass for another path. -/
theorem siwe_message_binds_path :
    (Sample.requestOf "/keys").message Sample.hashEnv ≠
      (Sample.requestOf ("/keys " ++ Sample.emptyBodyHash ++ "\n\nURI: https://evil")).message
        Sample.hashEnv := by
  intro h
  have hsame := (siwe_message_binds Sample.hashEnv Sample.length_sha256).1 _ _
    (Sample.delimited_requestOf _) (Sample.delimited_requestOf _) h
  exact absurd hsame.path (by decide +kernel)

end TripWire
