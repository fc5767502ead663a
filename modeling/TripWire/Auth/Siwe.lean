import Mathlib
import TripWire.Api.Endpoints
import TripWire.Lib.Machine

/-!
# Wallet authentication by a signed message

A caller signs an EIP-4361 message over the method, the path and the hash of the body of its
request, and over a nonce that it got from `GET /auth/nonce` (`tripwire/auth/siwe.py`,
`tripwire/api/routes/auth.py`).  Two verifiers check such requests: `require_wallet_auth` for the
REST routes (`tripwire/api/auth.py`) and `_verify_siwe` for MCP (`tripwire/mcp/auth.py`).  Both
consume the nonce by a `DEL` of the same Redis key.

Requests run side by side, so a verifier is a state machine whose steps are the stretches of the
source between two `await`s, and the `DEL` in Redis is a step of its own.  The argument is that a
nonce that was issued is in Redis until it expires or a `DEL` finds it, and that a `DEL` that finds
it takes it away (`AuthSystem.Accounted`): `siwe_nonce_single_use`.
-/

namespace TripWire

open Py Machine

/-! ### The message -/

/-- The settings and library calls that the verifiers rely on. -/
structure SiweEnv where
  siweDomain : String := "tripwire.dev"
  siweChainId : ℤ := 8453
  authTimestampToleranceSeconds : ℤ := 300
  /-- `hashlib.sha256(body).hexdigest()`. -/
  sha256 : List UInt8 → String
  /-- `Account.recover_message(encode_defunct(text=message), signature=signature)`. -/
  recoverMessage : String → String → Except PyError String
  /-- `datetime.fromisoformat(text)`, `none` when it raises, and then its `timestamp()`, or the text
  of the `ValueError` of that. -/
  fromisoformat : String → Option (Except String ℚ)

/-- `build_siwe_message`. -/
def buildSiweMessage (domain address statement nonce issuedAt expirationTime : String)
    (chainId : ℤ) : String :=
  s!"{domain} wants you to sign in with your Ethereum account:\n" ++
    s!"{address}\n\n" ++
    s!"{statement}\n\n" ++
    s!"URI: https://{domain}\n" ++
    "Version: 1\n" ++
    s!"Chain ID: {chainId}\n" ++
    s!"Nonce: {nonce}\n" ++
    s!"Issued At: {issuedAt}\n" ++
    s!"Expiration Time: {expirationTime}"

/-- `build_request_statement`. -/
def buildRequestStatement (env : SiweEnv) (method path : String) (body : List UInt8) : String :=
  s!"{method} {path} {env.sha256 body}"

/-- `verify_siwe_signature`. -/
def verifySiweSignature (env : SiweEnv) (message signature expectedAddress : String) :
    Except PyError String := do
  let recovered ← env.recoverMessage message signature
  if lower recovered ≠ lower expectedAddress then throw .valueError
  return recovered

/-- `s.replace("Z", "+00:00")`. -/
def replaceZulu (s : String) : String :=
  String.ofList (s.toList.flatMap fun c => if c = 'Z' then "+00:00".toList else [c])

/-- `validate_timestamps`: the text of its `ValueError`, if it raises one.  With a tolerance the
`issued_at` is checked too. -/
def validateTimestamps (env : SiweEnv) (now : ℚ) (issuedAt expirationTime : String)
    (tolerance : Option ℤ) : Option String :=
  match env.fromisoformat (replaceZulu expirationTime) with
  | none => some s!"Invalid expiration_time format: {expirationTime}"
  | some (.error text) => some text
  | some (.ok expires) =>
    if expires < now then some "SIWE message has expired"
    else
      match tolerance with
      | none => none
      | some seconds =>
        match env.fromisoformat (replaceZulu issuedAt) with
        | none => some s!"Invalid issued_at format: {issuedAt}"
        | some (.error text) => some text
        | some (.ok issued) =>
          if (seconds : ℚ) < |now - issued| then
            some s!"issued_at is outside tolerance of {seconds}s"
          else none

/-! ### A request -/

/-- The two verifiers. -/
inductive AuthSurface where
  | rest
  | mcp
  deriving DecidableEq, Repr

/-- The five headers. -/
structure SiweHeaders where
  address : String
  signature : String
  nonce : String
  issuedAt : String
  expirationTime : String
  deriving DecidableEq

/-- A request that is to be authenticated.  An absent header is as good as an empty one. -/
structure AuthRequest where
  surface : AuthSurface
  headers : SiweHeaders
  method : String
  path : String
  body : List UInt8
  deriving DecidableEq

/-- The message that the caller must have signed. -/
def AuthRequest.message (env : SiweEnv) (r : AuthRequest) : String :=
  buildSiweMessage env.siweDomain r.headers.address
    (buildRequestStatement env r.method r.path r.body) r.headers.nonce r.headers.issuedAt
    r.headers.expirationTime env.siweChainId

/-- The signature recovers to `wallet`, and this is the claimed address up to case. -/
def AuthRequest.SignedBy (env : SiweEnv) (r : AuthRequest) (wallet : String) : Prop :=
  env.recoverMessage (r.message env) r.headers.signature = .ok wallet ∧
    lower wallet = lower r.headers.address

/-- The detail of a request without all headers. -/
def missingHeaders : AuthSurface → String
  | .rest => "Missing authentication headers; X-TripWire-Address, X-TripWire-Signature, " ++
      "X-TripWire-Nonce, X-TripWire-Issued-At, and X-TripWire-Expiration are all required"
  | .mcp => "Missing SIWE authentication headers; X-TripWire-Address, X-TripWire-Signature, " ++
      "X-TripWire-Nonce, X-TripWire-Issued-At, and X-TripWire-Expiration are all required"

/-- `check_issued_at_tolerance`: MCP alone looks at `issued_at`. -/
def AuthSurface.tolerance (env : SiweEnv) : AuthSurface → Option ℤ
  | .rest => none
  | .mcp => some env.authTimestampToleranceSeconds

/-- Where a request stands. -/
inductive AuthStage where
  | received
  /-- The headers and the timestamps are checked, and the body is being read. -/
  | readingBody
  /-- The signature is checked, and the `DEL` is on its way. -/
  | consuming (recovered : String)
  /-- Redis has executed the `DEL` and replied whether there was a key. -/
  | replied (recovered : String) (consumed : Bool)
  | authenticated (walletAddress : String)
  | rejected (exception : HttpException)
  /-- An exception that is no `HTTPException`. -/
  | crashed
  deriving DecidableEq

/-- Up to `await request.body()`. -/
def checkHeaders (env : SiweEnv) (now : ℚ) (r : AuthRequest) : AuthStage :=
  let h := r.headers
  if h.address = "" ∨ h.signature = "" ∨ h.nonce = "" ∨ h.issuedAt = "" ∨ h.expirationTime = "" then
    .rejected ⟨401, missingHeaders r.surface⟩
  else
    match validateTimestamps env now h.issuedAt h.expirationTime (r.surface.tolerance env) with
    | some text => .rejected ⟨401, text⟩
    | none => .readingBody

/-- From the body up to `await r.delete(...)`. -/
def checkSignature (env : SiweEnv) (r : AuthRequest) : AuthStage :=
  match verifySiweSignature env (r.message env) r.headers.signature r.headers.address with
  | .ok recovered => .consuming recovered
  | .error .valueError => .rejected ⟨401, "Invalid signature or address mismatch"⟩
  | .error _ => .rejected ⟨401, "Invalid signature"⟩

/-- After the `DEL`. -/
def checkConsumed (recovered : String) (consumed : Bool) : AuthStage :=
  if consumed then .authenticated recovered
  else .rejected ⟨401, "Invalid or already-used nonce"⟩

/-! ### The system -/

/-- `siwe:nonce:{nonce}`. -/
def siweNonceKey (nonce : String) : String := "siwe:nonce:" ++ nonce

/-- `_NONCE_TTL_SECONDS`. -/
def nonceTtlSeconds : ℕ := 300

/-- A request on its way.  `deletion` is the time of its `DEL` in Redis, with the reply. -/
structure AuthCall where
  request : AuthRequest
  stage : AuthStage := .received
  deletion : Option (ℕ × Bool) := none

/-- Redis, whose clock counts milliseconds and whose keys have the time at which they expire; the
nonces that were issued, with the time; and the requests. -/
structure AuthSystem where
  clock : ℕ := 0
  redis : String → Option ℕ := fun _ => none
  issued : List (String × ℕ) := []
  calls : List AuthCall := []

/-- One step of a run. -/
inductive AuthAction where
  /-- Time passes. -/
  | elapse (milliseconds : ℕ)
  /-- `get_nonce`: the `SETEX`. -/
  | getNonce (nonce : String)
  | arrive (request : AuthRequest)
  /-- The request `i` goes on; `now` is `time.time()` of its process. -/
  | step (i : ℕ) (now : ℚ)
  /-- The body cannot be read, or the call of Redis raises, after the `DEL` or before it. -/
  | fail (i : ℕ) (executed : Bool)

/-- Redis has the key, which it keeps until its time is past. -/
def AuthSystem.holds (s : AuthSystem) (key : String) : Bool :=
  (s.redis key).any fun e => s.clock ≤ e

/-- The nonce can be used: a `DEL` would find it. -/
def AuthSystem.usable (s : AuthSystem) (nonce : String) : Bool := s.holds (siweNonceKey nonce)

/-- The request `i` goes on to `stage`. -/
def AuthSystem.move (s : AuthSystem) (i : ℕ) (call : AuthCall) (stage : AuthStage) : AuthSystem :=
  { s with calls := s.calls.set i { call with stage } }

/-- Redis executes the `DEL` of the request `i`. -/
def AuthSystem.delete (s : AuthSystem) (i : ℕ) (call : AuthCall) (stage : Bool → AuthStage) :
    AuthSystem :=
  let key := siweNonceKey call.request.headers.nonce
  { s with
    redis := Function.update s.redis key none
    calls := s.calls.set i
      { call with stage := stage (s.holds key), deletion := some (s.clock, s.holds key) } }

/-- The request `i`, which is `call`, goes on. -/
def AuthSystem.advance (env : SiweEnv) (s : AuthSystem) (i : ℕ) (now : ℚ) (call : AuthCall) :
    AuthSystem :=
  match call.stage with
  | .received => s.move i call (checkHeaders env now call.request)
  | .readingBody => s.move i call (checkSignature env call.request)
  | .consuming recovered => s.delete i call (.replied recovered)
  | .replied recovered consumed => s.move i call (checkConsumed recovered consumed)
  | .authenticated _ | .rejected _ | .crashed => s

/-- The request `i`, which is `call`, raises. -/
def AuthSystem.abort (s : AuthSystem) (i : ℕ) (executed : Bool) (call : AuthCall) : AuthSystem :=
  match call.stage with
  | .readingBody => s.move i call .crashed
  | .consuming _ =>
    if executed then s.delete i call fun _ => .crashed else s.move i call .crashed
  | .received | .replied .. | .authenticated _ | .rejected _ | .crashed => s

/-- The system after a step. -/
def authStep (env : SiweEnv) (s : AuthSystem) : AuthAction → AuthSystem
  | .elapse milliseconds => { s with clock := s.clock + milliseconds }
  | .getNonce nonce =>
    { s with
      redis := Function.update s.redis (siweNonceKey nonce)
        (some (s.clock + 1000 * nonceTtlSeconds))
      issued := s.issued ++ [(nonce, s.clock)] }
  | .arrive request => { s with calls := s.calls ++ [{ request }] }
  | .step i now => (s.calls[i]?.map (s.advance env i now)).getD s
  | .fail i executed => (s.calls[i]?.map (s.abort i executed)).getD s

/-! ### What a run keeps -/

/-- The nonce a request carries. -/
def AuthCall.nonce (c : AuthCall) : String := c.request.headers.nonce

/-- The `DEL` of the request found its key. -/
def AuthCall.Consumed (c : AuthCall) : Prop := ∃ time, c.deletion = some (time, true)

/-- The request is authenticated. -/
def AuthCall.Authenticated (c : AuthCall) : Prop := ∃ wallet, c.stage = .authenticated wallet

/-- What a request has behind it: its `DEL` is executed after the signature is checked and not
before, and a request that is authenticated has consumed its nonce. -/
def AuthCall.Sound (env : SiweEnv) (c : AuthCall) : Prop :=
  match c.stage with
  | .received | .readingBody => c.deletion = none
  | .consuming wallet => c.deletion = none ∧ c.request.SignedBy env wallet
  | .replied wallet consumed =>
    c.deletion.map Prod.snd = some consumed ∧ c.request.SignedBy env wallet
  | .authenticated wallet => c.Consumed ∧ c.request.SignedBy env wallet
  | .rejected _ | .crashed => True

/-- A key expires this many milliseconds after its `SETEX`. -/
def nonceTtl : ℕ := 1000 * nonceTtlSeconds

/-- **The invariant.** Redis has a nonce exactly when it was issued, is not expired, and no `DEL`
has found it; a `DEL` that found a nonce did so in its lifetime, and no other did. -/
structure AuthSystem.Accounted (env : SiweEnv) (s : AuthSystem) : Prop where
  past : ∀ nonce t, (nonce, t) ∈ s.issued → t ≤ s.clock
  stored : ∀ nonce e, s.redis (siweNonceKey nonce) = some e →
    (∃ t, (nonce, t) ∈ s.issued ∧ e = t + nonceTtl) ∧
      ∀ c ∈ s.calls, c.nonce = nonce → ¬c.Consumed
  kept : ∀ nonce t, (nonce, t) ∈ s.issued → s.clock ≤ t + nonceTtl →
    (∀ c ∈ s.calls, c.nonce = nonce → ¬c.Consumed) →
      s.redis (siweNonceKey nonce) = some (t + nonceTtl)
  spent : ∀ c ∈ s.calls, ∀ time, c.deletion = some (time, true) →
    ∃ t, (c.nonce, t) ∈ s.issued ∧ t ≤ time ∧ time ≤ t + nonceTtl
  once : ∀ (i j : ℕ) (c d : AuthCall), s.calls[i]? = some c → s.calls[j]? = some d →
    c.Consumed → d.Consumed → c.nonce = d.nonce → i = j
  sound : ∀ c ∈ s.calls, c.Sound env

variable {env : SiweEnv} {s : AuthSystem}

theorem siweNonceKey_inj {m n : String} : siweNonceKey m = siweNonceKey n ↔ m = n :=
  String.append_right_inj _

theorem checkHeaders_cases (env : SiweEnv) (now : ℚ) (r : AuthRequest) :
    checkHeaders env now r = .readingBody ∨
      ∃ exception, checkHeaders env now r = .rejected exception := by
  unfold checkHeaders
  dsimp only
  split_ifs
  · exact .inr ⟨_, rfl⟩
  · split
    · exact .inr ⟨_, rfl⟩
    · exact .inl rfl

theorem signedBy_of_checkSignature {r : AuthRequest} {wallet : String}
    (h : checkSignature env r = .consuming wallet) : r.SignedBy env wallet := by
  unfold checkSignature at h
  split at h
  · rename_i recovered hverify
    obtain rfl := AuthStage.consuming.inj h
    obtain ⟨w, hrecover, hverify⟩ := bind_eq_ok_iff.mp hverify
    by_cases hne : lower w ≠ lower r.headers.address
    · simp only [hne, ne_eq, not_false_eq_true, if_true] at hverify
      cases hverify
    · simp only [hne, if_false] at hverify
      obtain rfl := Except.ok.inj hverify
      exact ⟨hrecover, not_not.mp hne⟩
  · cases h
  · cases h

/-- A request goes on without Redis. -/
theorem AuthSystem.Accounted.move (h : s.Accounted env) {i : ℕ} {call : AuthCall}
    (hi : s.calls[i]? = some call) {stage : AuthStage}
    (hsound : ({ call with stage } : AuthCall).Sound env) :
    (s.move i call stage).Accounted env := by
  -- every call of the new list has the nonce and the deletion of one of the old list
  have hget : ∀ (j : ℕ) (c : AuthCall), (s.move i call stage).calls[j]? = some c →
      ∃ c' : AuthCall, s.calls[j]? = some c' ∧ c'.nonce = c.nonce ∧ c'.deletion = c.deletion := by
    intro j c hj
    rw [AuthSystem.move, List.getElem?_set] at hj
    split_ifs at hj with hij hlt
    · subst hij
      obtain rfl := Option.some.inj hj
      exact ⟨call, hi, rfl, rfl⟩
    · exact ⟨c, hj, rfl, rfl⟩
  have hold : ∀ c ∈ (s.move i call stage).calls,
      ∃ c' ∈ s.calls, c'.nonce = c.nonce ∧ c'.deletion = c.deletion := by
    intro c hc
    obtain ⟨j, hj⟩ := List.getElem?_of_mem hc
    obtain ⟨c', hj', hsame⟩ := hget j c hj
    exact ⟨c', List.mem_of_getElem? hj', hsame⟩
  have hnew : ∀ c ∈ s.calls, ∃ c' ∈ (s.move i call stage).calls,
      c'.nonce = c.nonce ∧ c'.deletion = c.deletion := by
    intro c hc
    obtain ⟨j, hj⟩ := List.getElem?_of_mem hc
    by_cases hij : i = j
    · subst hij
      obtain rfl := Option.some.inj (hi.symm.trans hj)
      have hlt := (List.getElem?_eq_some_iff.mp hi).1
      exact ⟨_, List.mem_of_getElem? (List.getElem?_set_self hlt), rfl, rfl⟩
    · refine ⟨c, List.mem_of_getElem? (i := j) ?_, rfl, rfl⟩
      rw [AuthSystem.move, List.getElem?_set_ne hij]
      exact hj
  constructor
  · exact h.past
  · intro nonce e he
    refine ⟨(h.stored nonce e he).1, ?_⟩
    rintro c hc hnonce ⟨time, hdeletion⟩
    obtain ⟨c', hc', hnonce', hdeletion'⟩ := hold c hc
    exact (h.stored nonce e he).2 c' hc' (hnonce'.trans hnonce) ⟨time, hdeletion'.trans hdeletion⟩
  · intro nonce t hissued hlive hfree
    apply h.kept nonce t hissued hlive
    rintro c hc hnonce ⟨time, hdeletion⟩
    obtain ⟨c', hc', hnonce', hdeletion'⟩ := hnew c hc
    exact hfree c' hc' (hnonce'.trans hnonce) ⟨time, hdeletion'.trans hdeletion⟩
  · intro c hc time hdeletion
    obtain ⟨c', hc', hnonce, hdeletion'⟩ := hold c hc
    rw [← hnonce]
    exact h.spent c' hc' time (hdeletion'.trans hdeletion)
  · rintro j k c d hj hk ⟨time, hc⟩ ⟨time', hd⟩ hnonce
    obtain ⟨c', hj', hnonceC, hdeletionC⟩ := hget j c hj
    obtain ⟨d', hk', hnonceD, hdeletionD⟩ := hget k d hk
    exact h.once j k c' d' hj' hk' ⟨time, hdeletionC.trans hc⟩ ⟨time', hdeletionD.trans hd⟩
      (hnonceC.trans (hnonce.trans hnonceD.symm))
  · intro c hc
    rcases List.mem_or_eq_of_mem_set hc with hc | rfl
    · exact h.sound c hc
    · exact hsound

/-- Redis executes the `DEL` of a request that has not had one. -/
theorem AuthSystem.Accounted.delete (h : s.Accounted env) {i : ℕ} {call : AuthCall}
    (hi : s.calls[i]? = some call) (hnone : call.deletion = none) {stage : Bool → AuthStage}
    (hsound : ∀ consumed time, ({ call with
      stage := stage consumed, deletion := some (time, consumed) } : AuthCall).Sound env) :
    (s.delete i call stage).Accounted env := by
  obtain ⟨found, hfound⟩ : ∃ found, s.holds (siweNonceKey call.nonce) = found := ⟨_, rfl⟩
  obtain ⟨new, hnew⟩ : ∃ new : AuthCall, new =
    { call with stage := stage found, deletion := some (s.clock, found) } := ⟨_, rfl⟩
  have hcalls : (s.delete i call stage).calls = s.calls.set i new := by
    rw [AuthSystem.delete, hnew, ← hfound]
    rfl
  have hredis : ∀ nonce, (s.delete i call stage).redis (siweNonceKey nonce) =
      if nonce = call.nonce then none else s.redis (siweNonceKey nonce) := by
    intro nonce
    by_cases heq : nonce = call.nonce
    · rw [if_pos heq, heq]
      exact Function.update_self ..
    · rw [if_neg heq]
      exact Function.update_of_ne (fun hkey => heq (siweNonceKey_inj.mp hkey)) ..
  -- what it means that the key was found
  have hlive : found = true → ∃ t, (call.nonce, t) ∈ s.issued ∧ s.clock ≤ t + nonceTtl ∧
      ∀ c ∈ s.calls, c.nonce = call.nonce → ¬c.Consumed := by
    intro htrue
    rw [← hfound, AuthSystem.holds, Option.any_eq_true] at htrue
    obtain ⟨e, he, hclock⟩ := htrue
    obtain ⟨⟨t, hissued, rfl⟩, hfree⟩ := h.stored _ e he
    exact ⟨t, hissued, of_decide_eq_true hclock, hfree⟩
  have hnewConsumed : new.Consumed ↔ found = true := by
    rw [hnew]
    constructor
    · rintro ⟨time, hdeletion⟩
      exact (Prod.mk.inj (Option.some.inj hdeletion)).2
    · rintro rfl
      exact ⟨s.clock, rfl⟩
  have hnonce : new.nonce = call.nonce := by rw [hnew]; rfl
  have hlt := (List.getElem?_eq_some_iff.mp hi).1
  have hget : ∀ (j : ℕ) (c : AuthCall), (s.delete i call stage).calls[j]? = some c →
      (j = i ∧ c = new) ∨ (j ≠ i ∧ s.calls[j]? = some c) := by
    intro j c hj
    rw [hcalls, List.getElem?_set] at hj
    split_ifs at hj with hij
    · exact .inl ⟨hij.symm, (Option.some.inj hj).symm⟩
    · exact .inr ⟨Ne.symm hij, hj⟩
  constructor
  · exact h.past
  · intro nonce e he
    rw [hredis] at he
    split_ifs at he with heq
    refine ⟨(h.stored nonce e he).1, ?_⟩
    intro c hc hc'
    rw [hcalls] at hc
    rcases List.mem_or_eq_of_mem_set hc with hc | rfl
    · exact (h.stored nonce e he).2 c hc hc'
    · exact absurd (hc'.symm.trans hnonce) heq
  · intro nonce t hissued hclock hfree
    have hothers : ∀ c ∈ s.calls, c.nonce = nonce → ¬c.Consumed := by
      intro c hc hc'
      obtain ⟨j, hj⟩ := List.getElem?_of_mem hc
      by_cases hij : i = j
      · subst hij
        obtain rfl := Option.some.inj (hi.symm.trans hj)
        rintro ⟨time, hdeletion⟩
        rw [hnone] at hdeletion
        cases hdeletion
      · refine hfree c (List.mem_of_getElem? (i := j) ?_) hc'
        rw [hcalls, List.getElem?_set_ne hij]
        exact hj
    have hstored := h.kept nonce t hissued hclock hothers
    rw [hredis]
    by_cases heq : nonce = call.nonce
    · -- the key was there, so the request would have consumed it
      subst heq
      have htrue : found = true := by
        rw [← hfound, AuthSystem.holds, hstored, Option.any_some, decide_eq_true_eq]
        exact hclock
      have hmem : new ∈ (s.delete i call stage).calls := by
        rw [hcalls]
        exact List.mem_of_getElem? (List.getElem?_set_self hlt)
      exact absurd (hnewConsumed.mpr htrue) (hfree new hmem hnonce)
    · rw [if_neg heq]
      exact hstored
  · intro c hc time hdeletion
    rw [hcalls] at hc
    rcases List.mem_or_eq_of_mem_set hc with hc | rfl
    · exact h.spent c hc time hdeletion
    · obtain ⟨t, hissued, hclock, -⟩ := hlive (hnewConsumed.mp ⟨time, hdeletion⟩)
      have htime : time = s.clock := by
        rw [hnew] at hdeletion
        exact (Prod.mk.inj (Option.some.inj hdeletion)).1.symm
      rw [hnonce, htime]
      exact ⟨t, hissued, h.past _ t hissued, hclock⟩
  · intro j k c d hj hk hc hd hsame
    rcases hget j c hj with ⟨hji, rfl⟩ | ⟨hji, hj'⟩
    · rcases hget k d hk with ⟨hki, -⟩ | ⟨hki, hk'⟩
      · rw [hji, hki]
      · obtain ⟨t, -, -, hfree⟩ := hlive (hnewConsumed.mp hc)
        exact absurd hd (hfree d (List.mem_of_getElem? hk') (hsame.symm.trans hnonce))
    · rcases hget k d hk with ⟨hki, rfl⟩ | ⟨hki, hk'⟩
      · obtain ⟨t, -, -, hfree⟩ := hlive (hnewConsumed.mp hd)
        exact absurd hc (hfree c (List.mem_of_getElem? hj') (hsame.trans hnonce))
      · exact h.once j k c d hj' hk' hc hd hsame
  · intro c hc
    rw [hcalls] at hc
    rcases List.mem_or_eq_of_mem_set hc with hc | rfl
    · exact h.sound c hc
    · rw [hnew]
      exact hsound found s.clock

/-- A nonce that was not issued before is issued. -/
theorem AuthSystem.Accounted.getNonce (h : s.Accounted env) {nonce : String}
    (hfresh : nonce ∉ s.issued.map Prod.fst) :
      (authStep env s (.getNonce nonce)).Accounted env := by
  have hnot : ∀ t, (nonce, t) ∉ s.issued := fun t ht => hfresh (List.mem_map_of_mem ht)
  have hredis : ∀ n, (authStep env s (.getNonce nonce)).redis (siweNonceKey n) =
      if n = nonce then some (s.clock + nonceTtl) else s.redis (siweNonceKey n) := by
    intro n
    by_cases heq : n = nonce
    · rw [if_pos heq, heq]
      exact Function.update_self ..
    · rw [if_neg heq]
      exact Function.update_of_ne (fun hkey => heq (siweNonceKey_inj.mp hkey)) ..
  constructor
  · intro n t hissued
    rcases List.mem_append.mp hissued with hissued | hnew
    · exact h.past n t hissued
    · have := (Prod.mk.inj (List.mem_singleton.mp hnew)).2
      exact this.le
  · intro n e he
    rw [hredis] at he
    split_ifs at he with heq
    · obtain rfl := Option.some.inj he
      subst heq
      refine ⟨⟨s.clock, List.mem_append_right _ (List.mem_singleton_self _), rfl⟩, ?_⟩
      -- a request that had consumed the nonce would have found it issued
      rintro c hc rfl ⟨time, hdeletion⟩
      obtain ⟨t, hissued, -⟩ := h.spent c hc time hdeletion
      exact hnot t hissued
    · obtain ⟨⟨t, hissued, hexpires⟩, hfree⟩ := h.stored n e he
      exact ⟨⟨t, List.mem_append_left _ hissued, hexpires⟩, hfree⟩
  · intro n t hissued hlive hfree
    rw [hredis]
    rcases List.mem_append.mp hissued with hbefore | hnew
    · have heq : n ≠ nonce := by
        rintro rfl
        exact hnot t hbefore
      rw [if_neg heq]
      exact h.kept n t hbefore hlive hfree
    · obtain ⟨rfl, rfl⟩ := Prod.mk.inj (List.mem_singleton.mp hnew)
      rw [if_pos rfl]
  · intro c hc time hdeletion
    obtain ⟨t, hissued, hlife⟩ := h.spent c hc time hdeletion
    exact ⟨t, List.mem_append_left _ hissued, hlife⟩
  · exact h.once
  · exact h.sound

/-- Time passes. -/
theorem AuthSystem.Accounted.elapse (h : s.Accounted env) (milliseconds : ℕ) :
    (authStep env s (.elapse milliseconds)).Accounted env where
  past := fun nonce t hissued => (h.past nonce t hissued).trans (Nat.le_add_right _ _)
  stored := h.stored
  kept := fun nonce t hissued hlive =>
    h.kept nonce t hissued (le_trans (Nat.le_add_right _ _) hlive)
  spent := h.spent
  once := h.once
  sound := h.sound

/-- A request arrives. -/
theorem AuthSystem.Accounted.arrive (h : s.Accounted env) (request : AuthRequest) :
    (authStep env s (.arrive request)).Accounted env := by
  have hcases : ∀ c ∈ s.calls ++ [({ request } : AuthCall)], c.Consumed → c ∈ s.calls := by
    rintro c hc ⟨time, hdeletion⟩
    rcases List.mem_append.mp hc with hc | hnew
    · exact hc
    · rw [List.mem_singleton.mp hnew] at hdeletion
      cases hdeletion
  have hget : ∀ (j : ℕ) (c : AuthCall), (s.calls ++ [({ request } : AuthCall)])[j]? = some c →
      c.Consumed → s.calls[j]? = some c := by
    rintro j c hj ⟨time, hdeletion⟩
    rcases Nat.lt_or_ge j s.calls.length with hlt | hge
    · rwa [List.getElem?_append_left hlt] at hj
    · rw [List.getElem?_append_right hge] at hj
      have hnew := List.mem_singleton.mp (List.mem_of_getElem? hj)
      rw [hnew] at hdeletion
      cases hdeletion
  constructor
  · exact h.past
  · intro nonce e he
    refine ⟨(h.stored nonce e he).1, ?_⟩
    intro c hc hnonce hconsumed
    exact (h.stored nonce e he).2 c (hcases c hc hconsumed) hnonce hconsumed
  · intro nonce t hissued hlive hfree
    apply h.kept nonce t hissued hlive
    intro c hc
    exact hfree c (List.mem_append_left _ hc)
  · intro c hc time hdeletion
    exact h.spent c (hcases c hc ⟨time, hdeletion⟩) time hdeletion
  · intro i j c d hi hj hc hd
    exact h.once i j c d (hget i c hi hc) (hget j d hj hd) hc hd
  · intro c hc
    rcases List.mem_append.mp hc with hc | hnew
    · exact h.sound c hc
    · rw [List.mem_singleton.mp hnew]
      exact rfl

/-- A request goes on. -/
theorem AuthSystem.Accounted.advance (h : s.Accounted env) {i : ℕ} {call : AuthCall}
    (hi : s.calls[i]? = some call) (now : ℚ) : (s.advance env i now call).Accounted env := by
  have hsound := h.sound call (List.mem_of_getElem? hi)
  unfold AuthCall.Sound at hsound
  unfold AuthSystem.advance
  cases hstage : call.stage with
  | received =>
    rw [hstage] at hsound
    apply h.move hi
    rcases checkHeaders_cases env now call.request with hcheck | ⟨exception, hcheck⟩
    · rw [hcheck]
      exact hsound
    · rw [hcheck]
      trivial
  | readingBody =>
    rw [hstage] at hsound
    apply h.move hi
    cases hcheck : checkSignature env call.request with
    | consuming wallet => exact ⟨hsound, signedBy_of_checkSignature hcheck⟩
    | rejected exception => trivial
    | _ =>
      unfold checkSignature at hcheck
      split at hcheck <;> cases hcheck
  | consuming recovered =>
    rw [hstage] at hsound
    exact h.delete hi hsound.1 fun consumed time => ⟨rfl, hsound.2⟩
  | replied recovered consumed =>
    rw [hstage] at hsound
    apply h.move hi
    unfold checkConsumed
    cases consumed with
    | false => trivial
    | true =>
      obtain ⟨⟨time, reply⟩, hdeletion, hreply⟩ := Option.map_eq_some_iff.mp hsound.1
      exact ⟨⟨time, hdeletion.trans (by rw [← hreply])⟩, hsound.2⟩
  | authenticated wallet => exact h
  | rejected exception => exact h
  | crashed => exact h

/-- A request raises. -/
theorem AuthSystem.Accounted.abort (h : s.Accounted env) {i : ℕ} {call : AuthCall}
    (hi : s.calls[i]? = some call) (executed : Bool) : (s.abort i executed call).Accounted env := by
  have hsound := h.sound call (List.mem_of_getElem? hi)
  unfold AuthCall.Sound at hsound
  unfold AuthSystem.abort
  cases hstage : call.stage with
  | readingBody => exact h.move hi trivial
  | consuming recovered =>
    rw [hstage] at hsound
    cases executed with
    | true =>
      have hcrashed : ∀ consumed time, ({ call with
          stage := .crashed, deletion := some (time, consumed) } : AuthCall).Sound env :=
        fun _ _ => trivial
      exact h.delete hi hsound.1 hcrashed
    | false => exact h.move hi trivial
  | _ => exact h

/-- The nonce that a step issues. -/
def AuthAction.issues : AuthAction → Option String
  | .getNonce nonce => some nonce
  | .elapse _ | .arrive _ | .step .. | .fail .. => none

theorem AuthSystem.issued_advance (i : ℕ) (now : ℚ) (call : AuthCall) :
    (s.advance env i now call).issued = s.issued := by
  unfold AuthSystem.advance
  split <;> rfl

theorem AuthSystem.issued_abort (i : ℕ) (executed : Bool) (call : AuthCall) :
    (s.abort i executed call).issued = s.issued := by
  unfold AuthSystem.abort
  cases call.stage with
  | consuming recovered => cases executed <;> rfl
  | _ => rfl

/-- A step of a run in which no nonce is issued twice. -/
theorem AuthSystem.Accounted.step (h : s.Accounted env) (a : AuthAction)
    (hfresh : ∀ nonce, a.issues = some nonce → nonce ∉ s.issued.map Prod.fst) :
    (authStep env s a).Accounted env ∧
      (authStep env s a).issued.map Prod.fst = s.issued.map Prod.fst ++ a.issues.toList := by
  cases a with
  | elapse milliseconds => exact ⟨h.elapse milliseconds, (List.append_nil _).symm⟩
  | getNonce nonce => exact ⟨h.getNonce (hfresh nonce rfl), List.map_append ..⟩
  | arrive request => exact ⟨h.arrive request, (List.append_nil _).symm⟩
  | step i now =>
    rw [authStep]
    cases hi : s.calls[i]? with
    | none => exact ⟨h, (List.append_nil _).symm⟩
    | some call =>
      refine ⟨h.advance hi now, ?_⟩
      rw [Option.map_some, Option.getD_some, AuthSystem.issued_advance]
      exact (List.append_nil _).symm
  | fail i executed =>
    rw [authStep]
    cases hi : s.calls[i]? with
    | none => exact ⟨h, (List.append_nil _).symm⟩
    | some call =>
      refine ⟨h.abort hi executed, ?_⟩
      rw [Option.map_some, Option.getD_some, AuthSystem.issued_abort]
      exact (List.append_nil _).symm

/-- **Every run** in which no nonce is issued twice. -/
theorem accounted_run (h : s.Accounted env) {actions : List AuthAction}
    (hnodup : (s.issued.map Prod.fst ++ actions.filterMap AuthAction.issues).Nodup) :
    (run (authStep env) s actions).Accounted env ∧
      ((run (authStep env) s actions).issued.map Prod.fst).Nodup := by
  induction actions generalizing s with
  | nil => exact ⟨h, by rwa [List.filterMap_nil, List.append_nil] at hnodup⟩
  | cons a actions ih =>
    rw [List.filterMap_cons] at hnodup
    have hfresh : ∀ nonce, a.issues = some nonce → nonce ∉ s.issued.map Prod.fst := by
      intro nonce hissues hmem
      rw [hissues] at hnodup
      exact (List.nodup_append.mp hnodup).2.2 nonce hmem nonce List.mem_cons_self rfl
    obtain ⟨hstep, hissued⟩ := h.step a hfresh
    apply ih hstep
    rw [hissued, List.append_assoc]
    cases hissues : a.issues with
    | none => rwa [hissues] at hnodup
    | some nonce => rwa [hissues] at hnodup

theorem accounted_init : ({} : AuthSystem).Accounted env where
  past := fun _ _ hissued => absurd hissued List.not_mem_nil
  stored := fun _ _ he => absurd he (Option.some_ne_none _).symm
  kept := fun _ _ hissued => absurd hissued List.not_mem_nil
  spent := fun _ hc => absurd hc List.not_mem_nil
  once := fun _ _ _ _ hi => absurd hi.symm (Option.some_ne_none _)
  sound := fun _ hc => absurd hc List.not_mem_nil

/-- **A nonce authenticates once.** In every interleaving of issues, requests on either surface and
failures, in which no nonce is issued twice: no two requests are authenticated by the same nonce; a
request that is authenticated has taken a nonce that was issued and not expired out of Redis, and
its signature recovers to the claimed address over the message with the nonce, the method, the path
and the hash of the body; and a nonce that was issued can be used until it expires or the `DEL` of a
request has taken it, whatever requests were rejected before theirs. -/
theorem siwe_nonce_single_use (env : SiweEnv) {actions : List AuthAction}
    (hnodup : (actions.filterMap AuthAction.issues).Nodup) :
    let s := run (authStep env) {} actions
    (∀ (i j : ℕ) (c d : AuthCall), s.calls[i]? = some c → s.calls[j]? = some d →
      c.Authenticated → d.Authenticated → c.nonce = d.nonce → i = j) ∧
    (∀ c ∈ s.calls, ∀ wallet, c.stage = .authenticated wallet →
      (∃ t time, (c.nonce, t) ∈ s.issued ∧ c.deletion = some (time, true) ∧ t ≤ time ∧
        time ≤ t + nonceTtl) ∧ c.request.SignedBy env wallet) ∧
    ∀ nonce t, (nonce, t) ∈ s.issued →
      (s.usable nonce = true ↔
        s.clock ≤ t + nonceTtl ∧ ∀ c ∈ s.calls, c.nonce = nonce → ¬c.Consumed) := by
  intro s
  obtain ⟨h, honce⟩ : s.Accounted env ∧ (s.issued.map Prod.fst).Nodup :=
    accounted_run accounted_init hnodup
  have hsound : ∀ c ∈ s.calls, ∀ wallet, c.stage = .authenticated wallet →
      c.Consumed ∧ c.request.SignedBy env wallet := by
    intro c hc wallet hstage
    have := h.sound c hc
    rw [AuthCall.Sound, hstage] at this
    exact this
  refine ⟨?_, ?_, ?_⟩
  · rintro i j c d hi hj ⟨wallet, hc⟩ ⟨wallet', hd⟩ hnonce
    exact h.once i j c d hi hj (hsound c (List.mem_of_getElem? hi) wallet hc).1
      (hsound d (List.mem_of_getElem? hj) wallet' hd).1 hnonce
  · intro c hc wallet hstage
    obtain ⟨⟨time, hdeletion⟩, hsigned⟩ := hsound c hc wallet hstage
    obtain ⟨t, hissued, hle, hwithin⟩ := h.spent c hc time hdeletion
    exact ⟨⟨t, time, hissued, hdeletion, hle, hwithin⟩, hsigned⟩
  · intro nonce t hissued
    rw [AuthSystem.usable, AuthSystem.holds, Option.any_eq_true]
    constructor
    · rintro ⟨e, he, hclock⟩
      obtain ⟨⟨t', hissued', rfl⟩, hfree⟩ := h.stored nonce e he
      -- the nonce was issued once, so the key is of that time
      have hsame : t' = t :=
        (Prod.mk.inj (List.inj_on_of_nodup_map honce hissued' hissued rfl)).2
      exact ⟨hsame ▸ of_decide_eq_true hclock, hfree⟩
    · rintro ⟨hlive, hfree⟩
      exact ⟨t + nonceTtl, h.kept nonce t hissued hlive hfree, decide_eq_true hlive⟩

namespace Sample

/-- Timestamps and hashes that are always good, and a signature that recovers to its own text. -/
def siweEnv : SiweEnv where
  sha256 := fun _ => "00"
  recoverMessage := fun _ signature => .ok signature
  fromisoformat := fun _ => some (.ok 1000)

/-- A request of the payer with the nonce. -/
def signedRequest (surface : AuthSurface) (nonce : String) : AuthRequest where
  surface
  headers :=
    { address := payer.val
      signature := payer.val
      nonce
      issuedAt := "2026-01-01T00:00:00Z"
      expirationTime := "2026-01-01T00:05:00Z" }
  method := "POST"
  path := "/mcp"
  body := []

/-- A nonce is issued, and two requests with it, one on each surface, take their steps in turn. -/
def siweRace : List AuthAction :=
  [.getNonce "nonce", .arrive (signedRequest .rest "nonce"), .arrive (signedRequest .mcp "nonce"),
    .step 0 900, .step 1 900, .step 0 900, .step 1 900, .elapse 20, .step 1 900, .step 0 900,
    .step 0 900, .step 1 900]

end Sample

/-- Two requests race for one nonce: the one whose `DEL` comes first is authenticated, the other is
not, and the nonce is gone. -/
theorem siwe_nonce_single_use_race :
    let s := run (authStep Sample.siweEnv) {} Sample.siweRace
    s.calls.map AuthCall.stage =
        [.rejected ⟨401, "Invalid or already-used nonce"⟩, .authenticated Sample.payer.val] ∧
      s.usable "nonce" = false := by
  intro s
  obtain ⟨-, hauth, husable⟩ :=
    @siwe_nonce_single_use Sample.siweEnv Sample.siweRace (by decide +kernel)
  obtain ⟨hstages, hnonces, hissued⟩ : s.calls.map AuthCall.stage =
        [.rejected ⟨401, "Invalid or already-used nonce"⟩, .authenticated Sample.payer.val] ∧
      s.calls.map AuthCall.nonce = List.replicate 2 "nonce" ∧ ("nonce", 0) ∈ s.issued := by
    decide +kernel
  obtain ⟨c, hc, hstage⟩ : ∃ c ∈ s.calls, c.stage = .authenticated Sample.payer.val := by
    apply List.mem_map.mp
    rw [hstages]
    exact List.mem_cons_of_mem _ List.mem_cons_self
  have hnonce : c.nonce = "nonce" := by
    have hmem : c.nonce ∈ s.calls.map AuthCall.nonce := List.mem_map_of_mem hc
    rw [hnonces] at hmem
    exact List.eq_of_mem_replicate hmem
  obtain ⟨⟨-, time, -, hdeletion, -⟩, -⟩ := hauth c hc _ hstage
  refine ⟨hstages, ?_⟩
  rw [← Bool.not_eq_true, husable "nonce" 0 hissued]
  rintro ⟨-, hfree⟩
  exact hfree c hc hnonce ⟨time, hdeletion⟩

end TripWire
