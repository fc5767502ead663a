import Mathlib
import TripWire.Lib.Machine
import TripWire.Mcp.SessionTier

/-!
# The rate limit of tool calls

Both tiers count the calls of an address in Redis, under the key `mcp:rate:{address}`: an `INCR`,
and an `EXPIRE` of one minute when the `INCR` has created the counter (`_handle_session_tool_call`
in `tripwire/mcp/server.py`, `before_execution` in `tripwire/mcp/auth.py`).  Any exception of Redis
is swallowed, and the call goes on.

A counter that has its expiry counts calls of the last minute (`RateLimiter.Windowed`), so a call
that is rejected is one of more than sixty of them: `rate_limit_window`.  When the `EXPIRE` is lost
the counter stays, and counts every call from then on (`RateLimiter.Lasting`), so that a call is
rejected as the sixtieth of its minute, or the second: `RateLimiter.not_meets_after_run`.
-/

namespace TripWire

open Py Machine

/-! ### The calls -/

/-- What becomes of a Redis command: it is executed and answered, executed with its answer lost, or
not executed.  The last two raise. -/
inductive RedisFate where
  | answered
  | lost
  | failed
  deriving DecidableEq

/-- A tool call at its rate limit: a session call with the session it has been charged to, or an
x402 call that has passed the gates before. -/
inductive RatedCall where
  | sessionTier (call : SessionToolCall) (session : SessionData)
  | x402Tier (services : X402Services) (ctx : MCPAuthContext)

namespace RatedCall

/-- `ctx.agent_address` of a call that reaches the rate limit, which lets calls without one pass. -/
def address : RatedCall → Option String
  | .sessionTier call session =>
    if distrusts call.tool.minReputation session.reputationScore then none
    else if session.walletAddress = "" then none
    else some session.walletAddress
  | .x402Tier _ ctx => ctx.agentAddress.filter (· ≠ "")

/-- The text of the rejection. -/
def exceeded : String := "Rate limit exceeded: max 60 tool calls per minute"

/-- The call is rejected by the rate limit, where the counter of its address is `counter`, and
`none` when Redis has raised. -/
def Rejected (counter : Option ℤ) : RatedCall → Prop
  | .sessionTier call session =>
    (serveSession { call with rate := counter.getD 0 } session).1 = .error rpcRateLimited exceeded
  | .x402Tier services ctx =>
    ∃ onFailure, checkRate { services with rate := counter } ctx =
      .releasing (.raised ⟨429, exceeded⟩) onFailure

/-- **Who is rejected**: a call with an address whose counter is beyond sixty. -/
theorem rejected_iff {call : RatedCall} {address : String} (h : call.address = some address)
    {counter : Option ℤ} : call.Rejected counter ↔ ∃ n, counter = some n ∧ 60 < n := by
  cases call with
  | sessionTier call session =>
    rw [RatedCall.address] at h
    split_ifs at h with hdistrusted hempty
    have hcounter : (∃ n, counter = some n ∧ 60 < n) ↔ 60 < counter.getD 0 := by
      cases counter with
      | none => simp
      | some n => simp
    rw [hcounter, Rejected, serveSession, if_neg hdistrusted]
    dsimp only
    by_cases hlimit : 60 < counter.getD 0
    · exact iff_of_true (by rw [if_pos ⟨hempty, hlimit⟩]; rfl) hlimit
    · refine iff_of_false ?_ hlimit
      rw [if_neg fun h => hlimit h.2]
      cases call.outcome with
      | raises => simp [rpcInternalError, rpcRateLimited]
      | returns result => simp
  | x402Tier services ctx =>
    have hagent : ctx.agentAddress = some address := (Option.filter_eq_some_iff.mp h).1
    have hany : (counter.any (60 < ·)) = true ↔ ∃ n, counter = some n ∧ 60 < n := by
      cases counter with
      | none => simp
      | some n => simp
    rw [← hany, Rejected, checkRate, hagent]
    dsimp only
    split_ifs with hlimit
    · exact iff_of_true ⟨_, rfl⟩ hlimit
    · exact iff_of_false (by simp) hlimit

/-- Without an address no call is rejected. -/
theorem not_rejected {call : RatedCall} (h : call.address = none) {counter : Option ℤ}
    (hcounter : counter = none) : ¬call.Rejected counter := by
  subst hcounter
  cases call with
  | sessionTier call session =>
    rw [Rejected, serveSession]
    dsimp only
    split_ifs with hdistrusted hlimit
    · simp [rpcReputationTooLow, rpcRateLimited]
    · exact absurd hlimit.2 (by simp)
    · cases call.outcome with
      | raises => simp [rpcInternalError, rpcRateLimited]
      | returns result => simp
  | x402Tier services ctx =>
    rw [Rejected, checkRate]
    cases ctx.agentAddress with
    | none => simp
    | some agent => simp

end RatedCall

/-! ### The counters -/

/-- A counter in Redis, with the time at which it expires. -/
structure RateCounter where
  value : ℕ
  expiresAt : Option ℕ
  deriving DecidableEq

/-- The length of the window, in milliseconds. -/
def rateWindow : ℕ := 60 * 1000

/-- Redis, whose clock counts milliseconds: the counters of the addresses, and, for each `INCR` that
was executed, its address and time. -/
structure RateLimiter where
  clock : ℕ := 0
  counters : String → Option RateCounter := fun _ => none
  counted : List (String × ℕ) := []

/-- What happens next. -/
inductive RateAction where
  | elapse (milliseconds : ℕ)
  | call (call : RatedCall) (incr expire : RedisFate)

namespace RateLimiter

/-- The counter of an address, unless it has expired: Redis keeps a key until its time is past. -/
def live (s : RateLimiter) (address : String) : Option RateCounter :=
  (s.counters address).filter fun c => c.expiresAt.all (s.clock ≤ ·)

/-- The counter that an `INCR` leaves: a new one has no expiry. -/
def incremented (s : RateLimiter) (address : String) : RateCounter :=
  match s.live address with
  | some c => { c with value := c.value + 1 }
  | none => { value := 1, expiresAt := none }

/-- The counter after the two commands of a call whose `INCR` is executed. -/
def countedAs (s : RateLimiter) (address : String) (incr expire : RedisFate) : RateCounter :=
  let c := s.incremented address
  -- the `EXPIRE` is sent when the answer to the `INCR` is 1
  if incr = .answered ∧ c.value = 1 ∧ expire ≠ .failed then
    { c with expiresAt := some (s.clock + rateWindow) }
  else c

/-- The rate limit of a call of an address. -/
def countCall (s : RateLimiter) (address : String) (incr expire : RedisFate) : RateLimiter :=
  if incr = .failed then s
  else
    { s with
      counters := Function.update s.counters address (some (s.countedAs address incr expire))
      counted := s.counted ++ [(address, s.clock)] }

/-- `current`, unless a command has raised before it is compared. -/
def current (s : RateLimiter) (address : String) (incr expire : RedisFate) : Option ℤ :=
  let c := s.incremented address
  if incr ≠ .answered ∨ (c.value = 1 ∧ expire ≠ .answered) then none else some c.value

/-- The state after an action. -/
def step (s : RateLimiter) : RateAction → RateLimiter
  | .elapse milliseconds => { s with clock := s.clock + milliseconds }
  | .call call incr expire =>
    match call.address with
    | none => s
    | some address => s.countCall address incr expire

/-- How many calls of the address were counted in the last minute. -/
def countedRecently (s : RateLimiter) (address : String) : ℕ :=
  s.counted.countP fun c => c.1 = address ∧ s.clock ≤ c.2 + rateWindow

/-- **The law.** A call that is rejected is one of more than sixty calls of its address that were
counted in the last minute. -/
def WindowLaw (s : RateLimiter) : RateAction → Prop
  | .elapse _ => True
  | .call call incr expire =>
    call.Rejected (call.address.bind fun address => s.current address incr expire) →
      ∃ address, call.address = some address ∧
        60 < (s.step (.call call incr expire)).countedRecently address

/-- An `INCR` that creates a counter is answered, and the `EXPIRE` after it is executed. -/
def ExpirySet (s : RateLimiter) : RateAction → Prop
  | .elapse _ => True
  | .call call incr expire =>
    ∀ address, call.address = some address → s.live address = none →
      incr = .failed ∨ (incr = .answered ∧ expire ≠ .failed)

/-! ### The invariant -/

theorem live_eq_some {s : RateLimiter} {address : String} {c : RateCounter} :
    s.live address = some c ↔
      s.counters address = some c ∧ ∀ e, c.expiresAt = some e → s.clock ≤ e := by
  rw [live, Option.filter_eq_some_iff]
  cases c.expiresAt with
  | none => simp
  | some e => simp

/-- A counter is live for no longer than it was. -/
theorem live_of_live_elapse {s : RateLimiter} {milliseconds : ℕ} {address : String}
    {c : RateCounter} (h : (s.step (.elapse milliseconds)).live address = some c) :
    s.live address = some c := by
  rw [live_eq_some] at h ⊢
  refine ⟨h.1, fun e he => ?_⟩
  have hlater : s.clock + milliseconds ≤ e := h.2 e he
  omega

/-- The counted calls of the address that a counter which expires at `e` may hold: those of the
minute that ends at `e`. -/
def heldUntil (s : RateLimiter) (address : String) (e : ℕ) : ℕ :=
  s.counted.countP fun c => c.1 = address ∧ e ≤ c.2 + rateWindow

/-- Every live counter expires within the minute, and holds no more than the calls of the minute
that ends when it expires. -/
def Windowed (s : RateLimiter) : Prop :=
  ∀ address c, s.live address = some c → 0 < c.value ∧ ∃ e, c.expiresAt = some e ∧
    e ≤ s.clock + rateWindow ∧ c.value ≤ s.heldUntil address e

theorem windowed_start (start : ℕ) : Windowed { clock := start } := by
  intro address c h
  exact absurd (live_eq_some.mp h).1 (by simp)

/-- What is counted is held by every counter that expires within the minute. -/
theorem heldUntil_countCall {s : RateLimiter} {address : String} {incr expire : RedisFate}
    (hincr : incr ≠ .failed) {e : ℕ} (he : e ≤ s.clock + rateWindow) :
    (s.countCall address incr expire).heldUntil address e = s.heldUntil address e + 1 := by
  rw [countCall, if_neg hincr, heldUntil, heldUntil, List.countP_append]
  simp [he]

theorem heldUntil_countCall_of_ne {s : RateLimiter} {address other : String}
    {incr expire : RedisFate} (hne : address ≠ other) (e : ℕ) :
    (s.countCall address incr expire).heldUntil other e = s.heldUntil other e := by
  unfold countCall
  split_ifs with hincr
  · rfl
  · rw [heldUntil, heldUntil, List.countP_append]
    simp [hne]

theorem live_countCall_of_ne {s : RateLimiter} {address other : String} {incr expire : RedisFate}
    (hne : address ≠ other) : (s.countCall address incr expire).live other = s.live other := by
  unfold countCall
  split_ifs with hincr
  · rfl
  · have hother : Function.update s.counters address (some (s.countedAs address incr expire))
        other = s.counters other := Function.update_of_ne hne.symm _ _
    exact congrArg (Option.filter _) hother

/-- The counter that is left by a call whose `INCR` is executed. -/
theorem counters_countCall {s : RateLimiter} {address : String} {incr expire : RedisFate}
    (hincr : incr ≠ .failed) :
    (s.countCall address incr expire).counters address =
      some (s.countedAs address incr expire) := by
  rw [countCall, if_neg hincr]
  exact Function.update_self _ _ _

/-- A counter that is live is incremented, and its expiry stays. -/
theorem countedAs_of_live {s : RateLimiter} {address : String} {c : RateCounter}
    (h : s.live address = some c) (hvalue : 0 < c.value) (incr expire : RedisFate) :
    s.countedAs address incr expire = { c with value := c.value + 1 } := by
  rw [countedAs, incremented, h]
  exact if_neg fun hset => by
    have hone : c.value + 1 = 1 := hset.2.1
    omega

/-- A new counter, of a call that sets the expiry. -/
theorem countedAs_of_not_live {s : RateLimiter} {address : String} (h : s.live address = none)
    {expire : RedisFate} (hexpire : expire ≠ .failed) :
    s.countedAs address .answered expire =
      { value := 1, expiresAt := some (s.clock + rateWindow) } := by
  rw [countedAs, incremented, h]
  exact if_pos ⟨rfl, rfl, hexpire⟩

/-- **The step lemma**, for the counter of the address that calls. -/
theorem windowed_countedAs {s : RateLimiter} (hs : s.Windowed) {address : String}
    {incr expire : RedisFate} (hincr : incr ≠ .failed)
    (hset : s.live address = none → incr = .answered ∧ expire ≠ .failed) :
    ∃ e, (s.countedAs address incr expire).expiresAt = some e ∧ s.clock ≤ e ∧
      e ≤ s.clock + rateWindow ∧ (s.countedAs address incr expire).value ≤
        (s.countCall address incr expire).heldUntil address e := by
  cases hlive : s.live address with
  | none =>
    obtain ⟨rfl, hexpire⟩ := hset hlive
    rw [countedAs_of_not_live hlive hexpire]
    refine ⟨_, rfl, Nat.le_add_right _ _, le_rfl, ?_⟩
    rw [heldUntil_countCall hincr le_rfl]
    exact Nat.le_add_left _ _
  | some c =>
    obtain ⟨hvalue, e, hexpires, hwithin, hheld⟩ := hs address c hlive
    have hnow : s.clock ≤ e := (live_eq_some.mp hlive).2 e hexpires
    rw [countedAs_of_live hlive hvalue]
    refine ⟨e, hexpires, hnow, hwithin, ?_⟩
    rw [heldUntil_countCall hincr hwithin]
    exact Nat.succ_le_succ hheld

theorem clock_countCall (s : RateLimiter) (address : String) (incr expire : RedisFate) :
    (s.countCall address incr expire).clock = s.clock := by
  unfold countCall
  split_ifs with hincr
  · rfl
  · rfl

theorem incremented_value_pos (s : RateLimiter) (address : String) :
    0 < (s.incremented address).value := by
  rw [incremented]
  cases s.live address with
  | none => exact Nat.one_pos
  | some c => exact Nat.succ_pos _

/-- The `EXPIRE` does not touch the value. -/
theorem countedAs_value (s : RateLimiter) (address : String) (incr expire : RedisFate) :
    (s.countedAs address incr expire).value = (s.incremented address).value := by
  unfold countedAs
  dsimp only
  split_ifs with hset
  · rfl
  · rfl

/-- **The step lemma.** -/
theorem windowed_step {s : RateLimiter} (hs : s.Windowed) {a : RateAction} (ha : s.ExpirySet a) :
    (s.step a).Windowed := by
  intro other c hlive
  cases a with
  | elapse milliseconds =>
    obtain ⟨hvalue, e, hexpires, hwithin, hheld⟩ := hs other c (live_of_live_elapse hlive)
    have hlater : e ≤ s.clock + milliseconds + rateWindow := by omega
    exact ⟨hvalue, e, hexpires, hlater, hheld⟩
  | call call incr expire =>
    cases haddress : call.address with
    | none =>
      rw [step, haddress] at hlive ⊢
      exact hs other c hlive
    | some address =>
      rw [step, haddress] at hlive ⊢
      dsimp only at hlive ⊢
      rw [clock_countCall]
      by_cases hne : address = other
      · subst hne
        by_cases hincr : incr = .failed
        · rw [countCall, if_pos hincr] at hlive ⊢
          exact hs address c hlive
        · have hc : s.countedAs address incr expire = c := Option.some_injective _
            ((counters_countCall hincr).symm.trans (live_eq_some.mp hlive).1)
          obtain ⟨e, hexpires, -, hwithin, hheld⟩ := windowed_countedAs hs hincr
            fun hnone => (ha address haddress hnone).resolve_left hincr
          rw [hc] at hexpires hheld
          have hvalue : 0 < c.value := by
            rw [← hc, countedAs_value]
            exact incremented_value_pos s address
          exact ⟨hvalue, e, hexpires, hwithin, hheld⟩
      · rw [live_countCall_of_ne hne] at hlive
        obtain ⟨hvalue, e, hexpires, hwithin, hheld⟩ := hs other c hlive
        exact ⟨hvalue, e, hexpires, hwithin, (heldUntil_countCall_of_ne hne e).symm ▸ hheld⟩

/-- The minute that ends when a counter expires began no earlier than the minute that ends now. -/
theorem heldUntil_le_countedRecently {s : RateLimiter} {e : ℕ} (he : s.clock ≤ e)
    (address : String) : s.heldUntil address e ≤ s.countedRecently address := by
  refine List.countP_mono_left fun c _ hc => ?_
  rw [decide_eq_true_eq] at hc ⊢
  exact ⟨hc.1, he.trans hc.2⟩

/-- A rejected call is one of more than sixty of the minute, while every counter has its expiry. -/
theorem windowLaw_of_windowed {s : RateLimiter} (hs : s.Windowed) {a : RateAction}
    (ha : s.ExpirySet a) : s.WindowLaw a := by
  cases a with
  | elapse milliseconds => trivial
  | call call incr expire =>
    intro hrejected
    cases haddress : call.address with
    | none =>
      rw [haddress] at hrejected
      exact absurd hrejected (RatedCall.not_rejected haddress rfl)
    | some address =>
      rw [haddress] at hrejected
      obtain ⟨n, hcurrent, hbeyond⟩ := (RatedCall.rejected_iff haddress).mp hrejected
      -- the answer that is compared is that of an executed `INCR`
      have hcurrent' : s.current address incr expire = some n := hcurrent
      rw [current] at hcurrent'
      split_ifs at hcurrent' with hraised
      rw [not_or, not_not] at hraised
      obtain ⟨rfl, -⟩ := hraised
      have hvalue : ((s.incremented address).value : ℤ) = n := Option.some_injective _ hcurrent'
      have hset : s.live address = none → RedisFate.answered = .answered ∧ expire ≠ .failed :=
        fun hnone => (ha address haddress hnone).resolve_left (by decide)
      obtain ⟨e, -, hnow, -, hheld⟩ := windowed_countedAs hs (by decide) hset
      refine ⟨address, rfl, ?_⟩
      have hafter : s.step (.call call .answered expire) =
          s.countCall address .answered expire := by rw [step, haddress]
      rw [hafter]
      have hclock : (s.countCall address .answered expire).clock ≤ e :=
        (clock_countCall s address .answered expire).symm ▸ hnow
      have hsixty : 60 < (s.countedAs address .answered expire).value := by
        rw [countedAs_value]
        omega
      exact hsixty.trans_le (hheld.trans (heldUntil_le_countedRecently hclock address))

end RateLimiter

open RateLimiter

/-- **The rate limit is a window while every counter gets its expiry.**  In every run in which each
call that creates a counter also sets its expiry, whatever else fails, a call is rejected only as
one of more than sixty calls of its address in the last minute, itself included. -/
theorem rate_limit_window (start : ℕ) (actions : List RateAction)
    (h : Meets step ExpirySet { clock := start } actions) :
    Meets step WindowLaw { clock := start } actions :=
  meets_of_meets (fun _ _ hs ha => ⟨windowLaw_of_windowed hs ha, windowed_step hs ha⟩)
    (windowed_start start) h

namespace Sample

/-- A call of a free tool by a session. -/
def ratedCall : RatedCall :=
  .sessionTier { tool := { cost := 0 }, now := 0, rate := 0, outcome := .returns [] }
    { walletAddress := "0x1234", budgetTotal := 0, budgetRemaining := 0, expiresAt := 0
      ttlSeconds := 0, chainId := 8453, reputationScore := 0, agentClass := "agent" }

theorem address_ratedCall : ratedCall.address = some "0x1234" := by decide +kernel

/-- The call, with Redis in order. -/
def answeredCall : RateAction := .call ratedCall .answered .answered

theorem expirySet_answeredCalls (calls : ℕ) {s : RateLimiter} :
    Meets step ExpirySet s (List.replicate calls answeredCall) := by
  induction calls generalizing s with
  | zero => trivial
  | succ calls ih => exact ⟨fun _ _ _ => .inr ⟨rfl, by decide⟩, ih⟩

end Sample

/-- Sixty calls of one minute pass, and the sixty-first is rejected. -/
theorem rate_limit_window_sixty_one_calls :
    Sample.ratedCall.Rejected
        ((run step { clock := 0 } (List.replicate 60 Sample.answeredCall)).current "0x1234"
          .answered .answered) ∧
      Meets step WindowLaw { clock := 0 } (List.replicate 61 Sample.answeredCall) := by
  constructor
  · exact (RatedCall.rejected_iff Sample.address_ratedCall).mpr ⟨61, by decide +kernel, by decide⟩
  · exact rate_limit_window 0 _ (Sample.expirySet_answeredCalls 61)

/-! ### A counter without an expiry -/

namespace RateLimiter

/-- The address has a counter that never expires, with `value` calls in it, of which `recent` are of
the last minute. -/
structure Lasting (s : RateLimiter) (address : String) (value recent : ℕ) : Prop where
  counter : s.counters address = some { value := value, expiresAt := none }
  recently : s.countedRecently address = recent

/-- What a call of the address counts. -/
theorem countedRecently_countCall {s : RateLimiter} {address : String} {incr expire : RedisFate}
    (hincr : incr ≠ .failed) :
    (s.countCall address incr expire).countedRecently address = s.countedRecently address + 1 := by
  rw [countCall, if_neg hincr, countedRecently, countedRecently, List.countP_append]
  simp

/-- A call whose `EXPIRE` fails, or which misses the answer to its `INCR`, leaves a counter without
expiry. -/
theorem lasting_countCall {s : RateLimiter} {address : String} (hlive : s.live address = none)
    {incr expire : RedisFate} (hincr : incr ≠ .failed)
    (hunset : ¬(incr = .answered ∧ expire ≠ .failed)) :
    (s.countCall address incr expire).counters address =
      some { value := 1, expiresAt := none } := by
  rw [counters_countCall hincr, countedAs, incremented, hlive]
  exact congrArg some (if_neg fun hset => hunset ⟨hset.1, hset.2.2⟩)

theorem Lasting.live {s : RateLimiter} {address : String} {value recent : ℕ}
    (h : s.Lasting address value recent) :
    s.live address = some { value := value, expiresAt := none } :=
  live_eq_some.mpr ⟨h.counter, fun _ he => nomatch he⟩

/-- A later call is counted by it. -/
theorem Lasting.countCall {s : RateLimiter} {address : String} {value recent : ℕ}
    (h : s.Lasting address value recent) (hvalue : 0 < value) :
    (s.countCall address .answered .answered).Lasting address (value + 1) (recent + 1) where
  counter := by
    rw [counters_countCall (by decide), countedAs_of_live h.live hvalue]
  recently := by
    rw [countedRecently_countCall (by decide), h.recently]

/-- The sixty-first call on it is rejected, however few of the calls were made in the last
minute. -/
theorem not_windowLaw_of_lasting {s : RateLimiter} {call : RatedCall} {address : String}
    (haddress : call.address = some address) {value recent : ℕ} (h : s.Lasting address value recent)
    (hvalue : 60 ≤ value) (hrecent : recent < 60) :
    ¬s.WindowLaw (.call call .answered .answered) := by
  intro hlaw
  have hcurrent : s.current address .answered .answered = some ((value + 1 : ℕ) : ℤ) := by
    rw [current, incremented, h.live]
    exact if_neg (by simp)
  have hrejected : call.Rejected
      (call.address.bind fun address => s.current address .answered .answered) := by
    rw [haddress]
    refine (RatedCall.rejected_iff haddress).mpr ⟨_, hcurrent, ?_⟩
    omega
  obtain ⟨other, hother, hrecently⟩ := hlaw hrejected
  obtain rfl : address = other := Option.some_injective _ (haddress.symm.trans hother)
  rw [step, haddress] at hrecently
  have hcounted : (s.countCall address .answered .answered).countedRecently address = recent + 1 :=
    (countedRecently_countCall (by decide)).trans (congrArg (· + 1) h.recently)
  dsimp only at hrecently
  omega

/-- Sixty calls on a counter without expiry break the law, if that many were not made in the last
minute. -/
theorem not_meets_of_lasting {call : RatedCall} {address : String}
    (haddress : call.address = some address) (calls : ℕ) {s : RateLimiter} {value recent : ℕ}
    (h : s.Lasting address value recent) (hvalue : 0 < value) (hsixty : value + calls = 60)
    (hrecent : recent < value) :
    ¬Meets step WindowLaw s (List.replicate (calls + 1) (.call call .answered .answered)) := by
  induction calls generalizing s value recent with
  | zero =>
    intro hmeets
    exact not_windowLaw_of_lasting haddress h (by omega) (by omega) hmeets.1
  | succ calls ih =>
    intro hmeets
    have hstep : s.step (.call call .answered .answered) =
        s.countCall address .answered .answered := by rw [step, haddress]
    have htail := hmeets.2
    rw [hstep] at htail
    exact ih (h.countCall hvalue) (by omega) (by omega) (by omega) htail

/-- Nothing is counted at a time to come. -/
def Past (s : RateLimiter) : Prop := ∀ c ∈ s.counted, c.2 ≤ s.clock

/-- **The condition cannot be left out.**  Once a call leaves a counter without expiry, a minute and
sixty more calls are enough to have a call rejected as the sixtieth of its minute. -/
theorem not_meets_of_not_expirySet {s : RateLimiter} (hs : s.Past) {call : RatedCall}
    {incr expire : RedisFate} (h : ¬s.ExpirySet (.call call incr expire)) :
    ¬Meets step WindowLaw s (.call call incr expire :: .elapse (rateWindow + 1) ::
      List.replicate 60 (.call call .answered .answered)) := by
  simp only [ExpirySet, not_forall, not_or] at h
  obtain ⟨address, haddress, hlive, hincr, hunset⟩ := h
  intro hmeets
  have hcalls := hmeets.2.2
  have hstep : s.step (.call call incr expire) = s.countCall address incr expire := by
    rw [step, haddress]
  rw [hstep] at hcalls
  suffices hlasting : ((s.countCall address incr expire).step (.elapse (rateWindow + 1))).Lasting
      address 1 0 from
    not_meets_of_lasting haddress 59 hlasting Nat.one_pos rfl Nat.one_pos hcalls
  constructor
  · exact lasting_countCall hlive hincr hunset
  · refine List.countP_eq_zero.mpr fun c hc => ?_
    rw [decide_eq_true_eq, not_and]
    intro _
    have hpast : c.2 ≤ s.clock := by
      rw [step, countCall, if_neg hincr, List.mem_append, List.mem_singleton] at hc
      obtain hc | rfl := hc
      · exact hs c hc
      · exact le_rfl
    have hclock : ((s.countCall address incr expire).step (.elapse (rateWindow + 1))).clock =
        s.clock + (rateWindow + 1) := congrArg (· + (rateWindow + 1)) (clock_countCall ..)
    omega

theorem past_step {s : RateLimiter} (hs : s.Past) (a : RateAction) : (s.step a).Past := by
  cases a with
  | elapse milliseconds =>
    intro c hc
    exact (hs c hc).trans (Nat.le_add_right _ _)
  | call call incr expire =>
    rw [step]
    cases call.address with
    | none => exact hs
    | some address =>
      dsimp only
      intro c hc
      rw [clock_countCall]
      rw [countCall] at hc
      split_ifs at hc with hincr
      · exact hs c hc
      · rw [List.mem_append, List.mem_singleton] at hc
        obtain hc | rfl := hc
        · exact hs c hc
        · exact le_rfl

/-- So it is in every run. -/
theorem not_meets_after_run (start : ℕ) (actions : List RateAction) {call : RatedCall}
    {incr expire : RedisFate}
    (h : ¬(run step { clock := start } actions).ExpirySet (.call call incr expire)) :
    ¬Meets step WindowLaw (run step { clock := start } actions)
      (.call call incr expire :: .elapse (rateWindow + 1) ::
        List.replicate 60 (.call call .answered .answered)) := by
  have hstart : Past { clock := start } := fun c hc => absurd hc List.not_mem_nil
  have hpast : (run step { clock := start } actions).Past :=
    run_invariant (I := Past) (fun _ a hs => past_step hs a) actions hstart
  exact not_meets_of_not_expirySet hpast h

end RateLimiter

/-- The `EXPIRE` of the first call fails; a minute later sixty calls of one minute are too many. -/
theorem rate_limit_lost_expiry :
    ¬∀ (start : ℕ) (actions : List RateAction),
      Meets step WindowLaw { clock := start } actions := by
  intro hlaw
  have hunset : ¬ExpirySet { clock := 0 } (.call Sample.ratedCall .answered .failed) := by
    intro hset
    obtain hincr | ⟨-, hexpire⟩ := hset "0x1234" Sample.address_ratedCall rfl
    · exact absurd hincr (by decide)
    · exact hexpire rfl
  exact not_meets_after_run 0 [] hunset (hlaw 0 _)

end TripWire
