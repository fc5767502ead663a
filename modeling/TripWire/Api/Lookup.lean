import TripWire.Api.Endpoints
import TripWire.Lib.Machine

/-!
# Finding the endpoints of a recipient

`list_by_recipient` compares the stored recipient with the lower-case spelling of the address it is
asked for, and `match_endpoints` then compares without case.  So an endpoint can be found if its
recipient is stored in lower case: always when it was registered through MCP, and through REST when
the request spelled the address in lower case.  It is found if no other endpoint of the recipient
spoils the list (`listByRecipient_complete_iff`): `Endpoint(**row)` refuses a row whose chains are
not integers, and MCP stores what it is given.

The addresses of a row do not spoil the list, by the invariant `Wellformed`: every owner is an
address, and a recipient that equals an address is one.
-/

namespace TripWire

open Py

/-- A registration, by either route. -/
inductive Registration where
  | rest (env : RegistrationEnv) (wallet : EthAddress) (paid : Bool)
    (body : RegisterEndpointRequest)
  | mcp (env : RegistrationEnv) (agent : EthAddress) (provider : Bool)
      (params : CreateEndpointParams)

namespace Registration

/-- The id drawn for the endpoint. -/
def id : Registration → EndpointId
  | rest env _ _ _ => env.endpointId
  | mcp env _ _ _ => env.endpointId

/-- The recipient that was asked for. -/
def requested : Registration → String
  | rest _ _ _ body => body.recipient
  | mcp _ agent _ params => params.requested agent

/-- The recipient as it is stored. -/
def stored : Registration → String
  | rest _ _ _ body => body.recipient
  | mcp _ agent _ params => lower (params.requested agent)

/-- The registration came through MCP. -/
def isMcp : Registration → Bool
  | rest .. => false
  | mcp .. => true

/-- The table after the registration. -/
def apply (limit : ℕ) (table : EndpointTable) : Registration → EndpointTable
  | rest env wallet paid body => (registerEndpoint limit env wallet paid body table).1
  | mcp env agent provider params => (createEndpointCore limit env agent provider params table).1

/-- A registration leaves the table alone or adds one active row, under its id and with the
recipient as stored, whose owner is an address. -/
theorem apply_cases (limit : ℕ) (table : EndpointTable) (reg : Registration) :
    reg.apply limit table = table ∨
      ∃ row, (reg.apply limit table).rows = table.rows ++ [row] ∧ row.id = reg.id ∧
        row.recipient = reg.stored ∧ row.active = true ∧ isEthAddress row.ownerAddress = true := by
  cases reg with
  | rest env wallet paid body =>
    rcases registerEndpoint_adds limit env wallet paid body table with
      hsame | ⟨-, -, row, hrow, hrows⟩
    · exact .inl hsame
    · refine .inr ⟨row, hrows, ?_⟩
      rcases hrow with rfl | rfl <;> exact ⟨rfl, rfl, rfl, wallet.property⟩
  | mcp env agent provider params =>
    obtain ⟨policies, hadds⟩ := createEndpointCore_adds limit env agent provider params table
    rcases hadds with hsame | ⟨-, -, row, hrow, hrows⟩
    · exact .inl hsame
    · refine .inr ⟨row, hrows, ?_⟩
      rcases hrow with rfl | rfl <;> exact ⟨rfl, rfl, rfl, isEthAddress_lower agent.property⟩

end Registration

/-- Every owner is an address. -/
def Wellformed (table : EndpointTable) : Prop :=
  ∀ row ∈ table.rows, isEthAddress row.ownerAddress = true

theorem Wellformed.apply {table : EndpointTable} (h : Wellformed table) (limit : ℕ)
    (reg : Registration) : Wellformed (reg.apply limit table) := by
  rcases reg.apply_cases limit table with hsame | ⟨row, hrows, -, -, -, howner⟩
  · rw [hsame]
    exact h
  · intro r hr
    rw [hrows, List.mem_append, List.mem_singleton] at hr
    rcases hr with hr | rfl
    · exact h r hr
    · exact howner

/-- No registration removes or changes a row. -/
theorem mem_rows_apply {table : EndpointTable} {row : EndpointRow} (h : row ∈ table.rows)
    (limit : ℕ) (reg : Registration) : row ∈ (reg.apply limit table).rows := by
  rcases reg.apply_cases limit table with hsame | ⟨new, hrows, -⟩
  · rw [hsame]
    exact h
  · rw [hrows]
    exact List.mem_append_left [new] h

/-! ### The listing -/

namespace EndpointRow

variable {reader : ChainReader} {row : EndpointRow}

/-- `Endpoint(**row)` refuses a row whose addresses are well-formed only for its chains. -/
theorem validate_eq_none_iff (hrecipient : isEthAddress row.recipient = true)
    (howner : isEthAddress row.ownerAddress = true) :
    row.validate reader = none ↔ reader.read row.chains = none := by
  unfold validate
  rw [EthAddress.validate_of_isEthAddress hrecipient, EthAddress.validate_of_isEthAddress howner]
  cases reader.read row.chains with
  | none => exact iff_of_true rfl rfl
  | some chains => exact iff_of_false (Option.some_ne_none _) (Option.some_ne_none _)

/-- An endpoint has the id of its row, the chains that are read from it, and its recipient without
the spaces around it. -/
theorem validate_eq_some {e : Endpoint} (h : row.validate reader = some e) :
    e.id = row.id ∧ reader.read row.chains = some e.chains ∧ e.active = row.active ∧
      e.recipient.val = strip row.recipient := by
  unfold validate at h
  simp only [Option.bind_eq_bind, Option.bind_eq_some_iff, Option.pure_def,
    Option.some.injEq] at h
  obtain ⟨chains, hchains, recipient, hrecipient, owner, -, rfl⟩ := h
  unfold EthAddress.validate at hrecipient
  split_ifs at hrecipient
  exact ⟨rfl, hchains, rfl, by rw [← Option.some.inj hrecipient]⟩

/-- Loading rows that validate returns the endpoints of all of them. -/
theorem mapM_load_eq_ok {rows : List EndpointRow} (h : ∀ row ∈ rows, row.validate reader ≠ none) :
    ∃ es, rows.mapM (load reader) = .ok es ∧
      ∀ e, e ∈ es ↔ ∃ row ∈ rows, row.validate reader = some e := by
  refine mapM_eq_ok (fun row e he => ?_) h
  rw [load, he]

/-- Loading rows of which one is refused raises. -/
theorem mapM_load_eq_error {rows : List EndpointRow} (hrow : row ∈ rows)
    (h : row.validate reader = none) : ∃ e, rows.mapM (load reader) = .error e :=
  mapM_eq_error hrow (by rw [load, h])

end EndpointRow

theorem mem_rowsOfRecipient {table : EndpointTable} {recipient : String} {row : EndpointRow} :
    row ∈ table.rowsOfRecipient recipient ↔
      row ∈ table.rows ∧ row.recipient = lower recipient ∧ row.active = true := by
  rw [EndpointTable.rowsOfRecipient, List.mem_filter, Bool.and_eq_true, decide_eq_true_eq]

/-- Of the rows of an address `Endpoint(**row)` refuses those whose chains cannot be read. -/
theorem Wellformed.validate_eq_none_iff {table : EndpointTable} (h : Wellformed table)
    {reader : ChainReader} {recipient : EthAddress} {row : EndpointRow}
    (hrow : row ∈ table.rowsOfRecipient recipient) :
    row.validate reader = none ↔ reader.read row.chains = none := by
  obtain ⟨hmem, hstored, -⟩ := mem_rowsOfRecipient.mp hrow
  refine EndpointRow.validate_eq_none_iff ?_ (h row hmem)
  rw [hstored]
  exact isEthAddress_lower recipient.property

/-- The row of an endpoint of the pipeline's world. -/
def EndpointRow.ofEndpoint (e : Endpoint) : EndpointRow :=
  { e with
    chains := .ofInts e.chains
    recipient := e.recipient.val
    ownerAddress := e.ownerAddress.val }

theorem EndpointRow.load_ofEndpoint (reader : ChainReader) (e : Endpoint) :
    (EndpointRow.ofEndpoint e).load reader = .ok { e with url := strip e.url } := by
  have hrecipient := EthAddress.validate_of_isEthAddress e.recipient.property
  have howner := EthAddress.validate_of_isEthAddress e.ownerAddress.property
  simp [load, validate, ofEndpoint, reader.read_ofInts, hrecipient, howner]

/-- The two models of `list_by_recipient` agree on the endpoints of a world. -/
theorem listByRecipient_ofWorld (reader : ChainReader) (w : World) (recipient : EthAddress) :
    EndpointTable.listByRecipient reader (w.endpoints.map EndpointRow.ofEndpoint fun _ => rfl)
        recipient =
      .ok ((w.listByRecipient recipient).map fun e => { e with url := strip e.url }) := by
  have hload : ∀ es : List Endpoint,
      (es.map EndpointRow.ofEndpoint).mapM (EndpointRow.load reader) =
        Except.ok (es.map fun e => { e with url := strip e.url }) := by
    intro es
    induction es with
    | nil => rfl
    | cons e es ih =>
      rw [List.map_cons, List.mapM_cons, ih, EndpointRow.load_ofEndpoint]
      rfl
  show ((w.endpoints.rows.map EndpointRow.ofEndpoint).filter _).mapM (EndpointRow.load reader) = _
  rw [List.filter_map, hload]
  rfl

/-! ### The theorem -/

/-- The table after a sequence of registrations. -/
def registerAll (limit : ℕ) (table : EndpointTable) (regs : List Registration) : EndpointTable :=
  Machine.run (fun t reg => reg.apply limit t) table regs

theorem wellformed_registerAll {limit : ℕ} {table : EndpointTable} (h : Wellformed table)
    (regs : List Registration) : Wellformed (registerAll limit table regs) :=
  Machine.run_invariant (fun _ reg hw => hw.apply limit reg) regs h

theorem mem_rows_registerAll {limit : ℕ} {table : EndpointTable} {row : EndpointRow}
    (h : row ∈ table.rows) (regs : List Registration) :
    row ∈ (registerAll limit table regs).rows :=
  Machine.run_invariant (I := fun t : EndpointTable => row ∈ t.rows)
    (fun _ reg hmem => mem_rows_apply hmem limit reg) regs h

/-- A row is found under its recipient exactly if that is stored as the lower-case spelling of the
address and the chains of all rows of the address can be read. -/
theorem found_iff_stored_lower {reader : ChainReader} {table : EndpointTable}
    (hw : Wellformed table) {row : EndpointRow} (hmem : row ∈ table.rows)
    (hactive : row.active = true) {t : ERC3009Transfer}
    (hchain : ∀ chains, reader.read row.chains = some chains → t.chainId.value ∈ chains) :
    (∃ es e, table.listByRecipient reader t.toAddress = .ok es ∧ row.validate reader = some e ∧
        e ∈ matchEndpoints t es) ↔
      row.recipient = lower t.toAddress.val ∧
        ∀ row' ∈ table.rowsOfRecipient t.toAddress, reader.read row'.chains ≠ none := by
  unfold EndpointTable.listByRecipient
  by_cases hread : ∀ row' ∈ table.rowsOfRecipient t.toAddress, reader.read row'.chains ≠ none
  · obtain ⟨es, hes, hin⟩ := EndpointRow.mapM_load_eq_ok fun row' hrow' =>
      (hw.validate_eq_none_iff hrow').not.mpr (hread row' hrow')
    constructor
    · rintro ⟨es', e, hes', he, hmatch⟩
      obtain rfl := Except.ok.inj (hes.symm.trans hes')
      obtain ⟨row', hrow', he'⟩ := (hin e).mp (List.mem_of_mem_filter hmatch)
      obtain ⟨hmem', hstored, -⟩ := mem_rowsOfRecipient.mp hrow'
      -- the endpoint has the id of its row, so it is the row itself that was selected
      have hid : row'.id = row.id :=
        (EndpointRow.validate_eq_some he').1.symm.trans (EndpointRow.validate_eq_some he).1
      rw [← table.eq_of_key_eq hmem' hmem hid]
      exact ⟨hstored, hread⟩
    · rintro ⟨hstored, -⟩
      have hrow := mem_rowsOfRecipient.mpr ⟨hmem, hstored, hactive⟩
      obtain ⟨e, he⟩ := Option.ne_none_iff_exists'.mp
        ((hw.validate_eq_none_iff hrow).not.mpr (hread row hrow))
      obtain ⟨-, hchains, hact, hrec⟩ := EndpointRow.validate_eq_some he
      have haddress : isEthAddress row.recipient = true := by
        rw [hstored]
        exact isEthAddress_lower t.toAddress.property
      have hsame : e.recipient.val = lower t.toAddress.val := by
        rw [hrec, strip_of_isEthAddress haddress, hstored]
      refine ⟨es, e, hes, he, List.mem_filter.mpr ⟨(hin e).mpr ⟨row, hrow, he⟩, ?_⟩⟩
      simp [hact, hactive, hsame, hchain _ hchains]
  · refine iff_of_false ?_ fun h => hread h.2
    rintro ⟨es, e, hes, -, -⟩
    obtain ⟨row', hrow', hnone⟩ : ∃ row' ∈ table.rowsOfRecipient t.toAddress,
        reader.read row'.chains = none := by
      simpa using hread
    obtain ⟨e', he'⟩ :=
      EndpointRow.mapM_load_eq_error hrow' ((hw.validate_eq_none_iff hrow').mpr hnone)
    rw [he'] at hes
    cases hes

/-- What is stored is the lower-case spelling, for MCP always and for REST if it was requested so.
-/
theorem Registration.stored_eq_lower_iff (reg : Registration) :
    reg.stored = lower reg.requested ↔ reg.isMcp = true ∨ lower reg.requested = reg.requested := by
  cases reg with
  | rest env wallet paid body => simp [stored, requested, isMcp, eq_comm]
  | mcp env agent provider params => simp [stored, requested, isMcp]

/-- **Which endpoints a transfer finds.** For every sequence of registrations from an empty table,
every row that one of them added, and every transfer to the requested recipient (in any spelling) on
one of the chains that can be read from the row: `list_by_recipient` and `match_endpoints` return
the endpoint if and only if it was registered through MCP or its recipient was requested in lower
case, and the chains of all endpoints that are stored for the recipient can be read. -/
theorem listByRecipient_complete_iff (reader : ChainReader) (limit : ℕ)
    (before : List Registration) (reg : Registration) (later : List Registration)
    (row : EndpointRow) (hfresh : (registerAll limit .empty before).get? reg.id = none)
    (hrow : (registerAll limit .empty (before ++ [reg])).get? reg.id = some row)
    (t : ERC3009Transfer) (hrecipient : lower t.toAddress.val = lower reg.requested)
    (hchain : ∀ chains, reader.read row.chains = some chains → t.chainId.value ∈ chains) :
    (∃ es e, (registerAll limit .empty (before ++ reg :: later)).listByRecipient reader
        t.toAddress = .ok es ∧ row.validate reader = some e ∧ e ∈ matchEndpoints t es) ↔
      (reg.isMcp = true ∨ lower reg.requested = reg.requested) ∧
        ∀ row' ∈ (registerAll limit .empty (before ++ reg :: later)).rowsOfRecipient t.toAddress,
          reader.read row'.chains ≠ none := by
  have hstep : registerAll limit .empty (before ++ [reg]) =
      reg.apply limit (registerAll limit .empty before) := by
    simp [registerAll, Machine.run]
  have hall : registerAll limit .empty (before ++ reg :: later) =
      registerAll limit (reg.apply limit (registerAll limit .empty before)) later := by
    simp [registerAll, Machine.run]
  rw [hstep] at hrow
  obtain ⟨hmem, hid⟩ := KeyedTable.get?_eq_some_iff.mp hrow
  rcases reg.apply_cases limit (registerAll limit .empty before) with
    hsame | ⟨new, hrows, -, hstored, hactive, -⟩
  · rw [hsame, hfresh] at hrow
    cases hrow
  -- the row is the one that the registration added
  obtain rfl : row = new := by
    rw [hrows, List.mem_append, List.mem_singleton] at hmem
    rcases hmem with hold | hnew
    · exact absurd hid (KeyedTable.get?_eq_none_iff.mp hfresh row hold)
    · exact hnew
  have hwell : Wellformed (registerAll limit .empty (before ++ reg :: later)) :=
    wellformed_registerAll (fun _ hr => by cases hr) _
  have hlast : row ∈ (registerAll limit .empty (before ++ reg :: later)).rows := by
    rw [hall]
    exact mem_rows_registerAll hmem later
  rw [found_iff_stored_lower hwell hlast hactive hchain, hstored, hrecipient,
    reg.stored_eq_lower_iff]

namespace Sample

/-- The recipient in the spelling that wallets show. -/
def checksummed : EthAddress := ⟨"0x833589fCD6eDb6E08f4c7C32D4f71b54bdA02913", by decide⟩

/-- A REST registration of an endpoint for `recipient`. -/
def restRegistration (recipient : EthAddress) : Registration :=
  .rest { endpointId := "endpoint" } payer false
    { url := "https://example.com/hook", mode := .notify, chains := onBase, recipient }

/-- A payment to `recipient`. -/
def paymentTo (recipient : EthAddress) : ERC3009Transfer :=
  { onchain 100 with toAddress := recipient }

/-- The row of such a registration. -/
def restRow (recipient : EthAddress) : EndpointRow where
  id := "endpoint"
  url := "https://example.com/hook"
  mode := .notify
  chains := .ofInts [8453]
  recipient := recipient
  ownerAddress := payer

end Sample

/-- An endpoint registered for a lower-case recipient is found. -/
theorem listByRecipient_complete_lower :
    ∃ es e, (registerAll 20 .empty [Sample.restRegistration Sample.payee]).listByRecipient .strict
        (Sample.paymentTo Sample.payee).toAddress = .ok es ∧
      (Sample.restRow Sample.payee).validate .strict = some e ∧
        e ∈ matchEndpoints (Sample.paymentTo Sample.payee) es := by
  refine (listByRecipient_complete_iff .strict 20 [] (Sample.restRegistration Sample.payee) []
    (Sample.restRow Sample.payee) (by decide +kernel) (by decide +kernel)
    (Sample.paymentTo Sample.payee) (by decide +kernel) ?_).mpr
    ⟨.inr (by decide +kernel), by decide +kernel⟩
  intro chains hchains
  obtain rfl := Option.some.inj ((ChainReader.strict.read_ofInts [8453]).symm.trans hchains)
  decide

/-- An endpoint registered through REST for a checksummed recipient is not found by a payment to
just that recipient, on its chain. -/
theorem listByRecipient_checksummed_missed :
    (registerAll 20 .empty [Sample.restRegistration Sample.checksummed]).get? "endpoint" =
        some (Sample.restRow Sample.checksummed) ∧
      (Sample.restRow Sample.checksummed).active = true ∧
      ChainReader.strict.read (Sample.restRow Sample.checksummed).chains =
        some [(Sample.paymentTo Sample.checksummed).chainId.value] ∧
      (registerAll 20 .empty [Sample.restRegistration Sample.checksummed]).listByRecipient .strict
        (Sample.paymentTo Sample.checksummed).toAddress = .ok [] := by
  decide +kernel

-- Somebody else registers an endpoint for the recipient through MCP, on a chain with a name.
example : ∃ e, (registerAll 20 .empty
    [Sample.restRegistration Sample.payee, .mcp { endpointId := "other" } Sample.payer false
      { url := "https://example.com/hook", chains := .list [.str "base"],
        recipient := some Sample.payee.val }]).listByRecipient .strict
      (Sample.paymentTo Sample.payee).toAddress = .error e :=
  ⟨.valueError, by decide +kernel⟩

end TripWire
