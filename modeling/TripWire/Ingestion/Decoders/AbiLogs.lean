import Mathlib
import TripWire.Ingestion.Decoders.TopicText
import TripWire.Py.Hex

/-!
# Decoding the logs of Solidity events

An event with arguments of static types is emitted as a log: the indexed arguments are topics, the
others are in the data.  `decode_event_with_abi` leaves the data to `eth_abi`, which undoes the
encoding, and reads the topics itself (`readTopic`): it reads a signed integer as an unsigned one,
and it gives a byte string together with its padding.  So it returns the arguments of the event
exactly when no indexed one is a negative integer or a byte string shorter than the word
(`decodeEventWithAbi_inverts_iff`).
-/

namespace TripWire

open Py Abi

/-- The Python value of an argument: addresses and byte strings are text. -/
def valueOf : Argument → Value
  | .uint _ v _ => .int v
  | .int _ v _ => .int v
  | .address bs _ => .str (hexText bs)
  | .bool b => .bool b
  | .bytes bs _ => .str (hexText bs)

/-- The argument as `eth_abi.decode` returns it. -/
def abiValueOf : Argument → AbiValue
  | .bytes bs _ => .bytes bs
  | a => .value (valueOf a)

/-- The topic of an indexed argument. -/
def topicOf (a : Argument) : String := hexText a.word

/-- What `decode_event_with_abi` takes from that topic. -/
def readTopic : Argument → Value
  | .int _ v _ => .int (v % 2 ^ 256)
  | .bytes bs length => .str (topicOf (.bytes bs length))
  | a => valueOf a

/-- The arguments whose topic is read as the argument. -/
def ReadsBack : Argument → Prop
  | .int _ v _ => 0 ≤ v
  | .bytes bs _ => bs.length = 32
  | _ => True

/-- A parameter of an event with its argument. -/
structure EventParameter where
  name : String
  indexed : Bool
  arg : Argument

/-- An entry of `inputs` describes a parameter; keys that the decoder does not read are free. -/
structure DescribesParameter (inp : Dict) (p : EventParameter) : Prop where
  name : inp.get? "name" = some (.str p.name)
  type : inp.get? "type" = some (.str p.arg.typeName)
  indexed : isIndexed inp = p.indexed

/-- The event entry of an ABI fragment describes the parameters. -/
def DescribesEvent (abi : List Dict) (ps : List EventParameter) : Prop :=
  ∃ entry inputs, abi.find? (fun entry => entry.get? "type" = some (.str "event")) = some entry ∧
    entry.get? "inputs" = some (.list (inputs.map .dict)) ∧
    List.Forall₂ DescribesParameter inputs ps

/-- The topics of the log: the hash of the signature and the indexed arguments. -/
def eventTopics (signature : List UInt8) (ps : List EventParameter) : List String :=
  hexText signature :: (ps.filter (·.indexed)).map fun p => topicOf p.arg

/-- The arguments in the data of the log. -/
def dataArguments (ps : List EventParameter) : List Argument :=
  (ps.filter (!·.indexed)).map (·.arg)

/-- A row holds the log of an event: the topics are a list or a text with commas, and the block
number and the log index are readable. -/
structure HoldsEvent (raw : RawLog) (ps : List EventParameter) : Prop where
  topics : ∃ signature : List UInt8, raw.topics = .list (eventTopics signature ps) ∨
    raw.topics = .text (",".intercalate (eventTopics signature ps))
  data : raw.data = hexText (encode (dataArguments ps))
  blockNumber : ∃ n, toInt raw.blockNumber = .ok n
  logIndex : ∃ n, toInt raw.logIndex = .ok n

/-! ### Topics -/

theorem startsWith_append (p s : String) : startsWith (p ++ s) p = true := by
  rw [startsWith, List.isPrefixOf_iff_prefix, String.toList_append]
  exact List.prefix_append p.toList s.toList

theorem append_ne {p t : String} (h : startsWith t p = false) (s : String) : p ++ s ≠ t := by
  rintro rfl
  rw [startsWith_append] at h
  cases h

/-- The names of the types are told apart as the decoder does it. -/
theorem typeName_spec (s : String) :
    ("uint" ++ s ≠ "address" ∧ "uint" ++ s ≠ "bytes32" ∧ "uint" ++ s ≠ "bytes" ∧
      startsWith ("uint" ++ s) "uint" = true) ∧
    ("int" ++ s ≠ "address" ∧ "int" ++ s ≠ "bytes32" ∧ "int" ++ s ≠ "bytes" ∧
      startsWith ("int" ++ s) "int" = true) ∧
    "bytes" ++ s ≠ "address" ∧ "bytes" ++ s ≠ "bool" ∧
      startsWith ("bytes" ++ s) "uint" = false ∧ startsWith ("bytes" ++ s) "int" = false := by
  have hchars : ("bytes" ++ s).toList = 'b' :: ("ytes".toList ++ s.toList) := by
    rw [String.toList_append]
    rfl
  refine ⟨⟨?_, ?_, ?_, startsWith_append _ _⟩, ⟨?_, ?_, ?_, startsWith_append _ _⟩, ?_, ?_, ?_, ?_⟩
  any_goals exact append_ne (by decide +kernel) s
  · rw [startsWith, hchars]
    rfl
  · rw [startsWith, hchars]
    rfl

/-- The last forty digits of the topic of an address. -/
theorem drop_topicOf_address {bs : List UInt8} (length : bs.length = 20) :
    let body := dropHexMark (topicOf (.address bs length)).toList
    body.drop (body.length - 40) = (toHex bs).toList := by
  have hlength : (toHex (Argument.address bs length).word).toList.length - 40 = 24 := by
    rw [length_toList_toHex, Argument.length_word]
  simp only [topicOf, dropHexMark_hexText, hlength]
  rw [Argument.word, toList_toHex_append]
  exact List.drop_left' (by rw [length_toList_toHex, List.length_replicate])

theorem topicValue_topicOf (a : Argument) :
    topicValue a.typeName (topicOf a) = .ok (readTopic a) := by
  have hint : int16 (topicOf a) = .ok (natBE a.word) := by
    apply int16_hexText
    intro hnil
    have hlength := a.length_word
    rw [hnil] at hlength
    cases hlength
  cases a with
  | uint bits v range =>
    obtain ⟨h1, h2, h3, h4⟩ := (typeName_spec (toString bits.val)).1
    rw [Argument.typeName, topicValue, if_neg h1, if_neg (not_or.mpr ⟨h2, h3⟩), if_pos (.inl h4),
      hint, Argument.natBE_word_uint]
    rfl
  | int bits v range =>
    obtain ⟨h1, h2, h3, h4⟩ := (typeName_spec (toString bits.val)).2.1
    rw [Argument.typeName, topicValue, if_neg h1, if_neg (not_or.mpr ⟨h2, h3⟩), if_pos (.inr h4),
      hint]
    exact congrArg (fun n => Except.ok (Value.int n)) (Argument.natBE_word_int range)
  | address bs length =>
    have hbody := drop_topicOf_address length
    simp only [Argument.typeName, topicValue, if_true, hbody, String.ofList_toList]
    rfl
  | bool b =>
    have hname : ("bool" : String) ≠ "address" ∧ ¬("bool" = "bytes32" ∨ "bool" = "bytes") ∧
        ¬(startsWith "bool" "uint" = true ∨ startsWith "bool" "int" = true) := by
      decide +kernel
    rw [Argument.typeName, topicValue, if_neg hname.1, if_neg hname.2.1, if_neg hname.2.2,
      if_pos rfl, hint, Argument.natBE_word_bool]
    cases b with
    | false => rfl
    | true => rfl
  | bytes bs length =>
    obtain ⟨h1, h2, h3, h4⟩ := (typeName_spec (toString bs.length)).2.2
    have hint : ¬(startsWith ("bytes" ++ toString bs.length) "uint" = true ∨
        startsWith ("bytes" ++ toString bs.length) "int" = true) := by
      rw [h3, h4]
      simp
    rw [Argument.typeName, topicValue, if_neg h1, if_neg hint, if_neg h2, ite_self]
    rfl

/-- **Which topics are read as their arguments**: not those of negative integers, and of the byte
strings those without padding. -/
theorem readTopic_eq_iff (a : Argument) : readTopic a = valueOf a ↔ ReadsBack a := by
  cases a with
  | uint bits v range => exact iff_of_true rfl trivial
  | int bits v range =>
    rw [readTopic, valueOf, Value.int.injEq, ← Argument.natBE_word_int range,
      Argument.natBE_word_int_eq_iff range]
    exact Iff.rfl
  | address bs length => exact iff_of_true rfl trivial
  | bool b => exact iff_of_true rfl trivial
  | bytes bs length =>
    rw [readTopic, valueOf, Value.str.injEq]
    constructor
    · intro h
      have hlength := length_eq_of_hexText h
      rw [Argument.length_word] at hlength
      exact hlength.symm
    · intro h
      have hfull : bs.length = 32 := h
      rw [topicOf, Argument.word, hfull]
      simp

theorem isTopic_hexText (bs : List UInt8) : IsTopic (hexText bs) where
  noComma := comma_not_mem_hexText bs
  stripped := stripChars_hexText bs
  ne_nil := by
    rw [toList_hexText]
    simp

/-- The topics of a row are those of the log. -/
theorem parseTopics_eventTopics {topics : RawTopics} {ps : List EventParameter}
    {signature : List UInt8} (h : topics = .list (eventTopics signature ps) ∨
      topics = .text (",".intercalate (eventTopics signature ps))) :
    parseTopics topics = eventTopics signature ps := by
  rcases h with rfl | rfl
  · rfl
  · have hhex : eventTopics signature ps =
        (signature :: (ps.filter (·.indexed)).map fun p => p.arg.word).map hexText := by
      rw [List.map_cons, List.map_map]
      rfl
    rw [hhex]
    refine parseTopics_intercalate ?_ (by simp)
    intro t ht
    obtain ⟨bs, -, rfl⟩ := List.mem_map.mp ht
    exact isTopic_hexText bs

/-! ### The parameters -/

theorem inputText_eq {inp : Dict} {key s : String} (h : inp.get? key = some (.str s)) :
    inputText inp key = .ok s := by
  rw [inputText, h]

/-- The inputs of one kind describe the parameters of that kind. -/
theorem describes_indexed {inputs : List Dict} {ps : List EventParameter}
    (h : List.Forall₂ DescribesParameter inputs ps) :
    List.Forall₂ DescribesParameter (inputs.filter isIndexed) (ps.filter (·.indexed)) ∧
      List.Forall₂ DescribesParameter (inputs.filter fun inp => !isIndexed inp)
        (ps.filter (!·.indexed)) := by
  constructor
  · refine List.rel_filter ?_ h
    intro inp p hinp
    show isIndexed inp = true ↔ p.indexed = true
    rw [hinp.indexed]
  · refine List.rel_filter ?_ h
    intro inp p hinp
    show (!isIndexed inp) = true ↔ (!p.indexed) = true
    rw [hinp.indexed]

theorem abiInputs_eq {entry : Dict} {inputs : List Dict}
    (h : entry.get? "inputs" = some (.list (inputs.map .dict))) : abiInputs entry = .ok inputs := by
  have hlist : entry.getD "inputs" (.list []) = .list (inputs.map .dict) := by
    rw [Dict.getD, h]
    rfl
  rw [abiInputs, hlist]
  show List.mapM _ _ = _
  clear h hlist
  induction inputs with
  | nil => rfl
  | cons inp inputs ih =>
    rw [List.map_cons, List.mapM_cons, ih]
    rfl

/-- The parameters whose values are their topics. -/
theorem decodeIndexed_eq {inputs : List Dict} {ps : List EventParameter}
    (h : List.Forall₂ DescribesParameter inputs ps) (decoded : Dict) :
    decodeIndexed inputs (ps.map fun p => topicOf p.arg) decoded =
      .ok (decoded.update (ps.map fun p => (p.name, readTopic p.arg))) := by
  induction h generalizing decoded with
  | nil => rfl
  | cons hinp _ ih =>
    rw [List.map_cons, decodeIndexed, inputText_eq hinp.type, inputText_eq hinp.name]
    show (topicValue _ _ >>= _) = _
    rw [topicValue_topicOf]
    exact ih _

/-- The parameters whose values `eth_abi` returned. -/
theorem decodeValues_eq {inputs : List Dict} {ps : List EventParameter}
    (h : List.Forall₂ DescribesParameter inputs ps) (decoded : Dict) :
    decodeValues inputs (ps.map fun p => abiValueOf p.arg) decoded =
      decoded.update (ps.map fun p => (p.name, valueOf p.arg)) := by
  induction h generalizing decoded with
  | nil => rfl
  | @cons inp p inputs ps hinp _ ih =>
    simp only [List.map_cons, decodeValues, inputText_eq hinp.name, ih]
    cases p.arg with
    | uint bits v range => rfl
    | int bits v range => rfl
    | address bs length => rfl
    | bool b => rfl
    | bytes bs length => rfl

theorem inputTypes_eq {inputs : List Dict} {ps : List EventParameter}
    (h : List.Forall₂ DescribesParameter inputs ps) :
    (inputs.mapM fun inp => inputText inp "type") = .ok (ps.map fun p => p.arg.typeName) := by
  induction h with
  | nil => rfl
  | cons hinp _ ih =>
    rw [List.mapM_cons, inputText_eq hinp.type, ih]
    rfl

/-- The parameters in the data. -/
theorem decodeData_eq {lib : Library} {inputs : List Dict} {ps : List EventParameter}
    (h : List.Forall₂ DescribesParameter inputs ps)
    (hdecode : lib.abiDecode (ps.map fun p => p.arg.typeName) (encode (ps.map (·.arg))) =
      .ok (ps.map fun p => abiValueOf p.arg)) (decoded : Dict) :
    decodeData lib inputs (encode (ps.map (·.arg))) decoded =
      .ok (decoded.update (ps.map fun p => (p.name, valueOf p.arg))) := by
  have htypes := inputTypes_eq h
  have hvalues := decodeValues_eq h decoded
  cases h with
  | nil => rfl
  | @cons inp p inputs ps hinp hrest =>
    have hdata : (encode ((p :: ps).map (·.arg))).isEmpty = false := by
      rw [List.isEmpty_eq_false_iff]
      exact encode_ne_nil (by simp)
    rw [decodeData, hdata]
    show (List.mapM _ _ >>= _) = _
    rw [htypes]
    dsimp only [bind, Except.bind]
    rw [hdecode]
    exact congrArg Except.ok hvalues

theorem logData_eq {raw : RawLog} {bs : List UInt8} (h : raw.data = hexText bs) :
    logData raw = .ok bs := by
  unfold logData
  split_ifs with hempty
  · -- no data at all
    have hnil : (hexText bs).toList.length ≤ 2 := by
      rcases hempty with he | he
      · rw [← h, he]
        exact Nat.zero_le _
      · rw [← h, he]
        exact le_rfl
    rw [toList_hexText, List.length_cons, List.length_cons, length_toList_toHex] at hnil
    rw [List.length_eq_zero_iff.mp (show bs.length = 0 by omega)]
  · rw [h, dropHexMark_hexText, fromHexChars_toHex]

/-- The metadata stand under names with an underscore. -/
theorem get?_attachMetadata (raw : RawLog) (blockNumber logIndex : ℤ) (decoded : Dict)
    {name : String} (h : startsWith name "_" = false) :
    (attachMetadata raw blockNumber logIndex decoded).get? name = decoded.get? name := by
  have hset (d : Dict) (key : String) (value : Value) (hkey : startsWith key "_" = true) :
      (d.set key value).get? name = d.get? name := by
    apply Dict.get?_set_of_ne
    rintro rfl
    rw [hkey] at h
    cases h
  unfold attachMetadata
  rw [hset _ _ _ (by decide +kernel), hset _ _ _ (by decide +kernel),
    hset _ _ _ (by decide +kernel), hset _ _ _ (by decide +kernel),
    hset _ _ _ (by decide +kernel), hset _ _ _ (by decide +kernel)]

/-! ### The event -/

/-- What the decoder returns for a parameter. -/
def decodedAs (p : EventParameter) : Value := if p.indexed then readTopic p.arg else valueOf p.arg

/-- **What is decoded from the log of an event**: every parameter, under its name. -/
theorem decodeEventWithAbi_eq {lib : Library} {abi : List Dict} {ps : List EventParameter}
    {raw : RawLog} (habi : DescribesEvent abi ps) (hnames : (ps.map (·.name)).Nodup)
    (hplain : ∀ p ∈ ps, startsWith p.name "_" = false) (hraw : HoldsEvent raw ps)
    (hdecode : lib.abiDecode ((dataArguments ps).map Argument.typeName)
      (encode (dataArguments ps)) =
      .ok ((dataArguments ps).map abiValueOf)) :
    ∃ decoded blockNumber logIndex,
      decodeEventWithAbi lib raw abi = .ok (decoded, blockNumber, logIndex) ∧
      ∀ p ∈ ps, decoded.get? p.name = some (decodedAs p) := by
  obtain ⟨entry, inputs, hentry, hinputs, hdescribes⟩ := habi
  obtain ⟨signature, htopics⟩ := hraw.topics
  obtain ⟨blockNumber, hblock⟩ := hraw.blockNumber
  obtain ⟨logIndex, hindex⟩ := hraw.logIndex
  obtain ⟨hindexed, hdata⟩ := describes_indexed hdescribes
  -- the items in the order in which they are set
  set items : Dict := (ps.filter (·.indexed)).map (fun p => (p.name, readTopic p.arg)) ++
    (ps.filter (!·.indexed)).map (fun p => (p.name, valueOf p.arg)) with hitems
  have hkeys : (items.map Prod.fst).Nodup := by
    have hfst : items.map Prod.fst =
        (ps.filter (·.indexed) ++ ps.filter (!·.indexed)).map (·.name) := by
      rw [hitems, List.map_append, List.map_append, List.map_map, List.map_map]
      rfl
    rw [hfst]
    exact ((List.filter_append_perm (·.indexed) ps).map _).nodup_iff.mpr hnames
  have hmem : ∀ p ∈ ps, (p.name, decodedAs p) ∈ items := by
    intro p hp
    rw [hitems, List.mem_append, List.mem_map, List.mem_map]
    cases hkind : p.indexed with
    | true => exact .inl ⟨p, List.mem_filter.mpr ⟨hp, hkind⟩, by rw [decodedAs, hkind, if_pos rfl]⟩
    | false =>
      refine .inr ⟨p, List.mem_filter.mpr ⟨hp, by rw [hkind]; rfl⟩, ?_⟩
      rw [decodedAs, hkind, if_neg Bool.false_ne_true]
  have hfields : decodeData lib (inputs.filter fun inp => !isIndexed inp)
      (encode (dataArguments ps))
      (Dict.update [] ((ps.filter (·.indexed)).map fun p => (p.name, readTopic p.arg))) =
        .ok (Dict.update [] items) := by
    rw [dataArguments, List.map_map, List.map_map] at hdecode
    rw [dataArguments, decodeData_eq hdata hdecode, hitems, Dict.update, Dict.update, Dict.update,
      List.foldl_append]
  refine ⟨attachMetadata raw blockNumber logIndex (Dict.update [] items), blockNumber, logIndex,
    ?_, ?_⟩
  · unfold decodeEventWithAbi
    rw [hentry, parseTopics_eventTopics htopics, logData_eq hraw.data]
    show (abiInputs entry >>= _) = _
    rw [abiInputs_eq hinputs]
    show (decodeIndexed _ ((ps.filter (·.indexed)).map fun p => topicOf p.arg) _ >>= _) = _
    rw [decodeIndexed_eq hindexed]
    show (decodeData _ _ _ _ >>= _) = _
    rw [hfields, hblock, hindex]
    rfl
  · intro p hp
    rw [get?_attachMetadata raw blockNumber logIndex _ (hplain p hp)]
    exact Dict.get?_update_of_mem hkeys (hmem p hp)

/-- **When a decoded log is the event.** For every event with parameters of static types whose names
are distinct and do not start with an underscore, and every row that holds its log: where `eth_abi`
undoes the encoding of the data, `decode_event_with_abi` returns under each name the argument if and
only if no indexed argument is a negative integer or a byte string shorter than the word. -/
theorem decodeEventWithAbi_inverts_iff {lib : Library} {abi : List Dict} {ps : List EventParameter}
    {raw : RawLog} (habi : DescribesEvent abi ps) (hnames : (ps.map (·.name)).Nodup)
    (hplain : ∀ p ∈ ps, startsWith p.name "_" = false) (hraw : HoldsEvent raw ps)
    (hdecode : lib.abiDecode ((dataArguments ps).map Argument.typeName)
      (encode (dataArguments ps)) =
      .ok ((dataArguments ps).map abiValueOf)) :
    (∃ decoded blockNumber logIndex,
      decodeEventWithAbi lib raw abi = .ok (decoded, blockNumber, logIndex) ∧
      ∀ p ∈ ps, decoded.get? p.name = some (valueOf p.arg)) ↔
    ∀ p ∈ ps, p.indexed = true → ReadsBack p.arg := by
  obtain ⟨decoded, blockNumber, logIndex, hdecoded, hfields⟩ :=
    decodeEventWithAbi_eq habi hnames hplain hraw hdecode
  constructor
  · rintro ⟨decoded', blockNumber', logIndex', hdecoded', hvalues⟩ p hp hkind
    rw [hdecoded] at hdecoded'
    obtain ⟨rfl, -⟩ := Prod.mk.inj (Except.ok.inj hdecoded')
    have hvalue := (hfields p hp).symm.trans (hvalues p hp)
    rw [decodedAs, if_pos hkind, Option.some.injEq] at hvalue
    exact (readTopic_eq_iff p.arg).mp hvalue
  · intro hall
    refine ⟨decoded, blockNumber, logIndex, hdecoded, ?_⟩
    intro p hp
    rw [hfields p hp, decodedAs]
    split_ifs with hkind
    · rw [(readTopic_eq_iff p.arg).mpr (hall p hp hkind)]
    · rfl

namespace Sample

/-- The width of `int256` and `uint256`. -/
def word256 : Width := ⟨256, width_256⟩

/-- `Moved(int256 indexed delta, address owner)` with a delta. -/
def moved (delta : ℤ) (range : -2 ^ 255 ≤ delta ∧ delta < 2 ^ 255) : List EventParameter :=
  [⟨"delta", true, .int word256 delta range⟩,
    ⟨"owner", false, .address (List.replicate 20 0x11) rfl⟩]

/-- The fragment that describes it. -/
def movedAbi : List Dict :=
  [[("type", .str "event"), ("name", .str "Moved"), ("inputs", .list [
    .dict [("name", .str "delta"), ("type", .str "int256"), ("indexed", .bool true)],
    .dict [("name", .str "owner"), ("type", .str "address"), ("indexed", .bool false)]])]]

/-- A row with the log of such an event. -/
def movedLog (ps : List EventParameter) : RawLog where
  topics := .list (eventTopics (List.replicate 32 0xab) ps)
  data := hexText (encode (dataArguments ps))

/-- A library whose `eth_abi.decode` reads an address. -/
def addressLibrary : Library where
  abiDecode := fun _ data => .ok [.value (.str (hexText (data.drop 12)))]

theorem describesEvent_moved (delta : ℤ) (range : -2 ^ 255 ≤ delta ∧ delta < 2 ^ 255) :
    DescribesEvent movedAbi (moved delta range) := by
  refine ⟨_, [_, _], rfl, rfl, .cons ⟨rfl, rfl, rfl⟩ (.cons ⟨rfl, rfl, rfl⟩ .nil)⟩

theorem abiDecode_moved (delta : ℤ) (range : -2 ^ 255 ≤ delta ∧ delta < 2 ^ 255) :
    addressLibrary.abiDecode ((dataArguments (moved delta range)).map Argument.typeName)
      (encode (dataArguments (moved delta range))) =
        .ok ((dataArguments (moved delta range)).map abiValueOf) := by
  have hdata : (encode (dataArguments (moved delta range))).drop 12 = List.replicate 20 0x11 := by
    rfl
  show Except.ok [AbiValue.value (.str (hexText
    ((encode (dataArguments (moved delta range))).drop 12)))] = _
  rw [hdata]
  rfl

theorem holdsEvent_movedLog (ps : List EventParameter) : HoldsEvent (movedLog ps) ps :=
  ⟨⟨_, .inl rfl⟩, rfl, ⟨0, rfl⟩, ⟨0, rfl⟩⟩

theorem moved_plain (delta : ℤ) (range : -2 ^ 255 ≤ delta ∧ delta < 2 ^ 255) :
    ∀ p ∈ moved delta range, startsWith p.name "_" = false := by
  have hplain : startsWith "delta" "_" = false ∧ startsWith "owner" "_" = false := by decide +kernel
  rw [moved, List.forall_mem_cons, List.forall_mem_singleton]
  exact hplain

end Sample

/-- A positive delta is decoded. -/
theorem decodeEventWithAbi_inverts_moved :
    ∃ decoded blockNumber logIndex,
      decodeEventWithAbi Sample.addressLibrary (Sample.movedLog (Sample.moved 5 (by norm_num)))
        Sample.movedAbi = .ok (decoded, blockNumber, logIndex) ∧
      ∀ p ∈ Sample.moved 5 (by norm_num), decoded.get? p.name = some (valueOf p.arg) := by
  refine (decodeEventWithAbi_inverts_iff (Sample.describesEvent_moved ..) (by decide)
    (Sample.moved_plain _ _) (Sample.holdsEvent_movedLog _) (Sample.abiDecode_moved ..)).mpr ?_
  intro p hp hkind
  rcases List.mem_pair.mp hp with rfl | rfl
  · exact (by norm_num : (0 : ℤ) ≤ 5)
  · cases hkind

/-- A delta of -1 is decoded as `2 ^ 256 - 1`. -/
theorem negative_topic_unsigned :
    let ps := Sample.moved (-1) (by norm_num)
    DescribesEvent Sample.movedAbi ps ∧ (ps.map (·.name)).Nodup ∧
      (∀ p ∈ ps, startsWith p.name "_" = false) ∧ HoldsEvent (Sample.movedLog ps) ps ∧
      Sample.addressLibrary.abiDecode ((dataArguments ps).map Argument.typeName)
        (encode (dataArguments ps)) = .ok ((dataArguments ps).map abiValueOf) ∧
      ¬∃ decoded blockNumber logIndex,
        decodeEventWithAbi Sample.addressLibrary (Sample.movedLog ps) Sample.movedAbi =
          .ok (decoded, blockNumber, logIndex) ∧
        ∀ p ∈ ps, decoded.get? p.name = some (valueOf p.arg) := by
  intro ps
  have habi : DescribesEvent Sample.movedAbi ps := Sample.describesEvent_moved ..
  have hnames : (ps.map (·.name)).Nodup := by decide
  have hplain : ∀ p ∈ ps, startsWith p.name "_" = false := Sample.moved_plain _ _
  have hraw : HoldsEvent (Sample.movedLog ps) ps := Sample.holdsEvent_movedLog _
  have hdecode : Sample.addressLibrary.abiDecode ((dataArguments ps).map Argument.typeName)
      (encode (dataArguments ps)) = .ok ((dataArguments ps).map abiValueOf) :=
    Sample.abiDecode_moved ..
  refine ⟨habi, hnames, hplain, hraw, hdecode, ?_⟩
  rintro ⟨decoded, blockNumber, logIndex, hdecoded, hvalues⟩
  obtain ⟨decoded', blockNumber', logIndex', hdecoded', hfields⟩ :=
    decodeEventWithAbi_eq habi hnames hplain hraw hdecode
  rw [hdecoded] at hdecoded'
  obtain ⟨rfl, -⟩ := Prod.mk.inj (Except.ok.inj hdecoded')
  -- the topic of -1 is the word of ones
  have hunsigned : decoded.get? "delta" = some (.int (2 ^ 256 - 1)) :=
    hfields _ List.mem_cons_self
  have hdelta : decoded.get? "delta" = some (.int (-1)) := hvalues _ List.mem_cons_self
  rw [hdelta] at hunsigned
  cases hunsigned

end TripWire
