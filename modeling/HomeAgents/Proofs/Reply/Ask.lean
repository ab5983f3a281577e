import HomeAgents.Proofs.Json.RoundTrip
import HomeAgents.Proofs.Reply.Grammar
import HomeAgents.Proofs.Text.Trim
import HomeAgents.Reply.Fence

/-!
# Requests that blocks ask for

A request is written as a block and the block's body is read as the request again.
-/

namespace HomeAgents.Reply

open Json Text

/-- A request that a block can ask for: an action of a service or a run of a tool. -/
inductive Ask where
  | command (c : Command)
  | toolCall (c : ToolCall)

namespace Ask

/-- The kind of the block of a request. -/
def kind : Ask → BlockKind
  | command _ => .command
  | toolCall _ => .toolCall

/-- The JSON value of a request. -/
def toJson : Ask → Json
  | command c => c.toJson
  | toolCall c => c.toJson

/-- The text of the block of a request. -/
def toFenced : Ask → String
  | command c => c.toFenced
  | toolCall c => c.toFenced

/-- The block that is read from a request. -/
def toBlock : Ask → Block
  | command c => .command c
  | toolCall c => .toolCall c

/-- A request that can be read back: the names of its members increase, its numbers are whole and
fit into 64 bits, and its brackets nest no deeper than readers go. -/
structure Readable (a : Ask) : Prop where
  proper : a.toJson.Proper
  depth_le : a.toJson.depth ≤ maxDepth

end Ask

theorem command_toJson (c : Command) :
    c.toJson = .object [("action", .string c.action), ("params", .object c.params)] := by
  have horder : ¬ ("params" : String) < "action" := by decide
  have hne : ("params" : String) ≠ "action" := by decide
  simp only [Command.toJson, ofMembers, Sorted.ofList, List.foldl, Sorted.insert, if_neg horder,
    if_neg hne]

/-- The names of a tool call stand in their order in its text, the arguments first. -/
theorem toolCall_toJson (c : ToolCall) :
    c.toJson = .object [("args", .object c.args), ("tool", .string c.tool)] := by
  have horder : ("args" : String) < "tool" := by decide
  simp only [ToolCall.toJson, ofMembers, Sorted.ofList, List.foldl, Sorted.insert, if_pos horder]

section Records

variable {limit room fuel : Nat} {first : Bool} {title name members : String} {given : Request}
  {cs rest : List Char}

theorem find?_name :
    (requestRecord limit title name members).fields.find? (fun f => f.name = name) =
      some (.of name true (·.name.isSome) readText fun s r => { r with name := some s }) :=
  List.find?_cons_of_pos (decide_eq_true rfl)

theorem find?_members (hne : name ≠ members) :
    (requestRecord limit title name members).fields.find? (fun f => f.name = members) =
      some (.of members false (·.members.isSome) (readMap limit (readValue limit)) fun ms r =>
        { r with members := some (Sorted.ofList ms) }) := by
  rw [requestRecord, List.find?_cons_of_neg]
  · exact List.find?_cons_of_pos (decide_eq_true rfl)
  · exact fun h => hne (of_decide_eq_true h)

/-- The name of a request is read and stored where it is met first. -/
theorem readFields_name {s : String} (hnew : given.name = none)
    (hname : nextName first cs = .ok (some name, ':' :: (stringChars s ++ rest))) :
    (requestRecord limit title name members).readFields limit room (fuel + 1) first given cs =
      (requestRecord limit title name members).readFields limit room fuel false
        { given with name := some s } rest := by
  have hgiven : given.name.isSome = false := by rw [hnew, Option.isSome_none]
  exact readFields_member hname find?_name hgiven (Field.of_read (readText_stringChars room s))

/-- The members of a request are read and stored where they are met first. -/
theorem readFields_members {ms : Members} (hne : name ≠ members) (hnew : given.members = none)
    (hname : nextName first cs = .ok (some members, ':' :: ((Json.object ms).chars ++ rest)))
    (hproper : (Json.object ms).Proper) (hdepth : (Json.object ms).depth ≤ room)
    (hlength : (Json.object ms).chars.length ≤ limit) :
    (requestRecord limit title name members).readFields limit room (fuel + 1) first given cs =
      (requestRecord limit title name members).readFields limit room fuel false
        { given with members := some ms } rest := by
  have hgiven : given.members.isSome = false := by rw [hnew, Option.isSome_none]
  rw [readFields_member hname (find?_members hne) hgiven
    (Field.of_read (readMap_chars hproper hdepth hlength)), Sorted.ofList_of_increasing hproper.1]

/-- A request is complete once its name is given. -/
theorem readFields_request_end (hgiven : given.name.isSome = true) :
    (requestRecord limit title name members).readFields limit room (fuel + 1) first given
      ('\x7d' :: rest) = .ok (given, rest) := by
  refine readFields_end ?_
  simp [requestRecord, Field.of, hgiven]

end Records

section Texts

theorem command_chars (c : Command) :
    c.toJson.chars = '\x7b' :: (stringChars "action" ++ ':' :: (stringChars c.action ++
      ',' :: (stringChars "params" ++ ':' :: ((Json.object c.params).chars ++ ['\x7d'])))) := by
  rw [command_toJson, chars]
  simp [memberPieces, joinComma, chars]

theorem toolCall_chars (c : ToolCall) :
    c.toJson.chars = '\x7b' :: (stringChars "args" ++ ':' :: ((Json.object c.args).chars ++
      ',' :: (stringChars "tool" ++ ':' :: (stringChars c.tool ++ ['\x7d'])))) := by
  rw [toolCall_toJson, chars]
  simp [memberPieces, joinComma, chars]

/-- A command can be read back if its parameters can, one level further in. -/
theorem readable_command {c : Command} : (Ask.command c).Readable ↔
    (Json.object c.params).Proper ∧ (Json.object c.params).depth < maxDepth := by
  have horder : ("action" : String) < "params" := by decide
  have hincreasing : Sorted.Increasing
      [("action", Json.string c.action), ("params", Json.object c.params)] :=
    List.pairwise_pair.mpr horder
  constructor
  · rintro ⟨hproper, hdepth⟩
    rw [Ask.toJson, command_toJson] at hproper hdepth
    refine ⟨hproper.2.2.1, ?_⟩
    simp only [depth, memberDepth] at hdepth ⊢
    omega
  · rintro ⟨hproper, hdepth⟩
    constructor
    · rw [Ask.toJson, command_toJson]
      exact ⟨hincreasing, trivial, hproper, trivial⟩
    · rw [Ask.toJson, command_toJson]
      simp only [depth, memberDepth] at hdepth ⊢
      omega

theorem readable_toolCall {c : ToolCall} : (Ask.toolCall c).Readable ↔
    (Json.object c.args).Proper ∧ (Json.object c.args).depth < maxDepth := by
  have horder : ("args" : String) < "tool" := by decide
  have hincreasing : Sorted.Increasing
      [("args", Json.object c.args), ("tool", Json.string c.tool)] :=
    List.pairwise_pair.mpr horder
  constructor
  · rintro ⟨hproper, hdepth⟩
    rw [Ask.toJson, toolCall_toJson] at hproper hdepth
    refine ⟨hproper.2.1, ?_⟩
    simp only [depth, memberDepth] at hdepth ⊢
    omega
  · rintro ⟨hproper, hdepth⟩
    constructor
    · rw [Ask.toJson, toolCall_toJson]
      exact ⟨hincreasing, hproper, trivial, trivial⟩
    · rw [Ask.toJson, toolCall_toJson]
      simp only [depth, memberDepth] at hdepth ⊢
      omega

theorem read_command {c : Command} {limit : Nat} (h : (Ask.command c).Readable)
    (hlimit : c.toJson.chars.length < limit) :
    (blockRecord limit .command).read limit {} maxDepth c.toJson.chars =
      .ok (⟨some c.action, some c.params⟩, []) := by
  obtain ⟨hproper, hdepth⟩ := readable_command.mp h
  rw [command_chars] at hlimit ⊢
  simp only [List.length_cons, List.length_append] at hlimit
  obtain ⟨fuel, rfl⟩ : ∃ fuel, limit = fuel + 3 := ⟨limit - 3, by omega⟩
  rw [Record.read, skipGap_of_not_gap rfl]
  change (requestRecord (fuel + 3) "struct Command" "action" "params").readFields (fuel + 3)
    (maxDepth - 1) (fuel + 3) true {} _ = _
  rw [readFields_name rfl (nextName_first "action"),
    readFields_members (by decide) rfl (nextName_comma "params") hproper (by omega) (by omega),
    readFields_request_end rfl]

theorem read_toolCall {c : ToolCall} {limit : Nat} (h : (Ask.toolCall c).Readable)
    (hlimit : c.toJson.chars.length < limit) :
    (blockRecord limit .toolCall).read limit {} maxDepth c.toJson.chars =
      .ok (⟨some c.tool, some c.args⟩, []) := by
  obtain ⟨hproper, hdepth⟩ := readable_toolCall.mp h
  rw [toolCall_chars] at hlimit ⊢
  simp only [List.length_cons, List.length_append] at hlimit
  obtain ⟨fuel, rfl⟩ : ∃ fuel, limit = fuel + 3 := ⟨limit - 3, by omega⟩
  rw [Record.read, skipGap_of_not_gap rfl]
  change (requestRecord (fuel + 3) "struct ToolCall" "tool" "args").readFields (fuel + 3)
    (maxDepth - 1) (fuel + 3) true {} _ = _
  rw [readFields_members (by decide) rfl (nextName_first "args") hproper (by omega) (by omega),
    readFields_name rfl (nextName_comma "tool"), readFields_request_end rfl]

/-- The body of a request is read as the request. -/
theorem readRequest_chars {a : Ask} (h : a.Readable) :
    ∃ r, readRequest a.kind a.toJson.chars = .ok r ∧ r.toBlock a.kind = a.toBlock := by
  cases a with
  | command c =>
    refine ⟨⟨some c.action, some c.params⟩, ?_, rfl⟩
    simp only [readRequest, readWhole, Ask.kind, Ask.toJson, read_command h (Nat.lt_succ_self _)]
    rfl
  | toolCall c =>
    refine ⟨⟨some c.tool, some c.args⟩, ?_, rfl⟩
    simp only [readRequest, readWhole, Ask.kind, Ask.toJson, read_toolCall h (Nat.lt_succ_self _)]
    rfl

end Texts

section Blocks

variable {a : Ask}

/-- The JSON text of a request stands in braces. -/
theorem Ask.chars_braced (a : Ask) : ∃ middle, a.toJson.chars = '\x7b' :: (middle ++ ['\x7d']) := by
  obtain ⟨members, hmembers⟩ : ∃ members, a.toJson = .object members := by
    cases a with
    | command c => exact ⟨_, command_toJson c⟩
    | toolCall c => exact ⟨_, toolCall_toJson c⟩
  exact ⟨joinComma (memberPieces members), by rw [hmembers, chars]⟩

/-- The body of a request's block, a line of its own, is decoded as the request. -/
theorem decode_chars (h : a.Readable) (index : Nat) :
    decode index a.kind (a.toJson.chars ++ ['\n']) = a.toBlock := by
  obtain ⟨middle, hmiddle⟩ := a.chars_braced
  have htrim : trimChars (a.toJson.chars ++ ['\n']) = a.toJson.chars := by
    rw [hmiddle]
    exact trimChars_between (List.forall_mem_nil _) rfl rfl (List.forall_mem_singleton.mpr rfl)
  obtain ⟨r, hread, hblock⟩ := readRequest_chars h
  have hempty : a.toJson.chars.isEmpty = false := by rw [hmiddle, List.isEmpty_cons]
  simp only [decode, htrim, hempty, Bool.false_eq_true, if_false, hread, hblock]

/-- The opener that a written block has: the label ends its line. -/
def lineOpener (kind : BlockKind) : List Char :=
  fence ++ kind.label.toList ++ ['\n']

theorem opener_lineOpener (kind : BlockKind) : Opener kind (lineOpener kind) := by
  have hopener : Opener kind (fence ++ kind.label.toList ++ [] ++ ['\n']) :=
    .mk (List.forall_mem_nil _) (.inl rfl)
  rwa [List.append_nil] at hopener

/-- The text of a request's block: an opener, its JSON text on a line, a fence. -/
theorem Ask.toList_toFenced (a : Ask) :
    a.toFenced.toList = lineOpener a.kind ++ (a.toJson.chars ++ ['\n'] ++ fence) := by
  cases a <;> simp [Ask.toFenced, Command.toFenced, ToolCall.toFenced, fenced, Ask.kind, Ask.toJson,
    lineOpener]

end Blocks

end HomeAgents.Reply
