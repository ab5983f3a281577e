import HomeAgents.Model.Message
import HomeAgents.Proofs.Json.RoundTrip

/-!
# The JSON text of a conversation

The text of a conversation is read back as the array of its messages, each of them an object with a
role and a content.
-/

namespace HomeAgents

open Json

namespace Json

/-- Commas between pieces are the separator of a list. -/
theorem intercalate_eq_joinComma (pieces : List (List Char)) :
    [','].intercalate pieces = joinComma pieces := by
  induction pieces with
  | nil => rfl
  | cons piece pieces ih =>
    cases pieces with
    | nil => simp [joinComma]
    | cons next pieces => rw [List.intercalate_cons_cons, ih]; simp [joinComma]

theorem toList_arrayText (items : List String) :
    (arrayText items).toList = '[' :: (joinComma (items.map String.toList) ++ [']']) := by
  simp [arrayText, String.toList_intercalate, intercalate_eq_joinComma]

theorem toList_objectText (members : List (String × String)) :
    (objectText members).toList =
      '\x7b' :: (joinComma (members.map (memberPiece String.toList)) ++ ['\x7d']) := by
  have hpieces : (members.map fun m => stringText m.1 ++ ":" ++ m.2).map String.toList =
      members.map (memberPiece String.toList) := by
    rw [List.map_map]
    refine List.map_congr_left fun m _ => ?_
    simp [stringText, memberPiece]
  simp only [objectText, String.toList_append, String.toList_intercalate, hpieces]
  rw [show ",".toList = [','] from rfl, intercalate_eq_joinComma]
  simp

end Json

namespace Message

/-- A message as a JSON value. -/
def json (m : Message) : Json :=
  .object [("content", .string m.content), ("role", .string m.role.label)]

/-- The text of an object whose members stand in the opposite order. -/
def backwards : Json → List Char
  | .object members => '{' :: (joinComma (members.reverse.map (memberPiece chars)) ++ ['}'])
  | v => v.chars

/-- In the text of a message the role stands first. -/
theorem toList_text (m : Message) : m.text.toList = backwards m.json := by
  rw [text, toList_objectText]
  simp [backwards, json, memberPiece, stringText, chars]

/-- The text of a message is read as its value, where a bracket has room. -/
theorem readsBack_json {limit room : Nat} (m : Message) (hlimit : 2 < limit) :
    ReadsBack (readValue limit (room + 1)) backwards m.json := by
  intro rest _
  let members : List (String × Json) :=
    [("role", .string m.role.label), ("content", .string m.content)]
  have hreads : ∀ e ∈ members, ReadsBack (readValue limit room) chars e.2 := by
    intro e he
    rcases List.mem_cons.mp he with rfl | he
    · exact readsBack_string limit room _
    · obtain rfl := List.mem_singleton.mp he
      exact readsBack_string limit room _
  have hmembers : Json.ofMembers members = m.json := by
    have hlt : "content" < "role" := by decide
    simp only [Json.ofMembers, members, json, Sorted.ofList, Sorted.insert, List.foldl_cons,
      List.foldl_nil, if_pos hlt]
  have htext : backwards m.json =
      '{' :: (joinComma (members.map (memberPiece chars)) ++ ['}']) := rfl
  rw [htext, List.cons_append, List.append_assoc, List.singleton_append, readValue,
    skipGap_of_not_gap rfl]
  simp only [readMembers_joinComma hreads hlimit, hmembers]

/-- The text of a conversation is the JSON array of its messages. -/
theorem read_listText (ms : List Message) :
    Json.read (listText ms) = .ok (.array (ms.map json)) := by
  let pieces := (ms.map json).map backwards
  have htext : (listText ms).toList = '[' :: (joinComma pieces ++ [']']) := by
    rw [listText, toList_arrayText, List.map_map]
    congr 3
    simp only [pieces, List.map_map]
    exact List.map_congr_left fun m _ => m.toList_text
  have hbegins : ∀ v ∈ ms.map json, Begins backwards v := by
    intro v hv
    obtain ⟨m, _, rfl⟩ := List.mem_map.mp hv
    exact ⟨'{', _, rfl, rfl, by decide⟩
  -- The text is longer than the number of its items, and longer than two as soon as there is one.
  have hreads : ∀ v ∈ ms.map json,
      ReadsBack (readValue ((listText ms).toList.length + 1) 126) backwards v := by
    intro v hv
    obtain ⟨m, _, rfl⟩ := List.mem_map.mp hv
    refine m.readsBack_json ?_
    rw [htext]
    simp
  have hfuel : (ms.map json).length < (listText ms).toList.length + 1 := by
    have hcount := (length_joinComma pieces).1
    simp only [htext, pieces, List.length_map, List.length_cons, List.length_append] at hcount ⊢
    omega
  have hitems : readItems (readValue ((listText ms).toList.length + 1) 126)
      ((listText ms).toList.length + 1) true [] (joinComma pieces ++ [']']) =
        .ok (ms.map json, []) :=
    readItems_joinComma hbegins hreads hfuel
  have hvalue : readValue ((listText ms).toList.length + 1) maxDepth (listText ms).toList =
      .ok (.array (ms.map json), []) := by
    rw [maxDepth]
    generalize (listText ms).toList.length + 1 = limit at hitems ⊢
    rw [htext, readValue, skipGap_of_not_gap rfl]
    simp only [hitems]
  rw [Json.read, readWhole, hvalue]
  rfl

end Message

end HomeAgents
