import GestureSuite.Model.Message
import GestureSuite.Text.Json

/-! # Labels inside JSON messages

The two replacements of `EscapeJson` together act on one unit at a time: the quotes that the second puts a
backslash in front of are those of the value, since the first adds none. Reading the escaped label gives
the label back, up to a control character, and leaves the reader where any other label would. So a label
decides only the one string of the message it stands for.
-/

namespace GestureSuite.Message

open Text Text.JsonReader
open Recorder (NetString)

/-- Replacing a text of one unit acts on every unit by itself. -/
theorem replace_singleton (old : UInt16) (new value : NetString) :
    replace [old] new value = value.flatMap fun unit => if unit = old then new else [unit] := by
  unfold replace
  induction value with
  | nil => rfl
  | cons unit rest ih =>
    rw [replaceFrom, List.flatMap_cons, List.isPrefixOf_cons_cons, List.isPrefixOf_nil_left, Bool.and_true,
      List.length_singleton]
    by_cases same : unit = old
    · rw [if_pos (by simp [same]), if_pos same, ih]
    · rw [if_neg (by simp [Ne.symm same]), if_neg same, ih]
      rfl

/-- What both replacements make of one unit. -/
def escapeUnit (unit : UInt16) : NetString :=
  if unit = ascii '\\' then [ascii '\\', ascii '\\']
  else if unit = ascii '"' then [ascii '\\', ascii '"']
  else [unit]

theorem escapeJson_eq_flatMap (value : NetString) : escapeJson value = value.flatMap escapeUnit := by
  have quote : text "\"" = [ascii '"'] := rfl
  have backslash : text "\\" = [ascii '\\'] := rfl
  rw [escapeJson, quote, backslash, replace_singleton, replace_singleton, List.flatMap_assoc]
  congr 1
  funext unit
  rw [escapeUnit]
  split_ifs with isBackslash isQuote
  · rfl
  · simp [isQuote]
    rfl
  · simp [isQuote]

/-- An escaped unit is read as the unit. -/
private theorem read_escapeUnit (unit : UInt16) (rest : NetString) :
    JsonLiteral.read .plain (escapeUnit unit ++ rest) = if isControl unit then none
      else (JsonLiteral.read .plain rest).map fun result => (unit :: result.1, result.2) := by
  by_cases isBackslash : unit = ascii '\\'
  · subst isBackslash
    exact JsonLiteral.read_shortEscape (by decide) rest
  by_cases isQuote : unit = ascii '"'
  · subst isQuote
    exact JsonLiteral.read_shortEscape (by decide) rest
  · rw [escapeUnit, if_neg isBackslash, if_neg isQuote]
    exact JsonLiteral.read_plain isQuote isBackslash rest

/-- No unit of the text is a control character. -/
def NoControl (value : NetString) : Prop := ∀ unit ∈ value, 0x20 ≤ unit.toNat

instance (value : NetString) : Decidable (NoControl value) :=
  inferInstanceAs (Decidable (∀ unit ∈ value, 0x20 ≤ unit.toNat))

private theorem noControl_cons (unit : UInt16) (value : NetString) :
    NoControl (unit :: value) ↔ isControl unit = false ∧ NoControl value := by
  simp [NoControl, isControl]

/-- An escaped text in front of a quote is read as the text, unless it holds a control character. -/
theorem read_escapeJson (value rest : NetString) :
    JsonLiteral.read .plain (escapeJson value ++ ascii '"' :: rest) =
      if NoControl value then some (value, rest) else none := by
  rw [escapeJson_eq_flatMap]
  induction value with
  | nil => simp [NoControl]
  | cons unit value ih =>
    rw [List.flatMap_cons, List.append_assoc, read_escapeUnit, ih]
    cases control : isControl unit with
    | true => simp [noControl_cons, control]
    | false =>
      simp only [noControl_cons, control, true_and, Bool.false_eq_true, if_false]
      split_ifs
      · rfl
      · rfl

/-- A quoted text is decoded to itself, unless it holds a control character. -/
theorem jsonLiteral_escapeJson (value : NetString) :
    jsonLiteral (ascii '"' :: (escapeJson value ++ [ascii '"'])) = if NoControl value then some value else none := by
  rw [jsonLiteral, if_pos rfl, read_escapeJson]
  split_ifs
  · rfl
  · rfl

/-- A message whose opening ends in front of a label: the label adds its string to the report and
nothing else. -/
private theorem jsonEvents_label {opening : NetString} {report : List JsonEvent}
    (opens : advance {} opening = some (⟨[.object], .quoted false .plain []⟩, report)) (label rest : NetString) :
    jsonEvents (opening ++ (escapeJson label ++ ascii '"' :: rest)) = if NoControl label then
      (events ⟨[.object], .separator⟩ rest).map (report ++ [.string label] ++ ·) else none := by
  rw [jsonEvents, events_append, opens, Option.bind_some, events_quoted, read_escapeJson]
  split_ifs
  · simp [Function.comp_def, behindLiteral, literalEvent]
  · rfl

private theorem stops_comma (part : JsonNumber) : part.step (ascii ',') = none := by
  cases part <;> rfl

private theorem stops_brace (part : JsonNumber) : part.step (ascii '\x7d') = none := by
  cases part <;> rfl

/-- A member of a message that holds a number: what stands in front of the number, and the number. -/
structure Member where
  opening : NetString
  name : NetString
  digits : NetString

/-- Behind another member, the opening announces the name. -/
structure Member.IsNamed (m : Member) : Prop where
  comma : ∃ rest, m.opening = ascii ',' :: rest
  named : advance ⟨[.object], .separator⟩ m.opening = some (⟨[.object], .value⟩, [.name m.name])

def Member.events (m : Member) : List JsonEvent := [.name m.name, .number m.digits]

/-- Members with numbers up to the end of the message. -/
private theorem events_members (members : List Member) (named : ∀ m ∈ members, m.IsNamed)
    (numbers : ∀ m ∈ members, isJsonNumber m.digits = true) :
    JsonReader.events ⟨[.object], .separator⟩ (members.flatMap (fun m => m.opening ++ m.digits) ++ text "\x7d") =
      some (members.flatMap Member.events ++ [.endObject]) := by
  induction members with
  | nil => rfl
  | cons m members ih =>
    have later := ih (fun m' member => named m' (List.mem_cons_of_mem m member)) fun m' member =>
      numbers m' (List.mem_cons_of_mem m member)
    -- the number ends in front of the next comma or the closing brace
    have stops : ∃ stop rest, members.flatMap (fun m => m.opening ++ m.digits) ++ text "\x7d" = stop :: rest ∧
        ∀ part : JsonNumber, part.step stop = none := by
      cases members with
      | nil => exact ⟨_, _, rfl, stops_brace⟩
      | cons next members =>
        obtain ⟨rest, comma⟩ := (named next (by simp)).comma
        rw [List.flatMap_cons, comma]
        exact ⟨_, _, rfl, stops_comma⟩
    obtain ⟨stop, rest, following, stops⟩ := stops
    rw [List.flatMap_cons, List.append_assoc, List.append_assoc, events_append, (named m List.mem_cons_self).named,
      Option.bind_some, following, events_value_number _ (numbers m List.mem_cons_self) stops, ← following, later]
    simp [Member.events]

/-- The report in front of the label. -/
def messageOpening (type field : String) : List JsonEvent :=
  [.beginObject, .name (text "source"), .string (text "host"), .name (text "type"), .string (text type),
    .name (text field)]

/-- A message holds its label: the label decides one string of the report and nothing else, and the
message is complete once its numbers are numbers. A label with a control character makes it no document. -/
def HoldsLabel (message : NetString → NetString) (type field : String) (members : List Member) : Prop :=
  ∃ rest : Option (List JsonEvent),
    (∀ label, jsonEvents (message label) =
      if NoControl label then rest.map (messageOpening type field ++ [.string label] ++ ·) else none) ∧
    ((∀ m ∈ members, isJsonNumber m.digits = true) → rest = some (members.flatMap Member.events ++ [.endObject]))

def poseMembers (formats : Formats) (roll pitch yaw tx ty tz : Double) : List Member :=
  [⟨text ",\"roll\":", text "roll", formats.general roll⟩, ⟨text ",\"pitch\":", text "pitch", formats.general pitch⟩,
    ⟨text ",\"yaw\":", text "yaw", formats.general yaw⟩, ⟨text ",\"tx\":", text "tx", formats.fixed 4 tx⟩,
    ⟨text ",\"ty\":", text "ty", formats.fixed 4 ty⟩, ⟨text ",\"tz\":", text "tz", formats.fixed 4 tz⟩]

def gestureMembers (formats : Formats) (roll pitch : Double) : List Member :=
  [⟨text ",\"roll\":", text "roll", formats.fixed 2 roll⟩, ⟨text ",\"pitch\":", text "pitch", formats.fixed 2 pitch⟩]

private theorem buildPoseMessageJson_eq (formats : Formats) (roll pitch yaw tx ty tz : Double) (label : NetString) :
    buildPoseMessageJson formats roll pitch yaw label tx ty tz =
      text "\x7b\"source\":\"host\",\"type\":\"pose\",\"label\":\"" ++ (escapeJson label ++ ascii '"' ::
        ((poseMembers formats roll pitch yaw tx ty tz).flatMap (fun m => m.opening ++ m.digits) ++ text "\x7d")) := by
  have quote : text "\",\"roll\":" = ascii '"' :: text ",\"roll\":" := rfl
  simp [buildPoseMessageJson, poseMembers, quote]

private theorem buildGestureMessageJson_eq (formats : Formats) (gesture : NetString) (roll pitch : Double) :
    buildGestureMessageJson formats gesture roll pitch =
      text "\x7b\"source\":\"host\",\"type\":\"gesture\",\"name\":\"" ++ (escapeJson gesture ++ ascii '"' ::
        ((gestureMembers formats roll pitch).flatMap (fun m => m.opening ++ m.digits) ++ text "\x7d")) := by
  have quote : text "\",\"roll\":" = ascii '"' :: text ",\"roll\":" := rfl
  simp [buildGestureMessageJson, gestureMembers, quote]

private theorem poseMembers_named (formats : Formats) (roll pitch yaw tx ty tz : Double) :
    ∀ m ∈ poseMembers formats roll pitch yaw tx ty tz, m.IsNamed := by
  simp only [poseMembers, List.forall_mem_cons, List.not_mem_nil, IsEmpty.forall_iff, implies_true, and_true]
  exact ⟨⟨⟨_, rfl⟩, rfl⟩, ⟨⟨_, rfl⟩, rfl⟩, ⟨⟨_, rfl⟩, rfl⟩, ⟨⟨_, rfl⟩, rfl⟩, ⟨⟨_, rfl⟩, rfl⟩, ⟨⟨_, rfl⟩, rfl⟩⟩

private theorem gestureMembers_named (formats : Formats) (roll pitch : Double) :
    ∀ m ∈ gestureMembers formats roll pitch, m.IsNamed := by
  simp only [gestureMembers, List.forall_mem_cons, List.not_mem_nil, IsEmpty.forall_iff, implies_true, and_true]
  exact ⟨⟨⟨_, rfl⟩, rfl⟩, ⟨⟨_, rfl⟩, rfl⟩⟩

/-- A message of an opening, the escaped label and members holds its label. -/
private theorem holdsLabel_of_eq {message : NetString → NetString} {type field : String} {members : List Member}
    {opening : NetString} (shape : ∀ label, message label = opening ++ (escapeJson label ++ ascii '"' ::
      (members.flatMap (fun m => m.opening ++ m.digits) ++ text "\x7d")))
    (opens : advance {} opening = some (⟨[.object], .quoted false .plain []⟩, messageOpening type field))
    (named : ∀ m ∈ members, m.IsNamed) : HoldsLabel message type field members := by
  refine ⟨JsonReader.events ⟨[.object], .separator⟩ _, ?_, events_members members named⟩
  intro label
  rw [shape label]
  exact jsonEvents_label opens label _

/-- Between quotes, an escaped text is one complete literal exactly when it holds no control character, and
the literal stands for the text. So the two messages hold whatever label they are given. -/
theorem escapeJson_exact :
    (∀ value : NetString,
      ((∃ decoded, jsonLiteral (ascii '"' :: (escapeJson value ++ [ascii '"'])) = some decoded) ↔
        ∀ unit ∈ value, 0x20 ≤ unit.toNat) ∧
      ((∀ unit ∈ value, 0x20 ≤ unit.toNat) →
        jsonLiteral (ascii '"' :: (escapeJson value ++ [ascii '"'])) = some value)) ∧
    (∀ formats roll pitch yaw tx ty tz,
      HoldsLabel (fun label => buildPoseMessageJson formats roll pitch yaw label tx ty tz) "pose" "label"
        (poseMembers formats roll pitch yaw tx ty tz)) ∧
    ∀ formats roll pitch,
      HoldsLabel (fun gesture => buildGestureMessageJson formats gesture roll pitch) "gesture" "name"
        (gestureMembers formats roll pitch) := by
  refine ⟨?_, ?_, ?_⟩
  · intro value
    change ((∃ decoded, _ = some decoded) ↔ NoControl value) ∧ (NoControl value → _)
    rw [jsonLiteral_escapeJson]
    split_ifs with clean
    · exact ⟨iff_of_true ⟨value, rfl⟩ clean, fun _ => rfl⟩
    · exact ⟨iff_of_false (by simp) clean, fun present => absurd present clean⟩
  · intro formats roll pitch yaw tx ty tz
    exact holdsLabel_of_eq (buildPoseMessageJson_eq formats roll pitch yaw tx ty tz) rfl
      (poseMembers_named formats roll pitch yaw tx ty tz)
  · intro formats roll pitch
    exact holdsLabel_of_eq (fun gesture => buildGestureMessageJson_eq formats gesture roll pitch) rfl
      (gestureMembers_named formats roll pitch)

end GestureSuite.Message
