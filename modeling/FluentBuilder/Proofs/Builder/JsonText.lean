import Mathlib.Tactic.SplitIfs
import FluentBuilder.Builder.Json
import FluentBuilder.Proofs.Json.Layout
import FluentBuilder.Proofs.Json.Reader

namespace FluentBuilder

namespace Json

def string? : Json → Option Text
  | string t => some t
  | _ => none

def boolean? : Json → Option Bool
  | boolean b => some b
  | _ => none

def array? : Json → Option (List Json)
  | array items => some items
  | _ => none

def field? (key : Text) : Json → Option Json
  | object fields => fields.lookup key
  | _ => none

end Json

def Member.ofJson? (j : Json) : Option Member := do
  let name ← (j.field? "name".toList).bind Json.string?
  let type ← (j.field? "data_type".toList).bind Json.string?
  let optional ← (j.field? "optional".toList).bind Json.boolean?
  return { name, type, optional }

def Builder.ofJson? (j : Json) : Option Builder := do
  let aliasName ← (j.field? "alias_name".toList).bind Json.string?
  let items ← (j.field? "members".toList).bind Json.array?
  let members ← items.mapM Member.ofJson?
  let classText ← (j.field? "class_text".toList).bind Json.string?
  return { aliasName, members, classText }

def Builder.readJson? (t : Text) : Option Builder :=
  (Json.read? t).bind Builder.ofJson?

theorem Member.ofJson?_toJson (m : Member) : ofJson? m.toJson = some m :=
  rfl

namespace Builder

theorem mapM_ofJson?_toJson (members : List Member) :
    (members.map Member.toJson).mapM Member.ofJson? = some members := by
  induction members with
  | nil => rfl
  | cons m members ih => simp [Member.ofJson?_toJson, ih]

theorem ofJson?_toJson (b : Builder) : ofJson? b.toJson = some b := by
  have hmembers : (b.toJson.field? "members".toList).bind Json.array? =
      some (b.members.map Member.toJson) := rfl
  have hname : (b.toJson.field? "alias_name".toList).bind Json.string? = some b.aliasName := rfl
  have htext : (b.toJson.field? "class_text".toList).bind Json.string? = some b.classText := rfl
  simp only [ofJson?, hname, hmembers, htext, mapM_ofJson?_toJson, Option.bind_eq_bind,
    Option.bind_some, Option.pure_def]

theorem lineEndsOfItems_map_toJson (members : List Member) :
    Json.lineEndsOfItems (members.map Member.toJson) = 5 * members.length + 1 := by
  induction members with
  | nil => rfl
  | cons m members ih =>
    have hm : m.toJson.lineEnds = 4 := rfl
    simp only [List.map_cons, Json.lineEndsOfItems, hm, ih, List.length_cons]
    omega

theorem lineEnds_toJson (b : Builder) :
    b.toJson.lineEnds = if b.members = [] then 4 else 5 * b.members.length + 5 := by
  have hmembers : (Json.array (b.members.map Member.toJson)).lineEnds =
      if b.members = [] then 0 else 5 * b.members.length + 1 := by
    cases b.members with
    | nil => rfl
    | cons m members => exact lineEndsOfItems_map_toJson (m :: members)
  simp only [toJson, Json.lineEnds, Json.lineEndsOfFields, hmembers]
  split_ifs <;> omega

theorem spells_jsonText_iff {b : Builder} {v : Json} : Json.Spells v b.jsonText ↔ v = b.toJson := by
  have h := Json.spells_layout 0 b.toJson
  constructor
  · intro hv
    exact hv.eq h
  · rintro rfl
    exact h

theorem readJson?_eq (b : Builder) : readJson? b.jsonText = some b := by
  have h : Json.read? b.jsonText = some b.toJson :=
    Json.read?_eq_some_iff.2 (spells_jsonText_iff.2 rfl)
  rw [readJson?, h, Option.bind_some, ofJson?_toJson]

/-- The JSON text of a builder spells one value, and the builder is read back from it: no two
builders share a text. Its control characters are the line ends between the items of the layout, so
that their number depends on the number of members alone. -/
theorem jsonText_lossless (b : Builder) :
    (∀ v, Json.Spells v b.jsonText ↔ v = b.toJson) ∧
    readJson? b.jsonText = some b ∧
    (∀ b' : Builder, b'.jsonText = b.jsonText ↔ b' = b) ∧
    b.jsonText.filter Json.isControl =
      List.replicate (if b.members = [] then 4 else 5 * b.members.length + 5) '\n' := by
  refine ⟨fun v => spells_jsonText_iff, readJson?_eq b, fun b' => ⟨fun h => ?_, fun h => h ▸ rfl⟩, ?_⟩
  · have hread := readJson?_eq b'
    rw [h, readJson?_eq b] at hread
    exact (Option.some.inj hread).symm
  · rw [jsonText, Json.filter_layout, lineEnds_toJson]

example :
    let b : Builder := {
      aliasName := "\"\\".toList
      members := [{ name := "\u2028/".toList, type := "\t\r\n".toList, optional := true }]
      classText := "\x00\x1f\x7f".toList }
    readJson? b.jsonText = some b := by
  decide +kernel

end Builder

end FluentBuilder
