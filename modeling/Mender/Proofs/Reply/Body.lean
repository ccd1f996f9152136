import Mathlib
import Mender.Proofs.Json.Pretty
import Mender.Reply.Body

/-!
# Bodies that carry blocks

A body carries a list of blocks if it spells an object whose content lists them. Fields of
other names may stand anywhere, in the body and in each block. Such a body is read as the
blocks it carries.
-/

namespace Mender.Reply

/-- The fields of a text that may be missing. -/
inductive Block.TextField : Option String → List (Option String × Json) → Prop
  | absent : TextField none []
  | null : TextField none [(some "text", .null)]
  | present (s : String) : TextField (some s) [(some "text", .text s)]

/-- An object that says what the block is, next to fields of other names. -/
structure Block.Describes (b : Block) (fields : List (Option String × Json)) : Prop where
  keyed : fields.all (fun f => f.1.isSome) = true
  type : fields.filter (fun f => f.1 = some "type") = [(some "type", .text b.type)]
  text : Block.TextField b.text? (fields.filter fun f => f.1 = some "text")

/-- A value that stands for a block. -/
def Block.Matches (b : Block) (j : Json) : Prop :=
  ∃ fields, j = .object fields ∧ b.Describes fields

/-- The body spells an object whose content is the blocks, next to fields of other names. -/
def Carries (body : String) (blocks : List Block) : Prop :=
  ∃ fields items, Json.Spells body.toList (.object fields) ∧
    fields.all (fun f => f.1.isSome) = true ∧
    fields.filter (fun f => f.1 = some "content") = [(some "content", .array items)] ∧
    List.Forall₂ Block.Matches blocks items

theorem Block.ofJson?_of_matches {b : Block} {j : Json} (h : b.Matches j) :
    Block.ofJson? j = some b := by
  obtain ⟨fields, rfl, keyed, type, text⟩ := h
  obtain ⟨kind, text?⟩ := b
  have first : Json.slot? fields "type" = some (some (.text kind)) := by
    rw [Json.slot?, type]
  have second : ∃ slot, Json.slot? fields "text" = some slot ∧ textSlot? slot = some text? := by
    cases found : fields.filter fun f => f.1 = some "text" with
    | nil =>
      rw [found] at text
      cases text
      exact ⟨none, by rw [Json.slot?, found], rfl⟩
    | cons f more =>
      rw [found] at text
      cases text with
      | null => exact ⟨some .null, by rw [Json.slot?, found], rfl⟩
      | present s => exact ⟨some (.text s), by rw [Json.slot?, found], rfl⟩
  obtain ⟨slot, second, read⟩ := second
  have slots : Json.slots? ["type", "text"] (.object fields) =
      some [some (.text kind), slot] := by
    simp [Json.slots?, Json.objectSlots?, keyed, first, second]
  simp only [ofJson?, slots, Option.bind_eq_bind, Option.bind_some, read]
  rfl

/-- A body is read as the blocks that it carries. -/
theorem blocks?_of_carries {body : String} {blocks : List Block} (h : Carries body blocks) :
    blocks? body = some blocks := by
  obtain ⟨fields, items, spelled, keyed, content, each⟩ := h
  have slots : Json.slots? ["content"] (.object fields) = some [some (.array items)] := by
    have slot : Json.slot? fields "content" = some (some (.array items)) := by
      rw [Json.slot?, content]
    simp [Json.slots?, Json.objectSlots?, keyed, slot]
  have read : items.mapM Block.ofJson? = some blocks := by
    clear slots content
    induction each with
    | nil => rfl
    | cons first _ ih => simp [List.mapM_cons, Block.ofJson?_of_matches first, ih]
  rw [blocks?, Json.ofText?_of_spells spelled]
  simp only [Option.bind_eq_bind, Option.bind_some, slots]
  exact read

/-- The text of a body is that of the first text block it carries. -/
theorem text_of_carries {body : String} {blocks : List Block} {block : Block} {text : String}
    (carried : Carries body blocks) (first : blocks.find? (·.type = "text") = some block)
    (holds : block.text? = some text) (not_blank : text.isBlankText = false) :
    Reply.text body = .ok text := by
  have selected : selectText? blocks = some text := by
    simp [selectText?, first, holds, not_blank]
  rw [Reply.text, blocks?_of_carries carried]
  dsimp only
  rw [selected]

/-- The value that says what a block is and nothing else. -/
def Block.toJson (b : Block) : Json :=
  .record [("type", .text b.type), ("text", (b.text?.map Json.text).getD .null)]

/-- A body that carries the blocks and nothing else. -/
def encode (blocks : List Block) : String :=
  Json.pretty (.record [("content", .array (blocks.map Block.toJson))])

theorem Block.matches_toJson (b : Block) : b.Matches b.toJson := by
  obtain ⟨kind, text?⟩ := b
  refine ⟨_, rfl, rfl, rfl, ?_⟩
  cases text? with
  | none => exact .null
  | some s => exact .present s

theorem Block.isWritable_toJson (b : Block) : b.toJson.isWritable = true := by
  obtain ⟨kind, text?⟩ := b
  cases text? <;> rfl

/-- Every list of blocks has a body that carries it. -/
theorem carries_encode (blocks : List Block) : Carries (encode blocks) blocks := by
  have writable : Json.itemsWritable (blocks.map Block.toJson) = true := by
    induction blocks with
    | nil => rfl
    | cons b blocks ih => simp [Json.itemsWritable, b.isWritable_toJson, ih]
  have each : List.Forall₂ Block.Matches blocks (blocks.map Block.toJson) := by
    rw [List.forall₂_map_right_iff]
    exact List.forall₂_same.mpr fun b _ => b.matches_toJson
  have whole : (Json.record [("content", .array (blocks.map Block.toJson))]).isWritable = true := by
    change (true && Json.itemsWritable _ && true) = true
    rw [writable]
    rfl
  exact ⟨_, _, Json.spells_pretty whole, rfl, rfl, each⟩

end Mender.Reply
