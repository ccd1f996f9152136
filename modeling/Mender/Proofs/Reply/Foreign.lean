import Mender.Proofs.Reply.Fence
import Mender.Settings

/-!
# Blocks of other languages

The first line of a block names its language. It is only asked whether that line starts with
the tag, so a block of another language is passed over unless its name goes on from the tag.
Then it is taken for a block of the language, and the rest of the name for code.
-/

namespace Mender.Reply

open Text

/-- What stands between the fences of a block. -/
def inside (info body : List Char) : List Char := info ++ '\n' :: (body ++ ['\n'])

theorem block_eq (info body : List Char) :
    block info body = fence ++ (inside info body ++ fence) := by
  simp [block, inside]

section Ticks

variable {text tag : List Char}

/-- Between two fences a text without backticks holds the tag that the first one opens with,
if the second one is to end the block. -/
theorem prefix_of_closed {front after : List Char} (no_tick : '\x60' ∉ text)
    (opens : fence ++ (text ++ fence) = front ++ (fence ++ tag ++ after))
    (closed : fence <:+: after) : tag <+: text := by
  -- six backticks are there, and the two fences need them all
  have three : fence.count '\x60' = 3 := by decide
  have ticks := congrArg (List.count '\x60') opens
  have last := closed.sublist.count_le '\x60'
  simp only [List.count_append, three, List.count_eq_zero.mpr no_tick] at ticks last
  have no_front : '\x60' ∉ front := List.count_eq_zero.mp (by omega)
  have no_tag : '\x60' ∉ tag := List.count_eq_zero.mp (by omega)
  obtain rfl : front = [] := by
    cases front with
    | nil => rfl
    | cons c front =>
      have same : '\x60' = c := (List.cons.inj opens).1
      rw [← same] at no_front
      exact absurd List.mem_cons_self no_front
  rw [List.nil_append, List.append_assoc] at opens
  have behind : tag ++ after = text ++ fence := (List.append_cancel_left opens).symm
  obtain short | ⟨more, rfl⟩ := List.prefix_or_prefix_of_prefix (List.prefix_append text fence)
    (behind ▸ List.prefix_append tag after)
  · obtain ⟨more, rfl⟩ := short
    cases more with
    | nil => simp
    | cons c more =>
      rw [List.append_assoc] at behind
      have same : c = '\x60' := (List.cons.inj (List.append_cancel_left behind)).1
      simp [same] at no_tag
  · exact List.prefix_append tag more

theorem fenced?_between (no_tick : '\x60' ∉ text) :
    fenced? tag (fence ++ (text ++ fence)) =
      if tag <+: text then some (trim (text.drop tag.length)) else none := by
  split
  · next starts =>
    obtain ⟨more, rfl⟩ := starts
    have no_end : '\x60' ∉ more := fun mem => no_tick (List.mem_append_right tag mem)
    have closes : FirstAt fence (more ++ (fence ++ [])) more [] := firstAt_of_not_mem no_end
    have opens : FirstAt (fence ++ tag) (fence ++ (tag ++ more ++ fence)) [] (more ++ fence) :=
      ⟨by simp, by simp⟩
    rw [List.append_nil] at closes
    rw [fenced?_of_first opens closes, List.drop_left]
  · next other =>
    apply fenced?_eq_none
    intro front after opens closed
    exact other (prefix_of_closed no_tick opens.parts closed)

end Ticks

/-- A reply that starts with a backtick is no bare code, unless code starts with one. -/
theorem bare?_of_tick {prologue rest : List Char} (starts : prologue.head? ≠ some '\x60') :
    bare? prologue ('\x60' :: rest) = none := by
  obtain ⟨more, kept⟩ := trimRight_cons_ink (c := '\x60') rfl rest
  rw [bare?_eq, trim_cons_ink rfl, kept, if_neg]
  rintro ⟨nonempty, front⟩
  obtain ⟨c, prologue, rfl⟩ := List.exists_cons_of_ne_nil nonempty
  rw [(List.cons_prefix_cons.mp front).1] at starts
  exact starts rfl

/-- A block whose first line names a language, in front of a body without backticks, has code
for the tag exactly if the text behind its fence starts with the tag, and then the code is what
follows. For a tag on one line this means that the name starts with the tag, be it the tag
itself or the longer name of another language. -/
theorem code?_block_named {tag prologue info body : String} (engine : Engine)
    (named : '\x60' ∉ info.toList) (held : '\x60' ∉ body.toList)
    (starts : prologue.toList.head? ≠ some '\x60') :
    code? engine tag prologue (String.ofList (block info.toList body.toList)) =
        (if engine.accepts (blockPattern tag.toList) = true ∧
            tag.toList <+: inside info.toList body.toList then
          some (String.ofList (trim ((inside info.toList body.toList).drop tag.toList.length)))
        else none) ∧
      ('\n' ∉ tag.toList →
        (code? engine tag prologue (String.ofList (block info.toList body.toList)) = none ↔
          ¬(engine.accepts (blockPattern tag.toList) = true ∧ tag.toList <+: info.toList))) := by
  have no_tick : '\x60' ∉ inside info.toList body.toList := by simp [inside, named, held]
  have bare : bare? prologue.toList (block info.toList body.toList) = none := bare?_of_tick starts
  have code : code? engine tag prologue (String.ofList (block info.toList body.toList)) =
      if engine.accepts (blockPattern tag.toList) = true ∧
          tag.toList <+: inside info.toList body.toList then
        some (String.ofList (trim ((inside info.toList body.toList).drop tag.toList.length)))
      else none := by
    rw [code?, String.toList_ofList, bare, block_eq, fenced?_between no_tick, ite_and]
    split
    · split <;> rfl
    · rfl
  refine ⟨code, ?_⟩
  intro line
  have front : tag.toList <+: inside info.toList body.toList ↔ tag.toList <+: info.toList :=
    prefix_append_cons_iff line _ _
  rw [code, ← front]
  simp only [ite_eq_right_iff, reduceCtorEq, imp_false]

/-- Python is not taken for PHP, but C++ is taken for C. -/
theorem code?_block_named_prefix :
    code? .standard "php" "<?php" (String.ofList (block "python".toList "print(1)".toList)) =
        none ∧
      code? .standard "c" "#include" (String.ofList (block "cpp".toList "int x;".toList)) =
        some "pp\nint x;" := by
  constructor
  · apply ((code?_block_named .standard (by decide) (by decide) (by decide)).2 (by decide)).mpr
    decide
  · rw [(code?_block_named .standard (by decide) (by decide) (by decide)).1]
    decide +kernel

/-- A language whose tag is how the name of another one starts. -/
def languageC : Language := { Language.default with fenceTag := "c", prologue := "#include" }

theorem code?_block_longer_name :
    ({ Settings.default with language := languageC }).validate.isOk = true ∧
      "cpp" ≠ languageC.fenceTag ∧ "cpp".toList.any isBlank = false ∧
      '\x60' ∉ "cpp".toList ∧ '\x60' ∉ "int x;".toList ∧
      "\x60\x60\x60cpp\nint x;\n\x60\x60\x60".toList = block "cpp".toList "int x;".toList ∧
      code? .standard languageC.fenceTag languageC.prologue
          "\x60\x60\x60cpp\nint x;\n\x60\x60\x60" =
        some "pp\nint x;" :=
  ⟨by decide +kernel, by decide, by decide, by decide, by decide, by decide, by decide +kernel⟩

end Mender.Reply
