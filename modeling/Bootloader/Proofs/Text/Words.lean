import Bootloader.Proofs.Text.Encoding
import Bootloader.Text.Blank
import Mathlib.Data.List.TakeWhile
import Mathlib.Tactic.SplitIfs

/-!
# Words, and what they are encoded to

A word is not empty and has no blank in it (`words_solid`). In UTF-8 a byte below 128 stands for
itself and is no part of another character (`eq_of_mem_utf8EncodeChar`), so an encoded word has
no space in it either. Words that are encoded one behind the other, each with a space behind it,
are therefore told apart at the spaces (`splitOn_flatMap`). A word without a semicolon is a list
of one item, itself (`listItems_of_solid`).
-/

set_option autoImplicit false

namespace Bootloader.Text

/-! ## Words -/

/-- A piece has none of the characters at which it was split. -/
theorem not_separates_of_mem_splitWhere {separates : Char → Bool} {characters piece : List Char}
    (member : piece ∈ splitWhere separates characters) :
    ∀ character ∈ piece, separates character = false := by
  induction characters generalizing piece with
  | nil =>
      rw [splitWhere, List.mem_singleton] at member
      subst member
      nofun
  | cons first rest ih =>
      rw [splitWhere] at member
      split at member
      case isTrue =>
        rcases List.mem_cons.mp member with rfl | later
        · nofun
        · exact ih later
      case isFalse solid =>
        have alone : separates first = false := by simpa using solid
        split at member
        case h_1 =>
          obtain rfl := List.mem_singleton.mp member
          exact List.forall_mem_singleton.mpr alone
        case h_2 head others split =>
          rw [split] at ih
          rcases List.mem_cons.mp member with rfl | later
          · exact List.forall_mem_cons.mpr ⟨alone, ih List.mem_cons_self⟩
          · exact ih (List.mem_cons_of_mem _ later)

/-- Words are not empty, and have no blanks. -/
theorem words_solid {characters word : List Char} (member : word ∈ words characters) :
    word ≠ [] ∧ ∀ character ∈ word, isBlank character = false := by
  obtain ⟨piece, some⟩ := List.mem_filter.mp member
  exact ⟨by simpa using some, not_separates_of_mem_splitWhere piece⟩

/-- What has no separator in it is one piece. -/
theorem splitWhere_of_solid {separates : Char → Bool} {characters : List Char}
    (solid : ∀ character ∈ characters, separates character = false) :
    splitWhere separates characters = [characters] := by
  induction characters with
  | nil => rfl
  | cons first rest ih =>
      obtain ⟨alone, others⟩ := List.forall_mem_cons.mp solid
      rw [splitWhere, if_neg (by rw [alone]; exact Bool.false_ne_true), ih others]

/-- Nothing is trimmed off what has no blank in it. -/
theorem trim_of_solid {characters : List Char}
    (solid : ∀ character ∈ characters, isBlank character = false) :
    trim characters = characters := by
  have whole {others : List Char} (same : ∀ character ∈ others, isBlank character = false) :
      others.dropWhile isBlank = others :=
    List.dropWhile_eq_self_iff.mpr fun bound => by simp [same _ (List.getElem_mem bound)]
  rw [trim, whole solid, whole fun character member => solid character (List.mem_reverse.mp member),
    List.reverse_reverse]

/-- A word without a semicolon is a list of one item. -/
theorem listItems_of_solid {word : String} (filled : word.toList ≠ [])
    (solid : ∀ character ∈ word.toList, isBlank character = false) (single : ';' ∉ word.toList) :
    listItems word = [word] := by
  have alone : pieces ';' word.toList = [word.toList] :=
    splitWhere_of_solid fun character member =>
      beq_false_of_ne fun same => single (same ▸ member)
  have kept : [word.toList].filter (fun item => !item.isEmpty) = [word.toList] := by
    simpa using filled
  rw [listItems, alone, List.map_singleton, trim_of_solid solid, kept, List.map_singleton,
    String.ofList_toList]

/-- A text is cut around the first separator. -/
theorem cut_eq_some_iff {separator : Char} {characters front back : List Char} :
    cut separator characters = some (front, back) ↔
      characters = front ++ separator :: back ∧ separator ∉ front := by
  induction characters generalizing front with
  | nil => simp [cut]
  | cons first rest ih =>
      rw [cut]
      split
      case isTrue here =>
        rw [here]
        constructor
        · rintro ⟨rfl, rfl⟩
          exact ⟨rfl, List.not_mem_nil⟩
        · rintro ⟨same, apart⟩
          cases front with
          | nil =>
              cases same
              rfl
          | cons head others =>
              cases same
              exact absurd List.mem_cons_self apart
      case isFalse other =>
        rw [Option.map_eq_some_iff]
        constructor
        · rintro ⟨⟨before, after⟩, later, same⟩
          cases same
          obtain ⟨rfl, apart⟩ := ih.mp later
          exact ⟨rfl, List.not_mem_cons_of_ne_of_not_mem (Ne.symm other) apart⟩
        · rintro ⟨same, apart⟩
          cases front with
          | nil =>
              cases same
              exact absurd rfl other
          | cons head others =>
              cases same
              exact ⟨(others, back), ih.mpr ⟨rfl, fun later =>
                apart (List.mem_cons_of_mem _ later)⟩, rfl⟩

theorem cut_eq_none_iff {separator : Char} {characters : List Char} :
    cut separator characters = none ↔ separator ∉ characters := by
  induction characters with
  | nil => exact ⟨fun _ => List.not_mem_nil, fun _ => rfl⟩
  | cons first rest ih =>
      rw [cut]
      split
      case isTrue here => exact ⟨nofun, fun apart => absurd (here ▸ List.mem_cons_self) apart⟩
      case isFalse other =>
        rw [Option.map_eq_none_iff, ih, List.mem_cons, not_or]
        exact ⟨fun apart => ⟨Ne.symm other, apart⟩, And.right⟩

/-- Only blanks are trimmed off. -/
theorem mem_trim {characters : List Char} {character : Char} (member : character ∈ characters)
    (solid : isBlank character = false) : character ∈ trim characters := by
  have kept {others : List Char} (there : character ∈ others) :
      character ∈ others.dropWhile isBlank := by
    rw [← List.takeWhile_append_dropWhile (p := isBlank) (l := others), List.mem_append] at there
    rcases there with blank | kept
    · rw [List.mem_takeWhile_imp blank] at solid
      cases solid
    · exact kept
  rw [trim, List.mem_reverse]
  exact kept (List.mem_reverse.mpr (kept member))

/-! ## Encoded words -/

/-- A byte below 128 is part of one character only, of which it is the number. -/
theorem eq_of_mem_utf8EncodeChar {character : Char} {byte : UInt8}
    (member : byte ∈ String.utf8EncodeChar character) (low : byte.toNat < 128) :
    character.toNat = byte.toNat := by
  have number : character.toNat = character.val.toNat := rfl
  unfold String.utf8EncodeChar at member
  dsimp only at member
  split_ifs at member
  case pos small =>
    rw [List.mem_singleton] at member
    rw [member, number, UInt8.toNat_ofNat']
    omega
  -- all bytes of longer codes have their highest bit set
  all_goals
    simp only [List.mem_cons, List.not_mem_nil, or_false] at member
    exfalso
  case pos =>
    rcases member with rfl | rfl
    all_goals
      rw [UInt8.toNat_ofNat'] at low
      omega
  case pos =>
    rcases member with rfl | rfl | rfl
    all_goals
      rw [UInt8.toNat_ofNat'] at low
      omega
  case neg =>
    rcases member with rfl | rfl | rfl | rfl
    all_goals
      rw [UInt8.toNat_ofNat'] at low
      omega

theorem mem_encodeCharacters {byte : UInt8} {characters : List Char} :
    byte ∈ encodeCharacters characters ↔
      ∃ character ∈ characters, byte ∈ String.utf8EncodeChar character :=
  List.mem_flatMap

/-- What has no blank in it has no space in its code. -/
theorem space_not_mem_encodeCharacters {characters : List Char}
    (solid : ∀ character ∈ characters, isBlank character = false) :
    0x20 ∉ encodeCharacters characters := by
  intro member
  obtain ⟨character, inside, here⟩ := mem_encodeCharacters.mp member
  have number : character.toNat = 0x20 := eq_of_mem_utf8EncodeChar here (by decide)
  have blank : isBlank character = true := by
    rw [isBlank, number]
    rfl
  exact Bool.false_ne_true ((solid character inside).symm.trans blank)

theorem encodeCharacters_ne_nil {characters : List Char} (some : characters ≠ []) :
    encodeCharacters characters ≠ [] := by
  obtain ⟨first, rest, rfl⟩ := List.exists_cons_of_ne_nil some
  rw [encodeCharacters, List.flatMap_cons]
  exact List.append_ne_nil_of_left_ne_nil String.utf8EncodeChar_ne_nil _

/-- Tokens without a separator, each of them with a separator behind it, are split where they
were joined; nothing is behind the last separator. -/
theorem splitOn_flatMap {separator : UInt8} {tokens : List Bytes}
    (solid : ∀ token ∈ tokens, separator ∉ token) :
    (tokens.flatMap fun token => token ++ [separator]).splitOn separator = tokens ++ [[]] := by
  induction tokens with
  | nil => rfl
  | cons token rest ih =>
      obtain ⟨alone, others⟩ := List.forall_mem_cons.mp solid
      have apart : ∀ byte ∈ token, (byte == separator) = false := by
        intro byte inside
        exact beq_false_of_ne fun same => alone (same ▸ inside)
      rw [List.flatMap_cons, List.append_assoc, List.singleton_append, List.cons_append,
        ← ih others, List.splitOn_eq_splitOnP, List.splitOn_eq_splitOnP]
      exact List.splitOnP_append_cons_of_forall_mem apart separator (beq_self_eq_true separator) _

end Bootloader.Text
