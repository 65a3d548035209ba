import Bootloader.Image.Reader
import Bootloader.Proofs.Act.Frame

/-!
# What reading an image does

The tables of an image are read through a source. Whatever its reads respect, reading the
tables respects (`respects_openImage` and its companions). A section that is found by name
has exactly that name in the table of names (`sectionNamed?_ends`). The range of the text holds
every executable segment that does not reach the end of the addresses (`textRange?_encloses`).
-/

set_option autoImplicit false

namespace Bootloader.Image

open Act

variable {σ ε α : Type} {source : Source σ ε}

section

variable {relation : σ → σ → Prop} [IsPreorder σ relation]
  (reads : ∀ offset length, (source.read offset length).Respects relation)

include reads

theorem respects_openImage : (openImage source).Respects relation := by
  unfold openImage
  refine (reads 0 FileHeader.layout.size).bind ?_
  intro bytes
  split
  · exact respects_pure
  · exact respects_fail

theorem respects_readTable (table : Table) (layout : Layout α) :
    (readTable source table layout).Respects relation := by
  have rest : ∀ bytes, (if table.entrySize = 0 then crash
      else pure (layout.readMany table.count.toNat bytes) : Act σ ε (List α)).Respects
        relation := by
    intro bytes
    split
    · exact respects_crash
    · exact respects_pure
  unfold readTable
  dsimp only
  split
  · exact respects_pure.bind rest
  · exact (reads _ _).bind rest

theorem respects_programHeaders (header : FileHeader) :
    (programHeaders source header).Respects relation :=
  respects_readTable reads _ _

theorem respects_sectionHeaders (header : FileHeader) :
    (sectionHeaders source header).Respects relation :=
  respects_readTable reads _ _

theorem respects_bss? (header : FileHeader) : (bss? source header).Respects relation := by
  unfold bss?
  exact (respects_sectionHeaders reads header).bind fun _ => respects_pure

theorem respects_sectionNamed? (header : FileHeader) (name : String) :
    (sectionNamed? source header name).Respects relation := by
  unfold sectionNamed?
  refine (respects_sectionHeaders reads header).bind ?_
  intro sections
  split
  · exact respects_pure
  · refine respects_ofOption.bind fun table => respects_require.bind ?_
    intro _
    exact (reads _ _).bind fun names => respects_pure

end

/-- The section that was found by name is the first one with exactly that name, as the table
of names gives it, which is not longer than any such table may be. -/
theorem sectionNamed?_ends {header : FileHeader} {name : String} {before after : σ}
    {place : SectionHeader} :
    (sectionNamed? source header name).Ends before (.done (some place)) after ↔
    ∃ sections table names middle,
      (sectionHeaders source header).Ends before (.done sections) middle ∧
      sections[header.nameSection.toNat]? = some table ∧
      table.size.toNat ≤ Capacity.nameTable ∧
      (source.read table.offset.toNat table.size.toNat).Ends middle (.done names) after ∧
      sections.find? (fun section_ =>
        nameAt? names section_.name.toNat == some (Text.encode name)) = some place := by
  constructor
  · intro ends
    obtain ⟨sections, middle, listed, ends⟩ := ends_bind_done.mp ends
    split at ends
    · obtain ⟨impossible, _⟩ := ends
      cases impossible
    · rcases ends_ofOption_bind.mp ends with ⟨table, found, ends⟩ | ⟨_, failed, _⟩
      · rcases ends_require_bind.mp ends with ⟨short, ends⟩ | ⟨_, failed, _⟩
        · obtain ⟨names, left, read, done, same⟩ := ends_bind_done.mp ends
          cases same
          exact ⟨sections, table, names, middle, listed, found, by simpa using short, read,
            Outcome.done.inj done⟩
        · cases failed
      · cases failed
  · rintro ⟨sections, table, names, middle, listed, found, short, read, first⟩
    refine ends_bind_done.mpr ⟨sections, middle, listed, ?_⟩
    have filled : sections.isEmpty = false := by
      cases sections with
      | nil => cases found
      | cons => rfl
    rw [filled, if_neg Bool.false_ne_true]
    refine ends_ofOption_bind.mpr (.inl ⟨table, found, ?_⟩)
    refine ends_require_bind.mpr (.inl ⟨by simpa using short, ?_⟩)
    exact ends_bind_done.mpr ⟨names, after, read, congrArg Outcome.done first, rfl⟩

/-! ## The range of the text -/

section

variable {place : ProgramHeader → Address} {range? : Option (Address × Address)}
  {segment : ProgramHeader} {low high : Nat}

/-- A range of addresses, widened so that it holds a segment too. -/
def widen (place : ProgramHeader → Address) (range? : Option (Address × Address))
    (segment : ProgramHeader) : Option (Address × Address) :=
  let start := place segment
  let stop := Address.ofNat (min (start.toNat + segment.memorySize.toNat) (UInt64.size - 1))
  match range? with
  | none => some (start, stop)
  | some (low, high) => some (min low start, max high stop)

theorem textRange?_eq_foldl (segments : List ProgramHeader) :
    textRange? segments place =
      (segments.filter fun segment =>
        segment.isLoad && segment.flags = SegmentFlags.readExecute).foldl (widen place) none :=
  rfl

/-- There is a range, and it reaches from `low` or below to `high` or beyond. -/
def Encloses (range? : Option (Address × Address)) (low high : Nat) : Prop :=
  ∃ start stop, range? = some (start, stop) ∧ start.toNat ≤ low ∧ high ≤ stop.toNat

theorem Encloses.widen (encloses : Encloses range? low high) :
    Encloses (widen place range? segment) low high := by
  obtain ⟨start, stop, rfl, below, above⟩ := encloses
  refine ⟨_, _, rfl, ?_, ?_⟩
  · rw [Address.toNat_min]
    exact Nat.le_trans (Nat.min_le_left _ _) below
  · rw [Address.toNat_max]
    exact Nat.le_trans above (Nat.le_max_left _ _)

theorem encloses_widen (fits : (place segment).toNat + segment.memorySize.toNat < UInt64.size) :
    Encloses (widen place range? segment) (place segment).toNat
      ((place segment).toNat + segment.memorySize.toNat) := by
  have stop : (Address.ofNat (min ((place segment).toNat + segment.memorySize.toNat)
      (UInt64.size - 1))).toNat = (place segment).toNat + segment.memorySize.toNat := by
    rw [Nat.min_eq_left (by omega), Address.toNat_ofNat_of_lt fits]
  rcases range? with _ | ⟨first, last⟩
  · exact ⟨_, _, rfl, Nat.le_refl _, Nat.le_of_eq stop.symm⟩
  · refine ⟨_, _, rfl, ?_, ?_⟩
    · rw [Address.toNat_min]
      exact Nat.min_le_right _ _
    · rw [Address.toNat_max, stop]
      exact Nat.le_max_right _ _

theorem Encloses.foldl (encloses : Encloses range? low high) (segments : List ProgramHeader) :
    Encloses (segments.foldl (Image.widen place) range?) low high := by
  induction segments generalizing range? with
  | nil => exact encloses
  | cons segment rest ih => exact ih encloses.widen

theorem encloses_foldl {segments : List ProgramHeader} (member : segment ∈ segments)
    (fits : (place segment).toNat + segment.memorySize.toNat < UInt64.size) :
    Encloses (segments.foldl (widen place) range?) (place segment).toNat
      ((place segment).toNat + segment.memorySize.toNat) := by
  induction segments generalizing range? with
  | nil => cases member
  | cons first rest ih =>
      rcases List.mem_cons.mp member with rfl | member
      · exact (encloses_widen fits).foldl rest
      · exact ih member

/-- The range of the text holds every executable segment. -/
theorem textRange?_encloses {segments : List ProgramHeader} (member : segment ∈ segments)
    (load : segment.isLoad = true) (text : segment.flags = SegmentFlags.readExecute)
    (fits : (place segment).toNat + segment.memorySize.toNat < UInt64.size) :
    Encloses (textRange? segments place) (place segment).toNat
      ((place segment).toNat + segment.memorySize.toNat) := by
  rw [textRange?_eq_foldl]
  refine encloses_foldl (List.mem_filter.mpr ⟨member, ?_⟩) fits
  rw [load, text]
  rfl

end

end Bootloader.Image
