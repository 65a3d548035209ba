import Bootloader.SystemPage.Map

/-!
# Lists of reservations as sets of addresses

A list of reservations stands for the addresses that its entries cover. The lists kept by a
map are separated: every entry ends before the next one starts, with at least one address in
between, so no two entries overlap or lie side by side.

Recording a reservation joins it with the entries that it touches, in one pass in which the
joined range grows. On a separated list the pass is enough: an entry left behind never
touches the joined range later (`apart_of_mem_join`), because the range only grows towards
entries that lie further on. The join covers what its parts covered (`covers_join`), and
putting it back in order separates the list again (`separated_insertSorted`).

A separated list of non-empty entries is determined by what it covers (`eq_of_covers`): its
first entry starts at the lowest address that is covered, and ends at the next one that is not.
-/

set_option autoImplicit false

namespace Bootloader.SystemPage.Reservation

/-- Some entry of the list covers the address. -/
def Covers (entries : List Reservation) (address : Address) : Prop :=
  ∃ entry ∈ entries, entry.contains address

/-- Every entry ends before the next one starts, and does not touch it. -/
def Separated (entries : List Reservation) : Prop :=
  entries.Pairwise fun first second => first.stop < second.start

/-- The entry holds at least one address. -/
def Filled (entry : Reservation) : Prop :=
  entry.start < entry.stop

/-- Two entries do not even lie side by side. -/
def Apart (first second : Reservation) : Prop :=
  first.stop < second.start ∨ second.stop < first.start

theorem contains_iff {entry : Reservation} {address : Address} :
    entry.contains address ↔ entry.start ≤ address ∧ address < entry.stop := by
  simp only [contains, Bool.and_eq_true, decide_eq_true_eq]

theorem intersects_iff {entry : Reservation} {start stop : Address} :
    entry.intersects start stop ↔ entry.start < stop ∧ start < entry.stop := by
  simp only [intersects, Bool.and_eq_true, decide_eq_true_eq]

theorem touches_iff {first second : Reservation} :
    first.touches second ↔ first.start ≤ second.stop ∧ second.start ≤ first.stop := by
  simp only [touches, Bool.and_eq_true, decide_eq_true_eq]

theorem apart_of_not_touches {first second : Reservation} (free : ¬ first.touches second) :
    Apart first second := by
  simp only [touches_iff, Apart, Address.le_def, Address.lt_def] at free ⊢
  omega

@[simp] theorem not_covers_nil (address : Address) : ¬ Covers [] address := by
  simp [Covers]

@[simp] theorem covers_cons {entry : Reservation} {rest : List Reservation} {address : Address} :
    Covers (entry :: rest) address ↔ entry.contains address ∨ Covers rest address := by
  simp [Covers]

theorem covers_append {first second : List Reservation} {address : Address} :
    Covers (first ++ second) address ↔ Covers first address ∨ Covers second address := by
  simp [Covers, or_and_right, exists_or]

/-! ## Joining -/

/-- The smallest range around two that touch covers nothing else. -/
theorem contains_hull {first second : Reservation} (touch : second.touches first)
    (address : Address) :
    (first.hull second).contains address ↔ first.contains address ∨ second.contains address := by
  simp only [touches_iff, contains_iff, hull, Address.le_def, Address.lt_def, Address.toNat_min,
    Address.toNat_max] at *
  omega

theorem covers_join (merged : Reservation) (entries : List Reservation) (address : Address) :
    (merged.join entries).1.contains address ∨ Covers (merged.join entries).2 address ↔
      merged.contains address ∨ Covers entries address := by
  induction entries generalizing merged with
  | nil => rfl
  | cons entry rest ih =>
      rw [join]
      split
      case isTrue touch =>
        rw [ih, contains_hull touch, covers_cons, or_assoc]
      case isFalse _ =>
        rw [covers_cons, or_left_comm, ih, or_left_comm, covers_cons]

/-- What is left of the list is a part of it in the same order. -/
theorem join_sublist (merged : Reservation) (entries : List Reservation) :
    (merged.join entries).2.Sublist entries := by
  induction entries generalizing merged with
  | nil => exact List.Sublist.refl []
  | cons entry rest ih =>
      rw [join]
      split
      · exact (ih _).cons entry
      · exact (ih merged).cons_cons entry

/-- The joined range starts no lower than all of its parts. -/
theorem le_start_join {low : Nat} {merged : Reservation} {entries : List Reservation}
    (first : low ≤ merged.start.toNat) (others : ∀ entry ∈ entries, low ≤ entry.start.toNat) :
    low ≤ (merged.join entries).1.start.toNat := by
  induction entries generalizing merged with
  | nil => exact first
  | cons entry rest ih =>
      have here := others entry List.mem_cons_self
      have later : ∀ entry ∈ rest, low ≤ entry.start.toNat :=
        fun other member => others other (List.mem_cons_of_mem entry member)
      rw [join]
      split
      · refine ih ?_ later
        rw [hull, Address.toNat_min]
        exact Nat.le_min.mpr ⟨first, here⟩
      · exact ih first later

/-- The joined range ends no higher than all of its parts. -/
theorem stop_join_le {high : Nat} {merged : Reservation} {entries : List Reservation}
    (first : merged.stop.toNat ≤ high) (others : ∀ entry ∈ entries, entry.stop.toNat ≤ high) :
    (merged.join entries).1.stop.toNat ≤ high := by
  induction entries generalizing merged with
  | nil => exact first
  | cons entry rest ih =>
      have here := others entry List.mem_cons_self
      have later : ∀ entry ∈ rest, entry.stop.toNat ≤ high :=
        fun other member => others other (List.mem_cons_of_mem entry member)
      rw [join]
      split
      · refine ih ?_ later
        rw [hull, Address.toNat_max]
        exact Nat.max_le.mpr ⟨first, here⟩
      · exact ih first later

/-- Joining makes a range no smaller. -/
theorem join_encloses (merged : Reservation) (entries : List Reservation) :
    (merged.join entries).1.start ≤ merged.start ∧ merged.stop ≤ (merged.join entries).1.stop := by
  simp only [Address.le_def]
  induction entries generalizing merged with
  | nil => exact ⟨Nat.le_refl _, Nat.le_refl _⟩
  | cons entry rest ih =>
      rw [join]
      split
      · have low : (merged.hull entry).start.toNat = _ := Address.toNat_min _ _
        have high : (merged.hull entry).stop.toNat = _ := Address.toNat_max _ _
        have wider := ih (merged.hull entry)
        omega
      · exact ih merged

/-- A range that ends before everything in the list joins nothing. -/
theorem join_of_before {merged : Reservation} {entries : List Reservation}
    (before : ∀ entry ∈ entries, merged.stop < entry.start) :
    merged.join entries = (merged, entries) := by
  induction entries with
  | nil => rfl
  | cons entry rest ih =>
      have here := before entry List.mem_cons_self
      have free : ¬ entry.touches merged := by
        rw [touches_iff, Address.le_def]
        rw [Address.lt_def] at here
        omega
      rw [join, if_neg free, ih fun other member => before other (List.mem_cons_of_mem entry member)]

/-- On a separated list, what one pass leaves behind does not touch the joined range. -/
theorem apart_of_mem_join {merged : Reservation} {entries : List Reservation}
    (separated : Separated entries) (nonempty : ∀ entry ∈ entries, entry.Filled)
    {other : Reservation} (member : other ∈ (merged.join entries).2) :
    Apart other (merged.join entries).1 := by
  induction entries generalizing merged with
  | nil => cases member
  | cons entry rest ih =>
      obtain ⟨behind, separated⟩ := List.pairwise_cons.mp separated
      have filled : ∀ entry ∈ rest, entry.Filled :=
        fun other member => nonempty other (List.mem_cons_of_mem entry member)
      rw [join] at member ⊢
      split at member
      case isTrue touch =>
        rw [if_pos touch]
        exact ih separated filled member
      case isFalse free =>
        rw [if_neg free]
        rcases List.mem_cons.mp member with same | member
        · subst same
          -- The entry lies on one side of the range; what follows lies further up.
          rcases apart_of_not_touches free with below | above
          · have above : other.stop.toNat + 1 ≤ merged.start.toNat := below
            exact .inl (le_start_join above behind)
          · have before : ∀ entry ∈ rest, merged.stop < entry.start := by
              intro entry member
              have further := behind entry member
              have size := nonempty other List.mem_cons_self
              simp only [Filled, Address.lt_def] at *
              omega
            rw [join_of_before before]
            exact .inr above
        · exact ih separated filled member

/-! ## Keeping the order -/

@[simp] theorem mem_insertSorted {entry other : Reservation} {entries : List Reservation} :
    other ∈ entry.insertSorted entries ↔ other = entry ∨ other ∈ entries := by
  induction entries with
  | nil => simp [insertSorted]
  | cons first rest ih =>
      rw [insertSorted]
      split
      · simp
      · simp only [List.mem_cons, ih]
        exact or_left_comm

theorem covers_insertSorted {entry : Reservation} {entries : List Reservation}
    {address : Address} :
    Covers (entry.insertSorted entries) address ↔
      entry.contains address ∨ Covers entries address := by
  simp [Covers]

/-- A range that touches none of a separated list has its place in it. -/
theorem separated_insertSorted {entry : Reservation} {entries : List Reservation}
    (separated : Separated entries) (nonempty : ∀ other ∈ entries, other.Filled)
    (filled : entry.Filled) (apart : ∀ other ∈ entries, Apart other entry) :
    Separated (entry.insertSorted entries) := by
  induction entries with
  | nil => exact List.pairwise_singleton _ _
  | cons first rest ih =>
      obtain ⟨behind, separated⟩ := List.pairwise_cons.mp separated
      have size := nonempty first List.mem_cons_self
      have side := apart first List.mem_cons_self
      rw [insertSorted]
      split
      case isTrue before =>
        have above : entry.stop < first.start := by
          simp only [Filled, Apart, Address.lt_def] at *
          omega
        refine List.pairwise_cons.mpr ⟨?_, ?_⟩
        · intro other member
          rcases List.mem_cons.mp member with rfl | member
          · exact above
          · have further := behind other member
            simp only [Filled, Address.lt_def] at *
            omega
        · exact List.pairwise_cons.mpr ⟨behind, separated⟩
      case isFalse after =>
        have below : first.stop < entry.start := by
          simp only [Filled, Apart, Address.lt_def] at *
          omega
        refine List.pairwise_cons.mpr ⟨?_, ?_⟩
        · intro other member
          rcases mem_insertSorted.mp member with rfl | member
          · exact below
          · exact behind other member
        · exact ih separated (fun other member => nonempty other (List.mem_cons_of_mem _ member))
            (fun other member => apart other (List.mem_cons_of_mem _ member))

/-! ## The only list of a set of addresses -/

section

variable {entry other : Reservation} {rest others : List Reservation}

/-- In front of the first entry of a separated list nothing is covered. -/
theorem start_le_of_covers (separated : Separated (entry :: rest)) (filled : entry.Filled)
    {address : Address} (covered : Covers (entry :: rest) address) : entry.start ≤ address := by
  obtain ⟨first, member, inside⟩ := covered
  have low := (contains_iff.mp inside).1
  rcases List.mem_cons.mp member with rfl | member
  · exact low
  · have behind := (List.pairwise_cons.mp separated).1 first member
    simp only [Filled, Address.le_def, Address.lt_def] at *
    omega

/-- What the rest of a separated list covers lies behind the end of the first entry. -/
theorem stop_lt_of_covers (separated : Separated (entry :: rest)) {address : Address}
    (covered : Covers rest address) : entry.stop < address := by
  obtain ⟨first, member, inside⟩ := covered
  have behind := (List.pairwise_cons.mp separated).1 first member
  exact Nat.lt_of_lt_of_le behind (contains_iff.mp inside).1

/-- The end of the first entry of a separated list is not covered. -/
theorem not_covers_stop (separated : Separated (entry :: rest)) :
    ¬ Covers (entry :: rest) entry.stop := by
  rw [covers_cons]
  rintro (inside | covered)
  · exact Nat.lt_irrefl _ (contains_iff.mp inside).2
  · exact Nat.lt_irrefl _ (stop_lt_of_covers separated covered)

/-- Nor is the end of any other. -/
theorem not_covers_stop_of_mem {entries : List Reservation} (separated : Separated entries)
    (filled : ∀ entry ∈ entries, entry.Filled) (member : entry ∈ entries) :
    ¬ Covers entries entry.stop := by
  induction entries with
  | nil => cases member
  | cons first rest ih =>
      rcases List.mem_cons.mp member with rfl | later
      · exact not_covers_stop separated
      obtain ⟨behind, separated⟩ := List.pairwise_cons.mp separated
      rw [covers_cons]
      rintro (inside | covered)
      · have above := behind entry later
        have size := filled entry member
        have below := (contains_iff.mp inside).2
        simp only [Filled, Address.lt_def] at *
        omega
      · exact ih separated (fun entry member => filled entry (List.mem_cons_of_mem _ member)) later
          covered

theorem covers_start (filled : entry.Filled) : Covers (entry :: rest) entry.start :=
  covers_cons.mpr (.inl (contains_iff.mpr ⟨Nat.le_refl _, filled⟩))

/-- Of two first entries that start at one address, neither ends before the other. -/
theorem stop_le_of_covers (filled : entry.Filled) (separated : Separated (entry :: rest))
    (same : ∀ address, Covers (entry :: rest) address ↔ Covers (other :: others) address)
    (start : entry.start = other.start) : other.stop ≤ entry.stop := by
  refine Nat.le_of_not_lt fun beyond => not_covers_stop separated ((same entry.stop).mpr ?_)
  refine covers_cons.mpr (.inl (contains_iff.mpr ⟨?_, beyond⟩))
  exact start ▸ Nat.le_of_lt filled

theorem covers_rest_iff (separated : Separated (entry :: rest)) {address : Address} :
    Covers rest address ↔ Covers (entry :: rest) address ∧ entry.stop < address := by
  rw [covers_cons]
  refine ⟨fun covered => ⟨.inr covered, stop_lt_of_covers separated covered⟩, ?_⟩
  rintro ⟨inside | covered, behind⟩
  · exact absurd behind (Nat.lt_asymm (contains_iff.mp inside).2)
  · exact covered

end

/-- **Separated lists of non-empty entries are equal if they cover the same addresses.** -/
theorem eq_of_covers {first second : List Reservation} (separated : Separated first)
    (filled : ∀ entry ∈ first, entry.Filled) (apart : Separated second)
    (nonempty : ∀ entry ∈ second, entry.Filled)
    (same : ∀ address, Covers first address ↔ Covers second address) : first = second := by
  induction first generalizing second with
  | nil =>
      cases second with
      | nil => rfl
      | cons other others =>
          have covered := (same _).mpr (covers_start (nonempty other List.mem_cons_self))
          exact absurd covered (not_covers_nil _)
  | cons entry rest ih =>
      have here : entry.Filled := filled entry List.mem_cons_self
      cases second with
      | nil => exact absurd ((same _).mp (covers_start here)) (not_covers_nil _)
      | cons other others =>
          have there : other.Filled := nonempty other List.mem_cons_self
          have start : entry.start = other.start := by
            refine Address.toNat_inj.mp (Nat.le_antisymm ?_ ?_)
            · exact start_le_of_covers separated here ((same _).mpr (covers_start there))
            · exact start_le_of_covers apart there ((same _).mp (covers_start here))
          have stop : entry.stop = other.stop := by
            refine Address.toNat_inj.mp (Nat.le_antisymm ?_ ?_)
            · exact stop_le_of_covers there apart (fun address => (same address).symm) start.symm
            · exact stop_le_of_covers here separated same start
          have tail : rest = others := by
            refine ih (List.pairwise_cons.mp separated).2
              (fun entry member => filled entry (List.mem_cons_of_mem _ member))
              (List.pairwise_cons.mp apart).2
              (fun entry member => nonempty entry (List.mem_cons_of_mem _ member)) ?_
            intro address
            rw [covers_rest_iff separated, covers_rest_iff apart, same, stop]
          obtain ⟨_, _⟩ := entry
          obtain ⟨_, _⟩ := other
          cases start
          cases stop
          rw [tail]

/-! ## Leaving reservations -/

/-- The cursor only moves up. -/
theorem le_skip (reserved : List Reservation) (top : Address) :
    top ≤ skip reserved top := by
  fun_induction skip reserved top with
  | case1 top entry found ih =>
      have inside : entry.contains top := by simpa using List.find?_some found
      simp only [contains_iff] at inside
      simp only [Address.le_def, Address.lt_def] at *
      omega
  | case2 top found => exact Nat.le_refl _

/-- The cursor does not move past what ends below a bound. -/
theorem skip_le {reserved : List Reservation} {bound : Address}
    (within : ∀ entry ∈ reserved, entry.stop ≤ bound) {top : Address} (start : top ≤ bound) :
    skip reserved top ≤ bound := by
  fun_induction skip reserved top with
  | case1 top entry found ih => exact ih (within entry (List.mem_of_find?_eq_some found))
  | case2 top found => exact start

/-- The cursor does not move past an address that is not reserved. -/
theorem skip_le_of_not_covers {reserved : List Reservation} {place : Address}
    (free : ¬ Covers reserved place) {top : Address} (start : top ≤ place) :
    skip reserved top ≤ place := by
  fun_induction skip reserved top with
  | case1 top entry found ih =>
      refine ih ?_
      have inside : entry.contains top := by simpa using List.find?_some found
      have outside : ¬ entry.contains place :=
        fun covered => free ⟨entry, List.mem_of_find?_eq_some found, covered⟩
      rw [contains_iff] at inside outside
      simp only [Address.le_def, Address.lt_def] at *
      omega
  | case2 top found => exact start

/-- The cursor leaves all reservations. -/
theorem not_covers_skip (reserved : List Reservation) (top : Address) :
    ¬ Covers reserved (skip reserved top) := by
  fun_induction skip reserved top with
  | case1 top entry found ih => exact ih
  | case2 top found =>
      rintro ⟨entry, member, inside⟩
      exact List.find?_eq_none.mp found entry member inside

/-- A cursor in an entry of a separated list goes to the end of the entry. -/
theorem skip_of_contains {reserved : List Reservation} (separated : Separated reserved)
    (filled : ∀ entry ∈ reserved, entry.Filled) {entry : Reservation} (member : entry ∈ reserved)
    {top : Address} (inside : entry.contains top) : skip reserved top = entry.stop := by
  obtain ⟨low, high⟩ := contains_iff.mp inside
  refine Address.toNat_inj.mp (Nat.le_antisymm ?_ (Nat.le_of_not_lt fun below => ?_))
  · exact skip_le_of_not_covers (not_covers_stop_of_mem separated filled member)
      (Nat.le_of_lt high)
  · refine not_covers_skip reserved top ⟨entry, member, contains_iff.mpr ⟨?_, below⟩⟩
    exact Nat.le_trans low (le_skip reserved top)

/-- A cursor that no reservation covers stays where it is. -/
theorem skip_of_not_covers {reserved : List Reservation} {top : Address}
    (free : ¬ Covers reserved top) : skip reserved top = top :=
  Address.toNat_inj.mp
    (Nat.le_antisymm (skip_le_of_not_covers free (Nat.le_refl _)) (le_skip reserved top))

end Bootloader.SystemPage.Reservation
