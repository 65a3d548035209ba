import Bootloader.Proofs.Link.Hearing

/-!
# Hosts that serve files

What is assumed of a host and of the line to it (`FileHost`): a request to read that is written
to the device has one answer, which joins the bytes under way or is lost as a whole; a read from
the device takes bytes from the front of those under way, as many as have come by then. An
answer repeats the descriptor and the position of its request, and has the bytes that the file
holds there (`Answers`). Where every read brings something as long as anything is under way, no
answer comes late (`FileHost.Prompt`).

A client takes an answer by its type and its length alone (`readFile_ends_done`,
`writeFile_ends_done`).
-/

set_option autoImplicit false

namespace Bootloader.Link

/-- The message that asks to read. -/
def readRequest (descriptor : UInt32) (position length : Nat) : Message :=
  ⟨Request.read.type, word descriptor.toNat ++ word position ++ word length⟩

/-- Whatever is asked for, the request fits a frame. -/
theorem readRequest_framed (descriptor : UInt32) (position length : Nat) :
    ∃ frame, encodeFrame? (readRequest descriptor position length) = some frame :=
  ⟨_, rfl⟩

/-- From this number on, 32 bits hold a negative one. -/
def signBit : Nat := 0x80000000

/-- The payload of an answer to a request to read: descriptor and position as they were asked
for, and the bytes of the file at the position, at least one if there are any and any are asked
for; or a negative number where there is no such file. -/
inductive Answers (contents : UInt32 → Option Bytes) (descriptor : UInt32)
    (position length : Nat) : Bytes → Prop where
  | data {file bytes : Bytes} (known : contents descriptor = some file)
      (part : bytes <+: file.drop position) (short : bytes.length ≤ length)
      (filled : position < file.length → 0 < length → bytes ≠ []) :
      Answers contents descriptor position length
        (word descriptor.toNat ++ word position ++ word bytes.length ++ bytes)
  | refusal {status : Nat} (unknown : contents descriptor = none) (negative : signBit ≤ status)
      (signed : status < UInt32.size) :
      Answers contents descriptor position length
        (word descriptor.toNat ++ word position ++ word status)

/-- A host that serves files behind a device, and the line from it. -/
structure FileHost (ω : Type) [Hardware ω] (device : DeviceId) where
  /-- What the file of a descriptor holds. -/
  contents : UInt32 → Option Bytes
  /-- The host is there. -/
  serving : ω → Prop
  /-- The bytes that the host sent and that were not read yet. -/
  underWay : ω → Bytes
  /-- A request is taken; its answer is sent, or lost. -/
  takes : ∀ {world after : ω} {descriptor : UInt32} {position length : Nat} {frame : Bytes}
    {outcome : Outcome FileError Nat}, serving world → position < UInt32.size →
    length ≤ maximumTransfer → encodeFrame? (readRequest descriptor position length) = some frame →
    (device.write 0 frame).Ends world outcome after →
    outcome = .done frame.length ∧ serving after ∧
      (underWay after = underWay world ∨ ∃ payload answer,
        Answers contents descriptor position length payload ∧
        encodeFrame? ⟨Request.read.type, payload⟩ = some answer ∧
        underWay after = underWay world ++ answer)
  /-- What was sent arrives in its order, sooner or later. -/
  gives : ∀ {world after : ω} {outcome : Outcome FileError Bytes}, serving world →
    (device.read 0 receiveChunk Capacity.readTimeout).Ends world outcome after →
    ∃ bytes, outcome = .done bytes ∧ serving after ∧ underWay world = bytes ++ underWay after

/-- No answer comes late: a read brings something as long as anything is under way. -/
def FileHost.Prompt {ω : Type} [Hardware ω] {device : DeviceId} (host : FileHost ω device) :
    Prop :=
  ∀ {world after : ω} {bytes : Bytes}, host.serving world →
    (device.read 0 receiveChunk Capacity.readTimeout).Ends world (.done bytes) after →
    host.underWay world ≠ [] → bytes ≠ []

/-! ## Numbers in answers -/

theorem length_word (number : Nat) : (word number).length = 4 :=
  Bytes.length_ofNat 4 number

theorem toNat_word {number : Nat} (small : number < UInt32.size) :
    Bytes.toNat (word number) = number := by
  rw [word, Bytes.toNat_ofNat]
  exact Nat.mod_eq_of_lt small

/-- A number of a payload. -/
theorem slice_word {first : Bytes} {offset : Nat} (before : first.length = offset) (number : Nat)
    (rest : Bytes) : (first ++ word number ++ rest).slice offset 4 = word number := by
  rw [List.append_assoc, Bytes.slice, List.drop_left' before, List.take_left' (length_word number)]

/-- What a transfer repeats of its request takes eight bytes. -/
theorem length_echo (descriptor position : Nat) : (word descriptor ++ word position).length = 8 := by
  simp only [List.length_append, length_word]

section

variable {echo : Bytes}

/-- The number behind what is repeated. -/
theorem signed?_answer {number : Nat} (eight : echo.length = 8) (small : number < UInt32.size)
    (rest : Bytes) :
    signed? (echo ++ word number ++ rest) 8 = some (Int.bmod number UInt32.size) := by
  have long : 8 + 4 ≤ (echo ++ word number ++ rest).length := by
    simp only [List.length_append, length_word, eight]
    omega
  rw [signed?, if_pos long, slice_word eight, toNat_word small]

theorem drop_answer (eight : echo.length = 8) (number : Nat) (rest : Bytes) :
    (echo ++ word number ++ rest).drop transferHeader = rest := by
  refine List.drop_left' ?_
  rw [List.length_append, eight, length_word]
  rfl

theorem length_answer (eight : echo.length = 8) (number : Nat) (rest : Bytes) :
    (echo ++ word number ++ rest).length = transferHeader + rest.length := by
  simp only [List.length_append, length_word, eight, transferHeader]

end

theorem bmod_of_small {number : Nat} (small : number < signBit) :
    Int.bmod number UInt32.size = number := by
  rw [signBit] at small
  rw [UInt32.size, Int.bmod_def]
  split <;> omega

theorem bmod_of_negative {number : Nat} (negative : signBit ≤ number)
    (signed : number < UInt32.size) : Int.bmod number UInt32.size < 0 := by
  rw [signBit] at negative
  rw [UInt32.size] at signed ⊢
  rw [Int.bmod_def]
  split <;> omega

/-- An answer says how many bytes it has, or that there is no file. -/
theorem Answers.counted {contents : UInt32 → Option Bytes} {descriptor : UInt32}
    {position length : Nat} {payload : Bytes} (few : length ≤ maximumTransfer)
    (answers : Answers contents descriptor position length payload) :
    (∃ given : Nat, signed? payload 8 = some (given : Int) ∧ given ≤ length ∧
      payload.length = transferHeader + given) ∨
    ∃ number, signed? payload 8 = some number ∧ number < 0 ∧ contents descriptor = none := by
  cases answers with
  | @data _ bytes _ part short filled =>
      have small : bytes.length < signBit :=
        Nat.lt_of_le_of_lt (Nat.le_trans short few) (by decide)
      refine .inl ⟨bytes.length, ?_, short, length_answer (length_echo _ _) _ bytes⟩
      rw [signed?_answer (length_echo _ _) (Nat.lt_trans small (by decide)), bmod_of_small small]
  | @refusal status unknown negative signed =>
      refine .inr ⟨_, ?_, bmod_of_negative negative signed, unknown⟩
      rw [← List.append_nil (word _ ++ word _ ++ word _), signed?_answer (length_echo _ _) signed]

/-- An answer is no longer than its request allows. -/
theorem Answers.length_le {contents : UInt32 → Option Bytes} {descriptor : UInt32}
    {position length : Nat} {payload : Bytes}
    (answers : Answers contents descriptor position length payload) :
    payload.length ≤ transferHeader + length := by
  cases answers with
  | data known part short filled =>
      rw [length_answer (length_echo _ _)]
      exact Nat.add_le_add_left short transferHeader
  | refusal unknown negative signed =>
      rw [← List.append_nil (word _ ++ word _ ++ word _), length_answer (length_echo _ _)]
      exact Nat.add_le_add_left (Nat.zero_le length) transferHeader

/-! ## Which answers are taken -/

section

variable {σ : Type} {before after : σ}

/-- A number is taken that is not negative. -/
theorem count_ends_done {payload : Bytes} {offset given : Nat} :
    (count payload offset : Act σ FileError Nat).Ends before (.done given) after ↔
      signed? payload offset = some (given : Int) ∧ before = after := by
  rw [count, Act.ends_ofOption_bind]
  constructor
  · rintro (⟨number, found, ends⟩ | ⟨_, failed, _⟩)
    · rcases Act.ends_require_bind.mp ends with ⟨positive, done, same⟩ | ⟨_, failed, _⟩
      · have positive : 0 ≤ number := of_decide_eq_true positive
        have value : number.toNat = given := Outcome.done.inj done
        refine ⟨?_, same⟩
        rw [found, ← value, Int.toNat_of_nonneg positive]
      · cases failed
    · cases failed
  · rintro ⟨found, same⟩
    refine .inl ⟨given, found, Act.ends_require_bind.mpr (.inl ⟨?_, ?_, same⟩)⟩
    · exact decide_eq_true (Int.natCast_nonneg given)
    · rfl

theorem transfer_ends_done {descriptor position length : Nat} {request : Bytes} :
    (transfer descriptor position length : Act σ FileError Bytes).Ends before (.done request)
        after ↔
      position < UInt32.size ∧ word descriptor ++ word position ++ word length = request ∧
        before = after := by
  rw [transfer, Act.ends_require_bind]
  constructor
  · rintro (⟨inRange, done, same⟩ | ⟨_, failed, _⟩)
    · exact ⟨of_decide_eq_true inRange, Outcome.done.inj done, same⟩
    · cases failed
  · rintro ⟨inRange, rfl, same⟩
    exact .inl ⟨decide_eq_true inRange, rfl, same⟩

end

variable {ω : Type} [Hardware ω] {device : DeviceId} {patience : Nat} {before after : ω}

/-- **Which answer a read takes.** Beside its type, the one that was heard has to be as long as
it says, and that no more than was wanted. The descriptor and the position in front of the
length are not looked at. -/
theorem readFile_ends_done {descriptor position length : Nat} {bytes : Bytes} :
    (readFile device patience descriptor position length).Ends before (.done bytes) after ↔
      position < UInt32.size ∧ ∃ answer, ∃ given : Nat,
        (transact device patience .read
          (word descriptor ++ word position ++ word (min length maximumTransfer))).Ends before
            (.done answer) after ∧
        signed? answer 8 = some (given : Int) ∧ given ≤ min length maximumTransfer ∧
        answer.length = transferHeader + given ∧ answer.drop transferHeader = bytes := by
  unfold readFile
  dsimp only
  rw [Act.ends_bind_done]
  constructor
  · rintro ⟨request, _, built, ends⟩
    obtain ⟨inRange, rfl, rfl⟩ := transfer_ends_done.mp built
    obtain ⟨answer, middle, asked, ends⟩ := Act.ends_bind_done.mp ends
    obtain ⟨given, _, counted, ends⟩ := Act.ends_bind_done.mp ends
    obtain ⟨told, rfl⟩ := count_ends_done.mp counted
    rcases Act.ends_require_bind.mp ends with ⟨checked, done, rfl⟩ | ⟨_, failed, _⟩
    · simp only [Bool.and_eq_true, decide_eq_true_eq] at checked
      exact ⟨inRange, answer, given, asked, told, checked.1, checked.2, Outcome.done.inj done⟩
    · cases failed
  · rintro ⟨inRange, answer, given, asked, told, few, exact, rfl⟩
    refine ⟨_, _, transfer_ends_done.mpr ⟨inRange, rfl, rfl⟩, Act.ends_bind_done.mpr
      ⟨answer, after, asked, Act.ends_bind_done.mpr
        ⟨given, after, count_ends_done.mpr ⟨told, rfl⟩, Act.ends_require_bind.mpr (.inl ?_)⟩⟩⟩
    simp [few, exact]

/-- What a read takes may repeat anything of a request. -/
theorem readFile_takes {descriptor position length : Nat} {bytes : Bytes} (echo : Field 8)
    (inRange : position < UInt32.size) (few : bytes.length ≤ min length maximumTransfer)
    (heard : (transact device patience .read
      (word descriptor ++ word position ++ word (min length maximumTransfer))).Ends before
        (.done (echo.bytes ++ word bytes.length ++ bytes)) after) :
    (readFile device patience descriptor position length).Ends before (.done bytes) after := by
  have small : bytes.length < signBit :=
    Nat.lt_of_le_of_lt (Nat.le_trans few (Nat.min_le_right _ _)) (by decide)
  have told : signed? (echo.bytes ++ word bytes.length ++ bytes) 8 = some (bytes.length : Int) := by
    rw [signed?_answer echo.length_eq (Nat.lt_trans small (by decide)), bmod_of_small small]
  exact readFile_ends_done.mpr ⟨inRange, _, bytes.length, heard, told, few,
    length_answer echo.length_eq _ bytes, drop_answer echo.length_eq _ bytes⟩

/-- An answer with a negative number fails the read. -/
theorem readFile_refused {descriptor position length : Nat} {answer : Bytes} {number : Int}
    (inRange : position < UInt32.size)
    (asked : (transact device patience .read
      (word descriptor ++ word position ++ word (min length maximumTransfer))).Ends before
        (.done answer) after)
    (told : signed? answer 8 = some number) (negative : number < 0) :
    (readFile device patience descriptor position length).Ends before (.failed .device) after := by
  have counted : (count answer 8 : DeviceAct ω Nat).Ends after (.failed .device) after := by
    refine Act.ends_ofOption_bind.mpr (.inl ⟨number, told, Act.ends_require_bind.mpr (.inr ?_)⟩)
    exact ⟨decide_eq_false (by omega), rfl, rfl⟩
  unfold readFile
  dsimp only
  exact (Act.ends_bind_of_done (transfer_ends_done.mpr ⟨inRange, rfl, rfl⟩)).mpr
    ((Act.ends_bind_of_done asked).mpr (Act.ends_bind.mpr (.inr ⟨_, counted, .failed _⟩)))

/-- **Which answer a write takes.** It has to tell no more than was sent; the descriptor and the
position in front of that number are not looked at. -/
theorem writeFile_ends_done {descriptor position written : Nat} {data : Bytes} :
    (writeFile device patience descriptor position data).Ends before (.done written) after ↔
      position < UInt32.size ∧ ∃ answer,
        (transact device patience .write
          (word descriptor ++ word position ++ word (min data.length maximumTransfer) ++
            data.take (min data.length maximumTransfer))).Ends before (.done answer) after ∧
        signed? answer 8 = some (written : Int) ∧ written ≤ min data.length maximumTransfer := by
  unfold writeFile
  dsimp only
  rw [Act.ends_bind_done]
  constructor
  · rintro ⟨request, _, built, ends⟩
    obtain ⟨inRange, rfl, rfl⟩ := transfer_ends_done.mp built
    obtain ⟨answer, middle, asked, ends⟩ := Act.ends_bind_done.mp ends
    obtain ⟨given, _, counted, ends⟩ := Act.ends_bind_done.mp ends
    obtain ⟨told, rfl⟩ := count_ends_done.mp counted
    rcases Act.ends_require_bind.mp ends with ⟨few, done, rfl⟩ | ⟨_, failed, _⟩
    · cases done
      exact ⟨inRange, answer, asked, told, of_decide_eq_true few⟩
    · cases failed
  · rintro ⟨inRange, answer, asked, told, few⟩
    refine ⟨_, _, transfer_ends_done.mpr ⟨inRange, rfl, rfl⟩, Act.ends_bind_done.mpr
      ⟨answer, after, asked, Act.ends_bind_done.mpr
        ⟨written, after, count_ends_done.mpr ⟨told, rfl⟩, Act.ends_require_bind.mpr (.inl ?_)⟩⟩⟩
    exact ⟨decide_eq_true few, rfl, rfl⟩

/-- What a write takes may repeat anything of a request. -/
theorem writeFile_takes {descriptor position written : Nat} {data rest : Bytes} (echo : Field 8)
    (inRange : position < UInt32.size) (few : written ≤ min data.length maximumTransfer)
    (heard : (transact device patience .write
      (word descriptor ++ word position ++ word (min data.length maximumTransfer) ++
        data.take (min data.length maximumTransfer))).Ends before
          (.done (echo.bytes ++ word written ++ rest)) after) :
    (writeFile device patience descriptor position data).Ends before (.done written) after := by
  have small : written < signBit :=
    Nat.lt_of_le_of_lt (Nat.le_trans few (Nat.min_le_right _ _)) (by decide)
  have told : signed? (echo.bytes ++ word written ++ rest) 8 = some (written : Int) := by
    rw [signed?_answer echo.length_eq (Nat.lt_trans small (by decide)), bmod_of_small small]
  exact writeFile_ends_done.mpr ⟨inRange, _, heard, told, few⟩

end Bootloader.Link
