import Bootloader.Bench.Host
import Bootloader.Proofs.Link.Exchange

/-!
# A line with delays

The host of the test bench answers at once. On this line its answers take their time: a list
says how many bytes arrive for each of the next reads, and what has not arrived then arrives
later. The host keeps what is assumed of hosts that serve files (`Line.fileHost`), and where
something arrives for every read, no answer is late (`Line.prompt`).
-/

set_option autoImplicit false

namespace Bootloader.Bench

open Link

namespace Host

/-! ## What a host makes of a frame -/

/-- The decoder has no part in what a host makes of a message. -/
theorem accept_decoder (host : Host) (decoder : Decoder) (message : Message) :
    { host with decoder }.accept message = { host.accept message with decoder } := by
  unfold accept answer onOpen onRead onWrite onStat file?
  dsimp only
  repeat' split
  all_goals rfl

theorem foldl_accept_decoder (host : Host) (decoder : Decoder) (messages : List Message) :
    messages.foldl accept { host with decoder } =
      { messages.foldl accept host with decoder } := by
  induction messages generalizing host with
  | nil => rfl
  | cons message rest ih => rw [List.foldl_cons, accept_decoder, ih, List.foldl_cons]

/-- A host takes the messages that its decoder finds, one after the other. -/
theorem receive_eq (host : Host) (bytes : Bytes) :
    (host.receive bytes).1 =
      { (host.decoder.found bytes).foldl accept host with
        decoder := (host.decoder.feed bytes).1 } := by
  induction bytes generalizing host with
  | nil => rfl
  | cons byte rest ih =>
      rw [receive, Decoder.found_cons, Decoder.feed_cons]
      generalize host.decoder.push byte = pushed
      obtain ⟨decoder, event⟩ := pushed
      cases event with
      | message message =>
          have next : ({ host with decoder }.accept message).decoder = decoder :=
            congrArg Host.decoder (accept_decoder host decoder message)
          refine (ih _).trans ?_
          rw [next, accept_decoder, foldl_accept_decoder]
          rfl
      | nothing => exact (ih _).trans (by rw [foldl_accept_decoder]; rfl)
      | oversized => exact (ih _).trans (by rw [foldl_accept_decoder]; rfl)
      | badChecksum => exact (ih _).trans (by rw [foldl_accept_decoder]; rfl)

/-- What the file of a descriptor holds. -/
def contents (host : Host) (descriptor : UInt32) : Option Bytes :=
  (host.file? descriptor.toNat).map Prod.snd

/-! ## What a host answers to a request to read -/

variable {position length : Nat}

theorem field_readRequest (descriptor : UInt32) (inRange : position < UInt32.size)
    (small : length < UInt32.size) :
    field (readRequest descriptor position length).payload 0 = descriptor.toNat ∧
      field (readRequest descriptor position length).payload 4 = position ∧
      field (readRequest descriptor position length).payload 8 = length := by
  have first : (readRequest descriptor position length).payload =
      [] ++ word descriptor.toNat ++ (word position ++ word length) := by simp [readRequest]
  have second : (readRequest descriptor position length).payload =
      word descriptor.toNat ++ word position ++ word length := rfl
  have third : (readRequest descriptor position length).payload =
      word descriptor.toNat ++ word position ++ word length ++ [] := by simp [readRequest]
  refine ⟨?_, ?_, ?_⟩
  · rw [field, first, slice_word List.length_nil, toNat_word descriptor.toNat_lt]
  · rw [field, second, slice_word (length_word _), toNat_word inRange]
  · rw [field, third, slice_word (length_echo _ _), toNat_word small]

/-- What a host answers to a request to read is an answer to it. -/
theorem onRead_answers (host : Host) (descriptor : UInt32) (inRange : position < UInt32.size)
    (small : length < UInt32.size) :
    Answers host.contents descriptor position length
      (host.onRead (readRequest descriptor position length).payload) := by
  obtain ⟨first, second, third⟩ := field_readRequest descriptor inRange small
  have header : (readRequest descriptor position length).payload.take 8 =
      word descriptor.toNat ++ word position := List.take_left' (length_echo _ _)
  rw [onRead, first, second, third, header]
  cases found : host.file? descriptor.toNat with
  | none =>
      have refused : signedWord badDescriptor = word 4294967287 := rfl
      dsimp only
      rw [refused]
      refine .refusal ?_ (by decide) (by decide)
      rw [contents, found]
      rfl
  | some entry =>
      obtain ⟨index, file⟩ := entry
      have known : host.contents descriptor = some file := by
        rw [contents, found]
        rfl
      refine .data known (List.take_prefix _ _) (List.length_take_le _ _) ?_
      intro within wanted
      refine List.ne_nil_of_length_pos ?_
      rw [Bytes.slice, List.length_take, List.length_drop]
      omega

/-- A host that hears a request to read loses it, or puts the frame of an answer into its
queue. -/
theorem receive_readRequest (host : Host) {descriptor : UInt32} {frame : Bytes}
    (inRange : position < UInt32.size) (few : length ≤ maximumTransfer)
    (framed : encodeFrame? (readRequest descriptor position length) = some frame) :
    (host.receive frame).1.files = host.files ∧ (host.receive frame).1.opened = host.opened ∧
      ((host.receive frame).1.queue = host.queue ∨ ∃ payload answer,
        Answers host.contents descriptor position length payload ∧
        encodeFrame? ⟨Request.read.type, payload⟩ = some answer ∧
        (host.receive frame).1.queue = host.queue ++ answer) := by
  have small : length < UInt32.size := Nat.lt_of_le_of_lt few (by decide)
  have answers := host.onRead_answers descriptor inRange small
  have fits : (host.onRead (readRequest descriptor position length).payload).length ≤
      Capacity.message :=
    calc
      _ ≤ transferHeader + length := answers.length_le
      _ ≤ transferHeader + maximumTransfer := Nat.add_le_add_left few transferHeader
      _ = Capacity.message := rfl
  have coded : encodeFrame?
      ⟨Request.read.type, host.onRead (readRequest descriptor position length).payload⟩ = some _ :=
    if_pos fits
  have answered : host.answer (readRequest descriptor position length) =
      (host, host.onRead (readRequest descriptor position length).payload) := rfl
  rw [receive_eq, Decoder.found_frame host.decoder framed, List.foldl_cons, List.foldl_nil,
    accept, answered]
  split
  case isTrue => exact ⟨rfl, rfl, .inl rfl⟩
  case isFalse =>
    refine ⟨rfl, rfl, .inr ⟨_, _, answers, coded, ?_⟩⟩
    exact congrArg (fun frame? => host.queue ++ frame?.getD []) coded

end Host

/-- A host at the end of a line, and how many of its bytes arrive for each of the next reads;
everything arrives when nothing more is said. -/
structure Line where
  host : Host
  arrivals : List Nat

namespace Line

/-- How many bytes the next read brings, if so many are under way. -/
def arriving (line : Line) (length : Nat) : Nat :=
  min (line.arrivals.headD length) length

/-- Read at most `length` bytes, of those that arrived. -/
def read (line : Line) (length : Nat) : Reply Line Bytes :=
  let (host, bytes) := line.host.take (line.arriving length)
  .ok ⟨host, line.arrivals.tail⟩ bytes

/-- Write bytes, which arrive at once. -/
def write (line : Line) (data : Bytes) : Reply Line Nat :=
  let (host, _, complaints) := line.host.receive data
  { result := .ok data.length, world := { line with host },
    records := complaintRecords complaints }

instance : Hardware Line where
  init line _ := .ok line ()
  done line _ := .ok line ()
  read line _ _ length _ := line.read length
  write line _ _ data := line.write data
  erase line _ _ _ _ := .error line .unsupported
  sync line _ := .ok line ()
  map line _ _ := .ok line .notMappable

variable {device : DeviceId} {before after : Line} {outcome : Outcome FileError Bytes}

/-- A read takes what arrives from the front of what is under way. -/
theorem read_ends
    (ends : (device.read 0 receiveChunk Capacity.readTimeout).Ends before outcome after) :
    outcome = .done (before.host.queue.take (before.arriving receiveChunk)) ∧
      after = ⟨{ before.host with queue := before.host.queue.drop (before.arriving receiveChunk) },
        before.arrivals.tail⟩ := by
  obtain ⟨rfl, rfl⟩ := ends
  have few : before.arriving receiveChunk ≤ receiveChunk := Nat.min_le_right _ _
  refine ⟨congrArg Outcome.done ?_, rfl⟩
  show (before.host.queue.take _).take receiveChunk = _
  rw [List.take_take, Nat.min_eq_right few]

/-- A host on a line serves its files; for every read at least so many bytes arrive. -/
def fileHost (served : Host) (least : Nat) (device : DeviceId) : FileHost Line device where
  contents := served.contents
  serving line :=
    line.host.files = served.files ∧ line.host.opened = served.opened ∧
      ∀ arrived ∈ line.arrivals, least ≤ arrived
  underWay line := line.host.queue
  takes := by
    rintro line _ descriptor position length frame _ ⟨files, opened, enough⟩ inRange few framed
      ⟨rfl, rfl⟩
    obtain ⟨sameFiles, sameOpened, answered⟩ := line.host.receive_readRequest inRange few framed
    have same : line.host.contents = served.contents := by
      unfold Host.contents Host.file?
      rw [files, opened]
    rw [same] at answered
    exact ⟨rfl, ⟨sameFiles.trans files, sameOpened.trans opened, enough⟩, answered⟩
  gives := by
    rintro line _ _ ⟨files, opened, enough⟩ ends
    obtain ⟨rfl, rfl⟩ := read_ends ends
    refine ⟨_, rfl, ⟨files, opened, ?_⟩, (List.take_append_drop _ _).symm⟩
    exact fun arrived listed => enough arrived (List.mem_of_mem_tail listed)

/-- Where something arrives for every read, no answer comes late. -/
theorem prompt (served : Host) {least : Nat} (some : 0 < least) (device : DeviceId) :
    (fileHost served least device).Prompt := by
  rintro ⟨host, arrivals⟩ _ bytes ⟨_, _, enough⟩ ends more
  obtain ⟨done, _⟩ := read_ends ends
  cases done
  have arrives : 0 < arriving ⟨host, arrivals⟩ receiveChunk := by
    cases arrivals with
    | nil =>
        show 0 < min receiveChunk receiveChunk
        decide
    | cons arrived later =>
        rw [arriving, List.headD_cons, Nat.lt_min]
        exact ⟨Nat.lt_of_lt_of_le some (enough arrived List.mem_cons_self), by decide⟩
  intro empty
  rcases List.take_eq_nil_iff.mp empty with none | done
  · exact Nat.ne_of_gt arrives none
  · exact more done

end Line

/-! ## A small host -/

/-- A host with one file, which is open. -/
def smallHost : Bench.Host where
  files := [([0x66], [0x41, 0x41, 0x41, 0x41, 0x42, 0x42, 0x42, 0x42])]
  opened := [0]
  decoder := Decoder.start
  queue := []
  silent := 0

/-- The device at the end of the line. -/
def uart : DeviceId := ⟨.uart, 0⟩

end Bootloader.Bench
