import Bootloader.Proofs.Files.Talking

/-!
# Requests to the files

A request to the files does one of five things (`Performs`): it uses files, it adds a device
alias or a file alias, it fills the first free slot with a file, or it frees the slot of a
handle. What a request opens is settled by the registries and by the answer of the host
(`Opens`).

Requests are made one after the other, each whether or not those before it were granted. What
every one met, how it ended and what it left is kept in a list of visits (`history`). Whatever
the requests, in the files that are reached from given devices the aliases name instances in
use, and what is open fits the device it is open on (`Files.Sound.afterAll`).
-/

set_option autoImplicit false

namespace Bootloader

open Act

/-- What ended with a value yields another one. -/
theorem Outcome.map_ne_done {ε α β : Type} {outcome : Outcome ε α} {change : α → β}
    {value : β} (other : ∀ given, change given ≠ value) : outcome.map change ≠ .done value := by
  cases outcome with
  | done given => exact fun same => other given (Outcome.done.inj same)
  | failed error => nofun
  | crashed => nofun
  | stalled => nofun

theorem Outcome.failed_of_map {ε α β : Type} {outcome : Outcome ε α} {change : α → β} {error : ε}
    (failed : outcome.map change = .failed error) : outcome = .failed error := by
  cases outcome with
  | failed other => exact congrArg Outcome.failed (Outcome.failed.inj failed)
  | done value => cases failed
  | crashed => cases failed
  | stalled => cases failed

namespace Files

/-- A request to the files, with its arguments. -/
inductive Request where
  | registerDevice (aliasName : String) (device : DeviceId) (protocol : Protocol)
  | registerFile (aliasName : String) (window : FileWindow)
  | openFile (aliasName : String) (name : Option String) (flags : Nat)
  | openWindow (aliasName : String) (window : FileWindow)
  | close (handle : Handle)
  | read (handle : Handle) (offset length : Nat)
  | write (handle : Handle) (offset : Nat) (data : Bytes)
  | erase (handle : Handle) (offset length flags : Nat)
  | map (handle : Handle) (request : MapRequest)
  | stat (handle : Handle)
  deriving DecidableEq, Repr

/-- What a request yields if it is granted. -/
inductive Answer where
  | nothing
  | opened (handle : Handle)
  | bytes (bytes : Bytes)
  | amount (count : Nat)
  | mapping (mapping : Mapping)
  deriving DecidableEq, Repr

/-- The handle that a request is about. -/
def Request.handle? : Request → Option Handle
  | .close handle | .read handle _ _ | .write handle _ _ | .erase handle _ _ _
  | .map handle _ | .stat handle => some handle
  | .registerDevice .. | .registerFile .. | .openFile .. | .openWindow .. => none

variable {ω : Type}

/-- The files with another slot at an index. -/
def setSlot (files : Files ω) (index : Nat) (slot : Slot) : Files ω :=
  { files with slots := files.slots.set index slot }

/-- The files with one more device alias. -/
def addAlias (files : Files ω) (entry : DeviceAlias) : Files ω :=
  { files with aliases := files.aliases ++ [entry] }

/-- The files with one more file alias. -/
def addFile (files : Files ω) (entry : FileAlias) : Files ω :=
  { files with files := files.files ++ [entry] }

variable [Hardware ω]

/-- Make a request. -/
def Request.perform : Request → FileAct ω Answer
  | .registerDevice aliasName device protocol => do
      Files.registerDevice aliasName device protocol
      return .nothing
  | .registerFile aliasName window => do
      Files.registerFile aliasName window
      return .nothing
  | .openFile aliasName name flags => do
      let handle ← Files.openFile aliasName name flags
      return .opened handle
  | .openWindow aliasName window => do
      let handle ← Files.openWindow aliasName window
      return .opened handle
  | .close handle => do
      Files.close handle
      return .nothing
  | .read handle offset length => do
      let bytes ← Files.read handle offset length
      return .bytes bytes
  | .write handle offset data => do
      let count ← Files.write handle offset data
      return .amount count
  | .erase handle offset length flags => do
      let count ← Files.erase handle offset length flags
      return .amount count
  | .map handle request => do
      let mapping ← Files.map handle request
      return .mapping mapping
  | .stat handle => do
      let size ← Files.stat handle
      return .amount size

/-- What a request opens, by the registries and by the answer of the host. -/
inductive Opens (before : Files ω) : Request → OpenFile → Prop where
  | whole {aliasName : String} {flags : Nat} {entry : DeviceAlias}
      (found : before.alias? aliasName = some entry) (raw : entry.protocol = .raw) :
      Opens before (.openFile aliasName none flags) ⟨entry, .raw none⟩
  | named {aliasName name : String} {flags : Nat} {entry : DeviceAlias} {window : FileWindow}
      (found : before.alias? aliasName = some entry) (raw : entry.protocol = .raw)
      (named : before.window? name = some window) :
      Opens before (.openFile aliasName (some name) flags) ⟨entry, .raw (some window)⟩
  | remote {aliasName name : String} {flags descriptor : Nat} {entry : DeviceAlias} {after : ω}
      (found : before.alias? aliasName = some entry) (framed : entry.protocol = .framed)
      (answered : (Link.openFile entry.device before.patience (Text.encode name) flags).Ends
        before.devices.world (.done descriptor) after) :
      Opens before (.openFile aliasName (some name) flags) ⟨entry, .remote descriptor⟩
  | window {aliasName : String} {entry : DeviceAlias} {window : FileWindow}
      (found : before.alias? aliasName = some entry) (raw : entry.protocol = .raw)
      (fits : window.fits = true) :
      Opens before (.openWindow aliasName window) ⟨entry, .raw (some window)⟩

/-! ## What the requests do -/

/-- How opening something ends: with nothing opened, or with the first free slot filled. -/
inductive Opening (opens : OpenFile → Prop) (before : Files ω) :
    Outcome FileError Handle → Files ω → Prop where
  | refused {outcome : Outcome FileError Handle} {after : Files ω} (uses : Uses before after)
      (halted : ∀ handle, outcome ≠ .done handle) : Opening opens before outcome after
  | granted {middle : Files ω} {file : OpenFile} {index : Nat} {slot : Slot}
      (uses : Uses before middle) (opened : opens file) (free : before.freeSlot? = some index)
      (found : before.slots[index]? = some slot) :
      Opening opens before (.done ⟨index, slot.generation⟩)
        (middle.setSlot index ⟨slot.generation, some file⟩)

section

variable {before after : Files ω} {aliasName : String} {window : FileWindow}

omit [Hardware ω] in
theorem findAlias_ok {entry : DeviceAlias} (found : before.findAlias aliasName = .ok entry) :
    before.alias? aliasName = some entry := by
  unfold findAlias at found
  split at found
  · next other here => exact here.trans (congrArg some (Except.ok.inj found))
  · cases found

omit [Hardware ω] in
theorem findAlias_error {error : FileError} (missing : before.findAlias aliasName = .error error) :
    error = .unknownAlias := by
  unfold findAlias at missing
  split at missing
  · cases missing
  · exact (Except.error.inj missing).symm

theorem allocate_ends {opens : OpenFile → Prop} {middle : Files ω} {file : OpenFile}
    {outcome : Outcome FileError Handle} (uses : Uses before middle) (opened : opens file)
    (ends : (allocate file).Ends middle outcome after) : Opening opens before outcome after := by
  have slots := uses.slots
  have same : middle.freeSlot? = before.freeSlot? := congrArg (List.findIdx? _) slots
  rw [allocate, ends_read_bind, same, slots] at ends
  rcases ends_ofOption_bind.mp ends with ⟨index, free, ends⟩ | ⟨_, rfl, rfl⟩
  · rcases ends_ofOption_bind.mp ends with ⟨slot, found, rfl, rfl⟩ | ⟨_, rfl, rfl⟩
    · have filled := Opening.granted uses opened free found
      rw [setSlot, slots] at filled
      exact filled
    · exact .refused uses nofun
  · exact .refused uses nofun

/-- What opening a name gives is what the registries and the host say. -/
theorem openTarget_ends {entry : DeviceAlias} {name : Option String} {flags : Nat}
    {target : OpenTarget} (found : before.alias? aliasName = some entry)
    (ends : (openTarget entry name flags).Ends before (.done target) after) :
    Opens before (.openFile aliasName name flags) ⟨entry, target⟩ := by
  rw [openTarget, ends_read_bind] at ends
  split at ends
  case h_1 raw =>
    cases ends.1
    exact .whole found raw
  case h_2 file raw =>
    rcases ends_ofOption_bind.mp ends with ⟨window, named, done, _⟩ | ⟨_, failed, _⟩
    · cases done
      exact .named found raw named
    · cases failed
  case h_3 => cases ends.1
  case h_4 file framed =>
    obtain ⟨descriptor, middle, here, done, _⟩ := ends_bind_done.mp ends
    cases done
    exact .remote found framed (withDevice_ends here)

theorem openFile_ends {name : Option String} {flags : Nat} {outcome : Outcome FileError Handle}
    (ends : (openFile aliasName name flags).Ends before outcome after) :
    Opening (Opens before (.openFile aliasName name flags)) before outcome after := by
  rw [openFile, ends_read_bind] at ends
  rcases ends_ofExcept_bind.mp ends with ⟨entry, found, ends⟩ | ⟨_, _, rfl, rfl⟩
  · rcases ends_require_bind.mp ends with ⟨_, ends⟩ | ⟨_, rfl, rfl⟩
    · rcases ends_bind.mp ends with ⟨target, middle, here, ends⟩ | ⟨halt, here, halts⟩
      · have uses := respects_openTarget.ends here
        exact allocate_ends uses (openTarget_ends (findAlias_ok found) here)
          (ends_note_bind.mp ends)
      · exact .refused (respects_openTarget.ends here) halts.ne_done
    · exact .refused (refl_of Uses _) nofun
  · exact .refused (refl_of Uses _) nofun

theorem openWindow_ends {outcome : Outcome FileError Handle}
    (ends : (openWindow aliasName window).Ends before outcome after) :
    Opening (Opens before (.openWindow aliasName window)) before outcome after := by
  rw [openWindow, ends_read_bind] at ends
  rcases ends_ofExcept_bind.mp ends with ⟨entry, found, ends⟩ | ⟨_, _, rfl, rfl⟩
  · rcases ends_require_bind.mp ends with ⟨raw, ends⟩ | ⟨_, rfl, rfl⟩
    · rcases ends_require_bind.mp ends with ⟨fits, ends⟩ | ⟨_, rfl, rfl⟩
      · exact allocate_ends (refl_of Uses _)
          (.window (findAlias_ok found) (of_decide_eq_true raw) fits) ends
      · exact .refused (refl_of Uses _) nofun
    · exact .refused (refl_of Uses _) nofun
  · exact .refused (refl_of Uses _) nofun

/-- Closing frees the slot first, and whatever comes of the rest, the slot stays free. -/
theorem close_ends {handle : Handle} {outcome : Outcome FileError Unit}
    (ends : (close handle).Ends before outcome after) :
    (before.resolve? handle = none ∧ outcome = .failed .invalidHandle ∧ after = before) ∨
    ∃ file, before.resolve? handle = some file ∧ Uses (before.free handle) after := by
  rw [close, resolve, bind_assoc, ends_read_bind] at ends
  rcases ends_ofOption_bind.mp ends with ⟨file, found, ends⟩ | ⟨none, rfl, rfl⟩
  · exact .inr ⟨file, found, (respects_withDevice fun _ => respects_finish).ends
      (ends_update_bind.mp ends)⟩
  · exact .inl ⟨none, rfl, rfl⟩

omit [Hardware ω] in
theorem registerDevice_ends {device : DeviceId} {protocol : Protocol}
    {outcome : Outcome FileError Unit}
    (ends : (registerDevice aliasName device protocol).Ends before outcome after) :
    after = before ∨ (before.alias? aliasName = none ∧ before.devices.isUp device = true ∧
      after = before.addAlias ⟨aliasName, device, protocol⟩) := by
  rw [registerDevice, checkAlias] at ends
  rcases ends_require_bind.mp ends with ⟨_, ends⟩ | ⟨_, _, rfl⟩
  · rw [ends_read_bind] at ends
    rcases ends_require_bind.mp ends with ⟨fresh, ends⟩ | ⟨_, _, rfl⟩
    · rcases ends_require_bind.mp ends with ⟨_, ends⟩ | ⟨_, _, rfl⟩
      · rcases ends_require_bind.mp ends with ⟨up, ends⟩ | ⟨_, _, rfl⟩
        · obtain ⟨_, rfl⟩ := ends_note_bind.mp ends
          exact .inr ⟨Option.isNone_iff_eq_none.mp fresh, up, rfl⟩
        · exact .inl rfl
      · exact .inl rfl
    · exact .inl rfl
  · exact .inl rfl

omit [Hardware ω] in
theorem registerFile_ends {outcome : Outcome FileError Unit}
    (ends : (registerFile aliasName window).Ends before outcome after) :
    after = before ∨ (before.window? aliasName = none ∧ window.fits = true ∧
      after = before.addFile ⟨aliasName, window⟩) := by
  rw [registerFile, checkAlias] at ends
  rcases ends_require_bind.mp ends with ⟨_, ends⟩ | ⟨_, _, rfl⟩
  · rw [ends_read_bind] at ends
    rcases ends_require_bind.mp ends with ⟨fresh, ends⟩ | ⟨_, _, rfl⟩
    · rcases ends_require_bind.mp ends with ⟨_, ends⟩ | ⟨_, _, rfl⟩
      · rcases ends_require_bind.mp ends with ⟨fits, ends⟩ | ⟨_, _, rfl⟩
        · obtain ⟨_, rfl⟩ := ends_note_bind.mp ends
          exact .inr ⟨Option.isNone_iff_eq_none.mp fresh, fits, rfl⟩
        · exact .inl rfl
      · exact .inl rfl
    · exact .inl rfl
  · exact .inl rfl

end

/-- All that a request can do. -/
inductive Performs (request : Request) (before : Files ω) :
    Outcome FileError Answer → Files ω → Prop where
  | uses {outcome : Outcome FileError Answer} {after : Files ω}
      (idle : ∀ handle, request = .close handle → before.resolve? handle = none)
      (uses : Uses before after) (plain : ∀ handle, outcome ≠ .done (.opened handle)) :
      Performs request before outcome after
  | aliased {outcome : Outcome FileError Answer} {entry : DeviceAlias}
      (asked : request = .registerDevice entry.name entry.device entry.protocol)
      (fresh : before.alias? entry.name = none) (up : before.devices.isUp entry.device = true)
      (plain : ∀ handle, outcome ≠ .done (.opened handle)) :
      Performs request before outcome (before.addAlias entry)
  | named {outcome : Outcome FileError Answer} {entry : FileAlias}
      (asked : request = .registerFile entry.name entry.window)
      (fresh : before.window? entry.name = none) (fits : entry.window.fits = true)
      (plain : ∀ handle, outcome ≠ .done (.opened handle)) :
      Performs request before outcome (before.addFile entry)
  | opens {middle : Files ω} {file : OpenFile} {index : Nat} {slot : Slot}
      (uses : Uses before middle) (opened : Opens before request file)
      (free : before.freeSlot? = some index) (found : before.slots[index]? = some slot) :
      Performs request before (.done (.opened ⟨index, slot.generation⟩))
        (middle.setSlot index ⟨slot.generation, some file⟩)
  | closes {outcome : Outcome FileError Answer} {after : Files ω} {handle : Handle}
      {file : OpenFile} (asked : request = .close handle)
      (found : before.resolve? handle = some file) (uses : Uses (before.free handle) after)
      (plain : ∀ handle, outcome ≠ .done (.opened handle)) : Performs request before outcome after

section

variable {before after : Files ω} {request : Request}

/-- What is only used yields no handle. -/
theorem performs_of_uses {α : Type} {action : FileAct ω α} {answer : α → Answer}
    {outcome : Outcome FileError Answer} (others : ∀ handle, request ≠ .close handle)
    (respects : action.Respects Uses)
    (plain : ∀ value handle, answer value ≠ .opened handle)
    (ends : (action >>= fun value => pure (answer value)).Ends before outcome after) :
    Performs request before outcome after := by
  obtain ⟨ending, here, rfl⟩ := ends_bind_pure.mp ends
  exact .uses (fun handle asked => absurd asked (others handle)) (respects.ends here)
    fun handle => Outcome.map_ne_done fun value => plain value handle

theorem performs_of_opening {action : FileAct ω Handle} {outcome : Outcome FileError Answer}
    (others : ∀ handle, request ≠ .close handle)
    (opening : ∀ {ending}, action.Ends before ending after →
      Opening (Opens before request) before ending after)
    (ends : (action >>= fun handle => pure (Answer.opened handle)).Ends before outcome after) :
    Performs request before outcome after := by
  obtain ⟨ending, here, rfl⟩ := ends_bind_pure.mp ends
  cases opening here with
  | refused uses halted =>
      refine .uses (fun handle asked => absurd asked (others handle)) uses fun handle same => ?_
      cases ending with
      | done other => exact halted other rfl
      | failed error => cases same
      | crashed => cases same
      | stalled => cases same
  | granted uses opened free found => exact .opens uses opened free found

theorem perform_performs {outcome : Outcome FileError Answer}
    (ends : request.perform.Ends before outcome after) : Performs request before outcome after := by
  cases request with
  | registerDevice aliasName device protocol =>
      obtain ⟨ending, here, rfl⟩ := ends_bind_pure.mp ends
      rcases registerDevice_ends here with rfl | ⟨fresh, up, rfl⟩
      · exact .uses nofun (refl_of Uses _) fun _ => Outcome.map_ne_done nofun
      · exact .aliased rfl fresh up fun _ => Outcome.map_ne_done nofun
  | registerFile aliasName window =>
      obtain ⟨ending, here, rfl⟩ := ends_bind_pure.mp ends
      rcases registerFile_ends here with rfl | ⟨fresh, fits, rfl⟩
      · exact .uses nofun (refl_of Uses _) fun _ => Outcome.map_ne_done nofun
      · exact .named rfl fresh fits fun _ => Outcome.map_ne_done nofun
  | openFile aliasName name flags => exact performs_of_opening nofun openFile_ends ends
  | openWindow aliasName window => exact performs_of_opening nofun openWindow_ends ends
  | close handle =>
      obtain ⟨ending, here, rfl⟩ := ends_bind_pure.mp ends
      rcases close_ends here with ⟨none, _, rfl⟩ | ⟨file, found, uses⟩
      · exact .uses (by rintro _ ⟨rfl⟩; exact none) (refl_of Uses _) fun _ => Outcome.map_ne_done nofun
      · exact .closes rfl found uses fun _ => Outcome.map_ne_done nofun
  | read handle offset length => exact performs_of_uses nofun respects_readBytes (by nofun) ends
  | write handle offset data => exact performs_of_uses nofun respects_writeBytes (by nofun) ends
  | erase handle offset length flags => exact performs_of_uses nofun respects_erase (by nofun) ends
  | map handle request => exact performs_of_uses nofun respects_map (by nofun) ends
  | stat handle => exact performs_of_uses nofun respects_stat (by nofun) ends

/-- Whatever a request does, the calls it makes use instances in use. -/
theorem Performs.talks {outcome : Outcome FileError Answer}
    (performs : Performs request before outcome after) : Talks before after := by
  cases performs with
  | uses _ uses => exact uses.talks
  | aliased => exact ⟨rfl, refl_of (Chats _) _⟩
  | named => exact ⟨rfl, refl_of (Chats _) _⟩
  | opens uses => exact ⟨uses.backends, uses.chats⟩
  | closes _ _ uses => exact ⟨uses.backends, uses.chats⟩

end

/-! ## Histories -/

/-- A request, what it met, how it ended, and what it left. -/
structure Visit (ω : Type) where
  request : Request
  before : Files ω
  outcome : Outcome FileError Answer
  after : Files ω

/-- Make a request where things stand. -/
def Request.visit (request : Request) (files : Files ω) : Visit ω where
  request := request
  before := files
  outcome := (request.perform.run files).outcome
  after := (request.perform.run files).state

/-- The visits of requests that are made one after the other. -/
def history : List Request → Files ω → List (Visit ω)
  | [], _ => []
  | request :: rest, files => request.visit files :: history rest (request.visit files).after

/-- The files after requests that were made one after the other. -/
def afterAll : List Request → Files ω → Files ω
  | [], files => files
  | request :: rest, files => afterAll rest (request.visit files).after

theorem visit_performs (request : Request) (files : Files ω) :
    Performs request files (request.visit files).outcome (request.visit files).after :=
  perform_performs (ends_run request.perform files)

theorem afterAll_append (earlier later : List Request) (files : Files ω) :
    afterAll (earlier ++ later) files = afterAll later (afterAll earlier files) := by
  induction earlier generalizing files with
  | nil => rfl
  | cons request rest ih => exact ih _

theorem history_append (earlier later : List Request) (files : Files ω) :
    history (earlier ++ later) files =
      history earlier files ++ history later (afterAll earlier files) := by
  induction earlier generalizing files with
  | nil => rfl
  | cons request rest ih => exact congrArg (request.visit files :: ·) (ih _)

/-! ## Files that can be reached -/

/-- What is open fits the device it is open on, which is registered. -/
structure OpenOn (files : Files ω) (file : OpenFile) : Prop where
  registered : files.alias? file.device.name = some file.device
  fits : match file.target with
    | .raw none => file.device.protocol = .raw
    | .raw (some window) => file.device.protocol = .raw ∧ window.fits = true
    | .remote _ => file.device.protocol = .framed

/-- The aliases name instances in use and windows that fit 64 bits, and what is open fits its
device. -/
structure Sound (files : Files ω) : Prop where
  room : files.slots.length = Capacity.handles
  used : ∀ entry ∈ files.aliases, files.devices.isUp entry.device = true
  fits : ∀ entry ∈ files.files, entry.window.fits = true
  opened : ∀ slot ∈ files.slots, ∀ file, slot.file = some file → files.OpenOn file

section

variable {files before after : Files ω} {file : OpenFile}

omit [Hardware ω] in
theorem sound_ofDevices (devices : Devices ω) (patience : Nat) :
    (ofDevices devices patience).Sound where
  room := List.length_replicate
  used := nofun
  fits := nofun
  opened slot member file found := by
    rw [List.eq_of_mem_replicate member] at found
    cases found

omit [Hardware ω] in
/-- The device of an alias is found under its own name. -/
theorem alias?_name {aliasName : String} {entry : DeviceAlias}
    (found : files.alias? aliasName = some entry) : entry.name = aliasName := by
  unfold alias? at found
  have named := List.find?_some found
  exact of_decide_eq_true named

omit [Hardware ω] in
theorem Sound.isUp (sound : files.Sound) {aliasName : String} {entry : DeviceAlias}
    (found : files.alias? aliasName = some entry) : files.devices.isUp entry.device = true :=
  sound.used entry (List.mem_of_find?_eq_some found)

omit [Hardware ω] in
theorem Sound.window_fits (sound : files.Sound) {name : String} {window : FileWindow}
    (named : files.window? name = some window) : window.fits = true := by
  obtain ⟨entry, found, rfl⟩ := Option.map_eq_some_iff.mp named
  exact sound.fits entry (List.mem_of_find?_eq_some found)

omit [Hardware ω] in
/-- What is open in a slot fits its device. -/
theorem Sound.resolved (sound : files.Sound) {handle : Handle}
    (resolved : files.resolve? handle = some file) : files.OpenOn file := by
  obtain ⟨slot, found, held⟩ := Option.bind_eq_some_iff.mp resolved
  split at held
  · exact sound.opened slot (List.mem_of_getElem? found) file held
  · cases held

theorem Sound.opens (sound : before.Sound) {request : Request}
    (opens : Opens before request file) : before.OpenOn file := by
  cases opens with
  | whole found raw => exact ⟨alias?_name found ▸ found, raw⟩
  | named found raw named => exact ⟨alias?_name found ▸ found, raw, sound.window_fits named⟩
  | remote found framed => exact ⟨alias?_name found ▸ found, framed⟩
  | window found raw fits => exact ⟨alias?_name found ▸ found, raw, fits⟩

omit [Hardware ω] in
/-- An alias keeps its device when others are added. -/
theorem alias?_addAlias {aliasName : String} {entry other : DeviceAlias}
    (found : files.alias? aliasName = some entry) :
    (files.addAlias other).alias? aliasName = some entry := by
  unfold alias? addAlias at *
  rw [List.find?_append, found, Option.some_or]

omit [Hardware ω] in
theorem OpenOn.addAlias {entry : DeviceAlias} (fitting : files.OpenOn file) :
    (files.addAlias entry).OpenOn file :=
  ⟨alias?_addAlias fitting.registered, fitting.fits⟩

theorem Sound.uses (sound : before.Sound) (uses : Uses before after) : after.Sound := by
  rw [uses.rest]
  refine ⟨sound.room, fun entry member => ?_, sound.fits, ?_⟩
  · exact (isUp_congr rfl _).trans (sound.used entry member)
  · intro slot member file found
    obtain ⟨registered, fits⟩ := sound.opened slot member file found
    exact ⟨registered, fits⟩

omit [Hardware ω] in
theorem Sound.setSlot {index : Nat} {slot : Slot} (sound : files.Sound)
    (fitting : ∀ file, slot.file = some file → files.OpenOn file) :
    (files.setSlot index slot).Sound where
  room := (List.length_set ..).trans sound.room
  used := sound.used
  fits := sound.fits
  opened other member file found := by
    suffices files.OpenOn file from ⟨this.registered, this.fits⟩
    rcases List.mem_or_eq_of_mem_set member with member | rfl
    · exact sound.opened other member file found
    · exact fitting file found

omit [Hardware ω] in
theorem Sound.free {handle : Handle} (sound : files.Sound) : (files.free handle).Sound where
  room := (List.length_modify ..).trans sound.room
  used := sound.used
  fits := sound.fits
  opened slot member file found := by
    suffices files.OpenOn file from ⟨this.registered, this.fits⟩
    obtain ⟨index, here⟩ := List.mem_iff_getElem?.mp member
    rw [Files.free, List.getElem?_modify] at here
    obtain ⟨old, held, rfl⟩ := Option.map_eq_some_iff.mp here
    split at found
    · cases found
    · exact sound.opened old (List.mem_iff_getElem?.mpr ⟨index, held⟩) file found

/-- Every request keeps the files sound. -/
theorem Performs.sound {request : Request} {outcome : Outcome FileError Answer}
    (performs : Performs request before outcome after) (sound : before.Sound) : after.Sound := by
  cases performs with
  | uses _ uses => exact sound.uses uses
  | @aliased _ entry _ fresh up =>
      refine ⟨sound.room, fun other member => ?_, sound.fits, fun slot member file found => ?_⟩
      · rcases List.mem_append.mp member with member | member
        · exact sound.used other member
        · exact List.mem_singleton.mp member ▸ up
      · exact (sound.opened slot member file found).addAlias
  | @named _ entry _ fresh fits =>
      refine ⟨sound.room, sound.used, fun other member => ?_, fun slot member file found => ?_⟩
      · rcases List.mem_append.mp member with member | member
        · exact sound.fits other member
        · exact List.mem_singleton.mp member ▸ fits
      · obtain ⟨registered, fits⟩ := sound.opened slot member file found
        exact ⟨registered, fits⟩
  | @opens middle file index slot uses opened free found =>
      refine (sound.uses uses).setSlot fun other same => ?_
      obtain rfl := Option.some.inj same
      obtain ⟨registered, fits⟩ := sound.opens opened
      rw [uses.rest]
      exact ⟨registered, fits⟩
  | closes asked found uses => exact sound.free.uses uses

theorem sound_visit (request : Request) (sound : files.Sound) :
    (request.visit files).after.Sound :=
  (visit_performs request files).sound sound

/-- Whatever the requests, the files stay sound. -/
theorem Sound.afterAll (sound : files.Sound) (requests : List Request) :
    (afterAll requests files).Sound := by
  induction requests generalizing files with
  | nil => exact sound
  | cons request rest ih => exact ih (sound_visit request sound)

end

end Files

end Bootloader
