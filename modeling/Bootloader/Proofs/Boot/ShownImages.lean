import Bootloader.Proofs.Boot.Lodging
import Bootloader.Proofs.Files.Showing

/-!
# Images that are used where they lie

A loader asks a device where it shows an image in a map. For a window of storage in memory the
answer is told from the window, the region and the map alone: it is the address of the window, if
the window is large enough, the region holds the range, both allow the mode, and the range lies in
the map; otherwise there is none, and in no case an error (`mapInPlace_window`).

A command that loads an image comes to one step that registers it (`app_leads` and the others).
By then the image was copied to memory, or the device has shown it (`Settles`). So it is known of
every program that a line adds what it is: some bytes that were copied, or exactly one window of
a device, in a map (`execute_adds_known`). For all commands but one this is the first of its
instruction maps. The one that takes the name of a map, and hands it on as a list of names, may
register another map (`blob_outside_its_map`).
-/

set_option autoImplicit false

namespace Bootloader.Loader

open Act
open LawfulMemory (Sound)
open SystemPage (MemoryMap)
open Trust (Algorithm)

variable {ω μ : Type}

/-! ## Where a map shows an image -/

/-- In a map, storage shows the first bytes of a window at an address. -/
structure Shows (storage : RamRegion) (range : FileWindow) (target : MemoryMap)
    (mode : Attributes) (size : Nat) (address : Address) : Prop where
  window : size ≤ range.size
  region : range.start + size ≤ storage.bytes.length
  device : mode.Within storage.attributes
  map : mode.Within target.attributes
  place : address.toNat = storage.base.toNat + range.start
  low : target.start ≤ address
  high : address.toNat + size ≤ target.stop.toNat

/-- What is asked about an image and a map. -/
def inPlaceRequest (map : MemoryMap) (size : Nat) (mode : Attributes) : MapRequest where
  offset := 0
  size := size
  mode := mode
  mapStart := map.start
  mapSize := map.stop.toNat - map.start.toNat
  mapAttributes := map.attributes

/-- What an answer is taken for. -/
def inPlaceAnswer : Outcome FileError Mapping → Outcome BootError (Option Address)
  | .done (.mappable address) => .done (some address)
  | .done .notMappable => .done none
  | .failed .incompatibleMode => .done none
  | .failed error => .failed (.file error)
  | .crashed => .crashed
  | .stalled => .stalled

section

variable {map : MemoryMap} {address : Address}

theorem inPlaceAnswer_eq_some {ending : Outcome FileError Mapping} :
    inPlaceAnswer ending = .done (some address) ↔ ending = .done (.mappable address) := by
  unfold inPlaceAnswer
  split <;> simp

theorem mapRange_of_map? {page : SystemPage} {name : String} (found : page.map? name = some map) :
    page.mapRange name = .ok (map.start, map.stop) ∧
      page.mapAttributes name = .ok map.attributes ∧ page.mapId name = .ok map.id := by
  have here := SystemPage.findMap_ok_iff.mpr found
  unfold SystemPage.mapRange SystemPage.mapAttributes SystemPage.mapId
  rw [here]
  exact ⟨rfl, rfl, rfl⟩

/-- What a window of storage answers is never an error for the loader, and an address only if
the first bytes of the window are shown there. -/
theorem inPlaceAnswer_window (ordered : map.start ≤ map.stop) (region : RamRegion)
    (window : FileWindow) (size : Nat) (mode : Attributes) :
    ∃ answer, inPlaceAnswer (if size ≤ window.size - 0 then
        Outcome.ofExcept (region.map { inPlaceRequest map size mode with
          offset := window.start + min 0 window.size })
      else .done .notMappable) = .done answer ∧
      ∀ address, answer = some address ↔ Shows region window map mode size address := by
  rw [Address.le_def] at ordered
  rw [Nat.sub_zero, Nat.zero_min, Nat.add_zero]
  generalize request : ({ inPlaceRequest map size mode with offset := window.start } :
    MapRequest) = asked
  have calm : ∃ answer, inPlaceAnswer (if size ≤ window.size then
      Outcome.ofExcept (region.map asked) else .done .notMappable) = .done answer := by
    split
    · rcases region.map_answers asked with refused | hidden | ⟨address, shown⟩
      · exact ⟨none, by rw [refused]; rfl⟩
      · exact ⟨none, by rw [hidden]; rfl⟩
      · exact ⟨some address, by rw [shown]; rfl⟩
    · exact ⟨none, rfl⟩
  obtain ⟨answer, same⟩ := calm
  refine ⟨answer, same, fun address => ?_⟩
  have shown : answer = some address ↔
      size ≤ window.size ∧ region.map asked = .ok (.mappable address) := by
    rw [← Outcome.done.injEq, ← same, inPlaceAnswer_eq_some]
    split
    case isTrue whole =>
      cases region.map asked <;> simp [whole, Outcome.ofExcept]
    case isFalse short => simp [short]
  rw [shown, RamRegion.map_eq_mappable, ← request]
  dsimp only [inPlaceRequest]
  rw [Address.le_def]
  constructor
  · rintro ⟨whole, device, allowed, bytes, place, low, room⟩
    exact ⟨whole, bytes, device, allowed, place, low, by omega⟩
  · rintro ⟨whole, bytes, device, allowed, place, low, high⟩
    rw [Address.le_def] at low
    exact ⟨whole, device, allowed, bytes, place, low, by omega⟩

end

section

variable [Hardware ω] {before after : Loader ω μ} {handle : Handle} {name : String}
  {map : MemoryMap} {size : Nat} {mode : Attributes} {address : Address}

/-- The device is asked about the map of the name. -/
theorem ends_mapInPlace (found : before.page.map? name = some map)
    {outcome : Outcome BootError (Option Address)} :
    (mapInPlace handle size mode name : BootAct ω μ (Option Address)).Ends before outcome after ↔
      ∃ ending files, (Files.map handle (inPlaceRequest map size mode)).Ends before.files ending
        files ∧ inPlaceAnswer ending = outcome ∧ { before with files } = after := by
  obtain ⟨range, attributes, _⟩ := mapRange_of_map? found
  have known {α : Type} (value : α) : (Act.mapError .page (Act.ofExcept (.ok value)) :
      BootAct ω μ α).Ends before (.done value) before :=
    ⟨rfl, rfl⟩
  rw [mapInPlace, ends_read_bind, range, ends_bind_of_done (known _), attributes,
    ends_bind_of_done (known _), ends_attempt_bind]
  constructor
  · rintro ⟨_, _, asked, ends⟩
    obtain ⟨ending, files, inside, rfl, rfl⟩ := ends_onFiles.mp asked
    refine ⟨ending, files, inside, ?_⟩
    cases ending with
    | done mapping => cases mapping <;> exact ends
    | failed error => cases error <;> exact ends
    | crashed | stalled => exact ends
  · rintro ⟨ending, files, inside, answer⟩
    refine ⟨_, _, ends_onFiles.mpr ⟨ending, files, inside, rfl, rfl⟩, ?_⟩
    cases ending with
    | done mapping => cases mapping <;> exact answer
    | failed error => cases error <;> exact answer
    | crashed | stalled => exact answer

/-- **Where an image of storage is shown is told from window, region and map.** -/
theorem mapInPlace_window {device : DeviceId} {window : FileWindow} {host : RamHost ω device.major}
    {region : RamRegion} (found : before.page.map? name = some map) (ordered : map.start ≤ map.stop)
    (opened : before.files.openOn? handle = some (device, window))
    (up : before.files.devices.isUp device = true)
    (here : host.region? device.minor before.files.devices.world = some region) (size : Nat)
    (mode : Attributes) :
    ∃ answer after, (mapInPlace handle size mode name : BootAct ω μ (Option Address)).Ends before
        (.done answer) after ∧
      (∀ address, answer = some address ↔ Shows region window map mode size address) ∧
      host.region? device.minor after.files.devices.world = some region := by
  obtain ⟨files, kept, asked⟩ := Files.map_window opened up here (inPlaceRequest map size mode)
  obtain ⟨answer, taken, shows⟩ := inPlaceAnswer_window ordered region window size mode
  exact ⟨answer, _, (ends_mapInPlace found).mpr ⟨_, files, asked, taken, rfl⟩, shows, kept⟩

/-- An image is asked for in a map that is on the page. -/
theorem mapInPlace_found {answer : Option Address}
    (ends : (mapInPlace handle size mode name : BootAct ω μ (Option Address)).Ends before
      (.done answer) after) : ∃ map, before.page.map? name = some map := by
  apply Option.ne_none_iff_exists'.mp
  intro unknown
  have range : before.page.mapRange name = .error .unknownMap := by
    rw [SystemPage.mapRange, SystemPage.findMap, unknown]
    rfl
  rw [mapInPlace, ends_read_bind, range] at ends
  obtain ⟨_, _, here, _⟩ := ends_bind_done.mp ends
  cases here.1

/-! ## Images on their way -/

/-- A window of a device, opened for an image, is what a map shows at an address. -/
structure InPlace (before : Loader ω μ) (image : ImageName) (target : MemoryMap)
    (mode : Attributes) (device : DeviceId) (range : FileWindow) (address : Address) : Prop where
  opened : ∃ aliasName handle files,
    (openImage aliasName image).Ends before.files (.done handle) files ∧
      files.openOn? handle = some (device, range)
  shown : ∀ (host : RamHost ω device.major) (region : RamRegion),
    host.region? device.minor before.files.devices.world = some region →
      Shows region range target mode range.size address

/-- The modes in which images are used in place. -/
def inPlaceModes : List Attributes :=
  [Attributes.readExec, Attributes.ofList [.read]]

theorem openImage_devices {aliasName : String} {image : ImageName} {files left : Files ω}
    {device : DeviceId} {window : FileWindow}
    (ends : (openImage aliasName image).Ends files (.done handle) left)
    (opened : left.openOn? handle = some (device, window)) : left.devices = files.devices := by
  unfold openImage at ends
  split at ends
  · exact Files.openWindow_devices ends
  · exact Files.openFile_devices ends opened

/-- What a device shows of an image is a window of it. -/
theorem inPlace_of_shown {base opened asked : Loader ω μ} {aliasName : String} {image : ImageName}
    (consistent : base.page.Consistent)
    (opening : (onFiles (openImage aliasName image) : BootAct ω μ Handle).Ends base (.done handle)
      opened)
    (sizing : (onFiles (Files.stat handle) : BootAct ω μ Nat).Ends opened (.done size) asked)
    (showing : (mapInPlace handle size mode name : BootAct ω μ (Option Address)).Ends asked
      (.done (some address)) after) :
    ∃ map device window, base.page.map? name = some map ∧ window.size = size ∧
      InPlace base image map mode device window address := by
  obtain ⟨opens, first⟩ := onFiles_done opening
  obtain ⟨sizes, second⟩ := onFiles_done sizing
  have page := (first.trans second).page
  obtain ⟨map, found⟩ := mapInPlace_found showing
  obtain ⟨ending, files, shown, answer, _⟩ := (ends_mapInPlace found).mp showing
  rw [inPlaceAnswer_eq_some.mp answer] at shown
  obtain ⟨same, device, window, here, rfl, up⟩ := Files.shown_window sizes shown
  refine ⟨map, device, window, page ▸ found, rfl, ⟨aliasName, handle, _, opens, here⟩, ?_⟩
  intro host region held
  rw [← openImage_devices opens here] at held
  rw [← same] at held here up
  have member : map ∈ base.page.maps := (SystemPage.map?_mem (page ▸ found)).1
  obtain ⟨low, high⟩ := consistent.bounded map member
  obtain ⟨other, _, ends, shows, _⟩ := mapInPlace_window found (Nat.le_trans low high) here up held
    window.size mode
  exact (shows address).mp (Outcome.done.inj (ends.unique showing).1)

variable [PhysicalMemory μ]

/-- How an image that is to be registered has come to lie where it does: it was copied to memory,
or a device has shown it in a map. -/
inductive Settles (base loader : Loader ω μ) (image : ImageName) (name : String) :
    Settled → Prop where
  | copied {start stop : Address} (contents : Bytes) (untouched : Untouched base loader)
      (filled : contents ≠ []) (extent : start.advance? contents.length = some stop)
      (deposited : Deposited base.memory loader.memory start.toNat contents) :
      Settles base loader image name ⟨start, stop, false⟩
  | shown {start stop : Address} {map : MemoryMap} {mode : Attributes} {device : DeviceId}
      {window : FileWindow} (page : loader.page = base.page)
      (memory : loader.memory = base.memory) (found : base.page.map? name = some map)
      (allowed : mode ∈ inPlaceModes) (extent : start.advance? window.size = some stop)
      (inPlace : InPlace base image map mode device window start) :
      Settles base loader image name ⟨start, stop, true⟩

variable {base : Loader ω μ} {image : ImageName} {settled : Settled}
  {aliasName : String}

theorem Settles.of_onlyFiles (settles : Settles base before image name settled)
    (only : OnlyFiles before after) : Settles base after image name settled := by
  cases settles with
  | copied contents untouched filled extent deposited =>
      have kept : Untouched base after := ⟨only.page ▸ untouched.programs,
        only.page ▸ untouched.arguments, only.page ▸ untouched.reservations⟩
      exact .copied contents kept filled extent (only.memory ▸ deposited)
  | shown page memory found allowed extent inPlace =>
      exact .shown (only.page.trans page) (only.memory.trans memory) found allowed extent inPlace

/-- A copy settles an image. -/
theorem settles_copied {algorithm : Option Algorithm} {placed : Placed}
    (only : OnlyFiles base before)
    (copying : (copyToMap handle 0 size name algorithm : BootAct ω μ Placed).Ends before
      (.done placed) after) :
    Settles base after image name ⟨placed.start, placed.stop, false⟩ := by
  obtain ⟨contents, landed⟩ := copyToMap_ends copying
  have filled : contents ≠ [] := by
    rintro rfl
    exact copyToMap_nonempty copying landed.length.symm
  have untouched := (only.copies.trans (respects_copyToMap.ends copying)).untouched
  exact .copied contents untouched filled (landed.length.symm ▸ landed.stop)
    (only.memory ▸ landed.deposited)

/-- What a device shows of an image settles it, wherever the address of its end is known. -/
theorem settles_shown {opened asked shown : Loader ω μ} {stop : Address}
    (consistent : base.page.Consistent) (allowed : mode ∈ inPlaceModes)
    (opening : (onFiles (openImage aliasName image) : BootAct ω μ Handle).Ends base (.done handle)
      opened)
    (sizing : (onFiles (Files.stat handle) : BootAct ω μ Nat).Ends opened (.done size) asked)
    (showing : (mapInPlace handle size mode name : BootAct ω μ (Option Address)).Ends asked
      (.done (some address)) shown)
    (reached : address.advance? size = some stop) (only : OnlyFiles shown after) :
    Settles base after image name ⟨address, stop, true⟩ := by
  obtain ⟨map, device, window, found, rfl, inPlace⟩ :=
    inPlace_of_shown consistent opening sizing showing
  have read := (((respects_onFiles.ends opening).trans (respects_onFiles.ends sizing)).trans
    (respects_mapInPlace.ends showing)).trans only
  exact .shown read.page read.memory found allowed reached inPlace

/-! ## The commands -/

/-- The map of an image is the first one in the list of its maps. One command takes the list
for the name of a map. -/
def Heads (command : Command) (arguments : List String) (name list : String) : Prop :=
  (Text.listItems list).head? = some name ∨
    command = .blobSecure ∧ list = name ∧ name ∈ arguments

/-- The step that registers an image which is settled, under the name that an argument gives
it. -/
def RegistersSettled (command : Command) (arguments : List String) (base : Loader ω μ)
    (final : BootAct ω μ Unit) (loader : Loader ω μ) : Prop :=
  ∃ (settled : Settled) (size : Nat) (name instructionMaps dataMaps : String)
    (flags : ProgramFlags) (image : ImageName),
    (∃ argument ∈ arguments, ImageName.parse argument = .ok image) ∧
    (settled.inPlace = true → Heads command arguments name instructionMaps) ∧
    (settled.inPlace = false → flags.noCopy = false) ∧
    Settles base loader image name settled ∧
    final = register settled size instructionMaps dataMaps image.commandLine flags

/-- A command comes to the step that registers an image, or leaves the programs alone. -/
abbrev Leads (command : Command) (arguments : List String) (base : Loader ω μ)
    (action : BootAct ω μ Unit) : Prop :=
  LeadsTo base (fun loader => loader.page.programs = base.page.programs)
    (RegistersSettled command arguments base) action

variable {arguments : List String}

/-- What leaves programs alone comes to no such step. -/
theorem leads_of_untouched {command : Command} {action : BootAct ω μ Unit}
    (untouched : action.Respects Untouched) : Leads command arguments base action :=
  leadsTo_idle fun _ _ ends => (untouched.ends ends).programs

/-- What settles an image in the use of a file leads to its registration. -/
theorem leads_of_settles {command : Command} {component : Log.Component} {level : Log.Level}
    {message : Settled × Nat → String} {opening : FileAct ω Handle}
    {body : Handle → BootAct ω μ (Settled × Nat)} {list dataMaps : String}
    {flags : Settled × Nat → ProgramFlags}
    (named : ∃ argument ∈ arguments, ImageName.parse argument = .ok image)
    (unmarked : ∀ found, found.1.inPlace = false → (flags found).noCopy = false)
    (untouched : ∀ handle, (body handle).Respects Untouched)
    (settles : ∀ handle opened found reached,
      (onFiles opening : BootAct ω μ Handle).Ends base (.done handle) opened →
      (body handle).Ends opened (.done found) reached →
      Settles base reached image name found.1 ∧
        (found.1.inPlace = true → Heads command arguments name list)) :
    Leads command arguments base (do
      let found ← withFile opening body
      report component level (message found)
      register found.1 found.2 list dataMaps image.commandLine (flags found)) := by
  have keeps : (withFile opening body).Respects Untouched :=
    respects_withFile admits_untouched.files untouched
  refine leadsTo_bind (fun _ _ ends => (keeps.ends ends).programs) fun found left ends => ?_
  refine respects_note.then_leadsTo (keeps.ends ends).programs fun _ _ => leadsTo_last ?_
  rcases withFile_ends ends with ⟨handle, opened, ending, reached, opening, used, only, yields⟩ |
    ⟨_, refused⟩
  · rw [yields found rfl] at used
    obtain ⟨here, heads⟩ := settles handle opened found reached opening used
    exact ⟨found.1, found.2, name, list, dataMaps, _, image, named, heads, unmarked found,
      here.of_onlyFiles only, rfl⟩
  · exact absurd rfl (refused found)

theorem app_leads (consistent : base.page.Consistent) (arguments : List String) :
    Leads .app arguments base (app arguments) := by
  unfold app
  split
  · exact leads_of_untouched admits_untouched.showPrograms
  · refine respects_splitDevice.then_leadsTo rfl fun given splitting => ?_
    have among := yields_splitDevice _ _ _ splitting
    dsimp only
    split
    case h_3 => exact leads_of_untouched fun before => refl_of Untouched before
    -- with one list of maps or with two, the image is loaded in the same way
    all_goals
      rename_i parts
      refine respects_pure.then_leadsTo rfl fun taken here => ?_
      have named : taken.1 ∈ given.2 := by
        cases here.1
        split at parts
        case h_1 rest flagged =>
          obtain rfl : rest = _ := parts
          rw [flagged]
          exact List.mem_cons_of_mem _ List.mem_cons_self
        case h_2 =>
          rw [show given.2 = _ from parts]
          exact List.mem_cons_self
      refine respects_ofExcept.then_leadsTo rfl fun image parsing => ?_
      refine respects_ofOption.then_leadsTo rfl fun map heading => ?_
      refine respects_checkLists.then_leadsTo rfl fun _ _ => ?_
      refine leads_of_settles ⟨_, among _ named, yields_ofExcept _ _ _ parsing⟩
        (fun _ _ => noCopy_of _ _) (fun handle => ?untouched)
        fun handle opened found reached opening used =>
          ⟨?settles, fun _ => .inl (yields_ofOption _ _ _ heading)⟩
      case untouched =>
        refine (respects_onFiles.mono admits_untouched.files).bind fun size =>
          (respects_mapInPlace.mono admits_untouched.files).bind fun shown => ?_
        cases shown with
        | some address =>
            exact (respects_orCrash.bind fun _ => respects_pure).bind fun _ => respects_pure
        | none => exact (admits_untouched.copies _ _ _ _).bind fun _ => respects_pure
      case settles =>
        obtain ⟨size, asked, sizing, used⟩ := ends_bind_done.mp used
        obtain ⟨shown, mapped, showing, used⟩ := ends_bind_done.mp used
        cases shown with
        | some address =>
            obtain ⟨settled, _, here, done, rfl⟩ := ends_bind_done.mp used
            cases done
            rcases ends_orCrash_bind.mp here with ⟨stop, extent, done, rfl⟩ | ⟨_, crashed, _⟩
            · cases done
              exact settles_shown consistent List.mem_cons_self opening sizing showing extent
                (.refl _)
            · cases crashed
        | none =>
            obtain ⟨placed, _, copying, done, rfl⟩ := ends_bind_done.mp used
            cases done
            exact settles_copied (((respects_onFiles.ends opening).trans
              (respects_onFiles.ends sizing)).trans (respects_mapInPlace.ends showing)) copying

theorem blob_leads (arguments : List String) : Leads .blob arguments base (blob arguments) := by
  unfold blob
  split
  case h_1 device name map =>
    refine respects_ofExcept.then_leadsTo rfl fun image parsing => ?_
    refine respects_checkMap.then_leadsTo rfl fun _ _ => ?_
    refine leads_of_settles ⟨name, by simp, yields_ofExcept _ _ _ parsing⟩
      (fun _ _ => noCopy_of _ _) (fun handle => ?untouched)
      fun handle opened found reached opening used =>
        ⟨(?settles : Settles base reached image map found.1), ?heads⟩
    case untouched =>
      exact (respects_onFiles.mono admits_untouched.files).bind fun size =>
        (admits_untouched.copies _ _ _ _).bind fun _ => respects_pure
    all_goals
      obtain ⟨size, asked, sizing, used⟩ := ends_bind_done.mp used
      obtain ⟨placed, _, copying, done, rfl⟩ := ends_bind_done.mp used
      cases done
    case settles =>
      exact settles_copied ((respects_onFiles.ends opening).trans (respects_onFiles.ends sizing))
        copying
    case heads => nofun
  case h_2 => exact leads_of_untouched admits_untouched.showPrograms
  case h_3 => exact leads_of_untouched respects_fail

/-- What is measured is settled. -/
theorem measured_settles {request : SecureRequest} {opened : Loader ω μ} {found : Settled × Nat}
    (consistent : base.page.Consistent) (modes : ∀ mode ∈ request.mode, mode ∈ inPlaceModes)
    (opening : (onFiles (openImage aliasName request.image) : BootAct ω μ Handle).Ends base
      (.done handle) opened)
    (ends : (settleVerified request handle : BootAct ω μ (Settled × Nat)).Ends opened
      (.done found) after) :
    Settles base after request.image request.map found.1 := by
  obtain ⟨⟨start, stop, inPlace⟩, size⟩ := found
  obtain ⟨digest, measuring, _⟩ := settleVerified_ends ends
  obtain ⟨length, asked, sizing, measuring⟩ := ends_bind_done.mp measuring
  have read := (respects_onFiles.ends opening).trans (respects_onFiles.ends sizing)
  have copied {middle : Loader ω μ} (only : OnlyFiles base middle)
      (ends : (measureAt handle length request.map request.algorithm none :
        BootAct ω μ Measured).Ends middle (.done ⟨start, some stop, inPlace, size, digest⟩) after) :
      Settles base after request.image request.map ⟨start, stop, inPlace⟩ := by
    obtain ⟨placed, _, copying, ends⟩ := ends_bind_done.mp ends
    rcases ends_ofOption_bind.mp ends with ⟨_, _, done, rfl⟩ | ⟨_, failed, _⟩
    · cases done
      exact settles_copied only copying
    · cases failed
  cases asking : request.mode with
  | none =>
      rw [asking] at measuring
      exact copied read (ends_pure_bind.mp measuring)
  | some mode =>
      rw [asking] at measuring
      obtain ⟨shown, mapped, showing, measuring⟩ := ends_bind_done.mp measuring
      cases shown with
      | none => exact copied (read.trans (respects_mapInPlace.ends showing)) measuring
      | some address =>
          obtain ⟨_, _, hashing, done, rfl⟩ := ends_bind_done.mp measuring
          obtain ⟨rfl, extent, rfl, rfl, _⟩ := Measured.mk.inj (Outcome.done.inj done)
          exact settles_shown consistent (modes mode asking) opening sizing showing extent
            (respects_hashOnly.ends hashing)

/-- What a secure command asks for is used in place in the known modes only, and its map is the
first one in a list. -/
structure SecureRequest.Fits (request : SecureRequest) (command : Command)
    (arguments : List String) : Prop where
  named : ∃ argument ∈ arguments, ImageName.parse argument = .ok request.image
  modes : ∀ mode ∈ request.mode, mode ∈ inPlaceModes
  heads : Heads command arguments request.map request.instructionMaps

theorem placeVerified_leads {command : Command} {request : SecureRequest}
    (consistent : base.page.Consistent) (fits : request.Fits command arguments) :
    Leads command arguments base (placeVerified request) :=
  leads_of_settles fits.named (fun _ copied => (noCopy_of _ _).trans copied)
    (fun _ => (peeks_of_onlyFiles admits_untouched.files).settleVerified fun map size _ =>
      admits_untouched.copies _ map size _)
    fun _ _ _ _ opening used =>
      ⟨measured_settles consistent fits.modes opening used, fun _ => fits.heads⟩

omit [Hardware ω] [PhysicalMemory μ] in
/-- A program goes to the first of its instruction maps. -/
theorem fits_secureProgram {request : SecureRequest}
    (ends : (secureProgram arguments : BootAct ω μ SecureRequest).Ends before (.done request)
      after) : request.Fits .appSecure arguments := by
  have named := yields_secureProgram _ _ _ ends
  cases arguments with
  | nil => cases ends.1
  | cons device rest =>
      have ends := ends_pure_bind.mp ends
      dsimp only at ends
      split at ends
      case h_1 =>
        obtain ⟨_, _, _, ends⟩ := ends_bind_done.mp ends
        obtain ⟨_, _, _, ends⟩ := ends_bind_done.mp ends
        obtain ⟨map, _, heading, ends⟩ := ends_bind_done.mp ends
        obtain ⟨_, _, _, done, _⟩ := ends_bind_done.mp ends
        cases done
        refine ⟨named, fun mode asked => ?_, .inl (yields_ofOption _ _ _ heading)⟩
        obtain ⟨_, same⟩ := Option.mem_ite_none_right.mp asked
        cases same
        exact List.mem_cons_self
      case h_2 => cases ends.1

omit [Hardware ω] [PhysicalMemory μ] in
/-- An opaque file goes to the map that is named, which is taken for a list of maps too. -/
theorem fits_secureBlob {request : SecureRequest}
    (ends : (secureBlob arguments : BootAct ω μ SecureRequest).Ends before (.done request) after) :
    request.Fits .blobSecure arguments := by
  have named := yields_secureBlob _ _ _ ends
  unfold secureBlob at ends
  split at ends
  case h_1 =>
    obtain ⟨_, _, _, ends⟩ := ends_bind_done.mp ends
    obtain ⟨_, _, _, ends⟩ := ends_bind_done.mp ends
    obtain ⟨_, _, _, done, _⟩ := ends_bind_done.mp ends
    cases done
    refine ⟨named, fun mode asked => ?_, .inr ⟨rfl, rfl, by simp⟩⟩
    cases asked
    exact List.mem_cons_of_mem _ List.mem_cons_self
  case h_2 => cases ends.1

/-- **A command that loads an image comes to its registration with the image settled**, and every
other command leaves the programs alone. -/
theorem command_leads (consistent : base.page.Consistent) (command : Command)
    (arguments : List String) : Leads command arguments base (runCommand command arguments) := by
  cases command with
  | app => exact app_leads consistent arguments
  | appSecure =>
      exact respects_secureProgram.then_leadsTo rfl fun request taking =>
        placeVerified_leads consistent (fits_secureProgram taking)
  | blob => exact blob_leads arguments
  | blobSecure =>
      exact respects_secureBlob.then_leadsTo rfl fun request taking =>
        placeVerified_leads consistent (fits_secureBlob taking)
  | _ =>
      exact leadsTo_idle fun _ _ ends =>
        (SystemPage.same_listed_iff.mp ((listed_command arguments (by decide)).ends ends)).2

/-! ## What programs are -/

/-- What a program is that a line added, where it left a certain page and memory: bytes that were
copied, or one window of a device, which is used where a map shows it. The map is the first of the
instruction maps, except where a command takes the name of a map for a list of names. Only what is
used in place is marked or reserved. -/
inductive Brings (line : String) (before : Loader ω μ) (page : SystemPage) (left : μ)
    (program : Program) : Prop where
  | copied (contents : Bytes) (filled : contents ≠ [])
      (extent : program.start.advance? contents.length = some program.stop)
      (deposited : Deposited before.memory left program.start.toNat contents)
      (unmarked : program.flags.noCopy = false)
      (unreserved : page.reservations = before.page.reservations)
  | inPlace (command : Command) (arguments : List String) (image : ImageName) (map : MemoryMap)
      (mode : Attributes) (device : DeviceId) (window : FileWindow)
      (called : Command.ofLine? line = some (command, arguments))
      (named : ∃ argument ∈ arguments, ImageName.parse argument = .ok image)
      (labelled : program.commandLine = Text.toField Capacity.commandLine image.commandLine)
      (member : map ∈ before.page.maps)
      (first : command ≠ .blobSecure ∨ ';' ∉ map.name.toList →
        program.instructionMaps.head? = some map.id)
      (allowed : mode ∈ inPlaceModes)
      (extent : program.start.advance? window.size = some program.stop)
      (unwritten : left = before.memory)
      (inPlace : InPlace before image map mode device window program.start)

/-- A line leaves the programs alone, or adds one that is known. -/
def AddsKnown (line : String) (before after : Loader ω μ) : Prop :=
  after.page.programs = before.page.programs ∨
    ∃ program, after.page.programs = before.page.programs ++ [program] ∧
      Brings line before after.page after.memory program

omit [Hardware ω] [PhysicalMemory μ] in
/-- The name of a map that has no semicolon is the first item of itself as a list. -/
theorem Heads.first {line : String} {command : Command} {list : String}
    (called : Command.ofLine? line = some (command, arguments))
    (heads : Heads command arguments name list)
    (single : command ≠ .blobSecure ∨ ';' ∉ name.toList) :
    (Text.listItems list).head? = some name := by
  rcases heads with first | ⟨rfl, rfl, given⟩
  · exact first
  · obtain ⟨filled, solid⟩ := Text.words_solid (Command.mem_words_of_ofLine? called list given)
    rw [Text.listItems_of_solid filled solid (single.resolve_left fun differs => differs rfl)]
    rfl

omit [Hardware ω] [PhysicalMemory μ] in
/-- The first id of a list of maps is that of the first map. -/
theorem resolveList_head {page : SystemPage} {map : MemoryMap} {list : String} {limit : Nat}
    {ids : List UInt8} (resolved : page.resolveList list limit = .ok ids)
    (first : (Text.listItems list).head? = some name) (found : page.map? name = some map) :
    ids.head? = some map.id := by
  obtain ⟨rest, items⟩ := List.head?_eq_some_iff.mp first
  rw [SystemPage.resolveList, items] at resolved
  obtain ⟨_, id, others, _, here, _, rfl⟩ := SystemPage.resolveNames_cons resolved
  rw [(mapRange_of_map? found).2.2] at here
  exact congrArg some (Except.ok.inj here).symm

/-- The registration of an image that is settled adds a known program. -/
theorem adds_of_registers {line : String} {command : Command} {final : BootAct ω μ Unit}
    {outcome : Outcome BootError Unit}
    (called : Command.ofLine? line = some (command, arguments))
    (registers : RegistersSettled command arguments base final before)
    (ends : final.Ends before outcome after) : AddsKnown line base after := by
  obtain ⟨settled, size, name, list, dataMaps, flags, image, named, heads, unmarked, settles,
    rfl⟩ := registers
  rcases register_ends ends with ⟨rfl, _⟩ |
    ⟨program, registered, start, stop, rfl, resolved, labelled, memory, unreserved⟩
  · refine .inl ?_
    cases settles with
    | copied _ untouched => exact untouched.programs
    | shown page => exact congrArg SystemPage.programs page
  · cases settles with
    | copied contents untouched filled extent deposited =>
        refine .inr ⟨program, untouched.programs ▸ registered, .copied contents filled ?_ ?_
          (unmarked rfl) ((unreserved rfl).trans untouched.reservations)⟩
        · rw [start, stop]
          exact extent
        · rw [start, memory]
          exact deposited
    | @shown _ _ map mode device window page unwritten found allowed extent inPlace =>
        rw [page] at registered resolved
        refine .inr ⟨program, registered, .inPlace command arguments image map mode device window
          called named labelled (SystemPage.map?_mem found).1 (fun single => ?_) allowed ?_
          (memory.trans unwritten) (start ▸ inPlace)⟩
        · refine resolveList_head resolved ((heads rfl).first called ?_) found
          rw [← (SystemPage.map?_mem found).2]
          exact single
        · rw [start, stop]
          exact extent

/-- **What a line adds to the programs is known**, however the line ends. -/
theorem execute_adds_known {line : String} {outcome : Outcome BootError Exit}
    (consistent : before.page.Consistent)
    (ends : (execute line : BootAct ω μ Exit).Ends before outcome after) :
    AddsKnown line before after := by
  rcases execute_ends ends with ⟨_, console, rfl⟩ |
    ⟨command, arguments, ending, left, console, called, inside, _, rfl, _⟩
  · exact .inl rfl
  · rcases command_leads consistent command arguments ending left inside with same |
      ⟨final, middle, registers, ends⟩
    · exact .inl same
    · have known : AddsKnown line before left := adds_of_registers called registers ends
      exact known

end

/-! ## Pages and files that are built by requests, and sessions -/

/-- **Where images are used in place.** On any page and any files that are built by requests, for
a handle on a window of storage in memory and any map, size and mode, the loader is given an
address exactly if the range lies in the window, the region and the map, both allow the mode, and
it is the address of the range; otherwise it is given none, and in no case an error; nothing
overflows on the way, and nothing but the files is asked. In a session, a line adds one program at
most, however it ends. The program was copied to memory, or it is exactly one window of a device
in a map, which is the first of its instruction maps unless the command took the name of the map
for a list of names. -/
theorem images_used_in_place [Hardware ω] [PhysicalMemory μ] [LawfulMemory μ] :
    (∀ (requests : List SystemPage.Request) (fresh : μ) (devices : Devices ω) (patience : Nat)
      (asked : List Files.Request) (before : Loader ω μ) (handle : Handle) (device : DeviceId)
      (window : FileWindow) (host : RamHost ω device.major) (region : RamRegion) (map : MemoryMap)
      (size : Nat) (mode : Attributes),
      before.page = (SystemPage.afterAll requests (SystemPage.empty, fresh)).1 →
      before.files = Files.afterAll asked (Files.ofDevices devices patience) →
      before.files.openOn? handle = some (device, window) →
      host.region? device.minor before.files.devices.world = some region →
      map ∈ before.page.maps →
      window.start + window.size < UInt64.size ∧
      ∃ answer after, (mapInPlace handle size mode map.name : BootAct ω μ (Option Address)).Ends
          before (.done answer) after ∧
        (∀ address, answer = some address ↔ Shows region window map mode size address) ∧
        (∀ address, answer = some address →
          ∃ stop, address.advance? size = some stop ∧ stop ≤ map.stop) ∧
        OnlyFiles before after ∧
        host.region? device.minor after.files.devices.world = some region) ∧
    ∀ (board : Board) (devices : Devices ω) (memory : μ) (patience : Nat) (loader : Loader ω μ)
      (lines : List String), Sound memory →
      (start : BootAct ω μ Unit).Ends (ofParts board devices memory patience) (.done ()) loader →
      ∀ turn ∈ session lines loader, AddsKnown turn.line turn.before turn.after := by
  refine ⟨?shown, ?added⟩
  case shown =>
    intro requests fresh devices patience asked before handle device window host region map size
      mode page files opened here member
    have consistent : before.page.Consistent := by
      rw [page]
      exact SystemPage.consistent_afterAll fresh requests
    have sound : before.files.Sound := by
      rw [files]
      exact (Files.sound_ofDevices devices patience).afterAll asked
    obtain ⟨fits, up⟩ := sound.openOn opened
    obtain ⟨low, high⟩ := consistent.bounded map member
    obtain ⟨answer, after, ends, shows, kept⟩ := mapInPlace_window (consistent.map?_eq member)
      (Nat.le_trans low high) opened up here size mode
    refine ⟨of_decide_eq_true fits, answer, after, ends, shows, fun address given => ?_,
      respects_mapInPlace.ends ends, kept⟩
    have inside := ((shows address).mp given).high
    have bound := map.stop.toNat_lt
    have reached : (Address.ofNat (address.toNat + size)).toNat = address.toNat + size :=
      Address.toNat_ofNat_of_lt (by omega)
    refine ⟨_, Address.advance?_eq_some_iff.mpr reached, ?_⟩
    rw [Address.le_def, reached]
    exact inside
  case added =>
    intro board devices memory patience loader lines sound started turn member
    obtain ⟨earlier, later, taken⟩ := List.append_of_mem member
    obtain ⟨ends, _, _⟩ := session_split taken
    obtain ⟨_, steady⟩ := session_invariant Steady (fun _ does => does.steady)
      (start_carries sound started).steady taken
    exact execute_adds_known steady.consistent ends

/-- A bench with a region of memory, whose contents can be used in place. -/
def romBench : Devices Bench.World :=
  ⟨[⟨.ram, [false]⟩], ⟨[(.ram, .ram ⟨[⟨⟨0x8000000⟩, .readExec, [1, 2, 3, 4]⟩], 0⟩)], []⟩⟩

/-- The loader that was started on it. -/
def romLoader : Loader Bench.World IdentityMemory :=
  ((start : BootAct Bench.World IdentityMemory Unit).run
    (ofParts Board.standard romBench IdentityMemory.zeros 0)).state

/-- A loader that was told of a map over the region, and has a window of it open. -/
def romOpened : Loader Bench.World IdentityMemory :=
  let maps : List SystemPage.Request := [.addMap "rom" ⟨0x8000000⟩ ⟨0x8001000⟩ .readExec]
  let files : List Files.Request :=
    [.registerDevice "disk" ⟨.ram, 0⟩ .raw, .openWindow "disk" ⟨1, 2⟩]
  { romLoader with
    page := (SystemPage.afterAll maps (SystemPage.empty, IdentityMemory.zeros)).1
    files := Files.afterAll files (Files.ofDevices ⟨[⟨.ram, [true]⟩], romBench.world⟩ 0) }

/-- Lines that load a program which is used in place. -/
def romLines : List String :=
  ["map rom 0x8000000 0x8001000 rx", "phfs disk 4.0", "app disk x(0x0:0x4) rom"]

/-- The window is shown where it lies in the region, and the program is registered there. -/
theorem images_used_in_place_rom :
    (∃ after, (mapInPlace ⟨0, 0⟩ 2 .readExec "rom" : BootAct Bench.World IdentityMemory _).Ends
      romOpened (.done (some ⟨0x8000001⟩)) after) ∧
    ∃ turn ∈ session romLines romLoader, turn.outcome = .done .success ∧
      turn.after.page.programs.map Program.start = [⟨0x8000000⟩] ∧
      turn.after.page.programs.map Program.stop = [⟨0x8000004⟩] ∧
      AddsKnown turn.line turn.before turn.after := by
  obtain ⟨shown, added⟩ := @images_used_in_place Bench.World IdentityMemory _ _ _
  constructor
  · let map : MemoryMap :=
      ⟨"rom", 0, ⟨0x8000000⟩, ⟨0x8001000⟩, .readExec, ⟨0x8000000⟩, []⟩
    let region : RamRegion := ⟨⟨0x8000000⟩, .readExec, [1, 2, 3, 4]⟩
    obtain ⟨_, answer, after, ends, shows, _⟩ := shown _ _ _ _ _ romOpened ⟨0, 0⟩ ⟨.ram, 0⟩ ⟨1, 2⟩
      (Bench.World.ramHost .ram) region map 2 .readExec rfl rfl (by decide +kernel)
      (by decide +kernel) (by decide +kernel)
    have allowed : Attributes.readExec.Within Attributes.readExec :=
      Attributes.isSubset_iff.mp (by decide)
    have given : answer = some ⟨0x8000001⟩ :=
      (shows _).mpr ⟨by decide, by decide, allowed, allowed, by decide, by decide, by decide⟩
    exact ⟨after, given ▸ ends⟩
  · have started : (start : BootAct Bench.World IdentityMemory Unit).Ends
        (ofParts Board.standard romBench IdentityMemory.zeros 0) (.done ()) romLoader :=
      ⟨by decide +kernel, rfl⟩
    have member : (session romLines romLoader)[2] ∈ session romLines romLoader :=
      List.getElem_mem _
    exact ⟨_, member, by decide +kernel, by decide +kernel, by decide +kernel,
      added Board.standard romBench IdentityMemory.zeros 0 romLoader romLines trivial started _
        member⟩

/-- Lines that register a file in a map whose name ends with a semicolon. -/
def semicolonLines : List String :=
  ["map rom; 0x8000000 0x8001000 rx", "map rom 0x10000 0x20000 rx", "phfs disk 4.0",
    "blob-secure disk x(0x0:0x4) rom; sha256 n2SnR+G5fxMfq7a0Rylsm28CAeefs8U1bmx36JtqgGo="]

/-- The name of a map is taken for a list of names: the file is shown in one map, where its range
is reserved, and registered with another one, in which no byte of it lies. -/
theorem blob_outside_its_map :
    ∃ turn ∈ session semicolonLines romLoader, ∃ program : Program, ∃ map ∈ turn.after.page.maps,
      turn.outcome = .done .success ∧
      turn.after.page.programs = turn.before.page.programs ++ [program] ∧
      program.flags.noCopy = true ∧ program.start < program.stop ∧
      turn.after.page.reservations = [⟨program.start, program.stop⟩] ∧
      program.instructionMaps.head? = some map.id ∧ map.stop ≤ program.start := by
  refine ⟨(session semicolonLines romLoader)[3], List.getElem_mem _,
    ⟨⟨0x8000000⟩, ⟨0x8000004⟩, [1], [1], Text.toField Capacity.commandLine "x",
      ProgramFlags.of false true⟩,
    ⟨"rom", 1, ⟨0x10000⟩, ⟨0x20000⟩, .readExec, ⟨0x10000⟩, []⟩, ?_⟩
  decide +kernel

end Bootloader.Loader
