import Bootloader.Proofs.Boot.Conduct
import Bootloader.Proofs.Boot.Session
import Bootloader.Proofs.SystemPage.ArgumentString

/-!
# The programs that commands register

A command registers one program at most, under the command line of an image that one of its
arguments names, and does nothing else to the argument string or the list of programs
(`enrolls_command`). Arguments are words, so they have no blank in them, and neither has what is
left of an image argument without its window; and the name of the file comes before the window, so
something is left (`NamedIn.solid`). Therefore the argument string that a session leaves behind is
split at its spaces into one piece for every program (`arguments_tell_programs`).
-/

set_option autoImplicit false

namespace Bootloader

/-! ## Command lines of images -/

namespace ImageName

/-- An argument is left without its window by taking a part in parentheses out of it. -/
theorem splitWindow_eq_ok {characters rest : List Char} {window : Option FileWindow}
    (split : splitWindow characters = .ok (rest, window)) :
    rest = characters ∨ ∃ front inside back,
      characters = front ++ '(' :: (inside ++ ')' :: back) ∧ rest = front ++ back := by
  unfold splitWindow at split
  split at split
  case h_1 =>
    cases split
    exact .inl rfl
  case h_2 front inside opened =>
    split at split
    case h_1 => cases split
    case h_2 numbers back closed =>
      cases parsed : parseWindow numbers with
      | error error =>
          rw [parsed] at split
          cases split
      | ok window =>
          rw [parsed] at split
          cases split
          refine .inr ⟨front, numbers, back, ?_, rfl⟩
          rw [(Text.cut_eq_some_iff.mp opened).1, (Text.cut_eq_some_iff.mp closed).1]

theorem parse_eq_ok {argument : String} {image : ImageName}
    (parsed : parse argument = .ok image) :
    fileName argument.toList ≠ [] ∧ ∃ rest window,
      splitWindow argument.toList = .ok (rest, window) ∧
      image.commandLine = String.ofList rest := by
  unfold parse at parsed
  dsimp only [bind, Except.bind] at parsed
  split at parsed
  case h_1 => cases parsed
  case h_2 parts left =>
    by_cases unnamed : (fileName argument.toList).isEmpty
    · rw [if_pos unnamed] at parsed
      cases parsed
    · rw [if_neg unnamed] at parsed
      cases parsed
      exact ⟨fun none => unnamed (List.isEmpty_iff.mpr none), parts.1, parts.2, left, rfl⟩

/-- The command line of an image has characters of its argument only. It has some, since the name
of the file is in front of the window. -/
theorem commandLine_of_parse {argument : String} {image : ImageName}
    (parsed : parse argument = .ok image) :
    image.commandLine.toList ≠ [] ∧
      ∀ character ∈ image.commandLine.toList, character ∈ argument.toList := by
  obtain ⟨named, rest, window, split, line⟩ := parse_eq_ok parsed
  rw [line, String.toList_ofList]
  rcases splitWindow_eq_ok split with rfl | ⟨front, inside, back, whole, rfl⟩
  · refine ⟨?_, fun _ => id⟩
    intro none
    rw [none] at named
    exact named rfl
  · rw [whole] at named ⊢
    refine ⟨?_, ?_⟩
    · intro none
      obtain ⟨rfl, _⟩ := List.append_eq_nil_iff.mp none
      exact named rfl
    · intro character member
      rcases List.mem_append.mp member with member | member
      · exact List.mem_append_left _ member
      · exact List.mem_append_right _ (List.mem_cons_of_mem _
          (List.mem_append_right _ (List.mem_cons_of_mem _ member)))

end ImageName

/-- A token is the encoded command line of an image that an argument in a line names. -/
def NamedIn (line : String) (token : Bytes) : Prop :=
  ∃ command arguments, Command.ofLine? line = some (command, arguments) ∧
    ∃ argument ∈ arguments, ∃ image : ImageName,
      ImageName.parse argument = .ok image ∧ token = Text.encode image.commandLine

/-- The arguments of a command are words of its line. -/
theorem Command.mem_words_of_ofLine? {line : String} {command : Command} {arguments : List String}
    (called : Command.ofLine? line = some (command, arguments)) :
    ∀ argument ∈ arguments, argument.toList ∈ Text.words line.toList := by
  unfold Command.ofLine? at called
  split at called
  case h_1 => cases called
  case h_2 name words split =>
    by_cases comment : name.head? = some '#'
    · rw [if_pos comment] at called
      cases called
    · rw [if_neg comment] at called
      obtain ⟨_, _, same⟩ := Option.map_eq_some_iff.mp called
      cases same
      intro argument member
      obtain ⟨word, listed, rfl⟩ := List.mem_map.mp member
      rw [split, String.toList_ofList]
      exact List.mem_cons_of_mem _ listed

/-- The command line of an image that is named in a line is not empty and has no space in it. -/
theorem NamedIn.solid {line : String} {token : Bytes} (named : NamedIn line token) :
    token ≠ [] ∧ 0x20 ∉ token := by
  obtain ⟨command, arguments, called, argument, given, image, parsed, rfl⟩ := named
  obtain ⟨some, among⟩ := ImageName.commandLine_of_parse parsed
  obtain ⟨_, unbroken⟩ := Text.words_solid (Command.mem_words_of_ofLine? called argument given)
  rw [Text.encode_eq]
  exact ⟨Text.encodeCharacters_ne_nil some, Text.space_not_mem_encodeCharacters
    fun character member => unbroken character (among character member)⟩

namespace Loader

open Act SystemPage

variable {ω μ : Type}

/-! ## What leaves the programs alone -/

/-- What lists the programs on the page. -/
def listed (loader : Loader ω μ) : Bytes × List Program :=
  loader.page.listed

section

variable {before after : Loader ω μ}

theorem listed_of_page (same : after.page = before.page) : Same listed before after :=
  congrArg SystemPage.listed same

theorem OnlyFiles.listed (only : OnlyFiles before after) : Same listed before after :=
  listed_of_page only.page

theorem Untouched.listed (untouched : Untouched before after) : Same listed before after :=
  same_listed_iff.mpr ⟨untouched.arguments, untouched.programs⟩

/-- What a page registers without an addition to the argument string is no program. -/
theorem listed_onPage {α : Type} {request : PageAct α} (registers : request.Respects Registered)
    (stands : request.Respects (Same SystemPage.standing)) :
    (onPage request : BootAct ω μ α).Respects (Same listed) := by
  refine respects_of_ends fun {before _ after} ends => ?_
  obtain ⟨_, page, inside, _, rfl⟩ := ends_onPage.mp ends
  have same : page.arguments = before.page.arguments := congrArg Prod.fst (stands.ends inside)
  rcases (registers.ends inside).changes.programs_cases with ⟨_, kept⟩ | longer
  · exact same_listed_iff.mpr ⟨same, kept⟩
  · rw [same] at longer
    exact absurd longer (Nat.lt_irrefl _)

theorem listed_reserve (start : Address) (size : Nat) :
    (onPage (reserve start size) : BootAct ω μ Unit).Respects (Same listed) :=
  listed_onPage reserve_registers reserve_standing

theorem admits_registries_listed : AdmitsRegistries (ω := ω) (μ := μ) (Same listed) where
  print _ := respects_update fun _ => rfl
  named _ _ := rfl
  page registers stands := listed_onPage registers stands
  registerDevice _ _ _ := respects_onFiles.mono fun _ _ => OnlyFiles.listed
  registerFile _ _ := respects_onFiles.mono fun _ _ => OnlyFiles.listed

variable [Hardware ω]

theorem listed_start : (start : BootAct ω μ Unit).Respects (Same listed) :=
  respects_start_of (fun _ _ => OnlyFiles.listed) listed_reserve
    fun _ => listed_onPage setAddress_registers setAddress_standing

variable [PhysicalMemory μ]

/-- The load of a kernel describes it and reserves its memory. -/
theorem listed_call (asked : Except BootError LoadCall) :
    (Act.ofExcept asked >>= LoadCall.run : BootAct ω μ Unit).Respects (Same listed) := by
  have forgets : (forgetKernel : BootAct ω μ Unit).Respects (Same listed) :=
    respects_forgetKernel_of fun _ => rfl
  have copies : ∀ handle key, (copyImage handle key : BootAct ω μ Copied).Respects (Same listed) :=
    fun _ _ => respects_copyImage.mono fun _ _ transfers =>
      listed_of_page (congrArg Loader.page transfers.rest :)
  have describes : ∀ kernel,
      (onPage (setKernel kernel) : BootAct ω μ Unit).Respects (Same listed) :=
    fun kernel => respects_update fun _ => rfl
  refine respects_ofExcept.bind fun call => forgets.bind fun _ => ?_
  refine (respects_withFile (fun _ _ => OnlyFiles.listed) fun handle => copies handle _).bind
    fun copied => (respects_same respects_checkSignature).bind fun _ => ?_
  exact respects_acceptKernel_of listed_reserve describes fun _ => rfl

/-- An attempt to launch saves the page at most. -/
theorem listed_go (arguments : List String) :
    (go arguments : BootAct ω μ Unit).Respects (Same listed) := by
  have saves : (save : StoreAct μ Address).Respects (Same fun store => store.1.listed) :=
    save_besides fun _ => rfl
  refine respects_of_ends fun ends => ?_
  rcases go_saves ends with ⟨page, _⟩ | ⟨_, saving⟩
  · exact listed_of_page page
  · exact saves.ends saving

end

/-! ## What registers a program -/

/-- The programs are listed as before, or with one more, under the name that one of some arguments
gives it. -/
def Enrolls (arguments : List String) (before after : Loader ω μ) : Prop :=
  Same listed before after ∨ ∃ argument ∈ arguments, ∃ image,
    ImageName.parse argument = .ok image ∧
    AddsProgram image.commandLine before.page after.page

section

variable {before after : Loader ω μ} {arguments : List String}

/-- A registration adds one program to both lists, or nothing to either, whether or not the range
of the program can be reserved. -/
theorem register_enrolls {settled : Settled} {size : Nat}
    {instructionMaps dataMaps commandLine : String} {flags : ProgramFlags}
    {outcome : Outcome BootError Unit}
    (ends : (register settled size instructionMaps dataMaps commandLine flags :
      BootAct ω μ Unit).Ends before outcome after) :
    Same listed before after ∨ AddsProgram commandLine before.page after.page := by
  rcases register_steps ends with ⟨rfl, _⟩ | ⟨_, _, _, _, _, extended, ends⟩
  · exact .inl rfl
  · have reserved : (if settled.inPlace then onPage (reserve settled.start size) else pure () :
        BootAct ω μ Unit).Respects (Same listed) := by
      split
      · exact listed_reserve _ _
      · exact respects_pure
    obtain ⟨kept, recorded⟩ := same_listed_iff.mp (reserved.ends ends)
    exact .inr ⟨kept.trans (appendArguments?_eq_some extended), _, recorded, rfl⟩

/-- What respects the lists up to the registration of an image adds one program at most. -/
theorem enrolls_of_registers {inPlace : Prop} {action : BootAct ω μ Unit}
    (registers : action.RespectsUpTo Untouched (RegistersImage arguments inPlace)) :
    action.Respects (Enrolls arguments) := by
  refine respects_of_ends fun ends => ?_
  rcases registers _ _ _ ends with untouched | ⟨_, middle, ⟨settled, size, _, _, _, image,
    ⟨argument, given, parsed⟩, _, _, rfl⟩, untouched, ends⟩
  · exact .inl untouched.listed
  · rcases register_enrolls ends with same | adds
    · exact .inl (trans_of (Same listed) untouched.listed same)
    · refine .inr ⟨argument, given, image, parsed, ?_⟩
      obtain ⟨appended, program, recorded, field⟩ := adds
      rw [untouched.arguments] at appended
      rw [untouched.programs] at recorded
      exact ⟨appended, program, recorded, field⟩

variable [Hardware ω] [PhysicalMemory μ]

/-- A command that loads no image leaves the programs alone. -/
theorem listed_command {command : Command} (arguments : List String)
    (ordinary : command ∉ [.app, .appSecure, .blob, .blobSecure]) :
    (runCommand command arguments : BootAct ω μ Unit).Respects (Same listed) := by
  cases command with
  | app | appSecure | blob | blobSecure => exact absurd (by simp) ordinary
  | file => exact admits_registries_listed.addFile
  | go => exact listed_go arguments
  | help => exact admits_registries_listed.print _
  | kernel =>
      refine respects_of_ends fun ends => ?_
      exact (listed_call _).ends (kernel_ends.mp ends)
  | kernelSecure =>
      rw [runCommand, kernelSecure_eq]
      exact listed_call _
  | map => exact admits_registries_listed.addMap
  | part => exact admits_registries_listed.addPartition
  | aliases => exact admits_registries_listed.addAlias
  | sched => exact admits_registries_listed.addWindows
  | page => exact admits_registries_listed.movePage

/-- **A command registers one program at most**, under the name that one of its arguments gives
it, and leaves the programs alone otherwise. -/
theorem enrolls_command (command : Command) (arguments : List String) :
    (runCommand command arguments : BootAct ω μ Unit).Respects (Enrolls arguments) := by
  cases command with
  | app => exact enrolls_of_registers (app_upTo admits_untouched arguments)
  | appSecure => exact enrolls_of_registers (appSecure_upTo admits_untouched arguments)
  | blob => exact enrolls_of_registers (blob_upTo admits_untouched arguments)
  | blobSecure => exact enrolls_of_registers (blobSecure_upTo admits_untouched arguments)
  | _ => exact (listed_command arguments (by decide)).mono fun _ _ => .inl

end

/-! ## Lines and sessions -/

variable [Hardware ω] [PhysicalMemory μ]

/-- **Where the argument string tells the programs apart, it does so after a line**, and the line
added one program at most. -/
theorem execute_tells {line : String} {before after : Loader ω μ} {outcome : Outcome BootError Exit}
    {tokens : List Bytes} (tells : before.page.Tells tokens)
    (ends : (execute line : BootAct ω μ Exit).Ends before outcome after) :
    after.page.Tells tokens ∨
      ∃ token, NamedIn line token ∧ after.page.Tells (tokens ++ [token]) := by
  rcases execute_ends ends with ⟨_, console, rfl⟩ |
    ⟨command, arguments, ending, left, console, called, inside, _, rfl, _⟩
  · exact .inl tells
  · rcases (enrolls_command command arguments).ends inside with same |
      ⟨argument, given, image, parsed, adds⟩
    · exact .inl (tells.congr same)
    · have named : NamedIn line (Text.encode image.commandLine) :=
        ⟨command, arguments, called, argument, given, image, parsed, rfl⟩
      exact .inr ⟨_, named, tells.append adds named.solid⟩

omit [Hardware ω] [PhysicalMemory μ] in
/-- Tokens are named in the lines of some turns, one in each, in order. -/
def NamedBy (turns : List (Turn ω μ)) (tokens : List Bytes) : Prop :=
  ∃ naming, naming.Sublist turns ∧
    List.Forall₂ (fun (turn : Turn ω μ) token => NamedIn turn.line token) naming tokens

/-- After some turns the argument string tells the programs apart, by names in the lines. -/
def Told (turns : List (Turn ω μ)) (loader : Loader ω μ) : Prop :=
  ∃ tokens, loader.page.Tells tokens ∧ NamedBy turns tokens

theorem told_turnOf (turns : List (Turn ω μ)) (line : String) (loader : Loader ω μ)
    (told : Told turns loader) :
    Told (turns ++ [turnOf line loader]) (turnOf line loader).after := by
  obtain ⟨tokens, tells, naming, among, named⟩ := told
  rcases execute_tells tells (ends_run (execute line) loader) with kept | ⟨token, here, more⟩
  · exact ⟨tokens, kept, naming, among.trans (List.sublist_append_left _ _), named⟩
  · exact ⟨tokens ++ [token], more, naming ++ [turnOf line loader],
      among.append (List.Sublist.refl _), List.rel_append named (.cons here .nil)⟩

/-- **The argument string and the programs agree.** On a page that was built by requests they list
the command lines of those programs whose registration was granted, in order. In a session there
is moreover one piece of the string for every program, whichever commands of the session succeed;
a line adds one program at most. -/
theorem arguments_tell_programs (memory : μ) :
    (∀ requests : List Request,
      let page := (afterAll requests (empty, memory)).1
      let commandLines := commandLines requests (empty, memory)
      page.programs.length = commandLines.length ∧ commandLines.length ≤ Capacity.programs ∧
      page.Enlists (commandLines.map Text.encode) ∧
      page.arguments.length ≤ Capacity.arguments - 1) ∧
    ∀ (board : Board) (devices : Devices ω) (patience : Nat) (outcome : Outcome BootError Unit)
      (loader : Loader ω μ),
      (start : BootAct ω μ Unit).Ends (ofParts board devices memory patience) outcome loader →
      ∀ (lines : List String) (earlier later : List (Turn ω μ)) (turn : Turn ω μ),
        session lines loader = earlier ++ turn :: later →
        ∃ tokens, turn.before.page.Tells tokens ∧ NamedBy earlier tokens ∧
          (turn.after.page.Tells tokens ∨
            ∃ token, NamedIn turn.line token ∧ turn.after.page.Tells (tokens ++ [token])) := by
  constructor
  · intro requests page lines
    have bounded : page.Bounded := bounded_afterAll memory requests
    have enlists : page.Enlists (lines.map Text.encode) := enlists_afterAll memory requests
    have same : page.programs.length = lines.length := by
      rw [enlists.programs.length_eq, List.length_map]
    exact ⟨same, same ▸ bounded.programs, enlists, Nat.le_sub_one_of_lt bounded.arguments⟩
  · intro board devices patience outcome loader started lines earlier later turn taken
    have begins : Told [] loader :=
      ⟨[], tells_empty.congr (listed_start.ends started), [], List.Sublist.refl [], .nil⟩
    obtain ⟨same, tokens, tells, named⟩ := session_turns Told told_turnOf begins taken
    refine ⟨tokens, tells, named, ?_⟩
    rw [same]
    exact execute_tells tells (ends_run (execute turn.line) turn.before)

/-- A second program is registered by a command that fails: its range is empty and cannot be
reserved. The argument string tells of it all the same. -/
theorem arguments_tell_stranded :
    ∃ (loader : Loader Bench.World IdentityMemory) (earlier : List (Turn _ _))
      (turn : Turn Bench.World IdentityMemory),
      (start : BootAct Bench.World IdentityMemory Unit).Ends
        (ofParts Board.standard imageBench IdentityMemory.zeros 0) (.done ()) loader ∧
      session ["map rom 0x8000000 0x8001000 rx", "phfs disk 4.0", "app disk x;y(0:2) rom",
        "app disk z(0:0) rom"] loader = earlier ++ [turn] ∧
      turn.outcome = .done .failure ∧
      turn.before.page.Tells [[0x78, 0x3b, 0x79]] ∧
      turn.after.page.Tells [[0x78, 0x3b, 0x79], [0x7a]] := by
  let loader := ((start : BootAct Bench.World IdentityMemory Unit).run
    (ofParts Board.standard imageBench IdentityMemory.zeros 0)).state
  let showing := turnOf "map rom 0x8000000 0x8001000 rx" loader
  let naming := turnOf "phfs disk 4.0" showing.after
  let first := turnOf "app disk x;y(0:2) rom" naming.after
  let stranding := turnOf "app disk z(0:0) rom" first.after
  have started : (start : BootAct Bench.World IdentityMemory Unit).Ends
      (ofParts Board.standard imageBench IdentityMemory.zeros 0) (.done ()) loader :=
    ⟨by decide +kernel, rfl⟩
  have taken : session ["map rom 0x8000000 0x8001000 rx", "phfs disk 4.0",
      "app disk x;y(0:2) rom", "app disk z(0:0) rom"] loader =
      [showing, naming, first] ++ stranding :: [] := rfl
  have before : stranding.before.page.arguments = [1, 0x78, 0x3b, 0x79, 0x20] := by decide +kernel
  have after : stranding.after.page.arguments = [1, 0x78, 0x3b, 0x79, 0x20, 0x7a, 0x20] := by
    decide +kernel
  obtain ⟨tokens, tells, _, grown⟩ := (arguments_tell_programs IdentityMemory.zeros).2
    Board.standard imageBench 0 _ loader started _ _ _ stranding taken
  obtain ⟨others, told⟩ : ∃ others, stranding.after.page.Tells others := by
    rcases grown with kept | ⟨token, _, more⟩
    · exact ⟨_, kept⟩
    · exact ⟨_, more⟩
  refine ⟨loader, _, stranding, started, taken, by decide +kernel, ?_, ?_⟩
  · have pieces := tells.pieces
    rw [before] at pieces
    obtain rfl : [[0x78, 0x3b, 0x79]] = tokens := List.append_cancel_right pieces
    exact tells
  · have pieces := told.pieces
    rw [after] at pieces
    obtain rfl : [[0x78, 0x3b, 0x79], [0x7a]] = others := List.append_cancel_right pieces
    exact told

end Loader

end Bootloader
