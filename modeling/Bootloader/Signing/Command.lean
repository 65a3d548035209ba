import Bootloader.Signing.Image
import Bootloader.Trust.Base64

/-!
# The signing tool

The tool makes what the secure commands of the loader are given: the digest of a
file, the public key of a private one, and the signature inside of an image. A
private key is a file of thirty-two bytes, lowest byte first.
-/

set_option autoImplicit false

namespace Bootloader.Signing

open Trust (Algorithm Scalar)

/-- What the tool can be asked to do. -/
inductive Job where
  | digest (algorithm path : String)
  | publicKey (key : String)
  | sign (algorithm key image target : String)
  deriving DecidableEq, Repr

/-- The job that arguments ask for; an image is signed in place unless a target is named. -/
def Job.ofArguments? : List String → Option Job
  | ["digest", algorithm, path] => some (.digest algorithm path)
  | ["pubkey", key] => some (.publicKey key)
  | ["sign", algorithm, key, image] => some (.sign algorithm key image image)
  | ["sign", algorithm, key, image, target] => some (.sign algorithm key image target)
  | _ => none

/-- What the tool does, on a tree of files. -/
abbrev ToolAct (α : Type) := Act FileTree Refusal α

/-- Read a file. -/
def readFile (path : String) : ToolAct Bytes := do
  let tree ← Act.read
  Act.mapError .path (Act.ofExcept (tree.read path))

/-- Write a file. -/
def writeFile (path : String) (contents : Bytes) : ToolAct Unit := do
  let tree ← Act.read
  let written ← Act.mapError .path (Act.ofExcept (tree.write path contents))
  Act.put written

/-- Read a private key. -/
def readKey (path : String) : ToolAct Scalar := do
  let bytes ← readFile path
  if exact : bytes.length = Trust.scalarLength then return ⟨bytes, exact⟩
  else Act.fail (.keySize path)

/-- The algorithm of a word. -/
def algorithm (word : String) : ToolAct Algorithm :=
  Act.mapError .trust (Act.ofExcept (Algorithm.ofName word))

/-- Bytes as a line of base64. -/
def base64Line (bytes : Bytes) : String :=
  String.ofList (Trust.Base64.encode bytes) ++ "\n"

/-- Do a job and yield what is printed. -/
def Job.run : Job → ToolAct String
  | digest word path => do
      let algorithm ← algorithm word
      let contents ← readFile path
      return base64Line (Trust.digestOf algorithm contents).bytes
  | publicKey path => do
      let key ← readKey path
      let pair ← Act.mapError .trust (Act.ofExcept (Trust.publicKey key))
      return base64Line pair.toBytes
  | sign word keyPath imagePath target => do
      let algorithm ← algorithm word
      let key ← readKey keyPath
      let image ← readFile imagePath
      let signed ← Act.zoom (fun _ => ()) (fun _ tree => tree) (signImage image algorithm key)
      writeFile target signed
      return ""

/-- What a run leaves behind: its exit status, what it printed, and the files. -/
structure Report where
  status : Nat
  output : String
  complaint : String
  tree : FileTree

namespace Report

/-- The status of a run that did its job. -/
def success : Nat := 0

/-- The status of a run that refused. -/
def refused : Nat := 1

/-- The status of a run that broke off. -/
def broken : Nat := 101

end Report

/-- Run the tool on its arguments. -/
def execute (arguments : List String) (tree : FileTree) : Report :=
  let action : ToolAct String := do
    let job ← Act.ofOption .usage (Job.ofArguments? arguments)
    job.run
  let step := action.run tree
  match step.outcome with
  | .done output => ⟨Report.success, output, "", step.state⟩
  | .failed refusal => ⟨Report.refused, "", refusal.render, step.state⟩
  | .crashed => ⟨Report.broken, "", "the image cannot be signed\n", step.state⟩
  | .stalled => ⟨Report.broken, "", "the image cannot be signed\n", step.state⟩

end Bootloader.Signing
