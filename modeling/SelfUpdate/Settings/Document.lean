import SelfUpdate.Settings.Basic
import SelfUpdate.Text.Numeral
import SelfUpdate.Yaml.Node.Grammar
import SelfUpdate.Yaml.Token.Lexer

/-!
# Settings written in a document

A settings document is a mapping of sections, and a section a mapping of settings. A
section or setting that is left out has its default. Unknown keys are ignored, but a
known key may not occur twice.

A text can be written as any scalar. A number must be written plainly, in decimal
without leading zeros, or in one of three other bases.
-/

namespace SelfUpdate

open Yaml

/-- The number that some digits of a base spell, if it fits into 64 bits. -/
def digitsNumber (base : Nat) (digits : List Char) : Option UInt64 := do
  let number ← Text.numeral? base digits
  if number < UInt64.size then some (UInt64.ofNat number) else none

/-- The digits after the sign of a base, and the base. -/
def basedDigits : List Char → Option (Nat × List Char)
  | '0' :: 'x' :: digits => some (16, digits)
  | '0' :: 'o' :: digits => some (8, digits)
  | '0' :: 'b' :: digits => some (2, digits)
  | _ => none

/-- Whether digits have a leading zero that is not needed. -/
def hasLeadingZero : List Char → Bool
  | '0' :: _ :: _ => true
  | _ => false

/-- The text after a plus sign, if it begins with one. -/
def dropPlus : List Char → List Char
  | '+' :: rest => rest
  | text => text

/-- The number that a plain scalar spells. -/
def wholeNumber (text : String) : Option UInt64 :=
  let text := dropPlus text.toList
  match basedDigits text with
  | some (base, digits) => digitsNumber base digits
  | none => if hasLeadingZero text then none else digitsNumber 10 text

/-- A document with its anchored nodes. -/
structure SettingsDocument where
  root : Yaml.Node
  anchors : List (Nat × Yaml.Node)

namespace SettingsDocument

def ofRoot (root : Yaml.Node) : SettingsDocument :=
  ⟨root, root.anchors⟩

def text (document : SettingsDocument) (node : Yaml.Node) : Option String := do
  match ← node.target document.anchors with
  | .scalar text _ => some text
  | _ => none

def number (document : SettingsDocument) (node : Yaml.Node) : Option UInt64 := do
  match ← node.target document.anchors with
  | .scalar text true => wholeNumber text
  | _ => none

/-- The entries of a node that is a mapping. A node that is not written at all is an empty
one. -/
def entries (document : SettingsDocument) (node : Yaml.Node) :
    Option (List (Yaml.Node × Yaml.Node)) := do
  match ← node.target document.anchors with
  | .mapping entries => some entries
  | .scalar "" true => some []
  | _ => none

/-- The values in a mapping by their keys, for the keys of a list. None of these may occur
twice, and every key must be a text. -/
def fields (document : SettingsDocument) (keys : List String) (node : Yaml.Node) :
    Option (List (String × Yaml.Node)) := do
  let entries ← document.entries node
  let entries ← entries.mapM fun (key, value) => do return (← document.text key, value)
  let known := entries.filter fun (key, _) => keys.contains key
  if (known.map Prod.fst).Nodup then some known else none

/-- Read the value of a key, or take the default without the key. -/
def field {α : Type} (fields : List (String × Yaml.Node)) (key : String)
    (read : Yaml.Node → Option α) (default : α) : Option α :=
  match fields.lookup key with
  | some node => read node
  | none => some default

/-- Read the section with the network settings. -/
def network (document : SettingsDocument) (node : Yaml.Node) : Option NetworkSettings := do
  let keys := ["http-timeout-secs", "download-timeout-secs", "user-agent"]
  let fields ← document.fields keys node
  let default := NetworkSettings.default
  return {
    httpTimeout := ← field fields "http-timeout-secs" document.number default.httpTimeout
    downloadTimeout :=
      ← field fields "download-timeout-secs" document.number default.downloadTimeout
    userAgent := ← field fields "user-agent" document.text default.userAgent }

/-- Read the section with the release settings. -/
def release (document : SettingsDocument) (node : Yaml.Node) : Option ReleaseSettings := do
  let keys := ["download-url", "api-url", "repo-owner", "repo-name"]
  let fields ← document.fields keys node
  let default := ReleaseSettings.default
  return {
    downloadUrl := ← field fields "download-url" document.text default.downloadUrl
    apiUrl := ← field fields "api-url" document.text default.apiUrl
    repositoryOwner := ← field fields "repo-owner" document.text default.repositoryOwner
    repositoryName := ← field fields "repo-name" document.text default.repositoryName }

def settings (document : SettingsDocument) : Option Settings := do
  let fields ← document.fields ["network", "release"] document.root
  return {
    network := ← field fields "network" document.network .default
    release := ← field fields "release" document.release .default }

end SettingsDocument

/-- The settings that a text describes; a text without a document leaves all at their
defaults. -/
def Settings.ofText? (text : String) : Option Settings := do
  let root ← Yaml.Node.ofTokens? (← Token.scan text)
  (SettingsDocument.ofRoot (root.getD .absent)).settings

end SelfUpdate
