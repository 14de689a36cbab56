import Bacnet.Json.Scalar
import Bacnet.Json.Tree
import Bacnet.Template

set_option autoImplicit false

/-! # The text of a template

A template is a JSON text. A structure is an object with the members of the structure, each at
most once and others passed over, or an array of the members in order. Lists may be left out at
the end or as members. Arrays and objects that are read may be nested to a bound; what is passed
over need only be well formed. -/

namespace Bacnet

namespace TemplateText

open Json

/-- How deep arrays and objects may be nested. -/
def maxDepth : Nat := 127

/-- The value of the one member with a name; an absent member is nothing, several are a failure. -/
def member? (members : List (String × Tree)) (name : String) : Option (Option Tree) :=
  match members.filter (·.1 == name) with
  | [] => some none
  | [(_, value)] => some (some value)
  | _ :: _ :: _ => none

/-- The members of a structure in the order of their names, as far as they are there. -/
def fields? (names : List String) : Tree → Option (List (Option Tree))
  | .object members => do
    let members ← members.mapM fun (key, value) => (text? key).map (·, value)
    names.mapM (member? members)
  | .array items =>
    if names.length < items.length then none
    else some (items.map some ++ List.replicate (names.length - items.length) none)
  | _ => none

/-- The items of an array that may be absent. -/
def items? : Option Tree → Option (List Tree)
  | none => some []
  | some (.array items) => some items
  | some _ => none

def string? : Tree → Option String
  | .string parts => text? parts
  | _ => none

/-- A setting with arrays nested to a depth. -/
def setting? : (depth : Nat) → Tree → Option Setting
  | _, .boolean b => some (.boolean b)
  | _, .number n =>
    match Number.ofText? n with
    | some (.integer n) => some (.integer n)
    | some (.double bits) => some (.float (.ofNat bits))
    | none => none
  | _, .string parts => (text? parts).map .text
  | depth + 1, .array items => (items.mapM (setting? depth)).map .list
  | 0, .array _ | _, .null | _, .object _ => none

/-- A record, itself at a depth. -/
def record? (depth : Nat) (tree : Tree) : Option Record := do
  match ← fields? ["key", "value"] tree with
  | [some key, some value] => return ⟨← string? key, ← setting? depth value⟩
  | _ => none

/-- The records of an object, itself at a depth. -/
def objectRecord? (depth : Nat) (tree : Tree) : Option ObjectRecord := do
  match ← fields? ["object_type", "properties"] tree with
  | [some objectType, properties] =>
    return ⟨← string? objectType, ← (← items? properties).mapM (record? depth)⟩
  | _ => none

def template? (tree : Tree) : Option Template := do
  match ← fields? ["device", "objects"] tree with
  | [device, objects] =>
    return ⟨← (← items? device).mapM (record? (maxDepth - 3)),
      ← (← items? objects).mapM (objectRecord? (maxDepth - 5))⟩
  | _ => none

end TemplateText

/-- The template that a text spells. -/
def Template.ofText (text : String) : Except ConfigError Template :=
  match (Json.Tree.ofText? text.toList).bind TemplateText.template? with
  | some t => .ok t
  | none => .error .malformed

end Bacnet
