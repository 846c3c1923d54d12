import Mathlib.Data.List.DropRight
import Peraviz.Checked.Basic

/-!
This module contains the XML elements that the GDTF importer reads and the text fields of their
attributes: trimming, the complete numbers of `patch_number` and the permissive offset lists of
`parse_offsets`.
-/

namespace Peraviz.Gdtf

open CheckedInt

/-- An element of a parsed document, `handle` is its address in the document. -/
inductive XMLElement where
  | node (handle : Nat) (name : String) (attributes : List (String × String))
      (children : List XMLElement)

namespace XMLElement

def handle : XMLElement → Nat
  | node handle _ _ _ => handle

def name : XMLElement → String
  | node _ name _ _ => name

def attributes : XMLElement → List (String × String)
  | node _ _ attributes _ => attributes

def children : XMLElement → List XMLElement
  | node _ _ _ children => children

def attributeText (e : XMLElement) (name : String) : Option String :=
  e.attributes.lookup name

end XMLElement

def isSpace (c : Char) : Bool :=
  c == ' ' || (9 ≤ c.toNat && c.toNat ≤ 13)

theorem isDigit_iff {c : Char} : c.isDigit = true ↔ 48 ≤ c.toNat ∧ c.toNat ≤ 57 := by
  rw [Char.isDigit]
  simp only [ge_iff_le, Bool.and_eq_true, decide_eq_true_eq]
  rfl

theorem isSpace_of_isDigit {c : Char} (h : c.isDigit = true) : isSpace c = false := by
  rw [isDigit_iff] at h
  have hblank : c ≠ ' ' := by
    intro heq
    rw [heq] at h
    exact absurd h.1 (by decide)
  rw [isSpace, beq_false_of_ne hblank, Bool.false_or, Bool.and_eq_false_iff]
  apply Or.inr
  rw [decide_eq_false_iff_not]
  omega

def trimChars (cs : List Char) : List Char :=
  (cs.dropWhile isSpace).rdropWhile isSpace

def trimAscii (text : String) : String :=
  String.ofList (trimChars text.toList)

def lowerAscii (text : String) : String :=
  text.map Char.toLower

def patchAttribute (e : XMLElement) (name spelling : String) : Option String :=
  (e.attributeText name).or (e.attributeText spelling)

def readAttr (e : XMLElement) (upper lower : String) : String :=
  match patchAttribute e upper lower with
  | some value => trimAscii value
  | none => ""

mutual

/-- The elements of a tree with a name, in the order in which the stack of the search pops them:
the last child of an element comes first. -/
def collectElementsByName (wanted : String) : XMLElement → List XMLElement
  | .node handle name attributes children =>
    let found := if lowerAscii name = wanted then [.node handle name attributes children] else []
    found ++ collectFromChildren wanted children

def collectFromChildren (wanted : String) : List XMLElement → List XMLElement
  | [] => []
  | child :: children => collectFromChildren wanted children ++ collectElementsByName wanted child

end

def collectDirectChildrenByName (e : XMLElement) (wanted : String) : List XMLElement :=
  e.children.filter (fun child => lowerAscii child.name = wanted)

def decimal (digits : List Char) : Nat :=
  digits.foldl (fun n c => 10 * n + (c.toNat - 48)) 0

/-- `std::from_chars` at type `int`, when it ends at the end of the text. -/
def fromChars (cs : List Char) : Option Int32 :=
  match cs with
  | '-' :: digits =>
    if digits ≠ [] ∧ digits.all Char.isDigit = true then narrow (-decimal digits) else none
  | digits =>
    if digits ≠ [] ∧ digits.all Char.isDigit = true then narrow (decimal digits) else none

def patchNumber (raw : List Char) (minimum : Int32) : Option Int32 :=
  match fromChars (trimChars raw) with
  | some value => if minimum ≤ value then some value else none
  | none => none

/-- `std::strtol` in base ten at a 64 bit `long`, `none` where it reads no digit. -/
def strtol (cs : List Char) : Option Int :=
  let magnitude (rest : List Char) : Option Int :=
    let digits := rest.takeWhile Char.isDigit
    if digits = [] then none else some (decimal digits)
  match cs.dropWhile isSpace with
  | '-' :: rest => (magnitude rest).map (fun n => max (-n) (-9223372036854775808))
  | '+' :: rest => (magnitude rest).map (fun n => min n 9223372036854775807)
  | rest => (magnitude rest).map (fun n => min n 9223372036854775807)

def offsetPieces (rawOffset : String) : List (List Char) :=
  let offsetText := (trimChars rawOffset.toList).map (fun c => if c == ';' then ',' else c)
  (offsetText.splitOn ',').map trimChars

def offsetValue (piece : List Char) : Option Int :=
  if piece = [] then none else (strtol piece).filter (fun parsed => 0 < parsed)

def parseOffsets (rawOffset : String) : Option (List Int32) :=
  ((offsetPieces rawOffset).filterMap offsetValue).mapM narrow

end Peraviz.Gdtf
