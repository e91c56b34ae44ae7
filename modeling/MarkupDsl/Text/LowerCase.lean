import MarkupDsl.Text.CaseTable

/-!
# Lower case

Full Unicode lower-casing.  Every character is lowered on its own, with two exceptions: the dotted
capital I becomes two characters, and a capital sigma that ends a word becomes the final sigma.
-/

namespace MarkupDsl.Text

def CaseRun.image? (run : CaseRun) (code : Nat) : Option Nat :=
  if run.first ≤ code ∧ code ≤ run.last ∧ (code - run.first) % run.step = 0 then
    some (run.image + (code - run.first))
  else none

def inRanges (ranges : List (Nat × Nat)) (code : Nat) : Bool :=
  ranges.any fun range => decide (range.1 ≤ code ∧ code ≤ range.2)

def lowerChar (c : Char) : List Char :=
  let code := c.toNat
  if code < 128 then
    if 'A' ≤ c ∧ c ≤ 'Z' then [Char.ofNat (code + 32)] else [c]
  else if code = 0x130 then ['i', Char.ofNat 0x307]
  else
    match caseRuns.findSome? (·.image? code) with
    | some image => [Char.ofNat image]
    | none => [c]

/-- Whether the nearest character that case analysis does not skip carries case. -/
def nearestCased (cs : List Char) : Bool :=
  match cs.dropWhile fun c => inRanges caseIgnorableRanges c.toNat with
  | [] => false
  | c :: _ => inRanges casedRanges c.toNat

def lowerAfter (before : List Char) : List Char → List Char
  | [] => []
  | c :: rest =>
    let image :=
      if c.toNat = 0x3A3 then
        if nearestCased before && !nearestCased rest then [Char.ofNat 0x3C2]
        else [Char.ofNat 0x3C3]
      else lowerChar c
    image ++ lowerAfter (c :: before) rest

def lower (s : String) : String :=
  String.ofList (lowerAfter [] s.toList)

/-- A text with its plain letters in lower case; other letters stay as they are. -/
def plainLower (s : String) : String := s.map Char.toLower

def IsLower (s : String) : Prop := lower s = s

instance (s : String) : Decidable (IsLower s) := inferInstanceAs (Decidable (_ = _))

end MarkupDsl.Text
